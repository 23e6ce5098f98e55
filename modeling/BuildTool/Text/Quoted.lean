import BuildTool.Text.Property

/-!
# Quoted text

Messages show a name or a command between double quotes, with every character that would not
show as itself written as an escape:

    quoted "a\tb"  is  "a\tb" with the two characters \t
    quoted of U+0301  is  \u and the code point in braces
-/

namespace BuildTool.Text

/-!
## Printable characters

Controls, format characters, separators, what is unassigned or private, and the fillers that take
no room have no form of their own; marks that extend another character have none without it.
-/

/-- Characters without a visible form. -/
def invisibleCodes : CodeSet :=
  Property.ofCategories
    [.control, .format, .privateUse, .unassigned, .line, .paragraph, .space] ∪
    CodeSet.ofCodes [0x115F, 0x1160, 0x3164, 0xFFA0]

/-- The character has a visible form that stands alone. -/
def isPrintable (c : Char) : Bool :=
  if c.toNat < 127 then 32 ≤ c.toNat
  else !invisibleCodes.contains c && !Property.graphemeExtend.contains c

/-! ## Quoting -/

/-- The code point in lower-case hexadecimal, without leading zeros. -/
def hexCode (n : Nat) : List Char := Nat.toDigits 16 n

/-- How one character is written between double quotes. -/
def quotedChar (c : Char) : List Char :=
  if c == '\x00' then ['\\', '0']
  else if c == '\t' then ['\\', 't']
  else if c == '\r' then ['\\', 'r']
  else if c == '\n' then ['\\', 'n']
  else if c == '"' then ['\\', '"']
  else if c == '\\' then ['\\', '\\']
  else if isPrintable c then [c]
  else ['\\', 'u', '{'] ++ hexCode c.toNat ++ ['}']

/-- The text between double quotes, escaped. -/
def quoted (s : String) : String :=
  String.ofList ('"' :: s.toList.flatMap quotedChar ++ ['"'])

def quotedSingle (c : Char) : String :=
  if c == '\x27' then "'\\''"
  else if c == '"' then "'\"'"
  else "'" ++ String.ofList (quotedChar c) ++ "'"

/-- Quoted texts in brackets, separated by a comma and a space. -/
def quotedList (words : List String) : String :=
  "[" ++ ", ".intercalate (words.map quoted) ++ "]"

end BuildTool.Text

/-!
## Words quoted for a shell

A text is written so that a shell reads it back as one word: as it is where nothing in it is
special, else between quotation marks, with the escapes of a dollar quotation for characters
that cannot be printed. Texts are octet texts.

    a b    it's    line and line end
    'a b'  "it's"  'line and line end'$'\n'
-/

namespace BuildTool.Text

/-- Characters that stand for themselves in a shell word. -/
def isPlainInShell (c : Char) : Bool :=
  c.isAlphanum || "%+,-./:]_@".toList.contains c

/-- Characters that are escaped: those that cannot be printed. -/
def isEscapedInShell (c : Char) : Bool := c.toNat < 32 || 127 ≤ c.toNat

def shellEscape (c : Char) : List Char :=
  match c with
  | '\x07' => ['\\', 'a']
  | '\x08' => ['\\', 'b']
  | '\x09' => ['\\', 't']
  | '\x0a' => ['\\', 'n']
  | '\x0b' => ['\\', 'v']
  | '\x0c' => ['\\', 'f']
  | '\x0d' => ['\\', 'r']
  | c =>
    let digit (n : Nat) : Char := Char.ofNat ('0'.toNat + n % 8)
    ['\\', digit (c.toNat / 64), digit (c.toNat / 8), digit c.toNat]

/-- The text makes a quotation necessary: it is empty or holds something special. A tilde and a
hash sign are special at the beginning, a brace where it stands alone. -/
def needsShellQuotes (text : List Char) : Bool :=
  match text with
  | [] => true
  | ['\x7b'] | ['\x7d'] => true
  | first :: rest =>
    let plain (c : Char) : Bool := isPlainInShell c || c == '\x7b' || c == '\x7d'
    !plain first || rest.any fun c => !(plain c || c == '~' || c == '#')

/-- Characters that mean the same between single and between double quotation marks. -/
def isCompatible (c : Char) : Bool :=
  isPlainInShell c || c == ' ' || c == '\x27'

/-- The characters that a single quotation writes for each character; `escaping` tells whether
a dollar quotation is open. -/
def singleQuoted : Bool → List Char → List Char
  | _, [] => ['\x27']
  | escaping, c :: rest =>
    if isEscapedInShell c then
      (if escaping then [] else ['\x27', '$', '\x27']) ++ shellEscape c ++ singleQuoted true rest
    else if c = '\x27' then ['\x27', '\\', '\x27', '\x27'] ++ singleQuoted false rest
    else (if escaping then ['\x27', '\x27', c] else [c]) ++ singleQuoted false rest

/-- The text in quotation marks. A text with a single quotation mark stands between double ones
if nothing else in it is special. -/
def shellQuotation (text : List Char) : List Char :=
  if text.contains '\x27' then
    if text.all isCompatible then '"' :: text ++ ['"']
    else
      let opened := text.getLast?.any isEscapedInShell
      '\x27' :: singleQuoted opened text
  else '\x27' :: singleQuoted false text

def rawShellQuotation (text : List Char) : List Char :=
  if text.contains '\x27' ∧ text.all isCompatible then '"' :: text ++ ['"']
  else
    '\x27' :: (text.flatMap fun c =>
      if c = '\x27' then ['\x27', '\\', '\x27', '\x27'] else [c]) ++ ['\x27']

/-- The text as a shell word with all characters as they are. Of those that cannot be printed
only tabs and line ends are special. -/
def rawShellWord (text : List Char) : List Char :=
  let isQuiet (c : Char) : Bool := isEscapedInShell c && c != '\t' && c != '\n' && c != '\r'
  if needsShellQuotes (text.map fun c => if isQuiet c then 'a' else c) then rawShellQuotation text
  else text

def shellWord (text : List Char) : List Char :=
  if needsShellQuotes text then shellQuotation text else text

/-- The text as a shell word in which colons are special too. -/
def shellWordInMessage (text : List Char) : List Char :=
  if needsShellQuotes text || text.contains ':' then shellQuotation text else text

/-- The text between single quotation marks as messages show it, with escapes for quotation
marks, backslashes and what cannot be printed. -/
def messageQuotation (text : List Char) : List Char :=
  '\x27' :: (text.flatMap fun c =>
    if c = '\x27' ∨ c = '\\' then ['\\', c]
    else if isEscapedInShell c then shellEscape c
    else [c]) ++ ['\x27']

end BuildTool.Text
