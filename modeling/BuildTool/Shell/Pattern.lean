/-!
# Shell patterns

`?` stands for any character, `*` for any text, `[a-z[:digit:]]` for one of some characters and
`[!a-z]` for any other. A quoted character and one after a backslash stand for themselves, and
so does a bracket that is not closed. Patterns and texts are octet texts.
-/

namespace BuildTool.Shell

abbrev Glyph := Char × Bool

def unquoted (text : List Char) : List Glyph := text.map fun c => (c, false)

/-- Takes backslashes away; what follows one counts as quoted. -/
def withoutBackslashes : List Glyph → List Glyph
  | ('\\', false) :: (c, _) :: rest => (c, true) :: withoutBackslashes rest
  | g :: rest => g :: withoutBackslashes rest
  | [] => []

inductive Member
  | range (low high : Char)
  | kind (holds : Char → Bool)

inductive PatternItem
  | char (c : Char)
  | anyChar
  | anyText
  | oneOf (inverted : Bool) (members : List Member)

/-- Characters with a sign of their own that are neither letters nor digits. -/
def isPunctuation (c : Char) : Bool := '!' ≤ c && c ≤ '~' && !c.isAlphanum

/-- The kinds of characters by their names in brackets. -/
def characterKinds : List (String × (Char → Bool)) :=
  [("alnum", Char.isAlphanum), ("alpha", Char.isAlpha), ("blank", fun c => c == ' ' || c == '\t'),
    ("cntrl", fun c => c < ' ' || c == '\x7f'), ("digit", Char.isDigit),
    ("graph", fun c => '!' ≤ c && c ≤ '~'), ("lower", Char.isLower),
    ("print", fun c => ' ' ≤ c && c ≤ '~'), ("punct", isPunctuation),
    ("space", fun c => c == ' ' || ('\t' ≤ c && c ≤ '\r')), ("upper", Char.isUpper),
    ("xdigit", fun c => c.isDigit || ('a' ≤ c && c ≤ 'f') || ('A' ≤ c && c ≤ 'F'))]

/-- Takes a text of characters that are not quoted. -/
def afterUnquoted? : List Char → List Glyph → Option (List Glyph)
  | [], gs => some gs
  | c :: text, (d, false) :: gs => if c = d then afterUnquoted? text gs else none
  | _ :: _, _ => none

/-- The kind of characters that is named after a bracket, and what follows its closing. -/
def kindAfter? (gs : List Glyph) : Option ((Char → Bool) × List Glyph) :=
  characterKinds.findSome? fun (name, holds) =>
    (afterUnquoted? ((":" ++ name ++ ":]").toList) gs).map fun rest => (holds, rest)

/-- Reads the members of a bracket up to its closing; a closing bracket that comes first is a
member. `fuel` is the length of the text. -/
def members : Nat → List Glyph → Option (List Member × List Glyph)
  | 0, _ | _ + 1, [] => none
  | fuel + 1, g :: rest =>
    let more (m : Member) (rest : List Glyph) : Option (List Member × List Glyph) :=
      match rest with
      | (']', false) :: after => some ([m], after)
      | rest => (members fuel rest).map fun p => (m :: p.1, p.2)
    match if g = ('[', false) then kindAfter? rest else none with
    | some (holds, rest) => more (.kind holds) rest
    | none =>
      match rest with
      | ('-', false) :: high :: after =>
        if high = (']', false) then more (.range g.1 g.1) rest
        else more (.range g.1 high.1) after
      | rest => more (.range g.1 g.1) rest

/-- Reads what follows an opening bracket. -/
def bracket? (gs : List Glyph) : Option (PatternItem × List Glyph) :=
  match gs with
  | ('!', false) :: rest => (members rest.length rest).map fun p => (.oneOf true p.1, p.2)
  | _ => (members gs.length gs).map fun p => (.oneOf false p.1, p.2)

/-- The pieces of a pattern; `fuel` is its length. -/
def itemsFrom : Nat → List Glyph → List PatternItem
  | 0, _ | _ + 1, [] => []
  | fuel + 1, (c, quoted) :: rest =>
    if quoted then .char c :: itemsFrom fuel rest
    else if c = '?' then .anyChar :: itemsFrom fuel rest
    else if c = '*' then .anyText :: itemsFrom fuel rest
    else if c = '[' then
      match bracket? rest with
      | some (item, after) => item :: itemsFrom fuel after
      | none => .char c :: itemsFrom fuel rest
    else .char c :: itemsFrom fuel rest

def pattern (gs : List Glyph) : List PatternItem :=
  let gs := withoutBackslashes gs
  itemsFrom gs.length gs

/-- Where a byte stands in the order of bytes with a sign. -/
def signedOrder (c : Char) : Int := if c.toNat < 128 then c.toNat else (c.toNat : Int) - 256

def Member.holds (c : Char) : Member → Bool
  | .range low high =>
    decide (signedOrder low ≤ signedOrder c) && decide (signedOrder c ≤ signedOrder high)
  | .kind holds => holds c

/-- The texts that are left when something was taken from the beginning of a text. -/
def endsOf : List Char → List (List Char)
  | [] => [[]]
  | c :: text => (c :: text) :: endsOf text

def matchesPattern : List PatternItem → List Char → Bool
  | [], text => text.isEmpty
  | .anyText :: items, text => (endsOf text).any (matchesPattern items)
  | .char c :: items, text =>
    match text with
    | d :: rest => c == d && matchesPattern items rest
    | [] => false
  | .anyChar :: items, text =>
    match text with
    | _ :: rest => matchesPattern items rest
    | [] => false
  | .oneOf inverted members :: items, text =>
    match text with
    | d :: rest => (members.any (Member.holds d) != inverted) && matchesPattern items rest
    | [] => false

/-! ## Ends that a pattern takes away

A zero character stands between parameters that are joined. What is compared with a pattern ends
there, and the shortest beginning and the longest end are looked for in front of the first one
only. -/

def matchesUpToZero (items : List PatternItem) (text : List Char) : Bool :=
  matchesPattern items (text.takeWhile (· != '\x00'))

/-- The numbers of characters that can be cut off, least first. -/
def cutsUpTo (n : Nat) : List Nat := List.range (n + 1)

/-- The number of characters in front of the first zero character. -/
def lengthUpToZero (text : List Char) : Nat := (text.takeWhile (· != '\x00')).length

/-- Removes the shortest or longest beginning that a pattern stands for. -/
def withoutStart (items : List PatternItem) (longest : Bool) (text : List Char) : List Char :=
  let holds (n : Nat) : Bool := matchesUpToZero items (text.take n)
  match if longest then (cutsUpTo text.length).reverse.find? holds
    else (cutsUpTo (lengthUpToZero text)).find? holds with
  | some n => text.drop n
  | none => text

/-- Removes the shortest or longest end that a pattern stands for. -/
def withoutEnd (items : List PatternItem) (longest : Bool) (text : List Char) : List Char :=
  let holds (n : Nat) : Bool := matchesUpToZero items (text.drop n)
  match if longest then (cutsUpTo (lengthUpToZero text)).find? holds
    else (cutsUpTo text.length).reverse.find? holds with
  | some n => text.take n
  | none => text

end BuildTool.Shell
