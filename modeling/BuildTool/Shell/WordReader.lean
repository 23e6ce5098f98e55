import BuildTool.Shell.Command

/-!
# Reading words

Words end at blanks and operators outside of quotes. Single quotes keep everything, double
quotes all but `$`, backquotes and a backslash before one of `$`, a backquote, a double quote, a
backslash or a line end. A dollar sign begins a parameter, the output of commands or an
arithmetic expression.

How commands inside of words are read is a parameter. The readers take fuel, which the length
of the script bounds.
-/

/-!
## Positions in scripts

A cursor stands in the text of a script. It counts lines, keeps the here-documents that were
announced but not yet read and those that were, and knows the aliases, whose texts are put in
front of the rest of the script. One token can be put back.
-/

namespace BuildTool.Shell

inductive Token
  | word (w : Word)
  | keyword (s : String)
  | operator (s : String)
  | redirection (stream : Nat) (mode : FileMode)
  | copying (stream : Nat)
  | announcement (stream : Nat) (strips : Bool)
  | newline
  | finish

/-- A here-document that has been announced: its number, what ends it, whether substitutions are
made in it, and whether tabs in front of its lines are dropped. -/
structure Announced where
  number : Nat
  delimiter : List Char
  substitutes : Bool
  strips : Bool

/-- An alias at work: its text ends where that many characters of the script are left. -/
structure ActiveAlias where
  name : String
  left : Nat
  widens : Bool

structure Cursor where
  text : List Char
  line : Nat := 1
  pushed : Option Token := none
  announced : List Announced := []
  documents : List (Nat × Word) := []
  nextDocument : Nat := 0
  aliases : List (String × String) := []
  active : List ActiveAlias := []
  document : Option Announced := none

abbrev Reader := StateT Cursor (Except SyntaxFault)

namespace Cursor

/-- Goes past line ends that a backslash takes away. -/
def joined (c : Cursor) : Cursor :=
  let (text, lines) := skip c.text 0
  { c with text, line := c.line + lines }
  where
    /-- The text behind such line ends, and how many there were. -/
    skip : List Char → Nat → List Char × Nat
      | '\\' :: '\n' :: rest, lines => skip rest (lines + 1)
      | text, lines => (text, lines)

def inDocument (c : Cursor) : Bool := c.document.isSome

/-- Goes past a number of characters. -/
def advance (c : Cursor) (n : Nat) : Cursor :=
  { c with text := c.text.drop n, line := c.line + (c.text.take n).count '\n' }

end Cursor

def faultHere {α : Type} (text : String) : Reader α := do
  throw ⟨(← get).line, text⟩

/-- The next character, line ends behind backslashes left out; it is not taken. -/
def peek : Reader (Option Char) := do
  modify Cursor.joined
  return (← get).text.head?

/-- Takes the next character. -/
def drop : Reader Unit := modify (Cursor.advance · 1)

/-- Takes the next characters of a kind. -/
def takeWhile (p : Char → Bool) : Nat → Reader (List Char)
  | 0 => return []
  | fuel + 1 => do
    match ← peek with
    | some c =>
      if p c then
        drop
        return c :: (← takeWhile p fuel)
      else return []
    | none => return []

/-- A bound for the characters that are left. -/
def left : Reader Nat := return (← get).text.length

def takeAll (p : Char → Bool) : Reader (List Char) := do takeWhile p ((← left) + 1)

end BuildTool.Shell

/-! ## Words -/

namespace BuildTool.Shell

/-- Where the parts of a word stand, which decides what is special and what ends them. `nested`
quotes stand between braces; nothing is substituted in the delimiter of a here-document. -/
inductive Context
  | plain
  | delimiter
  | quotes (nested : Bool)
  | delimiterQuotes
  | braces
  | quotedBraces
  | arithmetic
  | document
  deriving DecidableEq

namespace Context

/-- What substitutions give is not split there. -/
def isQuoted : Context → Bool
  | .plain | .delimiter | .braces => false
  | .quotes _ | .delimiterQuotes | .quotedBraces | .arithmetic | .document => true

/-- Parameters and commands are put in their place there. -/
def substitutes : Context → Bool
  | .delimiter | .delimiterQuotes => false
  | _ => true

def quoted : Context → Context
  | .delimiter => .delimiterQuotes
  | .braces | .quotedBraces => .quotes true
  | _ => .quotes false

/-- A backslash in quotes also takes away the meaning of this character. -/
def escapes (context : Context) (c : Char) : Bool :=
  c == '\\' || c == '\x60' || c == '$' ||
    (c == '"' && context != .document) ||
    (c == '\x7d' && (context == .quotedBraces || context == .quotes true))

/-- The context between the braces of a parameter; a pattern to be taken away has quotes of its
own. -/
def inner (context : Context) (isPattern : Bool) : Context :=
  if isPattern || !context.isQuoted then .braces else .quotedBraces

end Context

def endsWord (c : Char) : Bool := " \t\n;&|<>()".toList.contains c

def isSpecialName (c : Char) : Bool := "!#$*-?@".toList.contains c || c.isDigit

/-- How commands inside of words are read: those behind a parenthesis up to the one that closes
it, and those in the text between backquotes. -/
structure Inside where
  parenthesized : Reader Command
  backquoted : List Char → Reader Command

/-- The complaint about a quotation that is not closed. -/
def openQuote : String := "Unterminated quoted string"

/-- Takes the text up to the closing single quote, and the quote. -/
def singleQuoted : Reader String := do
  let c ← get
  let inside := c.text.takeWhile (· != '\x27')
  set (c.advance inside.length)
  if (← get).text = [] then faultHere openQuote
  drop
  return String.ofList inside

/-- Takes the text up to the closing backquote, with the backslashes taken off that stand
before special characters, and the backquote. -/
def backquotedText (quoted : Bool) : Nat → Reader (List Char)
  | 0 => faultHere "EOF in backquote substitution"
  | fuel + 1 => do
    match ← peek with
    | none => faultHere "EOF in backquote substitution"
    | some '\x60' =>
      drop
      return []
    | some '\\' =>
      drop
      match (← get).text with
      | [] => faultHere "EOF in backquote substitution"
      | d :: _ =>
        drop
        let rest ← backquotedText quoted fuel
        if d = '\\' ∨ d = '\x60' ∨ d = '$' ∨ (quoted ∧ d = '"') then return d :: rest
        else return '\\' :: d :: rest
    | some d =>
      drop
      return d :: (← backquotedText quoted fuel)

/-- What stands at the beginning of a braced parameter: its name, and what is done with it; a
word follows up to the closing brace, which decides what becomes of it. A colon before the brace
leaves the parameter closed, but its word is still to come. -/
inductive Opening
  | closed
  | closedEarly
  | length
  | unknown
  | alternative (whenSet orEmpty : Bool)
  | assignment (orEmpty : Bool)
  | demand (orEmpty : Bool)
  | trim (atEnd longest : Bool)

/-- Takes the next character as part of a name, where line ends do not count. -/
def pass : Reader Unit := modify fun c => { c with text := c.text.tail }

/-- Reads what follows the name of a braced parameter. -/
def opening : Reader Opening := do
  match ← peek with
  | some '%' =>
    drop
    if (← peek) = some '%' then
      drop
      return .trim true true
    else return .trim true false
  | some '#' =>
    drop
    if (← peek) = some '#' then
      drop
      return .trim false true
    else return .trim false false
  | some c =>
    let orEmpty := c == ':'
    if orEmpty then drop
    match ← peek with
    | some '\x7d' =>
      drop
      return if orEmpty then .closedEarly else .closed
    | some '-' =>
      drop
      return .alternative false orEmpty
    | some '+' =>
      drop
      return .alternative true orEmpty
    | some '?' =>
      drop
      return .demand orEmpty
    | some '=' =>
      drop
      return .assignment orEmpty
    | some _ =>
      pass
      return .unknown
    | none => return .unknown
  | none => return .unknown

/-- Reads the name of a parameter and what is done with it, behind an opening brace. -/
def bracedName : Reader (String × Opening) := do
  match ← peek with
  | none => return ("", .unknown)
  | some c =>
    if isNameStart c then
      let name ← takeAll isNameChar
      return (String.ofList name, ← opening)
    else if c.isDigit then
      let name ← takeAll Char.isDigit
      return (String.ofList name, ← opening)
    else if c = '\x7d' then return ("", .unknown)
    else
      pass
      if c = '#' then
        let next ← peek
        if next.any isNameStart then
          let name ← takeAll isNameChar
          return (String.ofList name, if (← peek) = some '\x7d' then .length else .unknown)
        else if next.any Char.isDigit then
          let name ← takeAll Char.isDigit
          return (String.ofList name, if (← peek) = some '\x7d' then .length else .unknown)
        else if next ≠ some '\x7d' ∧ next.isSome then
          let start ← get
          pass
          if (← peek) = some '\x7d' then
            let d := next.getD ' '
            return (String.singleton d, if isSpecialName d then .length else .unknown)
          else
            set start
            return ("#", ← opening)
        else return ("#", ← opening)
      else if isSpecialName c then return (String.singleton c, ← opening)
      else return ("", .unknown)

def Opening.use (o : Opening) (w : Word) : Use :=
  match o with
  | .closed | .closedEarly => .value
  | .length => .length
  | .unknown => .unknown
  | .alternative whenSet orEmpty => .alternative whenSet orEmpty w
  | .assignment orEmpty => .assignment orEmpty w
  | .demand orEmpty => .demand orEmpty w
  | .trim atEnd longest => .trim atEnd longest w

/-- A part that holds a word, with the parts that follow. A word ends at an excess brace: what is
behind it follows the part, and the brace that closes it is one in excess. -/
def enclosed (part : Word → Part) (word : Word) : Word :=
  match word.span fun p => match p with
      | .excess => false
      | _ => true with
  | (word, .excess :: rest) => part word :: rest ++ [.excess]
  | (word, _) => [part word]

/-- The parts of a quotation. The parameters of the script on their own need no marks: without
parameters there is no word. -/
def quotation (parts : Word) : Word :=
  match parts with
  | [.parameter "@" .value _] => parts
  | parts => .mark :: parts ++ [.mark]

/-- Goes past the tabs in front of a line of a here-document, if that is asked for, and past its
delimiter if that is the line. Nothing is left at the end of the script either. -/
def documentEnds (a : Announced) : Reader Bool := do
  if a.strips then modify fun c => c.advance (c.text.takeWhile (· == '\t')).length
  let c ← get
  let line := c.text.takeWhile (· != '\n')
  if line = a.delimiter then
    set (c.advance (line.length + 1))
    return true
  else return c.text.isEmpty

/-- What there is to say when the script or here-document ends inside of a word. -/
def Context.fault? (context : Context) (inDocument : Bool) : Option String :=
  match context with
  | .plain | .delimiter | .document => none
  | .quotes _ | .delimiterQuotes | .quotedBraces => some (if inDocument then "Missing '\x7d'" else openQuote)
  | .braces => some "Missing '\x7d'"
  | .arithmetic => some "Missing '))'"

def endParts (context : Context) : Reader Word := do
  match context.fault? (← get).inDocument with
  | some text => faultHere text
  | none => return []

mutual

/-- Reads the parts of a word up to what ends them, which is left. -/
def readParts (inside : Inside) (context : Context) : Nat → Reader Word
  | 0 => faultHere openQuote
  | fuel + 1 => do
    let document := (← get).document
    match ← peek with
    | none => endParts context
    | some c =>
      let isPlain := context == .plain || context == .delimiter
      let inBraces := context == .braces || context == .quotedBraces
      let isLineEnd (d : Char) : Bool := d == '\n' && document.isSome
      let text (ds : List Char) (parts : Word) : Word :=
        if context.isQuoted then .quoted (String.ofList ds) :: parts else literalParts ds parts
      if isPlain ∧ endsWord c then return []
      else if isLineEnd c then
        if context = .document then return []
        else
          drop
          let ended ← match document with
            | some a => documentEnds a
            | none => pure false
          if ended then endParts context
          else return text [c] (← readParts inside context fuel)
      else if inBraces ∧ c = '\x7d' then return []
      else if c = '$' ∧ context.substitutes then
        drop
        let part ← readDollar inside context fuel
        return part ++ (← readParts inside context fuel)
      else if c = '\x60' ∧ context.substitutes then
        drop
        let script ← backquotedText context.isQuoted ((← left) + 1)
        let command ← inside.backquoted script
        return .output command context.isQuoted :: (← readParts inside context fuel)
      else if c = '\\' then
        drop
        match (← get).text with
        | [] => return .quoted "\\" :: (← endParts context)
        | d :: _ =>
          drop
          let kept := context.isQuoted && !context.escapes d
          let s := if kept then String.ofList ['\\', d] else String.singleton d
          return .quoted s :: (← readParts inside context fuel)
      else if c = '\x27' ∧ (isPlain ∨ context = .braces) then
        drop
        let s ← singleQuoted
        return .mark :: .quoted s :: .mark :: (← readParts inside context fuel)
      else if c = '"' then
        match context with
        | .quotes _ | .delimiterQuotes => return []
        | .arithmetic | .document =>
          drop
          return text [c] (← readParts inside context fuel)
        | _ =>
          drop
          let parts ← readParts inside context.quoted fuel
          drop
          return quotation parts ++ (← readParts inside context fuel)
      else if context = .arithmetic ∧ c = '(' then
        drop
        let parts ← readParts inside context fuel
        if (← peek) = some ')' then drop
        return text ['('] (parts ++ text [')'] (← readParts inside context fuel))
      else if context = .arithmetic ∧ c = ')' then return []
      else
        let stops (d : Char) : Bool :=
          d == '$' || d == '\x60' || d == '\\' || d == '"' || d == '\x27' || d == '\x7d' ||
            ((isPlain || context == .arithmetic) && endsWord d) || isLineEnd d
        drop
        let run ← takeAll (!stops ·)
        return text (c :: run) (← readParts inside context fuel)

/-- Reads what follows a dollar sign. -/
def readDollar (inside : Inside) (context : Context) : Nat → Reader Word
  | 0 => faultHere openQuote
  | fuel + 1 => do
    let quoted := context.isQuoted
    let sign : Word := if quoted then [.quoted "$"] else [.literal "$"]
    match ← peek with
    | none => return sign
    | some c =>
      if c = '(' then
        drop
        if (← peek) = some '(' then
          drop
          let expression ← readArithmetic inside fuel
          return enclosed (.arithmetic · quoted) expression
        else
          let command ← inside.parenthesized
          return [.output command quoted]
      else if c = '\x7b' then
        drop
        let (name, o) ← bracedName
        match o with
        | .closed => return [.parameter name .value quoted]
        | .closedEarly =>
          let w ← readParts inside (context.inner false) fuel
          drop
          return .parameter name .value quoted :: w ++ [.excess]
        | o =>
          let isPattern := match o with
            | .trim .. => true
            | _ => false
          let w ← readParts inside (context.inner isPattern) fuel
          drop
          return enclosed (fun w => .parameter name (o.use w) quoted) w
      else if isNameStart c then
        let name ← takeAll isNameChar
        return [.parameter (String.ofList name) .value quoted]
      else if isSpecialName c then
        drop
        return [.parameter (String.singleton c) .value quoted]
      else return sign

/-- Reads an expression up to its two closing parentheses, and these. A closing parenthesis on
its own belongs to the expression. -/
def readArithmetic (inside : Inside) : Nat → Reader Word
  | 0 => faultHere "Missing '))'"
  | fuel + 1 => do
    let parts ← readParts inside .arithmetic fuel
    drop
    if (← peek) = some ')' then
      drop
      return parts
    else return parts ++ .quoted ")" :: (← readArithmetic inside fuel)

end

end BuildTool.Shell
