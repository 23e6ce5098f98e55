import BuildTool.Regex.Syntax
import BuildTool.Text.Split

/-!
# Reading escapes

What follows a backslash: characters by their code or by a letter, classes, properties and places.
-/

/-!
## Going through a pattern

A reader works on the rest of the pattern and knows the place it has come to, whether blanks
count, and the groups that have been opened. It gives a result or a fault.
-/

namespace BuildTool.Regex

/-- What a reader works on. -/
structure Cursor where
  rest : List Char
  place : Place := {}
  spaced : Bool := false
  groups : Nat := 0
  names : List (String × Nat × Span) := []

abbrev Read := StateT Cursor (Except Fault)

def fault {α : Type} (flaw : Flaw) (span : Span) (other : Option Span) : Read α :=
  throw ⟨flaw, span, other⟩

def faultBetween {α : Type} (flaw : Flaw) (first last : Place) : Read α :=
  fault flaw ⟨first, last⟩ none

def Cursor.next (s : Cursor) : Cursor :=
  match s.rest with
  | [] => s
  | c :: rest => { s with rest := rest, place := s.place.after c }

def Cursor.advance : Nat → Cursor → Cursor
  | 0, s => s
  | n + 1, s => Cursor.advance n s.next

/-- The length of the blanks and comments that a text begins with. -/
def skippedLength : Nat → List Char → Nat
  | 0, _ => 0
  | _ + 1, [] => 0
  | fuel + 1, c :: rest =>
    if Text.isBlank c then skippedLength fuel rest + 1
    else if c = '#' then
      let comment := (c :: rest).takeWhile (· != '\n')
      skippedLength fuel ((c :: rest).drop comment.length) + comment.length
    else 0

/-- The cursor behind blanks and comments, where they do not count. -/
def Cursor.skip (s : Cursor) : Cursor :=
  if s.spaced then s.advance (skippedLength s.rest.length s.rest) else s

def peek : Read (Option Char) := return (← get).rest.head?

def here : Read Place := return (← get).place

/-- The span of the next character, empty at the end. -/
def charSpan : Read Span := do
  let s ← get
  return ⟨s.place, s.next.place⟩

/-- Skips blanks and comments, where they do not count. -/
def skipSpace : Read Unit := modify Cursor.skip

/-- Goes on by one character; true when there is another. -/
def bump : Read Bool := do
  modify Cursor.next
  return !(← get).rest.isEmpty

/-- Goes on by one character and skips blanks; true when there is another character. -/
def bumpSpace : Read Bool := do
  modify fun s => if s.rest.isEmpty then s else s.next.skip
  return !(← get).rest.isEmpty

/-- Goes on behind a text, if it comes next. -/
def bumpIf (text : String) : Read Bool := do
  let s ← get
  match Text.dropStart? text.toList s.rest with
  | none => return false
  | some _ =>
    set (s.advance text.length)
    return true

def peekSecond : Read (Option Char) := return (← get).rest.tail.head?

/-- The character behind the next one and behind blanks, where those do not count. Of a comment
only its mark is passed over. -/
def peekSecondSpaced : Read (Option Char) := do
  let s ← get
  let after := s.rest.tail
  if !s.spaced then return after.head?
  let blanksPassed := after.dropWhile Text.isBlank
  let passed := match blanksPassed with
    | '#' :: rest => rest.dropWhile Text.isBlank
    | _ => blanksPassed
  return (passed.head?).or after.head?

/-- Reads the characters of a class, skipping blanks behind each. -/
def readWhile (p : Char → Bool) : Nat → Read (List Char)
  | 0 => return []
  | fuel + 1 => do
    match ← peek with
    | some c =>
      if p c then
        let _ ← bumpSpace
        return c :: (← readWhile p fuel)
      else return []
    | none => return []

def left : Read Nat := return (← get).rest.length

end BuildTool.Regex

/-! ## Escapes -/

namespace BuildTool.Regex

/-- A part of a pattern that no operator divides. -/
inductive Atom
  | literal (l : Literal)
  | anchor (span : Span) (kind : Anchor)
  | dot (span : Span)
  | set (c : ClassNode)
  deriving Repr

def hexValue? (c : Char) : Option Nat :=
  if c.isDigit then some (c.toNat - 48)
  else if 'a' ≤ c ∧ c ≤ 'f' then some (c.toNat - 87)
  else if 'A' ≤ c ∧ c ≤ 'F' then some (c.toNat - 55)
  else none

def charOfHex? (digits : List Char) : Option Char := do
  let n ← digits.foldlM (fun n d => (hexValue? d).map (n * 16 + ·)) 0
  if n.isValidChar then some (Char.ofNat n) else none

def hexDigits : Nat → Read (List Char)
  | 0 => return []
  | count + 1 => do
    match ← peek with
    | none => fault .escapeUnfinished (Span.ofPlace (← here)) none
    | some c =>
      if (hexValue? c).isNone then fault .hexDigit (← charSpan) none
      let _ ← bumpSpace
      return c :: (← hexDigits count)

/-- Reads hexadecimal digits up to a closing brace. -/
def bracedDigits (brace : Place) : Nat → Read (List Char)
  | 0 => return []
  | fuel + 1 => do
    match ← peek with
    | none => faultBetween .escapeUnfinished brace (← here)
    | some '}' => return []
    | some c =>
      if (hexValue? c).isNone then fault .hexDigit (← charSpan) none
      let _ ← bumpSpace
      return c :: (← bracedDigits brace fuel)

/-- Reads the code of a character behind the letter that announces it, in braces or with as many
digits as the letter asks for. The escape begins at `start`. -/
def hexEscape (start : Place) (width : Nat) : Read Literal := do
  if !(← bumpSpace) then fault .escapeUnfinished (Span.ofPlace (← here)) none
  let brace ← here
  if (← peek) == some '{' then
    let inside := (← charSpan).last
    let _ ← bumpSpace
    let digits ← bracedDigits brace ((← left) + 1)
    let finish ← here
    let _ ← bumpSpace
    if digits.isEmpty then faultBetween .hexEmpty brace (← here)
    match charOfHex? digits with
    | none => faultBetween .hexInvalid inside finish
    | some c => return ⟨⟨start, ← here⟩, c, false⟩
  else
    let digits ← hexDigits width
    match charOfHex? digits with
    | none => faultBetween .hexInvalid brace (← here)
    | some c => return ⟨⟨start, ← here⟩, c, width == 2⟩

/-- Reads the name of a property up to a closing brace. -/
def bracedName : Nat → Read (List Char)
  | 0 => return []
  | fuel + 1 => do
    match ← peek with
    | none => fault .escapeUnfinished (Span.ofPlace (← here)) none
    | some '}' => return []
    | some c =>
      let _ ← bumpSpace
      return c :: (← bracedName fuel)

/-- What the text in the braces of a property asks for. A sign of inequality does not turn the
class round. -/
def PropertyQuery.ofText (text : List Char) : PropertyQuery :=
  let valued (cut : List Char × List Char) : PropertyQuery :=
    .valued (String.ofList cut.1) (String.ofList cut.2)
  match Text.cutText? ['!', '='] text with
  | some cut => valued cut
  | none =>
    match (Text.cutChar? ':' text).or (Text.cutChar? '=' text) with
    | some cut => valued cut
    | none => .plain (String.ofList text)

/-- Reads the property behind its letter. The escape begins at `start`. -/
def propertyEscape (start : Place) (negated : Bool) : Read ClassNode := do
  if !(← bumpSpace) then fault .escapeUnfinished (Span.ofPlace (← here)) none
  match ← peek with
  | some '{' =>
    let _ ← bumpSpace
    let name ← bracedName ((← left) + 1)
    let _ ← bump
    return .property ⟨start, ← here⟩ negated (PropertyQuery.ofText name)
  | some '\\' => fault .propertyInvalid (← charSpan) none
  | some c =>
    let _ ← bumpSpace
    return .property ⟨start, ← here⟩ negated (.plain (String.singleton c))
  | none => fault .escapeUnfinished (Span.ofPlace (← here)) none

/-- Reads the kind of boundary in braces behind `\b`, which begins at `start`; nothing when the
braces hold a count. -/
def boundaryKind (start : Place) : Read (Option Anchor) := do
  let before ← get
  if !(← bumpSpace) then faultBetween .boundaryUnfinished start (← here)
  let inside ← here
  let isNamePart (c : Char) : Bool := c.isAlpha || c == '-'
  if !((← peek).any isNamePart) then
    set before
    return none
  let name ← readWhile isNamePart (← left)
  if (← peek) != some '}' then faultBetween .boundaryUnclosed before.place (← here)
  let finish ← here
  let _ ← bump
  match String.ofList name with
  | "start" => return some .startWord
  | "end" => return some .endWord
  | "start-half" => return some .startHalf
  | "end-half" => return some .endHalf
  | _ => faultBetween .boundaryUnknown inside finish

/-- The characters with a meaning of their own in patterns. -/
def metaCharacters : List Char :=
  ['\\', '.', '+', '*', '?', '(', ')', '|', '[', ']', '{', '}', '^', '$', '#', '&', '-', '~']

/-- The characters that a letter behind a backslash stands for. -/
def letterEscapes : List (Char × Char) :=
  [('a', '\x07'), ('f', '\x0c'), ('t', '\t'), ('n', '\n'), ('r', '\r'), ('v', '\x0b')]

/-- The places that a character behind a backslash stands for. -/
def anchorEscapes : List (Char × Anchor) :=
  [('A', .startText), ('z', .endText), ('b', .boundary), ('B', .noBoundary), ('<', .startWord),
    ('>', .endWord)]

/-- The classes that a letter behind a backslash stands for; capitals stand for the rest. -/
def classEscapes : List (Char × Bool × LetterClass) :=
  [('d', false, .digit), ('s', false, .space), ('w', false, .word), ('D', true, .digit),
    ('S', true, .space), ('W', true, .word)]

/-- Reads an escape that stands for one of the characters, places and classes above, or for the
character behind the backslash itself. The escape begins at `start`. -/
def plainEscape (start : Place) (c : Char) : Read Atom := do
  let _ ← bump
  let span : Span := ⟨start, ← here⟩
  if let some (negated, kind) := classEscapes.lookup c then
    return .set (.letter span negated kind)
  if let some d := letterEscapes.lookup c then return .literal ⟨span, d, false⟩
  if c == 'b' ∧ (← peek) == some '{' then
    if let some kind ← boundaryKind start then return .anchor ⟨start, ← here⟩ kind
  if let some kind := anchorEscapes.lookup c then return .anchor span kind
  if metaCharacters.contains c ∨ (c.toNat < 128 ∧ !c.isAlphanum) then
    return .literal ⟨span, c, false⟩
  fault .escapeUnknown span none

def escape : Read Atom := do
  let start ← here
  if !(← bump) then faultBetween .escapeUnfinished start (← here)
  match ← peek with
  | none => faultBetween .escapeUnfinished start (← here)
  | some c =>
    if c.isDigit then faultBetween .backReference start (← charSpan).last
    match c with
    | 'x' => return .literal (← hexEscape start 2)
    | 'u' => return .literal (← hexEscape start 4)
    | 'U' => return .literal (← hexEscape start 8)
    | 'p' => return .set (← propertyEscape start false)
    | 'P' => return .set (← propertyEscape start true)
    | _ => plainEscape start c

end BuildTool.Regex
