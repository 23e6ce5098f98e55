import BuildTool.Regex.EscapeReader

/-!
# Reading classes of characters

Classes in brackets: characters, ranges, escapes, named classes, classes within classes, and the
three operators that combine what stands on their sides, from left to right.
-/

namespace BuildTool.Regex

/-- The class that a name in brackets and colons stands for. -/
def NamedClass.ofName? : String → Option NamedClass
  | "alnum" => some .alnum
  | "alpha" => some .alpha
  | "ascii" => some .ascii
  | "blank" => some .blank
  | "cntrl" => some .cntrl
  | "digit" => some .digit
  | "graph" => some .graph
  | "lower" => some .lower
  | "print" => some .print
  | "punct" => some .punct
  | "space" => some .space
  | "upper" => some .upper
  | "word" => some .word
  | "xdigit" => some .xdigit
  | _ => none

/-- Reads a named class, if there is one. -/
def namedClass : Read (Option ClassNode) := do
  let s ← get
  let found : Option (Bool × NamedClass × Nat) := do
    let inside ← Text.dropStart? ['[', ':'] s.rest
    let (negated, inside) := match inside with
      | '^' :: rest => (true, rest)
      | _ => (false, inside)
    let (name, rest) ← Text.cutChar? ':' inside
    let rest ← Text.dropStart? [']'] rest
    let name ← NamedClass.ofName? (String.ofList name)
    return (negated, name, s.rest.length - rest.length)
  match found with
  | none => return none
  | some (negated, name, length) =>
    let s' := s.advance length
    set s'
    return some (.named ⟨s.place, s'.place⟩ negated name)

/-- Reads one end of a range, or what stands for itself. -/
def classAtom : Read Atom := do
  match ← peek with
  | some '\\' => escape
  | c =>
    let span ← charSpan
    let _ ← bump
    return .literal ⟨span, c.getD '\x00', false⟩

/-- The character at an end of a range. -/
def Atom.bound : Atom → Read Literal
  | .literal l => return l
  | .anchor span _ | .dot span => fault .classRangeBound span none
  | .set c => fault .classRangeBound c.span none

def Atom.span : Atom → Span
  | .literal l => l.span
  | .anchor span _ | .dot span => span
  | .set c => c.span

/-- What an atom stands for within brackets. -/
def Atom.item : Atom → Read ClassNode
  | .literal l => return .literal l
  | .set c => return c
  | .anchor span _ | .dot span => fault .classEscape span none

/-- Reads a character, a range or an escape; `opening` is where the brackets around it open. -/
def classRange (opening : Span) : Read ClassNode := do
  let first ← classAtom
  skipSpace
  match ← peek with
  | none => fault .classUnclosed opening none
  | some c =>
    let second ← peekSecondSpaced
    if c != '-' ∨ second == some ']' ∨ second == some '-' then first.item
    else
      if !(← bumpSpace) then fault .classUnclosed opening none
      let last ← classAtom
      let span : Span := ⟨first.span.first, last.span.last⟩
      let low ← first.bound
      let high ← last.bound
      if high.char < low.char then fault .classRangeOrder span none
      return .range span low high

/-- Reads the hyphens that a class begins with; they stand for themselves. -/
def openingHyphens (opening : Place) : Nat → Read (List ClassNode)
  | 0 => return []
  | fuel + 1 => do
    if (← peek) != some '-' then return []
    let span ← charSpan
    if !(← bumpSpace) then faultBetween .classUnclosed opening opening
    return .literal ⟨span, '-', false⟩ :: (← openingHyphens opening fuel)

/-- Reads the opening bracket of a class: whether the class is turned round, and the characters that
stand for themselves at its beginning only. -/
def classOpening : Read (Bool × List ClassNode) := do
  let start ← here
  let goOn : Read Unit := do
    if !(← bumpSpace) then faultBetween .classUnclosed start (← here)
  goOn
  let negated := (← peek) == some '^'
  if negated then goOn
  let hyphens ← openingHyphens start (← left)
  if hyphens.isEmpty ∧ (← peek) == some ']' then
    let span ← charSpan
    goOn
    return (negated, [.literal ⟨span, ']', false⟩])
  return (negated, hyphens)

/-- What has been read of a class: the left side of the last operator with that operator, and the
items behind it, last first. -/
structure ClassReading where
  left : Option (ClassNode × ClassOperator) := none
  items : List ClassNode
  start : Place

def ClassReading.node (r : ClassReading) : ClassNode :=
  let right := ClassNode.ofItems r.start r.items.reverse
  match r.left with
  | none => right
  | some (left, operator) => .combined ⟨left.span.first, right.span.last⟩ operator left right

/-- The operator that comes next, written twice the same. -/
def classOperator? (first second : Option Char) : Option ClassOperator :=
  if first != second then none
  else
    match first with
    | some '&' => some .intersection
    | some '-' => some .difference
    | some '~' => some .symmetricDifference
    | _ => none

mutual

def bracketed : Nat → Read ClassNode
  | 0 => fun s => throw ⟨.classUnclosed, Span.ofPlace s.place, none⟩
  | fuel + 1 => do
    let start ← here
    let (negated, items) ← classOpening
    let inside ← here
    let node ← classItems fuel ⟨start, inside⟩ { items := items.reverse, start := inside }
    let _ ← bump
    return .bracketed ⟨start, ← here⟩ negated node

/-- Reads the items of a class up to its closing bracket; `opening` is its beginning. -/
def classItems : Nat → Span → ClassReading → Read ClassNode
  | 0, opening, _ => fault .classUnclosed opening none
  | fuel + 1, opening, r => do
    skipSpace
    match ← peek with
    | none => fault .classUnclosed opening none
    | some ']' => return r.node
    | some c =>
      match classOperator? (some c) (← peekSecond) with
      | some operator =>
        let _ ← bump
        let _ ← bump
        classItems fuel opening { left := some (r.node, operator), items := [], start := ← here }
      | none =>
        if c == '[' then
          match ← namedClass with
          | some item => classItems fuel opening { r with items := item :: r.items }
          | none =>
            let item ← bracketed fuel
            classItems fuel opening { r with items := item :: r.items }
        else
          let item ← classRange opening
          classItems fuel opening { r with items := item :: r.items }

end

end BuildTool.Regex
