import BuildTool.Regex.ClassReader
import BuildTool.Text.Property

/-!
# Reading patterns

The usual notation: alternatives, groups with and without names, flags, greedy and sparing
repetitions. Look-around and back references are refused.
-/

namespace BuildTool.Regex

/-- The switch that a letter stands for. -/
def Flag.ofLetter? : Char → Option Flag
  | 'i' => some .anyCase
  | 'm' => some .multiLine
  | 's' => some .dotAll
  | 'U' => some .swapGreed
  | 'u' => some .unicode
  | 'R' => some .returns
  | 'x' => some .spaced
  | _ => none

/-- Reads switches up to a colon or closing bracket. `seen` holds where each switch, and the hyphen
that turns those behind it off, was read; the last one read comes first. -/
def flagItems : Nat → List (Option Flag × Span) → Read (List (Option Flag × Span))
  | 0, seen => return seen.reverse
  | fuel + 1, seen => do
    match ← peek with
    | none => fault .flagUnfinished (Span.ofPlace (← here)) none
    | some c =>
      if c == ':' ∨ c == ')' then
        match seen with
        | (none, span) :: _ => fault .flagDangling span none
        | _ => return seen.reverse
      else
        let span ← charSpan
        let item := Flag.ofLetter? c
        if c != '-' ∧ item.isNone then fault .flagUnknown span none
        match seen.find? (·.1 == item) with
        | some earlier =>
          fault (if c == '-' then .flagNegatedTwice else .flagDuplicate) span (some earlier.2)
        | none =>
          if !(← bump) then fault .flagUnfinished (Span.ofPlace (← here)) none
          flagItems fuel ((item, span) :: seen)

def flagChanges (on : Bool) : List (Option Flag × Span) → List (Flag × Bool)
  | [] => []
  | (none, _) :: rest => flagChanges false rest
  | (some flag, _) :: rest => (flag, on) :: flagChanges on rest

/-- A character of a group's name. -/
def isNameChar (first : Bool) (c : Char) : Bool :=
  let letter := c == '_' || Text.Property.alphabetic.contains c
  if first then letter
  else
    letter || c == '.' || c == '[' || c == ']' ||
      (Text.Property.ofCategories [.digit, .letterNumber, .otherNumber]).contains c

/-- Reads the characters of a group's name up to its closing bracket. -/
def nameChars : Nat → Bool → Read (List Char)
  | 0, _ => return []
  | fuel + 1, first => do
    match ← peek with
    | none => fault .groupNameUnfinished (Span.ofPlace (← here)) none
    | some '>' => return []
    | some c =>
      if !isNameChar first c then fault .groupNameInvalid (← charSpan) none
      let _ ← bump
      return c :: (← nameChars fuel false)

def groupName : Read Nat := do
  let start ← here
  let name ← nameChars ((← left) + 1) true
  let finish ← here
  let _ ← bump
  if name.isEmpty then fault .groupNameEmpty (Span.ofPlace start) none
  let s ← get
  let name := String.ofList name
  match s.names.lookup name with
  | some (_, earlier) => fault .groupNameDuplicate ⟨start, finish⟩ (some earlier)
  | none =>
    let index := s.groups + 1
    let span : Span := ⟨start, finish⟩
    set { s with groups := index, names := s.names ++ [(name, index, span)] }
    return index

/-- The way a group opens: switches for what follows, or a group of some kind. -/
inductive Opening
  | switches (span : Span) (changes : List (Flag × Bool))
  | group (span : Span) (kind : GroupKind)

def groupOpening : Read Opening := do
  let span ← charSpan
  let _ ← bumpSpace
  for look in ["?=", "?!", "?<=", "?<!"] do
    if ← bumpIf look then faultBetween .lookAround span.first (← here)
  let inside ← here
  if (← bumpIf "?P<") || (← bumpIf "?<") then
    return .group span (.captured (← groupName))
  else if ← bumpIf "?" then
    if (← peek).isNone then fault .groupUnclosed span none
    let items ← flagItems ((← left) + 1) []
    let closed := (← peek) == some ')'
    let _ ← bump
    if closed then
      if items.isEmpty then fault .repetitionMissing (Span.ofPlace inside) none
      return .switches ⟨span.first, ← here⟩ (flagChanges true items)
    return .group span (.plain (flagChanges true items))
  else
    let s ← get
    set { s with groups := s.groups + 1 }
    return .group span (.captured (s.groups + 1))

/-- The node that a repetition repeats, and those in front of it; the nodes come last first. -/
def repeated : List Node → Read (Node × List Node)
  | [] => do fault .repetitionMissing (Span.ofPlace (← here)) none
  | .empty _ :: _ | .flags _ _ :: _ => do fault .repetitionMissing (Span.ofPlace (← here)) none
  | node :: before => return (node, before)

/-- Reads an operator that repeats what is in front of it. -/
def simpleRepetition (least : Nat) (most : Option Nat) (before : List Node) :
    Read (List Node) := do
  let (node, before) ← repeated before
  let sparing := (← bump) && (← peek) == some '?'
  if sparing then let _ ← bump
  return .repetition ⟨node.span.first, ← here⟩ least most (!sparing) node :: before

/-- Reads a number with blanks around it: its value or what is wrong with it, and where it
stands. -/
def decimal : Read (Except Flaw Nat × Span) := do
  modify fun s => s.advance (s.rest.takeWhile Text.isBlank).length
  let start ← here
  let digits ← readWhile Char.isDigit (← left)
  let span : Span := ⟨start, ← here⟩
  let _ ← readWhile Text.isBlank (← left)
  let value := digits.foldl (fun n d => n * 10 + (d.toNat - 48)) 0
  if digits.isEmpty then return (.error .countEmpty, span)
  else if Nat.pow 2 32 ≤ value then return (.error .decimalInvalid, span)
  else return (.ok value, span)

/-- The number, which has to be there. -/
def required : Except Flaw Nat × Span → Read Nat
  | (.ok n, _) => return n
  | (.error flaw, span) => fault flaw span none

/-- Reads the counts of a repetition behind the first number: the second, or that there is none, or
that it is the same. -/
def secondCount (start : Place) (first : Except Flaw Nat × Span) : Read (Nat × Option Nat) := do
  if (← peek) != some ',' then
    let n ← required first
    return (n, some n)
  if !(← bumpSpace) then faultBetween .countUnclosed start (← here)
  let least ← required first
  if (← peek) == some '}' then return (least, none)
  return (least, some (← required (← decimal)))

def countedRepetition (before : List Node) : Read (List Node) := do
  let start ← here
  let (node, before) ← repeated before
  if !(← bumpSpace) then faultBetween .countUnclosed start (← here)
  let first ← decimal
  if (← peek).isNone then faultBetween .countUnclosed start (← here)
  let (least, most) ← secondCount start first
  if (← peek) != some '}' then faultBetween .countUnclosed start (← here)
  let sparing := (← bumpSpace) && (← peek) == some '?'
  if sparing then let _ ← bump
  let span : Span := ⟨start, ← here⟩
  if most.any (· < least) then fault .countOrder span none
  return .repetition ⟨node.span.first, span.last⟩ least most (!sparing) node :: before

/-- Reads what no operator divides. -/
def atom : Read Node := do
  let span ← charSpan
  let single (node : Node) : Read Node := do
    let _ ← bump
    return node
  match ← peek with
  | some '\\' =>
    match ← escape with
    | .literal l => return .literal l
    | .anchor span kind => return .anchor span kind
    | .dot span => return .dot span
    | .set c => return .set c
  | some '.' => single (.dot span)
  | some '^' => single (.anchor span .startLine)
  | some '$' => single (.anchor span .endLine)
  | some c => single (.literal ⟨span, c, false⟩)
  | none => return .empty span

/-- Some alternatives as one node, beginning and ending at some places. -/
def Node.ofAlternatives (span : Span) : List Node → Node
  | [] => .empty span
  | [node] => node
  | nodes => .either span nodes

mutual

/-- Reads alternatives up to a closing bracket or the end. The alternatives before the current one
and the nodes of the current one come last first; they begin at `start` and `current`. -/
def alternatives : Nat → Place → List Node → Place → List Node → Read Node
  | 0, _, _, _, _ => fun s => throw ⟨.groupUnclosed, Span.ofPlace s.place, none⟩
  | fuel + 1, start, earlier, current, nodes => do
    skipSpace
    match ← peek with
    | some '|' =>
      let node := Node.ofSequence ⟨current, ← here⟩ nodes.reverse
      let _ ← bump
      alternatives fuel start (node :: earlier) (← here) []
    | some '(' =>
      let node ← group fuel
      alternatives fuel start earlier current (node :: nodes)
    | some '[' =>
      let node ← bracketed (2 * (← left) + 2)
      alternatives fuel start earlier current (.set node :: nodes)
    | some '?' => alternatives fuel start earlier current (← simpleRepetition 0 (some 1) nodes)
    | some '*' => alternatives fuel start earlier current (← simpleRepetition 0 none nodes)
    | some '+' => alternatives fuel start earlier current (← simpleRepetition 1 none nodes)
    | some '{' => alternatives fuel start earlier current (← countedRepetition nodes)
    | some ')' | none =>
      let finish ← here
      let node := Node.ofSequence ⟨current, finish⟩ nodes.reverse
      return Node.ofAlternatives ⟨start, finish⟩ (node :: earlier).reverse
    | some _ => alternatives fuel start earlier current ((← atom) :: nodes)

def group : Nat → Read Node
  | 0 => fun s => throw ⟨.groupUnclosed, Span.ofPlace s.place, none⟩
  | fuel + 1 => do
    match ← groupOpening with
    | .switches span changes =>
      modify fun s => { s with spaced := (changes.lookup .spaced).getD s.spaced }
      return .flags span changes
    | .group span kind =>
      let spaced := (← get).spaced
      if let .plain changes := kind then
        modify fun s => { s with spaced := (changes.lookup .spaced).getD s.spaced }
      let inside ← here
      let node ← alternatives fuel inside [] inside []
      if (← peek).isNone then fault .groupUnclosed span none
      modify fun s => { s with spaced := spaced }
      let _ ← bump
      return .group ⟨span.first, ← here⟩ kind node

end

/-- A pattern as it is written, with its groups. -/
structure Written where
  node : Node
  groups : Nat
  names : List (String × Nat)

def Written.read (pattern : List Char) : Except Fault Written := do
  let whole : Read Node := do
    let start ← here
    let node ← alternatives (2 * pattern.length + 4) start [] start []
    if (← peek) == some ')' then fault .groupUnopened (← charSpan) none
    return node
  let (node, s) ← whole { rest := pattern }
  node.checkDepth 0
  return { node := node, groups := s.groups, names := s.names.map fun n => (n.1, n.2.1) }

end BuildTool.Regex
