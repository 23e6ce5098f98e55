import BuildTool.Regex.Basic
import Std.Data.HashMap

/-!
# How much room a pattern takes

A pattern is refused when its automaton over bytes would take too much room. What counts is the
automaton as it is put together piece by piece, once for reading forwards and once for reading
backwards. A class of characters becomes a tree of the ranges of their bytes in which equal
branches are shared, as far as a table of a fixed number of slots remembers them; a later branch
takes the place of an earlier one in the same slot.
-/

namespace BuildTool.Regex

open Text (CodeSet)

/-- The room that the automaton of a pattern may take. -/
def roomLimit : Nat := 10485760

/-- What has been put together: the number of states and the room they take. -/
structure Room where
  states : Nat := 0
  bytes : Nat := 0
  deriving DecidableEq, Repr

/-- Adds a state with so many bytes besides its own; nothing when the room is exceeded. -/
def Room.add (r : Room) (more : Nat) : Option Room :=
  let bytes := r.bytes + 32 + more
  if roomLimit < bytes then none else some ⟨r.states + 1, bytes⟩

/-- Adds some states without bytes besides their own. -/
def Room.addAll : Nat → Room → Option Room
  | 0, r => some r
  | n + 1, r => do Room.addAll n (← r.add 0)

abbrev ByteRange := Nat × Nat

def bytesOfCode (n : Nat) : List Nat :=
  if n < 0x80 then [n]
  else if n < 0x800 then [0xC0 + n / 64, 0x80 + n % 64]
  else if n < 0x10000 then [0xE0 + n / 4096, 0x80 + n / 64 % 64, 0x80 + n % 64]
  else [0xF0 + n / 262144, 0x80 + n / 4096 % 64, 0x80 + n / 64 % 64, 0x80 + n % 64]

/-- The parts of a range of codes in order, if it has to be divided: at the surrogates, which are
left out, where the number of bytes changes, and where the last bytes do not run over all their
values. -/
def dividedRange (first last : Nat) : Option (List (Nat × Nat)) :=
  if first < 0xE000 ∧ 0xD7FF < last then some [(first, 0xD7FF), (0xE000, last)]
  else
    match [0x7F, 0x7FF, 0xFFFF].find? fun most => first ≤ most && most < last with
    | some most => some [(first, most), (most + 1, last)]
    | none =>
      if last ≤ 0x7F then none
      else
        [64, 4096, 262144].findSome? fun (block : Nat) =>
          if first / block = last / block then none
          else if first % block ≠ 0 then
            let cut := (first / block + 1) * block
            some [(first, cut - 1), (cut, last)]
          else if last % block ≠ block - 1 then
            let cut := last / block * block
            some [(first, cut - 1), (cut, last)]
          else none

/-- The sequences of ranges of bytes that stand for ranges of codes. -/
def byteSequences : Nat → List (Nat × Nat) → List (List ByteRange)
  | 0, _ => []
  | _ + 1, [] => []
  | fuel + 1, (first, last) :: rest =>
    if last < first then byteSequences fuel rest
    else
      match dividedRange first last with
      | some parts => byteSequences fuel (parts ++ rest)
      | none => (bytesOfCode first).zip (bytesOfCode last) :: byteSequences fuel rest

def sequencesOf (s : CodeSet) : List (List ByteRange) :=
  s.ranges.toList.flatMap fun r => byteSequences 400 [r]

def slotOf (slots : Nat) (key : List Nat) : Nat :=
  let mixed := key.foldl (fun (h : UInt64) (n : Nat) => (h ^^^ UInt64.ofNat n) * 1099511628211)
    14695981039346656037
  mixed.toNat % slots

abbrev SlotTable := Std.HashMap Nat (List Nat × Nat)

def SlotTable.find? (t : SlotTable) (slots : Nat) (key : List Nat) : Option Nat :=
  match t.get? (slotOf slots key) with
  | some (k, v) => if k == key then some v else none
  | none => none

def SlotTable.put (t : SlotTable) (slots : Nat) (key : List Nat) (value : Nat) : SlotTable :=
  t.insert (slotOf slots key) (key, value)

/-- A branching of the tree that is still open: its ranges with the states they lead to, as numbers
in a row, and the range that has no such state yet. -/
structure Branching where
  closed : List Nat := []
  pending : Option ByteRange := none

/-- The branching when its last range leads to a state. -/
def Branching.lead (b : Branching) (next : Nat) : Branching :=
  match b.pending with
  | some r => { closed := b.closed ++ [r.1, r.2, next] }
  | none => b

/-- The tree of a class under construction; of the open branchings, the deepest comes first. -/
structure Tree where
  room : Room
  table : SlotTable := {}
  target : Nat
  branchings : List Branching := [{}]

namespace Tree

/-- The number of slots in which finished branchings are looked up. -/
def slots : Nat := 10000

/-- The state for a finished branching, an old one if the same is remembered. -/
def finish (t : Tree) (key : List Nat) : Option (Tree × Nat) :=
  match t.table.find? slots key with
  | some state => some (t, state)
  | none => do
    let room ← t.room.add (8 * (key.length / 3))
    let state := t.room.states
    return ({ t with room := room, table := t.table.put slots key state }, state)

/-- Finishes the deepest branchings until so many are left, the last of them leading on to `next`. -/
def finishTo (depth next : Nat) : List Branching → Tree → Option Tree
  | [], t => some { t with branchings := [] }
  | b :: outer, t =>
    if outer.length + 1 ≤ depth then some { t with branchings := b.lead next :: outer }
    else do
      let (t, state) ← t.finish (b.lead next).closed
      finishTo depth state outer t

/-- The length of the beginning that a sequence shares with the open ranges, outermost first. -/
def sharedLength : List ByteRange → List Branching → Nat
  | r :: rest, b :: inner => if b.pending == some r then sharedLength rest inner + 1 else 0
  | _, _ => 0

def add (t : Tree) (ranges : List ByteRange) : Option Tree := do
  let shared := sharedLength ranges t.branchings.reverse
  let t ← finishTo (shared + 1) t.target t.branchings t
  let fresh := ranges.drop shared
  let branchings := match t.branchings, fresh with
    | b :: outer, r :: rest =>
      (rest.reverse.map fun r => ({ pending := some r } : Branching)) ++
        { b with pending := some r } :: outer
    | branchings, _ => branchings
  return { t with branchings := branchings }

end Tree

/-- Adds a class for reading forwards. -/
def Room.addForwards (r : Room) (sequences : List (List ByteRange)) : Option Room := do
  let room ← r.add 0
  let tree ← sequences.foldlM Tree.add { room := room, target := r.states }
  let tree ← Tree.finishTo 1 tree.target tree.branchings tree
  let (tree, _) ← tree.finish ((tree.branchings.head?.map (·.closed)).getD [])
  return tree.room

def beginningSlots : Nat := 1000

/-- Adds the states of one sequence for reading backwards, behind the state `finish`. -/
def addSequence : List ByteRange → Nat → Room × SlotTable → Option (Room × SlotTable)
  | [], _, built => some built
  | r :: rest, finish, (room, table) => do
    let key : List Nat := [finish, r.1, r.2]
    match table.find? beginningSlots key with
    | some state => addSequence rest state (room, table)
    | none =>
      let state := room.states
      addSequence rest state (← room.add 0, table.put beginningSlots key state)

/-- Adds a class for reading backwards. -/
def Room.addBackwards (r : Room) (sequences : List (List ByteRange)) : Option Room := do
  let finish := r.states + 1
  let room ← (← r.add (4 * sequences.length)).add 0
  let (room, _) ← sequences.foldlM (fun built s => addSequence s finish built) (room, {})
  return room

/-- An expression as far as its room depends on it. -/
inductive Shape
  | bytes (count : Nat)
  | narrow (ranges : Nat)
  | wide (sequences : List (List ByteRange))
  | group (e : Shape)
  | sequence (first second : Shape)
  | either (alternatives : Nat) (left right : Shape)
  | repetition (least : Nat) (most : Option Nat) (acceptsEmpty : Bool) (e : Shape)

/-- The set that an expression is, if it is one. -/
def Expr.asSet? : Expr → Option CodeSet
  | .set s => some s
  | .either a b => do return (← a.asSet?) ∪ (← b.asSet?)
  | _ => none

def Shape.ofSet (s : CodeSet) : Shape :=
  match s.ranges.toList with
  | [(first, last)] =>
    if first = last then .bytes (bytesOfCode first).length
    else if last < 0x80 then .narrow 1
    else .wide (sequencesOf s)
  | ranges =>
    if ranges.all fun r => r.2 < 0x80 then .narrow ranges.length else .wide (sequencesOf s)

namespace Expr

def alternatives : Expr → Nat
  | .either a b => a.alternatives + b.alternatives
  | _ => 1

/-- The shape of an expression. `inner` tells whether it is one of several alternatives. -/
def shape (inner : Bool) : Expr → Shape
  | .empty | .assertion _ => .bytes 1
  | .set s => Shape.ofSet s
  | .capture _ e => .group (e.shape false)
  | .sequence a b => .sequence (a.shape false) (b.shape false)
  | .either a b =>
    match inner, (Expr.either a b).asSet? with
    | false, some s => Shape.ofSet s
    | _, _ =>
      .either (if inner then 0 else (Expr.either a b).alternatives) (a.shape true) (b.shape true)
  | .repetition least most _ e => .repetition least most e.acceptsEmpty (e.shape false)

end Expr

/-- Does a step some number of times, as long as there is room. -/
def times (step : Room → Option Room) : Nat → Room → Option Room
  | 0, r => some r
  | n + 1, r => do times step n (← step r)

/-- Adds the states of a shape, for reading backwards or forwards. -/
def Shape.build (backwards : Bool) : Shape → Room → Option Room
  | .bytes count, r => r.addAll count
  | .narrow ranges, r => do (← r.add 0).add (8 * ranges)
  | .wide sequences, r => if backwards then r.addBackwards sequences else r.addForwards sequences
  | .group e, r => if backwards then e.build backwards r else do
    (← e.build backwards (← r.add 0)).add 0
  | .sequence a b, r =>
    if backwards then do a.build backwards (← b.build backwards r)
    else do b.build backwards (← a.build backwards r)
  | .either alternatives a b, r => do
    let r ← b.build backwards (← a.build backwards r)
    if alternatives = 0 then some r else (← r.add (4 * alternatives)).add 0
  | .repetition least most acceptsEmpty e, r =>
    match most with
    | some most =>
      if least = 0 ∧ most = 1 then do (← e.build backwards (← r.add 8)).add 0
      else do
        let r ← if least = 0 then r.add 0 else times (e.build backwards) least r
        if least = most then some r
        else times (fun r => do e.build backwards (← r.add 8)) (most - least) (← r.add 0)
    | none =>
      if least = 0 then
        if acceptsEmpty then do (← (← (← e.build backwards r).add 8).add 8).add 0
        else do e.build backwards (← r.add 8)
      else do (← times (e.build backwards) least r).add 8

namespace Expr

/-- Every match begins at the beginning of the text. -/
def startsText : Expr → Bool
  | .assertion .startText => true
  | .capture _ e => e.startsText
  | .sequence a b => a.startsText || (a.isBare && b.startsText)
  | .either a b => a.startsText && b.startsText
  | .repetition least _ _ e => 0 < least && e.startsText
  | _ => false

def endsText : Expr → Bool
  | .assertion .endText => true
  | .capture _ e => e.endsText
  | .sequence a b => b.endsText || (b.isBare && a.endsText)
  | .either a b => a.endsText && b.endsText
  | .repetition least _ _ e => 0 < least && e.endsText
  | _ => false

end Expr

/-- The room of what leads to the expression from anywhere in a text, or from its ends only. -/
def Room.ofLead (anchored : Bool) : Option Room := do
  let r : Room := {}
  if anchored then r.add 0 else (← (← r.add 8).add 0).add 8

/-- There is room for the automata of an expression. -/
def Expr.fits (e : Expr) : Bool :=
  let shape := e.shape false
  let forwards := do
    (← (Shape.group shape).build false (← Room.ofLead e.startsText)).add 0
  let backwards := do
    (← shape.build true (← Room.ofLead e.endsText)).add 0
  forwards.isSome && backwards.isSome

end BuildTool.Regex
