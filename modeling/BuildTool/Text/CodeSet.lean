/-!
# Sets of code points

A set is kept as its maximal ranges in ascending order, so that equal sets have equal ranges and
a code is found by halving.
-/

namespace BuildTool.Text

def greatestCode : Nat := 0x10FFFF

/-- A set of code points: closed ranges in ascending order, no two of which overlap or touch. -/
structure CodeSet where
  ranges : Array (Nat × Nat)
  deriving DecidableEq, Repr

namespace CodeSet

/-- Puts ranges together that overlap or touch, given in the order in which they begin; `current`
is the one that may still grow. -/
def joined (current : Nat × Nat) : List (Nat × Nat) → List (Nat × Nat)
  | [] => [current]
  | r :: rest =>
    if r.1 ≤ current.2 + 1 then joined (current.1, max current.2 r.2) rest
    else current :: joined r rest

/-- The set of the codes in ranges given in the order in which they begin. -/
def ofAscending : List (Nat × Nat) → CodeSet
  | [] => ⟨#[]⟩
  | r :: rest => ⟨(joined r rest).toArray⟩

def ofRanges (ranges : List (Nat × Nat)) : CodeSet :=
  ofAscending ((ranges.filter fun r => r.1 ≤ r.2).mergeSort fun a b => a.1 ≤ b.1)

def ofCodes (codes : List Nat) : CodeSet := ofRanges (codes.map fun n => (n, n))

def range (first last : Nat) : CodeSet := ofRanges [(first, last)]

def single (c : Char) : CodeSet := ⟨#[(c.toNat, c.toNat)]⟩

def empty : CodeSet := ⟨#[]⟩

def all : CodeSet := ⟨#[(0, greatestCode)]⟩

instance : EmptyCollection CodeSet := ⟨empty⟩

instance : Inhabited CodeSet := ⟨empty⟩

/-- The code lies in one of the ranges with an index from `low` up to, but without, `high`. -/
def search (ranges : Array (Nat × Nat)) (code low high : Nat) : Bool :=
  if low < high then
    let middle := (low + high) / 2
    match ranges[middle]? with
    | none => false
    | some r =>
      if code < r.1 then search ranges code low middle
      else if r.2 < code then search ranges code (middle + 1) high
      else true
  else false
termination_by high - low
decreasing_by all_goals omega

def containsCode (s : CodeSet) (code : Nat) : Bool := search s.ranges code 0 s.ranges.size

def contains (s : CodeSet) (c : Char) : Bool := s.containsCode c.toNat

def union (a b : CodeSet) : CodeSet := ofRanges (a.ranges.toList ++ b.ranges.toList)

def unions (sets : List CodeSet) : CodeSet := ofRanges (sets.flatMap fun s => s.ranges.toList)

/-- The codes from `next` on that are in no range. -/
def gaps (next : Nat) : List (Nat × Nat) → List (Nat × Nat)
  | [] => if next ≤ greatestCode then [(next, greatestCode)] else []
  | r :: rest => if next < r.1 then (next, r.1 - 1) :: gaps (r.2 + 1) rest else gaps (r.2 + 1) rest

def complement (s : CodeSet) : CodeSet := ⟨(gaps 0 s.ranges.toList).toArray⟩

def inter (a b : CodeSet) : CodeSet := (a.complement.union b.complement).complement

def without (a b : CodeSet) : CodeSet := (a.complement.union b).complement

def apart (a b : CodeSet) : CodeSet := (a.union b).without (a.inter b)

instance : Union CodeSet := ⟨union⟩

instance : Inter CodeSet := ⟨inter⟩

instance : SDiff CodeSet := ⟨without⟩

end CodeSet

end BuildTool.Text

/-!
## Packed sets

Long sets of codes are written as texts. A number is written in base 32, its lowest digit first;
the last digit of a number comes from one alphabet, the others from another, so that numbers need
no separator. Two numbers make a range: how many codes lie between it and the range before, and
how many codes it has besides its first.
-/

namespace BuildTool.Text

/-- The value of a digit, and whether the number goes on behind it. -/
def packedDigit (c : Char) : Nat × Bool :=
  if c.isDigit then (c.toNat - 48, false)
  else if 'a' ≤ c ∧ c ≤ 'v' then (c.toNat - 87, false)
  else if c.isUpper then (c.toNat - 65, true)
  else if 'w' ≤ c ∧ c ≤ 'z' then (c.toNat - 93, true)
  else if c = '+' then (30, true)
  else (31, true)

/-- The numbers in a text; `value` is what the digits of the current one read so far are worth,
and `place` what the next one counts. -/
def packedNumbers (value place : Nat) : List Char → List Nat
  | [] => []
  | c :: rest =>
    let (digit, goesOn) := packedDigit c
    let value := value + digit * place
    if goesOn then packedNumbers value (place * 32) rest else value :: packedNumbers 0 1 rest

/-- The ranges that pairs of numbers stand for, behind the code before `next`. -/
def packedRanges (next : Nat) : List Nat → List (Nat × Nat)
  | gap :: more :: rest =>
    (next + gap, next + gap + more) :: packedRanges (next + gap + more + 1) rest
  | _ => []

def unpackedNumbers (rows : List String) : List Nat :=
  packedNumbers 0 1 (rows.flatMap String.toList)

def CodeSet.ofRows (rows : List String) : CodeSet :=
  ofAscending (packedRanges 0 (unpackedNumbers rows))

end BuildTool.Text
