/-!
# Writing floating-point numbers

A notation says which numbers are written with an exponent, how that exponent looks, and
whether a whole number keeps its `.0`.
-/

namespace BuildTool.Decimal

/-!
## The shortest decimal of a binary number

A finite number `mantissa · 2^exponent` stands for all reals that round to it: those between
the midpoints to its neighbours, the midpoints included when the mantissa is even. Its shortest
decimal is the one with the fewest digits in that range and, among those, the nearest one.
-/

/-- A positive number `mantissa · 2^exponent`. `atBinade` says that the neighbour below is only
half as far away as the one above. -/
structure Binary where
  mantissa : Nat
  exponent : Int
  atBinade : Bool
  deriving DecidableEq, Repr

namespace Binary

/-- The number that the bits of a positive finite floating-point number encode. -/
def ofBits (bits : UInt64) : Binary :=
  let fraction : Nat := bits.toNat % Nat.pow 2 52
  let field : Nat := bits.toNat / Nat.pow 2 52 % Nat.pow 2 11
  if field = 0 then ⟨fraction, -1074, false⟩
  else ⟨Nat.pow 2 52 + fraction, (field : Int) - 1075, fraction = 0 ∧ field > 1⟩

end Binary

structure Quotient where
  num : Nat
  den : Nat
  deriving Repr

namespace Quotient

def scale (q : Quotient) (power : Int) : Quotient :=
  if power ≥ 0 then ⟨q.num * Nat.pow 10 power.toNat, q.den⟩ else ⟨q.num, q.den * Nat.pow 10 (-power).toNat⟩

def floor (q : Quotient) : Nat := q.num / q.den

end Quotient

def quarters (n : Nat) (exponent : Int) : Quotient :=
  if exponent ≥ 2 then ⟨n * Nat.pow 2 (exponent - 2).toNat, 1⟩ else ⟨n, Nat.pow 2 (2 - exponent).toNat⟩

/-- The power of ten of the leading digit of a positive quotient, looked for from `guess` up:
the largest `k` with `10^k` at most the quotient. -/
def leadingPower (q : Quotient) : Nat → Int → Int
  | 0, guess => guess
  | fuel + 1, guess =>
    if (q.scale (-(guess + 1))).floor = 0 then guess else leadingPower q fuel (guess + 1)

/-- The whole number `n` lies between two quotients, which count themselves if `closed`. -/
def liesBetween (low high : Quotient) (closed : Bool) (n : Nat) : Bool :=
  if closed then low.num ≤ n * low.den && n * high.den ≤ high.num
  else low.num < n * low.den && n * high.den < high.num

/-- The best decimal `digits · 10^power` on one grid, if the grid has one in range. -/
def onGrid? (value low high : Quotient) (closed : Bool) (power : Int) : Option Nat :=
  let value := value.scale (-power)
  let low := low.scale (-power)
  let high := high.scale (-power)
  let below := value.floor
  let fits := liesBetween low high closed
  match fits below, fits (below + 1) with
  | true, true =>
    let twice := 2 * (value.num - below * value.den)
    some (if twice < value.den ∨ (twice = value.den ∧ below % 2 = 0) then below else below + 1)
  | true, false => some below
  | false, true => some (below + 1)
  | false, false => none

/-- The first grid, from the coarsest, that has a decimal in range. -/
def firstGrid (value low high : Quotient) (closed : Bool) : Nat → Int → Nat × Int
  | 0, power => (((value.scale (-power)).floor), power)
  | fuel + 1, power =>
    match onGrid? value low high closed power with
    | some digits => (digits, power)
    | none => firstGrid value low high closed fuel (power - 1)

/-- Takes zeros off the end of a decimal. -/
def withoutZeros : Nat → Nat × Int → Nat × Int
  | 0, d => d
  | fuel + 1, (digits, power) =>
    if digits ≠ 0 ∧ digits % 10 = 0 then withoutZeros fuel (digits / 10, power + 1)
    else (digits, power)

/-- The shortest decimal of a positive binary number, as digits and a power of ten. -/
def shortest (b : Binary) : Nat × Int :=
  let value := quarters (4 * b.mantissa) b.exponent
  let low := quarters (4 * b.mantissa - if b.atBinade then 1 else 2) b.exponent
  let high := quarters (4 * b.mantissa + 2) b.exponent
  let power := leadingPower value 700 (-330)
  withoutZeros 20 (firstGrid value low high (b.mantissa % 2 = 0) 18 power)

/-! ## Notations -/

/-- The decisions of a notation. The point of a number stands behind its leading `p` digits;
numbers with `p` beyond `largest` or not beyond `smallest` get an exponent. -/
structure Notation where
  largest : Option Int
  smallest : Option Int
  plusSign : Bool
  keepsPoint : Bool
  deriving DecidableEq, Repr

/-- Never an exponent, and no point in whole numbers. -/
def plain : Notation := ⟨none, none, false, false⟩

/-- The notation of numbers in data: up to sixteen digits before the point and four zeros after
it without exponent, a point in every number that has none. -/
def data : Notation := ⟨some 16, some (-5), true, true⟩

def descriptive : Notation := ⟨some 16, some (-4), false, true⟩

/-- Digits with a point behind the first `point` of them. -/
def positional (n : Notation) (digits : List Char) (point : Int) : List Char :=
  let len : Int := digits.length
  if point ≤ 0 then ['0', '.'] ++ List.replicate (-point).toNat '0' ++ digits
  else if point ≥ len then
    digits ++ List.replicate (point - len).toNat '0' ++ if n.keepsPoint then ['.', '0'] else []
  else digits.take point.toNat ++ '.' :: digits.drop point.toNat

def scientific (n : Notation) (digits : List Char) (point : Int) : List Char :=
  let head := digits.take 1
  let tail := digits.drop 1
  let exponent := point - 1
  head ++ (if tail.isEmpty then [] else '.' :: tail) ++ ['e'] ++
    (if exponent < 0 then ['-'] else if n.plusSign then ['+'] else []) ++
    Nat.toDigits 10 exponent.natAbs

def positiveText (n : Notation) (b : Binary) : List Char :=
  let (value, power) := shortest b
  let digits := Nat.toDigits 10 value
  let point := (digits.length : Int) + power
  if n.largest.any (point > ·) || n.smallest.any (point ≤ ·) then scientific n digits point
  else positional n digits point

def text (n : Notation) (x : Float) : String :=
  let bits := x.toBits
  let negative := bits ≥ 0x8000000000000000
  let size := if negative then bits - 0x8000000000000000 else bits
  let body : List Char :=
    if size > 0x7FF0000000000000 then "NaN".toList
    else if size = 0x7FF0000000000000 then "inf".toList
    else if size = 0 then if n.keepsPoint then ['0', '.', '0'] else ['0']
    else positiveText n (Binary.ofBits size)
  String.ofList (if negative ∧ size ≤ 0x7FF0000000000000 then '-' :: body else body)

end BuildTool.Decimal
