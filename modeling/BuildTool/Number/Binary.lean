/-!
# Binary fractions and their numerals

A number of limited precision is a mantissa times a power of two. Decimal numerals are read to
the nearest such number and printed from its exact value; of two equally near numbers the one
with the even last digit is taken.

    1/10    53 bits    3602879701896397 * 2^-55    0.1000000000000000055511151231257827...
-/

namespace BuildTool

/-!
## Widths of numbers

Many numbers are kept in words of 64 bits, with a sign or without.
-/

/-- The first number that does not fit a word without a sign. -/
def wordLimit : Nat := 18446744073709551616

/-- The first number that does not fit a word with a sign. -/
def wordEnd : Int := 9223372036854775808

def fitsWord (n : Int) : Bool := decide (-wordEnd ≤ n) && decide (n < wordEnd)

/-! ## Binary fractions -/

/-- A format of binary numbers: how many bits a mantissa has, the least power of two a mantissa
is multiplied with, and the power of two that is too great. -/
structure BinaryFormat where
  bits : Nat
  least : Int
  limit : Int

namespace BinaryFormat

def double : BinaryFormat := ⟨53, -1074, 1024⟩

/-- Numbers with a mantissa of a whole word. -/
def extended : BinaryFormat := ⟨64, -16445, 16384⟩

end BinaryFormat

/-- A number of limited precision, without its sign. -/
inductive Magnitude
  | finite (mantissa : Nat) (exponent : Int)
  | infinite
  | notNumber
  deriving DecidableEq

/-- A quotient rounded to the nearest whole number, a half to the even one. -/
def roundedQuotient (num den : Nat) : Nat :=
  let q := num / den
  let twice := 2 * (num % den)
  if twice > den || (twice == den && q % 2 == 1) then q + 1 else q

/-- A quotient times a power of a base, as a quotient. -/
def scaled (base : Nat) (power : Int) (num den : Nat) : Nat × Nat :=
  if power < 0 then (num, den * Nat.pow base power.natAbs)
  else (num * Nat.pow base power.natAbs, den)

namespace BinaryFormat

/-- The exponent that leaves a mantissa of full size for a quotient. -/
def exponentOf (f : BinaryFormat) (num den : Nat) : Int :=
  let guess : Int := (Nat.log2 num : Int) - (Nat.log2 den : Int) - (f.bits - 1 : Nat)
  let (n, d) := scaled 2 (-guess) num den
  let exponent := if n < d * Nat.pow 2 (f.bits - 1) then guess - 1 else guess
  max exponent f.least

/-- The number nearest to a quotient, and whether the format cannot hold anything close to it. -/
def nearest (f : BinaryFormat) (num den : Nat) : Magnitude × Bool :=
  if num = 0 then (.finite 0 0, false)
  else
    let exponent := f.exponentOf num den
    let (n, d) := scaled 2 (-exponent) num den
    let mantissa := roundedQuotient n d
    let top : Int := exponent + Nat.log2 mantissa
    if mantissa ≠ 0 ∧ f.limit ≤ top then (.infinite, true)
    else
      let isSmall := mantissa < Nat.pow 2 (f.bits - 1)
      (.finite mantissa exponent, isSmall && mantissa * d != n)

end BinaryFormat

/-! ## Numerals -/

namespace Fixed

def digits (n : Nat) : List Char := (toString n).toList

/-- Digits with zeros in front up to a length. -/
def padded (length : Nat) (ds : List Char) : List Char :=
  List.replicate (length - ds.length) '0' ++ ds

/-- A point and the places behind it; an `open_` point stands even without places. -/
def fraction (open_ : Bool) (places : List Char) : List Char :=
  if places.isEmpty && !open_ then [] else '.' :: places

def fixed (places : Nat) (open_ : Bool) (num den : Nat) : List Char :=
  let ds := padded (places + 1) (digits (roundedQuotient (num * Nat.pow 10 places) den))
  let whole := ds.length - places
  ds.take whole ++ fraction open_ (ds.drop whole)

/-- The power of ten of the first digit of a quotient. -/
def orderOf (num den : Nat) : Int :=
  if num = 0 then 0
  else
    let guess : Int := ((digits num).length : Int) - (digits den).length
    let (n, d) := scaled 10 (-guess) num den
    if n < d then guess - 1 else guess

/-- The quotient rounded to one digit and a number of places: its digits and the power of ten
of the first. -/
def rounded (places : Nat) (num den : Nat) : List Char × Int :=
  let order := orderOf num den
  let (n, d) := scaled 10 ((places : Int) - order) num den
  let ds := padded (places + 1) (digits (roundedQuotient n d))
  if ds.length > places + 1 then (ds.take (places + 1), order + 1) else (ds, order)

def exponent (least : Nat) (n : Int) : List Char :=
  (if n < 0 then '-' else '+') :: padded least (digits n.natAbs)

def scientific (places : Nat) (open_ : Bool) (num den : Nat) : List Char :=
  let (ds, order) := rounded places num den
  ds.take 1 ++ fraction open_ (ds.drop 1) ++ 'e' :: exponent 2 order

def withoutEndZeros (text : List Char) : List Char :=
  if text.contains '.' then
    let kept := text.reverse.dropWhile (· == '0')
    (if kept.head? = some '.' then kept.tail else kept).reverse
  else text

/-- The quotient with a number of digits that count, with an exponent if it is very great or
small; zeros at the end of the fraction are left out unless `full`. -/
def general (precision : Nat) (full : Bool) (num den : Nat) : List Char :=
  let precision := max precision 1
  let (ds, order) := rounded (precision - 1) num den
  let trimmed (text : List Char) : List Char := if full then text else withoutEndZeros text
  if order < -4 ∨ (precision : Int) ≤ order then
    trimmed (ds.take 1 ++ fraction full (ds.drop 1)) ++ 'e' :: exponent 2 order
  else trimmed (fixed ((precision : Int) - 1 - order).toNat full num den)

end Fixed

namespace Hexadecimal

/-- A mantissa of whole hexadecimal digits behind the first, cut to a number of places. -/
def cut (places : Nat) (available : Nat) (mantissa : Nat) : Nat :=
  if available ≤ places then mantissa * Nat.pow 16 (places - available)
  else roundedQuotient mantissa (Nat.pow 16 (available - places))

/-- A number with its mantissa in hexadecimal digits and a power of two. The first digit holds
`lead` bits of a mantissa of full size. -/
def written (f : BinaryFormat) (lead : Nat) (places : Option Nat) (open_ : Bool)
    (mantissa : Nat) (exponent : Int) : List Char :=
  let available := (f.bits - lead + 3) / 4
  let digit (n : Nat) : List Char := Nat.toDigits 16 n
  let power : Int := if mantissa = 0 then 0 else exponent + 4 * (available : Int)
  let mark (n : Int) : List Char :=
    'p' :: (if n < 0 then '-' else '+') :: Fixed.digits n.natAbs
  match places with
  | none =>
    let ds := Fixed.padded (available + 1) (digit mantissa)
    let places := ((ds.drop 1).reverse.dropWhile (· == '0')).reverse
    ds.take 1 ++ Fixed.fraction open_ places ++ mark power
  | some p =>
    let ds := Fixed.padded (p + 1) (digit (cut p available mantissa))
    if ds.length > p + 1 then
      ds.take 1 ++ Fixed.fraction open_ (List.replicate p '0') ++ mark (power + 4)
    else ds.take 1 ++ Fixed.fraction open_ (ds.drop 1) ++ mark power

end Hexadecimal

end BuildTool
