import BuildTool.Number.Binary

/-!
# Numerals at the beginning of texts

A numeral is read as far as it goes, after blanks and a sign; what follows it is left. Whole
numbers are decimal, octal after a zero or hexadecimal after `0x`. Binary fractions have a
decimal or hexadecimal mantissa and an exponent, or are one of the words for infinity and for
what is no number.
-/

namespace BuildTool.Numeral

def isBlank (c : Char) : Bool := c == ' ' || ('\t' ≤ c && c ≤ '\r')

def digit? (base : Nat) (c : Char) : Option Nat :=
  let n :=
    if '0' ≤ c ∧ c ≤ '9' then c.toNat - '0'.toNat
    else if 'a' ≤ c ∧ c ≤ 'f' then c.toNat - 'a'.toNat + 10
    else if 'A' ≤ c ∧ c ≤ 'F' then c.toNat - 'A'.toNat + 10
    else 16
  if n < base then some n else none

/-- At most `most` digits onto a number, and what follows them. -/
def digits (base : Nat) : Nat → Nat → List Char → Nat × List Char
  | 0, value, text => (value, text)
  | _ + 1, value, [] => (value, [])
  | most + 1, value, c :: rest =>
    match digit? base c with
    | some d => digits base most (value * base + d) rest
    | none => (value, c :: rest)

theorem length_digits_le (base most value : Nat) (text : List Char) :
    (digits base most value text).2.length ≤ text.length := by
  induction most generalizing value text with
  | zero => simp [digits]
  | succ most ih =>
    cases text with
    | nil => simp [digits]
    | cons c rest =>
      unfold digits
      split
      · exact Nat.le_succ_of_le (ih ..)
      · simp

/-- Takes a sign: whether the number is negative, and the rest. -/
def sign : List Char → Bool × List Char
  | '-' :: rest => (true, rest)
  | '+' :: rest => (false, rest)
  | text => (false, text)

/-- The digits of a whole number in a base, if there is one. -/
def inBase? (base : Nat) (text : List Char) : Option (Nat × List Char) :=
  match text with
  | [] => none
  | c :: _ => (digit? base c).map fun _ => digits base text.length 0 text

/-- A whole number without a sign, whose beginning tells its base. -/
def whole? (text : List Char) : Option (Nat × List Char) :=
  let octal := inBase? 8 text
  match text with
  | '0' :: 'x' :: rest | '0' :: 'X' :: rest => (inBase? 16 rest).or octal
  | '0' :: _ => octal
  | _ => inBase? 10 text

/-- What was read of a text: a value, what follows it, and whether the value had to be brought
into the range of its kind. -/
structure Found (α : Type) where
  value : α
  rest : List Char
  outOfRange : Bool := false

/-- A whole number with a sign; `read` reads its digits. -/
def signed? (read : List Char → Option (Nat × List Char)) (text : List Char) :
    Option (Bool × Nat × List Char) :=
  let (negative, text) := sign (text.dropWhile isBlank)
  (read text).map fun p => (negative, p.1, p.2)

/-- The nearest number that a word with a sign holds. -/
def clamped (n : Int) : Int := max (-wordEnd) (min (wordEnd - 1) n)

/-- A whole number as a word with a sign; nothing is zero. -/
def word (read : List Char → Option (Nat × List Char)) (text : List Char) : Found Int :=
  match signed? read text with
  | none => { value := 0, rest := text }
  | some (negative, n, rest) =>
    let value : Int := if negative then -n else n
    { value := clamped value, rest, outOfRange := !fitsWord value }

/-- A whole number as a word without a sign, in which negative numbers count from the top. -/
def unsignedWord (read : List Char → Option (Nat × List Char)) (text : List Char) : Found Nat :=
  match signed? read text with
  | none => { value := 0, rest := text }
  | some (negative, n, rest) =>
    if wordLimit ≤ n then { value := wordLimit - 1, rest, outOfRange := true }
    else { value := if negative then (wordLimit - n) % wordLimit else n, rest }

def countLimit : Int := 2147483647

/-- The count that a text is: a whole number, with blanks around it at most. -/
def count? (text : String) : Option Nat :=
  let found := word (inBase? 10) text.toList
  if found.rest.length = text.length ∨ found.rest.any (fun c => !isBlank c) ∨
      found.value < 0 ∨ countLimit < found.value then none
  else some found.value.toNat

/-! ## Binary fractions -/

/-- Takes a word in small or capital letters. -/
def afterWord? : List Char → List Char → Option (List Char)
  | [], text => some text
  | _ :: _, [] => none
  | w :: word, c :: text => if c.toLower = w then afterWord? word text else none

/-- An exponent behind its letter; without digits there is none. -/
def exponent (letter : Char) (text : List Char) : Int × List Char :=
  match text with
  | c :: more =>
    if c.toLower = letter then
      let (negative, ds) := sign more
      match inBase? 10 ds with
      | some (n, rest) => (if negative then -(n : Int) else n, rest)
      | none => (0, text)
    else (0, text)
  | [] => (0, text)

/-- The digits of a mantissa in a base, with the number of them behind the point. -/
def mantissa? (base : Nat) (text : List Char) : Option (Nat × Nat × List Char) :=
  let (value, rest) := digits base text.length 0 text
  let before := text.length - rest.length
  match rest with
  | '.' :: more =>
    let (value, after) := digits base more.length value more
    let places := more.length - after.length
    if before + places = 0 then none else some (value, places, after)
  | _ => if before = 0 then none else some (value, 0, rest)

/-- The greatest size of an exponent that is worked out; beyond it every number is too great or
too small. -/
def exponentLimit : Nat := 20000

def inFormat (f : BinaryFormat) (base mantissa : Nat) (power : Int) : Magnitude × Bool :=
  let size : Int := (Fixed.digits mantissa).length
  if mantissa = 0 then (.finite 0 0, false)
  else if power + size > exponentLimit then (.infinite, true)
  else if power + size < -(exponentLimit : Int) then (.finite 0 0, true)
  else
    let (num, den) := scaled base power mantissa 1
    f.nearest num den

/-- The characters in the parentheses that may follow the word for what is no number. -/
def isTag (c : Char) : Bool := c.isAlphanum || c == '_'

/-- A binary fraction without its sign. -/
def magnitude? (f : BinaryFormat) (text : List Char) : Option (Magnitude × Bool × List Char) :=
  match afterWord? "inf".toList text with
  | some rest => some (.infinite, false, (afterWord? "inity".toList rest).getD rest)
  | none =>
    match afterWord? "nan".toList text with
    | some rest =>
      match rest with
      | '(' :: more =>
        match more.dropWhile isTag with
        | ')' :: after => some (.notNumber, false, after)
        | _ => some (.notNumber, false, rest)
      | _ => some (.notNumber, false, rest)
    | none =>
      let decimal : Option (Magnitude × Bool × List Char) :=
        (mantissa? 10 text).map fun (m, places, rest) =>
          let (power, rest) := exponent 'e' rest
          let (value, outOfRange) := inFormat f 10 m (power - places)
          (value, outOfRange, rest)
      match text with
      | '0' :: x :: more =>
        if x.toLower = 'x' then
          match mantissa? 16 more with
          | some (m, places, rest) =>
            let (power, rest) := exponent 'p' rest
            let (value, outOfRange) := inFormat f 2 m (power - 4 * places)
            some (value, outOfRange, rest)
          | none => decimal
        else decimal
      | _ => decimal

/-- A binary fraction with its sign: whether it is negative, and its size. -/
def fraction (f : BinaryFormat) (text : List Char) : Found (Bool × Magnitude) :=
  let (negative, digits) := sign (text.dropWhile isBlank)
  match magnitude? f digits with
  | none => { value := (false, .finite 0 0), rest := text }
  | some (value, outOfRange, rest) => { value := (negative, value), rest, outOfRange }

end BuildTool.Numeral
