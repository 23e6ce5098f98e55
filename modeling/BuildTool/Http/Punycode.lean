import BuildTool.Text.Split

/-!
# Names beyond ASCII in ASCII

A text is written in ASCII letters and digits: first its ASCII characters and a hyphen, then for
each of the other characters, in the order of their codes, how many steps lead to its code and
place. The steps are numbers whose digits have thresholds; the thresholds follow the sizes of the
numbers so far.

    Punycode.encode "bücher".toList           =  "bcher-kva".toList
    Punycode.decode? (Punycode.encode s)      =  some s
-/

namespace BuildTool.Http.Punycode

/-- Divides a step until it is small, counting `k` up by the 36 digits that there are. -/
def biasFrom (step k : Nat) : Nat :=
  if 455 < step then biasFrom (step / 35) (k + 36) else k + 36 * step / (step + 38)
termination_by step
decreasing_by omega

def nextBias (step count : Nat) (isFirst : Bool) : Nat :=
  let step := if isFirst then step / 700 else step / 2
  biasFrom (step + step / count) 0

def threshold (bias k : Nat) : Nat := max 1 (min 26 (k - bias))

theorem one_le_threshold (bias k : Nat) : 1 ≤ threshold bias k := Nat.le_max_left ..

theorem threshold_le (bias k : Nat) : threshold bias k ≤ 26 := by
  unfold threshold
  omega

def digit (n : Nat) : Char :=
  if n < 26 then Char.ofNat ('a'.toNat + n) else Char.ofNat ('0'.toNat + (n - 26))

def value? (c : Char) : Option Nat :=
  if 'a' ≤ c ∧ c ≤ 'z' then some (c.toNat - 'a'.toNat)
  else if 'A' ≤ c ∧ c ≤ 'Z' then some (c.toNat - 'A'.toNat)
  else if c.isDigit then some (c.toNat - '0'.toNat + 26)
  else none

/-! ## Encoding -/

/-- The digits of a number, the lowest one first; `k` grows by 36 from digit to digit. -/
def digits (bias k n : Nat) : List Char :=
  let t := threshold bias k
  if n < t then [digit n] else digit (t + (n - t) % (36 - t)) :: digits bias (k + 36) ((n - t) / (36 - t))
termination_by n
decreasing_by
  have h1 := one_le_threshold bias k
  have h2 := threshold_le bias k
  have h3 : (n - threshold bias k) / (36 - threshold bias k) ≤ n - threshold bias k :=
    Nat.div_le_self ..
  omega

/-- The state of encoding: how many characters are written, the steps since the last one, the
bias, and the text so far. -/
structure Progress where
  written : Nat
  step : Nat := 0
  bias : Nat := 72
  text : List Char

/-- Goes past a character while the code at hand is `code`, writing the character if it has this
code. `plain` is the number of ASCII characters. -/
def pass (plain code : Nat) (p : Progress) (c : Nat) : Progress :=
  if c < code then { p with step := p.step + 1 }
  else if c = code then
    { written := p.written + 1, step := 0
      bias := nextBias p.step (p.written + 1) (p.written = plain)
      text := p.text ++ digits p.bias 36 p.step }
  else p

/-- Writes all characters of the codes, given in ascending order; `next` is the code at hand. -/
def passAll (plain : Nat) (s : List Nat) (next : Nat) (p : Progress) : List Nat → List Char
  | [] => p.text
  | code :: rest =>
    let p := { p with step := p.step + (code - next) * (p.written + 1) }
    let p := s.foldl (pass plain code) p
    passAll plain s (code + 1) { p with step := p.step + 1 } rest

/-- A text in ASCII. -/
def encode (s : List Char) : List Char :=
  let plain := s.filter (·.toNat < 128)
  let start := if plain.isEmpty then [] else plain ++ ['-']
  let codes := s.map Char.toNat
  let others := ((codes.filter (128 ≤ ·)).mergeSort (· ≤ ·)).eraseDups
  passAll plain.length codes 128 { written := plain.length, text := start } others

/-! ## Decoding -/

/-- Reads a number; `k` grows by 36 from digit to digit, and the next one counts `weight`. -/
def number? (bias k weight value : Nat) : List Char → Option (Nat × List Char)
  | [] => none
  | c :: rest =>
    match value? c with
    | none => none
    | some d =>
      let value := value + d * weight
      let t := threshold bias k
      if d < t then some (value, rest)
      else number? bias (k + 36) (weight * (36 - t)) value rest

def isCode (n : Nat) : Bool := n < 0xD800 || (0xDFFF < n && n ≤ 0x10FFFF)

/-- Reads numbers and puts characters among those read so far; `fuel` is the length of the text,
`code` and `place` are the code and the place at hand. -/
def insertFrom? (code place bias : Nat) (isFirst : Bool) (found : List Char) :
    Nat → List Char → Option (List Char)
  | _, [] => some found
  | 0, _ => none
  | fuel + 1, s => do
    let (step, rest) ← number? bias 36 1 0 s
    let count := found.length + 1
    let code := code + (place + step) / count
    let place := (place + step) % count
    if isCode code then
      insertFrom? code (place + 1) (nextBias step count isFirst) false
        (found.take place ++ Char.ofNat code :: found.drop place) fuel rest
    else none

/-- The text that was written in ASCII. A hyphen in front is not that behind ASCII characters. -/
def decode? (s : List Char) : Option (List Char) :=
  let tail := (s.reverse.takeWhile (· != '-')).reverse
  let front := s.take (s.length - tail.length)
  if front = ['-'] then none
  else insertFrom? 128 0 72 true front.dropLast tail.length tail

end BuildTool.Http.Punycode
