import BuildTool.Calendar.Layout
import BuildTool.Calendar.Reading
import BuildTool.Template.Filter.Text

/-!
# Filters that read and make numbers and dates
-/

namespace BuildTool.Template.Filter

def digitIn? (base : Nat) (c : Char) : Option Nat :=
  let value :=
    if c.isDigit then some (c.toNat - 48)
    else if c.isAlpha then some (c.toLower.toNat - 87)
    else none
  value.filter (· < base)

/-- Reads a whole number in a base, with a sign in front or not. -/
def intIn? (base : Nat) (s : List Char) : Option Int := do
  let (negative, digits) := match s with
    | '-' :: rest => (true, rest)
    | '+' :: rest => (false, rest)
    | _ => (false, s)
  if digits.isEmpty then none
  let n ← digits.foldlM (fun (n : Nat) c => (digitIn? base c).map (n * base + ·)) 0
  let value : Int := if negative then -(n : Int) else n
  if fitsWord value then some value else none

/-- The exponent of a number, kept within bounds beyond which it changes nothing. -/
def exponentIn? (s : List Char) : Option Int :=
  let (negative, digits) := match s with
    | '-' :: rest => (true, rest)
    | '+' :: rest => (false, rest)
    | _ => (false, s)
  if digits.isEmpty ∨ !digits.all Char.isDigit then none
  else
    let n : Nat := digits.foldl (fun (n : Nat) c => min 100000 (n * 10 + (c.toNat - 48))) 0
    some (if negative then -(n : Int) else n)

/-- The numbers that have a name, in lower case. -/
def namedFloat? (s : List Char) : Option Float :=
  match String.ofList (s.map Char.toLower) with
  | "inf" | "infinity" => some (1.0 / 0.0)
  | "nan" => some (0.0 / 0.0)
  | _ => none

/-- Reads a number with or without a point and an exponent, or by its name. -/
def floatIn? (s : List Char) : Option Float := do
  let (negative, rest) := match s with
    | '-' :: rest => (true, rest)
    | '+' :: rest => (false, rest)
    | _ => (false, s)
  if let some x := namedFloat? rest then return if negative then -x else x
  let whole := rest.takeWhile Char.isDigit
  let rest := rest.drop whole.length
  let (places, rest) := match rest with
    | '.' :: more => (more.takeWhile Char.isDigit, more.dropWhile Char.isDigit)
    | _ => ([], rest)
  if whole.isEmpty ∧ places.isEmpty then none
  let exponent ← match rest with
    | [] => some (0 : Int)
    | c :: more => if c == 'e' || c == 'E' then exponentIn? more else none
  let digits := (whole ++ places).foldl (fun n c => n * 10 + (c.toNat - 48)) 0
  let power := exponent - places.length
  let x := Float.ofScientific digits (power < 0) (min power.natAbs 100000)
  return if negative then -x else x

/-- The whole number that is left of a floating-point number without its fraction. -/
def truncated (x : Float) : Int := x.toInt64.toInt

/-- The text without copies of a mark for its base in front. -/
def withoutMark (base : Nat) (s : String) : List Char :=
  let mark := match base with
    | 2 => ['0', 'b']
    | 8 => ['0', 'o']
    | 16 => ['0', 'x']
    | _ => []
  withoutFront mark s.length s.toList

/-- A whole number read from a text, or what is left of a number without its fraction. -/
def int : Transform := fun v arguments => do
  let otherwise ← argument "int" "default" .int 0 arguments
  let base ← argument "int" "base" .word 10 arguments
  match v with
  | .text s =>
    let s := Text.trim s
    let digits := withoutMark base s
    match intIn? base digits with
    | some n => return .int n
    | none =>
      if digits.contains '.' then
        return .int (((floatIn? digits).map truncated).getD otherwise)
      return .int otherwise
  | .number n => return .int (truncated n.toFloat)
  | _ => .error (.refused "Filter `int` received an unexpected type")

/-- A floating-point number read from a text. -/
def float : Transform := fun v arguments => do
  let otherwise ← argument "float" "default" .float 0.0 arguments
  match v with
  | .text s =>
    return .float ((floatIn? (Text.trim s).toList).getD otherwise)
  | .number n => return .number (.float n.toFloat)
  | _ => .error (.refused "Filter `float` received an unexpected type")

def abs : Transform := fun v _ =>
  match v with
  | .number (.int n) => .ok (.int n.natAbs)
  | .number (.float x) => .ok (.number (.float x.abs))
  | _ => .error (.refused "Filter `abs` was used on a value that isn't a number.")

/-- The ending for one of something or for several. -/
def pluralize : Transform := fun v arguments => do
  let n ← subject "pluralize" .float v
  let plural ← argument "pluralize" "plural" .text "s" arguments
  let singular ← argument "pluralize" "singular" .text "" arguments
  return .text (if (n.abs - 1.0).abs > 2.220446049250313e-16 then plural else singular)

/-- A power of ten by repeated squaring, `squared` being ten to the weight of the lowest digit
of the exponent. -/
def powerOfTen : Nat → Nat → Float → Float → Float
  | 0, _, _, product => product
  | fuel + 1, n, squared, product =>
    let product := if n % 2 = 1 then product * squared else product
    if n / 2 = 0 then product else powerOfTen fuel (n / 2) (squared * squared) product

def round : Transform := fun v arguments => do
  let n ← subject "round" .float v
  let method ← argument "round" "method" .text "common" arguments
  let precision ← argument "round" "precision" .smallInt 0 arguments
  let power := powerOfTen 32 precision.natAbs 10.0 1.0
  let factor := if precision < 0 then 1.0 / power else power
  let rounded (f : Float → Float) : Except EvalError Value := .ok (.float (f (factor * n) / factor))
  match method with
  | "common" => rounded Float.round
  | "ceil" => rounded Float.ceil
  | "floor" => rounded Float.floor
  | _ =>
    .error (.refused ("Filter `round` received an incorrect value for arg `method`: got `" ++
      Text.quoted method ++ "`, only common, ceil and floor are allowed"))

/-- The units of sizes, each 1024 times the one before it. -/
def sizeUnits (binary : Bool) : List String :=
  if binary then ["B", "KiB", "MiB", "GiB", "TiB", "PiB", "EiB", "ZiB", "YiB"]
  else ["B", "kB", "MB", "GB", "TB", "PB", "EB", "ZB", "YB"]

/-- The quotient rounded to the nearest whole number, a tie to the even one. -/
def roundedQuotient (n d : Nat) : Nat :=
  let q := n / d
  let r := 2 * (n % d)
  if r > d ∨ (r = d ∧ q % 2 = 1) then q + 1 else q

/-- A size in bytes in the largest unit that it fills, with two places if it has a fraction that
a floating-point number tells from zero. -/
def sizeText (binary : Bool) (n : Nat) : String :=
  let n := (Float.ofNat n).toUInt64.toNat
  let step := Nat.log2 (max n 1) / 10
  let unit := Nat.pow 1024 step
  let number :=
    if n % unit * Nat.pow 2 52 ≤ unit then toString (n / unit)
    else
      let hundredths := roundedQuotient (n * 100) unit
      toString (hundredths / 100) ++ "." ++ toString (hundredths / 10 % 10) ++
        toString (hundredths % 10)
  number ++ " " ++ ((sizeUnits binary)[step]?.getD "")

/-- A number of bytes in a unit for people. -/
def fileSize : Transform := fun v arguments => do
  let n ← subject "filesizeformat" .size v
  return .text (sizeText (← argument "filesizeformat" "binary" .bool false arguments) n)

/-- The stamp that a value names: seconds since the beginning of 1970, a date, or a date and time
with an offset or without one. Only the first and the last but one are told in the zone. -/
def stampOf (zone : Option Calendar.Zone) : Value → Except EvalError Calendar.Stamp
  | .number n =>
    match ArgumentType.int.read (.number n) with
    | some seconds =>
      let m : Calendar.Moment := ⟨seconds / 86400, (seconds % 86400).toNat, 0⟩
      return (zone.map fun z => .within z m).getD (.universal m)
    | none => .error (.refused ("Filter `date` was invoked on a float: " ++ n.asData))
  | .text s =>
    let unread (what : String) : Except EvalError Calendar.Stamp :=
      .error (.refused ("Error parsing `" ++ Text.quoted s ++ "` as " ++ what))
    if s.toList.contains 'T' then
      match Calendar.Stamp.read? s, Calendar.Moment.read? s with
      | some stamp, _ => return (zone.map fun z => .within z stamp.moment).getD stamp
      | none, some m => return .universal m
      | none, none => unread "rfc3339 date or naive datetime"
    else
      match Calendar.Date.read? s with
      | some d => return .universal ⟨d.toDays, 0, 0⟩
      | none => unread "YYYY-MM-DD date"
  | v =>
    .error (.refused ("Filter `date` received an incorrect type for arg `value`: got `" ++
      v.described ++ "` but expected i64|u64|String"))

/-- A time or date in a layout. -/
def date : Transform := fun v arguments => do
  let text ← argument "date" "format" .text "%Y-%m-%d" arguments
  match Calendar.Layout.read? text with
  | none => .error (.refused ("Invalid date format `" ++ text ++ "`"))
  | some layout =>
    let zone ← match ← argument? "date" "timezone" .text arguments with
      | none => pure none
      | some name =>
        match Calendar.Zone.named? name with
        | some zone => pure (some zone)
        | none => .error (.refused ("Error parsing `" ++ name ++ "` as a timezone"))
    return .text ((layout.write? (← stampOf zone v)).getD "")

/-- The filters on numbers by name. -/
def onNumbers : List (String × Transform) :=
  [("int", int), ("float", float), ("abs", abs), ("pluralize", pluralize), ("round", round),
    ("filesizeformat", fileSize), ("date", date)]

end BuildTool.Template.Filter
