import BuildTool.Calendar.Zone
import BuildTool.Text.Split

/-!
# Reading dates and times

Dates are written `2021-03-09`, times behind them `T15:00:00.5`, and an offset may follow. Fields
may have fewer digits than usual and blanks in front. A year may have a sign, and only then more
than four digits. A second of 60 is the second after 59 without being the first of the next minute.
-/

namespace BuildTool.Calendar

def dropBlanks (s : List Char) : List Char := s.dropWhile Text.isBlank

def digits? (most : Nat) (s : List Char) : Option (Nat × List Char) :=
  let found := (s.take most).takeWhile Char.isDigit
  let value := found.foldl (fun n c => n * 10 + (c.toNat - '0'.toNat)) 0
  if found.isEmpty ∨ Nat.pow 2 63 ≤ value then none else some (value, s.drop found.length)

/-- Reads a field of at most two digits with a value from `low` to `high`. -/
def field? (low high : Nat) (s : List Char) : Option (Nat × List Char) :=
  (digits? 2 (dropBlanks s)).filter fun (n, _) => low ≤ n ∧ n ≤ high

def year? (s : List Char) : Option (Int × List Char) :=
  match dropBlanks s with
  | '-' :: rest => (digits? rest.length rest).map fun (n, rest) => (-(n : Int), rest)
  | '+' :: rest => (digits? rest.length rest).map fun (n, rest) => ((n : Int), rest)
  | rest => (digits? 4 rest).map fun (n, rest) => ((n : Int), rest)

/-- Reads a character; `loose` allows blanks in front of it. -/
def mark? (loose : Bool) (c : Char) (s : List Char) : Option (List Char) :=
  match if loose then dropBlanks s else s with
  | d :: rest => if c = d then some rest else none
  | [] => none

def yearInRange (year : Int) : Bool := -262143 ≤ year ∧ year ≤ 262142

def date? (loose : Bool) (s : List Char) : Option (Date × List Char) := do
  let (year, s) ← year? s
  let (month, s) ← field? 1 12 (← mark? loose '-' s)
  let (day, s) ← field? 1 31 (← mark? loose '-' s)
  return (⟨year, month, day⟩, s)

/-- Reads the fraction of a second in nanoseconds; what lies below them is skipped. -/
def fraction? (s : List Char) : Option (Nat × List Char) :=
  match s with
  | '.' :: rest => do
    let (n, after) ← digits? 9 rest
    return (n * Nat.pow 10 (9 - (rest.length - after.length)), after.dropWhile Char.isDigit)
  | _ => some (0, s)

/-- Reads a time: the second of the day and the nanosecond. -/
def time? (s : List Char) : Option ((Nat × Nat) × List Char) := do
  let (hour, s) ← field? 0 23 s
  let (minute, s) ← field? 0 59 (← mark? true ':' s)
  let (second, s) ← field? 0 60 (← mark? true ':' s)
  let (nanosecond, s) ← fraction? s
  let extra := if second = 60 then 1 else 0
  return ((hour * 3600 + minute * 60 + second - extra, extra * 1000000000 + nanosecond), s)

def momentOf? (d : Date) (time : Nat × Nat) : Option Moment :=
  if d.isValid ∧ yearInRange d.year then some ⟨d.toDays, time.1, time.2⟩ else none

/-- Reads two digits as a number. -/
def pair? : List Char → Option (Nat × List Char)
  | a :: b :: rest =>
    if a.isDigit ∧ b.isDigit then
      some ((a.toNat - '0'.toNat) * 10 + (b.toNat - '0'.toNat), rest)
    else none
  | _ => none

/-- Reads an offset: `Z`, or a sign, hours and minutes with colons and blanks between them or
not. The sign may be the minus sign of mathematics. -/
def offset? : List Char → Option (Int × List Char)
  | [] => none
  | sign :: rest =>
    if sign = 'Z' ∨ sign = 'z' then some (0, rest)
    else do
      let negative ←
        if sign = '+' then some false
        else if sign = '-' ∨ sign = '−' then some true
        else none
      let (hours, rest) ← pair? rest
      let (minutes, rest) ← pair? (rest.dropWhile fun c => c == ':' || Text.isBlank c)
      if minutes < 60 then
        let seconds : Int := hours * 3600 + minutes * 60
        some (if negative then -seconds else seconds, rest)
      else none

/-- Reads the name of universal time or an offset. -/
def zoneOffset? (s : List Char) : Option (Int × List Char) :=
  if (s.take 3).map Char.toUpper = ['U', 'T', 'C'] then some (0, s.drop 3) else offset? s

def Date.read? (text : String) : Option Date :=
  match date? false text.toList with
  | some (d, []) => if d.isValid ∧ yearInRange d.year then some d else none
  | _ => none

/-- The moment that a text like `2021-03-09T15:00:00` names. -/
def Moment.read? (text : String) : Option Moment := do
  let (d, s) ← date? true text.toList
  let (time, s) ← time? (← mark? true 'T' s)
  if (dropBlanks s).isEmpty then momentOf? d time else none

/-- The stamp that a text like `2021-03-09T15:00:00+01:00` names. -/
def Stamp.read? (text : String) : Option Stamp := do
  let (d, s) ← date? true text.toList
  let s ← match s with
    | c :: rest => if c = 'T' ∨ c = 't' ∨ c = ' ' then some rest else none
    | [] => none
  let (time, s) ← time? s
  let (offset, s) ← zoneOffset? (dropBlanks s)
  let shown ← momentOf? d time
  if (dropBlanks s).isEmpty ∧ offset.natAbs < 86400 ∧
      yearInRange (shown.later (-offset)).date.year then
    some ⟨shown, offset, offsetName offset⟩
  else none

end BuildTool.Calendar
