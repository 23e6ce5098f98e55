import BuildTool.Text.Split

/-!
# The calendar

Days are counted from the first of January 1970. The calendar has its leap years by the rule of
four hundred years throughout, also before that rule was made.
-/

/-!
## Points in time
-/

namespace BuildTool

/-- A point in time: nanoseconds since the beginning of 1970, negative before. -/
abbrev Time := Int

end BuildTool

/-! ## Days and dates -/

namespace BuildTool.Calendar

/-- A day of a month of a year; months and days begin at one. -/
structure Date where
  year : Int
  month : Nat
  day : Nat
  deriving DecidableEq, Repr

/-- The year has a twenty-ninth of February. -/
def isLeap (year : Int) : Bool := year % 4 = 0 ∧ (year % 100 ≠ 0 ∨ year % 400 = 0)

def monthLength (year : Int) (month : Nat) : Nat :=
  match month with
  | 4 | 6 | 9 | 11 => 30
  | 2 => if isLeap year then 29 else 28
  | _ => 31

def daysBeforeMonth (year : Int) (month : Nat) : Nat :=
  (List.range (month - 1)).foldl (fun days m => days + monthLength year (m + 1)) 0

/-- The days from the beginning of 1970 to the beginning of a year. -/
def daysBeforeYear (year : Int) : Int :=
  let y := year - 1
  365 * (year - 1970) + (y / 4 - y / 100 + y / 400) - 477

namespace Date

def isValid (d : Date) : Bool :=
  1 ≤ d.month && d.month ≤ 12 && 1 ≤ d.day && d.day ≤ monthLength d.year d.month

/-- The day of the year, beginning at one. -/
def dayOfYear (d : Date) : Nat := daysBeforeMonth d.year d.month + d.day

def toDays (d : Date) : Int := daysBeforeYear d.year + d.dayOfYear - 1

/-- The month and day of the `n`th day of a year, counted from zero, looked for from `month`
on. -/
def ofDayOfYear (year : Int) (n : Nat) : Nat → Nat → Date
  | 0, month => ⟨year, month, n + 1⟩
  | fuel + 1, month =>
    if n < monthLength year month then ⟨year, month, n + 1⟩
    else ofDayOfYear year (n - monthLength year month) fuel (month + 1)

def ofDays (days : Int) : Date :=
  let guess := 1970 + days * 400 / 146097
  let year :=
    if days < daysBeforeYear guess then guess - 1
    else if daysBeforeYear (guess + 1) ≤ days then guess + 1
    else guess
  ofDayOfYear year (days - daysBeforeYear year).toNat 11 1

end Date

/-- The day of the week, Sunday being zero. -/
def weekday (days : Int) : Nat := ((days + 4) % 7).toNat

/-- The names of the days of the week, from Sunday. -/
def weekdayNames : List String :=
  ["Sunday", "Monday", "Tuesday", "Wednesday", "Thursday", "Friday", "Saturday"]

def monthNames : List String :=
  ["January", "February", "March", "April", "May", "June", "July", "August", "September",
    "October", "November", "December"]

/-- The first three letters of a name. -/
def short (name : String) : String := String.ofList (name.toList.take 3)

def weekdayName (n : Nat) : String := weekdayNames[n]?.getD ""

def monthName (month : Nat) : String := monthNames[month - 1]?.getD ""

def twoDigits (n : Nat) : String := if n < 10 then "0" ++ toString n else toString n

/-- A year of at least four digits, with its sign where there are more or it is negative. -/
def yearText (year : Int) : String :=
  let digits := toString year.natAbs
  let filled := String.ofList (List.replicate (4 - digits.length) '0') ++ digits
  if year < 0 then "-" ++ filled
  else if 9999 < year then "+" ++ filled
  else filled

/-- The week that a day belongs to and the year of that week: weeks begin on Monday and belong
to the year that has their Thursday. -/
def weekOf (days : Int) : Int × Nat :=
  let thursday := days - ((weekday days + 6) % 7 : Nat) + 3
  let d := Date.ofDays thursday
  (d.year, (d.dayOfYear - 1) / 7 + 1)

/-- A moment: its day, the second of the day, and the nanosecond of the second. -/
structure Moment where
  days : Int
  second : Nat
  nanosecond : Nat
  deriving DecidableEq, Repr

namespace Moment

def ofTime (time : Time) : Moment :=
  let seconds := time / 1000000000
  ⟨seconds / 86400, (seconds % 86400).toNat, (time % 1000000000).toNat⟩

/-- The seconds since the beginning of 1970. -/
def toSeconds (m : Moment) : Int := m.days * 86400 + m.second

def date (m : Moment) : Date := Date.ofDays m.days

def hour (m : Moment) : Nat := m.second / 3600

def minute (m : Moment) : Nat := m.second / 60 % 60

def dialHour (m : Moment) : Nat := if m.hour % 12 = 0 then 12 else m.hour % 12

end Moment

end BuildTool.Calendar

/-!
## Occasions

An occasion is a point of every year, such as two o'clock on the last Sunday of March. Which
moment it is depends on the clock that tells its time. Its written form has a month, a day and a
time, of which the last ones may be missing:

    Mar lastSu 1u      S Su>=8 2      O 15
-/

namespace BuildTool.Calendar

/-- How the day of an occasion is found in its month. -/
inductive DayChoice
  | on (day : Nat)
  | last (weekday : Nat)
  | onOrAfter (weekday day : Nat)
  | onOrBefore (weekday day : Nat)
  deriving DecidableEq, Repr

/-- The count of the chosen day of a month. -/
def DayChoice.toDays (year : Int) (month : Nat) : DayChoice → Int
  | .on day => (Date.mk year month day).toDays
  | .last wanted =>
    let finish := (Date.mk year month (monthLength year month)).toDays
    finish - ((weekday finish + 7 - wanted) % 7 : Nat)
  | .onOrAfter wanted day =>
    let start := (Date.mk year month day).toDays
    start + ((wanted + 7 - weekday start) % 7 : Nat)
  | .onOrBefore wanted day =>
    let finish := (Date.mk year month day).toDays
    finish - ((weekday finish + 7 - wanted) % 7 : Nat)

/-- The clocks that tell a time: the one on the wall, one that is never put forward, and one that
shows universal time. -/
inductive Clock
  | wall
  | standard
  | universal
  deriving DecidableEq, Repr

/-- A point of every year; `time` counts the seconds from the beginning of the day. -/
structure Occasion where
  month : Nat := 1
  day : DayChoice := .on 1
  time : Int := 0
  clock : Clock := .wall
  deriving DecidableEq, Repr

/-- The seconds from the beginning of 1970 to an occasion, where standard time is `standard`
seconds ahead of universal time and clocks are `saving` seconds ahead of that. -/
def Occasion.toSeconds (o : Occasion) (year standard saving : Int) : Int :=
  let ahead := match o.clock with
    | .wall => standard + saving
    | .standard => standard
    | .universal => 0
  o.day.toDays year o.month * 86400 + o.time - ahead

/-! ### Reading -/

/-- The place of the first name that begins with some letters. -/
def abbreviated? (names : List String) (s : List Char) : Option Nat :=
  names.findIdx? fun name => (Text.dropStart? s name.toList).isSome

/-- Hours with minutes and seconds or without them, in seconds. -/
def duration? (s : List Char) : Option Int := do
  let (negative, s) := match s with
    | '-' :: rest => (true, rest)
    | _ => (false, s)
  let parts ← (Text.splitChar ':' s).mapM fun part => (String.ofList part).toNat?
  let seconds : Int := match parts with
    | [h] => h * 3600
    | [h, m] => h * 3600 + m * 60
    | h :: m :: s :: _ => h * 3600 + m * 60 + s
    | [] => 0
  return if negative then -seconds else seconds

def DayChoice.read? (s : List Char) : Option DayChoice :=
  match Text.dropStart? ['l', 'a', 's', 't'] s with
  | some name => (abbreviated? weekdayNames name).map .last
  | none =>
    match Text.splitText ['>', '='] s, Text.splitText ['<', '='] s with
    | [name, day], _ => do
      return .onOrAfter (← abbreviated? weekdayNames name) (← (String.ofList day).toNat?)
    | _, [name, day] => do
      return .onOrBefore (← abbreviated? weekdayNames name) (← (String.ofList day).toNat?)
    | _, _ => (String.ofList s).toNat?.map .on

/-- A time with a letter behind it for its clock. -/
def clockTime? (s : List Char) : Option (Int × Clock) :=
  match s.getLast? with
  | some 's' => (duration? s.dropLast).map (·, .standard)
  | some 'u' => (duration? s.dropLast).map (·, .universal)
  | _ => (duration? s).map (·, .wall)

/-- An occasion from the words that name it. -/
def Occasion.read? : List (List Char) → Option Occasion
  | [] => some {}
  | month :: rest => do
    let month := (← abbreviated? monthNames month) + 1
    match rest with
    | [] => return { month }
    | day :: rest =>
      let day ← DayChoice.read? day
      match rest with
      | [] => return { month, day }
      | time :: _ =>
        let (time, clock) ← clockTime? time
        return { month, day, time, clock }

end BuildTool.Calendar
