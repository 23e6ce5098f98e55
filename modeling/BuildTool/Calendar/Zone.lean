import BuildTool.Calendar.Basic
import BuildTool.Calendar.ZoneRows

/-!
# Time zones

A zone is a place with a history of eras. In an era standard time is a fixed number of seconds
ahead of universal time, and rules say when in a year clocks are put forward and back. From the
eras follow the changes of the zone's clocks, up to the end of the year 2099; what holds then,
holds for ever.

    Zone.named? "Europe/Paris"      the zone of a name
    (zone.spanAt seconds).offset    how far its clocks are ahead at a moment
-/

namespace BuildTool.Calendar

/-- A rule: in the years from `first` to `last` clocks are put on an occasion to be `saving`
seconds ahead of standard time. Its letters go into the abbreviation of the time. -/
structure Rule where
  first : Int
  last : Int
  occasion : Occasion
  saving : Int
  letters : String
  deriving DecidableEq, Repr

/-- How far clocks are ahead of standard time: always as far, or by rules. -/
inductive Saving
  | always (amount : Int)
  | byRules (rules : List Rule)
  deriving DecidableEq, Repr

/-- A stretch of a zone's history. The last era has no end. -/
structure Era where
  standard : Int
  saving : Saving
  abbreviation : String
  stop : Option (Int × Occasion)
  deriving DecidableEq, Repr

structure Span where
  standard : Int
  saving : Int
  abbreviation : String
  deriving DecidableEq, Repr

/-- The seconds by which the clocks are ahead of universal time. -/
def Span.offset (s : Span) : Int := s.standard + s.saving

/-- The span before all changes, and the changes with the second from which each one holds. -/
structure Zone where
  first : Span
  changes : List (Int × Span)
  deriving DecidableEq, Repr

/-! ## Following the rules -/

/-- The abbreviation of a time: one of two on both sides of a slash, or a text in which `%s`
stands for the letters of a rule and `%z` for the offset in hours and minutes. -/
def Era.abbreviationFor (e : Era) (saving : Int) (letters : String) : String :=
  let form := e.abbreviation.toList
  match Text.splitChar '/' form with
  | [plain, saved] => String.ofList (if saving = 0 then plain else saved)
  | _ =>
    let offset := e.standard + saving
    let twoDigits (n : Nat) : List Char := [Nat.digitChar (n / 10 % 10), Nat.digitChar (n % 10)]
    let minutes := offset.natAbs / 60
    let number := (if offset < 0 then '-' else '+') :: twoDigits (minutes / 60) ++
      if minutes % 60 = 0 then [] else twoDigits (minutes % 60)
    String.ofList
      (Text.replaceText ['%', 'z'] number (Text.replaceText ['%', 's'] letters.toList form))

/-- The span that a rule begins in an era. -/
def Era.span (e : Era) (saving : Int) (letters : String) : Span :=
  ⟨e.standard, saving, e.abbreviationFor saving letters⟩

/-- The state of following the rules of an era. Until `starting` is settled, `opening` is what
clocks show at the start of the era. The changes are kept with the latest first. -/
structure Course where
  starting : Option Int
  saving : Int := 0
  opening : Option Span := none
  changes : List (Int × Span) := []

/-- Takes a rule at its second. A rule from before the era's start only says what holds at the
start; one right at the start takes its place. -/
def Course.take (e : Era) (r : Rule) (second : Int) (c : Course) : Course :=
  let span := e.span r.saving r.letters
  let taken := { c with saving := r.saving, changes := (second, span) :: c.changes }
  match c.starting with
  | none => taken
  | some start =>
    if second = start then { taken with starting := none }
    else if second < start then { c with saving := r.saving, opening := some span }
    else if c.opening.isNone ∧ r.saving = 0 then { taken with opening := some span }
    else taken

/-- The rule of some that comes first in a year, with its second. -/
def earliest? (e : Era) (year saving : Int) (rules : List Rule) : Option (Nat × Rule × Int) :=
  rules.zipIdx.foldl (fun best (r, place) =>
    let second := r.occasion.toSeconds year e.standard saving
    match best with
    | some (_, _, other) => if second < other then some (place, r, second) else best
    | none => some (place, r, second)) none

def Era.end? (e : Era) (saving : Int) : Option Int :=
  e.stop.map fun (year, occasion) => occasion.toSeconds year e.standard saving

/-- Takes the rules of a year in the order in which they come, up to the end of the era; `count`
is the number of rules. -/
def Course.takeYear (e : Era) (year : Int) : Nat → List Rule → Course → Course
  | 0, _, c => c
  | count + 1, rules, c =>
    match earliest? e year c.saving rules with
    | none => c
    | some (place, rule, second) =>
      if (e.end? c.saving).any (· ≤ second) then c
      else takeYear e year count (rules.eraseIdx place) (c.take e rule second)

def ruleYears : List Int := (List.range 300).map fun (n : Nat) => 1800 + (n : Int)

def Era.follow (e : Era) (start : Option Int) : Course :=
  match e.saving with
  | .always amount =>
    let opening := e.span amount ""
    { starting := none, saving := amount, opening := some opening
      changes := match start with
        | some second => [(second, opening)]
        | none => [] }
  | .byRules rules =>
    let years := match e.stop with
      | some (last, _) => ruleYears.takeWhile (· ≤ last)
      | none => ruleYears
    let course := years.foldl (fun (c : Course) year =>
      let active := rules.filter fun r => r.first ≤ year ∧ year ≤ r.last
      c.takeYear e year active.length active) { starting := start }
    match course.starting, course.opening with
    | some second, some span => { course with changes := (second, span) :: course.changes }
    | _, _ => course

/-- The changes of some eras, of which the first one starts at `start`. -/
def changesOf (start : Option Int) : List Era → List (Int × Span)
  | [] => []
  | e :: rest =>
    let course := e.follow start
    course.changes ++ changesOf (e.end? course.saving) rest

/-- Adds a change to the earlier ones, which are kept with the latest first. A change that clocks
do not show takes the place of the one before it. -/
def joinChange (kept : List (Int × Span)) (change : Int × Span) : List (Int × Span) :=
  match kept with
  | (second, span) :: (earlier, before) :: rest =>
    if change.1 + span.offset ≤ second + before.offset then
      (second, change.2) :: (earlier, before) :: rest
    else if span = change.2 then kept
    else change :: kept
  | [(_, span)] => if span = change.2 then kept else change :: kept
  | [] => [change]

def Zone.ofEras (eras : List Era) : Zone :=
  let changes := (changesOf none eras).mergeSort (·.1 ≤ ·.1)
  let first := match eras with
    | { standard, saving := .always amount, abbreviation, stop } :: _ =>
      Era.span { standard, saving := .always amount, abbreviation, stop } amount ""
    | _ => ((changes.find? (·.2.saving = 0)).map (·.2)).getD ⟨0, 0, ""⟩
  { first, changes := (changes.foldl joinChange []).reverse }

/-- What the clocks of a zone show at a moment. -/
def Zone.spanAt (z : Zone) (seconds : Int) : Span :=
  z.changes.foldl (fun span change => if change.1 ≤ seconds then change.2 else span) z.first

/-! ## Reading the rows -/

/-- The records of some rows, each one as its words. -/
def records (rows : List String) : List (List (List Char)) :=
  rows.flatMap fun row => (Text.splitText [';', ' '] row.toList).map (Text.splitChar ' ')

/-- A rule from the words of its record. -/
def Rule.read? : List (List Char) → Option Rule
  | [first, last, month, day, time, saving, letters] => do
    let first ← (String.ofList first).toNat?
    let last ← match last with
      | ['o'] => some first
      | ['m', 'a'] => some 9999
      | _ => (String.ofList last).toNat?
    return { first, last, occasion := ← Occasion.read? [month, day, time]
             saving := ← duration? saving
             letters := if letters = ['-'] then "" else String.ofList letters }
  | _ => none

def Saving.read? (word : List Char) : Option Saving :=
  if word = ['-'] then some (.always 0)
  else
    match duration? word with
    | some amount => some (.always amount)
    | none =>
      (ruleRows.lookup (String.ofList word)).map fun rows =>
        .byRules ((records rows).filterMap Rule.read?)

/-- The end of an era from the words behind its abbreviation, of which there may be none. -/
def eraEnd? : List (List Char) → Option (Option (Int × Occasion))
  | [] => some none
  | year :: occasion => do
    let year ← (String.ofList year).toNat?
    return some ((year : Int), ← Occasion.read? occasion)

/-- An era from the words of its record. -/
def Era.read? : List (List Char) → Option Era
  | standard :: saving :: abbreviation :: stop => do
    return { standard := ← duration? standard, saving := ← Saving.read? saving
             abbreviation := String.ofList abbreviation, stop := ← eraEnd? stop }
  | _ => none

def zoneName (name : String) : String :=
  let row := zoneAliasRows.find? fun (_, rows) => (records rows).any (·.contains name.toList)
  (row.map (·.1)).getD name

/-- The zone of a name; upper and lower case differ. -/
def Zone.named? (name : String) : Option Zone :=
  (zoneRows.lookup (zoneName name)).map fun rows =>
    .ofEras ((records rows).filterMap Era.read?)

end BuildTool.Calendar

/-!
## Stamps

A stamp is a moment as clocks somewhere show it, together with what they are ahead of universal
time and the name of the time that they show.
-/

namespace BuildTool.Calendar

/-- A moment that is some seconds later; the nanosecond stays. -/
def Moment.later (m : Moment) (seconds : Int) : Moment :=
  let second := m.second + seconds
  ⟨m.days + second / 86400, (second % 86400).toNat, m.nanosecond⟩

/-- A moment as clocks show it, their offset in seconds, and the name of their time. -/
structure Stamp where
  shown : Moment
  offset : Int
  zone : String
  deriving DecidableEq, Repr

def signOf (offset : Int) : String := if offset < 0 then "-" else "+"

/-- An offset in hours and minutes, and seconds if there are any. -/
def offsetName (offset : Int) : String :=
  let n := offset.natAbs
  signOf offset ++ twoDigits (n / 3600) ++ ":" ++ twoDigits (n / 60 % 60) ++
    if n % 60 = 0 then "" else ":" ++ twoDigits (n % 60)

namespace Stamp

def universal (m : Moment) : Stamp := ⟨m, 0, "UTC"⟩

/-- A moment in universal time, as clocks show it that are ahead of it. -/
def ahead (offset : Int) (m : Moment) : Stamp := ⟨m.later offset, offset, offsetName offset⟩

/-- A moment in universal time, as the clocks of a zone show it. -/
def within (z : Zone) (m : Moment) : Stamp :=
  let span := z.spanAt m.toSeconds
  ⟨m.later span.offset, span.offset, span.abbreviation⟩

def moment (s : Stamp) : Moment := s.shown.later (-s.offset)

end Stamp

end BuildTool.Calendar
