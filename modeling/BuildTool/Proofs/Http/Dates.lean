import BuildTool.Http.Date
import BuildTool.Proofs.Script.Assignment
import Mathlib.Order.Basic
import Mathlib.Tactic.IntervalCases

/-!
# Dates in headers

Counting the days of a date and finding the date of a day are inverse to each other, for all days
and all dates there are:

    ofDays (toDays d)  =  d          if d occurs in the calendar
    toDays (ofDays n)  =  n          and ofDays n occurs in it

The years cut the days into stretches of 365 or 366, and the first guess for the year of a day is
wrong by one at most; the months of a year cut it in the same way. So the time that a header shows
is read as the point in time that it means, and a point in time is written as the time that a clock
shows which runs on universal time:

    read? (Tue, 10 Mar 2020 11:00:00 +0100)  =  read? (Tue, 10 Mar 2020 10:00:00 GMT)
    write (read? (Tue, 10 Mar 2020 10:00:00 GMT))  =  Tue, 10 Mar 2020 10:00:00 GMT

## Sections

* years, months, days and dates;
* the times that clocks show;
* reading;
* writing.
-/

namespace BuildTool.Calendar

/-! ## Years -/

theorem daysBeforeYear_mono {year year' : Int} (h : year ≤ year') :
    daysBeforeYear year ≤ daysBeforeYear year' := by
  simp only [daysBeforeYear]
  omega

/-- A day lies in one year only. -/
theorem year_unique {year year' days : Int} (h : daysBeforeYear year ≤ days)
    (hend : days < daysBeforeYear (year + 1)) (h' : daysBeforeYear year' ≤ days)
    (hend' : days < daysBeforeYear (year' + 1)) : year = year' := by
  by_contra hne
  rcases Int.lt_or_gt_of_ne hne with hlt | hlt
  · have := daysBeforeYear_mono (show year + 1 ≤ year' by omega)
    omega
  · have := daysBeforeYear_mono (show year' + 1 ≤ year by omega)
    omega

/-- Four hundred years have 146097 days, so that a year is guessed well. -/
theorem guess_spec (days : Int) :
    daysBeforeYear (1970 + days * 400 / 146097 - 1) ≤ days ∧
      days < daysBeforeYear (1970 + days * 400 / 146097 + 2) := by
  simp only [daysBeforeYear]
  generalize hyears : days * 400 / 146097 = years
  omega

/-! ## Months -/

theorem daysBeforeMonth_succ (year : Int) {month : Nat} (h : 1 ≤ month) :
    daysBeforeMonth year (month + 1) = daysBeforeMonth year month + monthLength year month := by
  obtain ⟨m, rfl⟩ := Nat.exists_eq_add_of_le' h
  simp only [daysBeforeMonth, Nat.add_sub_cancel, List.range_succ, List.foldl_append,
    List.foldl_cons, List.foldl_nil]

theorem daysBeforeMonth_mono (year : Int) {month month' : Nat} (h : 1 ≤ month)
    (hle : month ≤ month') : daysBeforeMonth year month ≤ daysBeforeMonth year month' := by
  induction hle with
  | refl => exact Nat.le_refl _
  | step hm ih =>
    rw [daysBeforeMonth_succ year (Nat.le_trans h hm)]
    omega

/-- The months make up the year. -/
theorem daysBeforeYear_succ (year : Int) :
    daysBeforeYear (year + 1) = daysBeforeYear year + daysBeforeMonth year 13 := by
  have hmonths : daysBeforeMonth year 13 = if isLeap year then 366 else 365 := by
    simp only [daysBeforeMonth, monthLength]
    cases isLeap year <;> rfl
  rw [hmonths]
  simp only [daysBeforeYear, isLeap, decide_eq_true_eq]
  split <;> omega

namespace Date

theorem isValid_iff {d : Date} : d.isValid = true ↔
    (1 ≤ d.month ∧ d.month ≤ 12) ∧ 1 ≤ d.day ∧ d.day ≤ monthLength d.year d.month := by
  simp only [isValid, Bool.and_eq_true, decide_eq_true_eq, and_assoc]

/-- The day of a year is found in the month that it belongs to. -/
theorem ofDayOfYear_spec {year : Int} {fuel month n : Nat} (hmonth : 1 ≤ month)
    (hfuel : month + fuel = 12) (hn : daysBeforeMonth year month + n < daysBeforeMonth year 13) :
    (ofDayOfYear year n fuel month).isValid = true ∧
      (ofDayOfYear year n fuel month).year = year ∧
      (ofDayOfYear year n fuel month).dayOfYear = daysBeforeMonth year month + n + 1 := by
  induction fuel generalizing month n with
  | zero =>
    obtain rfl : month = 12 := by omega
    have hlast : daysBeforeMonth year 13 = daysBeforeMonth year 12 + monthLength year 12 :=
      daysBeforeMonth_succ year (by omega)
    refine ⟨isValid_iff.mpr ⟨by simp [ofDayOfYear], ?_, ?_⟩, rfl, rfl⟩
    · exact Nat.le_add_left 1 n
    · simp only [ofDayOfYear]
      omega
  | succ fuel ih =>
    rw [ofDayOfYear]
    split
    · next hlt =>
      have hmonth' : month ≤ 12 := by omega
      exact ⟨isValid_iff.mpr ⟨⟨hmonth, hmonth'⟩, Nat.le_add_left 1 n, hlt⟩, rfl, rfl⟩
    · next hge =>
      have hsucc := daysBeforeMonth_succ year hmonth
      obtain ⟨hvalid, hyear, hday⟩ := @ih (month + 1) (n - monthLength year month)
        (by omega) (by omega) (by omega)
      exact ⟨hvalid, hyear, by omega⟩

/-- The date of a day occurs in the calendar, and it is the date of that day. -/
theorem ofDays_spec (days : Int) :
    (ofDays days).isValid = true ∧ (ofDays days).toDays = days := by
  obtain ⟨year, hdate, hstart, hend⟩ : ∃ year,
      ofDays days = ofDayOfYear year (days - daysBeforeYear year).toNat 11 1 ∧
        daysBeforeYear year ≤ days ∧ days < daysBeforeYear (year + 1) := by
    obtain ⟨hlow, hhigh⟩ := guess_spec days
    refine ⟨_, rfl, ?_⟩
    split
    · next hbefore => exact ⟨hlow, by rwa [Int.sub_add_cancel]⟩
    · next hafter =>
      split
      · next hlate => exact ⟨hlate, by rwa [Int.add_assoc]⟩
      · exact ⟨by omega, by omega⟩
  have hlength := daysBeforeYear_succ year
  have hfirst : daysBeforeMonth year 1 = 0 := rfl
  obtain ⟨hvalid, hyear, hday⟩ := @ofDayOfYear_spec year 11 1 (days - daysBeforeYear year).toNat
    (by omega) (by omega) (by omega)
  rw [hdate]
  refine ⟨hvalid, ?_⟩
  rw [toDays, hyear, hday, hfirst]
  omega

variable {d d' : Date}

/-- The days of a month lie before those of the next one. -/
theorem dayOfYear_le (h : d.isValid = true) :
    d.dayOfYear ≤ daysBeforeMonth d.year (d.month + 1) := by
  obtain ⟨⟨hmonth, -⟩, -, hday⟩ := isValid_iff.mp h
  rw [daysBeforeMonth_succ d.year hmonth, dayOfYear]
  omega

/-- A date lies in its year. -/
theorem toDays_mem_year (h : d.isValid = true) :
    daysBeforeYear d.year ≤ d.toDays ∧ d.toDays < daysBeforeYear (d.year + 1) := by
  obtain ⟨⟨hmonth, hmonth'⟩, hday, -⟩ := isValid_iff.mp h
  have hyear := daysBeforeYear_succ d.year
  have hmono := daysBeforeMonth_mono d.year (show 1 ≤ d.month + 1 by omega)
    (show d.month + 1 ≤ 13 by omega)
  have hle := dayOfYear_le h
  have hpos : 1 ≤ d.dayOfYear := by rw [dayOfYear]; omega
  rw [toDays]
  omega

/-- A date is not before a year if its day is not. -/
theorem le_year_iff (h : d.isValid = true) {year : Int} :
    year ≤ d.year ↔ daysBeforeYear year ≤ d.toDays := by
  obtain ⟨hstart, hend⟩ := toDays_mem_year h
  constructor
  · intro hle
    exact Int.le_trans (daysBeforeYear_mono hle) hstart
  · intro hle
    by_contra hlt
    have hmono := daysBeforeYear_mono (show d.year + 1 ≤ year by omega)
    omega

theorem month_le_of_dayOfYear_le (h : d.isValid = true) (h' : d'.isValid = true)
    (hyear : d.year = d'.year) (hday : d.dayOfYear ≤ d'.dayOfYear) : d.month ≤ d'.month := by
  obtain ⟨-, hpos, -⟩ := isValid_iff.mp h
  by_contra hlt
  have hmono := daysBeforeMonth_mono d.year (show 1 ≤ d'.month + 1 by omega)
    (show d'.month + 1 ≤ d.month by omega)
  have hle := dayOfYear_le h'
  rw [← hyear] at hle
  rw [dayOfYear] at hday
  omega

theorem eq_of_toDays_eq (h : d.isValid = true) (h' : d'.isValid = true)
    (heq : d.toDays = d'.toDays) : d = d' := by
  obtain ⟨hstart, hend⟩ := toDays_mem_year h
  obtain ⟨hstart', hend'⟩ := toDays_mem_year h'
  have hyear : d.year = d'.year := year_unique hstart hend (heq ▸ hstart') (heq ▸ hend')
  have hdays : d.dayOfYear = d'.dayOfYear := by
    rw [toDays, toDays, hyear] at heq
    omega
  have hmonth : d.month = d'.month :=
    Nat.le_antisymm (month_le_of_dayOfYear_le h h' hyear (Nat.le_of_eq hdays))
      (month_le_of_dayOfYear_le h' h hyear.symm (Nat.le_of_eq hdays.symm))
  have hday : d.day = d'.day := by
    rw [dayOfYear, dayOfYear, hyear, hmonth] at hdays
    omega
  cases d
  cases d'
  cases hyear
  cases hmonth
  cases hday
  rfl

/-- Every date that occurs in the calendar is the date of its day. -/
theorem ofDays_toDays (h : d.isValid = true) : ofDays d.toDays = d :=
  eq_of_toDays_eq (ofDays_spec _).1 h (ofDays_spec _).2

end Date

end BuildTool.Calendar

namespace BuildTool.HttpDate

open Calendar

/-! ## The times that clocks show -/

/-- A date and a time of day, with a year of four digits. -/
structure ClockTime where
  year : Nat
  month : Nat
  day : Nat
  hour : Nat
  minute : Nat
  second : Nat
  date_valid : (Date.mk year month day).isValid = true
  year_lt : year < 10000
  hour_lt : hour < 24
  minute_lt : minute < 60
  second_lt : second < 60

/-- What a clock shows: universal time, or one that is so many hours and minutes ahead of it or
behind. -/
inductive Zone
  | universal
  | ahead (hours : Fin 24) (minutes : Fin 60)
  | behind (hours : Fin 24) (minutes : Fin 60)

/-- Two digits for a number below a hundred. -/
def pair (n : Nat) : List Char := [Nat.digitChar (n / 10), Nat.digitChar (n % 10)]

namespace Zone

/-- How a header writes a zone. -/
def chars : Zone → List Char
  | universal => "GMT".toList
  | ahead hours minutes => '+' :: (pair hours ++ pair minutes)
  | behind hours minutes => '-' :: (pair hours ++ pair minutes)

def distance (hours : Fin 24) (minutes : Fin 60) : Int := hours.val * 3600 + minutes.val * 60

/-- The seconds by which a zone is ahead of universal time. -/
def seconds : Zone → Int
  | universal => 0
  | ahead hours minutes => distance hours minutes
  | behind hours minutes => -distance hours minutes

end Zone

namespace ClockTime

variable (c : ClockTime) (z : Zone)

/-- The date that a clock shows. -/
def date : Date := ⟨c.year, c.month, c.day⟩

/-- The seconds from the beginning of 1970 on the same clock. -/
def seconds : Int := c.date.toDays * 86400 + (c.hour * 3600 + c.minute * 60 + c.second : Nat)

/-- The seconds from the beginning of 1970 to when a clock of a zone shows this. -/
def passed : Int := c.seconds - z.seconds

/-- The point in time at which a clock of a zone shows this. -/
def instant : Time := c.passed z * 1000000000

/-- How a header writes a time, as in `Tue, 10 Mar 2020 10:00:00 GMT`. -/
def chars : List Char :=
  (short (weekdayName (weekday c.date.toDays))).toList ++ ',' :: ' ' :: (pair c.day ++
    ' ' :: ((short (monthName c.month)).toList ++ ' ' :: (pair (c.year / 100) ++
    (pair (c.year % 100) ++ ' ' :: (pair c.hour ++ ':' :: (pair c.minute ++
    ':' :: (pair c.second ++ ' ' :: z.chars)))))))

/-- The text of a time in a header. -/
def text : String := String.ofList (c.chars z)

theorem month_bounds : 1 ≤ c.month ∧ c.month ≤ 12 := (Date.isValid_iff.mp c.date_valid).1

theorem day_lt : c.day < 100 := by
  obtain ⟨-, -, hday⟩ := Date.isValid_iff.mp c.date_valid
  have hlength : monthLength c.year c.month ≤ 31 := by
    unfold monthLength
    repeat' split
    all_goals omega
  exact Nat.lt_of_le_of_lt (Nat.le_trans hday hlength) (by omega)

theorem weekday_lt : weekday c.date.toDays < 7 := by
  rw [weekday]
  omega

end ClockTime

/-! ## Reading -/

section

variable {n : Nat} {rest : List Char}

theorem digitChar_spec : ∀ n < 10, (Nat.digitChar n).isDigit = true ∧
    (Nat.digitChar n).toNat - '0'.toNat = n ∧ Text.isBlank (Nat.digitChar n) = false := by
  decide

/-- A row of digits is read as far as it goes, or as far as digits are looked for. -/
theorem number?_append {least most : Nat} {digits : List Char}
    (hdigits : ∀ c ∈ digits, c.isDigit = true) (hleast : least ≤ digits.length)
    (hmost : digits.length ≤ most)
    (hrest : digits.length = most ∨ ∀ c, rest.head? = some c → c.isDigit = false) :
    number? least most (digits ++ rest) = some (valueOf digits, rest) := by
  have hends : ∀ c, (rest.take (most - digits.length)).head? = some c → c.isDigit = false := by
    intro c hc
    rw [List.head?_take] at hc
    split at hc
    · cases hc
    · exact hrest.resolve_left (by omega) c hc
  unfold number?
  rw [List.take_append, List.take_of_length_le hmost, Text.takeWhile_append_eq hdigits hends]
  dsimp only
  rw [if_pos hleast, List.drop_left]

theorem isDigit_of_mem_pair (h : n < 100) : ∀ c ∈ pair n, c.isDigit = true := by
  intro c hc
  simp only [pair, List.mem_cons, List.not_mem_nil, or_false] at hc
  rcases hc with rfl | rfl
  · exact (digitChar_spec _ (by omega)).1
  · exact (digitChar_spec _ (by omega)).1

theorem valueOf_append (digits digits' : List Char) : valueOf (digits ++ digits') =
    digits'.foldl (fun n c => n * 10 + (c.toNat - '0'.toNat)) (valueOf digits) :=
  List.foldl_append

theorem valueOf_append_pair (digits : List Char) (h : n < 100) :
    valueOf (digits ++ pair n) = valueOf digits * 100 + n := by
  rw [valueOf_append]
  simp only [pair, List.foldl_cons, List.foldl_nil, (digitChar_spec (n / 10) (by omega)).2.1,
    (digitChar_spec (n % 10) (by omega)).2.1]
  omega

theorem valueOf_pair (h : n < 100) : valueOf (pair n) = n := by
  have hvalue := valueOf_append_pair [] h
  rw [List.nil_append] at hvalue
  rw [hvalue]
  exact Nat.zero_add n

theorem number?_pair {least : Nat} (hleast : least ≤ 2) (h : n < 100) :
    number? least 2 (pair n ++ rest) = some (n, rest) := by
  have hread : number? least 2 (pair n ++ rest) = some (valueOf (pair n), rest) :=
    number?_append (isDigit_of_mem_pair h) hleast (Nat.le_refl 2) (.inl rfl)
  rwa [valueOf_pair h] at hread

theorem skipBlanks_pair (h : n < 100) : skipBlanks (pair n ++ rest) = pair n ++ rest :=
  List.dropWhile_cons_of_neg (by simp [(digitChar_spec (n / 10) (by omega)).2.2])

theorem gap?_cons (h : skipBlanks rest = rest) : gap? (' ' :: rest) = some rest := by
  rw [gap?, if_pos (by decide), h]

theorem year?_pairs {n' : Nat} (h : n < 100) (h' : n' < 100) :
    year? (pair n ++ (pair n' ++ ' ' :: rest)) = some (((n * 100 + n' : Nat) : Int), ' ' :: rest) := by
  have hdigits : ∀ c ∈ pair n ++ pair n', c.isDigit = true := by
    intro c hc
    rcases List.mem_append.mp hc with hc | hc
    · exact isDigit_of_mem_pair h c hc
    · exact isDigit_of_mem_pair h' c hc
  have hread : number? 2 (pair n ++ (pair n' ++ ' ' :: rest)).length
      (pair n ++ pair n' ++ ' ' :: rest) = some (valueOf (pair n ++ pair n'), ' ' :: rest) :=
    number?_append hdigits (by simp [pair]) (by simp [pair]) (.inr fun c hc => by cases hc; rfl)
  rw [List.append_assoc, valueOf_append_pair _ h', valueOf_pair h] at hread
  have hlength : (pair n ++ (pair n' ++ ' ' :: rest)).length - (' ' :: rest).length = 4 := by
    simp [pair]
  rw [year?, hread]
  dsimp only
  rw [hlength]
  have hsmall : ((n * 100 + n' : Nat) : Int) ≤ 262142 := by omega
  exact if_pos hsmall

theorem colon?_cons (rest : List Char) : colon? (':' :: rest) = some rest := rfl

theorem weekday?_short {w : Nat} (hw : w < 7) (rest : List Char) :
    weekday? ((short (weekdayName w)).toList ++ ',' :: rest) = some (some w, rest) := by
  interval_cases w <;> rfl

theorem name?_short {m : Nat} (hm : 1 ≤ m) (hm' : m ≤ 12) (rest : List Char) :
    name? monthNames ((short (monthName m)).toList ++ rest) = some (m - 1, rest) := by
  interval_cases m <;> rfl

theorem zone?_sign {sign : Char} (hsign : sign = '+' ∨ sign = '-') (hours : Fin 24)
    (minutes : Fin 60) : zone? (sign :: (pair hours ++ pair minutes)) =
      some (if sign = '-' then -Zone.distance hours minutes else Zone.distance hours minutes,
        []) := by
  have hname : (sign :: (pair hours ++ pair minutes)).takeWhile Char.isAlpha = [] := by
    rcases hsign with rfl | rfl <;> rfl
  have hhours : number? 2 2 (pair hours ++ pair minutes) = some (hours.val, pair minutes) :=
    number?_pair (Nat.le_refl 2) (by omega)
  have hminutes : number? 2 2 (pair minutes ++ []) = some (minutes.val, []) :=
    number?_pair (Nat.le_refl 2) (by omega)
  rw [List.append_nil] at hminutes
  have hvalid : minutes.val < 60 ∧ (hours.val * 3600 + minutes.val * 60 : Int) < 86400 :=
    ⟨minutes.isLt, by omega⟩
  unfold zone?
  rw [hname]
  dsimp only
  rw [if_pos hsign, hhours]
  simp only [Option.bind_eq_bind, Option.bind_some, hminutes]
  exact if_pos hvalid

theorem zone?_chars (z : Zone) : zone? z.chars = some (z.seconds, []) := by
  cases z with
  | universal => rfl
  | ahead hours minutes => exact zone?_sign (.inl rfl) hours minutes
  | behind hours minutes => exact zone?_sign (.inr rfl) hours minutes

theorem skipBlanks_space (rest : List Char) : skipBlanks (' ' :: rest) = skipBlanks rest := rfl

theorem skipBlanks_month {m : Nat} (hm : 1 ≤ m) (hm' : m ≤ 12) (rest : List Char) :
    skipBlanks ((short (monthName m)).toList ++ rest) = (short (monthName m)).toList ++ rest := by
  interval_cases m <;> rfl

theorem skipBlanks_chars (c : ClockTime) (z : Zone) : skipBlanks (c.chars z) = c.chars z := by
  have hweekday := c.weekday_lt
  rw [ClockTime.chars]
  generalize weekday c.date.toDays = w at hweekday
  interval_cases w <;> rfl

theorem ClockTime.read?_text (c : ClockTime) (z : Zone) : read? (c.text z) = some (c.instant z) := by
  obtain ⟨hmonth, hmonth'⟩ := c.month_bounds
  have hlast : skipBlanks z.chars = z.chars := by cases z <;> rfl
  have hyear : c.year / 100 < 100 ∧ c.year % 100 < 100 := by
    have := c.year_lt
    omega
  have hhour : c.hour < 100 := Nat.lt_trans c.hour_lt (by omega)
  have hminute : c.minute < 100 := Nat.lt_trans c.minute_lt (by omega)
  have hsecond : c.second < 100 := Nat.lt_trans c.second_lt (by omega)
  unfold read?
  rw [text, String.toList_ofList, skipBlanks_chars, chars, weekday?_short c.weekday_lt]
  dsimp only [Option.bind_eq_bind, Option.bind_some]
  rw [skipBlanks_space, skipBlanks_pair c.day_lt, number?_pair (by omega) c.day_lt]
  dsimp only [Option.bind_some]
  rw [gap?_cons (skipBlanks_month hmonth hmonth' _), Option.bind_some, name?_short hmonth hmonth']
  dsimp only [Option.bind_some]
  rw [gap?_cons (skipBlanks_pair hyear.1), Option.bind_some, year?_pairs hyear.1 hyear.2]
  dsimp only [Option.bind_some]
  rw [gap?_cons (skipBlanks_pair hhour), Option.bind_some, number?_pair (Nat.le_refl 2) hhour]
  dsimp only [Option.bind_some]
  rw [colon?_cons, Option.bind_some, skipBlanks_pair hminute,
    number?_pair (Nat.le_refl 2) hminute]
  dsimp only [Option.bind_some]
  rw [second?, colon?_cons]
  dsimp only
  rw [number?_pair (Nat.le_refl 2) hsecond]
  dsimp only [Option.bind_some]
  rw [gap?_cons hlast, Option.bind_some, zone?_chars]
  dsimp only [Option.bind_some]
  have hdate : Date.mk ((c.year / 100 * 100 + c.year % 100 : Nat) : Int) (c.month - 1 + 1) c.day =
      c.date := by
    rw [Nat.div_add_mod', Nat.sub_add_cancel hmonth]
    rfl
  rw [hdate, if_pos ⟨rfl, c.date_valid, c.hour_lt, c.minute_lt,
    Nat.le_of_lt c.second_lt, beq_self_eq_true _⟩, instant, passed, seconds]
  have hseconds : c.date.toDays * 86400 + c.hour * 3600 + c.minute * 60 + c.second =
      c.date.toDays * 86400 + ((c.hour * 3600 + c.minute * 60 + c.second : Nat) : Int) := by
    omega
  rw [hseconds]

end

/-! ## Writing -/

section

variable {n : Nat}

theorem toList_toString (n : Nat) : (toString n).toList = Nat.toDigits 10 n := by
  rw [Nat.toString_eq_ofList_toDigits, String.toList_ofList]

theorem toList_twoDigits (h : n < 100) : (twoDigits n).toList = pair n := by
  unfold twoDigits
  split
  · next hlt =>
    rw [String.toList_append, toList_toString, Nat.toDigits_of_lt_base hlt, pair,
      Nat.div_eq_of_lt hlt, Nat.mod_eq_of_lt hlt]
    rfl
  · next hge =>
    rw [toList_toString, Nat.toDigits_of_base_le (by omega) (by omega),
      Nat.toDigits_of_lt_base (by omega)]
    rfl

/-- The digits of a number behind as many zeros as four digits need. -/
theorem toList_yearText (h : n < 10000) :
    (yearText n).toList = pair (n / 100) ++ pair (n % 100) := by
  have htext : (yearText n).toList =
      List.replicate (4 - (Nat.toDigits 10 n).length) '0' ++ Nat.toDigits 10 n := by
    rw [yearText, Int.natAbs_natCast, if_neg (by omega), if_neg (by omega), String.toList_append,
      String.toList_ofList, toList_toString, ← String.length_toList, toList_toString]
  have hnext : ∀ {m : Nat}, 10 ≤ m →
      Nat.toDigits 10 m = Nat.toDigits 10 (m / 10) ++ [Nat.digitChar (m % 10)] :=
    fun h => Nat.toDigits_of_base_le (by omega) h
  have hlast : ∀ {m : Nat}, m < 10 → Nat.toDigits 10 m = [Nat.digitChar m] :=
    fun h => Nat.toDigits_of_lt_base h
  rw [htext, pair, pair]
  rcases Nat.lt_or_ge n 10 with h₁ | h₁
  · rw [hlast h₁, show n / 100 / 10 = 0 by omega, show n / 100 % 10 = 0 by omega,
      show n % 100 / 10 = 0 by omega, show n % 100 % 10 = n by omega]
    rfl
  rcases Nat.lt_or_ge n 100 with h₂ | h₂
  · rw [hnext h₁, hlast (show n / 10 < 10 by omega), show n / 100 / 10 = 0 by omega,
      show n / 100 % 10 = 0 by omega, show n % 100 = n by omega]
    rfl
  rcases Nat.lt_or_ge n 1000 with h₃ | h₃
  · rw [hnext h₁, hnext (show 10 ≤ n / 10 by omega), hlast (show n / 10 / 10 < 10 by omega),
      show n / 100 / 10 = 0 by omega, show n / 10 / 10 = n / 100 % 10 by omega,
      show n / 10 % 10 = n % 100 / 10 by omega, show n % 10 = n % 100 % 10 by omega]
    rfl
  · rw [hnext h₁, hnext (show 10 ≤ n / 10 by omega), hnext (show 10 ≤ n / 10 / 10 by omega),
      hlast (show n / 10 / 10 / 10 < 10 by omega), show n / 10 / 10 = n / 100 by omega,
      show n / 10 % 10 = n % 100 / 10 by omega, show n % 10 = n % 100 % 10 by omega]
    rfl

end

namespace ClockTime

variable (c : ClockTime)

theorem second_of_day_lt : c.hour * 3600 + c.minute * 60 + c.second < 86400 := by
  have := c.hour_lt
  have := c.minute_lt
  have := c.second_lt
  omega

theorem passed_universal : c.passed .universal = c.seconds := Int.sub_zero _

theorem ofTime_instant : Moment.ofTime (c.instant .universal) =
    ⟨c.date.toDays, c.hour * 3600 + c.minute * 60 + c.second, 0⟩ := by
  have hsecond := c.second_of_day_lt
  rw [Moment.ofTime, instant, passed_universal, Int.mul_ediv_cancel _ (by decide),
    Int.mul_emod_left, seconds]
  congr 1 <;> omega

/-- A point in time is written as a clock shows it that runs on universal time. -/
theorem write_instant : write (c.instant .universal) = c.text .universal := by
  have hhour := c.hour_lt
  have hminute := c.minute_lt
  have hsecond := c.second_lt
  have hdate : Date.ofDays c.date.toDays = c.date := Date.ofDays_toDays c.date_valid
  have hyear : c.date.year = c.year := rfl
  rw [← String.toList_inj, write, ofTime_instant, text, String.toList_ofList, chars]
  simp only [Moment.date, hdate, String.toList_append, Moment.hour, Moment.minute]
  rw [show (c.hour * 3600 + c.minute * 60 + c.second) / 3600 = c.hour by omega,
    show (c.hour * 3600 + c.minute * 60 + c.second) / 60 % 60 = c.minute by omega,
    show (c.hour * 3600 + c.minute * 60 + c.second) % 60 = c.second by omega,
    toList_twoDigits (show c.date.day < 100 from c.day_lt), hyear, toList_yearText c.year_lt,
    toList_twoDigits (show c.hour < 100 by omega), toList_twoDigits (show c.minute < 100 by omega),
    toList_twoDigits (show c.second < 100 by omega)]
  simp only [List.append_assoc]
  rfl

/-- A clock shows a year when the seconds of the years before have passed. -/
theorem le_year_iff {year : Int} : year ≤ c.year ↔ daysBeforeYear year * 86400 ≤ c.seconds := by
  have hsecond := c.second_of_day_lt
  have hyear : year ≤ c.year ↔ daysBeforeYear year ≤ c.date.toDays :=
    Date.le_year_iff c.date_valid
  rw [hyear, seconds]
  omega

end ClockTime

/-- The seconds since the beginning of 1970 end before the year 10000. -/
def IsInYears (seconds : Int) : Prop :=
  daysBeforeYear 1970 * 86400 ≤ seconds ∧ seconds < daysBeforeYear 10000 * 86400

theorem isInYears_universal_iff {c : ClockTime} :
    IsInYears (c.passed .universal) ↔ 1970 ≤ c.year := by
  have hyear := c.year_lt
  have hstart : 1970 ≤ (c.year : Int) ↔ _ := c.le_year_iff
  have hend : 10000 ≤ (c.year : Int) ↔ _ := c.le_year_iff
  rw [c.passed_universal, IsInYears]
  omega

/-- A clock that runs on universal time shows every second of these years. -/
theorem exists_passed_eq {seconds : Int} (h : IsInYears seconds) :
    ∃ c : ClockTime, c.passed .universal = seconds := by
  obtain ⟨hstart, hend⟩ := h
  obtain ⟨hvalid, hdays⟩ := Date.ofDays_spec (seconds / 86400)
  have hlow : 1970 ≤ (Date.ofDays (seconds / 86400)).year ↔ _ := Date.le_year_iff hvalid
  have hhigh : 10000 ≤ (Date.ofDays (seconds / 86400)).year ↔ _ := Date.le_year_iff hvalid
  rw [hdays] at hlow hhigh
  have hyear : ((Date.ofDays (seconds / 86400)).year.toNat : Int) =
      (Date.ofDays (seconds / 86400)).year := by omega
  refine ⟨{
    year := (Date.ofDays (seconds / 86400)).year.toNat
    month := (Date.ofDays (seconds / 86400)).month
    day := (Date.ofDays (seconds / 86400)).day
    hour := (seconds % 86400).toNat / 3600
    minute := (seconds % 86400).toNat / 60 % 60
    second := (seconds % 86400).toNat % 60
    date_valid := by rwa [hyear]
    year_lt := by omega
    hour_lt := by omega
    minute_lt := by omega
    second_lt := by omega }, ?_⟩
  rw [ClockTime.passed_universal, ClockTime.seconds, ClockTime.date]
  dsimp only
  rw [hyear, hdays]
  omega

end BuildTool.HttpDate
