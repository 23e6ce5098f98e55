import BuildTool.Calendar.Basic
import BuildTool.Text.Split

/-!
# Dates in headers

A header writes a time as `Tue, 10 Mar 2020 10:00:00 GMT`. When read, the day of the week and
the seconds may be missing, a year of two digits lies between 1950 and 2049, the time zone may
be an offset or one of the old names, and comments in parentheses may follow.

    HttpDate.read? (HttpDate.write t)  =  t without its fraction of a second
-/

namespace BuildTool.HttpDate

open Calendar

/-! ## Writing -/

def write (time : Time) : String :=
  let m := Moment.ofTime time
  let d := m.date
  short (weekdayName (weekday m.days)) ++ ", " ++ twoDigits d.day ++ " " ++
    short (monthName d.month) ++ " " ++ yearText d.year ++ " " ++ twoDigits m.hour ++ ":" ++
    twoDigits m.minute ++ ":" ++ twoDigits (m.second % 60) ++ " GMT"

/-! ## Reading -/

def skipBlanks (s : List Char) : List Char := s.dropWhile Text.isBlank

/-- Skips blanks, of which there must be one. -/
def gap? : List Char → Option (List Char)
  | c :: rest => if Text.isBlank c then some (skipBlanks rest) else none
  | [] => none

def valueOf (digits : List Char) : Nat :=
  digits.foldl (fun n c => n * 10 + (c.toNat - '0'.toNat)) 0

def number? (least most : Nat) (s : List Char) : Option (Nat × List Char) :=
  let digits := (s.take most).takeWhile Char.isDigit
  if least ≤ digits.length then some (valueOf digits, s.drop digits.length) else none

/-- Reads the first three letters of one of some names, and gives its place. -/
def name? (names : List String) (s : List Char) : Option (Nat × List Char) :=
  let word := (s.take 3).map Char.toLower
  (names.findIdx? fun name => (short name).toList.map Char.toLower = word).map fun n =>
    (n, s.drop 3)

/-- Reads a day of the week with its comma, if there is one; other letters are an error. -/
def weekday? (s : List Char) : Option (Option Nat × List Char) :=
  match name? weekdayNames s with
  | none => some (none, s)
  | some (n, ',' :: rest) => some (some n, rest)
  | some _ => none

def year? (s : List Char) : Option (Int × List Char) :=
  match number? 2 s.length s with
  | none => none
  | some (n, rest) =>
    let year :=
      match s.length - rest.length with
      | 2 => if n < 50 then n + 2000 else n + 1900
      | 3 => n + 1900
      | _ => n
    if year ≤ 262142 then some (year, rest) else none

def colon? (s : List Char) : Option (List Char) :=
  match skipBlanks s with
  | ':' :: rest => some rest
  | _ => none

/-- Reads the second of a minute, zero where it is missing. -/
def second? (s : List Char) : Option (Nat × List Char) :=
  match colon? s with
  | some rest => number? 2 2 rest
  | none => some (0, s)

/-- The hours by which a named zone differs from universal time. -/
def namedZone? (name : List Char) : Option Int :=
  match String.ofList (name.map Char.toLower) with
  | "gmt" | "ut" => some 0
  | "edt" => some (-4)
  | "est" | "cdt" => some (-5)
  | "cst" | "mdt" => some (-6)
  | "mst" | "pdt" => some (-7)
  | "pst" => some (-8)
  | other => if other.length = 1 ∧ other ≠ "j" then some 0 else none

/-- Reads a time zone: the seconds by which it is ahead of universal time. -/
def zone? (s : List Char) : Option (Int × List Char) :=
  match s.takeWhile Char.isAlpha with
  | [] =>
    match s with
    | sign :: rest =>
      if sign = '+' ∨ sign = '-' then do
        let (hours, rest) ← number? 2 2 rest
        let (minutes, rest) ← number? 2 2 rest
        let offset : Int := hours * 3600 + minutes * 60
        if minutes < 60 ∧ offset < 86400 then
          some (if sign = '-' then -offset else offset, rest)
        else none
      else none
    | [] => none
  | name => (namedZone? name).map fun hours => (hours * 3600, s.drop name.length)

/-- Skips the rest of a comment that is `depth` parentheses deep. -/
def closeComment? : Nat → List Char → Option (List Char)
  | _, [] => none
  | depth, '\\' :: _ :: rest => closeComment? depth rest
  | depth, '(' :: rest => closeComment? (depth + 1) rest
  | 0, ')' :: rest => some rest
  | depth + 1, ')' :: rest => closeComment? depth rest
  | depth, _ :: rest => closeComment? depth rest

/-- Only comments follow; `fuel` is the length of the text. -/
def onlyComments : Nat → List Char → Bool
  | _, [] => true
  | 0, _ => false
  | fuel + 1, s =>
    match skipBlanks s with
    | '(' :: rest =>
      match closeComment? 0 rest with
      | some rest => onlyComments fuel rest
      | none => false
    | _ => false

/-- Reads the time in a header. A day of the week that is not that of the date is an error. -/
def read? (text : String) : Option Time := do
  let (named, s) ← weekday? (skipBlanks text.toList)
  let (day, s) ← number? 1 2 (skipBlanks s)
  let s ← gap? s
  let (month, s) ← name? monthNames s
  let s ← gap? s
  let (year, s) ← year? s
  let s ← gap? s
  let (hour, s) ← number? 2 2 s
  let s ← colon? s
  let (minute, s) ← number? 2 2 (skipBlanks s)
  let (second, s) ← second? s
  let s ← gap? s
  let (offset, s) ← zone? s
  let date : Date := ⟨year, month + 1, day⟩
  if onlyComments s.length s ∧ date.isValid ∧ hour < 24 ∧ minute < 60 ∧ second ≤ 60 ∧
      named.all (· == weekday date.toDays) then
    let seconds : Int := date.toDays * 86400 + hour * 3600 + minute * 60 + second - offset
    some (seconds * 1000000000)
  else none

end BuildTool.HttpDate
