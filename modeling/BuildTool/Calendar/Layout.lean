import BuildTool.Calendar.Zone

/-!
# Layouts of times

A layout is text in which a percent sign and a letter stand for a part of a time. Between the
two there may be `-`, `_` or `0` for numbers without padding, with blanks or with zeros.

    Layout.read? : String → Option Layout
    layout.write? : Stamp → Option String
-/

namespace BuildTool.Calendar

/-- What fills up a number to its width. -/
inductive Padding
  | none
  | zero
  | space
  deriving DecidableEq, Repr

/-- A part of a layout. Digits and pairs of digits are for numbers below 256; the tens of a pair
go on behind the nine in the order of characters. -/
inductive Item
  | text (s : String)
  | word (write : Stamp → String)
  | digit (value : Stamp → Nat)
  | pair (value : Stamp → Nat) (padding : Padding)
  | number (value : Stamp → Int) (width : Nat) (padding : Padding)
  | year (value : Stamp → Int) (padding : Padding)
  | unwritable

/-- A layout: what is written one after the other. -/
abbrev Layout := List Item

/-! ## Writing -/

/-- A text filled up to a width, zeros going behind the sign. -/
def filled (sign digits : String) (width : Nat) (padding : Padding) : String :=
  let room := width - digits.length - sign.length
  match padding with
  | .none => sign ++ digits
  | .zero => sign ++ String.ofList (List.replicate room '0') ++ digits
  | .space => String.ofList (List.replicate room ' ') ++ sign ++ digits

def padded (n : Int) (width : Nat) (padding : Padding) : String :=
  filled (if n < 0 then "-" else "") (toString n.natAbs) width padding

/-- A year filled up to four digits, and one more for a sign where there are more digits or the
year is negative. -/
def paddedYear (year : Int) (padding : Padding) : String :=
  if 0 ≤ year ∧ year ≤ 9999 then padded year 4 padding
  else filled (signOf year) (toString year.natAbs) 5 padding

/-- Two digits, of which the first may be more than nine. -/
def pairText (n : Nat) (padding : Padding) : String :=
  let tens := Char.ofNat ('0'.toNat + n / 10)
  let ones := Char.ofNat ('0'.toNat + n % 10)
  match padding with
  | .none => if n < 10 then String.singleton ones else String.ofList [tens, ones]
  | .space => String.ofList [if n < 10 then ' ' else tens, ones]
  | .zero => String.ofList [tens, ones]

def Item.write? (s : Stamp) : Item → Option String
  | .text t => some t
  | .word write => some (write s)
  | .digit value => some (toString (value s))
  | .pair value padding => some (pairText (value s) padding)
  | .number value width padding => some (padded (value s) width padding)
  | .year value padding => some (paddedYear (value s) padding)
  | .unwritable => none

/-- A stamp in a layout; nothing for a layout with a part that cannot be written. -/
def Layout.write? (l : Layout) (s : Stamp) : Option String :=
  (l.mapM (Item.write? s)).map String.join

/-! ## Parts of times -/

def Stamp.date (s : Stamp) : Date := s.shown.date

/-- The second of the minute that clocks show; 60 is the second after 59 of the same minute. -/
def Stamp.second (s : Stamp) : Nat := s.shown.second % 60 + s.shown.nanosecond / 1000000000

def Stamp.nanosecond (s : Stamp) : Nat := s.shown.nanosecond % 1000000000

/-- The whole number of weeks before a day, for weeks that begin on weekday `first`. -/
def weeksBefore (first : Nat) (s : Stamp) : Nat :=
  (s.date.dayOfYear + 6 - (weekday s.shown.days + 7 - first) % 7) / 7

def fraction (places : Nat) (s : Stamp) : String :=
  padded ((s.nanosecond / Nat.pow 10 (9 - places) : Nat)) places .zero

/-- The fraction of the second behind a point, with as many groups of three digits as it
needs. -/
def shortFraction (s : Stamp) : String :=
  if s.nanosecond = 0 then ""
  else if s.nanosecond % 1000000 = 0 then "." ++ fraction 3 s
  else if s.nanosecond % 1000 = 0 then "." ++ fraction 6 s
  else "." ++ fraction 9 s

/-- The offset in hours and minutes, rounded to the nearest minute, with `mark` between them. -/
def offsetInMinutes (mark : String) (s : Stamp) : String :=
  let minutes := (s.offset.natAbs + 30) / 60
  signOf s.offset ++ twoDigits (minutes / 60) ++ mark ++ twoDigits (minutes % 60)

/-- The offset in hours, minutes and seconds. -/
def offsetInSeconds (s : Stamp) : String :=
  let n := s.offset.natAbs
  signOf s.offset ++ twoDigits (n / 3600) ++ ":" ++ twoDigits (n / 60 % 60) ++ ":" ++
    twoDigits (n % 60)

def offsetInHours (s : Stamp) : String :=
  signOf s.offset ++ twoDigits (s.offset.natAbs / 3600)

def fullText (s : Stamp) : String :=
  yearText s.date.year ++ "-" ++ twoDigits s.date.month ++ "-" ++ twoDigits s.date.day ++ "T" ++
    twoDigits s.shown.hour ++ ":" ++ twoDigits s.shown.minute ++ ":" ++ twoDigits s.second ++
    shortFraction s ++ offsetInMinutes ":" s

/-! ## Reading -/

/-- Two digits that are filled up with zeros. -/
def pairOf (value : Stamp → Nat) : Item := .pair value .zero

/-- The parts that a letter stands for. -/
def letter? (c : Char) : Option Layout :=
  let year : Item := .year (fun s => s.date.year) .zero
  let shortYear := pairOf fun s => (s.date.year % 100).toNat
  let month := pairOf fun s => s.date.month
  let day := pairOf fun s => s.date.day
  let dayWithBlank : Item := .pair (fun s => s.date.day) .space
  let hour := pairOf fun s => s.shown.hour
  let dial := pairOf fun s => s.shown.dialHour
  let minute := pairOf fun s => s.shown.minute
  let second := pairOf Stamp.second
  let shortDay : Item := .word fun s => short (weekdayName (weekday s.shown.days))
  let shortMonth : Item := .word fun s => short (monthName s.date.month)
  let half : Item := .word fun s => if s.shown.hour < 12 then "AM" else "PM"
  let clock := [hour, .text ":", minute, .text ":", second]
  let slashed := [month, .text "/", day, .text "/", shortYear]
  match c with
  | 'A' => some [.word fun s => weekdayName (weekday s.shown.days)]
  | 'B' => some [.word fun s => monthName s.date.month]
  | 'C' => some [pairOf fun s => (s.date.year / 100 % 256).toNat]
  | 'D' | 'x' => some slashed
  | 'F' => some [year, .text "-", month, .text "-", day]
  | 'G' => some [.year (fun s => (weekOf s.shown.days).1) .zero]
  | 'H' => some [hour]
  | 'I' => some [dial]
  | 'M' => some [minute]
  | 'P' => some [.word fun s => if s.shown.hour < 12 then "am" else "pm"]
  | 'R' => some [hour, .text ":", minute]
  | 'S' => some [second]
  | 'T' | 'X' => some clock
  | 'U' => some [pairOf (weeksBefore 0)]
  | 'V' => some [pairOf fun s => (weekOf s.shown.days).2]
  | 'W' => some [pairOf (weeksBefore 1)]
  | 'Y' => some [year]
  | 'Z' => some [.word Stamp.zone]
  | 'a' => some [shortDay]
  | 'b' | 'h' => some [shortMonth]
  | 'c' =>
    some ([shortDay, .text " ", shortMonth, .text " ", dayWithBlank, .text " "] ++ clock ++
      [.text " ", year])
  | 'd' => some [day]
  | 'e' => some [dayWithBlank]
  | 'f' => some [.number (fun s => s.nanosecond) 9 .zero]
  | 'g' => some [pairOf fun s => ((weekOf s.shown.days).1 % 100).toNat]
  | 'j' => some [.number (fun s => s.date.dayOfYear) 3 .zero]
  | 'k' => some [.pair (fun s => s.shown.hour) .space]
  | 'l' => some [.pair (fun s => s.shown.dialHour) .space]
  | 'm' => some [month]
  | 'n' => some [.text "\n"]
  | 'p' => some [half]
  | 'q' => some [.digit fun s => (s.date.month + 2) / 3]
  | 'r' => some [dial, .text ":", minute, .text ":", second, .text " ", half]
  | 's' => some [.number (fun s => s.shown.toSeconds - s.offset) 9 .none]
  | 't' => some [.text "\t"]
  | 'u' => some [.digit fun s => (weekday s.shown.days + 6) % 7 + 1]
  | 'v' => some [dayWithBlank, .text "-", shortMonth, .text "-", year]
  | 'w' => some [.digit fun s => weekday s.shown.days]
  | 'y' => some [shortYear]
  | 'z' => some [.word (offsetInMinutes "")]
  | '+' => some [.word fullText]
  | '%' => some [.text "%"]
  | _ => none

/-- The specifiers of more than one character, without their percent sign. The one for an offset
with or without minutes is for reading only. -/
def longSpecifiers : List (List Char × Item) :=
  [([':', ':', ':', 'z'], .word offsetInHours), ([':', ':', 'z'], .word offsetInSeconds),
    ([':', 'z'], .word (offsetInMinutes ":")), (['#', 'z'], .unwritable),
    (['.', '3', 'f'], .word fun s => "." ++ fraction 3 s),
    (['.', '6', 'f'], .word fun s => "." ++ fraction 6 s),
    (['.', '9', 'f'], .word fun s => "." ++ fraction 9 s),
    (['.', 'f'], .word shortFraction), (['3', 'f'], .word (fraction 3)),
    (['6', 'f'], .word (fraction 6)), (['9', 'f'], .word (fraction 9))]

def padding? (c : Char) : Option Padding :=
  match c with
  | '-' => some .none
  | '_' => some .space
  | '0' => some .zero
  | _ => none

/-- A part with another padding; only numbers have one. -/
def Item.withPadding? (padding : Padding) : Item → Option Item
  | .digit value => some (.digit value)
  | .pair value _ => some (.pair value padding)
  | .number value width _ => some (.number value width padding)
  | .year value _ => some (.year value padding)
  | .text _ | .word _ | .unwritable => none

/-- Reads what stands behind a percent sign. -/
def specifier? (s : List Char) : Option (Layout × List Char) :=
  match longSpecifiers.findSome? fun p => (Text.dropStart? p.1 s).map fun rest => (p.2, rest) with
  | some (item, rest) => some ([item], rest)
  | none =>
    match s with
    | [] => none
    | c :: rest =>
      match padding? c, rest with
      | some padding, d :: rest =>
        match letter? d with
        | some [item] => (item.withPadding? padding).map fun item => ([item], rest)
        | _ => none
      | some _, [] => none
      | none, _ => (letter? c).map fun items => (items, rest)

/-- Reads the parts of a layout; `fuel` is the length of the text. -/
def items? : Nat → List Char → Option Layout
  | _, [] => some []
  | 0, _ => none
  | fuel + 1, c :: rest =>
    if c = '%' then do
      let (items, rest) ← specifier? rest
      return items ++ (← items? fuel rest)
    else (items? fuel rest).map (.text (String.singleton c) :: ·)

/-- Reads a layout; nothing when a specifier in it is unknown. -/
def Layout.read? (text : String) : Option Layout := items? text.length text.toList

end BuildTool.Calendar
