import BuildTool.Text.Split

/-!
# Faults of patterns

What can be wrong with a pattern, where it is, and the report that shows the pattern with the
place marked under it. A place lies between two characters of a text; a span is what lies between
two places.
-/

namespace BuildTool.Regex

/-! ## Places -/

/-- A place: how many characters are in front of it, and its line and column, counted from one. -/
structure Place where
  index : Nat := 0
  line : Nat := 1
  column : Nat := 1
  deriving DecidableEq, Repr

def Place.after (p : Place) (c : Char) : Place :=
  if c == '\n' then ⟨p.index + 1, p.line + 1, 1⟩ else ⟨p.index + 1, p.line, p.column + 1⟩

structure Span where
  first : Place
  last : Place
  deriving DecidableEq, Repr

namespace Span

def ofPlace (p : Place) : Span := ⟨p, p⟩

def isOneLine (s : Span) : Bool := s.first.line == s.last.line

def precedes (a b : Span) : Bool :=
  a.first.index < b.first.index ||
    (a.first.index == b.first.index && a.last.index ≤ b.last.index)

end Span

/-! ## Faults -/

inductive Flaw
  | classEscape
  | classRangeOrder
  | classRangeBound
  | classUnclosed
  | decimalEmpty
  | decimalInvalid
  | hexEmpty
  | hexInvalid
  | hexDigit
  | escapeUnfinished
  | escapeUnknown
  | flagDangling
  | flagDuplicate
  | flagNegatedTwice
  | flagUnfinished
  | flagUnknown
  | groupNameDuplicate
  | groupNameEmpty
  | groupNameInvalid
  | groupNameUnfinished
  | groupUnclosed
  | groupUnopened
  | nesting (limit : Nat)
  | countOrder
  | countEmpty
  | countUnclosed
  | repetitionMissing
  | boundaryUnclosed
  | boundaryUnknown
  | boundaryUnfinished
  | propertyInvalid
  | backReference
  | lookAround
  | unicodeOff
  | invalidText
  | propertyUnknown
  | propertyValueUnknown
  deriving DecidableEq, Repr

def Flaw.message : Flaw → String
  | .classEscape => "invalid escape sequence found in character class"
  | .classRangeOrder => "invalid character class range, the start must be <= the end"
  | .classRangeBound => "invalid range boundary, must be a literal"
  | .classUnclosed => "unclosed character class"
  | .decimalEmpty => "decimal literal empty"
  | .decimalInvalid => "decimal literal invalid"
  | .hexEmpty => "hexadecimal literal empty"
  | .hexInvalid => "hexadecimal literal is not a Unicode scalar value"
  | .hexDigit => "invalid hexadecimal digit"
  | .escapeUnfinished => "incomplete escape sequence, reached end of pattern prematurely"
  | .escapeUnknown => "unrecognized escape sequence"
  | .flagDangling => "dangling flag negation operator"
  | .flagDuplicate => "duplicate flag"
  | .flagNegatedTwice => "flag negation operator repeated"
  | .flagUnfinished => "expected flag but got end of regex"
  | .flagUnknown => "unrecognized flag"
  | .groupNameDuplicate => "duplicate capture group name"
  | .groupNameEmpty => "empty capture group name"
  | .groupNameInvalid => "invalid capture group character"
  | .groupNameUnfinished => "unclosed capture group name"
  | .groupUnclosed => "unclosed group"
  | .groupUnopened => "unopened group"
  | .nesting limit =>
    "exceed the maximum number of nested parentheses/brackets (" ++ toString limit ++ ")"
  | .countOrder => "invalid repetition count range, the start must be <= the end"
  | .countEmpty => "repetition quantifier expects a valid decimal"
  | .countUnclosed => "unclosed counted repetition"
  | .repetitionMissing => "repetition operator missing expression"
  | .boundaryUnclosed =>
    "special word boundary assertion is either unclosed or contains an invalid character"
  | .boundaryUnknown =>
    "unrecognized special word boundary assertion, valid choices are: start, end, start-half " ++
      "or end-half"
  | .boundaryUnfinished =>
    "found either the beginning of a special word boundary or a bounded repetition on a \\b " ++
      "with an opening brace, but no closing brace"
  | .propertyInvalid => "invalid Unicode character class"
  | .backReference => "backreferences are not supported"
  | .lookAround => "look-around, including look-ahead and look-behind, is not supported"
  | .unicodeOff => "Unicode not allowed here"
  | .invalidText => "pattern can match invalid UTF-8"
  | .propertyUnknown => "Unicode property not found"
  | .propertyValueUnknown => "Unicode property value not found"

/-- A flaw and where it is; `other` is the place it is in conflict with. -/
structure Fault where
  flaw : Flaw
  span : Span
  other : Option Span := none
  deriving DecidableEq, Repr

namespace Fault

/-- The marks under a line: carets below each span, `column` being how far the line is marked. -/
def carets (column : Nat) : List Span → List Char
  | [] => []
  | s :: rest =>
    let gap := s.first.column - 1 - column
    let width := max 1 (s.last.column - s.first.column)
    List.replicate gap ' ' ++ List.replicate width '^' ++ carets (column + gap + width) rest

def padded (width : Nat) (s : String) : String :=
  String.ofList (List.replicate (width - s.length) ' ') ++ s

/-- The lines of a pattern, numbered when there are several, with marks below those that spans
begin and end on. -/
def notes (lines : List String) (width : Nat) (spans : List Span) : String :=
  let line (number : Nat) (text : String) : String :=
    let start := if width = 0 then "    " else padded width (toString number) ++ ": "
    let here := spans.filter fun s => s.isOneLine && s.first.line == number
    let marks :=
      if here.isEmpty then ""
      else padded (if width = 0 then 4 else width + 2) "" ++ String.ofList (carets 0 here) ++ "\n"
    start ++ text ++ "\n" ++ marks
  String.join (lines.zipIdx.map fun (text, i) => line (i + 1) text)

def manyLines (s : Span) : String :=
  "on line " ++ toString s.first.line ++ " (column " ++ toString s.first.column ++
    ") through line " ++ toString s.last.line ++ " (column " ++ toString (s.last.column - 1) ++ ")"

def report (f : Fault) (pattern : String) : String :=
  let lines := (Text.lines pattern.toList).map String.ofList
  let count := lines.length + (if pattern.toList.getLast? = some '\n' then 1 else 0)
  let width := if count ≤ 1 then 0 else (toString count).length
  let spans := (f.span :: f.other.toList).mergeSort Span.precedes
  let notated := notes lines width spans
  let shown :=
    if pattern.toList.contains '\n' then
      let divider := String.ofList (List.replicate 79 '~') ++ "\n"
      let long := spans.filter fun s => !s.isOneLine
      divider ++ notated ++ divider ++
        (if long.isEmpty then "" else "\n".intercalate (long.map manyLines) ++ "\n")
    else notated
  "regex parse error:\n" ++ shown ++ "error: " ++ f.flaw.message

end Fault

end BuildTool.Regex
