import BuildTool.Files.Disk
import BuildTool.Shell.Pattern
import BuildTool.Text.Utf8

/-!
# Splitting words into fields

After substitution a word is a row of pieces. What came from a substitution outside of quotes is
split at separators: a stretch of blanks is one separator, any other separator stands for
itself, with the blanks around it. Zero characters stand between the parameters of a script and
separate like blanks, or always where the parameters are quoted.

    a = "x : y"    separators " :"    p$a    fields px, y
-/

namespace BuildTool.Shell

/-- A piece of a word after substitution. A mark stands for a quotation mark, which keeps a
word that is empty. -/
inductive Piece
  | fixed (text : List Glyph)
  | mark
  | split (text : List Glyph)
  | separate (text : List Glyph)

/-- A field in the making: its characters, last first, and whether something, if only a mark,
stands in it. -/
structure Field where
  glyphs : List Glyph := []
  begun : Bool := false

/-- Where the splitting of pieces stands: the fields so far (last first), the one in the making,
whether blanks that ended a field may go on, and whether the last splitting was between quoted
parameters. -/
structure Splitting where
  done : List Field := []
  field : Field := {}
  inBlanks : Bool := false
  afterSeparate : Bool := false

namespace Splitting

def add (s : Splitting) (g : Glyph) : Splitting :=
  { s with field := { glyphs := g :: s.field.glyphs, begun := true }, inBlanks := false }

def close (s : Splitting) : Splitting :=
  { s with done := s.field :: s.done, field := {} }

/-- Takes one character of a piece that is split. `quiet` tells that blanks are not taken
together, as behind quoted parameters. -/
def take (separators : List Char) (quiet : Bool) (s : Splitting) (g : Glyph) : Splitting :=
  let separates := g.1 == '\x00' || separators.contains g.1
  let isBlank := separates && (g.1 == '\x00' || g.1 == ' ' || g.1 == '\t' || g.1 == '\n')
  if s.inBlanks then
    if isBlank then s
    else if separates then { s with inBlanks := false }
    else s.add g
  else if separates then
    let blanks := isBlank && !quiet
    if !s.field.begun ∧ blanks then s
    else { s.close with inBlanks := blanks }
  else s.add g

def takePiece (separators : List Char) (s : Splitting) (p : Piece) : Splitting :=
  match p with
  | .fixed text =>
    { s with field := {
        glyphs := text.reverse ++ s.field.glyphs, begun := s.field.begun || !text.isEmpty } }
  | .mark => { s with field := { s.field with begun := true } }
  | .split text =>
    let s' := text.foldl (take separators s.afterSeparate) { s with inBlanks := false }
    { s' with afterSeparate := false }
  | .separate text =>
    let s' := text.foldl (take [] true) { s with inBlanks := false }
    { s' with afterSeparate := true }

/-- The fields. The last one counts if something stands in it, or if quoted parameters came
last. -/
def fields (s : Splitting) : List (List Glyph) :=
  let all := if s.field.begun || s.afterSeparate then s.field :: s.done else s.done
  all.reverse.map fun f => f.glyphs.reverse

end Splitting

def fieldsOf (separators : List Char) (pieces : List Piece) : List (List Glyph) :=
  (pieces.foldl (Splitting.takePiece separators) {}).fields

def Piece.glyphs : Piece → List Glyph
  | .fixed text | .split text | .separate text => text
  | .mark => []

def plainText (gs : List Glyph) : String := String.ofList (gs.map (·.1))

/-- A piece of which only what was quoted stays whole. -/
def Piece.splitting : Piece → Piece
  | .fixed text => if text.any (·.2) then .fixed text else .split text
  | piece => piece

/-! ## Lines that are read -/

/-- A character of a line, and whether it may separate. -/
abbrev LineChar := Char × Bool

def withoutEndBlanks (separators : List Char) (line : List LineChar) : List LineChar :=
  let isBlank (c : LineChar) : Bool :=
    c.2 && separators.contains c.1 && (c.1 == ' ' || c.1 == '\t' || c.1 == '\n')
  (line.reverse.dropWhile isBlank).reverse

/-- The last field of a line: all that is left of it, without blanks at its end. If it would be
one field with one separator behind it, the separator is left out. -/
def lastField (separators : List Char) (line : List LineChar) : String :=
  let separates (c : LineChar) : Bool := c.2 && separators.contains c.1
  let isBlank (c : LineChar) : Bool := separates c && (c.1 == ' ' || c.1 == '\t' || c.1 == '\n')
  let first := line.takeWhile (!separates ·)
  let rest := (line.dropWhile (!separates ·)).dropWhile isBlank
  let kept := match rest with
    | [] => first
    | c :: after =>
      if separates c ∧ (after.dropWhile isBlank).isEmpty then first
      else withoutEndBlanks separators line
  String.ofList (kept.map (·.1))

def lineFields (separators : List Char) : Nat → List LineChar → List String
  | 0, _ => []
  | 1, line =>
    let separates (c : LineChar) : Bool := c.2 && separators.contains c.1
    let isBlank (c : LineChar) : Bool :=
      separates c && (c.1 == ' ' || c.1 == '\t' || c.1 == '\n')
    [lastField separators (line.dropWhile isBlank)]
  | n + 2, line =>
    let separates (c : LineChar) : Bool := c.2 && separators.contains c.1
    let isBlank (c : LineChar) : Bool :=
      separates c && (c.1 == ' ' || c.1 == '\t' || c.1 == '\n')
    let line := line.dropWhile isBlank
    let field := line.takeWhile (!separates ·)
    let rest := (line.dropWhile (!separates ·)).dropWhile isBlank
    let rest := match line.dropWhile (!separates ·), rest with
      | c :: after, d :: behind =>
        if !isBlank c then after else if separates d then behind else rest
      | _, rest => rest
    String.ofList (field.map (·.1)) :: lineFields separators (n + 1) rest

end BuildTool.Shell

/-!
## Ends of joined parameters

The quoted parameters of a script are joined by zero characters before a pattern takes an end
away. They stand in one row with the pattern behind them, escapes and quotation marks included:

    x␛=1 0 a 0 pattern 0 x=1 0

The copy of the first parameter at the end is made if there is an escape in it, and without one
the row ends behind the parameters. A search from the end goes back through the row by as many
characters as the parameters have, so it can reach the pattern; a text that is compared reaches
from its beginning to the next zero character.
-/

namespace BuildTool.Shell.Joined

/-- The character in front of one that is not to be taken for a sign. -/
def escape : Char := '\x81'

def quotation : Char := '\x88'

/-- Characters that stand for nothing else by their place in a row. -/
def isReserved (c : Char) : Bool := escape ≤ c && c ≤ quotation

/-- Characters that need an escape: those that can be a sign in a pattern, in quoted text. -/
def needsEscape (g : Glyph) : Bool :=
  isReserved g.1 || (g.2 && "!*?[=~:/-]\\".contains g.1)

def escaped (g : Glyph) : List Char := if needsEscape g then [escape, g.1] else [g.1]

/-- The pieces of a pattern with their escapes and quotation marks. Between marks a character
has the escape that it needs, outside of them each quoted one has an escape. -/
def written : Bool → List Piece → List Char
  | _, [] => []
  | between, .mark :: rest => quotation :: written (!between) rest
  | between, piece :: rest =>
    let withEscape (g : Glyph) : List Char := if g.2 then [escape, g.1] else escaped g
    piece.glyphs.flatMap (if between then escaped else withEscape) ++ written between rest

/-- A pattern as it is compared: without quotation marks, and with a backslash for an escape
unless one stands there already. -/
def settled : Bool → List Char → List Char
  | _, [] => []
  | isPlain, c :: rest =>
    if c = quotation then settled true rest
    else if c = '\\' then c :: settled false rest
    else if c = escape then
      match rest with
      | [] => []
      | d :: rest => (if isPlain then ['\\', d] else [d]) ++ settled true rest
    else c :: settled true rest

/-- The text up to its first zero character. -/
def first (text : List Char) : List Char := text.takeWhile (· != '\x00')

structure Row where
  joined : List Glyph
  pattern : List Char
  kept : List Char

namespace Row

/-- The row of joined parameters and the pieces of a pattern. The pattern is settled in its
place, and what it held behind its new end is left there. -/
def ofPieces (joined : List Glyph) (pieces : List Piece) : Row :=
  let raw := written false pieces
  let pattern := settled true raw
  { joined, pattern, kept := (raw ++ ['\x00']).drop (pattern.length + 1) }

def parameters (row : Row) : List Char := row.joined.flatMap escaped

def head (row : Row) : List Char := first (row.joined.map Prod.fst)

def hasCopy (row : Row) : Bool := (first row.parameters).contains escape

def patternStart (row : Row) : Nat := row.parameters.length + 1

/-- Where the text begins that a beginning is taken from. -/
def textStart (row : Row) : Nat :=
  if row.hasCopy then row.patternStart + row.pattern.length + 1 + row.kept.length else 0

/-- All characters of the row but the last zero character. -/
def characters (row : Row) : List Char :=
  if row.hasCopy then
    row.parameters ++ '\x00' :: row.pattern ++ '\x00' :: row.kept ++ row.head
  else row.parameters

def endHolds (row : Row) (place : Nat) : Bool :=
  matchesPattern (Shell.pattern (unquoted row.pattern)) (first (row.characters.drop place))

/-- The first parameter matches the pattern when the row is cut at a place, which can lie in
the parameter or in the pattern. -/
def startHolds (row : Row) (place : Nat) : Bool :=
  let pattern := if row.hasCopy then row.pattern.take (place - row.patternStart) else row.pattern
  let pattern := if row.patternStart ≤ place then pattern else row.pattern
  let text := row.characters.drop row.textStart
  let text := if row.textStart ≤ place then text.take (place - row.textStart) else text
  matchesPattern (Shell.pattern (unquoted pattern)) (first text)

/-- How many characters of the parameters a search from the end passes until something
holds. -/
def passed? (row : Row) (holds : Nat → Bool) : Option Nat :=
  (cutsUpTo row.joined.length).find? fun n => holds (row.characters.length - n)

/-- Takes away the end of the parameters that the search finds first. -/
def withoutEnd (row : Row) : List Glyph :=
  match row.passed? row.endHolds with
  | some n => row.joined.take (row.joined.length - n)
  | none => row.joined

/-- Takes away the beginning of the parameters that the search finds first. -/
def withoutStart (row : Row) : List Glyph :=
  match row.passed? row.startHolds with
  | some n => row.joined.drop (row.joined.length - n)
  | none => row.joined

end Row

end BuildTool.Shell.Joined

/-!
## Fields as file names

A field with a pattern stands for the files whose paths match it, sorted; without any it stands
for itself. Each element of the path matches on its own, and names that begin with a dot are
matched only where the dot is written.
-/

namespace BuildTool.Shell

/-- A bracket of a pattern is closed before the element ends. -/
def hasClosing : List Glyph → Bool
  | [] => false
  | g :: rest => rest.any (· == (']', false)) && g.1 != '/'

/-- The element of a path has something that matches more than itself. -/
def isWild : List Glyph → Bool
  | [] => false
  | g :: rest =>
    g == ('*', false) || g == ('?', false) ||
      (g == ('[', false) && hasClosing (if rest.head? = some ('!', false) then rest.tail else rest)) ||
      isWild rest

/-- The elements of a path, cut at slashes, quoted or not. -/
def elements : List Glyph → List (List Glyph)
  | [] => [[]]
  | g :: rest =>
    match elements rest with
    | [] => [[g]]
    | e :: es => if g.1 = '/' then [] :: e :: es else (g :: e) :: es

/-- The names in a directory as an octet text path leads to it, with those of the directory
itself and the one above. -/
def namesIn (disk : Disk) (path : String) : List String :=
  match disk.tree.stat disk.work (if path = "" then "." else path) with
  | .ok (loc, .directory _) => "." :: ".." :: disk.tree.names loc
  | _ => []

/-- Something stands at a path, be it a link. -/
def exists_ (disk : Disk) (path : String) : Bool := disk.tree.pathExists disk.work path

/-- The paths that begin with `start` and go on as the elements say. -/
def pathsFrom (disk : Disk) (start : String) : List (List Glyph) → List String
  | [] => []
  | [e] =>
    if isWild e then (matching e).map (start ++ ·)
    else
      let path := start ++ plainText e
      if exists_ disk path then [path] else []
  | e :: rest =>
    if isWild e then
      (matching e).flatMap fun name => pathsFrom disk (start ++ name ++ "/") rest
    else pathsFrom disk (start ++ plainText e ++ "/") rest
  where
    /-- The names that an element matches. -/
    matching (e : List Glyph) : List String :=
      let items := pattern e
      let dotted := e.head?.any (·.1 == '.')
      (namesIn disk start).filter fun name =>
        (dotted || !name.startsWith ".") && matchesPattern items name.toList

/-- The files that a field stands for, or the field itself. -/
def fileNames (disk : Disk) (field : List Glyph) : List String :=
  let pieces := elements (withoutBackslashes field)
  if pieces.any isWild then
    match pathsFrom disk "" pieces with
    | [] => [plainText field]
    | found => found.mergeSort fun a b => decide (a ≤ b)
  else [plainText field]

end BuildTool.Shell
