import BuildTool.Number.Binary
import BuildTool.Text.Split

/-!
# Reading words

Every reader takes a text and gives what it has read with the rest of the text, or nothing.
Where several readings are possible the first one that fits is taken, even if what follows then
does not fit. Here are the readers of what has no blanks inside: names, numbers, texts between
quotes, and paths of variables.
-/

namespace BuildTool.Template

abbrev Reader (α : Type) := List Char → Option (α × List Char)

/-! ## Words -/

/-- A blank inside a tag. -/
def isSpace (c : Char) : Bool := c == ' ' || c == '\t' || c == '\r' || c == '\n'

/-- The text without blanks in front. -/
def skip (s : List Char) : List Char := s.dropWhile isSpace

/-- The text without the blanks in front, of which there must be one. -/
def skipSome? (s : List Char) : Option (List Char) :=
  match s with
  | c :: rest => if isSpace c then some (skip rest) else none
  | [] => none

/-- What follows a word or sign at the beginning of a text. -/
def after? (word : String) (s : List Char) : Option (List Char) :=
  Text.dropStart? word.toList s

def isNameStart (c : Char) : Bool := c.isAlpha || c == '_'

def isNameChar (c : Char) : Bool := c.isAlphanum || c == '_'

def name? : Reader String := fun s =>
  match s with
  | c :: rest =>
    if isNameStart c then
      some (String.ofList (c :: rest.takeWhile isNameChar), rest.dropWhile isNameChar)
    else none
  | [] => none

/-- Reads a text between two equal quotes; nothing is escaped in it. -/
def quotedText? : Reader String := fun s =>
  match s with
  | c :: rest =>
    if c == '"' || c == '\x27' || c == '\x60' then
      (Text.cutChar? c rest).map fun cut => (String.ofList cut.1, cut.2)
    else none
  | [] => none

/-- Reads the digits of a whole number with its sign. -/
def digits? : Reader (Bool × List Char) := fun s =>
  let (negative, s) := match s with
    | '-' :: rest => (true, rest)
    | _ => (false, s)
  match s with
  | '0' :: rest => some ((negative, ['0']), rest)
  | c :: rest =>
    if c.isDigit then some ((negative, c :: rest.takeWhile Char.isDigit), rest.dropWhile Char.isDigit)
    else none
  | [] => none

def digitsValue (ds : List Char) : Nat :=
  ds.foldl (fun n d => n * 10 + (d.toNat - '0'.toNat)) 0

/-- Reads a number with a point. -/
def float? : Reader Float := fun s => do
  let ((negative, whole), rest) ← digits? s
  match rest with
  | '.' :: rest =>
    let places := rest.takeWhile Char.isDigit
    if places.isEmpty then none
    let x := Float.ofScientific (digitsValue (whole ++ places)) true places.length
    return (if negative then -x else x, rest.drop places.length)
  | _ => none

/-- Reads a whole number of at most 64 bits. -/
def int? : Reader Int := fun s => do
  let ((negative, ds), rest) ← digits? s
  let n : Int := if negative then -(digitsValue ds : Int) else digitsValue ds
  if fitsWord n then return (n, rest) else none

def bool? : Reader Bool := fun s =>
  match after? "true" s, after? "false" s, after? "True" s, after? "False" s with
  | some rest, _, _, _ => some (true, rest)
  | _, some rest, _, _ => some (false, rest)
  | _, _, some rest, _ => some (true, rest)
  | _, _, _, some rest => some (false, rest)
  | none, none, none, none => none

def wordWithBlank? (word : String) (s : List Char) : Option (List Char) :=
  match after? word s with
  | some (c :: rest) => if isSpace c then some rest else none
  | _ => none

mutual

/-- Reads the path of a variable after its first name: names and numbers behind dots, and
subscripts in brackets. The text of the path is kept as it is. -/
def pathTail : Nat → List Char → List Char × List Char
  | 0, s => ([], s)
  | fuel + 1, s =>
    match s with
    | '.' :: rest =>
      let word := rest.takeWhile isNameChar
      if word.isEmpty then ([], s)
      else
        let (tail, rest) := pathTail fuel (rest.drop word.length)
        ('.' :: word ++ tail, rest)
    | '[' :: rest =>
      match subscript? fuel rest with
      | some (inside, ']' :: rest) =>
        let (tail, rest) := pathTail fuel rest
        ('[' :: inside ++ ']' :: tail, rest)
      | _ => ([], s)
    | _ => ([], s)

/-- Reads what stands in brackets: a number, a text or a path. -/
def subscript? : Nat → List Char → Option (List Char × List Char)
  | 0, _ => none
  | fuel + 1, s =>
    match digits? s with
    | some (_, rest) => some (s.take (s.length - rest.length), rest)
    | none =>
      match quotedText? s with
      | some (_, rest) => some (s.take (s.length - rest.length), rest)
      | none =>
        match name? s with
        | some (first, rest) =>
          let (tail, rest) := pathTail fuel rest
          some (first.toList ++ tail, rest)
        | none => none

end

def path? : Reader String := fun s => do
  let (first, rest) ← name? s
  let (tail, rest) := pathTail (rest.length + 1) rest
  return (first ++ String.ofList tail, rest)

/-! ## Several items -/

/-- Reads as many items as there are, each after blanks, giving the rest before the blanks in
front of what is no item. -/
def many {α : Type} (item : Reader α) : Nat → List Char → List α × List Char
  | 0, s => ([], s)
  | fuel + 1, s =>
    match item (skip s) with
    | some (a, rest) =>
      let (more, rest) := many item fuel rest
      (a :: more, rest)
    | none => ([], s)

def separated {α : Type} (item : Reader α) (fuel : Nat) : Reader (List α) := fun s => do
  let (first, rest) ← item s
  let (more, rest) := many (fun s => do item (skip (← after? "," s))) fuel rest
  return (first :: more, rest)

/-- Reads items separated by commas, of which there may be none. -/
def items {α : Type} (item : Reader α) (fuel : Nat) (s : List Char) : List α × List Char :=
  (separated item fuel s).getD ([], s)

/-- The text behind the comma that may stand behind the last item. -/
def skipComma (s : List Char) : List Char := (after? "," (skip s)).getD s

end BuildTool.Template
