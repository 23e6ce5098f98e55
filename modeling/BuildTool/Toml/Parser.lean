import BuildTool.Number.Binary
import BuildTool.Toml.Document

/-!
# Reading documents of settings

A document consists of lines: assignments `key = value`, headers `[table]` and `[[tables]]`,
comments and blank lines. Arrays and multi-line texts go over several lines.

    Document.parse? text  =  the entries, or nothing for a text that is no document
-/

namespace BuildTool.Toml

/-- A reader takes a part of the text, or fails and leaves it as it was. -/
abbrev Reader := StateT (List Char) Option

namespace Reader

/-- The next character, which stays. -/
def peek : Reader (Option Char) := return (← get).head?

def take (c : Char) : Reader Unit := do
  match ← get with
  | d :: rest => if c = d then set rest else failure
  | [] => failure

def word (w : String) : Reader Unit := w.toList.forM take

def takeWhile (p : Char → Bool) : Reader (List Char) := do
  let s ← get
  set (s.dropWhile p)
  return s.takeWhile p

/-- Takes characters of a kind, of which there must be one. -/
def takeSome (p : Char → Bool) : Reader (List Char) := do
  let taken ← takeWhile p
  if taken.isEmpty then failure else return taken

/-- Fails unless a condition holds. -/
def check (b : Bool) : Reader Unit := if b then return () else failure

def optional {α : Type} (r : Reader α) : Reader (Option α) := (some <$> r) <|> return none

def blanks : Reader Unit := discard (takeWhile fun c => c == ' ' || c == '\t')

def lineEnd : Reader Unit := take '\n' <|> (take '\r' *> take '\n')

def isCommentChar (c : Char) : Bool := c == '\t' || (32 ≤ c.toNat && c.toNat ≠ 127)

def comment : Reader Unit := do
  take '#'
  discard (takeWhile isCommentChar)

/-- Takes the rest of a line that has nothing more to say. -/
def restOfLine : Reader Unit := do
  blanks
  discard (optional comment)
  match ← peek with
  | none => return ()
  | some _ => lineEnd

/-- Takes blanks, comments and line ends, up to `fuel` of them. -/
def gaps : Nat → Reader Unit
  | 0 => return ()
  | fuel + 1 => do
    blanks
    match ← peek with
    | some '#' =>
      comment
      lineEnd
      gaps fuel
    | some '\n' | some '\r' =>
      lineEnd
      gaps fuel
    | _ => return ()

/-- Takes all blanks, comments and line ends. -/
def anyGaps : Reader Unit := do gaps (← get).length

/-! ## Texts -/

def hexDigit? (c : Char) : Option Nat :=
  if '0' ≤ c ∧ c ≤ '9' then some (c.toNat - '0'.toNat)
  else if 'a' ≤ c ∧ c ≤ 'f' then some (c.toNat - 'a'.toNat + 10)
  else if 'A' ≤ c ∧ c ≤ 'F' then some (c.toNat - 'A'.toNat + 10)
  else none

/-- The character of a code in `count` digits, and what follows. -/
def codeChar? (count : Nat) (s : List Char) : Option (Char × List Char) := do
  let digits ← (s.take count).mapM hexDigit?
  if digits.length ≠ count then none
  else
    let n := digits.foldl (fun n d => n * 16 + d) 0
    if n.isValidChar then some (Char.ofNat n, s.drop count)
    else none

/-- The character that stands behind a backslash, and what follows. -/
def escape? : List Char → Option (Char × List Char)
  | 'b' :: rest => some ('\x08', rest)
  | 't' :: rest => some ('\t', rest)
  | 'n' :: rest => some ('\n', rest)
  | 'f' :: rest => some ('\x0c', rest)
  | 'r' :: rest => some ('\r', rest)
  | '"' :: rest => some ('"', rest)
  | '\\' :: rest => some ('\\', rest)
  | 'u' :: rest => codeChar? 4 rest
  | 'U' :: rest => codeChar? 8 rest
  | _ => none

/-- The rest of a text up to its closing quote; `fuel` is the length of the text. -/
def quotedRest? : Nat → List Char → Option (List Char × List Char)
  | 0, _ => none
  | _, [] => none
  | _ + 1, '"' :: rest => some ([], rest)
  | fuel + 1, '\\' :: rest => do
    let (c, rest) ← escape? rest
    let (more, rest) ← quotedRest? fuel rest
    some (c :: more, rest)
  | fuel + 1, c :: rest => do
    if !isCommentChar c then none
    else
      let (more, rest) ← quotedRest? fuel rest
      some (c :: more, rest)

/-- What follows a line end, with line ends of both kinds. -/
def afterLineEnd? : List Char → Option (List Char)
  | '\n' :: rest => some rest
  | '\r' :: '\n' :: rest => some rest
  | _ => none

/-- What follows a backslash at the end of a line: all blanks and line ends are skipped. A lone
carriage return is none. -/
def skipBreaks? : Nat → List Char → Option (List Char)
  | 0, s => some s
  | fuel + 1, s =>
    let s := s.dropWhile fun c => c == ' ' || c == '\t'
    match afterLineEnd? s with
    | some rest => skipBreaks? fuel rest
    | none => if s.head? = some '\r' then none else some s

/-- The rest of a text of several lines, that ends with three quotes of a kind; up to two more
belong to it. Backslashes count if `escapes`. -/
def longRest? (quote : Char) (escapes : Bool) : Nat → List Char → Option (List Char × List Char)
  | 0, _ => none
  | _, [] => none
  | fuel + 1, c :: rest =>
    let three := [quote, quote, quote]
    if (c :: rest).take 3 = three then
      let extra := ((rest.drop 2).take 2).takeWhile (· == quote)
      some (extra, rest.drop (2 + extra.length))
    else if c = '\\' ∧ escapes then
      let gap := rest.dropWhile fun c => c == ' ' || c == '\t'
      match afterLineEnd? gap with
      | some after => do
        let rest ← skipBreaks? fuel after
        longRest? quote escapes fuel rest
      | none => do
        let (c, rest) ← escape? rest
        let (more, rest) ← longRest? quote escapes fuel rest
        some (c :: more, rest)
    else
      match afterLineEnd? (c :: rest) with
      | some rest => do
        let (more, rest) ← longRest? quote escapes fuel rest
        some ('\n' :: more, rest)
      | none =>
        if !isCommentChar c then none
        else do
          let (more, rest) ← longRest? quote escapes fuel rest
          some (c :: more, rest)

/-- Reads with a function on the text. -/
def lift {α : Type} (f : List Char → Option (α × List Char)) : Reader α := do
  match f (← get) with
  | some (a, rest) =>
    set rest
    return a
  | none => failure

def shortText : Reader String := do
  match ← peek with
  | some '"' =>
    take '"'
    String.ofList <$> lift fun s => quotedRest? (s.length + 1) s
  | _ =>
    take '\x27'
    let inside ← takeWhile fun c => isCommentChar c && c != '\x27'
    take '\x27'
    return String.ofList inside

/-- Reads a text of several lines. -/
def longText : Reader String := do
  let quote := (← peek).getD '"'
  check (quote == '"' || quote == '\x27')
  [quote, quote, quote].forM take
  discard (optional lineEnd)
  String.ofList <$> lift fun s => longRest? quote (quote == '"') (s.length + 1) s

/-! ## Keys -/

def isKeyChar (c : Char) : Bool := c.isAlphanum || c == '-' || c == '_'

def keyPart : Reader String := do
  blanks
  let part ← match ← peek with
    | some '"' | some '\x27' => shortText
    | _ => String.ofList <$> takeSome isKeyChar
  blanks
  return part

/-- Reads the parts of a key behind the first, up to `fuel` of them. -/
def keyParts : Nat → Reader (List String)
  | 0 => return []
  | fuel + 1 => do
    match ← peek with
    | some '.' =>
      take '.'
      let part ← keyPart
      return part :: (← keyParts fuel)
    | _ => return []

/-- Values may lie in each other to this depth, and keys may have this many parts. -/
def depthLimit : Nat := 79

/-- Reads a dotted key: the path and the last part. -/
def key : Reader (List String × String) := do
  let first ← keyPart
  let more ← keyParts (← get).length
  let all := first :: more
  check (all.length ≤ depthLimit)
  return (all.dropLast, all.getLast?.getD first)

/-! ## Numbers and dates -/

/-- Takes digits with single underscores between them. -/
def digits (isDigit : Char → Bool) : Reader (List Char) := do
  let taken ← takeSome fun c => isDigit c || c == '_'
  let underscores := taken.zip (taken.drop 1 ++ ['_'])
  check (taken.head? ≠ some '_' && underscores.all fun p => p.1 != '_' || p.2 != '_')
  return taken.filter (· != '_')

def valueOf (base : Nat) (ds : List Char) : Nat :=
  ds.foldl (fun n c => n * base + (hexDigit? c).getD 0) 0

/-- Reads a decimal integer, which has no zero in front. -/
def decimal : Reader Int := do
  let sign ← optional (take '+' *> pure (1 : Int) <|> take '-' *> pure (-1))
  let magnitude ← match ← peek with
    | some '0' => take '0' *> pure 0
    | _ => valueOf 10 <$> digits Char.isDigit
  return (sign.getD 1) * magnitude

def based (mark : String) (base : Nat) : Reader Int := do
  word mark
  let ds ← digits fun c => (hexDigit? c).any (· < base)
  return valueOf base ds

def integer : Reader Node := do
  let n ← based "0x" 16 <|> based "0o" 8 <|> based "0b" 2 <|> decimal
  check (fitsWord n)
  return .integer n

def exponent : Reader Int := do
  take 'e' <|> take 'E'
  let sign ← optional (take '+' *> pure (1 : Int) <|> take '-' *> pure (-1))
  let ds ← digits Char.isDigit
  return (sign.getD 1) * valueOf 10 ds

/-- A number with a fraction or an exponent is not too large. -/
def isFinite (whole : Int) (places : List Char) (power : Int) : Bool :=
  let mantissa := whole.natAbs * Nat.pow 10 places.length + valueOf 10 places
  let scale := power - places.length
  let size := (Nat.toDigits 10 mantissa).length + scale
  mantissa == 0 || size < 309 ||
    (size == 309 && mantissa * Nat.pow 10 scale.toNat <
      (Nat.pow 2 1024 - Nat.pow 2 970) * Nat.pow 10 (-scale).toNat)

/-- Reads a number with a fraction or an exponent. -/
def fraction : Reader Node := do
  let sign ← peek
  let whole ← decimal
  let (places, power) ← match ← peek with
    | some '.' => do
      take '.'
      let places ← digits Char.isDigit
      let power ← optional exponent
      pure (places, power.getD 0)
    | _ => do
      let power ← exponent
      pure ([], power)
  check (sign == some '-' || isFinite whole places power)
  return .fraction

/-- Reads an infinite number or none. -/
def special : Reader Node := do
  discard (optional (take '+' <|> take '-'))
  word "inf" <|> word "nan"
  return .fraction

/-- Reads a number of exactly `count` digits. -/
def fixed (count : Nat) : Reader Nat := do
  let s ← get
  let ds := (s.take count).takeWhile Char.isDigit
  check (ds.length = count)
  set (s.drop count)
  return valueOf 10 ds

def monthLength (year month : Nat) : Nat :=
  if month = 2 then
    if year % 4 = 0 ∧ (year % 100 ≠ 0 ∨ year % 400 = 0) then 29 else 28
  else if month = 4 ∨ month = 6 ∨ month = 9 ∨ month = 11 then 30 else 31

def day : Reader Unit := do
  let year ← fixed 4
  take '-'
  let month ← fixed 2
  take '-'
  let day ← fixed 2
  check (1 ≤ month && month ≤ 12 && 1 ≤ day && day ≤ monthLength year month)

def time : Reader Unit := do
  let hour ← fixed 2
  take ':'
  let minute ← fixed 2
  take ':'
  let second ← fixed 2
  check (hour < 24 && minute < 60 && second ≤ 60)
  match ← peek with
  | some '.' =>
    take '.'
    discard (takeSome Char.isDigit)
  | _ => return ()

def zone : Reader Unit := do
  match ← peek with
  | some 'Z' => take 'Z'
  | some 'z' => take 'z'
  | _ =>
    take '+' <|> take '-'
    let hour ← fixed 2
    take ':'
    let minute ← fixed 2
    check (hour < 24 && minute < 60)

def timeOfDay : Reader Unit := do
  take 'T' <|> take 't' <|> take ' '
  time
  discard (optional zone)

/-- Reads a day, a time or both. -/
def date : Reader Node := do
  (day *> discard (optional timeOfDay)) <|> time
  return .date

/-! ## Values -/

/-- Reads a value that holds no others. -/
def scalar : Reader Node := do
  match ← peek with
  | some '"' | some '\x27' => .text <$> (longText <|> shortText)
  | some 't' => word "true" *> pure (.boolean true)
  | some 'f' => word "false" *> pure (.boolean false)
  | some 'i' | some 'n' => special
  | _ => date <|> fraction <|> special <|> integer

/-- Reads the items of an array up to its end, at most `fuel` of them. -/
def items (one : Reader Node) : Nat → Reader (List Node)
  | 0 => failure
  | fuel + 1 => do
    anyGaps
    match ← peek with
    | some ']' => take ']' *> pure []
    | _ =>
      let item ← one
      anyGaps
      match ← peek with
      | some ',' =>
        take ','
        return item :: (← items one fuel)
      | _ => take ']' *> pure [item]

def assignment (one : Reader Node) : Reader (List String × String × Node) := do
  let (path, key) ← key
  take '='
  blanks
  return (path, key, ← one)

/-- Reads the assignments in braces up to the end, at most `fuel` of them. -/
def assignments (one : Reader Node) : Nat → Reader (List (List String × String × Node))
  | 0 => failure
  | fuel + 1 => do
    let a ← assignment one
    blanks
    match ← peek with
    | some ',' =>
      take ','
      return a :: (← assignments one fuel)
    | _ => take '\x7d' *> pure [a]

/-- Reads a table in braces behind the first of them. -/
def bracesRest (one : Reader Node) : Reader Node := do
  blanks
  match ← peek with
  | some '\x7d' => take '\x7d' *> pure (.table .braces [])
  | _ =>
    let all ← assignments one (← get).length
    match Entries.assignAll all [] with
    | some entries => return .table .braces entries
    | none => failure

/-- Reads a value that may hold others to a depth. -/
def value : Nat → Reader Node
  | 0 => scalar
  | depth + 1 => do
    match ← peek with
    | some '[' =>
      take '['
      .array <$> items (value depth) ((← get).length + 1)
    | some '\x7b' =>
      take '\x7b'
      bracesRest (value depth)
    | _ => scalar

/-! ## Lines -/

def header : Reader Section := do
  take '['
  let isArray := (← optional (take '[')).isSome
  let (path, last) ← key
  take ']'
  if isArray then take ']'
  return { isArray, path := path ++ [last] }

/-- Reads lines up to the end, at most `fuel` of them. `done` holds the sections before the
current one, last first. -/
def lines : Nat → List Section → Section → Reader (List Section)
  | 0, _, _ => failure
  | fuel + 1, done, current => do
    blanks
    match ← peek with
    | none => return (current :: done).reverse
    | some '#' | some '\n' | some '\r' =>
      restOfLine
      lines fuel done current
    | some '[' =>
      let next ← header
      restOfLine
      lines fuel (current :: done) next
    | some _ =>
      let a ← assignment (value depthLimit)
      restOfLine
      lines fuel done { current with assignments := current.assignments ++ [a] }

end Reader

/-- Reads a document. A mark of the byte order in front of it is skipped. -/
def parse? (text : String) : Option Entries := do
  let s := match text.toList with
    | '\ufeff' :: rest => rest
    | other => other
  let (sections, _) ← (Reader.lines (s.length + 1) [] {}).run s
  sections.foldlM Section.add []

end BuildTool.Toml
