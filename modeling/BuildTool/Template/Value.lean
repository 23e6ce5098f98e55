import BuildTool.Decimal.Notation
import BuildTool.Number.Binary
import BuildTool.Text.Quoted
import BuildTool.Text.Split

/-!
# Values in templates

What expressions in templates stand for: nothing, truth values, numbers, texts, lists, and
tables whose entries are in the order of their names. A value has two texts: the one that is
put into the output, and the one it has as data.
-/

namespace BuildTool.Template

/-- A number, whole or floating-point. -/
inductive Number
  | int (n : Int)
  | float (x : Float)
  deriving BEq, Repr, Inhabited

namespace Number

def toFloat : Number → Float
  | .int n => Float.ofInt n
  | .float x => x

def shown : Number → String
  | .int n => toString n
  | .float x => Decimal.text Decimal.plain x

def asData : Number → String
  | .int n => toString n
  | .float x => Decimal.text Decimal.data x

def isTrue : Number → Bool
  | .int n => n != 0
  | .float x => x != 0.0 && !x.isNaN

end Number

/-- A value. The names in a table are sorted and different from each other. -/
inductive Value
  | null
  | bool (b : Bool)
  | number (n : Number)
  | text (s : String)
  | list (items : List Value)
  | table (entries : List (String × Value))
  deriving BEq, Repr, Inhabited

namespace Value

def int (n : Int) : Value := .number (.int n)

/-- A floating-point number as a value; what is not finite is no value. -/
def float (x : Float) : Value := if x.isFinite then .number (.float x) else .null

def texts (items : List String) : Value := .list (items.map .text)

/-- A table of texts, put in order. -/
def ofPairs (pairs : List (String × String)) : Value :=
  .table ((pairs.mergeSort fun p q => decide (p.1 ≤ q.1)).map fun p => (p.1, .text p.2))

/-- What counts as true: everything but nothing, false, zero and what is empty. -/
def isTrue : Value → Bool
  | .null => false
  | .bool b => b
  | .number n => n.isTrue
  | .text s => s != ""
  | .list items => !items.isEmpty
  | .table entries => !entries.isEmpty

def dataChar (c : Char) : List Char :=
  if c == '"' then ['\\', '"']
  else if c == '\\' then ['\\', '\\']
  else if c == '\n' then ['\\', 'n']
  else if c == '\r' then ['\\', 'r']
  else if c == '\t' then ['\\', 't']
  else if c == '\x08' then ['\\', 'b']
  else if c == '\x0c' then ['\\', 'f']
  else if c.toNat < 32 then
    let digits := Text.hexCode c.toNat
    ['\\', 'u'] ++ List.replicate (4 - digits.length) '0' ++ digits
  else [c]

/-- A text in data, between quotes. -/
def dataText (s : String) : String :=
  String.ofList ('"' :: s.toList.flatMap dataChar ++ ['"'])

mutual

def shown : Value → String
  | .null => ""
  | .bool b => if b then "true" else "false"
  | .number n => n.shown
  | .text s => s
  | .list items => "[" ++ ", ".intercalate (shownAll items) ++ "]"
  | .table _ => "[object]"

def shownAll : List Value → List String
  | [] => []
  | v :: rest => v.shown :: shownAll rest

end

mutual

/-- A value as data, without blanks. -/
def asData : Value → String
  | .null => "null"
  | .bool b => if b then "true" else "false"
  | .number n => n.asData
  | .text s => dataText s
  | .list items => "[" ++ ",".intercalate (allAsData items) ++ "]"
  | .table entries => "\x7b" ++ ",".intercalate (entriesAsData entries) ++ "\x7d"

def allAsData : List Value → List String
  | [] => []
  | v :: rest => v.asData :: allAsData rest

def entriesAsData : List (String × Value) → List String
  | [] => []
  | (name, v) :: rest => (dataText name ++ ":" ++ v.asData) :: entriesAsData rest

end

mutual

/-- A value as data, one item on a line, `indent` being that of the line it starts on. -/
def asLines (indent : String) : Value → String
  | .list [] => "[]"
  | .list items =>
    "[\n" ++ ",\n".intercalate (allAsLines (indent ++ "  ") items) ++ "\n" ++ indent ++ "]"
  | .table [] => "\x7b\x7d"
  | .table entries =>
    "\x7b\n" ++ ",\n".intercalate (entriesAsLines (indent ++ "  ") entries) ++ "\n" ++ indent ++
      "\x7d"
  | .null => "null"
  | .bool b => if b then "true" else "false"
  | .number n => n.asData
  | .text s => dataText s

/-- Some values as data, each on its line. -/
def allAsLines (indent : String) : List Value → List String
  | [] => []
  | v :: rest => (indent ++ v.asLines indent) :: allAsLines indent rest

/-- The entries of a table as data, each on its line. -/
def entriesAsLines (indent : String) : List (String × Value) → List String
  | [] => []
  | (name, v) :: rest =>
    (indent ++ dataText name ++ ": " ++ v.asLines indent) :: entriesAsLines indent rest

end

mutual

def described : Value → String
  | .null => "Null"
  | .bool b => if b then "Bool(true)" else "Bool(false)"
  | .number n => "Number(" ++ n.asData ++ ")"
  | .text s => "String(" ++ Text.quoted s ++ ")"
  | .list items => "Array [" ++ ", ".intercalate (allDescribed items) ++ "]"
  | .table entries => "Object \x7b" ++ ", ".intercalate (entriesDescribed entries) ++ "\x7d"

def allDescribed : List Value → List String
  | [] => []
  | v :: rest => v.described :: allDescribed rest

def entriesDescribed : List (String × Value) → List String
  | [] => []
  | (name, v) :: rest => (Text.quoted name ++ ": " ++ v.described) :: entriesDescribed rest

end

/-- The text of a value as an argument: a text stands for itself, nothing is empty, everything
else is written as data. -/
def asArgument : Value → String
  | .text s => s
  | .null => ""
  | v => v.asData

mutual

/-- The texts in a value: those of nested lists in one row, none for nothing. -/
def flattened : Value → List String
  | .list items => flattenedAll items
  | .null => []
  | v => [v.asArgument]

def flattenedAll : List Value → List String
  | [] => []
  | v :: rest => v.flattened ++ flattenedAll rest

end

/-- The place in a list that a key names. There is one way only to write a number: without a
zero in front. -/
def indexOf? (key : List Char) : Option Nat :=
  match key with
  | '0' :: _ :: _ => none
  | _ => if key.isEmpty ∨ !key.all Char.isDigit then none else (String.ofList key).toNat?

/-- The element that a key of a path names. -/
def child? (v : Value) (key : String) : Option Value :=
  match v with
  | .table entries => entries.lookup key
  | .list items => (indexOf? key.toList).bind (items[·]?)
  | _ => none

/-- What some keys lead to, one after the other. -/
def descend? (v : Value) : List String → Option Value
  | [] => some v
  | key :: rest => (v.child? key).bind (descend? · rest)

/-- Cuts a text behind as many bytes as given, before a character that goes beyond them. -/
def cutBytes : Nat → List Char → List Char × List Char
  | _, [] => ([], [])
  | n, c :: rest =>
    if c.utf8Size ≤ n then
      let (front, back) := cutBytes (n - c.utf8Size) rest
      (c :: front, back)
    else ([], c :: rest)

/-- The place of the first key in a path: where it begins and the place of the dot or quote behind
it, if there is one. A quote of either kind begins or ends a key, in which dots do not count;
`start` is where the key begins and `here` the place of the text. -/
def keySpan (quoted : Bool) (start here : Nat) : List Char → Nat × Option Nat
  | [] => (start, none)
  | c :: rest =>
    if c == '"' || c == '\x27' then
      if quoted ∧ start < here then (start, some here)
      else keySpan (!quoted) (here + 1) (here + 1) rest
    else if c == '.' ∧ !quoted then
      if start < here then (start, some here) else keySpan quoted (here + 1) (here + 1) rest
    else keySpan quoted start (here + 1) rest

/-- The keys of a path: its parts between dots, of which those in quotes are taken whole. Places
are counted in characters, but cuts are made in bytes: a key with wider characters before its
closing quote comes out shorter. -/
def pathKeys : Nat → List Char → List String
  | 0, _ => []
  | fuel + 1, path =>
    match keySpan false 0 0 path with
    | (start, none) =>
      let key := (cutBytes start path).2
      if key.isEmpty then [] else [String.ofList key]
    | (start, some stop) =>
      let key := (cutBytes start (cutBytes stop path).1).2
      String.ofList key :: pathKeys fuel (cutBytes (stop + 1) path).2

def follow? (v : Value) (path : String) : Option Value :=
  v.descend? ((pathKeys (path.length + 1) path.toList).map fun key =>
    String.ofList (Text.replaceText ['~', '0'] ['~']
      (Text.replaceText ['~', '1'] ['/'] key.toList)))

end Value

end BuildTool.Template
