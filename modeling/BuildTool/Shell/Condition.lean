import BuildTool.Files.Disk
import BuildTool.Number.Numeral
import BuildTool.Text.Utf8

/-!
# Conditions

The arguments of `test`: questions about files and texts, comparisons, and these joined by `-a`
and `-o`, turned around by `!` and put in parentheses. A word that could be an operator counts
as an operand where an operator could not stand. Arguments are octet texts.
-/

namespace BuildTool.Shell

inductive ConditionFlaw
  | unexpectedOperator (word : String)
  | argumentExpected (operator : String)
  | closingExpected
  | illegalNumber (text : String)

/-- The complaint about a flaw of a condition. -/
def ConditionFlaw.message : ConditionFlaw → String
  | .unexpectedOperator w => if w = "" then "unexpected operator" else w ++ ": unexpected operator"
  | .argumentExpected o => o ++ ": argument expected"
  | .closingExpected => "closing paren expected"
  | .illegalNumber t => "Illegal number: " ++ t

namespace Condition

/-- The words that ask something about one operand. -/
def unaryWords : List String :=
  ["-r", "-w", "-x", "-e", "-f", "-d", "-c", "-b", "-p", "-u", "-g", "-k", "-s", "-t", "-z", "-n",
    "-h", "-O", "-G", "-L", "-S"]

/-- The words that compare two operands. -/
def binaryWords : List String :=
  ["=", "!=", "<", ">", "-eq", "-ne", "-ge", "-gt", "-le", "-lt", "-nt", "-ot", "-ef"]

inductive Kind
  | finish
  | operand
  | unary
  | binary
  | and_
  | or_
  | not_
  | opening
  | closing
  deriving DecidableEq

def kindOf (word : String) : Kind :=
  if unaryWords.contains word then .unary
  else if binaryWords.contains word then .binary
  else
    match word with
    | "-a" => .and_
    | "-o" => .or_
    | "!" => .not_
    | "(" => .opening
    | ")" => .closing
    | _ => .operand

/-- What the first of some words is. A unary operator needs an operand, which must not be a
comparison with something behind it, and a parenthesis something to open. -/
def look : List String → Kind
  | [] => .finish
  | word :: rest =>
    match kindOf word, rest with
    | .unary, [] => .operand
    | .unary, [_] => .unary
    | .unary, next :: _ => if kindOf next = .binary then .operand else .unary
    | .opening, [] => .operand
    | kind, _ => kind

def number (text : String) : Except ConditionFlaw Int :=
  let found := Numeral.word (Numeral.inBase? 10) text.toList
  if found.outOfRange ∨ found.rest.length = text.length ∨
      found.rest.any fun c => !Numeral.isBlank c then .error (.illegalNumber text)
  else .ok found.value

def entryAt? (disk : Disk) (path : String) : Option (Location × Entry) :=
  (disk.tree.stat disk.work path).toOption

/-- The answer to a question about one operand. -/
def unary (disk : Disk) (operator operand : String) : Except ConditionFlaw Bool :=
  let entry : Option Entry := (entryAt? disk operand).map fun p => p.2
  match operator with
  | "-n" => .ok (operand != "")
  | "-z" => .ok (operand == "")
  | "-t" => (number operand).map fun _ => false
  | "-f" =>
    .ok (match entry with
      | some (.file ..) | some (.tool _) => true
      | _ => false)
  | "-d" => .ok (entry.any (·.isDirectory))
  | "-c" =>
    .ok (match entry with
      | some .nullDevice => true
      | _ => false)
  | "-e" | "-r" | "-w" | "-O" | "-G" => .ok entry.isSome
  | "-x" =>
    .ok (match entry with
      | some (.file _ _ executable) => executable
      | some (.tool _) | some (.directory _) => true
      | _ => false)
  | "-s" =>
    .ok (match entry with
      | some (.file content _ _) => content.size > 0
      | some (.tool _) | some (.directory _) => true
      | _ => false)
  | "-L" | "-h" =>
    .ok (match disk.tree.statLink disk.work operand with
      | .ok (_, .link _) => true
      | _ => false)
  | _ => .ok false

/-- The answer to a comparison. -/
def binary (disk : Disk) (a operator b : String) : Except ConditionFlaw Bool :=
  let numbers (holds : Int → Int → Bool) : Except ConditionFlaw Bool := do
    let x ← number a
    let y ← number b
    return holds x y
  let files (holds : Location × Entry → Location × Entry → Bool) : Except ConditionFlaw Bool :=
    .ok (match entryAt? disk a, entryAt? disk b with
      | some x, some y => holds x y
      | _, _ => false)
  match operator with
  | "=" => .ok (a == b)
  | "!=" => .ok (a != b)
  | "<" => .ok (decide (a < b))
  | ">" => .ok (decide (b < a))
  | "-eq" => numbers fun x y => x == y
  | "-ne" => numbers fun x y => x != y
  | "-lt" => numbers fun x y => decide (x < y)
  | "-le" => numbers fun x y => decide (x ≤ y)
  | "-gt" => numbers fun x y => decide (y < x)
  | "-ge" => numbers fun x y => decide (y ≤ x)
  | "-nt" => files fun x y => decide (y.2.modified < x.2.modified)
  | "-ot" => files fun x y => decide (x.2.modified < y.2.modified)
  | _ => files fun x y => x.1 == y.1

/-- An answer, and the words from the last one on that was used. -/
abbrev Answer := Except ConditionFlaw (Bool × List String)

/-- A question about one operand or a comparison, or whether an operand is a text at all. -/
def simple (disk : Disk) (words : List String) : Answer :=
  match words with
  | [] => .ok (false, [])
  | word :: rest =>
    if look words = .unary then
      match rest with
      | [] => .error (.argumentExpected word)
      | operand :: _ => (unary disk word operand).map fun b => (b, rest)
    else if look rest = .binary then
      match rest with
      | operator :: b :: after => (binary disk word operator b).map fun r => (r, b :: after)
      | operator :: [] => .error (.argumentExpected operator)
      | [] => .ok (word != "", words)
    else .ok (word != "", words)

mutual

def anyOf (disk : Disk) : Nat → Kind → List String → Answer
  | 0, _, words => .ok (false, words)
  | fuel + 1, kind, words => do
    let (a, words) ← allOf disk fuel kind words
    if look words.tail = .or_ then
      let words := words.tail.tail
      let (b, words) ← anyOf disk fuel (look words) words
      return (a || b, words)
    else return (a, words)

def allOf (disk : Disk) : Nat → Kind → List String → Answer
  | 0, _, words => .ok (false, words)
  | fuel + 1, kind, words => do
    let (a, words) ← turned disk fuel kind words
    if look words.tail = .and_ then
      let words := words.tail.tail
      let (b, words) ← allOf disk fuel (look words) words
      return (a && b, words)
    else return (a, words)

/-- A condition, perhaps turned around. -/
def turned (disk : Disk) : Nat → Kind → List String → Answer
  | 0, _, words => .ok (false, words)
  | fuel + 1, kind, words =>
    if kind = .not_ then do
      let next := look words.tail
      let (a, words) ← turned disk fuel next (if next = .finish then words else words.tail)
      return (!a, words)
    else single disk fuel kind words

/-- A condition in parentheses, or a single question. -/
def single (disk : Disk) : Nat → Kind → List String → Answer
  | 0, _, words => .ok (false, words)
  | fuel + 1, kind, words =>
    if kind = .finish then .ok (false, words)
    else if kind = .opening then
      let words := words.tail
      let next := look words
      if next = .closing then .ok (false, words)
      else do
        let (a, words) ← anyOf disk fuel next words
        let words := words.tail
        if look words = .closing then return (a, words) else throw .closingExpected
    else simple disk words

end

/-- The condition in some words from one of a kind on; nothing but what was used may stand
there. -/
def whole (disk : Disk) (kind : Kind) (words : List String) : Except ConditionFlaw Bool := do
  let (a, words) ← anyOf disk (4 * words.length + 8) kind words
  match words with
  | w :: _ :: _ => throw (.unexpectedOperator w)
  | _ => return a

/-- The condition in some words. Up to four words are taken for a comparison, for something in
parentheses or for something turned around before anything else. -/
def holds (disk : Disk) : Nat → List String → Except ConditionFlaw Bool
  | 0, _ => .ok false
  | fuel + 1, words =>
    let inParentheses := words.head? = some "(" && words.getLast? = some ")"
    let isTurned := words.head? = some "!"
    match words with
    | [] => .ok false
    | [_, operator, _] =>
      if kindOf operator = .binary then whole disk .operand words
      else if inParentheses then
        let words := words.tail.dropLast
        whole disk (look words) words
      else if isTurned then (holds disk fuel words.tail).map (!·)
      else whole disk (look words) words
    | [_, _, _, _] =>
      if inParentheses then
        let words := words.tail.dropLast
        whole disk (look words) words
      else if isTurned then (holds disk fuel words.tail).map (!·)
      else whole disk (look words) words
    | words => whole disk (look words) words

end Condition

def condition (disk : Disk) (words : List String) : Except ConditionFlaw Bool :=
  Condition.holds disk (words.length + 1) words

end BuildTool.Shell
