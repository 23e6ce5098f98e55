import BuildTool.Number.Numeral
import BuildTool.Shell.Command

/-!
# Shell arithmetic

Integer expressions with the operators of the shell, by precedence, on numbers of 64 bits.
Names stand for the numbers in variables, zero where there is none, and can be assigned to. An
expression is worked out while it is read; what an operator passes over is read but leaves no
trace.

    x = 3, y ? x << 2 : 0 || !z
-/

namespace BuildTool.Shell.Arithmetic

inductive Flaw
  | expecting (what : String)
  | divisionByZero
  | notNumber (value : String)

def Flaw.message (expression : String) : Flaw → String
  | .expecting what => "arithmetic expression: expecting " ++ what ++ ": \"" ++ expression ++ "\""
  | .divisionByZero => "arithmetic expression: division by zero: \"" ++ expression ++ "\""
  | .notNumber value => "Illegal number: " ++ value

inductive Item
  | number (n : Int)
  | name (s : String)
  | sign (s : String)
  | unknown
  deriving DecidableEq

/-- The signs, longer ones first. -/
def signs : List String :=
  ["<<=", ">>=", "&&", "||", "==", "!=", "<=", ">=", "<<", ">>", "+=", "-=", "*=", "/=", "%=",
    "&=", "|=", "^=", "+", "-", "*", "/", "%", "(", ")", "<", ">", "=", "!", "?", ":", "&", "|",
    "^", "~"]

/-- The items of an expression; `fuel` is its length. -/
def items : Nat → List Char → List Item
  | 0, _ | _ + 1, [] => []
  | fuel + 1, c :: rest =>
    if c = ' ' ∨ c = '\t' ∨ c = '\n' then items fuel rest
    else if c.isDigit then
      let found := Numeral.word Numeral.whole? (c :: rest)
      .number found.value :: items fuel found.rest
    else if isNameStart c then
      .name (String.ofList ((c :: rest).takeWhile isNameChar)) ::
        items fuel ((c :: rest).dropWhile isNameChar)
    else
      match signs.find? fun s => s.toList.isPrefixOf (c :: rest) with
      | some s => .sign s :: items fuel ((c :: rest).drop s.length)
      | none => [.unknown]

/-- How tightly a binary operator binds. -/
def precedence? : String → Option Nat
  | "|" => some 1
  | "^" => some 2
  | "&" => some 3
  | "==" | "!=" => some 4
  | "<" | "<=" | ">" | ">=" => some 5
  | "<<" | ">>" => some 6
  | "+" | "-" => some 7
  | "*" | "/" | "%" => some 8
  | _ => none

def ofBool (b : Bool) : Int := if b then 1 else 0

/-- The number that 64 bits hold of a number. -/
def wrapped (n : Int) : Int := Int.bmod n wordLimit

def bits (n : Int) : BitVec 64 := BitVec.ofInt 64 n

/-- The distance of a shift: the lowest six bits of a number. -/
def distance (n : Int) : Nat := (n % 64).toNat

/-- Applies a binary operator; division by zero has no value. -/
def result (sign : String) (a b : Int) : Except Flaw Int :=
  match sign with
  | "|" => .ok (bits a ||| bits b).toInt
  | "^" => .ok (bits a ^^^ bits b).toInt
  | "&" => .ok (bits a &&& bits b).toInt
  | "==" => .ok (ofBool (a == b))
  | "!=" => .ok (ofBool (a != b))
  | "<" => .ok (ofBool (a < b))
  | "<=" => .ok (ofBool (a ≤ b))
  | ">" => .ok (ofBool (a > b))
  | ">=" => .ok (ofBool (a ≥ b))
  | "<<" => .ok (bits a <<< distance b).toInt
  | ">>" => .ok ((bits a).sshiftRight (distance b)).toInt
  | "+" => .ok (wrapped (a + b))
  | "-" => .ok (wrapped (a - b))
  | "*" => .ok (wrapped (a * b))
  | "/" => if b = 0 then .error .divisionByZero else .ok (wrapped (Int.tdiv a b))
  | "%" => if b = 0 then .error .divisionByZero else .ok (Int.tmod a b)
  | _ => .error (.expecting "primary")

/-- The signs that set a variable to what their operator makes of it, with the operator. -/
def updates : List (String × String) :=
  [("+=", "+"), ("-=", "-"), ("*=", "*"), ("/=", "/"), ("%=", "%"), ("&=", "&"), ("|=", "|"),
    ("^=", "^"), ("<<=", "<<"), (">>=", ">>")]

/-- The number that the text of a variable is: blanks may stand around it, and no text at all is
zero. -/
def numberOf (text : String) : Except Flaw Int :=
  let found := Numeral.word Numeral.whole? text.toList
  if found.outOfRange ∨ found.rest.any fun c => !Numeral.isBlank c then .error (.notNumber text)
  else .ok found.value

/-- An expression on its way: the items left, what the variables hold, and the variables that
were set, last first. -/
structure Work where
  left : List Item
  value? : String → Option String
  assigned : List (String × Int) := []

abbrev Step := StateT Work (Except Flaw)

def fail {α : Type} (f : Flaw) : Step α := throw f

def next : Step (Option Item) := return (← get).left.head?

def take : Step Unit := modify fun w => { w with left := w.left.tail }

def valueOf (name : String) : Step Int := do
  let w ← get
  match w.assigned.lookup name with
  | some n => return n
  | none => liftM (numberOf ((w.value? name).getD ""))

def assign (name : String) (n : Int) : Step Unit :=
  modify fun w => { w with assigned := (name, n) :: w.assigned }

mutual

/-- Works out an assignment or a conditional expression. With `evaluates` false nothing is set
and nothing refused but the form. -/
def assignment (evaluates : Bool) : Nat → Step Int
  | 0 => fail (.expecting "primary")
  | fuel + 1 => do
    match (← get).left with
    | .name s :: .sign "=" :: _ =>
      take
      take
      let n ← assignment evaluates fuel
      if evaluates then assign s n
      return n
    | .name s :: .sign o :: _ =>
      match updates.lookup o with
      | none => conditional evaluates fuel
      | some o =>
        take
        take
        let n ← assignment evaluates fuel
        if evaluates then
          let n ← liftM (result o (← valueOf s) n)
          assign s n
          return n
        else return n
    | _ => conditional evaluates fuel

/-- Works out a choice between two expressions. -/
def conditional (evaluates : Bool) : Nat → Step Int
  | 0 => fail (.expecting "primary")
  | fuel + 1 => do
    let n ← disjunction evaluates fuel
    if (← next) ≠ some (.sign "?") then return n
    else
      take
      let yes ← assignment (evaluates && n != 0) fuel
      if (← next) ≠ some (.sign ":") then fail (.expecting "':'")
      else
        take
        let no ← conditional (evaluates && n == 0) fuel
        return if n ≠ 0 then yes else no

/-- Works out operands joined by `||`. -/
def disjunction (evaluates : Bool) : Nat → Step Int
  | 0 => fail (.expecting "primary")
  | fuel + 1 => do
    let a ← conjunction evaluates fuel
    if (← next) ≠ some (.sign "||") then return a
    else
      take
      let b ← disjunction (evaluates && a == 0) fuel
      return ofBool (a != 0 || b != 0)

/-- Works out operands joined by `&&`. -/
def conjunction (evaluates : Bool) : Nat → Step Int
  | 0 => fail (.expecting "primary")
  | fuel + 1 => do
    let a ← binary evaluates 0 fuel
    if (← next) ≠ some (.sign "&&") then return a
    else
      take
      let b ← conjunction (evaluates && a != 0) fuel
      return ofBool (a != 0 && b != 0)

/-- Works out operands joined by operators that bind at least as tightly as `least`. -/
def binary (evaluates : Bool) (least : Nat) : Nat → Step Int
  | 0 => fail (.expecting "primary")
  | fuel + 1 => do
    let a ← operand evaluates fuel
    continued evaluates least a fuel

/-- Takes further operators and operands onto a value. -/
def continued (evaluates : Bool) (least : Nat) (a : Int) : Nat → Step Int
  | 0 => fail (.expecting "primary")
  | fuel + 1 => do
    match ← next with
    | some (.sign s) =>
      match precedence? s with
      | some p =>
        if p < least then return a
        else
          take
          let b ← binary evaluates (p + 1) fuel
          let n ← if evaluates then liftM (result s a b) else pure b
          continued evaluates least n fuel
      | none => return a
    | _ => return a

def operand (evaluates : Bool) : Nat → Step Int
  | 0 => fail (.expecting "primary")
  | fuel + 1 => do
    let item ← next
    take
    match item with
    | some (.number n) => return n
    | some (.name s) => if evaluates then valueOf s else return 0
    | some (.sign "(") =>
      let n ← assignment evaluates fuel
      if (← next) ≠ some (.sign ")") then fail (.expecting "')'")
      else
        take
        return n
    | some (.sign "+") => operand evaluates fuel
    | some (.sign "-") => return wrapped (-(← operand evaluates fuel))
    | some (.sign "!") => return ofBool ((← operand evaluates fuel) == 0)
    | some (.sign "~") => return -(← operand evaluates fuel) - 1
    | _ => fail (.expecting "primary")

end

/-- The value of an expression, and the variables that it sets, in order. -/
def evaluate (value? : String → Option String) (text : String) :
    Except Flaw (Int × List (String × Int)) := do
  let left := items (text.length + 1) text.toList
  let fuel := 10 * (left.length + 2)
  let (n, w) ← (assignment true fuel).run { left, value? }
  if w.left ≠ [] then throw (.expecting "EOF")
  return (n, w.assigned.reverse)

end BuildTool.Shell.Arithmetic
