import BuildTool.Template.Filter.List

/-!
# Tests in templates

A test asks something of a variable, which may be undefined, with unnamed arguments.
-/

namespace BuildTool.Template.Test

/-- A test: the value of the variable, if it has one, and the arguments. -/
abbrev Predicate := Option Value → List Value → Except EvalError Bool

def refuse {α : Type} (name words : String) : Except EvalError α :=
  .error (.refused ("Tester `" ++ name ++ "` was called " ++ words))

def accept (name : String) (most : Nat) (arguments : List Value) : Except EvalError Unit :=
  if arguments.length ≤ most then .ok ()
  else if most = 0 then refuse name "with some args but this test doesn't take args"
  else refuse name ("with " ++ toString arguments.length ++ " args, the max number is " ++
    toString most)

def defined (name : String) (v : Option Value) : Except EvalError Value :=
  match v with
  | some v => .ok v
  | none => refuse name "on an undefined variable"

def plain (name : String) (f : Value → Bool) : Predicate := fun v arguments => do
  accept name 0 arguments
  return f (← defined name v)

def number? (v : Value) : Option Float := ArgumentType.float.read v

/-- The remainder of two floating-point numbers, with the sign of the first. -/
def remainder (x y : Float) : Float :=
  let parts (z : Float) : Nat × Int :=
    let b := Decimal.Binary.ofBits (z.abs).toBits
    (b.mantissa, b.exponent)
  if y == 0.0 || x.isNaN || y.isNaN || x.isInf then 0.0 / 0.0
  else if y.isInf then x
  else
    let (a, ea) := parts x
    let (b, eb) := parts y
    let e := min ea eb
    let rest := (a * Nat.pow 2 (ea - e).toNat) % (b * Nat.pow 2 (eb - e).toNat)
    let r := (Float.ofNat rest).scaleB e
    if x < 0.0 then -r else r

def isOdd : Predicate := fun v arguments => do
  accept "odd" 0 arguments
  match number? (← defined "odd" v) with
  | some x => return remainder x 2.0 != 0.0
  | none => refuse "odd" "on a variable that isn't a number"

def isEven : Predicate := fun v arguments => do
  accept "even" 0 arguments
  let v ← defined "even" v
  return !(← isOdd v [])

def textOf (name place : String) (v : Option Value) : Except EvalError String :=
  match v with
  | some (.text s) => .ok s
  | _ => refuse name (place ++ " that isn't a string")

def onTexts (name : String) (f : String → String → Bool) : Predicate := fun v arguments => do
  accept name 1 arguments
  let _ ← defined name v
  let s ← textOf name "on a variable" v
  return f (← textOf name "with a parameter" arguments.head?) s

def occursIn (part s : String) : Bool :=
  part == "" || (Text.cutText? part.toList s.toList).isSome

/-- A text, list or table holds something. -/
def containing : Predicate := fun v arguments => do
  accept "containing" 1 arguments
  match ← defined "containing" v with
  | .text s => return occursIn (← textOf "containing" "with a parameter" arguments.head?) s
  | .list items =>
    match arguments.head? with
    | some item => return items.contains item
    | none => refuse "containing" "with a parameter that isn't a string"
  | .table entries =>
    let key ← textOf "containing" "with a parameter" arguments.head?
    return (entries.lookup key).isSome
  | _ => .error (.refused "Tester `containing` can only be used on string, array or map")

/-- A text matches a pattern somewhere. -/
def matching : Predicate := fun v arguments => do
  accept "matching" 1 arguments
  let _ ← defined "matching" v
  let s ← textOf "matching" "on a variable" v
  let pattern ← textOf "matching" "with a parameter" arguments.head?
  match Regex.Pattern.read pattern with
  | .ok p => return p.isMatch s
  | .error refusal =>
    .error (.refused ("Tester `matching`: Invalid regular expression: " ++ refusal.message))

/-- A number is a multiple of another. -/
def divisibleBy : Predicate := fun v arguments => do
  accept "divisibleby" 1 arguments
  match number? (← defined "divisibleby" v) with
  | none => refuse "divisibleby" "on a variable that isn't a number"
  | some x =>
    match arguments.head?.bind number? with
    | some y => return remainder x y == 0.0
    | none => refuse "divisibleby" "with a parameter that isn't a number"

def all : List (String × Predicate) :=
  [("defined", fun v arguments => do accept "defined" 0 arguments; return v.isSome),
    ("undefined", fun v arguments => do accept "undefined" 0 arguments; return v.isNone),
    ("odd", isOdd),
    ("even", isEven),
    ("string", plain "string" fun v => (ArgumentType.text.read v).isSome),
    ("number", plain "number" fun v => (number? v).isSome),
    ("divisibleby", divisibleBy),
    ("iterable", plain "iterable" fun v =>
      match v with
      | .list _ | .table _ => true
      | _ => false),
    ("object", plain "object" fun v =>
      match v with
      | .table _ => true
      | _ => false),
    ("starting_with", onTexts "starting_with" Text.startsWith),
    ("ending_with", onTexts "ending_with" Text.endsWith),
    ("containing", containing),
    ("matching", matching)]

end BuildTool.Template.Test
