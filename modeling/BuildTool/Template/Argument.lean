import BuildTool.Template.Error
import BuildTool.Template.Value

/-!
# Arguments of filters and functions

Arguments have names, and each is expected to be of some type. A value of another type is
refused in words that name the filter, the argument and the type.
-/

namespace BuildTool.Template

abbrev Named := List (String × Value)

/-- A type that an argument can have: its name and what it accepts. -/
structure ArgumentType (α : Type) where
  name : String
  read : Value → Option α

namespace ArgumentType

def text : ArgumentType String where
  name := "String"
  read v := match v with | .text s => some s | _ => none

def bool : ArgumentType Bool where
  name := "bool"
  read v := match v with | .bool b => some b | _ => none

def float : ArgumentType Float where
  name := "f64"
  read v := match v with | .number n => some n.toFloat | _ => none

/-- Whole numbers from zero on. -/
def size : ArgumentType Nat where
  name := "usize"
  read v := match v with | .number (.int n) => if n ≥ 0 then some n.toNat else none | _ => none

/-- Whole numbers from zero on, in 32 bits. -/
def word : ArgumentType Nat where
  name := "u32"
  read v := match v with
    | .number (.int n) => if 0 ≤ n ∧ n < 4294967296 then some n.toNat else none
    | _ => none

/-- Whole numbers in 64 bits. -/
def int : ArgumentType Int where
  name := "i64"
  read v := match v with
    | .number (.int n) => if n < wordEnd then some n else none
    | _ => none

/-- Whole numbers in 32 bits. -/
def smallInt : ArgumentType Int where
  name := "i32"
  read v := match v with
    | .number (.int n) => if -2147483648 ≤ n ∧ n < 2147483648 then some n else none
    | _ => none

def list : ArgumentType (List Value) where
  name := "Vec<Value>"
  read v := match v with | .list items => some items | _ => none

end ArgumentType

/-- The value that a filter is applied to, read as a type. -/
def subject {α : Type} (filter : String) (type : ArgumentType α) (v : Value) :
    Except EvalError α :=
  match type.read v with
  | some a => .ok a
  | none =>
    .error (.refused ("Filter `" ++ filter ++ "` was called on an incorrect value: got `" ++
      v.asData ++ "` but expected a " ++ type.name))

/-- An argument of a filter, if it is there. -/
def argument? {α : Type} (filter name : String) (type : ArgumentType α) (arguments : Named) :
    Except EvalError (Option α) :=
  match arguments.lookup name with
  | none => .ok none
  | some v =>
    match type.read v with
    | some a => .ok (some a)
    | none =>
      .error (.refused ("Filter `" ++ filter ++ "` received an incorrect type for arg `" ++
        name ++ "`: got `" ++ v.asData ++ "` but expected a " ++ type.name))

/-- An argument of a filter, or what stands in for it. -/
def argument {α : Type} (filter name : String) (type : ArgumentType α) (otherwise : α)
    (arguments : Named) : Except EvalError α := do
  return (← argument? filter name type arguments).getD otherwise

/-- An argument that a filter must have, with the words for its absence. -/
def required {α : Type} (filter name : String) (type : ArgumentType α) (absent : String)
    (arguments : Named) : Except EvalError α := do
  match ← argument? filter name type arguments with
  | some a => return a
  | none => .error (.refused absent)

end BuildTool.Template
