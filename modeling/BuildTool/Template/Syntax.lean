import BuildTool.Template.Value

/-!
# Templates

A template is text with tags in it. `Expr` and `Term` are the expressions in tags, `Node` is a
piece of a template. A tag may ask for the white space on either side of it to be left out;
`Trim` tells on which.
-/

namespace BuildTool.Template

inductive MathOperator
  | add
  | sub
  | mul
  | div
  | modulo
  deriving DecidableEq, Repr

/-- The operators that give truth values. -/
inductive LogicOperator
  | or
  | and
  | greater
  | greaterEq
  | less
  | lessEq
  | equal
  | notEqual
  deriving DecidableEq, Repr

mutual

/-- An expression: a term, the filters that its value goes through, and whether it is
negated in the end. -/
inductive Expr
  | mk (term : Term) (negated : Bool) (filters : List Call)

inductive Term
  | int (n : Int)
  | float (x : Float)
  | bool (b : Bool)
  | text (s : String)
  | concat (items : List Term)
  | variable_ (path : String)
  | call (c : Call)
  | macroCall (space name : String) (arguments : List (String × Expr))
  | math (operator : MathOperator) (left right : Expr)
  | logic (operator : LogicOperator) (left right : Expr)
  | member (left right : Expr) (negated : Bool)
  | test (path : String) (negated : Bool) (name : String) (arguments : List Expr)
  | list (items : List Expr)

inductive Call
  | mk (name : String) (arguments : List (String × Expr))

end

instance : Inhabited Term := ⟨.int 0⟩
instance : Inhabited Expr := ⟨.mk default false []⟩

namespace Call

def name : Call → String
  | .mk name _ => name

/-- The arguments; of two with one name, the last counts. -/
def arguments : Call → List (String × Expr)
  | .mk _ arguments => arguments

end Call

namespace Expr

def ofTerm (t : Term) : Expr := .mk t false []

def term : Expr → Term
  | .mk t _ _ => t

/-- The value counts as its opposite. -/
def negated : Expr → Bool
  | .mk _ n _ => n

def filters : Expr → List Call
  | .mk _ _ fs => fs

/-- The expression with or without negation, whatever it had before. -/
def withNegation (negated : Bool) : Expr → Expr
  | .mk t _ fs => .mk t negated fs

end Expr

/-- On which sides of a tag white space is left out. -/
structure Trim where
  left : Bool := false
  right : Bool := false
  deriving DecidableEq, Repr, Inhabited

/-- A piece of a template. A piece with a body has two tags. -/
inductive Node
  | text (s : String)
  | raw (start : Trim) (s : String) (stop : Trim)
  | comment (trim : Trim)
  | output (trim : Trim) (e : Expr)
  | assign (trim : Trim) (everywhere : Bool) (name : String) (e : Expr)
  | insertion (trim : Trim) (names : List String) (optional : Bool)
  | importing (trim : Trim) (file space : String)
  | parent (trim : Trim) (name : String)
  | block (start : Trim) (name : String) (body : List Node) (stop : Trim)
  | overridden
  | definition (start : Trim) (name : String) (parameters : List (String × Option Expr))
      (body : List Node) (stop : Trim)
  | branch (arms : List (Trim × Expr × List Node)) (otherwise : Option (Trim × List Node))
      (stop : Trim)
  | loop (start : Trim) (key : Option String) (value : String) (container : Expr)
      (body : List Node) (otherwise : Option (List Node)) (stop : Trim)
  | filtered (start : Trim) (filter : Call) (body : List Node) (stop : Trim)
  | leave (trim : Trim)
  | next (trim : Trim)

/-- What can be called by name in a template. -/
structure Definition where
  name : String
  parameters : List (String × Option Expr)
  body : List Node

/-- A template with what is found in it: the blocks, the parent it extends, its definitions and
the files it takes definitions from. -/
structure Document where
  nodes : List Node := []
  blocks : List (String × List Node) := []
  parent : Option String := none
  definitions : List Definition := []
  imported : List (String × String) := []

/-- The name under which a template knows itself. -/
def ownName : String := "__tera_one_off"

end BuildTool.Template
