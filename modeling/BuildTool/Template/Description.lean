import BuildTool.Template.Syntax
import BuildTool.Text.Quoted

/-!
# Expressions as messages describe them
-/

namespace BuildTool.Template

def MathOperator.word : MathOperator → String
  | .add => "Add"
  | .sub => "Sub"
  | .mul => "Mul"
  | .div => "Div"
  | .modulo => "Modulo"

def LogicOperator.word : LogicOperator → String
  | .or => "Or"
  | .and => "And"
  | .greater => "Gt"
  | .greaterEq => "Gte"
  | .less => "Lt"
  | .lessEq => "Lte"
  | .equal => "Eq"
  | .notEqual => "NotEq"

def described (name : String) (fields : List (String × String)) : String :=
  name ++ " \x7b " ++ ", ".intercalate (fields.map fun f => f.1 ++ ": " ++ f.2) ++ " \x7d"

def boolWord (b : Bool) : String := if b then "true" else "false"

mutual

def Expr.describe : Expr → String
  | .mk t negated filters =>
    described "Expr" [("val", t.describe), ("negated", boolWord negated),
      ("filters", "[" ++ ", ".intercalate (describeCalls filters) ++ "]")]

def Term.describe : Term → String
  | .int n => "Int(" ++ toString n ++ ")"
  | .float x => "Float(" ++ Decimal.text Decimal.descriptive x ++ ")"
  | .bool b => "Bool(" ++ boolWord b ++ ")"
  | .text s => "String(" ++ Text.quoted s ++ ")"
  | .concat items =>
    "StringConcat(" ++
      described "StringConcat"
        [("values", "[" ++ ", ".intercalate (describeTerms items) ++ "]")] ++ ")"
  | .variable_ path => "Ident(" ++ Text.quoted path ++ ")"
  | .call c => "FunctionCall(" ++ c.describe ++ ")"
  | .macroCall space name arguments =>
    "MacroCall(" ++
      described "MacroCall" [("namespace", Text.quoted space), ("name", Text.quoted name),
        ("args", "\x7b" ++ ", ".intercalate (describeNamed arguments) ++ "\x7d")] ++ ")"
  | .math operator left right =>
    "Math(" ++
      described "MathExpr" [("lhs", left.describe), ("rhs", right.describe),
        ("operator", operator.word)] ++ ")"
  | .logic operator left right =>
    "Logic(" ++
      described "LogicExpr" [("lhs", left.describe), ("rhs", right.describe),
        ("operator", operator.word)] ++ ")"
  | .member left right negated =>
    "In(" ++
      described "In" [("lhs", left.describe), ("rhs", right.describe),
        ("negated", boolWord negated)] ++ ")"
  | .test path negated name arguments =>
    "Test(" ++
      described "Test" [("ident", Text.quoted path), ("negated", boolWord negated),
        ("name", Text.quoted name),
        ("args", "[" ++ ", ".intercalate (describeAll arguments) ++ "]")] ++ ")"
  | .list items => "Array([" ++ ", ".intercalate (describeAll items) ++ "])"

def Call.describe : Call → String
  | .mk name arguments =>
    described "FunctionCall" [("name", Text.quoted name),
      ("args", "\x7b" ++ ", ".intercalate (describeNamed arguments) ++ "\x7d")]

def describeTerms : List Term → List String
  | [] => []
  | t :: rest => t.describe :: describeTerms rest

def describeAll : List Expr → List String
  | [] => []
  | e :: rest => e.describe :: describeAll rest

def describeCalls : List Call → List String
  | [] => []
  | c :: rest => c.describe :: describeCalls rest

def describeNamed : List (String × Expr) → List String
  | [] => []
  | (name, e) :: rest => (Text.quoted name ++ ": " ++ e.describe) :: describeNamed rest

end

/-- Items joined by `~` as a message about them shows them. -/
def shownConcat (items : List Term) : String :=
  " ~ ".intercalate (items.map fun t =>
    match t with
    | .text s => "'" ++ s ++ "'"
    | .variable_ path => path
    | _ => "unknown")

end BuildTool.Template
