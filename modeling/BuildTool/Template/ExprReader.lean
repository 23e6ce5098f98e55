import BuildTool.Template.Reader
import BuildTool.Template.Syntax

/-!
# Reading expressions

Blanks may stand between the parts of an expression. Two ranks of arithmetic operators and two
of logical ones are told apart only after all operands have been read. The fuel bounds how deep
expressions are nested.
-/

namespace BuildTool.Template

def mathOperator? : Reader MathOperator := fun s =>
  match s with
  | '+' :: rest => some (.add, rest)
  | '-' :: rest => some (.sub, rest)
  | '*' :: rest => some (.mul, rest)
  | '/' :: rest => some (.div, rest)
  | '%' :: rest => some (.modulo, rest)
  | _ => none

def comparison? : Reader LogicOperator := fun s =>
  match s with
  | '<' :: '=' :: rest => some (.lessEq, rest)
  | '>' :: '=' :: rest => some (.greaterEq, rest)
  | '>' :: rest => some (.greater, rest)
  | '<' :: rest => some (.less, rest)
  | '!' :: '=' :: rest => some (.notEqual, rest)
  | '=' :: '=' :: rest => some (.equal, rest)
  | _ => none

/-- Joins operands by operators of two ranks, the higher rank first and each from the left. -/
def byRank {α β : Type} (isHigh : β → Bool) (join : β → α → α → α) (first : α) :
    List (β × α) → α
  | [] => first
  | rest =>
    -- products are closed first, then the sums are joined from the left
    let (done, current) := rest.foldl
      (fun (acc : List (α × β) × α) item =>
        if isHigh item.1 then (acc.1, join item.1 acc.2 item.2)
        else (acc.1 ++ [(acc.2, item.1)], item.2)) ([], first)
    match done with
    | [] => current
    | (a, op) :: more =>
      let (left, op) := more.foldl
        (fun (acc : α × β) item => (join acc.2 acc.1 item.1, item.2)) (a, op)
      join op left current

/-- An operator of the higher arithmetic rank. -/
def MathOperator.isProduct : MathOperator → Bool
  | .mul | .div | .modulo => true
  | .add | .sub => false

def joinTerms (op : MathOperator) (a b : Term) : Term := .math op (.ofTerm a) (.ofTerm b)

def joinMath (op : MathOperator) (a b : Expr) : Expr := .ofTerm (.math op a b)

def joinLogic (op : LogicOperator) (a b : Expr) : Expr := .ofTerm (.logic op a b)

/-- A text as a term, if there is anything in it. -/
def textIfAny (s : String) : List Term := if s = "" then [] else [.text s]

/-- The items with texts next to each other joined, behind the text `before`. -/
def joinTexts (before : String) : List Term → List Term
  | [] => textIfAny before
  | .text s :: rest => joinTexts (before ++ s) rest
  | t :: rest => textIfAny before ++ t :: joinTexts "" rest

/-- The term for items joined by `~`: a text if all of them are. -/
def concatOf (items : List Term) : Term :=
  let texts := items.filterMap fun t =>
    match t with
    | .text s => some s
    | _ => none
  if texts.length = items.length then .text (String.join texts)
  else .concat (joinTexts "" items)

/-! ## Readers made of others -/

/-- Reads what a membership looks in, behind the word in front of it. -/
def memberOf? (container : Reader Expr) (left : Expr) (negated : Bool) : Reader Expr := fun s => do
  let rest ← after? "in" s
  let r ← container (skip rest)
  return (.ofTerm (.member left r.1 negated), r.2)

/-- Reads a term in brackets, or a plain value. -/
def operand? (inside value : Reader Term) : Reader Term := fun s => do
  match s with
  | '(' :: rest =>
    let r ← inside (skip rest)
    let rest ← after? ")" (skip r.2)
    return (r.1, rest)
  | _ => value s

/-- Reads arguments without names in brackets. -/
def testArguments? (argument : Reader Expr) (fuel : Nat) : Reader (List Expr) := fun s => do
  let inside ← after? "(" s
  let r ← separated argument fuel (skip inside)
  let rest ← after? ")" (skip r.2)
  return (r.1, rest)

/-- Reads the name of a test and its arguments, if there are any. -/
def testName? (arguments : Reader (List Expr)) : Reader (String × List Expr) := fun s => do
  let r ← name? s
  match arguments (skip r.2) with
  | some found => return ((r.1, found.1), found.2)
  | none => return ((r.1, []), r.2)

def namedArgument? (value : Reader Expr) : Reader (String × Expr) := fun s => do
  let r ← name? s
  let rest ← after? "=" (skip r.2)
  (value (skip rest)).map fun v => ((r.1, v.1), v.2)

def concatItem? (call : Reader Call) : Reader Term := fun s =>
  (call s).map (fun r => (Term.call r.1, r.2)) <|> (float? s).map (fun r => (.float r.1, r.2)) <|>
    (int? s).map (fun r => (.int r.1, r.2)) <|> (quotedText? s).map (fun r => (.text r.1, r.2)) <|>
    (path? s).map fun r => (.variable_ r.1, r.2)

/-- Reads two or more items joined by `~`. -/
def concat? (item : Reader Term) (fuel : Nat) : Reader Term := fun s => do
  let r ← item s
  let more := many (fun s => do item (skip (← after? "~" s))) fuel r.2
  if more.1.isEmpty then none
  return (concatOf (r.1 :: more.1), more.2)

/-! ## Expressions -/

mutual

/-- Reads an expression: conditions joined by `or` and `and`. -/
def expr? : Nat → Reader Expr
  | 0, _ => none
  | fuel + 1, s => do
    let (first, rest) ← condition? fuel s
    let joint : Reader (LogicOperator × Expr) := fun s => do
      let (op, rest) ← (wordWithBlank? "or" s).map (fun rest => (LogicOperator.or, rest)) <|>
        (wordWithBlank? "and" s).map fun rest => (LogicOperator.and, rest)
      let (e, rest) ← condition? fuel (skip rest)
      return ((op, e), rest)
    let (more, rest) := many joint fuel rest
    return (byRank (· == .and) joinLogic first more, rest)

/-- Reads a condition: a membership or a comparison with or without `not`, or an expression in
brackets, which is never negated as a whole. -/
def condition? : Nat → Reader Expr
  | 0, _ => none
  | fuel + 1, s =>
    let (negated, inner) := match wordWithBlank? "not" s with
      | some rest => (true, skip rest)
      | none => (false, s)
    match (membership? fuel inner).or (comparisonExpr? fuel inner) with
    | some (e, rest) => some (e.withNegation negated, rest)
    | none => do
      let rest ← after? "(" s
      let (e, rest) ← expr? fuel (skip rest)
      let rest ← after? ")" (skip rest)
      return (e.withNegation false, rest)

/-- Reads a membership: what is looked for, `in` or `not in`, and what it is looked for in. -/
def membership? : Nat → Reader Expr
  | 0, _ => none
  | fuel + 1, s => do
    let (left, rest) ← textExpr? fuel s <|> basicExpr? fuel s
    let rest := skip rest
    let (negated, rest) := match wordWithBlank? "not" rest with
      | some rest => (true, skip rest)
      | none => (false, rest)
    let container : Reader Expr := fun s => textExpr? fuel s <|> list? fuel s <|>
      (path? s).map fun r => (Expr.ofTerm (.variable_ r.1), r.2)
    memberOf? container left negated rest

/-- Reads a comparison of two values, or one value alone. -/
def comparisonExpr? : Nat → Reader Expr
  | 0, _ => none
  | fuel + 1, s => do
    let side : Reader Expr := fun s => textExpr? fuel s <|> mathExpr? fuel s
    let (left, rest) ← side s
    let compared : Option (Expr × List Char) := do
      let (op, rest) ← comparison? (skip rest)
      let (right, rest) ← side (skip rest)
      return (joinLogic op left right, rest)
    match compared with
    | some r => return r
    | none => return (left, rest)

/-- Reads filtered values joined by arithmetic operators. -/
def mathExpr? : Nat → Reader Expr
  | 0, _ => none
  | fuel + 1, s => do
    let (first, rest) ← basicExpr? fuel s
    let joint : Reader (MathOperator × Expr) := fun s => do
      let (op, rest) ← mathOperator? s
      let (e, rest) ← basicExpr? fuel (skip rest)
      return ((op, e), rest)
    let (more, rest) := many joint fuel rest
    return (byRank MathOperator.isProduct joinMath first more, rest)

/-- Reads arithmetic on plain values with the filters behind it. -/
def basicExpr? : Nat → Reader Expr
  | 0, _ => none
  | fuel + 1, s => do
    let (t, rest) ← basicTerm? fuel s
    let (filters, rest) := many (filter? fuel) fuel rest
    return (.mk t false filters, rest)

/-- Reads plain values joined by arithmetic operators. -/
def basicTerm? : Nat → Reader Term
  | 0, _ => none
  | fuel + 1, s => do
    let operand := operand? (basicTerm? fuel) (value? fuel)
    let (first, rest) ← operand s
    let joint : Reader (MathOperator × Term) := fun s => do
      let (op, rest) ← mathOperator? s
      let (t, rest) ← operand (skip rest)
      return ((op, t), rest)
    let (more, rest) := many joint fuel rest
    return (byRank MathOperator.isProduct joinTerms first more, rest)

/-- Reads a plain value: a truth value, a test, a call, a variable or a number. -/
def value? : Nat → Reader Term
  | 0, _ => none
  | fuel + 1, s =>
    match bool? s with
    | some (b, rest) => some (.bool b, rest)
    | none =>
      match test? fuel s with
      | some r => some r
      | none =>
        match macroCall? fuel s with
        | some r => some r
        | none =>
          match call? fuel s with
          | some (c, rest) => some (.call c, rest)
          | none =>
            match path? s with
            | some (path, rest) => some (.variable_ path, rest)
            | none =>
              match float? s with
              | some (x, rest) => some (.float x, rest)
              | none => (int? s).map fun r => (.int r.1, r.2)

def test? : Nat → Reader Term
  | 0, _ => none
  | fuel + 1, s => do
    let (path, rest) ← path? s
    let rest ← after? "is" (skip rest)
    let rest := skip rest
    let argument : Reader Expr := fun s => expr? fuel s <|> list? fuel s
    let named := testName? (testArguments? argument fuel)
    let opposite := (after? "not" rest).bind fun rest => named (skip rest)
    match opposite with
    | some ((name, arguments), rest) => return (.test path true name arguments, rest)
    | none =>
      let ((name, arguments), rest) ← named rest
      return (.test path false name arguments, rest)

def macroCall? : Nat → Reader Term
  | 0, _ => none
  | fuel + 1, s => do
    let (space, rest) ← name? s
    let rest ← after? "::" (skip rest)
    let (name, rest) ← name? (skip rest)
    let (arguments, rest) ← arguments? fuel (skip rest)
    return (.macroCall space name arguments, rest)

def call? : Nat → Reader Call
  | 0, _ => none
  | fuel + 1, s => do
    let (name, rest) ← name? s
    let (arguments, rest) ← arguments? fuel (skip rest)
    return (.mk name arguments, rest)

/-- Reads named arguments in brackets. -/
def arguments? : Nat → Reader (List (String × Expr))
  | 0, _ => none
  | fuel + 1, s => do
    let rest := skip (← after? "(" s)
    let argument := namedArgument? fun s => expr? fuel s <|> list? fuel s
    let (arguments, rest) := match separated argument fuel rest with
      | some (arguments, rest) => (arguments, skipComma rest)
      | none => ([], rest)
    let rest ← after? ")" (skip rest)
    return (arguments, rest)

def filter? : Nat → Reader Call
  | 0, _ => none
  | fuel + 1, s => do
    let rest := skip (← after? "|" s)
    match call? fuel rest with
    | some r => return r
    | none =>
      let (name, rest) ← name? rest
      return (.mk name [], rest)

/-- Reads a text, or items joined by `~`, with the filters behind it. -/
def textExpr? : Nat → Reader Expr
  | 0, _ => none
  | fuel + 1, s => do
    let joined := concat? (concatItem? (call? fuel)) fuel s
    let (t, rest) ← joined <|> (quotedText? s).map fun r => (Term.text r.1, r.2)
    let (filters, rest) := many (filter? fuel) fuel rest
    return (.mk t false filters, rest)

/-- Reads a list with the filters behind it. -/
def list? : Nat → Reader Expr
  | 0, _ => none
  | fuel + 1, s => do
    let rest := skip (← after? "[" s)
    let (items, rest) := items (condition? fuel) fuel rest
    let rest ← after? "]" (skip (skipComma rest))
    let (filters, rest) := many (filter? fuel) fuel rest
    return (.mk (.list items) false filters, rest)

end

end BuildTool.Template
