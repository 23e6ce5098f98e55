import BuildTool.Template.Description
import BuildTool.Template.Helper
import BuildTool.Template.Test

/-!
# Filling in templates

Expressions are worked out from the inside; statements put out text and change the scope. Every
step into an expression or a piece of a template takes one unit of fuel, so a definition that
calls itself without end fails.
-/

namespace BuildTool.Template

/-- A step of filling in a template. What it has called has been called, and the scope stays
changed, if it fails. -/
abbrev Render := ReaderT Document (ExceptT EvalError (StateT Scope Calling))

/-- The variable that stands for all others, as data. -/
def everything : String := "__tera_context"

def lookupPath (path : String) : Render (Except EvalError Value) := do
  let scope ← get
  if path = everything then return .ok (.text (scope.snapshot.asLines ""))
  return scope.lookup (path.length + 2) path

/-- Named arguments, of which the last counts where two have one name. -/
def lastOfEach : List (String × Expr) → List (String × Expr)
  | [] => []
  | (name, e) :: rest =>
    if rest.any (·.1 == name) then lastOfEach rest else (name, e) :: lastOfEach rest

/-- What stands in for a variable without a value: the argument of the first filter, if that is
the one for it. -/
def standIn? (e : Expr) : Option (Except EvalError Expr) :=
  match e.filters with
  | .mk "default" arguments :: _ =>
    match (lastOfEach arguments).lookup "value" with
    | some otherwise => some (.ok otherwise)
    | none => some (.error .defaultWithoutValue)
  | _ => none

def changeScope (f : Scope → Scope) : Render Unit := modify f

def call (h : Helper) (arguments : Named) : Render Value :=
  fun _ => .mk fun scope => do return (← .ask h arguments, scope)

/-- The number for a whole result, which must fit. -/
def whole (a : Int) (sign : String) (b n : Int) : Except EvalError (Option Number) :=
  if fitsWord n then .ok (some (.int n)) else .error (.overflow a sign b)

/-- A floating-point result; there is none if it is not finite. -/
def finite? (x : Float) : Option Number := if x.isFinite then some (.float x) else none

/-- The quotient of two numbers: a whole number if it is one. -/
def quotient (x y : Float) : Option Number :=
  let q := x / y
  if q.isNaN then none
  else if q.round == q && q.isFinite then some (.int q.toInt64.toInt)
  else finite? q

/-- The result of an arithmetic operator; `operands` describes the operands. Whole numbers are those
of 64 bits, but a remainder is taken of integers: by -1 it is always 0, also of the least number,
where the quotient is out of bounds. -/
def calculate (operator : MathOperator) (operands : String × String) (a b : Number) :
    Except EvalError (Option Number) :=
  match operator, a, b with
  | .mul, .int m, .int n => whole m "x" n (m * n)
  | .add, .int m, .int n => whole m "+" n (m + n)
  | .sub, .int m, .int n => whole m "-" n (m - n)
  | .modulo, .int m, .int n =>
    if n = 0 then .error (.moduloZero operands.1 operands.2)
    else .ok (some (.int (m.tmod n)))
  | .mul, _, _ => .ok (finite? (a.toFloat * b.toFloat))
  | .add, _, _ => .ok (finite? (a.toFloat + b.toFloat))
  | .sub, _, _ => .ok (finite? (a.toFloat - b.toFloat))
  | .modulo, _, _ => .ok (finite? (Test.remainder a.toFloat b.toFloat))
  | .div, _, _ => .ok (quotient a.toFloat b.toFloat)

/-- Two values are equal; numbers by what they are worth. -/
def areEqual (a b : Value) : Bool :=
  match a, b with
  | .number m, .number n => m.toFloat == n.toFloat
  | a, b => a == b

/-- The result of a comparison of two numbers. -/
def compare (operator : LogicOperator) (x y : Float) : Bool :=
  match operator with
  | .greater => x > y
  | .greaterEq => x ≥ y
  | .less => x < y
  | _ => x ≤ y

def isMember (left right : Value) : Except EvalError Bool :=
  match right with
  | .list items => .ok (items.contains left)
  | .text s =>
    match left with
    | .text part => .ok (Test.occursIn part s)
    | _ => .error (.notInText left.described)
  | .table entries =>
    match left with
    | .text key => .ok (entries.lookup key).isSome
    | _ => .error (.notInTable left.described)
  | _ => .error .nothingToSearch

/-- The name of what a loop runs over, for messages. -/
def containerName (t : Term) : Except EvalError String :=
  match t with
  | .variable_ path => .ok path
  | .call c => .ok c.name
  | .list _ => .ok "an array literal"
  | t => .error (.noContainer t.describe)

/-- The turns of a loop: keys, which lists and texts do not have, and values. -/
def turns (container : String) (keyed : Bool) (v : Value) :
    Except EvalError (List (String × Value)) :=
  match v with
  | .list items =>
    if keyed then .error (.pairsOfList container) else .ok (items.map fun v => ("", v))
  | .text s =>
    if keyed then .error (.pairsOfList container)
    else .ok ((Text.clusters s).map fun c => ("", .text c))
  | .table entries => if keyed then .ok entries else .error (.pairsWithoutKey container)
  | _ => .error (.notIterable container)

/-- Runs a step, naming what was called if it fails. -/
def named {α : Type} (kind : CalledKind) (name : String) (step : Render α) : Render α :=
  tryCatch step fun e => throw (.within kind name e)

/-- Asks something of the loop around a statement. -/
def raiseSignal (signal : Signal) (word : String) : Render String := do
  match (← get).raise? signal with
  | some scope =>
    set scope
    return ""
  | none => throw (.noLoop word)

mutual

def eval : Nat → Expr → Render Value
  | 0, _ => throw .nestedTooDeep
  | fuel + 1, e => do
    let start ←
      match e.term with
      | .variable_ path =>
        match ← lookupPath path, standIn? e with
        | .ok .null, some otherwise | .error _, some otherwise => eval fuel (← liftM otherwise)
        | .ok v, _ => pure v
        | .error problem, none => if e.negated then return .bool true else throw problem
      | .logic .. => Value.bool <$> truth fuel e
      | t => evalTerm fuel t
    let v ← applyFilters fuel e.filters start
    return if e.negated then .bool !v.isTrue else v

/-- The value of a term that is neither a variable nor a logical operation. -/
def evalTerm : Nat → Term → Render Value
  | 0, _ => throw .nestedTooDeep
  | fuel + 1, t => do
    match t with
    | .int n => return .int n
    | .float x => return .number (.float x)
    | .bool b => return .bool b
    | .text s => return .text s
    | .concat items => return .text (← joinItems fuel items)
    | .call c => callFunction fuel c
    | .macroCall space name arguments => return .text (← callDefinition fuel space name arguments)
    | .math .. =>
      match ← tryCatch (numberOf fuel t) fun e => throw (.arithmetic e) with
      | some n => return .number n
      | none => return .text "NaN"
    | .member left right negated => return .bool ((← evalMember fuel left right) != negated)
    | .test path negated name arguments =>
      return .bool ((← evalTest fuel path name arguments) != negated)
    | .list items => return .list (← evalAll fuel items)
    | .variable_ _ | .logic .. => return .null

def evalAll : Nat → List Expr → Render (List Value)
  | 0, _ => throw .nestedTooDeep
  | _ + 1, [] => return []
  | fuel + 1, e :: rest => do
    let v ← eval fuel e
    return v :: (← evalAll fuel rest)

/-- The values of named arguments, found in the order in which they are written. A template promises
no order, and only arguments that change the environment or files tell one from another. -/
def evalNamed : Nat → List (String × Expr) → Render Named
  | 0, _ => throw .nestedTooDeep
  | _ + 1, [] => return []
  | fuel + 1, (name, e) :: rest => do
    let v ← eval fuel e
    return (name, v) :: (← evalNamed fuel rest)

/-- Puts a value through filters. The filters that only mark something change nothing. -/
def applyFilters : Nat → List Call → Value → Render Value
  | 0, _, _ => throw .nestedTooDeep
  | _ + 1, [], v => return v
  | fuel + 1, c :: rest, v => do
    if c.name = "safe" ∨ c.name = "default" then applyFilters fuel rest v
    else applyFilters fuel rest (← applyFilter fuel c v)

/-- Puts a value through a filter. -/
def applyFilter : Nat → Call → Value → Render Value
  | 0, _, _ => throw .nestedTooDeep
  | fuel + 1, c, v => do
    match Filter.all.lookup c.name with
    | none => throw (.unknown .filter c.name)
    | some f =>
      named .filter c.name do
        let arguments ← evalNamed fuel (lastOfEach c.arguments)
        liftM (f v arguments)

def callFunction : Nat → Call → Render Value
  | 0, _ => throw .nestedTooDeep
  | fuel + 1, c => do
    match Helper.named? c.name with
    | none => throw (.unknown .function c.name)
    | some h =>
      named .function c.name do
        let arguments ← evalNamed fuel (lastOfEach c.arguments)
        call h arguments

def joinItems : Nat → List Term → Render String
  | 0, _ => throw .nestedTooDeep
  | _ + 1, [] => return ""
  | fuel + 1, t :: rest => do
    let first ←
      match t with
      | .text s => pure s
      | .int n => pure (toString n)
      | .float x => pure (Decimal.text Decimal.plain x)
      | .variable_ path =>
        match ← liftM (← lookupPath path) with
        | .text s => pure s
        | .number n => pure n.asData
        | _ => throw (.concatVariable path)
      | .call c =>
        match ← callFunction fuel c with
        | .text s => pure s
        | .number n => pure n.asData
        | _ => throw (.concatFunction c.name)
      | _ => pure ""
    return first ++ (← joinItems fuel rest)

def evalMember : Nat → Expr → Expr → Render Bool
  | 0, _, _ => throw .nestedTooDeep
  | fuel + 1, left, right => do
    let a ← eval fuel left
    let b ← eval fuel right
    liftM (isMember a b)

def evalTest : Nat → String → String → List Expr → Render Bool
  | 0, _, _, _ => throw .nestedTooDeep
  | fuel + 1, path, name, arguments => do
    match Test.all.lookup name with
    | none => throw (.unknown .test name)
    | some test =>
      named .test name do
        let values ← evalAll fuel arguments
        let v := (← lookupPath path).toOption
        liftM (test v values)

/-- The truth value of an expression in a condition. Filters count only behind variables. -/
def truth : Nat → Expr → Render Bool
  | 0, _ => throw .nestedTooDeep
  | fuel + 1, e => do
    let t := e.term
    let b ←
      match t with
      | .logic .or left right =>
        if ← truth fuel left then pure true else truth fuel right
      | .logic .and left right =>
        if ← truth fuel left then truth fuel right else pure false
      | .logic operator left right =>
        if operator = .equal ∨ operator = .notEqual then
          let a ← eval fuel left
          let b ← eval fuel right
          match a, b with
          | .number _, .number _ => pure (areEqual a b == (operator == .equal))
          | .number _, _ | _, .number _ => return false
          | a, b => pure ((a == b) == (operator == .equal))
        else
          let a ← numberOfExpr fuel left
          let b ← numberOfExpr fuel right
          match a, b with
          | some m, some n => pure (compare operator m.toFloat n.toFloat)
          | _, _ => throw .notComparable
      | .variable_ _ =>
        let v ← tryCatch (eval fuel e) fun _ => pure (.bool false)
        pure (v.isTrue != e.negated)
      | .math .. | .int _ | .float _ =>
        match ← numberOf fuel t with
        | some n => pure n.isTrue
        | none => pure false
      | .member left right negated => pure ((← evalMember fuel left right) != negated)
      | .test path negated name arguments =>
        pure ((← evalTest fuel path name arguments) != negated)
      | .bool b => pure b
      | .text s => pure (s != "")
      | .call c =>
        match ← callFunction fuel c with
        | .bool b => pure b
        | _ => throw (.functionNotBool c.name)
      | .concat _ => pure (← eval fuel e).isTrue
      | .macroCall space name arguments =>
        pure ((← callDefinition fuel space name arguments) != "")
      | .list items => pure !(← evalAll fuel items).isEmpty
    return b != e.negated

/-- The number that an expression in arithmetic stands for. -/
def numberOfExpr : Nat → Expr → Render (Option Number)
  | 0, _ => throw .nestedTooDeep
  | fuel + 1, e => do
    if e.filters.isEmpty then numberOf fuel e.term
    else
      match ← eval fuel e with
      | .number n => return some n
      | _ => throw .valueNotNumber

/-- The number that a term in arithmetic stands for; there is none for a result that is no
number. -/
def numberOf : Nat → Term → Render (Option Number)
  | 0, _ => throw .nestedTooDeep
  | fuel + 1, t => do
    match t with
    | .int n => return some (.int n)
    | .float x => return some (.float x)
    | .variable_ path =>
      match ← liftM (← lookupPath path) with
      | .number n => return some n
      | _ => throw (.variableNotNumber path)
    | .call c =>
      match ← callFunction fuel c with
      | .number n => return some n
      | _ => throw (.functionNotNumber c.name)
    | .math operator left right =>
      let a ← numberOfExpr fuel left
      let b ← numberOfExpr fuel right
      match a, b with
      | some m, some n => liftM (calculate operator (left.describe, right.describe) m n)
      | _, _ => return none
    | .text s => throw (.textInMath s)
    | .bool b => throw (.boolInMath b)
    | .concat items => throw (.concatInMath (shownConcat items))
    | .test _ _ name _ => throw (.testInMath name)
    | t => throw (.otherInMath t.describe)

/-- The text of a definition's body for some arguments. -/
def callDefinition : Nat → String → String → List (String × Expr) → Render String
  | 0, _, _, _ => throw .nestedTooDeep
  | fuel + 1, space, name, arguments => do
    let definitions := (← read).definitions
    if space ≠ "self" ∨ definitions.isEmpty then throw (.unknownSpace space)
    match definitions.find? (·.name == name) with
    | none => throw (.unknownDefinition space name)
    | some d =>
      let bindings ← evalParameters fuel name (lastOfEach arguments) d.parameters
      changeScope (·.enter ⟨.definition space name, bindings.reverse⟩)
      let text ← renderAll fuel d.body
      changeScope Scope.exit
      return text

def evalParameters : Nat → String → List (String × Expr) → List (String × Option Expr) →
    Render Named
  | 0, _, _, _ => throw .nestedTooDeep
  | _ + 1, _, _, [] => return []
  | fuel + 1, definition, arguments, (parameter, otherwise) :: rest => do
    match (arguments.lookup parameter).or otherwise with
    | none => throw (.missingParameter definition parameter)
    | some e =>
      let v ← eval fuel e
      return (parameter, v) :: (← evalParameters fuel definition arguments rest)

/-- The text of pieces of a template, up to the one that leaves a turn of the loop. -/
def renderAll : Nat → List Node → Render String
  | 0, _ => throw .nestedTooDeep
  | _ + 1, [] => return ""
  | fuel + 1, n :: rest => do
    let text ← renderNode fuel n
    if (← get).signal != .none then return text
    return text ++ (← renderAll fuel rest)

def renderNode : Nat → Node → Render String
  | 0, _ => throw .nestedTooDeep
  | fuel + 1, n => do
    match n with
    | .text s | .raw _ s _ => return s
    | .comment _ | .importing .. | .definition .. | .parent .. => return ""
    | .output _ e => return (← eval fuel e).shown
    | .assign _ everywhere name e =>
      let v ← eval fuel e
      changeScope fun s => if everywhere then s.setEverywhere name v else s.set name v
      return ""
    | .insertion _ names optional =>
      if names.contains ownName then
        changeScope (·.enter ⟨.insertion, []⟩)
        let text ← renderAll fuel (← read).nodes
        changeScope Scope.exit
        return text
      else if optional then return "" else throw (.noTemplate names)
    | .block _ name body _ => renderAll fuel (((← read).blocks.lookup name).getD body)
    | .overridden => throw .nothingOverridden
    | .branch arms otherwise _ => renderArms fuel arms (otherwise.map (·.2))
    | .loop _ key value container body otherwise _ =>
      let name ← liftM (containerName container.term)
      let items ← liftM (turns name key.isSome (← eval fuel container))
      match items with
      | [] => renderAll fuel (otherwise.getD [])
      | items =>
        changeScope (·.enter ⟨.outermost, []⟩)
        let text ← renderTurns fuel key value body items.length 0 items
        changeScope Scope.exit
        return text
    | .filtered _ c body _ =>
      let text ← renderAll fuel body
      if c.name = "safe" then return text
      return (← applyFilter fuel c (.text text)).shown
    | .leave _ => raiseSignal .leave "break"
    | .next _ => raiseSignal .next "continue"

/-- The text of the first arm whose condition holds. -/
def renderArms : Nat → List (Trim × Expr × List Node) → Option (List Node) → Render String
  | 0, _, _ => throw .nestedTooDeep
  | fuel + 1, [], otherwise => renderAll fuel (otherwise.getD [])
  | fuel + 1, (_, condition, body) :: rest, otherwise => do
    if ← truth fuel condition then renderAll fuel body else renderArms fuel rest otherwise

/-- The texts of the turns of a loop, each in a fresh frame that takes the place of the one
before. -/
def renderTurns : Nat → Option String → String → List Node → Nat → Nat →
    List (String × Value) → Render String
  | 0, _, _, _, _, _, _ => throw .nestedTooDeep
  | _ + 1, _, _, _, _, _, [] => return ""
  | fuel + 1, key, value, body, count, index, (currentKey, current) :: rest => do
    let state : LoopState := { key, value, currentKey, current, index, count }
    changeScope fun s => s.exit.enter ⟨.loop state, []⟩
    let text ← renderAll fuel body
    if (← get).signal == .leave then return text
    return text ++ (← renderTurns fuel key value body count (index + 1) rest)

end

/-- How many steps deep filling in a template may go. -/
def depthLimit : Nat := 1000000

end BuildTool.Template
