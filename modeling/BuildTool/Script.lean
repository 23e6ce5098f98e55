import BuildTool.Command
import BuildTool.Graph.Basic
import BuildTool.Path
import BuildTool.Statement
import BuildTool.Variables

/-!
# Scripts

A script is carried out line by line. Each statement changes one thing of the `Plan`: a
target, a variable or an environment entry; a message line is printed at once. Names of
targets and dependencies are cleaned, so every spelling of a path means the same target.

    Script.step    : a line, a plan and an output  ↦  an error or none, the plan and output after it
    Script.runWith : the same for a whole script, up to the first line that fails

Plan and output are changed in place: what a line has done before it fails remains.
-/

namespace BuildTool

/-- What a script has declared so far. -/
structure Plan where
  graph : Graph := {}
  vars : Variables := {}
  env : Environment := {}
  deriving DecidableEq, Repr

namespace Plan

def expand (plan : Plan) (text : String) : String := BuildTool.expand plan.vars plan.env text

/-- The dependencies and the force mark in the right side of a colon. -/
def readDependencies (right : String) : Except ParseFault (Bool × List String) :=
  let text := right.toList.dropWhile Text.isBlank
  let words := String.ofList (text.dropWhile (· == '!'))
  match splitWords? words with
  | none => .error (.openQuote words)
  | some names => .ok (text.head? == some '!', names)

/-- What a statement leaves: an error or none, and the plan. -/
abbrev Changed := Except BuildError Unit × Plan

/-- Adds dependencies to a target. -/
def declare (plan : Plan) (name right : String) : Changed :=
  match readDependencies right with
  | .error fault => (.error (.parse none fault), plan)
  | .ok (force, names) =>
    (.ok (), { plan with graph := plan.graph.update (Path.clean name) fun t =>
      { t with force := t.force || force, dependencies := t.dependencies ++ names.map Path.clean } })

/-- Sets or appends to a variable or an environment entry. -/
def assign (plan : Plan) (left value : String) (append : Bool) : Changed :=
  match Text.cut? '.' left with
  | some (context, name) =>
    if context = "env" then
      (.ok (), { plan with
        env := if append then plan.env.append name value else plan.env.set name value })
    else (.error (.unknownContext context), plan)
  | none =>
    (.ok (), { plan with
      vars := if append then plan.vars.append left value else plan.vars.assign left value })

def addCommand (plan : Plan) (name command : String) : Plan :=
  { plan with graph := plan.graph.update (Path.clean name) fun t =>
    { t with commands := t.commands ++ [command] } }

/-- Carries out a statement whose sides are expanded. -/
def relate (plan : Plan) (left : String) (operator : Operator) (right : String) : Changed :=
  match operator with
  | .depends => plan.declare left right
  | .assign => plan.assign left right false
  | .append => plan.assign left right true
  | .command => (.ok (), plan.addCommand left right)
  | .message => (.ok (), plan.addCommand left ("<< " ++ right))

end Plan

/-- A way to print a message: an error or none, and the output after it. -/
abbrev Printer (σ : Type) := String → σ → Except BuildError Unit × σ

/-- Printing that leaves the output as it is when it fails. -/
def Printer.ofSay {σ : Type} (say : String → σ → Except BuildError σ) : Printer σ :=
  fun message out =>
    match say message out with
    | .ok out => (.ok (), out)
    | .error e => (.error e, out)

namespace Script

variable {σ : Type}

/-- What a line leaves: an error or none, the plan and the output. -/
abbrev Stepped (σ : Type) := Except BuildError Unit × Plan × σ

def step (print : Printer σ) (line : String) : Plan × σ → Stepped σ
  | (plan, out) =>
    match Statement.ofLine line with
    | .error fault => (.error (.parse none fault), plan, out)
    | .ok .nothing => (.ok (), plan, out)
    | .ok (.say message) =>
      let (result, out) := print (plan.expand message) out
      (result, plan, out)
    | .ok (.relate left operator right) =>
      let (result, plan) := plan.relate (plan.expand left) operator (plan.expand right)
      (result, plan, out)

/-- Names the line in an error about its text. -/
def atLine (number : Nat) : BuildError → BuildError
  | .parse none fault => .parse (some number) fault
  | other => other

/-- Carries out lines up to the first that fails; the first one has number `number`. -/
def steps (print : Printer σ) : Nat → List String → Plan × σ → Option BuildError × Plan × σ
  | _, [], st => (none, st)
  | number, line :: rest, st =>
    match step print line st with
    | (.error e, st) => (some (atLine number e), st)
    | (.ok (), st) => steps print (number + 1) rest st

def lines (script : String) : List String := (Text.lines script.toList).map String.ofList

def runWith (print : Printer σ) (script : String) (st : Plan × σ) :
    Option BuildError × Plan × σ :=
  steps print 1 (lines script) st

/-- Carries out a script whose messages are printed by `say`. -/
def run (say : String → σ → Except BuildError σ) (script : String) (st : Plan × σ) :
    Option BuildError × Plan × σ :=
  runWith (.ofSay say) script st

/-- Carries out one line alone: the plan and the output after it, unless it fails. -/
def runLine (say : String → σ → Except BuildError σ) (line : String) (st : Plan × σ) :
    Except BuildError (Plan × σ) :=
  match step (.ofSay say) line st with
  | (.error e, _) => .error e
  | (.ok (), st) => .ok st

end Script

end BuildTool
