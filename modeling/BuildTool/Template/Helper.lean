import BuildTool.Calendar.Layout
import BuildTool.Glob.Search
import BuildTool.Process.Start
import BuildTool.Regex.Program
import BuildTool.Template.Argument
import BuildTool.Template.Scope
import BuildTool.Template.Syntax
import BuildTool.Variables

/-!
# The functions of templates

Besides functions of their arguments alone there are those that run programs, read and set the
environment, find files and tell the time. What they change stays changed whatever comes after.
-/

namespace BuildTool.Template

/-- What the functions work on. `failed` tells how the last program ended, `fatal` why the build
has to end. -/
structure HelperState where
  env : Environment
  disk : Disk
  failed : Bool := false
  fatal : Option CommandError := none

/-- What stays the same while a template is filled in. -/
structure HelperSetting where
  baseDir : String := "."
  processEnvironment : List (String × String) := []

/-- What a function does. What it has changed stays changed if it fails. -/
abbrev Helping := ReaderT HelperSetting (ExceptT EvalError (StateM HelperState))

inductive Helper
  | exec
  | mustExec
  | ok
  | env
  | date
  | split
  | join
  | glob
  | replace
  | range
  | raise
  | processEnv
  | now
  | random
  deriving DecidableEq, Repr

namespace Helper

def all : List Helper :=
  [.exec, .mustExec, .ok, .env, .date, .split, .join, .glob, .replace, .range, .raise,
    .processEnv, .now, .random]

def name : Helper → String
  | .exec => "exec"
  | .mustExec => "mustexec"
  | .ok => "ok"
  | .env => "env"
  | .date => "date"
  | .split => "split"
  | .join => "join"
  | .glob => "glob"
  | .replace => "replace"
  | .range => "range"
  | .raise => "throw"
  | .processEnv => "get_env"
  | .now => "now"
  | .random => "get_random"

def named? (name : String) : Option Helper := all.find? (·.name == name)

def needed (h : Helper) (argument : String) (arguments : Named) : Except EvalError String :=
  match arguments.lookup argument with
  | some v => .ok v.asArgument
  | none => .error (.refused (h.name ++ ": missing argument `" ++ argument ++ "`"))

def neededList (h : Helper) (argument : String) (arguments : Named) :
    Except EvalError (List String) :=
  match arguments.lookup argument with
  | some v => .ok v.flattened
  | none => .error (.refused (h.name ++ ": missing argument `" ++ argument ++ "`"))

end Helper

/-- The pieces of a text: its words without a separator, its characters for an empty one, else
what stands between the occurrences of the separator. -/
def splitBy (separator : Option String) (text : String) : List String :=
  match separator with
  | none => Text.words text
  | some separator =>
    if separator = "" then text.toList.map String.singleton
    else (Text.splitText separator.toList text.toList).map String.ofList

/-- The value with what a pattern matches replaced, in a text or in every item of a list;
nothing for a malformed pattern. -/
def replaceIn (pattern replacement : String) (value : Option Value) : Value :=
  match Regex.Pattern.parse? pattern with
  | none => .null
  | some p =>
    match value with
    | some (.text s) => .text (p.replaceAll replacement s)
    | some (.list items) =>
      .texts (items.map fun v => p.replaceAll replacement v.asArgument)
    | _ => .text ""

/-- An argument of a function, if it is there; `wanted` says what it is and what it can only be. -/
def Helper.argument? {α : Type} (h : Helper) (name : String) (type : ArgumentType α)
    (wanted : String) (arguments : Named) : Except EvalError (Option α) :=
  match arguments.lookup name with
  | none => .ok none
  | some v =>
    match type.read v with
    | some a => .ok (some a)
    | none => .error (.refused ("Function `" ++ h.name ++ "` received " ++ name ++ "=" ++ v.asData ++
        " but " ++ wanted))

def rangeArgument (name : String) (arguments : Named) : Except EvalError (Option Nat) :=
  let shown := if name = "step_by" then "step" else name
  Helper.range.argument? name .size ("`" ++ shown ++ "` can only be a number") arguments

/-- The numbers from `start` below `stop`, `step` apart. -/
def steps (start stop step : Nat) : List Nat :=
  (List.range ((stop - start + step - 1) / step)).map fun i => start + i * step

/-- The numbers that `range` gives. They would never end with a step of zero, which is taken as
one. -/
def rangeOf (arguments : Named) : Except EvalError Value := do
  let start := (← rangeArgument "start" arguments).getD 0
  let step := (← rangeArgument "step_by" arguments).getD 1
  match ← rangeArgument "end" arguments with
  | none => .error (.refused "Function `range` was called without a `end` argument")
  | some stop =>
    if start > stop then
      .error (.refused
        "Function `range` was called with a `start` argument greater than the `end` one")
    else return .list ((steps start stop (max step 1)).map fun (n : Nat) => .int n)

/-- A number from `start` on and below `end`. Nothing is left to chance here: it is always `start`,
also if there is no number in between. -/
def randomOf (arguments : Named) : Except EvalError Value := do
  let bound (name : String) : Except EvalError (Option Int) :=
    Helper.random.argument? name .int ("`" ++ name ++ "` can only be a number") arguments
  let start := (← bound "start").getD 0
  match ← bound "end" with
  | none => .error (.refused "Function `get_random` didn't receive an `end` argument")
  | some _ => return .int start

/-- The time as a text or as a count of seconds. The local time is universal time here, so that it
makes no difference which one is asked for. -/
def nowOf (time : Time) (arguments : Named) : Except EvalError Value := do
  let chosen (name : String) : Except EvalError Bool := do
    let found ← Helper.now.argument? name .bool ("`" ++ name ++ "` can only be a boolean") arguments
    return found.getD false
  let _ ← chosen "utc"
  if ← chosen "timestamp" then return .int (time / 1000000000)
  return .text (Calendar.fullText (.universal (.ofTime time)))

/-- Runs a program and gives what it printed. That it failed is remembered; if it must not, the
build ends. -/
def runProgram (must : Bool) (program : String) (arguments : List String) : Helping Value := do
  let s ← get
  let l : Launch :=
    { program, arguments, directory := (← read).baseDir, environment := s.env.toPairs }
  let (text, failure, disk) := match Program.start s.disk l with
    | .ok o => (o.printed, o.status.failure? program, o.disk)
    | .error problem => ("", some (CommandError.notRun program problem), s.disk)
  set { s with disk, failed := failure.isSome }
  match failure with
  | some cause =>
    if must then
      modify fun s => { s with fatal := some cause }
      throw (.refused cause.message)
    else return .text text
  | none => return .text text

/-- Reads or sets the environment. -/
def useEnvironment (arguments : Named) : Helping Value := do
  let s ← get
  match (arguments.lookup "name").map Value.asArgument, arguments.lookup "value" with
  | none, _ => return .ofPairs s.env.bindings.entries
  | some name, none => return .text ((s.env.get? name).getD "")
  | some name, some value =>
    let value := value.asArgument
    set { s with env := s.env.set name value }
    return .text value

def Helper.call (h : Helper) (arguments : Named) : Helping Value := do
  match h with
  | .exec | .mustExec =>
    let program ← liftM (h.needed "prog" arguments)
    let words := ((arguments.lookup "args").map Value.flattened).getD []
    runProgram (h == .mustExec) program (words.map Text.trim)
  | .ok => return .bool !(← get).failed
  | .env => useEnvironment arguments
  | .date =>
    let layout := ((arguments.lookup "layout").map Value.asArgument).getD "%Y-%m-%d %H:%M:%S"
    match Calendar.Layout.read? layout with
    | none => throw (.refused ("date: invalid layout " ++ Text.quoted layout))
    | some items =>
      -- the local time, which is taken to be universal time
      match items.write? (.ahead 0 (.ofTime (← get).disk.now)) with
      | some text => return .text text
      | none => throw (.refused ("date: cannot format " ++ Text.quoted layout))
  | .split =>
    let text ← liftM (h.needed "text" arguments)
    return .texts (splitBy ((arguments.lookup "sep").map Value.asArgument) text)
  | .join =>
    let items ← liftM (h.neededList "list" arguments)
    let separator := ((arguments.lookup "sep").map Value.asArgument).getD " "
    return .text (separator.intercalate items)
  | .glob =>
    let patterns ← liftM (h.neededList "patterns" arguments)
    let disk := (← get).disk
    let baseDir := (← read).baseDir
    return .texts (patterns.flatMap (Glob.filesFrom disk baseDir))
  | .replace =>
    let pattern ← liftM (h.needed "pattern" arguments)
    let replacement ← liftM (h.needed "replacement" arguments)
    return replaceIn pattern replacement (arguments.lookup "value")
  | .range => liftM (rangeOf arguments)
  | .raise =>
    match ← liftM (h.argument? "message" .text "`message` can only be a string" arguments) with
    | some message => throw (.refused message)
    | none => throw (.refused "Function `throw` was called without a `message` argument")
  | .processEnv =>
    match ← liftM (h.argument? "name" .text "`name` can only be a string" arguments) with
    | none => throw (.refused "Function `get_env` didn't receive a `name` argument")
    | some name =>
      match (← read).processEnvironment.lookup name, arguments.lookup "default" with
      | some value, _ => return .text value
      | none, some otherwise => return otherwise
      | none, none => throw (.refused ("Environment variable `" ++ name ++ "` not found"))
  | .now => liftM (nowOf (← get).disk.now arguments)
  | .random => liftM (randomOf arguments)

/-!
## Calls

What filling in a template does to the world are the calls of functions: it goes on by what each
of them gives, and has its result when it needs no more of them.
-/

section

variable {α β σ : Type}

/-- Work that calls functions: it is done, or goes on with what a function gives for some
arguments. -/
inductive Calling (α : Type)
  | done (a : α)
  | call (h : Helper) (arguments : Named) (next : Except EvalError Value → Calling α)

namespace Calling

/-- One piece of work and what to do with its result. -/
def bind : Calling α → (α → Calling β) → Calling β
  | .done a, f => f a
  | .call h arguments next, f => .call h arguments fun answer => (next answer).bind f

instance : Monad Calling where
  pure := .done
  bind := bind

/-- A call of a function, and nothing else. -/
def ask (h : Helper) (arguments : Named) : Calling (Except EvalError Value) :=
  .call h arguments .done

def run (answer : Helper → Named → σ → Except EvalError Value × σ) : Calling α → σ → α × σ
  | .done a, s => (a, s)
  | .call h arguments next, s => (next (answer h arguments s).1).run answer (answer h arguments s).2

end Calling

def Helper.answer (setting : HelperSetting) (h : Helper) (arguments : Named) (s : HelperState) :
    Except EvalError Value × HelperState :=
  ((h.call arguments).run setting).run.run s

end

end BuildTool.Template
