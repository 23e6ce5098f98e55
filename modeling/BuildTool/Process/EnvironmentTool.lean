import BuildTool.Process.Tools
import BuildTool.Shell.Signal

/-!
# Programs in another environment

`env` prints the environment or runs a program in a changed one. One argument can hold several,
which are split at blanks outside of quotes.

    -i A=1 -S 'printf "%s\n" ${A}'
-/

namespace BuildTool.EnvironmentTool

def options : OptionTable where
  letters := [('i', .nothing), ('u', .value), ('v', .nothing), ('0', .nothing), ('C', .value),
    ('S', .value)] ++ [' ', '\t', '\n', '\x0b', '\x0c', '\r'].map fun c => (c, .nothing)
  words := [("ignore-environment", .nothing, "i"), ("null", .nothing, "0"),
    ("unset", .value, "u"), ("chdir", .value, "C"), ("default-signal", .maybe, "signal"),
    ("ignore-signal", .maybe, "signal"), ("block-signal", .maybe, "signal"),
    ("list-signal-handling", .nothing, "list"), ("debug", .nothing, "v"),
    ("split-string", .value, "S"), ("help", .nothing, "help"), ("version", .nothing, "version")]
  mixed := false

/-- A call that cannot be carried out: what is wrong, a hint, and whether help is offered. -/
structure Refusal where
  text : String
  offersHelp : Bool := false
  hint : Option String := none

/-- The hint for options that were cut off at a blank. -/
def shebangHint : String := "use -[v]S to pass options in shebang lines"

/-- What is told on the way, if that is asked for. -/
structure Notes where
  wanted : Bool := false
  lines : List String := []

/-- A step on the way to a request. What was told before a refusal stays. -/
abbrev Step := ExceptT Refusal (StateM Notes)

def note (line : String) : Step Unit :=
  modify fun n => if n.wanted then { n with lines := n.lines ++ [line] } else n

/-! ## Splitting -/

def isGap (c : Char) : Bool := c == ' ' || ('\t' ≤ c && c ≤ '\r')

/-- Arguments on their way, the last one first with its characters reversed. `begins` tells that
the next character begins a new one. -/
structure Splitting where
  done : List (List Char) := []
  begins : Bool := true
  single : Bool := false
  double : Bool := false

namespace Splitting

def start (s : Splitting) : Splitting :=
  if s.begins then { s with done := [] :: s.done, begins := false } else s

def add (s : Splitting) (c : Char) : Splitting :=
  let s := s.start
  match s.done with
  | last :: done => { s with done := (c :: last) :: done }
  | [] => s

def arguments (s : Splitting) : List String :=
  s.done.reverse.map fun cs => String.ofList cs.reverse

end Splitting

/-- The name in braces behind a dollar sign, and what follows. -/
def bracedName? : List Char → Option (String × List Char)
  | '$' :: '\x7b' :: c :: rest =>
    let isNameChar (c : Char) : Bool := c.isAlphanum || c == '_'
    if !(c.isAlpha || c == '_') then none
    else
      match rest.dropWhile isNameChar with
      | '\x7d' :: after => some (String.ofList (c :: rest.takeWhile isNameChar), after)
      | _ => none
  | _ => none

def escape? (c : Char) : Option Char :=
  if ['"', '#', '$', '\x27', '\\'].contains c then some c
  else [('f', '\x0c'), ('n', '\n'), ('r', '\r'), ('t', '\t'), ('v', '\x0b')].lookup c

/-- Splits a text into arguments; `fuel` is its length. -/
def split (environment : List (String × String)) :
    Nat → List Char → Splitting → Step Splitting
  | 0, _, s => return s
  | _ + 1, [], s =>
    if s.single || s.double then throw { text := "no terminating quote in -S string" }
    else return s
  | fuel + 1, c :: rest, s =>
    if c = '\x27' ∧ !s.double then
      split environment fuel rest { s.start with single := !s.single }
    else if c = '"' ∧ !s.single then
      split environment fuel rest { s.start with double := !s.double }
    else if isGap c ∧ !s.single ∧ !s.double then
      split environment fuel (rest.dropWhile isGap) { s with begins := true }
    else if c = '#' ∧ s.begins then return s
    else if c = '\\' ∧ ¬(s.single ∧ rest.head? ≠ some '\\' ∧ rest.head? ≠ some '\x27') then
      match rest with
      | [] => throw { text := "invalid backslash at end of string in -S" }
      | '_' :: after =>
        if s.double then split environment fuel after (s.add ' ')
        else split environment fuel after { s with begins := true }
      | 'c' :: _ =>
        if s.double then
          throw { text := "'\\c' must not appear in double-quoted -S string" }
        else return s
      | d :: after =>
        match escape? d with
        | some d => split environment fuel after (s.add d)
        | none => throw { text := "invalid sequence '\\" ++ String.singleton d ++ "' in -S" }
    else if c = '$' ∧ !s.single then
      match bracedName? (c :: rest) with
      | none =>
        throw { text := "only $\x7bVARNAME\x7d expansion is supported, error at: " ++
          String.ofList (c :: rest) }
      | some (name, after) => do
        match environment.lookup name with
        | some value =>
          note ("expanding $\x7b" ++ name ++ "\x7d into " ++ Tool.quoted value)
          split environment fuel after (value.toList.foldl Splitting.add s.start)
        | none =>
          note ("replacing $\x7b" ++ name ++ "\x7d with null string")
          split environment fuel after s
    else split environment fuel rest (s.add c)

def splitOption (environment : List (String × String)) (text : String) : Step (List String) := do
  let s ← split environment (text.length + 1) text.toList {}
  match s.arguments with
  | [] => return []
  | first :: rest =>
    note ("split -S:  " ++ Tool.quoted text)
    note (" into:    " ++ Tool.quoted first)
    for a in rest do note ("     &    " ++ Tool.quoted a)
    return first :: rest

/-! ## Arguments -/

/-- The signal that a text names, by its number, its name, or that with `SIG` in front. The low
bits of a number are a signal too, as in the status of a program that one has ended. -/
def signal? (text : String) : Option Nat :=
  let named (n : Nat) : Bool :=
    n == 16 || (Shell.signalNames[n]?).any fun name => !name.toList.all Char.isDigit
  let others : List (String × Nat) := [("STKFLT", 16), ("POLL", 29), ("IOT", 6), ("CLD", 17)]
  if text.toList.head?.any Char.isDigit then
    (text.toNat?.map fun n => if n % 128 = 0 ∨ n % 128 = 127 then n else n % 128).filter named
  else
    let name := text.map Char.toUpper
    let name := String.ofList ((Text.dropStart? "SIG".toList name.toList).getD name.toList)
    (Shell.signalNames.idxOf? name).or (others.lookup name)

/-- Refuses an option that names something other than signals that can be sent. -/
def checkSignals (names : String) : Step Unit := do
  for part in Text.splitChar ',' names.toList do
    let name := String.ofList part
    if name ≠ "" ∧ (signal? name).all (· == 0) then
      throw { text := Tool.quoted name ++ ": invalid signal", offersHelp := true }

/-- What an option means while the others are still being read. -/
def heed : GivenOption → Step Unit
  | ("v", _) => modify fun n => { n with wanted := true }
  | ("signal", some names) => checkSignals names
  | (option, _) =>
    if option.toList.all isGap then
      throw { text := "invalid option -- '" ++ option ++ "'", offersHelp := true
              hint := some shebangHint }
    else return ()

/-- Reads the options. What an argument is split into is read in its place; `fuel` bounds how
often. -/
def readOptions (environment : List (String × String)) :
    Nat → List String → Step (List GivenOption × List String)
  | 0, arguments => return ([], arguments)
  | _ + 1, [] => return ([], [])
  | fuel + 1, argument :: rest => do
    if argument = "--" then return ([], rest)
    else if !OptionTable.holdsOptions argument then return ([], argument :: rest)
    else
      let (given, ended) := options.readArgument argument rest.head?
      given.forM heed
      match ended with
      | .error text => throw { text, offersHelp := true }
      | .ok used =>
        let rest := if used then rest.tail else rest
        let inserted ← match given.getLast? with
          | some ("S", some text) => splitOption environment text
          | _ => pure []
        let (more, operands) ← readOptions environment fuel (inserted ++ rest)
        return (given ++ more, operands)

/-- What `env` is asked for; `tells` asks to tell about the program before it runs. -/
inductive Request
  | print (environment : List (String × String)) (lineEnd : String)
  | run (environment : List (String × String)) (directory : Option String) (program : String)
      (arguments : List String) (tells : Bool)

/-- What is told about a program before it runs. -/
def programNotes (program : String) (arguments : List String) : List String :=
  ("executing: " ++ program) :: ((program :: arguments).zipIdx.map fun (a, n) =>
    "   arg[" ++ toString n ++ "]= " ++ Tool.quoted a)

/-- Sets an entry of an environment, at its place if there is one. -/
def put (environment : List (String × String)) (name value : String) : List (String × String) :=
  if environment.any (·.1 == name) then
    environment.map fun p => if p.1 == name then (name, value) else p
  else environment ++ [(name, value)]

/-- Takes the assignments in front of arguments. -/
def assignments (environment : List (String × String)) :
    List String → Step (List (String × String) × List String)
  | [] => return (environment, [])
  | a :: rest =>
    match Text.cut? '=' a with
    | some (name, value) => do
      note ("setenv:   " ++ a)
      assignments (put environment name value) rest
    | none => return (environment, a :: rest)

/-- Takes entries out of an environment. -/
def unset (environment : List (String × String)) : List String → Step (List (String × String))
  | [] => return environment
  | name :: rest => do
    note ("unset:    " ++ name)
    if name = "" ∨ name.toList.contains '=' then
      throw { text := "cannot unset " ++ Tool.quoted name ++ ": " ++ Fault.invalidArgument.text }
    else unset (environment.filter (·.1 != name)) rest

def request (environment : List (String × String)) (arguments : List String) : Step Request := do
  let (given, operands) ← readOptions environment (arguments.length + 100) arguments
  let has := hasOption given
  let (alone, operands) := match operands with
    | "-" :: rest => (true, rest)
    | operands => (has "i", operands)
  if alone then note "cleaning environ"
  let names := given.filterMap fun o => if o.1 = "u" then o.2 else none
  let kept ← if alone then pure [] else unset environment names
  let (changed, operands) ← assignments kept operands
  let directory := (given.filterMap fun o => if o.1 = "C" then o.2 else none).getLast?
  match operands with
  | [] =>
    if directory.isSome then
      throw { text := "must specify command with --chdir (-C)", offersHelp := true }
    else return .print changed (if has "0" then "\x00" else "\n")
  | program :: arguments =>
    if has "0" then
      throw { text := "cannot specify --null (-0) with command", offersHelp := true }
    else
      match directory with
      | some path => note ("chdir:    " ++ Tool.quoted path)
      | none => pure ()
      return .run changed directory program arguments (has "v")

end BuildTool.EnvironmentTool
