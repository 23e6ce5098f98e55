import BuildTool.Number.Numeral
import BuildTool.Process.Outcome
import BuildTool.Shell.Command
import BuildTool.Shell.Signal
import BuildTool.Text.Utf8

/-!
# A running shell

The state of a shell: its variables and parameters, functions and aliases, settings and traps,
its open files, and what is to stop it. A command changes the state and leaves a status.
-/

/-!
## Shell variables

A variable has a value or is only marked: as one that programs get to see, or as one that must
not be changed. Programs get the variables in the order of the rows of a table in which each
name has its row.
-/

namespace BuildTool.Shell

structure Variable where
  value : Option String
  exported : Bool := false
  fixed : Bool := false

/-- Variables by their names, in the order in which they came up. -/
structure Variables where
  entries : List (String × Variable)

namespace Variables

def get? (vs : Variables) (name : String) : Option Variable := vs.entries.lookup name

def value? (vs : Variables) (name : String) : Option String := (vs.get? name).bind (·.value)

def put (vs : Variables) (name : String) (v : Variable) : Variables :=
  if vs.entries.any (·.1 == name) then
    ⟨vs.entries.map fun p => if p.1 == name then (name, v) else p⟩
  else ⟨vs.entries ++ [(name, v)]⟩

def erase (vs : Variables) (name : String) : Variables :=
  ⟨vs.entries.filter (·.1 != name)⟩

/-- Sets a variable to what it was, if it was. -/
def restore (vs : Variables) (name : String) : Option Variable → Variables
  | some v => vs.put name v
  | none => vs.erase name

def rowCount : Nat := 39

def row (name : String) : Nat :=
  let codes := name.toList.map Char.toNat
  codes.foldl (· + ·) (16 * codes.headD 0) % rowCount

/-- The variables that programs get to see, as octet texts. -/
def environment (vs : Variables) : List (String × String) :=
  let seen := vs.entries.filterMap fun (name, v) =>
    if v.exported then v.value.map fun value => (name, value) else none
  seen.mergeSort fun a b => row a.1 ≤ row b.1

def sorted (vs : Variables) : List (String × Variable) :=
  vs.entries.mergeSort fun a b => decide (a.1 ≤ b.1)

end Variables

/-- The pieces of a text between single quotes, and the single quotes between them between
double ones; `fuel` is the length of the text. -/
def quotedPieces : Nat → List Char → List Char
  | 0, _ => []
  | fuel + 1, text =>
    let isMark (c : Char) : Bool := c == '\x27'
    let rest := text.dropWhile (!isMark ·)
    let after := rest.dropWhile isMark
    '\x27' :: text.takeWhile (!isMark ·) ++ '\x27' ::
      if rest = [] then []
      else '"' :: rest.takeWhile isMark ++ '"' :: if after = [] then [] else quotedPieces fuel after

def singleQuotation (text : String) : String :=
  String.ofList (quotedPieces (text.length + 1) text.toList)

end BuildTool.Shell

/-! ## The state of a shell -/

namespace BuildTool.Shell

/-! ### Settings -/

structure Setting where
  name : String
  letter : Option Char
  deriving DecidableEq

/-- The settings, in the order in which they are listed. -/
def settings : List Setting :=
  [⟨"errexit", some 'e'⟩, ⟨"noglob", some 'f'⟩, ⟨"ignoreeof", some 'I'⟩,
    ⟨"interactive", some 'i'⟩, ⟨"monitor", some 'm'⟩, ⟨"noexec", some 'n'⟩,
    ⟨"stdin", some 's'⟩, ⟨"xtrace", some 'x'⟩, ⟨"verbose", some 'v'⟩, ⟨"vi", some 'V'⟩,
    ⟨"emacs", some 'E'⟩, ⟨"noclobber", some 'C'⟩, ⟨"allexport", some 'a'⟩,
    ⟨"notify", some 'b'⟩, ⟨"nounset", some 'u'⟩, ⟨"privileged", some 'p'⟩, ⟨"nolog", none⟩,
    ⟨"debug", none⟩]

/-! ### The state -/

/-- What keeps the rest of a script from being carried out: a loop or function is left (`given`
tells that with a status), a fault ends the shell unless a command catches it, or the shell
ends, by `exit` with a status or because nothing is left to do. -/
inductive Stop
  | breaks (levels : Nat)
  | continues (levels : Nat)
  | returns (given : Bool)
  | fault
  | exits
  | ends
  | killed (signal : Nat)
  deriving DecidableEq

/-- What comes back when a function or command with variables of its own is left: what variables
were, latest first, and the settings if they are to come back too. -/
structure Scope where
  vars : List (String × Option Variable) := []
  settings : Option (List String) := none

/-- The parameters of a script or function, and how far its options have been read: the number
of the next one and a place in the one before. -/
structure Parameters where
  values : List String := []
  index : Nat := 1
  offset : Option Nat := none

/-- The state of a shell. All texts are octet texts. `line` is that of the command at work, and
`reached` the one up to which the script has been read; `loops` and `calls` count the loops and
functions at work. `apart` is set for what is carried out in the background, and `busyUntil` is
the time at which the last of that ends. -/
structure State where
  system : System
  streams : Descriptors
  vars : Variables
  scopes : List Scope := []
  parameters : Parameters := {}
  name : String := "sh"
  status : Nat := 0
  on : List String := []
  functions : List (String × Command) := []
  aliases : List (String × String) := []
  traps : List (Nat × String) := []
  savedStatus : Option Nat := none
  pending : List Nat := []
  documents : List (Nat × Word) := []
  nextDocument : Nat := 0
  line : Nat := 0
  reached : Nat := 1
  builtin : Option String := none
  stop : Option Stop := none
  loops : Nat := 0
  calls : Nat := 0
  captured : Nat := 0
  directory : String := "/"
  process : Nat := 100
  nextProcess : Nat := 101
  background : Option Nat := none
  jobs : List (Nat × Nat) := []
  apart : Bool := false
  busyUntil : Time := 0
  depth : Nat := 0
  sent : List Nat := []
  mask : Nat := 18
  found : List (String × String) := []
  printed : List UInt8 := []

namespace State

/-- Nothing more of the script is carried out, at least up to the end of a loop. -/
def isHalted (s : State) : Bool := s.stop.isSome

def has (s : State) (setting : String) : Bool := s.on.contains setting

def turn (s : State) (setting : String) (on : Bool) : State :=
  let others := s.on.filter (· != setting)
  { s with on := if on then setting :: others else others }

/-- The letters of the settings that are on, the last setting first. -/
def letters (s : State) : String :=
  String.ofList ((settings.filter fun o => s.has o.name).reverse.filterMap (·.letter))

/-! #### Output -/

def tell (s : State) (stream : Nat) (text : String) : State :=
  { s with system := s.system.tell s.streams stream (Text.toBytes text) }

/-- Prints a text of a command; it is written when the command ends. -/
def say (s : State) (text : String) : State :=
  { s with printed := (Text.octetBytes text.toList).reverse ++ s.printed }

/-- Complains in the name of the shell and of the command at work. -/
def complain (s : State) (text : String) : State :=
  let command := match s.builtin with
    | some name => name ++ ": "
    | none => ""
  s.tell 2 (s.name ++ ": " ++ toString s.line ++ ": " ++ command ++ text ++ "\n")

/-- Complains about a fault, which ends the shell unless it is caught. -/
def fail (s : State) (text : String) : State :=
  { s.complain text with status := 2, stop := some .fault }

/-- Complains about a fault in the text of the script, where its reader stands. -/
def failReading (s : State) (text : String) : State :=
  { s with line := s.reached }.fail ("Syntax error: " ++ text)

def exit (s : State) (status : Nat) : State := { s with status, stop := some .exits }

def kill (s : State) (signal : Nat) : State := { s with stop := some (.killed signal) }

def leave (s : State) (status : Nat) : State := { s with status }

/-- Leaves a status if nothing stopped the script. -/
def leaveUnlessHalted (s : State) (status : Nat) : State :=
  if s.isHalted then s else s.leave status

/-- A fault that a command caught: nothing is left of it but a status. -/
def caught (s : State) : State :=
  if s.stop = some .fault then { s with stop := none, status := 2 } else s

/-- Takes a signal: it is ignored, kept for its action, or ends the shell. -/
def receive (s : State) (signal : Nat) : State :=
  match s.traps.lookup signal with
  | some action =>
    if signal = 9 then s.kill signal
    else if action = "" ∨ s.pending.contains signal then s
    else { s with pending := s.pending ++ [signal] }
  | none => if isHarmless signal then s else s.kill signal

/-! #### Variables -/

/-- Sets a variable as the shell does on its own. -/
def put (s : State) (name value : String) (exported : Bool) : State :=
  let v := (s.vars.get? name).getD { value := none }
  { s with vars := s.vars.put name { v with
      value := some value
      exported := v.exported || exported || s.has "allexport" } }

/-- What setting a variable does besides: the options of a script are read anew from a number
on, and with another search path programs are looked for again. -/
def afterSetting (s : State) (name value : String) : State :=
  if name = "OPTIND" then
    match Numeral.count? value with
    | some n => { s with parameters := { s.parameters with index := max n 1, offset := none } }
    | none => s.fail ("Illegal number: " ++ value)
  else if name = "PATH" then { s with found := [] }
  else s

def isFixed (s : State) (name : String) : Bool := (s.vars.get? name).any (·.fixed)

/-- A name ends at an equals sign. -/
def nameIn (text : String) : String := String.ofList (text.toList.takeWhile (· != '='))

/-- Sets a variable. One that must not be changed and a name that is none are faults. -/
def assign (s : State) (name value : String) (exported : Bool) : State :=
  let name := nameIn name
  if !isName name then s.fail (name ++ ": bad variable name")
  else if s.isFixed name then s.fail (name ++ ": is read only")
  else (s.put name value exported).afterSetting name value

/-- Takes a variable away. -/
def unset (s : State) (name : String) : State :=
  let name := nameIn name
  if !isName name then s.fail (name ++ ": bad variable name")
  else if s.isFixed name then s.fail (name ++ ": is read only")
  else
    let s := { s with vars := s.vars.erase name }
    if name = "PATH" then { s with found := [] } else s

/-- Marks a variable, which need not have a value. -/
def mark (s : State) (name : String) (exported fixed : Bool) : State :=
  match s.vars.get? name with
  | some v => { s with vars := s.vars.put name { v with
      exported := v.exported || exported
      fixed := v.fixed || fixed } }
  | none =>
    if !isName name then s.fail (name ++ ": bad variable name")
    else { s with vars := s.vars.put name { value := none, exported, fixed } }

def enter (s : State) : State := { s with scopes := {} :: s.scopes }

/-- Leaves the innermost scope: its variables and settings are again what they were. -/
def exitScope (s : State) : State :=
  match s.scopes with
  | scope :: outer =>
    { s with
      scopes := outer
      on := scope.settings.getD s.on
      found := if scope.vars.any (·.1 == "PATH") then [] else s.found
      vars := scope.vars.foldl (fun vs p => vs.restore p.1 p.2) s.vars }
  | [] => s

/-- Makes a variable one of the innermost scope, with a value or with the one that it has. -/
def makeLocal (s : State) (name : String) (value : Option String) (exported : Bool) : State :=
  let old := s.vars.get? name
  let set := match value, old with
    | some text, _ =>
      if s.isFixed name then s.fail (name ++ ": is read only")
      else (s.put name text exported).afterSetting name text
    | none, none => s.mark name exported false
    | none, some _ => s
  if set.isHalted then set
  else
    match set.scopes with
    | scope :: outer =>
      { set with scopes := { scope with vars := (name, old) :: scope.vars } :: outer }
    | [] => set

/-- The characters that split words: those of a variable, or blanks. -/
def separators (s : State) : List Char :=
  match s.vars.value? "IFS" with
  | some text => text.toList
  | none => [' ', '\t', '\n']

def joint (s : State) : List Char :=
  match s.vars.value? "IFS" with
  | some text => text.toList.take 1
  | none => [' ']

/-- The value of a parameter: a number, a special one or a variable. -/
def parameter? (s : State) (name : String) : Option String :=
  match name with
  | "?" => some (toString s.status)
  | "#" => some (toString s.parameters.values.length)
  | "$" => some (toString s.process)
  | "-" => some s.letters
  | "!" => s.background.map toString
  | "0" => some s.name
  | _ =>
    match name.toList with
    | c :: _ =>
      if c.isDigit then
        match name.toNat? with
        | some 0 => some s.name
        | some n => s.parameters.values[n - 1]?
        | none => none
      else s.vars.value? name
    | [] => none

def environment (s : State) : List (String × String) :=
  s.vars.environment.map fun p => (Text.fromOctets p.1, Text.fromOctets p.2)

/-! #### The end of a shell -/

def finalStatus (s : State) : ExitStatus :=
  match s.stop with
  | some (.killed signal) => .signal signal
  | _ => .code (s.status % 256)

/-- The status that an end leaves in the shell that waited for it. -/
def statusOf : ExitStatus → Nat
  | .code n => n
  | .signal n => 128 + n

/-- The shell that carries out commands on their own, apart from this one. Only signals that
are ignored stay so. -/
def child (s : State) : State :=
  { s with
    traps := s.traps.filter (·.2 == "")
    depth := s.depth + 1
    pending := []
    sent := []
    jobs := []
    stop := none
    reached := 1
    printed := [] }

/-- The shell after commands that were carried out apart from it. Signals that they sent come to
the first shell. -/
def after (s child : State) : State :=
  let s := { s with
    system := { child.system with disk := { child.system.disk with work := s.system.disk.work } }
    documents := child.documents
    nextDocument := child.nextDocument
    nextProcess := child.nextProcess }
  if s.depth = 0 then child.sent.foldl receive s else { s with sent := s.sent ++ child.sent }

/-! #### Time in the background -/

/-- How long a turn of a loop takes at least, in nanoseconds. -/
def turnDuration : Time := 10

def atTime (s : State) (time : Time) : State :=
  { s with system := { s.system with disk := { s.system.disk with time } } }

/-- A turn of a loop ends. It takes time where the loop runs beside the rest of the script. -/
def endTurn (s : State) : State :=
  if s.apart then s.atTime (s.system.disk.time + turnDuration) else s

/-- The shell when all that it has in the background has ended. -/
def caughtUp (s : State) : State := s.atTime (max s.system.disk.time s.busyUntil)

/-! #### The beginning of a shell -/

def initialVariables (process : Nat) : Variables :=
  let text (name value : String) : String × Variable := (name, { value := some value })
  ⟨[text "OPTIND" "1", text "PS4" "+ ", text "PS2" "> ",
    text "PS1" "# ",
    text "PATH" "/usr/local/sbin:/usr/local/bin:/usr/sbin:/usr/bin:/sbin:/bin",
    text "IFS" " \t\n", text "PPID" (toString (process - 1))]⟩

def pathOf (loc : Location) : String := "/" ++ "/".intercalate loc

def start (system : System) (streams : Descriptors) (environment : List (String × String))
    (name : String) : State :=
  let process := 100 + 10 * system.files.size
  let vars := environment.foldl (fun vs (name, value) =>
    if isName name ∧ ¬ ["IFS", "OPTIND", "PPID"].contains name then
      vs.put (Text.octets name) { value := some (Text.octets value), exported := true }
    else vs) (initialVariables process)
  let work := system.disk.work
  let given := (environment.lookup "PWD").filter fun path =>
    path.startsWith "/" && match system.disk.stat path with
      | .ok (loc, .directory _) => loc == work
      | _ => false
  let directory := (given.map Text.octets).getD (pathOf work)
  { system, streams, name, directory, process, nextProcess := process + 1
    vars := vars.put "PWD" { value := some directory, exported := true } }

end State

end BuildTool.Shell
