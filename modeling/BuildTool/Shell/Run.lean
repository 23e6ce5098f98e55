import BuildTool.Process.DirectoryList
import BuildTool.Process.EnvironmentTool
import BuildTool.Shell.Builtin.Basic
import BuildTool.Shell.Builtin.Jobs
import BuildTool.Shell.Calling
import BuildTool.Shell.Redirecting

/-!
# Running programs and shell scripts

`runTool` runs an installed program; the shell and `env` may start others. Commands of a shell
turn its state into another one. Commands that are carried out on their own, such as the stages
of a pipeline, get a copy of the state, of which only the files and what was written remain.

Every call takes one unit of fuel; a script that goes too deep counts as ended by the system.
-/

namespace BuildTool.Shell

/-- How a command is carried out: as a condition, whose failure is no failure, or as the last
thing that a shell does. -/
structure Manner where
  tested : Bool := false
  last : Bool := false

namespace Manner

/-- Part of a condition. -/
def condition : Manner := { tested := true }

/-- Not the last thing. -/
def inner (m : Manner) : Manner := { m with last := false }

end Manner

/-- The signal that ends a program whose memory is used up. It also stands for the limits on steps
and on turns here, which no system has: a program that goes beyond one is said to have ended so. -/
def exhausted : Nat := 11

/-- What a shell does with a turn of a loop that was left. -/
inductive Turn
  | goes
  | again
  | leaves

/-- What a turn of a loop leads to: its end, or another turn after one with a status. -/
inductive TurnEnd
  | done (s : State)
  | next (status : Nat) (s : State)

/-- How often a loop can be repeated here. -/
def turnLimit : Nat := 1000000

/-- Repeats the turns of a loop. One that has too many ends its shell, as if by a signal. -/
def repeated (turn : Nat → State → TurnEnd) : Nat → Nat → State → State
  | 0, _, s => s.kill exhausted
  | left + 1, status, s =>
    match turn status s with
    | .done s => s
    | .next status s => repeated turn left status s

/-- The greatest number of functions that can be at work. This is the shell's own limit. -/
def callLimit : Nat := 1000

namespace State

/-- Nothing but the end of the shell, or what catches a fault, comes next. -/
def isRaised (s : State) : Bool :=
  match s.stop with
  | some .fault | some .exits | some .ends | some (.killed _) => true
  | _ => false

/-- The end of a command: the shell ends if nothing follows, or if the command failed where
that counts. -/
def concluded (s : State) (m : Manner) (counts : Bool) : State :=
  if s.isRaised then s
  else if m.last ∨ (counts ∧ !m.tested ∧ s.has "errexit" ∧ s.status ≠ 0) then
    { s with stop := some .ends }
  else s

/-- What becomes of a loop when part of it was carried out. -/
def turn_ (s : State) : State × Turn :=
  match s.stop with
  | none => (s, .goes)
  | some (.breaks n) => ({ s with stop := if n ≤ 1 then none else some (.breaks (n - 1)) }, .leaves)
  | some (.continues n) =>
    if n ≤ 1 then ({ s with stop := none }, .again)
    else ({ s with stop := some (.continues (n - 1)) }, .leaves)
  | _ => (s, .leaves)

/-- The state after commands that were carried out on their own, with their status. `inPlace`
tells that nothing else was to follow. -/
def joined (s child : State) (inPlace : Bool) : State :=
  let t := s.after child
  match child.finalStatus with
  | .code n => if inPlace then { t with status := n, stop := some .ends } else t.leave n
  | .signal n => if inPlace then t.kill n else (t.tell 2 (signalText n)).leave (128 + n)

def hasTraps (s : State) : Bool := s.traps.any (·.2 != "")

/-- A function at work has its own parameters, loops and variables. -/
def enterFunction (s : State) (arguments : List String) : State :=
  { s.enter with parameters := { values := arguments }, loops := 0, calls := s.calls + 1 }

def leaveFunction (s inner : State) : State :=
  let t := inner.exitScope
  { t with
    parameters := s.parameters
    loops := s.loops
    calls := s.calls
    stop := match t.stop with
      | some (.returns _) => none
      | stop => stop }

/-- Writes what a builtin command printed. Output that cannot be written is complained about,
unless the command was left otherwise. -/
def flushed (s : State) (name : String) : State :=
  let bytes : ByteArray := ⟨s.printed.reverse.toArray⟩
  let s := { s with printed := [] }
  match s.system.write s.streams 1 bytes with
  | .ok system => { s with system }
  | .error _ =>
    if s.isRaised then s
    else
      let t := { s with builtin := some name }.complain (name ++ ": I/O error")
      { t with status := s.status ||| 1 }

/-- Shows a command before it is carried out. -/
def traced (s : State) (streams : Descriptors) (start : String)
    (assignments : List (String × String)) (fields : List String) : State :=
  let texts := assignments.map (fun a => a.1 ++ "=" ++ a.2) ++ fields
  let t := { s with streams }.tell 2 (start ++ " ".intercalate texts ++ "\n")
  { t with streams := s.streams }

end State

/-- The builtin commands that do not carry out other commands. -/
def plainBuiltin? (name : String) : Option Builtin :=
  match name with
  | ":" | "true" => some fun _ s => s.leave 0
  | "false" => some fun _ s => s.leave 1
  | "echo" => some Builtin.echo
  | "printf" => some Builtin.printf
  | "pwd" => some Builtin.pwd
  | "times" => some Builtin.times
  | "test" | "[" => some Builtin.test
  | "export" => some (Builtin.marking true)
  | "readonly" => some (Builtin.marking false)
  | "unset" => some Builtin.unset
  | "local" => some Builtin.makeLocal
  | "read" => some Builtin.read
  | "alias" => some Builtin.aliases
  | "unalias" => some Builtin.unalias
  | "set" => some Builtin.set
  | "shift" => some Builtin.shift
  | "getopts" => some Builtin.getopts
  | "trap" => some Builtin.trap
  | "umask" => some Builtin.umask
  | "ulimit" => some Builtin.ulimit
  | "type" => some Builtin.type
  | "command" => some Builtin.command
  | "hash" => some Builtin.hash
  | "cd" | "chdir" => some Builtin.cd
  | "kill" => some Builtin.kill
  | "wait" => some Builtin.wait
  | "jobs" => some Builtin.jobs
  | "fg" | "bg" => some Builtin.resume
  | "break" => some (Builtin.leaveLoops .breaks)
  | "continue" => some (Builtin.leaveLoops .continues)
  | "return" => some Builtin.return_
  | "exit" => some Builtin.exit
  | _ => none

/-- The path of a file whose commands are to be carried out: a name is looked for along the
search path. -/
def commandFile? (s : State) (name : String) : Option String :=
  if name.toList.contains '/' then some name
  else
    (Program.searchDirectories s.searchPath).findSome? fun dir =>
      let path := Program.pathIn dir name
      match s.system.disk.tree.stat s.system.disk.work path with
      | .ok (_, .file ..) | .ok (_, .tool _) => some path
      | _ => none

/-- The octet text of a script file. -/
def scriptText (system : System) (path : String) : Except Fault String :=
  match system.disk.tree.stat system.disk.work path with
  | .error f => .error f
  | .ok (_, .file content ..) => .ok (Text.ofBytes content)
  | .ok _ => .ok ""

def refusedStart (i : Invocation) (text : String) (system : System) : Ended :=
  (.code 2, system.tell i.streams 2 (i.name ++ ": 0: " ++ text ++ "\n").toUTF8)

mutual

/-- Runs an installed program. -/
def runTool : Nat → Tool → Invocation → System → Ended
  | 0, _, _, system => (.signal exhausted, system)
  | fuel + 1, tool, i, system =>
    match tool with
    | .succeed => (.code 0, system)
    | .fail => (.code 1, system)
    | .echo => Tool.runEcho i system
    | .printf => Tool.runPrintf i system
    | .cat => Tool.runCat i system
    | .ls => DirectoryList.run i system
    | .printenv => Tool.runPrintenv i system
    | .env => runEnvironment fuel i system
    | .sh => runShell fuel i system

/-- Runs `env`: prints the environment, or runs a program in a changed one. -/
def runEnvironment : Nat → Invocation → System → Ended
  | 0, _, system => (.signal exhausted, system)
  | fuel + 1, i, system =>
    let (result, notes) := (EnvironmentTool.request i.environment i.arguments).run {}
    let told (lines : List String) (system : System) : System :=
      system.tell i.streams 2 (String.join (lines.map (· ++ "\n"))).toUTF8
    let system := told notes.lines system
    match result with
    | .error refusal =>
      if refusal.offersHelp then
        match refusal.hint with
        | some hint => i.refuse hint 125 (i.complain refusal.text system)
        | none => i.refuse refusal.text 125 system
      else (.code 125, i.complain refusal.text system)
    | .ok (.print environment lineEnd) =>
      i.finish (Tool.environmentLines lineEnd environment).toUTF8 0 125 system
    | .ok (.run environment directory program arguments tells) =>
      match (match directory with
        | none => Except.ok system.disk.work
        | some path =>
          match system.disk.stat path with
          | .ok (loc, .directory _) => .ok loc
          | .ok _ => .error (path, Fault.notDirectory)
          | .error f => .error (path, f)) with
      | .error (path, f) =>
        (.code 125, i.complain
          ("cannot change directory to " ++ Tool.quoted path ++ ": " ++ f.text) system)
      | .ok work =>
        let system := { system with disk := { system.disk with work } }
        let system :=
          if tells then told (EnvironmentTool.programNotes program arguments) system else system
        match Program.findOrScript system.disk (environment.lookup "PATH") program arguments with
        | .ok p =>
          runTool fuel p.tool { i with name := p.name, arguments := p.arguments, environment }
            system
        | .error f =>
          let system := i.complain (Tool.quoted program ++ ": " ++ f.text) system
          if f ≠ .notFound then (.code 126, system)
          else if program.toList.any EnvironmentTool.isGap then
            (.code 127, i.complain EnvironmentTool.shebangHint system)
          else (.code 127, system)

/-- Runs the shell on the script in its arguments, in a file or in its input. -/
def runShell : Nat → Invocation → System → Ended
  | 0, _, system => (.signal exhausted, system)
  | fuel + 1, i, system =>
    let arguments := i.arguments.map Text.octets
    let s := State.start system i.streams i.environment (Text.octets i.name)
    let (s, g) := Builtin.turnOptions true arguments.length s { rest := arguments }
    let s := s.flushed "set"
    if s.isHalted then (.code 2, s.system)
    else
      let ended (s : State) : Ended :=
        let s := finish fuel s
        (s.finalStatus, s.system)
      let fromInput (s : State) : State :=
        match s.system.readAll s.streams 0 with
        | .ok (bytes, system) =>
          evaluateLines fuel {} true { s with system } s.status
            { text := (Text.ofBytes bytes).toList }
        | .error _ => s
      match g.rest with
      | [] =>
        if g.script then refusedStart i "-c requires an argument" s.system
        else ended (fromInput (s.turn "stdin" true))
      | first :: rest =>
        if g.script then
          let s := { s with
            name := rest.head?.getD s.name
            parameters := { values := rest.tail } }
          let reads := s.has "stdin"
          let s := evaluate fuel {} first s
          ended (if reads ∧ !s.isHalted then fromInput s else s)
        else if s.has "stdin" then
          ended (fromInput { s with parameters := { values := first :: rest } })
        else
          match scriptText s.system first with
          | .error f => refusedStart i (Text.fromOctets (openText first false f)) s.system
          | .ok text =>
            ended (evaluateLines fuel {} true
              { s with name := first, parameters := { values := rest } } 0 { text := text.toList })

/-- Ends a shell: what is to be done at the end is done, and keeps the status unless it ends the
shell itself. -/
def finish : Nat → State → State
  | 0, s => s.kill exhausted
  | fuel + 1, s =>
    match s.stop, s.traps.lookup 0 with
    | some (.killed _), _ | _, none => s
    | _, some action =>
      let t := evaluate fuel {} action { s with
        stop := none
        traps := s.traps.filter (·.1 != 0)
        savedStatus := some s.status }
      if t.isRaised then t else { t with status := s.status, stop := some .ends }

/-- Carries out the actions for signals that came. -/
def takeSignals : Nat → State → State
  | 0, s => s.kill exhausted
  | fuel + 1, s =>
    if s.isHalted then s
    else
      match s.pending.mergeSort (fun a b => decide (a ≤ b)) with
      | [] => s
      | signal :: pending =>
        let s := { s with pending }
        match s.traps.lookup signal with
        | none => takeSignals fuel s
        | some action =>
          let status := s.savedStatus.getD s.status
          let t := evaluate fuel {} action { s with savedStatus := some status }
          if t.isRaised then t
          else
            let t := { t with
              savedStatus := s.savedStatus
              status := if t.stop = some (.returns true) then t.status else status }
            takeSignals fuel t

def evaluate : Nat → Manner → String → State → State
  | 0, _, _, s => s.kill exhausted
  | fuel + 1, m, script, s =>
    { evaluateLines fuel m false s s.status { text := script.toList } with reached := s.reached }

/-- Carries out the lines of a script from a cursor on; `status` is that of the last line. The
lines of files are shown if that is asked for. -/
def evaluateLines : Nat → Manner → Bool → State → Nat → Cursor → State
  | 0, _, _, s, _, _ => s.kill exhausted
  | fuel + 1, m, isFile, s, status, c =>
    let shown (left : Nat) (s : State) : State :=
      if isFile ∧ s.has "verbose" then
        s.tell 2 (String.ofList (c.text.take (c.text.length - left)))
      else s
    match { c with aliases := s.aliases, nextDocument := s.nextDocument }.nextLine with
    | .done => s.leave status
    | .fault f =>
      let s := shown 0 s
      { s with reached := f.line }.failReading f.text
    | .command command rest =>
      let s := shown rest.text.length s
      let s := { s with
        documents := rest.documents ++ s.documents
        nextDocument := rest.nextDocument
        reached := rest.line }
      let s := execute fuel m command s
      let status := match command with
        | .nothing => status
        | _ => s.status
      if s.isHalted then s
      else evaluateLines fuel m isFile s status { rest with documents := [] }

/-- Carries out commands on their own and gives what they print. -/
def capture : Nat → Runner
  | 0, _, s => (ByteArray.empty, s.kill exhausted)
  | fuel + 1, c, s =>
    match c with
    | .nothing => (ByteArray.empty, s)
    | c =>
      let (place, n, system) := s.system.addCollector
      let child := { s.child with system }.bind 1 (some place)
      let child := finish fuel (execute fuel { last := true } c child)
      let t := s.joined child false
      (child.system.collectedIn n, { t with status := s.status, captured := t.status })

def execute : Nat → Manner → Command → State → State
  | 0, _, _, s => s.kill exhausted
  | fuel + 1, m, c, s =>
    if s.isHalted then s
    else if s.has "noexec" then s.concluded m false
    else
      match c with
      | .nothing => s.concluded m false
      | c =>
        let s := takeSignals fuel s
        if s.isHalted then s
        else
          let counts := match c with
            | .simple .. | .pipeline _ | .subshell .. => true
            | _ => false
          let s := executeKind fuel m c s
          (takeSignals fuel s).concluded m counts

def executeKind : Nat → Manner → Command → State → State
  | 0, _, _, s => s.kill exhausted
  | fuel + 1, m, c, s =>
    match c with
    | .nothing => s
    | .simple line assignments words redirections =>
      executeSimple fuel m assignments words redirections { s with line }
    | .pipeline stages => executeStages fuel stages none s
    | .background body => executeApart fuel body s
    | .negate body =>
      let s := execute fuel .condition body s
      if s.isHalted then s else s.leave (if s.status = 0 then 1 else 0)
    | .both a b =>
      let s := execute fuel .condition a s
      if s.isHalted ∨ s.status ≠ 0 then s else execute fuel m b s
    | .either a b =>
      let s := execute fuel .condition a s
      if s.isHalted ∨ s.status = 0 then s else execute fuel m b s
    | .sequence a b => execute fuel m b (execute fuel m.inner a s)
    | .define name body =>
      { s with
        functions := (name, body) :: s.functions.filter (·.1 != name)
        status := 0 }
    | .branch condition yes no =>
      let s := execute fuel .condition condition s
      if s.isHalted then s
      else if s.status = 0 then execute fuel m yes s
      else
        match no with
        | .nothing => s.leave 0
        | no => execute fuel m no s
    | .loop until_ condition body =>
      let t := repeated (executeTurn fuel m.inner until_ condition body) turnLimit 0
        { s with loops := s.loops + 1 }
      { t with loops := s.loops }
    | .each line name words body =>
      let (values, s) := expandAll (capture fuel) words { s with line }
      if s.isHalted then s
      else
        let t := executeEach fuel m.inner name values body 0 { s with loops := s.loops + 1 }
        { t with loops := s.loops }
    | .select line subject arms =>
      let (text, s) := expandText (capture fuel) subject { s with line }
      if s.isHalted then s else executeArms fuel m text.toList arms s
    | .redirected line body redirections =>
      let (targets, s) := expandTargets (capture fuel) redirections { s with line }
      if s.isHalted then s
      else
        let opened := s.redirectAll (capture fuel) true targets
        if opened.isHalted then
          (opened.caught.restored targets s.streams).concluded m.inner true
        else (execute fuel m.inner body opened).restored targets s.streams
    | .subshell line body redirections =>
      let (targets, s) := expandTargets (capture fuel) redirections { s with line }
      if s.isHalted then s
      else
        let child := s.child.redirectAll (capture fuel) false targets
        let child := finish fuel (execute fuel { m with last := true } body child)
        s.joined child (m.last && !s.hasTraps)

/-- Carries out the stages of a pipeline, each on the output of the one before it. -/
def executeStages : Nat → List Command → Option ByteArray → State → State
  | 0, _, _, s => s.kill exhausted
  | _ + 1, [], _, s => s
  | fuel + 1, c :: rest, input, s =>
    let s := prepared c s
    let child := s.child
    let child := match input with
      | none => child
      | some bytes =>
        let (place, system) := child.system.add
          { channel := .given bytes, readable := true, writable := false }
        { child with system }.bind 0 (some place)
    match rest with
    | [] => s.joined (finish fuel (execute fuel { last := true } c child)) false
    | rest =>
      let (place, n, system) := child.system.addCollector
      let child := { child with system }.bind 1 (some place)
      let child := finish fuel (execute fuel { last := true } c child)
      let t := { s.joined child false with status := s.status }
      executeStages fuel rest (some (child.system.collectedIn n)) t
  where
    /-- A program that a stage names is looked for before the stages begin. -/
    prepared (c : Command) (s : State) : State :=
      match c with
      | .simple _ _ ([.literal name] :: _) _ =>
        if name.toList.contains '/' ∨ isBuiltin name ∨ s.functions.any (·.1 == name) then s
        else (s.look name).2
      | _ => s

/-- Carries out a command in the background. It has no input. The shell does not wait for it, so
that what it writes after many turns of a loop is later than what the shell does next. -/
def executeApart : Nat → Command → State → State
  | 0, _, s => s.kill exhausted
  | fuel + 1, c, s =>
    let (line, body, redirections) := match c with
      | .redirected line body redirections => (line, body, redirections)
      | c => (s.line, c, [])
    let (targets, s) := expandTargets (capture fuel) redirections { s with line }
    if s.isHalted then s
    else
      let process := s.nextProcess
      let (place, system) := s.system.add { channel := .nothing, readable := true, writable := false }
      let child := { s.child with system, nextProcess := process + 1, apart := true }.bind 0
        (some place)
      let child := child.redirectAll (capture fuel) false targets
      let child := finish fuel (execute fuel { last := true } body child)
      let t := (s.after child).atTime s.system.disk.time
      { t with
        background := some process
        busyUntil := max s.busyUntil child.system.disk.time
        jobs := (process, State.statusOf child.finalStatus) :: t.jobs
        status := 0 }

/-- One turn of a loop that carries out a body while, or until, a condition holds; `status` is
that of the last turn. -/
def executeTurn : Nat → Manner → Bool → Command → Command → Nat → State → TurnEnd
  | 0, _, _, _, _, _, s => .done (s.kill exhausted)
  | fuel + 1, m, until_, condition, body, status, s =>
    let s := execute fuel .condition condition s
    if s.isRaised then .done s
    else
      let status := if s.stop = some (.returns true) then s.status else status
      match s.turn_ with
      | (s, .leaves) => .done (s.leave status)
      | (s, .again) => .next status s
      | (s, .goes) =>
        if (s.status = 0) = until_ then .done (s.leave status)
        else
          let s := execute fuel m body s
          if s.isRaised then .done s
          else
            match s.turn_ with
            | (s, .leaves) => .done s
            | (s, _) => .next s.status s.endTurn

/-- Repeats a body for each of some values; `status` is that of the last turn. -/
def executeEach : Nat → Manner → String → List String → Command → Nat → State → State
  | 0, _, _, _, _, _, s => s.kill exhausted
  | _ + 1, _, _, [], _, status, s => s.leave status
  | fuel + 1, m, name, value :: rest, body, _, s =>
    let s := s.assign name value false
    if s.isHalted then s
    else
      let s := execute fuel m body s
      if s.isRaised then s
      else
        match s.turn_ with
        | (s, .leaves) => s
        | (s, _) => executeEach fuel m name rest body s.status s.endTurn

/-- Carries out the first arm with a pattern for the subject. -/
def executeArms : Nat → Manner → List Char → List (List Word × Command) → State → State
  | 0, _, _, _, s => s.kill exhausted
  | _ + 1, _, _, [], s => s.leave 0
  | fuel + 1, m, subject, (patterns, body) :: rest, s =>
    let (matched, s) := patterns.foldl (fun (found : Bool × State) word =>
      if found.1 ∨ found.2.isHalted then found
      else
        let (glyphs, s) := expandGlyphs (capture fuel) word found.2
        (!s.isHalted && matchesPattern (pattern glyphs) subject, s)) (false, s)
    if s.isHalted then s
    else if !matched then executeArms fuel m subject rest s
    else
      match body with
      | .nothing => s.leave 0
      | body => execute fuel m body s

/-- Carries out a simple command: its words are substituted, its redirections opened and its
assignments made, in this order, before it is called. -/
def executeSimple : Nat → Manner → List (String × Word) → List Word → List Redirection → State →
    State
  | 0, _, _, _, _, s => s.kill exhausted
  | fuel + 1, m, assignments, words, redirections, s =>
    let run := capture fuel
    let (call, fields, s) := Call.ofWords run words { s with captured := 0 }
    if s.isHalted then s
    else
      let isLocal := call.isScoped
      let s := if isLocal then s.enter else s
      let leave (s : State) : State := if isLocal then s.exitScope else s
      let (targets, s) := expandTargets run redirections s
      if s.isHalted then leave s
      else
        let before := s.streams
        let s := s.redirectAll run true targets
        if s.isHalted then
          let s := leave (s.caught.restored targets before)
          if call.isStrict ∧ !s.isHalted then { s with stop := some .fault } else s
        else
          let keeps := match call.called with
            | .builtin "exec" => true
            | _ => false
          let exports := keeps && fields.length > call.place + 1
          let (values, s) := assignments.foldl
            (fun (done : List (String × String) × State) (name, word) =>
              if done.2.isHalted then done
              else
                let (text, s) := expandValue run word done.2
                if s.isHalted then (done.1, s)
                else
                  (done.1 ++ [(name, text)],
                    if isLocal then s.makeLocal name (some text) true
                    else s.assign name text exports)) ([], s)
          let s :=
            if s.isHalted ∨ !s.has "xtrace" then s
            else
              let (start, s) := promptOf fuel s
              s.traced before start values fields
          let s :=
            if s.isHalted then s
            else executeCall fuel m call (fields.drop call.place) s
          leave (if keeps ∧ !s.isRaised then s else s.restored targets before)

/-- The text in front of the commands that are shown. -/
def promptOf : Nat → State → String × State
  | 0, s => ("", s.kill exhausted)
  | fuel + 1, s =>
    let text := (s.vars.value? "PS4").getD ""
    let c : Cursor := { text := text.toList, nextDocument := s.nextDocument }
    match (readParts (insideWith c.fuel) .document c.fuel).run c with
    | .error _ => (text, s)
    | .ok (word, _) =>
      let (shown, t) := expandText (capture fuel) word (s.turn "xtrace" false)
      (shown, { t with on := s.on })

/-- Calls what a simple command names, with its name and arguments. -/
def executeCall : Nat → Manner → Call → List String → State → State
  | 0, _, _, _, s => s.kill exhausted
  | fuel + 1, m, call, fields, s =>
    let name := fields.head?.getD ""
    let arguments := fields.tail
    match call.called with
    | .nothing => s.leave s.captured
    | .function body =>
      if callLimit ≤ s.calls then
        s.fail ("Maximum function recursion depth (" ++ toString callLimit ++ ") reached")
      else s.leaveFunction (execute fuel { tested := m.tested } body (s.enterFunction arguments))
    | .builtin name =>
      let outer := s.builtin
      let printed := s.printed
      let t := executeBuiltin fuel m name arguments { s with builtin := some name, printed := [] }
      let t := { t.flushed name with builtin := outer, printed }
      if call.isStrict then t else t.caught
    | .program =>
      if name.toList.contains '/' then
        startProgram fuel (m.last && !s.hasTraps) call.searchPath name arguments s
      else
        let (found, s) := match call.searchPath with
          | some path => (s.locate path name, s)
          | none => match s.found.lookup name with
            | some path => (.ok path, s)
            | none => s.look name
        match found with
        | .error f => (s.complain (name ++ ": " ++ startText f)).leave 127
        | .ok _ => startProgram fuel (m.last && !s.hasTraps) call.searchPath name arguments s

/-- Carries out a builtin command. -/
def executeBuiltin : Nat → Manner → String → List String → State → State
  | 0, _, _, _, s => s.kill exhausted
  | fuel + 1, m, name, arguments, s =>
    match name with
    | "eval" =>
      { evaluateLines fuel { tested := m.tested } false s 0
          { text := (" ".intercalate arguments).toList } with reached := s.reached }
    | "." =>
      s.withOptions [] arguments fun _ _ operands =>
        match operands with
        | [] => s.leave 0
        | file :: _ =>
          match commandFile? s file with
          | none => s.fail (file ++ ": not found")
          | some path =>
            match scriptText s.system path with
            | .error f => s.fail (openText path false f)
            | .ok text =>
              let t := evaluateLines fuel {} true { s with builtin := some path } 0
                { text := text.toList }
              { t with
                builtin := s.builtin
                reached := s.reached
                stop := match t.stop with
                  | some (.returns _) => none
                  | stop => stop }
    | "exec" =>
      match arguments with
      | [] => s.leave 0
      | program :: rest => startProgram fuel true none program rest s
    | name =>
      match plainBuiltin? name with
      | some act => act arguments s
      | none => s.leave 127

/-- Starts a program by its name. `inPlace` tells that it takes the place of the shell. -/
def startProgram : Nat → Bool → Option String → String → List String → State → State
  | 0, _, _, _, _, s => s.kill exhausted
  | fuel + 1, inPlace, searchPath, program, arguments, s =>
    let path := Text.fromOctets (searchPath.getD s.searchPath)
    match Program.findOrScript s.system.disk (some path) (Text.fromOctets program)
        (arguments.map Text.fromOctets) with
    | .error f =>
      let s := (s.complain (program ++ ": " ++ startText f)).leave (startStatus f)
      if inPlace then { s with stop := some .ends } else s
    | .ok p =>
      let (status, system) := runTool fuel p.tool
        { name := p.name, arguments := p.arguments, environment := s.environment
          streams := s.streams } s.system
      let s := { s with
        system := { system with disk := { system.disk with work := s.system.disk.work } } }
      match status with
      | .code n =>
        if inPlace then { s with status := n, stop := some .ends, traps := [] } else s.leave n
      | .signal n => if inPlace then s.kill n else (s.tell 2 (signalText n)).leave (128 + n)

end

/-- The depth of calls that running a script may reach here. A script that would go deeper ends with
the signal `exhausted`. -/
def stepLimit : Nat := 50000

end BuildTool.Shell
