import BuildTool.Command
import BuildTool.Download
import BuildTool.Files.Verbs
import BuildTool.Graph.Resolve
import BuildTool.Process.Start
import BuildTool.Variables

/-!
# Sessions

A session is what the commands of a build see: the base directory, the environment, the sink
for their output, the settings, the log, and whether they are run at all. In a dry run every
command only has its text printed.

    Session.site      the session as a site of the walk over the targets
    Session.perform   one command of a target
-/

namespace BuildTool

/-- What the commands of a build see. -/
structure Session where
  baseDir : String := "."
  env : Environment := {}
  sink : SinkKind := .standard
  settings : Settings := {}
  logger : Logger := {}
  dryRun : Bool := false
  toolVersion : String := toolVersion
  deriving DecidableEq, Repr

/-- What something done in a workspace leaves: an error or none, and the workspace. -/
abbrev Performed := Except BuildError Unit × Workspace

namespace Session

/-- The session for a run of the tool. -/
def ofConfig (config : BuildConfig) (settings : Settings) (w : Workspace) : Session where
  baseDir := config.baseDir
  env := w.startEnvironment
  settings := settings
  logger := (w.logger.withVerbosity config.verbose config.veryVerbose).withColors
    settings.display.colors
  dryRun := config.dryRun

def onDisk (w : Workspace) (changed : Disk.Changed) : Performed :=
  (changed.1, w.withDisk changed.2)

/-- Writes a piece of a program's output. If that fails there is only a warning. -/
def forward (s : Session) (program : String) (w : Workspace) (piece : String) : Workspace :=
  match w.printed.write s.sink piece with
  | .ok printed => { w with printed }
  | .error fault =>
    w.log s.logger .warning
      ("bygg: cannot write output of " ++ Text.quoted program ++ ": " ++ fault.message)

/-- Runs a program and forwards what it prints. -/
def runProgram (s : Session) (program : String) (arguments : List String) (w : Workspace) :
    Performed :=
  let launch : Launch :=
    { program, arguments, directory := s.baseDir, environment := s.env.toPairs }
  match Program.start w.disk launch with
  | .error problem => (.error (.command (.notSpawned program problem)), w)
  | .ok outcome =>
    let w := outcome.chunks.foldl (s.forward program) (w.withDisk outcome.disk)
    match outcome.status.failure? program with
    | some failure => (.error (.command failure), w)
    | none => (.ok (), w)

/-- Carries out what a command asks for; `nested` runs another build. -/
def perform (nested : Session → List String → Workspace → Performed) (s : Session)
    (target : String) (command : Command) (w : Workspace) : Performed :=
  let pathOrTarget (path : String) : String := if path = "" then target else path
  match command with
  | .message text => w.emit s.sink text
  | .build arguments => nested s arguments w
  | .download address checksum =>
    let (outcome, w) :=
      download s.settings.http s.logger (Path.join s.baseDir target) address checksum w
    (outcome.map fun _ => (), w)
  | .clean path recursive =>
    onDisk w (w.disk.clean s.baseDir (pathOrTarget path) recursive)
  | .makeDirectory path => onDisk w (w.disk.makeDirectory s.baseDir (pathOrTarget path))
  | .copy none => (.error (.command .nothingToCopy), w)
  | .copy (some source) => onDisk w (w.disk.copy s.baseDir source target)
  | .program name arguments => s.runProgram name arguments w

def runCommand (nested : Session → List String → Workspace → Performed) (s : Session)
    (target command : String) (w : Workspace) : Performed :=
  if s.dryRun then w.emit s.sink ("Not running command " ++ Text.quoted command)
  else
    match splitWords? command with
    | none => (.error (.parse none (.openQuote command)), w)
    | some [] => (.ok (), w)
    | some (first :: arguments) =>
      let w := w.note s.logger
        ("Running command " ++ Text.quoted first ++ " with args " ++ Text.quotedList arguments)
      s.perform nested target (Command.ofWords first arguments) w

/-- A session as the site of a walk over targets. -/
def site (nested : Session → List String → Workspace → Performed) (s : Session) :
    Site Workspace where
  pathExists w name := w.disk.pathExists (Path.join s.baseDir name)
  modified w name := w.disk.modifiedTime? (Path.join s.baseDir name)
  clock w := (w.disk.now, w)
  note text w := w.note s.logger text
  run target command w := s.runCommand nested target command w

end Session

end BuildTool
