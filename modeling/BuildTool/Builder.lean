import BuildTool.Requirement
import BuildTool.Script
import BuildTool.Session
import BuildTool.Template.Preprocess

/-!
# Builders

A builder holds one script: it loads the script's file and then brings targets up to date.
Loading goes in this order: the file is read, the version it requires is checked, the template
is filled in, and the script is carried out.

    Builder.load     the targets, variables and environment of the script
    Builder.build    a target of the script, brought up to date
    runNested        a build that a command of another build asks for
-/

namespace BuildTool

/-- A script and what is known of it. -/
structure Builder where
  config : BuildConfig
  session : Session
  graph : Graph := {}
  vars : Variables := {}
  deriving Repr

namespace Builder

def ofConfig (config : BuildConfig) (settings : Settings) (w : Workspace) : Builder :=
  let session := Session.ofConfig config settings w
  { config, session, vars := Variables.withBuiltins session.toolVersion }

def withSink (b : Builder) (sink : SinkKind) : Builder :=
  { b with session := { b.session with sink } }

/-- The builder with another log; it begins with no targets again. -/
def withLogger (b : Builder) (logger : Logger) : Builder :=
  { b with session := { b.session with logger }, graph := {} }

/-- The builder that tells scripts of another version of this tool. -/
def withToolVersion (b : Builder) (toolVersion : String) : Builder :=
  { b with session := { b.session with toolVersion } }

/-- What loading leaves: an error or none, the builder and the workspace. -/
abbrev Loaded := Except BuildError Unit × Builder × Workspace

def readScript (b : Builder) (w : Workspace) : Except BuildError String :=
  let path := b.config.buildFilePath
  if Disk.hasZero path then .error (.io path .zeroInName)
  else
    match w.disk.readFile path with
    | .error .notFound => .error (.missingBuildFile path)
    | .error fault => .error (.file path fault)
    | .ok content =>
      match String.fromUTF8? content with
      | some text => .ok text
      | none => .error (.io path .notText)

/-- Carries out a script that is filled in. -/
def runScript (b : Builder) (script : String) (w : Workspace) : Loaded :=
  let say (text : String) (printed : Printed) : Except BuildError Printed :=
    printed.emit b.session.sink text
  let plan : Plan := { graph := b.graph, vars := b.vars, env := b.session.env }
  let (error, plan, printed) := Script.run say script (plan, w.printed)
  let b := { b with
    graph := plan.graph, vars := plan.vars, session := { b.session with env := plan.env } }
  let w := { w with printed }
  match error with
  | some e => (.error e, b, w)
  | none =>
    (.ok (), b, w.note b.session.logger
      ("loaded " ++ toString b.graph.size ++ " targets from " ++ b.config.buildFilePath))

/-- Fills in the text of a script and carries it out, from no targets and the variables that
every script starts with. -/
def loadText (b : Builder) (source : String) (w : Workspace) : Loaded :=
  let b := { b with graph := {}, vars := Variables.withBuiltins b.session.toolVersion }
  let surroundings : Template.Surroundings :=
    { vars := b.vars, env := b.session.env, baseDir := b.session.baseDir,
      processEnvironment := w.environment }
  let (script, env, disk) := Template.preprocess source surroundings w.disk
  let b := { b with session := { b.session with env } }
  let w := w.withDisk disk
  match script with
  | .error e => (.error e, b, w)
  | .ok script =>
    let w :=
      if b.config.veryVerbose then
        w.note b.session.logger
          ("expanded " ++ b.config.buildFilePath ++ ":\n" ++ script)
      else w
    b.runScript script w

def load (b : Builder) (w : Workspace) : Loaded :=
  match b.readScript w with
  | .error e => (.error e, b, w)
  | .ok source =>
    match Requirement.check source b.session.toolVersion with
    | .error e => (.error (.versionIncompatible e), b, w)
    | .ok _ => b.loadText source w

/-- Brings a target up to date, in any spelling of its name; `nested` runs other builds. -/
def buildWith (nested : Session → List String → Workspace → Performed) (b : Builder)
    (target : String) (w : Workspace) : Loaded :=
  let (result, graph, w) := b.graph.resolve (b.session.site nested) (Path.clean target) w
  (result, { b with graph }, w)

end Builder

def BuildConfig.inside (config : BuildConfig) (baseDir : String) : BuildConfig :=
  { config with baseDir := Path.join baseDir config.baseDir }

/-- Builds may run each other to this depth. The tool itself has no such bound: a build that runs
itself goes on until the memory is used up, and here it ends with an error of its command. -/
def nestingLimit : Nat := 64

/-- Runs a build that a command asks for, at most `depth` builds deep, which `nestingLimit` says of
all builds. It shares the sink, the settings and the version with the build it is a part of. -/
def runNested : Nat → Session → List String → Workspace → Performed
  | 0, _, _, w => (.error (.command .nestedTooDeep), w)
  | depth + 1, s, arguments, w =>
    match Arguments.parse arguments with
    | .error cause => (.error (.command (.badArguments arguments cause)), w)
    | .ok given =>
      let config := given.config.inside s.baseDir
      let b := ((Builder.ofConfig config s.settings w).withSink s.sink).withToolVersion
        s.toolVersion
      match b.load w with
      | (.error e, _, w) => (.error e, w)
      | (.ok (), b, w) =>
        let (result, _, w) := b.buildWith (runNested depth) config.target w
        (result, w)

namespace Builder

def build (b : Builder) (target : String) (w : Workspace) : Loaded :=
  b.buildWith (runNested nestingLimit) target w

/-- The latest modification time among a target and all it depends on. -/
def lastUpdated (b : Builder) (target : String) (w : Workspace) :
    Except BuildError (Option Time) :=
  b.graph.lastUpdated (fun name => w.disk.modifiedTime? (Path.join b.session.baseDir name))
    target

end Builder

def Session.run (s : Session) (target command : String) (w : Workspace) : Performed :=
  s.runCommand (runNested nestingLimit) target command w

end BuildTool
