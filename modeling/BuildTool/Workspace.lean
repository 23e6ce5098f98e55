import BuildTool.Files.Disk
import BuildTool.Http.Server
import BuildTool.Log
import BuildTool.Variables

/-!
# The workspace

What builds work in and share: the disk, the server that can be reached, what has been printed,
and the environment that the tool itself was started with.
-/

namespace BuildTool

/-- What builds work in. -/
structure Workspace where
  disk : Disk
  server : Http.Server := {}
  printed : Printed := {}
  environment : List (String × String) := []
  isTerminal : Bool := false

namespace Workspace

def withDisk (w : Workspace) (disk : Disk) : Workspace := { w with disk }

def log (w : Workspace) (logger : Logger) (level : LogLevel) (message : String) : Workspace :=
  { w with printed := logger.log w.disk.now level message w.printed }

def note (w : Workspace) (logger : Logger) (message : String) : Workspace :=
  { w with printed := logger.note w.disk.now message w.printed }

/-- Prints a line of a build. -/
def emit (w : Workspace) (sink : SinkKind) (text : String) :
    Except BuildError Unit × Workspace :=
  match w.printed.emit sink text with
  | .ok printed => (.ok (), { w with printed })
  | .error e => (.error e, w)

/-- The environment that a build begins with. -/
def startEnvironment (w : Workspace) : Environment :=
  w.environment.foldl (fun env p => env.set p.1 p.2) {}

/-- A logger for this workspace, with colours if its terminal shows them. -/
def logger (w : Workspace) : Logger := { colors := w.isTerminal }

end Workspace

end BuildTool
