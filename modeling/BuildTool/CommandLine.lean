import BuildTool.Settings
import BuildTool.Watch

/-!
# The command line

A run of the tool reads its arguments and settings, loads the script and builds or watches the
target. It ends with code 0, with 1 after a failure, and with 2 if the arguments make no sense.
A failure is written with what it was part of and with what lies behind it.

    Error: Failed to build all

    Caused by:
        no such target "all"
-/

namespace BuildTool.CommandLine

/-- Why a run fails: what it was part of, from the outside to the innermost cause. -/
structure Failure where
  outermost : String
  causes : List String := []
  deriving DecidableEq, Repr

namespace Failure

/-- A cause behind its number, with the lines after the first in the same column. -/
def numbered (n : Nat) (cause : String) : String :=
  let digits := toString n
  let number := String.ofList (List.replicate (5 - digits.length) ' ') ++ digits ++ ": "
  let lines := (Text.splitChar '\n' cause.toList).map String.ofList
  number ++ "\n       ".intercalate lines

/-- A single cause, indented. -/
def indented (cause : String) : String :=
  "    " ++ "\n    ".intercalate ((Text.splitChar '\n' cause.toList).map String.ofList)

def text (f : Failure) : String :=
  let causes := match f.causes with
    | [] => ""
    | [cause] => "\n\nCaused by:\n" ++ indented cause
    | several =>
      "\n\nCaused by:\n" ++
        "\n".intercalate (several.zipIdx.map fun p => numbered p.2 p.1)
  "Error: " ++ f.outermost ++ causes ++ "\n"

def chain (e : BuildError) : List String := e.message :: e.source?.toList

def within (context : String) (e : BuildError) : Failure := ⟨context, chain e⟩

def ofError (e : BuildError) : Failure := ⟨e.message, e.source?.toList⟩

def ofSettings (e : SettingsError) : Failure :=
  match e with
  | .unreadable _ problem => ⟨e.message, [problem.message]⟩
  | .malformed _ => ⟨e.message, ["TOML parse error"]⟩

end Failure

/-- Builds or watches the target of a script that is loaded. -/
def finish (config : BuildConfig) (b : Builder) (w : Workspace) :
    Except Failure Unit × Workspace :=
  if config.watch then
    let report : Watch.Reporter := fun _ e w =>
      (false, w.log b.session.logger .error ("bygg: " ++ e.message))
    let watched := Watch.run b.session.logger report config.target [] b w
    match watched.finish with
    | .failed e => (.error (.ofError e), watched.workspace)
    | _ => (.ok (), watched.workspace)
  else
    match b.build config.target w with
    | (.ok (), _, w) => (.ok (), w)
    | (.error e, _, w) => (.error (.within ("Failed to build " ++ config.target) e), w)

/-- Loads the settings and the script, and builds or watches the target. -/
def perform (arguments : Arguments) (w : Workspace) : Except Failure Unit × Workspace :=
  match Settings.load w.disk (Settings.homeIn w.environment) arguments.settings with
  | .error e => (.error (.ofSettings e), w)
  | .ok settings =>
    let config := arguments.config
    match (Builder.ofConfig config settings w).load w with
    | (.error e, _, w) =>
      (.error (.within ("Failed to load " ++ config.buildFilePath) e), w)
    | (.ok (), b, w) => finish config b w

def complain (w : Workspace) (text : String) : Workspace :=
  { w with printed := { w.printed with errors := w.printed.errors ++ text } }

/-- A run of the tool: its exit code, and the workspace after it. -/
def run (arguments : List String) (w : Workspace) : Nat × Workspace :=
  match Arguments.parse arguments with
  | .error e =>
    if e.isAnswer then
      (0, { w with printed := { w.printed with standard := w.printed.standard ++ e.message } })
    else (2, complain w e.message)
  | .ok given =>
    match perform given w with
    | (.ok (), w) => (0, w)
    | (.error failure, w) => (1, complain w failure.text)

end BuildTool.CommandLine
