import BuildTool.Archive.Entry
import BuildTool.Arguments
import BuildTool.Process.Outcome
import BuildTool.Requirement
import BuildTool.Template.Error

/-!
# Build errors

Everything that can end a build, as causes; `BuildError.message` holds the wording.
-/

namespace BuildTool

/-!
## Failures of commands

Why a command of a target fails that was understood but could not be carried out.
-/

inductive CommandError
  | notSpawned (program : String) (problem : StartProblem)
  | notRun (program : String) (problem : StartProblem)
  | failed (program : String) (reason : String)
  | isDirectory (path : String)
  | notDirectory (path : String)
  | sourceIsDirectory (source : String)
  | nothingToCopy
  | badChecksum (checksum : String)
  | unsupportedEntry (kind : EntryKind)
  | entryEscapes (name directory : String)
  | badArguments (arguments : List String) (cause : ArgumentError)
  | nestedTooDeep
  | reported (message : String)
  deriving DecidableEq, Repr

namespace CommandError

/-- The wording of each failure. -/
def message : CommandError → String
  | .notSpawned program problem =>
    "failed to spawn " ++ Text.quoted program ++ ": " ++ problem.message
  | .notRun program problem =>
    "failed to run " ++ Text.quoted program ++ ": " ++ problem.message
  | .failed program reason => Text.quoted program ++ " failed: " ++ reason
  | .isDirectory path =>
    Text.quoted path ++ " is a directory and \"-r\" was not specified"
  | .notDirectory path => "will not overwrite non-directory " ++ Text.quoted path
  | .sourceIsDirectory source =>
    "copy source " ++ Text.quoted source ++ " must be a file"
  | .nothingToCopy => "nothing to copy"
  | .badChecksum checksum =>
    "checksum " ++ Text.quoted checksum ++ " must start with \"md5:\" or \"sha256:\""
  | .unsupportedEntry kind => "unsupported archive entry type " ++ kind.name
  | .entryEscapes name directory =>
    "archive entry " ++ Text.quoted name ++ " escapes " ++ directory
  | .badArguments arguments cause =>
    "invalid bygg arguments " ++ Text.quotedList arguments ++ ": " ++ cause.message
  | .nestedTooDeep => "builds are nested too deeply"
  | .reported message => message

end CommandError

/-! ## Failures of builds -/

inductive ParseFault
  | openQuote (text : String)
  | badStatement (line : String)
  deriving DecidableEq, Repr

namespace ParseFault

def message : ParseFault → String
  | .openQuote text => "unterminated string in " ++ Text.quoted text
  | .badStatement line => "invalid statement " ++ Text.quoted line

end ParseFault

/-- What goes wrong between the tool and a server. -/
inductive NetworkFault
  | badRequest (url : Option String)
  | unreachable (url : String)
  | status (url : String) (code : Nat) (reason : Option String)
  deriving DecidableEq, Repr

namespace NetworkFault

def message : NetworkFault → String
  | .badRequest none => "builder error"
  | .badRequest (some url) => "builder error for url (" ++ url ++ ")"
  | .unreachable url => "error sending request for url (" ++ url ++ ")"
  | .status url code reason =>
    "GET " ++ url ++ " returned " ++ toString code ++ " " ++
      reason.getD "<unknown status code>"

end NetworkFault

/-- Why a build ends without success. A fault in a script's text carries the number of its
line once that is known. -/
inductive BuildError
  | parse (line : Option Nat) (fault : ParseFault)
  | unknownContext (context : String)
  | cyclicDependency (target : String)
  | unknownDependency (target dependency : String)
  | unknownTarget (target : String)
  | missingBuildFile (path : String)
  | versionIncompatible (cause : RequirementError)
  | commandFailure (cause : CommandError)
  | badTemplate
  | template (cause : RenderError)
  | network (fault : NetworkFault)
  | checksumMismatch (url : String)
  | unsupportedArchive (url : String)
  | io (path : String) (problem : FileProblem)
  deriving DecidableEq, Repr

namespace BuildError

def message : BuildError → String
  | .parse none fault => "parse error: " ++ fault.message
  | .parse (some line) fault =>
    "parse error: line " ++ toString line ++ ": " ++ fault.message
  | .unknownContext context => "unknown variable context " ++ Text.quoted context
  | .cyclicDependency target => "cyclic dependency resolving " ++ Text.quoted target
  | .unknownDependency target dependency =>
    "target " ++ Text.quoted target ++ " has unknown dependency " ++ Text.quoted dependency
  | .unknownTarget target => "no such target " ++ Text.quoted target
  | .missingBuildFile path => "bygg file " ++ Text.quoted path ++ " not found"
  | .versionIncompatible cause => "incompatible version: " ++ cause.message
  | .commandFailure cause => cause.message
  | .badTemplate => "failed to expand template: Failed to parse template"
  | .template cause => "failed to expand template: " ++ cause.message
  | .network fault => "download failed: " ++ fault.message
  | .checksumMismatch url => "checksum verification failed for " ++ Text.quoted url
  | .unsupportedArchive url => "unsupported file: " ++ url
  | .io path problem => path ++ ": " ++ problem.message

/-- The error behind an error, where it has one of its own. -/
def source? : BuildError → Option String
  | .io _ problem => some problem.message
  | _ => none

def command (cause : CommandError) : BuildError := .commandFailure cause

def file (path : String) (fault : Fault) : BuildError := .io path (.fault fault)

end BuildError

end BuildTool
