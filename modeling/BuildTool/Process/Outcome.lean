import BuildTool.Files.Walk
import BuildTool.Process.System
import BuildTool.Text.Quoted

/-!
# Runs of programs

What a program gets when it starts and what is left when it ends. Output is kept as bytes, for
each of the two streams on its own.
-/

/-!
## How a program ends

A program that was started ends with an exit code or by a signal; one that could not be
started leaves the reason why.
-/

namespace BuildTool

inductive ExitStatus
  | code (n : Nat)
  | signal (n : Nat)
  deriving DecidableEq, Repr

namespace ExitStatus

/-- Only exit code zero is success. -/
def success : ExitStatus → Bool
  | .code 0 => true
  | _ => false

def signalName : Nat → String
  | 1 => "SIGHUP"
  | 2 => "SIGINT"
  | 3 => "SIGQUIT"
  | 6 => "SIGABRT"
  | 9 => "SIGKILL"
  | 11 => "SIGSEGV"
  | 13 => "SIGPIPE"
  | 15 => "SIGTERM"
  | _ => "unknown signal"

/-- What to say of an end that was no success. -/
def failureReason? : ExitStatus → Option String
  | .code 0 => none
  | .code n => some ("exit code " ++ toString n)
  | .signal n => some ("terminated by signal " ++ toString n ++ " (" ++ signalName n ++ ")")

end ExitStatus

inductive StartProblem
  | fault (fault : Fault)
  | zeroByte
  deriving DecidableEq, Repr

namespace StartProblem

def message : StartProblem → String
  | .fault f => f.message
  | .zeroByte => "nul byte found in provided data"

end StartProblem

end BuildTool

/-! ## What a program gets and leaves -/

namespace BuildTool

/-- What a program gets to work with: the name it was called by, its arguments, the environment
and its open files. -/
structure Invocation where
  name : String
  arguments : List String := []
  environment : List (String × String) := []
  streams : Descriptors := []

/-- How a program ended, and the system it left. -/
abbrev Ended := ExitStatus × System

namespace Invocation

def complain (i : Invocation) (text : String) (s : System) : System :=
  s.tell i.streams 2 (i.name ++ ": " ++ text ++ "\n").toUTF8

/-- Ends with a complaint about how the program was called. -/
def refuse (i : Invocation) (text : String) (code : Nat) (s : System) : Ended :=
  (.code code, s.tell i.streams 2
    (i.name ++ ": " ++ text ++ "\nTry '" ++ i.name ++ " --help' for more information.\n").toUTF8)

/-- Ends with output; `failed` is the code for output that cannot be written. -/
def finish (i : Invocation) (out : ByteArray) (code failed : Nat) (s : System) : Ended :=
  match s.write i.streams 1 out with
  | .ok s => (.code code, s)
  | .error f => (.code failed, i.complain ("write error: " ++ f.text) s)

end Invocation

/-- What a program leaves behind. -/
structure Outcome where
  out : ByteArray := ByteArray.empty
  err : ByteArray := ByteArray.empty
  status : ExitStatus := .code 0
  disk : Disk

end BuildTool
