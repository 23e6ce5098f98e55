import BuildTool.Calendar.Basic
import BuildTool.Error

/-!
# The log

Log lines go to standard output, warnings and errors to standard error. A very verbose log
begins each line with the time of day, and on a terminal the lines have the colour of their
level.
-/

/-!
## Where output goes

Messages and the output of commands go to a sink: one that keeps the text, standard output, or
one that is full and refuses every text that is not empty.
-/

namespace BuildTool

inductive SinkKind
  | kept
  | standard
  | full
  deriving DecidableEq, Repr

/-- What has been printed so far: the text kept by a sink, and what went to standard output
and standard error. -/
structure Printed where
  kept : String := ""
  standard : String := ""
  errors : String := ""
  deriving DecidableEq, Repr

namespace Printed

def write (p : Printed) (sink : SinkKind) (text : String) : Except Fault Printed :=
  match sink with
  | .kept => .ok { p with kept := p.kept ++ text }
  | .standard => .ok { p with standard := p.standard ++ text }
  | .full => if text = "" then .ok p else .error .noSpace

def line (p : Printed) (sink : SinkKind) (text : String) : Except Fault Printed :=
  p.write sink (text ++ "\n")

/-- Writes a line, as a step of a build. -/
def emit (p : Printed) (sink : SinkKind) (text : String) : Except BuildError Printed :=
  match p.line sink text with
  | .ok p => .ok p
  | .error fault => .error (.file "<output>" fault)

end Printed

end BuildTool

/-! ## Log lines -/

namespace BuildTool

inductive LogLevel
  | debug
  | info
  | warning
  | error
  deriving DecidableEq, Repr

namespace LogLevel

/-- The code that turns on a level's colour. -/
def color : LogLevel → String
  | .debug => "\x1b[90m"
  | .info => "\x1b[37m"
  | .warning => "\x1b[33m"
  | .error => "\x1b[31m"

/-- The level goes to standard error. -/
def isGrave : LogLevel → Bool
  | .debug | .info => false
  | .warning | .error => true

end LogLevel

structure Logger where
  colors : Bool := false
  verbose : Bool := false
  timestamps : Bool := false
  deriving DecidableEq, Repr

namespace Logger

def padded (width n : Nat) : String :=
  let digits := toString n
  String.ofList (List.replicate (width - digits.length) '0') ++ digits

def timeOfDay (time : Time) : String :=
  let millis := (time / 1000000 % 86400000).toNat
  padded 2 (millis / 3600000) ++ ":" ++ padded 2 (millis / 60000 % 60) ++ ":" ++
    padded 2 (millis / 1000 % 60) ++ "." ++ padded 3 (millis % 1000)

def withVerbosity (l : Logger) (verbose veryVerbose : Bool) : Logger :=
  { l with verbose := verbose || veryVerbose, timestamps := veryVerbose }

def withColors (l : Logger) (enabled : Bool) : Logger :=
  { l with colors := l.colors && enabled }

def format (l : Logger) (now : Time) (level : LogLevel) (message : String) : String :=
  let message := if l.timestamps then "[" ++ timeOfDay now ++ "] " ++ message else message
  if l.colors then level.color ++ message ++ "\x1b[0m" else message

def log (l : Logger) (now : Time) (level : LogLevel) (message : String) (p : Printed) :
    Printed :=
  let line := l.format now level message ++ "\n"
  if level.isGrave then { p with errors := p.errors ++ line }
  else { p with standard := p.standard ++ line }

def note (l : Logger) (now : Time) (message : String) (p : Printed) : Printed :=
  if l.verbose then l.log now .debug ("bygg: " ++ message) p else p

end Logger

end BuildTool
