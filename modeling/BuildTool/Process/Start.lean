import BuildTool.Error
import BuildTool.Shell.Run

/-!
# Starting programs

A program is started in a directory, with arguments and an environment that holds nothing but
what it is given. It runs to its end before anything else happens, so all that it prints is
there when `Program.start` returns.
-/

namespace BuildTool

/-- What is to be started, and where. -/
structure Launch where
  program : String
  arguments : List String := []
  directory : String
  environment : List (String × String) := []
  deriving Repr

namespace Launch

def texts (l : Launch) : List String :=
  l.program :: l.directory :: l.arguments ++ l.environment.flatMap fun p => [p.1, p.2]

/-- No text with a zero character can be handed over. -/
def hasZero (l : Launch) : Bool := l.texts.any fun t => t.toList.contains '\x00'

end Launch

namespace Program

/-- How long a program takes at least, in nanoseconds: the files it writes are older than what
is written after it. -/
def duration : Time := 10

/-- The system in which a program starts, with its streams: no input, and a collector for the
output and one for the complaints. -/
def initialSystem (disk : Disk) : System × Descriptors :=
  let system : System := { disk }
  let (input, system) := system.add { channel := .nothing, readable := true, writable := false }
  let (output, _, system) := system.addCollector
  let (complaints, _, system) := system.addCollector
  (system, [(0, input), (1, output), (2, complaints)])

/-- Runs a program to its end. -/
def start (disk : Disk) (l : Launch) : Except StartProblem Outcome :=
  if l.hasZero then .error .zeroByte
  else
    match disk.stat l.directory with
    | .error f => .error (.fault f)
    | .ok (loc, .directory _) =>
      let inside := { disk with work := loc }
      match find inside (l.environment.lookup "PATH") l.program l.arguments with
      | .error f => .error (.fault f)
      | .ok p =>
        let (system, streams) := initialSystem inside
        let (status, system) := Shell.runTool Shell.stepLimit p.tool
          { name := p.name, arguments := p.arguments, environment := l.environment, streams } system
        .ok {
          out := system.collectedIn 0
          err := system.collectedIn 1
          status
          disk := { system.disk with work := disk.work }.wait duration }
    | .ok _ => .error (.fault .notDirectory)

end Program

namespace Text

/-- The lines of a byte sequence with their line ends; what follows the last line end is a
line too. -/
def byteLines : List UInt8 → List (List UInt8)
  | [] => []
  | b :: rest =>
    if b = 10 then [b] :: byteLines rest
    else
      match byteLines rest with
      | [] => [[b]]
      | line :: lines => (b :: line) :: lines

end Text

namespace Outcome

/-- The texts of the lines that a program printed, standard output before standard error. -/
def chunks (o : Outcome) : List String :=
  (Text.byteLines o.out.toList ++ Text.byteLines o.err.toList).map fun line =>
    Text.lossyText ⟨line.toArray⟩

def printed (o : Outcome) : String := Text.lossyText o.out

end Outcome

/-- The failure of a program that ended without success. -/
def ExitStatus.failure? (status : ExitStatus) (program : String) : Option CommandError :=
  status.failureReason?.map (.failed program)

end BuildTool
