import BuildTool.Path
import BuildTool.Text.Quoted

/-!
# Arguments of the tool

    bygg [OPTIONS] [TARGET]

Short flags may be written together, and an option takes its value from the rest of its
cluster, after an equals sign, or from the next argument, which must not look like an option.
After `--` everything is a target. Each option and the target may be given once, `-v` any
number of times.
-/

namespace BuildTool

/-- What a run of the tool is asked to do. -/
structure BuildConfig where
  file : String := "byggfil"
  baseDir : String := "."
  target : String := "all"
  dryRun : Bool := false
  verbose : Bool := false
  veryVerbose : Bool := false
  watch : Bool := false
  deriving DecidableEq, Repr

namespace BuildConfig

/-- Where the script is: the file as seen from the base directory. -/
def buildFilePath (config : BuildConfig) : String := Path.join config.baseDir config.file

end BuildConfig

inductive ValueOption
  | file
  | directory
  | settings
  deriving DecidableEq, Repr

inductive Flag
  | dryRun
  | verbose
  | watch
  | help
  | version
  deriving DecidableEq, Repr

/-- What is wrong with the arguments, or the text they ask for instead of a build. -/
inductive ArgumentError
  | unexpectedArgument (argument : String) (similar : Option String) (maybeTarget : Bool)
  | valueRequired (option : ValueOption)
  | usedTwice (display : String)
  | unexpectedValue (value display : String)
  | helpAsked
  | versionAsked
  deriving DecidableEq, Repr

namespace ValueOption

/-- The option and its value as usage texts show them. -/
def display : ValueOption → String
  | .file => "--file <FILE>"
  | .directory => "--directory <DIR>"
  | .settings => "--config <PATH>"

def ofLong? : String → Option ValueOption
  | "file" => some .file
  | "directory" => some .directory
  | "config" => some .settings
  | _ => none

def ofShort? : Char → Option ValueOption
  | 'f' => some .file
  | 'C' => some .directory
  | _ => none

end ValueOption

namespace Flag

/-- The flag as usage texts show it. -/
def display : Flag → String
  | .dryRun => "--dry-run"
  | .verbose => "-v..."
  | .watch => "--watch"
  | .help => "--help"
  | .version => "--version"

def ofLong? : String → Option Flag
  | "dry-run" => some .dryRun
  | "watch" => some .watch
  | "help" => some .help
  | "version" => some .version
  | _ => none

def ofShort? : Char → Option Flag
  | 'n' => some .dryRun
  | 'v' => some .verbose
  | 'w' => some .watch
  | 'h' => some .help
  | 'V' => some .version
  | _ => none

end Flag

namespace ArgumentError

def usage : String := "Usage: bygg [OPTIONS] [TARGET]"

def helpText : String :=
  "A make/bash replacement driven by a templated build description\n\n" ++ usage ++ "\n\n" ++
  "Arguments:\n" ++
  "  [TARGET]  Target to build [default: all]\n\n" ++
  "Options:\n" ++
  "  -f, --file <FILE>      Bygg file [default: byggfil]\n" ++
  "  -C, --directory <DIR>  Base directory [default: .]\n" ++
  "  -n, --dry-run          Performs a dry run\n" ++
  "  -v...                  Verbose output, repeat (-vv) for very verbose\n" ++
  "  -w, --watch            Rebuild whenever a dependency changes\n" ++
  "      --config <PATH>    Settings file path\n" ++
  "  -h, --help             Print help\n" ++
  "  -V, --version          Print version\n"

def explained (text hint : String) : String :=
  "error: " ++ text ++ "\n\n" ++ hint ++ "For more information, try '--help'.\n"

/-- The text shown for wrong arguments. -/
def message : ArgumentError → String
  | .unexpectedArgument argument similar maybeTarget =>
    let tip := match similar, maybeTarget with
      | some name, _ => "  tip: a similar argument exists: '" ++ name ++ "'\n\n"
      | none, true =>
        "  tip: to pass '" ++ argument ++ "' as a value, use '-- " ++ argument ++ "'\n\n"
      | none, false => ""
    explained ("unexpected argument '" ++ argument ++ "' found") (tip ++ usage ++ "\n\n")
  | .valueRequired option =>
    explained ("a value is required for '" ++ option.display ++ "' but none was supplied") ""
  | .usedTwice display =>
    explained ("the argument '" ++ display ++ "' cannot be used multiple times")
      (usage ++ "\n\n")
  | .unexpectedValue value display =>
    explained ("unexpected value '" ++ value ++ "' for '" ++ display ++
      "' found; no more were expected") (usage ++ "\n\n")
  | .helpAsked => helpText
  | .versionAsked => "bygg 0.6.0\n"

def isAnswer : ArgumentError → Bool
  | .helpAsked => true
  | .versionAsked => true
  | _ => false

end ArgumentError

/-- The arguments read so far. An option waits for its value in `pending` until the next
option or target settles it. -/
structure Arguments where
  target : Option String := none
  file : Option String := none
  directory : Option String := none
  settings : Option String := none
  dryRun : Bool := false
  watch : Bool := false
  verbosity : Nat := 0
  pending : Option (ValueOption × Option String) := none
  onlyTargets : Bool := false
  deriving DecidableEq, Repr

namespace Arguments

def value? (a : Arguments) : ValueOption → Option String
  | .file => a.file
  | .directory => a.directory
  | .settings => a.settings

/-- Records the value of an option, which must be its only one and not be empty. -/
def give (a : Arguments) (option : ValueOption) (value : String) :
    Except ArgumentError Arguments :=
  if (a.value? option).isSome then .error (.usedTwice option.display)
  else if value = "" then .error (.valueRequired option)
  else
    match option with
    | .file => .ok { a with file := some value }
    | .directory => .ok { a with directory := some value }
    | .settings => .ok { a with settings := some value }

/-- Settles the option that waits for its value. -/
def settle (a : Arguments) : Except ArgumentError Arguments :=
  match a.pending with
  | none => .ok a
  | some (option, none) => .error (.valueRequired option)
  | some (option, some value) => give { a with pending := none } option value

/-- Raises a flag; all but `-v` may be raised once. -/
def raise (a : Arguments) (flag : Flag) : Except ArgumentError Arguments := do
  let a ← a.settle
  match flag with
  | .dryRun => if a.dryRun then .error (.usedTwice flag.display) else .ok { a with dryRun := true }
  | .watch => if a.watch then .error (.usedTwice flag.display) else .ok { a with watch := true }
  | .verbose => .ok { a with verbosity := min (a.verbosity + 1) 255 }
  | .help => .error .helpAsked
  | .version => .error .versionAsked

/-- Takes an option with the value attached to it, or lets it wait for the next argument. -/
def takeOption (a : Arguments) (option : ValueOption) (attached : Option String) :
    Except ArgumentError Arguments := do
  let a ← a.settle
  match attached with
  | some value => a.give option value
  | none => .ok { a with pending := some (option, none) }

/-- The long names, for the hint on a misspelt one. -/
def longNames : List String := ["file", "directory", "dry-run", "watch", "config", "help", "version"]

/-- The number of characters that both words share at nearby places, and how many of them are
out of order. Each character of the first word takes the first free partner in the second. -/
def commonChars (window : Nat) : Nat → List Char → List (Char × Bool) →
    List Char → List Char × List (Char × Bool)
  | _, [], right, shared => (shared.reverse, right)
  | i, c :: rest, right, shared =>
    match (right.zipIdx).find? fun p =>
        p.1.1 == c && !p.1.2 && i ≤ p.2 + window && p.2 ≤ i + window with
    | some p => commonChars window (i + 1) rest (right.set p.2 (p.1.1, true)) (c :: shared)
    | none => commonChars window (i + 1) rest right shared

/-- Two words are alike: the Jaro measure, the mean of the shares of common characters and of
those in order, exceeds seven tenths. Gives the measure as a fraction. -/
def likeness (a b : List Char) : Nat × Nat :=
  let window := max a.length b.length / 2 - 1
  let (left, marks) := commonChars window 0 a (b.map fun c => (c, false)) []
  let right := (marks.filter (·.2)).map (·.1)
  let m := left.length
  let moved := ((left.zip right).filter fun p => p.1 != p.2).length / 2
  if m = 0 then (0, 1)
  else (m * m * b.length + m * m * a.length + (m - moved) * a.length * b.length,
    3 * m * a.length * b.length)

/-- The option most like a misspelt long name. -/
def similarOption? (name : String) : Option String :=
  let scored := (longNames.map fun n => (likeness name.toList n.toList, n)).filter
    fun p => 10 * p.1.1 > 7 * p.1.2
  let best := scored.foldl (fun (best : Option ((Nat × Nat) × String)) p =>
    match best with
    | none => some p
    | some b => if b.1.1 * p.1.2 ≤ p.1.1 * b.1.2 then some p else some b) none
  best.map fun p => "--" ++ p.2

def readLong (a : Arguments) (text : String) : Except ArgumentError Arguments :=
  let (name, attached) := match Text.cut? '=' text with
    | some (name, value) => (name, some value)
    | none => (text, none)
  match ValueOption.ofLong? name, Flag.ofLong? name, attached with
  | some option, _, attached => a.takeOption option attached
  | none, some flag, none => a.raise flag
  | none, some flag, some value => .error (.unexpectedValue value flag.display)
  | none, none, _ => .error (.unexpectedArgument ("--" ++ name) (similarOption? name) true)

/-- Reads a cluster of letters; an option that takes a value takes the rest of it. -/
def readShort (a : Arguments) : List Char → Except ArgumentError Arguments
  | [] => .ok a
  | c :: rest =>
    match Flag.ofShort? c with
    | some flag => do readShort (← a.raise flag) rest
    | none =>
      match ValueOption.ofShort? c with
      | some option =>
        a.takeOption option <|
          match rest with
          | [] => none
          | '=' :: value => some (String.ofList value)
          | value => some (String.ofList value)
      | none => .error (.unexpectedArgument (String.ofList ['-', c]) none true)

def takeTarget (a : Arguments) (target : String) : Except ArgumentError Arguments :=
  if a.target.isSome then .error (.unexpectedArgument target none false)
  else do
    let a ← a.settle
    .ok { a with target := some target }

/-- Takes an argument that is no option: the value that is waited for, or the target. -/
def takePlain (a : Arguments) (argument : String) : Except ArgumentError Arguments :=
  match a.pending with
  | some (option, none) => .ok { a with pending := some (option, some argument) }
  | _ => a.takeTarget argument

def next (a : Arguments) (argument : String) : Except ArgumentError Arguments :=
  if a.onlyTargets then a.takeTarget argument
  else
    match argument.toList with
    | ['-', '-'] => .ok { a with onlyTargets := true }
    | '-' :: '-' :: name => a.readLong (String.ofList name)
    | ['-'] => a.takePlain argument
    | '-' :: letters => a.readShort letters
    | _ => a.takePlain argument

def parse (arguments : List String) : Except ArgumentError Arguments := do
  let a ← arguments.foldlM next {}
  a.settle

/-- What the arguments ask for, with the defaults for what they leave out. -/
def config (a : Arguments) : BuildConfig where
  file := a.file.getD "byggfil"
  baseDir := a.directory.getD "."
  target := a.target.getD "all"
  dryRun := a.dryRun
  verbose := a.verbosity > 0
  veryVerbose := a.verbosity > 1
  watch := a.watch

end Arguments

end BuildTool
