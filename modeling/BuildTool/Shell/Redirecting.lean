import BuildTool.Shell.Expansion

/-!
# Redirections

The words of redirections are substituted first, all of them; then the files are opened one
after the other. A file that cannot be opened is a fault.
-/

namespace BuildTool.Shell

/-- A redirection whose word has been substituted. A copy without a source closes the stream. -/
inductive Target
  | file (stream : Nat) (mode : FileMode) (path : String)
  | copy (stream : Nat) (source : Option Nat)
  | document (stream number : Nat)

def Target.stream : Target → Nat
  | .file stream _ _ | .copy stream _ | .document stream _ => stream

/-- Substitutes in the words of redirections. -/
def expandTargets (run : Runner) : List Redirection → State → List Target × State
  | [], s => ([], s)
  | r :: rest, s =>
    let (target, s) : Option Target × State :=
      match r with
      | .file stream mode path =>
        let (text, s) := expandText run path s
        (some (.file stream mode text), s)
      | .copy stream source =>
        let (text, s) := expandText run source s
        match text.toList with
        | ['-'] => (some (.copy stream none), s)
        | [c] =>
          if c.isDigit then (some (.copy stream (some (c.toNat - '0'.toNat))), s)
          else (none, s)
        | _ => (none, s)
      | .document stream number => (some (.document stream number), s)
    if s.isHalted then ([], s)
    else
      match target with
      | none => ([], s.failReading "Bad fd number")
      | some target =>
        let (more, s) := expandTargets run rest s
        (target :: more, s)

/-- What is said of a file that cannot be opened. -/
def openText (path : String) (creates : Bool) (f : Fault) : String :=
  let missing := f = .notFound || f = .notDirectory
  if creates then
    "cannot create " ++ path ++ ": " ++ if missing then "Directory nonexistent" else f.text
  else "cannot open " ++ path ++ ": " ++ if missing then "No such file" else f.text

namespace State

/-- Lets a stream be an open file, or closes it. -/
def bind (s : State) (stream : Nat) (place : Option Nat) : State :=
  let others := s.streams.filter (·.1 != stream)
  { s with streams := match place with
      | some place => (stream, place) :: others
      | none => others }

/-- The open file whose path names a stream that is open already. -/
def openStream? (s : State) (path : String) : Option Nat :=
  let number := match path with
    | "/dev/stdin" => some 0
    | "/dev/stdout" => some 1
    | "/dev/stderr" => some 2
    | _ => (Text.dropStart? "/dev/fd/".toList path.toList).bind fun ds => (String.ofList ds).toNat?
  number.bind fun n => s.streams.lookup n

def openFile (s : State) (mode : FileMode) (path : String) : Except String (Nat × System) :=
  let create (emptied appends readable : Bool) : Except String (Nat × System) :=
    match s.system.openForWriting path emptied appends readable with
    | .ok opened => .ok opened
    | .error f => .error (openText path true f)
  match s.openStream? path with
  | some place => .ok (place, s.system)
  | none =>
    match mode with
    | .read =>
      match s.system.openForReading path with
      | .ok opened => .ok opened
      | .error f => .error (openText path false f)
    | .both => create false false true
    | .append => create false true false
    | .force => create true false false
    | .write =>
      if !s.has "noclobber" then create true false false
      else
        match s.system.disk.tree.stat s.system.disk.work path with
        | .ok (_, .file ..) | .ok (_, .tool _) => .error (openText path true .alreadyExists)
        | .ok (_, .directory _) => .error (openText path false .isDirectory)
        | _ => create true false false

/-- Carries out a redirection. If the streams are to come back later, a stream is closed before
it becomes the copy of another. -/
def redirect (run : Runner) (comesBack : Bool) (s : State) : Target → State
  | .file stream mode path =>
    match s.openFile mode path with
    | .ok (place, system) => { s with system }.bind stream (some place)
    | .error text => s.fail text
  | .copy stream none => s.bind stream none
  | .copy stream (some source) =>
    match s.streams.lookup source with
    | some place => s.bind stream (some place)
    | none =>
      if source = stream then s
      else
        let s := if comesBack then s.bind stream none else s
        s.fail (toString source ++ ": " ++ Fault.badDescriptor.text)
  | .document stream number =>
    let (text, s) := expandText run ((s.documents.lookup number).getD []) s
    if s.isHalted then s
    else
      let (place, system) := s.system.add
        { channel := .given (Text.toBytes text), readable := true, writable := false }
      { s with system }.bind stream (some place)

def redirectAll (run : Runner) (comesBack : Bool) (targets : List Target) (s : State) : State :=
  targets.foldl (fun s t => if s.isHalted then s else s.redirect run comesBack t) s

/-- The streams after a command, of which those that were redirected for it are again what they
were. -/
def restored (s : State) (targets : List Target) (before : Descriptors) : State :=
  targets.foldl (fun s t => s.bind t.stream (before.lookup t.stream)) s

end State

end BuildTool.Shell
