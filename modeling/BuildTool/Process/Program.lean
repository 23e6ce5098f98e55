import BuildTool.Files.Disk
import BuildTool.Process.Outcome
import BuildTool.Text.Split

/-!
# Finding programs

A program name with a slash is a path; any other name is looked for in the directories of the
search path. An executable file that begins with `#!` is run by the program named there.
-/

namespace BuildTool

/-- A program that was found: what runs, the name it is called by, and its arguments. -/
structure Program where
  tool : Tool
  name : String
  arguments : List String

namespace Program

/-- The line after `#!`: the path of the program that runs the file, and at most one argument
for it. -/
def interpreter? (content : ByteArray) : Option (String × List String) :=
  match content.toList with
  | 35 :: 33 :: rest =>
    let line := (rest.takeWhile (· != 10)).map Text.octet
    let text (octets : List Char) : String := Text.fromOctets (String.ofList octets)
    let line := Text.trimBoth (fun c => c == ' ' || c == '\t') line
    let isGap (c : Char) : Bool := c == ' ' || c == '\t'
    match line.takeWhile (!isGap ·), (line.dropWhile (!isGap ·)).dropWhile isGap with
    | [], _ => none
    | path, [] => some (text path, [])
    | path, argument => some (text path, [text argument])
  | _ => none

/-- The program that the file at a path runs, called by a name. A file may be run by a program
that is such a file itself, `depth` times. -/
def load (disk : Disk) : Nat → String → String → List String → Except Fault Program
  | 0, _, _, _ => .error .linkLoop
  | depth + 1, path, name, arguments =>
    match disk.stat path with
    | .error f => .error f
    | .ok (_, .tool tool) => .ok { tool, name, arguments }
    | .ok (_, .file content _ true) =>
      match interpreter? content with
      | some (program, options) =>
        load disk depth program program (options ++ path :: arguments)
      | none => .error .execFormat
    | .ok _ => .error .permission

/-- How many programs may stand between a file and the tool that runs it. -/
def loadDepth : Nat := 5

/-- Where programs are looked for when no search path is set. -/
def defaultSearchPath : String := "/bin:/usr/bin"

def pathIn (dir program : String) : String := if dir = "" then program else dir ++ "/" ++ program

/-- A file in no known format, taken for a script. -/
def script (path : String) (arguments : List String) : Program :=
  { tool := .sh, name := "/bin/sh", arguments := path :: arguments }

/-- Tries the directories of the search path in turn. A file that may not be executed does not
end the search, but is reported if nothing else is found; a file in no known format is taken
for a script. -/
def search (disk : Disk) (program : String) (arguments : List String) :
    List String → Bool → Except Fault Program
  | [], denied => .error (if denied then .permission else .notFound)
  | dir :: rest, denied =>
    let path := pathIn dir program
    match load disk loadDepth path program arguments with
    | .ok found => .ok found
    | .error .permission => search disk program arguments rest true
    | .error .notFound => search disk program arguments rest denied
    | .error .notDirectory => search disk program arguments rest denied
    | .error .execFormat => .ok (script path arguments)
    | .error f => .error f

def searchDirectories (searchPath : String) : List String :=
  (Text.splitChar ':' searchPath.toList).map String.ofList

/-- The program that a name stands for, with its arguments. -/
def find (disk : Disk) (searchPath : Option String) (program : String)
    (arguments : List String) : Except Fault Program :=
  if program = "" then .error .notFound
  else if program.toList.contains '/' then load disk loadDepth program program arguments
  else search disk program arguments (searchDirectories (searchPath.getD defaultSearchPath)) false

/-- The program that a name stands for, where a path to a file in no known format is taken for
a script as well. -/
def findOrScript (disk : Disk) (searchPath : Option String) (program : String)
    (arguments : List String) : Except Fault Program :=
  match find disk searchPath program arguments with
  | .error .execFormat => .ok (script program arguments)
  | found => found

end Program

end BuildTool
