import BuildTool.Files.Tree
import BuildTool.Text.Split

/-!
# From a path to a location

`Tree.walk` leads along the elements of a path, through symbolic links, to the entry the path
names or to the free place where such an entry could be made. `.` stays, `..` goes to the
directory above (the root is above itself), and a path that ends in a slash must lead to a
directory. At most forty links are followed. Paths are octet texts, like the names in a tree.
-/

/-!
## Why a file operation fails

The system reports each fault with a number and a text.
-/

namespace BuildTool

/-- The faults that the operations on files and programs report. -/
inductive Fault
  | notFound
  | isBusy
  | execFormat
  | badDescriptor
  | permission
  | alreadyExists
  | notDirectory
  | isDirectory
  | invalidArgument
  | noSpace
  | nameTooLong
  | notEmpty
  | linkLoop
  deriving DecidableEq, Repr

namespace Fault

def code : Fault → Nat
  | .notFound => 2
  | .execFormat => 8
  | .badDescriptor => 9
  | .permission => 13
  | .isBusy => 16
  | .alreadyExists => 17
  | .notDirectory => 20
  | .isDirectory => 21
  | .invalidArgument => 22
  | .noSpace => 28
  | .nameTooLong => 36
  | .notEmpty => 39
  | .linkLoop => 40

def text : Fault → String
  | .notFound => "No such file or directory"
  | .execFormat => "Exec format error"
  | .badDescriptor => "Bad file descriptor"
  | .permission => "Permission denied"
  | .isBusy => "Device or resource busy"
  | .alreadyExists => "File exists"
  | .notDirectory => "Not a directory"
  | .isDirectory => "Is a directory"
  | .invalidArgument => "Invalid argument"
  | .noSpace => "No space left on device"
  | .nameTooLong => "File name too long"
  | .notEmpty => "Directory not empty"
  | .linkLoop => "Too many levels of symbolic links"

def message (fault : Fault) : String :=
  fault.text ++ " (os error " ++ toString fault.code ++ ")"

end Fault

/-- What went wrong with a file: a fault of the system, or contents or a name that cannot be
used. -/
inductive FileProblem
  | fault (fault : Fault)
  | notText
  | zeroInName
  | notRegular
  | damaged
  deriving DecidableEq, Repr

namespace FileProblem

def message : FileProblem → String
  | .fault f => f.message
  | .notText => "stream did not contain valid UTF-8"
  | .zeroInName => "file name contained an unexpected NUL byte"
  | .notRegular => "the source path is neither a regular file nor a symlink to a regular file"
  | .damaged => "damaged data"

end FileProblem

end BuildTool

/-! ## Along a path -/

namespace BuildTool

/-- Where a path leads: to an entry, or to a name that is free in an existing directory. -/
inductive Place
  | entry (loc : Location) (e : Entry)
  | free (dir : Location) (name : String)

namespace Tree

/-- The elements of a path, without the empty ones. -/
def pathElements (path : String) : List String :=
  ((Text.splitChar '/' path.toList).filter fun e => !e.isEmpty).map String.ofList

def endsInSlash (path : String) : Bool := path.toList.getLast? == some '/'

/-- Names of more than 255 bytes are refused. -/
def isTooLong (name : String) : Bool := name.length > 255

/-- Paths of 4096 bytes or more are refused. -/
def isTooLongPath (path : String) : Bool := 4096 ≤ path.length

/-- Leads from a directory along path elements; `follow` tells whether a link at the end is
followed, and `mustBeDirectory` whether only a directory will do. The way through a link is left
to `through`, which gets whether only a directory will do then, where to begin and the elements to
go along. -/
def walkThrough (t : Tree) (follow : Bool)
    (through : Bool → Location → List String → Except Fault Place) (mustBeDirectory : Bool)
    (dir : Location) : List String → Except Fault Place
  | [] =>
    match t.get? dir with
    | some e => .ok (.entry dir e)
    | none => .error .notFound
  | name :: rest =>
    if name = "." then t.walkThrough follow through mustBeDirectory dir rest
    else if name = ".." then t.walkThrough follow through mustBeDirectory dir.dropLast rest
    else if isTooLong name then .error .nameTooLong
    else
      match t.get? (dir ++ [name]) with
      | none => if rest = [] then .ok (.free dir name) else .error .notFound
      | some (.directory _) =>
        t.walkThrough follow through mustBeDirectory (dir ++ [name]) rest
      | some (.link target) =>
        if rest = [] ∧ !follow ∧ !mustBeDirectory then
          .ok (.entry (dir ++ [name]) (.link target))
        else if target = "" then .error .notFound
        else
          through (mustBeDirectory || (rest.isEmpty && endsInSlash target))
            (if target.startsWith "/" then [] else dir) (pathElements target ++ rest)
      | some e =>
        if rest = [] ∧ !mustBeDirectory then .ok (.entry (dir ++ [name]) e)
        else .error .notDirectory

/-- Leads from a directory along path elements, through so many links at most. -/
def walk (t : Tree) (follow : Bool) :
    Nat → Bool → Location → List String → Except Fault Place
  | 0 => t.walkThrough follow fun _ _ _ => .error .linkLoop
  | links + 1 => t.walkThrough follow (t.walk follow links)

/-- Where a path leads that is read from directory `work`. -/
def locate (t : Tree) (work : Location) (follow : Bool) (path : String) : Except Fault Place :=
  if path = "" then .error .notFound
  else if isTooLongPath path then .error .nameTooLong
  else
    t.walk follow 40 (endsInSlash path) (if path.startsWith "/" then [] else work)
      (pathElements path)

/-- The entry that a path names, links followed. -/
def stat (t : Tree) (work : Location) (path : String) : Except Fault (Location × Entry) :=
  match t.locate work true path with
  | .ok (.entry loc e) => .ok (loc, e)
  | .ok (.free ..) => .error .notFound
  | .error f => .error f

/-- The entry that a path names, a link at its end taken for itself. -/
def statLink (t : Tree) (work : Location) (path : String) : Except Fault (Location × Entry) :=
  match t.locate work false path with
  | .ok (.entry loc e) => .ok (loc, e)
  | .ok (.free ..) => .error .notFound
  | .error f => .error f

/-- Something exists at a path, be it a link that leads nowhere. -/
def pathExists (t : Tree) (work : Location) (path : String) : Bool :=
  match t.statLink work path with
  | .ok _ => true
  | .error _ => false

def modifiedTime? (t : Tree) (work : Location) (path : String) : Option Time :=
  match t.stat work path with
  | .ok (_, e) => some e.modified
  | .error _ => none

end Tree

end BuildTool
