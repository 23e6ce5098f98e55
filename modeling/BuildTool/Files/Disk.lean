import BuildTool.Files.Walk
import BuildTool.Path
import BuildTool.Text.Utf8

/-!
# The disk

A tree of files together with the directory that relative paths start from and the time of the
file system's clock. New and changed entries get that time. The clock itself is read a little
later than the time that files get, as it is on a system whose file times advance in steps.
-/

/-!
## Changing the tree of files

The operations that make, overwrite and remove entries. Each gives the new tree or the fault
for which nothing was changed. The time given is the one that changed entries get.

A directory is emptied before it is removed, and links in it are removed as links: nothing is
ever removed through a link.
-/

namespace BuildTool.Tree

/-- The path without slashes at its end, unless nothing else is left. -/
def withoutEndSlashes (path : String) : String :=
  let kept := (path.toList.reverse.dropWhile (· == '/')).reverse
  if kept = [] then path else String.ofList kept

/-- Makes a directory. Its parent must exist, and nothing may stand at the path. -/
def makeDirectory (t : Tree) (work : Location) (time : Time) (path : String) :
    Except Fault Tree :=
  if isTooLongPath path then .error .nameTooLong
  else
    match t.locate work false (withoutEndSlashes path) with
    | .ok (.entry ..) => .error .alreadyExists
    | .ok (.free dir name) => .ok (t.insert time (dir ++ [name]) (.directory time))
    | .error f => .error f

/-- Leads to where a file can be written, like a walk that follows links. A slash at the end, be it
that of the path or of a link that the path ends in, asks for a directory, whatever stands there. -/
def walkToWrite (t : Tree) : Nat → Bool → Location → List String → Except Fault Place
  | links, true, dir, names =>
    match t.walk false links false dir names with
    | .ok _ => .error .isDirectory
    | .error f => .error f
  | 0, false, dir, names => t.walkThrough true (fun _ _ _ => .error .linkLoop) false dir names
  | links + 1, false, dir, names => t.walkThrough true (t.walkToWrite links) false dir names

def locateToWrite (t : Tree) (work : Location) (path : String) : Except Fault Place :=
  if path = "" then .error .notFound
  else if isTooLongPath path then .error .nameTooLong
  else
    match t.walkToWrite 40 (endsInSlash path) (if path.startsWith "/" then [] else work)
      (pathElements path) with
    | .ok (.entry _ (.directory _)) => .error .isDirectory
    | place => place

/-- Writes a file, making it if there is none. An existing file keeps whether it is
executable, a new one takes it from `executable`. -/
def writeFile (t : Tree) (work : Location) (time : Time) (path : String) (content : ByteArray)
    (executable : Bool) : Except Fault Tree :=
  match t.locateToWrite work path with
  | .ok (.entry loc (.file _ _ kept)) => .ok (t.put loc (.file content time kept))
  | .ok (.entry _ .nullDevice) => .ok t
  | .ok (.entry ..) => .error .permission
  | .ok (.free dir name) => .ok (t.insert time (dir ++ [name]) (.file content time executable))
  | .error f => .error f

def readFile (t : Tree) (work : Location) (path : String) : Except Fault ByteArray :=
  match t.stat work path with
  | .ok (_, .file content _ _) => .ok content
  | .ok (_, .directory _) => .error .isDirectory
  | .ok (_, _) => .ok ByteArray.empty
  | .error f => .error f

def makeLink (t : Tree) (work : Location) (time : Time) (target path : String) :
    Except Fault Tree :=
  match t.locate work false path with
  | .ok (.entry ..) => .error .alreadyExists
  | .ok (.free dir name) => .ok (t.insert time (dir ++ [name]) (.link target))
  | .error f => .error f

/-- Removes an entry that is not a directory. -/
def removeFile (t : Tree) (work : Location) (time : Time) (path : String) :
    Except Fault Tree :=
  match t.locate work false (withoutEndSlashes path) with
  | .ok (.entry _ (.directory _)) => .error .isDirectory
  | .ok (.entry loc _) =>
    if endsInSlash path then .error .notDirectory else .ok (t.remove time loc)
  | .ok (.free ..) => .error .notFound
  | .error f => .error f

/-- The last element of a path, for the rules on removing `.` and `..`. -/
def lastElement? (path : String) : Option String := (pathElements path).getLast?

/-- Removes a directory with everything below it. The tree that comes with a fault is the one
emptied so far: a path ending in `.`, in `..` or in a link and a slash can be emptied but not
removed. A path that led over something below the directory leads nowhere once that is gone, and
then the directory stays, empty, without a fault. -/
def removeDirectoryAll (t : Tree) (work : Location) (time : Time) (path : String) :
    Option Fault × Tree :=
  match t.stat work path with
  | .error f => (some f, t)
  | .ok (loc, .directory _) =>
    let emptied := t.removeBelow time loc
    match lastElement? path with
    | none => (some .isBusy, emptied)
    | some last =>
      match emptied.statLink work (withoutEndSlashes path) with
      | .error .notFound => (none, emptied)
      | .error f => (some f, emptied)
      | .ok (_, .directory _) =>
        if last = "." then (some .invalidArgument, emptied)
        else if last = ".." then (some .notEmpty, emptied)
        else (none, emptied.remove time loc)
      | .ok _ => (some .notDirectory, emptied)
  | .ok _ => (some .notDirectory, t)

/-- Sets the modification time of what a path leads to. -/
def setModified (t : Tree) (work : Location) (path : String) (time : Time) :
    Except Fault Tree :=
  match t.stat work path with
  | .ok (loc, _) => .ok (t.stamp loc time)
  | .error f => .error f

def leadsToDirectory (t : Tree) (work : Location) (path : String) : Bool :=
  match t.stat work path with
  | .ok (_, e) => e.isDirectory
  | .error _ => false

end BuildTool.Tree

/-!
## Trees in use

The build tool has its paths as texts. The tree takes them byte by byte.
-/

namespace BuildTool

open Text (octets)

/-- A tree of files in use. -/
structure Disk where
  tree : Tree
  work : Location := ["box", "work"]
  time : Time := 0

namespace Disk

def setUp (time : Time) : Disk := { tree := Tree.initial time, time }

def now (d : Disk) : Time := d.time + 1

def wait (d : Disk) (duration : Time) : Disk := { d with time := d.time + duration }

def pathExists (d : Disk) (path : String) : Bool := d.tree.pathExists d.work (octets path)

def modifiedTime? (d : Disk) (path : String) : Option Time :=
  d.tree.modifiedTime? d.work (octets path)

def stat (d : Disk) (path : String) : Except Fault (Location × Entry) :=
  d.tree.stat d.work (octets path)

def withTree (d : Disk) (tree : Tree) : Disk := { d with tree }

/-- Makes a directory and, where they are missing, the ones above it: first tries the path
itself and goes up only while the directory above is missing. `paths` holds the path and the
directories on the way to it, nearest first, as octet texts. -/
def makeAll (d : Disk) : List String → Option Fault × Disk
  | [] => (some .notFound, d)
  | path :: above =>
    if path = "" then (none, d)
    else
      match d.tree.makeDirectory d.work d.time path with
      | .ok tree => (none, d.withTree tree)
      | .error .notFound =>
        match makeAll d above with
        | (some f, d) => (some f, d)
        | (none, d) =>
          match d.tree.makeDirectory d.work d.time path with
          | .ok tree => (none, d.withTree tree)
          | .error f =>
            if d.tree.leadsToDirectory d.work path then (none, d) else (some f, d)
      | .error f => if d.tree.leadsToDirectory d.work path then (none, d) else (some f, d)

/-- A name that holds a zero byte reaches no file. -/
def hasZero (path : String) : Bool := path.toList.contains '\x00'

/-- Makes a directory with all that is missing above it. The path is an octet text. -/
def makeWay (d : Disk) (path : String) : Option Fault × Disk :=
  d.makeAll (path :: Path.parents path)

def makeDirectories (d : Disk) (path : String) : Option Fault × Disk := d.makeWay (octets path)

def writeFile (d : Disk) (path : String) (content : ByteArray) (executable : Bool) :
    Except Fault Disk :=
  (d.tree.writeFile d.work d.time (octets path) content executable).map d.withTree

def readFile (d : Disk) (path : String) : Except Fault ByteArray :=
  d.tree.readFile d.work (octets path)

/-- Sets a modification time, where there is something to set it of. -/
def touch (d : Disk) (path : String) (time : Time) : Disk :=
  match d.tree.setModified d.work (octets path) time with
  | .ok tree => d.withTree tree
  | .error _ => d

/-- Removes what is at a path, a directory with all below it. -/
def remove (d : Disk) (path : String) : Disk :=
  match d.tree.statLink d.work (octets path) with
  | .ok (_, .directory _) => d.withTree (d.tree.removeDirectoryAll d.work d.time (octets path)).2
  | .ok _ =>
    match d.tree.removeFile d.work d.time (octets path) with
    | .ok tree => d.withTree tree
    | .error _ => d
  | .error _ => d

end Disk

end BuildTool
