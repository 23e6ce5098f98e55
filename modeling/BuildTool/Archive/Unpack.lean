import BuildTool.Archive.Entry
import BuildTool.Error
import BuildTool.Files.Disk

/-!
# Unpacking an archive

Directories and regular files are unpacked one after the other; the first entry of another
kind, or whose name goes upwards, ends the unpacking. A name is read relative to the target
directory, also when it begins with a slash, and the directory that an entry goes into must
lie inside the target once all links are followed. Names are taken byte by byte, as they stand in
the archive, so all paths are octet texts here.

    unpack d [a, b/c]     makes d/a, d/b and d/b/c
    unpack d [../x]       fails and makes nothing
-/

namespace BuildTool

namespace ArchiveEntry

/-- The name of an entry as messages show it. -/
def nameText (e : ArchiveEntry) : String := Text.lossyText ⟨e.name.toArray⟩

/-- The characters of the octet text of an entry's name: one for each byte. -/
def nameOctets (e : ArchiveEntry) : List Char := e.name.map Text.octet

/-- The names that lead to an entry from the target directory; nothing for a name that goes
upwards. -/
def steps? (e : ArchiveEntry) : Option (List String) :=
  let all := (Path.elements e.nameOctets).filter fun s => s ≠ [] ∧ s ≠ ['.']
  if all.contains ['.', '.'] then none else some (all.map String.ofList)

/-- The entry makes a directory: it is one, or in an old archive a file whose name ends in a
slash. -/
def makesDirectory (e : ArchiveEntry) : Bool :=
  e.kind = .directory || (e.isOldStyle && e.name.getLast? = some 47)

/-- The modification time of an entry; none may have the time zero. -/
def time? (e : ArchiveEntry) : Option Time :=
  e.modified.map fun seconds => (max seconds 1 : Int) * 1000000000

def isExecutable (e : ArchiveEntry) : Bool := (e.mode.getD 0) &&& 0o111 ≠ 0

end ArchiveEntry

namespace Disk

/-- Everything inside `path` is inside `top`, once links are followed. -/
def isInside (d : Disk) (top path : String) : Bool :=
  match d.tree.stat d.work top, d.tree.stat d.work path with
  | .ok (outer, _), .ok (inner, _) => outer.isPrefixOf inner
  | _, _ => false

/-- Something stands at a path, be it a link that leads nowhere. -/
def isTaken (d : Disk) (path : String) : Bool := d.tree.pathExists d.work path

/-- Makes the directories at `paths`, outermost first, each inside `top`; nothing if one of
them cannot be made. -/
def makeInside? (top : String) : List String → Disk → Option Disk × Disk
  | [], d => (some d, d)
  | path :: rest, d =>
    if hasZero path ∨ (Path.parents path).head?.any fun parent => !d.isInside top parent then
      (none, d)
    else
      match d.makeWay path with
      | (some _, d) => (none, d)
      | (none, d) => makeInside? top rest d

/-- Makes a directory, unless there is one. -/
def placeDirectory? (d : Disk) (path : String) : Option Disk :=
  match d.tree.makeDirectory d.work d.time path with
  | .ok tree => some (d.withTree tree)
  | .error .alreadyExists => if d.tree.leadsToDirectory d.work path then some d else none
  | .error _ => none

/-- Makes a file where nothing stands; the flag tells whether that went well. -/
def placeNewFile (d : Disk) (path : String) (e : Entry) : Bool × Disk :=
  match d.tree.locate d.work false path with
  | .ok (.free dir name) => (true, d.withTree (d.tree.insert d.time (dir ++ [name]) e))
  | _ => (false, d)

/-- Makes a file, after what stood there is removed, unless that is a directory. A link that stood
there may have been on the way to the path itself, so that no file can be made any more. -/
def placeFile (d : Disk) (path : String) (e : Entry) : Bool × Disk :=
  match d.tree.locate d.work false path with
  | .ok (.entry _ (.directory _)) => (false, d)
  | .ok (.entry loc _) => (d.withTree (d.tree.remove d.time loc)).placeNewFile path e
  | _ => d.placeNewFile path e

/-- Unpacks an entry at a path; the flag tells whether that went well. -/
def place (d : Disk) (path : String) (e : ArchiveEntry) : Bool × Disk :=
  if hasZero path then (false, d)
  else if e.makesDirectory then
    match d.placeDirectory? path with
    | some d => (true, d)
    | none => (false, d)
  else
    let content : ByteArray := ⟨e.content.toArray⟩
    let time := if e.isWhole then e.time?.getD d.time else d.time
    let executable := e.isWhole && e.isExecutable
    let (made, d) := d.placeFile path (.file content time executable)
    (made && e.isWhole, d)

def unpackEntry (d : Disk) (top : String) (e : ArchiveEntry) : Except BuildError Unit × Disk :=
  let damaged : BuildError := .io (Text.fromOctets top) .damaged
  if e.kind ≠ .directory ∧ e.kind ≠ .regular then
    (.error (.command (.unsupportedEntry e.kind)), d)
  else
    match e.steps? with
    | none => (.error (.command (.entryEscapes e.nameText (Text.fromOctets top))), d)
    | some [] => (.ok (), d)
    | some steps =>
      let path := steps.foldl Path.join top
      let parent := (Path.parents path).headD ""
      let missing := (parent :: Path.parents parent).takeWhile fun dir => !d.isTaken dir
      match makeInside? top missing.reverse d with
      | (none, d) => (.error damaged, d)
      | (some d, _) =>
        if !d.isInside top parent then (.error damaged, d)
        else
          match d.place path e with
          | (true, d) => (.ok (), d)
          | (false, d) => (.error damaged, d)

/-- Unpacks the items of an archive into directory `top`, up to the first that cannot be. -/
def unpack (top : String) : List ArchiveItem → Disk → Except BuildError Unit × Disk
  | [], d => (.ok (), d)
  | .damage :: _, d => (.error (.io (Text.fromOctets top) .damaged), d)
  | .entry e :: rest, d =>
    match d.unpackEntry top e with
    | (.error problem, d) => (.error problem, d)
    | (.ok (), d) => unpack top rest d

end Disk

end BuildTool
