import BuildTool.Files.Disk

/-!
# Listings of files

A listing describes files to be set up, and the same form describes what is below a directory.
-/

namespace BuildTool

inductive ListedContent
  | bytes (content : ByteArray) (executable : Bool)
  | directory
  | link (target : String)

/-- A file of a listing, with the modification time it is to get. -/
structure ListedFile where
  path : String
  content : ListedContent
  modified : Time

namespace Disk

open Text (octets fromOctets)

def makeParents (d : Disk) (path : String) : Disk :=
  match Path.parents (octets path) with
  | [] => d
  | parent :: above => (d.makeAll (parent :: above)).2

/-- Sets up one file and the directories above it. -/
def install (d : Disk) (f : ListedFile) : Disk :=
  let d := d.makeParents f.path
  match f.content with
  | .directory => (d.makeDirectories f.path).2
  | .link target =>
    match d.tree.makeLink d.work d.time (octets target) (octets f.path) with
    | .ok tree => d.withTree tree
    | .error _ => d
  | .bytes content executable =>
    match d.writeFile f.path content executable with
    | .ok d => d
    | .error _ => d

/-- Sets up a listing: first every file, then the times of all but the links. -/
def installAll (d : Disk) (files : List ListedFile) : Disk :=
  let d := files.foldl install d
  files.foldl (fun d f =>
    match f.content with
    | .link _ => d
    | _ => d.touch f.path f.modified) d

def shown : Entry → Entry
  | .link target => .link (fromOctets target)
  | other => other

/-- The entries below the working directory, by the paths that lead to them from there, all as
texts. -/
def listing (d : Disk) : List (String × Entry) :=
  d.tree.entries.filterMap fun p =>
    if Tree.isBelow d.work p.1 then
      some (fromOctets ("/".intercalate (p.1.drop d.work.length)), shown p.2)
    else none

end Disk

end BuildTool
