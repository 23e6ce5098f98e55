import BuildTool.Calendar.Basic

/-!
# The tree of files

A tree is a finite map from locations to entries. A location is the list of names that lead to
an entry from the root; the root itself is the empty location. Times are whole nanoseconds
since the beginning of 1970.

    entry at [usr, bin, sh]   in directory [usr, bin]

A name may be any bytes, whether they make up a text or not. So names, the paths made of them and
the targets of links are octet texts here.
-/

namespace BuildTool

/-- The names that lead to an entry from the root. -/
abbrev Location := List String

/-- The programs that every tree holds. -/
inductive Tool
  | sh
  | ls
  | cat
  | echo
  | printf
  | env
  | printenv
  | succeed
  | fail
  deriving DecidableEq, Repr

namespace Tool

def all : List Tool := [.sh, .ls, .cat, .echo, .printf, .env, .printenv, .succeed, .fail]

def name : Tool → String
  | .sh => "sh"
  | .ls => "ls"
  | .cat => "cat"
  | .echo => "echo"
  | .printf => "printf"
  | .env => "env"
  | .printenv => "printenv"
  | .succeed => "true"
  | .fail => "false"

end Tool

/-- What stands at a location. -/
inductive Entry
  | file (content : ByteArray) (modified : Time) (executable : Bool)
  | directory (modified : Time)
  | link (target : String)
  | tool (tool : Tool)
  | nullDevice

namespace Entry

def isDirectory : Entry → Bool
  | .directory _ => true
  | _ => false

def modified : Entry → Time
  | .file _ modified _ => modified
  | .directory modified => modified
  | _ => 0

def withModified (time : Time) : Entry → Entry
  | .file content _ executable => .file content time executable
  | .directory _ => .directory time
  | other => other

end Entry

/-- A tree of files. Each location has at most one entry. -/
structure Tree where
  entries : List (Location × Entry)

namespace Tree

def get? (t : Tree) (loc : Location) : Option Entry := t.entries.lookup loc

/-- Puts an entry at a location, in place of what stood there. -/
def putIn (loc : Location) (e : Entry) : List (Location × Entry) → List (Location × Entry)
  | [] => [(loc, e)]
  | (l, old) :: rest => if l = loc then (l, e) :: rest else (l, old) :: putIn loc e rest

/-- Puts an entry at a location, in place of what stood there. -/
def put (t : Tree) (loc : Location) (e : Entry) : Tree := ⟨putIn loc e t.entries⟩

def erase (t : Tree) (loc : Location) : Tree :=
  ⟨t.entries.filter fun p => p.1 ≠ loc⟩

/-- The location lies below `top`, at any depth. -/
def isBelow (top loc : Location) : Bool :=
  top.isPrefixOf loc && loc.length > top.length

def isDirectory (t : Tree) (loc : Location) : Bool :=
  match t.get? loc with
  | some e => e.isDirectory
  | none => false

/-- The names in a directory, sorted. -/
def names (t : Tree) (dir : Location) : List String :=
  (t.entries.filterMap fun p =>
    if p.1.length = dir.length + 1 ∧ dir.isPrefixOf p.1 then p.1.getLast? else none).mergeSort
      fun a b => decide (a ≤ b)

/-- Sets the modification time of the entry at a location. -/
def stamp (t : Tree) (loc : Location) (time : Time) : Tree :=
  match t.get? loc with
  | some e => t.put loc (e.withModified time)
  | none => t

/-- Puts a new entry into a directory, which counts as changed by that. -/
def insert (t : Tree) (time : Time) (loc : Location) (e : Entry) : Tree :=
  (t.put loc e).stamp loc.dropLast time

/-- Takes an entry out of its directory, which counts as changed by that. -/
def remove (t : Tree) (time : Time) (loc : Location) : Tree :=
  (t.erase loc).stamp loc.dropLast time

/-- Takes everything below a directory out of the tree. -/
def removeBelow (t : Tree) (time : Time) (top : Location) : Tree :=
  if t.entries.any fun p => isBelow top p.1 then
    Tree.stamp ⟨t.entries.filter fun p => !isBelow top p.1⟩ top time
  else t

/-- The tree of an otherwise empty machine, whose programs stand in both customary directories
and whose directories were made at a time. -/
def initial (time : Time) : Tree :=
  let dirs : List Location := [[], ["usr"], ["usr", "bin"], ["bin"], ["dev"], ["box"], ["box", "work"]]
  ⟨dirs.map (fun loc => (loc, Entry.directory time)) ++
    Tool.all.flatMap (fun tool =>
      [(["usr", "bin", tool.name], Entry.tool tool), (["bin", tool.name], Entry.tool tool)]) ++
    [(["dev", "null"], Entry.nullDevice)]⟩

end Tree

end BuildTool
