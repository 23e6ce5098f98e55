import BuildTool.Files.Disk

/-!
# Open files

Programs read and write through descriptors: small numbers for open files. The same open file
can have several numbers, in one program or in several, and then they share one position. What
goes to a collector is kept in the order in which it was written.
-/

namespace BuildTool

/-- What an open file reads from or writes to. -/
inductive Channel
  | collector (n : Nat)
  | given (bytes : ByteArray)
  | file (loc : Location)
  | directory
  | nothing

structure OpenFile where
  channel : Channel
  readable : Bool
  writable : Bool
  appends : Bool := false
  position : Nat := 0

/-- The numbers under which a program knows open files: for each the place of the file in the
table of the system. -/
abbrev Descriptors := List (Nat × Nat)

/-- The disk, all files that were opened, and what was collected. -/
structure System where
  disk : Disk
  files : Array OpenFile := #[]
  collected : Array ByteArray := #[]

/-- The content with some bytes in place of what stood from a position on; a gap is filled with
zeros. -/
def ByteArray.overwritten (content : ByteArray) (position : Nat) (bytes : ByteArray) :
    ByteArray :=
  let gap : ByteArray := ⟨(List.replicate (position - content.size) (0 : UInt8)).toArray⟩
  content.extract 0 position ++ gap ++ bytes ++
    content.extract (position + bytes.size) content.size

namespace System

/-- Takes up an open file; the number is its place in the table. -/
def add (s : System) (f : OpenFile) : Nat × System :=
  (s.files.size, { s with files := s.files.push f })

/-- Opens a new collector; the numbers are its place in the table and its own. -/
def addCollector (s : System) : Nat × Nat × System :=
  let n := s.collected.size
  let (place, s) := s.add { channel := .collector n, readable := false, writable := true }
  (place, n, { s with collected := s.collected.push ByteArray.empty })

def collectedIn (s : System) (n : Nat) : ByteArray := s.collected[n]?.getD ByteArray.empty

def openFile? (s : System) (d : Descriptors) (n : Nat) : Option (Nat × OpenFile) := do
  let place ← d.lookup n
  let f ← s.files[place]?
  return (place, f)

def moved (s : System) (place : Nat) (f : OpenFile) (position : Nat) : System :=
  { s with files := s.files.setIfInBounds place { f with position } }

def write (s : System) (d : Descriptors) (n : Nat) (bytes : ByteArray) : Except Fault System :=
  if bytes.size = 0 then .ok s
  else
    match s.openFile? d n with
    | none => .error .badDescriptor
    | some (place, f) =>
      if !f.writable then .error .badDescriptor
      else
        match f.channel with
        | .collector k =>
          .ok { s with collected := s.collected.modify k (· ++ bytes) }
        | .file loc =>
          match s.disk.tree.get? loc with
          | some (.file content _ executable) =>
            let position := if f.appends then content.size else f.position
            let content := ByteArray.overwritten content position bytes
            let tree := s.disk.tree.put loc (.file content s.disk.time executable)
            .ok ({ s with disk := s.disk.withTree tree }.moved place f (position + bytes.size))
          | _ => .ok s
        | .given _ | .directory | .nothing => .ok s

/-- What is left to be read from a descriptor. -/
def unread (s : System) (d : Descriptors) (n : Nat) : Except Fault ByteArray :=
  match s.openFile? d n with
  | none => .error .badDescriptor
  | some (_, f) =>
    if !f.readable then .error .badDescriptor
    else
      let from_ (bytes : ByteArray) : ByteArray := bytes.extract f.position bytes.size
      match f.channel with
      | .given bytes => .ok (from_ bytes)
      | .file loc =>
        match s.disk.tree.get? loc with
        | some (.file content _ _) => .ok (from_ content)
        | _ => .ok ByteArray.empty
      | .directory => .error .isDirectory
      | .collector _ | .nothing => .ok ByteArray.empty

/-- Goes past bytes that were read from a descriptor. -/
def skip (s : System) (d : Descriptors) (n count : Nat) : System :=
  match s.openFile? d n with
  | some (place, f) => s.moved place f (f.position + count)
  | none => s

def readAll (s : System) (d : Descriptors) (n : Nat) : Except Fault (ByteArray × System) :=
  (s.unread d n).map fun bytes => (bytes, s.skip d n bytes.size)

/-- Writes to a descriptor where nobody asks whether that worked. -/
def tell (s : System) (d : Descriptors) (n : Nat) (bytes : ByteArray) : System :=
  match s.write d n bytes with
  | .ok s => s
  | .error _ => s

/-- Opens a file for reading. The path is an octet text. -/
def openForReading (s : System) (path : String) : Except Fault (Nat × System) :=
  match s.disk.tree.stat s.disk.work path with
  | .error f => .error f
  | .ok (loc, e) =>
    let channel := match e with
      | .file .. => .file loc
      | .directory _ => .directory
      | _ => .nothing
    .ok (s.add { channel, readable := true, writable := false })

/-- Opens a file for writing, which is made if there is none; `emptied` tells whether old
content is dropped, `readable` whether it can be read from as well. The path is an octet text. -/
def openForWriting (s : System) (path : String) (emptied appends readable : Bool) :
    Except Fault (Nat × System) := do
  let tree := s.disk.tree
  let work := s.disk.work
  let made := tree.writeFile work s.disk.time path ByteArray.empty false
  let tree ←
    match tree.stat work path with
    | .ok (_, .file ..) => if emptied then made else .ok tree
    | .ok (_, .nullDevice) => .ok tree
    | _ => made
  match tree.stat work path with
  | .ok (loc, e) =>
    let channel := match e with
      | .file .. => Channel.file loc
      | _ => .nothing
    return { s with disk := s.disk.withTree tree }.add
      { channel, readable, writable := true, appends }
  | .error f => .error f

end System

end BuildTool
