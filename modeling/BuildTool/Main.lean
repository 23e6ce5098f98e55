import BuildTool.CommandLine
import BuildTool.Files.Listing

/-!
# The program

The outer layer: it reads the files that a run is about, hands them over, prints what the run
printed, and writes back the files that it changed. Files count as written when the run begins,
and no server can be reached.
-/

namespace BuildTool.Program

/-- The environment entries that a run gets to see. -/
def environmentNames : List String := ["HOME", "PATH"]

def firstPaths (home : String) (given : Arguments) : List String :=
  [Settings.expandHome home (given.settings.getD Settings.usualPath),
    given.config.buildFilePath]

/-- The files that the targets of a script are about. -/
def mentionedPaths (given : Arguments) (w : Workspace) : List String :=
  let (_, b, _) := (Builder.ofConfig given.config {} w).load w
  b.graph.mentioned.map (Path.join given.config.baseDir)

/-- Reads a file, if it can be read. -/
def readListed (path : String) : IO (List ListedFile) := do
  try
    let content ← IO.FS.readBinFile path
    return [{ path, content := .bytes content false, modified := 0 }]
  catch _ => return []

def readAll (paths : List String) : IO (List ListedFile) := do
  return (← paths.mapM readListed).flatten

def isUnchanged (before : List (String × Entry)) (entry : String × Entry) : Bool :=
  match before.lookup entry.1, entry.2 with
  | some (.file old _ _), .file new _ _ => old.toList == new.toList
  | some (.directory _), .directory _ => true
  | _, _ => false

/-- Makes an entry anew that a run has made or changed. -/
def writeBack (before : List (String × Entry)) (entry : String × Entry) : IO Unit := do
  if isUnchanged before entry then return ()
  match entry.2 with
  | .directory _ => IO.FS.createDirAll entry.1
  | .file content _ _ => IO.FS.writeBinFile entry.1 content
  | _ => return ()

def removeGone (after : List (String × Entry)) (entry : String × Entry) : IO Unit := do
  match after.lookup entry.1, entry.2 with
  | none, .file .. => IO.FS.removeFile entry.1
  | _, _ => return ()

def runWith (arguments : List String) : IO UInt32 := do
  let known ← environmentNames.mapM fun name => return (name, ← IO.getEnv name)
  let environment := known.filterMap fun p => p.2.map fun value => (p.1, value)
  let empty : Workspace := { disk := Disk.setUp 0, server := { host := "" }, environment }
  let w ← match Arguments.parse arguments with
    | .error _ => pure empty
    | .ok given => do
      let first ← readAll (firstPaths (Settings.homeIn environment) given)
      let start := empty.withDisk (empty.disk.installAll first)
      let more ← readAll (mentionedPaths given start)
      pure (start.withDisk (start.disk.installAll more))
  let (code, after) := CommandLine.run arguments w
  (← IO.getStdout).putStr after.printed.standard
  (← IO.getStderr).putStr after.printed.errors
  let entries := after.disk.listing
  w.disk.listing.forM (removeGone entries)
  entries.forM (writeBack w.disk.listing)
  return UInt32.ofNat code

end BuildTool.Program

def main (arguments : List String) : IO UInt32 := BuildTool.Program.runWith arguments
