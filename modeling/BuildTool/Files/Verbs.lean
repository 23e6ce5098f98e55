import BuildTool.Error
import BuildTool.Files.Disk

/-!
# Commands on files

The commands that scripts use instead of programs: `clean` removes a file or, if asked to, a
directory with all in it; `makeDirectory` makes a directory; `copy` gives one file the
contents of another. Paths are read relative to the base directory of the build.
-/

namespace BuildTool.Disk

/-- The outcome of a command on files: an error or none, and the disk after it. -/
abbrev Changed := Except BuildError Unit × Disk

def changed (d : Disk) (path : String) : Except Fault Tree → Changed
  | .ok tree => (.ok (), d.withTree tree)
  | .error f => (.error (.file path f), d)

/-- The path of a name in a directory, as the tree takes it. -/
def pathFrom (base name : String) : String := Text.octets (Path.join base name)

/-- Removes what a path names, a directory only if `recursive`. What does not exist is clean
already. -/
def clean (d : Disk) (base path : String) (recursive : Bool) : Changed :=
  let full := Path.join base path
  if hasZero full then (.error (.io full .zeroInName), d)
  else
    match d.tree.statLink d.work (pathFrom base path) with
    | .error .notFound => (.ok (), d)
    | .error f => (.error (.file full f), d)
    | .ok (_, .directory _) =>
      if recursive then
        match d.tree.removeDirectoryAll d.work d.time (pathFrom base path) with
        | (none, tree) => (.ok (), d.withTree tree)
        | (some f, tree) => (.error (.file full f), d.withTree tree)
      else (.error (.command (.isDirectory path)), d)
    | .ok _ => d.changed full (d.tree.removeFile d.work d.time (pathFrom base path))

/-- Makes a directory and those above it, unless there is one. -/
def makeDirectory (d : Disk) (base path : String) : Changed :=
  let full := Path.join base path
  if hasZero full then (.error (.io full .zeroInName), d)
  else
    match d.tree.stat d.work (pathFrom base path) with
    | .ok (_, .directory _) => (.ok (), d)
    | .ok _ => (.error (.command (.notDirectory path)), d)
    | .error _ =>
      match d.makeWay (pathFrom base path) with
      | (none, d) => (.ok (), d)
      | (some f, d) => (.error (.file full f), d)

/-- The copy of an entry that stands at `source`, made at the time `time` in place of what is
at `loc`. A file copied onto itself is emptied first. -/
def copied (time : Time) (source loc : Location) : Entry → Entry
  | .file content _ executable =>
    .file (if source = loc then ByteArray.empty else content) time executable
  | other => other

/-- Gives the file at `destination` the contents of the file at `source`. -/
def copy (d : Disk) (base source destination : String) : Changed :=
  let origin := Path.join base source
  let target := Path.join base destination
  if hasZero origin then (.error (.io origin .zeroInName), d)
  else
    match d.tree.stat d.work (pathFrom base source) with
    | .error f => (.error (.file origin f), d)
    | .ok (_, .directory _) => (.error (.command (.sourceIsDirectory source)), d)
    | .ok (_, .nullDevice) => (.error (.io target .notRegular), d)
    | .ok (originLoc, e) =>
      if hasZero target then (.error (.io target .zeroInName), d)
      else
        match d.tree.locateToWrite d.work (pathFrom base destination) with
        | .error f => (.error (.file target f), d)
        | .ok (.entry _ .nullDevice) => (.ok (), d)
        | .ok (.entry _ (.tool _)) => (.error (.file target .permission), d)
        | .ok (.entry loc _) =>
          (.ok (), d.withTree (d.tree.put loc (copied d.time originLoc loc e)))
        | .ok (.free dir name) =>
          let loc := dir ++ [name]
          (.ok (), d.withTree (d.tree.insert d.time loc (copied d.time originLoc loc e)))

end BuildTool.Disk
