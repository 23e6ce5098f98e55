import BuildTool.Builder

/-!
# Watching

To watch a target is to build it, to wait until the newest time among the target and all it
depends on is later than the end of the build, and to begin again. A build that fails is
reported and does not end the watch; what ends it is a target whose dependencies cannot be
looked at.

    Watch.isChanged   one look at the files
    Watch.wait        looks until there is a change
    Watch.run         builds and waits in turn

Between two looks others may edit files. The edits are given in a row, one for each time
between two looks; after the last of them nothing changes any more.
-/

namespace BuildTool.Watch

/-- What someone else does to the files between two looks at them. -/
abbrev Edit := Disk → Disk

/-- What a wait comes to: a change, an error, or no change for all the edits there are. -/
inductive WaitEnd
  | changed
  | failed (error : BuildError)
  | unchanged

/-- The newest time among a target and all it depends on is later than `since`. -/
def isChanged (g : Graph) (baseDir target : String) (since : Time) (d : Disk) :
    Except BuildError Bool :=
  (g.lastUpdated (fun name => d.modifiedTime? (Path.join baseDir name)) target).map fun newest =>
    newest.any fun time => decide (since < time)

/-- Looks at the files until there is a change. Gives the end, the edits that are left, and the
workspace. -/
def looks (logger : Logger) (g : Graph) (baseDir target : String) (since : Time) :
    List Edit → Workspace → WaitEnd × List Edit × Workspace
  | edits, w =>
    match isChanged g baseDir target since w.disk with
    | .error e => (.failed e, edits, w)
    | .ok true => (.changed, edits, w.note logger (target ++ " changed, rebuilding"))
    | .ok false =>
      match edits with
      | [] => (.unchanged, [], w)
      | edit :: edits => looks logger g baseDir target since edits (w.withDisk (edit w.disk))
  termination_by edits => edits.length

def wait (logger : Logger) (g : Graph) (baseDir target : String) (since : Time)
    (edits : List Edit) (w : Workspace) : WaitEnd × List Edit × Workspace :=
  looks logger g baseDir target since edits (w.note logger ("waiting for changes to " ++ target))

/-- How a watch ends: with an error, because whoever gets the reports has had enough, or
without an end in sight. -/
inductive WatchEnd
  | failed (error : BuildError)
  | stopped
  | endless

/-- What a watch leaves: its end, the errors reported, the builder and the workspace. -/
structure Watched where
  finish : WatchEnd
  reports : List BuildError
  builder : Builder
  workspace : Workspace

/-- What becomes of a report: the workspace after it, and whether it was the last one wanted.
It gets the number of reports before it. -/
abbrev Reporter := Nat → BuildError → Workspace → Bool × Workspace

def rounds (logger : Logger) (report : Reporter) (target : String) :
    Nat → List Edit → List BuildError → Builder → Workspace → Watched
  | 0, _, reports, b, w => ⟨.endless, reports, b, w⟩
  | count + 1, edits, reports, b, w =>
    let (result, b, w) := b.build target w
    let (reports, stop, w) := match result with
      | .ok () => (reports, false, w)
      | .error e =>
        let (stop, w) := report reports.length e w
        (reports ++ [e], stop, w)
    if stop then ⟨.stopped, reports, b, w⟩
    else
      let b := { b with graph := b.graph.unresolveAll }
      match wait logger b.graph b.session.baseDir target w.disk.now edits w with
      | (.failed e, _, w) => ⟨.failed e, reports, b, w⟩
      | (.unchanged, _, w) => ⟨.endless, reports, b, w⟩
      | (.changed, edits, w) => rounds logger report target count edits reports b w

/-- A watch is followed for this many builds. -/
def roundLimit : Nat := 1000

def run (logger : Logger) (report : Reporter) (target : String) (edits : List Edit)
    (b : Builder) (w : Workspace) : Watched :=
  rounds logger report target roundLimit edits [] b w

end BuildTool.Watch
