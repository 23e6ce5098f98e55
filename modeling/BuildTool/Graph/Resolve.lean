import BuildTool.Error
import BuildTool.Graph.Basic

/-!
# Bringing a target up to date

`resolve` looks at the dependencies of a target first, in their order, and then runs the
target's commands if it is stale: it is forced, its path has no modification time, or a
dependency is newer. What happens outside of the graph goes through a `Site`, so the walk is
the same over any file tree and with any way to run commands.

    a: b c     resolve a  =  resolve b, resolve c, commands of a
    a: b, b: a  resolve a  =  cyclic dependency a

A name is marked while the walk is below it and the mark is taken off however the walk ends, so
that a name found marked depends on itself. A path of dependencies that repeats no name is no
longer than the names the graph mentions, which bounds the depth of the walk.
-/

namespace BuildTool

/-- What the walk over a graph sees and does outside of it, `σ` being the state there. -/
structure Site (σ : Type) where
  /-- Something exists at a path. -/
  pathExists : σ → String → Bool
  /-- The modification time at a path. -/
  modified : σ → String → Option Time
  /-- Reads the clock. -/
  clock : σ → Time × σ
  /-- Notes a step of the walk. -/
  note : String → σ → σ
  /-- Runs a command of a target. -/
  run : String → String → σ → Except BuildError Unit × σ

/-- The later of two times, where there are any. -/
def latest : Option Time → Option Time → Option Time
  | none, t => t
  | t, none => t
  | some a, some b => some (max a b)

namespace Graph

/-- The target must be built: its own time is missing or earlier than a dependency's. -/
def isStale (force : Bool) (own newest : Option Time) : Bool :=
  force ||
    match own, newest with
    | none, _ => true
    | some own, some newest => decide (own < newest)
    | some _, none => false

variable {σ : Type}

def runCommands (site : Site σ) (target : String) :
    List String → σ → Except BuildError Unit × σ
  | [], s => (.ok (), s)
  | command :: rest, s =>
    match site.run target command (site.note (target ++ ": " ++ command) s) with
    | (.error e, s) => (.error e, s)
    | (.ok (), s) => runCommands site target rest s

/-- Runs the commands of a target if it is stale, `newest` being the latest time among its
dependencies. -/
def refresh (site : Site σ) (name : String) (target : Target) (newest : Option Time) (s : σ) :
    Except BuildError Unit × σ :=
  if isStale target.force (site.modified s name) newest then
    runCommands site name target.commands (site.note (name ++ " is stale") s)
  else (.ok (), site.note (name ++ " is up to date") s)

/-- The time of a target that is done: that of its path, or else the clock's. -/
def timeOf (site : Site σ) (name : String) (s : σ) : Time × σ :=
  match site.modified s name with
  | some time => (time, s)
  | none => site.clock s

/-- Builds a target whose dependencies are done, if it is stale, and marks it as done. -/
def settle (site : Site σ) (name : String) (newest : Option Time) :
    Graph × σ → Except BuildError Unit × Graph × σ
  | (g, s) =>
    match g.find? name with
    | none => (.error (.unknownTarget name), g, s)
    | some target =>
      match refresh site name target newest s with
      | (.error e, s) => (.error e, g, s)
      | (.ok (), s) =>
        let (time, s) := timeOf site name s
        (.ok (), g.modify name (·.doneAt time), s)

/-- Resolves dependencies in their order and gives the latest of their times. A dependency
without a target becomes one without commands, if its path exists. -/
def resolveAll (site : Site σ)
    (resolveOne : String → Graph × σ → Except BuildError Unit × Graph × σ) (target : String) :
    List String → Option Time → Graph × σ → Except BuildError (Option Time) × Graph × σ
  | [], newest, st => (.ok newest, st)
  | dependency :: rest, newest, (g, s) =>
    if !g.contains dependency && !site.pathExists s dependency then
      (.error (.unknownDependency target dependency), g, s)
    else
      match resolveOne dependency (g.ensure dependency, s) with
      | (.error e, st) => (.error e, st)
      | (.ok (), g, s) =>
        resolveAll site resolveOne target rest (latest newest (g.modifiedAt? dependency)) (g, s)

/-- Resolves the dependencies of a target that is marked, and then the target itself. -/
def resolveMarked (site : Site σ)
    (resolveOne : String → Graph × σ → Except BuildError Unit × Graph × σ) (name : String) :
    Graph × σ → Except BuildError Unit × Graph × σ
  | (g, s) =>
    match g.find? name with
    | none => (.error (.unknownTarget name), g, s)
    | some target =>
      match resolveAll site resolveOne name target.dependencies none (g, s) with
      | (.error e, st) => (.error e, st)
      | (.ok newest, st) => settle site name newest st

/-- The walk of `resolve` for at most `depth` levels. -/
def resolveWithin (site : Site σ) :
    Nat → String → Graph × σ → Except BuildError Unit × Graph × σ
  | 0, name, st => (.error (.cyclicDependency name), st)
  | depth + 1, name, (g, s) =>
    if g.isResolved name then (.ok (), g, s)
    else if name ∈ g.visiting then (.error (.cyclicDependency name), g, s)
    else
      let (result, g, s) :=
        resolveMarked site (resolveWithin site depth) name (g.enter name, s)
      (result, g.leave name, s)

/-- Brings a target up to date, stale dependencies first. -/
def resolve (site : Site σ) (name : String) (g : Graph) (s : σ) :
    Except BuildError Unit × Graph × σ :=
  resolveWithin site g.depthBound name (g, s)

/-- The latest time among dependencies; `one` gives that of a target and what it depends on. -/
def lastUpdatedAll (modified : String → Option Time)
    (one : String → Graph → Except BuildError (Option Time) × Graph) :
    List String → Option Time → Graph → Except BuildError (Option Time) × Graph
  | [], newest, g => (.ok newest, g)
  | dependency :: rest, newest, g =>
    if g.contains dependency then
      match one dependency g with
      | (.error e, g) => (.error e, g)
      | (.ok time, g) => lastUpdatedAll modified one rest (latest newest time) g
    else lastUpdatedAll modified one rest (latest newest (modified dependency)) g

/-- The walk of `lastUpdated` for at most `depth` levels. -/
def lastUpdatedWithin (modified : String → Option Time) :
    Nat → String → Graph → Except BuildError (Option Time) × Graph
  | 0, name, g => (.error (.cyclicDependency name), g)
  | depth + 1, name, g =>
    if name ∈ g.visiting then (.error (.cyclicDependency name), g)
    else
      let (result, g) := lastUpdatedAll modified (lastUpdatedWithin modified depth)
        (g.dependenciesOf name) (modified name) (g.enter name)
      (result, g.leave name)

/-- The latest modification time among a name and all it depends on, nothing when none of
them has one, and the graph after the walk. -/
def lastUpdatedFrom (g : Graph) (modified : String → Option Time) (name : String) :
    Except BuildError (Option Time) × Graph :=
  lastUpdatedWithin modified g.depthBound name g

/-- The latest modification time among a name and all it depends on. -/
def lastUpdated (g : Graph) (modified : String → Option Time) (name : String) :
    Except BuildError (Option Time) :=
  (g.lastUpdatedFrom modified name).1

end Graph

end BuildTool
