import BuildTool.Calendar.Basic

/-!
# The target graph

Targets by name. A target comes into being empty when it is first mentioned, and is never
taken away again. Beside the targets the graph keeps the names that a walk over it has entered
and not left yet; between two walks there are none.
-/

namespace BuildTool

/-!
## Targets

A target is a name with what it depends on and the commands that bring it about. The last two
fields belong to one pass over the graph: whether the target is done, and the time it then had.
-/

/-- A target of a script. -/
structure Target where
  name : String
  dependencies : List String := []
  commands : List String := []
  force : Bool := false
  resolved : Bool := false
  modifiedAt : Option Time := none
  deriving DecidableEq, Repr

namespace Target

def hasCommands (t : Target) : Bool := !t.commands.isEmpty

/-- The target once it is done, with the time it then has. -/
def doneAt (time : Time) (t : Target) : Target :=
  { t with resolved := true, modifiedAt := some time }

/-- The target at the beginning of a pass. -/
def unresolve (t : Target) : Target := { t with resolved := false }

/-- A target on one line: its name, whether it is forced, and its dependencies. -/
def display (t : Target) : String :=
  t.name ++ (if t.force then " (forced)" else "") ++
    (if t.dependencies.isEmpty then "" else ": " ++ " ".intercalate t.dependencies)

end Target

/-! ## Graphs -/

/-- The targets of a script by name, in the order of their first mention. -/
structure Graph where
  targets : List (String × Target) := []
  /-- the names on the way from where a walk began to where it is -/
  visiting : List String := []
  /-- each name once -/
  nodup_names : (targets.map Prod.fst).Nodup := by simp
  deriving DecidableEq, Repr

namespace Graph

def find? (g : Graph) (name : String) : Option Target := g.targets.lookup name

def contains (g : Graph) (name : String) : Bool := (g.find? name).isSome

/-- The target of a name, which is empty for a name without one. -/
def targetOf (g : Graph) (name : String) : Target := (g.find? name).getD { name }

/-- The target of a name is done in this pass. -/
def isResolved (g : Graph) (name : String) : Bool := (g.targetOf name).resolved

/-- The time that the target of a name had when it was last done. -/
def modifiedAt? (g : Graph) (name : String) : Option Time := (g.targetOf name).modifiedAt

/-- What a name depends on, nothing for a name without a target. -/
def dependenciesOf (g : Graph) (name : String) : List String := (g.targetOf name).dependencies

theorem not_mem_names_of_contains_eq_false {g : Graph} {name : String}
    (h : g.contains name = false) : name ∉ g.targets.map Prod.fst := by
  intro hm
  obtain ⟨p, hp, rfl⟩ := List.mem_map.mp hm
  simp only [contains, find?, Option.isSome_eq_false_iff, Option.isNone_iff_eq_none] at h
  have := List.lookup_eq_none_iff.mp h p hp
  simp at this

/-- The graph with an empty target of this name, unless there is one. -/
def ensure (g : Graph) (name : String) : Graph :=
  if h : g.contains name then g
  else { g with
    targets := g.targets ++ [(name, { name })]
    nodup_names := by
      have hn := not_mem_names_of_contains_eq_false (Bool.eq_false_iff.mpr h)
      simp only [List.map_append, List.map_cons, List.map_nil, List.nodup_append]
      refine ⟨g.nodup_names, by simp, ?_⟩
      rintro a ha b hb rfl
      exact hn (List.mem_singleton.mp hb ▸ ha) }

/-- The graph with its targets changed, each under the name it has. -/
def mapTargets (g : Graph) (change : String → Target → Target) : Graph :=
  { g with
    targets := g.targets.map fun p => (p.1, change p.1 p.2)
    nodup_names := by simpa [Function.comp_def] using g.nodup_names }

def modify (g : Graph) (name : String) (change : Target → Target) : Graph :=
  g.mapTargets fun other t => if other = name then change t else t

/-- Changes the target of a name, made empty if need be. -/
def update (g : Graph) (name : String) (change : Target → Target) : Graph :=
  (g.ensure name).modify name change

def size (g : Graph) : Nat := g.targets.length

/-- Forgets which targets are done, so that the next pass looks at all of them again. -/
def unresolveAll (g : Graph) : Graph := g.mapTargets fun _ t => t.unresolve

def enter (g : Graph) (name : String) : Graph := { g with visiting := name :: g.visiting }

/-- Takes the mark off a name. -/
def leave (g : Graph) (name : String) : Graph :=
  { g with visiting := g.visiting.erase name }

def mentioned (g : Graph) : List String :=
  g.targets.map Prod.fst ++ g.targets.flatMap (·.2.dependencies)

/-- A bound for the length of a path that repeats no name: one more than the names there are
to start from and to go to. -/
def depthBound (g : Graph) : Nat := g.mentioned.length + 2

end Graph

end BuildTool
