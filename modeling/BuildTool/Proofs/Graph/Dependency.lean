import BuildTool.Graph.Resolve
import BuildTool.Proofs.Graph.Lookup
import Mathlib.Logic.Relation

/-!
# Dependencies

`DependsOn` is dependence over one or more steps and `Reaches` over any number of them. Both
look only at dependency lists, which no pass over the graph changes (`SameRecipes`).

A target that is done stands on targets that are done, and no target that is done depends on
itself: `IsSound`, which holds before anything is done and is kept by every step of a pass.
-/

namespace BuildTool.Graph

open Relation

/-- `dependency` is on the list of `name`. -/
def Needs (g : Graph) (name dependency : String) : Prop := dependency ∈ g.dependenciesOf name

/-- `name` needs the other, or something that depends on it. -/
def DependsOn (g : Graph) : String → String → Prop := TransGen g.Needs

/-- The other is `name` or something that `name` depends on. -/
def Reaches (g : Graph) : String → String → Prop := ReflTransGen g.Needs

/-- The commands of a name, none for a name without a target. -/
def commandsOf (g : Graph) (name : String) : List String := (g.targetOf name).commands

/-- The target of a name is built in every pass. -/
def isForced (g : Graph) (name : String) : Bool := (g.targetOf name).force

/-- The latest of the times of what a name needs. -/
def newestOf (g : Graph) (name : String) : Option Time :=
  (g.dependenciesOf name).foldl (fun newest d => latest newest (g.modifiedAt? d)) none

/-- All that a name needs is done and the name itself is not. -/
structure IsReady (g : Graph) (name : String) : Prop where
  contains : g.contains name = true
  unresolved : g.isResolved name = false
  needed : ∀ d, g.Needs name d → g.isResolved d = true

/-- Two graphs come from one script: their targets have the same recipes. -/
def SameRecipes (g h : Graph) : Prop :=
  ∀ name, (h.targetOf name).recipe = (g.targetOf name).recipe

/-! ## Graphs of one script -/

section SameRecipes

variable {g h : Graph} (same : SameRecipes g h)
include same

theorem SameRecipes.dependenciesOf (name : String) :
    h.dependenciesOf name = g.dependenciesOf name := by
  have hr := congrArg Target.dependencies (same name)
  exact hr

theorem SameRecipes.commandsOf (name : String) : h.commandsOf name = g.commandsOf name := by
  have hr := congrArg Target.commands (same name)
  exact hr

theorem SameRecipes.isForced (name : String) : h.isForced name = g.isForced name := by
  have hr := congrArg Target.force (same name)
  exact hr

theorem SameRecipes.needs : h.Needs = g.Needs := by
  funext name dependency
  rw [Needs, same.dependenciesOf, Needs]

theorem SameRecipes.dependsOn : h.DependsOn = g.DependsOn := by
  rw [DependsOn, same.needs, DependsOn]

theorem SameRecipes.reaches : h.Reaches = g.Reaches := by
  rw [Reaches, same.needs, Reaches]

theorem SameRecipes.symm : SameRecipes h g := fun name => (same name).symm

theorem SameRecipes.trans {k : Graph} (more : SameRecipes h k) : SameRecipes g k :=
  fun name => (more name).trans (same name)

end SameRecipes

theorem SameRecipes.refl (g : Graph) : SameRecipes g g := fun _ => rfl

theorem sameRecipes_ensure (g : Graph) (name : String) : SameRecipes g (g.ensure name) :=
  fun other => by rw [targetOf_ensure]

theorem sameRecipes_doneAt {g : Graph} {name : String} (hc : g.contains name = true)
    (time : Time) : SameRecipes g (g.modify name (·.doneAt time)) := by
  intro other
  by_cases he : other = name
  · rw [he, targetOf_modify_self hc, Target.recipe_doneAt]
  · rw [targetOf_modify_of_ne he]

theorem sameRecipes_unresolveAll (g : Graph) : SameRecipes g g.unresolveAll :=
  fun name => by rw [targetOf_unresolveAll, Target.recipe_unresolve]

/-! ## Paths -/

theorem Reaches.of_needs {g : Graph} {name dependency other : String}
    (hn : g.Needs name dependency) (hr : g.Reaches dependency other) : g.Reaches name other :=
  ReflTransGen.head hn hr

/-- Only names of a list can be reached from one of its names, if it has all that they need. -/
theorem Reaches.mem_of_closed {g : Graph} {names : List String} {name other : String}
    (hr : g.Reaches name other) (hm : name ∈ names)
    (hclosed : ∀ a ∈ names, ∀ b ∈ g.dependenciesOf a, b ∈ names) : other ∈ names := by
  induction hr with
  | refl => exact hm
  | tail _ hn ih => exact hclosed _ ih _ hn

theorem DependsOn.of_needs {g : Graph} {name dependency other : String}
    (hn : g.Needs name dependency) (hr : g.Reaches dependency other) : g.DependsOn name other :=
  TransGen.head' hn hr

theorem DependsOn.needs {g : Graph} {name other dependency : String}
    (hd : g.DependsOn name other) (hn : g.Needs other dependency) : g.DependsOn name dependency :=
  TransGen.tail hd hn

/-- Whatever depends on something needs something. -/
theorem DependsOn.exists_needs {g : Graph} {name other : String} (hd : g.DependsOn name other) :
    ∃ dependency, g.Needs name dependency ∧ g.Reaches dependency other := by
  obtain ⟨dependency, hn, hr⟩ := TransGen.head'_iff.mp hd
  exact ⟨dependency, hn, hr⟩

theorem DependsOn.reaches {g : Graph} {name other : String} (hd : g.DependsOn name other) :
    g.Reaches name other :=
  TransGen.to_reflTransGen hd

/-! ## What is done -/

theorem isResolved_ensure (g : Graph) (name other : String) :
    (g.ensure name).isResolved other = g.isResolved other := by
  rw [isResolved, targetOf_ensure, isResolved]

theorem modifiedAt?_ensure (g : Graph) (name other : String) :
    (g.ensure name).modifiedAt? other = g.modifiedAt? other := by
  rw [modifiedAt?, targetOf_ensure, modifiedAt?]

theorem isResolved_doneAt {g : Graph} {name : String} (hc : g.contains name = true) (time : Time)
    (other : String) :
    (g.modify name (·.doneAt time)).isResolved other = (other == name || g.isResolved other) := by
  by_cases he : other = name
  · rw [he, isResolved, targetOf_modify_self hc]
    simp [Target.doneAt]
  · rw [isResolved, targetOf_modify_of_ne he, isResolved]
    simp [he]

@[simp] theorem isResolved_unresolveAll (g : Graph) (name : String) :
    g.unresolveAll.isResolved name = false := by
  rw [isResolved, targetOf_unresolveAll]
  rfl

theorem modifiedAt?_unresolveAll (g : Graph) (name : String) :
    g.unresolveAll.modifiedAt? name = g.modifiedAt? name := by
  rw [modifiedAt?, targetOf_unresolveAll]
  rfl

theorem isResolved_eq_false {g : Graph} (h : ∀ p ∈ g.targets, p.2.resolved = false)
    (name : String) : g.isResolved name = false := by
  rw [isResolved, targetOf]
  cases hf : g.find? name with
  | none => rfl
  | some t =>
    obtain ⟨before, after, hl, -⟩ := List.lookup_eq_some_iff.mp hf
    exact h (name, t) (by rw [hl]; simp)

/-- What is done stands on what is done, and not on itself. -/
structure IsSound (g : Graph) : Prop where
  closed : ∀ name d, g.isResolved name = true → g.Needs name d → g.isResolved d = true
  acyclic : ∀ name, g.isResolved name = true → ¬g.DependsOn name name

theorem isSound_of_none_resolved {g : Graph} (h : ∀ name, g.isResolved name = false) :
    g.IsSound where
  closed name d hr _ := by
    rw [h name] at hr
    cases hr
  acyclic name hr := by
    rw [h name] at hr
    cases hr

theorem IsSound.isResolved_of_reaches {g : Graph} (hg : g.IsSound) {name other : String}
    (hr : g.isResolved name = true) (hp : g.Reaches name other) : g.isResolved other = true := by
  induction hp with
  | refl => exact hr
  | tail _ hn ih => exact hg.closed _ _ ih hn

/-- All that a ready target depends on is done. -/
theorem IsReady.isResolved_of_dependsOn {g : Graph} {name other : String} (hr : g.IsReady name)
    (hg : g.IsSound) (hd : g.DependsOn name other) : g.isResolved other = true := by
  obtain ⟨d, hn, hp⟩ := hd.exists_needs
  exact hg.isResolved_of_reaches (hr.needed d hn) hp

theorem IsReady.not_dependsOn_self {g : Graph} {name : String} (hr : g.IsReady name)
    (hg : g.IsSound) : ¬g.DependsOn name name := by
  intro hd
  have h := hr.isResolved_of_dependsOn hg hd
  rw [hr.unresolved] at h
  cases h

theorem IsSound.ensure {g : Graph} (hg : g.IsSound) (name : String) :
    (g.ensure name).IsSound where
  closed other d hr hn := by
    rw [isResolved_ensure] at hr ⊢
    rw [(sameRecipes_ensure g name).needs] at hn
    exact hg.closed other d hr hn
  acyclic other hr := by
    rw [isResolved_ensure] at hr
    rw [(sameRecipes_ensure g name).dependsOn]
    exact hg.acyclic other hr

theorem IsSound.doneAt {g : Graph} (hg : g.IsSound) {name : String} (hready : g.IsReady name)
    (time : Time) : (g.modify name (·.doneAt time)).IsSound where
  closed other d hr hn := by
    rw [isResolved_doneAt hready.contains, Bool.or_eq_true, beq_iff_eq] at hr ⊢
    rw [(sameRecipes_doneAt hready.contains time).needs] at hn
    rcases hr with rfl | hr
    · exact Or.inr (hready.needed d hn)
    · exact Or.inr (hg.closed other d hr hn)
  acyclic other hr := by
    rw [isResolved_doneAt hready.contains, Bool.or_eq_true, beq_iff_eq] at hr
    rw [(sameRecipes_doneAt hready.contains time).dependsOn]
    rcases hr with rfl | hr
    · exact hready.not_dependsOn_self hg
    · exact hg.acyclic other hr

end BuildTool.Graph
