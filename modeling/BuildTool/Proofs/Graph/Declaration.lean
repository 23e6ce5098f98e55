import BuildTool.Proofs.Graph.Lookup
import BuildTool.Proofs.Path.Normal
import BuildTool.Script

/-!
# Graphs of scripts

A statement does nothing to a graph, or it adds to one target, whose name it cleans:

    name: a b      dependencies a and b, each in its clean form
    name <- cc     the command cc
    name << text   the command that prints the text

What every such addition keeps, a script keeps, however far it is carried out
(`graph_of_run`).
-/

namespace BuildTool.Graph

/-- The other graph is this one with what a statement adds to a target. -/
inductive Declares (g : Graph) : Graph → Prop
  | dependencies (name : String) (force : Bool) (names : List String) :
      Declares g (g.update (Path.clean name) fun t => { t with
        force := t.force || force, dependencies := t.dependencies ++ names.map Path.clean })
  | command (name command : String) :
      Declares g (g.update (Path.clean name) fun t =>
        { t with commands := t.commands ++ [command] })

theorem graph_of_assign (plan : Plan) (left value : String) (append : Bool) :
    (plan.assign left value append).2.graph = plan.graph := by
  unfold Plan.assign
  split
  · split <;> rfl
  · rfl

theorem graph_of_relate (plan : Plan) (left : String) (operator : Operator) (right : String) :
    (plan.relate left operator right).2.graph = plan.graph ∨
      Declares plan.graph (plan.relate left operator right).2.graph := by
  cases operator with
  | depends =>
    simp only [Plan.relate, Plan.declare]
    split
    · exact Or.inl rfl
    · next force names _ => exact Or.inr (.dependencies left force names)
  | assign => exact Or.inl (graph_of_assign plan left right false)
  | append => exact Or.inl (graph_of_assign plan left right true)
  | command => exact Or.inr (.command left right)
  | message => exact Or.inr (.command left _)

section

variable {σ : Type} {print : Printer σ} {P : Graph → Prop}
  (hstep : ∀ g h, Declares g h → P g → P h)
include hstep

theorem graph_of_step (line : String) {st : Plan × σ} (hp : P st.1.graph) :
    P (Script.step print line st).2.1.graph := by
  obtain ⟨plan, out⟩ := st
  simp only [Script.step]
  split
  · exact hp
  · exact hp
  · exact hp
  · next left operator right _ =>
    rcases graph_of_relate plan (plan.expand left) operator (plan.expand right) with he | hd
    · exact he ▸ hp
    · exact hstep _ _ hd hp

theorem graph_of_steps (number : Nat) (lines : List String) {st : Plan × σ}
    (hp : P st.1.graph) : P (Script.steps print number lines st).2.1.graph := by
  induction lines generalizing number st with
  | nil => exact hp
  | cons line rest ih =>
    have hline : P (Script.step print line st).2.1.graph := graph_of_step hstep line hp
    unfold Script.steps
    split
    · next h =>
      rw [h] at hline
      exact hline
    · next h =>
      rw [h] at hline
      exact ih (number + 1) hline

/-- What every addition to a target keeps holds after a script, however far it was carried out. -/
theorem graph_of_run {say : String → σ → Except BuildError σ} (script : String) {st : Plan × σ}
    (hp : P st.1.graph) : P (Script.run say script st).2.1.graph :=
  graph_of_steps hstep 1 _ hp

end

/-- What is changed in the target of a name, made empty if need be. -/
theorem targetOf_update (g : Graph) (name other : String) (change : Target → Target) :
    (g.update name change).targetOf other =
      if other = name then change (g.targetOf name) else g.targetOf other := by
  unfold update
  by_cases he : other = name
  · subst he
    rw [if_pos rfl, targetOf_modify_self (contains_ensure_self g other), targetOf_ensure]
  · rw [if_neg he, targetOf_modify_of_ne he, targetOf_ensure]

theorem find?_update (g : Graph) (name other : String) (change : Target → Target) :
    (g.update name change).find? other =
      if other = name then some (change (g.targetOf name)) else g.find? other := by
  rw [update, modify, find?_mapTargets, find?_ensure]
  by_cases he : other = name
  · rw [if_pos he, Option.map_some, if_pos he, if_pos he]
  · rw [if_neg he, if_neg he]
    simp [he]

theorem contains_update (g : Graph) (name other : String) (change : Target → Target) :
    (g.update name change).contains other = (other == name || g.contains other) := by
  rw [update, contains_modify, contains_ensure]

@[simp] theorem visiting_update (g : Graph) (name : String) (change : Target → Target) :
    (g.update name change).visiting = g.visiting := by
  rw [update, visiting_modify, visiting_ensure]

/-- A statement leaves the name of every target, and what a pass has set in it. -/
theorem Declares.targetOf {g h : Graph} (hd : Declares g h) (name : String) :
    (h.targetOf name).name = (g.targetOf name).name ∧
      (h.targetOf name).resolved = (g.targetOf name).resolved ∧
      (h.targetOf name).modifiedAt = (g.targetOf name).modifiedAt := by
  cases hd with
  | dependencies =>
    rw [targetOf_update]
    split
    · next he =>
      subst he
      exact ⟨rfl, rfl, rfl⟩
    · exact ⟨rfl, rfl, rfl⟩
  | command =>
    rw [targetOf_update]
    split
    · next he =>
      subst he
      exact ⟨rfl, rfl, rfl⟩
    · exact ⟨rfl, rfl, rfl⟩

theorem Declares.visiting {g h : Graph} (hd : Declares g h) : h.visiting = g.visiting := by
  cases hd <;> exact visiting_update _ _ _

/-- A statement makes no target of a name that is not clean. -/
theorem Declares.clean_eq {g h : Graph} (hd : Declares g h)
    (hg : ∀ name, g.contains name = true → Path.clean name = name) {name : String}
    (hc : h.contains name = true) : Path.clean name = name := by
  have hnew : ∀ other, (name == Path.clean other || g.contains name) = true →
      Path.clean name = name := by
    intro other h
    rcases Bool.or_eq_true _ _ |>.mp h with he | hc
    · rw [eq_of_beq he, Path.clean_clean]
    · exact hg name hc
  cases hd with
  | dependencies other =>
    rw [contains_update] at hc
    exact hnew other hc
  | command other =>
    rw [contains_update] at hc
    exact hnew other hc

/-- All names that have a target in the graph of a script are clean. -/
theorem clean_eq_of_run {τ : Type} (say : String → τ → Except BuildError τ) (script : String)
    (plan : Plan) (out : τ) {name : String}
    (hc : (Script.run say script ({ plan with graph := {} }, out)).2.1.graph.contains name = true) :
    Path.clean name = name := by
  refine graph_of_run (P := fun g => ∀ name, g.contains name = true → Path.clean name = name)
    (fun _ _ hd hg _ hc => hd.clean_eq hg hc) script ?_ name hc
  intro name hc
  cases hc

end BuildTool.Graph
