import BuildTool.Proofs.Graph.Dependency

/-!
# Walks

A pass over a graph comes down to two kinds of steps, whatever the order of its recursion:

    adopt   a dependency without a target whose path exists gets an empty target
    visit   a target that is ready is built if it is stale, and marked as done

`Walk site st visits st'` says that such steps lead from one graph and state to another, `visits`
being the targets dealt with. Everything that holds in the course of a pass is an induction over
its steps. A failing command ends a pass between two steps.
-/

namespace BuildTool.Graph

variable {σ : Type}

/-- A target that a pass deals with. -/
structure Visit (σ : Type) where
  name : String
  /-- the latest of the times of what the target needs -/
  newest : Option Time
  /-- the state when the last dependency was done -/
  start : σ

namespace Visit

variable (site : Site σ) (g : Graph) (v : Visit σ)

/-- The target was stale when its dependencies were done. -/
def isStale : Bool := Graph.isStale (g.isForced v.name) (site.modified v.start v.name) v.newest

/-- What became of the target's commands, and the state after them. -/
def outcome : Except BuildError Unit × σ :=
  refresh site v.name (g.targetOf v.name) v.newest v.start

/-- The time of the target, read right after its commands. -/
def time : Time := (timeOf site v.name (v.outcome site g).2).1

/-- The state when the target was done. -/
def finish : σ := (timeOf site v.name (v.outcome site g).2).2

/-- The commands that ran, with the target they ran for. -/
def runs : List (String × String) :=
  if v.isStale site g then (g.commandsOf v.name).map fun command => (v.name, command) else []

/-- A visit runs the commands of a target that is stale, in their order. -/
theorem outcome_eq : v.outcome site g =
    if v.isStale site g then
      runCommands site v.name (g.commandsOf v.name) (site.note (v.name ++ " is stale") v.start)
    else (.ok (), site.note (v.name ++ " is up to date") v.start) := rfl

end Visit

/-- The steps that a pass is made of. -/
inductive Walk (site : Site σ) : Graph × σ → List (Visit σ) → Graph × σ → Prop
  | refl (st : Graph × σ) : Walk site st [] st
  | adopt {g : Graph} {s : σ} {name dependency : String} {visits : List (Visit σ)}
      {st : Graph × σ} :
      g.Needs name dependency → g.contains dependency = false →
      site.pathExists s dependency = true →
      Walk site (g.ensure dependency, s) visits st → Walk site (g, s) visits st
  | visit {g : Graph} {v : Visit σ} {visits : List (Visit σ)} {st : Graph × σ} :
      g.IsReady v.name → v.newest = g.newestOf v.name → (v.outcome site g).1 = .ok () →
      Walk site (g.modify v.name (·.doneAt (v.time site g)), v.finish site g) visits st →
      Walk site (g, v.start) (v :: visits) st

/-! ## Visits look only at recipes -/

theorem refresh_congr (site : Site σ) (name : String) {t u : Target} (h : u.recipe = t.recipe)
    (newest : Option Time) (s : σ) :
    refresh site name u newest s = refresh site name t newest s := by
  have hf : u.recipe.force = t.recipe.force := by rw [h]
  have hc : u.recipe.commands = t.recipe.commands := by rw [h]
  unfold refresh
  rw [show u.force = t.force from hf, show u.commands = t.commands from hc]

section

variable {site : Site σ} {g h : Graph} (same : SameRecipes g h) (v : Visit σ)
include same

theorem SameRecipes.outcome : v.outcome site h = v.outcome site g :=
  refresh_congr site v.name (same v.name) v.newest v.start

theorem SameRecipes.time : v.time site h = v.time site g := by
  rw [Visit.time, same.outcome, Visit.time]

theorem SameRecipes.isStale : v.isStale site h = v.isStale site g := by
  rw [Visit.isStale, same.isForced, Visit.isStale]

omit v in
theorem SameRecipes.runs : Visit.runs site h = Visit.runs site g := by
  funext v
  rw [Visit.runs, same.isStale, same.commandsOf, Visit.runs]

end

/-! ## What a walk keeps -/

section

variable {site : Site σ} {st st' : Graph × σ} {visits : List (Visit σ)}

theorem Walk.trans {more : List (Visit σ)} {st'' : Graph × σ} (w : Walk site st visits st')
    (w' : Walk site st' more st'') : Walk site st (visits ++ more) st'' := by
  induction w with
  | refl => exact w'
  | adopt hn hc he _ ih => exact .adopt hn hc he (ih w')
  | visit hr hv ho _ ih => exact .visit hr hv ho (ih w')

theorem Walk.sameRecipes (w : Walk site st visits st') : SameRecipes st.1 st'.1 := by
  induction w with
  | refl => exact .refl _
  | adopt _ _ _ _ ih => exact (sameRecipes_ensure _ _).trans ih
  | visit hr _ _ _ ih => exact (sameRecipes_doneAt hr.contains _).trans ih

theorem Walk.visiting (w : Walk site st visits st') : st'.1.visiting = st.1.visiting := by
  induction w with
  | refl => rfl
  | adopt _ _ _ _ ih => rw [ih, visiting_ensure]
  | visit _ _ _ _ ih => rw [ih, visiting_modify]

theorem Walk.contains (w : Walk site st visits st') {name : String}
    (h : st.1.contains name = true) : st'.1.contains name = true := by
  induction w with
  | refl => exact h
  | adopt _ _ _ _ ih => exact ih (by rw [contains_ensure, h, Bool.or_true])
  | visit _ _ _ _ ih => exact ih (by rw [contains_modify, h])

theorem Walk.not_contains (w : Walk site st visits st') {name : String}
    (h : st'.1.contains name = false) : st.1.contains name = false := by
  by_cases hc : st.1.contains name = true
  · rw [w.contains hc] at h
    cases h
  · exact Bool.eq_false_iff.mpr hc

theorem Walk.isSound (w : Walk site st visits st') (h : st.1.IsSound) : st'.1.IsSound := by
  induction w with
  | refl => exact h
  | adopt _ _ _ _ ih => exact ih (h.ensure _)
  | visit hr _ _ _ ih => exact ih (h.doneAt hr _)

/-- A target that is done is not touched again. -/
theorem Walk.targetOf_of_isResolved (w : Walk site st visits st') {name : String}
    (h : st.1.isResolved name = true) : st'.1.targetOf name = st.1.targetOf name := by
  induction w with
  | refl => rfl
  | adopt _ _ _ _ ih =>
    rw [ih (by rw [isResolved_ensure, h]), targetOf_ensure]
  | @visit g v _ _ hr _ _ _ ih =>
    have hne : name ≠ v.name := by
      rintro rfl
      rw [hr.unresolved] at h
      cases h
    rw [ih (by rw [isResolved_doneAt hr.contains, h, Bool.or_true]), targetOf_modify_of_ne hne]

theorem Walk.isResolved (w : Walk site st visits st') {name : String}
    (h : st.1.isResolved name = true) : st'.1.isResolved name = true := by
  rw [Graph.isResolved, w.targetOf_of_isResolved h]
  exact h

/-- What is done at the end was done before or has been visited. -/
theorem Walk.isResolved_iff (w : Walk site st visits st') (name : String) :
    st'.1.isResolved name = true ↔
      st.1.isResolved name = true ∨ name ∈ visits.map Visit.name := by
  induction w with
  | refl => simp
  | adopt _ _ _ _ ih => rw [ih, isResolved_ensure]
  | visit hr _ _ _ ih =>
    rw [ih, isResolved_doneAt hr.contains, Bool.or_eq_true, beq_iff_eq, List.map_cons,
      List.mem_cons]
    constructor
    · rintro ((h | h) | h)
      · exact Or.inr (Or.inl h)
      · exact Or.inl h
      · exact Or.inr (Or.inr h)
    · rintro (h | h | h)
      · exact Or.inl (Or.inr h)
      · exact Or.inl (Or.inl h)
      · exact Or.inr h

/-- Where a walk comes by a target, the target is ready, and the rest of the walk is one too. -/
theorem Walk.split (w : Walk site st visits st') {before after : List (Visit σ)} {v : Visit σ}
    (h : visits = before ++ v :: after) :
    ∃ g, Walk site st before (g, v.start) ∧ g.IsReady v.name ∧ v.newest = g.newestOf v.name ∧
      (v.outcome site g).1 = .ok () ∧
      Walk site (g.modify v.name (·.doneAt (v.time site g)), v.finish site g) after st' := by
  induction w generalizing before with
  | refl => cases before <;> cases h
  | adopt hn hc he _ ih =>
    obtain ⟨g, w₁, rest⟩ := ih h
    exact ⟨g, .adopt hn hc he w₁, rest⟩
  | @visit g u visits st hr hu ho w ih =>
    cases before with
    | nil =>
      obtain ⟨rfl, rfl⟩ := List.cons.inj h
      exact ⟨g, .refl _, hr, hu, ho, w⟩
    | cons b before =>
      obtain ⟨rfl, ht⟩ := List.cons.inj h
      obtain ⟨g', w₁, rest⟩ := ih ht
      exact ⟨g', .visit hr hu ho w₁, rest⟩

/-- A target is visited once, and not if it was done before. -/
theorem Walk.not_isResolved_of_mem (w : Walk site st visits st') {v : Visit σ} (hv : v ∈ visits) :
    st.1.isResolved v.name = false := by
  obtain ⟨before, after, h⟩ := List.append_of_mem hv
  obtain ⟨g, w₁, hr, -⟩ := w.split h
  by_cases hd : st.1.isResolved v.name = true
  · have := w₁.isResolved hd
    rw [hr.unresolved] at this
    cases this
  · exact Bool.eq_false_iff.mpr hd

theorem Walk.nodup (w : Walk site st visits st') : (visits.map Visit.name).Nodup := by
  induction w with
  | refl => exact List.nodup_nil
  | adopt _ _ _ _ ih => exact ih
  | @visit g v visits _ hr _ _ w ih =>
    rw [List.map_cons, List.nodup_cons]
    refine ⟨?_, ih⟩
    intro hm
    obtain ⟨u, hu, he⟩ := List.mem_map.mp hm
    have := w.not_isResolved_of_mem hu
    rw [he, isResolved_doneAt hr.contains] at this
    simp at this

/-- A visited target keeps the time it got. -/
theorem Walk.modifiedAt?_of_mem (w : Walk site st visits st') {v : Visit σ} (hv : v ∈ visits) :
    st'.1.modifiedAt? v.name = some (v.time site st.1) := by
  obtain ⟨before, after, h⟩ := List.append_of_mem hv
  obtain ⟨g, w₁, hr, -, -, w₂⟩ := w.split h
  have hd : (g.modify v.name (·.doneAt (v.time site g))).isResolved v.name = true := by
    rw [isResolved_doneAt hr.contains]
    simp
  rw [modifiedAt?, w₂.targetOf_of_isResolved hd, targetOf_modify_self hr.contains,
    w₁.sameRecipes.time]
  rfl

end

/-- Marks do not matter to the steps of a walk. -/
theorem Walk.withVisiting {site : Site σ} {st st' : Graph × σ} {visits : List (Visit σ)}
    (w : Walk site st visits st') (marks : List String) :
    Walk site (st.1.withVisiting marks, st.2) visits (st'.1.withVisiting marks, st'.2) := by
  induction w with
  | refl => exact .refl _
  | adopt hn hc he _ ih =>
    rw [withVisiting_ensure] at ih
    exact .adopt hn hc he ih
  | @visit g v _ _ hr hv ho _ ih =>
    exact .visit (g := g.withVisiting marks) ⟨hr.contains, hr.unresolved, hr.needed⟩ hv ho ih

end BuildTool.Graph
