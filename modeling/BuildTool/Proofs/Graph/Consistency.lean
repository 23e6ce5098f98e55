import BuildTool.Proofs.Graph.History

/-!
# What holds of a graph at all times

Whatever is done with the graph of a script, between two calls no name is marked, every target
stands under its own name, and a target that is done has a time and stands on targets that are
there and done:

    declare    keeps it: no target is done
    adopt      keeps it: an empty target of the name, not done
    visit      keeps it: the target gets a time, and all that it needs is done
    unresolve  keeps it: no target is done

A pass is a walk of the steps `adopt` and `visit`, however it ends.
-/

namespace BuildTool.Graph

variable {σ : Type}

/-- What holds of a graph between two calls. -/
structure IsConsistent (g : Graph) : Prop where
  unmarked : g.visiting = []
  named : ∀ name, (g.targetOf name).name = name
  timed : ∀ name, g.isResolved name = true → ∃ time, g.modifiedAt? name = some time
  sound : g.IsSound

/-- A graph without a target that is done is consistent if its targets have their names. -/
theorem IsFresh.isConsistent {g : Graph} (hg : g.IsFresh)
    (hn : ∀ name, (g.targetOf name).name = name) : g.IsConsistent where
  unmarked := hg.unmarked
  named := hn
  timed name hr := by
    rw [hg.unresolved name] at hr
    cases hr
  sound := isSound_of_none_resolved hg.unresolved

/-! ## Steps -/

section

variable {g : Graph} (hg : g.IsConsistent)
include hg

theorem IsConsistent.ensure (name : String) : (g.ensure name).IsConsistent where
  unmarked := by rw [visiting_ensure, hg.unmarked]
  named other := by rw [targetOf_ensure, hg.named]
  timed other hr := by
    rw [isResolved_ensure] at hr
    rw [modifiedAt?_ensure]
    exact hg.timed other hr
  sound := hg.sound.ensure name

theorem IsConsistent.doneAt {name : String} (hready : g.IsReady name) (time : Time) :
    (g.modify name (·.doneAt time)).IsConsistent where
  unmarked := hg.unmarked
  named other := by
    by_cases he : other = name
    · rw [he, targetOf_modify_self hready.contains]
      exact hg.named name
    · rw [targetOf_modify_of_ne he]
      exact hg.named other
  timed other hr := by
    unfold modifiedAt?
    by_cases he : other = name
    · rw [he, targetOf_modify_self hready.contains]
      exact ⟨time, rfl⟩
    · rw [isResolved, targetOf_modify_of_ne he] at hr
      rw [targetOf_modify_of_ne he]
      exact hg.timed other hr
  sound := hg.sound.doneAt hready time

theorem IsConsistent.unresolveAll : g.unresolveAll.IsConsistent := by
  have hf : g.unresolveAll.IsFresh := ⟨isResolved_unresolveAll g, hg.unmarked⟩
  refine hf.isConsistent fun name => ?_
  rw [targetOf_unresolveAll]
  exact hg.named name

end

/-! ## Runs -/

theorem Walk.isConsistent {site : Site σ} {st st' : Graph × σ} {visits : List (Visit σ)}
    (w : Walk site st visits st') (hst : st.1.IsConsistent) : st'.1.IsConsistent := by
  induction w with
  | refl => exact hst
  | adopt _ _ _ _ ih => exact ih (hst.ensure _)
  | visit hr _ _ _ ih => exact ih (hst.doneAt hr _)

theorem IsConsistent.apply {st : Graph × σ} (hst : st.1.IsConsistent) (move : Move σ) :
    (move.apply st).1.IsConsistent := by
  obtain ⟨g, s⟩ := st
  cases move with
  | meanwhile => exact hst
  | pass site name =>
    obtain ⟨visits, s', w, -⟩ := resolve_isPass site name g s
    exact w.isConsistent hst
  | look modified name =>
    rw [Move.apply_look]
    exact hst
  | unresolve => exact hst.unresolveAll

theorem IsConsistent.after (moves : List (Move σ)) {st : Graph × σ} (hst : st.1.IsConsistent) :
    (after moves st).1.IsConsistent := by
  induction moves generalizing st with
  | nil => exact hst
  | cons move rest ih => exact ih (hst.apply move)

/-- The graph of a script is consistent. -/
theorem isConsistent_of_run {τ : Type} (say : String → τ → Except BuildError τ) (script : String)
    (plan : Plan) (out : τ) :
    (Script.run say script ({ plan with graph := {} }, out)).2.1.graph.IsConsistent := by
  have hfresh : (Script.run say script ({ plan with graph := {} }, out)).2.1.graph.IsFresh :=
    isFresh_of_run say script isFresh_empty
  refine hfresh.isConsistent ?_
  exact graph_of_run (P := fun g => ∀ name, (g.targetOf name).name = name)
    (fun g h hd hg name => (hd.targetOf name).1.trans (hg name)) script fun _ => rfl

/-- Whatever passes over the graph of a script, looks at its times and new beginnings there have
been, and however each of them ended: no name is marked, every target stands under its own name,
and every target that is done has a time, and all that it needs is there and done. -/
theorem after_run_isConsistent {τ : Type} (say : String → τ → Except BuildError τ)
    (script : String) (plan : Plan) (out : τ) (moves : List (Move σ)) (s : σ) :
    let g := (Script.run say script ({ plan with graph := {} }, out)).2.1.graph
    let k := (after moves (g, s)).1
    k.visiting = [] ∧ ∀ name t, k.find? name = some t → t.name = name ∧
      (t.resolved = true → (∃ time, t.modifiedAt = some time) ∧
        ∀ d ∈ t.dependencies, ∃ u, k.find? d = some u ∧ u.resolved = true) := by
  intro g k
  have hk : k.IsConsistent := (isConsistent_of_run say script plan out).after moves
  refine ⟨hk.unmarked, ?_⟩
  intro name t ht
  have htarget : k.targetOf name = t := by rw [targetOf, ht, Option.getD_some]
  refine ⟨htarget ▸ hk.named name, ?_⟩
  intro hdone
  have hr : k.isResolved name = true := by rw [isResolved, htarget, hdone]
  constructor
  · have := hk.timed name hr
    rwa [modifiedAt?, htarget] at this
  · intro d hd
    have hn : k.Needs name d := by rwa [Needs, dependenciesOf, htarget]
    have hrd := hk.sound.closed name d hr hn
    exact ⟨k.targetOf d, find?_of_contains (contains_of_isResolved hrd), hrd⟩

end BuildTool.Graph
