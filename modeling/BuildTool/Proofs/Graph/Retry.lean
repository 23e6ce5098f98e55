import BuildTool.Proofs.Graph.Course
import BuildTool.Proofs.Graph.History

/-!
# Targets whose commands failed

A target whose commands failed is not done, and stays so until a pass comes to it again with all
that it needs done. What that pass does is up to the times of files, as with any other target:

    out <- touch out     first pass    runs touch, then false, which fails
    out <- false         second pass   out is there and not older than anything: up to date

If the target is stale, its commands are run again from the first, and it is done only if all of
them succeed. The times are as the failed commands, and whoever else, left them.
-/

namespace BuildTool.Graph

variable {σ : Type}

/-- In a move a pass comes to a target with all that it needs done: it asks for a command of the
target, or marks the target as done. -/
def Move.Handles (t : String) : Move σ → Graph × σ → Prop
  | .pass site name, (g, s) =>
    (∃ a ∈ g.attempts site name s, a.target = t) ∨
      g.isResolved t = false ∧ (g.resolve site name s).2.1.isResolved t = true
  | _, _ => False

/-- No pass among some moves comes to a target. -/
def Unhandled (t : String) : List (Move σ) → Graph × σ → Prop
  | [], _ => True
  | move :: rest, st => ¬move.Handles t st ∧ Unhandled t rest (move.apply st)

section

variable {site : Site σ} {name : String} {g : Graph} {s : σ} {tries : List (Visit σ)}
  (hc : Course site name g s tries)
include hc

/-- The target of a try is done after the pass if the try does not fail. -/
theorem Course.isResolved_iff {v : Visit σ} (hv : v ∈ tries) :
    (g.resolve site name s).2.1.isResolved v.name = true ↔ (v.outcome site g).1 = .ok () := by
  rw [hc.resolved]
  constructor
  · rintro (hr | ⟨u, hu, he, ho⟩)
    · rw [hc.unresolved v hv] at hr
      cases hr
    · exact List.inj_on_of_nodup_map hc.nodup hu hv he ▸ ho
  · intro ho
    exact Or.inr ⟨v, hv, rfl, ho⟩

/-- A pass comes to the targets that it tries. -/
theorem Course.mem_iff (t : String) :
    t ∈ tries.map Visit.name ↔ (Move.pass site name).Handles t (g, s) := by
  constructor
  · intro hm
    obtain ⟨v, hv, rfl⟩ := List.mem_map.mp hm
    have hasked := hc.tried v hv
    generalize hf : ((g.attempts site name s).filter fun a => a.target == v.name) = asked at hasked
    cases hasked with
    | upToDate _ ho => exact Or.inr ⟨hc.unresolved v hv, (hc.isResolved_iff hv).mpr ho⟩
    | built _ ho => exact Or.inr ⟨hc.unresolved v hv, (hc.isResolved_iff hv).mpr ho⟩
    | @failed e done rest c =>
      have hmem : (⟨v.name, c, false⟩ : Attempt) ∈
          (g.attempts site name s).filter fun a => a.target == v.name := by
        rw [hf]
        simp
      exact Or.inl ⟨_, (List.mem_filter.mp hmem).1, rfl⟩
  · intro hh
    by_contra hn
    rcases hh with ⟨a, ha, rfl⟩ | ⟨hno, hr⟩
    · have hmem : a ∈ (g.attempts site name s).filter fun b => b.target == a.target :=
        List.mem_filter.mpr ⟨ha, beq_self_eq_true _⟩
      rw [hc.others _ hn] at hmem
      cases hmem
    · rcases (hc.resolved t).mp hr with hr | ⟨v, hv, rfl, -⟩
      · rw [hno] at hr
        cases hr
      · exact hn (List.mem_map_of_mem hv)

/-- A target of which a command failed has that command and is not done after the pass. -/
theorem Course.of_failed {t c : String} (hf : ⟨t, c, false⟩ ∈ g.attempts site name s) :
    c ∈ g.commandsOf t ∧ (g.resolve site name s).2.1.isResolved t = false := by
  obtain ⟨v, hv, rfl⟩ := List.mem_map.mp ((hc.mem_iff t).mpr (Or.inl ⟨_, hf, rfl⟩))
  have hmem : (⟨v.name, c, false⟩ : Attempt) ∈
      (g.attempts site name s).filter fun a => a.target == v.name :=
    List.mem_filter.mpr ⟨hf, beq_self_eq_true _⟩
  have hasked := hc.tried v hv
  generalize ((g.attempts site name s).filter fun a => a.target == v.name) = asked
    at hasked hmem
  cases hasked with
  | upToDate => cases hmem
  | built => simp at hmem
  | @failed e done rest c' _ ho hcommands =>
    have he : c = c' := by simpa using hmem
    refine ⟨by rw [hcommands, he]; simp, ?_⟩
    refine Bool.eq_false_iff.mpr fun hr => ?_
    rw [(hc.isResolved_iff hv).mp hr] at ho
    cases ho

/-- A stale target that is tried starts its commands from the first and is done if all succeed. -/
theorem Course.restarts {v : Visit σ} (hv : v ∈ tries) (hs : v.isStale site g = true) :
    let asked := (g.attempts site name s).filter fun a => a.target == v.name
    asked.head?.map Attempt.command = (g.commandsOf v.name).head? ∧
      ((g.resolve site name s).2.1.isResolved v.name = true ↔
        asked = (g.commandsOf v.name).map fun c => ⟨v.name, c, true⟩) := by
  intro asked
  have hasked := hc.tried v hv
  rw [hc.isResolved_iff hv]
  change v.Tries site g asked at hasked
  generalize asked = l at hasked
  cases hasked with
  | upToDate hno =>
    rw [hs] at hno
    cases hno
  | built _ ho =>
    refine ⟨?_, by simp [ho]⟩
    cases g.commandsOf v.name with
    | nil => rfl
    | cons c rest => rfl
  | @failed e done rest c _ ho hlist =>
    rw [hlist]
    constructor
    · cases done with
      | nil => rfl
      | cons d done => rfl
    · rw [ho]
      constructor
      · exact nofun
      · intro he
        rw [List.map_append] at he
        have := (List.append_inj he (by simp)).2
        simp at this

/-- A target that is tried and not stale is done, and nothing is run for it. -/
theorem Course.skips {v : Visit σ} (hv : v ∈ tries) (hs : v.isStale site g = false) :
    ((g.attempts site name s).filter fun a => a.target == v.name) = [] ∧
      (g.resolve site name s).2.1.isResolved v.name = true := by
  have hasked := hc.tried v hv
  rw [hc.isResolved_iff hv]
  generalize ((g.attempts site name s).filter fun a => a.target == v.name) = asked at hasked ⊢
  cases hasked with
  | upToDate _ ho => exact ⟨rfl, ho⟩
  | built hyes =>
    rw [hs] at hyes
    cases hyes
  | failed hyes =>
    rw [hs] at hyes
    cases hyes

end

/-- A target that is not done stays so as long as no pass comes to it. -/
theorem isResolved_after {t : String} (moves : List (Move σ)) {st : Graph × σ}
    (hr : st.1.isResolved t = false) (hun : Unhandled t moves st) :
    (after moves st).1.isResolved t = false := by
  induction moves generalizing st with
  | nil => exact hr
  | cons move rest ih =>
    obtain ⟨hno, hrest⟩ := hun
    refine ih ?_ hrest
    change (move.apply st).1.isResolved t = false
    obtain ⟨g, s⟩ := st
    cases move with
    | meanwhile => exact hr
    | pass site name =>
      refine Bool.eq_false_iff.mpr fun hd => ?_
      exact hno (Or.inr ⟨hr, hd⟩)
    | look modified name =>
      rw [Move.apply_look]
      exact hr
    | unresolve => exact isResolved_unresolveAll g t

/-- A target of which a command failed is not done after that pass, nor after more moves in which no
pass comes to it. In the next pass it still is not if the pass does not come to it either. If the
pass does, everything the target needs being done then, what happens is up to the target being
stale, that is forced, without a time or with one before that of something it needs: if it is, the
target's commands are run again from the first, and it is done exactly if all of them succeed; if it
is not, nothing is run and the target is done. -/
theorem resolve_after_failure {site : Site σ} {name t c : String} {g : Graph} {s : σ}
    (hf : ⟨t, c, false⟩ ∈ g.attempts site name s) {moves : List (Move σ)}
    (hun : Unhandled t moves (g.resolve site name s).2) (next : Site σ) (goal : String) :
    let st := after moves (g.resolve site name s).2
    let h := (st.1.resolve next goal st.2).2.1
    let asked := (st.1.attempts next goal st.2).filter fun a => a.target == t
    st.1.isResolved t = false ∧
      ∃ tries, Course next goal st.1 st.2 tries ∧
        (t ∉ tries.map Visit.name → h.isResolved t = false ∧ asked = []) ∧
        ∀ v ∈ tries, v.name = t →
          (v.isStale next st.1 = true →
            (∃ first, (g.commandsOf t).head? = some first ∧
              asked.head?.map Attempt.command = some first) ∧
            (h.isResolved t = true ↔ asked = (g.commandsOf t).map fun c => ⟨t, c, true⟩)) ∧
          (v.isStale next st.1 = false → asked = [] ∧ h.isResolved t = true) := by
  intro st h asked
  obtain ⟨tries₀, hc₀⟩ := exists_course site name g s
  obtain ⟨hmem, hno⟩ := hc₀.of_failed hf
  have hst : st.1.isResolved t = false := isResolved_after moves hno hun
  obtain ⟨_, _, w, -⟩ := resolve_isPass site name g s
  have same : SameRecipes g st.1 :=
    w.sameRecipes.trans (after_keeps moves (g.resolve site name s).2).1
  obtain ⟨tries, hc⟩ := exists_course next goal st.1 st.2
  refine ⟨hst, tries, hc, ?_, ?_⟩
  · intro hn
    refine ⟨Bool.eq_false_iff.mpr fun hr => ?_, hc.others t hn⟩
    exact hn ((hc.mem_iff t).mpr (Or.inr ⟨hst, hr⟩))
  · rintro v hv rfl
    constructor
    · intro hs
      obtain ⟨hhead, hdone⟩ := hc.restarts hv hs
      rw [same.commandsOf] at hhead hdone
      obtain ⟨first, rest, hfirst⟩ := List.exists_cons_of_ne_nil (List.ne_nil_of_mem hmem)
      rw [hfirst, List.head?_cons] at hhead
      exact ⟨⟨first, by rw [hfirst, List.head?_cons], hhead⟩, hdone⟩
    · intro hs
      exact hc.skips hv hs

/-- A target whose second command fails after the first has made its file. -/
def halfBuilt : Graph where
  targets := [("out", { name := "out", commands := ["touch out", "false"] })]

/-- The file that the failed commands leave is all that the next pass looks at. -/
theorem failed_target_is_up_to_date :
    let first := halfBuilt.resolve .shelf "out" []
    halfBuilt.attempts .shelf "out" [] = [⟨"out", "touch out", true⟩, ⟨"out", "false", false⟩] ∧
      first.2.1.isResolved "out" = false ∧
      (first.2.1.resolve .shelf "out" first.2.2).1 = .ok () ∧
      first.2.1.attempts .shelf "out" first.2.2 = [] ∧
      (first.2.1.resolve .shelf "out" first.2.2).2.1.isResolved "out" = true := by
  decide +kernel

/-- When the file is deleted before the next pass, that pass runs the commands again. -/
theorem resolve_after_failure_halfBuilt :
    let st := after [.meanwhile fun _ => [], .unresolve] (halfBuilt.resolve .shelf "out" []).2
    ⟨"out", "false", false⟩ ∈ halfBuilt.attempts .shelf "out" [] ∧
      st.1.attempts .shelf "out" st.2 = [⟨"out", "touch out", true⟩, ⟨"out", "false", false⟩] ∧
      st.1.isResolved "out" = false ∧
      ∃ tries, Course .shelf "out" st.1 st.2 tries ∧ "out" ∈ tries.map Visit.name := by
  intro st
  have hf : ⟨"out", "false", false⟩ ∈ halfBuilt.attempts .shelf "out" [] := by decide +kernel
  have hasked : st.1.attempts .shelf "out" st.2 =
      [⟨"out", "touch out", true⟩, ⟨"out", "false", false⟩] := by
    decide +kernel
  have hun : Unhandled "out" [.meanwhile fun _ => [], .unresolve]
      (halfBuilt.resolve .shelf "out" []).2 := ⟨id, id, True.intro⟩
  obtain ⟨hno, tries, hc, hothers, -⟩ := resolve_after_failure hf hun .shelf "out"
  refine ⟨hf, hasked, hno, tries, hc, ?_⟩
  by_contra hn
  have hnone := (hothers hn).2
  change (st.1.attempts .shelf "out" st.2).filter _ = [] at hnone
  rw [hasked] at hnone
  cases hnone

end BuildTool.Graph
