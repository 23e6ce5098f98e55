import BuildTool.Proofs.Graph.Staleness
import Mathlib.Data.List.Nodup

/-!
# The course of a pass

A pass, however it ends, is a row of tries, one for each target whose dependencies were all done
when it came to it:

    up to date     nothing is run, and the target is done
    stale, built   all commands are run, and the target is done
    stale, failed  the commands up to one that fails are run, and the pass ends there

A target that is not tried is left as it was, and nothing is run for it.
-/

namespace BuildTool.Graph

variable {σ : Type}

/-- The commands that a try asks for, by what becomes of it. -/
inductive Visit.Tries (site : Site σ) (g : Graph) (v : Visit σ) : List Attempt → Prop
  | upToDate : v.isStale site g = false → (v.outcome site g).1 = .ok () → Tries site g v []
  | built : v.isStale site g = true → (v.outcome site g).1 = .ok () →
      Tries site g v ((g.commandsOf v.name).map fun c => ⟨v.name, c, true⟩)
  | failed {e : BuildError} {done rest : List String} {c : String} :
      v.isStale site g = true → (v.outcome site g).1 = .error e →
      g.commandsOf v.name = done ++ c :: rest →
      Tries site g v ((done.map fun c => ⟨v.name, c, true⟩) ++ [⟨v.name, c, false⟩])

/-- Tries of which the first begins in a state, and each other where the one before it ended. -/
def Follow (site : Site σ) (g : Graph) : σ → List (Visit σ) → Prop
  | _, [] => True
  | s, v :: rest => v.start = s ∧ Follow site g (v.finish site g) rest

/-- The tries of a pass for `name` from `g` and `s`. -/
structure Course (site : Site σ) (name : String) (g : Graph) (s : σ) (tries : List (Visit σ)) :
    Prop where
  follow : Follow site g s tries
  /-- a target is tried once -/
  nodup : (tries.map Visit.name).Nodup
  reaches : ∀ v ∈ tries, g.Reaches name v.name
  unresolved : ∀ v ∈ tries, g.isResolved v.name = false
  /-- all that a target needs is done when it is tried, and keeps its time -/
  needed : ∀ v ∈ tries, ∀ d, g.Needs v.name d →
    (g.resolve site name s).2.1.isResolved d = true
  stale : ∀ v ∈ tries, v.isStale site g = true ↔
    g.isForced v.name = true ∨ site.modified v.start v.name = none ∨
      ∃ own, site.modified v.start v.name = some own ∧ ∃ d, g.Needs v.name d ∧
        IsAfter own ((g.resolve site name s).2.1.modifiedAt? d)
  tried : ∀ v ∈ tries,
    v.Tries site g ((g.attempts site name s).filter fun a => a.target == v.name)
  others : ∀ t, t ∉ tries.map Visit.name →
    ((g.attempts site name s).filter fun a => a.target == t) = []
  resolved : ∀ t, (g.resolve site name s).2.1.isResolved t = true ↔
    g.isResolved t = true ∨ ∃ v ∈ tries, v.name = t ∧ (v.outcome site g).1 = .ok ()

/-! ## Parts of a course -/

theorem Chain.follow {site : Site σ} {g : Graph} {visits : List (Visit σ)} {s s' : σ}
    (hc : Chain site g s visits s') {last : List (Visit σ)} (hl : Follow site g s' last) :
    Follow site g s (visits ++ last) := by
  induction visits generalizing s with
  | nil =>
    obtain rfl := hc
    exact hl
  | cons v rest ih =>
    obtain ⟨hs, -, hrest⟩ := hc
    exact ⟨hs, ih hrest⟩

/-- A target that is ready is stale as the times of what it needs are, then and later. -/
theorem IsReady.isStale_iff {site : Site σ} {g k h : Graph} {v : Visit σ}
    (same : SameRecipes g k) (hready : k.IsReady v.name) (hnew : v.newest = k.newestOf v.name)
    (hlater : ∀ d, k.isResolved d = true → h.modifiedAt? d = k.modifiedAt? d) :
    v.isStale site g = true ↔
      g.isForced v.name = true ∨ site.modified v.start v.name = none ∨
        ∃ own, site.modified v.start v.name = some own ∧ ∃ d, g.Needs v.name d ∧
          IsAfter own (h.modifiedAt? d) := by
  have hafter : ∀ own, IsAfter own v.newest ↔
      ∃ d, g.Needs v.name d ∧ IsAfter own (h.modifiedAt? d) := by
    intro own
    rw [hnew, isAfter_newestOf]
    constructor
    · rintro ⟨d, hn, ha⟩
      rw [← hlater d (hready.needed d hn)] at ha
      rw [same.needs] at hn
      exact ⟨d, hn, ha⟩
    · rintro ⟨d, hn, ha⟩
      rw [← same.needs] at hn
      rw [hlater d (hready.needed d hn)] at ha
      exact ⟨d, hn, ha⟩
  unfold Visit.isStale
  rw [Graph.isStale_iff]
  simp only [hafter]

section

variable {site : Site σ} {g : Graph} {visits : List (Visit σ)}

theorem filter_attempts (extra : List Attempt) (t : String) :
    ((visits.flatMap (Visit.runs site g)).map Attempt.ofRun ++ extra).filter
        (fun a => a.target == t) =
      ((visits.flatMap (Visit.runs site g)).filter (fun run => run.1 == t)).map Attempt.ofRun ++
        extra.filter fun a => a.target == t := by
  rw [List.filter_append, List.filter_map]
  rfl

theorem Visit.tries_of_ok {v : Visit σ} (ho : (v.outcome site g).1 = .ok ()) :
    v.Tries site g ((v.runs site g).map Attempt.ofRun) := by
  unfold runs
  by_cases hs : v.isStale site g = true
  · rw [if_pos hs, List.map_map]
    exact .built hs ho
  · rw [if_neg hs]
    exact .upToDate (Bool.eq_false_iff.mpr hs) ho

/-- Only a try at a stale target fails. -/
theorem Visit.isStale_of_error {v : Visit σ} {e : BuildError}
    (ho : (v.outcome site g).1 = .error e) : v.isStale site g = true := by
  by_cases hs : v.isStale site g = true
  · exact hs
  · rw [outcome_eq, if_neg hs] at ho
    cases ho

end

section

variable {site : Site σ} {st st' : Graph × σ} {visits : List (Visit σ)} {v : Visit σ}
  (w : Walk site st visits st') (hv : v ∈ visits)
include w hv

/-- In a walk a target is visited when it is ready, with what it needs as it will be left. -/
theorem Walk.exists_ready : ∃ k, SameRecipes st.1 k ∧ k.IsReady v.name ∧
    v.newest = k.newestOf v.name ∧ (v.outcome site st.1).1 = .ok () ∧
    ∀ d, k.isResolved d = true → st'.1.targetOf d = k.targetOf d := by
  obtain ⟨before, after, h⟩ := List.append_of_mem hv
  obtain ⟨k, w₁, hr, hnew, ho, w₂⟩ := w.split h
  rw [← w₁.sameRecipes.outcome v]
  refine ⟨k, w₁.sameRecipes, hr, hnew, ho, ?_⟩
  intro d hd
  have hne : d ≠ v.name := by
    rintro rfl
    rw [hr.unresolved] at hd
    cases hd
  have hd' : (k.modify v.name (·.doneAt (v.time site k))).isResolved d = true := by
    rw [isResolved_doneAt hr.contains, hd, Bool.or_true]
  rw [w₂.targetOf_of_isResolved hd', targetOf_modify_of_ne hne]

end

/-! ## The course of every pass -/

/-- A try that fails after a walk to `h` and `s'`, and the commands that it asks for. -/
structure Fails (site : Site σ) (name : String) (g h : Graph) (s' : σ) (v : Visit σ)
    (asked : List Attempt) : Prop where
  start : v.start = s'
  reaches : g.Reaches name v.name
  ready : h.IsReady v.name
  newest : v.newest = h.newestOf v.name
  error : ∃ e, (v.outcome site g).1 = .error e
  tries : v.Tries site g asked
  target : ∀ a ∈ asked, a.target = v.name

section

variable {site : Site σ} {name : String} {g h : Graph} {s s' : σ} {visits last : List (Visit σ)}
  {asked : List Attempt} (w : Walk site (g, s) visits (h, s'))
  (hlast : last = [] ∧ asked = [] ∨ ∃ v, last = [v] ∧ Fails site name g h s' v asked)
include w hlast

theorem Walk.nodup_tries : ((visits ++ last).map Visit.name).Nodup := by
  rcases hlast with ⟨rfl, -⟩ | ⟨v, rfl, hf⟩
  · rw [List.append_nil]
    exact w.nodup
  · rw [List.map_append, List.nodup_append]
    refine ⟨w.nodup, List.nodup_singleton _, ?_⟩
    rintro t ht u hu rfl
    have hdone := (w.isResolved_iff t).mpr (Or.inr ht)
    rw [List.mem_singleton.mp hu, hf.ready.unresolved] at hdone
    cases hdone

/-- A try is at a target that is ready, with what it needs as it will be left. -/
theorem Walk.exists_ready_of_mem {v : Visit σ} (hv : v ∈ visits ++ last) :
    ∃ k, SameRecipes g k ∧ k.IsReady v.name ∧ v.newest = k.newestOf v.name ∧
      ∀ d, k.isResolved d = true → h.targetOf d = k.targetOf d := by
  rcases List.mem_append.mp hv with hv | hv
  · obtain ⟨k, same, hr, hnew, -, hlater⟩ := w.exists_ready hv
    exact ⟨k, same, hr, hnew, hlater⟩
  · rcases hlast with ⟨rfl, -⟩ | ⟨u, rfl, hf⟩
    · cases hv
    · obtain rfl := List.mem_singleton.mp hv
      exact ⟨h, w.sameRecipes, hf.ready, hf.newest, fun _ _ => rfl⟩

/-- What the last try asks for shows only with its target. -/
theorem Walk.filter_asked (t : String) :
    (((visits.flatMap (Visit.runs site g)).map Attempt.ofRun ++ asked).filter
      fun a => a.target == t) =
        if t ∈ last.map Visit.name then asked
        else ((visits.flatMap (Visit.runs site g)).filter
          fun run => run.1 == t).map Attempt.ofRun := by
  rw [filter_attempts]
  rcases hlast with ⟨rfl, rfl⟩ | ⟨v, rfl, hf⟩
  · simp
  · by_cases he : t = v.name
    · subst he
      have hn : v.name ∉ visits.map Visit.name := by
        intro hm
        have hdone := (w.isResolved_iff v.name).mpr (Or.inr hm)
        rw [hf.ready.unresolved] at hdone
        cases hdone
      have hself : (asked.filter fun a => a.target == v.name) = asked :=
        List.filter_eq_self.mpr fun a ha => by rw [hf.target a ha, beq_self_eq_true]
      rw [filter_flatMap_runs_eq_nil hn, hself]
      simp
    · have hnil : (asked.filter fun a => a.target == t) = [] := by
        refine List.filter_eq_nil_iff.mpr fun a ha hb => he ?_
        rw [← eq_of_beq hb, hf.target a ha]
      simp [hnil, he]

/-- A walk, with a try after it that fails or with none, is the course of a pass that comes to the
same graph and asks for the same commands. -/
theorem Walk.course (hreach : ∀ v ∈ visits, g.Reaches name v.name)
    (hend : (g.resolve site name s).2.1 = h)
    (hlog : g.attempts site name s =
      (visits.flatMap (Visit.runs site g)).map Attempt.ofRun ++ asked) :
    Course site name g s (visits ++ last) where
  follow := by
    refine w.chain.follow ?_
    rcases hlast with ⟨rfl, -⟩ | ⟨v, rfl, hf⟩
    · exact True.intro
    · exact ⟨hf.start, True.intro⟩
  nodup := w.nodup_tries hlast
  reaches v hv := by
    rcases List.mem_append.mp hv with hv | hv
    · exact hreach v hv
    · rcases hlast with ⟨rfl, -⟩ | ⟨u, rfl, hf⟩
      · cases hv
      · exact List.mem_singleton.mp hv ▸ hf.reaches
  unresolved v hv := by
    rcases List.mem_append.mp hv with hv | hv
    · exact w.not_isResolved_of_mem hv
    · rcases hlast with ⟨rfl, -⟩ | ⟨u, rfl, hf⟩
      · cases hv
      · obtain rfl := List.mem_singleton.mp hv
        refine Bool.eq_false_iff.mpr fun hd => ?_
        have hdone : h.isResolved v.name = true := w.isResolved hd
        rw [hf.ready.unresolved] at hdone
        cases hdone
  needed v hv d hn := by
    obtain ⟨k, same, hready, -, hlater⟩ := w.exists_ready_of_mem hlast hv
    rw [← same.needs] at hn
    have hd := hready.needed d hn
    rw [hend]
    change (h.targetOf d).resolved = true
    rw [hlater d hd]
    exact hd
  stale v hv := by
    obtain ⟨k, same, hready, hnew, hlater⟩ := w.exists_ready_of_mem hlast hv
    rw [hend]
    exact hready.isStale_iff same hnew fun d hd => congrArg Target.modifiedAt (hlater d hd)
  tried v hv := by
    rw [hlog, w.filter_asked hlast]
    by_cases hm : v.name ∈ last.map Visit.name
    · rw [if_pos hm]
      rcases hlast with ⟨rfl, -⟩ | ⟨u, rfl, hf⟩
      · cases hm
      · have hu : v = u := List.inj_on_of_nodup_map (w.nodup_tries (Or.inr ⟨u, rfl, hf⟩)) hv
          (by simp) (List.mem_singleton.mp hm)
        exact hu ▸ hf.tries
    · rw [if_neg hm]
      have hv' : v ∈ visits :=
        (List.mem_append.mp hv).resolve_right fun h => hm (List.mem_map_of_mem h)
      obtain ⟨-, -, -, -, ho, -⟩ := w.exists_ready hv'
      rw [filter_flatMap_runs w.nodup hv']
      exact Visit.tries_of_ok ho
  others t ht := by
    rw [List.map_append, List.mem_append, not_or] at ht
    rw [hlog, w.filter_asked hlast, if_neg ht.2, filter_flatMap_runs_eq_nil ht.1, List.map_nil]
  resolved t := by
    rw [hend, show h.isResolved t = true ↔ _ from w.isResolved_iff t]
    refine or_congr Iff.rfl ?_
    constructor
    · intro hm
      obtain ⟨v, hv, rfl⟩ := List.mem_map.mp hm
      obtain ⟨-, -, -, -, ho, -⟩ := w.exists_ready hv
      exact ⟨v, List.mem_append_left _ hv, rfl, ho⟩
    · rintro ⟨v, hv, rfl, ho⟩
      rcases List.mem_append.mp hv with hv | hv
      · exact List.mem_map_of_mem hv
      · rcases hlast with ⟨rfl, -⟩ | ⟨u, rfl, hf⟩
        · cases hv
        · obtain rfl := List.mem_singleton.mp hv
          obtain ⟨e, he⟩ := hf.error
          rw [he] at ho
          cases ho

end

/-- Every pass has a course. -/
theorem exists_course (site : Site σ) (name : String) (g : Graph) (s : σ) :
    ∃ tries, Course site name g s tries := by
  have hview := site.recording_isView
  have hrec := resolve_recording site name g s []
  have hp := resolve_isPass site.recording name g (s, [])
  have hlog : g.attempts site name s = (g.resolve site.recording name (s, [])).2.2.2 := rfl
  generalize g.resolve site.recording name (s, []) = out at hp hrec hlog
  obtain ⟨result, h, s₁, log⟩ := out
  obtain ⟨visits, s', w, hreach, hends⟩ := hp
  have hend : (g.resolve site name s).2.1 = h := by rw [hrec]; rfl
  have hruns : s'.2 =
      ((visits.map (Visit.view Prod.fst)).flatMap (Visit.runs site g)).map Attempt.ofRun := by
    rw [show s'.2 = _ from w.record, List.nil_append, List.flatMap_map]
    simp only [runs_view hview]
  have hreach' : ∀ v ∈ visits.map (Visit.view Prod.fst), g.Reaches name v.name := by
    intro v hv
    obtain ⟨u, hu, rfl⟩ := List.mem_map.mp hv
    exact (hreach u hu).1
  have w' : Walk site (g, s) (visits.map (Visit.view Prod.fst)) (h, s'.1) := w.view hview
  have hdone : s' = (s₁, log) → ∃ tries, Course site name g s tries := by
    rintro rfl
    exact ⟨_, w'.course (Or.inl ⟨rfl, rfl⟩) hreach' hend
      (by rw [hlog, List.append_nil]; exact hruns)⟩
  generalize hs₁ : (s₁, log) = final at hends hdone
  cases hends with
  | done => exact hdone rfl
  | cyclic => exact hdone rfl
  | unknownTarget => exact hdone rfl
  | unknownDependency => exact hdone rfl
  | @failed v e _ hr hready hnew hstart ho =>
    subst hs₁
    rw [w.sameRecipes.outcome v] at ho
    obtain ⟨done, c, rest, hc, hasked⟩ := outcome_record_error ho
    rw [hstart, hruns] at hasked
    have herr : ((v.view Prod.fst).outcome site g).1 = .error e := by
      rw [outcome_view hview, ho]
      rfl
    have hfails : Fails site name g h s'.1 (v.view Prod.fst)
        ((done.map fun c => ⟨v.name, c, true⟩) ++ [⟨v.name, c, false⟩]) := by
      refine ⟨congrArg Prod.fst hstart, hr, hready, hnew, ⟨e, herr⟩, ?_, ?_⟩
      · exact .failed (Visit.isStale_of_error herr) herr hc
      · intro a ha
        rcases List.mem_append.mp ha with ha | ha
        · obtain ⟨d, -, rfl⟩ := List.mem_map.mp ha
          rfl
        · rw [List.mem_singleton.mp ha]
          rfl
    exact ⟨_, w'.course (Or.inr ⟨_, rfl, hfails⟩) hreach' hend
      (by rw [hlog, ← List.append_assoc]; exact hasked)⟩

end BuildTool.Graph
