import BuildTool.Proofs.Graph.Recording
import Mathlib.Order.MinMax
import Mathlib.Data.Int.Order.Basic

/-!
# What is rebuilt

A pass that ends well is a chain of visits, each beginning in the state where the one before it
ended. A visit runs all commands of its target or none:

    stale  =  forced, or without a time, or with a time before that of something it needs

The times of what a target needs are those read after the commands of each were run; where there
was none to read it is the clock's. All of these are visited before the target, so that what the
graph keeps of them (`newestOf`) is what `isStale` compares with.
-/

namespace BuildTool.Graph

variable {σ : Type}

/-! ## The latest of some times -/

/-- There is a time, and it is after this one. -/
def IsAfter (own : Time) (time : Option Time) : Prop := ∃ t, time = some t ∧ own < t

theorem isAfter_latest (own : Time) (a b : Option Time) :
    IsAfter own (latest a b) ↔ IsAfter own a ∨ IsAfter own b := by
  cases a with
  | none => simp [latest, IsAfter]
  | some a =>
    cases b with
    | none => simp [latest, IsAfter]
    | some b =>
      simp only [latest, IsAfter, Option.some.injEq, exists_eq_left']
      exact lt_max_iff

theorem isAfter_foldl_latest (own : Time) (time : String → Option Time) (deps : List String)
    (newest : Option Time) :
    IsAfter own (deps.foldl (fun newest d => latest newest (time d)) newest) ↔
      IsAfter own newest ∨ ∃ d ∈ deps, IsAfter own (time d) := by
  induction deps generalizing newest with
  | nil => simp
  | cons d rest ih =>
    rw [List.foldl_cons, ih, isAfter_latest, or_assoc]
    simp

theorem isAfter_newestOf (own : Time) (g : Graph) (name : String) :
    IsAfter own (g.newestOf name) ↔ ∃ d, g.Needs name d ∧ IsAfter own (g.modifiedAt? d) := by
  rw [newestOf, isAfter_foldl_latest]
  simp [IsAfter, Needs]

theorem isStale_iff (force : Bool) (own newest : Option Time) :
    isStale force own newest = true ↔
      force = true ∨ own = none ∨ ∃ o, own = some o ∧ IsAfter o newest := by
  unfold isStale
  cases own with
  | none => simp
  | some o =>
    cases newest with
    | none => simp [IsAfter]
    | some n => simp [IsAfter]

/-! ## Chains of visits -/

/-- Visits that begin in one state and end in another, each where the one before it ended. -/
def Chain (site : Site σ) (g : Graph) : σ → List (Visit σ) → σ → Prop
  | s, [], s' => s' = s
  | s, v :: rest, s' =>
    v.start = s ∧ (v.outcome site g).1 = .ok () ∧ Chain site g (v.finish site g) rest s'

theorem SameRecipes.chain {g h : Graph} (same : SameRecipes g h) {site : Site σ}
    {visits : List (Visit σ)} {s s' : σ} (hc : Chain site h s visits s') :
    Chain site g s visits s' := by
  induction visits generalizing s with
  | nil => exact hc
  | cons v rest ih =>
    obtain ⟨hs, ho, hrest⟩ := hc
    rw [Visit.finish, same.outcome] at hrest
    rw [same.outcome] at ho
    exact ⟨hs, ho, ih hrest⟩

theorem Walk.chain {site : Site σ} {st st' : Graph × σ} {visits : List (Visit σ)}
    (w : Walk site st visits st') : Chain site st.1 st.2 visits st'.2 := by
  induction w with
  | refl => rfl
  | adopt _ _ _ _ ih => exact (sameRecipes_ensure _ _).chain ih
  | visit hr _ ho _ ih => exact ⟨rfl, ho, (sameRecipes_doneAt hr.contains _).chain ih⟩

/-- The target of a visit is forced, has no time, or has one before that of a visit to something
that it needs. -/
def Visit.MustBuild (site : Site σ) (g : Graph) (before : List (Visit σ)) (v : Visit σ) : Prop :=
  g.isForced v.name = true ∨ site.modified v.start v.name = none ∨
    ∃ own, site.modified v.start v.name = some own ∧
      ∃ u ∈ before, g.Needs v.name u.name ∧ own < u.time site g

/-- The time of a visit is the one after its commands, or the clock's if there is none. -/
theorem Visit.time_eq (site : Site σ) (g : Graph) (v : Visit σ) :
    v.time site g =
      (site.modified (v.outcome site g).2 v.name).getD (site.clock (v.outcome site g).2).1 := by
  unfold Visit.time timeOf
  cases site.modified (v.outcome site g).2 v.name <;> rfl

section

variable {site : Site σ} {st st' : Graph × σ} {visits before after : List (Visit σ)} {v : Visit σ}

/-- All that a target needs is visited before it. -/
theorem Walk.mem_before (w : Walk site st visits st') (hst : ∀ n, st.1.isResolved n = false)
    (h : visits = before ++ v :: after) {d : String} (hn : st.1.Needs v.name d) :
    ∃ u ∈ before, u.name = d := by
  obtain ⟨g, w₁, hr, -⟩ := w.split h
  rw [← w₁.sameRecipes.needs] at hn
  rcases (w₁.isResolved_iff d).mp (hr.needed d hn) with hd | hd
  · rw [hst d] at hd
    cases hd
  · exact List.mem_map.mp hd

/-- A visit finds its target stale exactly if the target must be built. -/
theorem Walk.isStale_iff (w : Walk site st visits st') (hst : ∀ n, st.1.isResolved n = false)
    (h : visits = before ++ v :: after) :
    v.isStale site st.1 = true ↔ v.MustBuild site st.1 before := by
  obtain ⟨g, w₁, hr, hnew, -, -⟩ := w.split h
  have hafter : ∀ own, IsAfter own v.newest ↔
      ∃ u ∈ before, st.1.Needs v.name u.name ∧ own < u.time site st.1 := by
    intro own
    rw [hnew, isAfter_newestOf, w₁.sameRecipes.needs]
    constructor
    · rintro ⟨d, hn, t, ht, hlt⟩
      obtain ⟨u, hu, rfl⟩ := w.mem_before hst h hn
      rw [w₁.modifiedAt?_of_mem hu, Option.some_inj] at ht
      exact ⟨u, hu, hn, by rw [ht]; exact hlt⟩
    · rintro ⟨u, hu, hn, hlt⟩
      exact ⟨u.name, hn, _, w₁.modifiedAt?_of_mem hu, hlt⟩
  unfold Visit.isStale Visit.MustBuild
  rw [Graph.isStale_iff]
  simp only [hafter]

end

/-! ## Runs of one target -/

section

variable {site : Site σ} {g : Graph} {visits : List (Visit σ)} {v : Visit σ}

theorem Visit.fst_of_mem_runs {run : String × String} (h : run ∈ v.runs site g) :
    run.1 = v.name := by
  unfold runs at h
  split at h
  · obtain ⟨command, -, rfl⟩ := List.mem_map.mp h
    rfl
  · cases h

theorem Visit.filter_runs {name : String} (h : v.name = name) :
    (v.runs site g).filter (fun run => run.1 == name) = v.runs site g := by
  refine List.filter_eq_self.mpr fun run hr => ?_
  rw [fst_of_mem_runs hr, h]
  exact beq_self_eq_true name

theorem filter_flatMap_runs_eq_nil {name : String} (h : name ∉ visits.map Visit.name) :
    (visits.flatMap (Visit.runs site g)).filter (fun run => run.1 == name) = [] := by
  refine List.filter_eq_nil_iff.mpr fun run hr he => h ?_
  obtain ⟨u, hu, hr⟩ := List.mem_flatMap.mp hr
  rw [← eq_of_beq he, Visit.fst_of_mem_runs hr]
  exact List.mem_map_of_mem hu

/-- What runs for a target runs in its visit. -/
theorem filter_flatMap_runs (hnd : (visits.map Visit.name).Nodup) (hv : v ∈ visits) :
    (visits.flatMap (Visit.runs site g)).filter (fun run => run.1 == v.name) =
      v.runs site g := by
  obtain ⟨before, after, rfl⟩ := List.append_of_mem hv
  rw [List.map_append, List.map_cons, List.nodup_append, List.nodup_cons] at hnd
  obtain ⟨-, ⟨hafter, -⟩, hbefore⟩ := hnd
  have hb : v.name ∉ before.map Visit.name := fun hm => hbefore _ hm _ List.mem_cons_self rfl
  rw [List.flatMap_append, List.flatMap_cons, List.filter_append, List.filter_append,
    filter_flatMap_runs_eq_nil hb, filter_flatMap_runs_eq_nil hafter, Visit.filter_runs rfl]
  simp

end

/-! ## Passes that end well -/

/-- The visits of a pass for `name` from `g` and `s` to `h` and `s'`, and what they run. -/
structure Rebuild (site : Site σ) (name : String) (g : Graph) (s : σ) (h : Graph) (s' : σ)
    (visits : List (Visit σ)) : Prop where
  chain : Chain site g s visits s'
  /-- what can be reached is visited once -/
  nodup : (visits.map Visit.name).Nodup
  mem_iff : ∀ t, t ∈ visits.map Visit.name ↔ g.Reaches name t
  needed : ∀ before v after, visits = before ++ v :: after →
    ∀ d, g.Needs v.name d → ∃ u ∈ before, u.name = d
  /-- a target is stale as its needs and its own time are when the visit begins -/
  stale : ∀ before v after, visits = before ++ v :: after →
    (v.isStale site g = true ↔ v.MustBuild site g before)
  runs : g.runs site name s = visits.flatMap (Visit.runs site g)
  /-- the graph keeps the time after the commands, or the clock's -/
  time : ∀ v ∈ visits, h.modifiedAt? v.name = some (v.time site g) ∧ v.time site g =
    (site.modified (v.outcome site g).2 v.name).getD (site.clock (v.outcome site g).2).1

theorem exists_rebuild {g : Graph} (hg : ∀ name, g.isResolved name = false) {site : Site σ}
    {name : String} {s s' : σ} {h : Graph} (ho : g.resolve site name s = (.ok (), h, s')) :
    ∃ visits, Rebuild site name g s h s' visits := by
  have hrec := resolve_recording site name g s []
  have hp := resolve_isPass site.recording name g (s, [])
  rw [ho] at hrec
  have hruns : g.runs site name s =
      (g.resolve site.recording name (s, [])).2.2.2.filterMap Attempt.run? := rfl
  generalize g.resolve site.recording name (s, []) = out at hp hrec hruns
  obtain ⟨result, k, s₁, log⟩ := out
  cases hrec
  have hall : ∀ t, g.Reaches name t → k.isResolved t = true :=
    fun t hr => (hp.reaches_of_ok (isSound_of_none_resolved hg) rfl hr).2
  obtain ⟨visits, w, hreach, hd⟩ := hp.walk_of_ok
  have w' := w.view site.recording_isView
  have hlog : log = _ := w.record
  refine ⟨visits.map (Visit.view Prod.fst), w'.chain, w'.nodup, ?_, ?_, ?_, ?_, ?_⟩
  · intro t
    constructor
    · intro hm
      obtain ⟨v, hv, rfl⟩ := List.mem_map.mp (List.map_map ▸ hm)
      exact (hreach v hv).1
    · intro hr
      rcases (w'.isResolved_iff t).mp (hall t hr) with hd | hm
      · exact absurd hd (Bool.eq_false_iff.mp (hg t))
      · exact hm
  · intro before v after hv d hn
    exact w'.mem_before hg hv hn
  · intro before v after hv
    exact w'.isStale_iff hg hv
  · rw [hruns]
    change log.filterMap Attempt.run? = _
    rw [hlog, List.nil_append, filterMap_run?_ofRun, List.flatMap_map]
    simp only [runs_view site.recording_isView]
  · intro v hv
    exact ⟨w'.modifiedAt?_of_mem hv, v.time_eq site g⟩

/-- In a pass that ends well, the commands of every target in reach are run, all of them and in
their order, if the target must be built when its dependencies are done, and otherwise none of
them. A target that needs nothing, has a time and is not forced runs nothing. -/
theorem resolve_builds_what_is_stale {g : Graph} (hg : ∀ name, g.isResolved name = false)
    {site : Site σ} {name : String} {s s' : σ} {h : Graph}
    (ho : g.resolve site name s = (.ok (), h, s')) :
    ∃ visits, Rebuild site name g s h s' visits ∧
      ∀ before v after, visits = before ++ v :: after →
        (v.MustBuild site g before → (g.runs site name s).filter (fun run => run.1 == v.name) =
          (g.commandsOf v.name).map fun command => (v.name, command)) ∧
        (¬v.MustBuild site g before →
          (g.runs site name s).filter (fun run => run.1 == v.name) = []) ∧
        (g.dependenciesOf v.name = [] → site.modified v.start v.name ≠ none →
          g.isForced v.name = false →
          (g.runs site name s).filter (fun run => run.1 == v.name) = []) := by
  obtain ⟨visits, hr⟩ := exists_rebuild hg ho
  refine ⟨visits, hr, ?_⟩
  intro before v after hv
  have hmem : v ∈ visits := by
    rw [hv]
    simp
  have hstale := hr.stale before v after hv
  have hruns : (g.runs site name s).filter (fun run => run.1 == v.name) = v.runs site g := by
    rw [hr.runs, filter_flatMap_runs hr.nodup hmem]
  have hnone : ¬v.MustBuild site g before →
      (g.runs site name s).filter (fun run => run.1 == v.name) = [] := by
    intro hm
    rw [hruns, Visit.runs, if_neg (fun hs => hm (hstale.mp hs))]
  refine ⟨?_, hnone, ?_⟩
  · intro hm
    rw [hruns, Visit.runs, if_pos (hstale.mpr hm)]
  · intro hdeps htime hforce
    refine hnone ?_
    rintro (hf | ht | ⟨own, -, u, -, hn, -⟩)
    · rw [hforce] at hf
      cases hf
    · exact htime ht
    · rw [Needs, hdeps] at hn
      cases hn

/-- A program with an object file, and a stamp that is made in every pass. -/
def program : Graph where
  targets := [
    ("app", { name := "app", dependencies := ["app.o", "stamp"], commands := ["link"] }),
    ("app.o", { name := "app.o", dependencies := ["app.c"], commands := ["cc"] }),
    ("stamp", { name := "stamp", commands := ["date"], force := true })]

theorem resolve_builds_what_is_stale_program :
    program.runs .shelf "app" [("app", 9), ("app.o", 8), ("app.c", 5), ("stamp", 7)] =
        [("stamp", "date")] ∧
      ∃ visits, Rebuild .shelf "app" program
        [("app", 9), ("app.o", 8), ("app.c", 5), ("stamp", 7)]
        (program.resolve .shelf "app" [("app", 9), ("app.o", 8), ("app.c", 5), ("stamp", 7)]).2.1
        [("stamp", 4), ("app", 9), ("app.o", 8), ("app.c", 5), ("stamp", 7)] visits := by
  have hg : ∀ name, program.isResolved name = false := isResolved_eq_false (by decide)
  have ho : (program.resolve .shelf "app"
      [("app", 9), ("app.o", 8), ("app.c", 5), ("stamp", 7)]).1 = .ok () := by
    decide +kernel
  have hs : (program.resolve .shelf "app"
      [("app", 9), ("app.o", 8), ("app.c", 5), ("stamp", 7)]).2.2 =
        [("stamp", 4), ("app", 9), ("app.o", 8), ("app.c", 5), ("stamp", 7)] := by
    decide +kernel
  obtain ⟨visits, hr, -⟩ := resolve_builds_what_is_stale hg (Prod.ext ho (Prod.ext rfl hs))
  exact ⟨by decide +kernel, visits, hr⟩

end BuildTool.Graph
