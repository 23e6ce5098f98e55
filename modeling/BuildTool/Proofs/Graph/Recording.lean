import BuildTool.Proofs.Graph.Pass

/-!
# What a pass runs

A recording site does what a site does and writes down every command it is asked to run.

    attempts site name g s  =  the record that `resolve` leaves
    runs site name g s      =  those of them that succeeded

`Site.IsView` relates two sites of which one has more state than the other. A pass does the same
over both (`resolve_view`), so that a record can be kept without a difference to the pass.

## Sections

* `IsView` and the equations of a pass along a view;
* walks and path checks along a view;
* the record of a walk and of a failing target.
-/

namespace BuildTool

/-- A command that a site was asked to run. -/
structure Attempt where
  target : String
  command : String
  succeeded : Bool
  deriving DecidableEq, Repr

namespace Attempt

def run? (a : Attempt) : Option (String × String) :=
  if a.succeeded then some (a.target, a.command) else none

/-- The attempt that a run was. -/
def ofRun (run : String × String) : Attempt := ⟨run.1, run.2, true⟩

end Attempt

namespace Site

variable {σ τ : Type}

/-- The site with a record of the commands it is asked to run. -/
def recording (site : Site σ) : Site (σ × List Attempt) where
  pathExists s := site.pathExists s.1
  modified s := site.modified s.1
  clock s := ((site.clock s.1).1, (site.clock s.1).2, s.2)
  note text s := (site.note text s.1, s.2)
  run target command s :=
    let out := site.run target command s.1
    (out.1, out.2, s.2 ++ [⟨target, command, out.1.isOk⟩])

/-- What a site does to its state, the other does to the part of it that `f` shows. -/
structure IsView (f : σ → τ) (a : Site σ) (b : Site τ) : Prop where
  pathExists : ∀ s path, b.pathExists (f s) path = a.pathExists s path
  modified : ∀ s path, b.modified (f s) path = a.modified s path
  clock : ∀ s, b.clock (f s) = Prod.map id f (a.clock s)
  note : ∀ text s, b.note text (f s) = f (a.note text s)
  run : ∀ target command s, b.run target command (f s) = Prod.map id f (a.run target command s)

/-- Files with their times. A command changes the file of its target, except for `false`, which
fails. -/
def shelf : Site (List (String × Time)) where
  pathExists files path := (files.lookup path).isSome
  modified files path := files.lookup path
  clock files := (files.length, files)
  note _ files := files
  run target command files :=
    if command = "false" then (.error (.command (.failed command "exit status: 1")), files)
    else (.ok (), (target, (files.length : Time)) :: files)

theorem recording_isView (site : Site σ) : IsView Prod.fst site.recording site where
  pathExists _ _ := rfl
  modified _ _ := rfl
  clock _ := rfl
  note _ _ := rfl
  run _ _ _ := rfl

end Site

namespace Graph

variable {σ τ : Type}

/-- The commands that `resolve` asks a site to run. -/
def attempts (site : Site σ) (name : String) (g : Graph) (s : σ) : List Attempt :=
  (g.resolve site.recording name (s, [])).2.2.2

/-- The commands that `resolve` runs, with the targets they run for. -/
def runs (site : Site σ) (name : String) (g : Graph) (s : σ) : List (String × String) :=
  (g.attempts site name s).filterMap Attempt.run?

/-! ## A pass along a view -/

section

variable {f : σ → τ} {a : Site σ} {b : Site τ} (hview : Site.IsView f a b)
include hview

theorem runCommands_view (target : String) (commands : List String) (s : σ) :
    runCommands b target commands (f s) = Prod.map id f (runCommands a target commands s) := by
  induction commands generalizing s with
  | nil => rfl
  | cons command rest ih =>
    unfold runCommands
    rw [hview.note, hview.run]
    rcases a.run target command (a.note (target ++ ": " ++ command) s) with ⟨e | _, s'⟩
    · rfl
    · exact ih s'

theorem refresh_view (name : String) (target : Target) (newest : Option Time) (s : σ) :
    refresh b name target newest (f s) = Prod.map id f (refresh a name target newest s) := by
  unfold refresh
  rw [hview.modified, hview.note, hview.note, runCommands_view hview]
  split <;> rfl

theorem timeOf_view (name : String) (s : σ) :
    timeOf b name (f s) = Prod.map id f (timeOf a name s) := by
  unfold timeOf
  rw [hview.modified]
  cases a.modified s name with
  | none => exact hview.clock s
  | some time => rfl

theorem settle_view (name : String) (newest : Option Time) (st : Graph × σ) :
    settle b name newest (Prod.map id f st) =
      Prod.map id (Prod.map id f) (settle a name newest st) := by
  obtain ⟨g, s⟩ := st
  simp only [settle, Prod.map_apply, id_eq]
  cases g.find? name with
  | none => rfl
  | some target =>
    simp only [refresh_view hview]
    rcases refresh a name target newest s with ⟨e | _, s'⟩
    · rfl
    · simp only [Prod.map_apply, id_eq, timeOf_view hview]
      rfl

variable {one : String → Graph × σ → Except BuildError Unit × Graph × σ}
  {one' : String → Graph × τ → Except BuildError Unit × Graph × τ}
  (hone : ∀ d st, one' d (Prod.map id f st) = Prod.map id (Prod.map id f) (one d st))
include hone

theorem resolveAll_view (name : String) (deps : List String) (newest : Option Time)
    (st : Graph × σ) :
    resolveAll b one' name deps newest (Prod.map id f st) =
      Prod.map id (Prod.map id f) (resolveAll a one name deps newest st) := by
  induction deps generalizing newest st with
  | nil => rfl
  | cons d rest ih =>
    obtain ⟨g, s⟩ := st
    have ho := hone d (g.ensure d, s)
    simp only [Prod.map_apply, id_eq] at ho
    simp only [resolveAll, Prod.map_apply, id_eq, hview.pathExists, ho]
    split
    · rfl
    · rcases one d (g.ensure d, s) with ⟨e | _, st'⟩
      · rfl
      · exact ih _ st'

theorem resolveMarked_view (name : String) (st : Graph × σ) :
    resolveMarked b one' name (Prod.map id f st) =
      Prod.map id (Prod.map id f) (resolveMarked a one name st) := by
  obtain ⟨g, s⟩ := st
  simp only [resolveMarked, Prod.map_apply, id_eq]
  cases g.find? name with
  | none => rfl
  | some target =>
    have ho := resolveAll_view hview hone name target.dependencies none (g, s)
    simp only [Prod.map_apply, id_eq] at ho
    simp only [ho]
    rcases resolveAll a one name target.dependencies none (g, s) with ⟨e | newest, st'⟩
    · rfl
    · exact settle_view hview name newest st'

end

section

variable {f : σ → τ} {a : Site σ} {b : Site τ} (hview : Site.IsView f a b)
include hview

theorem resolveWithin_view (depth : Nat) (name : String) (st : Graph × σ) :
    resolveWithin b depth name (Prod.map id f st) =
      Prod.map id (Prod.map id f) (resolveWithin a depth name st) := by
  induction depth generalizing name st with
  | zero => rfl
  | succ depth ih =>
    rw [resolveWithin_succ, resolveWithin_succ]
    have hm := resolveMarked_view hview ih name (st.1.enter name, st.2)
    simp only [Prod.map_apply, id_eq] at hm
    simp only [Prod.map_fst, Prod.map_snd, id_eq, hm]
    split
    · rfl
    · split <;> rfl

/-- A pass does to what is in view what it does to the whole state. -/
theorem resolve_view (name : String) (g : Graph) (s : σ) :
    g.resolve b name (f s) = Prod.map id (Prod.map id f) (g.resolve a name s) :=
  resolveWithin_view hview g.depthBound name (g, s)

end

/-! ## Walks and checks along a view -/

def Visit.view (f : σ → τ) (v : Visit σ) : Visit τ := { v with start := f v.start }

section

variable {f : σ → τ} {a : Site σ} {b : Site τ} (hview : Site.IsView f a b)
include hview

theorem outcome_view (g : Graph) (v : Visit σ) :
    (v.view f).outcome b g = Prod.map id f (v.outcome a g) :=
  refresh_view hview v.name (g.targetOf v.name) v.newest v.start

theorem settled_view (g : Graph) (v : Visit σ) :
    ((v.view f).time b g, (v.view f).finish b g) = (v.time a g, f (v.finish a g)) := by
  have h := timeOf_view hview v.name (v.outcome a g).2
  unfold Visit.time Visit.finish
  rw [outcome_view hview, Prod.map_snd]
  exact h

theorem isStale_view (g : Graph) (v : Visit σ) : (v.view f).isStale b g = v.isStale a g := by
  unfold Visit.isStale
  rw [show b.modified (v.view f).start (v.view f).name = _ from hview.modified v.start v.name]
  rfl

theorem runs_view (g : Graph) (v : Visit σ) : (v.view f).runs b g = v.runs a g := by
  unfold Visit.runs
  rw [isStale_view hview]
  rfl

theorem Walk.view {st st' : Graph × σ} {visits : List (Visit σ)} (w : Walk a st visits st') :
    Walk b (Prod.map id f st) (visits.map (Visit.view f)) (Prod.map id f st') := by
  induction w with
  | refl => exact .refl _
  | adopt hn hc he _ ih => exact .adopt hn hc (by rw [hview.pathExists]; exact he) ih
  | @visit g v _ _ hr hv ho _ ih =>
    obtain ⟨ht, hf⟩ := Prod.mk.inj (settled_view hview g v)
    have hok : ((v.view f).outcome b g).1 = .ok () := by rw [outcome_view hview]; exact ho
    refine .visit (g := g) (v := v.view f) hr hv hok ?_
    rw [ht, hf]
    exact ih

theorem ComesTo.view {depth : Nat} {name d : String} {st st' : Graph × σ}
    (h : ComesTo a depth name st d st') :
    ComesTo b depth name (Prod.map id f st) d (Prod.map id f st') where
  unresolved := h.unresolved
  unmarked := h.unmarked
  contains := h.contains
  reached := by
    obtain ⟨before, after, newest, hd, hr⟩ := h.reached
    refine ⟨before, after, newest, hd, ?_⟩
    have := resolveAll_view hview (resolveWithin_view hview depth) name before none
      (st.1.enter name, st.2)
    rw [hr] at this
    exact this

theorem Checks.view {depth : Nat} {name d : String} {st : Graph × σ} {s : σ}
    (h : Checks a depth name st d s) : Checks b depth name (Prod.map id f st) d (f s) := by
  induction h with
  | own hcome hc => exact .own (hcome.view hview) hc
  | further hcome hc _ ih =>
    refine .further (hcome.view hview) ?_ ih
    rw [Prod.map_snd, hview.pathExists]
    exact hc

/-- Where a pass comes to over the site in view, it comes to over the other. -/
theorem ComesTo.of_view {depth : Nat} {name d : String} {st : Graph × σ} {st' : Graph × τ}
    (h : ComesTo b depth name (Prod.map id f st) d st') :
    ∃ st₁, st' = Prod.map id f st₁ ∧ ComesTo a depth name st d st₁ := by
  obtain ⟨before, after, newest, hd, hr⟩ := h.reached
  have hv := resolveAll_view hview (resolveWithin_view hview depth) name before none
    (st.1.enter name, st.2)
  change resolveAll b (resolveWithin b depth) name before none
    ((Prod.map id f st).1.enter name, (Prod.map id f st).2) = _ at hv
  rw [hr] at hv
  rcases ho : resolveAll a (resolveWithin a depth) name before none (st.1.enter name, st.2)
    with ⟨e | n, st₁⟩
  · rw [ho] at hv
    cases hv
  · rw [ho] at hv
    cases hv
    exact ⟨st₁, rfl, h.unresolved, h.unmarked, h.contains, before, after, newest, hd, ho⟩

theorem Checks.of_view {depth : Nat} {name d : String} {st : Graph × τ} {s : τ}
    (h : Checks b depth name st d s) (st₀ : Graph × σ) (hst : st = Prod.map id f st₀) :
    ∃ s₁, s = f s₁ ∧ Checks a depth name st₀ d s₁ := by
  induction h generalizing st₀ with
  | own hcome hc =>
    subst hst
    obtain ⟨st₁, rfl, hcome'⟩ := hcome.of_view hview
    exact ⟨st₁.2, rfl, .own hcome' hc⟩
  | further hcome hc _ ih =>
    subst hst
    obtain ⟨st₁, rfl, hcome'⟩ := hcome.of_view hview
    obtain ⟨s₁, hs, hk⟩ := ih (st₁.1.ensure _, st₁.2) rfl
    rw [Prod.map_snd, hview.pathExists] at hc
    exact ⟨s₁, hs, .further hcome' hc hk⟩

end

/-! ## Records -/

/-- Keeping a record makes no difference to a pass. -/
theorem resolve_recording (site : Site σ) (name : String) (g : Graph) (s : σ)
    (log : List Attempt) :
    g.resolve site name s =
      Prod.map id (Prod.map id Prod.fst) (g.resolve site.recording name (s, log)) :=
  resolve_view site.recording_isView name g (s, log)

section

variable {site : Site σ}

/-- Commands that all succeed are recorded as such, others up to the first that fails. -/
theorem runCommands_record (site : Site σ) (target : String) (commands : List String)
    (st : σ × List Attempt) :
    let out := runCommands site.recording target commands st
    (out.1 = .ok () ∧ out.2.2 = st.2 ++ commands.map fun c => ⟨target, c, true⟩) ∨
      ∃ e done c rest, out.1 = .error e ∧ commands = done ++ c :: rest ∧
        out.2.2 = st.2 ++ (done.map fun c => ⟨target, c, true⟩) ++ [⟨target, c, false⟩] := by
  induction commands generalizing st with
  | nil => exact Or.inl ⟨rfl, (List.append_nil _).symm⟩
  | cons command rest ih =>
    rw [runCommands]
    rcases ho : site.run target command (site.note (target ++ ": " ++ command) st.1)
      with ⟨e | _, s'⟩
    · have hrec : site.recording.run target command
          (site.recording.note (target ++ ": " ++ command) st) =
            (.error e, s', st.2 ++ [⟨target, command, false⟩]) := by
        simp only [Site.recording, ho]
        rfl
      rw [hrec]
      exact Or.inr ⟨e, [], command, rest, rfl, rfl, by simp⟩
    · have hrec : site.recording.run target command
          (site.recording.note (target ++ ": " ++ command) st) =
            (.ok (), s', st.2 ++ [⟨target, command, true⟩]) := by
        simp only [Site.recording, ho]
        rfl
      rw [hrec]
      rcases ih (s', st.2 ++ [⟨target, command, true⟩]) with
        ⟨hok, hl⟩ | ⟨e, done, c, rest', herr, hc, hl⟩
      · refine Or.inl ⟨hok, ?_⟩
        rw [hl]
        simp
      · refine Or.inr ⟨e, command :: done, c, rest', herr, by rw [hc]; rfl, ?_⟩
        rw [hl]
        simp

/-- Commands that succeed are recorded one after the other. -/
theorem runCommands_recording {target : String} {commands : List String} (st : σ × List Attempt)
    (ho : (runCommands site target commands st.1).1 = .ok ()) :
    runCommands site.recording target commands st =
      (.ok (), (runCommands site target commands st.1).2,
        st.2 ++ commands.map fun c => ⟨target, c, true⟩) := by
  have hview := runCommands_view site.recording_isView target commands st
  rcases runCommands_record site target commands st with ⟨hok, hl⟩ | ⟨e, -, -, -, herr, -⟩
  · exact Prod.ext hok (Prod.ext (congrArg Prod.snd hview).symm hl)
  · rw [hview] at ho
    cases herr.symm.trans ho

theorem finish_record (g : Graph) (v : Visit (σ × List Attempt)) :
    (v.finish site.recording g).2 = (v.outcome site.recording g).2.2 := by
  unfold Visit.finish timeOf
  split <;> rfl

/-- A target that is done has recorded what it ran. -/
theorem outcome_record_ok {g : Graph} {v : Visit (σ × List Attempt)}
    (h : (v.outcome site.recording g).1 = .ok ()) :
    (v.finish site.recording g).2 =
      v.start.2 ++ (v.runs site.recording g).map Attempt.ofRun := by
  rw [finish_record]
  rw [Visit.outcome_eq] at h ⊢
  unfold Visit.runs
  by_cases hs : v.isStale site.recording g = true
  · rw [if_pos hs] at h ⊢
    rw [if_pos hs, List.map_map]
    rcases runCommands_record site v.name (g.commandsOf v.name)
      (site.recording.note (v.name ++ " is stale") v.start) with ⟨-, hl⟩ | ⟨e, -, -, -, ho, -⟩
    · exact hl
    · rw [ho] at h
      cases h
  · rw [if_neg hs, if_neg hs, List.map_nil, List.append_nil]
    rfl

/-- A target that fails has recorded the commands before the one that failed, and that one. -/
theorem outcome_record_error {g : Graph} {v : Visit (σ × List Attempt)} {e : BuildError}
    {s : σ × List Attempt} (h : v.outcome site.recording g = (.error e, s)) :
    ∃ done c rest, g.commandsOf v.name = done ++ c :: rest ∧
      s.2 = v.start.2 ++ (done.map fun c => ⟨v.name, c, true⟩) ++ [⟨v.name, c, false⟩] := by
  rw [Visit.outcome_eq] at h
  split at h
  · rcases runCommands_record site v.name (g.commandsOf v.name)
      (site.recording.note (v.name ++ " is stale") v.start) with
        ⟨ho, -⟩ | ⟨_, done, c, rest, -, hc, hl⟩
    · rw [h] at ho
      cases ho
    · rw [h] at hl
      exact ⟨done, c, rest, hc, hl⟩
  · cases h

/-- A walk has recorded what its targets ran. -/
theorem Walk.record {st st' : Graph × σ × List Attempt} {visits : List (Visit (σ × List Attempt))}
    (w : Walk site.recording st visits st') :
    st'.2.2 = st.2.2 ++ (visits.flatMap (Visit.runs site.recording st.1)).map Attempt.ofRun := by
  induction w with
  | refl => simp
  | adopt _ _ _ _ ih =>
    rw [ih, (sameRecipes_ensure _ _).runs]
  | visit hr _ ho _ ih =>
    rw [ih, (sameRecipes_doneAt hr.contains _).runs, outcome_record_ok ho, List.flatMap_cons,
      List.map_append, List.append_assoc]

/-- After its walk a pass records nothing, or the commands of one target up to one that fails. -/
theorem Ends.record {depth : Nat} {name : String} {start : Graph × σ × List Attempt} {g : Graph}
    {s s' : σ × List Attempt} {r : Except BuildError Unit}
    (h : Ends site.recording depth name start g s r s') :
    s' = s ∨ ∃ e target done c rest, r = .error e ∧ g.IsReady target ∧
      g.commandsOf target = done ++ c :: rest ∧
      s'.2 = s.2 ++ (done.map fun c => ⟨target, c, true⟩) ++ [⟨target, c, false⟩] := by
  cases h with
  | done => exact Or.inl rfl
  | cyclic => exact Or.inl rfl
  | unknownTarget => exact Or.inl rfl
  | unknownDependency => exact Or.inl rfl
  | @failed v e _ _ hready _ hstart ho =>
    obtain ⟨done, c, rest, hc, hl⟩ := outcome_record_error ho
    rw [hstart] at hl
    exact Or.inr ⟨e, v.name, done, c, rest, rfl, hready, hc, hl⟩

end

/-- If no command fails, a pass ends well, with a cycle, or with a name that is unknown. -/
theorem resolve_cases {site : Site σ} {name : String} {g : Graph} {s : σ}
    (hrun : ∀ a ∈ g.attempts site name s, a.succeeded = true) :
    (g.resolve site name s).1 = .ok () ∨
      (∃ c, (g.resolve site name s).1 = .error (.cyclicDependency c)) ∨
      (g.contains name = false ∧ (g.resolve site name s).1 = .error (.unknownTarget name)) ∨
      ∃ t d s', (g.resolve site name s).1 = .error (.unknownDependency t d) ∧
        Checks site g.depthBound name (g, s) d s' ∧ site.pathExists s' d = false := by
  rw [resolve_recording site name g s []]
  unfold attempts at hrun
  have hp := resolve_isPass site.recording name g (s, [])
  generalize g.resolve site.recording name (s, []) = out at hp hrun ⊢
  obtain ⟨result, h, final⟩ := out
  obtain ⟨visits, s', -, -, he⟩ := hp
  simp only [Prod.map_fst, id_eq] at he hrun ⊢
  cases he with
  | done => exact Or.inl rfl
  | @cyclic c => exact Or.inr (Or.inl ⟨c, rfl⟩)
  | unknownTarget hno => exact Or.inr (Or.inr (Or.inl ⟨hno, rfl⟩))
  | @unknownDependency t d _ _ _ hmissing hk =>
    exact Or.inr (Or.inr (Or.inr ⟨t, d, final.1, rfl, hk.view site.recording_isView, hmissing⟩))
  | @failed v _ _ _ _ _ _ ho =>
    obtain ⟨done, c, rest, -, hl⟩ := outcome_record_error ho
    have := hrun ⟨v.name, c, false⟩ (by rw [hl]; simp)
    cases this

theorem filterMap_run?_ofRun (runs : List (String × String)) :
    (runs.map Attempt.ofRun).filterMap Attempt.run? = runs := by
  rw [List.filterMap_map]
  exact List.filterMap_some

end Graph

end BuildTool
