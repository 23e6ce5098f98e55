import BuildTool.Proofs.Watch.Poll

/-!
# What a wait reports

A wait looks at the files until it finds a change, and others edit them between two looks:

    look, edit, look, edit, ... look     changed    a name is later than the wait's beginning
    look, edit, look, edit, ...          unchanged  no name ever is

A change is found by the first look after the edits that show it, and by no other. What the build
before has read of the files plays no part: the wait begins when the build is over, so that an edit
in between is not found, although the build was done with the file that was there before
(`wait_misses_edit_of_build`).
-/

namespace BuildTool.Watch

open BuildTool.Graph

/-! ## Looks -/

def edited (edits : List Edit) (d : Disk) : Disk := edits.foldl (fun d edit => edit d) d

/-- Something holds of the disk after these edits and did not before the last of them. -/
structure FirstAfter (P : Disk → Prop) (d : Disk) (edits : List Edit) : Prop where
  after : P (edited edits d)
  before : ∀ early, early <+: edits → early ≠ edits → ¬P (edited early d)

theorem firstAfter_nil {P : Disk → Prop} {d : Disk} (h : P d) : FirstAfter P d [] where
  after := h
  before _ he hne := absurd (List.prefix_nil.mp he) hne

theorem FirstAfter.cons {P : Disk → Prop} {d : Disk} {edit : Edit} {edits : List Edit}
    (hd : ¬P d) (h : FirstAfter P (edit d) edits) : FirstAfter P d (edit :: edits) where
  after := h.after
  before early he hne := by
    cases early with
    | nil => exact hd
    | cons first rest =>
      obtain ⟨rfl, hrest⟩ := List.cons_prefix_cons.mp he
      exact h.before rest hrest fun hr => hne (by rw [hr])

/-- There is no other first time. -/
theorem FirstAfter.eq {P : Disk → Prop} {d : Disk} {edits before before' rest rest' : List Edit}
    (h : FirstAfter P d before) (h' : FirstAfter P d before') (he : edits = before ++ rest)
    (he' : edits = before' ++ rest') : before = before' := by
  by_contra hne
  have hp : before <+: edits := ⟨rest, he.symm⟩
  have hp' : before' <+: edits := ⟨rest', he'.symm⟩
  rcases List.prefix_or_prefix_of_prefix hp hp' with hle | hle
  · exact h'.before before hle hne h.after
  · exact h.before before' hle (Ne.symm hne) h'.after

section

variable {logger : Logger} {g : Graph} {baseDir target : String} {since : Time}
  {edits : List Edit} {w : Workspace}

/-- A look that fails is the last one. -/
theorem looks_of_error {e : BuildError}
    (h : isChanged g baseDir target since w.disk = .error e) :
    looks logger g baseDir target since edits w = (.failed e, edits, w) := by
  rw [looks.eq_def]
  simp only [h]

/-- A look that finds a change is the last one. -/
theorem looks_of_change (h : isChanged g baseDir target since w.disk = .ok true) :
    looks logger g baseDir target since edits w =
      (.changed, edits, w.note logger (target ++ " changed, rebuilding")) := by
  rw [looks.eq_def]
  simp only [h]

/-- After a look that finds no change comes the next edit. -/
theorem looks_cons {edit : Edit}
    (h : isChanged g baseDir target since w.disk = .ok false) :
    looks logger g baseDir target since (edit :: edits) w =
      looks logger g baseDir target since edits (w.withDisk (edit w.disk)) := by
  rw [looks.eq_def]
  simp only [h]

theorem looks_nil (h : isChanged g baseDir target since w.disk = .ok false) :
    looks logger g baseDir target since [] w = (.unchanged, [], w) := by
  rw [looks.eq_def]
  simp only [h]

end

section

variable {g : Graph} {baseDir target : String} {since : Time} {P : Disk → Prop}
  (hok : ∀ d e, isChanged g baseDir target since d ≠ .error e)
  (hP : ∀ d, isChanged g baseDir target since d = .ok true ↔ P d)
  (logger : Logger) (edits : List Edit) (w : Workspace)
include hok hP

/-- Looks that never fail end with the first one that finds a change, or find none. -/
theorem looks_cases :
    let out := looks logger g baseDir target since edits w
    (∃ before, edits = before ++ out.2.1 ∧ out.1 = .changed ∧ FirstAfter P w.disk before) ∨
      out.1 = .unchanged ∧ ∀ before, before <+: edits → ¬P (edited before w.disk) := by
  induction edits generalizing w with
  | nil =>
    rcases hc : isChanged g baseDir target since w.disk with e | _ | _
    · exact absurd hc (hok _ e)
    · rw [looks_nil hc]
      refine Or.inr ⟨rfl, ?_⟩
      intro before hb hp
      rw [List.prefix_nil.mp hb] at hp
      cases hc.symm.trans ((hP _).mpr hp)
    · rw [looks_of_change hc]
      exact Or.inl ⟨[], rfl, rfl, firstAfter_nil ((hP _).mp hc)⟩
  | cons edit edits ih =>
    rcases hc : isChanged g baseDir target since w.disk with e | _ | _
    · exact absurd hc (hok _ e)
    · have hd : ¬P w.disk := fun hp => nomatch hc.symm.trans ((hP _).mpr hp)
      rw [looks_cons hc]
      rcases ih (w.withDisk (edit w.disk)) with ⟨before, he, hch, hf⟩ | ⟨hu, hno⟩
      · exact Or.inl ⟨edit :: before, congrArg _ he, hch, hf.cons hd⟩
      · refine Or.inr ⟨hu, ?_⟩
        intro before hb
        cases before with
        | nil => exact hd
        | cons first rest =>
          obtain ⟨rfl, hrest⟩ := List.cons_prefix_cons.mp hb
          exact hno rest hrest
    · rw [looks_of_change hc]
      exact Or.inl ⟨[], rfl, rfl, firstAfter_nil ((hP _).mp hc)⟩

/-- Looks find a change after exactly the edits that first make one. -/
theorem looks_changed_iff {before rest : List Edit} (he : edits = before ++ rest) :
    let out := looks logger g baseDir target since edits w
    (out.1 = .changed ∧ out.2.1 = rest) ↔ FirstAfter P w.disk before := by
  intro out
  rcases looks_cases hok hP logger edits w with ⟨first, hfirst, hc, hf⟩ | ⟨hu, hno⟩
  · constructor
    · rintro ⟨-, hrest⟩
      change edits = first ++ out.2.1 at hfirst
      rw [hrest, he, List.append_left_inj] at hfirst
      rwa [hfirst]
    · intro hb
      obtain rfl := hb.eq hf he hfirst
      exact ⟨hc, List.append_cancel_left (hfirst.symm.trans he)⟩
  · constructor
    · rintro ⟨hc, -⟩
      cases hu.symm.trans hc
    · intro hb
      exact absurd hb.after (hno before ⟨rest, he.symm⟩)

/-- Looks find no change exactly if there is none after any of the edits. -/
theorem looks_unchanged_iff :
    (looks logger g baseDir target since edits w).1 = .unchanged ↔
      ∀ before, before <+: edits → ¬P (edited before w.disk) := by
  rcases looks_cases hok hP logger edits w with ⟨first, hfirst, hc, hf⟩ | ⟨hu, hno⟩
  · constructor
    · intro hu
      cases hc.symm.trans hu
    · intro hno
      exact absurd hf.after (hno first ⟨_, hfirst.symm⟩)
  · exact ⟨fun _ => hno, fun _ => hu⟩

end

/-! ## Waits -/

section

variable {logger : Logger} {report : Reporter} {target : String} {edits edits' : List Edit}
  {reports reports' : List BuildError} {b b' : Builder} {w w' : Workspace}

/-- A name that a target leads to is later than a time. -/
def Shows (b : Builder) (target : String) (since : Time) (d : Disk) : Prop :=
  ∃ name, b.graph.Reaches target name ∧
    IsAfter since (d.modifiedTime? (Path.join b.session.baseDir name))

/-- In every round of a watch, whatever happens on the site of its build, and whatever is done to
the files before the wait begins at `start` and while it goes on: if a cycle can be reached, the
wait fails at once. Otherwise it ends with the first look after edits that give a name which the
target leads to a time later than the beginning of the wait, and without such edits it does not
end. -/
theorem wait_reports_later_times (hv : b.graph.visiting = [])
    (h : Begins logger report target edits reports b w edits' reports' b' w')
    (site : Site Workspace) (start : Workspace) (others : List Edit) :
    let g := (b'.graph.resolve site (Path.clean target) w').2.1.unresolveAll
    let since := start.disk.now
    let out := wait logger g b'.session.baseDir target since others start
    (b.graph.LeadsToCycle target → ∃ e, out.1 = .failed e ∧ out.2.1 = others) ∧
    (¬b.graph.LeadsToCycle target →
      (∀ before rest, others = before ++ rest → ((out.1 = .changed ∧ out.2.1 = rest) ↔
        FirstAfter (Shows b target since) start.disk before)) ∧
      (out.1 = .unchanged ↔
        ∀ before, before <+: others → ¬Shows b target since (edited before start.disk))) := by
  intro g since out
  have hkeeps := h.keeps.trans (keeps_pass b' site (Path.clean target) w')
  have hpoll := @Keeps.isChanged_iff _ _ target hkeeps hv since
  constructor
  · intro hlead
    obtain ⟨e, he⟩ := (hpoll start.disk).1.mpr hlead
    have hout : out = (.failed e, others, start.note logger ("waiting for changes to " ++ target)) :=
      looks_of_error he
    exact ⟨e, by rw [hout], by rw [hout]⟩
  · intro hno
    have hok : ∀ d e, isChanged g b'.session.baseDir target since d ≠ .error e :=
      fun d e he => hno ((hpoll d).1.mp ⟨e, he⟩)
    have hshows : ∀ d, isChanged g b'.session.baseDir target since d = .ok true ↔
        Shows b target since d :=
      fun d => (hpoll d).2.trans (and_iff_right hno)
    refine ⟨?_, looks_unchanged_iff hok hshows logger others _⟩
    intro before rest he
    exact looks_changed_iff hok hshows logger others _ he

end

/-- A target that is made in a directory which another one depends on. -/
def extended : Graph where
  targets := [("all", { name := "all", dependencies := ["src", "src/new"] }),
    ("src/new", { name := "src/new", commands := ["mkdir:"] })]

theorem graph_eq_extended :
    (Script.run (fun _ out => .ok out) "all: src src/new\nsrc/new <- mkdir:\n" ({}, ())).2.1.graph =
      extended := by
  decide +kernel

/-- A workspace at time 100, with a directory of time 50. -/
def sources : Workspace where
  disk := ((Disk.setUp 100).makeDirectory "." "src").2.touch "src" 50

theorem build_extended :
    let out := Builder.build { config := {}, session := {}, graph := extended } "all" sources
    let baseDir := out.2.1.session.baseDir
    out.1 = .ok () ∧ out.2.1.graph.modifiedAt? "src" = some 50 ∧
      out.2.2.disk.modifiedTime? (Path.join baseDir "src") = some 100 ∧
      isChanged out.2.1.graph.unresolveAll baseDir "all" out.2.2.disk.now out.2.2.disk =
        .ok false := by
  decide +kernel

/-- The directory was changed after the build had read its time, and the wait does not find that. -/
theorem wait_misses_edit_of_build :
    (Script.run (fun _ out => .ok out) "all: src src/new\nsrc/new <- mkdir:\n" ({}, ())).2.1.graph =
      extended ∧ extended.Reaches "all" "src" ∧
    ∃ b' w', Awaits {} (fun _ _ w => (false, w)) "all" [] []
        { config := {}, session := {}, graph := extended } sources [] [] b' w' ∧
      b'.graph.modifiedAt? "src" = some 50 ∧
      w'.disk.modifiedTime? (Path.join b'.session.baseDir "src") = some 100 ∧
      (wait {} b'.graph b'.session.baseDir "all" w'.disk.now [] w').1 = .unchanged := by
  have hb := build_extended
  refine ⟨graph_eq_extended, .single (by decide : "src" ∈ extended.dependenciesOf "all"), ?_⟩
  rcases ho : Builder.build { config := {}, session := {}, graph := extended } "all" sources with
    ⟨result, b', w'⟩
  rw [ho] at hb
  obtain ⟨rfl, hread, hlate, hlook⟩ := hb
  refine ⟨_, w', .now (.well ho), ?_, hlate, ?_⟩
  · rw [modifiedAt?_unresolveAll]
    exact hread
  · exact congrArg Prod.fst (looks_nil hlook)

/-- By the theorem, a later edit is found by the first look after it. -/
theorem wait_reports_later_times_extended :
    extended.visiting = [] ∧ ¬extended.LeadsToCycle "all" ∧
      let b : Builder := { config := {}, session := {}, graph := extended }
      let g := (extended.resolve (b.session.site (runNested nestingLimit)) (Path.clean "all")
        sources).2.1.unresolveAll
      let edit : Edit := fun d => (d.wait 5).touch "src" 105
      let out := wait {} g "." "all" sources.disk.now [edit] sources
      out.1 = .changed ∧ out.2.1 = [] := by
  have hcycle : ¬extended.LeadsToCycle "all" :=
    not_leadsToCycle_of_resolve_ok
      (isSound_of_none_resolved (isResolved_eq_false (by decide))) build_extended.1
  refine ⟨rfl, hcycle, ?_⟩
  intro b g edit out
  have hsrc : extended.Reaches "all" "src" :=
    .single (by decide : "src" ∈ extended.dependenciesOf "all")
  have hearly : ∀ name ∈ ["all", "src", "src/new"],
      (sources.disk.modifiedTime? (Path.join "." name)).all (· ≤ sources.disk.now) = true := by
    decide +kernel
  have hno : ¬Shows b "all" sources.disk.now sources.disk := by
    rintro ⟨name, hr, time, htime, hlt⟩
    have hle := hearly name (hr.mem_of_closed (by decide) (by decide))
    rw [show sources.disk.modifiedTime? (Path.join "." name) = some time from htime] at hle
    exact absurd hlt (not_lt.mpr (of_decide_eq_true hle))
  have hlate : Shows b "all" sources.disk.now (edit sources.disk) :=
    ⟨"src", hsrc, 105, by decide +kernel, by decide +kernel⟩
  obtain ⟨-, h⟩ := wait_reports_later_times (b := b) rfl
    (.now : Begins {} (fun _ _ w => (false, w)) "all" [] [] b sources [] [] b sources)
    (b.session.site (runNested nestingLimit)) sources [edit]
  exact ((h hcycle).1 [edit] [] rfl).mpr ((firstAfter_nil hlate).cons hno)

end BuildTool.Watch
