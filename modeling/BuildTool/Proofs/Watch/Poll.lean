import BuildTool.Proofs.Graph.Consistency
import BuildTool.Proofs.Graph.Newest
import BuildTool.Proofs.Path.Normal
import BuildTool.Watch

/-!
# What a watch looks at

A build cleans the name it is given, and the wait after it does not. All names that a script
declares are clean, so that another spelling of one is, for the wait, a name without a target:

    watch a       builds a     waits for a change of a or of anything it depends on
    watch ./a     builds a     waits for a change of the file ./a

The graph that a wait looks at has the recipes that the script declared, however many rounds
there were before it (`Awaits.keeps`).
-/

namespace BuildTool.Watch

open BuildTool.Graph

/-! ## Rounds -/

section

variable (logger : Logger) (report : Reporter) (target : String)

/-- A round builds the target, and whoever gets its report, if there is one, wants to go on:
reports, builder and workspace before and after it. -/
inductive Builds (reports : List BuildError) (b : Builder) (w : Workspace) :
    List BuildError → Builder → Workspace → Prop
  | well {b' : Builder} {w' : Workspace} : b.build target w = (.ok (), b', w') →
      Builds reports b w reports { b' with graph := b'.graph.unresolveAll } w'
  | badly {e : BuildError} {b' : Builder} {w' w'' : Workspace} :
      b.build target w = (.error e, b', w') → report reports.length e w' = (false, w'') →
      Builds reports b w (reports ++ [e]) { b' with graph := b'.graph.unresolveAll } w''

/-- A watch comes to wait for a change with these edits, reports, builder and workspace. -/
inductive Awaits : List Edit → List BuildError → Builder → Workspace →
    List Edit → List BuildError → Builder → Workspace → Prop
  | now {edits : List Edit} {reports reports' : List BuildError} {b b' : Builder}
      {w w' : Workspace} : Builds report target reports b w reports' b' w' →
      Awaits edits reports b w edits reports' b' w'
  | later {edits edits₁ edits' : List Edit} {reports reports₁ reports' : List BuildError}
      {b b₁ b' : Builder} {w w₁ w₂ w' : Workspace} :
      Builds report target reports b w reports₁ b₁ w₁ →
      wait logger b₁.graph b₁.session.baseDir target w₁.disk.now edits w₁ =
        (.changed, edits₁, w₂) →
      Awaits edits₁ reports₁ b₁ w₂ edits' reports' b' w' →
      Awaits edits reports b w edits' reports' b' w'

/-- A watch comes to begin a round with these edits, reports, builder and workspace. -/
inductive Begins : List Edit → List BuildError → Builder → Workspace →
    List Edit → List BuildError → Builder → Workspace → Prop
  | now {edits : List Edit} {reports : List BuildError} {b : Builder} {w : Workspace} :
      Begins edits reports b w edits reports b w
  | later {edits edits₁ edits' : List Edit} {reports reports₁ reports' : List BuildError}
      {b b₁ b' : Builder} {w w₁ w₂ w' : Workspace} :
      Builds report target reports b w reports₁ b₁ w₁ →
      wait logger b₁.graph b₁.session.baseDir target w₁.disk.now edits w₁ =
        (.changed, edits₁, w₂) →
      Begins edits₁ reports₁ b₁ w₂ edits' reports' b' w' →
      Begins edits reports b w edits' reports' b' w'

/-- A watch from the end of a wait on. -/
def goOn (count : Nat) (reports : List BuildError) (b : Builder) :
    WaitEnd × List Edit × Workspace → Watched
  | (.failed e, _, w) => ⟨.failed e, reports, b, w⟩
  | (.unchanged, _, w) => ⟨.endless, reports, b, w⟩
  | (.changed, edits, w) => rounds logger report target count edits reports b w

end

section

variable {logger : Logger} {report : Reporter} {target : String} {edits edits' : List Edit}
  {reports reports' : List BuildError} {b b' : Builder} {w w' : Workspace}

/-- A watch waits after a build. -/
theorem rounds_of_builds (h : Builds report target reports b w reports' b' w') (count : Nat) :
    rounds logger report target (count + 1) edits reports b w =
      goOn logger report target count reports' b'
        (wait logger b'.graph b'.session.baseDir target w'.disk.now edits w') := by
  cases h with
  | well ho =>
    simp only [rounds, ho, Bool.false_eq_true, if_false]
    rfl
  | badly ho hr =>
    simp only [rounds, ho, hr, Bool.false_eq_true, if_false]
    rfl

/-- A watch that does not wait after a build is stopped by whoever gets its reports. -/
theorem builds_or_stopped (logger : Logger) (report : Reporter) (target : String)
    (edits : List Edit) (reports : List BuildError) (b : Builder) (w : Workspace) (count : Nat) :
    (∃ reports' b' w', Builds report target reports b w reports' b' w') ∨
      (∃ e w', (report reports.length e w').1 = true) ∧
        (rounds logger report target (count + 1) edits reports b w).finish = .stopped := by
  rcases ho : b.build target w with ⟨e | _, b', w'⟩
  · rcases hr : report reports.length e w' with ⟨_ | _, w''⟩
    · exact Or.inl ⟨_, _, _, .badly ho hr⟩
    · refine Or.inr ⟨⟨e, w', by rw [hr]⟩, ?_⟩
      simp only [rounds, ho, hr, if_true]
  · exact Or.inl ⟨_, _, _, .well ho⟩

theorem looks_eq_failed {g : Graph} {baseDir : String} {since : Time} {e : BuildError}
    (h : (looks logger g baseDir target since edits w).1 = .failed e) :
    ∃ d, isChanged g baseDir target since d = .error e := by
  induction edits generalizing w with
  | nil =>
    rw [looks] at h
    split at h
    · next he =>
      cases h
      exact ⟨_, he⟩
    · cases h
    · cases h
  | cons edit rest ih =>
    rw [looks] at h
    split at h
    · next he =>
      cases h
      exact ⟨_, he⟩
    · cases h
    · exact ih h

/-- A watch that ends with an error does so in the wait of a round. -/
theorem rounds_eq_failed {count : Nat} {e : BuildError}
    (h : (rounds logger report target count edits reports b w).finish = .failed e) :
    ∃ edits₁ reports₁ b₁ w₁ b' w',
      Begins logger report target edits reports b w edits₁ reports₁ b₁ w₁ ∧
      Builds report target reports₁ b₁ w₁
        (rounds logger report target count edits reports b w).reports b' w' ∧
      (wait logger b'.graph b'.session.baseDir target w'.disk.now edits₁ w').1 = .failed e := by
  induction count generalizing edits reports b w with
  | zero => cases h
  | succ count ih =>
    rcases builds_or_stopped logger report target edits reports b w count with
      ⟨reports₁, b₁, w₁, hb⟩ | ⟨-, hs⟩
    · rw [rounds_of_builds hb] at h ⊢
      rcases hw : wait logger b₁.graph b₁.session.baseDir target w₁.disk.now edits w₁
        with ⟨_ | e' | _, edits₁, w₂⟩
      · rw [hw] at h
        obtain ⟨edits₂, reports₂, b₂, w₃, b', w', hbegins, hbuilds, hwait⟩ := ih h
        exact ⟨edits₂, reports₂, b₂, w₃, b', w', .later hb hw hbegins, hbuilds, hwait⟩
      · rw [hw] at h
        cases h
        exact ⟨edits, reports, b, w, b₁, w₁, .now, hb, congrArg Prod.fst hw⟩
      · rw [hw] at h
        cases h
    · rw [hs] at h
      cases h

/-! ## The graph of a wait -/

/-- The graph of a builder has the recipes and the marks of another's, in one base directory. -/
structure Keeps (b b' : Builder) : Prop where
  sameRecipes : SameRecipes b.graph b'.graph
  visiting : b'.graph.visiting = b.graph.visiting
  session : b'.session = b.session

theorem Keeps.refl (b : Builder) : Keeps b b := ⟨.refl b.graph, rfl, rfl⟩

theorem Keeps.trans {b₁ : Builder} (h : Keeps b b₁) (more : Keeps b₁ b') : Keeps b b' where
  sameRecipes := h.sameRecipes.trans more.sameRecipes
  visiting := more.visiting.trans h.visiting
  session := more.session.trans h.session

/-- A pass keeps the recipes, whatever happens on its site. -/
theorem keeps_pass (b : Builder) (site : Site Workspace) (name : String) (w : Workspace) :
    Keeps b { b with graph := (b.graph.resolve site name w).2.1.unresolveAll } := by
  obtain ⟨same, hv, -⟩ := after_keeps [.pass site name, .unresolve] (b.graph, w)
  exact ⟨same, hv, rfl⟩

theorem keeps_build (b : Builder) (target : String) (w : Workspace) :
    Keeps b { (b.build target w).2.1 with graph := (b.build target w).2.1.graph.unresolveAll } :=
  keeps_pass b (b.session.site (runNested nestingLimit)) (Path.clean target) w

theorem Builds.keeps (h : Builds report target reports b w reports' b' w') : Keeps b b' := by
  have hk := keeps_build b target w
  cases h with
  | well ho =>
    rw [ho] at hk
    exact hk
  | badly ho =>
    rw [ho] at hk
    exact hk

theorem Awaits.keeps (h : Awaits logger report target edits reports b w edits' reports' b' w') :
    Keeps b b' := by
  induction h with
  | now hb => exact hb.keeps
  | later hb _ _ ih => exact hb.keeps.trans ih

theorem Begins.keeps (h : Begins logger report target edits reports b w edits' reports' b' w') :
    Keeps b b' := by
  induction h with
  | now => exact .refl _
  | later hb _ _ ih => exact hb.keeps.trans ih

end

/-! ## Polls -/

theorem any_lt_iff (since : Time) (newest : Option Time) :
    newest.any (fun time => decide (since < time)) = true ↔ IsAfter since newest := by
  cases newest <;> simp [IsAfter]

section

variable {g : Graph} (baseDir target : String) (since : Time) (d : Disk)

/-- A look at the files fails exactly if a cycle can be reached, and otherwise finds a change
exactly if a name that can be reached has a later time. -/
theorem isChanged_iff (hv : g.visiting = []) :
    ((∃ e, isChanged g baseDir target since d = .error e) ↔ g.LeadsToCycle target) ∧
      (isChanged g baseDir target since d = .ok true ↔ ¬g.LeadsToCycle target ∧
        ∃ name, g.Reaches target name ∧
          IsAfter since (d.modifiedTime? (Path.join baseDir name))) := by
  rcases lastUpdated_cases hv (fun name => d.modifiedTime? (Path.join baseDir name)) target with
    ⟨newest, ho, hn⟩ | ⟨c, ho, hr, hc⟩
  · have hp : isChanged g baseDir target since d =
        .ok (newest.any fun time => decide (since < time)) := by
      rw [isChanged, ho]
      rfl
    rw [hp, Except.ok.injEq, any_lt_iff, hn.isAfter_iff]
    exact ⟨⟨nofun, fun h => absurd h hn.acyclic⟩, ⟨fun h => ⟨hn.acyclic, h⟩, fun h => h.2⟩⟩
  · have hlead : g.LeadsToCycle target := ⟨c, hr, hc⟩
    have hp : isChanged g baseDir target since d = .error (.cyclicDependency c) := by
      rw [isChanged, ho]
      rfl
    rw [hp]
    exact ⟨⟨fun _ => hlead, fun _ => ⟨_, rfl⟩⟩, ⟨nofun, fun h => absurd hlead h.1⟩⟩

/-- A look at a name that nothing is declared of is a look at one file. -/
theorem isChanged_of_no_dependencies (hv : g.visiting = [])
    (hd : g.dependenciesOf target = []) :
    isChanged g baseDir target since d =
      .ok ((d.modifiedTime? (Path.join baseDir target)).any fun time => decide (since < time)) := by
  have ho : g.lastUpdated (fun name => d.modifiedTime? (Path.join baseDir name)) target =
      .ok (d.modifiedTime? (Path.join baseDir target)) := by
    have hm : target ∉ g.visiting := by
      rw [hv]
      exact List.not_mem_nil
    unfold lastUpdated lastUpdatedFrom depthBound
    rw [lastUpdatedWithin_succ, if_neg hm, hd]
    rfl
  rw [isChanged, ho]
  rfl

end

/-! ## Spellings -/

section

variable {b b' : Builder} {target : String} (h : Keeps b b') (hv : b.graph.visiting = [])
  (since : Time) (d : Disk)
include h hv

theorem Keeps.isChanged_iff :
    ((∃ e, isChanged b'.graph b'.session.baseDir target since d = .error e) ↔
        b.graph.LeadsToCycle target) ∧
      (isChanged b'.graph b'.session.baseDir target since d = .ok true ↔
        ¬b.graph.LeadsToCycle target ∧ ∃ name, b.graph.Reaches target name ∧
          IsAfter since (d.modifiedTime? (Path.join b.session.baseDir name))) := by
  have hi := Watch.isChanged_iff b'.session.baseDir target since d (h.visiting.trans hv)
  rw [h.session] at hi ⊢
  rwa [h.sameRecipes.reaches, h.sameRecipes.leadsToCycle] at hi

theorem Keeps.isChanged_of_not_contains (hc : b.graph.contains target = false) :
    isChanged b'.graph b'.session.baseDir target since d =
      .ok ((d.modifiedTime? (Path.join b.session.baseDir target)).any fun time =>
        decide (since < time)) := by
  have hd : b'.graph.dependenciesOf target = [] := by
    rw [h.sameRecipes.dependenciesOf, dependenciesOf, targetOf_of_not_contains hc]
  rw [isChanged_of_no_dependencies b'.session.baseDir target since d (h.visiting.trans hv) hd,
    h.session]

end

section

variable {τ : Type} (say : String → τ → Except BuildError τ) (script : String) (plan : Plan)
  (out : τ) {logger : Logger} {report : Reporter} {target : String} {edits edits' : List Edit}
  {reports reports' : List BuildError} {b b' : Builder} {w w' : Workspace}
  (hb : b.graph = (Script.run say script ({ plan with graph := {} }, out)).2.1.graph)
include hb

theorem visiting_of_eq_run : b.graph.visiting = [] := by
  rw [hb]
  exact (isConsistent_of_run say script plan out).unmarked

/-- Nothing is declared of a name in another spelling than its clean one. -/
theorem not_contains_of_clean_ne (hne : Path.clean target ≠ target) :
    b.graph.contains target = false := by
  refine Bool.eq_false_iff.mpr fun hc => hne ?_
  exact clean_eq_of_run say script plan out (hb ▸ hc)

/-- In every round of a watch of a target in its clean spelling, a look at the files fails
exactly if the target leads to a cycle, and otherwise finds a change exactly if the target or
something that it depends on has a later time. In another spelling of a target it finds a change
exactly if the file of that spelling has a later time, whatever the target that is built depends
on. -/
theorem poll_of_spelling
    (h : Awaits logger report target edits reports b w edits' reports' b' w') (since : Time)
    (d : Disk) :
    let poll := isChanged b'.graph b'.session.baseDir target since d
    let time name := d.modifiedTime? (Path.join b.session.baseDir name)
    (Path.clean target = target →
      ((∃ e, poll = .error e) ↔ b.graph.LeadsToCycle (Path.clean target)) ∧
      (poll = .ok true ↔ ¬b.graph.LeadsToCycle (Path.clean target) ∧
        ∃ name, b.graph.Reaches (Path.clean target) name ∧ IsAfter since (time name))) ∧
    (Path.clean target ≠ target →
      poll = .ok ((time target).any fun time => decide (since < time))) := by
  intro poll time
  have hv := visiting_of_eq_run say script plan out hb
  constructor
  · intro hclean
    rw [hclean]
    exact h.keeps.isChanged_iff hv since d
  · intro hne
    have hc := not_contains_of_clean_ne say script plan out hb hne
    exact h.keeps.isChanged_of_not_contains hv since d hc

end

/-- Two targets that need each other. -/
def twins : Graph where
  targets := [("a", { name := "a", dependencies := ["b"] }),
    ("b", { name := "b", dependencies := ["a"] })]

theorem graph_eq_twins :
    (Script.run (fun _ out => .ok out) "a: b\nb: a\n" ({}, ())).2.1.graph = twins := by
  decide +kernel

theorem twins_leadsToCycle : twins.LeadsToCycle "a" := by
  have ha : twins.Needs "a" "b" := (by decide : "b" ∈ twins.dependenciesOf "a")
  have hb : twins.Needs "b" "a" := (by decide : "a" ∈ twins.dependenciesOf "b")
  exact ⟨"a", .refl, .tail (.single ha) hb⟩

/-- A reporter that wants all reports lets a watch come to a wait. -/
theorem exists_awaits (target : String) (b : Builder) (w : Workspace) :
    ∃ reports' b' w', Awaits {} (fun _ _ w => (false, w)) target [] [] b w [] reports' b' w' := by
  rcases builds_or_stopped {} (fun _ _ w => (false, w)) target [] [] b w 0 with
    ⟨reports', b', w', hb⟩ | ⟨⟨e, w', ht⟩, -⟩
  · exact ⟨reports', b', w', .now hb⟩
  · cases ht

/-- In another spelling of its name, a target that leads to a cycle is waited for. -/
theorem poll_misses_cycle :
    Path.clean "./a" = "a" ∧ twins.LeadsToCycle (Path.clean "./a") ∧
      ∃ reports' b' w', Awaits {} (fun _ _ w => (false, w)) "./a" [] []
        { config := {}, session := {}, graph := twins } { disk := Disk.setUp 0 } []
        reports' b' w' ∧
        ∀ since d e, isChanged b'.graph b'.session.baseDir "./a" since d ≠ .error e := by
  have hclean : Path.clean "./a" = "a" := by decide +kernel
  refine ⟨hclean, hclean ▸ twins_leadsToCycle, ?_⟩
  obtain ⟨reports', b', w', h⟩ := exists_awaits "./a"
    { config := {}, session := {}, graph := twins } { disk := Disk.setUp 0 }
  refine ⟨reports', b', w', h, ?_⟩
  intro since d e he
  rw [h.keeps.isChanged_of_not_contains rfl since d (by decide)] at he
  cases he

theorem poll_of_spelling_twins :
    (Script.run (fun _ out => .ok out) "a: b\nb: a\n" ({}, ())).2.1.graph = twins ∧
      Path.clean "a" = "a" ∧ ∃ reports' b' w', Awaits {} (fun _ _ w => (false, w)) "a" [] []
        { config := {}, session := {}, graph := twins } { disk := Disk.setUp 0 } []
        reports' b' w' ∧
        ∃ e, isChanged b'.graph b'.session.baseDir "a" 0 (Disk.setUp 0) = .error e := by
  have hclean : Path.clean "a" = "a" := by decide +kernel
  obtain ⟨reports', b', w', h⟩ := exists_awaits "a"
    { config := {}, session := {}, graph := twins } { disk := Disk.setUp 0 }
  refine ⟨graph_eq_twins, hclean, reports', b', w', h, ?_⟩
  have hp := poll_of_spelling (fun _ out => .ok out) "a: b\nb: a\n" {} () graph_eq_twins.symm h 0
    (Disk.setUp 0)
  exact (hp.1 hclean).1.mpr (hclean.symm ▸ twins_leadsToCycle)

end BuildTool.Watch
