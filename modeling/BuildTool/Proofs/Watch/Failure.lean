import BuildTool.Proofs.Watch.Wait

/-!
# How a watch fails

A watch walks over its graph twice in each round, once to build and once to look at times. Both
walks find the cycles that can be reached, though one of them makes targets on its way and passes
over those that are done, and the other does not:

    resolve is ok        no cycle is below the name, then and ever after
    lastUpdated is ok    the same

So a look fails only after a build that did, and a watch that ends with an error has reported
another one just before.
-/

namespace BuildTool

namespace Graph

variable {σ : Type}

/-- A name that a pass over a sound graph ended well for can be looked at, whatever is done after
the pass. -/
theorem lastUpdated_ok_of_resolve_ok {g : Graph} (hg : g.IsSound) (hv : g.visiting = [])
    {site : Site σ} {name : String} {s : σ} (ho : (g.resolve site name s).1 = .ok ())
    (moves : List (Move σ)) (modified : String → Option Time) :
    ∃ newest, (after moves (g.resolve site name s).2).1.lastUpdated modified name = .ok newest := by
  obtain ⟨same, hmarks, -⟩ := after_keeps (.pass site name :: moves) (g, s)
  rcases lastUpdated_cases (hmarks.trans hv) modified name with ⟨newest, hok, -⟩ | ⟨c, -, hr, hc⟩
  · exact ⟨newest, hok⟩
  · have hlead : g.LeadsToCycle name := same.leadsToCycle ▸ ⟨c, hr, hc⟩
    exact absurd hlead (not_leadsToCycle_of_resolve_ok hg ho)

end Graph

namespace Watch

open BuildTool.Graph

section

variable {logger : Logger} {report : Reporter} {target : String} {edits edits' : List Edit}
  {reports reports' : List BuildError} {b b' : Builder} {w w' : Workspace}

/-- A round leaves the graph of a pass, with nothing done. -/
theorem Builds.graph_eq (h : Builds report target reports b w reports' b' w') :
    b'.graph = (after [.pass (b.session.site (runNested nestingLimit)) (Path.clean target),
      .unresolve] (b.graph, w)).1 := by
  cases h with
  | well ho => exact congrArg (·.2.1.graph.unresolveAll) ho.symm
  | badly ho => exact congrArg (·.2.1.graph.unresolveAll) ho.symm

theorem Begins.isConsistent
    (h : Begins logger report target edits reports b w edits' reports' b' w')
    (hb : b.graph.IsConsistent) : b'.graph.IsConsistent := by
  induction h with
  | now => exact hb
  | later hbuilds _ _ ih =>
    refine ih ?_
    rw [hbuilds.graph_eq]
    exact hb.after _

/-- In a round in which the wait fails, the build has failed, and it was reported: no cycle is
below what a build ended well for, and none below a name that is not clean. -/
theorem Builds.eq_error_of_wait (h : Builds report target reports b w reports' b' w')
    (hb : b.graph.IsConsistent) (hclean : Path.clean target ≠ target → ¬b.graph.LeadsToCycle target)
    {since : Time} {e : BuildError}
    (hw : (wait logger b'.graph b'.session.baseDir target since edits w').1 = .failed e) :
    ∃ e', (b.build target w).1 = .error e' ∧ reports' = reports ++ [e'] := by
  obtain ⟨d, hd⟩ := looks_eq_failed hw
  have hlead : b.graph.LeadsToCycle target :=
    (h.keeps.isChanged_iff hb.unmarked since d).1.mp ⟨e, hd⟩
  cases h with
  | well ho =>
    have hok : (b.graph.resolve (b.session.site (runNested nestingLimit)) (Path.clean target) w).1 =
        .ok () := congrArg Prod.fst ho
    have hno := not_leadsToCycle_of_resolve_ok hb.sound hok
    by_cases he : Path.clean target = target
    · rw [he] at hno
      exact absurd hlead hno
    · exact absurd hlead (hclean he)
  | badly ho =>
    rw [ho]
    exact ⟨_, rfl, rfl⟩

end

/-- A name that a pass over a graph with nothing done ends well for can be looked at afterwards,
whatever else is done and whatever times there are then. So a watch of the graph that a script
declares, in any spelling of its target and after any other passes over the graph, ends with an
error only in a round whose build has failed, and that error is the last one it reported. -/
theorem failed_watch_reports_its_build :
    (∀ {σ : Type} {g : Graph}, g.IsFresh → ∀ (site : Site σ) (name : String) (s : σ),
      (g.resolve site name s).1 = .ok () →
      ∀ (moves : List (Move σ)) (modified : String → Option Time), ∃ newest,
        (after moves (g.resolve site name s).2).1.lastUpdated modified name = .ok newest) ∧
    (∀ {σ τ : Type} (say : String → τ → Except BuildError τ) (script : String) (plan : Plan)
      (out : τ) (moves : List (Move σ)) (s : σ) (b : Builder),
      let g := (Script.run say script ({ plan with graph := {} }, out)).2.1.graph
      b.graph = (after moves (g, s)).1 →
      ∀ (logger : Logger) (report : Reporter) (target : String) (count : Nat) (edits : List Edit)
        (w : Workspace) (e : BuildError),
      let watched := rounds logger report target count edits [] b w
      watched.finish = .failed e →
      ∃ edits' reports b' w' e' b'' w'',
        Begins logger report target edits [] b w edits' reports b' w' ∧
        (b'.build target w').1 = .error e' ∧ watched.reports = reports ++ [e'] ∧
        Builds report target reports b' w' watched.reports b'' w'' ∧
        (wait logger b''.graph b''.session.baseDir target w''.disk.now edits' w'').1 =
          .failed e) := by
  constructor
  · intro σ g hg site name s ho moves modified
    exact lastUpdated_ok_of_resolve_ok (isSound_of_none_resolved hg.unresolved) hg.unmarked ho
      moves modified
  · intro σ τ say script plan out moves s b g hb logger report target count edits w e watched hfail
    obtain ⟨edits', reports, b', w', b'', w'', hbegins, hbuilds, hwait⟩ := rounds_eq_failed hfail
    have hcons : b.graph.IsConsistent := by
      rw [hb]
      exact (isConsistent_of_run say script plan out).after moves
    have hclean : Path.clean target ≠ target → ¬b'.graph.LeadsToCycle target := by
      intro hne
      obtain ⟨same, -, -⟩ := after_keeps moves (g, s)
      have hc := not_contains_of_clean_ne say script plan out (b := { b with graph := g }) rfl hne
      rw [hbegins.keeps.sameRecipes.leadsToCycle, hb, same.leadsToCycle]
      exact not_leadsToCycle_of_not_contains hc
    obtain ⟨e', he', hreports⟩ :=
      hbuilds.eq_error_of_wait (hbegins.isConsistent hcons) hclean hwait
    exact ⟨edits', reports, b', w', e', b'', w'', hbegins, he', hreports, hbuilds, hwait⟩

theorem build_twins :
    let out := Builder.build { config := {}, session := {}, graph := twins } "a"
      { disk := Disk.setUp 0 }
    out.1 = .error (.cyclicDependency "a") ∧
      isChanged out.2.1.graph.unresolveAll out.2.1.session.baseDir "a" out.2.2.disk.now
        out.2.2.disk = .error (.cyclicDependency "a") := by
  decide +kernel

/-- A watch of two targets that need each other fails in its first round. -/
theorem rounds_twins :
    (rounds {} (fun _ _ w => (false, w)) "a" 1 [] []
      { config := {}, session := {}, graph := twins } { disk := Disk.setUp 0 }).finish =
        .failed (.cyclicDependency "a") := by
  have hb := build_twins
  rcases ho : Builder.build { config := {}, session := {}, graph := twins } "a"
    { disk := Disk.setUp 0 } with ⟨result, b', w'⟩
  rw [ho] at hb
  obtain ⟨rfl, hlook⟩ := hb
  rw [rounds_of_builds (.badly ho rfl) 0, wait]
  exact congrArg (fun ended => (goOn {} _ "a" 0 _ _ ended).finish) (looks_of_error hlook)

theorem failed_watch_reports_its_build_twins :
    ((object.resolve .shelf "a" [("x.c", 1)]).1 = .ok () ∧ ∃ newest,
      (after [.unresolve] (object.resolve .shelf "a" [("x.c", 1)]).2).1.lastUpdated
        (fun _ => none) "a" = .ok newest) ∧
    ∃ reports e', (rounds {} (fun _ _ w => (false, w)) "a" 1 [] []
      { config := {}, session := {}, graph := twins } { disk := Disk.setUp 0 }).reports =
        reports ++ [e'] := by
  have hok : (object.resolve .shelf "a" [("x.c", 1)]).1 = .ok () := by decide +kernel
  have h := failed_watch_reports_its_build
  refine ⟨⟨hok, h.1 object_isFresh .shelf "a" _ hok [.unresolve] fun _ => none⟩, ?_⟩
  obtain ⟨-, reports, -, -, e', -, -, -, -, hreports, -⟩ :=
    h.2 (fun _ out => .ok out) "a: b\nb: a\n" {} () ([] : List (Move Unit)) ()
      { config := {}, session := {}, graph := twins } graph_eq_twins.symm {}
      (fun _ _ w => (false, w)) "a" 1 [] { disk := Disk.setUp 0 } _ rounds_twins
  exact ⟨reports, e', hreports⟩

end Watch

end BuildTool
