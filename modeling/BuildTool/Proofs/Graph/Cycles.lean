import BuildTool.Proofs.Graph.Recording

/-!
# Cycles

`resolve` tells whether the names it can reach depend on themselves:

    ok                    no reachable name depends on itself, and all of them are done
    cyclic dependency c   c is reachable and depends on itself

The first is `IsSound`, which the walk of a pass keeps. The second is `Marked`: a name that is
found marked leads to itself, and the depth is never used up. When nothing else goes wrong, a
pass ends in one of the two.
-/

namespace BuildTool

variable {σ : Type}

/-- No command fails with this error. -/
def Site.NeverFailsWith (site : Site σ) (e : BuildError) : Prop :=
  ∀ target command s, (site.run target command s).1 ≠ .error e

namespace Graph

/-- A name that depends on itself can be reached. -/
def LeadsToCycle (g : Graph) (name : String) : Prop :=
  ∃ other, g.Reaches name other ∧ g.DependsOn other other

theorem SameRecipes.leadsToCycle {g h : Graph} (same : SameRecipes g h) :
    h.LeadsToCycle = g.LeadsToCycle := by
  funext name
  unfold LeadsToCycle
  rw [same.reaches, same.dependsOn]

/-! ## Errors of commands -/

section

variable {site : Site σ} {e : BuildError}

theorem runCommands_ne_error (h : site.NeverFailsWith e) (target : String)
    (commands : List String) (s : σ) : (runCommands site target commands s).1 ≠ .error e := by
  induction commands generalizing s with
  | nil => exact nofun
  | cons command rest ih =>
    rw [runCommands]
    have hne := h target command (site.note (target ++ ": " ++ command) s)
    rcases ho : site.run target command (site.note (target ++ ": " ++ command) s)
      with ⟨e' | _, s'⟩
    · rw [ho] at hne
      exact hne
    · exact ih s'

theorem outcome_ne_error (h : site.NeverFailsWith e) (g : Graph) (v : Visit σ) :
    (v.outcome site g).1 ≠ .error e := by
  rw [Visit.outcome_eq]
  split
  · exact runCommands_ne_error h _ _ _
  · exact nofun

end

/-! ## What the endings of a pass tell -/

section

variable {site : Site σ} {depth : Nat} {name : String} {st : Graph × σ}
  {out : Except BuildError Unit × Graph × σ}

/-- How a pass ends with an error that no command fails with. -/
theorem IsPass.error_cases (h : IsPass site depth name st out) {e : BuildError}
    (hf : site.NeverFailsWith e) (ho : out.1 = .error e) :
    (∃ c, e = .cyclicDependency c ∧ st.1.Reaches name c ∧
      (st.1.Marked depth name → st.1.DependsOn c c)) ∨
    (e = .unknownTarget name ∧ st.1.contains name = false) ∨
    ∃ t d, e = .unknownDependency t d ∧ st.1.Reaches name t ∧ st.1.Needs t d ∧
      Checks site depth name st d out.2.2 ∧ site.pathExists out.2.2 d = false := by
  obtain ⟨result, g, s⟩ := out
  cases ho
  obtain ⟨visits, s', -, -, he⟩ := h
  generalize hr : (Except.error e : Except BuildError Unit) = r at he
  cases he with
  | done => cases hr
  | cyclic hreach hcyc =>
    cases hr
    exact Or.inl ⟨_, rfl, hreach, hcyc⟩
  | unknownTarget hc =>
    cases hr
    exact Or.inr (Or.inl ⟨rfl, hc⟩)
  | unknownDependency hreach hneeds _ hpath hchecks =>
    cases hr
    exact Or.inr (Or.inr ⟨_, _, rfl, hreach, hneeds, hchecks, hpath⟩)
  | @failed v _ _ _ _ _ _ ho =>
    cases hr
    exact absurd (congrArg Prod.fst ho) (outcome_ne_error hf g v)

/-- A name that a pass reports as cyclic can be reached and depends on itself. -/
theorem IsPass.dependsOn_of_cyclic (h : IsPass site depth name st out)
    (hm : st.1.Marked depth name) {c : String} (hf : site.NeverFailsWith (.cyclicDependency c))
    (ho : out.1 = .error (.cyclicDependency c)) :
    st.1.Reaches name c ∧ st.1.DependsOn c c := by
  obtain ⟨c', he, hreach, hcyc⟩ | ⟨he, -⟩ | ⟨t, d, he, -⟩ := h.error_cases hf ho
  · cases he
    exact ⟨hreach, hcyc hm⟩
  · cases he
  · cases he

end

/-- No cycle is below a name that a pass over a sound graph ends well for. -/
theorem not_leadsToCycle_of_resolve_ok {site : Site σ} {name : String} {g : Graph} {s : σ}
    (hg : g.IsSound) (ho : (g.resolve site name s).1 = .ok ()) : ¬g.LeadsToCycle name := by
  rintro ⟨other, hr, hd⟩
  exact ((resolve_isPass site name g s).reaches_of_ok hg ho hr).1 hd

/-- If no command fails and no path is missing, a pass ends well or with a cycle. -/
theorem resolve_ok_or_cyclic {site : Site σ} {name : String} {g : Graph} {s : σ}
    (hc : g.contains name = true) (hrun : ∀ a ∈ g.attempts site name s, a.succeeded = true)
    (hpath : ∀ d s', Checks site g.depthBound name (g, s) d s' → site.pathExists s' d = true) :
    (g.resolve site name s).1 = .ok () ∨
      ∃ c, (g.resolve site name s).1 = .error (.cyclicDependency c) := by
  rcases resolve_cases hrun with ho | ho | ⟨hno, -⟩ | ⟨t, d, s', -, hk, hmissing⟩
  · exact Or.inl ho
  · exact Or.inr ho
  · rw [hno] at hc
    cases hc
  · rw [hpath d s' hk] at hmissing
    cases hmissing

/-- A pass over a graph in which nothing is done or marked ends well only if no cycle can be
reached, and then everything that can be reached is done. It reports a cycle only for a name that
can be reached and depends on itself. If commands succeed and paths exist where the pass checks
for them, it ends well exactly if no cycle can be reached, and reports one otherwise. -/
theorem resolve_finds_cycles {g : Graph} (hg : ∀ name, g.isResolved name = false)
    (hv : g.visiting = []) {site : Site σ}
    (hf : ∀ c, site.NeverFailsWith (.cyclicDependency c)) (name : String) (s : σ) :
    ((g.resolve site name s).1 = .ok () → ¬g.LeadsToCycle name ∧ ∀ other, g.Reaches name other →
      (g.resolve site name s).2.1.contains other = true ∧
      (g.resolve site name s).2.1.isResolved other = true) ∧
    (∀ c, (g.resolve site name s).1 = .error (.cyclicDependency c) →
      g.Reaches name c ∧ g.DependsOn c c) ∧
    (g.contains name = true → (∀ a ∈ g.attempts site name s, a.succeeded = true) →
      (∀ d s', Checks site g.depthBound name (g, s) d s' → site.pathExists s' d = true) →
      ((g.resolve site name s).1 = .ok () ↔ ¬g.LeadsToCycle name) ∧
      (g.LeadsToCycle name → ∃ c, (g.resolve site name s).1 = .error (.cyclicDependency c))) := by
  have hp := resolve_isPass site name g s
  have hok : ∀ other, (g.resolve site name s).1 = .ok () → g.Reaches name other →
      ¬g.DependsOn other other ∧ (g.resolve site name s).2.1.isResolved other = true :=
    fun other ho hr => hp.reaches_of_ok (isSound_of_none_resolved hg) ho hr
  have hcyc : ∀ c, (g.resolve site name s).1 = .error (.cyclicDependency c) →
      g.Reaches name c ∧ g.DependsOn c c :=
    fun c ho => hp.dependsOn_of_cyclic (marked_depthBound hv name) (hf c) ho
  have hnone : (g.resolve site name s).1 = .ok () → ¬g.LeadsToCycle name := by
    rintro ho ⟨other, hr, hd⟩
    exact (hok other ho hr).1 hd
  refine ⟨?_, hcyc, ?_⟩
  · intro ho
    refine ⟨hnone ho, ?_⟩
    intro other hr
    obtain ⟨-, hres⟩ := hok other ho hr
    exact ⟨contains_of_isResolved hres, hres⟩
  · intro hc hrun hpath
    rcases resolve_ok_or_cyclic hc hrun hpath with ho | ⟨c, ho⟩
    · exact ⟨⟨hnone, fun _ => ho⟩, fun h => absurd h (hnone ho)⟩
    · have hlead : g.LeadsToCycle name := ⟨c, hcyc c ho⟩
      refine ⟨⟨hnone, fun h => absurd hlead h⟩, fun _ => ⟨c, ho⟩⟩

/-- Two targets of which each depends on the other, and one that depends on them. -/
def ring : Graph where
  targets := [("all", { name := "all", dependencies := ["left"] }),
    ("left", { name := "left", dependencies := ["right"] }),
    ("right", { name := "right", dependencies := ["left"] })]

theorem shelf_neverFailsWith_cyclicDependency (c : String) :
    Site.shelf.NeverFailsWith (.cyclicDependency c) := by
  intro target command s
  simp only [Site.shelf]
  split <;> simp [BuildError.command]

theorem not_checks_ring {depth : Nat} {name d : String} {s s' : List (String × Time)} :
    ¬Checks Site.shelf depth name (ring, s) d s' := by
  intro hk
  obtain ⟨hc, t, -, hn⟩ := hk.needs
  have ht := mem_names_of_contains (contains_of_mem_dependenciesOf hn)
  have : ∀ t ∈ ring.names, ∀ d ∈ ring.dependenciesOf t, ring.contains d = true := by decide
  rw [this t ht d hn] at hc
  cases hc

theorem resolve_finds_cycles_ring :
    (∃ c, (ring.resolve Site.shelf "all" []).1 = .error (.cyclicDependency c)) ∧
      ring.LeadsToCycle "all" := by
  have hg : ∀ name, ring.isResolved name = false := isResolved_eq_false (by decide)
  have hl : ring.Needs "left" "right" := (by decide : "right" ∈ ring.dependenciesOf "left")
  have hr : ring.Needs "right" "left" := (by decide : "left" ∈ ring.dependenciesOf "right")
  have ha : ring.Needs "all" "left" := (by decide : "left" ∈ ring.dependenciesOf "all")
  have hlead : ring.LeadsToCycle "all" := ⟨"left", .single ha, .tail (.single hl) hr⟩
  obtain ⟨-, -, h⟩ :=
    resolve_finds_cycles hg rfl shelf_neverFailsWith_cyclicDependency "all" []
  obtain ⟨-, hcyc⟩ := h (by decide) (by decide +kernel) fun d s' hk => absurd hk not_checks_ring
  exact ⟨hcyc hlead, hlead⟩

end Graph

end BuildTool
