import BuildTool.Proofs.Graph.Newest

/-!
# What calls leave as it was

A pass makes targets for dependencies that have a path, and marks targets as done. Nothing else
in a graph changes, however the pass ends:

    recipes     stay, and no target goes away
    resolved    changes only for targets in reach, which are not done or marked before
    new         only for what a target in reach needs and whose path the pass finds

`Advances` says what every call of `resolve` does to a graph, and every row of such calls. Looking
at times changes nothing, and `unresolveAll` changes targets that there are.
-/

namespace BuildTool.Graph

variable {σ : Type}

/-! ## Graphs that a pass may come to -/

/-- A graph that a pass, or a part of one, may make of another. -/
structure Advances (g h : Graph) : Prop where
  sameRecipes : SameRecipes g h
  visiting : h.visiting = g.visiting
  contains : ∀ n, g.contains n = true → h.contains n = true
  /-- a target that is done or marked is left alone -/
  settled : ∀ n, g.isResolved n = true ∨ n ∈ g.visiting → h.targetOf n = g.targetOf n
  /-- a target that changes is done -/
  undone : ∀ n, h.isResolved n = false → h.targetOf n = g.targetOf n

theorem Advances.refl (g : Graph) : Advances g g where
  sameRecipes := .refl g
  visiting := rfl
  contains _ hc := hc
  settled _ _ := rfl
  undone _ _ := rfl

theorem Advances.trans {g h k : Graph} (a : Advances g h) (b : Advances h k) : Advances g k where
  sameRecipes := a.sameRecipes.trans b.sameRecipes
  visiting := b.visiting.trans a.visiting
  contains n hc := b.contains n (a.contains n hc)
  settled n hn := by
    have he := a.settled n hn
    have hn' : h.isResolved n = true ∨ n ∈ h.visiting := by
      rw [isResolved, he, a.visiting]
      exact hn
    rw [b.settled n hn', he]
  undone n hn := by
    have he := b.undone n hn
    have hn' : h.isResolved n = false := by
      rw [isResolved, ← he]
      exact hn
    rw [he, a.undone n hn']

theorem advances_ensure (g : Graph) (name : String) : Advances g (g.ensure name) where
  sameRecipes := sameRecipes_ensure g name
  visiting := visiting_ensure g name
  contains n hc := by rw [contains_ensure, hc, Bool.or_true]
  settled n _ := targetOf_ensure g name n
  undone n _ := targetOf_ensure g name n

section

variable {site : Site σ} {st st' : Graph × σ} {visits : List (Visit σ)}

theorem Walk.targetOf_of_not_mem (w : Walk site st visits st') {n : String}
    (hn : n ∉ visits.map Visit.name) : st'.1.targetOf n = st.1.targetOf n := by
  induction w with
  | refl => rfl
  | adopt _ _ _ _ ih => rw [ih hn, targetOf_ensure]
  | visit _ _ _ _ ih =>
    rw [List.map_cons, List.mem_cons, not_or] at hn
    rw [ih hn.2, targetOf_modify_of_ne hn.1]

theorem Walk.advances (w : Walk site st visits st')
    (hv : ∀ v ∈ visits, v.name ∉ st.1.visiting) : Advances st.1 st'.1 where
  sameRecipes := w.sameRecipes
  visiting := w.visiting
  contains _ hc := w.contains hc
  settled n hn := by
    rcases hn with hr | hm
    · exact w.targetOf_of_isResolved hr
    · refine w.targetOf_of_not_mem fun hmem => ?_
      obtain ⟨v, hvisit, rfl⟩ := List.mem_map.mp hmem
      exact hv v hvisit hm
  undone n hn := by
    refine w.targetOf_of_not_mem fun hmem => ?_
    have hr : st'.1.isResolved n = true := (w.isResolved_iff n).mpr (Or.inr hmem)
    rw [hn] at hr
    cases hr

variable {depth : Nat} {name : String} {out : Except BuildError Unit × Graph × σ}

theorem IsPass.advances (h : IsPass site depth name st out) : Advances st.1 out.2.1 := by
  obtain ⟨visits, s, w, hv, -⟩ := h
  exact w.advances fun v hm => (hv v hm).2

theorem resolveAll_advances {resolveOne : String → Graph × σ → Except BuildError Unit × Graph × σ}
    (hone : ∀ d st, Advances st.1 (resolveOne d st).2.1) (deps : List String)
    (newest : Option Time) (st : Graph × σ) :
    Advances st.1 (resolveAll site resolveOne name deps newest st).2.1 :=
  resolveAll_keeps Advances.refl Advances.trans advances_ensure hone deps newest st

/-- Settling a target marks it as done or leaves the graph as it is. -/
theorem settle_graph (site : Site σ) (name : String) (newest : Option Time) (st : Graph × σ) :
    (settle site name newest st).2.1 = st.1 ∨
      ∃ time, (settle site name newest st).2.1 = st.1.modify name (·.doneAt time) := by
  obtain ⟨g, s⟩ := st
  simp only [settle]
  cases g.find? name with
  | none => exact Or.inl rfl
  | some target =>
    rcases ho : refresh site name target newest s with ⟨e | _, s'⟩
    · exact Or.inl (by simp only [ho])
    · exact Or.inr ⟨(timeOf site name s').1, by simp only [ho]⟩

/-- A pass leaves a target alone that it cannot reach. -/
theorem IsPass.targetOf_of_not_reaches (h : IsPass site depth name st out) {n : String}
    (hn : ¬st.1.Reaches name n) : out.2.1.targetOf n = st.1.targetOf n := by
  obtain ⟨visits, s, w, hv, -⟩ := h
  refine w.targetOf_of_not_mem fun hm => hn ?_
  obtain ⟨v, hvisit, rfl⟩ := List.mem_map.mp hm
  exact (hv v hvisit).1

end

/-! ## Targets that are new -/

/-- The pass below `name` has found the path of a dependency that had no target. -/
def Finds (site : Site σ) (depth : Nat) (name : String) (st : Graph × σ) (n : String) : Prop :=
  ∃ s, Checks site depth name st n s ∧ site.pathExists s n = true

section

variable {site : Site σ} {depth : Nat} {name : String} {st : Graph × σ}
  (ih : ∀ d st n, st.1.contains n = false →
    (resolveWithin site depth d st).2.1.contains n = true → Finds site depth d st n)
  (hr : st.1.isResolved name = false) (hm : name ∉ st.1.visiting)
  (hc : st.1.contains name = true)
include ih hr hm hc

/-- A target that is new after some of the dependencies of a name is one whose path was found. -/
theorem finds_of_resolveAll (before : List String) {rest : List String} {newest : Option Time}
    {st' : Graph × σ} (hdeps : st.1.dependenciesOf name = before ++ rest)
    (hb : resolveAll site (resolveWithin site depth) name before none (st.1.enter name, st.2) =
      (.ok newest, st')) {n : String} (hno : st'.1.contains n = false)
    (hn : (resolveAll site (resolveWithin site depth) name rest newest st').2.1.contains n = true) :
    Finds site (depth + 1) name st n := by
  induction rest generalizing before newest st' with
  | nil =>
    rw [resolveAll, hno] at hn
    cases hn
  | cons d rest ihr =>
    have hcome : ComesTo site depth name st d st' := ⟨hr, hm, hc, before, rest, newest, hdeps, hb⟩
    unfold resolveAll at hn
    split at hn
    · rw [hno] at hn
      cases hn
    · next hcond =>
      have hfound := missing_eq_false_iff.mp (Bool.eq_false_iff.mpr hcond)
      by_cases hd : (st'.1.ensure d).contains n = true
      · -- it is the dependency itself
        rw [contains_ensure, hno, Bool.or_false, beq_iff_eq] at hd
        subst hd
        refine ⟨st'.2, .own hcome hno, hfound.resolve_left ?_⟩
        rw [hno]
        exact Bool.false_ne_true
      · rw [Bool.not_eq_true] at hd
        have hbelow : (resolveWithin site depth d (st'.1.ensure d, st'.2)).2.1.contains n = true →
            Finds site (depth + 1) name st n := by
          intro hk
          obtain ⟨s, hchecks, hpath⟩ := ih d _ n hd hk
          exact ⟨s, .further hcome hfound hchecks, hpath⟩
        rcases ho : resolveWithin site depth d (st'.1.ensure d, st'.2) with ⟨e | _, st₁⟩
        · rw [ho] at hn hbelow
          exact hbelow hn
        · rw [ho] at hn hbelow
          by_cases hk : st₁.1.contains n = true
          · exact hbelow hk
          · refine ihr (before ++ [d]) (by rw [hdeps]; simp) ?_ (Bool.eq_false_iff.mpr hk) hn
            rw [resolveAll_append, hb]
            simp only [resolveAll]
            rw [if_neg hcond, ho]

end

/-- A target that is new after a pass is one whose path the pass has found. -/
theorem finds_of_resolveWithin (site : Site σ) (depth : Nat) (name : String) (st : Graph × σ)
    (n : String) (hno : st.1.contains n = false)
    (hn : (resolveWithin site depth name st).2.1.contains n = true) :
    Finds site depth name st n := by
  induction depth generalizing name st n with
  | zero =>
    rw [resolveWithin, hno] at hn
    cases hn
  | succ depth ih =>
    rw [resolveWithin_succ] at hn
    split at hn
    · rw [hno] at hn
      cases hn
    · next hr =>
      split at hn
      · rw [hno] at hn
        cases hn
      · next hm =>
        rw [Bool.not_eq_true] at hr
        by_cases hc : st.1.contains name = true
        · rw [resolveMarked_of_contains hc] at hn
          have hall : (resolveAll site (resolveWithin site depth) name (st.1.dependenciesOf name)
              none (st.1.enter name, st.2)).2.1.contains n = true →
                Finds site (depth + 1) name st n :=
            finds_of_resolveAll ih hr hm hc [] rfl rfl hno
          rcases ho : resolveAll site (resolveWithin site depth) name (st.1.dependenciesOf name)
              none (st.1.enter name, st.2) with ⟨e | newest, st'⟩
          · rw [ho] at hn hall
            exact hall hn
          · rw [ho] at hn hall
            refine hall ?_
            have hn : (settle site name newest st').2.1.contains n = true := hn
            rcases settle_graph site name newest st' with hg | ⟨time, hg⟩
            · rwa [hg] at hn
            · rwa [hg, contains_modify] at hn
        · rw [resolveMarked_of_not_contains (Bool.eq_false_iff.mpr hc)] at hn
          exact absurd (hno.symm.trans hn) Bool.false_ne_true

/-! ## Frames -/

theorem targetOf_of_find? {g : Graph} {n : String} {t : Target} (h : g.find? n = some t) :
    g.contains n = true ∧ g.targetOf n = t := by
  refine ⟨contains_iff.mpr ⟨t, h⟩, ?_⟩
  rw [targetOf, h, Option.getD_some]

/-- A pass, however it ends, keeps every target with its recipe, and as it is if it cannot be
reached. A target that is new has an empty recipe and stands for something that a target in reach
needs, of which there was no target and whose path the pass has found. Looking at times changes
nothing, and a new beginning marks the targets that there are. -/
theorem calls_keep_recipes (g : Graph) (site : Site σ) (name : String) (s : σ)
    (modified : String → Option Time) :
    let h := (g.resolve site name s).2.1
    (∀ n t, g.find? n = some t →
      ∃ u, h.find? n = some u ∧ u.recipe = t.recipe ∧ (¬g.Reaches name n → u = t)) ∧
    (∀ n u, g.find? n = none → h.find? n = some u → u.recipe = { name := n } ∧
      ∃ t s', g.Reaches name t ∧ g.Needs t n ∧ Checks site g.depthBound name (g, s) n s' ∧
        site.pathExists s' n = true) ∧
    (g.lastUpdatedFrom modified name).2 = g ∧
    ∀ n, g.unresolveAll.find? n = (g.find? n).map Target.unresolve := by
  intro h
  have hp : IsPass site g.depthBound name (g, s) (g.resolve site name s) :=
    resolve_isPass site name g s
  have hadv : Advances g h := hp.advances
  refine ⟨?_, ?_, lastUpdatedWithin_graph modified g.depthBound name g, fun n => ?_⟩
  · intro n t ht
    obtain ⟨hc, rfl⟩ := targetOf_of_find? ht
    refine ⟨h.targetOf n, find?_of_contains (hadv.contains n hc), hadv.sameRecipes n, ?_⟩
    intro hn
    exact hp.targetOf_of_not_reaches hn
  · intro n u hno hu
    rw [find?_eq_none_iff] at hno
    obtain ⟨hc, rfl⟩ := targetOf_of_find? hu
    obtain ⟨s', hchecks, hpath⟩ := finds_of_resolveWithin site g.depthBound name (g, s) n hno hc
    obtain ⟨-, t, hreach, hneeds⟩ := hchecks.needs
    refine ⟨?_, t, s', hreach, hneeds, hchecks, hpath⟩
    rw [hadv.sameRecipes n, targetOf_of_not_contains hno]
    rfl
  · exact find?_mapTargets g _ n

/-- The source of an object file gets a target when its path is found. -/
theorem calls_keep_recipes_program :
    let out := program.resolve .shelf "app" [("app.c", 5)]
    out.1 = .ok () ∧ program.find? "app.c" = none ∧
      out.2.1.find? "app.c" = some { name := "app.c", resolved := true, modifiedAt := some 5 } ∧
      ∃ t s', program.Reaches "app" t ∧ program.Needs t "app.c" ∧
        Checks .shelf program.depthBound "app" (program, [("app.c", 5)]) "app.c" s' ∧
        Site.shelf.pathExists s' "app.c" = true := by
  intro out
  have hno : program.find? "app.c" = none := by decide
  have hnew : out.2.1.find? "app.c" =
      some { name := "app.c", resolved := true, modifiedAt := some 5 } := by
    decide +kernel
  obtain ⟨-, hadded, -⟩ :=
    calls_keep_recipes program .shelf "app" [("app.c", 5)] fun _ => none
  exact ⟨by decide +kernel, hno, hnew, (hadded _ _ hno hnew).2⟩

end BuildTool.Graph
