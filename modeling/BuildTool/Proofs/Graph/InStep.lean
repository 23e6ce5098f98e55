import BuildTool.Proofs.Graph.Pass

/-!
# Passes in step

Two passes over graphs of one shape take the same steps, if they find the same paths and none of
their commands fails. What they run may differ, and so may the times that they read and keep:

    Alike g h           the recipes, targets and marks are the same, and so is what is done
    InStep a b root R   R holds after a step of both passes, if it did before

A relation that the steps keep holds of what two passes leave, and they end in the same way.
-/

namespace BuildTool.Graph

variable {σ τ : Type}

/-- Two graphs differ only in the times that their targets had. -/
structure Alike (g h : Graph) : Prop where
  sameRecipes : SameRecipes g h
  contains : ∀ name, h.contains name = g.contains name
  visiting : h.visiting = g.visiting
  isResolved : ∀ name, h.isResolved name = g.isResolved name

/-- A relation of what two passes below a name have come to, which their steps keep. -/
structure InStep (a : Site σ) (b : Site τ) (root : String) (R : Graph × σ → Graph × τ → Prop) :
    Prop where
  alike : ∀ {st st'}, R st st' → Alike st.1 st'.1
  pathExists : ∀ {st st' d}, R st st' → st.1.Reaches root d → st.1.contains d = false →
    b.pathExists st'.2 d = a.pathExists st.2 d
  ensure : ∀ {st st'} (d : String), R st st' →
    R (st.1.ensure d, st.2) (st'.1.ensure d, st'.2)
  withVisiting : ∀ {st st'} (marks : List String), R st st' →
    R (st.1.withVisiting marks, st.2) (st'.1.withVisiting marks, st'.2)
  settle : ∀ {st st' name}, R st st' → st.1.Reaches root name → st.1.IsReady name →
    st'.1.IsReady name →
    let out := settle a name (st.1.newestOf name) st
    let out' := settle b name (st'.1.newestOf name) st'
    out.1 = .ok () ∧ out'.1 = .ok () ∧ R out.2 out'.2

section

variable {a : Site σ} {b : Site τ} {root : String} {R : Graph × σ → Graph × τ → Prop}
  (step : InStep a b root R)
include step

/-- A path is missing for both passes or for neither. -/
theorem InStep.missing_eq {st : Graph × σ} {st' : Graph × τ} (hR : R st st') {d : String}
    (hd : st.1.Reaches root d) :
    (!st'.1.contains d && !b.pathExists st'.2 d) = (!st.1.contains d && !a.pathExists st.2 d) := by
  rw [(step.alike hR).contains]
  by_cases hc : st.1.contains d = true
  · rw [hc]
    rfl
  · rw [step.pathExists hR hd (Bool.eq_false_iff.mpr hc)]

/-- What passes to this depth come to is related and ends in the same way. -/
def EndAlike (a : Site σ) (b : Site τ) (root : String) (R : Graph × σ → Graph × τ → Prop)
    (depth : Nat) : Prop :=
  ∀ name st st', R st st' → st.1.Reaches root name →
    (resolveWithin b depth name st').1 = (resolveWithin a depth name st).1 ∧
      R (resolveWithin a depth name st).2 (resolveWithin b depth name st').2

/-- A change of marks that both graphs see alike keeps the relation. -/
theorem InStep.mark {st : Graph × σ} {st' : Graph × τ} (hR : R st st')
    (change : List String → List String) :
    R (st.1.withVisiting (change st.1.visiting), st.2)
      (st'.1.withVisiting (change st'.1.visiting), st'.2) := by
  rw [(step.alike hR).visiting]
  exact step.withVisiting _ hR

variable {depth : Nat} (ih : EndAlike a b root R depth)
include ih

theorem InStep.resolveAll (name : String) {deps : List String} (newest newest' : Option Time)
    {st : Graph × σ} {st' : Graph × τ} (hR : R st st') (hd : ∀ d ∈ deps, st.1.Reaches root d) :
    let out := resolveAll a (resolveWithin a depth) name deps newest st
    let out' := resolveAll b (resolveWithin b depth) name deps newest' st'
    (∃ e, out.1 = .error e ∧ out'.1 = .error e ∧ R out.2 out'.2) ∨
      ∃ n n', out.1 = .ok n ∧ out'.1 = .ok n' ∧ R out.2 out'.2 := by
  induction deps generalizing newest newest' st st' with
  | nil => exact Or.inr ⟨newest, newest', rfl, rfl, hR⟩
  | cons d rest ihr =>
    have hreach := hd d List.mem_cons_self
    unfold Graph.resolveAll
    simp only [step.missing_eq hR hreach]
    split
    · exact Or.inl ⟨_, rfl, rfl, hR⟩
    · have same := sameRecipes_ensure st.1 d
      obtain ⟨hres, hR₁⟩ := ih d (st.1.ensure d, st.2) (st'.1.ensure d, st'.2)
        (step.ensure d hR) (by rw [same.reaches]; exact hreach)
      obtain ⟨visits, s, w, -⟩ := resolveWithin_isPass a depth d (st.1.ensure d, st.2)
      have same₁ := same.trans w.sameRecipes
      rcases ho : resolveWithin a depth d (st.1.ensure d, st.2) with ⟨r, g₁, s₁⟩
      rcases ho' : resolveWithin b depth d (st'.1.ensure d, st'.2) with ⟨r', g₁', s₁'⟩
      rw [ho, ho'] at hres hR₁
      obtain rfl : r' = r := hres
      cases r' with
      | error e => exact Or.inl ⟨e, rfl, rfl, hR₁⟩
      | ok =>
        rw [ho] at same₁
        refine ihr _ _ hR₁ ?_
        intro d' hd'
        rw [same₁.reaches]
        exact hd d' (List.mem_cons_of_mem _ hd')

theorem InStep.resolveMarked {name : String} {st : Graph × σ} {st' : Graph × τ} (hR : R st st')
    (hname : st.1.Reaches root name) (hr : st.1.isResolved name = false) :
    let out := resolveMarked a (resolveWithin a depth) name (st.1.enter name, st.2)
    let out' := resolveMarked b (resolveWithin b depth) name (st'.1.enter name, st'.2)
    out'.1 = out.1 ∧ R out.2 out'.2 := by
  have alike := step.alike hR
  have henter : R (st.1.enter name, st.2) (st'.1.enter name, st'.2) :=
    step.mark hR (List.cons name)
  by_cases hc : st.1.contains name = true
  · have hc' : st'.1.contains name = true := by rw [alike.contains, hc]
    have hr' : st'.1.isResolved name = false := by rw [alike.isResolved, hr]
    have hdeps : st'.1.dependenciesOf name = st.1.dependenciesOf name :=
      alike.sameRecipes.dependenciesOf name
    simp only [resolveMarked_of_contains hc, resolveMarked_of_contains hc', hdeps]
    have hall := step.resolveAll ih name none none henter
      fun d (hd : d ∈ st.1.dependenciesOf name) => hname.tail hd
    rcases ho : Graph.resolveAll a (resolveWithin a depth) name (st.1.dependenciesOf name) none
      (st.1.enter name, st.2) with ⟨r, st₁⟩
    rcases ho' : Graph.resolveAll b (resolveWithin b depth) name (st.1.dependenciesOf name) none
      (st'.1.enter name, st'.2) with ⟨r', st₁'⟩
    rw [ho, ho'] at hall
    rcases hall with ⟨e, rfl, rfl, hR₁⟩ | ⟨newest, newest', rfl, rfl, hR₁⟩
    · exact ⟨rfl, hR₁⟩
    · rw [← hdeps] at ho'
      obtain ⟨visits, w, -, hready, rfl⟩ :=
        isReady_of_resolveAll (resolveWithin_isPass a depth) hr hc ho
      obtain ⟨-, -, -, hready', rfl⟩ :=
        isReady_of_resolveAll (resolveWithin_isPass b depth) hr' hc' ho'
      have hname₁ : st₁.1.Reaches root name := by
        rw [w.sameRecipes.reaches]
        exact hname
      obtain ⟨hok, hok', hR₂⟩ := step.settle hR₁ hname₁ hready hready'
      exact ⟨hok'.trans hok.symm, hR₂⟩
  · have hno := Bool.eq_false_iff.mpr hc
    have hno' : st'.1.contains name = false := by rw [alike.contains, hno]
    rw [resolveMarked_of_not_contains hno, resolveMarked_of_not_contains hno']
    exact ⟨rfl, henter⟩

end

/-- Two passes in step end in the same way, in states that are related. -/
theorem InStep.resolveWithin {a : Site σ} {b : Site τ} {root : String}
    {R : Graph × σ → Graph × τ → Prop} (step : InStep a b root R) (depth : Nat) :
    EndAlike a b root R depth := by
  induction depth with
  | zero => exact fun _ _ _ hR _ => ⟨rfl, hR⟩
  | succ depth ih =>
    intro name st st' hR hname
    have alike := step.alike hR
    rw [resolveWithin_succ, resolveWithin_succ, alike.isResolved, alike.visiting]
    split
    · exact ⟨rfl, hR⟩
    · next hr =>
      split
      · exact ⟨rfl, hR⟩
      · obtain ⟨hres, hR₁⟩ := step.resolveMarked ih hR hname (Bool.eq_false_iff.mpr hr)
        exact ⟨hres, step.mark hR₁ (·.erase name)⟩

end BuildTool.Graph
