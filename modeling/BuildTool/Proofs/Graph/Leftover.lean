import BuildTool.Proofs.Graph.Pass

/-!
# Targets left over from earlier passes

A name that no line declares gets a target when a pass finds its path. The target stays, and a
later pass does not check for the path again.

    Leftover left g h    h is g with a target for each name in left besides
    Agree left a b       one end for two passes, with graphs that are so related

Two passes over such graphs agree as long as there is a path wherever the pass over `g` checks
for a name in `left`. Where there is none, the pass over `g` ends with an unknown dependency.
-/

namespace BuildTool.Graph

variable {σ : Type}

/-- The other graph is this one with targets that are left over. -/
structure Leftover (left : String → Prop) (g h : Graph) : Prop where
  sameRecipes : SameRecipes g h
  contains : ∀ name, h.contains name = true ↔ g.contains name = true ∨ left name
  visiting : h.visiting = g.visiting
  isResolved : ∀ name, h.isResolved name = g.isResolved name
  modifiedAt : ∀ name, g.isResolved name = true → h.modifiedAt? name = g.modifiedAt? name

/-- Two passes end in the same way and in the same state. -/
structure Agree {α : Type} (left : String → Prop) (a b : Except BuildError α × Graph × σ) :
    Prop where
  result : b.1 = a.1
  state : b.2.2 = a.2.2
  graph : Leftover left a.2.1 b.2.1

namespace Leftover

variable {left : String → Prop} {g h : Graph} (rel : Leftover left g h)
include rel

theorem ensure (name : String) : Leftover left (g.ensure name) (h.ensure name) where
  sameRecipes := fun n => by rw [targetOf_ensure, targetOf_ensure, rel.sameRecipes n]
  contains := by
    intro n
    rw [contains_ensure, contains_ensure, Bool.or_eq_true, Bool.or_eq_true, rel.contains n,
      or_assoc]
  visiting := by rw [visiting_ensure, visiting_ensure, rel.visiting]
  isResolved := fun n => by rw [isResolved_ensure, isResolved_ensure, rel.isResolved n]
  modifiedAt := by
    intro n hr
    rw [isResolved_ensure] at hr
    rw [modifiedAt?_ensure, modifiedAt?_ensure, rel.modifiedAt n hr]

theorem enter (name : String) : Leftover left (g.enter name) (h.enter name) where
  sameRecipes := rel.sameRecipes
  contains := rel.contains
  visiting := congrArg (List.cons name) rel.visiting
  isResolved := rel.isResolved
  modifiedAt := rel.modifiedAt

theorem leave (name : String) : Leftover left (g.leave name) (h.leave name) where
  sameRecipes := rel.sameRecipes
  contains := rel.contains
  visiting := congrArg (·.erase name) rel.visiting
  isResolved := rel.isResolved
  modifiedAt := rel.modifiedAt

theorem contains_of_contains {name : String} (hc : g.contains name = true) :
    h.contains name = true :=
  (rel.contains name).mpr (Or.inl hc)

theorem doneAt {name : String} (hc : g.contains name = true) (time : Time) :
    Leftover left (g.modify name (·.doneAt time)) (h.modify name (·.doneAt time)) where
  sameRecipes :=
    (((sameRecipes_doneAt hc time).symm).trans rel.sameRecipes).trans
      (sameRecipes_doneAt (rel.contains_of_contains hc) time)
  contains := by
    intro n
    rw [contains_modify, contains_modify, rel.contains n]
  visiting := rel.visiting
  isResolved := by
    intro n
    rw [isResolved_doneAt hc, isResolved_doneAt (rel.contains_of_contains hc), rel.isResolved n]
  modifiedAt := by
    intro n hr
    by_cases he : n = name
    · rw [he, modifiedAt?, modifiedAt?, targetOf_modify_self hc,
        targetOf_modify_self (rel.contains_of_contains hc)]
      rfl
    · rw [isResolved_doneAt hc, Bool.or_eq_true, beq_iff_eq] at hr
      rw [modifiedAt?, modifiedAt?, targetOf_modify_of_ne he, targetOf_modify_of_ne he]
      exact rel.modifiedAt n (hr.resolve_left he)

end Leftover

/-! ## Passes that agree -/

section

variable {left : String → Prop} {site : Site σ} {g h : Graph}

/-- Settling a target does the same whatever is left over. -/
theorem settle_agree (rel : Leftover left g h) {name : String} (hc : g.contains name = true)
    (newest : Option Time) (s : σ) :
    Agree left (settle site name newest (g, s)) (settle site name newest (h, s)) := by
  have hf := find?_of_contains hc
  have hf' := find?_of_contains (rel.contains_of_contains hc)
  simp only [settle, hf, hf']
  rw [refresh_congr site name (rel.sameRecipes name)]
  rcases refresh site name (g.targetOf name) newest s with ⟨e | _, s'⟩
  · exact ⟨rfl, rfl, rel⟩
  · exact ⟨rfl, rfl, rel.doneAt hc _⟩

/-- Wherever the pass checks for the path of a name that is left over, there is one. -/
def Present (left : String → Prop) (site : Site σ) (depth : Nat) (name : String)
    (st : Graph × σ) : Prop :=
  ∀ d s, Checks site depth name st d s → left d → site.pathExists s d = true

/-- Passes of two depths agree on graphs that differ in what is left over, with room for both. -/
def AgreeAt (left : String → Prop) (site : Site σ) (depth depth' : Nat) : Prop :=
  ∀ name g h s, Leftover left g h → g.Marked depth name → h.Marked depth' name →
    (left name → g.contains name = true) → Present left site depth name (g, s) →
    Agree left (resolveWithin site depth name (g, s)) (resolveWithin site depth' name (h, s))

/-- A missing path shows with both graphs alike, if a left-over name has a path when checked. -/
theorem missing_congr (site : Site σ) (rel : Leftover left g h) {d : String} {s : σ}
    (hp : g.contains d = false → left d → site.pathExists s d = true) :
    (!h.contains d && !site.pathExists s d) = (!g.contains d && !site.pathExists s d) := by
  by_cases hc : g.contains d = true
  · rw [hc, rel.contains_of_contains hc]
  · have hno := Bool.eq_false_iff.mpr hc
    by_cases hl : left d
    · rw [hp hno hl, Bool.not_true, Bool.and_false, Bool.and_false]
    · have : h.contains d = false := by
        refine Bool.eq_false_iff.mpr fun h => ?_
        rcases (rel.contains d).mp h with h | h
        · exact hc h
        · exact hl h
      rw [hno, this]

section

variable {n m : Nat} (ih : AgreeAt left site n m) {name : String} {s : σ}
  (hr : g.isResolved name = false) (hm : name ∉ g.visiting) (hc : g.contains name = true)
  (rel : Leftover left g h) (hg : g.Marked (n + 1) name) (hh : h.Marked (m + 1) name)
  (hp : Present left site (n + 1) name (g, s))
include ih hr hm hc rel hg hh hp

theorem resolveAll_agree (before : List String) {rest : List String} {newest : Option Time}
    {st : Graph × σ} {k : Graph} (hdeps : g.dependenciesOf name = before ++ rest)
    (hb : resolveAll site (resolveWithin site n) name before none (g.enter name, s) =
      (.ok newest, st))
    (hk : Leftover left st.1 k) :
    Agree left (resolveAll site (resolveWithin site n) name rest newest st)
      (resolveAll site (resolveWithin site m) name rest newest (k, st.2)) := by
  induction rest generalizing before newest st k with
  | nil => exact ⟨rfl, rfl, hk⟩
  | cons d rest ihr =>
    have hcome : ComesTo site n name (g, s) d st := ⟨hr, hm, hc, before, rest, newest, hdeps, hb⟩
    have hmissing := missing_congr site (s := st.2) hk
      fun hno hl => hp d st.2 (.own hcome hno) hl
    unfold resolveAll
    simp only [hmissing]
    split
    · exact ⟨rfl, rfl, hk⟩
    · next hcond =>
      have hc' := missing_eq_false_iff.mp (Bool.eq_false_iff.mpr hcond)
      have hgd : (st.1.ensure d).Marked n d :=
        hcome.marked (.refl g) rfl (.refl st.1) rfl hg
      have hhd : (k.ensure d).Marked m d :=
        hcome.marked rel.sameRecipes rel.visiting hk.sameRecipes hk.visiting hh
      have hone := ih d (st.1.ensure d) (k.ensure d) st.2 (hk.ensure d) hgd hhd
        (fun _ => contains_ensure_self st.1 d)
        fun d' s' hk' => hp d' s' (.further hcome hc' hk')
      have hpass := resolveWithin_isPass site n d (st.1.ensure d, st.2)
      rcases ho : resolveWithin site n d (st.1.ensure d, st.2) with ⟨e | _, st₂⟩
      · rcases ho' : resolveWithin site m d (k.ensure d, st.2) with ⟨r, k₂, s₂⟩
        rw [ho, ho'] at hone
        obtain ⟨rfl, rfl, hrel⟩ := hone
        exact ⟨rfl, rfl, hrel⟩
      · rcases ho' : resolveWithin site m d (k.ensure d, st.2) with ⟨r, k₂, s₂⟩
        rw [ho] at hpass
        obtain ⟨-, -, -, hd⟩ := hpass.walk_of_ok
        rw [ho, ho'] at hone
        obtain ⟨rfl, rfl, hrel⟩ := hone
        have htime : k₂.modifiedAt? d = st₂.1.modifiedAt? d := hrel.modifiedAt d hd
        simp only [htime]
        refine ihr (before ++ [d]) (by rw [hdeps]; simp) ?_ hrel
        rw [resolveAll_append, hb]
        simp only [resolveAll]
        rw [if_neg hcond, ho]

theorem resolveMarked_agree :
    Agree left (resolveMarked site (resolveWithin site n) name (g.enter name, s))
      (resolveMarked site (resolveWithin site m) name (h.enter name, s)) := by
  have hc' : h.contains name = true := rel.contains_of_contains hc
  have hall : Agree left
      (resolveAll site (resolveWithin site n) name (g.dependenciesOf name) none (g.enter name, s))
      (resolveAll site (resolveWithin site m) name (g.dependenciesOf name) none
        (h.enter name, s)) :=
    resolveAll_agree ih hr hm hc rel hg hh hp [] rfl rfl (rel.enter name)
  simp only [resolveMarked_of_contains hc, resolveMarked_of_contains hc',
    rel.sameRecipes.dependenciesOf]
  rcases ho : resolveAll site (resolveWithin site n) name (g.dependenciesOf name) none
    (g.enter name, s) with ⟨e | newest, st⟩
  all_goals
    rcases ho' : resolveAll site (resolveWithin site m) name (g.dependenciesOf name) none
      (h.enter name, s) with ⟨r, k, s₂⟩
    rw [ho, ho'] at hall
    obtain ⟨rfl, rfl, hrel⟩ := hall
  · exact ⟨rfl, rfl, hrel⟩
  · obtain ⟨visits, w, -⟩ := resolveAll_walk (resolveWithin_isPass site n) ho fun d hd => hd
    exact settle_agree hrel (w.contains hc) newest st.2

end

/-- Passes agree at all depths. -/
theorem agreeAt (left : String → Prop) (site : Site σ) (n m : Nat) : AgreeAt left site n m := by
  induction n generalizing m with
  | zero => exact fun _ _ _ _ _ hg _ _ _ => absurd rfl hg.ne_zero
  | succ n ih =>
    intro name g h s rel hg hh hl hp
    obtain ⟨m, rfl⟩ := Nat.exists_eq_succ_of_ne_zero hh.ne_zero
    rw [resolveWithin_succ, resolveWithin_succ]
    simp only [rel.isResolved, rel.visiting]
    split
    · exact ⟨rfl, rfl, rel⟩
    · next hr =>
      split
      · exact ⟨rfl, rfl, rel⟩
      · next hm =>
        rw [Bool.not_eq_true] at hr
        by_cases hc : g.contains name = true
        · obtain ⟨hres, hstate, hrel⟩ := resolveMarked_agree (ih m) hr hm hc rel hg hh hp
          exact ⟨hres, hstate, hrel.leave name⟩
        · have hc' : ¬h.contains name = true := by
            intro h'
            rcases (rel.contains name).mp h' with h' | h'
            · exact hc h'
            · exact hc (hl h')
          have hno : g.contains name = false := Bool.eq_false_iff.mpr hc
          have hno' : h.contains name = false := Bool.eq_false_iff.mpr hc'
          rw [resolveMarked_of_not_contains hno, resolveMarked_of_not_contains hno']
          exact ⟨rfl, rfl, (rel.enter name).leave name⟩

end

/-! ## Where a path is missing -/

section

variable {site : Site σ} {depth : Nat} {name d : String} {st : Graph × σ} {s : σ}

/-- A pass comes by a walk to where it checks for a path. -/
theorem Checks.exists_walk (h : Checks site depth name st d s) :
    ∃ visits k, Walk site st visits (k, s) := by
  induction h with
  | own hcome _ =>
    obtain ⟨-, visits, w⟩ := hcome.walk
    exact ⟨visits, _, w.of_enter⟩
  | @further _ name _ d st' _ _ hcome hc _ ih =>
    obtain ⟨hn, visits, w⟩ := hcome.walk
    obtain ⟨more, k, w'⟩ := ih
    have hn' : st'.1.Needs name d := by
      rw [w.sameRecipes.needs]
      exact hn
    exact ⟨visits ++ more, _, (w.trans (w'.of_ensure hn' hc)).of_enter⟩

/-- A pass that comes to a name whose resolution fails fails in the same way. -/
theorem ComesTo.resolveWithin_eq {st' : Graph × σ} {e : BuildError} (out : Graph × σ)
    (h : ComesTo site depth name st d st')
    (he : ∀ rest newest, resolveAll site (resolveWithin site depth) name (d :: rest) newest st' =
      (.error e, out)) :
    resolveWithin site (depth + 1) name st = (.error e, out.1.leave name, out.2) := by
  obtain ⟨before, after, newest, hdeps, hb⟩ := h.reached
  rw [resolveWithin_succ, if_neg (Bool.eq_false_iff.mp h.unresolved), if_neg h.unmarked]
  simp only [resolveMarked_of_contains h.contains, hdeps, resolveAll_append, hb, he]

/-- If the path that a pass checks for is missing, the pass ends there. -/
theorem Checks.resolveWithin_eq (h : Checks site depth name st d s)
    (hp : site.pathExists s d = false) :
    ∃ t k, resolveWithin site depth name st = (.error (.unknownDependency t d), k, s) := by
  induction h with
  | @own _ name _ d st' hcome hc =>
    refine ⟨name, _, ComesTo.resolveWithin_eq st' hcome fun rest newest => ?_⟩
    simp only [resolveAll, hc, hp]
    rfl
  | @further _ name _ d' st' d s hcome hc _ ih =>
    obtain ⟨t, k, ho⟩ := ih hp
    refine ⟨t, _, ComesTo.resolveWithin_eq (k, s) hcome fun rest newest => ?_⟩
    simp only [resolveAll, missing_eq_false_iff.mpr hc, ho]
    rfl

end

end BuildTool.Graph
