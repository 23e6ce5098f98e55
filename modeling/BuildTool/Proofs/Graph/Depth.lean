import BuildTool.Proofs.Graph.Newest
import Mathlib.Data.Finset.Card
import Mathlib.Data.List.Chain

/-!
# How deep the walks over a graph go

Both walks are written with a depth, which neither of them needs: each is the one function that
has the recursion of its steps (`eq_resolveAt_iff`, `eq_lookAt_iff`).

    resolve       done, or marked, or: resolve what is needed, then settle
    lastUpdated   marked, or: look at what is needed

A call made on the way of another one is for a name that the other needs, over a graph with the
same recipes and with one mark more (`Descends`). So every level takes one away from the names
that are not marked yet, whatever targets are made in between, and calls are nested no deeper than
one more than there are names (`length_le_of_isChain`).
-/

namespace BuildTool.Graph

variable {σ : Type}

/-! ## Names that are not marked -/

/-- The names that a walk from a name can come to: itself and all that the graph mentions. -/
def scope (g : Graph) (name : String) : Finset String := (name :: g.mentioned).toFinset

/-- Names of which none needs any other. -/
def IsClosed (g : Graph) (names : Finset String) : Prop :=
  ∀ a ∈ names, ∀ b, g.Needs a b → b ∈ names

/-- Those of some names that are not marked. -/
def unmarked (g : Graph) (names : Finset String) : Finset String :=
  names.filter (· ∉ g.visiting)

theorem mem_mentioned_of_needs {g : Graph} {a b : String} (h : g.Needs a b) : b ∈ g.mentioned := by
  have hf := find?_of_contains (contains_of_mem_dependenciesOf h)
  obtain ⟨before, after, hl, -⟩ := List.lookup_eq_some_iff.mp hf
  have hm : (a, g.targetOf a) ∈ g.targets := by
    rw [hl]
    simp
  exact List.mem_append_right _ (List.mem_flatMap.mpr ⟨_, hm, h⟩)

theorem isClosed_scope (g : Graph) (name : String) : g.IsClosed (g.scope name) := by
  intro a _ b hn
  exact List.mem_toFinset.mpr (List.mem_cons_of_mem _ (mem_mentioned_of_needs hn))

theorem mem_scope (g : Graph) (name : String) : name ∈ g.scope name :=
  List.mem_toFinset.mpr List.mem_cons_self

theorem card_scope_lt_depthBound (g : Graph) (name : String) :
    (g.scope name).card < g.depthBound := by
  have := (name :: g.mentioned).toFinset_card_le
  rw [List.length_cons] at this
  unfold scope depthBound
  omega

theorem card_unmarked_le (g : Graph) (names : Finset String) :
    (g.unmarked names).card ≤ names.card :=
  Finset.card_filter_le _ _

/-! ## Going down -/

/-- A call for a name over a graph leads to one for a name that is needed, over a graph of the same
script in which the first name is marked besides. -/
structure Descends (call callee : String × Graph) : Prop where
  unmarked : call.1 ∉ call.2.visiting
  needs : call.2.Needs call.1 callee.1
  sameRecipes : SameRecipes call.2 callee.2
  visiting : callee.2.visiting = call.1 :: call.2.visiting

section

variable {names : Finset String} {call callee : String × Graph} (h : Descends call callee)
include h

theorem Descends.isClosed (hc : call.2.IsClosed names) : callee.2.IsClosed names := by
  intro a ha b hn
  rw [h.sameRecipes.needs] at hn
  exact hc a ha b hn

theorem Descends.card_unmarked (hm : call.1 ∈ names) :
    (callee.2.unmarked names).card + 1 = (call.2.unmarked names).card := by
  have he : callee.2.unmarked names = (call.2.unmarked names).erase call.1 := by
    ext n
    simp only [Graph.unmarked, h.visiting, Finset.mem_filter, Finset.mem_erase, List.mem_cons,
      not_or]
    tauto
  rw [he]
  exact Finset.card_erase_add_one (Finset.mem_filter.mpr ⟨hm, h.unmarked⟩)

end

/-- Calls of which each leads down to the next are at most one more than the names without a
mark. -/
theorem length_le_of_isChain {α : Type} {R : α → α → Prop} {place : α → String × Graph}
    (hR : ∀ call callee, R call callee → Descends (place call) (place callee)) {call : α}
    {calls : List α} (h : List.IsChain R (call :: calls)) :
    (call :: calls).length ≤ ((place call).2.scope (place call).1).card + 1 := by
  suffices hs : ∀ names : Finset String, (place call).1 ∈ names → (place call).2.IsClosed names →
      calls.length ≤ ((place call).2.unmarked names).card by
    have := hs _ (mem_scope _ _) (isClosed_scope _ _)
    have := card_unmarked_le (place call).2 ((place call).2.scope (place call).1)
    rw [List.length_cons]
    omega
  intro names hm hc
  induction calls generalizing call with
  | nil => exact Nat.zero_le _
  | cons callee rest ih =>
    obtain ⟨hcall, hrest⟩ := List.isChain_cons_cons.mp h
    have hd := hR call callee hcall
    have := ih hrest (hc _ hm _ hd.needs) (hd.isClosed hc)
    have := hd.card_unmarked hm
    rw [List.length_cons]
    omega

/-- A depth is enough for the names that are not marked. -/
def HasRoom (depth : Nat) (call : String × Graph) : Prop :=
  ∃ names : Finset String, call.1 ∈ names ∧ call.2.IsClosed names ∧
    (call.2.unmarked names).card < depth

theorem hasRoom_depthBound (call : String × Graph) : HasRoom call.2.depthBound call :=
  ⟨call.2.scope call.1, mem_scope _ _, isClosed_scope _ _,
    (card_unmarked_le _ _).trans_lt (card_scope_lt_depthBound _ _)⟩

theorem not_hasRoom_zero (call : String × Graph) : ¬HasRoom 0 call := by
  rintro ⟨names, -, -, hlt⟩
  exact Nat.not_lt_zero _ hlt

theorem HasRoom.descends {depth : Nat} {call callee : String × Graph}
    (h : HasRoom (depth + 1) call) (hd : Descends call callee) : HasRoom depth callee := by
  obtain ⟨names, hm, hc, hlt⟩ := h
  refine ⟨names, hc _ hm _ hd.needs, hd.isClosed hc, ?_⟩
  have := hd.card_unmarked hm
  omega

/-- Going down comes to an end. -/
theorem wellFounded_of_descends {α : Type} {R : α → α → Prop} {place : α → String × Graph}
    (hR : ∀ call callee, R call callee → Descends (place call) (place callee)) :
    WellFounded fun callee call => R call callee := by
  have hacc : ∀ depth call, HasRoom depth (place call) →
      Acc (fun callee call => R call callee) call := by
    intro depth
    induction depth with
    | zero => exact fun call h => absurd h (not_hasRoom_zero _)
    | succ depth ih => exact fun call h => ⟨_, fun callee hc => ih callee (h.descends (hR _ _ hc))⟩
  exact ⟨fun call => hacc _ call (hasRoom_depthBound _)⟩

/-! ## The recursion of `resolve` -/

/-- The type of `resolve`, as a function of a graph and a state together. -/
abbrev Resolver (σ : Type) := String → Graph × σ → Except BuildError Unit × Graph × σ

/-- `resolve` as such a function. -/
def resolveAt (site : Site σ) : Resolver σ := fun name st => st.1.resolve site name st.2

/-- What `resolve` does by itself, `again` being called for all that is needed. -/
def resolveStep (site : Site σ) (again : Resolver σ) : Resolver σ := fun name st =>
  if st.1.isResolved name then (.ok (), st)
  else if name ∈ st.1.visiting then (.error (.cyclicDependency name), st)
  else
    let out := resolveMarked site again name (st.1.enter name, st.2)
    (out.1, out.2.1.leave name, out.2.2)

/-- The graph that a resolver leaves has the recipes and the marks it had. -/
def KeepsRecipes (f : Resolver σ) : Prop :=
  ∀ name st, SameRecipes st.1 (f name st).2.1 ∧ (f name st).2.1.visiting = st.1.visiting

theorem keepsRecipes_resolveWithin (site : Site σ) (depth : Nat) :
    KeepsRecipes (resolveWithin site depth) := by
  intro name st
  obtain ⟨visits, s, w, -⟩ := resolveWithin_isPass site depth name st
  exact ⟨w.sameRecipes, w.visiting⟩

theorem keepsRecipes_resolveAt (site : Site σ) : KeepsRecipes (resolveAt site) :=
  fun name st => keepsRecipes_resolveWithin site st.1.depthBound name st

section

variable {site : Site σ} {f h : Resolver σ}

theorem KeepsRecipes.resolveAll (site : Site σ) (hf : KeepsRecipes f) (name : String)
    (deps : List String) (newest : Option Time) (st : Graph × σ) :
    let out := resolveAll site f name deps newest st
    SameRecipes st.1 out.2.1 ∧ out.2.1.visiting = st.1.visiting :=
  resolveAll_keeps (R := fun g h => SameRecipes g h ∧ h.visiting = g.visiting)
    (fun g => ⟨.refl g, rfl⟩) (fun a b => ⟨a.1.trans b.1, b.2.trans a.2⟩)
    (fun g d => ⟨sameRecipes_ensure g d, visiting_ensure g d⟩) hf deps newest st

/-- Resolvers that agree on all calls that a call leads down to do the same for all that is
needed. -/
theorem resolveAll_congr (hh : KeepsRecipes h) {name : String} {g : Graph}
    (hm : name ∉ g.visiting)
    (heq : ∀ d st, Descends (name, g) (d, st.1) → f d st = h d st) {deps : List String}
    (hd : ∀ d ∈ deps, g.Needs name d) {newest : Option Time} {st : Graph × σ}
    (same : SameRecipes g st.1) (hv : st.1.visiting = name :: g.visiting) :
    resolveAll site f name deps newest st = resolveAll site h name deps newest st := by
  induction deps generalizing newest st with
  | nil => rfl
  | cons d rest ih =>
    have hdown : Descends (name, g) (d, st.1.ensure d) :=
      ⟨hm, hd d List.mem_cons_self, same.trans (sameRecipes_ensure _ _),
        by rw [visiting_ensure, hv]⟩
    obtain ⟨same₁, hv₁⟩ := hh d (st.1.ensure d, st.2)
    rw [visiting_ensure, hv] at hv₁
    unfold resolveAll
    rw [heq d (st.1.ensure d, st.2) hdown]
    split
    · rfl
    · rcases hr : h d (st.1.ensure d, st.2) with ⟨e | _, g₁, s₁⟩
      · rfl
      · rw [hr] at same₁ hv₁
        exact ih (fun d hd' => hd d (List.mem_cons_of_mem _ hd'))
          (hdown.sameRecipes.trans same₁) hv₁

theorem resolveStep_congr (hh : KeepsRecipes h) {name : String} {st : Graph × σ}
    (heq : ∀ d st', Descends (name, st.1) (d, st'.1) → f d st' = h d st') :
    resolveStep site f name st = resolveStep site h name st := by
  unfold resolveStep
  split
  · rfl
  · split
    · rfl
    · next hm =>
      have he : resolveMarked site f name (st.1.enter name, st.2) =
          resolveMarked site h name (st.1.enter name, st.2) := by
        by_cases hc : st.1.contains name = true
        · have hall : resolveAll site f name (st.1.dependenciesOf name) none
              (st.1.enter name, st.2) =
                resolveAll site h name (st.1.dependenciesOf name) none (st.1.enter name, st.2) :=
            resolveAll_congr hh hm heq (fun _ hd => hd) (.refl _) rfl
          rw [resolveMarked_of_contains hc, resolveMarked_of_contains hc, hall]
        · have hno := Bool.eq_false_iff.mpr hc
          rw [resolveMarked_of_not_contains hno, resolveMarked_of_not_contains hno]
      rw [he]

end

/-- The depth does not show where there is room. -/
theorem resolveWithin_eq_of_hasRoom (site : Site σ) {n m : Nat} {name : String} {st : Graph × σ}
    (hn : HasRoom n (name, st.1)) (hm : HasRoom m (name, st.1)) :
    resolveWithin site n name st = resolveWithin site m name st := by
  induction n generalizing m name st with
  | zero => exact absurd hn (not_hasRoom_zero _)
  | succ n ih =>
    obtain _ | m := m
    · exact absurd hm (not_hasRoom_zero _)
    · exact resolveStep_congr (keepsRecipes_resolveWithin site m) fun d st' hd =>
        ih (hn.descends hd) (hm.descends hd)

/-- `resolve` has its recursion, over every graph and with any marks. -/
theorem resolveAt_eq (site : Site σ) (name : String) (st : Graph × σ) :
    resolveAt site name st = resolveStep site (resolveAt site) name st :=
  resolveStep_congr (keepsRecipes_resolveAt site) fun d st' hd =>
    resolveWithin_eq_of_hasRoom site ((hasRoom_depthBound (name, st.1)).descends hd)
      (hasRoom_depthBound (d, st'.1))

/-- `resolve` is the only function with that recursion. -/
theorem eq_resolveAt_iff (site : Site σ) (f : Resolver σ) :
    f = resolveAt site ↔ ∀ name st, f name st = resolveStep site f name st := by
  constructor
  · rintro rfl
    exact resolveAt_eq site
  · intro hf
    have hroom : ∀ depth name st, HasRoom depth (name, st.1) →
        f name st = resolveAt site name st := by
      intro depth
      induction depth with
      | zero => exact fun name st h => absurd h (not_hasRoom_zero _)
      | succ depth ih =>
        intro name st h
        rw [hf, resolveAt_eq]
        exact resolveStep_congr (keepsRecipes_resolveAt site) fun d st' hd =>
          ih d st' (h.descends hd)
    funext name st
    exact hroom _ name st (hasRoom_depthBound _)

/-- On its way the call of `resolve` for a name, over a graph and a state, makes another one: all
that is needed before that is done. -/
structure Invokes (site : Site σ) (call callee : String × Graph × σ) : Prop where
  unresolved : call.2.1.isResolved call.1 = false
  unmarked : call.1 ∉ call.2.1.visiting
  reached : ∃ before d after newest st,
    call.2.1.dependenciesOf call.1 = before ++ d :: after ∧
      resolveAll site (resolveAt site) call.1 before none (call.2.1.enter call.1, call.2.2) =
        (.ok newest, st) ∧
      (st.1.contains d = true ∨ site.pathExists st.2 d = true) ∧
      callee = (d, st.1.ensure d, st.2)

theorem Invokes.descends {site : Site σ} {call callee : String × Graph × σ}
    (h : Invokes site call callee) : Descends (call.1, call.2.1) (callee.1, callee.2.1) := by
  obtain ⟨before, d, after, newest, st, hd, hr, -, rfl⟩ := h.reached
  obtain ⟨same, hv⟩ := (keepsRecipes_resolveAt site).resolveAll site call.1 before none
    (call.2.1.enter call.1, call.2.2)
  rw [hr] at same hv
  refine ⟨h.unmarked, ?_, same.trans (sameRecipes_ensure _ _), ?_⟩
  · rw [Needs, hd]
    simp
  · rw [visiting_ensure, hv]
    rfl

/-! ## The recursion of `lastUpdated` -/

/-- The type of `lastUpdatedFrom`. -/
abbrev Looker := String → Graph → Except BuildError (Option Time) × Graph

/-- `lastUpdatedFrom` as such a function. -/
def lookAt (modified : String → Option Time) : Looker := fun name g =>
  g.lastUpdatedFrom modified name

/-- What `lastUpdatedFrom` does by itself, `again` being called for all that is needed. -/
def lookStep (modified : String → Option Time) (again : Looker) : Looker := fun name g =>
  if name ∈ g.visiting then (.error (.cyclicDependency name), g)
  else
    let out := lastUpdatedAll modified again (g.dependenciesOf name) (modified name) (g.enter name)
    (out.1, out.2.leave name)

section

variable {modified : String → Option Time} {f h : Looker}

theorem lastUpdatedAll_congr (hh : ∀ name g, (h name g).2 = g) {g : Graph} {deps : List String}
    (heq : ∀ d ∈ deps, f d g = h d g) (newest : Option Time) :
    lastUpdatedAll modified f deps newest g = lastUpdatedAll modified h deps newest g := by
  induction deps generalizing newest with
  | nil => rfl
  | cons d rest ih =>
    have hrest := ih fun d hd => heq d (List.mem_cons_of_mem _ hd)
    unfold lastUpdatedAll
    rw [heq d List.mem_cons_self]
    split
    · have hg := hh d g
      rcases ho : h d g with ⟨e | time, g'⟩
      · rfl
      · rw [ho] at hg
        rw [show g' = g from hg]
        exact hrest _
    · exact hrest _

theorem descends_enter {g : Graph} {name d : String} (hm : name ∉ g.visiting)
    (hn : g.Needs name d) : Descends (name, g) (d, g.enter name) :=
  ⟨hm, hn, .refl g, rfl⟩

theorem lookStep_congr (hh : ∀ name g, (h name g).2 = g) {name : String} {g : Graph}
    (heq : ∀ d g', Descends (name, g) (d, g') → f d g' = h d g') :
    lookStep modified f name g = lookStep modified h name g := by
  unfold lookStep
  split
  · rfl
  · next hm =>
    rw [lastUpdatedAll_congr hh fun d hd => heq d _ (descends_enter hm hd)]

theorem lastUpdatedWithin_eq_of_hasRoom {n m : Nat} {name : String} {g : Graph}
    (hn : HasRoom n (name, g)) (hm : HasRoom m (name, g)) :
    lastUpdatedWithin modified n name g = lastUpdatedWithin modified m name g := by
  induction n generalizing m name g with
  | zero => exact absurd hn (not_hasRoom_zero _)
  | succ n ih =>
    obtain _ | m := m
    · exact absurd hm (not_hasRoom_zero _)
    · exact lookStep_congr (lastUpdatedWithin_graph modified m) fun d g' hd =>
        ih (hn.descends hd) (hm.descends hd)

end

theorem lookAt_graph (modified : String → Option Time) (name : String) (g : Graph) :
    (lookAt modified name g).2 = g :=
  lastUpdatedWithin_graph modified g.depthBound name g

/-- `lastUpdatedFrom` has its recursion, over every graph and with any marks. -/
theorem lookAt_eq (modified : String → Option Time) (name : String) (g : Graph) :
    lookAt modified name g = lookStep modified (lookAt modified) name g :=
  lookStep_congr (lookAt_graph modified) fun d g' hd =>
    lastUpdatedWithin_eq_of_hasRoom ((hasRoom_depthBound (name, g)).descends hd)
      (hasRoom_depthBound (d, g'))

/-- `lastUpdatedFrom` is the only function with that recursion. -/
theorem eq_lookAt_iff (modified : String → Option Time) (f : Looker) :
    f = lookAt modified ↔ ∀ name g, f name g = lookStep modified f name g := by
  constructor
  · rintro rfl
    exact lookAt_eq modified
  · intro hf
    have hroom : ∀ depth name g, HasRoom depth (name, g) → f name g = lookAt modified name g := by
      intro depth
      induction depth with
      | zero => exact fun name g h => absurd h (not_hasRoom_zero _)
      | succ depth ih =>
        intro name g h
        rw [hf, lookAt_eq]
        exact lookStep_congr (lookAt_graph modified) fun d g' hd => ih d g' (h.descends hd)
    funext name g
    exact hroom _ name g (hasRoom_depthBound _)

/-- On its way the call of `lastUpdatedFrom` for a name, over a graph, makes another one. -/
structure LooksInto (modified : String → Option Time) (call callee : String × Graph) : Prop where
  unmarked : call.1 ∉ call.2.visiting
  reached : ∃ before d after newest g, call.2.dependenciesOf call.1 = before ++ d :: after ∧
    lastUpdatedAll modified (lookAt modified) before (modified call.1) (call.2.enter call.1) =
      (.ok newest, g) ∧
    g.contains d = true ∧ callee = (d, g)

theorem LooksInto.descends {modified : String → Option Time} {call callee : String × Graph}
    (h : LooksInto modified call callee) : Descends call callee := by
  obtain ⟨before, d, after, newest, g, hd, hl, -, rfl⟩ := h.reached
  have hg : (lastUpdatedAll modified (lookAt modified) before (modified call.1)
      (call.2.enter call.1)).2 = call.2.enter call.1 :=
    lastUpdatedAll_graph (lookAt_graph modified) before _ _
  rw [hl] at hg
  rw [show g = call.2.enter call.1 from hg]
  refine descends_enter h.unmarked ?_
  rw [Needs, hd]
  simp

/-! ## Both walks end -/

/-- `resolve` and `lastUpdatedFrom` are the functions that their recursions determine, over every
graph. The calls that they make on the way of others are well-founded, and nested no deeper than
one more than there are names among the one asked for, the targets and their dependency lists. -/
theorem walks_end_within_names (site : Site σ) (modified : String → Option Time) :
    ((∀ f, f = resolveAt site ↔ ∀ name st, f name st = resolveStep site f name st) ∧
      (WellFounded fun callee call => Invokes site call callee) ∧
      ∀ call calls, List.IsChain (Invokes site) (call :: calls) →
        (call :: calls).length ≤ (call.2.1.scope call.1).card + 1) ∧
    ((∀ f, f = lookAt modified ↔ ∀ name g, f name g = lookStep modified f name g) ∧
      (WellFounded fun callee call => LooksInto modified call callee) ∧
      ∀ call calls, List.IsChain (LooksInto modified) (call :: calls) →
        (call :: calls).length ≤ (call.2.scope call.1).card + 1) := by
  have hresolve : ∀ call callee, Invokes site call callee →
      Descends (call.1, call.2.1) (callee.1, callee.2.1) := fun _ _ h => h.descends
  have hlook : ∀ call callee, LooksInto modified call callee → Descends call callee :=
    fun _ _ h => h.descends
  refine ⟨⟨eq_resolveAt_iff site, wellFounded_of_descends hresolve, ?_⟩,
    ⟨eq_lookAt_iff modified, wellFounded_of_descends hlook, ?_⟩⟩
  · intro call calls h
    exact length_le_of_isChain hresolve h
  · intro call calls h
    exact length_le_of_isChain hlook h

end BuildTool.Graph
