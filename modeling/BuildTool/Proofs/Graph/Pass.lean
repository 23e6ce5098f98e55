import BuildTool.Proofs.Graph.Walk
import Mathlib.Data.List.Perm.Subperm

/-!
# A pass is a walk and an ending

A call of `resolve` is a walk from the graph and state it begins with, followed by one of five
endings: the name is done, a name was met on the way to itself, the name or a dependency is
unknown, or a command failed.

    resolveWithin site depth name st  =  (result, graph, state)
      Walk site st visits (graph, s)   and   Ends site depth name st graph s result state

The depth does not show as long as there is room for the names that can still be entered
(`Marked`), and a graph without marks has room for all of them.
-/

namespace BuildTool.Graph

variable {σ : Type}

/-! ## The equations of a pass -/

theorem resolveWithin_succ (site : Site σ) (depth : Nat) (name : String) (st : Graph × σ) :
    resolveWithin site (depth + 1) name st =
      if st.1.isResolved name then (.ok (), st)
      else if name ∈ st.1.visiting then (.error (.cyclicDependency name), st)
      else
        let out := resolveMarked site (resolveWithin site depth) name (st.1.enter name, st.2)
        (out.1, out.2.1.leave name, out.2.2) := rfl

section

variable {site : Site σ} {resolveOne : String → Graph × σ → Except BuildError Unit × Graph × σ}
  {name : String}

/-- A target that there is has its dependencies resolved and is then settled. -/
theorem resolveMarked_of_contains {g : Graph} {s : σ} (hc : g.contains name = true) :
    resolveMarked site resolveOne name (g.enter name, s) =
      match resolveAll site resolveOne name (g.dependenciesOf name) none (g.enter name, s) with
      | (.error e, st) => (.error e, st)
      | (.ok newest, st) => settle site name newest st := by
  have hf : (g.enter name).find? name = some (g.targetOf name) := find?_of_contains hc
  simp only [resolveMarked, hf]
  rfl

theorem resolveMarked_of_not_contains {g : Graph} {s : σ} (hc : g.contains name = false) :
    resolveMarked site resolveOne name (g.enter name, s) =
      (.error (.unknownTarget name), g.enter name, s) := by
  have hf : (g.enter name).find? name = none := find?_eq_none_iff.mpr hc
  simp only [resolveMarked, hf]

theorem missing_eq_false_iff {g : Graph} {s : σ} {d : String} :
    (!g.contains d && !site.pathExists s d) = false ↔
      g.contains d = true ∨ site.pathExists s d = true := by
  rw [Bool.and_eq_false_iff, Bool.not_eq_false', Bool.not_eq_false']

/-- Dependencies are all resolved if the first is and then the others are. -/
theorem resolveAll_cons_eq_ok {d : String} {rest : List String} {newest n : Option Time}
    {st st' : Graph × σ}
    (h : resolveAll site resolveOne name (d :: rest) newest st = (.ok n, st')) :
    (st.1.contains d = true ∨ site.pathExists st.2 d = true) ∧
      ∃ st₁, resolveOne d (st.1.ensure d, st.2) = (.ok (), st₁) ∧
        resolveAll site resolveOne name rest (latest newest (st₁.1.modifiedAt? d)) st₁ =
          (.ok n, st') := by
  unfold resolveAll at h
  split at h
  · cases h
  · next hc =>
    refine ⟨missing_eq_false_iff.mp (Bool.eq_false_iff.mpr hc), ?_⟩
    split at h
    · cases h
    · next g s ho => exact ⟨(g, s), ho, h⟩

/-- Dependencies that are not all resolved end with the first that is unknown or fails. -/
theorem resolveAll_eq_error {deps : List String} {newest : Option Time} {st st' : Graph × σ}
    {e : BuildError} (h : resolveAll site resolveOne name deps newest st = (.error e, st')) :
    ∃ before d after n st₁, deps = before ++ d :: after ∧
      resolveAll site resolveOne name before newest st = (.ok n, st₁) ∧
      ((st₁.1.contains d = false ∧ site.pathExists st₁.2 d = false ∧
          e = .unknownDependency name d ∧ st' = st₁) ∨
        ((st₁.1.contains d = true ∨ site.pathExists st₁.2 d = true) ∧
          resolveOne d (st₁.1.ensure d, st₁.2) = (.error e, st'))) := by
  induction deps generalizing newest st with
  | nil => cases h
  | cons d rest ih =>
    unfold resolveAll at h
    split at h
    · next hc =>
      rw [Bool.and_eq_true, Bool.not_eq_true', Bool.not_eq_true'] at hc
      cases h
      exact ⟨[], d, rest, newest, st, rfl, rfl, Or.inl ⟨hc.1, hc.2, rfl, rfl⟩⟩
    · next hc =>
      have hc' := missing_eq_false_iff.mp (Bool.eq_false_iff.mpr hc)
      split at h
      · next st₂ ho =>
        cases h
        exact ⟨[], d, rest, newest, st, rfl, rfl, Or.inr ⟨hc', ho⟩⟩
      · next g s ho =>
        obtain ⟨before, d', after, n, st₁, rfl, hb, hend⟩ := ih h
        refine ⟨d :: before, d', after, n, st₁, rfl, ?_, hend⟩
        rw [resolveAll, if_neg hc, ho]
        exact hb

/-- What every call keeps between two graphs, a row of calls keeps as well. -/
theorem resolveAll_keeps {R : Graph → Graph → Prop} (hrefl : ∀ g, R g g)
    (htrans : ∀ {g h k}, R g h → R h k → R g k) (hensure : ∀ g d, R g (g.ensure d))
    (hone : ∀ d st, R st.1 (resolveOne d st).2.1) (deps : List String) (newest : Option Time)
    (st : Graph × σ) : R st.1 (resolveAll site resolveOne name deps newest st).2.1 := by
  induction deps generalizing newest st with
  | nil => exact hrefl _
  | cons d rest ih =>
    have hd := htrans (hensure st.1 d) (hone d (st.1.ensure d, st.2))
    unfold resolveAll
    split
    · exact hrefl _
    · rcases hr : resolveOne d (st.1.ensure d, st.2) with ⟨e | _, g₁, s₁⟩
      · rw [hr] at hd
        exact hd
      · rw [hr] at hd
        exact htrans hd (ih (latest newest (g₁.modifiedAt? d)) (g₁, s₁))

/-- Dependencies are resolved up to any of them, and then the others. -/
theorem resolveAll_append (before rest : List String) (newest : Option Time) (st : Graph × σ) :
    resolveAll site resolveOne name (before ++ rest) newest st =
      match resolveAll site resolveOne name before newest st with
      | (.error e, st) => (.error e, st)
      | (.ok newest, st) => resolveAll site resolveOne name rest newest st := by
  induction before generalizing newest st with
  | nil => rfl
  | cons d before ih =>
    rw [List.cons_append, resolveAll, resolveAll]
    split
    · rfl
    · rcases resolveOne d (st.1.ensure d, st.2) with ⟨e | _, st'⟩
      · rfl
      · exact ih _ st'

end

/-! ## Where a pass checks for a path -/

/-- The pass below `name` comes to one of its dependencies, those before it being done. -/
structure ComesTo (site : Site σ) (depth : Nat) (name : String) (st : Graph × σ)
    (dependency : String) (st' : Graph × σ) : Prop where
  unresolved : st.1.isResolved name = false
  unmarked : name ∉ st.1.visiting
  contains : st.1.contains name = true
  reached : ∃ before after newest, st.1.dependenciesOf name = before ++ dependency :: after ∧
    resolveAll site (resolveWithin site depth) name before none (st.1.enter name, st.2) =
      (.ok newest, st')

/-- The pass below `name` checks in a state whether the path of a dependency exists. -/
inductive Checks (site : Site σ) : Nat → String → Graph × σ → String → σ → Prop
  | own {depth : Nat} {name : String} {st : Graph × σ} {dependency : String} {st' : Graph × σ} :
      ComesTo site depth name st dependency st' → st'.1.contains dependency = false →
      Checks site (depth + 1) name st dependency st'.2
  | further {depth : Nat} {name : String} {st : Graph × σ} {dependency : String} {st' : Graph × σ}
      {checked : String} {s : σ} :
      ComesTo site depth name st dependency st' →
      st'.1.contains dependency = true ∨ site.pathExists st'.2 dependency = true →
      Checks site depth dependency (st'.1.ensure dependency, st'.2) checked s →
      Checks site (depth + 1) name st checked s

/-! ## Marks and depth -/

/-- The marks of a graph are names on the way to `name`, and `depth` more levels are enough for
all names that can still be entered. -/
structure Marked (g : Graph) (depth : Nat) (name : String) : Prop where
  nodup : g.visiting.Nodup
  leads : ∀ other ∈ g.visiting, g.DependsOn other name
  room : ∃ names : List String, (∀ a b, g.Needs a b → a ∈ names) ∧
    names.length < depth + g.visiting.length

theorem marked_depthBound {g : Graph} (h : g.visiting = []) (name : String) :
    g.Marked g.depthBound name where
  nodup := by rw [h]; exact List.nodup_nil
  leads := by rw [h]; exact fun _ hm => nomatch hm
  room := by
    refine ⟨g.names, fun a b hn => mem_names_of_contains (contains_of_mem_dependenciesOf hn), ?_⟩
    rw [h]
    exact length_names_lt_depthBound g

theorem Marked.ne_zero {g : Graph} {depth : Nat} {name : String} (h : g.Marked depth name) :
    depth ≠ 0 := by
  rintro rfl
  obtain ⟨names, hn, hlt⟩ := h.room
  have hsub : g.visiting ⊆ names := by
    intro other ho
    obtain ⟨d, hd, -⟩ := (h.leads other ho).exists_needs
    exact hn other d hd
  have := (List.subperm_of_subset h.nodup hsub).length_le
  omega

theorem Marked.of_needs {g k : Graph} {depth : Nat} {name d : String}
    (h : g.Marked (depth + 1) name) (hm : name ∉ g.visiting) (hn : g.Needs name d)
    (same : SameRecipes g k) (hv : k.visiting = name :: g.visiting) : k.Marked depth d where
  nodup := by
    rw [hv]
    exact List.nodup_cons.mpr ⟨hm, h.nodup⟩
  leads := by
    intro other ho
    rw [same.dependsOn]
    rcases List.mem_cons.mp (hv ▸ ho) with rfl | ho
    · exact Relation.TransGen.single hn
    · exact (h.leads other ho).needs hn
  room := by
    obtain ⟨names, hs, hlt⟩ := h.room
    refine ⟨names, by rw [same.needs]; exact hs, ?_⟩
    rw [hv, List.length_cons]
    omega

/-! ## Endings -/

/-- How a pass for `name` ends after its walk from `start` to a graph and a state. -/
inductive Ends (site : Site σ) (depth : Nat) (name : String) (start : Graph × σ) (g : Graph)
    (s : σ) : Except BuildError Unit → σ → Prop
  | done : g.isResolved name = true → Ends site depth name start g s (.ok ()) s
  | cyclic {c : String} : start.1.Reaches name c →
      (start.1.Marked depth name → start.1.DependsOn c c) →
      Ends site depth name start g s (.error (.cyclicDependency c)) s
  | unknownTarget : start.1.contains name = false →
      Ends site depth name start g s (.error (.unknownTarget name)) s
  | unknownDependency {t d : String} : start.1.Reaches name t → start.1.Needs t d →
      g.contains d = false → site.pathExists s d = false → Checks site depth name start d s →
      Ends site depth name start g s (.error (.unknownDependency t d)) s
  | failed {v : Visit σ} {e : BuildError} {s' : σ} : start.1.Reaches name v.name →
      g.IsReady v.name → v.newest = g.newestOf v.name → v.start = s →
      v.outcome site g = (.error e, s') → Ends site depth name start g s (.error e) s'

/-- What a pass for `name` from `start` comes to is a walk and an ending. -/
def IsPass (site : Site σ) (depth : Nat) (name : String) (start : Graph × σ)
    (out : Except BuildError Unit × Graph × σ) : Prop :=
  ∃ visits s, Walk site start visits (out.2.1, s) ∧
    (∀ v ∈ visits, start.1.Reaches name v.name ∧ v.name ∉ start.1.visiting) ∧
    Ends site depth name start out.2.1 s out.1 out.2.2

section

variable {site : Site σ} {depth : Nat} {name : String}

theorem IsPass.walk_of_ok {start st : Graph × σ} (h : IsPass site depth name start (.ok (), st)) :
    ∃ visits, Walk site start visits st ∧
      (∀ v ∈ visits, start.1.Reaches name v.name ∧ v.name ∉ start.1.visiting) ∧
      st.1.isResolved name = true := by
  obtain ⟨visits, s, w, hv, he⟩ := h
  cases he with
  | done hr => exact ⟨visits, w, hv, hr⟩

/-- A pass that ends well has done all it can reach, none of which depends on itself. -/
theorem IsPass.reaches_of_ok {st : Graph × σ} {out : Except BuildError Unit × Graph × σ}
    (h : IsPass site depth name st out) (hs : st.1.IsSound) (ho : out.1 = .ok ())
    {other : String} (hr : st.1.Reaches name other) :
    ¬st.1.DependsOn other other ∧ out.2.1.isResolved other = true := by
  obtain ⟨result, st'⟩ := out
  cases ho
  obtain ⟨visits, w, -, hd⟩ := h.walk_of_ok
  rw [← w.sameRecipes.reaches] at hr
  have hres := (w.isSound hs).isResolved_of_reaches hd hr
  have hacyclic := (w.isSound hs).acyclic other hres
  rw [w.sameRecipes.dependsOn] at hacyclic
  exact ⟨hacyclic, hres⟩

theorem Walk.of_ensure {st st' : Graph × σ} {d : String} {visits : List (Visit σ)}
    (hn : st.1.Needs name d) (hc : st.1.contains d = true ∨ site.pathExists st.2 d = true)
    (w : Walk site (st.1.ensure d, st.2) visits st') : Walk site st visits st' := by
  by_cases h : st.1.contains d = true
  · rwa [ensure_of_contains h] at w
  · exact .adopt hn (Bool.eq_false_iff.mpr h) (hc.resolve_left h) w

/-- Marking the name before a walk and taking the mark off after it leaves a walk. -/
theorem Walk.of_enter {st st' : Graph × σ} {visits : List (Visit σ)}
    (w : Walk site (st.1.enter name, st.2) visits st') :
    Walk site st visits (st'.1.leave name, st'.2) := by
  rw [leave_eq_withVisiting w.visiting]
  exact w.withVisiting st.1.visiting

theorem Ends.withVisiting {start : Graph × σ} {g : Graph} {s s' : σ}
    {r : Except BuildError Unit} (h : Ends site depth name start g s r s') (marks : List String) :
    Ends site depth name start (g.withVisiting marks) s r s' := by
  cases h with
  | done hr => exact .done hr
  | cyclic hr hc => exact .cyclic hr hc
  | unknownTarget hc => exact .unknownTarget hc
  | unknownDependency hr hn hc he hk => exact .unknownDependency hr hn hc he hk
  | failed hr hd hv hs ho => exact .failed hr ⟨hd.contains, hd.unresolved, hd.needed⟩ hv hs ho

/-- An error below a dependency is an error below the name. -/
theorem Ends.of_dependency {start st₁ : Graph × σ} {g : Graph} {s s' : σ} {d : String}
    {visits : List (Visit σ)} {e : BuildError} (hcome : ComesTo site depth name start d st₁)
    (hn : start.1.Needs name d) (w : Walk site (start.1.enter name, start.2) visits st₁)
    (hc : st₁.1.contains d = true ∨ site.pathExists st₁.2 d = true)
    (h : Ends site depth d (st₁.1.ensure d, st₁.2) g s (.error e) s') :
    Ends site (depth + 1) name start g s (.error e) s' := by
  have same : SameRecipes start.1 (st₁.1.ensure d) :=
    w.sameRecipes.trans (sameRecipes_ensure st₁.1 d)
  generalize hr : (Except.error e : Except BuildError Unit) = r at h
  cases h with
  | done => cases hr
  | cyclic hreach hcyc =>
    cases hr
    rw [same.reaches] at hreach
    refine .cyclic (.of_needs hn hreach) fun hm => ?_
    rw [same.dependsOn] at hcyc
    exact hcyc (hm.of_needs hcome.unmarked hn same (by rw [visiting_ensure, w.visiting]; rfl))
  | unknownTarget hno =>
    rw [contains_ensure_self] at hno
    cases hno
  | unknownDependency hreach hneeds hno hpath hk =>
    cases hr
    rw [same.reaches] at hreach
    rw [same.needs] at hneeds
    exact .unknownDependency (.of_needs hn hreach) hneeds hno hpath (.further hcome hc hk)
  | failed hreach hready hv hs ho =>
    cases hr
    rw [same.reaches] at hreach
    exact .failed (.of_needs hn hreach) hready hv hs ho

/-! ## Every pass is a walk and an ending -/

/-- Dependencies that are all resolved are a walk, after which they are done. -/
theorem resolveAll_walk (ih : ∀ d st, IsPass site depth d st (resolveWithin site depth d st))
    {deps : List String} {newest n : Option Time} {st st' : Graph × σ}
    (h : resolveAll site (resolveWithin site depth) name deps newest st = (.ok n, st'))
    (hn : ∀ d ∈ deps, st.1.Needs name d) :
    ∃ visits, Walk site st visits st' ∧
      (∀ v ∈ visits, st.1.Reaches name v.name ∧ v.name ∉ st.1.visiting) ∧
      (∀ d ∈ deps, st'.1.isResolved d = true) ∧
      n = deps.foldl (fun newest d => latest newest (st'.1.modifiedAt? d)) newest := by
  induction deps generalizing newest st with
  | nil =>
    cases h
    exact ⟨[], .refl _, by simp, by simp, rfl⟩
  | cons d rest ihr =>
    obtain ⟨hc, st₁, ho, hrest⟩ := resolveAll_cons_eq_ok h
    have hp := ih d (st.1.ensure d, st.2)
    rw [ho] at hp
    obtain ⟨vs, w, hv, hd⟩ := hp.walk_of_ok
    have hnd : st.1.Needs name d := hn d List.mem_cons_self
    have w₁ : Walk site st vs st₁ := w.of_ensure hnd hc
    have hn₁ : ∀ d ∈ rest, st₁.1.Needs name d := by
      intro d' hd'
      rw [w₁.sameRecipes.needs]
      exact hn d' (List.mem_cons_of_mem _ hd')
    obtain ⟨vs', w₂, hv', hd', hfold⟩ := ihr hrest hn₁
    rw [w₁.sameRecipes.reaches, w₁.visiting] at hv'
    refine ⟨vs ++ vs', w₁.trans w₂, ?_, ?_, ?_⟩
    · intro v hm
      rcases List.mem_append.mp hm with hm | hm
      · obtain ⟨hreach, hmark⟩ := hv v hm
        rw [(sameRecipes_ensure st.1 d).reaches] at hreach
        rw [visiting_ensure] at hmark
        exact ⟨.of_needs hnd hreach, hmark⟩
      · exact hv' v hm
    · intro d' hm
      rcases List.mem_cons.mp hm with rfl | hm
      · exact w₂.isResolved hd
      · exact hd' d' hm
    · rw [hfold, List.foldl_cons, modifiedAt?, modifiedAt?, w₂.targetOf_of_isResolved hd]

/-- A target whose commands succeed, if they are run, is done. -/
theorem settle_of_ok {newest : Option Time} {st : Graph × σ} (hc : st.1.contains name = true)
    (ho : ((Visit.mk name newest st.2).outcome site st.1).1 = .ok ()) :
    settle site name newest st =
      (.ok (), st.1.modify name (·.doneAt ((Visit.mk name newest st.2).time site st.1)),
        (Visit.mk name newest st.2).finish site st.1) := by
  have hv : refresh site name (st.1.targetOf name) newest st.2 =
      (Visit.mk name newest st.2).outcome site st.1 := rfl
  unfold Visit.time Visit.finish
  rcases hout : (Visit.mk name newest st.2).outcome site st.1 with ⟨e | _, s⟩
  · rw [hout] at ho
    cases ho
  · simp only [settle, find?_of_contains hc, hv, hout]

/-- A target with a command that fails is left as it is. -/
theorem settle_of_error {newest : Option Time} {st : Graph × σ} (hc : st.1.contains name = true)
    {e : BuildError} {s : σ} (ho : (Visit.mk name newest st.2).outcome site st.1 = (.error e, s)) :
    settle site name newest st = (.error e, st.1, s) := by
  have hv : refresh site name (st.1.targetOf name) newest st.2 = (.error e, s) := ho
  simp only [settle, find?_of_contains hc, hv]

/-- Settling a target that is ready is a visit, or ends with a command that fails. -/
theorem settle_ends (start : Graph × σ) {st : Graph × σ} {newest : Option Time}
    (hready : st.1.IsReady name) (hnew : newest = st.1.newestOf name) :
    ∃ more s, Walk site st more ((settle site name newest st).2.1, s) ∧
      (∀ v ∈ more, v.name = name) ∧
      Ends site depth name start (settle site name newest st).2.1 s
        (settle site name newest st).1 (settle site name newest st).2.2 := by
  let v : Visit σ := ⟨name, newest, st.2⟩
  rcases ho : v.outcome site st.1 with ⟨e | _, s⟩
  · rw [settle_of_error hready.contains ho]
    exact ⟨[], st.2, .refl _, by simp, .failed (v := v) .refl hready hnew rfl ho⟩
  · have hok : (v.outcome site st.1).1 = .ok () := by rw [ho]
    rw [settle_of_ok hready.contains hok]
    refine ⟨[v], _, .visit hready hnew hok (.refl _), by simp [v], .done ?_⟩
    rw [isResolved_doneAt hready.contains]
    simp

/-- A walk between marking a name and taking the mark off, with its ending. -/
theorem IsPass.of_enter {st : Graph × σ} {g : Graph} {s s' : σ} {visits : List (Visit σ)}
    {r : Except BuildError Unit} (w : Walk site (st.1.enter name, st.2) visits (g, s))
    (hv : ∀ v ∈ visits, st.1.Reaches name v.name ∧ v.name ∉ st.1.visiting)
    (he : Ends site depth name st g s r s') :
    IsPass site depth name st (r, g.leave name, s') := by
  refine ⟨visits, s, w.of_enter, hv, ?_⟩
  rw [leave_eq_withVisiting w.visiting]
  exact he.withVisiting st.1.visiting

variable (ih : ∀ d st, IsPass site depth d st (resolveWithin site depth d st))
  {st st' : Graph × σ} (hr : st.1.isResolved name = false) (hm : name ∉ st.1.visiting)
  (hc : st.1.contains name = true)
include ih hr hm hc

/-- A target with a dependency that is unknown or fails is a walk and an ending. -/
theorem isPass_of_resolveAll_error {e : BuildError}
    (h : resolveAll site (resolveWithin site depth) name (st.1.dependenciesOf name) none
      (st.1.enter name, st.2) = (.error e, st')) :
    IsPass site (depth + 1) name st (.error e, st'.1.leave name, st'.2) := by
  obtain ⟨before, d, after, n, st₁, hdeps, hb, hend⟩ := resolveAll_eq_error h
  have hn : st.1.Needs name d := by
    rw [Needs, hdeps]
    simp
  have hnb : ∀ d' ∈ before, (st.1.enter name).Needs name d' := by
    intro d' hd'
    show d' ∈ st.1.dependenciesOf name
    rw [hdeps]
    exact List.mem_append_left _ hd'
  obtain ⟨vs, w, hv, -, -⟩ := resolveAll_walk ih hb hnb
  have hv₁ : ∀ v ∈ vs, st.1.Reaches name v.name ∧ v.name ∉ st.1.visiting :=
    fun v hmem => ⟨(hv v hmem).1, fun h => (hv v hmem).2 (List.mem_cons_of_mem _ h)⟩
  have hcome : ComesTo site depth name st d st₁ := ⟨hr, hm, hc, before, after, n, hdeps, hb⟩
  rcases hend with ⟨hno, hpath, rfl, rfl⟩ | ⟨hc₁, hd⟩
  · have hk : Checks site (depth + 1) name st d st'.2 := .own hcome hno
    exact .of_enter w hv₁ (.unknownDependency .refl hn hno hpath hk)
  · have hp := ih d (st₁.1.ensure d, st₁.2)
    rw [hd] at hp
    obtain ⟨vs', s, w', hv₂, hends⟩ := hp
    have same : SameRecipes st.1 (st₁.1.ensure d) :=
      w.sameRecipes.trans (sameRecipes_ensure st₁.1 d)
    have hn₁ : st₁.1.Needs name d := by
      rw [w.sameRecipes.needs]
      exact hn
    have hmarks : (st₁.1.ensure d).visiting = name :: st.1.visiting := by
      rw [visiting_ensure, w.visiting]
      rfl
    refine .of_enter (w.trans (w'.of_ensure hn₁ hc₁)) ?_ (hends.of_dependency hcome hn w hc₁)
    intro v hmem
    rcases List.mem_append.mp hmem with hmem | hmem
    · exact hv₁ v hmem
    · obtain ⟨hreach, hmark⟩ := hv₂ v hmem
      rw [same.reaches] at hreach
      rw [hmarks] at hmark
      exact ⟨.of_needs hn hreach, fun h => hmark (List.mem_cons_of_mem _ h)⟩

omit hm in
/-- A target whose dependencies are all resolved is ready. -/
theorem isReady_of_resolveAll {newest : Option Time}
    (h : resolveAll site (resolveWithin site depth) name (st.1.dependenciesOf name) none
      (st.1.enter name, st.2) = (.ok newest, st')) :
    ∃ visits, Walk site (st.1.enter name, st.2) visits st' ∧
      (∀ v ∈ visits, st.1.Reaches name v.name ∧ v.name ∉ (st.1.enter name).visiting) ∧
      st'.1.IsReady name ∧ newest = st'.1.newestOf name := by
  obtain ⟨vs, w, hv, hd, hfold⟩ := resolveAll_walk ih h fun d hd => hd
  refine ⟨vs, w, hv, ⟨w.contains hc, Bool.eq_false_iff.mpr ?_, ?_⟩, ?_⟩
  · -- the mark keeps the walk below the name from settling it
    intro hres
    rcases (w.isResolved_iff name).mp hres with h | h
    · exact absurd h (Bool.eq_false_iff.mp hr)
    · obtain ⟨v, hmem, rfl⟩ := List.mem_map.mp h
      exact (hv v hmem).2 List.mem_cons_self
  · intro d hn
    rw [w.sameRecipes.needs] at hn
    exact hd d hn
  · rw [hfold, newestOf, w.sameRecipes.dependenciesOf]
    rfl

/-- A target whose dependencies are all resolved is a walk and an ending. -/
theorem isPass_of_resolveAll_ok {newest : Option Time}
    (h : resolveAll site (resolveWithin site depth) name (st.1.dependenciesOf name) none
      (st.1.enter name, st.2) = (.ok newest, st')) :
    let out := settle site name newest st'
    IsPass site (depth + 1) name st (out.1, out.2.1.leave name, out.2.2) := by
  obtain ⟨vs, w, hv, hready, hnew⟩ := isReady_of_resolveAll ih hr hc h
  obtain ⟨more, s, w', hmore, hends⟩ := settle_ends st hready hnew
  refine .of_enter (w.trans w') ?_ hends
  intro v hmem
  rcases List.mem_append.mp hmem with hmem | hmem
  · exact ⟨(hv v hmem).1, fun h => (hv v hmem).2 (List.mem_cons_of_mem _ h)⟩
  · rw [hmore v hmem]
    exact ⟨.refl, hm⟩

end

/-- What a call of `resolve` comes to, at any depth. -/
theorem resolveWithin_isPass (site : Site σ) (depth : Nat) :
    ∀ name st, IsPass site depth name st (resolveWithin site depth name st) := by
  induction depth with
  | zero =>
    intro name st
    exact ⟨[], st.2, .refl _, by simp, .cyclic .refl fun hm => absurd rfl hm.ne_zero⟩
  | succ depth ih =>
    intro name st
    rw [resolveWithin_succ]
    split
    · next hr => exact ⟨[], st.2, .refl _, by simp, .done hr⟩
    · next hr =>
      rw [Bool.not_eq_true] at hr
      split
      · next hm =>
        exact ⟨[], st.2, .refl _, by simp, .cyclic .refl fun hk => hk.leads name hm⟩
      · next hm =>
        by_cases hc : st.1.contains name = true
        · rw [resolveMarked_of_contains hc]
          rcases ho : resolveAll site (resolveWithin site depth) name (st.1.dependenciesOf name)
              none (st.1.enter name, st.2) with ⟨e | newest, st'⟩
          · exact isPass_of_resolveAll_error ih hr hm hc ho
          · exact isPass_of_resolveAll_ok ih hr hm hc ho
        · have hno := Bool.eq_false_iff.mpr hc
          rw [resolveMarked_of_not_contains hno]
          exact .of_enter (.refl _) (by simp) (.unknownTarget hno)

theorem resolve_isPass (site : Site σ) (name : String) (g : Graph) (s : σ) :
    IsPass site g.depthBound name (g, s) (g.resolve site name s) :=
  resolveWithin_isPass site g.depthBound name (g, s)

/-! ## What a pass checks for -/

section

variable {site : Site σ} {depth : Nat} {name d : String} {st st' : Graph × σ}

theorem ComesTo.walk (h : ComesTo site depth name st d st') :
    st.1.Needs name d ∧ ∃ visits, Walk site (st.1.enter name, st.2) visits st' := by
  obtain ⟨before, after, newest, hd, hr⟩ := h.reached
  have hn : ∀ d' ∈ before ++ d :: after, st.1.Needs name d' := by
    intro d' hd'
    rw [Needs, hd]
    exact hd'
  obtain ⟨visits, w, -⟩ := resolveAll_walk (resolveWithin_isPass site depth) hr
    fun d' hd' => hn d' (List.mem_append_left _ hd')
  exact ⟨hn d (by simp), visits, w⟩

/-- Where a pass comes to a dependency there is room left for it, also in a graph of the same
script with the same marks. -/
theorem ComesTo.marked (hcome : ComesTo site depth name st d st') {g h : Graph} {m : Nat}
    (same : SameRecipes st.1 g) (hv : g.visiting = st.1.visiting) (same' : SameRecipes st'.1 h)
    (hv' : h.visiting = st'.1.visiting) (hm : g.Marked (m + 1) name) :
    (h.ensure d).Marked m d := by
  obtain ⟨hn, visits, w⟩ := hcome.walk
  have sameh : SameRecipes st.1 (h.ensure d) :=
    (w.sameRecipes.trans same').trans (sameRecipes_ensure h d)
  refine hm.of_needs ?_ ?_ (same.symm.trans sameh) ?_
  · rw [hv]
    exact hcome.unmarked
  · rw [same.needs]
    exact hn
  · rw [visiting_ensure, hv', w.visiting, hv]
    rfl

/-- A pass checks for the path of a name only if something that it reaches needs the name and
there is no target of the name. -/
theorem Checks.needs {s : σ} (h : Checks site depth name st d s) :
    st.1.contains d = false ∧ ∃ t, st.1.Reaches name t ∧ st.1.Needs t d := by
  induction h with
  | @own depth name st d st' hcome hc =>
    obtain ⟨hn, visits, w⟩ := hcome.walk
    exact ⟨w.not_contains hc, name, .refl, hn⟩
  | @further depth name st d' st' d _ hcome _ _ ih =>
    obtain ⟨hn, visits, w⟩ := hcome.walk
    obtain ⟨hc, t, hr, ht⟩ := ih
    have same : SameRecipes st.1 (st'.1.ensure d') :=
      w.sameRecipes.trans (sameRecipes_ensure st'.1 d')
    rw [same.reaches] at hr
    rw [same.needs] at ht
    rw [contains_ensure, Bool.or_eq_false_iff] at hc
    exact ⟨w.not_contains hc.2, t, .of_needs hn hr, ht⟩

end

end BuildTool.Graph
