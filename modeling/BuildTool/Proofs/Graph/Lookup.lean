import BuildTool.Graph.Basic

/-!
# What the operations on a graph do to the target of a name

A name without a target has an empty one as `targetOf`, so making an empty target shows in
`contains` and nowhere else.

    (g.ensure name).targetOf other  =  g.targetOf other
    (g.modify name change).targetOf name  =  change (g.targetOf name)     if `name` is there

The fields of a target that a script sets are its `recipe`; a pass over the graph changes the
other two.
-/

namespace BuildTool

namespace Target

/-- What a script says of a target. -/
def recipe (t : Target) : Target := { t with resolved := false, modifiedAt := none }

@[simp] theorem recipe_doneAt (time : Time) (t : Target) :
    (t.doneAt time).recipe = t.recipe := rfl

@[simp] theorem recipe_unresolve (t : Target) : t.unresolve.recipe = t.recipe := rfl

end Target

namespace Graph

/-! ## Names -/

theorem contains_iff {g : Graph} {name : String} :
    g.contains name = true ↔ ∃ t, g.find? name = some t := by
  unfold contains
  rw [Option.isSome_iff_exists]

theorem find?_of_contains {g : Graph} {name : String} (h : g.contains name = true) :
    g.find? name = some (g.targetOf name) := by
  obtain ⟨t, ht⟩ := contains_iff.mp h
  rw [targetOf, ht]
  rfl

theorem find?_eq_none_iff {g : Graph} {name : String} :
    g.find? name = none ↔ g.contains name = false := by
  unfold contains
  rw [Option.isSome_eq_false_iff, Option.isNone_iff_eq_none]

theorem targetOf_of_not_contains {g : Graph} {name : String} (h : g.contains name = false) :
    g.targetOf name = { name } := by
  rw [targetOf, find?_eq_none_iff.mpr h]
  rfl

theorem contains_of_isResolved {g : Graph} {name : String} (h : g.isResolved name = true) :
    g.contains name = true := by
  by_cases hc : g.contains name = true
  · exact hc
  · rw [isResolved, targetOf_of_not_contains (Bool.eq_false_iff.mpr hc)] at h
    cases h

theorem contains_of_mem_dependenciesOf {g : Graph} {name dependency : String}
    (h : dependency ∈ g.dependenciesOf name) : g.contains name = true := by
  by_cases hc : g.contains name = true
  · exact hc
  · rw [dependenciesOf, targetOf_of_not_contains (Bool.eq_false_iff.mpr hc)] at h
    cases h

def names (g : Graph) : List String := g.targets.map Prod.fst

theorem mem_names_of_contains {g : Graph} {name : String} (h : g.contains name = true) :
    name ∈ g.names := by
  obtain ⟨t, ht⟩ := contains_iff.mp h
  obtain ⟨before, after, hl, -⟩ := List.lookup_eq_some_iff.mp ht
  rw [names, hl]
  simp

theorem length_names_lt_depthBound (g : Graph) : g.names.length < g.depthBound := by
  unfold names depthBound mentioned
  rw [List.length_append]
  omega

/-! ## Making a target -/

theorem find?_ensure (g : Graph) (name other : String) :
    (g.ensure name).find? other =
      if other = name then some (g.targetOf name) else g.find? other := by
  unfold ensure
  split
  · next h =>
    by_cases he : other = name
    · subst he
      rw [if_pos rfl, find?_of_contains h]
    · rw [if_neg he]
  · next h =>
    have hn := Bool.eq_false_iff.mpr h
    unfold find?
    rw [List.lookup_append]
    by_cases he : other = name
    · subst he
      have : g.targets.lookup other = none := find?_eq_none_iff.mpr hn
      rw [if_pos rfl, this, targetOf_of_not_contains hn]
      simp
    · have hb : (other == name) = false := by simpa using he
      rw [if_neg he, List.lookup_cons, hb, List.lookup_nil]
      simp

@[simp] theorem targetOf_ensure (g : Graph) (name other : String) :
    (g.ensure name).targetOf other = g.targetOf other := by
  rw [targetOf, find?_ensure]
  by_cases he : other = name
  · subst he
    rw [if_pos rfl]
    rfl
  · rw [if_neg he, targetOf]

theorem contains_ensure (g : Graph) (name other : String) :
    (g.ensure name).contains other = (other == name || g.contains other) := by
  rw [contains, find?_ensure]
  by_cases he : other = name
  · simp [he]
  · simp [he, contains]

@[simp] theorem contains_ensure_self (g : Graph) (name : String) :
    (g.ensure name).contains name = true := by
  simp [contains_ensure]

theorem ensure_of_contains {g : Graph} {name : String} (h : g.contains name = true) :
    g.ensure name = g := by
  rw [ensure, dif_pos h]

@[simp] theorem visiting_ensure (g : Graph) (name : String) :
    (g.ensure name).visiting = g.visiting := by
  unfold ensure
  split <;> rfl

/-! ## Changing targets -/

theorem lookup_map_snd (change : String → Target → Target) (name : String)
    (targets : List (String × Target)) :
    (targets.map fun p => (p.1, change p.1 p.2)).lookup name =
      (targets.lookup name).map (change name) := by
  induction targets with
  | nil => rfl
  | cons p rest ih =>
    rw [List.map_cons, List.lookup_cons, List.lookup_cons, ih]
    by_cases he : name = p.1
    · simp [he]
    · have hb : (name == p.1) = false := by simpa using he
      simp only [hb]

theorem find?_mapTargets (g : Graph) (change : String → Target → Target) (name : String) :
    (g.mapTargets change).find? name = (g.find? name).map (change name) :=
  lookup_map_snd change name g.targets

@[simp] theorem contains_mapTargets (g : Graph) (change : String → Target → Target)
    (name : String) : (g.mapTargets change).contains name = g.contains name := by
  rw [contains, find?_mapTargets, Option.isSome_map, contains]

theorem targetOf_mapTargets {g : Graph} {change : String → Target → Target} {name : String}
    (h : g.contains name = true ∨ change name { name } = { name }) :
    (g.mapTargets change).targetOf name = change name (g.targetOf name) := by
  by_cases hc : g.contains name = true
  · rw [targetOf, find?_mapTargets, find?_of_contains hc]
    rfl
  · have hn := Bool.eq_false_iff.mpr hc
    have hm : (g.mapTargets change).contains name = false := by
      rw [contains_mapTargets, hn]
    rw [targetOf_of_not_contains hn, targetOf_of_not_contains hm, h.resolve_left hc]

@[simp] theorem contains_modify (g : Graph) (name other : String) (change : Target → Target) :
    (g.modify name change).contains other = g.contains other :=
  contains_mapTargets g _ other

theorem targetOf_modify_self {g : Graph} {name : String} (h : g.contains name = true)
    (change : Target → Target) :
    (g.modify name change).targetOf name = change (g.targetOf name) := by
  rw [modify, targetOf_mapTargets (Or.inl h), if_pos rfl]

theorem targetOf_modify_of_ne {g : Graph} {name other : String} (h : other ≠ name)
    (change : Target → Target) :
    (g.modify name change).targetOf other = g.targetOf other := by
  rw [modify, targetOf_mapTargets (Or.inr (if_neg h)), if_neg h]

@[simp] theorem visiting_modify (g : Graph) (name : String) (change : Target → Target) :
    (g.modify name change).visiting = g.visiting := rfl

@[simp] theorem contains_unresolveAll (g : Graph) (name : String) :
    g.unresolveAll.contains name = g.contains name :=
  contains_mapTargets g _ name

@[simp] theorem targetOf_unresolveAll (g : Graph) (name : String) :
    g.unresolveAll.targetOf name = (g.targetOf name).unresolve := by
  rw [unresolveAll, targetOf_mapTargets (Or.inr rfl)]

/-! ## Marks -/

def withVisiting (g : Graph) (visiting : List String) : Graph := { g with visiting }

theorem withVisiting_ensure (g : Graph) (name : String) (visiting : List String) :
    (g.ensure name).withVisiting visiting = (g.withVisiting visiting).ensure name := by
  by_cases h : g.contains name = true
  · rw [ensure_of_contains h, ensure_of_contains (g := g.withVisiting visiting) h]
  · have h' : ¬(g.withVisiting visiting).contains name = true := h
    rw [ensure, dif_neg h, ensure, dif_neg h']
    rfl

theorem leave_eq_withVisiting {g : Graph} {name : String} {visiting : List String}
    (h : g.visiting = name :: visiting) : g.leave name = g.withVisiting visiting := by
  rw [leave, h, List.erase_cons_head]
  rfl

end Graph

end BuildTool
