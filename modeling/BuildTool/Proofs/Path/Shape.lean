import BuildTool.Proofs.Path.Place

/-!
# The shape of clean paths

A path is in normal form if its elements show it: none of them is empty or `.`, and `..` stands
at the beginning of a relative path or nowhere.

    .    /    a/b    /a/b    ../..    ../../a

Such a path is what its elements give when they are kept as they are (`isNormal_iff`). So cleaning
puts every path into normal form, and leaves those paths as they are that have it already
(`clean_eq_self_iff`).
-/

namespace BuildTool.Path

/-- The elements of a path, those behind the slash if it begins with one. -/
def ownElements (path : String) : List (List Char) :=
  elements (if isAbsolute path then path.toList.tail else path.toList)

/-- The path is in normal form. -/
structure IsNormal (path : String) : Prop where
  ne_empty : path ≠ ""
  elements : path ≠ "." → path ≠ "/" → ∀ e ∈ ownElements path, e ≠ [] ∧ e ≠ ['.']
  no_last_slash : path ≠ "/" → path.toList.getLast? ≠ some '/'
  ups_first : ∃ ups below, ownElements path = List.replicate ups ['.', '.'] ++ below ∧
    ['.', '.'] ∉ below ∧ (isAbsolute path = true → ups = 0)

theorem isNormal_here : IsNormal "." where
  ne_empty := by decide
  elements h := absurd rfl h
  no_last_slash _ := by decide
  ups_first := ⟨0, [['.']], rfl, by decide, fun _ => rfl⟩

theorem isNormal_root : IsNormal "/" where
  ne_empty := by decide
  elements _ h := absurd rfl h
  no_last_slash h := absurd rfl h
  ups_first := ⟨0, [[]], rfl, by decide, fun _ => rfl⟩

/-! ## Elements put together again -/

theorem joinElements_elements (path : List Char) : joinElements (elements path) = path := by
  rw [joinElements, elements, Text.splitChar_eq_splitOn]
  exact List.intercalate_splitOn '/'

/-- A slash at the end is followed by an empty element. -/
theorem nil_mem_ownElements {path : String} (h : path.toList.getLast? = some '/')
    (hne : path ≠ "/") : [] ∈ ownElements path := by
  obtain ⟨before, hpath⟩ := List.getLast?_eq_some_iff.mp h
  have hend : ∃ own, (if isAbsolute path then path.toList.tail else path.toList) = own ++ ['/'] := by
    cases before with
    | nil => exact absurd (String.toList_inj.mp hpath) hne
    | cons c before =>
      rw [hpath]
      split
      · exact ⟨before, rfl⟩
      · exact ⟨c :: before, rfl⟩
  obtain ⟨own, hown⟩ := hend
  rw [ownElements, hown, elements, Text.splitChar_append_cons]
  exact List.mem_append_right _ List.mem_cons_self

/-! ## Kept elements make a path in normal form -/

section

variable {rooted : Bool} {kept : List (List Char)} {path : String}

theorem IsKept.isAbsolute_eq (h : IsKept rooted kept) (hp : path.toList = ofKept rooted kept) :
    isAbsolute path = rooted := by
  rw [isAbsolute, hp]
  exact h.head?_ofKept

/-- Cleaning leaves a path of elements in normal form as it is. -/
theorem IsKept.clean_eq (h : IsKept rooted kept) (hp : path.toList = ofKept rooted kept) :
    clean path = path := by
  apply String.toList_inj.mp
  rw [toList_clean, h.isAbsolute_eq hp, hp, h.keptOf_ofKept]

theorem IsKept.ownElements_eq (h : IsKept rooted kept) (hk : kept ≠ [])
    (hp : path.toList = ofKept rooted kept) : ownElements path = kept.reverse := by
  rw [ownElements, h.isAbsolute_eq hp, hp]
  cases rooted with
  | true => exact h.elements_joinElements hk
  | false =>
    have hjoin : ofKept false kept = joinElements kept.reverse := if_neg hk
    rw [if_neg Bool.false_ne_true, hjoin]
    exact h.elements_joinElements hk

theorem IsKept.isNormal (h : IsKept rooted kept) (hp : path.toList = ofKept rooted kept) :
    IsNormal path := by
  by_cases hk : kept = []
  · subst hk
    cases rooted with
    | true => rw [show path = "/" from String.toList_inj.mp hp]; exact isNormal_root
    | false => rw [show path = "." from String.toList_inj.mp hp]; exact isNormal_here
  · have hown := h.ownElements_eq hk hp
    have helements : ∀ e ∈ ownElements path, e ≠ [] ∧ e ≠ ['.'] := by
      intro e he
      rw [hown, List.mem_reverse] at he
      exact ⟨h.ne_nil e he, h.ne_here e he⟩
    refine ⟨?_, fun _ _ => helements, ?_, ?_⟩
    · rw [← h.clean_eq hp]
      exact clean_ne_empty path
    · intro hne hlast
      exact (helements [] (nil_mem_ownElements hlast hne)).1 rfl
    · obtain ⟨names, ups, rfl, hnames, hups⟩ := h.exists_names
      refine ⟨ups, names.reverse, ?_, ?_, ?_⟩
      · rw [hown, List.reverse_append, List.reverse_replicate]
      · intro hup
        exact (hnames _ (List.mem_reverse.mp hup)).ne_up rfl
      · rw [h.isAbsolute_eq hp]
        exact hups

end

/-! ## A path in normal form is made of kept elements -/

/-- Names below steps up, which only a relative path has, are in normal form. -/
theorem isKept_names {rooted : Bool} {names : List (List Char)} {ups : Nat}
    (hnames : ∀ e ∈ names, IsName e) (hups : rooted = true → ups = 0) :
    IsKept rooted (names ++ List.replicate ups ['.', '.']) := by
  induction names with
  | nil =>
    induction ups with
    | zero => exact .nil
    | succ ups ih =>
      have hrelative : rooted = false := by
        cases rooted with
        | true => exact absurd (hups rfl) (Nat.succ_ne_zero ups)
        | false => rfl
      have houter : IsKept rooted (List.replicate ups ['.', '.']) :=
        ih fun hr => by rw [hrelative] at hr; cases hr
      exact .up hrelative (fun e he => List.eq_of_mem_replicate he) houter
  | cons e names ih =>
    obtain ⟨he, hnames⟩ := List.forall_mem_cons.mp hnames
    exact .down he (ih hnames)

theorem IsNormal.exists_isKept {path : String} (h : IsNormal path) :
    ∃ kept, IsKept (isAbsolute path) kept ∧ path.toList = ofKept (isAbsolute path) kept := by
  by_cases hhere : path = "."
  · subst hhere
    exact ⟨[], .nil, rfl⟩
  by_cases hroot : path = "/"
  · subst hroot
    exact ⟨[], .nil, rfl⟩
  obtain ⟨ups, below, hown, hbelow, hups⟩ := h.ups_first
  have hnames : ∀ e ∈ below.reverse, IsName e := by
    intro e he
    have hmem : e ∈ below := List.mem_reverse.mp he
    have hpart : e ∈ ownElements path := hown ▸ List.mem_append_right _ hmem
    obtain ⟨hne, hstay⟩ := h.elements hhere hroot e hpart
    exact ⟨hne, hstay, fun hup => hbelow (hup ▸ hmem), Text.not_mem_of_mem_splitChar hpart⟩
  have hkept := isKept_names hnames hups
  have hreverse :
      (below.reverse ++ List.replicate ups ['.', '.']).reverse = ownElements path := by
    rw [hown, List.reverse_append, List.reverse_replicate, List.reverse_reverse]
  refine ⟨_, hkept, ?_⟩
  unfold ofKept
  rw [hreverse, ownElements, joinElements_elements]
  cases hr : isAbsolute path with
  | true =>
    obtain ⟨rest, hpath⟩ := List.head?_eq_some_iff.mp (eq_of_beq hr)
    rw [hpath]
    rfl
  | false =>
    have hne : below.reverse ++ List.replicate ups ['.', '.'] ≠ [] := by
      intro hnil
      rw [hnil] at hreverse
      exact Text.splitChar_ne_nil _ _ hreverse.symm
    rw [if_neg Bool.false_ne_true, if_neg hne, if_neg Bool.false_ne_true]

/-- The paths in normal form are those that are made of kept elements. -/
theorem isNormal_iff {path : String} :
    IsNormal path ↔
      ∃ kept, IsKept (isAbsolute path) kept ∧ path.toList = ofKept (isAbsolute path) kept :=
  ⟨IsNormal.exists_isKept, fun ⟨_, h, hp⟩ => h.isNormal hp⟩

/-! ## Cleaning -/

theorem isNormal_clean (path : String) : IsNormal (clean path) :=
  (isKept_keptOf path.toList).isNormal (toList_clean path)

/-- The paths that cleaning leaves as they are, are those in normal form. -/
theorem clean_eq_self_iff {path : String} : clean path = path ↔ IsNormal path := by
  constructor
  · intro h
    rw [← h]
    exact isNormal_clean path
  · intro h
    obtain ⟨kept, hkept, hp⟩ := isNormal_iff.mp h
    exact hkept.clean_eq hp

/-- Cleaning puts every path into normal form, and leaves a path as it is exactly if it has that form
already. An absolute path stays absolute and a relative one relative. -/
theorem clean_gives_normal_form (path : String) :
    IsNormal (clean path) ∧ clean (clean path) = clean path ∧
      (clean path = path ↔ IsNormal path) ∧
      ((clean path).toList.head? = some '/' ↔ path.toList.head? = some '/') := by
  have hslash : ∀ p : String, p.toList.head? = some '/' ↔ isAbsolute p = true :=
    fun _ => beq_iff_eq.symm
  refine ⟨isNormal_clean path, clean_clean path, clean_eq_self_iff, ?_⟩
  rw [hslash, hslash, isAbsolute_clean]

end BuildTool.Path
