import BuildTool.Path

/-!
# The normal form of paths

The elements that `step` keeps are names, except for `..` at the outer end of a relative path:

    kept            up ... up name ... name      read from the outer end
    kept, rooted    name ... name

Every step keeps that form (`IsKept.step`), and elements in that form are kept as they are, one
after the other (`IsKept.foldl_reverse`). So a path is clean after it was cleaned once.
-/

namespace BuildTool

/-! ## Pieces of a text -/

namespace Text

theorem splitChar_eq_splitOn (sep : Char) (s : List Char) : splitChar sep s = s.splitOn sep := by
  induction s with
  | nil => rfl
  | cons c rest ih =>
    rw [splitChar, ih, List.splitOn, List.splitOn, List.splitOnP_cons_eq_if_modifyHead]
    cases hs : List.splitOnP (· == sep) rest with
    | nil => exact absurd hs (List.splitOnP_ne_nil _ _)
    | cons piece pieces => simp only [beq_iff_eq, List.modifyHead_cons]

theorem splitChar_cons_self (sep : Char) (rest : List Char) :
    splitChar sep (sep :: rest) = [] :: splitChar sep rest := by
  rw [splitChar_eq_splitOn, splitChar_eq_splitOn, List.splitOn,
    List.splitOnP_cons_eq_if_modifyHead, if_pos (beq_self_eq_true sep), List.splitOn]

theorem splitChar_append_cons (sep : Char) (s rest : List Char) :
    splitChar sep (s ++ sep :: rest) = splitChar sep s ++ splitChar sep rest := by
  rw [splitChar_eq_splitOn, splitChar_eq_splitOn, splitChar_eq_splitOn,
    List.splitOn_append_cons_self]

theorem splitChar_ne_nil (sep : Char) (s : List Char) : splitChar sep s ≠ [] := by
  rw [splitChar_eq_splitOn]
  exact List.splitOn_ne_nil _ _

/-- No piece has the character in it that a text is cut at. -/
theorem not_mem_of_mem_splitChar {sep : Char} {s piece : List Char}
    (h : piece ∈ splitChar sep s) : sep ∉ piece := by
  induction s generalizing piece with
  | nil =>
    rw [splitChar, List.mem_singleton] at h
    rw [h]
    exact List.not_mem_nil
  | cons c rest ih =>
    rw [splitChar] at h
    cases hs : splitChar sep rest with
    | nil => exact absurd hs (splitChar_ne_nil sep rest)
    | cons first pieces =>
      rw [hs] at h ih
      by_cases hc : c = sep
      · simp only [if_pos hc] at h
        rcases List.mem_cons.mp h with rfl | h
        · exact List.not_mem_nil
        · exact ih h
      · simp only [if_neg hc] at h
        rcases List.mem_cons.mp h with rfl | h
        · rw [List.mem_cons, not_or]
          exact ⟨fun he => hc he.symm, ih List.mem_cons_self⟩
        · exact ih (List.mem_cons_of_mem _ h)

end Text

namespace Path

/-! ## The elements that are kept -/

/-- An element that leads into a directory. -/
structure IsName (element : List Char) : Prop where
  ne_nil : element ≠ []
  ne_here : element ≠ ['.']
  ne_up : element ≠ ['.', '.']
  no_slash : '/' ∉ element

/-- Elements as a path in normal form has them, innermost first. -/
inductive IsKept (rooted : Bool) : List (List Char) → Prop
  | nil : IsKept rooted []
  | up {outer : List (List Char)} : rooted = false → (∀ e ∈ outer, e = ['.', '.']) →
      IsKept rooted outer → IsKept rooted (['.', '.'] :: outer)
  | down {element : List Char} {outer : List (List Char)} : IsName element →
      IsKept rooted outer → IsKept rooted (element :: outer)

section

variable {rooted : Bool} {kept : List (List Char)}

theorem IsKept.ne_nil (h : IsKept rooted kept) : ∀ e ∈ kept, e ≠ [] := by
  induction h with
  | nil => simp
  | up _ _ _ ih => simpa using ih
  | down hn _ ih => simpa using ⟨hn.ne_nil, ih⟩

theorem IsKept.ne_here (h : IsKept rooted kept) : ∀ e ∈ kept, e ≠ ['.'] := by
  induction h with
  | nil => simp
  | up _ _ _ ih => simpa using ih
  | down hn _ ih => simpa using ⟨hn.ne_here, ih⟩

theorem IsKept.no_slash (h : IsKept rooted kept) : ∀ e ∈ kept, '/' ∉ e := by
  induction h with
  | nil => simp
  | up _ _ _ ih => simpa using ih
  | down hn _ ih => simpa using ⟨hn.no_slash, ih⟩

/-- An element that is taken onto elements in normal form leaves them in normal form. -/
theorem IsKept.step (h : IsKept rooted kept) {element : List Char} (hs : '/' ∉ element) :
    IsKept rooted (step rooted kept element) := by
  unfold Path.step
  split
  · exact h
  · next hstay =>
    rw [not_or] at hstay
    split
    · next hup =>
      subst hup
      -- going up depends on what there is to leave
      cases h with
      | nil =>
        cases rooted with
        | true => exact .nil
        | false => exact .up rfl (by simp) .nil
      | up hr hall hk =>
        subst hr
        exact .up rfl (List.forall_mem_cons.mpr ⟨rfl, hall⟩) (.up rfl hall hk)
      | down hn hk =>
        simp only [if_pos hn.ne_up]
        exact hk
    · next hup => exact .down ⟨hstay.1, hstay.2, hup, hs⟩ h

theorem IsKept.foldl (h : IsKept rooted kept) {elements : List (List Char)}
    (hs : ∀ e ∈ elements, '/' ∉ e) : IsKept rooted (elements.foldl (Path.step rooted) kept) := by
  induction elements generalizing kept with
  | nil => exact h
  | cons e rest ih =>
    rw [List.foldl_cons]
    exact ih (h.step (hs e List.mem_cons_self)) fun e he => hs e (List.mem_cons_of_mem _ he)

/-- The innermost of elements in normal form is kept when it is taken onto the others. -/
theorem IsKept.step_eq_cons {element : List Char} {outer : List (List Char)}
    (h : IsKept rooted (element :: outer)) :
    Path.step rooted outer element = element :: outer := by
  unfold Path.step
  cases h with
  | up hr hall hk =>
    rw [if_neg (by simp), if_pos rfl]
    cases outer with
    | nil => simp [hr]
    | cons e outer => simp [hr, hall e List.mem_cons_self]
  | down hn hk => rw [if_neg (not_or.mpr ⟨hn.ne_nil, hn.ne_here⟩), if_neg hn.ne_up]

/-- Elements in normal form are kept as they are. -/
theorem IsKept.foldl_reverse (h : IsKept rooted kept) :
    kept.reverse.foldl (Path.step rooted) [] = kept := by
  induction kept with
  | nil => rfl
  | cons e outer ih =>
    have hk : IsKept rooted outer := by
      cases h with
      | up _ _ hk => exact hk
      | down _ hk => exact hk
    rw [List.reverse_cons, List.foldl_append, ih hk]
    exact h.step_eq_cons

/-! ## Cleaning -/

theorem cleanElements_cons_slash (rooted : Bool) (path : List Char) :
    cleanElements rooted ('/' :: path) = cleanElements rooted path := by
  rw [cleanElements, elements, Text.splitChar_cons_self, List.foldl_cons]
  rfl

/-- Joined elements in normal form are the elements of what they are joined to. -/
theorem IsKept.elements_joinElements (h : IsKept rooted kept) (hk : kept ≠ []) :
    elements (joinElements kept.reverse) = kept.reverse := by
  have hs : ∀ e ∈ kept.reverse, '/' ∉ e := fun e he => h.no_slash e (List.mem_reverse.mp he)
  rw [elements, Text.splitChar_eq_splitOn]
  exact List.splitOn_intercalate '/' hs (List.reverse_ne_nil_iff.mpr hk)

theorem IsKept.cleanElements_joinElements (h : IsKept rooted kept) :
    cleanElements rooted (joinElements kept.reverse) = kept.reverse := by
  by_cases hk : kept = []
  · subst hk
    rfl
  · rw [cleanElements, h.elements_joinElements hk, h.foldl_reverse]

theorem IsKept.exists_joinElements_eq_cons (h : IsKept rooted kept) (hk : kept ≠ []) :
    ∃ c rest, c ≠ '/' ∧ joinElements kept.reverse = c :: rest := by
  obtain ⟨e, more, hr⟩ := List.exists_cons_of_ne_nil (List.reverse_ne_nil_iff.mpr hk)
  have he : e ∈ kept := List.mem_reverse.mp (by rw [hr]; exact List.mem_cons_self)
  obtain ⟨c, e', hc⟩ := List.exists_cons_of_ne_nil (h.ne_nil e he)
  have hno : c ≠ '/' := by
    rintro rfl
    exact h.no_slash e he (by rw [hc]; exact List.mem_cons_self)
  rw [joinElements, hr, hc]
  cases more with
  | nil => exact ⟨c, e', hno, List.intercalate_singleton⟩
  | cons => exact ⟨c, _, hno, by rw [List.intercalate_cons_cons]; rfl⟩

theorem IsKept.joinElements_eq_nil_iff (h : IsKept rooted kept) :
    joinElements kept.reverse = [] ↔ kept = [] := by
  constructor
  · intro hj
    by_cases hk : kept = []
    · exact hk
    · obtain ⟨c, rest, -, hc⟩ := h.exists_joinElements_eq_cons hk
      rw [hc] at hj
      cases hj
  · rintro rfl
    rfl

end

/-- The path that has these elements, innermost first. -/
def ofKept (rooted : Bool) (kept : List (List Char)) : List Char :=
  if rooted then '/' :: joinElements kept.reverse
  else if kept = [] then ['.']
  else joinElements kept.reverse

/-- The elements that cleaning keeps of a path, innermost first. -/
def keptOf (path : List Char) : List (List Char) :=
  (elements path).foldl (step (path.head? == some '/')) []

theorem isKept_keptOf (path : List Char) : IsKept (path.head? == some '/') (keptOf path) :=
  IsKept.nil.foldl fun _ he => Text.not_mem_of_mem_splitChar he

theorem cleanChars_eq_ofKept (path : List Char) :
    cleanChars path = ofKept (path.head? == some '/') (keptOf path) := by
  unfold cleanChars
  split
  · next he =>
    subst he
    rfl
  · simp only [cleanElements, ofKept, ← (isKept_keptOf path).joinElements_eq_nil_iff]
    rfl

theorem toList_clean (path : String) :
    (clean path).toList = ofKept (isAbsolute path) (keptOf path.toList) := by
  rw [clean, String.toList_ofList]
  exact cleanChars_eq_ofKept path.toList

/-- A path of elements in normal form is absolute if it is meant to be. -/
theorem IsKept.head?_ofKept {rooted : Bool} {kept : List (List Char)} (h : IsKept rooted kept) :
    ((ofKept rooted kept).head? == some '/') = rooted := by
  unfold ofKept
  cases rooted with
  | true => rfl
  | false =>
    by_cases hk : kept = []
    · subst hk
      rfl
    · obtain ⟨c, rest, hno, hc⟩ := h.exists_joinElements_eq_cons hk
      simpa [hk, hc] using hno

/-- A path of elements in normal form has these elements. -/
theorem IsKept.keptOf_ofKept {rooted : Bool} {kept : List (List Char)} (h : IsKept rooted kept) :
    keptOf (ofKept rooted kept) = kept := by
  have helements : cleanElements rooted (ofKept rooted kept) = kept.reverse := by
    unfold ofKept
    cases rooted with
    | true => rw [if_pos rfl, cleanElements_cons_slash, h.cleanElements_joinElements]
    | false =>
      by_cases hk : kept = []
      · subst hk
        rfl
      · rw [if_neg Bool.false_ne_true, if_neg hk, h.cleanElements_joinElements]
  rw [keptOf, h.head?_ofKept]
  exact List.reverse_inj.mp helements

@[simp] theorem isAbsolute_clean (path : String) :
    isAbsolute (clean path) = isAbsolute path := by
  rw [isAbsolute, toList_clean]
  exact (isKept_keptOf path.toList).head?_ofKept

@[simp] theorem keptOf_clean (path : String) : keptOf (clean path).toList = keptOf path.toList := by
  rw [toList_clean]
  exact (isKept_keptOf path.toList).keptOf_ofKept

/-- A path is clean once it has been cleaned. -/
@[simp] theorem clean_clean (path : String) : clean (clean path) = clean path := by
  apply String.toList_inj.mp
  rw [toList_clean (clean path), isAbsolute_clean, keptOf_clean, toList_clean]

/-- No clean path is empty. -/
theorem clean_ne_empty (path : String) : clean path ≠ "" := by
  have hk := isKept_keptOf path.toList
  intro he
  have hnil : ofKept (isAbsolute path) (keptOf path.toList) = [] := by
    rw [← toList_clean, he]
    rfl
  unfold ofKept at hnil
  split at hnil
  · cases hnil
  · split at hnil
    · cases hnil
    · next hne => exact hne (hk.joinElements_eq_nil_iff.mp hnil)

end Path

end BuildTool
