import BuildTool.Text.Property
import BuildTool.Text.Split

/-!
# White space and words

No white space is a word character. The word characters are put together from tables of letters,
marks, digits and connectors, each a list of ranges of codes; what is found in a set lies in one of
the ranges that the set was made of, and none of these holds a code of white space.

    isBlank c = true   →   isWord c = false
-/

namespace BuildTool.Text

namespace CodeSet

/-- The code lies in one of the ranges. -/
def Lies (code : Nat) (ranges : List (Nat × Nat)) : Prop := ∃ r ∈ ranges, r.1 ≤ code ∧ code ≤ r.2

theorem lies_cons {code : Nat} {r : Nat × Nat} {rest : List (Nat × Nat)} :
    Lies code (r :: rest) ↔ (r.1 ≤ code ∧ code ≤ r.2) ∨ Lies code rest := by
  simp only [Lies, List.mem_cons, or_and_right, exists_or, exists_eq_left]

theorem lies_append {code : Nat} {ranges others : List (Nat × Nat)} :
    Lies code (ranges ++ others) ↔ Lies code ranges ∨ Lies code others := by
  simp only [Lies, List.mem_append, or_and_right, exists_or]

/-! ## What a set was made of -/

/-- What a search finds lies in one of the ranges, in whatever order they are. -/
theorem lies_of_search {ranges : Array (Nat × Nat)} {code low high : Nat}
    (h : search ranges code low high = true) : Lies code ranges.toList := by
  fun_induction search ranges code low high with
  | case1 => cases h
  | case2 _ _ _ _ _ _ _ ih => exact ih h
  | case3 _ _ _ _ _ _ _ _ ih => exact ih h
  | case4 low high _ middle r hr hlow hhigh =>
    have hmem : r ∈ ranges := Array.mem_of_getElem? hr
    exact ⟨r, Array.mem_toList_iff.mpr hmem, by omega, by omega⟩
  | case5 => cases h

/-- Ranges are only put together if no code lies between them. -/
theorem lies_of_joined {code : Nat} {current : Nat × Nat} {rest : List (Nat × Nat)}
    (h : Lies code (joined current rest)) : Lies code (current :: rest) := by
  induction rest generalizing current with
  | nil => exact h
  | cons r rest ih =>
    rw [joined] at h
    split at h
    · next htouch =>
      rcases lies_cons.mp (ih h) with ⟨hlow, hhigh⟩ | hrest
      · by_cases hcurrent : code ≤ current.2
        · exact lies_cons.mpr (Or.inl ⟨hlow, hcurrent⟩)
        · have hr : r.1 ≤ code ∧ code ≤ r.2 := by simp only at hhigh; omega
          exact lies_cons.mpr (Or.inr (lies_cons.mpr (Or.inl hr)))
      · exact lies_cons.mpr (Or.inr (lies_cons.mpr (Or.inr hrest)))
    · rcases lies_cons.mp h with hcurrent | hrest
      · exact lies_cons.mpr (Or.inl hcurrent)
      · exact lies_cons.mpr (Or.inr (ih hrest))

theorem lies_of_ofAscending {code : Nat} {ranges : List (Nat × Nat)}
    (h : Lies code (ofAscending ranges).ranges.toList) : Lies code ranges := by
  cases ranges with
  | nil => exact h
  | cons r rest => exact lies_of_joined h

theorem lies_of_ofRanges {code : Nat} {ranges : List (Nat × Nat)}
    (h : Lies code (ofRanges ranges).ranges.toList) : Lies code ranges := by
  obtain ⟨r, hr, hcode⟩ := lies_of_ofAscending h
  rw [List.mem_mergeSort] at hr
  exact ⟨r, (List.mem_filter.mp hr).1, hcode⟩

/-! ## Sets that have no code in some ranges -/

/-- No code that lies in the ranges is in the set. -/
def IsApart (s : CodeSet) (holes : List (Nat × Nat)) : Prop :=
  ∀ code, Lies code holes → ¬ Lies code s.ranges.toList

variable {s t : CodeSet} {holes : List (Nat × Nat)}

theorem IsApart.contains_eq_false (h : s.IsApart holes) {c : Char} (hc : Lies c.toNat holes) :
    s.contains c = false :=
  Bool.eq_false_iff.mpr fun hfound => h c.toNat hc (lies_of_search hfound)

theorem IsApart.union (hs : s.IsApart holes) (ht : t.IsApart holes) : (s ∪ t).IsApart holes := by
  intro code hhole h
  rcases lies_append.mp (lies_of_ofRanges h) with h | h
  · exact hs code hhole h
  · exact ht code hhole h

theorem IsApart.unions {sets : List CodeSet} (h : ∀ s ∈ sets, s.IsApart holes) :
    (unions sets).IsApart holes := by
  intro code hhole hcode
  obtain ⟨r, hr, hlies⟩ := lies_of_ofRanges hcode
  obtain ⟨s, hs, hmem⟩ := List.mem_flatMap.mp hr
  exact h s hs code hhole ⟨r, hmem, hlies⟩

/-- Every range ends before a hole or begins behind it. -/
def avoids (holes ranges : List (Nat × Nat)) : Bool :=
  ranges.all fun r => holes.all fun hole => r.2 < hole.1 || hole.2 < r.1

theorem not_lies_of_avoids {ranges : List (Nat × Nat)} (h : avoids holes ranges = true)
    {code : Nat} (hhole : Lies code holes) : ¬ Lies code ranges := by
  rintro ⟨r, hr, hlow, hhigh⟩
  obtain ⟨hole, hmem, hstart, hend⟩ := hhole
  have hapart := List.all_eq_true.mp (List.all_eq_true.mp h r hr) hole hmem
  rw [Bool.or_eq_true, decide_eq_true_iff, decide_eq_true_iff] at hapart
  omega

theorem isApart_range {first last : Nat} (h : avoids holes [(first, last)] = true) :
    (range first last).IsApart holes :=
  fun _ hhole hcode => not_lies_of_avoids h hhole (lies_of_ofRanges hcode)

/-- The rows are texts of these characters, one after the other. -/
inductive RowsOf : List Char → List String → Prop
  | nil : RowsOf [] []
  | cons {row chars : List Char} {rows : List String} :
      RowsOf chars rows → RowsOf (row ++ chars) (String.ofList row :: rows)

theorem RowsOf.flatMap_toList {rows : List String} {chars : List Char} (h : RowsOf chars rows) :
    rows.flatMap String.toList = chars := by
  induction h with
  | nil => rfl
  | cons _ ih => rw [List.flatMap_cons, ih, String.toList_ofList]

-- That a literal is the text of some characters is seen at once, while the characters of a literal
-- are found one by one.
theorem isApart_ofRows {rows : List String} {chars : List Char} (hrows : RowsOf chars rows)
    (h : avoids holes (packedRanges 0 (packedNumbers 0 1 chars)) = true) :
    (ofRows rows).IsApart holes := by
  intro code hhole hcode
  have hlies : Lies code (packedRanges 0 (unpackedNumbers rows)) := lies_of_ofAscending hcode
  rw [unpackedNumbers, hrows.flatMap_toList] at hlies
  exact not_lies_of_avoids h hhole hlies

end CodeSet

/-! ## The tables of word characters -/

theorem Category.codes_eq {k : Category} (h : k ≠ .unassigned) :
    k.codes = CodeSet.ofRows k.rows := by
  have hlookup : assignedCodes.lookup k = some (CodeSet.ofRows k.rows) := by
    cases k with
    | unassigned => exact absurd rfl h
    | _ => rfl
  rw [codes, hlookup, Option.getD_some]

open CodeSet

/-- White space beyond ASCII. -/
def wideBlanks : List (Nat × Nat) :=
  [(0x85, 0x85), (0xA0, 0xA0), (0x1680, 0x1680), (0x2000, 0x200A), (0x2028, 0x2029),
    (0x202F, 0x202F), (0x205F, 0x205F), (0x3000, 0x3000)]

/-- The categories that word characters are of. -/
def wordCategories : List Category :=
  [.capital, .small, .title, .modifierLetter, .otherLetter, .nonspacingMark, .spacingMark,
    .enclosingMark, .digit, .letterNumber, .connector]

theorem isApart_rows {k : Category} (hk : k ∈ wordCategories) :
    (ofRows k.rows).IsApart wideBlanks := by
  simp only [wordCategories, List.mem_cons, List.not_mem_nil, or_false] at hk
  rcases hk with rfl | rfl | rfl | rfl | rfl | rfl | rfl | rfl | rfl | rfl | rfl <;>
    exact isApart_ofRows (by repeat' constructor) (by decide +kernel)

theorem isApart_ofCategories {categories : List Category} (h : categories ⊆ wordCategories) :
    (Property.ofCategories categories).IsApart wideBlanks := by
  refine IsApart.unions fun s hs => ?_
  obtain ⟨k, hk, rfl⟩ := List.mem_map.mp hs
  have hrows : k ≠ .unassigned := by
    rintro rfl
    exact absurd (h hk) (by decide)
  rw [Category.codes_eq hrows]
  exact isApart_rows (h hk)

theorem isApart_otherAlphabetic : (ofRows otherAlphabeticRows).IsApart wideBlanks :=
  isApart_ofRows (by repeat' constructor) (by decide +kernel)

theorem isApart_wordCodes : wordCodes.IsApart wideBlanks := by
  have hletters : Property.letters.IsApart wideBlanks := isApart_ofCategories (by decide)
  have halphabetic : Property.alphabetic.IsApart wideBlanks :=
    (hletters.union (isApart_ofCategories (by decide))).union isApart_otherAlphabetic
  have hjoiners : Property.joinControl.IsApart wideBlanks := isApart_range (by decide)
  exact (halphabetic.union hjoiners).union (isApart_ofCategories (by decide))

/-- White space is no part of a word. -/
theorem isWord_of_isBlank {c : Char} (h : isBlank c = true) : isWord c = false := by
  unfold isWord
  split
  · next hascii =>
    have hblanks : ∀ n < 128, isBlank (Char.ofNat n) = true →
        ((Char.ofNat n).isAlphanum || Char.ofNat n == '_') = false := by decide
    rw [← Char.ofNat_toNat c] at h ⊢
    exact hblanks c.toNat hascii h
  · next hwide =>
    refine isApart_wordCodes.contains_eq_false ?_
    simp only [isBlank, Bool.or_eq_true, Bool.and_eq_true, decide_eq_true_eq, beq_iff_eq] at h
    simp only [wideBlanks, lies_cons]
    omega

end BuildTool.Text
