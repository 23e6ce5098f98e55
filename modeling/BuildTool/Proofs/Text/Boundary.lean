import BuildTool.Proofs.Text.Decoding
import Mathlib.Data.String.Basic

/-!
# Positions in the bytes of a text

A text can be looked at byte by byte, and parts of it can be taken by positions in its bytes. A part
exists only if both of its ends are between characters (`IsBoundary`). These are the lengths of what
the text begins with (`isBoundary_iff`):

    "öl"     bytes C3 B6 6C     boundaries 0, 2, 3

A byte below 128 is a character of its own, so there is a boundary before it and one behind it
(`exists_of_getElem?_octets`).
-/

namespace BuildTool.Text

open String (utf8Len)

/-- A position in the bytes of a text that is between two characters or at an end. -/
def IsBoundary (text : String) (i : Nat) : Prop := String.Pos.Raw.IsValid text ⟨i⟩

instance (text : String) (i : Nat) : Decidable (IsBoundary text i) :=
  inferInstanceAs (Decidable (String.Pos.Raw.IsValid text ⟨i⟩))

/-- The part of a text between two positions in its bytes. There is none if they are in the wrong
order, behind the end or inside a character. -/
def slice? (text : String) (first last : Nat) : Option String :=
  if first ≤ last ∧ IsBoundary text first ∧ IsBoundary text last then
    some (String.Pos.Raw.extract text ⟨first⟩ ⟨last⟩)
  else none

/-! ## The bytes of one character -/

theorem toNat_octet (b : UInt8) : (octet b).toNat = b.toNat := by
  have hb : b.toNat < 256 := b.toNat_lt
  have hvalid : b.toNat.isValidChar := Or.inl (by omega)
  rw [octet, Char.ofNat, dif_pos hvalid]
  rfl

/-- A character below 128 is its only byte. -/
theorem octetsOf_of_lt {c : Char} (h : c.toNat < 128) : octetsOf c = [c] := if_pos h

theorem octetsOf_eq_map (c : Char) : octetsOf c = (String.utf8EncodeChar c).map octet := by
  by_cases h : c.toNat < 128
  · have hval : c.val.toNat = c.toNat := rfl
    have hsize : c.utf8Size = 1 :=
      Char.utf8Size_eq_one_iff.mpr (UInt32.le_iff_toNat_le.mpr (Nat.le_of_lt_succ h))
    have hcode : c.val.toUInt8.toNat = c.toNat := by
      rw [UInt32.toNat_toUInt8, hval]
      omega
    rw [octetsOf_of_lt h, String.utf8EncodeChar_eq_singleton hsize, List.map_singleton, octet,
      hcode, Char.ofNat_toNat]
  · exact if_neg h

theorem length_octetsOf (c : Char) : (octetsOf c).length = c.utf8Size := by
  rw [octetsOf_eq_map, List.length_map, String.length_utf8EncodeChar]

theorem le_of_mem_fits {n least greatest : Nat} {tail : List UInt8} (h : Fits n least greatest tail)
    (hleast : 0x80 ≤ least) : ∀ b ∈ tail, 0x80 ≤ b.toNat := by
  induction n generalizing least greatest tail with
  | zero => rw [show tail = [] from h]; exact fun b hb => nomatch hb
  | succ n ih =>
    cases tail with
    | nil => exact h.elim
    | cons first tail =>
      intro b hb
      rcases List.mem_cons.mp hb with rfl | hb
      · exact Nat.le_trans hleast h.1.1
      · exact ih h.2 (Nat.le_refl _) b hb

/-- No byte of any other character is below 128. -/
theorem le_of_mem_octetsOf {c d : Char} (h : 128 ≤ c.toNat) (hd : d ∈ octetsOf c) :
    128 ≤ d.toNat := by
  rw [octetsOf_eq_map] at hd
  obtain ⟨b, hb, rfl⟩ := List.mem_map.mp hd
  rw [toNat_octet]
  rcases utf8EncodeChar_cases c with ⟨_, -, hlt, hcode⟩ | ⟨first, tail, l, hbytes, hl, hfits, -⟩
  · omega
  · obtain ⟨hfirst, hleast, -⟩ := lead?_bounds hl
    rw [hbytes] at hb
    rcases List.mem_cons.mp hb with rfl | hb
    · exact hfirst
    · exact le_of_mem_fits hfits hleast b hb

theorem mem_octetsOf_iff {c d : Char} (hd : d.toNat < 128) : d ∈ octetsOf c ↔ d = c := by
  by_cases hc : c.toNat < 128
  · rw [octetsOf_of_lt hc, List.mem_singleton]
  · constructor
    · intro h
      have := le_of_mem_octetsOf (Nat.le_of_not_lt hc) h
      omega
    · rintro rfl
      exact absurd hd hc

/-! ## The bytes of a text -/

theorem toList_octets (chars : List Char) :
    (octets (.ofList chars)).toList = chars.flatMap octetsOf := by
  rw [octets, String.toList_ofList, String.toList_ofList]

theorem length_flatMap_octetsOf (chars : List Char) :
    (chars.flatMap octetsOf).length = utf8Len chars := by
  induction chars with
  | nil => rfl
  | cons c chars ih =>
    rw [List.flatMap_cons, List.length_append, ih, length_octetsOf, String.utf8Len_cons,
      Nat.add_comm]

theorem mem_flatMap_octetsOf_iff {chars : List Char} {d : Char} (hd : d.toNat < 128) :
    d ∈ chars.flatMap octetsOf ↔ d ∈ chars := by
  simp only [List.mem_flatMap, mem_octetsOf_iff hd, exists_eq_right']

theorem flatMap_octetsOf_of_lt {chars : List Char} (h : ∀ c ∈ chars, c.toNat < 128) :
    chars.flatMap octetsOf = chars := by
  induction chars with
  | nil => rfl
  | cons c chars ih =>
    obtain ⟨hc, hchars⟩ := List.forall_mem_cons.mp h
    rw [List.flatMap_cons, octetsOf_of_lt hc, ih hchars]
    rfl

theorem utf8Len_of_lt {chars : List Char} (h : ∀ c ∈ chars, c.toNat < 128) :
    utf8Len chars = chars.length := by
  rw [← length_flatMap_octetsOf, flatMap_octetsOf_of_lt h]

/-- Where a byte below 128 stands, the character with its number stands. -/
theorem exists_of_getElem?_octets {chars : List Char} {i : Nat} {c : Char}
    (hget : (chars.flatMap octetsOf)[i]? = some c) (hc : c.toNat < 128) :
    ∃ before after, chars = before ++ c :: after ∧ utf8Len before = i := by
  induction chars generalizing i with
  | nil => cases hget
  | cons d chars ih =>
    rw [List.flatMap_cons] at hget
    by_cases hi : i < (octetsOf d).length
    · rw [List.getElem?_append_left hi] at hget
      obtain rfl : c = d := (mem_octetsOf_iff hc).mp (List.mem_of_getElem? hget)
      have hzero : i = 0 := by
        rw [octetsOf_of_lt hc, List.length_singleton] at hi
        omega
      exact ⟨[], chars, rfl, hzero.symm⟩
    · have hle := Nat.le_of_not_lt hi
      rw [List.getElem?_append_right hle] at hget
      obtain ⟨before, after, rfl, hlength⟩ := ih hget
      refine ⟨d :: before, after, rfl, ?_⟩
      rw [String.utf8Len_cons, hlength, ← length_octetsOf, Nat.sub_add_cancel hle]

theorem getElem?_octets_append (before : List Char) {c : Char} (hc : c.toNat < 128)
    (after : List Char) :
    ((before ++ c :: after).flatMap octetsOf)[utf8Len before]? = some c := by
  rw [List.flatMap_append, ← length_flatMap_octetsOf, List.getElem?_append_right (Nat.le_refl _),
    Nat.sub_self, List.flatMap_cons, octetsOf_of_lt hc]
  rfl

/-! ## Boundaries -/

theorem isBoundary_iff {chars : List Char} {i : Nat} :
    IsBoundary (.ofList chars) i ↔
      ∃ before after, chars = before ++ after ∧ utf8Len before = i := by
  rw [IsBoundary, String.Pos.Raw.isValid_iff_exists_append]
  constructor
  · rintro ⟨before, after, he, hi⟩
    have hchars : chars = before.toList ++ after.toList := by
      rw [← String.toList_append, ← he, String.toList_ofList]
    refine ⟨before.toList, after.toList, hchars, ?_⟩
    rw [String.utf8Len_toList]
    exact (congrArg String.Pos.Raw.byteIdx hi).symm
  · rintro ⟨before, after, rfl, rfl⟩
    refine ⟨.ofList before, .ofList after, String.ofList_append, ?_⟩
    rw [String.rawEndPos, String.utf8ByteSize_ofList]

theorem isBoundary_append (before after : List Char) :
    IsBoundary (.ofList (before ++ after)) (utf8Len before) :=
  isBoundary_iff.mpr ⟨before, after, rfl, rfl⟩

theorem slice?_append (before middle after : List Char) :
    slice? (.ofList (before ++ (middle ++ after))) (utf8Len before)
      (utf8Len before + utf8Len middle) = some (.ofList middle) := by
  have hfirst := isBoundary_append before (middle ++ after)
  have hlast := isBoundary_append (before ++ middle) after
  rw [String.utf8Len_append, List.append_assoc] at hlast
  rw [slice?, if_pos ⟨Nat.le_add_right _ _, hfirst, hlast⟩, ← List.append_assoc,
    String.extract_of_valid]

/-- A text begins with one list of characters of each length in bytes. -/
theorem append_inj_utf8Len {before after before' after' : List Char}
    (h : before ++ after = before' ++ after') (hlength : utf8Len before = utf8Len before') :
    before = before' ∧ after = after' := by
  rcases List.append_eq_append_iff.mp h with ⟨middle, rfl, rfl⟩ | ⟨middle, rfl, rfl⟩
  · rw [String.utf8Len_append] at hlength
    have hnil : middle = [] := String.utf8Len_eq_zero.mp (by omega)
    simp [hnil]
  · rw [String.utf8Len_append] at hlength
    have hnil : middle = [] := String.utf8Len_eq_zero.mp (by omega)
    simp [hnil]

/-- What a text begins with ends at a character or behind it, and not inside of it. -/
theorem utf8Len_append_singleton_le {before after before' after' : List Char} {c : Char}
    (h : before ++ c :: after = before' ++ after') (hless : utf8Len before < utf8Len before') :
    utf8Len (before ++ [c]) ≤ utf8Len before' := by
  rcases List.append_eq_append_iff.mp h with ⟨middle, rfl, hmiddle⟩ | ⟨middle, rfl, -⟩
  · rw [String.utf8Len_append] at hless
    cases middle with
    | nil => exact absurd hless (Nat.lt_irrefl _)
    | cons d middle =>
      obtain rfl : c = d := (List.cons.inj hmiddle).1
      rw [List.append_cons before c middle, String.utf8Len_append _ middle]
      exact Nat.le_add_right _ _
  · rw [String.utf8Len_append] at hless
    omega

end BuildTool.Text
