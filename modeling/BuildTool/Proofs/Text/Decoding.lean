import BuildTool.Text.Utf8
import Mathlib.Data.List.Basic
import Mathlib.Tactic.SplitIfs

/-!
# What decoding makes of bytes

Bytes are read character by character. What is no character is an ill-formed stretch: the longest
beginning of one, or else a single byte. `Decodes` says this in terms of encoded characters, and
`lossyChars` does just that:

    Decodes bytes chars   ↔   chars = lossyChars bytes

A byte below 128 always stands for itself, so nothing that is read reaches across it:

    lossyChars (before ++ b :: bytes)  =  lossyChars before ++ b :: lossyChars bytes
-/

namespace ByteArray

theorem toList_loop (b : ByteArray) (i : Nat) (read : List UInt8) :
    toList.loop b i read = read.reverse ++ b.data.toList.drop i := by
  fun_induction toList.loop b i read with
  | case1 i read h ih =>
    have hi : i < b.data.toList.length := h
    have hget : b.get! i = b.data.toList[i] := by
      show b.data[i]! = _
      rw [getElem!_pos b.data i hi, Array.getElem_toList]
    rw [ih, List.reverse_cons, List.append_assoc, List.singleton_append, hget,
      List.getElem_cons_drop]
  | case2 i read h =>
    have hi : b.data.toList.length ≤ i := Nat.le_of_not_lt h
    rw [List.drop_eq_nil_of_le hi, List.append_nil]

/-- The bytes of an array one after the other. -/
theorem toList_eq (b : ByteArray) : b.toList = b.data.toList := by
  rw [toList, toList_loop, List.reverse_nil, List.nil_append, List.drop_zero]

end ByteArray

namespace BuildTool.Text

/-! ## Ill-formed stretches -/

/-- A stretch of bytes is ill-formed in front of `rest`: it is no character but a single byte or the
beginning of one, and the next byte does not continue it. -/
structure IsIllFormed (stretch rest : List UInt8) : Prop where
  ne_nil : stretch ≠ []
  ne_char : ∀ c, stretch ≠ String.utf8EncodeChar c
  single_or_start : stretch.length = 1 ∨ ∃ c, stretch <+: String.utf8EncodeChar c
  stops : ∀ b ∈ rest.head?, ∀ c, ¬ stretch ++ [b] <+: String.utf8EncodeChar c

/-- Bytes read as characters, with one replacement character for each ill-formed stretch. -/
inductive Decodes : List UInt8 → List Char → Prop
  | nil : Decodes [] []
  | char (c : Char) {bytes : List UInt8} {chars : List Char} :
    Decodes bytes chars → Decodes (String.utf8EncodeChar c ++ bytes) (c :: chars)
  | broken {stretch bytes : List UInt8} {chars : List Char} :
    IsIllFormed stretch bytes → Decodes bytes chars →
      Decodes (stretch ++ bytes) ('\uFFFD' :: chars)

/-! ## The bytes behind a leading byte -/

/-- These are all the bytes that are to follow: so many, the first of them in a range. -/
def Fits : Nat → Nat → Nat → List UInt8 → Prop
  | 0, _, _, tail => tail = []
  | _ + 1, _, _, [] => False
  | n + 1, least, greatest, b :: tail =>
    (least ≤ b.toNat ∧ b.toNat ≤ greatest) ∧ Fits n 0x80 0xBF tail

/-- The code point of a leading byte's share and the bytes that follow. -/
def codePoint (bits : Nat) (tail : List UInt8) : Nat :=
  tail.foldl (fun n b => n * 64 + (b.toNat - 0x80)) bits

variable {n least greatest bits : Nat} {tail rest : List UInt8}

theorem exists_fits (n : Nat) (hle : least ≤ greatest) (hlt : greatest < 256) :
    ∃ tail, Fits n least greatest tail := by
  induction n generalizing least greatest with
  | zero => exact ⟨[], rfl⟩
  | succ n ih =>
    obtain ⟨tail, htail⟩ : ∃ tail, Fits n 0x80 0xBF tail := ih (by decide) (by decide)
    have hleast : (UInt8.ofNat least).toNat = least := by
      rw [UInt8.toNat_ofNat']
      omega
    exact ⟨UInt8.ofNat least :: tail, by rw [hleast]; exact ⟨Nat.le_refl _, hle⟩, htail⟩

theorem follow_of_fits (h : Fits n least greatest tail) (bits : Nat) (rest : List UInt8) :
    follow n least greatest bits (tail ++ rest) = (some (codePoint bits tail), rest) := by
  induction n generalizing least greatest tail bits with
  | zero => rw [show tail = [] from h]; rfl
  | succ n ih =>
    cases tail with
    | nil => exact h.elim
    | cons b tail =>
      rw [List.cons_append, follow, if_pos h.1, ih h.2]
      simp only [codePoint, List.foldl_cons]

/-- Bytes that begin well and are not continued are read up to the break. -/
theorem follow_of_breaks {got : List UInt8} (hle : least ≤ greatest) (hlt : greatest < 256)
    (hgot : ∃ more, more ≠ [] ∧ Fits n least greatest (got ++ more))
    (hstops : ∀ b ∈ rest.head?, ∀ more, ¬ Fits n least greatest (got ++ b :: more)) (bits : Nat) :
    follow n least greatest bits (got ++ rest) = (none, rest) := by
  obtain ⟨more, hmore, hfits⟩ := hgot
  induction n generalizing least greatest got bits with
  | zero => exact absurd (List.append_eq_nil_iff.mp hfits).2 hmore
  | succ n ih =>
    cases got with
    | nil =>
      cases rest with
      | nil => rfl
      | cons b rest =>
        obtain ⟨tail, htail⟩ : ∃ tail, Fits n 0x80 0xBF tail :=
          exists_fits n (by decide) (by decide)
        have hout : ¬ (least ≤ b.toNat ∧ b.toNat ≤ greatest) := by
          intro hin
          exact hstops b rfl tail ⟨hin, htail⟩
        rw [List.nil_append, follow, if_neg hout]
    | cons b got =>
      rw [List.cons_append, follow, if_pos hfits.1]
      exact ih (by decide) (by decide)
        (fun x hx more hfits' => hstops x hx more ⟨hfits.1, hfits'⟩) _ hfits.2

/-- The bytes behind a leading byte are all there, or they break off. -/
theorem fits_or_breaks (n least greatest : Nat) (hle : least ≤ greatest) (hlt : greatest < 256)
    (bytes : List UInt8) :
    ∃ got rest, bytes = got ++ rest ∧ (Fits n least greatest got ∨
      (∃ more, more ≠ [] ∧ Fits n least greatest (got ++ more)) ∧
        ∀ b ∈ rest.head?, ∀ more, ¬ Fits n least greatest (got ++ b :: more)) := by
  induction n generalizing least greatest bytes with
  | zero => exact ⟨[], bytes, rfl, Or.inl rfl⟩
  | succ n ih =>
    by_cases hin : ∃ b rest, bytes = b :: rest ∧ least ≤ b.toNat ∧ b.toNat ≤ greatest
    · obtain ⟨b, bytes, rfl, hb⟩ := hin
      obtain ⟨got, rest, rfl, hgot⟩ := ih 0x80 0xBF (by decide) (by decide) bytes
      refine ⟨b :: got, rest, rfl, hgot.imp (⟨hb, ·⟩) ?_⟩
      rintro ⟨⟨more, hmore, hfits⟩, hstops⟩
      exact ⟨⟨more, hmore, hb, hfits⟩, fun x hx more hfits => hstops x hx more hfits.2⟩
    · obtain ⟨more, hmore⟩ := exists_fits (n + 1) hle hlt
      refine ⟨[], bytes, rfl, Or.inr ⟨⟨more, ?_, hmore⟩, ?_⟩⟩
      · rintro rfl
        exact hmore
      · rintro b hb more hfits
        obtain ⟨rest, rfl⟩ := List.head?_eq_some_iff.mp hb
        exact hin ⟨b, rest, rfl, hfits.1⟩

/-! ## Leading bytes and encoded characters -/

theorem lead?_bounds {b : Nat} {l : Lead} (h : lead? b = some l) :
    0x80 ≤ b ∧ 0x80 ≤ l.least ∧ l.least ≤ l.greatest ∧ l.greatest < 256 := by
  unfold lead? at h
  split_ifs at h <;> cases h <;> simp only <;> omega

theorem lead?_two {b : Nat} (h : 0xC2 ≤ b ∧ b < 0xE0) :
    lead? b = some ⟨1, 0x80, 0xBF, b - 0xC0⟩ := by
  rw [lead?, if_neg (by omega), if_pos (by omega)]

theorem lead?_three {b : Nat} (h : 0xE0 ≤ b ∧ b < 0xF0) :
    lead? b = some ⟨2, if b = 0xE0 then 0xA0 else 0x80, if b = 0xED then 0x9F else 0xBF,
      b - 0xE0⟩ := by
  unfold lead?
  split_ifs <;> first | omega | simp_all

theorem lead?_four {b : Nat} (h : 0xF0 ≤ b ∧ b ≤ 0xF4) :
    lead? b = some ⟨3, if b = 0xF0 then 0x90 else 0x80, if b = 0xF4 then 0x8F else 0xBF,
      b - 0xF0⟩ := by
  unfold lead?
  split_ifs <;> first | omega | simp_all

theorem lead?_range {b : Nat} {l : Lead} (h : lead? b = some l) :
    (0xC2 ≤ b ∧ b < 0xE0) ∨ (0xE0 ≤ b ∧ b < 0xF0) ∨ (0xF0 ≤ b ∧ b ≤ 0xF4) := by
  unfold lead? at h
  split_ifs at h <;> omega

/-- A character is one byte below 128, or a leading byte and the bytes that it announces. -/
theorem utf8EncodeChar_cases (c : Char) :
    (∃ b : UInt8, String.utf8EncodeChar c = [b] ∧ b.toNat < 0x80 ∧ b.toNat = c.toNat) ∨
      ∃ (b : UInt8) (tail : List UInt8) (l : Lead), String.utf8EncodeChar c = b :: tail ∧
        lead? b.toNat = some l ∧ Fits l.follow l.least l.greatest tail ∧
        codePoint l.bits tail = c.toNat := by
  have hvalid : c.toNat < 0xD800 ∨ (0xDFFF < c.toNat ∧ c.toNat < 0x110000) := c.valid
  have hval : c.val.toNat = c.toNat := rfl
  simp only [String.utf8EncodeChar, hval]
  generalize c.toNat = v at hvalid
  split
  · exact Or.inl ⟨_, rfl, by rw [UInt8.toNat_ofNat']; omega, by rw [UInt8.toNat_ofNat']; omega⟩
  · right
    split
    · refine ⟨_, _, _, rfl, lead?_two ?_, ?_, ?_⟩ <;>
        simp only [Fits, codePoint, List.foldl, UInt8.toNat_ofNat', and_true] <;> omega
    · split
      · refine ⟨_, _, _, rfl, lead?_three ?_, ⟨?_, ?_, rfl⟩, ?_⟩ <;>
          simp only [codePoint, List.foldl, UInt8.toNat_ofNat']
        · omega
        · split_ifs <;> omega
        · omega
        · omega
      · refine ⟨_, _, _, rfl, lead?_four ?_, ⟨?_, ?_, ?_, rfl⟩, ?_⟩ <;>
          simp only [codePoint, List.foldl, UInt8.toNat_ofNat']
        · omega
        · split_ifs <;> omega
        · omega
        · omega
        · omega

theorem exists_char {v : Nat} (h : v < 0xD800 ∨ (0xDFFF < v ∧ v < 0x110000)) :
    ∃ c : Char, c.val.toNat = v := by
  have hv : (UInt32.ofNat v).toNat = v := by
    rw [UInt32.toNat_ofNat', Nat.mod_eq_of_lt (by omega)]
  refine ⟨⟨UInt32.ofNat v, ?_⟩, hv⟩
  show (UInt32.ofNat v).toNat.isValidChar
  rw [hv]
  exact h

/-- A leading byte and the bytes that it announces are a character. -/
theorem exists_utf8EncodeChar {b : UInt8} {l : Lead} (hl : lead? b.toNat = some l)
    (h : Fits l.follow l.least l.greatest tail) : ∃ c, String.utf8EncodeChar c = b :: tail := by
  rcases lead?_range hl with hr | hr | hr
  · rw [lead?_two hr] at hl
    cases hl
    match tail, h with
    | [b₁], ⟨h₁, _⟩ =>
      simp only at h₁
      obtain ⟨c, hc⟩ := exists_char (v := (b.toNat - 0xC0) * 64 + (b₁.toNat - 0x80)) (by omega)
      refine ⟨c, ?_⟩
      simp only [String.utf8EncodeChar, hc]
      rw [if_neg (by omega), if_pos (by omega)]
      simp only [List.cons.injEq, ← UInt8.toNat_inj, UInt8.toNat_ofNat', and_true]
      omega
  · rw [lead?_three hr] at hl
    cases hl
    match tail, h with
    | [b₁, b₂], ⟨h₁, h₂, _⟩ =>
      simp only at h₁ h₂
      have hfirst : (b.toNat = 0xE0 → 0xA0 ≤ b₁.toNat) ∧ (b.toNat = 0xED → b₁.toNat ≤ 0x9F) ∧
          0x80 ≤ b₁.toNat ∧ b₁.toNat ≤ 0xBF := by
        split_ifs at h₁ <;> omega
      obtain ⟨c, hc⟩ := exists_char
        (v := ((b.toNat - 0xE0) * 64 + (b₁.toNat - 0x80)) * 64 + (b₂.toNat - 0x80)) (by omega)
      refine ⟨c, ?_⟩
      simp only [String.utf8EncodeChar, hc]
      rw [if_neg (by omega), if_neg (by omega), if_pos (by omega)]
      simp only [List.cons.injEq, ← UInt8.toNat_inj, UInt8.toNat_ofNat', and_true]
      omega
  · rw [lead?_four hr] at hl
    cases hl
    match tail, h with
    | [b₁, b₂, b₃], ⟨h₁, h₂, h₃, _⟩ =>
      simp only at h₁ h₂ h₃
      have hfirst : (b.toNat = 0xF0 → 0x90 ≤ b₁.toNat) ∧ (b.toNat = 0xF4 → b₁.toNat ≤ 0x8F) ∧
          0x80 ≤ b₁.toNat ∧ b₁.toNat ≤ 0xBF := by
        split_ifs at h₁ <;> omega
      obtain ⟨c, hc⟩ := exists_char
        (v := (((b.toNat - 0xF0) * 64 + (b₁.toNat - 0x80)) * 64 + (b₂.toNat - 0x80)) * 64 +
          (b₃.toNat - 0x80)) (by omega)
      refine ⟨c, ?_⟩
      simp only [String.utf8EncodeChar, hc]
      rw [if_neg (by omega), if_neg (by omega), if_neg (by omega)]
      simp only [List.cons.injEq, ← UInt8.toNat_inj, UInt8.toNat_ofNat', and_true]
      omega

/-! ## Reading -/

theorem utf8EncodeChar_ofNat {b : UInt8} (hb : b.toNat < 0x80) :
    String.utf8EncodeChar (Char.ofNat b.toNat) = [b] := by
  have hval : (Char.ofNat b.toNat).val.toNat = b.toNat := by
    rw [Char.ofNat, dif_pos (Or.inl (by omega))]
    rfl
  simp only [String.utf8EncodeChar, hval]
  rw [if_pos (by omega), UInt8.ofNat_toNat]

theorem lossyChars_utf8EncodeChar (c : Char) (bytes : List UInt8) :
    lossyChars (String.utf8EncodeChar c ++ bytes) = c :: lossyChars bytes := by
  obtain ⟨b, hc, hb, hv⟩ | ⟨b, tail, l, hc, hl, hfits, hv⟩ := utf8EncodeChar_cases c
  · rw [hc, List.singleton_append, lossyChars, if_pos hb, hv, Char.ofNat_toNat]
  · have hb : ¬ b.toNat < 0x80 := by have := lead?_bounds hl; omega
    rw [hc, List.cons_append, lossyChars, if_neg hb, hl]
    simp only [follow_of_fits hfits, hv, Char.ofNat_toNat]

theorem lossyChars_of_isIllFormed {stretch : List UInt8} (h : IsIllFormed stretch rest) :
    lossyChars (stretch ++ rest) = '\uFFFD' :: lossyChars rest := by
  obtain ⟨b, got, rfl⟩ := List.exists_cons_of_ne_nil h.ne_nil
  -- A stretch of several bytes is a beginning, so that its first byte announces the others.
  have hstart : got = [] ∨ ∃ l more, lead? b.toNat = some l ∧
      Fits l.follow l.least l.greatest (got ++ more) := by
    rcases h.single_or_start with h1 | ⟨c, more, hc⟩
    · exact Or.inl (List.length_eq_zero_iff.mp (Nat.succ.inj h1))
    · obtain ⟨b', hc', -⟩ | ⟨b', tail, l, hc', hl, hfits, -⟩ := utf8EncodeChar_cases c <;>
        rw [hc', List.cons_append, List.cons.injEq] at hc <;> obtain ⟨rfl, hc⟩ := hc
      · exact Or.inl (List.append_eq_nil_iff.mp hc).1
      · exact Or.inr ⟨l, more, hl, hc ▸ hfits⟩
  have hb : ¬ b.toNat < 0x80 := by
    intro hb
    rcases hstart with rfl | ⟨l, -, hl, -⟩
    · exact h.ne_char _ (utf8EncodeChar_ofNat hb).symm
    · have := lead?_bounds hl
      omega
  rw [List.cons_append, lossyChars, if_neg hb]
  rcases hl : lead? b.toNat with _ | l
  · obtain rfl : got = [] := by
      rcases hstart with hgot | ⟨l, -, hl', -⟩
      · exact hgot
      · rw [hl] at hl'
        cases hl'
    rfl
  · have hbounds := lead?_bounds hl
    have hmore : ∃ more, more ≠ [] ∧ Fits l.follow l.least l.greatest (got ++ more) := by
      obtain ⟨more, hfits⟩ : ∃ more, Fits l.follow l.least l.greatest (got ++ more) := by
        rcases hstart with rfl | ⟨l', more, hl', hfits⟩
        · exact exists_fits l.follow hbounds.2.2.1 hbounds.2.2.2
        · rw [hl] at hl'
          cases hl'
          exact ⟨more, hfits⟩
      refine ⟨more, ?_, hfits⟩
      rintro rfl
      obtain ⟨c, hc⟩ := exists_utf8EncodeChar hl hfits
      exact h.ne_char c (by rw [hc, List.append_nil])
    have hstops : ∀ x ∈ rest.head?, ∀ more,
        ¬ Fits l.follow l.least l.greatest (got ++ x :: more) := by
      intro x hx more hfits
      obtain ⟨c, hc⟩ := exists_utf8EncodeChar hl hfits
      exact h.stops x hx c ⟨more, by rw [hc, List.append_assoc]; rfl⟩
    simp only [follow_of_breaks hbounds.2.2.1 hbounds.2.2.2 hmore hstops]

theorem length_of_fits (h : Fits n least greatest tail) : tail.length = n := by
  induction n generalizing least greatest tail with
  | zero => exact List.length_eq_zero_iff.mpr h
  | succ n ih =>
    cases tail with
    | nil => exact h.elim
    | cons b tail => rw [List.length_cons, ih h.2]

/-- A byte of 128 or more that begins a character announces the rest of it. -/
theorem lead?_of_utf8EncodeChar {c : Char} {b : UInt8} (h : String.utf8EncodeChar c = b :: tail)
    (hb : ¬ b.toNat < 0x80) :
    ∃ l, lead? b.toNat = some l ∧ Fits l.follow l.least l.greatest tail := by
  obtain ⟨b', hc, hb', -⟩ | ⟨b', tail', l, hc, hl, hfits, -⟩ := utf8EncodeChar_cases c
  · rw [hc] at h
    cases h
    exact absurd hb' hb
  · rw [hc] at h
    cases h
    exact ⟨l, hl, hfits⟩

theorem isIllFormed_of_lead?_eq_none {b : UInt8} (hb : ¬ b.toNat < 0x80)
    (hl : lead? b.toNat = none) (rest : List UInt8) : IsIllFormed [b] rest := by
  have hnone : ∀ c tail, String.utf8EncodeChar c ≠ b :: tail := by
    intro c tail hc
    obtain ⟨l, hl', -⟩ := lead?_of_utf8EncodeChar hc hb
    rw [hl] at hl'
    cases hl'
  refine ⟨by simp, fun c h => hnone c [] h.symm, Or.inl rfl, ?_⟩
  rintro x - c ⟨more, h⟩
  exact hnone c (x :: more) h.symm

theorem isIllFormed_of_breaks {b : UInt8} {l : Lead} (hl : lead? b.toNat = some l)
    {got : List UInt8} (hmore : ∃ more, more ≠ [] ∧ Fits l.follow l.least l.greatest (got ++ more))
    (hstops : ∀ x ∈ rest.head?, ∀ more, ¬ Fits l.follow l.least l.greatest (got ++ x :: more)) :
    IsIllFormed (b :: got) rest := by
  have hb : ¬ b.toNat < 0x80 := by have := lead?_bounds hl; omega
  have hfits : ∀ c tail, String.utf8EncodeChar c = b :: tail →
      Fits l.follow l.least l.greatest tail := by
    intro c tail hc
    obtain ⟨l', hl', h⟩ := lead?_of_utf8EncodeChar hc hb
    rw [hl] at hl'
    cases hl'
    exact h
  obtain ⟨more, hne, hwhole⟩ := hmore
  refine ⟨by simp, ?_, Or.inr ?_, ?_⟩
  · intro c h
    have hgot := length_of_fits (hfits c got h.symm)
    have hlonger := length_of_fits hwhole
    rw [List.length_append, hgot] at hlonger
    exact hne (List.length_eq_zero_iff.mp (by omega))
  · obtain ⟨c, hc⟩ := exists_utf8EncodeChar hl hwhole
    exact ⟨c, more, hc.symm⟩
  · rintro x hx c ⟨more, h⟩
    exact hstops x hx more (hfits c _ (by rw [← h]; simp))

theorem decodes_lossyChars (bytes : List UInt8) : Decodes bytes (lossyChars bytes) := by
  fun_induction lossyChars bytes with
  | case1 => exact .nil
  | case2 b bytes hb ih =>
    have h := Decodes.char (Char.ofNat b.toNat) ih
    rwa [utf8EncodeChar_ofNat hb] at h
  | case3 b bytes hb hl ih => exact .broken (isIllFormed_of_lead?_eq_none hb hl bytes) ih
  | case4 b bytes hb l hl ih =>
    have hbounds := lead?_bounds hl
    obtain ⟨got, rest, rfl, hfits | ⟨hmore, hstops⟩⟩ :=
      fits_or_breaks l.follow l.least l.greatest hbounds.2.2.1 hbounds.2.2.2 bytes
    · obtain ⟨c, hc⟩ := exists_utf8EncodeChar hl hfits
      have hread := lossyChars_utf8EncodeChar c rest
      rw [hc, List.cons_append, lossyChars, if_neg hb, hl] at hread
      simp only [follow_of_fits hfits] at ih hread ⊢
      rw [hread]
      have h := Decodes.char c ih
      rwa [hc] at h
    · have hbreak := follow_of_breaks hbounds.2.2.1 hbounds.2.2.2 hmore hstops l.bits
      simp only [hbreak] at ih ⊢
      exact .broken (isIllFormed_of_breaks hl hmore hstops) ih

/-- Bytes are read as what decoding means. -/
theorem decodes_iff {bytes : List UInt8} {chars : List Char} :
    Decodes bytes chars ↔ chars = lossyChars bytes := by
  constructor
  · intro h
    induction h with
    | nil => rw [lossyChars]
    | char c _ ih => rw [lossyChars_utf8EncodeChar, ih]
    | broken hbroken _ ih => rw [lossyChars_of_isIllFormed hbroken, ih]
  · rintro rfl
    exact decodes_lossyChars bytes

/-- Well-formed bytes or not, a text is what is read character by character. -/
theorem lossyText_eq (bytes : ByteArray) :
    lossyText bytes = String.ofList (lossyChars bytes.toList) := by
  have hwhole : ∀ chars : List Char,
      lossyChars (chars.flatMap String.utf8EncodeChar) = chars := by
    intro chars
    induction chars with
    | nil => rw [List.flatMap_nil, lossyChars]
    | cons c chars ih => rw [List.flatMap_cons, lossyChars_utf8EncodeChar, ih]
  unfold lossyText
  split
  · next s hs =>
    obtain ⟨hvalid, rfl⟩ : ∃ h : bytes.IsValidUTF8, String.fromUTF8 bytes h = s := by
      unfold String.fromUTF8? at hs
      split at hs
      · next h => exact ⟨h, Option.some.inj hs⟩
      · cases hs
    obtain ⟨chars, rfl⟩ := hvalid
    have hbytes : chars.utf8Encode.toList = chars.flatMap String.utf8EncodeChar := by
      rw [ByteArray.toList_eq, List.utf8Encode, List.toList_data_toByteArray]
    rw [hbytes, hwhole]
    rfl
  · rfl

/-! ## Bytes that stand for themselves -/

/-- A byte that follows no other ends what is read with a leading byte. -/
theorem follow_append {b : UInt8} (hb : b.toNat < 0x80) (n : Nat) (hleast : 0x80 ≤ least)
    (greatest bits : Nat) (before bytes : List UInt8) :
    follow n least greatest bits (before ++ b :: bytes) =
      ((follow n least greatest bits before).1,
        (follow n least greatest bits before).2 ++ b :: bytes) := by
  induction n generalizing least greatest bits before with
  | zero => rfl
  | succ n ih =>
    cases before with
    | nil => rw [List.nil_append, follow, follow, if_neg (by omega)]; rfl
    | cons a before =>
      rw [List.cons_append, follow, follow]
      split
      · exact ih (Nat.le_refl _) ..
      · rfl

/-- A byte below 128 is a character, whatever stands before it. -/
theorem lossyChars_append {b : UInt8} (hb : b.toNat < 0x80) (before bytes : List UInt8) :
    lossyChars (before ++ b :: bytes) =
      lossyChars before ++ Char.ofNat b.toNat :: lossyChars bytes := by
  fun_induction lossyChars before with
  | case1 => rw [List.nil_append, List.nil_append, lossyChars, if_pos hb]
  | case2 a before ha ih => rw [List.cons_append, lossyChars, if_pos ha, ih, List.cons_append]
  | case3 a before ha hl ih =>
    rw [List.cons_append, lossyChars, if_neg ha, hl, ih, List.cons_append]
  | case4 a before ha l hl ih =>
    rw [List.cons_append, lossyChars, if_neg ha, hl, List.cons_append, ← ih]
    simp only [follow_append hb _ (lead?_bounds hl).2.1]

/-- A character below 128 is read only where its byte stands. -/
theorem mem_of_mem_lossyChars {b : UInt8} (hb : b.toNat < 0x80) {bytes : List UInt8}
    (h : Char.ofNat b.toNat ∈ lossyChars bytes) : b ∈ bytes := by
  have hdecodes := decodes_lossyChars bytes
  generalize lossyChars bytes = chars at h hdecodes
  induction hdecodes with
  | nil => cases h
  | char c hrest ih =>
    rw [List.mem_append]
    rcases List.mem_cons.mp h with rfl | h
    · exact Or.inl (by rw [utf8EncodeChar_ofNat hb]; exact List.mem_singleton_self b)
    · exact Or.inr (ih h)
  | broken hbroken hrest ih =>
    rw [List.mem_append]
    rcases List.mem_cons.mp h with hreplaced | h
    · have hval : (Char.ofNat b.toNat).toNat = b.toNat := by
        rw [Char.ofNat, dif_pos (Or.inl (by omega))]
        rfl
      have : b.toNat = 0xFFFD := by rw [← hval, hreplaced]; rfl
      omega
    · exact Or.inr (ih h)

end BuildTool.Text
