import BuildTool.Proofs.Text.Cut
import BuildTool.Version
import Mathlib.Data.Nat.Digits.Defs

/-!
# The text of a version

Each version has one text: its three numbers in decimal digits without needless zeros, then the
pre-release part behind a hyphen and the build metadata behind a plus sign, if it has them. Reading
accepts exactly these texts:

    parseChars text = ok v    ↔    v.IsValid ∧ text = v.chars

## Sections

* versions and their texts;
* numbers;
* identifiers;
* whole versions.
-/

namespace BuildTool

/-! ## Versions and their texts -/

namespace Version

/-- An identifier of one of the two optional parts. -/
structure IsIdentifier (part : VersionPart) (id : List Char) : Prop where
  ne_nil : id ≠ []
  chars : ∀ c ∈ id, isIdentifierChar c = true
  no_zero : part = .pre → hasLeadingZero id = false

/-- Identifiers with a dot between any two of them. -/
inductive IsIdentifiers (part : VersionPart) : List Char → Prop
  | last {id : List Char} (h : IsIdentifier part id) : IsIdentifiers part id
  | cons {id ids : List Char} (h : IsIdentifier part id) (h' : IsIdentifiers part ids) :
      IsIdentifiers part (id ++ '.' :: ids)

/-- A version that has a text: its numbers fit into 64 bits, and its optional parts are absent or
made of identifiers. -/
structure IsValid (v : Version) : Prop where
  major : v.major < wordLimit
  minor : v.minor < wordLimit
  patch : v.patch < wordLimit
  pre : v.pre = [] ∨ IsIdentifiers .pre v.pre
  build : v.build = [] ∨ IsIdentifiers .build v.build

/-- An optional part behind its sign. -/
def signed (sign : Char) (ids : List Char) : List Char := if ids = [] then [] else sign :: ids

/-- The characters of a version's text. -/
def chars (v : Version) : List Char :=
  Nat.toDigits 10 v.major ++ '.' :: (Nat.toDigits 10 v.minor ++ '.' ::
    (Nat.toDigits 10 v.patch ++ (signed '-' v.pre ++ signed '+' v.build)))

def text (v : Version) : String := String.ofList v.chars

/-! ## Numbers -/

/-- No digit follows. -/
def EndsNumber (rest : List Char) : Prop := ∀ c, rest.head? = some c → c.isDigit = false

section

variable {part : VersionPart} {text rest : List Char} {n : Nat}

theorem digitChar_digit {c : Char} (h : c.isDigit = true) :
    c.toNat - '0'.toNat < 10 ∧ Nat.digitChar (c.toNat - '0'.toNat) = c := by
  have hrange : 48 ≤ c.toNat ∧ c.toNat ≤ 57 := by
    simp only [Char.isDigit, ge_iff_le, Bool.and_eq_true, decide_eq_true_eq,
      UInt32.le_iff_toNat_le] at h
    exact h
  show c.toNat - 48 < 10 ∧ Nat.digitChar (c.toNat - 48) = c
  have hlt : c.toNat - 48 < 10 := by omega
  refine ⟨hlt, Char.toNat_inj.mp ?_⟩
  rw [Nat.toNat_digitChar_of_lt_ten hlt]
  omega

theorem isDigit_digitChar : ∀ d < 10, (Nat.digitChar d).isDigit = true ∧
    (Nat.digitChar d).toNat - '0'.toNat = d := by decide

theorem digits_of_endsNumber (h : EndsNumber rest) (read value : Nat) :
    digits part read value rest = .ok (read, value, rest) := by
  cases rest with
  | nil => rfl
  | cons c rest =>
    have hc : c.isDigit = false := h c rfl
    rw [digits, hc]
    rfl

/-- A digit is read onto a number that does not begin with a zero. -/
theorem digits_cons {d read value : Nat} (hd : d < 10) (hvalue : value = 0 → read = 0)
    (hn : value * 10 + d < wordLimit) : digits part read value (Nat.digitChar d :: rest) =
      digits part (read + 1) (value * 10 + d) rest := by
  obtain ⟨hdigit, hval⟩ := isDigit_digitChar d hd
  have hzero : ¬ (value = 0 ∧ read > 0) := by
    intro h
    have := hvalue h.1
    omega
  rw [digits, if_pos hdigit, if_neg hzero, hval]
  exact if_pos hn

/-- The digits of a number are read one by one. -/
theorem digits_toDigits (n : Nat) (hn : n < wordLimit) (rest : List Char) :
    digits part 0 0 (Nat.toDigits 10 n ++ rest) =
      digits part (Nat.toDigits 10 n).length n rest := by
  induction n using Nat.strong_induction_on generalizing rest with
  | _ n ih =>
    by_cases hlt : n < 10
    · have hread : digits part 0 0 (Nat.digitChar n :: rest) = digits part 1 (0 * 10 + n) rest :=
        digits_cons hlt (fun _ => rfl) (by omega)
      rw [Nat.zero_mul, Nat.zero_add n] at hread
      rw [Nat.toDigits_of_lt_base hlt]
      exact hread
    · have hdiv : n / 10 * 10 + n % 10 = n := by omega
      have hread := ih (n / 10) (by omega) (by omega) (Nat.digitChar (n % 10) :: rest)
      rw [Nat.toDigits_of_base_le (by decide) (by omega), List.append_assoc, List.singleton_append,
        hread, digits_cons (by omega) (fun h => by omega) (by omega), hdiv, List.length_append]
      rfl

/-- What has been read of a number: nothing, or all of its digits so far. -/
structure HasRead (before : List Char) (read value : Nat) : Prop where
  length : before.length = read
  digits : before = [] ∧ value = 0 ∨ before = Nat.toDigits 10 value
  small : value < wordLimit

theorem HasRead.concat {before : List Char} {read value : Nat} {c : Char}
    (h : HasRead before read value) (hc : c.isDigit = true) (hzero : ¬ (value = 0 ∧ read > 0))
    (hsmall : value * 10 + (c.toNat - '0'.toNat) < wordLimit) :
    HasRead (before ++ [c]) (read + 1) (value * 10 + (c.toNat - '0'.toNat)) := by
  obtain ⟨hlt, hchar⟩ := digitChar_digit hc
  refine ⟨by rw [List.length_append, h.length]; rfl, .inr ?_, hsmall⟩
  rcases h.digits with ⟨rfl, rfl⟩ | hdigits
  · rw [Nat.zero_mul, Nat.zero_add, Nat.toDigits_of_lt_base hlt, hchar]
    rfl
  · have hpos : 0 < read := by
      rw [← h.length, hdigits]
      exact Nat.length_toDigits_pos
    have hne : value ≠ 0 := fun hv => hzero ⟨hv, hpos⟩
    have hdiv : (value * 10 + (c.toNat - '0'.toNat)) / 10 = value := by omega
    have hmod : (value * 10 + (c.toNat - '0'.toNat)) % 10 = c.toNat - '0'.toNat := by omega
    rw [Nat.toDigits_of_base_le (by decide) (by omega), hdiv, hmod, hchar, ← hdigits]

/-- The digits that are read are those of the number that comes out. -/
theorem hasRead_of_digits {before : List Char} {read value read' value' : Nat}
    (hread : HasRead before read value)
    (h : digits part read value text = .ok (read', value', rest)) :
    ∃ more, text = more ++ rest ∧ HasRead (before ++ more) read' value' ∧ EndsNumber rest := by
  induction text generalizing before read value with
  | nil =>
    cases h
    exact ⟨[], rfl, by rwa [List.append_nil], nofun⟩
  | cons c text ih =>
    rw [digits] at h
    split at h
    · next hc =>
      split at h
      · cases h
      · next hzero =>
        dsimp only at h
        split at h
        · next hsmall =>
          obtain ⟨more, rfl, hmore, hends⟩ := ih (hread.concat hc hzero hsmall) h
          rw [List.append_assoc] at hmore
          exact ⟨c :: more, rfl, hmore, hends⟩
        · cases h
    · next hc =>
      cases h
      refine ⟨[], rfl, by rwa [List.append_nil], fun d hd => ?_⟩
      cases hd
      simpa using hc

/-- A number is read if its digits stand there, and no more of them. -/
theorem number_eq_ok_iff : number part text = .ok (n, rest) ↔
    n < wordLimit ∧ text = Nat.toDigits 10 n ++ rest ∧ EndsNumber rest := by
  constructor
  · intro h
    unfold number at h
    split at h
    · cases h
    · cases h
    · cases h
    · next read value after hdigits =>
      cases h
      obtain ⟨more, rfl, hread, hends⟩ :=
        hasRead_of_digits ⟨rfl, .inl ⟨rfl, rfl⟩, by decide⟩ hdigits
      rw [List.nil_append] at hread
      rcases hread.digits with ⟨rfl, -⟩ | hmore
      · have hlength := hread.length
        cases hlength
      · exact ⟨hread.small, by rw [← hmore], hends⟩
  · rintro ⟨hn, rfl, hends⟩
    obtain ⟨length, hlength⟩ :=
      Nat.exists_eq_add_of_le' (Nat.length_toDigits_pos (b := 10) (n := n))
    rw [number, digits_toDigits n hn, digits_of_endsNumber hends, hlength]

theorem dot_eq_ok_iff : dot part text = .ok rest ↔ text = '.' :: rest := by
  unfold dot
  split
  · simp
  · next c _ hdot => simpa using fun hc _ => hdot hc
  · simp

end

/-! ## Identifiers -/

/-- Neither a character of an identifier nor a dot follows. -/
def EndsIdentifiers (rest : List Char) : Prop :=
  ∀ c, rest.head? = some c → isIdentifierChar c = false ∧ c ≠ '.'

section

variable {part : VersionPart} {id ids text rest : List Char}

theorem IsIdentifiers.ne_nil (h : IsIdentifiers part ids) : ids ≠ [] := by
  cases h with
  | last h => exact h.ne_nil
  | cons h _ => simp

theorem IsIdentifier.no_dot (h : IsIdentifier part id) : '.' ∉ id := by
  intro hdot
  have hchar := h.chars '.' hdot
  revert hchar
  decide

theorem IsIdentifiers.isIdentifier (h : IsIdentifiers part ids) (hdot : '.' ∉ ids) :
    IsIdentifier part ids := by
  cases h with
  | last h => exact h
  | cons => simp at hdot

/-- The first dot ends the first identifier. -/
theorem IsIdentifiers.of_dot (h : IsIdentifiers part (id ++ '.' :: ids)) (hdot : '.' ∉ id) :
    IsIdentifier part id ∧ IsIdentifiers part ids := by
  generalize hall : id ++ '.' :: ids = all at h
  cases h with
  | last h =>
    subst hall
    exact absurd (by simp) h.no_dot
  | @cons first others h h' =>
    have hcut := Text.cutChar?_eq_some_iff.mpr ⟨hall.symm, hdot⟩
    have hcut' := Text.cutChar?_eq_some_iff.mpr
      ⟨(rfl : first ++ '.' :: others = first ++ '.' :: others), h.no_dot⟩
    rw [hcut] at hcut'
    cases hcut'
    exact ⟨h, h'⟩

theorem IsIdentifiers.chars (h : IsIdentifiers part ids) :
    ∀ c ∈ ids, isIdentifierChar c = true ∨ c = '.' := by
  induction h with
  | last h => exact fun c hc => .inl (h.chars c hc)
  | cons h _ ih =>
    intro c hc
    rcases List.mem_append.mp hc with hid | hrest
    · exact .inl (h.chars c hid)
    · rcases List.mem_cons.mp hrest with hdot | hrest
      · exact .inr hdot
      · exact ih c hrest

/-- When what was read since the last dot is an identifier. -/
theorem isIdentifier_reverse_iff {segment : List Char}
    (hsegment : ∀ c ∈ segment, isIdentifierChar c = true) :
    IsIdentifier part segment.reverse ↔
      segment ≠ [] ∧ ¬ (part = .pre ∧ hasLeadingZero segment.reverse = true) := by
  constructor
  · intro h
    refine ⟨by simpa using h.ne_nil, fun hzero => ?_⟩
    have hlead := h.no_zero hzero.1
    rw [hzero.2] at hlead
    cases hlead
  · rintro ⟨hne, hzero⟩
    refine ⟨by simpa using hne, fun c hc => hsegment c (List.mem_reverse.mp hc), fun hpre => ?_⟩
    rw [← Bool.not_eq_true]
    exact fun hlead => hzero ⟨hpre, hlead⟩

/-- What is read is added to what was read of the current identifier, and with that it is a list of
identifiers; only where nothing was read before, nothing need follow. -/
theorem isIdentifiers_of_identifierFrom {done segment out : List Char}
    (hsegment : ∀ c ∈ segment, isIdentifierChar c = true)
    (h : identifierFrom part done segment text = .ok (out, rest)) :
    out = [] ∧ done = [] ∧ segment = [] ∨
      ∃ more, text = more ++ rest ∧ out = done.reverse ++ (segment.reverse ++ more) ∧
        IsIdentifiers part (segment.reverse ++ more) ∧ EndsIdentifiers rest := by
  induction text generalizing done segment with
  | nil =>
    rw [identifierFrom] at h
    split at h
    · next hnil =>
      split at h
      · next hdone =>
        cases h
        exact .inl ⟨rfl, hdone, hnil⟩
      · cases h
    · next hne =>
      split at h
      · cases h
      · next hzero =>
        cases h
        have hid := (isIdentifier_reverse_iff hsegment).mpr ⟨hne, hzero⟩
        exact .inr ⟨[], rfl, by simp, by simpa using .last hid, nofun⟩
  | cons c text ih =>
    rw [identifierFrom] at h
    split at h
    · next hc =>
      have hmoved : ∀ more, (c :: segment).reverse ++ more = segment.reverse ++ c :: more := by simp
      rcases ih (List.forall_mem_cons.mpr ⟨hc, hsegment⟩) h with
        ⟨_, _, hnil⟩ | ⟨more, rfl, hout, hids, hends⟩
      · cases hnil
      · rw [hmoved] at hout hids
        exact .inr ⟨c :: more, rfl, hout, hids, hends⟩
    · next hc =>
      split at h
      · next hnil =>
        split at h
        · next hfirst =>
          cases h
          exact .inl ⟨rfl, hfirst.1, hnil⟩
        · cases h
      · next hne =>
        split at h
        · cases h
        · next hzero =>
          have hid := (isIdentifier_reverse_iff hsegment).mpr ⟨hne, hzero⟩
          split at h
          · next hdot =>
            subst hdot
            rcases ih (List.forall_mem_nil _) h with ⟨_, hdone, _⟩ | ⟨more, rfl, hout, hids, hends⟩
            · cases hdone
            · exact .inr ⟨'.' :: more, rfl, by simpa using hout, .cons hid hids, hends⟩
          · next hdot =>
            cases h
            refine .inr ⟨[], rfl, by simp, by simpa using .last hid, fun d hd => ?_⟩
            cases hd
            exact ⟨by simpa using hc, hdot⟩

/-- A list of identifiers is read to its end. -/
theorem identifierFrom_append {done segment more : List Char}
    (hsegment : ∀ c ∈ segment, isIdentifierChar c = true)
    (h : IsIdentifiers part (segment.reverse ++ more)) (hends : EndsIdentifiers rest) :
    identifierFrom part done segment (more ++ rest) =
      .ok (done.reverse ++ (segment.reverse ++ more), rest) := by
  have hdot : '.' ∉ segment.reverse := by
    intro hdot
    have hchar := hsegment '.' (List.mem_reverse.mp hdot)
    revert hchar
    decide
  induction more generalizing done segment with
  | nil =>
    rw [List.append_nil] at h
    obtain ⟨hne, hzero⟩ := (isIdentifier_reverse_iff hsegment).mp (h.isIdentifier hdot)
    cases rest with
    | nil =>
      rw [List.append_nil, identifierFrom, if_neg hne, if_neg hzero]
      simp
    | cons c rest =>
      obtain ⟨hc, hcdot⟩ := hends c rfl
      have hchar : ¬ isIdentifierChar c = true := by
        rw [hc]
        exact Bool.false_ne_true
      rw [List.nil_append, identifierFrom, if_neg hchar, if_neg hne, if_neg hzero, if_neg hcdot]
      simp
  | cons c more ih =>
    rw [List.cons_append, identifierFrom]
    by_cases hc : isIdentifierChar c = true
    · have hmoved : segment.reverse ++ c :: more = (c :: segment).reverse ++ more := by simp
      have hdot' : '.' ∉ (c :: segment).reverse := by
        intro hmem
        rcases List.mem_cons.mp (List.mem_reverse.mp hmem) with rfl | hmem
        · cases hc
        · exact hdot (List.mem_reverse.mpr hmem)
      rw [hmoved] at h
      rw [if_pos hc, hmoved, ih (List.forall_mem_cons.mpr ⟨hc, hsegment⟩) h hdot']
    · obtain rfl : c = '.' := (h.chars c (by simp)).resolve_left hc
      obtain ⟨hid, hids⟩ := h.of_dot hdot
      obtain ⟨hne, hzero⟩ := (isIdentifier_reverse_iff hsegment).mp hid
      rw [if_neg hc, if_neg hne, if_neg hzero, if_pos rfl,
        ih (List.forall_mem_nil _) hids List.not_mem_nil]
      simp

/-- Identifiers are read if they stand there, and nothing that could belong to them follows. -/
theorem identifiers_eq_ok_iff : identifiers part text = .ok (ids, rest) ↔
    IsIdentifiers part ids ∧ text = ids ++ rest ∧ EndsIdentifiers rest := by
  constructor
  · intro h
    unfold identifiers at h
    split at h
    · cases h
    · next hempty =>
      rcases isIdentifiers_of_identifierFrom (List.forall_mem_nil _) h with
        ⟨rfl, -, -⟩ | ⟨more, rfl, rfl, hids, hends⟩
      · exact absurd h (hempty rest)
      · exact ⟨hids, rfl, hends⟩
  · rintro ⟨hids, rfl, hends⟩
    have hread : identifierFrom part [] [] (ids ++ rest) = .ok (ids, rest) :=
      identifierFrom_append (List.forall_mem_nil _) hids hends
    rw [identifiers, hread]
    split
    · next hempty =>
      cases hempty
      exact absurd rfl hids.ne_nil
    · rfl

/-- What an optional part that is absent or present can be followed by. -/
def Follows (sign : Char) (part : VersionPart) (ids rest : List Char) : Prop :=
  ids = [] ∧ (∀ c, rest.head? = some c → c ≠ sign) ∨ IsIdentifiers part ids ∧ EndsIdentifiers rest

/-- An optional part is read with its sign, and nothing is read where another character stands. -/
theorem optionalPart_iff {sign : Char} {current : VersionPart} :
    (∃ position, optionalPart sign part current text = .ok (ids, position, rest)) ↔
      text = signed sign ids ++ rest ∧ Follows sign part ids rest := by
  constructor
  · rintro ⟨position, h⟩
    unfold optionalPart at h
    split at h
    · next c after =>
      split at h
      · next hsign =>
        split at h
        · cases h
        · next read hread =>
          cases h
          obtain ⟨hids, rfl, hends⟩ := identifiers_eq_ok_iff.mp hread
          refine ⟨?_, .inr ⟨hids, hends⟩⟩
          rw [signed, if_neg hids.ne_nil, hsign]
          rfl
      · next hsign =>
        cases h
        refine ⟨rfl, .inl ⟨rfl, fun d hd => ?_⟩⟩
        cases hd
        exact hsign
    · cases h
      exact ⟨rfl, .inl ⟨rfl, nofun⟩⟩
  · rintro ⟨rfl, ⟨rfl, hother⟩ | ⟨hids, hends⟩⟩
    · refine ⟨current, ?_⟩
      rw [signed, if_pos rfl, List.nil_append]
      cases rest with
      | nil => rfl
      | cons c rest => rw [optionalPart, if_neg (hother c rfl)]
    · refine ⟨part, ?_⟩
      rw [signed, if_neg hids.ne_nil, List.cons_append, optionalPart, if_pos rfl,
        identifiers_eq_ok_iff.mpr ⟨hids, rfl, hends⟩]

end

/-! ## Whole versions -/

section

variable {v : Version} {text : List Char}

theorem endsNumber_dot (rest : List Char) : EndsNumber ('.' :: rest) := by
  intro c hc
  cases hc
  rfl

/-- Behind the numbers stands a sign, if anything. -/
theorem head?_signed {sign c : Char} {ids rest : List Char}
    (h : (signed sign ids ++ rest).head? = some c) : c = sign ∨ rest.head? = some c := by
  unfold signed at h
  split at h
  · exact .inr h
  · cases h
    exact .inl rfl

theorem endsNumber_signed (v : Version) : EndsNumber (signed '-' v.pre ++ signed '+' v.build) := by
  intro c hc
  rcases head?_signed hc with rfl | hplus
  · rfl
  · rw [← List.append_nil (signed '+' v.build)] at hplus
    rcases head?_signed hplus with rfl | hnil
    · rfl
    · cases hnil

theorem follows_pre (h : v.IsValid) : Follows '-' .pre v.pre (signed '+' v.build) := by
  have hplus : ∀ c, (signed '+' v.build).head? = some c → c = '+' := by
    intro c hc
    rw [← List.append_nil (signed '+' v.build)] at hc
    rcases head?_signed hc with rfl | hnil
    · rfl
    · cases hnil
  rcases h.pre with hpre | hpre
  · refine .inl ⟨hpre, fun c hc => ?_⟩
    rw [hplus c hc]
    decide
  · refine .inr ⟨hpre, fun c hc => ?_⟩
    rw [hplus c hc]
    decide

theorem follows_build (h : v.IsValid) : Follows '+' .build v.build [] :=
  h.build.imp (fun hbuild => ⟨hbuild, nofun⟩) fun hbuild => ⟨hbuild, nofun⟩

theorem bind_eq_ok_iff {ε α β : Type} {x : Except ε α} {f : α → Except ε β} {b : β} :
    x >>= f = .ok b ↔ ∃ a, x = .ok a ∧ f a = .ok b := by
  cases x with
  | error e => exact ⟨nofun, nofun⟩
  | ok a =>
    constructor
    · intro h
      exact ⟨a, rfl, h⟩
    · rintro ⟨_, heq, h⟩
      cases heq
      exact h

theorem Follows.eq_nil_or {sign : Char} {part : VersionPart} {ids rest : List Char}
    (h : Follows sign part ids rest) : ids = [] ∨ IsIdentifiers part ids :=
  h.imp And.left And.left

/-- Exactly the texts of versions are read, each as its version. -/
theorem parseChars_eq_ok_iff : parseChars text = .ok v ↔ v.IsValid ∧ text = v.chars := by
  constructor
  · intro h
    unfold parseChars at h
    split at h
    · cases h
    obtain ⟨⟨major, behindMajor⟩, hmajor, h⟩ := bind_eq_ok_iff.mp h
    obtain ⟨fromMinor, hdot, h⟩ := bind_eq_ok_iff.mp h
    obtain ⟨⟨minor, behindMinor⟩, hminor, h⟩ := bind_eq_ok_iff.mp h
    obtain ⟨fromPatch, hdot', h⟩ := bind_eq_ok_iff.mp h
    obtain ⟨⟨patch, behindPatch⟩, hpatch, h⟩ := bind_eq_ok_iff.mp h
    obtain ⟨⟨pre, position, behindPre⟩, hpre, h⟩ := bind_eq_ok_iff.mp h
    obtain ⟨⟨build, position', behindBuild⟩, hbuild, hend⟩ := bind_eq_ok_iff.mp h
    obtain ⟨major_lt, rfl, -⟩ := number_eq_ok_iff.mp hmajor
    obtain rfl := dot_eq_ok_iff.mp hdot
    obtain ⟨minor_lt, rfl, -⟩ := number_eq_ok_iff.mp hminor
    obtain rfl := dot_eq_ok_iff.mp hdot'
    obtain ⟨patch_lt, rfl, -⟩ := number_eq_ok_iff.mp hpatch
    obtain ⟨rfl, pre_ids⟩ := optionalPart_iff.mp ⟨position, hpre⟩
    obtain ⟨rfl, build_ids⟩ := optionalPart_iff.mp ⟨position', hbuild⟩
    cases behindBuild with
    | cons c rest => cases hend
    | nil =>
      cases hend
      refine ⟨⟨major_lt, minor_lt, patch_lt, pre_ids.eq_nil_or, build_ids.eq_nil_or⟩, ?_⟩
      rw [chars, List.append_nil]
  · rintro ⟨hv, rfl⟩
    have hne : v.chars ≠ [] := by simp [chars]
    obtain ⟨position, hpre⟩ := (@optionalPart_iff .pre _ _ _ '-' .patch).mpr ⟨rfl, follows_pre hv⟩
    obtain ⟨position', hbuild⟩ := (@optionalPart_iff .build _ _ _ '+' position).mpr
      ⟨(List.append_nil _).symm, follows_build hv⟩
    rw [parseChars, if_neg hne]
    refine bind_eq_ok_iff.mpr ⟨_, number_eq_ok_iff.mpr ⟨hv.major, rfl, endsNumber_dot _⟩, ?_⟩
    refine bind_eq_ok_iff.mpr ⟨_, rfl, ?_⟩
    refine bind_eq_ok_iff.mpr ⟨_, number_eq_ok_iff.mpr ⟨hv.minor, rfl, endsNumber_dot _⟩, ?_⟩
    refine bind_eq_ok_iff.mpr ⟨_, rfl, ?_⟩
    refine bind_eq_ok_iff.mpr ⟨_, number_eq_ok_iff.mpr ⟨hv.patch, rfl, endsNumber_signed v⟩, ?_⟩
    refine bind_eq_ok_iff.mpr ⟨_, hpre, ?_⟩
    refine bind_eq_ok_iff.mpr ⟨_, hbuild, ?_⟩
    rfl

end

end Version

end BuildTool
