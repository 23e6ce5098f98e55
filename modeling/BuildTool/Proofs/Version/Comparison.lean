import BuildTool.Proofs.Version.Notation
import BuildTool.Requirement
import Mathlib.Data.Prod.Lex

/-!
# Which versions meet a requirement

A requirement may have any text before its operator and white space around its version, and the
version of the tool may have white space around it behind its `v`. The operators accept more and
more versions:

    =1.2.3    1.2.3 alone
    ~1.2.3    1.2.3, 1.2.4, …
    ^1.2.3    1.2.3, 1.2.4, …, 1.3.0, …

A version meets the requirements that ask for it if there is a `v` before it, or none in it.

## Sections

* characters of versions;
* requirements as they are written;
* meeting a requirement;
* versions that are asked for themselves.
-/

namespace BuildTool

/-! ## Characters of versions -/

namespace Version

theorem isBlank_of_isIdentifierChar {c : Char} (h : isIdentifierChar c = true) :
    Text.isBlank c = false := by
  have hrange : 32 < c.toNat ∧ c.toNat < 127 := by
    -- Letters in capital and in small, digits, and the dash.
    change (((decide (65 ≤ c.val ∧ c.val ≤ 90) || (decide (97 ≤ c.val) && decide (c.val ≤ 122))) ||
      (decide (48 ≤ c.val) && decide (c.val ≤ 57))) || c == '-') = true at h
    simp only [Bool.or_eq_true, Bool.and_eq_true, decide_eq_true_eq, beq_iff_eq,
      UInt32.le_iff_toNat_le] at h
    change (((65 ≤ c.toNat ∧ c.toNat ≤ 90) ∨ (97 ≤ c.toNat ∧ c.toNat ≤ 122)) ∨
      (48 ≤ c.toNat ∧ c.toNat ≤ 57)) ∨ c = '-' at h
    rcases h with ((h | h) | h) | rfl
    · omega
    · omega
    · omega
    · decide
  simp only [Text.isBlank, Bool.or_eq_false_iff, Bool.and_eq_false_iff, decide_eq_false_iff_not,
    beq_eq_false_iff_ne]
  omega

theorem isIdentifierChar_of_mem_toDigits {n : Nat} {c : Char} (h : c ∈ Nat.toDigits 10 n) :
    isIdentifierChar c = true := by
  have hdigit : c.isDigit = true := Nat.isDigit_of_mem_toDigits (by decide) (by decide) h
  rw [isIdentifierChar, Char.isAlphanum, hdigit, Bool.or_true, Bool.true_or]

theorem of_mem_signed {sign c : Char} {part : VersionPart} {ids : List Char}
    (h : ids = [] ∨ IsIdentifiers part ids) (hc : c ∈ signed sign ids) :
    c = sign ∨ isIdentifierChar c = true ∨ c = '.' := by
  unfold signed at hc
  split at hc
  · cases hc
  · next hne =>
    rcases List.mem_cons.mp hc with rfl | hc
    · exact .inl rfl
    · exact .inr ((h.resolve_left hne).chars c hc)

/-- No character of a version is white space. -/
theorem isBlank_of_mem_chars {v : Version} (h : v.IsValid) {c : Char} (hc : c ∈ v.chars) :
    Text.isBlank c = false := by
  have hdigits : ∀ n, c ∈ Nat.toDigits 10 n → Text.isBlank c = false :=
    fun n hn => isBlank_of_isIdentifierChar (isIdentifierChar_of_mem_toDigits hn)
  have hids : isIdentifierChar c = true ∨ c = '.' → Text.isBlank c = false := by
    rintro (hchar | rfl)
    · exact isBlank_of_isIdentifierChar hchar
    · decide
  simp only [chars, List.mem_append, List.mem_cons] at hc
  rcases hc with hmajor | rfl | hminor | rfl | hpatch | hpre | hbuild
  · exact hdigits _ hmajor
  · decide
  · exact hdigits _ hminor
  · decide
  · exact hdigits _ hpatch
  · rcases of_mem_signed h.pre hpre with rfl | hchar
    · decide
    · exact hids hchar
  · rcases of_mem_signed h.build hbuild with rfl | hchar
    · decide
    · exact hids hchar

/-- A version is read between white space. -/
theorem parseChars_trimBoth {v : Version} (h : v.IsValid) {before after : List Char}
    (hbefore : ∀ c ∈ before, Text.isBlank c = true) (hafter : ∀ c ∈ after, Text.isBlank c = true) :
    parseChars (Text.trimBoth Text.isBlank (before ++ (v.chars ++ after))) = .ok v := by
  rw [Text.trimBoth_append hbefore (fun _ hc => isBlank_of_mem_chars h hc) hafter]
  exact parseChars_eq_ok_iff.mpr ⟨h, rfl⟩

end Version

/-! ## Requirements as they are written -/

namespace Comparison

/-- The operator that asks for a comparison. -/
def sign : Comparison → Char
  | .exact => '='
  | .sameMajor => '^'
  | .sameMinor => '~'

theorem ofChar?_sign (comparison : Comparison) : ofChar? comparison.sign = some comparison := by
  cases comparison <;> rfl

theorem ofChar?_eq_none {c : Char} (h : ∀ comparison, c ≠ sign comparison) : ofChar? c = none := by
  unfold ofChar?
  split
  · exact absurd rfl (h .exact)
  · exact absurd rfl (h .sameMajor)
  · exact absurd rfl (h .sameMinor)
  · rfl

section

variable (wanted actual : Version)

theorem accepts_exact : accepts .exact wanted actual = decide (wanted = actual) := rfl

theorem accepts_sameMinor : accepts .sameMinor wanted actual = decide (wanted.major = actual.major ∧
    wanted.minor = actual.minor ∧ wanted.patch ≤ actual.patch) := by
  rw [Bool.eq_iff_iff]
  simp only [accepts, Bool.and_eq_true, beq_iff_eq, decide_eq_true_eq, and_assoc]

theorem accepts_sameMajor : accepts .sameMajor wanted actual = decide (wanted.major = actual.major ∧
    toLex (wanted.minor, wanted.patch) ≤ toLex (actual.minor, actual.patch)) := by
  rw [Bool.eq_iff_iff]
  simp only [accepts, Bool.and_eq_true, Bool.or_eq_true, beq_iff_eq, decide_eq_true_eq,
    Prod.Lex.toLex_le_toLex]

end

end Comparison

namespace Requirement

/-- A requirement with text before its operator and texts around its version. -/
def write (lead : String) (comparison : Comparison) (gap : String) (wanted : Version)
    (gap' : String) : String :=
  lead ++ String.singleton comparison.sign ++ gap ++ wanted.text ++ gap'

/-- The version of the tool behind its letter, with texts around it. -/
def tagged (gap : String) (actual : Version) (gap' : String) : String :=
  "v" ++ gap ++ actual.text ++ gap'

/-- All characters of the text are white space. -/
def IsGap (gap : String) : Prop := ∀ c ∈ gap.toList, Text.isBlank c = true

theorem IsGap.empty : IsGap "" := by
  intro c hc
  simp at hc

/-- Text in which no operator stands. -/
def IsLead (lead : String) : Prop := ∀ comparison : Comparison, comparison.sign ∉ lead.toList

/-- What is asked for is found behind the operator. -/
theorem operator?_append {lead rest : List Char} {comparison : Comparison}
    (hlead : ∀ c ∈ lead, Comparison.ofChar? c = none) :
    operator? (lead ++ comparison.sign :: rest) = some (comparison, rest) := by
  induction lead with
  | nil => rw [List.nil_append, operator?, comparison.ofChar?_sign]
  | cons c lead ih =>
    obtain ⟨hc, hlead⟩ := List.forall_mem_cons.mp hlead
    rw [List.cons_append, operator?, hc]
    exact ih hlead

/-- The version asked for is compared with the version of the tool, if that is one. -/
theorem isMet_write {lead gap gap' : String} {wanted : Version} (hlead : IsLead lead)
    (hgap : IsGap gap) (hgap' : IsGap gap') (hwanted : wanted.IsValid) (comparison : Comparison)
    (current : String) : isMet (write lead comparison gap wanted gap') current =
      ((Version.parseChars (Text.trimBoth Text.isBlank (currentText current.toList))).mapError
        .badCurrent).map (comparison.accepts wanted) := by
  have hchars : (write lead comparison gap wanted gap').toList =
      lead.toList ++ comparison.sign :: (gap.toList ++ (wanted.chars ++ gap'.toList)) := by
    simp [write, Version.text]
  have hother : ∀ c ∈ lead.toList, Comparison.ofChar? c = none := by
    intro c hc
    refine Comparison.ofChar?_eq_none fun comparison heq => ?_
    exact hlead comparison (heq ▸ hc)
  rw [isMet, hchars, operator?_append hother]
  dsimp only
  rw [Version.parseChars_trimBoth hwanted hgap hgap']
  cases Version.parseChars (Text.trimBoth Text.isBlank (currentText current.toList)) <;> rfl

/-- The version of the tool is what follows the `v`. -/
theorem parseChars_tagged {gap gap' : String} {actual : Version} (hgap : IsGap gap)
    (hgap' : IsGap gap') (hactual : actual.IsValid) :
    Version.parseChars (Text.trimBoth Text.isBlank
      (currentText (tagged gap actual gap').toList)) = .ok actual := by
  have hchars : (tagged gap actual gap').toList =
      'v' :: (gap.toList ++ (actual.chars ++ gap'.toList)) := by
    simp [tagged, Version.text]
  have hcut : currentText (tagged gap actual gap').toList =
      gap.toList ++ (actual.chars ++ gap'.toList) := by
    rw [hchars]
    rfl
  rw [hcut, Version.parseChars_trimBoth hactual hgap hgap']

/-! ## Meeting a requirement -/

/-- Requirements are met as their operators say, by the numbers of the versions alone but for `=`,
and whatever stands around the versions. What `=` accepts is accepted by `~`, what `~` accepts is
accepted by `^`, and `^` goes on accepting the later versions of the same major number. -/
theorem requirement_compares_versions {lead gap gap' space space' : String}
    {wanted actual : Version} (hlead : IsLead lead)
    (hgaps : IsGap gap ∧ IsGap gap' ∧ IsGap space ∧ IsGap space')
    (hwanted : wanted.IsValid) (hactual : actual.IsValid) :
    let answer (comparison : Comparison) (current : Version) : Except RequirementError Bool :=
      isMet (write lead comparison gap wanted gap') (tagged space current space')
    answer .exact actual = .ok (decide (wanted = actual)) ∧
    answer .sameMinor actual = .ok (decide (wanted.major = actual.major ∧
      wanted.minor = actual.minor ∧ wanted.patch ≤ actual.patch)) ∧
    answer .sameMajor actual = .ok (decide (wanted.major = actual.major ∧
      toLex (wanted.minor, wanted.patch) ≤ toLex (actual.minor, actual.patch))) ∧
    (answer .exact actual = .ok true → answer .sameMinor actual = .ok true) ∧
    (answer .sameMinor actual = .ok true → answer .sameMajor actual = .ok true) ∧
    ∀ later : Version, later.IsValid → later.major = actual.major →
      toLex (actual.minor, actual.patch) ≤ toLex (later.minor, later.patch) →
      answer .sameMajor actual = .ok true → answer .sameMajor later = .ok true := by
  intro answer
  obtain ⟨hgap, hgap', hspace, hspace'⟩ := hgaps
  have hanswer : ∀ (comparison : Comparison) (current : Version), current.IsValid →
      answer comparison current = .ok (comparison.accepts wanted current) := by
    intro comparison current hcurrent
    show isMet _ _ = _
    rw [isMet_write hlead hgap hgap' hwanted, parseChars_tagged hspace hspace' hcurrent]
    rfl
  have hexact := hanswer .exact actual hactual
  have hminor := hanswer .sameMinor actual hactual
  have hmajor := hanswer .sameMajor actual hactual
  rw [Comparison.accepts_exact] at hexact
  rw [Comparison.accepts_sameMinor] at hminor
  rw [Comparison.accepts_sameMajor] at hmajor
  refine ⟨hexact, hminor, hmajor, fun h => ?_, fun h => ?_, fun later hlater hsame hle h => ?_⟩
  · rw [hexact, Except.ok.injEq, decide_eq_true_eq] at h
    rw [hminor, Except.ok.injEq, decide_eq_true_eq, h]
    exact ⟨rfl, rfl, Nat.le_refl _⟩
  · rw [hminor, Except.ok.injEq, decide_eq_true_eq] at h
    obtain ⟨hmaj, hmin, hpatch⟩ := h
    rw [hmajor, Except.ok.injEq, decide_eq_true_eq, Prod.Lex.toLex_le_toLex]
    exact ⟨hmaj, .inr ⟨hmin, hpatch⟩⟩
  · rw [hmajor, Except.ok.injEq, decide_eq_true_eq] at h
    rw [hanswer .sameMajor later hlater, Comparison.accepts_sameMajor, Except.ok.injEq,
      decide_eq_true_eq]
    exact ⟨h.1.trans hsame.symm, h.2.trans hle⟩

/-- A version with both optional parts, as a requirement and as the version of the tool. -/
def preview : Version :=
  { major := 1, minor := 2, patch := 18446744073709551615, pre := "rc-1.x".toList,
    build := "007".toList }

theorem isValid_preview : preview.IsValid :=
  (Version.parseChars_eq_ok_iff.mp
    (by decide : Version.parseChars "1.2.18446744073709551615-rc-1.x+007".toList =
      .ok preview)).1

/-- The version is asked for behind a name, and 1.3.0 meets the requirement. -/
theorem requirement_compares_versions_preview :
    IsLead "## bygg: " ∧ (IsGap " " ∧ IsGap "\t" ∧ IsGap "" ∧ IsGap " ") ∧ preview.IsValid ∧
    Version.IsValid ⟨1, 3, 0, [], []⟩ ∧
    isMet (write "## bygg: " .sameMajor " " preview "\t") (tagged "" ⟨1, 3, 0, [], []⟩ " ") =
      .ok true := by
  have hlead : IsLead "## bygg: " := by
    intro comparison
    cases comparison <;> decide
  have hspace : IsGap " " := by
    intro c hc
    obtain rfl : c = ' ' := by simpa using hc
    rfl
  have htab : IsGap "\t" := by
    intro c hc
    obtain rfl : c = '\t' := by simpa using hc
    rfl
  have hlater : Version.IsValid ⟨1, 3, 0, [], []⟩ :=
    ⟨by decide, by decide, by decide, .inl rfl, .inl rfl⟩
  have hmet := (requirement_compares_versions hlead ⟨hspace, htab, .empty, hspace⟩ isValid_preview
    hlater).2.2.1
  refine ⟨hlead, ⟨hspace, htab, .empty, hspace⟩, isValid_preview, hlater, hmet.trans ?_⟩
  decide

/-! ## Versions that are asked for themselves -/

/-- Versions are told apart by what follows the first `v`, if there is one. -/
theorem isMet_congr {required current current' : String}
    (h : currentText current.toList = currentText current'.toList) :
    isMet required current = isMet required current' := by
  rw [isMet, isMet, h]

theorem currentText_of_not_mem {text : List Char} (h : 'v' ∉ text) : currentText text = text := by
  rw [currentText]
  split
  · next before after hcut =>
    obtain ⟨rfl, -⟩ := Text.cutChar?_eq_some_iff.mp hcut
    simp at h
  · rfl

theorem currentText_append {before after : List Char} (h : 'v' ∉ before) :
    currentText (before ++ 'v' :: after) = after := by
  rw [currentText, Text.cutChar?_eq_some_iff.mpr ⟨rfl, h⟩]

/-- The version asked for may stand alone behind its operator. -/
theorem isMet_sign {v : Version} (hv : v.IsValid) (comparison : Comparison) (current : String) :
    isMet (String.singleton comparison.sign ++ v.text) current =
      ((Version.parseChars (Text.trimBoth Text.isBlank (currentText current.toList))).mapError
        .badCurrent).map (comparison.accepts v) := by
  have hlead : IsLead "" := by
    intro comparison hmem
    simp at hmem
  have hrequired : String.singleton comparison.sign ++ v.text = write "" comparison "" v "" := by
    simp [write]
  rw [hrequired]
  exact isMet_write hlead .empty .empty hv comparison current

/-- What follows a letter in a version is not the text of the version: it is shorter. -/
theorem parseChars_ne_of_append {v : Version} {before after : List Char} {c : Char}
    (h : v.chars = before ++ c :: after) :
    Version.parseChars (Text.trimBoth Text.isBlank after) ≠ .ok v := by
  intro hread
  have hlength := Text.length_trimBoth_le Text.isBlank after
  rw [(Version.parseChars_eq_ok_iff.mp hread).2, h, List.length_append, List.length_cons] at hlength
  omega

/-- A version meets the requirements that ask for it, with its letter and, if that does not occur in
it, without. Otherwise it is taken for what follows the letter in it, which is never the version
itself. -/
theorem version_meets_itself {v : Version} (hv : v.IsValid) (comparison : Comparison) :
    let required := String.singleton comparison.sign ++ v.text
    isMet required ("v" ++ v.text) = .ok true ∧
    ('v' ∉ v.text.toList → isMet required v.text = .ok true) ∧
    (∀ before after, v.text.toList = before ++ 'v' :: after → 'v' ∉ before →
      isMet required v.text = isMet required (String.ofList ('v' :: after))) ∧
    (comparison = .exact → (isMet required v.text = .ok true ↔ 'v' ∉ v.text.toList)) := by
  intro required
  have hchars : v.text.toList = v.chars := String.toList_ofList
  have hmet : ∀ current, isMet required current = _ := isMet_sign hv comparison
  have hself : comparison.accepts v v = true := by
    cases comparison <;> simp [Comparison.accepts]
  have hplain : 'v' ∉ v.text.toList → isMet required v.text = .ok true := by
    intro hnot
    have hread := Version.parseChars_trimBoth hv (List.forall_mem_nil _) (List.forall_mem_nil _)
    rw [List.nil_append, List.append_nil] at hread
    rw [hmet, currentText_of_not_mem hnot, hchars, hread]
    exact congrArg Except.ok hself
  refine ⟨?_, hplain, fun before after heq hbefore => ?_,
    fun hexact => ⟨fun htrue hmem => ?_, hplain⟩⟩
  · have htagged : "v" ++ v.text = tagged "" v "" := by
      rw [tagged, String.append_empty, String.append_empty]
    rw [hmet, htagged, parseChars_tagged .empty .empty hv]
    exact congrArg Except.ok hself
  · have hafter : currentText (String.ofList ('v' :: after)).toList = after := by
      rw [String.toList_ofList]
      exact currentText_append List.not_mem_nil
    refine isMet_congr ?_
    rw [hafter, heq, currentText_append hbefore]
  · obtain ⟨before, after, heq, hbefore⟩ := List.eq_append_cons_of_mem hmem
    have hother := parseChars_ne_of_append (hchars.symm.trans heq)
    rw [hmet, heq, currentText_append hbefore, hexact] at htrue
    cases hactual : Version.parseChars (Text.trimBoth Text.isBlank after) with
    | error e =>
      rw [hactual] at htrue
      cases htrue
    | ok actual =>
      rw [hactual, show Except.map (Comparison.exact.accepts v) _ = .ok _ from rfl,
        Comparison.accepts_exact, Except.ok.injEq, decide_eq_true_eq] at htrue
      exact hother (htrue ▸ hactual)

theorem version_meets_itself_preview : preview.IsValid ∧
    isMet (String.singleton '=' ++ preview.text) ("v" ++ preview.text) = .ok true ∧
    isMet (String.singleton '=' ++ preview.text) preview.text = .ok true := by
  have hmeets := version_meets_itself isValid_preview .exact
  exact ⟨isValid_preview, hmeets.1, hmeets.2.1 (by decide)⟩

/-- A version with the letter in it does not meet the requirement for it, unless the letter stands
before it too. -/
theorem dev_version_misses_itself :
    Version.parse "1.2.3-dev" = .ok ⟨1, 2, 3, "dev".toList, []⟩ ∧
    isMet "=1.2.3-dev" "v1.2.3-dev" = .ok true ∧
    isMet "=1.2.3-dev" "1.2.3-dev" = .error (.badCurrent .empty) := by
  decide

end Requirement

end BuildTool
