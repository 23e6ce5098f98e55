import BuildTool.Proofs.Path.Normal
import BuildTool.Proofs.Script.Writing
import BuildTool.Proofs.Text.Cut
import BuildTool.Requirement
import Mathlib.Data.List.TakeWhile

/-!
# What a script requires

A script declares a requirement on its first line alone: two hash signs, more of them and white
space, then `bygg:` and the requirement. A requirement is met if its first operator has a version
behind it with which the version of the tool compares as that operator asks.

    declared? script = some required     ↔   Declares script required
    isMet required current = ok true     ↔   IsMetBy required current
    check script current = ok ()         ↔   what the script declares is met
-/

namespace BuildTool

namespace Text

/-! ## First lines -/

/-- The first line of a text, without its line feed; a text without one is all first line. -/
def IsFirstLine (line text : List Char) : Prop :=
  '\n' ∉ line ∧ (text = line ∨ ∃ rest, text = line ++ '\n' :: rest)

theorem exists_isFirstLine (text : List Char) : ∃ line, IsFirstLine line text := by
  by_cases h : '\n' ∈ text
  · obtain ⟨line, rest, rfl, hline⟩ := List.eq_append_cons_of_mem h
    exact ⟨line, hline, Or.inr ⟨rest, rfl⟩⟩
  · exact ⟨text, h, Or.inl rfl⟩

/-- The first of the lines is the first line, or the first line without a carriage return. -/
theorem head?_lines {line text : List Char} (h : IsFirstLine line text) (hne : text ≠ []) :
    (lines text).head? = some line ∨ (lines text).head? = some (withoutLineEnd line) := by
  obtain ⟨hline, htext⟩ := h
  have hfeed : ∀ c ∈ line, (c == '\n') = false :=
    fun c hc => beq_false_of_ne fun he => hline (he ▸ hc)
  rcases htext with rfl | ⟨rest, rfl⟩
  · left
    have hsplit : splitChar '\n' text = [text] := by
      rw [splitChar_eq_splitOn, List.splitOn, List.splitOnP_eq_singleton (by simpa using hfeed)]
    obtain ⟨c, text, rfl⟩ := List.exists_cons_of_ne_nil hne
    rw [lines, hsplit]
    rfl
  · right
    have hsplit : splitChar '\n' (line ++ '\n' :: rest) = line :: splitChar '\n' rest := by
      rw [splitChar_eq_splitOn, splitChar_eq_splitOn, List.splitOn,
        List.splitOnP_append_cons_of_forall_mem hfeed _ (beq_self_eq_true _), List.splitOn]
    obtain ⟨piece, pieces, hp⟩ := List.exists_cons_of_ne_nil (splitChar_ne_nil '\n' rest)
    rw [lines, hsplit, hp]
    simp only [List.dropLast_cons_cons, List.map_cons]
    split <;> rfl

end Text

namespace Requirement

/-! ## Declaring a requirement -/

/-- The line asks for a version: two hash signs, and behind all hash signs and white space the word
`bygg:` and the requirement. -/
def IsDirective (line : List Char) (required : String) : Prop :=
  ['#', '#'] <+: line ∧ ∃ marks rest : List Char, line = marks ++ "bygg:".toList ++ rest ∧
    (∀ c ∈ marks, c = '#' ∨ Text.isBlank c = true) ∧
    required = String.ofList (Text.trimBoth Text.isBlank rest)

/-- The first line of the script asks for a version. -/
def Declares (script required : String) : Prop :=
  ∃ line, Text.IsFirstLine line script.toList ∧ IsDirective line required

/-- The requirement in a line, if it asks for a version. -/
def directive? (line : List Char) : Option String := do
  let _ ← Text.dropStart? ['#', '#'] line
  let required ← Text.dropStart? "bygg:".toList
    (line.dropWhile fun c => c == '#' || Text.isBlank c)
  return String.ofList (Text.trimBoth Text.isBlank required)

theorem declared?_eq (script : String) :
    declared? script = (Text.lines script.toList).head?.bind directive? := rfl

theorem directive?_eq_some_iff {line : List Char} {required : String} :
    directive? line = some required ↔ IsDirective line required := by
  have hstart : ∀ {rest : List Char} {c : Char}, ("bygg:".toList ++ rest).head? = some c →
      (c == '#' || Text.isBlank c) = false := by
    intro rest c hc
    cases hc
    decide
  simp only [directive?, Option.bind_eq_bind, Option.bind_eq_some_iff, Text.dropStart?_eq_some_iff,
    Option.pure_def, Option.some.injEq]
  constructor
  · rintro ⟨tail, htail, rest, hrest, rfl⟩
    refine ⟨⟨tail, htail.symm⟩, line.takeWhile fun c => c == '#' || Text.isBlank c, rest, ?_, ?_,
      rfl⟩
    · rw [List.append_assoc, ← hrest, List.takeWhile_append_dropWhile]
    · intro c hc
      simpa using List.mem_takeWhile_imp hc
  · rintro ⟨⟨tail, htail⟩, marks, rest, rfl, hmarks, rfl⟩
    refine ⟨tail, htail.symm, rest, ?_, rfl⟩
    rw [List.append_assoc]
    exact Text.dropWhile_append_eq (by simpa using hmarks) fun c hc => hstart hc

/-- A carriage return at the end of a line does not count. -/
theorem isDirective_withoutLineEnd {line : List Char} {required : String} :
    IsDirective (Text.withoutLineEnd line) required ↔ IsDirective line required := by
  have hreturn : Text.isBlank '\r' = true := by decide
  unfold Text.withoutLineEnd
  split
  · next hlast =>
    obtain ⟨line, rfl⟩ := List.getLast?_eq_some_iff.mp hlast
    rw [List.dropLast_concat]
    constructor
    · rintro ⟨⟨tail, rfl⟩, marks, rest, hrest, hmarks, rfl⟩
      refine ⟨⟨tail ++ ['\r'], by simp⟩, marks, rest ++ ['\r'], ?_, hmarks, ?_⟩
      · rw [hrest, List.append_assoc]
      · rw [Text.trimBoth_append_singleton hreturn]
    · rintro ⟨hstart, marks, rest, hrest, hmarks, rfl⟩
      -- The line ends with the colon or behind it, and a colon is no carriage return.
      obtain ⟨rest, rfl⟩ : ∃ rest', rest = rest' ++ ['\r'] := by
        rcases List.eq_nil_or_concat' rest with rfl | ⟨rest', c, rfl⟩
        · have hcolon : line ++ ['\r'] = (marks ++ "bygg".toList) ++ [':'] := by
            rw [hrest, List.append_nil, List.append_assoc]
            rfl
          cases List.append_inj_right' hcolon rfl
        · rw [← List.append_assoc] at hrest
          cases List.append_inj_right' hrest rfl
          exact ⟨rest', rfl⟩
      rw [← List.append_assoc, List.append_cancel_right_eq] at hrest
      subst hrest
      refine ⟨?_, marks, rest, rfl, hmarks, ?_⟩
      · rcases List.prefix_concat_iff.mp hstart with h | h
        · have hmark : ['#'] ++ ['#'] = _ ++ ['\r'] := h
          cases List.append_inj_right' hmark rfl
        · exact h
      · rw [Text.trimBoth_append_singleton hreturn]
  · rfl

theorem not_isDirective_nil (required : String) : ¬ IsDirective [] required := by
  rintro ⟨h, -⟩
  cases List.prefix_nil.mp h

theorem declared?_eq_some_iff {script required : String} :
    declared? script = some required ↔ Declares script required := by
  have hline : ∀ line, Text.IsFirstLine line script.toList →
      (declared? script = some required ↔ IsDirective line required) := by
    intro line hfirst
    rw [declared?_eq]
    by_cases hne : script.toList = []
    · obtain rfl : line = [] := by
        rcases hfirst.2 with h | ⟨rest, h⟩
        · rw [← h, hne]
        · rw [hne] at h
          simp at h
      rw [hne]
      exact iff_of_false nofun (not_isDirective_nil required)
    · rcases Text.head?_lines hfirst hne with h | h <;>
        rw [h, Option.bind_some, directive?_eq_some_iff]
      exact isDirective_withoutLineEnd
  constructor
  · intro h
    obtain ⟨line, hfirst⟩ := Text.exists_isFirstLine script.toList
    exact ⟨line, hfirst, (hline line hfirst).mp h⟩
  · rintro ⟨line, hfirst, h⟩
    exact (hline line hfirst).mpr h

/-! ## Meeting a requirement -/

/-- The version `current` meets the requirement: what stands behind the first operator is a version,
and the current one will do where it is asked for. -/
def IsMetBy (required current : String) : Prop :=
  ∃ (before : List Char) (sign : Char) (wantedText : List Char) (comparison : Comparison)
    (wanted actual : Version),
    required.toList = before ++ sign :: wantedText ∧
      (∀ c ∈ before, Comparison.ofChar? c = none) ∧
      Comparison.ofChar? sign = some comparison ∧
      Version.parseChars (Text.trimBoth Text.isBlank wantedText) = .ok wanted ∧
      Version.parseChars (Text.trimBoth Text.isBlank (currentText current.toList)) = .ok actual ∧
      comparison.accepts wanted actual = true

theorem operator?_eq_some_iff {text rest : List Char} {comparison : Comparison} :
    operator? text = some (comparison, rest) ↔ ∃ before sign, text = before ++ sign :: rest ∧
      (∀ c ∈ before, Comparison.ofChar? c = none) ∧ Comparison.ofChar? sign = some comparison := by
  induction text with
  | nil => simp [operator?]
  | cons c text ih =>
    rw [operator?]
    rcases hc : Comparison.ofChar? c with _ | found
    · simp only [ih]
      constructor
      · rintro ⟨before, sign, rfl, hbefore, hsign⟩
        exact ⟨c :: before, sign, rfl, List.forall_mem_cons.mpr ⟨hc, hbefore⟩, hsign⟩
      · rintro ⟨before, sign, htext, hbefore, hsign⟩
        cases before with
        | nil =>
          cases htext
          rw [hc] at hsign
          cases hsign
        | cons b before =>
          cases htext
          exact ⟨before, sign, rfl, (List.forall_mem_cons.mp hbefore).2, hsign⟩
    · simp only [Option.some.injEq, Prod.mk.injEq]
      constructor
      · rintro ⟨rfl, rfl⟩
        exact ⟨[], c, rfl, nofun, hc⟩
      · rintro ⟨before, sign, htext, hbefore, hsign⟩
        cases before with
        | nil =>
          cases htext
          rw [hc] at hsign
          cases hsign
          exact ⟨rfl, rfl⟩
        | cons b before =>
          cases htext
          rw [(List.forall_mem_cons.mp hbefore).1] at hc
          cases hc

theorem isMet_eq_ok_true_iff {required current : String} :
    isMet required current = .ok true ↔ IsMetBy required current := by
  unfold isMet IsMetBy
  constructor
  · intro h
    split at h
    · cases h
    · next comparison wantedText hop =>
      split at h
      · cases h
      · next wanted hwanted =>
        split at h
        · cases h
        · next actual hactual =>
          obtain ⟨before, sign, htext, hbefore, hsign⟩ := operator?_eq_some_iff.mp hop
          exact ⟨before, sign, wantedText, comparison, wanted, actual, htext, hbefore, hsign,
            hwanted, hactual, Except.ok.inj h⟩
  · rintro ⟨before, sign, wantedText, comparison, wanted, actual, htext, hbefore, hsign, hwanted,
      hactual, haccepts⟩
    rw [operator?_eq_some_iff.mpr ⟨before, sign, htext, hbefore, hsign⟩]
    simp only [hwanted, hactual, haccepts]

/-- A script passes if the requirement that it declares, if it does, is met. -/
theorem check_eq_ok_iff {script current : String} :
    check script current = .ok () ↔
      ∀ required, Declares script required → IsMetBy required current := by
  unfold check
  split
  · next h =>
    refine iff_of_true rfl fun required hdeclares => ?_
    rw [declared?_eq_some_iff.mpr hdeclares] at h
    cases h
  · next required h =>
    have honly : (∀ r, Declares script r → IsMetBy r current) ↔ IsMetBy required current := by
      constructor
      · intro hmet
        exact hmet required (declared?_eq_some_iff.mp h)
      · intro hmet r hr
        rw [← declared?_eq_some_iff, h] at hr
        cases hr
        exact hmet
    rw [honly, ← isMet_eq_ok_true_iff]
    split <;> simp_all

end Requirement

end BuildTool
