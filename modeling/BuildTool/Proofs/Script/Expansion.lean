import BuildTool.Proofs.Script.Assignment
import BuildTool.Reference

/-!
# References and what is put in their place

Which texts behind a dollar sign are references is a matter of three rules (`Refers`), and two more
say what is dropped (`Drops`):

    $ { name }     $ c     $ name          stand for the value of a name
    $ { }          $ {                     for nothing, the second if no brace closes later

Every other dollar sign is text. By these rules a text is taken apart from the left in one way
(`Expands.eq_flatMap`, `expands_flatMap`), and the values of the names are put in; a value that comes
in is not looked at again, since the rules go on behind the reference.

    Expands lookup text out  ↔  substitute lookup text = out
-/

namespace BuildTool.Reference

/-! ## The rules -/

/-- The characters behind a dollar sign begin with a reference to the name, and others follow: the
name stands in braces, is one special character, or goes as far as there are characters of a word
and begins with no digit. -/
inductive Refers : List Char → List Char → List Char → Prop
  | braced {name rest : List Char} : name ≠ [] → '}' ∉ name →
      Refers ('{' :: (name ++ '}' :: rest)) name rest
  | special {c : Char} {rest : List Char} :
      c ∈ ['*', '#', '$', '@', '!', '?', '-'] ∨ c.isDigit = true → Refers (c :: rest) [c] rest
  | bare {name rest : List Char} : name ≠ [] →
      (∀ c ∈ name, c.isAlphanum = true ∨ c = '_') →
      (∀ c, name.head? = some c → c.isDigit = false) →
      (∀ c, rest.head? = some c → c.isAlphanum = false ∧ c ≠ '_') → Refers (name ++ rest) name rest

/-- The characters behind a dollar sign begin with something that is dropped with it, and others
follow. -/
inductive Drops : List Char → List Char → Prop
  | noName {rest : List Char} : Drops ('{' :: '}' :: rest) rest
  | unclosed {rest : List Char} : '}' ∉ rest → Drops ('{' :: rest) rest

/-- Taken apart from the left, the text becomes this if the value of every name is put in. -/
inductive Expands (lookup : String → String) : List Char → List Char → Prop
  | nil : Expands lookup [] []
  | char {c : Char} {text out : List Char} : c ≠ '$' → Expands lookup text out →
      Expands lookup (c :: text) (c :: out)
  | reference {text name rest out : List Char} : Refers text name rest → Expands lookup rest out →
      Expands lookup ('$' :: text) ((lookup (.ofList name)).toList ++ out)
  | dropped {text rest out : List Char} : Drops text rest → Expands lookup rest out →
      Expands lookup ('$' :: text) out
  | dollar {text out : List Char} : (∀ name rest, ¬ Refers text name rest) →
      (∀ rest, ¬ Drops text rest) → Expands lookup text out →
      Expands lookup ('$' :: text) ('$' :: out)

/-! ## What stands behind a dollar sign -/

theorem isNameChar_iff {c : Char} : isNameChar c = true ↔ c.isAlphanum = true ∨ c = '_' := by
  simp [isNameChar]

theorem isNameChar_eq_false_iff {c : Char} :
    isNameChar c = false ↔ c.isAlphanum = false ∧ c ≠ '_' := by
  simp [isNameChar]

theorem isSpecial_iff {c : Char} :
    isSpecial c = true ↔ c ∈ ['*', '#', '$', '@', '!', '?', '-'] ∨ c.isDigit = true := by
  simp [isSpecial, or_assoc]

theorem opening_closed {name : List Char} (h : '}' ∉ name) (rest : List Char) :
    opening ('{' :: (name ++ '}' :: rest)) =
      if name = [] then .dropped rest else .name name rest := by
  unfold opening
  simp only [Text.cutChar?_append h]
  cases name <;> rfl

theorem opening_unclosed {rest : List Char} (h : '}' ∉ rest) :
    opening ('{' :: rest) = .dropped rest := by
  unfold opening
  simp only [Text.cutChar?_eq_none h]

theorem opening_special {c : Char} (h : isSpecial c = true) (rest : List Char) :
    opening (c :: rest) = .name [c] rest := by
  have hc : c ≠ '{' := by
    rintro rfl
    cases h
  unfold opening
  split
  · next he => cases he
  · next he => exact absurd (List.cons.inj he).1 hc
  · next he =>
    cases he
    rw [if_pos h]

/-- Without a brace and a special character, the name is what there is of characters of a word. -/
theorem opening_bare {name rest : List Char} (hname : ∀ c ∈ name, isNameChar c = true)
    (hend : ∀ c, rest.head? = some c → isNameChar c = false)
    (hfirst : ∀ c, (name ++ rest).head? = some c → c ≠ '{' ∧ isSpecial c = false) :
    opening (name ++ rest) = if name = [] then .literal else .name name rest := by
  have htake := Text.takeWhile_append_eq hname hend
  have hdrop := Text.dropWhile_append_eq hname hend
  generalize htext : name ++ rest = text at *
  unfold opening
  split
  · have hnil : name = [] := (List.append_eq_nil_iff.mp htext).1
    rw [if_pos hnil]
  · exact absurd rfl (hfirst _ rfl).1
  · next c tail _ =>
    have hspecial := (hfirst c rfl).2
    rw [if_neg (by rw [hspecial]; exact Bool.false_ne_true), htake, hdrop]
    cases name <;> rfl

/-- Nothing but a name can begin with a character of a word that is no digit. -/
theorem of_isNameChar {c : Char} (hword : isNameChar c = true) (hdigit : c.isDigit = false) :
    c ≠ '{' ∧ isSpecial c = false := by
  refine ⟨?_, Bool.eq_false_iff.mpr fun hspecial => ?_⟩
  · rintro rfl
    revert hword
    decide
  · have hsigns : ∀ c ∈ ['*', '#', '$', '@', '!', '?', '-'], isNameChar c = false := by decide
    rcases isSpecial_iff.mp hspecial with hmem | hyes
    · rw [hsigns _ hmem] at hword
      cases hword
    · rw [hdigit] at hyes
      cases hyes

theorem Refers.opening_eq {text name rest : List Char} (h : Refers text name rest) :
    opening text = .name name rest := by
  cases h with
  | braced hne hclosed => rw [opening_closed hclosed, if_neg hne]
  | special hspecial => exact opening_special (isSpecial_iff.mpr hspecial) rest
  | bare hne hname hdigit hend =>
    have hchars : ∀ c ∈ name, isNameChar c = true := fun c hc => isNameChar_iff.mpr (hname c hc)
    have hother : ∀ c, rest.head? = some c → isNameChar c = false :=
      fun c hc => isNameChar_eq_false_iff.mpr (hend c hc)
    have hfirst : ∀ c, (name ++ rest).head? = some c → c ≠ '{' ∧ isSpecial c = false := by
      intro c hc
      obtain ⟨first, tail, rfl⟩ := List.exists_cons_of_ne_nil hne
      cases hc
      exact of_isNameChar (hchars _ List.mem_cons_self) (hdigit _ rfl)
    rw [opening_bare hchars hother hfirst, if_neg hne]

theorem Drops.opening_eq {text rest : List Char} (h : Drops text rest) :
    opening text = .dropped rest := by
  cases h with
  | noName => exact opening_closed List.not_mem_nil rest
  | unclosed hopen => exact opening_unclosed hopen

/-- A character of a word that is no special one begins a name. -/
theorem refers_word {c : Char} {tail : List Char} (hword : isNameChar c = true)
    (hspecial : ¬ isSpecial c = true) :
    Refers (c :: tail) ((c :: tail).takeWhile isNameChar) ((c :: tail).dropWhile isNameChar) := by
  have hstart : (c :: tail).takeWhile isNameChar = c :: tail.takeWhile isNameChar :=
    List.takeWhile_cons_of_pos hword
  have hname : ∀ d ∈ (c :: tail).takeWhile isNameChar, d.isAlphanum = true ∨ d = '_' :=
    fun d hd => isNameChar_iff.mp (List.all_eq_true.mp List.all_takeWhile d hd)
  have hdigit : ∀ d, ((c :: tail).takeWhile isNameChar).head? = some d → d.isDigit = false := by
    intro d hd
    rw [hstart] at hd
    cases hd
    exact Bool.eq_false_iff.mpr fun h => hspecial (isSpecial_iff.mpr (.inr h))
  have hend : ∀ d, ((c :: tail).dropWhile isNameChar).head? = some d →
      d.isAlphanum = false ∧ d ≠ '_' := by
    intro d hd
    have hnot := List.head?_dropWhile_not isNameChar (c :: tail)
    rw [hd] at hnot
    exact isNameChar_eq_false_iff.mp hnot
  have hrefers := Refers.bare (by rw [hstart]; exact List.cons_ne_nil _ _) hname hdigit hend
  rwa [List.takeWhile_append_dropWhile] at hrefers

/-- Behind a dollar sign there is a reference, or something to drop, or neither, and then the first
character opens nothing. -/
theorem refers_or_drops (text : List Char) :
    (∃ name rest, Refers text name rest) ∨ (∃ rest, Drops text rest) ∨
      ∀ c, text.head? = some c → c ≠ '{' ∧ isSpecial c = false ∧ isNameChar c = false := by
  cases text with
  | nil => exact .inr (.inr fun c hc => nomatch hc)
  | cons c tail =>
    by_cases hbrace : c = '{'
    · subst hbrace
      by_cases hclosed : '}' ∈ tail
      · obtain ⟨name, rest, rfl, hname⟩ := List.eq_append_cons_of_mem hclosed
        by_cases hne : name = []
        · subst hne
          exact .inr (.inl ⟨rest, .noName⟩)
        · exact .inl ⟨name, rest, .braced hne hname⟩
      · exact .inr (.inl ⟨tail, .unclosed hclosed⟩)
    · by_cases hspecial : isSpecial c = true
      · exact .inl ⟨[c], tail, .special (isSpecial_iff.mp hspecial)⟩
      · by_cases hword : isNameChar c = true
        · exact .inl ⟨_, _, refers_word hword hspecial⟩
        · refine .inr (.inr fun d hd => ?_)
          cases hd
          exact ⟨hbrace, Bool.eq_false_iff.mpr hspecial, Bool.eq_false_iff.mpr hword⟩

theorem opening_literal {text : List Char}
    (h : ∀ c, text.head? = some c → c ≠ '{' ∧ isSpecial c = false ∧ isNameChar c = false) :
    opening text = .literal := by
  have hnoName : opening ([] ++ text) = .literal :=
    opening_bare (fun _ hc => nomatch hc) (fun c hc => (h c hc).2.2)
      fun c hc => ⟨(h c hc).1, (h c hc).2.1⟩
  exact hnoName

/-- Each of the three things that can stand behind a dollar sign is what is read there. -/
theorem opening_cases (text : List Char) :
    (∃ name rest, Refers text name rest ∧ opening text = .name name rest) ∨
      (∃ rest, Drops text rest ∧ opening text = .dropped rest) ∨
      (∀ name rest, ¬ Refers text name rest) ∧ (∀ rest, ¬ Drops text rest) ∧
        opening text = .literal := by
  rcases refers_or_drops text with ⟨name, rest, h⟩ | ⟨rest, h⟩ | hneither
  · exact .inl ⟨name, rest, h, h.opening_eq⟩
  · exact .inr (.inl ⟨rest, h, h.opening_eq⟩)
  · have hliteral := opening_literal hneither
    refine .inr (.inr ⟨fun name rest h => ?_, fun rest h => ?_, hliteral⟩)
    · have hname := h.opening_eq
      rw [hliteral] at hname
      cases hname
    · have hdropped := h.opening_eq
      rw [hliteral] at hdropped
      cases hdropped

/-! ## Texts taken apart -/

section

variable {text name after : List Char}

theorem pieces_of_name (h : opening text = .name name after) :
    pieces ('$' :: text) = .reference name :: pieces after := by
  rw [pieces, if_pos rfl]
  split
  · next he =>
    rw [h] at he
    cases he
    rfl
  · next he => rw [h] at he; cases he
  · next he => rw [h] at he; cases he

theorem pieces_of_dropped (h : opening text = .dropped after) :
    pieces ('$' :: text) = pieces after := by
  rw [pieces, if_pos rfl]
  split
  · next he => rw [h] at he; cases he
  · next he =>
    rw [h] at he
    cases he
    rfl
  · next he => rw [h] at he; cases he

theorem pieces_of_literal (h : opening text = .literal) :
    pieces ('$' :: text) = .char '$' :: pieces text := by
  rw [pieces, if_pos rfl]
  split
  · next he => rw [h] at he; cases he
  · next he => rw [h] at he; cases he
  · rfl

theorem pieces_of_char {c : Char} (h : c ≠ '$') : pieces (c :: text) = .char c :: pieces text := by
  rw [pieces, if_neg h]

end

/-- What is put out for a piece. -/
def valueOf (lookup : String → String) : Piece → List Char
  | .char c => [c]
  | .reference name => (lookup (.ofList name)).toList

section

variable {lookup : String → String}

theorem Expands.eq_flatMap {text out : List Char} (h : Expands lookup text out) :
    out = (pieces text).flatMap (valueOf lookup) := by
  induction h with
  | nil => rw [pieces, List.flatMap_nil]
  | char hc _ ih =>
    rw [pieces_of_char hc, List.flatMap_cons, ← ih]
    rfl
  | reference hrefers _ ih =>
    rw [pieces_of_name hrefers.opening_eq, List.flatMap_cons, ← ih, valueOf]
  | dropped hdrops _ ih => rw [pieces_of_dropped hdrops.opening_eq, ← ih]
  | @dollar text _ hrefers hdrops _ ih =>
    have hliteral : opening text = .literal := by
      rcases opening_cases text with ⟨name, rest, h, -⟩ | ⟨rest, h, -⟩ | ⟨-, -, h⟩
      · exact absurd h (hrefers name rest)
      · exact absurd h (hdrops rest)
      · exact h
    rw [pieces_of_literal hliteral, List.flatMap_cons, ← ih]
    rfl

/-- By induction on the length, since a reference is behind the dollar sign as a whole. -/
theorem expands_flatMap (lookup : String → String) (text : List Char) :
    Expands lookup text ((pieces text).flatMap (valueOf lookup)) := by
  induction hlength : text.length using Nat.strongRecOn generalizing text with
  | ind length ih =>
    cases text with
    | nil =>
      rw [pieces]
      exact .nil
    | cons c text =>
      have hnext : ∀ rest : List Char, rest.length ≤ text.length →
          Expands lookup rest ((pieces rest).flatMap (valueOf lookup)) := by
        intro rest h
        have hless : rest.length < length := by
          rw [← hlength, List.length_cons]
          omega
        exact ih rest.length hless rest rfl
      by_cases hc : c = '$'
      · subst hc
        have hshorter := length_opening_rest_le text
        rcases opening_cases text with ⟨name, rest, h, he⟩ | ⟨rest, h, he⟩ | ⟨hrefers, hdrops, he⟩
        · rw [he, Opening.rest] at hshorter
          rw [pieces_of_name he]
          exact .reference h (hnext rest hshorter)
        · rw [he, Opening.rest] at hshorter
          rw [pieces_of_dropped he]
          exact .dropped h (hnext rest hshorter)
        · rw [pieces_of_literal he]
          exact .dollar hrefers hdrops (hnext text (Nat.le_refl _))
      · rw [pieces_of_char hc]
        exact .char hc (hnext text (Nat.le_refl _))

end

/-- Whatever the names stand for, a text has one result by the rules, and that is what comes out. -/
theorem substitute_follows_rules (lookup : String → String) (text out : String) :
    Expands lookup text.toList out.toList ↔ substitute lookup text = out := by
  have hsubstitute : substitute lookup text =
      .ofList ((pieces text.toList).flatMap (valueOf lookup)) := by
    refine congrArg String.ofList (List.flatMap_congr fun piece _ => ?_)
    cases piece <;> rfl
  rw [hsubstitute]
  constructor
  · intro h
    rw [← h.eq_flatMap, String.ofList_toList]
  · rintro rfl
    rw [String.toList_ofList]
    exact expands_flatMap lookup text.toList

end BuildTool.Reference
