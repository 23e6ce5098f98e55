import BuildTool.Proofs.Script.Failure
import BuildTool.Proofs.Script.Writing
import BuildTool.Proofs.Text.Cut
import Mathlib.Data.List.TakeWhile

/-!
# The grammar of statements

A statement is what can be written with a name, an operator and a text, with white space around
the operator; the text may begin with white space as well, so that the parts are not always
determined. They are if the white space in front of the text counts as much as possible:

    name  gap  operator  gap'  text       text does not begin with white space

A line that is neither empty nor a comment nor a message is read as these parts
(`Parts.Make.relate?_eq`), and is refused exactly if it has none (`relate?_eq_none_iff`).
-/

namespace BuildTool

variable {σ : Type}

/-- What is left of a text begins with something else than what was dropped. -/
theorem Text.of_head?_dropWhile {p : Char → Bool} {s : List Char} {c : Char}
    (h : (s.dropWhile p).head? = some c) : p c = false := by
  have hhead := List.head?_dropWhile_not p s
  rw [h] at hhead
  exact hhead

theorem Operator.read?_eq_some_iff {operator : Operator} {text rest : List Char} :
    read? text = some (operator, rest) ↔ text = operator.symbol ++ rest := by
  constructor
  · intro h
    obtain ⟨o, -, ho⟩ := List.exists_of_findSome?_eq_some h
    obtain ⟨rest', hrest, he⟩ := Option.map_eq_some_iff.mp ho
    cases he
    exact Text.dropStart?_eq_some_iff.mp hrest
  · rintro rfl
    exact read?_symbol operator rest

namespace Statement

/-! ## Parts of a line -/

/-- The two sides of a statement, its operator and the white space around that. -/
@[ext] structure Parts where
  left : String
  gap : String
  operator : Operator
  gap' : String
  right : String

namespace Parts

variable {p q : Parts} {line : String}

/-- The line is a statement with these parts. -/
structure Make (p : Parts) (line : String) : Prop where
  line_eq : line = write p.left p.gap p.operator p.gap' p.right
  left : IsLeft p.left
  gap : ∀ c ∈ p.gap.toList, Text.isBlank c = true
  gap' : ∀ c ∈ p.gap'.toList, Text.isBlank c = true
  oneLine : '\n' ∉ p.right.toList

/-- The white space in front of the right side does not belong to it. -/
def IsTight (p : Parts) : Prop := ∀ c, p.right.toList.head? = some c → Text.isBlank c = false

/-- White space can be taken from the right side. -/
theorem Make.exists_isTight (h : p.Make line) : ∃ q : Parts, q.Make line ∧ q.IsTight := by
  let blanks := p.right.toList.takeWhile Text.isBlank
  let rest := p.right.toList.dropWhile Text.isBlank
  have hright : p.right.toList = blanks ++ rest := List.takeWhile_append_dropWhile.symm
  refine ⟨{ p with gap' := p.gap' ++ .ofList blanks, right := .ofList rest }, ⟨?_, h.left, h.gap,
    ?_, ?_⟩, ?_⟩
  · rw [h.line_eq]
    apply String.toList_inj.mp
    simp [write, hright]
  · intro c hc
    rw [String.toList_append, String.toList_ofList, List.mem_append] at hc
    rcases hc with hc | hc
    · exact h.gap' c hc
    · exact List.mem_takeWhile_imp hc
  · intro hfeed
    rw [String.toList_ofList] at hfeed
    exact h.oneLine (hright ▸ List.mem_append_right blanks hfeed)
  · intro c hc
    rw [String.toList_ofList] at hc
    exact Text.of_head?_dropWhile hc

/-- A line is read as its parts, with as little on the right side as there can be. -/
theorem Make.relate?_eq (h : p.Make line) (ht : p.IsTight) :
    relate? line.toList = some (.relate p.left p.operator p.right) := by
  rw [h.line_eq]
  exact relate?_write p.operator h.left h.gap h.gap' ⟨ht, h.oneLine⟩

/-- There is one way only to take a line apart. -/
theorem Make.unique (h : p.Make line) (ht : p.IsTight) (h' : q.Make line) (ht' : q.IsTight) :
    p = q := by
  have hread := (h.relate?_eq ht).symm.trans (h'.relate?_eq ht')
  obtain ⟨hleft, hoperator, hright⟩ :
      p.left = q.left ∧ p.operator = q.operator ∧ p.right = q.right := by
    simpa using hread
  have hline := congrArg String.toList (h.line_eq.symm.trans h'.line_eq)
  simp only [write, String.toList_append, String.toList_ofList, List.append_assoc, hleft,
    hoperator, hright, List.append_cancel_left_eq] at hline
  have hgap : p.gap.toList = q.gap.toList := by
    have hstart : ∀ rest c, (q.operator.symbol ++ rest).head? = some c → Text.isBlank c = false :=
      fun rest c hc => (not_of_mem_head?_symbol hc).2
    rw [← Text.takeWhile_append_eq h.gap (hstart _), hline, Text.takeWhile_append_eq h'.gap (hstart _)]
  rw [hgap, List.append_cancel_left_eq, List.append_cancel_left_eq, List.append_cancel_right_eq]
    at hline
  exact Parts.ext hleft (String.toList_inj.mp hgap) hoperator (String.toList_inj.mp hline) hright

end Parts

/-! ## Reading parts -/

/-- What is read are parts of the line. -/
theorem exists_parts_of_relate? {line : String} {statement : Statement}
    (h : relate? line.toList = some statement) : ∃ p : Parts, p.Make line := by
  simp only [relate?] at h
  split at h
  · cases h
  · next hleft =>
    split at h
    · cases h
    · next operator rest hop =>
      split at h
      · cases h
      · next hfeed =>
        have hrest := Operator.read?_eq_some_iff.mp hop
        let name := line.toList.takeWhile isNameChar
        let gap := (line.toList.dropWhile isNameChar).takeWhile Text.isBlank
        let gap' := rest.takeWhile Text.isBlank
        let right := rest.dropWhile Text.isBlank
        have hline : line.toList = name ++ (gap ++ (operator.symbol ++ (gap' ++ right))) := by
          rw [List.takeWhile_append_dropWhile, ← hrest, List.takeWhile_append_dropWhile,
            List.takeWhile_append_dropWhile]
        refine ⟨⟨.ofList name, .ofList gap, operator, .ofList gap', .ofList right⟩, ?_, ?_, ?_, ?_,
          ?_⟩
        · apply String.toList_inj.mp
          simp [write, hline]
        · refine ⟨by simpa [name] using hleft, fun c hc => ?_⟩
          rw [String.toList_ofList] at hc
          exact List.mem_takeWhile_imp hc
        · intro c hc
          rw [String.toList_ofList] at hc
          exact List.mem_takeWhile_imp hc
        · intro c hc
          rw [String.toList_ofList] at hc
          exact List.mem_takeWhile_imp hc
        · simpa [right] using hfeed

/-- A line is read as a statement if it has parts, whatever white space its text begins with. -/
theorem relate?_eq_none_iff {line : String} :
    relate? line.toList = none ↔ ¬ ∃ p : Parts, p.Make line := by
  constructor
  · rintro hnone ⟨p, hp⟩
    obtain ⟨q, hq, ht⟩ := hp.exists_isTight
    rw [hq.relate?_eq ht] at hnone
    cases hnone
  · intro hparts
    refine Option.eq_none_iff_forall_ne_some.mpr fun statement h => ?_
    exact hparts (exists_parts_of_relate? h)

/-! ## Lines that are read so -/

/-- What stands on a line behind the spaces and tabs that it begins with. -/
def unindented (line : String) : String := String.ofList (line.toList.dropWhile isIndent)

/-- The text is neither empty nor a comment nor a message, so that it can only be a statement with
two sides. -/
structure MustRelate (text : String) : Prop where
  ne_empty : text ≠ ""
  no_comment : text.toList.head? ≠ some '#'
  no_message : ¬ ['<', '<'] <+: text.toList

theorem ofLine_eq (line : String) : ofLine line = ofChars (unindented line).toList := by
  rw [unindented, String.toList_ofList, ofLine]

theorem MustRelate.ofLine_eq {line : String} (h : MustRelate (unindented line)) :
    ofLine line = match relate? (unindented line).toList with
      | some statement => .ok statement
      | none => .error (.badStatement (unindented line)) := by
  have hne : (unindented line).toList ≠ [] := fun he => h.ne_empty (String.toList_eq_nil_iff.mp he)
  have hmessage : Text.dropStart? ['<', '<'] (unindented line).toList = none := by
    refine Option.eq_none_iff_forall_ne_some.mpr fun rest hrest => h.no_message ⟨rest, ?_⟩
    exact (Text.dropStart?_eq_some_iff.mp hrest).symm
  rw [Statement.ofLine_eq, ofChars, if_neg hne, if_neg h.no_comment, hmessage]
  cases relate? (unindented line).toList <;> simp

theorem mustRelate_of_ofLine_error {line : String} {fault : ParseFault}
    (h : ofLine line = .error fault) : MustRelate (unindented line) := by
  rw [ofLine_eq, ofChars] at h
  split at h
  · cases h
  · next hne =>
    split at h
    · cases h
    · next hcomment =>
      split at h
      · cases h
      · next hmessage =>
        refine ⟨fun he => hne (by rw [he]; rfl), hcomment, ?_⟩
        rintro ⟨rest, hrest⟩
        rw [← hrest, Text.dropStart?_append] at hmessage
        cases hmessage

end Statement

namespace Script

open Statement

/-- A line is refused as no statement only if it is neither empty nor a comment nor a message, and
then exactly if it is not written with a name, an operator and a text, and white space around the
operator. If it is, there is one way only to take it apart in which the text does not begin with
white space, and what is done is what the operator says about this name and this text, both
expanded. -/
theorem statements_are_read_by_their_parts (print : Printer σ) (line : String) (plan : Plan)
    (out : σ) :
    (∀ fault, ofLine line = .error fault → MustRelate (unindented line)) ∧
      (MustRelate (unindented line) →
        ((∃ number text,
            (step print line (plan, out)).1 = .error (.parse number (.badStatement text))) ↔
          ¬ ∃ p : Parts, p.Make (unindented line)) ∧
        ((¬ ∃ p : Parts, p.Make (unindented line)) → step print line (plan, out) =
          (.error (.parse none (.badStatement (unindented line))), plan, out)) ∧
        ((∃ p : Parts, p.Make (unindented line)) →
          ∃! p : Parts, p.Make (unindented line) ∧ p.IsTight) ∧
        ∀ p : Parts, p.Make (unindented line) → p.IsTight → step print line (plan, out) =
          let done := plan.relate (plan.expand p.left) p.operator (plan.expand p.right)
          (done.1, done.2, out)) := by
  refine ⟨fun _ => mustRelate_of_ofLine_error, fun h => ?_⟩
  have hrefused : (¬ ∃ p : Parts, p.Make (unindented line)) → step print line (plan, out) =
      (.error (.parse none (.badStatement (unindented line))), plan, out) := by
    intro hnone
    have hline : ofLine line = .error (.badStatement (unindented line)) := by
      rw [h.ofLine_eq, relate?_eq_none_iff.mpr hnone]
    simp only [step, hline]
  have hdone : ∀ p : Parts, p.Make (unindented line) → p.IsTight → step print line (plan, out) =
      let done := plan.relate (plan.expand p.left) p.operator (plan.expand p.right)
      (done.1, done.2, out) := by
    intro p hp ht
    have hline : ofLine line = .ok (.relate p.left p.operator p.right) := by
      rw [h.ofLine_eq, hp.relate?_eq ht]
    exact step_relate hline print plan out
  refine ⟨⟨?_, ?_⟩, hrefused, ?_, hdone⟩
  · rintro ⟨number, text, herror⟩ ⟨p, hp⟩
    obtain ⟨q, hq, ht⟩ := hp.exists_isTight
    rw [hdone q hq ht] at herror
    rcases Plan.relate_eq_error herror with ⟨text', he⟩ | ⟨context, he⟩ <;> cases he
  · intro hnone
    exact ⟨none, unindented line, by rw [hrefused hnone]⟩
  · rintro ⟨p, hp⟩
    obtain ⟨q, hq, ht⟩ := hp.exists_isTight
    exact ⟨q, ⟨hq, ht⟩, fun q' hq' => hq'.1.unique hq'.2 hq ht⟩

/-- By the theorem, a name may end where an operator seems to begin, and the white space behind an
operator may have a line feed in it; an operator with a space in it is none. -/
theorem statements_are_read_by_their_parts_lineFeed :
    let print : Printer Unit := .ofSay fun _ out => .ok out
    let line := "\t a.-<<\u0085\n x = y"
    let p : Parts := ⟨"a.-", "", .message, "\u0085\n ", "x = y"⟩
    let unread := "a.- < - b"
    (MustRelate (unindented line) ∧ p.Make (unindented line) ∧ p.IsTight ∧
      (∃! q : Parts, q.Make (unindented line) ∧ q.IsTight) ∧
      step print line ({}, ()) = (.ok (), ({} : Plan).addCommand "a.-" "<< x = y", ())) ∧
    MustRelate (unindented unread) ∧ (¬ ∃ p : Parts, p.Make (unindented unread)) ∧
      step print unread ({}, ()) = (.error (.parse none (.badStatement unread)), {}, ()) := by
  intro print line p unread
  have hmust : MustRelate (unindented line) :=
    ⟨by decide +kernel, by decide +kernel, by decide +kernel⟩
  have hmake : p.Make (unindented line) :=
    ⟨by decide +kernel, ⟨by decide +kernel, by decide +kernel⟩, by decide +kernel,
      by decide +kernel, by decide +kernel⟩
  have htight : p.IsTight := by
    intro c hc
    have hright : p.right.toList.head? = some 'x' := by decide +kernel
    rw [hright] at hc
    cases hc
    decide
  have hline := (statements_are_read_by_their_parts print line {} ()).2 hmust
  have hunread : MustRelate (unindented unread) :=
    ⟨by decide +kernel, by decide +kernel, by decide +kernel⟩
  have hrefused := (statements_are_read_by_their_parts print unread {} ()).2 hunread
  have hnone : ¬ ∃ p : Parts, p.Make (unindented unread) :=
    hrefused.1.mp ⟨none, unread, by decide +kernel⟩
  refine ⟨⟨hmust, hmake, htight, hline.2.2.1 ⟨p, hmake⟩, ?_⟩, hunread, hnone, ?_⟩
  · rw [hline.2.2.2 p hmake htight]
    decide +kernel
  · rw [hrefused.2.1 hnone]
    decide +kernel

end Script

end BuildTool
