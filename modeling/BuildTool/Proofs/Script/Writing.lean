import BuildTool.Proofs.Text.Blank
import BuildTool.Proofs.Text.Cut
import BuildTool.Script
import Mathlib.Data.List.Basic

/-!
# Statements as they are written

A statement that is written down is read as what it says: the left side ends where its characters
do, spaces and tabs around the operator do not count, and the right side is all that follows.

    ofLine (write left gap operator gap' right)  =  relate left operator right

What has no dollar sign in it is not changed by replacing references.
-/

namespace BuildTool

variable {σ : Type}

/-! ## Operators -/

theorem Operator.read?_symbol (operator : Operator) (rest : List Char) :
    read? (operator.symbol ++ rest) = some (operator, rest) := by
  cases operator <;> simp [read?, all, symbol, Text.dropStart?]

namespace Statement

/-! ## Sides and gaps -/

/-- A text that can stand on the left side of a statement. -/
structure IsLeft (left : String) : Prop where
  ne_nil : left.toList ≠ []
  chars : ∀ c ∈ left.toList, isNameChar c = true

/-- Spaces and tabs, or nothing. -/
def IsGap (gap : String) : Prop := ∀ c ∈ gap.toList, isIndent c = true

/-- A text that is read as it stands on the right side of a statement. -/
structure IsRight (right : String) : Prop where
  starts : ∀ c, right.toList.head? = some c → Text.isBlank c = false
  oneLine : '\n' ∉ right.toList

def write (left gap : String) (operator : Operator) (gap' right : String) : String :=
  left ++ gap ++ String.ofList operator.symbol ++ gap' ++ right

theorem isBlank_of_isIndent {c : Char} (h : isIndent c = true) : Text.isBlank c = true := by
  rcases Bool.or_eq_true _ _ |>.mp h with he | he <;> rw [eq_of_beq he] <;> decide

/-- White space does not occur in names. -/
theorem isNameChar_of_isBlank {c : Char} (h : Text.isBlank c = true) : isNameChar c = false := by
  have hsign : ∀ sign, Text.isBlank sign = false → (c == sign) = false := by
    rintro sign hsign
    refine beq_false_of_ne fun he => ?_
    rw [he, hsign] at h
    cases h
  simp only [isNameChar, Text.isWord_of_isBlank h, hsign '.' (by decide), hsign '_' (by decide),
    hsign '-' (by decide), hsign '/' (by decide), hsign '$' (by decide), hsign '{' (by decide),
    hsign '}' (by decide), Bool.or_false]

/-- An operator begins with neither a character of names nor a blank. -/
theorem not_of_mem_head?_symbol {operator : Operator} {rest : List Char} {c : Char}
    (h : (operator.symbol ++ rest).head? = some c) :
    isNameChar c = false ∧ Text.isBlank c = false := by
  cases operator <;> (cases h; decide)

section

variable {left gap gap' right : String} (operator : Operator)

/-- After its left side comes the rest of a statement. -/
theorem head?_gap (hgap : ∀ c ∈ gap.toList, Text.isBlank c = true) {operator : Operator}
    {rest : List Char} {c : Char}
    (h : (gap.toList ++ (operator.symbol ++ rest)).head? = some c) : isNameChar c = false := by
  cases hl : gap.toList with
  | nil =>
    rw [hl] at h
    exact (not_of_mem_head?_symbol h).1
  | cons first gap' =>
    rw [hl] at h
    cases h
    exact isNameChar_of_isBlank (hgap c (hl ▸ List.mem_cons_self))

/-- A statement is read as what it says, whatever white space stands around the operator. -/
theorem relate?_write (hleft : IsLeft left) (hgap : ∀ c ∈ gap.toList, Text.isBlank c = true)
    (hgap' : ∀ c ∈ gap'.toList, Text.isBlank c = true) (hright : IsRight right) :
    relate? (write left gap operator gap' right).toList = some (.relate left operator right) := by
  have hline : (write left gap operator gap' right).toList =
      left.toList ++ (gap.toList ++ (operator.symbol ++ (gap'.toList ++ right.toList))) := by
    simp [write]
  have hfeed : right.toList.contains '\n' = false := by
    simpa using hright.oneLine
  rw [hline, relate?, Text.takeWhile_append_eq hleft.chars fun c => head?_gap hgap,
    Text.dropWhile_append_eq hleft.chars fun c => head?_gap hgap, if_neg hleft.ne_nil,
    Text.dropWhile_append_eq hgap fun c h => (not_of_mem_head?_symbol h).2,
    Operator.read?_symbol]
  simp only [Text.dropWhile_append_eq hgap' hright.starts, hfeed]
  simp

/-- A statement that is written down is read as what it says. -/
theorem ofLine_write (hleft : IsLeft left) (hgap : IsGap gap) (hgap' : IsGap gap')
    (hright : IsRight right) :
    ofLine (write left gap operator gap' right) = .ok (.relate left operator right) := by
  obtain ⟨first, rest, hl⟩ := List.exists_cons_of_ne_nil hleft.ne_nil
  have hline : ∃ tail, (write left gap operator gap' right).toList = first :: tail := by
    simp [write, hl]
  obtain ⟨tail, hline⟩ := hline
  have hname : isNameChar first = true := hleft.chars first (hl ▸ List.mem_cons_self)
  have hindent : isIndent first = false := by
    refine Bool.eq_false_iff.mpr fun h => ?_
    rw [isNameChar_of_isBlank (isBlank_of_isIndent h)] at hname
    cases hname
  have hhash : first ≠ '#' := by
    rintro rfl
    revert hname
    decide
  have hsay : first ≠ '<' := by
    rintro rfl
    revert hname
    decide
  have hrelate := relate?_write operator hleft (fun c hc => isBlank_of_isIndent (hgap c hc))
    (fun c hc => isBlank_of_isIndent (hgap' c hc)) hright
  rw [hline] at hrelate
  rw [ofLine, hline, List.dropWhile_cons_of_neg (by rw [hindent]; exact Bool.false_ne_true)]
  simp [ofChars, hhash, Text.dropStart?, hsay.symm, hrelate]

end

end Statement

/-! ## References -/

theorem Reference.pieces_of_not_mem {text : List Char} (h : '$' ∉ text) :
    pieces text = text.map Piece.char := by
  induction text with
  | nil => rw [pieces, List.map_nil]
  | cons c rest ih =>
    rw [List.mem_cons, not_or] at h
    rw [pieces, if_neg (Ne.symm h.1), ih h.2, List.map_cons]

/-- A text without dollar signs stands for itself. -/
theorem Plan.expand_of_not_mem (plan : Plan) {text : String} (h : '$' ∉ text.toList) :
    plan.expand text = text := by
  rw [expand, BuildTool.expand, Reference.substitute, Reference.pieces_of_not_mem h,
    List.flatMap_map]
  simp

/-! ## Plain names -/

namespace Statement

/-- Letters, digits and other characters of words, points, underscores, hyphens and slashes. -/
def isPlain (c : Char) : Bool :=
  Text.isWord c || c == '.' || c == '_' || c == '-' || c == '/'

/-- A name that is not empty and has no references in it. -/
structure IsPlain (name : String) : Prop where
  ne_nil : name.toList ≠ []
  chars : ∀ c ∈ name.toList, isPlain c = true

theorem IsPlain.isLeft {name : String} (h : IsPlain name) : IsLeft name where
  ne_nil := h.ne_nil
  chars c hc := by
    have := h.chars c hc
    rw [isPlain] at this
    rw [isNameChar, this]
    rfl

theorem IsPlain.not_mem {name : String} (h : IsPlain name) {c : Char} (hc : isPlain c = false) :
    c ∉ name.toList := by
  intro hm
  rw [h.chars c hm] at hc
  cases hc

end Statement

/-! ## Carrying out -/

namespace Script

theorem step_relate {line left right : String} {operator : Operator}
    (hs : Statement.ofLine line = .ok (.relate left operator right)) (print : Printer σ)
    (plan : Plan) (out : σ) :
    step print line (plan, out) =
      let done := plan.relate (plan.expand left) operator (plan.expand right)
      (done.1, done.2, out) := by
  simp only [step, hs]

/-- A statement about a plain name is carried out with its right side expanded. -/
theorem step_write {name gap gap' right : String} (operator : Operator)
    (hname : Statement.IsPlain name) (hgap : Statement.IsGap gap) (hgap' : Statement.IsGap gap')
    (hright : Statement.IsRight right) (print : Printer σ) (plan : Plan) (out : σ) :
    step print (Statement.write name gap operator gap' right) (plan, out) =
      let done := plan.relate name operator (plan.expand right)
      (done.1, done.2, out) := by
  rw [step_relate (Statement.ofLine_write operator hname.isLeft hgap hgap' hright),
    plan.expand_of_not_mem (hname.not_mem (by decide))]

end Script

end BuildTool
