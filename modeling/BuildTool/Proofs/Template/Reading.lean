import BuildTool.Proofs.Text.Cut
import BuildTool.Template.TagReader
import Mathlib.Data.List.TakeWhile

/-!
# What readers take

Outside texts between quotes a tag has letters, digits, blanks and signs only, none of which is a
brace. Every reader takes such text from the front of what it is given:

    Takes s rest    s  =  used ++ rest    with    Inside used

## Sections

* characters of tags and the texts made of them;
* readers of words;
* readers of expressions, by one induction on the fuel;
* readers of what tags hold.
-/

namespace BuildTool.Template

variable {α β : Type}

/-! ## Texts of tags -/

def isQuote (c : Char) : Bool := c == '"' || c == '\x27' || c == '\x60'

/-- A character of a tag outside texts between quotes. -/
def isPlain (c : Char) : Bool :=
  decide (c.toNat < 128) && !isQuote c && c != '\x7b' && c != '\x7d'

/-- What stands in a tag: plain characters and whole texts between quotes. -/
inductive Inside : List Char → Prop
  | nil : Inside []
  | plain {c : Char} {rest : List Char} (hc : isPlain c = true) (h : Inside rest) :
      Inside (c :: rest)
  | quoted {q : Char} {t rest : List Char} (hq : isQuote q = true) (ht : q ∉ t)
      (h : Inside rest) : Inside (q :: (t ++ q :: rest))

theorem Inside.append {s t : List Char} (hs : Inside s) (ht : Inside t) : Inside (s ++ t) := by
  induction hs with
  | nil => exact ht
  | plain hc _ ih => exact .plain hc ih
  | quoted hq hnot _ ih =>
    rw [List.cons_append, List.append_assoc, List.cons_append]
    exact .quoted hq hnot ih

theorem Inside.of_plain {s : List Char} (h : ∀ c ∈ s, isPlain c = true) : Inside s := by
  induction s with
  | nil => exact .nil
  | cons c rest ih =>
    rw [List.forall_mem_cons] at h
    exact .plain h.1 (ih h.2)

theorem isPlain_of_isNameChar {c : Char} (h : isNameChar c = true) : isPlain c = true := by
  have hlt : c.toNat < 128 := by
    have hval : c.toNat = c.val.toNat := rfl
    delta isNameChar Char.isAlphanum Char.isAlpha Char.isUpper Char.isLower Char.isDigit at h
    simp only [Bool.or_eq_true, decide_eq_true_eq, Bool.and_eq_true, beq_iff_eq, ge_iff_le,
      UInt32.le_iff_toNat_le] at h
    rcases h with h | rfl
    · simp at h
      omega
    · decide
  have hne : ∀ d, isNameChar d = false → c ≠ d := by
    rintro d hd rfl
    rw [h] at hd
    cases hd
  simp [isPlain, isQuote, hlt, hne '"' rfl, hne '\x27' rfl, hne '\x60' rfl, hne '\x7b' rfl,
    hne '\x7d' rfl]

theorem isNameChar_of_isDigit {c : Char} (h : c.isDigit = true) : isNameChar c = true := by
  simp [isNameChar, Char.isAlphanum, h]

theorem isNameChar_of_isNameStart {c : Char} (h : isNameStart c = true) :
    isNameChar c = true := by
  simp only [isNameStart, Bool.or_eq_true] at h
  rcases h with h | h <;> simp [isNameChar, Char.isAlphanum, h]

theorem isPlain_of_isSpace {c : Char} (h : isSpace c = true) : isPlain c = true := by
  simp only [isSpace, Bool.or_eq_true, beq_iff_eq] at h
  rcases h with ((rfl | rfl) | rfl) | rfl <;> rfl

/-- A reader has used up text of a tag in front of the rest. -/
def Takes (s rest : List Char) : Prop := ∃ used, s = used ++ rest ∧ Inside used

namespace Takes

variable {s t rest : List Char}

theorem refl (s : List Char) : Takes s s := ⟨[], rfl, .nil⟩

theorem trans (h : Takes s t) (h' : Takes t rest) : Takes s rest := by
  obtain ⟨used, rfl, hused⟩ := h
  obtain ⟨used', rfl, hused'⟩ := h'
  exact ⟨used ++ used', (List.append_assoc ..).symm, hused.append hused'⟩

theorem cons {c : Char} (hc : isPlain c = true) (h : Takes s rest) : Takes (c :: s) rest := by
  obtain ⟨used, rfl, hused⟩ := h
  exact ⟨c :: used, rfl, .plain hc hused⟩

theorem dropWhile {p : Char → Bool} (hp : ∀ c, p c = true → isPlain c = true) (s : List Char) :
    Takes s (s.dropWhile p) :=
  ⟨s.takeWhile p, List.takeWhile_append_dropWhile.symm,
    .of_plain fun c hc => hp c (List.mem_takeWhile_imp hc)⟩

theorem skip (s : List Char) : Takes s (skip s) := dropWhile (fun _ => isPlain_of_isSpace) s

theorem of_skip (h : Takes (Template.skip s) rest) : Takes s rest := (skip s).trans h

theorem skipSome? (h : skipSome? s = some rest) : Takes s rest := by
  cases s with
  | nil => cases h
  | cons c s =>
    rw [Template.skipSome?] at h
    split at h
    · next hc =>
      cases h
      exact .cons (isPlain_of_isSpace hc) (skip s)
    · cases h

theorem dropTaken {p : Char → Bool} (hp : ∀ c, p c = true → isPlain c = true) (s : List Char) :
    Takes s (s.drop (s.takeWhile p).length) :=
  ⟨s.takeWhile p, (List.prefix_iff_eq_append.1 (List.takeWhile_prefix p)).symm,
    .of_plain fun c hc => hp c (List.mem_takeWhile_imp hc)⟩

theorem after? {word : String} (h : after? word s = some rest)
    (hword : ∀ c ∈ word.toList, isPlain c = true) : Takes s rest :=
  ⟨word.toList, Text.dropStart?_eq_some_iff.1 h, .of_plain hword⟩

theorem wordWithBlank? {word : String} (h : wordWithBlank? word s = some rest)
    (hword : ∀ c ∈ word.toList, isPlain c = true) : Takes s rest := by
  rw [Template.wordWithBlank?] at h
  split at h
  · next c rest' ha =>
    split at h
    · next hc =>
      cases h
      exact (after? ha hword).trans (.cons (isPlain_of_isSpace hc) (.refl _))
    · cases h
  · cases h

end Takes

/-- If something has been read, text of a tag has been taken. -/
def TakesIf (s : List Char) (o : Option (α × List Char)) : Prop :=
  ∀ a rest, o = some (a, rest) → Takes s rest

namespace TakesIf

variable {s t : List Char} {o o' : Option (α × List Char)}

theorem none : TakesIf s (none : Option (α × List Char)) := nofun

theorem pure {a : α} {rest : List Char} (h : Takes s rest) : TakesIf s (some (a, rest)) := by
  rintro _ _ ⟨⟩
  exact h

theorem after (h : Takes s t) (h' : TakesIf t o) : TakesIf s o :=
  fun a rest ho => h.trans (h' a rest ho)

theorem orElse (h : TakesIf s o) (h' : TakesIf s o') : TakesIf s (o <|> o') := by
  rcases o with _ | p
  · exact h'
  · exact h

theorem map {g : α × List Char → β × List Char} (h : TakesIf s o) (hg : ∀ p, (g p).2 = p.2) :
    TakesIf s (o.map g) := by
  intro b rest hb
  obtain ⟨⟨a, r⟩, ha, he⟩ := Option.map_eq_some_iff.1 hb
  have hr : r = rest := (hg (a, r)).symm.trans (congrArg Prod.snd he)
  exact hr ▸ h a r ha

theorem map_rest {o : Option (List Char)} {a : α} (h : ∀ rest, o = some rest → Takes s rest) :
    TakesIf s (o.map fun rest => (a, rest)) := by
  rintro _ rest hb
  obtain ⟨r, hr, he⟩ := Option.map_eq_some_iff.1 hb
  cases he
  exact h _ hr

theorem bind {f : α × List Char → Option (β × List Char)} (h : TakesIf s o)
    (hf : ∀ a rest, Takes s rest → TakesIf s (f (a, rest))) : TakesIf s (o.bind f) := by
  intro b rest hb
  obtain ⟨⟨a, r⟩, ha, hb⟩ := Option.bind_eq_some_iff.1 hb
  exact hf a r (h a r ha) b rest hb

/-- The same where no more is read than that something is there. -/
theorem bind_rest {o : Option (List Char)} {f : List Char → Option (β × List Char)}
    (h : ∀ rest, o = some rest → Takes s rest)
    (hf : ∀ rest, Takes s rest → TakesIf s (f rest)) : TakesIf s (o.bind f) := by
  intro b rest hb
  obtain ⟨r, hr, hb⟩ := Option.bind_eq_some_iff.1 hb
  exact hf r (h r hr) b rest hb

theorem ite {c : Prop} [Decidable c] (h : c → TakesIf s o) :
    TakesIf s (if c then o else Option.none) := by
  split
  · next hc => exact h hc
  · exact .none

end TakesIf

/-- A reader that takes text of a tag. -/
def Reader.TakesText (r : Reader α) : Prop := ∀ s, TakesIf s (r s)

/-! ## Words -/

theorem name?_takes : Reader.TakesText name? := by
  intro s
  cases s with
  | nil => exact .none
  | cons c s =>
    rw [name?]
    split
    · next hc =>
      exact .pure (.cons (isPlain_of_isNameChar (isNameChar_of_isNameStart hc))
        (.dropWhile (fun _ => isPlain_of_isNameChar) s))
    · exact .none

theorem quotedText?_takes : Reader.TakesText quotedText? := by
  intro s a rest h
  cases s with
  | nil => cases h
  | cons c s =>
    rw [quotedText?] at h
    split at h
    · next hc =>
      obtain ⟨⟨t, rest'⟩, hcut, he⟩ := Option.map_eq_some_iff.1 h
      cases he
      obtain ⟨rfl, hnot⟩ := Text.cutChar?_eq_some_iff.1 hcut
      exact ⟨c :: (t ++ [c]), by simp, .quoted hc hnot .nil⟩
    · cases h

theorem isPlain_of_isDigit {c : Char} (h : c.isDigit = true) : isPlain c = true :=
  isPlain_of_isNameChar (isNameChar_of_isDigit h)

theorem digits?_takes : Reader.TakesText digits? := by
  intro s
  unfold digits?
  split
  next negative s' hsign =>
  have hs : Takes s s' := by
    split at hsign <;> cases hsign
    · exact .cons rfl (.refl _)
    · exact .refl _
  refine .after hs ?_
  clear hs hsign
  split
  · exact .pure (.cons rfl (.refl _))
  · split
    · next hc =>
      exact .pure (.cons (isPlain_of_isDigit hc) (.dropWhile (fun _ => isPlain_of_isDigit) _))
    · exact .none
  · exact .none

theorem float?_takes : Reader.TakesText float? := by
  refine fun s => .bind (digits?_takes s) fun ⟨negative, whole⟩ r hr => .after hr ?_
  simp only
  split
  · split
    · exact .none
    · exact .pure (.cons rfl (.dropTaken (fun _ => isPlain_of_isDigit) _))
  · exact .none

theorem int?_takes : Reader.TakesText int? := fun s =>
  .bind (digits?_takes s) fun ⟨_, _⟩ _ hr => .ite fun _ => .pure hr

theorem bool?_takes : Reader.TakesText bool? := by
  intro s
  have hword : ∀ {word : String} {b : Bool} {rest : List Char}, after? word s = some rest →
      (∀ c ∈ word.toList, isPlain c = true) → TakesIf s (some (b, rest)) :=
    fun h hplain => .pure (.after? h hplain)
  unfold bool?
  split
  · exact hword ‹_› (by decide)
  · exact hword ‹_› (by decide)
  · exact hword ‹_› (by decide)
  · exact hword ‹_› (by decide)
  · exact .none

/-- What follows the first name of a path, and what stands in brackets in it. -/
theorem pathTail_takes (fuel : Nat) :
    (∀ s, Takes s (pathTail fuel s).2) ∧ Reader.TakesText (subscript? fuel) := by
  induction fuel with
  | zero => exact ⟨fun s => .refl s, fun s => .none⟩
  | succ fuel ih =>
    obtain ⟨ihtail, ihsub⟩ := ih
    refine ⟨fun s => ?_, fun s => ?_⟩
    · unfold pathTail
      split
      · next rest =>
        simp only
        split
        · exact .refl _
        · exact .cons rfl ((Takes.dropTaken (fun _ => isPlain_of_isNameChar) rest).trans (ihtail _))
      · next rest =>
        split
        · next hsub => exact .cons rfl ((ihsub _ _ _ hsub).trans (.cons rfl (ihtail _)))
        · exact .refl _
      · exact .refl _
    · unfold subscript?
      split
      · next hd => exact .pure (digits?_takes _ _ _ hd)
      · split
        · next hq => exact .pure (quotedText?_takes _ _ _ hq)
        · split
          · next hn => exact .pure ((name?_takes _ _ _ hn).trans (ihtail _))
          · exact .none

theorem path?_takes : Reader.TakesText path? := fun s =>
  .bind (name?_takes s) fun _ r hr => .pure (hr.trans ((pathTail_takes (r.length + 1)).1 r))

/-! ## Several items -/

theorem many_takes {item : Reader α} (hitem : item.TakesText) (fuel : Nat) (s : List Char) :
    Takes s (many item fuel s).2 := by
  induction fuel generalizing s with
  | zero => exact .refl s
  | succ fuel ih =>
    unfold many
    split
    · next h => exact .of_skip ((hitem _ _ _ h).trans (ih _))
    · exact .refl s

/-- An item behind a sign, and blanks in between. -/
theorem behind_takes {item : Reader α} (hitem : item.TakesText) {sign : String}
    (hsign : ∀ c ∈ sign.toList, isPlain c = true) :
    Reader.TakesText fun s => (after? sign s).bind fun rest => item (skip rest) :=
  fun _ => .bind_rest (fun _ h => .after? h hsign) fun r hr => .after (hr.trans (.skip r)) (hitem _)

theorem separated_takes {item : Reader α} (hitem : item.TakesText) (fuel : Nat) :
    Reader.TakesText (separated item fuel) := by
  exact fun s => .bind (hitem s) fun _ r hr =>
    .pure (hr.trans (many_takes (behind_takes hitem (by decide)) fuel r))

theorem items_takes {item : Reader α} (hitem : item.TakesText) (fuel : Nat) (s : List Char) :
    Takes s (items item fuel s).2 := by
  unfold items
  rcases h : separated item fuel s with _ | ⟨a, rest⟩
  · exact .refl s
  · exact separated_takes hitem fuel s a rest h

theorem skipComma_takes (s : List Char) : Takes s (skipComma s) := by
  unfold skipComma
  rcases h : after? "," (skip s) with _ | rest
  · exact .refl s
  · exact .of_skip (.after? h (by decide))

/-! ## Expressions -/

theorem mathOperator?_takes : Reader.TakesText mathOperator? := by
  intro s
  unfold mathOperator?
  split <;> first | exact .pure (.cons rfl (.refl _)) | exact .none

theorem comparison?_takes : Reader.TakesText comparison? := by
  intro s
  unfold comparison?
  split <;>
    first
    | exact .pure (.cons rfl (.cons rfl (.refl _)))
    | exact .pure (.cons rfl (.refl _))
    | exact .none

/-- A word in front of which blanks may stand. -/
theorem after?_takes {word : String} (hword : ∀ c ∈ word.toList, isPlain c = true)
    (s rest : List Char) (h : after? word (skip s) = some rest) : Takes s rest :=
  .of_skip (.after? h hword)

/-! ## Readers made of others -/

theorem memberOf?_takes {container : Reader Expr} (h : container.TakesText) (left : Expr)
    (negated : Bool) : Reader.TakesText (memberOf? container left negated) := by
  refine fun s => .bind_rest (fun _ h => .after? h (by decide)) fun r hr => ?_
  exact .bind (.after (hr.trans (.skip r)) (h _)) fun _ _ hr => .pure hr

theorem operand?_takes {inside value : Reader Term} (hinside : inside.TakesText)
    (hvalue : value.TakesText) : Reader.TakesText (operand? inside value) := by
  intro s
  unfold operand?
  split
  · next rest =>
    refine .bind (.after (.cons rfl (.skip rest)) (hinside _)) fun _ r hr => ?_
    exact .bind_rest (fun _ h => hr.trans (after?_takes (by decide) _ _ h)) fun r hr => .pure hr
  · exact hvalue s

theorem testArguments?_takes {argument : Reader Expr} (h : argument.TakesText) (fuel : Nat) :
    Reader.TakesText (testArguments? argument fuel) := by
  refine fun s => .bind_rest (fun _ h => .after? h (by decide)) fun r hr => ?_
  refine .bind (.after (hr.trans (.skip r)) (separated_takes h fuel _)) fun _ r hr => ?_
  exact .bind_rest (fun _ h => hr.trans (after?_takes (by decide) _ _ h)) fun r hr => .pure hr

theorem testName?_takes {arguments : Reader (List Expr)} (h : arguments.TakesText) :
    Reader.TakesText (testName? arguments) := by
  refine fun s => .bind (name?_takes s) fun _ r hr => ?_
  simp only
  split
  · next hfound => exact .pure ((hr.trans (.skip r)).trans (h _ _ _ hfound))
  · exact .pure hr

theorem namedArgument?_takes {value : Reader Expr} (h : value.TakesText) :
    Reader.TakesText (namedArgument? value) := by
  refine fun s => .bind (name?_takes s) fun _ r hr => ?_
  refine .bind_rest (fun _ h => hr.trans (after?_takes (by decide) _ _ h)) fun r hr => ?_
  exact .map (.after (hr.trans (.skip r)) (h _)) fun _ => rfl

theorem concatItem?_takes {call : Reader Call} (h : call.TakesText) :
    Reader.TakesText (concatItem? call) := fun s =>
  .orElse (.map (h s) fun _ => rfl) (.orElse (.map (float?_takes s) fun _ => rfl)
    (.orElse (.map (int?_takes s) fun _ => rfl) (.orElse (.map (quotedText?_takes s) fun _ => rfl)
      (.map (path?_takes s) fun _ => rfl))))

theorem concat?_takes {item : Reader Term} (h : item.TakesText) (fuel : Nat) :
    Reader.TakesText (concat? item fuel) := by
  refine fun s => .bind (h s) fun _ r hr => ?_
  simp only
  split
  · exact .none
  · exact .pure (hr.trans (many_takes (behind_takes h (by decide)) fuel r))

/-! ## Expressions -/

/-- The readers of expressions take text of a tag if they have this much fuel. -/
structure ExprReadersTake (fuel : Nat) : Prop where
  expr : Reader.TakesText (expr? fuel)
  condition : Reader.TakesText (condition? fuel)
  membership : Reader.TakesText (membership? fuel)
  comparisonExpr : Reader.TakesText (comparisonExpr? fuel)
  mathExpr : Reader.TakesText (mathExpr? fuel)
  basicExpr : Reader.TakesText (basicExpr? fuel)
  basicTerm : Reader.TakesText (basicTerm? fuel)
  value : Reader.TakesText (value? fuel)
  test : Reader.TakesText (test? fuel)
  macroCall : Reader.TakesText (macroCall? fuel)
  call : Reader.TakesText (call? fuel)
  arguments : Reader.TakesText (arguments? fuel)
  filter : Reader.TakesText (filter? fuel)
  textExpr : Reader.TakesText (textExpr? fuel)
  list : Reader.TakesText (list? fuel)

namespace ExprReadersTake

variable {fuel : Nat} (ih : ExprReadersTake fuel)
include ih

theorem expr_succ : Reader.TakesText (expr? (fuel + 1)) := by
  intro s
  rw [expr?]
  refine .bind (ih.condition s) fun _ r hr => .pure (hr.trans (many_takes (fun s => ?_) fuel r))
  refine .bind (.orElse (.map_rest ?_) (.map_rest ?_)) fun _ r hr => ?_
  · exact fun _ h => .wordWithBlank? h (by decide)
  · exact fun _ h => .wordWithBlank? h (by decide)
  · exact .bind (.after (hr.trans (.skip r)) (ih.condition _)) fun _ _ hr => .pure hr

theorem condition_succ : Reader.TakesText (condition? (fuel + 1)) := by
  intro s
  rw [condition?]
  split
  next negated inner hnot =>
  have hinner : Takes s inner := by
    split at hnot <;> cases hnot
    · next hword => exact (Takes.wordWithBlank? hword (by decide)).trans (.skip _)
    · exact .refl _
  split
  · next e r he =>
    refine .pure (hinner.trans ?_)
    rcases Option.or_eq_some_iff.1 he with hm | ⟨-, hc⟩
    · exact ih.membership _ _ _ hm
    · exact ih.comparisonExpr _ _ _ hc
  · refine .bind_rest (fun _ h => .after? h (by decide)) fun r hr => ?_
    refine .bind (.after (hr.trans (.skip r)) (ih.expr _)) fun e r hr => ?_
    exact .bind_rest (fun _ h => hr.trans (after?_takes (by decide) _ _ h)) fun r hr => .pure hr

theorem membership_succ : Reader.TakesText (membership? (fuel + 1)) := by
  intro s
  rw [membership?]
  refine .bind (.orElse (ih.textExpr s) (ih.basicExpr s)) fun left r hr => ?_
  have hcontainer : Reader.TakesText fun s => textExpr? fuel s <|> list? fuel s <|>
      (path? s).map fun r => (Expr.ofTerm (.variable_ r.1), r.2) := fun s =>
    .orElse (ih.textExpr s) (.orElse (ih.list s) (.map (path?_takes s) fun _ => rfl))
  rcases hnot : wordWithBlank? "not" (skip r) with _ | r'
  · simp only [hnot]
    exact .after (hr.trans (.skip r)) (memberOf?_takes hcontainer left false _)
  · simp only [hnot]
    refine .after (hr.trans (.of_skip ?_)) (memberOf?_takes hcontainer left true _)
    exact (Takes.wordWithBlank? hnot (by decide)).trans (.skip r')

theorem comparisonExpr_succ : Reader.TakesText (comparisonExpr? (fuel + 1)) := by
  intro s
  rw [comparisonExpr?]
  have hside : Reader.TakesText fun s => textExpr? fuel s <|> mathExpr? fuel s := fun s =>
    .orElse (ih.textExpr s) (ih.mathExpr s)
  refine .bind (hside s) fun left r hr => ?_
  simp only
  split
  · next h =>
    refine fun a rest he => (?_ : TakesIf s _) a rest (h.trans he)
    refine .bind (.after (hr.trans (.skip r)) (comparison?_takes _)) fun _ r hr => ?_
    exact .bind (.after (hr.trans (.skip r)) (hside _)) fun _ _ hr => .pure hr
  · exact .pure hr

theorem mathExpr_succ : Reader.TakesText (mathExpr? (fuel + 1)) := by
  intro s
  rw [mathExpr?]
  refine .bind (ih.basicExpr s) fun _ r hr => .pure (hr.trans (many_takes (fun s => ?_) fuel r))
  refine .bind (mathOperator?_takes s) fun _ r hr => ?_
  exact .bind (.after (hr.trans (.skip r)) (ih.basicExpr _)) fun _ _ hr => .pure hr

theorem basicExpr_succ : Reader.TakesText (basicExpr? (fuel + 1)) := by
  intro s
  rw [basicExpr?]
  exact .bind (ih.basicTerm s) fun _ r hr => .pure (hr.trans (many_takes ih.filter fuel r))

theorem basicTerm_succ : Reader.TakesText (basicTerm? (fuel + 1)) := by
  intro s
  rw [basicTerm?]
  have hoperand := operand?_takes ih.basicTerm ih.value
  refine .bind (hoperand s) fun _ r hr => .pure (hr.trans (many_takes (fun s => ?_) fuel r))
  refine .bind (mathOperator?_takes s) fun _ r hr => ?_
  exact .bind (.after (hr.trans (.skip r)) (hoperand _)) fun _ _ hr => .pure hr

theorem value_succ : Reader.TakesText (value? (fuel + 1)) := by
  intro s
  rw [value?]
  split
  · next h => exact .pure (bool?_takes _ _ _ h)
  · split
    · next h => exact fun a rest he => ih.test _ _ _ (h.trans he)
    · split
      · next h => exact fun a rest he => ih.macroCall _ _ _ (h.trans he)
      · split
        · next h => exact .pure (ih.call _ _ _ h)
        · split
          · next h => exact .pure (path?_takes _ _ _ h)
          · split
            · next h => exact .pure (float?_takes _ _ _ h)
            · exact .map (int?_takes s) fun _ => rfl

theorem exprOrList : Reader.TakesText fun s => expr? fuel s <|> list? fuel s := fun s =>
  .orElse (ih.expr s) (ih.list s)

theorem test_succ : Reader.TakesText (test? (fuel + 1)) := by
  intro s
  rw [test?]
  have hnamed := testName?_takes (testArguments?_takes ih.exprOrList fuel)
  refine .bind (path?_takes s) fun _ r hr => ?_
  refine .bind_rest (fun _ h => hr.trans (after?_takes (by decide) _ _ h)) fun r hr => ?_
  refine .after (hr.trans (.skip r)) ?_
  simp only
  split
  · next h =>
    obtain ⟨r', hnot, h⟩ := Option.bind_eq_some_iff.1 h
    exact .pure ((Takes.after? hnot (by decide)).trans (.of_skip (hnamed _ _ _ h)))
  · exact .bind (hnamed _) fun _ _ hr => .pure hr

theorem macroCall_succ : Reader.TakesText (macroCall? (fuel + 1)) := by
  intro s
  rw [macroCall?]
  refine .bind (name?_takes s) fun _ r hr => ?_
  refine .bind_rest (fun _ h => hr.trans (after?_takes (by decide) _ _ h)) fun r hr => ?_
  refine .bind (.after (hr.trans (.skip r)) (name?_takes _)) fun _ r hr => ?_
  exact .bind (.after (hr.trans (.skip r)) (ih.arguments _)) fun _ _ hr => .pure hr

theorem call_succ : Reader.TakesText (call? (fuel + 1)) := by
  intro s
  rw [call?]
  refine .bind (name?_takes s) fun _ r hr => ?_
  exact .bind (.after (hr.trans (.skip r)) (ih.arguments _)) fun _ _ hr => .pure hr

theorem arguments_succ : Reader.TakesText (arguments? (fuel + 1)) := by
  intro s
  rw [arguments?]
  refine .bind_rest (fun _ h => .after? h (by decide)) fun r hr => .after (hr.trans (.skip r)) ?_
  have hclose : ∀ {arguments : List (String × Expr)} {t : List Char}, Takes (skip r) t →
      TakesIf (skip r) (do
        let rest ← after? ")" (skip t)
        return (arguments, rest)) := fun ht =>
    .bind_rest (fun _ h => ht.trans (after?_takes (by decide) _ _ h)) fun _ hr => .pure hr
  simp only
  split
  · next h =>
    have hargument := namedArgument?_takes ih.exprOrList
    exact hclose ((separated_takes hargument fuel _ _ _ h).trans (skipComma_takes _))
  · exact hclose (.refl _)

theorem filter_succ : Reader.TakesText (filter? (fuel + 1)) := by
  intro s
  rw [filter?]
  refine .bind_rest (fun _ h => .after? h (by decide)) fun r hr => .after (hr.trans (.skip r)) ?_
  simp only
  split
  · next h => exact fun a rest he => ih.call _ _ _ (h.trans he)
  · exact .bind (name?_takes _) fun _ _ hr => .pure hr

theorem textExpr_succ : Reader.TakesText (textExpr? (fuel + 1)) := by
  intro s
  rw [textExpr?]
  have hconcat := concat?_takes (concatItem?_takes ih.call) fuel
  exact .bind (.orElse (hconcat s) (.map (quotedText?_takes s) fun _ => rfl)) fun _ r hr =>
    .pure (hr.trans (many_takes ih.filter fuel r))

theorem list_succ : Reader.TakesText (list? (fuel + 1)) := by
  intro s
  rw [list?]
  refine .bind_rest (fun _ h => .after? h (by decide)) fun r hr => ?_
  have hitems := (hr.trans (.skip r)).trans (items_takes ih.condition fuel (skip r))
  refine .bind_rest (fun _ h => ?_) fun r hr => .pure (hr.trans (many_takes ih.filter fuel r))
  exact (hitems.trans (skipComma_takes _)).trans (after?_takes (by decide) _ _ h)

end ExprReadersTake

theorem exprReadersTake (fuel : Nat) : ExprReadersTake fuel := by
  induction fuel with
  | zero =>
    constructor
    all_goals exact fun s => .none
  | succ fuel ih =>
    exact ⟨ih.expr_succ, ih.condition_succ, ih.membership_succ, ih.comparisonExpr_succ,
      ih.mathExpr_succ, ih.basicExpr_succ, ih.basicTerm_succ, ih.value_succ, ih.test_succ,
      ih.macroCall_succ, ih.call_succ, ih.arguments_succ, ih.filter_succ, ih.textExpr_succ,
      ih.list_succ⟩

/-! ## Insides of tags -/

theorem exprOrList?_takes : Reader.TakesText exprOrList? :=
  fun s => (exprReadersTake (exprFuel s)).exprOrList s

theorem assignment?_takes : Reader.TakesText assignment? := by
  refine fun s => .bind (name?_takes s) fun _ r hr => ?_
  refine .bind_rest (fun _ h => hr.trans (after?_takes (by decide) _ _ h)) fun r hr => ?_
  exact .bind (.after (hr.trans (.skip r)) (exprOrList?_takes _)) fun _ _ hr => .pure hr

theorem ignoreMissing?_takes {s rest : List Char} (h : ignoreMissing? s = some rest) :
    Takes s rest := by
  obtain ⟨r, hignore, h⟩ := Option.bind_eq_some_iff.1 h
  exact (Takes.after? hignore (by decide)).trans (after?_takes (by decide) _ _ h)

theorem insertion?_takes : Reader.TakesText insertion? := by
  intro s
  refine .bind (.orElse (.map (quotedText?_takes s) fun _ => rfl) ?_) fun _ r hr => ?_
  · refine .bind_rest (fun _ h => .after? h (by decide)) fun r hr => ?_
    refine .bind_rest (fun _ h => ?_) fun _ hr => .pure hr
    exact ((hr.trans (.skip r)).trans ((items_takes quotedText?_takes _ _).trans
      (skipComma_takes _))).trans (after?_takes (by decide) _ _ h)
  · simp only
    split
    · next h => exact .pure (hr.trans (.of_skip (ignoreMissing?_takes h)))
    · exact .pure hr

theorem importing?_takes : Reader.TakesText importing? := by
  refine fun s => .bind (quotedText?_takes s) fun _ r hr => ?_
  refine .bind_rest (fun _ h => hr.trans (.skipSome? h)) fun r hr => ?_
  refine .bind_rest (fun _ h => hr.trans (.after? h (by decide))) fun r hr => ?_
  refine .bind_rest (fun _ h => hr.trans (.skipSome? h)) fun r hr => ?_
  exact .bind (.after hr (name?_takes _)) fun _ _ hr => .pure hr

theorem literal?_takes : Reader.TakesText literal? := by
  intro s
  unfold literal?
  split
  · next h => exact .pure (bool?_takes _ _ _ h)
  · split
    · next h => exact .pure (quotedText?_takes _ _ _ h)
    · split
      · next h => exact .pure (float?_takes _ _ _ h)
      · exact .map (int?_takes s) fun _ => rfl

theorem parameter?_takes : Reader.TakesText parameter? := by
  refine fun s => .bind (name?_takes s) fun _ r hr => ?_
  simp only
  split
  · exact .pure hr
  · next h =>
    have hr := hr.trans (.after? h (by decide))
    exact .bind (.after hr (literal?_takes _)) fun _ _ hr => .pure hr

theorem head?_takes : Reader.TakesText head? := by
  refine fun s => .bind (name?_takes s) fun _ r hr => ?_
  refine .bind_rest (fun _ h => hr.trans (after?_takes (by decide) _ _ h)) fun r hr => ?_
  refine .bind_rest (fun _ h => ?_) fun _ hr => .pure hr
  exact ((hr.trans (.skip r)).trans (items_takes parameter?_takes _ _)).trans
    (after?_takes (by decide) _ _ h)

theorem loopContainer?_takes : Reader.TakesText loopContainer? := by
  refine fun s => .bind_rest (fun _ h => .skipSome? h) fun r hr => ?_
  refine .bind_rest (fun _ h => hr.trans (.after? h (by decide))) fun r hr => ?_
  refine .bind_rest (fun _ h => hr.trans (.skipSome? h)) fun r hr => ?_
  exact .after hr (.orElse ((exprReadersTake _).basicExpr r) ((exprReadersTake _).list r))

theorem loopHead?_takes : Reader.TakesText loopHead? := by
  refine fun s => .bind (name?_takes s) fun first r hr => ?_
  simp only
  split
  · next h =>
    refine .bind (.after (hr.trans ?_) (loopContainer?_takes _)) fun _ _ hr => .pure hr
    exact behind_takes name?_takes (by decide) r _ _ h
  · exact .bind (.after hr (loopContainer?_takes r)) fun _ _ hr => .pure hr

theorem filterHead?_takes : Reader.TakesText filterHead? := by
  intro s
  unfold filterHead?
  split
  · next h => exact fun a rest he => (exprReadersTake _).call s a rest (h.trans he)
  · exact .map (name?_takes s) fun _ => rfl

theorem armHead?_takes : Reader.TakesText armHead? := fun s => (exprReadersTake _).expr s

/-! ## Tags -/

/-- A text begins with a tag between these brackets, behind which the rest follows. -/
def BeginsWithTag (start stop : String) (s rest : List Char) : Prop :=
  ∃ inside, Inside inside ∧ s = start.toList ++ (inside ++ (stop.toList ++ rest))

theorem tagStart?_takes {start : String} {s rest : List Char} {b : Bool}
    (h : tagStart? start s = some (b, rest)) :
    ∃ t, s = start.toList ++ t ∧ Takes t rest := by
  obtain ⟨t, ht, h⟩ := Option.bind_eq_some_iff.1 h
  refine ⟨t, Text.dropStart?_eq_some_iff.1 ht, ?_⟩
  split at h <;> cases h
  · exact .cons rfl (.refl _)
  · exact .refl _

theorem tagEnd?_takes {stop : String} {s rest : List Char} {b : Bool}
    (h : tagEnd? stop s = some (b, rest)) : Takes s (stop.toList ++ rest) := by
  unfold tagEnd? at h
  split at h
  · next hd =>
    cases h
    have hs := Text.dropStart?_eq_some_iff.1 hd
    rw [String.toList_append, List.append_assoc] at hs
    exact hs ▸ .cons rfl (.refl _)
  · obtain ⟨t, ht, he⟩ := Option.map_eq_some_iff.1 h
    cases he
    exact Text.dropStart?_eq_some_iff.1 ht ▸ .refl _

theorem BeginsWithTag.of_takes {start stop : String} {s t rest : List Char}
    (hs : s = start.toList ++ t) (ht : Takes t (stop.toList ++ rest)) :
    BeginsWithTag start stop s rest := by
  obtain ⟨inside, rfl, hinside⟩ := ht
  exact ⟨inside, hinside, hs⟩

theorem wordTag?_beginsWithTag {word : String} (hword : ∀ c ∈ word.toList, isPlain c = true)
    {named : Bool} {s rest : List Char} {trim : Trim}
    (h : wordTag? word named s = some (trim, rest)) :
    BeginsWithTag statementStart statementEnd s rest := by
  obtain ⟨⟨left, r⟩, hstart, h⟩ := Option.bind_eq_some_iff.1 h
  obtain ⟨r', hw, h⟩ := Option.bind_eq_some_iff.1 h
  obtain ⟨⟨right, r''⟩, hend, h⟩ := Option.bind_eq_some_iff.1 h
  cases h
  obtain ⟨t, hs, ht⟩ := tagStart?_takes hstart
  have hname : ∀ u, Takes u (((name? u).map fun r => skip r.2).getD u) := by
    intro u
    rcases hn : name? u with _ | ⟨name, v⟩
    · exact .refl u
    · exact (name?_takes _ _ _ hn).trans (.skip v)
  refine .of_takes hs (ht.trans ((after?_takes hword _ _ hw).trans (.of_skip ?_)))
  refine .trans ?_ (tagEnd?_takes hend)
  split
  · exact hname _
  · exact .refl _

theorem statement?_beginsWithTag {word : String} (hword : ∀ c ∈ word.toList, isPlain c = true)
    {inside : Reader α} (hinside : inside.TakesText) {s rest : List Char} {a : Trim × α}
    (h : statement? word inside s = some (a, rest)) :
    BeginsWithTag statementStart statementEnd s rest := by
  obtain ⟨⟨left, r⟩, hstart, h⟩ := Option.bind_eq_some_iff.1 h
  obtain ⟨r', hw, h⟩ := Option.bind_eq_some_iff.1 h
  obtain ⟨r'', hsome, h⟩ := Option.bind_eq_some_iff.1 h
  obtain ⟨⟨b, r₄⟩, hin, h⟩ := Option.bind_eq_some_iff.1 h
  obtain ⟨⟨right, r₅⟩, hend, h⟩ := Option.bind_eq_some_iff.1 h
  cases h
  obtain ⟨t, hs, ht⟩ := tagStart?_takes hstart
  have hwords := (after?_takes hword _ _ hw).trans (Takes.skipSome? hsome)
  refine .of_takes hs (ht.trans (hwords.trans ?_))
  exact (hinside _ _ _ hin).trans (.of_skip (tagEnd?_takes hend))

theorem output?_beginsWithTag {s rest : List Char} {a : Trim × Expr}
    (h : output? s = some (a, rest)) : BeginsWithTag "\x7b\x7b" "\x7d\x7d" s rest := by
  obtain ⟨⟨left, r⟩, hstart, h⟩ := Option.bind_eq_some_iff.1 h
  obtain ⟨⟨e, r'⟩, he, h⟩ := Option.bind_eq_some_iff.1 h
  obtain ⟨⟨right, r''⟩, hend, h⟩ := Option.bind_eq_some_iff.1 h
  cases h
  obtain ⟨t, hs, ht⟩ := tagStart?_takes hstart
  refine .of_takes hs (ht.trans ((Takes.skip r).trans ?_))
  exact (exprOrList?_takes _ _ _ he).trans (.of_skip (tagEnd?_takes hend))

theorem overridden?_beginsWithTag {s rest : List Char} {u : Unit}
    (h : overridden? s = some (u, rest)) : BeginsWithTag "\x7b\x7b" "\x7d\x7d" s rest := by
  obtain ⟨⟨left, r⟩, hstart, h⟩ := Option.bind_eq_some_iff.1 h
  obtain ⟨r', hw, h⟩ := Option.bind_eq_some_iff.1 h
  obtain ⟨⟨right, r''⟩, hend, h⟩ := Option.bind_eq_some_iff.1 h
  cases h
  obtain ⟨t, hs, ht⟩ := tagStart?_takes hstart
  exact .of_takes hs (ht.trans ((after?_takes (by decide) _ _ hw).trans
    (.of_skip (tagEnd?_takes hend))))

/-- The words of statements that have nothing behind them. -/
def loneWords : List String :=
  ["raw", "endraw", "break", "continue", "else", "endif", "endfor", "endfilter", "endblock",
    "endmacro"]

/-- A tag has been read, of any kind that there is. -/
inductive ReadsTag (s rest : List Char) : Prop
  | output {r : Trim × Expr} (h : output? s = some (r, rest))
  | overridden {r : Unit} (h : overridden? s = some (r, rest))
  | word {w : String} {named : Bool} {trim : Trim} (hw : w ∈ loneWords)
      (h : wordTag? w named s = some (trim, rest))
  | assignment {w : String} {r : Trim × String × Expr} (hw : w ∈ ["set", "set_global"])
      (h : statement? w assignment? s = some (r, rest))
  | insertion {r : Trim × List String × Bool}
      (h : statement? "include" insertion? s = some (r, rest))
  | importing {r : Trim × String × String}
      (h : statement? "import" importing? s = some (r, rest))
  | parent {r : Trim × String} (h : statement? "extends" quotedText? s = some (r, rest))
  | arm {w : String} {r : Trim × Expr} (hw : w ∈ ["if", "elif"])
      (h : statement? w armHead? s = some (r, rest))
  | loop {r : Trim × Option String × String × Expr}
      (h : statement? "for" loopHead? s = some (r, rest))
  | filtered {r : Trim × Call} (h : statement? "filter" filterHead? s = some (r, rest))
  | block {r : Trim × String} (h : statement? "block" name? s = some (r, rest))
  | definition {r : Trim × String × List (String × Option Expr)}
      (h : statement? "macro" head? s = some (r, rest))

/-- The brackets that tags stand between. -/
def tagBrackets : List (String × String) :=
  [("\x7b\x7b", "\x7d\x7d"), (statementStart, statementEnd)]

/-- Every tag is text of a tag between brackets of its kind. -/
theorem ReadsTag.beginsWithTag {s rest : List Char} (h : ReadsTag s rest) :
    ∃ brackets ∈ tagBrackets, BeginsWithTag brackets.1 brackets.2 s rest := by
  have hlone : ∀ w ∈ loneWords, ∀ c ∈ w.toList, isPlain c = true := by decide
  have hstatement : BeginsWithTag statementStart statementEnd s rest →
      ∃ brackets ∈ tagBrackets, BeginsWithTag brackets.1 brackets.2 s rest :=
    fun h => ⟨_, .tail _ (.head _), h⟩
  cases h with
  | output h => exact ⟨_, .head _, output?_beginsWithTag h⟩
  | overridden h => exact ⟨_, .head _, overridden?_beginsWithTag h⟩
  | word hw h => exact hstatement (wordTag?_beginsWithTag (hlone _ hw) h)
  | @assignment w _ hw h =>
    have hplain : ∀ w ∈ ["set", "set_global"], ∀ c ∈ w.toList, isPlain c = true := by decide
    exact hstatement (statement?_beginsWithTag (hplain w hw) assignment?_takes h)
  | insertion h => exact hstatement (statement?_beginsWithTag (by decide) insertion?_takes h)
  | importing h => exact hstatement (statement?_beginsWithTag (by decide) importing?_takes h)
  | parent h => exact hstatement (statement?_beginsWithTag (by decide) quotedText?_takes h)
  | @arm w _ hw h =>
    have hplain : ∀ w ∈ ["if", "elif"], ∀ c ∈ w.toList, isPlain c = true := by decide
    exact hstatement (statement?_beginsWithTag (hplain w hw) armHead?_takes h)
  | loop h => exact hstatement (statement?_beginsWithTag (by decide) loopHead?_takes h)
  | filtered h => exact hstatement (statement?_beginsWithTag (by decide) filterHead?_takes h)
  | block h => exact hstatement (statement?_beginsWithTag (by decide) name?_takes h)
  | definition h => exact hstatement (statement?_beginsWithTag (by decide) head?_takes h)

end BuildTool.Template
