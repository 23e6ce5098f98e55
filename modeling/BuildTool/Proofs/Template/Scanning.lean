import BuildTool.Proofs.Script.Writing
import BuildTool.Proofs.Template.Reading
import BuildTool.Template.Preprocess

/-!
# Scanning for lookups

The source of a template is scanned for tags, and each tag for lookups, without regard to what
stands around them. A text is closed to the scanner when every tag that begins in it also ends
in it:

    scan (s ++ t)  =  scan s ++ scan t    if  s  is closed

## Sections

* lookups and texts between quotes;
* scanning a tag;
* scanning a source.
-/

namespace BuildTool.Template

/-! ## Lookups -/

theorem isEntryChar_false (c : Char) : isEntryChar false c = isNameChar c := by
  simp only [isEntryChar, isNameChar, Char.isAlphanum, Bool.not_false, Bool.true_and]
  cases c.isAlpha <;> cases c.isDigit <;> simp

theorem isNameChar_of_isEntryChar {c : Char} (h : isEntryChar true c = true) :
    isNameChar c = true := by
  simp only [isEntryChar, Bool.not_true, Bool.false_and, Bool.or_false] at h
  simp only [← isEntryChar_false, isEntryChar, h, Bool.true_or]

/-- A name that a lookup can have. -/
structure IsEntryName (name : List Char) : Prop where
  starts : ∃ c, name.head? = some c ∧ isEntryChar true c = true
  chars : ∀ c ∈ name, isNameChar c = true

theorem lookupAt?_eq_some {s name rest : List Char} (h : lookupAt? s = some (name, rest)) :
    s = ['e', 'n', 'v', '.'] ++ (name ++ rest) ∧ IsEntryName name ∧
      ∀ c, rest.head? = some c → isNameChar c = false := by
  obtain ⟨t, ht, h⟩ := Option.bind_eq_some_iff.1 h
  rw [Text.dropStart?_eq_some_iff.1 ht]
  simp only [funext isEntryChar_false] at h
  split at h
  · next c t =>
    split at h
    · next hc =>
      cases h
      have hname := isNameChar_of_isEntryChar hc
      rw [List.takeWhile_append_dropWhile, List.takeWhile_cons, if_pos hname]
      refine ⟨rfl, ⟨⟨c, rfl, hc⟩, ?_⟩, fun d hd => ?_⟩
      · rw [List.forall_mem_cons]
        exact ⟨hname, fun d hd => List.mem_takeWhile_imp hd⟩
      · exact Bool.eq_false_iff.2 (by simpa [hd] using List.head?_dropWhile_not isNameChar (c :: t))
    · cases h
  · cases h

theorem isWord_of_isNameChar {c : Char} (h : isNameChar c = true) : Text.isWord c = true := by
  have hlt := isPlain_of_isNameChar h
  simp only [isPlain, Bool.and_eq_true, decide_eq_true_eq] at hlt
  rw [Text.isWord, if_pos hlt.1.1.1]
  exact h

theorem length_of_lookupAt? {s name rest : List Char} (h : lookupAt? s = some (name, rest)) :
    rest.length + 4 ≤ s.length := by
  rw [(lookupAt?_eq_some h).1]
  simp only [List.length_append, List.length_cons, List.length_nil]
  omega

theorem lookupAt?_append {name rest : List Char} (hname : IsEntryName name)
    (hrest : ∀ c, rest.head? = some c → isNameChar c = false) :
    lookupAt? (['e', 'n', 'v', '.'] ++ (name ++ rest)) = some (name, rest) := by
  obtain ⟨⟨c, hc, hstart⟩, hchars⟩ := hname
  obtain ⟨t, rfl⟩ := List.head?_eq_some_iff.1 hc
  unfold lookupAt?
  rw [Text.dropStart?_append]
  simp only [funext isEntryChar_false, Option.bind_eq_bind, Option.bind_some, List.cons_append,
    if_pos hstart]
  rw [← List.cons_append, Text.takeWhile_append_eq hchars hrest,
    Text.dropWhile_append_eq hchars hrest]

theorem lookupCall_eq (name : List Char) : lookupCall name =
    ['e', 'n', 'v', '(', 'n', 'a', 'm', 'e', '=', '"'] ++ name ++ ['"', ')'] := by
  have hopen : "env(name=\"".toList = ['e', 'n', 'v', '(', 'n', 'a', 'm', 'e', '=', '"'] := by
    rfl
  unfold lookupCall
  rw [hopen]

theorem lookupCall_append (name rest : List Char) :
    lookupCall name ++ rest = 'e' :: 'n' :: 'v' :: '(' :: 'n' :: 'a' :: 'm' :: 'e' :: '=' ::
      '"' :: (name ++ '"' :: ')' :: rest) := by
  rw [lookupCall_eq]
  simp only [List.append_assoc, List.cons_append, List.nil_append]

theorem quotedRest?_eq_some {q : Char} : ∀ {s span rest : List Char},
    quotedRest? q s = some (span, rest) → s = span ++ rest
  | [], _, _, h => by cases h
  | c :: s, span, rest, h => by
    unfold quotedRest? at h
    split at h
    · cases h
      rfl
    · split at h
      · match s, h with
        | d :: s, h =>
          simp only at h
          split at h
          · cases h
          · obtain ⟨cut, hcut, he⟩ := Option.map_eq_some_iff.1 h
            cases he
            rw [quotedRest?_eq_some hcut]
            rfl
      · obtain ⟨cut, hcut, he⟩ := Option.map_eq_some_iff.1 h
        cases he
        rw [quotedRest?_eq_some hcut]
        rfl

theorem quotedSpan?_eq_some {s span rest : List Char} (h : quotedSpan? s = some (span, rest)) :
    s = span ++ rest ∧ span ≠ [] := by
  cases s with
  | nil => cases h
  | cons c s =>
    rw [quotedSpan?] at h
    split at h
    · obtain ⟨cut, hcut, he⟩ := Option.map_eq_some_iff.1 h
      cases he
      rw [quotedRest?_eq_some hcut]
      exact ⟨rfl, List.cons_ne_nil _ _⟩
    · split at h
      · obtain ⟨cut, hcut, he⟩ := Option.map_eq_some_iff.1 h
        cases he
        rw [(Text.cutChar?_eq_some_iff.1 hcut).1]
        exact ⟨by simp, by simp⟩
      · cases h

theorem length_of_quotedSpan? {s span rest : List Char}
    (h : quotedSpan? s = some (span, rest)) : rest.length + 1 ≤ s.length := by
  obtain ⟨rfl, hne⟩ := quotedSpan?_eq_some h
  have := List.length_pos_iff.2 hne
  simp only [List.length_append]
  omega

theorem quotedRest?_append_right {q : Char} (t : List Char) : ∀ {s span rest : List Char},
    quotedRest? q s = some (span, rest) → quotedRest? q (s ++ t) = some (span, rest ++ t)
  | [], _, _, h => by cases h
  | c :: s, span, rest, h => by
    unfold quotedRest? at h
    rw [List.cons_append]
    unfold quotedRest?
    split at h
    · next hc =>
      cases h
      rw [if_pos hc]
    · next hc =>
      rw [if_neg hc]
      split at h
      · next hb =>
        rw [if_pos hb]
        match s, h with
        | d :: s, h =>
          simp only at h
          split at h
          · cases h
          · next hd =>
            obtain ⟨cut, hcut, he⟩ := Option.map_eq_some_iff.1 h
            cases he
            simp only [List.cons_append, if_neg hd, quotedRest?_append_right t hcut]
            rfl
      · next hb =>
        obtain ⟨cut, hcut, he⟩ := Option.map_eq_some_iff.1 h
        cases he
        rw [if_neg hb, quotedRest?_append_right t hcut]
        rfl

/-- Text between quotes that has been found stays what it is when more text follows. -/
theorem quotedSpan?_append_right {s span rest : List Char}
    (h : quotedSpan? s = some (span, rest)) (t : List Char) :
    quotedSpan? (s ++ t) = some (span, rest ++ t) := by
  cases s with
  | nil => cases h
  | cons c s =>
    rw [quotedSpan?] at h
    rw [List.cons_append, quotedSpan?]
    split at h
    · next hc =>
      obtain ⟨cut, hcut, he⟩ := Option.map_eq_some_iff.1 h
      cases he
      rw [if_pos hc, quotedRest?_append_right t hcut]
      rfl
    · next hc =>
      rw [if_neg hc]
      split at h
      · next hb =>
        obtain ⟨cut, hcut, he⟩ := Option.map_eq_some_iff.1 h
        cases he
        obtain ⟨rfl, hnot⟩ := Text.cutChar?_eq_some_iff.1 hcut
        have hcut' : Text.cutChar? c (cut.1 ++ c :: cut.2 ++ t) = some (cut.1, cut.2 ++ t) :=
          Text.cutChar?_eq_some_iff.2 ⟨by simp, hnot⟩
        rw [if_pos hb, hcut']
        rfl
      · cases h

theorem quotedSpan?_eq_none {c : Char} (hc : isQuote c = false) (s : List Char) :
    quotedSpan? (c :: s) = none := by
  simp only [isQuote, Bool.or_eq_false_iff, beq_eq_false_iff_ne] at hc
  rw [quotedSpan?, if_neg (by simp [hc]), if_neg hc.2]

/-! ## Scanning a tag -/

/-- The tag with its lookups rewritten, behind the character `before`. -/
def scanTag (before : Option Char) (s : List Char) : List Char := rewriteTag s.length before s

theorem rewriteTag_eq_scanTag {fuel : Nat} {s : List Char} (h : s.length ≤ fuel)
    (before : Option Char) : rewriteTag fuel before s = scanTag before s := by
  -- any two amounts of fuel do that are enough
  suffices ∀ {n m : Nat} {s : List Char} (before : Option Char), s.length ≤ n → s.length ≤ m →
      rewriteTag n before s = rewriteTag m before s from this before h le_rfl
  intro n
  induction n with
  | zero =>
    intro m s before hn hm
    cases List.length_eq_zero_iff.1 (Nat.le_zero.1 hn)
    cases m <;> rfl
  | succ n ih =>
    intro m s before hn hm
    cases s with
    | nil => cases m <;> rfl
    | cons c s =>
      obtain ⟨m, rfl⟩ : ∃ k, m = k + 1 := ⟨m - 1, by simp at hm; omega⟩
      have hstep : ∀ {t : List Char} (before : Option Char), t.length + 1 ≤ (c :: s).length →
          rewriteTag n before t = rewriteTag m before t := fun before ht =>
        ih before (Nat.le_of_succ_le_succ (ht.trans hn)) (Nat.le_of_succ_le_succ (ht.trans hm))
      unfold rewriteTag
      split
      · next hspan => rw [hstep _ (length_of_quotedSpan? hspan)]
      · simp only
        split
        · next hdotted =>
          obtain ⟨-, hdotted⟩ := Option.ite_none_right_eq_some.1 hdotted
          have := length_of_lookupAt? hdotted
          rw [hstep _ (by rw [List.length_cons]; omega)]
        · split
          · next hbare =>
            obtain ⟨-, hbare⟩ := Option.ite_none_left_eq_some.1 hbare
            have := length_of_lookupAt? hbare
            rw [hstep _ (by omega)]
          · rw [hstep _ le_rfl]

/-- What the scan does with the first character of a tag, whatever the fuel. -/
theorem scanTag_step (before : Option Char) (c : Char) (s : List Char) :
    scanTag before (c :: s) =
      match quotedSpan? (c :: s) with
      | some (span, rest) => span ++ scanTag span.getLast? rest
      | none =>
        match if c = '.' then lookupAt? s else none with
        | some (name, rest) => ['.', 'e', 'n', 'v', '.'] ++ name ++ scanTag name.getLast? rest
        | none =>
          match if before.any Text.isWord then none else lookupAt? (c :: s) with
          | some (name, rest) => lookupCall name ++ scanTag name.getLast? rest
          | none => c :: scanTag (some c) s := by
  rw [scanTag, List.length_cons, rewriteTag]
  rcases hspan : quotedSpan? (c :: s) with _ | ⟨span, rest⟩
  · dsimp only
    rcases hdotted : if c = '.' then lookupAt? s else none with _ | ⟨name, rest⟩
    · dsimp only
      rcases hbare : if before.any Text.isWord then none else lookupAt? (c :: s) with
        _ | ⟨name, rest⟩
      · rfl
      · have hlen := length_of_lookupAt? (Option.ite_none_left_eq_some.1 hbare).2
        have hfuel := Nat.le_of_add_right_le (Nat.le_of_succ_le_succ hlen)
        dsimp only
        rw [rewriteTag_eq_scanTag hfuel]
    · have hlen := length_of_lookupAt? (Option.ite_none_right_eq_some.1 hdotted).2
      dsimp only
      rw [rewriteTag_eq_scanTag (Nat.le_of_add_right_le hlen)]
  · have hlen := length_of_quotedSpan? hspan
    dsimp only
    rw [rewriteTag_eq_scanTag (Nat.le_of_succ_le_succ hlen)]

section

variable {before : Option Char} {c : Char} {s span name rest : List Char}

theorem scanTag_quoted (h : quotedSpan? s = some (span, rest)) :
    scanTag before s = span ++ scanTag span.getLast? rest := by
  match s, h with
  | c :: s, h => simp only [scanTag_step, h]

theorem scanTag_dotted (h : lookupAt? s = some (name, rest)) :
    scanTag before ('.' :: s) =
      ['.', 'e', 'n', 'v', '.'] ++ name ++ scanTag name.getLast? rest := by
  rw [scanTag_step]
  simp only [quotedSpan?_eq_none (by decide : isQuote '.' = false), if_true, h]

theorem scanTag_lookup (hbefore : before.any Text.isWord = false)
    (h : lookupAt? s = some (name, rest)) :
    scanTag before s = lookupCall name ++ scanTag name.getLast? rest := by
  obtain ⟨rfl, -, -⟩ := lookupAt?_eq_some h
  simp only [List.cons_append, List.nil_append] at h ⊢
  rw [scanTag_step]
  simp only [quotedSpan?_eq_none (by decide : isQuote 'e' = false), hbefore, h,
    show ¬ 'e' = '.' by decide, if_false, Bool.false_eq_true]

theorem scanTag_cons (hquote : quotedSpan? (c :: s) = none)
    (hdotted : c = '.' → lookupAt? s = none)
    (hbare : before.any Text.isWord = false → lookupAt? (c :: s) = none) :
    scanTag before (c :: s) = c :: scanTag (some c) s := by
  have hnone : (if c = '.' then lookupAt? s else none) = none := by
    split
    · next hc => exact hdotted hc
    · rfl
  have hnone' : (if before.any Text.isWord then none else lookupAt? (c :: s)) = none := by
    split
    · rfl
    · next hb => exact hbare (Bool.eq_false_iff.2 hb)
  rw [scanTag_step]
  simp only [hquote, hnone, hnone']

end

/-! ## Scanning a source -/

/-- The brackets that the scanner looks for. -/
def scanBrackets : List (List Char × List Char) :=
  [(['\x7b', '\x7b'], ['\x7d', '\x7d']), (['\x7b', '%'], ['%', '\x7d'])]

theorem spanBetween?_eq_some {start stop s tag rest : List Char}
    (h : spanBetween? start stop s = some (tag, rest)) : ∃ inside t, s = start ++ t ∧
      Text.cutText? stop t = some (inside, rest) ∧ tag = start ++ inside ++ stop := by
  obtain ⟨t, ht, h⟩ := Option.bind_eq_some_iff.1 h
  obtain ⟨⟨inside, r⟩, hcut, h⟩ := Option.bind_eq_some_iff.1 h
  cases h
  exact ⟨inside, t, Text.dropStart?_eq_some_iff.1 ht, hcut, rfl⟩

theorem tagSpan?_eq_some {s tag rest : List Char} (h : tagSpan? s = some (tag, rest)) :
    ∃ brackets ∈ scanBrackets, ∃ inside t, s = brackets.1 ++ t ∧
      Text.cutText? brackets.2 t = some (inside, rest) ∧
        tag = brackets.1 ++ inside ++ brackets.2 := by
  rw [tagSpan?, Option.orElse_eq_orElse, Option.orElse_eq_or] at h
  rcases Option.or_eq_some_iff.1 h with h | ⟨-, h⟩
  · exact ⟨_, .head _, spanBetween?_eq_some h⟩
  · exact ⟨_, .tail _ (.head _), spanBetween?_eq_some h⟩

theorem tagSpan?_of_cutText? {brackets : List Char × List Char} (hb : brackets ∈ scanBrackets)
    {t inside rest : List Char} (h : Text.cutText? brackets.2 t = some (inside, rest)) :
    tagSpan? (brackets.1 ++ t) = some (brackets.1 ++ inside ++ brackets.2, rest) := by
  unfold tagSpan?
  simp only [scanBrackets, List.mem_cons, List.not_mem_nil, or_false] at hb
  rcases hb with rfl | rfl
  · simp [spanBetween?, Text.dropStart?, h]
  · simp [spanBetween?, Text.dropStart?, h]

/-- A tag of the scanner can begin here, or could if more text followed. -/
def mayOpen (s : List Char) : Bool :=
  match s with
  | c :: rest => c == '\x7b' && rest.head?.all fun d => d == '\x7b' || d == '%'
  | [] => true

theorem tagSpan?_eq_none {s : List Char} (h : mayOpen s = false) (t : List Char) :
    tagSpan? (s ++ t) = none := by
  rcases ho : tagSpan? (s ++ t) with _ | ⟨tag, rest⟩
  · rfl
  · obtain ⟨brackets, hb, inside, u, hs, -, -⟩ := tagSpan?_eq_some ho
    simp only [scanBrackets, List.mem_cons, List.not_mem_nil, or_false] at hb
    exfalso
    match s, h with
    | c :: s, h =>
      match s, h with
      | [], h => rcases hb with rfl | rfl <;> cases hs <;> cases h
      | d :: s, h => rcases hb with rfl | rfl <;> cases hs <;> cases h

theorem length_of_tagSpan? {s tag rest : List Char} (h : tagSpan? s = some (tag, rest)) :
    s = tag ++ rest ∧ rest.length + 1 ≤ s.length := by
  obtain ⟨brackets, hb, inside, t, rfl, hcut, rfl⟩ := tagSpan?_eq_some h
  rw [Text.cutText?_append hcut]
  have hpos : 1 ≤ brackets.1.length := by
    simp only [scanBrackets, List.mem_cons, List.not_mem_nil, or_false] at hb
    rcases hb with rfl | rfl <;> decide
  refine ⟨by simp only [List.append_assoc], ?_⟩
  simp only [List.length_append]
  omega

theorem tagSpan?_append {s tag rest : List Char} (h : tagSpan? s = some (tag, rest))
    (t : List Char) : tagSpan? (s ++ t) = some (tag, rest ++ t) := by
  obtain ⟨brackets, hb, inside, u, rfl, hcut, rfl⟩ := tagSpan?_eq_some h
  rw [List.append_assoc]
  exact tagSpan?_of_cutText? hb (Text.cutText?_append_right hcut t)

/-- The source with the lookups in its tags rewritten. -/
def scan (s : List Char) : List Char := rewriteTags s.length s

theorem rewriteTags_eq_scan {fuel : Nat} {s : List Char} (h : s.length ≤ fuel) :
    rewriteTags fuel s = scan s := by
  suffices ∀ {n m : Nat} {s : List Char}, s.length ≤ n → s.length ≤ m →
      rewriteTags n s = rewriteTags m s from this h le_rfl
  intro n
  induction n with
  | zero =>
    intro m s hn hm
    cases List.length_eq_zero_iff.1 (Nat.le_zero.1 hn)
    cases m <;> rfl
  | succ n ih =>
    intro m s hn hm
    cases s with
    | nil => cases m <;> rfl
    | cons c s =>
      obtain ⟨m, rfl⟩ : ∃ k, m = k + 1 := ⟨m - 1, by simp at hm; omega⟩
      have hstep : ∀ {t : List Char}, t.length + 1 ≤ (c :: s).length →
          rewriteTags n t = rewriteTags m t := fun ht =>
        ih (Nat.le_of_succ_le_succ (ht.trans hn)) (Nat.le_of_succ_le_succ (ht.trans hm))
      unfold rewriteTags
      split
      · next h => rw [hstep (length_of_tagSpan? h).2]
      · rw [hstep le_rfl]

theorem scan_tag {s tag rest : List Char} (h : tagSpan? s = some (tag, rest)) :
    scan s = scanTag none tag ++ scan rest := by
  have hlen := (length_of_tagSpan? h).2
  match s, h with
  | c :: s, h =>
    rw [scan, List.length_cons, rewriteTags]
    simp only [h]
    rw [rewriteTags_eq_scan (Nat.le_of_succ_le_succ hlen)]
    rfl

theorem scan_cons {c : Char} {s : List Char} (h : tagSpan? (c :: s) = none) :
    scan (c :: s) = c :: scan s := by
  rw [scan, List.length_cons, rewriteTags]
  simp only [h]
  rfl

theorem toList_rewriteLookups (source : String) :
    (rewriteLookups source).toList = scan source.toList := by
  rw [rewriteLookups, String.toList_ofList]
  rfl

/-- Every tag that the scanner finds in a text ends in it, and none begins at its end. -/
def closesWithin : Nat → List Char → Bool
  | _, [] => true
  | 0, _ :: _ => false
  | fuel + 1, c :: s =>
    match tagSpan? (c :: s) with
    | some (_, rest) => closesWithin fuel rest
    | none => !mayOpen (c :: s) && closesWithin fuel s

/-- A text that is closed to the scanner: what follows it makes no difference. -/
def IsClosed (s : List Char) : Prop := closesWithin s.length s = true

instance (s : List Char) : Decidable (IsClosed s) := inferInstanceAs (Decidable (_ = _))

theorem scan_append {s : List Char} (h : IsClosed s) (t : List Char) :
    scan (s ++ t) = scan s ++ scan t := by
  unfold IsClosed at h
  generalize s.length = fuel at h
  induction fuel generalizing s with
  | zero =>
    cases s with
    | nil => rfl
    | cons c s => cases h
  | succ fuel ih =>
    cases s with
    | nil => rfl
    | cons c s =>
      rw [closesWithin] at h
      split at h
      · next tag rest htag =>
        rw [scan_tag htag, scan_tag (tagSpan?_append htag t), ih h, List.append_assoc]
      · next hnone =>
        simp only [Bool.and_eq_true, Bool.not_eq_true'] at h
        have hnone' : tagSpan? (c :: (s ++ t)) = none := tagSpan?_eq_none h.1 t
        rw [scan_cons hnone, List.cons_append, scan_cons hnone', ih h.2, List.cons_append]

end BuildTool.Template
