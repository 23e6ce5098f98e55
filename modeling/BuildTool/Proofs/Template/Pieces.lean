import BuildTool.Proofs.Template.Parts
import BuildTool.Proofs.Template.Scanning
import Mathlib.Data.List.Infix

/-!
# Parts of a scanned template

Scanning a source keeps its characters but for lookups, which become calls. Whatever it takes for
tags, the source is cut into parts in the same way before and after:

    sources   e₁ p₁ e₂ p₂ …    with lookups  pᵢ,  and what they become

No bracket stands in a lookup or in a call, and the quotes in a call are closed in it. So no part
begins or ends in either of them.

## Sections

* sources in pieces;
* scanning in pieces;
* readers that keep in step;
* cutting into parts, before and after.
-/

namespace BuildTool.Template

variable {α β : Type}

/-! ## Sources in pieces -/

/-- A piece of a source: a character that is kept, or a lookup. -/
inductive Piece
  | kept (c : Char)
  | lookup (name : List Char)

namespace Piece

def old : Piece → List Char
  | .kept c => [c]
  | .lookup name => ['e', 'n', 'v', '.'] ++ name

def new : Piece → List Char
  | .kept c => [c]
  | .lookup name => lookupCall name

/-- What counts as a lookup has the name of one. -/
def IsProper : Piece → Prop
  | .kept _ => True
  | .lookup name => IsEntryName name

end Piece

/-- The source before scanning. -/
def olds (ps : List Piece) : List Char := ps.flatMap Piece.old

/-- The source after scanning. -/
def news (ps : List Piece) : List Char := ps.flatMap Piece.new

/-- All pieces are proper. -/
def Proper (ps : List Piece) : Prop := ∀ p ∈ ps, p.IsProper

@[simp] theorem olds_kept (c : Char) (ps : List Piece) : olds (.kept c :: ps) = c :: olds ps := rfl
@[simp] theorem news_kept (c : Char) (ps : List Piece) : news (.kept c :: ps) = c :: news ps := rfl

theorem olds_cons (p : Piece) (ps : List Piece) : olds (p :: ps) = p.old ++ olds ps :=
  List.flatMap_cons

theorem news_cons (p : Piece) (ps : List Piece) : news (p :: ps) = p.new ++ news ps :=
  List.flatMap_cons

@[simp] theorem olds_append (ps qs : List Piece) : olds (ps ++ qs) = olds ps ++ olds qs :=
  List.flatMap_append

@[simp] theorem news_append (ps qs : List Piece) : news (ps ++ qs) = news ps ++ news qs :=
  List.flatMap_append

theorem olds_lookup (name : List Char) (ps : List Piece) :
    olds (.lookup name :: ps) = 'e' :: 'n' :: 'v' :: '.' :: (name ++ olds ps) := rfl

theorem news_lookup (name : List Char) (ps : List Piece) :
    news (.lookup name :: ps) = 'e' :: 'n' :: 'v' :: '(' :: 'n' :: 'a' :: 'm' :: 'e' :: '=' ::
      '"' :: (name ++ '"' :: ')' :: news ps) :=
  lookupCall_append name (news ps)

/-- Characters that are all kept. -/
def keep (s : List Char) : List Piece := s.map Piece.kept

@[simp] theorem olds_keep (s : List Char) : olds (keep s) = s := by
  induction s with
  | nil => rfl
  | cons c s ih => exact congrArg (c :: ·) ih

@[simp] theorem news_keep (s : List Char) : news (keep s) = s := by
  induction s with
  | nil => rfl
  | cons c s ih => exact congrArg (c :: ·) ih

theorem Proper.keep (s : List Char) : Proper (keep s) := by
  intro p hp
  obtain ⟨c, -, rfl⟩ := List.mem_map.1 hp
  trivial

theorem Proper.append {ps qs : List Piece} (h : Proper ps) (h' : Proper qs) :
    Proper (ps ++ qs) := fun p hp => (List.mem_append.1 hp).elim (h p) (h' p)

/-! ## Scanning in pieces -/

/-- A text and what it has become, in pieces. -/
def InPieces (s s' : List Char) : Prop := ∃ ps, Proper ps ∧ s = olds ps ∧ s' = news ps

namespace InPieces

variable {s s' t t' : List Char}

theorem kept (s : List Char) : InPieces s s :=
  ⟨keep s, .keep s, (olds_keep s).symm, (news_keep s).symm⟩

theorem append (h : InPieces s s') (h' : InPieces t t') : InPieces (s ++ t) (s' ++ t') := by
  obtain ⟨ps, hps, rfl, rfl⟩ := h
  obtain ⟨qs, hqs, rfl, rfl⟩ := h'
  exact ⟨ps ++ qs, hps.append hqs, (olds_append ps qs).symm, (news_append ps qs).symm⟩

theorem lookup {name : List Char} (h : IsEntryName name) :
    InPieces (['e', 'n', 'v', '.'] ++ name) (lookupCall name) :=
  ⟨[.lookup name], List.forall_mem_singleton.2 h, by simp [olds, Piece.old],
    by simp [news, Piece.new]⟩

end InPieces

theorem inPieces_scanTag (before : Option Char) (s : List Char) :
    InPieces s (scanTag before s) := by
  induction hn : s.length using Nat.strong_induction_on generalizing before s with
  | _ n ih =>
    subst hn
    cases s with
    | nil => exact .kept []
    | cons c s =>
      rcases hquoted : quotedSpan? (c :: s) with _ | ⟨span, rest⟩
      · by_cases hdotted : c = '.' ∧ lookupAt? s ≠ none
        · obtain ⟨rfl, hsome⟩ := hdotted
          obtain ⟨⟨name, rest⟩, hlook⟩ := Option.ne_none_iff_exists'.1 hsome
          have hlen := length_of_lookupAt? hlook
          rw [scanTag_dotted hlook, (lookupAt?_eq_some hlook).1]
          have hrest := ih rest.length (by simp; omega) name.getLast? rest rfl
          have h := (InPieces.kept ('.' :: (['e', 'n', 'v', '.'] ++ name))).append hrest
          simpa using h
        · have hdotted : c = '.' → lookupAt? s = none := by simpa using hdotted
          by_cases hbare : before.any Text.isWord = false ∧ lookupAt? (c :: s) ≠ none
          · obtain ⟨hbefore, hsome⟩ := hbare
            obtain ⟨⟨name, rest⟩, hlook⟩ := Option.ne_none_iff_exists'.1 hsome
            have hlen := length_of_lookupAt? hlook
            obtain ⟨he, hname, -⟩ := lookupAt?_eq_some hlook
            rw [scanTag_lookup hbefore hlook, he, ← List.append_assoc]
            exact (InPieces.lookup hname).append
              (ih rest.length (by simp at hlen ⊢; omega) name.getLast? rest rfl)
          · have hbare : before.any Text.isWord = false → lookupAt? (c :: s) = none := by
              simpa using hbare
            rw [scanTag_cons hquoted hdotted hbare]
            exact (InPieces.kept [c]).append (ih s.length (by simp) (some c) s rfl)
      · have hlen := length_of_quotedSpan? hquoted
        rw [scanTag_quoted hquoted, (quotedSpan?_eq_some hquoted).1]
        exact (InPieces.kept span).append (ih rest.length (by omega) span.getLast? rest rfl)

/-- Scanning turns some lookups into calls and keeps everything else. -/
theorem inPieces_scan (s : List Char) : InPieces s (scan s) := by
  induction hn : s.length using Nat.strong_induction_on generalizing s with
  | _ n ih =>
    subst hn
    cases s with
    | nil => exact .kept []
    | cons c s =>
      rcases htag : tagSpan? (c :: s) with _ | ⟨tag, rest⟩
      · rw [scan_cons htag]
        exact (InPieces.kept [c]).append (ih s.length (by simp) s rfl)
      · obtain ⟨hs, hlen⟩ := length_of_tagSpan? htag
        rw [scan_tag htag, hs]
        exact (inPieces_scanTag none tag).append (ih rest.length (by omega) rest rfl)

/-! ## Readers that keep in step -/

/-- Two rests are the same pieces, before scanning and after. -/
def InStep (ps : List Piece) (rest rest' : List Char) : Prop :=
  ∃ qs, qs <:+ ps ∧ rest = olds qs ∧ rest' = news qs

/-- Two readings have the same value and leave the same pieces. -/
def SameStep (ps : List Piece) (r r' : α × List Char) : Prop := r.1 = r'.1 ∧ InStep ps r.2 r'.2

namespace InStep

variable {ps qs : List Piece} {rest rest' : List Char}

theorem refl (ps : List Piece) : InStep ps (olds ps) (news ps) := ⟨ps, List.suffix_rfl, rfl, rfl⟩

theorem of_suffix (h : qs <:+ ps) (h' : InStep qs rest rest') : InStep ps rest rest' := by
  obtain ⟨rs, hrs, rfl, rfl⟩ := h'
  exact ⟨rs, hrs.trans h, rfl, rfl⟩

theorem cons (p : Piece) (h : InStep ps rest rest') : InStep (p :: ps) rest rest' :=
  h.of_suffix (List.suffix_cons p ps)

end InStep

theorem rel_bind {γ δ : Type} {R : α → β → Prop} {S : γ → δ → Prop} {o : Option α} {o' : Option β}
    {f : α → Option γ} {g : β → Option δ} (h : Option.Rel R o o')
    (hfg : ∀ a b, R a b → Option.Rel S (f a) (g b)) : Option.Rel S (o.bind f) (o'.bind g) := by
  cases h with
  | none => exact .none
  | some h => exact hfg _ _ h

theorem rel_map {γ δ : Type} {R : α → β → Prop} {S : γ → δ → Prop} {o : Option α} {o' : Option β}
    {f : α → γ} {g : β → δ} (h : Option.Rel R o o') (hfg : ∀ a b, R a b → S (f a) (g b)) :
    Option.Rel S (o.map f) (o'.map g) := by
  cases h with
  | none => exact .none
  | some h => exact .some (hfg _ _ h)

theorem rel_mono {R S : α → β → Prop} {o : Option α} {o' : Option β} (h : Option.Rel R o o')
    (hRS : ∀ a b, R a b → S a b) : Option.Rel S o o' := by
  cases h with
  | none => exact .none
  | some h => exact .some (hRS _ _ h)

/-- A word that does not overlap with the beginning of a lookup or a call. -/
def IsApart (word : List Char) : Prop :=
  ∀ t ∈ word.tails, t ≠ [] → ¬ t <+: ['e', 'n', 'v'] ∧ ¬ ['e', 'n', 'v'] <+: t

instance (word : List Char) : Decidable (IsApart word) :=
  inferInstanceAs (Decidable (∀ _ ∈ _, _))

theorem IsApart.tail {c : Char} {word : List Char} (h : IsApart (c :: word)) : IsApart word := by
  intro t ht
  have hsuffix : t <:+ c :: word := ((List.mem_tails ..).1 ht).trans (List.suffix_cons c word)
  exact h t ((List.mem_tails ..).2 hsuffix)

theorem IsApart.dropStart?_eq_none {c : Char} {word : List Char} (h : IsApart (c :: word))
    (s : List Char) : Text.dropStart? (c :: word) ('e' :: 'n' :: 'v' :: s) = none := by
  obtain ⟨hshort, hlong⟩ := h (c :: word) (by simp) (List.cons_ne_nil c word)
  refine Option.eq_none_iff_forall_ne_some.2 fun rest hd => ?_
  have he : ['e', 'n', 'v'] ++ s = c :: word ++ rest := Text.dropStart?_eq_some_iff.1 hd
  rcases List.append_eq_append_iff.1 he with ⟨r, hr, -⟩ | ⟨r, hr, -⟩
  · exact hlong ⟨r, hr.symm⟩
  · exact hshort ⟨r, hr.symm⟩

theorem dropStart?_inStep {word : List Char} (h : IsApart word) (ps : List Piece) :
    Option.Rel (InStep ps) (Text.dropStart? word (olds ps)) (Text.dropStart? word (news ps)) := by
  induction word generalizing ps with
  | nil => exact .some (.refl ps)
  | cons a word ih =>
    cases ps with
    | nil => exact .none
    | cons p ps =>
      cases p with
      | kept c =>
        rw [olds_kept, news_kept, Text.dropStart?, Text.dropStart?]
        split
        · exact rel_mono (ih h.tail ps) fun _ _ => .cons _
        · exact .none
      | lookup name =>
        rw [olds_lookup, news_lookup, h.dropStart?_eq_none, h.dropStart?_eq_none]
        exact .none

theorem skip_inStep (ps : List Piece) : InStep ps (skip (olds ps)) (skip (news ps)) := by
  induction ps with
  | nil => exact .refl []
  | cons p ps ih =>
    cases p with
    | kept c =>
      rw [olds_kept, news_kept, skip, skip, List.dropWhile_cons, List.dropWhile_cons]
      split
      · exact ih.cons _
      · exact .refl (.kept c :: ps)
    | lookup name => exact .refl (.lookup name :: ps)

theorem head?_olds (ps : List Piece) : (olds ps).head? = (news ps).head? := by
  cases ps with
  | nil => rfl
  | cons p ps => cases p <;> rfl

theorem tagStart?_eq (start : String) (s : List Char) : tagStart? start s =
    (after? start s).map fun t =>
      if t.head? = some '-' then (true, t.tail) else (false, t) := by
  unfold tagStart?
  rcases after? start s with _ | t
  · rfl
  · simp only [Option.bind_eq_bind, Option.bind_some, Option.map_some]
    split
    · rfl
    · next hne =>
      rw [if_neg]
      · rfl
      · intro hhead
        obtain ⟨rest, rfl⟩ := List.head?_eq_some_iff.1 hhead
        exact hne rest rfl

theorem tagStart?_inStep {start : String} (h : IsApart start.toList) (ps : List Piece) :
    Option.Rel (SameStep ps) (tagStart? start (olds ps)) (tagStart? start (news ps)) := by
  rw [tagStart?_eq, tagStart?_eq]
  refine rel_map (dropStart?_inStep h ps) ?_
  rintro _ _ ⟨qs, hqs, rfl, rfl⟩
  rw [head?_olds]
  split
  · next hhead =>
    cases qs with
    | nil => cases hhead
    | cons p qs =>
      cases p with
      | kept c => exact ⟨rfl, .of_suffix hqs ((InStep.refl qs).cons _)⟩
      | lookup name => cases hhead
  · exact ⟨rfl, .of_suffix hqs (.refl qs)⟩

theorem tagEnd?_inStep {stop : String} (h : IsApart stop.toList)
    (h' : IsApart ("-" ++ stop).toList) (ps : List Piece) :
    Option.Rel (SameStep ps) (tagEnd? stop (olds ps)) (tagEnd? stop (news ps)) := by
  have hhyphen := dropStart?_inStep h' ps
  unfold tagEnd? after?
  generalize Text.dropStart? ("-" ++ stop).toList (olds ps) = o at hhyphen
  generalize Text.dropStart? ("-" ++ stop).toList (news ps) = o' at hhyphen
  cases hhyphen with
  | some hstep => exact .some ⟨rfl, hstep⟩
  | none => exact rel_map (dropStart?_inStep h ps) fun _ _ hstep => ⟨rfl, hstep⟩

theorem wordTag?_inStep {word : String} (h : IsApart word.toList) (ps : List Piece) :
    Option.Rel (SameStep ps) (wordTag? word false (olds ps)) (wordTag? word false (news ps)) := by
  refine rel_bind (tagStart?_inStep (by decide) ps) ?_
  rintro ⟨left, _⟩ ⟨_, _⟩ ⟨rfl, qs, hqs, rfl, rfl⟩
  obtain ⟨rs, hrs, hold, hnew⟩ := skip_inStep qs
  dsimp only
  rw [hold, hnew]
  refine rel_bind (dropStart?_inStep h rs) ?_
  rintro _ _ ⟨ts, hts, rfl, rfl⟩
  obtain ⟨us, hus, hold, hnew⟩ := skip_inStep ts
  simp only [Bool.false_eq_true, if_false]
  rw [hold, hnew]
  refine rel_bind (tagEnd?_inStep (by decide) (by decide) us) ?_
  rintro ⟨right, _⟩ ⟨_, _⟩ ⟨rfl, hstep⟩
  exact .some ⟨rfl, .of_suffix (hus.trans (hts.trans (hrs.trans hqs))) hstep⟩

/-! ## Readers of parts -/

/-- Signs of which parts of a template are told apart by. -/
def partSigns : List Char := ['\x7b', '\x7d', '%', '#']

theorem not_mem_lookup {a : Char} (ha : a ∈ partSigns) {name : List Char} (h : IsEntryName name) :
    a ∉ Piece.old (.lookup name) ∧ a ∉ Piece.new (.lookup name) := by
  have hname : ∀ a ∈ partSigns, isNameChar a = false ∧ a ∉ ['e', 'n', 'v', '.'] ∧
      a ∉ ['e', 'n', 'v', '(', 'n', 'a', 'm', 'e', '=', '"'] ∧ a ∉ ['"', ')'] := by decide
  obtain ⟨hnot, hold, hopen, hclose⟩ := hname a ha
  have hmem : a ∉ name := fun hm => by cases hnot.symm.trans (h.chars a hm)
  rw [Piece.old, Piece.new, lookupCall_eq]
  simp only [List.mem_append, not_or]
  exact ⟨⟨hold, hmem⟩, ⟨hopen, hmem⟩, hclose⟩

theorem Proper.cons {p : Piece} {ps : List Piece} (h : Proper (p :: ps)) :
    p.IsProper ∧ Proper ps := List.forall_mem_cons.1 h

theorem cutText?_pass {a : Char} {stop x : List Char} (hx : a ∉ x) (s : List Char) :
    Text.cutText? (a :: stop) (x ++ s) =
      (Text.cutText? (a :: stop) s).map fun cut => (x ++ cut.1, cut.2) := by
  refine Text.cutText?_append_of_none fun y c z hs => if_neg ?_
  rintro rfl
  exact hx (by simp [hs])

theorem cutText?_inStep {a : Char} (ha : a ∈ partSigns) {stop : List Char}
    (hstop : IsApart (a :: stop)) {ps : List Piece} (hps : Proper ps) :
    Option.Rel (fun r r' => InStep ps r.2 r'.2) (Text.cutText? (a :: stop) (olds ps))
      (Text.cutText? (a :: stop) (news ps)) := by
  induction ps with
  | nil => exact .none
  | cons p ps ih =>
    obtain ⟨hp, hps⟩ := hps.cons
    have ih := ih hps
    cases p with
    | kept c =>
      have hdrop := dropStart?_inStep hstop (.kept c :: ps)
      rw [olds_kept, news_kept] at hdrop ⊢
      unfold Text.cutText?
      generalize Text.dropStart? (a :: stop) (c :: olds ps) = o at hdrop
      generalize Text.dropStart? (a :: stop) (c :: news ps) = o' at hdrop
      cases hdrop with
      | some h => exact .some h
      | none => exact rel_map ih fun _ _ h => h.cons _
    | lookup name =>
      obtain ⟨hold, hnew⟩ := not_mem_lookup ha hp
      rw [olds_cons, news_cons, cutText?_pass hold, cutText?_pass hnew]
      exact rel_map ih fun _ _ h => h.cons _

theorem isQuote_of_isNameChar {c : Char} (h : isNameChar c = true) : isQuote c = false := by
  have hplain := isPlain_of_isNameChar h
  simp only [isPlain, Bool.and_eq_true, Bool.not_eq_true'] at hplain
  exact hplain.1.1.2

/-- What a text between quotes waits for, if anything, is a quote. -/
def WaitsForQuote (quote : Option Char) : Prop := ∀ q, quote = some q → isQuote q = true

theorem quoteAfter_waits {quote : Option Char} (h : WaitsForQuote quote) (c : Char) :
    WaitsForQuote (quoteAfter quote c) := by
  cases quote with
  | none =>
    intro q hq
    obtain ⟨hc, he⟩ := Option.ite_none_right_eq_some.1 hq
    cases he
    exact hc
  | some q₀ =>
    intro q hq
    obtain ⟨-, he⟩ := Option.ite_none_left_eq_some.1 hq
    exact h q he

theorem quoteAfter_word {quote : Option Char} (h : WaitsForQuote quote) {x : List Char}
    (hx : ∀ c ∈ x, isQuote c = false) : x.foldl quoteAfter quote = quote := by
  induction x with
  | nil => rfl
  | cons c x ih =>
    rw [List.forall_mem_cons] at hx
    have hstay : quoteAfter quote c = quote := by
      cases quote with
      | none => simp [quoteAfter, hx.1]
      | some q =>
        refine if_neg ?_
        rintro rfl
        cases hx.1.symm.trans (h c rfl)
    rw [List.foldl_cons, hstay, ih hx.2]

/-- Two quotes of a kind, the one behind the other, change nothing. -/
theorem quoteAfter_twice {quote : Option Char} (h : WaitsForQuote quote) {q : Char}
    (hq : isQuote q = true) : quoteAfter (quoteAfter quote q) q = quote := by
  cases quote with
  | none => simp [quoteAfter, hq]
  | some q₀ =>
    by_cases hne : q = q₀
    · subst hne
      simp [quoteAfter, hq]
    · simp [quoteAfter, hne]

/-- Quotes are closed in a lookup, and in a call. -/
theorem quoteAfter_lookup {name : List Char} (hname : IsEntryName name) {quote : Option Char}
    (h : WaitsForQuote quote) :
    (Piece.old (.lookup name)).foldl quoteAfter quote = quote ∧
      (Piece.new (.lookup name)).foldl quoteAfter quote = quote := by
  have hchars : ∀ c ∈ name, isQuote c = false := fun c hc =>
    isQuote_of_isNameChar (hname.chars c hc)
  refine ⟨?_, ?_⟩
  · rw [Piece.old, List.foldl_append, quoteAfter_word h (by decide), quoteAfter_word h hchars]
  · have hopen : ['e', 'n', 'v', '(', 'n', 'a', 'm', 'e', '=', '"'].foldl quoteAfter quote =
        quoteAfter quote '"' := by
      rw [show ['e', 'n', 'v', '(', 'n', 'a', 'm', 'e', '=', '"'] =
        ['e', 'n', 'v', '(', 'n', 'a', 'm', 'e', '='] ++ ['"'] from rfl, List.foldl_append,
        quoteAfter_word h (by decide)]
      rfl
    rw [Piece.new, lookupCall_eq, List.foldl_append, List.foldl_append, hopen,
      quoteAfter_word (quoteAfter_waits h '"') hchars, List.foldl_cons, quoteAfter_twice h rfl,
      quoteAfter_word h (by decide)]

theorem cutTag?_inStep {a : Char} (ha : a ∈ partSigns) {stop : List Char}
    (hstop : IsApart (a :: stop)) {ps : List Piece} (hps : Proper ps) {quote : Option Char}
    (hquote : WaitsForQuote quote) :
    Option.Rel (fun r r' => InStep ps r.2 r'.2) (cutTag? (a :: stop) quote (olds ps))
      (cutTag? (a :: stop) quote (news ps)) := by
  induction ps generalizing quote with
  | nil => exact .none
  | cons p ps ih =>
    obtain ⟨hp, hrest⟩ := hps.cons
    cases p with
    | kept c =>
      have hdrop : Option.Rel (InStep (.kept c :: ps))
          (if quote = none then Text.dropStart? (a :: stop) (olds (.kept c :: ps)) else none)
          (if quote = none then Text.dropStart? (a :: stop) (news (.kept c :: ps)) else none) := by
        split
        · exact dropStart?_inStep hstop _
        · exact .none
      have ih := ih hrest (quoteAfter_waits hquote c)
      rw [olds_kept, news_kept] at hdrop ⊢
      unfold cutTag?
      generalize (if quote = none then Text.dropStart? (a :: stop) (c :: olds ps) else none) = o
        at hdrop
      generalize (if quote = none then Text.dropStart? (a :: stop) (c :: news ps) else none) = o'
        at hdrop
      cases hdrop with
      | some h => exact .some h
      | none => exact rel_map ih fun _ _ h => h.cons _
    | lookup name =>
      obtain ⟨hold, hnew⟩ := not_mem_lookup ha hp
      obtain ⟨hquoteOld, hquoteNew⟩ := quoteAfter_lookup hp hquote
      rw [olds_cons, news_cons, cutTag?_pass hold, cutTag?_pass hnew, hquoteOld, hquoteNew]
      exact rel_map (ih hrest hquote) fun _ _ h => h.cons _

theorem wordTag?_eq_none {word : String} {named : Bool} {c : Char} (hc : c ≠ '\x7b')
    (s : List Char) : wordTag? word named (c :: s) = none := by
  have hnone : tagStart? statementStart (c :: s) = none := by
    rw [tagStart?_eq, show after? statementStart (c :: s) = none from if_neg (Ne.symm hc)]
    rfl
  rw [wordTag?, hnone]
  rfl

theorem rawText_pass {x : List Char} (hx : '\x7b' ∉ x) (s : List Char) :
    rawText (x ++ s) = (rawText s).map fun r => (x ++ r.1, r.2) := by
  induction x with
  | nil => simp
  | cons c x ih =>
    rw [List.mem_cons, not_or] at hx
    rw [List.cons_append, rawText, wordTag?_eq_none (Ne.symm hx.1), ih hx.2, Option.map_map]
    rfl

theorem rawText_inStep {ps : List Piece} (hps : Proper ps) :
    Option.Rel (fun r r' => ∃ as bs, ps = as ++ bs ∧ r.1 = olds as ∧ r'.1 = news as ∧
      SameStep bs r.2 r'.2) (rawText (olds ps)) (rawText (news ps)) := by
  induction ps with
  | nil => exact .none
  | cons p ps ih =>
    obtain ⟨hp, hps⟩ := hps.cons
    have ih := rel_map (ih hps) (f := fun r => (p.old ++ r.1, r.2))
      (g := fun r => (p.new ++ r.1, r.2))
      (S := fun r r' => ∃ as bs, p :: ps = as ++ bs ∧ r.1 = olds as ∧ r'.1 = news as ∧
        SameStep bs r.2 r'.2) ?_
    · cases p with
      | kept c =>
        have hend := wordTag?_inStep (by decide : IsApart "endraw".toList) (.kept c :: ps)
        rw [olds_kept, news_kept] at hend ⊢
        unfold rawText
        generalize wordTag? "endraw" false (c :: olds ps) = o at hend
        generalize wordTag? "endraw" false (c :: news ps) = o' at hend
        cases hend with
        | some h => exact .some ⟨[], _, rfl, rfl, rfl, h⟩
        | none => exact ih
      | lookup name =>
        obtain ⟨hold, hnew⟩ := not_mem_lookup (a := '\x7b') (by decide) hp
        rw [olds_cons, news_cons, rawText_pass hold, rawText_pass hnew]
        exact ih
    · rintro _ _ ⟨as, bs, rfl, hr, hr', h⟩
      exact ⟨p :: as, bs, rfl, by rw [hr, olds_cons], by rw [hr', news_cons], h⟩

/-- A character begins a tag or a comment with what follows it. -/
def opensPart (c : Char) (rest : List Char) : Bool :=
  c == '\x7b' && rest.head?.any fun d => d == '\x7b' || d == '%' || d == '#'

theorem opensPart_iff {c : Char} {s : List Char} : opensPart c s = true ↔
    c = '\x7b' ∧ ∃ d t, s = d :: t ∧ (d = '\x7b' ∨ d = '%' ∨ d = '#') := by
  cases s <;> simp [opensPart, or_assoc]

theorem opensPart_olds (c : Char) (ps : List Piece) :
    opensPart c (olds ps) = opensPart c (news ps) := by
  rw [opensPart, opensPart, head?_olds]

theorem plainText_cons (c : Char) (s : List Char) : plainText (c :: s) =
    if opensPart c s then ([], c :: s) else (c :: (plainText s).1, (plainText s).2) := by
  split
  · next hopens =>
    obtain ⟨rfl, d, t, rfl, rfl | rfl | rfl⟩ := opensPart_iff.1 hopens <;> rfl
  · next hopens =>
    rw [opensPart_iff] at hopens
    rw [plainText]
    · rintro t rfl rfl
      exact hopens ⟨rfl, _, t, rfl, .inl rfl⟩
    · rintro t rfl rfl
      exact hopens ⟨rfl, _, t, rfl, .inr (.inl rfl)⟩
    · rintro t rfl rfl
      exact hopens ⟨rfl, _, t, rfl, .inr (.inr rfl)⟩

theorem plainText_pass {x : List Char} (hx : '\x7b' ∉ x) (s : List Char) :
    plainText (x ++ s) = (x ++ (plainText s).1, (plainText s).2) := by
  induction x with
  | nil => rfl
  | cons c x ih =>
    rw [List.mem_cons, not_or] at hx
    have hopens : opensPart c (x ++ s) = false := by simp [opensPart, Ne.symm hx.1]
    rw [List.cons_append, plainText_cons, hopens, ih hx.2]
    rfl

theorem plainText_inStep {ps : List Piece} (hps : Proper ps) :
    InStep ps (plainText (olds ps)).2 (plainText (news ps)).2 := by
  induction ps with
  | nil => exact .refl []
  | cons p ps ih =>
    obtain ⟨hp, hps⟩ := hps.cons
    have ih := ih hps
    cases p with
    | kept c =>
      rw [olds_kept, news_kept, plainText_cons, plainText_cons, opensPart_olds]
      split
      · exact .refl (.kept c :: ps)
      · exact ih.cons _
    | lookup name =>
      obtain ⟨hold, hnew⟩ := not_mem_lookup (a := '\x7b') (by decide) hp
      rw [olds_cons, news_cons, plainText_pass hold, plainText_pass hnew]
      exact ih.cons _

/-! ## Cutting into parts -/

/-- Parts in pieces, before scanning. -/
def oldParts (ks : List (PartKind × List Piece)) : List Part := ks.map fun k => ⟨k.1, olds k.2⟩

/-- Parts in pieces, after scanning. -/
def newParts (ks : List (PartKind × List Piece)) : List Part := ks.map fun k => ⟨k.1, news k.2⟩

/-- Two cuts are made between the same pieces, before scanning and after. -/
def CutAlike (ps : List Piece) (r r' : List Part × List Char) : Prop :=
  ∃ ks qs, ps = ks.flatMap Prod.snd ++ qs ∧ r = (oldParts ks, olds qs) ∧ r' = (newParts ks, news qs)

theorem CutAlike.one {ps : List Piece} {rest rest' : List Char} (h : InStep ps rest rest')
    (kind : PartKind) : CutAlike ps ([⟨kind, consumed (olds ps) rest⟩], rest)
      ([⟨kind, consumed (news ps) rest'⟩], rest') := by
  obtain ⟨qs, ⟨as, rfl⟩, rfl, rfl⟩ := h
  refine ⟨[(kind, as)], qs, by simp, ?_, ?_⟩
  · rw [olds_append, consumed_append]
    rfl
  · rw [news_append, consumed_append]
    rfl

theorem nextTag?_inStep {a : Char} (ha : a ∈ partSigns) {stop : List Char}
    (hstop : IsApart (a :: stop)) {ps qs : List Piece} (hqs : qs <:+ ps) (h : Proper qs) :
    Option.Rel (CutAlike ps) (nextTag? (a :: stop) (olds ps) (olds qs))
      (nextTag? (a :: stop) (news ps) (news qs)) :=
  rel_map (cutTag?_inStep ha hstop h nofun) fun _ _ hstep => .one (.of_suffix hqs hstep) .tag

theorem nextParts?_text {c : Char} {s : List Char} (h : opensPart c s = false) :
    nextParts? (c :: s) = some ([⟨.text, (plainText (c :: s)).1⟩], (plainText (c :: s)).2) := by
  unfold nextParts?
  split
  · next he => cases he
  iterate 3
    · next he =>
      cases he
      cases h
  · rfl

theorem plainText_fst (s : List Char) : (plainText s).1 = consumed s (plainText s).2 :=
  calc (plainText s).1
    _ = consumed ((plainText s).1 ++ (plainText s).2) (plainText s).2 := (consumed_append ..).symm
    _ = consumed s (plainText s).2 := by rw [plainText_append]

/-- Raw text and the tags around it. -/
theorem raw_inStep {ps bs : List Piece} (hbs : bs <:+ ps) (h : Proper bs) :
    Option.Rel (CutAlike ps)
      ((rawText (olds bs)).map fun r =>
        ([⟨.tag, consumed (olds ps) (olds bs)⟩, ⟨.raw, r.1⟩,
          ⟨.tag, consumed ((olds bs).drop r.1.length) r.2.2⟩], r.2.2))
      ((rawText (news bs)).map fun r =>
        ([⟨.tag, consumed (news ps) (news bs)⟩, ⟨.raw, r.1⟩,
          ⟨.tag, consumed ((news bs).drop r.1.length) r.2.2⟩], r.2.2)) := by
  refine rel_map (rawText_inStep h) ?_
  rintro ⟨_, _, _⟩ ⟨_, _, _⟩ ⟨as, cs, rfl, rfl, rfl, rfl, ds, ⟨us, rfl⟩, rfl, rfl⟩
  obtain ⟨ts, rfl⟩ := hbs
  refine ⟨[(.tag, ts), (.raw, as), (.tag, us)], ds, by simp, ?_, ?_⟩
  · simp only [olds_append, consumed_append, List.drop_left]
    rfl
  · simp only [news_append, consumed_append, List.drop_left]
    rfl

theorem nextStatement_inStep {ps : List Piece} (hps : Proper (.kept '\x7b' :: .kept '%' :: ps)) :
    Option.Rel (CutAlike (.kept '\x7b' :: .kept '%' :: ps)) (nextParts? ('\x7b' :: '%' :: olds ps))
      (nextParts? ('\x7b' :: '%' :: news ps)) := by
  have hraw := wordTag?_inStep (by decide : IsApart "raw".toList)
    (.kept '\x7b' :: .kept '%' :: ps)
  simp only [olds_kept, news_kept] at hraw
  rw [nextParts?, nextParts?]
  generalize wordTag? "raw" false ('\x7b' :: '%' :: olds ps) = o at hraw
  generalize wordTag? "raw" false ('\x7b' :: '%' :: news ps) = o' at hraw
  cases hraw with
  | none =>
    exact nextTag?_inStep (by decide) (by decide) ⟨[.kept '\x7b', .kept '%'], rfl⟩ hps.cons.2.cons.2
  | @some r r' h =>
    obtain ⟨start, body⟩ := r
    obtain ⟨start', body'⟩ := r'
    obtain ⟨-, bs, hbs, rfl, rfl⟩ := h
    exact raw_inStep hbs fun p hp => hps p (hbs.subset hp)

theorem nextParts?_inStep {ps : List Piece} (hps : Proper ps) :
    Option.Rel (CutAlike ps) (nextParts? (olds ps)) (nextParts? (news ps)) := by
  have htext : ∀ {c s s'}, olds ps = c :: s → news ps = c :: s' → opensPart c s = false →
      opensPart c s' = false →
      Option.Rel (CutAlike ps) (nextParts? (olds ps)) (nextParts? (news ps)) := by
    intro c s s' hs hs' hopens hopens'
    rw [hs, hs', nextParts?_text hopens, nextParts?_text hopens', ← hs, ← hs', plainText_fst,
      plainText_fst (news ps)]
    exact .some (.one (plainText_inStep hps) .text)
  cases ps with
  | nil => exact .none
  | cons p ps =>
    cases p with
    | lookup name => exact htext rfl rfl rfl rfl
    | kept c =>
      by_cases hopens : opensPart c (olds ps) = true
      · obtain ⟨rfl, d, t, hd, hsign⟩ := opensPart_iff.1 hopens
        cases ps with
        | nil => cases hd
        | cons p ps =>
          cases p with
          | lookup name =>
            cases hd
            rcases hsign with h | h | h <;> cases h
          | kept d =>
            cases hd
            rcases hsign with rfl | rfl | rfl
            · exact nextTag?_inStep (by decide) (by decide) ⟨[.kept '\x7b', .kept '\x7b'], rfl⟩
                hps.cons.2.cons.2
            · exact nextStatement_inStep hps
            · refine rel_map (cutText?_inStep (by decide) (by decide) hps.cons.2.cons.2) ?_
              exact fun _ _ h => .one ((h.cons _).cons _) .comment
      · have hopens := Bool.eq_false_iff.2 hopens
        exact htext rfl rfl hopens (opensPart_olds c ps ▸ hopens)

end BuildTool.Template
