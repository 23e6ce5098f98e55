import BuildTool.Proofs.Template.Scanning
import BuildTool.Template.Preprocess

/-!
# Lookups in tags

A tag that can be read is made of texts between quotes, words and signs. Every lookup that a word
of it begins with becomes a call, and nothing else in the tag changes:

    scan (start ++ tokens ++ stop ++ rest)  =  start ++ tokens with calls ++ stop ++ scan rest

The scanner takes brackets for the end of a tag even between quotes, and takes a backslash between
quotes for an escape, which it is not. So this holds up to the first text between quotes that makes
a difference there.

## Sections

* tokens of tags;
* scanning tokens, and a tag made of them;
* calls in place of lookups, as they are read and evaluated;
* tags that are read.
-/

namespace BuildTool.Template

variable {α : Type}

/-! ## Tokens -/

/-- A character in a name, a number or a path. -/
def isWordChar (c : Char) : Bool := isNameChar c || c == '.'

/-- The pieces of what stands in a tag. -/
inductive Token
  | quoted (quote : Char) (text : List Char)
  | word (chars : List Char)
  | sign (c : Char)
  deriving DecidableEq

namespace Token

def source : Token → List Char
  | .quoted quote text => quote :: (text ++ [quote])
  | .word chars => chars
  | .sign c => [c]

/-- The text of a token where the lookup that a word begins with is a call. -/
def withCall : Token → List Char
  | .quoted quote text => quote :: (text ++ [quote])
  | .word chars =>
    match lookupAt? chars with
    | some (name, rest) => lookupCall name ++ rest
    | none => chars
  | .sign c => [c]

def isWord : Token → Bool
  | .word _ => true
  | _ => false

/-- The scanner ends this text between quotes where it ends, and no tag in it. -/
def IsSeen (stop : List Char) : Token → Prop
  | .quoted quote text =>
    quotedSpan? (quote :: (text ++ [quote])) = some (quote :: (text ++ [quote]), []) ∧
      ¬ stop <:+: text
  | _ => True

instance (stop : List Char) : (t : Token) → Decidable (t.IsSeen stop)
  | .quoted .. => inferInstanceAs (Decidable (_ ∧ _))
  | .word _ => .isTrue trivial
  | .sign _ => .isTrue trivial

end Token

/-- Tokens as they are told apart: words are as long as they can be, and a text between quotes goes
up to the next quote of its kind. -/
inductive Tokens : List Token → Prop
  | nil : Tokens []
  | quoted {q : Char} {t : List Char} {rest : List Token} (hq : isQuote q = true) (ht : q ∉ t)
      (h : Tokens rest) : Tokens (.quoted q t :: rest)
  | word {w : List Char} {rest : List Token} (hne : w ≠ []) (hw : ∀ c ∈ w, isWordChar c = true)
      (hrest : ∀ t, rest.head? = some t → t.isWord = false) (h : Tokens rest) :
      Tokens (.word w :: rest)
  | sign {c : Char} {rest : List Token} (hc : isPlain c = true) (hw : isWordChar c = false)
      (h : Tokens rest) : Tokens (.sign c :: rest)

theorem Inside.tokens {s : List Char} (h : Inside s) :
    ∃ ts, Tokens ts ∧ s = ts.flatMap Token.source := by
  induction h with
  | nil => exact ⟨[], .nil, rfl⟩
  | quoted hq ht _ ih =>
    obtain ⟨ts, hts, rfl⟩ := ih
    exact ⟨_, .quoted hq ht hts, by simp [Token.source]⟩
  | @plain c rest hc _ ih =>
    obtain ⟨ts, hts, rfl⟩ := ih
    by_cases hw : isWordChar c = true
    · cases hts with
      | word hne hw' hrest h =>
        exact ⟨_, .word (List.cons_ne_nil c _) (List.forall_mem_cons.2 ⟨hw, hw'⟩) hrest h, rfl⟩
      | nil => exact ⟨_, .word (List.cons_ne_nil c []) (by simpa using hw) (by simp) .nil, rfl⟩
      | quoted hq ht h =>
        exact ⟨_, .word (List.cons_ne_nil c []) (by simpa using hw) (by simp [Token.isWord])
          (.quoted hq ht h), rfl⟩
      | sign hc' hw' h =>
        exact ⟨_, .word (List.cons_ne_nil c []) (by simpa using hw) (by simp [Token.isWord])
          (.sign hc' hw' h), rfl⟩
    · exact ⟨_, .sign hc (Bool.eq_false_iff.2 hw) hts, rfl⟩

/-! ## Scanning tokens -/

/-- No word goes on with this text. -/
def EndsWord (y : List Char) : Prop := ∀ c, y.head? = some c → isWordChar c = false

theorem not_isWordChar {c : Char} (h : isWordChar c = false) :
    isNameChar c = false ∧ c ≠ '.' := by
  simpa [isWordChar] using h

theorem isQuote_of_isWordChar {c : Char} (h : isWordChar c = true) : isQuote c = false := by
  refine Bool.eq_false_iff.2 fun hq => ?_
  simp only [isQuote, Bool.or_eq_true, beq_iff_eq] at hq
  rcases hq with (rfl | rfl) | rfl <;> cases h

/-- Word characters in front of a text that ends the word are part of the word. -/
theorem exists_of_append_eq {x rest w y : List Char} (hx : ∀ c ∈ x, isWordChar c = true)
    (hy : EndsWord y) (h : x ++ rest = w ++ y) : ∃ r, w = x ++ r ∧ rest = r ++ y := by
  rcases List.append_eq_append_iff.1 h with ⟨r, rfl, rfl⟩ | ⟨r, rfl, rfl⟩
  · exact ⟨r, rfl, rfl⟩
  · cases r with
    | nil => exact ⟨[], by simp, rfl⟩
    | cons c r =>
      have := hx c (by simp)
      rw [hy c rfl] at this
      cases this

theorem isWordChar_of_lookup {name : List Char} (hname : IsEntryName name) :
    ∀ c ∈ ['e', 'n', 'v', '.'] ++ name, isWordChar c = true := by
  have henv : ∀ c ∈ ['e', 'n', 'v', '.'], isWordChar c = true := by decide
  intro c hc
  rcases List.mem_append.1 hc with hc | hc
  · exact henv c hc
  · rw [isWordChar, hname.chars c hc, Bool.true_or]

/-- A lookup in a word does not reach behind it. -/
theorem lookupAt?_append_right {y : List Char} (hy : EndsWord y) (w : List Char) :
    lookupAt? (w ++ y) = (lookupAt? w).map fun p => (p.1, p.2 ++ y) := by
  have hhead : ∀ {r : List Char}, (∀ c, r.head? = some c → isNameChar c = false) →
      ∀ c, (r ++ y).head? = some c → isNameChar c = false := by
    intro r hr c hc
    cases r with
    | nil => exact (not_isWordChar (hy c hc)).1
    | cons d r => exact hr c hc
  rcases hw : lookupAt? w with _ | ⟨name, r⟩
  · rcases hwy : lookupAt? (w ++ y) with _ | ⟨name, rest⟩
    · rfl
    · obtain ⟨he, hname, hrest⟩ := lookupAt?_eq_some hwy
      rw [← List.append_assoc] at he
      obtain ⟨r, rfl, rfl⟩ := exists_of_append_eq (isWordChar_of_lookup hname) hy he.symm
      rw [List.append_assoc, lookupAt?_append hname ?_] at hw
      · cases hw
      · intro c hc
        cases r with
        | nil => cases hc
        | cons d r => exact hrest c hc
  · obtain ⟨rfl, hname, hrest⟩ := lookupAt?_eq_some hw
    rw [List.append_assoc, List.append_assoc, lookupAt?_append hname (hhead hrest)]
    rfl

theorem isWord_getLast? {name : List Char} (hname : IsEntryName name) :
    name.getLast?.any Text.isWord = true := by
  obtain ⟨c, hc, -⟩ := hname.starts
  have hne : name ≠ [] := by
    rintro rfl
    cases hc
  rw [List.getLast?_eq_some_getLast hne]
  exact isWord_of_isNameChar (hname.chars _ (List.getLast_mem hne))

/-- Inside a word nothing changes. -/
theorem scanTag_inWord {y : List Char} (hy : EndsWord y) :
    ∀ {w : List Char} {before : Option Char}, (∀ c ∈ w, isWordChar c = true) →
      before.any Text.isWord = true ∨ lookupAt? (w ++ y) = none →
      ∃ before', scanTag before (w ++ y) = w ++ scanTag before' y
  | [], before, _, _ => ⟨before, rfl⟩
  | c :: w, before, hw, hbefore => by
    rw [List.forall_mem_cons] at hw
    have hquote := quotedSpan?_eq_none (isQuote_of_isWordChar hw.1) (w ++ y)
    by_cases hdotted : c = '.' ∧ lookupAt? (w ++ y) ≠ none
    · obtain ⟨rfl, hsome⟩ := hdotted
      obtain ⟨⟨name, rest⟩, hlook⟩ := Option.ne_none_iff_exists'.1 hsome
      obtain ⟨he, hname, -⟩ := lookupAt?_eq_some hlook
      rw [← List.append_assoc] at he
      obtain ⟨r, rfl, rfl⟩ := exists_of_append_eq (isWordChar_of_lookup hname) hy he.symm
      have hr : ∀ c ∈ r, isWordChar c = true := fun c hc => hw.2 c (by simp [hc])
      have hlen : r.length < ('.' :: (['e', 'n', 'v', '.'] ++ name ++ r)).length := by
        simp only [List.length_cons, List.length_append]
        omega
      obtain ⟨before', hscan⟩ := scanTag_inWord hy hr (.inl (isWord_getLast? hname))
      refine ⟨before', ?_⟩
      rw [List.cons_append, scanTag_dotted hlook, hscan]
      simp
    · have hdot : c = '.' → lookupAt? (w ++ y) = none := by simpa using hdotted
      have hbare : before.any Text.isWord = false → lookupAt? (c :: (w ++ y)) = none := by
        intro hb
        rcases hbefore with h | h
        · rw [hb] at h
          cases h
        · exact h
      have hnext : (some c).any Text.isWord = true ∨ lookupAt? (w ++ y) = none := by
        by_cases hc : c = '.'
        · exact .inr (hdot hc)
        · refine .inl (isWord_of_isNameChar ?_)
          simpa [isWordChar, hc] using hw.1
      obtain ⟨before', hscan⟩ := scanTag_inWord hy hw.2 hnext
      exact ⟨before', by rw [List.cons_append, scanTag_cons hquote hdot hbare, hscan]; rfl⟩
termination_by w => w.length

/-- A word that begins with a lookup is the call instead, and any other is as it was. -/
theorem scanTag_word {y w : List Char} (hy : EndsWord y) (hw : ∀ c ∈ w, isWordChar c = true)
    {before : Option Char} (hbefore : before.any Text.isWord = false) :
    ∃ before', scanTag before (w ++ y) = (Token.word w).withCall ++ scanTag before' y := by
  have hlook := lookupAt?_append_right hy w
  rw [Token.withCall]
  rcases h : lookupAt? w with _ | ⟨name, r⟩
  · rw [h] at hlook
    exact scanTag_inWord hy hw (.inr hlook)
  · rw [h] at hlook
    obtain ⟨rfl, hname, -⟩ := lookupAt?_eq_some h
    have hr : ∀ c ∈ r, isWordChar c = true := fun c hc => hw c (by simp [hc])
    obtain ⟨before', hscan⟩ := scanTag_inWord hy hr (.inl (isWord_getLast? hname))
    refine ⟨before', ?_⟩
    rw [scanTag_lookup hbefore hlook, hscan]
    simp

theorem isWord_of_not_isWordChar {c : Char} (hlt : c.toNat < 128) (h : isWordChar c = false) :
    Text.isWord c = false := by
  rw [Text.isWord, if_pos hlt]
  exact (not_isWordChar h).1

theorem isWordChar_of_isQuote {q : Char} (hq : isQuote q = true) :
    isWordChar q = false ∧ q.toNat < 128 := by
  simp only [isQuote, Bool.or_eq_true, beq_iff_eq] at hq
  rcases hq with (rfl | rfl) | rfl <;> decide

theorem lookupAt?_eq_none {c : Char} (hc : c ≠ 'e') (s : List Char) :
    lookupAt? (c :: s) = none := by
  rcases h : lookupAt? (c :: s) with _ | ⟨name, rest⟩
  · rfl
  · cases (lookupAt?_eq_some h).1
    exact absurd rfl hc

/-- A sign, which neither is a quote nor belongs to a word, stays. -/
theorem scanTag_sign {c : Char} (hquote : isQuote c = false) (hw : isWordChar c = false)
    (before : Option Char) (s : List Char) :
    scanTag before (c :: s) = c :: scanTag (some c) s := by
  have hne : c ≠ 'e' := by
    rintro rfl
    cases hw
  exact scanTag_cons (quotedSpan?_eq_none hquote _) (fun h => absurd h (not_isWordChar hw).2)
    fun _ => lookupAt?_eq_none hne _

theorem Tokens.endsWord {ts : List Token} (h : Tokens ts)
    (hhead : ∀ t, ts.head? = some t → t.isWord = false) {y : List Char}
    (hy : ts = [] → EndsWord y) : EndsWord (ts.flatMap Token.source ++ y) := by
  cases h with
  | nil => exact hy rfl
  | quoted hq _ _ =>
    rintro c hc
    cases hc
    exact (isWordChar_of_isQuote hq).1
  | word _ _ _ _ => cases hhead _ rfl
  | sign _ hw _ =>
    rintro c hc
    cases hc
    exact hw

/-- Tokens in a tag: the lookups become calls. A word at the beginning must not go on with what
stands in front, and one at the end must be whole. -/
theorem scanTag_tokens {stop : List Char} {ts : List Token} (h : Tokens ts)
    (hseen : ∀ t ∈ ts, t.IsSeen stop) {y : List Char}
    (hy : ∀ t, ts.getLast? = some t → t.isWord = true → EndsWord y) {before : Option Char}
    (hbefore : ∀ t, ts.head? = some t → t.isWord = true → before.any Text.isWord = false) :
    ∃ before', scanTag before (ts.flatMap Token.source ++ y) =
      ts.flatMap Token.withCall ++ scanTag before' y := by
  have hlast : ∀ {t : Token} {rest : List Token},
      (∀ u, (t :: rest).getLast? = some u → u.isWord = true → EndsWord y) →
      ∀ u, rest.getLast? = some u → u.isWord = true → EndsWord y := by
    intro t rest hy u hu
    cases rest with
    | nil => cases hu
    | cons v rest => exact hy u (by rw [List.getLast?_cons_cons, hu])
  induction h generalizing before with
  | nil => exact ⟨before, rfl⟩
  | @quoted q t rest hq ht _ ih =>
    rw [List.forall_mem_cons] at hseen
    have hspan := quotedSpan?_append_right hseen.1.1 (rest.flatMap Token.source ++ y)
    have hafter : (q :: (t ++ [q])).getLast?.any Text.isWord = false := by
      rw [← List.cons_append, List.getLast?_append_of_ne_nil _ (List.cons_ne_nil q [])]
      exact isWord_of_not_isWordChar (isWordChar_of_isQuote hq).2 (isWordChar_of_isQuote hq).1
    obtain ⟨before', hscan⟩ := ih hseen.2 (hlast hy) fun _ _ _ => hafter
    refine ⟨before', ?_⟩
    rw [List.nil_append] at hspan
    rw [List.flatMap_cons, List.append_assoc, Token.source, scanTag_quoted hspan, hscan,
      List.flatMap_cons, List.append_assoc]
    rfl
  | @word w rest hne hw hrest h ih =>
    rw [List.forall_mem_cons] at hseen
    have hend : EndsWord (rest.flatMap Token.source ++ y) :=
      h.endsWord hrest fun he => hy (.word w) (by rw [he]; rfl) rfl
    obtain ⟨middle, hword⟩ := scanTag_word hend hw (hbefore _ rfl rfl)
    obtain ⟨before', hscan⟩ := ih hseen.2 (hlast hy) fun t ht hword =>
      absurd hword (by rw [hrest t ht]; decide)
    refine ⟨before', ?_⟩
    rw [List.flatMap_cons, List.append_assoc, Token.source, hword, hscan, List.flatMap_cons,
      List.append_assoc]
  | @sign c rest hc hw _ ih =>
    rw [List.forall_mem_cons] at hseen
    simp only [isPlain, Bool.and_eq_true, decide_eq_true_eq, Bool.not_eq_true'] at hc
    obtain ⟨⟨⟨hlt, hquote⟩, -⟩, -⟩ := hc
    have hafter : ∀ u, rest.head? = some u → u.isWord = true → (some c).any Text.isWord = false :=
      fun _ _ _ => isWord_of_not_isWordChar hlt hw
    obtain ⟨before', hscan⟩ := ih hseen.2 (hlast hy) hafter
    refine ⟨before', ?_⟩
    rw [List.flatMap_cons, List.append_assoc, Token.source, List.singleton_append,
      scanTag_sign hquote hw, hscan]
    rfl

/-! ## Scanning a tag -/

theorem Tokens.head?_ne {ts : List Token} (h : Tokens ts) {y : List Char}
    (hy : ts = [] → y.head? ≠ some '\x7d') :
    (ts.flatMap Token.source ++ y).head? ≠ some '\x7d' := by
  cases h with
  | nil => exact hy rfl
  | quoted hq _ _ =>
    rintro ⟨⟩
    cases hq
  | @word w rest hne hw _ _ =>
    obtain ⟨c, w, rfl⟩ := List.exists_cons_of_ne_nil hne
    rintro ⟨⟩
    cases hw _ (.head w)
  | sign hc _ _ =>
    rintro ⟨⟩
    cases hc

theorem dropStart?_eq_none_of_ne {a b c : Char} {s : List Char} (h : c ≠ a ∨ s.head? ≠ some b) :
    Text.dropStart? [a, b] (c :: s) = none := by
  rcases hd : Text.dropStart? [a, b] (c :: s) with _ | rest
  · rfl
  · cases Text.dropStart?_eq_some_iff.1 hd
    exact absurd rfl (h.resolve_left fun h => h rfl)

/-- No end of a tag begins in a token in which the scanner finds none. -/
theorem Token.dropStart?_eq_none {a : Char} (ha : a ∈ ['\x7d', '%']) {t : Token}
    {rest : List Token} (h : Tokens (t :: rest)) (hseen : t.IsSeen [a, '\x7d']) {y : List Char}
    (hy : a = '%' → (rest.flatMap Token.source ++ y).head? ≠ some '\x7d') {x z : List Char}
    {c : Char} (hs : t.source = x ++ c :: z) :
    Text.dropStart? [a, '\x7d'] (c :: (z ++ (rest.flatMap Token.source ++ y))) = none := by
  have hends : ∀ a ∈ ['\x7d', '%'], isQuote a = false ∧ isWordChar a = false := by decide
  cases h with
  | @quoted q t rest hq ht h =>
    have hqa : q ≠ a := by
      rintro rfl
      cases hq.symm.trans (hends _ ha).1
    have hqb : q ≠ '\x7d' := by
      rintro rfl
      cases hq
    rcases x with _ | ⟨d, x⟩
    · cases hs
      exact dropStart?_eq_none_of_ne (.inl hqa)
    · have hs : t ++ [q] = x ++ c :: z := (List.cons.inj hs).2
      rcases List.append_eq_append_iff.1 hs with ⟨u, rfl, hu⟩ | ⟨u, rfl, hu⟩
      · rcases u with _ | ⟨e, u⟩
        · cases hu
          exact dropStart?_eq_none_of_ne (.inl hqa)
        · simp at hu
      · rcases u with _ | ⟨e, u⟩
        · cases hu
          exact dropStart?_eq_none_of_ne (.inl hqa)
        · obtain ⟨rfl, rfl⟩ := List.cons.inj hu
          -- both characters in the text between quotes would be an end inside of it
          refine Option.eq_none_iff_forall_ne_some.2 fun r hd => ?_
          obtain ⟨rfl, hu⟩ := List.cons.inj (Text.dropStart?_eq_some_iff.1 hd)
          rcases u with _ | ⟨f, u⟩
          · exact hqb (List.cons.inj hu).1
          · obtain ⟨rfl, -⟩ := List.cons.inj hu
            exact hseen.2 ⟨x, u, by simp⟩
  | @word w rest hne hw hrest h =>
    refine dropStart?_eq_none_of_ne (.inl ?_)
    have hc := hw c (by rw [show w = _ from hs]; simp)
    rintro rfl
    cases hc.symm.trans (hends _ ha).2
  | @sign d rest hd hw h =>
    rcases x with _ | ⟨e, x⟩
    · cases hs
      by_cases hca : c = a
      · subst hca
        refine dropStart?_eq_none_of_ne (.inr (hy ?_))
        simp only [List.mem_cons, List.not_mem_nil, or_false] at ha
        refine ha.resolve_left ?_
        rintro rfl
        cases hd
      · exact dropStart?_eq_none_of_ne (.inl hca)
    · have hlen := congrArg List.length hs
      simp only [Token.source, List.length_append, List.length_cons, List.length_nil] at hlen
      omega

/-- The end of a tag is not found before tokens are over in which the scanner finds none. -/
theorem cutText?_tokens {a : Char} (ha : a ∈ ['\x7d', '%']) {ts : List Token} (h : Tokens ts)
    (hseen : ∀ t ∈ ts, t.IsSeen [a, '\x7d']) {y : List Char}
    (hy : a = '%' → y.head? ≠ some '\x7d') :
    Text.cutText? [a, '\x7d'] (ts.flatMap Token.source ++ y) =
      (Text.cutText? [a, '\x7d'] y).map fun cut => (ts.flatMap Token.source ++ cut.1, cut.2) := by
  induction ts with
  | nil => simp
  | cons t ts ih =>
    have htail : Tokens ts := by
      cases h <;> assumption
    rw [List.forall_mem_cons] at hseen
    have hnone := fun x c z => Token.dropStart?_eq_none (x := x) (z := z) (c := c) ha h hseen.1
      fun ha' => htail.head?_ne fun _ => hy ha'
    rw [List.flatMap_cons, List.append_assoc, Text.cutText?_append_of_none hnone, ih htail hseen.2,
      Option.map_map]
    simp [Function.comp_def]

theorem tagBrackets_scanned {brackets : String × String} (h : brackets ∈ tagBrackets) :
    (brackets.1.toList, brackets.2.toList) ∈ scanBrackets ∧
      ∃ a ∈ ['\x7d', '%'], brackets.2.toList = [a, '\x7d'] := by
  simp only [tagBrackets, List.mem_cons, List.not_mem_nil, or_false] at h
  rcases h with rfl | rfl
  · exact ⟨by decide, '\x7d', by decide, rfl⟩
  · exact ⟨by decide, '%', by decide, rfl⟩

theorem Tokens.append {before after : List Token} (h : Tokens (before ++ after)) :
    Tokens before ∧ Tokens after ∧ ∀ t, before.getLast? = some t → t.isWord = true →
      ∀ u, after.head? = some u → u.isWord = false := by
  induction before with
  | nil => exact ⟨.nil, h, nofun⟩
  | cons t before ih =>
    have htail : Tokens (before ++ after) := by
      cases h <;> assumption
    obtain ⟨hbefore, hafter, hlast⟩ := ih htail
    refine ⟨?_, hafter, fun u hu hw => ?_⟩
    · cases h with
      | quoted hq ht _ => exact .quoted hq ht hbefore
      | word hne hw hrest _ =>
        refine .word hne hw (fun u hu => hrest u ?_) hbefore
        show (before ++ after).head? = some u
        rw [List.head?_append, hu]
        rfl
      | sign hc hw _ => exact .sign hc hw hbefore
    · cases before with
      | nil =>
        cases hu
        cases h with
        | word _ _ hrest _ => exact hrest
        | quoted | sign => cases hw
      | cons v before => exact hlast u (by rw [← hu, List.getLast?_cons_cons]) hw

theorem scanTag_start {brackets : List Char × List Char} (hb : brackets ∈ scanBrackets)
    (s : List Char) : ∃ c, Text.isWord c = false ∧
      scanTag none (brackets.1 ++ s) = brackets.1 ++ scanTag (some c) s := by
  simp only [scanBrackets, List.mem_cons, List.not_mem_nil, or_false] at hb
  rcases hb with rfl | rfl
  · refine ⟨'\x7b', by decide, ?_⟩
    simp only [List.cons_append, List.nil_append]
    rw [scanTag_sign rfl rfl, scanTag_sign rfl rfl]
  · refine ⟨'%', by decide, ?_⟩
    simp only [List.cons_append, List.nil_append]
    rw [scanTag_sign rfl rfl, scanTag_sign rfl rfl]

/-- A tag made of tokens, up to the first in which the scanner finds something else. -/
theorem scan_tokens {start : List Char} {a : Char} (hb : (start, [a, '\x7d']) ∈ scanBrackets)
    (ha : a ∈ ['\x7d', '%']) {before after : List Token} (h : Tokens (before ++ after))
    (hseen : ∀ t ∈ before, t.IsSeen [a, '\x7d']) (rest : List Char) :
    ∃ tail, scan (start ++ (before.flatMap Token.source ++
        (after.flatMap Token.source ++ ([a, '\x7d'] ++ rest)))) =
          start ++ (before.flatMap Token.withCall ++ tail) ∧
      (after = [] → tail = [a, '\x7d'] ++ scan rest) := by
  obtain ⟨hbefore, hafter, hlast⟩ := h.append
  have hends : ∀ a ∈ ['\x7d', '%'], isQuote a = false ∧ isWordChar a = false := by decide
  -- the scanner ends the tag behind `x`
  have hfound : ∃ x r, Text.cutText? [a, '\x7d'] (after.flatMap Token.source ++
      ([a, '\x7d'] ++ rest)) = some (x, r) ∧ (after = [] → x = [] ∧ r = rest) := by
    by_cases hnil : after = []
    · subst hnil
      exact ⟨[], rest, by simp [Text.cutText?, Text.dropStart?], fun _ => ⟨rfl, rfl⟩⟩
    · obtain ⟨x, r, hx⟩ := Text.exists_cutText? (List.cons_ne_nil a ['\x7d'])
        (after.flatMap Token.source) rest
      exact ⟨x, r, hx, fun h => absurd h hnil⟩
  obtain ⟨x, r, hx, hall⟩ := hfound
  have hy : a = '%' → (after.flatMap Token.source ++ ([a, '\x7d'] ++ rest)).head? ≠
      some '\x7d' := by
    rintro rfl
    exact hafter.head?_ne fun _ => by simp
  have hcut := cutText?_tokens ha hbefore hseen hy
  rw [hx, Option.map_some] at hcut
  have hspan := tagSpan?_of_cutText? hb hcut
  -- a word at the end of `before` is whole for the scanner too
  have hend : ∀ t, before.getLast? = some t → t.isWord = true → EndsWord (x ++ [a, '\x7d']) := by
    intro t ht hw
    have hword : EndsWord (after.flatMap Token.source ++ ([a, '\x7d'] ++ rest)) := by
      refine hafter.endsWord (hlast t ht hw) fun _ => ?_
      rintro c hc
      cases hc
      exact (hends _ ha).2
    rw [Text.cutText?_append hx] at hword
    intro c hc
    refine hword c ?_
    cases x <;> exact hc
  obtain ⟨c, hc, hstart⟩ := scanTag_start hb (before.flatMap Token.source ++ (x ++ [a, '\x7d']))
  have hopened : ∀ t, before.head? = some t → t.isWord = true → (some c).any Text.isWord = false :=
    fun _ _ _ => hc
  obtain ⟨before', hscan⟩ := scanTag_tokens hbefore hseen hend hopened
  refine ⟨scanTag before' (x ++ [a, '\x7d']) ++ scan r, ?_, fun hnil => ?_⟩
  · rw [scan_tag hspan, List.append_assoc, List.append_assoc, hstart, hscan]
    simp only [List.append_assoc]
  · obtain ⟨rfl, rfl⟩ := hall hnil
    rw [List.nil_append, scanTag_sign (hends a ha).1 (hends a ha).2, scanTag_sign rfl rfl]
    rfl

/-! ## Calls in place of lookups -/

section

variable {s rest : List Char} {t : String}

theorem many_close {item : Reader α} (h : item (')' :: rest) = none) (fuel : Nat) :
    many item fuel (')' :: rest) = ([], ')' :: rest) := by
  cases fuel with
  | zero => rfl
  | succ fuel => rw [many, show skip (')' :: rest) = ')' :: rest from rfl, h]

variable (h : quotedText? ('"' :: s) = some (t, ')' :: rest))
include h

/-- A text between quotes before the end of a call, for the readers that come across it. -/
theorem concat?_quoted (fuel : Nat) :
    concat? (concatItem? (call? fuel)) fuel ('"' :: s) = none := by
  have hcall : call? fuel ('"' :: s) = none := by
    cases fuel <;> rfl
  have hitem : concatItem? (call? fuel) ('"' :: s) = some (.text t, ')' :: rest) := by
    rw [concatItem?, hcall, show float? ('"' :: s) = none from rfl,
      show int? ('"' :: s) = none from rfl, h]
    rfl
  rw [concat?, hitem]
  simp only [Option.bind_eq_bind, Option.bind_some]
  rw [many_close rfl]
  rfl

theorem textExpr?_quoted (fuel : Nat) :
    textExpr? (fuel + 1) ('"' :: s) = some (.mk (.text t) false [], ')' :: rest) := by
  have hfilter : filter? fuel (')' :: rest) = none := by
    cases fuel <;> rfl
  rw [textExpr?]
  simp only [concat?_quoted h, h, Option.map_some, Option.orElse_eq_orElse, Option.orElse_none,
    Option.bind_eq_bind, Option.bind_some, many_close hfilter]
  rfl

theorem condition?_quoted (fuel : Nat) :
    condition? (fuel + 3) ('"' :: s) = some (.mk (.text t) false [], ')' :: rest) := by
  have hnot : wordWithBlank? "not" ('"' :: s) = none := rfl
  have hmembership : membership? (fuel + 2) ('"' :: s) = none := by
    rw [membership?, textExpr?_quoted h]
    rfl
  have hcomparison : comparisonExpr? (fuel + 2) ('"' :: s) =
      some (.mk (.text t) false [], ')' :: rest) := by
    rw [comparisonExpr?]
    simp only [textExpr?_quoted h]
    rfl
  rw [condition?]
  simp only [hnot, hmembership, hcomparison]
  rfl

theorem expr?_quoted (fuel : Nat) :
    expr? (fuel + 4) ('"' :: s) = some (.mk (.text t) false [], ')' :: rest) := by
  rw [expr?]
  simp only [condition?_quoted h, Option.bind_eq_bind, Option.bind_some]
  rw [many_close rfl]
  rfl

omit h in
theorem skip_cons {c : Char} (hc : isSpace c = false) (s : List Char) : skip (c :: s) = c :: s := by
  rw [skip, List.dropWhile_cons_of_neg (by simp [hc])]

theorem namedArgument?_quoted (fuel : Nat) :
    namedArgument? (fun s => expr? (fuel + 4) s <|> list? (fuel + 4) s)
      ('n' :: 'a' :: 'm' :: 'e' :: '=' :: '"' :: s) =
        some (("name", .mk (.text t) false []), ')' :: rest) := by
  have hname : name? ('n' :: 'a' :: 'm' :: 'e' :: '=' :: '"' :: s) =
    some ("name", '=' :: '"' :: s) := rfl
  have heq : after? "=" ('=' :: '"' :: s) = some ('"' :: s) := rfl
  rw [namedArgument?]
  simp only [hname, heq, expr?_quoted h, Option.bind_eq_bind, Option.bind_some,
    skip_cons (show isSpace '=' = false from rfl), skip_cons (show isSpace '"' = false from rfl)]
  rfl

theorem arguments?_quoted (fuel : Nat) :
    arguments? (fuel + 5) ('(' :: 'n' :: 'a' :: 'm' :: 'e' :: '=' :: '"' :: s) =
      some ([("name", .mk (.text t) false [])], rest) := by
  have hopen : after? "(" ('(' :: 'n' :: 'a' :: 'm' :: 'e' :: '=' :: '"' :: s) =
    some ('n' :: 'a' :: 'm' :: 'e' :: '=' :: '"' :: s) := rfl
  rw [arguments?]
  simp only [hopen, namedArgument?_quoted h, separated, Option.bind_eq_bind, Option.bind_some,
    Option.pure_def, skip_cons (show isSpace 'n' = false from rfl)]
  rw [many_close rfl]
  rfl

omit h in
theorem call?_of_arguments? {fuel : Nat} {arguments : List (String × Expr)}
    (h : arguments? fuel ('(' :: s) = some (arguments, rest)) :
    call? (fuel + 1) ('e' :: 'n' :: 'v' :: '(' :: s) = some (.mk "env" arguments, rest) := by
  have hname : name? ('e' :: 'n' :: 'v' :: '(' :: s) = some ("env", '(' :: s) := rfl
  rw [call?]
  simp only [hname, Option.bind_eq_bind, Option.bind_some, show skip ('(' :: s) = '(' :: s from rfl,
    h]
  rfl

end

def callOf (name : List Char) : Call :=
  .mk "env" [("name", .mk (.text (String.ofList name)) false [])]

theorem call?_lookupCall {name : List Char} (hname : IsEntryName name) (fuel : Nat)
    (rest : List Char) : call? (fuel + 6) (lookupCall name ++ rest) = some (callOf name, rest) := by
  have hnot : '"' ∉ name := fun hm => by cases hname.chars _ hm
  have hquoted : quotedText? ('"' :: (name ++ '"' :: ')' :: rest)) =
      some (String.ofList name, ')' :: rest) := by
    have hquote : ('"' == '"' || '"' == '\x27' || '"' == '\x60') = true := rfl
    rw [quotedText?, if_pos hquote, Text.cutChar?_eq_some_iff.2 ⟨rfl, hnot⟩]
    rfl
  rw [lookupCall_append]
  exact call?_of_arguments? (arguments?_quoted hquoted fuel)

/-- The call that stands for a lookup is read as a call, which gives what the environment holds at
that moment and changes nothing. -/
structure ReadsEnvironment (name : List Char) : Prop where
  isRead : ∀ fuel rest, call? (fuel + 6) (lookupCall name ++ rest) = some (callOf name, rest)
  gives : ∀ fuel d scope setting (s : HelperState),
    (((eval (fuel + 6) (.ofTerm (.call (callOf name)))).run d).run.run scope).run
        (Helper.answer setting) s =
      ((.ok (.text ((s.env.get? (String.ofList name)).getD "")), scope), s)

theorem IsEntryName.readsEnvironment {name : List Char} (h : IsEntryName name) :
    ReadsEnvironment name := ⟨call?_lookupCall h, fun _ _ _ _ _ => rfl⟩

/-! ## Tags that are read -/

/-- A text begins with a tag that is made of these tokens. -/
structure IsTag (brackets : String × String) (ts : List Token) (s rest : List Char) : Prop where
  isPair : brackets ∈ tagBrackets
  tokens : Tokens ts
  source : s = brackets.1.toList ++ (ts.flatMap Token.source ++ (brackets.2.toList ++ rest))

/-- A tag that can be read is made of tokens. Behind a text that is closed to the scanner the
lookups in it become calls up to the first text between quotes that the scanner sees as something
else. If there is none, the whole tag is as it was but for the calls, and the rest of the source
is scanned for itself. The calls read the environment as it is when they are made. -/
theorem lookups_become_calls {source : String} {lead s rest : List Char}
    (hsource : source.toList = lead ++ s) (hlead : IsClosed lead) (h : ReadsTag s rest) :
    (∃ brackets ts, IsTag brackets ts s rest) ∧
      (∀ brackets before after, IsTag brackets (before ++ after) s rest →
        (∀ t ∈ before, t.IsSeen brackets.2.toList) →
        ∃ tail, (rewriteLookups source).toList = scan lead ++
            (brackets.1.toList ++ (before.flatMap Token.withCall ++ tail)) ∧
          (after = [] → tail = brackets.2.toList ++ scan rest)) ∧
      ∀ name, IsEntryName name → ReadsEnvironment name := by
  refine ⟨?_, ?_, fun name h => h.readsEnvironment⟩
  · obtain ⟨brackets, hb, inside, hinside, rfl⟩ := h.beginsWithTag
    obtain ⟨ts, hts, rfl⟩ := hinside.tokens
    exact ⟨brackets, ts, hb, hts, rfl⟩
  · intro brackets before after htag hseen
    obtain ⟨hscanned, a, ha, hstop⟩ := tagBrackets_scanned htag.isPair
    rw [hstop] at hscanned hseen ⊢
    obtain ⟨tail, hscan, hall⟩ := scan_tokens hscanned ha htag.tokens hseen rest
    refine ⟨tail, ?_, hall⟩
    rw [toList_rewriteLookups, hsource, scan_append hlead, htag.source, List.flatMap_append,
      List.append_assoc, hstop, hscan]

/-- By the theorem, quotes of another kind and a brace between quotes make no difference. -/
theorem lookups_become_calls_quotes :
    rewriteLookups "a \x7b\x7b '\"\x7d' ~ env.A ~ env.B.c \x7d\x7d b" =
      "a \x7b\x7b '\"\x7d' ~ env(name=\"A\") ~ env(name=\"B\").c \x7d\x7d b" := by
  let ts : List Token := [.sign ' ', .quoted '\x27' ['"', '\x7d'], .sign ' ', .sign '~',
    .sign ' ', .word "env.A".toList, .sign ' ', .sign '~', .sign ' ', .word "env.B.c".toList,
    .sign ' ']
  have hread : (output? "\x7b\x7b '\"\x7d' ~ env.A ~ env.B.c \x7d\x7d b".toList).map Prod.snd =
      some " b".toList := by
    decide +kernel
  obtain ⟨⟨r, rest⟩, hread, hrest⟩ := Option.map_eq_some_iff.1 hread
  cases hrest
  have hsource : "a \x7b\x7b '\"\x7d' ~ env.A ~ env.B.c \x7d\x7d b".toList =
      "a ".toList ++ "\x7b\x7b '\"\x7d' ~ env.A ~ env.B.c \x7d\x7d b".toList := by
    decide +kernel
  obtain ⟨-, h, -⟩ := lookups_become_calls hsource (by decide +kernel) (.output hread)
  have htag : IsTag ("\x7b\x7b", "\x7d\x7d") (ts ++ [])
      "\x7b\x7b '\"\x7d' ~ env.A ~ env.B.c \x7d\x7d b".toList " b".toList := by
    refine ⟨.head _, ?_, by decide +kernel⟩
    repeat first
      | exact .nil
      | refine .sign (by decide) (by decide) ?_
      | refine .quoted (by decide) (by decide) ?_
      | refine .word (by decide) (by decide) (by decide) ?_
  obtain ⟨tail, hscan, hall⟩ := h _ ts [] htag (by decide +kernel)
  rw [hall rfl] at hscan
  refine String.toList_injective (hscan.trans ?_)
  decide +kernel

/-- A lookup behind brackets between quotes is not found, so the value that was set before it is
not seen. -/
theorem lookup_behind_quoted_brackets :
    let source := "\x7b\x7b env(name=\"A\",value=1) \x7d\x7d\x7b\x7b \"\x7d\x7d\" ~ env.A \x7d\x7d"
    let s : Surroundings := { vars := {}, env := ⟨⟨[("A", "0")]⟩⟩, baseDir := "." }
    rewriteLookups source = source ∧
      (preprocess source s (Disk.setUp 0)).1.toOption = some "1\x7d\x7d0" ∧
      (preprocess source s (Disk.setUp 0)).2.1.get? "A" = some "1" := by
  decide +kernel

end BuildTool.Template
