import BuildTool.Proofs.Template.Reading
import BuildTool.Template.Document

/-!
# Parts of templates

Before anything is read in it, a template is cut into parts: text, comments, tags, and raw text
with the tags around it. A tag ends at its brackets, but not where these stand between quotes, and
nothing but its own end ends a comment or raw text.

    Cuts s parts rest    s  =  sources of the parts ++ rest

What is put out as it stands are the texts and the raw texts. They stand in the pieces of a
template as they are, piece by piece. A loop may have several bodies for the case that it has no
turns; the last of them counts, and the texts in the others are in no piece.

## Sections

* ends of tags;
* parts, and cutting into them;
* tags that have been read are parts;
* the texts in pieces;
* reading pieces, and a template.
-/

namespace BuildTool.Template

variable {α : Type}

/-! ## Ends of tags -/

/-- The quote that a text between quotes waits for behind a character, if any. -/
def quoteAfter (quote : Option Char) (c : Char) : Option Char :=
  match quote with
  | some q => if c = q then none else some q
  | none => if isQuote c then some c else none

/-- Cuts at the end of a tag, which does not stand between quotes. -/
def cutTag? (stop : List Char) : Option Char → List Char → Option (List Char × List Char)
  | _, [] => none
  | quote, c :: s =>
    match if quote = none then Text.dropStart? stop (c :: s) else none with
    | some rest => some ([], rest)
    | none => (cutTag? stop (quoteAfter quote c) s).map fun cut => (c :: cut.1, cut.2)

theorem cutTag?_cons {stop : List Char} {quote : Option Char} {c : Char} {s : List Char}
    (h : quote = none → Text.dropStart? stop (c :: s) = none) :
    cutTag? stop quote (c :: s) =
      (cutTag? stop (quoteAfter quote c) s).map fun cut => (c :: cut.1, cut.2) := by
  rw [cutTag?]
  split
  · next hd =>
    obtain ⟨hq, hd⟩ := Option.ite_none_right_eq_some.1 hd
    rw [h hq] at hd
    cases hd
  · rfl

/-- Characters with which no end of a tag begins are passed over. -/
theorem cutTag?_pass {a : Char} {stop x : List Char} (hx : a ∉ x) (quote : Option Char)
    (s : List Char) : cutTag? (a :: stop) quote (x ++ s) =
      (cutTag? (a :: stop) (x.foldl quoteAfter quote) s).map fun cut => (x ++ cut.1, cut.2) := by
  induction x generalizing quote with
  | nil => simp
  | cons c x ih =>
    rw [List.mem_cons, not_or] at hx
    have hnone : Text.dropStart? (a :: stop) (c :: (x ++ s)) = none := by
      rw [Text.dropStart?, if_neg hx.1]
    rw [List.cons_append, cutTag?_cons fun _ => hnone, ih hx.2, Option.map_map]
    rfl

theorem cutTag?_quoted {stop t : List Char} {q : Char} (ht : q ∉ t) (s : List Char) :
    cutTag? stop (some q) (t ++ q :: s) =
      (cutTag? stop none s).map fun cut => (t ++ q :: cut.1, cut.2) := by
  have hcons : ∀ c s, cutTag? stop (some q) (c :: s) =
      (cutTag? stop (quoteAfter (some q) c) s).map fun cut => (c :: cut.1, cut.2) :=
    fun c s => cutTag?_cons fun h => nomatch h
  induction t with
  | nil =>
    rw [List.nil_append, hcons, quoteAfter, if_pos rfl]
    rfl
  | cons c t ih =>
    rw [List.mem_cons, not_or] at ht
    rw [List.cons_append, hcons, quoteAfter, if_neg (Ne.symm ht.1), ih ht.2, Option.map_map]
    rfl

theorem Inside.head?_ne {s : List Char} (h : Inside s) {y : List Char}
    (hy : y.head? ≠ some '\x7d') : (s ++ y).head? ≠ some '\x7d' := by
  cases h with
  | nil => exact hy
  | plain hc _ =>
    rintro ⟨⟩
    cases hc
  | quoted hq _ _ =>
    rintro ⟨⟩
    cases hq

/-- The end of a tag is found behind what stands in it. -/
theorem cutTag?_inside {a : Char} (ha : a ∈ ['\x7d', '%']) {s : List Char} (h : Inside s)
    (rest : List Char) :
    cutTag? [a, '\x7d'] none (s ++ ([a, '\x7d'] ++ rest)) = some (s, rest) := by
  have hquote : ∀ a ∈ ['\x7d', '%'], isQuote a = false := by decide
  induction h with
  | nil => simp [cutTag?, Text.dropStart?]
  | @plain c s hc hs ih =>
    have hnone : Text.dropStart? [a, '\x7d'] (c :: (s ++ ([a, '\x7d'] ++ rest))) = none := by
      refine Option.eq_none_iff_forall_ne_some.2 fun r hd => ?_
      obtain ⟨rfl, he⟩ := List.cons.inj (Text.dropStart?_eq_some_iff.1 hd)
      have hne : c ≠ '\x7d' := by
        rintro rfl
        cases hc
      exact hs.head?_ne (y := [c, '\x7d'] ++ rest) (by simpa using hne) (by rw [he]; rfl)
    have hafter : quoteAfter none c = none := by
      simp only [isPlain, Bool.and_eq_true, Bool.not_eq_true'] at hc
      simp [quoteAfter, hc.1.1.2]
    rw [List.cons_append, cutTag?_cons fun _ => hnone, hafter, ih]
    rfl
  | @quoted q t s hq ht _ ih =>
    have hnone : Text.dropStart? [a, '\x7d'] (q :: (t ++ q :: (s ++ ([a, '\x7d'] ++ rest)))) =
        none := by
      rw [Text.dropStart?, if_neg]
      rintro rfl
      cases (hquote _ ha).symm.trans hq
    have hafter : quoteAfter none q = some q := by simp [quoteAfter, hq]
    rw [List.cons_append, List.append_assoc, List.cons_append, cutTag?_cons fun _ => hnone, hafter,
      cutTag?_quoted ht, ih]
    rfl

/-! ## Parts -/

/-- What a part of a template is. -/
inductive PartKind
  | text
  | comment
  | tag
  | raw
  deriving DecidableEq, Repr

/-- A part of a template. -/
structure Part where
  kind : PartKind
  source : List Char
  deriving DecidableEq, Repr

/-- The text that a part puts out as it stands. -/
def Part.literal? (p : Part) : Option (List Char) :=
  match p.kind with
  | .text | .raw => some p.source
  | .comment | .tag => none

/-- The texts that the parts put out as they stand. -/
def literals (parts : List Part) : List (List Char) := parts.filterMap Part.literal?

/-- What of a text has been used up where the rest is left. -/
def consumed (s rest : List Char) : List Char := s.take (s.length - rest.length)

@[simp] theorem consumed_append (s rest : List Char) : consumed (s ++ rest) rest = s := by
  simp [consumed]

/-- A tag at the beginning of a text, of which the brackets have been read. -/
def nextTag? (stop s inside : List Char) : Option (List Part × List Char) :=
  (cutTag? stop none inside).map fun cut => ([⟨.tag, consumed s cut.2⟩], cut.2)

/-- The part that a text begins with and the rest; raw text comes with the tags around it. -/
def nextParts? (s : List Char) : Option (List Part × List Char) :=
  match s with
  | [] => none
  | '\x7b' :: '#' :: inside =>
    (Text.cutText? ['#', '\x7d'] inside).map fun cut => ([⟨.comment, consumed s cut.2⟩], cut.2)
  | '\x7b' :: '\x7b' :: inside => nextTag? ['\x7d', '\x7d'] s inside
  | '\x7b' :: '%' :: inside =>
    match wordTag? "raw" false s with
    | some (_, body) =>
      (rawText body).map fun r =>
        ([⟨.tag, consumed s body⟩, ⟨.raw, r.1⟩,
          ⟨.tag, consumed (body.drop r.1.length) r.2.2⟩], r.2.2)
    | none => nextTag? ['%', '\x7d'] s inside
  | _ => some ([⟨.text, (plainText s).1⟩], (plainText s).2)

/-- A text is cut into these parts, behind which the rest follows. -/
inductive Cuts : List Char → List Part → List Char → Prop
  | nil (s : List Char) : Cuts s [] s
  | cons {s t rest : List Char} {ps qs : List Part} (h : nextParts? s = some (ps, t))
      (h' : Cuts t qs rest) : Cuts s (ps ++ qs) rest

namespace Cuts

variable {s t rest : List Char} {ps qs : List Part}

theorem one (h : nextParts? s = some (ps, rest)) : Cuts s ps rest := by
  simpa using Cuts.cons h (.nil rest)

theorem append (h : Cuts s ps t) (h' : Cuts t qs rest) : Cuts s (ps ++ qs) rest := by
  induction h with
  | nil => exact h'
  | cons hnext _ ih =>
    rw [List.append_assoc]
    exact .cons hnext (ih h')

/-- There is only one way to cut a template into parts. -/
theorem unique (h : Cuts s ps []) (h' : Cuts s qs []) : ps = qs := by
  generalize hrest : ([] : List Char) = rest at h
  induction h generalizing qs with
  | nil =>
    subst hrest
    cases h' with
    | nil => rfl
    | cons hnext _ => cases hnext
  | cons hnext _ ih =>
    subst hrest
    cases h' with
    | nil => cases hnext
    | cons hnext' hcuts =>
      rw [hnext] at hnext'
      cases hnext'
      rw [ih hcuts rfl]

end Cuts

/-! ## Tags that have been read -/

/-- A text up to the rest is cut into parts that put these texts out as they stand. -/
def HasLiterals (s rest : List Char) (ls : List (List Char)) : Prop :=
  ∃ parts, Cuts s parts rest ∧ literals parts = ls

namespace HasLiterals

variable {s t rest : List Char} {ls ls' : List (List Char)}

theorem refl (s : List Char) : HasLiterals s s [] := ⟨[], .nil s, rfl⟩

theorem append (h : HasLiterals s t ls) (h' : HasLiterals t rest ls') :
    HasLiterals s rest (ls ++ ls') := by
  obtain ⟨ps, hps, rfl⟩ := h
  obtain ⟨qs, hqs, rfl⟩ := h'
  exact ⟨ps ++ qs, hps.append hqs, by rw [literals, literals, literals, List.filterMap_append]⟩

/-- Behind a tag. -/
theorem after (h : HasLiterals s t []) (h' : HasLiterals t rest ls) : HasLiterals s rest ls :=
  h.append h'

/-- In front of a tag. -/
theorem before (h : HasLiterals s t ls) (h' : HasLiterals t rest []) : HasLiterals s rest ls := by
  simpa using h.append h'

theorem of_nextParts? {ps : List Part} (h : nextParts? s = some (ps, rest)) :
    HasLiterals s rest (literals ps) := ⟨ps, .one h, rfl⟩

end HasLiterals

section

variable {s rest : List Char}

theorem nextTag?_inside {a : Char} (ha : a ∈ ['\x7d', '%']) {inside : List Char}
    (h : Inside inside) (s : List Char) :
    nextTag? [a, '\x7d'] s (inside ++ ([a, '\x7d'] ++ rest)) =
      some ([⟨.tag, consumed s rest⟩], rest) := by
  rw [nextTag?, cutTag?_inside ha h]
  rfl

theorem hasLiterals_of_output (h : BeginsWithTag "\x7b\x7b" "\x7d\x7d" s rest) :
    HasLiterals s rest [] := by
  obtain ⟨inside, hinside, rfl⟩ := h
  have hnext : nextParts? ('\x7b' :: '\x7b' :: (inside ++ (['\x7d', '\x7d'] ++ rest))) =
    some ([⟨.tag, _⟩], rest) := nextTag?_inside (.head _) hinside _
  exact .of_nextParts? hnext

theorem hasLiterals_of_statement (h : BeginsWithTag statementStart statementEnd s rest)
    (hraw : wordTag? "raw" false s = none) : HasLiterals s rest [] := by
  obtain ⟨inside, hinside, rfl⟩ := h
  have hraw : wordTag? "raw" false ('\x7b' :: '%' :: (inside ++ (['%', '\x7d'] ++ rest))) =
    none := hraw
  have hnext : nextParts? ('\x7b' :: '%' :: (inside ++ (['%', '\x7d'] ++ rest))) =
      nextTag? ['%', '\x7d'] ('\x7b' :: '%' :: (inside ++ (['%', '\x7d'] ++ rest)))
        (inside ++ (['%', '\x7d'] ++ rest)) := by
    rw [nextParts?, hraw]
  exact .of_nextParts? (hnext.trans (nextTag?_inside (.tail _ (.head _)) hinside _))

/-- A statement that begins with another word does not begin raw text. -/
theorem wordTag?_raw_eq_none {word : String} (hword : word.toList.head?.any (· != 'r') = true)
    {b : Bool} {r t : List Char} (hstart : tagStart? statementStart s = some (b, r))
    (hafter : after? word (skip r) = some t) : wordTag? "raw" false s = none := by
  obtain ⟨c, w, hw⟩ : ∃ c w, word.toList = c :: w := by
    rcases hw : word.toList with _ | ⟨c, w⟩
    · rw [hw] at hword
      cases hword
    · exact ⟨c, w, rfl⟩
  have hskip : skip r = c :: (w ++ t) := by
    rw [Text.dropStart?_eq_some_iff.1 hafter, hw, List.cons_append]
  have hne : ¬ 'r' = c := by
    rintro rfl
    rw [hw] at hword
    cases hword
  have hnone : after? "raw" (skip r) = none := by
    rw [hskip]
    exact if_neg hne
  refine Option.eq_none_iff_forall_ne_some.2 fun p h => ?_
  obtain ⟨⟨left, r'⟩, hstart', h⟩ := Option.bind_eq_some_iff.1 h
  obtain ⟨t', hafter', -⟩ := Option.bind_eq_some_iff.1 h
  rw [hstart] at hstart'
  cases hstart'
  cases hnone.symm.trans hafter'

/-- The words of statements other than the one in front of raw text. -/
def statementWords : List String :=
  ["endraw", "break", "continue", "else", "endif", "endfor", "endfilter", "endblock", "endmacro",
    "set", "set_global", "include", "import", "extends", "if", "elif", "for", "filter", "block",
    "macro"]

theorem statementWords_plain : ∀ w ∈ statementWords,
    (∀ c ∈ w.toList, isPlain c = true) ∧ w.toList.head?.any (· != 'r') = true := by decide

theorem wordTag?_hasLiterals {word : String} (hword : word ∈ statementWords) {named : Bool}
    {trim : Trim} (h : wordTag? word named s = some (trim, rest)) : HasLiterals s rest [] := by
  obtain ⟨hplain, hother⟩ := statementWords_plain word hword
  refine hasLiterals_of_statement (wordTag?_beginsWithTag hplain h) ?_
  obtain ⟨⟨left, r⟩, hstart, h⟩ := Option.bind_eq_some_iff.1 h
  obtain ⟨t, hafter, -⟩ := Option.bind_eq_some_iff.1 h
  exact wordTag?_raw_eq_none hother hstart hafter

theorem statement?_hasLiterals {word : String} (hword : word ∈ statementWords) {inside : Reader α}
    (hinside : inside.TakesText) {a : Trim × α} (h : statement? word inside s = some (a, rest)) :
    HasLiterals s rest [] := by
  obtain ⟨hplain, hother⟩ := statementWords_plain word hword
  refine hasLiterals_of_statement (statement?_beginsWithTag hplain hinside h) ?_
  obtain ⟨⟨left, r⟩, hstart, h⟩ := Option.bind_eq_some_iff.1 h
  obtain ⟨t, hafter, -⟩ := Option.bind_eq_some_iff.1 h
  exact wordTag?_raw_eq_none hother hstart hafter

theorem comment?_hasLiterals {trim : Trim} (h : comment? s = some (trim, rest)) :
    HasLiterals s rest [] := by
  obtain ⟨⟨left, r⟩, hstart, h⟩ := Option.bind_eq_some_iff.1 h
  obtain ⟨⟨inside, _⟩, hcut, h⟩ := Option.bind_eq_some_iff.1 h
  obtain ⟨-, h⟩ := Option.ite_none_left_eq_some.1 h
  cases h
  obtain ⟨t, ht, hstart⟩ := Option.bind_eq_some_iff.1 hstart
  -- the hyphen belongs to what is in the comment
  obtain ⟨inside', hcut'⟩ : ∃ inside', Text.cutText? ['#', '\x7d'] t = some (inside', rest) := by
    split at hstart <;> cases hstart
    · exact ⟨'-' :: inside, by rw [Text.cutText?_cons rfl, hcut]; rfl⟩
    · exact ⟨inside, hcut⟩
  rw [Text.dropStart?_eq_some_iff.1 ht]
  have hnext : nextParts? ('\x7b' :: '#' :: t) =
      some ([⟨.comment, consumed ('\x7b' :: '#' :: t) rest⟩], rest) := by
    rw [nextParts?, hcut']
    rfl
  exact .of_nextParts? hnext

theorem plainText_append (s : List Char) : (plainText s).1 ++ (plainText s).2 = s := by
  induction s with
  | nil => rfl
  | cons c s ih =>
    unfold plainText
    split
    iterate 3 rfl
    exact congrArg (c :: ·) ih

end

/-! ## The texts in pieces -/

/-- A piece that is one tag, or a comment. -/
def Node.isLone : Node → Bool
  | .comment _ | .output .. | .assign .. | .insertion .. | .importing .. | .parent .. | .overridden
  | .leave _ | .next _ => true
  | .text _ | .raw .. | .block .. | .definition .. | .branch .. | .loop .. | .filtered .. => false

mutual

/-- Pieces hold these texts, in this order. -/
inductive Holds : List Node → List (List Char) → Prop
  | nil : Holds [] []
  | cons {n : Node} {rest : List Node} {ls ls' : List (List Char)} (h : HoldsOne n ls)
      (h' : Holds rest ls') : Holds (n :: rest) (ls ++ ls')

/-- A piece holds these texts. -/
inductive HoldsOne : Node → List (List Char) → Prop
  | lone {n : Node} (h : n.isLone = true) : HoldsOne n []
  | text (t : List Char) : HoldsOne (.text (String.ofList t)) [t]
  | raw (start : Trim) (t : List Char) (stop : Trim) :
      HoldsOne (.raw start (String.ofList t) stop) [t]
  | block {start : Trim} {name : String} {body : List Node} {stop : Trim} {ls : List (List Char)}
      (h : Holds body ls) : HoldsOne (.block start name body stop) ls
  | definition {start : Trim} {name : String} {parameters : List (String × Option Expr)}
      {body : List Node} {stop : Trim} {ls : List (List Char)} (h : Holds body ls) :
      HoldsOne (.definition start name parameters body stop) ls
  | filtered {start : Trim} {filter : Call} {body : List Node} {stop : Trim}
      {ls : List (List Char)} (h : Holds body ls) : HoldsOne (.filtered start filter body stop) ls
  | branch {arms : List (Trim × Expr × List Node)} {stop : Trim} {ls : List (List Char)}
      (h : HoldsArms arms ls) : HoldsOne (.branch arms none stop) ls
  | branchElse {arms : List (Trim × Expr × List Node)} {trim : Trim} {otherwise : List Node}
      {stop : Trim} {ls ls' : List (List Char)} (h : HoldsArms arms ls) (h' : Holds otherwise ls') :
      HoldsOne (.branch arms (some (trim, otherwise)) stop) (ls ++ ls')
  | loop {start : Trim} {key : Option String} {value : String} {container : Expr}
      {body : List Node} {stop : Trim} {ls : List (List Char)} (h : Holds body ls) :
      HoldsOne (.loop start key value container body none stop) ls
  | loopElse {start : Trim} {key : Option String} {value : String} {container : Expr}
      {body otherwise : List Node} {stop : Trim} {ls ls' : List (List Char)} (h : Holds body ls)
      (earlier : List (List Char)) (h' : Holds otherwise ls') :
      HoldsOne (.loop start key value container body (some otherwise) stop) (ls ++ (earlier ++ ls'))

/-- The arms of a branch hold these texts. -/
inductive HoldsArms : List (Trim × Expr × List Node) → List (List Char) → Prop
  | nil : HoldsArms [] []
  | cons {trim : Trim} {condition : Expr} {body : List Node}
      {rest : List (Trim × Expr × List Node)} {ls ls' : List (List Char)} (h : Holds body ls)
      (h' : HoldsArms rest ls') : HoldsArms ((trim, condition, body) :: rest) (ls ++ ls')

end

theorem Holds.append {ns ns' : List Node} {ls ls' : List (List Char)} (h : Holds ns ls)
    (h' : Holds ns' ls') : Holds (ns ++ ns') (ls ++ ls') := by
  induction ns generalizing ls with
  | nil =>
    cases h
    exact h'
  | cons n ns ih =>
    cases h with
    | cons hone hrest =>
      rw [List.append_assoc]
      exact .cons hone (ih hrest)

/-! ## Reading pieces -/

/-- The text up to the rest has literals for which this holds. -/
def ReadsHeld (s rest : List Char) (P : List (List Char) → Prop) : Prop :=
  ∃ ls, HasLiterals s rest ls ∧ P ls

namespace ReadsHeld

variable {s t rest : List Char} {P : List (List Char) → Prop}

theorem lone {n : Node} (h : HasLiterals s rest []) (hn : n.isLone = true) :
    ReadsHeld s rest (HoldsOne n) := ⟨[], h, .lone hn⟩

theorem mono {Q : List (List Char) → Prop} (h : ReadsHeld s rest P) (hPQ : ∀ ls, P ls → Q ls) :
    ReadsHeld s rest Q := by
  obtain ⟨ls, hls, hP⟩ := h
  exact ⟨ls, hls, hPQ ls hP⟩

theorem after (h : HasLiterals s t []) (h' : ReadsHeld t rest P) : ReadsHeld s rest P := by
  obtain ⟨ls, hls, hP⟩ := h'
  exact ⟨ls, h.after hls, hP⟩

theorem before (h : ReadsHeld s t P) (h' : HasLiterals t rest []) : ReadsHeld s rest P := by
  obtain ⟨ls, hls, hP⟩ := h
  exact ⟨ls, hls.before h', hP⟩

theorem append {Q R : List (List Char) → Prop} (h : ReadsHeld s t P) (h' : ReadsHeld t rest Q)
    (hR : ∀ ls ls', P ls → Q ls' → R (ls ++ ls')) : ReadsHeld s rest R := by
  obtain ⟨ls, hls, hP⟩ := h
  obtain ⟨ls', hls', hQ⟩ := h'
  exact ⟨ls ++ ls', hls.append hls', hR ls ls' hP hQ⟩

end ReadsHeld

section

variable {α : Type} {s rest : List Char} {n : Node}

/-- A piece that is one statement. -/
theorem readsHeld_statement {word : String} (hword : word ∈ statementWords) {inside : Reader α}
    (hinside : inside.TakesText) {f : (Trim × α) × List Char → Node × List Char}
    (h : (statement? word inside s).map f = some (n, rest))
    (hf : ∀ r, (f r).2 = r.2 ∧ (f r).1.isLone = true) : ReadsHeld s rest (HoldsOne n) := by
  obtain ⟨⟨a, r⟩, hread, he⟩ := Option.map_eq_some_iff.1 h
  obtain ⟨hrest, hlone⟩ := hf (a, r)
  rw [he] at hrest hlone
  cases hrest
  exact .lone (statement?_hasLiterals hword hinside hread) hlone

/-- A piece that is a statement of one word. -/
theorem readsHeld_word {word : String} (hword : word ∈ statementWords)
    {f : Trim × List Char → Node × List Char}
    (h : (wordTag? word false s).map f = some (n, rest))
    (hf : ∀ r, (f r).2 = r.2 ∧ (f r).1.isLone = true) : ReadsHeld s rest (HoldsOne n) := by
  obtain ⟨⟨a, r⟩, hread, he⟩ := Option.map_eq_some_iff.1 h
  obtain ⟨hrest, hlone⟩ := hf (a, r)
  rw [he] at hrest hlone
  cases hrest
  exact .lone (wordTag?_hasLiterals hword hread) hlone

/-- Raw text between its tags. -/
theorem readsHeld_raw {inside body content : List Char} {start stop : Trim}
    (hs : s = '\x7b' :: '%' :: inside) (hstart : wordTag? "raw" false s = some (start, body))
    (hraw : rawText body = some (content, stop, rest)) :
    ReadsHeld s rest (HoldsOne (.raw start (String.ofList content) stop)) := by
  subst hs
  have hnext : nextParts? ('\x7b' :: '%' :: inside) =
      some ([⟨.tag, consumed ('\x7b' :: '%' :: inside) body⟩, ⟨.raw, content⟩,
        ⟨.tag, consumed (body.drop content.length) rest⟩], rest) := by
    rw [nextParts?, hstart]
    simp only [hraw, Option.map_some]
  exact ⟨[content], .of_nextParts? hnext, .raw start content stop⟩

/-- Text outside of everything else. -/
theorem readsHeld_text (hne : s = [] → False)
    (hcomment : ∀ inside, s = '\x7b' :: '#' :: inside → False)
    (houtput : ∀ inside, s = '\x7b' :: '\x7b' :: inside → False)
    (hstatement : ∀ inside, s = '\x7b' :: '%' :: inside → False) :
    ReadsHeld s (plainText s).2 (HoldsOne (.text (String.ofList (plainText s).1))) := by
  have hnext : nextParts? s = some ([⟨.text, (plainText s).1⟩], (plainText s).2) := by
    unfold nextParts?
    split
    · exact absurd rfl hne
    · exact absurd rfl (hcomment _)
    · exact absurd rfl (houtput _)
    · exact absurd rfl (hstatement _)
    · rfl
  exact ⟨_, .of_nextParts? hnext, .text _⟩

end

/-- What stands in for a loop without turns holds the last of these texts, if it is there. -/
def HoldsLast (found : Option (List Node)) (ls : List (List Char)) : Prop :=
  match found with
  | none => ls = []
  | some body => ∃ earlier last, Holds body last ∧ ls = earlier ++ last

/-- The readers of pieces keep what they read if they have this much fuel. -/
structure NodeReadersKeep (fuel : Nat) : Prop where
  nodes : ∀ place s, ReadsHeld s (nodes fuel place s).2 (Holds (nodes fuel place s).1)
  node : ∀ place s n rest, node? fuel place s = some (n, rest) → ReadsHeld s rest (HoldsOne n)
  branch : ∀ place s n rest, branch? fuel place s = some (n, rest) → ReadsHeld s rest (HoldsOne n)
  arms : ∀ place s, ReadsHeld s (arms fuel place s).2 (HoldsArms (arms fuel place s).1)
  loop : ∀ s n rest, loop? fuel s = some (n, rest) → ReadsHeld s rest (HoldsOne n)
  emptyBody : ∀ found s₀ s, ReadsHeld s₀ s (HoldsLast found) →
    ReadsHeld s₀ (emptyBody fuel found s).2 (HoldsLast (emptyBody fuel found s).1)

namespace NodeReadersKeep

theorem zero : NodeReadersKeep 0 where
  nodes _ s := ⟨[], .refl s, .nil⟩
  node _ _ _ _ h := nomatch h
  branch _ _ _ _ h := nomatch h
  arms _ s := ⟨[], .refl s, .nil⟩
  loop _ _ _ h := nomatch h
  emptyBody _ _ _ h := h

variable {fuel : Nat} (ih : NodeReadersKeep fuel)
include ih

theorem nodes_succ (place : Place) (s : List Char) :
    ReadsHeld s (Template.nodes (fuel + 1) place s).2
      (Holds (Template.nodes (fuel + 1) place s).1) := by
  rw [Template.nodes]
  split
  · next h => exact (ih.node _ _ _ _ h).append (ih.nodes place _) fun _ _ => .cons
  · exact ⟨[], .refl s, .nil⟩

theorem arms_succ (place : Place) (s : List Char) :
    ReadsHeld s (Template.arms (fuel + 1) place s).2
      (HoldsArms (Template.arms (fuel + 1) place s).1) := by
  rw [Template.arms]
  split
  · next h =>
    have hhead := statement?_hasLiterals (by decide) armHead?_takes h
    exact .after hhead ((ih.nodes place _).append (ih.arms place _) fun _ _ => .cons)
  · exact ⟨[], .refl s, .nil⟩

theorem emptyBody_succ (found : Option (List Node)) (s₀ s : List Char)
    (h : ReadsHeld s₀ s (HoldsLast found)) :
    ReadsHeld s₀ (Template.emptyBody (fuel + 1) found s).2
      (HoldsLast (Template.emptyBody (fuel + 1) found s).1) := by
  rw [Template.emptyBody]
  split
  · next helse =>
    have hbody := ReadsHeld.after (wordTag?_hasLiterals (by decide) helse) (ih.nodes .inLoop _)
    exact ih.emptyBody _ s₀ _ (h.append hbody fun ls ls' _ hbody => ⟨ls, ls', hbody, rfl⟩)
  · exact h

theorem branch_succ (place : Place) (s : List Char) (n : Node) (rest : List Char)
    (h : branch? (fuel + 1) place s = some (n, rest)) : ReadsHeld s rest (HoldsOne n) := by
  rw [branch?] at h
  obtain ⟨⟨⟨start, first⟩, r⟩, hif, h⟩ := Option.bind_eq_some_iff.1 h
  have hhead := statement?_hasLiterals (by decide) armHead?_takes hif
  have harms : ReadsHeld s (Template.arms fuel place (Template.nodes fuel place r).2).2
      (HoldsArms ((start, first, (Template.nodes fuel place r).1) ::
        (Template.arms fuel place (Template.nodes fuel place r).2).1)) :=
    .after hhead ((ih.nodes place r).append (ih.arms place _) fun _ _ => .cons)
  simp only at h
  rcases helse : wordTag? "else" false (Template.arms fuel place (Template.nodes fuel place r).2).2
    with _ | ⟨trim, r'⟩
  · rw [helse] at h
    obtain ⟨⟨stop, r''⟩, hend, h⟩ := Option.bind_eq_some_iff.1 h
    cases h
    exact (harms.before (wordTag?_hasLiterals (by decide) hend)).mono fun _ => .branch
  · rw [helse] at h
    obtain ⟨⟨stop, r''⟩, hend, h⟩ := Option.bind_eq_some_iff.1 h
    cases h
    have hbody := ReadsHeld.after (wordTag?_hasLiterals (by decide) helse) (ih.nodes place r')
    exact (harms.append hbody fun _ _ => .branchElse).before
      (wordTag?_hasLiterals (by decide) hend)

theorem loop_succ (s : List Char) (n : Node) (rest : List Char)
    (h : loop? (fuel + 1) s = some (n, rest)) : ReadsHeld s rest (HoldsOne n) := by
  rw [loop?] at h
  obtain ⟨⟨⟨start, key, value, container⟩, r⟩, hfor, h⟩ := Option.bind_eq_some_iff.1 h
  obtain ⟨⟨stop, r'⟩, hend, h⟩ := Option.bind_eq_some_iff.1 h
  cases h
  have hhead := statement?_hasLiterals (by decide) loopHead?_takes hfor
  have hend := wordTag?_hasLiterals (by decide) hend
  have hother := (ih.emptyBody none _ _ ⟨[], .refl _, rfl⟩).before hend
  refine .after hhead ((ih.nodes .inLoop r).append hother fun ls ls' hbody hother => ?_)
  rcases ho : (Template.emptyBody fuel none (Template.nodes fuel .inLoop r).2).1 with _ | otherwise
  · rw [ho] at hother
    rw [show ls' = [] from hother, List.append_nil]
    exact .loop hbody
  · rw [ho] at hother
    obtain ⟨earlier, last, hlast, rfl⟩ := hother
    exact .loopElse hbody earlier hlast

theorem node_succ (place : Place) (s : List Char) (n : Node) (rest : List Char)
    (h : node? (fuel + 1) place s = some (n, rest)) : ReadsHeld s rest (HoldsOne n) := by
  unfold node? at h
  split at h
  · obtain ⟨⟨trim, r⟩, hcomment, he⟩ := Option.map_eq_some_iff.1 h
    cases he
    exact .lone (comment?_hasLiterals hcomment) rfl
  · split at h
    · next hover =>
      cases h
      obtain ⟨-, hover⟩ := Option.ite_none_right_eq_some.1 hover
      exact .lone (hasLiterals_of_output (overridden?_beginsWithTag hover)) rfl
    · obtain ⟨⟨a, r⟩, hout, he⟩ := Option.map_eq_some_iff.1 h
      cases he
      exact .lone (hasLiterals_of_output (output?_beginsWithTag hout)) rfl
  · dsimp only at h
    split at h
    · exact readsHeld_statement (by decide) assignment?_takes h fun _ => ⟨rfl, rfl⟩
    · exact readsHeld_statement (by decide) assignment?_takes h fun _ => ⟨rfl, rfl⟩
    · exact readsHeld_statement (by decide) insertion?_takes h fun _ => ⟨rfl, rfl⟩
    · obtain ⟨-, h⟩ := Option.ite_none_right_eq_some.1 h
      exact readsHeld_statement (by decide) importing?_takes h fun _ => ⟨rfl, rfl⟩
    · obtain ⟨-, h⟩ := Option.ite_none_right_eq_some.1 h
      exact readsHeld_word (by decide) h fun _ => ⟨rfl, rfl⟩
    · obtain ⟨-, h⟩ := Option.ite_none_right_eq_some.1 h
      exact readsHeld_word (by decide) h fun _ => ⟨rfl, rfl⟩
    · obtain ⟨⟨start, body⟩, hstart, h⟩ := Option.bind_eq_some_iff.1 h
      obtain ⟨⟨content, stop, r⟩, hraw, h⟩ := Option.bind_eq_some_iff.1 h
      cases h
      exact readsHeld_raw rfl hstart hraw
    · exact ih.branch _ _ _ _ h
    · exact ih.loop _ _ _ h
    · obtain ⟨⟨⟨start, filter⟩, r⟩, hfilter, h⟩ := Option.bind_eq_some_iff.1 h
      obtain ⟨⟨stop, r'⟩, hend, h⟩ := Option.bind_eq_some_iff.1 h
      cases h
      exact .after (statement?_hasLiterals (by decide) filterHead?_takes hfilter)
        (((ih.nodes .inFilter r).mono fun _ => .filtered).before
          (wordTag?_hasLiterals (by decide) hend))
    · obtain ⟨-, h⟩ := Option.ite_none_right_eq_some.1 h
      obtain ⟨⟨⟨start, name⟩, r⟩, hblock, h⟩ := Option.bind_eq_some_iff.1 h
      obtain ⟨⟨stop, r'⟩, hend, h⟩ := Option.bind_eq_some_iff.1 h
      cases h
      exact .after (statement?_hasLiterals (by decide) name?_takes hblock)
        (((ih.nodes .inBlock r).mono fun _ => .block).before
          (wordTag?_hasLiterals (by decide) hend))
    · obtain ⟨-, h⟩ := Option.ite_none_right_eq_some.1 h
      obtain ⟨⟨⟨start, name, parameters⟩, r⟩, hmacro, h⟩ := Option.bind_eq_some_iff.1 h
      obtain ⟨⟨stop, r'⟩, hend, h⟩ := Option.bind_eq_some_iff.1 h
      cases h
      exact .after (statement?_hasLiterals (by decide) head?_takes hmacro)
        (((ih.nodes .inDefinition r).mono fun _ => .definition).before
          (wordTag?_hasLiterals (by decide) hend))
    · cases h
  · cases h
  · next hcomment houtput hstatement hne =>
    cases h
    exact readsHeld_text hne hcomment houtput hstatement

end NodeReadersKeep

theorem nodeReadersKeep (fuel : Nat) : NodeReadersKeep fuel := by
  induction fuel with
  | zero => exact .zero
  | succ fuel ih =>
    exact ⟨ih.nodes_succ, ih.node_succ, ih.branch_succ, ih.arms_succ, ih.loop_succ,
      ih.emptyBody_succ⟩

/-! ## Reading a template -/

theorem opening_holds (fuel : Nat) (s : List Char) :
    ReadsHeld s (opening fuel s).2 (Holds (opening fuel s).1) := by
  induction fuel generalizing s with
  | zero => exact ⟨[], .refl s, .nil⟩
  | succ fuel ih =>
    rw [opening]
    simp only
    split
    · next n rest hfound =>
      have hone : ReadsHeld s rest (HoldsOne n) := by
        split at hfound
        · next hcomment =>
          cases hfound
          exact .lone (comment?_hasLiterals hcomment) rfl
        · exact readsHeld_statement (by decide) importing?_takes hfound fun _ => ⟨rfl, rfl⟩
      exact hone.append (ih rest) fun _ _ => .cons
    · exact ⟨[], .refl s, .nil⟩

/-- A template that can be read holds its literals, in order. -/
theorem allNodes?_holds {s : List Char} {ns : List Node} (h : allNodes? s = some ns) :
    ∃ parts, Cuts s parts [] ∧ Holds ns (literals parts) := by
  unfold allNodes? at h
  simp only at h
  generalize 2 * s.length + 10 = fuel at h
  have hfinish : ∀ parent rest, ReadsHeld (opening fuel s).2 rest (Holds parent) →
      (if (nodes fuel .top rest).2.isEmpty then
        some ((opening fuel s).1 ++ parent ++ (nodes fuel .top rest).1) else none) = some ns →
      ∃ parts, Cuts s parts [] ∧ Holds ns (literals parts) := by
    intro parent rest hparent h
    obtain ⟨hempty, h⟩ := Option.ite_none_right_eq_some.1 h
    cases h
    have hall := ((opening_holds fuel s).append hparent fun _ _ => Holds.append).append
      ((nodeReadersKeep fuel).nodes .top rest) fun _ _ => Holds.append
    rw [List.isEmpty_iff.1 hempty] at hall
    obtain ⟨_, ⟨parts, hparts, rfl⟩, hholds⟩ := hall
    exact ⟨parts, hparts, hholds⟩
  rcases hextends : statement? "extends" quotedText? (opening fuel s).2 with
    _ | ⟨⟨trim, name⟩, rest⟩
  · rw [hextends] at h
    exact hfinish [] _ ⟨[], .refl _, .nil⟩ h
  · rw [hextends] at h
    refine hfinish [.parent trim name] rest ⟨[], ?_, .cons (.lone rfl) .nil⟩ h
    exact statement?_hasLiterals (by decide) quotedText?_takes hextends

end BuildTool.Template
