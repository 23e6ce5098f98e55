import BuildTool.Proofs.Template.Pieces

/-!
# Literals of a scanned template

Scanning does not know about comments and raw text, so it may take a part of either for the
beginning of a tag. What it does to the literals of a template, then, is this: some lookups in them
become calls. Up to the first part that the scanner leaves in the middle of a tag, each part is
scanned for itself, and text has no tags:

    Cuts (scan (sources before ++ sources after)) (before scanned ++ …) []    if  before  is closed

## Sections

* parts before and after scanning;
* parts that are scanned for themselves.
-/

namespace BuildTool.Template

/-! ## Parts before and after scanning -/

/-- The texts that parts have been cut from. -/
def sourceOf (parts : List Part) : List Char := parts.flatMap Part.source

@[simp] theorem sourceOf_append (ps qs : List Part) :
    sourceOf (ps ++ qs) = sourceOf ps ++ sourceOf qs := List.flatMap_append

theorem olds_flatMap (ks : List (PartKind × List Piece)) :
    olds (ks.flatMap Prod.snd) = sourceOf (oldParts ks) := by
  induction ks with
  | nil => rfl
  | cons k ks ih => rw [List.flatMap_cons, olds_append, ih]; rfl

theorem news_flatMap (ks : List (PartKind × List Piece)) :
    news (ks.flatMap Prod.snd) = sourceOf (newParts ks) := by
  induction ks with
  | nil => rfl
  | cons k ks ih => rw [List.flatMap_cons, news_append, ih]; rfl

theorem nextParts?_source {s rest : List Char} {ps : List Part}
    (h : nextParts? s = some (ps, rest)) : s = sourceOf ps ++ rest := by
  have hstep := nextParts?_inStep (Proper.keep s)
  rw [olds_keep, news_keep, h] at hstep
  obtain ⟨ks, qs, hkeep, he, -⟩ : CutAlike (keep s) (ps, rest) (ps, rest) := by
    cases hstep
    assumption
  cases he
  rw [← olds_flatMap, ← olds_append, ← hkeep, olds_keep]

theorem Cuts.source {s rest : List Char} {parts : List Part} (h : Cuts s parts rest) :
    s = sourceOf parts ++ rest := by
  induction h with
  | nil => rfl
  | cons hnext _ ih => rw [nextParts?_source hnext, ih, sourceOf_append, List.append_assoc]

/-- Where a source is cut after scanning, it is cut before scanning. -/
theorem Cuts.of_news {ps : List Piece} (hps : Proper ps) {rest' : List Char} {parts' : List Part}
    (h : Cuts (news ps) parts' rest') : ∃ ks qs, ps = ks.flatMap Prod.snd ++ qs ∧
      parts' = newParts ks ∧ rest' = news qs ∧ Cuts (olds ps) (oldParts ks) (olds qs) := by
  generalize hs : news ps = s' at h
  induction h generalizing ps with
  | nil => exact ⟨[], ps, rfl, rfl, hs.symm, .nil _⟩
  | @cons _ t' rest' ps' qs' hnext _ ih =>
    subst hs
    have hstep := nextParts?_inStep hps
    rw [hnext] at hstep
    generalize ho : nextParts? (olds ps) = o at hstep
    cases hstep with
    | some h =>
      obtain ⟨ks, qs, rfl, rfl, he⟩ := h
      cases he
      obtain ⟨ks', qs', rfl, rfl, hrest, hcuts⟩ :=
        ih (fun p hp => hps p (List.mem_append_right _ hp)) rfl
      refine ⟨ks ++ ks', qs', by simp, by simp [newParts], hrest, ?_⟩
      rw [oldParts, List.map_append]
      exact .cons ho hcuts

theorem eq_nil_of_news {ps : List Piece} (h : news ps = []) : ps = [] := by
  cases ps with
  | nil => rfl
  | cons p ps => cases p <;> cases h

theorem eq_nil_of_olds {ps : List Piece} (h : olds ps = []) : ps = [] := by
  cases ps with
  | nil => rfl
  | cons p ps => cases p <;> cases h

/-- Two parts of a kind, of which the second has calls where the first has lookups. -/
def Part.Becomes (p p' : Part) : Prop := p.kind = p'.kind ∧ InPieces p.source p'.source

theorem forall₂_becomes {ks : List (PartKind × List Piece)} (h : ∀ k ∈ ks, Proper k.2) :
    List.Forall₂ Part.Becomes (oldParts ks) (newParts ks) := by
  induction ks with
  | nil => exact .nil
  | cons k ks ih =>
    rw [List.forall_mem_cons] at h
    exact .cons ⟨rfl, k.2, h.1, rfl, rfl⟩ (ih h.2)

/-- A template is cut into parts before scanning as it is after it. -/
theorem Cuts.of_scan {s : List Char} {parts' : List Part} (h : Cuts (scan s) parts' []) :
    ∃ parts, Cuts s parts [] ∧ List.Forall₂ Part.Becomes parts parts' := by
  obtain ⟨ps, hps, hold, hnew⟩ := inPieces_scan s
  rw [hnew] at h
  obtain ⟨ks, qs, rfl, rfl, hrest, hcuts⟩ := h.of_news hps
  cases eq_nil_of_news hrest.symm
  rw [← hold] at hcuts
  refine ⟨oldParts ks, hcuts, forall₂_becomes fun k hk p hp => hps p ?_⟩
  rw [List.append_nil]
  exact List.mem_flatMap.2 ⟨k, hk, hp⟩

theorem Part.Becomes.literal? {p p' : Part} (h : p.Becomes p') :
    Option.Rel InPieces p.literal? p'.literal? := by
  obtain ⟨kind, source⟩ := p
  obtain ⟨kind', source'⟩ := p'
  obtain ⟨rfl, h⟩ := h
  cases kind
  case text | raw => exact .some h
  case comment | tag => exact .none

/-! ## Parts that are scanned for themselves -/

/-- A part after scanning it alone. -/
def Part.scanned (p : Part) : Part := { p with source := scan p.source }

/-- No tag of the scanner begins in the part and ends behind it. -/
def Part.IsClosed (p : Part) : Prop := p.kind = .text ∨ Template.IsClosed p.source

instance (p : Part) : Decidable p.IsClosed := inferInstanceAs (Decidable (_ ∨ _))

theorem tagSpan?_eq_none_of_opensPart {c : Char} {s : List Char} (h : opensPart c s = false) :
    tagSpan? (c :: s) = none := by
  refine Option.eq_none_iff_forall_ne_some.2 fun r hspan => ?_
  obtain ⟨brackets, hb, inside, t, hs, -, -⟩ := tagSpan?_eq_some hspan
  simp only [scanBrackets, List.mem_cons, List.not_mem_nil, or_false] at hb
  rcases hb with rfl | rfl <;> cases hs <;> cases h

theorem scan_plainText (s : List Char) : scan s = (plainText s).1 ++ scan (plainText s).2 := by
  induction s with
  | nil => rfl
  | cons c s ih =>
    rw [plainText_cons]
    split
    · rfl
    · next hopens =>
      rw [scan_cons (tagSpan?_eq_none_of_opensPart (Bool.eq_false_iff.2 hopens)), ih]
      rfl

theorem head?_plainText {s : List Char} {d : Char} (h : (plainText s).1.head? = some d) :
    s.head? = some d := by
  rw [← plainText_append s, List.head?_append, h]
  rfl

/-- Text has no tags. -/
theorem scan_text (s : List Char) : scan (plainText s).1 = (plainText s).1 := by
  induction s with
  | nil => rfl
  | cons c s ih =>
    rw [plainText_cons]
    split
    · rfl
    · next hopens =>
      have hnone : opensPart c (plainText s).1 = false := by
        refine Bool.eq_false_iff.2 fun h => hopens ?_
        obtain ⟨rfl, d, t, ht, hd⟩ := opensPart_iff.1 h
        have hd' : s.head? = some d := head?_plainText (by rw [ht]; rfl)
        obtain ⟨t', rfl⟩ := List.head?_eq_some_iff.1 hd'
        exact opensPart_iff.2 ⟨rfl, d, t', rfl, hd⟩
      rw [scan_cons (tagSpan?_eq_none_of_opensPart hnone), ih]

/-- Text makes up a cut of its own. -/
theorem nextParts?_of_text {s rest : List Char} {ps : List Part} {p : Part}
    (h : nextParts? s = some (ps, rest)) (hp : p ∈ ps) (hkind : p.kind = .text) :
    ps = [p] ∧ p.source = (plainText s).1 ∧ rest = (plainText s).2 := by
  have htag : ∀ {stop inside : List Char}, nextTag? stop s inside ≠ some (ps, rest) := by
    intro stop inside htag
    obtain ⟨cut, -, he⟩ := Option.map_eq_some_iff.1 htag
    cases he
    cases List.mem_singleton.1 hp
    cases hkind
  unfold nextParts? at h
  split at h
  · cases h
  · obtain ⟨cut, -, he⟩ := Option.map_eq_some_iff.1 h
    cases he
    cases List.mem_singleton.1 hp
    cases hkind
  · exact absurd h htag
  · split at h
    · obtain ⟨r, -, he⟩ := Option.map_eq_some_iff.1 h
      cases he
      simp only [List.mem_cons, List.not_mem_nil, or_false] at hp
      rcases hp with rfl | rfl | rfl <;> cases hkind
    · exact absurd h htag
  · cases h
    cases List.mem_singleton.1 hp
    exact ⟨rfl, rfl, rfl⟩

/-- Text where it stands is scanned for itself. -/
theorem Cuts.scan_text {s : List Char} {parts : List Part} (h : Cuts s parts []) {p : Part}
    {before after : List Part} (hparts : parts = before ++ p :: after) (hkind : p.kind = .text) :
    scan p.source = p.source ∧
      scan (p.source ++ sourceOf after) = p.source ++ scan (sourceOf after) := by
  generalize hrest : ([] : List Char) = rest at h
  induction h generalizing before with
  | nil => simp at hparts
  | @cons s t rest ps qs hnext hcuts ih =>
    subst hrest
    rcases List.append_eq_append_iff.1 hparts with ⟨xs, rfl, hqs⟩ | ⟨xs, rfl, hps⟩
    · exact ih hqs rfl
    · cases xs with
      | nil => exact @ih [] hps.symm rfl
      | cons p' xs =>
        cases hps
        obtain ⟨hone, htext, rfl⟩ := nextParts?_of_text hnext (by simp) hkind
        cases before with
        | cons b before => simp at hone
        | nil =>
          cases hone
          have hrest : (plainText s).2 = sourceOf qs := by
            rw [hcuts.source, List.append_nil]
          refine ⟨htext ▸ Template.scan_text s, ?_⟩
          show scan (p.source ++ sourceOf qs) = p.source ++ scan (sourceOf qs)
          rw [htext, ← hrest, plainText_append, ← scan_plainText]

theorem scan_sourceOf {s : List Char} {parts : List Part} (h : Cuts s parts [])
    {first before after : List Part} (hparts : parts = first ++ (before ++ after))
    (hclosed : ∀ p ∈ before, p.IsClosed) :
    scan (sourceOf (before ++ after)) =
      sourceOf (before.map Part.scanned) ++ scan (sourceOf after) := by
  induction before generalizing first with
  | nil => rfl
  | cons p before ih =>
    rw [List.forall_mem_cons] at hclosed
    have hone : scan (p.source ++ sourceOf (before ++ after)) =
        scan p.source ++ scan (sourceOf (before ++ after)) := by
      rcases hclosed.1 with hkind | hclosed
      · obtain ⟨hp, hscan⟩ := h.scan_text hparts hkind
        rw [hp]
        exact hscan
      · exact scan_append hclosed _
    have hnext : parts = (first ++ [p]) ++ (before ++ after) := by
      rw [hparts, List.append_assoc]
      rfl
    have ih := ih hnext hclosed.2
    calc scan (sourceOf (p :: before ++ after))
      _ = scan p.source ++ scan (sourceOf (before ++ after)) := hone
      _ = sourceOf ((p :: before).map Part.scanned) ++ scan (sourceOf after) := by
        rw [ih, ← List.append_assoc]
        rfl

/-- Parts and what they are after scanning, in pieces. -/
theorem exists_scannedParts (parts : List Part) :
    ∃ ks, (∀ k ∈ ks, Proper k.2) ∧ oldParts ks = parts ∧ newParts ks = parts.map Part.scanned := by
  induction parts with
  | nil => exact ⟨[], nofun, rfl, rfl⟩
  | cons p parts ih =>
    obtain ⟨ks, hks, rfl, hnew⟩ := ih
    obtain ⟨ps, hps, hold, hscan⟩ := inPieces_scan p.source
    refine ⟨(p.kind, ps) :: ks, List.forall_mem_cons.2 ⟨hps, hks⟩, ?_, ?_⟩
    · rw [oldParts, List.map_cons, ← hold]
      rfl
    · rw [newParts, List.map_cons, ← hscan, List.map_cons, ← hnew]
      rfl

/-- Parts of the same pieces, where they are the same texts, are the same. -/
theorem exists_append_of_oldParts {ks ks' : List (PartKind × List Piece)} {after : List Part}
    {ps : List Piece} (hparts : oldParts ks = oldParts ks' ++ after)
    (hpieces : ks.flatMap Prod.snd = ks'.flatMap Prod.snd ++ ps) : ∃ ks'', ks = ks' ++ ks'' := by
  induction ks' generalizing ks with
  | nil => exact ⟨ks, rfl⟩
  | cons k' ks' ih =>
    cases ks with
    | nil => cases hparts
    | cons k ks =>
      obtain ⟨hk, hparts⟩ := List.cons.inj hparts
      obtain ⟨hkind, holds⟩ := Part.mk.inj hk
      rw [List.flatMap_cons, List.flatMap_cons, List.append_assoc] at hpieces
      have hk : k.2 = k'.2 := by
        rcases List.append_eq_append_iff.1 hpieces with ⟨qs, hqs, -⟩ | ⟨qs, hqs, -⟩
        all_goals
          have hnil : qs = [] := eq_nil_of_olds (by simpa [hqs] using holds)
          rw [hqs, hnil, List.append_nil]
      rw [hk] at hpieces
      obtain ⟨ks'', rfl⟩ := ih hparts (List.append_cancel_left hpieces)
      exact ⟨ks'', by rw [Prod.ext hkind hk, List.cons_append]⟩

/-- Parts that the scanner leaves where they end are scanned for themselves. -/
theorem Cuts.scanned_of_closed {s : List Char} {before after parts' : List Part}
    (h : Cuts s (before ++ after) []) (h' : Cuts (scan s) parts' [])
    (hclosed : ∀ p ∈ before, p.IsClosed) : before.map Part.scanned <+: parts' := by
  obtain ⟨ks, hks, hold, hnew⟩ := exists_scannedParts before
  obtain ⟨ps, hps, holdAfter, hnewAfter⟩ := inPieces_scan (sourceOf after)
  have hproper : Proper (ks.flatMap Prod.snd ++ ps) := by
    refine .append (fun p hp => ?_) hps
    obtain ⟨k, hk, hp⟩ := List.mem_flatMap.1 hp
    exact hks k hk p hp
  have hsource := h.source
  rw [List.append_nil] at hsource
  have hs : s = olds (ks.flatMap Prod.snd ++ ps) := by
    rw [hsource, olds_append, olds_flatMap, hold, ← holdAfter, sourceOf_append]
  have hscan : scan s = news (ks.flatMap Prod.snd ++ ps) := by
    have hall : before ++ after = [] ++ (before ++ after) := rfl
    rw [hsource, scan_sourceOf h hall hclosed, news_append, news_flatMap, hnew, ← hnewAfter]
  rw [hscan] at h'
  obtain ⟨ks', qs, hpieces, rfl, hrest, hcuts⟩ := h'.of_news hproper
  cases eq_nil_of_news hrest.symm
  rw [← hs] at hcuts
  rw [List.append_nil] at hpieces
  have hparts : oldParts ks' = oldParts ks ++ after := by
    rw [hold]
    exact hcuts.unique h
  obtain ⟨ks'', rfl⟩ := exists_append_of_oldParts hparts hpieces.symm
  rw [← hnew, newParts, newParts, List.map_append]
  exact List.prefix_append _ _

end BuildTool.Template
