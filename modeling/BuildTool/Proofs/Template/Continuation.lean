import BuildTool.Proofs.Text.Cut
import BuildTool.Template.Preprocess

/-!
# Continued lines

A backslash directly before a line end continues the line: both disappear, and all other characters
stay in order. Joining does that in two passes over the text, one for line ends with a carriage
return and one for single line feeds, and the first pass can put a backslash before a line feed that
it did not stand before in the text:

    \ \ CR LF LF    becomes    \ LF    by the first pass, and nothing by the second

Such a line feed is late. In a text without late line feeds both passes together are one
(`joinTwice_eq_iff`); a late one disappears with the backslash that it comes to stand behind
(`joinTwice_append`).
-/

namespace BuildTool.Template

/-! ## One pass -/

/-- The text without the backslashes before line ends and without these line ends. -/
def joinOnce : List Char → List Char
  | '\\' :: '\n' :: rest => joinOnce rest
  | '\\' :: '\r' :: '\n' :: rest => joinOnce rest
  | c :: rest => c :: joinOnce rest
  | [] => []

/-- Behind these characters stands a line end. A line feed behind a carriage return is no line end
of its own. -/
def IsLineEnd (before lineEnd : List Char) : Prop :=
  lineEnd = ['\r', '\n'] ∨ lineEnd = ['\n'] ∧ before.getLast? ≠ some '\r'

theorem joinOnce_cons {c : Char} {rest : List Char} (hfeed : ¬ ['\\', '\n'] <+: c :: rest)
    (hcarriage : ¬ ['\\', '\r', '\n'] <+: c :: rest) :
    joinOnce (c :: rest) = c :: joinOnce rest := by
  rw [joinOnce]
  · rintro rest rfl rfl
    exact hfeed ⟨rest, rfl⟩
  · rintro rest rfl rfl
    exact hcarriage ⟨rest, rfl⟩

/-- Induction along the pass: over continued lines, and over characters that begin none. -/
@[elab_as_elim] theorem joinOnce_induction {P : List Char → Prop} (nil : P [])
    (feed : ∀ rest, P rest → P ('\\' :: '\n' :: rest))
    (carriage : ∀ rest, P rest → P ('\\' :: '\r' :: '\n' :: rest))
    (char : ∀ c rest, ¬ ['\\', '\n'] <+: c :: rest → ¬ ['\\', '\r', '\n'] <+: c :: rest →
      P rest → P (c :: rest)) (s : List Char) : P s := by
  fun_induction joinOnce s with
  | case1 rest ih => exact feed rest ih
  | case2 rest ih => exact carriage rest ih
  | case3 c rest hfeed hcarriage ih =>
    refine char c rest ?_ ?_ ih
    · rintro ⟨tail, htail⟩
      cases htail
      exact hfeed tail rfl rfl
    · rintro ⟨tail, htail⟩
      cases htail
      exact hcarriage tail rfl rfl
  | case4 => exact nil

theorem joinOnce_append_backslash (before rest : List Char) :
    joinOnce (before ++ '\\' :: rest) = joinOnce before ++ joinOnce ('\\' :: rest) := by
  induction before using joinOnce_induction with
  | nil => rfl
  | feed tail ih => exact ih
  | carriage tail ih => exact ih
  | char c tail hfeed hcarriage ih =>
    rw [List.cons_append, joinOnce_cons (Text.not_prefix_append_cons (by decide) hfeed rest)
      (Text.not_prefix_append_cons (by decide) hcarriage rest), ih, joinOnce_cons hfeed hcarriage,
      List.cons_append]

theorem getLast?_ne_of_cons {c d : Char} {s : List Char} (h : (c :: s).getLast? ≠ some d) :
    s.getLast? ≠ some d := by
  intro hd
  rw [List.getLast?_cons, hd] at h
  exact h rfl

theorem IsLineEnd.of_cons {c : Char} {before lineEnd : List Char}
    (h : IsLineEnd (c :: before) lineEnd) : IsLineEnd before lineEnd :=
  h.imp_right fun hfeed => ⟨hfeed.1, getLast?_ne_of_cons hfeed.2⟩

/-- No continued line begins before a line end and ends with it if no backslash is before it. -/
theorem IsLineEnd.begins_none {c : Char} {before lineEnd : List Char}
    (h : IsLineEnd (c :: before) lineEnd) (hbackslash : (c :: before).getLast? ≠ some '\\')
    (hfeed : ¬ ['\\', '\n'] <+: c :: before) (hcarriage : ¬ ['\\', '\r', '\n'] <+: c :: before)
    (after : List Char) :
    ¬ ['\\', '\n'] <+: c :: (before ++ (lineEnd ++ after)) ∧
      ¬ ['\\', '\r', '\n'] <+: c :: (before ++ (lineEnd ++ after)) := by
  constructor
  · rintro ⟨x, hx⟩
    match before with
    | [] =>
      obtain rfl : '\\' = c := (List.cons.inj hx).1
      exact hbackslash rfl
    | d :: before =>
      cases hx
      exact hfeed ⟨before, rfl⟩
  · rintro ⟨x, hx⟩
    match before with
    | [] =>
      obtain rfl : '\\' = c := (List.cons.inj hx).1
      exact hbackslash rfl
    | [d] =>
      rcases h with rfl | ⟨rfl, hreturn⟩
      · cases hx
      · cases hx
        exact hreturn rfl
    | d :: e :: before =>
      cases hx
      exact hcarriage ⟨before, rfl⟩

/-- A line end that no backslash is before stays. -/
theorem joinOnce_append_lineEnd {before lineEnd : List Char} (hend : IsLineEnd before lineEnd)
    (hbackslash : before.getLast? ≠ some '\\') (after : List Char) :
    joinOnce (before ++ (lineEnd ++ after)) = joinOnce before ++ (lineEnd ++ joinOnce after) := by
  induction before using joinOnce_induction with
  | nil => rcases hend with rfl | ⟨rfl, -⟩ <;> rfl
  | feed tail ih =>
    exact ih hend.of_cons.of_cons (getLast?_ne_of_cons (getLast?_ne_of_cons hbackslash))
  | carriage tail ih =>
    exact ih hend.of_cons.of_cons.of_cons
      (getLast?_ne_of_cons (getLast?_ne_of_cons (getLast?_ne_of_cons hbackslash)))
  | char c tail hfeed hcarriage ih =>
    obtain ⟨hnotFeed, hnotCarriage⟩ := hend.begins_none hbackslash hfeed hcarriage after
    rw [List.cons_append, joinOnce_cons hnotFeed hnotCarriage,
      ih hend.of_cons (getLast?_ne_of_cons hbackslash), joinOnce_cons hfeed hcarriage,
      List.cons_append]

/-! ## Two passes -/

/-- A pass for line ends of one kind. -/
def joinAt (lineEnd s : List Char) : List Char := Text.replaceText ('\\' :: lineEnd) [] s

section

variable {lineEnd : List Char} {c : Char}

@[simp] theorem joinAt_nil : joinAt lineEnd [] = [] := Text.replaceText_nil []

theorem joinAt_continued (lineEnd s : List Char) :
    joinAt lineEnd ('\\' :: (lineEnd ++ s)) = joinAt lineEnd s :=
  Text.replaceText_append_left [] (List.cons_ne_nil _ _) s

theorem joinAt_cons {s : List Char} (h : ¬ '\\' :: lineEnd <+: c :: s) :
    joinAt lineEnd (c :: s) = c :: joinAt lineEnd s :=
  Text.replaceText_cons [] (List.cons_ne_nil _ _) h

theorem joinAt_cons_of_ne (hc : c ≠ '\\') (s : List Char) :
    joinAt lineEnd (c :: s) = c :: joinAt lineEnd s := by
  refine joinAt_cons ?_
  rintro ⟨x, hx⟩
  exact hc (List.cons.inj hx).1.symm

theorem joinAt_append_backslash (hend : '\\' ∉ lineEnd) (s rest : List Char) :
    joinAt lineEnd (s ++ '\\' :: rest) = joinAt lineEnd s ++ joinAt lineEnd ('\\' :: rest) :=
  Text.replaceText_append_cons [] hend s rest

end

/-- The text after both passes. -/
def joinTwice (s : List Char) : List Char := joinAt ['\n'] (joinAt ['\r', '\n'] s)

theorem joinContinued_eq (text : String) :
    joinContinued text = .ofList (joinTwice text.toList) := rfl

/-- So many continued line ends with a carriage return. -/
def continuedReturns (count : Nat) : List Char :=
  (List.replicate count ['\\', '\r', '\n']).flatten

theorem continuedReturns_succ (count : Nat) (rest : List Char) :
    continuedReturns (count + 1) ++ rest =
      '\\' :: '\r' :: '\n' :: (continuedReturns count ++ rest) := by
  simp [continuedReturns, List.replicate_succ]

theorem joinAt_continuedReturns (count : Nat) (s : List Char) :
    joinAt ['\r', '\n'] (continuedReturns count ++ s) = joinAt ['\r', '\n'] s := by
  induction count with
  | zero => rfl
  | succ count ih =>
    rw [continuedReturns_succ]
    exact (joinAt_continued ['\r', '\n'] _).trans ih

theorem joinOnce_continuedReturns (count : Nat) (s : List Char) :
    joinOnce (continuedReturns count ++ s) = joinOnce s := by
  induction count with
  | zero => rfl
  | succ count ih => rw [continuedReturns_succ, joinOnce, ih]

/-- Behind the first pass a line feed comes first if there have been only continued lines before
it. -/
theorem exists_of_joinAt_eq {s rest : List Char} (h : joinAt ['\r', '\n'] s = '\n' :: rest) :
    ∃ count after, s = continuedReturns count ++ '\n' :: after := by
  induction s using joinOnce_induction with
  | nil => cases joinAt_nil.symm.trans h
  | feed tail _ =>
    have hnot : ¬ ['\\', '\r', '\n'] <+: '\\' :: '\n' :: tail := by
      rintro ⟨x, hx⟩
      cases hx
    rw [joinAt_cons hnot] at h
    cases h
  | carriage tail ih =>
    obtain ⟨count, after, rfl⟩ := ih ((joinAt_continued ['\r', '\n'] tail).symm.trans h)
    exact ⟨count + 1, after, (continuedReturns_succ count _).symm⟩
  | char c tail _ hcarriage _ =>
    rw [joinAt_cons hcarriage] at h
    cases h
    exact ⟨0, tail, rfl⟩

/-! ## Late line feeds -/

/-- A line feed of the text comes to stand behind a backslash when continued lines between them are
joined. -/
def HasLateFeed (s : List Char) : Prop :=
  ∃ before count after,
    s = before ++ '\\' :: (continuedReturns (count + 1) ++ '\n' :: after)

/-- The line feed disappears with the backslash, also where it is late. -/
theorem joinTwice_append (before : List Char) (count : Nat) (after : List Char) :
    joinTwice (before ++ '\\' :: (continuedReturns count ++ '\n' :: after)) =
      joinTwice before ++ joinTwice after := by
  have hnot : ¬ ['\\', '\r', '\n'] <+: '\\' :: (continuedReturns count ++ '\n' :: after) := by
    rintro ⟨x, hx⟩
    cases count with
    | zero => cases hx
    | succ count =>
      rw [continuedReturns_succ] at hx
      cases hx
  have hfirst : joinAt ['\r', '\n'] ('\\' :: (continuedReturns count ++ '\n' :: after)) =
      '\\' :: '\n' :: joinAt ['\r', '\n'] after := by
    rw [joinAt_cons hnot, joinAt_continuedReturns, joinAt_cons_of_ne (by decide)]
  rw [joinTwice, joinAt_append_backslash (by decide), hfirst, joinAt_append_backslash (by decide)]
  exact congrArg _ (joinAt_continued ['\n'] _)

/-- One pass leaves a late line feed and the backslash before it. -/
theorem joinOnce_backslash (count : Nat) (after : List Char) :
    joinOnce ('\\' :: (continuedReturns (count + 1) ++ '\n' :: after)) =
      '\\' :: '\n' :: joinOnce after := by
  rw [continuedReturns_succ]
  change '\\' :: joinOnce (continuedReturns count ++ '\n' :: after) = _
  rw [joinOnce_continuedReturns]
  rfl

@[simp] theorem joinTwice_nil : joinTwice [] = [] := by rw [joinTwice, joinAt_nil, joinAt_nil]

theorem joinTwice_feed (rest : List Char) : joinTwice ('\\' :: '\n' :: rest) = joinTwice rest := by
  have hjoined := joinTwice_append [] 0 rest
  rwa [joinTwice_nil] at hjoined

theorem joinTwice_carriage (rest : List Char) :
    joinTwice ('\\' :: '\r' :: '\n' :: rest) = joinTwice rest :=
  congrArg (joinAt ['\n']) (joinAt_continued ['\r', '\n'] rest)

/-- A character that begins no continued line stays in two passes as well, unless it is a backslash
that a late line feed belongs to. -/
theorem late_or_joinTwice_cons {c : Char} {rest : List Char} (hfeed : ¬ ['\\', '\n'] <+: c :: rest)
    (hcarriage : ¬ ['\\', '\r', '\n'] <+: c :: rest) :
    (∃ count after, c = '\\' ∧ rest = continuedReturns (count + 1) ++ '\n' :: after) ∨
      joinTwice (c :: rest) = c :: joinTwice rest := by
  rw [joinTwice, joinAt_cons hcarriage]
  by_cases hlate : ['\\', '\n'] <+: c :: joinAt ['\r', '\n'] rest
  · obtain ⟨x, hx⟩ := hlate
    obtain ⟨rfl, hrest⟩ := List.cons.inj hx
    obtain ⟨count, after, rfl⟩ := exists_of_joinAt_eq hrest.symm
    cases count with
    | zero => exact absurd ⟨after, rfl⟩ hfeed
    | succ count => exact .inl ⟨count, after, rfl, rfl⟩
  · exact .inr (joinAt_cons hlate)

/-- Two passes leave nothing that one pass does not leave. -/
theorem joinTwice_sublist (s : List Char) : (joinTwice s).Sublist (joinOnce s) := by
  induction s using joinOnce_induction with
  | nil =>
    rw [joinTwice_nil]
    exact .refl []
  | feed rest ih =>
    rw [joinTwice_feed, joinOnce]
    exact ih
  | carriage rest ih =>
    rw [joinTwice_carriage, joinOnce]
    exact ih
  | char c rest hfeed hcarriage ih =>
    rcases late_or_joinTwice_cons hfeed hcarriage with ⟨count, after, rfl, rfl⟩ | hjoined
    · have hjoined := joinTwice_append [] (count + 1) after
      have hrest : joinTwice (continuedReturns (count + 1) ++ '\n' :: after) =
          '\n' :: joinTwice after := by
        rw [joinTwice, joinAt_continuedReturns, joinAt_cons_of_ne (by decide),
          joinAt_cons_of_ne (by decide), joinTwice]
      rw [joinTwice_nil, List.nil_append, List.nil_append] at hjoined
      rw [hrest] at ih
      rw [hjoined, joinOnce_cons hfeed hcarriage]
      exact .cons _ (.trans (.cons _ (.refl _)) ih)
    · rw [hjoined, joinOnce_cons hfeed hcarriage]
      exact .cons_cons c ih

theorem HasLateFeed.cons {s : List Char} (h : HasLateFeed s) (c : Char) : HasLateFeed (c :: s) := by
  obtain ⟨before, count, after, rfl⟩ := h
  exact ⟨c :: before, count, after, rfl⟩

/-- Two passes are one, unless there is a late line feed: then there is less left of the text. -/
theorem joinTwice_eq_iff (s : List Char) : joinTwice s = joinOnce s ↔ ¬ HasLateFeed s := by
  constructor
  · rintro heq ⟨before, count, after, rfl⟩
    have hbefore := (joinTwice_sublist before).length_le
    have hafter := (joinTwice_sublist after).length_le
    rw [joinTwice_append, joinOnce_append_backslash, joinOnce_backslash] at heq
    have hlength := congrArg List.length heq
    simp only [List.length_append, List.length_cons] at hlength
    omega
  · intro hlate
    induction s using joinOnce_induction with
    | nil => rw [joinTwice_nil, joinOnce]
    | feed rest ih => rw [joinTwice_feed, joinOnce, ih fun h => hlate ((h.cons _).cons _)]
    | carriage rest ih =>
      rw [joinTwice_carriage, joinOnce, ih fun h => hlate (((h.cons _).cons _).cons _)]
    | char c rest hfeed hcarriage ih =>
      rcases late_or_joinTwice_cons hfeed hcarriage with ⟨count, after, rfl, rfl⟩ | hjoined
      · exact absurd ⟨[], count, after, rfl⟩ hlate
      · rw [hjoined, joinOnce_cons hfeed hcarriage, ih fun h => hlate (h.cons c)]

/-- A late line feed stands directly behind a line end with a carriage return. -/
theorem HasLateFeed.behind_return {s : List Char} (h : HasLateFeed s) :
    ['\r', '\n', '\n'] <:+: s := by
  obtain ⟨before, count, after, rfl⟩ := h
  have hlast : continuedReturns (count + 1) = continuedReturns count ++ ['\\', '\r', '\n'] := by
    simp [continuedReturns, List.replicate_succ']
  refine ⟨before ++ '\\' :: (continuedReturns count ++ ['\\']), after, ?_⟩
  rw [hlast]
  simp

/-! ## Texts -/

/-- The lines of a text are joined in one pass exactly if it has no late line feed, and it has none
if no line feed stands directly behind a line end with a carriage return. Then a line end stays
exactly if no backslash is directly before it. A late line feed and the backslash that belongs to it
disappear, and so does what has brought them together. -/
theorem lines_are_joined_at_backslashes (text : String) :
    (joinContinued text = .ofList (joinOnce text.toList) ↔ ¬ HasLateFeed text.toList) ∧
    (HasLateFeed text.toList → ['\r', '\n', '\n'] <:+: text.toList) ∧
    (∀ before lineEnd after, text.toList = before ++ (lineEnd ++ after) →
      IsLineEnd before lineEnd → ¬ HasLateFeed text.toList →
      joinContinued text =
        if before.getLast? = some '\\' then .ofList (joinOnce before.dropLast ++ joinOnce after)
        else .ofList (joinOnce before ++ (lineEnd ++ joinOnce after))) ∧
    ∀ before count after,
      text.toList = before ++ '\\' :: (continuedReturns count ++ '\n' :: after) →
      joinContinued text = joinContinued (.ofList before) ++ joinContinued (.ofList after) := by
  have honce : joinContinued text = .ofList (joinOnce text.toList) ↔ ¬ HasLateFeed text.toList := by
    rw [joinContinued_eq, String.ofList_inj, joinTwice_eq_iff]
  refine ⟨honce, HasLateFeed.behind_return, ?_, ?_⟩
  · intro before lineEnd after htext hend hlate
    rw [honce.mpr hlate, htext]
    split
    · next hbackslash =>
      obtain ⟨front, rfl⟩ := List.getLast?_eq_some_iff.mp hbackslash
      have hjoined : joinOnce ('\\' :: (lineEnd ++ after)) = joinOnce after := by
        rcases hend with rfl | ⟨rfl, -⟩ <;> rfl
      rw [List.dropLast_concat, List.append_assoc, List.singleton_append, joinOnce_append_backslash,
        hjoined]
    · next hbackslash => rw [joinOnce_append_lineEnd hend hbackslash]
  · intro before count after htext
    rw [joinContinued_eq, htext, joinTwice_append, String.ofList_append, joinContinued_eq,
      joinContinued_eq, String.toList_ofList, String.toList_ofList]

/-- By the theorem, line ends of both kinds are continued and kept, a backslash before a backslash
stays, and a line feed behind a continued line with a carriage return disappears with it. -/
theorem lines_are_joined_at_backslashes_mixed :
    let text := "a\\\r\nb\r\nc\\\\\nd\n"
    let front := ['a', '\\', '\r', '\n', 'b']
    let back := ['c', '\\', '\\', '\n', 'd', '\n']
    joinContinued text = .ofList (joinOnce text.toList) ∧
    joinContinued text = .ofList (joinOnce front ++ (['\r', '\n'] ++ joinOnce back)) ∧
    joinContinued "a\\\\\r\n\nb" = joinContinued "a" ++ joinContinued "b" := by
  intro text front back
  obtain ⟨honce, hwithin, hends, -⟩ := lines_are_joined_at_backslashes text
  obtain ⟨-, -, -, hfeeds⟩ := lines_are_joined_at_backslashes "a\\\\\r\n\nb"
  have hlate : ¬ HasLateFeed text.toList := fun h => absurd (hwithin h) (by decide +kernel)
  have hkept := hends front ['\r', '\n'] back (by decide +kernel) (.inl rfl) hlate
  rw [if_neg (by decide)] at hkept
  exact ⟨honce.mpr hlate, hkept, hfeeds ['a'] 1 ['b'] (by decide +kernel)⟩

/-- One pass leaves a line feed that no backslash is directly before, but two passes do not. -/
theorem late_line_feed_disappears :
    let text := "a\\\\\r\n\nb"
    let before := ['a', '\\', '\\', '\r', '\n']
    (text.toList = before ++ (['\n'] ++ ['b']) ∧ IsLineEnd before ['\n'] ∧
      before.getLast? ≠ some '\\') ∧
    String.ofList (joinOnce text.toList) = "a\\\nb" ∧ joinContinued text = "ab" := by
  intro text before
  have hend : IsLineEnd before ['\n'] := .inr ⟨rfl, by decide⟩
  exact ⟨⟨by decide +kernel, hend, by decide⟩, by decide +kernel, by decide +kernel⟩

end BuildTool.Template
