import BuildTool.Text.Split
import Mathlib.Data.List.TakeWhile

/-!
# Cutting and splitting texts

What the functions that cut a text give, put together again, is the text, and what they cut at
does not occur before the cut. So the pieces of a text between the occurrences of a separator, put
together with the separator, are the text, and no piece holds the separator.

    intercalate sep (splitText sep s)  =  s

A text in which something is replaced is gone through from the left: where the old text begins, the
new one is put out, and elsewhere the character as it is.
-/

namespace BuildTool.Text

/-- What holds of all characters of a text is decided along the text. -/
instance (priority := 2000) decidableForallMem (s : List Char) (p : Char → Prop)
    [DecidablePred p] : Decidable (∀ c ∈ s, p c) := List.decidableBAll p s

theorem dropStart?_eq_some_iff {start s rest : List Char} :
    dropStart? start s = some rest ↔ s = start ++ rest := by
  induction start generalizing s with
  | nil => simp [dropStart?, eq_comm]
  | cons a start ih =>
    cases s with
    | nil => simp [dropStart?]
    | cons c s =>
      rw [dropStart?, List.cons_append, List.cons.injEq]
      split
      · next he => rw [ih, and_iff_right he.symm]
      · next hne => exact ⟨nofun, fun h => absurd h.1.symm hne⟩

@[simp] theorem dropStart?_append (start rest : List Char) :
    dropStart? start (start ++ rest) = some rest := dropStart?_eq_some_iff.2 rfl

theorem cutChar?_eq_some_iff {sep : Char} {s before after : List Char} :
    cutChar? sep s = some (before, after) ↔ s = before ++ sep :: after ∧ sep ∉ before := by
  induction s generalizing before with
  | nil => simp [cutChar?]
  | cons c s ih =>
    rw [cutChar?]
    split
    · next he =>
      subst he
      cases before with
      | nil => simp
      | cons b before =>
        simp only [Option.some.injEq, Prod.mk.injEq, List.nil_eq, reduceCtorEq, false_and,
          List.cons_append, List.cons.injEq, List.mem_cons, not_or, false_iff, not_and]
        exact fun h hne => absurd h.1 hne
    · next hne =>
      rw [Option.map_eq_some_iff]
      cases before with
      | nil => simp [hne]
      | cons b before =>
        simp only [Prod.mk.injEq, List.cons.injEq, Prod.exists, List.cons_append, List.mem_cons,
          not_or]
        constructor
        · rintro ⟨x, y, hcut, ⟨rfl, rfl⟩, rfl⟩
          obtain ⟨he, hnot⟩ := ih.1 hcut
          exact ⟨⟨rfl, he⟩, fun h => hne h.symm, hnot⟩
        · rintro ⟨⟨rfl, he⟩, -, hnot⟩
          exact ⟨_, _, ih.2 ⟨he, hnot⟩, ⟨rfl, rfl⟩, rfl⟩

theorem cutText?_append {sep s before after : List Char}
    (h : cutText? sep s = some (before, after)) : s = before ++ (sep ++ after) := by
  induction s generalizing before with
  | nil => cases h
  | cons c s ih =>
    rw [cutText?] at h
    split at h
    · next hd =>
      cases h
      rw [List.nil_append]
      exact dropStart?_eq_some_iff.1 hd
    · obtain ⟨⟨x, y⟩, hcut, he⟩ := Option.map_eq_some_iff.1 h
      cases he
      rw [ih hcut, List.cons_append]

theorem dropStart?_append_of_length_le {start s : List Char} (h : start.length ≤ s.length)
    (t : List Char) : dropStart? start (s ++ t) = (dropStart? start s).map (· ++ t) := by
  induction start generalizing s with
  | nil => rfl
  | cons a start ih =>
    cases s with
    | nil => cases h
    | cons c s =>
      rw [List.cons_append, dropStart?, dropStart?]
      split
      · exact ih (Nat.le_of_succ_le_succ h)
      · rfl

/-- A cut that has been found stays where it is when more text follows. -/
theorem cutText?_append_right {sep s before after : List Char}
    (h : cutText? sep s = some (before, after)) (t : List Char) :
    cutText? sep (s ++ t) = some (before, after ++ t) := by
  induction s generalizing before with
  | nil => cases h
  | cons c s ih =>
    have hlen : sep.length ≤ (c :: s).length := by
      rw [cutText?_append h]
      simp only [List.length_append]
      omega
    rw [cutText?] at h
    rw [List.cons_append, cutText?, ← List.cons_append, dropStart?_append_of_length_le hlen]
    split at h
    · next hd =>
      cases h
      rw [hd]
      rfl
    · next hd =>
      obtain ⟨⟨x, y⟩, hcut, he⟩ := Option.map_eq_some_iff.1 h
      cases he
      rw [hd, Option.map_none, ih hcut]
      rfl

theorem cutText?_cons {sep : List Char} {c : Char} {s : List Char}
    (h : dropStart? sep (c :: s) = none) :
    cutText? sep (c :: s) = (cutText? sep s).map fun cut => (c :: cut.1, cut.2) := by
  rw [cutText?, h]

/-- A text in which no cut can begin stands in front of the cut behind it. -/
theorem cutText?_append_of_none {sep s y : List Char}
    (h : ∀ x c z, s = x ++ c :: z → dropStart? sep (c :: (z ++ y)) = none) :
    cutText? sep (s ++ y) = (cutText? sep y).map fun cut => (s ++ cut.1, cut.2) := by
  induction s with
  | nil => simp
  | cons c s ih =>
    rw [List.cons_append, cutText?_cons (h [] c s rfl),
      ih fun x d z hs => h (c :: x) d z (by rw [hs, List.cons_append]), Option.map_map]
    rfl

/-- What is looked for is found where it stands, or before. -/
theorem exists_cutText? {sep : List Char} (hsep : sep ≠ []) (s t : List Char) :
    ∃ before after, cutText? sep (s ++ (sep ++ t)) = some (before, after) := by
  induction s with
  | nil =>
    obtain ⟨c, sep, rfl⟩ := List.exists_cons_of_ne_nil hsep
    refine ⟨[], t, ?_⟩
    rw [List.nil_append, List.cons_append, cutText?, ← List.cons_append, dropStart?_append]
  | cons c s ih =>
    obtain ⟨before, after, h⟩ := ih
    rw [List.cons_append, cutText?]
    split
    · next r _ => exact ⟨[], r, rfl⟩
    · exact ⟨c :: before, after, by rw [h]; rfl⟩

/-!
## The ends of texts

What is taken from the beginning of a text ends where its characters do, and trimming takes away
what stands around a text and nothing of the text itself:

    trimBoth p (before ++ middle ++ after)  =  middle
-/

section

variable {p : Char → Bool} {s rest : List Char}

theorem dropWhile_eq_self (h : ∀ c, s.head? = some c → p c = false) : s.dropWhile p = s := by
  cases s with
  | nil => rfl
  | cons c s =>
    have hc := h c rfl
    rw [List.dropWhile_cons_of_neg (by rw [hc]; exact Bool.false_ne_true)]

theorem dropWhile_append_eq (hs : ∀ c ∈ s, p c = true)
    (hrest : ∀ c, rest.head? = some c → p c = false) : (s ++ rest).dropWhile p = rest := by
  rw [List.dropWhile_append_of_pos hs, dropWhile_eq_self hrest]

theorem takeWhile_append_eq (hs : ∀ c ∈ s, p c = true)
    (hrest : ∀ c, rest.head? = some c → p c = false) : (s ++ rest).takeWhile p = s := by
  have hnil : rest.takeWhile p = [] := by
    cases rest with
    | nil => rfl
    | cons c rest =>
      rw [List.takeWhile_cons_of_neg (by rw [hrest c rfl]; exact Bool.false_ne_true)]
  rw [List.takeWhile_append_of_pos hs, hnil, List.append_nil]

theorem trimBoth_append_singleton {c : Char} (hc : p c = true) (s : List Char) :
    trimBoth p (s ++ [c]) = trimBoth p s := by
  rw [trimBoth, trimBoth, List.dropWhile_append]
  split
  · next h => simp [List.isEmpty_iff.mp h, hc]
  · simp [hc]

theorem exists_eq_trimBoth (p : Char → Bool) (s : List Char) : ∃ before after,
    s = before ++ (trimBoth p s ++ after) ∧ (∀ c ∈ before, p c = true) ∧
      ∀ c ∈ after, p c = true := by
  refine ⟨s.takeWhile p, ((s.dropWhile p).reverse.takeWhile p).reverse, ?_,
    fun _ => List.mem_takeWhile_imp, fun c hc => List.mem_takeWhile_imp (List.mem_reverse.mp hc)⟩
  rw [trimBoth, ← List.reverse_append, List.takeWhile_append_dropWhile, List.reverse_reverse,
    List.takeWhile_append_dropWhile]

theorem length_trimBoth_le (p : Char → Bool) (s : List Char) :
    (trimBoth p s).length ≤ s.length := by
  obtain ⟨before, after, hs, -, -⟩ := exists_eq_trimBoth p s
  have hlength := congrArg List.length hs
  rw [List.length_append, List.length_append] at hlength
  omega

theorem trimBoth_append {before middle after : List Char} (hbefore : ∀ c ∈ before, p c = true)
    (hmiddle : ∀ c ∈ middle, p c = false) (hafter : ∀ c ∈ after, p c = true) :
    trimBoth p (before ++ (middle ++ after)) = middle := by
  rw [trimBoth, List.dropWhile_append_of_pos hbefore]
  cases middle with
  | nil => rw [List.nil_append, List.dropWhile_eq_nil_iff.mpr hafter]; rfl
  | cons c middle =>
    have hstart : (c :: middle ++ after).dropWhile p = c :: middle ++ after :=
      dropWhile_eq_self fun d hd => hmiddle d (by cases hd; exact List.mem_cons_self)
    have hend : (c :: middle).reverse.dropWhile p = (c :: middle).reverse :=
      dropWhile_eq_self fun d hd => hmiddle d (List.mem_reverse.mp (List.mem_of_mem_head? hd))
    rw [hstart, List.reverse_append,
      List.dropWhile_append_of_pos fun d hd => hafter d (List.mem_reverse.mp hd), hend,
      List.reverse_reverse]

/-- Nothing is cut off a text that has other characters at its ends. -/
theorem trimBoth_eq_of_ends (hhead : ∀ c, s.head? = some c → p c = false)
    (hlast : ∀ c, s.getLast? = some c → p c = false) : trimBoth p s = s := by
  have hreverse : s.reverse.dropWhile p = s.reverse :=
    dropWhile_eq_self fun c hc => hlast c (List.head?_reverse.symm.trans hc)
  rw [trimBoth, dropWhile_eq_self hhead, hreverse, List.reverse_reverse]

end

section

variable {sep : List Char}

/-! ## Where the first occurrence is -/

theorem dropStart?_eq_none_iff {start s : List Char} :
    dropStart? start s = none ↔ ¬ start <+: s := by
  constructor
  · rintro h ⟨rest, rfl⟩
    rw [dropStart?_append] at h
    cases h
  · intro h
    rw [Option.eq_none_iff_forall_ne_some]
    intro rest hrest
    exact h ⟨rest, (dropStart?_eq_some_iff.mp hrest).symm⟩

theorem not_infix_of_cutText?_none (hsep : sep ≠ []) {s : List Char} (h : cutText? sep s = none) :
    ¬ sep <:+: s := by
  rintro ⟨x, y, rfl⟩
  obtain ⟨before, after, hcut⟩ := exists_cutText? hsep x y
  rw [List.append_assoc, hcut] at h
  cases h

/-- What stands before the first occurrence holds no other one. -/
theorem not_infix_of_cutText?_some (hsep : sep ≠ []) {s before after : List Char}
    (h : cutText? sep s = some (before, after)) : ¬ sep <:+: before := by
  induction s generalizing before with
  | nil => cases h
  | cons c s ih =>
    have hwhole := cutText?_append h
    rw [cutText?] at h
    split at h
    · cases h
      exact fun hwithin => hsep (List.infix_nil.mp hwithin)
    · next hnone =>
      obtain ⟨⟨before, after'⟩, hcut, he⟩ := Option.map_eq_some_iff.mp h
      cases he
      intro hwithin
      rcases List.infix_cons_iff.mp hwithin with hstart | hlater
      · have hall : sep <+: c :: s := by
          rw [hwhole]
          exact List.prefix_append_of_prefix hstart
        exact dropStart?_eq_none_iff.mp hnone hall
      · exact ih hcut hlater

/-! ## Pieces -/

theorem splitText_of_none {s : List Char} (h : cutText? sep s = none) : splitText sep s = [s] := by
  rw [splitText]
  split
  · rfl
  · split
    · rfl
    · next he => rw [h] at he; cases he

theorem splitText_of_some (hsep : sep ≠ []) {s before after : List Char}
    (h : cutText? sep s = some (before, after)) :
    splitText sep s = before :: splitText sep after := by
  rw [splitText, dif_neg hsep]
  split
  · next he => rw [h] at he; cases he
  · next he =>
    rw [h] at he
    cases he
    rfl

theorem splitText_ne_nil (sep s : List Char) : splitText sep s ≠ [] := by
  rw [splitText]
  split
  · exact List.cons_ne_nil _ _
  · split <;> exact List.cons_ne_nil _ _

theorem intercalate_splitText (sep s : List Char) : sep.intercalate (splitText sep s) = s := by
  fun_induction splitText sep s with
  | case1 => exact List.intercalate_singleton
  | case2 => exact List.intercalate_singleton
  | case3 s _ before after hcut _ ih =>
    rw [List.intercalate_cons_of_ne_nil (splitText_ne_nil sep after), ih, List.append_assoc]
    exact (cutText?_append hcut).symm

theorem not_infix_of_mem_splitText (hsep : sep ≠ []) {s piece : List Char}
    (h : piece ∈ splitText sep s) : ¬ sep <:+: piece := by
  fun_induction splitText sep s with
  | case1 s hnil => exact absurd hnil hsep
  | case2 s _ hcut =>
    rw [List.mem_singleton] at h
    rw [h]
    exact not_infix_of_cutText?_none hsep hcut
  | case3 s _ before after hcut _ ih =>
    rcases List.mem_cons.mp h with rfl | h
    · exact not_infix_of_cutText?_some hsep hcut
    · exact ih h

/-! ## Replacing -/

section

variable {old : List Char} (new : List Char)

@[simp] theorem replaceText_nil : replaceText old new [] = [] := by
  rw [replaceText, splitText_of_none rfl, List.intercalate_singleton]

theorem replaceText_of_some (hold : old ≠ []) {s before after : List Char}
    (h : cutText? old s = some (before, after)) :
    replaceText old new s = before ++ new ++ replaceText old new after := by
  rw [replaceText, splitText_of_some hold h, List.intercalate_cons_of_ne_nil (splitText_ne_nil _ _)]
  rfl

theorem replaceText_of_none {s : List Char} (h : cutText? old s = none) :
    replaceText old new s = s := by
  rw [replaceText, splitText_of_none h, List.intercalate_singleton]

theorem replaceText_append_left (hold : old ≠ []) (s : List Char) :
    replaceText old new (old ++ s) = new ++ replaceText old new s := by
  obtain ⟨c, tail, rfl⟩ := List.exists_cons_of_ne_nil hold
  have hcut : cutText? (c :: tail) (c :: tail ++ s) = some ([], s) := by
    rw [List.cons_append, cutText?, ← List.cons_append, dropStart?_append]
  rw [replaceText_of_some new hold hcut, List.nil_append]

theorem replaceText_cons (hold : old ≠ []) {c : Char} {s : List Char} (h : ¬ old <+: c :: s) :
    replaceText old new (c :: s) = c :: replaceText old new s := by
  have hcut := cutText?_cons (dropStart?_eq_none_iff.mpr h)
  rcases hlater : cutText? old s with _ | ⟨before, after⟩
  · rw [hlater] at hcut
    rw [replaceText_of_none new hcut, replaceText_of_none new hlater]
  · rw [hlater] at hcut
    rw [replaceText_of_some new hold hcut, replaceText_of_some new hold hlater]
    rfl

/-- Where a text begins with a character that does not come again in it, it does not begin in
front of that character and end behind it. -/
theorem not_prefix_append_cons {a c : Char} {tail s : List Char} (htail : a ∉ tail)
    (h : ¬ a :: tail <+: c :: s) (rest : List Char) : ¬ a :: tail <+: c :: (s ++ a :: rest) := by
  rintro ⟨z, hz⟩
  rw [← List.cons_append] at hz
  rcases List.append_eq_append_iff.mp hz with ⟨x, hx, -⟩ | ⟨x, hx, hrest⟩
  · exact h ⟨x, hx.symm⟩
  · cases x with
    | nil =>
      rw [List.append_nil] at hx
      exact h ⟨[], by rw [List.append_nil, hx]⟩
    | cons b x =>
      obtain rfl := (List.cons.inj hrest).1
      refine htail ?_
      rw [(List.cons.inj hx).2]
      exact List.mem_append_right s List.mem_cons_self

theorem replaceText_append_cons {a : Char} {tail : List Char} (htail : a ∉ tail)
    (s rest : List Char) :
    replaceText (a :: tail) new (s ++ a :: rest) =
      replaceText (a :: tail) new s ++ replaceText (a :: tail) new (a :: rest) := by
  have hold : a :: tail ≠ [] := List.cons_ne_nil a tail
  induction hlength : s.length using Nat.strongRecOn generalizing s with
  | ind length ih =>
    cases s with
    | nil => rw [replaceText_nil, List.nil_append, List.nil_append]
    | cons c s =>
      by_cases hstart : a :: tail <+: c :: s
      · obtain ⟨later, hlater⟩ := hstart
        have hless : later.length < length := by
          have hsum := congrArg List.length hlater
          rw [List.length_append, List.length_cons] at hsum
          omega
        rw [← hlater, List.append_assoc, replaceText_append_left new hold,
          replaceText_append_left new hold, ih later.length hless later rfl, List.append_assoc]
      · have hless : s.length < length := by
          rw [← hlength, List.length_cons]
          omega
        rw [List.cons_append, replaceText_cons new hold (not_prefix_append_cons htail hstart rest),
          replaceText_cons new hold hstart, ih s.length hless s rfl, List.cons_append]

end

end

end BuildTool.Text
