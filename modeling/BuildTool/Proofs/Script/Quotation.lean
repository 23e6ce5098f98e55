import BuildTool.Proofs.Script.Spelling
import BuildTool.Script
import BuildTool.Session
import Mathlib.Algebra.Ring.Parity

/-!
# Quotes in a command line

A quote opens a span or closes the one that is open, unless there is an escape before it. An escape
is a backslash in a span that has no escape before it itself. So the escapes depend on the quotes
in front of them and the quotes on the escapes:

    "a\"b" c     two of three quotes count
    a\"b c"      both count: outside of a span a backslash is no escape
    "a\\" b"     all three count, and the last span stays open

A text is split into words exactly if an even number of its quotes counts, and then a space behind
it ends the last word, whatever follows (`scanWords_append_space`).
-/

namespace BuildTool.Words

/-! ## Quotes that count -/

mutual

/-- The number of quotes that open or close a span, among characters that are given from the last
one back. -/
def spanQuotes : List Char → Nat
  | [] => 0
  | c :: before =>
    if c = '"' ∧ endsInEscape before = false then spanQuotes before + 1 else spanQuotes before

/-- The last character, which comes first, is a backslash in a span, and no escape is before it. -/
def endsInEscape : List Char → Bool
  | [] => false
  | c :: before => decide (c = '\\' ∧ Odd (spanQuotes before)) && !endsInEscape before

end

/-- The number of quotes in a text that open or close a span. -/
def countQuotes (text : String) : Nat := spanQuotes text.toList.reverse

theorem odd_of_endsInEscape {before : List Char} (h : endsInEscape before = true) :
    Odd (spanQuotes before) := by
  cases before with
  | nil => cases h
  | cons c before =>
    rw [endsInEscape, Bool.and_eq_true, decide_eq_true_iff] at h
    obtain ⟨⟨hc, hodd⟩, -⟩ := h
    have hquote : ¬ (c = '"' ∧ endsInEscape before = false) := by
      rintro ⟨rfl, -⟩
      cases hc
    rwa [spanQuotes, if_neg hquote]

/-! ## The scanner behind a text -/

/-- Where the scanner stands behind one character more. -/
def stateAfter (c : Char) : WordState → WordState
  | .plain => if c = '"' then .inQuotes else .plain
  | .inQuotes => if c = '\\' then .afterBackslash else if c = '"' then .plain else .inQuotes
  | .afterBackslash => .inQuotes

/-- Where the scanner stands behind these characters, the last of which comes first. -/
def stateBehind (before : List Char) : WordState :=
  if endsInEscape before = true then .afterBackslash
  else if Odd (spanQuotes before) then .inQuotes
  else .plain

theorem stateBehind_cons (c : Char) (before : List Char) :
    stateBehind (c :: before) = stateAfter c (stateBehind before) := by
  by_cases hescape : endsInEscape before = true
  · have hodd := odd_of_endsInEscape hescape
    have hbefore : stateBehind before = .afterBackslash := by simp [stateBehind, hescape]
    rw [hbefore, stateAfter]
    simp [stateBehind, endsInEscape, spanQuotes, hescape, hodd]
  · by_cases hodd : Odd (spanQuotes before)
    · have hbefore : stateBehind before = .inQuotes := by simp [stateBehind, hescape, hodd]
      rw [hbefore, stateAfter]
      by_cases hslash : c = '\\'
      · simp [stateBehind, endsInEscape, hescape, hodd, hslash]
      · by_cases hquote : c = '"'
        · simp [stateBehind, endsInEscape, spanQuotes, hescape, hodd, hquote, Nat.odd_add_one]
        · simp [stateBehind, endsInEscape, spanQuotes, hodd, hslash, hquote]
    · have hbefore : stateBehind before = .plain := by simp [stateBehind, hescape, hodd]
      rw [hbefore, stateAfter]
      by_cases hquote : c = '"'
      · simp [stateBehind, endsInEscape, spanQuotes, hescape, hodd, hquote, Nat.odd_add_one]
      · simp [stateBehind, endsInEscape, spanQuotes, hodd, hquote]

/-- One step of the scanner: it goes on with what the character makes of the word, and puts the word
that the character closes in front of the others, if it closes one. -/
theorem scanWords_cons (state : WordState) (word : List Char) (c : Char) :
    ∃ word' closed, ∀ rest, scanWords state word (c :: rest) =
      (scanWords (stateAfter c state) word' rest).map (addWord closed) := by
  have hgoOn : ∀ word', (∀ rest, scanWords state word (c :: rest) =
      scanWords (stateAfter c state) word' rest) → ∃ word' closed, ∀ rest,
        scanWords state word (c :: rest) =
          (scanWords (stateAfter c state) word' rest).map (addWord closed) := by
    intro word' h
    refine ⟨word', [], fun rest => ?_⟩
    have hnone : addWord [] = id := rfl
    rw [h, hnone, Option.map_id_fun, id]
  cases state with
  | afterBackslash => exact hgoOn _ fun rest => rfl
  | inQuotes =>
    by_cases hslash : c = '\\'
    · have hafter : stateAfter c .inQuotes = .afterBackslash := if_pos hslash
      exact hgoOn word fun rest => by rw [hafter, scanWords, if_pos hslash]
    · by_cases hquote : c = '"'
      · have hafter : stateAfter c .inQuotes = .plain := by
          rw [stateAfter, if_neg hslash, if_pos hquote]
        exact hgoOn word fun rest => by rw [hafter, scanWords, if_neg hslash, if_pos hquote]
      · have hafter : stateAfter c .inQuotes = .inQuotes := by
          rw [stateAfter, if_neg hslash, if_neg hquote]
        exact hgoOn (c :: word) fun rest => by rw [hafter, scanWords, if_neg hslash, if_neg hquote]
  | plain =>
    by_cases hquote : c = '"'
    · have hafter : stateAfter c .plain = .inQuotes := if_pos hquote
      exact hgoOn word fun rest => by rw [hafter, scanWords, if_pos hquote]
    · have hafter : stateAfter c .plain = .plain := if_neg hquote
      by_cases hspace : c = ' '
      · exact ⟨[], word, fun rest => by rw [hafter, scanWords, if_neg hquote, if_pos hspace]⟩
      · exact hgoOn (c :: word) fun rest => by rw [hafter, scanWords, if_neg hquote, if_neg hspace]

/-- By induction on what is left, whose characters go over to those in front of the scanner one by
one. -/
theorem scanWords_eq_none_iff (before word rest : List Char) :
    scanWords (stateBehind before) word rest = none ↔
      Odd (spanQuotes (rest.reverse ++ before)) := by
  induction rest generalizing before word with
  | nil =>
    unfold stateBehind
    split
    · next hescape => simp [scanWords, odd_of_endsInEscape hescape]
    · split
      · next hodd => simp [scanWords, hodd]
      · next heven => simp [scanWords, heven]
  | cons c rest ih =>
    obtain ⟨word', closed, hscan⟩ := scanWords_cons (stateBehind before) word c
    rw [hscan, ← stateBehind_cons, Option.map_eq_none_iff, ih, List.reverse_cons,
      List.append_assoc, List.singleton_append]

theorem splitWords?_eq_none_iff (text : String) :
    splitWords? text = none ↔ Odd (countQuotes text) := by
  have hscan := scanWords_eq_none_iff [] [] text.toList
  rw [List.append_nil] at hscan
  rw [splitWords?, Option.map_eq_none_iff]
  exact hscan

/-! ## Words behind each other -/

theorem ne_nil_of_mem_addWord {word : List Char} {words : List (List Char)}
    (h : ∀ w ∈ words, w ≠ []) : ∀ w ∈ addWord word words, w ≠ [] := by
  intro w hw
  unfold addWord at hw
  split at hw
  · exact h w hw
  · next hword =>
    rcases List.mem_cons.mp hw with rfl | hw
    · simpa using hword
    · exact h w hw

theorem ne_nil_of_mem_scanWords {state : WordState} {word text : List Char}
    {words : List (List Char)} (h : scanWords state word text = some words) :
    ∀ w ∈ words, w ≠ [] := by
  induction text generalizing state word words with
  | nil =>
    cases state <;> cases h
    exact ne_nil_of_mem_addWord fun w hw => nomatch hw
  | cons c text ih =>
    obtain ⟨word', closed, hscan⟩ := scanWords_cons state word c
    rw [hscan] at h
    obtain ⟨others, hothers, rfl⟩ := Option.map_eq_some_iff.mp h
    exact ne_nil_of_mem_addWord (ih hothers)

theorem addWord_append (word : List Char) (words more : List (List Char)) :
    addWord word (words ++ more) = addWord word words ++ more := by
  unfold addWord
  split <;> rfl

/-- A space behind a text that is split ends its last word. -/
theorem scanWords_append_space {state : WordState} {word text : List Char}
    {words : List (List Char)} (h : scanWords state word text = some words) (rest : List Char) :
    scanWords state word (text ++ ' ' :: rest) = (scanWords .plain [] rest).map (words ++ ·) := by
  induction text generalizing state word words with
  | nil =>
    cases state <;> cases h
    rw [List.nil_append, scanWords_space]
    refine congrArg (Option.map · _) (funext fun more => ?_)
    exact addWord_append word [] more
  | cons c text ih =>
    obtain ⟨word', closed, hscan⟩ := scanWords_cons state word c
    rw [hscan] at h
    obtain ⟨others, hothers, rfl⟩ := Option.map_eq_some_iff.mp h
    rw [List.cons_append, hscan, ih hothers, Option.map_map]
    refine congrArg (Option.map · _) (funext fun more => ?_)
    exact addWord_append closed others more

/-! ## Texts -/

theorem splitWords?_append_space {text : String} {words : List String}
    (h : splitWords? text = some words) (more : String) :
    splitWords? (text ++ " " ++ more) = (splitWords? more).map (words ++ ·) := by
  obtain ⟨chars, hscan, rfl⟩ := Option.map_eq_some_iff.mp h
  have htext : (text ++ " " ++ more).toList = text.toList ++ ' ' :: more.toList := by simp
  rw [splitWords?, htext, scanWords_append_space hscan, splitWords?, Option.map_map, Option.map_map]
  refine congrArg (Option.map · _) (funext fun rest => ?_)
  exact List.map_append

theorem empty_not_mem_splitWords? {text : String} {words : List String}
    (h : splitWords? text = some words) : "" ∉ words := by
  obtain ⟨chars, hscan, rfl⟩ := Option.map_eq_some_iff.mp h
  intro hmem
  obtain ⟨w, hw, hempty⟩ := List.mem_map.mp hmem
  exact ne_nil_of_mem_scanWords hscan w hw (by simpa using hempty)

/-- A text is split into words, none of them empty, unless the number of quotes that count is odd.
Where words are asked for, that is an error that quotes the text and leaves all as it was. The words
of a text that is split come first in the words of every text that goes on behind it with a space,
and there are none of that text if there are none of what follows. -/
theorem paired_quotes_split_texts (text : String) :
    (splitWords? text = none ↔ Odd (countQuotes text)) ∧
    (∀ words, splitWords? text = some words → "" ∉ words ∧
      ∀ more, splitWords? (text ++ " " ++ more) = (splitWords? more).map (words ++ ·)) ∧
    (Odd (countQuotes text) →
      let unterminated := BuildError.parse none (.openQuote text)
      unterminated.message = "parse error: unterminated string in " ++ Text.quoted text ∧
      (∀ nested (s : Session) target w, s.dryRun = false →
        s.runCommand nested target text w = (.error unterminated, w)) ∧
      ∀ (plan : Plan) name right,
        (right.toList.dropWhile Text.isBlank).dropWhile (· == '!') = text.toList →
          plan.declare name right = (.error unterminated, plan)) := by
  refine ⟨splitWords?_eq_none_iff text, ?_, ?_⟩
  · intro words hsplit
    exact ⟨empty_not_mem_splitWords? hsplit, splitWords?_append_space hsplit⟩
  · intro hodd
    have hnone : splitWords? text = none := (splitWords?_eq_none_iff text).mpr hodd
    refine ⟨rfl, ?_, ?_⟩
    · intro nested s target w hdry
      rw [Session.runCommand, hdry, if_neg Bool.false_ne_true, hnone]
    · intro plan name right hright
      have hread : Plan.readDependencies right = .error (.openQuote text) := by
        simp only [Plan.readDependencies, hright, String.ofList_toList, hnone]
      rw [Plan.declare, hread]

/-- By the theorem, escapes within a span let quotes and spaces stand in words, and a text that
follows is split for itself; and behind an escape that is escaped a quote closes the span. -/
theorem paired_quotes_split_texts_escapes :
    let text := "a \"b\\\\\\\" c\" \"\""
    splitWords? text = some ["a", "b\\\" c"] ∧
    splitWords? (text ++ " " ++ "x \"y") = none ∧
    Odd (countQuotes "a\\\"b\\\\\"\\\"") ∧
    (Plan.declare {} "all" " !a\\\"b\\\\\"\\\"").1 =
      .error (.parse none (.openQuote "a\\\"b\\\\\"\\\"")) := by
  intro text
  have hsplit : splitWords? text = some ["a", "b\\\" c"] := by decide +kernel
  have hnone : splitWords? "x \"y" = none := by decide +kernel
  have hodd : Odd (countQuotes "a\\\"b\\\\\"\\\"") := by decide +kernel
  obtain ⟨-, hjoined, -⟩ := paired_quotes_split_texts text
  obtain ⟨-, -, herror⟩ := paired_quotes_split_texts "a\\\"b\\\\\"\\\""
  refine ⟨hsplit, ?_, hodd, ?_⟩
  · rw [(hjoined _ hsplit).2, hnone, Option.map_none]
  · rw [(herror hodd).2.2 {} "all" _ (by decide +kernel)]

end BuildTool.Words
