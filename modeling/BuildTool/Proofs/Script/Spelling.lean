import BuildTool.Command

/-!
# Words in any spelling

A word can be written as it stands, if it is not empty and has no space and no quote in it, or
between quotes. There a quote and a backslash have a backslash before them, and a line feed is
written as it is or as `\n`.

    a\b    "a\\b"        "a b"        "\"a\""

Behind each spelling the scanner is where it was, with the characters of the word read
(`Spells.scanWords_append`). So a text of words, however each is spelled and however many spaces
stand between them, is split into these words; only the empty ones do not count.
-/

namespace BuildTool.Words

/-- A character as it is written between quotes. -/
def escape (c : Char) : List Char :=
  if c = '"' then ['\\', '"']
  else if c = '\\' then ['\\', '\\']
  else if c = '\n' then ['\\', 'n']
  else [c]

theorem scanWords_escape (c : Char) (word rest : List Char) :
    scanWords .inQuotes word (escape c ++ rest) = scanWords .inQuotes (c :: word) rest := by
  unfold escape
  split
  · next h => subst h; rfl
  · next hquote =>
    split
    · next h => subst h; rfl
    · next hslash =>
      split
      · next h => subst h; rfl
      · rw [List.singleton_append, scanWords, if_neg hslash, if_neg hquote]

def quote (word : String) : String :=
  String.ofList ('"' :: (word.toList.flatMap escape ++ ['"']))

/-- Words between quotes, with spaces between them. -/
def write (words : List String) : String := " ".intercalate (words.map quote)

/-- Characters as they can stand between quotes. -/
inductive Escapes : List Char → List Char → Prop
  | nil : Escapes [] []
  | char {chars text : List Char} (c : Char) :
      Escapes chars text → Escapes (c :: chars) (escape c ++ text)
  | rawFeed {chars text : List Char} :
      Escapes chars text → Escapes ('\n' :: chars) ('\n' :: text)

/-- The text is a way to write the word. -/
inductive Spells : String → List Char → Prop
  | bare {chars : List Char} : chars ≠ [] → ' ' ∉ chars → '"' ∉ chars →
      Spells (.ofList chars) chars
  | quoted {chars text : List Char} : Escapes chars text →
      Spells (.ofList chars) ('"' :: (text ++ ['"']))

/-- The text is made of these words, each in some spelling, with spaces between them and with any
number of spaces before and behind them. -/
inductive Writes : List String → List Char → Prop
  | nil : Writes [] []
  | space {words : List String} {text : List Char} : Writes words text → Writes words (' ' :: text)
  | word {word : String} {words : List String} {spelling text : List Char} :
      Spells word spelling → Writes words text → (words ≠ [] → text.head? = some ' ') →
      Writes (word :: words) (spelling ++ text)

/-! ## Scanning one word -/

theorem Escapes.scanWords_append {chars text : List Char} (h : Escapes chars text)
    (word rest : List Char) :
    scanWords .inQuotes word (text ++ rest) = scanWords .inQuotes (chars.reverse ++ word) rest := by
  induction h generalizing word with
  | nil => rfl
  | char c _ ih =>
    rw [List.append_assoc, scanWords_escape, ih, List.reverse_cons, List.append_assoc,
      List.singleton_append]
  | rawFeed _ ih =>
    rw [List.cons_append, scanWords, if_neg (by decide), if_neg (by decide), ih,
      List.reverse_cons, List.append_assoc, List.singleton_append]

/-- Outside of quotes all but a space and a quote is read as it stands, a backslash too. -/
theorem scanWords_bare {chars : List Char} (hspace : ' ' ∉ chars) (hquote : '"' ∉ chars)
    (word rest : List Char) :
    scanWords .plain word (chars ++ rest) = scanWords .plain (chars.reverse ++ word) rest := by
  induction chars generalizing word with
  | nil => rfl
  | cons c chars ih =>
    rw [List.mem_cons, not_or] at hspace hquote
    rw [List.cons_append, scanWords, if_neg (Ne.symm hquote.1), if_neg (Ne.symm hspace.1),
      ih hspace.2 hquote.2, List.reverse_cons, List.append_assoc, List.singleton_append]

/-- A word in any spelling puts its characters at the end of the word that is read. -/
theorem Spells.scanWords_append {w : String} {text : List Char} (h : Spells w text)
    (word rest : List Char) :
    scanWords .plain word (text ++ rest) = scanWords .plain (w.toList.reverse ++ word) rest := by
  cases h with
  | bare _ hspace hquote =>
    rw [String.toList_ofList]
    exact scanWords_bare hspace hquote word rest
  | quoted hescapes =>
    rw [String.toList_ofList, List.cons_append, scanWords, if_pos rfl, List.append_assoc, hescapes.scanWords_append,
      List.singleton_append, scanWords, if_neg (by decide), if_pos rfl]

/-! ## Scanning a text of words -/

theorem scanWords_space (word text : List Char) :
    scanWords .plain word (' ' :: text) = (scanWords .plain [] text).map (addWord word) := by
  rw [scanWords, if_neg (by decide), if_pos rfl]

/-- A space, or the end of a text, ends a word. -/
theorem scanWords_ended {text : List Char} (h : ∀ c, text.head? = some c → c = ' ')
    (word : List Char) :
    scanWords .plain word text = (scanWords .plain [] text).map (addWord word) := by
  cases text with
  | nil => rfl
  | cons c text =>
    obtain rfl := h c rfl
    rw [scanWords_space, scanWords_space, Option.map_map]
    rfl

/-- Behind the last word there are only spaces. -/
theorem Writes.head?_eq {words : List String} {text : List Char} (h : Writes words text)
    (hstart : words ≠ [] → text.head? = some ' ') : ∀ c, text.head? = some c → c = ' ' := by
  intro c hc
  cases h with
  | nil => cases hc
  | space =>
    cases hc
    rfl
  | word =>
    rw [hstart (List.cons_ne_nil _ _)] at hc
    cases hc
    rfl

theorem addWord_reverse {w : String} (h : w ≠ "") (words : List (List Char)) :
    addWord w.toList.reverse words = w.toList :: words := by
  have hne : w.toList ≠ [] := fun he => h (String.toList_eq_nil_iff.mp he)
  rw [addWord, if_neg (by simpa using hne), List.reverse_reverse]

theorem addWord_toList (w : String) (words : List String) :
    addWord w.toList.reverse ((words.filter (· ≠ "")).map String.toList) =
      ((w :: words).filter (· ≠ "")).map String.toList := by
  by_cases hw : w = ""
  · subst hw
    rfl
  · rw [addWord_reverse hw, List.filter_cons_of_pos (by simpa using hw), List.map_cons]

theorem Writes.scanWords_eq {words : List String} {text : List Char} (h : Writes words text) :
    scanWords .plain [] text = some ((words.filter (· ≠ "")).map String.toList) := by
  induction h with
  | nil => rfl
  | space _ ih =>
    rw [scanWords_space, ih]
    rfl
  | word hspells hwrites hstart ih =>
    rw [hspells.scanWords_append, scanWords_ended (hwrites.head?_eq hstart), ih, List.append_nil,
      Option.map_some, addWord_toList]

theorem Writes.splitWords?_eq {words : List String} {text : List Char} (h : Writes words text) :
    splitWords? (.ofList text) = some (words.filter (· ≠ "")) := by
  rw [splitWords?, String.toList_ofList, h.scanWords_eq, Option.map_some, List.map_map]
  simp [Function.comp_def]

/-! ## Every list of words -/

theorem toList_write_cons (w : String) (rest : List String) :
    (write (w :: rest)).toList =
      (quote w).toList ++ if rest = [] then [] else ' ' :: (write rest).toList := by
  cases rest with
  | nil => simp [write]
  | cons w' rest => simp [write, String.intercalate_cons_cons]

theorem escapes_flatMap (chars : List Char) : Escapes chars (chars.flatMap escape) := by
  induction chars with
  | nil => exact .nil
  | cons c chars ih => exact .char c ih

/-- Words between quotes, with single spaces between them, are one way to write them. -/
theorem writes_write (words : List String) : Writes words (write words).toList := by
  induction words with
  | nil => exact .nil
  | cons w rest ih =>
    have hquote : Spells w (quote w).toList := by
      have hspells := Spells.quoted (escapes_flatMap w.toList)
      rw [String.ofList_toList] at hspells
      rwa [quote, String.toList_ofList]
    rw [toList_write_cons]
    by_cases hrest : rest = []
    · subst hrest
      exact .word hquote .nil fun h => absurd rfl h
    · rw [if_neg hrest]
      exact .word hquote (.space ih) fun _ => rfl

/-- Every list of words can be written, and however it is written, bare or between quotes and with
whatever number of spaces, the text is split into the words that are not empty, in order. -/
theorem spelled_words_are_split (words : List String) :
    (∃ text, Writes words text) ∧
      ∀ text, Writes words text →
        splitWords? (.ofList text) = some (words.filter (· ≠ "")) := by
  constructor
  · exact ⟨(write words).toList, writes_write words⟩
  · intro text h
    exact h.splitWords?_eq

/-- By the theorem, a bare backslash stays, an empty word is left out, and of two line feeds between
quotes one may be written as it is and one with a backslash. -/
theorem spelled_words_are_split_mixed :
    let words := ["a\\n", "", "b \"\n\n\\", "c"]
    ∃ text, Writes words text ∧ String.ofList text = " a\\n \"\"  \"b \\\"\n\\n\\\\\" c  " ∧
      splitWords? (.ofList text) = some ["a\\n", "b \"\n\n\\", "c"] := by
  intro words
  have hbare : Spells "a\\n" ['a', '\\', 'n'] := .bare (by decide) (by decide) (by decide)
  have hempty : Spells "" ['"', '"'] := .quoted .nil
  have hquoted : Spells "b \"\n\n\\" _ :=
    .quoted (.char 'b' (.char ' ' (.char '"' (.rawFeed (.char '\n' (.char '\\' .nil))))))
  have hlast : Spells "c" ['c'] := .bare (by decide) (by decide) (by decide)
  have hwrites : Writes words _ :=
    .space (.word hbare (.space (.word hempty (.space (.space (.word hquoted (.space (.word hlast
      (.space (.space .nil)) nofun)) fun _ => rfl))) fun _ => rfl)) fun _ => rfl)
  exact ⟨_, hwrites, rfl, (spelled_words_are_split words).2 _ hwrites⟩

end BuildTool.Words
