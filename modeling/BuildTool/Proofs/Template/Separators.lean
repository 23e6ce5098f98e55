import BuildTool.Proofs.Text.Cut
import BuildTool.Template.Helper

/-!
# Texts split and joined by templates

What `split` makes of a text with a separator is made into the text again by `join` with the same
one:

    join(list=split(text=t, sep=s), sep=s)  =  t

With an empty separator the pieces are the characters; otherwise they are what stands between the
occurrences of the separator, which no piece holds.
-/

namespace BuildTool.Template

/-! ## Pieces -/

theorem intercalate_singletons (chars : List Char) :
    "".intercalate (chars.map String.singleton) = .ofList chars := by
  induction chars with
  | nil => rfl
  | cons c chars ih =>
    by_cases hchars : chars = []
    · subst hchars
      rw [List.map_singleton, String.intercalate_singleton]
      rfl
    · have hne : chars.map String.singleton ≠ [] := by simpa using hchars
      rw [List.map_cons, String.intercalate_cons_of_ne_nil hne, ih, String.append_empty,
        ← String.toList_inj]
      simp

theorem intercalate_splitBy (sep text : String) :
    sep.intercalate (splitBy (some sep) text) = text := by
  by_cases hsep : sep = ""
  · subst hsep
    rw [splitBy, if_pos rfl, intercalate_singletons, String.ofList_toList]
  · rw [splitBy, if_neg hsep, ← String.toList_inj, String.toList_intercalate, List.map_map]
    have hchars : String.toList ∘ String.ofList = id := funext fun s => String.toList_ofList
    rw [hchars, List.map_id, Text.intercalate_splitText]

example : splitBy (some "aa") "aaa,aa" = ["", "a,", ""] := by decide +kernel

theorem not_infix_of_mem_splitBy {sep text piece : String} (hsep : sep ≠ "")
    (h : piece ∈ splitBy (some sep) text) : ¬ sep.toList <:+: piece.toList := by
  have hne : sep.toList ≠ [] := fun he => hsep (String.toList_eq_nil_iff.mp he)
  rw [splitBy, if_neg hsep] at h
  obtain ⟨chars, hchars, rfl⟩ := List.mem_map.mp h
  rw [String.toList_ofList]
  exact Text.not_infix_of_mem_splitText hne hchars

/-! ## Calls -/

theorem Value.flattened_texts (items : List String) : (Value.texts items).flattened = items := by
  have hall : Value.flattenedAll (items.map .text) = items := by
    induction items with
    | nil => rfl
    | cons item items ih =>
      rw [List.map_cons, Value.flattenedAll, ih]
      rfl
  rw [Value.texts, Value.flattened, hall]

section

variable (setting : HelperSetting) (state : HelperState) {arguments : Named}

theorem answer_split {text : String}
    (htext : (arguments.lookup "text").map Value.asArgument = some text) :
    Helper.split.answer setting arguments state =
      (.ok (.texts (splitBy ((arguments.lookup "sep").map Value.asArgument) text)), state) := by
  obtain ⟨v, hv, rfl⟩ := Option.map_eq_some_iff.mp htext
  have hneeded : Helper.split.needed "text" arguments = .ok v.asArgument := by
    rw [Helper.needed, hv]
  rw [Helper.answer, Helper.call]
  simp only [hneeded]
  rfl

theorem answer_join {list : Value} {sep : String} (hlist : arguments.lookup "list" = some list)
    (hsep : (arguments.lookup "sep").map Value.asArgument = some sep) :
    Helper.join.answer setting arguments state =
      (.ok (.text (sep.intercalate list.flattened)), state) := by
  have hneeded : Helper.join.neededList "list" arguments = .ok list.flattened := by
    rw [Helper.neededList, hlist]
  rw [Helper.answer, Helper.call]
  simp only [hneeded, hsep]
  rfl

end

/-- A text that is split with a separator, empty or not, is there again when the pieces are joined
with it, and neither call changes anything; and no piece holds a separator that is not empty. -/
theorem joined_pieces_are_the_text (setting : HelperSetting) (state : HelperState)
    {arguments : Named} {text sep : String}
    (htext : (arguments.lookup "text").map Value.asArgument = some text)
    (hsep : (arguments.lookup "sep").map Value.asArgument = some sep) :
    ∃ pieces, Helper.split.answer setting arguments state = (.ok (.texts pieces), state) ∧
      (∀ setting' state' arguments', List.lookup "list" arguments' = some (.texts pieces) →
        (List.lookup "sep" arguments').map Value.asArgument = some sep →
        Helper.join.answer setting' arguments' state' = (.ok (.text text), state')) ∧
      (sep ≠ "" → ∀ piece ∈ pieces, ¬ sep.toList <:+: piece.toList) := by
  have hsplit := answer_split setting state htext
  rw [hsep] at hsplit
  refine ⟨splitBy (some sep) text, hsplit, ?_, ?_⟩
  · intro setting' state' arguments' hlist hsep'
    rw [answer_join setting' state' hlist hsep', Value.flattened_texts, intercalate_splitBy]
  · intro hne piece hpiece
    exact not_infix_of_mem_splitBy hne hpiece

/-- By the theorem, a text comes back also if occurrences of the separator overlap in it, and if
the separator is empty. -/
theorem joined_pieces_are_the_text_overlapping :
    let state : HelperState := { env := {}, disk := Disk.setUp 0 }
    let overlapping : Named := [("text", .text "aaa,aa"), ("sep", .text "aa")]
    let inCharacters : Named := [("text", .text "aä"), ("sep", .null)]
    (∃ pieces, Helper.split.answer {} overlapping state = (.ok (.texts pieces), state) ∧
      Helper.join.answer {} [("sep", .text "aa"), ("list", .texts pieces)] state =
        (.ok (.text "aaa,aa"), state) ∧
      ∀ piece ∈ pieces, ¬ "aa".toList <:+: piece.toList) ∧
    ∃ pieces, Helper.split.answer {} inCharacters state = (.ok (.texts pieces), state) ∧
      Helper.join.answer {} [("sep", .null), ("list", .texts pieces)] state =
        (.ok (.text "aä"), state) := by
  intro state overlapping inCharacters
  have htext : (overlapping.lookup "text").map Value.asArgument = some "aaa,aa" := rfl
  have hsep : (overlapping.lookup "sep").map Value.asArgument = some "aa" := rfl
  have htext' : (inCharacters.lookup "text").map Value.asArgument = some "aä" := rfl
  have hsep' : (inCharacters.lookup "sep").map Value.asArgument = some "" := rfl
  constructor
  · obtain ⟨pieces, hsplit, hjoin, hfree⟩ := joined_pieces_are_the_text {} state htext hsep
    exact ⟨pieces, hsplit, hjoin {} state _ rfl rfl, hfree (by decide)⟩
  · obtain ⟨pieces, hsplit, hjoin, -⟩ := joined_pieces_are_the_text {} state htext' hsep'
    exact ⟨pieces, hsplit, hjoin {} state _ rfl rfl⟩

end BuildTool.Template
