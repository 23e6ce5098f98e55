import BuildTool.Proofs.Template.Kept
import BuildTool.Template.Preprocess

/-!
# Texts without tags

A text in which no tag and no comment begins is filled in with nothing: it comes out as it is, but
for continued lines, and no function is called.

    IsTagless source   →   preprocess source s disk = (joinContinued source, s.env, disk)
-/

namespace BuildTool.Template

/-- The first characters of tags and comments. -/
def openings : List (List Char) := [['\x7b', '\x7b'], ['\x7b', '%'], ['\x7b', '#']]

/-- No tag and no comment begins in the text. -/
def IsTagless (source : String) : Prop := ∀ o ∈ openings, ¬ o <:+: source.toList

instance (source : String) : Decidable (IsTagless source) :=
  inferInstanceAs (Decidable (∀ o ∈ openings, ¬ o <:+: source.toList))

section

variable {s : List Char} (h : ∀ o ∈ openings, ¬ o <:+: s)
include h

theorem plainText_eq_self : plainText s = (s, []) := by
  induction s with
  | nil => rfl
  | cons c s ih =>
    have hopens : opensPart c s = false := by
      refine Bool.eq_false_iff.mpr fun hopens => ?_
      obtain ⟨rfl, d, t, rfl, hd⟩ := opensPart_iff.mp hopens
      exact h ['\x7b', d] (by simpa [openings] using hd) (List.IsPrefix.isInfix ⟨t, rfl⟩)
    have htail : ∀ o ∈ openings, ¬ o <:+: s :=
      fun o ho hin => h o ho (hin.trans (List.suffix_cons c s).isInfix)
    rw [plainText_cons, hopens, ih htail]
    rfl

theorem scan_eq_self : scan s = s := by
  have hscan := scan_text s
  rwa [plainText_eq_self h] at hscan

theorem tagStart?_eq_none {start : String} (hstart : start.toList ∈ openings) :
    tagStart? start s = none := by
  have hnone : after? start s = none := by
    refine Option.eq_none_iff_forall_ne_some.mpr fun rest hafter => ?_
    exact h _ hstart (List.IsPrefix.isInfix ⟨rest, (Text.dropStart?_eq_some_iff.mp hafter).symm⟩)
  rw [tagStart?_eq, hnone]
  rfl

theorem statement?_eq_none {α : Type} (word : String) (inside : Reader α) :
    statement? word inside s = none := by
  rw [statement?, tagStart?_eq_none h (by decide)]
  rfl

theorem opening_eq (fuel : Nat) : opening fuel s = ([], s) := by
  have hcomment : comment? s = none := by
    rw [comment?, tagStart?_eq_none h (by decide)]
    rfl
  cases fuel with
  | zero => rfl
  | succ fuel =>
    rw [opening]
    simp only [hcomment, importing, statement?_eq_none h, Option.map_none]

/-- A text that is not empty is read as one piece. -/
theorem nodes_eq (hne : s ≠ []) (fuel : Nat) :
    nodes (fuel + 2) .top s = ([.text (String.ofList s)], []) := by
  have hnode : node? (fuel + 1) .top s = some (.text (String.ofList s), []) := by
    unfold node?
    split
    · exact absurd (List.IsPrefix.isInfix ⟨_, rfl⟩) (h ['\x7b', '#'] (by decide))
    · exact absurd (List.IsPrefix.isInfix ⟨_, rfl⟩) (h ['\x7b', '\x7b'] (by decide))
    · exact absurd (List.IsPrefix.isInfix ⟨_, rfl⟩) (h ['\x7b', '%'] (by decide))
    · exact absurd rfl hne
    · rw [plainText_eq_self h]
  have hend : nodes (fuel + 1) .top [] = ([], []) := by
    rw [nodes]
    cases fuel <;> rfl
  rw [nodes, hnode]
  simp only [hend]

end

/-- The pieces of a text without tags. -/
def textNodes (source : String) : List Node := if source = "" then [] else [.text source]

/-- What a text without tags is read as. -/
def textDocument (source : String) : Document := { nodes := textNodes source }

theorem allNodes?_of_isTagless {source : String} (h : IsTagless source) :
    allNodes? source.toList = some (textNodes source) := by
  rw [allNodes?, opening_eq h]
  simp only [statement?_eq_none h, List.nil_append]
  by_cases hempty : source = ""
  · subst hempty
    rfl
  · have hne : source.toList ≠ [] := fun he => hempty (String.toList_eq_nil_iff.mp he)
    rw [nodes_eq h hne, textNodes, if_neg hempty, String.ofList_toList]
    rfl

theorem parse?_of_isTagless {source : String} (h : IsTagless source) :
    Document.parse? source = some (textDocument source) := by
  have htrimmed : ∀ fuel, trimmed (fuel + 2) false false [] (textNodes source) =
      textNodes source := by
    intro fuel
    unfold textNodes
    split <;> simp [trimmed, trimEndIf]
  have hblocks : ∀ fuel, blocksIn (fuel + 1) (textNodes source) = [] := by
    intro fuel
    unfold textNodes
    split <;> rfl
  rw [Document.parse?, allNodes?_of_isTagless h]
  simp only [Option.bind_eq_bind, Option.bind_some, htrimmed, hblocks]
  unfold textDocument textNodes
  split <;> rfl

theorem renderAll_textNodes (fuel : Nat) (source : String) (d : Document) (scope : Scope)
    (hquiet : scope.signal = .none) :
    ((renderAll (fuel + 2) (textNodes source)).run d).run.run scope =
      .done (.ok source, scope) := by
  unfold textNodes
  split
  · next hempty =>
    subst hempty
    rfl
  · have hone : ((renderNode (fuel + 1) (.text source)).run d).run.run scope =
        .done (.ok source, scope) := by
      rw [renderNode]
      rfl
    have hend : ((renderAll (fuel + 1) []).run d).run.run scope = .done (.ok "", scope) := by
      rw [renderAll]
      rfl
    have hgo : ¬ (scope.signal != .none) = true := by simp [hquiet]
    rw [renderAll]
    simp only [ReaderT.run_bind, ExceptT.run_bind, StateT.run_bind, hone]
    change ((if (scope.signal != .none) = true then pure source
      else do return source ++ (← renderAll (fuel + 1) []) : Render String).run d).run.run scope = _
    rw [if_neg hgo]
    simp only [ReaderT.run_bind, ExceptT.run_bind, StateT.run_bind, hend]
    change Calling.done (Except.ok (source ++ ""), scope) = _
    rw [String.append_empty]

/-- A text without tags is filled in with nothing. -/
theorem preprocess_of_isTagless {source : String} (h : IsTagless source) (s : Surroundings)
    (disk : Disk) : preprocess source s disk = (.ok (joinContinued source), s.env, disk) := by
  have hrewritten : rewriteLookups source = source := by
    rw [← String.toList_inj, toList_rewriteLookups, scan_eq_self h]
  have hnodes : (textDocument source).nodes = textNodes source := rfl
  have hlimit : depthLimit = 999998 + 2 := rfl
  have hfilled : fillIn (textDocument source) s disk =
      ((.ok source, { context := contextOf s }), s.start disk) := by
    rw [fillIn, filling, hnodes, hlimit, renderAll_textNodes 999998 source _ _ rfl]
    rfl
  have hwhole : (textDocument source).missing? = none := rfl
  unfold preprocess
  rw [hrewritten, parse?_of_isTagless h]
  simp only [hwhole, hfilled]
  rfl

end BuildTool.Template
