import BuildTool.Proofs.Template.Parts
import BuildTool.Template.Document

/-!
# White space that tags take away

A tag may ask for the white space around it to be left out. What this does to the texts in the
pieces of a template is this and nothing else:

    t  =  white space ++ t' ++ white space      for a text  t  of which  t'  is left

Only a text of which nothing is left may be gone.

## Sections

* texts without the white space at their ends;
* pieces that hold texts;
* trimming pieces, by one induction on the fuel.
-/

namespace BuildTool.Template

/-! ## Texts -/

/-- A text and what is left of it when white space is taken off its ends. -/
def TrimsTo (t t' : List Char) : Prop :=
  ∃ before behind, t = before ++ (t' ++ behind) ∧ (∀ c ∈ before, Text.isBlank c = true) ∧
    ∀ c ∈ behind, Text.isBlank c = true

namespace TrimsTo

variable {t t' t'' : List Char}

theorem refl (t : List Char) : TrimsTo t t := ⟨[], [], by simp, nofun, nofun⟩

theorem trans (h : TrimsTo t t') (h' : TrimsTo t' t'') : TrimsTo t t'' := by
  obtain ⟨before, behind, rfl, hbefore, hbehind⟩ := h
  obtain ⟨before', behind', rfl, hbefore', hbehind'⟩ := h'
  refine ⟨before ++ before', behind' ++ behind, by simp only [List.append_assoc], ?_, ?_⟩
  · exact List.forall_mem_append.2 ⟨hbefore, hbefore'⟩
  · exact List.forall_mem_append.2 ⟨hbehind', hbehind⟩

theorem left (s : String) : TrimsTo s.toList (Text.trimLeft s).toList := by
  refine ⟨s.toList.takeWhile Text.isBlank, [], ?_, fun c hc => List.mem_takeWhile_imp hc, nofun⟩
  rw [Text.trimLeft, String.toList_ofList, List.append_nil, List.takeWhile_append_dropWhile]

theorem right (s : String) : TrimsTo s.toList (Text.trimRight s).toList := by
  refine ⟨[], (s.toList.reverse.takeWhile Text.isBlank).reverse, ?_, nofun, fun c hc => ?_⟩
  · rw [Text.trimRight, String.toList_ofList, List.nil_append, ← List.reverse_append,
      List.takeWhile_append_dropWhile, List.reverse_reverse]
  · exact List.mem_takeWhile_imp (List.mem_reverse.1 hc)

theorem raw (left right : Bool) (s : String) : TrimsTo s.toList (trimRaw left right s).toList := by
  unfold trimRaw
  cases left <;> cases right
  · exact refl s.toList
  · exact TrimsTo.right s
  · exact TrimsTo.left s
  · exact (TrimsTo.left s).trans (TrimsTo.right _)

end TrimsTo

/-- Texts and what is left of them when white space is taken off their ends. A text of which
nothing is left may be gone. -/
inductive Stripped : List (List Char) → List (List Char) → Prop
  | nil : Stripped [] []
  | cons {t t' : List Char} {ls ls' : List (List Char)} (ht : TrimsTo t t') (h : Stripped ls ls') :
      Stripped (t :: ls) (t' :: ls')
  | gone {t : List Char} {ls ls' : List (List Char)} (ht : TrimsTo t []) (h : Stripped ls ls') :
      Stripped (t :: ls) ls'

namespace Stripped

variable {as bs ls ls' ls'' : List (List Char)}

theorem refl (ls : List (List Char)) : Stripped ls ls := by
  induction ls with
  | nil => exact .nil
  | cons t ls ih => exact .cons (.refl t) ih

theorem append (h : Stripped as bs) (h' : Stripped ls ls') : Stripped (as ++ ls) (bs ++ ls') := by
  induction h with
  | nil => exact h'
  | cons ht _ ih => exact .cons ht ih
  | gone ht _ ih => exact .gone ht ih

theorem trans (h : Stripped ls ls') (h' : Stripped ls' ls'') : Stripped ls ls'' := by
  induction h generalizing ls'' with
  | nil => exact h'
  | gone ht _ ih => exact .gone ht (ih h')
  | cons ht _ ih =>
    cases h' with
    | cons ht' h' => exact .cons (ht.trans ht') (ih h')
    | gone ht' h' => exact .gone (ht.trans ht') (ih h')

end Stripped

/-- What is left of these texts has this property. -/
def Leaves (ls : List (List Char)) (P : List (List Char) → Prop) : Prop :=
  ∃ ls', Stripped ls ls' ∧ P ls'

namespace Leaves

variable {ls ls' : List (List Char)} {P Q R : List (List Char) → Prop}

theorem same (h : P ls) : Leaves ls P := ⟨ls, .refl ls, h⟩

theorem bind (h : Leaves ls P) (hPQ : ∀ ls', P ls' → Leaves ls' Q) : Leaves ls Q := by
  obtain ⟨ls', hls, hP⟩ := h
  obtain ⟨ls'', hls', hQ⟩ := hPQ ls' hP
  exact ⟨ls'', hls.trans hls', hQ⟩

theorem mono (h : Leaves ls P) (hPQ : ∀ ls', P ls' → Q ls') : Leaves ls Q :=
  h.bind fun ls' hP => .same (hPQ ls' hP)

theorem append (h : Leaves ls P) (h' : Leaves ls' Q) (hR : ∀ as bs, P as → Q bs → R (as ++ bs)) :
    Leaves (ls ++ ls') R := by
  obtain ⟨as, has, hP⟩ := h
  obtain ⟨bs, hbs, hQ⟩ := h'
  exact ⟨as ++ bs, has.append hbs, hR as bs hP hQ⟩

end Leaves

/-! ## Pieces -/

theorem Holds.one {n : Node} {ls : List (List Char)} (h : HoldsOne n ls) : Holds [n] ls := by
  simpa using Holds.cons h .nil

theorem Holds.of_append {ns ns' : List Node} {ls : List (List Char)} (h : Holds (ns ++ ns') ls) :
    ∃ as bs, ls = as ++ bs ∧ Holds ns as ∧ Holds ns' bs := by
  induction ns generalizing ls with
  | nil => exact ⟨[], ls, rfl, .nil, h⟩
  | cons n ns ih =>
    cases h with
    | @cons _ _ ls ls' hone hrest =>
      obtain ⟨as, bs, rfl, has, hbs⟩ := ih hrest
      exact ⟨ls ++ as, bs, (List.append_assoc ..).symm, .cons hone has, hbs⟩

theorem HoldsOne.eq_of_text {s : String} {ls : List (List Char)} (h : HoldsOne (.text s) ls) :
    ls = [s.toList] := by
  cases h with
  | lone h => cases h
  | text t => rw [String.toList_ofList]

theorem HoldsOne.of_text (s : String) : HoldsOne (.text s) [s.toList] := by
  simpa using HoldsOne.text s.toList

/-- A text behind pieces, which may disappear where nothing is left of it. -/
theorem leaves_text {done : List Node} {ls : List (List Char)} (h : Holds done ls) {s t : String}
    (ht : TrimsTo s.toList t.toList) {c : Prop} [Decidable c] (hc : c → t = "") :
    Leaves (ls ++ [s.toList]) (Holds (if c then done else done ++ [.text t])) := by
  split
  · next hgone =>
    rw [hc hgone] at ht
    exact ⟨ls, by simpa using (Stripped.refl ls).append (.gone ht .nil), h⟩
  · exact ⟨ls ++ [t.toList], (Stripped.refl ls).append (.cons ht .nil), h.append (.one (.of_text t))⟩

theorem trimEnd_leaves {ns : List Node} {ls : List (List Char)} (h : Holds ns ls) :
    Leaves ls (Holds (trimEnd ns)) := by
  unfold trimEnd
  split
  · next s hlast =>
    obtain ⟨front, rfl⟩ := List.getLast?_eq_some_iff.1 hlast
    obtain ⟨as, bs, rfl, has, hbs⟩ := h.of_append
    cases hbs with
    | cons hone hnil =>
      cases hnil
      rw [hone.eq_of_text, List.append_nil, List.dropLast_concat]
      exact leaves_text has (.right s) id
  · exact .same h

theorem trimEndIf_leaves (asked : Bool) {ns : List Node} {ls : List (List Char)}
    (h : Holds ns ls) : Leaves ls (Holds (trimEndIf asked ns)) := by
  unfold trimEndIf
  split
  · exact trimEnd_leaves h
  · exact .same h

/-! ## Trimming -/

/-- Trimming takes white space off the ends of texts and keeps the rest, if there is this much
fuel. -/
structure TrimmersKeep (fuel : Nat) : Prop where
  all : ∀ asked atEnd done nodes as ls, Holds done as → Holds nodes ls →
    Leaves (as ++ ls) (Holds (trimmed fuel asked atEnd done nodes))
  inside : ∀ n ls, HoldsOne n ls → Leaves ls (HoldsOne (trimmedInside fuel n))
  arms : ∀ atEnd arms ls, HoldsArms arms ls → Leaves ls (HoldsArms (trimmedArms fuel atEnd arms))

namespace TrimmersKeep

theorem zero : TrimmersKeep 0 where
  all _ _ _ _ _ _ h h' := .same (h.append h')
  inside _ _ h := .same h
  arms _ _ _ h := .same h

variable {fuel : Nat} (ih : TrimmersKeep fuel)
include ih

theorem body (asked atEnd : Bool) {ns : List Node} {ls : List (List Char)} (h : Holds ns ls) :
    Leaves ls (Holds (trimmed fuel asked atEnd [] ns)) := ih.all asked atEnd [] ns [] ls .nil h

/-- Behind pieces that have been dealt with. -/
theorem next (asked atEnd : Bool) {done rest : List Node} {as ls : List (List Char)}
    (h : Leaves as (Holds done)) (h' : Holds rest ls) :
    Leaves (as ++ ls) (Holds (trimmed fuel asked atEnd done rest)) := by
  obtain ⟨as', has, hdone⟩ := h
  obtain ⟨bs, hbs, hholds⟩ := ih.all asked atEnd done rest as' ls hdone h'
  exact ⟨bs, (has.append (.refl ls)).trans hbs, hholds⟩

theorem all_succ (asked atEnd : Bool) (done nodes : List Node) (as ls : List (List Char))
    (hdone : Holds done as) (h : Holds nodes ls) :
    Leaves (as ++ ls) (Holds (trimmed (fuel + 1) asked atEnd done nodes)) := by
  cases h with
  | nil =>
    rw [List.append_nil, trimmed]
    exact trimEndIf_leaves atEnd hdone
  | @cons n rest ls ls' hone hrest =>
    rw [← List.append_assoc]
    unfold trimmed
    split
    · next s =>
      cases hone.eq_of_text
      refine ih.next _ _ (leaves_text hdone ?_ And.right) hrest
      split
      · exact .left s
      · exact .refl _
    · exact ih.next _ _ (.same (hdone.append (.one hone))) hrest
    · refine ih.next _ _ ?_ hrest
      exact (trimEndIf_leaves _ hdone).append (ih.inside n ls hone) fun _ _ h h' =>
        h.append (.one h')

theorem inside_succ (n : Node) (ls : List (List Char)) (h : HoldsOne n ls) :
    Leaves ls (HoldsOne (trimmedInside (fuel + 1) n)) := by
  unfold trimmedInside
  cases h with
  | lone h =>
    refine .same (.lone ?_)
    cases n <;> exact h
  | text t => exact .same (.text t)
  | raw start t stop =>
    have ht := TrimsTo.raw start.right stop.left (String.ofList t)
    rw [String.toList_ofList] at ht
    refine ⟨_, .cons ht .nil, ?_⟩
    simpa using HoldsOne.raw start (trimRaw start.right stop.left (String.ofList t)).toList stop
  | block h => exact (ih.body _ _ h).mono fun _ => .block
  | definition h => exact (ih.body _ _ h).mono fun _ => .definition
  | filtered h => exact (ih.body _ _ h).mono fun _ => .filtered
  | branch h => exact (ih.arms _ _ _ h).mono fun _ => .branch
  | branchElse h h' => exact (ih.arms _ _ _ h).append (ih.body _ _ h') fun _ _ => .branchElse
  | loop h => exact (ih.body _ _ h).mono fun _ => .loop
  | @loopElse start _ _ _ _ _ stop _ _ h earlier h' =>
    -- what stands in for a loop without turns is not trimmed
    refine (ih.body start.right stop.left h).append (.same rfl) ?_
    rintro _ _ h rfl
    exact .loopElse h earlier h'

theorem arms_succ (atEnd : Bool) (arms : List (Trim × Expr × List Node)) (ls : List (List Char))
    (h : HoldsArms arms ls) : Leaves ls (HoldsArms (trimmedArms (fuel + 1) atEnd arms)) := by
  cases h with
  | nil => exact .same .nil
  | cons h h' => exact (ih.body _ _ h).append (ih.arms _ _ _ h') fun _ _ => .cons

end TrimmersKeep

theorem trimmersKeep (fuel : Nat) : TrimmersKeep fuel := by
  induction fuel with
  | zero => exact .zero
  | succ fuel ih => exact ⟨ih.all_succ, ih.inside_succ, ih.arms_succ⟩

end BuildTool.Template
