import BuildTool.Proofs.Template.Kept
import BuildTool.Proofs.Template.Trimmed
import BuildTool.Template.Preprocess
import Mathlib.Data.List.Forall2

/-!
# Literals in the output

What a template puts out as it stands goes through four hands: the source is scanned for lookups,
it is read into pieces, the pieces are filled in, and continued lines are joined.

    source  →  source with calls  →  pieces  →  text  →  output

Reading and filling in leave literals as they are, but for the white space that tags ask to be
left out. Scanning does not.

## Sections

* work that gives a result;
* what pieces put out;
* literals from the source to the output.
-/

namespace BuildTool.Template

variable {α β σ : Type}

/-! ## Work that gives a result -/

/-- Whatever the calls are answered, the work ends in a result with this property. -/
def Calling.Ends (P : α → Prop) : Calling α → Prop
  | .done a => P a
  | .call _ _ next => ∀ answer, (next answer).Ends P

namespace Calling.Ends

variable {P : α → Prop} {Q : β → Prop} {work : Calling α}

theorem trivial (work : Calling α) : work.Ends fun _ => True := by
  induction work with
  | done _ => exact True.intro
  | call _ _ _ ih => exact ih

theorem mono {P' : α → Prop} (h : work.Ends P) (hP : ∀ a, P a → P' a) : work.Ends P' := by
  induction work with
  | done a => exact hP a h
  | call _ _ _ ih => exact fun answer => ih answer (h answer)

theorem bind (h : work.Ends P) {f : α → Calling β} (hf : ∀ a, P a → (f a).Ends Q) :
    (work.bind f).Ends Q := by
  induction work with
  | done a => exact hf a h
  | call _ _ _ ih => exact fun answer => ih answer (h answer)

theorem run (h : work.Ends P) (answer : Helper → Named → σ → Except EvalError Value × σ) (s : σ) :
    P (work.run answer s).1 := by
  induction work generalizing s with
  | done a => exact h
  | call _ _ _ ih => exact ih _ (h _) _

end Calling.Ends

/-- From this scope, what a step of filling in gives and the scope it leaves have this property, if
it does not fail. -/
def Render.Gives (d : Document) (scope : Scope) (P : α → Scope → Prop) (m : Render α) : Prop :=
  ((m.run d).run.run scope).Ends fun r => ∀ a, r.1 = .ok a → P a r.2

namespace Render.Gives

variable {d : Document} {scope : Scope} {P : α → Scope → Prop} {Q : β → Scope → Prop}

theorem any (m : Render α) : Gives d scope (fun _ _ => True) m :=
  (Calling.Ends.trivial _).mono fun _ _ _ _ => trivial

theorem mono {P' : α → Scope → Prop} {m : Render α} (h : Gives d scope P m)
    (hP : ∀ a after, P a after → P' a after) : Gives d scope P' m := by
  have hresult : ∀ r : Except EvalError α × Scope, (∀ a, r.1 = .ok a → P a r.2) →
      ∀ a, r.1 = .ok a → P' a r.2 := fun _ hr a ha => hP a _ (hr a ha)
  exact Calling.Ends.mono h hresult

theorem pure {a : α} (h : P a scope) : Gives d scope P (Pure.pure a) := by
  rintro _ ⟨⟩
  exact h

theorem throw (e : EvalError) : Gives d scope P (MonadExcept.throw e : Render α) := by
  rintro _ ⟨⟩

theorem bind {m : Render α} {f : α → Render β} (hm : Gives d scope P m)
    (hf : ∀ a after, P a after → Gives d after Q (f a)) : Gives d scope Q (m >>= f) := by
  refine Calling.Ends.bind hm ?_
  rintro ⟨_ | a, after⟩ h
  · rintro _ ⟨⟩
  · exact hf a after (h a rfl)

/-- Behind a step of which nothing is known. -/
theorem after {m : Render α} {f : α → Render β} (hf : ∀ a after, Gives d after Q (f a)) :
    Gives d scope Q (m >>= f) := bind (any m) fun a after _ => hf a after

theorem read_bind {f : Document → Render β} (hf : Gives d scope Q (f d)) :
    Gives d scope Q (MonadReader.read >>= f) := hf

theorem get_bind {f : Scope → Render β} (hf : Gives d scope Q (f scope)) :
    Gives d scope Q (MonadState.get >>= f) := hf

theorem changeScope_bind {f : Scope → Scope} {g : Unit → Render β}
    (hg : Gives d (f scope) Q (g ())) : Gives d scope Q (changeScope f >>= g) := hg

end Render.Gives

/-! ## What pieces put out -/

/-- A piece that does nothing where it stands. -/
def Node.isSilent : Node → Bool
  | .comment _ | .importing .. | .definition .. | .parent .. => true
  | .text _ | .raw .. | .output .. | .assign .. | .insertion .. | .block .. | .overridden
  | .branch .. | .loop .. | .filtered .. | .leave _ | .next _ => false

mutual

/-- Pieces put out a text, one after the other, between two scopes. A row of pieces ends early
where something has been asked of the loop around it. -/
inductive PutsOut (d : Document) : Scope → List Node → String → Scope → Prop
  | nil (scope : Scope) : PutsOut d scope [] "" scope
  | cons {scope middle after : Scope} {n : Node} {rest : List Node} {t t' : String}
      (h : PutsOutOne d scope n t middle) (hquiet : middle.signal = .none)
      (h' : PutsOut d middle rest t' after) : PutsOut d scope (n :: rest) (t ++ t') after
  | stop {scope after : Scope} {n : Node} {rest : List Node} {t : String}
      (h : PutsOutOne d scope n t after) (hasked : after.signal ≠ .none) :
      PutsOut d scope (n :: rest) t after

/-- A piece puts out a text between two scopes. Text and raw text put out what they are and leave
the scope alone. -/
inductive PutsOutOne (d : Document) : Scope → Node → String → Scope → Prop
  | text (scope : Scope) (t : String) : PutsOutOne d scope (.text t) t scope
  | raw (scope : Scope) (start : Trim) (t : String) (stop : Trim) :
      PutsOutOne d scope (.raw start t stop) t scope
  | silent (scope : Scope) {n : Node} (h : n.isSilent = true) : PutsOutOne d scope n "" scope
  | assign {scope after : Scope} {trim : Trim} {everywhere : Bool} {name : String} {e : Expr} :
      PutsOutOne d scope (.assign trim everywhere name e) "" after
  | leave {scope after : Scope} {trim : Trim} : PutsOutOne d scope (.leave trim) "" after
  | next {scope after : Scope} {trim : Trim} : PutsOutOne d scope (.next trim) "" after
  | output {scope after : Scope} {trim : Trim} {e : Expr} {t : String} :
      PutsOutOne d scope (.output trim e) t after
  | insertion {scope start stop after : Scope} {trim : Trim} {names : List String}
      {optional : Bool} {t : String} (h : PutsOut d start d.nodes t stop) :
      PutsOutOne d scope (.insertion trim names optional) t after
  | noInsertion {scope : Scope} {trim : Trim} {names : List String} :
      PutsOutOne d scope (.insertion trim names true) "" scope
  | block {scope after : Scope} {start : Trim} {name : String} {body : List Node} {stop : Trim}
      {t : String} (h : PutsOut d scope ((d.blocks.lookup name).getD body) t after) :
      PutsOutOne d scope (.block start name body stop) t after
  | branch {scope middle after : Scope} {arms : List (Trim × Expr × List Node)}
      {otherwise : Option (Trim × List Node)} {stop : Trim} {body : List Node} {t : String}
      (hbody : body ∈ arms.map (·.2.2) ∨ body = (otherwise.map (·.2)).getD [])
      (h : PutsOut d middle body t after) : PutsOutOne d scope (.branch arms otherwise stop) t after
  | turns {scope after : Scope} {start : Trim} {key : Option String} {value : String}
      {container : Expr} {body : List Node} {otherwise : Option (List Node)} {stop : Trim}
      {t : String} (h : PutsOutTurns d body t) :
      PutsOutOne d scope (.loop start key value container body otherwise stop) t after
  | noTurn {scope middle after : Scope} {start : Trim} {key : Option String} {value : String}
      {container : Expr} {body : List Node} {otherwise : Option (List Node)} {stop : Trim}
      {t : String} (h : PutsOut d middle (otherwise.getD []) t after) :
      PutsOutOne d scope (.loop start key value container body otherwise stop) t after
  | filtered {scope middle after : Scope} {start : Trim} {filter : Call} {body : List Node}
      {stop : Trim} {t t' : String} (h : PutsOut d scope body t middle) :
      PutsOutOne d scope (.filtered start filter body stop) t' after

/-- The turns of a loop put out a text. A turn begins with nothing asked of the loop. -/
inductive PutsOutTurns (d : Document) : List Node → String → Prop
  | nil {body : List Node} : PutsOutTurns d body ""
  | cons {scope after : Scope} {body : List Node} {t t' : String} (hquiet : scope.signal = .none)
      (h : PutsOut d scope body t after) (h' : PutsOutTurns d body t') :
      PutsOutTurns d body (t ++ t')

end

/-- Filling in puts out what the pieces put out, if there is this much fuel. -/
structure RenderersPutOut (d : Document) (fuel : Nat) : Prop where
  all : ∀ scope ns, Render.Gives d scope (PutsOut d scope ns) (renderAll fuel ns)
  node : ∀ scope n, Render.Gives d scope (PutsOutOne d scope n) (renderNode fuel n)
  arms : ∀ scope arms otherwise, Render.Gives d scope
    (fun t after => ∃ middle body, (body ∈ arms.map (·.2.2) ∨ body = otherwise.getD []) ∧
      PutsOut d middle body t after) (renderArms fuel arms otherwise)
  turns : ∀ scope key value body count index items, Render.Gives d scope
    (fun t _ => PutsOutTurns d body t) (renderTurns fuel key value body count index items)

namespace RenderersPutOut

open Render.Gives

variable {d : Document}

theorem zero : RenderersPutOut d 0 where
  all _ _ := throw _
  node _ _ := throw _
  arms _ _ _ := throw _
  turns _ _ _ _ _ _ _ := throw _

variable {fuel : Nat} (ih : RenderersPutOut d fuel)
include ih

theorem all_succ (scope : Scope) (ns : List Node) :
    Render.Gives d scope (PutsOut d scope ns) (renderAll (fuel + 1) ns) := by
  cases ns with
  | nil => exact pure (.nil scope)
  | cons n rest =>
    rw [renderAll]
    refine bind (ih.node scope n) fun t middle ht => get_bind ?_
    split
    · next hasked => exact pure (.stop ht (by simpa using hasked))
    · next hquiet =>
      refine bind (ih.all middle rest) fun t' after ht' => pure (.cons ht ?_ ht')
      simpa using hquiet

theorem arms_succ (scope : Scope) (arms : List (Trim × Expr × List Node))
    (otherwise : Option (List Node)) : Render.Gives d scope
      (fun t after => ∃ middle body, (body ∈ arms.map (·.2.2) ∨ body = otherwise.getD []) ∧
        PutsOut d middle body t after) (renderArms (fuel + 1) arms otherwise) := by
  cases arms with
  | nil =>
    rw [renderArms]
    exact (ih.all scope _).mono fun _ _ h => ⟨scope, _, .inr rfl, h⟩
  | cons arm rest =>
    obtain ⟨trim, condition, body⟩ := arm
    rw [renderArms]
    refine after fun b middle => ?_
    split
    · exact (ih.all middle body).mono fun _ _ h => ⟨middle, body, .inl (.head _), h⟩
    · refine (ih.arms middle rest otherwise).mono fun _ _ h => ?_
      obtain ⟨start, body, hbody, h⟩ := h
      exact ⟨start, body, hbody.imp_left (.tail _), h⟩

theorem turns_succ (scope : Scope) (key : Option String) (value : String) (body : List Node)
    (count index : Nat) (items : List (String × Value)) :
    Render.Gives d scope (fun t _ => PutsOutTurns d body t)
      (renderTurns (fuel + 1) key value body count index items) := by
  cases items with
  | nil => exact pure .nil
  | cons item items =>
    obtain ⟨currentKey, current⟩ := item
    rw [renderTurns]
    refine changeScope_bind (bind (ih.all _ body) fun t after ht => get_bind ?_)
    split
    · have hlast := PutsOutTurns.cons rfl ht .nil
      rw [String.append_empty] at hlast
      exact pure hlast
    · exact bind (ih.turns after _ _ _ _ _ _) fun t' _ ht' => pure (.cons rfl ht ht')

theorem node_succ (scope : Scope) (n : Node) :
    Render.Gives d scope (PutsOutOne d scope n) (renderNode (fuel + 1) n) := by
  unfold renderNode
  cases n with
  | text t => exact pure (.text scope t)
  | raw start t stop => exact pure (.raw scope start t stop)
  | comment | importing | definition | parent => exact pure (.silent scope rfl)
  | output trim e => exact after fun v middle => pure .output
  | assign => exact after fun v middle => after fun _ _ => pure .assign
  | insertion trim names optional =>
    simp only
    split
    · refine after fun _ start => read_bind ?_
      exact bind (ih.all start _) fun t stop ht => after fun _ _ => pure (.insertion ht)
    · split
      · next hoptional =>
        subst hoptional
        exact pure .noInsertion
      · exact throw _
  | block start name body stop => exact read_bind ((ih.all scope _).mono fun _ _ => .block)
  | overridden => exact throw _
  | branch arms otherwise stop =>
    refine (ih.arms scope _ _).mono fun _ _ h => ?_
    obtain ⟨middle, body, hbody, h⟩ := h
    exact .branch hbody h
  | loop start key value container body otherwise stop =>
    refine after fun name _ => after fun v _ => after fun items middle => ?_
    split
    · exact (ih.all middle _).mono fun _ _ => .noTurn
    · refine after fun _ entered => ?_
      exact bind (ih.turns entered _ _ _ _ _ _) fun t _ ht => after fun _ _ => pure (.turns ht)
  | filtered start filter body stop =>
    refine bind (ih.all scope body) fun t middle ht => ?_
    split
    · exact pure (.filtered ht)
    · exact after fun v _ => pure (.filtered ht)
  | leave =>
    refine after fun _ _ => ?_
    split
    · exact after fun _ _ => pure .leave
    · exact throw _
  | next =>
    refine after fun _ _ => ?_
    split
    · exact after fun _ _ => pure .next
    · exact throw _

end RenderersPutOut

theorem renderersPutOut (d : Document) (fuel : Nat) : RenderersPutOut d fuel := by
  induction fuel with
  | zero => exact .zero
  | succ fuel ih => exact ⟨ih.all_succ, ih.node_succ, ih.arms_succ, ih.turns_succ⟩

/-! ## From the source to the output -/

theorem parse?_eq_some {source : String} {d : Document} (h : Document.parse? source = some d) :
    ∃ found fuel, allNodes? source.toList = some found ∧
      d.nodes = trimmed fuel false false [] found := by
  obtain ⟨found, hfound, h⟩ := Option.bind_eq_some_iff.1 h
  obtain ⟨-, h⟩ := Option.ite_none_left_eq_some.1 h
  cases h
  exact ⟨found, _, hfound, rfl⟩

theorem preprocess_eq_ok {source out : String} {s : Surroundings} {disk : Disk}
    (h : (preprocess source s disk).1 = .ok out) :
    ∃ d text, Document.parse? (rewriteLookups source) = some d ∧
      (fillIn d s disk).1.1 = .ok text ∧ out = joinContinued text := by
  unfold preprocess at h
  split at h
  · cases h
  · next d hd =>
    split at h
    · cases h
    · simp only at h
      split at h
      · next text htext =>
        cases h
        exact ⟨d, text, hd, htext, rfl⟩
      · split at h <;> cases h

theorem fillIn_putsOut {d : Document} {s : Surroundings} {disk : Disk} {text : String}
    (h : (fillIn d s disk).1.1 = .ok text) :
    ∃ after, PutsOut d { context := contextOf s } d.nodes text after :=
  ⟨_, Calling.Ends.run ((renderersPutOut d depthLimit).all _ d.nodes) _ _ text h⟩

/-- What scanning makes of the literals in the parts of a template. -/
structure ScannedLiterals (parts : List Part) (ls : List (List Char)) : Prop where
  becomes : List.Forall₂ InPieces (literals parts) ls
  closed : ∀ before after, parts = before ++ after → (∀ p ∈ before, p.IsClosed) →
    literals (before.map Part.scanned) <+: ls
  text : ∀ p ∈ parts, p.kind = .text → p.scanned = p
  unchanged : (∀ p ∈ parts, p.IsClosed) → (∀ p ∈ parts, p.kind = .raw → p.scanned = p) →
    ls = literals parts

theorem Cuts.scannedLiterals {s : List Char} {parts' : List Part} (h : Cuts (scan s) parts' []) :
    ∃ parts, Cuts s parts [] ∧ ScannedLiterals parts (literals parts') := by
  obtain ⟨parts, hparts, hbecomes⟩ := h.of_scan
  have halike : List.Forall₂ InPieces (literals parts) (literals parts') :=
    List.rel_filterMap (fun _ _ h => Part.Becomes.literal? h) hbecomes
  have hclosed : ∀ before after, parts = before ++ after → (∀ p ∈ before, p.IsClosed) →
      literals (before.map Part.scanned) <+: literals parts' := by
    rintro before after rfl hclosed
    exact (hparts.scanned_of_closed h hclosed).filterMap _
  have htext : ∀ p ∈ parts, p.kind = .text → p.scanned = p := by
    intro p hp hkind
    obtain ⟨before, after, hsplit⟩ := List.append_of_mem hp
    rw [Part.scanned, (hparts.scan_text hsplit hkind).1]
  refine ⟨parts, hparts, halike, hclosed, htext, fun hall hraw => ?_⟩
  have hsame : literals (parts.map Part.scanned) = literals parts := by
    rw [literals, List.filterMap_map, literals]
    refine List.filterMap_congr fun p hp => ?_
    rcases hkind : p.kind
    case text => exact congrArg Part.literal? (htext p hp hkind)
    case raw => exact congrArg Part.literal? (hraw p hp hkind)
    case comment | tag => simp [Part.literal?, Part.scanned, hkind]
  have hbegin := hclosed parts [] (List.append_nil parts).symm hall
  rw [hsame] at hbegin
  exact (hbegin.eq_of_length halike.length_eq).symm

/-- The pieces of a template hold these literals, of which tags have taken white space away. -/
structure HoldsLiterals (d : Document) (ls : List (List Char)) : Prop where
  asked : ∃ found fuel, Holds found ls ∧ d.nodes = trimmed fuel false false [] found
  leaves : Leaves ls (Holds d.nodes)

theorem parse?_holdsLiterals {source : String} {d : Document}
    (h : Document.parse? source = some d) :
    ∃ parts, Cuts source.toList parts [] ∧ HoldsLiterals d (literals parts) := by
  obtain ⟨found, fuel, hfound, hnodes⟩ := parse?_eq_some h
  obtain ⟨parts, hparts, hholds⟩ := allNodes?_holds hfound
  refine ⟨parts, hparts, ⟨found, fuel, hholds, hnodes⟩, ?_⟩
  rw [hnodes]
  exact (trimmersKeep fuel).body false false hholds

/-- A template that can be filled in is cut into parts. Scanning turns some lookups in its literals
into calls. Up to the first part that the scanner leaves in the middle of a tag it does so only in
the tags that raw text holds, so if there is none of either, the literals are unchanged. What comes
of them stands in the pieces that are read, but for white space that tags take away. The pieces put
it out as it is if they are come to, and of what is put out continued lines are joined. -/
theorem literals_reach_output {source out : String} {s : Surroundings} {disk : Disk}
    (h : (preprocess source s disk).1 = .ok out) :
    ∃ parts ls d text after, Cuts source.toList parts [] ∧ ScannedLiterals parts ls ∧
      Document.parse? (rewriteLookups source) = some d ∧ HoldsLiterals d ls ∧
      PutsOut d { context := contextOf s } d.nodes text after ∧ out = joinContinued text := by
  obtain ⟨d, text, hd, htext, rfl⟩ := preprocess_eq_ok h
  obtain ⟨parts', hparts', hholds⟩ := parse?_holdsLiterals hd
  rw [toList_rewriteLookups] at hparts'
  obtain ⟨parts, hparts, hliterals⟩ := hparts'.scannedLiterals
  obtain ⟨after, hputs⟩ := fillIn_putsOut htext
  exact ⟨parts, _, d, text, after, hparts, hliterals, hd, hholds, hputs, rfl⟩

/-- By the theorem, a tag in a comment and a lookup outside of tags make no difference. -/
theorem literals_reach_output_continued :
    let raw := "\x7b% raw %\x7d\x7b\x7b b \x7d\x7d\x7b% endraw %\x7d"
    let source := "\x7b# \x7b\x7b x \x7d\x7d #\x7d env.A \\\n" ++ raw
    let s : Surroundings := { vars := {}, env := ⟨⟨[("A", "0")]⟩⟩, baseDir := "." }
    (preprocess source s (Disk.setUp 0)).1.toOption = some " env.A \x7b\x7b b \x7d\x7d" ∧
      ∃ d text after,
        HoldsLiterals d [" env.A \\\n".toList, "\x7b\x7b b \x7d\x7d".toList] ∧
        PutsOut d { context := contextOf s } d.nodes text after ∧
        joinContinued text = " env.A \x7b\x7b b \x7d\x7d" := by
  intro raw source s
  have hout : (preprocess source s (Disk.setUp 0)).1.toOption =
      some " env.A \x7b\x7b b \x7d\x7d" := by
    decide +kernel
  have hok : (preprocess source s (Disk.setUp 0)).1 = .ok " env.A \x7b\x7b b \x7d\x7d" := by
    rcases h : (preprocess source s (Disk.setUp 0)).1 with _ | out
    · rw [h] at hout
      cases hout
    · rw [h] at hout
      exact congrArg Except.ok (Option.some.inj hout)
  have hcomment : nextParts? source.toList =
      some ([⟨.comment, "\x7b# \x7b\x7b x \x7d\x7d #\x7d".toList⟩],
        " env.A \\\n".toList ++ raw.toList) := by
    decide +kernel
  have htext : nextParts? (" env.A \\\n".toList ++ raw.toList) =
      some ([⟨.text, " env.A \\\n".toList⟩], raw.toList) := by
    decide +kernel
  have hraw : nextParts? raw.toList = some ([⟨.tag, "\x7b% raw %\x7d".toList⟩,
      ⟨.raw, "\x7b\x7b b \x7d\x7d".toList⟩, ⟨.tag, "\x7b% endraw %\x7d".toList⟩], []) := by
    decide +kernel
  obtain ⟨parts, ls, d, text, after, hcuts, hscanned, -, hholds, hputs, hjoined⟩ :=
    literals_reach_output hok
  obtain rfl := hcuts.unique (.cons hcomment (.cons htext (.one hraw)))
  have hls : ls = [" env.A \\\n".toList, "\x7b\x7b b \x7d\x7d".toList] :=
    hscanned.unchanged (by decide +kernel) (by decide +kernel)
  rw [hls] at hholds
  exact ⟨hout, d, text, after, hholds, hputs, hjoined.symm⟩

/-- A lookup in raw text, or behind a comment in which a tag begins, is rewritten although the text
that it stands in is put out as it is. -/
theorem lookups_in_literals_are_rewritten :
    let raw := "\x7b% raw %\x7d\x7b\x7b env.A \x7d\x7d\x7b% endraw %\x7d"
    let behind := "\x7b# \x7b\x7b #\x7d env.A \x7b\x7b 1 \x7d\x7d"
    let s : Surroundings := { vars := {}, env := ⟨⟨[("A", "0")]⟩⟩, baseDir := "." }
    nextParts? raw.toList = some ([⟨.tag, "\x7b% raw %\x7d".toList⟩,
        ⟨.raw, "\x7b\x7b env.A \x7d\x7d".toList⟩, ⟨.tag, "\x7b% endraw %\x7d".toList⟩], []) ∧
      (preprocess raw s (Disk.setUp 0)).1.toOption =
        some "\x7b\x7b env(name=\"A\") \x7d\x7d" ∧
      nextParts? behind.toList = some ([⟨.comment, "\x7b# \x7b\x7b #\x7d".toList⟩],
        " env.A \x7b\x7b 1 \x7d\x7d".toList) ∧
      (preprocess behind s (Disk.setUp 0)).1.toOption = some " env(name=\"A\") 1" := by
  decide +kernel

end BuildTool.Template
