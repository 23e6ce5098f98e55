import BuildTool.Proofs.Graph.History
import BuildTool.Proofs.Script.Failure
import BuildTool.Proofs.Script.Writing

/-!
# The names of a graph

Every name that gets into a graph is cleaned on its way, wherever it comes from: the left side of
a statement, a word of a dependency list, or a dependency whose path was found on the disk, which
has been cleaned before. So two spellings of a path are one name.

    ./out//app: main.o
    out/lib/../app <- ld        the same target, out/app
-/

namespace BuildTool

variable {σ : Type}

/-! ## Statements about targets -/

/-- The operators whose left side names a target. -/
def Operator.isOfTarget : Operator → Bool
  | .depends | .command | .message => true
  | .assign | .append => false

namespace Plan

variable {operator : Operator} (hop : operator.isOfTarget = true)
include hop

/-- A statement about a target does the same in every spelling of its name. -/
theorem relate_congr {left left' : String} (h : Path.clean left = Path.clean left') (plan : Plan)
    (right : String) : plan.relate left operator right = plan.relate left' operator right := by
  cases operator with
  | depends => simp only [relate, declare, h]
  | assign => cases hop
  | append => cases hop
  | command => simp only [relate, addCommand, h]
  | message => simp only [relate, addCommand, h]

/-- A statement about a target changes no other one. -/
theorem find?_relate (plan : Plan) (left right : String) {other : String}
    (h : other ≠ Path.clean left) :
    (plan.relate left operator right).2.graph.find? other = plan.graph.find? other := by
  cases operator with
  | depends =>
    simp only [relate, declare]
    split
    · rfl
    · rw [Graph.find?_update, if_neg h]
  | assign => cases hop
  | append => cases hop
  | command => rw [relate, addCommand, Graph.find?_update, if_neg h]
  | message => rw [relate, addCommand, Graph.find?_update, if_neg h]

/-- After a statement about a target has been carried out, there is that target. -/
theorem contains_relate {plan : Plan} {left right : String}
    (h : (plan.relate left operator right).1 = .ok ()) :
    (plan.relate left operator right).2.graph.contains (Path.clean left) = true := by
  cases operator with
  | depends =>
    simp only [relate, declare] at h ⊢
    split at h
    · cases h
    · simp [Graph.contains_update]
  | assign => cases hop
  | append => cases hop
  | command => simp [relate, addCommand, Graph.contains_update]
  | message => simp [relate, addCommand, Graph.contains_update]

end Plan

namespace Script

/-- In a plan, the line is a statement about a target and spells its name like this. -/
def IsAbout (line : String) (plan : Plan) (name : String) : Prop :=
  ∃ left operator right, Statement.ofLine line = .ok (.relate left operator right) ∧
    operator.isOfTarget = true ∧ plan.expand left = name

/-- Among the lines of a script that are carried out is a statement about the target of this
name. -/
def Mentions (print : Printer σ) (script : String) (st : Plan × σ) (name : String) : Prop :=
  ∃ before line after reached, lines script = before ++ line :: after ∧
    steps print 1 before st = (none, reached) ∧ IsAbout line reached.1 name ∧
    (step print line reached).1 = .ok ()

/-- Lines take no target away. -/
theorem contains_steps {print : Printer σ} (number : Nat) (lines : List String) {st : Plan × σ}
    {name : String} (hc : st.1.graph.contains name = true) :
    (steps print number lines st).2.1.graph.contains name = true := by
  refine Graph.graph_of_steps (P := fun g => g.contains name = true) ?_ number lines hc
  intro g h hd hc
  cases hd <;> rw [Graph.contains_update, hc, Bool.or_true]

theorem contains_runWith {print : Printer σ} {script name : String} {st : Plan × σ}
    (h : Mentions print script st name) :
    (runWith print script st).2.1.graph.contains (Path.clean name) = true := by
  obtain ⟨before, line, after, ⟨plan, out⟩, hlines, hbefore, ⟨left, operator, right, hs, hop, rfl⟩,
    hok⟩ := h
  have hc : (step print line (plan, out)).2.1.graph.contains (Path.clean (plan.expand left)) =
      true := by
    rw [step_relate hs] at hok ⊢
    exact Plan.contains_relate hop hok
  rw [runWith, hlines, steps_append, hbefore]
  simp only [steps]
  rcases hline : step print line (plan, out) with ⟨_ | _, st'⟩
  · rw [hline] at hok
    cases hok
  · rw [hline] at hc
    exact contains_steps _ after hc

end Script

namespace Graph

/-! ## Clean names -/

/-- Every name in a graph, of a target or of a dependency, is clean. -/
structure HasCleanNames (g : Graph) : Prop where
  names : ∀ name, g.contains name = true → Path.clean name = name
  needs : ∀ name d, g.Needs name d → Path.clean d = d

theorem hasCleanNames_empty : HasCleanNames {} where
  names _ hc := nomatch hc
  needs _ _ hn := nomatch hn

section

variable {g h : Graph} (hg : g.HasCleanNames)
include hg

theorem HasCleanNames.of_declares (hd : Declares g h) : h.HasCleanNames where
  names _ hc := hd.clean_eq hg.names hc
  needs name d hn := by
    cases hd with
    | dependencies other force names =>
      rw [Needs, dependenciesOf, targetOf_update] at hn
      split at hn
      · rcases List.mem_append.mp hn with hn | hn
        · exact hg.needs _ d hn
        · obtain ⟨word, -, rfl⟩ := List.mem_map.mp hn
          exact Path.clean_clean word
      · exact hg.needs _ d hn
    | command other command =>
      rw [Needs, dependenciesOf, targetOf_update] at hn
      split at hn <;> exact hg.needs _ d hn

theorem HasCleanNames.of_sameRecipes (same : SameRecipes g h)
    (hnew : ∀ name, h.contains name = true → g.contains name = true ∨ ∃ t, g.Needs t name) :
    h.HasCleanNames where
  names name hc := by
    rcases hnew name hc with hc | ⟨t, hn⟩
    · exact hg.names name hc
    · exact hg.needs t name hn
  needs name d hn := by
    rw [same.needs] at hn
    exact hg.needs name d hn

end

theorem Walk.hasCleanNames {site : Site σ} {st st' : Graph × σ} {visits : List (Visit σ)}
    (w : Walk site st visits st') (hst : st.1.HasCleanNames) : st'.1.HasCleanNames := by
  induction w with
  | refl => exact hst
  | adopt hn _ _ _ ih =>
    refine ih (hst.of_sameRecipes (sameRecipes_ensure _ _) fun other hc => ?_)
    rw [contains_ensure, Bool.or_eq_true, beq_iff_eq] at hc
    rcases hc with rfl | hc
    · exact Or.inr ⟨_, hn⟩
    · exact Or.inl hc
  | visit hr _ _ _ ih =>
    refine ih (hst.of_sameRecipes (sameRecipes_doneAt hr.contains _) fun other hc => ?_)
    rw [contains_modify] at hc
    exact Or.inl hc

theorem HasCleanNames.apply {st : Graph × σ} (hst : st.1.HasCleanNames) (move : Move σ) :
    (move.apply st).1.HasCleanNames := by
  obtain ⟨g, s⟩ := st
  cases move with
  | meanwhile => exact hst
  | pass site name =>
    obtain ⟨visits, s', w, -⟩ := resolve_isPass site name g s
    exact w.hasCleanNames hst
  | look modified name =>
    rw [Move.apply_look]
    exact hst
  | unresolve =>
    refine HasCleanNames.of_sameRecipes hst (sameRecipes_unresolveAll g) fun other hc => ?_
    rw [Move.apply, contains_unresolveAll] at hc
    exact Or.inl hc

/-! ## Histories -/

/-- Something that happens to a graph. -/
inductive Event (σ : Type)
  /-- a script is carried out, with any variables and environment -/
  | script (vars : Variables) (env : Environment) (print : Printer σ) (text : String)
  | other (move : Move σ)

/-- What becomes of a graph and the state outside of it. -/
def Event.apply : Event σ → Graph × σ → Graph × σ
  | .script vars env print text, (g, s) =>
    let out := Script.runWith print text ({ graph := g, vars, env }, s)
    (out.2.1.graph, out.2.2)
  | .other move, st => move.apply st

/-- A statement about the target of this name is carried out. -/
def Event.Mentions : Event σ → Graph × σ → String → Prop
  | .script vars env print text, (g, s), name =>
    Script.Mentions print text ({ graph := g, vars, env }, s) name
  | .other _, _, _ => False

/-- The graph and the state after some events. -/
def history (events : List (Event σ)) (st : Graph × σ) : Graph × σ :=
  events.foldl (fun st event => event.apply st) st

/-- Some line among the events was about the target of this name. -/
def IsDeclared (events : List (Event σ)) (st : Graph × σ) (name : String) : Prop :=
  ∃ before event after, events = before ++ event :: after ∧
    event.Mentions (history before st) name

theorem HasCleanNames.event {st : Graph × σ} (hst : st.1.HasCleanNames) (event : Event σ) :
    (event.apply st).1.HasCleanNames := by
  obtain ⟨g, s⟩ := st
  cases event with
  | script vars env print text =>
    have hplan : HasCleanNames ({ graph := g, vars, env } : Plan).graph := hst
    exact graph_of_steps (fun _ _ hd hg => HasCleanNames.of_declares hg hd) 1 _ hplan
  | other move => exact hst.apply move

theorem HasCleanNames.history {st : Graph × σ} (hst : st.1.HasCleanNames)
    (events : List (Event σ)) : (history events st).1.HasCleanNames := by
  induction events generalizing st with
  | nil => exact hst
  | cons event rest ih => exact ih (hst.event event)

/-- An event takes no target away. -/
theorem Event.contains {st : Graph × σ} (event : Event σ) {name : String}
    (hc : st.1.contains name = true) : (event.apply st).1.contains name = true := by
  obtain ⟨g, s⟩ := st
  cases event with
  | script vars env print text =>
    have hplan : ({ graph := g, vars, env } : Plan).graph.contains name = true := hc
    exact Script.contains_steps 1 _ hplan
  | other move => exact (move.keeps (g, s)).2.2 name hc

theorem Event.contains_of_mentions {st : Graph × σ} {event : Event σ} {name : String}
    (h : event.Mentions st name) : (event.apply st).1.contains (Path.clean name) = true := by
  obtain ⟨g, s⟩ := st
  cases event with
  | script vars env print text => exact Script.contains_runWith h
  | other => exact h.elim

theorem contains_history_of_contains (events : List (Event σ)) {st : Graph × σ} {name : String}
    (hc : st.1.contains name = true) : (history events st).1.contains name = true := by
  induction events generalizing st with
  | nil => exact hc
  | cons event rest ih => exact ih (event.contains hc)

/-- A target that some line was about is there after any other events. -/
theorem contains_history {events : List (Event σ)} {st : Graph × σ} {name : String}
    (h : IsDeclared events st name) : (history events st).1.contains (Path.clean name) = true := by
  obtain ⟨before, event, after, rfl, hm⟩ := h
  rw [history, List.foldl_append, List.foldl_cons]
  exact contains_history_of_contains after (Event.contains_of_mentions hm)

end Graph

end BuildTool
