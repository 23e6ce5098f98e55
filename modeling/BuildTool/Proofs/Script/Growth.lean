import BuildTool.Proofs.Script.Assignment
import BuildTool.Proofs.Script.Naming

/-!
# What lines change

A line changes one thing at most, and to a target it only adds:

    name: words   name <- command   name << text    the target of the name in its clean form
    name = text   name += text                      a variable or an environment entry
    << text                                         what is printed

So between any two points of a script no target disappears, and one that a pass has marked keeps its
marks; what no line in between names is the same at both.
-/

namespace BuildTool

variable {σ : Type}

/-! ## Growing graphs -/

/-- The other target is this one with more in it, and with the same marks of a pass. -/
structure Target.Extends (t t' : Target) : Prop where
  name : t'.name = t.name
  dependencies : t.dependencies <+: t'.dependencies
  commands : t.commands <+: t'.commands
  force : t.force = true → t'.force = true
  resolved : t'.resolved = t.resolved
  modifiedAt : t'.modifiedAt = t.modifiedAt

theorem Target.Extends.refl (t : Target) : t.Extends t :=
  ⟨rfl, List.prefix_rfl, List.prefix_rfl, id, rfl, rfl⟩

theorem Target.Extends.trans {t t' t'' : Target} (h : t.Extends t') (h' : t'.Extends t'') :
    t.Extends t'' where
  name := h'.name.trans h.name
  dependencies := h.dependencies.trans h'.dependencies
  commands := h.commands.trans h'.commands
  force hf := h'.force (h.force hf)
  resolved := h'.resolved.trans h.resolved
  modifiedAt := h'.modifiedAt.trans h.modifiedAt

namespace Graph

/-- The other graph has all targets of this one, each with what it has here and maybe more. A
target that is new there has not been looked at by any pass. -/
structure Extends (g h : Graph) : Prop where
  contains : ∀ name, g.contains name = true → h.contains name = true
  targetOf : ∀ name, (g.targetOf name).Extends (h.targetOf name)
  visiting : h.visiting = g.visiting

theorem Extends.refl (g : Graph) : g.Extends g := ⟨fun _ => id, fun _ => .refl _, rfl⟩

theorem Extends.trans {g h k : Graph} (hgh : g.Extends h) (hhk : h.Extends k) : g.Extends k where
  contains name hc := hhk.contains name (hgh.contains name hc)
  targetOf name := (hgh.targetOf name).trans (hhk.targetOf name)
  visiting := hhk.visiting.trans hgh.visiting

theorem Extends.update (g : Graph) (name : String) {change : Target → Target}
    (hc : ∀ t : Target, t.Extends (change t)) : g.Extends (g.update name change) where
  contains other h := by rw [contains_update, h, Bool.or_true]
  targetOf other := by
    rw [targetOf_update]
    split
    · next he =>
      subst he
      exact hc _
    · exact .refl _
  visiting := visiting_update g name change

/-- What a statement adds to a target makes the graph grow. -/
theorem Declares.extends {g h : Graph} (hd : Declares g h) : g.Extends h := by
  cases hd with
  | dependencies name force names =>
    refine Extends.update g _ fun t => ?_
    exact ⟨rfl, List.prefix_append _ _, List.prefix_rfl, fun hf => by simp [hf], rfl, rfl⟩
  | command name command =>
    refine Extends.update g _ fun t => ?_
    exact ⟨rfl, List.prefix_rfl, List.prefix_append _ _, id, rfl, rfl⟩

end Graph

/-! ## Things that lines name -/

/-- The things that a line can change. -/
inductive Thing
  | value (store : Store) (name : String)
  | target (name : String)
  | output
  deriving DecidableEq

/-- A thing is the same in two states. -/
def Thing.IsSame (st st' : Plan × σ) : Thing → Prop
  | .value store name => st'.1.value? store name = st.1.value? store name
  | .target name => st'.1.graph.find? name = st.1.graph.find? name
  | .output => st'.2 = st.2

theorem Thing.IsSame.refl (thing : Thing) (st : Plan × σ) : thing.IsSame st st := by
  cases thing <;> rfl

theorem Thing.IsSame.trans {thing : Thing} {st st' st'' : Plan × σ} (h : thing.IsSame st st')
    (h' : thing.IsSame st' st'') : thing.IsSame st st'' := by
  cases thing with
  | value => exact Eq.trans h' h
  | target => exact Eq.trans h' h
  | output => exact Eq.trans h' h

/-- The value that an assignment is to. A context other than that of the environment has no
values. -/
def Store.named? (left : String) : Option (Store × String) :=
  match Text.cut? '.' left with
  | some (context, name) => if context = "env" then some (.env, name) else none
  | none => some (.vars, left)

theorem Plan.assign_eq (plan : Plan) (left value : String) (append : Bool) :
    (plan.assign left value append).2 =
      match Store.named? left with
      | some (store, name) =>
        plan.put name (store.assigned append (plan.value? store name) value) store
      | none => plan := by
  unfold Plan.assign Store.named?
  rcases Text.cut? '.' left with _ | ⟨context, name⟩
  · cases append <;> rfl
  · by_cases hc : context = "env"
    · simp only [if_pos hc]
      cases append with
      | false => rfl
      | true =>
        simp only [if_true, Environment.append, Plan.value?]
        cases plan.env.get? name <;> rfl
    · simp only [if_neg hc]

/-- What a statement with this left side is about. -/
def Operator.thing? (operator : Operator) (left : String) : Option Thing :=
  if operator.isOfTarget then some (.target (Path.clean left))
  else (Store.named? left).map fun p => .value p.1 p.2

theorem Plan.assign_same (plan : Plan) (left value : String) (append : Bool) (out : σ)
    {thing : Thing} (h : ∀ p, Store.named? left = some p → thing ≠ .value p.1 p.2) :
    thing.IsSame (plan, out) ((plan.assign left value append).2, out) := by
  rw [plan.assign_eq]
  rcases hn : Store.named? left with _ | ⟨store, name⟩
  · exact .refl thing _
  · cases thing with
    | value store' name' =>
      refine (plan.value?_put name _ store store' name').trans (if_neg ?_)
      rintro ⟨rfl, rfl⟩
      exact h _ hn rfl
    | target name' =>
      simp only [Thing.IsSame, Plan.graph_put]
    | output => rfl

theorem Plan.value?_relate {operator : Operator} (hop : operator.isOfTarget = true) (plan : Plan)
    (left right : String) (store : Store) (name : String) :
    (plan.relate left operator right).2.value? store name = plan.value? store name := by
  cases operator with
  | depends =>
    rw [relate, declare]
    split <;> cases store <;> rfl
  | assign => cases hop
  | append => cases hop
  | command => cases store <;> rfl
  | message => cases store <;> rfl

/-- A statement leaves everything as it is but for what its left side names. -/
theorem Plan.relate_same (plan : Plan) (left right : String) (operator : Operator) (out : σ)
    {thing : Thing} (h : operator.thing? left ≠ some thing) :
    thing.IsSame (plan, out) ((plan.relate left operator right).2, out) := by
  by_cases hop : operator.isOfTarget = true
  · rw [Operator.thing?, if_pos hop] at h
    cases thing with
    | value store name => exact Plan.value?_relate hop plan left right store name
    | target name => exact Plan.find?_relate hop plan left right fun he => h (he ▸ rfl)
    | output => rfl
  · rw [Operator.thing?, if_neg hop] at h
    have hn : ∀ p, Store.named? left = some p → thing ≠ .value p.1 p.2 := by
      rintro p hp rfl
      exact h (by rw [hp, Option.map_some])
    cases operator with
    | assign => exact plan.assign_same left right false out hn
    | append => exact plan.assign_same left right true out hn
    | depends | command | message => exact absurd rfl hop

namespace Script

/-- The thing that a line names, which is the only one that it can change. -/
def thing? (line : String) (plan : Plan) : Option Thing :=
  match Statement.ofLine line with
  | .error _ => none
  | .ok .nothing => none
  | .ok (.say _) => some .output
  | .ok (.relate left operator _) => operator.thing? (plan.expand left)

/-- The things that lines name as they are carried out, up to the first line that fails. -/
def things (print : Printer σ) : List String → Plan × σ → List Thing
  | [], _ => []
  | line :: rest, st =>
    (thing? line st.1).toList ++
      match step print line st with
      | (.error _, _) => []
      | (.ok (), st) => things print rest st

variable (print : Printer σ)

/-! ## One line -/

theorem step_same (line : String) (st : Plan × σ) {thing : Thing}
    (h : thing? line st.1 ≠ some thing) : thing.IsSame st (step print line st).2 := by
  obtain ⟨plan, out⟩ := st
  rcases hs : Statement.ofLine line with _ | (_ | message | ⟨left, operator, right⟩) <;>
    simp only [thing?, hs] at h <;> simp only [step, hs]
  · exact .refl thing _
  · exact .refl thing _
  · cases thing with
    | value => rfl
    | target => rfl
    | output => exact absurd rfl h
  · exact plan.relate_same _ _ operator out h

theorem step_extends (line : String) (st : Plan × σ) :
    st.1.graph.Extends (step print line st).2.1.graph :=
  Graph.graph_of_step (fun _ _ hd hp => hp.trans hd.extends) line (.refl st.1.graph)

/-! ## Several lines -/

theorem steps_same (number : Nat) (lines : List String) (st : Plan × σ) {thing : Thing}
    (h : thing ∉ things print lines st) : thing.IsSame st (steps print number lines st).2 := by
  induction lines generalizing number st with
  | nil => exact .refl thing st
  | cons line rest ih =>
    rw [things, List.mem_append, not_or, Option.mem_toList] at h
    have hline := step_same print line st h.1
    have hrest := h.2
    rw [steps]
    rcases hs : step print line st with ⟨_ | _, st'⟩
    · rw [hs] at hline
      exact hline
    · rw [hs] at hline hrest
      exact hline.trans (ih (number + 1) st' hrest)

theorem steps_extends (number : Nat) (lines : List String) (st : Plan × σ) :
    st.1.graph.Extends (steps print number lines st).2.1.graph :=
  Graph.graph_of_steps (fun _ _ hd hp => hp.trans hd.extends) number lines (.refl st.1.graph)

/-- A line changes one thing at most, the one that it names, and makes the graph grow if it changes
it. So it is between any two points of a script: `before` leads to the first of them, `between`
from there to the second. If a line before them fails, nothing is done between them. -/
theorem lines_change_what_they_name (st : Plan × σ) :
    (∀ line, st.1.graph.Extends (step print line st).2.1.graph ∧
      ∀ thing, thing? line st.1 ≠ some thing → thing.IsSame st (step print line st).2) ∧
    ∀ before between : List String,
      let early := (steps print 1 before st).2
      let late := (steps print 1 (before ++ between) st).2
      early.1.graph.Extends late.1.graph ∧
        (∀ thing, thing ∉ things print between early → thing.IsSame early late) ∧
        ((steps print 1 before st).1 ≠ none → late = early) := by
  refine ⟨fun line => ⟨step_extends print line st, fun _ h => step_same print line st h⟩, ?_⟩
  intro before between early late
  rcases hbefore : steps print 1 before st with ⟨_ | e, reached⟩
  · have hearly : early = reached := congrArg Prod.snd hbefore
    have hlate : late = (steps print (1 + before.length) between reached).2 := by
      show (steps print 1 (before ++ between) st).2 = _
      rw [steps_append, hbefore]
    rw [hearly, hlate]
    exact ⟨steps_extends print _ between reached, fun _ h => steps_same print _ between reached h,
      fun h => absurd rfl h⟩
  · have hlate : late = early := by
      show (steps print 1 (before ++ between) st).2 = (steps print 1 before st).2
      rw [steps_append, hbefore]
    rw [hlate]
    exact ⟨.refl _, fun thing _ => .refl thing _, fun _ => rfl⟩

/-- By the theorem, two more spellings of a target that is done add to it and change nothing else;
behind a line that is no statement they do nothing. -/
theorem lines_change_what_they_name_spellings :
    let print := Printed.printer .kept
    let done := (({} : Graph).update "out/app" fun t => { t with dependencies := ["a"] }).update
      "out/app" (Target.doneAt 5)
    let st : Plan × Printed := ({ graph := done }, {})
    let before := ["who = me", "<< $who"]
    let between := ["./out//app: !b", "out/lib/../app <- cc"]
    let early := (steps print 1 before st).2
    let late := (steps print 1 (before ++ between) st).2
    thing? "who = me" st.1 = some (.value .vars "who") ∧
      (step print "who = me" st).2.1.graph.find? "out/app" = st.1.graph.find? "out/app" ∧
      things print between early = [.target "out/app", .target "out/app"] ∧
      late.1.vars.get? "who" = early.1.vars.get? "who" ∧ late.2 = early.2 ∧
      (late.1.graph.targetOf "out/app") = { early.1.graph.targetOf "out/app" with
        dependencies := ["a", "b"], commands := ["cc"], force := true } ∧
      early.1.graph.Extends late.1.graph ∧
      (steps print 1 ("?" :: before ++ between) st).2 = (steps print 1 ("?" :: before) st).2 := by
  intro print done st before between early late
  have hfirst : thing? "who = me" st.1 = some (.value .vars "who") := by decide +kernel
  have hthings : things print between early = [.target "out/app", .target "out/app"] := by
    decide +kernel
  have hfails : (steps print 1 ("?" :: before) st).1 ≠ none := by decide +kernel
  obtain ⟨hline, hlines⟩ := lines_change_what_they_name print st
  obtain ⟨hgrow, hsame, -⟩ := hlines before between
  refine ⟨hfirst, ?_, hthings, ?_, ?_, by decide +kernel, hgrow, ?_⟩
  · exact (hline "who = me").2 (.target "out/app") (by rw [hfirst]; decide)
  · exact hsame (.value .vars "who") (by rw [hthings]; decide)
  · exact hsame .output (by rw [hthings]; decide)
  · exact (hlines ("?" :: before) between).2.2 hfails

end Script

end BuildTool
