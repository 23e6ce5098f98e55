import BuildTool.Log
import BuildTool.Script
import Mathlib.Data.List.Infix

/-!
# Scripts that fail

A line that fails leaves no trace. Every operator checks all it has to check before it changes
anything, so that neither the graph nor a variable or the environment is changed by half:

    (step print line st).1 = .error e     →   (step print line st).2.1 = st.1
    runWith print script st = (some e, …)  →   steps print 1 before st = (none, …)

Only a message that cannot be printed may leave something, which is what the output keeps of it.
The tool's own sinks keep nothing (`Printed.isWhole_emit`), but a file on a full disk keeps what
there was room for (`Printer.ofRoom`).
-/

namespace BuildTool

variable {σ : Type}

/-- A message that cannot be printed leaves the output as it is. -/
def Printer.IsWhole (print : Printer σ) : Prop :=
  ∀ message out e, (print message out).1 = .error e → (print message out).2 = out

/-- Printing to a file for which there is only so much room. It takes what fits of a message. -/
def Printer.ofRoom (room : Nat) : Printer String :=
  fun message out =>
    let text := out ++ message ++ "\n"
    if text.length ≤ room then (.ok (), text)
    else (.error (.file "<output>" .noSpace), String.ofList (text.toList.take room))

theorem Printer.isWhole_ofSay (say : String → σ → Except BuildError σ) :
    (Printer.ofSay say).IsWhole := by
  intro message out e h
  unfold Printer.ofSay at h ⊢
  rcases hs : say message out with e | out'
  · rfl
  · rw [hs] at h
    cases h

def Printed.printer (sink : SinkKind) : Printer Printed :=
  .ofSay fun message printed => printed.emit sink message

theorem Printed.isWhole_emit (sink : SinkKind) : (Printed.printer sink).IsWhole :=
  Printer.isWhole_ofSay _

namespace Plan

variable {plan : Plan} {e : BuildError}

theorem declare_of_error {name right : String} (h : (plan.declare name right).1 = .error e) :
    (plan.declare name right).2 = plan := by
  unfold declare at h ⊢
  split
  · rfl
  · next hr =>
    rw [hr] at h
    cases h

theorem assign_of_error {left value : String} {append : Bool}
    (h : (plan.assign left value append).1 = .error e) :
    (plan.assign left value append).2 = plan := by
  unfold assign at h ⊢
  split
  · next hcut =>
    rw [hcut] at h
    split
    · next hc =>
      simp only [if_pos hc] at h
      cases h
    · rfl
  · next hcut =>
    rw [hcut] at h
    cases h

/-- A statement that fails does not change the plan. -/
theorem relate_of_error {left right : String} {operator : Operator}
    (h : (plan.relate left operator right).1 = .error e) :
    (plan.relate left operator right).2 = plan := by
  cases operator with
  | depends => exact declare_of_error h
  | assign => exact assign_of_error h
  | append => exact assign_of_error h
  | command => cases h
  | message => cases h

/-- A statement fails by a quote that is not closed, or by a context that is not the environment. -/
theorem relate_eq_error {left right : String} {operator : Operator}
    (h : (plan.relate left operator right).1 = .error e) :
    (∃ text, e = .parse none (.openQuote text)) ∨ ∃ context, e = .unknownContext context := by
  have hassign : ∀ append, (plan.assign left right append).1 = .error e →
      ∃ context, e = .unknownContext context := by
    intro append h
    unfold assign at h
    split at h
    · split at h
      · cases h
      · cases h
        exact ⟨_, rfl⟩
    · cases h
  cases operator with
  | depends =>
    simp only [relate, declare, readDependencies] at h
    split at h
    · next hread =>
      split at hread
      · cases hread
        cases h
        exact Or.inl ⟨_, rfl⟩
      · cases hread
    · cases h
  | assign => exact Or.inr (hassign false h)
  | append => exact Or.inr (hassign true h)
  | command | message => cases h

end Plan

namespace Script

variable {print : Printer σ} {st : Plan × σ} {e : BuildError}

/-! ## One line -/

/-- A line that fails does not change the plan, and the output only if it is a message that
cannot be printed. -/
theorem step_of_error {line : String} (h : (step print line st).1 = .error e) :
    (step print line st).2.1 = st.1 ∧
      ((step print line st).2.2 = st.2 ∨ ∃ message, Statement.ofLine line = .ok (.say message) ∧
        print (st.1.expand message) st.2 = (.error e, (step print line st).2.2)) := by
  obtain ⟨plan, out⟩ := st
  simp only [step] at h ⊢
  split
  · exact ⟨rfl, Or.inl rfl⟩
  · exact ⟨rfl, Or.inl rfl⟩
  · next message hs =>
    simp only [hs] at h
    exact ⟨rfl, Or.inr ⟨message, hs, Prod.ext h rfl⟩⟩
  · next left operator right hs =>
    simp only [hs] at h
    exact ⟨Plan.relate_of_error h, Or.inl rfl⟩

theorem step_of_error_of_isWhole (hp : print.IsWhole) {line : String}
    (h : (step print line st).1 = .error e) : (step print line st).2 = st := by
  obtain ⟨hplan, hout | ⟨message, -, hm⟩⟩ := step_of_error h
  · exact Prod.ext hplan hout
  · have := hp _ _ e (congrArg Prod.fst hm)
    rw [hm] at this
    exact Prod.ext hplan this

/-! ## Several lines -/

/-- Lines are carried out up to any of them, and then the others. -/
theorem steps_append (number : Nat) (before rest : List String) (st : Plan × σ) :
    steps print number (before ++ rest) st =
      match steps print number before st with
      | (some e, st) => (some e, st)
      | (none, st) => steps print (number + before.length) rest st := by
  induction before generalizing number st with
  | nil => rfl
  | cons line before ih =>
    rw [List.cons_append, steps, steps]
    rcases step print line st with ⟨e | _, st'⟩
    · rfl
    · simp only [ih, List.length_cons]
      rw [Nat.add_assoc, Nat.add_comm 1]

/-- Lines of which one fails are carried out up to it. -/
theorem steps_eq_error {number : Nat} {lines : List String} {st' : Plan × σ}
    (h : steps print number lines st = (some e, st')) :
    ∃ before line after reached fault, lines = before ++ line :: after ∧
      steps print number before st = (none, reached) ∧
      step print line reached = (.error fault, st') ∧ e = atLine (number + before.length) fault := by
  induction lines generalizing number st with
  | nil => cases h
  | cons line rest ih =>
    rw [steps] at h
    rcases hs : step print line st with ⟨fault | _, st₁⟩
    · rw [hs] at h
      cases h
      exact ⟨[], line, rest, st, fault, rfl, rfl, hs, rfl⟩
    · rw [hs] at h
      obtain ⟨before, line', after, reached, fault, rfl, hb, hf, rfl⟩ := ih h
      refine ⟨line :: before, line', after, reached, fault, rfl, ?_, hf, ?_⟩
      · rw [steps, hs]
        exact hb
      · rw [List.length_cons, Nat.add_assoc, Nat.add_comm 1]

/-! ## Failing -/

/-- A line that fails leaves graph, variables and environment as they are, and a script that fails
leaves them as the lines before the failing one did; a later line has no effect. What is printed
is what these lines printed, but for what an output keeps of a message that it fails to print. -/
theorem failing_script_leaves_what_was_before (print : Printer σ) (st : Plan × σ) :
    (∀ line e, (step print line st).1 = .error e → (step print line st).2.1 = st.1) ∧
    ∀ script e, (runWith print script st).1 = some e →
      ∃ before line after reached fault, lines script = before ++ line :: after ∧
        steps print 1 before st = (none, reached) ∧
        (step print line reached).1 = .error fault ∧ e = atLine (before.length + 1) fault ∧
        (∀ later, steps print 1 (before ++ line :: later) st = runWith print script st) ∧
        (runWith print script st).2.1 = reached.1 ∧
        ((runWith print script st).2.2 = reached.2 ∨
          ∃ message, Statement.ofLine line = .ok (.say message) ∧
            print (reached.1.expand message) reached.2 =
              (.error fault, (runWith print script st).2.2)) ∧
        (print.IsWhole → (runWith print script st).2 = reached) := by
  constructor
  · intro line e h
    exact (step_of_error h).1
  · intro script e h
    rcases hrun : runWith print script st with ⟨e', st'⟩
    rw [hrun] at h
    obtain rfl : e' = some e := h
    obtain ⟨before, line, after, reached, fault, hlines, hbefore, hline, he⟩ := steps_eq_error hrun
    have hfault : (step print line reached).1 = .error fault := congrArg Prod.fst hline
    have hafter : (step print line reached).2 = st' := congrArg Prod.snd hline
    refine ⟨before, line, after, reached, fault, hlines, hbefore, hfault, ?_, ?_, ?_⟩
    · rw [he, Nat.add_comm]
    · intro later
      rw [steps_append, hbefore]
      simp only [steps, hline]
      rw [← he]
    · rw [← hafter]
      obtain ⟨hplan, hout⟩ := step_of_error hfault
      exact ⟨hplan, hout, fun hp => step_of_error_of_isWhole hp hfault⟩

/-- By the theorem, a quote that is not closed in the third line leaves what two lines did. -/
theorem failing_script_leaves_what_was_before_openQuote :
    let print := Printed.printer .kept
    let script := "<< one\nall: a\nall: b \"c\n<< two\n"
    let after := runWith print script ({}, {})
    after.1 = some (.parse (some 3) (.openQuote "b \"c")) ∧ print.IsWhole ∧
      after.2.1.graph.dependenciesOf "all" = ["a"] ∧ after.2.2.kept = "one\n" ∧
      ∃ before line rest, lines script = before ++ line :: rest ∧
        steps print 1 before ({}, {}) = (none, after.2) := by
  intro print script after
  have herror : after.1 = some (.parse (some 3) (.openQuote "b \"c")) := by decide +kernel
  have hwhole : print.IsWhole := Printed.isWhole_emit .kept
  obtain ⟨before, line, rest, reached, fault, hlines, hbefore, -, -, -, -, -, hreached⟩ :=
    (failing_script_leaves_what_was_before print ({}, {})).2 script _ herror
  refine ⟨herror, hwhole, by decide +kernel, by decide +kernel, before, line, rest, hlines, ?_⟩
  rw [hbefore, ← hreached hwhole]

/-- A message fails after a part of it, and the part stays printed. So what there is in the end is
not what any lines before the message have left. -/
theorem failed_message_stays_in_part :
    let print := Printer.ofRoom 8
    let script := "<< hello\n<< world\nall: a\n"
    let after := runWith print script ({}, "")
    after.1 = some (.file "<output>" .noSpace) ∧ after.2.2 = "hello\nwo" ∧
      ¬∃ before line rest reached fault, lines script = before ++ line :: rest ∧
        steps print 1 before ({}, "") = (none, reached) ∧
        (step print line reached).1 = .error fault ∧ after.2 = reached := by
  intro print script after
  have hafter : after.1 = some (.file "<output>" .noSpace) ∧ after.2.2 = "hello\nwo" := by
    decide +kernel
  have hlines : lines script = ["<< hello", "<< world", "all: a"] := by decide +kernel
  refine ⟨hafter.1, hafter.2, ?_⟩
  rintro ⟨before, line, rest, reached, fault, hsplit, hbefore, -, hreached⟩
  have hnever : ∀ first ∈ ["<< hello", "<< world", "all: a"].inits,
      (steps print 1 first ({}, "")).1 = none →
        (steps print 1 first ({}, "")).2.2 ≠ "hello\nwo" := by
    decide +kernel
  refine hnever before ((List.mem_inits _ _).mpr ⟨line :: rest, hsplit.symm.trans hlines⟩) ?_ ?_
  · rw [hbefore]
  · rw [hbefore, ← hreached, hafter.2]

end Script

end BuildTool
