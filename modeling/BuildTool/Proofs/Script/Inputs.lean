import BuildTool.Proofs.Script.Growth

/-!
# What a script takes from the environment

A line takes the environment entries that its references read, and an appending line takes the one
that it appends to. An input of a script is an entry that a line takes before a line has set it.

    x = ${env.A}        takes A
    env.B += text       takes B and sets it
    << ${env.B}         takes B, which is set by now

Two runs from environments that agree on the inputs do the same, and afterwards the environments
agree on all entries on which they did before and on all that have been set.
-/

namespace BuildTool

variable {σ : Type}

/-! ## References -/

namespace Reference

/-- The environment entry that a reference is to. -/
def entry? (reference : String) : Option String :=
  match Text.cutChar? '.' (Text.trimBoth (fun c => c == ' ' || c == '\t') reference.toList) with
  | some (context, entry) => if context = "env".toList then some (String.ofList entry) else none
  | none => none

/-- The environment entries that the references in a text are to. -/
def entries (text : String) : List String :=
  (pieces text.toList).filterMap fun
    | .char _ => none
    | .reference name => entry? (String.ofList name)

theorem lookupReference_congr {env env' : Environment} {reference : String} (vars : Variables)
    (h : ∀ n ∈ entry? reference, env'.get? n = env.get? n) :
    lookupReference vars env' reference = lookupReference vars env reference := by
  unfold lookupReference
  unfold entry? at h
  dsimp only
  split
  · next context entry hcut =>
    rw [hcut] at h
    split
    · next hcontext => rw [h (String.ofList entry) (if_pos hcontext)]
    · rfl
  · rfl

theorem expand_congr {env env' : Environment} {text : String} (vars : Variables)
    (h : ∀ n ∈ entries text, env'.get? n = env.get? n) :
    expand vars env' text = expand vars env text := by
  rw [expand, expand, substitute, substitute]
  refine congrArg String.ofList (List.flatMap_congr fun piece hpiece => ?_)
  cases piece with
  | char c => rfl
  | reference name =>
    refine congrArg String.toList (lookupReference_congr vars fun n hn => h n ?_)
    exact List.mem_filterMap.mpr ⟨_, hpiece, hn⟩

end Reference

/-! ## States that differ in the environment -/

/-- Printing does the same to outputs that are related. -/
def Printer.Keeps (print : Printer σ) (R : σ → σ → Prop) : Prop :=
  ∀ message out out', R out out' → (print message out').1 = (print message out).1 ∧
    R (print message out).2 (print message out').2

/-- Two plans that differ in the environment at most, and there agree on these entries. -/
structure Plan.Alike (Same : String → Prop) (plan plan' : Plan) : Prop where
  graph : plan'.graph = plan.graph
  vars : plan'.vars = plan.vars
  env : ∀ name, Same name → plan'.env.get? name = plan.env.get? name

namespace Plan.Alike

variable {Same : String → Prop} {plan plan' : Plan}

theorem mono {Same' : String → Prop} (h : Alike Same plan plan')
    (hsame : ∀ name, Same' name → Same name) : Alike Same' plan plan' :=
  ⟨h.graph, h.vars, fun name hname => h.env name (hsame name hname)⟩

theorem expand_eq (h : Alike Same plan plan') {text : String}
    (htext : ∀ n ∈ Reference.entries text, Same n) : plan'.expand text = plan.expand text := by
  rw [Plan.expand, Plan.expand, h.vars]
  exact Reference.expand_congr plan.vars fun n hn => h.env n (htext n hn)

/-- A value that is put into both makes them agree on it. -/
theorem put (h : Alike Same plan plan') (name value : String) (store : Store) :
    Alike (fun n => Same n ∨ Thing.value store name = .value .env n) (plan.put name value store)
      (plan'.put name value store) := by
  refine ⟨?_, ?_, ?_⟩
  · rw [graph_put, graph_put, h.graph]
  · cases store with
    | vars => exact congrArg (·.assign name value) h.vars
    | env => exact h.vars
  · intro n hn
    have hvalue := fun plan : Plan => plan.value?_put name value store .env n
    simp only [value?] at hvalue
    rw [hvalue, hvalue]
    split
    · rfl
    · next hother =>
      rcases hn with hn | hn
      · exact h.env n hn
      · cases hn
        exact absurd ⟨rfl, rfl⟩ hother

theorem update (h : Alike Same plan plan') (name : String) (change : Target → Target) :
    Alike Same { plan with graph := plan.graph.update name change }
      { plan' with graph := plan'.graph.update name change } :=
  ⟨by rw [h.graph], h.vars, h.env⟩

/-- An assignment does the same to both if they agree on the entry that it appends to. -/
theorem assign (h : Alike Same plan plan') (left value : String) (append : Bool)
    (htaken : append = true → ∀ name, Store.named? left = some (.env, name) → Same name) :
    (plan'.assign left value append).1 = (plan.assign left value append).1 ∧
      Alike (fun n => Same n ∨
          (Store.named? left).map (fun p => Thing.value p.1 p.2) = some (.value .env n))
        (plan.assign left value append).2 (plan'.assign left value append).2 := by
  constructor
  · unfold Plan.assign
    split
    · split <;> rfl
    · rfl
  · rw [assign_eq, assign_eq]
    rcases hn : Store.named? left with _ | ⟨store, name⟩
    · exact h.mono fun n hn => by simpa using hn
    · have hvalue : store.assigned append (plan'.value? store name) value =
          store.assigned append (plan.value? store name) value := by
        cases append with
        | false => cases store <;> rfl
        | true =>
          cases store with
          | vars => rw [value?, value?, h.vars]
          | env => rw [value?, value?, h.env name (htaken rfl name hn)]
      simp only [hvalue]
      exact (h.put name _ store).mono fun n hn => by simpa using hn

/-- A statement does the same to both if they agree on the entry that it appends to. -/
theorem relate (h : Alike Same plan plan') (left right : String) (operator : Operator)
    (htaken : operator = .append → ∀ name, Store.named? left = some (.env, name) → Same name) :
    (plan'.relate left operator right).1 = (plan.relate left operator right).1 ∧
      Alike (fun n => Same n ∨ operator.thing? left = some (.value .env n))
        (plan.relate left operator right).2 (plan'.relate left operator right).2 := by
  have htarget : operator.isOfTarget = true → ∀ n,
      (Same n ∨ operator.thing? left = some (.value .env n)) → Same n := by
    rintro hop n (hn | hn)
    · exact hn
    · rw [Operator.thing?, if_pos hop] at hn
      cases hn
  cases operator with
  | assign => exact h.assign left right false (fun hfalse => absurd hfalse Bool.false_ne_true)
  | append => exact h.assign left right true fun _ => htaken rfl
  | depends =>
    simp only [Plan.relate, declare]
    split
    · exact ⟨rfl, h.mono (htarget rfl)⟩
    · exact ⟨rfl, (h.update _ _).mono (htarget rfl)⟩
  | command | message => exact ⟨rfl, (h.update _ _).mono (htarget rfl)⟩

end Plan.Alike

namespace Script

/-! ## Inputs -/

/-- The environment entries that a line takes. -/
def takes (line : String) (plan : Plan) : List String :=
  match Statement.ofLine line with
  | .error _ => []
  | .ok .nothing => []
  | .ok (.say message) => Reference.entries message
  | .ok (.relate left operator right) =>
    Reference.entries left ++ Reference.entries right ++
      match operator, Store.named? (plan.expand left) with
      | .append, some (.env, name) => [name]
      | _, _ => []

/-- The environment entries that lines take before they have set them. -/
def inputs (print : Printer σ) : List String → Plan × σ → List String
  | [], _ => []
  | line :: rest, st =>
    takes line st.1 ++
      match step print line st with
      | (.error _, _) => []
      | (.ok (), st') => (inputs print rest st').filter fun name =>
          thing? line st.1 ≠ some (.value .env name)

/-! ## Runs from environments that agree -/

variable {print : Printer σ} {R : σ → σ → Prop} (hprint : print.Keeps R) {Same : String → Prop}
  {st st' : Plan × σ}
include hprint

/-- A line does the same in both states if they agree on what it takes. -/
theorem step_alike {line : String} (h : st.1.Alike Same st'.1) (hout : R st.2 st'.2)
    (htaken : ∀ n ∈ takes line st.1, Same n) :
    (step print line st').1 = (step print line st).1 ∧
      (step print line st).2.1.Alike (fun n => Same n ∨ thing? line st.1 = some (.value .env n))
        (step print line st').2.1 ∧
      R (step print line st).2.2 (step print line st').2.2 := by
  obtain ⟨plan, out⟩ := st
  obtain ⟨plan', out'⟩ := st'
  have hsame : plan.Alike (fun n => Same n ∨ (none : Option Thing) = some (.value .env n)) plan' :=
    h.mono (by simp)
  rcases hs : Statement.ofLine line with fault | (_ | message | ⟨left, operator, right⟩) <;>
    simp only [takes, step, thing?, hs] at htaken ⊢
  · exact ⟨trivial, hsame, hout⟩
  · exact ⟨trivial, hsame, hout⟩
  · rw [h.expand_eq htaken]
    obtain ⟨hresult, hafter⟩ := hprint (plan.expand message) out out' hout
    exact ⟨hresult, h.mono (by simp), hafter⟩
  · simp only [List.mem_append] at htaken
    rw [h.expand_eq fun n hn => htaken n (.inl (.inl hn)),
      h.expand_eq fun n hn => htaken n (.inl (.inr hn))]
    have happended : operator = .append →
        ∀ name, Store.named? (plan.expand left) = some (.env, name) → Same name := by
      rintro rfl name hname
      refine htaken name (.inr ?_)
      rw [hname]
      exact List.mem_singleton_self name
    obtain ⟨hresult, hafter⟩ := h.relate (plan.expand left) (plan.expand right) operator happended
    exact ⟨hresult, hafter, hout⟩

/-- Lines do the same in both states if these agree on the inputs. -/
theorem steps_alike (number : Nat) (lines : List String) (h : st.1.Alike Same st'.1)
    (hout : R st.2 st'.2) (hinputs : ∀ n ∈ inputs print lines st, Same n) :
    (steps print number lines st').1 = (steps print number lines st).1 ∧
      (steps print number lines st).2.1.Alike
        (fun n => Same n ∨ Thing.value .env n ∈ things print lines st)
        (steps print number lines st').2.1 ∧
      R (steps print number lines st).2.2 (steps print number lines st').2.2 := by
  induction lines generalizing number st st' Same with
  | nil => exact ⟨rfl, h.mono (by simp [things]), hout⟩
  | cons line rest ih =>
    simp only [inputs, List.mem_append] at hinputs
    obtain ⟨hresult, hafter, hout⟩ :=
      step_alike hprint h hout fun n hn => hinputs n (.inl hn)
    simp only [steps, things]
    rcases hs : step print line st with ⟨e | _, reached⟩ <;>
      rcases hs' : step print line st' with ⟨e' | _, reached'⟩ <;>
      simp only [hs, hs'] at hresult hafter hout hinputs ⊢
    · cases hresult
      exact ⟨rfl, hafter.mono (by simp), hout⟩
    · cases hresult
    · cases hresult
    · have hrest : ∀ n ∈ inputs print rest reached,
          Same n ∨ thing? line st.1 = some (.value .env n) := by
        intro n hn
        by_cases hset : thing? line st.1 = some (.value .env n)
        · exact .inr hset
        · exact .inl (hinputs n (.inr (List.mem_filter.mpr ⟨hn, by simpa using hset⟩)))
      obtain ⟨hresult, hafter, hout⟩ := ih (number + 1) hafter hout hrest
      exact ⟨hresult, hafter.mono fun n hn => by simpa [or_assoc] using hn, hout⟩

end Script

end BuildTool
