import BuildTool.Proofs.Script.Assignment
import BuildTool.Template.Preprocess

/-!
# The environment of a template

Filling in a template calls functions, and the only call that changes the environment is one of
`env` with a name and a value:

    environment afterwards  =  environment before, with the values of these calls set in turn

The calls count up to where the template ends, however it does.

## Sections

* what one call does;
* the calls of a piece of work;
* filling in.
-/

namespace BuildTool.Template

variable {α β σ : Type}

/-! ## Environments -/

/-- The environment with these names set to these values in turn. -/
def setAll (env : Environment) (settings : List (String × String)) : Environment :=
  settings.foldl (fun env p => env.set p.1 p.2) env

/-- The last value that is set for a name. -/
def SetLast (settings : List (String × String)) (name value : String) : Prop :=
  ∃ before later, settings = before ++ (name, value) :: later ∧ name ∉ later.map Prod.fst

theorem get?_setAll_of_not_mem {settings : List (String × String)} {name : String}
    (h : name ∉ settings.map Prod.fst) (env : Environment) :
    (setAll env settings).get? name = env.get? name := by
  induction settings generalizing env with
  | nil => rfl
  | cons p rest ih =>
    rw [List.map_cons, List.mem_cons, not_or] at h
    exact (ih h.2 (env.set p.1 p.2)).trans
      ((env.bindings.get?_set p.1 p.2 name).trans (if_neg h.1))

theorem get?_setAll_of_setLast {settings : List (String × String)} {name value : String}
    (h : SetLast settings name value) (env : Environment) :
    (setAll env settings).get? name = some value := by
  obtain ⟨before, later, rfl, hlater⟩ := h
  rw [setAll, List.foldl_append, List.foldl_cons]
  exact (get?_setAll_of_not_mem hlater _).trans
    ((Bindings.get?_set _ name value name).trans (if_pos rfl))

theorem exists_setLast {settings : List (String × String)} {name : String}
    (h : name ∈ settings.map Prod.fst) : ∃ value, SetLast settings name value := by
  induction settings with
  | nil => cases h
  | cons p rest ih =>
    by_cases hrest : name ∈ rest.map Prod.fst
    · obtain ⟨value, before, later, rfl, hlater⟩ := ih hrest
      exact ⟨value, p :: before, later, rfl, hlater⟩
    · rw [List.map_cons, List.mem_cons, or_iff_left hrest] at h
      subst h
      exact ⟨p.2, [], rest, rfl, hrest⟩

/-! ## One call -/

/-- A call that was made. -/
structure Called where
  helper : Helper
  arguments : Named

def Called.setting? (c : Called) : Option (String × String) :=
  match c.helper, c.arguments.lookup "name", c.arguments.lookup "value" with
  | .env, some name, some value => some (name.asArgument, value.asArgument)
  | _, _, _ => none

/-- A step that leaves this environment as it is. -/
def Helping.Keeps (env : Environment) (m : Helping α) : Prop :=
  ∀ setting s, s.env = env → ((m.run setting).run.run s).2.env = env

namespace Helping.Keeps

variable {env : Environment}

theorem pure (a : α) : Keeps env (Pure.pure a) := fun _ _ h => h

theorem throw (e : EvalError) : Keeps env (MonadExcept.throw e : Helping α) := fun _ _ h => h

theorem read : Keeps env (MonadReader.read : Helping HelperSetting) := fun _ _ h => h

theorem set {s : HelperState} (hs : s.env = env) : Keeps env (MonadState.set s) := fun _ _ _ => hs

theorem modify {f : HelperState → HelperState} (hf : ∀ s, (f s).env = s.env) :
    Keeps env (modifyGet (fun s => ((), f s)) : Helping Unit) := fun _ s h => (hf s).trans h

theorem lift (x : Except EvalError α) : Keeps env (liftM x : Helping α) := by
  intro setting s h
  cases x <;> exact h

theorem bind {m : Helping α} {f : α → Helping β} (hm : Keeps env m) (hf : ∀ a, Keeps env (f a)) :
    Keeps env (m >>= f) := by
  intro setting s h
  have h := hm setting s h
  rw [ReaderT.run_bind, ExceptT.run_bind, StateT.run_bind]
  rcases hr : ((m.run setting).run.run s) with ⟨_ | a, s'⟩ <;> rw [hr] at h
  · exact h
  · exact hf a setting s' h

theorem get_bind {f : HelperState → Helping β} (hf : ∀ s, s.env = env → Keeps env (f s)) :
    Keeps env (MonadState.get >>= f) := fun setting s h => hf s h setting s h

end Helping.Keeps

section

variable {env : Environment}

open Helping.Keeps

/-- A program that runs gets the environment but cannot change it. -/
theorem runProgram_keeps (must : Bool) (program : String) (arguments : List String) :
    Helping.Keeps env (runProgram must program arguments) := by
  refine get_bind fun s hs => bind read fun setting => ?_
  refine bind (set hs) fun _ => ?_
  split
  · split
    · exact bind (modify fun _ => rfl) fun _ => throw _
    · exact pure _
  · exact pure _

/-- All functions but `env` leave the environment alone. -/
theorem call_keeps {h : Helper} (hne : h ≠ .env) (arguments : Named) :
    Helping.Keeps env (h.call arguments) := by
  unfold Helper.call
  cases h with
  | env => exact absurd rfl hne
  | exec | mustExec => exact bind (lift _) fun program => runProgram_keeps _ program _
  | ok => exact get_bind fun s _ => pure _
  | date =>
    simp only
    split
    · exact throw _
    · refine get_bind fun s _ => ?_
      split
      · exact pure _
      · exact throw _
  | split => exact bind (lift _) fun text => pure _
  | join => exact bind (lift _) fun items => pure _
  | glob =>
    exact bind (lift _) fun patterns => get_bind fun s _ => bind read fun setting => pure _
  | replace => exact bind (lift _) fun pattern => bind (lift _) fun replacement => pure _
  | range => exact lift _
  | raise =>
    refine bind (lift _) fun message => ?_
    cases message <;> exact throw _
  | processEnv =>
    refine bind (lift _) fun name => ?_
    rcases name with _ | name
    · exact throw _
    · refine bind read fun setting => ?_
      split
      · exact pure _
      · exact pure _
      · exact throw _
  | now => exact get_bind fun s _ => lift _
  | random => exact lift _

end

/-- Of all functions only `env` changes the environment, and only with a name and a value. -/
theorem answer_env (setting : HelperSetting) (h : Helper) (arguments : Named) (s : HelperState) :
    (h.answer setting arguments s).2.env =
      setAll s.env (Called.mk h arguments).setting?.toList := by
  by_cases henv : h = .env
  · subst henv
    simp only [Helper.answer, Helper.call, useEnvironment, Called.setting?]
    rcases arguments.lookup "name" with _ | name
    · rfl
    · rcases arguments.lookup "value" with _ | value <;> rfl
  · have hnone : (Called.mk h arguments).setting? = none := by
      cases h <;> first | rfl | exact absurd rfl henv
    rw [hnone]
    exact call_keeps henv arguments setting s rfl

/-! ## The calls of a piece of work -/

namespace Calling

/-- The calls that are made, in turn. -/
def calls (answer : Helper → Named → σ → Except EvalError Value × σ) :
    Calling α → σ → List Called
  | .done _, _ => []
  | .call h arguments next, s =>
    ⟨h, arguments⟩ :: (next (answer h arguments s).1).calls answer (answer h arguments s).2

/-- What is left of the environment is what the calls make of it, one after the other. -/
theorem run_env (setting : HelperSetting) (work : Calling α) (s : HelperState) :
    (work.run (Helper.answer setting) s).2.env =
      setAll s.env ((work.calls (Helper.answer setting) s).filterMap Called.setting?) := by
  induction work generalizing s with
  | done a => rfl
  | call h arguments next ih =>
    rw [run, ih, answer_env, calls, List.filterMap_cons]
    rcases (Called.mk h arguments).setting? with _ | p <;> rfl

end Calling

/-! ## Filling in -/

/-- The calls that are made to fill in a script; none if it is not a template or something is
missing for it. -/
def callsIn (source : String) (s : Surroundings) (disk : Disk) : List Called :=
  match Document.parse? (rewriteLookups source) with
  | none => []
  | some d =>
    match d.missing? with
    | some _ => []
    | none => (filling d s).calls (Helper.answer s.setting) (s.start disk)

/-- What these calls set, in turn. -/
def settingsIn (source : String) (s : Surroundings) (disk : Disk) : List (String × String) :=
  (callsIn source s disk).filterMap Called.setting?

theorem preprocess_env (source : String) (s : Surroundings) (disk : Disk) :
    (preprocess source s disk).2.1 = setAll s.env (settingsIn source s disk) := by
  unfold preprocess settingsIn callsIn
  rcases Document.parse? (rewriteLookups source) with _ | d
  · rfl
  · rcases hm : d.missing? with _ | problem
    · simp only [hm]
      exact Calling.run_env s.setting (filling d s) (s.start disk)
    · simp only [hm]
      rfl

/-- Whatever the outcome, the environment that comes back has all names of the one that was lent.
A name that was set while filling in has the value that it was set to last, and any other name has
its old value, so a value that is new or different was set last. -/
theorem environment_comes_back (source : String) (s : Surroundings) (disk : Disk)
    (name : String) :
    let after := (preprocess source s disk).2.1
    let settings := settingsIn source s disk
    (s.env.get? name ≠ none → after.get? name ≠ none) ∧
      (after.get? name ≠ s.env.get? name →
        ∃ value, SetLast settings name value ∧ after.get? name = some value) ∧
      (∀ value, SetLast settings name value → after.get? name = some value) ∧
      (name ∉ settings.map Prod.fst → after.get? name = s.env.get? name) := by
  intro after settings
  have hafter : after = setAll s.env settings := preprocess_env source s disk
  rw [hafter]
  have hlast := fun value (h : SetLast settings name value) => get?_setAll_of_setLast h s.env
  have hkept := fun h : name ∉ settings.map Prod.fst => get?_setAll_of_not_mem h s.env
  refine ⟨fun hset => ?_, fun hne => ?_, hlast, hkept⟩
  · by_cases hmem : name ∈ settings.map Prod.fst
    · obtain ⟨value, hvalue⟩ := exists_setLast hmem
      rw [hlast value hvalue]
      exact Option.some_ne_none value
    · rw [hkept hmem]
      exact hset
  · obtain ⟨value, hvalue⟩ := exists_setLast (not_imp_comm.1 hkept hne)
    exact ⟨value, hvalue, hlast value hvalue⟩

/-- By the theorem, a template that fails leaves what it has set up to there, and the rest of the
environment. -/
theorem environment_comes_back_failing :
    let source := "\x7b\x7b env(name=\"A\",value=1) ~ env(name=\"A\",value=2) ~ " ++
      "throw(message=env.A) \x7d\x7d"
    let s : Surroundings := { vars := {}, env := ⟨⟨[("A", "0"), ("K", "k")]⟩⟩, baseDir := "." }
    let after := (preprocess source s (Disk.setUp 0)).2.1
    (preprocess source s (Disk.setUp 0)).1.isOk = false ∧
      settingsIn source s (Disk.setUp 0) = [("A", "1"), ("A", "2")] ∧
      after.get? "K" ≠ none ∧ after.get? "K" = s.env.get? "K" ∧ after.get? "A" = some "2" ∧
      ∃ value, SetLast (settingsIn source s (Disk.setUp 0)) "A" value ∧
        after.get? "A" = some value := by
  intro source s after
  have hout : (preprocess source s (Disk.setUp 0)).1.isOk = false ∧
      settingsIn source s (Disk.setUp 0) = [("A", "1"), ("A", "2")] ∧
      after.get? "A" ≠ s.env.get? "A" := by
    decide +kernel
  have hkept := environment_comes_back source s (Disk.setUp 0) "K"
  have hlast := environment_comes_back source s (Disk.setUp 0) "A"
  refine ⟨hout.1, hout.2.1, hkept.1 (by decide +kernel), hkept.2.2.2 ?_, hlast.2.2.1 "2" ?_,
    hlast.2.1 hout.2.2⟩
  · rw [hout.2.1]
    decide +kernel
  · rw [hout.2.1]
    exact ⟨[("A", "1")], [], rfl, by decide⟩

end BuildTool.Template
