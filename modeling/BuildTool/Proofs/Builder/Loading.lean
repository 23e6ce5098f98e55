import BuildTool.Builder
import BuildTool.Proofs.Script.Failure
import BuildTool.Proofs.Script.Requirement

/-!
# Loading step by step

A script that is not there, or that requires another version of the tool, is refused before its
text is filled in or carried out. Nothing else refuses a script: the text can only fail by what it
says, and a requirement is looked for on the first line alone.

    refused     load b w = (error, b, w)
    not         load b w = loadText source b w

Then the text is filled in as a template and carried out as a script. Each of the two steps may
fail, and the load fails as the first of them that does.

    loadText source b w
      preprocess source (surroundings b w)     the script, the environment and the disk
      runWith (printer sink) script            the plan and what is printed
-/

namespace BuildTool.Builder

/-- What the template of a script is filled in with. -/
def surroundings (b : Builder) (w : Workspace) : Template.Surroundings where
  vars := .withBuiltins b.session.toolVersion
  env := b.session.env
  baseDir := b.session.baseDir
  processEnvironment := w.environment

def plan (b : Builder) : Plan where
  graph := b.graph
  vars := b.vars
  env := b.session.env

/-- The plan that a script begins with. -/
def startPlan (b : Builder) (env : Environment) : Plan where
  graph := { targets := [], nodup_names := List.nodup_nil }
  vars := .withBuiltins b.session.toolVersion
  env := env

def withPlan (b : Builder) (plan : Plan) : Builder :=
  { b with graph := plan.graph, vars := plan.vars, session := { b.session with env := plan.env } }

@[simp] theorem withPlan_config (b : Builder) (plan : Plan) :
    (b.withPlan plan).config = b.config := rfl

@[simp] theorem withPlan_session (b : Builder) (plan : Plan) :
    (b.withPlan plan).session = { b.session with env := plan.env } := rfl

@[simp] theorem withPlan_graph (b : Builder) (plan : Plan) :
    (b.withPlan plan).graph = plan.graph := rfl

@[simp] theorem withPlan_vars (b : Builder) (plan : Plan) :
    (b.withPlan plan).vars = plan.vars := rfl

/-- The workspace in which a script is carried out that has been filled in: if asked for, the script
is shown before. -/
def shown (b : Builder) (script : String) (w : Workspace) : Workspace :=
  if b.config.veryVerbose then
    w.note b.session.logger ("expanded " ++ b.config.buildFilePath ++ ":\n" ++ script)
  else w

/-- What is told of a script that was carried out. -/
def loadedNote (b : Builder) : String :=
  "loaded " ++ toString b.graph.size ++ " targets from " ++ b.config.buildFilePath

variable {b : Builder} {source script : String} {w : Workspace} {env : Environment} {disk : Disk}
  {e : BuildError} {after : Plan} {printed : Printed}

theorem loadText_of_preprocess_error
    (h : Template.preprocess source (b.surroundings w) w.disk = (.error e, env, disk)) :
    b.loadText source w = (.error e, b.withPlan (b.startPlan env), w.withDisk disk) := by
  unfold surroundings at h
  unfold loadText
  dsimp only
  rw [h]
  rfl

theorem loadText_of_preprocess_ok
    (h : Template.preprocess source (b.surroundings w) w.disk = (.ok script, env, disk)) :
    b.loadText source w =
      (b.withPlan (b.startPlan env)).runScript script (b.shown script (w.withDisk disk)) := by
  unfold surroundings at h
  unfold loadText
  dsimp only
  rw [h]
  rfl

theorem runScript_of_error
    (h : Script.runWith (Printed.printer b.session.sink) script (b.plan, w.printed) =
      (some e, after, printed)) :
    b.runScript script w = (.error e, b.withPlan after, { w with printed }) := by
  unfold Builder.plan Printed.printer at h
  unfold runScript Script.run
  dsimp only
  rw [h]
  rfl

theorem runScript_of_ok
    (h : Script.runWith (Printed.printer b.session.sink) script (b.plan, w.printed) =
      (none, after, printed)) :
    b.runScript script w =
      (.ok (), b.withPlan after,
        { w with printed }.note b.session.logger (b.withPlan after).loadedNote) := by
  unfold Builder.plan Printed.printer at h
  unfold runScript Script.run
  dsimp only
  rw [h]
  rfl

end BuildTool.Builder

namespace BuildTool

/-- The error refuses a script before anything is done with its text. -/
inductive BuildError.IsRefusal : BuildError → Prop
  | missing (path : String) : IsRefusal (.missingBuildFile path)
  | incompatible (cause : RequirementError) : IsRefusal (.versionIncompatible cause)

/-! ## Errors of a text -/

theorem Template.not_isRefusal_preprocess {source : String} {s : Surroundings} {disk : Disk}
    {e : BuildError} (h : (preprocess source s disk).1 = .error e) : ¬ e.IsRefusal := by
  unfold preprocess at h
  split at h
  · cases h
    nofun
  · split at h
    · cases h
      nofun
    · split at h
      simp only at h
      split at h
      · cases h
      · split at h <;> (cases h; nofun)

namespace Script

variable {σ : Type} {print : Printer σ}

/-- A line fails by its text, or because a message cannot be printed. -/
theorem not_isRefusal_step
    (hprint : ∀ message out e, (print message out).1 = .error e → ¬ e.IsRefusal) {line : String}
    {st : Plan × σ} {e : BuildError} (h : (step print line st).1 = .error e) : ¬ e.IsRefusal := by
  obtain ⟨plan, out⟩ := st
  rcases hs : Statement.ofLine line with _ | (_ | message | ⟨left, operator, right⟩) <;>
    simp only [step, hs] at h
  · cases h
    rintro ⟨⟩
  · cases h
  · exact hprint _ _ e h
  · rcases Plan.relate_eq_error h with ⟨text, rfl⟩ | ⟨context, rfl⟩ <;> rintro ⟨⟩

theorem not_isRefusal_runWith
    (hprint : ∀ message out e, (print message out).1 = .error e → ¬ e.IsRefusal) {script : String}
    {st : Plan × σ} {e : BuildError} (h : (runWith print script st).1 = some e) :
    ¬ e.IsRefusal := by
  obtain ⟨_, line, _, reached, fault, -, -, hline, rfl⟩ := steps_eq_error (Prod.ext h rfl)
  have hfault := not_isRefusal_step hprint (congrArg Prod.fst hline)
  unfold atLine
  split
  · nofun
  · exact hfault

end Script

theorem Printed.not_isRefusal_printer {sink : SinkKind} (message : String) (printed : Printed)
    (e : BuildError) (h : (printer sink message printed).1 = .error e) : ¬ e.IsRefusal := by
  simp only [printer, Printer.ofSay, emit] at h
  split at h
  · cases h
  · next hemit =>
    split at hemit
    · cases hemit
    · cases hemit
      cases h
      nofun

namespace Builder

theorem not_isRefusal_loadText {b : Builder} {source : String} {w : Workspace} {e : BuildError}
    (h : (b.loadText source w).1 = .error e) : ¬ e.IsRefusal := by
  rcases hfilled : Template.preprocess source (b.surroundings w) w.disk with
    ⟨e' | script, env, disk⟩
  · rw [loadText_of_preprocess_error hfilled] at h
    cases h
    exact Template.not_isRefusal_preprocess (congrArg Prod.fst hfilled)
  · rw [loadText_of_preprocess_ok hfilled] at h
    generalize b.withPlan (b.startPlan env) = b', b.shown script (w.withDisk disk) = w' at h
    rcases hrun : Script.runWith (Printed.printer b'.session.sink) script (b'.plan, w'.printed) with
      ⟨_ | e', after, printed⟩
    · rw [runScript_of_ok hrun] at h
      cases h
    · rw [runScript_of_error hrun] at h
      cases h
      exact Script.not_isRefusal_runWith Printed.not_isRefusal_printer (congrArg Prod.fst hrun)

/-! ## Refusing -/

open Requirement

/-- A script whose first line asks for a version that the tool does not meet, in whatever way, is
refused, and so is one that is not there. Then builder and workspace are what they were: no target,
variable or environment entry has changed, nothing is printed and no function of a template has been
called. No text is refused for what stands behind its first line. -/
theorem load_refuses_before_effects (b : Builder) (w : Workspace) :
    (∀ source required, b.readScript w = .ok source → Declares source required →
      ¬ IsMetBy required b.session.toolVersion →
        ∃ cause, b.load w = (.error (.versionIncompatible cause), b, w)) ∧
    (Disk.hasZero b.config.buildFilePath = false →
      w.disk.readFile b.config.buildFilePath = .error .notFound →
        b.load w = (.error (.missingBuildFile b.config.buildFilePath), b, w)) ∧
    (∀ e, e.IsRefusal → (b.load w).1 = .error e → (b.load w).2 = (b, w)) ∧
    ∀ source, b.readScript w = .ok source → (∀ required, ¬ Declares source required) →
      b.load w = b.loadText source w ∧
        ∀ cause, (b.load w).1 ≠ .error (.versionIncompatible cause) := by
  refine ⟨?_, ?_, ?_, ?_⟩
  · intro source required hread hdeclares hunmet
    have hcheck : check source b.session.toolVersion ≠ .ok () :=
      fun h => hunmet (check_eq_ok_iff.mp h required hdeclares)
    rcases hresult : check source b.session.toolVersion with cause | _
    · exact ⟨cause, by simp only [load, hread, hresult]⟩
    · exact absurd hresult hcheck
  · intro hzero hmissing
    have hread : b.readScript w = .error (.missingBuildFile b.config.buildFilePath) := by
      simp [readScript, hzero, hmissing]
    simp only [load, hread]
  · intro e hrefusal he
    unfold load at he ⊢
    split
    · rfl
    · next source hread =>
      simp only [hread] at he
      split
      · rfl
      · next hcheck =>
        simp only [hcheck] at he
        exact absurd hrefusal (not_isRefusal_loadText he)
  · intro source hread hnone
    have hcheck : check source b.session.toolVersion = .ok () :=
      check_eq_ok_iff.mpr fun required hdeclares => absurd hdeclares (hnone required)
    have hload : b.load w = b.loadText source w := by
      simp only [load, hread, hcheck]
    refine ⟨hload, fun cause he => ?_⟩
    rw [hload] at he
    exact not_isRefusal_loadText he (.incompatible cause)

/-- By the theorem, a builder that has targets from before is left with them by a script that asks
for a later version, by one that cannot be read as asking for any, and by none; a directive on a
second line refuses nothing. -/
theorem load_refuses_before_effects_changed :
    let holding (text : String) : Workspace :=
      { disk := ((Disk.setUp 0).writeFile "byggfil" text.toUTF8 false).toOption.getD (.setUp 0) }
    let b : Builder :=
      { config := {}, session := { toolVersion := "v1.9.0" },
        graph := ({} : Graph).update "old" fun t => { t with dependencies := ["a"] } }
    let later := holding "##\t# bygg: at least ^2.0.0\r\n<< parsed\nA:\n"
    let unclear := holding "##bygg: 1.0.0\n"
    let second := holding "A:\n## bygg: ^2.0.0\n"
    (∃ cause, b.load later = (.error (.versionIncompatible cause), b, later)) ∧
      (∃ cause, b.load unclear = (.error (.versionIncompatible cause), b, unclear)) ∧
      b.load { disk := .setUp 0 } =
        (.error (.missingBuildFile "./byggfil"), b, { disk := .setUp 0 }) ∧
      b.load second = b.loadText "A:\n## bygg: ^2.0.0\n" second := by
  intro holding b later unclear second
  have refused : ∀ (w : Workspace) (source required : String), b.readScript w = .ok source →
      Requirement.declared? source = some required →
      Requirement.isMet required b.session.toolVersion ≠ .ok true →
        ∃ cause, b.load w = (.error (.versionIncompatible cause), b, w) := by
    intro w source required hread hdeclared hunmet
    exact (load_refuses_before_effects b w).1 source required hread
      (declared?_eq_some_iff.mp hdeclared) fun h => hunmet (isMet_eq_ok_true_iff.mpr h)
  refine ⟨?_, ?_, ?_, ?_⟩
  · exact refused later "##\t# bygg: at least ^2.0.0\r\n<< parsed\nA:\n" "at least ^2.0.0"
      (by decide +kernel) (by decide +kernel) (by decide +kernel)
  · exact refused unclear "##bygg: 1.0.0\n" "1.0.0"
      (by decide +kernel) (by decide +kernel) (by decide +kernel)
  · have hpath : b.config.buildFilePath = "./byggfil" := by decide +kernel
    rw [← hpath]
    exact (load_refuses_before_effects b { disk := .setUp 0 }).2.1
      (by decide +kernel) (by decide +kernel)
  · have hnone : Requirement.declared? "A:\n## bygg: ^2.0.0\n" = none := by decide +kernel
    refine ((load_refuses_before_effects b second).2.2.2 "A:\n## bygg: ^2.0.0\n"
      (by decide +kernel) fun required hdeclares => ?_).1
    rw [← declared?_eq_some_iff, hnone] at hdeclares
    cases hdeclares

end Builder

end BuildTool
