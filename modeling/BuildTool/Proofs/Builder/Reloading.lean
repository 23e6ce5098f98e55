import BuildTool.Proofs.Builder.Loading
import BuildTool.Proofs.Script.Inputs
import BuildTool.Proofs.Template.Plain

/-!
# Loading again

A load begins with no targets and with the variables that every script starts with, but with the
environment that the builder has, which an earlier load of the same script has changed:

    load        env.X += a        X = a
    load        env.X += a        X = a a

So what a second load gives is what the first one would have given in that environment. It is the
same if the first load left its inputs as they were, the entries that the script takes before it
sets them.
-/

namespace BuildTool

/-! ## Messages -/

/-- What has been printed, with a text behind it in a sink. -/
def Printed.added (p : Printed) (sink : SinkKind) (text : String) : Printed :=
  match sink with
  | .kept => { p with kept := p.kept ++ text }
  | .standard => { p with standard := p.standard ++ text }
  | .full => p

theorem Printed.added_empty (p : Printed) (sink : SinkKind) : p.added sink "" = p := by
  cases sink <;> simp [added]

theorem Printed.added_added (p : Printed) (sink : SinkKind) (text text' : String) :
    (p.added sink text).added sink text' = p.added sink (text ++ text') := by
  cases sink <;> simp [added, String.append_assoc]

/-- The same text has been printed behind two others. -/
def Printed.SameBehind (sink : SinkKind) (p p' q q' : Printed) : Prop :=
  ∃ text, q = p.added sink text ∧ q' = p'.added sink text

theorem Printed.printer_eq (sink : SinkKind) (message : String) (p : Printed) :
    printer sink message p =
      if sink = .full then (.error (.file "<output>" .noSpace), p)
      else (.ok (), p.added sink (message ++ "\n")) := by
  cases sink with
  | kept => rfl
  | standard => rfl
  | full => simp [printer, Printer.ofSay, emit, line, write]

theorem Printed.printer_keeps (sink : SinkKind) (p p' : Printed) :
    (printer sink).Keeps (SameBehind sink p p') := by
  rintro message _ _ ⟨text, rfl, rfl⟩
  rw [printer_eq, printer_eq]
  split
  · exact ⟨rfl, text, rfl, rfl⟩
  · exact ⟨rfl, text ++ (message ++ "\n"), added_added .., added_added ..⟩

/-- A script does the same again from an environment that agrees on its inputs with the one that it
was carried out in, and then the environments agree on what has been changed as well. -/
theorem Printed.runWith_again {sink : SinkKind} {script : String} {plan plan' after : Plan}
    {p printed : Printed} {Same : String → Prop}
    (hrun : Script.runWith (printer sink) script (plan, p) = (none, after, printed))
    (h : plan.Alike Same plan')
    (hinputs : ∀ n ∈ Script.inputs (printer sink) (Script.lines script) (plan, p), Same n)
    (p' : Printed) :
    ∃ after' messages, printed = p.added sink messages ∧
      Script.runWith (printer sink) script (plan', p') = (none, after', p'.added sink messages) ∧
      after.Alike (fun n => Same n ∨ after.env.get? n ≠ plan.env.get? n) after' := by
  have hnothing : SameBehind sink p p' p p' :=
    ⟨"", (added_empty p sink).symm, (added_empty p' sink).symm⟩
  have halike : ((plan, p) : Plan × Printed).1.Alike Same ((plan', p') : Plan × Printed).1 := h
  obtain ⟨hresult, halike, messages, hprinted, hprinted'⟩ :=
    Script.steps_alike (printer_keeps sink p p') 1 (Script.lines script) halike hnothing hinputs
  have hsame : ∀ n,
      Thing.value .env n ∉ Script.things (printer sink) (Script.lines script) (plan, p) →
      (Script.runWith (printer sink) script (plan, p)).2.1.env.get? n = plan.env.get? n :=
    fun n => Script.steps_same (printer sink) 1 (Script.lines script) (plan, p)
  rw [← Script.runWith, ← Script.runWith] at hresult halike
  rw [← Script.runWith] at hprinted hprinted'
  rw [hrun] at hresult halike hprinted hsame
  refine ⟨_, messages, hprinted, Prod.ext hresult (Prod.ext rfl hprinted'), halike.mono ?_⟩
  rintro n (hn | hn)
  · exact .inl hn
  · exact .inr (not_not.mp fun hnot => hn (hsame n hnot))

namespace Builder

/-- A builder after builds, each in any workspace. -/
inductive Used (b : Builder) : Builder → Prop
  | unused : Used b b
  | build {b' : Builder} (h : Used b b') (target : String) (w : Workspace) :
      Used b (b'.build target w).2.1

theorem Used.same {b b' : Builder} (h : Used b b') :
    b'.config = b.config ∧ b'.session = b.session := by
  induction h with
  | unused => exact ⟨rfl, rfl⟩
  | @build b' _ target w ih =>
    unfold Builder.build buildWith
    dsimp only
    exact ih

theorem loadText_congr {b b' : Builder} (hconfig : b'.config = b.config)
    (hsession : b'.session = b.session) (source : String) (w : Workspace) :
    b'.loadText source w = b.loadText source w := by
  obtain ⟨config, session, graph, vars⟩ := b
  obtain ⟨config', session', graph', vars'⟩ := b'
  dsimp only at hconfig hsession
  subst hconfig hsession
  unfold loadText
  dsimp only

def inEnvironment (b : Builder) (env : Environment) : Builder :=
  { b with session := { b.session with env } }

/-- The environment entries that a text without tags takes as a script before it sets them. -/
def inputs (b : Builder) (source : String) (w : Workspace) : List String :=
  let script := Template.joinContinued source
  Script.inputs (Printed.printer b.session.sink) (Script.lines script)
    (b.startPlan b.session.env, (b.shown script w).printed)

/-- The workspace after a load that the builder comes out of, if the script printed these
messages. -/
def told (b : Builder) (source messages : String) (w : Workspace) : Workspace :=
  let w := b.shown (Template.joinContinued source) w
  { w with printed := w.printed.added b.session.sink messages }.note b.session.logger b.loadedNote

theorem told_congr {b b' : Builder} (hconfig : b'.config = b.config)
    (hsink : b'.session.sink = b.session.sink) (hlogger : b'.session.logger = b.session.logger)
    (hgraph : b'.graph = b.graph) (source messages : String) (w : Workspace) :
    b'.told source messages w = b.told source messages w := by
  unfold told shown loadedNote
  rw [hconfig, hsink, hlogger, hgraph]

section

variable {b b₁ : Builder} {source : String} {w w₁ : Workspace}

/-- A text without tags is carried out as it is. -/
theorem loadText_of_isTagless (h : Template.IsTagless source) (b : Builder) (w : Workspace) :
    b.loadText source w = (b.withPlan (b.startPlan b.session.env)).runScript
      (Template.joinContinued source) (b.shown (Template.joinContinued source) w) :=
  loadText_of_preprocess_ok (Template.preprocess_of_isTagless h _ _)

theorem load_eq_loadText (hread : b.readScript w = .ok source)
    (hcheck : Requirement.check source b.session.toolVersion = .ok ()) :
    b.load w = b.loadText source w := by
  simp only [load, hread, hcheck]

theorem check_of_load (hread : b.readScript w = .ok source) (hload : (b.load w).1 = .ok ()) :
    Requirement.check source b.session.toolVersion = .ok () := by
  simp only [load, hread] at hload
  split at hload
  · cases hload
  · next hcheck => exact hcheck

/-- A script that is carried out to its end leaves its plan to the builder. -/
theorem loadText_of_runWith (h : Template.IsTagless source) {after : Plan} {messages : String}
    (hrun : Script.runWith (Printed.printer b.session.sink) (Template.joinContinued source)
        (b.startPlan b.session.env, (b.shown (Template.joinContinued source) w).printed) =
      (none, after, (b.shown (Template.joinContinued source) w).printed.added b.session.sink
        messages)) :
    b.loadText source w =
      (.ok (), b.withPlan after, (b.withPlan after).told source messages w) := by
  rw [loadText_of_isTagless h, runScript_of_ok hrun]
  rfl

/-- A load that the builder comes out of has carried out the script to its end. -/
theorem exists_runWith_of_loadText (h : Template.IsTagless source)
    (hload : b.loadText source w = (.ok (), b₁, w₁)) :
    ∃ after printed, Script.runWith (Printed.printer b.session.sink) (Template.joinContinued source)
        (b.startPlan b.session.env, (b.shown (Template.joinContinued source) w).printed) =
      (none, after, printed) ∧ b₁ = b.withPlan after := by
  rw [loadText_of_isTagless h] at hload
  rcases hrun : Script.runWith
      (Printed.printer (b.withPlan (b.startPlan b.session.env)).session.sink)
      (Template.joinContinued source) ((b.withPlan (b.startPlan b.session.env)).plan,
        (b.shown (Template.joinContinued source) w).printed) with ⟨_ | e, after, printed⟩
  · rw [runScript_of_ok hrun] at hload
    cases hload
    exact ⟨after, printed, hrun, rfl⟩
  · rw [runScript_of_error hrun] at hload
    cases hload

/-- A script without tags that is loaded again, after any builds, gives what it gives to a builder
that begins with the environment left by the first load. That is again the same, message by
message, if the first load left every entry that the script takes before it sets it. -/
theorem second_load_takes_environment_only (hread : b.readScript w = .ok source)
    (htagless : Template.IsTagless source) (hload : b.load w = (.ok (), b₁, w₁)) {b₂ : Builder}
    (hused : b₁.Used b₂) {w₂ : Workspace} (hsame : b₂.readScript w₂ = .ok source) :
    b₂.load w₂ = (b.inEnvironment b₁.session.env).load w₂ ∧
      ((∀ name ∈ b.inputs source w, b₁.session.env.get? name = b.session.env.get? name) →
        ∃ b₃ messages, b₂.load w₂ = (.ok (), b₃, b₁.told source messages w₂) ∧
          w₁ = b₁.told source messages w ∧
          b₃.graph = b₁.graph ∧ b₃.vars = b₁.vars ∧
          ∀ name, b₃.session.env.get? name = b₁.session.env.get? name) := by
  have hcheck := check_of_load hread (congrArg Prod.fst hload)
  have hfirst := load_eq_loadText hread hcheck
  rw [hload] at hfirst
  obtain ⟨after, printed, hrun, hb₁⟩ := exists_runWith_of_loadText htagless hfirst.symm
  obtain ⟨hconfig, hsession⟩ := hused.same
  have hconfig₁ : b₁.config = (b.inEnvironment b₁.session.env).config := by
    rw [hb₁, withPlan, inEnvironment]
  have hsession₁ : b₁.session = (b.inEnvironment b₁.session.env).session := by
    rw [hb₁, withPlan, inEnvironment]
  have hfresh : (b.inEnvironment b₁.session.env).readScript w₂ = .ok source := by
    rw [← hsame, readScript, readScript, hconfig, hconfig₁]
  have hcheck₁ : Requirement.check source (b.inEnvironment b₁.session.env).session.toolVersion =
      .ok () := hcheck
  have hcheck₂ : Requirement.check source b₂.session.toolVersion = .ok () := by
    rw [hsession, hsession₁]
    exact hcheck₁
  have hsecond := load_eq_loadText hsame hcheck₂
  refine ⟨?_, fun hinputs => ?_⟩
  · rw [hsecond, load_eq_loadText hfresh hcheck₁]
    exact loadText_congr (hconfig.trans hconfig₁) (hsession.trans hsession₁) source w₂
  · have hsink : b₂.session.sink = b.session.sink := by
      rw [hsession, hsession₁]
      rfl
    have hlogger : b₂.session.logger = b₁.session.logger := by rw [hsession]
    have hversion : b₂.session.toolVersion = b.session.toolVersion := by
      rw [hsession, hsession₁]
      rfl
    have hafterEnv : b₁.session.env = after.env := by rw [hb₁, withPlan]
    -- What the second run begins with is what the first one began with, but for the environment.
    have hstart : (b.startPlan b.session.env).Alike
        (fun name => b₁.session.env.get? name = b.session.env.get? name)
        (b₂.startPlan b₂.session.env) := by
      refine ⟨rfl, ?_, fun name hname => ?_⟩
      · rw [startPlan, startPlan, hversion]
      · rw [startPlan, startPlan, hsession]
        exact hname
    obtain ⟨after₂, messages, rfl, hrun₂, halike⟩ := Printed.runWith_again hrun hstart hinputs
      (b₂.shown (Template.joinContinued source) w₂).printed
    rw [loadText_of_runWith htagless hrun, ← hb₁] at hfirst
    rw [← hsink] at hrun₂
    have htold : (b₂.withPlan after₂).told source messages w₂ = b₁.told source messages w₂ := by
      apply told_congr
      · rw [withPlan_config, hconfig]
      · rw [withPlan_session, hsession]
      · rw [withPlan_session, hsession]
      · rw [withPlan_graph, hb₁, withPlan_graph, halike.graph]
    refine ⟨b₂.withPlan after₂, messages, ?_, ?_, ?_, ?_, ?_⟩
    · rw [hsecond, loadText_of_runWith htagless hrun₂, htold]
    · exact congrArg (·.2.2) hfirst
    · rw [withPlan_graph, hb₁, withPlan_graph, halike.graph]
    · rw [withPlan_vars, hb₁, withPlan_vars, halike.vars]
    · intro name
      rw [withPlan_session, hafterEnv]
      exact halike.env name (hafterEnv ▸ em _)

end

/-- By the theorem, a script that sets what it appends to does the same again after a build. -/
theorem second_load_takes_environment_only_reset :
    let source := "env.X = a\nenv.X += ${env.Y}\n<< ${env.X}\nall << built\n"
    let w : Workspace :=
      { disk := ((Disk.setUp 0).writeFile "byggfil" source.toUTF8 false).toOption.getD (.setUp 0) }
    let b : Builder := { config := {}, session := { sink := .kept, env := ⟨⟨[("Y", "y")]⟩⟩ } }
    let first := b.load w
    let built := first.2.1.build "all" first.2.2
    let second := built.2.1.load built.2.2
    first.1 = .ok () ∧ b.inputs source w = ["Y"] ∧ built.2.2.printed.kept = "a y\nbuilt\n" ∧
      second.1 = .ok () ∧ second.2.1.graph = first.2.1.graph ∧
      second.2.1.session.env.get? "X" = first.2.1.session.env.get? "X" ∧
      second.2.2.printed.kept = "a y\nbuilt\na y\n" := by
  intro source w b first built second
  have hrun : b.readScript w = .ok source ∧ first.1 = .ok () ∧ b.inputs source w = ["Y"] ∧
      first.2.1.session.env.get? "Y" = b.session.env.get? "Y" ∧
      built.2.1.readScript built.2.2 = .ok source ∧ built.2.2.printed.kept = "a y\nbuilt\n" ∧
      second.2.2.printed.kept = "a y\nbuilt\na y\n" := by
    decide +kernel
  obtain ⟨hread, hfirst, hinputs, hY, hagain, hbuilt, hprinted⟩ := hrun
  have hload : b.load w = (.ok (), first.2.1, first.2.2) := Prod.ext hfirst rfl
  have hsame : ∀ name ∈ b.inputs source w,
      first.2.1.session.env.get? name = b.session.env.get? name := by
    rw [hinputs]
    simpa using hY
  obtain ⟨b₃, messages, hsecond, -, hgraph, -, henv⟩ :=
    (second_load_takes_environment_only hread (by decide +kernel) hload
      (Used.unused.build "all" first.2.2) hagain).2 hsame
  have hsecond : second = (.ok (), b₃, first.2.1.told source messages built.2.2) := hsecond
  refine ⟨hfirst, hinputs, hbuilt, ?_, ?_, ?_, hprinted⟩
  · rw [hsecond]
  · rw [hsecond, hgraph]
  · rw [hsecond, henv]

/-- A script that appends to an entry which it has not set appends to what the first load left. -/
theorem second_load_appends_again :
    let source := "env.X += a\n<< ${env.X}\n"
    let w : Workspace :=
      { disk := ((Disk.setUp 0).writeFile "byggfil" source.toUTF8 false).toOption.getD (.setUp 0) }
    let b : Builder := { config := {}, session := { sink := .kept } }
    let first := b.load w
    let second := first.2.1.load first.2.2
    b.readScript w = .ok source ∧ Template.IsTagless source ∧ first.1 = .ok () ∧
      first.2.1.readScript first.2.2 = .ok source ∧ second.1 = .ok () ∧
      first.2.1.session.env.get? "X" = some "a" ∧ first.2.2.printed.kept = "a\n" ∧
      second.2.1.session.env.get? "X" = some "a a" ∧
      second.2.2.printed.kept = "a\n" ++ "a a\n" := by
  decide +kernel

end Builder

end BuildTool
