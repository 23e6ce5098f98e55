import BuildTool.Builder
import BuildTool.Proofs.Graph.Outlook

/-!
# Dry runs

A dry run prints the commands that it would run and leaves all files as they are, so that it
always reads the times they had before. A real run reads the times that its commands have set:

    files       src 300, obj 200, app 400        app is made from obj, and obj from src
    real run    copy:src, copy:obj               obj is outdated, and then app is older than obj
    dry run     copy:src                         obj is outdated, and app is not

A dry run prints the commands of the targets that are outdated before it. A real run also runs
those of targets that are only outdated by what it has rebuilt.
-/

namespace BuildTool

def Printed.text (p : Printed) : SinkKind → String
  | .kept => p.kept
  | .standard => p.standard
  | .full => ""

/-- A text and then a line for each of some commands, with the targets they belong to. -/
def withLines (text : String) (runs : List (String × String)) : String :=
  runs.foldl (fun text run => text ++ ("Not running command " ++ Text.quoted run.2 ++ "\n")) text

/-- What was run, from the record of it. -/
def ranIn (st : Workspace × List Attempt) : List (String × String) := st.2.filterMap Attempt.run?

theorem ranIn_append (w w' : Workspace) (log : List Attempt) (target : String)
    (commands : List String) :
    ranIn (w', log ++ commands.map fun c => ⟨target, c, true⟩) =
      ranIn (w, log) ++ commands.map fun c => (target, c) := by
  have hnew := Graph.filterMap_run?_ofRun (commands.map fun c => (target, c))
  rw [List.map_map] at hnew
  unfold ranIn
  rw [List.filterMap_append]
  exact congrArg _ hnew

theorem withLines_append (text : String) (runs more : List (String × String)) :
    withLines text (runs ++ more) = withLines (withLines text runs) more :=
  List.foldl_append

namespace Session

open BuildTool.Graph

/-- The session with its commands only printed. -/
def dry (s : Session) : Session := { s with dryRun := true }

/-- Nothing but the lines of a build goes to the sink. -/
def IsQuiet (s : Session) : Prop := s.sink = .standard → s.logger.verbose = false

/-! ## Real runs -/

/-- In a build below a name, the commands of a target succeed, give the file of the target no time
that is not later than all before the build, and leave the other files below the name as they are.
Nothing in the build leaves the states for which this holds. -/
structure Renews (s : Session) (nested : Session → List String → Workspace → Performed) (g : Graph)
    (root : String) (w : Workspace) (P : Workspace → Prop) : Prop where
  start : P w
  note : ∀ text w', P w' → P (w'.note s.logger text)
  clock : ∀ w', P w' → IsLate (s.site nested) g root w w'.disk.now
  run : ∀ t w', g.Reaches root t → g.commandsOf t ≠ [] → P w' →
    let out := runCommands (s.site nested) t (g.commandsOf t) w'
    out.1 = .ok () ∧ P out.2 ∧
      (∀ time, (s.site nested).modified out.2 t = some time →
        IsLate (s.site nested) g root w time) ∧
      ∀ n, g.Reaches root n → n ≠ t →
        (s.site nested).modified out.2 n = (s.site nested).modified w' n ∧
        (s.site nested).pathExists out.2 n = (s.site nested).pathExists w' n

section

variable {s : Session} {nested : Session → List String → Workspace → Performed} {g : Graph}
  {root : String} {w : Workspace}

/-- If commands renew their targets, a build runs what is rebuilt by the times before it. -/
theorem Renews.outlook {P : Workspace → Prop} (h : s.Renews nested g root w P) :
    Outlook (s.site nested).recording g root (w, []) ranIn
      (g.Rebuilt ((s.site nested).modified w))
      (fun t => g.Rebuilt ((s.site nested).modified w) t ∧ g.commandsOf t ≠ [])
      (fun st => P st.1) where
  start := h.start
  log_start := rfl
  note text st hP := ⟨h.note text st.1 hP, fun _ => rfl, fun _ => rfl, rfl⟩
  clock st hP := ⟨h.clock st.1 hP, hP, fun _ => rfl, fun _ => rfl, rfl⟩
  must_iff _ := rebuilt_iff
  must_of_renewed _ hr := hr
  run t st hreach hm hc hP := by
    obtain ⟨hok, hP', hlate, hothers⟩ := h.run t st.1 hreach hc hP
    rw [runCommands_recording st hok]
    exact ⟨rfl, hP', ranIn_append st.1 _ st.2 t _, hothers, fun _ => hlate,
      fun hr => absurd ⟨hm, hc⟩ hr⟩

/-! ## Dry runs -/

/-- A note does not show in what goes to a quiet sink. -/
theorem text_note (hq : s.IsQuiet) (w : Workspace) (text : String) :
    (w.note s.logger text).printed.text s.sink = w.printed.text s.sink := by
  unfold Workspace.note Logger.note
  cases hs : s.sink with
  | kept =>
    split <;> rfl
  | standard =>
    rw [hq hs]
    rfl
  | full => rfl

/-- A line that is printed changes only what has been printed. -/
theorem emit_eq (hsink : s.sink ≠ .full) (w : Workspace) (line : String) :
    ∃ printed, w.emit s.sink line = (.ok (), { w with printed }) ∧
      printed.text s.sink = w.printed.text s.sink ++ (line ++ "\n") := by
  cases hs : s.sink with
  | kept => exact ⟨_, rfl, rfl⟩
  | standard => exact ⟨_, rfl, rfl⟩
  | full => exact absurd hs hsink

/-- What holds in a dry run that began in a workspace. -/
structure IsUntouched (s : Session) (w : Workspace) (st : Workspace × List Attempt) : Prop where
  disk : st.1.disk = w.disk
  text : s.IsQuiet → st.1.printed.text s.sink = withLines (w.printed.text s.sink) (ranIn st)

theorem IsUntouched.note {st : Workspace × List Attempt} (h : s.IsUntouched w st) (text : String) :
    s.IsUntouched w (st.1.note s.logger text, st.2) where
  disk := h.disk
  text hq := (text_note hq st.1 text).trans (h.text hq)

variable (nested) in
/-- Commands that are only printed succeed and leave all files. -/
theorem IsUntouched.runCommands (hsink : s.sink ≠ .full) (target : String) (commands : List String)
    {st : Workspace × List Attempt} (h : s.IsUntouched w st) :
    let out := runCommands (s.dry.site nested).recording target commands st
    out.1 = .ok () ∧ s.IsUntouched w out.2 ∧
      ranIn out.2 = ranIn st ++ commands.map fun command => (target, command) := by
  induction commands generalizing st with
  | nil => exact ⟨rfl, h, (List.append_nil _).symm⟩
  | cons command rest ih =>
    have hnote := h.note (target ++ ": " ++ command)
    obtain ⟨printed, hprinted, htext⟩ := emit_eq hsink (st.1.note s.logger (target ++ ": " ++ command))
      ("Not running command " ++ Text.quoted command)
    let st₁ : Workspace × List Attempt :=
      ({ st.1.note s.logger (target ++ ": " ++ command) with printed },
        st.2 ++ [⟨target, command, true⟩])
    have hran : ranIn st₁ = ranIn st ++ [(target, command)] :=
      ranIn_append st.1 st₁.1 st.2 target [command]
    have hrun : (s.dry.site nested).recording.run target command
        ((s.dry.site nested).recording.note (target ++ ": " ++ command) st) = (.ok (), st₁) := by
      have hemit : (s.dry.site nested).run target command
          (st.1.note s.logger (target ++ ": " ++ command)) =
            (st.1.note s.logger (target ++ ": " ++ command)).emit s.sink
              ("Not running command " ++ Text.quoted command) := rfl
      rw [hprinted] at hemit
      exact congrArg (fun out => (out.1, out.2, st.2 ++ [⟨target, command, out.1.isOk⟩])) hemit
    have h₁ : s.IsUntouched w st₁ := by
      refine ⟨h.disk, fun hq => ?_⟩
      rw [hran, withLines_append, ← h.text hq, ← text_note hq st.1 (target ++ ": " ++ command)]
      exact htext
    obtain ⟨hok, hst, hall⟩ := ih h₁
    rw [Graph.runCommands, hrun]
    refine ⟨hok, hst, ?_⟩
    rw [hall, hran, List.append_assoc]
    rfl

variable (nested) in
/-- A dry run runs what is outdated by the times before it. -/
theorem outlook_dry (hsink : s.sink ≠ .full) (hlate : IsLate (s.site nested) g root w w.disk.now) :
    Outlook (s.dry.site nested).recording g root (w, []) ranIn
      (fun t => g.isOutdated ((s.site nested).modified w) t = true) (fun _ => False)
      (s.IsUntouched w) where
  start := ⟨rfl, fun _ => rfl⟩
  log_start := rfl
  note text st h := ⟨h.note text, fun _ => rfl, fun _ => rfl, rfl⟩
  clock st h := by
    refine ⟨?_, h, fun _ => rfl, fun _ => rfl, rfl⟩
    rw [show ((s.dry.site nested).recording.clock st).1 = w.disk.now from congrArg Disk.now h.disk]
    exact hlate
  must_iff t := by
    simp only [and_false, exists_false, or_false]
    rfl
  must_of_renewed _ hr := hr.elim
  run t st hreach hm hc h := by
    obtain ⟨hok, hst, hran⟩ := h.runCommands nested hsink t (g.commandsOf t)
    have hdisk : (runCommands (s.dry.site nested).recording t (g.commandsOf t) st).2.1.disk =
        st.1.disk := hst.disk.trans h.disk.symm
    have htime : ∀ n, (s.dry.site nested).recording.modified
        (runCommands (s.dry.site nested).recording t (g.commandsOf t) st).2 n =
          (s.dry.site nested).recording.modified st n :=
      fun n => congrArg (fun d : Disk => d.modifiedTime? (Path.join s.baseDir n)) hdisk
    have hpath : ∀ n, (s.dry.site nested).recording.pathExists
        (runCommands (s.dry.site nested).recording t (g.commandsOf t) st).2 n =
          (s.dry.site nested).recording.pathExists st n :=
      fun n => congrArg (fun d : Disk => d.pathExists (Path.join s.baseDir n)) hdisk
    exact ⟨hok, hst, hran, fun n _ _ => ⟨htime n, hpath n⟩, fun hr => hr.elim, fun _ => htime t⟩

end

end Session

namespace Builder

open BuildTool.Graph

/-- The builder with its commands only printed. -/
def dry (b : Builder) : Builder := { b with session := b.session.dry }

/-- What a builder runs for a target. -/
def runs (b : Builder) (target : String) (w : Workspace) : List (String × String) :=
  b.graph.runs (b.session.site (runNested nestingLimit)) (Path.clean target) w

section

variable {b : Builder} (hg : b.graph.IsFresh) (hsink : b.session.sink ≠ .full) (target : String)
  (w : Workspace) {P : Workspace → Prop}
  (h : b.session.Renews (runNested nestingLimit) b.graph (Path.clean target) w P)
include hg hsink h

open Classical in
/-- If running the commands of targets gives their files late times and does nothing else to what
the target of a build leads to, a dry run ends as the build does, changes no file and prints a
line for each command of the targets that are outdated by the times before, in the order in which
the build comes by them. The build runs the commands of the targets that are rebuilt by those
times, in the same order. So the dry run prints some of the commands that the build runs, and all
of them exactly if no target is rebuilt without being outdated. -/
theorem dry_build_prints_what_is_outdated :
    let time name := w.disk.modifiedTime? (Path.join b.session.baseDir name)
    let real := b.build target w
    let dry := b.dry.build target w
    dry.1 = real.1 ∧ dry.2.2.disk = w.disk ∧
    (b.session.IsQuiet → dry.2.2.printed.text b.session.sink =
      withLines (w.printed.text b.session.sink) (b.dry.runs target w)) ∧
    ∃ order : List String, order.Nodup ∧ (∀ t ∈ order, b.graph.Reaches (Path.clean target) t) ∧
      (real.1 = .ok () → ∀ t, b.graph.Reaches (Path.clean target) t → t ∈ order) ∧
      b.dry.runs target w = b.graph.commandsWhere (b.graph.isOutdated time · = true) order ∧
      b.runs target w = b.graph.commandsWhere (b.graph.Rebuilt time) order ∧
      (b.dry.runs target w).Sublist (b.runs target w) ∧
      (b.dry.runs target w = b.runs target w ↔ ∀ t ∈ order, b.graph.Rebuilt time t →
        b.graph.commandsOf t ≠ [] → b.graph.isOutdated time t = true) := by
  intro time real dry
  let site := b.session.site (runNested nestingLimit)
  let drySite := b.dry.session.site (runNested nestingLimit)
  have hout : ∀ t, b.graph.isOutdated time t = true → b.graph.Rebuilt time t :=
    fun _ ho => .outdated ho
  have outlook := h.outlook
  have outlook' := b.session.outlook_dry (runNested nestingLimit) hsink (h.clock w h.start)
  obtain ⟨hres, alike, order, hnodup, hreach, hf, hf'⟩ :=
    outlook.resolve outlook' hg fun _ _ => rfl
  have hreal := resolve_recording site (Path.clean target) b.graph w []
  have hdry := resolve_recording drySite (Path.clean target) b.graph w []
  have hran : b.runs target w = b.graph.commandsWhere (b.graph.Rebuilt time) order := hf.log
  have hprinted : b.dry.runs target w =
      b.graph.commandsWhere (b.graph.isOutdated time · = true) order := hf'.log
  have hend : dry.2.2 = (b.graph.resolve drySite.recording (Path.clean target) (w, [])).2.2.1 :=
    congrArg (·.2.2) hdry
  refine ⟨?_, ?_, ?_, order, hnodup, hreach, ?_, hprinted, hran, ?_, ?_⟩
  · exact (congrArg Prod.fst hdry).trans (hres.trans (congrArg Prod.fst hreal).symm)
  · rw [hend]
    exact hf'.state.disk
  · intro hq
    rw [hend]
    exact hf'.state.text hq
  · intro hok t ht
    have hpass := resolve_isPass site.recording (Path.clean target) b.graph (w, [])
    have hok' : (b.graph.resolve site.recording (Path.clean target) (w, [])).1 = .ok () :=
      (congrArg Prod.fst hreal).symm.trans hok
    have hsound := isSound_of_none_resolved hg.unresolved
    exact (hf.isResolved t).mp (hpass.reaches_of_ok hsound hok' ht).2
  · rw [hran, hprinted]
    exact commandsWhere_sublist hout
  · rw [hran, hprinted]
    exact commandsWhere_eq_iff hout

end

/-! ## A chain -/

/-- A target that is made from another, which is made from a file. -/
def chain : Graph where
  targets := [("app", { name := "app", dependencies := ["obj"], commands := ["copy:obj"] }),
    ("obj", { name := "obj", dependencies := ["src"], commands := ["copy:src"] })]

theorem graph_eq_chain :
    (Script.run (fun _ out => .ok out) "app: obj\napp <- copy:obj\nobj: src\nobj <- copy:src\n"
      ({}, ())).2.1.graph = chain := by
  decide +kernel

/-- The disk with the files of the chain at time 1000, two of them with these times. -/
def chainDisk (obj app : Time) : Disk where
  tree := ⟨[([], .directory 0), (["box"], .directory 0), (["box", "work"], .directory 0),
    (["box", "work", "src"], .file .empty 300 false),
    (["box", "work", "obj"], .file .empty obj false),
    (["box", "work", "app"], .file .empty app false)]⟩
  time := 1000

/-- A builder of the chain that keeps what it prints. -/
def chainBuilder : Builder where
  config := {}
  session := { sink := .kept }
  graph := chain

/-- The workspace of the chain, in which only the object is outdated. -/
def chainFiles : Workspace where
  disk := chainDisk 200 400

theorem reaches_chain {t : String} (hr : chain.Reaches "app" t) :
    t = "app" ∨ t = "obj" ∨ t = "src" := by
  have hm : t ∈ ["app", "obj", "src"] := hr.mem_of_closed (by decide) (by decide)
  simpa using hm

def chainTimes (obj app : Time) : List (String × Time) :=
  [("app", app), ("obj", obj), ("src", 300)]

theorem chainDisk_shows (obj app : Time) {t : String} (ht : chain.Reaches "app" t) :
    (chainDisk obj app).modifiedTime? (Path.join "." t) = (chainTimes obj app).lookup t ∧
      (chainDisk obj app).pathExists (Path.join "." t) = true := by
  obtain rfl | rfl | rfl := reaches_chain ht <;> with_unfolding_all exact ⟨rfl, rfl⟩

/-- A command that copies a file to a target of the chain does that. -/
theorem runCommands_copy (nested : Session → List String → Workspace → Performed)
    {target source command : String} {w : Workspace} {d : Disk}
    (hwords : splitWords? command = some [command])
    (hcommand : Command.ofWords command [] = .copy (some source))
    (hcopy : w.disk.copy "." source target = (.ok (), d)) :
    let out := runCommands (chainBuilder.session.site nested) target [command] w
    out.1 = .ok () ∧ out.2.disk = d := by
  have hrun : ∀ w : Workspace, w.disk.copy "." source target = (.ok (), d) →
      chainBuilder.session.runCommand nested target command w =
        Session.onDisk (w.note chainBuilder.session.logger
          ("Running command " ++ Text.quoted command ++ " with args " ++ Text.quotedList []))
            (.ok (), d) := by
    intro w hw
    unfold Session.runCommand
    rw [hwords]
    simp only [hcommand]
    rw [← hw]
    rfl
  have hone := hrun (w.note chainBuilder.session.logger (target ++ ": " ++ command)) hcopy
  unfold runCommands
  rw [show (chainBuilder.session.site nested).run target command
    ((chainBuilder.session.site nested).note (target ++ ": " ++ command) w) = _ from hone]
  exact ⟨rfl, rfl⟩

section

variable (nested : Session → List String → Workspace → Performed) {obj app : Time} {w : Workspace}
  (h : w.disk = chainDisk obj app)
include h

theorem runCommands_app :
    let out := runCommands (chainBuilder.session.site nested) "app" (chain.commandsOf "app") w
    out.1 = .ok () ∧ out.2.disk = chainDisk obj 1000 := by
  have hwords : splitWords? "copy:obj" = some ["copy:obj"] := by decide
  have hcommand : Command.ofWords "copy:obj" [] = .copy (some "obj") := by decide
  have hcopy : w.disk.copy "." "obj" "app" = (.ok (), chainDisk obj 1000) := by
    rw [h]
    with_unfolding_all rfl
  rw [show chain.commandsOf "app" = ["copy:obj"] by decide]
  exact runCommands_copy nested hwords hcommand hcopy

theorem runCommands_obj :
    let out := runCommands (chainBuilder.session.site nested) "obj" (chain.commandsOf "obj") w
    out.1 = .ok () ∧ out.2.disk = chainDisk 1000 app := by
  have hwords : splitWords? "copy:src" = some ["copy:src"] := by decide
  have hcommand : Command.ofWords "copy:src" [] = .copy (some "src") := by decide
  have hcopy : w.disk.copy "." "src" "obj" = (.ok (), chainDisk 1000 app) := by
    rw [h]
    with_unfolding_all rfl
  rw [show chain.commandsOf "obj" = ["copy:src"] by decide]
  exact runCommands_copy nested hwords hcommand hcopy

end

/-- The files of the chain, of which a build has renewed some. -/
def IsChain (w : Workspace) : Prop := ∃ obj app, w.disk = chainDisk obj app

theorem isLate_chain (nested : Session → List String → Workspace → Performed) {time : Time}
    (h : 400 < time) : IsLate (chainBuilder.session.site nested) chain "app" chainFiles time := by
  intro name own hr hown
  have htime : (chainTimes 200 400).lookup name = some own :=
    (chainDisk_shows 200 400 hr).1.symm.trans hown
  have hle : own ≤ 400 := by
    obtain rfl | rfl | rfl := reaches_chain hr
    all_goals
      obtain rfl := Option.some.inj htime
      decide
  exact lt_of_le_of_lt hle h

/-- A target of the chain is renewed if its time is that of the clock and those of the others have
not changed. -/
theorem renewed_chain (nested : Session → List String → Workspace → Performed) {t : String}
    {obj app obj' app' : Time} {w w' : Workspace} (hd : w.disk = chainDisk obj app)
    (hd' : w'.disk = chainDisk obj' app') (ht : chain.Reaches "app" t)
    (htime : (chainTimes obj' app').lookup t = some 1000)
    (hothers : ∀ n, n ≠ t → (chainTimes obj' app').lookup n = (chainTimes obj app).lookup n) :
    let site := chainBuilder.session.site nested
    (∀ time, site.modified w' t = some time → IsLate site chain "app" chainFiles time) ∧
      ∀ n, chain.Reaches "app" n → n ≠ t → site.modified w' n = site.modified w n ∧
        site.pathExists w' n = site.pathExists w n := by
  have hmodified : ∀ {n : String} {w : Workspace} {obj app : Time}, w.disk = chainDisk obj app →
      chain.Reaches "app" n → (chainBuilder.session.site nested).modified w n =
        (chainTimes obj app).lookup n := by
    intro n w obj app hd hr
    rw [← (chainDisk_shows obj app hr).1, ← hd]
    rfl
  have hpath : ∀ {n : String} {w : Workspace} {obj app : Time}, w.disk = chainDisk obj app →
      chain.Reaches "app" n → (chainBuilder.session.site nested).pathExists w n = true := by
    intro n w obj app hd hr
    rw [← (chainDisk_shows obj app hr).2, ← hd]
    rfl
  constructor
  · intro time hown
    rw [hmodified hd' ht, htime] at hown
    obtain rfl := Option.some.inj hown
    exact isLate_chain nested (by decide)
  · intro n hr hne
    rw [hmodified hd' hr, hmodified hd hr, hpath hd' hr, hpath hd hr]
    exact ⟨hothers n hne, rfl⟩

theorem renews_chain (nested : Session → List String → Workspace → Performed) :
    chainBuilder.session.Renews nested chain "app" chainFiles IsChain where
  start := ⟨200, 400, rfl⟩
  note _ _ h := h
  clock w := by
    rintro ⟨obj, app, hd⟩
    rw [hd]
    exact isLate_chain nested (by decide : (400 : Time) < 1001)
  run t w hr hc := by
    rintro ⟨obj, app, hd⟩
    obtain rfl | rfl | rfl := reaches_chain hr
    · obtain ⟨hok, hdisk⟩ := runCommands_app nested hd
      refine ⟨hok, ⟨obj, 1000, hdisk⟩, renewed_chain nested hd hdisk hr rfl ?_⟩
      intro n hne
      simp [chainTimes, List.lookup_cons, beq_eq_false_iff_ne.mpr hne]
    · obtain ⟨hok, hdisk⟩ := runCommands_obj nested hd
      refine ⟨hok, ⟨1000, app, hdisk⟩, renewed_chain nested hd hdisk hr rfl ?_⟩
      intro n hne
      simp [chainTimes, List.lookup_cons, beq_eq_false_iff_ne.mpr hne]
    · exact absurd rfl hc

theorem runs_chain :
    chainBuilder.runs "app" chainFiles = [("obj", "copy:src"), ("app", "copy:obj")] := by
  decide +kernel

theorem dry_runs_chain : chainBuilder.dry.runs "app" chainFiles = [("obj", "copy:src")] := by
  decide +kernel

/-- The app is only outdated by what a build makes of the object, so that a dry run does not print
its command. -/
theorem dry_build_omits_what_is_rebuilt :
    (Script.run (fun _ out => .ok out) "app: obj\napp <- copy:obj\nobj: src\nobj <- copy:src\n"
      ({}, ())).2.1.graph = chain ∧
    chainBuilder.session.Renews (runNested nestingLimit) chain "app" chainFiles IsChain ∧
    chainBuilder.runs "app" chainFiles = [("obj", "copy:src"), ("app", "copy:obj")] ∧
    (chainBuilder.dry.build "app" chainFiles).2.2.printed.kept =
      "Not running command \"copy:src\"\n" :=
  ⟨graph_eq_chain, renews_chain _, runs_chain, by decide +kernel⟩

/-- By the theorem, a dry run of the chain prints some of what the build runs and changes no
file. -/
theorem dry_build_prints_what_is_outdated_chain :
    chain.IsFresh ∧ chainBuilder.session.sink ≠ .full ∧
    chainBuilder.session.Renews (runNested nestingLimit) chain "app" chainFiles IsChain ∧
    (chainBuilder.dry.build "app" chainFiles).2.2.disk = chainFiles.disk ∧
    [("obj", "copy:src")].Sublist [("obj", "copy:src"), ("app", "copy:obj")] := by
  have hg : chain.IsFresh := ⟨isResolved_eq_false (by decide), rfl⟩
  have hsink : chainBuilder.session.sink ≠ .full := by decide
  obtain ⟨-, hdisk, -, order, -, -, -, -, -, hsub, -⟩ :=
    dry_build_prints_what_is_outdated hg hsink "app" chainFiles (renews_chain _)
  rw [runs_chain, dry_runs_chain] at hsub
  exact ⟨hg, hsink, renews_chain _, hdisk, hsub⟩

end Builder

end BuildTool
