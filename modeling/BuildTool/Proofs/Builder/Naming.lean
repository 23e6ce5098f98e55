import BuildTool.Proofs.Builder.Errors
import BuildTool.Proofs.Graph.Effects
import BuildTool.Proofs.Graph.Failure
import BuildTool.Proofs.Path.Place
import BuildTool.Proofs.Script.Naming

/-!
# Builds of targets under any spelling

A target that a line is about can be built under every spelling of its name. When a build ends
with an unknown target nevertheless, then it is another build that says so, which was started by
a command of what is built:

    all <- bygg -f empty        bygg all   =   no such target "all", there being none in `empty`
-/

namespace BuildTool

variable {σ : Type}

namespace Graph

/-- Of the commands of a target the one that fails is the last in both records, in the state that
it was run in and with what it came to. -/
theorem runCommands_eq_error {site : Site σ} {target : String} {commands : List String}
    {e : BuildError} {st st' : (σ × List (Effect σ)) × List Reply}
    (h : runCommands site.tracing.replying target commands st = (.error e, st')) :
    ∃ command ∈ commands, ∃ before, site.run target command before = (.error e, st'.1.1) ∧
      st'.2.getLast? = some ⟨target, command, .error e⟩ ∧
      st'.1.2.getLast? = some ⟨target, before, st'.1.1⟩ := by
  induction commands generalizing st with
  | nil => cases h
  | cons command rest ih =>
    let before := site.note (target ++ ": " ++ command) st.1.1
    have hrun : site.tracing.replying.run target command
        (site.tracing.replying.note (target ++ ": " ++ command) st) =
          ((site.run target command before).1,
            ((site.run target command before).2,
              st.1.2 ++ [⟨target, before, (site.run target command before).2⟩]),
            st.2 ++ [⟨target, command, (site.run target command before).1⟩]) := rfl
    rw [runCommands, hrun] at h
    rcases ho : site.run target command before with ⟨e' | _, s'⟩
    · rw [ho] at h
      cases h
      exact ⟨command, List.mem_cons_self, before, ho, List.getLast?_concat, List.getLast?_concat⟩
    · rw [ho] at h
      obtain ⟨command', hm, found⟩ := ih h
      exact ⟨command', List.mem_cons_of_mem _ hm, found⟩

/-- A pass for a target that there is finds a target unknown only where a command does. This is the
last command that it runs. -/
theorem resolve_eq_unknownTarget {site : Site σ} {name unknown : String} {g : Graph} {s : σ}
    (hc : g.contains name = true)
    (h : (g.resolve site name s).1 = .error (.unknownTarget unknown)) :
    ∃ t command before, g.Reaches name t ∧ command ∈ g.commandsOf t ∧
      (g.replies site name s).getLast? =
        some ⟨t, command, .error (.unknownTarget unknown)⟩ ∧
      (g.effects site name s).getLast? = some ⟨t, before, (g.resolve site name s).2.2⟩ ∧
      site.run t command before =
        (.error (.unknownTarget unknown), (g.resolve site name s).2.2) := by
  -- both records at once, each of which is a view of the pass that keeps them
  let both := g.resolve site.tracing.replying name ((s, []), [])
  have htraced : g.resolve site.tracing name (s, []) = Prod.map id (Prod.map id Prod.fst) both :=
    resolve_view site.tracing.replying_isView name g ((s, []), [])
  have hreplied : g.resolve site.replying name (s, []) =
      Prod.map id (Prod.map id (Prod.map Prod.fst id)) both :=
    resolve_view (f := Prod.map Prod.fst id) ⟨fun _ _ => rfl, fun _ _ => rfl, fun _ => rfl,
      fun _ _ => rfl, fun _ _ _ => rfl⟩ name g ((s, []), [])
  have hplain : g.resolve site name s = Prod.map id (Prod.map id Prod.fst) _ :=
    resolve_view site.tracing_isView name g (s, [])
  rw [htraced] at hplain
  rw [replies, effects, hreplied, htraced, hplain]
  rw [hplain] at h
  have hpass : IsPass _ _ name (g, (s, []), []) both :=
    resolve_isPass site.tracing.replying name g ((s, []), [])
  obtain ⟨result, g', st'⟩ := both
  obtain ⟨visits, st, w, -, hend⟩ := hpass
  obtain rfl : result = .error (.unknownTarget unknown) := h
  cases hend with
  | unknownTarget hno => rw [hc] at hno; cases hno
  | @failed v _ _ hr _ _ _ ho =>
    rw [Visit.outcome_eq] at ho
    split at ho
    · obtain ⟨command, hm, before, hrun, hreply, heffect⟩ := runCommands_eq_error ho
      rw [w.sameRecipes.commandsOf] at hm
      exact ⟨v.name, command, before, hr, hm, hreply, heffect, hrun⟩
    · cases ho

end Graph

namespace Builder

/-- A build ends with the error of another, which its last command has started. The command is one
of a target that the build reaches, and `before` is the workspace that it was run in. -/
structure EndsAsNested (b : Builder) (spelling : String) (w : Workspace) (e : BuildError)
    (t command : String) (arguments : List String) (before : Workspace) : Prop where
  reaches : b.graph.Reaches (Path.clean spelling) t
  isCommand : command ∈ b.graph.commandsOf t
  words : splitWords? command = some ("bygg" :: arguments)
  reply : (b.graph.replies (b.session.site (runNested nestingLimit))
    (Path.clean spelling) w).getLast? = some ⟨t, command, .error e⟩
  effect : (b.graph.effects (b.session.site (runNested nestingLimit))
    (Path.clean spelling) w).getLast? = some ⟨t, before, (b.build spelling w).2.2⟩
  nested : runNested nestingLimit b.session arguments (before.note b.session.logger
    ("Running command " ++ Text.quoted "bygg" ++ " with args " ++ Text.quotedList arguments)) =
      (.error e, (b.build spelling w).2.2)

/-- A build of a target that there is ends with an unknown target only as another build does. -/
theorem build_eq_unknownTarget {b : Builder} {spelling unknown : String} {w : Workspace}
    (hc : b.graph.contains (Path.clean spelling) = true)
    (h : (b.build spelling w).1 = .error (.unknownTarget unknown)) :
    ∃ t command arguments before,
      b.EndsAsNested spelling w (.unknownTarget unknown) t command arguments before := by
  have hend : (b.graph.resolve (b.session.site (runNested nestingLimit)) (Path.clean spelling)
      w).1 = .error (.unknownTarget unknown) := h
  obtain ⟨t, command, before, hr, hm, hreply, heffect, hrun⟩ :=
    Graph.resolve_eq_unknownTarget hc hend
  rcases Session.runCommand_eq_error _ _ _ _ (congrArg Prod.fst hrun) with
    hown | hquote | ⟨arguments, hwords, hnested⟩
  · cases hown
  · cases hquote
  · exact ⟨t, command, arguments, before, hr, hm, hwords, hreply, heffect, hnested.symm.trans hrun⟩

/-- Whatever scripts, passes and looks at times a graph has been through, all its names are clean.
So a target that a line is about has one name in all spellings that lead to the same place: each
line about one of them changes this target and no other, and each build of one of them is a build
of this target. It ends with an unknown target only as another build does, which the last command
that it ran has started. -/
theorem spellings_name_one_target (events : List (Graph.Event σ)) (s : σ) :
    let g := (Graph.history events ({}, s)).1
    (∀ name t, g.find? name = some t → (Path.clean name = name ∧ name ≠ "") ∧
      ∀ d ∈ t.dependencies, Path.clean d = d ∧ d ≠ "") ∧
    ∀ name spelling, Graph.IsDeclared events ({}, s) name → Path.SamePlace spelling name →
      g.contains (Path.clean name) = true ∧ Path.clean spelling = Path.clean name ∧
      (∀ {τ : Type} (print : Printer τ) (plan : Plan) (out : τ) line left operator right,
        Statement.ofLine line = .ok (.relate left operator right) →
        operator.isOfTarget = true → plan.expand left = spelling →
        let done := Script.step print line (plan, out)
        (done.1, done.2.1) = plan.relate name operator (plan.expand right) ∧
          ∀ other, other ≠ Path.clean name →
            done.2.1.graph.find? other = plan.graph.find? other) ∧
      ∀ (b : Builder) w, b.graph = g → b.build spelling w = b.build name w ∧
        ∀ unknown, (b.build spelling w).1 = .error (.unknownTarget unknown) →
          ∃ t command arguments before,
            b.EndsAsNested spelling w (.unknownTarget unknown) t command arguments before := by
  intro g
  have hempty : (({}, s) : Graph × σ).1.HasCleanNames := Graph.hasCleanNames_empty
  have hclean := hempty.history events
  refine ⟨?_, ?_⟩
  · intro name t hf
    have hname := hclean.names name (by rw [Graph.contains, hf]; rfl)
    refine ⟨⟨hname, hname ▸ Path.clean_ne_empty name⟩, ?_⟩
    intro d hd
    have hneeds : g.Needs name d := by rwa [Graph.Needs, Graph.dependenciesOf, Graph.targetOf, hf]
    have hdep := hclean.needs name d hneeds
    exact ⟨hdep, hdep ▸ Path.clean_ne_empty d⟩
  · intro name spelling hdeclared hplace
    have hsame : Path.clean spelling = Path.clean name := Path.clean_eq_clean_iff.mpr hplace
    have hc : g.contains (Path.clean name) = true := Graph.contains_history hdeclared
    refine ⟨hc, hsame, ?_, ?_⟩
    · intro τ print plan out line left operator right hs hop he
      rw [Script.step_relate hs, he, Plan.relate_congr hop hsame]
      exact ⟨rfl, fun other ho => Plan.find?_relate hop plan name _ ho⟩
    · intro b w hb
      refine ⟨by rw [build, build, buildWith, buildWith, hsame], ?_⟩
      intro unknown h
      rw [← hb, ← hsame] at hc
      exact build_eq_unknownTarget hc h

/-- By the theorem, `./x/../all` is the target `all`, also in a graph that a pass has been over, and
nothing but a build that `all` starts can say that it is unknown. -/
theorem spellings_name_one_target_upwards :
    let site : Site Unit :=
      { pathExists _ _ := true, modified _ _ := some 0, clock s := (0, s), note _ s := s,
        run _ _ s := (.ok (), s) }
    let events : List (Graph.Event Unit) :=
      [.script {} {} (fun _ out => (.ok (), out)) "all: main.o\nall <- bygg -f empty\n",
        .other (.pass site "all")]
    let g := (Graph.history events ({}, ())).1
    Graph.IsDeclared events ({}, ()) "all" ∧ Path.SamePlace "./x/../all" "all" ∧
      (∃ t, g.find? "all" = some t ∧ t.dependencies = ["main.o"] ∧ "all" ≠ "") ∧
      ∀ (b : Builder) w, b.graph = g → b.build "./x/../all" w = b.build "all" w := by
  intro site events g
  have hdeclared : Graph.IsDeclared events ({}, ()) "all" := by
    refine ⟨[], _, _, rfl, [], "all: main.o", ["all <- bygg -f empty"], ({}, ()), ?_, rfl, ?_, ?_⟩
    · decide +kernel
    · exact ⟨"all", .depends, "main.o", by decide +kernel, rfl, by decide +kernel⟩
    · decide +kernel
  have hplace : Path.SamePlace "./x/../all" "all" :=
    Path.clean_eq_clean_iff.mp (by decide +kernel)
  obtain ⟨hnames, hspellings⟩ := spellings_name_one_target events ()
  obtain ⟨hc, -, -, hbuild⟩ := hspellings "all" "./x/../all" hdeclared hplace
  have hfind : g.find? "all" = some (g.targetOf "all") := Graph.find?_of_contains hc
  refine ⟨hdeclared, hplace, ⟨_, hfind, by decide +kernel, (hnames "all" _ hfind).1.2⟩, ?_⟩
  intro b w hb
  exact (hbuild b w hb).1

/-- A target that a line is about is built, and the build ends with an unknown target: the command
starts a build of a script without targets. -/
theorem declared_target_unknown_to_nested_build :
    let events : List (Graph.Event Unit) :=
      [.script {} {} (fun _ out => (.ok (), out)) "all <- bygg -f empty\n"]
    let b : Builder :=
      { config := {}, session := { sink := .kept }, graph := (Graph.history events ({}, ())).1 }
    let disk : Disk := { tree := ⟨[([], .directory 0), (["box"], .directory 0),
      (["box", "work"], .directory 0), (["box", "work", "empty"], .file .empty 300 false)]⟩ }
    Graph.IsDeclared events ({}, ()) "all" ∧
      (b.build "all" { disk }).1 = .error (.unknownTarget "all") := by
  refine ⟨⟨[], _, _, rfl, [], "all <- bygg -f empty", [], ({}, ()), ?_, rfl, ?_, ?_⟩, ?_⟩
  · decide +kernel
  · exact ⟨"all", .command, "bygg -f empty", by decide +kernel, rfl, by decide +kernel⟩
  · rfl
  · decide +kernel

end Builder

end BuildTool
