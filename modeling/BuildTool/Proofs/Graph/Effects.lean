import BuildTool.Proofs.Graph.Staleness
import BuildTool.Session

/-!
# What commands do to files

A tracing site does what a site does and keeps, for every command it is asked to run, the states
before and after the command.

    effects site name g s  =  what the commands of `resolve` did, in their order

A command spares a path if it is for another target and leaves the time of the path. If all
commands of a pass spare a path, its time is the same at the end of the pass as after the commands
of its own target (`Chain.effects`). For that, noting a step and reading the clock must not change
times either.
-/

namespace BuildTool

/-- What a command did for a target. -/
structure Effect (σ : Type) where
  target : String
  before : σ
  after : σ

namespace Site

variable {σ : Type}

/-- The site with the effects of the commands it is asked to run. -/
def tracing (site : Site σ) : Site (σ × List (Effect σ)) where
  pathExists s := site.pathExists s.1
  modified s := site.modified s.1
  clock s := ((site.clock s.1).1, (site.clock s.1).2, s.2)
  note text s := (site.note text s.1, s.2)
  run target command s :=
    let out := site.run target command s.1
    (out.1, out.2, s.2 ++ [⟨target, s.1, out.2⟩])

theorem tracing_isView (site : Site σ) : IsView Prod.fst site.tracing site where
  pathExists _ _ := rfl
  modified _ _ := rfl
  clock _ := rfl
  note _ _ := rfl
  run _ _ _ := rfl

/-- Only commands change the times of files. -/
structure IsQuiet (site : Site σ) : Prop where
  note : ∀ text s path, site.modified (site.note text s) path = site.modified s path
  clock : ∀ s path, site.modified (site.clock s).2 path = site.modified s path

/-- If the command is for another target, it leaves the time of the path. -/
def Spares (site : Site σ) (path : String) (e : Effect σ) : Prop :=
  path ≠ e.target → site.modified e.after path = site.modified e.before path

end Site

namespace Graph

variable {σ : Type}

/-- What the commands that `resolve` runs do. -/
def effects (site : Site σ) (name : String) (g : Graph) (s : σ) : List (Effect σ) :=
  (g.resolve site.tracing name (s, [])).2.2.2

/-- A pass that is traced has the same end. -/
theorem resolve_tracing {site : Site σ} {name : String} {g h : Graph} {s s' : σ}
    {r : Except BuildError Unit} (ho : g.resolve site name s = (r, h, s')) :
    g.resolve site.tracing name (s, []) = (r, h, s', g.effects site name s) := by
  have hview := resolve_view site.tracing_isView name g (s, [])
  unfold effects
  rcases hout : g.resolve site.tracing name (s, []) with ⟨r₁, h₁, s₁, log⟩
  rw [hout] at hview
  rw [ho] at hview
  cases hview
  rfl

/-! ## Effects and times -/

section

variable {site : Site σ} (hq : site.IsQuiet)
include hq

/-- Commands for a target are traced up to one that fails. The time of a path is left by commands
for another target, if they spare it. -/
theorem runCommands_effects (target : String) (commands : List String)
    (st : σ × List (Effect σ)) :
    ∃ new, (runCommands site.tracing target commands st).2.2 = st.2 ++ new ∧
      (commands ≠ [] → ∃ e ∈ new, e.target = target) ∧
      ∀ path, path ≠ target → (∀ e ∈ new, site.Spares path e) →
        site.modified (runCommands site.tracing target commands st).2.1 path =
          site.modified st.1 path := by
  induction commands generalizing st with
  | nil => exact ⟨[], (List.append_nil _).symm, fun h => absurd rfl h, fun _ _ _ => rfl⟩
  | cons command rest ih =>
    let e : Effect σ := ⟨target, site.note (target ++ ": " ++ command) st.1,
      (site.run target command (site.note (target ++ ": " ++ command) st.1)).2⟩
    have hrun : site.tracing.run target command
        (site.tracing.note (target ++ ": " ++ command) st) =
          ((site.run target command e.before).1, e.after, st.2 ++ [e]) := rfl
    have hown : ∀ path, path ≠ target → site.Spares path e →
        site.modified e.after path = site.modified st.1 path := by
      intro path hne he
      rw [he hne]
      exact hq.note _ _ _
    rw [runCommands, hrun]
    rcases (site.run target command e.before).1 with _ | _
    · exact ⟨[e], rfl, fun _ => ⟨e, List.mem_singleton_self e, rfl⟩,
        fun path hne hs => hown path hne (hs e (List.mem_singleton_self e))⟩
    · obtain ⟨new, hnew, -, htime⟩ := ih (e.after, st.2 ++ [e])
      refine ⟨e :: new, ?_, fun _ => ⟨e, List.mem_cons_self, rfl⟩, ?_⟩
      · simp only [hnew, List.append_assoc, List.singleton_append]
      · intro path hne hs
        rw [htime path hne fun e' he' => hs e' (List.mem_cons_of_mem _ he')]
        exact hown path hne (hs e List.mem_cons_self)

variable {g : Graph}

theorem modified_finish (v : Visit (σ × List (Effect σ))) (path : String) :
    site.modified (v.finish site.tracing g).1 path =
      site.modified (v.outcome site.tracing g).2.1 path := by
  unfold Visit.finish timeOf
  split
  · rfl
  · exact hq.clock _ _

/-- A visit leaves the times of paths that are spared, and its own if the target is not stale. -/
theorem visit_effects (v : Visit (σ × List (Effect σ))) :
    ∃ new, (v.finish site.tracing g).2 = v.start.2 ++ new ∧
      (v.isStale site.tracing g = true → g.commandsOf v.name ≠ [] → ∃ e ∈ new, e.target = v.name) ∧
      (∀ path, path ≠ v.name → (∀ e ∈ new, site.Spares path e) →
        site.modified (v.finish site.tracing g).1 path = site.modified v.start.1 path) ∧
      (v.isStale site.tracing g = false ∨ g.commandsOf v.name = [] →
        site.modified (v.finish site.tracing g).1 v.name = site.modified v.start.1 v.name) := by
  have hlog : (v.finish site.tracing g).2 = (v.outcome site.tracing g).2.2 := by
    unfold Visit.finish timeOf
    split <;> rfl
  simp only [modified_finish hq, hlog, Visit.outcome_eq]
  by_cases hs : v.isStale site.tracing g = true
  · simp only [if_pos hs]
    obtain ⟨new, hnew, hran, htime⟩ := runCommands_effects hq v.name (g.commandsOf v.name)
      (site.tracing.note (v.name ++ " is stale") v.start)
    refine ⟨new, hnew, fun _ => hran, ?_, ?_⟩
    · intro path hne he
      rw [htime path hne he]
      exact hq.note _ _ _
    · rintro (hf | hnone)
      · rw [hs] at hf
        cases hf
      · rw [hnone]
        exact hq.note _ _ _
  · simp only [if_neg hs]
    exact ⟨[], (List.append_nil _).symm, fun h => absurd h hs, fun path _ _ => hq.note _ _ _,
      fun _ => hq.note _ _ _⟩

/-- Visits of other targets whose commands spare a path leave its time. -/
theorem Chain.effects {visits : List (Visit (σ × List (Effect σ)))}
    {s s' : σ × List (Effect σ)} (hc : Chain site.tracing g s visits s') :
    ∃ new, s'.2 = s.2 ++ new ∧ ∀ path, path ∉ visits.map Visit.name →
      (∀ e ∈ new, site.Spares path e) → site.modified s'.1 path = site.modified s.1 path := by
  induction visits generalizing s with
  | nil =>
    obtain rfl := hc
    exact ⟨[], (List.append_nil _).symm, fun _ _ _ => rfl⟩
  | cons v rest ih =>
    obtain ⟨rfl, -, hrest⟩ := hc
    obtain ⟨first, hfirst, -, htime, -⟩ := visit_effects hq (g := g) v
    obtain ⟨more, hmore, hothers⟩ := ih hrest
    refine ⟨first ++ more, by rw [hmore, hfirst, List.append_assoc], ?_⟩
    intro path hn hs
    rw [List.map_cons, List.mem_cons, not_or] at hn
    rw [hothers path hn.2 fun e he => hs e (List.mem_append_right _ he)]
    exact htime path hn.1 fun e he => hs e (List.mem_append_left _ he)

end

/-- A chain of visits can be taken apart at each of them. -/
theorem Chain.split {site : Site σ} {g : Graph} {before after : List (Visit σ)} {v : Visit σ}
    {s s' : σ} (hc : Chain site g s (before ++ v :: after) s') :
    Chain site g s before v.start ∧ Chain site g (v.finish site g) after s' := by
  induction before generalizing s with
  | nil => exact ⟨hc.1, hc.2.2⟩
  | cons u before ih =>
    obtain ⟨hs, ho, hrest⟩ := hc
    obtain ⟨hbefore, hafter⟩ := ih hrest
    exact ⟨⟨hs, ho, hbefore⟩, hafter⟩

end Graph

end BuildTool
