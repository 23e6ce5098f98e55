import BuildTool.Proofs.Graph.Declaration
import BuildTool.Proofs.Graph.Leftover
import BuildTool.Proofs.Graph.Newest
import BuildTool.Proofs.Graph.Recording

/-!
# Passes after other passes

Between the loading of a script and a pass there may have been any number of other passes, as
when a target is watched. What they leave in the graph after `unresolveAll` are times, which are
not read before they are written again, and targets for names that no line declares.

    declare a: x.c      x.c there      resolve a   =   ok
    unresolveAll        x.c deleted    resolve a   =   ok
    loaded anew                        resolve a   =   unknown dependency x.c

A pass is the same as over the graph as it was loaded exactly if neither its own name nor a name
whose path it would find missing is among the targets that are left over.
-/

namespace BuildTool.Graph

variable {σ : Type}

/-- Nothing in the graph is done or marked. -/
structure IsFresh (g : Graph) : Prop where
  unresolved : ∀ name, g.isResolved name = false
  unmarked : g.visiting = []

/-! ## Graphs of scripts -/

theorem isFresh_empty : IsFresh {} := ⟨fun _ => rfl, rfl⟩

theorem IsFresh.of_declares {g h : Graph} (hg : g.IsFresh) (hd : Declares g h) : h.IsFresh where
  unresolved name := (hd.targetOf name).2.1.trans (hg.unresolved name)
  unmarked := hd.visiting.trans hg.unmarked

/-- The graph that a script declares is fresh, however far the script was carried out. -/
theorem isFresh_of_run (say : String → σ → Except BuildError σ) (script : String)
    {st : Plan × σ} (hp : st.1.graph.IsFresh) :
    (Script.run say script st).2.1.graph.IsFresh :=
  graph_of_run (fun _ _ hd hg => hg.of_declares hd) script hp

/-! ## What happens between two passes -/

/-- Something that may happen before a pass. -/
inductive Move (σ : Type)
  /-- the world outside of the graph changes -/
  | meanwhile (change : σ → σ)
  | pass (site : Site σ) (name : String)
  /-- the times below a name are looked at -/
  | look (modified : String → Option Time) (name : String)
  | unresolve

/-- What becomes of a graph and the state outside of it. -/
def Move.apply : Move σ → Graph × σ → Graph × σ
  | .meanwhile change, (g, s) => (g, change s)
  | .pass site name, (g, s) => (g.resolve site name s).2
  | .look modified name, (g, s) => ((g.lastUpdatedFrom modified name).2, s)
  | .unresolve, (g, s) => (g.unresolveAll, s)

def after (moves : List (Move σ)) (st : Graph × σ) : Graph × σ :=
  moves.foldl (fun st move => move.apply st) st

/-- Looking at times changes nothing. -/
@[simp] theorem Move.apply_look (modified : String → Option Time) (name : String)
    (st : Graph × σ) : (Move.look modified name).apply st = st :=
  congrArg (·, st.2) (lastUpdatedWithin_graph modified st.1.depthBound name st.1)

/-- The graph has the recipes, marks and at least the targets that it had before a move. -/
theorem Move.keeps (move : Move σ) (st : Graph × σ) :
    SameRecipes st.1 (move.apply st).1 ∧ (move.apply st).1.visiting = st.1.visiting ∧
      ∀ name, st.1.contains name = true → (move.apply st).1.contains name = true := by
  obtain ⟨g, s⟩ := st
  cases move with
  | meanwhile => exact ⟨.refl g, rfl, fun _ hc => hc⟩
  | pass site name =>
    obtain ⟨visits, s', w, -⟩ := resolve_isPass site name g s
    exact ⟨w.sameRecipes, w.visiting, fun _ hc => w.contains hc⟩
  | look modified name =>
    rw [apply_look]
    exact ⟨.refl g, rfl, fun _ hc => hc⟩
  | unresolve =>
    refine ⟨sameRecipes_unresolveAll g, rfl, ?_⟩
    intro name hc
    rw [Move.apply, contains_unresolveAll]
    exact hc

theorem after_keeps (moves : List (Move σ)) (st : Graph × σ) :
    SameRecipes st.1 (after moves st).1 ∧ (after moves st).1.visiting = st.1.visiting ∧
      ∀ name, st.1.contains name = true → (after moves st).1.contains name = true := by
  induction moves generalizing st with
  | nil => exact ⟨.refl st.1, rfl, fun _ hc => hc⟩
  | cons move rest ih =>
    obtain ⟨same, hv, hc⟩ := move.keeps st
    obtain ⟨same', hv', hc'⟩ := ih (move.apply st)
    exact ⟨same.trans same', hv'.trans hv, fun name h => hc' name (hc name h)⟩

/-- After any moves and `unresolveAll` a fresh graph is as before, but for what is left over. -/
theorem IsFresh.leftover {g : Graph} (hg : g.IsFresh) (moves : List (Move σ)) (s : σ) :
    let h := (after moves (g, s)).1.unresolveAll
    Leftover (fun name => h.contains name = true) g h := by
  intro h
  obtain ⟨same, hv, hc⟩ := after_keeps moves (g, s)
  have hres : ∀ name, h.isResolved name = false := isResolved_unresolveAll _
  refine ⟨same.trans (sameRecipes_unresolveAll _), ?_, hv, ?_, ?_⟩
  · intro name
    constructor
    · exact Or.inr
    · rintro (hn | hn)
      · rw [contains_unresolveAll]
        exact hc name hn
      · exact hn
  · intro name
    rw [hres name, hg.unresolved name]
  · intro name hr
    rw [hg.unresolved name] at hr
    cases hr

/-! ## The first step of a pass -/

/-- A name without a target ends a pass over a fresh graph. -/
theorem resolve_of_not_contains {g : Graph} (hg : g.IsFresh) {site : Site σ} {name : String}
    (hc : g.contains name = false) (s : σ) :
    (g.resolve site name s).1 = .error (.unknownTarget name) := by
  have hm : name ∉ g.visiting := by
    rw [hg.unmarked]
    exact List.not_mem_nil
  unfold resolve depthBound
  rw [resolveWithin_succ, if_neg (Bool.eq_false_iff.mp (hg.unresolved name)), if_neg hm]
  rw [resolveMarked_of_not_contains hc]

/-- A target without dependencies or commands is resolved. -/
theorem resolve_of_no_recipe {g : Graph} (hg : g.IsFresh) {site : Site σ} {name : String}
    (hc : g.contains name = true) (hd : g.dependenciesOf name = [])
    (hcommands : g.commandsOf name = []) (s : σ) : (g.resolve site name s).1 = .ok () := by
  have hf : (g.enter name).find? name = some (g.targetOf name) := find?_of_contains hc
  have hm : name ∉ g.visiting := by
    rw [hg.unmarked]
    exact List.not_mem_nil
  unfold dependenciesOf at hd
  unfold commandsOf at hcommands
  have hr : ∀ newest s', (refresh site name (g.targetOf name) newest s').1 = .ok () := by
    intro newest s'
    unfold refresh
    rw [hcommands]
    split <;> rfl
  unfold resolve depthBound
  rw [resolveWithin_succ, if_neg (Bool.eq_false_iff.mp (hg.unresolved name)), if_neg hm]
  simp only [resolveMarked, hf, hd, resolveAll, settle]
  have hok := hr none s
  rcases ho : refresh site name (g.targetOf name) none s with ⟨e | _, s'⟩
  · rw [ho] at hok
    cases hok
  · rfl

/-! ## What is left over shows -/

/-- A pass that finds a path missing ends there, without a command that failed. -/
theorem Checks.resolve_eq {site : Site σ} {name d : String} {g : Graph} {s s' : σ}
    (hk : Checks site g.depthBound name (g, s) d s') (hp : site.pathExists s' d = false) :
    (∃ t, (g.resolve site name s).1 = .error (.unknownDependency t d)) ∧
      ∀ a ∈ g.attempts site name s, a.succeeded = true := by
  obtain ⟨s₁, rfl, hk₁⟩ := hk.of_view site.recording_isView (g, s, []) rfl
  obtain ⟨t, k, ho⟩ := hk₁.resolveWithin_eq hp
  obtain ⟨visits, k', w⟩ := hk₁.exists_walk
  have hout : g.resolve site.recording name (s, []) =
    (.error (.unknownDependency t d), k, s₁) := ho
  constructor
  · rw [resolve_recording site name g s [], hout]
    exact ⟨t, rfl⟩
  · intro a ha
    rw [attempts, hout] at ha
    have hlog : s₁.2 = _ := w.record
    change a ∈ s₁.2 at ha
    rw [hlog, List.nil_append] at ha
    obtain ⟨run, -, rfl⟩ := List.mem_map.mp ha
    rfl

/-- A pass over left-over targets agrees with one over the graph without them, if it has paths
where it checks for them. -/
theorem Leftover.resolve_eq {left : String → Prop} {g h : Graph} (rel : Leftover left g h)
    (hg : g.visiting = []) {site : Site σ} {name : String} {s : σ}
    (hl : left name → g.contains name = true)
    (hp : Present left site g.depthBound name (g, s)) :
    (h.resolve site name s).1 = (g.resolve site name s).1 ∧
      h.attempts site name s = g.attempts site name s := by
  have hh : h.visiting = [] := rel.visiting.trans hg
  have hp' : Present left site.recording g.depthBound name (g, s, []) :=
    fun d s' hk hld => hp d s'.1 (hk.view site.recording_isView) hld
  have hagree : Agree left (g.resolve site.recording name (s, []))
      (h.resolve site.recording name (s, [])) :=
    agreeAt left site.recording g.depthBound h.depthBound name g h (s, []) rel
      (marked_depthBound hg name) (marked_depthBound hh name) hl hp'
  constructor
  · rw [resolve_recording site name h s [], resolve_recording site name g s []]
    exact hagree.result
  · exact congrArg Prod.snd hagree.state

section

variable {left : String → Prop} {g h : Graph} {site : Site σ} {name : String} {s : σ}

/-- A left-over target of its own name lets a pass end well that would not begin without it. -/
theorem Leftover.contains_of_eq (rel : Leftover left g h) (hg : g.IsFresh) (hh : h.IsFresh)
    (hresult : (h.resolve site name s).1 = (g.resolve site name s).1)
    (hc : h.contains name = true) : g.contains name = true := by
  by_cases hgc : g.contains name = true
  · exact hgc
  · have hno := Bool.eq_false_iff.mpr hgc
    have hd : h.dependenciesOf name = [] := by
      rw [rel.sameRecipes.dependenciesOf, dependenciesOf, targetOf_of_not_contains hno]
    have hcommands : h.commandsOf name = [] := by
      rw [rel.sameRecipes.commandsOf, commandsOf, targetOf_of_not_contains hno]
    rw [resolve_of_no_recipe hh hc hd hcommands, resolve_of_not_contains hg hno] at hresult
    cases hresult

/-- A pass that ends at a missing path is unlike every pass over a graph with a target there. -/
theorem pathExists_of_eq (hresult : (h.resolve site name s).1 = (g.resolve site name s).1)
    (hattempts : h.attempts site name s = g.attempts site name s) {d : String} {s' : σ}
    (hk : Checks site g.depthBound name (g, s) d s') (hc : h.contains d = true) :
    site.pathExists s' d = true := by
  by_cases hp : site.pathExists s' d = true
  · exact hp
  · obtain ⟨⟨t, ht⟩, hall⟩ := hk.resolve_eq (Bool.eq_false_iff.mpr hp)
    rw [ht] at hresult
    rw [← hattempts] at hall
    -- the other pass has no failing command either, and it does not look for this path
    rcases resolve_cases hall with ho | ⟨c, ho⟩ | ⟨-, ho⟩ | ⟨t', d', s'', ho, hk', -⟩
    · rw [ho] at hresult
      cases hresult
    · rw [ho] at hresult
      cases hresult
    · rw [ho] at hresult
      cases hresult
    · rw [ho] at hresult
      cases hresult
      rw [show h.contains d = false from hk'.needs.1] at hc
      cases hc

end

/-- A pass after any other passes gives the same and runs the same as over the graph as it was
loaded exactly if its name is not one that only earlier passes made a target for, and there is a
path wherever the pass over the loaded graph checks for such a name. -/
theorem resolve_after_eq_iff {g : Graph} (hg : g.IsFresh) (moves : List (Move σ)) (s₀ : σ)
    (site : Site σ) (name : String) (s : σ) :
    let h := (after moves (g, s₀)).1.unresolveAll
    ((h.resolve site name s).1 = (g.resolve site name s).1 ∧
        h.attempts site name s = g.attempts site name s) ↔
      (h.contains name = true → g.contains name = true) ∧
        ∀ d s', Checks site g.depthBound name (g, s) d s' → h.contains d = true →
          site.pathExists s' d = true := by
  intro h
  have rel : Leftover (fun name => h.contains name = true) g h := hg.leftover moves s₀
  have hh : h.IsFresh :=
    ⟨fun n => (rel.isResolved n).trans (hg.unresolved n), rel.visiting.trans hg.unmarked⟩
  constructor
  · rintro ⟨hresult, hattempts⟩
    refine ⟨rel.contains_of_eq hg hh hresult, ?_⟩
    intro d s' hk hc
    exact pathExists_of_eq hresult hattempts hk hc
  · rintro ⟨hl, hp⟩
    exact rel.resolve_eq hg.unmarked hl hp

/-- One target, made from a file that no line declares. -/
def object : Graph where
  targets := [("a", { name := "a", dependencies := ["x.c"], commands := ["cc"] })]

theorem graph_eq_object :
    (Script.run (fun _ out => .ok out) "a: x.c\na <- cc\n" ({}, ())).2.1.graph = object := by
  decide +kernel

theorem object_isFresh : object.IsFresh := by
  rw [← graph_eq_object]
  exact isFresh_of_run _ _ isFresh_empty

/-- The file is there in a first pass and deleted before the second, which does not notice. -/
theorem object_forgets_deleted_file :
    let h := (after [.pass .shelf "a"] (object, [("x.c", 1)])).1.unresolveAll
    (h.resolve .shelf "a" []).1 = .ok () ∧ h.runs .shelf "a" [] = [("a", "cc")] ∧
      (object.resolve .shelf "a" []).1 = .error (.unknownDependency "a" "x.c") ∧
      object.runs .shelf "a" [] = [] ∧
      (h.resolve .shelf "x.c" []).1 = .ok () ∧
      (object.resolve .shelf "x.c" []).1 = .error (.unknownTarget "x.c") := by
  decide

/-- By the theorem, the pass over the loaded graph checks for a path that is missing. -/
theorem resolve_after_eq_iff_object :
    object.IsFresh ∧ ∃ d s', Checks .shelf object.depthBound "a" (object, []) d s' ∧
      (after [.pass .shelf "a"] (object, [("x.c", 1)])).1.unresolveAll.contains d = true ∧
      Site.shelf.pathExists s' d = false := by
  refine ⟨object_isFresh, ?_⟩
  have hiff := resolve_after_eq_iff object_isFresh [.pass .shelf "a"] [("x.c", 1)] .shelf "a" []
  by_contra hno
  have hsame := hiff.mpr ⟨fun _ => by decide, fun d s' hk hc => by
    by_contra hp
    exact hno ⟨d, s', hk, hc, Bool.eq_false_iff.mpr hp⟩⟩
  revert hsame
  decide

end BuildTool.Graph
