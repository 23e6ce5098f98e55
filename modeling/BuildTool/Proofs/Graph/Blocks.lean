import BuildTool.Proofs.Graph.Recording

/-!
# The order of what is run

What a sequence of calls of `resolve` runs falls into blocks, one target each:

    resolve all  =  base | left | right | all
    resolve all  =  base | left, stopped by a failure
    resolve all  =         left | right | all             in a second call

A whole block is all that its target has to run, and the target has no block after it. A target
has no block before one of something it depends on. A block that is not whole ends its call.

Both follow from `IsSettled`: whatever a block's target depends on is done when the block is run,
the target itself is done after a whole block, and what is done is not run again.
-/

namespace BuildTool.Graph

variable {σ : Type}

/-- Commands that were run for one target in a row. -/
structure Block where
  target : String
  commands : List String
  deriving DecidableEq, Repr

namespace Block

def runs (b : Block) : List (String × String) := b.commands.map fun command => (b.target, command)

/-- The block is everything its target has to run. -/
def IsWhole (g : Graph) (b : Block) : Prop := b.commands = g.commandsOf b.target

/-- The block stops before the end of what its target has to run. -/
def IsPart (g : Graph) (b : Block) : Prop :=
  ∃ command rest, g.commandsOf b.target = b.commands ++ command :: rest

/-- The first block may be run before the second: it is not a whole block of the same target, and
its target does not depend on the other's. -/
def MayPrecede (g : Graph) (b c : Block) : Prop :=
  (b.IsWhole g → c.target ≠ b.target) ∧ ¬g.DependsOn b.target c.target

theorem IsPart.not_isWhole {g : Graph} {b : Block} (h : b.IsPart g) : ¬b.IsWhole g := by
  obtain ⟨command, rest, hc⟩ := h
  intro hw
  have := congrArg List.length (hw.trans hc)
  rw [List.length_append, List.length_cons] at this
  omega

end Block

/-- A call of `resolve`, with what happens outside of the graph before it. -/
structure Call (σ : Type) where
  site : Site σ
  name : String
  meanwhile : σ → σ

/-- What a call gives and what it runs. -/
structure Answer where
  result : Except BuildError Unit
  runs : List (String × String)
  deriving DecidableEq

/-- The answers to calls that follow one another on a graph. -/
def answers : List (Call σ) → Graph → σ → List Answer
  | [], _, _ => []
  | call :: rest, g, s =>
    let out := g.resolve call.site call.name (call.meanwhile s)
    ⟨out.1, g.runs call.site call.name (call.meanwhile s)⟩ :: answers rest out.2.1 out.2.2

/-- The runs of a call are these blocks: whole ones, but perhaps for the last of a call that
fails. -/
inductive Accounts (g : Graph) (answer : Answer) : List Block → Prop
  | whole {blocks : List Block} : (∀ b ∈ blocks, b.IsWhole g) →
      answer.runs = blocks.flatMap Block.runs → Accounts g answer blocks
  | part {blocks : List Block} {last : Block} {e : BuildError} : (∀ b ∈ blocks, b.IsWhole g) →
      last.IsPart g → answer.result = .error e →
      answer.runs = (blocks ++ [last]).flatMap Block.runs → Accounts g answer (blocks ++ [last])

section

variable {g h : Graph} (same : SameRecipes g h)
include same

theorem SameRecipes.isWhole : Block.IsWhole h = Block.IsWhole g := by
  funext b
  rw [Block.IsWhole, same.commandsOf, Block.IsWhole]

theorem SameRecipes.isPart : Block.IsPart h = Block.IsPart g := by
  funext b
  rw [Block.IsPart, same.commandsOf, Block.IsPart]

theorem SameRecipes.mayPrecede : Block.MayPrecede h = Block.MayPrecede g := by
  funext b c
  rw [Block.MayPrecede, same.isWhole, same.dependsOn, Block.MayPrecede]

theorem Accounts.of_sameRecipes {answer : Answer} {blocks : List Block}
    (ha : Accounts h answer blocks) : Accounts g answer blocks := by
  cases ha with
  | whole hw hr =>
    rw [same.isWhole] at hw
    exact .whole hw hr
  | part hw hp he hr =>
    rw [same.isWhole] at hw
    rw [same.isPart] at hp
    exact .part hw hp he hr

end

/-! ## Blocks that are run before others -/

/-- What a block's target depends on is done, and the target too if the block is whole. -/
structure IsSettled (g : Graph) (b : Block) : Prop where
  target : b.IsWhole g → g.isResolved b.target = true
  below : ∀ d, g.DependsOn b.target d → g.isResolved d = true

/-- A block of a target that is not done may be run after every settled one. -/
theorem IsSettled.mayPrecede {g : Graph} {b c : Block} (hb : g.IsSettled b)
    (hc : g.isResolved c.target = false) : b.MayPrecede g c := by
  constructor
  · intro hw he
    rw [he, hb.target hw] at hc
    cases hc
  · intro hd
    rw [hb.below _ hd] at hc
    cases hc

/-- The other graph is this one with more targets that are done. -/
structure Grows (g h : Graph) : Prop where
  sameRecipes : SameRecipes g h
  isResolved : ∀ name, g.isResolved name = true → h.isResolved name = true

theorem Grows.refl (g : Graph) : Grows g g := ⟨.refl g, fun _ hr => hr⟩

theorem Walk.grows {site : Site σ} {st st' : Graph × σ} {visits : List (Visit σ)}
    (w : Walk site st visits st') : Grows st.1 st'.1 :=
  ⟨w.sameRecipes, fun _ hr => w.isResolved hr⟩

theorem IsSettled.grows {g h : Graph} {b : Block} (hb : g.IsSettled b) (hg : Grows g h) :
    h.IsSettled b where
  target hw := by
    rw [hg.sameRecipes.isWhole] at hw
    exact hg.isResolved _ (hb.target hw)
  below d hd := by
    rw [hg.sameRecipes.dependsOn] at hd
    exact hg.isResolved _ (hb.below d hd)

/-- What holds of blocks that are run between one graph and another: they may follow each other
in their order, they belong to targets that were not done before, and they are settled after. -/
structure AreNew (g h : Graph) (blocks : List Block) : Prop where
  ordered : blocks.Pairwise (Block.MayPrecede g)
  unresolved : ∀ b ∈ blocks, g.isResolved b.target = false
  acyclic : ∀ b ∈ blocks, ¬g.DependsOn b.target b.target
  settled : ∀ b ∈ blocks, h.IsSettled b

theorem areNew_nil (g h : Graph) : AreNew g h [] := ⟨.nil, by simp, by simp, by simp⟩

/-- Blocks that are run later may follow those that are run earlier. -/
theorem AreNew.append {g h k : Graph} {blocks more : List Block} (hn : AreNew g h blocks)
    (hm : AreNew h k more) (hgh : Grows g h) (hhk : Grows h k) : AreNew g k (blocks ++ more) where
  ordered := by
    refine List.pairwise_append.mpr ⟨hn.ordered, ?_, ?_⟩
    · rw [← hgh.sameRecipes.mayPrecede]
      exact hm.ordered
    · intro b hb c hc
      rw [← hgh.sameRecipes.mayPrecede]
      exact (hn.settled b hb).mayPrecede (hm.unresolved c hc)
  unresolved b hb := by
    rcases List.mem_append.mp hb with hb | hb
    · exact hn.unresolved b hb
    · by_cases hr : g.isResolved b.target = true
      · have := hm.unresolved b hb
        rw [hgh.isResolved _ hr] at this
        cases this
      · exact Bool.eq_false_iff.mpr hr
  acyclic b hb := by
    rcases List.mem_append.mp hb with hb | hb
    · exact hn.acyclic b hb
    · rw [← hgh.sameRecipes.dependsOn]
      exact hm.acyclic b hb
  settled b hb := by
    rcases List.mem_append.mp hb with hb | hb
    · exact (hn.settled b hb).grows hhk
    · exact hm.settled b hb

/-- A block of a ready target is new up to a graph where the block is settled. -/
theorem IsReady.areNew {g h : Graph} {b : Block} (hr : g.IsReady b.target) (hs : g.IsSound)
    (hg : Grows g h) (hb : b.IsWhole g → h.isResolved b.target = true) : AreNew g h [b] where
  ordered := List.pairwise_singleton _ _
  unresolved c hc := by
    rw [List.mem_singleton.mp hc]
    exact hr.unresolved
  acyclic c hc := by
    rw [List.mem_singleton.mp hc]
    exact hr.not_dependsOn_self hs
  settled c hc := by
    rw [List.mem_singleton.mp hc]
    constructor
    · intro hw
      rw [hg.sameRecipes.isWhole] at hw
      exact hb hw
    · intro d hd
      rw [hg.sameRecipes.dependsOn] at hd
      exact hg.isResolved d (hr.isResolved_of_dependsOn hs hd)

/-! ## The blocks of a walk -/

/-- The block of a visit, if its target is stale. -/
def Visit.blocks (site : Site σ) (g : Graph) (v : Visit σ) : List Block :=
  if v.isStale site g then [⟨v.name, g.commandsOf v.name⟩] else []

theorem Visit.eq_of_mem_blocks {site : Site σ} {g : Graph} {v : Visit σ} {b : Block}
    (hb : b ∈ v.blocks site g) : b = ⟨v.name, g.commandsOf v.name⟩ := by
  unfold blocks at hb
  split at hb
  · exact List.mem_singleton.mp hb
  · cases hb

theorem Visit.flatMap_blocks (site : Site σ) (g : Graph) (v : Visit σ) :
    (v.blocks site g).flatMap Block.runs = v.runs site g := by
  unfold blocks runs
  split
  · exact List.flatMap_singleton _ _
  · rfl

theorem flatMap_blocks (site : Site σ) (g : Graph) (visits : List (Visit σ)) :
    (visits.flatMap (Visit.blocks site g)).flatMap Block.runs =
      visits.flatMap (Visit.runs site g) := by
  rw [List.flatMap_assoc]
  simp only [Visit.flatMap_blocks]

theorem SameRecipes.blocks {g h : Graph} (same : SameRecipes g h) (site : Site σ) :
    Visit.blocks site h = Visit.blocks site g := by
  funext v
  rw [Visit.blocks, same.isStale, same.commandsOf, Visit.blocks]

theorem isWhole_of_mem_blocks {site : Site σ} {g : Graph} {visits : List (Visit σ)} {b : Block}
    (hb : b ∈ visits.flatMap (Visit.blocks site g)) : b.IsWhole g := by
  obtain ⟨v, -, hv⟩ := List.mem_flatMap.mp hb
  rw [Visit.eq_of_mem_blocks hv]
  rfl

theorem grows_ensure (g : Graph) (name : String) : Grows g (g.ensure name) :=
  ⟨sameRecipes_ensure g name, fun other hr => by rw [isResolved_ensure, hr]⟩

theorem grows_doneAt {g : Graph} {name : String} (hc : g.contains name = true) (time : Time) :
    Grows g (g.modify name (·.doneAt time)) :=
  ⟨sameRecipes_doneAt hc time,
    fun other hr => by rw [isResolved_doneAt hc, hr, Bool.or_true]⟩

/-- The block of a visit is settled once the target is done. -/
theorem Visit.areNew (site : Site σ) {g : Graph} {v : Visit σ} (hr : g.IsReady v.name)
    (hs : g.IsSound) (time : Time) :
    AreNew g (g.modify v.name (·.doneAt time)) (v.blocks site g) := by
  unfold blocks
  split
  · refine IsReady.areNew (b := ⟨v.name, _⟩) hr hs (grows_doneAt hr.contains time) fun _ => ?_
    rw [isResolved_doneAt hr.contains]
    simp
  · exact areNew_nil _ _

theorem Walk.areNew {site : Site σ} {st st' : Graph × σ} {visits : List (Visit σ)}
    (w : Walk site st visits st') (hs : st.1.IsSound) :
    AreNew st.1 st'.1 (visits.flatMap (Visit.blocks site st.1)) := by
  induction w with
  | refl => exact areNew_nil _ _
  | @adopt g s _ d _ _ _ _ _ w ih =>
    have := (areNew_nil g _).append (ih (hs.ensure d)) (grows_ensure g d) w.grows
    rw [(sameRecipes_ensure g d).blocks] at this
    exact this
  | @visit g v _ _ hr _ _ w ih =>
    have := (Visit.areNew site hr hs _).append (ih (hs.doneAt hr _))
      (grows_doneAt hr.contains _) w.grows
    rw [(sameRecipes_doneAt hr.contains _).blocks] at this
    exact this

/-! ## The blocks of a call -/

theorem filterMap_run?_block (b : Block) :
    (b.commands.map fun c => Attempt.mk b.target c true).filterMap Attempt.run? = b.runs := by
  rw [List.filterMap_map]
  exact congrFun List.filterMap_eq_map _

/-- What a call runs is new, and makes up blocks of which at most the last is not whole. -/
theorem exists_blocks_of_resolve (site : Site σ) (name : String) {g : Graph} (s : σ)
    (hs : g.IsSound) :
    ∃ blocks, Accounts g ⟨(g.resolve site name s).1, g.runs site name s⟩ blocks ∧
      AreNew g (g.resolve site name s).2.1 blocks ∧ Grows g (g.resolve site name s).2.1 ∧
      (g.resolve site name s).2.1.IsSound := by
  rw [resolve_recording site name g s []]
  unfold runs attempts
  have hp := resolve_isPass site.recording name g (s, [])
  generalize g.resolve site.recording name (s, []) = out at hp ⊢
  obtain ⟨result, h, s₁, log⟩ := out
  obtain ⟨visits, s', w, -, hends⟩ := hp
  have hsound : h.IsSound := w.isSound hs
  have hnew := w.areNew hs
  have hlog := w.record
  have hwhole : ∀ b ∈ visits.flatMap (Visit.blocks site.recording g), b.IsWhole g :=
    fun b hb => isWhole_of_mem_blocks hb
  simp only [List.nil_append] at hlog
  rcases hends.record with he | ⟨e, target, done, c, rest, he, hready, hc, hl⟩
  · refine ⟨_, .whole hwhole ?_, hnew, w.grows, hsound⟩
    change log.filterMap Attempt.run? = _
    rw [show log = s'.2 from congrArg Prod.snd he, hlog, filterMap_run?_ofRun, flatMap_blocks]
  · let last : Block := ⟨target, done⟩
    have hpart : last.IsPart h := ⟨c, rest, hc⟩
    have hmore : AreNew h h [last] := IsReady.areNew (b := last) hready hsound (.refl h)
      fun hw => absurd hw hpart.not_isWhole
    rw [w.sameRecipes.isPart] at hpart
    refine ⟨_, .part hwhole hpart he ?_, hnew.append hmore w.grows (.refl h), w.grows, hsound⟩
    change log.filterMap Attempt.run? = _
    have hl' : log = s'.2 ++ (done.map fun c => ⟨target, c, true⟩) ++ [⟨target, c, false⟩] := hl
    rw [hl', hlog, List.filterMap_append, List.filterMap_append, filterMap_run?_ofRun,
      List.flatMap_append, flatMap_blocks, filterMap_run?_block last]
    simp [Attempt.run?]

/-! ## The blocks of many calls -/

theorem exists_blocks_of_answers (calls : List (Call σ)) {g : Graph} (s : σ) (hs : g.IsSound) :
    ∃ blocks h, List.Forall₂ (Accounts g) (g.answers calls s) blocks ∧
      AreNew g h blocks.flatten ∧ Grows g h := by
  induction calls generalizing g s with
  | nil => exact ⟨[], g, .nil, areNew_nil g g, .refl g⟩
  | cons call rest ih =>
    obtain ⟨first, hacc, hnew, hgrows, hsound⟩ :=
      exists_blocks_of_resolve call.site call.name (call.meanwhile s) hs
    obtain ⟨blocks, h, hall, hmore, hgrows'⟩ :=
      ih (g.resolve call.site call.name (call.meanwhile s)).2.2 hsound
    refine ⟨first :: blocks, h, ?_, hnew.append hmore hgrows hgrows', ?_⟩
    · exact .cons hacc (hall.imp fun _ _ ha => ha.of_sameRecipes hgrows.sameRecipes)
    · exact ⟨hgrows.sameRecipes.trans hgrows'.sameRecipes,
        fun n hr => hgrows'.isResolved n (hgrows.isResolved n hr)⟩

/-- Whatever the calls on a graph without a target that is done, what they run is a sequence of
blocks: a target has one whole block at most and none after it, and none before a block of
something it depends on. A block that is not whole is the last of a call that fails. -/
theorem answers_in_blocks {g : Graph} (hg : ∀ name, g.isResolved name = false)
    (calls : List (Call σ)) (s : σ) :
    ∃ blocks : List (List Block), List.Forall₂ (Accounts g) (g.answers calls s) blocks ∧
      blocks.flatten.Pairwise (Block.MayPrecede g) ∧
      ∀ b ∈ blocks.flatten, ¬g.DependsOn b.target b.target := by
  obtain ⟨blocks, h, hall, hnew, -⟩ :=
    exists_blocks_of_answers calls s (isSound_of_none_resolved hg)
  exact ⟨blocks, hall, hnew.ordered, hnew.acyclic⟩

/-- A program and its object file, whose second command fails. -/
def brokenProgram : Graph where
  targets := [("app", { name := "app", dependencies := ["app.o"], commands := ["link"] }),
    ("app.o", { name := "app.o", commands := ["cc", "false"] })]

theorem answers_in_blocks_brokenProgram :
    (∀ name, brokenProgram.isResolved name = false) ∧
      brokenProgram.answers [⟨.shelf, "app", id⟩, ⟨.shelf, "app", fun _ => []⟩] [] =
        [⟨.error (.command (.failed "false" "exit status: 1")), [("app.o", "cc")]⟩,
          ⟨.error (.command (.failed "false" "exit status: 1")), [("app.o", "cc")]⟩] ∧
      ∃ blocks : List (List Block),
        List.Forall₂ (Accounts brokenProgram)
          (brokenProgram.answers [⟨.shelf, "app", id⟩, ⟨.shelf, "app", fun _ => []⟩] []) blocks ∧
        blocks.flatten.Pairwise (Block.MayPrecede brokenProgram) ∧
        ∀ b ∈ blocks.flatten, ¬brokenProgram.DependsOn b.target b.target := by
  have hg : ∀ name, brokenProgram.isResolved name = false := isResolved_eq_false (by decide)
  exact ⟨hg, by decide +kernel, answers_in_blocks hg _ []⟩

end BuildTool.Graph
