import BuildTool.Proofs.Graph.History
import BuildTool.Proofs.Graph.InStep
import BuildTool.Proofs.Graph.Staleness

/-!
# What a pass is going to run

The times that files have before a pass tell what it is going to run, if all that commands ever do
to files is to give the one of their target a time later than any of those:

    outdated   forced, or without a time, or there is something needed that is later or has no time
    rebuilt    outdated, or in need of a target with commands that is rebuilt

Commands that do nothing leave it at what is outdated. In a pass whose commands do renew files, a
target is also rebuilt for what was rebuilt before it. Both passes come by the same targets in the
same order (`Outlook.resolve`), as the times decide only which commands are run.
-/

namespace BuildTool.Graph

/-! ## Outdated and rebuilt targets -/

section

variable (g : Graph) (time : String → Option Time)

/-- By these times a target must be built, whatever becomes of what it needs. -/
def isOutdated (name : String) : Bool :=
  g.isForced name ||
    match time name with
    | none => true
    | some own => (g.dependenciesOf name).any fun d => (time d).all fun t => decide (own < t)

/-- By these times a target is built in a pass that builds all it needs. -/
inductive Rebuilt : String → Prop
  | outdated {name : String} : g.isOutdated time name = true → Rebuilt name
  | needs {name d : String} : g.Needs name d → g.commandsOf d ≠ [] → Rebuilt d → Rebuilt name

/-- The commands of those of some targets of which something holds, with the targets. -/
def commandsWhere (must : String → Prop) [DecidablePred must] (targets : List String) :
    List (String × String) :=
  targets.flatMap fun t =>
    if must t then (g.commandsOf t).map fun command => (t, command) else []

end

section

variable {g : Graph} {time : String → Option Time} {name : String}

theorem isOutdated_iff : g.isOutdated time name = true ↔
    g.isForced name = true ∨ time name = none ∨
      ∃ own, time name = some own ∧ ∃ d, g.Needs name d ∧ ∀ t, time d = some t → own < t := by
  unfold isOutdated
  rw [Bool.or_eq_true]
  refine or_congr_right ?_
  cases time name with
  | none => simp
  | some own => simp [Needs, Option.all_eq_true]

theorem rebuilt_iff : g.Rebuilt time name ↔
    g.isOutdated time name = true ∨ ∃ d, g.Needs name d ∧ g.Rebuilt time d ∧ g.commandsOf d ≠ [] := by
  constructor
  · intro h
    cases h with
    | outdated ho => exact Or.inl ho
    | needs hn hc hr => exact Or.inr ⟨_, hn, hr, hc⟩
  · rintro (ho | ⟨d, hn, hr, hc⟩)
    · exact .outdated ho
    · exact .needs hn hc hr

variable (must : String → Prop) [DecidablePred must]

theorem commandsWhere_append (targets : List String) :
    g.commandsWhere must (targets ++ [name]) = g.commandsWhere must targets ++
      if must name then (g.commandsOf name).map fun command => (name, command) else [] := by
  simp [commandsWhere]

variable {must} {must' : String → Prop} [DecidablePred must'] {targets : List String}

theorem mem_commandsWhere {t command : String} :
    (t, command) ∈ g.commandsWhere must targets ↔
      t ∈ targets ∧ must t ∧ command ∈ g.commandsOf t := by
  unfold commandsWhere
  rw [List.mem_flatMap]
  constructor
  · rintro ⟨u, hu, hm⟩
    split at hm
    · next hmust =>
      obtain ⟨c, hc, he⟩ := List.mem_map.mp hm
      cases he
      exact ⟨hu, hmust, hc⟩
    · cases hm
  · rintro ⟨ht, hmust, hc⟩
    exact ⟨t, ht, by rw [if_pos hmust]; exact List.mem_map_of_mem hc⟩

/-- The commands of fewer targets are some of those of more. -/
theorem commandsWhere_sublist (h : ∀ t, must t → must' t) :
    (g.commandsWhere must targets).Sublist (g.commandsWhere must' targets) := by
  induction targets with
  | nil => exact .slnil
  | cons t rest ih =>
    refine List.Sublist.append ?_ ih
    by_cases hm : must t
    · simp only [if_pos hm, if_pos (h t hm), List.Sublist.refl]
    · simp only [if_neg hm, List.nil_sublist]

/-- They are all of those if the other targets have no commands. -/
theorem commandsWhere_eq_iff (h : ∀ t, must t → must' t) :
    g.commandsWhere must targets = g.commandsWhere must' targets ↔
      ∀ t ∈ targets, must' t → g.commandsOf t ≠ [] → must t := by
  constructor
  · intro he t ht hm hc
    obtain ⟨command, hcommand⟩ := List.exists_mem_of_ne_nil _ hc
    have hmem := mem_commandsWhere.mpr ⟨ht, hm, hcommand⟩
    rw [← he] at hmem
    exact (mem_commandsWhere.mp hmem).2.1
  · intro hall
    refine List.flatMap_congr fun t ht => ?_
    by_cases hm : must t
    · rw [if_pos hm, if_pos (h t hm)]
    · by_cases hm' : must' t
      · have hc : g.commandsOf t = [] := by
          by_contra hc
          exact hm (hall t ht hm' hc)
        rw [if_neg hm, if_pos hm', hc, List.map_nil]
      · rw [if_neg hm, if_neg hm']

end

/-! ## Outlooks -/

section

variable {σ : Type}

/-- Later than all times below a name. -/
def IsLate (site : Site σ) (g : Graph) (root : String) (s : σ) (time : Time) : Prop :=
  ∀ name own, g.Reaches root name → site.modified s name = some own → own < time

/-- Two states show the same files, and the same commands have been run. -/
structure Unchanged (site : Site σ) (log : σ → List (String × String)) (s s' : σ) : Prop where
  modified : ∀ name, site.modified s' name = site.modified s name
  pathExists : ∀ name, site.pathExists s' name = site.pathExists s name
  log : log s' = log s

/-- What is known beforehand of a pass below a name: the targets that must be built, and those of
them that have a late time afterwards, in states that nothing in the pass leaves. -/
structure Outlook (site : Site σ) (g : Graph) (root : String) (s₀ : σ)
    (log : σ → List (String × String)) (must renewed : String → Prop) (P : σ → Prop) : Prop where
  start : P s₀
  log_start : log s₀ = []
  note : ∀ text s, P s → P (site.note text s) ∧ Unchanged site log s (site.note text s)
  clock : ∀ s, P s → IsLate site g root s₀ (site.clock s).1 ∧ P (site.clock s).2 ∧
    Unchanged site log s (site.clock s).2
  must_iff : ∀ t, must t ↔ g.isOutdated (site.modified s₀) t = true ∨
    ∃ d, g.Needs t d ∧ renewed d
  must_of_renewed : ∀ t, renewed t → must t ∧ g.commandsOf t ≠ []
  run : ∀ t s, g.Reaches root t → must t → g.commandsOf t ≠ [] → P s →
    let out := runCommands site t (g.commandsOf t) s
    out.1 = .ok () ∧ P out.2 ∧
      log out.2 = log s ++ (g.commandsOf t).map (fun command => (t, command)) ∧
      (∀ n, g.Reaches root n → n ≠ t → site.modified out.2 n = site.modified s n ∧
        site.pathExists out.2 n = site.pathExists s n) ∧
      (renewed t → ∀ c, site.modified out.2 t = some c → IsLate site g root s₀ c) ∧
      (¬renewed t → site.modified out.2 t = site.modified s t)

/-- How far a pass has come, of which there is an outlook, with these targets done in a row. -/
structure Follows (site : Site σ) (g : Graph) (root : String) (s₀ : σ)
    (log : σ → List (String × String)) (must renewed : String → Prop) (P : σ → Prop)
    [DecidablePred must] (order : List String) (st : Graph × σ) : Prop where
  state : P st.2
  sameRecipes : SameRecipes g st.1
  isResolved : ∀ t, st.1.isResolved t = true ↔ t ∈ order
  log : log st.2 = g.commandsWhere must order
  modified : ∀ t, g.Reaches root t → t ∉ order → site.modified st.2 t = site.modified s₀ t
  pathExists : ∀ t, g.Reaches root t → st.1.contains t = false →
    site.pathExists st.2 t = site.pathExists s₀ t
  modifiedAt : ∀ t ∈ order, ∃ c, st.1.modifiedAt? t = some c ∧
    (IsLate site g root s₀ c ∧ (renewed t ∨ site.modified s₀ t = none) ∨
      site.modified s₀ t = some c ∧ ¬renewed t)

end

/-! ## One pass -/

section

variable {σ : Type} {site : Site σ} {g : Graph} {root : String} {s₀ : σ}
  {log : σ → List (String × String)} {must renewed : String → Prop} {P : σ → Prop}
  (outlook : Outlook site g root s₀ log must renewed P)
include outlook

/-- The time of a target is that of its file, or a late one. -/
theorem Outlook.timeOf (s : σ) (hP : P s) (name : String) :
    let out := timeOf site name s
    P out.2 ∧ Unchanged site log s out.2 ∧ (site.modified s name = some out.1 ∨
      site.modified s name = none ∧ IsLate site g root s₀ out.1) := by
  unfold Graph.timeOf
  cases htime : site.modified s name with
  | some time => exact ⟨hP, ⟨fun _ => rfl, fun _ => rfl, rfl⟩, Or.inl rfl⟩
  | none =>
    obtain ⟨hlate, hP', hsame⟩ := outlook.clock s hP
    exact ⟨hP', hsame, Or.inr ⟨rfl, hlate⟩⟩

variable [DecidablePred must]

/-- Before a pass nothing is done. -/
theorem Outlook.follows_start (hg : g.IsFresh) :
    Follows site g root s₀ log must renewed P [] (g, s₀) where
  state := outlook.start
  sameRecipes := .refl g
  isResolved t := by simp [hg.unresolved t]
  log := outlook.log_start
  modified _ _ _ := rfl
  pathExists _ _ _ := rfl
  modifiedAt _ ht := absurd ht List.not_mem_nil

variable {order : List String} {st : Graph × σ}
  (h : Follows site g root s₀ log must renewed P order st)
include h

omit outlook in
theorem Follows.ensure (d : String) :
    Follows site g root s₀ log must renewed P order (st.1.ensure d, st.2) where
  state := h.state
  sameRecipes := h.sameRecipes.trans (sameRecipes_ensure st.1 d)
  isResolved t := by rw [isResolved_ensure, h.isResolved t]
  log := h.log
  modified := h.modified
  pathExists t ht hc := by
    rw [contains_ensure, Bool.or_eq_false_iff] at hc
    exact h.pathExists t ht hc.2
  modifiedAt t ht := by
    rw [modifiedAt?_ensure]
    exact h.modifiedAt t ht

omit outlook in
theorem Follows.withVisiting (marks : List String) :
    Follows site g root s₀ log must renewed P order (st.1.withVisiting marks, st.2) where
  state := h.state
  sameRecipes := h.sameRecipes
  isResolved := h.isResolved
  log := h.log
  modified := h.modified
  pathExists := h.pathExists
  modifiedAt := h.modifiedAt

omit outlook in
/-- The time that the graph keeps of a target is later than one from before the pass exactly if
the target is renewed, or its time was so before, or there was none. -/
theorem Follows.isAfter_iff {t d : String} {own : Time} (hd : d ∈ order)
    (ht : g.Reaches root t) (hown : site.modified s₀ t = some own) :
    IsAfter own (st.1.modifiedAt? d) ↔
      renewed d ∨ ∀ time, site.modified s₀ d = some time → own < time := by
  obtain ⟨c, hc, ⟨hlate, hr | hnone⟩ | ⟨htime, hr⟩⟩ := h.modifiedAt d hd
  · exact ⟨fun _ => Or.inl hr, fun _ => ⟨c, hc, hlate t own ht hown⟩⟩
  · refine ⟨fun _ => Or.inr fun time htime => ?_, fun _ => ⟨c, hc, hlate t own ht hown⟩⟩
    rw [hnone] at htime
    cases htime
  · rw [hc]
    simp [IsAfter, htime, hr]

variable {name : String} (hreach : g.Reaches root name) (hready : st.1.IsReady name)
include hreach hready

omit outlook hreach in
theorem Follows.not_mem : name ∉ order := by
  intro hm
  have hr := (h.isResolved name).mpr hm
  rw [hready.unresolved] at hr
  cases hr

/-- A target whose turn it is is stale exactly if it must be built. -/
theorem Outlook.isStale_iff :
    (Visit.mk name (st.1.newestOf name) st.2).isStale site st.1 = true ↔ must name := by
  have htime := h.modified name hreach (h.not_mem hready)
  unfold Visit.isStale
  rw [Graph.isStale_iff, outlook.must_iff, isOutdated_iff, htime, h.sameRecipes.isForced]
  cases hown : site.modified s₀ name with
  | none => simp
  | some own =>
    have hafter : IsAfter own (st.1.newestOf name) ↔ ∃ d, g.Needs name d ∧
        (renewed d ∨ ∀ time, site.modified s₀ d = some time → own < time) := by
      rw [isAfter_newestOf, h.sameRecipes.needs]
      refine exists_congr fun d => and_congr_right fun hn => ?_
      rw [← h.sameRecipes.needs] at hn
      exact h.isAfter_iff ((h.isResolved d).mp (hready.needed d hn)) hreach hown
    simp only [reduceCtorEq, Option.some.injEq, exists_eq_left', false_or, hafter, and_or_left,
      exists_or, or_assoc]
    exact or_congr_right or_comm

omit outlook hreach hready in
/-- A target that need not be built, or has no commands, is only noted. -/
theorem Follows.exists_note (hstale : (Visit.mk name (st.1.newestOf name) st.2).isStale site st.1 =
    true ↔ must name) (hrun : ¬(must name ∧ g.commandsOf name ≠ [])) :
    ∃ text, (Visit.mk name (st.1.newestOf name) st.2).outcome site st.1 =
      (.ok (), site.note text st.2) := by
  rw [Visit.outcome_eq]
  by_cases hm : must name
  · have hc : g.commandsOf name = [] := by
      by_contra hc
      exact hrun ⟨hm, hc⟩
    rw [if_pos (hstale.mpr hm), h.sameRecipes.commandsOf, hc]
    exact ⟨_, rfl⟩
  · rw [if_neg fun hs => hm (hstale.mp hs)]
    exact ⟨_, rfl⟩

/-- What becomes of the files when it is the turn of a target. -/
theorem Outlook.outcome :
    let out := (Visit.mk name (st.1.newestOf name) st.2).outcome site st.1
    out.1 = .ok () ∧ P out.2 ∧ log out.2 = g.commandsWhere must (order ++ [name]) ∧
      (∀ n, g.Reaches root n → n ≠ name → site.modified out.2 n = site.modified st.2 n ∧
        site.pathExists out.2 n = site.pathExists st.2 n) ∧
      (renewed name → ∀ c, site.modified out.2 name = some c → IsLate site g root s₀ c) ∧
      (¬renewed name → site.modified out.2 name = site.modified st.2 name) := by
  have hstale := outlook.isStale_iff h hreach hready
  rw [commandsWhere_append, ← h.log]
  by_cases hrun : must name ∧ g.commandsOf name ≠ []
  · obtain ⟨hm, hc⟩ := hrun
    obtain ⟨hP, hsame⟩ := outlook.note (name ++ " is stale") st.2 h.state
    rw [Visit.outcome_eq, if_pos (hstale.mpr hm), h.sameRecipes.commandsOf, if_pos hm]
    obtain ⟨hok, hP', hlog, hothers, hrenewed, hkept⟩ := outlook.run name _ hreach hm hc hP
    refine ⟨hok, hP', by rw [hlog, hsame.log], ?_, hrenewed, ?_⟩
    · intro n hn hne
      obtain ⟨htime, hpath⟩ := hothers n hn hne
      exact ⟨htime.trans (hsame.modified n), hpath.trans (hsame.pathExists n)⟩
    · intro hr
      exact (hkept hr).trans (hsame.modified name)
  · obtain ⟨text, hout⟩ := h.exists_note hstale hrun
    obtain ⟨hP, hsame⟩ := outlook.note text st.2 h.state
    have hnone : (if must name then (g.commandsOf name).map fun command => (name, command)
        else []) = [] := by
      split
      · next hm => rw [not_not.mp fun hc => hrun ⟨hm, hc⟩, List.map_nil]
      · rfl
    rw [hout, hnone, List.append_nil]
    refine ⟨rfl, hP, hsame.log, ?_, ?_, fun _ => hsame.modified name⟩
    · exact fun n _ _ => ⟨hsame.modified n, hsame.pathExists n⟩
    · exact fun hr => absurd (outlook.must_of_renewed name hr) hrun

/-- When a target has had its turn, it is among those that are done. -/
theorem Outlook.settle :
    let out := settle site name (st.1.newestOf name) st
    out.1 = .ok () ∧ (∃ time, out.2.1 = st.1.modify name (·.doneAt time)) ∧
      Follows site g root s₀ log must renewed P (order ++ [name]) out.2 := by
  obtain ⟨hok, hP, hlog, hothers, hrenewed, hkept⟩ := outlook.outcome h hreach hready
  obtain ⟨hP', hsame, htime⟩ :=
    outlook.timeOf ((Visit.mk name (st.1.newestOf name) st.2).outcome site st.1).2 hP name
  rw [settle_of_ok hready.contains hok]
  refine ⟨rfl, ⟨_, rfl⟩, ?_⟩
  have hne : ∀ {t}, t ∉ order ++ [name] → t ∉ order ∧ t ≠ name := by
    intro t ht
    simpa using ht
  constructor
  · exact hP'
  · exact h.sameRecipes.trans (sameRecipes_doneAt hready.contains _)
  · intro t
    rw [isResolved_doneAt hready.contains, Bool.or_eq_true, beq_iff_eq, h.isResolved t,
      List.mem_append, List.mem_singleton]
    exact or_comm
  · exact hsame.log.trans hlog
  · intro t ht hno
    obtain ⟨hno, hn⟩ := hne hno
    exact (hsame.modified t).trans ((hothers t ht hn).1.trans (h.modified t ht hno))
  · intro t ht hc
    rw [contains_modify] at hc
    have hn : t ≠ name := by
      rintro rfl
      rw [hready.contains] at hc
      cases hc
    exact (hsame.pathExists t).trans ((hothers t ht hn).2.trans (h.pathExists t ht hc))
  · intro t ht
    rcases List.mem_append.mp ht with hm | ht
    · have hn : t ≠ name := by
        rintro rfl
        exact h.not_mem hready hm
      rw [modifiedAt?, targetOf_modify_of_ne hn]
      exact h.modifiedAt t hm
    · obtain rfl := List.mem_singleton.mp ht
      rw [modifiedAt?, targetOf_modify_self hready.contains]
      refine ⟨_, rfl, ?_⟩
      by_cases hr : renewed t
      · refine Or.inl ⟨?_, Or.inl hr⟩
        rcases htime with htime | ⟨-, hlate⟩
        · exact hrenewed hr _ htime
        · exact hlate
      · rw [hkept hr, h.modified t hreach (h.not_mem hready)] at htime
        rcases htime with htime | ⟨hnone, hlate⟩
        · exact Or.inr ⟨htime, hr⟩
        · exact Or.inl ⟨hlate, Or.inr hnone⟩

end

/-! ## Two passes -/

theorem Alike.refl (g : Graph) : Alike g g := ⟨.refl g, fun _ => rfl, rfl, fun _ => rfl⟩

theorem Alike.ensure {g h : Graph} (alike : Alike g h) (d : String) :
    Alike (g.ensure d) (h.ensure d) where
  sameRecipes n := by rw [targetOf_ensure, targetOf_ensure, alike.sameRecipes n]
  contains n := by rw [contains_ensure, contains_ensure, alike.contains n]
  visiting := by rw [visiting_ensure, visiting_ensure, alike.visiting]
  isResolved n := by rw [isResolved_ensure, isResolved_ensure, alike.isResolved n]

theorem Alike.doneAt {g h : Graph} (alike : Alike g h) {name : String}
    (hc : g.contains name = true) (time time' : Time) :
    Alike (g.modify name (·.doneAt time)) (h.modify name (·.doneAt time')) where
  sameRecipes :=
    (((sameRecipes_doneAt hc time).symm).trans alike.sameRecipes).trans
      (sameRecipes_doneAt (by rw [alike.contains, hc]) time')
  contains n := by rw [contains_modify, contains_modify, alike.contains n]
  visiting := alike.visiting
  isResolved n := by
    rw [isResolved_doneAt hc, isResolved_doneAt (by rw [alike.contains, hc]), alike.isResolved n]

section

variable {σ τ : Type} {a : Site σ} {b : Site τ} {g : Graph} {root : String} {s₀ : σ} {u₀ : τ}
  {log : σ → List (String × String)} {log' : τ → List (String × String)}
  {must must' renewed renewed' : String → Prop} {P : σ → Prop} {P' : τ → Prop}
  (outlook : Outlook a g root s₀ log must renewed P)
  (outlook' : Outlook b g root u₀ log' must' renewed' P')
  [DecidablePred must] [DecidablePred must']

/-- Two passes of which there are outlooks have come by the same targets. -/
def Beside (a : Site σ) (b : Site τ) (g : Graph) (root : String) (s₀ : σ) (u₀ : τ)
    (log : σ → List (String × String)) (log' : τ → List (String × String))
    (must must' renewed renewed' : String → Prop) (P : σ → Prop) (P' : τ → Prop)
    [DecidablePred must] [DecidablePred must'] (st : Graph × σ) (st' : Graph × τ) : Prop :=
  Alike st.1 st'.1 ∧ ∃ order : List String, order.Nodup ∧ (∀ t ∈ order, g.Reaches root t) ∧
    Follows a g root s₀ log must renewed P order st ∧
    Follows b g root u₀ log' must' renewed' P' order st'

include outlook outlook' in
/-- They stay beside each other, if there are the same paths before. -/
theorem Outlook.inStep (hpath : ∀ d, g.Reaches root d → b.pathExists u₀ d = a.pathExists s₀ d) :
    InStep a b root
      (Beside a b g root s₀ u₀ log log' must must' renewed renewed' P P') where
  alike h := h.1
  pathExists := by
    rintro st st' d ⟨alike, order, -, -, h, h'⟩ hd hc
    rw [h.sameRecipes.reaches] at hd
    rw [h.pathExists d hd hc, h'.pathExists d hd (by rw [alike.contains, hc]), hpath d hd]
  ensure := by
    rintro st st' d ⟨alike, order, hnodup, hreach, h, h'⟩
    exact ⟨alike.ensure d, order, hnodup, hreach, h.ensure d, h'.ensure d⟩
  withVisiting := by
    rintro st st' marks ⟨alike, order, hnodup, hreach, h, h'⟩
    exact ⟨⟨alike.sameRecipes, alike.contains, rfl, alike.isResolved⟩, order, hnodup, hreach,
      h.withVisiting marks, h'.withVisiting marks⟩
  settle := by
    rintro st st' name ⟨alike, order, hnodup, hreach, h, h'⟩ hname hready hready'
    rw [h.sameRecipes.reaches] at hname
    obtain ⟨hok, ⟨time, htime⟩, hdone⟩ := outlook.settle h hname hready
    obtain ⟨hok', ⟨time', htime'⟩, hdone'⟩ := outlook'.settle h' hname hready'
    refine ⟨hok, hok', ?_, order ++ [name], ?_, ?_, hdone, hdone'⟩
    · rw [htime, htime']
      exact alike.doneAt hready.contains time time'
    · refine List.nodup_append.mpr ⟨hnodup, by simp, ?_⟩
      rintro t ht u hu rfl
      exact h.not_mem hready (List.mem_singleton.mp hu ▸ ht)
    · intro t ht
      rcases List.mem_append.mp ht with ht | ht
      · exact hreach t ht
      · rw [List.mem_singleton.mp ht]
        exact hname

include outlook outlook' in
/-- Passes below a name end in the same way, with the same targets done in the same order. -/
theorem Outlook.resolve (hg : g.IsFresh)
    (hpath : ∀ d, g.Reaches root d → b.pathExists u₀ d = a.pathExists s₀ d) :
    (g.resolve b root u₀).1 = (g.resolve a root s₀).1 ∧
      Beside a b g root s₀ u₀ log log' must must' renewed renewed' P P'
        (g.resolve a root s₀).2 (g.resolve b root u₀).2 := by
  have hstart : Beside a b g root s₀ u₀ log log' must must' renewed renewed' P P'
      (g, s₀) (g, u₀) :=
    ⟨.refl g, [], List.nodup_nil, fun _ ht => absurd ht List.not_mem_nil,
      outlook.follows_start hg, outlook'.follows_start hg⟩
  exact (outlook.inStep outlook' hpath).resolveWithin g.depthBound root (g, s₀) (g, u₀) hstart .refl

end

end BuildTool.Graph
