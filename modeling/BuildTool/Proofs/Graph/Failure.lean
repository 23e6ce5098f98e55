import BuildTool.Proofs.Graph.Depth
import BuildTool.Proofs.Graph.Frame

/-!
# What a pass leaves that fails

A pass fails with an error that arises in one call of `resolve`, at the end of a path of names that
leads down from the name of the pass. The error goes up along the path, and nothing else happens:

    all: left right     left done, right fails     path all, right
    all                 not done                   left stays done

The targets on the path are not done and have the times they had. What was done before stays done,
and a command that failed is the last that was run.
-/

namespace BuildTool

variable {σ : Type}

/-! ## What commands are answered -/

/-- What a site answered to a command of a target. -/
structure Reply where
  target : String
  command : String
  result : Except BuildError Unit
  deriving DecidableEq

/-- The site with a record of what it answers to commands. -/
def Site.replying (site : Site σ) : Site (σ × List Reply) where
  pathExists s := site.pathExists s.1
  modified s := site.modified s.1
  clock s := ((site.clock s.1).1, (site.clock s.1).2, s.2)
  note text s := (site.note text s.1, s.2)
  run target command s :=
    let out := site.run target command s.1
    (out.1, out.2, s.2 ++ [⟨target, command, out.1⟩])

theorem Site.replying_isView (site : Site σ) : IsView Prod.fst site.replying site where
  pathExists _ _ := rfl
  modified _ _ := rfl
  clock _ := rfl
  note _ _ := rfl
  run _ _ _ := rfl

/-- All commands so far have succeeded. -/
def AllWell (replies : List Reply) : Prop := ∀ r ∈ replies, r.result = .ok ()

/-- The last command has failed with this error, and those before it have succeeded. -/
def FailsLast (e : BuildError) (replies : List Reply) : Prop :=
  ∃ before last, replies = before ++ [last] ∧ AllWell before ∧ last.result = .error e

/-- Nothing is run after a command that failed. -/
theorem FailsLast.eq_nil {e e' : BuildError} {before after : List Reply} {r : Reply}
    (h : FailsLast e (before ++ r :: after)) (hr : r.result = .error e') : after = [] ∧ e' = e := by
  obtain ⟨first, last, heq, hwell, hlast⟩ := h
  rcases List.eq_nil_or_concat after with rfl | ⟨mid, x, rfl⟩
  · obtain ⟨-, hx⟩ := List.append_inj' heq rfl
    rw [List.singleton_inj.mp hx, hlast] at hr
    exact ⟨rfl, (Except.error.inj hr).symm⟩
  · rw [List.concat_eq_append, ← List.cons_append, ← List.append_assoc] at heq
    obtain ⟨rfl, -⟩ := List.append_inj' heq rfl
    rw [hwell r (by simp)] at hr
    cases hr

namespace Graph

/-- What the commands of a pass are answered, in their order. -/
def replies (site : Site σ) (name : String) (g : Graph) (s : σ) : List Reply :=
  (g.resolve site.replying name (s, [])).2.2.2

section

variable {site : Site σ}

theorem runCommands_replies (target : String) (commands : List String) {st : σ × List Reply}
    (h : AllWell st.2) :
    let out := runCommands site.replying target commands st
    (out.1 = .ok () ∧ AllWell out.2.2) ∨ ∃ e, out.1 = .error e ∧ FailsLast e out.2.2 := by
  induction commands generalizing st with
  | nil => exact Or.inl ⟨rfl, h⟩
  | cons command rest ih =>
    rw [runCommands]
    rcases ho : site.run target command (site.note (target ++ ": " ++ command) st.1)
      with ⟨e | _, s'⟩
    · have hrun : site.replying.run target command
          (site.replying.note (target ++ ": " ++ command) st) =
            (.error e, s', st.2 ++ [⟨target, command, .error e⟩]) := by
        simp only [Site.replying, ho]
      rw [hrun]
      exact Or.inr ⟨e, rfl, st.2, _, rfl, h, rfl⟩
    · have hrun : site.replying.run target command
          (site.replying.note (target ++ ": " ++ command) st) =
            (.ok (), s', st.2 ++ [⟨target, command, .ok ()⟩]) := by
        simp only [Site.replying, ho]
      rw [hrun]
      have hwell : AllWell (st.2 ++ [⟨target, command, .ok ()⟩]) := by
        intro r hr
        rcases List.mem_append.mp hr with hr | hr
        · exact h r hr
        · rw [List.mem_singleton.mp hr]
      exact ih hwell

variable {g : Graph} {v : Visit (σ × List Reply)}

theorem outcome_replies (h : AllWell v.start.2) :
    let out := v.outcome site.replying g
    (out.1 = .ok () ∧ AllWell out.2.2) ∨ ∃ e, out.1 = .error e ∧ FailsLast e out.2.2 := by
  rw [Visit.outcome_eq]
  split
  · exact runCommands_replies v.name (g.commandsOf v.name) h
  · exact Or.inl ⟨rfl, h⟩

theorem Walk.allWell {st st' : Graph × σ × List Reply} {visits : List (Visit (σ × List Reply))}
    (w : Walk site.replying st visits st') (h : AllWell st.2.2) : AllWell st'.2.2 := by
  induction w with
  | refl => exact h
  | adopt _ _ _ _ ih => exact ih h
  | @visit g v _ _ _ _ ho _ ih =>
    refine ih ?_
    have hfinish : (v.finish site.replying g).2 = (v.outcome site.replying g).2.2 := by
      unfold Visit.finish timeOf
      split <;> rfl
    rcases outcome_replies (g := g) h with ⟨-, hwell⟩ | ⟨e, he, -⟩
    · exact hfinish ▸ hwell
    · rw [ho] at he
      cases he

end

/-- In a pass only the last command can fail, and the pass fails with its error. -/
theorem replies_cases (site : Site σ) (name : String) (g : Graph) (s : σ) :
    AllWell (g.replies site name s) ∨
      ∃ e, (g.resolve site name s).1 = .error e ∧ FailsLast e (g.replies site name s) := by
  rw [show g.resolve site name s = _ from resolve_view site.replying_isView name g (s, [])]
  have hp := resolve_isPass site.replying name g (s, [])
  unfold replies
  generalize g.resolve site.replying name (s, []) = out at hp ⊢
  obtain ⟨result, h, final⟩ := out
  obtain ⟨visits, s', w, -, hends⟩ := hp
  have hwell : AllWell s'.2 := w.allWell (fun r hr => nomatch hr)
  simp only [Prod.map_fst, id_eq] at hends ⊢
  cases hends with
  | done => exact Or.inl hwell
  | cyclic => exact Or.inl hwell
  | unknownTarget => exact Or.inl hwell
  | unknownDependency => exact Or.inl hwell
  | @failed v e _ _ _ _ hstart ho =>
    subst hstart
    rcases outcome_replies (g := h) hwell with ⟨hok, -⟩ | ⟨e', he, hlast⟩
    · rw [ho] at hok
      cases hok
    · rw [ho] at he hlast
      cases he
      exact Or.inr ⟨e, rfl, hlast⟩

/-! ## Where an error arises -/

/-- The call for a name that is not done ends with an error that no call below it has made: the name
is marked, has no target, needs something that is unknown, or has a command that fails. -/
inductive Raises (site : Site σ) (name : String) (st : Graph × σ) : BuildError → Prop
  | cyclic : name ∈ st.1.visiting → Raises site name st (.cyclicDependency name)
  | unknownTarget : name ∉ st.1.visiting → st.1.contains name = false →
      Raises site name st (.unknownTarget name)
  | unknownDependency {before after : List String} {d : String} {newest : Option Time}
      {st' : Graph × σ} :
      name ∉ st.1.visiting → st.1.dependenciesOf name = before ++ d :: after →
      resolveAll site (resolveAt site) name before none (st.1.enter name, st.2) =
        (.ok newest, st') →
      st'.1.contains d = false → site.pathExists st'.2 d = false →
      Raises site name st (.unknownDependency name d)
  | failed {newest : Option Time} {st' : Graph × σ} {e : BuildError} {s : σ} :
      name ∉ st.1.visiting → st.1.contains name = true →
      resolveAll site (resolveAt site) name (st.1.dependenciesOf name) none
        (st.1.enter name, st.2) = (.ok newest, st') →
      refresh site name (st'.1.targetOf name) newest st'.2 = (.error e, s) → Raises site name st e

/-- A call ends with an error that arises at the end of a path: each name but the last is that of a
call which makes the next one. -/
inductive FailsAlong (site : Site σ) : String × Graph × σ → List String → BuildError → Prop
  | here {name : String} {st : Graph × σ} {e : BuildError} : st.1.isResolved name = false →
      Raises site name st e → FailsAlong site (name, st) [name] e
  | down {call callee : String × Graph × σ} {path : List String} {e : BuildError} :
      Invokes site call callee → FailsAlong site callee path e →
      FailsAlong site call (call.1 :: path) e

/-! ## Calls and the calls that they make -/

section

variable {site : Site σ} {name : String} {st : Graph × σ}

theorem resolveAt_advances (site : Site σ) (name : String) (st : Graph × σ) :
    Advances st.1 (resolveAt site name st).2.1 :=
  (resolve_isPass site name st.1 st.2).advances

theorem calls_advance (site : Site σ) (name : String) (deps : List String)
    (newest : Option Time) (st : Graph × σ) :
    Advances st.1 (resolveAll site (resolveAt site) name deps newest st).2.1 :=
  resolveAll_advances (resolveAt_advances site) deps newest st

/-- A target that is marked is left alone by all calls for what it needs. -/
theorem targetOf_of_resolveAll {deps : List String} {newest : Option Time}
    {r : Except BuildError (Option Time)} {st' : Graph × σ}
    (h : resolveAll site (resolveAt site) name deps newest (st.1.enter name, st.2) = (r, st')) :
    st'.1.targetOf name = st.1.targetOf name := by
  have hadv := calls_advance site name deps newest (st.1.enter name, st.2)
  rw [h] at hadv
  exact hadv.settled name (Or.inr List.mem_cons_self)

section

variable (hr : st.1.isResolved name = false) (hm : name ∉ st.1.visiting) {st' : Graph × σ}
include hr hm

theorem resolveAt_of_marked :
    resolveAt site name st =
      let out := resolveMarked site (resolveAt site) name (st.1.enter name, st.2)
      (out.1, out.2.1.leave name, out.2.2) := by
  rw [resolveAt_eq, resolveStep, if_neg (Bool.eq_false_iff.mp hr), if_neg hm]

/-- The call for a name ends where one for something it needs fails. -/
theorem resolveAt_of_error {e : BuildError}
    (h : resolveAll site (resolveAt site) name (st.1.dependenciesOf name) none
      (st.1.enter name, st.2) = (.error e, st')) (hc : st.1.contains name = true) :
    resolveAt site name st = (.error e, st'.1.leave name, st'.2) := by
  rw [resolveAt_of_marked hr hm, resolveMarked_of_contains hc, h]

/-- The call for a name settles it when all that it needs is done. -/
theorem resolveAt_of_ok {newest : Option Time}
    (h : resolveAll site (resolveAt site) name (st.1.dependenciesOf name) none
      (st.1.enter name, st.2) = (.ok newest, st')) (hc : st.1.contains name = true) :
    resolveAt site name st =
      let out := settle site name newest st'
      (out.1, out.2.1.leave name, out.2.2) := by
  rw [resolveAt_of_marked hr hm, resolveMarked_of_contains hc, h]

end

end

/-- The name of a call that raises an error is not done at the end. -/
theorem Raises.exists_resolveAt_eq {site : Site σ} {name : String} {st : Graph × σ} {e : BuildError}
    (h : Raises site name st e) (hr : st.1.isResolved name = false) :
    ∃ st', resolveAt site name st = (.error e, st') ∧ st'.1.isResolved name = false := by
  cases h with
  | cyclic hm =>
    refine ⟨st, ?_, hr⟩
    rw [resolveAt_eq, resolveStep, if_neg (Bool.eq_false_iff.mp hr), if_pos hm]
  | unknownTarget hm hc =>
    refine ⟨((st.1.enter name).leave name, st.2), ?_, hr⟩
    rw [resolveAt_of_marked hr hm, resolveMarked_of_not_contains hc]
  | @unknownDependency before after d newest st' hm hdeps hb hno hpath =>
    have hd : d ∈ st.1.dependenciesOf name := by
      rw [hdeps]
      simp
    have hall : resolveAll site (resolveAt site) name (st.1.dependenciesOf name) none
        (st.1.enter name, st.2) = (.error (.unknownDependency name d), st') := by
      rw [hdeps, resolveAll_append, hb]
      simp only [resolveAll, hno, hpath]
      rfl
    refine ⟨_, resolveAt_of_error hr hm hall (contains_of_mem_dependenciesOf hd), ?_⟩
    · exact (congrArg Target.resolved (targetOf_of_resolveAll hb)).trans hr
  | @failed newest st' e s hm hc hall ho =>
    have hadv := calls_advance site name (st.1.dependenciesOf name) none (st.1.enter name, st.2)
    rw [hall] at hadv
    have hsettle : settle site name newest st' = (.error e, st'.1, s) :=
      settle_of_error (hadv.contains name hc) ho
    refine ⟨(st'.1.leave name, s), ?_, ?_⟩
    · rw [resolveAt_of_ok hr hm hall hc, hsettle]
    · exact (congrArg Target.resolved (targetOf_of_resolveAll hall)).trans hr

section

variable {site : Site σ} {call callee : String × Graph × σ} (h : Invokes site call callee)
include h

theorem Invokes.contains : call.2.1.contains call.1 = true := by
  obtain ⟨before, d, after, -, -, hdeps, -⟩ := h.reached
  have hd : d ∈ call.2.1.dependenciesOf call.1 := by
    rw [hdeps]
    simp
  exact contains_of_mem_dependenciesOf hd

/-- What happened before a call that another one makes. -/
theorem Invokes.advances : Advances (call.2.1.enter call.1) callee.2.1 := by
  obtain ⟨before, d, after, newest, st, -, hb, -, rfl⟩ := h.reached
  have hadv := calls_advance site call.1 before none (call.2.1.enter call.1, call.2.2)
  rw [hb] at hadv
  exact hadv.trans (advances_ensure st.1 d)

/-- The name of a call is not done after a call that it makes. -/
theorem Invokes.isResolved_eq_false :
    (resolveAt site callee.1 callee.2).2.1.isResolved call.1 = false := by
  have hadv := h.advances.trans (resolveAt_advances site callee.1 callee.2)
  have hkeeps := hadv.settled call.1 (Or.inr List.mem_cons_self)
  exact (congrArg Target.resolved hkeeps).trans h.unresolved

/-- A call that fails ends the one that makes it. -/
theorem Invokes.resolveAt_error {e : BuildError} {st : Graph × σ}
    (ho : resolveAt site callee.1 callee.2 = (.error e, st)) :
    resolveAt site call.1 call.2 = (.error e, st.1.leave call.1, st.2) := by
  have hc := h.contains
  obtain ⟨before, d, after, newest, st', hdeps, hb, hfound, rfl⟩ := h.reached
  refine resolveAt_of_error h.unresolved h.unmarked ?_ hc
  rw [hdeps, resolveAll_append, hb]
  simp only [resolveAll, missing_eq_false_iff.mpr hfound, ho]
  rfl

/-- After a call that ends well, the one that makes it goes on with what else it needs. -/
theorem Invokes.exists_resolveAll {st : Graph × σ}
    (ho : resolveAt site callee.1 callee.2 = (.ok (), st)) :
    ∃ after newest, resolveAll site (resolveAt site) call.1 (call.2.1.dependenciesOf call.1) none
        (call.2.1.enter call.1, call.2.2) =
      resolveAll site (resolveAt site) call.1 after newest st := by
  obtain ⟨before, d, after, newest, st', hdeps, hb, hfound, rfl⟩ := h.reached
  refine ⟨after, latest newest (st.1.modifiedAt? d), ?_⟩
  rw [hdeps, resolveAll_append, hb]
  simp only [resolveAll, missing_eq_false_iff.mpr hfound, ho]
  rfl

/-- What is done after a call stays as it is to the end of the one that makes it. -/
theorem Invokes.targetOf_eq {n : String}
    (hn : (resolveAt site callee.1 callee.2).2.1.isResolved n = true) :
    (resolveAt site call.1 call.2).2.1.targetOf n =
      (resolveAt site callee.1 callee.2).2.1.targetOf n := by
  have hself := h.isResolved_eq_false
  rcases ho : resolveAt site callee.1 callee.2 with ⟨e | _, st⟩
  · rw [h.resolveAt_error ho]
    rfl
  · rw [ho] at hn hself
    obtain ⟨after, newest, hrest⟩ := h.exists_resolveAll ho
    have hkeeps := (calls_advance site call.1 after newest st).settled n (Or.inl hn)
    rcases hall : resolveAll site (resolveAt site) call.1 after newest st with ⟨e | newest', st'⟩
    · rw [hall] at hrest hkeeps
      rw [resolveAt_of_error h.unresolved h.unmarked hrest h.contains]
      exact hkeeps
    · rw [hall] at hrest hkeeps
      rw [resolveAt_of_ok h.unresolved h.unmarked hrest h.contains]
      -- the last step is for the name of the call, which is not done before
      have hne : n ≠ call.1 := by
        rintro rfl
        rw [hself] at hn
        cases hn
      have hsettle : (settle site call.1 newest' st').2.1.targetOf n = st'.1.targetOf n := by
        rcases settle_graph site call.1 newest' st' with hg | ⟨time, hg⟩
        · rw [hg]
        · rw [hg, targetOf_modify_of_ne hne]
      exact hsettle.trans hkeeps

end

/-! ## Paths of failing calls -/

/-- The path of an error shows how the call ends: with that error, and with no name of the path
done. -/
theorem FailsAlong.exists_resolveAt_eq {site : Site σ} {call : String × Graph × σ}
    {path : List String} {e : BuildError} (h : FailsAlong site call path e) :
    ∃ st', resolveAt site call.1 call.2 = (.error e, st') ∧
      ∀ t ∈ path, st'.1.isResolved t = false := by
  induction h with
  | here hr hraise =>
    obtain ⟨st', ho, hno⟩ := hraise.exists_resolveAt_eq hr
    exact ⟨st', ho, fun t ht => List.mem_singleton.mp ht ▸ hno⟩
  | @down call callee path e hinvokes _ ih =>
    obtain ⟨st', ho, hpath⟩ := ih
    have hself := hinvokes.isResolved_eq_false
    rw [ho] at hself
    exact ⟨_, hinvokes.resolveAt_error ho, List.forall_mem_cons.mpr ⟨hself, hpath⟩⟩

/-- The path of an error leads down from the name of the call, from each target to something that it
needs. -/
theorem FailsAlong.isChain {site : Site σ} {call : String × Graph × σ} {path : List String}
    {e : BuildError} (h : FailsAlong site call path e) :
    path.head? = some call.1 ∧ path.IsChain call.2.1.Needs := by
  induction h with
  | here => exact ⟨rfl, .singleton _⟩
  | @down call callee path e hinvokes _ ih =>
    obtain ⟨hhead, hchain⟩ := ih
    obtain ⟨rest, rfl⟩ := List.head?_eq_some_iff.mp hhead
    rw [hinvokes.descends.sameRecipes.needs] at hchain
    exact ⟨rfl, .cons_cons hinvokes.descends.needs hchain⟩

/-- A call that fails raises the error itself, or it makes a call that fails with it. -/
theorem raises_or_invokes {site : Site σ} {name : String} {st : Graph × σ} {e : BuildError}
    (ho : (resolveAt site name st).1 = .error e) :
    st.1.isResolved name = false ∧ (Raises site name st e ∨
      ∃ callee, Invokes site (name, st) callee ∧
        (resolveAt site callee.1 callee.2).1 = .error e) := by
  by_cases hr : st.1.isResolved name = true
  · rw [resolveAt_eq, resolveStep, if_pos hr] at ho
    cases ho
  rw [Bool.not_eq_true] at hr
  refine ⟨hr, ?_⟩
  by_cases hm : name ∈ st.1.visiting
  · rw [resolveAt_eq, resolveStep, if_neg (Bool.eq_false_iff.mp hr), if_pos hm] at ho
    cases ho
    exact Or.inl (.cyclic hm)
  by_cases hc : st.1.contains name = true
  · rcases hall : resolveAll site (resolveAt site) name (st.1.dependenciesOf name) none
      (st.1.enter name, st.2) with ⟨e' | newest, st'⟩
    · -- something that is needed is unknown, or the call for it fails
      rw [resolveAt_of_error hr hm hall hc] at ho
      cases ho
      obtain ⟨before, d, after, n, st₁, hdeps, hb, ⟨hno, hpath, rfl, rfl⟩ | ⟨hfound, hd⟩⟩ :=
        resolveAll_eq_error hall
      · exact Or.inl (.unknownDependency hm hdeps hb hno hpath)
      · exact Or.inr ⟨(d, st₁.1.ensure d, st₁.2),
          ⟨hr, hm, before, d, after, n, st₁, hdeps, hb, hfound, rfl⟩, congrArg Prod.fst hd⟩
    · -- all that is needed is done, and a command fails
      have ho : (settle site name newest st').1 = .error e := by
        rw [resolveAt_of_ok hr hm hall hc] at ho
        exact ho
      have hadv := calls_advance site name (st.1.dependenciesOf name) none (st.1.enter name, st.2)
      rw [hall] at hadv
      have hc' : st'.1.contains name = true := hadv.contains name hc
      rcases hout : refresh site name (st'.1.targetOf name) newest st'.2 with ⟨e' | _, s⟩
      · have hsettle : settle site name newest st' = (.error e', st'.1, s) :=
          settle_of_error hc' hout
        rw [hsettle] at ho
        cases ho
        exact Or.inl (.failed hm hc hall hout)
      · have hok : ((Visit.mk name newest st'.2).outcome site st'.1).1 = .ok () :=
          congrArg Prod.fst hout
        rw [settle_of_ok hc' hok] at ho
        cases ho
  · have hno := Bool.eq_false_iff.mpr hc
    rw [resolveAt_of_marked hr hm, resolveMarked_of_not_contains hno] at ho
    cases ho
    exact Or.inl (.unknownTarget hm hno)

/-- A call that fails fails along a path. -/
theorem exists_failsAlong (site : Site σ) (call : String × Graph × σ) {e : BuildError}
    (ho : (resolveAt site call.1 call.2).1 = .error e) : ∃ path, FailsAlong site call path e := by
  have hwf : WellFounded fun callee call => Invokes site call callee :=
    wellFounded_of_descends fun _ _ h => h.descends
  induction call using hwf.induction with
  | _ call ih =>
    obtain ⟨hr, hraise | ⟨callee, hinvokes, hfails⟩⟩ := raises_or_invokes ho
    · exact ⟨[call.1], .here hr hraise⟩
    · obtain ⟨path, hpath⟩ := ih callee hinvokes hfails
      exact ⟨call.1 :: path, .down hinvokes hpath⟩

/-- What is done after a call that is made on the way stays as it is to the end of the pass. -/
theorem targetOf_of_invokes {site : Site σ} {call callee : String × Graph × σ}
    (h : Relation.ReflTransGen (Invokes site) call callee) {n : String}
    (hn : (resolveAt site callee.1 callee.2).2.1.isResolved n = true) :
    (resolveAt site call.1 call.2).2.1.targetOf n =
      (resolveAt site callee.1 callee.2).2.1.targetOf n := by
  induction h using Relation.ReflTransGen.head_induction_on with
  | refl => rfl
  | head hinvokes _ ih =>
    refine (hinvokes.targetOf_eq ?_).trans ih
    exact (congrArg Target.resolved ih).trans hn

theorem isResolved_of_resolveAt_ok {site : Site σ} {name : String} {st : Graph × σ}
    (ho : (resolveAt site name st).1 = .ok ()) :
    (resolveAt site name st).2.1.isResolved name = true := by
  have hp : IsPass site st.1.depthBound name st (resolveAt site name st) :=
    resolve_isPass site name st.1 st.2
  rcases hout : resolveAt site name st with ⟨r, st'⟩
  rw [hout] at ho hp
  cases ho
  obtain ⟨_, -, -, hr⟩ := hp.walk_of_ok
  exact hr

/-! ## Passes that fail -/

/-- What a pass that fails leaves. A command that failed is the last one, and its error is that of
the pass. There is a path along which the pass has failed, and whatever is on such a path is not
done and has the time it had. A target that some call on the way has done is done at the end, as
that call left it. A dependency or a target is unknown only where it is not in the graph and, if it
is a dependency, has no path when the pass looks for it. -/
theorem failed_resolve_stops_where_it_failed {g : Graph} {site : Site σ} {name : String} {s s' : σ}
    {e : BuildError} {h : Graph} (ho : g.resolve site name s = (.error e, h, s')) :
    (∀ before r after, g.replies site name s = before ++ r :: after →
      ∀ e', r.result = .error e' → after = [] ∧ e' = e) ∧
    ((∃ path, FailsAlong site (name, g, s) path e) ∧
      ∀ path e', FailsAlong site (name, g, s) path e' →
        e' = e ∧ path.head? = some name ∧ path.IsChain g.Needs ∧
          ∀ t ∈ path, h.isResolved t = false ∧ h.modifiedAt? t = g.modifiedAt? t) ∧
    (∀ call, Relation.ReflTransGen (Invokes site) (name, g, s) call →
      (resolveAt site call.1 call.2).1 = .ok () →
        h.isResolved call.1 = true ∧
          h.targetOf call.1 = (resolveAt site call.1 call.2).2.1.targetOf call.1) ∧
    (∀ t d, e = .unknownDependency t d → site.NeverFailsWith e →
      g.Reaches name t ∧ g.Needs t d ∧ g.contains d = false ∧
        Checks site g.depthBound name (g, s) d s' ∧ site.pathExists s' d = false) ∧
    ∀ n, e = .unknownTarget n → site.NeverFailsWith e → n = name ∧ g.contains name = false := by
  have hp : IsPass site g.depthBound name (g, s) (.error e, h, s') :=
    ho ▸ resolve_isPass site name g s
  have hat : resolveAt site name (g, s) = (.error e, h, s') := ho
  refine ⟨?_, ⟨?_, ?_⟩, ?_, ?_, ?_⟩
  · intro before r after heq e' hr
    rcases replies_cases site name g s with hwell | ⟨e'', he, hlast⟩
    · rw [hwell r (by rw [heq]; simp)] at hr
      cases hr
    · rw [ho] at he
      cases he
      rw [heq] at hlast
      exact hlast.eq_nil hr
  · exact exists_failsAlong site (name, g, s) (congrArg Prod.fst hat)
  · intro path e' hpath
    obtain ⟨st', heq, hundone⟩ := hpath.exists_resolveAt_eq
    rw [hat] at heq
    cases heq
    obtain ⟨hhead, hchain⟩ := hpath.isChain
    refine ⟨rfl, hhead, hchain, fun t ht => ⟨hundone t ht, ?_⟩⟩
    exact congrArg Target.modifiedAt (hp.advances.undone t (hundone t ht))
  · intro call hcall hok
    have hdone := isResolved_of_resolveAt_ok hok
    have heq := targetOf_of_invokes hcall hdone
    rw [hat] at heq
    exact ⟨(congrArg Target.resolved heq).trans hdone, heq⟩
  · rintro t d rfl hf
    obtain ⟨c, he, -⟩ | ⟨he, -⟩ | ⟨t', d', he, hreach, hneeds, hchecks, hpath⟩ :=
      hp.error_cases hf rfl
    · cases he
    · cases he
    · cases he
      exact ⟨hreach, hneeds, hchecks.needs.1, hchecks, hpath⟩
  · rintro n rfl hf
    obtain ⟨c, he, -⟩ | ⟨he, hc⟩ | ⟨t, d, he, -⟩ := hp.error_cases hf rfl
    · cases he
    · cases he
      exact ⟨rfl, hc⟩
    · cases he

/-- A target with two dependencies, the second of which has a command that fails. -/
def lopsided : Graph where
  targets := [
    ("all", { name := "all", dependencies := ["left", "right"] }),
    ("left", { name := "left", commands := ["touch"] }),
    ("right", { name := "right", commands := ["false"] })]

/-- The target that was done before the failure stays done. -/
theorem failed_resolve_stops_where_it_failed_lopsided :
    let out := lopsided.resolve .shelf "all" []
    let e := BuildError.command (.failed "false" "exit status: 1")
    out.1 = .error e ∧
      lopsided.replies .shelf "all" [] = [⟨"left", "touch", .ok ()⟩, ⟨"right", "false", .error e⟩] ∧
      FailsAlong .shelf ("all", lopsided, []) ["all", "right"] e ∧
      (out.2.1.isResolved "all" = false ∧ out.2.1.isResolved "right" = false) ∧
      out.2.1.isResolved "left" = true := by
  intro out e
  have ho : out.1 = .error e := by decide +kernel
  have hreplies : lopsided.replies .shelf "all" [] =
      [⟨"left", "touch", .ok ()⟩, ⟨"right", "false", .error e⟩] := by
    decide +kernel
  -- the calls that the one for `all` makes, in their order
  let called := resolveAt .shelf "left" (lopsided.enter "all", [])
  have hleft : Invokes .shelf ("all", lopsided, []) ("left", lopsided.enter "all", []) :=
    ⟨rfl, List.not_mem_nil, [], "left", ["right"], none, _, rfl, rfl, Or.inl rfl, rfl⟩
  have hright : Invokes .shelf ("all", lopsided, []) ("right", called.2) :=
    ⟨rfl, List.not_mem_nil, ["left"], "right", [], some 0, called.2, rfl, by decide +kernel,
      Or.inl rfl, rfl⟩
  have hraise : Raises .shelf "right" called.2 e :=
    .failed (s := called.2.2) (by decide +kernel) rfl rfl (by decide +kernel)
  have hfails : FailsAlong .shelf ("all", lopsided, []) ["all", "right"] e :=
    .down hright (.here rfl hraise)
  obtain ⟨-, ⟨-, hpath⟩, hdone, -⟩ :=
    failed_resolve_stops_where_it_failed (h := out.2.1) (Prod.ext ho rfl)
  obtain ⟨-, -, -, hundone⟩ := hpath _ _ hfails
  have hdoneLeft := (hdone _ (.single hleft) (by decide +kernel)).1
  exact ⟨ho, hreplies, hfails,
    ⟨(hundone "all" (by decide)).1, (hundone "right" (by decide)).1⟩, hdoneLeft⟩

end Graph

end BuildTool
