import BuildTool.Proofs.Graph.Cycles
import BuildTool.Proofs.Graph.Effects
import BuildTool.Proofs.Graph.History

/-!
# Builds that are repeated

A pass over targets that are all up to date runs nothing and changes no time (`IsCurrent.resolve`).
The first pass makes them so, target by target:

    app.o  ran      its time is not before app.c's, by what is asked of commands
    app.o  did not  it was not stale, and its time is the one it had then

Its time stays what it was right after its commands, because other commands spare its file.
-/

namespace BuildTool.Graph

variable {σ : Type}

/-- All targets that can be reached are there, have the times of their files, and are up to date
if they have commands. -/
structure IsCurrent (g : Graph) (name : String) (times : String → Option Time) : Prop where
  acyclic : ¬g.LeadsToCycle name
  contains : ∀ t, g.Reaches name t → g.contains t = true
  time : ∀ t, g.Reaches name t → times t ≠ none ∧ g.modifiedAt? t = times t
  upToDate : ∀ t, g.Reaches name t → g.commandsOf t ≠ [] →
    isStale (g.isForced t) (times t) (g.newestOf t) = false

/-! ## Passes over targets that are up to date -/

theorem newestOf_congr {g k : Graph} (same : SameRecipes g k)
    (ht : ∀ n, k.modifiedAt? n = g.modifiedAt? n) (name : String) :
    k.newestOf name = g.newestOf name := by
  unfold newestOf
  simp only [ht, same.dependenciesOf]

section

variable {g : Graph} {name : String} {times : String → Option Time}
  (hcur : g.IsCurrent name times)
include hcur

/-- The graph stays so if it gets targets, and none another recipe or time. -/
theorem IsCurrent.congr {k : Graph} (same : SameRecipes g k)
    (hc : ∀ n, g.contains n = true → k.contains n = true)
    (ht : ∀ n, k.modifiedAt? n = g.modifiedAt? n) : k.IsCurrent name times where
  acyclic := by
    rintro ⟨t, hr, hd⟩
    rw [same.reaches] at hr
    rw [same.dependsOn] at hd
    exact hcur.acyclic ⟨t, hr, hd⟩
  contains t hr := by
    rw [same.reaches] at hr
    exact hc t (hcur.contains t hr)
  time t hr := by
    rw [same.reaches] at hr
    rw [ht]
    exact hcur.time t hr
  upToDate t hr hcommands := by
    rw [same.reaches] at hr
    rw [same.commandsOf] at hcommands
    rw [same.isForced, newestOf_congr same ht]
    exact hcur.upToDate t hr hcommands

variable {site : Site σ} {v : Visit σ} (hr : g.Reaches name v.name)
  (hnew : v.newest = g.newestOf v.name) (hown : site.modified v.start v.name = times v.name)
include hr hnew hown

/-- A visit of a target that is up to date does no more than note it. -/
theorem IsCurrent.outcome :
    ∃ text, v.outcome site g = (.ok (), site.note text v.start) := by
  rw [Visit.outcome_eq]
  by_cases hcommands : g.commandsOf v.name = []
  · rw [hcommands]
    split
    · exact ⟨_, rfl⟩
    · exact ⟨_, rfl⟩
  · have hs : v.isStale site g = false := by
      rw [Visit.isStale, hown, hnew]
      exact hcur.upToDate v.name hr hcommands
    rw [if_neg (Bool.eq_false_iff.mp hs)]
    exact ⟨_, rfl⟩

/-- The time that such a visit gives its target is the one it has. -/
theorem IsCurrent.time_finish
    (hnote : ∀ text, site.modified (site.note text v.start) v.name = times v.name) :
    g.modifiedAt? v.name = some (v.time site g) ∧
      ∃ text, v.finish site g = site.note text v.start := by
  obtain ⟨text, ho⟩ := hcur.outcome hr hnew hown
  obtain ⟨hsome, htime⟩ := hcur.time v.name hr
  obtain ⟨own, hown'⟩ := Option.ne_none_iff_exists'.mp hsome
  unfold Visit.time Visit.finish timeOf
  rw [ho]
  simp only [hnote, hown']
  exact ⟨htime.trans hown', text, rfl⟩

end

section

variable {site : Site σ} {name : String} {times : String → Option Time} {P : σ → Prop}
  (hnote : ∀ text s, P s → P (site.note text s))
include hnote

/-- What holds of the state when all is up to date, if notes keep it, holds after any walk. -/
theorem Walk.isCurrent {st st' : Graph × σ} {visits : List (Visit σ)}
    (w : Walk site st visits st') (hv : ∀ v ∈ visits, st.1.Reaches name v.name)
    (hcur : st.1.IsCurrent name times) (hs : P st.2)
    (hP : ∀ s, P s → ∀ t, st.1.Reaches name t → site.modified s t = times t) :
    st'.1.IsCurrent name times ∧ P st'.2 ∧
      ∀ n, st'.1.modifiedAt? n = st.1.modifiedAt? n := by
  induction w with
  | refl => exact ⟨hcur, hs, fun _ => rfl⟩
  | @adopt g s _ d _ _ _ _ _ _ ih =>
    have same := sameRecipes_ensure g d
    have hcur' : (g.ensure d).IsCurrent name times :=
      hcur.congr same (fun n hc => by rw [contains_ensure, hc, Bool.or_true])
        (modifiedAt?_ensure g d)
    rw [same.reaches] at ih
    obtain ⟨hc, hs', ht⟩ := ih hv hcur' hs hP
    exact ⟨hc, hs', fun n => (ht n).trans (modifiedAt?_ensure g d n)⟩
  | @visit g v _ _ hready hnew _ _ ih =>
    have hr : g.Reaches name v.name := hv v List.mem_cons_self
    have hown := hP v.start hs v.name hr
    obtain ⟨htime, text, hfinish⟩ := hcur.time_finish hr hnew hown
      fun text => hP _ (hnote text _ hs) v.name hr
    have same := sameRecipes_doneAt hready.contains (v.time site g)
    have htimes : ∀ n, (g.modify v.name (·.doneAt (v.time site g))).modifiedAt? n =
        g.modifiedAt? n := by
      intro n
      by_cases he : n = v.name
      · rw [he, htime, modifiedAt?, targetOf_modify_self hready.contains]
        rfl
      · rw [modifiedAt?, targetOf_modify_of_ne he, modifiedAt?]
    have hcur' := hcur.congr same (fun n hc => by rw [contains_modify, hc]) htimes
    rw [same.reaches, hfinish] at ih
    obtain ⟨hc, hs', ht⟩ := ih (fun u hu => hv u (List.mem_cons_of_mem _ hu)) hcur'
      (hnote text _ hs) hP
    exact ⟨hc, hs', fun n => (ht n).trans (htimes n)⟩

/-- A pass over targets that are up to date ends well, does no more than to note this, and changes
no time. -/
theorem IsCurrent.resolve {g : Graph} (hcur : g.IsCurrent name times) (hv : g.visiting = [])
    {s : σ} (hs : P s)
    (hP : ∀ s, P s → ∀ t, g.Reaches name t → site.modified s t = times t) :
    (g.resolve site name s).1 = .ok () ∧ P (g.resolve site name s).2.2 ∧
      ∀ n, (g.resolve site name s).2.1.modifiedAt? n = g.modifiedAt? n := by
  have hp := resolve_isPass site name g s
  generalize g.resolve site name s = out at hp ⊢
  obtain ⟨result, k, s₁⟩ := out
  obtain ⟨visits, s', w, hreach, hends⟩ := hp
  simp only at w hends ⊢
  obtain ⟨hcur', hs', ht⟩ := w.isCurrent hnote (fun v hv => (hreach v hv).1) hcur hs hP
  cases hends with
  | done => exact ⟨rfl, hs', ht⟩
  | @cyclic c hr hc =>
    exact absurd ⟨c, hr, hc (marked_depthBound hv name)⟩ hcur.acyclic
  | unknownTarget hno =>
    rw [hcur.contains name .refl] at hno
    cases hno
  | @unknownDependency t d hr hn hno =>
    have hd : g.contains d = true := hcur.contains d (.tail hr hn)
    rw [w.contains hd] at hno
    cases hno
  | @failed v e s₂ hr hready hnew hstart ho =>
    subst hstart
    have hown := hP v.start hs' v.name hr
    rw [← w.sameRecipes.reaches] at hr
    obtain ⟨text, hok⟩ := hcur'.outcome hr hnew hown
    rw [hok] at ho
    cases ho

end

/-! ## What the first pass leaves -/

/-- What a pass for `name` from `g` and `s` to `h` and `s'` must be like so as to last: no target
is forced, all have times at its end, no command changes the file of another target, and the time
of a target whose commands ran is not before one of those of what it needs. -/
structure Lasts (site : Site σ) (name : String) (g : Graph) (s : σ) (h : Graph) (s' : σ) :
    Prop where
  unforced : ∀ t, g.Reaches name t → g.isForced t = false
  timed : ∀ t, g.Reaches name t → site.modified s' t ≠ none
  spared : ∀ e ∈ g.effects site name s, ∀ t, g.Reaches name t → site.Spares t e
  newer : ∀ e ∈ g.effects site name s, ∀ d, g.Needs e.target d → ∀ own time,
    site.modified s' e.target = some own → h.modifiedAt? d = some time → time ≤ own

section

variable {site : Site σ} (hq : site.IsQuiet) {name : String} {g h : Graph} {s s' : σ}
  (hl : Lasts site name g s h s') {visits before after : List (Visit (σ × List (Effect σ)))}
  {v : Visit (σ × List (Effect σ))}
  (hr : Rebuild site.tracing name g (s, []) h (s', g.effects site name s) visits)
  (hv : visits = before ++ v :: after)
include hq hl hr hv

/-- A target of the pass keeps the time that it has after its visit. -/
theorem Lasts.modified : site.modified s' v.name = site.modified (v.finish site.tracing g).1 v.name ∧
    h.modifiedAt? v.name = site.modified s' v.name := by
  have hmem : v ∈ visits := by
    rw [hv]
    simp
  have hreach : g.Reaches name v.name := (hr.mem_iff v.name).mp (List.mem_map_of_mem hmem)
  have hnd : v.name ∉ after.map Visit.name := by
    have := hr.nodup
    rw [hv, List.map_append, List.map_cons] at this
    exact (List.nodup_cons.mp (List.nodup_append.mp this).2.1).1
  obtain ⟨-, hafter⟩ := (hv ▸ hr.chain).split
  obtain ⟨more, hmore, hothers⟩ := hafter.effects hq
  have hall : g.effects site name s = (v.finish site.tracing g).2 ++ more := hmore
  have hkept := hothers v.name hnd fun e he =>
    hl.spared e (by rw [hall]; exact List.mem_append_right _ he) v.name hreach
  refine ⟨hkept, ?_⟩
  obtain ⟨own, hown⟩ := Option.ne_none_iff_exists'.mp (hl.timed v.name hreach)
  have hout : site.modified (v.outcome site.tracing g).2.1 v.name = some own := by
    rw [← modified_finish hq, ← hkept, hown]
  obtain ⟨hat, htime⟩ := hr.time v hmem
  have htime' : v.time site.tracing g = own := by
    rw [htime, show site.tracing.modified (v.outcome site.tracing g).2 v.name = some own from hout,
      Option.getD_some]
  rw [hat, htime', hown]

/-- A target of the pass that has commands is not before what it needs. -/
theorem Lasts.not_isAfter (hcommands : g.commandsOf v.name ≠ []) {own : Time}
    (hown : site.modified s' v.name = some own) {d : String} (hn : g.Needs v.name d) :
    ¬IsAfter own (h.modifiedAt? d) := by
  rintro ⟨time, htime, hlt⟩
  obtain ⟨hkept, -⟩ := hl.modified hq hr hv
  obtain ⟨hbefore, hafter⟩ := (hv ▸ hr.chain).split
  obtain ⟨new, hnew, hran, -, hidle⟩ := visit_effects hq (g := g) v
  by_cases hs : v.isStale site.tracing g = true
  · obtain ⟨e, he, hte⟩ := hran hs hcommands
    obtain ⟨more, hmore, -⟩ := hafter.effects hq
    have hall : g.effects site name s = (v.finish site.tracing g).2 ++ more := hmore
    have hmem : e ∈ g.effects site name s := by
      rw [hall, hnew]
      simp [he]
    have hle : time ≤ own := hl.newer e hmem d (hte ▸ hn) own time (hte ▸ hown) htime
    exact absurd hlt (not_lt.mpr hle)
  · -- the target was not stale when its dependencies had the times that they have now
    obtain ⟨u, hu, rfl⟩ := hr.needed before v after hv d hn
    have hmem : u ∈ visits := by
      rw [hv]
      exact List.mem_append_left _ hu
    rw [(hr.time u hmem).1, Option.some_inj] at htime
    have hstart : site.tracing.modified v.start v.name = some own := by
      change site.modified v.start.1 v.name = some own
      rw [← hidle (Or.inl (Bool.eq_false_iff.mpr hs)), ← hkept, hown]
    exact hs ((hr.stale before v after hv).mpr
      (Or.inr (Or.inr ⟨own, hstart, u, hu, hn, htime ▸ hlt⟩)))

end

/-- After a pass that lasts, all targets are up to date. -/
theorem Lasts.isCurrent {site : Site σ} (hq : site.IsQuiet) {g h : Graph}
    (hg : ∀ n, g.isResolved n = false) {name : String} {s s' : σ}
    (ho : g.resolve site name s = (.ok (), h, s')) (hl : Lasts site name g s h s') :
    h.unresolveAll.IsCurrent name (site.modified s') := by
  have hp := resolve_isPass site name g s
  have hdone := fun t (hr : g.Reaches name t) =>
    hp.reaches_of_ok (isSound_of_none_resolved hg) (congrArg Prod.fst ho) hr
  obtain ⟨_, _, w, -⟩ := hp
  rw [ho] at w hdone
  have same : SameRecipes g h.unresolveAll := w.sameRecipes.trans (sameRecipes_unresolveAll h)
  obtain ⟨visits, hr⟩ := exists_rebuild hg (resolve_tracing ho)
  have hvisit : ∀ t, g.Reaches name t → ∃ before v after, visits = before ++ v :: after ∧
      v.name = t := by
    intro t ht
    obtain ⟨v, hv, rfl⟩ := List.mem_map.mp ((hr.mem_iff t).mpr ht)
    obtain ⟨before, after, hv⟩ := List.append_of_mem hv
    exact ⟨before, v, after, hv, rfl⟩
  constructor
  · rintro ⟨t, ht, hd⟩
    rw [same.reaches] at ht
    rw [same.dependsOn] at hd
    exact (hdone t ht).1 hd
  · intro t ht
    rw [same.reaches] at ht
    rw [contains_unresolveAll]
    exact contains_of_isResolved (hdone t ht).2
  · intro t ht
    rw [same.reaches] at ht
    obtain ⟨before, v, after, hv, rfl⟩ := hvisit t ht
    rw [modifiedAt?_unresolveAll]
    exact ⟨hl.timed v.name ht, (hl.modified hq hr hv).2⟩
  · intro t ht hcommands
    rw [same.reaches] at ht
    rw [same.commandsOf] at hcommands
    obtain ⟨before, v, after, hv, rfl⟩ := hvisit t ht
    refine Bool.eq_false_iff.mpr fun hs => ?_
    rcases (isStale_iff _ _ _).mp hs with hf | hnone | ⟨own, hown, hafter⟩
    · rw [same.isForced, hl.unforced v.name ht] at hf
      cases hf
    · exact hl.timed v.name ht hnone
    · obtain ⟨d, hn, hlate⟩ := (isAfter_newestOf own _ v.name).mp hafter
      rw [same.needs] at hn
      rw [modifiedAt?_unresolveAll] at hlate
      exact hl.not_isAfter hq hr hv hcommands hown hn hlate

/-- A pass that ended well and lasts need not be repeated: over the same times of the files that it
reaches, a second pass ends well, runs nothing and leaves all times as they were. -/
theorem resolve_again_runs_nothing {site : Site σ} (hq : site.IsQuiet) {g h : Graph}
    (hg : g.IsFresh) {name : String} {s s' : σ} (ho : g.resolve site name s = (.ok (), h, s'))
    (hl : Lasts site name g s h s') {again : σ}
    (hsame : ∀ t, g.Reaches name t → site.modified again t = site.modified s' t) :
    (h.unresolveAll.resolve site name again).1 = .ok () ∧
      h.unresolveAll.attempts site name again = [] ∧
      ∀ t, (h.unresolveAll.resolve site name again).2.1.modifiedAt? t = h.modifiedAt? t := by
  have hcur := hl.isCurrent hq hg.unresolved ho
  obtain ⟨_, _, w, -⟩ := resolve_isPass site name g s
  rw [ho] at w
  have hv : h.unresolveAll.visiting = [] := w.visiting.trans hg.unmarked
  have same : SameRecipes g h.unresolveAll := w.sameRecipes.trans (sameRecipes_unresolveAll h)
  let P : σ × List Attempt → Prop := fun st =>
    st.2 = [] ∧ ∀ t, g.Reaches name t → site.modified st.1 t = site.modified s' t
  have hnote : ∀ text st, P st → P (site.recording.note text st) := by
    rintro text st ⟨hlog, ht⟩
    refine ⟨hlog, fun t hr => ?_⟩
    change site.modified (site.note text st.1) t = _
    rw [hq.note, ht t hr]
  have hP : ∀ st, P st → ∀ t, h.unresolveAll.Reaches name t →
      site.recording.modified st t = site.modified s' t := by
    rintro st ⟨-, ht⟩ t hr
    rw [same.reaches] at hr
    exact ht t hr
  obtain ⟨hok, ⟨hlog, -⟩, ht⟩ := hcur.resolve hnote hv (s := (again, [])) ⟨rfl, hsame⟩ hP
  rw [resolve_recording site name h.unresolveAll again []]
  exact ⟨hok, hlog, fun t => (ht t).trans (modifiedAt?_unresolveAll h t)⟩

/-- A program and its object file. -/
def tool : Graph where
  targets := [("app", { name := "app", dependencies := ["app.o"], commands := ["link"] }),
    ("app.o", { name := "app.o", dependencies := ["app.c"], commands := ["cc"] })]

theorem mem_of_reaches_tool {t : String} (h : tool.Reaches "app" t) :
    t ∈ ["app", "app.o", "app.c"] :=
  h.mem_of_closed (by decide) (by decide)

theorem lasts_tool :
    Lasts .shelf "app" tool [("app.c", 0)] (tool.resolve .shelf "app" [("app.c", 0)]).2.1
      [("app", 2), ("app.o", 1), ("app.c", 0)] where
  unforced t hr := by
    have hall : ∀ t ∈ ["app", "app.o", "app.c"], tool.isForced t = false := by decide
    exact hall t (mem_of_reaches_tool hr)
  timed t hr := by
    have hall : ∀ t ∈ ["app", "app.o", "app.c"],
        Site.shelf.modified [("app", 2), ("app.o", 1), ("app.c", 0)] t ≠ none := by decide
    exact hall t (mem_of_reaches_tool hr)
  spared e he t hr := by
    have hall : ∀ e ∈ tool.effects .shelf "app" [("app.c", 0)], ∀ t ∈ ["app", "app.o", "app.c"],
        t ≠ e.target → Site.shelf.modified e.after t = Site.shelf.modified e.before t := by
      decide +kernel
    exact hall e he t (mem_of_reaches_tool hr)
  newer e he d hn own time hown htime := by
    have hall : ∀ e ∈ tool.effects .shelf "app" [("app.c", 0)],
        ∀ d ∈ tool.dependenciesOf e.target,
        ((Site.shelf.modified [("app", 2), ("app.o", 1), ("app.c", 0)] e.target).all fun own =>
          ((tool.resolve .shelf "app" [("app.c", 0)]).2.1.modifiedAt? d).all fun time =>
            decide (time ≤ own)) = true := by
      decide +kernel
    have := hall e he d hn
    rw [hown, htime] at this
    simpa using this

theorem resolve_again_runs_nothing_tool :
    tool.runs .shelf "app" [("app.c", 0)] = [("app.o", "cc"), ("app", "link")] ∧
      let h := (tool.resolve .shelf "app" [("app.c", 0)]).2.1
      let files := [("app", 2), ("app.o", 1), ("app.c", 0)]
      (h.unresolveAll.resolve .shelf "app" files).1 = .ok () ∧
        h.unresolveAll.attempts .shelf "app" files = [] ∧
        ∀ t, (h.unresolveAll.resolve .shelf "app" files).2.1.modifiedAt? t = h.modifiedAt? t := by
  have hg : tool.IsFresh := ⟨isResolved_eq_false (by decide), rfl⟩
  have ho : (tool.resolve .shelf "app" [("app.c", 0)]).1 = .ok () := by decide +kernel
  have hs : (tool.resolve .shelf "app" [("app.c", 0)]).2.2 =
      [("app", 2), ("app.o", 1), ("app.c", 0)] := by
    decide +kernel
  have hq : Site.shelf.IsQuiet := ⟨fun _ _ _ => rfl, fun _ _ => rfl⟩
  refine ⟨by decide +kernel, ?_⟩
  exact resolve_again_runs_nothing hq hg (Prod.ext ho (Prod.ext rfl hs)) lasts_tool
    fun _ _ => rfl

end BuildTool.Graph
