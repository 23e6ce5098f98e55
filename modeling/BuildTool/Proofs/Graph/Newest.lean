import BuildTool.Proofs.Graph.Cycles
import BuildTool.Proofs.Graph.Staleness
import Mathlib.Order.Bounds.Basic

/-!
# The newest time below a name

`lastUpdated` looks at a name and at all it depends on, whether or not there is a target of it:

    ok newest             no reachable name depends on itself, and newest is the latest of
                          the times that reachable names have
    cyclic dependency c   c is reachable and depends on itself

A name is marked while the names below it are looked at, as in a pass (`Marked`), and the graph
is afterwards what it was.
-/

namespace BuildTool.Graph

/-! ## Nothing changes -/

theorem lastUpdatedAll_graph {modified : String → Option Time}
    {one : String → Graph → Except BuildError (Option Time) × Graph}
    (hone : ∀ name g, (one name g).2 = g) (deps : List String) (newest : Option Time)
    (g : Graph) :
    (lastUpdatedAll modified one deps newest g).2 = g := by
  induction deps generalizing newest with
  | nil => rfl
  | cons d rest ih =>
    unfold lastUpdatedAll
    split
    · have hg := hone d g
      rcases ho : one d g with ⟨e | time, g'⟩
      · rw [ho] at hg
        exact hg
      · rw [ho] at hg
        subst hg
        exact ih _
    · exact ih _

theorem lastUpdatedWithin_graph (modified : String → Option Time) (depth : Nat) (name : String)
    (g : Graph) : (lastUpdatedWithin modified depth name g).2 = g := by
  induction depth generalizing name g with
  | zero => rfl
  | succ depth ih =>
    unfold lastUpdatedWithin
    split
    · rfl
    · simp only [lastUpdatedAll_graph ih]
      exact leave_eq_withVisiting rfl

/-! ## The times below dependencies -/

section

variable {modified : String → Option Time}
  {one : String → Graph → Except BuildError (Option Time) × Graph} {g : Graph}

/-- The time of one dependency, for `lastUpdatedAll`. -/
def below (modified : String → Option Time)
    (one : String → Graph → Except BuildError (Option Time) × Graph) (g : Graph) (d : String) :
    Except BuildError (Option Time) :=
  if g.contains d then (one d g).1 else .ok (modified d)

theorem lastUpdatedAll_cons (hone : ∀ name g, (one name g).2 = g) (d : String)
    (rest : List String) (newest : Option Time) :
    lastUpdatedAll modified one (d :: rest) newest g =
      match below modified one g d with
      | .error e => (.error e, g)
      | .ok time => lastUpdatedAll modified one rest (latest newest time) g := by
  rw [lastUpdatedAll, below]
  split
  · have hg := hone d g
    rcases ho : one d g with ⟨e | time, g'⟩
    · rw [ho] at hg
      rw [show g' = g from hg]
    · rw [ho] at hg
      rw [show g' = g from hg]
  · rfl

/-- If all dependencies can be looked at, the latest of their times is kept. -/
theorem lastUpdatedAll_eq_ok (hone : ∀ name g, (one name g).2 = g) {deps : List String}
    {newest n : Option Time} (h : (lastUpdatedAll modified one deps newest g).1 = .ok n)
    (own : Time) :
    (∀ d ∈ deps, ∃ time, below modified one g d = .ok time) ∧
      (IsAfter own n ↔ IsAfter own newest ∨
        ∃ d ∈ deps, ∃ time, below modified one g d = .ok time ∧ IsAfter own time) := by
  induction deps generalizing newest with
  | nil =>
    cases h
    simp
  | cons d rest ih =>
    rw [lastUpdatedAll_cons hone] at h
    cases hb : below modified one g d with
    | error e =>
      rw [hb] at h
      cases h
    | ok time =>
      rw [hb] at h
      obtain ⟨hrest, hiff⟩ := ih h
      refine ⟨List.forall_mem_cons.mpr ⟨⟨time, hb⟩, hrest⟩, ?_⟩
      rw [hiff, isAfter_latest, or_assoc]
      simp only [List.mem_cons, exists_eq_or_imp, hb, Except.ok.injEq, exists_eq_left']

/-- If not all dependencies can be looked at, one of them cannot. -/
theorem lastUpdatedAll_eq_error (hone : ∀ name g, (one name g).2 = g) {deps : List String}
    {newest : Option Time} {e : BuildError}
    (h : (lastUpdatedAll modified one deps newest g).1 = .error e) :
    ∃ d ∈ deps, below modified one g d = .error e := by
  induction deps generalizing newest with
  | nil => cases h
  | cons d rest ih =>
    rw [lastUpdatedAll_cons hone] at h
    cases hb : below modified one g d with
    | error e' =>
      rw [hb] at h
      cases h
      exact ⟨d, List.mem_cons_self, hb⟩
    | ok time =>
      rw [hb] at h
      obtain ⟨d', hd', he⟩ := ih h
      exact ⟨d', List.mem_cons_of_mem _ hd', he⟩

end

/-! ## What a look below a name comes to -/

theorem not_needs_of_not_contains {g : Graph} {name d : String} (hc : g.contains name = false) :
    ¬g.Needs name d := by
  intro hn
  rw [contains_of_mem_dependenciesOf hn] at hc
  cases hc

/-- A name without a target reaches itself and nothing else. -/
theorem reaches_iff_of_not_contains {g : Graph} {name other : String}
    (hc : g.contains name = false) : g.Reaches name other ↔ other = name := by
  constructor
  · intro hr
    rcases hr.cases_head with he | ⟨d, hn, -⟩
    · exact he.symm
    · exact absurd hn (not_needs_of_not_contains hc)
  · rintro rfl
    exact .refl

theorem not_leadsToCycle_of_not_contains {g : Graph} {name : String}
    (hc : g.contains name = false) : ¬g.LeadsToCycle name := by
  rintro ⟨other, hr, hd⟩
  rw [reaches_iff_of_not_contains hc] at hr
  subst hr
  obtain ⟨d, hn, -⟩ := hd.exists_needs
  exact not_needs_of_not_contains hc hn

section

variable {modified : String → Option Time} {depth : Nat} {name : String} {g : Graph}

theorem lastUpdatedWithin_succ (modified : String → Option Time) (depth : Nat) (name : String)
    (g : Graph) :
    (lastUpdatedWithin modified (depth + 1) name g).1 =
      if name ∈ g.visiting then .error (.cyclicDependency name)
      else (lastUpdatedAll modified (lastUpdatedWithin modified depth) (g.dependenciesOf name)
        (modified name) (g.enter name)).1 := by
  rw [lastUpdatedWithin]
  split <;> rfl

/-- A look that fails has found a name on the way to itself. -/
theorem lastUpdatedWithin_eq_error (hm : g.Marked depth name) {e : BuildError}
    (h : (lastUpdatedWithin modified depth name g).1 = .error e) :
    ∃ c, e = .cyclicDependency c ∧ g.Reaches name c ∧ g.DependsOn c c := by
  induction depth generalizing name g with
  | zero => exact absurd rfl hm.ne_zero
  | succ depth ih =>
    rw [lastUpdatedWithin_succ] at h
    split at h
    · next hv =>
      cases h
      exact ⟨name, rfl, .refl, hm.leads name hv⟩
    · next hv =>
      obtain ⟨d, hd, hb⟩ := lastUpdatedAll_eq_error (lastUpdatedWithin_graph modified depth) h
      have hmd : (g.enter name).Marked depth d := hm.of_needs hv hd (.refl g) rfl
      rw [below] at hb
      split at hb
      · obtain ⟨c, he, hr, hc⟩ := ih hmd hb
        exact ⟨c, he, .of_needs hd hr, hc⟩
      · cases hb

/-- A time is the latest of those of names that can be reached, none of which is marked or
depends on itself. -/
structure IsNewest (modified : String → Option Time) (g : Graph) (name : String)
    (newest : Option Time) : Prop where
  unmarked : ∀ other ∈ g.visiting, ¬g.Reaches name other
  acyclic : ¬g.LeadsToCycle name
  isAfter_iff : ∀ own, IsAfter own newest ↔
    ∃ other, g.Reaches name other ∧ IsAfter own (modified other)

/-- The time of a name without a target is its own. -/
theorem isNewest_of_not_contains (hm : g.Marked depth name) (hc : g.contains name = false) :
    g.IsNewest modified name (modified name) where
  unmarked other ho hr := by
    rw [reaches_iff_of_not_contains hc] at hr
    subst hr
    obtain ⟨d, hn, -⟩ := (hm.leads other ho).exists_needs
    exact not_needs_of_not_contains hc hn
  acyclic := not_leadsToCycle_of_not_contains hc
  isAfter_iff own := by simp only [reaches_iff_of_not_contains hc, exists_eq_left]

/-- The newest time below a name comes from its own and from those below its dependencies. -/
theorem IsNewest.of_needs {newest : Option Time} (hv : name ∉ g.visiting)
    (hdeps : ∀ d, g.Needs name d → ∃ time, (g.enter name).IsNewest modified d time)
    (hiff : ∀ own, IsAfter own newest ↔ IsAfter own (modified name) ∨ ∃ d, g.Needs name d ∧
      ∃ other, g.Reaches d other ∧ IsAfter own (modified other)) :
    g.IsNewest modified name newest where
  unmarked other ho hr := by
    rcases hr.cases_head with he | ⟨d, hn, hr⟩
    · exact hv (he ▸ ho)
    · obtain ⟨time, hd⟩ := hdeps d hn
      exact hd.unmarked other (List.mem_cons_of_mem _ ho) hr
  acyclic := by
    rintro ⟨other, hr, hcycle⟩
    rcases hr.cases_head with rfl | ⟨d, hn, hr⟩
    · -- the cycle goes through a dependency, below which the name is marked
      obtain ⟨d, hn, hr⟩ := hcycle.exists_needs
      obtain ⟨time, hd⟩ := hdeps d hn
      exact hd.unmarked name List.mem_cons_self hr
    · obtain ⟨time, hd⟩ := hdeps d hn
      exact hd.acyclic ⟨other, hr, hcycle⟩
  isAfter_iff own := by
    rw [hiff]
    constructor
    · rintro (ha | ⟨d, hn, other, hr, ha⟩)
      · exact ⟨name, .refl, ha⟩
      · exact ⟨other, .of_needs hn hr, ha⟩
    · rintro ⟨other, hr, ha⟩
      rcases hr.cases_head with rfl | ⟨d, hn, hr⟩
      · exact Or.inl ha
      · exact Or.inr ⟨d, hn, other, hr, ha⟩

/-- A look that ends well gives the newest time below a name. -/
theorem lastUpdatedWithin_eq_ok (hm : g.Marked depth name) {newest : Option Time}
    (h : (lastUpdatedWithin modified depth name g).1 = .ok newest) :
    g.IsNewest modified name newest := by
  induction depth generalizing name g newest with
  | zero => exact absurd rfl hm.ne_zero
  | succ depth ih =>
    rw [lastUpdatedWithin_succ] at h
    split at h
    · cases h
    · next hv =>
      have hone := lastUpdatedWithin_graph modified depth
      have hbelow : ∀ d time, g.Needs name d →
          below modified (lastUpdatedWithin modified depth) (g.enter name) d = .ok time →
          (g.enter name).IsNewest modified d time := by
        intro d time hd hb
        have hmd : (g.enter name).Marked depth d := hm.of_needs hv hd (.refl g) rfl
        rw [below] at hb
        split at hb
        · exact ih hmd hb
        · next hc =>
          cases hb
          exact isNewest_of_not_contains hmd (Bool.eq_false_iff.mpr hc)
      refine .of_needs hv ?_ ?_
      · intro d hd
        obtain ⟨time, hb⟩ := (lastUpdatedAll_eq_ok hone h 0).1 d hd
        exact ⟨time, hbelow d time hd hb⟩
      · intro own
        rw [(lastUpdatedAll_eq_ok hone h own).2]
        refine or_congr_right (exists_congr fun d => and_congr_right fun hd => ?_)
        constructor
        · rintro ⟨time, hb, ha⟩
          exact ((hbelow d time hd hb).isAfter_iff own).mp ha
        · intro ha
          obtain ⟨time, hb⟩ := (lastUpdatedAll_eq_ok hone h own).1 d hd
          exact ⟨time, hb, ((hbelow d time hd hb).isAfter_iff own).mpr ha⟩

end

/-! ## The greatest of the times below a name -/

/-- The times of a name and of all that it depends on. -/
def timesBelow (modified : String → Option Time) (g : Graph) (name : String) : Set Time :=
  {time | ∃ other, g.Reaches name other ∧ modified other = some time}

section

variable {modified : String → Option Time} {name : String} {g : Graph} {newest : Option Time}
  (h : g.IsNewest modified name newest)
include h

theorem IsNewest.isGreatest {time : Time} (ht : newest = some time) :
    IsGreatest (g.timesBelow modified name) time := by
  subst ht
  have hupper : time ∈ upperBounds (g.timesBelow modified name) := by
    rintro t ⟨other, hr, ho⟩
    by_contra hlt
    obtain ⟨_, he, hself⟩ := (h.isAfter_iff time).mpr ⟨other, hr, t, ho, Int.not_le.mp hlt⟩
    exact absurd (Option.some.inj he ▸ hself) (Int.lt_irrefl time)
  -- a time that is just before the newest is before one of those below the name
  obtain ⟨other, hr, t, ho, hlt⟩ :=
    (h.isAfter_iff (time - 1)).mp ⟨time, rfl, Int.sub_one_lt_of_le (Int.le_refl time)⟩
  have hle : t ≤ time := hupper ⟨other, hr, ho⟩
  have he : t = time := Int.le_antisymm hle (Int.le_of_sub_one_lt hlt)
  exact ⟨⟨other, hr, he ▸ ho⟩, hupper⟩

/-- There is no newest time exactly if no name that can be reached has a time. -/
theorem IsNewest.eq_none_iff :
    newest = none ↔ ∀ other, g.Reaches name other → modified other = none := by
  constructor
  · rintro rfl other hr
    cases ho : modified other with
    | none => rfl
    | some t =>
      have hafter : ∃ other, g.Reaches name other ∧ IsAfter (t - 1) (modified other) :=
        ⟨other, hr, t, ho, Int.sub_one_lt_of_le (Int.le_refl t)⟩
      obtain ⟨_, he, -⟩ := (h.isAfter_iff (t - 1)).mpr hafter
      cases he
  · intro hnone
    cases hn : newest with
    | none => rfl
    | some time =>
      obtain ⟨⟨other, hr, ho⟩, -⟩ := h.isGreatest hn
      rw [hnone other hr] at ho
      cases ho

theorem IsNewest.eq_some_iff {time : Time} :
    newest = some time ↔ IsGreatest (g.timesBelow modified name) time := by
  refine ⟨h.isGreatest, fun hg => ?_⟩
  obtain ⟨other, hr, ho⟩ := hg.1
  cases hn : newest with
  | none =>
    rw [h.eq_none_iff.mp hn other hr] at ho
    cases ho
  | some t => rw [(h.isGreatest hn).unique hg]

end

/-- A look at a graph without marks gives the newest time below a name, or a cycle there. -/
theorem lastUpdated_cases {g : Graph} (hv : g.visiting = []) (modified : String → Option Time)
    (name : String) :
    (∃ newest, g.lastUpdated modified name = .ok newest ∧ g.IsNewest modified name newest) ∨
      ∃ c, g.lastUpdated modified name = .error (.cyclicDependency c) ∧ g.Reaches name c ∧
        g.DependsOn c c := by
  have hm : g.Marked g.depthBound name := marked_depthBound hv name
  cases ho : g.lastUpdated modified name with
  | ok newest => exact Or.inl ⟨newest, rfl, lastUpdatedWithin_eq_ok hm ho⟩
  | error e =>
    obtain ⟨c, rfl, hr, hc⟩ := lastUpdatedWithin_eq_error hm ho
    exact Or.inr ⟨c, rfl, hr, hc⟩

/-- A look below a name, which may have a target or none, tells of a name on a cycle exactly if
one can be reached. Otherwise it gives the greatest of the times of all names that can be reached,
and none exactly if none of them has one. The graph is left as it was. -/
theorem lastUpdatedFrom_finds_newest {g : Graph} (hv : g.visiting = [])
    (modified : String → Option Time) (name : String) :
    let out := g.lastUpdatedFrom modified name
    (g.LeadsToCycle name ↔
      ∃ c, out.1 = .error (.cyclicDependency c) ∧ g.Reaches name c ∧ g.DependsOn c c) ∧
    (¬g.LeadsToCycle name → ∃ newest, out.1 = .ok newest ∧
      (∀ time, newest = some time ↔ IsGreatest (g.timesBelow modified name) time) ∧
      (newest = none ↔ ∀ other, g.Reaches name other → modified other = none)) ∧
    out.2 = g := by
  intro out
  have hgraph : out.2 = g := lastUpdatedWithin_graph modified g.depthBound name g
  rcases lastUpdated_cases hv modified name with ⟨newest, hok, hnewest⟩ | ⟨c, herr, hr, hc⟩
  · have hok : out.1 = .ok newest := hok
    refine ⟨⟨fun hl => absurd hl hnewest.acyclic, ?_⟩, fun _ => ?_, hgraph⟩
    · rintro ⟨c, -, hr, hc⟩
      exact ⟨c, hr, hc⟩
    · exact ⟨newest, hok, fun _ => hnewest.eq_some_iff, hnewest.eq_none_iff⟩
  · have hl : g.LeadsToCycle name := ⟨c, hr, hc⟩
    exact ⟨⟨fun _ => ⟨c, herr, hr, hc⟩, fun _ => hl⟩, fun hno => absurd hl hno, hgraph⟩

/-- The newest time is that of the source, a file without a target. -/
theorem lastUpdatedFrom_finds_newest_program :
    let modified := fun path => [("app", (3 : Time)), ("app.c", 7)].lookup path
    program.visiting = [] ∧
      program.lastUpdatedFrom modified "app" = (.ok (some 7), program) ∧
      IsGreatest (program.timesBelow modified "app") 7 := by
  intro modified
  have hout : program.lastUpdatedFrom modified "app" = (.ok (some 7), program) := by
    decide +kernel
  obtain ⟨hcycle, hnewest, -⟩ := lastUpdatedFrom_finds_newest (g := program) rfl modified "app"
  have hno : ¬program.LeadsToCycle "app" := by
    intro hl
    obtain ⟨c, herr, -⟩ := hcycle.mp hl
    rw [hout] at herr
    cases herr
  obtain ⟨newest, hok, hgreatest, -⟩ := hnewest hno
  rw [hout] at hok
  cases hok
  exact ⟨rfl, hout, (hgreatest 7).mp rfl⟩

end BuildTool.Graph
