import BuildTool.Proofs.Archive.Room
import BuildTool.Proofs.Files.Copying

/-!
# Making directories

`mkdir` makes a directory and those above it that are missing. What it makes is on the way along the
path, and what stood before stays. If it goes well the path leads to a directory:

    mkdir a/b/c = (ok, d')    →    d'.stat a/b/c = directory  and  mkdir a/b/c d' = (ok, d')

It is in vain where a name on the way is taken by something that is no directory and leads to none,
and nothing is made then.

## Sections

* the directory that is made;
* ways to a directory;
* dead ends;
* what is made;
* every directory.
-/

namespace BuildTool

open BuildTool.Tree

/-! ## The directory that is made -/

namespace Tree

section

variable {t t' : Tree}

/-- Where a directory is made at a free place, the path leads to it, also with links followed and
with a slash at its end. -/
theorem Walks.of_free (hfills : t.Fills t') {links : Nat} {mustBe : Bool} {dir parent : Location}
    {names : List String} {name : String} {time : Time}
    (h : Walks t false links mustBe dir names (.free parent name))
    (hget : t'.get? (parent ++ [name]) = some (.directory time)) (mustBe' : Bool) :
    Walks t' true links mustBe' dir names (.entry (parent ++ [name]) (.directory time)) := by
  generalize hplace : Place.free parent name = place at h
  induction h generalizing mustBe' with
  | arrive | link | stop => cases hplace
  | stay _ ih => exact .stay (ih mustBe' hplace)
  | up _ ih => exact .up (ih mustBe' hplace)
  | free hname =>
    cases hplace
    exact .enter hname hget (.arrive hget)
  | enter hname hdir _ ih =>
    obtain ⟨_, hdir'⟩ := hfills.get?_directory hdir
    exact .enter hname hdir' (ih mustBe' hplace)
  | follow hname hlink htarget _ _ ih =>
    exact .follow hname (hfills.get?_link hlink) htarget (fun hlast => by cases hlast.2.1)
      (ih _ hplace)

end

theorem exists_stat_of_makeDirectory {t t' : Tree} {work : Location} {time : Time} {path : String}
    (h : t.makeDirectory work time path = .ok t') (hpath : path ≠ "") :
    ∃ parent name, t.get? (parent ++ [name]) = none ∧
      t' = t.insert time (parent ++ [name]) (.directory time) ∧
      t'.stat work path = .ok (parent ++ [name], .directory time) := by
  have hfills := (fills_of_makeDirectory h).1
  obtain ⟨hshort, parent, name, hplace, rfl⟩ := exists_free_of_makeDirectory h
  have hwalks := (walks_of_locate hplace).2
  rw [startOf_withoutEndSlashes, pathElements_withoutEndSlashes] at hwalks
  refine ⟨parent, name, isEndOf_of_locate hplace, rfl, ?_⟩
  exact stat_of_locate (locate_eq_ok_iff.mpr ⟨hpath, hshort,
    hwalks.of_free hfills (t.get?_insert_concat time parent name _) _⟩)

end Tree

namespace Disk

theorem exists_leadsTo_of_leadsToDirectory {d : Disk} {dir : String}
    (h : d.tree.leadsToDirectory d.work dir = true) : ∃ top, d.LeadsTo dir top := by
  unfold leadsToDirectory at h
  split at h
  · next loc e hstat =>
    cases e with
    | directory time => exact ⟨loc, time, hstat⟩
    | file | link | tool | nullDevice => cases h
  · cases h

theorem exists_leadsTo_of_makeAll {d d' : Disk} {path : String} {above : List String}
    (hpath : path ≠ "") (h : d.makeAll (path :: above) = (none, d')) :
    ∃ top, d'.LeadsTo path top := by
  have hmade : ∀ {d : Disk} {tree : Tree}, d.tree.makeDirectory d.work d.time path = .ok tree →
      ∃ top, (d.withTree tree).LeadsTo path top := by
    intro d tree hmade
    obtain ⟨parent, name, -, -, hstat⟩ := exists_stat_of_makeDirectory hmade hpath
    exact ⟨parent ++ [name], d.time, hstat⟩
  rw [makeAll, if_neg hpath] at h
  split at h
  · next hmakes =>
    cases h
    exact hmade hmakes
  · split at h
    · cases h
    · split at h
      · next hmakes =>
        cases h
        exact hmade hmakes
      · split at h
        · next hleads =>
          cases h
          exact exists_leadsTo_of_leadsToDirectory hleads
        · cases h
  · split at h
    · next hleads =>
      cases h
      exact exists_leadsTo_of_leadsToDirectory hleads
    · cases h

end Disk

/-! ## Ways to a directory -/

namespace Tree

section

variable {t : Tree} {follow mustBe : Bool} {links : Nat} {dir : Location}
  {names names' steps : List String} {place : Place}

/-- A way that goes on leads over a directory. -/
theorem Walks.exists_directory (h : Walks t follow links mustBe dir (names ++ steps) place)
    (hsteps : steps ≠ []) (hdir : t.IsRooted dir) :
    ∃ top time, Walks t true links false dir names (.entry top (.directory time)) := by
  -- The shorter way may be at its end already.
  have harrive : ∀ {links : Nat} {dir : Location}, t.IsRooted dir →
      ∃ top time, Walks t true links false dir [] (.entry top (.directory time)) := by
    intro links dir hdir
    obtain ⟨time, hget⟩ := exists_directory_of_isDirectory (hdir dir (List.prefix_refl dir))
    exact ⟨dir, time, .arrive hget⟩
  have hlast : ∀ {name : String} {names : List String}, names ++ steps = [name] → names = [] := by
    intro name names hall
    rcases List.append_eq_singleton_iff.mp hall with ⟨hnil, -⟩ | ⟨-, hnil⟩
    · exact hnil
    · exact absurd hnil hsteps
  generalize hall : names ++ steps = all at h
  induction h generalizing names with
  | arrive => exact absurd (List.append_eq_nil_iff.mp hall).2 hsteps
  | stay _ ih =>
    rcases List.append_eq_cons_iff.mp hall with ⟨rfl, -⟩ | ⟨names, rfl, hrest⟩
    · exact harrive hdir
    · obtain ⟨top, time, hwalks⟩ := ih hdir hrest.symm
      exact ⟨top, time, .stay hwalks⟩
  | up _ ih =>
    rcases List.append_eq_cons_iff.mp hall with ⟨rfl, -⟩ | ⟨names, rfl, hrest⟩
    · exact harrive hdir
    · obtain ⟨top, time, hwalks⟩ := ih hdir.up hrest.symm
      exact ⟨top, time, .up hwalks⟩
  | enter hname hget _ ih =>
    rcases List.append_eq_cons_iff.mp hall with ⟨rfl, -⟩ | ⟨names, rfl, hrest⟩
    · exact harrive hdir
    · obtain ⟨top, time, hwalks⟩ := ih (hdir.enter hget) hrest.symm
      exact ⟨top, time, .enter hname hget hwalks⟩
  | @follow _ _ _ _ target _ _ hname hlink htarget _ _ ih =>
    rcases List.append_eq_cons_iff.mp hall with ⟨rfl, -⟩ | ⟨names, rfl, hrest⟩
    · exact harrive hdir
    · obtain ⟨top, time, hwalks⟩ := @ih (pathElements target ++ names) (hdir.follow target)
        (by rw [hrest, List.append_assoc])
      exact ⟨top, time, .follow hname hlink htarget (fun hlast => by cases hlast.2.1)
        (hwalks.of_filter_eq rfl _)⟩
  | free | link | stop => exact hlast hall ▸ harrive hdir

/-- Where a name is no dot, what follows it ends alike in ways that end alike. -/
theorem getLast?_eq_of_cons {name : String} {rest rest' : List String} (hname : name ≠ ".")
    (hfilter : rest'.filter (· != ".") = rest.filter (· != "."))
    (hlast : (name :: rest').getLast? = (name :: rest).getLast?) :
    rest'.getLast? = rest.getLast? := by
  have hnil : ∀ {rest : List String}, rest.filter (· != ".") = [] →
      (name :: rest).getLast? = some name → rest = [] := by
    intro rest hdots hlast
    by_contra hne
    rw [List.getLast?_cons_of_ne_nil hne] at hlast
    have hmem : name ∈ rest.filter (· != ".") :=
      List.mem_filter.mpr ⟨List.mem_of_getLast? hlast, bne_iff_ne.mpr hname⟩
    rw [hdots] at hmem
    cases hmem
  cases rest' with
  | nil => rw [hnil hfilter.symm hlast.symm]
  | cons first' rest' =>
    cases rest with
    | nil => rw [hnil hfilter hlast]
    | cons first rest => exact hlast

/-- A name that is no dot is found behind dots in a way with the same names and the same end, and
what follows it has the same names and the same end. -/
theorem exists_dots_of_sameEnd {name : String} {rest : List String} (hname : name ≠ ".")
    (hfilter : names'.filter (· != ".") = (name :: rest).filter (· != "."))
    (hlast : names'.getLast? = (name :: rest).getLast?) : ∃ dots rest',
      names' = dots ++ name :: rest' ∧ (∀ name ∈ dots, name = ".") ∧
      rest'.filter (· != ".") = rest.filter (· != ".") ∧ rest'.getLast? = rest.getLast? := by
  obtain ⟨dots, rest', rfl, hdots, hrest⟩ := exists_dots_of_filter_eq hname hfilter
  rw [List.getLast?_append_of_ne_nil _ (List.cons_ne_nil _ _)] at hlast
  exact ⟨dots, rest', rfl, hdots, hrest, getLast?_eq_of_cons hname hrest hlast⟩

theorem exists_dots_concat {name : String} (hname : name ≠ ".")
    (hfilter : names'.filter (· != ".") = [name].filter (· != "."))
    (hlast : names'.getLast? = [name].getLast?) :
    ∃ dots, names' = dots ++ [name] ∧ ∀ name ∈ dots, name = "." := by
  obtain ⟨dots, rest', rfl, hdots, -, hrest⟩ := exists_dots_of_sameEnd hname hfilter hlast
  rw [List.getLast?_eq_none_iff.mp hrest]
  exact ⟨dots, rfl, hdots⟩

/-- Dots on a way do not matter, but for one at its end. -/
theorem Walks.of_sameEnd (h : Walks t follow links mustBe dir names place)
    (hfilter : names'.filter (· != ".") = names.filter (· != "."))
    (hlast : names'.getLast? = names.getLast?) :
    Walks t follow links mustBe dir names' place := by
  induction h generalizing names' with
  | arrive hget =>
    rw [List.getLast?_eq_none_iff.mp hlast]
    exact .arrive hget
  | @stay _ _ _ rest _ hrest ih =>
    by_cases hnil : rest = []
    · subst hnil
      have hdots : ∀ name ∈ names', name = "." := fun name hname => by
        simpa using List.filter_eq_nil_iff.mp hfilter name hname
      rw [← List.append_nil names']
      exact .of_dots hdots hrest
    · rw [List.getLast?_cons_of_ne_nil hnil] at hlast
      exact ih hfilter hlast
  | up _ ih =>
    obtain ⟨dots, rest', rfl, hdots, hrest, hend⟩ := exists_dots_of_sameEnd (by decide) hfilter hlast
    exact .of_dots hdots (.up (ih hrest hend))
  | free hname hget =>
    obtain ⟨dots, rfl, hdots⟩ := exists_dots_concat hname.ne_dot hfilter hlast
    exact .of_dots hdots (.free hname hget)
  | enter hname hget _ ih =>
    obtain ⟨dots, rest', rfl, hdots, hrest, hend⟩ := exists_dots_of_sameEnd hname.ne_dot hfilter hlast
    exact .of_dots hdots (.enter hname hget (ih hrest hend))
  | link hname hlink hfollow =>
    obtain ⟨dots, rfl, hdots⟩ := exists_dots_concat hname.ne_dot hfilter hlast
    exact .of_dots hdots (.link hname hlink hfollow)
  | @follow _ _ _ _ _ rest _ hname hlink htarget hfollow _ ih =>
    obtain ⟨dots, rest', rfl, hdots, hrest, hend⟩ := exists_dots_of_sameEnd hname.ne_dot hfilter hlast
    have hnil : rest' = [] ↔ rest = [] := by
      rw [← List.getLast?_eq_none_iff, hend, List.getLast?_eq_none_iff]
    have hempty : rest'.isEmpty = rest.isEmpty := by
      rw [Bool.eq_iff_iff, List.isEmpty_iff, List.isEmpty_iff, hnil]
    refine .of_dots hdots (.follow hname hlink htarget (fun hl => hfollow ⟨hnil.mp hl.1, hl.2⟩) ?_)
    rw [hempty]
    refine ih ?_ ?_
    · rw [List.filter_append, List.filter_append, hrest]
    · rw [List.getLast?_append, List.getLast?_append, hend]
  | stop hname hget hway =>
    obtain ⟨dots, rfl, hdots⟩ := exists_dots_concat hname.ne_dot hfilter hlast
    exact .of_dots hdots (.stop hname hget hway)

/-! ## Dead ends -/

/-- Something is at the end of a way, but it is no directory, and no link to one. -/
structure IsDeadEnd (t : Tree) (start : Location) (names : List String) : Prop where
  taken : ∃ loc e, Walks t false 40 false start names (.entry loc e)
  closed : ∀ loc time, ¬ Walks t true 40 false start names (.entry loc (.directory time))

/-- What is left of the names of a way, without dots, are those of its beginning. -/
theorem exists_append_of_prefix {before : List String}
    (h : before.filter (· != ".") <+: names.filter (· != ".")) :
    ∃ first rest, names = first ++ rest ∧ first.filter (· != ".") = before.filter (· != ".") := by
  obtain ⟨after, hafter⟩ := h
  obtain ⟨first, rest, hnames, hfirst, -⟩ := List.filter_eq_append_iff.mp hafter.symm
  exact ⟨first, rest, hnames, hfirst⟩

namespace IsDeadEnd

variable {start : Location} {before : List String}

/-- A way with the names of a dead end does not lead over it. -/
theorem not_walks_append (h : t.IsDeadEnd start before) (hstart : t.IsRooted start)
    (hnames : names.filter (· != ".") = before.filter (· != ".")) (hsteps : steps ≠ []) :
    ¬ Walks t follow 40 mustBe start (names ++ steps) place := by
  intro hwalks
  obtain ⟨top, time, hdir⟩ := hwalks.exists_directory hsteps hstart
  exact h.closed top time (hdir.of_filter_eq hnames.symm _)

/-- No way leads over a dead end to a directory. -/
theorem not_walks_directory (h : t.IsDeadEnd start before) (hstart : t.IsRooted start)
    (hbefore : before.filter (· != ".") <+: names.filter (· != ".")) {loc : Location}
    {time : Time} : ¬ Walks t true 40 mustBe start names (.entry loc (.directory time)) := by
  intro hwalks
  obtain ⟨first, rest, rfl, hfirst⟩ := exists_append_of_prefix hbefore
  by_cases hrest : rest = []
  · rw [hrest, List.append_nil] at hwalks
    exact h.closed loc time (hwalks.of_filter_eq hfirst.symm _)
  · exact h.not_walks_append hstart hfirst hrest hwalks

/-- A dead end is not at a dot. -/
theorem getLast?_ne_dot (h : t.IsDeadEnd start before) (hstart : t.IsRooted start) :
    before.getLast? ≠ some "." := by
  intro hlast
  obtain ⟨init, rfl⟩ := List.getLast?_eq_some_iff.mp hlast
  obtain ⟨loc, e, hwalks⟩ := h.taken
  refine h.not_walks_append hstart ?_ (List.cons_ne_nil _ _) hwalks
  rw [List.filter_append]
  simp

theorem filter_ne_nil (h : t.IsDeadEnd start before) (hstart : t.IsRooted start) :
    before.filter (· != ".") ≠ [] := by
  intro hnil
  obtain ⟨time, hget⟩ := exists_directory_of_isDirectory (hstart start (List.prefix_refl start))
  have harrive : Walks t true 40 false start [] (.entry start (.directory time)) := .arrive hget
  exact h.closed start time (harrive.of_filter_eq hnil _)

theorem getLast?_filter (hlast : names.getLast? ≠ some ".") :
    (names.filter (· != ".")).getLast? = names.getLast? := by
  rcases List.eq_nil_or_concat' names with rfl | ⟨init, last, rfl⟩
  · rfl
  · have hkept : (last != ".") = true := bne_iff_ne.mpr fun hdot => hlast (by rw [hdot]; simp)
    rw [List.filter_append, List.filter_cons, if_pos hkept]
    simp

/-- No way leads over a dead end to a free place. -/
theorem not_walks_free (h : t.IsDeadEnd start before) (hstart : t.IsRooted start)
    (hbefore : before.filter (· != ".") <+: names.filter (· != ".")) {parent : Location}
    {name : String} : ¬ Walks t false 40 false start names (.free parent name) := by
  intro hfree
  obtain ⟨first, rest, rfl, hfirst⟩ := exists_append_of_prefix hbefore
  by_cases hrest : rest = []
  · subst hrest
    rw [List.append_nil] at hfree
    by_cases hdot : first.getLast? = some "."
    · obtain ⟨init, rfl⟩ := List.getLast?_eq_some_iff.mp hdot
      refine h.not_walks_append hstart ?_ (List.cons_ne_nil _ _) hfree
      rw [← hfirst, List.filter_append]
      simp
    · obtain ⟨loc, e, htaken⟩ := h.taken
      have hends : first.getLast? = before.getLast? := by
        rw [← getLast?_filter hdot, hfirst, getLast?_filter (h.getLast?_ne_dot hstart)]
      have hsame := (htaken.of_sameEnd hfirst hends).walk_eq
      rw [hfree.walk_eq] at hsame
      cases hsame
  · exact h.not_walks_append hstart hfirst hrest hfree

end IsDeadEnd

end

end Tree

namespace Disk

/-- On the way along the path there is a dead end. -/
def IsBlocked (d : Disk) (path : String) : Prop :=
  ∃ before, before <+: pathElements path ∧ d.tree.IsDeadEnd (Tree.startOf d.work path) before

section

variable {d : Disk} {path : String} {before : List String}

theorem WorksInDirectory.startOf (hwork : d.WorksInDirectory) (path : String) :
    d.tree.IsRooted (startOf d.work path) := IsRooted.follow hwork path

section

variable (hwork : d.WorksInDirectory) (hend : d.tree.IsDeadEnd (Tree.startOf d.work path) before)
  (hbefore : before.filter (· != ".") <+: (pathElements path).filter (· != "."))
include hwork hend hbefore

theorem not_leadsTo_of_isDeadEnd (top : Location) : ¬ d.LeadsTo path top := by
  rintro ⟨time, hstat⟩
  have hwalks := (walks_of_locate (locate_of_stat hstat)).2
  exact hend.not_walks_directory (hwork.startOf path) hbefore hwalks

theorem makeDirectory_ne_ok_of_isDeadEnd (tree : Tree) :
    d.tree.makeDirectory d.work d.time path ≠ .ok tree := by
  intro hmade
  obtain ⟨-, parent, name, hplace, -⟩ := exists_free_of_makeDirectory hmade
  have hfree := (walks_of_locate hplace).2
  rw [startOf_withoutEndSlashes, pathElements_withoutEndSlashes] at hfree
  cases hslash : endsInSlash (withoutEndSlashes path) with
  | false =>
    rw [hslash] at hfree
    exact hend.not_walks_free (hwork.startOf path) hbefore hfree
  | true =>
    rw [(endsInSlash_withoutEndSlashes hslash).2] at hbefore
    exact hend.filter_ne_nil (hwork.startOf path) (List.prefix_nil.mp hbefore)

end

/-- Nothing is made above a path that leads to a directory. -/
theorem makeAll_of_walks {mustBe : Bool} {top : Location} {time : Time}
    (h : Walks d.tree true 40 mustBe (Tree.startOf d.work path) (pathElements path)
      (.entry top (.directory time))) (above : List String) :
    (d.makeAll (path :: above)).2 = d := by
  by_cases hpath : path = ""
  · rw [makeAll, if_pos hpath]
  by_cases hlong : isTooLongPath path = true
  · rw [makeAll, if_neg hpath, Tree.makeDirectory, if_pos hlong]
    dsimp only
    split <;> rfl
  · exact makeAll_of_stat
      (stat_of_locate (locate_eq_ok_iff.mpr ⟨hpath, hlong, h.of_filter_eq rfl _⟩)) above

/-- Nothing is made above a dead end either: the directories there are on the way to it. -/
theorem makeAll_above_of_isDeadEnd (hwork : d.WorksInDirectory)
    (hend : d.tree.IsDeadEnd (Tree.startOf d.work path) before)
    (hbefore : before.filter (· != ".") <+: (pathElements path).filter (· != "."))
    {init : List String} (hbegins : init <+: Path.names path)
    (habove : ¬ before.filter (· != ".") <+: init.filter (· != ".")) (above : List String) :
    (d.makeAll (Path.ofNames (Path.isAbsolute path) init :: above)).2 = d := by
  have hinit : ∀ name ∈ init, name ≠ "" ∧ '/' ∉ name.toList :=
    fun name hname => Path.of_mem_names (hbegins.subset hname)
  have hshort : init.filter (· != ".") <+: (pathElements path).filter (· != ".") := by
    rw [← Path.filter_names]
    exact hbegins.filter _
  obtain ⟨first, rest, rfl, hfirst⟩ := exists_append_of_prefix
    ((List.prefix_or_prefix_of_prefix hbefore hshort).resolve_left habove)
  have hrest : rest ≠ [] := by
    rintro rfl
    rw [List.append_nil, hfirst] at habove
    exact habove (List.prefix_refl _)
  obtain ⟨loc, e, htaken⟩ := hend.taken
  obtain ⟨top, time, hdir⟩ := htaken.exists_directory hrest (hwork.startOf path)
  have hwalks := hdir.of_filter_eq hfirst.symm false
  rw [← Path.pathElements_ofNames hinit (Path.isAbsolute path),
    ← Path.startOf_ofNames path hinit] at hwalks
  exact makeAll_of_walks hwalks above

/-- No directory is made along a way with a dead end, nor any other one. -/
theorem makeAll_of_isDeadEnd (hwork : d.WorksInDirectory)
    (hend : d.tree.IsDeadEnd (Tree.startOf d.work path) before)
    (hbefore : before.filter (· != ".") <+: (pathElements path).filter (· != ".")) :
    ∃ f, d.makeAll (path :: Path.parents path) = (some f, d) := by
  generalize hnames : Path.names path = names
  induction names using List.reverseRecOn generalizing path with
  | nil =>
    rw [← Path.filter_names, hnames] at hbefore
    exact absurd (List.prefix_nil.mp hbefore) (hend.filter_ne_nil (hwork.startOf path))
  | append_singleton init last ih =>
    have hpath : path ≠ "" := by
      rintro rfl
      cases init <;> cases hnames
    have hleads : d.tree.leadsToDirectory d.work path = false := by
      rw [← Bool.not_eq_true]
      intro hleads
      obtain ⟨top, hleads⟩ := exists_leadsTo_of_leadsToDirectory hleads
      exact not_leadsTo_of_isDeadEnd hwork hend hbefore top hleads
    -- The dead end is on the way to the directory above, or that is on the way to the dead end.
    have hsame : (d.makeAll (Path.parents path)).2 = d := by
      have hbegins : init <+: Path.names path := hnames ▸ List.prefix_append _ _
      rw [Path.parents_concat hnames]
      by_cases hbeyond : before.filter (· != ".") <+: init.filter (· != ".")
      · have hinit : ∀ name ∈ init, name ≠ "" ∧ '/' ∉ name.toList :=
          fun name hname => Path.of_mem_names (hbegins.subset hname)
        obtain ⟨f, hf⟩ := ih (Path.startOf_ofNames path hinit d.work ▸ hend)
          (by rwa [Path.pathElements_ofNames hinit]) (Path.names_ofNames hbegins)
        rw [hf]
      · exact makeAll_above_of_isDeadEnd hwork hend hbefore hbegins hbeyond _
    rw [makeAll, if_neg hpath]
    split
    · next tree hmade =>
      exact absurd hmade (makeDirectory_ne_ok_of_isDeadEnd hwork hend hbefore tree)
    · next hfault =>
      generalize d.makeAll (Path.parents path) = made at hsame
      obtain ⟨_ | f, d'⟩ := made
      · obtain rfl : d' = d := hsame
        dsimp only
        rw [hfault, hleads]
        exact ⟨_, rfl⟩
      · obtain rfl : d' = d := hsame
        exact ⟨f, rfl⟩
    · rw [hleads]
      exact ⟨_, rfl⟩

end

/-! ## What is made -/

/-- The path leads over a directory at this location, or to it. -/
def LeadsOver (d : Disk) (path : String) (loc : Location) : Prop :=
  ∃ before time, before <+: pathElements path ∧
    Walks d.tree true 40 false (Tree.startOf d.work path) before (.entry loc (.directory time))

/-- The other disk has new directories, all of them at such locations. Everything else is the same,
but for the time of a directory that one was made in. -/
structure Makes (d d' : Disk) (way : Location → Prop) : Prop where
  work : d'.work = d.work
  time : d'.time = d.time
  made : ∀ l e, d.tree.get? l = none → d'.tree.get? l = some e → e = .directory d.time ∧ way l
  kept : ∀ l e, d.tree.get? l = some e → d'.tree.get? l = some e ∨
    d'.tree.get? l = some (e.withModified d.time) ∧
      ∃ name, d.tree.get? (l ++ [name]) = none ∧ d'.tree.isDirectory (l ++ [name]) = true

namespace Makes

variable {d d' d'' : Disk} {way way' : Location → Prop}

theorem refl (d : Disk) (way : Location → Prop) : d.Makes d way where
  work := rfl
  time := rfl
  made l e hnone hsome := by
    rw [hnone] at hsome
    cases hsome
  kept _ _ he := .inl he

theorem mono (h : d.Makes d' way) (hway : ∀ l, way l → way' l) : d.Makes d' way' where
  work := h.work
  time := h.time
  made l e hnone hsome := ⟨(h.made l e hnone hsome).1, hway l (h.made l e hnone hsome).2⟩
  kept := h.kept

theorem fills (h : d.Makes d' way) : d.Fills d' where
  work := h.work
  tree := by
    constructor
    · intro l found hfound
      obtain ⟨e, he, rfl⟩ := Option.map_eq_some_iff.mp hfound
      rcases h.kept l e he with hsame | ⟨hstamped, -⟩
      · rw [way?, hsame, Option.map_some]
      · rw [way?, hstamped, Option.map_some, e.way_withModified]
    · intro l target hlink
      obtain ⟨e', he', hway⟩ := Option.map_eq_some_iff.mp hlink
      cases hget : d.tree.get? l with
      | none =>
        obtain ⟨rfl, -⟩ := h.made l e' hget he'
        cases hway
      | some e =>
        rw [way?, hget, Option.map_some, ← hway]
        rcases h.kept l e hget with hsame | ⟨hstamped, -⟩
        · cases he'.symm.trans hsame
          rfl
        · cases he'.symm.trans hstamped
          rw [e.way_withModified]

theorem get?_eq_none (h : d.Makes d' way) {l : Location} (hnone : d'.tree.get? l = none) :
    d.tree.get? l = none := by
  cases hget : d.tree.get? l with
  | none => rfl
  | some e => rcases h.kept l e hget with hsame | ⟨hstamped, -⟩ <;> simp_all

theorem trans (h : d.Makes d' way) (h' : d'.Makes d'' way') :
    d.Makes d'' fun l => way l ∨ way' l where
  work := h'.work.trans h.work
  time := h'.time.trans h.time
  made l e hnone hsome := by
    cases hget : d'.tree.get? l with
    | none =>
      obtain ⟨rfl, hway⟩ := h'.made l e hget hsome
      exact ⟨by rw [h.time], .inr hway⟩
    | some made =>
      obtain ⟨rfl, hway⟩ := h.made l made hnone hget
      refine ⟨?_, .inl hway⟩
      rcases h'.kept l _ hget with hsame | ⟨hstamped, -⟩
      · exact Option.some.inj (hsome.symm.trans hsame)
      · rw [h.time] at hstamped
        exact Option.some.inj (hsome.symm.trans hstamped)
  kept l e he := by
    rcases h.kept l e he with hsame | ⟨hstamped, name, hfree, hdir⟩
    · rcases h'.kept l e hsame with hsame' | ⟨hstamped', name, hfree, hdir⟩
      · exact .inl hsame'
      · rw [h.time] at hstamped'
        exact .inr ⟨hstamped', name, h.get?_eq_none hfree, hdir⟩
    · refine .inr ⟨?_, name, hfree, h'.fills.tree.isDirectory hdir⟩
      rcases h'.kept l _ hstamped with hsame | ⟨hstamped', -⟩
      · exact hsame
      · rw [e.withModified_withModified, h.time] at hstamped'
        exact hstamped'

end Makes

section

variable {d : Disk} {path : String}

theorem makes_of_makeDirectory {tree : Tree}
    (hmade : d.tree.makeDirectory d.work d.time path = .ok tree) (hpath : path ≠ "") :
    d.Makes (d.withTree tree) ((d.withTree tree).LeadsTo path) := by
  obtain ⟨parent, name, hfree, rfl, hstat⟩ := exists_stat_of_makeDirectory hmade hpath
  have hchanges := d.changesAt_insert (parent ++ [name]) (.directory d.time) hfree
  have hget := d.tree.get?_insert_concat d.time parent name (.directory d.time)
  refine ⟨rfl, rfl, fun l e hnone hsome => ?_, fun l e he => ?_⟩
  · by_cases hl : l = parent ++ [name]
    · subst hl
      exact ⟨Option.some.inj (hsome.symm.trans hget), d.time, hstat⟩
    · rcases hchanges.same l hl with hsame | ⟨-, -, hstamped⟩
      · rw [hsame, hnone] at hsome
        cases hsome
      · rw [hstamped, hnone] at hsome
        cases hsome
  · have hl : l ≠ parent ++ [name] := by
      rintro rfl
      rw [hfree] at he
      cases he
    rcases hchanges.same l hl with hsame | ⟨-, habove, hstamped⟩
    · exact .inl (hsame.trans he)
    · obtain rfl : l = parent := by rw [habove, List.dropLast_concat]
      rw [he, Option.map_some] at hstamped
      have hdir : (d.tree.insert d.time (l ++ [name]) (.directory d.time)).isDirectory
          (l ++ [name]) = true := by
        rw [isDirectory, hget]
        rfl
      exact .inr ⟨hstamped, name, hfree, hdir⟩

/-- All directories that are made are at the end of one of the paths. -/
theorem makeAll_makes (d : Disk) (paths : List String) :
    d.Makes (d.makeAll paths).2 fun l => ∃ p ∈ paths, (d.makeAll paths).2.LeadsTo p l := by
  induction paths with
  | nil => exact .refl d _
  | cons path above ih =>
    have hlater : ∀ {d' d'' : Disk} {l : Location}, d'.Fills d'' →
        (∃ p ∈ above, d'.LeadsTo p l) → ∃ p ∈ path :: above, d''.LeadsTo p l :=
      fun hfills ⟨p, hp, hleads⟩ => ⟨p, List.mem_cons_of_mem _ hp, hleads.of_fills hfills⟩
    unfold makeAll
    split
    · exact .refl d _
    · next hpath =>
      split
      · next hmade =>
        exact (makes_of_makeDirectory hmade hpath).mono
          fun l hleads => ⟨path, List.mem_cons_self, hleads⟩
      · split
        · next hall =>
          rw [hall] at ih
          exact ih.mono fun l => hlater (.refl _)
        · next hall =>
          rw [hall] at ih
          split
          · next hmade =>
            have hlast := makes_of_makeDirectory hmade hpath
            exact (ih.trans hlast).mono fun l hway => hway.elim (hlater hlast.fills)
              fun hleads => ⟨path, List.mem_cons_self, hleads⟩
          · split <;> exact ih.mono fun l => hlater (.refl _)
      · split <;> exact .refl d _

/-- What is made for a path is on the way along it. -/
theorem leadsOver_of_leadsTo {p : String} {l : Location} (hp : p ∈ path :: Path.parents path)
    (hleads : d.LeadsTo p l) : d.LeadsOver path l := by
  obtain ⟨time, hstat⟩ := hleads
  have hwalks := (walks_of_locate (locate_of_stat hstat)).2
  rcases List.mem_cons.mp hp with rfl | hp
  · exact ⟨pathElements p, time, List.prefix_refl _, hwalks.of_filter_eq rfl false⟩
  · obtain ⟨n, -, rfl⟩ := List.mem_map.mp hp
    have hbegins : (Path.names path).take n <+: Path.names path := List.take_prefix n _
    have hnames : ∀ name ∈ (Path.names path).take n, name ≠ "" ∧ '/' ∉ name.toList :=
      fun name hname => Path.of_mem_names (hbegins.subset hname)
    have hfilter := hbegins.filter (· != ".")
    rw [Path.filter_names] at hfilter
    obtain ⟨first, rest, hall, hfirst⟩ := exists_append_of_prefix hfilter
    rw [Path.startOf_ofNames path hnames, Path.pathElements_ofNames hnames] at hwalks
    exact ⟨first, time, hall ▸ List.prefix_append first rest, hwalks.of_filter_eq hfirst false⟩

theorem makeWay_makes (d : Disk) (path : String) :
    d.Makes (d.makeWay path).2 ((d.makeWay path).2.LeadsOver path) :=
  (makeAll_makes d (path :: Path.parents path)).mono
    fun _ ⟨_, hp, hleads⟩ => leadsOver_of_leadsTo hp hleads

/-! ## Every directory -/

theorem WorksInDirectory.of_fills {d' : Disk} (h : d.WorksInDirectory) (hfills : d.Fills d') :
    d'.WorksInDirectory := by
  intro top htop
  rw [hfills.work] at htop
  exact hfills.tree.isDirectory (h top htop)

/-- No dead end is on the way to a directory. -/
theorem LeadsTo.not_isBlocked {top : Location} (h : d.LeadsTo path top)
    (hwork : d.WorksInDirectory) : ¬ d.IsBlocked path := by
  rintro ⟨before, hbefore, hend⟩
  exact not_leadsTo_of_isDeadEnd hwork hend (hbefore.filter _) top h

/-- How making a directory ends: it is refused, or there is one already, or it is tried. -/
theorem makeDirectory_cases (d : Disk) (base path : String) :
    (∃ problem, d.makeDirectory base path = (.error problem, d)) ∨
    ((∃ top, d.LeadsTo (pathFrom base path) top) ∧ d.makeDirectory base path = (.ok (), d)) ∨
    (∃ made, hasZero (Path.join base path) = false ∧
      d.makeWay (pathFrom base path) = (none, made) ∧
      d.makeDirectory base path = (.ok (), made)) ∨
    ∃ f made, d.makeWay (pathFrom base path) = (some f, made) ∧
      d.makeDirectory base path = (.error (.file (Path.join base path) f), made) := by
  unfold makeDirectory
  dsimp only
  split
  · exact .inl ⟨_, rfl⟩
  next hzero =>
  split
  · next top time hstat => exact .inr (.inl ⟨⟨top, time, hstat⟩, rfl⟩)
  · exact .inl ⟨_, rfl⟩
  · refine .inr (.inr ?_)
    generalize d.makeWay (pathFrom base path) = result
    obtain ⟨_ | f, made⟩ := result
    · exact .inl ⟨made, Bool.eq_false_iff.mpr hzero, rfl, rfl⟩
    · exact .inr ⟨f, made, rfl, rfl⟩

/-- Making a directory that is there changes nothing. -/
theorem makeDirectory_of_leadsTo {base : String} {top : Location}
    (hzero : hasZero (Path.join base path) = false) (h : d.LeadsTo (pathFrom base path) top) :
    d.makeDirectory base path = (.ok (), d) := by
  obtain ⟨time, hstat⟩ := h
  rw [makeDirectory, hzero, show d.tree.stat d.work (pathFrom base path) = _ from hstat]
  rfl

/-- What is made are directories on the way along the path, and everything else stays as it was. -/
theorem makeDirectory_makes (d : Disk) (base path : String) :
    d.Makes (d.makeDirectory base path).2
      ((d.makeDirectory base path).2.LeadsOver (pathFrom base path)) := by
  have hmakes := d.makeWay_makes (pathFrom base path)
  obtain ⟨problem, heq⟩ | ⟨-, heq⟩ | ⟨made, -, hmade, heq⟩ | ⟨f, made, hmade, heq⟩ :=
    d.makeDirectory_cases base path <;> rw [heq]
  · exact .refl d _
  · exact .refl d _
  · rwa [hmade] at hmakes
  · rwa [hmade] at hmakes

/-- Where it goes well there is a directory afterwards, and nothing more is to be made. -/
theorem makeDirectory_of_ok {base : String} (hok : (d.makeDirectory base path).1 = .ok ()) :
    (pathFrom base path = "" ∧ (d.makeDirectory base path).2 = d ∨
      ∃ top, (d.makeDirectory base path).2.LeadsTo (pathFrom base path) top) ∧
    (d.makeDirectory base path).2.makeDirectory base path =
      (.ok (), (d.makeDirectory base path).2) := by
  obtain ⟨problem, heq⟩ | ⟨hleads, heq⟩ | ⟨made, hzero, hmade, heq⟩ | ⟨f, made, -, heq⟩ :=
    d.makeDirectory_cases base path
  · rw [heq] at hok
    cases hok
  · rw [heq]
    exact ⟨.inr hleads, heq⟩
  · by_cases hempty : pathFrom base path = ""
    · obtain rfl : d = made := by
        rw [hempty, makeWay, makeAll, if_pos rfl] at hmade
        exact congrArg Prod.snd hmade
      rw [heq]
      exact ⟨.inl ⟨hempty, rfl⟩, heq⟩
    · obtain ⟨top, hleads⟩ := exists_leadsTo_of_makeAll hempty hmade
      rw [heq]
      exact ⟨.inr ⟨top, hleads⟩, makeDirectory_of_leadsTo hzero hleads⟩
  · rw [heq] at hok
    cases hok

/-- Where a dead end is on the way, nothing is made. -/
theorem makeDirectory_of_isBlocked {base : String} (hwork : d.WorksInDirectory)
    (hblocked : d.IsBlocked (pathFrom base path)) :
    ∃ problem, d.makeDirectory base path = (.error problem, d) := by
  obtain ⟨before, hbefore, hend⟩ := hblocked
  obtain ⟨fault, hfault⟩ := makeAll_of_isDeadEnd hwork hend (hbefore.filter _)
  obtain ⟨problem, heq⟩ | ⟨⟨top, hleads⟩, -⟩ | ⟨made, -, hmade, -⟩ | ⟨f, made, hmade, heq⟩ :=
    d.makeDirectory_cases base path
  · exact ⟨problem, heq⟩
  · exact absurd ⟨before, hbefore, hend⟩ (hleads.not_isBlocked hwork)
  · cases hmade.symm.trans hfault
  · cases hmade.symm.trans hfault
    exact ⟨_, heq⟩

theorem not_isBlocked_empty (hwork : d.WorksInDirectory) : ¬ d.IsBlocked "" := by
  rintro ⟨before, hbefore, hend⟩
  rw [pathElements_empty, List.prefix_nil] at hbefore
  exact hend.filter_ne_nil (hwork.startOf "") (by rw [hbefore]; rfl)

/-- Only two empty texts make an empty path. -/
theorem pathFrom_eq_empty {base : String} (h : pathFrom base path = "") :
    base = "" ∧ path = "" := by
  have h : Path.join base path = "" := Text.octets_eq_empty_iff.mp h
  unfold Path.join at h
  split at h
  · next habsolute =>
    rw [h] at habsolute
    cases habsolute
  · split at h
    · next hempty => exact ⟨by simpa using hempty, h⟩
    · next hne =>
      split at h
      · exact absurd (String.append_eq_empty_iff.mp h).1 (by simpa using hne)
      · exact absurd (String.append_eq_empty_iff.mp (String.append_eq_empty_iff.mp h).1).1
          (by simpa using hne)

/-- A directory is made with those above it. Those that are made are on the way along the path, and
everything else stays as it was, but for the time of a directory that one was made in. If it goes
well the path leads to a directory, unless it is empty, and the same again changes nothing. If
something else is in the way, be it on the way to a directory that had to be made first, it fails,
and nothing is made at all if that could be seen before. -/
theorem makeDirectory_leads_to_directory (hwork : d.WorksInDirectory) (base path : String) :
    let full := pathFrom base path
    let after := d.makeDirectory base path
    d.Makes after.2 (after.2.LeadsOver full) ∧
    (after.1 = .ok () →
      (base = "" ∧ path = "" ∧ after.2 = d ∨ ∃ top, after.2.LeadsTo full top) ∧
      after.2.makeDirectory base path = (.ok (), after.2)) ∧
    (d.IsBlocked full → ∃ problem, after = (.error problem, d)) ∧
    (after.2.IsBlocked full → ∃ problem, after.1 = .error problem) := by
  intro full after
  have hmakes := d.makeDirectory_makes base path
  have hleads : after.1 = .ok () → base = "" ∧ path = "" ∧ after.2 = d ∨
      ∃ top, after.2.LeadsTo full top := by
    intro hok
    rcases (makeDirectory_of_ok hok).1 with ⟨hempty, hsame⟩ | hleads
    · exact .inl ⟨(pathFrom_eq_empty hempty).1, (pathFrom_eq_empty hempty).2, hsame⟩
    · exact .inr hleads
  refine ⟨hmakes, fun hok => ⟨hleads hok, (makeDirectory_of_ok hok).2⟩,
    makeDirectory_of_isBlocked hwork, fun hblocked => ?_⟩
  cases hresult : after.1 with
  | error problem => exact ⟨problem, rfl⟩
  | ok result =>
    have hwork' : after.2.WorksInDirectory := hwork.of_fills hmakes.fills
    rcases hleads hresult with ⟨rfl, rfl, -⟩ | ⟨top, hleads⟩
    · have hempty : full = "" := Text.octets_eq_empty_iff.mpr (by decide)
      rw [hempty] at hblocked
      exact absurd hblocked (not_isBlocked_empty hwork')
    · exact absurd hblocked (hleads.not_isBlocked hwork')

end

/-- Two directories are made one in the other, and none is made in a file. -/
theorem makeDirectory_leads_to_directory_nested : twoFiles.WorksInDirectory ∧
    (twoFiles.makeDirectory "." "a/b").1 = .ok () ∧
    (∃ top, (twoFiles.makeDirectory "." "a/b").2.LeadsTo (pathFrom "." "a/b") top) ∧
    twoFiles.IsBlocked (pathFrom "." "f/a") ∧
    ∃ problem, twoFiles.makeDirectory "." "f/a" = (.error problem, twoFiles) := by
  have hwork := worksInDirectory_twoFiles
  have hok : (twoFiles.makeDirectory "." "a/b").1 = .ok () := by with_unfolding_all decide
  have hleads := ((makeDirectory_leads_to_directory hwork "." "a/b").2.1 hok).1.resolve_left
    fun hempty => absurd hempty.1 (by decide)
  have hfile : twoFiles.tree.way? ["box", "work", "f"] = some .stop := by decide
  obtain ⟨e, hget, hstop⟩ := Option.map_eq_some_iff.mp hfile
  have hwalks : ∀ follow, Walks twoFiles.tree follow 40 false ["box", "work"] [".", "f"]
      (.entry ["box", "work", "f"] e) :=
    fun _ => .stay (.stop ⟨by decide, by decide, by decide⟩ hget hstop)
  have hpath : Tree.startOf twoFiles.work (pathFrom "." "f/a") = ["box", "work"] ∧
      [".", "f"] <+: pathElements (pathFrom "." "f/a") := by
    with_unfolding_all decide
  have hblocked : twoFiles.IsBlocked (pathFrom "." "f/a") := by
    refine ⟨[".", "f"], hpath.2, ⟨_, _, hpath.1 ▸ hwalks false⟩, fun loc time hdir => ?_⟩
    rw [hpath.1] at hdir
    cases (hwalks true).walk_eq.symm.trans hdir.walk_eq
    cases hstop
  exact ⟨hwork, hok, hleads, hblocked,
    (makeDirectory_leads_to_directory hwork "." "f/a").2.2.1 hblocked⟩

/-- The empty path is made without a fault and leads nowhere, and a directory that another one is
made in gets another time. -/
theorem empty_path_is_not_made : (twoFiles.makeDirectory "" "").1 = .ok () ∧
    twoFiles.tree.leadsToDirectory twoFiles.work (pathFrom "" "") = false ∧
    (twoFiles.makeDirectory "" "").2.pathExists "" = false ∧
    (twoFiles.makeDirectory "." "a").1 = .ok () ∧ twoFiles.modifiedTime? "." = some 0 ∧
    (twoFiles.makeDirectory "." "a").2.modifiedTime? "." = some 7 := by
  with_unfolding_all decide

end Disk

end BuildTool
