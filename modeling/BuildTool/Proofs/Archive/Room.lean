import BuildTool.Proofs.Archive.Unpacking
import Mathlib.Data.List.Induction

/-!
# Room for what is unpacked

An entry has room in a directory if directories can be made on the way to its place, and if nothing
is at its place that it must not take the place of. Then it is unpacked, and so is an archive whose
entries find room one after the other:

    FitsAll dir items d   →   unpack dir items d = (ok, d')

The directories on the way are tried under other spellings than the path of the entry has, without
the dots in it. They lead to the same places.

## Sections

* spellings of a directory;
* ways that go on;
* directories on the way;
* one entry;
* every archive.
-/

namespace BuildTool

open BuildTool.Tree

/-! ## Spellings of a directory -/

namespace Path

variable {dir : String} {steps : List String}

theorem withoutDots_append {rooted : Bool} {names : List String}
    (hsteps : ∀ name ∈ steps, name ≠ ".") :
    withoutDots rooted (names ++ steps) = withoutDots rooted names ++ steps := by
  have hkept : ∀ {steps : List String}, (∀ name ∈ steps, name ≠ ".") →
      steps.filter (· != ".") = steps :=
    fun h => List.filter_eq_self.mpr fun name hname => bne_iff_ne.mpr (h name hname)
  cases rooted with
  | true => exact (List.filter_append ..).trans (congrArg _ (hkept hsteps))
  | false =>
    cases names with
    | cons first rest =>
      exact congrArg (first :: ·) ((List.filter_append ..).trans (congrArg _ (hkept hsteps)))
    | nil =>
      cases steps with
      | nil => rfl
      | cons first rest =>
        exact congrArg (first :: ·) (hkept fun name h => hsteps name (List.mem_cons_of_mem _ h))

theorem withoutDots_withoutDots (rooted : Bool) (names : List String) :
    withoutDots rooted (withoutDots rooted names) = withoutDots rooted names := by
  have htake := withoutDots_take rooted names (withoutDots rooted names).length
  rwa [List.take_length] at htake

theorem filter_withoutDots (rooted : Bool) (names : List String) :
    (withoutDots rooted names).filter (· != ".") = names.filter (· != ".") := by
  have hfilter : ∀ names : List String,
      (names.filter (· != ".")).filter (· != ".") = names.filter (· != ".") :=
    fun names => List.filter_eq_self.mpr fun name hname => (List.mem_filter.mp hname).2
  cases rooted with
  | true => exact hfilter names
  | false =>
    cases names with
    | nil => rfl
    | cons first rest =>
      rw [withoutDots, if_neg Bool.false_ne_true, List.filter_cons, List.filter_cons, hfilter]

theorem filter_names (path : String) :
    (names path).filter (· != ".") = (pathElements path).filter (· != ".") := by
  rw [names_eq_withoutDots, filter_withoutDots]

/-- The path that leads over these names from a directory, spelled without dots. -/
def inside (dir : String) (steps : List String) : String :=
  ofNames (isAbsolute dir) (names dir ++ steps)

theorem of_mem_inside (hsteps : ∀ name ∈ steps, IsElement name) :
    ∀ name ∈ names dir ++ steps, name ≠ "" ∧ '/' ∉ name.toList :=
  List.forall_mem_append.mpr ⟨fun _ hname => of_mem_names hname,
    fun name hname => ⟨(hsteps name hname).ne_empty, (hsteps name hname).no_slash⟩⟩

theorem pathElements_inside (dir : String) (hsteps : ∀ name ∈ steps, IsElement name) :
    pathElements (inside dir steps) = names dir ++ steps :=
  pathElements_ofNames (of_mem_inside hsteps) _

theorem isAbsolute_inside (dir : String) (hsteps : ∀ name ∈ steps, IsElement name) :
    isAbsolute (inside dir steps) = isAbsolute dir :=
  isAbsolute_ofNames (of_mem_inside hsteps) _

theorem names_inside (dir : String) (hsteps : ∀ name ∈ steps, IsElement name) :
    names (inside dir steps) = names dir ++ steps := by
  rw [names_eq_withoutDots, pathElements_inside dir hsteps, isAbsolute_inside dir hsteps,
    withoutDots_append fun name hname => (hsteps name hname).ne_dot, names_eq_withoutDots dir,
    withoutDots_withoutDots]

/-- The first names of a path are those of a path with them alone. -/
theorem names_ofNames {path : String} {init : List String} (h : init <+: names path) :
    names (ofNames (isAbsolute path) init) = init := by
  have hinit : ∀ name ∈ init, name ≠ "" ∧ '/' ∉ name.toList :=
    fun name hname => of_mem_names (h.subset hname)
  have htake := withoutDots_take (isAbsolute path) (pathElements path) init.length
  rw [← names_eq_withoutDots, ← List.prefix_iff_eq_take.mp h] at htake
  rw [names_eq_withoutDots, pathElements_ofNames hinit, isAbsolute_ofNames hinit, htake]

/-- The directories on the way to a path are the one above it and those on the way to that one. -/
theorem parents_concat {path last : String} {init : List String}
    (h : names path = init ++ [last]) : parents path =
      ofNames (isAbsolute path) init :: parents (ofNames (isAbsolute path) init) := by
  have hbegins : init <+: names path := h ▸ List.prefix_append _ _
  have hinit : ∀ name ∈ init, name ≠ "" ∧ '/' ∉ name.toList :=
    fun name hname => of_mem_names (hbegins.subset hname)
  have hnames := names_ofNames hbegins
  unfold parents
  dsimp only
  rw [hnames, isAbsolute_ofNames hinit, h, List.length_append, List.length_singleton,
    List.range_succ, List.reverse_append, List.reverse_singleton, List.singleton_append,
    List.map_cons, List.take_left]
  refine congrArg _ (List.map_congr_left fun n hn => ?_)
  have hle : n ≤ init.length := Nat.le_of_lt (List.mem_range.mp (List.mem_reverse.mp hn))
  rw [List.take_append_of_le_length hle]

theorem parents_inside {name : String} (hsteps : ∀ n ∈ steps ++ [name], IsElement n) :
    parents (inside dir (steps ++ [name])) = inside dir steps :: parents (inside dir steps) := by
  have hnames : names (inside dir (steps ++ [name])) = (names dir ++ steps) ++ [name] := by
    rw [names_inside dir hsteps, List.append_assoc]
  rw [parents_concat hnames, isAbsolute_inside dir hsteps]
  rfl

theorem parents_below {name : String} (hsteps : ∀ n ∈ steps ++ [name], IsElement n)
    (hdir : dir ≠ "") : parents (below dir (steps ++ [name])) =
      inside dir steps :: parents (inside dir steps) := by
  have habsolute : isAbsolute (below dir (steps ++ [name])) = isAbsolute dir := by
    rw [isAbsolute_eq_startsWith, isAbsolute_eq_startsWith, startsWith_below hsteps hdir]
  have hnames : names (below dir (steps ++ [name])) = (names dir ++ steps) ++ [name] := by
    rw [names_eq_withoutDots, pathElements_below hsteps hdir, habsolute,
      withoutDots_append fun n hn => (hsteps n hn).ne_dot, ← names_eq_withoutDots,
      List.append_assoc]
  rw [parents_concat hnames, habsolute]
  rfl

/-- A relative path has an element. -/
theorem names_ne_nil (hdir : dir ≠ "") (hrelative : isAbsolute dir = false) : names dir ≠ [] := by
  have helements : pathElements dir ≠ [] := by
    unfold isAbsolute at hrelative
    unfold pathElements
    cases hchars : dir.toList with
    | nil => exact absurd (String.toList_eq_nil_iff.mp hchars) hdir
    | cons c rest =>
      have hc : c ≠ '/' := by
        rintro rfl
        rw [hchars] at hrelative
        cases hrelative
      rw [Text.splitChar]
      split
      · simp
      · rw [if_neg hc]
        simp
  rw [names_eq_withoutDots, hrelative]
  intro hnil
  cases hpath : pathElements dir with
  | nil => exact helements hpath
  | cons first rest =>
    rw [hpath] at hnil
    cases hnil

theorem inside_ne_empty (hsteps : ∀ name ∈ steps, IsElement name) (hdir : dir ≠ "") :
    inside dir steps ≠ "" := by
  intro hempty
  have hnames := pathElements_inside dir hsteps
  have habsolute := isAbsolute_inside dir hsteps
  rw [hempty, pathElements_empty] at hnames
  rw [hempty] at habsolute
  exact names_ne_nil hdir habsolute.symm (List.append_eq_nil_iff.mp hnames.symm).1

end Path

/-! ## Ways that go on -/

namespace Tree

section

variable {t : Tree} {follow mustBe mustBe' : Bool} {links : Nat} {dir top : Location}
  {names names' steps rest : List String} {time : Time} {place : Place}

theorem Walks.of_dots (hdots : ∀ name ∈ names', name = ".")
    (h : Walks t follow links mustBe dir names place) :
    Walks t follow links mustBe dir (names' ++ names) place := by
  induction names' with
  | nil => exact h
  | cons name rest ih =>
    obtain ⟨rfl, hrest⟩ := List.forall_mem_cons.mp hdots
    exact .stay (ih hrest)

/-- A name that is no dot is found behind dots in a path that is the same but for dots. -/
theorem exists_dots_of_filter_eq {name : String} (hname : name ≠ ".")
    (hnames : names'.filter (· != ".") = (name :: rest).filter (· != ".")) : ∃ dots rest',
      names' = dots ++ name :: rest' ∧ (∀ name ∈ dots, name = ".") ∧
      rest'.filter (· != ".") = rest.filter (· != ".") := by
  have hkept : (name != ".") = true := bne_iff_ne.mpr hname
  rw [List.filter_cons, if_pos hkept] at hnames
  obtain ⟨dots, rest', rfl, hdots, -, hrest⟩ := List.filter_eq_cons_iff.mp hnames
  exact ⟨dots, rest', rfl, fun name hname => by simpa using hdots name hname, hrest⟩

/-- The dots in a path to a directory do not matter, nor does a slash at its end. -/
theorem Walks.of_filter_eq (h : Walks t true links mustBe dir names (.entry top (.directory time)))
    (hnames : names'.filter (· != ".") = names.filter (· != ".")) (mustBe' : Bool) :
    Walks t true links mustBe' dir names' (.entry top (.directory time)) := by
  generalize hplace : Place.entry top (.directory time) = target at h
  induction h generalizing names' mustBe' with
  | arrive hget =>
    have hdots : ∀ name ∈ names', name = "." := fun name hname => by
      simpa using List.filter_eq_nil_iff.mp hnames name hname
    rw [← List.append_nil names']
    exact .of_dots hdots (.arrive hget)
  | stay _ ih => exact ih hnames mustBe' hplace
  | up _ ih =>
    obtain ⟨dots, rest', rfl, hdots, hrest⟩ := exists_dots_of_filter_eq (by decide) hnames
    exact .of_dots hdots (.up (ih hrest mustBe' hplace))
  | free => cases hplace
  | enter hname hdir _ ih =>
    obtain ⟨dots, rest', rfl, hdots, hrest⟩ := exists_dots_of_filter_eq hname.ne_dot hnames
    exact .of_dots hdots (.enter hname hdir (ih hrest mustBe' hplace))
  | link _ _ hfollow => cases hfollow
  | follow hname hlink htarget _ _ ih =>
    obtain ⟨dots, rest', rfl, hdots, hrest⟩ := exists_dots_of_filter_eq hname.ne_dot hnames
    refine .of_dots hdots (.follow hname hlink htarget (fun hlast => by cases hlast.2.1) ?_)
    refine ih ?_ _ hplace
    rw [List.filter_append, List.filter_append, hrest]
  | stop _ _ hway =>
    cases hplace
    cases hway

/-- A path to a directory goes on from there. -/
theorem Walks.append (h : Walks t true links mustBe dir names (.entry top (.directory time)))
    (hsteps : ∀ links, Walks t follow links mustBe' top steps place) (hne : steps ≠ []) :
    Walks t follow links mustBe' dir (names ++ steps) place := by
  generalize hplace : Place.entry top (.directory time) = target at h
  induction h with
  | arrive =>
    cases hplace
    exact hsteps _
  | stay _ ih => exact .stay (ih hplace)
  | up _ ih => exact .up (ih hplace)
  | free => cases hplace
  | enter hname hdir _ ih => exact .enter hname hdir (ih hplace)
  | link _ _ hfollow => cases hfollow
  | @follow _ _ _ _ _ rest _ hname hlink htarget _ _ ih =>
    have hmore : rest ++ steps ≠ [] := fun hnil => hne (List.append_eq_nil_iff.mp hnil).2
    have hwalks := ih hplace
    rw [List.append_assoc] at hwalks
    rw [List.cons_append]
    refine .follow hname hlink htarget (fun hlast => hmore hlast.1) ?_
    rwa [List.isEmpty_eq_false_iff.mpr hmore, Bool.false_and, Bool.or_false]
  | stop _ _ hway =>
    cases hplace
    cases hway

/-- All locations that these names lead to one after the other are directories. -/
def AreDirectories (t : Tree) (top : Location) (steps : List String) : Prop :=
  ∀ before, before <+: steps → before ≠ [] → t.isDirectory (top ++ before) = true

theorem AreDirectories.nil (t : Tree) (top : Location) : t.AreDirectories top [] :=
  fun _ hbefore hne => absurd (List.prefix_nil.mp hbefore) hne

theorem areDirectories_concat_iff {name : String} : t.AreDirectories top (steps ++ [name]) ↔
    t.AreDirectories top steps ∧ t.isDirectory (top ++ (steps ++ [name])) = true := by
  constructor
  · exact fun h => ⟨fun before hbefore => h before (hbefore.trans (List.prefix_append _ _)),
      h _ (List.prefix_refl _) (by simp)⟩
  · rintro ⟨h, hlast⟩ before hbefore hne
    rcases List.prefix_concat_iff.mp hbefore with rfl | hbefore
    · exact hlast
    · exact h before hbefore hne

theorem exists_directory_of_isDirectory {loc : Location} (h : t.isDirectory loc = true) :
    ∃ time, t.get? loc = some (.directory time) := by
  unfold isDirectory at h
  split at h
  · next e hget =>
    cases e with
    | directory time => exact ⟨time, hget⟩
    | file | link | tool | nullDevice => cases h
  · cases h

theorem AreDirectories.walks (h : t.AreDirectories top steps)
    (hnames : ∀ name ∈ steps, IsStep name)
    (hrest : Walks t follow links mustBe (top ++ steps) rest place) :
    Walks t follow links mustBe top (steps ++ rest) place := by
  induction steps generalizing top with
  | nil => rwa [List.append_nil] at hrest
  | cons name steps ih =>
    obtain ⟨hname, hnames⟩ := List.forall_mem_cons.mp hnames
    have hfirst : [name] <+: name :: steps := ⟨steps, rfl⟩
    obtain ⟨time, hget⟩ := exists_directory_of_isDirectory (h [name] hfirst (by simp))
    refine .enter hname hget (ih (fun before hbefore _ => ?_) hnames ?_)
    · rw [List.append_assoc]
      exact h (name :: before) ((List.cons_prefix_cons).mpr ⟨rfl, hbefore⟩) (by simp)
    · rwa [List.append_assoc]

end

end Tree

/-! ## Directories on the way -/

/-- A directory stands at a location, or nothing does, so that one can be made there. -/
def Tree.IsOpen (t : Tree) (loc : Location) : Prop := t.get? loc = none ∨ t.isDirectory loc = true

theorem Tree.IsOpen.of_get?_eq {t t' : Tree} {loc : Location} (h : t.IsOpen loc)
    (hget : t'.get? loc = t.get? loc) : t'.IsOpen loc := by
  unfold IsOpen isDirectory at h ⊢
  rwa [hget]

namespace Disk

/-- No path of these is refused for its length, or for a zero byte. -/
def AreUsable (paths : List String) : Prop :=
  ∀ path ∈ paths, ¬ isTooLongPath path = true ∧ hasZero path = false

section

variable {d : Disk} {dir : String} {top : Location} {steps : List String}

theorem LeadsTo.ne_empty (h : d.LeadsTo dir top) : dir ≠ "" := by
  obtain ⟨time, hstat⟩ := h
  exact (locate_eq_ok_iff.mp (locate_of_stat hstat)).1

/-- The other spelling of a directory leads there too. -/
theorem LeadsTo.walks_inside (h : d.LeadsTo dir top) (hsteps : ∀ name ∈ steps, Path.IsElement name) :
    ∃ time, ∀ mustBe, Walks d.tree true 40 mustBe (startOf d.work (Path.inside dir steps))
      (Path.names dir) (.entry top (.directory time)) := by
  obtain ⟨time, hstat⟩ := h
  have hwalks := (walks_of_locate (locate_of_stat hstat)).2
  have hstart : startOf d.work (Path.inside dir steps) = startOf d.work dir := by
    rw [startOf, startOf, ← Path.isAbsolute_eq_startsWith, Path.isAbsolute_inside dir hsteps,
      Path.isAbsolute_eq_startsWith]
  refine ⟨time, fun mustBe => ?_⟩
  rw [hstart]
  refine hwalks.of_filter_eq ?_ mustBe
  rw [Path.names_eq_withoutDots, Path.filter_withoutDots]

variable (hsteps : ∀ name ∈ steps, Path.IsElement name)
  (hshort : ∀ name ∈ steps, ¬ isTooLong name = true)

include hsteps hshort in
theorem isStep_of_mem : ∀ name ∈ steps, IsStep name :=
  fun name hname => ⟨(hsteps name hname).ne_dot, (hsteps name hname).ne_dots, hshort name hname⟩

include hsteps hshort in
/-- A spelling over directories leads to the last of them. -/
theorem LeadsTo.inside (h : d.LeadsTo dir top) (hdirs : d.tree.AreDirectories top steps)
    (hlong : ¬ isTooLongPath (Path.inside dir steps) = true) :
    d.LeadsTo (Path.inside dir steps) (top ++ steps) := by
  obtain ⟨time, hwalks⟩ := h.walks_inside hsteps
  have hne := Path.inside_ne_empty hsteps h.ne_empty
  have helements := Path.pathElements_inside dir hsteps
  by_cases hnil : steps = []
  · subst hnil
    rw [List.append_nil] at helements ⊢
    refine ⟨time, stat_of_locate (locate_eq_ok_iff.mpr ⟨hne, hlong, ?_⟩)⟩
    rw [helements]
    exact hwalks _
  · obtain ⟨time', hget⟩ := exists_directory_of_isDirectory (hdirs steps (List.prefix_refl _) hnil)
    refine ⟨time', stat_of_locate (locate_eq_ok_iff.mpr ⟨hne, hlong, ?_⟩)⟩
    rw [helements]
    refine (hwalks false).append (fun links => ?_) hnil
    have hend := hdirs.walks (isStep_of_mem hsteps hshort)
      (.arrive hget : Walks d.tree true links (endsInSlash (Path.inside dir steps)) _ [] _)
    rwa [List.append_nil] at hend

include hsteps hshort in
theorem LeadsTo.isInside_inside (h : d.LeadsTo dir top) (hdirs : d.tree.AreDirectories top steps)
    (hlong : ¬ isTooLongPath (Path.inside dir steps) = true) :
    d.isInside dir (Path.inside dir steps) = true := by
  obtain ⟨_, hinside⟩ := h.inside hsteps hshort hdirs hlong
  obtain ⟨_, hstat⟩ := h
  rw [isInside, hstat, hinside]
  exact List.isPrefixOf_iff_prefix.mpr (List.prefix_append _ _)

end

section

variable {d : Disk} {dir : String} {top : Location} {steps : List String} {name : String}
  (hleads : d.LeadsTo dir top) (hsteps : ∀ n ∈ steps ++ [name], Path.IsElement n)
  (hshort : ∀ n ∈ steps ++ [name], ¬ isTooLong n = true)
  (hdirs : d.tree.AreDirectories top steps)
  (hlong : ¬ isTooLongPath (Path.inside dir (steps ++ [name])) = true)
include hleads hsteps hshort hdirs hlong

theorem makeDirectory_of_free (hfree : d.tree.get? (top ++ (steps ++ [name])) = none) :
    d.tree.makeDirectory d.work d.time (Path.inside dir (steps ++ [name])) =
      .ok (d.tree.insert d.time (top ++ (steps ++ [name])) (.directory d.time)) := by
  obtain ⟨time, hwalks⟩ := hleads.walks_inside hsteps
  have hnames := isStep_of_mem hsteps hshort
  have hend : ∀ mustBe links, Walks d.tree false links mustBe top (steps ++ [name])
      (.free (top ++ steps) name) := by
    intro mustBe links
    refine hdirs.walks (fun n hn => hnames n (List.mem_append_left _ hn)) ?_
    refine .free (hnames name (by simp)) ?_
    rwa [List.append_assoc]
  have hplace : d.tree.locate d.work false (withoutEndSlashes (Path.inside dir (steps ++ [name]))) =
      .ok (.free (top ++ steps) name) := by
    refine locate_eq_ok_iff.mpr
      ⟨withoutEndSlashes_ne_empty (Path.inside_ne_empty hsteps hleads.ne_empty),
        fun h => hlong (isTooLongPath_of_withoutEndSlashes h), ?_⟩
    rw [startOf_withoutEndSlashes, pathElements_withoutEndSlashes,
      Path.pathElements_inside dir hsteps]
    exact (hwalks false).append (hend _) (by simp)
  rw [Tree.makeDirectory, if_neg hlong, hplace, ← List.append_assoc]

/-- Where nothing is in its way, a directory is there afterwards, and nothing changes deeper in the
tree. -/
theorem exists_makeWay (hopen : d.tree.IsOpen (top ++ (steps ++ [name]))) :
    ∃ d', d.makeWay (Path.inside dir (steps ++ [name])) = (none, d') ∧
      d'.tree.isDirectory (top ++ (steps ++ [name])) = true ∧
      ∀ loc, (top ++ (steps ++ [name])).length < loc.length →
        d'.tree.get? loc = d.tree.get? loc := by
  have hne := Path.inside_ne_empty hsteps hleads.ne_empty
  obtain hfree | hthere := hopen
  · have hmade := makeDirectory_of_free hleads hsteps hshort hdirs hlong hfree
    refine ⟨_, by rw [makeWay, makeAll, if_neg hne, hmade], ?_, fun loc hloc => ?_⟩
    · exact isDirectory_iff.mpr ((way?_insert ..).trans (if_pos rfl))
    · have hself : loc ≠ top ++ (steps ++ [name]) := by
        rintro rfl
        exact absurd hloc (Nat.lt_irrefl _)
      have habove : loc ≠ (top ++ (steps ++ [name])).dropLast := by
        rintro rfl
        rw [List.length_dropLast] at hloc
        omega
      rw [withTree, Tree.insert, get?_stamp, if_neg habove, get?_put, if_neg hself]
  · have hall := areDirectories_concat_iff.mpr ⟨hdirs, hthere⟩
    obtain ⟨time, hstat⟩ := hleads.inside hsteps hshort hall hlong
    have hleadsTo : d.tree.leadsToDirectory d.work (Path.inside dir (steps ++ [name])) = true := by
      rw [leadsToDirectory, show d.tree.stat d.work _ = _ from hstat]
      rfl
    refine ⟨d, ?_, hthere, fun _ _ => rfl⟩
    rw [makeWay, makeAll, if_neg hne, makeDirectory_of_stat hstat]
    dsimp only
    rw [if_pos hleadsTo]

end

theorem isTaken_iff {d : Disk} {path : String} : d.isTaken path = true ↔
    ∃ loc e, d.tree.locate d.work false path = .ok (.entry loc e) := by
  unfold isTaken Tree.pathExists Tree.statLink
  cases d.tree.locate d.work false path with
  | error => simp
  | ok place => cases place <;> simp

theorem isTaken_of_stat {d : Disk} {path : String} {loc : Location} {e : Entry}
    (h : d.tree.stat d.work path = .ok (loc, e)) : d.isTaken path = true := by
  obtain ⟨hpath, hlong, hwalks⟩ := locate_eq_ok_iff.mp (locate_of_stat h)
  obtain ⟨loc', e', hwalks'⟩ := hwalks.exists_unfollowed id
  exact isTaken_iff.mpr ⟨loc', e', locate_eq_ok_iff.mpr ⟨hpath, hlong, hwalks'⟩⟩

/-- The directories that are missing at the end of a way, outermost first. -/
def missing (d : Disk) (path : String) : List String :=
  ((path :: Path.parents path).takeWhile fun path => !d.isTaken path).reverse

theorem missing_of_isTaken {d : Disk} {path : String} (h : d.isTaken path = true) :
    d.missing path = [] := by
  rw [missing, List.takeWhile_cons, h]
  rfl

theorem makeInside?_append (top : String) (paths more : List String) (d : Disk) :
    makeInside? top (paths ++ more) d =
      match makeInside? top paths d with
      | (none, d') => (none, d')
      | (some d', _) => makeInside? top more d' := by
  induction paths generalizing d with
  | nil => rfl
  | cons path rest ih =>
    rw [List.cons_append, makeInside?, makeInside?]
    split
    · rfl
    · rcases d.makeWay path with ⟨_ | _, d₁⟩
      · exact ih d₁
      · rfl

section

variable {d : Disk} {dir : String} {top : Location} {steps : List String}
  (hleads : d.LeadsTo dir top) (hlinks : d.tree.IsLinkFree top)
include hleads hlinks

/-- What stands at the end of a way is a directory, and so is all on the way to it, if nothing else
is in the way. -/
theorem areDirectories_of_isTaken (hsteps : ∀ n ∈ steps, Path.IsElement n)
    (hopen : ∀ before, before <+: steps → before ≠ [] → d.tree.IsOpen (top ++ before))
    (h : d.isTaken (Path.inside dir steps) = true) : d.tree.AreDirectories top steps := by
  intro before hbefore hne
  have hnil : steps ≠ [] := fun he => hne (List.prefix_nil.mp (he ▸ hbefore))
  obtain ⟨loc, e, hplace⟩ := isTaken_iff.mp h
  obtain ⟨time, hwalks⟩ := hleads.walks_inside hsteps
  have hwalk := (walks_of_locate hplace).2.walk_eq
  rw [Path.pathElements_inside dir hsteps] at hwalk
  obtain ⟨hway, hends⟩ := (hwalks false).endsBelow_of_append hwalk hlinks hsteps hnil
  obtain ⟨_, hentry⟩ | ⟨_, _, _, hfree⟩ := hends
  · cases hentry
    obtain ⟨after, rfl⟩ := hbefore
    by_cases hlast : after = []
    · subst hlast
      rw [List.append_nil] at hplace
      have hget : d.tree.get? (top ++ before) = some e := isEndOf_of_locate hplace
      refine (hopen before (List.prefix_append _ _) hne).resolve_left fun hfree => ?_
      rw [hfree] at hget
      cases hget
    · exact hway before after rfl hne hlast
  · cases hfree

/-- The directories that are missing on an open way can be made. -/
theorem exists_makeInside? (hsteps : ∀ n ∈ steps, Path.IsElement n)
    (hshort : ∀ n ∈ steps, ¬ isTooLong n = true)
    (husable : AreUsable (Path.inside dir steps :: Path.parents (Path.inside dir steps)))
    (hopen : ∀ before, before <+: steps → before ≠ [] → d.tree.IsOpen (top ++ before)) :
    ∃ d', makeInside? dir (d.missing (Path.inside dir steps)) d = (some d', d') ∧
      d'.tree.AreDirectories top steps ∧
      ∀ loc, (top ++ steps).length < loc.length → d'.tree.get? loc = d.tree.get? loc := by
  induction steps using List.reverseRecOn with
  | nil =>
    obtain ⟨hlong, -⟩ := husable _ List.mem_cons_self
    obtain ⟨time, hstat⟩ := hleads.inside hsteps hshort (.nil _ _) hlong
    rw [missing_of_isTaken (isTaken_of_stat hstat)]
    exact ⟨d, rfl, .nil _ _, fun _ _ => rfl⟩
  | append_singleton steps name ih =>
    by_cases htaken : d.isTaken (Path.inside dir (steps ++ [name])) = true
    · rw [missing_of_isTaken htaken]
      exact ⟨d, rfl, areDirectories_of_isTaken hleads hlinks hsteps hopen htaken, fun _ _ => rfl⟩
    rw [Path.parents_inside hsteps] at husable
    obtain ⟨⟨hlong, hzero⟩, habove⟩ := List.forall_mem_cons.mp husable
    have hsteps' : ∀ n ∈ steps, Path.IsElement n := fun n hn => hsteps n (List.mem_append_left _ hn)
    have hshort' : ∀ n ∈ steps, ¬ isTooLong n = true := fun n hn =>
      hshort n (List.mem_append_left _ hn)
    obtain ⟨d₁, hmade, hdirs, hdeeper⟩ := ih hsteps' hshort' habove fun before hbefore =>
      hopen before (hbefore.trans (List.prefix_append _ _))
    have hleads₁ := hleads.of_fills ((makeInside?_grows hmade).2 d₁ rfl).toFills
    have hopen₁ : d₁.tree.IsOpen (top ++ (steps ++ [name])) :=
      (hopen (steps ++ [name]) (List.prefix_refl _) (by simp)).of_get?_eq (hdeeper _ (by simp))
    obtain ⟨d₂, hmakes, hthere, hdeeper'⟩ :=
      exists_makeWay hleads₁ hsteps hshort hdirs hlong hopen₁
    have hgrows := d₁.makeWay_grows (Path.inside dir (steps ++ [name]))
    rw [hmakes] at hgrows
    refine ⟨d₂, ?_, areDirectories_concat_iff.mpr ⟨fun before hbefore hne =>
      hgrows.fills.isDirectory (hdirs before hbefore hne), hthere⟩, fun loc hloc => ?_⟩
    · have hmissing : d.missing (Path.inside dir (steps ++ [name])) =
          d.missing (Path.inside dir steps) ++ [Path.inside dir (steps ++ [name])] := by
        rw [missing, List.takeWhile_cons_of_pos (by simpa using htaken), List.reverse_cons,
          Path.parents_inside hsteps, missing]
      have hinside := hleads₁.isInside_inside hsteps' hshort' hdirs (habove _ List.mem_cons_self).1
      rw [hmissing, makeInside?_append, hmade]
      dsimp only
      rw [makeInside?, Path.parents_inside hsteps, hmakes, hzero]
      simp only [List.head?_cons, Option.any_some, hinside]
      rfl
    · have hlonger : (top ++ steps).length < loc.length := by
        rw [← List.append_assoc, List.length_append] at hloc
        omega
      rw [hdeeper' loc hloc, hdeeper loc hlonger]

end

/-! ## One entry -/

section

variable {d : Disk} {dir : String} {top : Location} {steps : List String} {name : String}
  (hleads : d.LeadsTo dir top) (hsteps : ∀ n ∈ steps ++ [name], Path.IsElement n)
  (hshort : ∀ n ∈ steps ++ [name], ¬ isTooLong n = true)
  (hdirs : d.tree.AreDirectories top steps)
  (hlong : ¬ isTooLongPath (Path.below dir (steps ++ [name])) = true)
include hleads hsteps hshort hdirs hlong

/-- The path of an entry leads where its name leads from the directory above it. -/
theorem locate_below (follow : Bool) {place : Place}
    (h : IsStep name → ∀ links, Walks d.tree follow links false (top ++ steps) [name] place) :
    d.tree.locate d.work follow (Path.below dir (steps ++ [name])) = .ok place := by
  have hdir := hleads.ne_empty
  obtain ⟨time, hstat⟩ := hleads
  have hwalks := (walks_of_locate (locate_of_stat hstat)).2
  have hnames := isStep_of_mem hsteps hshort
  have hstart : startOf d.work (Path.below dir (steps ++ [name])) = startOf d.work dir := by
    rw [startOf, startOf, Path.startsWith_below hsteps hdir]
  refine locate_eq_ok_iff.mpr ⟨Path.below_ne_empty hsteps hdir, hlong, ?_⟩
  rw [Path.endsInSlash_below hsteps hdir (by simp), hstart, Path.pathElements_below hsteps hdir]
  refine hwalks.append (fun links => ?_) (by simp)
  exact hdirs.walks (fun n hn => hnames n (List.mem_append_left _ hn))
    (h (hnames name (by simp)) links)

theorem exists_placeDirectory? (hopen : d.tree.IsOpen (top ++ (steps ++ [name]))) :
    ∃ d', d.placeDirectory? (Path.below dir (steps ++ [name])) = some d' := by
  rw [← List.append_assoc] at hopen
  obtain hfree | hthere := hopen
  · have hplace := locate_below hleads hsteps hshort hdirs hlong false
      fun hname _ => .free hname hfree
    rw [placeDirectory?, Tree.makeDirectory, if_neg hlong,
      Path.withoutEndSlashes_below hsteps hleads.ne_empty (by simp), hplace]
    exact ⟨_, rfl⟩
  · obtain ⟨time, hget⟩ := exists_directory_of_isDirectory hthere
    have hstat := stat_of_locate (locate_below hleads hsteps hshort hdirs hlong true
      fun hname _ => .enter hname hget (.arrive hget))
    refine ⟨d, ?_⟩
    rw [placeDirectory?, makeDirectory_of_stat hstat]
    dsimp only
    rw [leadsToDirectory, hstat]
    rfl

theorem placeFile_of_room {e : Entry} (hplace : d.tree.way? (top ++ (steps ++ [name])) = none ∨
    d.tree.way? (top ++ (steps ++ [name])) = some .stop) :
    (d.placeFile (Path.below dir (steps ++ [name])) e).1 = true := by
  rw [← List.append_assoc] at hplace
  obtain hfree | hstop := hplace
  · have hplace := locate_below hleads hsteps hshort hdirs hlong false
      fun hname _ => .free hname (Option.map_eq_none_iff.mp hfree)
    rw [placeFile, hplace]
    dsimp only
    rw [placeNewFile, hplace]
  · obtain ⟨old, hget, hway⟩ := Option.map_eq_some_iff.mp hstop
    have hplace := locate_below hleads hsteps hshort hdirs hlong false
      fun hname _ => .stop hname hget hway
    obtain ⟨time, hstat⟩ := hleads
    obtain ⟨parent, last, -, hremoved⟩ := exists_free_of_remove hstat hsteps (by simp) hway hplace
    rw [placeFile, hplace]
    split
    · next heq =>
      cases heq
      cases hway
    · next heq =>
      cases heq
      rw [placeNewFile]
      dsimp only [withTree]
      rw [hremoved]
    · next hother => exact absurd rfl (hother _ _)

end

/-- There is room in a directory for an entry, which is one for a directory or a regular file: nothing
but directories stands on the way to its place, and nothing at its place that it cannot take the place
of. -/
structure HasRoom (d : Disk) (dir : String) (top : Location) (e : ArchiveEntry)
    (steps : List String) : Prop where
  kind : e.kind = .directory ∨ e.kind = .regular
  named : e.steps? = some steps
  leads : d.LeadsTo dir top
  short : ∀ name ∈ steps, ¬ isTooLong name = true
  usable : AreUsable (Path.below dir steps :: Path.parents (Path.below dir steps))
  onWay : ∀ before, before <+: steps → before ≠ [] → before ≠ steps → d.tree.IsOpen (top ++ before)
  directory : e.makesDirectory = true → d.tree.IsOpen (top ++ steps)
  file : e.makesDirectory = false → steps ≠ [] → e.isWhole = true ∧
    (d.tree.way? (top ++ steps) = none ∨ d.tree.way? (top ++ steps) = some .stop)

theorem unpackEntry_of_parents {d : Disk} {dir above : String} {e : ArchiveEntry}
    {steps : List String} (hkind : e.kind = .directory ∨ e.kind = .regular)
    (hname : e.steps? = some steps) (hne : steps ≠ [])
    (hparents : Path.parents (Path.below dir steps) = above :: Path.parents above) :
    d.unpackEntry dir e =
      match makeInside? dir (d.missing above) d with
      | (none, d) => (.error (.io (Text.fromOctets dir) .damaged), d)
      | (some d, _) =>
        if !d.isInside dir above then (.error (.io (Text.fromOctets dir) .damaged), d)
        else
          match d.place (Path.below dir steps) e with
          | (true, d) => (.ok (), d)
          | (false, d) => (.error (.io (Text.fromOctets dir) .damaged), d) := by
  have hkept : ¬ (e.kind ≠ .directory ∧ e.kind ≠ .regular) := fun h => hkind.elim h.1 h.2
  rw [unpackEntry, if_neg hkept, hname]
  cases steps with
  | nil => exact absurd rfl hne
  | cons first rest =>
    dsimp only
    rw [show (first :: rest).foldl Path.join dir = Path.below dir (first :: rest) from rfl, hparents]
    rfl

/-- An entry that there is room for is unpacked. -/
theorem HasRoom.unpackEntry_eq_ok {d : Disk} {dir : String} {top : Location} {e : ArchiveEntry}
    {steps : List String} (h : d.HasRoom dir top e steps) (hlinks : d.tree.IsLinkFree top) :
    (d.unpackEntry dir e).1 = .ok () := by
  obtain ⟨hkind, hname, hleads, hshort, husable, hway, hdirectory, hfile⟩ := h
  have hsteps := ArchiveEntry.isElement_of_mem_steps hname
  rcases List.eq_nil_or_concat' steps with rfl | ⟨steps, name, rfl⟩
  · have hkept : ¬ (e.kind ≠ .directory ∧ e.kind ≠ .regular) := fun h => hkind.elim h.1 h.2
    rw [unpackEntry, if_neg hkept, hname]
  have hsteps' : ∀ n ∈ steps, Path.IsElement n := fun n hn => hsteps n (List.mem_append_left _ hn)
  have hshort' : ∀ n ∈ steps, ¬ isTooLong n = true := fun n hn =>
    hshort n (List.mem_append_left _ hn)
  have hparents := Path.parents_below hsteps hleads.ne_empty
  obtain ⟨⟨hlong, hzero⟩, habove⟩ := List.forall_mem_cons.mp husable
  rw [hparents] at habove
  -- The directories on the way are made, and what stands at the place is the same still.
  obtain ⟨d₁, hmade, hdirs, hdeeper⟩ := exists_makeInside? hleads hlinks hsteps' hshort' habove
    fun before hbefore hne => hway before (hbefore.trans (List.prefix_append _ _)) hne fun hsame => by
      have := hbefore.length_le
      rw [hsame, List.length_append, List.length_singleton] at this
      omega
  have hleads₁ := hleads.of_fills ((makeInside?_grows hmade).2 d₁ rfl).toFills
  have hget : d₁.tree.get? (top ++ (steps ++ [name])) = d.tree.get? (top ++ (steps ++ [name])) :=
    hdeeper _ (by simp)
  have hinside := hleads₁.isInside_inside hsteps' hshort' hdirs (habove _ List.mem_cons_self).1
  have hplaced : (d₁.place (Path.below dir (steps ++ [name])) e).1 = true := by
    rw [place, hzero, if_neg Bool.false_ne_true]
    split
    · next hmakes =>
      obtain ⟨d₂, hmade⟩ := exists_placeDirectory? hleads₁ hsteps hshort hdirs hlong
        ((hdirectory hmakes).of_get?_eq hget)
      rw [hmade]
    · next hmakes =>
      obtain ⟨hwhole, hfree⟩ := hfile (Bool.eq_false_iff.mpr hmakes) (by simp)
      rw [way?, ← hget] at hfree
      dsimp only
      rw [hwhole, placeFile_of_room hleads₁ hsteps hshort hdirs hlong hfree]
      rfl
  rw [unpackEntry_of_parents hkind hname (by simp) hparents, hmade]
  dsimp only
  rw [hinside]
  rcases hplace : d₁.place (Path.below dir (steps ++ [name])) e with ⟨_ | _, d₂⟩
  · rw [hplace] at hplaced
    cases hplaced
  · rfl

/-! ## Every archive -/

/-- There is room for the entries of an archive one after the other, and no place of it is damaged. -/
def FitsAll (dir : String) : List ArchiveItem → Disk → Prop
  | [], _ => True
  | .damage :: _, _ => False
  | .entry e :: rest, d =>
    (∃ top steps, d.HasRoom dir top e steps) ∧ FitsAll dir rest (d.unpackEntry dir e).2

end Disk

end BuildTool
