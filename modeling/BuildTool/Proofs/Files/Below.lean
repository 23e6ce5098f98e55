import BuildTool.Proofs.Files.Ways
import BuildTool.Proofs.Path.Normal
import Mathlib.Data.List.Basic
import Mathlib.Data.List.TakeWhile

/-!
# Paths below a directory

A path into a directory leads to the directory first and then on from there. Where no link stands
below the directory, it goes on name by name, so that what it ends at is below the directory too:

    stat top = entry loc    →    locate (top/a/b) = entry (loc/a/b)  or  free (loc/a) b

A directory is made in the one above it, wherever the path of that one leads.

## Sections

* names below a location;
* paths of names;
* slashes at the end of a path;
* paths below a directory;
* the directories on the way to a path;
* directories that are made.
-/

namespace BuildTool

/-- A name that can stand in a directory: it is not empty, has no slash, and is not `.` or `..`. -/
structure Path.IsElement (name : String) : Prop where
  ne_empty : name ≠ ""
  no_slash : '/' ∉ name.toList
  ne_dot : name ≠ "."
  ne_dots : name ≠ ".."

/-- The path that leads from a directory over these names. -/
def Path.below (dir : String) (steps : List String) : String := steps.foldl Path.join dir

/-! ## Names below a location -/

namespace Tree

/-- No link stands below a location. -/
def IsLinkFree (t : Tree) (top : Location) : Prop :=
  ∀ below target, t.get? (top ++ below) ≠ some (.link target)

theorem IsLinkFree.append {t : Tree} {top : Location} (h : t.IsLinkFree top) (below : Location) :
    t.IsLinkFree (top ++ below) := by
  intro further target
  rw [List.append_assoc]
  exact h (below ++ further) target

theorem IsLinkFree.of_fills {t t' : Tree} {top : Location} (h : t.IsLinkFree top)
    (hfills : t.Fills t') : t'.IsLinkFree top := by
  intro below target hlink
  have hway := hfills.adds (top ++ below) target (by rw [way?, hlink]; rfl)
  obtain ⟨old, hold, hlinkOld⟩ := Option.map_eq_some_iff.mp hway
  cases old <;> cases hlinkOld
  exact h below target hold

theorem isLinkFree_initial (time : Time) (top : Location) : (initial time).IsLinkFree top := by
  intro below target hlink
  obtain ⟨before, after, heq, -⟩ := List.lookup_eq_some_iff.mp hlink
  have hmem : (top ++ below, Entry.link target) ∈ (initial time).entries := heq ▸ by simp
  simp [initial] at hmem

/-- All locations between `top` and the one that these names lead to are directories. -/
def IsOnWay (t : Tree) (top : Location) (steps : List String) : Prop :=
  ∀ before after, steps = before ++ after → before ≠ [] → after ≠ [] →
    t.isDirectory (top ++ before) = true

/-- Names lead from a location to this place over directories alone. -/
structure EndsBelow (t : Tree) (top : Location) (steps : List String) (place : Place) : Prop where
  onWay : t.IsOnWay top steps
  ends : (∃ e, place = .entry (top ++ steps) e) ∨
    ∃ before name, steps = before ++ [name] ∧ place = .free (top ++ before) name

section

variable {t : Tree} {follow mustBe : Bool} {links : Nat} {top : Location} {steps : List String}
  {place : Place}

theorem IsOnWay.nil (t : Tree) (top : Location) : t.IsOnWay top [] := by
  intro before after heq hbefore _
  exact absurd (List.append_eq_nil_iff.mp heq.symm).1 hbefore

theorem IsOnWay.cons {name : String} (hdir : steps ≠ [] → t.isDirectory (top ++ [name]) = true)
    (h : t.IsOnWay (top ++ [name]) steps) : t.IsOnWay top (name :: steps) := by
  intro before after heq hbefore hafter
  rcases List.cons_eq_append_iff.mp heq with ⟨rfl, -⟩ | ⟨before', rfl, rfl⟩
  · exact absurd rfl hbefore
  · by_cases hnil : before' = []
    · rw [hnil]
      exact hdir fun hempty => hafter (List.append_eq_nil_iff.mp hempty).2
    · have hway := h before' after rfl hnil hafter
      rwa [List.append_assoc] at hway

theorem IsOnWay.singleton (t : Tree) (top : Location) (name : String) : IsOnWay t top [name] :=
  .cons (fun hne => absurd rfl hne) (.nil t _)

theorem EndsBelow.cons {name : String} (hdir : t.isDirectory (top ++ [name]) = true)
    (h : t.EndsBelow (top ++ [name]) steps place) : t.EndsBelow top (name :: steps) place := by
  refine ⟨.cons (fun _ => hdir) h.onWay, ?_⟩
  rcases h.ends with ⟨e, rfl⟩ | ⟨before, last, rfl, rfl⟩
  · exact .inl ⟨e, by rw [List.append_assoc]; rfl⟩
  · exact .inr ⟨name :: before, last, rfl, by rw [List.append_assoc]; rfl⟩

/-- Below a location without links, names are gone along one by one. -/
theorem Walks.endsBelow (h : Walks t follow links mustBe top steps place)
    (hlinks : t.IsLinkFree top) (hsteps : ∀ name ∈ steps, Path.IsElement name) :
    t.EndsBelow top steps place := by
  induction h with
  | arrive => exact ⟨.nil _ _, .inl ⟨_, by rw [List.append_nil]⟩⟩
  | stay => exact absurd rfl (hsteps _ List.mem_cons_self).ne_dot
  | up => exact absurd rfl (hsteps _ List.mem_cons_self).ne_dots
  | free _ _ => exact ⟨.singleton _ _ _, .inr ⟨[], _, rfl, by rw [List.append_nil]⟩⟩
  | enter _ h _ ih =>
    refine .cons (by rw [isDirectory, h]; rfl) (ih (hlinks.append _) fun n hn => ?_)
    exact hsteps n (List.mem_cons_of_mem _ hn)
  | link _ h _ => exact absurd h (hlinks _ _)
  | follow _ h _ _ _ _ => exact absurd h (hlinks _ _)
  | stop _ _ _ => exact ⟨.singleton _ _ _, .inl ⟨_, rfl⟩⟩

/-- A longer path goes on from where a shorter one leads. -/
theorem Walks.exists_walk_of_append {mustBe' : Bool} {dir : Location} {names : List String}
    {e : Entry} (htop : Walks t true links mustBe dir names (.entry top e))
    (h : t.walk follow links mustBe' dir (names ++ steps) = .ok place) (hne : steps ≠ []) :
    ∃ left, t.walk follow left mustBe' top steps = .ok place := by
  generalize hplace : Place.entry top e = target at htop
  induction htop generalizing mustBe' with
  | arrive _ =>
    cases hplace
    exact ⟨_, h⟩
  | stay _ ih =>
    rw [List.cons_append, walk_dot] at h
    exact ih h hplace
  | up _ ih =>
    rw [List.cons_append, walk_dots] at h
    exact ih h hplace
  | free => cases hplace
  | enter hname hdir _ ih =>
    rw [List.cons_append, walk_directory hname hdir] at h
    exact ih h hplace
  | link _ _ hfollow => cases hfollow
  | @follow _ _ _ _ _ rest _ hname hlink htarget _ _ ih =>
    have hmore : rest ++ steps ≠ [] := fun hnil => hne (List.append_eq_nil_iff.mp hnil).2
    rw [List.cons_append, walk_link hname hlink htarget fun hlast => hmore hlast.1,
      List.isEmpty_eq_false_iff.mpr hmore, Bool.false_and, Bool.or_false, ← List.append_assoc] at h
    exact ih h hplace
  | stop hname he hway =>
    rw [List.cons_append, walk_stop hname he hway, if_neg fun hlast => hne hlast.1] at h
    cases h

/-- A path into a directory leads to the directory first. -/
theorem Walks.endsBelow_of_append {mustBe' : Bool} {dir : Location} {names : List String}
    {e : Entry} (htop : Walks t true links mustBe dir names (.entry top e))
    (h : t.walk follow links mustBe' dir (names ++ steps) = .ok place) (hlinks : t.IsLinkFree top)
    (hsteps : ∀ name ∈ steps, Path.IsElement name) (hne : steps ≠ []) :
    t.EndsBelow top steps place := by
  obtain ⟨left, hwalk⟩ := htop.exists_walk_of_append h hne
  exact (walks_of_walk hwalk).endsBelow hlinks hsteps

theorem eq_of_walk_free {parent : Location} {name last : String}
    (h : t.walk false links false top [name] = .ok (.free parent last)) : parent = top := by
  cases walks_of_walk h with
  | stay h => cases h
  | up h => cases h
  | enter _ _ h => cases h
  | free => rfl
  | follow _ _ _ hfollow => exact absurd ⟨rfl, rfl, rfl⟩ hfollow

/-- A path that leads to an entry has one at its end. -/
theorem Walks.exists_unfollowed {mustBe' : Bool} {dir loc : Location} {names : List String}
    {e : Entry} (h : Walks t follow links mustBe dir names (.entry loc e))
    (hmust : mustBe' = true → mustBe = true) :
    ∃ loc' e', Walks t false links mustBe' dir names (.entry loc' e') := by
  generalize hplace : Place.entry loc e = target at h
  induction h generalizing mustBe' with
  | arrive hget => exact ⟨_, _, .arrive hget⟩
  | stay _ ih =>
    obtain ⟨loc', e', hwalks⟩ := ih hmust hplace
    exact ⟨loc', e', .stay hwalks⟩
  | up _ ih =>
    obtain ⟨loc', e', hwalks⟩ := ih hmust hplace
    exact ⟨loc', e', .up hwalks⟩
  | free => cases hplace
  | enter hname hdir _ ih =>
    obtain ⟨loc', e', hwalks⟩ := ih hmust hplace
    exact ⟨loc', e', .enter hname hdir hwalks⟩
  | link hname hlink _ =>
    obtain rfl : mustBe' = false := Bool.eq_false_iff.mpr fun h => Bool.false_ne_true (hmust h)
    exact ⟨_, _, .link hname hlink rfl⟩
  | @follow _ mustBe _ _ target rest _ hname hlink htarget _ _ ih =>
    by_cases hlast : rest = [] ∧ mustBe' = false
    · obtain ⟨rfl, rfl⟩ := hlast
      exact ⟨_, _, .link hname hlink rfl⟩
    · have hmust' : (mustBe' || (rest.isEmpty && endsInSlash target)) = true →
          (mustBe || (rest.isEmpty && endsInSlash target)) = true := by
        intro h
        obtain h | h := Bool.or_eq_true_iff.mp h
        · rw [hmust h, Bool.true_or]
        · rw [h, Bool.or_true]
      obtain ⟨loc', e', hwalks⟩ := ih hmust' hplace
      exact ⟨loc', e', .follow hname hlink htarget (fun h => hlast ⟨h.1, h.2.2⟩) hwalks⟩
  | stop hname hget hway =>
    obtain rfl : mustBe' = false := by
      rw [← Bool.not_eq_true]
      intro h
      cases hmust h
    exact ⟨_, _, .stop hname hget hway⟩

end

/-! ## Paths of names -/

theorem pathElements_append (base tail : String) :
    pathElements (base ++ "/" ++ tail) = pathElements base ++ pathElements tail := by
  have hchars : (base ++ "/" ++ tail).toList = base.toList ++ '/' :: tail.toList := by simp
  rw [pathElements, pathElements, pathElements, hchars, Text.splitChar_eq_splitOn,
    Text.splitChar_eq_splitOn, Text.splitChar_eq_splitOn, List.splitOn,
    @List.splitOnP_append_cons Char (· == '/') _ _ '/' (beq_self_eq_true _), List.filter_append,
    List.map_append]
  rfl

theorem pathElements_empty : pathElements "" = [] := by decide

theorem pathElements_eq_singleton {name : String} (hne : name ≠ "") (hslash : '/' ∉ name.toList) :
    pathElements name = [name] := by
  have hother : ∀ c ∈ name.toList, (c == '/') = false :=
    fun c hc => beq_false_of_ne fun he => hslash (he ▸ hc)
  have hne : name.toList ≠ [] := fun he => hne (String.toList_eq_nil_iff.mp he)
  rw [pathElements, Text.splitChar_eq_splitOn, List.splitOn,
    List.splitOnP_eq_singleton (by simpa using hother)]
  simp [hne]

theorem pathElements_name {name : String} (h : Path.IsElement name) :
    pathElements name = [name] :=
  pathElements_eq_singleton h.ne_empty h.no_slash

/-- The elements of a path are not empty and hold no slash. -/
theorem of_mem_pathElements {path name : String} (h : name ∈ pathElements path) :
    name ≠ "" ∧ '/' ∉ name.toList := by
  obtain ⟨chars, hchars, rfl⟩ := List.mem_map.mp h
  obtain ⟨hsplit, hne⟩ := List.mem_filter.mp hchars
  rw [String.toList_ofList]
  refine ⟨fun hempty => ?_, Text.not_mem_of_mem_splitChar hsplit⟩
  have hnil := congrArg String.toList hempty
  rw [String.toList_ofList] at hnil
  rw [hnil] at hne
  cases hne

end Tree

namespace Path

variable {dir name : String}

theorem startsWith_slash_iff {path : String} :
    path.startsWith "/" = true ↔ path.toList.head? = some '/' := by
  rw [String.startsWith_string_iff]
  rcases path.toList with _ | ⟨c, rest⟩
  · simp
  · simp [List.cons_prefix_cons, eq_comm]

theorem isAbsolute_eq_startsWith (path : String) : isAbsolute path = path.startsWith "/" := by
  rw [Bool.eq_iff_iff, startsWith_slash_iff, isAbsolute, beq_iff_eq]

/-- A name is joined to a directory with a slash, unless there is one. -/
theorem join_eq (h : IsElement name) (hdir : dir ≠ "") :
    ∃ base, join dir name = base ++ "/" ++ name ∧ (dir = base ++ "/" ∨ dir = base) := by
  have habsolute : isAbsolute name = false := by
    refine beq_false_of_ne fun hhead => h.no_slash (List.mem_of_mem_head? hhead)
  have hempty : dir.isEmpty = false := by simpa using hdir
  rw [join, habsolute, hempty]
  simp only [Bool.false_eq_true, if_false]
  split
  · next hslash =>
    obtain ⟨base, hbase⟩ := List.getLast?_eq_some_iff.mp (eq_of_beq hslash)
    have hbase : dir = String.ofList base ++ "/" := by
      rw [← String.toList_inj, hbase, String.toList_append, String.toList_ofList]
      rfl
    exact ⟨String.ofList base, by rw [← hbase], .inl hbase⟩
  · exact ⟨dir, rfl, .inr rfl⟩

theorem join_ne_empty (h : IsElement name) (hdir : dir ≠ "") : join dir name ≠ "" := by
  obtain ⟨base, hjoin, -⟩ := join_eq h hdir
  rw [hjoin]
  intro hempty
  have := congrArg String.toList hempty
  simp at this

theorem pathElements_join (h : IsElement name) (hdir : dir ≠ "") :
    Tree.pathElements (join dir name) = Tree.pathElements dir ++ [name] := by
  obtain ⟨base, hjoin, rfl | rfl⟩ := join_eq h hdir
  · have hbase := Tree.pathElements_append base ""
    rw [String.append_empty, Tree.pathElements_empty, List.append_nil] at hbase
    rw [hjoin, Tree.pathElements_append, Tree.pathElements_name h, hbase]
  · rw [hjoin, Tree.pathElements_append, Tree.pathElements_name h]

theorem getLast?_join (h : IsElement name) (hdir : dir ≠ "") :
    ∃ c, (join dir name).toList.getLast? = some c ∧ c ≠ '/' := by
  obtain ⟨base, hjoin, -⟩ := join_eq h hdir
  have hne : name.toList ≠ [] := fun he => h.ne_empty (String.toList_eq_nil_iff.mp he)
  refine ⟨name.toList.getLast hne, ?_, fun hslash => ?_⟩
  · rw [hjoin, String.toList_append, List.getLast?_append, List.getLast?_eq_some_getLast hne]
    rfl
  · exact h.no_slash (hslash ▸ List.getLast_mem hne)

theorem startsWith_join (h : IsElement name) (hdir : dir ≠ "") :
    (join dir name).startsWith "/" = dir.startsWith "/" := by
  have hhead : ∀ {s t : String}, s ≠ "" → (s ++ t).toList.head? = s.toList.head? := by
    intro s t hs
    have hne : s.toList ≠ [] := fun he => hs (String.toList_eq_nil_iff.mp he)
    rw [String.toList_append, List.head?_append_of_ne_nil _ hne]
  rw [Bool.eq_iff_iff, startsWith_slash_iff, startsWith_slash_iff]
  obtain ⟨base, hjoin, rfl | rfl⟩ := join_eq h hdir
  · rw [hjoin, hhead hdir]
  · rw [hjoin, String.append_assoc, hhead hdir]

end Path

/-! ## Slashes at the end of a path -/

namespace Tree

/-- Without the slashes at its end a path is the same but for them, and has no more of them, unless
it has nothing else. -/
theorem withoutEndSlashes_spec (path : String) :
    withoutEndSlashes path = path ∧ (∀ c ∈ path.toList, c = '/') ∨
    ∃ kept slashes, kept ≠ [] ∧ kept.getLast? ≠ some '/' ∧ (∀ c ∈ slashes, c = '/') ∧
      withoutEndSlashes path = String.ofList kept ∧ path = String.ofList (kept ++ slashes) := by
  unfold withoutEndSlashes
  dsimp only
  split
  · next hkept =>
    refine .inl ⟨rfl, fun c hc => ?_⟩
    have hall := List.dropWhile_eq_nil_iff.mp (List.reverse_eq_nil_iff.mp hkept)
    exact eq_of_beq (hall c (List.mem_reverse.mpr hc))
  · next hkept =>
    refine .inr ⟨_, (path.toList.reverse.takeWhile (· == '/')).reverse, hkept, fun hlast => ?_,
      fun c hc => ?_, rfl, ?_⟩
    · have hfirst := List.head?_dropWhile_not (· == '/') path.toList.reverse
      rw [List.getLast?_reverse] at hlast
      rw [hlast] at hfirst
      cases hfirst
    · exact eq_of_beq (List.mem_takeWhile_imp (p := (· == '/')) (List.mem_reverse.mp hc))
    · rw [← List.reverse_append, List.takeWhile_append_dropWhile, List.reverse_reverse,
        String.ofList_toList]

theorem pathElements_append_slashes {slashes : List Char} (h : ∀ c ∈ slashes, c = '/')
    (kept : List Char) :
    pathElements (String.ofList (kept ++ slashes)) = pathElements (String.ofList kept) := by
  induction slashes generalizing kept with
  | nil => rw [List.append_nil]
  | cons c rest ih =>
    obtain rfl := h c List.mem_cons_self
    have hslash := pathElements_append (String.ofList kept) ""
    rw [pathElements_empty, List.append_nil, String.append_empty] at hslash
    rw [← List.singleton_append, ← List.append_assoc,
      ih (fun d hd => h d (List.mem_cons_of_mem _ hd)), String.ofList_append]
    exact hslash

section

variable {path : String}

theorem pathElements_withoutEndSlashes (path : String) :
    pathElements (withoutEndSlashes path) = pathElements path := by
  rcases withoutEndSlashes_spec path with ⟨hsame, -⟩ | ⟨kept, slashes, -, -, hslashes, hkept, hpath⟩
  · rw [hsame]
  · rw [hkept, hpath, pathElements_append_slashes hslashes]

theorem startOf_withoutEndSlashes (work : Location) (path : String) :
    startOf work (withoutEndSlashes path) = startOf work path := by
  rcases withoutEndSlashes_spec path with ⟨hsame, -⟩ | ⟨kept, slashes, hne, -, -, hkept, hpath⟩
  · rw [hsame]
  · have hstart : (withoutEndSlashes path).startsWith "/" = path.startsWith "/" := by
      rw [Bool.eq_iff_iff, Path.startsWith_slash_iff, Path.startsWith_slash_iff, hkept, hpath,
        String.toList_ofList, String.toList_ofList, List.head?_append_of_ne_nil _ hne]
    rw [startOf, startOf, hstart]

theorem withoutEndSlashes_ne_empty (hpath : path ≠ "") : withoutEndSlashes path ≠ "" := by
  rcases withoutEndSlashes_spec path with ⟨hsame, -⟩ | ⟨kept, slashes, hne, -, -, hkept, -⟩
  · rwa [hsame]
  · rw [hkept]
    intro hempty
    have hnil := congrArg String.toList hempty
    rw [String.toList_ofList] at hnil
    exact hne hnil

theorem isTooLongPath_of_withoutEndSlashes (h : isTooLongPath (withoutEndSlashes path) = true) :
    isTooLongPath path = true := by
  rcases withoutEndSlashes_spec path with ⟨hsame, -⟩ | ⟨kept, slashes, -, -, -, hkept, hpath⟩
  · rwa [hsame] at h
  · rw [hkept, isTooLongPath, decide_eq_true_iff] at h
    rw [hpath, isTooLongPath, decide_eq_true_iff, String.ofList_append, String.length_append]
    exact Nat.le_add_right_of_le h

theorem withoutEndSlashes_eq_self (h : endsInSlash path = false) :
    withoutEndSlashes path = path := by
  rcases withoutEndSlashes_spec path with ⟨hsame, -⟩ | ⟨kept, slashes, -, -, hslashes, hkept, hpath⟩
  · exact hsame
  · have hnil : slashes = [] := by
      by_contra hne
      have hlast : path.toList.getLast? = some '/' := by
        rw [hpath, String.toList_ofList, List.getLast?_append_of_ne_nil _ hne,
          List.getLast?_eq_some_getLast hne, hslashes _ (List.getLast_mem hne)]
      rw [endsInSlash, hlast] at h
      cases h
    rw [hkept, hpath, hnil, List.append_nil]

/-- Only a path of slashes keeps one at its end. -/
theorem endsInSlash_withoutEndSlashes (h : endsInSlash (withoutEndSlashes path) = true) :
    endsInSlash path = true ∧ pathElements path = [] := by
  rcases withoutEndSlashes_spec path with ⟨hsame, hslashes⟩ | ⟨kept, _, _, hlast, _, hkept, _⟩
  · rw [hsame] at h
    have helements := pathElements_append_slashes hslashes []
    rw [List.nil_append, String.ofList_toList] at helements
    exact ⟨h, helements.trans pathElements_empty⟩
  · rw [hkept, endsInSlash, String.toList_ofList] at h
    exact absurd (eq_of_beq h) hlast

end

end Tree

namespace Path

variable {dir name : String}

/-! ## Paths below a directory -/

section

variable {steps : List String} (hsteps : ∀ name ∈ steps, IsElement name) (hdir : dir ≠ "")
include hsteps hdir

theorem below_ne_empty : below dir steps ≠ "" := by
  induction steps generalizing dir with
  | nil => exact hdir
  | cons name rest ih =>
    exact ih (fun n hn => hsteps n (List.mem_cons_of_mem _ hn))
      (join_ne_empty (hsteps name List.mem_cons_self) hdir)

theorem pathElements_below :
    Tree.pathElements (below dir steps) = Tree.pathElements dir ++ steps := by
  induction steps generalizing dir with
  | nil => rw [List.append_nil]; rfl
  | cons name rest ih =>
    have hname := hsteps name List.mem_cons_self
    have hrest := ih (fun n hn => hsteps n (List.mem_cons_of_mem _ hn)) (join_ne_empty hname hdir)
    rw [below, List.foldl_cons, ← below, hrest, pathElements_join hname hdir, List.append_assoc]
    rfl

theorem startsWith_below : (below dir steps).startsWith "/" = dir.startsWith "/" := by
  induction steps generalizing dir with
  | nil => rfl
  | cons name rest ih =>
    have hname := hsteps name List.mem_cons_self
    have hrest := ih (fun n hn => hsteps n (List.mem_cons_of_mem _ hn)) (join_ne_empty hname hdir)
    rw [below, List.foldl_cons, ← below, hrest, startsWith_join hname hdir]

theorem getLast?_below (hne : steps ≠ []) :
    ∃ c, (below dir steps).toList.getLast? = some c ∧ c ≠ '/' := by
  obtain ⟨init, name, rfl⟩ := List.eq_nil_or_concat' steps |>.resolve_left hne
  rw [below, List.foldl_concat, ← below]
  have hinit := below_ne_empty (fun n hn => hsteps n (List.mem_append_left _ hn)) hdir
  exact getLast?_join (hsteps name (by simp)) hinit

theorem endsInSlash_below (hne : steps ≠ []) : Tree.endsInSlash (below dir steps) = false := by
  obtain ⟨c, hlast, hslash⟩ := getLast?_below hsteps hdir hne
  rw [Tree.endsInSlash, hlast]
  simpa using hslash

theorem withoutEndSlashes_below (hne : steps ≠ []) :
    Tree.withoutEndSlashes (below dir steps) = below dir steps :=
  Tree.withoutEndSlashes_eq_self (endsInSlash_below hsteps hdir hne)

/-- What a path into a directory ends at is below what the directory's path leads to. -/
theorem endsBelow_of_locate {t : Tree} {work top : Location} {e : Entry} {follow : Bool}
    {place : Place} (hstat : t.stat work dir = .ok (top, e)) (hlinks : t.IsLinkFree top)
    (hne : steps ≠ []) (h : t.locate work follow (below dir steps) = .ok place) :
    t.EndsBelow top steps place := by
  have htop := (Tree.walks_of_locate (Tree.locate_of_stat hstat)).2
  have hwalk := (Tree.walks_of_locate h).2.walk_eq
  have hstart : Tree.startOf work (below dir steps) = Tree.startOf work dir := by
    rw [Tree.startOf, Tree.startOf, startsWith_below hsteps hdir]
  rw [hstart, pathElements_below hsteps hdir] at hwalk
  exact htop.endsBelow_of_append hwalk hlinks hsteps hne

end

/-! ## The directories on the way to a path -/

theorem pathElements_ofNames {names : List String}
    (h : ∀ name ∈ names, name ≠ "" ∧ '/' ∉ name.toList) (rooted : Bool) :
    Tree.pathElements (ofNames rooted names) = names := by
  have hnames : Tree.pathElements ("/".intercalate names) = names := by
    induction names with
    | nil => exact Tree.pathElements_empty
    | cons name rest ih =>
      obtain ⟨hname, hrest⟩ := List.forall_mem_cons.mp h
      have hsingle := Tree.pathElements_eq_singleton hname.1 hname.2
      by_cases hnil : rest = []
      · rw [hnil, String.intercalate_singleton, hsingle]
      · rw [String.intercalate_cons_of_ne_nil hnil, Tree.pathElements_append, hsingle, ih hrest]
        rfl
  cases rooted with
  | false =>
    rw [ofNames, if_neg Bool.false_ne_true, String.empty_append]
    exact hnames
  | true =>
    have hroot := Tree.pathElements_append "" ("/".intercalate names)
    rw [String.empty_append, Tree.pathElements_empty, List.nil_append, hnames] at hroot
    exact hroot

theorem isAbsolute_ofNames {names : List String}
    (h : ∀ name ∈ names, name ≠ "" ∧ '/' ∉ name.toList) (rooted : Bool) :
    isAbsolute (ofNames rooted names) = rooted := by
  cases rooted with
  | true => rw [isAbsolute, ofNames, if_pos rfl, String.toList_append]; rfl
  | false =>
    rw [isAbsolute, ofNames, if_neg Bool.false_ne_true, String.empty_append]
    cases names with
    | nil => rfl
    | cons name rest =>
      obtain ⟨hname, -⟩ := List.forall_mem_cons.mp h
      have hne : name.toList ≠ [] := fun he => hname.1 (String.toList_eq_nil_iff.mp he)
      have hhead : ("/".intercalate (name :: rest)).toList.head? = name.toList.head? := by
        by_cases hnil : rest = []
        · rw [hnil, String.intercalate_singleton]
        · rw [String.intercalate_cons_of_ne_nil hnil, String.append_assoc, String.toList_append,
            List.head?_append_of_ne_nil _ hne]
      rw [hhead]
      exact beq_false_of_ne fun hslash => hname.2 (List.mem_of_mem_head? hslash)

/-- Paths of names start where the path does that they are absolute with. -/
theorem startOf_ofNames (path : String) {names : List String}
    (h : ∀ name ∈ names, name ≠ "" ∧ '/' ∉ name.toList) (work : Location) :
    Tree.startOf work (ofNames (isAbsolute path) names) = Tree.startOf work path := by
  have habsolute := isAbsolute_ofNames h (isAbsolute path)
  rw [isAbsolute_eq_startsWith, isAbsolute_eq_startsWith] at habsolute
  rw [Tree.startOf, Tree.startOf, isAbsolute_eq_startsWith, habsolute]

/-- Names without `.`, but for one at the beginning of a relative path. -/
def withoutDots (rooted : Bool) (names : List String) : List String :=
  if rooted then names.filter (· != ".")
  else
    match names with
    | first :: rest => first :: rest.filter (· != ".")
    | [] => []

theorem names_eq_withoutDots (path : String) :
    names path = withoutDots (isAbsolute path) (Tree.pathElements path) := rfl

theorem withoutDots_take (rooted : Bool) (names : List String) (n : Nat) :
    withoutDots rooted ((withoutDots rooted names).take n) = (withoutDots rooted names).take n := by
  have hfilter : ∀ (names : List String) (n : Nat),
      ((names.filter (· != ".")).take n).filter (· != ".") = (names.filter (· != ".")).take n :=
    fun names n => List.filter_eq_self.mpr fun name hname =>
      (List.mem_filter.mp (List.mem_of_mem_take hname)).2
  cases rooted with
  | true => exact hfilter names n
  | false =>
    cases names with
    | nil => rw [show withoutDots false [] = [] from rfl, List.take_nil]; rfl
    | cons first rest =>
      cases n with
      | zero => rfl
      | succ n => exact congrArg (first :: ·) (hfilter rest n)

theorem of_mem_names {path name : String} (h : name ∈ names path) :
    name ≠ "" ∧ '/' ∉ name.toList := by
  suffices hmem : name ∈ Tree.pathElements path from Tree.of_mem_pathElements hmem
  rw [names_eq_withoutDots] at h
  unfold withoutDots at h
  split at h
  · exact List.mem_of_mem_filter h
  · split at h
    · next hpath =>
      rw [hpath]
      exact (List.mem_cons.mp h).elim (fun he => he ▸ List.mem_cons_self)
        fun hrest => List.mem_cons_of_mem _ (List.mem_of_mem_filter hrest)
    · cases h

/-- All elements of a path count as names. -/
def IsPlain (path : String) : Prop := names path = Tree.pathElements path

theorem isPlain_of_mem_parents {path above : String} (h : above ∈ parents path) :
    IsPlain above := by
  obtain ⟨n, -, rfl⟩ := List.mem_map.mp h
  have htake : ∀ name ∈ (names path).take n, name ≠ "" ∧ '/' ∉ name.toList :=
    fun name hname => of_mem_names (List.mem_of_mem_take hname)
  rw [IsPlain, names_eq_withoutDots, pathElements_ofNames htake, isAbsolute_ofNames htake,
    names_eq_withoutDots, withoutDots_take]

theorem isPlain_headD_parents (path : String) : IsPlain ((parents path).headD "") := by
  cases hparents : parents path with
  | nil => exact (by decide : names "" = Tree.pathElements "")
  | cons above rest => exact isPlain_of_mem_parents (hparents ▸ List.mem_cons_self)

/-- The nearest directory has all names of the path but the last. -/
theorem parents_spec (path : String) : parents path = [] ∧ names path = [] ∨
    ∃ rest, parents path = ofNames (isAbsolute path) (names path).dropLast :: rest ∧
      names path ≠ [] := by
  unfold parents
  dsimp only
  cases hlength : (names path).length with
  | zero => exact .inl ⟨rfl, List.length_eq_zero_iff.mp hlength⟩
  | succ n =>
    refine .inr ⟨(List.range n).reverse.map fun n =>
      ofNames (isAbsolute path) ((names path).take n), ?_, List.ne_nil_of_length_eq_add_one hlength⟩
    rw [List.dropLast_eq_take, hlength, List.range_succ, List.reverse_append,
      List.reverse_singleton, List.singleton_append, List.map_cons, Nat.add_sub_cancel]

end Path

/-! ## Directories that are made -/

namespace Tree

section

variable {t : Tree} {work loc : Location} {path : String} {e : Entry}

/-- A path that leads to an entry names one without the slashes at its end. -/
theorem exists_locate_withoutEndSlashes {follow : Bool}
    (h : t.locate work follow path = .ok (.entry loc e)) :
    ∃ loc' e', t.locate work false (withoutEndSlashes path) = .ok (.entry loc' e') := by
  obtain ⟨hpath, hshort, hwalks⟩ := locate_eq_ok_iff.mp h
  have hslash : endsInSlash (withoutEndSlashes path) = true → endsInSlash path = true :=
    fun hslash => (endsInSlash_withoutEndSlashes hslash).1
  obtain ⟨loc', e', hwalks'⟩ := hwalks.exists_unfollowed hslash
  rw [← startOf_withoutEndSlashes, ← pathElements_withoutEndSlashes] at hwalks'
  exact ⟨loc', e', locate_eq_ok_iff.mpr ⟨withoutEndSlashes_ne_empty hpath,
    fun hlong => hshort (isTooLongPath_of_withoutEndSlashes hlong), hwalks'⟩⟩

/-- No directory is made where the path leads somewhere. -/
theorem makeDirectory_of_stat (h : t.stat work path = .ok (loc, e)) (time : Time) :
    t.makeDirectory work time path = .error .alreadyExists := by
  obtain ⟨_, hshort, _⟩ := locate_eq_ok_iff.mp (locate_of_stat h)
  obtain ⟨loc', e', hplace⟩ := exists_locate_withoutEndSlashes (locate_of_stat h)
  rw [makeDirectory, if_neg hshort, hplace]

/-- The free place at the end of a path is in the directory that the path without its last name leads
to. -/
theorem eq_of_locate_above {parent : Location} {name : String} (hplain : Path.IsPlain path)
    (hne : Path.names path ≠ [])
    (habove : t.stat work (Path.ofNames (Path.isAbsolute path) (Path.names path).dropLast) =
      .ok (loc, e))
    (hplace : t.locate work false (withoutEndSlashes path) = .ok (.free parent name)) :
    parent = loc := by
  have hnames : ∀ name ∈ (Path.names path).dropLast, name ≠ "" ∧ '/' ∉ name.toList :=
    fun name hname => Path.of_mem_names (List.dropLast_subset _ hname)
  have htop := (walks_of_locate (locate_of_stat habove)).2
  have hwalk := (walks_of_locate hplace).2.walk_eq
  have hslash : endsInSlash (withoutEndSlashes path) = false := by
    rw [← Bool.not_eq_true]
    intro hslash
    exact hne (hplain.trans (endsInSlash_withoutEndSlashes hslash).2)
  rw [Path.startOf_ofNames path hnames, Path.pathElements_ofNames hnames] at htop
  rw [hslash, startOf_withoutEndSlashes, pathElements_withoutEndSlashes, ← hplain,
    ← List.dropLast_concat_getLast hne] at hwalk
  obtain ⟨left, hlast⟩ := htop.exists_walk_of_append hwalk (List.cons_ne_nil _ _)
  exact eq_of_walk_free hlast

end

end Tree

namespace Disk

variable {d : Disk} {path : String}

theorem makeAll_of_stat {loc : Location} {e : Entry} (h : d.tree.stat d.work path = .ok (loc, e))
    (above : List String) : (d.makeAll (path :: above)).2 = d := by
  rw [makeAll]
  split
  · rfl
  · rw [Tree.makeDirectory_of_stat h]
    dsimp only
    split <;> rfl

/-- Nothing is made at a path without names. -/
theorem makeWay_of_nil (hplain : Path.IsPlain path) (hparents : Path.parents path = []) :
    (d.makeWay path).2 = d := by
  have hnames : Tree.pathElements (Tree.withoutEndSlashes path) = [] := by
    rw [Tree.pathElements_withoutEndSlashes, ← hplain]
    obtain ⟨-, hnil⟩ | ⟨rest, hcons, -⟩ := Path.parents_spec path
    · exact hnil
    · rw [hparents] at hcons
      cases hcons
  rw [makeWay, hparents, makeAll]
  split
  · rfl
  · split
    · next hmade =>
      obtain ⟨-, parent, name, hplace, -⟩ := Tree.exists_free_of_makeDirectory hmade
      have hwalks := (Tree.walks_of_locate hplace).2
      rw [hnames] at hwalks
      generalize Tree.endsInSlash (Tree.withoutEndSlashes path) = mustBe at hwalks
      cases hwalks
    · rfl
    · split <;> rfl

/-- Where the directory above a path exists, at most one directory is made, and it is in that one. -/
theorem makeWay_of_above (hplain : Path.IsPlain path) {above : String} {rest : List String}
    (hparents : Path.parents path = above :: rest) {inner : Location} {e : Entry}
    (hstat : d.tree.stat d.work above = .ok (inner, e)) :
    (d.makeWay path).2 = d ∨ ∃ name, d.tree.get? (inner ++ [name]) = none ∧
      (d.makeWay path).2 =
        d.withTree (d.tree.insert d.time (inner ++ [name]) (.directory d.time)) := by
  have hsame : (d.makeAll (above :: rest)).2 = d := makeAll_of_stat hstat rest
  rw [makeWay, hparents, makeAll]
  split
  · exact .inl rfl
  · split
    · next hmade =>
      obtain ⟨-, parent, name, hplace, rfl⟩ := Tree.exists_free_of_makeDirectory hmade
      have hparent : parent = inner := by
        obtain ⟨hnil, -⟩ | ⟨_, hcons, hne⟩ := Path.parents_spec path
        · rw [hparents] at hnil
          cases hnil
        · rw [hparents] at hcons
          cases hcons
          exact Tree.eq_of_locate_above hplain hne hstat hplace
      subst hparent
      exact .inr ⟨name, Tree.isEndOf_of_locate hplace, rfl⟩
    · next hfault =>
      left
      generalize d.makeAll (above :: rest) = made at hsame
      obtain ⟨_ | fault, d'⟩ := made
      · obtain rfl : d' = d := hsame
        dsimp only
        rw [hfault]
        dsimp only
        split <;> rfl
      · exact hsame
    · left
      split <;> rfl

end Disk

end BuildTool
