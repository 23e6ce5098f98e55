import BuildTool.Proofs.Path.Normal

/-!
# Where a path leads

A place is given by the names on the way to it from the root. A path leads from one place to
another, element by element, without a look at any file:

    ""  .      stay
    ..         goes up, and stays put at the root
    name       goes down
    /path      starts at the root, wherever one is

Cleaning a path does not change where it leads, and two paths that lead to the same place from
everywhere have the same clean form (`clean_eq_clean_iff`): the form shows the names a path goes
down and how far it goes up before.
-/

namespace BuildTool.Path

/-- Where an element leads from a place, whose names are listed from the innermost on. -/
def follow (place : List (List Char)) (element : List Char) : List (List Char) :=
  if element = [] ∨ element = ['.'] then place
  else if element = ['.', '.'] then place.tail
  else element :: place

/-- Where a path leads from a place. -/
def place (path : String) (start : List (List Char)) : List (List Char) :=
  (elements path.toList).foldl follow (if isAbsolute path then [] else start)

/-- The paths lead to the same place from everywhere. -/
def SamePlace (p q : String) : Prop := ∀ start, place p start = place q start

/-! ## Following what is kept -/

/-- Where elements lead that are kept innermost first. -/
def followKept (start : List (List Char)) (kept : List (List Char)) : List (List Char) :=
  kept.foldr (fun element place => follow place element) start

theorem IsName.follow_eq {element : List Char} (h : IsName element) (place : List (List Char)) :
    follow place element = element :: place := by
  rw [follow, if_neg (not_or.mpr ⟨h.ne_nil, h.ne_here⟩), if_neg h.ne_up]

section

variable {rooted : Bool} {kept : List (List Char)} {start : List (List Char)}

/-- An element leads on from where the kept ones lead. -/
theorem IsKept.followKept_step (h : IsKept rooted kept) (hr : rooted = true → start = [])
    (element : List Char) :
    followKept start (Path.step rooted kept element) = follow (followKept start kept) element := by
  unfold Path.step
  split
  · next hstay => rw [follow, if_pos hstay]
  · next hstay =>
    split
    · next hup =>
      subst hup
      cases h with
      | nil =>
        cases rooted with
        | true => rw [hr rfl]; rfl
        | false => rfl
      | up hf _ _ =>
        subst hf
        rfl
      | @down last outer hn _ =>
        have hlast : followKept start (last :: outer) = last :: followKept start outer :=
          hn.follow_eq _
        simp only [if_pos hn.ne_up, hlast]
        rfl
    · rfl

theorem IsKept.followKept_foldl (h : IsKept rooted kept) (hr : rooted = true → start = [])
    {elements : List (List Char)} (hs : ∀ e ∈ elements, '/' ∉ e) :
    followKept start (elements.foldl (Path.step rooted) kept) =
      elements.foldl follow (followKept start kept) := by
  induction elements generalizing kept with
  | nil => rfl
  | cons e rest ih =>
    have he : IsKept rooted (Path.step rooted kept e) := h.step (hs e List.mem_cons_self)
    rw [List.foldl_cons, List.foldl_cons, ih he fun e he => hs e (List.mem_cons_of_mem _ he),
      h.followKept_step hr]

end

/-! ## Cleaning keeps the place -/

/-- A path leads where the elements lead that are kept of it. -/
theorem place_eq_followKept (path : String) (start : List (List Char)) :
    place path start =
      followKept (if isAbsolute path then [] else start) (keptOf path.toList) := by
  have hk : IsKept (isAbsolute path) [] := .nil
  exact (hk.followKept_foldl (fun hr => if_pos hr) fun _ he =>
    Text.not_mem_of_mem_splitChar he).symm

/-! ## The place shows the clean form -/

/-- Elements in normal form are names below some steps up, which only a relative path has. -/
theorem IsKept.exists_names {rooted : Bool} {kept : List (List Char)} (h : IsKept rooted kept) :
    ∃ names ups, kept = names ++ List.replicate ups ['.', '.'] ∧ (∀ e ∈ names, IsName e) ∧
      (rooted = true → ups = 0) := by
  induction h with
  | nil => exact ⟨[], 0, rfl, by simp, fun _ => rfl⟩
  | @up outer hf hall _ _ =>
    refine ⟨[], outer.length + 1, ?_, by simp, ?_⟩
    · rw [List.nil_append, List.replicate_succ, List.eq_replicate_of_mem hall,
        List.length_replicate]
    · rw [hf]
      exact fun h => nomatch h
  | @down element _ hn _ ih =>
    obtain ⟨names, ups, rfl, hnames, hups⟩ := ih
    exact ⟨element :: names, ups, rfl, List.forall_mem_cons.mpr ⟨hn, hnames⟩, hups⟩

/-- Steps up and names below them lead as far up and then down along the names. -/
theorem followKept_names {names : List (List Char)} (h : ∀ e ∈ names, IsName e) (ups : Nat)
    (start : List (List Char)) :
    followKept start (names ++ List.replicate ups ['.', '.']) = names ++ start.drop ups := by
  induction names with
  | nil =>
    induction ups with
    | zero => rfl
    | succ ups ih =>
      have hup : followKept start (List.replicate (ups + 1) ['.', '.']) =
          (followKept start (List.replicate ups ['.', '.'])).tail := rfl
      rw [List.nil_append, hup, ← List.nil_append (List.replicate ups _), ih, List.nil_append,
        List.nil_append, List.tail_drop]
  | cons e names ih =>
    obtain ⟨he, hnames⟩ := List.forall_mem_cons.mp h
    rw [List.cons_append, List.cons_append, ← ih hnames]
    exact he.follow_eq _

/-- Lists that go on with different numbers of a mark that is not in them are different. -/
theorem append_replicate_inj {α : Type} [DecidableEq α] {mark : α} {xs ys : List α} {m n : Nat}
    (hx : mark ∉ xs) (hy : mark ∉ ys)
    (h : xs ++ List.replicate m mark = ys ++ List.replicate n mark) : xs = ys ∧ m = n := by
  have hunmarked : ∀ {zs : List α} (k : Nat), mark ∉ zs →
      (zs ++ List.replicate k mark).filter (· ≠ mark) = zs := by
    intro zs k hz
    rw [List.filter_append, List.filter_eq_self.mpr, List.filter_eq_nil_iff.mpr, List.append_nil]
    · intro z hm
      simp [List.eq_of_mem_replicate hm]
    · intro z hm
      simpa using fun he : z = mark => hz (he ▸ hm)
  have hxy : xs = ys := by rw [← hunmarked m hx, h, hunmarked n hy]
  subst hxy
  exact ⟨rfl, by simpa using congrArg List.length h⟩

/-- Elements in normal form that lead to the same place from all places made of a mark are the
same if the mark is none of them, and both are of a relative path or neither. -/
theorem IsKept.eq_of_followKept {r r' : Bool} {kept kept' : List (List Char)} {mark : List Char}
    (hk : IsKept r kept) (hk' : IsKept r' kept') (hm : mark ∉ kept) (hm' : mark ∉ kept')
    (h : ∀ n, followKept (if r then [] else List.replicate n mark) kept =
      followKept (if r' then [] else List.replicate n mark) kept') : r = r' ∧ kept = kept' := by
  obtain ⟨names, ups, rfl, hnames, hups⟩ := hk.exists_names
  obtain ⟨names', ups', rfl, hnames', hups'⟩ := hk'.exists_names
  rw [List.mem_append, not_or] at hm hm'
  -- from a place deep enough, one sees where the names end
  let n := ups + ups' + 1
  have hdrop : ∀ (r : Bool) (ups : Nat), (if r then [] else List.replicate n mark).drop ups =
      List.replicate (if r then 0 else n - ups) mark := by
    intro r ups
    cases r <;> simp
  have hs := h n
  rw [followKept_names hnames, followKept_names hnames', hdrop, hdrop] at hs
  obtain ⟨rfl, hcount⟩ := append_replicate_inj hm.1 hm'.1 hs
  have hr : r = r' ∧ ups = ups' := by
    cases r <;> cases r' <;> simp at hups hups' hcount ⊢ <;> omega
  exact ⟨hr.1, by rw [hr.2]⟩

/-- Cleaning a path does not change where it leads. -/
@[simp] theorem place_clean (path : String) (start : List (List Char)) :
    place (clean path) start = place path start := by
  rw [place_eq_followKept, place_eq_followKept, isAbsolute_clean, keptOf_clean]

/-- Two paths have the same clean form if they lead to the same place from all places made of a
mark that neither of them keeps. -/
theorem clean_eq_of_place_eq {p q : String} {mark : List Char} (hp : mark ∉ keptOf p.toList)
    (hq : mark ∉ keptOf q.toList)
    (h : ∀ n, place p (List.replicate n mark) = place q (List.replicate n mark)) :
    clean p = clean q := by
  obtain ⟨hr, hk⟩ := (isKept_keptOf p.toList).eq_of_followKept (isKept_keptOf q.toList) hp hq
    fun n => by
      have := h n
      rwa [place_eq_followKept, place_eq_followKept] at this
  apply String.toList_inj.mp
  rw [toList_clean, toList_clean, hk, show isAbsolute p = isAbsolute q from hr]

/-- Two paths have the same clean form exactly if they lead to the same place from everywhere. -/
theorem clean_eq_clean_iff {p q : String} : clean p = clean q ↔ SamePlace p q := by
  constructor
  · intro he start
    rw [← place_clean, he, place_clean]
  · intro h
    -- a path keeps no `.`
    have hmark : ∀ path : String, ['.'] ∉ keptOf path.toList :=
      fun path hm => (isKept_keptOf path.toList).ne_here _ hm rfl
    exact clean_eq_of_place_eq (hmark p) (hmark q) fun n => h _

/-!
## Directories that tell paths apart

A directory is a place whose way from the root has proper names only. Every path leads from a
directory to a directory, and directories are enough to tell the clean forms of paths apart:

    clean p = clean q    p and q lead to the same directory from every directory
    clean p ≠ clean q    they part from one that lies deep enough, below names of which
                         neither path has any

The name of such a directory can always be had: there are longer names than those of two paths.
-/

/-- A directory, by the names on the way to it, the innermost first. -/
@[ext] structure Directory where
  names : List (List Char)
  isName : ∀ e ∈ names, IsName e

/-! ### Where paths lead from directories -/

theorem isName_of_mem_follow {names : List (List Char)} (h : ∀ e ∈ names, IsName e)
    {element : List Char} (hs : '/' ∉ element) : ∀ e ∈ follow names element, IsName e := by
  unfold follow
  split
  · exact h
  · next hstay =>
    rw [not_or] at hstay
    split
    · exact fun e he => h e (List.mem_of_mem_tail he)
    · next hup => exact List.forall_mem_cons.mpr ⟨⟨hstay.1, hstay.2, hup, hs⟩, h⟩

theorem isName_of_mem_foldl_follow {names elements : List (List Char)}
    (h : ∀ e ∈ names, IsName e) (hs : ∀ e ∈ elements, '/' ∉ e) :
    ∀ e ∈ elements.foldl follow names, IsName e := by
  induction elements generalizing names with
  | nil => exact h
  | cons element rest ih =>
    obtain ⟨he, hrest⟩ := List.forall_mem_cons.mp hs
    exact ih (isName_of_mem_follow h he) hrest

/-- The directory that a path leads to from another one. -/
def Directory.along (d : Directory) (path : String) : Directory where
  names := place path d.names
  isName := by
    refine isName_of_mem_foldl_follow ?_ fun _ he => Text.not_mem_of_mem_splitChar he
    split
    · simp
    · exact d.isName

/-! ### Directories that no path mentions -/

/-- There is a name besides any others: one that is longer than all of them together. -/
theorem exists_isName_not_mem (others : List (List Char)) :
    ∃ name, IsName name ∧ name ∉ others := by
  refine ⟨List.replicate (others.flatten.length + 1) 'a', ⟨?_, ?_, ?_, ?_⟩, ?_⟩
  · simp
  · simp [List.replicate_succ]
  · simp [List.replicate_succ]
  · simp
  · intro hm
    have hle := (List.sublist_flatten_of_mem hm).length_le
    rw [List.length_replicate] at hle
    omega

/-- The directory that is so many levels below the root, all of one name. -/
def Directory.deep (n : Nat) {name : List Char} (h : IsName name) : Directory where
  names := List.replicate n name
  isName _ he := List.eq_of_mem_replicate he ▸ h

/-- Two paths have the same clean form exactly if they lead to the same directory from every
directory, and cleaning does not change where a path leads. -/
theorem clean_tells_paths_apart (p q : String) :
    (clean p = clean q ↔ ∀ d : Directory, d.along p = d.along q) ∧
      ∀ d : Directory, d.along (clean p) = d.along p := by
  have hclean : ∀ (path : String) (d : Directory), d.along (clean path) = d.along path :=
    fun path d => Directory.ext (place_clean path d.names)
  refine ⟨⟨?_, ?_⟩, hclean p⟩
  · intro he d
    rw [← hclean p, he, hclean q]
  · intro h
    obtain ⟨name, hname, hnew⟩ := exists_isName_not_mem (keptOf p.toList ++ keptOf q.toList)
    rw [List.mem_append, not_or] at hnew
    refine clean_eq_of_place_eq hnew.1 hnew.2 fun n => ?_
    exact congrArg Directory.names (h (.deep n hname))

end BuildTool.Path
