import BuildTool.Files.Disk
import Mathlib.Logic.Basic

/-!
# Ways through a tree

A path leads over directories and links to where it ends, so what it leads to stays where it is as
long as directories remain directories and links remain the links that they are. A tree is filled
if it gets new directories and files, and files in place of files:

    Fills t t'     →    t.walk … = entry loc e  →  t'.walk … = entry loc e'

## Sections

* entries at a location;
* filling a tree;
* what a path leads to;
* making directories and setting times.
-/

namespace BuildTool

/-! ## Entries at a location -/

/-- What a path finds on its way. -/
inductive Way
  | through
  | link (target : String)
  | stop
  deriving DecidableEq

namespace Entry

/-- A path goes on through a directory, follows a link and stops at anything else. -/
def way : Entry → Way
  | .directory _ => .through
  | .link target => .link target
  | _ => .stop

def content? : Entry → Option ByteArray
  | .file content _ _ => some content
  | _ => none

@[simp] theorem way_withModified (e : Entry) (time : Time) : (e.withModified time).way = e.way := by
  cases e <;> rfl

@[simp] theorem withModified_withModified (e : Entry) (time time' : Time) :
    (e.withModified time).withModified time' = e.withModified time' := by
  cases e <;> rfl

@[simp] theorem content?_withModified (e : Entry) (time : Time) :
    (e.withModified time).content? = e.content? := by
  cases e <;> rfl

end Entry

namespace Tree

/-- What a path finds at a location. -/
def way? (t : Tree) (loc : Location) : Option Way := (t.get? loc).map Entry.way

def content? (t : Tree) (loc : Location) : Option ByteArray := (t.get? loc).bind Entry.content?

theorem lookup_cons_eq (l here : Location) (e : Entry) (rest : List (Location × Entry)) :
    ((here, e) :: rest).lookup l = if l = here then some e else rest.lookup l := by
  rw [List.lookup_cons]
  cases hb : l == here with
  | true => rw [if_pos (eq_of_beq hb)]
  | false => rw [if_neg (ne_of_beq_false hb)]

theorem get?_put (t : Tree) (loc : Location) (e : Entry) (l : Location) :
    (t.put loc e).get? l = if l = loc then some e else t.get? l := by
  obtain ⟨entries⟩ := t
  simp only [put, get?]
  induction entries with
  | nil => rw [putIn, lookup_cons_eq]
  | cons entry rest ih =>
    obtain ⟨here, old⟩ := entry
    rw [putIn]
    split
    · next he =>
      rw [lookup_cons_eq, lookup_cons_eq, he]
      split <;> rfl
    · next hne =>
      rw [lookup_cons_eq, lookup_cons_eq, ih]
      split
      · next hl => rw [if_neg (hl ▸ hne)]
      · rfl

theorem lookup_filter (p : Location → Bool) (entries : List (Location × Entry)) (l : Location) :
    (entries.filter fun entry => p entry.1).lookup l =
      if p l = true then entries.lookup l else none := by
  induction entries with
  | nil => simp
  | cons entry rest ih =>
    obtain ⟨here, e⟩ := entry
    by_cases hhere : p here = true
    · rw [List.filter_cons_of_pos (by exact hhere), lookup_cons_eq, lookup_cons_eq, ih]
      split
      · next hl => rw [if_pos (hl ▸ hhere)]
      · rfl
    · rw [List.filter_cons_of_neg (by exact hhere), ih, lookup_cons_eq]
      split
      · next hl =>
        have hother : l ≠ here := by
          rintro rfl
          exact hhere hl
        rw [if_neg hother]
      · rfl

theorem get?_erase (t : Tree) (loc l : Location) :
    (t.erase loc).get? l = if l = loc then none else t.get? l := by
  rw [erase, get?, lookup_filter (fun here => decide (here ≠ loc))]
  by_cases hl : l = loc
  · rw [if_pos hl, if_neg (by simpa using hl)]
  · rw [if_neg hl, if_pos (by simpa using hl), get?]

theorem get?_stamp (t : Tree) (loc : Location) (time : Time) (l : Location) :
    (t.stamp loc time).get? l =
      if l = loc then (t.get? l).map (Entry.withModified time) else t.get? l := by
  unfold stamp
  split
  · next e he =>
    rw [get?_put]
    split
    · next hl => rw [hl, he, Option.map_some]
    · rfl
  · next hnone =>
    split
    · next hl => rw [hl, hnone, Option.map_none]
    · rfl

section

variable (t : Tree) (time : Time) (loc : Location) (e : Entry) (l : Location)

@[simp] theorem way?_stamp : (t.stamp loc time).way? l = t.way? l := by
  rw [way?, get?_stamp, way?]
  split
  · cases t.get? l <;> simp
  · rfl

@[simp] theorem content?_stamp : (t.stamp loc time).content? l = t.content? l := by
  rw [content?, get?_stamp, content?]
  split
  · cases t.get? l <;> simp
  · rfl

theorem way?_put : (t.put loc e).way? l = if l = loc then some e.way else t.way? l := by
  rw [way?, get?_put]
  split <;> rfl

theorem content?_put : (t.put loc e).content? l = if l = loc then e.content? else t.content? l := by
  rw [content?, get?_put]
  split <;> rfl

theorem way?_insert : (t.insert time loc e).way? l = if l = loc then some e.way else t.way? l := by
  rw [insert, way?_stamp, way?_put]

theorem content?_insert :
    (t.insert time loc e).content? l = if l = loc then e.content? else t.content? l := by
  rw [insert, content?_stamp, content?_put]

theorem way?_remove : (t.remove time loc).way? l = if l = loc then none else t.way? l := by
  rw [remove, way?_stamp, way?, get?_erase]
  split <;> rfl

theorem content?_remove :
    (t.remove time loc).content? l = if l = loc then none else t.content? l := by
  rw [remove, content?_stamp, content?, get?_erase]
  split <;> rfl

end

theorem isDirectory_iff {t : Tree} {loc : Location} :
    t.isDirectory loc = true ↔ t.way? loc = some .through := by
  unfold isDirectory way?
  rcases t.get? loc with _ | e
  · simp
  · cases e <;> simp [Entry.isDirectory, Entry.way]

theorem content?_eq_none_of_entries {t : Tree}
    (h : ∀ entry ∈ t.entries, entry.2.content? = none) (loc : Location) : t.content? loc = none := by
  rw [content?, Option.bind_eq_none_iff]
  intro e hget
  obtain ⟨before, after, heq, -⟩ := List.lookup_eq_some_iff.mp hget
  exact h (loc, e) (heq ▸ by simp)

/-! ## Filling a tree -/

/-- The other tree has at every place what a path finds at it here, and no link that is not here. -/
structure Fills (t t' : Tree) : Prop where
  keeps : ∀ loc way, t.way? loc = some way → t'.way? loc = some way
  adds : ∀ loc target, t'.way? loc = some (.link target) → t.way? loc = some (.link target)

namespace Fills

variable {t t' t'' : Tree}

theorem refl (t : Tree) : t.Fills t := ⟨fun _ _ => id, fun _ _ => id⟩

theorem trans (h : t.Fills t') (h' : t'.Fills t'') : t.Fills t'' :=
  ⟨fun loc way hw => h'.keeps loc way (h.keeps loc way hw),
    fun loc target hl => h.adds loc target (h'.adds loc target hl)⟩

theorem of_way?_eq (h : ∀ loc, t'.way? loc = t.way? loc) : t.Fills t' :=
  ⟨fun loc _ hw => (h loc).trans hw, fun loc _ hl => (h loc).symm.trans hl⟩

/-- A new entry that is no link, or one in place of an entry that paths see alike. -/
theorem of_way?_eq_ite (loc : Location) (way : Way)
    (hplace : t.way? loc = none ∨ t.way? loc = some way)
    (hway : ∀ target, way ≠ .link target)
    (h : ∀ l, t'.way? l = if l = loc then some way else t.way? l) : t.Fills t' := by
  constructor
  · intro l old hold
    rw [h]
    split
    · next hl =>
      rw [hl] at hold
      rcases hplace with hnone | hsame
      · rw [hnone] at hold
        cases hold
      · rw [← hold, hsame]
    · exact hold
  · intro l target hlink
    rw [h] at hlink
    split at hlink
    · cases hlink
      exact absurd rfl (hway target)
    · exact hlink

theorem insert {loc : Location} {e : Entry} (hfree : t.get? loc = none)
    (hlink : ∀ target, e.way ≠ .link target) (time : Time) : t.Fills (t.insert time loc e) :=
  of_way?_eq_ite loc e.way (.inl (by rw [way?, hfree, Option.map_none])) hlink
    (t.way?_insert time loc e)

theorem get? (h : t.Fills t') {loc : Location} {e : Entry} (he : t.get? loc = some e) :
    ∃ e', t'.get? loc = some e' ∧ e'.way = e.way :=
  Option.map_eq_some_iff.mp (h.keeps loc e.way (by rw [way?, he, Option.map_some]))

theorem get?_directory (h : t.Fills t') {loc : Location} {time : Time}
    (hdir : t.get? loc = some (.directory time)) :
    ∃ time', t'.get? loc = some (.directory time') := by
  obtain ⟨e', he', hway⟩ := h.get? hdir
  cases e' <;> cases hway
  exact ⟨_, he'⟩

theorem get?_link (h : t.Fills t') {loc : Location} {target : String}
    (hlink : t.get? loc = some (.link target)) : t'.get? loc = some (.link target) := by
  obtain ⟨e', he', hway⟩ := h.get? hlink
  cases e' <;> cases hway
  exact he'

theorem isDirectory (h : t.Fills t') {loc : Location} (hdir : t.isDirectory loc = true) :
    t'.isDirectory loc = true :=
  isDirectory_iff.mpr (h.keeps loc _ (isDirectory_iff.mp hdir))

end Fills

/-! ## What a path leads to -/

section

variable {t : Tree} {follow mustBe : Bool} {links : Nat} {dir : Location} {name : String}
  {rest : List String}

theorem exists_walk_eq (t : Tree) (follow : Bool) (links : Nat) :
    ∃ through, t.walk follow links = t.walkThrough follow through := by
  cases links with
  | zero => exact ⟨_, rfl⟩
  | succ links => exact ⟨_, rfl⟩

theorem walk_nil {e : Entry} (h : t.get? dir = some e) :
    t.walk follow links mustBe dir [] = .ok (.entry dir e) := by
  obtain ⟨through, hwalk⟩ := exists_walk_eq t follow links
  rw [hwalk, walkThrough, h]

/-- A name that a path goes to, rather than staying or going up. -/
structure IsStep (name : String) : Prop where
  ne_dot : name ≠ "."
  ne_dots : name ≠ ".."
  short : ¬ isTooLong name = true

theorem walk_dot : t.walk follow links mustBe dir ("." :: rest) =
    t.walk follow links mustBe dir rest := by
  obtain ⟨through, hwalk⟩ := exists_walk_eq t follow links
  rw [hwalk, walkThrough, if_pos rfl]

theorem walk_dots : t.walk follow links mustBe dir (".." :: rest) =
    t.walk follow links mustBe dir.dropLast rest := by
  obtain ⟨through, hwalk⟩ := exists_walk_eq t follow links
  rw [hwalk, walkThrough, if_neg (by decide), if_pos rfl]

theorem walk_free (hname : IsStep name) (h : t.get? (dir ++ [name]) = none) :
    t.walk follow links mustBe dir (name :: rest) =
      if rest = [] then .ok (.free dir name) else .error .notFound := by
  obtain ⟨through, hwalk⟩ := exists_walk_eq t follow links
  rw [hwalk, walkThrough, if_neg hname.ne_dot, if_neg hname.ne_dots, if_neg hname.short, h]

theorem walk_directory {time : Time} (hname : IsStep name)
    (h : t.get? (dir ++ [name]) = some (.directory time)) :
    t.walk follow links mustBe dir (name :: rest) =
      t.walk follow links mustBe (dir ++ [name]) rest := by
  obtain ⟨through, hwalk⟩ := exists_walk_eq t follow links
  rw [hwalk, walkThrough, if_neg hname.ne_dot, if_neg hname.ne_dots, if_neg hname.short, h]

theorem walk_lastLink {target : String} (hname : IsStep name)
    (h : t.get? (dir ++ [name]) = some (.link target)) :
    t.walk false links false dir [name] = .ok (.entry (dir ++ [name]) (.link target)) := by
  obtain ⟨through, hwalk⟩ := exists_walk_eq t false links
  rw [hwalk, walkThrough, if_neg hname.ne_dot, if_neg hname.ne_dots, if_neg hname.short, h]
  exact if_pos ⟨rfl, rfl, rfl⟩

theorem walk_link {target : String} (hname : IsStep name)
    (h : t.get? (dir ++ [name]) = some (.link target)) (htarget : target ≠ "")
    (hfollow : ¬ (rest = [] ∧ follow = false ∧ mustBe = false)) :
    t.walk follow (links + 1) mustBe dir (name :: rest) =
      t.walk follow links (mustBe || (rest.isEmpty && endsInSlash target))
        (if target.startsWith "/" then [] else dir) (pathElements target ++ rest) := by
  rw [walk, walkThrough, if_neg hname.ne_dot, if_neg hname.ne_dots, if_neg hname.short, h]
  simp only [Bool.not_eq_true', hfollow, if_false, if_neg htarget]

theorem walk_stop {e : Entry} (hname : IsStep name) (h : t.get? (dir ++ [name]) = some e)
    (hway : e.way = .stop) : t.walk follow links mustBe dir (name :: rest) =
      if rest = [] ∧ !mustBe then .ok (.entry (dir ++ [name]) e) else .error .notDirectory := by
  obtain ⟨through, hwalk⟩ := exists_walk_eq t follow links
  rw [hwalk, walkThrough, if_neg hname.ne_dot, if_neg hname.ne_dots, if_neg hname.short, h]
  cases e <;> first | rfl | cases hway

end

/-- Path elements lead from a directory to a place, through so many links at most; `follow` and
`mustBe` are those of a walk. -/
inductive Walks (t : Tree) (follow : Bool) :
    Nat → Bool → Location → List String → Place → Prop
  | arrive {links : Nat} {mustBe : Bool} {dir : Location} {e : Entry} (h : t.get? dir = some e) :
      Walks t follow links mustBe dir [] (.entry dir e)
  | stay {links : Nat} {mustBe : Bool} {dir : Location} {rest : List String} {place : Place}
      (h : Walks t follow links mustBe dir rest place) :
      Walks t follow links mustBe dir ("." :: rest) place
  | up {links : Nat} {mustBe : Bool} {dir : Location} {rest : List String} {place : Place}
      (h : Walks t follow links mustBe dir.dropLast rest place) :
      Walks t follow links mustBe dir (".." :: rest) place
  | free {links : Nat} {mustBe : Bool} {dir : Location} {name : String} (hname : IsStep name)
      (h : t.get? (dir ++ [name]) = none) :
      Walks t follow links mustBe dir [name] (.free dir name)
  | enter {links : Nat} {mustBe : Bool} {dir : Location} {name : String} {rest : List String}
      {place : Place} {time : Time} (hname : IsStep name)
      (h : t.get? (dir ++ [name]) = some (.directory time))
      (h' : Walks t follow links mustBe (dir ++ [name]) rest place) :
      Walks t follow links mustBe dir (name :: rest) place
  | link {links : Nat} {dir : Location} {name target : String} (hname : IsStep name)
      (h : t.get? (dir ++ [name]) = some (.link target)) (hfollow : follow = false) :
      Walks t follow links false dir [name] (.entry (dir ++ [name]) (.link target))
  | follow {links : Nat} {mustBe : Bool} {dir : Location} {name target : String}
      {rest : List String} {place : Place} (hname : IsStep name)
      (h : t.get? (dir ++ [name]) = some (.link target)) (htarget : target ≠ "")
      (hfollow : ¬ (rest = [] ∧ follow = false ∧ mustBe = false))
      (h' : Walks t follow links (mustBe || (rest.isEmpty && endsInSlash target))
        (if target.startsWith "/" then [] else dir) (pathElements target ++ rest) place) :
      Walks t follow (links + 1) mustBe dir (name :: rest) place
  | stop {links : Nat} {dir : Location} {name : String} {e : Entry} (hname : IsStep name)
      (h : t.get? (dir ++ [name]) = some e) (hway : e.way = .stop) :
      Walks t follow links false dir [name] (.entry (dir ++ [name]) e)

/-- What a path ends at stands where the path ends, or nothing does. -/
def IsEndOf (t : Tree) : Place → Prop
  | .entry loc e => t.get? loc = some e
  | .free dir name => t.get? (dir ++ [name]) = none

section

variable {t t' : Tree} {follow : Bool}

theorem walks_of_walkThrough {through : Bool → Location → List String → Except Fault Place}
    {links : Nat}
    (hthrough : ∀ mustBe dir names place, through mustBe dir names = .ok place →
      ∃ left, links = left + 1 ∧ Walks t follow left mustBe dir names place)
    {mustBe : Bool} {dir : Location} {names : List String} {place : Place}
    (h : t.walkThrough follow through mustBe dir names = .ok place) :
    Walks t follow links mustBe dir names place := by
  induction names generalizing dir with
  | nil =>
    rw [walkThrough] at h
    split at h
    · next he =>
      cases h
      exact .arrive he
    · cases h
  | cons name rest ih =>
    by_cases hdot : name = "."
    · rw [walkThrough, if_pos hdot] at h
      exact hdot ▸ .stay (ih h)
    by_cases hdots : name = ".."
    · rw [walkThrough, if_neg hdot, if_pos hdots] at h
      exact hdots ▸ .up (ih h)
    by_cases hlong : isTooLong name = true
    · rw [walkThrough, if_neg hdot, if_neg hdots, if_pos hlong] at h
      cases h
    have hname : IsStep name := ⟨hdot, hdots, hlong⟩
    rw [walkThrough, if_neg hdot, if_neg hdots, if_neg hlong] at h
    split at h
    · next hnone =>
      split at h
      · next hrest =>
        cases h
        exact hrest ▸ .free hname hnone
      · cases h
    · next hdir => exact .enter hname hdir (ih h)
    · next target hlink =>
      split at h
      · next hlast =>
        obtain ⟨rfl, hfollow, hmust⟩ := hlast
        cases h
        obtain rfl : mustBe = false := by simpa using hmust
        exact .link hname hlink (by simpa using hfollow)
      · next hlast =>
        split at h
        · cases h
        · next htarget =>
          obtain ⟨left, rfl, hwalks⟩ := hthrough _ _ _ _ h
          exact .follow hname hlink htarget (by simpa using hlast) hwalks
    · next e hdir hlink he =>
      split at h
      · next hlast =>
        obtain ⟨rfl, hmust⟩ := hlast
        cases h
        obtain rfl : mustBe = false := by simpa using hmust
        have hway : e.way = .stop := by
          cases e with
          | directory time => exact absurd rfl (hdir time)
          | link target => exact absurd rfl (hlink target)
          | file | tool | nullDevice => rfl
        exact .stop hname he hway
      · cases h

theorem walks_of_walk {links : Nat} {mustBe : Bool} {dir : Location} {names : List String}
    {place : Place} (h : t.walk follow links mustBe dir names = .ok place) :
    Walks t follow links mustBe dir names place := by
  induction links generalizing mustBe dir names place with
  | zero => exact walks_of_walkThrough (fun _ _ _ _ hend => by cases hend) h
  | succ links ih => exact walks_of_walkThrough (fun _ _ _ _ hend => ⟨links, rfl, ih hend⟩) h

theorem Walks.walk_eq {links : Nat} {mustBe : Bool} {dir : Location} {names : List String}
    {place : Place} (h : Walks t follow links mustBe dir names place) :
    t.walk follow links mustBe dir names = .ok place := by
  induction h with
  | arrive h => exact walk_nil h
  | stay _ ih => rw [walk_dot, ih]
  | up _ ih => rw [walk_dots, ih]
  | free hname h => rw [walk_free hname h, if_pos rfl]
  | enter hname h _ ih => rw [walk_directory hname h, ih]
  | link hname h hfollow => rw [hfollow, walk_lastLink hname h]
  | follow hname h htarget hfollow _ ih => rw [walk_link hname h htarget hfollow, ih]
  | stop hname h hway => rw [walk_stop hname h hway, if_pos ⟨rfl, rfl⟩]

theorem Walks.isEndOf {links : Nat} {mustBe : Bool} {dir : Location} {names : List String}
    {place : Place} (h : Walks t follow links mustBe dir names place) : t.IsEndOf place := by
  induction h with
  | arrive h => exact h
  | stay _ ih => exact ih
  | up _ ih => exact ih
  | free _ h => exact h
  | enter _ _ _ ih => exact ih
  | link _ h _ => exact h
  | follow _ _ _ _ _ ih => exact ih
  | stop _ h _ => exact h

/-- A path that leads to an entry leads there in a fuller tree. -/
theorem Walks.of_fills (hfills : t.Fills t') {links : Nat} {mustBe : Bool} {dir loc : Location}
    {names : List String} {e : Entry}
    (h : Walks t follow links mustBe dir names (.entry loc e)) :
    ∃ e', Walks t' follow links mustBe dir names (.entry loc e') ∧ e'.way = e.way := by
  generalize hplace : Place.entry loc e = place at h
  induction h with
  | arrive h =>
    cases hplace
    obtain ⟨e', he', hway⟩ := hfills.get? h
    exact ⟨e', .arrive he', hway⟩
  | stay _ ih =>
    obtain ⟨e', hwalks, hway⟩ := ih hplace
    exact ⟨e', .stay hwalks, hway⟩
  | up _ ih =>
    obtain ⟨e', hwalks, hway⟩ := ih hplace
    exact ⟨e', .up hwalks, hway⟩
  | free => cases hplace
  | enter hname h _ ih =>
    obtain ⟨e', hwalks, hway⟩ := ih hplace
    obtain ⟨time, hdir⟩ := hfills.get?_directory h
    exact ⟨e', .enter hname hdir hwalks, hway⟩
  | link hname h hfollow =>
    cases hplace
    exact ⟨_, .link hname (hfills.get?_link h) hfollow, rfl⟩
  | follow hname h htarget hfollow _ ih =>
    obtain ⟨e', hwalks, hway⟩ := ih hplace
    exact ⟨e', .follow hname (hfills.get?_link h) htarget hfollow hwalks, hway⟩
  | stop hname h hstop =>
    cases hplace
    obtain ⟨e', he', hway⟩ := hfills.get? h
    exact ⟨e', .stop hname he' (hway.trans hstop), hway⟩

/-- A path that leads to a free place can only lead there in a fuller tree. -/
theorem Walks.eq_of_free (hfills : t.Fills t') {links : Nat} {mustBe : Bool}
    {dir parent loc : Location} {names : List String} {name : String} {e : Entry}
    (h : Walks t true links mustBe dir names (.free parent name))
    (h' : t'.walk true links mustBe dir names = .ok (.entry loc e)) : loc = parent ++ [name] := by
  generalize hplace : Place.free parent name = place at h
  induction h with
  | arrive | link | stop => cases hplace
  | stay _ ih => exact ih (walk_dot.symm.trans h') hplace
  | up _ ih => exact ih (walk_dots.symm.trans h') hplace
  | @free _ _ _ last hname hfree =>
    cases hplace
    cases hentry : t'.get? (parent ++ [name]) with
    | none =>
      rw [walk_free hname hentry, if_pos rfl] at h'
      cases h'
    | some found =>
      cases hway : found.way with
      | through =>
        cases found <;> cases hway
        rw [walk_directory hname hentry, walk_nil hentry] at h'
        cases h'
        rfl
      | link target =>
        have hlink := hfills.adds (parent ++ [name]) target (by rw [way?, hentry, ← hway]; rfl)
        rw [way?, hfree] at hlink
        cases hlink
      | stop =>
        rw [walk_stop hname hentry hway] at h'
        split at h' <;> cases h'
        rfl
  | enter hname hdir _ ih =>
    obtain ⟨time, hdir'⟩ := hfills.get?_directory hdir
    exact ih ((walk_directory hname hdir').symm.trans h') hplace
  | follow hname hlink htarget hfollow _ ih =>
    exact ih ((walk_link hname (hfills.get?_link hlink) htarget hfollow).symm.trans h') hplace

variable {work loc : Location} {path : String} {e : Entry} {place : Place}

/-- The directory that a path is read from. -/
def startOf (work : Location) (path : String) : Location := if path.startsWith "/" then [] else work

theorem locate_eq_ok_iff : t.locate work follow path = .ok place ↔
    path ≠ "" ∧ ¬ isTooLongPath path = true ∧
      Walks t follow 40 (endsInSlash path) (startOf work path) (pathElements path) place := by
  unfold locate
  by_cases hne : path = ""
  · simp [hne]
  by_cases hlong : isTooLongPath path = true
  · simp [hne, hlong]
  rw [if_neg hne, if_neg hlong]
  exact ⟨fun h => ⟨hne, hlong, walks_of_walk h⟩, fun h => h.2.2.walk_eq⟩

theorem walks_of_locate (h : t.locate work follow path = .ok place) :
    path ≠ "" ∧
      Walks t follow 40 (endsInSlash path) (startOf work path) (pathElements path) place :=
  ⟨(locate_eq_ok_iff.mp h).1, (locate_eq_ok_iff.mp h).2.2⟩

theorem isEndOf_of_locate (h : t.locate work follow path = .ok place) : t.IsEndOf place :=
  (walks_of_locate h).2.isEndOf

theorem locate_of_stat (h : t.stat work path = .ok (loc, e)) :
    t.locate work true path = .ok (.entry loc e) := by
  unfold stat at h
  split at h
  · next heq =>
    cases h
    exact heq
  · cases h
  · cases h

theorem stat_of_locate (h : t.locate work true path = .ok (.entry loc e)) :
    t.stat work path = .ok (loc, e) := by
  rw [Tree.stat, h]

theorem get?_of_stat (h : t.stat work path = .ok (loc, e)) : t.get? loc = some e :=
  isEndOf_of_locate (locate_of_stat h)

theorem Fills.stat (hfills : t.Fills t') (h : t.stat work path = .ok (loc, e)) :
    ∃ e', t'.stat work path = .ok (loc, e') ∧ e'.way = e.way := by
  obtain ⟨hne, hshort, hwalks⟩ := locate_eq_ok_iff.mp (locate_of_stat h)
  obtain ⟨e', hwalks', hway⟩ := hwalks.of_fills hfills
  exact ⟨e', stat_of_locate (locate_eq_ok_iff.mpr ⟨hne, hshort, hwalks'⟩), hway⟩

theorem eq_of_locate_free {parent : Location} {name : String} (hfills : t.Fills t')
    (h : t.locate work true path = .ok (.free parent name))
    (h' : t'.stat work path = .ok (loc, e)) : loc = parent ++ [name] :=
  (walks_of_locate h).2.eq_of_free hfills (walks_of_locate (locate_of_stat h')).2.walk_eq

end

/-! ## Making directories and setting times -/

section

variable {t t' : Tree} {work : Location} {time : Time} {path : String}

/-- A directory is made at a free place. -/
theorem exists_free_of_makeDirectory (h : t.makeDirectory work time path = .ok t') :
    ¬ isTooLongPath path = true ∧ ∃ parent name,
      t.locate work false (withoutEndSlashes path) = .ok (.free parent name) ∧
        t' = t.insert time (parent ++ [name]) (.directory time) := by
  unfold makeDirectory at h
  split at h
  · cases h
  · next hshort =>
    split at h
    · cases h
    · next parent name hplace =>
      cases h
      exact ⟨hshort, parent, name, hplace, rfl⟩
    · cases h

/-- A directory that is made fills the tree, and no file changes. -/
theorem fills_of_makeDirectory (h : t.makeDirectory work time path = .ok t') :
    t.Fills t' ∧ ∀ loc content, t.content? loc = some content → t'.content? loc = some content := by
  obtain ⟨-, parent, name, hplace, rfl⟩ := exists_free_of_makeDirectory h
  have hfree : t.get? (parent ++ [name]) = none := isEndOf_of_locate hplace
  refine ⟨Fills.insert hfree (fun _ hlink => by cases hlink) time, fun loc content hcontent => ?_⟩
  rw [content?_insert]
  split
  · next hloc =>
    rw [content?, hloc, hfree] at hcontent
    cases hcontent
  · exact hcontent

end

end Tree

namespace Disk

/-- The other disk has more directories, and all files of this one. -/
structure Grows (d d' : Disk) : Prop where
  work : d'.work = d.work
  fills : d.tree.Fills d'.tree
  keeps : ∀ loc content, d.tree.content? loc = some content → d'.tree.content? loc = some content

theorem Grows.refl (d : Disk) : d.Grows d := ⟨rfl, .refl _, fun _ _ => id⟩

theorem Grows.trans {d d' d'' : Disk} (h : d.Grows d') (h' : d'.Grows d'') : d.Grows d'' :=
  ⟨h'.work.trans h.work, h.fills.trans h'.fills,
    fun loc content hc => h'.keeps loc content (h.keeps loc content hc)⟩

theorem Grows.of_makeDirectory {d : Disk} {path : String} {tree : Tree}
    (h : d.tree.makeDirectory d.work d.time path = .ok tree) : d.Grows (d.withTree tree) :=
  ⟨rfl, (Tree.fills_of_makeDirectory h).1, (Tree.fills_of_makeDirectory h).2⟩

theorem makeAll_grows (d : Disk) (paths : List String) : d.Grows (d.makeAll paths).2 := by
  induction paths with
  | nil => exact .refl d
  | cons path above ih =>
    unfold makeAll
    split
    · exact .refl d
    · split
      · next hmade => exact .of_makeDirectory hmade
      · split
        · next hall =>
          rw [hall] at ih
          exact ih
        · next hall =>
          rw [hall] at ih
          split
          · next hmade => exact ih.trans (.of_makeDirectory hmade)
          · split <;> exact ih
      · split <;> exact .refl d

theorem makeWay_grows (d : Disk) (path : String) : d.Grows (d.makeWay path).2 :=
  makeAll_grows d _

theorem touch_grows (d : Disk) (path : String) (time : Time) : d.Grows (d.touch path time) := by
  unfold touch Tree.setModified
  split
  · next tree hset =>
    split at hset
    · next loc _ _ =>
      cases hset
      refine ⟨rfl, .of_way?_eq (d.tree.way?_stamp time loc), fun l content hcontent => ?_⟩
      rw [withTree, d.tree.content?_stamp time loc l]
      exact hcontent
    · cases hset
  · exact .refl d

end Disk

end BuildTool
