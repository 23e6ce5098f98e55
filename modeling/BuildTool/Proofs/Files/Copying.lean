import BuildTool.Files.Verbs
import BuildTool.Proofs.Files.Ways
import Mathlib.Data.List.Infix

/-!
# Copying a file

A path that leads to where a file can be written leads to the file once it is written. So after a
copy the destination has the contents that the source had, whatever the two names are and whatever
links they lead over, and nothing else is changed:

    copy a b = (ok, d')    →    d'.stat b = entry loc e,  with the contents of a

If both names lead to one file, it is empty afterwards.

## Sections

* where a file is written;
* what a copy changes;
* every copy.
-/

namespace BuildTool

/-! ## Where a file is written -/

def Place.location : Place → Location
  | .entry loc _ => loc
  | .free dir name => dir ++ [name]

namespace Tree

/-- There are only directories from the root to a location. -/
def IsRooted (t : Tree) (dir : Location) : Prop := ∀ top, top <+: dir → t.isDirectory top = true

namespace IsRooted

variable {t : Tree} {dir : Location}

theorem up (h : t.IsRooted dir) : t.IsRooted dir.dropLast :=
  fun top htop => h top (htop.trans (List.dropLast_prefix dir))

theorem enter (h : t.IsRooted dir) {name : String} {time : Time}
    (hget : t.get? (dir ++ [name]) = some (.directory time)) : t.IsRooted (dir ++ [name]) := by
  intro top htop
  rcases List.prefix_concat_iff.mp htop with rfl | htop
  · rw [isDirectory, hget]
    rfl
  · exact h top htop

/-- A link leads on from the root or from where it stands. -/
theorem follow (h : t.IsRooted dir) (target : String) :
    t.IsRooted (if target.startsWith "/" then [] else dir) := by
  split
  · intro top htop
    rw [List.prefix_nil.mp htop]
    exact h [] List.nil_prefix
  · exact h

end IsRooted

section

variable {t t' : Tree} {links : Nat} {mustBe : Bool} {dir loc : Location} {names : List String}
  {place : Place} {e : Entry}

/-- A path along which links are followed does not end at a link, if it starts in a directory. -/
theorem Walks.way_ne_link (h : Walks t true links mustBe dir names (.entry loc e))
    (hdir : t.IsRooted dir) (target : String) : e.way ≠ .link target := by
  generalize hplace : Place.entry loc e = place at h
  induction h with
  | arrive hget =>
    cases hplace
    have hthrough := isDirectory_iff.mp (hdir loc (List.prefix_refl loc))
    rw [way?, hget, Option.map_some, Option.some.injEq] at hthrough
    rw [hthrough]
    exact fun hlink => by cases hlink
  | stay _ ih => exact ih hdir hplace
  | up _ ih => exact ih hdir.up hplace
  | free => cases hplace
  | enter _ hget _ ih => exact ih (hdir.enter hget) hplace
  | link _ _ hfollow => cases hfollow
  | follow _ _ _ _ _ ih => exact ih (hdir.follow _) hplace
  | stop _ _ hway =>
    cases hplace
    rw [hway]
    exact fun hlink => by cases hlink

/-- A slash at the end of a path, or of a link at its end, leads to no file that can be written. -/
theorem walks_of_walkToWrite (h : t.walkToWrite links mustBe dir names = .ok place) :
    mustBe = false ∧ Walks t true links false dir names place := by
  induction links generalizing mustBe dir names place with
  | zero =>
    cases mustBe with
    | true =>
      rw [walkToWrite] at h
      split at h <;> cases h
    | false => exact ⟨rfl, walks_of_walkThrough (fun _ _ _ _ hend => by cases hend) h⟩
  | succ links ih =>
    cases mustBe with
    | true =>
      rw [walkToWrite] at h
      split at h <;> cases h
    | false =>
      refine ⟨rfl, walks_of_walkThrough (fun mustBe _ _ _ hthrough => ?_) h⟩
      obtain ⟨rfl, hwalks⟩ := ih hthrough
      exact ⟨links, rfl, hwalks⟩

variable (hfills : t.Fills t') (hget : t'.get? place.location = some e) (hstop : e.way = .stop)
include hfills hget hstop

/-- The elements of a path that lead to where a file can be written lead to the entry that is
written there. -/
theorem Fills.walks_of_walkThrough
    {through : Bool → Location → List String → Except Fault Place}
    (hthrough : ∀ mustBe dir names, through mustBe dir names = .ok place →
      mustBe = false ∧ ∃ left, links = left + 1 ∧
        Walks t' true left false dir names (.entry place.location e))
    (h : t.walkThrough true through false dir names = .ok place) :
    Walks t' true links false dir names (.entry place.location e) := by
  induction names generalizing dir with
  | nil =>
    rw [walkThrough] at h
    split at h <;> cases h
    exact .arrive hget
  | cons name rest ih =>
    by_cases hdot : name = "."
    · rw [walkThrough, if_pos hdot] at h
      exact hdot ▸ .stay (ih h)
    by_cases hdots : name = ".."
    · rw [walkThrough, if_neg hdot, if_pos hdots] at h
      exact hdots ▸ .up (ih h)
    by_cases hlong : isTooLong name = true
    · rw [walkThrough, if_neg hdot, if_neg hdots, if_pos hlong] at h
      cases h
    have hname : IsStep name := ⟨hdot, hdots, hlong⟩
    rw [walkThrough, if_neg hdot, if_neg hdots, if_neg hlong] at h
    split at h
    · split at h
      · next hrest =>
        cases h
        cases hrest
        exact .stop hname hget hstop
      · cases h
    · next hdirectory =>
      obtain ⟨time, hdirectory'⟩ := hfills.get?_directory hdirectory
      exact .enter hname hdirectory' (ih h)
    · next target hlink =>
      rw [if_neg (by simp)] at h
      split at h
      · cases h
      · next htarget =>
        obtain ⟨hmust, left, rfl, hwalks⟩ := hthrough _ _ _ h
        refine .follow hname (hfills.get?_link hlink) htarget (fun hlast => ?_) ?_
        · cases hlast.2.1
        · rwa [hmust]
    · split at h
      · next hlast =>
        cases h
        cases hlast.1
        exact .stop hname hget hstop
      · cases h

theorem Fills.walks_of_walkToWrite (h : t.walkToWrite links mustBe dir names = .ok place) :
    Walks t' true links false dir names (.entry place.location e) := by
  obtain ⟨rfl, -⟩ := Tree.walks_of_walkToWrite h
  induction links generalizing dir names with
  | zero => exact hfills.walks_of_walkThrough hget hstop (fun _ _ _ hend => by cases hend) h
  | succ links ih =>
    refine hfills.walks_of_walkThrough hget hstop (fun mustBe _ _ hthrough => ?_) h
    obtain ⟨rfl, -⟩ := Tree.walks_of_walkToWrite hthrough
    exact ⟨rfl, links, rfl, ih hthrough⟩

end

variable {work : Location} {path : String} {t t' : Tree} {e : Entry} {place : Place}

/-- Where a file can be written is found like the end of any path, and it is no directory. -/
theorem locate_of_locateToWrite (h : t.locateToWrite work path = .ok place) :
    t.locate work true path = .ok place ∧ ∀ loc time, place ≠ .entry loc (.directory time) := by
  unfold locateToWrite at h
  split at h
  · cases h
  · next hne =>
    split at h
    · cases h
    · next hshort =>
      split at h
      · cases h
      · next found hdirectory =>
        obtain ⟨hmust, hwalks⟩ := walks_of_walkToWrite h
        refine ⟨locate_eq_ok_iff.mpr ⟨hne, hshort, ?_⟩, fun loc time heq => ?_⟩
        · rwa [hmust]
        · exact hdirectory loc time (h.trans (congrArg _ heq))

/-- The path of a file that is written leads to it. -/
theorem Fills.stat_of_locateToWrite (hfills : t.Fills t')
    (hget : t'.get? place.location = some e) (hstop : e.way = .stop)
    (h : t.locateToWrite work path = .ok place) :
    t'.stat work path = .ok (place.location, e) := by
  unfold locateToWrite at h
  split at h
  · cases h
  · next hne =>
    split at h
    · cases h
    · next hshort =>
      split at h
      · cases h
      · obtain ⟨hmust, -⟩ := Tree.walks_of_walkToWrite h
        refine stat_of_locate (locate_eq_ok_iff.mpr ⟨hne, hshort, ?_⟩)
        rw [hmust]
        exact hfills.walks_of_walkToWrite hget hstop h

theorem get?_insert_concat (t : Tree) (time : Time) (dir : Location) (name : String) (e : Entry) :
    (t.insert time (dir ++ [name]) e).get? (dir ++ [name]) = some e := by
  have hparent : dir ++ [name] ≠ (dir ++ [name]).dropLast := by simp
  rw [insert, get?_stamp, if_neg hparent, get?_put, if_pos rfl]

end Tree

namespace Disk

/-! ## What a copy changes -/

/-- Relative paths start in a directory, which is in directories itself. -/
def WorksInDirectory (d : Disk) : Prop := ∀ top, top <+: d.work → d.tree.isDirectory top = true

/-- A path along which links are followed does not end at a link. -/
theorem WorksInDirectory.way_ne_link {d : Disk} (h : d.WorksInDirectory) {path : String}
    {loc : Location} {e : Entry} (hplace : d.tree.locate d.work true path = .ok (.entry loc e))
    (target : String) : e.way ≠ .link target :=
  (Tree.walks_of_locate hplace).2.way_ne_link (Tree.IsRooted.follow h path) target

/-- The other disk differs at one location; where nothing stood there, the directory that it is in
has got the time of the change too. -/
structure ChangesAt (d d' : Disk) (loc : Location) : Prop where
  work : d'.work = d.work
  time : d'.time = d.time
  same : ∀ l, l ≠ loc → d'.tree.get? l = d.tree.get? l ∨
    d.tree.get? loc = none ∧ l = loc.dropLast ∧
      d'.tree.get? l = (d.tree.get? l).map (Entry.withModified d.time)

section

variable (d : Disk) (loc : Location) (e : Entry)

theorem changesAt_put : d.ChangesAt (d.withTree (d.tree.put loc e)) loc where
  work := rfl
  time := rfl
  same l hl := .inl ((d.tree.get?_put loc e l).trans (if_neg hl))

theorem changesAt_insert (hfree : d.tree.get? loc = none) :
    d.ChangesAt (d.withTree (d.tree.insert d.time loc e)) loc where
  work := rfl
  time := rfl
  same l hl := by
    have hput : (d.tree.put loc e).get? l = d.tree.get? l := by rw [Tree.get?_put, if_neg hl]
    have hget : (d.tree.insert d.time loc e).get? l = _ := Tree.get?_stamp _ _ _ l
    rw [hput] at hget
    split at hget
    · next hparent => exact .inr ⟨hfree, hparent, hget⟩
    · exact .inl hget

end

/-! ## Every copy -/

/-- What a copy leaves that has gone well: an entry like that of the source, unless both names lead
to one file, and then an empty file. Nothing else is changed, and nothing at all if the destination
swallows what is written. -/
inductive Copies (d : Disk) (source destination : String) : Disk → Prop
  | swallowed {origin loc : Location} {e : Entry}
      (hsource : d.tree.stat d.work source = .ok (origin, e))
      (hdestination : d.tree.stat d.work destination = .ok (loc, .nullDevice)) :
      Copies d source destination d
  | written {d' : Disk} {origin loc : Location} {e : Entry}
      (hsource : d.tree.stat d.work source = .ok (origin, e)) (hother : loc ≠ origin)
      (hdestination : d'.tree.stat d'.work destination = .ok (loc, e.withModified d.time))
      (hchanges : d.ChangesAt d' loc) : Copies d source destination d'
  | emptied {d' : Disk} {origin : Location} {content : ByteArray} {time : Time} {executable : Bool}
      (hsource : d.tree.stat d.work source = .ok (origin, .file content time executable))
      (hdestination : d'.tree.stat d'.work destination =
        .ok (origin, .file .empty d.time executable))
      (hchanges : d.ChangesAt d' origin) : Copies d source destination d'

/-- What is copied is the entry itself with another time, unless it is a file in its own place. -/
theorem copied_eq {time : Time} {origin loc : Location} {e : Entry} (hstop : e.way = .stop)
    (hother : loc ≠ origin) : copied time origin loc e = e.withModified time := by
  cases e with
  | file content _ executable => rw [copied, if_neg hother.symm, Entry.withModified]
  | tool | nullDevice => rfl
  | directory | link => cases hstop

theorem way_copied {time : Time} {origin loc : Location} {e : Entry} (hstop : e.way = .stop) :
    (copied time origin loc e).way = .stop := by
  cases e <;> exact hstop

section

variable {d : Disk} (hwork : d.WorksInDirectory)
include hwork

/-- An entry that a file can take the place of is a file itself. -/
theorem WorksInDirectory.exists_file {path : String} {loc : Location} {old : Entry}
    (hplace : d.tree.locateToWrite d.work path = .ok (.entry loc old)) (hnull : old ≠ .nullDevice)
    (htool : ∀ tool, old ≠ .tool tool) : ∃ content time executable,
      old = .file content time executable := by
  obtain ⟨hlocate, hdirectory⟩ := Tree.locate_of_locateToWrite hplace
  cases old with
  | file content time executable => exact ⟨content, time, executable, rfl⟩
  | directory time => exact absurd rfl (hdirectory loc time)
  | link target => exact absurd rfl (hwork.way_ne_link hlocate target)
  | tool tool => exact absurd rfl (htool tool)
  | nullDevice => exact absurd rfl hnull

theorem WorksInDirectory.way_of_stat {path : String} {loc : Location} {e : Entry}
    (h : d.tree.stat d.work path = .ok (loc, e)) (hdirectory : e.isDirectory = false) :
    e.way = .stop := by
  have hlink := hwork.way_ne_link (Tree.locate_of_stat h)
  cases e with
  | directory => cases hdirectory
  | link target => exact absurd rfl (hlink target)
  | file | tool | nullDevice => rfl

omit hwork in
/-- The copy of a file stands where its path leads afterwards. -/
theorem copies_of_fills {d' : Disk} {source destination : String} {origin : Location} {e : Entry}
    {place : Place} (hsource : d.tree.stat d.work source = .ok (origin, e)) (hstop : e.way = .stop)
    (hplace : d.tree.locateToWrite d.work destination = .ok place)
    (hfills : d.tree.Fills d'.tree)
    (hget : d'.tree.get? place.location = some (copied d.time origin place.location e))
    (hchanges : d.ChangesAt d' place.location)
    (hself : place.location = origin → ∃ content time executable,
      e = .file content time executable) : d.Copies source destination d' := by
  have hstat := hfills.stat_of_locateToWrite hget (way_copied hstop) hplace
  rw [← hchanges.work] at hstat
  by_cases hloc : place.location = origin
  · obtain ⟨content, time, executable, rfl⟩ := hself hloc
    rw [hloc, copied, if_pos rfl] at hstat
    exact .emptied hsource hstat (hloc ▸ hchanges)
  · rw [copied_eq hstop hloc] at hstat
    exact .written hsource hloc hstat hchanges

/-- A file that stands where the destination leads gets the contents of the source. -/
theorem WorksInDirectory.copies_put {source destination : String} {origin loc : Location}
    {e old : Entry} (hsource : d.tree.stat d.work source = .ok (origin, e)) (hstop : e.way = .stop)
    (hplace : d.tree.locateToWrite d.work destination = .ok (.entry loc old))
    (hnull : old ≠ .nullDevice) (htool : ∀ tool, old ≠ .tool tool) :
    d.Copies source destination (d.withTree (d.tree.put loc (copied d.time origin loc e))) := by
  have hold : d.tree.get? loc = some old :=
    Tree.isEndOf_of_locate (Tree.locate_of_locateToWrite hplace).1
  obtain ⟨content, time, executable, rfl⟩ := hwork.exists_file hplace hnull htool
  have hfills : d.tree.Fills (d.tree.put loc (copied d.time origin loc e)) := by
    refine .of_way?_eq_ite loc .stop (.inr ?_) nofun fun l => ?_
    · rw [Tree.way?, hold]
      rfl
    · rw [Tree.way?_put, way_copied hstop]
  refine copies_of_fills hsource hstop hplace hfills ?_ (d.changesAt_put _ _) fun hself => ?_
  · exact (d.tree.get?_put loc _ loc).trans (if_pos rfl)
  · obtain rfl : loc = origin := hself
    rw [Tree.get?_of_stat hsource] at hold
    exact ⟨content, time, executable, Option.some.inj hold⟩

omit hwork in
/-- Where the destination leads to a free place, a copy of the source is made. -/
theorem copies_insert {source destination name : String} {origin dir : Location} {e : Entry}
    (hsource : d.tree.stat d.work source = .ok (origin, e)) (hstop : e.way = .stop)
    (hplace : d.tree.locateToWrite d.work destination = .ok (.free dir name)) :
    d.Copies source destination (d.withTree (d.tree.insert d.time (dir ++ [name])
      (copied d.time origin (dir ++ [name]) e))) := by
  have hfree : d.tree.get? (dir ++ [name]) = none :=
    Tree.isEndOf_of_locate (Tree.locate_of_locateToWrite hplace).1
  have hfills := Tree.Fills.insert hfree (e := copied d.time origin (dir ++ [name]) e)
    (fun _ => by rw [way_copied hstop]; exact nofun) d.time
  refine copies_of_fills hsource hstop hplace hfills ?_ (d.changesAt_insert _ _ hfree)
    fun hself => ?_
  · exact d.tree.get?_insert_concat d.time dir name _
  · obtain rfl : dir ++ [name] = origin := hself
    rw [Tree.get?_of_stat hsource] at hfree
    cases hfree

variable (base source destination : String)

/-- A copy that goes well gives the destination the contents of the source, unless both names lead
to one file: that is empty then. It fails if the source is missing or a directory, and a copy that
fails changes nothing. -/
theorem copy_gives_contents :
    let after := d.copy base source destination
    (after.1 = .ok () →
      d.Copies (pathFrom base source) (pathFrom base destination) after.2) ∧
    (∀ problem, after.1 = .error problem → after.2 = d) ∧
    ((∀ origin e, d.tree.stat d.work (pathFrom base source) = .ok (origin, e) →
        e.isDirectory = true) →
      ∃ problem, after.1 = .error problem) := by
  unfold copy
  dsimp only
  split
  · exact ⟨nofun, fun _ _ => rfl, fun _ => ⟨_, rfl⟩⟩
  split
  · exact ⟨nofun, fun _ _ => rfl, fun _ => ⟨_, rfl⟩⟩
  · exact ⟨nofun, fun _ _ => rfl, fun _ => ⟨_, rfl⟩⟩
  · exact ⟨nofun, fun _ _ => rfl, fun _ => ⟨_, rfl⟩⟩
  next origin e hnotDirectory _ hsource =>
  have hdirectory : e.isDirectory = false := by
    cases e with
    | directory time => exact absurd rfl (hnotDirectory time)
    | file | link | tool | nullDevice => rfl
  have hstop : e.way = .stop := hwork.way_of_stat hsource hdirectory
  have hfound : ¬ ∀ origin e, d.tree.stat d.work (pathFrom base source) = .ok (origin, e) →
      e.isDirectory = true :=
    fun h => absurd (h origin e hsource) (Bool.eq_false_iff.mp hdirectory)
  split
  · exact ⟨nofun, fun _ _ => rfl, fun _ => ⟨_, rfl⟩⟩
  split
  · exact ⟨nofun, fun _ _ => rfl, fun _ => ⟨_, rfl⟩⟩
  · next loc hplace =>
    have hstat : d.tree.stat d.work (pathFrom base destination) = .ok (loc, .nullDevice) :=
      Tree.stat_of_locate (Tree.locate_of_locateToWrite hplace).1
    exact ⟨fun _ => .swallowed hsource hstat, nofun, fun h => absurd h hfound⟩
  · exact ⟨nofun, fun _ _ => rfl, fun _ => ⟨_, rfl⟩⟩
  · next loc old hnull htool hplace =>
    exact ⟨fun _ => hwork.copies_put hsource hstop hplace hnull htool, nofun,
      fun h => absurd h hfound⟩
  · next dir name hplace =>
    exact ⟨fun _ => copies_insert hsource hstop hplace, nofun, fun h => absurd h hfound⟩

end

/-- A disk with two files in its working directory, and a link to the first. -/
def twoFiles : Disk :=
  let tree := Tree.initial 0
  let tree := tree.insert 0 ["box", "work", "f"] (.file ⟨#[120]⟩ 0 false)
  let tree := tree.insert 0 ["box", "work", "g"] (.link "./f")
  { tree := tree.insert 0 ["box", "work", "h"] (.file ⟨#[121]⟩ 0 true), time := 7 }

theorem worksInDirectory_twoFiles : twoFiles.WorksInDirectory := by
  have hdirectory : ∀ top ∈ ["box", "work"].inits, twoFiles.tree.isDirectory top = true := by
    decide
  exact fun top htop => hdirectory top ((List.mem_inits _ _).mpr htop)

/-- The second file is copied over the link, which leads to the first. -/
theorem copy_gives_contents_linked : twoFiles.WorksInDirectory ∧
    (twoFiles.copy "." "h" "g").1 = .ok () ∧
    twoFiles.Copies "./h" "./g" (twoFiles.copy "." "h" "g").2 := by
  have hwork := worksInDirectory_twoFiles
  have hcopy : (twoFiles.copy "." "h" "g").1 = .ok () := by with_unfolding_all decide
  have hnames : pathFrom "." "h" = "./h" ∧ pathFrom "." "g" = "./g" := by
    with_unfolding_all decide
  refine ⟨hwork, hcopy, ?_⟩
  have hcopies := (copy_gives_contents hwork "." "h" "g").1 hcopy
  rwa [hnames.1, hnames.2] at hcopies

/-- A file that is copied onto itself, by its own name or by that of a link to it, loses its
contents. -/
theorem copy_onto_itself_empties : twoFiles.readFile "./f" = .ok ⟨#[120]⟩ ∧
    (twoFiles.copy "." "f" "f").1 = .ok () ∧
    (twoFiles.copy "." "f" "f").2.readFile "./f" = .ok .empty ∧
    (twoFiles.copy "." "f" "g").1 = .ok () ∧
    (twoFiles.copy "." "f" "g").2.readFile "./g" = .ok .empty := by
  with_unfolding_all decide

end Disk

end BuildTool
