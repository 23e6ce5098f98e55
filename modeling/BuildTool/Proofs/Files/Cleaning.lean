import BuildTool.Files.Verbs
import BuildTool.Proofs.Files.Below
import BuildTool.Proofs.Files.Removal

/-!
# Cleaning

`clean` takes one entry out of the tree, a directory together with all that is below it. Links on
the way to the entry are followed, and links below it are taken out like any other entry. The path
leads nowhere afterwards, for no path ends anywhere else in a tree that has lost entries:

    t without gone      →      t'.walk … = entry loc e'  only where  t.walk … = entry loc e

A link is taken out as a link if it ends the path. With a slash behind it, the path names the
directory that the link leads to, and that one cannot be taken out by the name of the link. It is
emptied.

## Sections

* trees without several entries;
* removing a directory;
* what cleaning removes;
* every cleaning.
-/

namespace BuildTool

namespace Tree

/-! ## Trees without several entries -/

/-- The other tree has nothing at these locations, and paths find there what they find here at all
other ones. -/
structure LosesAll (t t' : Tree) (gone : Location → Prop) : Prop where
  missing : ∀ l, gone l → t'.get? l = none
  same : ∀ l, ¬ gone l → t'.way? l = t.way? l

section

variable {t t' : Tree} {gone : Location → Prop} {follow mustBe : Bool} {links : Nat}
  {dir loc loc' : Location} {names rest : List String} {name : String} {e e' : Entry}

theorem LosesAll.get?_cases (h : t.LosesAll t' gone) (hget : t.get? loc = some e) :
    t'.get? loc = none ∨ ∃ e', t'.get? loc = some e' ∧ e'.way = e.way := by
  by_cases hgone : gone loc
  · exact .inl (h.missing loc hgone)
  · have hway : t'.way? loc = some e.way := by
      rw [h.same loc hgone, way?, hget, Option.map_some]
    exact .inr (Option.map_eq_some_iff.mp hway)

theorem walk_ne_entry (hname : IsStep name) (hfree : t.get? (dir ++ [name]) = none) :
    t.walk follow links mustBe dir (name :: rest) ≠ .ok (.entry loc e) := by
  intro h
  rw [walk_free hname hfree] at h
  split at h <;> cases h

/-- What a path ends at is not found anywhere else once entries are gone. -/
theorem Walks.eq_of_losesAll (h : Walks t follow links mustBe dir names (.entry loc e))
    (hloses : t.LosesAll t' gone)
    (h' : t'.walk follow links mustBe dir names = .ok (.entry loc' e')) :
    loc' = loc ∧ e'.way = e.way := by
  generalize hplace : Place.entry loc e = place at h
  induction h with
  | arrive hget =>
    cases hplace
    cases walks_of_walk h' with
    | arrive hget' =>
      rcases hloses.get?_cases hget with hnone | ⟨found, hfound, hway⟩
      · rw [hget'] at hnone
        cases hnone
      · rw [hget'] at hfound
        cases hfound
        exact ⟨rfl, hway⟩
  | stay _ ih => exact ih (walk_dot.symm.trans h') hplace
  | up _ ih => exact ih (walk_dots.symm.trans h') hplace
  | free => cases hplace
  | enter hname hdir _ ih =>
    rcases hloses.get?_cases hdir with hnone | ⟨found, hfound, hway⟩
    · exact absurd h' (walk_ne_entry hname hnone)
    · cases found <;> cases hway
      exact ih ((walk_directory hname hfound).symm.trans h') hplace
  | link hname hlink hfollow =>
    cases hplace
    subst hfollow
    rcases hloses.get?_cases hlink with hnone | ⟨found, hfound, hway⟩
    · exact absurd h' (walk_ne_entry hname hnone)
    · cases found <;> cases hway
      rw [walk_lastLink hname hfound] at h'
      cases h'
      exact ⟨rfl, rfl⟩
  | follow hname hlink htarget hfollow _ ih =>
    rcases hloses.get?_cases hlink with hnone | ⟨found, hfound, hway⟩
    · exact absurd h' (walk_ne_entry hname hnone)
    · cases found <;> cases hway
      exact ih ((walk_link hname hfound htarget hfollow).symm.trans h') hplace
  | stop hname hget hstop =>
    cases hplace
    rcases hloses.get?_cases hget with hnone | ⟨found, hfound, hway⟩
    · exact absurd h' (walk_ne_entry hname hnone)
    · rw [walk_stop hname hfound (hway.trans hstop), if_pos ⟨rfl, rfl⟩] at h'
      cases h'
      exact ⟨rfl, hway⟩

/-- A path that names a directory leads to it. -/
theorem Walks.followed (h : Walks t false links mustBe dir names (.entry loc e))
    (hdir : e.way = .through) : Walks t true links mustBe dir names (.entry loc e) := by
  generalize hplace : Place.entry loc e = place at h
  induction h with
  | arrive hget =>
    cases hplace
    exact .arrive hget
  | stay _ ih => exact .stay (ih hplace)
  | up _ ih => exact .up (ih hplace)
  | free => cases hplace
  | enter hname hget _ ih => exact .enter hname hget (ih hplace)
  | link =>
    cases hplace
    cases hdir
  | follow hname hlink htarget _ _ ih =>
    exact .follow hname hlink htarget (fun hlast => by cases hlast.2.1) (ih hplace)
  | stop _ _ hstop =>
    cases hplace
    rw [hstop] at hdir
    cases hdir

end

section

variable {t t' : Tree} {gone : Location → Prop} {work loc loc' : Location} {path : String}
  {time : Time} {e e' : Entry}

theorem statLink_eq_ok_iff :
    t.statLink work path = .ok (loc, e) ↔ t.locate work false path = .ok (.entry loc e) := by
  unfold statLink
  split <;> simp_all

theorem LosesAll.eq_of_statLink (hloses : t.LosesAll t' gone)
    (h : t.statLink work path = .ok (loc, e)) (h' : t'.statLink work path = .ok (loc', e')) :
    loc' = loc ∧ e'.way = e.way := by
  have hwalks := (walks_of_locate (statLink_eq_ok_iff.mp h)).2
  have hwalks' := (walks_of_locate (statLink_eq_ok_iff.mp h')).2
  exact hwalks.eq_of_losesAll hloses hwalks'.walk_eq

theorem stat_of_statLink (h : t.statLink work path = .ok (loc, .directory time)) :
    t.stat work path = .ok (loc, .directory time) := by
  obtain ⟨hne, hshort, hwalks⟩ := locate_eq_ok_iff.mp (statLink_eq_ok_iff.mp h)
  exact stat_of_locate (locate_eq_ok_iff.mpr ⟨hne, hshort, hwalks.followed rfl⟩)

/-- Where the path leads nowhere without the slashes at its end, it leads nowhere with them. -/
theorem pathExists_of_withoutEndSlashes {f : Fault}
    (h : t.statLink work (withoutEndSlashes path) = .error f) : t.pathExists work path = false := by
  unfold pathExists
  split
  · next found hstat =>
    obtain ⟨loc, e, hplace⟩ := exists_locate_withoutEndSlashes (statLink_eq_ok_iff.mp hstat)
    rw [statLink_eq_ok_iff.mpr hplace] at h
    cases h
  · rfl

end

/-! ## Removing a directory -/

theorem isBelow_iff {top l : Location} : isBelow top l = true ↔ top <+: l ∧ l ≠ top := by
  rw [isBelow, Bool.and_eq_true, List.isPrefixOf_iff_prefix, decide_eq_true_eq]
  constructor
  · rintro ⟨hstart, hlength⟩
    refine ⟨hstart, ?_⟩
    rintro rfl
    omega
  · rintro ⟨hstart, hne⟩
    refine ⟨hstart, ?_⟩
    have hle := hstart.length_le
    have hlength : l.length ≠ top.length := fun h => hne (hstart.eq_of_length h.symm).symm
    omega

section

variable {t : Tree} {work top loc l : Location} {time old : Time} {path : String}

theorem get?_removeBelow_of_isBelow (h : isBelow top l = true) :
    (t.removeBelow time top).get? l = none := by
  have hne : l ≠ top := (isBelow_iff.mp h).2
  unfold removeBelow
  split
  · rw [get?_stamp, if_neg hne, Tree.get?, lookup_filter (fun loc => !isBelow top loc), h]
    rfl
  · next hnone =>
    cases hget : t.get? l with
    | none => rfl
    | some e =>
      obtain ⟨before, after, heq, -⟩ := List.lookup_eq_some_iff.mp hget
      refine absurd (List.any_eq_true.mpr ⟨(l, e), ?_, h⟩) hnone
      rw [heq]
      simp

theorem get?_removeBelow_of_not (h : ¬ isBelow top l = true) :
    (t.removeBelow time top).get? l = t.get? l ∨
      l = top ∧ (t.removeBelow time top).get? l = (t.get? l).map (Entry.withModified time) := by
  unfold removeBelow
  split
  · rw [get?_stamp, Tree.get?, lookup_filter (fun loc => !isBelow top loc),
      Bool.eq_false_iff.mpr h]
    split
    · next hl => exact .inr ⟨hl, rfl⟩
    · exact .inl rfl
  · exact .inl rfl

/-- A directory that is to be removed is emptied first. What happens then depends on where the path
leads in the tree that is left. -/
theorem removeDirectoryAll_cases (h : t.stat work path = .ok (loc, .directory old)) (time : Time) :
    let emptied := t.removeBelow time loc
    let left := emptied.statLink work (withoutEndSlashes path)
    (∃ f, t.removeDirectoryAll work time path = (some f, emptied)) ∨
    left = .error .notFound ∧ t.removeDirectoryAll work time path = (none, emptied) ∨
    (∃ loc' time', left = .ok (loc', .directory time')) ∧
      t.removeDirectoryAll work time path = (none, emptied.remove time loc) := by
  intro emptied left
  rw [removeDirectoryAll, h]
  dsimp only
  cases lastElement? path with
  | none => exact .inl ⟨_, rfl⟩
  | some last =>
    dsimp only
    split
    · next hleft => exact .inr (.inl ⟨hleft, rfl⟩)
    · exact .inl ⟨_, rfl⟩
    · next loc' time' hleft =>
      split
      · exact .inl ⟨_, rfl⟩
      · split
        · exact .inl ⟨_, rfl⟩
        · exact .inr (.inr ⟨⟨loc', time', hleft⟩, rfl⟩)
    · exact .inl ⟨_, rfl⟩

end

end Tree

namespace Disk

/-! ## What cleaning removes -/

/-- The path names this entry, a link at its end taken for itself. -/
def Names (d : Disk) (path : String) (loc : Location) (e : Entry) : Prop :=
  d.tree.statLink d.work path = .ok (loc, e)

/-- The other disk has nothing at these locations and the same entries at all others, but for the
time of the directory that something was taken out of. -/
structure Removes (d d' : Disk) (gone : Location → Prop) (dir : Location) : Prop where
  work : d'.work = d.work
  time : d'.time = d.time
  missing : ∀ l, gone l → d'.tree.get? l = none
  kept : ∀ l, ¬ gone l → d'.tree.get? l = d.tree.get? l ∨
    l = dir ∧ d'.tree.get? l = (d.tree.get? l).map (Entry.withModified d.time)

section

variable {d d' : Disk} {gone : Location → Prop} {dir loc : Location} {path : String} {e : Entry}

theorem Removes.losesAll (h : d.Removes d' gone dir) : d.tree.LosesAll d'.tree gone where
  missing := h.missing
  same l hl := by
    rcases h.kept l hl with hsame | ⟨-, hstamped⟩
    · rw [Tree.way?, hsame, Tree.way?]
    · rw [Tree.way?, hstamped, Tree.way?]
      cases d.tree.get? l <;> simp

/-- The path of an entry that is gone leads nowhere. -/
theorem Removes.pathExists_eq_false (h : d.Removes d' gone dir) (hnames : d.Names path loc e)
    (hgone : gone loc) : d'.tree.pathExists d'.work path = false := by
  unfold Tree.pathExists
  rw [h.work]
  split
  · next found hstat =>
    obtain ⟨loc', e'⟩ := found
    obtain ⟨rfl, -⟩ := h.losesAll.eq_of_statLink hnames hstat
    have hget : d'.tree.get? loc' = some e' :=
      Tree.isEndOf_of_locate (Tree.statLink_eq_ok_iff.mp hstat)
    rw [h.missing loc' hgone] at hget
    cases hget
  · rfl

theorem removes_remove (d : Disk) (loc : Location) :
    d.Removes (d.withTree (d.tree.remove d.time loc)) (· = loc) loc.dropLast where
  work := rfl
  time := rfl
  missing l hl := by
    have hway := d.tree.way?_remove d.time loc l
    rw [if_pos hl] at hway
    exact Option.map_eq_none_iff.mp hway
  kept l hl := by
    have hget : (d.tree.remove d.time loc).get? l = _ := Tree.get?_stamp _ _ _ l
    rw [Tree.get?_erase, if_neg hl] at hget
    split at hget
    · next habove => exact .inr ⟨habove, hget⟩
    · exact .inl hget

theorem removes_removeBelow (d : Disk) (top : Location) :
    d.Removes (d.withTree (d.tree.removeBelow d.time top)) (fun l => Tree.isBelow top l = true)
      top where
  work := rfl
  time := rfl
  missing _ hl := Tree.get?_removeBelow_of_isBelow hl
  kept _ hl := Tree.get?_removeBelow_of_not hl

/-- A directory that is emptied and then removed is gone with all that was below it. -/
theorem removes_removeAll (d : Disk) (top : Location) :
    d.Removes (d.withTree ((d.tree.removeBelow d.time top).remove d.time top)) (top <+: ·)
      top.dropLast := by
  have hbelow := d.removes_removeBelow top
  have hitself := (d.withTree (d.tree.removeBelow d.time top)).removes_remove top
  refine ⟨rfl, rfl, fun l hl => ?_, fun l hl => ?_⟩
  · by_cases htop : l = top
    · exact hitself.missing l htop
    · have hget := hbelow.missing l (Tree.isBelow_iff.mpr ⟨hl, htop⟩)
      rcases hitself.kept l htop with hsame | ⟨-, hstamped⟩
      · exact hsame.trans hget
      · rw [hget] at hstamped
        exact hstamped
  · have htop : l ≠ top := by
      rintro rfl
      exact hl (List.prefix_refl l)
    have hget : (d.tree.removeBelow d.time top).get? l = d.tree.get? l :=
      (hbelow.kept l fun hb => hl (Tree.isBelow_iff.mp hb).1).resolve_right fun h => htop h.1
    have hkept := hitself.kept l htop
    rwa [show (d.withTree (d.tree.removeBelow d.time top)).tree.get? l = _ from hget] at hkept

end

/-! ## Every cleaning -/

/-- How cleaning ends. What it removes is the entry that the path names, a directory with all that
is below it. A directory that cannot be taken out by this path is emptied, and stays. -/
inductive Cleans (d : Disk) (path : String) (recursive : Bool) :
    Except BuildError Unit → Disk → Prop
  | nothing (habsent : d.tree.pathExists d.work path = false) : Cleans d path recursive (.ok ()) d
  | failed (problem : BuildError) : Cleans d path recursive (.error problem) d
  | taken {d' : Disk} {loc : Location} {e : Entry} (hnames : d.Names path loc e)
      (hother : e.isDirectory = false) (hslash : Tree.endsInSlash path = false)
      (hremoves : d.Removes d' (· = loc) loc.dropLast) : Cleans d path recursive (.ok ()) d'
  | removed {d' : Disk} {loc : Location} {time : Time} (hrecursive : recursive = true)
      (hnames : d.Names path loc (.directory time))
      (hremoves : d.Removes d' (loc <+: ·) loc.dropLast) : Cleans d path recursive (.ok ()) d'
  | emptied {d' : Disk} {loc : Location} {time : Time} {result : Except BuildError Unit}
      (hrecursive : recursive = true) (hnames : d.Names path loc (.directory time))
      (hremoves : d.Removes d' (fun l => Tree.isBelow loc l = true) loc)
      (habsent : result = .ok () → d'.tree.pathExists d'.work path = false) :
      Cleans d path recursive result d'

section

variable {d d' : Disk} {base path : String} {recursive : Bool} {loc : Location} {e : Entry}

/-- Where cleaning goes well, nothing is at the path any more. -/
theorem Cleans.pathExists_eq_false {result : Except BuildError Unit}
    (h : d.Cleans path recursive result d') (hok : result = .ok ()) :
    d'.tree.pathExists d'.work path = false := by
  cases h with
  | nothing habsent => exact habsent
  | failed => cases hok
  | taken hnames _ _ hremoves => exact hremoves.pathExists_eq_false hnames rfl
  | removed _ hnames hremoves => exact hremoves.pathExists_eq_false hnames (List.prefix_refl _)
  | emptied _ _ _ habsent => exact habsent hok

/-- A file or a link is removed by its name, but not with a slash behind the name. -/
theorem removeFile_of_names (h : d.Names path loc e) (hother : e.isDirectory = false) :
    (Tree.endsInSlash path = false →
      d.tree.removeFile d.work d.time path = .ok (d.tree.remove d.time loc)) ∧
    (Tree.endsInSlash path = true → ∃ f, d.tree.removeFile d.work d.time path = .error f) := by
  have hplace := Tree.statLink_eq_ok_iff.mp h
  constructor
  · intro hslash
    rw [Tree.removeFile, Tree.withoutEndSlashes_eq_self hslash, hplace]
    cases e with
    | directory time => cases hother
    | file | link | tool | nullDevice => simp [hslash]
  · intro hslash
    obtain ⟨loc', e', hkept⟩ := Tree.exists_locate_withoutEndSlashes hplace
    rw [Tree.removeFile, hkept]
    cases e' <;> simp [hslash]

/-- How a directory is cleaned that may be removed. -/
theorem cleans_removeDirectoryAll {time : Time} {f? : Option Fault} {t : Tree}
    (h : d.Names path loc (.directory time))
    (hremove : d.tree.removeDirectoryAll d.work d.time path = (f?, t)) :
    (∃ f, f? = some f ∧ d.Removes (d.withTree t) (fun l => Tree.isBelow loc l = true) loc) ∨
    f? = none ∧ d.Cleans path true (.ok ()) (d.withTree t) := by
  have hbelow := d.removes_removeBelow loc
  rcases Tree.removeDirectoryAll_cases (Tree.stat_of_statLink h) d.time with
    ⟨f, heq⟩ | ⟨hleft, heq⟩ | ⟨-, heq⟩ <;> cases hremove.symm.trans heq
  · exact .inl ⟨f, rfl, hbelow⟩
  · refine .inr ⟨rfl, .emptied rfl h hbelow fun _ => ?_⟩
    exact Tree.pathExists_of_withoutEndSlashes hleft
  · exact .inr ⟨rfl, .removed rfl h (d.removes_removeAll loc)⟩

theorem clean_cleans (d : Disk) (base path : String) (recursive : Bool) :
    d.Cleans (pathFrom base path) recursive (d.clean base path recursive).1
      (d.clean base path recursive).2 := by
  unfold clean
  dsimp only
  split
  · exact .failed _
  split
  · next hstat =>
    refine .nothing ?_
    rw [Tree.pathExists, hstat]
  · exact .failed _
  · next loc time hnames =>
    split
    · next hrecursive =>
      subst hrecursive
      split
      · next t hremove =>
        obtain ⟨f, hf, -⟩ | ⟨-, hcleans⟩ := cleans_removeDirectoryAll hnames hremove
        · cases hf
        · exact hcleans
      · next f t hremove =>
        obtain ⟨_, -, hremoves⟩ | ⟨hnone, -⟩ := cleans_removeDirectoryAll hnames hremove
        · exact .emptied rfl hnames hremoves nofun
        · cases hnone
    · exact .failed _
  · next found hdirectory hnames =>
    obtain ⟨loc, e⟩ := found
    have hother : e.isDirectory = false := by
      cases e with
      | directory time => exact absurd rfl (hdirectory loc time)
      | file | link | tool | nullDevice => rfl
    obtain ⟨hremoves, hfails⟩ := removeFile_of_names hnames hother
    cases hslash : Tree.endsInSlash (pathFrom base path) with
    | false =>
      rw [hremoves hslash]
      exact .taken hnames hother hslash (d.removes_remove loc)
    | true =>
      obtain ⟨f, hf⟩ := hfails hslash
      rw [hf]
      exact .failed _

/-- A directory behind a link that is named with a slash is emptied and not removed: without the
slash, the path names the link. -/
theorem removes_of_link {target : String} {top : Location} {time : Time}
    (hlink : d.Names (Tree.withoutEndSlashes path) loc (.link target))
    (hnames : d.Names path top (.directory time)) :
    d.Removes (d.withTree (d.tree.removeDirectoryAll d.work d.time path).2)
      (fun l => Tree.isBelow top l = true) top := by
  have hbelow := d.removes_removeBelow top
  rcases Tree.removeDirectoryAll_cases (Tree.stat_of_statLink hnames) d.time with
    ⟨f, heq⟩ | ⟨-, heq⟩ | ⟨⟨loc', time', hleft⟩, -⟩
  · rw [heq]
    exact hbelow
  · rw [heq]
    exact hbelow
  · have hway := (hbelow.losesAll.eq_of_statLink hlink hleft).2
    cases hway

section

variable (hzero : hasZero (Path.join base path) = false)
include hzero

theorem clean_of_file (hnames : d.Names (pathFrom base path) loc e)
    (hother : e.isDirectory = false) (hslash : Tree.endsInSlash (pathFrom base path) = false)
    (recursive : Bool) :
    d.clean base path recursive = (.ok (), d.withTree (d.tree.remove d.time loc)) := by
  rw [clean, hzero, show d.tree.statLink d.work (pathFrom base path) = _ from hnames,
    (removeFile_of_names hnames hother).1 hslash]
  cases e with
  | directory time => cases hother
  | file | link | tool | nullDevice => rfl

theorem clean_of_directory {time : Time}
    (hnames : d.Names (pathFrom base path) loc (.directory time)) :
    d.clean base path false = (.error (.command (.isDirectory path)), d) ∧
    (d.clean base path true).2 =
      d.withTree (d.tree.removeDirectoryAll d.work d.time (pathFrom base path)).2 := by
  rw [clean, clean, hzero, show d.tree.statLink d.work (pathFrom base path) = _ from hnames]
  refine ⟨rfl, ?_⟩
  generalize d.tree.removeDirectoryAll d.work d.time (pathFrom base path) = removed
  obtain ⟨_ | f, t⟩ := removed <;> rfl

end

/-- Cleaning removes the entry that a path names, a directory only if that is asked for and then
with all that is below it, and nothing else; if it goes well, the path leads nowhere afterwards. A
directory is refused otherwise. A file or a link that is named without a slash is removed, whatever
the link leads to. But with a slash behind the name of a link to a directory, and if directories may
be removed, all that is below that directory is removed, and the directory itself is not. -/
theorem clean_removes_what_is_named (d : Disk) (base path : String) :
    let full := pathFrom base path
    let after := d.clean base path
    (∀ recursive, d.Cleans full recursive (after recursive).1 (after recursive).2 ∧
      ((after recursive).1 = .ok () →
        (after recursive).2.pathExists (Path.join base path) = false)) ∧
    (∀ loc time, hasZero (Path.join base path) = false → d.Names full loc (.directory time) →
      after false = (.error (.command (.isDirectory path)), d)) ∧
    (∀ loc e recursive, hasZero (Path.join base path) = false → d.Names full loc e →
      e.isDirectory = false → Tree.endsInSlash full = false →
      (after recursive).1 = .ok () ∧ d.Removes (after recursive).2 (· = loc) loc.dropLast) ∧
    ∀ loc target top time, hasZero (Path.join base path) = false →
      d.Names (Tree.withoutEndSlashes full) loc (.link target) →
      d.Names full top (.directory time) →
      d.Removes (after true).2 (fun l => Tree.isBelow top l = true) top := by
  intro full after
  refine ⟨fun recursive => ?_, fun loc time hzero hnames => ?_,
    fun loc e recursive hzero hnames hother hslash => ?_,
    fun loc target top time hzero hlink hnames => ?_⟩
  · have hcleans := d.clean_cleans base path recursive
    exact ⟨hcleans, hcleans.pathExists_eq_false⟩
  · exact (clean_of_directory hzero hnames).1
  · rw [show after recursive = _ from clean_of_file hzero hnames hother hslash recursive]
    exact ⟨rfl, d.removes_remove loc⟩
  · rw [(clean_of_directory hzero hnames).2]
    exact removes_of_link hlink hnames

end

/-- A disk with a file in a directory, and a link to the directory. -/
def linkedDirectory : Disk :=
  let tree := Tree.initial 0
  let tree := tree.insert 0 ["box", "work", "d"] (.directory 0)
  let tree := tree.insert 0 ["box", "work", "d", "f"] (.file ⟨#[120]⟩ 0 false)
  { tree := tree.insert 0 ["box", "work", "l"] (.link "d"), time := 7 }

theorem linkedDirectory_spec :
    linkedDirectory.tree.get? ["box", "work", "l"] = some (.link "d") ∧
    ∃ time, linkedDirectory.tree.get? ["box", "work", "d"] = some (.directory time) := by
  have hways : linkedDirectory.tree.way? ["box", "work", "l"] = some (.link "d") ∧
      linkedDirectory.tree.way? ["box", "work", "d"] = some .through := by
    decide
  obtain ⟨e, hlink, hway⟩ := Option.map_eq_some_iff.mp hways.1
  obtain ⟨e', hdir, hway'⟩ := Option.map_eq_some_iff.mp hways.2
  cases e <;> cases hway
  cases e' <;> cases hway'
  exact ⟨hlink, _, hdir⟩

/-- The link is removed, and the file that it led to stays. With a slash the link stays, and what is
in the directory is removed. -/
theorem clean_removes_what_is_named_link :
    (linkedDirectory.Names (pathFrom "." "l") ["box", "work", "l"] (.link "d") ∧
      (linkedDirectory.clean "." "l" true).1 = .ok () ∧
      linkedDirectory.Removes (linkedDirectory.clean "." "l" true).2 (· = ["box", "work", "l"])
        ["box", "work"]) ∧
    (∃ time, linkedDirectory.Names (pathFrom "." "l/") ["box", "work", "d"] (.directory time)) ∧
    linkedDirectory.Removes (linkedDirectory.clean "." "l/" true).2
      (fun l => Tree.isBelow ["box", "work", "d"] l = true) ["box", "work", "d"] := by
  obtain ⟨hlink, time, hdir⟩ := linkedDirectory_spec
  have hname : ∀ name ∈ ["l", "d"], Tree.IsStep name := by
    intro name hname
    obtain rfl | rfl : name = "l" ∨ name = "d" := by simpa using hname
    · exact ⟨by decide, by decide, by decide⟩
    · exact ⟨by decide, by decide, by decide⟩
  have hpaths : ∀ path ∈ ["l", "l/"], pathFrom "." path ≠ "" ∧
      ¬ Tree.isTooLongPath (pathFrom "." path) = true ∧
      Tree.pathElements (pathFrom "." path) = [".", "l"] ∧
      Tree.startOf linkedDirectory.work (pathFrom "." path) = ["box", "work"] ∧
      Tree.endsInSlash (pathFrom "." path) = (path == "l/") ∧
      hasZero (Path.join "." path) = false ∧
      Tree.withoutEndSlashes (pathFrom "." path) = pathFrom "." "l" := by
    with_unfolding_all decide
  obtain ⟨hpath, hshort, helements, hstart, hslash, hzero, -⟩ := hpaths "l" (by decide)
  obtain ⟨hpath', hshort', helements', hstart', hslash', hzero', hkept⟩ :=
    hpaths "l/" (by decide)
  have hnames : linkedDirectory.Names (pathFrom "." "l") ["box", "work", "l"] (.link "d") := by
    refine Tree.statLink_eq_ok_iff.mpr (Tree.locate_eq_ok_iff.mpr ⟨hpath, hshort, ?_⟩)
    rw [helements, hstart, hslash]
    exact .stay (.link (hname "l" (by decide)) hlink rfl)
  have hnames' : linkedDirectory.Names (pathFrom "." "l/") ["box", "work", "d"]
      (.directory time) := by
    refine Tree.statLink_eq_ok_iff.mpr (Tree.locate_eq_ok_iff.mpr ⟨hpath', hshort', ?_⟩)
    rw [helements', hstart', hslash']
    have htarget : (if "d".startsWith "/" then [] else ["box", "work"]) = ["box", "work"] ∧
        Tree.pathElements "d" ++ [] = ["d"] := by
      with_unfolding_all decide
    refine .stay (.follow (hname "l" (by decide)) hlink (by decide) (fun h => by cases h.2.2) ?_)
    rw [htarget.1, htarget.2]
    exact .enter (hname "d" (by decide)) hdir (.arrive hdir)
  have hclean := clean_removes_what_is_named linkedDirectory "."
  exact ⟨⟨hnames, (hclean "l").2.2.1 _ _ true hzero hnames rfl hslash⟩, ⟨time, hnames'⟩,
    (hclean "l/").2.2.2 _ _ _ time hzero' (hkept ▸ hnames) hnames'⟩

/-- With a slash behind the link, the file in the directory is lost. -/
theorem clean_behind_link_empties_directory :
    linkedDirectory.readFile "d/f" = .ok ⟨#[120]⟩ ∧
    (linkedDirectory.clean "." "l/" true).1 = .error (.file "./l/" .notDirectory) ∧
    (linkedDirectory.clean "." "l/" true).2.readFile "d/f" = .error .notFound ∧
    (linkedDirectory.clean "." "l/" true).2.pathExists "l" = true := by
  with_unfolding_all decide

end Disk

end BuildTool
