import BuildTool.Proofs.Archive.Room
import Mathlib.Data.List.Infix

/-!
# What unpacking stays inside of

An archive is unpacked into a directory and changes nothing outside of it, whatever its entries are
called and whatever they are. The directory must be free of links. An entry that is refused ends the
unpacking, and leaves what the entries before it have made:

    unpack dir (before ++ refused :: after) d  =  (error, d')   with   unpack dir before d = (ok, d')

What there is room for is unpacked, and it is there afterwards, but for the entries without a name of
their own, such as `.`, which are passed over.

## Sections

* changes inside a directory;
* one entry;
* every archive.
-/

namespace BuildTool

open BuildTool.Tree

/-! ## Changes inside a directory -/

@[simp] theorem Entry.withModified_modified (e : Entry) : e.withModified e.modified = e := by
  cases e <;> rfl

namespace Tree

/-- The other tree differs at a location and in the time of the directory that it is in. -/
structure DiffersAt (t t' : Tree) (loc : Location) : Prop where
  same : ∀ l, l ≠ loc → l ≠ loc.dropLast → t'.get? l = t.get? l
  above : ∃ time, t'.get? loc.dropLast = (t.get? loc.dropLast).map (Entry.withModified time)

section

variable {t t' : Tree} (time : Time) {loc : Location} (e : Entry) (hloc : loc ≠ [])
include hloc

/-- Something is put where nothing stood, or where something is taken away before. -/
theorem differsAt_insert (h : t' = t ∨ t' = t.remove time loc) :
    t.DiffersAt (t'.insert time loc e) loc := by
  have hparent : loc.dropLast ≠ loc := by
    intro he
    have := congrArg List.length he
    have := List.length_pos_of_ne_nil hloc
    rw [List.length_dropLast] at *
    omega
  have hget : ∀ l, l ≠ loc → ((t'.put loc e).get? l = t.get? l ∨ l = loc.dropLast ∧
      (t'.put loc e).get? l = (t.get? l).map (Entry.withModified time)) := by
    intro l hl
    rw [get?_put, if_neg hl]
    obtain rfl | rfl := h
    · exact .inl rfl
    · rw [remove, get?_stamp, get?_erase, if_neg hl]
      split
      · next habove => exact .inr ⟨habove, rfl⟩
      · exact .inl rfl
  constructor
  · intro l hl habove
    rw [insert, get?_stamp, if_neg habove]
    exact (hget l hl).resolve_right fun h => habove h.1
  · refine ⟨time, ?_⟩
    rw [insert, get?_stamp, if_pos rfl]
    obtain hsame | ⟨-, hstamped⟩ := hget _ hparent
    · rw [hsame]
    · rw [hstamped, Option.map_map]
      cases t.get? loc.dropLast <;> simp

end

end Tree

namespace Disk

/-- The other disk differs inside the directory that a path leads to: nothing outside of it is
changed, and the directory itself has another time at most. If there is no such directory, nothing is
changed at all. -/
structure ChangesInside (dir : String) (d d' : Disk) : Prop where
  fills : d.Fills d'
  missing : (∀ top e, d.tree.stat d.work dir ≠ .ok (top, e)) → d' = d
  outside : ∀ top e, d.tree.stat d.work dir = .ok (top, e) → ∀ loc, ¬ top <+: loc →
    d'.tree.get? loc = d.tree.get? loc
  itself : ∀ top e, d.tree.stat d.work dir = .ok (top, e) →
    ∃ time, d'.tree.get? top = some (e.withModified time)

/-- No link stands in the directory that a path leads to. -/
def ContainsNoLinks (d : Disk) (dir : String) : Prop :=
  ∀ top e, d.tree.stat d.work dir = .ok (top, e) → d.tree.IsLinkFree top

namespace ChangesInside

variable {d d' d'' : Disk} {dir : String}

theorem refl (dir : String) (d : Disk) : ChangesInside dir d d where
  fills := .refl d
  missing _ := rfl
  outside _ _ _ _ _ := rfl
  itself top e hstat := ⟨e.modified, by rw [e.withModified_modified]; exact get?_of_stat hstat⟩

theorem trans (h : ChangesInside dir d d') (h' : ChangesInside dir d' d'') :
    ChangesInside dir d d'' where
  fills := h.fills.trans h'.fills
  missing hmissing := by
    obtain rfl := h.missing hmissing
    exact h'.missing hmissing
  outside top e hstat loc hloc := by
    obtain ⟨e', hstat'⟩ := h.fills.stat hstat
    rw [h'.outside top e' hstat' loc hloc, h.outside top e hstat loc hloc]
  itself top e hstat := by
    obtain ⟨e', hstat'⟩ := h.fills.stat hstat
    obtain ⟨time, hget⟩ := h.itself top e hstat
    obtain ⟨time', hget'⟩ := h'.itself top e' hstat'
    obtain rfl : e' = e.withModified time :=
      Option.some.inj ((get?_of_stat hstat').symm.trans hget)
    exact ⟨time', by rw [hget', e.withModified_withModified]⟩

theorem containsNoLinks (h : ChangesInside dir d d') (hlinks : d.ContainsNoLinks dir) :
    d'.ContainsNoLinks dir := by
  intro top e hstat
  by_cases hmissing : ∀ top e, d.tree.stat d.work dir ≠ .ok (top, e)
  · rw [h.missing hmissing] at hstat
    exact absurd hstat (hmissing top e)
  · obtain ⟨top', e', hstat'⟩ : ∃ top e, d.tree.stat d.work dir = .ok (top, e) := by
      simpa using hmissing
    obtain ⟨e'', hstat''⟩ := h.fills.stat hstat'
    cases hstat.symm.trans hstat''
    exact (hlinks top e' hstat').of_fills h.fills.tree

/-- A change at a location below the directory. -/
theorem of_differsAt {t : Tree} {top below : Location} {e : Entry}
    (hstat : d.tree.stat d.work dir = .ok (top, e)) (hbelow : below ≠ []) (hfills : d.tree.Fills t)
    (h : d.tree.DiffersAt t (top ++ below)) : ChangesInside dir d (d.withTree t) where
  fills := ⟨rfl, hfills⟩
  missing hmissing := absurd hstat (hmissing top e)
  outside top' e' hstat' loc hloc := by
    cases hstat.symm.trans hstat'
    refine h.same loc ?_ ?_
    · rintro rfl
      exact hloc (List.prefix_append _ _)
    · rintro rfl
      rw [List.dropLast_append_of_ne_nil hbelow] at hloc
      exact hloc (List.prefix_append _ _)
  itself top' e' hstat' := by
    cases hstat.symm.trans hstat'
    have hget : d.tree.get? top = some e := get?_of_stat hstat
    by_cases habove : top = (top ++ below).dropLast
    · obtain ⟨time, htime⟩ := h.above
      rw [← habove, hget, Option.map_some] at htime
      exact ⟨time, htime⟩
    · refine ⟨e.modified, ?_⟩
      rw [e.withModified_modified, ← hget]
      refine h.same top (fun he => hbelow ?_) habove
      simpa using he

end ChangesInside

/-! ## One entry -/

section

variable {d d' : Disk} {dir : String} {top : Location} {old : Entry}

/-- The directories on the way to an entry are made inside. -/
theorem makeInside?_changesInside {paths : List String} {left : Disk} {made : Option Disk}
    (hplain : ∀ path ∈ paths, Path.IsPlain path)
    (h : makeInside? dir paths d = (made, left)) :
    ChangesInside dir d left ∧ ∀ d', made = some d' → ChangesInside dir d d' := by
  induction paths generalizing d with
  | nil =>
    cases h
    refine ⟨.refl dir _, ?_⟩
    rintro _ ⟨⟩
    exact .refl dir _
  | cons path rest ih =>
    obtain ⟨hpath, hrest⟩ := List.forall_mem_cons.mp hplain
    unfold makeInside? at h
    split at h
    · cases h
      exact ⟨.refl dir _, fun _ hnone => by cases hnone⟩
    next hguard =>
    have hmade : ChangesInside dir d (d.makeWay path).2 := by
      cases hparents : Path.parents path with
      | nil =>
        rw [makeWay_of_nil hpath hparents]
        exact .refl dir d
      | cons above higher =>
        have hinside : d.isInside dir above = true := by
          rw [hparents] at hguard
          simpa using (not_or.mp hguard).2
        obtain ⟨top, e, inner, _, hstat, habove⟩ := exists_stat_of_isInside hinside
        obtain hsame | ⟨name, hfree, hmakes⟩ := makeWay_of_above hpath hparents habove
        · rw [hsame]
          exact .refl dir d
        · rw [hmakes]
          rw [List.append_assoc] at hfree ⊢
          exact .of_differsAt hstat (by simp)
            (.insert hfree (fun _ hlink => by cases hlink) d.time)
            (differsAt_insert d.time _ (by simp) (.inl rfl))
    split at h
    · next hfault =>
      cases h
      rw [hfault] at hmade
      exact ⟨hmade, fun _ hnone => by cases hnone⟩
    · next hnone =>
      rw [hnone] at hmade
      obtain ⟨hleft, hright⟩ := ih hrest h
      exact ⟨hmade.trans hleft, fun d' hd' => hmade.trans (hright d' hd')⟩

/-- An entry is placed inside. -/
theorem place_changesInside {steps : List String} {e : ArchiveEntry} {went : Bool}
    (hlinks : d.tree.IsLinkFree top) (hstat : d.tree.stat d.work dir = .ok (top, old))
    (hsteps : ∀ name ∈ steps, Path.IsElement name) (hne : steps ≠ [])
    (h : d.place (Path.below dir steps) e = (went, d')) : ChangesInside dir d d' := by
  have hloc : top ++ steps ≠ [] := by simp [hne]
  unfold place at h
  split at h
  · cases h
    exact .refl dir d
  · split at h
    · split at h
      · next hplaced =>
        cases h
        obtain ⟨-, ⟨-, rfl⟩ | ⟨hfree, rfl⟩⟩ := placeDirectory?_cases hlinks hstat hsteps hne hplaced
        · exact .refl dir _
        · exact .of_differsAt hstat hne (.insert hfree (fun _ hlink => by cases hlink) d.time)
            (differsAt_insert d.time _ hloc (.inl rfl))
      · cases h
        exact .refl dir d
    · dsimp only at h
      generalize hplaced : d.placeFile (Path.below dir steps) _ = placed at h
      obtain ⟨made, d₁⟩ := placed
      cases h
      obtain ⟨-, rfl⟩ | ⟨-, -, t, hplace, rfl⟩ := placeFile_cases hlinks hstat hsteps hne hplaced
      · exact .refl dir _
      · exact .of_differsAt hstat hne (fills_of_replace hplace rfl)
          (differsAt_insert d.time _ hloc (hplace.imp And.right And.right))

theorem unpackEntry_changesInside {e : ArchiveEntry} {result : Except BuildError Unit}
    (hlinks : d.ContainsNoLinks dir) (h : d.unpackEntry dir e = (result, d')) :
    ChangesInside dir d d' := by
  cases ends_unpackEntry h with
  | unsupported | escapes | passed => exact .refl dir d
  | blocked _ hplain hinside => exact (makeInside?_changesInside hplain hinside).1
  | outside _ hplain hinside => exact (makeInside?_changesInside hplain hinside).2 d' rfl
  | @placed steps _ d₁ _ _ went _ hname hne hplain hinside hparent hplace =>
    have hmade := (makeInside?_changesInside hplain hinside).2 d₁ rfl
    obtain ⟨top, old, _, _, hstat, -⟩ := exists_stat_of_isInside hparent
    exact hmade.trans (place_changesInside (hmade.containsNoLinks hlinks top old hstat) hstat
      (ArchiveEntry.isElement_of_mem_steps hname) hne hplace)

end

end Disk

namespace ArchiveEntry

/-- An entry that is unpacked nowhere: it is neither a directory nor a regular file, or its name goes
upwards. -/
def IsRefused (e : ArchiveEntry) : Prop :=
  ¬ (e.kind = .directory ∨ e.kind = .regular) ∨ ['.', '.'] ∈ Path.elements e.nameOctets

/-- What is said of an entry that is refused. -/
def refusal (e : ArchiveEntry) (dir : String) : BuildError :=
  .command (if e.kind = .directory ∨ e.kind = .regular then
    .entryEscapes e.nameText (Text.fromOctets dir) else .unsupportedEntry e.kind)

theorem steps?_eq_none_iff {e : ArchiveEntry} :
    e.steps? = none ↔ ['.', '.'] ∈ Path.elements e.nameOctets := by
  have hmem : ['.', '.'] ∈ (Path.elements e.nameOctets).filter (fun s => s ≠ [] ∧ s ≠ ['.']) ↔
      ['.', '.'] ∈ Path.elements e.nameOctets := by
    rw [List.mem_filter]
    exact and_iff_left (by decide)
  rw [← hmem, ← List.contains_iff_mem, steps?]
  split
  · next hup => exact iff_of_true rfl hup
  · next hup => exact iff_of_false nofun hup

end ArchiveEntry

namespace Disk

theorem unpackEntry_of_isRefused {e : ArchiveEntry} (h : e.IsRefused) (dir : String) (d : Disk) :
    d.unpackEntry dir e = (.error (e.refusal dir), d) := by
  unfold unpackEntry ArchiveEntry.refusal
  dsimp only
  split
  · next hkind => rw [if_neg (not_or.mpr hkind)]
  · next hkind =>
    have hkind : e.kind = .directory ∨ e.kind = .regular := by
      by_contra hother
      exact hkind (not_or.mp hother)
    have hname : e.steps? = none :=
      ArchiveEntry.steps?_eq_none_iff.mpr (h.resolve_left fun hother => hother hkind)
    rw [hname, if_pos hkind]

/-! ## Every archive -/

section

variable {d d' : Disk} {dir : String}

theorem unpack_changesInside {items : List ArchiveItem} {result : Except BuildError Unit}
    (hlinks : d.ContainsNoLinks dir) (h : unpack dir items d = (result, d')) :
    ChangesInside dir d d' := by
  induction items generalizing d with
  | nil =>
    cases h
    exact .refl dir _
  | cons item rest ih =>
    cases item with
    | damage =>
      cases h
      exact .refl dir _
    | entry e =>
      rw [unpack] at h
      rcases hentry : d.unpackEntry dir e with ⟨_ | _, d₁⟩ <;> rw [hentry] at h
      · cases h
        exact unpackEntry_changesInside hlinks hentry
      · have hchanges := unpackEntry_changesInside hlinks hentry
        exact hchanges.trans (ih (hchanges.containsNoLinks hlinks) h)

theorem unpack_append (dir : String) (before after : List ArchiveItem) (d : Disk) :
    unpack dir (before ++ after) d =
      match unpack dir before d with
      | (.error problem, d') => (.error problem, d')
      | (.ok (), d') => unpack dir after d' := by
  induction before generalizing d with
  | nil => rfl
  | cons item rest ih =>
    cases item with
    | damage => rfl
    | entry e =>
      rw [List.cons_append, unpack, unpack]
      rcases d.unpackEntry dir e with ⟨_ | _, d₁⟩
      · rfl
      · exact ih d₁

/-- Where there is no directory, nothing is unpacked well but entries without a name. -/
theorem holdsAll_of_missing {items : List ArchiveItem}
    (hmissing : ∀ top e, d.tree.stat d.work dir ≠ .ok (top, e))
    (h : unpack dir items d = (.ok (), d')) : d'.HoldsAll dir items := by
  -- Each entry leaves the disk as it is, so that there is no directory for the next one either.
  have hnameless : ∀ item ∈ items, ∃ e, item = .entry e ∧ e.steps? = some [] ∧
      (e.kind = .directory ∨ e.kind = .regular) := by
    induction items generalizing d with
    | nil => exact nofun
    | cons item rest ih =>
      cases item with
      | damage => cases h
      | entry e =>
        rw [unpack] at h
        rcases hentry : d.unpackEntry dir e with ⟨_ | _, d₁⟩ <;> rw [hentry] at h
        · cases h
        · generalize hresult : Except.ok () = result at hentry
          cases ends_unpackEntry hentry with
          | unsupported | escapes | blocked | outside => cases hresult
          | passed hkind hname =>
            refine List.forall_mem_cons.mpr ⟨⟨e, rfl, hname, hkind⟩, ih hmissing h⟩
          | placed _ _ _ hplain hinside hparent =>
            obtain ⟨top, old, _, _, hstat, -⟩ := exists_stat_of_isInside hparent
            rw [((makeInside?_changesInside hplain hinside).2 _ rfl).missing hmissing] at hstat
            exact absurd hstat (hmissing top old)
  intro before item after heq
  obtain ⟨e, hitem, hname, hkind⟩ := hnameless item (heq ▸ by simp)
  exact ⟨e, [], hitem, hname, hkind, fun hne => absurd rfl hne⟩

/-- What is unpacked well is there. -/
theorem holdsAll_of_ok (hlinks : d.ContainsNoLinks dir) {items : List ArchiveItem}
    (hok : (unpack dir items d).1 = .ok ()) : (unpack dir items d).2.HoldsAll dir items := by
  by_cases hmissing : ∀ top e, d.tree.stat d.work dir ≠ .ok (top, e)
  · exact holdsAll_of_missing hmissing (Prod.ext hok rfl)
  · obtain ⟨top, e, hstat⟩ : ∃ top e, d.tree.stat d.work dir = .ok (top, e) := by
      simpa using hmissing
    exact (unpack_spec (.of_stat hstat (hlinks top e hstat)) (Prod.ext hok rfl)).2 rfl

/-- An archive that there is room for is unpacked well. -/
theorem unpack_eq_ok {items : List ArchiveItem} (hlinks : d.ContainsNoLinks dir)
    (h : FitsAll dir items d) : (unpack dir items d).1 = .ok () := by
  induction items generalizing d with
  | nil => rfl
  | cons item rest ih =>
    cases item with
    | damage => exact h.elim
    | entry e =>
      obtain ⟨⟨top, steps, hroom⟩, hrest⟩ := h
      obtain ⟨time, hstat⟩ := hroom.leads
      have hok := hroom.unpackEntry_eq_ok (hlinks top _ hstat)
      rw [unpack]
      rcases hentry : d.unpackEntry dir e with ⟨_ | _, d₁⟩ <;> rw [hentry] at hok hrest
      · cases hok
      · exact ih ((unpackEntry_changesInside hlinks hentry).containsNoLinks hlinks) hrest

/-- Nothing outside of a directory without links is changed when an archive is unpacked into it. If
that goes well then everything in the archive is there, and it goes well for the entries that there
is room for. With an entry to be refused it does not go well: the entries before the first such entry
are unpacked and nothing else, unless one of them cannot be. -/
theorem unpack_stays_inside (hlinks : d.ContainsNoLinks dir) (items : List ArchiveItem) :
    ChangesInside dir d (unpack dir items d).2 ∧
    ((unpack dir items d).1 = .ok () → (unpack dir items d).2.HoldsAll dir items) ∧
    (∀ before, before <+: items → FitsAll dir before d → (unpack dir before d).1 = .ok ()) ∧
    ∀ before e after, items = before ++ .entry e :: after → e.IsRefused →
      (∃ problem, (unpack dir items d).1 = .error problem) ∧
      ((unpack dir before d).1 = .ok () →
        unpack dir items d = (.error (e.refusal dir), (unpack dir before d).2) ∧
        (unpack dir before d).2.HoldsAll dir before) := by
  refine ⟨unpack_changesInside hlinks rfl, holdsAll_of_ok hlinks, fun _ _ => unpack_eq_ok hlinks, ?_⟩
  rintro before e after rfl hrefused
  have hholds : (unpack dir before d).1 = .ok () → (unpack dir before d).2.HoldsAll dir before :=
    holdsAll_of_ok hlinks
  rw [unpack_append]
  generalize unpack dir before d = done at hholds
  rcases done with ⟨problem | _, d₁⟩
  · exact ⟨⟨problem, rfl⟩, nofun⟩
  · have hentry := unpackEntry_of_isRefused hrefused dir d₁
    dsimp only
    rw [unpack, hentry]
    exact ⟨⟨_, rfl⟩, fun _ => ⟨rfl, hholds rfl⟩⟩

end

def fileEntry (name : List UInt8) (content : UInt8) : ArchiveEntry where
  kind := .regular
  name := name
  isOldStyle := false
  mode := none
  modified := none
  content := [content]
  isWhole := true

/-- There is room for a file in a directory of its own. -/
theorem fitsAll_file : FitsAll "." [.entry (fileEntry [97, 47, 98] 120)] (setUp 0) := by
  have hsteps : (fileEntry [97, 47, 98] 120).steps? = some ["a", "b"] := by decide
  have hfree : ∀ name ∈ [["a"], ["a", "b"]],
      (setUp 0).tree.get? (["box", "work"] ++ name) = none := by decide
  have hleads : (setUp 0).LeadsTo "." ["box", "work"] := by
    have helements : pathElements "." = ["."] := by decide
    have hstart : startOf (setUp 0).work "." = ["box", "work"] := by with_unfolding_all decide
    refine ⟨0, stat_of_locate (locate_eq_ok_iff.mpr ⟨by decide, by decide, ?_⟩)⟩
    rw [helements, hstart]
    exact .stay (.arrive rfl)
  refine ⟨⟨["box", "work"], ["a", "b"], .inr rfl, hsteps, hleads, by decide, ?_, ?_, nofun, ?_⟩,
    trivial⟩
  · have husable : ∀ path ∈ Path.below "." ["a", "b"] :: Path.parents (Path.below "." ["a", "b"]),
        ¬ isTooLongPath path = true ∧ hasZero path = false := by decide
    exact husable
  · rintro before hbefore hne hlast
    have hinits : before ∈ ["a", "b"].inits := (List.mem_inits _ _).mpr hbefore
    have hmiddle : before = ["a"] := by simpa [hne, hlast] using hinits
    exact .inl (hfree before (by simp [hmiddle]))
  · exact fun _ _ => ⟨rfl, .inl (Option.map_eq_none_iff.mpr (hfree ["a", "b"] (by simp)))⟩

/-- A file is unpacked, and the one that goes upwards behind it is not. -/
theorem unpack_stays_inside_upwards : (setUp 0).ContainsNoLinks "." ∧
    let items := [.entry (fileEntry [97, 47, 98] 120), .entry (fileEntry [46, 46, 47, 99] 121)]
    ChangesInside "." (setUp 0) (unpack "." items (setUp 0)).2 ∧
    unpack "." items (setUp 0) = (.error (.command (.entryEscapes "../c" ".")),
      (unpack "." [.entry (fileEntry [97, 47, 98] 120)] (setUp 0)).2) := by
  have hlinks : (setUp 0).ContainsNoLinks "." := fun top e _ => isLinkFree_initial 0 top
  obtain ⟨hchanges, -, hfits, hrefused⟩ := unpack_stays_inside hlinks
    [.entry (fileEntry [97, 47, 98] 120), .entry (fileEntry [46, 46, 47, 99] 121)]
  have hok := hfits [.entry (fileEntry [97, 47, 98] 120)] ⟨_, rfl⟩ fitsAll_file
  refine ⟨hlinks, hchanges, ?_⟩
  exact ((hrefused [.entry (fileEntry [97, 47, 98] 120)] _ [] rfl (.inr (by decide))).2 hok).1

/-- An entry for a regular file is unpacked well onto a disk without files, and there is none
afterwards. -/
def IsLeftOut (file : ArchiveEntry) : Prop :=
  file.kind = .regular ∧ (unpack "." [.entry file] (setUp 0)).1 = .ok () ∧
    ∀ loc, (unpack "." [.entry file] (setUp 0)).2.tree.content? loc = none

theorem IsLeftOut.of_entries {file : ArchiveEntry} (hkind : file.kind = .regular)
    (hok : (unpack "." [.entry file] (setUp 0)).1 = .ok ())
    (hnone : ∀ entry ∈ (unpack "." [.entry file] (setUp 0)).2.tree.entries,
      entry.2.content? = none) : IsLeftOut file :=
  ⟨hkind, hok, content?_eq_none_of_entries hnone⟩

/-- A file whose name has no element but `.` is left out, and so is one whose name ends in a slash in
an old archive. -/
theorem unpack_leaves_out_files : IsLeftOut (fileEntry [46] 120) ∧
    IsLeftOut { fileEntry [97, 47] 120 with isOldStyle := true } := by
  constructor
  · exact .of_entries rfl (by decide) (by decide)
  · exact .of_entries rfl (by with_unfolding_all decide) (by with_unfolding_all decide)

end Disk

end BuildTool
