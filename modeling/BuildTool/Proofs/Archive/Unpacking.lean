import BuildTool.Archive.Unpack
import BuildTool.Proofs.Files.Below
import BuildTool.Proofs.Files.Removal

/-!
# What unpacking leaves

An entry is put at its own place below the directory that an archive is unpacked into, over
directories alone. It never takes the place of a directory, and nothing is removed but the file that
a later entry of the same name takes the place of. So unpacking fills the tree, however it ends, and
if it ends well then everything in the archive is there:

    unpack dir items d = (ok, d')   →   HoldsAll d' dir items

No link may stand in the directory, or a place would have several names.
-/

namespace BuildTool

open BuildTool.Tree

namespace Disk

/-! ## Directories without links -/

/-- No link stands in the directory that a path leads to, nor would one if the path led to a
directory only after more of them had been made. -/
def HasNoLinksIn (d : Disk) (dir : String) : Prop :=
  ∀ t, d.tree.Fills t → ∀ top e, t.stat d.work dir = .ok (top, e) → t.IsLinkFree top

/-- The other disk has more directories and files, or files in place of files. -/
structure Fills (d d' : Disk) : Prop where
  work : d'.work = d.work
  tree : d.tree.Fills d'.tree

theorem Fills.refl (d : Disk) : d.Fills d := ⟨rfl, .refl _⟩

theorem Fills.trans {d d' d'' : Disk} (h : d.Fills d') (h' : d'.Fills d'') : d.Fills d'' :=
  ⟨h'.work.trans h.work, h.tree.trans h'.tree⟩

theorem Grows.toFills {d d' : Disk} (h : d.Grows d') : d.Fills d' := ⟨h.work, h.fills⟩

theorem Fills.stat {d d' : Disk} (h : d.Fills d') {path : String} {loc : Location} {e : Entry}
    (hstat : d.tree.stat d.work path = .ok (loc, e)) :
    ∃ e', d'.tree.stat d'.work path = .ok (loc, e') := by
  obtain ⟨e', hstat', -⟩ := h.tree.stat hstat
  refine ⟨e', ?_⟩
  rw [h.work]
  exact hstat'

/-- A path leads to a directory at this location. -/
def LeadsTo (d : Disk) (dir : String) (top : Location) : Prop :=
  ∃ time, d.tree.stat d.work dir = .ok (top, .directory time)

theorem LeadsTo.of_fills {d d' : Disk} {dir : String} {top : Location} (h : d.LeadsTo dir top)
    (hfills : d.Fills d') : d'.LeadsTo dir top := by
  obtain ⟨time, hstat⟩ := h
  obtain ⟨e', hstat', hway⟩ := hfills.tree.stat hstat
  cases e' <;> cases hway
  rw [← hfills.work] at hstat'
  exact ⟨_, hstat'⟩

namespace HasNoLinksIn

variable {d d' : Disk} {dir : String} {top : Location} {e : Entry}

theorem of_fills (h : d.HasNoLinksIn dir) (hfills : d.Fills d') : d'.HasNoLinksIn dir := by
  intro t ht top e hstat
  rw [hfills.work] at hstat
  exact h t (hfills.tree.trans ht) top e hstat

theorem isLinkFree (h : d.HasNoLinksIn dir) (hstat : d.tree.stat d.work dir = .ok (top, e)) :
    d.tree.IsLinkFree top :=
  h d.tree (.refl _) top e hstat

/-- It is enough to look at the directory if there is one. -/
theorem of_stat (hstat : d.tree.stat d.work dir = .ok (top, e)) (h : d.tree.IsLinkFree top) :
    d.HasNoLinksIn dir := by
  intro t ht top' e' hstat'
  obtain ⟨e'', hstat'', -⟩ := ht.stat hstat
  rw [hstat''] at hstat'
  cases hstat'
  exact h.of_fills ht

end HasNoLinksIn

end Disk

/-! ## Names of entries -/

/-- The names that lead to an entry can stand in directories. -/
theorem ArchiveEntry.isElement_of_mem_steps {e : ArchiveEntry} {steps : List String}
    (h : e.steps? = some steps) : ∀ name ∈ steps, Path.IsElement name := by
  unfold steps? at h
  dsimp only at h
  split at h
  · cases h
  · next hup =>
    cases h
    intro name hname
    obtain ⟨chars, hchars, rfl⟩ := List.mem_map.mp hname
    have hslash := Text.not_mem_of_mem_splitChar (List.mem_filter.mp hchars).1
    obtain ⟨hne, hdot⟩ : chars ≠ [] ∧ chars ≠ ['.'] := by
      simpa using (List.mem_filter.mp hchars).2
    have hdots : chars ≠ ['.', '.'] := by
      rintro rfl
      exact hup (List.contains_iff_mem.mpr hchars)
    have hofList : ∀ {text : String}, String.ofList chars = text → chars = text.toList := by
      rintro _ rfl
      rw [String.toList_ofList]
    exact ⟨fun he => hne (hofList he), by rwa [String.toList_ofList], fun he => hdot (hofList he),
      fun he => hdots (hofList he)⟩

/-! ## One entry at its place -/

theorem Tree.IsOnWay.of_fills {t t' : Tree} {top : Location} {steps : List String}
    (h : t.IsOnWay top steps) (hfills : t.Fills t') : t'.IsOnWay top steps :=
  fun before after heq hbefore hafter => hfills.isDirectory (h before after heq hbefore hafter)

/-- An entry stands at its place below a location, and only directories are on the way to it. -/
structure Tree.Holds (t : Tree) (top : Location) (steps : List String) (e : ArchiveEntry) :
    Prop where
  onWay : t.IsOnWay top steps
  directory : e.makesDirectory = true → t.isDirectory (top ++ steps) = true
  file : e.makesDirectory = false → t.content? (top ++ steps) = some ⟨e.content.toArray⟩

namespace Disk

theorem placeDirectory?_grows {d d' : Disk} {path : String} (h : d.placeDirectory? path = some d') :
    d.Grows d' := by
  unfold placeDirectory? at h
  split at h
  · next hmade =>
    cases h
    exact .of_makeDirectory hmade
  · split at h <;> cases h
    exact .refl d
  · cases h

theorem exists_free_of_placeNewFile {d d' : Disk} {path : String} {e : Entry}
    (h : d.placeNewFile path e = (true, d')) : ∃ parent name,
      d.tree.locate d.work false path = .ok (.free parent name) ∧
        d' = d.withTree (d.tree.insert d.time (parent ++ [name]) e) := by
  unfold placeNewFile at h
  split at h
  · next parent name hplace =>
    cases h
    exact ⟨parent, name, hplace, rfl⟩
  · cases h

section

variable {d d' : Disk} {dir : String} {top : Location} {old : Entry} {steps : List String}
  (hlinks : d.tree.IsLinkFree top) (hstat : d.tree.stat d.work dir = .ok (top, old))
  (hsteps : ∀ name ∈ steps, Path.IsElement name) (hne : steps ≠ [])
include hlinks hstat hsteps hne

theorem endsBelow {follow : Bool} {place : Place}
    (h : d.tree.locate d.work follow (Path.below dir steps) = .ok place) :
    d.tree.EndsBelow top steps place := by
  have hdir : dir ≠ "" := (walks_of_locate (locate_of_stat hstat)).1
  exact Path.endsBelow_of_locate hsteps hdir hstat hlinks hne h

/-- A directory is made at its place, unless it is there. -/
theorem placeDirectory?_cases (h : d.placeDirectory? (Path.below dir steps) = some d') :
    d.tree.IsOnWay top steps ∧ (d.tree.isDirectory (top ++ steps) = true ∧ d' = d ∨
      d.tree.get? (top ++ steps) = none ∧
        d' = d.withTree (d.tree.insert d.time (top ++ steps) (.directory d.time))) := by
  have hdir : dir ≠ "" := (walks_of_locate (locate_of_stat hstat)).1
  unfold placeDirectory? at h
  split at h
  · next tree hmade =>
    cases h
    obtain ⟨-, parent, name, hplace, rfl⟩ := exists_free_of_makeDirectory hmade
    rw [Path.withoutEndSlashes_below hsteps hdir hne] at hplace
    have hfree : d.tree.get? (parent ++ [name]) = none := isEndOf_of_locate hplace
    obtain ⟨hway, hends⟩ := endsBelow hlinks hstat hsteps hne hplace
    obtain ⟨_, hentry⟩ | ⟨before, name, rfl, hplaced⟩ := hends
    · cases hentry
    · cases hplaced
      rw [List.append_assoc] at hfree ⊢
      exact ⟨hway, .inr ⟨hfree, rfl⟩⟩
  · split at h
    · next hleads =>
      cases h
      unfold leadsToDirectory at hleads
      split at hleads
      · next loc e hfound =>
        obtain ⟨hway, hends⟩ := endsBelow hlinks hstat hsteps hne (locate_of_stat hfound)
        obtain ⟨_, hentry⟩ | ⟨_, _, _, hfree⟩ := hends
        · cases hentry
          refine ⟨hway, .inl ⟨?_, rfl⟩⟩
          rw [isDirectory, get?_of_stat hfound]
          exact hleads
        · cases hfree
      · cases hleads
    · cases h
  · cases h

theorem placeDirectory?_spec (h : d.placeDirectory? (Path.below dir steps) = some d') :
    d.Grows d' ∧ d'.tree.IsOnWay top steps ∧ d'.tree.isDirectory (top ++ steps) = true := by
  have hgrows := placeDirectory?_grows h
  obtain ⟨hway, hcases⟩ := placeDirectory?_cases hlinks hstat hsteps hne h
  refine ⟨hgrows, hway.of_fills hgrows.fills, ?_⟩
  obtain ⟨hthere, rfl⟩ | ⟨-, rfl⟩ := hcases
  · exact hthere
  · exact isDirectory_iff.mpr ((way?_insert ..).trans (if_pos rfl))

omit hlinks in
/-- The place of a file is free once the file is gone. -/
theorem exists_free_of_remove {loc : Location} {e : Entry} (hstop : e.way = .stop)
    (h : d.tree.locate d.work false (Path.below dir steps) = .ok (.entry loc e)) :
    ∃ parent name, loc = parent ++ [name] ∧
      (d.tree.remove d.time loc).locate d.work false (Path.below dir steps) =
        .ok (.free parent name) := by
  have hdir : dir ≠ "" := (walks_of_locate (locate_of_stat hstat)).1
  obtain ⟨hpath, hshort, hwalks⟩ := locate_eq_ok_iff.mp h
  have hmust := Path.endsInSlash_below hsteps hdir hne
  obtain ⟨init, last, rfl⟩ := List.eq_nil_or_concat' steps |>.resolve_left hne
  have hlast := hsteps last (by simp)
  obtain ⟨parent, hparent, hfree⟩ := hwalks.free_of_loses hmust (loses_remove _ d.time _) hstop
    (by rw [Path.pathElements_below hsteps hdir, List.append_assoc])
    ⟨hlast.ne_dot, hlast.ne_dots⟩
  exact ⟨parent, last, hparent, locate_eq_ok_iff.mpr ⟨hpath, hshort, hfree⟩⟩

/-- A file is made at its place, where nothing stood or something that is gone now, or nothing
changes. -/
theorem placeFile_cases {e : Entry} {made : Bool}
    (h : d.placeFile (Path.below dir steps) e = (made, d')) : made = false ∧ d' = d ∨
      made = true ∧ d.tree.IsOnWay top steps ∧ ∃ t,
        (d.tree.get? (top ++ steps) = none ∧ t = d.tree ∨
          d.tree.way? (top ++ steps) = some .stop ∧ t = d.tree.remove d.time (top ++ steps)) ∧
        d' = d.withTree (t.insert d.time (top ++ steps) e) := by
  unfold placeFile at h
  split at h
  · cases h
    exact .inl ⟨rfl, rfl⟩
  · next loc old hdirectory hplace =>
    obtain ⟨hway, hends⟩ := endsBelow hlinks hstat hsteps hne hplace
    obtain ⟨_, hentry⟩ | ⟨_, _, _, hfree⟩ := hends
    · cases hentry
      have hget : d.tree.get? (top ++ steps) = some old := isEndOf_of_locate hplace
      have hstop : old.way = .stop := by
        cases old with
        | directory time => exact absurd rfl (hdirectory time)
        | link target => exact absurd hget (hlinks steps target)
        | file | tool | nullDevice => rfl
      obtain ⟨parent, name, hloc, hlocate⟩ := exists_free_of_remove hstat hsteps hne hstop hplace
      dsimp only [placeNewFile, withTree] at h
      rw [hlocate] at h
      dsimp only at h
      rw [← hloc] at h
      cases h
      refine .inr ⟨rfl, hway, _, .inr ⟨?_, rfl⟩, rfl⟩
      rw [way?, hget, Option.map_some, hstop]
    · cases hfree
  · unfold placeNewFile at h
    split at h
    · next parent name hplace =>
      cases h
      obtain ⟨hway, hends⟩ := endsBelow hlinks hstat hsteps hne hplace
      have hnone : d.tree.get? (parent ++ [name]) = none := isEndOf_of_locate hplace
      obtain ⟨_, hentry⟩ | ⟨before, name, rfl, hfree⟩ := hends
      · cases hentry
      · cases hfree
        rw [List.append_assoc] at hnone ⊢
        exact .inr ⟨rfl, hway, _, .inl ⟨hnone, rfl⟩, rfl⟩
    · cases h
      exact .inl ⟨rfl, rfl⟩

omit hlinks hstat hsteps hne in
/-- What is put where nothing stood, or something that is gone now, fills the tree. -/
theorem fills_of_replace {t : Tree} {time : Time} {loc : Location} {e : Entry}
    (hplace : d.tree.get? loc = none ∧ t = d.tree ∨
      d.tree.way? loc = some .stop ∧ t = d.tree.remove time loc) (hstop : e.way = .stop) :
    d.tree.Fills (t.insert time loc e) := by
  refine .of_way?_eq_ite loc .stop ?_ nofun fun l => ?_
  · exact hplace.imp (fun h => by rw [way?, h.1, Option.map_none]) fun h => h.1
  · rw [way?_insert, hstop]
    obtain ⟨-, rfl⟩ | ⟨-, rfl⟩ := hplace
    · rfl
    · rw [way?_remove]
      split <;> rfl

/-- A file is made at its place, or nothing changes. -/
theorem placeFile_spec {content : ByteArray} {time : Time} {executable made : Bool}
    (h : d.placeFile (Path.below dir steps) (.file content time executable) = (made, d')) :
    (made = false → d' = d) ∧ (made = true → d.Fills d' ∧ d'.tree.IsOnWay top steps ∧
      ∀ loc, d'.tree.content? loc =
        if loc = top ++ steps then some content else d.tree.content? loc) := by
  obtain ⟨rfl, rfl⟩ | ⟨rfl, hway, t, hplace, rfl⟩ := placeFile_cases hlinks hstat hsteps hne h
  · exact ⟨fun _ => rfl, nofun⟩
  · have hfills := fills_of_replace (e := .file content time executable) hplace rfl
    refine ⟨nofun, fun _ => ⟨⟨rfl, hfills⟩, hway.of_fills hfills, fun loc => ?_⟩⟩
    refine (content?_insert ..).trans ?_
    obtain ⟨-, rfl⟩ | ⟨-, rfl⟩ := hplace
    · rfl
    · rw [content?_remove]
      split <;> rfl

/-- An entry is put at its place, or that fails; no other file changes. -/
theorem place_spec {e : ArchiveEntry} {went : Bool}
    (h : d.place (Path.below dir steps) e = (went, d')) :
    d.Fills d' ∧
      (∀ loc content, (loc = top ++ steps → e.makesDirectory = true) →
        d.tree.content? loc = some content → d'.tree.content? loc = some content) ∧
      (went = true → d'.tree.Holds top steps e) := by
  unfold place at h
  split at h
  · cases h
    exact ⟨.refl d, fun _ _ _ => id, nofun⟩
  · split at h
    · next hdirectory =>
      split at h
      · next hplaced =>
        cases h
        obtain ⟨hgrows, hway, hdir⟩ := placeDirectory?_spec hlinks hstat hsteps hne hplaced
        refine ⟨hgrows.toFills, fun loc content _ => hgrows.keeps loc content, fun _ => ?_⟩
        exact ⟨hway, fun _ => hdir, fun hfile => by rw [hdirectory] at hfile; cases hfile⟩
      · cases h
        exact ⟨.refl d, fun _ _ _ => id, nofun⟩
    · next hdirectory =>
      dsimp only at h
      generalize (if e.isWhole = true then e.time?.getD d.time else d.time) = time at h
      generalize hplaced : d.placeFile (Path.below dir steps) _ = placed at h
      obtain ⟨made, d₁⟩ := placed
      cases h
      obtain ⟨hfailed, hmade⟩ := placeFile_spec hlinks hstat hsteps hne hplaced
      cases made with
      | false =>
        obtain rfl := hfailed rfl
        exact ⟨.refl _, fun _ _ _ => id, nofun⟩
      | true =>
        obtain ⟨hfills, hway, hcontent⟩ := hmade rfl
        refine ⟨hfills, fun loc content hloc hold => ?_, fun _ => ?_⟩
        · rw [hcontent, if_neg fun hsame => hdirectory (hloc hsame)]
          exact hold
        · refine ⟨hway, fun hdir => absurd hdir hdirectory, fun _ => ?_⟩
          rw [hcontent, if_pos rfl]

end

theorem makeInside?_grows {top : String} {paths : List String} {d left : Disk}
    {made : Option Disk} (h : makeInside? top paths d = (made, left)) :
    d.Grows left ∧ ∀ d', made = some d' → d.Grows d' := by
  induction paths generalizing d with
  | nil =>
    cases h
    refine ⟨.refl _, ?_⟩
    rintro _ ⟨⟩
    exact .refl _
  | cons path rest ih =>
    have hmade := makeWay_grows d path
    unfold makeInside? at h
    split at h
    · cases h
      exact ⟨.refl _, nofun⟩
    · split at h
      · next hfault =>
        cases h
        rw [hfault] at hmade
        exact ⟨hmade, nofun⟩
      · next hnone =>
        rw [hnone] at hmade
        obtain ⟨hleft, hright⟩ := ih h
        exact ⟨hmade.trans hleft, fun d' hd' => hmade.trans (hright d' hd')⟩

/-- How the unpacking of an entry ends, and the disk that it leaves: the entry is refused for its kind
or its name, or it has no name of its own and is passed over; otherwise the directories that are
missing on the way are made, unless one is in the way or outside, and the entry is placed. -/
inductive EntryEnds (d : Disk) (dir : String) (e : ArchiveEntry) :
    Except BuildError Unit → Disk → Prop
  | unsupported (hkind : ¬ (e.kind = .directory ∨ e.kind = .regular)) :
      EntryEnds d dir e (.error (.command (.unsupportedEntry e.kind))) d
  | escapes (hkind : e.kind = .directory ∨ e.kind = .regular) (hname : e.steps? = none) :
      EntryEnds d dir e (.error (.command (.entryEscapes e.nameText (Text.fromOctets dir)))) d
  | passed (hkind : e.kind = .directory ∨ e.kind = .regular) (hname : e.steps? = some []) :
      EntryEnds d dir e (.ok ()) d
  | blocked {steps paths : List String} {d' : Disk} (hname : e.steps? = some steps)
      (hplain : ∀ path ∈ paths, Path.IsPlain path)
      (hinside : makeInside? dir paths d = (none, d')) :
      EntryEnds d dir e (.error (.io (Text.fromOctets dir) .damaged)) d'
  | outside {steps paths : List String} {d₁ left : Disk} (hname : e.steps? = some steps)
      (hplain : ∀ path ∈ paths, Path.IsPlain path)
      (hinside : makeInside? dir paths d = (some d₁, left)) :
      EntryEnds d dir e (.error (.io (Text.fromOctets dir) .damaged)) d₁
  | placed {steps paths : List String} {d₁ left d' : Disk} {went : Bool}
      (hkind : e.kind = .directory ∨ e.kind = .regular) (hname : e.steps? = some steps)
      (hne : steps ≠ []) (hplain : ∀ path ∈ paths, Path.IsPlain path)
      (hinside : makeInside? dir paths d = (some d₁, left))
      (hparent : d₁.isInside dir ((Path.parents (Path.below dir steps)).headD "") = true)
      (hplace : d₁.place (Path.below dir steps) e = (went, d')) :
      EntryEnds d dir e (if went then .ok () else .error (.io (Text.fromOctets dir) .damaged)) d'

theorem ends_unpackEntry {d d' : Disk} {dir : String} {e : ArchiveEntry}
    {result : Except BuildError Unit} (h : d.unpackEntry dir e = (result, d')) :
    d.EntryEnds dir e result d' := by
  unfold unpackEntry at h
  dsimp only at h
  split at h
  · next hkind =>
    cases h
    exact .unsupported (not_or.mpr hkind)
  next hkind =>
  have hkind : e.kind = .directory ∨ e.kind = .regular := by
    by_contra hother
    exact hkind (not_or.mp hother)
  split at h
  · next hname =>
    cases h
    exact .escapes hkind hname
  · next hname =>
    cases h
    exact .passed hkind hname
  next steps hne hname =>
  have hplain : ∀ path ∈ (((Path.parents (Path.below dir steps)).headD "" ::
      Path.parents ((Path.parents (Path.below dir steps)).headD "")).takeWhile
        fun path => !d.isTaken path).reverse, Path.IsPlain path := by
    intro path hpath
    rcases List.mem_cons.mp ((List.takeWhile_subset _) (List.mem_reverse.mp hpath)) with rfl | habove
    · exact Path.isPlain_headD_parents _
    · exact Path.isPlain_of_mem_parents habove
  split at h
  · next hinside =>
    cases h
    exact .blocked hname hplain hinside
  next hinside =>
  split at h
  · cases h
    exact .outside hname hplain hinside
  next hparent =>
  rw [Bool.not_eq_true', Bool.not_eq_false] at hparent
  split at h
  · next hplace =>
    cases h
    exact .placed hkind hname (fun hempty => hne hempty) hplain hinside hparent hplace
  · next hplace =>
    cases h
    exact .placed hkind hname (fun hempty => hne hempty) hplain hinside hparent hplace

theorem exists_stat_of_isInside {d : Disk} {dir path : String} (h : d.isInside dir path = true) :
    ∃ top e inner e', d.tree.stat d.work dir = .ok (top, e) ∧
      d.tree.stat d.work path = .ok (top ++ inner, e') := by
  unfold isInside at h
  split at h
  · next hstat hstat' =>
    obtain ⟨inner, rfl⟩ := List.isPrefixOf_iff_prefix.mp h
    exact ⟨_, _, inner, _, hstat, hstat'⟩
  · cases h

/-- An entry has been unpacked well: it stands at its place, and the other files are there still. -/
structure Unpacks (d d' : Disk) (dir : String) (e : ArchiveEntry) (steps : List String) : Prop where
  named : e.steps? = some steps
  kind : e.kind = .directory ∨ e.kind = .regular
  placed : steps ≠ [] → ∃ top old, d'.tree.stat d'.work dir = .ok (top, old) ∧
    d'.tree.Holds top steps e ∧
    ∀ loc content, (loc = top ++ steps → e.makesDirectory = true) →
      d.tree.content? loc = some content → d'.tree.content? loc = some content
  nothing : steps = [] → d' = d

theorem unpackEntry_spec {d d' : Disk} {dir : String} {e : ArchiveEntry}
    {result : Except BuildError Unit} (hlinks : d.HasNoLinksIn dir)
    (h : d.unpackEntry dir e = (result, d')) :
    d.Fills d' ∧ (result = .ok () → ∃ steps, d.Unpacks d' dir e steps) := by
  cases ends_unpackEntry h with
  | unsupported | escapes => exact ⟨.refl d, nofun⟩
  | passed hkind hname =>
    exact ⟨.refl d, fun _ => ⟨[], hname, hkind, fun hne => absurd rfl hne, fun _ => rfl⟩⟩
  | blocked _ _ hinside => exact ⟨(makeInside?_grows hinside).1.toFills, nofun⟩
  | outside _ _ hinside => exact ⟨((makeInside?_grows hinside).2 _ rfl).toFills, nofun⟩
  | @placed steps _ d₁ _ _ went hkind hname hne _ hinside hparent hplace =>
    have hgrows : d.Grows d₁ := (makeInside?_grows hinside).2 d₁ rfl
    obtain ⟨top, old, _, _, hstat, -⟩ := exists_stat_of_isInside hparent
    have hfree := (hlinks.of_fills hgrows.toFills).isLinkFree hstat
    obtain ⟨hfills, hkeeps, hholds⟩ := place_spec hfree hstat
      (ArchiveEntry.isElement_of_mem_steps hname) hne hplace
    refine ⟨hgrows.toFills.trans hfills, fun hok => ⟨steps, hname, hkind, fun _ => ?_,
      fun hempty => absurd hempty hne⟩⟩
    have hwent : went = true := by
      cases went with
      | true => rfl
      | false => cases hok
    obtain ⟨old', hstat'⟩ := hfills.stat hstat
    refine ⟨top, old', hstat', hholds hwent, fun loc content hloc hold => ?_⟩
    exact hkeeps loc content hloc (hgrows.keeps loc content hold)

/-! ## Archives -/

/-- Everything in an archive stands in a directory. All items are entries for directories and
regular files; one that has a name of its own stands at its place below the directory, and a file
has its contents, unless an entry of the same name follows it. -/
def HoldsAll (d : Disk) (dir : String) (items : List ArchiveItem) : Prop :=
  ∀ before item after, items = before ++ item :: after → ∃ e steps, item = .entry e ∧
    e.steps? = some steps ∧ (e.kind = .directory ∨ e.kind = .regular) ∧
    (steps ≠ [] → ∃ top old, d.tree.stat d.work dir = .ok (top, old) ∧ d.tree.IsOnWay top steps ∧
      (e.makesDirectory = true → d.tree.isDirectory (top ++ steps) = true) ∧
      (e.makesDirectory = false → (∀ e', .entry e' ∈ after → e'.steps? ≠ some steps) →
        d.tree.content? (top ++ steps) = some ⟨e.content.toArray⟩))

theorem HoldsAll.nil (d : Disk) (dir : String) : d.HoldsAll dir [] := by
  intro before item after heq
  cases before <;> cases heq

/-- What stands in a directory stands there on another disk too, if the path leads there still and
all its directories and files are kept. -/
theorem HoldsAll.of_kept {d d' : Disk} {dir : String} {items : List ArchiveItem}
    (h : d.HoldsAll dir items)
    (hkept : ∀ top e, d.tree.stat d.work dir = .ok (top, e) →
      (∃ e', d'.tree.stat d'.work dir = .ok (top, e')) ∧
      ∀ below, (d.tree.isDirectory (top ++ below) = true →
          d'.tree.isDirectory (top ++ below) = true) ∧
        ∀ content, d.tree.content? (top ++ below) = some content →
          d'.tree.content? (top ++ below) = some content) : d'.HoldsAll dir items := by
  intro before item after heq
  obtain ⟨e, steps, hitem, hnamed, hkind, hplaced⟩ := h before item after heq
  refine ⟨e, steps, hitem, hnamed, hkind, fun hne => ?_⟩
  obtain ⟨top, old, hstat, hway, hdirectory, hfile⟩ := hplaced hne
  obtain ⟨⟨old', hstat'⟩, hbelow⟩ := hkept top old hstat
  refine ⟨top, old', hstat', fun first last hsteps hfirst hlast => ?_, fun hmakes => ?_,
    fun hmakes hlater => ?_⟩
  · exact (hbelow first).1 (hway first last hsteps hfirst hlast)
  · exact (hbelow steps).1 (hdirectory hmakes)
  · exact (hbelow steps).2 _ (hfile hmakes hlater)

theorem HoldsAll.of_grows {d d' : Disk} {dir : String} {items : List ArchiveItem}
    (h : d.HoldsAll dir items) (hgrows : d.Grows d') : d'.HoldsAll dir items :=
  h.of_kept fun _ _ hstat => ⟨hgrows.toFills.stat hstat, fun _ =>
    ⟨hgrows.fills.isDirectory, hgrows.keeps _⟩⟩

/-- What stood before an entry is unpacked stands behind it, but for the file in its place. -/
theorem HoldsAll.concat {d d' : Disk} {dir : String} {items : List ArchiveItem} {e : ArchiveEntry}
    {steps : List String} (h : d.HoldsAll dir items) (hfills : d.Fills d')
    (hunpacks : d.Unpacks d' dir e steps) : d'.HoldsAll dir (items ++ [.entry e]) := by
  intro before item after heq
  rcases List.eq_nil_or_concat' after with rfl | ⟨after, last, rfl⟩
  · obtain ⟨rfl, hitem⟩ := List.append_inj' heq rfl
    cases hitem
    refine ⟨e, steps, rfl, hunpacks.named, hunpacks.kind, fun hne => ?_⟩
    obtain ⟨top, old, hstat, hholds, -⟩ := hunpacks.placed hne
    exact ⟨top, old, hstat, hholds.onWay, hholds.directory, fun hfile _ => hholds.file hfile⟩
  · rw [← List.cons_append, ← List.append_assoc] at heq
    obtain ⟨rfl, hlast⟩ := List.append_inj' heq rfl
    cases hlast
    obtain ⟨e₀, steps₀, rfl, hnamed, hkind, hplaced⟩ := h before item after rfl
    refine ⟨e₀, steps₀, rfl, hnamed, hkind, fun hne₀ => ?_⟩
    obtain ⟨top, old, hstat, hway, hdirectory, hfile⟩ := hplaced hne₀
    obtain ⟨old', hstat'⟩ := hfills.stat hstat
    refine ⟨top, old', hstat', hway.of_fills hfills.tree,
      fun hdir => hfills.tree.isDirectory (hdirectory hdir), fun hmakes hlater => ?_⟩
    have hold := hfile hmakes fun e' he' => hlater e' (List.mem_append_left _ he')
    by_cases hne : steps = []
    · rw [hunpacks.nothing hne]
      exact hold
    · obtain ⟨top', _, hstat'', -, hkeeps⟩ := hunpacks.placed hne
      rw [hstat'] at hstat''
      cases hstat''
      refine hkeeps _ _ (fun hsame => ?_) hold
      have hother := hlater e (by simp)
      rw [hunpacks.named, List.append_cancel_left hsame] at hother
      exact absurd rfl hother

/-- Unpacking fills the disk, and if it goes well then everything in the archive is there. -/
theorem unpack_spec {d d' : Disk} {dir : String} {items : List ArchiveItem}
    {result : Except BuildError Unit} (hlinks : d.HasNoLinksIn dir)
    (h : unpack dir items d = (result, d')) :
    d.Fills d' ∧ (result = .ok () → d'.HoldsAll dir items) := by
  -- What has been unpacked so far stands in the directory.
  suffices hrest : ∀ done, d.HoldsAll dir done →
      d.Fills d' ∧ (result = .ok () → d'.HoldsAll dir (done ++ items)) from
    hrest [] (.nil d dir)
  induction items generalizing d with
  | nil =>
    cases h
    intro done hdone
    exact ⟨.refl _, fun _ => by rwa [List.append_nil]⟩
  | cons item rest ih =>
    intro done hdone
    cases item with
    | damage =>
      cases h
      exact ⟨.refl _, nofun⟩
    | entry e =>
      rw [unpack] at h
      rcases hentry : d.unpackEntry dir e with ⟨problem | _, d₁⟩ <;> rw [hentry] at h
      · cases h
        exact ⟨(unpackEntry_spec hlinks hentry).1, nofun⟩
      · obtain ⟨hfills, hunpacks⟩ := unpackEntry_spec hlinks hentry
        obtain ⟨steps, hunpacks⟩ := hunpacks rfl
        obtain ⟨hfills', hall⟩ := ih (hlinks.of_fills hfills) h (done ++ [.entry e])
          (hdone.concat hfills hunpacks)
        refine ⟨hfills.trans hfills', fun hok => ?_⟩
        rw [← List.singleton_append, ← List.append_assoc]
        exact hall hok

end Disk

end BuildTool
