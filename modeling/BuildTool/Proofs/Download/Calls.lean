import BuildTool.Proofs.Download.Ending

/-!
# Downloads one after the other

A server has an archive at an address, and it says that the archive has not changed if a request
names a time that is not before the last change. Calls come one after the other and find the
directory as the last one left it; some of them fail. They leave one of three things:

    no directory
    a directory that a failed call has changed since the archive was last unpacked
    a directory with everything in the archive
-/

namespace BuildTool

open Text (octets)

namespace Disk

/-! ## A directory between downloads -/

/-- A path leads to nothing, and no link would stand in a directory that is made for it. -/
structure IsAbsent (d : Disk) (dir : String) : Prop where
  fails : ∃ fault, d.stat dir = .error fault
  noLinks : d.HasNoLinksIn (octets dir)

theorem IsAbsent.of_free {d : Disk} {dir name : String} {parent : Location}
    (hfree : d.tree.locate d.work true (octets dir) = .ok (.free parent name))
    (hlinks : d.tree.IsLinkFree (parent ++ [name])) : d.IsAbsent dir := by
  refine ⟨⟨.notFound, by rw [Disk.stat, Tree.stat, hfree]⟩, fun t ht top e hstat => ?_⟩
  rw [Tree.eq_of_locate_free ht hfree hstat]
  exact hlinks.of_fills ht

/-- A directory has the same things in it on both disks, or it is on neither. -/
def SameDirectory (dir : String) (d d' : Disk) : Prop :=
  match d.stat dir with
  | .ok (top, _) => (∃ e, d'.stat dir = .ok (top, e)) ∧
      ∀ below, d'.tree.get? (top ++ below) = d.tree.get? (top ++ below)
  | .error _ => d'.IsAbsent dir

namespace SameDirectory

variable {d d' : Disk} {dir : String}

theorem refl (h : d.HasNoLinksIn (octets dir)) : SameDirectory dir d d := by
  unfold SameDirectory
  split
  · next hstat => exact ⟨⟨_, hstat⟩, fun _ => rfl⟩
  · next hstat => exact ⟨⟨_, hstat⟩, h⟩

theorem of_ok {top : Location} {e : Entry} (h : SameDirectory dir d d')
    (hstat : d.stat dir = .ok (top, e)) : (∃ e', d'.stat dir = .ok (top, e')) ∧
      ∀ below, d'.tree.get? (top ++ below) = d.tree.get? (top ++ below) := by
  unfold SameDirectory at h
  rw [hstat] at h
  exact h

theorem of_error {fault : Fault} (h : SameDirectory dir d d') (hstat : d.stat dir = .error fault) :
    d'.IsAbsent dir := by
  unfold SameDirectory at h
  rw [hstat] at h
  exact h

theorem hasNoLinksIn (h : SameDirectory dir d d') (hlinks : d.HasNoLinksIn (octets dir)) :
    d'.HasNoLinksIn (octets dir) := by
  cases hstat : d.stat dir with
  | error fault => exact (h.of_error hstat).noLinks
  | ok found =>
    obtain ⟨⟨e', hstat'⟩, hget⟩ := h.of_ok hstat
    refine .of_stat hstat' fun below target => ?_
    rw [hget]
    exact hlinks.isLinkFree hstat below target

theorem holdsAll {items : List ArchiveItem} (h : SameDirectory dir d d')
    (hall : d.HoldsAll (octets dir) items) : d'.HoldsAll (octets dir) items := by
  refine hall.of_kept fun top e hstat => ⟨(h.of_ok hstat).1, fun below => ?_⟩
  rw [Tree.isDirectory, Tree.isDirectory, Tree.content?, Tree.content?, (h.of_ok hstat).2 below]
  exact ⟨id, fun _ => id⟩

end SameDirectory

end Disk

namespace Download

/-! ## Calls -/

/-- An archive that a server has at an address, and the time of its last change. -/
structure Offer where
  address : String
  lastModified : String
  body : ByteArray

/-- A call of a download, and the workspace before it. -/
structure Call where
  settings : HttpSettings := {}
  logger : Logger := {}
  checksum : Option String := none
  before : Workspace

/-- What a call asks for. -/
def Call.request (c : Call) (dir : String) (url : Url) : Http.Request :=
  requestFor c.settings.userAgent (c.before.disk.modifiedTime? dir) url

namespace Offer

/-- The archive has not changed since the time in a request. -/
def isUnchangedFor (o : Offer) (request : Http.Request) : Bool :=
  match request.ifModifiedSince.bind HttpDate.read?, HttpDate.read? o.lastModified with
  | some since, some changed => changed ≤ since
  | _, _ => false

def answer (o : Offer) (request : Http.Request) : Http.Response :=
  if o.isUnchangedFor request then { status := 304 }
  else { lastModified := some o.lastModified, body := o.body }

def items (o : Offer) : List ArchiveItem :=
  match formOf? o.address with
  | some form => itemsOf form o.body
  | none => []

section

variable (o : Offer) (dir : String)

def result (c : Call) : Except BuildError DownloadOutcome :=
  (download c.settings c.logger dir o.address c.checksum c.before).1

def after (c : Call) : Workspace :=
  (download c.settings c.logger dir o.address c.checksum c.before).2

/-- The server gives the archive to a call, or says that it has not changed. -/
def IsServed (c : Call) : Prop :=
  ∀ url, Url.read? o.address = some url →
    (c.before.server.answer url (c.request dir url)).1 = some (o.answer (c.request dir url))

/-- The next call finds the directory as it was left. It is served well, or it fails. -/
structure IsNext (d : Disk) (c : Call) : Prop where
  same : Disk.SameDirectory dir d c.before.disk
  served : o.IsServed dir c ∨ ∃ e, o.result dir c = .error e

/-- Calls one after the other, and the disk behind them. -/
inductive Calls (start : Disk) : List Call → Disk → Prop
  | none : Calls start [] start
  | call {cs : List Call} {d : Disk} {c : Call} (h : Calls start cs d) (hc : o.IsNext dir d c) :
      Calls start (cs ++ [c]) (o.after dir c).disk

/-- A call has failed after it changed the disk, and no call since then has unpacked the archive. -/
def LeftBroken (cs : List Call) : Prop :=
  ∃ earlier c later, cs = earlier ++ c :: later ∧ (∃ e, o.result dir c = .error e) ∧
    (o.after dir c).disk ≠ c.before.disk ∧ ∀ c' ∈ later, o.result dir c' ≠ .ok .extracted

/-- What calls have left: no directory, one that a call broke off in, or one with everything. -/
structure Leaves (cs : List Call) (d : Disk) : Prop where
  noLinks : d.HasNoLinksIn (octets dir)
  state : (∃ fault, d.stat dir = .error fault) ∨ o.LeftBroken dir cs ∨
    ((∃ c ∈ cs, o.result dir c = .ok .extracted) ∧ d.HoldsAll (octets dir) o.items)

end

variable {o : Offer} {dir : String} {start d d' : Disk} {cs : List Call} {c : Call}

theorem ends (o : Offer) (dir : String) (c : Call) :
    Ends c.settings dir o.address c.before (o.result dir c) (o.after dir c).disk :=
  ends_download ..

theorem isUnchangedFor_of_absent (o : Offer) (url : Url)
    (h : c.before.disk.modifiedTime? dir = none) :
    o.isUnchangedFor (c.request dir url) = false := by
  rw [isUnchangedFor, Call.request, h]
  rfl

/-- A directory is as new as the archive if its time is, to the second. -/
theorem isUnchangedFor_of_modified {time since changed : Time} (url : Url)
    (h : c.before.disk.modifiedTime? dir = some time)
    (hsince : HttpDate.read? (HttpDate.write time) = some since)
    (hchanged : HttpDate.read? o.lastModified = some changed) :
    o.isUnchangedFor (c.request dir url) = decide (changed ≤ since) := by
  rw [isUnchangedFor, Call.request, h, requestFor, Option.map_some, Option.bind_some, hsince,
    hchanged]

/-- A call that gets the archive gets all of it. -/
theorem IsServed.body_eq {url : Url} {r : Http.Response} (h : o.IsServed dir c)
    (hurl : Url.read? o.address = some url)
    (hr : c.before.server.response? url (c.request dir url) = some r)
    (hnew : r.isUnmodified = false) : r.body = o.body := by
  rw [Http.Server.response?, h url hurl, Option.bind_some, answer] at hr
  split at hr
  · have hsame := (isUnmodified_of_received? hr).symm.trans hnew
    cases hsame
  · unfold Http.Response.received? at hr
    split at hr
    · cases hr
    · cases hr
      rfl

/-- Only a call that finds a directory is told that nothing has changed. -/
theorem IsServed.stat_ne_error {url : Url} {r : Http.Response} (h : o.IsServed dir c)
    (hurl : Url.read? o.address = some url)
    (hr : c.before.server.response? url (c.request dir url) = some r)
    (hunmodified : r.isUnmodified = true) :
    ¬ ∃ fault, c.before.disk.stat dir = .error fault := by
  rintro ⟨fault, hstat⟩
  have htime : c.before.disk.modifiedTime? dir = none := by
    rw [Disk.modifiedTime?, Tree.modifiedTime?, ← Disk.stat, hstat]
  rw [Http.Server.response?, h url hurl, Option.bind_some, answer,
    o.isUnchangedFor_of_absent url htime] at hr
  rw [isUnmodified_of_received? hr] at hunmodified
  cases hunmodified

/-- A directory is not left broken by a call that unpacks the archive. -/
theorem not_leftBroken_concat (h : o.result dir c = .ok .extracted) :
    ¬ o.LeftBroken dir (cs ++ [c]) := by
  rintro ⟨earlier, b, later, heq, ⟨e, hfails⟩, -, hlater⟩
  rcases List.eq_nil_or_concat' later with rfl | ⟨later, last, rfl⟩
  · obtain ⟨-, hlast⟩ := List.append_inj' heq rfl
    cases hlast
    rw [hfails] at h
    cases h
  · rw [← List.cons_append, ← List.append_assoc] at heq
    obtain ⟨-, hlast⟩ := List.append_inj' heq rfl
    cases hlast
    exact hlater c (by simp) h

namespace Leaves

theorem of_same (h : o.Leaves dir cs d) (hsame : Disk.SameDirectory dir d d') :
    o.Leaves dir cs d' := by
  refine ⟨hsame.hasNoLinksIn h.noLinks, ?_⟩
  obtain ⟨_, hstat⟩ | hbroken | ⟨hextracted, hall⟩ := h.state
  · exact .inl (hsame.of_error hstat).fails
  · exact .inr (.inl hbroken)
  · exact .inr (.inr ⟨hextracted, hsame.holdsAll hall⟩)

/-- A call that unpacks nothing leaves what there was. -/
theorem concat (h : o.Leaves dir cs d) (hc : o.result dir c ≠ .ok .extracted) :
    o.Leaves dir (cs ++ [c]) d := by
  refine ⟨h.noLinks, ?_⟩
  obtain hstat | ⟨earlier, b, later, rfl, hfails, hchanged, hlater⟩ | ⟨⟨x, hx, hextracted⟩, hall⟩ :=
    h.state
  · exact .inl hstat
  · refine .inr (.inl ⟨earlier, b, later ++ [c], by simp, hfails, hchanged, ?_⟩)
    rintro c' hc'
    rcases List.mem_append.mp hc' with hc' | hc'
    · exact hlater c' hc'
    · rwa [List.mem_singleton.mp hc']
  · exact .inr (.inr ⟨⟨x, List.mem_append_left _ hx, hextracted⟩, hall⟩)

/-- A call that unpacks the archive leaves everything that is in it. -/
theorem extracted (h : o.Leaves dir cs c.before.disk)
    (hserved : o.IsServed dir c ∨ ∃ e, o.result dir c = .error e)
    (hresult : o.result dir c = .ok .extracted) :
    (o.after dir c).disk.HoldsAll (octets dir) o.items := by
  have hends := o.ends dir c
  have hserved := hserved.resolve_right (by rw [hresult]; nofun)
  rw [hresult] at hends
  cases hends with
  | extracted hurl hform hr hnew hextract =>
    rw [items, hform, ← hserved.body_eq hurl hr hnew]
    exact (extract_spec h.noLinks hextract).2 rfl

/-- A call preserves what the calls before it have left, or breaks off, or unpacks everything. -/
theorem call (h : o.Leaves dir cs c.before.disk)
    (hserved : o.IsServed dir c ∨ ∃ e, o.result dir c = .error e) :
    o.Leaves dir (cs ++ [c]) (o.after dir c).disk := by
  have hends := o.ends dir c
  generalize hresult : o.result dir c = result at hends
  generalize hdisk : (o.after dir c).disk = disk at hends
  cases hends with
  | refused => exact h.concat (by rw [hresult]; nofun)
  | unmodified => exact h.concat (by rw [hresult]; nofun)
  | brokeOff hextract =>
    -- A call may also break off before it has changed anything.
    by_cases hsame : disk = c.before.disk
    · exact hsame ▸ h.concat (by rw [hresult]; nofun)
    · refine ⟨h.noLinks.of_fills (extract_spec h.noLinks hextract).1, .inr (.inl ?_)⟩
      exact ⟨cs, c, [], rfl, ⟨_, hresult⟩, hdisk ▸ hsame, nofun⟩
  | extracted _ _ _ _ hextract =>
    refine ⟨h.noLinks.of_fills (extract_spec h.noLinks hextract).1, .inr (.inr ⟨?_, ?_⟩)⟩
    · exact ⟨c, by simp, hresult⟩
    · exact hdisk ▸ h.extracted hserved hresult

/-- A call that is told that nothing has changed finds what an earlier one left. -/
theorem unmodified (h : o.Leaves dir cs c.before.disk)
    (hserved : o.IsServed dir c ∨ ∃ e, o.result dir c = .error e)
    (hresult : o.result dir c = .ok .notModified) (hbroken : ¬ o.LeftBroken dir cs) :
    (∃ c ∈ cs, o.result dir c = .ok .extracted) ∧
      (o.after dir c).disk.HoldsAll (octets dir) o.items := by
  have hends := o.ends dir c
  have hserved := hserved.resolve_right (by rw [hresult]; nofun)
  rw [hresult] at hends
  generalize hdisk : (o.after dir c).disk = disk at hends
  cases hends with
  | unmodified hurl hr hunmodified =>
    have hthere := hserved.stat_ne_error hurl hr hunmodified
    exact (h.state.resolve_left hthere).resolve_left hbroken

end Leaves

/-- Calls that begin without the directory leave one of the three. -/
theorem Calls.leaves (h : o.Calls dir start cs d) (habsent : start.IsAbsent dir) :
    o.Leaves dir cs d := by
  induction h with
  | none => exact ⟨habsent.noLinks, .inl habsent.fails⟩
  | call _ hc ih => exact (ih.of_same hc.same).call hc.served

end Offer

end Download

end BuildTool
