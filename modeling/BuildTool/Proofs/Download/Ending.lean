import BuildTool.Download
import BuildTool.Proofs.Archive.Unpacking

/-!
# How a download ends

A download is refused before anything is written, or it is told that nothing has changed, or it
unpacks the archive and breaks off or not. Only the last two change the disk, and what they add to
it is what unpacking adds:

    refused        error           the same disk
    unmodified     not modified    the same disk
    brokeOff       error           some of the archive
    extracted      extracted       everything in the archive
-/

namespace BuildTool

open Text (octets)

namespace Download

theorem extract_spec {dir : String} {form : Form} {r : Http.Response} {d d' : Disk}
    {result : Except BuildError Unit} (hlinks : d.HasNoLinksIn (octets dir))
    (h : extract dir form r d = (result, d')) :
    d.Fills d' ∧ (result = .ok () → d'.HoldsAll (octets dir) (itemsOf form r.body)) := by
  unfold extract at h
  have hmade : d.Fills (d.makeDirectories dir).2 := (d.makeWay_grows (octets dir)).toFills
  split at h
  · cases h
    exact ⟨.refl d, nofun⟩
  · split at h
    · next hfault =>
      cases h
      rw [hfault] at hmade
      exact ⟨hmade, nofun⟩
    · next hmakes =>
      rw [hmakes] at hmade
      split at h
      · next hunpack =>
        cases h
        exact ⟨hmade.trans (Disk.unpack_spec (hlinks.of_fills hmade) hunpack).1, nofun⟩
      · next unpacked hunpack =>
        obtain ⟨hfills, hall⟩ := Disk.unpack_spec (hlinks.of_fills hmade) hunpack
        split at h
        · next time _ =>
          cases h
          have hgrows := unpacked.touch_grows dir time
          exact ⟨(hmade.trans hfills).trans hgrows.toFills, fun _ => (hall rfl).of_grows hgrows⟩
        · cases h
          exact ⟨hmade.trans hfills, hall⟩

/-- How a download ends, and the disk that it leaves. The server was asked with the time of the
directory, unless the download failed before. -/
inductive Ends (settings : HttpSettings) (dir address : String) (w : Workspace) :
    Except BuildError DownloadOutcome → Disk → Prop
  | refused {e : BuildError} : Ends settings dir address w (.error e) w.disk
  | unmodified {url : Url} {r : Http.Response} (hurl : Url.read? address = some url)
      (hr : w.server.response? url
        (requestFor settings.userAgent (w.disk.modifiedTime? dir) url) = some r)
      (h : r.isUnmodified = true) : Ends settings dir address w (.ok .notModified) w.disk
  | brokeOff {form : Form} {r : Http.Response} {e : BuildError} {d : Disk}
      (h : extract dir form r w.disk = (.error e, d)) : Ends settings dir address w (.error e) d
  | extracted {url : Url} {form : Form} {r : Http.Response} {d : Disk}
      (hurl : Url.read? address = some url) (hform : formOf? address = some form)
      (hr : w.server.response? url
        (requestFor settings.userAgent (w.disk.modifiedTime? dir) url) = some r)
      (hnew : r.isUnmodified = false) (h : extract dir form r w.disk = (.ok (), d)) :
      Ends settings dir address w (.ok .extracted) d

theorem exists_response_of_send {server server' : Http.Server} {userAgent address : String}
    {since : Option Time} {r : Http.Response}
    (h : send server userAgent since address = (.ok r, server')) :
    ∃ url, Url.read? address = some url ∧
      server.response? url (requestFor userAgent since url) = some r := by
  unfold send at h
  split at h
  · cases h
  · next url hurl =>
    split at h
    · cases h
    · dsimp only at h
      split at h
      · next hr =>
        cases h
        exact ⟨url, hurl, hr⟩
      · cases h

theorem isUnmodified_of_received? {r r' : Http.Response} (h : r.received? = some r') :
    r'.isUnmodified = r.isUnmodified := by
  unfold Http.Response.received? at h
  split at h
  · cases h
  · cases h
    rfl

/-- An accepted response says that nothing has changed, or it is the archive itself. -/
theorem accept_eq_ok {address : String} {checksum : Option String} {r : Http.Response}
    {found : Option Http.Response} (h : accept address checksum r = .ok found) :
    found = none ∧ r.isUnmodified = true ∨ found = some r ∧ r.isUnmodified = false := by
  unfold accept at h
  split at h
  · next hr =>
    cases h
    exact .inl ⟨rfl, hr⟩
  · next hr =>
    split at h
    · cases h
    · split at h
      · cases h
        exact .inr ⟨rfl, Bool.eq_false_iff.mpr hr⟩
      · cases h

theorem ends_download (settings : HttpSettings) (logger : Logger) (dir address : String)
    (checksum : Option String) (w : Workspace) :
    Ends settings dir address w (download settings logger dir address checksum w).1
      (download settings logger dir address checksum w).2.disk := by
  unfold download
  split
  · exact .refused
  · split
    · exact .refused
    · next form hform =>
      dsimp only
      rcases hsend : send (w.note logger ("Downloading " ++ address)).server settings.userAgent
        ((w.note logger ("Downloading " ++ address)).disk.modifiedTime? dir) address
        with ⟨_ | r, server⟩
      · exact .refused
      · obtain ⟨url, hurl, hr⟩ := exists_response_of_send hsend
        cases haccept : accept address checksum r with
        | error => simpa only [Except.bind, haccept] using .refused
        | ok found =>
          simp only [Except.bind, haccept]
          obtain ⟨rfl, hunmodified⟩ | ⟨rfl, hnew⟩ := accept_eq_ok haccept
          · exact .unmodified hurl hr hunmodified
          · dsimp only
            rcases hextract : extract dir form r (w.note logger _).disk with ⟨_ | _, d⟩
            · exact .brokeOff hextract
            · dsimp only
              rw [noteTime_disk]
              exact .extracted hurl hform hr hnew hextract

end Download

end BuildTool
