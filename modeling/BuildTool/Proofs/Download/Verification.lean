import BuildTool.Proofs.Download.Ending
import BuildTool.Proofs.Script.Assignment
import BuildTool.Proofs.Text.Cut
import Mathlib.Data.List.TakeWhile

/-!
# Verified downloads

A download that is refused, or that is told that nothing has changed, leaves the disk as it was. Any
other one unpacks the body of a response that has the checksum asked for: the digest of the body as
it arrived, before it is unpacked in any way, in hexadecimal digits of either case.

    md5:D41D8CD98F00B204E9800998ECF8427E    a checksum of no bytes

## Sections

* what a checksum says;
* what ends a download before anything is written;
* every download.
-/

namespace BuildTool

/-! ## What a checksum says -/

namespace DigestKind

/-- The name of a digest in front of its value. -/
def label : DigestKind → List Char
  | .md5 => "md5".toList
  | .sha256 => "sha256".toList

end DigestKind

namespace Digest

theorem hexDigit_spec : ∀ n < 16, (Nat.digitChar n).toLower = Nat.digitChar n ∧
    Text.isBlank (Nat.digitChar n) = false := by decide

theorem of_mem_hex {bytes : List UInt8} {c : Char} (h : c ∈ (hex bytes).toList) :
    c.toLower = c ∧ Text.isBlank c = false := by
  rw [hex, String.toList_ofList] at h
  obtain ⟨b, -, hc⟩ := List.mem_flatMap.mp h
  have hbyte : b.toNat < 256 := b.toNat_lt
  simp only [hexByte, List.mem_cons, List.not_mem_nil, or_false] at hc
  rcases hc with rfl | rfl
  · exact hexDigit_spec _ (by omega)
  · exact hexDigit_spec _ (by omega)

end Digest

theorem DigestKind.of_mem_hexOf {kind : DigestKind} {bytes : List UInt8} {c : Char}
    (h : c ∈ (kind.hexOf bytes).toList) : c.toLower = c ∧ Text.isBlank c = false := by
  cases kind <;> exact Digest.of_mem_hex h

namespace Text

theorem toLower_of_isBlank {c : Char} (h : isBlank c = true) : c.toLower = c := by
  unfold Char.toLower
  refine dif_neg fun hupper => ?_
  obtain ⟨hlow, hhigh⟩ := hupper
  simp only [ge_iff_le, UInt32.le_iff_toNat_le] at hlow hhigh
  have hletter : 65 ≤ c.toNat ∧ c.toNat ≤ 90 := ⟨hlow, hhigh⟩
  simp only [isBlank, Bool.or_eq_true, Bool.and_eq_true, decide_eq_true_eq, beq_iff_eq] at h
  omega

end Text

namespace Checksum

/-- The text names a digest and gives its value for these bytes, in digits of either case and with
white space around it or not. -/
def IsOf (text : String) (bytes : List UInt8) : Prop :=
  ∃ kind before digits after,
    text.toList = DigestKind.label kind ++ ':' :: (before ++ (digits ++ after)) ∧
    (∀ c ∈ before, Text.isBlank c = true) ∧ (∀ c ∈ after, Text.isBlank c = true) ∧
    digits.map Char.toLower = (kind.hexOf bytes).toList

theorem parse?_eq_some_iff {text : String} {c : Checksum} : parse? text = some c ↔
    ∃ value, text.toList = c.kind.label ++ ':' :: value ∧
      c.expected = Text.trimBoth Text.isBlank value := by
  obtain ⟨kind, expected⟩ := c
  have hlabel : ':' ∉ kind.label := by cases kind <;> decide
  unfold parse?
  constructor
  · intro h
    split at h
    · next name value hcut =>
      have htext := (Text.cutChar?_eq_some_iff.mp hcut).1
      dsimp only at h
      split at h
      · next hname =>
        cases h
        exact ⟨value, by rw [htext, hname]; rfl, rfl⟩
      · split at h
        · next hname =>
          cases h
          exact ⟨value, by rw [htext, hname]; rfl, rfl⟩
        · cases h
    · cases h
  · rintro ⟨value, htext, rfl⟩
    rw [Text.cutChar?_eq_some_iff.mpr ⟨htext, hlabel⟩]
    cases kind <;> rfl

theorem isMet_iff {c : Checksum} {bytes : List UInt8} :
    c.isMet bytes = true ↔ c.expected.map Char.toLower = (c.kind.hexOf bytes).toList := by
  have hlower : (c.kind.hexOf bytes).toList.map Char.toLower = (c.kind.hexOf bytes).toList :=
    (List.map_congr_left fun d hd => (DigestKind.of_mem_hexOf hd).1).trans (List.map_id _)
  rw [isMet, hlower, beq_iff_eq, eq_comm]

theorem isOf_iff {text : String} {bytes : List UInt8} :
    IsOf text bytes ↔ ∃ c, parse? text = some c ∧ c.isMet bytes = true := by
  constructor
  · rintro ⟨kind, before, digits, after, htext, hbefore, hafter, hdigits⟩
    have hsolid : ∀ c ∈ digits, Text.isBlank c = false := by
      intro c hc
      have hdigit : Text.isBlank c.toLower = false :=
        (DigestKind.of_mem_hexOf (hdigits ▸ List.mem_map_of_mem hc)).2
      refine Bool.eq_false_iff.mpr fun hblank => ?_
      rw [Text.toLower_of_isBlank hblank, hblank] at hdigit
      cases hdigit
    refine ⟨⟨kind, digits⟩, parse?_eq_some_iff.mpr ⟨_, htext, ?_⟩, isMet_iff.mpr hdigits⟩
    exact (Text.trimBoth_append hbefore hsolid hafter).symm
  · rintro ⟨⟨kind, digits⟩, hparse, hmet⟩
    obtain ⟨value, htext, hdigits⟩ := parse?_eq_some_iff.mp hparse
    obtain ⟨before, after, hvalue, hbefore, hafter⟩ := Text.exists_eq_trimBoth Text.isBlank value
    refine ⟨kind, before, digits, after, ?_, hbefore, hafter, isMet_iff.mp hmet⟩
    obtain rfl : digits = Text.trimBoth Text.isBlank value := hdigits
    exact htext.trans (congrArg (fun text => kind.label ++ ':' :: text) hvalue)

example : IsOf "md5: D41D8CD98F00B204E9800998ECF8427E" [] :=
  isOf_iff.mpr ⟨⟨.md5, "D41D8CD98F00B204E9800998ECF8427E".toList⟩, by decide +kernel⟩

end Checksum

namespace Download

theorem verify_eq_ok_iff {address : String} {checksum : Option String} {body : ByteArray} :
    verify address checksum body = .ok () ↔
      ∀ text, checksum = some text → Checksum.IsOf text body.toList := by
  cases checksum with
  | none => simp [verify]
  | some text =>
    simp only [Option.some.injEq, forall_eq', Checksum.isOf_iff, verify]
    cases Checksum.parse? text with
    | none => simp
    | some c => cases c.isMet body.toList <;> simp

/-! ## What ends a download before anything is written -/

/-- The errors of a download that has not come to unpack anything: the address has another end than
those of archives, the server cannot be reached or does not grant the request, the checksum is
malformed, or it is not that of the body. -/
inductive IsRefusal : BuildError → Prop
  | suffix (address : String) : IsRefusal (.unsupportedArchive address)
  | network (fault : NetworkFault) : IsRefusal (.network fault)
  | malformed (text : String) : IsRefusal (.command (.badChecksum text))
  | mismatch (address : String) : IsRefusal (.checksumMismatch address)

/-- The download has ended without having come to unpack anything. -/
def Stops (result : Except BuildError DownloadOutcome) : Prop :=
  result = .ok .notModified ∨ ∃ e, result = .error e ∧ IsRefusal e

theorem isRefusal_of_send {server server' : Http.Server} {userAgent address : String}
    {since : Option Time} {e : BuildError}
    (h : send server userAgent since address = (.error e, server')) : IsRefusal e := by
  unfold send at h
  split at h
  · cases h
    exact .network _
  · split at h
    · cases h
      exact .network _
    · dsimp only at h
      split at h <;> cases h
      exact .network _

theorem isRefusal_of_verify {address : String} {checksum : Option String} {body : ByteArray}
    {e : BuildError} (h : verify address checksum body = .error e) : IsRefusal e := by
  unfold verify at h
  split at h
  · cases h
  · split at h
    · cases h
      exact .malformed _
    · split at h <;> cases h
      exact .mismatch _

theorem isRefusal_of_accept {address : String} {checksum : Option String} {r : Http.Response}
    {e : BuildError} (h : accept address checksum r = .error e) : IsRefusal e := by
  unfold accept at h
  split at h
  · cases h
  · split at h
    · cases h
      exact .network _
    · split at h
      · cases h
      · next hverify =>
        cases h
        exact isRefusal_of_verify hverify

/-- A response is accepted as an archive if its status grants the request and its body has the
checksum. -/
theorem of_accept {address : String} {checksum : Option String} {r r' : Http.Response}
    (h : accept address checksum r = .ok (some r')) : r' = r ∧ r.isSuccess = true ∧
      ∀ text, checksum = some text → Checksum.IsOf text r.body.toList := by
  unfold accept at h
  split at h
  · cases h
  · split at h
    · cases h
    · next hsuccess =>
      split at h
      · next hverify =>
        cases h
        exact ⟨rfl, by simpa using hsuccess, verify_eq_ok_iff.mp hverify⟩
      · cases h

/-- An archive that cannot be unpacked is no reason to refuse a download. -/
theorem not_isRefusal_of_unpackEntry {d d' : Disk} {dir : String} {e : ArchiveEntry}
    {problem : BuildError} (h : d.unpackEntry dir e = (.error problem, d')) :
    ¬ IsRefusal problem := by
  generalize hresult : Except.error problem = result at h
  cases Disk.ends_unpackEntry h with
  | unsupported | escapes | blocked | outside =>
    cases hresult
    exact nofun
  | passed => cases hresult
  | @placed _ _ _ _ _ went =>
    cases went <;> cases hresult
    exact nofun

theorem not_isRefusal_of_unpack {d d' : Disk} {dir : String} {items : List ArchiveItem}
    {problem : BuildError} (h : Disk.unpack dir items d = (.error problem, d')) :
    ¬ IsRefusal problem := by
  induction items generalizing d with
  | nil => cases h
  | cons item rest ih =>
    cases item with
    | damage =>
      cases h
      exact nofun
    | entry e =>
      rw [Disk.unpack] at h
      rcases hentry : d.unpackEntry dir e with ⟨_ | _, d₁⟩ <;> rw [hentry] at h
      · cases h
        exact not_isRefusal_of_unpackEntry hentry
      · exact ih h

theorem not_isRefusal_of_extract {dir : String} {form : Form} {r : Http.Response} {d d' : Disk}
    {problem : BuildError} (h : extract dir form r d = (.error problem, d')) :
    ¬ IsRefusal problem := by
  unfold extract at h
  split at h
  · cases h
    exact nofun
  · split at h
    · cases h
      exact nofun
    · split at h
      · next hunpack =>
        cases h
        exact not_isRefusal_of_unpack hunpack
      · split at h <;> cases h

/-! ## Every download -/

/-- The download has unpacked the archive in a response that the server gave, as far as that went:
the status of the response grants the request, and the body has the checksum asked for. -/
structure Unpacks (settings : HttpSettings) (dir address : String) (checksum : Option String)
    (w : Workspace) (form : Form) (r : Http.Response)
    (result : Except BuildError DownloadOutcome) (d : Disk) : Prop where
  given : ∃ url, Url.read? address = some url ∧ w.server.response? url
    (requestFor settings.userAgent (w.disk.modifiedTime? dir) url) = some r
  formOf : formOf? address = some form
  granted : r.isSuccess = true
  verified : ∀ text, checksum = some text → Checksum.IsOf text r.body.toList
  extracts : ∃ outcome, extract dir form r w.disk = (outcome, d) ∧
    result = outcome.map fun _ => .extracted

/-- A download that has unpacked something does not stop before, however it ends. -/
theorem Unpacks.not_stops {settings : HttpSettings} {dir address : String}
    {checksum : Option String} {w : Workspace} {form : Form} {r : Http.Response}
    {result : Except BuildError DownloadOutcome} {d : Disk}
    (h : Unpacks settings dir address checksum w form r result d) : ¬ Stops result := by
  obtain ⟨problem | _, hextract, rfl⟩ := h.extracts
  · rintro (hok | ⟨e, he, hrefusal⟩)
    · cases hok
    · cases he
      exact not_isRefusal_of_extract hextract hrefusal
  · rintro (hok | ⟨e, he, -⟩)
    · cases hok
    · cases he

theorem stops_or_unpacks (settings : HttpSettings) (logger : Logger) (dir address : String)
    (checksum : Option String) (w : Workspace) :
    let after := download settings logger dir address checksum w
    Stops after.1 ∧ after.2.disk = w.disk ∨
      ∃ form r, Unpacks settings dir address checksum w form r after.1 after.2.disk := by
  unfold download
  split
  · exact .inl ⟨.inr ⟨_, rfl, .network _⟩, rfl⟩
  · split
    · exact .inl ⟨.inr ⟨_, rfl, .suffix _⟩, rfl⟩
    · next form hform =>
      dsimp only
      rcases hsend : send (w.note logger ("Downloading " ++ address)).server settings.userAgent
        ((w.note logger ("Downloading " ++ address)).disk.modifiedTime? dir) address
        with ⟨e | r, server⟩
      · exact .inl ⟨.inr ⟨e, rfl, isRefusal_of_send hsend⟩, rfl⟩
      · cases haccept : accept address checksum r with
        | error e =>
          simp only [Except.bind, haccept]
          exact .inl ⟨.inr ⟨e, rfl, isRefusal_of_accept haccept⟩, rfl⟩
        | ok found =>
          simp only [Except.bind, haccept]
          cases found with
          | none => exact .inl ⟨.inl rfl, rfl⟩
          | some r' =>
            obtain ⟨rfl, hsuccess, hverified⟩ := of_accept haccept
            obtain ⟨url, hurl, hr⟩ := exists_response_of_send hsend
            dsimp only
            rcases hextract : extract dir form r' (w.note logger _).disk with ⟨_ | _, d⟩
            · exact .inr ⟨form, r', ⟨url, hurl, hr⟩, hform, hsuccess, hverified, _, hextract, rfl⟩
            · dsimp only
              rw [noteTime_disk]
              exact .inr ⟨form, r', ⟨url, hurl, hr⟩, hform, hsuccess, hverified, _, hextract, rfl⟩

/-- A download that stops leaves the disk as it was, to the last modification time. Any other one
has unpacked the body of a response, as far as that went, and this body has the checksum that was
asked for. -/
theorem download_verifies_before_writing (settings : HttpSettings) (logger : Logger)
    (dir address : String) (checksum : Option String) (w : Workspace) :
    let after := download settings logger dir address checksum w
    (Stops after.1 → after.2.disk = w.disk) ∧
      (¬ Stops after.1 →
        ∃ form r, Unpacks settings dir address checksum w form r after.1 after.2.disk) := by
  rcases stops_or_unpacks settings logger dir address checksum w with ⟨hstops, hdisk⟩ | hunpacks
  · exact ⟨fun _ => hdisk, fun hgoes => absurd hstops hgoes⟩
  · obtain ⟨form, r, h⟩ := hunpacks
    exact ⟨fun hstops => absurd hstops h.not_stops, fun _ => ⟨form, r, h⟩⟩

end Download

end BuildTool
