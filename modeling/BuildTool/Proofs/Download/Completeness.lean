import BuildTool.Proofs.Download.Calls
import BuildTool.Proofs.Text.Decoding

/-!
# Complete downloads

A download asks for an archive only if it has changed since the time of the directory, and the time
of the archive is given to the directory when all of it has been unpacked. A download that breaks
off while it unpacks leaves the time of its last change instead. The next one is told that the
archive is older than that, and takes the directory for whole:

    extracted        everything in the archive is there
    not modified     everything in the archive is there, unless the last download that
                     changed the directory broke off

Without the last clause the second line is false.
-/

namespace BuildTool

open BuildTool.Tree
open Text (octets)

namespace Download

namespace Offer

variable {o : Offer} {dir : String} {c : Call}

/-! ## What the time of the directory decides -/

/-- A call gets through to the server. -/
structure Arrives (o : Offer) (c : Call) (form : Form) (url : Url) : Prop where
  agent : Http.isHeaderValue c.settings.userAgent = true
  formOf : formOf? o.address = some form
  address : Url.read? o.address = some url
  sendable : url.canBeSent = true
  time : Http.Response.isBroken o.lastModified = false

/-- The archive as it arrives. -/
def received (o : Offer) : Http.Response where
  lastModified := some (Http.headerText o.lastModified)
  body := o.body

theorem received?_answer (o : Offer) (request : Http.Request)
    (htime : Http.Response.isBroken o.lastModified = false) :
    (o.answer request).received? =
      some (if o.isUnchangedFor request then { status := 304 } else o.received) := by
  unfold answer Http.Response.received?
  split
  · rfl
  · rw [if_neg]
    · rfl
    · simp [Http.Response.isInterim, htime]

theorem Arrives.send_eq {form : Form} {url : Url} (h : o.Arrives c form url)
    (hserved : o.IsServed dir c) :
    send c.before.server c.settings.userAgent (c.before.disk.modifiedTime? dir) o.address =
      (.ok (if o.isUnchangedFor (c.request dir url) then { status := 304 } else o.received),
        (c.before.server.answer url (c.request dir url)).2) := by
  have hresponse : c.before.server.response? url (c.request dir url) =
      some (if o.isUnchangedFor (c.request dir url) then { status := 304 } else o.received) := by
    rw [Http.Server.response?, hserved url h.address, Option.bind_some, o.received?_answer _ h.time]
  unfold Call.request at hresponse ⊢
  simp only [send, h.address, h.sendable, Bool.not_true, Bool.false_eq_true, if_false, hresponse]

/-- A call that is served unpacks the archive, unless the directory is as new. -/
theorem outcome_of_arrives {form : Form} {url : Url} (h : o.Arrives c form url)
    (hserved : o.IsServed dir c) : (o.result dir c, (o.after dir c).disk) =
      if o.isUnchangedFor (c.request dir url) then (.ok .notModified, c.before.disk)
      else
        match verify o.address c.checksum o.body with
        | .error e => (.error e, c.before.disk)
        | .ok () => ((extract dir form o.received c.before.disk).1.map fun _ => .extracted,
            (extract dir form o.received c.before.disk).2) := by
  have hsend : send (c.before.note c.logger ("Downloading " ++ o.address)).server
      c.settings.userAgent
      ((c.before.note c.logger ("Downloading " ++ o.address)).disk.modifiedTime? dir) o.address =
        _ := h.send_eq hserved
  unfold result after download
  rw [h.agent, h.formOf]
  dsimp only [Bool.not_true]
  rw [hsend]
  cases o.isUnchangedFor (c.request dir url) with
  | true => rfl
  | false =>
    have haccept : accept o.address c.checksum o.received =
        (verify o.address c.checksum o.body).map fun _ => some o.received := by
      unfold accept received
      cases verify o.address c.checksum o.body <;> rfl
    have hdisk : (c.before.note c.logger ("Downloading " ++ o.address)).disk = c.before.disk := rfl
    simp only [Bool.not_true, Bool.false_eq_true, if_false, Except.bind, haccept, hdisk]
    cases verify o.address c.checksum o.body with
    | error e => rfl
    | ok checked =>
      dsimp only [Except.map]
      rcases extract dir form o.received c.before.disk with ⟨_ | _, d⟩
      · rfl
      · exact Prod.ext rfl (noteTime_disk ..)

end Offer

/-! ## A small archive -/

namespace Small

/-- Where the archive is. -/
def url : Url where
  scheme := "http"
  host := some "[::1]"
  port := some 8080
  path := "/p.tar"

/-- An entry for a file with one byte as its name and one as its content, and the digits of the sum
in its header. -/
def fileBytes (name content : UInt8) (digits : List UInt8) : List UInt8 :=
  name :: List.replicate 123 0 ++ 49 :: List.replicate 23 0 ++ digits ++ List.replicate 361 0 ++
    content :: List.replicate 511 0

def file (name content : UInt8) : ArchiveEntry where
  kind := .regular
  name := [name]
  isOldStyle := true
  mode := none
  modified := none
  content := [content]
  isWhole := true

/-- An archive of two files, cut off after so many bytes. -/
def offer (size : Nat) : Offer where
  address := "http://[::1]:8080/p.tar"
  lastModified := "Tue, 10 Mar 2020 10:00:00 GMT"
  body := ⟨((fileBytes 97 120 [54, 50, 50] ++ fileBytes 98 121 [54, 50, 51]).take size).toArray⟩

/-- A call into directory `d` that gets so much of the archive. -/
def call (size : Nat) (d : Disk) : Call where
  before := {
    disk := d
    server := {
      host := "[::1]"
      responses := [("/p.tar",
        [(offer size).answer (requestFor defaultUserAgent (d.modifiedTime? "d") url)])] } }

section

variable (size : Nat) (d : Disk)

theorem arrives_call : (offer size).Arrives (call size d) .plain url where
  agent := show Http.isHeaderValue defaultUserAgent = true by
    rw [Http.isHeaderValue, ByteArray.toList_eq]
    decide
  formOf := show formOf? "http://[::1]:8080/p.tar" = some .plain by decide
  address := show Url.read? "http://[::1]:8080/p.tar" = some url by
    with_unfolding_all rfl
  sendable := by decide
  time := show Http.Response.isBroken "Tue, 10 Mar 2020 10:00:00 GMT" = false by decide

theorem isServed_call : (offer size).IsServed "d" (call size d) := by
  intro url' hurl
  obtain rfl : url = url' := Option.some.inj ((arrives_call size d).address.symm.trans hurl)
  rfl

theorem itemsOf_received : itemsOf .plain (offer size).received.body =
    ArchiveItem.read ⟨(fileBytes 97 120 [54, 50, 50] ++ fileBytes 98 121 [54, 50, 51]).take size,
      false⟩ := by
  rw [itemsOf, ByteSource.ofBytes, ByteArray.toList_eq]
  rfl

/-- What is read of the whole archive, and of it without the end. -/
theorem itemsOf_wholeAndCut :
    itemsOf .plain (offer 2048).received.body = [.entry (file 97 120), .entry (file 98 121)] ∧
      itemsOf .plain (offer 1100).received.body = [.entry (file 97 120), .damage] := by
  rw [itemsOf_received, itemsOf_received]
  decide +kernel

theorem items_offer : (offer size).items = itemsOf .plain (offer size).received.body := by
  rw [Offer.items, (arrives_call size (.setUp 0)).formOf]
  rfl

/-- The archive goes into a directory that is not there. -/
theorem outcome_call_absent (h : d.modifiedTime? "d" = none) :
    ((offer size).result "d" (call size d), ((offer size).after "d" (call size d)).disk) =
      ((extract "d" .plain (offer size).received d).1.map fun _ => .extracted,
        (extract "d" .plain (offer size).received d).2) := by
  have hchanged : (offer size).isUnchangedFor ((call size d).request "d" url) = false :=
    (offer size).isUnchangedFor_of_absent url h
  rw [Offer.outcome_of_arrives (arrives_call size d) (isServed_call size d), hchanged]
  rfl

/-- Nothing is unpacked into a directory that is as new as the archive. -/
theorem outcome_call_unchanged {time since : Time} (h : d.modifiedTime? "d" = some time)
    (hsince : HttpDate.read? (HttpDate.write time) = some since)
    (hle : 1583834400000000000 ≤ since) :
    ((offer size).result "d" (call size d), ((offer size).after "d" (call size d)).disk) =
      (.ok .notModified, d) := by
  have hchanged : HttpDate.read? (offer size).lastModified = some 1583834400000000000 :=
    show HttpDate.read? "Tue, 10 Mar 2020 10:00:00 GMT" = some 1583834400000000000 by decide
  have hcompared : (offer size).isUnchangedFor ((call size d).request "d" url) =
      decide (1583834400000000000 ≤ since) :=
    Offer.isUnchangedFor_of_modified url h hsince hchanged
  rw [Offer.outcome_of_arrives (arrives_call size d) (isServed_call size d), hcompared,
    decide_eq_true hle]
  rfl

theorem isAbsent_setUp (time : Time) : (Disk.setUp time).IsAbsent "d" := by
  have hstep : IsStep "d" := ⟨by decide, by decide, by decide⟩
  have hoctets : octets "d" = "d" := by with_unfolding_all decide
  have hpath : pathElements "d" = ["d"] := by decide
  have hfree : (Disk.setUp time).tree.locate (Disk.setUp time).work true (octets "d") =
      .ok (.free ["box", "work"] "d") := by
    rw [hoctets, Tree.locate, if_neg (by decide), if_neg (by decide), hpath,
      if_neg (mt Path.startsWith_slash_iff.mp (by decide))]
    exact walk_free hstep rfl
  exact .of_free hfree (isLinkFree_initial time _)

/-- The calls are the same ones for the archive and for a part of it. -/
theorem result_offer (whole : Nat) (c : Call) :
    (offer whole).result "d" c = (offer size).result "d" c := by
  have haddress : (offer whole).address = (offer size).address := rfl
  rw [Offer.result, Offer.result, haddress]

theorem after_offer (whole : Nat) (c : Call) :
    (offer whole).after "d" c = (offer size).after "d" c := by
  have haddress : (offer whole).address = (offer size).address := rfl
  rw [Offer.after, Offer.after, haddress]

variable {d} in
theorem isNext_call (h : d.HasNoLinksIn (octets "d")) : (offer size).IsNext "d" d (call size d) :=
  ⟨.refl h, .inl (isServed_call size d)⟩

end

/-- A machine that was set up after the archive was last changed. -/
def machine : Disk := .setUp 2000000000000000000

/-- A call on that machine that finds no server. -/
def lonelyCall : Call where
  before := { disk := machine }

end Small

/-! ## Every call that goes well -/

namespace Offer

variable {o : Offer} {dir : String} {start d : Disk} {cs : List Call} {c : Call}

/-- After calls for an archive into a directory that was absent at first, everything in the archive
is there when a call has unpacked it, or has been told that nothing has changed and no call before
it left the directory broken. -/
theorem successful_call_leaves_all (habsent : start.IsAbsent dir) (h : o.Calls dir start cs d)
    (hc : o.IsNext dir d c) :
    (o.result dir c = .ok .extracted → (o.after dir c).disk.HoldsAll (octets dir) o.items) ∧
    (o.result dir c = .ok .notModified → ¬ o.LeftBroken dir cs →
      (∃ c ∈ cs, o.result dir c = .ok .extracted) ∧
        (o.after dir c).disk.HoldsAll (octets dir) o.items) := by
  have hleaves := (h.leaves habsent).of_same hc.same
  exact ⟨hleaves.extracted hc.served, hleaves.unmodified hc.served⟩

section

open BuildTool.Download.Small

/-- The archive is unpacked after a call that failed, and then it has not changed. -/
theorem successful_call_leaves_all_unchanged : ∃ d d',
    (offer 2048).Calls "d" machine [lonelyCall, call 2048 d] d' ∧
    (offer 2048).IsNext "d" d' (call 2048 d') ∧
    (offer 2048).result "d" (call 2048 d) = .ok .extracted ∧
    (offer 2048).result "d" (call 2048 d') = .ok .notModified ∧
    ((offer 2048).after "d" (call 2048 d')).disk.HoldsAll (octets "d") (offer 2048).items := by
  have habsent : machine.IsAbsent "d" := isAbsent_setUp _
  have hlonely : (offer 2048).result "d" lonelyCall =
      .error (.network (.unreachable "http://[::1]:8080/p.tar")) := by decide +kernel
  have hcalls : (offer 2048).Calls "d" machine [lonelyCall]
      ((offer 2048).after "d" lonelyCall).disk :=
    .call .none ⟨.refl habsent.noLinks, .inr ⟨_, hlonely⟩⟩
  have hnone : ((offer 2048).after "d" lonelyCall).disk.modifiedTime? "d" = none := by
    decide +kernel
  have hextracted : (extract "d" .plain (offer 2048).received
      ((offer 2048).after "d" lonelyCall).disk).1 = .ok () := by
    rw [extract, itemsOf_wholeAndCut.1]
    decide +kernel
  have htime : (extract "d" .plain (offer 2048).received
      ((offer 2048).after "d" lonelyCall).disk).2.modifiedTime? "d" =
        some 1583834400000000000 := by
    rw [extract, itemsOf_wholeAndCut.1]
    decide +kernel
  have hsince : HttpDate.read? (HttpDate.write 1583834400000000000) =
      some 1583834400000000000 := by decide +kernel
  generalize ((offer 2048).after "d" lonelyCall).disk = d at hcalls hnone hextracted htime
  obtain ⟨hfirst, hafter⟩ := Prod.mk.inj (outcome_call_absent 2048 d hnone)
  rw [hextracted] at hfirst
  rw [← hafter] at htime
  have hcalls' : (offer 2048).Calls "d" machine [lonelyCall, call 2048 d]
      ((offer 2048).after "d" (call 2048 d)).disk :=
    hcalls.call (isNext_call 2048 (hcalls.leaves habsent).noLinks)
  generalize ((offer 2048).after "d" (call 2048 d)).disk = d' at hcalls' htime
  have hsecond := (Prod.mk.inj (outcome_call_unchanged 2048 d' htime hsince (Int.le_refl _))).1
  have hbroken : ¬ (offer 2048).LeftBroken "d" ([lonelyCall] ++ [call 2048 d]) :=
    not_leftBroken_concat hfirst
  have hnext := isNext_call 2048 (hcalls'.leaves habsent).noLinks
  have hall := (successful_call_leaves_all habsent hcalls' hnext).2 hsecond hbroken
  exact ⟨d, d', hcalls', hnext, hfirst, hsecond, hall.2⟩

/-- The second file is cut off, and then the archive has not changed. -/
theorem broken_call_counts_as_whole : machine.IsAbsent "d" ∧ ∃ d,
    (offer 2048).Calls "d" machine [call 1100 machine] d ∧
    (offer 2048).IsNext "d" d (call 2048 d) ∧
    (offer 2048).result "d" (call 2048 d) = .ok .notModified ∧
    ¬ ((offer 2048).after "d" (call 2048 d)).disk.HoldsAll (octets "d") (offer 2048).items := by
  have habsent : machine.IsAbsent "d" := isAbsent_setUp _
  have hnone : machine.modifiedTime? "d" = none := by decide +kernel
  have hbroken : (extract "d" .plain (offer 1100).received machine).1 =
      .error (.io "d" .damaged) := by
    rw [extract, itemsOf_wholeAndCut.2]
    decide +kernel
  have htime : (extract "d" .plain (offer 1100).received machine).2.modifiedTime? "d" =
      some 2000000000000000000 := by
    rw [extract, itemsOf_wholeAndCut.2]
    decide +kernel
  have htop : ((extract "d" .plain (offer 1100).received machine).2.stat "d").map Prod.fst =
      .ok ["box", "work", "d"] := by
    rw [extract, itemsOf_wholeAndCut.2]
    decide +kernel
  have hlost : (extract "d" .plain (offer 1100).received machine).2.tree.content?
      ["box", "work", "d", "b"] = none := by
    rw [extract, itemsOf_wholeAndCut.2]
    decide +kernel
  have hsince : HttpDate.read? (HttpDate.write 2000000000000000000) =
      some 2000000000000000000 := by decide +kernel
  obtain ⟨hfirst, hafter⟩ := Prod.mk.inj (outcome_call_absent 1100 machine hnone)
  rw [hbroken] at hfirst
  have hfails : (offer 2048).result "d" (call 1100 machine) = .error (.io "d" .damaged) :=
    (result_offer 1100 2048 _).trans hfirst
  have hcalls : (offer 2048).Calls "d" machine [call 1100 machine]
      ((offer 2048).after "d" (call 1100 machine)).disk :=
    .call .none ⟨.refl habsent.noLinks, .inr ⟨_, hfails⟩⟩
  rw [← hafter, ← after_offer 1100 2048] at htime htop hlost
  generalize ((offer 2048).after "d" (call 1100 machine)).disk = d at hcalls htime htop hlost
  obtain ⟨hsecond, hsame⟩ := Prod.mk.inj
    (outcome_call_unchanged 2048 d htime hsince (by decide))
  refine ⟨habsent, d, hcalls, isNext_call 2048 (hcalls.leaves habsent).noLinks, hsecond, ?_⟩
  rw [hsame, items_offer, itemsOf_wholeAndCut.1]
  intro hall
  have hnamed : (file 98 121).steps? = some ["b"] := by decide +kernel
  obtain ⟨e, steps, he, hsteps, -, hplaced⟩ := hall [_] _ [] rfl
  cases he
  obtain rfl : ["b"] = steps := Option.some.inj (hnamed.symm.trans hsteps)
  obtain ⟨top, old, hstat, -, -, hfile⟩ := hplaced (by simp)
  have hcontent := hfile (by decide +kernel) fun _ hlater => absurd hlater List.not_mem_nil
  rw [Disk.stat, hstat] at htop
  cases htop
  rw [show ["box", "work", "d"] ++ ["b"] = ["box", "work", "d", "b"] from rfl, hlost] at hcontent
  cases hcontent

end

end Offer

end Download

end BuildTool
