import BuildTool.Proofs.Download.Completeness
import BuildTool.Proofs.Files.Making
import BuildTool.Proofs.Http.Dates
import Mathlib.Data.List.TakeWhile

/-!
# The time of a directory

A download that unpacks an archive gives the directory the time of the archive, and the next one
asks for the archive with that time: the server is told the time that it said itself, character for
character, or the same time on a clock that runs on universal time.

    Last-Modified: Tue, 10 Mar 2020 10:00:00 GMT      →    If-Modified-Since: the same
    Last-Modified: Tue, 10 Mar 2020 11:00:00 +0100    →    If-Modified-Since: … 10:00:00 GMT

For that the path of the directory must lead to one directory all the time, over whatever links.

## Sections

* the time of a directory;
* the directory that an archive is unpacked into;
* times in headers;
* one download after the other.
-/

namespace BuildTool

open BuildTool.Tree
open Text (octets)

/-! ## The time of a directory -/

namespace Disk

theorem modifiedTime?_of_stat {d : Disk} {path : String} {loc : Location} {e : Entry}
    (h : d.stat path = .ok (loc, e)) : d.modifiedTime? path = some e.modified := by
  rw [Disk.modifiedTime?, Tree.modifiedTime?, ← Disk.stat, h]

/-- The time of a directory is one of the things that are the same. -/
theorem SameDirectory.modifiedTime? {d d' : Disk} {dir : String} {time : Time}
    (h : SameDirectory dir d d') (htime : d.modifiedTime? dir = some time) :
    d'.modifiedTime? dir = some time := by
  cases hstat : d.stat dir with
  | error fault =>
    rw [Disk.modifiedTime?, Tree.modifiedTime?, ← Disk.stat, hstat] at htime
    cases htime
  | ok found =>
    obtain ⟨⟨e', hstat'⟩, hsame⟩ := h.of_ok hstat
    have hget := hsame []
    rw [List.append_nil, get?_of_stat hstat, get?_of_stat hstat'] at hget
    cases hget
    rw [modifiedTime?_of_stat hstat'] at *
    rw [modifiedTime?_of_stat hstat] at htime
    exact htime

theorem SameDirectory.of_modifiedTime? {d : Disk} {dir : String} {time : Time}
    (h : d.modifiedTime? dir = some time) : SameDirectory dir d d := by
  unfold SameDirectory
  split
  · next hstat => exact ⟨⟨_, hstat⟩, fun _ => rfl⟩
  · next hstat =>
    rw [Disk.modifiedTime?, Tree.modifiedTime?, ← Disk.stat, hstat] at h
    cases h

/-! ## The directory that an archive is unpacked into -/

namespace LeadsTo

variable {d d' : Disk} {dir : String} {top : Location}

section

variable {steps : List String} (hsteps : ∀ name ∈ steps, Path.IsElement name) (hne : steps ≠ [])
include hsteps hne

/-- An entry that is gone was not on the way to the directory, if a path into it leads somewhere. -/
theorem of_loses {t' : Tree} {loc : Location} {follow : Bool} {place : Place}
    (h : d.LeadsTo dir top) (hloses : d.tree.Loses t' loc) (hother : top ≠ loc)
    (hplace : t'.locate d.work follow (Path.below dir steps) = .ok place) :
    (d.withTree t').LeadsTo dir top := by
  obtain ⟨time, hstat⟩ := h
  obtain ⟨hdir, hshort, hwalks⟩ := locate_eq_ok_iff.mp (locate_of_stat hstat)
  have hwalk := (walks_of_locate hplace).2.walk_eq
  have hstart : startOf d.work (Path.below dir steps) = startOf d.work dir := by
    rw [startOf, startOf, Path.startsWith_below hsteps hdir]
  rw [hstart, Path.pathElements_below hsteps hdir] at hwalk
  obtain ⟨e', hwalks', hway⟩ := hwalks.of_loses hloses hother hne hwalk
  cases e' <;> cases hway
  exact ⟨_, stat_of_locate (locate_eq_ok_iff.mpr ⟨hdir, hshort, hwalks'⟩)⟩

omit hsteps hne in
theorem of_placeNewFile {path : String} {e : Entry} (h : d.LeadsTo dir top) (hstop : e.way = .stop)
    (hplaced : d.placeNewFile path e = (true, d')) : d'.LeadsTo dir top := by
  obtain ⟨parent, name, hplace, rfl⟩ := exists_free_of_placeNewFile hplaced
  have hfree : d.tree.get? (parent ++ [name]) = none := isEndOf_of_locate hplace
  exact h.of_fills ⟨rfl, .insert hfree (fun target => by rw [hstop]; exact nofun) d.time⟩

theorem of_placeFile {e : Entry} (h : d.LeadsTo dir top) (hstop : e.way = .stop)
    (hplaced : d.placeFile (Path.below dir steps) e = (true, d')) : d'.LeadsTo dir top := by
  unfold placeFile at hplaced
  split at hplaced
  · cases hplaced
  · next loc old hdirectory hplace =>
    have hother : top ≠ loc := by
      rintro rfl
      obtain ⟨time, hstat⟩ := h
      have hold : d.tree.get? top = some old := isEndOf_of_locate hplace
      rw [get?_of_stat hstat] at hold
      cases hold
      exact hdirectory time rfl
    obtain ⟨_, _, hfree, -⟩ := exists_free_of_placeNewFile hplaced
    have hremoved := h.of_loses hsteps hne (loses_remove _ d.time _) hother hfree
    exact hremoved.of_placeNewFile hstop hplaced
  · exact h.of_placeNewFile hstop hplaced

theorem of_place {e : ArchiveEntry} (h : d.LeadsTo dir top)
    (hplaced : d.place (Path.below dir steps) e = (true, d')) : d'.LeadsTo dir top := by
  unfold place at hplaced
  split at hplaced
  · cases hplaced
  · split at hplaced
    · split at hplaced
      · next hdirectory =>
        cases hplaced
        exact h.of_fills (placeDirectory?_grows hdirectory).toFills
      · cases hplaced
    · dsimp only at hplaced
      generalize hfile : d.placeFile (Path.below dir steps) _ = placed at hplaced
      obtain ⟨made, d₁⟩ := placed
      obtain ⟨hmade, rfl⟩ := Prod.mk.inj hplaced
      obtain rfl : made = true := (Bool.and_eq_true_iff.mp hmade).1
      exact h.of_placeFile hsteps hne rfl hfile

end

theorem of_unpackEntry {e : ArchiveEntry} (h : d.LeadsTo dir top)
    (hentry : d.unpackEntry dir e = (.ok (), d')) : d'.LeadsTo dir top := by
  generalize hresult : Except.ok () = result at hentry
  cases ends_unpackEntry hentry with
  | unsupported | escapes | blocked | outside => cases hresult
  | passed => exact h
  | @placed _ _ d₁ _ _ went _ hname hne _ hinside _ hplace =>
    cases went with
    | false => cases hresult
    | true =>
      have hgrows : d.Grows d₁ := (makeInside?_grows hinside).2 d₁ rfl
      exact (h.of_fills hgrows.toFills).of_place (ArchiveEntry.isElement_of_mem_steps hname) hne
        hplace

/-- The path of a directory leads to it still when an archive has been unpacked into it. -/
theorem of_unpack {items : List ArchiveItem} (h : d.LeadsTo dir top)
    (hunpack : unpack dir items d = (.ok (), d')) : d'.LeadsTo dir top := by
  induction items generalizing d with
  | nil =>
    cases hunpack
    exact h
  | cons item rest ih =>
    cases item with
    | damage => cases hunpack
    | entry e =>
      rw [unpack] at hunpack
      rcases hentry : d.unpackEntry dir e with ⟨_ | _, d₁⟩ <;> rw [hentry] at hunpack
      · cases hunpack
      · exact ih (h.of_unpackEntry hentry) hunpack

theorem modifiedTime?_touch (h : d.LeadsTo (octets dir) top) (time : Time) :
    (d.touch dir time).modifiedTime? dir = some time := by
  obtain ⟨old, hstat⟩ := h
  have hset : d.tree.setModified d.work (octets dir) time = .ok (d.tree.stamp top time) := by
    rw [Tree.setModified, hstat]
  have hfills : d.tree.Fills (d.tree.stamp top time) := .of_way?_eq (d.tree.way?_stamp time top)
  obtain ⟨e', hstat', -⟩ := hfills.stat hstat
  have hget : (d.tree.stamp top time).get? top = some (.directory time) := by
    rw [get?_stamp, if_pos rfl, get?_of_stat hstat]
    rfl
  rw [get?_of_stat hstat'] at hget
  cases hget
  have htouch : d.touch dir time = d.withTree (d.tree.stamp top time) := by rw [touch, hset]
  rw [htouch]
  exact modifiedTime?_of_stat (d := d.withTree _) hstat'

end LeadsTo

end Disk

namespace Download

theorem modifiedTime?_of_extract {dir : String} {form : Form} {r : Http.Response} {d d' : Disk}
    {time : Time} (hdir : dir ≠ "") (h : extract dir form r d = (.ok (), d'))
    (htime : timeOf? r = some time) : d'.modifiedTime? dir = some time := by
  unfold extract at h
  split at h
  · cases h
  split at h
  · cases h
  next made hmakes =>
  have hmakes : d.makeAll (octets dir :: Path.parents (octets dir)) = (none, made) := hmakes
  have hoctets : Text.octets dir ≠ "" := mt Text.octets_eq_empty_iff.mp hdir
  obtain ⟨top, hleads⟩ := Disk.exists_leadsTo_of_makeAll hoctets hmakes
  rw [htime] at h
  split at h
  · cases h
  next hunpack =>
  cases h
  exact (hleads.of_unpack hunpack).modifiedTime?_touch time

end Download

/-! ## Times in headers -/

namespace HttpDate

/-- A character that can be seen, on any keyboard. -/
def IsVisible (c : Char) : Prop := 32 < c.toNat ∧ c.toNat < 127

instance (c : Char) : Decidable (IsVisible c) := inferInstanceAs (Decidable (_ ∧ _))

theorem isVisible_of_mem_pair : ∀ n < 100, ∀ c ∈ pair n, IsVisible c := by decide

theorem isVisible_of_mem_weekday : ∀ n < 7,
    ∀ c ∈ (Calendar.short (Calendar.weekdayName n)).toList, IsVisible c := by decide

theorem isVisible_of_mem_month : ∀ n < 13,
    ∀ c ∈ (Calendar.short (Calendar.monthName n)).toList, IsVisible c := by decide

theorem Zone.isVisible_of_mem (z : Zone) : ∀ c ∈ z.chars, IsVisible c := by
  have hpairs : ∀ (hours : Fin 24) (minutes : Fin 60),
      ∀ c ∈ pair hours ++ pair minutes, IsVisible c := fun hours minutes =>
    List.forall_mem_append.mpr ⟨isVisible_of_mem_pair _ (by omega),
      isVisible_of_mem_pair _ (by omega)⟩
  cases z with
  | universal => decide
  | ahead hours minutes => exact List.forall_mem_cons.mpr ⟨by decide, hpairs hours minutes⟩
  | behind hours minutes => exact List.forall_mem_cons.mpr ⟨by decide, hpairs hours minutes⟩

namespace ClockTime

variable (c : ClockTime) (z : Zone)

/-- A time in a header has spaces between what can be seen. -/
theorem isVisible_of_mem : ∀ d ∈ c.chars z, d = ' ' ∨ IsVisible d := by
  have hpair : ∀ n < 100, ∀ d ∈ pair n, d = ' ' ∨ IsVisible d :=
    fun n hn d hd => .inr (isVisible_of_mem_pair n hn d hd)
  have hweekday := fun d hd => Or.inr (a := d = ' ') (isVisible_of_mem_weekday _ c.weekday_lt d hd)
  have hmonth := fun d hd => Or.inr (a := d = ' ')
    (isVisible_of_mem_month _ (Nat.lt_succ_of_le c.month_bounds.2) d hd)
  have hzone := fun d hd => Or.inr (a := d = ' ') (z.isVisible_of_mem d hd)
  have hyear := c.year_lt
  have hhour := c.hour_lt
  have hminute := c.minute_lt
  have hsecond := c.second_lt
  simp only [chars, List.forall_mem_append, List.forall_mem_cons]
  exact ⟨hweekday, by decide, by decide, hpair _ c.day_lt, by decide, hmonth, by decide,
    hpair _ (by omega), hpair _ (by omega), by decide, hpair _ (by omega), by decide,
    hpair _ (by omega), by decide, hpair _ (by omega), by decide, hzone⟩

theorem headerText_text : Http.headerText (c.text z) = c.text z := by
  have hsolid : ∀ d, IsVisible d → (d == ' ' || d == '\t') = false := by
    rintro d ⟨hlow, -⟩
    rw [Bool.or_eq_false_iff]
    constructor <;> refine beq_false_of_ne ?_ <;> rintro rfl <;> exact absurd hlow (by decide)
  have hnames : ∀ n < 7, (Calendar.short (Calendar.weekdayName n)).toList ≠ [] := by decide
  obtain ⟨last, hlast⟩ : ∃ last, z.chars.getLast? = some last := by cases z <;> exact ⟨_, rfl⟩
  have hlastOf : (c.chars z).getLast? = some last := by
    simp only [chars, List.getLast?_append, List.getLast?_cons, hlast, Option.getD_some,
      Option.some_or]
  rw [Http.headerText, text, String.toList_ofList, Text.trimBoth_eq_of_ends]
  · intro d hd
    rw [chars, List.head?_append_of_ne_nil _ (hnames _ c.weekday_lt)] at hd
    exact hsolid d (isVisible_of_mem_weekday _ c.weekday_lt d (List.mem_of_mem_head? hd))
  · intro d hd
    cases hlastOf.symm.trans hd
    exact hsolid _ (z.isVisible_of_mem _ (List.mem_of_getLast? hlast))

end ClockTime

end HttpDate

namespace Download

open HttpDate

theorem timeOf?_of_text {r : Http.Response} {c : ClockTime} {z : Zone}
    (h : r.lastModified = some (c.text z)) : timeOf? r = some (c.instant z) := by
  have hvisible : ((c.text z).toList.all fun d =>
      d == '\t' || (32 ≤ d.toNat && d.toNat < 127)) = true := by
    rw [ClockTime.text, String.toList_ofList, List.all_eq_true]
    intro d hd
    rcases c.isVisible_of_mem z d hd with rfl | ⟨hlow, hhigh⟩
    · decide
    · rw [decide_eq_true (Nat.le_of_lt hlow), decide_eq_true hhigh]
      exact Bool.or_true _
  rw [timeOf?, h]
  dsimp only
  rw [if_pos hvisible, c.read?_text]

/-! ## One download after the other -/

/-- A call of a download for the archive at an address. -/
def Call.run (c : Call) (dir address : String) : Except BuildError DownloadOutcome × Workspace :=
  download c.settings c.logger dir address c.checksum c.before

theorem Call.run_fst (c : Call) (dir : String) (o : Offer) :
    (c.run dir o.address).1 = o.result dir c := rfl

/-- A download that gets through to a server. -/
structure Asks (c : Call) (dir address : String) (url : Url) : Prop where
  agent : Http.isHeaderValue c.settings.userAgent = true
  form : formOf? address ≠ none
  address : Url.read? address = some url
  sendable : url.canBeSent = true
  answered : (c.before.server.answer url (c.request dir url)).1 ≠ none

theorem Asks.send_eq {c : Call} {dir address : String} {url : Url} (h : Asks c dir address url)
    (since : Option Time) : (send c.before.server c.settings.userAgent since address).2 =
      (c.before.server.answer url (requestFor c.settings.userAgent since url)).2 := by
  unfold send
  rw [h.address]
  dsimp only
  rw [h.sendable]
  simp only [Bool.not_true, Bool.false_eq_true, if_false]
  split <;> rfl

/-- What is answered has been asked. -/
theorem requests_answer {server : Http.Server} {url : Url} {request : Http.Request}
    (h : (server.answer url request).1 ≠ none) :
    (server.answer url request).2.requests = server.requests ++ [request] := by
  unfold Http.Server.answer at h ⊢
  dsimp only at h ⊢
  split
  · rfl
  next hother =>
  split
  · rfl
  · next hnone =>
    rw [if_neg hother, hnone] at h
    exact absurd rfl h

/-- A download asks once. -/
theorem Asks.requests {c : Call} {dir address : String} {url : Url} (h : Asks c dir address url) :
    (c.run dir address).2.server.requests = c.before.server.requests ++ [c.request dir url] := by
  obtain ⟨form, hform⟩ := Option.ne_none_iff_exists'.mp h.form
  have hserver : (c.run dir address).2.server =
      (send c.before.server c.settings.userAgent (c.before.disk.modifiedTime? dir) address).2 := by
    unfold Call.run download
    rw [h.agent, hform]
    dsimp only [Bool.not_true]
    rcases hsend : send (c.before.note c.logger _).server c.settings.userAgent
      ((c.before.note c.logger _).disk.modifiedTime? dir) address with ⟨answer, server⟩
    have hsend : send c.before.server c.settings.userAgent (c.before.disk.modifiedTime? dir)
      address = (answer, server) := hsend
    rw [hsend]
    dsimp only
    cases answer.bind (accept address c.checksum) with
    | error => rfl
    | ok found =>
      cases found with
      | none => rfl
      | some r =>
        dsimp only
        rcases extract dir form r _ with ⟨_ | _, _⟩
        · rfl
        · exact noteTime_server ..
  rw [hserver, h.send_eq]
  exact requests_answer h.answered

/-- The server gives this time with the archive. -/
def IsGiven (c : Call) (dir address value : String) : Prop :=
  ∀ url, Url.read? address = some url →
    (c.before.server.answer url (c.request dir url)).1.bind Http.Response.lastModified = some value

section

variable {first next : Call} {dir address : String} {c : ClockTime} {z : Zone}

theorem modifiedTime?_of_extracted (hdir : dir ≠ "")
    (hgiven : IsGiven first dir address (c.text z))
    (hextracted : (first.run dir address).1 = .ok .extracted) :
    (first.run dir address).2.disk.modifiedTime? dir = some (c.instant z) := by
  have hends := ends_download first.settings first.logger dir address first.checksum first.before
  rw [Call.run] at hextracted
  rw [hextracted] at hends
  cases hends with
  | @extracted url _ r _ hurl _ hr _ hextract =>
    refine modifiedTime?_of_extract hdir hextract (timeOf?_of_text ?_)
    have hvalue := hgiven url hurl
    rw [Call.request] at hvalue
    obtain ⟨given, hanswer, hreceived⟩ := Option.bind_eq_some_iff.mp hr
    rw [hanswer, Option.bind_some] at hvalue
    unfold Http.Response.received? at hreceived
    split at hreceived <;> cases hreceived
    rw [hvalue, Option.map_some, c.headerText_text]

/-- The next request names a time with the seconds that the archive was said to have, as a clock on
universal time shows it. -/
theorem exists_clockTime_of_request (url : Url) (hyears : IsInYears (c.passed z))
    (htime : next.before.disk.modifiedTime? dir = some (c.instant z)) :
    ∃ c' : ClockTime, (next.request dir url).ifModifiedSince = some (c'.text .universal) ∧
      c'.passed .universal = c.passed z ∧ (z = .universal → c' = c) := by
  have hsince : ∀ c' : ClockTime, c'.passed .universal = c.passed z →
      (next.request dir url).ifModifiedSince = some (c'.text .universal) := by
    intro c' hpassed
    have hinstant : c.instant z = c'.instant .universal := by
      rw [ClockTime.instant, ClockTime.instant, hpassed]
    rw [Call.request, requestFor, htime, Option.map_some, hinstant, c'.write_instant]
  by_cases hz : z = .universal
  · exact ⟨c, hsince c (by rw [hz]), by rw [hz], fun _ => rfl⟩
  · obtain ⟨c', hpassed⟩ := exists_passed_eq hyears
    exact ⟨c', hsince c' hpassed, hpassed, fun h => absurd h hz⟩

/-- A download that unpacks an archive gives the directory the time that came with the archive. The
next download that finds the directory as it was left, whatever it asks for, sends the same time to
the server on a clock of universal time, in the very characters that came if they were on this
clock. -/
theorem time_of_archive_is_sent_back (hdir : dir ≠ "")
    (hgiven : IsGiven first dir address (c.text z)) (hyears : IsInYears (c.passed z))
    (hextracted : (first.run dir address).1 = .ok .extracted) :
    let after := (first.run dir address).2
    after.disk.modifiedTime? dir = some (c.instant z) ∧
    ∀ (next : Call) (address' : String) (url : Url),
      Disk.SameDirectory dir after.disk next.before.disk → Asks next dir address' url →
      ∃ request c',
        (next.run dir address').2.server.requests = next.before.server.requests ++ [request] ∧
        request.ifModifiedSince = some (ClockTime.text c' .universal) ∧
        c'.passed .universal = c.passed z ∧ (z = .universal → c' = c) := by
  have htime := modifiedTime?_of_extracted hdir hgiven hextracted
  refine ⟨htime, fun next address' url hsame hasks => ?_⟩
  have hnext : next.before.disk.modifiedTime? dir = some (c.instant z) := hsame.modifiedTime? htime
  obtain ⟨c', hsince, hpassed, hz⟩ := exists_clockTime_of_request url hyears hnext
  exact ⟨_, c', hasks.requests, hsince, hpassed, hz⟩

end

section

open BuildTool.Download.Small

/-- Ten o'clock on the tenth of March 2020. -/
def Small.changed : ClockTime where
  year := 2020
  month := 3
  day := 10
  hour := 10
  minute := 0
  second := 0
  date_valid := by decide
  year_lt := by decide
  hour_lt := by decide
  minute_lt := by decide
  second_lt := by decide

/-- The first of two downloads of a small archive makes the directory, and the second one finds it. -/
theorem time_of_archive_is_sent_back_once : ∃ next : Call, ∃ request,
    (next.run "d" (offer 2048).address).2.server.requests = [request] ∧
    request.ifModifiedSince = some "Tue, 10 Mar 2020 10:00:00 GMT" := by
  have htext : changed.text .universal = "Tue, 10 Mar 2020 10:00:00 GMT" := by decide +kernel
  have hnone : machine.modifiedTime? "d" = none := by decide +kernel
  have hunpacked : (extract "d" .plain (offer 2048).received machine).1 = .ok () := by
    rw [extract, itemsOf_wholeAndCut.1]
    decide +kernel
  have hextracted : ((call 2048 machine).run "d" (offer 2048).address).1 = .ok .extracted := by
    rw [Call.run_fst, (Prod.mk.inj (outcome_call_absent 2048 machine hnone)).1, hunpacked]
    rfl
  have hgiven : IsGiven (call 2048 machine) "d" (offer 2048).address
      (changed.text .universal) := by
    intro url hurl
    have hchanged : (offer 2048).isUnchangedFor ((call 2048 machine).request "d" url) = false :=
      (offer 2048).isUnchangedFor_of_absent url hnone
    rw [isServed_call 2048 machine url hurl, Offer.answer, hchanged, htext]
    rfl
  have hyears : IsInYears (changed.passed .universal) := isInYears_universal_iff.mpr (by decide)
  obtain ⟨htime, hsent⟩ := time_of_archive_is_sent_back (by decide) hgiven hyears hextracted
  have harrives := arrives_call 2048 machine
  -- For any disk that has the same directory, so that what is left is not computed.
  have hnext : ∀ left, Disk.SameDirectory "d"
      ((call 2048 machine).run "d" (offer 2048).address).2.disk left → ∃ next : Call, ∃ request,
        (next.run "d" (offer 2048).address).2.server.requests = [request] ∧
        request.ifModifiedSince = some "Tue, 10 Mar 2020 10:00:00 GMT" := by
    intro left hleft
    have hasks : Asks { before := { disk := left, server := { host := "[::1]" } } } "d"
        (offer 2048).address url :=
      ⟨harrives.agent, by rw [harrives.formOf]; exact Option.some_ne_none _, harrives.address,
        harrives.sendable, Option.some_ne_none _⟩
    obtain ⟨request, c', hrequests, hsince, -, hsame⟩ := hsent _ _ _ hleft hasks
    rw [hsame rfl, htext] at hsince
    exact ⟨_, request, hrequests, hsince⟩
  exact hnext _ (.of_modifiedTime? htime)

end

end Download

end BuildTool
