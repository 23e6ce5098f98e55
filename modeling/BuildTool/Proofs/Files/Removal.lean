import BuildTool.Proofs.Files.Ways

/-!
# Trees that lose an entry

Where an entry is taken out of a tree, paths find nothing any more. A path that ended there ends at a
free place now, and one that led over it leads nowhere:

    entry at a/b/c taken out    →    a/b/c is free,  a/b leads where it led,  a/b/c/d fails
-/

namespace BuildTool

namespace Tree

/-- The other tree has nothing at a location, and paths find there what they find here at all other
ones. -/
structure Loses (t t' : Tree) (loc : Location) : Prop where
  gone : t'.get? loc = none
  same : ∀ l, l ≠ loc → t'.way? l = t.way? l

theorem loses_remove (t : Tree) (time : Time) (loc : Location) :
    t.Loses (t.remove time loc) loc := by
  refine ⟨?_, fun l hl => by rw [way?_remove, if_neg hl]⟩
  have hway : (t.remove time loc).way? loc = none := by rw [way?_remove, if_pos rfl]
  exact Option.map_eq_none_iff.mp hway

namespace Loses

variable {t t' : Tree} {loc l : Location}

theorem get? (h : t.Loses t' loc) (hl : l ≠ loc) {e : Entry} (he : t.get? l = some e) :
    ∃ e', t'.get? l = some e' ∧ e'.way = e.way :=
  Option.map_eq_some_iff.mp ((h.same l hl).trans (by rw [way?, he, Option.map_some]))

theorem get?_directory (h : t.Loses t' loc) (hl : l ≠ loc) {time : Time}
    (hdir : t.get? l = some (.directory time)) : ∃ time', t'.get? l = some (.directory time') := by
  obtain ⟨e', he', hway⟩ := h.get? hl hdir
  cases e' <;> cases hway
  exact ⟨_, he'⟩

theorem get?_link (h : t.Loses t' loc) (hl : l ≠ loc) {target : String}
    (hlink : t.get? l = some (.link target)) : t'.get? l = some (.link target) := by
  obtain ⟨e', he', hway⟩ := h.get? hl hlink
  cases e' <;> cases hway
  exact he'

end Loses

section

variable {t t' : Tree} {links : Nat} {mustBe : Bool} {dir loc top : Location}
  {names steps : List String} {e : Entry}

/-- What stood at the end of a path leaves a free place there. -/
theorem Walks.free_of_loses (h : Walks t false links mustBe dir names (.entry loc e))
    (hmust : mustBe = false) (hloses : t.Loses t' loc) (hstop : e.way = .stop)
    {init : List String} {last : String} (hnames : names = init ++ [last])
    (hlast : last ≠ "." ∧ last ≠ "..") :
    ∃ parent, loc = parent ++ [last] ∧
      Walks t' false links mustBe dir names (.free parent last) := by
  have hget : t.get? loc = some e := h.isEndOf
  have hne : ∀ {l : Location} {e' : Entry}, t.get? l = some e' → e'.way ≠ .stop → l ≠ loc := by
    rintro l e' hl hway rfl
    rw [hget] at hl
    cases hl
    exact hway hstop
  generalize hplace : Place.entry loc e = place at h
  induction h generalizing init with
  | arrive => simp at hnames
  | stay _ ih =>
    obtain ⟨rfl, heq⟩ | ⟨init, rfl, rfl⟩ := List.cons_eq_append_iff.mp hnames
    · cases heq
      exact absurd rfl hlast.1
    · obtain ⟨parent, hloc, hwalks⟩ := ih hmust rfl hplace
      exact ⟨parent, hloc, .stay hwalks⟩
  | up _ ih =>
    obtain ⟨rfl, heq⟩ | ⟨init, rfl, rfl⟩ := List.cons_eq_append_iff.mp hnames
    · cases heq
      exact absurd rfl hlast.2
    · obtain ⟨parent, hloc, hwalks⟩ := ih hmust rfl hplace
      exact ⟨parent, hloc, .up hwalks⟩
  | free => cases hplace
  | enter hname hdir hrest ih =>
    obtain ⟨rfl, heq⟩ | ⟨init, rfl, rfl⟩ := List.cons_eq_append_iff.mp hnames
    · cases heq
      cases hplace
      cases hrest
      exact absurd rfl (hne hdir nofun)
    · obtain ⟨parent, hloc, hwalks⟩ := ih hmust rfl hplace
      obtain ⟨time, hdir'⟩ := hloses.get?_directory (hne hdir nofun) hdir
      exact ⟨parent, hloc, .enter hname hdir' hwalks⟩
  | link =>
    cases hplace
    cases hstop
  | follow hname hlink htarget hfollow _ ih =>
    obtain ⟨rfl, heq⟩ | ⟨init, rfl, rfl⟩ := List.cons_eq_append_iff.mp hnames
    · cases heq
      exact absurd ⟨rfl, rfl, hmust⟩ hfollow
    · obtain ⟨parent, hloc, hwalks⟩ := ih (by simp [hmust]) (List.append_assoc ..).symm hplace
      exact ⟨parent, hloc, .follow hname (hloses.get?_link (hne hlink nofun) hlink) htarget hfollow
        hwalks⟩
  | @stop _ dir name _ hname =>
    cases hplace
    obtain ⟨-, hlast⟩ := List.append_inj' (show [] ++ [name] = init ++ [last] from hnames) rfl
    cases hlast
    exact ⟨dir, rfl, .free hname hloses.gone⟩

/-- A path leads where it led, if a longer path leads anywhere at all now: it does not lead over the
entry that is gone. -/
theorem Walks.of_loses {follow mustBe' : Bool} {place : Place}
    (h : Walks t true links mustBe dir names (.entry top e)) (hloses : t.Loses t' loc)
    (htop : top ≠ loc) (hsteps : steps ≠ [])
    (h' : t'.walk follow links mustBe' dir (names ++ steps) = .ok place) :
    ∃ e', Walks t' true links mustBe dir names (.entry top e') ∧ e'.way = e.way := by
  -- Where nothing stands any more, the longer path fails.
  have hfails : ∀ {links : Nat} {mustBe' : Bool} {dir : Location} {name : String}
      {rest : List String}, IsStep name →
      t'.walk follow links mustBe' dir (name :: (rest ++ steps)) = .ok place →
      dir ++ [name] ≠ loc := by
    rintro links mustBe' dir name rest hname hwalk rfl
    rw [walk_free hname hloses.gone, if_neg fun hnil => hsteps (List.append_eq_nil_iff.mp hnil).2]
      at hwalk
    cases hwalk
  generalize hplace : Place.entry top e = target at h
  induction h generalizing mustBe' with
  | arrive hget =>
    cases hplace
    obtain ⟨e', he', hway⟩ := hloses.get? htop hget
    exact ⟨e', .arrive he', hway⟩
  | stay _ ih =>
    obtain ⟨e', hwalks, hway⟩ := ih (walk_dot.symm.trans h') hplace
    exact ⟨e', .stay hwalks, hway⟩
  | up _ ih =>
    obtain ⟨e', hwalks, hway⟩ := ih (walk_dots.symm.trans h') hplace
    exact ⟨e', .up hwalks, hway⟩
  | free => cases hplace
  | enter hname hdir _ ih =>
    obtain ⟨time, hdir'⟩ := hloses.get?_directory (hfails hname h') hdir
    obtain ⟨e', hwalks, hway⟩ := ih ((walk_directory hname hdir').symm.trans h') hplace
    exact ⟨e', .enter hname hdir' hwalks, hway⟩
  | link _ _ hfollow => cases hfollow
  | @follow _ _ _ _ _ rest _ hname hlink htarget hfollow _ ih =>
    have hlink' := hloses.get?_link (hfails hname h') hlink
    have hlast : ¬ (rest ++ steps = [] ∧ follow = false ∧ mustBe' = false) :=
      fun hnil => hsteps (List.append_eq_nil_iff.mp hnil.1).2
    rw [List.cons_append, walk_link hname hlink' htarget hlast, ← List.append_assoc] at h'
    obtain ⟨e', hwalks, hway⟩ := ih h' hplace
    exact ⟨e', .follow hname hlink' htarget hfollow hwalks, hway⟩
  | stop hname hget hstop =>
    cases hplace
    obtain ⟨e', he', hway⟩ := hloses.get? htop hget
    exact ⟨e', .stop hname he' (hway.trans hstop), hway⟩

end

end Tree

end BuildTool
