import BuildTool.Proofs.Script.Expansion
import BuildTool.Proofs.Text.Boundary

/-!
# References found by positions

References can be put in place in one pass over the bytes of a text, with two positions: where the
text begins that is not written yet, and where the pass stands.

    cost: $ ${who}é
    ^start ^position

The pass goes on byte by byte, also within a character, and takes parts of the text only at a dollar
sign. All it takes is between boundaries, and what it writes is what `substitute` gives
(`Scans.turn`, `scan?_eq`).
-/

namespace BuildTool.Reference

open String (utf8Len)
open Text (IsBoundary slice? octets octetsOf)

/-! ## The pass -/

/-- The second of three bytes at least is a special one and the third a closing brace. -/
def isBracedSpecial (bytes : List Char) : Bool :=
  if h : 2 < bytes.length then isSpecial bytes[1] && bytes[2] == '}' else false

/-- The name at the beginning of what follows a dollar sign, and how many bytes the reference has.
Nothing comes out where a byte or a part of the text is asked for that does not exist. -/
def referenceName? (text : String) : Option (Option String × Nat) :=
  let bytes := (octets text).toList
  match bytes with
  | [] => none
  | first :: others =>
    if first = '{' then
      if isBracedSpecial bytes then (slice? text 1 2).map fun name => (some name, 3)
      else
        match others.findIdx? (· == '}') with
        | some 0 => some (none, 2)
        | some i => (slice? text 1 (i + 1)).map fun name => (some name, i + 2)
        | none => some (none, 1)
    else if isSpecial first then (slice? text 0 1).map fun name => (some name, 1)
    else
      match (bytes.takeWhile isNameChar).length with
      | 0 => some (none, 0)
      | width => (slice? text 0 width).map fun name => (some name, width)

/-- The two positions of the pass, and what is written so far. -/
structure Cursor where
  start : Nat := 0
  position : Nat := 0
  written : String := ""

/-- A dollar sign stands at a position, and something behind it. -/
def OpensAt (text : String) (i : Nat) : Prop :=
  (octets text).toList[i]? = some '$' ∧ i + 1 < text.utf8ByteSize

instance (text : String) (i : Nat) : Decidable (OpensAt text i) :=
  inferInstanceAs (Decidable (_ ∧ _))

/-- What is written for a reference of so many bytes: the value of its name, or nothing if it has
none. A dollar sign that is no reference stays. -/
def standsFor (lookup : String → String) (name : Option String) (width : Nat) : String :=
  match name with
  | some name => lookup name
  | none => if 0 < width then "" else "$"

/-- The pass behind a dollar sign and so many bytes more. -/
def Cursor.goOn (c : Cursor) (width : Nat) (literal value : String) : Cursor where
  start := c.position + width + 1
  position := c.position + width + 1
  written := c.written ++ literal ++ value

/-- One turn of the pass. At a dollar sign, the text before it is written and then what stands
there. -/
def turn? (lookup : String → String) (text : String) (c : Cursor) : Option Cursor :=
  if OpensAt text c.position then
    (slice? text c.start c.position).bind fun literal =>
      (slice? text (c.position + 1) text.utf8ByteSize).bind fun behind =>
        (referenceName? behind).map fun (name, width) =>
          c.goOn width literal (standsFor lookup name width)
  else some { c with position := c.position + 1 }

theorem position_lt_of_turn? {lookup : String → String} {text : String} {c next : Cursor}
    (h : turn? lookup text c = some next) : c.position < next.position := by
  unfold turn? at h
  split at h
  · obtain ⟨literal, -, h⟩ := Option.bind_eq_some_iff.mp h
    obtain ⟨behind, -, h⟩ := Option.bind_eq_some_iff.mp h
    obtain ⟨found, -, rfl⟩ := Option.map_eq_some_iff.mp h
    show c.position < c.position + found.2 + 1
    omega
  · cases h
    exact Nat.lt_succ_self _

/-- Turns up to the end of the text. -/
def turns? (lookup : String → String) (text : String) (c : Cursor) : Option Cursor :=
  if c.position < text.utf8ByteSize then
    match h : turn? lookup text c with
    | none => none
    | some next =>
      have := position_lt_of_turn? h
      turns? lookup text next
  else some c
  termination_by text.utf8ByteSize - c.position

/-- The whole pass, and what is left at its end written as it is. -/
def scan? (lookup : String → String) (text : String) : Option String :=
  (turns? lookup text {}).bind fun c =>
    (slice? text (min c.start text.utf8ByteSize) text.utf8ByteSize).map (c.written ++ ·)

/-- The pass comes by these positions, with this written. -/
inductive Visits (lookup : String → String) (text : String) : Cursor → Prop
  | begin : Visits lookup text {}
  | turn {c next : Cursor} : Visits lookup text c → c.position < text.utf8ByteSize →
      turn? lookup text c = some next → Visits lookup text next

/-! ## The reference at the beginning -/

/-- What is read of these characters: a name with a number of bytes, which are those of the first
characters, and the name is among them. -/
structure Reads (text : List Char) (name : Option (List Char)) (used rest : List Char) : Prop where
  text_eq : text = used ++ rest
  name_in : ∀ n, name = some n → ∃ before after, used = before ++ (n ++ after)
  eq_some : referenceName? (.ofList text) = some (name.map String.ofList, utf8Len used)

theorem octets_cons {c : Char} (h : c.toNat < 128) (text : List Char) :
    (octets (.ofList (c :: text))).toList = c :: text.flatMap octetsOf := by
  rw [Text.toList_octets, List.flatMap_cons, Text.octetsOf_of_lt h]
  rfl

theorem toNat_lt_of_isAlphanum {c : Char} (h : c.isAlphanum = true) : c.toNat < 128 := by
  -- Letters in capital and in small, and digits.
  change ((decide (65 ≤ c.val ∧ c.val ≤ 90) || (decide (97 ≤ c.val) && decide (c.val ≤ 122))) ||
    (decide (48 ≤ c.val) && decide (c.val ≤ 57))) = true at h
  simp only [Bool.or_eq_true, Bool.and_eq_true, decide_eq_true_eq, UInt32.le_iff_toNat_le] at h
  change ((65 ≤ c.toNat ∧ c.toNat ≤ 90) ∨ (97 ≤ c.toNat ∧ c.toNat ≤ 122)) ∨
    (48 ≤ c.toNat ∧ c.toNat ≤ 57) at h
  omega

theorem toNat_lt_of_isNameChar {c : Char} (h : isNameChar c = true) : c.toNat < 128 := by
  rcases isNameChar_iff.mp h with h | rfl
  · exact toNat_lt_of_isAlphanum h
  · decide

theorem toNat_lt_of_isSpecial {c : Char} (h : isSpecial c = true) : c.toNat < 128 := by
  have hsigns : ∀ c ∈ ['*', '#', '$', '@', '!', '?', '-'], c.toNat < 128 := by decide
  rcases isSpecial_iff.mp h with h | hdigit
  · exact hsigns c h
  · exact toNat_lt_of_isAlphanum (by rw [Char.isAlphanum, hdigit, Bool.or_true])

/-! ### A brace -/

theorem isBracedSpecial_iff {first : Char} {others : List Char} :
    isBracedSpecial (first :: others) = true ↔
      ∃ c rest, others = c :: '}' :: rest ∧ isSpecial c = true := by
  rcases others with _ | ⟨c, _ | ⟨d, rest⟩⟩
  · simp [isBracedSpecial]
  · simp [isBracedSpecial]
  · simp only [isBracedSpecial, List.length_cons, Nat.lt_add_left_iff_pos, Nat.zero_lt_succ]
    simp [and_comm]

theorem findIdx?_close {before : List Char} (h : '}' ∉ before) (after : List Char) :
    (before ++ '}' :: after).findIdx? (· == '}') = some before.length := by
  have hnone : before.findIdx? (· == '}') = none := by
    rw [List.findIdx?_eq_none_iff]
    rintro c hc
    exact beq_eq_false_iff_ne.mpr fun he => h (he ▸ hc)
  rw [List.findIdx?_append, hnone, Option.none_or, List.findIdx?_cons]
  simp

theorem referenceName?_brace (rest : List Char) :
    referenceName? (.ofList ('{' :: rest)) =
      if isBracedSpecial ('{' :: rest.flatMap octetsOf) then
        (slice? (.ofList ('{' :: rest)) 1 2).map fun name => (some name, 3)
      else
        match (rest.flatMap octetsOf).findIdx? (· == '}') with
        | some 0 => some (none, 2)
        | some i => (slice? (.ofList ('{' :: rest)) 1 (i + 1)).map fun name => (some name, i + 2)
        | none => some (none, 1) := by
  unfold referenceName?
  rw [octets_cons (by decide)]
  rfl

/-- A name between braces that begins with a special byte and a closing brace is that byte. -/
theorem utf8Len_of_isBracedSpecial {name rest : List Char} (hname : name ≠ [])
    (hclosed : '}' ∉ name)
    (h : isBracedSpecial ('{' :: (name ++ '}' :: rest).flatMap octetsOf) = true) :
    utf8Len name = 1 := by
  obtain ⟨c, tail, he, -⟩ := isBracedSpecial_iff.mp h
  rw [List.flatMap_append] at he
  rw [← Text.length_flatMap_octetsOf]
  rcases List.append_eq_cons_iff.mp he with ⟨hnil, -⟩ | ⟨others, hothers, htail⟩
  · have hlength := Text.length_flatMap_octetsOf name
    rw [hnil] at hlength
    exact absurd (String.utf8Len_eq_zero.mp hlength.symm) hname
  · cases others with
    | nil =>
      rw [hothers]
      rfl
    | cons d others =>
      obtain rfl : '}' = d := (List.cons.inj htail).1
      have hin : '}' ∈ name.flatMap octetsOf := by
        rw [hothers]
        exact List.mem_cons_of_mem _ List.mem_cons_self
      exact absurd ((Text.mem_flatMap_octetsOf_iff (by decide)).mp hin) hclosed

theorem reads_braced {name : List Char} (hname : name ≠ []) (hclosed : '}' ∉ name)
    (rest : List Char) :
    Reads ('{' :: (name ++ '}' :: rest)) (some name) ('{' :: (name ++ ['}'])) rest := by
  have hlength : utf8Len ('{' :: (name ++ ['}'])) = utf8Len name + 2 := by
    rw [String.utf8Len_cons, String.utf8Len_append]
    rfl
  have hslice : slice? (.ofList ('{' :: (name ++ '}' :: rest))) 1 (1 + utf8Len name) =
      some (.ofList name) := Text.slice?_append ['{'] name ('}' :: rest)
  have hopen : '}' ∉ name.flatMap octetsOf := by
    rwa [Text.mem_flatMap_octetsOf_iff (by decide)]
  have hbytes : (name ++ '}' :: rest).flatMap octetsOf =
      name.flatMap octetsOf ++ '}' :: rest.flatMap octetsOf := by
    rw [List.flatMap_append, List.flatMap_cons, Text.octetsOf_of_lt (by decide)]
    rfl
  obtain ⟨n, hn⟩ : ∃ n, utf8Len name = n + 1 :=
    Nat.exists_eq_succ_of_ne_zero (mt String.utf8Len_eq_zero.mp hname)
  refine ⟨by simp, ?_, ?_⟩
  · rintro _ ⟨⟩
    exact ⟨['{'], ['}'], rfl⟩
  · rw [referenceName?_brace, hbytes, findIdx?_close hopen, Text.length_flatMap_octetsOf, hlength]
    split
    · next hspecial =>
      rw [← hbytes] at hspecial
      have hone := utf8Len_of_isBracedSpecial hname hclosed hspecial
      rw [hone] at hslice ⊢
      show (slice? _ 1 2).map _ = _
      rw [hslice]
      rfl
    · rw [hn, Nat.add_comm 1] at hslice
      rw [hn]
      show (slice? _ 1 (n + 1 + 1)).map _ = _
      rw [hslice]
      rfl

theorem reads_noName (rest : List Char) : Reads ('{' :: '}' :: rest) none ['{', '}'] rest := by
  refine ⟨rfl, (fun n hn => nomatch hn), ?_⟩
  have hbytes : ('}' :: rest).flatMap octetsOf = '}' :: rest.flatMap octetsOf := by
    rw [List.flatMap_cons, Text.octetsOf_of_lt (by decide)]
    rfl
  have hfind : ('}' :: rest.flatMap octetsOf).findIdx? (· == '}') = some 0 :=
    findIdx?_close List.not_mem_nil _
  rw [referenceName?_brace, hbytes, hfind]
  split
  · next hspecial =>
    obtain ⟨c, tail, he, hc⟩ := isBracedSpecial_iff.mp hspecial
    rw [← (List.cons.inj he).1] at hc
    cases hc
  · rfl

theorem reads_unclosed {rest : List Char} (h : '}' ∉ rest) :
    Reads ('{' :: rest) none ['{'] rest := by
  refine ⟨rfl, (fun n hn => nomatch hn), ?_⟩
  have hopen : '}' ∉ rest.flatMap octetsOf := by
    rwa [Text.mem_flatMap_octetsOf_iff (by decide)]
  have hnone : (rest.flatMap octetsOf).findIdx? (· == '}') = none := by
    rw [List.findIdx?_eq_none_iff]
    intro c hc
    exact beq_eq_false_iff_ne.mpr fun he => hopen (he ▸ hc)
  rw [referenceName?_brace, hnone]
  split
  · next hspecial =>
    obtain ⟨c, tail, he, -⟩ := isBracedSpecial_iff.mp hspecial
    rw [he] at hopen
    exact absurd (List.mem_cons_of_mem _ List.mem_cons_self) hopen
  · rfl

/-! ### No brace -/

theorem referenceName?_of_head {text : String} {first : Char} {bytes : List Char}
    (hbytes : (octets text).toList = bytes) (hfirst : bytes.head? = some first)
    (hbrace : first ≠ '{') :
    referenceName? text =
      if isSpecial first then (slice? text 0 1).map fun name => (some name, 1)
      else
        match (bytes.takeWhile isNameChar).length with
        | 0 => some (none, 0)
        | width => (slice? text 0 width).map fun name => (some name, width) := by
  obtain ⟨others, rfl⟩ := List.head?_eq_some_iff.mp hfirst
  unfold referenceName?
  rw [hbytes]
  exact if_neg hbrace

/-- The first byte of a text is its first character, or it is no character below 128. -/
theorem exists_first (c : Char) (rest : List Char) :
    ∃ first others, (c :: rest).flatMap octetsOf = first :: others ∧
      (first = c ∨ 128 ≤ first.toNat) := by
  rw [List.flatMap_cons]
  by_cases hc : c.toNat < 128
  · exact ⟨c, _, by rw [Text.octetsOf_of_lt hc]; rfl, .inl rfl⟩
  · cases hbytes : octetsOf c with
    | nil =>
      have hlength := Text.length_octetsOf c
      rw [hbytes] at hlength
      exact absurd hlength.symm (Nat.ne_of_gt c.utf8Size_pos)
    | cons first others =>
      refine ⟨first, _, rfl, .inr (Text.le_of_mem_octetsOf (Nat.le_of_not_lt hc) ?_)⟩
      rw [hbytes]
      exact List.mem_cons_self

theorem reads_special {c : Char} (h : isSpecial c = true) (rest : List Char) :
    Reads (c :: rest) (some [c]) [c] rest := by
  have hc := toNat_lt_of_isSpecial h
  have hbrace : c ≠ '{' := by
    rintro rfl
    cases h
  have hlength : utf8Len [c] = 1 := Text.utf8Len_of_lt (List.forall_mem_singleton.mpr hc)
  have hslice : slice? (.ofList (c :: rest)) 0 (0 + utf8Len [c]) = some (.ofList [c]) :=
    Text.slice?_append [] [c] rest
  refine ⟨rfl, ?_, ?_⟩
  · rintro _ ⟨⟩
    exact ⟨[], [], rfl⟩
  · rw [hlength] at hslice ⊢
    rw [referenceName?_of_head (octets_cons hc rest) rfl hbrace, if_pos h, hslice]
    rfl

theorem not_isNameChar_of_le {c : Char} (h : 128 ≤ c.toNat) : isNameChar c = false := by
  refine Bool.eq_false_iff.mpr fun hname => ?_
  have := toNat_lt_of_isNameChar hname
  omega

theorem reads_bare {name rest : List Char} (hne : name ≠ [])
    (hname : ∀ c ∈ name, isNameChar c = true)
    (hend : ∀ c, rest.head? = some c → isNameChar c = false)
    (hfirst : ∀ c, name.head? = some c → c ≠ '{' ∧ isSpecial c = false) :
    Reads (name ++ rest) (some name) name rest := by
  have hascii : ∀ c ∈ name, c.toNat < 128 := fun c hc => toNat_lt_of_isNameChar (hname c hc)
  have hlength : utf8Len name = name.length := Text.utf8Len_of_lt hascii
  have hslice : slice? (.ofList (name ++ rest)) 0 (0 + utf8Len name) = some (.ofList name) :=
    Text.slice?_append [] name rest
  have hbytes : (name ++ rest).flatMap octetsOf = name ++ rest.flatMap octetsOf := by
    rw [List.flatMap_append, Text.flatMap_octetsOf_of_lt hascii]
  have hother : ∀ c, (rest.flatMap octetsOf).head? = some c → isNameChar c = false := by
    intro c hc
    cases rest with
    | nil => cases hc
    | cons d rest =>
      obtain ⟨first, others, he, hd⟩ := exists_first d rest
      rw [he] at hc
      cases hc
      rcases hd with rfl | hd
      · exact hend _ rfl
      · exact not_isNameChar_of_le hd
  obtain ⟨c, tail, rfl⟩ := List.exists_cons_of_ne_nil hne
  obtain ⟨hbrace, hspecial⟩ := hfirst c rfl
  refine ⟨rfl, ?_, ?_⟩
  · rintro _ ⟨⟩
    exact ⟨[], [], by simp⟩
  · rw [hlength, Nat.zero_add] at hslice
    rw [referenceName?_of_head ((Text.toList_octets _).trans hbytes) rfl hbrace,
      if_neg (by rw [hspecial]; exact Bool.false_ne_true), Text.takeWhile_append_eq hname hother,
      hlength]
    show (slice? _ 0 (c :: tail).length).map _ = _
    rw [hslice]
    rfl

theorem reads_nothing {c : Char} {rest : List Char} (hbrace : c ≠ '{')
    (hspecial : isSpecial c = false) (hname : isNameChar c = false) :
    Reads (c :: rest) none [] (c :: rest) := by
  obtain ⟨first, others, hbytes, hc⟩ := exists_first c rest
  have hfirst : first ≠ '{' ∧ isSpecial first = false ∧ isNameChar first = false := by
    rcases hc with rfl | hc
    · exact ⟨hbrace, hspecial, hname⟩
    · refine ⟨?_, Bool.eq_false_iff.mpr fun h => ?_, not_isNameChar_of_le hc⟩
      · rintro rfl
        exact absurd hc (by decide)
      · have := toNat_lt_of_isSpecial h
        omega
  refine ⟨rfl, (fun n hn => nomatch hn), ?_⟩
  rw [referenceName?_of_head ((Text.toList_octets _).trans hbytes) rfl hfirst.1,
    if_neg (by rw [hfirst.2.1]; exact Bool.false_ne_true),
    List.takeWhile_cons_of_neg (by rw [hfirst.2.2]; exact Bool.false_ne_true)]
  rfl

/-! ### In all cases -/

theorem Refers.exists_reads {text name rest : List Char} (h : Refers text name rest) :
    ∃ used, Reads text (some name) used rest := by
  cases h with
  | braced hne hclosed => exact ⟨_, reads_braced hne hclosed rest⟩
  | special hspecial => exact ⟨_, reads_special (isSpecial_iff.mpr hspecial) rest⟩
  | bare hne hname hdigit hend =>
    have hchars : ∀ c ∈ name, isNameChar c = true := fun c hc => isNameChar_iff.mpr (hname c hc)
    have hother : ∀ c, rest.head? = some c → isNameChar c = false :=
      fun c hc => isNameChar_eq_false_iff.mpr (hend c hc)
    refine ⟨name, reads_bare hne hchars hother fun c hc => ?_⟩
    exact of_isNameChar (hchars c (List.mem_of_mem_head? hc)) (hdigit c hc)

theorem Drops.exists_reads {text rest : List Char} (h : Drops text rest) :
    ∃ used, used ≠ [] ∧ Reads text none used rest := by
  cases h with
  | noName => exact ⟨_, List.cons_ne_nil _ _, reads_noName rest⟩
  | unclosed hopen => exact ⟨_, List.cons_ne_nil _ _, reads_unclosed hopen⟩

def output (lookup : String → String) (text : List Char) : List Char :=
  (pieces text).flatMap (valueOf lookup)

/-- What is read ends at a boundary, and the name is taken from what lies before it. -/
theorem Reads.spec {text used rest : List Char} {name : Option (List Char)}
    (h : Reads text name used rest) :
    utf8Len used ≤ utf8Len text ∧ IsBoundary (.ofList text) (utf8Len used) ∧
      ∀ n, name = some n → ∃ first last, first ≤ last ∧ last ≤ utf8Len used ∧
        slice? (.ofList text) first last = some (.ofList n) := by
  obtain rfl := h.text_eq
  refine ⟨?_, Text.isBoundary_append used rest, fun n hn => ?_⟩
  · rw [String.utf8Len_append]
    exact Nat.le_add_right _ _
  · obtain ⟨before, after, rfl⟩ := h.name_in n hn
    have hslice := Text.slice?_append before n (after ++ rest)
    rw [← List.append_assoc n, ← List.append_assoc before] at hslice
    refine ⟨_, _, Nat.le_add_right _ _, ?_, hslice⟩
    rw [String.utf8Len_append, String.utf8Len_append, ← Nat.add_assoc]
    exact Nat.le_add_right _ _

/-- What stands behind a dollar sign is read, and what is written for it is what comes out. -/
theorem exists_reads {text : List Char} (h : text ≠ []) :
    ∃ name used rest, Reads text name used rest ∧
      ∀ lookup, output lookup ('$' :: text) =
        (standsFor lookup (name.map .ofList) (utf8Len used)).toList ++ output lookup rest := by
  rcases refers_or_drops text with ⟨name, rest, hrefers⟩ | ⟨rest, hdrops⟩ | hneither
  · obtain ⟨used, hread⟩ := hrefers.exists_reads
    refine ⟨some name, used, rest, hread, fun lookup => ?_⟩
    rw [output, pieces_of_name hrefers.opening_eq, List.flatMap_cons]
    rfl
  · obtain ⟨used, hused, hread⟩ := hdrops.exists_reads
    have hpos : 0 < utf8Len used := Nat.pos_of_ne_zero (mt String.utf8Len_eq_zero.mp hused)
    refine ⟨none, used, rest, hread, fun lookup => ?_⟩
    rw [output, pieces_of_dropped hdrops.opening_eq, Option.map_none, standsFor, if_pos hpos]
    rfl
  · obtain ⟨c, tail, rfl⟩ := List.exists_cons_of_ne_nil h
    obtain ⟨hbrace, hspecial, hname⟩ := hneither c rfl
    refine ⟨none, [], _, reads_nothing hbrace hspecial hname, fun lookup => ?_⟩
    have hdollar : (standsFor lookup none (utf8Len [])).toList = ['$'] := by simp [standsFor]
    rw [output, pieces_of_literal (opening_literal hneither), List.flatMap_cons, Option.map_none,
      hdollar]
    rfl

/-! ## One turn -/

/-- Where the pass stands: the text before its start is written, `literal` is not written yet and
has no reference in it, and the position is nowhere behind it, nor is there a boundary between
them. -/
structure Scans (lookup : String → String) (text : List Char) (c : Cursor)
    (before literal behind : List Char) : Prop where
  text_eq : text = before ++ (literal ++ behind)
  start_eq : c.start = utf8Len before
  start_le : c.start ≤ c.position
  position_le : c.position ≤ utf8Len (before ++ literal)
  nearest : ∀ front back, text = front ++ back → c.position ≤ utf8Len front →
    utf8Len (before ++ literal) ≤ utf8Len front
  written_eq : c.written.toList ++ (literal ++ output lookup behind) = output lookup text

variable {lookup : String → String} {text before literal behind : List Char} {c next : Cursor}

theorem scans_begin (lookup : String → String) (text : List Char) :
    Scans lookup text {} [] [] text where
  text_eq := rfl
  start_eq := rfl
  start_le := Nat.le_refl _
  position_le := Nat.le_refl _
  nearest _ _ _ _ := Nat.zero_le _
  written_eq := rfl

theorem opensAt_iff {i : Nat} :
    OpensAt (.ofList text) i ↔
      ∃ front back, text = front ++ '$' :: back ∧ utf8Len front = i ∧ back ≠ [] := by
  rw [OpensAt, Text.toList_octets, String.utf8ByteSize_ofList]
  constructor
  · rintro ⟨hbyte, hmore⟩
    obtain ⟨front, back, rfl, rfl⟩ := Text.exists_of_getElem?_octets hbyte (by decide)
    refine ⟨front, back, rfl, rfl, ?_⟩
    rintro rfl
    rw [String.utf8Len_append] at hmore
    exact absurd hmore (Nat.lt_irrefl _)
  · rintro ⟨front, back, rfl, rfl, hback⟩
    refine ⟨Text.getElem?_octets_append front (by decide) back, ?_⟩
    have hpos : utf8Len back ≠ 0 := mt String.utf8Len_eq_zero.mp hback
    have hdollar : '$'.utf8Size = 1 := rfl
    rw [String.utf8Len_append, String.utf8Len_cons, hdollar]
    omega

theorem OpensAt.boundaries {i : Nat} (h : OpensAt (.ofList text) i) :
    IsBoundary (.ofList text) i ∧ IsBoundary (.ofList text) (i + 1) := by
  obtain ⟨front, back, rfl, rfl, -⟩ := opensAt_iff.mp h
  have hdollar : utf8Len ['$'] = 1 := rfl
  have hnext := Text.isBoundary_append (front ++ ['$']) back
  rw [String.utf8Len_append, hdollar, List.append_assoc] at hnext
  exact ⟨Text.isBoundary_append front ('$' :: back), hnext⟩

/-- The start is a boundary, and the position is in the text or at its end. -/
theorem Scans.spec (h : Scans lookup text c before literal behind) :
    IsBoundary (.ofList text) c.start ∧ c.position ≤ utf8Len text := by
  refine ⟨?_, ?_⟩
  · rw [h.start_eq, h.text_eq]
    exact Text.isBoundary_append before (literal ++ behind)
  · have hle := h.position_le
    rw [h.text_eq, ← List.append_assoc, String.utf8Len_append _ behind]
    omega

/-- The dollar sign that a turn finds is at the end of what is not written yet. -/
theorem Scans.exists_dollar (h : Scans lookup text c before literal behind)
    (hopens : OpensAt (.ofList text) c.position) :
    ∃ back, behind = '$' :: back ∧ back ≠ [] ∧ c.position = utf8Len (before ++ literal) := by
  obtain ⟨front, back, htext, hfront, hback⟩ := opensAt_iff.mp hopens
  have hle := h.nearest front _ htext (Nat.le_of_eq hfront.symm)
  have hlength : utf8Len (before ++ literal) = utf8Len front := by
    have := h.position_le
    omega
  have hsame : before ++ literal ++ behind = front ++ '$' :: back := by
    rw [← htext, h.text_eq, List.append_assoc]
  obtain ⟨-, hbehind⟩ := Text.append_inj_utf8Len hsame hlength
  exact ⟨back, hbehind, hback, by rw [hlength, hfront]⟩

section

variable {back used rest : List Char} {name : Option (List Char)}

theorem Scans.turn?_eq (h : Scans lookup text c before literal behind)
    (hopens : OpensAt (.ofList text) c.position) (hbehind : behind = '$' :: back)
    (hposition : c.position = utf8Len (before ++ literal)) (hread : Reads back name used rest) :
    turn? lookup (.ofList text) c = some (c.goOn (utf8Len used) (.ofList literal)
      (standsFor lookup (name.map .ofList) (utf8Len used))) := by
  obtain rfl := hbehind
  have hdollar : utf8Len ['$'] = 1 := rfl
  have hliteral : slice? (.ofList text) c.start c.position = some (.ofList literal) := by
    rw [hposition, h.start_eq, h.text_eq, String.utf8Len_append]
    exact Text.slice?_append before literal ('$' :: back)
  have hback : slice? (.ofList text) (c.position + 1) (String.ofList text).utf8ByteSize =
      some (.ofList back) := by
    have hslice := Text.slice?_append (before ++ literal ++ ['$']) back []
    have htext : before ++ literal ++ ['$'] ++ (back ++ []) = text := by simp [h.text_eq]
    have hend : utf8Len (before ++ literal ++ ['$']) + utf8Len back = utf8Len text := by
      rw [← htext, List.append_nil, String.utf8Len_append _ back]
    rw [hend, htext, String.utf8Len_append, hdollar, ← hposition] at hslice
    rwa [String.utf8ByteSize_ofList]
  rw [turn?, if_pos hopens, hliteral, Option.bind_some, hback, Option.bind_some, hread.eq_some,
    Option.map_some]

theorem Scans.goOn (h : Scans lookup text c before literal behind) (hbehind : behind = '$' :: back)
    (hposition : c.position = utf8Len (before ++ literal)) (hread : Reads back name used rest)
    (houtput : output lookup ('$' :: back) =
      (standsFor lookup (name.map .ofList) (utf8Len used)).toList ++ output lookup rest) :
    Scans lookup text (c.goOn (utf8Len used) (.ofList literal)
      (standsFor lookup (name.map .ofList) (utf8Len used)))
      (before ++ (literal ++ '$' :: used)) [] rest := by
  have hdollar : '$'.utf8Size = 1 := rfl
  have hlength : utf8Len (before ++ (literal ++ '$' :: used)) = c.position + utf8Len used + 1 := by
    rw [hposition, ← List.append_assoc, String.utf8Len_append _ ('$' :: used), String.utf8Len_cons,
      hdollar, Nat.add_assoc]
  refine ⟨?_, hlength.symm, Nat.le_refl _, ?_, ?_, ?_⟩
  · rw [h.text_eq, hbehind, hread.text_eq]
    simp
  · rw [List.append_nil, hlength]
    exact Nat.le_refl _
  · intro front back _ hle
    rwa [List.append_nil, hlength]
  · rw [← h.written_eq, hbehind, houtput]
    simp [Cursor.goOn]

end

/-- Where no reference is tried, the character comes out as it is. -/
theorem output_cons (lookup : String → String) {front : List Char} {d : Char}
    {back : List Char} (h : ¬ OpensAt (.ofList (front ++ d :: back)) (utf8Len front)) :
    output lookup (d :: back) = d :: output lookup back := by
  by_cases hd : d = '$'
  · have hnil : back = [] := by
      by_contra hne
      exact h (opensAt_iff.mpr ⟨front, back, by rw [hd], rfl, hne⟩)
    rw [hd, hnil, output, pieces_of_literal rfl, List.flatMap_cons]
    rfl
  · rw [output, pieces_of_char hd, List.flatMap_cons]
    rfl

/-- A turn where no reference is tried goes on by a byte, which may be in a character that is not
written yet or be the first of the next one. -/
theorem Scans.goOnByte (h : Scans lookup text c before literal behind)
    (hopens : ¬ OpensAt (.ofList text) c.position) (hposition : c.position < utf8Len text) :
    ∃ literal behind,
      Scans lookup text { c with position := c.position + 1 } before literal behind := by
  have htext : text = before ++ literal ++ behind := by rw [h.text_eq, List.append_assoc]
  have hle := h.position_le
  have hstart := Nat.le_succ_of_le h.start_le
  by_cases hinside : c.position < utf8Len (before ++ literal)
  · exact ⟨literal, behind, h.text_eq, h.start_eq, hstart, hinside,
      fun front back he hfront => h.nearest front back he (Nat.le_of_succ_le hfront), h.written_eq⟩
  · have hend : c.position = utf8Len (before ++ literal) := by omega
    have hbehind : behind ≠ [] := by
      rintro rfl
      rw [htext, List.append_nil] at hposition
      exact hinside hposition
    obtain ⟨d, behind, rfl⟩ := List.exists_cons_of_ne_nil hbehind
    rw [htext, hend] at hopens
    refine ⟨literal ++ [d], behind, by rw [htext]; simp, h.start_eq, hstart, ?_, ?_, ?_⟩
    · have hsize : utf8Len [d] = d.utf8Size := by simp
      rw [← List.append_assoc, String.utf8Len_append _ [d], hsize, ← hend]
      exact Nat.add_le_add_left d.utf8Size_pos _
    · intro front back he hfront
      rw [← List.append_assoc]
      refine Text.utf8Len_append_singleton_le (htext.symm.trans he) ?_
      rwa [← hend]
    · rw [← h.written_eq, output_cons lookup hopens]
      simp

/-- One turn comes off, leads on, and leaves the pass at such a place. -/
theorem Scans.turn (h : Scans lookup text c before literal behind)
    (hposition : c.position < utf8Len text) :
    ∃ next before literal behind, turn? lookup (.ofList text) c = some next ∧
      Scans lookup text next before literal behind := by
  by_cases hopens : OpensAt (.ofList text) c.position
  · obtain ⟨back, hbehind, hback, hend⟩ := h.exists_dollar hopens
    obtain ⟨name, used, rest, hread, houtput⟩ := exists_reads hback
    exact ⟨_, _, _, _, h.turn?_eq hopens hbehind hend hread,
      h.goOn hbehind hend hread (houtput lookup)⟩
  · obtain ⟨literal, behind, hnext⟩ := h.goOnByte hopens hposition
    exact ⟨_, _, _, _, if_neg hopens, hnext⟩

/-! ## The whole pass -/

theorem turns?_of_turn? {source : String} (hposition : c.position < source.utf8ByteSize)
    (h : turn? lookup source c = some next) :
    turns? lookup source c = turns? lookup source next := by
  rw [turns?, if_pos hposition]
  split
  · next he =>
    rw [h] at he
    cases he
  · next he =>
    rw [h] at he
    cases he
    rfl

/-- Wherever the pass comes by, it stands at such a place. -/
theorem Visits.scans (h : Visits lookup (.ofList text) c) :
    ∃ before literal behind, Scans lookup text c before literal behind := by
  induction h with
  | begin => exact ⟨_, _, _, scans_begin lookup text⟩
  | turn _ hposition hturn ih =>
    obtain ⟨before, literal, behind, hscans⟩ := ih
    rw [String.utf8ByteSize_ofList] at hposition
    obtain ⟨next, before', literal', behind', hnext, hscans'⟩ := hscans.turn hposition
    obtain rfl := Option.some.inj (hturn.symm.trans hnext)
    exact ⟨before', literal', behind', hscans'⟩

/-- By induction on the bytes that are left, from any place on the pass comes to the end. -/
theorem Scans.exists_last (h : Scans lookup text c before literal behind) :
    ∃ last before literal, turns? lookup (.ofList text) c = some last ∧
      Scans lookup text last before literal [] := by
  induction hleft : utf8Len text - c.position using Nat.strongRecOn generalizing
    c before literal behind with
  | ind left ih =>
    by_cases hposition : c.position < utf8Len text
    · obtain ⟨next, before', literal', behind', hturn, hscans⟩ := h.turn hposition
      have hon := position_lt_of_turn? hturn
      obtain ⟨last, before'', literal'', hlast, hend⟩ := ih _ (by omega) hscans rfl
      refine ⟨last, before'', literal'', ?_, hend⟩
      rw [← hlast, turns?_of_turn? _ hturn]
      rwa [String.utf8ByteSize_ofList]
    · have hnil : behind = [] := by
        have hle := h.position_le
        rw [h.text_eq, ← List.append_assoc, String.utf8Len_append _ behind] at hposition
        exact String.utf8Len_eq_zero.mp (by omega)
      subst hnil
      refine ⟨c, before, literal, ?_, h⟩
      rw [turns?, if_neg (by rwa [String.utf8ByteSize_ofList])]

theorem scan?_eq (lookup : String → String) (text : List Char) :
    scan? lookup (.ofList text) = some (.ofList (output lookup text)) := by
  obtain ⟨last, before, literal, hlast, h⟩ := (scans_begin lookup text).exists_last
  have htext : text = before ++ (literal ++ []) := h.text_eq
  have hsize : utf8Len text = utf8Len before + utf8Len literal := by
    rw [htext, List.append_nil, String.utf8Len_append]
  have hstart : min last.start (utf8Len text) = utf8Len before := by
    rw [h.start_eq]
    omega
  have hslice : slice? (.ofList text) (min last.start (utf8Len text)) (utf8Len text) =
      some (.ofList literal) := by
    rw [hstart, hsize]
    rw [htext]
    exact Text.slice?_append before literal []
  have hwritten : last.written.toList ++ literal = output lookup text := by
    have := h.written_eq
    rwa [output, pieces, List.flatMap_nil, List.append_nil] at this
  rw [scan?, hlast, Option.bind_some, String.utf8ByteSize_ofList, hslice, Option.map_some,
    ← hwritten, String.ofList_append, String.ofList_toList]

theorem substitute_ofList (lookup : String → String) (text : List Char) :
    substitute lookup (.ofList text) = .ofList (output lookup text) := by
  rw [substitute, String.toList_ofList]
  refine congrArg String.ofList (List.flatMap_congr fun piece _ => ?_)
  cases piece <;> rfl

/-- The reference at the beginning of a text ends at a boundary in it, and its name lies before that
end. So whatever text the pass goes over and wherever it stands, its start is a boundary in the
text, and at a dollar sign its position and the next one are boundaries: every turn comes off, the
start is never behind the end, and in the end there is what `substitute` gives. -/
theorem scan_takes_whole_characters (lookup : String → String) (text : String) :
    (∀ behind, behind ≠ "" → ∃ name width, referenceName? behind = some (name, width) ∧
      width ≤ behind.utf8ByteSize ∧ IsBoundary behind width ∧
      ∀ n, name = some n → ∃ first last, first ≤ last ∧ last ≤ width ∧
        slice? behind first last = some n) ∧
    (∀ c, Visits lookup text c →
      IsBoundary text c.start ∧ c.start ≤ c.position ∧ c.position ≤ text.utf8ByteSize ∧
      min c.start text.utf8ByteSize = c.start ∧
      (OpensAt text c.position →
        IsBoundary text c.position ∧ IsBoundary text (c.position + 1)) ∧
      (c.position < text.utf8ByteSize → ∃ next, turn? lookup text c = some next)) ∧
    scan? lookup text = some (substitute lookup text) := by
  obtain ⟨chars, rfl⟩ : ∃ chars, text = .ofList chars := ⟨text.toList, String.ofList_toList.symm⟩
  refine ⟨?_, ?_, ?_⟩
  · intro behind hne
    obtain ⟨name, used, rest, hread, -⟩ := exists_reads (mt String.toList_eq_nil_iff.mp hne)
    obtain ⟨hle, hboundary, hname⟩ := hread.spec
    have hsome := hread.eq_some
    rw [String.utf8Len_toList] at hle
    rw [String.ofList_toList] at hsome hboundary hname
    refine ⟨_, _, hsome, hle, hboundary, fun n hn => ?_⟩
    obtain ⟨chars, hchars, rfl⟩ := Option.map_eq_some_iff.mp hn
    exact hname chars hchars
  · intro c hvisits
    obtain ⟨before, literal, behind, h⟩ := hvisits.scans
    obtain ⟨hboundary, hle⟩ := h.spec
    rw [String.utf8ByteSize_ofList]
    refine ⟨hboundary, h.start_le, hle, Nat.min_eq_left (Nat.le_trans h.start_le hle), ?_, ?_⟩
    · exact fun hopens => hopens.boundaries
    · intro hposition
      obtain ⟨next, _, _, _, hturn, -⟩ := h.turn hposition
      exact ⟨next, hturn⟩
  · rw [scan?_eq, substitute_ofList]

/-- A name with a character of two bytes is taken as a whole: by the theorem there is a boundary at
the end of its reference, while inside of the character there is none. -/
theorem scan_takes_whole_characters_umlaut :
    referenceName? "{ö}é" = some (some "ö", 4) ∧ IsBoundary "{ö}é" 4 ∧ ¬ IsBoundary "{ö}é" 2 := by
  obtain ⟨hreads, -⟩ := scan_takes_whole_characters id "{ö}é"
  obtain ⟨name, width, hread, -, hboundary, -⟩ := hreads "{ö}é" (by decide)
  have hvalue : referenceName? "{ö}é" = some (some "ö", 4) := by decide +kernel
  rw [hvalue] at hread
  cases hread
  exact ⟨hvalue, hboundary, by decide⟩

end BuildTool.Reference
