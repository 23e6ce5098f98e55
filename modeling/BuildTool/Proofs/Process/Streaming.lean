import BuildTool.Process.Start
import BuildTool.Proofs.Text.Decoding

/-!
# Output line by line

What a program prints is handed on in chunks, one for each line and one for what follows the last
line end, each of them decoded alone. Nothing that is decoded reaches across a line feed, so the
chunks together are the text of the whole output, which `Outcome.printed` decodes at once.

    bytes     63 61 66 E9 0A 74 61 69 6C
    chunks    caf�⏎  tail
    printed   caf�⏎tail
-/

namespace BuildTool

/-- The text is one line with its end: its last character is a line feed and no other is. -/
def IsLine (text : String) : Prop := ∃ line : String, text = line ++ "\n" ∧ '\n' ∉ line.toList

namespace Text

/-! ## Lines of bytes -/

theorem byteLines_of_not_mem {bytes : List UInt8} (h : 10 ∉ bytes) :
    byteLines bytes = if bytes = [] then [] else [bytes] := by
  induction bytes with
  | nil => rfl
  | cons b bytes ih =>
    rw [List.mem_cons, not_or] at h
    rw [byteLines, if_neg (Ne.symm h.1), ih h.2, if_neg (List.cons_ne_nil b bytes)]
    split_ifs with hnil
    · rw [hnil]
    · rfl

theorem byteLines_append {line : List UInt8} (h : 10 ∉ line) (bytes : List UInt8) :
    byteLines (line ++ 10 :: bytes) = (line ++ [10]) :: byteLines bytes := by
  induction line with
  | nil => rw [List.nil_append, byteLines, if_pos rfl, List.nil_append]
  | cons b line ih =>
    rw [List.mem_cons, not_or] at h
    rw [List.cons_append, byteLines, if_neg (Ne.symm h.1), ih h.2]
    rfl

/-- Bytes are a last line without an end, or a line and what follows it. -/
theorem lines_induction {P : List UInt8 → Prop} (last : ∀ bytes, 10 ∉ bytes → P bytes)
    (line : ∀ line bytes, 10 ∉ line → P bytes → P (line ++ 10 :: bytes)) (bytes : List UInt8) :
    P bytes := by
  by_cases h : 10 ∈ bytes
  · obtain ⟨before, rest, hbytes, hbefore⟩ := List.eq_append_cons_of_mem h
    have hlt : rest.length < bytes.length := by
      rw [hbytes, List.length_append, List.length_cons]
      omega
    rw [hbytes]
    exact line before rest hbefore (lines_induction last line rest)
  · exact last bytes h
  termination_by bytes.length

/-! ## Decoded lines -/

theorem lossyText_mk (bytes : List UInt8) :
    lossyText ⟨bytes.toArray⟩ = String.ofList (lossyChars bytes) := by
  rw [lossyText_eq, ByteArray.toList_eq]

theorem lossyChars_line (line bytes : List UInt8) :
    lossyChars (line ++ 10 :: bytes) = lossyChars line ++ '\n' :: lossyChars bytes :=
  lossyChars_append (by decide) line bytes

theorem not_mem_lossyChars {line : List UInt8} (h : 10 ∉ line) : '\n' ∉ lossyChars line :=
  fun hmem => h (mem_of_mem_lossyChars (by decide) hmem)

theorem lossyChars_ne_nil {bytes : List UInt8} (h : bytes ≠ []) : lossyChars bytes ≠ [] := by
  cases bytes with
  | nil => exact absurd rfl h
  | cons b bytes =>
    rw [lossyChars]
    split
    · exact List.cons_ne_nil _ _
    · split <;> exact List.cons_ne_nil _ _

/-- These chunks are the lines of some bytes, each of them decoded. -/
structure AreLines (bytes : List UInt8) (chunks : List String) : Prop where
  joined : String.join chunks = String.ofList (lossyChars bytes)
  closed : ∀ chunk ∈ chunks.dropLast, IsLine chunk
  each : ∀ chunk ∈ chunks, chunk ≠ "" ∧ (IsLine chunk ∨ '\n' ∉ chunk.toList)
  length : chunks.length =
    bytes.count 10 + if bytes = [] ∨ bytes.getLast? = some 10 then 0 else 1

theorem areLines_byteLines (bytes : List UInt8) :
    AreLines bytes ((byteLines bytes).map fun line => lossyText ⟨line.toArray⟩) := by
  simp only [lossyText_mk]
  induction bytes using lines_induction with
  | last bytes h =>
    rw [byteLines_of_not_mem h]
    split_ifs with hnil
    · subst hnil
      refine ⟨by simp [lossyChars], ?_, ?_, rfl⟩ <;> simp
    · have hlast : bytes.getLast? ≠ some 10 := fun he => h (List.mem_of_getLast? he)
      refine ⟨by simp, by simp, ?_, ?_⟩
      · intro chunk hchunk
        obtain rfl := List.mem_singleton.mp hchunk
        rw [String.toList_ofList]
        refine ⟨?_, Or.inr (not_mem_lossyChars h)⟩
        intro he
        exact lossyChars_ne_nil hnil (by simpa using he)
      · simp [List.count_eq_zero.mpr h, hnil, hlast]
  | line line bytes h ih =>
    have hline : lossyChars (line ++ [10]) = lossyChars line ++ ['\n'] := by
      rw [lossyChars_line, lossyChars]
    have hchunk : IsLine (String.ofList (lossyChars (line ++ [10]))) := by
      refine ⟨String.ofList (lossyChars line), ?_, ?_⟩
      · rw [hline, String.ofList_append]
      · rw [String.toList_ofList]
        exact not_mem_lossyChars h
    have hne : String.ofList (lossyChars (line ++ [10])) ≠ "" := by
      rw [hline]
      simp
    rw [byteLines_append h, List.map_cons]
    generalize (byteLines bytes).map (fun line => String.ofList (lossyChars line)) = chunks at ih
    refine ⟨?_, ?_, ?_, ?_⟩
    · rw [String.join_cons, ih.joined, hline, ← String.ofList_append, lossyChars_line,
        List.append_assoc, List.singleton_append]
    · intro chunk hmem
      cases chunks with
      | nil => cases hmem
      | cons next chunks =>
        rw [List.dropLast_cons_cons, List.mem_cons] at hmem
        rcases hmem with rfl | hmem
        · exact hchunk
        · exact ih.closed chunk hmem
    · intro chunk hmem
      rcases List.mem_cons.mp hmem with rfl | hmem
      · exact ⟨hne, Or.inl hchunk⟩
      · exact ih.each chunk hmem
    · rw [List.length_cons, ih.length]
      cases bytes with
      | nil => simp [List.count_append, List.count_eq_zero.mpr h]
      | cons b bytes =>
        simp [List.count_append, List.count_eq_zero.mpr h, List.getLast?_append]
        omega

end Text

namespace Outcome

/-- If a program prints to standard output only, then its chunks are, one after the other, the text
of the whole output with every ill-formed stretch replaced. No chunk is empty, each but the last is
a line with the only line feed at its end, and there is one for each line feed and one for what
follows the last of them, if anything does. -/
theorem chunks_are_printed_lines (o : Outcome) (herr : o.err = ByteArray.empty) :
    String.join o.chunks = o.printed ∧ Text.Decodes o.out.toList o.printed.toList ∧
      (∀ chunk ∈ o.chunks.dropLast, IsLine chunk) ∧
      (∀ chunk ∈ o.chunks, chunk ≠ "" ∧ (IsLine chunk ∨ '\n' ∉ chunk.toList)) ∧
      o.chunks.length = o.out.toList.count 10 +
        if o.out.toList = [] ∨ o.out.toList.getLast? = some 10 then 0 else 1 := by
  have hchunks : o.chunks =
      (Text.byteLines o.out.toList).map fun line => Text.lossyText ⟨line.toArray⟩ := by
    rw [chunks, herr, ByteArray.toList_empty, Text.byteLines, List.append_nil]
  have hprinted : o.printed = String.ofList (Text.lossyChars o.out.toList) :=
    Text.lossyText_eq o.out
  have hlines := Text.areLines_byteLines o.out.toList
  rw [← hchunks] at hlines
  refine ⟨hlines.joined.trans hprinted.symm, ?_, hlines.closed, hlines.each, hlines.length⟩
  rw [hprinted, String.toList_ofList]
  exact Text.decodes_iff.mpr rfl

/-- By the theorem, a byte that begins no character and one that begins a character which breaks
off are replaced each in its own line. -/
theorem chunks_are_printed_lines_broken :
    let o : Outcome :=
      { out := ⟨#[0x61, 0xE9, 0x0A, 0x0A, 0xF0, 0x9F, 0x0A, 0xFF, 0x62]⟩, disk := .setUp 0 }
    o.err = ByteArray.empty ∧ o.chunks = ["a\uFFFD\n", "\n", "\uFFFD\n", "\uFFFDb"] ∧
      o.printed = "a\uFFFD\n\n\uFFFD\n\uFFFDb" ∧
      Text.Decodes [0x61, 0xE9, 0x0A, 0x0A, 0xF0, 0x9F, 0x0A, 0xFF, 0x62] o.printed.toList := by
  intro o
  obtain ⟨hjoin, hdecodes, -, -, -⟩ := chunks_are_printed_lines o rfl
  have hchunks : o.chunks = ["a\uFFFD\n", "\n", "\uFFFD\n", "\uFFFDb"] := by decide +kernel
  rw [ByteArray.toList_eq] at hdecodes
  refine ⟨rfl, hchunks, ?_, hdecodes⟩
  rw [← hjoin, hchunks]
  rfl

/-- A program that prints nothing has no chunk, although its output has no line feed at its end. -/
theorem silent_program_has_no_chunk :
    ∃ o, Program.start (.setUp 0) { program := "/bin/true", directory := "/" } = .ok o ∧
      o.err = ByteArray.empty ∧ o.out.toList.getLast? ≠ some 10 ∧
      o.chunks.length ≠ o.out.toList.count 10 + 1 := by
  have hrun : (Program.start (.setUp 0) { program := "/bin/true", directory := "/" }).toOption.map
      (fun o => (o.err.data, o.out.toList, o.chunks)) = some (#[], [], []) := by
    decide +kernel
  obtain ⟨o, ho, hends⟩ := Option.map_eq_some_iff.mp hrun
  simp only [Prod.mk.injEq] at hends
  obtain ⟨herr, hout, hchunks⟩ := hends
  refine ⟨o, ?_, ByteArray.ext herr, ?_, ?_⟩
  · rcases hstart : Program.start (.setUp 0) { program := "/bin/true", directory := "/" }
      with _ | o'
    · rw [hstart] at ho
      cases ho
    · rw [hstart] at ho
      cases ho
      rfl
  · simp [hout]
  · simp [hout, hchunks]

end Outcome

end BuildTool
