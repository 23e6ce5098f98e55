import BuildTool.Proofs.Path.Normal
import BuildTool.Proofs.Script.Failure
import Mathlib.Data.List.Basic

/-!
# Scripts one after the other

All that the lines of a script leave to the later ones is in the plan and the output. So a text
behind a line end is carried out as if it were a script of its own, from what the script before it
has left:

    runWith print (first ++ second) st  =  runWith print second (runWith print first st).2

This holds if the first script does not fail, and but for one thing: an error about the text of the
second script names its line, and the lines of the first one count (`steps_below`).
-/

namespace BuildTool

variable {σ : Type}

/-! ## Lines of joined texts -/

namespace Text

theorem length_splitChar (sep : Char) (s : List Char) :
    (splitChar sep s).length = s.count sep + 1 := by
  induction s with
  | nil => rfl
  | cons c s ih =>
    obtain ⟨piece, pieces, hs⟩ := List.exists_cons_of_ne_nil (splitChar_ne_nil sep s)
    rw [hs] at ih
    rw [splitChar, hs]
    by_cases hc : c = sep
    · subst hc
      simpa using ih
    · simpa [hc] using ih

/-- The pieces before a line feed are lines, and those of the text behind it follow. -/
theorem lines_append_cons (s rest : List Char) :
    lines (s ++ '\n' :: rest) = (splitChar '\n' s).map withoutLineEnd ++ lines rest := by
  have hne := splitChar_ne_nil '\n' rest
  rw [lines, lines, splitChar_append_cons, List.dropLast_append_of_ne_nil hne,
    List.getLast?_append_of_ne_nil _ hne, List.map_append]
  split <;> simp

/-- The text is empty or ends with a line feed, so that what follows it begins a line. -/
def IsEnded (s : List Char) : Prop := s = [] ∨ s.getLast? = some '\n'

theorem lines_append {s : List Char} (h : IsEnded s) (rest : List Char) :
    lines (s ++ rest) = lines s ++ lines rest := by
  rcases h with rfl | h
  · rfl
  · obtain ⟨s, rfl⟩ := List.getLast?_eq_some_iff.mp h
    have hs : lines (s ++ ['\n']) = (splitChar '\n' s).map withoutLineEnd :=
      (lines_append_cons s []).trans (List.append_nil _)
    rw [List.append_assoc, List.singleton_append, lines_append_cons, hs]

theorem length_lines {s : List Char} (h : IsEnded s) : (lines s).length = s.count '\n' := by
  rcases h with rfl | h
  · rfl
  · obtain ⟨s, rfl⟩ := List.getLast?_eq_some_iff.mp h
    rw [lines_append_cons, List.length_append, List.length_map, length_splitChar,
      List.count_append]
    rfl

end Text

/-! ## Numbers of lines -/

/-- The error in a text that stands below so many lines. -/
def BuildError.below (count : Nat) : BuildError → BuildError
  | .parse (some line) fault => .parse (some (count + line)) fault
  | other => other

/-- The error does not say in which line it is. -/
def BuildError.NamesNoLine (e : BuildError) : Prop := ∀ line fault, e ≠ .parse (some line) fault

theorem BuildError.NamesNoLine.below_atLine {e : BuildError} (h : e.NamesNoLine)
    (count number : Nat) :
    (Script.atLine number e).below count = Script.atLine (count + number) e := by
  cases e with
  | parse line fault =>
    cases line with
    | none => rfl
    | some line => exact absurd rfl (h line fault)
  | _ => rfl

/-- Prints onto something that takes lines, and may refuse one as a file does. -/
def Printer.onto (take : String → σ → Except Fault Unit × σ) : Printer σ :=
  fun message out =>
    match take message out with
    | (.ok (), out) => (.ok (), out)
    | (.error fault, out) => (.error (.file "<output>" fault), out)

theorem Printer.namesNoLine_onto {take : String → σ → Except Fault Unit × σ} {message : String}
    {out : σ} {e : BuildError} (h : (onto take message out).1 = .error e) : e.NamesNoLine := by
  unfold onto at h
  split at h
  · cases h
  · cases h
    rintro line fault ⟨⟩

/-- The line is taken by a sink of the tool. -/
def Printed.take (sink : SinkKind) (message : String) (p : Printed) : Except Fault Unit × Printed :=
  match p.line sink message with
  | .ok p' => (.ok (), p')
  | .error fault => (.error fault, p)

/-- The tool's own sinks are printed onto. -/
theorem Printed.printer_eq_onto (sink : SinkKind) : printer sink = .onto (take sink) := by
  funext message p
  simp only [printer, Printer.ofSay, emit, Printer.onto, take]
  cases p.line sink message <;> rfl

namespace Script

variable {take : String → σ → Except Fault Unit × σ}

theorem namesNoLine_step {line : String} {st : Plan × σ} {e : BuildError}
    (h : (step (.onto take) line st).1 = .error e) : e.NamesNoLine := by
  obtain ⟨plan, out⟩ := st
  simp only [step] at h
  split at h
  · cases h
    rintro line fault ⟨⟩
  · cases h
  · exact Printer.namesNoLine_onto h
  · rcases Plan.relate_eq_error h with ⟨text, rfl⟩ | ⟨context, rfl⟩ <;> rintro line fault ⟨⟩

/-- The number of the first line shows in what an error names, and nowhere else. -/
theorem steps_below (count number : Nat) (lines : List String) (st : Plan × σ) :
    steps (.onto take) (count + number) lines st =
      ((steps (.onto take) number lines st).1.map (.below count),
        (steps (.onto take) number lines st).2) := by
  induction lines generalizing number st with
  | nil => rfl
  | cons line rest ih =>
    rw [steps, steps]
    rcases hs : step (.onto take) line st with ⟨e | _, st'⟩
    · have he : e.NamesNoLine := namesNoLine_step (congrArg Prod.fst hs)
      simp only [Option.map_some, he.below_atLine]
    · exact ih (number + 1) st'

theorem lines_append {first : String} (h : Text.IsEnded first.toList) (second : String) :
    lines (first ++ second) = lines first ++ lines second := by
  rw [lines, lines, lines, String.toList_append, Text.lines_append h, List.map_append]

/-- A script behind one that is empty or ends with a line feed is carried out from the graph, the
variables, the environment and the output that the first one has left, if that did not fail. It ends
as it would alone, but for the line that an error about its text names: the lines of the first
script, which are its line feeds, count. -/
theorem joined_scripts_run_in_turn (take : String → σ → Except Fault Unit × σ) {first : String}
    (hfirst : first = "" ∨ first.toList.getLast? = some '\n') (second : String) (st : Plan × σ) :
    let run := runWith (.onto take)
    run (first ++ second) st =
        (match run first st with
        | (some e, reached) => (some e, reached)
        | (none, reached) =>
          ((run second reached).1.map (.below (lines first).length), (run second reached).2)) ∧
      (lines first).length = first.toList.count '\n' := by
  intro run
  have hended : Text.IsEnded first.toList := hfirst.imp (by rintro rfl; rfl) id
  refine ⟨?_, ?_⟩
  · simp only [run, runWith, lines_append hended, steps_append]
    rcases steps (.onto take) 1 (lines first) st with ⟨_ | e, reached⟩
    · rw [Nat.add_comm]
      exact steps_below _ 1 _ _
    · rfl
  · rw [lines, List.length_map]
    exact Text.length_lines hended

/-- By the theorem, a line that is no statement is the third of its script, and the fifth when two
lines stand before it; what it finds is what these have left. -/
theorem joined_scripts_run_in_turn_fifthLine :
    let print := Printed.printer .kept
    let first := "x = 1\r\nenv.Y += $x\n"
    let second := "<< ${env.Y}\r\n\nno statement\n<< two"
    let reached := (runWith print first ({}, {})).2
    let fault := ParseFault.badStatement "no statement"
    first.toList.getLast? = some '\n' ∧
      (runWith print second reached).1 = some (.parse (some 3) fault) ∧
      runWith print (first ++ second) ({}, {}) =
        (some (.parse (some 5) fault), (runWith print second reached).2) ∧
      (runWith print second reached).2.2.kept = "1\n" := by
  intro print first second reached fault
  have hlast : first.toList.getLast? = some '\n' := by decide +kernel
  have hnone : (runWith print first ({}, {})).1 = none := by decide +kernel
  have hfirst : runWith print first ({}, {}) = (none, reached) := Prod.ext hnone rfl
  have hsecond : (runWith print second reached).1 = some (.parse (some 3) fault) := by
    decide +kernel
  have hcount : (lines first).length = 2 := by decide +kernel
  have hprint : .onto (Printed.take .kept) = print := (Printed.printer_eq_onto .kept).symm
  have hjoined := (joined_scripts_run_in_turn (Printed.take .kept) (Or.inr hlast) second
    (({}, {}) : Plan × Printed)).1
  simp only [hprint, hfirst, hsecond, hcount, Option.map_some] at hjoined
  exact ⟨hlast, hsecond, hjoined, by decide +kernel⟩

end Script

end BuildTool
