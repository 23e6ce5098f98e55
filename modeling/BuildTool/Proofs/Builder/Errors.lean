import BuildTool.Builder

/-!
# The errors of commands

A command that starts no other build fails with an error of its own: of its arguments, of a file,
or of what it asked a server for. So an error about a graph, such as a cycle or a target that is
not there, comes from a build that the command has started, and is that build's error.

    runCommand command  =  error e     →   e.IsOfCommand, or an open quote, or
                                           command = bygg …, whose build ends with e
-/

namespace BuildTool

/-- The error of something that a command does itself. -/
inductive BuildError.IsOfCommand : BuildError → Prop
  | failure (cause : CommandError) : IsOfCommand (.commandFailure cause)
  | network (fault : NetworkFault) : IsOfCommand (.network fault)
  | mismatch (url : String) : IsOfCommand (.checksumMismatch url)
  | unsupported (url : String) : IsOfCommand (.unsupportedArchive url)
  | io (path : String) (problem : FileProblem) : IsOfCommand (.io path problem)

attribute [simp] BuildError.IsOfCommand.network BuildError.IsOfCommand.mismatch
  BuildError.IsOfCommand.unsupported BuildError.IsOfCommand.io

@[simp] theorem BuildError.isOfCommand_command (cause : CommandError) :
    (BuildError.command cause).IsOfCommand := .failure cause

@[simp] theorem BuildError.isOfCommand_file (path : String) (fault : Fault) :
    (BuildError.file path fault).IsOfCommand := .io path (.fault fault)

/-- Whatever goes wrong is an error of something that a command does itself. -/
def FailsAsCommand {α : Type} (result : Except BuildError α) : Prop :=
  ∀ e, result = .error e → e.IsOfCommand

@[simp] theorem failsAsCommand_ok {α : Type} (a : α) : FailsAsCommand (.ok a) :=
  fun _ h => nomatch h

@[simp] theorem failsAsCommand_error_iff {α : Type} {e : BuildError} :
    FailsAsCommand (.error e : Except BuildError α) ↔ e.IsOfCommand := by
  constructor
  · intro h
    exact h e rfl
  · rintro h e' he
    cases he
    exact h

theorem FailsAsCommand.bind {α β : Type} {result : Except BuildError α}
    (h : FailsAsCommand result) {next : α → Except BuildError β}
    (hnext : ∀ a, FailsAsCommand (next a)) : FailsAsCommand (result.bind next) := by
  rcases result with e | a
  · exact failsAsCommand_error_iff.mpr (failsAsCommand_error_iff.mp h)
  · exact hnext a

theorem FailsAsCommand.map {α β : Type} {result : Except BuildError α}
    (h : FailsAsCommand result) (f : α → β) : FailsAsCommand (result.map f) := by
  rcases result with e | a
  · exact failsAsCommand_error_iff.mpr (failsAsCommand_error_iff.mp h)
  · exact failsAsCommand_ok _

/-! ## On the disk -/

namespace Disk

theorem failsAsCommand_clean (d : Disk) (base path : String) (recursive : Bool) :
    FailsAsCommand (d.clean base path recursive).1 := by
  simp only [clean, changed]
  repeat' split
  all_goals simp

theorem failsAsCommand_makeDirectory (d : Disk) (base path : String) :
    FailsAsCommand (d.makeDirectory base path).1 := by
  simp only [makeDirectory]
  repeat' split
  all_goals simp

theorem failsAsCommand_copy (d : Disk) (base source destination : String) :
    FailsAsCommand (d.copy base source destination).1 := by
  simp only [copy]
  repeat' split
  all_goals simp

theorem failsAsCommand_unpackEntry (d : Disk) (top : String) (e : ArchiveEntry) :
    FailsAsCommand (d.unpackEntry top e).1 := by
  simp only [unpackEntry]
  repeat' split
  all_goals simp

theorem failsAsCommand_unpack (top : String) (items : List ArchiveItem) (d : Disk) :
    FailsAsCommand (d.unpack top items).1 := by
  induction items generalizing d with
  | nil => exact failsAsCommand_ok ()
  | cons item rest ih =>
    cases item with
    | damage => simp [unpack]
    | entry e =>
      have he := failsAsCommand_unpackEntry d top e
      unfold unpack
      split
      · next h =>
        rw [h] at he
        exact he
      · exact ih _

end Disk

/-! ## Downloads -/

namespace Download

theorem failsAsCommand_send (server : Http.Server) (userAgent : String) (since : Option Time)
    (address : String) : FailsAsCommand (send server userAgent since address).1 := by
  unfold send
  dsimp only
  repeat' split
  all_goals simp

theorem failsAsCommand_verify (address : String) (checksum : Option String) (body : ByteArray) :
    FailsAsCommand (verify address checksum body) := by
  unfold verify
  repeat' split
  all_goals simp

theorem failsAsCommand_accept (address : String) (checksum : Option String) (r : Http.Response) :
    FailsAsCommand (accept address checksum r) := by
  have hv := failsAsCommand_verify address checksum r.body
  unfold accept
  split
  · simp
  · split
    · simp
    · split
      · simp
      · next h =>
        rw [h] at hv
        simpa using hv

theorem failsAsCommand_extract (dir : String) (form : Form) (r : Http.Response) (d : Disk) :
    FailsAsCommand (extract dir form r d).1 := by
  unfold extract
  split
  · simp
  · split
    · simp
    · next d' _ =>
      have hu := Disk.failsAsCommand_unpack (Text.octets dir) (itemsOf form r.body) d'
      split
      · next h =>
        rw [h] at hu
        exact hu
      · split <;> simp

end Download

open Download in
theorem failsAsCommand_download (settings : HttpSettings) (logger : Logger) (dir address : String)
    (checksum : Option String) (w : Workspace) :
    FailsAsCommand (download settings logger dir address checksum w).1 := by
  simp only [download]
  split
  · simp
  · split
    · simp
    · next form _ =>
      have hanswer := (failsAsCommand_send (w.note logger ("Downloading " ++ address)).server
        settings.userAgent ((w.note logger ("Downloading " ++ address)).disk.modifiedTime? dir)
        address).bind (failsAsCommand_accept address checksum)
      split
      · next h => exact failsAsCommand_error_iff.mpr (hanswer _ h)
      · simp
      · next response _ =>
        have hextract := failsAsCommand_extract dir form response
          (w.note logger ("Downloading " ++ address)).disk
        split
        · next h =>
          rw [h] at hextract
          exact failsAsCommand_error_iff.mpr (failsAsCommand_error_iff.mp hextract)
        · simp

/-! ## Commands -/

theorem Workspace.failsAsCommand_emit (w : Workspace) (sink : SinkKind) (text : String) :
    FailsAsCommand (w.emit sink text).1 := by
  have hp : FailsAsCommand (w.printed.emit sink text) := by
    unfold Printed.emit
    split <;> simp
  unfold emit
  split
  · simp
  · next h => exact failsAsCommand_error_iff.mpr (hp _ h)

/-- Only the word `bygg` starts a build. -/
theorem Command.eq_of_ofWords_eq_build {first : String} {arguments arguments' : List String}
    (h : ofWords first arguments = .build arguments') :
    first = "bygg" ∧ arguments = arguments' := by
  unfold ofWords at h
  split at h
  · cases h
  · split at h
    · next hb =>
      cases h
      exact ⟨hb, rfl⟩
    · repeat' split at h
      all_goals cases h

namespace Session

variable (nested : Session → List String → Workspace → Performed) (s : Session) (target : String)
  (w : Workspace)

theorem failsAsCommand_runProgram (program : String) (arguments : List String) :
    FailsAsCommand (s.runProgram program arguments w).1 := by
  simp only [runProgram]
  repeat' split
  all_goals simp

/-- A command that starts no build fails with an error of its own. -/
theorem failsAsCommand_perform {command : Command}
    (h : ∀ arguments, command ≠ .build arguments) :
    FailsAsCommand (s.perform nested target command w).1 := by
  cases command with
  | message text => exact w.failsAsCommand_emit s.sink text
  | build arguments => exact absurd rfl (h arguments)
  | download address checksum => exact (failsAsCommand_download _ _ _ _ _ w).map _
  | clean path recursive => exact Disk.failsAsCommand_clean _ _ _ _
  | makeDirectory path => exact Disk.failsAsCommand_makeDirectory _ _ _
  | copy source =>
    cases source with
    | none => exact failsAsCommand_error_iff.mpr (.failure _)
    | some source => exact Disk.failsAsCommand_copy _ _ _ _
  | program name arguments => exact s.failsAsCommand_runProgram w name arguments

/-- An error of a command that it does not make itself is the error of the build that it starts,
and what the command comes to is what this build comes to. -/
theorem runCommand_eq_error {command : String} {e : BuildError}
    (h : (s.runCommand nested target command w).1 = .error e) :
    e.IsOfCommand ∨ e = .parse none (.openQuote command) ∨
      ∃ arguments, splitWords? command = some ("bygg" :: arguments) ∧
        s.runCommand nested target command w = nested s arguments (w.note s.logger
          ("Running command " ++ Text.quoted "bygg" ++ " with args " ++
            Text.quotedList arguments)) := by
  unfold runCommand at h ⊢
  split at h
  · exact Or.inl (w.failsAsCommand_emit _ _ e h)
  · next hdry =>
    rw [if_neg hdry]
    split at h
    · cases h
      exact Or.inr (Or.inl rfl)
    · cases h
    · next first arguments hwords =>
      by_cases hb : ∃ arguments', Command.ofWords first arguments = .build arguments'
      · obtain ⟨arguments', hb⟩ := hb
        obtain ⟨rfl, rfl⟩ := Command.eq_of_ofWords_eq_build hb
        refine Or.inr (Or.inr ⟨arguments, hwords, ?_⟩)
        simp only [hb]
        rfl
      · exact Or.inl (failsAsCommand_perform nested s target _ (not_exists.mp hb) e h)

end Session

end BuildTool
