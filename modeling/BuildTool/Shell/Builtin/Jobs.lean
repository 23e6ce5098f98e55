import BuildTool.Shell.Builtin.Settings

/-!
# Builtin commands for processes

`kill` sends signals and `wait` tells how commands in the background ended. What these do is done
before the next command begins, if at a later time of the clock, up to which `wait` lets time
pass. There is no terminal for the control of jobs.
-/

namespace BuildTool.Shell.Builtin

def killUsage : String :=
  "Usage: kill [-s sigspec | -signum | -sigspec] [pid | job]... or\nkill -l [exitstatus]"

/-- Sends a signal to a process by its number. In a shell that carries out commands on their own
the number is that of the shell that waits for it, which gets the signal later. -/
def send (signal process : Nat) (s : State) : State :=
  if process = s.process ∨ process = 0 then
    if s.depth = 0 then s.receive signal else { s with sent := s.sent ++ [signal] }
  else if s.jobs.any (·.1 == process) ∧ signal = 0 then s
  else (s.complain "No such process\n").leave 1

/-- The signal in the option that comes first, if it is one. -/
def signalOption? (arguments : List String) : Option Nat :=
  match arguments with
  | first :: _ =>
    match first.toList with
    | '-' :: name => killSignal? (String.ofList name)
    | _ => none
  | [] => none
  where
    /-- The signal that a text names; the end of the shell is none. -/
    killSignal? (text : String) : Option Nat :=
      (signalNumber? text).or ((signal? text).filter (· ≠ 0))

/-- Sends a signal to processes, or lists the names of the signals. -/
def kill : Builtin := fun arguments s =>
  let known : List Letter := [{ letter := 'l' }, { letter := 's', valued := true }]
  let go (signal : Nat) (targets : List String) : State :=
    if targets = [] then s.fail killUsage
    else
      (targets.foldl (fun s target =>
        if s.isHalted then s
        else if target.startsWith "%" then s.fail ("No such job: " ++ target)
        else
          let digits := if target.startsWith "-" then String.ofList (target.toList.drop 1)
            else target
          s.withCount digits fun process => send signal process s) (s.leave 0))
  if arguments = [] then s.fail killUsage
  else
    match signalOption? arguments with
    | some signal => go signal arguments.tail
    | none =>
      s.withOptions known arguments fun letters options operands =>
        match options.lookup 's' with
        | some name =>
          match signalOption?.killSignal? name with
          | some signal =>
            if letters.contains 'l' then s.fail killUsage else go signal operands
          | none => s.fail ("invalid signal number or name: " ++ name)
        | none =>
          if !letters.contains 'l' then go 15 operands
          else
            match operands with
            | [] =>
              ((signalNames.drop 1).foldl (fun s name => s.say (name ++ "\n")) (s.say "0\n")).leave 0
            | text :: _ =>
              s.withCount text fun n =>
                match if n = 128 then none else signalNames[if n > 128 then n - 128 else n]? with
                | some name =>
                  if n = 0 then
                    s.fail ("invalid signal number or exit status: " ++ text)
                  else (s.say (name ++ "\n")).leave 0
                | none => s.fail ("invalid signal number or exit status: " ++ text)

/-- Waits for commands in the background and tells how they ended. -/
def wait : Builtin := fun arguments s =>
  s.withOptions [] arguments fun _ _ operands =>
    let s := s.caughtUp
    match operands with
    | [] => s.leave 0
    | _ =>
      operands.foldl (fun s target =>
        if s.isHalted then s
        else if target.startsWith "%" then s.fail ("No such job: " ++ target)
        else
          s.withCount target fun process =>
            match s.jobs.lookup process with
            | some status => s.leave status
            | none => s) (s.leave 127)

/-- Lists the commands in the background; all have ended. -/
def jobs : Builtin := fun arguments s =>
  s.withOptions [{ letter := 'l' }, { letter := 'p' }] arguments fun _ _ _ => s.leave 0

/-- Goes on with a command that was stopped; there is none. -/
def resume : Builtin := fun arguments s =>
  s.withOptions [] arguments fun _ _ operands =>
    match operands with
    | [] => s.fail "No current job"
    | job :: _ => s.fail ("No such job: " ++ job)

end BuildTool.Shell.Builtin
