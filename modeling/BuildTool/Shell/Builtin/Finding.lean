import BuildTool.Process.Program
import BuildTool.Shell.Builtin.Naming
import BuildTool.Shell.Grammar

/-!
# What command names stand for

A name is a keyword, an alias, a function, a builtin command or a program. Programs that were
found once are remembered until the search path changes.
-/

namespace BuildTool.Shell

def regularNames : List String :=
  ["[", "alias", "bg", "cd", "chdir", "command", "echo", "false", "fg", "getopts", "hash", "jobs",
    "kill", "printf", "pwd", "read", "test", "true", "type", "ulimit", "umask", "unalias", "wait"]

/-- A fault of a special builtin command ends the shell, and assignments in front of one stay. -/
def isSpecialBuiltin (name : String) : Bool := specialNames.contains name || name == "local"

/-- The shell carries out the command itself. -/
def isBuiltin (name : String) : Bool := isSpecialBuiltin name || regularNames.contains name

/-- Arguments of the command that are assignments are taken as such. -/
def takesAssignments (name : String) : Bool :=
  ["alias", "export", "local", "readonly"].contains name

def standardPath : String := "/usr/local/sbin:/usr/local/bin:/usr/sbin:/usr/bin:/sbin:/bin"

/-- What complaints say of a program that cannot be started. -/
def startText (f : Fault) : String :=
  if f = .notFound ∨ f = .notDirectory then "not found" else f.text

/-- The status of a program that cannot be started. -/
def startStatus (f : Fault) : Nat :=
  if [Fault.notFound, .notDirectory, .linkLoop, .nameTooLong].contains f then 127 else 126

namespace State

def searchPath (s : State) : String := (s.vars.value? "PATH").getD ""

/-- The path of the first executable file with a name in some directories, or the fault met
last. -/
def locateIn (disk : Disk) (name : String) : List String → Fault → Except Fault String
  | [], fault => .error fault
  | dir :: rest, fault =>
    let path := Program.pathIn dir name
    match disk.tree.stat disk.work path with
    | .ok (_, .tool _) | .ok (_, .file _ _ true) => .ok path
    | .ok _ => locateIn disk name rest .permission
    | .error .notFound | .error .notDirectory => locateIn disk name rest fault
    | .error f => locateIn disk name rest f

def locate (s : State) (searchPath name : String) : Except Fault String :=
  locateIn s.system.disk name (Program.searchDirectories searchPath) .notFound

/-- Remembers where a program was found. -/
def notice (s : State) (name path : String) : State :=
  if s.found.any (·.1 == name) then s else { s with found := s.found ++ [(name, path)] }

/-- Looks for a program that is neither a function nor builtin, and remembers it. -/
def look (s : State) (name : String) : Except Fault String × State :=
  match s.locate s.searchPath name with
  | .ok path => (.ok path, s.notice name path)
  | .error f => (.error f, s)

end State

namespace Builtin

/-- Describes what a name stands for, in words or so that it can be used. With a search path of
its own nothing is remembered. -/
def describe (verbose : Bool) (searchPath : Option String) (name : String) (s : State) :
    State :=
  let answer (words short : String) : State :=
    (s.say (if verbose then name ++ words ++ "\n" else short ++ "\n")).leave 0
  if keywords.contains name then answer " is a shell keyword" name
  else
    match s.aliases.lookup name with
    | some text =>
      if verbose then answer (" is an alias for " ++ text) ""
      else (s.say ("alias " ++ aliasLine name text)).leave 0
    | none =>
      let isFunction := searchPath.isNone && s.functions.any fun f => f.1 == name
      let missing : State := (s.say (if verbose then name ++ ": not found\n" else "")).leave 127
      if name.toList.contains '/' then
        if exists_ s.system.disk name then answer (" is " ++ name) name else missing
      else if isFunction then answer " is a shell function" name
      else if isBuiltin name then
        answer (if isSpecialBuiltin name then " is a special shell builtin"
          else " is a shell builtin") name
      else
        match if searchPath.isNone then s.found.lookup name else none with
        | some path => answer (" is a tracked alias for " ++ path) path
        | none =>
          match s.locate (searchPath.getD s.searchPath) name with
          | .ok path =>
            let s' := answer (" is " ++ path) path
            if searchPath.isNone then s'.notice name path else s'
          | .error _ => missing
  where
    /-- Something stands at a path, behind all links. -/
    exists_ (disk : Disk) (path : String) : Bool :=
      (disk.tree.stat disk.work path).toOption.isSome

def type : Builtin := fun arguments s =>
  arguments.foldl (fun s name =>
    let t := describe true none name s
    { t with status := t.status ||| s.status }) (s.leave 0)

/-- What `command` does when it is not to carry out a command: describes the first name, in
words after `-V`. -/
def command : Builtin := fun arguments s =>
  s.withOptions [{ letter := 'p' }, { letter := 'v' }, { letter := 'V' }] arguments
    fun letters _ operands =>
      let describes := letters.contains 'v' || letters.contains 'V'
      match operands with
      | name :: _ =>
        if describes then
          describe (letters.contains 'V') (if letters.contains 'p' then some standardPath else none)
            name s
        else s.leave 0
      | [] => s.leave 0

def rowOfProgram (name : String) : Nat :=
  let codes := name.toList.map Char.toNat
  codes.foldl (· + ·) (16 * codes.headD 0) % 32768 % 31

/-- Shows, finds or forgets programs. -/
def hash : Builtin := fun arguments s =>
  s.withOptions [{ letter := 'r' }] arguments fun letters _ operands =>
    if letters ≠ [] then { s with found := [], status := 0 }
    else
      match operands with
      | [] =>
        let sorted := s.found.mergeSort fun a b => rowOfProgram a.1 ≤ rowOfProgram b.1
        (sorted.foldl (fun s f => s.say (f.2 ++ "\n")) s).leave 0
      | names =>
        names.foldl (fun s name =>
          if name.toList.contains '/' ∨ s.functions.any (fun f => f.1 == name) ∨ isBuiltin name then
            s
          else
            match ({ s with found := s.found.filter (·.1 != name) } : State).look name with
            | (.ok _, s) => s
            | (.error f, s) => (s.complain (name ++ ": " ++ startText f)).leave 1) (s.leave 0)

end Builtin

end BuildTool.Shell
