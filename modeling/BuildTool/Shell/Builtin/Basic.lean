import BuildTool.Process.Formatted
import BuildTool.Shell.Condition
import BuildTool.Shell.State
import BuildTool.Text.Split

/-!
# Small builtin commands

The arguments that builtin commands take, and those commands that print, compare, leave something
or change the directory.
-/

/-!
## Arguments of builtin commands

Builtin commands take letters behind a dash as options, and counts. What cannot be taken is a
fault.
-/

namespace BuildTool.Shell

/-- A builtin command: what its arguments make of the state. -/
abbrev Builtin := List String → State → State

/-- An option letter of a builtin command, and whether it takes a value. -/
structure Letter where
  letter : Char
  valued : Bool := false

/-- Reads the letters of one argument; `next` is the argument that follows. The flag tells that
it was used up. -/
def readLetters (known : List Letter) (next : Option String) :
    List Char → Except String (List (Char × String) × Bool)
  | [] => .ok ([], false)
  | c :: rest =>
    match known.find? (·.letter == c) with
    | none => .error ("Illegal option -" ++ String.singleton c)
    | some { valued := false, .. } =>
      (readLetters known next rest).map fun p => ((c, "") :: p.1, p.2)
    | some { valued := true, .. } =>
      if rest ≠ [] then .ok ([(c, String.ofList rest)], false)
      else
        match next with
        | some value => .ok ([(c, value)], true)
        | none => .error ("No arg for -" ++ String.singleton c ++ " option")

/-- The options in front of arguments, with their values, and the other arguments. Two dashes
end the options. -/
def readOptions (known : List Letter) :
    Nat → List String → Except String (List (Char × String) × List String)
  | 0, arguments => .ok ([], arguments)
  | fuel + 1, arguments =>
    match arguments with
    | argument :: rest =>
      match argument.toList with
      | ['-', '-'] => .ok ([], rest)
      | '-' :: c :: cs => do
        let (options, used) ← readLetters known rest.head? (c :: cs)
        let (more, rest) ← readOptions known fuel (if used then rest.tail else rest)
        return (options ++ more, rest)
      | _ => .ok ([], arguments)
    | [] => .ok ([], [])

namespace State

/-- Goes on with the options and the other arguments, or fails. -/
def withOptions (s : State) (known : List Letter) (arguments : List String)
    (go : List Char → List (Char × String) → List String → State) : State :=
  match readOptions known arguments.length arguments with
  | .error text => s.fail text
  | .ok (options, rest) => go (options.map (·.1)) options rest

/-- Fails for a text that is no count. -/
def badNumber (s : State) (text : String) : State := s.fail ("Illegal number: " ++ text)

/-- Goes on with the count in a text, or fails. -/
def withCount (s : State) (text : String) (go : Nat → State) : State :=
  match Numeral.count? text with
  | some n => go n
  | none => s.badNumber text

end State

end BuildTool.Shell

/-!
## Builtin commands that print and compare

`echo`, `printf` and `pwd` print, `test` leaves a status that tells whether a condition holds.
-/

namespace BuildTool.Shell.Builtin

/-- Prints its arguments, with escapes, and a line end unless the first one is `-n` or an escape
ends the output. -/
def echo : Builtin := fun arguments s =>
  let (words, newline) := match arguments with
    | "-n" :: rest => (rest, false)
    | words => (words, true)
  let (bytes, ended) := Formatted.unescaped (Formatted.argumentEscape .shell)
    (Formatted.length_argumentEscape_le .shell) (" ".intercalate words).toList
  let lineEnd : List UInt8 := if newline && ended.isNone then [10] else []
  { s with printed := lineEnd ++ bytes.reverse ++ s.printed, status := 0 }

/-- Prints its arguments as a format says. -/
def printf : Builtin := fun arguments s =>
  s.withOptions [] arguments fun _ _ operands =>
    match operands with
    | [] => s.fail "usage: printf format [arg ...]"
    | format :: rest =>
      let p := Formatted.print .shell format rest
      let s := p.complaints.foldl State.complain s
      let s := { s with printed := p.bytes.toList.reverse ++ s.printed }
      match p.fault with
      | some text => s.fail text
      | none => s.leave (if p.failed then 1 else 0)

/-- Which directory is meant: the one that names led to, or the one where they lead. -/
def wantsPhysical (options : List Char) : Bool := options.getLast? == some 'P'

/-- Prints the directory at work. -/
def pwd : Builtin := fun arguments s =>
  s.withOptions [{ letter := 'L' }, { letter := 'P' }] arguments fun letters _ _ =>
    let path := if wantsPhysical letters then State.pathOf s.system.disk.work else s.directory
    (s.say (path ++ "\n")).leave 0

/-- Prints how much time was spent. -/
def times : Builtin := fun _ s =>
  let line := "0m0.000000s 0m0.000000s\n"
  (s.say (line ++ line)).leave 0

/-- Tells whether a condition holds; called as `[` it ends with a bracket. -/
def test : Builtin := fun arguments s =>
  let inBrackets := s.builtin == some "["
  if inBrackets && arguments.getLast? != some "]" then s.fail "missing ]"
  else
    match condition s.system.disk (if inBrackets then arguments.dropLast else arguments) with
    | .ok b => s.leave (if b then 0 else 1)
    | .error f => s.fail f.message

end BuildTool.Shell.Builtin

/-!
## Builtin commands that leave something

`break` and `continue` leave loops, `return` a function or file, and `exit` the shell.
-/

namespace BuildTool.Shell.Builtin

/-- Leaves a number of loops, of the last one perhaps only the turn. -/
def leaveLoops (stop : Nat → Stop) : Builtin := fun arguments s =>
  match arguments with
  | [] => leave s 1
  | text :: _ =>
    match Numeral.count? text with
    | none | some 0 => s.badNumber text
    | some n => leave s n
  where
    /-- Leaves as many loops as there are. -/
    leave (s : State) (n : Nat) : State :=
      let n := min n s.loops
      { s with status := 0, stop := if n = 0 then none else some (stop n) }

/-- Leaves a function or file, with the last status or another one. -/
def return_ : Builtin := fun arguments s =>
  match arguments with
  | [] => { s with stop := some (.returns false) }
  | text :: _ => s.withCount text fun n => { s with status := n, stop := some (.returns true) }

/-- Leaves the shell, with the last status or another one. While an action is carried out the
last status is the one from before. -/
def exit : Builtin := fun arguments s =>
  match arguments with
  | [] => s.exit (s.savedStatus.getD s.status)
  | text :: _ => s.withCount text s.exit

end BuildTool.Shell.Builtin

/-!
## Changing the directory

`cd` keeps the names that led to a directory: two dots take the last name off, whatever links
were on the way.
-/

namespace BuildTool.Shell.Builtin

/-- The path that names lead to from a path: dots stay, two dots go up. -/
def logicalPath (directory path : String) : String :=
  let start := if path.startsWith "/" then [] else nonEmpty directory
  let steps := nonEmpty path
  let names := steps.foldl (fun names step =>
    if step = "." then names else if step = ".." then names.dropLast else names ++ [step]) start
  let whole := if path.startsWith "/" then path else directory
  let root := if whole.startsWith "//" ∧ ¬ whole.startsWith "///" then "//" else "/"
  root ++ "/".intercalate names
  where
    /-- The names in a path. -/
    nonEmpty (path : String) : List String :=
      ((Text.splitChar '/' path.toList).filter (· != [])).map String.ofList

/-- Goes to a directory, if it is one. -/
def goTo (s : State) (path : String) (physical : Bool) : Option State :=
  let logical := logicalPath s.directory path
  let disk := s.system.disk
  match disk.tree.stat disk.work (if physical then path else logical) with
  | .ok (loc, .directory _) =>
    let system := { s.system with disk := { disk with work := loc } }
    let directory := if physical then State.pathOf loc else logical
    let s := (s.put "OLDPWD" s.directory true).put "PWD" directory true
    some { s with system, directory, status := 0 }
  | _ => none

/-- The path begins so that no other directories are searched. -/
def isAnchored (path : String) : Bool :=
  path.startsWith "/" || path == "." || path == ".." || path.startsWith "./" ||
    path.startsWith "../"

/-- The first of the directories to be searched in which a path leads to a directory, with
whether that is to be shown. -/
def searched (s : State) (path : String) : Option (String × Bool) :=
  (s.vars.value? "CDPATH").bind fun directories =>
    ((Text.splitChar ':' directories.toList).map String.ofList).findSome? fun dir =>
      let candidate := if dir = "" then path else dir ++ "/" ++ path
      match s.system.disk.tree.stat s.system.disk.work candidate with
      | .ok (_, .directory _) => some (candidate, dir != "")
      | _ => none

/-- Changes the directory: to the argument, the home directory, or back for a dash. -/
def cd : Builtin := fun arguments s =>
  s.withOptions [{ letter := 'L' }, { letter := 'P' }] arguments fun letters _ operands =>
    let physical := wantsPhysical letters
    let (wanted, shows) := match operands with
      | [] => ((s.vars.value? "HOME").getD "", false)
      | "-" :: _ => ((s.vars.value? "OLDPWD").getD "", true)
      | path :: _ => (path, false)
    let path := if wanted = "" then "." else wanted
    let (path, shows) :=
      if isAnchored wanted then (path, shows)
      else
        match searched s path with
        | some (found, shown) => (found, shows || shown)
        | none => (path, shows)
    match goTo s path physical with
    | some s => if shows then s.say (s.directory ++ "\n") else s
    | none => s.fail ("can't cd to " ++ wanted)

end BuildTool.Shell.Builtin
