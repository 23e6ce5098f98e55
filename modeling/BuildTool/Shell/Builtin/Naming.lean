import BuildTool.Shell.Builtin.Basic
import BuildTool.Shell.Fields
import BuildTool.Text.Split

/-!
# Builtin commands that set names

Variables are exported, fixed, made local, read from input and taken away; aliases are set and
taken away.
-/

namespace BuildTool.Shell.Builtin

/-! ## Variables -/

/-- Lists variables, each behind a word. -/
def listed (s : State) (start : String) (vs : List (String × Variable)) : State :=
  vs.foldl (fun s (name, v) =>
    s.say (start ++ name ++
      (match v.value with
        | some text => "=" ++ singleQuotation text
        | none => "") ++ "\n")) s

/-- Carries out something for each of some arguments, up to a fault. -/
def forEach (step : String → State → State) (arguments : List String) (s : State) : State :=
  arguments.foldl (fun s a => if s.isHalted then s else step a s) s

/-- Marks variables, after setting those that come with a value; lists those with the mark if
there are none. -/
def marking (exported : Bool) : Builtin := fun arguments s =>
  s.withOptions [{ letter := 'p' }] (arguments.take 1) fun letters _ operands =>
    let operands := operands ++ arguments.drop 1
    if letters ≠ [] ∨ operands = [] then
      let vs := s.vars.sorted.filter fun p => if exported then p.2.exported else p.2.fixed
      (listed s (if exported then "export " else "readonly ") vs).leave 0
    else
      (forEach (fun a s =>
        match Text.cut? '=' a with
        | some (name, value) =>
          let s := s.assign name value exported
          if s.isHalted then s else s.mark name exported (!exported)
        | none => s.mark a exported (!exported)) operands s).leaveUnlessHalted 0

/-- Takes variables away, or functions after `-f`. -/
def unset : Builtin := fun arguments s =>
  s.withOptions [{ letter := 'v' }, { letter := 'f' }] arguments fun letters _ operands =>
    let one (name : String) (s : State) : State :=
      if letters.getLast? = some 'f' then
        { s with functions := s.functions.filter (·.1 != name) }
      else s.unset name
    (forEach one operands s).leaveUnlessHalted 0

/-- Makes variables those of the function at work; a dash alone stands for the settings. -/
def makeLocal : Builtin := fun arguments s =>
  match s.scopes with
  | [] => s.fail "not in a function"
  | _ =>
    let one (a : String) (s : State) : State :=
      if a = "-" then
        match s.scopes with
        | scope :: outer =>
          { s with scopes := { scope with settings := scope.settings.or (some s.on) } :: outer }
        | [] => s
      else
        match Text.cut? '=' a with
        | some (name, value) => s.makeLocal name (some value) false
        | none => s.makeLocal a none false
    (forEach one arguments s).leaveUnlessHalted 0

/-! ## Reading -/

/-- A line that was read: its characters, the number of bytes it took, and whether it ended with
a line end. -/
structure LineRead where
  line : List LineChar := []
  count : Nat := 0
  ended : Bool := false

/-- Takes a line off some bytes. Unless the reading is `raw`, what follows a backslash does not
separate, and a line end behind one is left out. -/
def takeLine (raw : Bool) : List UInt8 → LineRead → LineRead
  | [], r => { r with line := r.line.reverse }
  | b :: rest, r =>
    let r := { r with count := r.count + 1 }
    if b = 0 then takeLine raw rest r
    else if b = 92 ∧ !raw then
      match rest with
      | [] => { r with line := r.line.reverse }
      | d :: after =>
        let r := { r with count := r.count + 1 }
        if d = 10 then takeLine raw after r
        else takeLine raw after { r with line := (Text.octet d, false) :: r.line }
    else if b = 10 then { r with line := r.line.reverse, ended := true }
    else takeLine raw rest { r with line := (Text.octet b, true) :: r.line }

/-- Reads a line of input into variables. -/
def read : Builtin := fun arguments s =>
  s.withOptions [{ letter := 'p', valued := true }, { letter := 'r' }] arguments
    fun letters _ names =>
      if names = [] then s.fail "arg count"
      else
        let bytes := match s.system.unread s.streams 0 with
          | .ok bytes => bytes.toList
          | .error _ => []
        let r := takeLine (letters.contains 'r') bytes {}
        let s := { s with system := s.system.skip s.streams 0 r.count }
        let values := lineFields s.separators names.length r.line
        let s := (names.zip values).foldl (fun s (name, value) =>
          if s.isHalted then s else s.assign name value false) s
        s.leaveUnlessHalted (if r.ended then 0 else 1)

/-! ## Aliases -/

def aliasLine (name text : String) : String := name ++ "=" ++ singleQuotation text ++ "\n"

/-- Sets aliases, or shows those that are named, or all. -/
def aliases : Builtin := fun arguments s =>
  match arguments with
  | [] =>
    let sorted := s.aliases.mergeSort fun a b => Variables.row a.1 ≤ Variables.row b.1
    (sorted.foldl (fun s a => s.say (aliasLine a.1 a.2)) s).leave 0
  | _ =>
    arguments.foldl (fun s a =>
      let cut : Option (String × String) := match a.toList with
        | c :: rest =>
          (Text.cut? '=' (String.ofList rest)).map fun p => (String.singleton c ++ p.1, p.2)
        | [] => none
      match cut with
      | some (name, text) =>
        { s with aliases :=
            if s.aliases.any (·.1 == name) then
              s.aliases.map fun p => if p.1 == name then (name, text) else p
            else s.aliases ++ [(name, text)] }
      | none =>
        match s.aliases.lookup a with
        | some text => s.say (aliasLine a text)
        | none => (s.tell 2 ("alias: " ++ a ++ " not found\n")).leave 1) (s.leave 0)

/-- Takes aliases away, all of them after `-a`. -/
def unalias : Builtin := fun arguments s =>
  s.withOptions [{ letter := 'a' }] arguments fun letters _ operands =>
    if letters ≠ [] then { s with aliases := [], status := 0 }
    else
      operands.foldl (fun s a =>
        if s.aliases.any (·.1 == a) then
          { s with aliases := s.aliases.filter (·.1 != a) }
        else (s.tell 2 ("unalias: " ++ a ++ " not found\n")).leave 1) (s.leave 0)

end BuildTool.Shell.Builtin
