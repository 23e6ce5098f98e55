import BuildTool.Shell.Builtin.Finding
import BuildTool.Shell.Expansion

/-!
# What a simple command calls

The first field of a command is its name: that of a function, of a builtin command or of a
program. In front of it `command` keeps functions out. Only when the name is known the other
words are substituted, since some builtin commands take assignments as arguments.
-/

namespace BuildTool.Shell

/-- The words of a command on their way: the fields of those that were substituted, and the
words left. -/
structure Expanded where
  fields : List String
  words : List Word

/-- What is called. -/
inductive Called
  | nothing
  | function (body : Command)
  | builtin (name : String)
  | program

/-- How a command is called: by the field at a place. `special` tells what kind of builtin
command the first one was, `searchPath` where programs are searched instead of the usual
places. -/
structure Call where
  called : Called
  place : Nat := 0
  special : Option Bool := none
  searchPath : Option String := none

namespace Call

def more (run : Runner) (fields : List String) : List Word → State → Expanded × State
  | [], s => (⟨fields, []⟩, s)
  | word :: rest, s =>
    let (found, s) := expandFields run word s
    if s.isHalted ∨ found ≠ [] then (⟨fields ++ found, rest⟩, s)
    else more run fields rest s

/-- Sees to it that there is a field at a place, if there is one. -/
def reach (run : Runner) (place : Nat) (e : Expanded) (s : State) : Expanded × State :=
  if place < e.fields.length then (e, s) else more run e.fields e.words s

/-- The place of the name behind `command` and its option `-p`, with the search path that this
asks for; nothing if other options stand there or no name. -/
def behindCommand (run : Runner) :
    Nat → Nat → Option String → Expanded → State → Option (Nat × Option String) × Expanded × State
  | 0, _, _, e, s => (none, e, s)
  | fuel + 1, place, path, e, s =>
    let (e, s) := reach run place e s
    match e.fields[place]? with
    | none => (none, e, s)
    | some field =>
      match field.toList with
      | ['-', '-'] =>
        let (e, s) := reach run (place + 1) e s
        (if place + 1 < e.fields.length then some (place + 1, path) else none, e, s)
      | '-' :: c :: cs =>
        if (c :: cs).all (· == 'p') then
          behindCommand run fuel (place + 1) (some standardPath) e s
        else (none, e, s)
      | _ => (some (place, path), e, s)

/-- Finds out what the field at a place calls. -/
def resolve (run : Runner) :
    Nat → Call → Bool → Expanded → State → Call × Expanded × State
  | 0, call, _, e, s => (call, e, s)
  | fuel + 1, call, functions, e, s =>
    let name := e.fields[call.place]?.getD ""
    if name.toList.contains '/' then ({ call with called := .program }, e, s)
    else
      match if functions then s.functions.lookup name else none with
      | some body => ({ call with called := .function body }, e, s)
      | none =>
        if !isBuiltin name then ({ call with called := .program }, e, s)
        else
          let call := { call with
            called := .builtin name
            special := call.special.or (some (isSpecialBuiltin name)) }
          if name ≠ "command" then (call, e, s)
          else
            let words := e.words.length + e.fields.length + 1
            match behindCommand run words (call.place + 1) call.searchPath e s with
            | (some (place, searchPath), e, s) =>
              resolve run fuel { call with place, searchPath } false e s
            | (none, e, s) => (call, e, s)

/-- The fields of the other words; assignments stay whole where the command takes them. -/
def rest (run : Runner) (assigns : Bool) : List Word → State → List String × State
  | [], s => ([], s)
  | word :: words, s =>
    let (fields, s) : List String × State :=
      match if assigns then assignment? word else none with
      | some (name, value) =>
        let (text, s) := expandValue run value s
        ([name ++ "=" ++ text], s)
      | none => expandFields run word s
    if s.isHalted then (fields, s)
    else
      let (more, s) := rest run assigns words s
      (fields ++ more, s)

/-- What the words of a command call, and all its fields. -/
def ofWords (run : Runner) (words : List Word) (s : State) : Call × List String × State :=
  let (e, s) := more run [] words s
  if s.isHalted ∨ e.fields = [] then ({ called := .nothing }, e.fields, s)
  else
    let (call, e, s) := resolve run (words.length + e.fields.length + 1)
      { called := .nothing } true e s
    if s.isHalted then (call, e.fields, s)
    else
      let assigns := match call.called with
        | .builtin name => takesAssignments name
        | _ => false
      let (more, s) := rest run assigns e.words s
      (call, e.fields ++ more, s)

/-- Assignments in front of the command hold only while it runs. -/
def isScoped (call : Call) : Bool :=
  match call.called with
  | .nothing => false
  | _ => call.special != some true

/-- A fault of the command ends the shell. -/
def isStrict (call : Call) : Bool := call.special == some true

end Call

end BuildTool.Shell
