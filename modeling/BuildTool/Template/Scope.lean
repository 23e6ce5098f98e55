import BuildTool.Template.Error
import BuildTool.Template.Value

/-!
# Scopes of variables

Names are looked up from the innermost frame outwards. A loop has a frame with its variables,
which is emptied before every turn. The body of a definition has a frame with its parameters,
beyond which only the variables of the script are seen.
-/

namespace BuildTool.Template

/-- What a statement asks of the loop around it. -/
inductive Signal
  | none
  | leave
  | next
  deriving DecidableEq, Repr

structure LoopState where
  key : Option String
  value : String
  currentKey : String
  current : Value
  index : Nat
  count : Nat
  signal : Signal := .none
  deriving Repr

inductive FrameKind
  | outermost
  | insertion
  | loop (state : LoopState)
  | definition (space name : String)
  deriving Repr

/-- A frame: names that were set in it, the latest first. -/
structure Frame where
  kind : FrameKind
  bindings : List (String × Value) := []
  deriving Repr

/-- The frames, the innermost first, and the variables of the script. -/
structure Scope where
  frames : List Frame := [⟨.outermost, []⟩]
  context : List (String × Value) := []
  deriving Repr

/-- The first key of a path and the path that is left. -/
def splitPath (path : String) : String × Option String :=
  match Text.cut? '.' path with
  | some (first, rest) => (first, some rest)
  | none => (path, none)

def Value.followRest? (v : Value) (rest : Option String) : Option Value :=
  match rest with
  | none => some v
  | some path => v.follow? path

namespace LoopState

/-- The properties of a loop and its variables. -/
def find? (l : LoopState) (path : String) : Option Value :=
  let (first, rest) := splitPath path
  if first = "loop" then
    match rest.getD "" with
    | "index" => some (.int (l.index + 1))
    | "index0" => some (.int l.index)
    | "first" => some (.bool (l.index == 0))
    | "last" => some (.bool (l.index + 1 == l.count))
    | _ => none
  else if l.key = some path then some (.text l.currentKey)
  else if first = l.value then l.current.followRest? rest
  else none

/-- The variables of a loop, the key last. -/
def bindings (l : LoopState) : List (String × Value) :=
  (l.value, l.current) :: (l.key.map fun key => (key, Value.text l.currentKey)).toList

end LoopState

namespace Frame

def find? (f : Frame) (path : String) : Option Value :=
  let (first, rest) := splitPath path
  match (f.bindings.lookup first).bind (·.followRest? rest) with
  | some v => some v
  | none =>
    match f.kind with
    | .loop state => state.find? path
    | _ => none

/-- Names outside are not seen from this frame. -/
def isClosed (f : Frame) : Bool :=
  match f.kind with
  | .loop _ | .insertion => false
  | .outermost | .definition .. => true

def isLoop (f : Frame) : Bool :=
  match f.kind with
  | .loop _ => true
  | _ => false

def isDefinition (f : Frame) : Bool :=
  match f.kind with
  | .definition .. => true
  | _ => false

/-- All that a frame gives a value to, what counts more standing further back. -/
def everything (f : Frame) : List (String × Value) :=
  f.bindings.reverse ++
    match f.kind with
    | .loop state => state.bindings
    | _ => []

def set (f : Frame) (name : String) (v : Value) : Frame :=
  { f with bindings := (name, v) :: f.bindings }

end Frame

namespace Scope

/-- The frames that are seen from the innermost one. -/
def visible : List Frame → List Frame
  | [] => []
  | f :: rest => if f.isClosed then [f] else f :: visible rest

/-- Looks up a path without subscripts. -/
def find? (s : Scope) (path : String) : Option Value :=
  match (visible s.frames).findSome? (·.find? path) with
  | some v => some v
  | none =>
    let (first, rest) := splitPath path
    (s.context.lookup first).bind (·.followRest? rest)

def set (s : Scope) (name : String) (v : Value) : Scope :=
  match s.frames with
  | f :: rest => { s with frames := f.set name v :: rest }
  | [] => s

def setOutside (name : String) (v : Value) : List Frame → List Frame
  | [] => []
  | f :: rest => if f.isLoop then f :: setOutside name v rest else f.set name v :: rest

def setEverywhere (s : Scope) (name : String) (v : Value) : Scope :=
  { s with frames := setOutside name v s.frames }

/-- All names with their values in one table. Where a name has several values, that of the
outermost frame is shown, but any frame comes before the variables of the script. -/
def snapshot (s : Scope) : Value :=
  let frames := visible s.frames
  let outside := if frames.any Frame.isDefinition then [] else s.context
  let found := frames.foldl (fun found f => f.everything.reverse ++ found) []
  let entries := found ++ outside
  let names := (entries.map (·.1)).eraseDups.mergeSort fun a b => decide (a ≤ b)
  .table (names.filterMap fun name => (entries.lookup name).map fun v => (name, v))

def enter (s : Scope) (f : Frame) : Scope := { s with frames := f :: s.frames }

def exit (s : Scope) : Scope := { s with frames := s.frames.drop 1 }

def loop? (s : Scope) : Option LoopState :=
  match s.frames with
  | ⟨.loop state, _⟩ :: _ => some state
  | _ => none

/-- What the statements so far ask of the loop of the innermost frame. -/
def signal (s : Scope) : Signal :=
  match s.loop? with
  | some state => state.signal
  | none => .none

/-- Asks something of the loop of the innermost frame. -/
def raise? (s : Scope) (signal : Signal) : Option Scope :=
  match s.frames with
  | ⟨.loop state, bindings⟩ :: rest =>
    some { s with frames := ⟨.loop { state with signal }, bindings⟩ :: rest }
  | _ => none

/-- The definition whose body the innermost frame belongs to. -/
def definition? (s : Scope) : Option (String × String) :=
  match s.frames with
  | ⟨.definition space name, _⟩ :: _ => some (space, name)
  | _ => none

end Scope

/-! ## Subscripts -/

/-- The subscripts of a path that are not texts, each up to its closing bracket. -/
def subscripts : Nat → List Char → List (List Char)
  | 0, _ => []
  | _ + 1, [] => []
  | fuel + 1, '[' :: rest =>
    match rest with
    | '"' :: _ | '\x27' :: _ => subscripts fuel rest
    | _ =>
      let inside := bracketed 1 rest
      let more := subscripts fuel (rest.drop (inside.length + 1))
      if inside.all Char.isDigit then more else inside :: more
  | fuel + 1, _ :: rest => subscripts fuel rest
where
  /-- The characters up to the bracket that closes the one before them. -/
  bracketed : Nat → List Char → List Char
    | _, [] => []
    | depth, c :: rest =>
      let depth := if c == '[' then depth + 1 else if c == ']' then depth - 1 else depth
      if depth = 0 then [] else c :: bracketed depth rest

/-- The path with its brackets written as dots. -/
def dotted (path : List Char) : List Char :=
  let steps : List (List Char × List Char) :=
    [(['/'], ['~', '1']), (['[', '\x27'], ['.', '"']), (['[', '"'], ['.', '"']),
      (['['], ['.']), (['\x27', ']'], ['"']), (['"', ']'], ['"']), ([']'], [])]
  steps.foldl (fun s step => Text.replaceText step.1 step.2 s) path

def fillSubscript (path part value : List Char) : List Char :=
  match Text.cutText? ('[' :: part ++ [']']) path with
  | some (before, after) => before ++ '.' :: value ++ after
  | none => path

/-- Looks up a path with its subscripts; `depth` bounds how deep they are nested. -/
def Scope.lookup (s : Scope) : Nat → String → Except EvalError Value
  | 0, _ => .error .nestedTooDeep
  | depth + 1, path =>
    if !path.toList.contains '[' then
      match s.find? path with
      | some v => .ok v
      | none => .error (.unknownVariable path)
    else do
      let chars := path.toList
      let filled ← (subscripts chars.length chars).foldlM (fun (key : List Char) part =>
        let name := String.ofList part
        match s.lookup depth name with
        | .error e => Except.error (EvalError.badSubscript path e)
        | .ok (.text t) => .ok (fillSubscript key part ('"' :: t.toList ++ ['"']))
        | .ok (.number n) => .ok (fillSubscript key part n.asData.toList)
        | .ok _ => .error (.subscriptKind name path)) chars
      let evaluated := String.ofList (dotted filled)
      match s.find? evaluated with
      | some v => .ok v
      | none => .error (.unknownElement path evaluated)

end BuildTool.Template
