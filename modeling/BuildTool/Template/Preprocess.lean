import BuildTool.Error
import BuildTool.Template.Document
import BuildTool.Template.Render
import BuildTool.Text.Property
import BuildTool.Text.Split

/-!
# Filling in a script

Before a script is read it is filled in as a template: its tags see the variables, the
environment and the functions. The environment is lent to the functions and comes back with
all changes, whatever the outcome.
-/

/-!
## Environment lookups in tags

Inside a tag `env.NAME` reads the environment as it is at that moment. Such lookups are written
as calls of the function `env` before a template is read:

    env.NAME    becomes    env(name="NAME")

Texts between quotes stay as they are, and so does an `env` that is part of a longer name or
path.
-/

namespace BuildTool.Template

/-- The rest of a text between quotes, up to the quote that ends it; a backslash takes the next
character with it. -/
def quotedRest? (quote : Char) : List Char → Option (List Char × List Char)
  | [] => none
  | c :: rest =>
    if c = quote then some ([c], rest)
    else if c = '\\' then
      match rest with
      | [] => none
      | d :: rest =>
        if d = '\n' then none
        else (quotedRest? quote rest).map fun cut => (c :: d :: cut.1, cut.2)
    else (quotedRest? quote rest).map fun cut => (c :: cut.1, cut.2)

/-- Cuts behind a text between quotes; between back quotes nothing is special. -/
def quotedSpan? : List Char → Option (List Char × List Char)
  | [] => none
  | c :: rest =>
    if c = '"' ∨ c = '\x27' then (quotedRest? c rest).map fun cut => (c :: cut.1, cut.2)
    else if c = '\x60' then
      (Text.cutChar? c rest).map fun cut => (c :: cut.1 ++ [c], cut.2)
    else none

/-- A character in the name of an environment entry, the first of which is no digit. -/
def isEntryChar (first : Bool) (c : Char) : Bool :=
  c.isAlpha || c == '_' || (!first && c.isDigit)

/-- The name of the entry that a lookup at the beginning of a text reads, and what follows. -/
def lookupAt? (s : List Char) : Option (List Char × List Char) := do
  let rest ← Text.dropStart? ['e', 'n', 'v', '.'] s
  match rest with
  | c :: _ =>
    if isEntryChar true c then
      some (rest.takeWhile (isEntryChar false), rest.dropWhile (isEntryChar false))
    else none
  | [] => none

def lookupCall (name : List Char) : List Char :=
  "env(name=\"".toList ++ name ++ ['"', ')']

/-- Rewrites the lookups in a tag; `before` is the character in front, and `fuel` the length of
the tag. -/
def rewriteTag : Nat → Option Char → List Char → List Char
  | 0, _, s => s
  | _ + 1, _, [] => []
  | fuel + 1, before, c :: rest =>
    match quotedSpan? (c :: rest) with
    | some (span, rest) => span ++ rewriteTag fuel span.getLast? rest
    | none =>
      let dotted := if c = '.' then lookupAt? rest else none
      match dotted with
      | some (name, rest) =>
        ['.', 'e', 'n', 'v', '.'] ++ name ++ rewriteTag fuel name.getLast? rest
      | none =>
        let bare := if before.any Text.isWord then none else lookupAt? (c :: rest)
        match bare with
        | some (name, rest) => lookupCall name ++ rewriteTag fuel name.getLast? rest
        | none => c :: rewriteTag fuel (some c) rest

/-- Cuts behind what stands between these brackets at the beginning of a text. -/
def spanBetween? (start stop s : List Char) : Option (List Char × List Char) := do
  let (inside, rest) ← Text.cutText? stop (← Text.dropStart? start s)
  return (start ++ inside ++ stop, rest)

/-- Cuts behind the tag that a text begins with. -/
def tagSpan? (s : List Char) : Option (List Char × List Char) :=
  spanBetween? ['\x7b', '\x7b'] ['\x7d', '\x7d'] s <|>
    spanBetween? ['\x7b', '%'] ['%', '\x7d'] s

/-- Rewrites the lookups in all tags; `fuel` is the length of the text. -/
def rewriteTags : Nat → List Char → List Char
  | 0, s => s
  | _ + 1, [] => []
  | fuel + 1, c :: rest =>
    match tagSpan? (c :: rest) with
    | some (tag, rest) => rewriteTag tag.length none tag ++ rewriteTags fuel rest
    | none => c :: rewriteTags fuel rest

/-- The source of a template with its environment lookups as calls. -/
def rewriteLookups (source : String) : String :=
  String.ofList (rewriteTags source.length source.toList)

end BuildTool.Template

/-! ## Scripts filled in -/

namespace BuildTool.Template

/-!
### Continued lines

A backslash at the end of a line continues the line: the backslash and the line end behind it
disappear.
-/

/-- The text with continued lines joined. Line ends with a carriage return are joined first. -/
def joinContinued (text : String) : String :=
  let joined := Text.replaceText ['\\', '\r', '\n'] [] text.toList
  String.ofList (Text.replaceText ['\\', '\n'] [] joined)

/-! ### Templates -/

/-- What a template is filled in with. -/
structure Surroundings where
  vars : Variables
  env : Environment
  baseDir : String
  processEnvironment : List (String × String) := []

/-- What is missing for a template: its parent or a file with definitions. -/
def Document.missing? (d : Document) : Option RenderError :=
  match d.parent with
  | some name => some (if name = ownName then .ownParent else .noParent name)
  | none =>
    match d.imported.find? (·.1 != ownName) with
    | some (file, _) => some (.noImport file)
    | none => none

def contextOf (s : Surroundings) : List (String × Value) :=
  ("env", .ofPairs s.env.bindings.entries) ::
    s.vars.bindings.entries.map fun p => (p.1, .text p.2)

/-- The work of filling in a document: its text and the scope that is left. -/
def filling (d : Document) (s : Surroundings) : Calling (Except EvalError String × Scope) :=
  ((renderAll depthLimit d.nodes).run d).run.run { context := contextOf s }

/-- Where the functions work. -/
def Surroundings.setting (s : Surroundings) : HelperSetting :=
  { baseDir := s.baseDir, processEnvironment := s.processEnvironment }

/-- What the functions are lent. -/
def Surroundings.start (s : Surroundings) (disk : Disk) : HelperState := { env := s.env, disk }

/-- Fills in a document: its text, and the scope and the state that are left. -/
def fillIn (d : Document) (s : Surroundings) (disk : Disk) :
    (Except EvalError String × Scope) × HelperState :=
  (filling d s).run (Helper.answer s.setting) (s.start disk)

/-- Fills in a script: the text with continued lines joined, or why there is none, then the
environment and the disk that are left. A program that must not fail and did is the reason
before any other. -/
def preprocess (source : String) (s : Surroundings) (disk : Disk) :
    Except BuildError String × Environment × Disk :=
  match Document.parse? (rewriteLookups source) with
  | none => (.error .badTemplate, s.env, disk)
  | some d =>
    match d.missing? with
    | some problem => (.error (.template problem), s.env, disk)
    | none =>
      let ((result, scope), state) := fillIn d s disk
      let outcome := match result with
        | .ok text => .ok (joinContinued text)
        | .error problem =>
          match state.fatal with
          | some cause => .error (.command cause)
          | none => .error (.template (.failed scope.definition? problem))
      (outcome, state.env, state.disk)

end BuildTool.Template
