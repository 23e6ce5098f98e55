import BuildTool.Template.ExprReader

/-!
# Reading tags

A tag stands between brackets of its kind; a hyphen at either bracket takes white space away.
Blanks may stand around the words in a statement, and must stand behind its first word if more
follows. Pieces that have a body are read elsewhere; here are the tags that surround it.
-/

namespace BuildTool.Template

def exprFuel (s : List Char) : Nat := 4 * s.length + 10

def exprOrList? : Reader Expr := fun s => expr? (exprFuel s) s <|> list? (exprFuel s) s

/-- Reads the beginning of a tag and tells whether it takes white space away. -/
def tagStart? (brackets : String) : Reader Bool := fun s => do
  match ← after? brackets s with
  | '-' :: rest => return (true, rest)
  | rest => return (false, rest)

/-- Reads the end of a tag and tells whether it takes white space away. -/
def tagEnd? (brackets : String) : Reader Bool := fun s =>
  match after? ("-" ++ brackets) s with
  | some rest => some (true, rest)
  | none => (after? brackets s).map fun rest => (false, rest)

def statementStart : String := "\x7b%"

def statementEnd : String := "%\x7d"

/-- Reads a statement that is one word, and the name that may stand behind it. -/
def wordTag? (word : String) (named : Bool) : Reader Trim := fun s => do
  let (left, rest) ← tagStart? statementStart s
  let rest ← after? word (skip rest)
  let rest := skip rest
  let rest := if named then ((name? rest).map fun r => skip r.2).getD rest else rest
  let (right, rest) ← tagEnd? statementEnd rest
  return (⟨left, right⟩, rest)

/-- Reads a statement that begins with a word, the rest of it by `inside`. -/
def statement? {α : Type} (word : String) (inside : Reader α) : Reader (Trim × α) := fun s => do
  let (left, rest) ← tagStart? statementStart s
  let rest ← after? word (skip rest)
  let (a, rest) ← inside (← skipSome? rest)
  let (right, rest) ← tagEnd? statementEnd (skip rest)
  return ((⟨left, right⟩, a), rest)

/-- Reads a comment, in which there must be something. -/
def comment? : Reader Trim := fun s => do
  let (left, rest) ← tagStart? "\x7b#" s
  let (inside, after) ← Text.cutText? ['#', '\x7d'] rest
  let right := inside.getLast? == some '-'
  if (if right then inside.dropLast else inside).isEmpty then none
  return (⟨left, right⟩, after)

/-- Reads a tag whose value is put out. -/
def output? : Reader (Trim × Expr) := fun s => do
  let (left, rest) ← tagStart? "\x7b\x7b" s
  let (e, rest) ← exprOrList? (skip rest)
  let (right, rest) ← tagEnd? "\x7d\x7d" (skip rest)
  return ((⟨left, right⟩, e), rest)

/-- Reads the tag that stands for the body of the block it overrides. -/
def overridden? : Reader Unit := fun s => do
  let (_, rest) ← tagStart? "\x7b\x7b" s
  let rest ← after? "super()" (skip rest)
  let (_, rest) ← tagEnd? "\x7d\x7d" (skip rest)
  return ((), rest)

def assignment? : Reader (String × Expr) := fun s => do
  let (name, rest) ← name? s
  let rest := skip (← after? "=" (skip rest))
  let (e, rest) ← exprOrList? rest
  return ((name, e), rest)

def ignoreMissing? (s : List Char) : Option (List Char) := do
  after? "missing" (skip (← after? "ignore" s))

/-- Reads the names of templates to be inserted, and whether they may be missing. -/
def insertion? : Reader (List String × Bool) := fun s => do
  let several : Option (List String × List Char) := do
    let rest := skip (← after? "[" s)
    let (names, rest) := items quotedText? rest.length rest
    let rest ← after? "]" (skip (skipComma rest))
    return (names, rest)
  let (names, rest) ← (quotedText? s).map (fun r => ([r.1], r.2)) <|> several
  match ignoreMissing? (skip rest) with
  | some rest => return ((names, true), rest)
  | none => return ((names, false), rest)

/-- Reads the file that definitions are taken from and the name they get. -/
def importing? : Reader (String × String) := fun s => do
  let (file, rest) ← quotedText? s
  let rest ← after? "as" (← skipSome? rest)
  let (space, rest) ← name? (← skipSome? rest)
  return ((file, space), rest)

/-- Reads a value that is written out. -/
def literal? : Reader Term := fun s =>
  match bool? s with
  | some (b, rest) => some (.bool b, rest)
  | none =>
    match quotedText? s with
    | some (t, rest) => some (.text t, rest)
    | none =>
      match float? s with
      | some (x, rest) => some (.float x, rest)
      | none => (int? s).map fun r => (.int r.1, r.2)

/-- Reads a parameter of a definition. It may have a value of its own, which stands right behind
the sign. -/
def parameter? : Reader (String × Option Expr) := fun s => do
  let (name, rest) ← name? s
  match after? "=" rest with
  | none => return ((name, none), rest)
  | some rest =>
    let (t, rest) ← literal? rest
    return ((name, some (.ofTerm t)), rest)

def head? : Reader (String × List (String × Option Expr)) := fun s => do
  let (name, rest) ← name? s
  let rest := skip (← after? "(" (skip rest))
  let (parameters, rest) := items parameter? rest.length rest
  let rest ← after? ")" (skip rest)
  return ((name, parameters), rest)

/-- Reads what a loop runs over, behind its names. -/
def loopContainer? : Reader Expr := fun s => do
  let rest ← after? "in" (← skipSome? s)
  let rest ← skipSome? rest
  basicExpr? (exprFuel rest) rest <|> list? (exprFuel rest) rest

def loopHead? : Reader (Option String × String × Expr) := fun s => do
  let (first, rest) ← name? s
  let second : Option (String × List Char) := do
    name? (skip (← after? "," rest))
  let (key, value, rest) := match second with
    | some (value, rest) => (some first, value, rest)
    | none => (none, first, rest)
  let (container, rest) ← loopContainer? rest
  return ((key, value, container), rest)

def filterHead? : Reader Call := fun s =>
  match call? (exprFuel s) s with
  | some r => some r
  | none => (name? s).map fun r => (.mk r.1 [], r.2)

def armHead? : Reader Expr := fun s => expr? (exprFuel s) s

/-- Cuts raw text before the tag that ends it. -/
def rawText : List Char → Option (List Char × Trim × List Char)
  | [] => none
  | c :: rest =>
    match wordTag? "endraw" false (c :: rest) with
    | some (stop, rest) => some ([], stop, rest)
    | none => (rawText rest).map fun r => (c :: r.1, r.2)

/-- Plain text up to the next tag or comment. -/
def plainText : List Char → List Char × List Char
  | [] => ([], [])
  | c :: rest =>
    match c, rest with
    | '\x7b', '\x7b' :: _ | '\x7b', '%' :: _ | '\x7b', '#' :: _ => ([], c :: rest)
    | _, _ =>
      let (text, rest) := plainText rest
      (c :: text, rest)

end BuildTool.Template
