import BuildTool.Files.Disk

/-!
# Finding files by pattern

A path pattern is matched element by element. An element without wildcards is looked up, any
other is held against the names in the directory, in their order. Links to directories are
entered like directories. `.` and `..` are only found by elements that begin with a dot.
A name that is no text is found by no element; paths are octet texts until they have been found.
-/

/-!
## Wildcard patterns

`?` stands for any character, `*` for any text, `[abc-e]` for one of some characters and
`[!abc-e]` for any other. `**` stands for any number of directories and must be a whole element
of the path. Any other character stands for itself.
-/

namespace BuildTool.Glob

inductive Token
  | char (c : Char)
  | anyChar
  | anyText
  | anyPath
  | within (ranges : List (Char × Char))
  | outside (ranges : List (Char × Char))
  deriving DecidableEq, Repr

/-- A pattern, as it is written and in pieces. -/
structure Pattern where
  text : List Char
  tokens : List Token
  deriving DecidableEq, Repr

/-- The ranges between brackets; a hyphen between two characters makes one. -/
def ranges : List Char → List (Char × Char)
  | a :: '-' :: b :: rest => (a, b) :: ranges rest
  | a :: rest => (a, a) :: ranges rest
  | [] => []

/-- Cuts at the first closing bracket that is not the very first character. -/
def bracket? : List Char → Option (List Char × List Char)
  | [] => none
  | first :: rest =>
    match rest.dropWhile (· != ']') with
    | _ :: after => some (first :: rest.takeWhile (· != ']'), after)
    | [] => none

/-- Reads a pattern. `atStart` tells whether an element of the path begins here; `fuel` is the
length of the text. Nothing comes of three stars in a row, of two that are not an element, or
of an open bracket. -/
def tokensFrom : Nat → Bool → List Char → Option (List Token)
  | 0, _, text => if text = [] then some [] else none
  | _ + 1, _, [] => some []
  | fuel + 1, atStart, c :: rest =>
    if c = '?' then (tokensFrom fuel false rest).map (.anyChar :: ·)
    else if c = '*' then
      match rest with
      | '*' :: '*' :: _ => none
      | '*' :: after =>
        if !atStart then none
        else
          match after with
          | [] => some [.anyPath]
          | '/' :: after =>
            (tokensFrom fuel true after).map fun ts =>
              match ts with
              | .anyPath :: _ => ts
              | _ => .anyPath :: ts
          | _ => none
      | _ => (tokensFrom fuel false rest).map (.anyText :: ·)
    else if c = '[' then
      match rest with
      | '!' :: rest =>
        match bracket? rest with
        | some (inside, after) =>
          (tokensFrom fuel false after).map (.outside (ranges inside) :: ·)
        | none => none
      | rest =>
        match bracket? rest with
        | some (inside, after) =>
          (tokensFrom fuel false after).map (.within (ranges inside) :: ·)
        | none => none
    else (tokensFrom fuel (c == '/') rest).map (.char c :: ·)

/-- Reads a pattern; nothing when it is malformed. -/
def Pattern.parse? (text : List Char) : Option Pattern :=
  (tokensFrom text.length true text).map fun tokens => ⟨text, tokens⟩

def inSome (ranges : List (Char × Char)) (c : Char) : Bool :=
  ranges.any fun r => r.1 ≤ c && c ≤ r.2

/-- One piece stands for one character. -/
def Token.takes (t : Token) (c : Char) : Bool :=
  match t with
  | .char d => c == d
  | .anyChar => true
  | .within ranges => inSome ranges c
  | .outside ranges => !inSome ranges c
  | .anyText | .anyPath => false

/-- The piece stands for texts of any length. -/
def Token.isLong : Token → Bool
  | .anyText | .anyPath => true
  | _ => false

/-- The pieces stand for the whole text. -/
def matchesText : List Token → List Char → Bool
  | [], text => text.isEmpty
  | t :: ts, [] => t.isLong && matchesText ts []
  | t :: ts, c :: rest =>
    if t.isLong then matchesText ts (c :: rest) || matchesText (t :: ts) rest
    else t.takes c && matchesText ts rest
  termination_by ts text => ts.length + text.length

namespace Pattern

/-- The pattern has a piece that does not stand for itself. -/
def hasWildcards (p : Pattern) : Bool :=
  p.tokens.any fun t =>
    match t with
    | .char _ => false
    | _ => true

def isRecursive (p : Pattern) : Bool := p.tokens.contains .anyPath

def accepts (p : Pattern) (name : String) : Bool := matchesText p.tokens name.toList

end Pattern

/-- The text with every special character in brackets, so that it stands for itself. -/
def escaped (text : List Char) : List Char :=
  text.flatMap fun c =>
    if c == '?' || c == '*' || c == '[' || c == ']' then ['[', c, ']'] else [c]

end BuildTool.Glob

/-! ## Searching -/

namespace BuildTool.Glob

/-- A path on the way: whether it leads to a directory, and the elements still to be matched,
the first of them against the path's own name; none are left when it is already known to
match. -/
structure Candidate where
  path : String
  isDirectory : Bool
  left : Option (List Pattern)

def candidate (disk : Disk) (path : String) (left : Option (List Pattern)) : Candidate :=
  ⟨path, disk.tree.leadsToDirectory disk.work path, left⟩

/-- The path of a name in a directory; names in the current directory stand alone. -/
def inside (dir name : String) : String := if dir = "." then name else Path.join dir name

/-- The candidates below a directory for the elements `patterns`, the last one to be looked at
first. -/
def below (disk : Disk) : List Pattern → String → List Candidate
  | [], _ => []
  | p :: rest, dir =>
    let found (path : String) : List Candidate :=
      match rest with
      | [] => [candidate disk path none]
      | _ => below disk rest path
    let isDir := disk.tree.leadsToDirectory disk.work dir
    if !p.hasWildcards then
      let name := Text.octets (String.ofList p.text)
      let path := inside dir name
      if name = "." ∨ name = ".." then (if isDir then found path else [])
      else if disk.tree.pathExists disk.work path then found path
      else []
    else
      match disk.tree.stat disk.work dir with
      | .ok (loc, .directory _) =>
        let children := (disk.tree.names loc).reverse.map fun name =>
          candidate disk (inside dir name) (some (p :: rest))
        let special :=
          if p.tokens.head? = some (.char '.') then
            [".", ".."].flatMap fun name =>
              if p.accepts name then found (Path.join dir name) else []
          else []
        children ++ special
      | _ => []

/-- The name that a path ends in, if it is text. -/
def lastName? (path : String) : Option String :=
  match (Path.names path).getLast? with
  | some ".." => none
  | some "." => none
  | other => other.bind fun name => String.fromUTF8? (Text.toBytes name)

/-- The candidates that are left, next first, turned into paths that match. Directories only,
if `directories` says so. -/
def search (disk : Disk) (directories : Bool) : Nat → List Candidate → List String
  | 0, _ => []
  | _ + 1, [] => []
  | fuel + 1, c :: todo =>
    match c.left with
    | none =>
      if directories && !c.isDirectory then search disk directories fuel todo
      else c.path :: search disk directories fuel todo
    | some [] => search disk directories fuel todo
    | some (p :: rest) =>
      let tryName (p : Pattern) (rest : List Pattern) (todo : List Candidate) : List String :=
        match lastName? c.path with
        | none => search disk directories fuel todo
        | some name =>
          if p.accepts name then
            match rest with
            | [] =>
              if directories && !c.isDirectory then search disk directories fuel todo
              else c.path :: search disk directories fuel todo
            | _ => search disk directories fuel ((below disk rest c.path).reverse ++ todo)
          else search disk directories fuel todo
      if p.isRecursive then
        let later := rest.dropWhile (·.isRecursive)
        if c.isDirectory then
          let todo := (below disk (p :: later) c.path).reverse ++ todo
          match later with
          | [] => c.path :: search disk directories fuel todo
          | q :: later => tryName q later todo
        else
          match later with
          | [] => search disk directories fuel todo
          | q :: later => tryName q later todo
      else tryName p rest todo

/-- The elements of a path pattern; a slash at the end adds none. -/
def elementsOf (text : List Char) : List (List Char) :=
  let pieces := Text.splitChar '/' text
  if pieces.getLast? = some [] then pieces.dropLast else pieces

/-- A bound for the candidates that are looked at. -/
def searchLimit : Nat := 1000000

/-- The paths that match a pattern, or nothing when it is malformed. -/
def paths? (disk : Disk) (pattern : String) : Option (List String) := do
  let text := pattern.toList
  let _ ← Pattern.parse? text
  let rooted := text.head? == some '/'
  let body := if rooted then text.drop 1 else text
  let elements ← (elementsOf body).mapM Pattern.parse?
  let elements := if rooted && body.isEmpty then elements ++ [⟨[], []⟩] else elements
  let start := if rooted then "/" else "."
  let directories := text.getLast? == some '/'
  return search disk directories searchLimit (below disk elements start).reverse

/-- The files that a pattern finds from a base directory, named as seen from there; a
malformed pattern finds none. -/
def filesFrom (disk : Disk) (base pattern : String) : List String :=
  if Path.isAbsolute pattern then ((paths? disk pattern).getD []).map Text.fromOctets
  else
    let start := ((escaped base.toList).reverse.dropWhile (· == '/')).reverse
    let full := String.ofList (start ++ '/' :: pattern.toList)
    ((paths? disk full).getD []).map fun path =>
      Text.fromOctets ((Path.below? (Text.octets base) path).getD path)

end BuildTool.Glob
