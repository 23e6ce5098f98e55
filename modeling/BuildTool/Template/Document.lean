import BuildTool.Template.Syntax
import BuildTool.Template.TagReader
import BuildTool.Text.Split

/-!
# Reading templates

A template is a row of pieces. Which pieces may occur depends on where they stand: blocks may
not stand in the body of a loop, definitions only at the top, and so on. A template as a whole
begins with comments and what is imported, then the parent it extends, if any.
-/

/-!
## White space around tags

A tag that asks for it takes the white space off the text right before or right after it. The
tags around a body do the same to the body's ends. Text that is left empty disappears. What
stands in for a loop without turns is left as it is.
-/

namespace BuildTool.Template

/-- Takes the white space off the end of pieces that end in text. -/
def trimEnd (nodes : List Node) : List Node :=
  match nodes.getLast? with
  | some (.text s) =>
    let s := Text.trimRight s
    if s = "" then nodes.dropLast else nodes.dropLast ++ [.text s]
  | _ => nodes

/-- The pieces, trimmed at the end where it is asked for. -/
def trimEndIf (asked : Bool) (nodes : List Node) : List Node :=
  if asked then trimEnd nodes else nodes

/-- The white space that the tag in front of a piece takes away, and the one behind it. -/
def Node.trim : Node → Trim
  | .comment trim | .output trim _ | .assign trim .. | .insertion trim .. | .importing trim ..
  | .parent trim _ | .leave trim | .next trim => trim
  | .raw start _ stop => ⟨start.left, stop.right⟩
  | .block start _ _ stop => ⟨start.left, stop.right⟩
  | .definition start _ _ _ stop => ⟨start.left, stop.right⟩
  | .loop start _ _ _ _ _ stop => ⟨start.left, stop.right⟩
  | .filtered start _ _ stop => ⟨start.left, stop.right⟩
  | .branch arms _ stop => ⟨arms.head?.any (·.1.left), stop.right⟩
  | .text _ | .overridden => {}

/-- The text between raw tags without the white space that they take away. -/
def trimRaw (left right : Bool) (s : String) : String :=
  let s := if left then Text.trimLeft s else s
  if right then Text.trimRight s else s

mutual

/-- Carries out what the tags around and in a body ask for. `done` holds the pieces before,
`asked` tells whether white space at the beginning of the next one is to go, and `atEnd`
whether it is to go from the end of the body. -/
def trimmed : Nat → Bool → Bool → List Node → List Node → List Node
  | 0, _, _, done, nodes => done ++ nodes
  | _ + 1, _, atEnd, done, [] => trimEndIf atEnd done
  | fuel + 1, asked, atEnd, done, node :: rest =>
    match node with
    | .text s =>
      let s := if asked then Text.trimLeft s else s
      trimmed fuel false atEnd (if asked ∧ s = "" then done else done ++ [.text s]) rest
    | .overridden => trimmed fuel asked atEnd (done ++ [node]) rest
    | _ =>
      let done := trimEndIf node.trim.left done
      trimmed fuel node.trim.right atEnd (done ++ [trimmedInside fuel node]) rest

/-- Carries out what the tags of one piece ask for inside of it. -/
def trimmedInside : Nat → Node → Node
  | 0, node => node
  | fuel + 1, node =>
    match node with
    | .raw start s stop => .raw start (trimRaw start.right stop.left s) stop
    | .block start name body stop =>
      .block start name (trimmed fuel start.right stop.left [] body) stop
    | .definition start name parameters body stop =>
      .definition start name parameters (trimmed fuel start.right stop.left [] body) stop
    | .loop start key value container body otherwise stop =>
      .loop start key value container (trimmed fuel start.right stop.left [] body) otherwise stop
    | .filtered start filter body stop =>
      .filtered start filter (trimmed fuel start.right stop.left [] body) stop
    | .branch arms otherwise stop =>
      .branch (trimmedArms fuel (match otherwise with | some o => o.1.left | none => stop.left) arms)
        (otherwise.map fun o => (o.1, trimmed fuel o.1.right stop.left [] o.2)) stop
    | node => node

/-- Carries out what the tags between the arms of a branch ask for; `atEnd` is what the tag
behind the last arm asks for. -/
def trimmedArms : Nat → Bool → List (Trim × Expr × List Node) → List (Trim × Expr × List Node)
  | 0, _, arms => arms
  | _ + 1, _, [] => []
  | fuel + 1, atEnd, (trim, condition, body) :: rest =>
    let next := match rest with
      | (t, _) :: _ => t.left
      | [] => atEnd
    (trim, condition, trimmed fuel trim.right next [] body) :: trimmedArms fuel atEnd rest

end

end BuildTool.Template

/-! ## Pieces -/

namespace BuildTool.Template

/-- Where a piece of a template stands, which decides about the tags that may occur. -/
inductive Place
  | top
  | inBranch
  | inBlock
  | inLoop
  | inDefinition
  | inFilter
  deriving DecidableEq

namespace Place

def allowsBlocks : Place → Bool
  | .top | .inBranch | .inBlock | .inFilter => true
  | .inLoop | .inDefinition => false

def ofArms : Place → Place
  | .top => .inBranch
  | place => place

end Place

def importing : Reader Node := fun s =>
  (statement? "import" importing? s).map fun r => (.importing r.1.1 r.1.2.1 r.1.2.2, r.2)

mutual

/-- Reads pieces of a template as far as they fit. -/
def nodes : Nat → Place → List Char → List Node × List Char
  | 0, _, s => ([], s)
  | fuel + 1, place, s =>
    match node? fuel place s with
    | some (n, rest) =>
      let (more, rest) := nodes fuel place rest
      (n :: more, rest)
    | none => ([], s)

def node? : Nat → Place → Reader Node
  | 0, _, _ => none
  | fuel + 1, place, s =>
    match s with
    | '\x7b' :: '#' :: _ => (comment? s).map fun r => (.comment r.1, r.2)
    | '\x7b' :: '\x7b' :: _ =>
      match if place = .inBlock then overridden? s else none with
      | some (_, rest) => some (.overridden, rest)
      | none => (output? s).map fun r => (.output r.1.1 r.1.2, r.2)
    | '\x7b' :: '%' :: rest =>
      let word := (skip (match rest with | '-' :: r => r | r => r)).takeWhile isNameChar
      match String.ofList word with
      | "set" => (statement? "set" assignment? s).map fun r =>
          (.assign r.1.1 false r.1.2.1 r.1.2.2, r.2)
      | "set_global" => (statement? "set_global" assignment? s).map fun r =>
          (.assign r.1.1 true r.1.2.1 r.1.2.2, r.2)
      | "include" => (statement? "include" insertion? s).map fun r =>
          (.insertion r.1.1 r.1.2.1 r.1.2.2, r.2)
      | "import" => if place = .top then importing s else none
      | "break" => if place = .inLoop then (wordTag? "break" false s).map fun r =>
          (.leave r.1, r.2) else none
      | "continue" => if place = .inLoop then (wordTag? "continue" false s).map fun r =>
          (.next r.1, r.2) else none
      | "raw" => do
        let (start, rest) ← wordTag? "raw" false s
        let (text, stop, rest) ← rawText rest
        return (.raw start (String.ofList text) stop, rest)
      | "if" => branch? fuel place.ofArms s
      | "for" => loop? fuel s
      | "filter" => do
        let ((start, filter), rest) ← statement? "filter" filterHead? s
        let (body, rest) := nodes fuel .inFilter rest
        let (stop, rest) ← wordTag? "endfilter" false rest
        return (.filtered start filter body stop, rest)
      | "block" =>
        if place.allowsBlocks then do
          let ((start, name), rest) ← statement? "block" name? s
          let (body, rest) := nodes fuel .inBlock rest
          let (stop, rest) ← wordTag? "endblock" true rest
          return (.block start name body stop, rest)
        else none
      | "macro" =>
        if place = .top then do
          let ((start, name, parameters), rest) ← statement? "macro" head? s
          let (body, rest) := nodes fuel .inDefinition rest
          let (stop, rest) ← wordTag? "endmacro" true rest
          return (.definition start name parameters body stop, rest)
        else none
      | _ => none
    | [] => none
    | _ =>
      let (text, rest) := plainText s
      some (.text (String.ofList text), rest)

/-- Reads a branch with all its arms, which stand at `place`. -/
def branch? : Nat → Place → Reader Node
  | 0, _, _ => none
  | fuel + 1, place, s => do
    let ((start, first), rest) ← statement? "if" armHead? s
    let (body, rest) := nodes fuel place rest
    let (arms, rest) := arms fuel place rest
    let otherwise : Option ((Trim × List Node) × List Char) := do
      let (trim, rest) ← wordTag? "else" false rest
      let (body, rest) := nodes fuel place rest
      return ((trim, body), rest)
    let (otherwise, rest) := match otherwise with
      | some (o, rest) => (some o, rest)
      | none => (none, rest)
    let (stop, rest) ← wordTag? "endif" false rest
    return (.branch ((start, first, body) :: arms) otherwise stop, rest)

/-- Reads the arms of a branch after the first one. -/
def arms : Nat → Place → List Char → List (Trim × Expr × List Node) × List Char
  | 0, _, s => ([], s)
  | fuel + 1, place, s =>
    match statement? "elif" armHead? s with
    | some ((trim, condition), rest) =>
      let (body, rest) := nodes fuel place rest
      let (more, rest) := arms fuel place rest
      ((trim, condition, body) :: more, rest)
    | none => ([], s)

def loop? : Nat → Reader Node
  | 0, _ => none
  | fuel + 1, s => do
    let ((start, key, value, container), rest) ← statement? "for" loopHead? s
    let (body, rest) := nodes fuel .inLoop rest
    let (otherwise, rest) := emptyBody fuel none rest
    let (stop, rest) ← wordTag? "endfor" false rest
    return (.loop start key value container body otherwise stop, rest)

/-- Reads what stands in for a loop without turns. It may be given several times, and the last
one counts. -/
def emptyBody : Nat → Option (List Node) → List Char → Option (List Node) × List Char
  | 0, found, s => (found, s)
  | fuel + 1, found, s =>
    match wordTag? "else" false s with
    | some (_, rest) =>
      let (body, rest) := nodes fuel .inLoop rest
      emptyBody fuel (some body) rest
    | none => (found, s)

end

/-- Reads comments and imports as far as there are any. -/
def opening : Nat → List Char → List Node × List Char
  | 0, s => ([], s)
  | fuel + 1, s =>
    let found : Option (Node × List Char) :=
      match comment? s with
      | some (trim, rest) => some (.comment trim, rest)
      | none => importing s
    match found with
    | some (n, rest) =>
      let (more, rest) := opening fuel rest
      (n :: more, rest)
    | none => ([], s)

/-- Reads a whole template into pieces: comments and imports, a parent, and everything else. -/
def allNodes? (s : List Char) : Option (List Node) :=
  let fuel := 2 * s.length + 10
  let (before, rest) := opening fuel s
  let (parent, rest) : List Node × List Char :=
    match statement? "extends" quotedText? rest with
    | some ((trim, name), rest) => ([.parent trim name], rest)
    | none => ([], rest)
  let (body, rest) := nodes fuel .top rest
  if rest.isEmpty then some (before ++ parent ++ body) else none

/-! ### Documents -/

/-- The blocks in pieces, outer ones before those inside them. -/
def blocksIn : Nat → List Node → List (String × List Node)
  | 0, _ => []
  | fuel + 1, ns => ns.flatMap fun n =>
    match n with
    | .block _ name body _ => (name, body) :: blocksIn fuel body
    | _ => []

def allDifferent (names : List String) : Bool := names.eraseDups.length == names.length

/-- Reads a template; nothing when it is malformed, which includes two blocks or two
definitions of one name. -/
def Document.parse? (source : String) : Option Document := do
  let chars := source.toList
  let found ← allNodes? chars
  let pieces := trimmed (4 * chars.length + 10) false false [] found
  let blocks := blocksIn (chars.length + 1) pieces
  let definitions := pieces.filterMap fun n =>
    match n with
    | .definition _ name parameters body _ => some (Definition.mk name parameters body)
    | _ => none
  if !allDifferent (blocks.map (·.1)) || !allDifferent (definitions.map (·.name)) then none
  let parent := (pieces.filterMap fun n =>
    match n with
    | .parent _ name => some name
    | _ => none).getLast?
  let imported := pieces.filterMap fun n =>
    match n with
    | .importing _ file space => some (file, space)
    | _ => none
  return { nodes := pieces, blocks, parent, definitions, imported }

end BuildTool.Template
