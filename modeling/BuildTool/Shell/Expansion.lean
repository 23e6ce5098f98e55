import BuildTool.Shell.Arithmetic
import BuildTool.Shell.Fields
import BuildTool.Shell.State

/-!
# Substitution in words

A word becomes pieces: parameters, the output of commands and arithmetic expressions are put in
their place, and a tilde at the beginning is the home directory. Where a word may become several
fields, its pieces are split and its patterns replaced by file names; elsewhere the pieces make
up one text.

    ~/${x:-none}    pieces /root  /  none
-/

namespace BuildTool.Shell

/-- Carries out commands on their own and gives what they print. -/
abbrev Runner := Command → State → ByteArray × State

/-- How a word is taken: as several fields or as one text, and as the value of an assignment, in
which a tilde can also stand behind a colon. -/
structure Taking where
  fields : Bool
  value : Bool := false

/-! ## Home directories -/

/-- The home directories of the users that every system has. -/
def homes : List (String × String) :=
  [("root", "/root"), ("daemon", "/usr/sbin"), ("bin", "/bin"), ("sys", "/dev"), ("sync", "/bin"),
    ("games", "/usr/games"), ("man", "/var/cache/man"), ("lp", "/var/spool/lpd"),
    ("mail", "/var/mail"), ("news", "/var/spool/news"), ("uucp", "/var/spool/uucp"),
    ("proxy", "/bin"), ("www-data", "/var/www"), ("backup", "/var/backups"),
    ("list", "/var/list"), ("irc", "/run/ircd"), ("_apt", "/nonexistent"),
    ("nobody", "/nonexistent")]

/-- The home directory of a user, or of the one at work for no name. -/
def State.home? (s : State) (user : String) : Option String :=
  if user = "" then s.vars.value? "HOME" else homes.lookup user

/-- What a tilde at the beginning of a text stands for, with what follows the name behind it.
The name has to end in the text: at a slash, in an assignment at a colon, or at the end of the
word. -/
def State.tilde? (s : State) (inValue isLast : Bool) : List Char → Option (String × List Char)
  | '~' :: rest =>
    let isEnd (c : Char) : Bool := c == '/' || (inValue && c == ':')
    let name := rest.takeWhile (!isEnd ·)
    let after := rest.dropWhile (!isEnd ·)
    if after.isEmpty ∧ !isLast then none
    else (s.home? (String.ofList name)).map fun home => (home, after)
  | _ => none

def quotedGlyphs (text : List Char) : List Glyph := text.map fun c => (c, true)

/-- The pieces of a text outside of quotes. `atStart` tells that a tilde may stand in front,
`isLast` that nothing follows in the word; `fuel` bounds the colons. -/
def State.literalPieces (s : State) (taking : Taking) (isLast : Bool) :
    Nat → Bool → List Char → List Piece
  | 0, _, text => [.fixed (unquoted text)]
  | fuel + 1, atStart, text =>
    match if atStart then s.tilde? taking.value isLast text else none with
    | some (home, after) =>
      .fixed (quotedGlyphs home.toList) :: s.literalPieces taking isLast fuel false after
    | none =>
      if !taking.value then [.fixed (unquoted text)]
      else
        let element := text.takeWhile (· != ':')
        match text.dropWhile (· != ':') with
        | [] => [.fixed (unquoted text)]
        | colon :: after =>
          .fixed (unquoted (element ++ [colon])) :: s.literalPieces taking isLast fuel true after

/-! ## Parameters -/

def joinedWith (joint : List Char) (texts : List String) : List Char :=
  (texts.map String.toList |>.intersperse joint).flatten

/-- The characters between the parameters of a script where all of them are asked for. Where
they become fields zero characters keep them apart. -/
def State.parameterJoint (s : State) (name : String) (quoted fields : Bool) : List Char :=
  if quoted then if fields ∧ name = "@" then ['\x00'] else s.joint
  else if fields then if (s.vars.value? "IFS").isSome then ['\x00'] else [' ']
  else s.joint

def State.textOf? (s : State) (name : String) (quoted fields : Bool) : Option (List Char) :=
  if name = "@" ∨ name = "*" then
    some (joinedWith (s.parameterJoint name quoted fields) s.parameters.values)
  else (s.parameter? name).map String.toList

def State.pieceOf (s : State) (name : String) (quoted : Bool) (text : List Char) : Piece :=
  if !quoted then .split (unquoted text)
  else if name = "@" ∧ s.parameters.values ≠ [] then .separate (quotedGlyphs text)
  else .fixed (quotedGlyphs text)

/-- A piece of the output of commands or of a number. -/
def resultPiece (quoted : Bool) (text : List Char) : Piece :=
  if quoted then .fixed (quotedGlyphs text) else .split (unquoted text)

/-- Output without zero bytes and without the line ends at its end. -/
def trimmedOutput (bytes : ByteArray) : List Char :=
  let text := (bytes.toList.filter (· != 0)).map Text.octet
  (text.reverse.dropWhile (· == '\n')).reverse

/-- Sets the variables that an expression set, as far as they may be set. -/
def State.assignAll (s : State) (values : List (String × Int)) : State :=
  values.foldl (fun s p => if s.isHalted then s else s.assign p.1 (toString p.2) false) s

def allGlyphs (pieces : List Piece) : List Glyph := pieces.flatMap Piece.glyphs

/-- A text without the end or the beginning that the pieces of a pattern stand for. Joined
parameters are searched from the end in a row with the pattern. -/
def trimmed (atEnd longest quoted : Bool) (text : List Char) (pieces : List Piece) : List Char :=
  let items := pattern (allGlyphs pieces)
  if text.contains '\x00' ∧ atEnd ≠ longest then
    let row := Joined.Row.ofPieces (text.map fun c => (c, quoted)) pieces
    (if atEnd then row.withoutEnd else row.withoutStart).map Prod.fst
  else if atEnd then withoutEnd items longest text
  else withoutStart items longest text

/-! ## Words -/

mutual

/-- The pieces of a part; `atStart` and `isLast` tell where in its word it stands. -/
def expandPart (run : Runner) (taking : Taking) (atStart isLast : Bool) :
    Part → State → List Piece × State
  | .literal text, s =>
    (s.literalPieces taking isLast (text.length + 1) atStart text.toList, s)
  | .quoted text, s => ([.fixed (quotedGlyphs text.toList)], s)
  | .mark, s => ([.mark], s)
  | .excess, s => ([], s)
  | .parameter name use quoted, s => expandUse run taking name quoted use s
  | .output command quoted, s =>
    let (bytes, s) := run command s
    ([resultPiece quoted (trimmedOutput bytes)], s)
  | .arithmetic expression quoted, s =>
    let (pieces, s) := expandParts run { fields := false } false expression s
    if s.isHalted then ([], s)
    else
      let text := plainText (allGlyphs pieces)
      match Arithmetic.evaluate s.parameter? text with
      | .ok (n, values) => ([resultPiece quoted (toString n).toList], s.assignAll values)
      | .error f => ([], s.fail (f.message text))

/-- The pieces that the use of a parameter makes. -/
def expandUse (run : Runner) (taking : Taking) (name : String) (quoted : Bool) :
    Use → State → List Piece × State
  | .value, s =>
    match s.textOf? name quoted taking.fields with
    | some text => ([s.pieceOf name quoted text], s)
    | none => if s.has "nounset" then ([], s.fail (name ++ ": parameter not set")) else ([], s)
  | .length, s =>
    match s.textOf? name quoted false with
    | some text => ([s.pieceOf name quoted (toString text.length).toList], s)
    | none =>
      if s.has "nounset" then ([], s.fail (name ++ ": parameter not set"))
      else ([s.pieceOf name quoted ['0']], s)
  | .alternative whenSet orEmpty word, s =>
    let text := s.textOf? name quoted taking.fields
    let isThere := if orEmpty then text.any (!·.isEmpty) else text.isSome
    if whenSet != isThere then
      if whenSet then ([], s) else ([s.pieceOf name quoted (text.getD [])], s)
    else
      let (pieces, s) := expandParts run taking true word s
      (if quoted then pieces else pieces.map Piece.splitting, s)
  | .assignment orEmpty word, s =>
    let text := s.textOf? name quoted taking.fields
    if if orEmpty then text.any (!·.isEmpty) else text.isSome then
      ([s.pieceOf name quoted (text.getD [])], s)
    else
      let (pieces, s) := expandParts run { fields := false } true word s
      if s.isHalted then ([], s)
      else
        let s := s.assign name (plainText (allGlyphs pieces)) false
        if s.isHalted then ([], s)
        else ([s.pieceOf name quoted ((s.textOf? name quoted taking.fields).getD [])], s)
  | .demand orEmpty word, s =>
    let text := s.textOf? name quoted taking.fields
    if if orEmpty then text.any (!·.isEmpty) else text.isSome then
      ([s.pieceOf name quoted (text.getD [])], s)
    else if word.isEmpty then
      ([], s.fail (name ++ ": parameter not set" ++ if orEmpty then " or null" else ""))
    else
      let (pieces, s) := expandParts run { fields := false } true word s
      if s.isHalted then ([], s)
      else ([], s.fail (name ++ ": " ++ plainText (allGlyphs pieces)))
  | .trim atEnd longest word, s =>
    match s.textOf? name quoted taking.fields with
    | none => if s.has "nounset" then ([], s.fail (name ++ ": parameter not set")) else ([], s)
    | some text =>
      let (pieces, s) := expandParts run { fields := false } true word s
      if s.isHalted then ([], s)
      else
        ([s.pieceOf name quoted (trimmed atEnd longest quoted text pieces)], s)
  | .unknown, s => ([], s.fail "Bad substitution")

/-- The pieces of the parts of a word. Nothing more is substituted after a fault. -/
def expandParts (run : Runner) (taking : Taking) (atStart : Bool) :
    List Part → State → List Piece × State
  | [], s => ([], s)
  | .excess :: _, s => ([], s)
  | part :: rest, s =>
    let (pieces, s) := expandPart run taking atStart rest.isEmpty part s
    if s.isHalted then (pieces, s)
    else
      let (more, s) := expandParts run taking false rest s
      (pieces ++ more, s)

end

/-- The fields of a word: split, and with file names for patterns. -/
def expandFields (run : Runner) (word : Word) (s : State) : List String × State :=
  let (pieces, s) := expandParts run { fields := true } true word s
  if s.isHalted then ([], s)
  else
    let fields := fieldsOf s.separators pieces
    (if s.has "noglob" then fields.map plainText
      else fields.flatMap (fileNames s.system.disk), s)

/-- The fields of several words. -/
def expandAll (run : Runner) : List Word → State → List String × State
  | [], s => ([], s)
  | word :: rest, s =>
    let (fields, s) := expandFields run word s
    if s.isHalted then (fields, s)
    else
      let (more, s) := expandAll run rest s
      (fields ++ more, s)

def expandGlyphs (run : Runner) (word : Word) (s : State) : List Glyph × State :=
  let (pieces, s) := expandParts run { fields := false } true word s
  (allGlyphs pieces, s)

def expandText (run : Runner) (word : Word) (s : State) : String × State :=
  let (glyphs, s) := expandGlyphs run word s
  (plainText glyphs, s)

def expandValue (run : Runner) (word : Word) (s : State) : String × State :=
  let (pieces, s) := expandParts run { fields := false, value := true } true word s
  (plainText (allGlyphs pieces), s)

end BuildTool.Shell
