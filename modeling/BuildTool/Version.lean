import BuildTool.Number.Binary
import BuildTool.Text.Quoted

/-!
# Semantic versions

A version is three numbers of at most 64 bits, then optionally a pre-release part after a
hyphen and build metadata after a plus sign, each a dot-separated list of non-empty
identifiers over ASCII letters, digits and hyphens. Numbers have no leading zero, and neither
do numeric pre-release identifiers.
-/

namespace BuildTool

/-- A version; the two optional parts are empty when absent. -/
structure Version where
  major : Nat
  minor : Nat
  patch : Nat
  pre : List Char := []
  build : List Char := []
  deriving DecidableEq, Repr

inductive VersionPart
  | major
  | minor
  | patch
  | pre
  | build
  deriving DecidableEq, Repr

inductive VersionError
  | empty
  | unexpectedEnd (part : VersionPart)
  | unexpectedChar (part : VersionPart) (c : Char)
  | unexpectedCharAfter (part : VersionPart) (c : Char)
  | leadingZero (part : VersionPart)
  | overflow (part : VersionPart)
  | emptySegment (part : VersionPart)
  deriving DecidableEq, Repr

namespace VersionPart

def name : VersionPart → String
  | .major => "major version number"
  | .minor => "minor version number"
  | .patch => "patch version number"
  | .pre => "pre-release identifier"
  | .build => "build metadata"

end VersionPart

namespace VersionError

/-- The wording of each fault. -/
def message : VersionError → String
  | .empty => "empty string, expected a semver version"
  | .unexpectedEnd part => "unexpected end of input while parsing " ++ part.name
  | .unexpectedChar part c =>
    "unexpected character " ++ Text.quotedSingle c ++ " while parsing " ++ part.name
  | .unexpectedCharAfter part c =>
    "unexpected character " ++ Text.quotedSingle c ++ " after " ++ part.name
  | .leadingZero part => "invalid leading zero in " ++ part.name
  | .overflow part => "value of " ++ part.name ++ " exceeds u64::MAX"
  | .emptySegment part => "empty identifier segment in " ++ part.name

end VersionError

namespace Version

/-- Reads digits onto a number that already has `read` digits. -/
def digits (part : VersionPart) (read value : Nat) :
    List Char → Except VersionError (Nat × Nat × List Char)
  | [] => .ok (read, value, [])
  | c :: rest =>
    if c.isDigit then
      if value = 0 ∧ read > 0 then .error (.leadingZero part)
      else
        let next := value * 10 + (c.toNat - '0'.toNat)
        if next < wordLimit then digits part (read + 1) next rest
        else .error (.overflow part)
    else .ok (read, value, c :: rest)

/-- Reads one of the three numbers and gives what follows it. -/
def number (part : VersionPart) (text : List Char) : Except VersionError (Nat × List Char) :=
  match digits part 0 0 text with
  | .error e => .error e
  | .ok (0, _, []) => .error (.unexpectedEnd part)
  | .ok (0, _, c :: _) => .error (.unexpectedChar part c)
  | .ok (_ + 1, value, rest) => .ok (value, rest)

/-- Reads the dot between two numbers. -/
def dot (part : VersionPart) : List Char → Except VersionError (List Char)
  | '.' :: rest => .ok rest
  | c :: _ => .error (.unexpectedCharAfter part c)
  | [] => .error (.unexpectedEnd part)

def isIdentifierChar (c : Char) : Bool := c.isAlphanum || c == '-'

/-- A numeric identifier that begins with a needless zero. -/
def hasLeadingZero (segment : List Char) : Bool :=
  segment.all Char.isDigit && segment.length > 1 && segment.head? == some '0'

/-- Reads dot-separated identifiers: `done` holds what was read of the whole list and
`segment` what was read of the current identifier, both reversed. -/
def identifierFrom (part : VersionPart) :
    List Char → List Char → List Char → Except VersionError (List Char × List Char)
  | done, segment, text =>
    match text with
    | c :: rest =>
      if isIdentifierChar c then identifierFrom part done (c :: segment) rest
      else if segment = [] then
        if done = [] ∧ c ≠ '.' then .ok ([], text) else .error (.emptySegment part)
      else if part = .pre ∧ hasLeadingZero segment.reverse then .error (.leadingZero part)
      else if c = '.' then identifierFrom part ('.' :: (segment ++ done)) [] rest
      else .ok ((segment ++ done).reverse, text)
    | [] =>
      if segment = [] then
        if done = [] then .ok ([], []) else .error (.emptySegment part)
      else if part = .pre ∧ hasLeadingZero segment.reverse then .error (.leadingZero part)
      else .ok ((segment ++ done).reverse, [])

/-- Reads the identifiers that must follow the sign of an optional part. -/
def identifiers (part : VersionPart) (text : List Char) :
    Except VersionError (List Char × List Char) :=
  match identifierFrom part [] [] text with
  | .ok ([], _) => .error (.emptySegment part)
  | other => other

/-- Reads an optional part, if its sign stands here; the position only moves on when it does. -/
def optionalPart (sign : Char) (part current : VersionPart) :
    List Char → Except VersionError (List Char × VersionPart × List Char)
  | c :: rest =>
    if c = sign then
      match identifiers part rest with
      | .error e => .error e
      | .ok (ids, after) => .ok (ids, part, after)
    else .ok ([], current, c :: rest)
  | [] => .ok ([], current, [])

/-- Reads a version from characters without surrounding white space. -/
def parseChars (text : List Char) : Except VersionError Version :=
  if text = [] then .error .empty
  else do
    let (major, rest) ← number .major text
    let rest ← dot .major rest
    let (minor, rest) ← number .minor rest
    let rest ← dot .minor rest
    let (patch, rest) ← number .patch rest
    let (pre, position, rest) ← optionalPart '-' .pre .patch rest
    let (build, position, rest) ← optionalPart '+' .build position rest
    match rest with
    | [] => .ok ⟨major, minor, patch, pre, build⟩
    | c :: _ => .error (.unexpectedCharAfter position c)

def parse (text : String) : Except VersionError Version := parseChars text.toList

end Version

end BuildTool
