import BuildTool.Text.Split
import BuildTool.Version

/-!
# Version requirements

The first line of a script may ask for a version of the tool:

    ## bygg: ^0.6.0

`=` wants the very version, `~` the same major and minor number with at least that patch,
`^` the same major number with at least that minor number and patch. The numbers alone decide
for `~` and `^`; text before the operator does not count.
-/

namespace BuildTool

/-- Why a version requirement turns the script down. -/
inductive RequirementError
  | noOperator
  | badRequired (cause : VersionError)
  | badCurrent (cause : VersionError)
  | unmet (required current : String)
  deriving DecidableEq, Repr

namespace RequirementError

/-- The wording of each cause. -/
def message : RequirementError → String
  | .noOperator => "requirement prefix not found, expected '=', '^' or '~'"
  | .badRequired cause => "failed to parse required version: " ++ cause.message
  | .badCurrent cause => "failed to parse current version: " ++ cause.message
  | .unmet required current =>
    "script requires " ++ required ++ " but this is bygg " ++ current

end RequirementError

inductive Comparison
  | exact
  | sameMajor
  | sameMinor
  deriving DecidableEq, Repr

namespace Comparison

/-- The operator that asks for a comparison. -/
def ofChar? : Char → Option Comparison
  | '=' => some .exact
  | '^' => some .sameMajor
  | '~' => some .sameMinor
  | _ => none

def accepts (comparison : Comparison) (wanted actual : Version) : Bool :=
  match comparison with
  | .exact => wanted == actual
  | .sameMajor =>
    wanted.major == actual.major &&
      (wanted.minor < actual.minor ||
        (wanted.minor == actual.minor && wanted.patch ≤ actual.patch))
  | .sameMinor =>
    wanted.major == actual.major && wanted.minor == actual.minor && wanted.patch ≤ actual.patch

end Comparison

namespace Requirement

/-- The first operator of a text and what follows it. -/
def operator? : List Char → Option (Comparison × List Char)
  | [] => none
  | c :: rest =>
    match Comparison.ofChar? c with
    | some comparison => some (comparison, rest)
    | none => operator? rest

/-- The version in a text such as `v1.2.3`: what follows the first `v`, or all of it. -/
def currentText (current : List Char) : List Char :=
  match Text.cutChar? 'v' current with
  | some (_, after) => after
  | none => current

/-- Whether version `current` meets the requirement. -/
def isMet (required current : String) : Except RequirementError Bool :=
  match operator? required.toList with
  | none => .error .noOperator
  | some (comparison, wantedText) =>
    match Version.parseChars (Text.trimBoth Text.isBlank wantedText) with
    | .error e => .error (.badRequired e)
    | .ok wanted =>
      match Version.parseChars (Text.trimBoth Text.isBlank (currentText current.toList)) with
      | .error e => .error (.badCurrent e)
      | .ok actual => .ok (comparison.accepts wanted actual)

/-- The requirement that a script declares: its first line begins with two hash signs, and
`bygg:` follows after hash signs and white space. -/
def declared? (script : String) : Option String := do
  let first ← (Text.lines script.toList).head?
  let _ ← Text.dropStart? ['#', '#'] first
  let directive := first.dropWhile fun c => c == '#' || Text.isBlank c
  let required ← Text.dropStart? "bygg:".toList directive
  return String.ofList (Text.trimBoth Text.isBlank required)

/-- Refuses a script that declares a requirement which version `current` does not meet. -/
def check (script current : String) : Except RequirementError Unit :=
  match declared? script with
  | none => .ok ()
  | some required =>
    match isMet required current with
    | .error e => .error e
    | .ok true => .ok ()
    | .ok false => .error (.unmet required current)

end Requirement

end BuildTool
