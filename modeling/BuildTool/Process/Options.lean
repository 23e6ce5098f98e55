import BuildTool.Text.Split

/-!
# Options of programs

Options are letters after a dash, several of which may stand together, or words after two
dashes, which may be cut short as long as they stay unique. What an option takes follows it,
behind an equals sign for a word. Two dashes alone end the options.

    -nE -w80 -w 80    --number --width=80 --width 80
-/

namespace BuildTool

inductive Takes
  | nothing
  | value
  | maybe
  deriving DecidableEq

/-- The options that a program knows: its letters, and its words with the letter or word they
mean. `mixed` tells whether options may stand behind other arguments. -/
structure OptionTable where
  letters : List (Char × Takes)
  words : List (String × Takes × String)
  mixed : Bool := true

/-- An option that was given, by its letter or word, and what it takes. -/
abbrev GivenOption := String × Option String

/-- What was read of arguments: the options, the other arguments, and the fault that ended the
reading. -/
structure OptionReading where
  given : List GivenOption := []
  operands : List String := []
  fault : Option String := none

namespace OptionTable

/-- Reads the letters after a dash; `next` is the argument that follows. With the options before
any fault it tells whether that was used up. -/
def readLetters (t : OptionTable) (next : Option String) :
    List Char → List GivenOption × Except String Bool
  | [] => ([], .ok false)
  | c :: rest =>
    let option := String.singleton c
    match t.letters.lookup c with
    | none => ([], .error ("invalid option -- '" ++ option ++ "'"))
    | some .nothing =>
      let (given, ended) := t.readLetters next rest
      ((option, none) :: given, ended)
    | some .maybe =>
      ([(option, if rest = [] then none else some (String.ofList rest))], .ok false)
    | some .value =>
      if rest ≠ [] then ([(option, some (String.ofList rest))], .ok false)
      else
        match next with
        | some value => ([(option, some value)], .ok true)
        | none => ([], .error ("option requires an argument -- '" ++ option ++ "'"))

def candidates (t : OptionTable) (word : String) : List (String × Takes × String) :=
  match t.words.filter (·.1 == word) with
  | [] => t.words.filter fun w => (Text.dropStart? word.toList w.1.toList).isSome
  | exact => exact

/-- Reads the text after two dashes; `next` is the argument that follows. -/
def readWord (t : OptionTable) (next : Option String) (text : String) :
    Except String (GivenOption × Bool) :=
  let (word, value) := match Text.cut? '=' text with
    | some (word, value) => (word, some value)
    | none => (text, none)
  match t.candidates word with
  | [] => .error ("unrecognized option '--" ++ text ++ "'")
  | (name, takes, option) :: others =>
    if others.any fun o => o.2.2 != option then
      .error ("option '--" ++ text ++ "' is ambiguous; possibilities:" ++
        String.join (((name, takes, option) :: others).map fun o => " '--" ++ o.1 ++ "'"))
    else
      match takes, value with
      | .nothing, some _ => .error ("option '--" ++ name ++ "' doesn't allow an argument")
      | .nothing, none => .ok ((option, none), false)
      | .maybe, value => .ok ((option, value), false)
      | .value, some value => .ok ((option, some value), false)
      | .value, none =>
        match next with
        | some value => .ok ((option, some value), true)
        | none => .error ("option '--" ++ name ++ "' requires an argument")

/-- Reads one argument as options; none are read at the end of all options and from other
arguments. -/
def readArgument (t : OptionTable) (argument : String) (next : Option String) :
    List GivenOption × Except String Bool :=
  match argument.toList with
  | '-' :: '-' :: text =>
    match t.readWord next (String.ofList text) with
    | .ok (option, used) => ([option], .ok used)
    | .error text => ([], .error text)
  | '-' :: letters => t.readLetters next letters
  | _ => ([], .ok false)

def holdsOptions (argument : String) : Bool :=
  argument.startsWith "-" && argument != "-" && argument != "--"

/-- Reads the options among arguments, up to a fault. -/
def read (t : OptionTable) : List String → OptionReading
  | [] => {}
  | argument :: rest =>
    if argument = "--" then { operands := rest }
    else if holdsOptions argument then
      match t.readArgument argument rest.head? with
      | (given, .error text) => { given, fault := some text }
      | (given, .ok used) =>
        let r := t.read (if used then rest.tail else rest)
        { r with given := given ++ r.given }
    else if t.mixed then
      let r := t.read rest
      { r with operands := argument :: r.operands }
    else { operands := argument :: rest }
  termination_by arguments => arguments.length
  decreasing_by
    · simp_wf
      split
      · simp only [List.length_tail]
        omega
      · omega
    · simp

end OptionTable

def hasOption (options : List GivenOption) (name : String) : Bool := options.any (·.1 == name)

end BuildTool
