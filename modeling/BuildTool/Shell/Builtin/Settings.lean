import BuildTool.Shell.Builtin.Naming

/-!
# Builtin commands for parameters and settings

`set` turns settings on and off and sets the parameters of the script, `shift` drops some of
them, `getopts` reads options among them. `trap` keeps actions for signals, `umask` the
permissions that new files lack.
-/

namespace BuildTool.Shell.Builtin

/-! ## Settings -/

/-- Lists the settings, as they are called after `-o` or as commands that make them. -/
def listSettings (asCommands : Bool) (s : State) : State :=
  settings.foldl (fun s o =>
    let on := s.has o.name
    if asCommands then s.say ("set " ++ (if on then "-o " else "+o ") ++ o.name ++ "\n")
    else
      let gap := String.ofList (List.replicate (16 - o.name.length) ' ')
      s.say (o.name ++ gap ++ (if on then "on" else "off") ++ "\n")) s

/-- Turns a setting with a name on or off. There is no terminal for the control of jobs. -/
def turnNamed (on : Bool) (name : String) (s : State) : State :=
  if on && name == "monitor" then s.complain "can't access tty; job control turned off"
  else s.turn name on

/-- Turns the setting with a letter on or off; of the two kinds of editing only one is on. -/
def turnLetter (on : Bool) (letter : Char) (s : State) : State :=
  match settings.find? (·.letter == some letter) with
  | none => s.fail ("Illegal option -" ++ String.singleton letter)
  | some o =>
    let s := turnNamed on o.name s
    if on && o.name == "vi" then s.turn "emacs" false
    else if on && o.name == "emacs" then s.turn "vi" false
    else s

/-- What the options in front of some arguments ask for besides settings: the rest of the
arguments, whether a script follows, and whether the parameters are set even to none. -/
structure Given where
  rest : List String
  script : Bool := false
  replaces : Bool := false

/-- Carries out the letters of an option; those that only the start of a shell takes need
`starting`. -/
def turnLetters (starting on : Bool) : List Char → State → Given → State × Given
  | [], s, g => (s, g)
  | c :: cs, s, g =>
    if s.isHalted then (s, g)
    else if c = 'c' ∧ starting then turnLetters starting on cs s { g with script := true }
    else if c = 'l' ∧ starting then turnLetters starting on cs s g
    else if c = 'o' then
      match g.rest with
      | [] => turnLetters starting on cs ((if on then s.say "Current option settings\n" else s)
          |> listSettings (!on)) g
      | name :: rest =>
        let s := if settings.any (·.name == name) then turnNamed on name s
          else s.fail ("Illegal option -o " ++ name)
        turnLetters starting on cs s { g with rest }
    else turnLetters starting on cs (turnLetter on c s) g

/-- Carries out the options in front of some arguments; `fuel` is the number of arguments. -/
def turnOptions (starting : Bool) : Nat → State → Given → State × Given
  | 0, s, g => (s, g)
  | fuel + 1, s, g =>
    if s.isHalted then (s, g)
    else
      match g.rest with
      | [] => (s, g)
      | a :: rest =>
        let g' := { g with rest }
        match a.toList with
        | ['-'] =>
          (if starting then s else (s.turn "xtrace" false).turn "verbose" false, g')
        | ['-', '-'] => (s, { g' with replaces := !starting })
        | '-' :: letters =>
          let (s, g) := turnLetters starting true letters s g'
          turnOptions starting fuel s g
        | '+' :: letters =>
          let (s, g) := turnLetters starting false letters s g'
          turnOptions starting fuel s g
        | _ => (s, g)

/-- Turns settings on and off and sets the parameters; without arguments lists the variables. -/
def set : Builtin := fun arguments s =>
  match arguments with
  | [] => (listed s "" (s.vars.sorted.filter (·.2.value.isSome))).leave 0
  | _ =>
    let (s, g) := turnOptions false arguments.length s { rest := arguments }
    let s := if s.isHalted ∨ (g.rest.isEmpty ∧ !g.replaces) then s
      else { s with parameters := { values := g.rest } }
    s.leaveUnlessHalted 0

/-! ## Parameters -/

def shift : Builtin := fun arguments s =>
  s.withCount (arguments.head?.getD "1") fun n =>
    if s.parameters.values.length < n then s.fail "can't shift that many"
    else { s with parameters := { values := s.parameters.values.drop n }, status := 0 }

/-- What was found of the next option: its letter or a sign, what it takes, the complaint about
it, and where the reading goes on. -/
structure OptionFound where
  letter : Char
  argument : Option String := none
  complaint : Option String := none
  index : Nat
  offset : Option Nat := none
  atEnd : Bool := false

/-- The next option among some values; `letters` holds those that are known, with a colon behind
those that take something. -/
def nextOption (letters : List Char) (values : List String) (index : Nat) (offset : Option Nat) :
    OptionFound :=
  let quiet := letters.head? == some ':'
  let known := if quiet then letters.tail else letters
  let inWord : List Char := match offset with
    | some k => if index ≤ 1 then [] else (values[index - 2]?.getD "").toList.drop k
    | none => []
  let finish (index : Nat) : OptionFound := { letter := '?', index, atEnd := true }
  let found (word : List Char) (index : Nat) : OptionFound :=
    match word with
    | [] => finish index
    | c :: rest =>
      let offset : Option Nat :=
        some ((values[index - 2]?.getD "").length - rest.length)
      match known.dropWhile (· != c) with
      | [] =>
        if quiet then
          { letter := '?', argument := some (String.singleton c), index, offset }
        else
          { letter := '?', index, offset
            complaint := some ("Illegal option -" ++ String.singleton c ++ "\n") }
      | _ :: ':' :: _ =>
        if rest ≠ [] then { letter := c, argument := some (String.ofList rest), index }
        else
          match values[index - 1]? with
          | some value => { letter := c, argument := some value, index := index + 1 }
          | none =>
            if quiet then
              { letter := ':', argument := some (String.singleton c), index, offset }
            else
              { letter := '?', index, offset
                complaint := some ("No arg for -" ++ String.singleton c ++ " option\n") }
      | _ => { letter := c, argument := some "", index, offset }
  match inWord with
  | c :: rest => found (c :: rest) index
  | [] =>
    match (values[index - 1]?.getD "").toList with
    | ['-', '-'] => finish (index + 1)
    | '-' :: c :: rest => found (c :: rest) (index + 1)
    | _ => finish index

/-- Reads the next option among the parameters, or among further arguments, into a variable. -/
def getopts : Builtin := fun arguments s =>
  s.withOptions [] arguments fun _ _ operands =>
    match operands with
    | letters :: name :: more =>
      let values := if more.isEmpty then s.parameters.values else more
      let (index, offset) :=
        if values.length + 1 < s.parameters.index then (1, none)
        else (s.parameters.index, s.parameters.offset)
      let f := nextOption letters.toList values index offset
      let s := match f.complaint with
        | some text => s.tell 2 text
        | none => s
      let s := match f.argument with
        | some text => s.assign "OPTARG" text false
        | none => if f.atEnd then s else s.unset "OPTARG"
      let s := if s.isHalted then s else s.put "OPTIND" (toString f.index) false
      let s := if s.isHalted then s else s.assign name (String.singleton f.letter) false
      let s := { s with parameters :=
        { s.parameters with index := f.index, offset := f.offset } }
      s.leaveUnlessHalted (if f.atEnd then 1 else 0)
    | _ => s.fail "Usage: getopts optstring var [arg...]"

/-! ## Signals -/

/-- Sets what is done on signals and at the end, or lists that. -/
def trap : Builtin := fun arguments s =>
  s.withOptions [] arguments fun _ _ operands =>
    let act (action : Option String) (names : List String) : State :=
      names.foldl (fun s name =>
        if s.status ≠ 0 then s
        else
          match signal? name with
          | none => (s.tell 2 ("trap: " ++ name ++ ": bad trap\n")).leave 1
          | some n =>
            let others := s.traps.filter (·.1 != n)
            match action with
            | none | some "-" => { s with traps := others }
            | some text => { s with traps := (n, text) :: others }) (s.leave 0)
    match operands with
    | [] =>
      let traps := s.traps.mergeSort fun a b => decide (a.1 ≤ b.1)
      (traps.foldl (fun s t =>
        s.say ("trap -- " ++ singleQuotation t.2 ++ " " ++ (signalNames[t.1]?.getD "") ++ "\n"))
        s).leave 0
    | [name] => act none [name]
    | first :: names =>
      if (signalNumber? first).isSome then act none (first :: names) else act (some first) names

/-! ## Permissions -/

def octal (n : Nat) : String :=
  let ds := Nat.toDigits 8 n
  String.ofList (List.replicate (4 - ds.length) '0' ++ ds)

/-- The letters of the permissions in three bits. -/
def permissions (n : Nat) : String :=
  String.ofList ((if n / 4 % 2 = 1 then ['r'] else []) ++
    (if n / 2 % 2 = 1 then ['w'] else []) ++ (if n % 2 = 1 then ['x'] else []))

def permissionBits? : Char → Option Nat
  | 'r' => some 4
  | 'w' => some 2
  | 'x' | 'X' => some 1
  | 's' | 't' => some 0
  | _ => none

/-- The bits of one user class, at its place, for a letter of a class. -/
def classPlaces? : Char → Option (List Nat)
  | 'u' => some [64]
  | 'g' => some [8]
  | 'o' => some [1]
  | 'a' => some [64, 8, 1]
  | _ => none

def changedMode (places : List Nat) (operator : Char) (bits mode : Nat) : Nat :=
  places.foldl (fun mode place =>
    let old := mode / place % 8
    let new := match operator with
      | '+' => old ||| bits
      | '-' => old - (old &&& bits)
      | _ => bits
    mode - old * place + new * place) mode

/-- Carries out operators and letters of one element of a symbolic mode; `fuel` is its length. -/
def modeActions (places : List Nat) : Nat → List Char → Nat → Option Nat
  | 0, _, mode => some mode
  | _ + 1, [], mode => some mode
  | fuel + 1, operator :: rest, mode =>
    if !(['+', '-', '='].contains operator) then none
    else
      let letters := rest.takeWhile fun c => !(['+', '-', '='].contains c)
      let value : Option Nat := match letters with
        | ['u'] => some (mode / 64 % 8)
        | ['g'] => some (mode / 8 % 8)
        | ['o'] => some (mode % 8)
        | letters => (letters.mapM permissionBits?).map fun bits => bits.foldl (· ||| ·) 0
      value.bind fun bits =>
        modeActions places fuel (rest.drop letters.length) (changedMode places operator bits mode)

def symbolicMode (text : List Char) (mode : Nat) : Option Nat :=
  (Text.splitChar ',' text).foldl (fun mode element =>
    mode.bind fun mode =>
      let classes := element.takeWhile fun c => (classPlaces? c).isSome
      let places := classes.flatMap fun c => (classPlaces? c).getD []
      let actions := element.drop classes.length
      if actions = [] then none
      else modeActions (if places = [] then [64, 8, 1] else places) actions.length actions mode)
    (some mode)

/-- Shows or sets the permissions that new files lack. -/
def umask : Builtin := fun arguments s =>
  s.withOptions [{ letter := 'S' }] arguments fun letters _ operands =>
    let allowed := 511 - s.mask
    match operands with
    | [] =>
      (s.say (if letters = [] then octal s.mask ++ "\n"
        else "u=" ++ permissions (allowed / 64 % 8) ++ ",g=" ++ permissions (allowed / 8 % 8) ++
          ",o=" ++ permissions (allowed % 8) ++ "\n")).leave 0
    | text :: _ =>
      if text.toList.head?.any Char.isDigit then
        if text.toList.any fun c => c < '0' || '7' < c then s.badNumber text
        else { s with mask := (Numeral.digits 8 text.length 0 text.toList).1 % 512, status := 0 }
      else
        match symbolicMode text.toList allowed with
        | some mode => { s with mask := 511 - mode % 512, status := 0 }
        | none => s.fail ("Illegal mode: " ++ text)

/-- The limits of resources: letter, name and value where nothing was set. -/
def limits : List (Char × String × String) :=
  [('t', "time(seconds)", "unlimited"), ('f', "file(blocks)", "unlimited"),
    ('d', "data(kbytes)", "unlimited"), ('s', "stack(kbytes)", "8192"),
    ('c', "coredump(blocks)", "0"), ('m', "memory(kbytes)", "unlimited"),
    ('l', "locked memory(kbytes)", "8192"), ('p', "process", "unlimited"),
    ('n', "nofiles", "1024"), ('v', "vmemory(kbytes)", "unlimited"),
    ('w', "locks", "unlimited"), ('r', "rtprio", "0")]

/-- Shows the limits of resources; setting them changes nothing. -/
def ulimit : Builtin := fun arguments s =>
  let known : List Letter := ['H', 'S', 'a'].map (fun c => { letter := c }) ++
    limits.map fun l => { letter := l.1 }
  s.withOptions known arguments fun letters _ operands =>
    if letters.contains 'a' ∧ operands = [] then
      (limits.foldl (fun s l =>
        let gap := String.ofList (List.replicate (20 - l.2.1.length) ' ')
        s.say (l.2.1 ++ gap ++ " " ++ l.2.2 ++ "\n")) s).leave 0
    else
      match operands with
      | [] =>
        let letter := (letters.filter fun c => c != 'H' && c != 'S').getLast?.getD 'f'
        (s.say (((limits.lookup letter).map (·.2)).getD "" ++ "\n")).leave 0
      | [value] =>
        if value = "unlimited" ∨ (value ≠ "" ∧ value.toList.all Char.isDigit) then s.leave 0
        else s.fail "bad number"
      | _ => s.fail "too many arguments"

end BuildTool.Shell.Builtin
