import BuildTool.Process.Formatted
import BuildTool.Process.Options
import BuildTool.Process.Outcome

/-!
# The simple tools

The programs that only print: arguments, the environment and the contents of files. Complaints
go to standard error in the words of each tool.
-/

namespace BuildTool

namespace Tool

/-! ## Arguments -/

/-- The escape after a backslash that `echo` carries out: those of arguments of formatted
printing, but without a quotation mark and numbered characters. -/
def echoEscape (text : List Char) : Formatted.Escaped × List Char :=
  match text with
  | c :: rest =>
    if c = '"' ∨ c = 'u' ∨ c = 'U' then (.bytes (Text.octetBytes ['\\', c]), rest)
    else if c = 'x' ∧ (rest.head?.bind (Numeral.digit? 16)).isNone then
      (.bytes (Text.octetBytes ['\\', c]), rest)
    else Formatted.argumentEscape .program text
  | [] => (.bytes [92], [])

theorem length_echoEscape_le (text : List Char) :
    (echoEscape text).2.length ≤ text.length := by
  unfold echoEscape
  split
  · split
    · simp
    · split
      · simp
      · exact Formatted.length_argumentEscape_le .program _
  · simp

/-- Prints the arguments, after `-n` without the line end and after `-e` with escapes. -/
def runEcho (i : Invocation) (s : System) : Ended :=
  let isOption (a : String) : Bool :=
    match a.toList with
    | '-' :: c :: cs => (c :: cs).all fun c => c == 'n' || c == 'e' || c == 'E'
    | _ => false
  let options := i.arguments.takeWhile isOption
  let flags := options.flatMap fun o => o.toList.drop 1
  let escapes := (flags.filter (· != 'n')).getLast? == some 'e'
  let text := (Text.octets (" ".intercalate (i.arguments.dropWhile isOption))).toList
  let (body, ended) :=
    if escapes then Formatted.unescaped echoEscape length_echoEscape_le text
    else (Text.octetBytes text, none)
  let lineEnd : List UInt8 := if flags.contains 'n' || ended.isSome then [] else [10]
  i.finish ⟨(body ++ lineEnd).toArray⟩ 0 1 s

/-- Prints its arguments as the format says. -/
def runPrintf (i : Invocation) (s : System) : Ended :=
  let arguments := match i.arguments with
    | "--" :: rest => rest
    | arguments => arguments
  match arguments with
  | [] => i.refuse "missing operand" 1 s
  | format :: rest =>
    let p := Formatted.print .program (Text.octets format) (rest.map Text.octets)
    let complaints := (p.complaints ++ p.fault.toList).map Text.fromOctets
    let s := complaints.foldl (fun s c => i.complain c s) s
    i.finish p.bytes (if p.failed || p.fault.isSome then 1 else 0) 1 s

/-! ## The environment -/

def quoted (text : String) : String :=
  String.ofList (Text.messageQuotation (Text.octets text).toList)

/-- The name of a file as messages show it, in quotation marks only where it needs some. -/
def fileName (name : String) : String :=
  Text.fromOctets (String.ofList (Text.shellWordInMessage (Text.octets name).toList))

def printenvOptions : OptionTable where
  letters := [('0', .nothing)]
  words := [("null", .nothing, "0"), ("help", .nothing, "help"), ("version", .nothing, "version")]
  mixed := false

/-- The lines of the environment, each with an end. -/
def environmentLines (lineEnd : String) (environment : List (String × String)) : String :=
  String.join (environment.map fun p => p.1 ++ "=" ++ p.2 ++ lineEnd)

/-- Prints the values of the named environment entries, or all entries. -/
def runPrintenv (i : Invocation) (s : System) : Ended :=
  let r := printenvOptions.read i.arguments
  match r.fault with
  | some text => i.refuse text 2 s
  | none =>
    let lineEnd := if hasOption r.given "0" then "\x00" else "\n"
    match r.operands with
    | [] => i.finish (environmentLines lineEnd i.environment).toUTF8 0 2 s
    | names =>
      let values := names.filterMap fun n =>
        if n.toList.contains '=' then none else i.environment.lookup n
      i.finish (String.join (values.map (· ++ lineEnd))).toUTF8
        (if values.length = names.length then 0 else 1) 2 s

/-! ## Files -/

def catOptions : OptionTable where
  letters := ['b', 'e', 'n', 's', 't', 'u', 'v', 'A', 'E', 'T'].map fun c => (c, .nothing)
  words := [("number-nonblank", .nothing, "b"), ("number", .nothing, "n"),
    ("squeeze-blank", .nothing, "s"), ("show-nonprinting", .nothing, "v"),
    ("show-ends", .nothing, "E"), ("show-tabs", .nothing, "T"), ("show-all", .nothing, "A"),
    ("help", .nothing, "help"), ("version", .nothing, "version")]

/-- How `cat` shows what it prints. -/
structure Display where
  numbers : Bool
  skipsBlank : Bool
  ends : Bool
  tabs : Bool
  controls : Bool
  squeezes : Bool

/-- What the options of `cat` ask for. -/
def Display.ofOptions (options : List GivenOption) : Display :=
  let has (names : List String) : Bool := names.any (hasOption options)
  { numbers := has ["n", "b"]
    skipsBlank := has ["b"]
    ends := has ["e", "E", "A"]
    tabs := has ["t", "T", "A"]
    controls := has ["e", "t", "v", "A"]
    squeezes := has ["s"] }

/-- Where `cat` stands between two bytes: the number of the last line, whether a line has
begun, and how many empty lines came before. -/
structure LineState where
  number : Nat := 0
  begun : Bool := false
  blank : Nat := 0

def lineNumber (n : Nat) : List UInt8 :=
  let ds := toString n
  List.replicate (6 - ds.length) 32 ++ ds.toUTF8.toList ++ [9]

/-- A byte as `cat` shows it, with marks for what cannot be printed. -/
def Display.shown (d : Display) (b : UInt8) : List UInt8 :=
  let low (b : UInt8) : List UInt8 :=
    if b < 32 then [94, b + 64] else if b = 127 then [94, 63] else [b]
  if b = 9 then if d.tabs then [94, 73] else [9]
  else if !d.controls then [b]
  else if b < 128 then low b
  else [77, 45] ++ low (b - 128)

/-- The bytes of a file as `cat` shows them, last first. -/
def Display.render (d : Display) : List UInt8 → LineState → List UInt8 → List UInt8 × LineState
  | [], l, done => (done, l)
  | b :: rest, l, done =>
    if b = 10 then
      let ending : List UInt8 := if d.ends then [10, 36] else [10]
      if l.begun then d.render rest { l with begun := false, blank := 0 } (ending ++ done)
      else if d.squeezes ∧ 1 ≤ l.blank then d.render rest l done
      else if d.numbers ∧ !d.skipsBlank then
        d.render rest { l with number := l.number + 1, blank := l.blank + 1 }
          (ending ++ (lineNumber (l.number + 1)).reverse ++ done)
      else d.render rest { l with blank := l.blank + 1 } (ending ++ done)
    else
      let l' := if !l.begun ∧ d.numbers then { l with number := l.number + 1 } else l
      let start := if !l.begun ∧ d.numbers then (lineNumber l'.number).reverse else []
      let byte := if b = 13 ∧ d.ends ∧ rest.head? = some 10 then [94, 77] else d.shown b
      d.render rest { l' with begun := true, blank := 0 } (byte.reverse ++ start ++ done)

def Display.isPlain (d : Display) : Bool :=
  !(d.numbers || d.ends || d.tabs || d.controls || d.squeezes)

/-- Prints the contents of files one after the other, of the input for `-` and without
arguments. -/
def runCat (i : Invocation) (s : System) : Ended :=
  let r := catOptions.read i.arguments
  match r.fault with
  | some text => i.refuse text 1 s
  | none =>
    let d := Display.ofOptions r.given
    let names := if r.operands.isEmpty then ["-"] else r.operands
    match s.openFile? i.streams 1 with
    | none => (.code 1, i.complain ("standard output: " ++ Fault.badDescriptor.text) s)
    | some (_, out) =>
      let isOutput (loc : Location) : Bool := match out.channel with
        | .file l => l == loc
        | _ => false
      let content (name : String) (s : System) : Except String (ByteArray × System) :=
        if name = "-" then
          match s.readAll i.streams 0 with
          | .error f => .error f.text
          | .ok (bytes, after) =>
            match s.openFile? i.streams 0 with
            | some (_, { channel := .file loc, .. }) =>
              if isOutput loc ∧ bytes.size > 0 then .error "input file is output file"
              else .ok (bytes, after)
            | _ => .ok (bytes, after)
        else
          match s.disk.stat name with
          | .error f => .error f.text
          | .ok (_, .directory _) => .error Fault.isDirectory.text
          | .ok (loc, .file bytes ..) =>
            if isOutput loc ∧ bytes.size > 0 then .error "input file is output file"
            else .ok (bytes, s)
          | .ok _ => .ok (ByteArray.empty, s)
      let (s, _, code) := names.foldl (fun (s, l, code) name =>
        match content name s with
        | .error text => (i.complain (fileName name ++ ": " ++ text) s, l, 1)
        | .ok (bytes, s) =>
          if d.isPlain then (s.tell i.streams 1 bytes, l, code)
          else
            let (shown, l) := d.render bytes.toList l []
            (s.tell i.streams 1 ⟨shown.reverse.toArray⟩, l, code)) (s, ({} : LineState), 0)
      if names.contains "-" ∧ (s.openFile? i.streams 0).isNone then
        (.code 1, i.complain ("closing standard input: " ++ Fault.badDescriptor.text) s)
      else (.code code, s)

end Tool

end BuildTool
