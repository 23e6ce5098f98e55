import BuildTool.Calendar.Zone
import BuildTool.Process.Order
import BuildTool.Process.Tools
import BuildTool.Shell.Pattern

/-!
# Listing directories

`ls` prints the names that its arguments lead to and what directories hold, sorted, one on a
line or in columns, with as much about each as its options ask for. All files belong to the
first user, and only the owner may write to them.
-/

namespace BuildTool.DirectoryList

inductive Arrangement
  | lines
  | columns
  | rows
  | commas
  | long
  deriving DecidableEq

inductive SortKey
  | name
  | time
  | size
  | ending
  | version
  | width
  | unsorted
  deriving DecidableEq

/-- How unusual characters in names are shown. -/
inductive Quoting
  | literal
  | escapes
  | strings
  | neededStrings
  | message
  | shell (always escaping : Bool)
  deriving DecidableEq

/-- What follows a name to show what it is. -/
inductive Indicators
  | none
  | slashes
  | types
  | all
  deriving DecidableEq

structure Style where
  arrangement : Arrangement := .lines
  sort : SortKey := .name
  reversed : Bool := false
  all : Bool := false
  almostAll : Bool := false
  ignored : List (List Shell.PatternItem) := []
  hidden : List (List Shell.PatternItem) := []
  directoriesThemselves : Bool := false
  directoriesFirst : Bool := false
  recursive : Bool := false
  quoting : Quoting := .literal
  hides : Bool := false
  indicators : Indicators := .none
  owner : Bool := true
  group : Bool := true
  numeric : Bool := false
  sizes : Bool := false
  human : Option Nat := none
  width : Nat := 80
  tab : Nat := 8
  follows : Bool := false
  followsArguments : Bool := false
  lineEnd : String := "\n"
  now : Time := 0
  begun : Time := 0

/-- A name with what it stands for. The name and the target of a link are octet texts. -/
structure Listed where
  name : String
  entry : Entry
  target : Option (String × Option Entry) := none

/-- The name stands for a directory or a link to one. -/
def Listed.leadsToDirectory (l : Listed) : Bool :=
  l.entry.isDirectory || match l.target with
    | some (_, some e) => e.isDirectory
    | _ => false

/-! ## Options -/

def options : OptionTable where
  letters := "abcdfghiklmnopqrstuvxABCDFGHLNQRSUXZ1".toList.map (fun c => (c, Takes.nothing)) ++
    [('w', .value), ('I', .value), ('T', .value)]
  words := [("all", .nothing, "a"), ("escape", .nothing, "b"), ("directory", .nothing, "d"),
    ("dired", .nothing, "D"), ("full-time", .nothing, "full-time"),
    ("group-directories-first", .nothing, "group-directories-first"),
    ("human-readable", .nothing, "h"), ("inode", .nothing, "i"), ("kibibytes", .nothing, "k"),
    ("numeric-uid-gid", .nothing, "n"), ("no-group", .nothing, "G"),
    ("hide-control-chars", .nothing, "q"), ("reverse", .nothing, "r"),
    ("size", .nothing, "s"), ("width", .value, "w"), ("almost-all", .nothing, "A"),
    ("ignore-backups", .nothing, "B"), ("classify", .maybe, "classify"),
    ("file-type", .nothing, "file-type"), ("si", .nothing, "si"),
    ("dereference-command-line", .nothing, "H"),
    ("dereference-command-line-symlink-to-dir", .nothing, "links-to-directories"),
    ("hide", .value, "hide"), ("ignore", .value, "I"),
    ("indicator-style", .value, "indicator-style"), ("dereference", .nothing, "L"),
    ("literal", .nothing, "N"), ("quote-name", .nothing, "Q"),
    ("quoting-style", .value, "quoting-style"), ("recursive", .nothing, "R"),
    ("format", .value, "format"), ("show-control-chars", .nothing, "show-control-chars"),
    ("sort", .value, "sort"), ("tabsize", .value, "T"), ("time", .value, "time"),
    ("time-style", .value, "time-style"), ("zero", .nothing, "zero"),
    ("color", .maybe, "color"), ("hyperlink", .maybe, "hyperlink"),
    ("block-size", .value, "block-size"), ("context", .nothing, "Z"),
    ("author", .nothing, "author"), ("help", .nothing, "help"),
    ("version", .nothing, "version")]

/-- The words that an option takes, in groups that mean the same. -/
def optionWords : List (String × List (List String)) :=
  [("sort", [["none"], ["time"], ["size"], ["extension"], ["version"], ["width"]]),
    ("format", [["verbose", "long"], ["commas"], ["horizontal", "across"], ["vertical"],
      ["single-column"]]),
    ("indicator-style", [["none"], ["slash"], ["file-type"], ["classify"]]),
    ("quoting-style", [["literal"], ["shell"], ["shell-always"], ["shell-escape"],
      ["shell-escape-always"], ["c"], ["c-maybe"], ["escape"], ["locale"], ["clocale"]]),
    ("time", [["atime", "access", "use"], ["ctime", "status"], ["mtime", "modification"],
      ["birth", "creation"]]),
    ("color", whens), ("hyperlink", whens), ("classify", whens)]
  where
    /-- The words for when something is done. -/
    whens : List (List String) :=
      [["always", "yes", "force"], ["never", "no", "none"], ["auto", "tty", "if-tty"]]

/-- A call that cannot be carried out: what is wrong, the status, and whether help is offered. -/
structure Refusal where
  text : String
  code : Nat := 2
  offersHelp : Bool := true

/-- The word that the value of an option is or is short for; else the complaint. -/
def optionWord (option value : String) : Except Refusal String :=
  let groups := (optionWords.lookup option).getD []
  let fits (word : String) : Bool := (Text.dropStart? value.toList word.toList).isSome
  let complaint (kind : String) : Refusal :=
    { text := kind ++ " argument " ++ Tool.quoted value ++ " for '--" ++ option ++
        "'\nValid arguments are:" ++
        String.join (groups.map fun g => "\n  - " ++ ", ".intercalate (g.map Tool.quoted))
      code := 1 }
  match groups.find? fun g => g.contains value with
  | some g => .ok (g.headD "")
  | none =>
    match groups.filter fun g => g.any fits with
    | [g] => .ok (g.headD "")
    | [] => .error (complaint "invalid")
    | _ => .error (complaint "ambiguous")

def patternOf (value : Option String) : List Shell.PatternItem :=
  Shell.pattern (Shell.unquoted (Text.octets (value.getD "")).toList)

def sizeValue (name value : String) : Except Refusal Nat :=
  let found := Numeral.unsignedWord Numeral.whole? value.toList
  let text := "invalid " ++ name ++ ": " ++ Tool.quoted value
  if found.rest ≠ [] ∨ value = "" ∨ value.toList.contains '-' then
    .error { text, offersHelp := false }
  else if found.value < wordLimit / 2 then .ok found.value
  else
    .error { text := text ++ ": Value too large for defined data type", offersHelp := false }

/-- The width that the value of an option is. Too great a width is no limit. -/
def widthValue (value : String) : Except Refusal Nat :=
  if (Numeral.unsignedWord Numeral.whole? value.toList).value < wordLimit / 2 then
    sizeValue "line width" value
  else .ok 0

def Style.take (s : Style) : GivenOption → Except Refusal Style
  | ("a", _) => .ok { s with all := true }
  | ("A", _) => .ok { s with almostAll := true }
  | ("b", _) => .ok { s with quoting := .escapes }
  | ("B", _) => .ok { s with
      ignored := patternOf (some "*~") :: patternOf (some ".*~") :: s.ignored }
  | ("C", _) => .ok { s with arrangement := .columns }
  | ("d", _) => .ok { s with directoriesThemselves := true }
  | ("f", _) => .ok { s with all := true, sort := .unsorted }
  | ("F", _) => .ok { s with indicators := .all }
  | ("g", _) => .ok { s with arrangement := .long, owner := false }
  | ("G", _) => .ok { s with group := false }
  | ("h", _) => .ok { s with human := some 1024 }
  | ("si", _) => .ok { s with human := some 1000 }
  | ("H", _) => .ok { s with followsArguments := true }
  | ("I", value) => .ok { s with ignored := patternOf value :: s.ignored }
  | ("hide", value) => .ok { s with hidden := patternOf value :: s.hidden }
  | ("l", _) => .ok { s with arrangement := .long }
  | ("L", _) => .ok { s with follows := true }
  | ("m", _) => .ok { s with arrangement := .commas }
  | ("n", _) => .ok { s with arrangement := .long, numeric := true }
  | ("N", _) => .ok { s with quoting := .literal }
  | ("o", _) => .ok { s with arrangement := .long, group := false }
  | ("p", _) => .ok { s with indicators := .slashes }
  | ("q", _) => .ok { s with hides := true }
  | ("show-control-chars", _) => .ok { s with hides := false }
  | ("Q", _) => .ok { s with quoting := .strings }
  | ("r", _) => .ok { s with reversed := true }
  | ("R", _) => .ok { s with recursive := true }
  | ("s", _) => .ok { s with sizes := true }
  | ("S", _) => .ok { s with sort := .size }
  | ("t", _) => .ok { s with sort := .time }
  | ("U", _) => .ok { s with sort := .unsorted }
  | ("v", _) => .ok { s with sort := .version }
  | ("x", _) => .ok { s with arrangement := .rows }
  | ("X", _) => .ok { s with sort := .ending }
  | ("1", _) =>
    .ok (if s.arrangement = .long then s else { s with arrangement := .lines })
  | ("zero", _) => .ok { s with
      lineEnd := "\x00"
      quoting := .literal
      hides := false
      arrangement := if s.arrangement = .long then .long else .lines }
  | ("group-directories-first", _) => .ok { s with directoriesFirst := true }
  | ("file-type", _) => .ok { s with indicators := .types }
  | ("w", value) => do return { s with width := ← widthValue (value.getD "") }
  | ("T", value) => do return { s with tab := ← sizeValue "tab size" (value.getD "") }
  | ("sort", value) => do
    let sort := match ← optionWord "sort" (value.getD "") with
      | "none" => .unsorted
      | "time" => .time
      | "size" => .size
      | "extension" => .ending
      | "version" => .version
      | _ => SortKey.width
    return { s with sort }
  | ("format", value) => do
    let arrangement := match ← optionWord "format" (value.getD "") with
      | "verbose" => .long
      | "commas" => .commas
      | "horizontal" => .rows
      | "vertical" => .columns
      | _ => Arrangement.lines
    return { s with arrangement }
  | ("indicator-style", value) => do
    let indicators := match ← optionWord "indicator-style" (value.getD "") with
      | "slash" => .slashes
      | "file-type" => .types
      | "classify" => .all
      | _ => Indicators.none
    return { s with indicators }
  | ("quoting-style", value) => do
    let quoting := match ← optionWord "quoting-style" (value.getD "") with
      | "shell" => .shell false false
      | "shell-always" => .shell true false
      | "shell-escape" => .shell false true
      | "shell-escape-always" => .shell true true
      | "c" | "clocale" => .strings
      | "c-maybe" => .neededStrings
      | "locale" => .message
      | "escape" => .escapes
      | _ => Quoting.literal
    return { s with quoting }
  | ("classify", some value) => do
    let word ← optionWord "classify" value
    return if word = "always" then { s with indicators := .all } else s
  | ("classify", none) => .ok { s with indicators := .all }
  | ("time", some value) => (optionWord "time" value).map fun _ => s
  | ("color", some value) => (optionWord "color" value).map fun _ => s
  | ("hyperlink", some value) => (optionWord "hyperlink" value).map fun _ => s
  | _ => .ok s

def Style.ofOptions (given : List GivenOption) : Except Refusal Style :=
  given.foldlM Style.take {}

/-! ## Names -/

def escaped (special : List Char) (c : Char) : List Char :=
  if special.contains c then ['\\', c]
  else if Text.isEscapedInShell c then Text.shellEscape c
  else [c]

/-- A name as a style quotes it. Both are octet texts. -/
def Style.quoted (s : Style) (name : String) : List Char :=
  let text := name.toList
  match s.quoting with
  | .literal => text
  | .escapes => text.flatMap (escaped ['\\', ' '])
  | .strings => string text
  | .neededStrings =>
    if text.any fun c => c == '"' || Text.isEscapedInShell c then string text else text
  | .message => Text.messageQuotation text
  | .shell always escaping =>
    if escaping then if always then Text.shellQuotation text else Text.shellWord text
    else if always then Text.rawShellQuotation text else Text.rawShellWord text
  where
    /-- The text as a string. -/
    string (text : List Char) : List Char :=
      '"' :: text.flatMap (escaped ['\\', '"']) ++ ['"']

/-- A name as a style shows it, perhaps with question marks for what cannot be printed. -/
def Style.quote (s : Style) (name : String) : List Char :=
  (s.quoted name).map fun c => if s.hides ∧ Text.isEscapedInShell c then '?' else c

/-- Names without quotation marks get a blank in front where some have them. -/
def Style.aligns (s : Style) : Bool :=
  (s.arrangement == .long ||
    ((s.arrangement == .columns || s.arrangement == .rows) && s.width != 0)) &&
  (s.quoting == .neededStrings || s.quoting == .shell false true || s.quoting == .shell false false)

/-- How names are shown: each as the style quotes it, with a blank where that is needed to align
it with the others. -/
def Style.quoteAmong (s : Style) (names : List Listed) (name : String) : List Char :=
  let changes (name : String) : Bool := s.quoted name != name.toList
  if s.aligns ∧ !changes name ∧ names.any (fun l => changes l.name) then ' ' :: s.quote name
  else s.quote name

/-- The width of a text: characters that cannot be printed have none. -/
def displayWidth (text : List Char) : Nat := text.countP (!Text.isEscapedInShell ·)

def Style.indicator (s : Style) (e : Entry) : List Char :=
  match s.indicators, e with
  | .none, _ => []
  | _, .directory _ => ['/']
  | .slashes, _ => []
  | _, .link _ => ['@']
  | .all, .file _ _ true | .all, .tool _ => ['*']
  | _, _ => []

def sizeOf : Entry → Nat
  | .file content .. => content.size
  | .directory _ => 4096
  | .link target => target.length
  | _ => 0

/-- The blocks of an entry on the disk, in units of 1024 bytes. -/
def blocksOf : Entry → Nat
  | .file content .. => (content.size + 4095) / 4096 * 4
  | .directory _ => 4
  | _ => 0

/-- A size in few digits with the letter of its unit, rounded up; sizes below ten units have one
place. -/
def humanSize (base : Nat) (letters : List Char) (n divisor : Nat) : String :=
  match letters with
  | [] => toString n
  | letter :: more =>
    let tenths := (10 * n + divisor - 1) / divisor
    if tenths < 100 then
      toString (tenths / 10) ++ "." ++ toString (tenths % 10) ++ String.singleton letter
    else
      let units := (n + divisor - 1) / divisor
      if units < base ∨ more.isEmpty then toString units ++ String.singleton letter
      else humanSize base more n (divisor * base)

def Style.sizeText (s : Style) (n : Nat) : String :=
  match s.human with
  | none => toString n
  | some base =>
    if n < base then toString n
    else humanSize base (if base = 1024 then "KMGTPE".toList else "kMGTPE".toList) n base

def Style.blocksText (s : Style) (n : Nat) : String :=
  if s.human.isSome then s.sizeText (n * 1024) else toString n

def right (width : Nat) (text : String) : String :=
  String.ofList (List.replicate (width - text.length) ' ') ++ text

def widest (texts : List String) : Nat := texts.foldl (fun n t => max n t.length) 0

/-- A name as it is shown among others, with its mark and, where the style shows them, the blocks
in front. -/
def Style.shown (s : Style) (names : List Listed) (blocksWidth : Nat) (l : Listed) : List Char :=
  let blocks :=
    if s.sizes then (right blocksWidth (s.blocksText (blocksOf l.entry)) ++ " ").toList else []
  blocks ++ s.quoteAmong names l.name ++ s.indicator l.entry

/-! ## Sorting -/

/-- The time of an entry. Links are as old as the tree. -/
def Style.timeOf (s : Style) : Entry → Time
  | .link _ => s.begun
  | e => e.modified

def Style.compareListed (s : Style) (a b : Listed) : Ordering :=
  let byName := compare a.name b.name
  let order := match s.sort with
    | .name => byName
    | .time => (compare (s.timeOf b.entry) (s.timeOf a.entry)).then byName
    | .size => (compare (sizeOf b.entry) (sizeOf a.entry)).then byName
    | .ending => NameOrder.compareByEnding a.name b.name
    | .version => NameOrder.compareByVersion a.name b.name
    | .width =>
      (compare (displayWidth (s.quote a.name)) (displayWidth (s.quote b.name))).then byName
    | .unsorted => .eq
  let order := if s.reversed ∧ s.sort ≠ .unsorted then order.swap else order
  if s.directoriesFirst then
    (compare (!a.leadsToDirectory) (!b.leadsToDirectory)).then order
  else order

def Style.sorted (s : Style) (names : List Listed) : List Listed :=
  names.mergeSort fun a b => (s.compareListed a b).isLE

/-! ## Arrangements -/

/-- Goes from one column to another, by tabs where they help. `fuel` bounds the distance. -/
def indent (tab : Nat) : Nat → Nat → Nat → List Char
  | 0, _, _ => []
  | fuel + 1, at_, goal =>
    if goal ≤ at_ then []
    else if tab ≠ 0 ∧ (at_ + 1) / tab < goal / tab then
      '\t' :: indent tab fuel (at_ + (tab - at_ % tab)) goal
    else ' ' :: indent tab fuel (at_ + 1) goal

def columnWidths (byColumns : Bool) (lengths : List Nat) (count : Nat) : List Nat :=
  let rows := (lengths.length + count - 1) / count
  let column (i : Nat) : Nat := if byColumns then i / rows else i % count
  (List.range count).map fun c =>
    (lengths.zipIdx).foldl (fun width (length, i) =>
      if column i = c then max width (length + if c + 1 = count then 0 else 2) else width) 3

def total (widths : List Nat) : Nat := widths.foldl (· + ·) 0

/-- The most columns whose widths stay below the width of a line. -/
def columnCount (byColumns : Bool) (width : Nat) (lengths : List Nat) : Nat :=
  let most := width / 3 + if width % 3 = 0 then 0 else 1
  let most := if most = 0 then lengths.length else min most lengths.length
  let fits (count : Nat) : Bool :=
    width = 0 || total (columnWidths byColumns lengths count) < width
  (((List.range most).map (· + 1)).filter fits).getLast?.getD 1

/-- One row of names in columns. -/
def rowText (tab : Nat) : Nat → List (List Char × Nat) → List Char
  | _, [] => []
  | _, [(name, _)] => name
  | position, (name, width) :: rest =>
    name ++ indent tab (width + 1) (position + displayWidth name) (position + width) ++
      rowText tab (position + width) rest

/-- The rows of names in columns, filled column by column or row by row. -/
def rowsOf (byColumns : Bool) (width tab : Nat) (names : List (List Char)) : List (List Char) :=
  let lengths := names.map displayWidth
  let count := columnCount byColumns width lengths
  let widths := columnWidths byColumns lengths count
  let rows := (names.length + count - 1) / count
  (List.range rows).map fun r =>
    rowText tab 0 ((widths.zipIdx).filterMap fun (w, c) =>
      (names[if byColumns then c * rows + r else r * count + c]?).bind fun name =>
        if byColumns ∨ c < count then some (name, w) else none)

/-- Names with commas between them, in lines below a width. -/
def withCommas (lineEnd : List Char) (width : Nat) : Nat → List (List Char) → List Char
  | _, [] => []
  | position, [name] => separated position name ++ name
  | position, name :: rest =>
    separated position name ++ name ++ ',' :: withCommas lineEnd width (next position name) rest
  where
    /-- A name fits behind what stands on its line. -/
    fits (position : Nat) (name : List Char) : Bool :=
      width = 0 || position + displayWidth name + 2 < width
    /-- What stands before a name: a blank or a line end. -/
    separated (position : Nat) (name : List Char) : List Char :=
      if position = 0 then [] else if fits position name then [' '] else lineEnd
    /-- The position after a name. -/
    next (position : Nat) (name : List Char) : Nat :=
      if position ≠ 0 ∧ fits position name then position + 2 + displayWidth name
      else displayWidth name

def modeText : Entry → String
  | .file _ _ true => "-rwxr-xr-x"
  | .file .. => "-rw-r--r--"
  | .directory _ => "drwxr-xr-x"
  | .link _ => "lrwxrwxrwx"
  | .tool _ => "-rwxr-xr-x"
  | .nullDevice => "crw-rw-rw-"

/-- Half a year, in nanoseconds: the times of older and of later files are shown with the
year. -/
def recentTime : Time := 15778476 * 1000000000

/-- The time of an entry in a long line. -/
def timeText (now : Time) (time : Time) : String :=
  let m := Calendar.Moment.ofTime time
  let d := m.date
  let day := right 2 (toString d.day)
  let start := Calendar.short (Calendar.monthName d.month) ++ " " ++ day ++ " "
  if now - recentTime < time ∧ time ≤ now then
    start ++ Calendar.twoDigits m.hour ++ ":" ++ Calendar.twoDigits m.minute
  else start ++ right 5 (toString d.year)

/-- The lines of a long listing; `links` counts the names of an entry. -/
def Style.longLines (s : Style) (links : Listed → Nat) (names : List Listed) :
    List (List Char) :=
  let blocksWidth := widest (names.map fun l => s.blocksText (blocksOf l.entry))
  let linksWidth := widest (names.map fun l => toString (links l))
  let sizeWidth := widest (names.map fun l => s.sizeText (sizeOf l.entry))
  let who := if s.numeric then "0" else "root"
  names.map fun l =>
    let start :=
      (if s.sizes then right blocksWidth (s.blocksText (blocksOf l.entry)) ++ " " else "") ++
        modeText l.entry ++ " " ++ right linksWidth (toString (links l)) ++ " " ++
        (if s.owner then who ++ " " else "") ++ (if s.group then who ++ " " else "") ++
        right sizeWidth (s.sizeText (sizeOf l.entry)) ++ " " ++
        timeText s.now (s.timeOf l.entry) ++ " "
    let stop := match l.target with
      | some (target, e) => " -> ".toList ++ s.quote target ++ ((e.map s.indicator).getD [])
      | none => s.indicator l.entry
    start.toList ++ s.quoteAmong names l.name ++ stop

/-- Names as a style arranges them, as an octet text. -/
def Style.arrange (s : Style) (links : Listed → Nat) (names : List Listed) :
    List Char :=
  let blocksWidth := widest (names.map fun l => s.blocksText (blocksOf l.entry))
  let shown := names.map (s.shown names blocksWidth)
  let lines (ls : List (List Char)) : List Char := ls.flatMap (· ++ s.lineEnd.toList)
  if names.isEmpty then []
  else
    match s.arrangement with
    | .lines => lines shown
    | .columns | .rows =>
      if s.width = 0 then [' ', ' '].intercalate shown ++ s.lineEnd.toList
      else lines (rowsOf (s.arrangement == .columns) s.width s.tab shown)
    | .commas => withCommas s.lineEnd.toList s.width 0 shown ++ s.lineEnd.toList
    | .long => lines (s.longLines links names)

/-! ## Directories -/

def Style.listed (s : Style) (disk : Disk) (path name : String) (entry : Entry) : Listed :=
  match entry with
  | .link target =>
    let followed := (disk.tree.stat disk.work path).toOption.map (·.2)
    if s.follows then { name, entry := followed.getD entry }
    else { name, entry, target := some (target, followed) }
  | entry => { name, entry }

def Style.lists (s : Style) (name : String) : Bool :=
  let hits (patterns : List (List Shell.PatternItem)) : Bool :=
    patterns.any fun p => Shell.matchesPattern p name.toList
  (s.all || s.almostAll || !name.startsWith ".") &&
    !(!s.all && !s.almostAll && hits s.hidden) && !hits s.ignored

/-- What a directory holds, as far as it is listed, sorted. -/
def Style.contents (s : Style) (disk : Disk) (path : String) (loc : Location) : List Listed :=
  let entries := (disk.tree.names loc).filterMap fun name =>
    (disk.tree.get? (loc ++ [name])).map fun e => s.listed disk (path ++ "/" ++ name) name e
  let parents := ([(".", loc), ("..", loc.dropLast)]).filterMap fun (name, l) =>
    (disk.tree.get? l).map fun e => { name, entry := e : Listed }
  let everything := if s.all then parents ++ entries else entries
  s.sorted (everything.filter fun l => s.lists l.name || (s.all && l.name.startsWith "."))

/-- How many names an entry has: a directory one in each directory below it. -/
def linksOf (disk : Disk) (loc : Location) (name : String) (e : Entry) : Nat :=
  if e.isDirectory then
    let below := if name = "." then loc else if name = ".." then loc.dropLast else loc ++ [name]
    2 + ((disk.tree.names below).filter fun n => disk.tree.isDirectory (below ++ [n])).length
  else 1

/-- The blocks that a listing of a directory with sizes begins with. -/
def Style.totalLine (s : Style) (names : List Listed) : List Char :=
  if s.arrangement = .long ∨ s.sizes then
    ("total " ++ s.blocksText (total (names.map fun l => blocksOf l.entry)) ++
      s.lineEnd).toList
  else []

/-- The listings of a directory and, if the style says so, of all below it; `fuel` bounds the
depth. -/
def Style.directory (s : Style) (disk : Disk) (titled : Bool) :
    Nat → String → Location → List (List Char)
  | 0, _, _ => []
  | fuel + 1, path, loc =>
    let names := s.contents disk path loc
    let title := if titled then s.quote path ++ [':', '\n'] else []
    let own := title ++ s.totalLine names ++
      s.arrange (fun l => linksOf disk loc l.name l.entry) names
    let below :=
      if s.recursive then
        names.flatMap fun l =>
          if l.entry.isDirectory ∧ l.name ≠ "." ∧ l.name ≠ ".." then
            match disk.tree.stat disk.work (path ++ "/" ++ l.name) with
            | .ok (loc, .directory _) =>
              s.directory disk titled fuel
                (if path.endsWith "/" then path ++ l.name else path ++ "/" ++ l.name) loc
            | _ => []
          else []
      else []
    own :: below

/-- What an argument, an octet text, leads to; links are followed if the style says so, or to
directories if it is a plain one. -/
def Style.argument (s : Style) (disk : Disk) (path : String) : Except Fault (Location × Entry) :=
  let itself := disk.tree.statLink disk.work path
  let followed := disk.tree.stat disk.work path
  let plain := !s.directoriesThemselves && s.arrangement != .long && s.indicators != .all
  if s.follows then followed
  else if s.followsArguments then
    match followed with
    | .ok found => .ok found
    | .error _ => itself
  else if plain then
    match followed with
    | .ok (loc, .directory time) => .ok (loc, .directory time)
    | _ => itself
  else itself

/-- Lists what the arguments lead to: first files, then directories. -/
def run (i : Invocation) (s : System) : Ended :=
  let r := options.read i.arguments
  match Style.ofOptions r.given, r.fault with
  | .error f, _ =>
    if f.offersHelp then i.refuse f.text f.code s else (.code f.code, i.complain f.text s)
  | .ok _, some text => i.refuse text 2 s
  | .ok style, none =>
    let disk := s.disk
    let style := { style with
      now := disk.now
      begun := ((disk.tree.get? []).map Entry.modified).getD 0 }
    let paths := if r.operands.isEmpty then ["."] else r.operands.map Text.octets
    let found := paths.map fun p => (p, style.argument disk p)
    let missing := found.filterMap fun (p, r) =>
      match r with
      | .ok _ => none
      | .error f =>
        let name := String.ofList (Text.shellQuotation p.toList)
        some ("cannot access " ++ Text.fromOctets name ++ ": " ++ f.text)
    let s := missing.foldl (fun s text => i.complain text s) s
    let isOpened (e : Entry) : Bool := e.isDirectory && !style.directoriesThemselves
    let files := found.filterMap fun (p, r) =>
      match r with
      | .ok (loc, e) =>
        if isOpened e then none else some (style.listed disk p p e, loc)
      | .error _ => none
    let directories := found.filterMap fun (p, r) =>
      match r with
      | .ok (loc, e) => if isOpened e then some ({ name := p, entry := e : Listed }, loc) else none
      | .error _ => none
    let locationOf (l : Listed) : Location :=
      ((files.find? fun f => f.1.name == l.name).map (·.2)).getD []
    let fileBlock := style.arrange
      (fun l =>
        let loc := locationOf l
        linksOf disk loc.dropLast (loc.getLast?.getD ".") l.entry)
      (style.sorted (files.map (·.1)))
    let titled := style.recursive || paths.length > 1
    let order := style.sorted (directories.map (·.1))
    let depth := disk.tree.entries.length + 1
    let blocks := order.flatMap fun l =>
      match directories.find? fun d => d.1.name == l.name with
      | some (_, loc) => style.directory disk titled depth l.name loc
      | none => []
    let all := (if files.isEmpty then [] else [fileBlock]) ++ blocks
    let text := ['\n'].intercalate all
    i.finish ⟨(Text.octetBytes text).toArray⟩ (if missing.isEmpty then 0 else 2) 2 s

end BuildTool.DirectoryList
