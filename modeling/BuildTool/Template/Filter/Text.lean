import BuildTool.Regex.Program
import BuildTool.Template.Argument
import BuildTool.Text.Break
import BuildTool.Text.LetterCase
import BuildTool.Text.Roman
import BuildTool.Text.Utf8

/-!
# Filters on texts
-/

namespace BuildTool.Template.Filter

/-- A filter: from a value and named arguments to a value. -/
abbrev Transform := Value → Named → Except EvalError Value

/-- A filter that changes a text and takes no arguments. -/
def onText (name : String) (f : String → String) : Transform := fun v _ => do
  return .text (f (← subject name .text v))

/-- Every occurrence of a text replaced; an empty text occurs between all characters. -/
def replacedIn (old new s : String) : String :=
  if old = "" then new ++ String.join (s.toList.map fun c => String.singleton c ++ new)
  else String.ofList (Text.replaceText old.toList new.toList s.toList)

/-- A line feed and a tab may be written with a backslash in arguments. -/
def unescaped (s : String) : String := replacedIn "\\t" "\t" (replacedIn "\\n" "\n" s)

/-- Removes a text from the front as often as it stands there. -/
def withoutFront (front : List Char) : Nat → List Char → List Char
  | 0, s => s
  | fuel + 1, s =>
    if front.isEmpty then s
    else
      match Text.dropStart? front s with
      | some rest => withoutFront front fuel rest
      | none => s

/-- Removes a text from the beginning as often as it stands there. -/
def trimStartMatches : Transform := fun v arguments => do
  let s ← subject "trim_start_matches" .text v
  let front ← required "trim_start_matches" "pat" .text
    "Filter `trim_start_matches` expected an arg called `pat`" arguments
  return .text (String.ofList (withoutFront (unescaped front).toList s.length s.toList))

/-- Removes a text from the end as often as it stands there. -/
def trimEndMatches : Transform := fun v arguments => do
  let s ← subject "trim_end_matches" .text v
  let back ← required "trim_end_matches" "pat" .text
    "Filter `trim_end_matches` expected an arg called `pat`" arguments
  return .text (String.ofList
    (withoutFront (unescaped back).toList.reverse s.length s.toList.reverse).reverse)

/-- The first clusters of a text, with a tail where something is left out. -/
def truncate : Transform := fun v arguments => do
  let s ← subject "truncate" .text v
  let length ← argument "truncate" "length" .size 255 arguments
  let tail ← argument "truncate" "end" .text "…" arguments
  let found := Text.clusters s
  if length ≥ found.length then return .text s
  return .text (String.join (found.take length) ++ tail)

def replace : Transform := fun v arguments => do
  let s ← subject "replace" .text v
  let old ← required "replace" "from" .text
    "Filter `replace` expected an arg called `from`" arguments
  let new ← required "replace" "to" .text
    "Filter `replace` expected an arg called `to`" arguments
  return .text (replacedIn old new s)

/-- The text with its first character in upper case and the others in lower case. -/
def capitalized (s : String) : String :=
  match s.toList with
  | [] => ""
  | c :: rest => String.ofList (Text.upperChar c) ++ Text.lowerCase (String.ofList rest)

def isTitleChar (c : Char) : Bool := Text.isWord c || c == '\x27'

/-- The text with every word capitalized. -/
def titled : Nat → List Char → List Char
  | 0, s => s
  | _ + 1, [] => []
  | fuel + 1, c :: rest =>
    if Text.isWord c then
      let word := (c :: rest).takeWhile isTitleChar
      let cut := (word.reverse.dropWhile (!Text.isWord ·)).reverse
      (capitalized (String.ofList cut)).toList ++ titled fuel ((c :: rest).drop cut.length)
    else c :: titled fuel rest

/-- The text with a margin in front of its lines, if asked for also of the first and of blank ones. -/
def indent : Transform := fun v arguments => do
  let s ← subject "indent" .text v
  let margin ← argument "indent" "prefix" .text "    " arguments
  let first ← argument "indent" "first" .bool false arguments
  let blank ← argument "indent" "blank" .bool false arguments
  let lines := (Text.lines s.toList).zipIdx.map fun (line, i) =>
    let text := String.ofList line
    let inset := if i = 0 then first else blank || Text.trimLeft text != ""
    if inset then margin ++ text else text
  return .text ("\n".intercalate lines)

def patternReplaced (pattern replacement s : String) : String :=
  match Regex.Pattern.parse? pattern with
  | some p => p.replaceAll replacement s
  | none => s

/-- Latin letters and digits in lower case, joined by hyphens where there was anything else. -/
def slug (s : String) : String :=
  let latin := s.toList.flatMap fun c => ((Text.romanized? c).getD "-").toList
  let words := (Text.splitChar '-' (latin.map fun c => if c.isAlphanum then c.toLower else '-')).filter
    (!·.isEmpty)
  "-".intercalate (words.map String.ofList)

/-- The text with every byte in percent form that is not an ASCII character of the class. -/
def percentEncoded (keeps : Char → Bool) (s : String) : String :=
  String.ofList (s.toUTF8.toList.flatMap fun b =>
    let c := Char.ofNat b.toNat
    if b.toNat < 128 && keeps c then [c] else Text.percentByte b)

def escapedBy (table : List (Char × String)) (s : String) : String :=
  String.join (s.toList.map fun c => (table.lookup c).getD (String.singleton c))

/-- What stands for special characters in markup. -/
def markup : List (Char × String) :=
  [('&', "&amp;"), ('<', "&lt;"), ('>', "&gt;"), ('"', "&quot;")]

/-- The pieces of a text between the occurrences of a separator. -/
def split : Transform := fun v arguments => do
  let s ← subject "split" .text v
  let separator ← required "split" "pat" .text
    "Filter `split` expected an arg called `pat`" arguments
  let separator := unescaped separator
  if separator = "" then
    return .texts ("" :: s.toList.map String.singleton ++ [""])
  return .texts ((Text.splitText separator.toList s.toList).map String.ofList)

def onTexts : List (String × Transform) :=
  [("upper", onText "upper" Text.upperCase),
    ("lower", onText "lower" Text.lowerCase),
    ("trim", onText "trim" Text.trim),
    ("trim_start", onText "trim_start" Text.trimLeft),
    ("trim_end", onText "trim_end" Text.trimRight),
    ("trim_start_matches", trimStartMatches),
    ("trim_end_matches", trimEndMatches),
    ("truncate", truncate),
    ("wordcount", fun v _ => do
      return .int (Text.words (← subject "wordcount" .text v)).length),
    ("replace", replace),
    ("capitalize", onText "capitalize" capitalized),
    ("title", onText "title" fun s => String.ofList (titled s.length s.toList)),
    ("linebreaksbr", onText "linebreaksbr" fun s =>
      replacedIn "\n" "<br>" (replacedIn "\r\n" "<br>" s)),
    ("indent", indent),
    ("striptags", onText "striptags" (patternReplaced "(<!--.*?-->|<[^>]*>)" "")),
    ("spaceless", onText "spaceless" (patternReplaced ">\\s+<" "><")),
    ("slugify", onText "slugify" slug),
    ("addslashes", onText "addslashes"
      (escapedBy [('\\', "\\\\"), ('"', "\\\""), ('\x27', "\\'")])),
    ("urlencode", onText "urlencode" (percentEncoded fun c =>
      c.isAlphanum || ['-', '_', '.', '~', '/', '%'].contains c)),
    ("urlencode_strict", onText "urlencode_strict" (percentEncoded Char.isAlphanum)),
    ("escape", onText "escape" (escapedBy (markup ++ [('\x27', "&#x27;"), ('/', "&#x2F;")]))),
    ("escape_xml", onText "escape_xml" (escapedBy (markup ++ [('\x27', "&apos;")]))),
    ("split", split)]

end BuildTool.Template.Filter
