import BuildTool.Text.Split

/-!
# Commands

A command of a target begins with a word that says what it is: a message, another build, a
download, one of the commands on files, or else the name of a program.

    << text             prints the text
    bygg [arguments]    builds with another run of the tool
    http… [checksum]    downloads an archive into the target
    clean:[path] [-r]   removes the path or the target
    mkdir:[path]        makes the path or the target a directory
    copy:[source]       copies the source to the target
-/

/-!
## Words of a command line

Spaces separate words. Between double quotes a space belongs to the word, a backslash makes the
next character stand for itself, and backslash n stands for a line feed; outside of quotes a
backslash is a character like any other. Words that come out empty are dropped, so an empty
pair of quotes adds nothing.

    splitWords (foo "bar baz")  is  [foo, bar baz]
    splitWords (pre"fix post"fix)  is  [prefix postfix]
-/

namespace BuildTool

/-- Where the scanner stands: between quotes or not, and just after a quoted backslash. -/
inductive WordState
  | plain
  | inQuotes
  | afterBackslash
  deriving DecidableEq, Repr

/-- Puts a finished word in front of the others unless it is empty; `word` is reversed. -/
def addWord (word : List Char) (words : List (List Char)) : List (List Char) :=
  if word.isEmpty then words else word.reverse :: words

/-- Scans a text with the unfinished word `word` (reversed); nothing when a quote is left
open at the end. -/
def scanWords : WordState → List Char → List Char → Option (List (List Char))
  | .plain, word, [] => some (addWord word [])
  | .inQuotes, _, [] => none
  | .afterBackslash, _, [] => none
  | .afterBackslash, word, c :: rest =>
    scanWords .inQuotes ((if c = 'n' then '\n' else c) :: word) rest
  | .inQuotes, word, c :: rest =>
    if c = '\\' then scanWords .afterBackslash word rest
    else if c = '"' then scanWords .plain word rest
    else scanWords .inQuotes (c :: word) rest
  | .plain, word, c :: rest =>
    if c = '"' then scanWords .inQuotes word rest
    else if c = ' ' then (scanWords .plain [] rest).map (addWord word)
    else scanWords .plain (c :: word) rest

/-- The words of a command line, or nothing when a quote is not closed. -/
def splitWords? (text : String) : Option (List String) :=
  (scanWords .plain [] text.toList).map (·.map String.ofList)

end BuildTool

/-! ## Commands of a target -/

namespace BuildTool

/-- What a command asks for. An empty path stands for the target. -/
inductive Command
  | message (text : String)
  | build (arguments : List String)
  | download (address : String) (checksum : Option String)
  | clean (path : String) (recursive : Bool)
  | makeDirectory (path : String)
  | copy (source : Option String)
  | program (name : String) (arguments : List String)
  deriving DecidableEq, Repr

namespace Command

/-- The source of a copy: what follows the verb, or else the first argument. -/
def sourceOf (rest : String) (arguments : List String) : Option String :=
  let source := Text.trim rest
  if source ≠ "" then some source else arguments.head?.map Text.trim

def ofWords (first : String) (arguments : List String) : Command :=
  if first = "<<" then .message (" ".intercalate arguments)
  else if first = "bygg" then .build arguments
  else if Text.startsWith "http" first then .download first arguments.head?
  else
    match Text.afterStart? "clean:" first with
    | some path => .clean path (arguments.head? == some "-r")
    | none =>
      match Text.afterStart? "mkdir:" first with
      | some path => .makeDirectory path
      | none =>
        match Text.afterStart? "copy:" first with
        | some rest => .copy (sourceOf rest arguments)
        | none => .program first arguments

end Command

end BuildTool
