/-!
# Shell commands

What a shell script says, once it is read: words made of texts and substitutions, redirections,
and commands put together by the shell's operators and keywords. All texts are octet texts.
-/

namespace BuildTool.Shell

/-- How a file is opened by a redirection: for reading, for both, for writing unless that is
refused for existing files, for writing in any case, or for writing at its end. -/
inductive FileMode
  | read
  | both
  | write
  | force
  | append
  deriving DecidableEq

mutual

/-- A part of a word. What a substitution between quotes gives stays one piece; outside of
quotes it is split into words. A mark stands for a quotation mark: the word is there even if it
is empty. What stands behind an excess brace is left out. -/
inductive Part
  | literal (text : String)
  | quoted (text : String)
  | mark
  | excess
  | parameter (name : String) (use : Use) (inQuotes : Bool)
  | output (command : Command) (inQuotes : Bool)
  | arithmetic (expression : List Part) (inQuotes : Bool)

/-- What a parameter is used for: its value, the length of that, a word in place of the value,
an assignment or a complaint when there is none, or the value without a beginning or end. An
unknown use is refused when it is carried out. -/
inductive Use
  | value
  | length
  | alternative (whenSet orEmpty : Bool) (word : List Part)
  | assignment (orEmpty : Bool) (word : List Part)
  | demand (orEmpty : Bool) (word : List Part)
  | trim (atEnd longest : Bool) (pattern : List Part)
  | unknown

inductive Redirection
  | file (stream : Nat) (mode : FileMode) (path : List Part)
  | copy (stream : Nat) (source : List Part)
  | document (stream : Nat) (number : Nat)

inductive Command
  | nothing
  | simple (line : Nat) (assignments : List (String × List Part)) (words : List (List Part))
      (redirections : List Redirection)
  | pipeline (stages : List Command)
  | background (body : Command)
  | negate (body : Command)
  | both (first second : Command)
  | either (first second : Command)
  | sequence (first second : Command)
  | branch (condition yes no : Command)
  | loop (until_ : Bool) (condition body : Command)
  | each (line : Nat) (name : String) (words : List (List Part)) (body : Command)
  | select (line : Nat) (subject : List Part) (arms : List (List (List Part) × Command))
  | redirected (line : Nat) (body : Command) (redirections : List Redirection)
  | subshell (line : Nat) (body : Command) (redirections : List Redirection)
  | define (name : String) (body : Command)

end

/-- A command and what comes after it, if anything does. -/
def Command.before (first : Command) : Command → Command
  | .nothing => first
  | rest => .sequence first rest

/-- A word of a command, before substitution. -/
abbrev Word := List Part

def isQuoted (w : Word) : Bool :=
  w.any fun part =>
    match part with
    | .quoted _ | .mark => true
    | _ => false

/-- The text of a word without quotes or substitutions. -/
def literal? : Word → Option String
  | [.literal s] => some s
  | _ => none

def isNameStart (c : Char) : Bool := c.isAlpha || c == '_'

def isNameChar (c : Char) : Bool := c.isAlphanum || c == '_'

def isName (s : String) : Bool :=
  match s.toList with
  | c :: rest => isNameStart c && rest.all isNameChar
  | [] => false

/-- A text in front of parts, joined to a text that they begin with. -/
def literalParts (text : List Char) (parts : Word) : Word :=
  match text, parts with
  | [], parts => parts
  | text, .literal s :: rest => .literal (String.ofList text ++ s) :: rest
  | text, parts => .literal (String.ofList text) :: parts

/-- The assignment in a word, as the name and the word after the equals sign. -/
def assignment? : Word → Option (String × Word)
  | .literal s :: parts =>
    let name := s.toList.takeWhile isNameChar
    match s.toList.dropWhile isNameChar with
    | '=' :: value =>
      if name.head?.any isNameStart then
        some (String.ofList name, literalParts value parts)
      else none
    | _ => none
  | _ => none

/-- What is wrong with a script, and the line where it shows. -/
structure SyntaxFault where
  line : Nat
  text : String

end BuildTool.Shell
