import BuildTool.Error
import BuildTool.Text.Property

/-!
# Statements of a script

A line, leading spaces and tabs aside, is empty, a comment after a hash sign, a message, or

    name : words         what a target depends on, forced by a leading !
    name = text          a variable, env.NAME for the environment
    name += text         the same, appended
    name <- command      a command of a target
    name << text         a message among the commands of a target

Names are made of word characters and `. _ - / $ { }`; white space around the operator does not
count, and the text after it is taken as it stands.
-/

namespace BuildTool

/-- What stands between the two sides of a statement. -/
inductive Operator
  | depends
  | assign
  | append
  | command
  | message
  deriving DecidableEq, Repr

/-- A line of a script, its references not yet replaced. -/
inductive Statement
  | nothing
  | say (message : String)
  | relate (left : String) (operator : Operator) (right : String)
  deriving DecidableEq, Repr

namespace Operator

def symbol : Operator → List Char
  | .depends => [':']
  | .assign => ['=']
  | .append => ['+', '=']
  | .command => ['<', '-']
  | .message => ['<', '<']

def all : List Operator := [.depends, .assign, .append, .command, .message]

/-- The operator that a text begins with, and what follows it. -/
def read? (text : List Char) : Option (Operator × List Char) :=
  all.findSome? fun o => (Text.dropStart? o.symbol text).map fun rest => (o, rest)

end Operator

namespace Statement

def isNameChar (c : Char) : Bool :=
  Text.isWord c || c == '.' || c == '_' || c == '-' || c == '/' || c == '$' || c == '{' ||
    c == '}'

def isIndent (c : Char) : Bool := c == ' ' || c == '\t'

/-- Reads the two sides of a statement. -/
def relate? (line : List Char) : Option Statement :=
  let left := line.takeWhile isNameChar
  if left = [] then none
  else
    match Operator.read? ((line.dropWhile isNameChar).dropWhile Text.isBlank) with
    | none => none
    | some (operator, rest) =>
      let right := rest.dropWhile Text.isBlank
      if right.contains '\n' then none
      else some (.relate (String.ofList left) operator (String.ofList right))

/-- Reads a line without its indentation. -/
def ofChars (line : List Char) : Except ParseFault Statement :=
  if line = [] then .ok .nothing
  else if line.head? = some '#' then .ok .nothing
  else
    match Text.dropStart? ['<', '<'] line with
    | some message => .ok (.say (String.ofList (Text.trimBoth isIndent message)))
    | none =>
      match relate? line with
      | some statement => .ok statement
      | none => .error (.badStatement (String.ofList line))

def ofLine (line : String) : Except ParseFault Statement :=
  ofChars (line.toList.dropWhile isIndent)

end Statement

end BuildTool
