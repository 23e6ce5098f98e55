import BuildTool.Text.CodeSet
import BuildTool.Text.Property

/-!
# Regular expressions

The places between characters that an expression can ask for, and the expressions themselves. Of
several ways to match, the one that starts first counts; of those, the one the expression prefers:
the left alternative, and as much repetition as possible unless a repetition is marked as sparing.
-/

namespace BuildTool.Regex

open Text (CodeSet)

/-- What can be asked of the place between two characters. Words are made of the word characters
of any script where `wide` is set, else of those of ASCII. -/
inductive Assertion
  | startText
  | endText
  | startLine
  | endLine
  | startReturnLine
  | endReturnLine
  | boundary (wide : Bool)
  | noBoundary (wide : Bool)
  | startWord (wide : Bool)
  | endWord (wide : Bool)
  | startHalf (wide : Bool)
  | endHalf (wide : Bool)
  deriving DecidableEq, Repr

/-- A word character, of ASCII only unless `wide` is set. -/
def isWordChar (wide : Bool) (c : Char) : Bool :=
  if wide then Text.isWord c else c.isAlphanum || c == '_'

namespace Assertion

def holds (a : Assertion) (before after : Option Char) : Bool :=
  let isWord (wide : Bool) (c : Option Char) : Bool := c.any (isWordChar wide)
  match a with
  | .startText => before.isNone
  | .endText => after.isNone
  | .startLine => before.isNone || before == some '\n'
  | .endLine => after.isNone || after == some '\n'
  | .boundary wide => isWord wide before != isWord wide after
  | .noBoundary wide => isWord wide before == isWord wide after
  | .startWord wide => !isWord wide before && isWord wide after
  | .endWord wide => isWord wide before && !isWord wide after
  | .startHalf wide => !isWord wide before
  | .endHalf wide => !isWord wide after
  | .startReturnLine =>
    before.isNone || before == some '\n' || (before == some '\r' && after != some '\n')
  | .endReturnLine =>
    after.isNone || after == some '\r' || (after == some '\n' && before != some '\r')

end Assertion

/-- A regular expression. Captured groups are numbered from one. -/
inductive Expr
  | empty
  | set (s : CodeSet)
  | assertion (a : Assertion)
  | capture (index : Nat) (e : Expr)
  | sequence (first second : Expr)
  | either (left right : Expr)
  | repetition (least : Nat) (most : Option Nat) (greedy : Bool) (e : Expr)
  deriving DecidableEq, Repr

namespace Expr

/-- The expression can match the empty text, as far as its shape tells. -/
def acceptsEmpty : Expr → Bool
  | .empty => true
  | .set _ => false
  | .assertion _ => true
  | .capture _ e => e.acceptsEmpty
  | .sequence a b => a.acceptsEmpty && b.acceptsEmpty
  | .either a b => a.acceptsEmpty || b.acceptsEmpty
  | .repetition least _ _ e => least == 0 || e.acceptsEmpty

/-- The expression can match nothing but the empty text. -/
def isBare : Expr → Bool
  | .empty | .assertion _ => true
  | .set _ => false
  | .capture _ e => e.isBare
  | .sequence a b => a.isBare && b.isBare
  | .either a b => a.isBare && b.isBare
  | .repetition _ most _ e => most == some 0 || e.isBare

/-- The number of steps that the expression takes when repetitions are written out. -/
def size : Expr → Nat
  | .empty => 0
  | .set _ => 1
  | .assertion _ => 1
  | .capture _ e => e.size + 2
  | .sequence a b => a.size + b.size
  | .either a b => a.size + b.size + 2
  | .repetition least most _ e =>
    match most with
    | some most => least * e.size + (most - least) * (e.size + 1)
    | none => if least = 0 then e.size + 2 else least * e.size + 1

/-- A repetition of an expression. Repeating what matches the empty text only is asking for it once
or not at all. -/
def repeated (least : Nat) (most : Option Nat) (greedy : Bool) (e : Expr) : Expr :=
  let (least, most) :=
    if e.isBare then (min least 1, some (min (most.getD 1) 1)) else (least, most)
  if least = 0 ∧ most = some 0 then .empty
  else if least = 1 ∧ most = some 1 then e
  else .repetition least most greedy e

end Expr

/-- A pattern: its expression and the names of its groups. -/
structure Pattern where
  expr : Expr
  groups : Nat := 0
  names : List (String × Nat) := []
  deriving DecidableEq, Repr

end BuildTool.Regex
