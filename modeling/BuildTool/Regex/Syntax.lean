import BuildTool.Regex.Fault

/-!
# Patterns as they are written

The parts of a pattern, each with its span. What they mean depends on the flags in force where
they stand.
-/

namespace BuildTool.Regex

/-- A character of a pattern; `asByte` when it is written as two hexadecimal digits. -/
structure Literal where
  span : Span
  char : Char
  asByte : Bool := false
  deriving DecidableEq, Repr

/-- A class named by a letter behind a backslash. -/
inductive LetterClass
  | digit
  | space
  | word
  deriving DecidableEq, Repr

inductive NamedClass
  | alnum
  | alpha
  | ascii
  | blank
  | cntrl
  | digit
  | graph
  | lower
  | print
  | punct
  | space
  | upper
  | word
  | xdigit
  deriving DecidableEq, Repr

/-- The property that a class asks for: one name, or a name and a value. -/
inductive PropertyQuery
  | plain (name : String)
  | valued (name value : String)
  deriving DecidableEq, Repr

inductive ClassOperator
  | intersection
  | difference
  | symmetricDifference
  deriving DecidableEq, Repr

inductive ClassNode
  | empty (span : Span)
  | literal (l : Literal)
  | range (span : Span) (first last : Literal)
  | named (span : Span) (negated : Bool) (name : NamedClass)
  | letter (span : Span) (negated : Bool) (kind : LetterClass)
  | property (span : Span) (negated : Bool) (query : PropertyQuery)
  | bracketed (span : Span) (negated : Bool) (inside : ClassNode)
  | union (span : Span) (items : List ClassNode)
  | combined (span : Span) (operator : ClassOperator) (left right : ClassNode)
  deriving Repr

namespace ClassNode

def span : ClassNode → Span
  | .empty s | .range s _ _ | .named s _ _ | .letter s _ _ | .property s _ _ | .bracketed s _ _
  | .union s _ | .combined s _ _ _ => s
  | .literal l => l.span

def ofItems (place : Place) : List ClassNode → ClassNode
  | [] => .empty (Span.ofPlace place)
  | [item] => item
  | first :: rest =>
    .union ⟨first.span.first, ((rest.getLast?).getD first).span.last⟩ (first :: rest)

end ClassNode

/-- A place that a pattern asks for. -/
inductive Anchor
  | startLine
  | endLine
  | startText
  | endText
  | boundary
  | noBoundary
  | startWord
  | endWord
  | startHalf
  | endHalf
  deriving DecidableEq, Repr

inductive Flag
  | anyCase
  | multiLine
  | dotAll
  | swapGreed
  | unicode
  | returns
  | spaced
  deriving DecidableEq, Repr

inductive GroupKind
  | captured (index : Nat)
  | plain (flags : List (Flag × Bool))
  deriving DecidableEq, Repr

inductive Node
  | empty (span : Span)
  | flags (span : Span) (changes : List (Flag × Bool))
  | literal (l : Literal)
  | dot (span : Span)
  | anchor (span : Span) (kind : Anchor)
  | set (c : ClassNode)
  | repetition (span : Span) (least : Nat) (most : Option Nat) (greedy : Bool) (e : Node)
  | group (span : Span) (kind : GroupKind) (e : Node)
  | sequence (span : Span) (nodes : List Node)
  | either (span : Span) (nodes : List Node)
  deriving Repr

namespace Node

/-- Where a part stands. -/
def span : Node → Span
  | .empty s | .flags s _ | .dot s | .anchor s _ | .repetition s _ _ _ _ | .group s _ _
  | .sequence s _ | .either s _ => s
  | .literal l => l.span
  | .set c => c.span

def ofSequence (span : Span) : List Node → Node
  | [] => .empty span
  | [node] => node
  | nodes => .sequence span nodes

end Node

/-- How deep groups and brackets may lie in one another. -/
def nestingLimit : Nat := 250

/-- A part that would lie deeper than allowed. -/
def tooDeep (depth : Nat) (span : Span) : Except Fault Unit :=
  if nestingLimit < depth + 1 then .error ⟨.nesting nestingLimit, span, none⟩ else .ok ()

mutual

/-- The class lies no deeper than allowed, `depth` parts being around it. -/
def ClassNode.checkDepth (depth : Nat) : ClassNode → Except Fault Unit
  | .bracketed span _ inside => do
    tooDeep depth span
    inside.checkDepth (depth + 1)
  | .union span items => do
    tooDeep depth span
    checkClassDepths (depth + 1) items
  | .combined span _ left right => do
    tooDeep depth span
    left.checkDepth (depth + 1)
    right.checkDepth (depth + 1)
  | _ => .ok ()

/-- The classes lie no deeper than allowed. -/
def checkClassDepths (depth : Nat) : List ClassNode → Except Fault Unit
  | [] => .ok ()
  | item :: rest => do
    item.checkDepth depth
    checkClassDepths depth rest

end

mutual

/-- The part lies no deeper than allowed, `depth` parts being around it. -/
def Node.checkDepth (depth : Nat) : Node → Except Fault Unit
  | .set c => c.checkDepth depth
  | .repetition span _ _ _ e => do
    tooDeep depth span
    e.checkDepth (depth + 1)
  | .group span _ e => do
    tooDeep depth span
    e.checkDepth (depth + 1)
  | .sequence span nodes => do
    tooDeep depth span
    checkDepths (depth + 1) nodes
  | .either span nodes => do
    tooDeep depth span
    checkDepths (depth + 1) nodes
  | _ => .ok ()

/-- The parts lie no deeper than allowed. -/
def checkDepths (depth : Nat) : List Node → Except Fault Unit
  | [] => .ok ()
  | node :: rest => do
    node.checkDepth depth
    checkDepths depth rest

end

end BuildTool.Regex
