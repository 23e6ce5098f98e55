import BuildTool.Regex.Meaning
import BuildTool.Regex.Reader
import BuildTool.Regex.Weight

/-!
# Matching regular expressions

An expression becomes a program of numbered instructions. A run keeps a list of threads, the
preferred one first, no two at the same instruction: all of them read the text together, one
character at a time, so the time a search takes grows with the length of the text times that of
the program. Each thread carries the places where the groups it has passed began and ended.
-/

namespace BuildTool.Regex

/-!
## From texts to patterns

A pattern is read, its meaning is found, and the room it takes is checked. What is refused says
why.
-/

inductive Refusal
  | fault (f : Fault) (pattern : String)
  | tooBig
  deriving DecidableEq, Repr

def Refusal.message : Refusal → String
  | .fault f pattern => f.report pattern
  | .tooBig => "Compiled regex exceeds size limit of " ++ toString roomLimit ++ " bytes."

def Pattern.read (text : String) : Except Refusal Pattern :=
  let meaning : Except Fault Pattern := do
    let written ← Written.read text.toList
    let (expr, _) ← written.node.meaning {}
    return { expr := expr, groups := written.groups, names := written.names }
  match meaning with
  | .error f => .error (.fault f text)
  | .ok p => if p.expr.fits then .ok p else .error .tooBig

/-- The pattern that a text stands for, if it is one. -/
def Pattern.parse? (text : String) : Option Pattern := (Pattern.read text).toOption

/-! ## Programs -/

open Text (CodeSet)

inductive Instruction
  | char (s : CodeSet) (next : Nat)
  | fork (first second : Nat)
  | mark (slot next : Nat)
  | demand (a : Assertion) (next : Nat)
  | jump (next : Nat)
  | accept
  deriving DecidableEq, Repr

/-- The instructions for an expression that stands at place `at` and goes on at the place behind
them. -/
def compile : Expr → Nat → List Instruction
  | .empty, _ => []
  | .set s, start => [.char s (start + 1)]
  | .assertion a, start => [.demand a (start + 1)]
  | .capture index e, start =>
    let inside := compile e (start + 1)
    let finish := start + 1 + inside.length
    .mark (2 * index) (start + 1) :: inside ++ [.mark (2 * index + 1) (finish + 1)]
  | .sequence a b, start =>
    let first := compile a start
    first ++ compile b (start + first.length)
  | .either a b, start =>
    let first := compile a (start + 1)
    let second := start + 1 + first.length + 1
    let rest := compile b second
    .fork (start + 1) second :: first ++ .jump (second + rest.length) :: rest
  | .repetition least most greedy e, start =>
    let fork (into past : Nat) : Instruction := if greedy then .fork into past else .fork past into
    let copies := (List.range least).flatMap fun i => compile e (start + i * e.size)
    match most with
    | some most =>
      let optional := start + least * e.size
      let finish := optional + (most - least) * (e.size + 1)
      copies ++ (List.range (most - least)).flatMap fun i =>
        let place := optional + i * (e.size + 1)
        fork (place + 1) finish :: compile e (place + 1)
    | none =>
      let place := start + least * e.size
      if least = 0 then
        let body := compile e (place + 1)
        if e.acceptsEmpty then
          let again := place + 1 + body.length
          fork (place + 1) (again + 1) :: body ++ [fork (place + 1) (again + 1)]
        else
          fork (place + 1) (place + 1 + body.length + 1) :: body ++ [.jump place]
      else
        let body := compile e start
        copies ++ [fork (place - body.length) (place + 1)]

def Pattern.program (p : Pattern) : Array Instruction :=
  let code := compile p.expr 0
  (code ++ [Instruction.accept]).toArray

/-- The places where groups begin and end, by slot. -/
abbrev Marks := List (Nat × Nat)

/-- A thread: the instruction it stands at, and its marks. -/
structure Thread where
  place : Nat
  marks : Marks
  deriving Repr

/-- Follows threads over the instructions that read nothing. Those that wait for a character or
have come to the end are collected, the last one first; `seen` tells which instructions have been
reached. -/
def settle (program : Array Instruction) (position : Nat) (before after : Option Char) :
    Nat → List Thread → Array Bool → List Thread → List Thread
  | 0, _, _, settled => settled
  | _ + 1, [], _, settled => settled
  | fuel + 1, t :: todo, seen, settled =>
    let go := settle program position before after fuel
    if seen.getD t.place true then go todo seen settled
    else
      let seen := seen.setIfInBounds t.place true
      match program[t.place]? with
      | none => go todo seen settled
      | some (.char ..) | some .accept => go todo seen (t :: settled)
      | some (.jump next) => go ({ t with place := next } :: todo) seen settled
      | some (.fork first second) =>
        go ({ t with place := first } :: { t with place := second } :: todo) seen settled
      | some (.mark slot next) =>
        let marks := (slot, position) :: t.marks.filter (·.1 != slot)
        go (⟨next, marks⟩ :: todo) seen settled
      | some (.demand a next) =>
        if a.holds before after then go ({ t with place := next } :: todo) seen settled
        else go todo seen settled

def settleAll (program : Array Instruction) (position : Nat) (before after : Option Char)
    (threads : List Thread) : List Thread :=
  (settle program position before after (2 * program.size + threads.length + 1) threads
    (Array.replicate program.size false) []).reverse

/-- The threads up to the first that has come to the end, and the marks of that one. -/
def untilAccept (program : Array Instruction) : List Thread → List Thread × Option Marks
  | [] => ([], none)
  | t :: rest =>
    match program[t.place]? with
    | some .accept => ([], some t.marks)
    | _ =>
      let (kept, found) := untilAccept program rest
      (t :: kept, found)

/-- Runs threads over the rest of the text. New ones start at every place until something has
matched; `best` holds the marks of the best match so far. -/
def run (program : Array Instruction) :
    List Char → Nat → Option Char → List Thread → Option Marks → Option Marks
  | text, position, before, threads, best =>
    let threads := if best.isNone then threads ++ [⟨0, [(0, position)]⟩] else threads
    let settled := settleAll program position before text.head? threads
    let (kept, found) := untilAccept program settled
    let best := match found with
      | some marks => some ((1, position) :: marks)
      | none => best
    match text with
    | [] => best
    | c :: rest =>
      if kept.isEmpty ∧ best.isSome then best
      else
        let moved := kept.filterMap fun (t : Thread) =>
          match program[t.place]? with
          | some (.char s next) => if s.contains c then some { t with place := next } else none
          | _ => none
        run program rest (position + 1) (some c) moved best

/-- A match: where it and its groups begin and end. -/
structure Match where
  marks : Marks
  deriving Repr

namespace Match

/-- Where a group begins and ends, if it took part in the match. The match itself is group
zero. -/
def group? (m : Match) (index : Nat) : Option (Nat × Nat) := do
  return (← m.marks.lookup (2 * index), ← m.marks.lookup (2 * index + 1))

def start (m : Match) : Nat := (m.marks.lookup 0).getD 0

def stop (m : Match) : Nat := (m.marks.lookup 1).getD 0

end Match

/-- The first match at or after a position, of which `before` is the character in front and
`text` the rest. -/
def firstFrom? (program : Array Instruction) (before : Option Char) (position : Nat)
    (text : List Char) : Option Match :=
  (run program text position before [] none).map Match.mk

namespace Pattern

/-- The matches in a text from a position on, which do not overlap; an empty match right behind
another match does not count. -/
def matchesFrom (program : Array Instruction) (text : List Char) :
    Nat → Nat → Option Nat → List Match
  | 0, _, _ => []
  | fuel + 1, position, last =>
    let search (position : Nat) : Option Match :=
      firstFrom? program (if position = 0 then none else text[position - 1]?) position
        (text.drop position)
    let found := match search position with
      | some m =>
        if m.start = m.stop ∧ last = some m.stop then
          if position < text.length then search (position + 1) else none
        else some m
      | none => none
    match found with
    | some m => m :: matchesFrom program text fuel m.stop (some m.stop)
    | none => []

/-- All matches in a text, from left to right. -/
def matchesIn (p : Pattern) (text : List Char) : List Match :=
  matchesFrom p.program text (text.length + 2) 0 none

def isMatch (p : Pattern) (text : String) : Bool :=
  (firstFrom? p.program none 0 text.toList).isSome

end Pattern

end BuildTool.Regex

/-!
## Replacing what a pattern matches

In the replacement, `$1` and `$name` stand for what a group matched, braces end a name early,
and two dollar signs are one. A group that does not exist or took no part in the match is
empty, and a dollar sign that begins no reference stands for itself.
-/

namespace BuildTool.Regex

inductive Part
  | char (c : Char)
  | group (name : String)
  deriving DecidableEq, Repr

def isReferenceChar (c : Char) : Bool := c.isAlphanum || c == '_'

/-- Reads a replacement; `fuel` is its length. -/
def parts : Nat → List Char → List Part
  | 0, _ => []
  | _ + 1, [] => []
  | fuel + 1, '$' :: rest =>
    match rest with
    | '$' :: rest => .char '$' :: parts fuel rest
    | '{' :: inner =>
      match Text.cutChar? '}' inner with
      | some (name, rest) => .group (String.ofList name) :: parts fuel rest
      | none => .char '$' :: parts fuel rest
    | _ =>
      let name := rest.takeWhile isReferenceChar
      if name.isEmpty then .char '$' :: parts fuel rest
      else .group (String.ofList name) :: parts fuel (rest.drop name.length)
  | fuel + 1, c :: rest => .char c :: parts fuel rest

namespace Pattern

/-- The number that a text stands for: digits, with or without a plus sign. -/
def groupNumber? (name : String) : Option Nat :=
  let digits := match name.toList with
    | '+' :: digits => digits
    | digits => digits
  if digits.isEmpty ∨ !digits.all Char.isDigit then none
  else some (digits.foldl (fun n d => n * 10 + (d.toNat - 48)) 0)

def groupIndex? (p : Pattern) (name : String) : Option Nat :=
  (groupNumber? name).or (p.names.lookup name)

/-- What a piece of the replacement stands for. -/
def partText (p : Pattern) (text : List Char) (m : Match) : Part → List Char
  | .char c => [c]
  | .group name =>
    match (p.groupIndex? name).bind m.group? with
    | some (start, stop) => (text.drop start).take (stop - start)
    | none => []

def replaceFrom (p : Pattern) (replacement : List Part) (text : List Char) :
    Nat → List Match → List Char
  | position, [] => text.drop position
  | position, m :: rest =>
    (text.drop position).take (m.start - position) ++
      replacement.flatMap (p.partText text m) ++ replaceFrom p replacement text m.stop rest

def replaceAll (p : Pattern) (replacement text : String) : String :=
  let chars := text.toList
  let pieces := parts replacement.length replacement.toList
  String.ofList (p.replaceFrom pieces chars 0 (p.matchesIn chars))

end Pattern

end BuildTool.Regex
