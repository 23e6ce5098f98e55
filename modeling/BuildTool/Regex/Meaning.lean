import BuildTool.Regex.Basic
import BuildTool.Regex.Property
import BuildTool.Regex.Syntax
import BuildTool.Text.Fold

/-!
# What patterns mean

The expression for a pattern as it is written, under the switches in force at each of its parts.
Where the characters beyond ASCII are switched off, a class that would take in any of them is a
fault, as it could match a part of a character.
-/

namespace BuildTool.Regex

open Text (CodeSet)

structure Switches where
  anyCase : Bool := false
  multiLine : Bool := false
  dotAll : Bool := false
  swapGreed : Bool := false
  unicode : Bool := true
  returns : Bool := false
  deriving DecidableEq, Repr

namespace Switches

/-- The switches after a change. Whether blanks count is no matter of meaning. -/
def change (s : Switches) : Flag × Bool → Switches
  | (.anyCase, on) => { s with anyCase := on }
  | (.multiLine, on) => { s with multiLine := on }
  | (.dotAll, on) => { s with dotAll := on }
  | (.swapGreed, on) => { s with swapGreed := on }
  | (.unicode, on) => { s with unicode := on }
  | (.returns, on) => { s with returns := on }
  | (.spaced, _) => s

/-- The set with what differs in case only, where case does not count. -/
def fold (s : Switches) (codes : CodeSet) : CodeSet :=
  if !s.anyCase then codes else if s.unicode then codes.folded else codes.foldedAscii

/-- The set of a class at some place, turned round where it is negated. -/
def close (s : Switches) (span : Span) (negated : Bool) (codes : CodeSet) :
    Except Fault CodeSet :=
  let codes := s.fold codes
  if s.unicode then .ok (if negated then codes.complement else codes)
  else if negated ∨ codes.ranges.any (fun r => 0x7F < r.2) then .error ⟨.invalidText, span, none⟩
  else .ok codes

def anything (s : Switches) : CodeSet :=
  if s.dotAll then CodeSet.all
  else if s.returns then (CodeSet.ofCodes [0x0A, 0x0D]).complement
  else (CodeSet.ofCodes [0x0A]).complement

/-- What a place in a pattern asks for. -/
def assertion (s : Switches) : Anchor → Assertion
  | .startLine =>
    if !s.multiLine then .startText else if s.returns then .startReturnLine else .startLine
  | .endLine => if !s.multiLine then .endText else if s.returns then .endReturnLine else .endLine
  | .startText => .startText
  | .endText => .endText
  | .boundary => .boundary s.unicode
  | .noBoundary => .noBoundary s.unicode
  | .startWord => .startWord s.unicode
  | .endWord => .endWord s.unicode
  | .startHalf => .startHalf s.unicode
  | .endHalf => .endHalf s.unicode

def classChar (s : Switches) (l : Literal) : Except Fault Char :=
  if s.unicode ∨ l.char.toNat < 0x80 then .ok l.char
  else .error ⟨if l.asByte then .invalidText else .unicodeOff, l.span, none⟩

end Switches

def NamedClass.codes : NamedClass → CodeSet
  | .alnum => CodeSet.ofRanges [(48, 57), (65, 90), (97, 122)]
  | .alpha => CodeSet.ofRanges [(65, 90), (97, 122)]
  | .ascii => CodeSet.range 0 127
  | .blank => CodeSet.ofCodes [9, 32]
  | .cntrl => CodeSet.ofRanges [(0, 31), (127, 127)]
  | .digit => CodeSet.range 48 57
  | .graph => CodeSet.range 33 126
  | .lower => CodeSet.range 97 122
  | .print => CodeSet.range 32 126
  | .punct => CodeSet.ofRanges [(33, 47), (58, 64), (91, 96), (123, 126)]
  | .space => CodeSet.ofRanges [(9, 13), (32, 32)]
  | .upper => CodeSet.range 65 90
  | .word => CodeSet.ofRanges [(48, 57), (65, 90), (95, 95), (97, 122)]
  | .xdigit => CodeSet.ofRanges [(48, 57), (65, 70), (97, 102)]

def LetterClass.codes (unicode : Bool) : LetterClass → CodeSet
  | .digit => if unicode then Text.digitCodes else NamedClass.digit.codes
  | .space => if unicode then Text.Property.whiteSpace else NamedClass.space.codes
  | .word => if unicode then Text.wordCodes else NamedClass.word.codes

def ClassOperator.combine (operator : ClassOperator) (a b : CodeSet) : CodeSet :=
  match operator with
  | .intersection => a ∩ b
  | .difference => a \ b
  | .symmetricDifference => a.apart b

mutual

def ClassNode.codes (s : Switches) : ClassNode → Except Fault CodeSet
  | .empty _ => .ok ∅
  | .literal l => do return CodeSet.single (← s.classChar l)
  | .range _ first last => do
    return CodeSet.range (← s.classChar first).toNat (← s.classChar last).toNat
  | .named span negated name => s.close span negated name.codes
  | .letter span negated kind =>
    let codes := kind.codes s.unicode
    if !negated then .ok codes
    else if s.unicode then .ok codes.complement
    else .error ⟨.invalidText, span, none⟩
  | .property span negated query =>
    if !s.unicode then .error ⟨.unicodeOff, span, none⟩
    else
      let found := match query with
        | .plain name => plainProperty name
        | .valued name value => valuedProperty name value
      match found with
      | .ok codes => s.close span negated codes
      | .error flaw => .error ⟨flaw, span, none⟩
  | .bracketed span negated inside => do s.close span negated (← inside.codes s)
  | .union _ items => unionCodes s items
  | .combined _ operator left right => do
    let left ← left.codes s
    let right ← right.codes s
    return operator.combine (s.fold left) (s.fold right)

def unionCodes (s : Switches) : List ClassNode → Except Fault CodeSet
  | [] => .ok ∅
  | item :: rest => do
    let codes ← item.codes s
    return codes ∪ (← unionCodes s rest)

end

def Switches.literalSet (s : Switches) (l : Literal) : Except Fault CodeSet :=
  if !s.unicode ∧ l.asByte ∧ 0x7F < l.char.toNat then .error ⟨.invalidText, l.span, none⟩
  else .ok (s.fold (CodeSet.single l.char))

mutual

/-- The expression for a part of a pattern, and the switches in force behind it. -/
def Node.meaning (s : Switches) : Node → Except Fault (Expr × Switches)
  | .empty _ => .ok (.empty, s)
  | .flags _ changes => .ok (.empty, changes.foldl Switches.change s)
  | .literal l => do return (.set (← s.literalSet l), s)
  | .dot span =>
    if s.unicode then .ok (.set s.anything, s) else .error ⟨.invalidText, span, none⟩
  | .anchor _ kind => .ok (.assertion (s.assertion kind), s)
  | .set c => do return (.set (← c.codes s), s)
  | .repetition _ least most greedy e => do
    let (e, inner) ← e.meaning s
    return (Expr.repeated least most (greedy != s.swapGreed) e, inner)
  | .group _ kind e =>
    match kind with
    | .captured index => do
      let (e, _) ← e.meaning s
      return (.capture index e, s)
    | .plain changes => do
      let (e, _) ← e.meaning (changes.foldl Switches.change s)
      return (e, s)
  | .sequence _ nodes => sequenceMeaning s nodes
  | .either _ nodes => eitherMeaning s nodes

/-- The expression for some parts one behind the other. -/
def sequenceMeaning (s : Switches) : List Node → Except Fault (Expr × Switches)
  | [] => .ok (.empty, s)
  | node :: rest => do
    let (first, s) ← node.meaning s
    let (second, s) ← sequenceMeaning s rest
    return (if second = .empty then first else .sequence first second, s)

/-- The expression for some alternatives. Switches set in one hold in those behind it. -/
def eitherMeaning (s : Switches) : List Node → Except Fault (Expr × Switches)
  | [] => .ok (.empty, s)
  | node :: rest => do
    let (left, s) ← node.meaning s
    if rest.isEmpty then return (left, s)
    let (right, s) ← eitherMeaning s rest
    return (.either left right, s)

end

end BuildTool.Regex
