import BuildTool.Text.Split

/-!
# References in text

A dollar sign introduces a reference to a variable:

    ${name}     any non-empty text up to the first closing brace
    $*  $#  $$  $@  $!  $?  $-  $0 … $9      one special character
    $name       the longest run of ASCII letters, digits and underscores

An empty pair of braces is dropped together with its dollar sign, and so is an opening brace
that is never closed. Any other dollar sign is text.
-/

namespace BuildTool

inductive Piece
  | char (c : Char)
  | reference (name : List Char)
  deriving DecidableEq, Repr

namespace Reference

def isSpecial (c : Char) : Bool :=
  c == '*' || c == '#' || c == '$' || c == '@' || c == '!' || c == '?' || c == '-' || c.isDigit

def isNameChar (c : Char) : Bool := c.isAlphanum || c == '_'

/-- What stands after a dollar sign. -/
inductive Opening
  | name (name rest : List Char)
  | dropped (rest : List Char)
  | literal
  deriving Repr

/-- Reads what follows a dollar sign. -/
def opening : List Char → Opening
  | [] => .literal
  | '{' :: rest =>
    match Text.cutChar? '}' rest with
    | some ([], after) => .dropped after
    | some (name, after) => .name name after
    | none => .dropped rest
  | c :: rest =>
    if isSpecial c then .name [c] rest
    else
      match (c :: rest).takeWhile isNameChar with
      | [] => .literal
      | name => .name name ((c :: rest).dropWhile isNameChar)

theorem length_cutChar? {sep : Char} {s before after : List Char}
    (h : Text.cutChar? sep s = some (before, after)) : after.length < s.length := by
  induction s generalizing before with
  | nil => simp [Text.cutChar?] at h
  | cons c rest ih =>
    unfold Text.cutChar? at h
    split at h
    · simp only [Option.some.injEq, Prod.mk.injEq] at h
      simp [← h.2]
    · obtain ⟨cut, hc, he⟩ := Option.map_eq_some_iff.1 h
      simp only [Prod.mk.injEq] at he
      obtain ⟨-, rfl⟩ := he
      exact Nat.lt_succ_of_lt (ih hc)

/-- The text left after an opening, none of it read again. -/
def Opening.rest (text : List Char) : Opening → List Char
  | .name _ rest => rest
  | .dropped rest => rest
  | .literal => text

theorem length_opening_rest_le (text : List Char) :
    ((opening text).rest text).length ≤ text.length := by
  unfold opening
  split
  · simp [Opening.rest]
  · next rest =>
    split
    · next after h => have := length_cutChar? h; simp only [Opening.rest, List.length_cons]; omega
    · next after _ h => have := length_cutChar? h; simp only [Opening.rest, List.length_cons]; omega
    · simp [Opening.rest]
  · next c rest _ =>
    split
    · simp [Opening.rest]
    · split
      · simp [Opening.rest]
      · simp only [Opening.rest]
        exact (List.dropWhile_sublist _).length_le

/-- The pieces of a text, in one pass from the left. -/
def pieces : List Char → List Piece
  | [] => []
  | c :: rest =>
    if c = '$' then
      match h : opening rest with
      | .name name after =>
        have : after.length ≤ rest.length := by
          simpa [h, Opening.rest] using length_opening_rest_le rest
        .reference name :: pieces after
      | .dropped after =>
        have : after.length ≤ rest.length := by
          simpa [h, Opening.rest] using length_opening_rest_le rest
        pieces after
      | .literal => .char '$' :: pieces rest
    else .char c :: pieces rest
  termination_by text => text.length

/-- Every reference replaced by what `lookup` gives for its name; what comes in is not read
again. -/
def substitute (lookup : String → String) (text : String) : String :=
  String.ofList <| (pieces text.toList).flatMap fun
    | .char c => [c]
    | .reference name => (lookup (String.ofList name)).toList

end Reference

end BuildTool
