/-!
# Splitting and joining text

`splitChar` cuts at every occurrence of one character, `splitText` at the leftmost
non-overlapping occurrences of a text, `lines` at line ends. The definitions work on lists of
characters; the `String` forms wrap them.
-/

namespace BuildTool.Text

/-- The pieces between the occurrences of `sep`, one more than there are occurrences. -/
def splitChar (sep : Char) : List Char → List (List Char)
  | [] => [[]]
  | c :: rest =>
    match splitChar sep rest with
    | [] => [[c]]
    | piece :: pieces => if c = sep then [] :: piece :: pieces else (c :: piece) :: pieces

/-- What follows `start` in `s`, when `s` begins with it. -/
def dropStart? : List Char → List Char → Option (List Char)
  | [], s => some s
  | _ :: _, [] => none
  | a :: start, c :: s => if a = c then dropStart? start s else none

theorem length_of_dropStart? {start s rest : List Char} (h : dropStart? start s = some rest) :
    rest.length + start.length = s.length := by
  fun_induction dropStart? start s with
  | case1 => simp_all
  | case2 => simp_all
  | case3 _ _ _ ih => simp [← ih h]; omega
  | case4 => simp_all

/-- Cuts before the first occurrence of the non-empty text `sep`: what stands before it and
what follows it. -/
def cutText? (sep : List Char) : List Char → Option (List Char × List Char)
  | [] => none
  | c :: rest =>
    match dropStart? sep (c :: rest) with
    | some after => some ([], after)
    | none => (cutText? sep rest).map fun cut => (c :: cut.1, cut.2)

theorem length_of_cutText? {sep s before after : List Char}
    (h : cutText? sep s = some (before, after)) :
    before.length + sep.length + after.length = s.length := by
  induction s generalizing before with
  | nil => simp [cutText?] at h
  | cons c rest ih =>
    unfold cutText? at h
    split at h
    · next after' hd =>
      simp only [Option.some.injEq, Prod.mk.injEq] at h
      obtain ⟨rfl, rfl⟩ := h
      have := length_of_dropStart? hd
      simp only [List.length_nil]
      omega
    · obtain ⟨cut, hc, he⟩ := Option.map_eq_some_iff.1 h
      simp only [Prod.mk.injEq] at he
      obtain ⟨rfl, rfl⟩ := he
      have := ih hc
      simp only [List.length_cons]
      omega

/-- The pieces of `s` between the leftmost non-overlapping occurrences of `sep`; an empty
`sep` does not cut. -/
def splitText (sep s : List Char) : List (List Char) :=
  if hsep : sep = [] then [s]
  else
    match h : cutText? sep s with
    | none => [s]
    | some (before, after) =>
      have : after.length < s.length := by
        have := length_of_cutText? h
        have := List.length_pos_iff.2 hsep
        omega
      before :: splitText sep after
  termination_by s.length

/-- Every occurrence of `old` replaced, from the left and without overlaps. -/
def replaceText (old new s : List Char) : List Char :=
  List.intercalate new (splitText old s)

/-- A line without its line end, which is a line feed or a carriage return and line feed. -/
def withoutLineEnd (line : List Char) : List Char :=
  if line.getLast? = some '\r' then line.dropLast else line

/-- The lines of a text. A final line end opens no further line, and a carriage return
belongs to the line end only before a line feed. -/
def lines (s : List Char) : List (List Char) :=
  let pieces := splitChar '\n' s
  let closed := pieces.dropLast.map withoutLineEnd
  match pieces.getLast? with
  | some [] => closed
  | some last => closed ++ [last]
  | none => closed

/-- Cuts at the first occurrence of `sep`. -/
def cutChar? (sep : Char) : List Char → Option (List Char × List Char)
  | [] => none
  | c :: rest =>
    if c = sep then some ([], rest)
    else (cutChar? sep rest).map fun cut => (c :: cut.1, cut.2)

/-- Removes the characters of class `p` from both ends. -/
def trimBoth (p : Char → Bool) (s : List Char) : List Char :=
  ((s.dropWhile p).reverse.dropWhile p).reverse

def startsWith (start s : String) : Bool :=
  (dropStart? start.toList s.toList).isSome

def endsWith (tail s : String) : Bool :=
  (dropStart? tail.toList.reverse s.toList.reverse).isSome

def afterStart? (start s : String) : Option String :=
  (dropStart? start.toList s.toList).map String.ofList

def cut? (sep : Char) (s : String) : Option (String × String) :=
  (cutChar? sep s.toList).map fun cut => (String.ofList cut.1, String.ofList cut.2)

end BuildTool.Text

/-!
## White space

The characters that separate words in any script, and trimming and splitting by them.
-/

namespace BuildTool.Text

/-- White space of any script: the ASCII blanks, the next-line and no-break spaces, the
Ogham space, the general punctuation spaces, both separators and the ideographic space. -/
def isBlank (c : Char) : Bool :=
  let n := c.toNat
  (9 ≤ n && n ≤ 13) || n == 32 || n == 0x85 || n == 0xA0 || n == 0x1680 ||
    (0x2000 ≤ n && n ≤ 0x200A) || n == 0x2028 || n == 0x2029 || n == 0x202F ||
    n == 0x205F || n == 0x3000

/-- The text without white space at its ends. -/
def trim (s : String) : String :=
  String.ofList (trimBoth isBlank s.toList)

/-- The text without white space at its beginning. -/
def trimLeft (s : String) : String :=
  String.ofList (s.toList.dropWhile isBlank)

/-- The text without white space at its end. -/
def trimRight (s : String) : String :=
  String.ofList ((s.toList.reverse.dropWhile isBlank).reverse)

/-- The non-empty runs of characters that are not white space. -/
def blankWords : List Char → List Char → List (List Char)
  | word, [] => if word.isEmpty then [] else [word.reverse]
  | word, c :: rest =>
    if isBlank c then
      if word.isEmpty then blankWords [] rest else word.reverse :: blankWords [] rest
    else blankWords (c :: word) rest

/-- The words of a text, separated by white space. -/
def words (s : String) : List String :=
  (blankWords [] s.toList).map String.ofList

end BuildTool.Text
