/-!
# Orders of file names

Names are sorted by their bytes, by their ending, or as names with version numbers in them:
stretches of digits count as numbers, a tilde comes before everything, letters before other
characters, and a file name's ending counts only among otherwise equal names.
-/

namespace BuildTool.NameOrder

/-- Where a character stands between numbers in a version. -/
def versionRank (c : Char) : Int :=
  if c.isDigit then 0
  else if c.isAlpha then c.toNat
  else if c = '~' then -1
  else (c.toNat : Int) + 256

/-- Compares the stretches before the next number; the rests begin with a digit or are empty. -/
def compareBetween : List Char → List Char → Ordering × List Char × List Char
  | [], [] => (.eq, [], [])
  | a :: as, [] =>
    if a.isDigit then (.eq, a :: as, []) else (compare (versionRank a) 0, a :: as, [])
  | [], b :: bs =>
    if b.isDigit then (.eq, [], b :: bs) else (compare 0 (versionRank b), [], b :: bs)
  | a :: as, b :: bs =>
    if a.isDigit ∧ b.isDigit then (.eq, a :: as, b :: bs)
    else
      match compare (versionRank a) (versionRank b) with
      | .eq => compareBetween as bs
      | other => (other, as, bs)

/-- The number at the beginning of a text, and the rest. -/
def leadingNumber (text : List Char) : Nat × List Char :=
  ((String.ofList ('0' :: text.takeWhile Char.isDigit)).toNat?.getD 0,
    text.dropWhile Char.isDigit)

/-- Compares texts stretch by stretch; `fuel` bounds their lengths. -/
def compareVersions : Nat → List Char → List Char → Ordering
  | 0, _, _ => .eq
  | fuel + 1, a, b =>
    if a = [] ∧ b = [] then .eq
    else
      match compareBetween a b with
      | (.eq, a, b) =>
        let (m, a) := leadingNumber a
        let (n, b) := leadingNumber b
        match compare m n with
        | .eq => compareVersions fuel a b
        | other => other
      | (other, _, _) => other

/-- The text is a dot, a letter or tilde and then letters, digits and tildes. -/
def isEnding : List Char → Bool
  | '.' :: c :: rest =>
    (c.isAlpha || c == '~') && rest.all fun d => d.isAlphanum || d == '~'
  | _ => false

/-- The name without its endings, given in reverse; `taken` is what may be part of one. -/
def withoutEndings : List Char → List Char → List Char
  | [], taken => taken
  | c :: before, taken =>
    if c = '.' then
      if isEnding (c :: taken) ∧ before ≠ [] then withoutEndings before []
      else (c :: before).reverse ++ taken
    else withoutEndings before (c :: taken)

/-- How hidden names come before others: the directory itself, the one above, hidden ones. -/
def hiddenRank (name : List Char) : Nat :=
  match name with
  | [] => 0
  | ['.'] => 1
  | ['.', '.'] => 2
  | '.' :: _ => 3
  | _ => 4

/-- Compares names with version numbers. -/
def compareByVersion (a b : String) : Ordering :=
  let a := a.toList
  let b := b.toList
  let fuel := a.length + b.length + 1
  (compare (hiddenRank a) (hiddenRank b)).then <|
    (compareVersions fuel (withoutEndings a.reverse []) (withoutEndings b.reverse [])).then <|
      (compareVersions fuel a b).then (compare (String.ofList a) (String.ofList b))

/-- The ending of a name from its last dot on. -/
def ending (name : String) : String :=
  let text := name.toList.reverse
  match text.dropWhile (· != '.') with
  | [] => ""
  | _ => String.ofList ('.' :: (text.takeWhile (· != '.')).reverse)

/-- Compares names by their endings, then as a whole. -/
def compareByEnding (a b : String) : Ordering :=
  (compare (ending a) (ending b)).then (compare a b)

end BuildTool.NameOrder
