import BuildTool.Text.Property

/-!
# Upper and lower case

Texts in capital and in small letters. In lower-cased text a capital sigma that ends a word takes
its final form.
-/

namespace BuildTool.Text

def lowerChar (c : Char) : List Char :=
  if c.toNat < 128 then [c.toLower]
  else match lowerLong.lookup c.toNat with
    | some cs => cs.map Char.ofNat
    | none => [Char.ofNat (shiftCase lowerRows c.toNat)]

def upperChar (c : Char) : List Char :=
  if c.toNat < 128 then [c.toUpper]
  else match upperLong.lookup c.toNat with
    | some cs => cs.map Char.ofNat
    | none => [Char.ofNat (shiftCase upperRows c.toNat)]

/-- The nearest character that counts has a case. -/
def nextIsCased (cs : List Char) : Bool :=
  match cs.dropWhile Property.caseIgnorable.contains with
  | [] => false
  | c :: _ => Property.cased.contains c

/-- Lower case of a text, `before` holding what was read so far, nearest first. -/
def lowerFrom (before : List Char) : List Char → List Char
  | [] => []
  | c :: rest =>
    let image :=
      if c == 'Σ' then
        if nextIsCased before && !nextIsCased rest then ['ς'] else ['σ']
      else lowerChar c
    image ++ lowerFrom (c :: before) rest

def lowerCase (s : String) : String :=
  String.ofList (lowerFrom [] s.toList)

def upperCase (s : String) : String :=
  String.ofList (s.toList.flatMap upperChar)

end BuildTool.Text
