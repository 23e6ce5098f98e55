import BuildTool.Regex.Fault
import BuildTool.Text.Age
import BuildTool.Text.Break

/-!
# Classes by property

A class can ask for a property of characters: for one that a character has or has not, for a
general category, for a script, or for a property with a value. Names are told apart without regard
to case, blanks, hyphens and underscores.
-/

namespace BuildTool.Regex

open Text (Category CodeSet)

/-- The name in the form in which names are told apart. A leading `is` does not count. -/
def plainName (name : String) : String :=
  let counts (c : Char) : Bool := c.toNat < 128 && c != ' ' && c != '_' && c != '-'
  let plain (cs : List Char) : List Char := (cs.filter counts).map Char.toLower
  match name.toList with
  | a :: b :: rest =>
    if a.toLower = 'i' ∧ b.toLower = 's' then
      if plain rest = ['c'] then "isc" else String.ofList (plain rest)
    else String.ofList (plain (a :: b :: rest))
  | cs => String.ofList (plain cs)

/-- The codes of a general category or a group of them. The category of surrogates has no
characters to ask for. -/
def categoryCodes? (name : String) : Option CodeSet :=
  match name with
  | "any" => some CodeSet.all
  | "assigned" => some (Category.codes .unassigned).complement
  | "ascii" => some (CodeSet.range 0 0x7F)
  | _ => (Category.ofName? name).map Category.codesOf

def plainProperty (name : String) : Except Flaw CodeSet :=
  let name := plainName name
  let property :=
    if ["cf", "sc", "lc"].contains name then none
    else (Text.properties.find? fun p => p.1.contains name).map (·.2)
  if name = "cs" ∨ name = "surrogate" then .error .propertyValueUnknown
  else
    match property.or ((categoryCodes? name).or ((Text.script? name).map (·.codes))) with
    | some codes => .ok codes
    | none =>
      if ["zzzz", "unknown", "hrkt", "katakanaorhiragana"].contains name then
        .error .propertyValueUnknown
      else .error .propertyUnknown

def classCodes? (name : String) (classes : List (List String × CodeSet)) : Option CodeSet :=
  (classes.find? fun c => c.1.contains name).map (·.2)

/-- The properties that take a value but cannot be asked for with one. -/
def otherProperties : List String := [
  "cjkaccountingnumeric", "kaccountingnumeric", "cjkothernumeric", "kothernumeric",
  "cjkprimarynumeric", "kprimarynumeric", "nv", "numericvalue", "bmg", "bidimirroringglyph", "bpb",
  "bidipairedbracket", "cf", "casefolding", "cjkcompatibilityvariant", "kcompatibilityvariant",
  "dm", "decompositionmapping", "equideo", "equivalentunifiedideograph", "fcnfkc",
  "fcnfkcclosure", "lc", "lowercasemapping", "nfkccf", "nfkccasefold", "nfkcscf",
  "nfkcsimplecasefold", "scf", "simplecasefolding", "sfc", "slc", "simplelowercasemapping", "stc",
  "simpletitlecasemapping", "suc", "simpleuppercasemapping", "tc", "titlecasemapping", "uc",
  "uppercasemapping", "cjkiicore", "kiicore", "cjkirggsource", "kirggsource", "cjkirghsource",
  "kirghsource", "cjkirgjsource", "kirgjsource", "cjkirgkpsource", "kirgkpsource",
  "cjkirgksource", "kirgksource", "cjkirgmsource", "kirgmsource", "cjkirgssource",
  "kirgssource", "cjkirgtsource", "kirgtsource", "cjkirguksource", "kirguksource",
  "cjkirgusource", "kirgusource", "cjkirgvsource", "kirgvsource", "cjkrsunicode", "krsunicode",
  "unicoderadicalstroke", "urs", "isc", "isocomment", "jsn", "jamoshortname", "na", "name", "na1",
  "unicode1name", "namealias", "blk", "block", "bc", "bidiclass", "bpt", "bidipairedbrackettype",
  "ccc", "canonicalcombiningclass", "dt", "decompositiontype", "ea", "eastasianwidth", "hst",
  "hangulsyllabletype", "incb", "indicconjunctbreak", "inpc", "indicpositionalcategory", "insc",
  "indicsyllabiccategory", "jg", "joininggroup", "jt", "joiningtype", "lb", "linebreak", "nfcqc",
  "nfcquickcheck", "nfdqc", "nfdquickcheck", "nfkcqc", "nfkcquickcheck", "nfkdqc",
  "nfkdquickcheck", "nt", "numerictype", "vo", "verticalorientation", "bidim", "bidimirrored",
  "ce", "compositionexclusion", "compex", "fullcompositionexclusion", "cwkcf",
  "changeswhennfkccasefolded", "xonfc", "expandsonnfc", "xonfd", "expandsonnfd", "xonfkc",
  "expandsonnfkc", "xonfkd", "expandsonnfkd"]

def isProperty (name : String) : Bool :=
  otherProperties.contains name || Text.properties.any fun p => p.1.contains name

def valuedProperty (name value : String) : Except Flaw CodeSet :=
  let name := plainName name
  let value := plainName value
  let known : Option (Option CodeSet) :=
    match name with
    | "gc" | "generalcategory" => some (categoryCodes? value)
    | "sc" | "script" => some ((Text.script? value).map (·.codes))
    | "scx" | "scriptextensions" => some ((Text.script? value).map (·.extended))
    | "age" => some (Text.aged? value)
    | "gcb" | "graphemeclusterbreak" => some (classCodes? value Text.Cluster.classes)
    | "wb" | "wordbreak" => some (classCodes? value Text.WordBreak.classes)
    | "sb" | "sentencebreak" => some (classCodes? value Text.SentenceBreak.classes)
    | _ => if isProperty name then some none else none
  match known with
  | none => .error .propertyUnknown
  | some none => .error .propertyValueUnknown
  | some (some codes) => .ok codes

end BuildTool.Regex
