import BuildTool.Text.Property
import BuildTool.Text.Script

/-!
# Classes of characters for dividing texts

Where a text may be divided into clusters, words or sentences depends on a class that each
character has for each of the three.
-/

namespace BuildTool.Text

open Property (ofCategories)

def scriptCodes (name : String) : CodeSet := ((script? name).map (·.codes)).getD ∅

def codesOf (s : String) : CodeSet := CodeSet.ofCodes (s.toList.map Char.toNat)

namespace Cluster

def extend : CodeSet := (Property.graphemeExtend ∪ Property.emojiModifier) \ codesOf "\u200d"

/-- Marks that belong to what follows them. -/
def prepend : CodeSet :=
  CodeSet.ofRows prependedMarkRows ∪
    CodeSet.ofRanges [(0xD4E, 0xD4E), (0x111C2, 0x111C3), (0x113D1, 0x113D1), (0x1193F, 0x1193F),
      (0x11941, 0x11941), (0x11A3A, 0x11A3A), (0x11A84, 0x11A89), (0x11D46, 0x11D46),
      (0x11F02, 0x11F02)]

/-- Controls, at which every cluster ends. -/
def control : CodeSet :=
  (ofCategories [.line, .paragraph, .control, .format] ∪
    (ofCategories [.unassigned] ∩ Property.defaultIgnorable)) \
    (codesOf "\r\n\u200c\u200d" ∪ CodeSet.ofRows prependedMarkRows ∪ extend)

/-- Marks that take room behind what they belong to. -/
def spacingMark : CodeSet :=
  (ofCategories [.spacingMark] ∪ codesOf "\u0e33\u0eb3") \
    (extend ∪ CodeSet.ofRanges [(0x102B, 0x102C), (0x1038, 0x1038), (0x1062, 0x1064),
      (0x1067, 0x106D), (0x1083, 0x1083), (0x1087, 0x108C), (0x108F, 0x108F), (0x109A, 0x109C),
      (0x1A61, 0x1A61), (0x1A63, 0x1A64), (0xAA7B, 0xAA7B), (0xAA7D, 0xAA7D),
      (0x11720, 0x11721)])

/-- Consonants at the beginning of a Korean syllable. -/
def leading : CodeSet := CodeSet.ofRanges [(0x1100, 0x115F), (0xA960, 0xA97C)]

/-- Vowels of a Korean syllable, and of one other script that joins them. -/
def vowel : CodeSet :=
  CodeSet.ofRanges [(0x1160, 0x11A7), (0xD7B0, 0xD7C6), (0x16D63, 0x16D63), (0x16D67, 0x16D6A)]

/-- Consonants at the end of a Korean syllable. -/
def trailing : CodeSet := CodeSet.ofRanges [(0x11A8, 0x11FF), (0xD7CB, 0xD7FB)]

/-- Korean syllables without a consonant at the end. -/
def openSyllable : CodeSet := CodeSet.ofCodes ((List.range 399).map fun i => 0xAC00 + 28 * i)

/-- Korean syllables with a consonant at the end. -/
def closedSyllable : CodeSet := CodeSet.range 0xAC00 0xD7A3 \ openSyllable

/-- The classes that divide a text into clusters, by names in small letters. -/
def classes : List (List String × CodeSet) := [
  (["cn", "control"], control), (["cr"], codesOf "\r"), (["ex", "extend"], extend), (["l"], leading),
  (["lf"], codesOf "\n"), (["lv"], openSyllable), (["lvt"], closedSyllable),
  (["pp", "prepend"], prepend), (["ri", "regionalindicator"], Property.regionalIndicator),
  (["sm", "spacingmark"], spacingMark), (["t"], trailing), (["v"], vowel),
  (["zwj"], codesOf "\u200d")]

end Cluster

/-- Characters that belong to the word or sentence in front of them. -/
def wordExtend : CodeSet :=
  (Property.graphemeExtend ∪ ofCategories [.spacingMark] ∪ Property.emojiModifier) \
    codesOf "\u200d"

namespace WordBreak

/-- Katakana letters and the signs among them. -/
def katakana : CodeSet :=
  (scriptCodes "katakana" ∪ CodeSet.ofRanges [(0x3031, 0x3035), (0x309B, 0x309C), (0x30A0, 0x30A0),
    (0x30FC, 0x30FC), (0xFF70, 0xFF70)]) \ wordExtend

def hebrew : CodeSet := scriptCodes "hebrew" ∩ ofCategories [.otherLetter]

/-- The scripts whose words are not told apart by their letters. -/
def complexScripts : List String :=
  ["thai", "lao", "khmer", "myanmar", "taile", "newtailue", "taitham", "taiviet", "ahom",
    "hiragana"]

def letters : CodeSet :=
  (Property.alphabetic ∪ CodeSet.ofRanges [(0x2C2, 0x2C5), (0x2D2, 0x2D7), (0x2DE, 0x2DF),
      (0x2E5, 0x2EB), (0x2ED, 0x2ED), (0x2EF, 0x2FF), (0x55A, 0x55C), (0x55E, 0x55E),
      (0x58A, 0x58A), (0x5F3, 0x5F3), (0xA708, 0xA716), (0xA720, 0xA721), (0xA789, 0xA78A),
      (0xAB5B, 0xAB5B)]) \
    (CodeSet.ofRows ideographicRows ∪ katakana ∪ wordExtend ∪ hebrew ∪
      CodeSet.unions (complexScripts.map scriptCodes))

/-- The classes that divide a text into words, by names in small letters. -/
def classes : List (List String × CodeSet) := [
  (["le", "aletter"], letters), (["cr"], codesOf "\r"), (["dq", "doublequote"], codesOf "\""),
  (["extend"], wordExtend),
  (["ex", "extendnumlet"], ofCategories [.connector] ∪ codesOf "\u202f"),
  (["fo", "format"], ofCategories [.format] \ (codesOf "\u200b\u200c\u200d" ∪ wordExtend)),
  (["hl", "hebrewletter"], hebrew), (["ka", "katakana"], katakana), (["lf"], codesOf "\n"),
  (["ml", "midletter"], codesOf ":\u00b7\u0387\u055f\u05f4\u2027\ufe13\ufe55\uff1a"),
  (["mn", "midnum"],
    codesOf ",;\u037e\u0589\u060c\u060d\u066c\u07f8\u2044\ufe10\ufe14\ufe50\ufe54\uff0c\uff1b"),
  (["mb", "midnumlet"], codesOf ".\u2018\u2019\u2024\ufe52\uff07\uff0e"),
  (["nl", "newline"], codesOf "\x0b\x0c\u0085\u2028\u2029"),
  (["nu", "numeric"], ofCategories [.digit] ∪ codesOf "\u066b"),
  (["ri", "regionalindicator"], Property.regionalIndicator),
  (["sq", "singlequote"], codesOf "'"),
  (["wsegspace"], ofCategories [.space] \ codesOf "\u00a0\u2007\u202f"),
  (["zwj"], codesOf "\u200d")]

end WordBreak

namespace SentenceBreak

/-- Characters that belong to the sentence in front of them. -/
def extend : CodeSet :=
  Property.graphemeExtend ∪ ofCategories [.spacingMark] ∪ codesOf "\u200d"

/-- Georgian letters, whose two forms are not used as capital and small letters. -/
def georgian : CodeSet :=
  CodeSet.ofRanges [(0x10D0, 0x10FA), (0x10FD, 0x10FF), (0x1C90, 0x1CBA), (0x1CBD, 0x1CBF)]

/-- Letters that may begin a sentence. -/
def upper : CodeSet :=
  (ofCategories [.title] ∪ Property.uppercase) \ (extend ∪ georgian)

/-- Letters that no sentence begins with. -/
def lower : CodeSet := Property.lowercase \ (extend ∪ ofCategories [.title] ∪ georgian)

/-- Signs that close what they stand behind. -/
def close : CodeSet :=
  (ofCategories [.opening, .closing, .initialQuote, .finalQuote] ∪
    CodeSet.ofRanges [(0x22, 0x22), (0x27, 0x27), (0x275B, 0x2760), (0x2E00, 0x2E01),
      (0x2E06, 0x2E08), (0x2E0B, 0x2E0B), (0x1F676, 0x1F678)]) \ CodeSet.ofRows sentenceTerminalRows

/-- The classes that divide a text into sentences, by names in small letters. -/
def classes : List (List String × CodeSet) :=
  let points : CodeSet := codesOf ".\u2024\ufe52\uff0e"
  [(["at", "aterm"], points), (["cl", "close"], close), (["cr"], codesOf "\r"),
    (["ex", "extend"], extend),
    (["fo", "format"], ofCategories [.format] \ (codesOf "\u200c\u200d" ∪ extend)),
    (["le", "oletter"],
      (Property.alphabetic ∪ codesOf "\u05f3") \ (lower ∪ upper ∪ extend)),
    (["lf"], codesOf "\n"), (["lo", "lower"], lower),
    (["nu", "numeric"], ofCategories [.digit] ∪ codesOf "\u066b\u066c"),
    (["sc", "scontinue"], CodeSet.ofRanges [(0x2C, 0x2D), (0x3A, 0x3B), (0x37E, 0x37E),
      (0x55D, 0x55D), (0x60C, 0x60D), (0x7F8, 0x7F8), (0x1802, 0x1802), (0x1808, 0x1808),
      (0x2013, 0x2014), (0x3001, 0x3001), (0xFE10, 0xFE11), (0xFE13, 0xFE14), (0xFE31, 0xFE32),
      (0xFE50, 0xFE51), (0xFE54, 0xFE55), (0xFE58, 0xFE58), (0xFE63, 0xFE63), (0xFF0C, 0xFF0D),
      (0xFF1A, 0xFF1B), (0xFF64, 0xFF64)]),
    (["se", "sep"], codesOf "\u0085\u2028\u2029"),
    (["sp"], Property.whiteSpace \ codesOf "\n\r\u0085\u2028\u2029"),
    (["st", "sterm"], CodeSet.ofRows sentenceTerminalRows \ points),
    (["up", "upper"], upper)]

end SentenceBreak

end BuildTool.Text

/-!
## What a reader takes for one character

A cluster is a character with those that extend it: combining marks, what is joined to it by a
joiner, the second half of a flag, the rest of a syllable, and the line feed behind a carriage
return.
-/

namespace BuildTool.Text

namespace Cluster

/-- Signs that join a consonant to the next. -/
def linker : CodeSet :=
  CodeSet.ofCodes [0x94D, 0x9CD, 0xACD, 0xB4D, 0xC4D, 0xD4D, 0x1039, 0x17D2, 0x1A60, 0x1B44,
    0x1BAB, 0xA9C0, 0xAAF6, 0x10A3F, 0x11133, 0x113D0, 0x1193E, 0x11A47, 0x11A99, 0x11F42]

def consonant : CodeSet :=
  CodeSet.ofRanges [
    (0x915, 0x939), (0x958, 0x95F), (0x978, 0x97F), (0x995, 0x9A8), (0x9AA, 0x9B0),
    (0x9B2, 0x9B2), (0x9B6, 0x9B9), (0x9DC, 0x9DD), (0x9DF, 0x9DF), (0x9F0, 0x9F1),
    (0xA95, 0xAA8), (0xAAA, 0xAB0), (0xAB2, 0xAB3), (0xAB5, 0xAB9), (0xAF9, 0xAF9),
    (0xB15, 0xB28), (0xB2A, 0xB30), (0xB32, 0xB33), (0xB35, 0xB39), (0xB5C, 0xB5D),
    (0xB5F, 0xB5F), (0xB71, 0xB71), (0xC15, 0xC28), (0xC2A, 0xC39), (0xC58, 0xC5A),
    (0xD15, 0xD3A), (0x1000, 0x102A), (0x103F, 0x103F), (0x1050, 0x1055), (0x105A, 0x105D),
    (0x1061, 0x1061), (0x1065, 0x1066), (0x106E, 0x1070), (0x1075, 0x1081), (0x108E, 0x108E),
    (0x1780, 0x17B3), (0x1A20, 0x1A54), (0x1B0B, 0x1B0C), (0x1B13, 0x1B33), (0x1B45, 0x1B4C),
    (0x1B83, 0x1BA0), (0x1BAE, 0x1BAF), (0x1BBB, 0x1BBD), (0xA989, 0xA98B), (0xA98F, 0xA9B2),
    (0xA9E0, 0xA9E4), (0xA9E7, 0xA9EF), (0xA9FA, 0xA9FE), (0xAA60, 0xAA6F), (0xAA71, 0xAA73),
    (0xAA7A, 0xAA7A), (0xAA7E, 0xAA7F), (0xAAE0, 0xAAEA), (0xABC0, 0xABDA), (0x10A00, 0x10A00),
    (0x10A10, 0x10A13), (0x10A15, 0x10A17), (0x10A19, 0x10A35), (0x11103, 0x11126),
    (0x11144, 0x11144), (0x11147, 0x11147), (0x11380, 0x11389), (0x1138B, 0x1138B),
    (0x1138E, 0x1138E), (0x11390, 0x113B5), (0x11900, 0x11906), (0x11909, 0x11909),
    (0x1190C, 0x11913), (0x11915, 0x11916), (0x11918, 0x1192F), (0x11A00, 0x11A00),
    (0x11A0B, 0x11A32), (0x11A50, 0x11A50), (0x11A5C, 0x11A83), (0x11F04, 0x11F10),
    (0x11F12, 0x11F33)]

/-- What stands in front of a joined consonant: a consonant, and behind it marks with a sign that
joins among them. The characters come nearest first. -/
def joinsConsonant (before : List Char) : Bool :=
  let marks := before.takeWhile fun c =>
    linker.contains c || (c != '\u200c' && extend.contains c) || c == '\u200d'
  marks.any linker.contains && (before.drop marks.length).head?.any consonant.contains

/-- A picture stands in front of a joiner, with marks between them. The characters come nearest
first. -/
def joinsPicture (before : List Char) : Bool :=
  match before with
  | '\u200d' :: rest =>
    (rest.dropWhile extend.contains).head?.any Property.pictographic.contains
  | _ => false

/-- The first part of a Korean syllable goes on with the second. -/
def joinsSyllable (last c : Char) : Bool :=
  if leading.contains last then
    leading.contains c || vowel.contains c || openSyllable.contains c || closedSyllable.contains c
  else if openSyllable.contains last || vowel.contains last then
    vowel.contains c || trailing.contains c
  else (closedSyllable.contains last || trailing.contains last) && trailing.contains c

/-- Ends every cluster. -/
def isBarrier (c : Char) : Bool := c == '\r' || c == '\n' || control.contains c

/-- The cluster whose characters are given, last first, goes on with `c`. -/
def goesOn (cluster : List Char) (c : Char) : Bool :=
  match cluster with
  | [] => false
  | last :: _ =>
    if last == '\r' && c == '\n' then true
    else if isBarrier last || isBarrier c then false
    else
      let flag :=
        Property.regionalIndicator.contains c &&
          (cluster.takeWhile Property.regionalIndicator.contains).length % 2 == 1
      joinsSyllable last c || c == '\u200d' || extend.contains c || spacingMark.contains c ||
        prepend.contains last || (consonant.contains c && joinsConsonant cluster) ||
        (Property.pictographic.contains c && joinsPicture cluster) || flag

end Cluster

/-- The clusters of a text behind the one begun, whose characters are given last first. -/
def clustersFrom : List Char → List Char → List String
  | current, [] => if current.isEmpty then [] else [String.ofList current.reverse]
  | current, c :: rest =>
    if current.isEmpty then clustersFrom [c] rest
    else if Cluster.goesOn current c then clustersFrom (c :: current) rest
    else String.ofList current.reverse :: clustersFrom [c] rest

def clusters (s : String) : List String := clustersFrom [] s.toList

end BuildTool.Text
