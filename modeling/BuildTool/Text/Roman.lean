import BuildTool.Text.HanReadings
import BuildTool.Text.Split

/-!
# Texts in Latin letters

The Latin letters that a character of another script is written with: letter by letter, by the parts
of a Korean syllable, and by the reading of a Chinese character.
-/

namespace BuildTool.Text

/-!
## Latin letters for the characters of other scripts

Runs of characters with the Latin letters that each of them is written with: the code of the first,
and the letters of this and of the following ones. An underscore stands for no letter at all.
-/

/-- The runs, in the order of their codes. -/
def romanRows : List (Nat × List String) := [
  (0xA1, [
    "! C/ PS $? Y= | SS \" (c) a << ! _ (r) - deg +- 2 3 ' u P * , 1 o >> 1/4 1/2 3/4 ? A A",
    "A A A A AE C E E E E I I I I D N O O O O O x O U U U U Y Th ss a a a a a a ae c e e e",
    "e i i i i d n o o o o o / o u u u u y th y A a A a A a C c C c C c C c D d D d E e E e",
    "E e E e E e G g G g G g G g H h H h I i I i I i I i I i IJ ij J j K k k L l L l L l L",
    "l L l N n N n N n 'n ng NG O o O o O o OE oe R r R r R r S s S s S s S s T t T t T t U",
    "u U u U u U u U u U u W w Y y Y Z z Z z Z z s b B B b 6 6 O C c D D D d d 3 @ E F f G",
    "G hv I I K k l l W N n O O o OI oi P p YR 2 2 SH sh t T t T U u Y V Y y Z z ZH ZH zh",
    "zh 2 5 5 ts w | || |= ! DZ Dz dz LJ Lj lj NJ Nj nj A a I i O o U u U u U u U u U u @ A",
    "a A a AE ae G g G g K k O o O o ZH zh j DZ Dz dz G g HV W N n A a AE ae O o A a A a E",
    "e E e I i I i O o O o R r R r U u U u S s T t Y y H h N d OU ou Z z A a E e O o O o O",
    "o O o Y y l n t j db qp A C c L T s z ? ? B U V E e J j Q q R r Y y a a a b o c d d e",
    "@ @ e e e e j g g g g u Y h h i i I l l l lZ W W m n n N o OE O F r r r r r r r R R s",
    "S j S S t t u U v ^ w y Y z z Z Z ? ? ? C @ B E G H j k L q ? ? dz dZ dz ts tS tC fN",
    "ls lz WW ]]"]),
  (0x2B0, ["k h j r r r r w y"]),
  (0x300, [
    "_ _ _ _ _ _ _ _ _ _ _ _ _ _ _ _ _ _ _ _ _ _ _ _ _ _ _ _ _ _ _ _ _ _ _ _ _ _ _ _ _ _ _",
    "_ _ _ _ _ _ _ _ _ _ _ _ _ _ _ _ _ _ _ _ _ _ _ _ _ _ _ _ _ _ _ _ _ _ _ _ _ _ _ _ _ _ _",
    "_ _ _ _ _ _ _ _ _ _ _ _ _ a e i o u c d h m r t v x"]),
  (0x384, ["' ' A ; E E I"]),
  (0x38C, ["O"]),
  (0x38E, ["U O I A B G D E Z E Th I K L M N Ks O P R"]),
  (0x3A3, [
    "S T U Ph Kh Ps O I U a e e i u a b g d e z e th i k l m n x o p r s s t u ph kh ps o i",
    "u o u o"]),
  (0x3D0, ["b th U U U ph p &"]),
  (0x3DA, ["St st W w Q q Sp sp Sh sh F f Kh kh H h G g CH ch Ti ti k r s j"]),
  (0x400, [
    "Ie Io Dj Gj Ie Dz I Yi J Lj Nj Tsh Kj I U Dzh A B V G D E Zh Z I I K L M N O P R S T U",
    "F Kh Ts Ch Sh Shch ' Y ' E Iu Ia a b v g d e zh z i i k l m n o p r s t u f kh ts ch",
    "sh shch ' y ' e iu ia ie io dj gj ie dz i yi j lj nj tsh kj i u dzh O o E e Ie ie E e",
    "Ie ie O o Io io Ks ks Ps ps F f Y y Y y u u O o O o Ot ot Q q"]),
  (0x48A, [
    "I i ' ' R r G' g' G' g' G' g' Zh' zh' Z' z' K' k' K' k' K' k' K' k' N' n' Ng ng P' p'",
    "Kh kh S' s' T' t' U u U' u' Kh' kh' Tts tts Ch' ch' Ch' ch' H h Ch ch Ch' ch' ` Zh zh",
    "K' k'"]),
  (0x4C7, ["N' n'"]),
  (0x4CB, ["Ch ch"]),
  (0x4D0, ["a a A a Ae ae Ie ie @ @ @ @ Zh zh Z z Dz dz I i I i O o O o O o E e U u U u U u Ch ch"]),
  (0x4F8, ["Y y"]),
  (0x531, [
    "A B G D E Z E E T` Zh I L Kh Ts K H Dz Gh Ch M Y N Sh O Ch` P J Rh S V T R Ts` W P` K`",
    "O F"]),
  (0x561, [
    "a b g d e z e e t` zh i l kh ts k h dz gh ch m y n sh o ch` p j rh s v t r ts` w p` k`",
    "o f"]),
  (0x591, [
    "_ _ _ _ _ _ _ _ _ _ _ _ _ _ _ _ _ _ _ _ _ _ _ _ _ _ _ _ _ _ _ _ _ _ _ _ _ _ _ _ _ _ _",
    "_ _"]),
  (0x5BF, ["_"]),
  (0x5C1, ["_ _"]),
  (0x5C4, ["_"]),
  (0x5D0, ["_ b g d h v z kh t y k k l m m n n s ` p p ts ts q r sh t"]),
  (0x5F0, ["V oy i ' \""]),
  (0x60C, [","]),
  (0x61B, [";"]),
  (0x61F, ["?"]),
  (0x621, ["_ a ' w' _ y' _ b @ t th j H kh d dh r z s sh S D T Z ` G"]),
  (0x640, ["_ f q k l m n h w ~ y an un in a u i W _ _ ' '"]),
  (0x660, ["0 1 2 3 4 5 6 7 8 9 % . , *"]),
  (0x671, [
    "' ' ' _ ' ' 'w 'u 'y tt tth b t T p th bh 'h H ny dy H ch cch dd D D Dt dh ddh d D D",
    "rr R R R R R R j R S S S S S T GH F F F v f ph Q Q kh k K K ng K g G N G G G L L L L N",
    "N N N N h Ch hy h H @ W oe oe u yu yu W v y Y Y W _ _ y y' . ae"]),
  (0x6F0, ["0 1 2 3 4 5 6 7 8 9"]),
  (0x901, ["N N H"]),
  (0x905, [
    "a aa i ii u uu R L eN e e ai oN o o au k kh g gh ng c ch j jh ny tt tth dd ddh nn t th",
    "d dh n nnn p ph b bh m y r rr l l lll v sh ss s h"]),
  (0x93C, ["' ' aa i ii u uu R RR eN e e ai oN o o au _"]),
  (0x950, ["AUM ' ' ` '"]),
  (0x958, ["q khh ghh z dddh rh f yy RR LL L LL / // 0 1 2 3 4 5 6 7 8 9 ."]),
  (0xE01, [
    "k kh kh kh kh kh ng cch ch ch ch ch y d t th th th n d t th th th n b p ph f ph f ph m",
    "y r R l L w s s s h l ` h ~ a a aa am i ii ue uue u uu '"]),
  (0xE40, ["e ae o ai ai ao + _ _ _ _ _ _ M _ * 0 1 2 3 4 5 6 7 8 9 // ///"]),
  (0x10A0, [
    "A B G D E V Z T` I K L M N O P Zh R S T U P` K` G Q Sh Ch` Ts Dz Ts` Ch Kh J H E Y W",
    "Q` O`"]),
  (0x10D0, [
    "a b g d e v z t` i k l m n o p zh r s t u p` k` g q sh ch` ts dz ts` ch kh j h e y w",
    "q` o` f"]),
  (0x1100, ["g gg n d dd r m b bb s ss _ j jj c k t p h"]),
  (0x1161, ["a ae ya yae eo e yeo ye o wa wae oe yo u weo we wi yu eu yi i"]),
  (0x11A8, ["g gg gs n nj nh d l lg lm lb ls lt lp lh m b bs s ss ng j c k t p h"]),
  (0x1E00, [
    "A a B b B b B b C c D d D d D d D d D d E e E e E e E e E e F f G g H h H h H h H h H",
    "h I i I i K k K k K k L l L l L l L l M m M m M m N n N n N n N n O o O o O o O o P p",
    "P p R r R r R r R r S s S s S s S s S s T t T t T t T t U u U u U u U u U u V v V v W",
    "w W w W w W w W w X x X x Y y Z z Z z Z z h t w y a S"]),
  (0x1E9E, ["Ss"]),
  (0x1EA0, [
    "A a A a A a A a A a A a A a A a A a A a A a A a E e E e E e E e E e E e E e E e I i I",
    "i O o O o O o O o O o O o O o O o O o O o O o O o U u U u U u U u U u U u U u Y y Y y",
    "Y y Y y"]),
  (0x1F00, ["a a a a a a a a A A A A A A A A e e e e e e"]),
  (0x1F18, ["E E E E E E"]),
  (0x1F20, ["e e e e e e e e E E E E E E E E i i i i i i i i I I I I I I I I o o o o o o"]),
  (0x1F48, ["O O O O O O"]),
  (0x1F50, ["u u u u u u u u"]),
  (0x1F59, ["U"]),
  (0x1F5B, ["U"]),
  (0x1F5D, ["U"]),
  (0x1F5F, ["U o o o o o o o o O O O O O O O O a a e e e e i i o o u u o o"]),
  (0x1F80, [
    "a a a a a a a a A A A A A A A A e e e e e e e e E E E E E E E E o o o o o o o o O O O",
    "O O O O O a a a a a"]),
  (0x1FB6, ["a a A A A A A"]),
  (0x1FBE, ["i"]),
  (0x1FC2, ["e e e"]),
  (0x1FC6, ["e e E E E E E"]),
  (0x1FD0, ["i i i i"]),
  (0x1FD6, ["i i I I I I"]),
  (0x1FE0, ["u u u u r r u u U U U U R"]),
  (0x1FF2, ["o o o"]),
  (0x1FF6, ["o o O O O O O"]),
  (0x200B, ["_ _ _ _ _"]),
  (0x202A, ["_ _ _ _ _"]),
  (0x2030, ["%0"]),
  (0x2060, ["_ _ _ _ _ _ _ _ _ _ _ _ _ _ _ _ 0 i"]),
  (0x2074, ["4 5 6 7 8 9"]),
  (0x207F, ["n 0 1 2 3 4 5 6 7 8 9"]),
  (0x2090, ["a e o x"]),
  (0x2095, ["h k l m n p s t"]),
  (0x20A8, ["Rs"]),
  (0x20AC, ["EUR"]),
  (0x2100, ["a/c a/s C"]),
  (0x2105, ["c/o c/u"]),
  (0x210A, ["g H H H h"]),
  (0x2110, ["I I L l"]),
  (0x2115, ["N No"]),
  (0x2119, ["P Q R R R"]),
  (0x2120, ["SM TEL (tm)"]),
  (0x2124, ["Z"]),
  (0x2128, ["Z"]),
  (0x212A, ["K"]),
  (0x212C, ["B C"]),
  (0x212F, ["e E F"]),
  (0x2133, ["M o"]),
  (0x2139, ["i"]),
  (0x213B, ["FAX"]),
  (0x2145, ["D d e i j"]),
  (0x2150, [
    "1/7 1/9 1/10 1/3 2/3 1/5 2/5 3/5 4/5 1/6 5/6 1/8 3/8 5/8 7/8 1/ I II III IV V VI VII",
    "VIII IX X XI XII L C D M i ii iii iv v vi vii viii ix x xi xii l c d m"]),
  (0x2189, ["0/3"]),
  (0x2460, [
    "1 2 3 4 5 6 7 8 9 10 11 12 13 14 15 16 17 18 19 20 (1) (2) (3) (4) (5) (6) (7) (8) (9)",
    "(10) (11) (12) (13) (14) (15) (16) (17) (18) (19) (20) 1. 2. 3. 4. 5. 6. 7. 8. 9. 10.",
    "11. 12. 13. 14. 15. 16. 17. 18. 19. 20. (a) (b) (c) (d) (e) (f) (g) (h) (i) (j) (k)",
    "(l) (m) (n) (o) (p) (q) (r) (s) (t) (u) (v) (w) (x) (y) (z) A B C D E F G H I J K L M",
    "N O P Q R S T U V W X Y Z a b c d e f g h i j k l m n o p q r s t u v w x y z 0"]),
  (0x3041, [
    "a a i i u u e e o o ka ga ki gi ku gu ke ge ko go sa za shi ji su zu se ze so zo ta da",
    "chi di tsu tsu du te de to do na ni nu ne no ha ba pa hi bi pi fu bu pu he be pe ho bo",
    "po ma mi mu me mo ya ya yu yu yo yo ra ri ru re ro wa wa wi we wo n vu"]),
  (0x30A1, [
    "a a i i u u e e o o ka ga ki gi ku gu ke ge ko go sa za shi ji su zu se ze so zo ta da",
    "chi di tsu tsu du te de to do na ni nu ne no ha ba pa hi bi pi fu bu pu he be pe ho bo",
    "po ma mi mu me mo ya ya yu yu yo yo ra ri ru re ro wa wa wi we wo n vu ka ke va vi ve",
    "vo"]),
  (0x30FC, ["_"]),
  (0x3131, [
    "g gg gs n nj nh d dd r lg lm lb ls lt lp rh m b bb bs s ss ng j jj c k t p h a ae ya",
    "yae eo e yeo ye o wa wae oe yo u weo we wi yu eu yi i"]),
  (0x3250, ["PTE 21 22 23 24 25 26 27 28 29 30 31 32 33 34 35"]),
  (0x32B1, ["36 37 38 39 40 41 42 43 44 45 46 47 48 49 50"]),
  (0x32CC, ["Hg erg eV LTD"]),
  (0x3371, ["hPa da AU bar oV pc dm dm2 dm3 IU"]),
  (0x3380, ["pA nA"]),
  (0x3383, ["mA kA KB MB GB cal kcal pF nF"]),
  (0x338E, ["mg kg Hz kHz MHz GHz THz"]),
  (0x3396, ["ml dl kl fm nm"]),
  (0x339C, ["mm cm km mm2 cm2 m2 km2 mm3 cm3 m3 km3"]),
  (0x33A9, ["Pa kPa MPa GPa rad"]),
  (0x33B0, ["ps ns"]),
  (0x33B3, ["ms pV nV"]),
  (0x33B7, ["mV kV MV pW nW"]),
  (0x33BD, ["mW kW MW"]),
  (0x33C2, ["a.m. Bq cc cd"]),
  (0x33C7, ["Co. dB Gy ha HP in KK KM kt lm ln log lx mb mil mol PH p.m. PPM PR sr Sv Wb"]),
  (0x33FF, ["gal"]),
  (0xFB00, ["ff fi fl ffi ffl st st"]),
  (0xFE00, ["_ _ _ _ _ _ _ _ _ _ _ _ _ _ _ _"]),
  (0xFEFF, ["_"]),
  (0xFF10, ["0 1 2 3 4 5 6 7 8 9"]),
  (0xFF21, ["A B C D E F G H I J K L M N O P Q R S T U V W X Y Z"]),
  (0xFF41, ["a b c d e f g h i j k l m n o p q r s t u v w x y z"]),
  (0xFF66, [
    "wo a i u e o ya yu yo tsu _ a i u e o ka ki ku ke ko sa shi su se so ta chi tsu te to",
    "na ni nu ne no ha hi fu he ho ma mi mu me mo ya yu yo ra ri ru re ro wa n"]),
  (0x1D400, [
    "A B C D E F G H I J K L M N O P Q R S T U V W X Y Z a b c d e f g h i j k l m n o p q",
    "r s t u v w x y z A B C D E F G H I J K L M N O P Q R S T U V W X Y Z a b c d e f g"]),
  (0x1D456, [
    "i j k l m n o p q r s t u v w x y z A B C D E F G H I J K L M N O P Q R S T U V W X Y",
    "Z a b c d e f g h i j k l m n o p q r s t u v w x y z A"]),
  (0x1D49E, ["C D"]),
  (0x1D4A2, ["G"]),
  (0x1D4A5, ["J K"]),
  (0x1D4A9, ["N O P Q"]),
  (0x1D4AE, ["S T U V W X Y Z a b c d"]),
  (0x1D4BB, ["f"]),
  (0x1D4BD, ["h i j k l m n"]),
  (0x1D4C5, [
    "p q r s t u v w x y z A B C D E F G H I J K L M N O P Q R S T U V W X Y Z a b c d e f",
    "g h i j k l m n o p q r s t u v w x y z A B"]),
  (0x1D507, ["D E F G"]),
  (0x1D50D, ["J K L M N O P Q"]),
  (0x1D516, ["S T U V W X Y"]),
  (0x1D51E, ["a b c d e f g h i j k l m n o p q r s t u v w x y z A B"]),
  (0x1D53B, ["D E F G"]),
  (0x1D540, ["I J K L M"]),
  (0x1D546, ["O"]),
  (0x1D54A, ["S T U V W X Y"]),
  (0x1D552, [
    "a b c d e f g h i j k l m n o p q r s t u v w x y z A B C D E F G H I J K L M N O P Q",
    "R S T U V W X Y Z a b c d e f g h i j k l m n o p q r s t u v w x y z A B C D E F G H",
    "I J K L M N O P Q R S T U V W X Y Z a b c d e f g h i j k l m n o p q r s t u v w x y",
    "z A B C D E F G H I J K L M N O P Q R S T U V W X Y Z a b c d e f g h i j k l m n o p",
    "q r s t u v w x y z A B C D E F G H I J K L M N O P Q R S T U V W X Y Z a b c d e f g",
    "h i j k l m n o p q r s t u v w x y z A B C D E F G H I J K L M N O P Q R S T U V W X",
    "Y Z a b c d e f g h i j k l m n o p q r s t u v w x y z A B C D E F G H I J K L M N O",
    "P Q R S T U V W X Y Z a b c d e f g h i j k l m n o p q r s t u v w x y z"]),
  (0x1D7CE, [
    "0 1 2 3 4 5 6 7 8 9 0 1 2 3 4 5 6 7 8 9 0 1 2 3 4 5 6 7 8 9 0 1 2 3 4 5 6 7 8 9 0 1 2",
    "3 4 5 6 7 8 9"]),
  (0x1F100, ["0. 0, 1, 2, 3, 4, 5, 6, 7, 8, 9,"]),
  (0x1F110, [
    "(A) (B) (C) (D) (E) (F) (G) (H) (I) (J) (K) (L) (M) (N) (O) (P) (Q) (R) (S) (T) (U)",
    "(V) (W) (X) (Y) (Z)"]),
  (0x1F12B, ["C R CD WZ"]),
  (0x1F130, ["A B C D E F G H I J K L M N O P Q R S T U V W X Y Z HV MV SD SS PPV WC"])]

/-! ## Syllables and readings -/

/-- Consonants that begin a Korean syllable. -/
def koreanInitials : Array String :=
  #["g", "gg", "n", "d", "dd", "r", "m", "b", "bb", "s", "ss", "", "j", "jj", "c", "k", "t", "p",
    "h"]

def koreanVowels : Array String :=
  #["a", "ae", "ya", "yae", "eo", "e", "yeo", "ye", "o", "wa", "wae", "oe", "yo", "u", "weo", "we",
    "wi", "yu", "eu", "yi", "i"]

/-- Consonants that end a Korean syllable. -/
def koreanFinals : Array String :=
  #["", "g", "gg", "gs", "n", "nj", "nh", "d", "l", "lg", "lm", "lb", "ls", "lt", "lp", "lh", "m",
    "b", "bs", "s", "ss", "ng", "j", "c", "k", "t", "p", "h"]

/-- The letters of the Korean syllable with a number, counted from the first. -/
def koreanSyllable (n : Nat) : String :=
  koreanInitials.getD (n / 588) "" ++ koreanVowels.getD (n / 28 % 21) "" ++
    koreanFinals.getD (n % 28) ""

/-- The first code of Chinese characters. -/
def firstHan : Nat := 0x4E00

/-- The readings of the Chinese characters by their codes. -/
def hanTable : Array String :=
  hanReadings.foldl (fun table (syllable, rows) =>
    rows.foldl (fun table row =>
      row.toList.foldl (fun (table : Array String) c =>
        table.setIfInBounds (c.toNat - firstHan) syllable) table) table)
    (Array.replicate 0x51A6 "")

def rowWords (rows : List String) : Array String :=
  (rows.flatMap fun row => (splitChar ' ' row.toList).map fun w =>
    if w == ['_'] then "" else String.ofList w).toArray

def romanRuns : List (Nat × Array String) := romanRows.map fun (first, rows) => (first, rowWords rows)

def runLetters? (code : Nat) : Option String :=
  (romanRuns.find? fun r => r.1 ≤ code && code < r.1 + r.2.size).bind fun r => r.2[code - r.1]?

/-- The Latin letters for a character, if it has any. -/
def romanized? (c : Char) : Option String :=
  let code := c.toNat
  if code < 128 then some (String.singleton c)
  else if 0xAC00 ≤ code ∧ code ≤ 0xD7A3 then some (koreanSyllable (code - 0xAC00))
  else if firstHan ≤ code then
    match hanTable[code - firstHan]? with
    | some syllable => if syllable = "" then none else some (syllable ++ " ")
    | none => runLetters? code
  else runLetters? code

end BuildTool.Text
