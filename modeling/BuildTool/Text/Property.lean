import BuildTool.Text.Category
import BuildTool.Text.Fold

/-!
# Properties that a character has or has not

Some properties have rows of their own; the others follow from them, from the general categories
and from the maps between capital and small letters.
-/

/-!
## Rows of properties

The characters with properties that do not follow from others, as packed ranges.
-/

namespace BuildTool.Text

/-- Letters by use rather than by category. -/
def otherAlphabeticRows : List String := [
  "Fq0tcAid10111110I2aQ1c16g0F36432140D10ufG3aF31381213K30y1b366jW112e1152a1t2w162121a0a1t2w144",
  "12140u130b2w171211l1m242w16212191a1u0x143212a0I14Z16121281b1t2w16121281b1f0c3w161212a0a1t2L2",
  "51017i1z1026i0D302511g0D5i9a1D1O3b1023n342122633db10a3UT11u1u1u1C2iy51C10W3b48+64Z192jK21b2R",
  "14Q1ey12u821Z1aS1iycB1BW1T1WH2vUDu7C11Cb080n4Y21S1f10Z10G14sbN13Q1bF10D2dc081N12S10122150M14",
  "50N77TZj0XC24GU121153Uo3B20Ba1P20D82V1dN11b2N1890z12E1bi1Z12Q1ce1y28206020z49n3w162121a0a1U2",
  "810201311H3c12K3hN7626t1S2e10K3aH3dB8cX7511213010O462540s9K1413iaO1dXc716T2l1dw353011121030C",
  "241113ya39110Q1632zOggAR301W173z21MFj0Bx861g261114E30XF20I-1p6p6p"]

/-- Small characters that are no small letters. -/
def otherLowercaseRows : List String := [
  "K50f0Vf871u4A30U10BM30PB3+1d0C1E1Rl0d0gcT6fQqpSy11+Qu1S60B4231Cr390WAn0221J118VDW1z1"]

/-- Capital characters that are no capital letters. -/
def otherUppercaseRows : List String := [
  "AL8fGqpADT3p6p6p"]

def otherMathRows : List String := [
  "+20Rr220q121AB70r2b0A13o1e1B2c403144i04029103460312112153354L24231111101421414h2110161061C93",
  "I5110o0h0zd1c854512134e01025o1Z1010t391Wa1v9Tcl-13A11DDV101040T6010BGV1U21G2112021231b10161A",
  "21327161r131410361Ta2o1o1u1o1u1o1u1o1u1o172R1AQ531q11102019131010604010101211102010101010111",
  "02316131310191g52141g"]

/-- Characters that extend a cluster without being such marks. -/
def otherGraphemeExtendRows : List String := [
  "+N20o0Gb0o0G30o0I7010411191H30o0X30f0VJ20u0AA10501051F30H21YA10BB41DJu0M30zOl1AR40U30I80e090",
  "A3090201250A70c0R70G80Zj0c0DQ10OFk1TLo165NVLo-2"]

/-- Further characters that may begin a name. -/
def otherIdStartRows : List String := [
  "FE61RE20l0Mx31"]

/-- Further characters that may stand in a name. -/
def otherIdContinueRows : List String := [
  "X50Pm0B-38IT10RR11NH40JTT10"]

/-- Further characters that are not shown when not supported. -/
def otherIgnorableRows : List String := [
  "Pq0PQ31TS11PF20+H40xRT10P28HAAq01tA3-3Q7PQ3"]

def bidiControlRows : List String := [
  "yQ10RP61q4X13"]

def dashSignRows : List String := [
  "N10yK10T10BS30FA10JA25z10H10f0Gc0EA3020v140s0+d0j0P30QMT11F10a0J50AT30+90"]

def deprecatedRows : List String := [
  "Ja0JJ10DI2010JB21FG25Zl1WGXr0"]

/-- Characters that change the meaning of another. -/
def diacriticRows : List String := [
  "+2010H20604021Xf+41755h14091z74R60X1M110111110D4741G414132D2qx2aw1aC11+37J19grz10g033s0K20g0",
  "O30g0O30g0P12y10g070X30O30g0O30g0N31g0y30P30c510L30d4L21r0101041C2211+10Q3011I1144p610a1Bm2U",
  "t1u0U4a90xa2E90k720Q1e2aI30f0G18W11w10b1C21A25S2o406022S1+1Q1D15bF1azd012b2d2d2d1QH32z90wf5J",
  "33-20SLt0c110s1S21eB1G32N31c0F10X40rhZ13E10-20c0E10V42B23T10E3492A41QZj0BofO8010P10N11D20yn0",
  "-E151J118zj240F51xh5G10q4Pc2G2aR13A60J10I21Y31+10M2092I31S51Q21g0o634Z2211d1-2030x31x71+30W3",
  "1T30N81C8140y40T20i0R20Fd0C8011R20Jd1n0MH5eZGb0AO24x16Uh1ChgQ21+-f31611BY7N12mAh2358726u3CU3",
  "z1C66Xb0z13+n1An6N3212"]

def emojiRows : List String := [
  "D106059P3040Ny70c0Y60m0w25f1Pb1c0G50pa42H60H71a090w1314902021204020112030318250105bb1201110i",
  "021i5101131502141b15120511011k155132040202510201010603060a1f02040104210b1Q1290e0e0Ub1Pe2j1T1",
  "040wG10c0Zi010KLP30K60A51c1e029L2p11n0k028l1O5B12P321122S2221G81+1b51n7127c0232041d120819052",
  "c28220104060306V2Q1F257224930113029D7b40x8O1191Y5Q3c395X17e2a68"]

/-- Characters that pictures are put together from. -/
def emojiComponentRows : List String := [
  "D106059T+70V60LJX10W+y1pxf4QN13MTBo-2"]

/-- Pictures that take a skin tone. -/
def emojiModifierBaseRows : List String := [
  "zQ90x60g3XDT30y122022V312ali3042127010o0J6140l041O5234T20g290b0-h02087609922Y10z111110h21cF7",
  "2K18"]

/-- Characters shown as pictures without being asked. -/
def emojiPresentationRows : List String := [
  "wY81N633020Jg1l1S1bL10j0d081h1518050l0711040207041s0D10104210z12o0e0xq1T1040OFR30K60+5029L2p",
  "10o0k02412l1O5A1c81F21lcK144cg303G2101w52+1d31ni0q1d0W2U2Q1F260322243b178D7b40x8O1191Y5Q3c39",
  "5X17e2a68"]

/-- Pictures, and what is kept free for more of them. -/
def pictographicRows : List String := [
  "J5040Ny70c0Y60m0w25f1Pb1c0-20G20pa42H60H71a090w13151b1R3aV32a1010603060a1f02040104210b4N1290",
  "e0e0Ub1Pe2j1T1040wG10c0Zi010GLP3-7d2v0y15c1e029iY1rea0k028139Rd5z98J8Q1-3U3bV2K1c3Y17a5I17uR",
  "2cO1191YdA8zv"]

def extenderRows : List String := [
  "X50Yg1Or0Zd0Wj0J40Z20Qn0-30DK20Y10Dj0Oc0E20Jy40L14H31z22WYr0WP10Cu0m0J40M30l1xDl0QA21LO10r04",
  "0HG10F90U31Sf2PG10JFk1yE1110YKs1RF10Uq2"]

/-- Signs that join two consonants. -/
def graphemeLinkRows : List String := [
  "NK20-30-30-30-30-30-30-30N31g0y30P30-30J60U51ZW11u0z40Nk0D70F31G21LM40GUu0F10X40O40M30V90W70",
  "RSn0GQ10J10e0Z10Z31L40U30U50C30A42R30-30y70-30W30U30N80D81B50T20i0R20Fd0E81R20Jd1MPg0"]

def hyphenRows : List String := [
  "N10-30yG10xT40JA21FQ30Dn0HLT10J50X20"]

def ideographicRows : List String := [
  "GAc1p8e2Fu-N6A2-PkAImNb2J3KIt0rX-58VG1J19HD9LcEIj-WJ1A1ZB46z62BU5eQJ7fNjCN2zgCP1Kw45-C4"]

/-- Vowels written in front of their consonant. -/
def logicalOrderExceptionRows : List String := [
  "AS34x34QX2220wHE112011"]

def modifierCombiningMarkRows : List String := [
  "US1120D406031Bf11230v0"]

def noncharacterRows : List String := [
  "QO-1vOg1+--11+--11+--11+--11+--11+--11+--11+--11+--11+--11+--11+--11+--11+--11+--11+--11"]

def patternSyntaxRows : List String := [
  "B1ea6q310q3C1610111011404030n0v0YY7n8e2i19R9PmA5VjuLD1Ag-3Bc24of0NIT11F81"]

/-- Marks that go in front of a run of digits. -/
def prependedMarkRows : List String := [
  "AQ15X60R10Ac1Q20w+B20f0"]

def quotationMarkRows : List String := [
  "C1040D40f0yw77p1HQ30Je3d2BRT13z5040w21"]

def radicalRows : List String := [
  "AUbp1Y2cV6"]

def sentenceTerminalRows : List String := [
  "B10c0g0JK10T42U50L12W70z101031F91EX11Wo041Fo0G61z41N1050w91Cb3C51a121t2x51B21Et0n192PF32S90d",
  "0m1Nd0yHt0O81D7030+b1W21-20Y41T42Q41Z70GRk021x1031J50c0g0B20UX21zH14M13z51V33-32B4160g1Y2111",
  "M30K91V31Vb15eJ31Z72Fg010x71X21Ed1Ul1K21JZi1F40B21b0Jh1I90GQj0IP70"]

/-- Letters with a dot that a mark above replaces. -/
def softDottedRows : List String := [
  "J31E60Z80u0U10k0Aa0C3010JI60T10d030E40z40Fd0W61SZ20FzJ31S11S11S11S11S11S11S11S11S11S11S11S11",
  "GE20R91q0"]

/-- Signs that end a part of a text. -/
def terminalPunctuationRows : List String := [
  "B10a010b130+p080Bg0Z10I20e012U50L1a10L71W1517v0F81UH11M5045X91Vo7Fo0y32H21z4230H1321w91Cb3C5",
  "1a112t2x54+11Et0n192PF32S90d040a01131Md1xHt1N82D74+b1W21-20X42T42-30g1Z70GRk021Z1213J50a010b",
  "130B2020wB10Q10GE10H60W91Y45E25Z23Yt4M13z56Q33-32B4160g1Y24M30K91V32c1Gb33eJ31Z72Fg010x71X21",
  "41+c2N10Fk1K21LJ14ZPh1F40B22a0Jh1H91GQj0HP73"]

def unifiedIdeographRows : List String := [
  "AAd-N6A2-PkOQm11011a0101122WOB2-WJ1A1ZB46z62BU5eQJ7fNjCN4Kw45-C4"]

/-- Signs that choose a form of the character before them. -/
def variationSelectorRows : List String := [
  "LA6210QPZ1fQXAqP7"]

end BuildTool.Text

/-! ## What a character has -/

namespace BuildTool.Text

namespace Property

def ofCategories (categories : List Category) : CodeSet := Category.codesOf categories

def letters : CodeSet :=
  ofCategories [.capital, .small, .title, .modifierLetter, .otherLetter]

def alphabetic : CodeSet :=
  letters ∪ ofCategories [.letterNumber] ∪ CodeSet.ofRows otherAlphabeticRows

def lowercase : CodeSet := ofCategories [.small] ∪ CodeSet.ofRows otherLowercaseRows

def uppercase : CodeSet := ofCategories [.capital] ∪ CodeSet.ofRows otherUppercaseRows

def cased : CodeSet := lowercase ∪ uppercase ∪ ofCategories [.title]

/-- Characters that the case of a word does not depend on. -/
def caseIgnorable : CodeSet :=
  ofCategories [.nonspacingMark, .enclosingMark, .format, .modifierLetter, .modifierSign] ∪
    CodeSet.ofCodes [0x27, 0x2E, 0x3A, 0xB7, 0x387, 0x55F, 0x5F4, 0x2018, 0x2019, 0x2024, 0x2027,
      0xFE13, 0xFE52, 0xFE55, 0xFF07, 0xFF0E, 0xFF1A]

def whiteSpace : CodeSet :=
  ofCategories [.space, .line, .paragraph] ∪ CodeSet.ofRanges [(9, 13), (0x85, 0x85)]

def math : CodeSet := ofCategories [.mathematical] ∪ CodeSet.ofRows otherMathRows

def graphemeExtend : CodeSet :=
  ofCategories [.enclosingMark, .nonspacingMark] ∪ CodeSet.ofRows otherGraphemeExtendRows

/-- Characters that stand alone. -/
def graphemeBase : CodeSet :=
  (ofCategories [.control, .format, .privateUse, .unassigned, .line, .paragraph] ∪
    Category.surrogateCodes ∪ graphemeExtend).complement

def patternWhiteSpace : CodeSet :=
  CodeSet.ofRanges [(9, 13), (32, 32), (0x85, 0x85), (0x200E, 0x200F), (0x2028, 0x2029)]

/-- Signs kept for patterns, and the white space between them. -/
def patternCharacters : CodeSet := CodeSet.ofRows patternSyntaxRows ∪ patternWhiteSpace

def idStart : CodeSet :=
  (letters ∪ ofCategories [.letterNumber] ∪ CodeSet.ofRows otherIdStartRows) \ patternCharacters

/-- Characters that may stand in a name. -/
def idContinue : CodeSet :=
  (idStart ∪ ofCategories [.nonspacingMark, .spacingMark, .digit, .connector] ∪
    CodeSet.ofRows otherIdContinueRows) \ patternCharacters

/-- Characters whose plain forms may not stand where they do. -/
def unstable : CodeSet :=
  CodeSet.ofRanges [(0x37A, 0x37A), (0x309B, 0x309C), (0xFC5E, 0xFC63), (0xFDFA, 0xFDFB),
    (0xFE70, 0xFE70), (0xFE72, 0xFE72), (0xFE74, 0xFE74), (0xFE76, 0xFE76), (0xFE78, 0xFE78),
    (0xFE7A, 0xFE7A), (0xFE7C, 0xFE7C), (0xFE7E, 0xFE7E)]

/-- Characters that a name may begin with, in any form of it. -/
def xidStart : CodeSet :=
  idStart \ (unstable ∪ CodeSet.ofCodes [0xE33, 0xEB3, 0xFF9E, 0xFF9F])

/-- Characters that may stand in a name, in any form of it. -/
def xidContinue : CodeSet := idContinue \ unstable

/-- Characters that are not shown when not supported. -/
def defaultIgnorable : CodeSet :=
  (CodeSet.ofRows otherIgnorableRows ∪ ofCategories [.format] ∪
    CodeSet.ofRows variationSelectorRows) \
    (whiteSpace ∪ CodeSet.ofRanges [(0xFFF9, 0xFFFB), (0x13430, 0x13440)] ∪
      CodeSet.ofRows prependedMarkRows)

/-- Characters that become others in small letters. -/
def changesInLower : CodeSet :=
  shiftedCodes lowerRows ∪ CodeSet.ofCodes (lowerLong.map (·.1))

/-- Characters that become others in capital letters. -/
def changesInUpper : CodeSet :=
  shiftedCodes upperRows ∪ CodeSet.ofCodes (upperLong.map (·.1))

/-- Characters that become others at the beginning of a word. -/
def changesInTitle : CodeSet :=
  (changesInUpper ∪ CodeSet.ofCodes [0x1C4, 0x1C7, 0x1CA, 0x1F1]) \
    (ofCategories [.title] ∪ CodeSet.ofRanges [(0x10D0, 0x10FA), (0x10FD, 0x10FF)])

/-- Characters that become others when case is not told apart. -/
def changesInFolding : CodeSet :=
  (changesInLower ∪ CodeSet.ofRanges [(0xB5, 0xB5), (0xDF, 0xDF), (0x149, 0x149),
      (0x17F, 0x17F), (0x345, 0x345), (0x3C2, 0x3C2), (0x3D0, 0x3D1), (0x3D5, 0x3D6),
      (0x3F0, 0x3F1), (0x3F5, 0x3F5), (0x587, 0x587), (0x13F8, 0x13FD), (0x1C80, 0x1C88),
      (0x1E9A, 0x1E9B), (0x1F80, 0x1F87), (0x1F90, 0x1F97), (0x1FA0, 0x1FA7), (0x1FB2, 0x1FB4),
      (0x1FB7, 0x1FB7), (0x1FC2, 0x1FC4), (0x1FC7, 0x1FC7), (0x1FF2, 0x1FF4), (0x1FF7, 0x1FF7),
      (0xAB70, 0xABBF), (0xFB00, 0xFB06), (0xFB13, 0xFB17)]) \
    CodeSet.range 0x13A0 0x13F5

def emojiModifier : CodeSet := CodeSet.range 0x1F3FB 0x1F3FF

def regionalIndicator : CodeSet := CodeSet.range 0x1F1E6 0x1F1FF

/-- Pictures, and what is kept free for more of them. -/
def pictographic : CodeSet := CodeSet.ofRows pictographicRows

def joinControl : CodeSet := CodeSet.range 0x200C 0x200D

/-- Signs of differentiation, in any style. -/
def compatibleMathStart : CodeSet :=
  CodeSet.ofCodes [0x2202, 0x2207, 0x221E, 0x1D6C1, 0x1D6DB, 0x1D6FB, 0x1D715, 0x1D735, 0x1D74F,
    0x1D76F, 0x1D789, 0x1D7A9, 0x1D7C3]

end Property

open Property in
/-- The properties, each with its short and its long name in small letters. -/
def properties : List (List String × CodeSet) := [
  (["ahex", "asciihexdigit"], CodeSet.ofRanges [(48, 57), (65, 70), (97, 102)]),
  (["alpha", "alphabetic"], alphabetic),
  (["bidic", "bidicontrol"], CodeSet.ofRows bidiControlRows),
  (["ci", "caseignorable"], caseIgnorable),
  (["cased"], cased),
  (["cwcf", "changeswhencasefolded"], changesInFolding),
  (["cwcm", "changeswhencasemapped"], changesInLower ∪ changesInUpper ∪ changesInTitle),
  (["cwl", "changeswhenlowercased"], changesInLower),
  (["cwt", "changeswhentitlecased"], changesInTitle),
  (["cwu", "changeswhenuppercased"], changesInUpper),
  (["dash"], CodeSet.ofRows dashSignRows),
  (["dep", "deprecated"], CodeSet.ofRows deprecatedRows),
  (["di", "defaultignorablecodepoint"], defaultIgnorable),
  (["dia", "diacritic"], CodeSet.ofRows diacriticRows),
  (["ebase", "emojimodifierbase"], CodeSet.ofRows emojiModifierBaseRows),
  (["ecomp", "emojicomponent"], CodeSet.ofRows emojiComponentRows),
  (["emod", "emojimodifier"], emojiModifier),
  (["epres", "emojipresentation"], CodeSet.ofRows emojiPresentationRows),
  (["emoji"], CodeSet.ofRows emojiRows),
  (["ext", "extender"], CodeSet.ofRows extenderRows),
  (["extpict", "extendedpictographic"], pictographic),
  (["grbase", "graphemebase"], graphemeBase),
  (["grext", "graphemeextend"], graphemeExtend),
  (["grlink", "graphemelink"], CodeSet.ofRows graphemeLinkRows),
  (["hex", "hexdigit"],
    CodeSet.ofRanges [(48, 57), (65, 70), (97, 102), (0xFF10, 0xFF19), (0xFF21, 0xFF26),
      (0xFF41, 0xFF46)]),
  (["hyphen"], CodeSet.ofRows hyphenRows),
  (["idcompatmathcontinue"],
    compatibleMathStart ∪ CodeSet.ofRanges [(0xB2, 0xB3), (0xB9, 0xB9), (0x2070, 0x2070),
      (0x2074, 0x207E), (0x2080, 0x208E)]),
  (["idcompatmathstart"], compatibleMathStart),
  (["idc", "idcontinue"], idContinue),
  (["ideo", "ideographic"], CodeSet.ofRows ideographicRows),
  (["ids", "idstart"], idStart),
  (["idsb", "idsbinaryoperator"],
    CodeSet.ofRanges [(0x2FF0, 0x2FF1), (0x2FF4, 0x2FFD), (0x31EF, 0x31EF)]),
  (["idst", "idstrinaryoperator"], CodeSet.range 0x2FF2 0x2FF3),
  (["idsu", "idsunaryoperator"], CodeSet.range 0x2FFE 0x2FFF),
  (["joinc", "joincontrol"], joinControl),
  (["loe", "logicalorderexception"], CodeSet.ofRows logicalOrderExceptionRows),
  (["lower", "lowercase"], lowercase),
  (["math"], math),
  (["mcm", "modifiercombiningmark"], CodeSet.ofRows modifierCombiningMarkRows),
  (["nchar", "noncharactercodepoint"], CodeSet.ofRows noncharacterRows),
  (["oalpha", "otheralphabetic"], CodeSet.ofRows otherAlphabeticRows),
  (["odi", "otherdefaultignorablecodepoint"], CodeSet.ofRows otherIgnorableRows),
  (["ogrext", "othergraphemeextend"], CodeSet.ofRows otherGraphemeExtendRows),
  (["oidc", "otheridcontinue"], CodeSet.ofRows otherIdContinueRows),
  (["oids", "otheridstart"], CodeSet.ofRows otherIdStartRows),
  (["olower", "otherlowercase"], CodeSet.ofRows otherLowercaseRows),
  (["omath", "othermath"], CodeSet.ofRows otherMathRows),
  (["oupper", "otheruppercase"], CodeSet.ofRows otherUppercaseRows),
  (["patsyn", "patternsyntax"], CodeSet.ofRows patternSyntaxRows),
  (["patws", "patternwhitespace"], patternWhiteSpace),
  (["pcm", "prependedconcatenationmark"], CodeSet.ofRows prependedMarkRows),
  (["qmark", "quotationmark"], CodeSet.ofRows quotationMarkRows),
  (["radical"], CodeSet.ofRows radicalRows),
  (["ri", "regionalindicator"], regionalIndicator),
  (["sd", "softdotted"], CodeSet.ofRows softDottedRows),
  (["sterm", "sentenceterminal"], CodeSet.ofRows sentenceTerminalRows),
  (["term", "terminalpunctuation"], CodeSet.ofRows terminalPunctuationRows),
  (["uideo", "unifiedideograph"], CodeSet.ofRows unifiedIdeographRows),
  (["upper", "uppercase"], uppercase),
  (["vs", "variationselector"], CodeSet.ofRows variationSelectorRows),
  (["wspace", "whitespace", "space"], whiteSpace),
  (["xidc", "xidcontinue"], xidContinue),
  (["xids", "xidstart"], xidStart)]

end BuildTool.Text

/-!
## Word characters and digits

A word character is a letter, a mark, a decimal digit, a letter-like number, a connector
such as the underscore, or a joiner.
-/

namespace BuildTool.Text

def wordCodes : CodeSet :=
  Property.alphabetic ∪ Property.joinControl ∪
    Property.ofCategories [.nonspacingMark, .spacingMark, .enclosingMark, .digit, .connector]

def digitCodes : CodeSet := Property.ofCategories [.digit]

/-- A letter, mark, digit, connector or joiner of any script. -/
def isWord (c : Char) : Bool :=
  if c.toNat < 128 then c.isAlphanum || c == '_' else wordCodes.contains c

end BuildTool.Text
