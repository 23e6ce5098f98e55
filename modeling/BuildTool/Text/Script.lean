import BuildTool.Text.CodeSet

/-!
# Scripts

The script a character belongs to, and the scripts it is used in.
-/

/-!
## Rows of the scripts

Each script with its short and its long name and the characters that belong to it, as packed
ranges; then, for some scripts, the further characters that are used in them.
-/

namespace BuildTool.Text

/-- The scripts, by short and long name. -/
def scriptRows : List (String × String × List String) := [
  ("adlm", "adlam", [
    "AIw3L24941"]),
  ("aghb", "caucasianalbanian", [
    "QJB2T1b0"]),
  ("ahom", "ahom", [
    "AYF2q2e4m"]),
  ("arab", "arabic", [
    "AQ14151d121v19bp1L31B1Q2P1Q7u115K21sQSy1S3gKb2P22V170A1fQ341G4Dx3uD22X13AYX131q11102019131",
    "01060401010121110201010101011102316131310191g52141gU11"]),
  ("armi", "imperialaramaic", [
    "ACC2l18"]),
  ("armn", "armenian", [
    "RJ1F12R122DMz14"]),
  ("avst", "avestan", [
    "AYC2V136"]),
  ("bali", "balinese", [
    "AY6M21R1"]),
  ("bamu", "bamum", [
    "AVJ1X2IIQ1Yh"]),
  ("bass", "bassavah", [
    "QWw2t25"]),
  ("batk", "batak", [
    "A+6T183"]),
  ("beng", "bengali", [
    "AM2317212l1610332821238041142o"]),
  ("bhks", "bhaiksuki", [
    "AAH281M11das"]),
  ("bopo", "bopomofo", [
    "Kn1ZQbK1Q3v"]),
  ("brah", "brahmi", [
    "AAE2N24D190"]),
  ("brai", "braille", [
    "AAa-7"]),
  ("bugi", "buginese", [
    "AQ6r21"]),
  ("buhd", "buhid", [
    "Aw5j"]),
  ("cakm", "chakma", [
    "AIE2U11h"]),
  ("cans", "canadianaboriginal", [
    "AA5-jQhF2wNA2f"]),
  ("cari", "carian", [
    "AVA2Q1"]),
  ("cham", "cham", [
    "AQK1W19d2923"]),
  ("cher", "cherokee", [
    "Az4V225SxF1P2"]),
  ("chrs", "chorasmian", [
    "QzD2r"]),
  ("copt", "coptic", [
    "CvdQEaT356"]),
  ("cpmn", "cyprominoan", [
    "QyL2C3"]),
  ("cprt", "cypriot", [
    "AAC25201L1113020"]),
  ("cyrl", "cyrillic", [
    "AA1E42I5Qw5aA50M20HD4vACu-2Oyl1AQY1z1B10"]),
  ("deva", "devanagari", [
    "AI2Q24e2pAxH1vAQs9"]),
  ("diak", "divesakuru", [
    "AIG262027111t112b99"]),
  ("dogr", "dogra", [
    "AAG2x1"]),
  ("dsrt", "deseret", [
    "AAB2P2"]),
  ("dupl", "duployan", [
    "AAP3K35c387923"]),
  ("egyp", "egyptianhieroglyphs", [
    "AAM2VC1awy3"]),
  ("elba", "elbasan", [
    "AIB2H1"]),
  ("elym", "elymaic", [
    "A-D2m"]),
  ("ethi", "ethiopic", [
    "AQ4I2132610132I1132A1132610132e1Y1132C22v3pGP6m9616161616161616CJv525259616RFP2613111e"]),
  ("geor", "georgian", [
    "AF4F110502K113Qy2K122AC4F11050"]),
  ("glag", "glagolitic", [
    "AAb-2AzM361g261114"]),
  ("gong", "gunjalagondi", [
    "ALH25111E1111579"]),
  ("gonm", "masaramgondi", [
    "AIH26111L130111889"]),
  ("goth", "gothic", [
    "QZA2q"]),
  ("gran", "grantha", [
    "AYE2317212l1611142821222060562634"]),
  ("grek", "greek", [
    "Qr3122310401012101j1+1efGJ64S1444U20Aal252F125271010101u2U11e1d251i2218H90+RC10wOlO2h0-CU1",
    "F2"]),
  ("gujr", "gujarati", [
    "BU2218121l16111429121220f32b76"]),
  ("guru", "gurmukhi", [
    "BQ2215412l16111111201441223073107g"]),
  ("hang", "hangul", [
    "AI4-7OR71B8z2R3uB2uBXtsDkDzacm4Q1Ez9u35252522"]),
  ("hani", "han", [
    "AUbp1Y2cV6P1010p8e3Eu-N6A2-PkAImNb2J3IIt1c1OAE1-WJ1A1ZB46z62BU5eQJ7fNjCN2zgCP1Kw45-C4"]),
  ("hano", "hanunoo", [
    "AZ5k"]),
  ("hatr", "hatran", [
    "AHC2i1154"]),
  ("hebr", "hebrew", [
    "RM1W18q45IJz1p1410111119"]),
  ("hira", "hiragana", [
    "BCcV262Bx-2+8i0t2NFg0"]),
  ("hluw", "anatolianhieroglyphs", [
    "AAR2Gi"]),
  ("hmng", "pahawhhmong", [
    "AYw2F2a9161k5i"]),
  ("hmnp", "nyiakengpuachuehmong", [
    "AIY3M13d2941"]),
  ("hung", "oldhungarian", [
    "AED2S1dS175"]),
  ("ital", "olditalic", [
    "AYA2D192"]),
  ("java", "javanese", [
    "AMK1N22941"]),
  ("kali", "kayahli", [
    "AIK1N110"]),
  ("kana", "katakana", [
    "BFcZ222Q7fQ6O11X2OAT191M1SCM13161110-82S10e3"]),
  ("kawi", "kawi", [
    "AYH2g1I13s"]),
  ("khar", "kharoshthi", [
    "AQC231157121s224978"]),
  ("khmr", "khmer", [
    "Ay5z22969Gfv"]),
  ("khoj", "khojki", [
    "AQE2h1O1"]),
  ("kits", "khitansmallscript", [
    "E-x20xY6VeJ10"]),
  ("knda", "kannada", [
    "AE3c121m19142812137161132912"]),
  ("kthi", "kaithi", [
    "AEE2C2a0"]),
  ("lana", "taitham", [
    "AR6+11s2a696d"]),
  ("laoo", "lao", [
    "BU3110141n101m2410161923"]),
  ("latn", "latin", [
    "B2p6pP10f05m1u1AeH14xQ6F16Q1535c1F2B2-7Rb0d0gcN4160r0hI1XW2vCVuF33C2211017ldQpK11813Wyj6wA",
    "1p6pFB251J118FwV1u65"]),
  ("lepc", "lepcha", [
    "AA7X13e32"]),
  ("limb", "limbu", [
    "AI6u1b4b403b"]),
  ("lina", "lineara", [
    "AQB2W99la7"]),
  ("linb", "linearb", [
    "AAA2b1p1i111e2dC1w3"]),
  ("lisu", "lisu", [
    "QGJ1P1QVu0"]),
  ("lyci", "lycian", [
    "AUA2s"]),
  ("lydi", "lydian", [
    "AJC2p50"]),
  ("mahj", "mahajani", [
    "QKE2G1"]),
  ("maka", "makasar", [
    "AXH2o"]),
  ("mand", "mandaic", [
    "AC2r20"]),
  ("mani", "manichaean", [
    "AWC2G14b"]),
  ("marc", "marchen", [
    "QDH2v2l1d"]),
  ("medf", "medefaidrin", [
    "ASx2w2"]),
  ("mend", "mendekikakui", [
    "AAw3E62f"]),
  ("merc", "meroiticcursive", [
    "ANC2n4j2N1"]),
  ("mero", "meroitichieroglyphs", [
    "AMC2v"]),
  ("mlym", "malayalam", [
    "AI3c121S112154f2p"]),
  ("modi", "modi", [
    "AQF2E2b9"]),
  ("mong", "mongolian", [
    "AA61201j6Y27K1VN-1c"]),
  ("mroo", "mro", [
    "ASw2u1941"]),
  ("mtei", "meeteimayek", [
    "AXK1mJ6N129"]),
  ("mult", "multani", [
    "AUE2610131e1a"]),
  ("mymr", "myanmar", [
    "AA4-4AKG1uB3vQCrj"]),
  ("nagm", "nagmundari", [
    "QGZ3J1"]),
  ("nand", "nandinagari", [
    "ANG272N12a"]),
  ("narb", "oldnortharabian", [
    "AUC2v"]),
  ("nbat", "nabataean", [
    "AEC2u88"]),
  ("newa", "newa", [
    "AAF2x214"]),
  ("nkoo", "nko", [
    "A+1w122"]),
  ("nshu", "nushu", [
    "B-x20OMgLc"]),
  ("ogam", "ogham", [
    "AU5s"]),
  ("olck", "olchiki", [
    "QC7P1"]),
  ("orkh", "oldturkic", [
    "AAD2I2"]),
  ("orya", "oriya", [
    "BY2217212l1611142821227241142h"]),
  ("osge", "osage", [
    "QFB2D14D1"]),
  ("osma", "osmanya", [
    "AEB2t29"]),
  ("ougr", "olduyghur", [
    "QxD2p"]),
  ("palm", "palmyrene", [
    "ADC2v"]),
  ("pauc", "paucinhau", [
    "AWG2Y1"]),
  ("perm", "oldpermic", [
    "QwA2K1"]),
  ("phag", "phagspa", [
    "ACK1X1"]),
  ("phli", "inscriptionalpahlavi", [
    "AxC2i57"]),
  ("phlp", "psalterpahlavi", [
    "AyC2h73c6"]),
  ("phnx", "phoenician", [
    "AIC2r30"]),
  ("plrd", "miao", [
    "AYx2K24Y17g"]),
  ("prti", "inscriptionalparthian", [
    "AwC2l27"]),
  ("rjng", "rejang", [
    "QJK1D1b0"]),
  ("rohg", "hanifirohingya", [
    "AID2H189"]),
  ("runr", "runic", [
    "AV5K23a"]),
  ("samr", "samaritan", [
    "AA2N12e"]),
  ("sarb", "oldsoutharabian", [
    "ATC2v"]),
  ("saur", "saurashtra", [
    "AEK1F28b"]),
  ("sgnw", "signwriting", [
    "AAW3Lkf41e"]),
  ("shaw", "shavian", [
    "QCB2P1"]),
  ("shrd", "sharada", [
    "AME2-2"]),
  ("sidd", "siddham", [
    "AMF2V12F1"]),
  ("sind", "khudawadi", [
    "QVE2w159"]),
  ("sinh", "sinhala", [
    "BM321h3n181026304510176922M-A2j"]),
  ("sogd", "sogdian", [
    "QZD2J1"]),
  ("sogo", "oldsogdian", [
    "AYD2H1"]),
  ("sora", "sorasompeng", [
    "QGE2o79"]),
  ("soyo", "soyombo", [
    "QSG2S2"]),
  ("sund", "sundanese", [
    "Ay6-1A87"]),
  ("sylo", "sylotinagri", [
    "AAK1M1"]),
  ("syrc", "syriac", [
    "AY1d1x122Q8a"]),
  ("tagb", "tagbanwa", [
    "Ax5c1211"]),
  ("takr", "takri", [
    "AUF2Z169"]),
  ("tale", "taile", [
    "QK6t24"]),
  ("talu", "newtailue", [
    "AM6L14p6a31"]),
  ("taml", "tamil", [
    "Cy2115321331101131323b4432132060ekF+E2R1d0"]),
  ("tang", "tangut", [
    "A-x20vX-58-nAg8"]),
  ("tavt", "taiviet", [
    "AUK1C2o4"]),
  ("telu", "telugu", [
    "AA3c121m1f281213711220232978"]),
  ("tfng", "tifinagh", [
    "QJbX171e0"]),
  ("tglg", "tagalog", [
    "AY5l90"]),
  ("thaa", "thaana", [
    "Ay1R1"]),
  ("thai", "thai", [
    "BQ3Z15r"]),
  ("tibt", "tibetan", [
    "AY3H21D14G11D11e1641"]),
  ("tirh", "tirhuta", [
    "AEF2H289"]),
  ("tnsa", "tangsa", [
    "QTw2O219"]),
  ("toto", "toto", [
    "QUY3u"]),
  ("ugar", "ugaritic", [
    "AyA2t10"]),
  ("vaii", "vai", [
    "AIJ1L9"]),
  ("vith", "vithkuqi", [
    "QLB2a1e16111a1e1611"]),
  ("wara", "warangciti", [
    "AFG2S2c0"]),
  ("wcho", "wancho", [
    "AWY3Z150"]),
  ("xpeo", "oldpersian", [
    "AzA2D14d"]),
  ("xsux", "cuneiform", [
    "AAI2ZsG3O314bD6"]),
  ("yezi", "yezidi", [
    "AUD2J11221"]),
  ("yiii", "yi", [
    "AAI1ME13W1"]),
  ("zanb", "zanabazarsquare", [
    "AQG2H2"]),
  ("zinh", "inherited", [
    "AoP3V81Eeaq0An3xK4uBg21c16406031G6-1Mg1C6A1ZZ33L31FLT1fgdPu0C70wC40E+O1N12mAh2h726u3SwLoP7"]),
  ("zyyy", "common", [
    "0A2q5qO11e14n0v0BeG1542jU30906010zj060e030A10y40Eg0B41ZG10Vc3C90PP12H21L6110NG10d073151220",
    "Fob2W21a3a1ehA1-1F112251q1gJ124Zkmal-sA8Tj2v1I3Agz2Sck101of743x2130w21T4fA1F190Q1-1vQ2P10Y",
    "2H5AO6-1AImB1G32F59U70A50Lc0e1SOk1Q69mC11i13T401vq5qaa0N11A2616a4C824M138Q2cT1M1E7qENO13yw",
    "3Z76Tdy4T3y1V7aG12z13g817t4y1V6jcjcW29oH4U21G2112021231b10161A21327161r131410361Ta2D92R1RD",
    "5D2M2y1CmL14D3ce2e1e1E1aN5Y1p11dL14871e5w4Xu4g3c3W34+26b40fb4X1896H18t2b41+1Tacd2c395X17e2",
    "a687S41F3HABo0u-2"]),
  ("zzzz", "unknown", [
    "Yr1637010k0Nc0G11S1130X17r36aO80y11F3dx11R11f0s110b4C14N708121m0701241912147132051p1306321",
    "m07020202110532132164016h9309030m0702051a030311e41c670308121m0702051912136332051i920623042",
    "2010222232c3523041151dl4d030n0g190304620302141a6m030n0a051903046243041a03bd030T103063g1q03",
    "0i2o090117213601085a13bw13tE1201050o010n1501070a14vI20E13H10E10f0dE1G601411Zb041701041J104",
    "1B1041701041f0Z1041D21A12q5W2161zk2Z26m8o8kbd0302b+21a5a5q5Z26L14G29v0c3c312K115aM13q5b2+1",
    "1B20t1b5a5e1O11cjN20G57y12f2+14L11b7L14Wg161G116180101010v1V10f0e160j13090F30c1r0d2C1dB1eM",
    "43wklbkUY11+b4N101411Y162do87070707070707070+3B1q0Z2bW6pQ20W21H34L10+20W28Q10NTs2X18yajY57",
    "z6jy12a5Y17G27c5U3au2O20b3B10X18e1a1H3ns96161687070y13+31a5Ezabn3R13AA2-H6Ob1K3F17b54q0501",
    "02020KkvK15T10j04350H4110+5261616132707951c0q0j020f1eB1x3433N12Y20d21O1O1B4t2R1es3E18u4L14",
    "u0F13eJ1+41a5E13E13I17U1ac0f07020b0f07022U1bX98m98n60K109E26110M102211n0I279P1j024B12r4rF1",
    "Y13k1S10248030t133a696A2vH13c8W12t1r4q64b7P2J2W1T1cT16O17a5G12t72P6v0K10312f679A1O17K1lqF1",
    "sjn8O23E18E2911p6a5V10i7H18A30kai0P1z1701040f0b5x14a5408121m0702050a12131151471725aa01110G",
    "10a0111040a0272sy205tI27aF5W11G1B1F2aa5diw15a5krr1f3nY5y1D3T2b81118020u021c8aF281O11bqI27T",
    "2cJ26aV28X2C1da590N10e9t2A11m0eI27020M12102097a56020F102066a5M13aV7p6h0J12tU21eS1cxsF3P305",
    "aE6LS2D3cWC19xy34HiYV6w1FW1Zh6v0a3R20a5u169G29a070l4jPdw1F6x24p1pL1L23Z16h-15a78WG7I1A1A3T",
    "3yP8407020D9e1s311d47McDI2L34d296a18xw3z72Ud5neheO11n8U3x1W79H11C6kG2Z3kbkbX28pG4V20H20211",
    "12140c01070B20418070s040501270Ua1E91+le50fPC1v56U670h1702054+1A11P3N12e1a32-9vgw141PeK1V6L",
    "131-5v0m72-6704020f0F61gI1M23a32QoE2L2z1B640r0201110a0401015131010103020111010101010201140",
    "70404010a0h43050hT12N8M13E3bf1f0f0F19O5X1tcM13962d6Z4Zu2h2d2w65c31ec3Y17a5I17u1c32d9G1Ya7e",
    "1d2b2Z1013g1c3a6T40H3EA1AXJ1v+I41OU51RJ7eOjBN2+gBP1Lw44KJ8GySl1tA3-3Q7PQ-5"]),
  ("gara", "garay", [
    "AKD2F13s81"]),
  ("gukh", "gurungkhema", [
    "AIY2Z1"]),
  ("krai", "kiratrai", [
    "AKx2Z1"]),
  ("onao", "olonal", [
    "QOZ3K140"]),
  ("sunu", "sunuwar", [
    "A+G2B1e9"]),
  ("todr", "todhri", [
    "AOB2T1"]),
  ("tutg", "tulutigalari", [
    "AyE2910201F119102013191181"])]

/-- The characters used in a script besides its own, by long name; for what belongs to no script of
its own, the characters that no script claims. -/
def extensionRows : List (String × List String) := [
  ("adlam", [
    "-Q10A10OQ60RP30"]),
  ("caucasianalbanian", [
    "Eo0M10M10"]),
  ("arabic", [
    "MQ10e030A10aaq0+O60RP30yXT11AN1r"]),
  ("armenian", [
    "Io0"]),
  ("avestan", [
    "X50YLb1"]),
  ("bengali", [
    "yl0UU11h1Kx401021108080204022Z-C10"]),
  ("bopomofo", [
    "Hm012d0HJb2491ca32060D60JKT11w84"]),
  ("buginese", [
    "POK10"]),
  ("buhid", [
    "VZ51"]),
  ("chakma", [
    "GP29QS19"]),
  ("carian", [
    "X50Cz7020TO30"]),
  ("cherokee", [
    "Ao21061m1b1"]),
  ("coptic", [
    "X50Ii03110M31BVa0IGV1r"]),
  ("cyprominoan", [
    "AIA21"]),
  ("cypriot", [
    "AIA224M138"]),
  ("cyrillic", [
    "yl0D221010102050Tb1RL60KC40"]),
  ("devanagari", [
    "yl0UU11h1Kx4G111Wv0-ZB19"]),
  ("dogra", [
    "EL2bAWH19"]),
  ("duployan", [
    "X50Pi110o1XYa0DTD33"]),
  ("elbasan", [
    "X50Ni0"]),
  ("ethiopic", [
    "Oo0"]),
  ("georgian", [
    "X50RG10Rx20+w30WO30"]),
  ("glagolitic", [
    "X50Li010+b020B80Rx20+w30IP30LBu0"]),
  ("gunjalagondi", [
    "X50MF21"]),
  ("masaramgondi", [
    "EL21"]),
  ("gothic", [
    "X50Mi120I10"]),
  ("grantha", [
    "RK21h1AkdyG4011u231Wv0KSy10UE3110"]),
  ("greek", [
    "X50Ii1201010a0O1020O10LS61xk0"]),
  ("gujarati", [
    "RK21h1KWH19"]),
  ("gurmukhi", [
    "RK21h1KWH19"]),
  ("hangul", [
    "BAc2491cg060D60JKT11w84"]),
  ("han", [
    "X50YZbf1220191ca3206043x50U4fA1F190Q1H1Y1Q1fbT10Y2oa4A3uBYs7zZl1w84w-U1h+W71"]),
  ("hanunoo", [
    "VZ51"]),
  ("hebrew", [
    "Ho1"]),
  ("hiragana", [
    "BAc2491cg51041x2330w21IKT11w84a0N11"]),
  ("oldhungarian", [
    "wC8020TO30f0"]),
  ("javanese", [
    "POK10"]),
  ("kayahli", [
    "OJK10"]),
  ("katakana", [
    "Fo0t0zGb2491cg51041x2330w21IKT11w84a0N11"]),
  ("khojki", [
    "GX29AKH19"]),
  ("kannada", [
    "RK21h1Kx401160n010xZC15"]),
  ("kaithi", [
    "GL29BG90+Pu9"]),
  ("latin", [
    "X50Eg0a012109010G1e1110f27111G10504cV81KG11Iz10yH30Wh0A60GJ30IHu7Gh0"]),
  ("limbu", [
    "FL20"]),
  ("lineara", [
    "HIA2M1"]),
  ("linearb", [
    "AIA224M138"]),
  ("lisu", [
    "yl0g0yJb1"]),
  ("lycian", [
    "wC80"]),
  ("lydian", [
    "X50ZLb0"]),
  ("mahajani", [
    "X50MF2bAWH19"]),
  ("mandaic", [
    "AS10"]),
  ("manichaean", [
    "AS10"]),
  ("meroitichieroglyphs", [
    "zC80"]),
  ("malayalam", [
    "RK21h1Ux40n0zZC12"]),
  ("modi", [
    "QBK19"]),
  ("mongolian", [
    "CA6110JB20R+3153"]),
  ("multani", [
    "GT29"]),
  ("myanmar", [
    "OJK10"]),
  ("nandinagari", [
    "RK20i1As9Z-308070VZC15"]),
  ("newa", [
    "RK21Cy401190601010"]),
  ("nko", [
    "MQ10e030+Yz11"]),
  ("oldturkic", [
    "wC80VO30"]),
  ("oriya", [
    "RK21h1Ux40n0"]),
  ("osage", [
    "Bo02060M20"]),
  ("olduyghur", [
    "AS10RFB20"]),
  ("oldpermic", [
    "X50Ii052a0Pb0"]),
  ("phagspa", [
    "CA6110JB20S+30"]),
  ("psalterpahlavi", [
    "AS10"]),
  ("hanifirohingya", [
    "MQ10e030A10T40"]),
  ("runic", [
    "LX52"]),
  ("samaritan", [
    "RRb0"]),
  ("shavian", [
    "X50"]),
  ("sharada", [
    "RK20Fy401021209020CwC1520"]),
  ("khudawadi", [
    "EL21KWH19"]),
  ("sinhala", [
    "EL21My40"]),
  ("sogdian", [
    "AS10"]),
  ("sylotinagri", [
    "EL21A49"]),
  ("syriac", [
    "Do12110o27111wm0e120A10aaq0Hy5010"]),
  ("tagbanwa", [
    "VZ51"]),
  ("takri", [
    "EL21KWH19"]),
  ("taile", [
    "Ao15130TJ39"]),
  ("tamil", [
    "RK21h1Ux40YAD10NQq010X11"]),
  ("tangut", [
    "Q-bfPf0"]),
  ("telugu", [
    "RK21h1Px411010n0"]),
  ("tifinagh", [
    "Co01013p0"]),
  ("tagalog", [
    "VZ51"]),
  ("thaana", [
    "MQ10e120A29Iyz10a0"]),
  ("thai", [
    "yl0q0L10N10"]),
  ("tibetan", [
    "IAc3"]),
  ("tirhuta", [
    "RK21h1Px40c0f0zZC19"]),
  ("toto", [
    "yl0"]),
  ("yezidi", [
    "MQ10e030A29"]),
  ("yi", [
    "BAc15927-60FTT14"]),
  ("inherited", [
    "Po0201e36202f111h1413QP11xK4uTnV11014Mg1C6vQIX1fgdPu0CIT1N12mAh2h726u3SwLoP7"]),
  ("common", [
    "0A2q5qO11b1114n0v0Be2191030181015542j+306010zj0X60Eg0yK10Vc3HB4b2A11u1911161a3a1ehA1-1F112",
    "251q1gJ124Zkmal-sA8Tj2v1I3Agm1n2913101pCd030d0d0l0Rgnv0R1ec3B595-2v0AO6-1IImpG32Qu0e1EVk9m",
    "k2b1i13T401vq5q5-3616a4SccT1M1DQS1Z76Tdy4T3y1V7aG12z13g817t4y1V6jcjcW2r6H4U21G2112021231b1",
    "0161A21327161r131410361Ta2D92R1RD5D2M2y1CmL14D3ce2e1e1E1aN5Y1p11dL148n5w4Xu4g3c3W34+26b40f",
    "b4X1896H18t2b41+1Tacd2c395X17e2a687S41F3HABo0u-2"]),
  ("garay", [
    "MQ10e030"]),
  ("gurungkhema", [
    "FL20"]),
  ("olonal", [
    "EL21"]),
  ("sunuwar", [
    "Ao1109020s030"]),
  ("todhri", [
    "Bo020209010K20"]),
  ("tulutigalari", [
    "GH39CA4010xZC15x50"])]

end BuildTool.Text

/-! ## Scripts of characters -/

namespace BuildTool.Text

/-- A script: its names in small letters, the characters that belong to it, and those that are used
in it. -/
structure Script where
  names : List String
  codes : CodeSet
  extended : CodeSet
  deriving Repr

/-- All scripts. Marks and signs that belong to no script of their own are used in the scripts that
claim them, else in all. -/
def scripts : List Script :=
  scriptRows.map fun (short, long, rows) =>
    let codes := CodeSet.ofRows rows
    let older := if long = "inherited" then ["qaai"] else if long = "coptic" then ["qaac"] else []
    let extended := match extensionRows.lookup long with
      | none => codes
      | some further =>
        if long = "common" ∨ long = "inherited" then CodeSet.ofRows further
        else codes ∪ CodeSet.ofRows further
    ⟨short :: long :: older, codes, extended⟩

def script? (name : String) : Option Script := scripts.find? fun s => s.names.contains name

end BuildTool.Text
