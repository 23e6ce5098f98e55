import BuildTool.Text.CodeSet

/-!
# Directions of writing

The direction in which a character is written, and how letters join their neighbours.
-/

namespace BuildTool.Text

/-!
## Rows of directions and joining

In which direction characters are written, and how letters join their neighbours, as packed ranges.
-/

def rightToLeftRows : List String := [
  "+N101020209q45j02010dP1C121E3f171aj111ttY2b0eK191403n4090307e1o501a5uhJ1Fw50NYW10191c1410111",
  "11y3gKbi-12V1I1cT341G4DI25201L111302m1H288Q1i115A14p50A2X14j2O1f3121sa8787-1A1E16b9V1al2q5p7",
  "3c6Q2I2X1S1dS17J1sF18n81Q7J13021g2x1H18lb8mh43G1rkmJAW1E628Q1D2704941RoD2M2y1C631q1110201913",
  "101060401010121110201010101011102316131310191g52141g"]

def arabicNumberRows : List String := [
  "AQ15w2911Q30Sd1Q20NCB29G9u"]

def europeanNumberRows : List String := [
  "Q19Y3150WR19WL603569+vjUTW19HuqUPS19UW2R1AI6aFX29"]

def undirectedRows : List String := [
  "085d5ea6q5q91D116201224n0v0Be17d2d581gU31805110O30Tc022W31111011w20T30a0M83Yf170V70B87z36Ae0",
  "w73SC19G30wk1+90k96a30R9031Y4B1zN1012b2d2d2d1c22n7P11455a4b4hA1-111311a0125510101040b144532f",
  "J124FdF2p1T4malH1C3Be1SaA8Tj2v1I3F75e6A8z2C1p1Y2cV6qf133of05152x2130w20E6F190N11R1fs2S1ec3H5",
  "3D31v0AO6-1QUlW1Ga2D30a1A4B1G30-43c1w13Sn1zzj0Ugh-30N12g9mC11i13T401ea6q5qaw3616a4D80+1M23c3",
  "0+x10Zg6SI1jwP1cIL2sQ-j0zFj3yw3V6K1Td-l7O31lB230w5W2Es0Z10Z10Z10Z10xZ20Q-21O8L14D3ce2e1e1E1l",
  "4v0w15z10S55w4Xu4g3c3W34+26b40fb4X1896H18t2b41+1Tacd2c395X17e2a687S41x2RABo0u-2"]

/-- Marks that go the way of what they are attached to. -/
def attachedMarkRows : List String := [
  "AoP3T86H8M110111110I2aQ1kg0F36252113D10uqx2aw1890o3181214L12x18K1n1vX1010474036a1t0w104380k1",
  "q021Z1041412230u130b1Z10441140k1m510w1020138071b1u0z10c0S1030X1012521371b1t0w10f1k1s1Z114380",
  "k1t0I207210w2026c7C3028b6J21r01010X1d14115a1D190G33151121p142g3d02160f0-l2St2t1u1u1A2116802a",
  "90N1210V31C10W32419062x6120w10161010276920Q1uR13Q10141050I18c1A132112Y10113012w1721Y421c1640",
  "6031G6-1QmA1+-22N40A3vKh3L31UOt319A11Q21Q803040p150X41qhd0G17paO12Q102321H10D252121c080P10T1",
  "012215110K1180O702040QZj0BnfgfNu0C70V44GU121153I1240F51zh3B24z91P23G2aR13x30W1eJ1021a2R13217",
  "0z12E1417+10c1U18a320-2220116020z4037l1Z1130F1634G25d01010e1V272210n0U25104111O736111r1V2720",
  "11K30102510F322314D8811A811040Q432140A1521I1523809522O1c11Wc615U2l261111w3530111610I213010xa",
  "1b1U145010n0FH506eIGbb32AO24x16YA10-13R20YFj1BT4N12mAh2h726u3U42xz1W14R180e0m41eQK161g261114",
  "E30A56Xb0z13yf3+71An6N36VzFoP7"]

def joiningBothRows : List String := [
  "AR105010144c1611D118fiF111901011I1220i25318101011va3e23102225K2A1W24201910a01320t024i951251e",
  "+Z30oY2eB110VyD1R1OSo4e31412a3R401032111020s1SaA110-c1L321gc2s32bO1011402111102050VJW1D2"]

def joiningLeftRows : List String := [
  "SDK10wSo090Ih0Km0"]

def joiningRightRows : List String := [
  "CR13101053l0I1212ghG102810102110o1A10444090101020t0b2f1401131G605110a012e0115ib0r2102160LQA2",
  "0101134a03020a0R401230201110n3Vb0-c0Q30A10v1+1221204150"]

/-- Characters that joining looks through. -/
def transparentRows : List String := [
  "N50SiP3T86H8M110111110I2a10O1kg0F36252113B1010uqx2aw1890o3181214L12x18K1n1vX1010474036a1t0w1",
  "04380k1q021Z1041412230u130b1Z10441140k1m510w1020138071b1u0z10c0S1030X1012521371b1t0w10206051",
  "k1s1Z114380k1t0I207210w2026c7C3028b6J21r01010X1d14115a1D190G33151121p142g3d02160f0-l2St2t1u1",
  "u1A2116802a90N1210V31C10W32419062x6120w10161010276920Q1uR13Q10141050I18c1A132112Y10113012w17",
  "21Y421c16406031G6-1Lg021q4R1455A3A1+-22N40A3vKh3L31UOt319A11Q21Q803040p150X41qhd0G17paO12Q10",
  "2321H10D252121c080P10T1012215110K1180O702040QZj0BnfgfP60Z72Bg0C70V44GU121153I1240F51zh3B24z9",
  "1P23G2aR13x30W1eJ1021a2R132170z12E1417+10c1U18a320-2220116020z4037l1Z1130F1634G25d01010e1V27",
  "2210n0U25104111O736111r1V272011K30102510F322314D8811A811040Q432140A19I1523809522O1c11Wc61510",
  "S2l261111w3530111610I213010xa1b1U145010n0VG5g6eIGbb32AO24x16YA10-13R20YFj113yS4N12mAh29f26u3",
  "U42xz1W14R180e0m41eQK161g261114E30A56Xb0z13yf3+71An6N37VVFo0u-2A4P7"]

/-! ## Directions -/

/-- The directions of characters. Numbers have a direction of their own, signs may have none, and
marks go with what they are attached to. -/
inductive Direction
  | leftToRight
  | rightToLeft
  | arabicNumber
  | europeanNumber
  | undirected
  | attached
  deriving DecidableEq, Repr

/-- The rows of the directions but the most frequent one. -/
def directionRows : List (Direction × CodeSet) :=
  [(.rightToLeft, .ofRows rightToLeftRows), (.arabicNumber, .ofRows arabicNumberRows),
    (.europeanNumber, .ofRows europeanNumberRows), (.undirected, .ofRows undirectedRows),
    (.attached, .ofRows attachedMarkRows)]

def direction (c : Char) : Direction :=
  ((directionRows.find? fun (_, codes) => codes.contains c).map (·.1)).getD .leftToRight

/-- The characters that join the one behind them. -/
def joinsNext : CodeSet := .ofRows joiningBothRows ∪ .ofRows joiningLeftRows

/-- The characters that join the one in front of them. -/
def joinsBefore : CodeSet := .ofRows joiningBothRows ∪ .ofRows joiningRightRows

/-- The characters that joining looks through. -/
def transparent : CodeSet := .ofRows transparentRows

end BuildTool.Text
