import BuildTool.Text.CodeSet

/-!
# Canonical forms

Many characters with marks can also be written as a character and the marks behind it. The
canonical form of a text has what can be put together put together, and marks of different classes
in the order of their classes.

    canonical ['e', '\u0301']  =  ['é']
-/

namespace BuildTool.Text

/-!
## Rows of canonical forms

Characters that are made of others, the classes of marks, and the pairs that are not put together
again.
-/

/-- For each such character how many codes lie between it and the one before, the first character
that it is made of, and the second one, or zero if there is none; as packed numbers. -/
def canonicalRows : List String := [
  "A6B2Ao0B2Bo0B2Co0B2Do0B2Io0B2Ko1D2Hp0F2Ao0F2Bo0F2Co0F2Io0J2Ao0J2Bo0J2Co0J2Io1O2Do0P2Ao0P2Bo0",
  "P2Co0P2Do0P2Io2V2Ao0V2Bo0V2Co0V2Io0Z2Bo2B3Ao0B3Bo0B3Co0B3Do0B3Io0B3Ko1D3Hp0F3Ao0F3Bo0F3Co0F3",
  "Io0J3Ao0J3Bo0J3Co0J3Io1O3Do0P3Ao0P3Bo0P3Co0P3Do0P3Io2V3Ao0V3Bo0V3Co0V3Io0Z3Bo1Z3Io0B2Eo0B3Eo",
  "0B2Go0B3Go0B2Ip0B3Ip0D2Bo0D3Bo0D2Co0D3Co0D2Ho0D3Ho0D2Mo0D3Mo0E2Mo0E3Mo2F2Eo0F3Eo0F2Go0F3Go0F",
  "2Ho0F3Ho0F2Ip0F3Ip0F2Mo0F3Mo0H2Co0H3Co0H2Go0H3Go0H2Ho0H3Ho0H2Hp0H3Hp0I2Co0I3Co2J2Do0J3Do0J2E",
  "o0J3Eo0J2Go0J3Go0J2Ip0J3Ip0J2Ho3K2Co0K3Co0L2Hp0L3Hp1M2Bo0M3Bo0M2Hp0M3Hp0M2Mo0M3Mo4O2Bo0O3Bo0",
  "O2Hp0O3Hp0O2Mo0O3Mo3P2Eo0P3Eo0P2Go0P3Go0P2Lo0P3Lo2S2Bo0S3Bo0S2Hp0S3Hp0S2Mo0S3Mo0T2Bo0T3Bo0T2",
  "Co0T3Co0T2Hp0T3Hp0T2Mo0T3Mo0U2Hp0U3Hp0U2Mo0U3Mo2V2Do0V3Do0V2Eo0V3Eo0V2Go0V3Go0V2Ko0V3Ko0V2Lo",
  "0V3Lo0V2Ip0V3Ip0X2Co0X3Co0Z2Co0Z3Co0Z2Io0w2Bo0w3Bo0w2Ho0w3Ho0w2Mo0w3MoB1P2xo0P3xodV2xo0V3xos",
  "B2Mo0B3Mo0J2Mo0J3Mo0P2Mo0P3Mo0V2Mo0V3Mo0y6Eo0y7Eo0y6Bo0y7Bo0y6Mo0y7Mo0y6Ao0y7Ao1E6Eo0E7Eo0Gh",
  "Eo0HhEo0G6Eo0G7Eo2H2Mo0H3Mo0L2Mo0L3Mo0P2Ip0P3Ip0KfEo0LfEo0XdMo0SkMo0K3Mo3H2Bo0H3Bo2O2Ao0O3Ao",
  "0F6Bo0F7Bo0G6Bo0G7Bo0Y6Bo0Y7Bo0B2Po0B3Po0B2Ro0B3Ro0F2Po0F3Po0F2Ro0F3Ro0J2Po0J3Po0J2Ro0J3Ro0P",
  "2Po0P3Po0P2Ro0P3Ro0S2Po0S3Po0S2Ro0S3Ro0V2Po0V3Po0V2Ro0V3Ro0T2Gp0T3Gp0U2Gp0U3Gp2I2Mo0I3Mo6B2H",
  "o0B3Ho0F2Hp0F3Hp0W6Eo0W7Eo0V6Eo0V7Eo0P2Ho0P3Ho0OhEo0PhEo0Z2Eo0Z3EoM8Ao00Bo01To00IoBoP1Zl09x1",
  "06I5Bo0RsBo0X500VsBo0XsBo0ZsBo1-sBo1FtBo0JtBo0KuBopZsIo0FtIo0RtBo0VtBo0XtBo0ZtBo0LuBopZtIo0F",
  "uIo0-tBo0FuBo0JuBo4SuBo0SuIoL1VA1Ao0VA1Io1TA1Bo3GA1Io4wA1Bo0YA1Ao0DB1GoaYA1GovYB1GomVB1Ao0VB",
  "1Io1TB1Bo3WC1Io4wB1Bo0YB1Ao0DC1GonUD1Po0VD1PoJ2WA1Go0WB1GodQA1Go0QB1Go0QA1Io0QB1Io2VA1Go0VB1",
  "Go2YG1Io0ZG1Io0WA1Io0WB1Io0XA1Io0XB1Io2YA1Eo0YB1Eo0YA1Io0YB1Io0+A1Io0+B1Io2IH1Io0JH1Io0NB1Io",
  "0NC1Io0DB1Eo0DC1Eo0DB1Io0DC1Io0DB1Lo0DC1Lo0HB1Io0HC1Io2LB1Io0LC1IoI9HR1TS10HR1US10IS1US10HR1",
  "VS10KS1US1Z4VW1US11BW1US1gSW1US1ViIJ2yJ27QJ2yJ22TJ2yJ2D1VI2yJ20WI2yJ20XI2yJ20yI2yJ20BJ2yJ20C",
  "J2yJ20LJ2yJ20PJ2yJ2L3HO2+N20HO2XO2fBN2yN20CN2yN21PN2yN2T2SR2yR22YR2yR2C1WQ2yR20XQ2yR20yQ2yR2",
  "2LR2yR2J7Hw2Ww22Hw2+Z20Hw2Xw2fBZ2yZ20CZ2yZ2W1Sy2X+2V1G+2+z20H+2+z20G+2X+2x3GC3WC3X3-F3VG36GG",
  "3VG30GG3WG31GG3CG30KG3VG3+3GK3+J30HK3+J30GK3XK3N4ZO3KO31ZO3PO30yO3KO30ZO3-O3EbCw3Xz39Mw3Xz34",
  "Rw3Xz34Ww3Xz34xw3Xz3cAw3Vz39Rx3Sx31Rx3Ux30Sz3Ay31Tz3Ay38Rx3Ay3hSy3Xz39yy3Xz34Bz3Xz34Gz3Xz34L",
  "z3Xz3cQy3Vz3M3FB4OB4-W2FY6VZ61HY6VZ61JY6VZ61LY6VZ61NY6VZ63RY6VZ6I1wZ6VZ61yZ6VZ62+Z6VZ60-Z6VZ",
  "61Cw6VZ6ylB2Fp0B3Fp0C2Ho0C3Ho0C2Dp0C3Dp0C2Rp0C3Rp0H6Bo0H7Bo0E2Ho0E3Ho0E2Dp0E3Dp0E2Rp0E3Rp0E2",
  "Hp0E3Hp0E2Np0E3Np0S8Ao0T8Ao0S8Bo0T8Bo0F2Np0F3Np0F2Qp0F3Qp0IhGo0JhGo0G2Ho0G3Ho0H2Eo0H3Eo0I2Ho",
  "0I3Ho0I2Dp0I3Dp0I2Io0I3Io0I2Hp0I3Hp0I2Op0I3Op0J2Qp0J3Qp0P6Bo0P7Bo0L2Bo0L3Bo0L2Dp0L3Dp0L2Rp0L",
  "3Rp0M2Dp0M3Dp0WR7Eo0XR7Eo0M2Rp0M3Rp0M2Np0M3Np0N2Bo0N3Bo0N2Ho0N3Ho0N2Dp0N3Dp0O2Ho0O3Ho0O2Dp0O",
  "3Dp0O2Rp0O3Rp0O2Np0O3Np0V6Bo0V7Bo0V6Io0V7Io0MaAo0NaAo0MaBo0NaBo0Q2Bo0Q3Bo0Q2Ho0Q3Ho0S2Ho0S3H",
  "o0S2Dp0S3Dp0wS7Eo0xS7Eo0S2Rp0S3Rp0T2Ho0T3Ho0T2Dp0T3Dp0waHo0xaHo0AbHo0BbHo0CT7Ho0DT7Ho0U2Ho0U",
  "3Ho0U2Dp0U3Dp0U2Rp0U3Rp0U2Np0U3Np0V2Ep0V3Ep0V2Qp0V3Qp0V2Np0V3Np0IbBo0JbBo0KbIo0LbIo0W2Do0W3D",
  "o0W2Dp0W3Dp0X2Ao0X3Ao0X2Bo0X3Bo0X2Io0X3Io0X2Ho0X3Ho0X2Dp0X3Dp0Y2Ho0Y3Ho0Y2Io0Y3Io0Z2Ho0Z3Ho0",
  "w2Co0w3Co0w2Dp0w3Dp0w2Rp0w3Rp0I3Rp0U3Io0X3Ko0Z3Ko1-bHo4B2Dp0B3Dp0B2Jo0B3Jo0C6Bo0C7Bo0C6Ao0C7",
  "Ao0C6Jo0C7Jo0C6Do0C7Do0AV7Co0BV7Co0C8Bo0D8Bo0C8Ao0D8Ao0C8Jo0D8Jo0C8Do0D8Do0AV7Go0BV7Go0F2Dp0",
  "F3Dp0F2Jo0F3Jo0F2Do0F3Do0K6Bo0K7Bo0K6Ao0K7Ao0K6Jo0K7Jo0K6Do0K7Do0YV7Co0ZV7Co0J2Jo0J3Jo0J2Dp0",
  "J3Dp0P2Dp0P3Dp0P2Jo0P3Jo0U6Bo0U7Bo0U6Ao0U7Ao0U6Jo0U7Jo0U6Do0U7Do0MW7Co0NW7Co0AdBo0BdBo0AdAo0",
  "BdAo0AdJo0BdJo0AdDo0BdDo0AdDp0BdDp0V2Dp0V3Dp0V2Jo0V3Jo0PdBo0QdBo0PdAo0QdAo0PdJo0QdJo0PdDo0Qd",
  "Do0PdDp0QdDp0Z2Ao0Z3Ao0Z2Dp0Z3Dp0Z2Jo0Z3Jo0Z2Do0Z3Do6RtTo0RtUo0AY7Ao0BY7Ao0AY7Bo0BY7Bo0AY7Cq",
  "0BY7Cq0RsTo0RsUo0IY7Ao0JY7Ao0IY7Bo0JY7Bo0IY7Cq0JY7Cq0VtTo0VtUo0QY7Ao0RY7Ao0QY7Bo0RY7Bo2VsTo0",
  "VsUo0YY7Ao0ZY7Ao0YY7Bo0ZY7Bo2XtTo0XtUo0AZ7Ao0BZ7Ao0AZ7Bo0BZ7Bo0AZ7Cq0BZ7Cq0XsTo0XsUo0IZ7Ao0J",
  "Z7Ao0IZ7Bo0JZ7Bo0IZ7Cq0JZ7Cq0ZtTo0ZtUo0QZ7Ao0RZ7Ao0QZ7Bo0RZ7Bo0QZ7Cq0RZ7Cq0ZsTo0ZsUo0YZ7Ao0Z",
  "Z7Ao0YZ7Bo0ZZ7Bo0YZ7Cq0ZZ7Cq0-tTo0-tUo0Aw7Ao0Bw7Ao0Aw7Bo0Bw7Bo2-sTo0-sUo0Iw7Ao0Jw7Ao0Iw7Bo0J",
  "w7Bo2FuTo0FuUo0Qw7Ao0Rw7Ao0Qw7Bo0Rw7Bo0Qw7Cq0Rw7Cq1FtUo1Zw7Ao1Zw7Bo1Zw7Cq0JuTo0JuUo0Ax7Ao0Bx",
  "7Ao0Ax7Bo0Bx7Bo0Ax7Cq0Bx7Cq0JtTo0JtUo0Ix7Ao0Jx7Ao0Ix7Bo0Jx7Bo0Ix7Cq0Jx7Cq0RtAo0Mt00VtAo0Nt00",
  "XtAo0Ot00ZtAo0Pt00-tAo0Mu00FuAo0Nu00JuAo0Ou02AY7Fq0BY7Fq0CY7Fq0DY7Fq0EY7Fq0FY7Fq0GY7Fq0HY7Fq",
  "0IY7Fq0JY7Fq0KY7Fq0LY7Fq0MY7Fq0NY7Fq0OY7Fq0PY7Fq0AZ7Fq0BZ7Fq0CZ7Fq0DZ7Fq0EZ7Fq0FZ7Fq0GZ7Fq0H",
  "Z7Fq0IZ7Fq0JZ7Fq0KZ7Fq0LZ7Fq0MZ7Fq0NZ7Fq0OZ7Fq0PZ7Fq0Ax7Fq0Bx7Fq0Cx7Fq0Dx7Fq0Ex7Fq0Fx7Fq0Gx7",
  "Fq0Hx7Fq0Ix7Fq0Jx7Fq0Kx7Fq0Lx7Fq0Mx7Fq0Nx7Fq0Ox7Fq0Px7Fq0RtGo0RtEo0Qx7Fq0RtFq0MtFq1RtCq0Wz7F",
  "q0RsGo0RsEo0RsAo0Gs00RsFq1Zt02I5Cq0Ux7Fq0XtFq0OtFq1XtCq0G+7Fq0VsAo0Is00XsAo0Js00XsFq0-z7Ao0-",
  "z7Bo0-z7Cq0ZtGo0ZtEo0KuAo0Qs02ZtCq0KuCq0ZsGo0ZsEo0ZsAo0Ks01+-7Ao0+-7Bo0+-7Cq0FuGo0FuEo0LuAo0",
  "Qt00BuTo0BuUo0FuCq0LuCq0FtGo0FtEo0FtAo0Os00BtUo0I5Ao0Fs00A302yx7Fq0JuFq0OuFq1JuCq0W-7Fq0-sAo",
  "0Ms00JtAo0Ps00JtFq0U502CA800DA80E9Jt03L200F60O3QM8Yp0SM8YpiUM8YpuQO8Yp0UO8Yp0SO8YpU1DQ8Yp4IQ",
  "8Yp2LQ8YpnDR8Yp1FR8YpqyR8Yp2DS8Yp2FS8Yp1IS8Ypmz1Yp1BT8YpaNS8Yp0y1Yp0+1Yp0ET8Yp0FT8Yp2ST8Yp0T",
  "T8Yp2WT8Yp0XT8Yp6wT8Yp0xT8Yp2CU8Yp0DU8Yp2GU8Yp0HU8YpC1CV8Yp0IV8Yp0JV8Yp0LV8YpQ1yT8Yp0zT8Yp0R",
  "U8Yp0SU8Yp6SV8Yp0TV8Yp0UV8Yp0VV8Ypx1IAc00JAc0Rz1zWaYpPL1LCcZEc1NCcZEc1PCcZEc1RCcZEc1TCcZEc1V",
  "CcZEc1XCcZEc1ZCcZEc1xCcZEc1zCcZEc1-CcZEc1BDcZEc2EDcZEc1GDcZEc1IDcZEc6PDcZEc0PDcwEc1SDcZEc0SD",
  "cwEc1VDcZEc0VDcwEc1YDcZEc0YDcwEc1xDcZEc0xDcwEcmGCcZEc9zEcZEcdLFcZEc1NFcZEc1PFcZEc1RFcZEc1TFc",
  "ZEc1VFcZEc1XFcZEc1ZFcZEc1xFcZEc1zFcZEc1-FcZEc1BGcZEc2EGcZEc1GGcZEc1IGcZEc6PGcZEc0PGcwEc1SGcZ",
  "Ec0SGcwEc1VGcZEc0VGcwEc1YGcZEc0YGcwEc1xGcZEc0xGcwEcmGFcZEc2PHcZEc0QHcZEc0RHcZEc0SHcZEc3zHcZE",
  "cBAS1ICD100UXp00KWD100IGD100RWr00SRj00F-k00yyH100yyH100RKm00ROE100HMl00IKm00WPo00JTt00Fyv00-",
  "RB100wzB100YHC100PEE100CQq00xIr00ZGs00++s00zBB100KLE100RPG100CUj00Vxk00EYq00xQs00NRB100+QH10",
  "0QKn00L-r00NOB100ELC100JWo00YOA100-AC100KWn00XYp00KLr00yXs00OGE100Gyj00XNk00+Wk00EGp00TWq00Q",
  "Qs00HXt00BAA100GQB100ySB100PPD100SZF100PxG100wPH100MEu00-Lu00ANv00J+A100EYE100-TH100WWC100-G",
  "m00EYn00ADv00+DA100CTs00KGu00CGD100XXF100YGm00CDn00TQq00wOr00PYr00PJv00XRv00LSF100SWk00LEA10",
  "0yOk00MOk00yQu00+Nv00R-A100VTF100AyC100PWo00CQq00+XC100ZRj00H-m00SAo00Hys00QLt00XYk00xHu00-z",
  "j00Jzn00NQj00MGr00YLp00CJv00D+k00+Cm00BYt00JCB100KVC100wzq00QzD100IEr00+Xo00FXA100Azo00FLt00",
  "OVj00JLk00JOk00BEq00HHv00PTA100SWC100POE100VXk00CCl00TLm00MXn00FOp00+-r00KJu00NNF100KTG100XU",
  "H100OWH100xUk00GWp00Xxq00CxD100UTn00QMo00AQo00wEp00DZr00JKs00JEt00KOu00UPv00PDA100GZD100OHB1",
  "00DBE100KwE100XQk00DVk00zFl00IGs00CGC100KVC100JWn00V-n00xxo00Ozq00+Bv00Vxs00EXj00ZXl00H-m00w",
  "Nn00yAo00Szs00JDt00wyv00GCA100URE100WXF100IwF100YAG100Lyj00ONu00UNE100YVF100BHo00GUj00wGk00O",
  "-m00-Bn00ZMp00CQq00OOs00CSt00yHB100yDE100NyH100IUp00ORF100JUk00xxp00T-p00BKr00yUr00JAt00ZKt0",
  "0LDu00QIv00+CG100NLk00ORo00YTF100LBk00ZIn00KPr00KZD100Lyn00EKo00XAq00Hys00GUF100JRk00PAl00FD",
  "n00TQp00Owp00IFq00FHr00GAt00CPt00Zxv00PGC100BHC100MOE100CXF100-Zk00wVr00zAl00QOs00YEt00wPB10",
  "0DVF100XCH100-UH100Xyp00LOr00IPA100LWu00AZu00SEv00AWs00ZEs00YwC100AWj00WZA100wRk00HQk00GVn00",
  "TWo00WGv00Fym00+Ir00UVp00xZD100MCC100NSF100LMC100TWn00AKk00AOl02wCm01UTp02+Ok00KZs00KWt00yJu",
  "00+Ku00FLu00PMu00WwF100+Fv00zzv01SQB101YXC102YBE100zHE103PHG100yHG100IJG100UNH100+GE100XVF10",
  "0Ozj00HHk00NKk00JWk00EXk00Rwk00zMl00GQl00ITl00ACm00IFm00EDn00ODn00UEo00ILo00OMo00SPo00PKp00C",
  "Pp00RUp00FEq00XLr00wQr00CZr00OLs00LRs00CBt00REu00+Ju00JKu00IKu00QKu00WKu00zKu00NMu00OMu00ASu",
  "00BUu00A+u00UPv00JQv00BSv00Sxv00FAA100NPA100ZTA100ZTA100XCB100QIC100WMC100BYC100ZZC100TGD100",
  "IID100WzD100YBE100DXF100--F100xBG100VDo00OXQ400YQA102GRj00VNk00ILk00Ayj00FKk00AMk00HWk00wXk0",
  "0zMl00VKl00ZMl00CPl00wCm00TFm00EKm00UKm00CTm00IZm00SWn00ZWn00Jxn00Nzn00YGo00OKo00IIo00OMo00A",
  "Lo00SPo00URo00E+o00yAp00SCp00WKp00UTp00XYp00xYp00Wwp00Zxq00wzq00BKr00xWr00LWr00CZr00+As00OLs",
  "00Hzt00VRs00PVs00KZs00RDt00GIt00xJt00zQt00-Qt00KWt00xWt00UXt00Kwt00Awt00MGu00RVu00A+u00xDv00",
  "xKv00UPv00+Zv00FAA100SwA100P-A100ZxB100BKC100GMC100WMC100-VC100YXC100LWC100BYC100+XC100NXC10",
  "0ZZC100KyC100IID100YZD100SDE100ZME100WTE100yTF100DXF100WwF100x+F100--F100LAG100xBG100SYG100y",
  "yH100KCK400ECK400V+M400zye00YAg00ZBg00JSU400QGX400TW-400DwH100OyH10D2ZO1UN11SP1XN1aJP1BO10JP",
  "1CO10Jw+1BO10Jw+1CO10QO1XN10QO1YN10QO1yN10RO1yN10SO1yN10TO1yN10UO1yN10VO1yN10WO1yN11YO1yN10Z",
  "O1yN10wO1yN10xO1yN10yO1yN11+O1yN11AP1yN10BP1yN11DP1yN10EP1yN11GP1yN10HP1yN10IP1yN10JP1yN10KP",
  "1yN10VO1ZN10RO1-N10xO1-N10EP1-N1wT2SOB2HoqwOB2HoVV2ZEE2wFE21xEE2wFE2eFFE2wFE2C4RJE2HJE20SJE2",
  "HJE2xgHwE2+ZE20HwE2XwE2W1CyE2J+E21EyE2xzE28LyE2C+E22QyE2J+E2T1C+E2C+E21C+E2YzE20C+E2J+E2S7ZF",
  "F2wFF20ZFF2QFF21ZFF2zFF2x7YNF2PNF20ZNF2PNF2yrVJG2QJG2I-h+IY2+IY20+IY2JJY20+IY2-IY20JJY2-IY20",
  "+IY2AJY20BJY2-IY20CJY2-IY20BJY2AJY2-B3HLx2HLx20DLx2HLx20JLx2HLx2T-oXKU3FLU30YKU3FLU30-KU3OLU",
  "30-KU3PLU30-KU3QLU30-KU3RLU30-KU3SLU3W2ZNU3FLU30wNU3FLU30xNU3OLU30yNU3OLU30xNU3PLU30yNU3PLU3",
  "-RJ2zRj00YRj00BSj00CJA400Axj00Ozj00xzj00CAk00wDk00ZEk00HHk00PGk00+Ed00wRB400NKk00UKk00ELk00X",
  "Lk00yIB400ZFd00HLk00NMk00LKB400XMk00ENk00MWj00MNk00VNk00-OE500VPk00DQk00-Gd00xRk00GSk00STk00",
  "XTk00VId00HWk00JWk00EXk00wXk00FYk00GYk00XYk00Jwk00Rwk00wwk00Txk00zxk00-xk00-xk00-xk00MRC400Q",
  "Ds00K+k00-+k00DxC400L-k00R-k00GAl00+El00YBl00ICl00IDl00CFl00WHl00QIl00TKl00DLl00EMl00EMl00ZM",
  "l00LNl00TNl00COl00WYl00GQl00XYl00RSl00UTl00HQk00OHm00O+l00U-l00NAm00Lyl00SBm00RBm00MFm00EHF4",
  "00SHm00XHm00GIm00wIm00CJm00CLm00IVF400KXF400MPm00xQm00HRm00YOm00GTm00OXd00yXd00IYm00+Zm00+Zm",
  "00IOG400D+m00Y+m00H-m00T-m00YYG400--m00GAn00Twn00CBn00Byd00ADn00ODn00AGn00NEn00EPH400DKn00GP",
  "H400OLn00LLn00yLn00BPn00CPn00PBe00zPn00IRn00zRn00JTn00CDe00DMI400yDe00QVn00TVn00WVn00KWn00Sy",
  "I500+Xn00RZI400RZI400BQA100CZn00CZn00HGe00YVM400wOY400Cxn00Lxn00DHe00wyn00N+n00X+n00Z-n00BEo",
  "00wJe00yIe00UEo00UWJ400HGo00IKo00MKo00OKo00MKo00wLo00OMo00SNo00ENo00PNo00+Oo00SPo00WPo00QQo0",
  "0xQo00zSo00RVo00UWo00Qwo00MYK400zZo00yXo00Ixo00Dyo00E-o00R-K400CBp00F+o00Jzo00ORe00JDp00+Dp0",
  "0zEp00XDp00MTe00PKp00MLp00KAM400DPp00YXp00JSp00ZYe00RUp00IYe00EXe00SMk00VMk00AYp00yUp00NFA10",
  "0Z+g00XYp00xYp00BZp00+wp00Twp00D+M400Jwe00w-p00Fyp00SCq00FEq00NDN400OEq00-Aq00UIq00zye00CKq0",
  "0DNq00KPq00IVq00DVN400xWq00YAf00BZq00HFO400Uwq00OCf00Sxq00-yq00wzq00xzq00NUO400LIH400wXO400O",
  "Cr00yFP400-Fr00NGr00HDr00WIr00+Jr00XLr00BKr00JLr00YLr00FMr00+IP400UJr00PRr00OTr00TJf00LWr00H",
  "Wr00RWP400ZPr00Oxr00+wP400OyP400G+r00ZBs00+As00xAs00WMf00KCs00zDs00XDs00NFs00FJB400FKs00DTQ4",
  "00yMs00LzQ400IRs00VRs00QSs00IQR400AUs00VUs00VZR400UAS400wxs00Lys00MVf00Fzs00YVf00YVf00HCt00y",
  "Ct00RDt00FEt00KGt00xYf00EJt00WBT400+Jt00SET400QLt00-MI400QQt00BzT400YzT400ECU400y-f00IAg00UX",
  "t00THU400SHU400ZIU400TJU400+Yt00-Yt00-Yt00Kwt00ZBg00Lyt00GCg00WEg00zAV400OCu00MEu00MGu00DHg0",
  "0GRV400WKu00wUV400FWV400PMu00LPu00PJg00ASu00KSu00PSu00yLW400HVW400HVW400OXu00CQg00LzW400G+u0",
  "0J+u00HRg00AEX400SGv00AVg00IHv00DHv00AIv00GyX400DLv00BYg00HOv00CQv00FSv00UZg00IRY400HSY400Zw",
  "g00ZWY400wxv00+ZY400Vyv00w-v00FAA100wGZ400DJZ400ADA100INZ400QDA100-wM400V+g00SFA100DIA100LAh",
  "00+JA100VVm00HzZ400VzZ400TyM400yyM400BQA100EQA100+yD100LDh00RUA100LUA100zUA100TVk00RVA100TVA",
  "100zVA100GXA100yZw400FXA100zYA100DxA100NzA100DZA100zzA100H-A100XCB100TwA100K+A100M+A100y+A10",
  "0WBx400LLx400VGx400LJh00RHB100THB100WIB100K+y400ELB100MZx400zKh00BLh00Rzx400SGy400LLh00QSB10",
  "0ySB100HTB100JTB100JVB100IUB100OYB100CXB100ZxB100IZB100LxB100GyB100XOh00B-B100BAC100ZPh00ADC",
  "100DDC100HTz400XGC100+GC100VRh00wHC100xFd00OF+400GL+400+Vh00HWh00AVC100NXC100KyC100VCD100IF-",
  "400LFD100BGD100xID100XLD100PZ-400EAC400LOD100yND100QPD100+GC400UWD100YZD100SOB500NPB500UEE10",
  "0RHE100RIE100OZB500xIE100YRE100XWE100YWE100yTE100Z-E100VAF100w-C500LMF100VMi00XNF100XLD500GP",
  "i00DWF100SNn00DZF100FKE500wQE500OTi00WTi00A-F100KAF500SVi00WEF500LAG100LAG100JBG100WNF500CHG",
  "100TZi00JJG100HNG100COG100+PG100O+i00QZG500SYG100ACH100zHH100OGj00NHj00HLH100OGI500YHj00FII5",
  "00OQI500RUI500xVH100WKj00ZXH100+XH100FYH100PYH100WYH100xZH100AQJ50"]

/-- The characters that are not put together again, as packed ranges. -/
def uncomposedRows : List String := [
  "Eq0TQ17y3110T2020C1220z71Fv090404040c090111080h090404040c0CZ60ACU1010ac1410111118PQV16W25"]

/-- The marks of each class, as packed ranges. -/
def markClassRows : List (Nat × List String) := [
  (1, ["Up4xM60d6Jv142a131NKw10WFo4JNk0IG52"]),
  (6, ["Q-x21"]),
  (7, [
    "yJ20-30-30-30-30-70-30wr0yX20R50Q20xLD10GYp0Y50W20L30S50R21J80y30y70W70Cc0I80+v0HAT10"]),
  (8, ["ZEc1"]),
  (9, [
    "NK20-30-30-30-30-30-30-30N31g0y30P30-30J60U51ZW11u0z40Nk0D70F31G21LM40GUu0F10X40O40M30V90W70",
    "RSn0GQ10J10e0Z10Z31L40U30U50C30A42R30-30y70-30W30U30N80D81B50T20i0R20Fd0E81R20Jd1MPg0"]),
  (10, ["QN10"]),
  (11, ["RN10"]),
  (12, ["SN10"]),
  (13, ["TN10"]),
  (14, ["UN10"]),
  (15, ["VN10"]),
  (16, ["WN10"]),
  (17, ["XN10"]),
  (18, ["YN10e0"]),
  (19, ["ZN11"]),
  (20, ["xN10"]),
  (21, ["yN10"]),
  (22, ["zN10"]),
  (23, ["-N10"]),
  (24, ["BO10"]),
  (25, ["CO10"]),
  (26, ["+Y+10"]),
  (27, ["LS10El0"]),
  (28, ["MS10El0"]),
  (29, ["NS10El0"]),
  (30, ["YQ10V10"]),
  (31, ["ZQ10V10"]),
  (32, ["wQ10V10"]),
  (33, ["RS10"]),
  (34, ["SS10"]),
  (35, ["QT10"]),
  (36, ["RY10"]),
  (84, ["VC30"]),
  (91, ["WC30"]),
  (103, ["YR31"]),
  (107, ["IS33"]),
  (118, ["YV31"]),
  (122, ["IW33"]),
  (129, ["Rx30"]),
  (130, ["Sx307320"]),
  (132, ["Ux30"]),
  (202, ["Bp141HV60"]),
  (214, ["OO70"]),
  (216, ["xo0zA30LRQ3174"]),
  (218, ["wP70PR40"]),
  (220, [
    "Wo324232a53a2314321Wh040406520q0P415020D406020D202022111030101010J50a0x22z12T14f02020326021X",
    "20FO11r010O40G60NF20y60G30V1520112150B50Ib423d0U607040J103010In033xBC12Gc0Sxk6Pu0C70MZ10M10L",
    "50WA12G213013S1010VPQ1771Cx40A80An6"]),
  (222, ["wM10i0Ly40TX50"]),
  (224, ["OBc1"]),
  (226, ["NLU30"]),
  (228, ["ON10wX40NK11SR40"]),
  (230, [
    "AokI1710323240307cT84K831225611120k0L27x112411X3623102121D20111130201210101011A5610C13181214",
    "J3133K145d211112621124R2011J50DM1121Vu2zD10ya0y60z27T1461412413y4016ya27140j031G6116114E1502",
    "0Rm1233140501060+-22O7vPDu049A11Q21Ofh+d011315110+wk671GK14UU10I10M50+h3B24z91x4210V1010xb2D",
    "j634J70RWl6OSp4A13U42xN361g261114E30A56Xb0z13-f0+70Vq5"]),
  (232, ["Vo040z10zU60VR40-FN31"]),
  (233, ["yq02020ZU60"]),
  (234, ["zq111LT60"]),
  (240, ["Fq0"])]

/-! ## Parts -/

/-- The parts of characters that numbers from the rows tell, behind the code before `next`. -/
def partsFrom (next : Nat) : List Nat → List (Nat × List Nat)
  | gap :: first :: second :: rest =>
    (next + gap, if second = 0 then [first] else [first, second]) ::
      partsFrom (next + gap + 1) rest
  | _ => []

def canonicalParts : List (Nat × List Nat) := partsFrom 0 (unpackedNumbers canonicalRows)

/-- The codes that are made of others but are not put together again. -/
def uncomposed : CodeSet := .ofRows uncomposedRows

def markClasses : List (Nat × CodeSet) := markClassRows.map fun (k, rows) => (k, .ofRows rows)

/-- The class of a mark; zero for other characters. -/
def markClass (code : Nat) : Nat :=
  ((markClasses.find? fun (_, codes) => codes.containsCode code).map (·.1)).getD 0

def firstSyllable : Nat := 0xAC00

/-- The letters of a Korean syllable: a first consonant, a vowel, and a last consonant or none. -/
def syllableLetters (code : Nat) : List Nat :=
  let n := code - firstSyllable
  let letters := [0x1100 + n / 588, 0x1161 + n / 28 % 21]
  if n % 28 = 0 then letters else letters ++ [0x11A7 + n % 28]

/-- A code taken apart. Parts may have parts, for at most `depth` levels. -/
def takenApart : Nat → Nat → List Nat
  | 0, code => [code]
  | depth + 1, code =>
    if code < 0xC0 then [code]
    else if firstSyllable ≤ code ∧ code ≤ 0xD7A3 then syllableLetters code
    else
      match canonicalParts.lookup code with
      | some parts => parts.flatMap (takenApart depth)
      | none => [code]

/-! ## Order -/

/-- Puts a mark in front of marks in the order of their classes. -/
def insertMark (mark : Nat × Nat) : List (Nat × Nat) → List (Nat × Nat)
  | [] => [mark]
  | other :: rest =>
    if 0 < other.2 ∧ other.2 < mark.2 then other :: insertMark mark rest
    else mark :: other :: rest

/-- Codes and their classes with every run of marks in the order of the classes. -/
def inMarkOrder : List (Nat × Nat) → List (Nat × Nat)
  | [] => []
  | c :: rest => if c.2 = 0 then c :: inMarkOrder rest else insertMark c (inMarkOrder rest)

/-! ## Putting together -/

/-- The character that two make. -/
def composed? (a b : Nat) : Option Nat :=
  if 0x1100 ≤ a ∧ a < 0x1113 ∧ 0x1161 ≤ b ∧ b < 0x1176 then
    some (firstSyllable + ((a - 0x1100) * 21 + (b - 0x1161)) * 28)
  else if firstSyllable ≤ a ∧ a ≤ 0xD7A3 ∧ (a - firstSyllable) % 28 = 0 ∧
      0x11A8 ≤ b ∧ b < 0x11C3 then some (a + (b - 0x11A7))
  else
    (canonicalParts.find? fun (code, parts) =>
      parts == [a, b] && !uncomposed.containsCode code).map (·.1)

/-- Puts codes together behind `starter` and the marks `between`, which stayed apart from it and
are kept with the last first. A mark is put together with the starter unless one of its class or
a higher one stands between them. -/
def composeFrom (starter : Nat) (between : List (Nat × Nat)) : List (Nat × Nat) → List Nat
  | [] => starter :: (between.reverse.map (·.1))
  | (code, k) :: rest =>
    let joined := match between with
      | [] => composed? starter code
      | last :: _ => if last.2 < k then composed? starter code else none
    match joined with
    | some whole => composeFrom whole between rest
    | none =>
      if k = 0 then starter :: (between.reverse.map (·.1)) ++ composeFrom code [] rest
      else composeFrom starter ((code, k) :: between) rest

/-- Puts codes together that stand in the order of their classes. -/
def composedCodes : List (Nat × Nat) → List Nat
  | [] => []
  | (code, k) :: rest =>
    if k = 0 then composeFrom code [] rest else code :: composedCodes rest

def canonical (s : List Char) : List Char :=
  let codes := (s.flatMap fun c => takenApart 4 c.toNat).map fun n => (n, markClass n)
  (composedCodes (inMarkOrder codes)).map Char.ofNat

end BuildTool.Text
