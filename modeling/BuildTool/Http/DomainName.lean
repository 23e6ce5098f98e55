import BuildTool.Http.Punycode
import BuildTool.Text.Canonical
import BuildTool.Text.Direction
import BuildTool.Text.LetterCase

/-!
# Domain names

A domain name is asked for in ASCII. Characters stand for others or for nothing, such as capital
letters for small ones and the soft hyphen for nothing; the name is brought into its canonical form
and cut into labels at its points; and a label with characters beyond ASCII is written in ASCII
behind `xn--`. Names that could be taken for others are refused: those with characters that are
not for names, with a mark in front, or with a mixture of directions.

    DomainName.ascii? "BÜCHER.example"  =  some "xn--bcher-kva.example"
-/

/-!
## Rows of characters in domain names

What characters stand for in a domain name, besides their small forms: nothing at all, another
character, several characters. Some characters cannot stand in a name.
-/

namespace BuildTool.Http

/-- Characters that count for nothing, as packed ranges. -/
def ignoredRows : List String := [
  "N50Bl0xF5210x-10U2030xMX1fP70ANP13yCRoP7"]

/-- Characters that cannot stand in a name though they are assigned, as packed ranges. -/
def refusedRows : List String := [
  "A4A170604030-g5y4091wj5m0A60R10Ac1Q20yD21-I10T91Q2070Oz1012b2d2d1e11a3170c217e082l01229Q4131",
  "BsjYO10xL1gw41H60K40Se040g0FES15Wc1m12020m0m55021804120114010101010101010E401090a01012q3t0D2",
  "0C20l4-F40f0Cx8fTJH17Fy70AYDo0u-2"]

/-- Runs of characters that stand for a run of others: how many codes lie between a run and the one
before, how many characters it has besides its first, and the first one of the others. -/
def shiftedRows : List String := [
  "K50B371S110yt30R100P3E60T3Q90I300Gj00K300S300Zj00xj00Bk00X300Z3H10Dj00M300T300Y300VkA30ZtK40",
  "St00Yt00Fu00Nu00Lu00Gu00Aup0wt00Bu00Du20Vt30DuSY20LY3Pf0yG4xn5Q-4CE20SB100UB100+B101BC100CC1",
  "00KC100DD100LSJ1D50B300G700C311E300ze07H310P300Dh00Q300S301U300X300B301Qi00CI700C301E300Zi01",
  "xi00H310L300N300La00P300Ui01WI700Q301U300zI700Pj00W300FJ702St01Gu00J300S301V301St00Bu01Gud0z",
  "B1C10Si00D300Vi00Q700yi00G300-i00Bj00Fj02Ij00xL700zk00Nj00FM700-k00Rj00Qj03Sj00Yj01Ck00Ld01J",
  "k00yI701Lk00w302Qk00Ytx60BT7Vb0QA8+20Q100J325U100L100SQ800z101I100O309Q100L100SQ800z101I110B",
  "300F300P300Y300Zi00I303L300Q301T3F30D340xi21H300I300I300I300H900J300J300M300M310O332Q300S300",
  "S360w330w331C310F301F310N300P303QO100J320Au00Tt00Tt00Au00RQ840E301E301J3m0J330W340Y320M301D3",
  "00N300J330W340Y320M301D300N3An8R1N2pB30pB300Q1Ry10K300W3R70BLbP90N+qT20-yH1c0AQj00IRj00WRj00",
  "-Rj00ZSj00FUj00MUj00AVj00wVj00-Jk00FLk00LLk00CMk00WMk00LNk00APk00VPk00AQk00xUk00ZXk00VYk00wY",
  "k00YZk00Bwk00ywk00Jxk00Cyk00Wzk00I+k00D-k00XWl00-Yl00LHm00CIm00KIm00VIm00HJm00TLm00Qwm00Aym0",
  "0Y-m00PAn00CBn00YBn00ODn00RDn00xOn00FPn00RPn00+Pn00STn00wTn00-Tn00UXn00+Xn00LYn00TYn00Qwn00B",
  "xn00Txn00D+n00IQo00WRo00LSo00PJp00UJp00HMp00XMp00ENp00ZNp00APp00FPp00QXp00IYp00IZp00AZq00Cxq",
  "00Zxq00Tzq00L+q00U+q00x+q00PAr00UAr00UBr00LDs00KRs00WRs00xRs00-Rs00HSs00ZSs00xSs00MVs00Eys00",
  "Jys00yGt00GHt00YIt00-It00IJt00QJt00LMt00SMt00WTt00zTt00OVt00-Vt00OXt00x+t00C-t00T-t00wJu00YN",
  "u00+Nu00UTu00LWu00ZXu00TDv00YHv00WZv00Rwv00Kyv00zzv00BAA100MAA100SAA100TBA100-DA100JEA100DPA",
  "100KPA100TPA100yPA100MQA100xQA100-QA100OTA100STA100YTA100NSB100LTB100ACC100MCC100DDC100+LC10",
  "0LMC100SOC100AQC100XBD100GCD100VCD100YDD100zED100ELD100QLD100TND100LVD100KWD100xyD100QzD100V",
  "zD100REE100JKE100GOE100MOE100ROE100XLF100AMF100yQF100WVF100ZVF100IXF100RwF100+wF100CxF100JxF",
  "100L+F100N-F100T-F100BAG100IFG100xGG100-GG100WMG100ZMG100MNG100IVG100YWG100-WG100FZG100PZG10",
  "0SZG100yZG100wwG100FHH100VTH100-TH100FVH100xVH100DWH100NWH100RWH100ZXH100zXH100OYH100TYH100A",
  "ZH100xZH100KwH100SwH100NyH100yyH100AzH1M10O1T10SAc10Bwk01EwkW71AI400KN400CI401MN402DI405QN40",
  "0wI402GI400BJ409JI40kBL411UI401HO400MO400OO400TO400XO400ZO400yI400zO400-O401zI400AJ401CJ400H",
  "J400JJ404LJ400SJ400WJ400AK400HK400MK401RP402XK401EM400IM401RM400UM400+M400BN430AQj00MUj00JQj",
  "00xWl00KQj00NRj00LQj00SJt00ZSj00ZQj00BQj00JJm00QZl00wVjE50PKl00yTn00HMp00Pyuo0AI401CI402FI40",
  "0JI401LI404OI400AAL100YEM100EXM100yxN100IOO100UAP100MFQ100EKR100QyR100IBT100UTT100AGU100MYU1",
  "00YKV120QVR110AQj00MUj00JQj00xWl00UUj00NLk00DQj00LLk00zSj00Bwk00IYp00LDs00UBr00IZp00ROE100-Y",
  "l00FPp00KBq00JYp00+Ju00NAl00ZTs00BFD100zKu00UVk00YOu00XJt00TLm00JDE100KJk00Qxk00IHr00FAG100R",
  "Yj00ZMk00Dxq00KQj00NRj00LQj00GPn00T-k00xZk00Xym00Gxm00DXt00BYj00HGD100Uwk00yImv0CFc00EFc00GF",
  "c00IFc01KFc00NFc00PFc00RFc00TFc00VFc00XFc00ZFc00xFc00zFc00-Fc00BGc00EGc00GGc00IGc05KGc00SGc0",
  "0VGc00YGc00xGc04+Gc00EHc00GHc05IHc03PHczys0KC100MC1S60PxJ1B40D300G300R330H900TaCr0HZJ100XZK1",
  "00Lj00SwK190Nk6P2Az4Axj0CP100QO101TO102xO100IP100KP100L1G10RT100RT100xT100xT100xT100xT100+T1",
  "00+T100+T100+T100AU100AU100AU100AU100wT100wT100wT100wT100-T100-T100-T100-T100ZT100ZT100ZT100",
  "ZT100EV100EV100EV100EV100GV100GV100GV100GV100EU100EU100EU100EU100DU100DU100DU100DU100GU100GU",
  "100GU101GU100HU100HU100HU100NU100NU100MU100MU100OU100OU100IU100IU100YU100YU100RU100RU100JV10",
  "0JV100JV100JV100PV100PV100PV100PV100TV100TV100TV100TV100RV100RV100RV100RV100wV101wV100xV100x",
  "V100xV100AW101AW100BW100BW100BW100+V100+V100+V100+V100SW101SW100TW1B10NV100NV100NV100NV100HW",
  "100HW100GW100GW100IW100IW110LW100LW100FW100FW100JW100JW100QW100QW100QW100QW100JS100JS1i0MW10",
  "0MW100MW100MW1Qg0M100BAc20x100B111WAco0UA800TA800-200-201I100x300z301UAc01QAc01KAc01IAc03MAc",
  "80-200-200-200M100BAc20x120B100UA801I100x300z301UAc10G101K100N120z120E1m1BR101CR101DR101ER10",
  "1FR100GR100GR101GR101HR100IR100IR101IR101JR100KR100KR101KR100LR100LR101LR100MR100MR101MR100N",
  "R100NR101NR100OR100OR101OR101PR101QR101RR101SR100TR100TR101TR100UR100UR101UR100VR100VR101VR1",
  "00WR100WR101WR100XR100XR101XR100YR100YR101YR100ZR100ZR101ZR100wR100wR100wR100BS100BS100BS101",
  "BS100CS100CS101CS100DS100DS101DS100ES100ES101ES100FS100FS101FS100GS100GS101GS100HS100HS101HS",
  "101IS101JS100KS100KS100KS1c1B110E118G119Q110x110z13pB34s-211z301FMa00O101MAc00BAc00xHc00SHc0",
  "0BFc00DFc00FFc00HFc00JFc00DHc00FHc00HHc00DGc00yHc00CFc00EFc00GFc00IFc01KFc00NFc00PFc00RFc00T",
  "Fc00VFc00XFc00ZFc00xFc00zFc00-Fc00BGc00EGc00GGc00IGc05KGc00SGc00VGc00YGc00xGc04+Gc00EHc00GHc",
  "05IHc00PHc00THc01ZEc11AI400KN400CI401MN402DI405QN400wI402GI400BJ409JI435BL425HL425NL422TL431",
  "C500M510G500F500JF810CI903QM800AN900LO9Sy11Qm00G700Zk00Ti10Dl00GxK100Fl00El01Wi00RM700Yi00+i",
  "00Jl00Ej00Cj00Aj00xk00H900yk00Hj00Ek01Kl00Mj00EYX300OyJ100Oj00FYX300Ok00GYX300Y701Wj00R300wj",
  "00IYX301zj00Ak00Il00Gl00HxK100Hl00Ik00RDb10Pk01Bl00Yk02Ae00KYX300+YX3xIR1pB309Q1GY1pB30pB30p",
  "B306B31hJ30pB30pB300B311D320H321K323O317T303B310G316I31aQ30pB30pB301B313E327K316T31pB301B313",
  "E314J310P336T31pB30pB30pB30pB30pB30pB30pB30pB30pB30pB30pB30pB30pB300R900Xh2gRt00Yt06Du00HQ80",
  "gRt00Du06Du00CQ800Vt00Yt00wt00Gu00Bu00Au0gRt00Yt06Du00HQ80gRt00Du06Du00CQ800Vt00Yt00wt00Gu00",
  "Bu00Au0gRt00Yt06Du00HQ80gRt00Du06Du00CQ800Vt00Yt00wt00Gu00Bu00Au0gRt00Yt06Du00HQ80gRt00Du06D",
  "u00CQ800Vt00Yt00wt00Gu00Bu00Au0gRt00Yt06Du00HQ80gRt00Du06Du00CQ800Vt00Yt00wt00Gu00Bu00Au00zu",
  "00zu29Q109Q109Q109Q109Q1QB28QB102wB10a+B100LC101NC100JUJ100ZG100WC100YC100JH100PF100PG108QB1",
  "01wB101+B100BC105DC101KC100RE100WC100VC100-C100LF100RSJ100RF1SM31HR100MR100PR110IS100SR100NR",
  "100XR100KS103DS100TR100ZR100BS100VR100CS100RR100UR101KR100OR100QR100WR100YR100wR100OT100wV10",
  "0BV100PT110IR100MR110HS120NR110KS103DS100TR100ZR100BS100VR100CS110UR101KR100OR110WR110wR160M",
  "R140NR110KS110ES110GS100TR100ZR110VR100CS110UR120OR110WR110wR110wV110PT110IR100MR110HS120NR1",
  "00XR100KS100DS111FS100TR100ZR100BS100VR100CS110UR101KR100OR110WR100YR100wR100OT110BV111HR100",
  "MR100PR101HS100SR100NR100XR100KS112ES100TR100ZR100BS100VR100CS100RR100UR101KR100OR100QR100WR",
  "100YR100wR150IR100MR100PR110IS100SR100NR100XR100KS112ES100TR100ZR100BS100VR100CS100RR100UR10",
  "1KR100OR100QR100WR100YR100wR1Pj0D300S33pB3Y50VFcd0LSo00Xwm00M+k00HGc00MUj00wIm00DPC100JJm00E",
  "Vj00ARp00BJs00ZMp00NSk00Myn00NMk00QNp00zQk00CKv00-It00JFD100QHm00ZBl00UYr00VUo00Vwo00AQj00JQ",
  "j00KCE100GPn00NRj00T-k00HYo00QLD100TSo00BMu00wTu00IAl00AUr00JYp00IYp00TJt00STk00WNl00NKE1k0X",
  "yn00P-k+M29Q1"]

/-- Characters that stand for several: how many codes lie between one and the one before, how many
they are besides the first, and the codes of all. -/
def spelledRows : List String := [
  "y52R1EC8U102R1EC8S102T1EC8U1T31J3K301J3K3b1M3X501M3X581ylO3w31E3+b01E3+b01E3+b01M3K301M3K301",
  "M3K301O3K301O3K301O3K3E11E3w301E3w301E3w3Ts1FL1CM1N71HR1UT101IS1UT101HW1UT101KS1UT1wz11NS3SR",
  "3-31NW3SV3I11LV3ZU301LV3BV3Z42Sz3Rx3Ay312Tz3Rx3Ay3AZ31B3+lF71AY7Zt01BY7Zt01CY7Zt01DY7Zt01EY7",
  "Zt01FY7Zt01GY7Zt01HY7Zt01AY7Zt01BY7Zt01CY7Zt01DY7Zt01EY7Zt01FY7Zt01GY7Zt01HY7Zt01AZ7Zt01BZ7Z",
  "t01CZ7Zt01DZ7Zt01EZ7Zt01FZ7Zt01GZ7Zt01HZ7Zt01AZ7Zt01BZ7Zt01CZ7Zt01DZ7Zt01EZ7Zt01FZ7Zt01GZ7Zt",
  "01HZ7Zt01Ax7Zt01Bx7Zt01Cx7Zt01Dx7Zt01Ex7Zt01Fx7Zt01Gx7Zt01Hx7Zt01Ax7Zt01Bx7Zt01Cx7Zt01Dx7Zt0",
  "1Ex7Zt01Fx7Zt01Gx7Zt01Hx7Zt21Qx7Zt01RtZt01MtZt21Wz7Zt41RtZt51Ux7Zt01XtZt01OtZt21G+7Zt41XtZtF",
  "11yx7Zt01JuZt01OuZt21W-7Zt41JuZtW11SB8SB802SB8SB8SB811VB8VB802VB8VB8VB841B1B1q3SB8SB8SB8SB8Q",
  "21S3T3w21Q5D351Q5G3c1O3P391T3N302U3F3M301U3N3o2G3B3Y3k2R1EC8X102R1EC8Z103R1EC8R1Q102R1EC8T10",
  "2S1EC8T102R1EC8V102S1EC8V102T1EC8V102U1EC8V102R1EC8W102V1EC8W102R1EC8Y102T1EC8Y102V1EC8Y102X",
  "1EC8Y101R1EC811J3J302J3J3J301J3W311W3J302W3J3J303W3J3J3J301J3Y311Y3J302Y3J3J351J3J302J3J3J30",
  "1J3W311W3J302W3J3J303W3J3J3J301J3Y311Y3J302Y3J3J3d2Q1EC8T1C51LR8LR802LR8LR8LR811OR8OR802OR8O",
  "R8OR8Yh1R1Q101R1R101R1S101R1T101R1U101R1V101R1W101R1X101R1Y101R1Z101S1Q102I1R1J102I1S1J102I1",
  "T1J102I1U1J102I1V1J102I1W1J102I1X1J102I1Y1J102I1Z1J103I1R1Q1J103I1R1R1J103I1R1S1J103I1R1T1J1",
  "03I1R1U1J103I1R1V1J103I1R1W1J103I1R1X1J103I1R1Y1J103I1R1Z1J103I1S1Q1J1k2I1B3J102I1C3J102I1D3",
  "J102I1E3J102I1F3J102I1G3J102I1H3J102I1I3J102I1J3J102I1K3J102I1L3J102I1M3J102I1N3J102I1O3J102",
  "I1P3J102I1Q3J102I1R3J102I1S3J102I1T3J102I1U3J102I1V3J102I1W3J102I1X3J102I1Y3J102I1Z3J102I1w3",
  "J1WK13LR8LR8LR8LR8I31z1z102z1z1z1IR11IEcKEc-21TFcIGcA82I1AI4J102I1CI4J102I1DI4J102I1FI4J102I",
  "1GI4J102I1HI4J102I1JI4J102I1LI4J102I1MI4J102I1OI4J102I1PI4J102I1QI4J102I1RI4J102I1SI4J102I1A",
  "AL1J102I1YEM1J102I1EXM1J102I1yxN1J102I1IOO1J102I1UAP1J102I1MFQ1J102I1EKR1J102I1QyR1J102I1IBT",
  "1J102I1UTT1J102I1AGU1J102I1MYU1J102I1YKV1J102I1yHS1J103I1ERR1EAS1J103I1ERR1EWV1J112I1AQjJ102",
  "I1MUjJ102I1JQjJ102I1xWlJ102I1UUjJ102I1NLkJ102I1DQjJ102I1LLkJ102I1zSjJ102I1BwkJ102I1IYpJ102I1",
  "LDsJ102I1UBrJ102I1IZpJ102I1ROE1J102I1-YlJ102I1FPpJ102I1KBqJ102I1JYpJ102I1+JuJ102I1NAlJ102I1Z",
  "TsJ102I1BFD1J102I1zKuJ102I1UVkJ102I1DXjJ102I1yDlJ102I1GxmJ102I1DXtJ102I1BYjJ102I1HGD1J102I1U",
  "wkJ102I1NLuJ102I1RYjJ102I1KPA1J102I1TPA1J1c2Q3U3F301S1R101S1S101S1T101S1U101S1V101S1W101S1X1",
  "01S1Y101S1Z101T1Q101T1R101T1S101T1T101T1U101T1V1s1YBT1AHL101yHS1YwR1T11T1W101T1X101T1Y101T1Z",
  "101U1Q101U1R101U1S101U1T101U1U101U1V101U1W101U1X101U1Y101U1Z101V1Q101R1IYp01S1IYp01T1IYp01U1",
  "IYp01V1IYp01W1IYp01X1IYp01Y1IYp01Z1IYp02R1Q1IYp02R1R1IYp02R1S1IYp01I3H302F3S3H301F3W302M3U3E",
  "3P11EXjMEl03CFcRGcyHcIGc03CFcLHcVGcBFc03CFcTHcwGcCFc02CFcyHcLHc03EFcLGcTHcQFc02EFcTHcBGc02GF",
  "cJFcTHc04IFcZFcPFcyHcJGc03IFcyHcLFcyHc02KFcTHcZFc02KFcyHcAHc02LFcEFcKHc03LFcJHcDGcIGc03LFcNH",
  "cKHcyHc02MFcNHcTHc02MFcTHc+Gc01OFcMFc02OFcLGcyHc03NFcFHcKHcyHc03OFcLHcAGcyHc01NFcNHc04NFcNHc",
  "QFcJHcAHc05NFcNHcBHcyHcIGcLHc04NFcNHcPHcDGcIGc02QFcJHcAHc04QFcJHcAHcIGcTHc04PFcLHcyFcEFcNHc0",
  "3PFcNHcyHcNGc02RFcyHcZFc02TFcLHcKGc02TFcyHczGc03VFcEFcPFcLHc04VFcTHcBGcyHcAHc03XFcKHcTHcQFc0",
  "2xFcTHcBGc02xFcTHcIGc02AGcyHcZFc01HGcXFc01JGcLHc01IGcTHc01KGcOGc02OGcDGcIGc02PGcEFcEGc04RGcy",
  "HcxFcTHcIGc02RGcyHcEGc03QGcyHcMHcLHc04UGcCFcZFcIGcLHc02UGcPFcLHc01UGcTFc01TGcLHc04VGcBFcJHcD",
  "GcJGc03VGcDFcyHcIGc04WGcDGcXFcHFcLHc02VGcJHcTHc04YGcPFc-FcyHcLHc01wGczFc02wGcLGcSGc02YGcLHcE",
  "Gc02wGcTHcZFc02wGcyHcYFc02ZGcyHc-Fc03zGcEFcTHcIGc02yGcLHcIGc01xGcTHc02zGcTHcJGc02xGcyHcLHc02",
  "xGcyHcTHc03+GcEFcPFcNHc02+GcEFcLHc02+GcDGcPGc02+GcLHcPFc04+GcTHcXFcHHcTHc03-GcPFcNHcTHc01-Gc",
  "KHc04-GcKHcQGcyHcLHc01BHcMFc03BHcMFcIGcTHc03BHcyHcIGcLHc02EHcyHcJGc02EHcyHcLHc02GHcCFcTHc03K",
  "HcDGcIGcLHc01KHcJHc02LHcUGcyHc03LHcyHcWGcLHc01MHcAHc04MHcTHcIGcSFcTHc02PHcDGcIGc01Q1ZFs01R1Z",
  "Fs01S1ZFs01T1ZFs01U1ZFs01V1ZFs01W1ZFs01X1ZFs01Y1ZFs01Z1ZFs02R1Q1ZFs02R1R1ZFs02R1S1ZFs02R1T1Z",
  "Fs02R1U1ZFs02R1V1ZFs02R1W1ZFs02R1X1ZFs02R1Y1ZFs02R1Z1ZFs02S1Q1ZFs02S1R1ZFs02S1S1ZFs02S1T1ZFs",
  "02S1U1ZFs02I3Q3B301E3B301B3V302C3B3S301P3W301Q3D301E3N302E3N3S102E3N3T101J3V301TTnQQo01NRpME",
  "l01HJmDxq01OQpxFr03KBqPYnwYj+Ju01Q3B301O3B301ytB301N3B301L3B301L3C301N3C301H3C302D3B3M303L3D",
  "3B3M301Q3G301O3G301ytG301ytH301N3H301L3H301I3w302L3I3w302N3I3w302H3I3w302U3I3w301ytM301N3M30",
  "1E3M301L3M301G3N301O3N301ytN301N3N301D3N301L3N302N3N3S102D3N3S101N3S102L3N3S102N3N3T102D3N3T",
  "101N3T102L3N3T102N3VQ8T303N3VQ8T3S101Q3B302L3Q3B302N3Q3B302H3Q3B302S3B3E304S3B3E3VQ8T305S3B3",
  "E3VQ8T3S101Q3T301O3T301ytT301N3T301Q3W301O3W301ytW301N3W301L3W301N3W301Q3X301O3X301ytX301N3X",
  "301L3X301N3X301L3Ju01N3Ju11C3R301D3D301D3E303D3VQ8L3H311E3C301H3Z301I3B301I3Q301J3O301L3L301",
  "L3N301L3U301M3N301M3O302M3P3H301M3Y301N3C302N3J3M302N3P3M301Q3I312Q3Q3N301Q3S301T3S301T3W301",
  "X3C302W3VQ8N302B3VQ8N301R1FPp01S1FPp01T1FPp01U1FPp01V1FPp01W1FPp01X1FPp01Y1FPp01Z1FPp02R1Q1F",
  "Pp02R1R1FPp02R1S1FPp02R1T1FPp02R1U1FPp02R1V1FPp02R1W1FPp02R1X1FPp02R1Y1FPp02R1Z1FPp02S1Q1FPp",
  "02S1R1FPp02S1S1FPp02S1T1FPp02S1U1FPp02S1V1FPp02S1W1FPp02S1X1FPp02S1Y1FPp02S1Z1FPp02T1Q1FPp02",
  "T1R1FPp02H3B3M3AYR11G3G301G3J301G3M302G3G3J302G3G3M301T3U301T3U3c1UL1WL101UL1FL101UL1LL101+L",
  "1WL101UL1NL1X11QO1yO1N41HW1UT1c1GR1HR101GR1HR101GR1VW101GR1VW101GR1IS101GR1IS101GR1HW101GR1H",
  "W101GR1GW101GR1GW101GR1IW101GR1IW101GR1QW101GR1QW101GR1QW101GR1JS101GR1JS101GR1JS141GR1MR101",
  "GR1NR101GR1FS101GR1JS101GR1KS101IR1MR101IR1NR101IR1OR101IR1FS101IR1JS101IR1KS101KR1MR101KR1N",
  "R101KR1OR101KR1FS101KR1JS101KR1KS101LR1MR101LR1FS101LR1JS101LR1KS101MR1NR101MR1FS101NR1MR101",
  "NR1FS101OR1MR101OR1NR101OR1FS101TR1MR101TR1NR101TR1OR101TR1FS101VR1NR101VR1FS101WR1MR101WR1N",
  "R101WR1OR101WR1FS101XR1NR101XR1FS101YR1FS101ZR1MR101ZR1FS101wR1MR101wR1FS101BS1MR101BS1NR101",
  "BS1OR101BS1FS101BS1JS101BS1KS101CS1NR101CS1FS101CS1JS101CS1KS101DS1HR101DS1MR101DS1NR101DS1O",
  "R101DS1ES101DS1FS101DS1JS101DS1KS101ES1MR101ES1NR101ES1OR101ES1FS101ES1JS101ES1KS101FS1MR101",
  "FS1NR101FS1OR101FS1FS101FS1JS101FS1KS101GS1MR101GS1NR101GS1OR101GS1FS101GS1JS101GS1KS101HS1M",
  "R101HS1FS101HS1JS101HS1KS101KS1MR101KS1NR101KS1OR101KS1FS101KS1JS101KS1KS101QR1QT101RR1QT101",
  "JS1QT161GR1RR101GR1SR101GR1FS101GR1GS101GR1JS101GR1KS101IR1RR101IR1SR101IR1FS101IR1GS101IR1J",
  "S101IR1KS101KR1RR101KR1SR101KR1FS101KR1GS101KR1JS101KR1KS101LR1RR101LR1SR101LR1FS101LR1GS101",
  "LR1JS101LR1KS101BS1JS101BS1KS101CS1JS101CS1KS101DS1HR101DS1ES101DS1FS101DS1JS101DS1KS101ES1F",
  "S101ES1JS101ES1KS101FS1HR101FS1FS101GS1RR101GS1SR101GS1FS101GS1GS101GS1JS101GS1KS101JS1QT101",
  "KS1RR101KS1SR101KS1FS101KS1GS101KS1JS101KS1KS101GR1MR101GR1NR101GR1OR101GR1FS101GR1HS101IR1M",
  "R101IR1NR101IR1OR101IR1FS101IR1HS101KR1MR101KR1NR101KR1OR101KR1FS101KR1HS101LR1FS101MR1NR101",
  "MR1FS101NR1MR101NR1FS101OR1MR101OR1FS101TR1MR101TR1NR101TR1OR101TR1FS101VR1NR101VR1OR101VR1F",
  "S101WR1MR101WR1NR101WR1OR101WR1FS101XR1NR101YR1FS101ZR1MR101ZR1FS101wR1MR101wR1FS101BS1MR101",
  "BS1NR101BS1OR101BS1FS101CS1NR101CS1FS101DS1MR101DS1NR101DS1OR101DS1ES101DS1FS101ES1MR101ES1N",
  "R101ES1OR101ES1FS101ES1HS101FS1MR101FS1NR101FS1OR101FS1FS101GS1MR101GS1NR101GS1OR101GS1FS101",
  "GS1HS101HS1MR101HS1FS101HS1QT101KS1MR101KS1NR101KS1OR101KS1FS101KS1HS101GR1FS101GR1HS101IR1F",
  "S101IR1HS101KR1FS101KR1HS101LR1FS101LR1HS101TR1FS101TR1HS101UR1FS101UR1HS101DS1ES101DS1FS101",
  "ES1FS101GS1FS101GS1HS101KS1FS101KS1HS102AS1OS1RS102AS1PS1RS102AS1QS1RS101XR1JS101XR1KS101ZR1",
  "JS101ZR1KS101wR1JS101wR1KS101TR1JS101TR1KS101UR1JS101UR1KS101NR1JS101NR1KS101MR1JS101MR1KS10",
  "1OR1JS101OR1KS101VR1JS101VR1KS101WR1JS101WR1KS101UR1MR101UR1NR101UR1OR101UR1FS101UR1RR101TR1",
  "RR101VR1RR101WR1RR101XR1JS101XR1KS101ZR1JS101ZR1KS101wR1JS101wR1KS101TR1JS101TR1KS101UR1JS10",
  "1UR1KS101NR1JS101NR1KS101MR1JS101MR1KS101OR1JS101OR1KS101VR1JS101VR1KS101WR1JS101WR1KS101UR1",
  "MR101UR1NR101UR1OR101UR1FS101UR1RR101TR1RR101VR1RR101WR1RR101UR1MR101UR1NR101UR1OR101UR1FS10",
  "1TR1HS101UR1HS101XR1FS101TR1MR101TR1NR101TR1OR101UR1MR101UR1NR101UR1OR101XR1FS101YR1FS101HR1",
  "LS101HR1LS1i2KR1MR1FS102KR1NR1MR102KR1NR1MR102KR1NR1FS102KR1OR1FS102KR1FS1MR102KR1FS1NR102KR",
  "1FS1OR102MR1FS1NR102MR1FS1NR102NR1FS1KS102NR1FS1JS102TR1NR1MR102TR1MR1NR102TR1MR1JS102TR1FS1",
  "NR102TR1FS1NR102TR1FS1MR102TR1FS1FS102TR1FS1FS102VR1NR1NR102VR1NR1NR102VR1FS1FS102UR1NR1FS10",
  "2UR1NR1FS102UR1MR1KS102UR1FS1OR102UR1FS1OR102UR1FS1FS102UR1FS1FS102WR1NR1JS102WR1OR1FS102WR1",
  "OR1FS102XR1FS1NR102XR1FS1NR102XR1FS1FS102XR1FS1KS102ZR1MR1FS102ZR1FS1FS102ZR1FS1FS102ZR1FS1J",
  "S102wR1FS1FS102wR1FS1KS102wR1FS1JS102BS1OR1FS102BS1OR1FS102CS1FS1NR102CS1FS1FS102ES1NR1FS102",
  "ES1NR1KS102ES1NR1JS102ES1MR1MR102ES1MR1MR102ES1OR1FS102ES1OR1FS102ES1FS1NR102ES1FS1NR102FS1N",
  "R1MR102FS1NR1FS102FS1NR1KS102FS1MR1NR102FS1MR1FS102FS1OR1MR102FS1OR1FS122FS1MR1OR102HS1FS1MR",
  "102HS1FS1FS102GS1NR1FS102GS1NR1JS102GS1MR1FS102GS1MR1FS102GS1MR1JS102GS1FS1KS102GS1FS1JS102K",
  "S1FS1FS102KS1FS1FS102IR1OR1KS102KR1MR1KS102KR1MR1JS102KR1OR1KS102KR1OR1JS102KR1FS1KS102KR1FS",
  "1JS102MR1FS1KS102MR1NR1JS102MR1FS1JS102TR1OR1JS102VR1NR1KS102UR1NR1KS102WR1NR1KS102ES1MR1KS1",
  "02ES1FS1KS102KS1NR1KS102KS1MR1KS102KS1FS1KS102FS1FS1KS102CS1FS1KS102GS1NR1KS102CS1FS1NR102ES",
  "1NR1FS102ZR1FS1KS102DS1FS1KS102GS1MR1NR102FS1OR1KS102ES1MR1FS102DS1FS1FS102ES1MR1FS102GS1MR1",
  "NR102MR1NR1KS102NR1MR1KS102FS1MR1KS102BS1FS1KS102IR1NR1KS102DS1FS1FS102ZR1MR1FS102VR1FS1FS10",
  "2TR1OR1KS102GS1MR1KS1I12VR1ES1SW102CS1ES1SW103HR1ES1ES1HS103HR1DS1IR1RR103FS1NR1FS1PR103VR1E",
  "S1ZR1FS103RR1TR1IS1ES103ZR1ES1KS1HS103IS1TR1ES1FS102VR1ES1JS123RR1MW1HR1ES1U31AS1LS151AS1OS1",
  "11AS1PS111AS1QS111AS1RS111AS1SS1V31ES1CR101ES1CR101ES1DR101ES1DR101ES1FR101ES1FR101ES1HR101E",
  "S1HR1EQy11Q1M101R1M101S1M101T1M101U1M101V1M101W1M101X1M101Y1M101Z1M152I1B3J102I1C3J102I1D3J1",
  "02I1E3J102I1F3J102I1G3J102I1H3J102I1I3J102I1J3J102I1K3J102I1L3J102I1M3J102I1N3J102I1O3J102I1",
  "P3J102I1Q3J102I1R3J102I1S3J102I1T3J102I1U3J102I1V3J102I1W3J102I1X3J102I1Y3J102I1Z3J102I1w3J1",
  "02UAcT3VAc21D3E301X3w3r1I3W301N3W301T3E301T3T302Q3Q3W301X3D3q1N3D301N3E301N3S3D11E3K3P31xDcL",
  "Cc01TFcTFc+12UAcMZpVAc02UAcJQjVAc02UAcMUjVAc02UAcJymVAc02UAcZFsVAc02UAcTSoVAc02UAcXWtVAc02UA",
  "czWkVAc02UAcXKpVAc"]

end BuildTool.Http

/-! ## Names in ASCII -/

namespace BuildTool.Http

/-! ### Characters -/

/-- Characters that count for nothing. -/
def ignoredInNames : Text.CodeSet := .ofRows ignoredRows

/-- Characters that cannot stand in a name. -/
def refusedInNames : Text.CodeSet :=
  .ofRows refusedRows ∪ Text.Category.codesOf [.unassigned, .privateUse, .control]

/-- The runs that numbers from the rows tell, behind the code before `next`: first and last code
and the one that the first stands for. -/
def runsFrom (next : Nat) : List Nat → List (Nat × Nat × Nat)
  | gap :: more :: target :: rest =>
    (next + gap, next + gap + more, target) :: runsFrom (next + gap + more + 1) rest
  | _ => []

def shifted : List (Nat × Nat × Nat) := runsFrom 0 (Text.unpackedNumbers shiftedRows)

/-- The characters that numbers from the rows spell, behind the code before `next`; `fuel` is how
many numbers there are. -/
def spellingsFrom (next : Nat) : Nat → List Nat → List (Nat × List Nat)
  | fuel + 1, gap :: more :: rest =>
    (next + gap, rest.take (more + 1)) :: spellingsFrom (next + gap + 1) fuel (rest.drop (more + 1))
  | _, _ => []

/-- The characters that stand for several others. -/
def spelled : List (Nat × List Nat) :=
  let numbers := Text.unpackedNumbers spelledRows
  spellingsFrom 0 numbers.length numbers

/-- What a character stands for in a name, if it can stand in one. Cherokee letters, alone of all,
are written in capitals. -/
def standsFor? (c : Char) : Option (List Char) :=
  let n := c.toNat
  if n < 128 then some [c.toLower]
  else if ignoredInNames.contains c then some []
  else if refusedInNames.contains c then none
  else
    match shifted.find? fun (first, last, _) => first ≤ n ∧ n ≤ last, spelled.lookup n with
    | some (first, _, target), _ => some [Char.ofNat (target + (n - first))]
    | none, some codes => some (codes.map Char.ofNat)
    | none, none => some (if 0x13A0 ≤ n ∧ n ≤ 0x13F5 then [c] else Text.lowerChar c)

/-! ### Labels -/

/-- A joiner stands between letters that it can keep apart or together: behind a mark that takes
the vowel from a letter, or, if it keeps letters apart, between letters that would join. `before`
holds the characters in front of the joiner, nearest first. -/
def joinerFits (joiner : Char) (before after : List Char) : Bool :=
  before.head?.any (Text.markClass ·.toNat == 9) ||
    (joiner == '\u200c' &&
      (before.dropWhile Text.transparent.contains).head?.any Text.joinsNext.contains &&
      (after.dropWhile Text.transparent.contains).head?.any Text.joinsBefore.contains)

def joinersFit (before : List Char) : List Char → Bool
  | [] => true
  | c :: rest =>
    (!(c == '\u200c' || c == '\u200d') || joinerFits c before rest) && joinersFit (c :: before) rest

/-- The marks, which no label begins with. -/
def marks : Text.CodeSet :=
  Text.Category.codesOf [.nonspacingMark, .spacingMark, .enclosingMark]

/-- A label beyond ASCII is well formed. -/
def isLabel (s : List Char) : Bool := !s.head?.any marks.contains && joinersFit [] s

/-- A label as it is read: one behind `xn--` stands for another one, which must have characters
beyond ASCII and be as names are written. -/
def readLabel? (s : List Char) : Option (List Char) :=
  match Text.dropStart? "xn--".toList s with
  | none => if s.all (·.toNat < 128) ∨ isLabel s then some s else none
  | some coded => do
    if coded.any (128 ≤ ·.toNat) then none
    let s ← Punycode.decode? coded
    if s.any (128 ≤ ·.toNat) ∧ Text.canonical s = s ∧ s.all (fun c => standsFor? c = some [c]) ∧
      isLabel s then some s else none

def writtenLabel (s : List Char) : List Char :=
  if s.all (·.toNat < 128) then s else "xn--".toList ++ Punycode.encode s

/-! ### Directions -/

/-- A label keeps to one direction: it begins with a letter, has no letters of the other direction,
and ends, marks apart, with a letter or number; one from right to left has numbers of one kind
only. -/
def keepsDirection (s : List Char) : Bool :=
  let directions := s.map Text.direction
  let last := (directions.reverse.dropWhile (· == .attached)).head?
  match directions.head? with
  | some .leftToRight =>
    directions.all (fun d => d != .rightToLeft && d != .arabicNumber) &&
      (last == some .leftToRight || last == some .europeanNumber)
  | some .rightToLeft =>
    !directions.contains .leftToRight &&
      (last == some .rightToLeft || last == some .europeanNumber || last == some .arabicNumber) &&
      !(directions.contains .europeanNumber && directions.contains .arabicNumber)
  | _ => false

/-- Something in a label is written from right to left. -/
def hasRightToLeft (s : List Char) : Bool :=
  s.any fun c => let d := Text.direction c; d == .rightToLeft || d == .arabicNumber

/-- If anything in a name is written from right to left, all its labels keep to one direction. -/
def directionsFit (labels : List (List Char)) : Bool :=
  !labels.any hasRightToLeft || labels.all fun s => s.isEmpty || keepsDirection s

/-! ### Names -/

/-- A name in ASCII; nothing if it is refused. -/
def DomainName.ascii? (s : List Char) : Option (List Char) := do
  let images ← s.mapM standsFor?
  let labels ← (Text.splitChar '.' (Text.canonical images.flatten)).mapM readLabel?
  if directionsFit labels then some (List.intercalate ['.'] (labels.map writtenLabel)) else none

end BuildTool.Http
