/-!
# The mapping of characters in domain names

Packed tables of the characters that no domain name holds, that are left out, and that stand for
others. A number is in base 32, its last digit from the digits and small letters up to `v`, the
other ones from the rest.
-/

namespace ObliviousRelay.Idna.Data

/-- Spans of characters that no name holds: the gap before a span, and its length less one. -/
def disallowed : List String := [
  "E0vWo1637010k0Md0B61Bi130Bn7r36gm0G00Bg1Br1D5dBr1Bh1f0s110b4B06Cb0F108121m07012419121471",
  "32051p1306321m07020202110532132164016h9309030m0702051a030311e41c670308121m07020519121363",
  "32051i9206230422010222232c3523041151dl4d030n0g190304620302141a6m030n0a051903046243041a03",
  "bd030Bj03063g1q030i2o090117213601085a13bBq3tB4201050o010n1501070a14vC80B43B70B40f0dB4G60",
  "1411Lp041701041B9041B1041701041f0Bp041C31B02q5Cm161U00s2Cp6m8o8kbd0302bCu1a5a5q5Cp6Bb4C6",
  "9v0c3c312Ba15aBc3q5b2Bu1C10t1b5a5e1Be1cjCd0F67Bs2f2Bu4Bb1b7Bb4Qm161B616180101010v1Bl0f0e",
  "160j13090e1k216Bm481r0d2B2dB1eEc3UqlbkB8jBWo1Lu4Bd01411Bo62do87070707070707070DuB1q0CpbG",
  "mB9C00Cm1D74Bb0Cu0Cm9Bf0N2040g0yFk2Bn8KsjFo7GtjBs2a5Bo7C67c5Dkau2Ce0b3B10Bn8e1a1D7ns9616",
  "1687070Bs3Du1a5Kz4bn3BhII3Le1DaB57b54q050102020UavB2066g0B11j04350E7110Fu261616132707gc0",
  "q0j020f1eB1Dr433Bd2Co0d21BeBeE1t2Bhes3B48u4Bb4u0B53eB9Eu1a5B43B43B87Bkac0f07020b0f07022B",
  "kbJn8m98n60Ba09C46110Bc02211n0C879Bfj024B12r4rB5Bo3k1Bi0248030t133a696C0vB73c8Bm2t1r4q64",
  "b7CfC9BmBjcBj6Be7a5B62t72Gfv0Ba0312f679B0Be7BalqB5sjn8Ce3B48Bu05cp6a5Bl0i7B78D00kai0BfBt",
  "701040f0b5Br4a5408121m0702050a12131151471725aa01110B60a0111040a0272sCs05tC87aF5Bm1B6B1C5",
  "aa5diBq5a5krr1f3nFoBsD3Cjb81118020u021c8aC581Be1bqC87CjcC96aCl8CnB2da590Bd0e9t2B01m0eC87",
  "020Bc2102097a56020B502066a5Bc3aHlp6h0B92tCk1eBicyrD5Df05aG4CSbD3cBBgfm9Dyr4S7GVoBqBW5Rp6",
  "v0a3Ch0a5u169C69a070l4jNfBqG5Cr4p1pBbCb3Bp6hBv5a78HGmB8B0D0DjIPs407020J3e1s311d47McCI3Db",
  "4d296a18DwrHt2Nk5neheBe1n8DkBrHm9B71G2kC6DpkbkbCn8pE6Cl0C7021112140c01070C10418070s04050",
  "1270Kk1J41Vue50fBCfv56Gk70h1702054BuB01DfBd2e1a32JvvgBq41OfBaGlBb31Fvv0m72Gv704020f0G51g",
  "B8Cc3a32YgC4CbBtG140r0201110a040101513101010302011101010101020114070404010a0h43050hBj2Id",
  "Bc3D4bf1f0f0B5aFdBntcBc3962d6Ep-p2h2d2Gq5c31ec3Bo7a5B87u1c32d9B6Ko7e1d2b2Bp013g1c3a6Ej0D",
  "7BA4BJX0vEIu1FUe1HJheTeCN1QuBP1Ewb4IJaVTE5HgF+Qf"]

/-- Spans of characters that are left out of names: the gap before a span, and its length less one. -/
def ignored : List String := [
  "Fd0V10DQf1BSj1Cl4B+r0Ck455EHk0BTErfHf0F00BPHv3FGf7YLy5Hf"]

/-- Runs of characters that stand for one other each: the gap before a run; twice the number of steps in
it, and one more where steps are of two; the first target, by its distance from the last one. -/
def runs : List String := [
  "C1BiG2C50E190E272Ct10BYk30BYl00Ds5BcH21cBgB1Bfi53D825a37g2Bdi10En05Hm10Qd10-003Mv10N200M",
  "n12Ms00Mj20F200Ho00400Mh10Ms00610c00100Mt30Nc00610605N710Nu00Nf10Nm20Nb10Nm00Nf12Nk03Nb1",
  "0Ns00Nh308gfB22hB250Bc10Fv00Ck0B7Dk10Fl1hIa70VE400VCh10K300VMo20VC710M300Qi00609E9D10zt0",
  "0+s00+n00g00BAe00400c00BAj004B70-k00+d00e00a00BBqCr2Gm10B610KcBa3Ef10Lf10Ls70BTn00Bxg60E",
  "d00BP904BPc10Bu1221B0Bn1gB4B30B800C900c00q00g00300900b1nBi10Bt00e00410l00510E610D900Dg24",
  "Hv0uNa0BuBvBgB1D29BlCk10E80dp2Cvu2CaJ0CNl0EwkMjCaO+a10Ce50cBe0OF1XraBR8CE20Hxr00400k0260",
  "0200g00Bi00CQ-g00CEy16CkFxj24CqDc0IJn00Ia03I700600Xg0eXb10g00x800x500402400600Bb02-u00NL",
  "400OJv02400+a02400+710800400Ns00Nn00-a02NM400OKb02800OKi00NKr00+h00OKu04MX502B800BVp00i0",
  "2602BTq00u02ad0HeB20-l00-t00+400W900Wo00+b00+i00400804600NR600NNr00Cv00NRg00NOb00Cr00106",
  "400c02k00Nd02Ns00NJ602NJ100BB104BBc00SgC0ElNEi60G020OY31CvOy49eFu8aB0aeB08eB08aB0b7B28eu",
  "10Nx710210210210Bq102102Bq2N-400Dv00Ny720q90Nxi00Ny900Nye00Nyb70Br42OE000Fj00Nyd70242OD0",
  "00Gb00Nwp00OBg20PY980PRg00Nwn00Nx000Nwr40Bwr00000000000000000000000000000060P+0t0P-vBf00",
  "g0B000Di2aD900h00Q-e00Qz902B900Ec0iDr00900Q-e00Qz902B910Di00800k00i00-200+106600a026D50v",
  "40+g22+700200000000Lu00Lr00000603034800400060g10BUu10BUt10t00Hk02I510602000QOi00QO100406",
  "CW200CWd20BVe00p00000q00PF240Qwp02002am0030q40420n02h00k00730q40420n02h00k30QReN52HI8Jlg",
  "XzdCdBiD00Bi000D1BYlCuWA0Bg0D210U+b00NR400NPv25U-m10VBd00C000C100410VC220660WAn00o02yi0D",
  "3VE483Gm40eDs0GsJf0+GoCj0Zz4c0BIZt00Cg00s00i00Bk00Co00e00B800Bk00BIa00Cc00c00Be00B800Ba0",
  "0Da00Ba00m00Jm00Fs00Bo00a00Bs00i00Bm00q00Bi00D800B400Bm00BP800Eg00yo00Be00g00m00B400Eo00",
  "zq00D000Hg00Be00B600Bc00Dc00600Wk00k00o00q00H800g00a00Ha00k00q00g00Dq00B200B400F000BEa00",
  "Cs00Ba00BO800a00F600B000q00Ba00Ce00a00Qm00Bg00C000B+g00E400Be00Dk00Bg00i00e00D800a00C000",
  "CDe00xu00o00a00800g00B400400F200Ng00a00V600k00D400e00i00g00Fm00e00O800e00D200B200Cu00Oq0",
  "0e00B200Ue00Hs00c00Lc00Fe00Cs00Xk00Ia00BDs00Bm00Di00D600E800m00c00C200Eo00k00Vk00e00i00i",
  "00B000u00800Eu00800c00Bza00Bs00za00o00Be00Rm00q00Ee00Cs00BDe00u00u00C600Ca00Me00o00E600P",
  "g00Bu00N200Ba00a00No00Lg00Hq00c00a00Bwc00i00Jo00Jk00600Cu00Gi00q00800e00G400C400c00s00Ke",
  "00D600800Le00600B600Po00D000e00Ec00k00600k00Bs00Ym00Z000k00Cc00Bc00g00k00800Cg00800B200a",
  "00q00Bm00u00g00Dm00u008Ba0CPXv10sBj0X-810RSu026Hm2BBE700Kk00Kf02Kk04Kh0aKq00Jb04B700Bm0i",
  "Bf0B8Fg12Ep02L600a00400a00800400Lp00M200402M300602400a00408400e00800k00e00a02Ka04Jj02Cq0",
  "0802i00600k00630-Fu00Io00I500EN400EN100C600C300TSe00TNh00Dv00Bf00FSg00+h00EHbF40DJa00ESq",
  "00DQm00LAgo0BVIt02404600802408600CNP400CJg00BEo00CJg00BEo00BEo00CJg00CJg00BEo00CJg00BEo0",
  "0BEo00BEo00BEo20HKf10ByKv00Io00I500EN400EEd00BNi00BWj00BWg00BQr00CO800Jye00EW600CDd00CQn",
  "00VKi00zL300HMc00BEa00S100JDa00ST100PGo00NCg00JU700TKh00TS800CK100Ny700xPc00+Tt00BEc00MX",
  "g00VRq00BEP700BIg00Myk00OVh00C600C300Hzm00E+500Lf00EFo00D100NXq00T-300-yc00yX500Cygv0UHj",
  "0040040040240060040040040040040040040040040040060040040a400g00600600608600c0040a406eyw1B",
  "dBwV4jrE010CRDd004E4dCRNe3BtB010Do83m10CFA109CFAc40q10CSSd23CSSo3jc10CST100j00a00m00310D",
  "800Bd00Bc00CULc0fBZr10C100CSR300NQo03CFDk10CSW70fCSWi10CTD3k0Sf00v00600m00CTYa20CTMt00Co",
  "x20CSz800CB000CUMn00CUOe90CUM96EuIR6TK00ByKg00SV700Tzc00BA300O+d00QJt00Cx600BFxe00000BDE",
  "l00yI000-Ej00By200EKs00KH600ERo00DLk00Xm00Ts00DZe00TIp00BRi00Bxs00BQa00IFu00GSq00EIe00BF",
  "Wt00CP600LYu00DRe00KB400L+200BAMr00JJm00K-400BZe00TJl00PQu00DEe00UV900EEq00DF600CZ400Oz4",
  "00BAUf00BD200Se00I-c00DAu00DTq00CNe00ERk00DAa00Fc00DZ600EU600CDq00BIm00SWr00P600CC200DCi",
  "00HTm00FXm00Jwh00Y+d00DCa00OVo00CBs00HBn00DGg00J+g00FDa00+Bt00BYk00Gx200Bye00Ta00HC000Qg",
  "00MB800BBXh00Wxi00XKt00v00UF000Bw400DD600JI800FP900UL100DT600QPo00-M900Gws00CCm00JXa00-i",
  "00RFh00S-800UTn00H-k00IZn00PLu00DV700Lwk00UVt00CJm00PK600GUg00DG200POv00R+c00RSf00EYj00P",
  "-e00PU900Iya00TLd00BLm00G000LLg00KGc00CYg00EG600DPq00+Nj00Uq00CT200CXi00DNi00FDi00ESo00O",
  "I600CLq00CCq00De00BGD500KCm00CL200R-m00YOr00BRo00H000BJk00FIi00BCc00BU000CU200CCk00BHm00",
  "HLe00FDf00FTa00BSe00BAT500Io00BBk00OAm00L+k00-g00V-100So00BYc00ED600IJ000EMh00SJ100EBa00",
  "COs00z600BG400JZc00Le00FT200Ko00I-s00CM400F400N000BEIp00VC600MAc00CQ800wzd00JFl00BF800FR",
  "800F200EVk00CGi00Dyo00CH800HLk00FY000HR200yQ900Xwc00BBw900KP400Hg00CUs00Vm00CWq00V000BR4",
  "00CKa00NUs00BDP100IM200wEk00BDEp00GOs00IN200QU000XZt00xi00DN600FX000RPu00BCFp00-c00EFc00",
  "Ews00Tm00Vk00CDq00DS200zo00EZe00EVc00B400EOm00CRc00BBw500NXm00NJp00Ox600BMg00IW400IKi00C",
  "x800BEg00xQf00DD800KBq00DRp00Fa00X400Ez300BCd00NLu00-Jf00wHc00YPn00D500GJu00CCq00NA600QV",
  "100IZi00DGj00UIe00DOt00HA200GM300VLf00GZ500CI020BJk10HBk20KJb00QUo00Bw000BH400C400e00Ck0",
  "0Oye00NJf00BPu10DFa10COc20CU000Ma30D+400q00Co00CIo00GNb00Czi00BDQh00Ti00Gc00Xo00Bm00Gq00",
  "BEo00Gi00G400zg00Gg00Bxo00k00CCc00N800Cc00G800BVq00J600Ku00+800CP400K600Qg00BEo00Lq00+e0",
  "0CGu00Kq00m00100g00c00e02D000L600E200Tu00BD800Ba00Dg00T200J600-g00Io00000zs00CLi00Ic00Wm",
  "00Dg00Zk00Da00BKs00I400DKm00Ro00Do00xyb00HRHi00HANb20Z+300BYu00Ep00-f00ya00Dm00Ue00D600B",
  "K600Ef00E800Ei00BHg00Fi00J200B000Qs00Mc00Bwk00e00J000E800Sm00Hc00Eb00Ic00Cr00J400E400Z00",
  "0Fg00Dc00Q800Rs00K600800Dm00CC600E200Ye00Zk00v00Fe00Po00V000DDi00CX300Hk00Hm00Ue00Ja00Da",
  "00O400400Km00B200Bi00Fc00j00Yo00-a00Qu00Lm00O000Ji00Uk00Me00BUq00Jq00BYk00yg00Ea00B000Si",
  "00Di00Cp00Dc00500B100Eo00F200Xs00BD000Tk00Se00Nq00CAc00Ge00H600Ia00C800o00D000BNe00CIk00",
  "GEKs00b00FZ200HyDf00CHm00C200IJB000FIe00RA600HPYv00EmC60CMwn00B302604g00q00400CxtB60DEc0",
  "0000k00000000000600000000000400000000000b00000000000a00000000000b00000000000Cm0000000000",
  "0400000000000C300000000000100000000000600000002000200000000c00000100000400000b00000B0000",
  "00d00000Bg00000000000c00000000000800000000000300000000000i02000200000000a020002000000005",
  "00000000000B8020002B10Cb00000000000Bk00000100000400010600000b00000800000e00000000000Id00",
  "0i0I6000000000Qg0DJv00Xza12Xyd00Bh00Bs02Xzeo0IA300100Px700002Dd00F600402XZe02702b0230682",
  "0Xx100440400000000D500Xza20Xyb00100a00Br00P+602P-n00F600402XZe00X+100602800600u00400110B",
  "u02Df00Bok2C-202202202202200200002002200200002002200200002000200002000200002000200002000",
  "2000020022022022022002000020002000020002000020002000020002000020002000020002000020002000",
  "00000e000000020002000020002000020002000020002000020002000020002000020022022002000000cBuD",
  "Ch0BiE00C6b02USk00UVd02Xzs00l00Pk00h00F100400400400400Dk00400400C700Di00Fj00400400402400",
  "60040040040040040040040040040040060040040a400g00600600608600c0040a400e00802Fj12PZh00Kk00",
  "Kf02Kk04Kh0aKq00Jb04B700Bm0iBf3aFg2ac2ac24c32IN100k10b00100QA810CFi06BX300CB000CmBAhCeDP",
  "FqE8C6L0EskLu1so1cB012gPb2EBOl00-j00x600Eb10F000CUM600CUM100102Er00NTm00NTh00c00Em00E900",
  "300300Dm00X700Xa00D900Bq02Cc00Dr00HOJg00ExXb00CSRv00HOJe00HOHd00HOHg00HPAr02Xs00BA900BAi",
  "00HOIs02HOIl00600Cg00300CUM200CULv00Bt00U-i10U-302B400h04Nf00HOUk00B8BG5D4DJFrEtBaL0CZqB",
  "uFV0VM0BuBKw0C0BgFmXQtBiFXFj0iD1BY6BiD20Bi00Bi00c01B2g0Bif0Bi00300062062262681ea06B313a0",
  "a61ke0Bit0Bi00201662ec1ci1BiB302016618a10c3c81BiB30Bi00Bi00Bi00Bi00Bi00Bi00Bi00Bi00Bi00B",
  "i00Bi00Bi000N000Qc2B0Xk00e0cm00PE80B0PFb00B40c000PDu00PEp00600400o0090010B0t00e0cm00PE80",
  "B0PFb00B40c000PDu00PEp00600400o0090010B0t00e0cm00PE80B0PFb00B40c000PDu00PEp00600400o0090",
  "010B0t00e0cm00PE80B0PFb00B40c000PDu00PEp00600400o0090010B0t00e0cm00PE80B0PFb00B40c000PDu",
  "00PEp00600400o00900100Bq0002iBwp0i00i00i00i0CBggCA004k0k800q02400CRDo00CQwv00I500400J200",
  "Dj00C00gJt02k0280060a402e00Ee00Dl00100k00Eo00CQwc00CQZvCEiC2HSH2BGu2HRPl00a00610Bi00Bb00",
  "900k00B606d00v00c00g00n00q00B100602j00800400c00400400D800Eo00Bh00D310Ed00810Bm20Bj10Bq06",
  "d00v00c00g00n00q10r02j00810g10860r40210Bq13b00B100c10700q10r20b10g10810I010El10Ed00810Bm",
  "20Bj00k00B603d00600B500c00g00n00q10r02j00810g00400400D810D612Hj00a00602Bg00B900900k00B61",
  "4b00B100c00g00n00q00B100602j00800400c00400450B300800610Bi00Bb00900k00B614b00B100c00g00n0",
  "0q00B100602j00800400c004004Tf0Czd00u3BiB1Fo0YF8d0YZc00DP700DYl00RQ900Oya00FIs00YMi00YLj0",
  "0FI900LXo00FQ200FYf00JUn00GTu00G+t00KC600JZ500VSa00EC500LYk00Zxh00CLd00NNm00GHt00M000KV9",
  "00i00BBE200ZG700Hxh00Cyc00HR800VGi00VRp00LSs00Pi00TH300NHg00DXd00100HCm00RM100BU800zZek0",
  "Yxb00FwfCMuiBJxtB+A60BHAq00900i00GZO200GYy300Es00q00Ee00Hg00Bu00Es00Bf00OD100HIZo00GwOp0",
  "0e00B000B600GZwa00HIG500OKs00Cc00GZxs00GZx700q00BNf00BO000i00JACk00I+-j00s00OS700OVo00m0",
  "0Co00a00OW300Ox400400Bm00Bc02m00B400D400g00i00Bi00k00400000000GxKq00GMxn00OKb00Ba00GxY80",
  "0GxXf00c00Ba00Jg00Gb00B000C000Dk00F800Bk00E600B000C200000Ba00B400g00u00V800Qv00R200Mb00C",
  "600CGp00DOe00Rv00Cc00Bi00I300Ke00100Hm00G-Dg00Gz+300a00u00B800g00E000G-Uc00E400G-Pr00Cu0",
  "0o00Et00Is00RXf00s00SAo00Dc00000G+Ik00G+A900Ba00u00o00G+Sa00G+Rh00e00BUq00BT100SK100SNu0",
  "0s00F400D500HAVe00HAK100HAK600HAHf00500B202Ga00Sx300Sys00Cm00Ba00Co00TAd00HUS200HUQd00TD",
  "800600600B800JCMg00JCJ700HCD600000GQSv00RNt00000TFl00Hy+200XS400IBHf00i00TIf00TLe00D600k",
  "00C400Ig00TUd00Br00TXg00HDE000HDAp00I200800400300Cs00B800C800r00m00Cu00B800800Bk00m00E40",
  "0F800C600Ho00HDxo00HDyt00E100Go00Bm00G200HEAq00HDyt00Fp00Bn00UXl00VDm00Ba00Bu00Cb00VAl00",
  "VO600Bq00HFJs00HFCd00Ra00Kt00VSv00VXg00VYh00C700LKs00600KWm00G700NB200-N700RTs00800c00Dq",
  "00l00HGH000HyHj00WL200H900Mq00D600HF-g00HFzt00Gt00Pa00WXd00Wwa00G200Ee00Ls00HF+m00HFyf00",
  "XM500XQi00HGYc00HGV500XQb00XS800Cq02Bm00HHN600OY300O-u00HHKn00HIGs00HH+p00s00Gb00Ku00Cg0",
  "0Di00Db00Cg00u00q00HHZi00HH-j00Pm00Du00YTl00YZg00700HIAk00HINf00Xa00HH+000D000HHyf00H600",
  "Bl00500ZI900ZL800D600b00Dc00GKHg00GJzv00HIRs00HIMd00HJAu00HIY500q00Bm00HJxg00HJYf00Ba00H",
  "KK000Nu00HKJj00B200wNt00wPi00wOp00000wYu00Ba00Ba00B800Ea00wwt00xAi00HLR400HLPf00HLV800HL",
  "S300GWCu00GVYt00HMZ200Be00Io00IIEf00o00xOo00HM+u00100Ce00Bk02HNB900200Cm00xR100xV400xU90",
  "0F000IJYe00HNyt00Ds00E000x-h00IKU600HOMv00HOU800Cm00HOTb00Fo00yLn00yR200k00a00HPSq00Sm00",
  "000HPxh00yOn00IMwi00HP-900600yw300INFi00HPwr00zD300zEg00900Bq00HRIc00HRC500zG300zMc00Dm0",
  "0E600zR100IPP800Bu00IPOr00IPY000HRVt00HRy800HRwh00Ga00m00HSNa00Ei00HSM500HSUg00HSTf00GZO",
  "u00HXYj00-Nq00F200-Pf00-T600TIh00IGP400s00wC300i00GYZl00600GZk00BFT500+Cc00b00B400X-j00X",
  "+s00400k00Ci00HUFc00HUFd00Dg00Ec00Ek00Ij00Jk00Ck00H000Q700He00400B000HUFk00Ta00Jb00ITwj0",
  "0+yc00400C600HXL800HXGb00HUyg00IUyt00800IVF000S200IVWd00BAOa00o00m00400E000C100Ic00Cn00J",
  "e00F100E600Bm00BAwt00BBAk00C000BBAf00BBGe00600HXA800HWYv00e00BBKh00BBMa00BKDt00JB+600Lg0",
  "0IZKf00i00BBzi00Eq00Jq00Mm00HYF600HX+p00Bc00Fk00Fo00HYxg00BxSl00FzDh00t00D800FzOs00FzAj0",
  "0G800HxJk00Bm00HwVh00Fq00C000HxBq00HxB500Rq02Ju00Fl00Xq00Bo00Hx-a00HxGt00BF+b00BGC400Hxy",
  "000JBZ100BGNq00yR100yX200HzC400Na00JDwn00g00BGWk00H-Ck00JEVf00JE-800H-Il00000Bs00H-Yq00H",
  "-N700BGwt00BG+c00Hs00Bm00Do00BHCv00JHW400IABr00Ss00Lq00BICt00Bu00BIHk00IBWe00JJzb00JKAq0",
  "0Qi00I600IBzb00BIW900BIw600a00e00k00e00Ca00IDMa"]

/-- Characters that stand for several: the gap before a character, the targets, and zero. -/
def expansions : List String := [
  "F8B0Y806B0Y404B0Y103B0Z703BhIC4Bk00BhIC4Bi00BjIC4Bk0DhD9Y701D9Da00D9Da0bDcFn00DcFn08VsDe",
  "0DqD4Lu00D4Lu00D4Lu00DcDa00DcDa00DcDa00DeDa00DeDa00DeDa0B4D4Dq00D4Dq00D4Dq0H4B0Y600B0Y70",
  "0B0Ya00B0Z800B0Y300B0Yb0D6Y8Y10BlB0zp09B0Y100B0Y8Y10Q1BL5BM20HdBR7BTk00BS8BTk00BW7BTk00B",
  "SaBTk0WvCIlCJs00CImCJs00CInCJs00CIsCJs00CJ1CJs00CJ2CJs00CJbCJs00CJfCJs0DsCN1CNs00CN2CNs0",
  "1CNfCNs0CjCRiCRs02CRoCRs0B2CQmCRs00CQnCRs00CQsCRs02CRbCRs0HtCZ1CZs00CZ2CZs0WlDSdDRi0DvDW",
  "dDVi0B8DVbDUp00DVbDV10D5Dw2Dzn09DwcDzn04DwhDzn04DwmDzn04DwrDzn0cDw0Dzl09DxhDxi01DxhDxk00",
  "DziDy000DziDxhDy000DzjDy000DzjDxhDy007DxhDy00hDyiDzn09DysDzn04Dz1Dzn04Dz6Dzn04DzbDzn0cDy",
  "gDzl0DX0D1Vu0H5HY0zp00HY1zp00HY2zp00HY3zp00HY4zp00HY5zp00HY6zp00HY7zp00HY0zp00HY1zp00HY2",
  "zp00HY3zp00HY4zp00HY5zp00HY6zp00HY7zp00HZ0zp00HZ1zp00HZ2zp00HZ3zp00HZ4zp00HZ5zp00HZ6zp00",
  "HZ7zp00HZ0zp00HZ1zp00HZ2zp00HZ3zp00HZ4zp00HZ5zp00HZ6zp00HZ7zp00Hx0zp00Hx1zp00Hx2zp00Hx3z",
  "p00Hx4zp00Hx5zp00Hx6zp00Hx7zp00Hx0zp00Hx1zp00Hx2zp00Hx3zp00Hx4zp00Hx5zp00Hx6zp00Hx7zp02H",
  "xgzp00zhzp00zczp02Hzmzp04zhzp00B0Yj01B0Yj00B0w200B0Y8w200Hxkzp00znzp00zezp02H-6zp04znzp0",
  "0B0YjY000B0YjY100B0Yjw20dB0YkY000B0YkY100B0Ykw20dB0Y8Y000B0Y8Y103Hxszp00-9zp00-ezp02H+mz",
  "p04-9zp00B0Y100B0Yk0oB0Zj0rIBiIBi00IBiIBiIBi01IBlIBl00IBlIBlIBl04B1B101B0Y508BvBv00BvB10",
  "0B1Bv0dIBiIBiIBiIBi0CgDiDj0CnD1BfD300D1BfDj01FgD301D3BfDf00D3BfDl02FgD60cDeDf09DjDd00DkD",
  "5Dc00DkDd0oD6D1Do0kBhIC4Bn00BhIC4Bp00BhIC4BhBg00BhIC4Bj00BiIC4Bj00BhIC4Bl00BiIC4Bl00BjIC",
  "4Bl00BkIC4Bl00BhIC4Bm00BlIC4Bm00BhIC4Bo00BjIC4Bo00BlIC4Bo00BnIC4Bo00BhIC401D9D900D9D9D90",
  "0D9Dm01DmD900DmD9D900DmD9D9D900D9Do01DoD900DoD9D905D9D900D9D9D900D9Dm01DmD900DmD9D900DmD",
  "9D9D900D9Do01DoD900DoD9D90dBgIC4Bj0F2IRbIRb00IRbIRbIRb01IReIRe00IReIReIRe0RoBhBg00BhBh00",
  "BhBi00BhBj00BhBk00BhBl00BhBm00BhBn00BhBo00BhBp00BiBg00B8BhB900B8BiB900B8BjB900B8BkB900B8",
  "BlB900B8BmB900B8BnB900B8BoB900B8BpB900B8BhBgB900B8BhBhB900B8BhBiB900B8BhBjB900B8BhBkB900",
  "B8BhBlB900B8BhBmB900B8BhBnB900B8BhBoB900B8BhBpB900B8BiBgB90kB8D1B900B8D2B900B8D3B900B8D4",
  "B900B8D5B900B8D6B900B8D7B900B8D8B900B8D9B900B8DaB900B8DbB900B8DcB900B8DdB900B8DeB900B8Df",
  "B900B8DgB900B8DhB900B8DiB900B8DjB900B8DkB900B8DlB900B8DmB900B8DnB900B8DoB900B8DpB900B8Dq",
  "B90BKmIRbIRbIRbIRb0D7BqBqBt00BtBt00BtBtBt0D5KWtZo0BNuB0MEp00B0MEq02ME8MEa0CvMFjMG80I0B8E",
  "I0B900B8EI2B900B8EI3B900B8EI5B900B8EI6B900B8EI7B900B8EI9B900B8EIbB900B8EIcB900B8EIeB900B",
  "8EIfB900B8EIgB900B8EIhB900B8EIiB900B8BLA0B900B8BMEoB900B8BMX4B900B8BNxsB900B8BOO8B900B8B",
  "PAkB900B8BQFcB900B8BRK4B900B8BRygB900B8BTB8B900B8BTTkB900B8BUG0B900B8BUYcB900B8BVKoB900B",
  "8BSHsB900B8BRR4BSA4B900B8BRR4BVW4B901B8TQ0B900B8TUcB900B8TQ9B900B8VWrB900B8TUkB900B8ULdB",
  "900B8TQ3B900B8ULbB900B8TStB900B8Uw1B900B8ZY8B900B8yDbB900B8xBkB900B8ZZ8B900B8BEOhB900B8V",
  "YvB900B8ZP5B900B8wBaB900B8ZY9B900B8-JuB900B8VAdB900B8yTpB900B8BDF1B900B8-KtB900B8UVkB900",
  "B8TX3B900B8VDsB900B8Wx6B900B8zX3B900B8TY1B900B8BDG7B900B8UwkB900B8-LdB900B8TYhB900B8BAPa",
  "B900B8BAPjB90cDgDkD500BiBh00BiBi00BiBj00BiBk00BiBl00BiBm00BiBn00BiBo00BiBp00BjBg00BjBh00",
  "BjBi00BjBj00BjBk00BjBl0sBTBoBLH000BSHsBRwo0BjBjBm00BjBn00BjBo00BjBp00BkBg00BkBh00BkBi00B",
  "kBj00BkBk00BkBl00BkBm00BkBn00BkBo00BkBp00BlBg00BhZY800BiZY800BjZY800BkZY800BlZY800BmZY80",
  "0BnZY800BoZY800BpZY800BhBgZY800BhBhZY800BhBiZY800D8D700D5DiD700D5Dm00DcDkD40BfTX4VEc00MF",
  "2MGhMHsMG800MF2MHbMGlMF100MF2MHjMGqMF200MF2MHsMHb00MF4MGbMHjMFg00MF4MHjMG100MF6MF9MHj00M",
  "F8MFpMFfMHsMG900MF8MHsMFbMHs00MFaMHjMFp00MFaMHsMH000MFbMF4MHa00MFbMH9MG3MG800MFbMHdMHaMH",
  "s00MFcMHdMHj00MFcMHjMGu00MFeMFc00MFeMGbMHs00MFdMH5MHaMHs00MFeMHbMG0MHs00MFdMHd00MFdMHdMF",
  "gMH9MH000MFdMHdMH1MHsMG8MHb00MFdMHdMHfMG3MG800MFgMH9MH000MFgMH9MH0MG8MHj00MFfMHbMFsMF4MH",
  "d00MFfMHdMHsMGd00MFhMHsMFp00MFjMHbMGa00MFjMHsMGt00MFlMF4MFfMHb00MFlMHjMG1MHsMH000MFnMHaM",
  "HjMFg00MFrMHjMG100MFrMHjMG800MG0MHsMFp00MG7MFn00MG9MHb00MG8MHj00MGaMGe00MGeMG3MG800MGfMF",
  "4MG400MGhMHsMFrMHjMG800MGhMHsMG400MGgMHsMHcMHb00MGkMF2MFpMG8MHb00MGkMFfMHb00MGkMFj00MGjM",
  "Hb00MGlMF1MH9MG3MG900MGlMF3MHsMG800MGmMG3MFnMF7MHb00MGlMH9MHj00MGoMFfMFvMHsMHb00MGqMFt00",
  "MGqMGbMGi00MGoMHbMG400MGqMHjMFp00MGqMHsMFo00MGpMHsMFv00MGtMF4MHjMG800MGsMHbMG800MGrMHj00",
  "MGtMHjMG900MGrMHsMHb00MGrMHsMHj00MGuMF4MFfMHd00MGuMF4MHb00MGuMG3MGf00MGuMHbMFf00MGuMHjMF",
  "nMH7MHj00MGvMFfMHdMHj00MGvMHa00MGvMHaMGgMHsMHb00MH1MFc00MH1MFcMG8MHj00MH1MHsMG8MHb00MH4M",
  "HsMG900MH4MHsMHb00MH6MF2MHj00MHaMG3MG8MHb00MHaMH900MHbMGkMHs00MHbMHsMGmMHb00MHcMH000MHcM",
  "HjMG8MFiMHj00MHfMG3MG800BgyFp00BhyFp00BiyFp00BjyFp00BkyFp00BlyFp00BmyFp00BnyFp00BoyFp00B",
  "pyFp00BhBgyFp00BhBhyFp00BhBiyFp00BhBjyFp00BhBkyFp00BhBlyFp00BhBmyFp00BhBnyFp00BhBoyFp00B",
  "hBpyFp00BiBgyFp00BiBhyFp00BiBiyFp00BiBjyFp00BiBkyFp00D8DgD100D4D100D1Dl00D2D1Di00DfDm00D",
  "gD300D4Dd00D4DdBi00D4DdBj00D9Dl00XTjYQg00ZRdVEc00WJ7wx300ZQexFr00wBaXYfTYq-Ju00DgD100DeD",
  "100zsD100DdD100DbD100DbD200DdD200D7D200D3D1Dc00DbD3D1Dc00DgD600DeD600zsD600zsD700DdD700D",
  "bD700D8Dq00DbD8Dq00DdD8Dq00D7D8Dq00DkD8Dq00zsDc00DdDc00D4Dc00DbDc00D6Dd00DeDd00zsDd00DdD",
  "d00D3Dd00DbDd00DdDdBi00D3DdBi00DdBi00DbDdBi00DdDdBj00D3DdBj00DdBj00DbDdBj00DdIQlDj00DdIQ",
  "lDjBi00DgD100DbDgD100DdDgD100D7DgD100DiD1D400DiD1D4IQlDj00DiD1D4IQlDjBi00DgDj00DeDj00zsD",
  "j00DdDj00DgDm00DeDm00zsDm00DdDm00DbDm00DdDm00DgDn00DeDn00zsDn00DdDn00DbDn00DdDn00Db-900D",
  "d-901D2Dh00D3D300D3D400D3IQlDbD701D4D200D7Dp00D8D100D8Dg00D9De00DbDb00DbDd00DbDk00DcDd00",
  "DcDe00DcDfD700DcDo00DdD200DdD9Dc00DdDfDc00DgD801DgDgDd00DgDi00DjDi00DjDm00DnD200DmIQlDd0",
  "0D1IQlDd00BhZP500BiZP500BjZP500BkZP500BlZP500BmZP500BnZP500BoZP500BpZP500BhBgZP500BhBhZP",
  "500BhBiZP500BhBjZP500BhBkZP500BhBlZP500BhBmZP500BhBnZP500BhBoZP500BhBpZP500BiBgZP500BiBh",
  "ZP500BiBiZP500BiBjZP500BiBkZP500BiBlZP500BiBmZP500BiBnZP500BiBoZP500BiBpZP500BjBgZP500Bj",
  "BhZP500D7D1Dc0BRY0D6D600D6D900D6Dc00D6D6D900D6D6Dc00DjDk00DjDk0cBLkBLm00BLkBL500BLkBLb00",
  "BLuBLm00BLkBLd05BOpBNk01BPiBNn0aBP9BO100BP9BO200BP9BNsBO100BP9BNsBO200BOgBNn00BOgBNo00BO",
  "gBNs00BOhBNs00BOiBNs00BOjBNs00BOkBNs00BOlBNs00BOmBNs01BOoBNs00BOpBNs00BOqBNs00BOrBNs00BO",
  "sBNs01BOuBNs01BP0BNs00BP1BNs01BP3BNs00BP4BNs01BP6BNs00BP7BNs00BP8BNs00BP9BNs00BPaBNs00BO",
  "lBNp00BOhBNv00BOrBNv00BP4BNv00BOgBOs0EdBW7BTk0cBR6BR700BR6BR700BR6BWl00BR6BWl00BR6BS800B",
  "R6BS800BR6BW700BR6BW700BR6BW600BR6BW600BR6BW800BR6BW800BR6BWg00BR6BWg00BR6BWg00BR6BS900B",
  "R6BS900BR6BS904BR6BRc00BR6BRd00BR6BS500BR6BS900BR6BSa00BR8BRc00BR8BRd00BR8BRe00BR8BS500B",
  "R8BS900BR8BSa00BRaBRc00BRaBRd00BRaBRe00BRaBS500BRaBS900BRaBSa00BRbBRc00BRbBS500BRbBS900B",
  "RbBSa00BRcBRd00BRcBS500BRdBRc00BRdBS500BReBRc00BReBRd00BReBS500BRjBRc00BRjBRd00BRjBRe00B",
  "RjBS500BRlBRd00BRlBS500BRmBRc00BRmBRd00BRmBRe00BRmBS500BRnBRd00BRnBS500BRoBS500BRpBRc00B",
  "RpBS500BRqBRc00BRqBS500BS1BRc00BS1BRd00BS1BRe00BS1BS500BS1BS900BS1BSa00BS2BRd00BS2BS500B",
  "S2BS900BS2BSa00BS3BR700BS3BRc00BS3BRd00BS3BRe00BS3BS400BS3BS500BS3BS900BS3BSa00BS4BRc00B",
  "S4BRd00BS4BRe00BS4BS500BS4BS900BS4BSa00BS5BRc00BS5BRd00BS5BRe00BS5BS500BS5BS900BS5BSa00B",
  "S6BRc00BS6BRd00BS6BRe00BS6BS500BS6BS900BS6BSa00BS7BRc00BS7BS500BS7BS900BS7BSa00BSaBRc00B",
  "SaBRd00BSaBRe00BSaBS500BSaBS900BSaBSa00BRgBTg00BRhBTg00BS9BTg00B0BScBSh00B0BSdBSh00B0BSe",
  "BSh00B0BSfBSh00B0BSgBSh00B0BShBTg00BR6BRh00BR6BRi00BR6BS500BR6BS600BR6BS900BR6BSa00BR8BR",
  "h00BR8BRi00BR8BS500BR8BS600BR8BS900BR8BSa00BRaBRh00BRaBRi00BRaBS500BRaBS600BRaBS900BRaBS",
  "a00BRbBRh00BRbBRi00BRbBS500BRbBS600BRbBS900BRbBSa00BS1BS900BS1BSa00BS2BS900BS2BSa00BS3BR",
  "700BS3BS400BS3BS500BS3BS900BS3BSa00BS4BS500BS4BS900BS4BSa00BS5BR700BS5BS500BS6BRh00BS6BR",
  "i00BS6BS500BS6BS600BS6BS900BS6BSa00BS9BTg00BSaBRh00BSaBRi00BSaBS500BSaBS600BSaBS900BSaBS",
  "a00BR6BRc00BR6BRd00BR6BRe00BR6BS500BR6BS700BR8BRc00BR8BRd00BR8BRe00BR8BS500BR8BS700BRaBR",
  "c00BRaBRd00BRaBRe00BRaBS500BRaBS700BRbBS500BRcBRd00BRcBS500BRdBRc00BRdBS500BReBRc00BReBS",
  "500BRjBRc00BRjBRd00BRjBRe00BRjBS500BRlBRd00BRlBRe00BRlBS500BRmBRc00BRmBRd00BRmBRe00BRmBS",
  "500BRnBRd00BRoBS500BRpBRc00BRpBS500BRqBRc00BRqBS500BS1BRc00BS1BRd00BS1BRe00BS1BS500BS2BR",
  "d00BS2BS500BS3BRc00BS3BRd00BS3BRe00BS3BS400BS3BS500BS4BRc00BS4BRd00BS4BRe00BS4BS500BS4BS",
  "700BS5BRc00BS5BRd00BS5BRe00BS5BS500BS6BRc00BS6BRd00BS6BRe00BS6BS500BS6BS700BS7BRc00BS7BS",
  "500BS7BTg00BSaBRc00BSaBRd00BSaBRe00BSaBS500BSaBS700BR6BS500BR6BS700BR8BS500BR8BS700BRaBS",
  "500BRaBS700BRbBS500BRbBS700BRjBS500BRjBS700BRkBS500BRkBS700BS3BS400BS3BS500BS4BS500BS6BS",
  "500BS6BS700BSaBS500BSaBS700BS0BSeBSh00BS0BSfBSh00BS0BSgBSh00BRnBS900BRnBSa00BRpBS900BRpB",
  "Sa00BRqBS900BRqBSa00BRjBS900BRjBSa00BRkBS900BRkBSa00BRdBS900BRdBSa00BRcBS900BRcBSa00BReB",
  "S900BReBSa00BRlBS900BRlBSa00BRmBS900BRmBSa00BRkBRc00BRkBRd00BRkBRe00BRkBS500BRkBRh00BRjB",
  "Rh00BRlBRh00BRmBRh00BRnBS900BRnBSa00BRpBS900BRpBSa00BRqBS900BRqBSa00BRjBS900BRjBSa00BRkB",
  "S900BRkBSa00BRdBS900BRdBSa00BRcBS900BRcBSa00BReBS900BReBSa00BRlBS900BRlBSa00BRmBS900BRmB",
  "Sa00BRkBRc00BRkBRd00BRkBRe00BRkBS500BRkBRh00BRjBRh00BRlBRh00BRmBRh00BRkBRc00BRkBRd00BRkB",
  "Re00BRkBS500BRjBS700BRkBS700BRnBS500BRjBRc00BRjBRd00BRjBRe00BRkBRc00BRkBRd00BRkBRe00BRnB",
  "S500BRoBS500BR7BSb00BR7BSb0iBRaBRcBS500BRaBRdBRc00BRaBRdBRc00BRaBRdBS500BRaBReBS500BRaBS",
  "5BRc00BRaBS5BRd00BRaBS5BRe00BRcBS5BRd00BRcBS5BRd00BRdBS5BSa00BRdBS5BS900BRjBRdBRc00BRjBR",
  "cBRd00BRjBRcBS900BRjBS5BRd00BRjBS5BRd00BRjBS5BRc00BRjBS5BS500BRjBS5BS500BRlBRdBRd00BRlBR",
  "dBRd00BRlBS5BS500BRkBRdBS500BRkBRdBS500BRkBRcBSa00BRkBS5BRe00BRkBS5BRe00BRkBS5BS500BRkBS",
  "5BS500BRmBRdBS900BRmBReBS500BRmBReBS500BRnBS5BRd00BRnBS5BRd00BRnBS5BS500BRnBS5BSa00BRpBR",
  "cBS500BRpBS5BS500BRpBS5BS500BRpBS5BS900BRqBS5BS500BRqBS5BSa00BRqBS5BS900BS1BReBS500BS1BR",
  "eBS500BS2BS5BRd00BS2BS5BS500BS4BRdBS500BS4BRdBSa00BS4BRdBS900BS4BRcBRc00BS4BRcBRc00BS4BR",
  "eBS500BS4BReBS500BS4BS5BRd00BS4BS5BRd00BS5BRdBRc00BS5BRdBS500BS5BRdBSa00BS5BRcBRd00BS5BR",
  "cBS500BS5BReBRc00BS5BReBS502BS5BRcBRe00BS7BS5BRc00BS7BS5BS500BS6BRdBS500BS6BRdBS900BS6BR",
  "cBS500BS6BRcBS500BS6BRcBS900BS6BS5BSa00BS6BS5BS900BSaBS5BS500BSaBS5BS500BR8BReBSa00BRaBR",
  "cBSa00BRaBRcBS900BRaBReBSa00BRaBReBS900BRaBS5BSa00BRaBS5BS900BRcBS5BSa00BRcBRdBS900BRcBS",
  "5BS900BRjBReBS900BRlBRdBSa00BRkBRdBSa00BRmBRdBSa00BS4BRcBSa00BS4BS5BSa00BSaBRdBSa00BSaBR",
  "cBSa00BSaBS5BSa00BS5BS5BSa00BS2BS5BSa00BS6BRdBSa00BS2BS5BRd00BS4BRdBS500BRpBS5BSa00BS3BS",
  "5BSa00BS6BRcBRd00BS5BReBSa00BS4BRcBS500BS3BS5BS500BS4BRcBS500BS6BRcBRd00BRcBRdBSa00BRdBR",
  "cBSa00BS5BRcBSa00BS1BS5BSa00BR8BRdBSa00BS3BS5BS500BRpBRcBS500BRlBS5BS500BRjBReBSa00BS6BR",
  "cBSa0B8BRlBS4BWi00BS2BS4BWi00BR7BS4BS4BS700BR7BS3BR8BRh00BS5BRdBS5BRf00BRlBS4BRpBS500BRh",
  "BRjBS8BS400BRpBS4BSaBS700BS8BRjBS4BS500BRlBS4BS900BRlBS4BS9B0BR7BS4BS4BS7B0BRpBS4BSaBS7B",
  "0BS8BRjBS4BS500BRcBS4B0BRcBS4BR7BS4BS700BRhBWcBR7BS40CcB0Y500B0Y500B0Y500B0Y50B3B0BSb00B",
  "S0BSb00B0BSc01B0BSd01B0BSe00BS0BSe00B0BSf00BS0BSf00B0BSg00BS0BSg00B0BSh00BS0BSh00B0BSi00",
  "BS0BSi0DlBS4BR200BS4BR200BS4BR300BS4BR300BS4BR500BS4BR500BS4BR700BS4BR70H6B0Y40BULqDUKnD",
  "UL500DUKoDUL500DUKoDUL5DULe00DUKoDUL5DULf00DUKoDUL5DULg00DUKoDUL5DULh00DUKoDUL5DULi0CmDU",
  "NpDUL500DUNqDUL500DUNpDUL5DULe00DUNqDUL5DULe00DUNpDUL5DULf00DUNqDUL5DULf0Hw0BgBc00BhBc00",
  "BiBc00BjBc00BkBc00BlBc00BmBc00BnBc00BoBc00BpBc05B8D1B900B8D2B900B8D3B900B8D4B900B8D5B900",
  "B8D6B900B8D7B900B8D8B900B8D9B900B8DaB900B8DbB900B8DcB900B8DdB900B8DeB900B8DfB900B8DgB900",
  "B8DhB900B8DiB900B8DjB900B8DkB900B8DlB900B8DmB900B8DnB900B8DoB900B8DpB900B8DqB900MAkDjMAl",
  "02D3D400DnDq0rD8Dm00DdDm00DjD400DjDj00DgDgDm00DnD30qDdD300DdD400DdDi0B3D4Da0DfMDrMCb00MF",
  "jMFj0BuMAkZZcMAl00MAkTQ9MAl00MAkTUcMAl00MAkWy9MAl00MAkyFpMAl00MAkYSjMAl00MAkzWnMAl00MAkU",
  "WtMAl00MAkZKnMAl0"]

end ObliviousRelay.Idna.Data
