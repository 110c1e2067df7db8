/-!
# Properties of characters in domain names

Packed tables of properties of the characters that names hold: how they compose, how they join, and
in which direction they run. Numbers are packed as in the mapping.
-/

namespace ObliviousRelay.Idna.Data

/-- Spans of combining marks: the gap before a span, and its length less one. -/
def marks : List String := [
  "Y0DfIj6I7Bc10111110C8aBgkg0D56252113B30uqCraBq890o3181214Bb2Br8BaBpBm21h16a1t2Bo01f90a1q",
  "5Bolu130b2Bo01fk1m9Bo01pa1u0Brf90B84Bn01ob1t2Bo01ob1fgBn11f90a1t2C6li1Bt026c7D2028b6C91r",
  "0101041Bhj115Bf90D4jn342122633db10a3Vv2zi3s2t1u1C2t90F71B20DmrGr4BpBaBgCkBfgB68c2ucBodBg",
  "jEo21k406022G6BvWgB0C+u2Ed0D0vRa5D91zOk319B01Cg1Ig03040n440Cj1Bihqhd0B67pcBc3BfdB40C3dc0",
  "81Bd2Bi012215110B9451Hc711TZg0Y1f-d0H20El4BU6eB87F51Rt3C14Jt1Cd5C6aBh3Dq2BleB9021a3Bda70",
  "Bt2B4dg1Bc0c2Bgd8311Csb6020Etbl3Bn11f90aiC3o10e1Cihn0ChjHbhr1CigDacD5eI0eHle1011Edf30s9B",
  "8613809aBefG67G7gCiB4Dqk10C2dKr39110Bgen0FH506eLG8hCO04Br6BAo01C1ChdTFb1ET1C6Qu43l26u3Ek",
  "2BzrBm4Bh80e0mkBKgEfF06Ln0Bt3Ps3Hu1Hj0207150Oq6Dd6"]

/-- Spans of combining classes that are not zero: gap, length less one, class. -/
def classes : List String := [
  "Y0kH600H803Gs00H800Go04Gs01Ga03Gs01Ga0aGs04103Gs09H602Gs02H601Gs12H603Gs00H600H801Gs00H6",
  "00H901Ha00H901Ha00H90cH6Ij4H6I90Gs03H600Gs02H600Gu00Gs05H605Gs01H600Gs01H600Gu00H400H600",
  "a00b00c00d00e00f00g00h00i01j00k00l00m10n10o00p10H600Gs10iC87H600u00v00B0Bg0r00s00t00u00v",
  "00B000B100B201H601Gs04H600Gs01H600Gsg0B3D56H623H600Gs00H621H610Gs01H600GsB30B4u0H600Gs01",
  "H600Gs01H602Gs00H601Gs00H600Gs02H600Gs00H600Gs00H600Gs00H600Gs01H6F06H600Gs00H690Gso3H61",
  "8H612H614H6Bb2GsBr1H602Gs03H6Ba4H604Gs0dH610Gs01H600Gs01H600Gs02H602Gs00r00s00t02H600Gs0",
  "1H601Gs04H6Bs07g0930H600Gs01H6D707g09Bg0H6Bt07g09De07g09De07g09Dv09De07g0970Ck00CrD507g0",
  "9Dd19g09Ds09Dd1D7009d3DbDc1Dm009d3DqCc1Gsr0Gs10Gs10GoBn0E100E210E453E220E211H600911H6Bu0",
  "GsDg07119Ci0GsWf2H6zk19u09Et09a0H6Gb0H4Ef0Gu00H600GsGr0H600GsC709k7H620GsBg4H605Gs01H600",
  "Gs11Gs01H601Gs04H600Gs0hH600Gs25H600Gs03H600HaC807f09B60H600Gs06H6Bm19Bq07b19C307Eo2H610",
  "104Gs01H603Gs00H616140Gs60H631H6G61H600Gs06H600Gs01H600Ha00Gm00Gs00Ga0B4H600H801H400Gs00",
  "Gq00H600H900Gs00H600GsWg1H601103H602101H640H631100H600Gs00H601103Gs00H6C+u2H6Ed09D0vH6Ra",
  "0Gq00H400H800Gu01H0D918zOk0H649H6B01H6Cg1H6Ik09B509En09rhH6Bp2GsB509Cv07c09Hf0H611H600Gs",
  "21H651H610H6Bk09Hm09TZg0qY16H606Gs01H6-d0GsH20GsEl4H6BUi0Gs10H6B80H600100Gs409F50H600GsR",
  "t3H6C14H6Jt1H6Cd1Gs12GsC61Gs02H600Gs00H603GsBh0H600Gs00H600GsG009B909e09Bp09007C52H6Bg19",
  "Bu07Cc09907Da09007Fi07009Cg17g09oeH6Cp29Dh09307n0H6D309007Hr09007Du09Dm09007Dj09Id09007I",
  "219407Es09Cj09i09Ch09N509I207119Ch09N919QPc09CO041Br6H6BFp16TFc01FG61Go02130H204Go87Gs24",
  "H601Gsu3H6Ek2H6DNrEfH6F06H6Ln0H6Bt3H6Ps1H800Gs00H6Hu0H600GsHj0H620H671H650H6Oq6GsDd5H600",
  "7"]

/-- Composed characters: the gap before one, and its two parts, the first by its distance. -/
def composites : List String := [
  "H0HtY00HvY10I1Y20I3Y30I5Y80I7Ya1I7Z70I5Y00I7Y10I9Y20IbY80I5Y00I7Y10I9Y20IbY81I5Y30I5Y00I",
  "7Y10I9Y20IbY30IdY82I7Y00I9Y10IbY20IdY80I7Y11IbY81JvY41K3Y61K7Z81K7Y11KbY21KfY71KjYc1KlYc",
  "3KrY41KvY61L3Y71L7Z81LbYc1LbY21LfY61LjY71LnZ71LpY23LvY31M3Y41M7Y61MbZ85MlY21MnZ72MrY11Mv",
  "Z71N3Yc5NbY11NfZ71NjYc4NrY41NvY61O3Yb3O5Y11O9Z71OdYc1OfY11OjY21OnZ71OrYc1OtZ71P1Yc3P7Y31",
  "PbY41PfY61PjYa1PnYb1PrZ81PrY21PrY22PvY11Q3Y71Q7YcB2T3YreTlYrtWpYc1WdYc1W5Yc1VtYc1NjY41Nn",
  "Y11NrYc1NvY02PlY41EcY41PpY43XvYc1XrYc1XnZ813Y41K6Yc0YbYc4YrY13YlY01RbY11RdY11QdY11ZvYf1w",
  "3Yh1ZvYf1w3Yh1ZvYf1w3Yh1ZrYf1ZvYh1ZtYf1w1Yh1ZvYf1w3Yh1wbZ61wdZ63xdYc7ybY71y7Z71T9Y41TfY4",
  "1xvY713Y41xjY4KsDkY1raY10gY10iY10kY10BmY1pB1Y80bY80pY10fY109Y1Da1Y6mBlY00BnY81BvY131Y84C",
  "3Y10C9Y00BlY6o3YfCaInY6eK1Y61K5Y83K3Y633Y81KdY81KfY83KlY41KpY81KhY833Y81JvY81KnY41KrY81K",
  "vYb1KrY83KrY8J8aBSj08BSk0C8BSk04BSl0C8BSkEpBaBSk11BSkg1BSkSl1CJs71CJs21CJsEm7CNu09COnLr1",
  "Cwm27CZu09CwnC73C-nBl7Czu07Czu0bC-nDr3DCmDn1DGl61DGl03DGm17DG201DGlDu7DJu07DJu0bDKnEd1DO",
  "a15DOf01DOa09DOvS71EBeCWv1GZl11GZl11GZl11GZl11GZl31GZlB81GZl11GZl23GZl03GZl11GZlVtOZvZ51",
  "Ow1Y71Ow5Z31Ow9Zh1OS3Y11OwdY71OwhZ31OwlZh1OwpZ71OwtZd1OQ3Y01OQ7Y11Ox7Zd1OxbZg1N+7Y61OxhY",
  "71OxjY41OxlY71OxpZ31OxtY81Oy1Z71Oy5Ze1Oy7Zg1OTvY11OybY11OyfZ31OyjZh1OylZ313Y41OytZh1Oz1Z",
  "d1Oz3Y11Oz7Y71OzbZ31OzdY71OzhZ31OzlZh1OzpZd1OVfY11OVjY81OQ7Y01OQbY11O-9Y11O-dY71O-dY71O-",
  "hZ313Y41O-pZh1O-rY71O-vZ31OQjY71OQbY71bY71O+dY71O+hZ31O+lZh1O+pZd1O+rZ41O+vZg1PA3Zd1OQvY",
  "11OQvY81PAdY31PAhZ31PAjY01PAnY11PArY81PAvY71PB3Z31PB5Y71PB9Y81PBbY71PBdY21PBhZ31PBlZh0PC",
  "rZh0PC5Y80PC1Ya0PBvYa7PDvZ31PE3Y91Oy5Y11Oy9Y01OydY91OyhY31nY21OwnY11OwrY01OwvY91Ox3Y31Bb",
  "Y61PF7Z31PFbY91PFfY31Oz9Y11OzdY01OzhY91OzlY31rY21PFvY91PG3Z31PFrZ31PFvY91OzpY11OztY01O-1",
  "Y91O-5Y31nY21OTjY11OTnY01OTrY91OTvY31OU3Z31PGvZ31PH3Y91OThY11OTlY01OTpY91OTtY31OU1Z31PHj",
  "Y01PHnZ31PHrY91PHvY36NUtYj0NUvYk03Y003Y007Y107Y10bw20bw28NVlYj0NVnYk03Y003Y007Y107Y1aNWh",
  "Yj0NWjYk03Y003Y007Y107Y10bw20bw28NXdYj0NXfYk03Y003Y007Y107Y10bw20bw28NY1Yj0NY3Yk03Y003Y0",
  "07Y107Y1aNYlYj0NYnYk03Y003Y007Y107Y10bw20bw28NZdYj0NZfYk03Y003Y007Y107Y10bw20bw28NxtY01N",
  "xpY01NxpY01NxpY01NxhY01Nx9Y01Nx5Y0BjN+tY60N+vY44OA9w2fOAtw29OBdY60OBfY40OAfY03OBpw20OApw",
  "28OBlY60OBnY40OBdY01OC5Yj0OC7Yk0OC1w20OBnw2eOCpw2N3jZo0hZoiBjZou6Zo0cZo06ZoBk1Zo41Zo21Zo",
  "n1Zo11Zoq9Zo21Zo23Zo11ZomRC5Zo11ZoaBvZo0RD3Zo0RD1Zo0nZo0nZo23Zo03Zo23Zo03Zo6bZo0bZo23Zo0",
  "3Zo23Zo03ZoB2jZo09Zo09Zo07ZoBgG7Zo0G7Zo0F1Zo0F1Zo6DfZo0DfZo0DfZo0DfZoDKu1MEp11MEp11MEp11",
  "MEp11MEp11MEp11MEp11MEp11MEp11MEp11MEp11MEp21MEp11MEp11MEp61MEp03MEq11MEp03MEq11MEp03MEq",
  "11MEp03MEq11MEp03MEqmErMEp91MEpd1MEp11MEp11MEp11MEp11MEp11MEp11MEp11MEp11MEp11MEp11MEp11",
  "MEp21MEp11MEp11MEp61MEp03MEq11MEp03MEq11MEp03MEq11MEp03MEq11MEp03MEqmErMEp2fMEp0fMEp0fME",
  "p0fMEp31MEpBVGaiY7qjY7CVl1CEFq11CEFqebCEFqE26CEJ706CEJ7Qr7CEZu09CEwnBm1CE-911CEzr85CE-22",
  "1CE-9Bj5CE-219CEzo0bCE-9Hi3CFFq05CFFg19CFFtHr3CFNf03CFNfxs5CGJgR+85CYIu07CYJ909CYIv0aCYI",
  "v0dCYJ009CYIv09CYIv0dCYJ0DBv1CxL70bCxL701CxL7"]

/-- Spans of joining types: gap, length less one, and 0 for left, 1 for right, 2 for both, 3 for none
but transparent. -/
def joining : List String := [
  "Y0Df3Ij63I7Bc3103113113103C8a35021310020010020010420310c21620010120k3e120030215e20h10B52",
  "001012081002001002001012011101063253213133011a22202g010030220410320010820010020010020010",
  "120010q32010a20210e2011032001002011022011052B6a3pB02083903o33183123143i01042011002001092",
  "0010020210234021321010020p13022420010027830920211010120110520010e21Bo3Bn03103473403363a1",
  "3t03Bq03433803k13q43Bp034g3u13303b13Bp03473403k13m73Bq03203133893b13u03Bt03c03Bi03303Bn0",
  "31235g3b13t03Bq03203603513k13s13Bp13433803k13t03C803743Cq03263c73D203283b63C913r03103103",
  "Bnd31431135Bf3903D633153113213p13423g33d03213603f03Vv23zi23t13u13u13C3638032a3903B902oCo",
  "2c130B12003002Dl23413903623Gr13203Bq031831032736c3BgCj3Bg03143103503B883c13B033213123Bo0",
  "3113303123Bq73213Eo231c3163403603313G6Bv3WgB03C+u23Ed03D0v3Ra33Db13zOk33193B013Cg13Ig033",
  "03403p13503jBh2000Ch13qh3d03B673pa3Be23Bg03233213B703C353213213c03803Bf03Bj0312321351310",
  "3Ba13803He03203403TZg03Y1f3-d03H203El43BU6e3B873E042001101111200041032000042001022001201",
  "013432001Eg02001002021022001012001002011002001n31012Kh000B02001002033C143Jt13l01012112Bi",
  "53Bg220010g21a3022001r320110b2033Ba02112021102011012001012102011002401002000Bl03Bme3B903",
  "213a23Bh33213703Bt23B443173Bu03c13Bk83a33203Cv23203113603203Et03373l13Bp13303B5e3C653d03",
  "103103e13Cl73223103n03Ck53103413113He33613113r13Cl73203113Da03103253103D503103233143I383",
  "113I013103403Eg73403B093B853233803953223Bec3113G603123103G9d3103Cil3263113113Dqk3103C813",
  "303103Kr13b13Bk43503103n03FH5036e3LG8b3323CO043Br63BAo03Bv33Ch03TFo13ET1C63R023h73263u33",
  "Ek23BzrBm34Bh3803e03mk3BKgEf3F063Ln03Bt33Ps33Hu13Hj03203713503Oq63CbB12073"]

/-- Spans of directions other than left to right: gap, length less one, and 0 for right, 1 for Arabic
letters, 2 for Arabic numbers, 3 for European ones, 4 for their separators, 5 for common separators,
6 for terminators, 7 for neutrals, 8 for boundaries, 9 for marks, 10 for all others. -/
def directions : List String := [
  "08804a0d804a0170260470040050040150930050B57q37008B1070360871164B17v07O1177d72r71g70Df950",
  "7E007Ec69I0470061Bc90000090000190000190000098B40h170010160010050010170a90Bf10k9092006012",
  "0210090D410691070590110190070390110930m10090t10q92Co10a9001eBa00890100370002090n00390000",
  "890000290000492B800292001Bf17890B910Bo9Bn09109479409369a19t09Bq09439809k19e16706249Bp094",
  "g9u19309b19Bp09479409k19d06879Bq09209139899b19u09Bt09c09B557006007509309Bn091295g9b19k67",
  "209Bq09f19k19s19Bp19439809k19t09C809749Cq09269406779D209289b69C919r09109109037Bjd9149119",
  "5Bf9909D639159119219p19429g39d09219609f09Vv29Bg97D607Uq17Dl29t19u19u19C3698092a9706109iq",
  "7Dq19B209Dm29419909629457EoB17n19209Bq091891092796c9BgCj9Bg09149109509B889c19B039219129B",
  "o09119309129Bq79219Eo291c9169409609319G6Bv9Qc182n78262e70050p7C1B06007eB09jB57406bj7BsE7",
  "70040060J17C5p71Yl71Ki7I0Xv7H557429767Dv09D0v90Q473o7939207607527Cp19507Cq07G4B57G-qBv7V",
  "UgBm7K627Cv39007099017u19Cg19eB17D607Dp09309409p19137009b16Bq37Cc19qh9d09B679pa9Be29Bg09",
  "239219B709C359219219c09809Bf09Bj09129219519109Ba19809Dj17Dp09209409TZg09Ejg10Rs7B0f9l17B",
  "c01Ud07BuCc73g7Cs09H2090q3Dq49BE5Ir03070H000e90B502790F400194Ca03670Nv00B310398926f0p490",
  "n0817Ggu21B90119040ge1077B1590B708l10a9081mh00390Dg0a09Bme9bj7a09219a29Bh39219709Bt29B44",
  "9179Bu09c19Bk89a39209Cv29209119609209Et09379l19Bp19309B5e9C659d09109109e19Cl79229109n09C",
  "k59109419119He39619119r19Cl79209119vc7Bu09109259109D529239149I389119I019109409Eg79409B05",
  "9219B859239809959229Bec9119G609129109G9d9Ckl9269119119Dqk9109C819309109Kr19b19Bk49509109",
  "n09Dq770360g7FCe096e9LG8b9329CO049Br69BAo09Bv39Cf07109TFo19Dx1Xg7fC69R029h79269u39BrCo70",
  "29007FqCm7BV9Bm94Bh9809e09mk9BKgEf9F069Ln09Bt39f06Pc39Hu19Hj09209719509IaGf0069CbB100690",
  "k0YhGc1NiRv7Bt27Bt07FiCMq7"]

end ObliviousRelay.Idna.Data
