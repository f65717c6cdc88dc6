import SheetTables.Unicode.CharSet

/-! # Properties after edition 17

The sets by which texts are written and lowered and names are read, after edition 17 of the
standard. Patterns look up the tables of edition 16.
-/

namespace SheetTables.Unicode.Edition17

def letters : CharSet := .ofRuns
  ["CnBagBaBvbkbebfxbBfbRqemofhbbbDibBdsbccebbgbbdbbbubDfbFjiGkbBmcbgBpBnobbbcbcbbiBbeeBdlfC",
   "ebhoDybieiedkdcbqBwnDxyBhjcebfycttzhlfybhhbiBqkmdhgCybqbdepntbicccwbhbbdediccccbbibecbfm",
   "ckbedbgeccwbhbcbcbcefecccebhebbrgldbjbdbwbhbcbfdjbdbcdbpeveedbicccwbhbcbfdiccccjcecbfnbq",
   "cbgddbedcbbbcdcdddmefddbddbgbBonbdbxbqdibdbdicbdbcceBcebibdbxbkbfdibdbdicfdbendmnbdbBpci",
   "bdbdbbfehfwgbdbsdybjbbchigbbbiscnCgfhgbBzcbbbfbybbbtbdcfbbgboeBgbClibBketeqbBkCpCdbbcfqC",
   "mkecBmbbfbcBrbMvbechbbbecBpbecBhbechbbbecpbCfbecCpBlqqDicgdXwcrbBafCxdlhulvmumnbdbcmCact",
   "obebCpDlhBrfCskBfbmejxBecflBseBaCcBceClcuBybxcldBxCabpbiBzBqcekBsbloCdwdkBkclfBrcdBpebgb",
   "cdbfHktBilKscgcBmcgcibbbbbbbBfcCbbhbbddbhdecgenfdbhEmbnbqnDxbebckbbdfgbbbbbbeblceffebrBp",
   "BFhCaCRuIvgedcmBmbbfbcCehbqxjhbhbhbhbhbhbhbhbBgBvbSbdzjhfcfeDigdbDmbefBrbDqrBgBwqTsJToCm",
   "BGUfCpBucKjdqkcuBvfidEjBnjcDzcDeuvbBhyCamCqbbBsgdbbdkBhfBjnBddBzbmpbqqkfbCdjosxdCrbbbbyd",
   "cqcelgcgcgjhbhbBrbogEtvQNsmxeBxJMiOccEcBmhmffmbnbfbbbcbcbEeBhNzsCmcCcBomEmfbFfBkBagBalDl",
   "dgcgcgcdBjmbBabtbcbpcoBiEtCrCbKhBddBxBvBgnBefBrfBecBkeibfBqGcsBkeBkeBoiCamlbpbhbcblbpbhb",
   "cdCamLzjwkiygbBqbjCrgcbbBsbcdbcxkxjBfCntbckwkBagBaBmCegcCmebcfibdbBdBqBddBdBjibBcBbCckwk",
   "tnsEgCvCdBznBznBoBiBcdbfxJqBqbcdcqgByddBdkbiwBqsBuvBbxjCsBrfkCfjbnzxBzreiBjdbjCmbejckbbb",
   "BjsbBicbgeCkhbbbebpbkhCfxebicccwbhbcbfdiccccdbgbfhBckbbcbbBmbkbbcbbebcdbbbBsCobdbeudBeCo",
   "ccbbHcCcchzgBiClbbdbChCccbCtBbcovhHdCfDzCmBficbcibcbBebcccceDpicBucgbbbcBbBzckrCufbsCvDz",
   "iDkBhBfjbBtbhbbBxBecwboCvhbcbBsdbbcbdbbccygbcbBlbcbebbxBsKaxjrbBpddEhbDbBJmDyEhrHoDXkDtp",
   "BPgrgzFXrfWlKDdBvCPdVxhBfrDbrBesBwqeBfvftQqBtIdCmBgzczBsCxeCfhrCmcbbmhjKXyBpBgDtElMWrebh",
   "bcbLfpbBddcboeiPgDKuEdfndjhkebIWfDhbCtbccbcccebmbbbhbCnbecibhbBcbebfbbdhbNcczbzbBfbzbBfb",
   "zbBfbzbBfbzbiCSyBfggIfhbrchbcbffCkBhbEiBtkhqbMjBesBsSqBcIuBecbHzBfbwicIqhbebcbpbHpChCqdb",
   "dbBUiebBbbcbbcbbkbebbbbgbebbbbbbdbcbbcbbbbbbbbbbcbbcebhbebebbbkbrfdbfbrYeBagBagBaFMkCLFc",
   "BgGMocIOccLBlpXyDQwUwCFyHHzfMOo"]

def numbers : CharSet := .ofRuns
  ["BwkEqcfbcdCDlkFekHqkPwkEokegEekEokEokcgEgnElkihDzkEahhtEfkDskEokCsuKikCskBBruBHxdJfkgkwk",
   "LokEylGjkgkHakDikFekgkBOgbdggkHqBzcfBByCiDawYgBeCBhbBDxbzjodNfeFikBeibpBgkBnpBRSakHgkMig",
   "FykBmkHqkwkDikPqkBCLikSzBtmCfrcNdBbBkeBdbibFefHukBKgizhBnjCxfwgGeccqcBuCmjCacBedCxfEaiyi",
   "BphMsgBwkgkKsBfGckBqeEihFeBeEykCikFokhuJrkNekEokOkkDykguCymQetDpkZmkDiBdItkCskCckNukDyvB",
   "PbEhXAfkDMckDikFekbhUgkKcxNldBJFlkCEwumuEezBQrByDNckQgkTikJnkBBojEykBElChbdbeCyBtbpBLanE",
   "Dfk"]

def cased : CharSet := .ofRuns
  ["CnBagBaBvbkbebfxbBfbHnbeeIacBjhcBefDsbBqecccebbgbbdbbbubDfbFjiGkbBmjBpEFfBmbbfbcBrbeZwDi",
   "cgDFulfBrcdCmHkCmKscgcBmcgcibbbbbbbBfcCbbhbbddbhdecgenfdbhEmbnbqnDxbebckbbdfgbbbbbbebgeb",
   "ceffebrBgdcBFlCaCRuIvgedcmBmbbfbBTWcBusBeFcDydebCzugbdBFpBrbogDcBAZohmfBNtBagBaBTtDcDsBk",
   "eBkEmlbpbhbcblbpbhbcRjbcdbBqbjBUzBznBzDpwkwEFiCmBGIqCmBgzczBMIeDhbCtbccbcccebmbbbhbCnbec",
   "ibhbBcbebfbbdhbNcczbzbBfbzbBfbzbBfbzbBfbzbiCSykbuggKbCkDGkCqDAaBagBagBa"]

def caseIgnorable : CharSet := .ofRuns
  ["BnbgblbBjbbbCtbebbbebccTjHkecebjcbbJrhHzbfbBxBtbbbcbcbbBsblgklbbBjbkvqbDxibkbeBhbbbBeBbD",
   "nlCglebcbyyBrdBsbhcfjBpCgCdbbbeiebdhkcnbpbCgbeeibucBabccCfbececcddbBecdblcCfbefbcebucwgb",
   "bCgbcbbeibhclcBebCjbmbBybdbCdbbdfdbehclcBdbCgbcbgbfcucBccCfceeibucBdbCubhdbbDmbchljDubcj",
   "jbbhCvcBbbbbbbCdobfbcflbBkjbDyebgbccczcedqenbccgbpbDqbXkdBKkdBdcBecBecCmcbhibcldbfbBtfBz",
   "bCncBibEodecjbgdIlccbCgbbhbbbbcigkcbBnbiBucmueBwbbfbbfbBojmcBgeccbdCebbcdbbdCgiccCmgDedb",
   "nbhebgbdcByClnbBiDxRdbbdldndndncmfickbcbcfBxfbkbbnbqnBzBhEJrcEjdEvbpbDsBgBvbSbbBkedffbDp",
   "gDpdBQBubBWcgKkbDuebkbbBceDccoBiDabxdDyedcibdbebzcfbFvcBasnbBmizlBudBwbceccrbvcCogccccmb",
   "ibBjblbBzbbdccfcbbBbbocfcbbDwfjdErbcbebBAYybFrrWbqdbmqBibcbGnbhbgblbBjbbbBvbBtcCpbvdTtbI",
   "sbFtfBNpgbBqbjWkdbcfeBodebGjcWbeBmbBafbbMdcybCagCslBxeEtbCcpBpbcckdBxecccbebkbBydBkfbiCk",
   "bmcCajkecbDrdcbbcgbcbGbbdivcCfcdbBlhdfCsgnbbbbbocDhicdbbxbDggbbecbcJeegcbcBbcDhicbbcEcbb",
   "bcgbbDxbbbcebfJzjbcJwcbbebFoeccebBgkBogceibjgcdBunbcHqbbdbbHthbgbbDewchbcbcEsgdbbcbhbbCu",
   "cdbbbCnbKvclcCaffbbbxbHXdrgpQYymddDSafChhjeTodBocSobClrCmcbcncYGaebhbcEUgcbeGYuBucxUydjq",
   "chBeeFsdCYdCdeByibobwfbpCAihbrchbcbffCkBhbGeoOebCjeTnfJucJjbcbhcfbjbRwhEfiEBffBSXXpbBeDs",
   "EyJg"]

/-- Controls, blanks other than the space, fillers, which do not show either, and characters that
are private or not assigned. -/
def hidden : CharSet := .ofRuns
  ["aBhDqBimbBBmcgehbbbubPhbBmcBycdbCdiBbegrwbHkbBwcChcDxoChcBxcpbBccbblfBghCxbGfbicccwbhbbd",
   "ecjccceibecbfczcdbgeccwbhbcbcbccbbfeccddbhebbhrkdbjbdbwbhbcbfckbdbdcbpecmhhbdbicccwbhbcb",
   "fcjcccdhdecbfcskcbgddbedcbbbcdcdddmefddbecbgbovfnbdbxbqcjbdbehcbdbcceckhwbdbxbkbfcjbdbeh",
   "cfdbeckbdmnbdbBzbdbgeqcBabdbsdybjbbchdbegbbbigkcdmCgeBdBlcbbbfbybbbxcfbbbhbkceBgCubBkeBn",
   "bBkbpbnBlHqbbfbcFncIybechbbbecBpbecBhbechbbbecpbCfbecCpcBgdBagDicgcYqbBcdDlhwjyjumnbdbcm",
   "DqckgkgoblgDlhBrfCskBfbmemebdBqcflBseBagldCkcCnbBdclgkgocBucmuCzbGkiCidpdCkfBrcliBrfUocg",
   "cBmcgcibbbbbbbBfcCbbpbocgbtcdbjryiBvrccBbbndBioBhpFkeZqwlvCRscOsfBtbbfbcCehcoyjhbhbhbhbh",
   "bhbhbhbEwBiBabDlmIgBaqbClbDicDzfBrbBzbBqbDijBwbBRIrdCdjNkuHciInuCidkgCeiCsimgEmlBedDable",
   "BhbCdjockcDzyBckgcgcgjhbhbCieEwckgQNsmxeBxJMiOccEcBmhmffBabfbbbcbcbZaBgBqgBzbtbeefbFfeGd",
   "bBedgcgcgcddhbhnccmbBabtbcbpcoBiEtfdeBtdDkbndbBvBuFaBddBxpBceBkjBefBrfBebBleoBqGcckgBkeB",
   "keBoiCalmbpbhbcblbpbhbcdCamLzjwkiygbBqbjCrgcbbBsbcdbcxbCuijBwtbcfBhdBbfBbBmCeeucBybcfibd",
   "bBdcdekhjhCmBgBnemjCcdBdcBbfBahemhDcCvCdBznBzhBuikgBmdBdicIaBfbBqbdccqgijBhBuiBqwBaBmBcu",
   "xjDaeBkjCkbfnzhkgCbbsiBnjDsbulsbBvCkhbbbebpblgChfkgebicccwbhbcbfbkcccdcbgbfhchdflkbbcbbB",
   "mbkbbcbbebkbcicBdDobfBeCuikGkCccBmBiCrlkgntCggkguBcBbcpexHdCiDwDfmicbcibcbBebccmjkCsicBu",
   "clBbCuiDfnCvhkDiiDkBiokgjbBtbokBddBgcwboCvhbcbBsdbbcbjikggbcbBlbcbghkgBsekJmzhrbBpdBdDhb",
   "pBynBJnDyEhbflHoDXkDvnBPgqwkFXrfWlKDdCgCOsVxhBfbkeDdbkgBecgkCskkbhbvftQqCgHqDnfzczBsCxeC",
   "fhrCmflhjKXyBpBgDtElMWrebhbcbLfpbBddcboeiPgDKuEdfndjhkceFVkJtdQugxprpBucxjEmCiJmkBncCwiE",
   "ivCsEsumumDjjzFfDhbCtbccbcccebmbbbhbCnbecibhbBcbebfbbdhbNccLgcBBapfbpBQmBfggIfhbrchbcbff",
   "CkBhbEiBtdockecMiBfrCgfbRwBqIgBrebHkBfbwicIqhbebcbpbHpcqBpCyekecBEfCqCyCjHmebBbbcbbcbbkb",
   "ebbbbgbebbbbbbdbcbbcbbbbbbbbbbcbbcebhbebebbbkbrfdbfbrCacKkBseDwmpcpbpbBlkGsCeBdnBsejhcog",
   "FyBLxdrdndIkgmebpmeCeikgBoiBecmecojBnNgiocndldCfbbeqcmekhFrbDzBNpCLFcBgGMocIOccLBlpXyDQw",
   "UwCFyHHzfMOoBOGXyJg"]

/-- Marks that extend the character before, but for the half-width voicing marks, which stand by
themselves. -/
def extenders : CharSet := .ofRuns
  ["BDoEiKphKdBtbbbcbcbbCulBwvqbDxhcgccbeBjbBeBbDnlCgjjbyebjbdbfBrdChjBqybBgCdbbbeiebdhkcBdb",
   "CgbbbceibjbkcBabccCfbececcddbBecdblcCfbefbcebucwgbbCgbbcbeibhdkcBebChbbbmbjbBobdbCdbbdfd",
   "behclcBdbCgbccbbddbehclcBccCfcbbceibjbkcBdbCubebcdbbibDdbchmiDubcjlhCvcBbbbbbbCdobfbcflb",
   "BkjbDyebgbccczcedqenbccgbpbBBbdBKkeBcdBdcBecCmcbhibcljbBtdbbEncBibEodecjbgdIlccbCgbbhbbb",
   "bcigkcbBwBucmueBwkedBmjmcBgecgCebbcdbbfCeiccFwdbnbhebgbdcHqCmUebHnBhEOcdFlbDsBgVigEbcBSQ",
   "eebkBgcDccKmbdbebzcfbFvcBasnbBmizlbbBsdBwbcecccbBkbCpgccccmbibBvbBzbbdccfcbbBqcibJebcbeb",
   "BAYybBCjqqqBLlbIsbFtfCMgdbcfeBodebGjcWbeCnfMfcCzgCslBxeEtbCcpBpbcckdBxecchbCjdBkfbiCkbmc",
   "CajbbiecbDrdcegbcbGbbdivcCfcbbbbmbjbohdfCpbcgbbcbbdedbbocDhicdbbxbDdbcgbbcbbcbcJbbcegcbc",
   "BbcDhicbbcEcbbbciDxbbbcebfJzjbcJlbkeebFoeccebBgkBogceibjgcdBunbcHqbbdbbHthbgbbDewchbcbcE",
   "sgdbbcbhbbCucdbbbNjclcCaffdxbHXtbgpQYymddDSafChhBOibCleDdblcBDAxcGYzBucxUwfdgiichBeeFsdC",
   "YdCdeByibobwfbpCAihbrchbcbfDwbGehOlbCjeToeJucJjbcbhcfbSghEfhBTCAfDsEyJg"]

end SheetTables.Unicode.Edition17
