import SheetTables.Unicode.CharSet

/-! # Properties of characters

The properties that a character has or has not, after edition 16 of the standard. Names are
written as they are compared: in lower case and without separators, the names of one property
side by side.
-/

namespace SheetTables.Unicode

/-- Every property with its names and the runs of its characters. -/
def properties : NamedSets :=
  [
    ("ahex asciihexdigit",
      ["BwkhgBag"]),
    ("alpha alphabetic",
      ["CnBagBaBvbkbebfxbBfbRqemofhbbbDibBdsbccebbgbbdbbbubDfbFjiGkbBmcbgBpBnobbbcbcbbiBbeeBdlfC",
       "ebhoDybieiedkdcbqBwnDxyBhjcebfycttzhlfybgibiBqkmdhgCybqbdepntbicccwbhbbdediccccbbibecbfm",
       "ckbedbgeccwbhbcbcbcefecccebhebbrgldbjbdbwbhbcbfdjbdbcdbpeveedbicccwbhbcbfdiccccjcecbfnbq",
       "cbgddbedcbbbcdcdddmefddbddbgbBonbdbxbqdibdbdicbdcbceBcebibdbxbkbfdibdbdicgcbendmnbdbBpci",
       "bdbdbbfehfwgbdbsdybjbbchigbbbiscnCgfhgbBzcbbbfbybbbtbdcfbbgboeBgbClibBketeqbBkCpCdbbcfqC",
       "mkecBmbbfbcBrbMvbechbbbecBpbecBhbechbbbecpbCfbecCpBlqqDicgdXwcrbBafCxdlhulvmumnbdbcmCact",
       "obebCpDlhBrfCskBfbmejxBecflBseBaCcBceClcuBybxcldBxCabpbiBzBqcekBsbloCdwdkBkclfBrcdBpebgb",
       "cdbfHktBilKscgcBmcgcibbbbbbbBfcCbbhbbddbhdecgenfdbhEmbnbqnDxbebckbbdfgbbbbbbeblceffebrBp",
       "BFhCaCRuIvgedcmBmbbfbcCehbqxjhbhbhbhbhbhbhbhbBgBvbSbdzjhfcfeDigdbDmbefBrbDqrBgBwqTsJToCm",
       "BGUfCpBucKjdqkcuBvfidEjBnjcDzcCpccbbbivubBhyCamCqbbBsgdbbdkBhfBjnBddBzbmpbqqkfbCdjosxdCr",
       "bbbbydcqcelgcgcgjhbhbBrbogEtvQNsmxeBxJMiOccEcBmhmffmbnbfbbbcbcbEeBhNzsCmcCcBomEmfbFfBkBa",
       "gBalDldgcgcgcdBjmbBabtbcbpcoBiEtCrCbKhBddBxBvBgnBefBrfBecBkeibfBqGcsBkeBkeBoiCamlbpbhbcb",
       "lbpbhbcdCamLzjwkiygbBqbjCrgcbbBsbcdbcxkxjBfCntbckwkBaCsCegcCmebcfibdbBdBqBddBdBjibBcBbCc",
       "kwktnsEgCvCdBznBznBoBiBcdbfxJqBqbcdcqdCdbdBdkbiwBqsBuvBbxjCsBrfkCfjbnzxBzreiBjdbjCmbejck",
       "bbbBjsbBicbgeCkhbbbebpbkhCfxebicccwbhbcbfdiccccdbgbfhBckbbcbbBmbkbbcbbebcdbbbBsCobdbeudB",
       "eCoccbbHcCcchzgBiClbbdbChCccbCtBbcovhHdCfDzCmBficbcibcbBebcccceDpicBucgbbbcBbBzckrCufbsC",
       "vHrBhBfjbBtbhbbBxBecwboCvhbcbBsdbbcbdbbccygbcbBlbcbebbMpxjrbBpddEhbDbBJmDyEhrHoDXkDtpBPg",
       "rgzFXrfWlKDdBvCPdVxhBfrDbrBesBwqeBfvftQqBtIdCmEyCxeCfhrCmcbbmcoJCaiBVqBpkNFrebhbcbLfpbBd",
       "dcboeiPgDKuEdfndjhkebIWfDhbCtbccbcccebmbbbhbCnbecibhbBcbebfbbdhbNcczbzbBfbzbBfbzbBfbzbBf",
       "bzbiCSyBfggIfhbrchbcbffCkBhbEiBtkhqbMjBesBsSqBcIuBecbTbhbebcbpbHpChCqdbdbBUiebBbbcbbcbbk",
       "bebbbbgbebbbbbbdbcbbcbbbbbbbbbbcbbcebhbebebbbkbrfdbfbrYeBagBagBaFMkCLFcBgGDugIocINqoLBlp",
       "XyDQwUwCFyHHzfGFg"]),
    ("bidic bidicontrol",
      ["CIebJVlcBafCde"]),
    ("bidim bidimirrored",
      ["BocsbbbBcbbbBdbbbBtbpbFMseCUncDQqckcCccocGvbHkedgdbdcdebebbbbejfbbsfejcbbbibBgcefbjcctfc",
       "jfcceycqieuchcBPtoCwbcebcbdfefddoPnwcgboibhgdbefbccfebbdcckgccmtbecbbbcbbefcgdyclceebccc",
       "eBrcibBofbbbdffdebdfbbJwbTvedcbcocckBriQlkciCXBxgfcGgcsbbbBcbbbBdbbbbcbcDDPnbCfbCfbCfbCf",
       "b"]),
    ("ci caseignorable",
      ["BnbgblbBjbbbCtbebbbebccTjHkecebjcbbJrhHzbfbBxBtbbbcbcbbBsblgklbbBjbkvqbDxibkbeBhbbbBeBbD",
       "nlCglebcbyyBrdBsbhcfjBpCgCdbbbeiebdhkcnbpbCgbeeibucBabccCfbececcddbBecdblcCfbefbcebucwgb",
       "bCgbcbbeibhclcBebCjbmbBybdbCdbbdfdbehclcBdbCgbcbgbfcucBccCfceeibucBdbCubhdbbDmbchljDubcj",
       "jbbhCvcBbbbbbbCdobfbcflbBkjbDyebgbccczcedqenbccgbpbDqbXkdBKkdBdcBecBecCmcbhibcldbfbBtfBz",
       "bCncBibEodecjbgdIlccbCgbbhbbbbcigkcbBnbiBfBxeBwbbfbbfbBojmcBgeccbdCebbcdbbdCgiccCmgDedbn",
       "bhebgbdcByClnbBiDxRdbbdldndndncmfickbcbcfBxfbkbbnbqnBzBhEJrcEjdEvbpbDsBgBvbSbbBkedffbDpg",
       "DpdBQBubBWcgKkbDuebkbbBceDccoBiDabxdDzddcibdbebzcfbFvcBasnbBmizlBudBwbceccrbvcCogccccmbi",
       "bBjblbBzbbdccfcbbBbbocfcbbDwfjdErbcbebBAYybFrrWbqdbmqBibcbGnbhbgblbBjbbbBvbBtcCpbvdTtbIs",
       "bFtfBNpgbBqbjWkdbcfeBodebGjcWbeBmbBafbbMdcDbeCslBxeEtbCcpBpbcckdBxecccbebkbBydBkfbiCkbmc",
       "CajkecbDrdcbbcgbcbGbbdivcCfcdbBlhdfCsgnbbbbbocDhicdbbxbDggbbecbcJeegcbcBbcDhicbbcEcbbbcg",
       "bbDxbbbcebfJzjbcJwcbbebFoeccebBgkBogceibjgcdBunbcPqhbgbbDewchbcbcEsgdbbcbhbbCucdbbbNjclc",
       "CaffbbbxbHXdrgpQYymddDSafChhjeTodBocSobClrCmcbcYGpebhbcEUgcbeGYuBucxUydjqchBeeFsdCYdCdeB",
       "yibobwfbpCAihbrchbcbffCkBhbGeoOebCjeTnfJucBCihEfiEBffBSXXpbBeDsEyJg"]),
    ("cased",
      ["CnBagBaBvbkbebfxbBfbHnbeeIabBkhcBefDsbBqecccebbgbbdbbbubDfbFjiGkbBmjBpEFfBmbbfbcBrbeZwDi",
       "cgDFulfBrcdCmHkCmKscgcBmcgcibbbbbbbBfcCbbhbbddbhdecgenfdbhEmbnbqnDxbebckbbdfgbbbbbbebgeb",
       "ceffebrBgdcBFlCaCRuIvgedcmBmbbfbBTWcBusBeFcDydebCkccbbbivfbdBFpBrbogDcBAZohmfBNtBagBaBTt",
       "DcDsBkeBkEmlbpbhbcblbpbhbcRjbcdbBqbjBUzBznBzDpwkwEFiCmBGIqCmBMLkDhbCtbccbcccebmbbbhbCnbe",
       "cibhbBcbebfbbdhbNcczbzbBfbzbBfbzbBfbzbBfbzbiCSykbuggKbCkDGkCqDAaBagBagBa"]),
    ("cwcf changeswhencasefolded",
      ["CnBaDmbkxbiBgbbbbbbbbbbbbbbbbbbbbbbbbbbbbbbbbbbbbbbbbbbbbbbbbbbbbbbbcbbbbbbbbbbbbbbbbcbb",
       "bbbbbbbbbbbbbbbbbbbbbbbbbbbbbbbbbbbbbbbbbbbcbbbbbbbcbbbcbdcebcbddcbcbbbbbcbbcbbcbdbbbcdb",
       "hcbcbcbbbbbbbbbbbbbbbbcbbbbbbbbbbbbbbbbbccbbbdbbbbbbbbbbbbbbbbbbbbbbbbbbbbbbbbbbbbbbbbbb",
       "bbbbbbbbbbbbbbbbhcbccbbebbbbbbbbJmbBqbbbdbibgbbdbbbcbrbjwbmddcbbbbbbbbbbbbbbbbbbbbbbbbbc",
       "ccbbbccBzBwbbbbbbbbbbbbbbbbbbbbbbbbbbbbbbbbbjbbbbbbbbbbbbbbbbbbbbbbbbbbbbbbbbbbbbbbbbbbb",
       "bbbbbbbbbbbcbbbbbbbbbbbbcbbbbbbbbbbbbbbbbbbbbbbbbbbbbbbbbbbbbbbbbbbbbbbbbbbbbbbbbbbbbbbb",
       "bbbbbbbbbbbbbbbbbbbbbbbbbbbbbbbbcBmBwbEFgBmbbfbBFegDFukgBrcdMibbbbbbbbbbbbbbbbbbbbbbbbbb",
       "bbbbbbbbbbbbbbbbbbbbbbbbbbbbbbbbbbbbbbbbbbbbbbbbbbbbbbbbbbbbbbbbbbbbbbbbbbbbbbbbbbbbbbbb",
       "bbbbbbbbbbbbbbbbbbbbbbbbbbbbbbbbbbbfccbbbbbbbbbbbbbbbbbbbbbbbbbbbbbbbbbbbbbbbbbbbbbbbbbb",
       "bbbbbbbbbbbbbbbbbbbbbbbbbbbbbbbbbbbbbbbbbbbbbbbjiigkiiiiglbbbbbbbiiqBwcdcgfdcglemffdcgLl",
       "bdcgbBtqtbBFmBaCSuBwBwbbdcbbbbbbebbcbidbbbbbbbbbbbbbbbbbbbbbbbbbbbbbbbbbbbbbbbbbbbbbbbbb",
       "bbbbbbbbbbbbbbbbbbbbbbbbbbbbbbbbbbbbbbbbbbbbbbbbbibbbebBTYjbbbbbbbbbbbbbbbbbbbbbbbbbbbbb",
       "bbbbbbbbbbbbbbbbtbbbbbbbbbbbbbbbbbbbbbbbbbbbFfbbbbbbbbbbbbbdbbbbbbbbbbbbbbbbbbbbbbbbbbbb",
       "bbbbbbbbbbbbbbbbbbbbbbbbbbbbbbbbbkbbbbcbbbbbbbbebbbcbbbdbbbbbbbbbbbbbbbbbbbbfbfbbbbbbbbb",
       "bbbbbbebbbcdbfbbbbbbbybBIgDcBAZohmfBNtBaBUzBoFgBkGalbpbhbcCQcBzGbwEGoBgBGJwBgBULkBi"]),
    ("cwcm changeswhencasemapped",
      ["CnBagBaCgbkxbBfbCmbDgbBccoccbbeDpbsgBbbcbbbcdcbebfcbbccbhbcbbcdgfbkcGkbBqeccddbbgbbdbbbu",
       "bBvdBhbfbFdiGkbBmkBnEFgBmbbfbcBrcdZwDicgDFulfBrcdHdbdbqbEjGacbbEocgcBmcgcibbbbbbbBfcCbbh",
       "bbddbhdecgenfdbhLlbdcgbBbbrBgdcBFlCaCRuEjbcbchDyhedcmBmbbfbBTWcBusBcFeocCkjpddcfbzbBecce",
       "hycBHcbBcDcBAZohmfBNtBagBaBTtDcDsBkeBkEmlbpbhbcblbpbhbcCOpBznBzDpwkwEFiCmBGIqCmBUKeCq"]),
    ("cwl changeswhenlowercased",
      ["CnBaDxxbhBhbbbbbbbbbbbbbbbbbbbbbbbbbbbbbbbbbbbbbbbbbbbbbbbbbbbbbbbcbbbbbbbbbbbbbbbcbbbbb",
       "bbbbbbbbbbbbbbbbbbbbbbbbbbbbbbbbbbbbbbbbbcbbbbdcbbbcbdcebcbddcbcbbbbbcbbcbbcbdbbbcdbhcbc",
       "bcbbbbbbbbbbbbbbbbcbbbbbbbbbbbbbbbbbccbbbdbbbbbbbbbbbbbbbbbbbbbbbbbbbbbbbbbbbbbbbbbbbbbb",
       "bbbbbbbbbbbbhcbccbbebbbbbbbbLdbbbdbibgbbdbbbcbrbjBjbibbbbbbbbbbbbbbbbbbbbbbbfbcbbccBzBwb",
       "bbbbbbbbbbbbbbbbbbbbbbbbbbbbbbbbjbbbbbbbbbbbbbbbbbbbbbbbbbbbbbbbbbbbbbbbbbbbbbbbbbbbbbbc",
       "bbbbbbbbbbbbcbbbbbbbbbbbbbbbbbbbbbbbbbbbbbbbbbbbbbbbbbbbbbbbbbbbbbbbbbbbbbbbbbbbbbbbbbbb",
       "bbbbbbbbbbbbbbbbbbbbcBmEHdBmbbfbBBuDiDGlbgBrcdMibbbbbbbbbbbbbbbbbbbbbbbbbbbbbbbbbbbbbbbb",
       "bbbbbbbbbbbbbbbbbbbbbbbbbbbbbbbbbbbbbbbbbbbbbbbbbbbbbbbbbbbbbbbbbbbbbbbbbbbbbbbbbbbbbbbb",
       "bbbbbbbbbbbbbbbbbbbbbjbbbbbbbbbbbbbbbbbbbbbbbbbbbbbbbbbbbbbbbbbbbbbbbbbbbbbbbbbbbbbbbbbb",
       "bbbbbbbbbbbbbbbbbbbbbbbbbbbbbbbjiigkiiiiglbbbbbbbiiyiiiiiiflflemflfLlbdcgbBtqtbBFmBaCSuB",
       "wBwbbdcbbbbbbebbcbidbbbbbbbbbbbbbbbbbbbbbbbbbbbbbbbbbbbbbbbbbbbbbbbbbbbbbbbbbbbbbbbbbbbb",
       "bbbbbbbbbbbbbbbbbbbbbbbbbbbbbbibbbebBTYjbbbbbbbbbbbbbbbbbbbbbbbbbbbbbbbbbbbbbbbbbbbbbtbb",
       "bbbbbbbbbbbbbbbbbbbbbbbbbFfbbbbbbbbbbbbbdbbbbbbbbbbbbbbbbbbbbbbbbbbbbbbbbbbbbbbbbbbbbbbb",
       "bbbbbbbbbbbbbbkbbbbcbbbbbbbbebbbcbbbdbbbbbbbbbbbbbbbbbbbbfbfbbbbbbbbbbbbbbbebbbcdbfbbbbb",
       "bbybBDZnBaBUzBoFgBkGalbpbhbcCQcBzGbwEGoBgBGJwBgBULkBi"]),
    ("cwt changeswhentitlecased",
      ["DtBaCgbBpybibbbbbbbbbbbbbbbbbbbbbbbbbbbbbbbbbbbbbbbbbbbbbbbbbbbbbbbbcbbbbbbbbbbbbbbcbbbb",
       "bbbbbbbbbbbbbbbbbbbbbbbbbbbbbbbbbbbbbbbbbbcbbbbdcbbbcbdbfbcbddcbcbbbbbcbebcbdbbbcbdbbbeb",
       "bcbcbbbbbbbbbbbbbbbbbcbbbbbbbbbbbbbbbbbdbbbbdbbbbbbbbbbbbbbbbbbbbbbbbbbbbbbbbbbbbbbbdbbb",
       "bbbbbbbbbbbbbbibccbbebbbbbbbbgbcbbbcdcbebfcbbccbhbcbbcdgfbkcGkbBrbbbdbddsbBbBjbcddbbbbbb",
       "bbbbbbbbbbbbbbbbbfbbcbcbCaBwbbbbbbbbbbbbbbbbbbbbbbbbbbbbbbbbbbjbbbbbbbbbbbbbbbbbbbbbbbbb",
       "bbbbbbbbbbbbbbbbbbbbbbbbbbbbcbbbbbbbbbbbbcbbbbbbbbbbbbbbbbbbbbbbbbbbbbbbbbbbbbbbbbbbbbbb",
       "bbbbbbbbbbbbbbbbbbbbbbbbbbbbbbbbbbbbbbbbbbbbbbbbbbBxBnFMegDFujbbJebdbqbEkbbbbbbbbbbbbbbb",
       "bbbbbbbbbbbbbbbbbbbbbbbbbbbbbbbbbbbbbbbbbbbbbbbbbbbbbbbbbbbbbbbbbbbbbbbbbbbbbbbbbbbbbbbb",
       "bbbbbbbbbbbbbbbbbbbbbbbbbbbbbbbbbbbbbbbbbbbbbhfbbbbbbbbbbbbbbbbbbbbbbbbbbbbbbbbbbbbbbbbb",
       "bbbbbbbbbbbbbbbbbbbbbbbbbbbbbbbbbbbbbbbbbbbbbbbbbbbbbjigkiiiigkiiiiociiiiiifbcgbddbciecc",
       "iikdbcNebBhqebBGlBaCTqBwbbdcbbbbbbgbcbkbbbbbbbbbbbbbbbbbbbbbbbbbbbbbbbbbbbbbbbbbbbbbbbbb",
       "bbbbbbbbbbbbbbbbbbbbbbbbbbbbbbbbbbbbbbbbbbbbbbbbbbibbbebmBmbbfbBTWdbbbbbbbbbbbbbbbbbbbbb",
       "bbbbbbbbbbbbbbbbbbbbbbbbtbbbbbbbbbbbbbbbbbbbbbbbbbbbFfbbbbbbbbbbbbbdbbbbbbbbbbbbbbbbbbbb",
       "bbbbbbbbbbbbbbbbbbbbbbbbbbbbbbbbbbbbbbbbbkbbbcbbbbbbbbbebebbccbbbbbbbbbbbbbbbbbbblbbbbbb",
       "bbbbbbbbbebbbcbdbfbbbbbBabBHcbBcDcBAZohmfBOzBaBVhBoFgBkFzlbpbhbcCRbBzEvwEGoBgBGJwBgBULmB",
       "i"]),
    ("cwu changeswhenuppercased",
      ["DtBaCgbBpybibbbbbbbbbbbbbbbbbbbbbbbbbbbbbbbbbbbbbbbbbbbbbbbbbbbbbbbbcbbbbbbbbbbbbbbcbbbb",
       "bbbbbbbbbbbbbbbbbbbbbbbbbbbbbbbbbbbbbbbbbbcbbbbdcbbbcbdbfbcbddcbcbbbbbcbebcbdbbbcbdbbbfc",
       "bcbcbbbbbbbbbbbbbbbcbbbbbbbbbbbbbbbbbcbcbbdbbbbbbbbbbbbbbbbbbbbbbbbbbbbbbbbbbbbbbbdbbbbb",
       "bbbbbbbbbbbbibccbbebbbbbbbbgbcbbbcdcbebfcbbccbhbcbbcdgfbkcGkbBrbbbdbddsbBbBjbcddbbbbbbbb",
       "bbbbbbbbbbbbbbbfbbcbcbCaBwbbbbbbbbbbbbbbbbbbbbbbbbbbbbbbbbbbjbbbbbbbbbbbbbbbbbbbbbbbbbbb",
       "bbbbbbbbbbbbbbbbbbbbbbbbbbcbbbbbbbbbbbbcbbbbbbbbbbbbbbbbbbbbbbbbbbbbbbbbbbbbbbbbbbbbbbbb",
       "bbbbbbbbbbbbbbbbbbbbbbbbbbbbbbbbbbbbbbbbbbbbbbbbBxBnEHcBrcdBDggDFujbbJebdbqbEkbbbbbbbbbb",
       "bbbbbbbbbbbbbbbbbbbbbbbbbbbbbbbbbbbbbbbbbbbbbbbbbbbbbbbbbbbbbbbbbbbbbbbbbbbbbbbbbbbbbbbb",
       "bbbbbbbbbbbbbbbbbbbbbbbbbbbbbbbbbbbbbbbbbbbbbbbbbbhfbbbbbbbbbbbbbbbbbbbbbbbbbbbbbbbbbbbb",
       "bbbbbbbbbbbbbbbbbbbbbbbbbbbbbbbbbbbbbbbbbbbbbbbbbbbbbbbbbbjigkiiiigkiiiiocCbbcebbbddbceb",
       "decciikdbcebMzbBhqebBGlBaCTqBwbbdcbbbbbbgbcbkbbbbbbbbbbbbbbbbbbbbbbbbbbbbbbbbbbbbbbbbbbb",
       "bbbbbbbbbbbbbbbbbbbbbbbbbbbbbbbbbbbbbbbbbbbbbbbbbbbbbbbbibbbebmBmbbfbBTWdbbbbbbbbbbbbbbb",
       "bbbbbbbbbbbbbbbbbbbbbbbbbbbbbbtbbbbbbbbbbbbbbbbbbbbbbbbbbbFfbbbbbbbbbbbbbdbbbbbbbbbbbbbb",
       "bbbbbbbbbbbbbbbbbbbbbbbbbbbbbbbbbbbbbbbbbbbbbbbkbbbcbbbbbbbbbebebbccbbbbbbbbbbbbbbbbbbbl",
       "bbbbbbbbbbbbbbbebbbcbdbfbbbbbBabBHcbBcDcBAZohmfBOzBaBVhBoFgBkFzlbpbhbcCRbBzEvwEGoBgBGJwB",
       "gBULmBi"]),
    ("dash",
      ["BtbCAubBzbFKjbBNpbDBdgCjbBnbpbPabEOibcbBfcebBcbRebtbEhbCWVgcBlbkbGnbFLobMgb"]),
    ("di defaultignorablecodepoint",
      ["GrbZxbBBobEGwcCKhcDhfDApfBafBxqGKybCWLvqJfbGebDbjCTLneHWxiBTKZlGBo"]),
    ("dep deprecated",
      ["MrbBYvbDKtbbbDCjcDIjgBAvcBZOXqb"]),
    ("dia diacritic",
      ["DqbbbCtbgbebccTjGdbifgrcebjcJtfIbbCdrbBbbbbcbbFeiecFececddCpBbDnlCglBicEwiBpkqBcCjbqbdeB",
       "cbCwbqbEgbqbEgbqbBvdCibqbhbEpbEgbqbEgbqbEfcqbEubEhbmgbbEdbnfCxcBbbbbbbecCodbcCkbEibbcBoc",
       "efzhbbkcBBddBKmcBebFsljbNjdLgbuicbBwpclEabpbBmjCccCgblcCocCmgDezebgbcdByClDlmBllRdbbdldn",
       "dndncEXkdMfbTmgEbeDrbBSMkbmcbbBccDecoBiDydEfcmbBlbFvbBbsCfeBkbDrbmbBkbFtdCneBzbDwfjdEycB",
       "AYybBDpqKkbbbBvbBtcCpbBDkbBTngbBqbjYndebGjcVzgBmbBafPjdCslBxeHkbBpbCucEqcCkbCybjdEacGwcD",
       "ccqbyhdfDldbcncDrbdbEtcJrcEwbEocElbKjcJycebGabDfbsbDdbQfbJybbcDdbQjcxbHYapQZpbDSafChhVsc",
       "VarDccYGcebhbcLThBucxUyddgiichBeeFMwCkHmhOlbCjeBDmcBCihEfdbd"]),
    ("emoji",
      ["BjbgbfkEhbebLYrbmbIibwbDmgpcOdcmbGkbzledHrbIxckbjbCgebfjbcbcccbebcbbccbdbdcidfbbbfmlccbb",
       "cbbsbccsgbbbcdcfbcceclcfccbfcbbbcucfgbecbebcbcgbbcbbbbbgbdbgbkcpbcbebbbedbblcBwdjbobobOi",
       "cRvdtcBzbebBVubmbXdbbbGJQwbHubGecmcobckCxBabcxbubcjvcGsBicEiccbdcDfcdbKdbCllgbyhccimbcec",
       "becnccbicjbfdmdidcbbbebgbdbgDiBwCsficdekdbbcdbckItmebKxBvbkbHdEindkfCehpclgj"]),
    ("ecomp emojicomponent",
      ["BjbgbfkMBjbIfbDCSxbDOIwBaTnfCEaeBSVUqDs"]),
    ("emod emojimodifier",
      ["HEIdf"]),
    ("ebase emojimodifierbase",
      ["OLhbIlbqeGPJbbCidcbcdEncclvtdbedbdhbbbybHtcebvbecGsddfDfbqdjblbWdbcbiigbjkcdCebCjcbcbbrd",
       "bnIvdBqj"]),
    ("epres emojipresentation",
      ["NHqcHxedbcbUbcvcBymBrbtbnbicrcfcibfbvbhcbbebcbhbecBcbBjbbbedbbCjdybobBHbcBzbebGMKkbHubHi",
       "bckCxBabbybubcfbdvcGsBhmjbCsbwmBrefmrdbdCtbbbHfcClnebysbBacnbDiDhBwCsgbddcdeelchjItmebKx",
       "BvbkbHdEindkfCehpclgj"]),
    ("extpict extendedpictographic",
      ["GnbebLYrbmbIibwbDmgpcOdcmbDrbCsbzledHrbIxckbjbCgebgbmbEkkEoclbbbbgbdbgbkcpbcbebbbedbblfB",
       "tdjbobobOicRvdtcBzbebBVubmbXdbbbGJQsJwndBfbCigmcobcksCfBbpkbubcjbejQsfMgiKgBwEyEmmDhBrme",
       "CeikgBoiBeDemBvbkbQzJwBNi"]),
    ("ext extender",
      ["HbbUqcBHubQzbYgbFhbDlbBCybExbDNfbCebXnbPibCqbHKjbBrfDzcDpdBQBubCGsbBLabwbFhbEebvcBCZbbDB",
       "kcCFbbBbbebBVbbLhbEmcTedBVjbBEOfcBTkcbbBQYacBUfbBGud"]),
    ("grbase graphemebase",
      ["BgDrBhnbWwEiicgehbbbubIqhGkbBmcBycdBubbbcbcbjBbegrklbbBuvqbDxibgccbeBgcbbBeBdDllboBrjhdy",
       "ebjbdbhpbzfbblfBfrBqCfCdbbbeiebdhkcBdbcbicccwbhbbdedbbcgcccbbncbdeyfbbgeccwbhbcbcbcedyeb",
       "bhkcdbbmbbjbdbwbhbcbfdeibbcdbpcemhbicbicccwbhbcbfdbcbgcccpcbdeslbbgddbedcbbbcdcdddmfbbcd",
       "dbddbvvgdbibdbxbqdbdetdcbccekhkblbdbxbkbfdccbbcycbcekbdolbdbBpcbbcfdbdbcedbkeBaccbsdybjb",
       "bchjcghhkcdmBwbcliinBlcbbbfbybbbkbcjbcfbbjkceBgycBbbbbbbobBksbfbcfBxibgbnBlBtebgbccczced",
       "qenbccgbpbBobbfbcOnbechbbbecBpbecBhbechbbbecpbCfbecCpfBddBagDicgcZtdDlhsntdcjsonbdpCacbh",
       "ibcljdkgkglfkgDlhfcBibbfCskBfeecdecbghbdBqcflBseBagldCfccdCebbjbbcignkgkgoDiBwkedibBdjmc",
       "BgecgCebbcdbbnBwicfpdCkfBrcllbnbhebgbdcbfHkCmKscgcBmcgcibbbbbbbBfcCbbpbocgbtcdbjblfyhBxq",
       "ccBbbndBhClFkeZqwlvCRscBgbNgdcfBtbbfbcCehcpxjhbhbhbhbhbhbhbhBhDqBiBabDlmIgBaCggqbDieDxfB",
       "rbDqbDijBwbBRIrdCdjNkuBvebkBgcDccgiHyccbbbivqbdbebzcfekgCeiCqkmynbBmizlbmBegBwbcecccbnbl",
       "ehbzbBpgcccldbibbckcBgbBzbbdccfcbbbyrcilgcgcgjhbhbCieEnbcbedkgQNsmxeBxJMiOccEcBmhmffbbyb",
       "fbbbcbcbEvqRdcCchbBgqqkwBjbtbeefbFfeGbcBfdgcgcgcddhbhnccmbBabtbcbpcoBiEtfdeBtdDkbndbBvBt",
       "FbBddBxqBbeBkjBefBmkBebBleoBqGcckgBkeBkeBoiCalmbpbhbcblbpbhbcdCamLzjwkiygbBqbjCrgcbbBsbc",
       "dbcxbCuijBwtbcfBhdBbfbCmCeeucBvpebdbBdkjhjhCmBgBlgmjCcdBdcBbfBahemhDcCvCdBznBzhBqmkgBmiy",
       "icIaBfbBqdbccqdChBoiwljwseeBmBcuxjbbCcpheBebccbmBxecccbeozhkjBkfbjsiBjbdlCajbbiecbqbulsb",
       "BcdcegbcClhbbbebpblgBvbdnkicbicccwbhbcbfdbbbbeccccdbmhBckbbcbbBmbbbcpbbcdbbdbcBnCeicdbbv",
       "bbbdBeBwbcgbbcbbcbceikGkBvbcgecbcBbBkBzicbbcelkgntBrbbbcicgkguBcBbdbbcebjxHdBvjbcbDwDfmi",
       "cbcibcbybfbcgebdjkCsicBqiebeBbbkBogceijbgcdBunbcjnCvhkHaBiokgjbBmobbgkBddBgzbhbcbCxhbcbB",
       "mvbjkggbcbBlecbbbbhkLytcejpbBkicdxDibpBynBJnDyEhbflHoDXkDvnBPgrgzFXrfWlKDdBemddkCOsVxhBf",
       "bkeDdbkgBehbkBwhpkkbhbvftQqCgHqDnDxCxfCelnCmeBcJCaiBVqBpkNFrebhbcbLfpbBddcboeiPgDKuEdfnd",
       "jhkcbcbFVkJqgQuGaEmCiJmkBncCifdwchBeeCjvCodbEsumumDjjzFfDhbCtbccbcccebmbbbhbCnbecibhbBcb",
       "ebfbbdhbNccLgcVqCdeByibobhBRwBfggKbCkFqBtkhckecMiBesBsekfbRwBcekIgBeclebSmhbebcbpbHpcjBw",
       "CqhbekecBEfCqCyCjHmebBbbcbbcbbkbebbbbgbebbbbbbdbcbbcbbbbbbbbbbcbbcebhbebebbbkbrfdbfbrCac",
       "KkBseDwmpcpbpbBlkGsCeBdnBsejhcogFyBLwerdndEpeDrgmebpmeCeikgBoiBecmecCkNcmocndkfCehpclgjh",
       "FrbDyBNqCLFcBgGDugIocINqoLBlpXyDQwUwCFyHHzfGFg"]),
    ("grext graphemeextend",
      ["BDoEiKphKdBtbbbcbcbbCulBwvqbDxhcgccbeBjbBeBbDnlCgjjbyebjbdbfBrdChjBqybBgCdbbbeiebdhkcBdb",
       "CgbbbceibjbkcBabccCfbececcddbBecdblcCfbefbcebucwgbbCgbbcbeibhdkcBebChbbbmbjbBobdbCdbbdfd",
       "behclcBdbCgbccbbddbehclcBccCfcbbceibjbkcBdbCubebcdbbibDdbchmiDubcjlhCvcBbbbbbbCdobfbcflb",
       "BkjbDyebgbccczcedqenbccgbpbBBbdBKkeBcdBdcBecCmcbhibcljbBtdbbEncBibEodecjbgdIlccbCgbbhbbb",
       "bcigkcbBwBfBxeBwkedBmjmcBgecgCebbcdbbfCeiccFwdbnbhebgbdcHqCmUebHnBhEOcdFlbDsBgVigEbcBSQe",
       "ebkBgcDccKmbdbebzcfbFvcBasnbBmizlbbBsdBwbcecccbBkbCpgccccmbibBvbBzbbdccfcbbBqcibJebcbebB",
       "AYybBCjqqqOccXhbIsbFtfCMgdbcfeBodebGjcWbeCnfMfcDbeCslBxeEtbCcpBpbcckdBxecchbCjdBkfbiCkbm",
       "cCajbbiecbDrdcegbcbGbbdivcCfcbbbbmbjbohdfCpbcgbbcbbdedbbocDhicdbbxbDdbcgbbcbbcbcJbbcegcb",
       "cBbcDhicbbcEcbbbciDxbbbcebfJzjbcJlbkeebFoeccebBgkBogceibjgcdBunbcPqhbgbbDewchbcbcEsgdbbc",
       "bhbbCucdbbbNjclcCaffdxbHXtbgpQYymddDSafChhBOibCleDdblcBDAxcGYzBucxUwfdgiichBeeFsdCYdCdeB",
       "yibobwfbpCAihbrchbcbfDwbGehOlbCjeToeJucBCihEfhBTCAfDsEyJg"]),
    ("grlink graphemelink",
      ["DNpbExbExbExbExbExbExbExbEfcqbEubEhbExbHtbGycCPlcBebGbbZdbItbDxcCscGQtbBUKkbBlbFvbFmbEeb",
       "LxbJmbBGRxbCHibBpbobCfbErcFjbEmbGybDubEydEjbExbJsbExbEobEmbKjbJzcGfbDfbsbDdbQfbKacDdbQjc",
       "YZcb"]),
    ("hex hexdigit",
      ["BwkhgBagDPKrkhgBag"]),
    ("hyphen",
      ["BtbExbBVwbGZzbDBdcFIbbBClbCWTrbGnbDjb"]),
    ("idsb idsbinaryoperator",
      ["SEacckTdb"]),
    ("idst idstrinaryoperator",
      ["SEcc"]),
    ("idsu idsunaryoperator",
      ["SEoc"]),
    ("idcompatmathcontinue",
      ["GwcfbMAgbdlbpOhbebwbGGIkbzbBfbzbBfbzbBfbzbBfbzb"]),
    ("idcompatmathstart",
      ["MWwbebwbGGIkbzbBfbzbBfbzbBfbzbBfbzb"]),
    ("idc idcontinue",
      ["BwkhBaebbBaBvbkbbbcbfxbBfbRqemofhbbbrEnbccebbgfbbbubDfbFjbfcGkbBmcbgBpiBtbbbcbcbbiBbeeBd",
       "lfCweDybickbtcbqChcDxoCcebcbcBusBcelfybgiCxbEzckbtbicccwbhbbdecjccceibecbfcmkbbbcdbgeccw",
       "bhbcbcbccbbfeccddbhebbhqldbjbdbwbhbcbfckbdbdcbpeckjhbdbicccwbhbcbfcjcccdhdecbfckbbqcbgdd",
       "bedcbbbcdcdddmefddbecbgbokqnbdbxbqcjbdbehcbdcbceckqebibdbxbkbfcjbdbehcgcbeckbdmnbdbBzbdb",
       "ffehfckkgbdbsdybjbbchdbegbbbigkccnCgfpbkBncbbbfbybbbxcfbbbhbkceBgbxcgklbbbbbekbBkeubsbBk",
       "jbCfCwgDacBmbbfbcBrbMvbechbbbecBpbecBhbechbbbecpbCfbecCpcdjjoqqDicgdXwcrbBafCxdlhwjwlumn",
       "bdbcmDgdbecckBhdblgDlhBrfCskBfbmemkBocflBseBaglBlBceClbBdclgknbiobqBxCzdkrjmEmmCeikdBxcl",
       "fBrcdqdbBnfUocgcBmcgcibbbbbbbBfcCbbhbbddbhdecgenfdbhpcBxctbBcbnbqnBznebdmrbebckbbcggbbbb",
       "bbqceffebrBpDZbIvgjmBmbbfbcCehbpyjhbhbhbhbhbhbhbhbBgTxdzpbfcfeDichbDrfBrbDqrBgBwqTsJToCm",
       "BGUfCpBucKjdBcuBwekbElBljcDzcCpccbbbivCcebtCamCskkgydbbBxcBkmBddCnolgBfbCdjockgxdCvydcqc",
       "fkgcgcgjhbhbBrbogEtbcckgQNsmxeBxJMiOccEcBmhmffmbnbfbbbcbcbEeBhNzsCmcCcBomeqqqdcydBgfbFft",
       "khBaebbBakDmdgcgcgcdBjmbBabtbcbpcoBiEtCrCbFgbFaBddBxpbBfBgnBefBrfBecBkeibfBqGcckgBkeBkeB",
       "oiCamlbpbhbcblbpbhbcdCamLzjwkiygbBqbjCrgcbbBsbcdbcxkxjBfCntbckwkBaCsCegcCmebcfibdbBdcdeb",
       "BgBddBdBjibBezCckwktnsEgCvCdBznBznBoikgBmdfbxJqBqbcdcqdCdBhkbiBhBfwBqvBbxjCtBfqjCihbnzhk",
       "gCbbkeeiBkcbjCreebnbbBjsbBlgeCkhbbbebpbkhChfkgebicccwbhbcbfbkcccdcbgbfhchdflkbbcbbBmbkbb",
       "cbbebincBdCxfkeeBeCsbbikGkCccjxgBiCndblkBmCfhkguBcBbcpekghHdChDxCwvicbcibcbBebccjmkCsicB",
       "ucibcBbClibiCwdbsCvHrBhpkgjbBtbjpkyBecwboCvhbcbBsdbbcbjikggbcbBlbcbghkLyxjrbBpdfnlDhbDbB",
       "JmDyEhrHoDXkDtpBPgqwkFXrfWlKDdCgCOsVxhBfbkgDbbkgBecflCdjemkjvftQqBtdkHqCmEyCxeCfhrCmcbcl",
       "coJCaiBVqBpkNFrebhbcbLfpbBddcboeiPgDKuEdfndjhkdcGErkTyBucxUwfdgiichBeeFsdRbDhbCtbccbccce",
       "bmbbbhbCnbecibhbBcbebfbbdhbNcczbzbBfbzbBfbzbBfbzbBfbzbicByTsCdeByibobwfbpBQmBfggIfhbrchb",
       "cbffCkBhbEiBtdockebMjBfrCgScBqIgBrSrhbebcbpbHplhBpCyekBTuebBbbcbbcbbkbebbbbgbebbbbbbdbcb",
       "bcbbbbbbbbbbcbbcebhbebebbbkbrfdbfbrFAakBNqCLFcBgGDugIocINqoLBlpXyDQwUwCFyHHzfGFgBONHgJg"]),
    ("ids idstart",
      ["CnBagBaBvbkbebfxbBfbRqemofhbbbEzfbccebbgbbdbbbubDfbFjiGkbBmcbgBpCtBbeeBtBrBjcbDvbbpchckd",
       "cbqbbBeBdDllbyBhjcebfwebjbdbxzhlfybgrBqCgCcdbsbhkpqeicccwbhbbdedbqbncbdockbigeccwbhbcbcb",
       "cBfebbtdqjbdbwbhbcbfdbsbpcxblicccwbhbcbfdbBecbdpbrbbgddbedcbbbcdcdddmwbCaibdbxbqdbBadcbc",
       "cBebeibdbxbkbfdbBfcbcpcrjbdbBpcbqbfdidygfsdybjbbchCgBwbcmhCgcbbbfbybbbkbcjbcfbbveBgbClib",
       "BkBbfElBrubqgeedbdchdenmbrBmbbfbcBrbMvbechbbbecBpbecBhbechbbbecpbCfbecCpBlqqDicgdXwcrbBa",
       "fCxdlhsntosonbdpCaBjbebCpDlhBpbbfCskBfBxBecflBseBaCcxjCbDebDpBvriCcBenckBsBaBkBpdkBkclfB",
       "rcdBpebgbcdbfHkCmKscgcBmcgcibbbbbbbBfcCbbhbbddbhdecgenfdbhEmbnbqnDxbebckbbcggbbbbbbqceff",
       "ebrBpDZbIvgedcmBmbbfbcCehbqxjhbhbhbhbhbhbhbhVedzjhfcfeDiefbDmbefBrbDqrBgBwqTsJToCmBGUfCp",
       "BucKjdqkcuBvqBfcDcBnjcDzcCpccbbbivqbdbebxBdCaoByCkgdbbclBckxzBdhBvBcbqfbkkfbBpxdbiuxdbdB",
       "ybbdccfcbbbydclhdmgcgcgjhbhbBrbogElBdQNsmxeBxJMiOccEcBmhmffbbkbnbfbbbcbcbEeBhNzsCmcCcBom",
       "EmfbFfBkBagBalDldgcgcgcdBjmbBabtbcbpcoBiEtCrCbKhBddBxBvBgnBefBmkBecBkeibfBqGcsBkeBkeBoiC",
       "amlbpbhbcblbpbhbcdCamLzjwkiygbBqbjCrgcbbBsbcdbcxkxjBfCntbckwkBaCsCegcCmbpebdbBdBqBddBdBj",
       "ibBcBbCckwktnsEgCvCdBznBznBkBmBcjxJqBqgcqdChBdkbiwBqsBuvBbxmCbCfccbnBtBgzBaBkBdbcbiBjdbm",
       "BwoevbbbBjsbztcClhbbbebpbkhBvBmicccwbhbcbfdbsbmfBekbbcbbBmbbzbbbBsCbseudBeBwucbbHcBvBpeB",
       "kBwubChBrnbCtBbBlhHdBsEmCmBficbcibcbypbbbDqicBnqbbbBcbkBohbvblButbsCvHrBhBfjbBlrbBxBeEih",
       "bcbBmvbzgbcbBgobMptpbbnbBiEubDbBJmDyEhrHoDXkDtpBPgrgzFXrfWlKDdBeCPuVxhBfrDbrBesBwqeBfvft",
       "QqBtIdCmEyCxfbConCmcbbBcJCaiBVqBpkNFrebhbcbLfpbBddcboeiPgDKuEdfndjhkIWkDhbCtbccbcccebmbb",
       "bhbCnbecibhbBcbebfbbdhbNcczbzbBfbzbBfbzbBfbzbBfbzbiCSyBfggKbCkFqBtkhqbMjBesBsSqBcIuBecbT",
       "bhbebcbpbHpChCqhbBUiebBbbcbbcbbkbebbbbgbebbbbbbdbcbbcbbbbbbbbbbcbbcebhbebebbbkbrfdbfbrGO",
       "aCLFcBgGDugIocINqoLBlpXyDQwUwCFyHHzfGFg"]),
    ("ideo ideographic",
      ["SEwczjodBLdJToCmBFBkBERoOccEcBSIkbBbJCaiBVqBpkNUlPgBDEiCLFcBgGDugIocINqoLBlpXyDQwUwCFyHH",
       "zfGFg"]),
    ("joinc joincontrol",
      ["MDoc"]),
    ("loe logicalorderexception",
      ["FKifEtfEDsdcbCCXmccbbc"]),
    ("lower lowercase",
      ["DtBaBvbkbebBkybibbbbbbbbbbbbbbbbbbbbbbbbbbbbbbbbbbbbbbbbbbbbbbbbbbbbbbbcbbbbbbbbbbbbbbbc",
       "bbbbbbbbbbbbbbbbbbbbbbbbbbbbbbbbbbbbbbbbbbbbbbcbbbbdcbbbcbdcebcbddcbcbbbbbcbbcbbcbdbbbcc",
       "cdgbcbcbbbbbbbbbbbbbbbbcbbbbbbbbbbbbbbbbbccbbbdbbbbbbbbbbbbbbbbbbbbbbbbbbbbbbbbbbbbbbbbb",
       "bbbbbbbbbbbbbbbbbhcbccbbebbbbbbbbCrbBkhcBefDsbBrbbbdbcesbBbBjbcddbbbbbbbbbbbbbbbbbbbbbbb",
       "fbbcbccBzBwbbbbbbbbbbbbbbbbbbbbbbbbbbbbbbbbbbjbbbbbbbbbbbbbbbbbbbbbbbbbbbbbbbbbbbbbbbbbb",
       "bbbbbbbbbbbcbbbbbbbbbbbbcbbbbbbbbbbbbbbbbbbbbbbbbbbbbbbbbbbbbbbbbbbbbbbbbbbbbbbbbbbbbbbb",
       "bbbbbbbbbbbbbbbbbbbbbbbbbbbbbbbbbBwBpEHbBrbeBDggDFujbbEnHkCnbbbbbbbbbbbbbbbbbbbbbbbbbbbb",
       "bbbbbbbbbbbbbbbbbbbbbbbbbbbbbbbbbbbbbbbbbbbbbbbbbbbbbbbbbbbbbbbbbbbbbbbbbbbbbbbbbbbbbbbb",
       "bbbbbbbbbbbbbbbbbbbbbbbbbbbbbbbbjbbbbbbbbbbbbbbbbbbbbbbbbbbbbbbbbbbbbbbbbbbbbbbbbbbbbbbb",
       "bbbbbbbbbbbbbbbbbbbbbbbbbbbbbbbbbbbbbbbbbbjigkiiiigkiiiiociiiiiifbcgbddbciecciikdbcErbnb",
       "qnEfbdcdbBbbebebccieebBhqebBGlBaCTqBwbbdcbbbbbbebbcbidbbbbbbbbbbbbbbbbbbbbbbbbbbbbbbbbbb",
       "bbbbbbbbbbbbbbbbbbbbbbbbbbbbbbbbbbbbbbbbbbbbbbbbbbbbbbbbbbbbbbbbchbbbebmBmbbfbBTWdbbbbbb",
       "bbbbbbbbbbbbbbbbbbbbbbbbbbbbbbbbbbbbbbbtbbbbbbbbbbbbbbbbbbbbbbbbbbdFdbbbbbbbbbbbbdbbbbbb",
       "bbbbbbbbbbbbbbbbbbbbbbbbbbbbbbbbbbbbbbbbbbbbbbbbbbbbbbbkbbbbcbbbbbbbbbebbbcbbdbbbbbbbbbb",
       "bbbbbbbbbbfbfbbbbbbbbbbbbbbbebbbcbdbbbbbbbbbbbwdbbbdBFpBrbogDcBAZohmfBOzBaBVhBoFgBkFzlbp",
       "bhbcRjbcdbBqbjBXlBzEvwEGoBgBGJwBgBMMkBaBahbsBaBaBaebbbhblBaBaBaBaBaBaBaBaBaBaBaBaBaBaBaB",
       "aBaBcBczbgBazbgBazbgBazbgBazbgbbCSykbuggKbCkDHsBi"]),
    ("math",
      ["BrbqdBfbBdbbbBtbebBlbBfbBCadcbBaccdUhdJWnbBbdlbdbnboevflfCnnebdcefsbebckbbcggbdcccbdbgdo",
       "bbCqybgbceceBgbbgcoKiieucDmbBeBbbbyblhRdcmkegecccdfobbbcglifcCfbbbBdejdMyCmJwTsBwvcgCXRw",
       "bBFrgbbGgbqdBdbbbBdbbbFbbgeFEfcCXDwDhbCtbccbcccebmbbbhbCnbecibhbBcbebfbbdhbNccLgcByIIqeb",
       "BbbcbbcbbkbebbbbgbebbbbbbdbcbbcbbbbbbbbbbcbbcebhbebebbbkbrfdbfbrCac"]),
    ("mcm modifiercombiningmark",
      ["CKiccbFbbgbdcSncbddbBfb"]),
    ("nchar noncharactercodepoint",
      ["DPCiBgUgcDSYocDSYocDSYocDSYocDSYocDSYocDSYocDSYocDSYocDSYocDSYocDSYocDSYocDSYocDSYocDSYo"]),
    ("oalpha otheralphabetic",
      ["BGfbBdnWeobbbcbcbbCulBwnbhqbDxheeccebBjbBeqDylDxcdjbdbeEcbCimdhguCcccpbcfdkcBddCghcccckb",
       "kcBddCgfecccebBecdbldCgibdbcvcwdedCghccccjckcBebChfddbdkbBofCfhbdbdiclcBddCghbdbdiclcpbm",
       "eCghbdbdkbkcBddCxgbbbiscCjbchsbDvbcgbcqbGhtjlbBkEgmbbcexeedbdchdenmbbkeCLocBecBecBecCotH",
       "gcBibEomejIofCfkcuCwcldBxfBwpCidBejccCflBytPwBiCOnCaDKgBgBTQaiBicNqbibxfDkcByqbbCfbBmfBc",
       "mBteBwmBlbCpombicBtdBybbdccfbBsffbJdiBAZbbDEdfCMgdbcfeBEieCnbMjcDbbJzdCboBtcldBtjjbCjdBk",
       "mscCfdBwnocDojcbgbcbGbkxeCghcccckbkcDgjbbcbbebcDznbdEcsJdhchBdcDepbbEclDzoJxnJngbcccdbbb",
       "FmhcgebBckBqfbeslBuoPribhDfwboEsgdbbcbdbbdbCofbcbeNkejcbbBwhddYYnrFJcbbCdheDpcBDAybNKjhb",
       "rchbcbfDwbDHvbCZwBagBagBa"]),
    ("odi otherdefaultignorablecodepoint",
      ["BGpbFIlcCKhcDHnbGLibCXBvbDbjBWMIhbbBeDsEyJgFIm"]),
    ("ogrext othergraphemeextend",
      ["DRybybNubybDybybIybbbecbcjcDzbybEpbpbDMrbBebBNkbfbbbfcDxbCtcBOibGCvcBTWtbEebBDMrcGWmbEmb",
       "KebobjbDsbjbcbbdfbIqbmbJhbKcbYjbmbCHfbBEOkcBKXncggBTLAzDs"]),
    ("oidc otheridcontinue",
      ["HbbBBrbGAjjCLcbCIzcGKrbCXDpb"]),
    ("oids otheridstart",
      ["JHlcDGjbvbFVwc"]),
    ("olower otherlowercase",
      ["GobpbThjhcBefDsbCabFCzbEPzClnbBiBlBAnbnbqnIdqBGqBaCWocBUGkcIcbEzddcBHiejbBFVybcdbBqbjDDZ",
       "hCk"]),
    ("omath othermath",
      ["DqbBHxdcbBacccKQybBbdlbBgeycocCnnebdcefsbebckbbdfgbdcccbdbgdeffCxfcebcbcbbbfccecesccbbbh",
       "bbgcLeeGmcbbybrbRdcmjfffcccdfobbbcgycCfbbbBdejcNecBfkPnwCleBgcCZKlbbbebIdbbbDCOvDhbCtbcc",
       "bcccebmbbbhbCnbecibhbBcbebfbbdhbNcczbzbBfbzbBfbzbBfbzbBfbzbicByIIqebBbbcbbcbbkbebbbbgbeb",
       "bbbbbdbcbbcbbbbbbbbbbcbbcebhbebebbbkbrfdbfbr"]),
    ("oupper otheruppercase",
      ["MQqqBGgBaGPIeBagBagBa"]),
    ("patsyn patternsyntax",
      ["BhpkhBaebbBaeBihbbbcbbbcebebdbxbBfbLUeyipctbkLtBBsGeYgBeBRoTsEyOvdezpbCWQfcKbc"]),
    ("patws patternwhitespace",
      ["jfsbDwbLYmcyc"]),
    ("pcm prependedconcatenationmark",
      ["CHcgIhbBxbOucDcbDSXebpb"]),
    ("qmark quotationmark",
      ["BibebFbbpbLWuizcFIdbRpendCXAveHhbebDmc"]),
    ("radical",
      ["RPwBabDlmIg"]),
    ("ri regionalindicator",
      ["HDNqBa"]),
    ("sterm sentenceterminal",
      ["BhbmbqbCAbbFrdGybBrdJmbCjbbbdcLhcCPwcBEkbecBDtbHqcGbcBtbfbMccNqeGgckcccBddHfcCncBJwbxcjd",
       "EUxdLubnbwcQnbBSHwbKkcItbdbOscDicDrbFwcFrdFocJpbBCCcbccChbdcGnbmbqbCnbEDwcBXdfBseHhcEneE",
       "xdEzcgbqcDkcbcEebLmcEncOjcfpEbcJpdTxbbbJrcDjcQecBAqcCwcBCMbcFdbCnclbVhcLkbBDOgbLImb"]),
    ("sd softdotted",
      ["EbcHobKvbBebCabubMibDubbbJMnbBzbnbdbFcbGbbQfbIgcEGgbGBKncBycBycBycBycBycBycBycBycBycBycB",
       "ycBycDFybLtcBab"]),
    ("term terminalpunctuation",
      ["BhbkbbblcdbBFybibTtbCfbCubobbdGybBrlbbJbcCcgbiBfbKbcBWucGqbegLzcBEjiBDtbEudCtcGbddbBnecc",
       "MccNqeGgckcbdBddHffCkcBJwbxcjdEUxdLubnbebkbbcdcQmcBSHvcKjdItfOscDicDrbFvdFrdExbqcJpbBCCc",
       "bccCfdbeGnbkbbblcdbCnbcbBPqbBwbBSobHrbLycFwgCqgDleBKqfBseHhhEieExdEzcgbqcDkfEebLmcEndmcN",
       "uedpEbcJpdTxbbbJrcDjcecPydBtbYvcCwcBYxfBAMzcFdbCndkbVhcLjcBDOgbLIle"]),
    ("uideo unifiedideograph",
      ["TSaJToCmBFBkBFBycbbbckbbbbccdDVEcCLFcBgGDugIocINqoLBlpXyGRqHHzfGFg"]),
    ("upper uppercase",
      ["CnBaDxxbhBhbbbbbbbbbbbbbbbbbbbbbbbbbbbbbbbbbbbbbbbbbbbbbbbbbbbbbbbcbbbbbbbbbbbbbbbcbbbbb",
       "bbbbbbbbbbbbbbbbbbbbbbbbbbbbbbbbbbbbbbbbbcbbbbdcbbbcbdcebcbddcbcbbbbbcbbcbbcbdbbbcdbhbcb",
       "cbcbbbbbbbbbbbbbbbcbbbbbbbbbbbbbbbbbcbcbbdbbbbbbbbbbbbbbbbbbbbbbbbbbbbbbbbbbbbbbbbbbbbbb",
       "bbbbbbbbbbbbhcbccbbebbbbbbbbLdbbbdbibgbbdbbbcbrbjBjbcddbbbbbbbbbbbbbbbbbbbbbbbfbcbbccBzB",
       "wbbbbbbbbbbbbbbbbbbbbbbbbbbbbbbbbbjbbbbbbbbbbbbbbbbbbbbbbbbbbbbbbbbbbbbbbbbbbbbbbbbbbbbb",
       "bcbbbbbbbbbbbbcbbbbbbbbbbbbbbbbbbbbbbbbbbbbbbbbbbbbbbbbbbbbbbbbbbbbbbbbbbbbbbbbbbbbbbbbb",
       "bbbbbbbbbbbbbbbbbbbbbbcBmEHdBmbbfbBBuDiDGlbgBrcdMibbbbbbbbbbbbbbbbbbbbbbbbbbbbbbbbbbbbbb",
       "bbbbbbbbbbbbbbbbbbbbbbbbbbbbbbbbbbbbbbbbbbbbbbbbbbbbbbbbbbbbbbbbbbbbbbbbbbbbbbbbbbbbbbbb",
       "bbbbbbbbbbbbbbbbbbbbbbbjbbbbbbbbbbbbbbbbbbbbbbbbbbbbbbbbbbbbbbbbbbbbbbbbbbbbbbbbbbbbbbbb",
       "bbbbbbbbbbbbbbbbbbbbbbbbbbbbbbbbbjiigkiiiiglbbbbbbbiiCuemememfleKcbebddcdcbdfgbbbbbbecek",
       "cfbBaqtbBFmBaCSuBwBwbbdcbbbbbbebbcbidbbbbbbbbbbbbbbbbbbbbbbbbbbbbbbbbbbbbbbbbbbbbbbbbbbb",
       "bbbbbbbbbbbbbbbbbbbbbbbbbbbbbbbbbbbbbbbbbbbbbbbibbbebBTYjbbbbbbbbbbbbbbbbbbbbbbbbbbbbbbb",
       "bbbbbbbbbbbbbbtbbbbbbbbbbbbbbbbbbbbbbbbbbbFfbbbbbbbbbbbbbdbbbbbbbbbbbbbbbbbbbbbbbbbbbbbb",
       "bbbbbbbbbbbbbbbbbbbbbbbbbbbbbbbkbbbbcbbbbbbbbebbbcbbbdbbbbbbbbbbbbbbbbbbbbfbfbbbbbbbbbbb",
       "bbbbebbbcdbfbbbbbbbybBDZnBaBUzBoFgBkGalbpbhbcCQcBzGbwEGoBgBGJwBgBMMqBaBaBaBaBaBabbccbccc",
       "ebiBaBaBacbecibhBbcbebfbbdhBbBaBaBaBaBaBaBaBaBaBaBaBezBhzBhzBhzBhzBhbGNlBiDBiBagBagBa"]),
    ("vs variationselector",
      ["JCtdbbDGBgqBWNKyJg"]),
    ("space wspace whitespace",
      ["jfsbDwbBabIHjbDPnlBdcfbBvbFXwb"]),
    ("xidc xidcontinue",
      ["BwkhBaebbBaBvbkbbbcbfxbBfbRqemofhbbbrEnbcddbbgfbbbubDfbFjbfcGkbBmcbgBpiBtbbbcbcbbiBbeeBd",
       "lfCweDybickbtcbqChcDxoCcebcbcBusBcelfybgiCxbEzckbtbicccwbhbbdecjccceibecbfcmkbbbcdbgeccw",
       "bhbcbcbccbbfeccddbhebbhqldbjbdbwbhbcbfckbdbdcbpeckjhbdbicccwbhbcbfcjcccdhdecbfckbbqcbgdd",
       "bedcbbbcdcdddmefddbecbgbokqnbdbxbqcjbdbehcbdcbceckqebibdbxbkbfcjbdbehcgcbeckbdmnbdbBzbdb",
       "ffehfckkgbdbsdybjbbchdbegbbbigkccnCgfpbkBncbbbfbybbbxcfbbbhbkceBgbxcgklbbbbbekbBkeubsbBk",
       "jbCfCwgDacBmbbfbcBrbMvbechbbbecBpbecBhbechbbbecpbCfbecCpcdjjoqqDicgdXwcrbBafCxdlhwjwlumn",
       "bdbcmDgdbecckBhdblgDlhBrfCskBfbmemkBocflBseBaglBlBceClbBdclgknbiobqBxCzdkrjmEmmCeikdBxcl",
       "fBrcdqdbBnfUocgcBmcgcibbbbbbbBfcCbbhbbddbhdecgenfdbhpcBxctbBcbnbqnBznebdmrbebckbbcggbbbb",
       "bbqceffebrBpDZbIvgjmBmbbfbcCehbpyjhbhbhbhbhbhbhbhbBgTxdzpbfcfeDicccdbDrfBrbDqrBgBwqTsJTo",
       "CmBGUfCpBucKjdBcuBwekbElBljcDzcCpccbbbivCcebtCamCskkgydbbBxcBkmBddCnolgBfbCdjockgxdCvydc",
       "qcfkgcgcgjhbhbBrbogEtbcckgQNsmxeBxJMiOccEcBmhmffmbnbfbbbcbcbEeBhFjgIksCmcCcBokgqqqdcydBh",
       "bbbdbbbbbbbbEwtkhBaebbBakDmdgcgcgcdBjmbBabtbcbpcoBiEtCrCbFgbFaBddBxpbBfBgnBefBrfBecBkeib",
       "fBqGcckgBkeBkeBoiCamlbpbhbcblbpbhbcdCamLzjwkiygbBqbjCrgcbbBsbcdbcxkxjBfCntbckwkBaCsCegcC",
       "mebcfibdbBdcdebBgBddBdBjibBezCckwktnsEgCvCdBznBznBoikgBmdfbxJqBqbcdcqdCdBhkbiBhBfwBqvBbx",
       "jCtBfqjCihbnzhkgCbbkeeiBkcbjCreebnbbBjsbBlgeCkhbbbebpbkhChfkgebicccwbhbcbfbkcccdcbgbfhch",
       "dflkbbcbbBmbkbbcbbebincBdCxfkeeBeCsbbikGkCccjxgBiCndblkBmCfhkguBcBbcpekghHdChDxCwvicbcib",
       "cbBebccjmkCsicBucibcBbClibiCwdbsCvHrBhpkgjbBtbjpkyBecwboCvhbcbBsdbbcbjikggbcbBlbcbghkLyx",
       "jrbBpdfnlDhbDbBJmDyEhrHoDXkDtpBPgqwkFXrfWlKDdCgCOsVxhBfbkgDbbkgBecflCdjemkjvftQqBtdkHqCm",
       "EyCxeCfhrCmcbclcoJCaiBVqBpkNFrebhbcbLfpbBddcboeiPgDKuEdfndjhkdcGErkTyBucxUwfdgiichBeeFsd",
       "RbDhbCtbccbcccebmbbbhbCnbecibhbBcbebfbbdhbNcczbzbBfbzbBfbzbBfbzbBfbzbicByTsCdeByibobwfbp",
       "BQmBfggIfhbrchbcbffCkBhbEiBtdockebMjBfrCgScBqIgBrSrhbebcbpbHplhBpCyekBTuebBbbcbbcbbkbebb",
       "bbgbebbbbbbdbcbbcbbbbbbbbbbcbbcebhbebebbbkbrfdbfbrFAakBNqCLFcBgGDugIocINqoLBlpXyDQwUwCFy",
       "HHzfGFgBONHgJg"]),
    ("xids xidstart",
      ["CnBagBaBvbkbebfxbBfbRqemofhbbbEzfbcddbbgbbdbbbubDfbFjiGkbBmcbgBpCtBbeeBtBrBjcbDvbbpchckd",
       "cbqbbBeBdDllbyBhjcebfwebjbdbxzhlfybgrBqCgCcdbsbhkpqeicccwbhbbdedbqbncbdockbigeccwbhbcbcb",
       "cBfebbtdqjbdbwbhbcbfdbsbpcxblicccwbhbcbfdbBecbdpbrbbgddbedcbbbcdcdddmwbCaibdbxbqdbBadcbc",
       "cBebeibdbxbkbfdbBfcbcpcrjbdbBpcbqbfdidygfsdybjbbchCgBwbbnhCgcbbbfbybbbkbbkbcfbbveBgbClib",
       "BkBbfElBrubqgeedbdchdenmbrBmbbfbcBrbMvbechbbbecBpbecBhbechbbbecpbCfbecCpBlqqDicgdXwcrbBa",
       "fCxdlhsntosonbdpCaBjbebCpDlhBpbbfCskBfBxBecflBseBaCcxjCbDebDpBvriCcBenckBsBaBkBpdkBkclfB",
       "rcdBpebgbcdbfHkCmKscgcBmcgcibbbbbbbBfcCbbhbbddbhdecgenfdbhEmbnbqnDxbebckbbcggbbbbbbqceff",
       "ebrBpDZbIvgedcmBmbbfbcCehbqxjhbhbhbhbhbhbhbhVedzjhfcfeDigdbDmbefBrbDqrBgBwqTsJToCmBGUfCp",
       "BucKjdqkcuBvqBfcDcBnjcDzcCpccbbbivqbdbebxBdCaoByCkgdbbclBckxzBdhBvBcbqfbkkfbBpxdbiuxdbdB",
       "ybbdccfcbbbydclhdmgcgcgjhbhbBrbogElBdQNsmxeBxJMiOccEcBmhmffbbkbnbfbbbcbcbEeBhFjgIksCmcCc",
       "BokEpbbbdbbbbbbbbEwBkBagBalCecBfdgcgcgcdBjmbBabtbcbpcoBiEtCrCbKhBddBxBvBgnBefBmkBecBkeib",
       "fBqGcsBkeBkeBoiCamlbpbhbcblbpbhbcdCamLzjwkiygbBqbjCrgcbbBsbcdbcxkxjBfCntbckwkBaCsCegcCmb",
       "pebdbBdBqBddBdBjibBcBbCckwktnsEgCvCdBznBznBkBmBcjxJqBqgcqdChBdkbiwBqsBuvBbxmCbCfccbnBtBg",
       "zBaBkBdbcbiBjdbmBwoevbbbBjsbztcClhbbbebpbkhBvBmicccwbhbcbfdbsbmfBekbbcbbBmbbzbbbBsCbseud",
       "BeBwucbbHcBvBpeBkBwubChBrnbCtBbBlhHdBsEmCmBficbcibcbypbbbDqicBnqbbbBcbkBohbvblButbsCvHrB",
       "hBfjbBlrbBxBeEihbcbBmvbzgbcbBgobMptpbbnbBiEubDbBJmDyEhrHoDXkDtpBPgrgzFXrfWlKDdBeCPuVxhBf",
       "rDbrBesBwqeBfvftQqBtIdCmEyCxfbConCmcbbBcJCaiBVqBpkNFrebhbcbLfpbBddcboeiPgDKuEdfndjhkIWkD",
       "hbCtbccbcccebmbbbhbCnbecibhbBcbebfbbdhbNcczbzbBfbzbBfbzbBfbzbBfbzbiCSyBfggKbCkFqBtkhqbMj",
       "BesBsSqBcIuBecbTbhbebcbpbHpChCqhbBUiebBbbcbbcbbkbebbbbgbebbbbbbdbcbbcbbbbbbbbbbcbbcebhbe",
       "bebbbkbrfdbfbrGOaCLFcBgGDugIocINqoLBlpXyDQwUwCFyHHzfGFg"])]

def property? (name : String) : Option CharSet := properties.find? name

end SheetTables.Unicode
