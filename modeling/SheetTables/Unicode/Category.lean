import SheetTables.Unicode.CharSet

/-! # General categories

The general category of every character, after edition 16 of the standard, and the groups of
categories that have a name. Names are written as they are compared: in lower case and without
separators, the names of one category side by side.
-/

namespace SheetTables.Unicode

/-- Every category with its names and the runs of its characters. -/
def categories : NamedSets :=
  [
    ("lu uppercaseletter",
      ["CnBaDxxbhBhbbbbbbbbbbbbbbbbbbbbbbbbbbbbbbbbbbbbbbbbbbbbbbbbbbbbbbbcbbbbbbbbbbbbbbbcbbbbb",
       "bbbbbbbbbbbbbbbbbbbbbbbbbbbbbbbbbbbbbbbbbcbbbbdcbbbcbdcebcbddcbcbbbbbcbbcbbcbdbbbcdbhbcb",
       "cbcbbbbbbbbbbbbbbbcbbbbbbbbbbbbbbbbbcbcbbdbbbbbbbbbbbbbbbbbbbbbbbbbbbbbbbbbbbbbbbbbbbbbb",
       "bbbbbbbbbbbbhcbccbbebbbbbbbbLdbbbdbibgbbdbbbcbrbjBjbcddbbbbbbbbbbbbbbbbbbbbbbbfbcbbccBzB",
       "wbbbbbbbbbbbbbbbbbbbbbbbbbbbbbbbbbjbbbbbbbbbbbbbbbbbbbbbbbbbbbbbbbbbbbbbbbbbbbbbbbbbbbbb",
       "bcbbbbbbbbbbbbcbbbbbbbbbbbbbbbbbbbbbbbbbbbbbbbbbbbbbbbbbbbbbbbbbbbbbbbbbbbbbbbbbbbbbbbbb",
       "bbbbbbbbbbbbbbbbbbbbbbcBmEHdBmbbfbBBuDiDGlbgBrcdMibbbbbbbbbbbbbbbbbbbbbbbbbbbbbbbbbbbbbb",
       "bbbbbbbbbbbbbbbbbbbbbbbbbbbbbbbbbbbbbbbbbbbbbbbbbbbbbbbbbbbbbbbbbbbbbbbbbbbbbbbbbbbbbbbb",
       "bbbbbbbbbbbbbbbbbbbbbbbjbbbbbbbbbbbbbbbbbbbbbbbbbbbbbbbbbbbbbbbbbbbbbbbbbbbbbbbbbbbbbbbb",
       "bbbbbbbbbbbbbbbbbbbbbbbbbbbbbbbbbjiigkiiiiglbbbbbbbiiCuemememfleKcbebddcdcbdfgbbbbbbecek",
       "cfbCjbDZgBwBwbbdcbbbbbbebbcbidbbbbbbbbbbbbbbbbbbbbbbbbbbbbbbbbbbbbbbbbbbbbbbbbbbbbbbbbbb",
       "bbbbbbbbbbbbbbbbbbbbbbbbbbbbbbbbbbbbbbbbibbbebBTYjbbbbbbbbbbbbbbbbbbbbbbbbbbbbbbbbbbbbbb",
       "bbbbbbbtbbbbbbbbbbbbbbbbbbbbbbbbbbbFfbbbbbbbbbbbbbdbbbbbbbbbbbbbbbbbbbbbbbbbbbbbbbbbbbbb",
       "bbbbbbbbbbbbbbbbbbbbbbbbkbbbbcbbbbbbbbebbbcbbbdbbbbbbbbbbbbbbbbbbbbfbfbbbbbbbbbbbbbbbebb",
       "bcdbfbbbbbbbybBDZnBaBUzBoFgBkGalbpbhbcCQcBzGbwEGoBgBGJwBgBMMqBaBaBaBaBaBabbccbcccebiBaBa",
       "BacbecibhBbcbebfbbdhBbBaBaBaBaBaBaBaBaBaBaBaBezBhzBhzBhzBhzBhbGNlBi"]),
    ("ll lowercaseletter",
      ["DtBaCgbBpybibbbbbbbbbbbbbbbbbbbbbbbbbbbbbbbbbbbbbbbbbbbbbbbbbbbbbbbcbbbbbbbbbbbbbbbcbbbb",
       "bbbbbbbbbbbbbbbbbbbbbbbbbbbbbbbbbbbbbbbbbbcbbbbdcbbbcbdcebcbddcbcbbbbbcbbcbbcbdbbbcccdgb",
       "cbcbbbbbbbbbbbbbbbbcbbbbbbbbbbbbbbbbbccbbbdbbbbbbbbbbbbbbbbbbbbbbbbbbbbbbbbbbbbbbbbbbbbb",
       "bbbbbbbbbbbbbhcbccbbebbbbbbbbCrbBbHlbbbdbddsbBbBjbcddbbbbbbbbbbbbbbbbbbbbbbbfbbcbccBzBwb",
       "bbbbbbbbbbbbbbbbbbbbbbbbbbbbbbbbbjbbbbbbbbbbbbbbbbbbbbbbbbbbbbbbbbbbbbbbbbbbbbbbbbbbbbbc",
       "bbbbbbbbbbbbcbbbbbbbbbbbbbbbbbbbbbbbbbbbbbbbbbbbbbbbbbbbbbbbbbbbbbbbbbbbbbbbbbbbbbbbbbbb",
       "bbbbbbbbbbbbbbbbbbbbbBwBpEHbBrcdBDggDFujbbEnBsClnbBiDybbbbbbbbbbbbbbbbbbbbbbbbbbbbbbbbbb",
       "bbbbbbbbbbbbbbbbbbbbbbbbbbbbbbbbbbbbbbbbbbbbbbbbbbbbbbbbbbbbbbbbbbbbbbbbbbbbbbbbbbbbbbbb",
       "bbbbbbbbbbbbbbbbbbbbbbbbbbjbbbbbbbbbbbbbbbbbbbbbbbbbbbbbbbbbbbbbbbbbbbbbbbbbbbbbbbbbbbbb",
       "bbbbbbbbbbbbbbbbbbbbbbbbbbbbbbbbbbbbjigkiiiigkiiiiociiiiiifbcgbddbciecciikdbcKobdcdbBbbe",
       "bebccieebCbbEBbBwbbdcbbbbbbebbcbgfbbbbbbbbbbbbbbbbbbbbbbbbbbbbbbbbbbbbbbbbbbbbbbbbbbbbbb",
       "bbbbbbbbbbbbbbbbbbbbbbbbbbbbbbbbbbbbbbbbbbbbchbbbebmBmbbfbBTWdbbbbbbbbbbbbbbbbbbbbbbbbbb",
       "bbbbbbbbbbbbbbbbbbbtbbbbbbbbbbbbbbbbbbbbbbbbbbbFfbbbbbbbbbbbbdbbbbbbbbbbbbbbbbbbbbbbbbbb",
       "bbbbbbbbbbbbbbbbbbbbbbbbbbbbbbbbbbbbbibbbbcbbbbbbbbbebbbcbbdbbbbbbbbbbbbbbbbbbbbfbfbbbbb",
       "bbbbbbbbbbebbbcbdbbbbbbbbbbbBabdbBFpBrfjhDcBAZohmfBOzBaBVhBoFgBkFzlbpbhbcCRbBzEvwEGoBgBG",
       "JwBgBMMkBaBahbsBaBaBaebbbhblBaBaBaBaBaBaBaBaBaBaBaBaBaBaBaBaBaBcBczbgBazbgBazbgBazbgBazb",
       "gbbCSykbuggDUdBi"]),
    ("lt titlecaseletter",
      ["RlbcbcbBmbLFhiiiiimbpbBvb"]),
    ("lm modifierletter",
      ["BAmsemofhbbbFdbfbSkbIwbGicKjcebBfbjbdbGebGlbBVobExbVtbCPmbEdbXnbRwgGsClnbBiBlBAnbnbqnEMx",
       "cJhbHjbSbbBrffbDtcDpdBQBubBWcgKkbEkbBccErjDcbxbEbddcSbbwbFhbEebvcDzejbBCUobBtcCZogbBqbjC",
       "CxbBgbBJNseTodBocVenCmcbbYGqebhbcSGnCkHthBKfbBRbb"]),
    ("lo otherletter",
      ["GobpbJwbeeIabBFvBbeeBtBgbkBjcbDvbbyckdcbqbbBeBdDllbyBhvwBqzhlfybgrBpChCcdbsbhkqpeicccwbh",
       "bbdedbqbncbdockbigeccwbhbcbcbcBfebbtdqjbdbwbhbcbfdbsbpcxblicccwbhbcbfdbBecbdpbrbbgddbedc",
       "bbbcdcdddmwbCaibdbxbqdbBadcbccBebeibdbxbkbfdbBfcbcpcrjbdbBpcbqbfdidygfsdybjbbchCgBwbcmgC",
       "hcbbbfbybbbkbcjbcfxeBgbClibBkBbfElBrubqgeedbdchdenmbEjMrbechbbbecBpbecBhbechbbbecpbCfbec",
       "CpBlqEjXwcrbBafCxgihsntosonbdpCaBobCpBjbCbhfcBibbfCskBfBxBecflBseBaCcxjCbGuBvriCcBenckBs",
       "BaBkBpdkBeEjebgbcdbBPqeENvCeyxjhbhbhbhbhbhbhbhVfbCbbeDiibbDmebfBrbDqrBgBwqTsJToCmBFCfbBR",
       "zCpBoiKieqkcCobBxCsGnbDzbdhbdbebxBdCaoByCkgdbbclBckxzBdhBvBtfcjkfbBpxdbiuqbgdbdBybbdccfc",
       "bbbycdlhbogcgcgjhbhFpBjBdQNsmxeBxJMiOccEcCpbbkbnbfbbbcbcbEeBhNzsCmcCcBomEmfbFfEbkbBtcBfd",
       "gcgcgcdBjmbBabtbcbpcoBiEtOzBddBxBvBgnubigBmkBecBkeiEyDaDuBoiCaDoCamLzjwkiFwgcbbBsbcdbcxk",
       "xjBfCntbckwkBaCsCegcCmbpebdbBdBqBddBdBjibBcBbCckwktnsEgCvHbBkBmebbLsBqgcqdChBdkbiwBqsBuv",
       "BbxmCbCfccbnBtBgzBaBkBdbcbiBjdbmBwoevbbbBjsbztcClhbbbebpbkhBvBmicccwbhbcbfdbsbmfBekbbcbb",
       "BmbbzbbbBsCbseudBeBwucbbHcBvBpeBkBwubChBrnbCtBbBlhHdBsIdicbcibcbypbbbDqicBnqbbbBcbkBohbv",
       "blButbsCvHrBhBfjbBlrbBxBeEihbcbBmvbzgbcbBgobMptpbbnbBiEubDbBJmIwHoDXkDtpBPgrgzFXrfWlKDdB",
       "eCPuVxhBfrDbrBesBwBzvftQtBoPpCxfbGtJCaiBVqBpkNGhLfpbBddcboeiPgDKuEdfndjhkNBcbThBtBhbMjBe",
       "sBsSqBbIvBecbTbhbebcbpbHpBZnebBbbcbbcbbkbebbbbgbebbbbbbdbcbbcbbbbbbbbbbcbbcebhbebebbbkbr",
       "fdbfbrGOaCLFcBgGDugIocINqoLBlpXyDQwUwCFyHHzfGFg"]),
    ("mn nonspacingmark",
      ["BDoEiKpfKfBtbbbcbcbbCulBwvqbDxhcgccbeBjbBeBbDnlCgjjbyebjbdbfBrdChjBqybBgCdbbbeiebdhkcBdb",
       "CgbeeibucBabccCfbececcddbBecdblcCfbefbcebucwgbbCgbcbbeibhclcBebCjbmbBybdbCdbbdfdbehclcBd",
       "bCgbcbgbfcucBccCfceeibucBdbCubhdbbDmbchmiDubcjlhCvcBbbbbbbCdobfbcflbBkjbDyebgbccczcedqen",
       "bccgbpbBBbdBKkdBdcBecBecCmcbhibcljbBtdbbEncBibEodecjbgdIlccbCgbbhbbbbcigkcbBwobqBxeBwbbf",
       "bbfbBojmcBgeccbdCebbcdbbdCgiccFwdbnbhebgbdcHqCmBBsnebdmEOcdFlbDsBgVieEdcBSQebekBgcDccKmb",
       "dbebzcfbFvcBasnbBmizlBudBwbceccBnbCpgccccmbibBvbBzbbdccfcbbBqcibJebcbebBAYybBCjqqqBLlbIs",
       "bFtfCMgdbcfeBodebGjcWbeCnfMfcDbeCslBxeEtbCcpBpbcckdBxecchbCjdBkfbiCkbmcCajkecbDrdcbbcgbc",
       "bGbbdivcCfcdbBlhdfCsgnbbbbbocDhicdbbxbDggbbecbcJeegcbcBbcDhicbbcEcbbbcgbbDxbbbcebfJzjbcJ",
       "wcbbebFoeccebBgkBogceibjgcdBunbcPqhbgbbDewchbcbcEsgdbbcbhbbCucdbbbNjclcCaffbbbxbHXtbgpQY",
       "ymddDSafChhBOibCleDdbBDBkcGYzBucxUydrichBeeFsdCYdCdeByibobwfbpCAihbrchbcbfDwbGehOlbCjeTo",
       "eJucBCihEfhBTCIvJg"]),
    ("mc spacingmark",
      ["DKtbCdbcdiebcBycCgdgccckbBrbCgdCobCgdibbcCbcCgbbbgccckbDycbcddbdkbBpdCjeCjcCgbbfccbcjcBc",
       "bocCgdfdbdkbBqcCxdgiscMscClbGpcebgbcczckdchvccgcbkdCLsbBebEzbhibcNiecdecbgIqcCgbbbjbbcig",
       "FpbBwbfbbfbcCjbBebeccbCibcdbbdcBwiicGpbvbHHecBTLbccbDkcByqFmcBvbBwceccdEgcccybBtbbbEfbcc",
       "fbJdcbcbcbbBIWpbbbExbBtdecElbycChbBwdjcnbDpddcbbGodBfcCgcbecccdjbkcDgdhbcbbebcbbDxdicdbE",
       "cdgbbecbJddgecbEjdicbbEfbbcgbDzbbcebKbdjbJngbcebcbbbFmdieebDgbBdcCkbPrbobEcbhbcbIffecbbN",
       "mcmbBwcicbbYYydFJgCdEacBKXncgg"]),
    ("me enclosingmark",
      ["BSqcIKqbCIgebdBYOxd"]),
    ("nd digit decimalnumber",
      ["BwkCIokFekHqkPwkEokEokEokEokEokEokEokEokEokDskEokCskKskCskCTqkBmkLokEykGkkgkHakDikFekgkC",
       "AEokBAckBmkHqkwkDikPqkBCLikCCkkDFykgkBEqkEykCikFokKskNekEokOkkDykguCykQgkDykZmkDikJmkCsk",
       "QgkYYgkDMckDikFekUokBKDykECqByDNckQgkTikJnkBGvkHBak"]),
    ("nl letternumber",
      ["IRudDYtBjceFMsbzjodBSYlkBFEmCbRsbibFefMEsEh"]),
    ("no othernumber",
      ["GwcfbcdDMrgOmgEqdFdhIjhrjQrkBPluBRvkSmbCMvbdggkHqqBpbBByCiDawYgBeCBhbBTceFikBeibpBgkBnpB",
       "SMigBEPtBtCnercNdBbBkeBZgizhBnjCxfwgGeccqcBuCmjCacBedCxfEaiyiBphMsgNoBfGckBqeEihFeuOpuBZ",
       "xcQojBHntBGtvBCPqhBEsxBLYfumuEezIBujBJtChbdbeCyBtbpBLan"]),
    ("pc connectorpunctuation",
      ["DrbMBvctbDCZucydJfb"]),
    ("pd dashpunctuation",
      ["BtbCAubBzbFKjbBNpbDBdgFHxbcbBfcebBcbRebtbEhbCWVgcBlbkbGnbFLobMgb"]),
    ("ps openpunctuation",
      ["BobBybBfbFPebbbCUobDPmbdbBmbCdbpbYkbbbBebBPubbbbbbbbbbbbbDcbBgbbbbbbbbbPobbbbbbbbbbbbbbb",
       "bbbbbbCmbbbBhbBOvbbbbbbbzbsbbbbbbbQmbbbbbbbbbdbbbbbbbcbCWQzbIhbBdbbbbbbbbbbbbbbbdbrbbbbb",
       "GobBybBfbdbcb"]),
    ("pe closepunctuation",
      ["BpbBzbBfbFPdbbbCUobDRdbCdbpbYkbbbBebBPubbbbbbbbbbbbbDcbBgbbbbbbbbbPobbbbbbbbbbbbbbbbbbbb",
       "bCmbbbBhbBOvbbbbbbbBsbbbbbbbQmbbbbbbbbbdbbbbbbbccCWQwbIjbBdbbbbbbbbbbbbbbbdbrbbbbbGobBzb",
       "Bfbcbcb"]),
    ("pi initialpunctuation",
      ["GpbLXkbcccbzbFFsbbbebcbpbdb"]),
    ("pf finalpunctuation",
      ["HfbLWvbdbBcbFFsbbbebcbpbdb"]),
    ("po otherpunctuation",
      ["BhdbdcbbbbckcdcBbbCqbfbochbBBabibRygBpbCcbcbcbBscucbcnbbdCweDybBroIzdCcpBfbKbckbFkbEqbEr",
       "bPabmbOdbDmbkcGmpbbEibCwfecEhgGpbXojBDtbEudCtcGbdbdBlgbeMbcIicEyhbgGeckhBcdEueChfCkcCmil",
       "bBGcciiijcecddlbbbkEUcebcEibFncedcbcjbcbbcckfbkcebbbncdQmdCfbHhbBRYgcKjdDvbkbElgOqeDicBo",
       "dbbBxcBvbDtnqcEueEwcqcJpbBCCahcbwbucceddbehdgbbcFtdbdcbbbbckcdcBbbBkbccPudZsbBwbPybBCpbH",
       "rbBfbKmjBmbEihCohDleBKqfBseHhhEfcbeEweBwcDbeebnbbdDkgEdbLmcbcEkfkcbbEabJqxEbdBcnCybFadJs",
       "bKedFzbDoiDfdbfDpkIhbDrfBqcYvcCwnGtbBRsfEJccWDvcFdbCnfibVgdLjeMpbBDBobLIlfEItbBHec"]),
    ("sm mathsymbol",
      ["BrbqdCjbbbBtbebBlbBfbBDmbUhdJYhbnbBndndFjbBnfgbCqffcebcbcbhbBfccbbbBfKiBgcDmbBezBogSbbjb",
       "CciEhbMyfcBfkqJwFbwCleBgcJyBwvcgCXRwbBFsbbdGibqdCjbbbFbbgeFEfcCYEzbzbBfbzbBfbzbBfbzbBfbz",
       "bIUec"]),
    ("sc currencysymbol",
      ["BkbEveBWjbEtbTecTechbJlbKdbWjbDQpbDIiBhBZHvbBDLrbEebFybIlcdcMCseCVXebDRkb"]),
    ("sk modifiersymbol",
      ["DqbbbCtbgbebdbUbemofhbbbrEnbocBXibIUmbbdldndndncGHocBSVrxjcDzcBLobocBBJqrBIhbbbGgbDOLjf"]),
    ("so othersymbol",
      ["GkbcbebbbBLpbKgcExcHybkbtcJnbTvbOjbFagbbFcbHzbBpbPbdpbbdcgubbbbbFdibgbcfeHpcBCykBBvbBBub",
       "GbBiNpkjjCChcbebckbbcggbbbbbbeblcobbcbbCgcjfcebcbcbhbBfccbbbBfKiieuchcDdbBezBogCuwlDdDaw",
       "HbbjbCciEhbJoBsBsCmJwTsBwvcgBncBgbEbIvgNtcBuBabDlmIgBaqebncmbvcgcMycekBgBmjbqBflBeibpBgk",
       "BnpMiJToCmBGUiCdBHhekcbbWbdBCIgqExbBtdSqbdbecncMbjCfrcdbndbBvBtCLucWtbESsbDGnierBCNiefbB",
       "EUwbFVnJgqQuGaEmCiJmkBncCifdwchBeeCjvCodbHeDjBTxTsCdeByibobcCOubEHwbEzbBBtBseDwmpcpbpbBl",
       "xGfCeBdnBsejhcogFyJrfBCaerdndEpeDrgmebpmeCeikgBoiBecmecCkNcmocndkfCehpclgjhFrbDo"]),
    ("zs spaceseparator",
      ["BgbExbIHjbDPnlBkbBvbFXwb"]),
    ("zl lineseparator",
      ["MEqb"]),
    ("zp paragraphseparator",
      ["MErb"]),
    ("cc cntrl control",
      ["aBgDrBh"]),
    ("cf format",
      ["GrbCAkgwbHkbBxbOucDcbFTjbDAqfBafBxfbkDDGpbJpdGIzbpbNKkqBZQueHWxiBTKZmbBeDs"]),
    ("co privateuse",
      ["DDUuJMeCAHXoDSYocDSYo"]),
    ("cn unassigned",
      ["BIecgehbbbubPhbBmcBycdbCdiBbeglKkbCicDxoChcBxcpbBccbblfBfbcfJdbicccwbhbbdecjccceibecbfcz",
       "cdbgeccwbhbcbcbccbbfeccddbhebbhrkdbjbdbwbhbcbfckbdbdcbpecmhhbdbicccwbhbcbfcjcccdhdecbfcs",
       "kcbgddbedcbbbcdcdddmefddbecbgbovfnbdbxbqcjbdbehcbdcbceckhwbdbxbkbfcjbdbehcgcbeckbdmnbdbB",
       "zbdbgeqcBabdbsdybjbbchdbegbbbigkcdmCgeBdBlcbbbfbybbbxcfbbbhbkceBgCubBkeBnbBkbpbnBlHqbbfb",
       "cOnbechbbbecBpbecBhbechbbbecpbCfbecCpcBgdBagDicgcZtdDlhwjyjumnbdbcmDqckgkgBagDlhBrfCskBf",
       "bmemebdBqcflBseBagldCkcCnbBdclgkgocBfBxCzbGkiCidpdCkfBrcliBrfUocgcBmcgcibbbbbbbBfcCbbpbo",
       "cgbtcdbjbDxbmcBbbndBhpBhpFkeZqwlvCRscBgbNlfBtbbfbcCehcoyjhbhbhbhbhbhbhbhbEwBiBabDlmIgBaD",
       "cbDicDzfBrbDqbDijBwbBRIrdCdjNkuHciHyccbbbivChdkgCeiCsimgEmlBedDableBhbCdjockcDzyBckgcgcg",
       "jhbhbCieEwckgQNsmxeBxeKAgcEcBmhmffBabfbbbcbcbEvqRdcCchbBgBqgBzbtbeefbFfcbbHidgcgcgcddhbh",
       "kfcmbBabtbcbpcoBiEtfdeBtdDkbndbBvBuFaBddBxpBceBkjBefBrfBebBleoBqGcckgBkeBkeBoiCalmbpbhbc",
       "blbpbhbcdCamLzjwkiygbBqbjCrgcbbBsbcdbcxbCuijBwtbcfBhdBbfbCmCeeucBybcfibdbBdcdekhjhCmBgBn",
       "emjCcdBdcBbfBahemhDcCvCdBznBzhBuikgBmdBdicIaBfbBqbdccqdCdBsiBqwBaBmBcuxjDaeBkjCqkbczhkgC",
       "bbsiBnjDsbulsbBvCkhbbbebpblgChfkgebicccwbhbcbfbkcccdcbgbfhchdflkbbcbbBmbkbbcbbebkbcicBdD",
       "obfBeCuikGkCccBmBiCrlkgntCggkguBcBbcpexHdCiDwDfmicbcibcbBebccmjkCsicBuclBbCuiDfnCvhkHaBi",
       "okgjbBtbokBddBgcwboCvhbcbBsdbbcbjikggbcbBlbcbghkLyzhrbBpdBdDhbpBynBJnDyEhbflHoDXkDvnBQsk",
       "FXrfWlKDdCgCOsVxhBfbkeDdbkgBecgkCskkbhbvftQqCgHqDnDxCxeCfhrCmflcoJCaiBVqBpkNFrebhbcbLfpb",
       "BddcboeiPgDKuEdfndjhkciFVgJqgQuCyBucxjEmCiJmkBncHmvCsEsumumDjjzFfDhbCtbccbcccebmbbbhbCnb",
       "ecibhbBcbebfbbdhbNccLgcBBapfbpBQmBfggIfhbrchbcbffCkBhbEiBtdockecMiBfrCgfbRwBqIgBrebSmhbe",
       "bcbpbHpcqBpCyekecBEfCqCyCjHmebBbbcbbcbbkbebbbbgbebbbbbbdbcbbcbbbbbbbbbbcbbcebhbebebbbkbr",
       "fdbfbrCacKkBseDwmpcpbpbBlkGsCeBdnBsejhcogFyBLwerdndEpeDrgmebpmeCeikgBoiBecmecCkNcmocndkf",
       "CehpclgjhFrbDyBNqCLFcBgGDugIocINqoLBlpXyDQwUwCFyHHzfGFgBOMXlbBeDsEyJgDSFoDSYocDSYo"])]

def categoryGroups : List (String × List String) :=
  [
    ("l letter", ["lu", "ll", "lt", "lm", "lo"]),
    ("lc casedletter", ["lu", "ll", "lt"]),
    ("m mark combiningmark", ["mn", "mc", "me"]),
    ("n number", ["nd", "nl", "no"]),
    ("p punct punctuation", ["pc", "pd", "ps", "pe", "pi", "pf", "po"]),
    ("s symbol", ["sm", "sc", "sk", "so"]),
    ("z separator", ["zs", "zl", "zp"]),
    ("c other", ["cc", "cf", "co", "cn"])]

def categorySet (names : List String) : CharSet :=
  names.foldl (fun s name => s.union ((categories.find? name).getD .none)) .none

def category? (name : String) : Option CharSet :=
  (categories.find? name).or <|
    (categoryGroups.find? fun g => name ∈ g.1.splitOn " ").map fun g => categorySet g.2

end SheetTables.Unicode
