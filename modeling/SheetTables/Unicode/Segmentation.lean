import SheetTables.Unicode.CharSet

/-! # Properties for segmentation

What a character does to the boundaries of grapheme clusters, words and sentences, after edition
16 of the standard. Names are written as they are compared: in lower case and without separators,
the names of one value side by side.
-/

namespace SheetTables.Unicode

def graphemeBreaks : NamedSets :=
  [
    ("cr",
      ["nb"]),
    ("cn control",
      ["akbcbsDrBhnbCBmbGUrbDAqbccyhBxqDDGpbJgmTUaqBZQueHWxiBTKZlBgDsEyJgFIm"]),
    ("ex extend",
      ["BDoEiKphKdBtbbbcbcbbCulBwvqbDxhcgccbeBjbBeBbDnlCgjjbyebjbdbfBrdChjBqybBgCdbbbeiebdhkcBdb",
       "CgbbbceibjbkcBabccCfbececcddbBecdblcCfbefbcebucwgbbCgbbcbeibhdkcBebChbbbmbjbBobdbCdbbdfd",
       "behclcBdbCgbccbbddbehclcBccCfcbbceibjbkcBdbCubebcdbbibDdbchmiDubcjlhCvcBbbbbbbCdobfbcflb",
       "BkjbDyebgbccczcedqenbccgbpbBBbdBKkeBcdBdcBecCmcbhibcljbBtdbbEncBibEodecjbgdIlccbCgbbhbbb",
       "bcigkcbBwBfBxeBwkedBmjmcBgecgCebbcdbbfCeiccFwdbnbhebgbdcHqCmUebHnBhEOcdFlbDsBgVigEbcBSQe",
       "ebkBgcDccKmbdbebzcfbFvcBasnbBmizlbbBsdBwbcecccbBkbCpgccccmbibBvbBzbbdccfcbbBqcibJebcbebB",
       "AYybBCjqqqOccXhbIsbFtfCMgdbcfeBodebGjcWbeCnfMfcDbeCslBxeEtbCcpBpbcckdBxecchbCjdBkfbiCkbm",
       "cCajbbiecbDrdcegbcbGbbdivcCfcbbbbmbjbohdfCpbcgbbcbbdedbbocDhicdbbxbDdbcgbbcbbcbcJbbcegcb",
       "cBbcDhicbbcEcbbbciDxbbbcebfJzjbcJlbkeebFoeccebBgkBogceibjgcdBunbcPqhbgbbDewchbcbcEsgdbbc",
       "bhbbCucdbbbNjclcCaffdxbHXtbgpQYymddDSafChhBOibCleDdblcBDAxcGYzBucxUwfdgiichBeeFsdCYdCdeB",
       "yibobwfbpCAihbrchbcbfDwbGehOlbCjeToeJucBCihEfhEBgfBSXYuDsEyJg"]),
    ("l",
      ["GLkDsCFOqBd"]),
    ("lf",
      ["kb"]),
    ("lv",
      ["CNDobBbbBbbBbbBbbBbbBbbBbbBbbBbbBbbBbbBbbBbbBbbBbbBbbBbbBbbBbbBbbBbbBbbBbbBbbBbbBbbBbbBb",
       "bBbbBbbBbbBbbBbbBbbBbbBbbBbbBbbBbbBbbBbbBbbBbbBbbBbbBbbBbbBbbBbbBbbBbbBbbBbbBbbBbbBbbBbb",
       "BbbBbbBbbBbbBbbBbbBbbBbbBbbBbbBbbBbbBbbBbbBbbBbbBbbBbbBbbBbbBbbBbbBbbBbbBbbBbbBbbBbbBbbB",
       "bbBbbBbbBbbBbbBbbBbbBbbBbbBbbBbbBbbBbbBbbBbbBbbBbbBbbBbbBbbBbbBbbBbbBbbBbbBbbBbbBbbBbbBb",
       "bBbbBbbBbbBbbBbbBbbBbbBbbBbbBbbBbbBbbBbbBbbBbbBbbBbbBbbBbbBbbBbbBbbBbbBbbBbbBbbBbbBbbBbb",
       "BbbBbbBbbBbbBbbBbbBbbBbbBbbBbbBbbBbbBbbBbbBbbBbbBbbBbbBbbBbbBbbBbbBbbBbbBbbBbbBbbBbbBbbB",
       "bbBbbBbbBbbBbbBbbBbbBbbBbbBbbBbbBbbBbbBbbBbbBbbBbbBbbBbbBbbBbbBbbBbbBbbBbbBbbBbbBbbBbbBb",
       "bBbbBbbBbbBbbBbbBbbBbbBbbBbbBbbBbbBbbBbbBbbBbbBbbBbbBbbBbbBbbBbbBbbBbbBbbBbbBbbBbbBbbBbb",
       "BbbBbbBbbBbbBbbBbbBbbBbbBbbBbbBbbBbbBbbBbbBbbBbbBbbBbbBbbBbbBbbBbbBbbBbbBbbBbbBbbBbbBbbB",
       "bbBbbBbbBbbBbbBbbBbbBbbBbbBbbBbbBbbBbbBbbBbbBbbBbbBbbBbbBbbBbbBbbBbbBbbBbbBbbBbbBbbBbbBb",
       "bBbbBbbBbbBbbBbbBbbBbbBbbBbbBbbBbbBbbBbbBbbBbbBbbBbbBbbBbbBbbBbbBbbBbbBbbBbbBbbBbbBbbBbb",
       "BbbBbbBbbBbbBbbBbbBbbBbbBbbBbbBbbBbbBbbBbbBbbBbbBbbBbbBbbBbbBbbBbbBbbBbbBbbBbbBbbBbbBbbB",
       "bbBbbBbbBbbBbbBbbBbbBbbBbbBbbBbbBbbBbbBbbBbbBbbBbbBbbBbbBbbBbbBbbBbbBbbBbbBbbBbbBbbBbbBb",
       "bBbbBbbBbbBbbBbbBbbBbbBbbBbbBbbBbbBbbBbbBbbBbbBbbBbbBbb"]),
    ("lvt",
      ["CNDpBbbBbbBbbBbbBbbBbbBbbBbbBbbBbbBbbBbbBbbBbbBbbBbbBbbBbbBbbBbbBbbBbbBbbBbbBbbBbbBbbBbb",
       "BbbBbbBbbBbbBbbBbbBbbBbbBbbBbbBbbBbbBbbBbbBbbBbbBbbBbbBbbBbbBbbBbbBbbBbbBbbBbbBbbBbbBbbB",
       "bbBbbBbbBbbBbbBbbBbbBbbBbbBbbBbbBbbBbbBbbBbbBbbBbbBbbBbbBbbBbbBbbBbbBbbBbbBbbBbbBbbBbbBb",
       "bBbbBbbBbbBbbBbbBbbBbbBbbBbbBbbBbbBbbBbbBbbBbbBbbBbbBbbBbbBbbBbbBbbBbbBbbBbbBbbBbbBbbBbb",
       "BbbBbbBbbBbbBbbBbbBbbBbbBbbBbbBbbBbbBbbBbbBbbBbbBbbBbbBbbBbbBbbBbbBbbBbbBbbBbbBbbBbbBbbB",
       "bbBbbBbbBbbBbbBbbBbbBbbBbbBbbBbbBbbBbbBbbBbbBbbBbbBbbBbbBbbBbbBbbBbbBbbBbbBbbBbbBbbBbbBb",
       "bBbbBbbBbbBbbBbbBbbBbbBbbBbbBbbBbbBbbBbbBbbBbbBbbBbbBbbBbbBbbBbbBbbBbbBbbBbbBbbBbbBbbBbb",
       "BbbBbbBbbBbbBbbBbbBbbBbbBbbBbbBbbBbbBbbBbbBbbBbbBbbBbbBbbBbbBbbBbbBbbBbbBbbBbbBbbBbbBbbB",
       "bbBbbBbbBbbBbbBbbBbbBbbBbbBbbBbbBbbBbbBbbBbbBbbBbbBbbBbbBbbBbbBbbBbbBbbBbbBbbBbbBbbBbbBb",
       "bBbbBbbBbbBbbBbbBbbBbbBbbBbbBbbBbbBbbBbbBbbBbbBbbBbbBbbBbbBbbBbbBbbBbbBbbBbbBbbBbbBbbBbb",
       "BbbBbbBbbBbbBbbBbbBbbBbbBbbBbbBbbBbbBbbBbbBbbBbbBbbBbbBbbBbbBbbBbbBbbBbbBbbBbbBbbBbbBbbB",
       "bbBbbBbbBbbBbbBbbBbbBbbBbbBbbBbbBbbBbbBbbBbbBbbBbbBbbBbbBbbBbbBbbBbbBbbBbbBbbBbbBbbBbbBb",
       "bBbbBbbBbbBbbBbbBbbBbbBbbBbbBbbBbbBbbBbbBbbBbbBbbBbbBbbBbbBbbBbbBbbBbbBbbBbbBbbBbbBbbBbb",
       "BbbBbbBbbBbbBbbBbbBbbBbbBbbBbbBbbBbbBbbBbbBbbBbbBbbBbbBb"]),
    ("pp prepend",
      ["CHcgIhbBxbOucDcbBRnbDRFqbpbJkcUfbCBlbbbJobCvgBAybRbb"]),
    ("ri regionalindicator",
      ["HDNqBa"]),
    ("sm spacingmark",
      ["DKtbCdbcdiebcBycChcgcccCcbCgdCobCgdibbcCbcCibgcccEkbbcddbdCadCjeCjcCgbcbbcBubocChcfdbdCb",
       "cCycghtcClbExbFicClbGvbjczcBsbCSvbhibcNiecdecbgIqcCgbbbvgFpbCfeCmbBebecClbcdbbCbiicGpbvb",
       "CAShccbDkcByqFmbBwbBwcecccEhcccybGbbccfbJdcbcbcbbBIWpbbbExbBtdecElbycChbBwdjbobDpddcGqdB",
       "fcChbbeccccvcDhcpbbcDzdicdbEdcgbbcbbcbJecgecbEjdicbbEfbbcEgbhbKbdjbJofbchbbbFmdieebDgbBd",
       "cCkbPrbobEcbhbcbIffecbbNmcmbBwcicYZadFJgCd"]),
    ("t",
      ["GRwDkCWXnBx"]),
    ("v",
      ["GPcCuCWZwxCBQibde"]),
    ("zwj",
      ["MDpb"])]

def wordBreaks : NamedSets :=
  [
    ("le aletter",
      ["CnBagBaBvbkbebfxbBfbSmgBiEifbccebbgbbdbbbubDfbFjiGkbBmcebbbBpbbEabBsBrBjcbDvbbpchckdcbpc",
       "bBeBdDllbyBhjcebfwebjbdbxzhlfybgrBqCgCcdbsbhkpqeicccwbhbbdedbqbncbdockbigeccwbhbcbcbcBfe",
       "bbtdqjbdbwbhbcbfdbsbpcxblicccwbhbcbfdbBecbdpbrbbgddbedcbbbcdcdddmwbCaibdbxbqdbBadcbccBeb",
       "eibdbxbkbfdbBfcbcpcrjbdbBpcbqbfdidygfsdybjbbchMbbClibBkBbfKpBmbbfbcBrbMvbechbbbecBpbecBh",
       "bechbbbecpbCfbecCpBlqqDicgdXwcrbBafCxdlhsntosonbdGtDlhfcBibbfCskBfIrxJeBvriCcBenckBsBaBk",
       "BpdkBkclfBrcdBpebgbcdbfHkCmKscgcBmcgcibbbbbbbBfcCbbhbbddbhdecgenfdbhEmbnbqnDxbebckbbdfgb",
       "bbbbbeblceffebrBpBFhCaCRuIvgedcmBmbbfbcCehbqxjhbhbhbhbhbhbhbhDcbSbbCbcHsBrbDqrBgBPToBSvC",
       "pBucKjdqkcuBvqBfcDcyHqccbbbivqbdbebxBdCaoByCkgdbbclBckxzBdhBvBcbBwBpxdbiFslhdmgcgcgjhbhb",
       "CggElBdQNsmxeBxKGahmfCeDuBhNzsCmcCcBomEmfbFfBkBagBaCrBfdgcgcgcdBjmbBabtbcbpcoBiEtCrCbKhB",
       "ddBxBvBgnBefBmkBecBkeibfBqGcsBkeBkeBoiCamlbpbhbcblbpbhbcdCamLzjwkiygbBqbjCrgcbbBsbcdbcxk",
       "xjBfCntbckwkBaCsCegcCmbpebdbBdBqBddBdBjibBcBbCckwktnsEgCvCdBznBznBkBmBcjxJqBqgcqdChBdkbi",
       "wBqsBuvBbxmCbCfccbnBtBgzBaBkBdbcbiBjdbmBwoevbbbBjsbztcClhbbbebpbkhBvBmicccwbhbcbfdbsbmfB",
       "ekbbcbbBmbbzbbbBsCbseudBeBwucbbHcBvBpeBkBwubChBrnbMpBsEmCmBficbcibcbypbbbDqicBnqbbbBcbkB",
       "ohbvblButbsCvHrBhBfjbBlrbBxBeEihbcbBmvbzgbcbBgobMptpbbnbBiEubDbBJmDyEhrHoDXkDtpBPgrgzFXr",
       "fWlKDdBeCPuVxhBfrDbrBesBwqeBfvftQqBtIdCmEyCxfbConCmcbbBCVkEdfndjhkIWkDhbCtbccbcccebmbbbh",
       "bCnbecibhbBcbebfbbdhbNcczbzbBfbzbBfbzbBfbzbBfbzbiCSyBfggKbCkFqBtkhqbMjBesBsSqBcIuBecbTbh",
       "bebcbpbHpChCqhbBUiebBbbcbbcbbkbebbbbgbebbbbbbdbcbbcbbbbbbbbbbcbbcebhbebebbbkbrfdbfbrYeBa",
       "gBagBa"]),
    ("cr",
      ["nb"]),
    ("dq doublequote",
      ["Bib"]),
    ("extend",
      ["BDoEiKphKdBtbbbcbcbbCulBwvqbDxhcgccbeBjbBeBbDnlCgjjbyebjbdbfBrdChjBqybBhCcdbsbhkcBddCebb",
       "hcccdjbkcBabcdCebbfeccddbBecdbldCebbibdbducwgbdCebbhcccdhdkcBebChfddbejbBofCdbbhbdbehclc",
       "BddCebbhbdbehclcpbmeCdcbhbdbejbkcBddCsbegbbbiscCjbchmiDubcjlhCvcBbbbbbbecBxubcflbBkjbDwu",
       "xeedbdchdenmbbkeBBbdBKkeBcdBdcBecCmBgjbBtdbbEncBibEomemIlfCfkbBdcbBwBfBxfBvrBmjmdBenCeoB",
       "wuFwdbvebgbcdHqCmUebHnBhEOcdFlbDsBgVigEbcBSQeebkBgcDccKmbdbebxfebDfcBysBasnbBmiznBseBvoB",
       "kbCpombicBtdBybbdccfcbbBpffcJcibcBAYybBCjqqqOccXhbIsbFtfCMgdbcfeBodebGjcWbeCnfMfcDbeCslB",
       "xeEsdCbpBpbcckeBtlhbCjdBkoqcBsbmdBwoiebcDomgbcbGbmveCdcbhcccdjbkcchdfCpjbbcbbebfbbocDesx",
       "bDduJbhcjBbcDerEcnDxpJwpJlgbccebbbcFlhchdbBckBohbeibjlBuqPpibiDewboEsgdbbcbhbbCofbcbfNje",
       "jcbbBwhdfxbHXtbgpQYysDSafChhBOibbCdheDdblcBDAxcGYzBucxUwfdgiichBeeFsdCYdCdeByibobwfbpCAi",
       "hbrchbcbfDwbGehOlbCjeToeJucBCihEfhEBgfBSXYuDsEyJg"]),
    ("ex extendnumlet",
      ["DrbMBfbpctbDCZucydJfb"]),
    ("fo format",
      ["GrbCBmbGUrbDAtcBafBxfbkDDGpbJpdTUaqBZQueHWxiBTKZmb"]),
    ("hl hebrewletter",
      ["CFgBbeeDLVebbkbnbfbbbcbcbk"]),
    ("ka katakana",
      ["SGnfDxcdDnbeJgqIaBvbDkCWGkCeCOUcebhbcbbLbdByboe"]),
    ("lf",
      ["kb"]),
    ("ml midletter",
      ["CgbEubBBrbSdbFsbJXybDDAhbCnbHob"]),
    ("mn midnum",
      ["BsbobBGcbUcbFacDqbPfbJFfbDDBnbdbHbbob"]),
    ("mb midnumlet",
      ["BubMCfckbDDCvbGybgb"]),
    ("nl newline",
      ["lcEqbLZmc"]),
    ("nu numeric",
      ["BwkCEwgDmkbbEjbskHqkHqcDcbFbkEokEokEokEokEokEokEokEokEokDskEokCskKskCskCTqkBmkLokEylGjkg",
       "kHakDikFekgkCAEokBAckBmkHqkwkDikPqkBCLikCCkkDFykgkBEqkCzbpbBikCikFokKskNekEokOkkDykguCyk",
       "QgkDykZmkDikJmkCskQgkYYgkDMckDikFekUokBKDykECqByDNckQgkTikJnkBGvkHBak"]),
    ("ri regionalindicator",
      ["HDNqBa"]),
    ("sq singlequote",
      ["Bnb"]),
    ("wsegspace",
      ["BgbIMhbDPnhbdDgbFXwb"]),
    ("zwj",
      ["MDpb"])]

def sentenceBreaks : NamedSets :=
  [
    ("at aterm",
      ["BubMCrbDDCvbHfb"]),
    ("cr",
      ["nb"]),
    ("cl close",
      ["BibedBxbbbBdbbbBtbpbFMseCUncDPjizckcCccocYjeBdcBPgghoDbcBfkPnwCleBgcBNmoocckybsiQlkcibdC",
       "WQwcIhcBcqccqgGncBxbbbBdbbbbcbcDPOsd"]),
    ("ex extend",
      ["BDoEiKphKdBtbbbcbcbbCulBwvqbDxhcgccbeBjbBeBbDnlCgjjbyebjbdbfBrdChjBqybBhCcdbsbhkcBddCebb",
       "hcccdjbkcBabcdCebbfeccddbBecdbldCebbibdbducwgbdCebbhcccdhdkcBebChfddbejbBofCdbbhbdbehclc",
       "BddCebbhbdbehclcpbmeCdcbhbdbejbkcBddCsbegbbbiscCjbchmiDubcjlhCvcBbbbbbbecBxubcflbBkjbDwu",
       "xeedbdchdenmbbkeBBbdBKkeBcdBdcBecCmBgjbBtdbbEncBibEomemIlfCfkbBdcbBwBfBxfBvrBmjmdBenCeoB",
       "wuFwdbvebgbcdHqCmUecHmBhEOcdFlbDsBgVigEbcBSQeebkBgcDccKmbdbebxfebDfcBysBasnbBmiznBseBvoB",
       "kbCpombicBtdBybbdccfcbbBpffcJcibcBAYybBCjqqqOccXhbIsbFtfCMgdbcfeBodebGjcWbeCnfMfcDbeCslB",
       "xeEsdCbpBpbcckeBtlhbCjdBkoqcBsbmdBwoiebcDomgbcbGbmveCdcbhcccdjbkcchdfCpjbbcbbebfbbocDesx",
       "bDduJbhcjBbcDerEcnDxpJwpJlgbccebbbcFlhchdbBckBohbeibjlBuqPpibiDewboEsgdbbcbhbbCofbcbfNje",
       "jcbbBwhdfxbHXtbgpQYysDSafChhBOibbCdheDdblcBDAxcGYzBucxUwfdgiichBeeFsdCYdCdeByibobwfbpCAi",
       "hbrchbcbfDwbGehOlbCjeToeJucBCihEfhBTCAfDsEyJg"]),
    ("fo format",
      ["GrbCBmbJibGLibDAqbccBafBxfbkDDGpbJpdTUaqBZQueHWxiBTKZmb"]),
    ("lf",
      ["kb"]),
    ("lo lower",
      ["DtBaBvbkbebBkybibbbbbbbbbbbbbbbbbbbbbbbbbbbbbbbbbbbbbbbbbbbbbbbbbbbbbbbcbbbbbbbbbbbbbbbc",
       "bbbbbbbbbbbbbbbbbbbbbbbbbbbbbbbbbbbbbbbbbbbbbbcbbbbdcbbbcbdcebcbddcbcbbbbbcbbcbbcbdbbbcc",
       "cdgbcbcbbbbbbbbbbbbbbbbcbbbbbbbbbbbbbbbbbccbbbdbbbbbbbbbbbbbbbbbbbbbbbbbbbbbbbbbbbbbbbbb",
       "bbbbbbbbbbbbbbbbbhcbccbbebbbbbbbbCrbBkhcBefFkbbbdbcesbBbBjbcddbbbbbbbbbbbbbbbbbbbbbbbfbb",
       "cbccBzBwbbbbbbbbbbbbbbbbbbbbbbbbbbbbbbbbbbjbbbbbbbbbbbbbbbbbbbbbbbbbbbbbbbbbbbbbbbbbbbbb",
       "bbbbbbbbcbbbbbbbbbbbbcbbbbbbbbbbbbbbbbbbbbbbbbbbbbbbbbbbbbbbbbbbbbbbbbbbbbbbbbbbbbbbbbbb",
       "bbbbbbbbbbbbbbbbbbbbbbbbbbbbbbBwBpEItbBDjgDFujbbEnHkCnbbbbbbbbbbbbbbbbbbbbbbbbbbbbbbbbbb",
       "bbbbbbbbbbbbbbbbbbbbbbbbbbbbbbbbbbbbbbbbbbbbbbbbbbbbbbbbbbbbbbbbbbbbbbbbbbbbbbbbbbbbbbbb",
       "bbbbbbbbbbbbbbbbbbbbbbbbbbjbbbbbbbbbbbbbbbbbbbbbbbbbbbbbbbbbbbbbbbbbbbbbbbbbbbbbbbbbbbbb",
       "bbbbbbbbbbbbbbbbbbbbbbbbbbbbbbbbbbbbjigkiiiigkiiiiociiiiiifbcgbddbciecciikdbcErbnbqnEfbd",
       "cdbBbbebebccieebBhqebBGlBaCTqBwbbdcbbbbbbebbcbidbbbbbbbbbbbbbbbbbbbbbbbbbbbbbbbbbbbbbbbb",
       "bbbbbbbbbbbbbbbbbbbbbbbbbbbbbbbbbbbbbbbbbbbbbbbbbbbbbbbbbbchbbbebmBmbbfbBTWdbbbbbbbbbbbb",
       "bbbbbbbbbbbbbbbbbbbbbbbbbbbbbbbbbtbbbbbbbbbbbbbbbbbbbbbbbbbbdFdbbbbbbbbbbbbdbbbbbbbbbbbb",
       "bbbbbbbbbbbbbbbbbbbbbbbbbbbbbbbbbbbbbbbbbbbbbbbbbkbbbbcbbbbbbbbbebbbcbbdbbbbbbbbbbbbbbbb",
       "bbbbfbfbbbbbbbbbbbbbbbebbbcbdbbbbbbbbbbbwdbbbdBFpBrbogDcBAZohmfBOzBaBVhBoFgBkFzlbpbhbcRj",
       "bcdbBqbjBXlBzEvwEGoBgBGJwBgBMMkBaBahbsBaBaBaebbbhblBaBaBaBaBaBaBaBaBaBaBaBaBaBaBaBaBaBcB",
       "czbgBazbgBazbgBazbgBazbgbbCSykbuggKbCkDHsBi"]),
    ("nu numeric",
      ["BwkCEwgDmkbcEibskHqkHqcDcbFbkEokEokEokEokEokEokEokEokEokDskEokCskKskCskCTqkBmkLokEylGjkg",
       "kHakDikFekgkCAEokBAckBmkHqkwkDikPqkBCLikCCkkDFykgkBEqkCzbpbBikCikFokKskNekEokOkkDykguCyk",
       "QgkDykZmkDikJmkCskQgkYYgkDMckDikFekUokBKDykECqByDNckQgkTikJnkBGvkHBak"]),
    ("le oletter",
      ["RbbeeIabBkhgmBabbbFdbSqbEoBbefBsBrBjcbDvbbpchckdcbqbbBeBdDllbyBhjcebfwebjbdbxzhlfybgrBqC",
       "gCcdbsbhkpqeicccwbhbbdedbqbncbdockbigeccwbhbcbcbcBfebbtdqjbdbwbhbcbfdbsbpcxblicccwbhbcbf",
       "dbBecbdpbrbbgddbedcbbbcdcdddmwbCaibdbxbqdbBadcbccBebeibdbxbkbfdbBfcbcpcrjbdbBpcbqbfdidyg",
       "fsdybjbbchCgBwbcmhCgcbbbfbybbbkbcjbcfbbveBgbClibBkBbfElBrubqgeedbdchdenmbCnBrcMubechbbbe",
       "cBpbecBhbechbbbecpbCfbecCpBlqEjXwcrbBafCxdlhsntosonbdpCaBjbebCpDlhfcBibbfCskBfBxBecflBse",
       "BaCcxjCbDebDpBvriCcBenckBsBaBkBpdkBksBrcdBpebgbcdbBPqeCtdceEKtCehbqxjhbhbhbhbhbhbhbhDcbS",
       "bdzjhfcfeDigdbDmbefBrbDqrBgBwqTsJToCmBGUfCpBucKjdqkcCobqbBgDcBnjEabgbDzbdhbdbebxBdCaoByC",
       "kgdbbclBckxzBdhBvBcbqfbkkfbBpxdbiuxdbdBybbdccfcbbbydclhdmgcgcgjhbhFpBjBdQNsmxeBxJMiOccEc",
       "CpbbkbnbfbbbcbcbEeBhNzsCmcCcBomEmfbFfEbCecBfdgcgcgcdBjmbBabtbcbpcoBiEtCrCbKhBddBxBvBgnBe",
       "fBmkBecBkeibfEsDaDuBoiCaDoCamLzjwkizcEvgcbbBsbcdbcxkxjBfCntbckwkBaCsCegcCmbpebdbBdBqBddB",
       "dBjibBcBbCckwktnsEgCvHbBkBmgBfbKmBqgcqdChBdkbiwBqsBuvBbxmCbCfccbnBtBgzBaBkBdbcbiBjdbmBwo",
       "evbbbBjsbztcClhbbbebpbkhBvBmicccwbhbcbfdbsbmfBekbbcbbBmbbzbbbBsCbseudBeBwucbbHcBvBpeBkBw",
       "ubChBrnbCtBbBlhHdBsIdicbcibcbypbbbDqicBnqbbbBcbkBohbvblButbsCvHrBhBfjbBlrbBxBeEihbcbBmvb",
       "zgbcbBgobMptpbbnbBiEubDbBJmDyEhrHoDXkDtpBPgrgzFXrfWlKDdBeCPuVxhBfrDbrBesBwqeBfvftQqBtPnC",
       "xfbConCmcbbBcJCaiBVqBpkNFrebhbcbLfpbBddcboeiPgDKuEdfndjhkNBcbThBtkhqbMjBesBsSqBcIuBecbTb",
       "hbebcbpbHpFebBUiebBbbcbbcbbkbebbbbgbebbbbbbdbcbbcbbbbbbbbbbcbbcebhbebebbbkbrfdbfbrGOaCLF",
       "cBgGDugIocINqoLBlpXyDQwUwCFyHHzfGFg"]),
    ("sc scontinue",
      ["BscmcBGcbSkbGscSwbGBxbfbDBecGAubCXAccbcBccBdccccbkbGmcmcCub"]),
    ("st sterm",
      ["BhbBdbCAbbFrdGybBrdJmbCjbbbdcLhcCPwcBEkbecBDtbHqcGbcBtbfbMccNqeGgckcccBddHfcCncBKucjdEUx",
       "dLubnbwcQnbBSHwbKkcItbdbOscDicDrbFwcFrdFocJpbBCCcbccClcGnbBdbCnbEDwcBXdfBseHhcEneExdEzcg",
       "bqcDkcbcEebLmcEncOjcfpEbcJpdTxbbbJrcDjcQecBAqcCwcBCMbcFdbCnclbVhcLkbBDOgbLImb"]),
    ("se sep",
      ["FdbLZmc"]),
    ("sp",
      ["jbbctbExbIHjbDPnlBkbBvbFXwb"]),
    ("up upper",
      ["CnBaDxxbhBhbbbbbbbbbbbbbbbbbbbbbbbbbbbbbbbbbbbbbbbbbbbbbbbbbbbbbbbcbbbbbbbbbbbbbbbcbbbbb",
       "bbbbbbbbbbbbbbbbbbbbbbbbbbbbbbbbbbbbbbbbbcbbbbdcbbbcbdcebcbddcbcbbbbbcbbcbbcbdbbbcdbhcbc",
       "bcbbbbbbbbbbbbbbbbcbbbbbbbbbbbbbbbbbccbbbdbbbbbbbbbbbbbbbbbbbbbbbbbbbbbbbbbbbbbbbbbbbbbb",
       "bbbbbbbbbbbbhcbccbbebbbbbbbbLdbbbdbibgbbdbbbcbrbjBjbcddbbbbbbbbbbbbbbbbbbbbbbbfbcbbccBzB",
       "wbbbbbbbbbbbbbbbbbbbbbbbbbbbbbbbbbjbbbbbbbbbbbbbbbbbbbbbbbbbbbbbbbbbbbbbbbbbbbbbbbbbbbbb",
       "bcbbbbbbbbbbbbcbbbbbbbbbbbbbbbbbbbbbbbbbbbbbbbbbbbbbbbbbbbbbbbbbbbbbbbbbbbbbbbbbbbbbbbbb",
       "bbbbbbbbbbbbbbbbbbbbbbcBmEHdBmbbfbBBuDiDGlbOkbbbbbbbbbbbbbbbbbbbbbbbbbbbbbbbbbbbbbbbbbbb",
       "bbbbbbbbbbbbbbbbbbbbbbbbbbbbbbbbbbbbbbbbbbbbbbbbbbbbbbbbbbbbbbbbbbbbbbbbbbbbbbbbbbbbbbbb",
       "bbbbbbbbbbbbbbbbbbjbbbbbbbbbbbbbbbbbbbbbbbbbbbbbbbbbbbbbbbbbbbbbbbbbbbbbbbbbbbbbbbbbbbbb",
       "bbbbbbbbbbbbbbbbbbbbbbbbbbbbjiigkiiiiglbbbbbbbiiyiiiiiiflflemflfKbbebddcdcbdfgbbbbbbecek",
       "cfbBaqtbBFmBaCSuBwBwbbdcbbbbbbebbcbidbbbbbbbbbbbbbbbbbbbbbbbbbbbbbbbbbbbbbbbbbbbbbbbbbbb",
       "bbbbbbbbbbbbbbbbbbbbbbbbbbbbbbbbbbbbbbbbbbbbbbbibbbebBTYjbbbbbbbbbbbbbbbbbbbbbbbbbbbbbbb",
       "bbbbbbbbbbbbbbtbbbbbbbbbbbbbbbbbbbbbbbbbbbFfbbbbbbbbbbbbbdbbbbbbbbbbbbbbbbbbbbbbbbbbbbbb",
       "bbbbbbbbbbbbbbbbbbbbbbbbbbbbbbbkbbbbcbbbbbbbbebbbcbbbdbbbbbbbbbbbbbbbbbbbbfbfbbbbbbbbbbb",
       "bbbbebbbcdbfbbbbbbbybBDZnBaBUzBoFgBkGalbpbhbcCQcBzGbwEGoBgBGJwBgBMMqBaBaBaBaBaBabbccbccc",
       "ebiBaBaBacbecibhBbcbebfbbdhBbBaBaBaBaBaBaBaBaBaBaBaBezBhzBhzBhzBhzBhbGNlBiDBiBagBagBa"])]

end SheetTables.Unicode
