import SheetTables.Unicode.CharSet

/-! # Scripts

The characters of every script, and the characters that are used in it though they may belong to
another, after edition 16 of the standard. Names are written as they are compared: in lower case
and without separators, the names of one script side by side.
-/

namespace SheetTables.Unicode

def scripts : NamedSets :=
  [
    ("adlm adlam",
      ["HAEaCyekec"]),
    ("ahom",
      ["DYQiBbcpex"]),
    ("hluw anatolianhieroglyphs",
      ["EPRkWl"]),
    ("arab arabic",
      ["CHcfbgbobdbBgbklBabEebBiDcBwJgBfbcfCxbBdDKTcElqNzcDccCchbBgqEifbFfFVnBfCpdCdeDGLsebBbbcb",
       "bcbbkbebbbbgbebbbbbbdbcbbcbbbbbbbbbbcbbcebhbebebbbkbrfdbfbrCac"]),
    ("armn armenian",
      ["BZdBmcBycdDLYpf"]),
    ("avst avestan",
      ["DUCeCcdh"]),
    ("bali balinese",
      ["KFwCzbBy"]),
    ("bamu bamum",
      ["CLCqDkCSBwVx"]),
    ("bass bassavah",
      ["FEJoBecg"]),
    ("batk batak",
      ["KNgCaie"]),
    ("beng bengali",
      ["DPoebicccwbhbbdecjccceibecbfcz"]),
    ("bhks bhaiksuki",
      ["EANojbBtbokBd"]),
    ("bopo bopomofo",
      ["BCscRLxBrEiBg"]),
    ("brah brahmi",
      ["DVZkDaeBkjb"]),
    ("brai braille",
      ["PDwJw"]),
    ("bugi buginese",
      ["JWaBccc"]),
    ("buhd buhid",
      ["IUyu"]),
    ("cans canadianaboriginal",
      ["HOyYqVoCsDQOwq"]),
    ("cari carian",
      ["DQXsBx"]),
    ("aghb caucasianalbanian",
      ["DRWyCalb"]),
    ("cakm chakma",
      ["DWJgCbbs"]),
    ("cham",
      ["CMJwCdjockce"]),
    ("cher cherokee",
      ["HLgDicgCFJeDc"]),
    ("chrs chorasmian",
      ["DVWiBc"]),
    ("zyyy common",
      ["aCnBagBaBvbpbfxbBfbRhBnffcuEmbjbgbbbYnbgbobdbBgbGabTwbEzcBVtbPpeLebCGldCtcHvcbbBVhbnbheb",
       "gbdcbBDtmcDjbldlbprBhClBmbdcgbBbbrBpdeZqwlvBJsJwYecBgbEbTsDqPmvbbbzpieeDncdbDmcFrqBgBmjb",
       "BwCmBfDdBvbDkGmJToCmBHSiBiDydGjkJkbGebPfbocBBYwcIakwBjbtbeFrbbBgBagBalkbBtcCmhbhkfJydeBt",
       "djDcnBzBtIuBbCSHweFVgJqgQuGaEmCiJmkBncCkdrichBeeCjIfumumDjjzFfDhbCtbccbcccebmbbbhbCnbeci",
       "bhbBcbebfbbdhbNccLgcByHThCqCyCjBBeBseDwmpcpbpbBlkGsCeBabcnBsejhcogFyBLwerdndEpeDrgmebpme",
       "CeikgBoiBecmecCkNcmocndkfCehpclgjhFrbDyBSUXbbBeDs"]),
    ("copt qaac coptic",
      ["BMgoPJkEmfh"]),
    ("xsux cuneiform",
      ["ECAyBJmDyEhbflHo"]),
    ("cprt cypriot",
      ["DSYqgcbbBsbcdbcb"]),
    ("cpmn cyprominoan",
      ["EHYeDv"]),
    ("cyrl cyrillic",
      ["BNkFdcGnIVolGebCybGFnBgBTOaDsBEDicDHPgCkBhb"]),
    ("dsrt deseret",
      ["DRLgDc"]),
    ("deva devanagari",
      ["DKqDdepcBaCIJgBgBODsk"]),
    ("diak divesakuru",
      ["DZKahcbcibcbBebccmjk"]),
    ("dogr dogra",
      ["DZAeCi"]),
    ("dupl duployan",
      ["GJCyEdfndjhkce"]),
    ("egyp egyptianhieroglyphs",
      ["EICmBQskFXr"]),
    ("elba elbasan",
      ["DRVcBo"]),
    ("elym elymaic",
      ["DVYex"]),
    ("ethi ethiopic",
      ["GVgCvbechbbbecBpbecBhbechbbbecpbCfbecCpcBgdBaJVaxjhbhbhbhbhbhbhbhBVKcgcgcgjhbhEMXlhbebcb",
       "p"]),
    ("gara garay",
      ["DUYiBmdBdic"]),
    ("geor georgian",
      ["GHsBmbbfbcBrbeEJwBrcdGEaBmbbfb"]),
    ("glag glagolitic",
      ["QRgDsGFYmhbrchbcbf"]),
    ("goth gothic",
      ["DRDgBb"]),
    ("gran grantha",
      ["DXCyebicccwbhbcbfcjcccdcbgbfhchdf"]),
    ("grek greek",
      ["BHwebdcebbebbbbdbbbubCloqJNqfByfefDgbMiwcgcBmcgcibbbbbbbBfcCbbpbocgbtcdbjLjbCAJebBDMoDbr",
       "bDAXrCs"]),
    ("gujr gujarati",
      ["DZldbjbdbwbhbcbfckbdbdcbpecmhh"]),
    ("gong gunjalagondi",
      ["EBBcgbcbBlbcbghk"]),
    ("guru gurmukhi",
      ["DUndbgeccwbhbcbcbccbbfeccddbhebbhr"]),
    ("gukh gurungkhema",
      ["FAQyCg"]),
    ("han hani",
      ["RPwBabDlmIgBvbbbzjoeBLcJToCmBFBkBERoOccEcBSIicmcCCOkCLFcBgGDugIocINqoLBlpXyDQwUwCFyHHzfG",
       "Fg"]),
    ("hang hangul",
      ["GLkJwLLecJxDqEjBfCnBfBTAnBdYtQNsmxeBxLZoBfdgcgcgcd"]),
    ("rohg hanifirohingya",
      ["DUVwBoik"]),
    ("hano hanunoo",
      ["ITsv"]),
    ("hatr hatran",
      ["DTHgtbcff"]),
    ("hebr hebrew",
      ["CCvCdiBbegDLVcBabfbbbcbcbk"]),
    ("hira hiragana",
      ["SHdDigdFMEbLbsbBddYMvb"]),
    ("armi imperialaramaic",
      ["DTBcwbj"]),
    ("qaai zinh inherited",
      ["BDoEiKrcRklBabBCieGOxBfTtdbnbhebgbdcHqCmUecHmBhFTxeEdcCWTpqqoBLnbIsbGFabCTCuBucxUydrichB",
       "eeBTLHiJg"]),
    ("phli inscriptionalpahlavi",
      ["DUFwtfi"]),
    ("prti inscriptionalparthian",
      ["DUEqwci"]),
    ("java javanese",
      ["CMEyDackec"]),
    ("kthi kaithi",
      ["DWEiCpkb"]),
    ("knda kannada",
      ["ETcnbdbxbkbfcjbdbehcgcbeckbd"]),
    ("kana katakana",
      ["SKvDmcdJgqIaBvbDkCWGkkbBtCOUcebhbcbbLbdByboe"]),
    ("kawi",
      ["EBRcrbBpdBd"]),
    ("kali kayahli",
      ["CMAaBubb"]),
    ("khar kharoshthi",
      ["DTSiebcfibdbBdcdekhj"]),
    ("kits khitansmallscript",
      ["FGHobKGxScBpb"]),
    ("khmr khmer",
      ["IXkDqckgkSsBg"]),
    ("khoj khojki",
      ["DWTcsbBv"]),
    ("sind khudawadi",
      ["DWZwChfk"]),
    ("krai kiratrai",
      ["FFHoCg"]),
    ("lao laoo",
      ["FMvcbbbfbybbbxcfbbbhbkce"]),
    ("latn latin",
      ["CnBagBaBvbpbfxbBfbRhBnfJXbBmgBxfefnbCsCnJwOfbnbqnFlcgbBbbrBpECtBgBULmDydCpccbbbivoBFkBrb",
       "jbeBBCwhBOkBagBaDCfgbBqbjDDNpBfgg"]),
    ("lepc lepcha",
      ["KPsCedpdd"]),
    ("limb limbu",
      ["JMeBfbmemebdm"]),
    ("lina lineara",
      ["DSEyLzjwki"]),
    ("linb linearb",
      ["DPXwmbBabtbcbpcoBiEt"]),
    ("lisu",
      ["CKKuBwBRLgb"]),
    ("lyci lycian",
      ["DQWmBd"]),
    ("lydi lydian",
      ["DTJsBafb"]),
    ("mahj mahajani",
      ["DWMiBn"]),
    ("maka makasar",
      ["EBPwz"]),
    ("mlym malayalam",
      ["EYanbdbBzbdbgeqcBa"]),
    ("mand mandaic",
      ["DDgBccb"]),
    ("mani manichaean",
      ["DTZsBnem"]),
    ("marc marchen",
      ["EARwBgcwbo"]),
    ("gonm masaramgondi",
      ["EAXkhbcbBsdbbcbjik"]),
    ("medf medefaidrin",
      ["FFRkDn"]),
    ("mtei meeteimayek",
      ["CMSmxHtBuck"]),
    ("mend mendekikakui",
      ["GZUeHpcq"]),
    ("merc meroiticcursive",
      ["DTOqyeucBu"]),
    ("mero meroitichieroglyphs",
      ["DTNkBg"]),
    ("miao plrd",
      ["FFYuCxeCfhr"]),
    ("modi",
      ["DYGmCrlk"]),
    ("mong mongolian",
      ["JCiccbbugDlhBrDPBhn"]),
    ("mro mroo",
      ["FEEaBfbkec"]),
    ("mult multani",
      ["DWYahbbbebpbl"]),
    ("mymr myanmar",
      ["GBoGeCGAyBfDtBgBLZsu"]),
    ("nbat nabataean",
      ["DTDoBfij"]),
    ("nagm nagmundari",
      ["GYOuBq"]),
    ("nand nandinagari",
      ["DZQeicBucl"]),
    ("talu newtailue",
      ["JRcBseBagldc"]),
    ("newa",
      ["DXMuDobf"]),
    ("nko nkoo",
      ["CYiChcd"]),
    ("nshu nushu",
      ["FGHlbYVmPg"]),
    ("hmnp nyiakengpuachuehmong",
      ["GXDgBtdockec"]),
    ("ogam ogham",
      ["INoBd"]),
    ("olck olchiki",
      ["KSuBw"]),
    ("onao olonal",
      ["GYYqBreb"]),
    ("hung oldhungarian",
      ["DUQyBznBzhg"]),
    ("ital olditalic",
      ["DRBkBkjd"]),
    ("narb oldnortharabian",
      ["DTXgBg"]),
    ("perm oldpermic",
      ["DREmBr"]),
    ("xpeo oldpersian",
      ["DRHoBkeo"]),
    ("sogo oldsogdian",
      ["DVPoBo"]),
    ("sarb oldsoutharabian",
      ["DTWaBg"]),
    ("orkh oldturkic",
      ["DUMaCv"]),
    ("ougr olduyghur",
      ["DVTwBa"]),
    ("orya oriya",
      ["EEjdbicccwbhbcbfcjcccdhdecbfcs"]),
    ("osge osage",
      ["DRSaBkeBk"]),
    ("osma osmanya",
      ["DRQeBeck"]),
    ("hmng pahawhhmong",
      ["FELkCskkbhbvft"]),
    ("palm palmyrene",
      ["DTCiBg"]),
    ("pauc paucinhau",
      ["EABgCf"]),
    ("phag phagspa",
      ["CLSqCe"]),
    ("phnx phoenician",
      ["DTImBcdb"]),
    ("phlp psalterpahlavi",
      ["DUHcshemh"]),
    ("rjng rejang",
      ["CMBwBklb"]),
    ("runr runic",
      ["IOuCxdl"]),
    ("samr samaritan",
      ["DAuBucp"]),
    ("saur saurashtra",
      ["CLVcCsim"]),
    ("shrd sharada",
      ["DWOeDs"]),
    ("shaw shavian",
      ["DROiBw"]),
    ("sidd siddham",
      ["DYBoCccBm"]),
    ("sgnw signwriting",
      ["GTSqZcpfbp"]),
    ("sinh sinhala",
      ["FCzdbsdybjbbchdbegbbbigkcdDRKmu"]),
    ("sogd sogdian",
      ["DVRkBq"]),
    ("sora sorasompeng",
      ["DWHkzhk"]),
    ("soyo soyombo",
      ["DZWyDf"]),
    ("sund sundanese",
      ["KKuCmJwi"]),
    ("sunu sunuwar",
      ["EALcBiok"]),
    ("sylo sylotinagri",
      ["CLQeBt"]),
    ("syrc syriac",
      ["CQyobCicdKml"]),
    ("tglg tagalog",
      ["ISmwjb"]),
    ("tagb tagbanwa",
      ["IWenbdbc"]),
    ("tale taile",
      ["JPgBecf"]),
    ("lana taitham",
      ["JXgClbBdclgkgo"]),
    ("tavt taiviet",
      ["CMOuCpyf"]),
    ("takr takri",
      ["DYLkCggk"]),
    ("taml tamil",
      ["EJicbgddbedcbbbcdcdddmefddbecbgbovDXKnBynb"]),
    ("tnsa tangsa",
      ["FEFwDbbk"]),
    ("tang tangut",
      ["FGHkbBfJCaiBDoTsj"]),
    ("telu telugu",
      ["EOenbdbxbqcjbdbehcbdcbceckhj"]),
    ("thaa thaana",
      ["CVwBy"]),
    ("thai",
      ["FHxCgfBc"]),
    ("tibt tibetan",
      ["FRsCubBkeBnbBkbpbhec"]),
    ("tfng tifinagh",
      ["RCyCehcob"]),
    ("tirh tirhuta",
      ["DXRsCuik"]),
    ("todr todhri",
      ["DSCmCa"]),
    ("toto",
      ["GXSqBf"]),
    ("tutg tulutigalari",
      ["DXHwkbbcbbBmbkbbcbbebkbcic"]),
    ("ugar ugaritic",
      ["DRGiBebb"]),
    ("vai vaii",
      ["CKMqLo"]),
    ("vith vithkuqi",
      ["DRZklbpbhbcblbpbhbc"]),
    ("wcho wancho",
      ["GXUmCgfb"]),
    ("wara warangciti",
      ["DZGiDfmb"]),
    ("yezi yezidi",
      ["DVKqBqbdcc"]),
    ("yi yiii",
      ["CIPkBSvdCd"]),
    ("zanb zanabazarsquare",
      ["DZTwCu"])]

/-- Every script with its names and the runs of the characters used in it. -/
def scriptExtensions : NamedSets :=
  [
    ("adlm adlam",
      ["CIhbBgbJWobFHhbGIQoCyekec"]),
    ("ahom",
      ["DYQiBbcpex"]),
    ("hluw anatolianhieroglyphs",
      ["EPRkWl"]),
    ("arab arabic",
      ["CHcfbIhbBiDcBwJgBfbcfCxbBdIVnbFHhbCWQgElqRdcCchbBgqEifbFfBMhBcEIeBfCpdCdeDGLsebBbbcbbcbb",
       "kbebbbbgbebbbbbbdbcbbcbbbbbbbbbbcbbcebhbebebbbkbrfdbfbrCac"]),
    ("armn armenian",
      ["BDwbVgBmcBycdDLYpf"]),
    ("avst avestan",
      ["HbbRFscDCPiCcdh"]),
    ("bali balinese",
      ["KFwCzbBy"]),
    ("bamu bamum",
      ["CLCqDkCSBwVx"]),
    ("bass bassavah",
      ["FEJoBecg"]),
    ("batk batak",
      ["KNgCaie"]),
    ("beng bengali",
      ["BAybCMucrcBaebicccwbhbbdecjccceibecbfczHDhbbbccbbibibcbebcdCBAfb"]),
    ("bhks bhaiksuki",
      ["EANojbBtbokBd"]),
    ("bopo bopomofo",
      ["BBjbbdnbqcRBxdekbnkecbgbHnbjBrEiBgCWKzcKwf"]),
    ("brah brahmi",
      ["DVZkDaeBkjb"]),
    ("brai braille",
      ["PDwJw"]),
    ("bugi buginese",
      ["JWaBcccCCKtb"]),
    ("buhd buhid",
      ["IUncju"]),
    ("cans canadianaboriginal",
      ["HOyYqVoCsDQOwq"]),
    ("cari carian",
      ["HbbLZmbcbFGdbCZKwBx"]),
    ("aghb caucasianalbanian",
      ["BDsbBsbBsbDQPtCalb"]),
    ("cakm chakma",
      ["DTmkCKekDQEwCbbs"]),
    ("cham",
      ["CMJwCdjockce"]),
    ("cher cherokee",
      ["BDodbbgcwclcGFuDicgCFJeDc"]),
    ("chrs chorasmian",
      ["DVWiBc"]),
    ("zyyy common",
      ["aCnBagBaBvbmbcbfxbBfbRhdbkbbdbbjbbbgffcuEwbgbbbYnbIhbTwbCAubPpeGDbmcBhbBfbkbcbhbldlbprBh",
       "ClBmbdcgbBbbrBpdeZqwlvBJsJwYecBgbEbTsxbyckbebbbBaQcbdbnbnbvbUjyBfbBxpmeGfkfDsBfbJToCmBHS",
       "qBaDydBLobocBCGykwvcmbtbeFrbbBgBagBagExhbhkfPmnBzBtCYNbJqgQuGaEmCiJmkBncCkdrichBeeCjIfum",
       "umDjBbhFfDhbCtbccbcccebmbbbhbCnbecibhbBcbebfbbdhbNccLgcByHThCqCyCjBBeBseDwmpcpbpbBlkGsCe",
       "BabcnBsejxgFyBLwerdndEpeDrgmebpmeCeikgBoiBecmecCkNcmocndkfCehpclgjhFrbDyBSUXbbBeDs"]),
    ("copt qaac coptic",
      ["HbbWmbdcbbEecEeoPJkEmfhKtbCZOiBc"]),
    ("xsux cuneiform",
      ["ECAyBJmDyEhbflHo"]),
    ("cprt cypriot",
      ["DQHsdeBtdjCOmgcbbBsbcdbcb"]),
    ("cpmn cyprominoan",
      ["DQHscRQkDv"]),
    ("cyrl cyrillic",
      ["BAybCpdbbbbbbcbfbJeLsIVolGebCybExbGApBgCpbBTLkDsBEDicDHPgCkBhb"]),
    ("dsrt deseret",
      ["DRLgDc"]),
    ("deva devanagari",
      ["BAybCJrDfcBrHIeBnbcBNabBZFrkGkBgBODsk"]),
    ("diak divesakuru",
      ["DZKahcbcibcbBebccmjk"]),
    ("dogr dogra",
      ["DOmmCIDckBNHuCi"]),
    ("dupl duployan",
      ["HbbWtcbbycQIhbFRPrEdfndjhkci"]),
    ("egyp egyptianhieroglyphs",
      ["EICmBQskFXr"]),
    ("elba elbasan",
      ["HbbWrbDQRiBo"]),
    ("elym elymaic",
      ["DVYex"]),
    ("ethi ethiopic",
      ["BEcbFRdCvbechbbbecBpbecBhbechbbbecpbCfbecCpcBgdBaJVaxjhbhbhbhbhbhbhbhBVKcgcgcgjhbhEMXlhb",
       "ebcbp"]),
    ("gara garay",
      ["CHobobdbDSQaBmdBdic"]),
    ("geor georgian",
      ["HbbBVlbEFeBmbbfbcBwEJwBrcdBJmbEUnBmbbfbJzb"]),
    ("glag glagolitic",
      ["HbbWpbbbOsbcbJxbEIrbFVibEKrDsSpbBTNfbELSqhbrchbcbf"]),
    ("goth gothic",
      ["HbbWqccbBobDPXuBb"]),
    ("gran grantha",
      ["DNtcrcYqoGKabbcBeddcBNabDKQpebicccwbhbcbfbkcccdcbgbfhchdfERrcbb"]),
    ("grek greek",
      ["HbbWmccbbbbbkbBubcbBqicebbebbbbdbbbubCloqJNqfByfefDgdMgwcgcBmcgcibbbbbbbBfcCbbpbocgbtcdb",
       "jDqbHsbCAJebBDMoDbrbDAXrCs"]),
    ("gujr gujarati",
      ["DNtcrcKxdbjbdbwbhbcbfckbdbdcbpecmhhCHNsk"]),
    ("gong gunjalagondi",
      ["HbbDHkcDXMogbcbBlbcbghk"]),
    ("guru gurmukhi",
      ["DNtcrcFzdbgeccwbhbcbcbccbbfeccddbhebbhrCHSzk"]),
    ("gukh gurungkhema",
      ["DOnbEXCkCg"]),
    ("han hani",
      ["HbbRIuBabDlmIgBaqbdbnbnbncbgjHfbFsqBgBmjbBwBoCeBxpmBzbDkzkfDsBfbJToCmBFBkCQyiBCAiOccEcBH",
       "rcKwfBQPocmcBLRasLRycFEsCLFcBgGDugIocINqoLBlpXyDQwUwCFyHHzfGFg"]),
    ("hang hangul",
      ["GLkJwLJldekbnodgbHnbCbDqEjBfCnBfBTAnBdYtQNsmxeBxLMfcKwfCgBfdgcgcgcd"]),
    ("rohg hanifirohingya",
      ["CHobobdbBgbFrbDSGpBoik"]),
    ("hano hanunoo",
      ["ITsx"]),
    ("hatr hatran",
      ["DTHgtbcff"]),
    ("hebr hebrew",
      ["BDvcYyCdiBbegDLVcBabfbbbcbcbk"]),
    ("hira hiragana",
      ["SErdekbnqgbbecdDiciDmcCWSmcKwfkbBtcCOUrLbsbBddYMvb"]),
    ("armi imperialaramaic",
      ["DTBcwbj"]),
    ("qaai zinh inherited",
      ["BEdbcbbmbcdhcbcqbcbsbfbeCGmcGOxBfBDbCcbbbfUecHmBgDCRwqqoBLnbCZQoBucxUydrichBeeBTLHiJg"]),
    ("phli inscriptionalpahlavi",
      ["DUFwtfi"]),
    ("prti inscriptionalparthian",
      ["DUEqwci"]),
    ("java javanese",
      ["CMEyDablec"]),
    ("kthi kaithi",
      ["DOokNXxbBUFekBKLyCpkb"]),
    ("knda kannada",
      ["DNtcrcBEonbdbxbkbfcjbdbehcgcbeckbdGAebbcgbxbbbCASxg"]),
    ("kana katakana",
      ["BDtbBdbQZtdekbnqgbbecDnedDsJgqIaBvbDkCVVhcKwClCOUaebhbcbbLbdByboe"]),
    ("kawi",
      ["EBRcrbBpdBd"]),
    ("kali kayahli",
      ["CMAaBw"]),
    ("khar kharoshthi",
      ["DTSiebcfibdbBdcdekhj"]),
    ("kits khitansmallscript",
      ["FGHobKGxScBpb"]),
    ("khmr khmer",
      ["IXkDqckgkSsBg"]),
    ("khoj khojki",
      ["EDikCHOikBLAssbBv"]),
    ("sind khudawadi",
      ["DOmcCIDmkBLHmChfk"]),
    ("krai kiratrai",
      ["FFHoCg"]),
    ("lao laoo",
      ["FMvcbbbfbybbbxcfbbbhbkce"]),
    ("latn latin",
      ["CnBagBaBvbmbcbfxbBfbRhdbkbbdbbjbbbgfBbpbcbbmbcdhcbcBmbfbenKrcBVecCXkbEOiBmgBxfefnbCsCfbh",
       "JwLrbCnbnbqnDfbCfcgbBbbrBpECtBgPrbBTUmiBaDydCpccbbbivoLqbTtBrbjbeBBCwhBOkBagBaDCfgbBqbjD",
       "DNpBfgg"]),
    ("lepc lepcha",
      ["KPsCedpdd"]),
    ("limb limbu",
      ["DOnbFXqBfbmemebdm"]),
    ("lina lineara",
      ["DQHzBtBVgLzjwki"]),
    ("linb linearb",
      ["DPXwmbBabtbcbpcoBiEtfdeBtdj"]),
    ("lisu",
      ["BAybqbRDkcBSFsBwBRLgb"]),
    ("lyci lycian",
      ["MGobDEPxBd"]),
    ("lydi lydian",
      ["HbbRFtbDBWwBafb"]),
    ("mahj mahajani",
      ["HbbDHkmCIDckBKTyBn"]),
    ("maka makasar",
      ["EBPwz"]),
    ("mlym malayalam",
      ["DNtcrcBJmnbdbBzbdbgeqcBaFVebxbCASzd"]),
    ("mand mandaic",
      ["CJobTrBccb"]),
    ("mani manichaean",
      ["CJobDRQdBnem"]),
    ("marc marchen",
      ["EARwBgcwbo"]),
    ("gonm masaramgondi",
      ["DOmcDXIwhbcbBsdbbcbjik"]),
    ("medf medefaidrin",
      ["FFRkDn"]),
    ("mtei meeteimayek",
      ["CMSmxHtBuck"]),
    ("mend mendekikakui",
      ["GZUeHpcq"]),
    ("merc meroiticcursive",
      ["DTOqyeucBu"]),
    ("mero meroitichieroglyphs",
      ["MGrbDHGsBg"]),
    ("miao plrd",
      ["FFYuCxeCfhr"]),
    ("modi",
      ["CLSakBMOcCrlk"]),
    ("mong mongolian",
      ["JCiBagDlhBrCWabFZtcfeDGFcn"]),
    ("mro mroo",
      ["FEEaBfbkec"]),
    ("mult multani",
      ["DYkkDSZghbbbebpbl"]),
    ("mymr myanmar",
      ["GBoGeCFUcbGvBfDtBgBLZsu"]),
    ("nbat nabataean",
      ["DTDoBfij"]),
    ("nagm nagmundari",
      ["GYOuBq"]),
    ("nand nandinagari",
      ["DOmcBImkGBhbibhbCASrgBNXyicBucl"]),
    ("talu newtailue",
      ["JRcBseBagldc"]),
    ("newa",
      ["DXMuDobf"]),
    ("nko nkoo",
      ["CHobobdbQaChcdDLVyc"]),
    ("nshu nushu",
      ["FGHlbYVmPg"]),
    ("hmnp nyiakengpuachuehmong",
      ["GXDgBtdockec"]),
    ("ogam ogham",
      ["INoBd"]),
    ("olck olchiki",
      ["KSuBw"]),
    ("onao olonal",
      ["DOmcGVKcBreb"]),
    ("hung oldhungarian",
      ["MGobcbFGdbpbDDDmBznBzhg"]),
    ("ital olditalic",
      ["DRBkBkjd"]),
    ("narb oldnortharabian",
      ["DTXgBg"]),
    ("perm oldpermic",
      ["HbbWmbfdkbOdbDPMaBr"]),
    ("xpeo oldpersian",
      ["DRHoBkeo"]),
    ("sogo oldsogdian",
      ["DVPoBo"]),
    ("sarb oldsoutharabian",
      ["DTWaBg"]),
    ("orkh oldturkic",
      ["MGobFGfbDCZfCv"]),
    ("ougr olduyghur",
      ["CJobDRSbbBSfBa"]),
    ("orya oriya",
      ["DNtcrcPvdbicccwbhbcbfcjcccdhdecbfcsGPebxb"]),
    ("osge osage",
      ["BDpbcbgbCybDQLbBkeBk"]),
    ("osma osmanya",
      ["DRQeBeck"]),
    ("hmng pahawhhmong",
      ["FELkCskkbhbvft"]),
    ("palm palmyrene",
      ["DTCiBg"]),
    ("pauc paucinhau",
      ["EABgCf"]),
    ("phag phagspa",
      ["JCkcbbDCjbFZubBTNxCe"]),
    ("phnx phoenician",
      ["DTImBcdb"]),
    ("phlp psalterpahlavi",
      ["CJobDRXnshemh"]),
    ("rjng rejang",
      ["CMBwBklb"]),
    ("runr runic",
      ["IOuDl"]),
    ("samr samaritan",
      ["DAuBucpOJqb"]),
    ("saur saurashtra",
      ["CLVcCsim"]),
    ("shrd sharada",
      ["DNtbHKfbbbcccbCATrgcbBKVvDs"]),
    ("shaw shavian",
      ["HbbDRHgBw"]),
    ("sidd siddham",
      ["DYBoCccBm"]),
    ("sgnw signwriting",
      ["GTSqZcpfbp"]),
    ("sinh sinhala",
      ["DOmcBOldbsdybjbbchdbegbbbigkcdFRpbDLSwu"]),
    ("sogd sogdian",
      ["CJobDTHvBq"]),
    ("sora sorasompeng",
      ["DWHkzhk"]),
    ("soyo soyombo",
      ["DZWyDf"]),
    ("sund sundanese",
      ["KKuCmJwi"]),
    ("sunu sunuwar",
      ["BDocbbjbcbBcbdbDZFqBiok"]),
    ("sylo sylotinagri",
      ["DOmcEykCHWiBt"]),
    ("syrc syriac",
      ["BDrcccbbvbcdhcbbBCdboccbBgbklBabFnobCicdKmlIEfbbb"]),
    ("tglg tagalog",
      ["ISmwjbvc"]),
    ("tagb tagbanwa",
      ["IUncBpnbdbc"]),
    ("tale taile",
      ["BDocfcdbEZzkDKwBecf"]),
    ("lana taitham",
      ["JXgClbBdclgkgo"]),
    ("tavt taiviet",
      ["CMOuCpyf"]),
    ("takr takri",
      ["DOmcCIDmkBMTaCggk"]),
    ("taml tamil",
      ["DNtcrcUucbgddbedcbbbcdcdddmefddbecbgbovGKdbCBBkbBLDlbbbCdcETfBynb"]),
    ("tnsa tangsa",
      ["FEFwDbbk"]),
    ("tang tangut",
      ["SEaqTbbENJsbBfJCaiBDoTsj"]),
    ("telu telugu",
      ["DNtcrcZqnbdbxbqcjbdbehcbdcbceckhjGFabxb"]),
    ("thaa thaana",
      ["CHoboccbCmkKsByDMFwbkb"]),
    ("thai",
      ["BAybBabBrbBtbEClCgfBc"]),
    ("tibt tibetan",
      ["FRsCubBkeBnbBkbpbhecMEve"]),
    ("tfng tifinagh",
      ["BDqbbbcbbbPZaCehcob"]),
    ("tirh tirhuta",
      ["DNtcrcHKmbCASzkBLZiCuik"]),
    ("todr todhri",
      ["BDpbcbcbjbbbCwbDQVhCa"]),
    ("toto",
      ["BAybGWRrBf"]),
    ("tutg tulutigalari",
      ["EXakGBqbbbCASxgHfbBLIkkbbcbbBmbkbbcbbebkbcic"]),
    ("ugar ugaritic",
      ["DRGiBebb"]),
    ("vai vaii",
      ["CKMqLo"]),
    ("vith vithkuqi",
      ["DRZklbpbhbcblbpbhbc"]),
    ("wcho wancho",
      ["GXUmCgfb"]),
    ("wara warangciti",
      ["DZGiDfmb"]),
    ("yezi yezidi",
      ["CHobobdbCmkDSZmBqbdcc"]),
    ("yi yiii",
      ["SErcfkciIpbBQBcBSvdCdBFHif"]),
    ("zanb zanabazarsquare",
      ["DZTwCu"])]

end SheetTables.Unicode
