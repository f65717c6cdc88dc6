import SheetTables.Unicode.CharSet

/-! # Ages of characters

The characters that each edition of the standard up to the sixteenth has added. Names are
written as they are compared, the names of one edition side by side.
-/

namespace SheetTables.Unicode

/-- The editions in order, with their names and the runs of the characters that are new in them. -/
def editions : NamedSets :=
  [
    ("1.1 v11",
      ["aTieBeCeDlhBvbkwCsBacscebdbfhbbbubBsbhdbbbbbbbbsnmbCobmbBpjCbccccdBcciccCdBmchbBnbbBmkbj",
       "mBbffxbobdbbBaftnocCucfbpbBeckTzdbCbcscfdzqdbicccwbhbbdecbbhcccdjbecbfcvhbcgeccwbhbcbcbc",
       "cbbfeccdlebbhpmdbhbbbdbwbhbcbfckbdbdcbpbfkrdbicccwbhbccecidccdicecbdelrcbgddbedcbbbcdcdd",
       "dibdefddbejbpmodbibdbxbkbfehbdbehcjcekscbibdbxbkbfehbdbehchbbcekscbibdbxbqegcdbejbicekFp",
       "CgeBdBlcbbccbbcbgebhbdbbbbccbnbdcfbbbgckccRiBmkBnebeDmfCqfDeEOkFzfDmgwcgcBmcgcibbbbbbbBf",
       "cCbbpbocgbtcdbjbBvbxBjhdBbrlBlsBeCfBaBwnDnvJiobbErFdBlBblvFjvFukDcqugDiFpebecBcbBjbbbedb",
       "bhchoBfdyboDDhCehbbDgegcDqgBoeDqbqDsBddBkBcBcdBypmeBvbEpeDvcBfJWbBEXyVIwJXuIchmfgzbfbbbc",
       "bcbEeBhObqCmcCcBomBkemvekbtbeedbbbFfcbbDqcDqdgcgcgcddhbhod"]),
    ("2.0 v20",
      ["CCvrbnubDMxCubBhhBbegbbbvdhbbFQnbUhbCATwQNsEFFecDSYocDSYocDSYocDSYocDSYocDSYocDSYocDSYoc",
       "DSYocDSYocDSYocDSYocDSYo"]),
    ("2.1 v21",
      ["MJsbDDNzb"]),
    ("3.0 v30",
      ["TieBeicsEnfBxbkfDjjtbEmbdbbbbbbbBebmbCobmbBqcceDocGabHsdDucfbpbBqfbobBedBbCbBxCFhcbsdybj",
       "bbchdbegbbbisdOjbBrbxdhbbdbpcbBwBibfbcbhdegBaQghbClbbbechbbbecBnbbbecBfbbbechbbbechbhbxb",
       "BfbbbechbBnbtgBcBjDhmYgjBddDdFnDpdkwpbkgDkiBqCWbbygDrdBycDhcCubDzjKjbErbbBeFicRpiBhbDicP",
       "iJwCCeBabDlmIgBamCiddbNpyWmJTeBFEgBSvdscqbmbdbbBDRibBVvd"]),
    ("3.1 v31",
      ["BMycDNPiBgBXwBfbemBbGzBmcBmCZDqJmkBndGyVaDhbCtbccbcccebmbbbebcbCnbecibhbBcbebfbbdhbNaeLe",
       "eByPDwCLEtBETdUwBPCQtbBeDs"]),
    ("3.2 v32",
      ["UybLqbtnEacBcbFrcCfcccccBxqNmcMjbDNhcCHjnbhlxjumnbdbcDIxbgfebhfnbCkcByhDepGmmJioEubBeCaK",
       "yuFvkDkiwcDmmckIooDmBceqJwTsBZndDjcicDqbJgqDdpDdpBRDicqbmbdbBDIgChBJdbdqCbcBsbJbc"]),
    ("4.0 v40",
      ["UzbsdEpcClrDcifdFvfTwejjCmdFtcpbBtdBddQubHcbCpbbbFgbDgdnbCpbChbEziHlcEFnbskKcBddmemebdBq",
       "cfEdBgBDoEeBCpcIwbZjcLqbKqcEmiocBRaoCRncBxbBrcDaeGleDvcBfbJToCmCLQbbCvcQxmbBabtbcbpcoBiE",
       "tfdeBtdjWeBebbFecBmDcckBGwgcbbBsbcdbcbCYUiDjNybBTKDaJg"]),
    ("4.1 v41",
      ["VvlKsfGdeJmcGobBidCpbsbCggJhBeUhbDcbStbBvbBMncLjcbbKgbClbClbBnbBfbBfbBfbpbBnbxcBfBaCGcBq",
       "gBagkecBgBcccBGmDkZhcbhBxfBdeCbbDcbpbYulWabDxcslfqKkhBGhgJcBvbBvBhEdoBtkCcjbqxjhbhbhbhbh",
       "bhbhbhBhyecBJuqGsbBPItwCToxIzBsBCDgEcBFqkBFaCxUnBkeoCIsebcfibdbBbedejijCXPvCsBRac"]),
    ("5.0 v50",
      ["WgoLndMzbBqgqeGkbTxChOucbcBHicncFIjCyeBtWlhBzcBCueDpcCbbXbmBBmbKqeBGjhfeMenheBULjefcLaCe",
       "BHNsBafbIRgBHvFpDvneCOGisBQuc"]),
    ("5.1 v51",
      ["BHweccDjbHbbFkqIsflfBgfLqsTdcIobBjbHybBdcEebEebBacicuiHhbgbBdcmgdhSxcDtbddCzbfbcbhdegBaC",
       "mecDBebBBxBrdmCsCedpdBzMtBcGzeDmgNsbFjbDqbCbeBYabvkdeKebBfeBFffeBpdfKudbdegNqBgyectBDkbG",
       "guBPPoiBZoLouBgcsiBcFbfcEdEgfEyCrjmBmDglbGeCdjockceBCSadBHpmCaBuFaBddBxCKdBafbCXSjbLRqBs",
       "eDw"]),
    ("5.2 v52",
      ["BYqcBCcBucpHlbCzbgbBjcEybCFpeHleHgfCqfDegTsbYgjVoCsGycBubCrClbBdclgkgoVaBjKgbBAudFvdCcbX",
       "ibBArcBddekbtbbeyDjbBNhfKsbncEdhMhbBOcmBPLsiBXkBwQaDkMakGkBcDwBddDablecEyBceCpyfIqBuckQO",
       "kxeBxKAhdFGcwbjHecMmBgEyCcdBdcBbfiEyCvUpBfTtCoLVqBPfCTNdlfBfcblbbbcbdbdfibhbzbbccbkecbEh",
       "bpBiojCQLjGDp"]),
    ("6.0 v60",
      ["BYscJobCkbSmBccbIlctbgcBbfTmgQrbqbtbWbeCvcBIocDEnCaieTobZoiBcbBFjlBCcbtbbeBdbecBcbBjbbbe",
       "djcCadybobocCDkbobBPodBSEncLncbcokDcbBDugcgcgjhbhBBLzqHRiDaeBeBHEeVxBALbcYMgpcocpbpDcbbl",
       "bbbcbdbdfibhbkgjbbccbkecbkCxBabcBvjvcGsBhpgbCsdumBlbfvrpClbbbHabedCksyFrfbqbdbbbbbbbdbgc",
       "ebbcebmelBwCsCgEmCUQmIo"]),
    ("6.1 v61",
      ["CCtbEmbZrbblCdBbTdbBMrcStbfbBvdEBbdmgJwiBreECqbbbBYqcBzbfbCecHukBRAebCNniBjbJicwbCzcBCox",
       "BAZfcFUuCegcCRozhkgCbboCiCvhkBTuCeikBHKoCrlBvqrBVWiebBbbcbbcbbkbebbbbgbebbbbbbdbcbbcbbbb",
       "bbbbbbcbbcebhbebebbbkbrfdbfbrCacYicBLseHgbqbdbbbbbbbdbgcebbceb"]),
    ("6.2 v62",
      ["MKgb"]),
    ("6.3 v63",
      ["CIebJYve"]),
    ("7.0 v70",
      ["BIlbQiiDpcEobZrblgCybEqbhbYpbBzbCybExbIukDKriVccPlpVxcJdpBBhdBFqhBDtbBQidkBacBgcBidmbiXu",
       "hBTOvgJmmldccCrbSuBfEveGuBwecBCIbhBHdctbMhBcBjbBwBrOzBoiCalbFoLzjwkiJoClijRwBgBgBnemFhsh",
       "emhBVjbIaBnDibmbgulsbBrEkChfkhdbicccwbhbcbfcjcccdjbfhchdfKhCuikGkCccsCcCrlkWkDfmbRgCfDFi",
       "BqHumfbBALfBfbkecDsBecgkCskkbhbvftBEMaEdfndjhkciQKyHpcqCZwbBgwvcUmmjbCsbwmBlbfefmrhCtbbb",
       "HabecClcehBdsbBpbDiCscnBwCskqndeFkDhBrmeCeikgBoiBe"]),
    ("8.0 v80",
      ["DHrcBubUnbNobKabCMvbcgEVobHvcDYeeBRWvjCOubJgbBigMmcXmemDcBCEwcEBgtbcffHgccqcBuYqBznBzhgB",
       "VdeofGehbbbebpblDibDbbYjuLeBadpeqERpbIwHoLQqWlCAWllCHzZcpfbpJHddDacDbfBkiJvbCxfJjcFjbWdj",
       "DzfChbCUClINq"]),
    ("9.0 v90",
      ["DHuiwpBJpbHybedbhxdFRzjOgbCHbeDXccBTZlbKsbBEPjcBEvBkeBkFAobRhDmbbbbTunCCxjbBtbokBddBgcwb",
       "oBFMvbBfJBptBDbBGFlhbrchbcbfDIzCxfkecDDbsFmbBFybBpbLocBhdVagbiibcmbmepBmn"]),
    ("10.0 v100",
      ["DEmlPlcJsgTsbCgcFYwbJueBBhbBFzbCZabYcfBCmbBPXnvBIOodIQqCuiCacxbfXhhbcbBsdbbcbjikBFGpbYHk",
       "KzDdPgYAegBRpcBicTzmtbiibczbsnBmgCexDCPdLBl"]),
    ("11.0 v110",
      ["CAybBnbDybUfdIdbLmbEpbPhbExbENrbBOhBrcdFRmdwzepWpfBCibBPYhfCYhbicMmcBHUicsbBAtBoikRmBoiB",
       "qOhbEodTgbLebBAxbIvCiXlbBBegbcbBlbcbghkLyzBEApDnJPifBCJuuEwhJLwCqBScbCEzbIleOidBcfcedbbe",
       "ylnkhcBkzDso"]),
    ("12.0 v120",
      ["EStbUgbcbcbbgebhbhccbnbFKhbFPubCbbWtbBTZmgcfBJrcBJAmxBRkbXcbBCpicBuclGdcBZmBynbHQujWJkge",
       "bBvjDmcJCwgPRcdreSAqBtdockecOeCgfbCJzbBKnCjBPebCBgbBkbIvmLddBvbBxbjbBpgdckgdicdBwDgBceed",
       "fdng"]),
    ("12.1 v121",
      ["TIdb"]),
    ("13.0 v130",
      ["DIckZdbQobEubFAjcGJubBAudBHofKPikBFDgnCYseBqcCbbBFveBDPwbEWxBqbdccJuBcOpbFecZabfcBTmhcbc",
       "ibcbBebccmjkCKkbBEJrblcKFxSpBqjBLWudDpdCjbBYucBjcQtcDmbDxbecBqcgdBdbGmboepthhjdnhBpFrbCd",
       "BlkCMSjhBHTqHHz"]),
    ("14.0 v140",
      ["CIfbWwBfbcgivbslBHpbBgbExbDWhbhbjbJfbBAnoEvbBwcYlbBBhbEIobBvbTflBRAtdCYicocbbbfydBCSjbOr",
       "qExbBucCVglbpbhbcblbpbhbcRjgbBqbjCXxBaIwgCybCGsbFehBHpqHWyDvWDxDbbkBAEwebhbcLceLIbBucxjE",
       "mVdcEYvBfBHxBfBZdhbebcbpFQkdKmbPcbDebGscBsekeidrdgiihCNCpcGEve"]),
    ("15.0 v150",
      ["EXnbSgbDPZqdBFzdDIckBNarbBpdBcHXdbjBdBVHkbBibMRauERhgKbCkBhbBPwBqGUcbFvdefDlbZrdpcBkdldb",
       "bockcmbocCTHobBIWsGFg"]),
    ("15.1 v151",
      ["SEmeTbbKBHwXy"]),
    ("16.0 v160",
      ["DGpbHCgcBvbKfcCWydFFecBSQvdmdBGNrCaCTwBmdBdicLudCdbBSlkbbcbbBmbkbbcbbebkbcicBCvuBVwBiokB",
       "HgbHYzFXrKZtCgEOkCgLYjbXWiJqgQuIToBrebHCckecRnbfbBubhbvbcbjbIrBl"])]

def age? (name : String) : Option CharSet :=
  (editions.findIdx? fun e => name ∈ e.1.splitOn " ").map fun n =>
    (editions.take (n + 1)).foldl (fun s e => s.union (.ofRuns e.2)) .none

end SheetTables.Unicode
