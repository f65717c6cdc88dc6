import SheetTables.Unicode.Edition17

/-! # Lower case

The lower case of text. A capital sigma that ends a word becomes the final sigma, and the
dotted capital I becomes an i with a dot above; every other character has a lower case of its
own, the same wherever it stands. The pairs are those of edition 17 of the standard.
-/

namespace SheetTables.Unicode

/-- Pairs of a capital and its small letter: the gap from the last capital, and twice the
distance to the small letter, which is odd where that lies before the capital. -/
def smallLettersFrom (last : Nat) : List Nat → List (Nat × Nat)
  | gap :: step :: rest =>
    let capital := last + gap
    let small := if step % 2 = 0 then capital + step / 2 else capital - step / 2
    (capital, small) :: smallLettersFrom capital rest
  | _ => []

def smallLetters : List (Nat × Nat) := smallLettersFrom 0 <| numbers
  ["CnCmbCmbCmbCmbCmbCmbCmbCmbCmbCmbCmbCmbCmbCmbCmbCmbCmbCmbCmbCmbCmbCmbCmbCmbCmbCmDyCmbCmbC",
   "mbCmbCmbCmbCmbCmbCmbCmbCmbCmbCmbCmbCmbCmbCmbCmbCmbCmbCmbCmbCmcCmbCmbCmbCmbCmbCmbCmBicccc",
   "cccccccccccccccccccccccccccccccccccccccccccecccccdcccccccccccccccdcccccccccccccccccccccc",
   "ccccccccccccccccccccccccJjbccccceQebccccPwbccPubPubcdGcbPobPqbccPubPycQgbQcbceQgbQkcQmbc",
   "cccccQubccQudccQubccQsbQsbccccQwbceciebccebccebcccccccccccccccccdcccccccccccccccccdebccc",
   "cHnbEjbccccccccccccccccccccccccccccccccccccccccKbcccccccccccccccccciBFYkbccMpbBFYedccPbb",
   "FibFmbcccccccccLecccecjIyhCycCwbCwbCwcEycEwbEwcCmbCmbCmbCmbCmbCmbCmbCmbCmbCmbCmbCmbCmbCm",
   "bCmbCmbCmcCmbCmbCmbCmbCmbCmbCmbCmbCmBkqjcccccccccccccccccccccccgErdccpbcdKbbKbbKbbGebGeb",
   "GebGebGebGebGebGebGebGebGebGebGebGebGebGebCmbCmbCmbCmbCmbCmbCmbCmbCmbCmbCmbCmbCmbCmbCmbC",
   "mbCmbCmbCmbCmbCmbCmbCmbCmbCmbCmbCmbCmbCmbCmbCmbCmBxccccccccccccccccccccccccccccccccckccc",
   "cccccccccccccccccccccccccccccccccccccccccccccccccccBebcccccccccccccdcccccccccccccccccccc",
   "cccccccccccccccccccccccccccccccccccccccccccccccccccccccccccccccccccccccccccdDsbDsbDsbDsb",
   "DsbDsbDsbDsbDsbDsbDsbDsbDsbDsbDsbDsbDsbDsbDsbDsbDsbDsbDsbDsbDsbDsbDsbDsbDsbDsbDsbDsbDsbD",
   "sbDsbDsbDsbDsEHeVMubVMubVMubVMubVMubVMubVMubVMubVMubVMubVMubVMubVMubVMubVMubVMubVMubVMub",
   "VMubVMubVMubVMubVMubVMubVMubVMubVMubVMubVMubVMubVMubVMubVMubVMubVMubVMubVMubVMucVMugVMuB",
   "BvEKZobEKZobEKZobEKZobEKZobEKZobEKZobEKZobEKZobEKZobEKZobEKZobEKZobEKZobEKZobEKZobEKZobE",
   "KZobEKZobEKZobEKZobEKZobEKZobEKZobEKZobEKZobEKZobEKZobEKZobEKZobEKZobEKZobEKZobEKZobEKZo",
   "bEKZobEKZobEKZobEKZobEKZobEKZobEKZobEKZobEKZobEKZobEKZobEKZobEKZobEKZobEKZobEKZobEKZobEK",
   "ZobEKZobEKZobEKZobEKZobEKZobEKZobEKZobEKZobEKZobEKZobEKZobEKZobEKZobEKZobEKZobEKZobEKZob",
   "EKZobEKZobEKZobEKZobEKZobEKZobEKZobEKZobEKZobEKZobqbqbqbqbqbqDGmchIXlbIXlbIXlbIXlbIXlbIX",
   "lbIXlbIXlbIXlbIXlbIXlbIXlbIXlbIXlbIXlbIXlbIXlbIXlbIXlbIXlbIXlbIXlbIXlbIXlbIXlbIXlbIXlbIX",
   "lbIXlbIXlbIXlbIXlbIXlbIXlbIXlbIXlbIXlbIXlbIXlbIXlbIXlbIXlbIXldIXlbIXlbIXlMjccccccccccccc",
   "cccccccccccccccccccccccccccccccccccccccccccccccccccccccccccccccccccccccccccccccccccccccc",
   "cccccccccccccccccccccccccccccccccccccccccccccccckWNvcccccccccccccccccccccccccccccccccccc",
   "cccccccccccccccccccccccccccccccccccccccccccccccccccccccccccckrbrbrbrbrbrbrbrjrbrbrbrbrbr",
   "lrbrbrbrbrbrbrbrjrbrbrbrbrbrbrbrjrbrbrbrbrbrmrcrcrcrjrbrbrbrbrbrbrbrzrbrbrbrbrbrbrbrjrbr",
   "brbrbrbrbrbrjrbrbrbrbrbrbrbrjrbrbFtbFtbtmGrbGrbGrbGrbtmrbrbHtbHtnrbrbIrbIrbpmJxbJxbJtbJt",
   "btLmWGheYUxbYLphCeBuBgbBgbBgbBgbBgbBgbBgbBgbBgbBgbBgbBgbBgbBgbBgbBgucBFnCabCabCabCabCabC",
   "abCabCabCabCabCabCabCabCabCabCabCabCabCabCabCabCabCabCabCabCaCSvDsbDsbDsbDsbDsbDsbDsbDsb",
   "DsbDsbDsbDsbDsbDsbDsbDsbDsbDsbDsbDsbDsbDsbDsbDsbDsbDsbDsbDsbDsbDsbDsbDsbDsbDsbDsbDsbDsbD",
   "sbDsbDsbDsbDsbDsbDsbDsbDsbDsbDsBxccBFUlbLHlbBFTfdccccccBFXhbBFUxbBFXnbBFXlccdcjBFZzbBFZz",
   "bccccccccccccccccccccccccccccccccccccccccccccccccccccccccccccccccccccccccccccccccccccccc",
   "ccccccccccccjcccfcBTYkcccccccccccccccccccccccccccccccccccccccccccccucccccccccccccccccccc",
   "cccccccFgccccccccccccceccccccccccccccccccccccccccccccccccccccccccccccccccccccccccccclccc",
   "cEANxbcccccccccfccEVCjdccceccccccccccccccccccccEVEnbEVFjbEVFbbEVEhbEVEncEVArbEVCnbEVAxbC",
   "TkbccccccccccccccccDtbEVElbEARxbccccEVHfbccccccccccccccccEVXzzcBHAiCmbCmbCmbCmbCmbCmbCmb",
   "CmbCmbCmbCmbCmbCmbCmbCmbCmbCmbCmbCmbCmbCmbCmbCmbCmbCmbCmBVaDcbDcbDcbDcbDcbDcbDcbDcbDcbDc",
   "bDcbDcbDcbDcbDcbDcbDcbDcbDcbDcbDcbDcbDcbDcbDcbDcbDcbDcbDcbDcbDcbDcbDcbDcbDcbDcbDcbDcbDcb",
   "DcFhDcbDcbDcbDcbDcbDcbDcbDcbDcbDcbDcbDcbDcbDcbDcbDcbDcbDcbDcbDcbDcbDcbDcbDcbDcbDcbDcbDcb",
   "DcbDcbDcbDcbDcbDcbDcbDcGbDabDabDabDabDabDabDabDabDabDabDacDabDabDabDabDabDabDabDabDabDab",
   "DabDabDabDabDacDabDabDabDabDabDabDacDabDaCQdEybEybEybEybEybEybEybEybEybEybEybEybEybEybEy",
   "bEybEybEybEybEybEybEybEybEybEybEybEybEybEybEybEybEybEybEybEybEybEybEybEybEybEybEybEybEyb",
   "EybEybEybEybEybEybEyGcCmbCmbCmbCmbCmbCmbCmbCmbCmbCmbCmbCmbCmbCmbCmbCmbCmbCmbCmbCmbCmbCmE",
   "GpCmbCmbCmbCmbCmbCmbCmbCmbCmbCmbCmbCmbCmbCmbCmbCmbCmbCmbCmbCmbCmbCmbCmbCmbCmbCmbCmbCmbCm",
   "bCmbCmbCmBGJxCmbCmbCmbCmbCmbCmbCmbCmbCmbCmbCmbCmbCmbCmbCmbCmbCmbCmbCmbCmbCmbCmbCmbCmbCmb",
   "CmbCmbCmbCmbCmbCmbCmCnCcbCcbCcbCcbCcbCcbCcbCcbCcbCcbCcbCcbCcbCcbCcbCcbCcbCcbCcbCcbCcbCcb",
   "CcbCcbCcBUIaCqbCqbCqbCqbCqbCqbCqbCqbCqbCqbCqbCqbCqbCqbCqbCqbCqbCqbCqbCqbCqbCqbCqbCqbCqbC",
   "qbCqbCqbCqbCqbCqbCqbCqbCq"]

/-- The lower case of a character that does not look at its neighbours. -/
def lowerChar (c : Char) : List Char :=
  if c.toNat = 0x130 then ['i', Char.ofNat 0x307]
  else match smallLetters.lookup c.toNat with
    | some n => [Char.ofNat n]
    | none => [c]

def leadsWithCased (s : List Char) : Bool :=
  (s.find? fun c => !Edition17.caseIgnorable.contains c).any Edition17.cased.contains

/-- Lowers the rest of a text; `before` is what precedes it, nearest character first. A sigma is
final when a cased letter precedes it and none follows. -/
def lowerFrom (before : List Char) : List Char → List Char
  | [] => []
  | c :: s =>
    let small :=
      if c.toNat = 0x3A3 then
        [Char.ofNat (if leadsWithCased before && !leadsWithCased s then 0x3C2 else 0x3C3)]
      else lowerChar c
    small ++ lowerFrom (c :: before) s

end SheetTables.Unicode

namespace SheetTables

def lowercase (s : String) : String :=
  String.ofList (Unicode.lowerFrom [] s.toList)

end SheetTables
