import SheetTables.Unicode.CharSet

/-! # Simple case folding

Characters that differ only in case form small classes, the orbits, after edition 16 of the
standard. They are kept as the gaps between the first members of successive orbits, each
followed by the number of members beyond two and the gaps between the members.
-/

namespace SheetTables.Unicode

def members (first : Nat) : Nat → List Nat → List Nat
  | n + 1, gap :: gaps => (first + gap) :: members (first + gap) n gaps
  | _, _ => []

/-- Reads the orbits after the one that began with `last`. -/
def orbitsFrom (last : Nat) : List Nat → List (List Nat)
  | gap :: extra :: gaps =>
    let first := last + gap
    (first :: members first (extra + 1) gaps) :: orbitsFrom first (gaps.drop (extra + 1))
  | _ => []
termination_by gaps => gaps.length
decreasing_by
  rw [List.length_drop, List.length_cons, List.length_cons]
  omega

def orbits : List (List Nat) := orbitsFrom 0 <| numbers
  ["CnaBgbaBgbaBgbaBgbaBgbaBgbaBgbaBgbaBgbaBgbbBgMKlbaBgbaBgbaBgbaBgbaBgbaBgbaBgbbBgKibaBgba",
   "BgbaBgbaBgbaBgbaBgbaBgDnbBCpBglaBgbaBgbaBgbaBgbaBgbbBgMFubaBgbaBgbaBgbaBgbaBgbaBgbaBgbaB",
   "gbaBgbaBgbaBgbaBgbaBgbaBgbaBgbaBgbaBgcaBgbaBgbaBgbaBgbaBgbaBgbaBgbaLGxBgaErbabcabcabcabc",
   "abcabcabcabcabcabcabcabcabcabcabcabcabcabcabcabcabcabcabcabeabcabcabdabcabcabcabcabcabca",
   "bcabdabcabcabcabcabcabcabcabcabcabcabcabcabcabcabcabcabcabcabcabcabcabcabdabcabcabdaHnba",
   "IcbabcabcaHybabcaHxbaHxbabdaDbbaHubaHvbabcaHxbaHzbaDtbaIdbaIbbabcaGhbaCKYzbaIdbaIfbaFaba",
   "IgbabcabcabcaIkbabcaIkdabcaIkbabcaIjbaIjbabcabcaIlbabeabdaCefbbbdbbbdbbbdabcabcabcabcabc",
   "abcabcabdabcabcabcabcabcabcabcabcabdbbbdabeabcabcabcabcabcabcabcabcabcabcabcabcabcabcabc",
   "abcabcabcabcabeabcabcabcabcabcabcabcabcabiaPZfbabdaPZcbaPZzbaPZzbabdaCrbaCtbabcabcabcabc",
   "abcaPYtbaPYqbaPYskaCKPrfaCKPndaCKQpbaCKOebaCKPgeaCKPgbaPXfbaCKPdfaPXlmaPWpfaCKPffaCKOgwa",
   "CKNlbaCKNiGlcDgBgKPxBrabcabeabfaFabaFabaFacaEmhaBmcaBlbaBlbaBlcaCmcaClbaClbaKShbaBgbbBgB",
   "ebaBgbaBgbbBgCmbaBgbaBgbcBgzBjcbBgCcbaBgcaBgbaBgbaBgbbBgwbbBgBwcbBfbbaBgbaBgbbBgpbaBgbaB",
   "gbbBgLDdbaBgbaBgfaKRrBfaijabcabcabcabcabcabcabcabcabcabcabcabeahfabdabgaDcbaDcbaDcbaDcba",
   "DcbaDcbaDcbaDcbaDcbaDcbaDcbaDcbaDcbaDcbaDcbaDcbaBgbaBgbbBgJFibaBgbbBgJFhbaBgbaBgbaBgbaBg",
   "baBgbaBgbaBgbaBgbaBgbbBgJEybaBgbaBgbbBgJEwbcBgJEwbbaBgbaBgbaBgbaBgbaBgbaBgbaBgbbBgJEqbaB",
   "gbaBgbaBgbaBgbaBgBxabcbbJDscabcabcabcabcabcabcabcabcabcabcabcabcabcabcabkabcabcabcabcabc",
   "abcabcabcabcabcabcabcabcabcabcabcabcabcabcabcabcabcabcabcabcabcabcapbabcabcabcabcabcabca",
   "bdabcabcabcabcabcabcabcabcabcabcabcabcabcabcabcabcabcabcabcabcabcabcabcabcabcabcabcabcab",
   "cabcabcabcabcabcabcabcabcabcabcabcabcabcabcabcabcabcabcabdaBwbaBwbaBwbaBwbaBwbaBwbaBwbaB",
   "wbaBwbaBwbaBwbaBwbaBwbaBwbaBwbaBwbaBwbaBwbaBwbaBwbaBwbaBwbaBwbaBwbaBwbaBwbaBwbaBwbaBwbaB",
   "wbaBwbaBwbaBwbaBwbaBwbaBwbaBwbaBwEHeaKTkbaKTkbaKTkbaKTkbaKTkbaKTkbaKTkbaKTkbaKTkbaKTkbaK",
   "TkbaKTkbaKTkbaKTkbaKTkbaKTkbaKTkbaKTkbaKTkbaKTkbaKTkbaKTkbaKTkbaKTkbaKTkbaKTkbaKTkbaKTkb",
   "aKTkbaKTkbaKTkbaKTkbaKTkbaKTkbaKTkbaKTkbaKTkbaKTkcaKTkgaKTkdaELsbaELsbaELsbaELsbaELsbaEL",
   "sbaELsbaELsbaELsbaELsbaELsbaELsbaELsbaELsbaELsbaELsbaELsbaELsbaELsbaELsbaELsbaELsbaELsba",
   "ELsbaELsbaELsbaELsbaELsbaELsbaELsbaELsbaELsbaELsbaELsbaELsbaELsbaELsbaELsbaELsbaELsbaELs",
   "baELsbaELsdaELsbaELsbaELsZxaCFMubaCFMubaCFMubaCFMubaCFMubaCFMubaCFMubaCFMubaCFMubaCFMuba",
   "CFMubaCFMubaCFMubaCFMubaCFMubaCFMubaCFMubaCFMubaCFMubaCFMubaCFMubaCFMubaCFMubaCFMubaCFMu",
   "baCFMubaCFMubaCFMubaCFMubaCFMubaCFMubaCFMubaCFMubaCFMubaCFMubaCFMubaCFMubaCFMubaCFMubaCF",
   "MubaCFMubaCFMubaCFMubaCFMubaCFMubaCFMubaCFMubaCFMubaCFMubaCFMubaCFMubaCFMubaCFMubaCFMuba",
   "CFMubaCFMubaCFMubaCFMubaCFMubaCFMubaCFMubaCFMubaCFMubaCFMubaCFMubaCFMubaCFMubaCFMubaCFMu",
   "baCFMubaCFMubaCFMubaCFMubaCFMubaCFMubaCFMubaCFMubaCFMubaCFMubaCFMubaibaibaibaibaibaiDGlb",
   "CAEkbbabJgaCAGyeaFQsraCAIyEkabcabcabcabcabcabcabcabcabcabcabcabcabcabcabcabcabcabcabcabc",
   "abcabcabcabcabcabcabcabcabcabcabcabcabcabcabcabcabcabcabcabcabcabcabcabcabcabcabcabcbbCg",
   "cabcabcabcabcabcabcabcabcabcabcabcabcabcabcabcabcabcabcabcabcabcabcabcabcabcabmabcabcabc",
   "abcabcabcabcabcabcabcabcabcabcabcabcabcabcabcabcabcabcabcabcabcabcabcabcabcabcabcabcabca",
   "bcabcabcabcabcabcabcabcabcabcabcabcabcabcabcabcaibaibaibaibaibaibaibaijaibaibaibaibaibai",
   "laibaibaibaibaibaibaibaijaibaibaibaibaibaibaibaijaibaibaibaibaibaimaicaicaicaijaibaibaib",
   "aibaibaibaibaijaCwbaCwbaDibaDibaDibaDibaDwbaDwbaEybaEybaEibaEibaEwbaEwdaibaibaibaibaibai",
   "baibaijaibaibaibaibaibaibaibaijaibaibaibaibaibaibaibaijaibaicajqajnaibaipaibaieahoajMhaB",
   "cBuaqbaqbaqbaqbaqbaqbaqbaqbaqbaqbaqbaqbaqbaqbaqbaquabBFnaBabaBabaBabaBabaBabaBabaBabaBab",
   "aBabaBabaBabaBabaBabaBabaBabaBabaBabaBabaBabaBabaBabaBabaBabaBabaBabaBaCSvaBwbaBwbaBwbaB",
   "wbaBwbaBwbaBwbaBwbaBwbaBwbaBwbaBwbaBwbaBwbaBwbaBwbaBwbaBwbaBwbaBwbaBwbaBwbaBwbaBwbaBwbaB",
   "wbaBwbaBwbaBwbaBwbaBwbaBwbaBwbaBwbaBwbaBwbaBwbaBwbaBwbaBwbaBwbaBwbaBwbaBwbaBwbaBwbaBwbaB",
   "wBxabhabcabcabhabdablabcabcabcabcabcabcabcabcabcabcabcabcabcabcabcabcabcabcabcabcabcabca",
   "bcabcabcabcabcabcabcabcabcabcabcabcabcabcabcabcabcabcabcabcabcabcabcabcabcabcabcabjabcab",
   "fabBTYkabcabcabcabcabeabcabcabcabcabcabcabcabcabcabcabcabcabcabcabcabcabuabcabcabcabcabc",
   "abcabcabcabcabcabcabcabcabFgabcabcabcabcabcabcabeabcabcabcabcabcabcabcabcabcabcabcabcabc",
   "abcabcabcabcabcabcabcabcabcabcabcabcabcabcabcabcabcablabcabdabcabcabcabcabfabfabcabcaBwc",
   "abcabcabcabcabcabcabcabcabcablaBJsbabcabcabcabcabcabcabcabfabcabdabeabgabcabcabBbabBFLwa",
   "bBOmaBgbaBgbaBgbaBgbaBgbaBgbaBgbaBgbaBgbaBgbaBgbaBgbaBgbaBgbaBgbaBgbaBgbaBgbaBgbaBgbaBgb",
   "aBgbaBgbaBgbaBgbaBgBVaaBobaBobaBobaBobaBobaBobaBobaBobaBobaBobaBobaBobaBobaBobaBobaBobaB",
   "obaBobaBobaBobaBobaBobaBobaBobaBobaBobaBobaBobaBobaBobaBobaBobaBobaBobaBobaBobaBobaBobaB",
   "obaBoFhaBobaBobaBobaBobaBobaBobaBobaBobaBobaBobaBobaBobaBobaBobaBobaBobaBobaBobaBobaBoba",
   "BobaBobaBobaBobaBobaBobaBobaBobaBobaBobaBobaBobaBobaBobaBobaBoGbaBnbaBnbaBnbaBnbaBnbaBnb",
   "aBnbaBnbaBnbaBnbaBncaBnbaBnbaBnbaBnbaBnbaBnbaBnbaBnbaBnbaBnbaBnbaBnbaBnbaBnbaBncaBnbaBnb",
   "aBnbaBnbaBnbaBnbaBncaBnbaBnCQdaCmbaCmbaCmbaCmbaCmbaCmbaCmbaCmbaCmbaCmbaCmbaCmbaCmbaCmbaC",
   "mbaCmbaCmbaCmbaCmbaCmbaCmbaCmbaCmbaCmbaCmbaCmbaCmbaCmbaCmbaCmbaCmbaCmbaCmbaCmbaCmbaCmbaC",
   "mbaCmbaCmbaCmbaCmbaCmbaCmbaCmbaCmbaCmbaCmbaCmbaCmbaCmbaCmGcaBgbaBgbaBgbaBgbaBgbaBgbaBgba",
   "BgbaBgbaBgbaBgbaBgbaBgbaBgbaBgbaBgbaBgbaBgbaBgbaBgbaBgbaBgEGpaBgbaBgbaBgbaBgbaBgbaBgbaBg",
   "baBgbaBgbaBgbaBgbaBgbaBgbaBgbaBgbaBgbaBgbaBgbaBgbaBgbaBgbaBgbaBgbaBgbaBgbaBgbaBgbaBgbaBg",
   "baBgbaBgbaBgBGJxaBgbaBgbaBgbaBgbaBgbaBgbaBgbaBgbaBgbaBgbaBgbaBgbaBgbaBgbaBgbaBgbaBgbaBgb",
   "aBgbaBgbaBgbaBgbaBgbaBgbaBgbaBgbaBgbaBgbaBgbaBgbaBgbaBgBULlaBibaBibaBibaBibaBibaBibaBiba",
   "BibaBibaBibaBibaBibaBibaBibaBibaBibaBibaBibaBibaBibaBibaBibaBibaBibaBibaBibaBibaBibaBiba",
   "BibaBibaBibaBibaBi"]

end SheetTables.Unicode

namespace SheetTables.CharSet

def closure (orbits : List (List Nat)) (s : CharSet) : CharSet :=
  s.union (.ofCodes (orbits.filter fun o => o.any fun n => s.contains (Char.ofNat n)).flatten)

def fold (s : CharSet) : CharSet := s.closure Unicode.orbits

def asciiOrbits : List (List Nat) :=
  (List.range 26).map fun n => [65 + n, 97 + n]

def foldAscii (s : CharSet) : CharSet := s.closure asciiOrbits

end SheetTables.CharSet
