import OpenApiGen.Unicode.Table
/-!
The classes of code points that simple case folding makes equal, as of Unicode 16.0.
-/

namespace OpenApiGen.Unicode

def caseFoldTable : List String := [
  "CnaBgbaBgbaBgbaBgbaBgbaBgbaBgbaBgbaBgbaBgbbBgMKlbaBgbaBgbaBgbaBgbaBgbaBgbaBgbbBgKibaBgbaBgbaBgba",
  "BgbaBgbaBgbaBgDnbBCpBglaBgbaBgbaBgbaBgbaBgbbBgMFubaBgbaBgbaBgbaBgbaBgbaBgbaBgbaBgbaBgbaBgbaBgbaB",
  "gbaBgbaBgbaBgbaBgbaBgcaBgbaBgbaBgbaBgbaBgbaBgbaBgbaLGxBgaErbabcabcabcabcabcabcabcabcabcabcabcabc",
  "abcabcabcabcabcabcabcabcabcabcabcabeabcabcabdabcabcabcabcabcabcabcabdabcabcabcabcabcabcabcabcabc",
  "abcabcabcabcabcabcabcabcabcabcabcabcabcabdabcabcabdaHnbaIcbabcabcaHybabcaHxbaHxbabdaDbbaHubaHvba",
  "bcaHxbaHzbaDtbaIdbaIbbabcaGhbaCKYzbaIdbaIfbaFabaIgbabcabcabcaIkbabcaIkdabcaIkbabcaIjbaIjbabcabca",
  "IlbabeabdaCefbbbdbbbdbbbdabcabcabcabcabcabcabcabdabcabcabcabcabcabcabcabcabdbbbdabeabcabcabcabca",
  "bcabcabcabcabcabcabcabcabcabcabcabcabcabcabcabeabcabcabcabcabcabcabcabcabiaPZfbabdaPZcbaPZzbaPZz",
  "babdaCrbaCtbabcabcabcabcabcaPYtbaPYqbaPYskaCKPrfaCKPndaCKQpbaCKOebaCKPgeaCKPgbaPXfbaCKPdfaPXlmaP",
  "WpfaCKPffaCKOgwaCKNlbaCKNiGlcDgBgKPxBrabcabeabfaFabaFabaFacaEmhaBmcaBlbaBlbaBlcaCmcaClbaClcaBgbb",
  "BgBebaBgbaBgbbBgCmbaBgbaBgbcBgzBjcbBgCcbaBgcaBgbaBgbaBgbbBgwbbBgBwcbBfbbaBgbaBgbbBgpbaBgbaBgbbBg",
  "LDdbaBgbaBgBkaijabcabcabcabcabcabcabcabcabcabcabcabeahfabdabgaDcbaDcbaDcbaDcbaDcbaDcbaDcbaDcbaDc",
  "baDcbaDcbaDcbaDcbaDcbaDcbaDcbaBgbaBgbbBgJFibaBgbbBgJFhbaBgbaBgbaBgbaBgbaBgbaBgbaBgbaBgbaBgbbBgJE",
  "ybaBgbaBgbbBgJEwbcBgJEwbbaBgbaBgbaBgbaBgbaBgbaBgbaBgbbBgJEqbaBgbaBgbaBgbaBgbaBgBxabcbbJDscabcabc",
  "abcabcabcabcabcabcabcabcabcabcabcabcabkabcabcabcabcabcabcabcabcabcabcabcabcabcabcabcabcabcabcabc",
  "abcabcabcabcabcabcabcabcapbabcabcabcabcabcabcabdabcabcabcabcabcabcabcabcabcabcabcabcabcabcabcabc",
  "abcabcabcabcabcabcabcabcabcabcabcabcabcabcabcabcabcabcabcabcabcabcabcabcabcabcabcabcabcabcabcabd",
  "aBwbaBwbaBwbaBwbaBwbaBwbaBwbaBwbaBwbaBwbaBwbaBwbaBwbaBwbaBwbaBwbaBwbaBwbaBwbaBwbaBwbaBwbaBwbaBwb",
  "aBwbaBwbaBwbaBwbaBwbaBwbaBwbaBwbaBwbaBwbaBwbaBwbaBwbaBwEHeaKTkbaKTkbaKTkbaKTkbaKTkbaKTkbaKTkbaKT",
  "kbaKTkbaKTkbaKTkbaKTkbaKTkbaKTkbaKTkbaKTkbaKTkbaKTkbaKTkbaKTkbaKTkbaKTkbaKTkbaKTkbaKTkbaKTkbaKTk",
  "baKTkbaKTkbaKTkbaKTkbaKTkbaKTkbaKTkbaKTkbaKTkbaKTkbaKTkcaKTkgaKTkdaELsbaELsbaELsbaELsbaELsbaELsb",
  "aELsbaELsbaELsbaELsbaELsbaELsbaELsbaELsbaELsbaELsbaELsbaELsbaELsbaELsbaELsbaELsbaELsbaELsbaELsba",
  "ELsbaELsbaELsbaELsbaELsbaELsbaELsbaELsbaELsbaELsbaELsbaELsbaELsbaELsbaELsbaELsbaELsbaELsdaELsbaE",
  "LsbaELsZxaCFMubaCFMubaCFMubaCFMubaCFMubaCFMubaCFMubaCFMubaCFMubaCFMubaCFMubaCFMubaCFMubaCFMubaCF",
  "MubaCFMubaCFMubaCFMubaCFMubaCFMubaCFMubaCFMubaCFMubaCFMubaCFMubaCFMubaCFMubaCFMubaCFMubaCFMubaCF",
  "MubaCFMubaCFMubaCFMubaCFMubaCFMubaCFMubaCFMubaCFMubaCFMubaCFMubaCFMubaCFMubaCFMubaCFMubaCFMubaCF",
  "MubaCFMubaCFMubaCFMubaCFMubaCFMubaCFMubaCFMubaCFMubaCFMubaCFMubaCFMubaCFMubaCFMubaCFMubaCFMubaCF",
  "MubaCFMubaCFMubaCFMubaCFMubaCFMubaCFMubaCFMubaCFMubaCFMubaCFMubaCFMubaCFMubaCFMubaCFMubaCFMubaCF",
  "MubaCFMubaibaibaibaibaibaiDGlbCAEkbbabJgaCAGyeaFQsraCAIyEkabcabcabcabcabcabcabcabcabcabcabcabcab",
  "cabcabcabcabcabcabcabcabcabcabcabcabcabcabcabcabcabcabcabcabcabcabcabcabcabcabcabcabcabcabcabcab",
  "cabcabcabcbbCgcabcabcabcabcabcabcabcabcabcabcabcabcabcabcabcabcabcabcabcabcabcabcabcabcabcabmabc",
  "abcabcabcabcabcabcabcabcabcabcabcabcabcabcabcabcabcabcabcabcabcabcabcabcabcabcabcabcabcabcabcabc",
  "abcabcabcabcabcabcabcabcabcabcabcabcabcabcabcaibaibaibaibaibaibaibaijaibaibaibaibaibailaibaibaib",
  "aibaibaibaibaijaibaibaibaibaibaibaibaijaibaibaibaibaibaimaicaicaicaijaibaibaibaibaibaibaibaijaCw",
  "baCwbaDibaDibaDibaDibaDwbaDwbaEybaEybaEibaEibaEwbaEwdaibaibaibaibaibaibaibaijaibaibaibaibaibaiba",
  "ibaijaibaibaibaibaibaibaibaijaibaicajqajnaibaipaibaieahoajMhaBcBuaqbaqbaqbaqbaqbaqbaqbaqbaqbaqba",
  "qbaqbaqbaqbaqbaquabBFnaBabaBabaBabaBabaBabaBabaBabaBabaBabaBabaBabaBabaBabaBabaBabaBabaBabaBabaB",
  "abaBabaBabaBabaBabaBabaBabaBaCSvaBwbaBwbaBwbaBwbaBwbaBwbaBwbaBwbaBwbaBwbaBwbaBwbaBwbaBwbaBwbaBwb",
  "aBwbaBwbaBwbaBwbaBwbaBwbaBwbaBwbaBwbaBwbaBwbaBwbaBwbaBwbaBwbaBwbaBwbaBwbaBwbaBwbaBwbaBwbaBwbaBwb",
  "aBwbaBwbaBwbaBwbaBwbaBwbaBwbaBwBxabhabcabcabhabdablabcabcabcabcabcabcabcabcabcabcabcabcabcabcabc",
  "abcabcabcabcabcabcabcabcabcabcabcabcabcabcabcabcabcabcabcabcabcabcabcabcabcabcabcabcabcabcabcabc",
  "abcabcabjabcabfabBTYkabcabcabcabcabeabcabcabcabcabcabcabcabcabcabcabcabcabcabcabcabcabuabcabcabc",
  "abcabcabcabcabcabcabcabcabcabcabFgabcabcabcabcabcabcabeabcabcabcabcabcabcabcabcabcabcabcabcabcab",
  "cabcabcabcabcabcabcabcabcabcabcabcabcabcabcabcabcablabcabdabcabcabcabcabfabfabcabcaBwcabcabcabca",
  "bcabcabcabcabcabcablaBJsbabcabcabcabcabcabcabcabfabcabdabeabgabcabcabBbabBHAiaBgbaBgbaBgbaBgbaBg",
  "baBgbaBgbaBgbaBgbaBgbaBgbaBgbaBgbaBgbaBgbaBgbaBgbaBgbaBgbaBgbaBgbaBgbaBgbaBgbaBgbaBgBVaaBobaBoba",
  "BobaBobaBobaBobaBobaBobaBobaBobaBobaBobaBobaBobaBobaBobaBobaBobaBobaBobaBobaBobaBobaBobaBobaBoba",
  "BobaBobaBobaBobaBobaBobaBobaBobaBobaBobaBobaBobaBobaBoFhaBobaBobaBobaBobaBobaBobaBobaBobaBobaBob",
  "aBobaBobaBobaBobaBobaBobaBobaBobaBobaBobaBobaBobaBobaBobaBobaBobaBobaBobaBobaBobaBobaBobaBobaBob",
  "aBobaBoGbaBnbaBnbaBnbaBnbaBnbaBnbaBnbaBnbaBnbaBnbaBncaBnbaBnbaBnbaBnbaBnbaBnbaBnbaBnbaBnbaBnbaBn",
  "baBnbaBnbaBnbaBncaBnbaBnbaBnbaBnbaBnbaBnbaBncaBnbaBnCQdaCmbaCmbaCmbaCmbaCmbaCmbaCmbaCmbaCmbaCmba",
  "CmbaCmbaCmbaCmbaCmbaCmbaCmbaCmbaCmbaCmbaCmbaCmbaCmbaCmbaCmbaCmbaCmbaCmbaCmbaCmbaCmbaCmbaCmbaCmba",
  "CmbaCmbaCmbaCmbaCmbaCmbaCmbaCmbaCmbaCmbaCmbaCmbaCmbaCmbaCmbaCmbaCmGcaBgbaBgbaBgbaBgbaBgbaBgbaBgb",
  "aBgbaBgbaBgbaBgbaBgbaBgbaBgbaBgbaBgbaBgbaBgbaBgbaBgbaBgbaBgEGpaBgbaBgbaBgbaBgbaBgbaBgbaBgbaBgbaB",
  "gbaBgbaBgbaBgbaBgbaBgbaBgbaBgbaBgbaBgbaBgbaBgbaBgbaBgbaBgbaBgbaBgbaBgbaBgbaBgbaBgbaBgbaBgbaBgBGJ",
  "xaBgbaBgbaBgbaBgbaBgbaBgbaBgbaBgbaBgbaBgbaBgbaBgbaBgbaBgbaBgbaBgbaBgbaBgbaBgbaBgbaBgbaBgbaBgbaBg",
  "baBgbaBgbaBgbaBgbaBgbaBgbaBgbaBgBULlaBibaBibaBibaBibaBibaBibaBibaBibaBibaBibaBibaBibaBibaBibaBib",
  "aBibaBibaBibaBibaBibaBibaBibaBibaBibaBibaBibaBibaBibaBibaBibaBibaBibaBibaBi"]

def orbitsOfNumbers (ns : List Nat) (first : Nat) (fuel : Nat) : List (List Nat) :=
  match fuel, ns with
  | fuel + 1, gap :: size :: rest =>
    let start := first + gap
    let steps := rest.take (size + 1)
    let members := steps.foldl (fun (acc : List Nat × Nat) d => (acc.1 ++ [acc.2 + d], acc.2 + d))
      ([start], start)
    members.1 :: orbitsOfNumbers (rest.drop (size + 1)) start fuel
  | _, _ => []

/-- The code points that simple case folding makes equal, class by class, each in increasing
order. -/
def caseFoldClasses : List (List Nat) :=
  let ns := (numbers (String.join caseFoldTable)).toList
  orbitsOfNumbers ns 0 ns.length

end OpenApiGen.Unicode
