import OpenApiGen.Unicode.Table
/-!
The classes of the boundary properties of Unicode 16.0: grapheme cluster, word and sentence
breaks. Only values that some code point has are listed.
-/

namespace OpenApiGen.Unicode

/-- The boundary classes by property and value, with their code points in compact form. -/
def breakTables : List (String × String × String) := [
  ("Grapheme_Cluster_Break", "CR", String.join [
    "na"]),
  ("Grapheme_Cluster_Break", "Control", String.join [
    "ajbbbrDrBgnaCBmaGUraDAqacbygBxpDGHjaJglTUapBZQudHWxhBTKZlBfDsExJgFIl"]),
  ("Grapheme_Cluster_Break", "Extend", String.join [
    "BDoEhKpgKdBsbabbbbbaCukBwuqaDxgcfcbbdBjaBeBaDnkCgijaydbibcbeBrcChiBqxbBfCdabaeheadgkbBdaCgabacdi",
    "ajakbBaacbCfaebebccdaBebdalbCfaeebbeaubwfbaCgabbbdiahckbBeaChabamajaBoadaCdabcfcbdhblbBdaCgacbba",
    "dcbdhblbBcbCfbbacdiajakbBdaCuaeaccbaiaDdacgmhDuacilgCvbBbababaCdnbebbfkbBjjaDydbfbbcbzbecqdnacbg",
    "apaBBbcBKkdBccBdbBebCmbbgiackjaBtcbaEnbBiaEocebjagcIlbcaCgabgbabachgjcaBwBeBxdBwjecBmimbBgdcfCea",
    "bbdabeCehcbFwcbmbgeagadbHqClUeaHnBgEOccFlaDsBfVifEbbBSQedbjBgbDcbKmadaeazbfaFvbBarnaBmhzkbaBscBw",
    "acdcbcaBkaCpfcbcbmaiaBvaBzabccbfbbaBqbiaJeacaeaBDZsaBCjpqpOcbXhaIsaFteCMgcbbfdBoceaGjbWbdCneMfbD",
    "bdCskBxdEtaCcoBpacbkcBxdcbhaCjcBkebhCkambCaibaidcaDrccdgacaGbadhvbCfbbabamajaogdeCpacfbacabcecba",
    "obDhhccbaxaDdacfbacabbbbJbacdgbbbBbbDhhcabbEcabachDxabacdbeJzibbJlakdeaFodcbeaBgjBofcdiajfccBumb",
    "bPqgbfbaDevcgbbbbEsfdabbbgbaCubdabaNjblbCaefcxaHXtagoQYyldcDSaeChgBOiaCldDdalbBDAxbGYzBtcwUwedfi",
    "hcgBedFscCYdCceBxiaoaweboCAigbqcgbbbeDwaGegOlaCjdTodJubBCigEfgEBgeBSXYuDrEyJf"]),
  ("Grapheme_Cluster_Break", "L", String.join [
    "GLkDrCFOqBc"]),
  ("Grapheme_Cluster_Break", "LF", String.join [
    "ka"]),
  ("Grapheme_Cluster_Break", "LV", String.join [
    "CNDoaBbaBbaBbaBbaBbaBbaBbaBbaBbaBbaBbaBbaBbaBbaBbaBbaBbaBbaBbaBbaBbaBbaBbaBbaBbaBbaBbaBbaBbaBbaB",
    "baBbaBbaBbaBbaBbaBbaBbaBbaBbaBbaBbaBbaBbaBbaBbaBbaBbaBbaBbaBbaBbaBbaBbaBbaBbaBbaBbaBbaBbaBbaBbaB",
    "baBbaBbaBbaBbaBbaBbaBbaBbaBbaBbaBbaBbaBbaBbaBbaBbaBbaBbaBbaBbaBbaBbaBbaBbaBbaBbaBbaBbaBbaBbaBbaB",
    "baBbaBbaBbaBbaBbaBbaBbaBbaBbaBbaBbaBbaBbaBbaBbaBbaBbaBbaBbaBbaBbaBbaBbaBbaBbaBbaBbaBbaBbaBbaBbaB",
    "baBbaBbaBbaBbaBbaBbaBbaBbaBbaBbaBbaBbaBbaBbaBbaBbaBbaBbaBbaBbaBbaBbaBbaBbaBbaBbaBbaBbaBbaBbaBbaB",
    "baBbaBbaBbaBbaBbaBbaBbaBbaBbaBbaBbaBbaBbaBbaBbaBbaBbaBbaBbaBbaBbaBbaBbaBbaBbaBbaBbaBbaBbaBbaBbaB",
    "baBbaBbaBbaBbaBbaBbaBbaBbaBbaBbaBbaBbaBbaBbaBbaBbaBbaBbaBbaBbaBbaBbaBbaBbaBbaBbaBbaBbaBbaBbaBbaB",
    "baBbaBbaBbaBbaBbaBbaBbaBbaBbaBbaBbaBbaBbaBbaBbaBbaBbaBbaBbaBbaBbaBbaBbaBbaBbaBbaBbaBbaBbaBbaBbaB",
    "baBbaBbaBbaBbaBbaBbaBbaBbaBbaBbaBbaBbaBbaBbaBbaBbaBbaBbaBbaBbaBbaBbaBbaBbaBbaBbaBbaBbaBbaBbaBbaB",
    "baBbaBbaBbaBbaBbaBbaBbaBbaBbaBbaBbaBbaBbaBbaBbaBbaBbaBbaBbaBbaBbaBbaBbaBbaBbaBbaBbaBbaBbaBbaBbaB",
    "baBbaBbaBbaBbaBbaBbaBbaBbaBbaBbaBbaBbaBbaBbaBbaBbaBbaBbaBbaBbaBbaBbaBbaBbaBbaBbaBbaBbaBbaBbaBbaB",
    "baBbaBbaBbaBbaBbaBbaBbaBbaBbaBbaBbaBbaBbaBbaBbaBbaBbaBbaBbaBbaBbaBbaBbaBbaBbaBbaBbaBbaBbaBbaBbaB",
    "baBbaBbaBbaBbaBbaBbaBbaBbaBbaBbaBbaBbaBbaBbaBba"]),
  ("Grapheme_Cluster_Break", "LVT", String.join [
    "CNDpBabBabBabBabBabBabBabBabBabBabBabBabBabBabBabBabBabBabBabBabBabBabBabBabBabBabBabBabBabBabBa",
    "bBabBabBabBabBabBabBabBabBabBabBabBabBabBabBabBabBabBabBabBabBabBabBabBabBabBabBabBabBabBabBabBa",
    "bBabBabBabBabBabBabBabBabBabBabBabBabBabBabBabBabBabBabBabBabBabBabBabBabBabBabBabBabBabBabBabBa",
    "bBabBabBabBabBabBabBabBabBabBabBabBabBabBabBabBabBabBabBabBabBabBabBabBabBabBabBabBabBabBabBabBa",
    "bBabBabBabBabBabBabBabBabBabBabBabBabBabBabBabBabBabBabBabBabBabBabBabBabBabBabBabBabBabBabBabBa",
    "bBabBabBabBabBabBabBabBabBabBabBabBabBabBabBabBabBabBabBabBabBabBabBabBabBabBabBabBabBabBabBabBa",
    "bBabBabBabBabBabBabBabBabBabBabBabBabBabBabBabBabBabBabBabBabBabBabBabBabBabBabBabBabBabBabBabBa",
    "bBabBabBabBabBabBabBabBabBabBabBabBabBabBabBabBabBabBabBabBabBabBabBabBabBabBabBabBabBabBabBabBa",
    "bBabBabBabBabBabBabBabBabBabBabBabBabBabBabBabBabBabBabBabBabBabBabBabBabBabBabBabBabBabBabBabBa",
    "bBabBabBabBabBabBabBabBabBabBabBabBabBabBabBabBabBabBabBabBabBabBabBabBabBabBabBabBabBabBabBabBa",
    "bBabBabBabBabBabBabBabBabBabBabBabBabBabBabBabBabBabBabBabBabBabBabBabBabBabBabBabBabBabBabBabBa",
    "bBabBabBabBabBabBabBabBabBabBabBabBabBabBabBabBabBabBabBabBabBabBabBabBabBabBabBabBabBabBabBabBa",
    "bBabBabBabBabBabBabBabBabBabBabBabBabBabBabBabBa"]),
  ("Grapheme_Cluster_Break", "Prepend", String.join [
    "CHcfIhaBxaOubDcaBRnaDUGkapaJkbCVrabaJoaCvfBAyaRba"]),
  ("Grapheme_Cluster_Break", "Regional_Indicator", String.join [
    "HGOkz"]),
  ("Grapheme_Cluster_Break", "SpacingMark", String.join [
    "DKtaCdaccidbbBybChbgbcbCcaCgcCoaCgciabbCbbCiagbcbEkabbdcbcCacCjdCjbCgacabbBuaobChbfcbcCbbCybggtb",
    "ClaExaFibClaGvajbzbBsaCSvahhbbNidccebbfIqbCgabavfFpaCfdCmaBeaebClaccbaCbhibGpavaCAShbcaDkbBypFma",
    "BwaBwbebcbEhbcbyaGbacbfaJdbbbbbbaBLXjabaExaBtcebElaybChaBwcjaoaDpcdbGqcBfbChabdcbcbvbDhbpabbDzci",
    "bdaEdbgabbbacaJebgdcaEjcibbaEfabbEgahaKbcjaJoebbhabaFmcideaDgaBdbCkaPraoaEcahacaIfeebbaNmbmaBwbi",
    "bYZacFJgCc"]),
  ("Grapheme_Cluster_Break", "T", String.join [
    "GRwDjCWXnBw"]),
  ("Grapheme_Cluster_Break", "V", String.join [
    "GPcCtCWZww"]),
  ("Grapheme_Cluster_Break", "ZWJ", String.join [
    "MDpa"]),
  ("Sentence_Break", "ATerm", String.join [
    "BuaMCraDGDpaHfa"]),
  ("Sentence_Break", "CR", String.join [
    "na"]),
  ("Sentence_Break", "Close", String.join [
    "BiaecBxabaBdabaBtapaFMsdCUnbDPjhzbkbCcbobYjdBdbBPgfhnDbbBfjPnvCldBgbBNmnobcjyashQljchbcCZRqbIhbB",
    "cpcbqfGnbBxabaBdababbbbDPOsc"]),
  ("Sentence_Break", "Extend", String.join [
    "BDoEhKpgKdBsbabbbbbaCukBwuqaDxgcfcbbdBjaBeBaDnkCgijaydbibcbeBrcChiBqxbBgCccbrbgkbBdcCeabgcbccjak",
    "bBaaccCeabeebccdaBebdalcCeabhbcbcubwfbcCeabgcbcchckbBeaChedcbdjaBoeCdabgbcbdhblbBdcCeabgbcbdhblb",
    "pamdCdbbgbcbdjakbBdcCsaefbabhsbCjacgmhDuacilgCvbBbababaebBxtbbfkbBjjaDwtxdecbccgddnlbakdBBbcBKkd",
    "BccBdbBebCmBfjaBtcbaEnbBiaEolelIleCfjbBccaBwBeBxeBvqBmimcBemCenBwtFwcbueagaccHqClUebHmBgEOccFlaD",
    "sBfVifEbbBSQedbjBgbDcbKmadaeaxeeaDfbByrBarnaBmhzmBsdBvnBkaCpnmaibBtcByabccbfbbaBpefbJchbbBDZsaBC",
    "jpqpOcbXhaIsaFteCMgcbbfdBoceaGjbWbdCneMfbDbdCskBxdEscCboBpacbkdBtkhaCjcBknqbBsamcBwnidbbDolgacaG",
    "blvdCdbbgcbccjakbcgdeCpibacabdbebaobDerxaDdtJbgciBbbDeqEcmDxoJwoJlfbbcdbabbFlgcgdaBcjBogbdiajkBu",
    "pPphbhDevbnEsfdabbbgbaCoebbbeNjdjbbaBwgdexaHXtagoQYyrDSaeChgBOiabCchdDdalbBDAxbGYzBtcwUwedfihcgB",
    "edFscCYdCceBxiaoaweboCAigbqcgbbbeDwaGegOlaCjdTodJubBCigEfgBTCAfDrEyJf"]),
  ("Sentence_Break", "Format", String.join [
    "GraCAkfwaHkaBxaOubDcaFTjaDAqacbBaeBxebjDGHjaJpcGIzapaNKkpBZQudHWxhBTKZma"]),
  ("Sentence_Break", "LF", String.join [
    "ka"]),
  ("Sentence_Break", "Lower", String.join [
    "DtzBvakaeaBkxbhbabababababababababababababababababababababababababababbbabababababababbbabababab",
    "ababababababababababababababababababacababccabacadbeacadccacababacabbbacadabacbccgacacababababab",
    "abababbbababababababababbcabadabababababababababababababababababababababababababababababgcacbbae",
    "ababababCqbBjhbBeeFkabadacdsaBbBibbdcbabababababababababababebacacbBzBvbabababababababababababab",
    "ababababajababababababababababababababababababababababababababacababababababbbababababababababab",
    "ababababababababababababababababababababababababababababababababababababababaBwBoEItaBDjfDFuibaE",
    "nHjCnabababababababababababababababababababababababababababababababababababababababababababababa",
    "bababababababababababababababababababababababababababababibababababababababababababababababababa",
    "babababababababababababababababababababababababababababababiifkhihifkhihinchihihiebbgadcbbidcbih",
    "kcbbEranaqmEfadbdaBbaeaeacbideaBhpeaBGlzCTqBvbadbbababaeabbbhdababababababababababababababababab",
    "ababababababababababababababababababababababababababababababababbhabaeamBlbafaBTWdababababababab",
    "abababababababababababababababatabababababababababababababcFdababababababcbababababababababababa",
    "babababababababababababababababababababjbabacababababaeabacabcbabababababababababafafabababababa",
    "babaeabacadabababababawcbabcBFpBqbngDbBEAigmeBOzzBVhBnFgBjFzkbobgbbRjaccbBpbiBXlByEvvEGoBfBGJwBf",
    "BMMkzBagbrBazBadbabgbkBazBazBazBazBazBazBazBazBaBbBcybfBaybfBaybfBaybfBaybfbaCSyjbtgfKbCjDHsBh"]),
  ("Sentence_Break", "Numeric", String.join [
    "BwjCIojbbFbjHqjPwjEojEojEojEojEojEojEojEojEojDsjEojCsjKsjCsjCTqjBmjLojEyjGkjgjHajDijFejgjCAEojBA",
    "cjBmjHqjwjDijPqjBFMcjCCkjDFyjgjBEqjEyjCijFojKsjNejEojOkjDyjgtCyjQgjDyjZmjDijJmjCsjQgjYYgjDMcjDij",
    "FejUojBKDyjECqBxDNcjQgjTijJnjBGvjHBaj"]),
  ("Sentence_Break", "OLetter", String.join [
    "RbaedIaaBkgglBaabaFdaSqaEoBaeeBsBqBjbbDubapbhbkccaqabBdBdDklayBgjbeafveajadaxyhkfxbfrBpCgCbdasah",
    "jppehcbcvbgbadddaqanbbcobkaifebcvbgbbbbbbBfdbatcqibcbvbgbbbedasapbxalhcbcvbgbbbedaBebbcparabfdcb",
    "ddbbabbdbdcdlwaCahbcbwbpdaBaccacbBeaehbcbwbjbedaBfbbbpbribcbBocaqafcicyffrdxbibacgCgBvbbmgCgbbab",
    "ebxbabjbbjacebavdBgaClhbBjBbeElBquaqfeddadbhcemmaCnBqcMtbdcgbabdcBobdcBgbdcgbabdcobCebdcCoBlpEjX",
    "vcqbzfCwdkhrnsorombcpBzBjaeaCpDkhecBhbafCrkBeBxBdcelBrezCcwjCaDeaDpBurhCcBdnbkBrBaBjBpckBjsBqccB",
    "pdbfbbdaBPqdCtccdEKtCdhaqwjgbgbgbgbgbgbgbgDcaSbcziheceeDhgcbDlbdfBqbDprBfBwpTsJTnCmBGUeCpBtcKidp",
    "kbCoaqaBgDbBniEaagaDzadgbcbdbwBdBzoBxCkfdabblBbkwzBchBuBcaqebjkebBoxcbhuwdadBxbadbcecabaycckhcmf",
    "cfcfjgbgFpBiBdQNrmweBwMNcObcEbCpabjbmbebabbbbbEdBhNysClcCbBolEmebFeEbCdcBedfcfcfccBjlbzbsbbbocnB",
    "iEsCrCaKhBcdBwBvBfnBdfBlkBdcBjehbeEsCzDuBniBzDoBzmLyjvkhzbEvfcabBrbbdacwkwjBeCnsbbkvkzCsCdgbCmap",
    "dbcbBcBqBcdBcBjhbBbBbCbkvksnrEgCuHbBjBmfBfaKmBpgbqcChBckaivBqrBuuBbwmCaCfbcanBsBgyBaBjBdacaiBida",
    "mBvodvabaBjrbytbClgbabdbobjhBuBmhcbcvbgbbbedasameBejbacabBlbazabaBsCasducBeBvubbaHcBuBpdBkBvuaCh",
    "BqnaCtBaBlgHdBrIdhcachbbbxpabaDqhcBmqabaBcakBnhavalBttasCuHrBgBfibBkraBxBdEigbbbBlvazfbbbBfoaMps",
    "pabmbBhEuaDbBJlDyEgrHnDXkDspBPfrfzFXqfWkKDdBdCPuVwhBerDarBdsBvqdBfufsQqBsPnCwfaComCmbbaBcJBziBVp",
    "BpjNFrdbgbbbLepaBdccaodiPfDKuEcfmdihjNBcaThBskgqaMjBdsBrSqBbIuBdcaTbgbdbbbobHoFeaBUidbBabbbacabj",
    "bdbabagaeabababcbbbacabababababbbacdbgbdbdbabjbqfcbebqGOaCLFbBgGDtgIncINpoLBkpXxDQwUvCFyHHyfGFf"]),
  ("Sentence_Break", "SContinue", String.join [
    "BsbmaBYoaGsbSwaGBxafaDBebGAuaDAAwbbaBdbBdbdacakaGmbmaCva"]),
  ("Sentence_Break", "STerm", String.join [
    "BhaBdaCAbaFrcGyaBrcJmaCjabadbLhbCPwbBEkaebBDtaHqbHwafaMcbNqdGgbkbcbBdcHfbCnbBKubjcFGuanawbQnaBSH",
    "waKkbItadaOsbDibDraFwbFrcFobJpaBFFmbGnaBdaCnaEDwbBXdeBsdHhbEndExcEzbgaqbDkbbbEeaLmbEnbOjbfoEbbJp",
    "cTxabaJrbDjbQebBAqbCwbBCMbbFdaCnblaVhbLkaBDOgaLIma"]),
  ("Sentence_Break", "Sep", String.join [
    "FdaLZmb"]),
  ("Sentence_Break", "Sp", String.join [
    "jabbtaExaIHjaDPnkBkaBvaFXwa"]),
  ("Sentence_Break", "Upper", String.join [
    "CnzDxwbgBhabababababababababababababababababababababababababababacabababababababacababababababab",
    "ababababababababababababababababbbabadbbabbbccdbbbcdbbbbababbbacabbbcbabbdahbbbbbbababababababab",
    "acababababababababacbbabcbababababababababababababababababababababababababababababahbbbcabdbabab",
    "abaLdabadaiagabcbabbbqbiBjaccdabababababababababababafacabbcByBwabababababababababababababababab",
    "ajabababababababababababababababababababababababababababbbabababababacababababababababababababab",
    "ababababababababababababababababababababababababababababababababababacBlEHdBlbafaBBuDhDGlaOkabab",
    "abababababababababababababababababababababababababababababababababababababababababababababababab",
    "ababababababababababababababababababababababababajababababababababababababababababababababababab",
    "abababababababababababababababababababababababababajhifkhihiflabababaihyhihihieleldmeleKbaeadccc",
    "cadegabababdcdkbfaBaptaBFmzCSuBvBwabccabababdbacaicbabababababababababababababababababababababab",
    "ababababababababababababababababababababababababababaiabaeaBTYjababababababababababababababababa",
    "babababababatabababababababababababababaFfababababababadabababababababababababababababababababab",
    "ababababababababababakababbbabababaeabacabadababababababababababebebabababababababdbabbdafababab",
    "ayaBHAhzBUzBnFgBjGakbobgbbCQcByGbvEGoBfBGJwBfBMMqzBazBazBaabbcacbcdbhBazBabbdchbgBbbbdbebadgBbzB",
    "azBazBazBazBazBeyBhyBhyBhyBhyBhaGNlBhDBizgzgz"]),
  ("Word_Break", "ALetter", String.join [
    "CnzgzBvakaeafwbBebSlgBhEiebbcdbagabcbabtbDebFiiGjbBlcdbabBobaEaaBsBqBjbbDubapbhbkccaqabBdBdDklay",
    "BgjbeafveajadaxyhkfxbfrBpCgCbdasahjppehcbcvbgbadddaqanbbcobkaifebcvbgbbbbbbBfdbatcqibcbvbgbbbeda",
    "sapbxalhcbcvbgbbbedaBebbcparabfdcbddbbabbdbdcdlwaCahbcbwbpdaBaccacbBeaehbcbwbjbedaBfbbbpbribcbBo",
    "caqafcicyffrdxbibacgMbaClhbBjBbeKpBlbafacBqbMubdcgbabdcBobdcBgbdcgbabdcobCebdcCoBlpqDhcfdXvcqbzf",
    "CwdkhrnsorombcGtDkhecBhbafCrkBeIrwJeBurhCcBdnbkBrBaBjBpckBjckfBqccBpdbfbbdafHjCmKrcfcBlcfchbabab",
    "abBecCabgbadcbgddcfemfcbgEmanaqmDxaeacjbadegabababdbkcdfeearBoBFhBzCRuIugddbmBlbafacCdhaqwjgbgbg",
    "bgbgbgbgbgDcaSbaCbbHsBqbDprBfBPToBSuCpBtcKidpkbuBuqBecDbyHpcbbabhvpbcbdbwBdBzoBxCkfdabblBbkwzBch",
    "BuBcaBwBoxcbhFskhcmfcfcfjgbgbCfgEkBdQNrmweBwNGugmeCeDtBhNysClcCbBolEmebFeBkzgzCrBedfcfcfccBjlbzb",
    "sbbbocnBiEsCrCaKhBcdBwBvBfnBdfBlkBdcBjehbeBqGbsBjeBjeBniBzmkbobgbbbkbobgbbdBzmLyjvkhyfbBpbiCrfca",
    "bBrbbdacwkwjBeCnsbbkvkzCsCdgbCmapdbcbBcBqBcdBcBjhbBbBbCbkvksnrEgCuCdBynBynBjBmBbjwJqBpgbqcChBcka",
    "ivBqrBuuBbwmCaCfbcanBsBgyBaBjBdacaiBidamBvodvabaBjrbytbClgbabdbobjhBuBmhcbcvbgbbbedasameBejbacab",
    "BlbazabaBsCasducBeBvubbaHcBuBpdBkBvuaChBqnaMpBrEmClBfhcachbbbxpabaDqhcBmqabaBcakBnhavalBttasCuHr",
    "BgBfibBkraBxBdEigbbbBlvazfbbbBfoaMpspabmbBhEuaDbBJlDyEgrHnDXkDspBPfrfzFXqfWkKDdBdCPuVwhBerDarBds",
    "BvqdBfufsQqBsIdClEyCwfaComCmbbaBCVkEcfmdihjIWkDgbCsbbcacbcdblbabgbCmbdchbgbBbbdbebadgbNbcybybBeb",
    "ybBebybBebybBebybhCSyBegfKbCjFqBskgqaMjBdsBrSqBbIuBdcaTbgbdbbbobHoChCphaBUidbBabbbacabjbdbabagae",
    "abababcbbbacabababababbbacdbgbdbdbabjbqfcbebqYezgzgz"]),
  ("Word_Break", "CR", String.join [
    "na"]),
  ("Word_Break", "Double_Quote", String.join [
    "Bia"]),
  ("Word_Break", "Extend", String.join [
    "BDoEhKpgKdBsbabbbbbaCukBwuqaDxgcfcbbdBjaBeBaDnkCgijaydbibcbeBrcChiBqxbBgCccbrbgkbBdcCeabgcbccjak",
    "bBaaccCeabeebccdaBebdalcCeabhbcbcubwfbcCeabgcbcchckbBeaChedcbdjaBoeCdabgbcbdhblbBdcCeabgbcbdhblb",
    "pamdCdbbgbcbdjakbBdcCsaefbabhsbCjacgmhDuacilgCvbBbababaebBxtbbfkbBjjaDwtxdecbccgddnlbakdBBbcBKkd",
    "BccBdbBebCmBfjaBtcbaEnbBiaEolelIleCfjbBccaBwBeBxeBvqBmimcBemCenBwtFwcbueagaccHqClUeaHnBgEOccFlaD",
    "sBfVifEbbBSQedbjBgbDcbKmadaeaxeeaDfbByrBarnaBmhzmBsdBvnBkaCpnmaibBtcByabccbfbbaBpefbJchbbBDZsaBC",
    "jpqpOcbXhaIsaFteCMgcbbfdBoceaGjbWbdCneMfbDbdCskBxdEscCboBpacbkdBtkhaCjcBknqbBsamcBwnidbbDolgacaG",
    "blvdCdbbgcbccjakbcgdeCpibacabdbebaobDerxaDdtJbgciBbbDeqEcmDxoJwoJlfbbcdbabbFlgcgdaBcjBogbdiajkBu",
    "pPphbhDevbnEsfdabbbgbaCoebbbeNjdjbbaBwgdexaHXtagoQYyrDSaeChgBOiabCchdDdalbBDAxbGYzBtcwUwedfihcgB",
    "edFscCYdCceBxiaoaweboCAigbqcgbbbeDwaGegOlaCjdTodJubBCigEfgEBgeBSXYuDrEyJf"]),
  ("Word_Break", "ExtendNumLet", String.join [
    "DraMBfapbtaDGAobycJfa"]),
  ("Word_Break", "Format", String.join [
    "GraCAkfwaHkaBxaOubDcaFTjaDAtbBaeBxebjDGHjaJpcGIzapaNKkpBZQudHWxhBTKZma"]),
  ("Word_Break", "Hebrew_Letter", String.join [
    "CFgBaedDOVyabjbmbebabbbbbj"]),
  ("Word_Break", "Katakana", String.join [
    "SGneDxbdDmbdJgpIaBubDjCZHeCdCOUcdbgbbbaLbcByaod"]),
  ("Word_Break", "LF", String.join [
    "ka"]),
  ("Word_Break", "MidLetter", String.join [
    "CgaEuaBBraSdaFsaJXyaDGBbaCnaHoa"]),
  ("Word_Break", "MidNum", String.join [
    "BsaoaBGcaUcaFabDqaPfaJFfaDFZvadaChadaHbaoa"]),
  ("Word_Break", "MidNumLet", String.join [
    "BuaMCfbkaDGDpaGyaga"]),
  ("Word_Break", "Newline", String.join [
    "lbEqaLZmb"]),
  ("Word_Break", "Numeric", String.join [
    "BwjCIojbaFcjHqjPwjEojEojEojEojEojEojEojEojEojDsjEojCsjKsjCsjCTqjBmjLojEyjGkjgjHajDijFejgjCAEojBA",
    "cjBmjHqjwjDijPqjBFMcjCCkjDFyjgjBEqjEyjCijFojKsjNejEojOkjDyjgtCyjQgjDyjZmjDijJmjCsjQgjYYgjDMcjDij",
    "FejUojBKDyjECqBxDNcjQgjTijJnjBGvjHBaj"]),
  ("Word_Break", "Regional_Indicator", String.join [
    "HGOkz"]),
  ("Word_Break", "Single_Quote", String.join [
    "Bna"]),
  ("Word_Break", "WSegSpace", String.join [
    "BgaIMhaDPngbcDgaFXwa"]),
  ("Word_Break", "ZWJ", String.join [
    "MDpa"])
]

/-- The code points of a value of a boundary property, by long names. -/
def breakRanges? (property value : String) : Option Ranges :=
  (breakTables.find? fun t => t.1 == property && t.2.1 == value).map fun t => rangesOf t.2.2

end OpenApiGen.Unicode
