import OpenApiGen.Unicode.Table
/-!
The binary properties of Unicode 16.0 that classes may name, each with its code points in compact
form.
-/

namespace OpenApiGen.Unicode

/-- The binary properties by long name, with their code points in compact form. -/
def binaryTables : List (String × String) := [
  ("ASCII_Hex_Digit", String.join [
    "BwjhfBaf"]),
  ("Alphabetic", String.join [
    "CnzgzBvakaeafwbBebRpeloehabaDiaBqebbcdbagabcbabtbDebFiiGjbBlcagBoBnnbabbbbbaiBaedBdkfCdbgoDxbheh",
    "eckccaqBvnDwyBgjbeafxcstyhkfxbfiaiBpkldggCxbpbceonsbhcbcvbgbadddhcbcbbaiaebbembkaecbfebcvbgbbbbb",
    "beeebcbeahdbarflcbibcbvbgbbbedibcbbdapdvdecbhcbcvbgbbbedhcbcbjbebbenaqbbfdcbddbbabbdbdcdleedcbcd",
    "agaBombcbwbpdhbcbcibbccacdBcdbhbcbwbjbedhbcbcibgbbdncmmbcbBochbcbcbafdhewfbcbrdxbibacgifbabhsbnC",
    "ffggaBzbbabebxbabsbccebagaodBgaClhbBjesepbBjCpCcbaceqClkdcBlbafacBqbMubdcgbabdcBobdcBgbdcgbabdco",
    "bCebdcCoBlpqDhcfdXvcqbzfCwdkhtlumtmmbcbbmBzcsoaeaCpDkhBqfCrkBebleixBdcelBrezCcBbeCkctByaxblcBxBz",
    "bobhBzBpcdkBrbkoCcwckBjckfBqccBpdbfbbdafHjBnnlKrcfcBlcfchbabababBecCabgbadcbgddcfemfcbgEmanaqmDx",
    "aeacjbadegabababdbkcdfeearBoBFhBzCRuIugddbmBlbafacCdhaqwjgbgbgbgbgbgbgbgbBfBvaSbcziheceeDhgcbDlb",
    "dfBqbDprBfBwpTsJTnCmBGUeCpBtcKidpkbuBufhdEiBnicDycCocbbabhvtbBgyBzmCpbaBsfdabckBgfBinBcdByblpaqp",
    "kebCcjnswdCqbabayccpcdlfcfcfjgbgbBqbngEsvQNrmweBwMNcObcEbBmgmeflbmbebabbbbbEdBhNysClcCbBolEmebFe",
    "BkzgzlDkdfcfcfccBjlbzbsbbbocnBiEsCrCaKhBcdBwBvBfnBdfBqfBdcBjehbeBqGbsBjeBjeBniBzmkbobgbbbkbobgbb",
    "dBzmLyjvkhyfbBpbiCrfcabBrbbdacwkwjBeCnsbbkvkzCsCdgbCmdbbfhbcbBcBqBcdBcBjhbBbBbCbkvksnrEgCuCdBynB",
    "ynBnBiBbdafwJqBpbbdbqcCdadBckaivBqrBuuBbwjCrBrekCejanyxByrdiBidajClbdjbkabaBjrbBhcagdCkgbabdbobj",
    "hCexdbhcbcvbgbbbedhcbcbdagafgBcjbacabBlbjbacabdbbdabaBsCnbcbducBeCncbbaHcCbcgzfBiCkbadaChCbcaCtB",
    "acnvgHdCeDzClBfhcachbbbBdbbcbcdDphcBtcfbabbBbBycjrCtfasCuHrBgBfibBsbgbaBxBdcvbnCvgbbbBrdabbbcbac",
    "byfbbbBkbbbdbaMpwjqbBodcEhaDbBJlDyEgrHnDXkDspBPfrfzFXqfWkKDdBuCPdVwhBerDarBdsBvqdBfufsQqBsIdClEy",
    "CweCehqCmbbamboJBziBVpBpjNFrdbgbbbLepaBdccaodiPfDKuEcfmdihjeaIWfDgbCsbbcacbcdblbabgbCmbdchbgbBbb",
    "dbebadgbNbcybybBebybBebybBebybBebybhCSyBegfIfgbqcgbbbefCjBhaEiBskgqaMjBdsBrSqBbIuBdcaTbgbdbbbobH",
    "oChCpdadaBUidbBabbbacabjbdbabagaeabababcbbbacabababababbbacdbgbdbdbabjbqfcbebqYezgzgzFMkCLFbBgGD",
    "tgIncINpoLBkpXxDQwUvCFyHHyfGFf"]),
  ("Bidi_Control", String.join [
    "CIeaJVlbBaeCdd"]),
  ("Bidi_Mirrored", String.join [
    "BobsabaBcabaBdabaBtapaFMsdCUnbDQqbkbCcbobGvaHkddfdadbddbdbabaeifabrfdjbbabhcBecdfajbcsfbjecbexcp",
    "idubhbBPtnCwacdbbbcfdfcdnPnvcfbniahfdaeebbceeabccbkfcbmsbdcabacabdfbgcyblbedbbcbeBqchbBnfabadefc",
    "eadebaJwaTvddbbbobcjBrhQljchDACrffbGgbsabaBcabaBdababbbbDDPnaCfaCfaCfaCfa"]),
  ("Case_Ignorable", String.join [
    "BnagalaBjabaCtaeabaeacbTjHjebeajbbaJrgHzafaBxBsbabbbbbaBsalfkkbaBjakuqaDxhbjbdBhabaBeBaDnkCgkeac",
    "ayxBrcBsahbfiBpCfCdabaeheadgkbnapaCgaediaubBaacbCfaebebccdaBebdalbCfaeebbeaubwfbaCgacabdiahblbBe",
    "aCjamaByadaCdabcfcbdhblbBdaCgacagafbubBcbCfbediaubBdaCuahcbaDmacgliDuacijabgCvbBbababaCdnbebbfkb",
    "BjjaDydbfbbcbzbecqdnacbgapaDqaXkcBKkcBdbBebBebCmbbgiackdafaBteBzaCnbBiaEocebjagcIlbcaCgabgbabach",
    "gjcaBnaiBeBxdBwabebafaBoimbBgdcbbcCeabbdabcCghcbCmfDecbmbgeagadbByCknaBiDwRdabclcncncnbmeibkacac",
    "eBxebjbanaqmBzBgEJrbEjcEvapaDsBfBvaSbaBkddefaDpfDpcBQBuaBWcfKkaDudbjbaBcdDcboBhDaaxcDzcdbiadaeaz",
    "bfaFvbBarnaBmhzkBucBwacdcbravbCofcbcbmaiaBjalaBzabccbfbbaBbaobfbbaDwejcEracaeaBDZsaFrqWbpdampBia",
    "caGnahagalaBjabaBvaBtbCpavcTtaIsaFteBNpfbBpbiWkcbbfdBoceaGjbWbdBmaBaebaMdbDbdCskBxdEtaCcoBpacbkc",
    "BxdcbcaeakaBycBkebhCkambCaikdcaDrccabbgacaGbadhvbCfbdaBlgdeCsfnababaobDhhccbaxaDgfbaebbbJedgbbbB",
    "bbDhhcabbEcabacfbaDxabacdbeJzibbJwbbaeaFodcbeaBgjBofcdiajfccBumbbPqgbfbaDevcgbbbbEsfdabbbgbaCubd",
    "abaNjblbCaefabaxaHXdqgoQYyldcDSaeChgjdTocBobSoaClqCmbbbYGpdbgbbEUgbbdGYuBtcwUycjpcgBedFscCYdCceB",
    "xiaoaweboCAigbqcgbbbefCjBhaGenOeaCjdTneJubBCigEfhEBfeBSXXpaBeDrEyJf"]),
  ("Cased", String.join [
    "CnzgzBvakaeafwbBebHmbdeHzbBjhbBeeDsaBqdcbcdbagabcbabtbDebFiiGjbBljBoEFfBlbafacBqbdZwDhcfDFukfBqc",
    "cCmHjCmKrcfcBlcfchbabababBecCabgbadcbgddcfemfcbgEmanaqmDxaeacjbadegabababdbfeacdfeearBfdbBFlBzCR",
    "uIugddbmBlbafaBTWcBtsBdFcDxddbCjcbbabhvebcBFpBqbngDbBEAigmeBNtzgzBTtDbDsBjeBjEmkbobgbbbkbobgbbRj",
    "accbBpbiBUzBynByDpvkvEFiClBGIqClBMLkDgbCsbbcacbcdblbabgbCmbdchbgbBbbdbebadgbNbcybybBebybBebybBeb",
    "ybBebybhCSyjbtgfKbCjDGkCpDAazgzgz"]),
  ("Changes_When_Casefolded", String.join [
    "CnzDmakwbhBgabababababababababababababababababababababababababababacababababababababbbababababab",
    "abababababababababababababababababbbabababbbabbbccdbbbcdbbbbababbbacabbbcbabbdahbbbbbbababababab",
    "ababacababababababababacbbabcbababababababababababababababababababababababababababababahbbbcabdb",
    "abababaJmaBqabadaiagabcbabbbqbiwamcdbbababababababababababababbcbbabbcByBwababababababababababab",
    "abababababajabababababababababababababababababababababababababababbbabababababacabababababababab",
    "abababababababababababababababababababababababababababababababababababababababacBlBwaEFgBlbafaBF",
    "efDFujgBqccMiabababababababababababababababababababababababababababababababababababababababababa",
    "bababababababababababababababababababababababababababababababababafbcabababababababababababababa",
    "bababababababababababababababababababababababababababababababababababajhifkhihiflabababaihqBvccc",
    "ffccfldmefccfLladbgaBtptaBFmzCSuBvBwabccabababdbacaicbababababababababababababababababababababab",
    "abababababababababababababababababababababababababababaiabaeaBTYjabababababababababababababababa",
    "bababababababatabababababababababababababaFfababababababadababababababababababababababababababab",
    "abababababababababababakababbbabababaeabacabadababababababababababebebabababababababdbabbdafabab",
    "abayaBIgDbBEAigmeBNtzBUzBnFgBjGakbobgbbCQcByGbvEGoBfBGJwBfBULkBh"]),
  ("Changes_When_Casemapped", String.join [
    "CnzgzCgakwbBebClbDfbBbcncbbaeDobrgBabbbabbdbbdbecabbcahacabbdffakbGkaBqdcbdcbagabcbabtbBudBgbebF",
    "ciGjbBlkBmEFgBlbafacBqccZwDhcfDFukfBqccHdadaqaEjFzcabEncfcBlcfchbabababBecCabgbadcbgddcfemfcbgLl",
    "adbgaBbarBfdbBFlBzCRuEibbbbhDxhddbmBlbafaBTWcBtsBbFencCjjodccebybBdcbegybBHcaBcDbBEAigmeBNtzgzBT",
    "tDbDsBjeBjEmkbobgbbbkbobgbbCOpBynByDpvkvEFiClBGIqClBUKeCp"]),
  ("Changes_When_Lowercased", String.join [
    "CnzDxwbgBhabababababababababababababababababababababababababababacabababababababacababababababab",
    "ababababababababababababababababbbabadbbabbbccdbbbcdbbbbababbbacabbbcbabbdahbbbbbbababababababab",
    "acababababababababacbbabcbababababababababababababababababababababababababababababahbbbcabdbabab",
    "abaLdabadaiagabcbabbbqbiBjaiabababababababababababafacabbcByBwababababababababababababababababaj",
    "abababababababababababababababababababababababababababbbabababababacabababababababababababababab",
    "abababababababababababababababababababababababababababababababababacBlEHdBlbafaBBuDhDGlagBqccMia",
    "babababababababababababababababababababababababababababababababababababababababababababababababa",
    "babababababababababababababababababababababababababajabababababababababababababababababababababa",
    "bababababababababababababababababababababababababababajhifkhihiflabababaihyhihihieleldmeleLladbg",
    "aBtptaBFmzCSuBvBwabccabababdbacaicbababababababababababababababababababababababababababababababa",
    "babababababababababababababababababaiabaeaBTYjababababababababababababababababababababababatabab",
    "abababababababababababaFfababababababadababababababababababababababababababababababababababababa",
    "babakababbbabababaeabacabadababababababababababebebabababababababdbabbdafabababayaBHAhzBUzBnFgBj",
    "GakbobgbbCQcByGbvEGoBfBGJwBfBULkBh"]),
  ("Changes_When_NFKC_Casefolded", String.join [
    "CnzCrahabacabacdccbcbwbhBgabababababababababababababababababababababababababcbacabababcbabababbb",
    "ababababababababababababababababababababababbbabababbbabbbccdbbbcdbbbbababbbacabbbcbabbdahjbabab",
    "ababababacababababababababacdbcbababababababababababababababababababababababababababababahbbbcab",
    "dbabababaDtiBffceDnbbcjaBgabababadadbegbabbbqbiwamhbababababababababababababcbbbabbcByBwabababab",
    "ababababababababababababajabababababababababababababababababababababababababababbbabababababacab",
    "ababababababababababababababababababababababababababababababababababababababababababababababacBl",
    "BwaFsaDkdBChhEubbaDfacaBiccaJtbBBxaExaBobBuaCcajaeaeaeamajabeharajaeaeaeamaIwBlbafaBuaDubZnfBKob",
    "DheBRsjgBqccEecbkbrbBbnaBiBkCmababababababababababababababababababababababababababababababababab",
    "abababababababababababababababababababababababababababababababababababababababababafbcababababab",
    "abababababababababababababababababababababababababababababababababababababababababababajhifkhihi",
    "flabababaihbababababababacBvcccncidaedbcdaehccchbpbafamcdfdbbbeabaicnahscBabmlaDjdbcbkbbceccbaba",
    "babdbkbfeegBvdafaGgbbbJobLxFiBYnaDzcDxaLfBvBwabccabababdbacagebababababababababababababababababa",
    "babababababababababababababababababababababababababababababababaiabaeaEuaLraDfamIfBqaCbabcDsbcaD",
    "raBxDpdnDsBebBniBubOtBRGyababababababababababababababababababababababatababababababababababababa",
    "babbFcababababababadabababababababababababababababababababababababababababababababaiababbbababab",
    "aeabacabadababababababababababebebabababababababdbabbdafabababavdcbBHidjagDbBDGqKjcabacjbabacbdC",
    "pcEbBmgmefabxbebabbbbbEdBhNysClcCbBomdzwuclbsbdecbabFecabHhdfcfcfccdgbgbiBNrBnFgBjGakbobgbbSxebB",
    "pbiBUzByGbvEGoBfBGJwBfBDQmdGDmBjBRggohCmfWdDgbCsbbcacbcdblbabgbCmbdchbgbBbbdbebadgbNbcLfcBxDCqCj",
    "DGkBhBVydbBabbbacabjbdbabagaeabababcbbbacabababababbbacdbgbdbdbabjbqfcbebqWikfBebBfBacBjaEhcnBre",
    "ihbDQsjDRLmUvBPCQsGBn"]),
  ("Changes_When_Titlecased", String.join [
    "DtzCgaBpxbhbabababababababababababababababababababababababababababacabababababababbbabababababab",
    "ababababababababababababababababacababccabacadafacadccacababacaeacadabacadabaeabbbbbabababababab",
    "ababbbababababababababcbabadabababababababababababababababababababadababababababababaiacbbaeabab",
    "ababfbbbabbdbbdbecabbcahacabbdffakbGkaBrabadadcsaBbBibbdcbabababababababababababebacacaCaBvbabab",
    "ababababababababababababababajababababababababababababababababababababababababababacabababababab",
    "bbababababababababababababababababababababababababababababababababababababababababababababababab",
    "aBxBmFMefDFuibaJeadaqaEkabababababababababababababababababababababababababababababababababababab",
    "ababababababababababababababababababababababababababababababababababababababgfababababababababab",
    "ababababababababababababababababababababababababababababababababababababababiifkhihifkhihinchihi",
    "hiebbgadcbbidcbihkcbbNeaBhpeaBGlzCTqBvbadbbababagacakabababababababababababababababababababababa",
    "babababababababababababababababababababababababababababaiabaeamBlbafaBTWdabababababababababababa",
    "bababababababababababatabababababababababababababaFfababababababadababababababababababababababab",
    "abababababababababababababababakabacababababaeaeabbcabababababababababalabababababababaeabacadaf",
    "ababaBaaBHcaBcDbBEAigmeBOzzBVhBnFgBjFzkbobgbbCRbByEvvEGoBfBGJwBfBULmBh"]),
  ("Changes_When_Uppercased", String.join [
    "DtzCgaBpxbhbabababababababababababababababababababababababababababacabababababababbbabababababab",
    "ababababababababababababababababacababccabacadafacadccacababacaeacadabacadabafbbbbbbabababababab",
    "abbbababababababababbbbbadabababababababababababababababababababadababababababababaiacbbaeababab",
    "abfbbbabbdbbdbecabbcahacabbdffakbGkaBrabadadcsaBbBibbdcbabababababababababababebacacaCaBvbababab",
    "abababababababababababababajababababababababababababababababababababababababababacababababababbb",
    "abababababababababababababababababababababababababababababababababababababababababababababababaB",
    "xBmEHcBqccBDgfDFuibaJeadaqaEkabababababababababababababababababababababababababababababababababa",
    "bababababababababababababababababababababababababababababababababababababababababgfababababababa",
    "bababababababababababababababababababababababababababababababababababababababababiifkhihifkhihin",
    "cCabbeabadcbbeaddcbihkcbbeaMzaBhpeaBGlzCTqBvbadbbababagacakababababababababababababababababababa",
    "bababababababababababababababababababababababababababababababaiabaeamBlbafaBTWdababababababababa",
    "babababababababababababababatabababababababababababababaFfababababababadabababababababababababab",
    "ababababababababababababababababababakabacababababaeaeabbcabababababababababalabababababababaeab",
    "acadafababaBaaBHcaBcDbBEAigmeBOzzBVhBnFgBjFzkbobgbbCRbByEvvEGoBfBGJwBfBULmBh"]),
  ("Dash", String.join [
    "BtaCAuaBzaFKjaBNpaDBdfCjaBnapaPaaEOiacaBfbeaBcaReataEhaCZWabBlakaGnaFLoaMga"]),
  ("Default_Ignorable_Code_Point", String.join [
    "GraZxaBBoaEGwbCKhbDheDApeBaeBxpGKyaCZMppJfaGeaDbiCTLndHWxhBTKZlGBn"]),
  ("Deprecated", String.join [
    "MraBYvaDKtabaDCjbDIjfBAvbBZRYka"]),
  ("Diacritic", String.join [
    "DqabaCtagaeacbTjGcbhffrbeajbJteIbaCdqbBababbbaFehebFebebdcCpBaDnkCgkBibEwhBpjqBbCjaqaddBcaCwaqaE",
    "gaqaEgaqaBvcCiaqahaEpaEgaqaEgaqaEfbqaEuaEufbaEdaneCxbBbababaebCocbbCkaEiabbBobeezgbakbBBdcBKmbGx",
    "kjaNjcMbhcaBwockEaapaBmiCcbFibCmfDeyeagaccByCkDllBlkRdabclcncncnbEXkcMfaTmfEbdDraBSMkambbaBcbDeb",
    "oBhDycEfbHuaBbrCfdBkaDramaBkaFtcCndBzaDwejcEybBDZsaBDppKkabaBvaBtbCpaBDkaBTnfbBpbiBFebVzfBmaBaeP",
    "jcCskBxdHkaBpaCubEqbCkaCyajcEabGwbDdaqaygdeDlcbbnbDradaEtbJrbEwaEobElaKjbJybeaGaaDfasaDdaQfaJyab",
    "bDdaRiaHYaoQZpaDSaeChgVsbVaqDcbYGcdbgbbLThBtcwUycdfihcgBedFMwCjHmgOlaCjdBDmbBCigEfcbc"]),
  ("Emoji", String.join [
    "BjagafjEhaeaLYramaIiawaDmfpbOdbmaGkazkecHraIxbkajaCgdbejacacbcaeacabbcadadbicfabafllbcabbbasacbs",
    "fbabbdbfacbeblbfbcafbbabbubffbdcaeacacfbacababagadagakbpacaeabaecbalbBwcjaoaoaOibRvctbBzaeaBVuam",
    "aXdabaGMRqaHuaGebmboacjCxzbbxauacivbGsBhcEhcbbccDeccbKcbCklfbxhbchmacdcaebnbcaibjafcmciccabaeaga",
    "dagDhBwCrfhccejdabbdacjItleaKxBubjbHcEimdjfCdhockgi"]),
  ("Emoji_Component", String.join [
    "BjagafjMBjaIfaDFTraDOIwzTneCEadBSVUqDr"]),
  ("Emoji_Modifier", String.join [
    "HHIxe"]),
  ("Emoji_Modifier_Base", String.join [
    "OLhaIlaqdGSJvaCiccaccEnbckvsdaecbchabayaHtbeavaebGscdeDfaqcjalaWdacaihgajjccCeaCjbbbbarcbmIvcBqi"]),
  ("Emoji_Presentation", String.join [
    "NHqbHxddacaUbbvbBylBratanaibrbfbiafavahbbaeacahaebBcaBjabaecbaCjcyaoaBHbbBzaeaGPLeaHuaHiacjCxzba",
    "yauacebcvbGsBgmibCrbvmBqeemqdadCsbabHecCkndbxsaBabnaDiDgBwCrgadcccedlbhiItleaKxBubjbHcEimdjfCdho",
    "ckgi"]),
  ("Extended_Pictographic", String.join [
    "GnaeaLYramaIiawaDmfpbOdbmaDraCsazkecHraIxbkajaCgdbfblbEjkEnckbabagadagakbpacaeabaecbaleBtcjaoaoa",
    "OibRvctbBzaeaBVuamaXdabaGMRmJvncBfaCifmboacjsCeBbokauacibdjQrfMfiKfBwExEmlDhBqmdCehkfBohBedkdcCj",
    "mBubjbQyJwBNh"]),
  ("Extender", String.join [
    "HbaUqbBHuaQzaBHaaBCyaExaDNfaCeaXnaPiaCqaHKjaBreDzbDpcBQBuaCGsaBLaawaFhaEeavbBFZvaDBkbCFbaBbaeaCG",
    "jaEmbTecBVjaBEOfbBTkbbaBQYabBUfaBGuc"]),
  ("Grapheme_Base", String.join [
    "BgDqBhmbWvEihcfegbabtbIphGjbBlcBxccBuabacacajBaefrjlabBtvpbDwiagbcaeBfcabBdBdDklaoBqjgdxeajadaho",
    "byfabkfBerBpCfCcbabdidbchjcBcbbbhcbcvbgbadddabbgbcbbanbbcexfabfebcvbgbbbbbbecydbahjccbamabibcbvb",
    "gbbbeddiabbdapbelhaibbhcbcvbgbbbedacagbcbpbbcerlabfdcbddbbabbdbdcdlfabbdcbcdavugcbhbcbwbpdaddtcc",
    "acbejhjbkbcbwbjbedbcabbybbbejbcokbcbBocabbfcbcbbecbjezcbbrdxbibacgjbgghjccmBvbblhimBlbbabebxbabj",
    "bbjacebajjcdBgxcBabababnbBjsafaceBxhbfbmBlBseagacbcycddpembbcfbobBnbafacOmbdcgbabdcBobdcBgbdcgba",
    "bdcobCebdcCofBcdzgDhcfcZsdDkhrnsdbjrombcpBzcahhbblidjgjgkfjgDkhecBhbafCrkBeedccebbfhadBpcelBrezg",
    "kdCecbdCdbajabbifnjgjgnDiBvkddhbBcjlcBfebgCdbaccbanBvibfodCjfBqcklanahdbfbccafHjCmKrcfcBlcfchbab",
    "ababBecCabobncfbsccbibkfxhBwqbcBabmdBgClFjeZpwkvCRrcBfbNfdbfBsbafacCdhbpwjgbgbgbgbgbgbgbgBhDpBiz",
    "bDkmIfBaCfgpbDheDwfBqbDpbDhjBvbBRIqdCcjNjuBueakBfcDbcfiHxcbbabhvpbcbdbyceejgCdiCpklymbBliylamBdg",
    "BvbbebcbbmbkegbybBogbcblcbhbacjcBfbBybadbcecabayqchlfcfcfjgbgbCheEmbbbddjgQNrmweBwMNcObcEbBmgmef",
    "abxbebabbbbbEuqRccCbhaBgpqjwBibsbdeebFeeGacBedfcfcfccdgbgnbclbzbsbbbocnBiEsfceBsdDjbmdaBvBsFbBcd",
    "BwqBaeBjjBdfBlkBdbBkenBqGbcjgBjeBjeBniBzllbobgbbbkbobgbbdBzmLyjvkhyfbBpbiCrfcabBrbbdacwbCtiiBwsb",
    "bfBgdBafaCmCdetcBupdbcbBckihihClBgBkgljCbdBccBafzhdmgDcCuCdBynByhBpmjgBlixibIaBebBpdacbqcChBnivl",
    "iwredBmBbuwjabCbpgeBdbbcamBwebcbbdoyhjjBjfajriBibclBzjabhebbpbtlrbBbdbefbbClgbabdbobkgBubcnjibbh",
    "cbcvbgbbbedababdcbcbdamgBcjbacabBlbabbpabbdabcbbBnCdibdabubabcBeBvbbgabbbacacdijGkBubbgdcacBaBkB",
    "yibbacdljgmtBqbabbibgjgtBcBadabbeajwHdBujacaDwDemhcachbbbxbebbgdbcjjCshcBpidbdBbakBngbehjagbdBtn",
    "acinCuhjHaBhojgibBloabfkBcdBfzahacaCxgbbbBlvajjgfbbbBkebbabahjLyscdjobBjibdwDiapBxnBJmDyEgbelHnD",
    "XkDunBPfrfzFXqfWkKDdBdmcdjCOsVwhBebjeDcbjgBdhakBvhokjbgbufsQqCfHqDmDxCwfCdlmCmdBcJBziBVpBpjNFrdb",
    "gbbbLepaBdccaodiPfDKuEcfmdihjcacaFVkJpgQtGaElCiJlkBmcChfcwbhBdeCivCndaEstmtmDijyFfDgbCsbbcacbcdb",
    "lbabgbCmbdchbgbBbbdbebadgbNbcLfcVpCddByhbnbgBRwBegfKbCjFqBskgcjebMiBdsBrejfaRwBbejIgBdckeaSmgbdb",
    "bbobHociBwCphaejebBEfCpCyCiHmdbBabbbacabjbdbabagaeabababcbbbacabababababbbacdbgbdbdbabjbqfcbebqC",
    "abKkBreDvmocobobBkkGrCeBcnBreihbofFyBLveqdmdEoeDqgleapleCdijgBniBdclebCkNbmncmdjfCdhockgihFqbDxB",
    "NqCLFbBgGDtgIncINpoLBkpXxDQwUvCFyHHyfGFf"]),
  ("Grapheme_Extend", String.join [
    "BDoEhKpgKdBsbabbbbbaCukBwuqaDxgcfcbbdBjaBeBaDnkCgijaydbibcbeBrcChiBqxbBfCdabaeheadgkbBdaCgabacdi",
    "ajakbBaacbCfaebebccdaBebdalbCfaeebbeaubwfbaCgabbbdiahckbBeaChabamajaBoadaCdabcfcbdhblbBdaCgacbba",
    "dcbdhblbBcbCfbbacdiajakbBdaCuaeaccbaiaDdacgmhDuacilgCvbBbababaCdnbebbfkbBjjaDydbfbbcbzbecqdnacbg",
    "apaBBbcBKkdBccBdbBebCmbbgiackjaBtcbaEnbBiaEocebjagcIlbcaCgabgbabachgjcaBwBeBxdBwjecBmimbBgdcfCea",
    "bbdabeCehcbFwcbmbgeagadbHqClUeaHnBgEOccFlaDsBfVifEbbBSQedbjBgbDcbKmadaeazbfaFvbBarnaBmhzkbaBscBw",
    "acdcbcaBkaCpfcbcbmaiaBvaBzabccbfbbaBqbiaJeacaeaBDZsaBCjpqpOcbXhaIsaFteCMgcbbfdBoceaGjbWbdCneMfbD",
    "bdCskBxdEtaCcoBpacbkcBxdcbhaCjcBkebhCkambCaibaidcaDrccdgacaGbadhvbCfbbabamajaogdeCpacfbacabcecba",
    "obDhhccbaxaDdacfbacabbbbJbacdgbbbBbbDhhcabbEcabachDxabacdbeJzibbJlakdeaFodcbeaBgjBofcdiajfccBumb",
    "bPqgbfbaDevcgbbbbEsfdabbbgbaCubdabaNjblbCaefcxaHXtagoQYyldcDSaeChgBOiaCldDdalbBDAxbGYzBtcwUwedfi",
    "hcgBedFscCYdCceBxiaoaweboCAigbqcgbbbeDwaGegOlaCjdTodJubBCigEfgBTCAfDrEyJf"]),
  ("Grapheme_Link", String.join [
    ""]),
  ("Hex_Digit", String.join [
    "BwjhfBafDSLljhfBaf"]),
  ("Hyphen", String.join [
    "BtaExaBVwaGZzaDBdbFIbaBClaCZUlaGnaDja"]),
  ("IDS_Binary_Operator", String.join [
    "SEabcjTda"]),
  ("IDS_Trinary_Operator", String.join [
    "SEcb"]),
  ("IDS_Unary_Operator", String.join [
    "SEob"]),
  ("ID_Compat_Math_Continue", String.join [
    "GwbfaMAgadkboOhaeawaGJJeazaBfazaBfazaBfazaBfaza"]),
  ("ID_Compat_Math_Start", String.join [
    "MWwaeawaGJJeazaBfazaBfazaBfazaBfaza"]),
  ("ID_Continue", String.join [
    "BwjhzeabzBvakabacafwbBebRpeloehabarEmbbcdbagebabtbDebFibecGjbBlcagBoiBsbabbbbbaiBaedBdkfCveDxbhc",
    "jbscaqCgcDwoCbeacacBtsBbekfxbfiCwbEycjbsbhcbcvbgbaddcicbcdiaebbeclkabaccbfebcvbgbbbbbbcabeebccda",
    "hdbahplcbibcbvbgbbbecjbcbccapdcjjgbcbhcbcvbgbbbecicbcchcebbecjbaqbbfdcbddbbabbdbdcdleedcbdcagaoj",
    "qmbcbwbpcibcbdhbbccacdcjqdbhbcbwbjbecibcbdhbgbbdcjbcmmbcbBybcbefdhecjkfbcbrdxbibacgdaefbabhgjcbn",
    "CffobjBnbbabebxbabwcebabgbjcdBgaxbgjlababaejbBjetbrbBjjaCfCvgCzcBlbafacBqbMubdcgbabdcBobdcBgbdcg",
    "babdcobCebdcCoccjiopqDhcfdXvcqbzfCwdkhvjvltmmbcbbmDfdaebcjBhcbkgDkhBqfCrkBeblelkBncelBrezgkBlBbe",
    "CkbBcckgjnainbpBxCydjrimElmCdijdBwckfBqccqcbBmfUncfcBlcfchbabababBecCabgbadcbgddcfemfcbgpbBxbtaB",
    "canaqmBzmeadlraeacjbacfgabababpcdfeearBoDZbIugimBlbafacCdhapxjgbgbgbgbgbgbgbgbBfTxczobeceeDhcgbD",
    "qfBqbDprBfBwpTsJTnCmBGUeCpBtcKidBbuBvejbEkBlicDycCocbbabhvCbeatBzmCrkjgxdabBwcBjmBcdCmokgBebCcjn",
    "cjgwdCuyccpcekfcfcfjgbgbBqbngEsbbcjgQNrmweBwMNcObcEbBmgmeflbmbebabbbbbEdBhNysClcCbBolepqpdbycBge",
    "bFetjhzeabzkDldfcfcfccBjlbzbsbbbocnBiEsCrCaFgaFaBcdBwpaBfBfnBdfBqfBdcBjehbeBqGbcjgBjeBjeBniBzmkb",
    "obgbbbkbobgbbdBzmLyjvkhyfbBpbiCrfcabBrbbdacwkwjBeCnsbbkvkzCsCdgbCmdbbfhbcbBccceaBgBcdBcBjhbBdzCb",
    "kvksnrEgCuCdBynBynBnijgBldebwJqBpbbdbqcCdBgkaiBgBfvBquBbwjCsBfpjChhanyhjgCabjediBjcajCqedbmbaBjr",
    "bBkgdCkgbabdbobjhCgfjgdbhcbcvbgbbbebjcbcccagafgcgdeljbacabBlbjbacabdbhnbBdCwfjedBeCrbaijGkCbcixf",
    "BiCmdaljBmCehjgtBcBacoejggHdCgDxCvvhcachbbbBdbbcimjCshcBtchbbBbCkiaiCvdasCuHrBgpjgibBsbipjyBdcvb",
    "nCvgbbbBrdabbbiijgfbbbBkbbbfhjLywjqbBodenkDhaDbBJlDyEgrHnDXkDspBPfqvkFXqfWkKDdCfCOsVwhBebjgDabjg",
    "BdcelCcjdmjjufsQqBsdjHqClEyCweCehqCmbbblboJBziBVpBpjNFrdbgbbbLepaBdccaodiPfDKuEcfmdihjdbGErjTyBt",
    "cwUwedfihcgBedFscRbDgbCsbbcacbcdblbabgbCmbdchbgbBbbdbebadgbNbcybybBebybBebybBebybBebybhcBxTsCceB",
    "xiaoaweboBQmBegfIfgbqcgbbbefCjBhaEiBsdncjeaMjBerCfScBpIgBqSrgbdbbbobHolgBpCxejBTudbBabbbacabjbdb",
    "abagaeabababcbbbacabababababbbacdbgbdbdbabjbqfcbebqFAajBNqCLFbBgGDtgIncINpoLBkpXxDQwUvCFyHHyfGFf",
    "BONHgJf"]),
  ("ID_Start", String.join [
    "CnzgzBvakaeafwbBebRpeloehabaEzebbcdbagabcbabtbDebFiiGjbBlcagBoCtBaedBtBqBjbbDubapbhbkccaqabBdBdD",
    "klayBgjbeafveajadaxyhkfxbfrBpCgCbdasahjppehcbcvbgbadddaqanbbcobkaifebcvbgbbbbbbBfdbatcqibcbvbgbb",
    "bedasapbxalhcbcvbgbbbedaBebbcparabfdcbddbbabbdbdcdlwaCahbcbwbpdaBaccacbBeaehbcbwbjbedaBfbbbpbrib",
    "cbBocaqafcicyffrdxbibacgCgBvbbmgCgbbabebxbabjbbjacebavdBgaClhbBjBbeElBquaqfeddadbhcemmarBlbafacB",
    "qbMubdcgbabdcBobdcBgbdcgbabdcobCebdcCoBlpqDhcfdXvcqbzfCwdkhrnsorombcpBzBjaeaCpDkhBobafCrkBeBxBdc",
    "elBrezCcwjCaDeaDpBurhCcBdnbkBrBaBjBpckBjckfBqccBpdbfbbdafHjCmKrcfcBlcfchbabababBecCabgbadcbgddcf",
    "emfcbgEmanaqmDxaeacjbacfgabababpcdfeearBoDZbIugddbmBlbafacCdhaqwjgbgbgbgbgbgbgbgVecziheceeDheebD",
    "lbdfBqbDprBfBwpTsJTnCmBGUeCpBtcKidpkbuBuqBecDbBnicDycCocbbabhvpbcbdbwBdBzoBxCkfdabblBbkwzBchBuBc",
    "aqebjkebBoxcbhuwdadBxbadbcecabaycckhcmfcfcfjgbgbBqbngEkBdQNrmweBwMNcObcEbBmgmefabjbmbebabbbbbEdB",
    "hNysClcCbBolEmebFeBkzgzlDkdfcfcfccBjlbzbsbbbocnBiEsCrCaKhBcdBwBvBfnBdfBlkBdcBjehbeBqGbsBjeBjeBni",
    "BzmkbobgbbbkbobgbbdBzmLyjvkhyfbBpbiCrfcabBrbbdacwkwjBeCnsbbkvkzCsCdgbCmapdbcbBcBqBcdBcBjhbBbBbCb",
    "kvksnrEgCuCdBynBynBjBmBbjwJqBpgbqcChBckaivBqrBuuBbwmCaCfbcanBsBgyBaBjBdacaiBidamBvodvabaBjrbytbC",
    "lgbabdbobjhBuBmhcbcvbgbbbedasameBejbacabBlbazabaBsCasducBeBvubbaHcBuBpdBkBvuaChBqnaCtBaBlgHdBrEm",
    "ClBfhcachbbbxpabaDqhcBmqabaBcakBnhavalBttasCuHrBgBfibBkraBxBdEigbbbBlvazfbbbBfoaMpspabmbBhEuaDbB",
    "JlDyEgrHnDXkDspBPfrfzFXqfWkKDdBdCPuVwhBerDarBdsBvqdBfufsQqBsIdClEyCwfaComCmbbaBcJBziBVpBpjNFrdbg",
    "bbbLepaBdccaodiPfDKuEcfmdihjIWkDgbCsbbcacbcdblbabgbCmbdchbgbBbbdbebadgbNbcybybBebybBebybBebybBeb",
    "ybhCSyBegfKbCjFqBskgqaMjBdsBrSqBbIuBdcaTbgbdbbbobHoChCphaBUidbBabbbacabjbdbabagaeabababcbbbacaba",
    "babababbbacdbgbdbdbabjbqfcbebqGOaCLFbBgGDtgIncINpoLBkpXxDQwUvCFyHHyfGFf"]),
  ("Ideographic", String.join [
    "SEwbziocBLdJTnCmBFBjBHSiObcEbBSIkaBbJBziBVpBpjNUlPfBDEiCLFbBgGDtgIncINpoLBkpXxDQwUvCFyHHyfGFf"]),
  ("Join_Control", String.join [
    "MDob"]),
  ("Logical_Order_Exception", String.join [
    "FKieEteEDsccaCCXmbcabb"]),
  ("Lowercase", String.join [
    "DtzBvakaeaBkxbhbabababababababababababababababababababababababababababbbabababababababbbabababab",
    "ababababababababababababababababababacababccabacadbeacadccacababacabbbacadabacbccgacacababababab",
    "abababbbababababababababbcabadabababababababababababababababababababababababababababababgcacbbae",
    "ababababCqbBjhbBeeDsaBrabadacdsaBbBibbdcbabababababababababababebacacbBzBvbababababababababababa",
    "babababababajababababababababababababababababababababababababababacababababababbbabababababababa",
    "babababababababababababababababababababababababababababababababababababababababaBwBoEHbBqbdBDgfD",
    "FuibaEnHjCnababababababababababababababababababababababababababababababababababababababababababa",
    "babababababababababababababababababababababababababababababababibabababababababababababababababa",
    "bababababababababababababababababababababababababababababababababiifkhihifkhihinchihihiebbgadcbb",
    "idcbihkcbbEranaqmEfadbdaBbaeaeacbideaBhpeaBGlzCTqBvbadbbababaeabbbhdabababababababababababababab",
    "abababababababababababababababababababababababababababababababababababbhabaeamBlbafaBTWdabababab",
    "ababababababababababababababababababatabababababababababababababcFdababababababcbabababababababa",
    "bababababababababababababababababababababababjbabacababababaeabacabcbabababababababababafafababa",
    "bababababaeabacadabababababawcbabcBFpBqbngDbBEAigmeBOzzBVhBnFgBjFzkbobgbbRjaccbBpbiBXlByEvvEGoBf",
    "BGJwBfBMMkzBagbrBazBadbabgbkBazBazBazBazBazBazBazBazBaBbBcybfBaybfBaybfBaybfBaybfbaCSyjbtgfKbCjD",
    "HsBh"]),
  ("Math", String.join [
    "BraqcBfaBdabaBtaeaBlaBfaBCaccaBabccUhcJWnaBbcladanaodveleCnmeadbeesaeacjbacfgadbcbbcbfdnbaCqxbfb",
    "bebeBfbagboKhidubDmaBeBabayalgRdbmjefebcbdeoabacflhfbCfabaBddjcMyClJwTrBwucfDASqaBFrfbaGgaqcBdab",
    "aBdabaFbagdFEfbCXDwDgbCsbbcacbcdblbabgbCmbdchbgbBbbdbebadgbNbcLfcBxIIqdbBabbbacabjbdbabagaeababa",
    "bcbbbacabababababbbacdbgbdbdbabjbqfcbebqCab"]),
  ("Modifier_Combining_Mark", String.join [
    "CKibcaFbagadbSnbbcdaBfa"]),
  ("Noncharacter_Code_Point", String.join [
    "DSDcBfUgbDSYobDSYobDSYobDSYobDSYobDSYobDSYobDSYobDSYobDSYobDSYobDSYobDSYobDSYobDSYobDSYob"]),
  ("Other_Alphabetic", String.join [
    "DGpaDUUbaPmaBUpibacabdbbBDHgq"]),
  ("Other_Default_Ignorable_Code_Point", String.join [
    ""]),
  ("Other_Grapheme_Extend", String.join [
    "EVoagbbbDXhaBeaBNqabafbDxaCtbCBNzaEeaBNJzaEmaKtaEcajacabcfaBCoaYwaCHfaBEOkbBKXoaga"]),
  ("Other_ID_Continue", String.join [
    "MDobGKraDAEja"]),
  ("Other_ID_Start", String.join [
    ""]),
  ("Other_Lowercase", String.join [
    ""]),
  ("Other_Math", String.join [
    ""]),
  ("Other_Uppercase", String.join [
    ""]),
  ("Pattern_Syntax", String.join [
    "BhokgBadbaBadBigbabbbabbeaeadaxaBfaLUexiocsbjLtBBrGeYfBeBRnTsExOvceypaCZQzbKbb"]),
  ("Pattern_White_Space", String.join [
    "jesaDwaLYmbyb"]),
  ("Prepended_Concatenation_Mark", String.join [
    "CHcfIhaBxaOubDcaDVXyapa"]),
  ("Quotation_Mark", String.join [
    "BiaeaFbapaLWuhzbFIdaRpdncDABpdHhaeaDmb"]),
  ("Radical", String.join [
    "RPwzbDkmIf"]),
  ("Regional_Indicator", String.join [
    "HGOkz"]),
  ("Sentence_Terminal", String.join [
    "BhamaqaCAbaFrcGyaBrcJmaCjabadbLhbCPwbBEkaebBDtaHqbHwafaMcbNqdGgbkbcbBdcHfbCnbBKubjcFGuanawbQnaBS",
    "HwaKkbItadaOsbDibDraFwbFrcFobJpaBFFiadbGnamaqaCnaEDwbBXdeBsdHhbEndExcEzbgaqbDkbbbEeaLmbEnbOjbfoE",
    "bbJpcTxabaJrbDjbQebBAqbCwbBCMbbFdaCnblaVhbLkaBDOgaLIma"]),
  ("Soft_Dotted", String.join [
    "EbbHoaKvaBeaCaauaMiaDuabaJMnaBzanadaFcaGbaQfaIgbEGgaGELhbBybBybBybBybBybBybBybBybBybBybBybBybDFy",
    "aLtbBaa"]),
  ("Terminal_Punctuation", String.join [
    "BhakabalbdaBFyaiaTtaCfaCuaoabcGyaBrkbaJbbCcoBfaKbbBWubGqaefLzbBEjhBDtaEucCtbGbcdaBndcbMcbNqdGgbk",
    "bbcBdcHfeCkbBKubjcFGuanaeakabbdbQmbBSHvbKjcIteOsbDibDraFvcFrcExaqbJpaBFFgcbdGnakabalbdaCnacaBPqa",
    "BwaBSoaHraLybFwfCqfDldBKqeBsdHhgEidExcEzbgaqbDkeEeaLmbEncmbNuddoEbbJpcTxabaJrbDjbebPycBtaYvbCwbB",
    "YxeBAMzbFdaCnckaVhbLjbBDOgaLIld"]),
  ("Unified_Ideograph", String.join [
    "TSaJTnCmBFBjBICsbbabbkababbccDVEcCLFbBgGDtgIncINpoLBkpXxGRqHHyfGFf"]),
  ("Uppercase", String.join [
    "CnzDxwbgBhabababababababababababababababababababababababababababacabababababababacababababababab",
    "ababababababababababababababababbbabadbbabbbccdbbbcdbbbbababbbacabbbcbabbdahacacacababababababab",
    "acababababababababacacabcbababababababababababababababababababababababababababababahbbbcabdbabab",
    "abaLdabadaiagabcbabbbqbiBjaccdabababababababababababafacabbcByBwabababababababababababababababab",
    "ajabababababababababababababababababababababababababababbbabababababacababababababababababababab",
    "ababababababababababababababababababababababababababababababababababacBlEHdBlbafaBBuDhDGlagBqccM",
    "iabababababababababababababababababababababababababababababababababababababababababababababababa",
    "bababababababababababababababababababababababababababajababababababababababababababababababababa",
    "babababababababababababababababababababababababababababajhifkhihiflabababaihCudmdmdmeldKcaeadccc",
    "cadegabababdcdkbfaBaptaBFmzCSuBvBwabccabababdbacaicbabababababababababababababababababababababab",
    "ababababababababababababababababababababababababababaiabaeaBTYjababababababababababababababababa",
    "babababababatabababababababababababababaFfababababababadabababababababababababababababababababab",
    "ababababababababababakababbbabababaeabacabadababababababababababebebabababababababdbabbdafababab",
    "ayaBHAhzBUzBnFgBjGakbobgbbCQcByGbvEGoBfBGJwBfBMMqzBazBazBaabbcacbcdbhBazBabbdchbgBbbbdbebadgBbzB",
    "azBazBazBazBazBeyBhyBhyBhyBhyBhaGNlBhDBizgzgz"]),
  ("Variation_Selector", String.join [
    "JCtcbaDJCapBWNKyJf"]),
  ("White_Space", String.join [
    "jesaDwaBaaIHjaDPnkBdbfaBvaFXwa"]),
  ("XID_Continue", String.join [
    "BwjhzeabzBvakabacafwbBebRpeloehabarEmbbdcbagebabtbDebFibecGjbBlcagBoiBsbabbbbbaiBaedBdkfCveDxbhc",
    "jbscaqCgcDwoCbeacacBtsBbekfxbfiCwbEycjbsbhcbcvbgbaddcicbcdiaebbeclkabaccbfebcvbgbbbbbbcabeebccda",
    "hdbahplcbibcbvbgbbbecjbcbccapdcjjgbcbhcbcvbgbbbecicbcchcebbecjbaqbbfdcbddbbabbdbdcdleedcbdcagaoj",
    "qmbcbwbpcibcbdhbbccacdcjqdbhbcbwbjbecibcbdhbgbbdcjbcmmbcbBybcbefdhecjkfbcbrdxbibacgdaefbabhgjcbn",
    "CffobjBnbbabebxbabwcebabgbjcdBgaxbgjlababaejbBjetbrbBjjaCfCvgCzcBlbafacBqbMubdcgbabdcBobdcBgbdcg",
    "babdcobCebdcCoccjiopqDhcfdXvcqbzfCwdkhvjvltmmbcbbmDfdaebcjBhcbkgDkhBqfCrkBeblelkBncelBrezgkBlBbe",
    "CkbBcckgjnainbpBxCydjrimElmCdijdBwckfBqccqcbBmfUncfcBlcfchbabababBecCabgbadcbgddcfemfcbgpbBxbtaB",
    "canaqmBzmeadlraeacjbacfgabababpcdfeearBoDZbIugimBlbafacCdhapxjgbgbgbgbgbgbgbgbBfTxczobeceeDhcbcc",
    "bDqfBqbDprBfBwpTsJTnCmBGUeCpBtcKidBbuBvejbEkBlicDycCocbbabhvCbeatBzmCrkjgxdabBwcBjmBcdCmokgBebCc",
    "jncjgwdCuyccpcekfcfcfjgbgbBqbngEsbbcjgQNrmweBwMNcObcEbBmgmeflbmbebabbbbbEdBhFigIjsClcCbBojgpqpdb",
    "ycBhabadababababEvtjhzeabzkDldfcfcfccBjlbzbsbbbocnBiEsCrCaFgaFaBcdBwpaBfBfnBdfBqfBdcBjehbeBqGbcj",
    "gBjeBjeBniBzmkbobgbbbkbobgbbdBzmLyjvkhyfbBpbiCrfcabBrbbdacwkwjBeCnsbbkvkzCsCdgbCmdbbfhbcbBccceaB",
    "gBcdBcBjhbBdzCbkvksnrEgCuCdBynBynBnijgBldebwJqBpbbdbqcCdBgkaiBgBfvBquBbwjCsBfpjChhanyhjgCabjediB",
    "jcajCqedbmbaBjrbBkgdCkgbabdbobjhCgfjgdbhcbcvbgbbbebjcbcccagafgcgdeljbacabBlbjbacabdbhnbBdCwfjedB",
    "eCrbaijGkCbcixfBiCmdaljBmCehjgtBcBacoejggHdCgDxCvvhcachbbbBdbbcimjCshcBtchbbBbCkiaiCvdasCuHrBgpj",
    "gibBsbipjyBdcvbnCvgbbbBrdabbbiijgfbbbBkbbbfhjLywjqbBodenkDhaDbBJlDyEgrHnDXkDspBPfqvkFXqfWkKDdCfC",
    "OsVwhBebjgDabjgBdcelCcjdmjjufsQqBsdjHqClEyCweCehqCmbbblboJBziBVpBpjNFrdbgbbbLepaBdccaodiPfDKuEcf",
    "mdihjdbGErjTyBtcwUwedfihcgBedFscRbDgbCsbbcacbcdblbabgbCmbdchbgbBbbdbebadgbNbcybybBebybBebybBebyb",
    "BebybhcBxTsCceBxiaoaweboBQmBegfIfgbqcgbbbefCjBhaEiBsdncjeaMjBerCfScBpIgBqSrgbdbbbobHolgBpCxejBTu",
    "dbBabbbacabjbdbabagaeabababcbbbacabababababbbacdbgbdbdbabjbqfcbebqFAajBNqCLFbBgGDtgIncINpoLBkpXx",
    "DQwUvCFyHHyfGFfBONHgJf"]),
  ("XID_Start", String.join [
    "CnzgzBvakaeafwbBebRpeloehabaEzebbdcbagabcbabtbDebFiiGjbBlcagBoCtBaedBtBqBjbbDubapbhbkccaqabBdBdD",
    "klayBgjbeafveajadaxyhkfxbfrBpCgCbdasahjppehcbcvbgbadddaqanbbcobkaifebcvbgbbbbbbBfdbatcqibcbvbgbb",
    "bedasapbxalhcbcvbgbbbedaBebbcparabfdcbddbbabbdbdcdlwaCahbcbwbpdaBaccacbBeaehbcbwbjbedaBfbbbpbrib",
    "cbBocaqafcicyffrdxbibacgCgBvbangCgbbabebxbabjbakacebavdBgaClhbBjBbeElBquaqfeddadbhcemmarBlbafacB",
    "qbMubdcgbabdcBobdcBgbdcgbabdcobCebdcCoBlpqDhcfdXvcqbzfCwdkhrnsorombcpBzBjaeaCpDkhBobafCrkBeBxBdc",
    "elBrezCcwjCaDeaDpBurhCcBdnbkBrBaBjBpckBjckfBqccBpdbfbbdafHjCmKrcfcBlcfchbabababBecCabgbadcbgddcf",
    "emfcbgEmanaqmDxaeacjbacfgabababpcdfeearBoDZbIugddbmBlbafacCdhaqwjgbgbgbgbgbgbgbgVecziheceeDhgcbD",
    "lbdfBqbDprBfBwpTsJTnCmBGUeCpBtcKidpkbuBuqBecDbBnicDycCocbbabhvpbcbdbwBdBzoBxCkfdabblBbkwzBchBuBc",
    "aqebjkebBoxcbhuwdadBxbadbcecabaycckhcmfcfcfjgbgbBqbngEkBdQNrmweBwMNcObcEbBmgmefabjbmbebabbbbbEdB",
    "hFigIjsClcCbBojEpabadababababEvBkzgzlCdcBedfcfcfccBjlbzbsbbbocnBiEsCrCaKhBcdBwBvBfnBdfBlkBdcBjeh",
    "beBqGbsBjeBjeBniBzmkbobgbbbkbobgbbdBzmLyjvkhyfbBpbiCrfcabBrbbdacwkwjBeCnsbbkvkzCsCdgbCmapdbcbBcB",
    "qBcdBcBjhbBbBbCbkvksnrEgCuCdBynBynBjBmBbjwJqBpgbqcChBckaivBqrBuuBbwmCaCfbcanBsBgyBaBjBdacaiBidam",
    "BvodvabaBjrbytbClgbabdbobjhBuBmhcbcvbgbbbedasameBejbacabBlbazabaBsCasducBeBvubbaHcBuBpdBkBvuaChB",
    "qnaCtBaBlgHdBrEmClBfhcachbbbxpabaDqhcBmqabaBcakBnhavalBttasCuHrBgBfibBkraBxBdEigbbbBlvazfbbbBfoa",
    "MpspabmbBhEuaDbBJlDyEgrHnDXkDspBPfrfzFXqfWkKDdBdCPuVwhBerDarBdsBvqdBfufsQqBsIdClEyCwfaComCmbbaBc",
    "JBziBVpBpjNFrdbgbbbLepaBdccaodiPfDKuEcfmdihjIWkDgbCsbbcacbcdblbabgbCmbdchbgbBbbdbebadgbNbcybybBe",
    "bybBebybBebybBebybhCSyBegfKbCjFqBskgqaMjBdsBrSqBbIuBdcaTbgbdbbbobHoChCphaBUidbBabbbacabjbdbabaga",
    "eabababcbbbacabababababbbacdbgbdbdbabjbqfcbebqGOaCLFbBgGDtgIncINpoLBkpXxDQwUvCFyHHyfGFf"])
]

def binaryRanges? (name : String) : Option Ranges :=
  (binaryTables.lookup name).map rangesOf

end OpenApiGen.Unicode
