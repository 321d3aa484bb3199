import OpenApiGen.Unicode.Table
/-!
The version of Unicode that assigned each code point, up to 16.0.
-/

namespace OpenApiGen.Unicode

def ageNames : List String :=
  ["V1_1", "V2_0", "V2_1", "V3_0", "V3_1", "V3_2", "V4_0", "V4_1", "V5_0", "V5_1", "V5_2", "V6_0",
    "V6_1", "V6_2", "V6_3", "V7_0", "V8_0", "V9_0", "V10_0", "V11_0", "V12_0", "V12_1", "V13_0",
    "V14_0", "V15_0", "V15_1", "V16_0"]

def ageTable : List String := [
  "TibeeBebiebgbhsedhliojDlbfechBvbbekbferhCsbjebgihfidhcbbengekcbckcabbdjbbbqeahbbabbbaubbaBsbbkhb",
  "becgbbbebbbebbbebbbesbcfbgfheibembbeCobbembbeBpbbkcecgeeCbbcgcbcgcbcgbjBcbceibcicbgjqgejqkclcmiq",
  "baBmbcahbbuBnbbubbbecacqbnbarcbinckbbjjbbcdiiaBbbeabufblaehbnbqfkbibbjhfkbbbpbybibbbmBabfktbdedh",
  "gibmobcgCubcefbbepbbeBebchkbfebhoebaBeedhBbecadhBeiskBxebgoaChjcaduBulcaplbaBcmcabmbaltfaBfybacy",
  "fabBbiybnbqlngqcrbyiskxlybupsbrBbnbqbldbbhCbbcmsbblbmfbblcmzbckfmbqclcjbicjbqdbbaibcacbcawbbahbb",
  "abbdaebcabbbhhbcacbcadbbiiabbeacbbafbcavbblctbucabhbbbhbagbeacbcawbbahbbacbbacbbacbcabbbafbeacbc",
  "adbdabkhaebbabbhapbbkbukadbbahbbhbbbadbbawbbahbbacbbafbcakbbadbbadbcabbpabbdhcakbbnbhhabrgtbadbb",
  "aibcacbcawbbahbbacbbabhebcaibbkcacbcadbhabxcbeacbbadbckcalbbhgmkacbbagbdadbbaebdacbbabbbacbdacbd",
  "adbdaibbidbeafbdadbbaebcabkgabboabimbihfabqdbbuibbadbbaxbbakbbqfbcabybkhbbadbbaebhacbbackbrcabyc",
  "acbckcakbhabvikbsbqcbbuibbadbbaxbbakbbafbcachhbbadbbaebhacbgabybbbacbcjcakbbacjbzmabtbqcbbxibbad",
  "bbaxbbmqbbmctbkgbbkbadbbaebbmbseadsbbhsbrcbckcakbgkdshkbabxcebasedayebajebabecahedabeeagebabebai",
  "egakqcademaCgbeaBdbBlacbbabbbabvcbbvbbbabvbbgvebbvhbbvdbbabbbabbcvcbbvnbbvdbcafbbabbbagbbzbakbca",
  "cbcnBgaCucbaBhcbeckeaBbcemgcbebcbavcdehcbebcdebapebabkbecidkelcmBlaBiebkfebkcebkhedkeegkBaeCmkel",
  "ckBmbbabnfabncaBnbcgcibbbidnDmbflCqbflDebglhebiClebibebaeecahebabebaeecaBnebibebaeecaBfebibebaee",
  "cahebabebaeecahebihebaxebiBfebibebaeecahebiBnebitecacmciBcedaBaigaDhebrcagrcablYgejlBdedaDdeiqha",
  "ngbyhgbyjabyxgjaugmangbadgbacgmaDpebhcakegakhgapebykegaDkebuhaBqebkfaCslkaBdhcqbamheamheabhdaBqh",
  "cafhlaBqicleaBaigakibldaciBghBcicaciCllbaBdlcallgaklgaolcapqcxoyBxaCyjbybacBbBtjcybBbBrkdnmkgnCa",
  "miaemCekdapkdaBzkjscBbfaBrucaduiniaBjlenbtcqbvfaEehDkihjBckpqetbybsbmblcjFzbbcekDmbgkwbcagbcaBmb",
  "cagbcaibbabbbabbbabbbaBfbcaCbbbapbbaobcagbbatbcadbbajbbaBvbbexbbggefgchcibghifgbkbaephbbgcaBbbba",
  "fiimdalbbcbddecgeidlbmbodqbrbtbypasbcehgbiejbkpaCfbcebhbipgbicjbkdlBwbbebjekblcreaDnbjemgJibogbb",
  "beErbbebgBeeCagchlimjbllmhqesbtBlbcedBbwalbvaFjbugbhFubkgDcbieigubchcgbibeDibcemgcikgihlibkclchq",
  "ibjkkdlekklbmtlbmblemylbqebbmebcmBcbbmBjbbmbbbmebdmbbblhbcmhbogBfbdmybbmobbmhiejbnbkbncmBcgekqgJ",
  "weTsgohgihjfkejBpkdqfkflBaqcaBgqbabxBiqdumqbviqbtzuerpubvBvibyBvibynjdkbldkejgkclEdihlcnfaBtibab",
  "nfabncaCcicnhabibmoabmxijahibahibahibahibahibahibahibahibaBgkyiekcitkblknhqcsftfubvdxlyBiaBaebaD",
  "lemaIgeBaameeBaCebdedgbebbbaDgbcgcagbcgDqbbgfaBobbkbtbubaDqbbaqbyedmfxqiukcBbjabBaqgBdbchbaBkbml",
  "bhpgBcbchbiBybpgmbehBvbbwEpbehDvbchBfbbhJTeekxCmhBEXybwiikilbnjrvtfunxdyBSvedasecgqebgmebgdebgbe",
  "jaBwlLokuaBgkcmskinBckgqbrbnDkliaxiejfkcjEdkcmbrcmcnmqkmbndqbsbucqgrcugvcyfvexdBbcacybabybafydBb",
  "vadycxbqcnbmfkBsibxdaklgaCejiaCrkbsiamkgaBclcrcuDgklabkBdldaDalballeaclBfqbaCdkjaokcakkcaekBcleq",
  "CplyaflxnkagmcagmcagmjahmbahmbaBwqercqcvexeaDcrBulcaklgaQNscmaxleaBxleaDAucJXubcnChgdlcaEciBmahb",
  "mafbfabezbbafbbabbbacbbacbbaEebqmbyqaObbqyCmbcaCcbhabyBgfmbbgbhcyqgkigaebdkhqcrvbcgchkbbatbbaebe",
  "adbbgbbbaFfbcabbbaDqbcgDqbdagbcagbcagbcadbdahbbahbkadebddbmhbaBahbathbachbaphcaohBiaEthfadheaBth",
  "dajhCxicqcsbamkbxdabqBvaBukFaaBdkdaBxkpaBcqeaBffbqefjadtBbffaBrqfaBehbabhBkieaoiBqaBmfchBmfDchca",
  "khgaBkseaBkseaBoqiaCaqlabqlybapybahybacybalybapybahybacydaCaBbmaLzqjawqkaiqyagybaBqybajyCraghcab",
  "hbaBshbachdabhcabhwlbajlClqiajqBwatrbacrfafrBajcldabjBakfabkCmaCeneacrcnqrcaBureibacifaiibadibaB",
  "bicucadieajibuhajihaBglBgqBgaBnqeamqjaCcldaBdlcaBblfailsqhaeqmahqDcaCvlCdaBzrnaBzrhagrBouiakugaB",
  "mBbdaBdBbiacBbIaaBflbaBqxbadxcacxqadBbCdabBbdzBouiaBquwaBayBmaBcxuaxvjaDameaBemgyjabqColbykabuca",
  "znhakngaCbnbaondubxiaBnqjaCvnerbqcxknbqfrbauqlasqbaBrqbsdzCkahrbabrbaerbaprbalrgaChqfakqgabrdqba",
  "iqcacqcawqbahqbacqbafqbabujqcacqcadqcabrgabqfahqcahqdafqlakBbbabBbcabBbbaBmBbbakBbbabBbcabBbbaeB",
  "bbakBbbacBbiacBbBdaDmsbxbsbabsbubvcxBeaCuqiakqGkaCcqcasqurBiaCrqlakqganstaCenbvbygakngauBbBcaBar",
  "bucapreaqrhyHdaCiuDwaDfqmabqhxcabxcaixbacxbaBexbacxcamxjakxCsaivcaBuvcalvBbaCutiaCatcvxtbuftnaqy",
  "CfqhakzHaaBiBboakBbgajsbaBtsbaoskaBdsdaBgscawsbaosCvahtbactbaBstdabtbactbajtiaktgagubacubaBlubac",
  "ubaguhakuLyazuharzbaBpzdaBczbBbDhabxpaByvnabvBHvjBqqbrDyaDvjmqbaejbqlaHorDXkaDvynaBPflbzjvBdzkaF",
  "XrBbfaWlrKDdaCgBbCOsaVxmhaBfqbakqeacqDbybakygaBeqcagqkaCsqkakqbahqbavqfatqQqaCgBbHqaDnuDxaCrngve",
  "abvBvnjvharnCmabsbtcvbxlacxoaJBpsfugviaBDbsSpxBpabBbjxNFraeybahybacybacmKzteypabzBdadvcabzoaevia",
  "PgtDKuaEdqfanqdajqhakqcaiqFVgaJqBbgaQuBbCyaBuycaxyjaEmyCiaJmfkaBnfcabkGyflrcyvaCsiEsauzmauumaDjh",
  "jasjhuFfaDhfbaCtfbacfcabfcacfcaefbamfbabfbaefbhcfbaCnfbaefcaifbahfbaBcfbaefbaffbabfdahfbaNafcica",
  "LefcjcaByfZcrpafrbaprBQmaBfygagzIfahsbarscahsbacsbafsfaCkzBhabzEiaBtvdaovcakveacvMiaBfyraCgvfabv",
  "RwaBqzIgaBrBbeabBbSmahybaeybacybapybaHpqcaqqBpaCxsbveakseacsBEfaCquCyaCjvHmaenbaBbnbacnbabncabnb",
  "aknbaenbabnbabngabneabnbabnbabnbadnbacnbabncabnbabnbabnbabnbabnbacnbabncaenbahnbaenbaenbabnbaknb",
  "arnfadnbafnbarnCaacnKkaBskeaDwkmapmcaombqbapmbapmwqkallcqdxBflbubmbllmblbmblcmbldmbldmflimblhmbl",
  "kmcnbvdxjmblbmclcmblkmelcmblkmssbxCeaBamblcmnaBiljmbseajlhacmoagtFyaBhmmqdrgmbqCsmbqcrummqBlmbqf",
  "meqfrmqrmhqirClmbqbmbqHambqemcqbrCkmcqenhqfrymsqbsBpqbsDiqfmbnqmbndmbnbmbnbmbnbmbndmbngmcnembnbm",
  "cnembnmmcqcrlmBwqCsmkqbrcsctbvcxeabzdynqdaeqdsctbubvcxdaEmmdzeafzDhqeubzgamveabypamqeaCeqiakqgaB",
  "oqiaBeqcacxkBbeacBbCkamtbxdvjrgsbtisitbsctmsbvmsbtdupsntfubvbxeucxbybubveufrnsgtlucxgvdxcvkugvbr",
  "cuivbxbydvxtzuDgvmaoucaevbxdzdvcydadvexczbBbfabBbgvtxeydzhxeydzbBbbzdxdybBbhaczhxdyczbBbcabBbiyb",
  "zbBbgahyczhaFrxbaCdxBlBbkxBNoaccCLEtfhxcyBgaGDpleybzgaIomcaINqroaLBltpaXyBaDQwaUwfCFwaccHHzxfaGF",
  "gzDFLeaccDSYoaccDSYoaccDSYoaccDSYoaccDSYoaccDSYoaccDSYoaccDSYoaccDSYoaccDSYoaccbabfBeaDsfEyaJghD",
  "SFmaHLXic"]

def ageRanges? (name : String) : Option Ranges :=
  (ageNames.idxOf? name).map fun i =>
    runsWhere (runsOf (String.join ageTable)) fun v => 1 ≤ v && v ≤ i + 1

end OpenApiGen.Unicode
