import OpenApiGen.Unicode.Table
/-!
The general category of every code point, as of Unicode 16.0.
-/

namespace OpenApiGen.Unicode

def categoryCodes : List String :=
  ["Cn", "Lu", "Ll", "Lt", "Lm", "Lo", "Mn", "Mc", "Me", "Nd", "Nl", "No", "Pc", "Pd", "Ps", "Pe",
    "Pi", "Pf", "Po", "Sm", "Sc", "Sk", "So", "Zs", "Zl", "Zp", "Cc", "Cf", "Cs", "Co"]

def categoryTable : List String := [
  "BgBabxdsbudsbobpbsbtbsbncskjcsdtcsBabbobsbpbvbmbvBacbobtbpbtBhBabxbseubwbsbvbwbfbqbtbBbbwbvbwbtc",
  "lbvbccsbvblbfbrdlbsxbbthbycbticbbbcbbbcbbbcbbbcbbbcbbbcbbbcbbbcbbbcbbbcbbbcbbbcbbbcbbbcbbbcbbbcb",
  "bbcbbbcbbbcbbbcbbbcbbbcbbbcbbbcbbbcbbbcbbbcbbccbbbcbbbcbbbcbbbcbbbcbbbcbbbcbbccbbbcbbbcbbbcbbbcb",
  "bbcbbbcbbbcbbbcbbbcbbbcbbbcbbbcbbbcbbbcbbbcbbbcbbbcbbbcbbbcbbbcbbbcbbbcbbbccbbcbbbcbbdccbbcbbbcc",
  "bbcdbccebbccbbcdbdccbbccbbcbbbcbbbccbbcbbccbbbccbbcdbbcbbbccbccbfbbdcefbbbdbcbbbdbcbbbdbcbbbcbbb",
  "cbbbcbbbcbbbcbbbcbbbcbbccbbbcbbbcbbbcbbbcbbbcbbbcbbbcbbbcbbccbbbdbcbbbcdbbcbbbcbbbcbbbcbbbcbbbcb",
  "bbcbbbcbbbcbbbcbbbcbbbcbbbcbbbcbbbcbbbcbbbcbbbcbbbcbbbcbbbcbbbcbbbcbbbcbbbcbbbcbbbcbbbcbbbcbbhcc",
  "bbccbccbbbcebbcbbbcbbbcbbbcbbCrcbfBbcseevmeovfehvbebvbervEigbbbcbbbcbebvbbbccabedcbsbbeacvbbbsdb",
  "babbbacbbcrbbajbBjcbbccdbdcbbbcbbbcbbbcbbbcbbbcbbbcbbbcbbbcbbbcbbbcbbbcbbfcbbbcbtbbbccbccBzbBwcb",
  "bbcbbbcbbbcbbbcbbbcbbbcbbbcbbbcbbbcbbbcbbbcbbbcbbbcbbbcbbbcbbbcbbbcbwfgcibbbcbbbcbbbcbbbcbbbcbbb",
  "cbbbcbbbcbbbcbbbcbbbcbbbcbbbcbbbcbbbcbbbcbbbcbbbcbbbcbbbcbbbcbbbcbbbcbbbcbbbcbbbcbbbccbbcbbbcbbb",
  "cbbbcbbbcbbbcbbccbbbcbbbcbbbcbbbcbbbcbbbcbbbcbbbcbbbcbbbcbbbcbbbcbbbcbbbcbbbcbbbcbbbcbbbcbbbcbbb",
  "cbbbcbbbcbbbcbbbcbbbcbbbcbbbcbbbcbbbcbbbcbbbcbbbcbbbcbbbcbbbcbbbcbbbcbbbcbbbcbbbcbbbcbbbcbbbcbbb",
  "cbbbcbbbcbbbcbbbcbaBmbcabegsBpcbsbncacwbubaBtgbnbgbscgbscgbsbgiaBbfeaefcslagBbdtcsbucscwlgbsbBbd",
  "sBgfbekfvgkjescfbgDvfbsbfhgbBbbwggcecgbwegcfkjdfcwbfosbabBbbfbgBefBbgcaDlflgbfoakjBhfjgcebwdsbec",
  "abgcuwfegbejgbedgbefgcapsbazfdgcabsbalffayfbvgfbacBbfajgBpfbeygbBbBggbhCcfbgbhbgbfdhigehbgchbfhg",
  "kfcgcskjbsbepfbgchbaifcacfcawfbahfbabfdaefcabgbfdhegcachcachbgbfiabheacfbadfcgcakjcfcuglbwbubfbs",
  "bgcacgbhbagfeacfcawfbahfbacfbacfbacfcabgbadhcgeacgcadgdabghaefbabfhakjcgdfbgbskacgbhbajfbadfbawf",
  "bahfbacfbaffcabgbfdhfgbacgbhbachbgcabfpacfcgcakjbsbuhabfggbabgchbaifcacfcawfbahfbacfbaffcabgbfbh",
  "bgbhegcachcachbghacgbheacfbadfcgcakjbwbfglkabgbfbagfdadfbaefdacfbabfbacfdacfdadfdamfeachbgchdadh",
  "badhbgcabfgabhoakjdlgwbubwfabgdhbgifbadfbaxfbaqfcabgbfdgehbadgbaeghacgbadfcabfcacfcgcakjhabshlbw",
  "bfbgchbsifbadfbaxfbakfbaffcabgbfbhbgfhbabgchbachcghachgacfbacfcgcakjbacfbhmacgchjfbadfbaBpfcgbfd",
  "hegbadhbadhbgbfbweadfbhhldfcgcakjjlbwgfbabgchbasfdayfbajfbabfcahfdabgeadhdgbabgbaihgakjcachbsmaB",
  "wfbgcfhgeabugfbeigbskjcsBlacfbabfbaffbayfbabfbakfbgcfjgbfcaffbabebahgbakjcaefBgabfdwpsbwbsdwcggw",
  "kjklbwbgbwbgbwbgbobpbobpchifbaBkfeaogbhfgbscgfflgbaBkgbaiwbggwbacwfsewcsBlaBrfchegbhggbhcgchcgbf",
  "kjgsgfchcgefdgbfdhcfhhdfegnfbgchcgghbgbfbhkjdhbgcwBmbbabbfabbcaBrcbsbedcMrfbaefcahfbabfbaefcaBpf",
  "baefcaBhfbaefcahfbabfbaefcapfbaCffbaefcaCpfcadgjsuldaqfkwgaDibcagccabnXwfbwbsrfbxBafbobpdaCxfdsd",
  "kifhasfdgbhjatfcgbhcsjasfcgmanfbadfbacgmaCafcgbhhgihbgchlgdsbedsbubfbgcakjgaklgagsbnesdgbBbbgkjg",
  "aBjfbeCbfhaffcgBifbgbffaCsfkaBffbadgehcgdheachbgghdgeabwdacskjBefcafflaBsfeaBafgakjbldaBiwxfcgch",
  "bgcacsCbfbhbgbhhgbabgbhbgchigghkgcabgkjgakjgahsbegscaogbiqgBxaegbhBvfbgbhfgbhbgfhbgchifbacskjhsk",
  "wjgjwdscgbhBefbhegchcgbhdgcfkjBsfbgbhcgdhbgbhdgchiaesBkfihigchcgdafskjdadfkjBefgecsjcbbbcfaBrbca",
  "dbisiadgbsngbhhgefbggfbgcfbhcgbffaBscClencbeBicBleCmgbbbcbbbcbbbcbbbcbbbcbbbcbbbcbbbcbbbcbbbcbbb",
  "cbbbcbbbcbbbcbbbcbbbcbbbcbbbcbbbcbbbcbbbcbbbcbbbcbbbcbbbcbbbcbbbcbbbcbbbcbbbcbbbcbbbcbbbcbbbcbbb",
  "cbbbcbbbcbbbcbbbcbbbcbbbcbbbcbbbcbbbcbbbcbbbcbbbcbbbcbbbcbbbcbbbcbbbcbbbcbbbcbbbcbbbcbbbcbbbcbbb",
  "cbbbcbbbcbbbcbbbcbbbcbbbcbbbcbbbcbbbcbbbcbbbcbbbcbbbcbbbcbbbcbbjcbbbcbbbcbbbcbbbcbbbcbbbcbbbcbbb",
  "cbbbcbbbcbbbcbbbcbbbcbbbcbbbcbbbcbbbcbbbcbbbcbbbcbbbcbbbcbbbcbbbcbbbcbbbcbbbcbbbcbbbcbbbcbbbcbbb",
  "cbbbcbbbcbbbcbbbcbbbcbbbcbbbcbbbcbbbcbbbcbbbcbbbcbbbcbbbcbbbcbbbcbbjcibgccagbcaicibicibgccagbcai",
  "cbabbbabbbabbbabbiciboccaicidicidicidfcbaccebbdbvbcdvdcbaccebbddveccaccebbadvicfbdvcadcbaccebbdc",
  "vbalxfBbgncsbqbrbocqbrbobqisbybzfBbbxjsbqbrescmdsbtbobplsbtbsbmksbxfBbbakBbblbecagldtbobpbekldtb",
  "obpbanedaBhupangeibgdimgpacwbbewbbcwbcdbccdbbcbwbbcwbtfbgwbbbwbbbwbbbwebbwbcebbcefbccwcccbftbbec",
  "bwbtcwbcbwqlBjkbbbcekblcweaftfwctewbtcwbtcwbthwbtBfwctcwbtbwbtBfwKitiwbobpbobpuwcthwbobpDdwbtBew",
  "ztBowgtCuwwalwvaCilDawwlHbwbtjwbtCcwitEhwbtJowbobpbobpbobpbobpbobpbobpbobpBelBswftbobpBftbobpbob",
  "pbobpbobpbobpqtJwwFbtbobpbobpbobpbobpbobpbobpbobpbobpbobpbobpbobpCltbobpbobpBgtbobpJytBwwvtcwgtB",
  "nwcaBgwbaEbwBwbBwcbbbcdbccbbbcbbbcbbbcebbcbbccbbgccedbbcbbbcbbbcbbbcbbbcbbbcbbbcbbbcbbbcbbbcbbbc",
  "bbbcbbbcbbbcbbbcbbbcbbbcbbbcbbbcbbbcbbbcbbbcbbbcbbbcbbbcbbbcbbbcbbbcbbbcbbbcbbbcbbbcbbbcbbbcbbbc",
  "bbbcbbbcbbbcbbbcbbbcbbbcbbbcbbbcbbbcbbbcbbbcbbbcbbbcbbbcbbccgwbbbcbbbcdgbbbcfaesblcsBmcbabcfabcc",
  "aCefhabebsoabgxfjahfbahfbahfbahfbahfbahfbahfbahfbaBggcsbqbrbqbrdsbqbrbsbqbrjsbncsbnbsbqbrcsbqbrb",
  "obpbobpbobpbobpfsbekscnesbnbsbonscwdsbobpbobpbobpbobpbnBiaBawbaDlwmaIgwBaaqwbxdsbwbebfbkbobpbobp",
  "bobpbobpbobpcwbobpbobpbobpbobpbnbocpbwjkegchbnfecwdkbebfbscwbaDifcacgcvcebfbnDmfbsdebffaBrfbaDqf",
  "bacwelkwBgfBmwjabwqfBfwbaklBewilbwplBgwklBnwplMiwJTofCmwBFCffbeBRzfdaCdwjaBofgecsKifbedsqfkjcfua",
  "bbbcbbbcbbbcbbbcbbbcbbbcbbbcbbbcbbbcbbbcbbbcbbbcbbbcbbbcbbbcbbbcbbbcbbbcbbbcbbbcbbbcbbbcbbbcbfbg",
  "dibskgbsbebbbcbbbcbbbcbbbcbbbcbbbcbbbcbbbcbbbcbbbcbbbcbbbcbbbcbbbccecgCsfkkcggsiaxvjecvbbbcbbbcb",
  "bbcbbbcbbbcbbbcbbdcbbbcbbbcbbbcbbbcbbbcbbbcbbbcbbbcbbbcbbbcbbbcbbbcbbbcbbbcbbbcbbbcbbbcbbbcbbbcb",
  "bbcbbbcbbbcbbbcbbbcbbbcbbbcbbbcbbbcbbbcbbbcbbbcbeicbbbcbbbccbbcbbbcbbbcbbbcbbbcbecvbbbcbbbcbfbbb",
  "cbbdcbbbcbbbcbbbcbbbcbbbcbbbcbbbcbbbcbbbcbbbcfbbcfbbcbbbcbbbcbbbcbbbcbbbcbbbcbbbcebbcbbbccbbccab",
  "bbcbabcbabcbbbcbbbcbbbcbbvadebbbcbfcebchfbgdfbgefbgxfchcgbhewbgdaglcwbubwgaCafesiachByfqhcgiacsk",
  "jgasggfdsbfbscfbgkjBcfigcsxflgchlabsBdfdadgbhBvfbgchegchcgdhnsbabekjeacsffbgbejfkjffbaBpfggchcgc",
  "hcgjadfbgifbgbhcakjcaesqfbegfdwbfbhbgbhByfbgbfdgcfcgffcgbfbgbfyacfbecslfbhcgchcsbfcebhbgkagfcagf",
  "cagfjahfbahfbaBrcbveejcbecveaDccBjfchbgchbgchbsbhbgcakjgaQNsfmaxfeaBxfeaDAuBcJMeBdOcfcaEcfBmahcm",
  "afcfabfbgkfbtnfbaffbabfbacfbacfbaEefrvqaNzfbpboqwCmfcaCcfhabwBgamfbudwqghsbobpbsgaqgbscncmbobpbo",
  "bpbobpbobpbobpbobpbobpbobpcsbobpesdmdsbaesbnbobpbobpbobpdsbtbndtbabsbucseaffbaFffcabBbbadsbudsbo",
  "bpbsbtbsbncskjcsdtcsBabbobsbpbvbmbvBacbobtbpbtbobpbsbobpcskfbeBtfceBffdagfcagfcagfcadfdacubtbvbw",
  "cubabwetcwkadBbcwcamfbaBafbatfbacfbapfcaofBiaEtffadseaBtldajwCbkelrwcldwbanwdabwBvaBtwbgFaaBdfda",
  "BxfpabgBbleaBgfeljaufbkifbkfaBmffgfaBefbabsBkfeaifbsfkBqaBobBocDafcakjgaBkbeaBkceaBofiaCaflabslb",
  "bapbbahbbacbbalcbapcbahcbaccdaCafmaLzfjawfkaifyagebaBqebajeCragfcabfbaBsfbacfdabfcaxfbabsilxfcwh",
  "lBffiajlBwatfbacffaflwfgldabsBaffabsCmaCefeaclcfqlcaBulbfdgbacgfaegefbadfbaBdfcadgeabgjlhajshaBd",
  "fclbsBdfdlBgaifbwBcfcgeaflhsjaCcfdahswfcailtffailsfhaesmahlDcaCvfCdaBzbnaBzchaglBkfegiakjgakjefb",
  "ebfwbdafgbnbewciactIaaBflbaBqfbacgbncacfqadfCdaegBdfklbfiawflgelfswasfegesBmavfhluaxfjabhbgbhCbf",
  "pghseaulkjbgcfcgbfjadgbhBtfdhegchcgcsbBbesbgkabBbcazfhakjgadgBkffgbhigbakjesbfchbfiaBjfbgcsbfjac",
  "gbhBwfdhjgchefesegbsbhbgkjbfbsbfdsbaullasfbazfdhdgchbgbhcggsbgcfbgCkahfbabfbaefbapfbakfbsgaBvfbg",
  "dhigfakjgacgchbaifcacfcawfbahfbacfbaffbacgbfchbgehcachcadhcabfgabhfaffchcahgdafglakfbabfcabfbaBm",
  "fbabfdhggbabhcabhbaehbachbgbhbgbfbgbfcsbacsiacgBdaCbfdhigchdgbhbgeffskjcsbabsbgdfBeaBwfdhggbhbge",
  "hcgbhcgcfbsbfiakjGkaBvfdhegcaehcgbhcgxsefcgBiaBwfdhigchbgbhcgdsbflakjganstaBrfbgbhbgchggbhbgbfbs",
  "gakjgaujBcaBbfcabgbhbgchegbhfgeakjcldsbwhfHdaBsfdhjgbhcgbsDwaBgbBgckjjlmaifcabfcaifbacfbayfghbac",
  "hcacgbhbgbfbhbfbhbgdsjakjCsaifcaBnfdhegcacgehbgbfbsbfbhBbabfkgBofggbhbfegisbgiabfggchdgBufngbhcg",
  "dsbffsnaCvfhaksHaaBhfbsoakjgajfbaBlfbhhgbaggbhbgbffskakjtldacsBefcawgbabhhgbhcgbhcgCvahfbacfbaBm",
  "fggdabgbacgbahgbfbgiakjgagfbacfbaBgffhbacgbachbgbhbgbfhakjLyatfcgchcshacgbfbhnfbaBifchfgdachbgbh",
  "bgnskjbgDhabfpavliweurwnabsBJmfDyaEhkbafslaHofDXkaDtfcsnaBPgfqBbbggfpgkaFXrffaWlfKDdaBefmgdhdgkj",
  "COsaVxfhaBffbakjeacsDbfbakjgaBefcafgbskaBwfhgfseweebsbwkakjbahlbavffatfQqadeBofcedskjHqaBgbBgcxl",
  "esDxaCxfeabgbfCdhhaegneCmacebsbebglachoaJCafiaBVqfBpakfNFraeebahebacebaLffpabfBdadfcabfoaefiaPgf",
  "DKuaEdffanfdajfhakfcabwcgbseBbFVgaJgwkjgaQuwCyaBugcaxgjaEmwCiaJmwkaBnwcaCiwchdgdwghiBbigcwhgBewe",
  "gCjwvaCowdgbwEsaulmaulmaDjwjazlFfaBabBacBabhcbascBabBacbbbacbcabbcacbcaebbaibecbabcbahcbalcBabBa",
  "ccbbaebcaibbahbbaBaccbbaebbafbbabbdahbbaBacBabBacBabBacBabBacBabBacBabBacBabBcccazbbtzcbtgczbbtz",
  "cbtgczbbtzcbtgczbbtzcbtgczbbtzcbtgcbbbccaByjTswCdgewBygiwbgowbgcwfspafgbapgBQmakcbfucgagcIfahgba",
  "rgcahgbacgbafgfaCkeBhabgEiaBtfdahghecakjeabfbwMiaBefbgraBsfegkjfabuRwaBbfbeegkjIgaBefcgbfkjeabsS",
  "mahfbaefbacfbapfbaHpfcajlhgBpaBibBichgbeeakjeacsBEfaChlbwdlbuelCyaBtlbwplHmaefbaBbfbacfbabfcabfb",
  "akfbaefbabfbabfgabfeabfbabfbabfbadfbacfbabfcabfbabfbabfbabfbabfbacfbabfcaefbahfbaefbaefbabfbakfb",
  "arffadfbaffbarfCaactKkaBsweaDwwmapwcapwbapwbaBlwkanlGfwCeaBdwnaBsweajwhacwoagwFyaJrwfvBCawearwda",
  "nwdaEpweaDrwgamweabwpamweaCewiakwgaBowiaBewcamweacwCkaNcwmaowcanwdakwfaCewhapwcalwgajwhaFrwbaDow",
  "kjBNqaCLFcfBgaGDufgaIofcaINqfoaLBlfpaXyfDQwaUwfCFyaHHzffaGFgfBOMXlabBbBeaDsBbEyaJggDSFoaDSYoBdca",
  "DSYoBdca"]

/-- The code points whose general category is one of the given two-letter codes. -/
def categoryRanges (codes : List String) : Ranges :=
  let wanted := categoryCodes.zipIdx.filterMap fun (c, i) => if codes.contains c then some i else none
  runsWhere (runsOf (String.join categoryTable)) wanted.contains

end OpenApiGen.Unicode
