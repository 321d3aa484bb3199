import OpenApiGen.Unicode.Table
/-!
The script of every code point, and its script extensions, as of Unicode 16.0.
-/

namespace OpenApiGen.Unicode

/-- The long names of the scripts, in the order the tables number them. -/
def scriptNames : List String :=
  ["Unknown", "Adlam", "Ahom", "Anatolian_Hieroglyphs", "Arabic", "Armenian", "Avestan", "Balinese",
    "Bamum", "Bassa_Vah", "Batak", "Bengali", "Bhaiksuki", "Bopomofo", "Brahmi", "Braille",
    "Buginese", "Buhid", "Canadian_Aboriginal", "Carian", "Caucasian_Albanian", "Chakma", "Cham",
    "Cherokee", "Chorasmian", "Common", "Coptic", "Cuneiform", "Cypriot", "Cypro_Minoan", "Cyrillic",
    "Deseret", "Devanagari", "Dives_Akuru", "Dogra", "Duployan", "Egyptian_Hieroglyphs", "Elbasan",
    "Elymaic", "Ethiopic", "Garay", "Georgian", "Glagolitic", "Gothic", "Grantha", "Greek",
    "Gujarati", "Gunjala_Gondi", "Gurmukhi", "Gurung_Khema", "Han", "Hangul", "Hanifi_Rohingya",
    "Hanunoo", "Hatran", "Hebrew", "Hiragana", "Imperial_Aramaic", "Inherited",
    "Inscriptional_Pahlavi", "Inscriptional_Parthian", "Javanese", "Kaithi", "Kannada", "Katakana",
    "Kawi", "Kayah_Li", "Kharoshthi", "Khitan_Small_Script", "Khmer", "Khojki", "Khudawadi",
    "Kirat_Rai", "Lao", "Latin", "Lepcha", "Limbu", "Linear_A", "Linear_B", "Lisu", "Lycian",
    "Lydian", "Mahajani", "Makasar", "Malayalam", "Mandaic", "Manichaean", "Marchen",
    "Masaram_Gondi", "Medefaidrin", "Meetei_Mayek", "Mende_Kikakui", "Meroitic_Cursive",
    "Meroitic_Hieroglyphs", "Miao", "Modi", "Mongolian", "Mro", "Multani", "Myanmar", "Nabataean",
    "Nag_Mundari", "Nandinagari", "New_Tai_Lue", "Newa", "Nko", "Nushu", "Nyiakeng_Puachue_Hmong",
    "Ogham", "Ol_Chiki", "Ol_Onal", "Old_Hungarian", "Old_Italic", "Old_North_Arabian", "Old_Permic",
    "Old_Persian", "Old_Sogdian", "Old_South_Arabian", "Old_Turkic", "Old_Uyghur", "Oriya", "Osage",
    "Osmanya", "Pahawh_Hmong", "Palmyrene", "Pau_Cin_Hau", "Phags_Pa", "Phoenician",
    "Psalter_Pahlavi", "Rejang", "Runic", "Samaritan", "Saurashtra", "Sharada", "Shavian", "Siddham",
    "SignWriting", "Sinhala", "Sogdian", "Sora_Sompeng", "Soyombo", "Sundanese", "Sunuwar",
    "Syloti_Nagri", "Syriac", "Tagalog", "Tagbanwa", "Tai_Le", "Tai_Tham", "Tai_Viet", "Takri",
    "Tamil", "Tangsa", "Tangut", "Telugu", "Thaana", "Thai", "Tibetan", "Tifinagh", "Tirhuta",
    "Todhri", "Toto", "Tulu_Tigalari", "Ugaritic", "Vai", "Vithkuqi", "Wancho", "Warang_Citi",
    "Yezidi", "Yi", "Zanabazar_Square"]

def scriptTable : List String := [
  "CnzBaCwgzBaCwBvzbCwpzbCwfzxCwbzBfCwbzRhCwBnzfCwfzcnuzEiCgeBtbzdBtcaeBtbzbBteabBtbzbBtbzdBtbabBtb",
  "auBtbaClBtoBaqBtFdBecCgGnBebaBmfcaByfcadfbaCdCdiaBbCdeagCdlafebzgebzoebzdebzBgebzkelCgBaebCgEeeb",
  "zBieoFobaCiFocadFoBweByFzoaChEbcadEbBuFbcapFbbaBcDhcabDhbalFofaBfebacefaCxebzBdeDdBgeCgpBgczBaBg",
  "elbailcaclcawlbahlbabldaelcajlcaclcaeliableaclbaflcazlcadBwbagBweacBwcawBwbahBwbacBwbacBwbacBwca",
  "bBwbafBweacBwcadBwdabBwhaeBwbabBwharBwkadBubajBubadBubawBubahBubacBubafBucakBubadBubadBucabBupae",
  "BucamBuhahBubadEqbaiEqcacEqcawEqbahEqbacEqbafEqcajEqcacEqcadEqhadEqeacEqbafEqcasEqkacFvbagFvdadF",
  "vbaeFvdacFvbabFvbacFvdacFvdadFvdamFveafFvdadFvbaeFvcabFvgabFvoavFvfanFybadFybaxFybaqFycajFybadFy",
  "baeFyhacFybadFycabFycaeFycakFyhajFynClbadClbaxClbakClbafClcajClbadClbaeClhacClgacClbaeClcakClbad",
  "ClmanDgbadDgbaBzDgbadDgbagDgeaqDgcaBaDgbadFhbasFhdayFhbajFhbabFhcahFhdabFheagFhbabFhbaiFhgakFhca",
  "dFhmaCgGaeabzBcGaBlacCvbabCvbafCvbayCvbabCvbaxCvcafCvbabCvbahCvbakCvcaeCvBgaCuGbbaBkGbeaBnGbbaBk",
  "GbbapGbbahGbezcGbBlaGeDvBmBpbabBpfabBpcaBrBpbzeBpJwBzCvBnbaeBncahBnbabBnbaeBncaBpBnbaeBncaBhBnba",
  "eBncahBnbabBnbaeBncapBnbaCfBnbaeBncaCpBncaBgBndaBaBngaDixcagxcaYqsBdEedaCxFadzlFahawFpjabFpvCbcz",
  "jaurmanFqbadFqbacFqmaDqCrcakCrgakCrgacDsczbDsbzuDsgaDlDshaBrDsfaCsskaBfCybamCyeamCyeabCydamCyBeF",
  "rcafFrlaBsDzeaBaDzgalDzdacDzBgCrBcqcacqClFsbaBdFscalFsgakFsgaoFscaBfCgBxaCzhbaByhCmFlCakiaekCeCx",
  "dapCxdadCxBwEflBefaBrBpcadBpiFliadCgbznCgbzhCgezbCggzbCgdzcCgbzfaBmCwfBtbBeBxCwfBteCwfBtnCwbBeCs",
  "CwbBtCmCgJwCwwBtcagBtcaBmBtcagBtcaiBtbabBtbabBtbabBtbaBfBtcaCbBtbapBtbaoBtcagBtbatBtcadBtbajBtba",
  "mzcCgDjzbalzbCwcalzbCwpzbanCwdaBhzpaBhCgpaBmzbBtdzcCwgzbCwBbzbCwrzBpCwdzeaZqzwalzvaBJszJwpYezcaB",
  "gzbaEbzDsBqBgCwEmBafahBaBmBpbabBpfabBpcaCeGchacGcoabGcxBnjahBnbahBnbahBnbahBnbahBnbahBnbahBnbahB",
  "nbaBgBeDqzBiaBaBybaDlBymaIgByBaavzbBybzbByzzjByeCgcBzizeByezbaDiCecacCgczdCebzDmCmczdCmfaBrnbaDq",
  "BzbaqzBgnBmzjabzqCmBfBzbaCmzBfBzDdzBvCmbzDkCmGmzJToByCmzBFBkByBSvGndaCdGnjaBwDbLoGiuaDsBeDkiiaBi",
  "zDyCwdzCpCwcacCwbabCwbaiCwvaoCwBtFndakzgaCeEwiaCsFciamFcgaBgBgBuCobzbCoBkEzlabEzBdBzdaDaCjbabzkC",
  "jeacCjBfDvbaCdwjaowcakwcaewBgDvCpFtyafFtxDmkagBncagBncagBnjahBnbahBnbaBrCwbzjCwbBteCwczeaDcxBuDm",
  "cakDmgaQNsBzmaxBzeaBxBzMNcaOcBycaEcByBmahCwmafffaBaCdbafCdbabCdbacCdbacCdbakCdEleqaNzeczDcecaCce",
  "habeBgaqeqCgkzgaoCgcBeBjzbatzbaezeafebaFfecabzbaBgzBaCwgzBaCwlzkCmbzBtCmczBfBzdagBzcagBzcagBzcad",
  "BzdahzbahzkafzcamDabaBaDabatDabacDabapDacaoDaBiaEtDafadzeaBtzdajzDbBtbanzdabBtBvaBtzbCgFaaBdDcda",
  "BxtpabCgBbzeaBkEijadEiBbBrfaBrEkfaBeGhbabGhBkEleaoElBqaDcBfBwFeBeEscakEsgaBkEreaBkEreaBoBliaCaul",
  "abulGjbapGjbahGjbacGjbalGjbapGjbahGjbacGjdaCaGemaLzCzjawCzkaiCzyagCwbaBqCwbajCwCragBccabBcbaBsBc",
  "bacBcdabBccabBcwCfbajCfBgEuBfDwiajDwBwatCcbacCcfafCcBcExdabExBaDdfabDdCmaBgDpyDoeauDocaBuDoeCpba",
  "cCpfaiCpbadCpbaBdCpcadCpeakCphajCphaBgEnBgEjBgaBnDieamDijaCcgdahgwCicaiCitChfaiChsEyhaeEymahEyDc",
  "aCvEoCdaBzEhnaBzEhhagEhBoCaiakCagaBmBodaBdBoiacBoIaaBfebaBqGmbadGmcacGmqadeCdaeeBoEmiaBqFiwaBaEp",
  "BmaBcyuaxBmjaDaoeaBkojaboCpCkkabCkcazFjhakFjgaCbvbasviaBnDejaDsFdbauFhlasCsbaBvCsCkahDubabDubaeD",
  "ubapDubalDugaChCtfakCtgaeBsbaiBscacBscawBsbahBsbacBsbafBsbabCgjBscacBscadBscabBsgabBsfahBscahBsd",
  "afBslakGgbabGgcabGgbaBmGgbakGgbabGgcabGgbaeGgbakGgbacGgiacGgBdaDoEabafEaBeaCuGdiakGdGkaCcFfcaBmF",
  "fBiaCrDrlakDrganDstaCgFugakFugauDvBcaBbccapceaxcHdaCiBiDwaDfGlmabGlhBhcabBhcaiBhbacBhbaBeBhbacBh",
  "camBhjakBhCsaiDycaBuDycalDyBbaCuGoiaDfFknaqsCfEvhakBgHaaBiFmoakFmgajmbaBtmbaomkaBdmdaBgDjcawDjba",
  "oDjCvahDkbacDkbaBsDkdabDkbacDkbajDkiakDkgagBvbacBvbaBlBvbacBvbagBvhakBvLyazDfharCnbaBpCndaBdCnDh",
  "abDbpaByFvnabFvBJmBbDyaEhBbbafBblaHoBbDXkaDvBdnaBQsBkkaFXrBkfaWldKDdaCgBxCOsaVxihaBfDtbakDteacDt",
  "DbFwbakFwgaBejcagjkaCsEtkakEtbahEtbavEtfatEtQqaCgCuHqaDnDlDxaCxDqeaCfDqharDqCmabFxbEccBybCqlacBy",
  "oaJCaFxiaBDoFxScCqBpabCqjFxNFraeCmbahCmbacCmbabCmLbCedCmpabCeBdadCecabCmoaeCmiaPgEcDKuaEdBjfanBj",
  "dajBjhakBjcaeBjezFVgaJqzgaQuzCyaBuCgcaxCgjaEmzCiaJmzkaBnzcaCkzdCgrziCgczhCgBezeCgCjzvaCsBtEsauzm",
  "auzmaDjzjazzFfaDhzbaCtzbaczcabzcaczcaezbamzbabzbahzbaCnzbaezcaizbahzbaBczbaezbafzbabzdahzbaNczca",
  "LgzcaByzZcFgpafFgbapFgBQmaBfCwgagCwIfahBqbarBqcahBqbacBqbafBqfaCkBeBhabBeEiaBtEddaoEdcakEdeacEdM",
  "iaBfGfraCgGkfabGkRwaBqDxIgaBrEgeabEgSmahBnbaeBnbacBnbapBnbaHpDncaqDnBpaCybeakbeacbBEfaCqzCyaCjzH",
  "maeebaBbebacebabecabebakebaeebabebabegabeeabebabebabebadebacebabecabebabebabebabebabebacebabecae",
  "ebahebaeebaeebabebakebarefadebafebareCaaceKkaBszeaDwzmapzcapzbapzbaBlzkaGszCeaBazbCecznaBszeajzh",
  "aczoagzFyaBLwzearzdanzdaEpzeaDrzgamzeabzpamzeaCeziakzgaBoziaBezcamzeaczCkaNczmaozcanzdakzfaCezha",
  "pzcalzgajzhaFrzbaDyzBNqaCLFcByBgaGDuBygaIoBycaINqByoaLBlBypaXyByDQwaUwByCFyaHHzByfaGFgByBOMXlabz",
  "BeaDszEyaJgCgLECua"]

/-- The code points whose script extensions are not their script alone, in compact form. -/
def scriptExtensionTable : List String := [
  "HbaqgtBaBjBlBpBqBrBtBvByCwDdDeEkFeTwahlBeBgCwDbGaGfkacnCwbccnCwbacCwDbjacCwGabacnCwBmaixBaBeBtCw",
  "EkFmFraaixBeBtCwErFmFrGeaaexBeCwGcaafBqCwFmFoGaaaluxBaBeBrBtCwErFoGcGeaagBaBlBqBrCmCwaafBeBtCwEk",
  "GcaajBaBjCdCwEkFoFrGcGeaalfBeBjBrBtCdCwEkFoFrGcaacCwGcaadBjCwFoaaexBeCwEraadxCwFraacCwFmaacBnCwb",
  "acCwFmaadBeCwGebaeBtCwEkGepagxBjCmCwFoGcaaexBjCwFoaacCwFohadCwFmFoaacCwFobadxCwFoaahuxBrCwFmFoGa",
  "qabBtcabBtsacCwErfaduCwGeembCwebcBaBtKjacBeEkaacBeBqabcBeCwaacBeBqJxadfBpBqFaaheBoCaEbFoFzGmoahe",
  "BoCaEbFoFzGmaadeFoFzcaibeBoCaEbFoFzGmBgajbeCaDhDiEpEyFiFokkceFokjdeFzGmgaceFoDvaceCaYmaplBgBsBuB",
  "wClCwDgDyEaEqFdFvFyGdaanlBgBsBuBwClCwDgEaEqFvFyGdravlBgBiBsBuBvBwClCtDeDgDkDyEgEqFhFnFuFvFyGdaax",
  "lBgBiBsBuBvBwBxClCtCyDeDgDkDyEgEqFhFnFuFvFyGdajeBgBiCkDeEojdlvFnEojcBwDuEojcBuCsJmncBsFvJijdClDy",
  "GgBGqjdvDvFrGvadBpBqCwCGlcbFaCtberCbFpFqHvbcDsEwbacDsEwBVeaelBgBsClaabBgaaelBgBsClaadBgBsClaabBg",
  "aaflBgEaFyGdaadlBgFyaadBgEaFdaaelBgEaFyaacBgFdaagBgClDgEqFvFyaabBgabcBgFdabbBgaacBgFdaaclBgaadBg",
  "EaGdafbBgaadBgDyEaaadlBgFdaacBgEaaabBgaaelBgEaFdadbBgaallBgBsClDgDyEqFhFyGdGgaacBgBsaaeBgBsClGga",
  "bclBgaablabcBgBsaabDyHpbbBtCcadBeCwFobabFoVsadCwDsEwBfacbekagtBpBqDcEhEocaetBtDpEhFqadBgBsCwEZma",
  "cBaCwyacgEoaahgtBpCkDdEhFbkabBjeadbeEhbacBeBqQmpcByFxbahnByBzCeCmDsGnaainByBzCeCmDsEwGnaafnByBzC",
  "eCmcabBybbinByBzCeCmDsGbGnabjnByBzCeCmDbDsGbGnafgnByBzCeCmGnbafnByBzCeCmahgnByBzCeCmGnadfnByBzCe",
  "CmkdcnBycafnByBzCeCmaecCeCmbafnByBzCeCmebdByCeCmabbByDldcCeCmdacCeCmDmagnByBzCeCmGnaacCeCmFrpbBy",
  "BgBlbByjacByFxBwBnbByCeBwbByplbByBzabByDkybBykebByDsBebByBRIuacBeBqFohcByCwLkcqBgBiBuBwCkClCsCtD",
  "eDgDrDyFdFuGdGgacpBgBiBuBwCkClCsCtDeDrDyFdFuGdGgablBgBiBuBwCkCsCtDeDrFuGdaamBgBiBuBwCkCsCtDeDrFd",
  "FuGdaalBgBiBuBwCkCsCtDeDrFuGdHbadlBgGgbacBgFvCgadCoCwDvGeacqCjBFPmbceEbGwaceFzkaceFzCtbfnByBzCeC",
  "mKwegnByBzCeCmGnkacCeCmBtbcCeCmNobdBcBdDaaacBcDaeBsdBcCzDadicBcDaQaBbceBaDAkacDiEpDBiacBsFvbacBs",
  "FvCdbcBsFvETvbcBsFvbacBsFvCHJwdbBjIPwrbByLRybbBy"]

def scriptIndex? (name : String) : Option Nat := scriptNames.idxOf? name

def scriptRanges (name : String) : Ranges :=
  match scriptIndex? name with
  | some i => runsWhere (runsOf (String.join scriptTable)) (· == i)
  | none => []

/-- The entries of the extension table: first and last code point and the scripts of each. -/
def extensionEntries (ns : List Nat) (next : Nat) (fuel : Nat) : List (Nat × Nat × List Nat) :=
  match fuel, ns with
  | fuel + 1, gap :: length :: count :: rest =>
    let first := next + gap
    (first, first + length, rest.take count) ::
      extensionEntries (rest.drop count) (first + length + 1) fuel
  | _, _ => []

def scriptExtensionRanges (name : String) : Ranges :=
  match scriptIndex? name with
  | none => []
  | some i =>
    let ns := (numbers (String.join scriptExtensionTable)).toList
    let entries := extensionEntries ns 0 ns.length
    let listed := entries.map fun e => (e.1, e.2.1)
    let holding := entries.filterMap fun e => if e.2.2.contains i then some (e.1, e.2.1) else none
    Ranges.union (Ranges.diff (scriptRanges name) listed) holding

end OpenApiGen.Unicode
