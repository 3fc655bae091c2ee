import PagedFind.Unicode.CharSet

namespace PagedFind.Unicode

def script : Table := [
  (["adlm", "adlam"], ["go6DrCEJEB"]),
  (["aghb", "caucasianalbanian"], ["wphCzBLA"]),
  (["ahom"], ["g4lCaCOEW"]),
  (["arab", "arabic"],
    ["gwBEBFBNBCBfBJLZBrDBhBwCvBwHeBBFqCBcwy8ByDQqLCvCC1BHAgBPwDEBmEj7DejCC3BDg43BDBaBBBACABJBD",
     "BABAGAEABABABCBBBACABABABABABBBACDBGBDBDBABJBQFCBEBQ0BB"]),
  (["armi", "imperialaramaic"], ["giiCVBI"]),
  (["armn", "armenian"], ["xpBlBCxBCCjs9BE"]),
  (["avst", "avestan"], ["g4iC1BDG"]),
  (["bali", "balinese"], ["g4GsCBxB"]),
  (["bamu", "bamum"], ["g1pB3CoowB4R"]),
  (["bass", "bassavah"], ["w26CdCF"]),
  (["batk", "batak"], ["g-GzBID"]),
  (["beng", "bengali"], ["gsCDBHCBCVBGBADDCICBCDIAEBBECY"]),
  (["bhks", "bhaiksuki"], ["ggnCIBsBBNKc"]),
  (["bopo", "bopomofo"], ["qXB5wLqBwDf"]),
  (["brah", "brahmi"], ["ggkCtCEjBJA"]),
  (["brai", "braille"], ["ggK_H"]),
  (["bugi", "buginese"], ["gwGbCB"]),
  (["buhd", "buhid"], ["g6FT"]),
  (["cakm", "chakma"], ["gokC0BBR"]),
  (["cans", "canadianaboriginal"], ["ggF_TwRlC6tgCP"]),
  (["cari", "carian"], ["g1gCwB"]),
  (["cham"], ["gwqB2BJNCJCD"]),
  (["cher", "cherokee"], ["g9E1CCFy7lBvC"]),
  (["chrs", "chorasmian"], ["w9jCb"]),
  (["copt", "coptic", "qaac"], ["ifNwkKzDFG"]),
  (["cpmn", "cyprominoan"], ["w8rCiD"]),
  (["cprt", "cypriot"], ["ggiCFCABrBBBDACA"]),
  (["cyrl", "cyrillic"], ["ggBkECoFw6FKgFAsCAnjEfgie_Cu8VBgw4B9BhBA"]),
  (["deva", "devanagari"], ["goCwCEOCZg7nBfgwcJ"]),
  (["diak", "divesakuru"], ["gomCGCACHBBBdBBCLJJ"]),
  (["dogr", "dogra"], ["ggmC7B"]),
  (["dsrt", "deseret"], ["gghCvC"]),
  (["dupl", "duployan"], ["ggvDqDFMDIHJCD"]),
  (["egyp", "egyptianhieroglyphs"], ["ggsC1iBK68D"]),
  (["elba", "elbasan"], ["gohCnB"]),
  (["elym", "elymaic"], ["g_jCW"]),
  (["ethi", "ethiopic"],
    ["gwEoCBDCGBABDCoBBDCgBBDCGBABDCOB4BBDCiCCfDZmvGWJGBGBGBGBGBGBGBGipfFCFCFJGBGxlvCGBDBBBO"]),
  (["geor", "georgian"], ["glElBBAFACqBBDw8CqBCCgiElBBAFA"]),
  (["glag", "glagolitic"], ["ggL_Cg9sDGBQCGBBBE"]),
  (["gong", "gunjalagondi"], ["grnCFBBBkBBBBFHJ"]),
  (["gonm", "masaramgondi"], ["gonCGBBBrBDABBBIIJ"]),
  (["goth", "gothic"], ["w5gCa"]),
  (["gran", "grantha"], ["g4kCDBHCBCVBGBBBECICBCCCAGAFGCGDE"]),
  (["grek", "greek"],
    ["wbDBCCDBAEABABCBABTB-BOPmpGEyBEEE0CAgKVCFClBCFCHBABABABeC0BBOBNCFBSCCBInJA-xiBA6uVuCRA_i0",
     "BlC"]),
  (["gujr", "gujarati"], ["h0CCBIBCBVBGBBBECJBCBCCAPDCLHG"]),
  (["guru", "gurmukhi"], ["hwCCBFEBCVBGBBBBBBCABEEBCCDAHDBAHQ"]),
  (["hang", "hangul"], ["goE_HuxHBhI9CxDehCeh3dcjUj9KMWEwBk9JeDFCFCFCC"]),
  (["hani", "han"],
    ["g0LZB4CM1GvBABAZIODke_tGgC_vUgoWtLCpDoodBMBugkB_2pBgB5hEG9GCh0FOwpHPtTitC9QivBq6EF_iE"]),
  (["hano", "hanunoo"], ["g5FU"]),
  (["hatr", "hatran"], ["gniCSBBFE"]),
  (["hebr", "hebrew"], ["xsB2BIaEFop9BZBEBABBBBBJ"]),
  (["hira", "hiragana"], ["hiM1CGCh7_C-ISAdCtlQA"]),
  (["hluw", "anatolianhieroglyphs"], ["ggxCmS"]),
  (["hmng", "pahawhhmong"], ["g46ClCKJBGBUFS"]),
  (["hmnp", "nyiakengpuachuehmong"], ["go4DsBDNCJEB"]),
  (["hung", "oldhungarian"], ["gkjCyBNyBHF"]),
  (["ital", "olditalic"], ["g4gCjBJC"]),
  (["java", "javanese"], ["gsqBtCCJEB"]),
  (["kali", "kayahli"], ["goqBtBBA"]),
  (["kana", "katakana"], ["hlM5CCCwHPwGuBB3CugzBJBsByisBDBGBBBA_ICyBAOD"]),
  (["kawi"], ["g4nCQBoBDc"]),
  (["khar", "kharoshthi"], ["gwiCDBBFHBCBcCCEJHI"]),
  (["khmr", "khmer"], ["g8F9CCJGJmPf"]),
  (["khoj", "khojki"], ["gwkCRBuB"]),
  (["kits", "khitansmallscript"], ["k_7CA74G1OpBA"]),
  (["knda", "kannada"], ["gkDMBCBWBJBECIBCBDHBGBBDCJBC"]),
  (["kthi", "kaithi"], ["gkkCiCKA"]),
  (["lana", "taitham"], ["gxG-BBcCKGJGN"]),
  (["laoo", "lao"], ["h0DBBABEBXBABWCEBABGBJCD"]),
  (["latn", "latin"],
    ["hCZGZvBAPAFWBeBgOnBE7wGlBGwBFDFMBlChC_HxLANAQMtEBGAbARoB32Cfi1elDDiCCBBABHVNwZqBBIBD28TG6",
     "gBZGZlhCFBpBBIl61BeGF"]),
  (["lepc", "lepcha"], ["ggH3BDODC"]),
  (["limb", "limbu"], ["goGeBLELEADL"]),
  (["lina", "lineara"], ["gwhC2JJVKH"]),
  (["linb", "linearb"], ["gggCLBZBSBBBOCNiB6D"]),
  (["lisu"], ["wmpBvBw1eA"]),
  (["lyci", "lycian"], ["g0gCc"]),
  (["lydi", "lydian"], ["gpiCZFA"]),
  (["mahj", "mahajani"], ["wqkCmB"]),
  (["maka", "makasar"], ["g3nCY"]),
  (["mand", "mandaic"], ["giCbCA"]),
  (["mani", "manichaean"], ["g2iCmBEL"]),
  (["marc", "marchen"], ["wjnCfCVBN"]),
  (["medf", "medefaidrin"], ["gy7C6C"]),
  (["mend", "mendekikakui"], ["gg6DkGCP"]),
  (["merc", "meroiticcursive"], ["gtiCXETCtB"]),
  (["mero", "meroitichieroglyphs"], ["gsiCf"]),
  (["mlym", "malayalam"], ["goDMBCByBBCBFEPCZ"]),
  (["modi"], ["gwlCkCLJ"]),
  (["mong", "mongolian"], ["ggGBCABTG4CHqB1t_BM"]),
  (["mroo", "mro"], ["gy6CeBJEB"]),
  (["mtei", "meeteimayek"], ["g3qBWpGtBCJ"]),
  (["mult", "multani"], ["g0kCGBABDBOBK"]),
  (["mymr", "myanmar"], ["ggE_EgqmBehDfwibT"]),
  (["nagm", "nagmundari"], ["wm5DpB"]),
  (["nand", "nandinagari"], ["gtmCHCtBCK"]),
  (["narb", "oldnortharabian"], ["g0iCf"]),
  (["nbat", "nabataean"], ["gkiCeII"]),
  (["newa"], ["gglC7CBE"]),
  (["nkoo", "nko"], ["g-B6BCC"]),
  (["nshu", "nushu"], ["h_7CAusQrM"]),
  (["ogam", "ogham"], ["g0Fc"]),
  (["olck", "olchiki"], ["wiHvB"]),
  (["orkh", "oldturkic"], ["ggjCoC"]),
  (["orya", "oriya"], ["h4CCBHCBCVBGBBBECICBCCHCEBBECR"]),
  (["osge", "osage"], ["wlhCjBEjB"]),
  (["osma", "osmanya"], ["gkhCdCJ"]),
  (["ougr", "olduyghur"], ["w7jCZ"]),
  (["palm", "palmyrene"], ["gjiCf"]),
  (["pauc", "paucinhau"], ["g2mC4B"]),
  (["perm", "oldpermic"], ["w6gCqB"]),
  (["phag", "phagspa"], ["giqB3B"]),
  (["phli", "inscriptionalpahlavi"], ["g7iCSFH"]),
  (["phlp", "psalterpahlavi"], ["g8iCRHDMG"]),
  (["phnx", "phoenician"], ["goiCbDA"]),
  (["plrd", "miao"], ["g47CqCE4BHQ"]),
  (["prti", "inscriptionalparthian"], ["g6iCVCH"]),
  (["rjng", "rejang"], ["wpqBjBLA"]),
  (["rohg", "hanifirohingya"], ["gojCnBIJ"]),
  (["runr", "runic"], ["g1FqCDK"]),
  (["samr", "samaritan"], ["ggCtBCO"]),
  (["sarb", "oldsoutharabian"], ["gziCf"]),
  (["saur", "saurashtra"], ["gkqBlCIL"]),
  (["sgnw", "signwriting"], ["gg2DrUPEBO"]),
  (["shaw", "shavian"], ["wihCvB"]),
  (["shrd", "sharada"], ["gskC_C"]),
  (["sidd", "siddham"], ["gslC1BClB"]),
  (["sind", "khudawadi"], ["w1kC6BFJ"]),
  (["sinh", "sinhala"], ["hsDCBRDXBIBACGDAEFBABHGJCCs_gCT"]),
  (["sogd", "sogdian"], ["w5jCpB"]),
  (["sogo", "oldsogdian"], ["g4jCnB"]),
  (["sora", "sorasompeng"], ["wmkCYHJ"]),
  (["soyo", "soyombo"], ["wymCyC"]),
  (["sund", "sundanese"], ["g8G_BgIH"]),
  (["sylo", "sylotinagri"], ["ggqBsB"]),
  (["syrc", "syriac"], ["g4BNB7BCCwIK"]),
  (["tagb", "tagbanwa"], ["g7FMBCBB"]),
  (["takr", "takri"], ["g0lC5BGJ"]),
  (["tale", "taile"], ["wqGdCE"]),
  (["talu", "newtailue"], ["gsGrBEZGKDB"]),
  (["taml", "tamil"], ["i8CBBFDCBDDBBABBDBDCDLEEDCBDCAGAOUl-kCxBNA"]),
  (["tang", "tangut"], ["g_7CAf3_FI_XgQI"]),
  (["tavt", "taiviet"], ["g0qBiCYE"]),
  (["telu", "telugu"], ["ggDMBCBWBPCIBCBDHBBCCACDCJHI"]),
  (["tfng", "tifinagh"], ["wpL3BHBOA"]),
  (["tglg", "tagalog"], ["g4FVJA"]),
  (["thaa", "thaana"], ["g8BxB"]),
  (["thai"], ["hwD5BFb"]),
  (["tibt", "tibetan"], ["g4DnCBjBEmBBjBBOBGEB"]),
  (["tirh", "tirhuta"], ["gklCnCIJ"]),
  (["tnsa", "tangsa"], ["wz6CuCBJ"]),
  (["toto"], ["w04De"]),
  (["ugar", "ugaritic"], ["g8gCdBA"]),
  (["vaii", "vai"], ["gopBrJ"]),
  (["vith", "vithkuqi"], ["wrhCKBOBGBBBKBOBGBB"]),
  (["wara", "warangciti"], ["glmCyCMA"]),
  (["wcho", "wancho"], ["g24D5BFA"]),
  (["xpeo", "oldpersian"], ["g9gCjBEN"]),
  (["xsux", "cuneiform"], ["ggoC5cmDuDBELjG"]),
  (["yezi", "yezidi"], ["g0jCpBBCCB"]),
  (["yiii", "yi"], ["ggoBskBD2B"]),
  (["zanb", "zanabazarsquare"], ["gwmCnC"]),
  (["zinh", "inherited", "qaai"],
    ["gYvD1IBkOKaAgXD7qEehQCBMBGEAGADBmG_BsQBiGgB55DDrDBlrzBPQNveAiHA6iEAk-uBtBCWgRCRHCGeDy6rYv",
     "H"]),
  (["zyyy", "common"],
    ["AgCaFauBBOBEXAfAhOmBFECT0DAJAGABA9TAGAOADAgBA8EAkQAhEB5mBA1MDiJAvvBCnCBrGBBAtmBANAHDBFBCC",
     "AlYLC2CBKDKBORgB_BlBBCCFBaBQpBCE5UWKV_cgIzTCfBoDgQ9CyMUBABYPHED7CBDA6CBzEPgBlBJAwB_BfwCvB",
     "A4CnFguG_BgoWhBmDClFJ0HAgFArMAOByuUBwGJWiBBSBDzEABfaFaKKAtBBgCGBGKEiICEsBDIwCMzBsBkHaktuB",
     "D86D5HGzN8EzD8B1HKmBC9BDQIBHdE8B1GTMTM2CJYnE0CBmCBBCACBCDBLBABGBgCBDCHBGBbBDBEBADGBzKCjJC",
     "xBxjFjCsC8BiWrBEjDMOCOBOBkBKtF4BZBBNrBEIHBOF6E3eEQDMD2DE-CGLEAPLE3BIJGnBIdCLEB-BzKMNCMDJF",
     "3BHOCKGIHyEBlDnghYAe_C"]),
  (["gara", "garay"], ["gqjClBDcIB"]),
  (["todr", "todhri"], ["guhCzB"]),
  (["sunu", "sunuwar"], ["g-mChBOJ"]),
  (["gukh", "gurungkhema"], ["go4C5B"]),
  (["krai", "kiratrai"], ["gq7C5B"]),
  (["tutg", "tulutigalari"], ["g8kCJBACABlBBJBACABDBJBBIB"]),
  (["onao", "olonal"], ["wu5DqBEA"])]

/-- The characters that a script uses. -/
def scriptExtension : Table := [
  (["adlm", "adlam"], ["_wBAgBA_14DrCEJEB"]),
  (["aghb", "caucasianalbanian"], ["wphCzBLA"]),
  (["ahom"], ["g4lCaCOEW"]),
  (["arab", "arabic"],
    ["gwBEB2GBhBwCvBwHeBBFqCBcwy8ByDQ8NC1BHAgBPwDEBmEjfbk7CejCC3BDg43BDBaBBBACABJBDBABAGAEABABA",
     "BCBBBACABABABABABBBACDBGBDBDBABJBQFCBEBQ0BB"]),
  (["armi", "imperialaramaic"], ["giiCVBI"]),
  (["armn", "armenian"], ["xpBlBCxBCCjs9BE"]),
  (["avst", "avestan"], ["g4iC1BDG"]),
  (["bali", "balinese"], ["g4GsCBxB"]),
  (["bamu", "bamum"], ["g1pB3CoowB4R"]),
  (["bass", "bassavah"], ["w26CdCF"]),
  (["batk", "batak"], ["g-GzBID"]),
  (["beng", "bengali"], ["xqCBRBaDBHCBCVBGBADDCICBCDIAEBBECYx2EABACBBAIAIACAEACC5_iBA"]),
  (["bhks", "bhaiksuki"], ["ggnCIBsBBNKc"]),
  (["bopo", "bopomofo"], ["qXB1oLCEJBMKDCAGAjGAJqBwDflkzBB6IE"]),
  (["brah", "brahmi"], ["ggkCtCEjBJA"]),
  (["brai", "braille"], ["ggK_H"]),
  (["bugi", "buginese"], ["gwGbCBv9jBA"]),
  (["buhd", "buhid"], ["15FBJT"]),
  (["cakm", "chakma"], ["mvCJwyBJ2lgC0BBR"]),
  (["cans", "canadianaboriginal"], ["ggF_TwRlC6tgCP"]),
  (["cari", "carian"], ["g1gCwB"]),
  (["cham"], ["gwqB2BJNCJCD"]),
  (["cher", "cherokee"], ["g9E1CCFy7lBvC"]),
  (["chrs", "chorasmian"], ["w9jCb"]),
  (["copt", "coptic", "qaac"], ["ifNwkKzDFGgv1Bb"]),
  (["cpmn", "cyprominoan"], ["gogCBu0LiD"]),
  (["cprt", "cypriot"], ["gogCCEsBDIg2BFCABrBBBDACA"]),
  (["cyrl", "cyrillic"], ["ggBvJw6FKgFAsCA_DAn_DfjCA8_d_Cu8VBgw4B9BhBA"]),
  (["deva", "devanagari"], ["goCyCCqBw6EmBBB2fA_5hBJmFfgwcJ"]),
  (["diak", "divesakuru"], ["gomCGCACHBBBdBBCLJJ"]),
  (["dogr", "dogra"], ["krCLg2nBJm-b7B"]),
  (["dsrt", "deseret"], ["gghCvC"]),
  (["dupl", "duployan"], ["ggvDqDFMDIHJCH"]),
  (["egyp", "egyptianhieroglyphs"], ["ggsC1iBK68D"]),
  (["elba", "elbasan"], ["gohCnB"]),
  (["elym", "elymaic"], ["g_jCW"]),
  (["ethi", "ethiopic"],
    ["gwEoCBDCGBABDCoBBDCgBBDCGBABDCOB4BBDCiCCfDZmvGWJGBGBGBGBGBGBGBGipfFCFCFJGBGxlvCGBDBBBO"]),
  (["geor", "georgian"], ["glElBBAFACvBw8CqBCCgiElBBAFA"]),
  (["glag", "glagolitic"], ["kkBACA47J_CjPArheAwsuCGBQCGBBBE"]),
  (["gong", "gunjalagondi"], ["krCB6_kCFBBBkBBBBFHJ"]),
  (["gonm", "masaramgondi"], ["krCB68kCGBBBrBDABBBIIJ"]),
  (["goth", "gothic"], ["w5gCa"]),
  (["gran", "grantha"], ["xqCBRBgUN8mEABBeCDB2fAvw8BDBHCBCVBGBBBEBJCBCCCAGAFGCGDE7iDBBA"]),
  (["grek", "greek"],
    ["iaACAqBDBCCDBAEABABCBABTB-BOPmpGEyBEEE0CC-JVCFClBCFCHBABABABeC0BBOBNCFBSCCBInJA-xiBA6uVuC",
     "RA_i0BlC"]),
  (["gujr", "gujarati"], ["xqCBRB7ICBIBCBVBGBBBECJBCBCCAPDCLHGwpnBJ"]),
  (["guru", "gurmukhi"], ["xqCBRB7ECBFEBCVBGBBBBBBCABEEBCCDAHDBAHQ5tnBJ"]),
  (["hang", "hangul"], ["goE_HhwHCEJBMOCGAjGA1B9CxDehCeh3dcjUj9KMWEwBpyJB6IE6BeDFCFCFCC"]),
  (["hani", "han"],
    ["g0LZB4CM1GmBDBCBMBMBMCAGI7FA0EPgBlBJAwBnB4BwBPLzBA4CYKEgDeB_tGgC_vUg4BH4vUtLCpDrbB6IE8jcB",
     "MBu7YR-2HButD_2pBgB5hEG9GCh0FOwpHPtTitC9QivBq6EF_iE"]),
  (["hano", "hanunoo"], ["g5FW"]),
  (["hatr", "hatran"], ["gniCSBBFE"]),
  (["hebr", "hebrew"], ["xsB2BIaEFop9BZBEBABBBBBJ"]),
  (["hira", "hiragana"], ["hgMCEJBMQFBAEBD1CCH6CBoqzBB6IEKAtBBhjsB-ISAdCtlQA"]),
  (["hluw", "anatolianhieroglyphs"], ["ggxCmS"]),
  (["hmng", "pahawhhmong"], ["g46ClCKJBGBUFS"]),
  (["hmnp", "nyiakengpuachuehmong"], ["go4DsBDNCJEB"]),
  (["hung", "oldhungarian"], ["gkjCyBNyBHF"]),
  (["ital", "olditalic"], ["g4gCjBJC"]),
  (["java", "javanese"], ["gsqBtCBKEB"]),
  (["kali", "kayahli"], ["goqBvB"]),
  (["kana", "katakana"], ["hgMCEJBMQFBAEB7CDD_CwHPwGuBB3Ct3yBB6I-BwisBDBGBBBA_ICyBAOD"]),
  (["kawi"], ["g4nCQBoBDc"]),
  (["khar", "kharoshthi"], ["gwiCDBBFHBCBcCCEJHI"]),
  (["khmr", "khmer"], ["g8F9CCJGJmPf"]),
  (["khoj", "khojki"], ["m3CJgqnBJmuaRBuB"]),
  (["kits", "khitansmallscript"], ["k_7CA74G1OpBA"]),
  (["knda", "kannada"], ["xqCBRB6YMBCBWBJBECIBCBDHBGBBDCJBC8-DABAHAXABA75iBF"]),
  (["kthi", "kaithi"], ["mrCJg2nBJmiaiCKA"]),
  (["lana", "taitham"], ["gxG-BBcCKGJGN"]),
  (["laoo", "lao"], ["h0DBBABEBXBABWCEBABGBJCD"]),
  (["latn", "latin"],
    ["hCZGZvBAPAFWBeBgOnBE-DM1IBqmBBo9BAkgDlBGwBFDFMBlChC_HvJAhCANAQMzCA5BBGAbARoB32Cfg0eHalDDi",
     "CCBBABHVNuJAhQqBBIBD28TG6gBZGZlhCFBpBBIl61BeGF"]),
  (["lepc", "lepcha"], ["ggH3BDODC"]),
  (["limb", "limbu"], ["lrCA68DeBLELEADL"]),
  (["lina", "lineara"], ["nogCsBsmB2JJVKH"]),
  (["linb", "linearb"], ["gggCLBZBSBBBOCNiB6DFCEsBDI"]),
  (["lisu"], ["wmpBvBw1eA"]),
  (["lyci", "lycian"], ["g0gCc"]),
  (["lydi", "lydian"], ["gpiCZFA"]),
  (["mahj", "mahajani"], ["krCLg2nBJ2oamB"]),
  (["maka", "makasar"], ["g3nCY"]),
  (["mand", "mandaic"], ["gyBA_PbCA"]),
  (["mani", "manichaean"], ["gyBA_jhCmBEL"]),
  (["marc", "marchen"], ["wjnCfCVBN"]),
  (["medf", "medefaidrin"], ["gy7C6C"]),
  (["mend", "mendekikakui"], ["gg6DkGCP"]),
  (["merc", "meroiticcursive"], ["gtiCXETCtB"]),
  (["mero", "meroitichieroglyphs"], ["gsiCf"]),
  (["mlym", "malayalam"], ["xqCBRB6cMBCByBBCBFEPCZ66DA16iBC"]),
  (["modi"], ["whqBJmubkCLJ"]),
  (["mong", "mongolian"], ["ggGZG4CHqBk8BAwx9BM"]),
  (["mroo", "mro"], ["gy6CeBJEB"]),
  (["mtei", "meeteimayek"], ["g3qBWpGtBCJ"]),
  (["mult", "multani"], ["mzCJwgiCGBABDBOBK"]),
  (["mymr", "myanmar"], ["ggE_EukmBAxFehDfwibT"]),
  (["nagm", "nagmundari"], ["wm5DpB"]),
  (["nand", "nandinagari"], ["krCBgcJ5_DAIAHA15iBFqrcHCtBCK"]),
  (["narb", "oldnortharabian"], ["g0iCf"]),
  (["nbat", "nabataean"], ["gkiCeII"]),
  (["newa"], ["gglC7CBE"]),
  (["nkoo", "nko"], ["swBAOADAgN6BCC-p9BB"]),
  (["nshu", "nushu"], ["h_7CAusQrM"]),
  (["ogam", "ogham"], ["g0Fc"]),
  (["olck", "olchiki"], ["wiHvB"]),
  (["orkh", "oldturkic"], ["ggjCoC"]),
  (["orya", "oriya"], ["xqCBRB7MCBHCBCVBGBBBECICBCCHCEBBECRirEAXA"]),
  (["osge", "osage"], ["wlhCjBEjB"]),
  (["osma", "osmanya"], ["gkhCdCJ"]),
  (["ougr", "olduyghur"], ["gyBAxlhCA9jBZ"]),
  (["palm", "palmyrene"], ["gjiCf"]),
  (["pauc", "paucinhau"], ["g2mC4B"]),
  (["perm", "oldpermic"], ["jkBAs2_BqB"]),
  (["phag", "phagspa"], ["igGBBA6hkB3B"]),
  (["phli", "inscriptionalpahlavi"], ["g7iCSFH"]),
  (["phlp", "psalterpahlavi"], ["gyBA_phCRHDMG"]),
  (["phnx", "phoenician"], ["goiCbDA"]),
  (["plrd", "miao"], ["g47CqCE4BHQ"]),
  (["prti", "inscriptionalparthian"], ["g6iCVCH"]),
  (["rjng", "rejang"], ["wpqBjBLA"]),
  (["rohg", "hanifirohingya"], ["swBAOADAgBAzEArxhCnBIJ"]),
  (["runr", "runic"], ["g1FqCDK"]),
  (["samr", "samaritan"], ["ggCtBCO"]),
  (["sarb", "oldsoutharabian"], ["gziCf"]),
  (["saur", "saurashtra"], ["gkqBlCIL"]),
  (["sgnw", "signwriting"], ["gg2DrUPEBO"]),
  (["shaw", "shavian"], ["wihCvB"]),
  (["shrd", "sharada"], ["xqCAl8EABACBCA_k9B_C"]),
  (["sidd", "siddham"], ["gslC1BClB"]),
  (["sind", "khudawadi"], ["krCBq2nBJ2za6BFJ"]),
  (["sinh", "sinhala"], ["krCB7gBCBRDXBIBACGDAEFBABHGJCCs_gCT"]),
  (["sogd", "sogdian"], ["gyBAvniCpB"]),
  (["sogo", "oldsogdian"], ["g4jCnB"]),
  (["sora", "sorasompeng"], ["wmkCYHJ"]),
  (["soyo", "soyombo"], ["wymCyC"]),
  (["sund", "sundanese"], ["g8G_BgIH"]),
  (["sylo", "sylotinagri"], ["krCBgEJwwnBsB"]),
  (["syrc", "syriac"], ["swBAOBCAgBAKKaAvENB7BCCwIKtsFABA"]),
  (["tagb", "tagbanwa"], ["15FBpBMBCBB"]),
  (["takr", "takri"], ["krCBq2nBJmyb5BGJ"]),
  (["tale", "taile"], ["giEJmoCdCE"]),
  (["talu", "newtailue"], ["gsGrBEZGKDB"]),
  (["taml", "tamil"], ["xqCBRB8QBBFDCBDDBBABBDBDCDLEEDCBDCAGAOU_mEA4gjBAtwaABA3BBjkDxBNA"]),
  (["tang", "tangut"], ["8_LDvPAwvvCAf3_FI_XgQI"]),
  (["tavt", "taiviet"], ["g0qBiCYE"]),
  (["telu", "telugu"], ["xqCBRB6UMBCBWBPCIBCBDHBBCCACDCJHI6iEAXA"]),
  (["tfng", "tifinagh"], ["wpL3BHBOA"]),
  (["tglg", "tagalog"], ["g4FVJAVB"]),
  (["thaa", "thaana"], ["swBAOBCAgCJ2IxBgy9BAKA"]),
  (["thai"], ["hwD5BFb"]),
  (["tibt", "tibetan"], ["g4DnCBjBEmBBjBBOBGEB"]),
  (["tirh", "tirhuta"], ["xqCBRBs8EA95iBJmibnCIJ"]),
  (["tnsa", "tangsa"], ["wz6CuCBJ"]),
  (["toto"], ["w04De"]),
  (["ugar", "ugaritic"], ["g8gCdBA"]),
  (["vaii", "vai"], ["gopBrJ"]),
  (["vith", "vithkuqi"], ["wrhCKBOBGBBBKBOBGBB"]),
  (["wara", "warangciti"], ["glmCyCMA"]),
  (["wcho", "wancho"], ["g24D5BFA"]),
  (["xpeo", "oldpersian"], ["g9gCjBEN"]),
  (["xsux", "cuneiform"], ["ggoC5cmDuDBELjG"]),
  (["yezi", "yezidi"], ["swBAOADAgCJ2giCpBBCCB"]),
  (["yiii", "yi"], ["hgMBFJCH_GAk4bskBD2B60WE"]),
  (["zanb", "zanabazarsquare"], ["gwmCnC"]),
  (["zinh", "inherited", "qaai"],
    ["gYhCBBBcwvBB7qEezX1BBABEsQBiGfwo3BPQNveAiozBtBCWgRCRHCGeDy6rYvH"]),
  (["zyyy", "common"],
    ["AgCaFauBBOBEXAfAhOmBFECT0DAJAGABA9TA3GAkQA8qBA1MDy4BCyoCLCgBB0BBKDKBORgB_BlBBCCFBaBQpBCE5",
     "UWKV_cgIzTCfBoDgQiCBZyMLEADANANAVAxQXfAxBOMDhFJF_CfAguG_BooWZmDCweAOBk1UJWUCLBSBDzEABfaFa",
     "F_DGBGKEyMMzBsBjwyB5HGzN8EzD8B1HKmBC9BDQIBHdE8B1GTMTM2CbGnE0CBmCBBCACBCDBLBABGBgCBDCHBGBb",
     "BDBEBADGBzKCjJCxBxjFjCsC8BiWrBEjDMOCOBOBkBKtF4BZBBNrBEIXF6E3eEQDMD2DE-CGLEAPLE3BIJGnBIdCL",
     "EB-BzKMNCMDJF3BHOCKGIHyEBlDnghYAe_C"]),
  (["gara", "garay"], ["gqjClBDcIB"]),
  (["todr", "todhri"], ["guhCzB"]),
  (["sunu", "sunuwar"], ["g-mChBOJ"]),
  (["gukh", "gurungkhema"], ["go4C5B"]),
  (["krai", "kiratrai"], ["gq7C5B"]),
  (["tutg", "tulutigalari"], ["g8kCJBACABlBBJBACABDBJBBIB"]),
  (["onao", "olonal"], ["wu5DqBEA"])]

end PagedFind.Unicode
