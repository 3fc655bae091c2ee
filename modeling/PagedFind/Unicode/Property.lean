import PagedFind.Unicode.CharSet

namespace PagedFind.Unicode

def property : Table := [
  (["asciihexdigit", "ahex"], ["wBJHFaF"]),
  (["alphabetic", "alpha"],
    ["hCZGZvBAKAEAFWBeBpOELOEHABA2CAqBEBBCDBAGABCBABTByCBqEIlFBlBCAGoBnBNBABBBBBAIaEDdKF3BBGOlD",
     "BHEHECKCCAQvBNkDYgBJBEAFXCSTYHKFXBFIAIpBKLDGGrCBPBCEONSBHCBCVBGBADDDHCBCBBAIAEBBEMBKAECBF",
     "EBCVBGBBBBBBEEEBCBEAHDBARFLCBIBCBVBGBBBEDIBCBBDAPDVDECBHCBCVBGBBBEDHCBCBJBEBBENAQBBFDCBDD",
     "BBABBDBDCDLEEDCBCDAGAoBMBCBWBPDHBCBCIBBCCACDcDBHBCBWBJBEDHBCBCIBGBBDNCMMBCBoBCHBCBCBAFDHE",
     "WFBCBRDXBIBACGIFBABHSBN5BFGGAzBBBABEBXBABSBCCEBAGAODgBA_BHBjBESEPBjBjC2BBACEQ_BKDClBBAFAC",
     "qBBsKBDCGBABDCoBBDCgBBDCGBABDCOB4BBDCiClBPQ1CCFDrTCQBZFqCDKHTLUMTMMBCBBMzBCSOAEAjC4CHqBFl",
     "CKeBLEIXdCELrBEZ2BbE-BCTyBAXBLCxBzBBOBHzBpBCDKrBBKO2BWCKjBCKFqBCCpBDBFBBDAF_FnBNL1ICFClBC",
     "FCHBABABABeC0BBGBADCBGDDCFEMFCBG0DANAQMlDAEACJBADEGABABABDBKCDFEEARoBtZzB24BkHGDDBMlBBAFA",
     "C3BHAQWJGBGBGBGBGBGBGBGBfvBA1OCZIHECEE1CGCB5CBDFqBB9CRfwBPgQ_tGgCs0VjCtBCsIDPKBUuBFHDwDnB",
     "ICmDCiCCBBABHVTBgBYzBMjCBAsBFDABCKgBFiBNcDyBBLPAQPKEB2BJNSWDkCBABAYCCPCDLFCFCFJGBGBqBBNG6",
     "DVj9KMWEwBkoItLCpDmBGMEFLBMBEBABBBBBrDhBqLS_BC1BoBL0DEBmEkBZGZL4CDFCFCFCCjBLBZBSBBBOCNiB6",
     "DlC0BrIcDwBvBfNdFqBFdCjBEHBEqB9ESjBEjBEnBIzBMKBOBGBBBKBOBGBBDzBM2JJVKHYFBpBBIlCFCABrBBBDA",
     "CWKWJehCSBBKVKZmC3BGBgCDBBFHBCBcqBcDcjBHBbb1BKVKSNRuDoC3ByBNyBNnBiBbDAFW6HpBBBDBQC3BADcKA",
     "IVqBRuBUbWJlCrBEK4BJANYXyBRDIiBDAJ_BBDJBKABAjBRBhBCAGD-BGBABDBOBJH4BXDBHCBCVBGBBBEDHCBCBD",
     "AGAFGcJBACABlBBJBACABDBBDABAsBhCBCBDUCehCCBBA4F1BCGZFiB-BBADA7B1BCAnCaCNVG5F4BnD_BfHCACHB",
     "BBdBBCBCD9CHCtBCFBABBbyBCJRnCFASoCnGgBfIBsBBGBAxBdCVBNpCGBBBrBDABBBCBACBYFBBBkBBBBDBAnKWJ",
     "QBoBDCvDAvC5cmDuDRjGsyCgDPvhBRFZ68DFmS51GuBx2B4RHeRuCRdSvBQDfUFSwNsBzG_BgEqCE4BHQgCBBAMBO",
     "3_FI1mBpBJn3IDBGBBBiJPAdCCAODIrMkoCqDFMDIHJEAh7F0CBmCBBCACBCDBLBABGBgCBDCHBGBbBDBEBADGBzK",
     "CYBYBeBYBeBYBeBYBeBYBH05BeGF1GGBQCGBBBEF9BhBAwDsBKGQAhKdSrBkPbkHdCAvPGBDBBBOBkG7BjCDADA0l",
     "BDBaBBBACABJBDBABAGAEABABABCBBBACABABABABABBBACDBGBDBDBABJBQFCBEBQ0TZGZGZ2zD_2pBgB5hEG9GC",
     "h0FOwpHPtTitC9QivBq6EF_iE"]),
  (["bidicontrol", "bidic"], ["8wBAxvGBaE3BD"]),
  (["bidimirrored", "bidim"],
    ["oBBSABAcABAdABAtBAPA-zDD96BB8sCBKB2BBOBxFAgGDDFDADBDDBDBABAEIFABRFDJBBABHCeCDFAJBCSFBJECB",
     "EXCPIDUBHB9hBNqCACDBBBCFDFCDNzMVCFBNIAHFDAEEBBCEEABCCBKFCBMSBDCABACABDFBGCYBLBEDBBCBEqBCH",
     "BnBFABADEFCEADEBAgIAjQDDBBBOBCJrBHrNJCH9xzBFFBiFBSABAcABAdABABBBB371BA5BA5BA5BA5BA"]),
  (["caseignorable", "ci"],
    ["nBAGALAjBABAnCAEABAEACB3P_FEBEAJBBA7HGvGAFAxBsBBABBBBBAsBALFKKBAjBAKUQAlDHBJBDhBABAea7CK6",
     "BKEACAYXrBCsBAHBFIpB5B3BABAEHEADGKBNAPA6BAEDIAUBaACB5BAEBEBCCDAeBDALB5BAEEBBEAUBWFBA6BACA",
     "BDIAHBLBeA9BAMAyBADA3BABCFCBDHBLBdA6BACAGAFBUBcB5BBEDIAUBdAoCAHCBA6CACGLIiDACIJABGpCBbABA",
     "BA3BNBEBBFKBjBJAmDDBFBBCBZBECQDNACBGAPA-CAgTCydCdBeBeBgCBBGIACKDAFAtBEzBAhCBiBA2DCEBJAGC7",
     "GBCA6BABGBABACHGJCAnBAIexBDwBABEBAFAoBIMBgBDCBBC4BABBDABC6BHCBgCFyCCBMBGEAGADByB-BNAiBkD9",
     "NABCLCNCNCNBMEIBKACACExBEBJBANAQMzBgBr8CBxDC9DAPAgDfvBA1OAkBDDEFA9CF9CC24bAinBFuIAiDDBJBA",
     "cDwCBOhBuCAXCnDCDBIADAEAZBFA3EBaRNAmBHZKuBCwBACDCBRAVBiCFCBCBMAIAjBALAzBABCCBFBBAbAOBFBBA",
     "kDEJC5DACAEAw5TAzEQ9RPDAMPiBACApFAHAGALAjBABAvBAtBBjCAVChQAiHA1EElgBFBpBBImSCBBFDoBCEAlFB",
     "9RDmBAaEBA7JBvCDmCKxBD7DA2BOpBACBKCxBDCBCAEAKAyBCkBEBH-BAMB0BIKDCA_CCCABBGACA9EADHVB5BBDA",
     "lBGDEmCFNABABAOB1CHCCBAXA0CFBAEBBBuHDGBBBbB1CHCABBqDABACFBAlDCCDBEjIIBBgIBBAEAwEDCBEAgBJo",
     "BFCDIAJFCCuBMBB2MGBFBAyCVCGBBBB6DFDABBBGBAoCBDABA7KBLB0BEFABAXA1mFQGOomLLDCguCE7BGJD8PCoB",
     "BiPA_BQgCBBBrgQDBGBB-kDBBD8yEtBCWgRCJPCGeD0EC79B2BExBIAOAWEBOwqBGBQCGBBBEF9BhBAgFNwLA9BD7",
     "PE-HBgXGtDHv1CEhgjYAe_CgEvH"]),
  (["cased"],
    ["hCZGZvBAKAEAFWBeBiGBDEvGBjBHBeEgDAqBDCBCDBAGABCBABTByCBqEIlFBlBJoB34ClBBAFACqBBDgV1CCFikC",
     "KFqBCCgC_FgC1ICFClBCFCHBABABABeC0BBGBADCBGDDCFEMFCBG0DANAQMlDAEACJBADEGABABABDBFEACDFEEAR",
     "fDBxZzB24BkHGDDBMlBBAFAyoetBSdkElDDDB9BCBBABHVEBC1ZqBBNGvCg6TGMEpgBZGZllBvCgDjBEjB0DKBOBG",
     "BBBKBOBGBBjOACCBpBBIlmByBNyB9CVKV64C_BgrV_BgsZ0CBmCBBCACBCDBLBABGBgCBDCHBGBbBDBEBADGBzKCY",
     "BYBeBYBeBYBeBYBeBYBH05BJBTGFlI9BykCjCs_BZGZGZ"]),
  (["changeswhencasefolded", "cwcf"],
    ["hCZ6CAKWBHgBABABABABABABABABABABABABABABABABABABABABABABABABABABABACABABABABABABABABBBABA",
     "BABABABABABABABABABABABABABABABABABABABABBBABABABBBABBBCCDBBBCDBBBBABABBBACABBBCBABBDAHBB",
     "BBBBABABABABABABABACABABABABABABABABACBBABCBABABABABABABABABABABABABABABABABABABABABABABA",
     "BABABABABABAHBBBCABDBABABABA2HAqBABADAIAGABCBABBBQBIWAMCDBBABABABABABABABABABABABABBCBBAB",
     "BCyBwBABABABABABABABABABABABABABABABABAJABABABABABABABABABABABABABABABABABABABABABABABABA",
     "BABABBBABABABABABACABABABABABABABABABABABABABABABABABABABABABABABABABABABABABABABABABABAB",
     "ABABABABABABABABABABABABAClBwBA44ClBBAFAqZFikCJGqBCCgKABABABABABABABABABABABABABABABABABA",
     "BABABABABABABABABABABABABABABABABABABABABABABABABABABABABABABABABABABABABABABABABABABABAB",
     "ABABABABABABABABABABABABAFBCABABABABABABABABABABABABABABABABABABABABABABABABABABABABABABA",
     "BABABABABABABABABABABABABABABABABABAJHIFKHIHIFLABABABAIHQvBCCCFFCCFLDMEFCCFpJADBGAtBPTAyZ",
     "Zw5BvBwBABCCABABABDBACAICBABABABABABABABABABABABABABABABABABABABABABABABABABABABABABABABA",
     "BABABABABABABABABABABABABABABABABAIABAEAtqeABABABABABABABABABABABABABABABABABABABABABABAT",
     "ABABABABABABABABABABABABABAnEABABABABABABADABABABABABABABABABABABABABABABABABABABABABABAB",
     "ABABABABABABABAKABABBBABABABAEABACABADABABABABABABABABABABEBEBABABABABABABABDBABBDAFABABA",
     "BAYA6bvCg6TGMEpgBZlmBnBoEjB8EKBOBGBBq3ByB9EV65CfgsVfg1ehB"]),
  (["changeswhencasemapped", "cwcm"],
    ["hCZGZ6BAKWBeB_BBzCBMBNCNCBBAE8CBRGaBBBABBDBBABBBECABBCAHACABBDFFAKBmFAqBDCBDCBAGABCBABTBu",
     "BDgBBEBkEIlFBlBKmB44ClBBAFACqBCCgV1CCFikCKFqBCC5FADAQAxD7ECAB1DCFClBCFCHBABABABeC0BBGBADC",
     "BGDDCFEMFCBGpJADBGAbARfDBxZzB24BwDBBBBHlDHDDBMlBBAFAyoetBSbmENC9BJODCCEBYBdCBEGYB8aAcvCg6",
     "TGMEpgBZGZllBvCgDjBEjB0DKBOBGBBBKBOBGBBj2ByBNyB9CVKV64C_BgrV_Bg0ejC"]),
  (["changeswhenlowercased", "cwl"],
    ["hCZlDWBGhBABABABABABABABABABABABABABABABABABABABABABABABABABABABACABABABABABABABACABABABA",
     "BABABABABABABABABABABABABABABABABABABABBBABADBBABBBCCDBBBCDBBBBABABBBACABBBCBABBDAHBBBBBB",
     "ABABABABABABABACABABABABABABABABACBBABCBABABABABABABABABABABABABABABABABABABABABABABABABA",
     "BABABABAHBBBCABDBABABABAhJABADAIAGABCBABBBQBIjBAIABABABABABABABABABABABAFACABBCyBwBABABAB",
     "ABABABABABABABABABABABABABAJABABABABABABABABABABABABABABABABABABABABABABABABABABABBBABABA",
     "BABABACABABABABABABABABABABABABABABABABABABABABABABABABABABABABABABABABABABABABABABABABAB",
     "ABABABABABABAClBp6ClBBAFAyW1CzkCAGqBCCgKABABABABABABABABABABABABABABABABABABABABABABABABA",
     "BABABABABABABABABABABABABABABABABABABABABABABABABABABABABABABABABABABABABABABABABABABABAB",
     "ABABABABABAJABABABABABABABABABABABABABABABABABABABABABABABABABABABABABABABABABABABABABABA",
     "BABABABABABABABABABAJHIFKHIHIFLABABABAIHYHIHIHIELELDMELEpJADBGAtBPTAyZZw5BvBwBABCCABABABD",
     "BACAICBABABABABABABABABABABABABABABABABABABABABABABABABABABABABABABABABABABABABABABABABAB",
     "ABABABABABABABAIABAEAtqeABABABABABABABABABABABABABABABABABABABABABABATABABABABABABABABABA",
     "BABABABAnEABABABABABABADABABABABABABABABABABABABABABABABABABABABABABABABABABABABABABAKABA",
     "BBBABABABAEABACABADABABABABABABABABABABEBEBABABABABABABABDBABBDAFABABABAYAr5VZlmBnBoEjB8E",
     "KBOBGBBq3ByB9EV65CfgsVfg1ehB"]),
  (["changeswhentitlecased", "cwt"],
    ["hDZ6BApBXBHBABABABABABABABABABABABABABABABABABABABABABABABABABABABACABABABABABABABBBABABA",
     "BABABABABABABABABABABABABABABABABABABABACABABCCABACADAFACADBDACABABACAEACADABACADABAEABBB",
     "BBABABABABABABABABBBABABABABABABABABCBABADABABABABABABABABABABABABABABABABABABABADABABABA",
     "BABABABABAIACBBAEABABABABFBBBABBDBBABBBECABBCAHACABBDFFAKBmFArBABADADCSAbiBBBDCBABABABABA",
     "BABABABABABABEBACACA0BvBBABABABABABABABABABABABABABABABABAJABABABABABABABABABABABABABABAB",
     "ABABABABABABABABABABABACABABABABABABBBABABABABABABABABABABABABABABABABABABABABABABABABABA",
     "BABABABABABABABABABABABABABABABABABABABABABAxBmBwzDFikCIBAuHADAQAyDABABABABABABABABABABAB",
     "ABABABABABABABABABABABABABABABABABABABABABABABABABABABABABABABABABABABABABABABABABABABABA",
     "BABABABABABABABABABABABABABABABABABABGFABABABABABABABABABABABABABABABABABABABABABABABABAB",
     "ABABABABABABABABABABABABABABABABABABABABABABIIFKHIHIFKHIHINCHIHIHIEBBGADCBBIDCBIHKCBB2KAh",
     "BPEAraZm6BvBBADBBABABAGACAKABABABABABABABABABABABABABABABABABABABABABABABABABABABABABABAB",
     "ABABABABABABABABABABABABABABABABABABAIABAEAMlBBAFAzoeABABABABABABABABABABABABABABABABABAB",
     "ABABABABATABABABABABABABABABABABABABAnEABABABABABABADABABABABABABABABABABABABABABABABABAB",
     "ABABABABABABABABABABABABAKABACABABABABAEAEABBCABABABABABABABABABALABABABABABABABAEABACADA",
     "FABABAaA8aAcvCg6TGMEphBZtmBnBoEjB7EKBOBGBBj4ByB9DV65CfgsVfi1ehB"]),
  (["changeswhenuppercased", "cwu"],
    ["hDZ6BApBXBHBABABABABABABABABABABABABABABABABABABABABABABABABABABABACABABABABABABABBBABABA",
     "BABABABABABABABABABABABABABABABABABABABACABABCCABACADAFACADBDACABABACAEACADABACADABAFBBBB",
     "BBABABABABABABABBBABABABABABABABABBBBBADABABABABABABABABABABABABABABABABABABABADABABABABA",
     "BABABABAIACBBAEABABABABFBBBABBDBBABBBECABBCAHACABBDFFAKBmFArBABADADCSAbiBBBDCBABABABABABA",
     "BABABABABABEBACACA0BvBBABABABABABABABABABABABABABABABABAJABABABABABABABABABABABABABABABAB",
     "ABABABABABABABABABABACABABABABABABBBABABABABABABABABABABABABABABABABABABABABABABABABABABA",
     "BABABABABABABABABABABABABABABABABABABABABAxBmBo6CqBCC4XFikCIBAuHADAQAyDABABABABABABABABAB",
     "ABABABABABABABABABABABABABABABABABABABABABABABABABABABABABABABABABABABABABABABABABABABABA",
     "BABABABABABABABABABABABABABABABABABABABABGFABABABABABABABABABABABABABABABABABABABABABABAB",
     "ABABABABABABABABABABABABABABABABABABABABABABABABIIFKHIHIFKHIHINC0BBBEABADCBBEADDCBIHKCBBE",
     "AxKAhBPEAraZm6BvBBADBBABABAGACAKABABABABABABABABABABABABABABABABABABABABABABABABABABABABA",
     "BABABABABABABABABABABABABABABABABABABABABAIABAEAMlBBAFAzoeABABABABABABABABABABABABABABABA",
     "BABABABABABABATABABABABABABABABABABABABABAnEABABABABABABADABABABABABABABABABABABABABABABA",
     "BABABABABABABABABABABABABABABAKABACABABABABAEAEABBCABABABABABABABABABALABABABABABABABAEAB",
     "ACADAFABABAaA8aAcvCg6TGMEphBZtmBnBoEjB7EKBOBGBBj4ByB9DV65CfgsVfi1ehB"]),
  (["dash"], ["tBA8qBAzBAhyDAlgBApgCF9BAnBAPAmMAkgDACAfBEAcA-NATAvDAwszBBlBAKApFAgzDA-JA"]),
  (["defaultignorablecodepoint", "di"],
    ["tFAhVAsWAi6CBzyBB1CE7_BEaExBP0nEA7kzBPvHAgFAvCInlvBDvmFHl0rY__D"]),
  (["deprecated", "dep"], ["pKAppBAjoCABAphCBlmCF5VB2m3bA"]),
  (["diacritic", "dia"],
    ["-CABAnCAGAEACB3P-EBHFFRBEAJB9HExGA3BQBaBABBBAmEHEBmEBEBDCjCa7CK6BKiBB-DHpBJQb9BAQADDcAqCA",
     "QAuDAQAuDAQAvBC8BAQAHA3DAuDAQAuDAQAtDBQA8DA8DFBArDANErCBbABABAEBiCCBB-BAwDABBoBBEEZGBAKBh",
     "WC0dBzFKJA7KC5JHCAwBOCKoDAPAmBI2BBqEBgCFyCYEAGACCyB-B5CLlBK9NABCLCNCNCNBwnDC9JA6PFpDD_CAy",
     "rdAMBBAcByCBOhBmDCtDBqGAbR5BDkBA_CAMAkBA1EChCDzBAkDEJCgEBw5TAhYPuIABAvBAtBBjCA8XA_kBFBpBB",
     "IqZB7RFmBAaEvMCmCKxBDgGApBAoCB4DB-BAsCAJCoDByFBxCAQAYGDE5CCBBNB_CADA7DB7HB-DA2DBzDAtIBiIB",
     "EA8EAzCASAxCAlNAiIABBxCAiOAsnFO5mLAguCE7BG0RBiRQwCB-_PDBGBBh4HtBCWgRCDFIHCGeDi0D9BiGG3LA9",
     "BD-XBgXGtDCBC"]),
  (["emoji"],
    ["jBAGAFJvDAEAt8HAMA4GAWA6CFPBvLBMAmFAZKECnGAnHBKAJA6BDBEJACACBCAEACABBCADADBICFABAFLLBCABB",
     "BASACBSFBABBDBFACBEBLBFBCAFBBABBUBFFBDCAEACACFBACABABAGADAGAKBPACAEABAECBALBwBCJAOAOA0LBv",
     "OCTBzBAEA6mBAMA5SABAqrvDAqGAgFBMBOACJrCZBBXAUACIVBuFhBCvDCBBCCyCCCBmIB-BLFBXHBCHMACDCAEBN",
     "BCAIBJAFCMCICCABAEAGADAG1CwBlCFHCCEJDABBDACJjHLEA7IuBBJB4FwDMDJF3BHOCKGI"]),
  (["emojicomponent", "ecomp"], ["jBAGAFJz-HA1GArp3BA2-8BZ7PEwtBDszhY_C"]),
  (["emojimodifier", "emod"], ["7_8DE"]),
  (["emojimodifierbase", "ebase"],
    ["9wJA7GAQD3jzDA8BCCACC1DBCKVSDAECBCHABAYApGBEAVAEBuFCDEzCAQCJALA_RACAIHGAJJCC4BA9BBBBBARCB",
     "MlHCqBI"]),
  (["emojipresentation", "epres"],
    ["64IBtGDDACApQBVByBLrBATANAIBRBFBIAFAVAHBBAEACAHAEBcAjBABAECBA9BCYAOA7aBzBAEAulxDAqGA-FACJ",
     "rCZBAYAUACEBCVBuFgBMIBlCBVMqBEEMQDADmCBAB6FC-BNDBXSAaBNA2C0CwBlCGADCCCEDLBHIjHLEA7IuBBJB4",
     "FwDMDJF3BHOCKGI"]),
  (["extendedpictographic", "extpict"],
    ["pFAEAt8HAMA4GAWA6CFPBvLBMA_CAmCAZKECnGAnHBKAJA6BDBFBLBxDK1DCKBABAGADAGAKBPACAEABAECBALEtB",
     "CJAOAOA0LBvOCTBzBAEA6mBAMA5SABAmrvD_HNCfA8BFMBOACJS4BbOKAUACIBDJxNF9JIpIwB_D0DL1CqBMD4BHK",
     "FoBHeDKDC9BMuBBJB4NgI9f"]),
  (["extender", "ext"],
    ["3FA4QBubA5NA6aAwXA_DAjqCA4BAjTAuMAkCAp8EArBEnDB9CC24bA2vBAieAWApEAsDAVB7jVAwgCBruBAbAEAtv",
     "BA0DByPCvmBAplUB8kBBBA4qcBxlBA0aC"]),
  (["graphemebase", "grbase"],
    ["gB-ChBMBxSwDHCFEGBABTB_GHlFBlBCxBCCuBABACACAJaEFRJLABtBVPBkDIAGBCAEfCABdd4CLAOqBJGDXEAJAD",
     "AHOBYFABKFeRpB5B2BBABDIDBCHJCcBBBHCBCVBGBADDDABBGBCBBANBBCEXFABFEBCVBGBBBBBBECYDBAHJCCBAM",
     "ABIBCBVBGBBBEDDIABBDAPBELHAIBBHCBCVBGBBBEDACAGBCBPBBCERLABFDCBDDBBABBDBDCDLFABBDCBCDAVUGC",
     "BHBCBWBPDADDTCCACBEJHJBKBCBWBJBEDBBBBBCBBBRBBBEJBCOKBCBoBCABBFCBCBBECBJEZCBBRDXBIBACGJBGG",
     "HJCCMvBBBLHIMlBBBABEBXBABJBBJACEBAJJCDgBXCaBABABNBjBSAFACExBHBFBMlBsBEAGACBCYCDDPEMBBCFBO",
     "BnBBAFAC4LBDCGBABDCoBBDCgBBDCGBABDCOB4BBDCiCFcDZG1CCFC8UD4CHRDAJSCCJROMBCPzBCAHHBBLIDJGJG",
     "KFJG4CHEChBBAFlCKeEDCCEBBFHADpBCELrBEZGKD4BCBD3BBAJABBIFNJGJGN2CvBHABEBJBcJLCfEBCAD3BBACC",
     "BADBIvBIBFOD9BFqBCKLANAHDBFBCCAF_FgC1ICFClBCFCHBABABABeC0BBOBNCFBSCCBIBKFXHwBQBCaBMDgB_Br",
     "EE5UWKVz4BCfB3KDBFsBBAFAC3BHBPWJGBGBGBGBGBGBGBGhB9CiBZB4CM1Ga5BGPB1CEkDFqBB9CB1CJvBBszcD2",
     "BJ7KUuBEAKfCvCCFItGCBBABHVPBCBDBYCEEJG3BIjCKLYMBlBIYLBLdGvBBBEBCPBKEGBYBoBGBCBLCBHBACJCfB",
     "yBBADBCECABAYQCHLFCFCFJGBGB7BE0DBBBDDJGj9KMWEwBkoItLCpDmBGMEFABXBEBABBBBB8DQ8NC1BHAgBPQJW",
     "iBBSBDEEBmEE8ECeDFCFCFCCDGBGNBCLBZBSBBBOCNiB6DFCEsBD3CBMDAvBsBjEcDwBQaEjBJdFlBKdBkBENqB9E",
     "CJGjBEjBEnBIzBLLBOBGBBBKBOBGBBDzBM2JJVKHYFBpBBIlCFCABrBBBDACWBnCIIwBSBBFgBDaFAgC3BETCuBPD",
     "BCBcKIHIH_BgBkBGLJ1BDcCaFZHDMGwCoC3ByBNyBHpBMJGlBIXIBwGeBpBDACBQC7BnBIVLIWREDmBbUWJAB1BPG",
     "EdBBCAMwBEBCBBDOYHJJjBFAJRIiBBCLzBJJEBBPBTLRBbDBBACFBB_BGBABDBOBKGuBBCNJIBBHCBCVBGBBBEDAB",
     "ABDCBCCCAMGcJBACABlBBABBPABBDABCBBnB3BIBDABUBABCevBBBGABBBACACDIJmFuBBBGDCACakByBIBBACDLJ",
     "GMTqBBABBGABBGJGTcaFBEAJW5FuBJACAkDyCMHCACHBBBXBEBBEABDBCJJmCHCpBIDBDbAKnBGBEHJAGBDtBNACI",
     "NoCHJ2FhBOJGIBlBOABFKcDfZAHACArCGBBBlBVAJJGFBBBkBEBBABAHJ2JSCDJOBjBIBBABW2CAPxBN6cmDuDBEL",
     "jGsyCiDNvhBRFZ68DFmS51GdMCDJm2B4RHeBJEwCBJGdHAKvBHOKJBGBUFSwN5BmG6ClDqCF3BLMgCDMBO3_FI1mB",
     "pBJn3IDBGBBBiJPAdCCAODIrMkoCqDFMDIHJCACAg7D5HGzN8EzD8B1HKmBC7BBADDVBHdE8BVhCDA6DTMTM2CJYn",
     "E0CBmCBBCACBCDBLBABGBgCBDCHBGBbBDBEBADGBzKCjJCxR3BDyBHBNBG0jBeGFlI9ByEsBKGCJEBgKdSrBEJFAw",
     "ObEJ2GdCKEAgPGBDBBBOBkGCIwBjCHAEJEBxYjCsC8BiGDBaBBBACABJBDBABAGAEABABABCBBBACABABABABABBB",
     "ACDBGBDBDBABJBQFCBEBQ0BBuIrBEjDMOCOBOBkBKtF4BcNrBEIHBOF6E3eEQDMD2DE-CGLEAPLE3BIJGnBIdCLEB",
     "-BzKMNCMDJF3BHOCKGIHyEBlDmgB_2pBgB5hEG9GCh0FOwpHPtTitC9QivBq6EF_iE"]),
  (["graphemeextend", "grext"],
    ["gYvDzIGnIsBBABBBBBAoCKwBUQAlDGCFCBBDjBAea7CK6BIJAYDBIBCBErBC7BIqBXBf3BABAEHEADGKBdA6BABAC",
     "DIAJAKBaACB5BAEBEBCCDAeBDALB5BAEEBBEAUBWFBA6BABBBDIAHCKBeA7BABAMAJAoBADA3BABCFCBDHBLBdA6B",
     "ACACADAFBHBLBcB5BBBACDIAJAKBdAoCAEACCBAIAxCACGMHiDACILGpCBbABABA3BNBEBBFKBjBJAmDDBFBBCBZB",
     "ECQDNACBGAPA_VCydCdBeBeBgCBBGIACKJAtBCBA1DBiBA2DCEBJAGC7GBCA6BABGBABACHGJCAwBexBDwBGBAFAo",
     "BIMBgBDCBBC4BABBDABC6BHCB4ECBMBGEAGADBmG_BsQAjGgB-_CCtEAgDfqRFpDB0udDBJgBBwCBwIADAEAZBFA3",
     "EBaRNAmBHZKuBCwBACDCBnBAjCFCBCBMAIAvBAzBABCCBFBBAqBBIAuHACAEAw5TAhXPQPuLB9SAiHA1EEm0BCBBF",
     "DoBCEAlFB9RDhCE9JBvCDmCKxBD7DA2BOpBACBKCxBDCBHA9BCkBEBH-BAMB0BIKDCA_CCCABBGACA9EADHVB5BBB",
     "ABAWAOGDEjCACFBACABCECBAOB1CHCCBAXAxCACFBACABBBBrHACDGBBBbB1CHCABBqDABACFBAlDCCDBEjIIBB1H",
     "AKBBAEAwEDCBEAgBJoBFCDIAJFCCuBMBB2MGBFBAyCVCGBBBB6DFDABBBGBAoCBDABA7KBLB0BEFABAXAlnFAGOom",
     "LLDCguCE7BG4gBA_BDxCA4lTBhzEtBCW-QABCEEIHCGeD0EC79B2BExBIAOAWEBOwqBGBQCGBBBEkDAgFG3LA9BD8",
     "PD-HBgXGtDG12lY_CgEvH"]),
  (["graphemelink", "grlink"],
    ["tqCA_DA_DA_DA_DA_DA_DA_DAtDBQA8DAvDA_DApGA0FB52BBeA9EAtUAjHAlDBmCBrsEAm0eAlBA3EAuEAsDA1JA",
     "2HAxyXAmwBApBAOA5BA5DBrEA0DA0FAiDA0HA_DA8HA_DA2DA0DAtIAjIBhFAzCASAxCAlNAkIBxCApNB"]),
  (["hexdigit", "hex"], ["wBJHFaFp1_BJHFaF"]),
  (["hyphen"], ["tBA_DA8mBA7zEApgCBlwDAjXAnrzBApFA3CA"]),
  (["idsbinaryoperator", "idsb"], ["w_LBCJxPA"]),
  (["idstrinaryoperator", "idst"], ["y_LB"]),
  (["idcontinue", "idc"],
    ["wBJHZEABZvBAKABACAFWBeBpOELOEHABAR0DBBCDBAGEBABTByCBqEBEClFBlBCAGoBIsBBABBBBBAIaEDdKFpCEl",
     "DBHCJBSCAQ6BCkDO1BEACACtBSbEKFXBFIqCBgECJBSBHCBCVBGBADDCICBCDIAEBBECLKABACCBFEBCVBGBBBBBB",
     "CABEEBCCDAHDBAHPLCBIBCBVBGBBBECJBCBCCAPDCJJGBCBHCBCVBGBBBECICBCCHCEBBECJBAQBBFDCBDDBBABBD",
     "BDCDLEEDCBDCAGAOJQMBCBWBPCIBCBDHBBCCACDCJQDBHBCBWBJBECIBCBDHBGBBDCJBCMMBCByBBCBEFDHECJKFB",
     "CBRDXBIBACGDAEFBABHGJCBN5BFOBJnBBBABEBXBABWCEBABGBJCDgBAXBGJLABABAEJBjBETBRBjBJA5BpCGtCCl",
     "BBAFACqBBsKBDCGBABDCoBBDCgBBDCGBABDCOB4BBDCiCCCJIOPQ1CCFDrTCQBZFqCDKHVJVLTMMBCBBMzCDAEBCJ",
     "hBCBKG4CHqBFlCKeBLELKnBCELrBEZGKlBbE-BBcCKGJNAINBPxBsCDJRIMzDM3BIJDwBCKFqBCCQCBmBF1QCFClB",
     "CFCHBABABABeC0BBGBADCBGDDCFEMFCBGiCBTAcANAQMzBMEADLRAEACJBACFGABABABPCDFEEARoB3zCkHGIMlBB",
     "AFAC3BHAPXJGBGBGBGBGBGBGBGBflQCZOBECEE1CCGB5CBDFqBB9CRfwBPgQ_tGgCs0VjCtBCsIDbUvBEJByDlBIC",
     "mDCiCCBBABHV1BEATzBMlCKJGXDABwBCjBMcDgCOKGeB2BJNCJGWDoCYCCPCEKFCFCFJGBGBqBBNG6DBBCJGj9KMW",
     "EwBkoItLCpDmBGMEFLBMBEBABBBBBrDhBqLS_BC1BoBLEPQPDBYCgBEBmETJHZEABZL4CDFCFCFCCjBLBZBSBBBOC",
     "NiB6DlC0BoEAiEcDwBPAffNdFqBFdCjBEHBEqB9ECJGjBEjBEnBIzBMKBOBGBBBKBOBGBBDzBM2JJVKHYFBpBBIlC",
     "FCABrBBBDACWKWJehCSBBKVKZmC3BGBgCDBBFHBCBcCCEAgBcDcjBHBdZ1BKVKSNRuDoC3ByBNyBNnBIJGlBDEBW6",
     "HpBBBDBQC3BgBKAIgBfVqBUbWJmCfPJ7BHANYHJG0BBJEDIjBCAJkCEDBMBAjBRBkBGD-BGBABDBOBJH6BFJGDBHC",
     "BCVBGBBBEBJCBCCCAGAFGCGDELJBACABlBBJBACABDBHNBdqCFJEDelCBAIJmF1BCIXFiBgCDALJmB4BHJGTcaCOE",
     "JGG5F6BlDpCVHCACHBBBdBBCIMJmCHCtBCHBBb-BIAIpCDASoCnGgBPJGIBsBBIPJYdCVBNpCGBBBrBDABBBIIJGF",
     "BBBkBBBBFHJ2JWJQBoBDENK1CAvC5cmDuDRjGsyCgDPvhBQVK68DFmS51G5Bm2B4RHeBJGuCBJGdCEL2BJDMJJUFS",
     "wNsBDJmG_BgEqCE4BHQgCBBBLBO3_FI1mBpBJn3IDBGBBBiJPAdCCAODIrMkoCqDFMDIHJDBxiEJmQtBCW-QEDFIH",
     "CGeD0EC7N0CBmCBBCACBCDBLBABGBgCBDCHBGBbBDBEBADGBzKCYBYBeBYBeBYBeBYBeBYBHCxBgQ2BExBIAOAWEB",
     "OwiBeGF1GGBQCGBBBEF9BhBAwDsBDNCJEAhKeR5B2OpB2GqBlPGBDBBBOBkGLGpBrCEJmlBDBaBBBACABJBDBABAG",
     "AEABABABCBBBACABABABABABBBACDBGBDBDBABJBQFCBEBQ0pDJmgB_2pBgB5hEG9GCh0FOwpHPtTitC9QivBq6EF",
     "_iEwq3VvH"]),
  (["idstart", "ids"],
    ["hCZGZvBAKAEAFWBeBpOELOEHABAhEEBBCDBAGABCBABTByCBqEIlFBlBCAGoBnCaEDtBqBjBBBiDBAPBHBKCCAQAB",
     "dd4CLAYgBJBEAFVEAJADAXYHKFXBFRpB6B1BDASAHJPPEHCBCVBGBADDDAQANBBCOBKAIFEBCVBGBBBBBBfDBATCQ",
     "IBCBVBGBBBEDASAPBXALHCBCVBGBBBEDAeBBCPARABFDCBDDBBABBDBDCDLWA0BHBCBWBPDAaCCACBeAEHBCBWBJB",
     "EDAfBBBPBRIBCBoBCAQAFCICYFFRDXBIBACG6BvBBBMG6BBBABEBXBABJBBJACEBAVDgBA_BHBjBbEzDqBUAQFEDD",
     "ADBHCEMMARlBBAFACqBBsKBDCGBABDCoBBDCgBBDCGBABDCOB4BBDCiClBPQ1CCFDrTCQBZFqCDKHRNSOROMBCPzB",
     "jBAEAjC4CHoBBAFlCKexBdCELrBEZ2BWJ0ByCA9CuBRH2BdNBKrBajBpBCKjBCKFqBCCpBDBFBBDAF_FgC1ICFClB",
     "CFCHBABABABeC0BBGBADCBGDDCFEMFCBG0DANAQMlDAEACJBACFGABABABPCDFEEARoB3zCkHGDDBMlBBAFAC3BHA",
     "QWJGBGBGBGBGBGBGBGmRCZIHECEE1CEEB5CBDFqBB9CRfwBPgQ_tGgCs0VjCtBCsIDPKBUuBQeCvCnBICmDCiCCBB",
     "ABHVPBCBDBWdzBOxB-BFDABBLbKWZcHuBcAQEBJKEBoBXCBHUWDADxBBADBCECABAYCCKHCMFCFCFJGBGBqBBNGyD",
     "dj9KMWEwBkoItLCpDmBGMEFABJBMBEBABBBBBrDhBqLS_BC1BoBL0DEBmEkBZGZL4CDFCFCFCCjBLBZBSBBBOCNiB",
     "6DlC0BrIcDwBvBfNdFlBKdCjBEHBEqB9ESjBEjBEnBIzBMKBOBGBBBKBOBGBBDzBM2JJVKHYFBpBBIlCFCABrBBBD",
     "ACWKWJehCSBBKVKZmC3BGBgCAPDBCBcqBcDcjBHBbb1BKVKSNRuDoC3ByBNyBNjBmBbJW6HpBGBQC7BcKAIVqBRuB",
     "UbWM0B5BBCANsBgBYajBdACAIiBDAMvBODVABAjBRBYTB_BGBABDBOBJHuBmBHCBCVBGBBBEDASAMEeJBACABlBBA",
     "ZABAsB0BSDUCevBUBBA4FuBpBDkBvBUA7BqBNAnCalBG5FrB0D_BfHCACHBBBXPABA-CHCmBQABAcAKnBHAVALtBT",
     "ASoCnGgBfIBkBRAxBdwDGBBBlBVAZFBBBfOAnKSPABMBhB8DAvC5cmDuDRjGsyCgDPvhBRFZ68DFmS51Gdi3B4RHe",
     "RuCRdSvBQDfUFSwNsBzG_BgEqCFAiCMgCBBAc3_FI1mBpBJn3IDBGBBBiJPAdCCAODIrMkoCqDFMDIHJm7F0CBmCB",
     "BCACBCDBLBABGBgCBDCHBGBbBDBEBADGBzKCYBYBeBYBeBYBeBYBeBYBH05BeGFlI9ByEsBKGQAhKdSrBkPbkHdCA",
     "vPGBDBBBOBkG7BjCHA0lBDBaBBBACABJBDBABAGAEABABABCBBBACABABABABABBBACDBGBDBDBABJBQFCBEBQkqE",
     "_2pBgB5hEG9GCh0FOwpHPtTitC9QivBq6EF_iE"]),
  (["ideographic", "ideo"],
    ["mgMBZIOCle_tGgC_vUgoWtLCpDqodAb3_FI1mBpBJnjJrMkoT_2pBgB5hEG9GCh0FOwpHPtTitC9QivBq6EF_iE"]),
  (["joincontrol", "joinc"], ["sgIB"]),
  (["logicalorderexception", "loe"], ["gyDE7DEw3CCCA6nkBBCABB"]),
  (["lowercase", "lower"],
    ["hDZvBAKAEAkBXBHBABABABABABABABABABABABABABABABABABABABABABABABABABABABBBABABABABABABABBBA",
     "BABABABABABABABABABABABABABABABABABABABABABACABABCCABACADBEACADCCACABABACABBBACADABACBCCG",
     "ACACABABABABABABABABBBABABABABABABABABBCABADABABABABABABABABABABABABABABABABABABABABABABA",
     "BABABABABABABGCACBBAEABABABABkCBjBHBeEgDArBABADACDSAbiBBBDCBABABABABABABABABABABABEBACACB",
     "zBvBBABABABABABABABABABABABABABABABABAJABABABABABABABABABABABABABABABABABABABABABABABABAB",
     "ABACABABABABABABBBABABABABABABABABABABABABABABABABABABABABABABABABABABABABABABABABABABABA",
     "BABABABABABABABABABABABAwBoBn6CqBBD4XFikCIBA1D_FhCABABABABABABABABABABABABABABABABABABABA",
     "BABABABABABABABABABABABABABABABABABABABABABABABABABABABABABABABABABABABABABABABABABABABAB",
     "ABABABABABABABABABABIBABABABABABABABABABABABABABABABABABABABABABABABABABABABABABABABABABA",
     "BABABABABABABABABABABABABABABIIFKHIHIFKHIHINCHIHIHIEBBGADCBBIDCBIHKCBB5DANAQMtDADBDAbAEAE",
     "ACBIDEAhBPEAraZm6BvBBADBBABABAEABBBHDABABABABABABABABABABABABABABABABABABABABABABABABABAB",
     "ABABABABABABABABABABABABABABABABABABABABABABABBHABAEAMlBBAFAzoeABABABABABABABABABABABABAB",
     "ABABABABABABABABABATABABABABABABABABABABABABABClEABABABABABABCBABABABABABABABABABABABABAB",
     "ABABABABABABABABABABABABABABABABABJBABACABABABABAEABACABCBABABABABABABABABABAFAFABABABABA",
     "BABABAEABACADABABABABABAWCBABC1ZqBBNGvCg6TGMEphBZtmBnBoEjB7EKBOBGBBjOACCBpBBIloByB9DV65Cf",
     "gsVf6sZZaGBRaZaDBABGBKaZaZaZaZaZaZaZaZabcYBFaYBFaYBFaYBFaYBFBA05BJBTGFlI9B0lChB"]),
  (["math"],
    ["rBAQCfAdABAtBAEAlBAfA4WCCAaBCCvQCtwGAbCLADANAODVELEhCMEADBEESAEACJBACFGADBCBBCBFDNBAkCXBF",
     "BBEBEfBAGBOrIIDUB6CAeaBAYALG9NBMJEFEBCBDEOABACFLHFB5BABAdDJCwK_BgI_PwBUCF8-zBA3ZFBAiFAQCd",
     "ABAdABAjEAGDhtDBwzxB0CBmCBBCACBCDBLBABGBgCBDCHBGBbBDBEBADGBzKCjJCxBgwFDBaBBBACABJBDBABAGA",
     "EABABABCBBBACABABABABABBBACDBGBDBDBABJBQFCBEBQ0BB"]),
  (["noncharactercodepoint", "nchar"],
    ["wu_BfuQB-__BB-__BB-__BB-__BB-__BB-__BB-__BB-__BB-__BB-__BB-__BB-__BB-__BB-__BB-__BB-__BB"]),
  (["patternsyntax", "patsyn"],
    ["hBOKGaDBAaDiBGBABBBABBEAEADAXAfA44HXIOCSBJxJvWgF1TerjBgQ_DhMCEYPAtozBBlIB"]),
  (["patternwhitespace", "patws"], ["JESAkDAo8HBYB"]),
  (["prependedconcatenationmark", "pcm"], ["gwBF3GAxBAgMBwCA6-hCAPA"]),
  (["quotationmark", "qmark"], ["iBAEAjEAPA86HHZBnwDApODNChxzBD9FAEA6CB"]),
  (["radical"], ["g0LZB4CM1G"]),
  (["regionalindicator", "ri"], ["mv8DZ"]),
  (["sentenceterminal", "sterm"],
    ["hBAMAQApqBAzEC0FArBC2HA9BABADBlJBk3BB2YAEBlYAmGBsGAFA6JBiLDiFBKBCBdC7FBhCB8dBJCkvDANAWBtN",
     "A8ndAuIBjHADA-LB2CB_CA4EBzECwEB5HAmzUADBpFAMAQAhCA03CB9nBEsBD9FB1DD_DChEBGAQB4CBBBsDAqJB1",
     "DB1LBFOpDB5HClQABA7HB3CBkNB0VBqCBp5SBlEAhCBLApRBoJAmwTAovHA"]),
  (["softdotted", "sd"],
    ["pDBkGA5IAeA0BAUAgKAiDABApoGAzBANADAkEA9EAlNA2GBy5CAl9pDByBByBByBByBByBByBByBByBByBByBByBB",
     "yBBmkCAxJBaA"]),
  (["terminalpunctuation", "term"],
    ["hBAKABALBDA-ZAIAhQA5BAoCAOABC0FArBKBArHB2BOfAlIB0nBBsFAEF3JB1YHlYA8DCnCB9ECDAnBDCB6JBiLDi",
     "FBKBBCdC7FE-BB8dBJCkvDANAEAKABBDBsNB7ndBtICjHE-LB2CB_CA3ECzEC_DAQB5HAkzUCBDpFAKABALBDAhCA",
     "CA6hBAwBAmkBAnGA2JB4EFkCF5CD4dEsBD9FGwDD_DChEBGAQB4CEsDAqJB1DCMBmLDDOpDB5HClQABA7HB3CBEB-",
     "MCtBAlUBqCBrpBE5vRBlEAhCCKApRBnJBmwTAnvHD"]),
  (["unifiedideograph", "uideo"],
    ["ggN_tGgC_vUuwWBBABBKABABBCC2uhC_2pBgB5hEG9GCh0FOwpHPtTitEq6EF_iE"]),
  (["uppercase", "upper"],
    ["hCZlDWBGhBABABABABABABABABABABABABABABABABABABABABABABABABABABABACABABABABABABABACABABABA",
     "BABABABABABABABABABABABABABABABABABABABBBABADBBABBBCCDBBBCDBBBBABABBBACABBBCBABBDAHACACAC",
     "ABABABABABABABACABABABABABABABABACACABCBABABABABABABABABABABABABABABABABABABABABABABABABA",
     "BABABABAHBBBCABDBABABABAhJABADAIAGABCBABBBQBIjBACCDABABABABABABABABABABABAFACABBCyBwBABAB",
     "ABABABABABABABABABABABABABABAJABABABABABABABABABABABABABABABABABABABABABABABABABABABBBABA",
     "BABABABACABABABABABABABABABABABABABABABABABABABABABABABABABABABABABABABABABABABABABABABAB",
     "ABABABABABABABAClBp6ClBBAFAyW1CzkCAGqBCCgKABABABABABABABABABABABABABABABABABABABABABABABA",
     "BABABABABABABABABABABABABABABABABABABABABABABABABABABABABABABABABABABABABABABABABABABABAB",
     "ABABABABABABAJABABABABABABABABABABABABABABABABABABABABABABABABABABABABABABABABABABABABABA",
     "BABABABABABABABABABABAJHIFKHIHIFLABABABAIHoCDMDMDMELDmIAEADCCCCADEGABABABDCDKBFAaPTAyZZw5",
     "BvBwBABCCABABABDBACAICBABABABABABABABABABABABABABABABABABABABABABABABABABABABABABABABABAB",
     "ABABABABABABABABABABABABABABABAIABAEAtqeABABABABABABABABABABABABABABABABABABABABABABATABA",
     "BABABABABABABABABABABABAnEABABABABABABADABABABABABABABABABABABABABABABABABABABABABABABABA",
     "BABABABABABAKABABBBABABABAEABACABADABABABABABABABABABABEBEBABABABABABABABDBABBDAFABABABAY",
     "Ar5VZlmBnBoEjB8EKBOBGBBq3ByB9EV65CfgsVfgtZZaZaZaABBCACBCDBHaZaBBDCHBGbBBDBEBADGbZaZaZaZaZ",
     "aZeYhBYhBYhBYhBYhBA1pEhBugCZGZGZ"]),
  (["variationselector", "vs"], ["rgGCBAwv5BPw3gavH"]),
  (["whitespace", "wspace", "space"], ["JESAkDAaA_uFA_rCKdBFAvBAg9DA"]),
  (["xidcontinue", "xidc"],
    ["wBJHZEABZvBAKABACAFWBeBpOELOEHABAR0DBBDCBAGEBABTByCBqEBEClFBlBCAGoBIsBBABBBBBAIaEDdKFpCEl",
     "DBHCJBSCAQ6BCkDO1BEACACtBSbEKFXBFIqCBgECJBSBHCBCVBGBADDCICBCDIAEBBECLKABACCBFEBCVBGBBBBBB",
     "CABEEBCCDAHDBAHPLCBIBCBVBGBBBECJBCBCCAPDCJJGBCBHCBCVBGBBBECICBCCHCEBBECJBAQBBFDCBDDBBABBD",
     "BDCDLEEDCBDCAGAOJQMBCBWBPCIBCBDHBBCCACDCJQDBHBCBWBJBECIBCBDHBGBBDCJBCMMBCByBBCBEFDHECJKFB",
     "CBRDXBIBACGDAEFBABHGJCBN5BFOBJnBBBABEBXBABWCEBABGBJCDgBAXBGJLABABAEJBjBETBRBjBJA5BpCGtCCl",
     "BBAFACqBBsKBDCGBABDCoBBDCgBBDCGBABDCOB4BBDCiCCCJIOPQ1CCFDrTCQBZFqCDKHVJVLTMMBCBBMzCDAEBCJ",
     "hBCBKG4CHqBFlCKeBLELKnBCELrBEZGKlBbE-BBcCKGJNAINBPxBsCDJRIMzDM3BIJDwBCKFqBCCQCBmBF1QCFClB",
     "CFCHBABABABeC0BBGBADCBGDDCFEMFCBGiCBTAcANAQMzBMEADLRAEACJBACFGABABABPCDFEEARoB3zCkHGIMlBB",
     "AFAC3BHAPXJGBGBGBGBGBGBGBGBflQCZOBECEE1CCBCCB5CBDFqBB9CRfwBPgQ_tGgCs0VjCtBCsIDbUvBEJByDlB",
     "ICmDCiCCBBABHV1BEATzBMlCKJGXDABwBCjBMcDgCOKGeB2BJNCJGWDoCYCCPCEKFCFCFJGBGBqBBNG6DBBCJGj9K",
     "MWEwBkoItLCpDmBGMEFLBMBEBABBBBBrDhBqEG5GS_BC1BoBJGPQPDBYChBABADABABABAB9DTJHZEABZL4CDFCFC",
     "FCCjBLBZBSBBBOCNiB6DlC0BoEAiEcDwBPAffNdFqBFdCjBEHBEqB9ECJGjBEjBEnBIzBMKBOBGBBBKBOBGBBDzBM",
     "2JJVKHYFBpBBIlCFCABrBBBDACWKWJehCSBBKVKZmC3BGBgCDBBFHBCBcCCEAgBcDcjBHBdZ1BKVKSNRuDoC3ByBN",
     "yBNnBIJGlBDEBW6HpBBBDBQC3BgBKAIgBfVqBUbWJmCfPJ7BHANYHJG0BBJEDIjBCAJkCEDBMBAjBRBkBGD-BGBAB",
     "DBOBJH6BFJGDBHCBCVBGBBBEBJCBCCCAGAFGCGDELJBACABlBBJBACABDBHNBdqCFJEDelCBAIJmF1BCIXFiBgCDA",
     "LJmB4BHJGTcaCOEJGG5F6BlDpCVHCACHBBBdBBCIMJmCHCtBCHBBb-BIAIpCDASoCnGgBPJGIBsBBIPJYdCVBNpCG",
     "BBBrBDABBBIIJGFBBBkBBBBFHJ2JWJQBoBDENK1CAvC5cmDuDRjGsyCgDPvhBQVK68DFmS51G5Bm2B4RHeBJGuCBJ",
     "GdCEL2BJDMJJUFSwNsBDJmG_BgEqCE4BHQgCBBBLBO3_FI1mBpBJn3IDBGBBBiJPAdCCAODIrMkoCqDFMDIHJDBxi",
     "EJmQtBCW-QEDFIHCGeD0EC7N0CBmCBBCACBCDBLBABGBgCBDCHBGBbBDBEBADGBzKCYBYBeBYBeBYBeBYBeBYBHCx",
     "BgQ2BExBIAOAWEBOwiBeGF1GGBQCGBBBEF9BhBAwDsBDNCJEAhKeR5B2OpB2GqBlPGBDBBBOBkGLGpBrCEJmlBDBa",
     "BBBACABJBDBABAGAEABABABCBBBACABABABABABBBACDBGBDBDBABJBQFCBEBQ0pDJmgB_2pBgB5hEG9GCh0FOwpH",
     "PtTitC9QivBq6EF_iEwq3VvH"]),
  (["xidstart", "xids"],
    ["hCZGZvBAKAEAFWBeBpOELOEHABAhEEBBDCBAGABCBABTByCBqEIlFBlBCAGoBnCaEDtBqBjBBBiDBAPBHBKCCAQAB",
     "dd4CLAYgBJBEAFVEAJADAXYHKFXBFRpB6B1BDASAHJPPEHCBCVBGBADDDAQANBBCOBKAIFEBCVBGBBBBBBfDBATCQ",
     "IBCBVBGBBBEDASAPBXALHCBCVBGBBBEDAeBBCPARABFDCBDDBBABBDBDCDLWA0BHBCBWBPDAaCCACBeAEHBCBWBJB",
     "EDAfBBBPBRIBCBoBCAQAFCICYFFRDXBIBACG6BvBBANG6BBBABEBXBABJBAKACEBAVDgBA_BHBjBbEzDqBUAQFEDD",
     "ADBHCEMMARlBBAFACqBBsKBDCGBABDCoBBDCgBBDCGBABDCOB4BBDCiClBPQ1CCFDrTCQBZFqCDKHRNSOROMBCPzB",
     "jBAEAjC4CHoBBAFlCKexBdCELrBEZ2BWJ0ByCA9CuBRH2BdNBKrBajBpBCKjBCKFqBCCpBDBFBBDAF_FgC1ICFClB",
     "CFCHBABABABeC0BBGBADCBGDDCFEMFCBG0DANAQMlDAEACJBACFGABABABPCDFEEARoB3zCkHGDDBMlBBAFAC3BHA",
     "QWJGBGBGBGBGBGBGBGmRCZIHECEE1CGCB5CBDFqBB9CRfwBPgQ_tGgCs0VjCtBCsIDPKBUuBQeCvCnBICmDCiCCBB",
     "ABHVPBCBDBWdzBOxB-BFDABBLbKWZcHuBcAQEBJKEBoBXCBHUWDADxBBADBCECABAYCCKHCMFCFCFJGBGBqBBNGyD",
     "dj9KMWEwBkoItLCpDmBGMEFABJBMBEBABBBBBrDhBqEG5GS_BC1BoBJ3DABADABABABAB9DkBZGZL3BCeDFCFCFCC",
     "jBLBZBSBBBOCNiB6DlC0BrIcDwBvBfNdFlBKdCjBEHBEqB9ESjBEjBEnBIzBMKBOBGBBBKBOBGBBDzBM2JJVKHYFB",
     "pBBIlCFCABrBBBDACWKWJehCSBBKVKZmC3BGBgCAPDBCBcqBcDcjBHBbb1BKVKSNRuDoC3ByBNyBNjBmBbJW6HpBG",
     "BQC7BcKAIVqBRuBUbWM0B5BBCANsBgBYajBdACAIiBDAMvBODVABAjBRBYTB_BGBABDBOBJHuBmBHCBCVBGBBBEDA",
     "SAMEeJBACABlBBAZABAsB0BSDUCevBUBBA4FuBpBDkBvBUA7BqBNAnCalBG5FrB0D_BfHCACHBBBXPABA-CHCmBQA",
     "BAcAKnBHAVALtBTASoCnGgBfIBkBRAxBdwDGBBBlBVAZFBBBfOAnKSPABMBhB8DAvC5cmDuDRjGsyCgDPvhBRFZ68",
     "DFmS51Gdi3B4RHeRuCRdSvBQDfUFSwNsBzG_BgEqCFAiCMgCBBAc3_FI1mBpBJn3IDBGBBBiJPAdCCAODIrMkoCqD",
     "FMDIHJm7F0CBmCBBCACBCDBLBABGBgCBDCHBGBbBDBEBADGBzKCYBYBeBYBeBYBeBYBeBYBH05BeGFlI9ByEsBKGQ",
     "AhKdSrBkPbkHdCAvPGBDBBBOBkG7BjCHA0lBDBaBBBACABJBDBABAGAEABABABCBBBACABABABABABBBACDBGBDBD",
     "BABJBQFCBEBQkqE_2pBgB5hEG9GCh0FOwpHPtTitC9QivBq6EF_iE"])]

end PagedFind.Unicode
