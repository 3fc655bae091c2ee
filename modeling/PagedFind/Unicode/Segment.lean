import PagedFind.Unicode.CharSet

namespace PagedFind.Unicode

def grapheme : Table := [
  (["cn", "control"], ["AJBBBR_CgBNAurBAxvEA8_BACBYGxBPv03BAwHL0hNPgjiBDvmFHl0rYfgD_DwHvwD"]),
  (["cr"], ["NA"]),
  (["ex", "extend"],
    ["gYvDzIGnIsBBABBBBBAoCKwBUQAlDGCFCBBDjBAea7CK6BIJAYDBIBCBErBC8BHqBXBf3BABAEHEADGKBdA6BABAC",
     "DIAJAKBaACB5BAEBEBCCDAeBDALB5BAEEBBEAUBWFBA6BABBBDIAHCKBeA7BABAMAJAoBADA3BABCFCBDHBLBdA6B",
     "ACACADAFBHBLBcB5BBBACDIAJAKBdAoCAEACCBAIAxCACGMHiDACILGpCBbABABA3BNBEBBFKBjBJAmDDBFBBCBZB",
     "ECQDNACBGAPA_VCydCdBeBeBgCBBGIACKJAtBCBA1DBiBA2DCEBJAGC7GBCA6BABGBABACHGJCAwBexBDwBGBAFAo",
     "BIMBgBDCBBC4BABBDABC6BHCB4ECBMBGEAGADBmG_BsQAjGgB-_CCtEAgDfqRFpDB0udDBJgBBwCBwIADAEAZBFA3",
     "EBaRNAmBHZKuBCwBACDCBnBAjCFCBCBMAIAvBAzBABCCBFBBAqBBIAuHACAEAw5TAhXPQPuLB9SAiHA1EEm0BCBBF",
     "DoBCEAlFB9RDjMBwCCmCKxBD7DA2BOpBACBKCxBDCBHA9BCkBEBH-BAMB0BIKDCA_CCCABBGACA9EADHVB5BBBABA",
     "WAOGDEjGHCCBAXAxCACFBACABBBBrHACDGBBBbB1CHCABBqDABACFBAlDCCDBEjIIBB1HAKBBAEAwEDCBEAgBJoBF",
     "CDIAJFCCuBMBB2MGBFBAyCVCGBBBB6DFDABBBGBAoCBDABA7KBLB0BEFABA9nFAGO60NE7BG4gBA_BDxCA4lTBhzE",
     "tBCW-QABCEEIHCGeD0EC79B2BExBIAOAWEBOwqBGBQCGBBBEkDAgFG3LA9BD8PDgfGtDGw1CEghjY_CgEvH"]),
  (["l"], ["goE_CggmBc"]),
  (["lf"], ["KA"]),
  (["lv"],
    ["ggrBAbAbAbAbAbAbAbAbAbAbAbAbAbAbAbAbAbAbAbAbAbAbAbAbAbAbAbAbAbAbAbAbAbAbAbAbAbAbAbAbAbAbA",
     "bAbAbAbAbAbAbAbAbAbAbAbAbAbAbAbAbAbAbAbAbAbAbAbAbAbAbAbAbAbAbAbAbAbAbAbAbAbAbAbAbAbAbAbAb",
     "AbAbAbAbAbAbAbAbAbAbAbAbAbAbAbAbAbAbAbAbAbAbAbAbAbAbAbAbAbAbAbAbAbAbAbAbAbAbAbAbAbAbAbAbA",
     "bAbAbAbAbAbAbAbAbAbAbAbAbAbAbAbAbAbAbAbAbAbAbAbAbAbAbAbAbAbAbAbAbAbAbAbAbAbAbAbAbAbAbAbAb",
     "AbAbAbAbAbAbAbAbAbAbAbAbAbAbAbAbAbAbAbAbAbAbAbAbAbAbAbAbAbAbAbAbAbAbAbAbAbAbAbAbAbAbAbAbA",
     "bAbAbAbAbAbAbAbAbAbAbAbAbAbAbAbAbAbAbAbAbAbAbAbAbAbAbAbAbAbAbAbAbAbAbAbAbAbAbAbAbAbAbAbAb",
     "AbAbAbAbAbAbAbAbAbAbAbAbAbAbAbAbAbAbAbAbAbAbAbAbAbAbAbAbAbAbAbAbAbAbAbAbAbAbAbAbAbAbAbAbA",
     "bAbAbAbAbAbAbAbAbAbAbAbAbAbAbAbAbAbAbAbAbAbAbAbAbAbAbAbAbAbAbAbAbAbAbAbAbAbAbAbAbAbAbAbAb",
     "AbAbAbAbAbAbAbAbAbAbAbAbAbAbAbAbAbAbAbAbAbAbAbAbAbAbAbAbAbAbAbAbAbAbAbAbAbAbAbAbAbAbAbAbA"]),
  (["lvt"],
    ["hgrBaBaBaBaBaBaBaBaBaBaBaBaBaBaBaBaBaBaBaBaBaBaBaBaBaBaBaBaBaBaBaBaBaBaBaBaBaBaBaBaBaBaBa",
     "BaBaBaBaBaBaBaBaBaBaBaBaBaBaBaBaBaBaBaBaBaBaBaBaBaBaBaBaBaBaBaBaBaBaBaBaBaBaBaBaBaBaBaBaB",
     "aBaBaBaBaBaBaBaBaBaBaBaBaBaBaBaBaBaBaBaBaBaBaBaBaBaBaBaBaBaBaBaBaBaBaBaBaBaBaBaBaBaBaBaBa",
     "BaBaBaBaBaBaBaBaBaBaBaBaBaBaBaBaBaBaBaBaBaBaBaBaBaBaBaBaBaBaBaBaBaBaBaBaBaBaBaBaBaBaBaBaB",
     "aBaBaBaBaBaBaBaBaBaBaBaBaBaBaBaBaBaBaBaBaBaBaBaBaBaBaBaBaBaBaBaBaBaBaBaBaBaBaBaBaBaBaBaBa",
     "BaBaBaBaBaBaBaBaBaBaBaBaBaBaBaBaBaBaBaBaBaBaBaBaBaBaBaBaBaBaBaBaBaBaBaBaBaBaBaBaBaBaBaBaB",
     "aBaBaBaBaBaBaBaBaBaBaBaBaBaBaBaBaBaBaBaBaBaBaBaBaBaBaBaBaBaBaBaBaBaBaBaBaBaBaBaBaBaBaBaBa",
     "BaBaBaBaBaBaBaBaBaBaBaBaBaBaBaBaBaBaBaBaBaBaBaBaBaBaBaBaBaBaBaBaBaBaBaBaBaBaBaBaBaBaBaBaB",
     "aBaBaBaBaBaBaBaBaBaBaBaBaBaBaBaBaBaBaBaBaBaBaBaBaBaBaBaBaBaBaBaBaBaBaBaBaBaBaBaBaBaBaBaBa"]),
  (["pp", "prepend"], ["gwBF3GAxBAgMBwCArjBAu7gCAPA0HB77BABA4HApCF8VA7NA"]),
  (["ri", "regionalindicator"], ["mv8DZ"]),
  (["sm", "spacingmark"],
    ["joCA3BACCIDBByBB7BBGBCB2BA6BCiCA6BCIABB1BB8BAGBCByDABBDCBC0BC9BD9BB6BABBBBCBBBnBAOB7BBFCB",
     "C1BBsCBGGTB_BA_DAqEB_BAxFAJBZBsBAw0BAeAhEAHHBB6KDCCEBBFgHB6BABAVFxEA2BABEBB9BAeAEBCA8BACC",
     "BADBwBHIBrFAVAr5iBBCA4CByBPuEBvBAwBBEBCCuDBCBYA9EACBFAtHBBBBBBAzgZABA_DAtBCEBzDAYB7BAwBCJ",
     "BNA9CCDBBAqFCfB7BABDCBCCUBxGCIBDArDBGABBBACAuHBGDCAxDCIBBAtDABBGAvDAlICJA4HEBBEACABAuECID",
     "EA0CAdB-BA3MAOAqDAHACA1GEEBBA-KBMAwBBIBBAvgU2BoDB0rYAGA"]),
  (["t"], ["otE3CruxBwB"]),
  (["v"], ["grEnCowxBW"]),
  (["zwj"], ["tgIA"])]

def sentence : Table := [
  (["at", "aterm"], ["uBA1_HAtx3BA7FA"]),
  (["cl", "close"],
    ["iBAECxBABAdABAtBAPA-zDD96BB7rCHZBKB2BBOB5TDdBwhBFHNvCBfJzMV_BDgBBigBNOBCJYASHrNJCHBC-ozBB",
     "3GBcPCBQFpFBxBABAdABABBBBy49BC"]),
  (["cr"], ["NA"]),
  (["ex", "extend"],
    ["gYvDzIGnIsBBABBBBBAoCKwBUQAlDGCFCBBDjBAea7CK6BIJAYDBIBCBErBC8BHqBXBgB2BCBRBGKBdC4BABGCBCC",
     "JAKBaACC4BABEEBCCDAeBDALC4BABHBCBCUBWFBC4BABGCBCCHCKBeA7BEDCBDJAoBE3BABGBCBDHBLBdC4BABGBC",
     "BDHBLBPAMD3BBBGBCBDJAKBdCmCAEFBABHSB9BACGMHiDACILGpCBbABABAEBxBTBBFKBjBJAkDTXDECBCCGDDNLB",
     "AKD_VCydDcCdBeBgCfJAtBCBA1DBiBA2DLEL7GE5BJBcCAwBexBEvBQmBIMCeM4BNwBT4ECBUEAGACCmG_BsQBiGg",
     "B-_CCtEAgDfqRFpDB0udDBJgBBwCBwIADAEAXEEAzCByBRaRNAmBHZMsBDvBNkBAjCNMAIBtBCyBABCCBFBBApBEF",
     "BsHHBBw5TAhXPQPuLB9SAiHA1EEm0BCBBFDoBCEAlFB9RDjMBwCCmCKxBD6DC1BOpBACBKDtBKHA9BCkBNQBsBAMC",
     "wBNIDBB8CLGACA9ELVD3BBBGCBCCJAKBCGDEgGRXAxCTrHGCIbByCQqDMlDOgIO1HFBBCDBABBtEGCGDAcJoBGBDI",
     "AJKuBP1MHBHyCVBN6DFDABBBGBAiCEBBBE7KDJBBAwBGDE9nFAGO60NE7BG4gBAB2BHDxCALBrlTBhzEtBCW-QEDF",
     "IHCGeD0EC79B2BExBIAOAWEBOwqBGBQCGBBBEkDAgFG3LA9BD8PDgfGtDG12lY_CgEvH"]),
  (["fo", "format"],
    ["tFAyqBFWAgGAxBAgMBwCAr5DA8_BACBaExBEBJv03BA5HChmEAPAi7IPgjiBDvmFHm0rYA"]),
  (["le", "oletter"],
    ["7NAEDwGAkBGGLaABAlEAkPA2DaEEsBqBjBBBiDBAPBHBKCCAQABdd4CLAYgBJBEAFVEAJADAXYHKFXBFRpB6B1BDA",
     "SAHJPPEHCBCVBGBADDDAQANBBCOBKAIFEBCVBGBBBBBBfDBATCQIBCBVBGBBBEDASAPBXALHCBCVBGBBBEDAeBBCP",
     "ARABFDCBDDBBABBDBDCDLWA0BHBCBWBPDAaCCACBeAEHBCBWBJBEDAfBBBPBRIBCBoBCAQAFCICYFFRDXBIBACG6B",
     "vBBBMG6BBBABEBXBABJBBJACEBAVDgBA_BHBjBbEzDqBUAQFEDDADBHCEMMAhCqBCrKBDCGBABDCoBBDCgBBDCGBA",
     "BDCOB4BBDCiClBPxDrTCQBZFqCDKHRNSOROMBCPzBjBAEAjC4CHEChBBAFlCKexBdCELrBEZ2BWJ0ByCA9CuBRH2B",
     "dNBKrBajBpBCKjBSqBCCpBDBFBBDA6hBDnCCCDn9C3BHAQWJGBGBGBGBGBGBGBGwCA1OCZIHECEE1CGCB5CBDFqBB",
     "9CRfwBPgQ_tGgCs0VjCtBCsIDPKBiCAQAgBvCnBIoDAGAnDADGBCBDBWdzBOxB-BFDABBLbKWZcHuBcAQEBJKEBoB",
     "XCBHUWDADxBBADBCECABAYCCKHCMFCFCFJGBGxEiBdj9KMWEwBkoItLCpDjCABJBMBEBABBBBBrDhBqLS_BC1BoBL",
     "0DEBmEpD3BCeDFCFCFCCjBLBZBSBBBOCNiB6DlC0BrIcDwBvBfNdFlBKdCjBEHBE6DtCiDnBIzB8E2JJVKHZB9DFC",
     "ABrBBBDACWKWJehCSBBKVKZmC3BGBgCAPDBCBcqBcDcjBHBbb1BKVKSNRuDoC3FjB8KpBGBuCcKAIVqBRuBUbWM0B",
     "5BBCANsBgBYajBdACAIiBDAMvBODVABAjBRBYTB_BGBABDBOBJHuBmBHCBCVBGBBBEDASAME-E0BSDUCevBUBBA4F",
     "uBpBDkBvBUA7BqBNAnCalBG5FrBzGHCACHBBBXPABA-CHCmBQABAcAKnBHAVALtBTASoCnIIBkBRAxBdwDGBBBlBV",
     "AZFBBBfOAnKSPABMBhB8DAvC5cmDuDRjGsyCgDPvhBRF59DmS5tI4RHeRuCRdSvBQDfUFSwbqCFAiCMgCBBAc3_FI",
     "1mBqBIn3IDBGBBBiJPAdCCAODIrMkoCqDFMDIHJwzIA1PsBKGQAhKdSrBkPb0XGBDBBBOBkGmEA0lBDBaBBBACABJ",
     "BDBABAGAEABABABCBBBACABABABABABBBACDBGBDBDBABJBQFCBEBQkqE_2pBgB5hEG9GCh0FOwpH_gD9QivBq6EF",
     "_iE"]),
  (["lf"], ["KA"]),
  (["lo", "lower"],
    ["hDZvBAKAEAkBXBHBABABABABABABABABABABABABABABABABABABABABABABABABABABABBBABABABABABABABBBA",
     "BABABABABABABABABABABABABABABABABABABABABABACABABCCABACADBEACADCCACABABACABBBACADABACBCCG",
     "ACACABABABABABABABABBBABABABABABABABABBCABADABABABABABABABABABABABABABABABABABABABABABABA",
     "BABABABABABABGCACBBAEABABABABkCBjBHBeEsEABADACDSAbiBBBDCBABABABABABABABABABABABEBACACBzBv",
     "BBABABABABABABABABABABABABABABABABAJABABABABABABABABABABABABABABABABABABABABABABABABABABA",
     "CABABABABABABBBABABABABABABABABABABABABABABABABABABABABABABABABABABABABABABABABABABABABAB",
     "ABABABABABABABABABABAwBoBz7CA7XFikCI3D_FhCABABABABABABABABABABABABABABABABABABABABABABABA",
     "BABABABABABABABABABABABABABABABABABABABABABABABABABABABABABABABABABABABABABABABABABABABAB",
     "ABABABABABABIBABABABABABABABABABABABABABABABABABABABABABABABABABABABABABABABABABABABABABA",
     "BABABABABABABABABABABIIFKHIHIFKHIHINCHIHIHIEBBGADCBBIDCBIHKCBB5DANAQMtDADBDAbAEAEACBIDEAh",
     "BPEAraZm6BvBBADBBABABAEABBBHDABABABABABABABABABABABABABABABABABABABABABABABABABABABABABAB",
     "ABABABABABABABABABABABABABABABABABABABBHABAEAMlBBAFAzoeABABABABABABABABABABABABABABABABAB",
     "ABABABABABATABABABABABABABABABABABABABClEABABABABABABCBABABABABABABABABABABABABABABABABAB",
     "ABABABABABABABABABABABABABJBABACABABABABAEABACABCBABABABABABABABABABAFAFABABABABABABABAEA",
     "BAGABABABABAYCBABC1ZqBBNGvCg6TGMEphBZtmBnBoEjB7EKBOBGBBjOACCBpBBIloByBt-CfgsVf6sZZaGBRaZa",
     "DBABGBKaZaZaZaZaZaZaZaZabcYBFaYBFaYBFaYBFaYBFBA05BJBTGFlI9B0lChB"]),
  (["nu", "numeric"],
    ["wBJmxBJBBjEJmGJ8MJ2DJ2DJ2DJ2DJ2DJ2DJ2DJ2DJ2DJgDJ2DJmCJ2IJmCJm6BJmBJsJJgEJmFJGJ2FJ2CJmEJGJ",
     "muiBJmVJmBJmGJWJ2CJ2MJ24UJmsBJmkCJsZJgEJ8BJwEJ2IJ2KJ2DJ2LJmDJmDJmNJmDJ2XJ2HJmCJmNJm4SJ2CJ",
     "mEJ0jbxBgqCJmNJ2PJ2iBJ20EJ"]),
  (["sc", "scontinue"], ["sBBMAipBAuFBqPApgEAFAqgCBs_DAuwzBBBAdBdBDACAKAoFBMApCA"]),
  (["se", "sep"], ["lEAi9HB"]),
  (["sp"], ["JABBTA_DA_uFA_rCKkBAvBAg9DA"]),
  (["st", "sterm"],
    ["hBAdApqBAzEC0FArBC2HA9BABADBlJBk3BB2YAEBlYAmGBsGAFA6JBiLDuFBCBdB8FBhCB8dBJCkvDANAWBtNA8nd",
     "AuIBjHADA-LB2CB_CA4EBzECwEB5HAqzUBpFAdAhCA03CB9nBEsBD9FB1DD_DChEBGAQB4CBBBsDAhNB1LBFOpDB5",
     "HClQABA7HB3CBkNB0VBqCBp5SBlEAhCBLAzaAmwTAovHA"]),
  (["up", "upper"],
    ["hCZlDWBGhBABABABABABABABABABABABABABABABABABABABABABABABABABABABACABABABABABABABACABABABA",
     "BABABABABABABABABABABABABABABABABABABABBBABADBBABBBCCDBBBCDBBBBABABBBACABBBCBABBDAHBBBBBB",
     "ABABABABABABABACABABABABABABABABACBBABCBABABABABABABABABABABABABABABABABABABABABABABABABA",
     "BABABABAHBBBCABDBABABABAhJABADAIAGABCBABBBQBIjBACCDABABABABABABABABABABABAFACABBCyBwBABAB",
     "ABABABABABABABABABABABABABABAJABABABABABABABABABABABABABABABABABABABABABABABABABABABBBABA",
     "BABABABACABABABABABABABABABABABABABABABABABABABABABABABABABABABABABABABABABABABABABABABAB",
     "ABABABABABABABAClBp6ClBBAFAyW1CqwCABABABABABABABABABABABABABABABABABABABABABABABABABABABA",
     "BABABABABABABABABABABABABABABABABABABABABABABABABABABABABABABABABABABABABABABABABABABABAB",
     "ABABAJABABABABABABABABABABABABABABABABABABABABABABABABABABABABABABABABABABABABABABABABABA",
     "BABABABABABABAJHIFKHIHIFLABABABAIHYHIHIHIELELDMELElIAEADCCCCADEGABABABDCDKBFAaPTAyZZw5BvB",
     "wBABCCABABABDBACAICBABABABABABABABABABABABABABABABABABABABABABABABABABABABABABABABABABABA",
     "BABABABABABABABABABABABABABAIABAEAtqeABABABABABABABABABABABABABABABABABABABABABABATABABAB",
     "ABABABABABABABABABABAnEABABABABABABADABABABABABABABABABABABABABABABABABABABABABABABABABAB",
     "ABABABABAKABABBBABABABAEABACABADABABABABABABABABABABEBEBABABABABABABABDBAGAFABAcAr5VZlmBn",
     "BoEjB8EKBOBGBBq3ByBt_CfgsVfgtZZaZaZaABBCACBCDBHaZaBBDCHBGbBBDBEBADGbZaZaZaZaZaZeYhBYhBYhB",
     "YhBYhBA1pEhBugCZGZGZ"])]

def word : Table := [
  (["cr"], ["NA"]),
  (["dq", "doublequote"], ["iBA"]),
  (["ex", "extendnumlet"], ["_CAv-HAPBTA-u3BBYCvHA"]),
  (["extend"],
    ["gYvDzIGnIsBBABBBBBAoCKwBUQAlDGCFCBBDjBAea7CK6BIJAYDBIBCBErBC8BHqBXBgB2BCBRBGKBdC4BABGCBCC",
     "JAKBaACC4BABEEBCCDAeBDALC4BABHBCBCUBWFBC4BABGCBCCHCKBeA7BEDCBDJAoBE3BABGBCBDHBLBdC4BABGBC",
     "BDHBLBPAMD3BBBGBCBDJAKBdCmCAEFBABHSB9BACGMHiDACILGpCBbABABAEBxBTBBFKBjBJAkDTXDECBCCGDDNLB",
     "AKD_VCydDcCdBeBgCfJAtBCBA1DBiBA2DLEL7GE5BJBcCAwBexBEvBQmBIMCeM4BNwBT4ECBUEAGACCmG_BsQAjGg",
     "B-_CCtEAgDfqRFpDB0udDBJgBBwCBwIADAEAXEEAzCByBRaRNAmBHZMsBDvBNkBAjCNMAIBtBCyBABCCBFBBApBEF",
     "BsHHBBw5TAhXPQPuLB9SAiHA1EEm0BCBBFDoBCEAlFB9RDjMBwCCmCKxBD6DC1BOpBACBKDtBKHA9BCkBNQBsBAMC",
     "wBNIDBB8CLGACA9ELVD3BBBGCBCCJAKBCGDEgGRXAxCTrHGCIbByCQqDMlDOgIO1HFBBCDBABBtEGCGDAcJoBGBDI",
     "AJKuBP1MHBHyCVBN6DFDABBBGBAiCEBBBE7KDJBBAwBGDE9nFAGO60NE7BG4gBAB2BHDxCALBrlTBhzEtBCW-QEDF",
     "IHCGeD0EC79B2BExBIAOAWEBOwqBGBQCGBBBEkDAgFG3LA9BD8PDgfGtDGw1CEghjY_CgEvH"]),
  (["fo", "format"], ["tFAyqBFWAgGAxBAgMBwCAr5DA__BBaExBEBJv03BA5HChmEAPAi7IPgjiBDvmFHm0rYA"]),
  (["hl", "hebrewletter"], ["wuBaEDqp9BABJBMBEBABBBBBJ"]),
  (["ka", "katakana"], ["xhMElDBD6CBDwHPwGuBB3CugzB3ByisBDBGBBBA_ICyBAOD"]),
  (["le", "aletter"],
    ["hCZGZvBAKAEAFWBeB_OGhBwDEBBCDBAGABCBABTByCBqEIlFBlBCDBABoBBAoDAsBqBjBBBiDBAPBHBKCCAQABdd4",
     "CLAYgBJBEAFVEAJADAXYHKFXBFRpB6B1BDASAHJPPEHCBCVBGBADDDAQANBBCOBKAIFEBCVBGBBBBBBfDBATCQIBC",
     "BVBGBBBEDASAPBXALHCBCVBGBBBEDAeBBCPARABFDCBDDBBABBDBDCDLWA0BHBCBWBPDAaCCACBeAEHBCBWBJBEDA",
     "fBBBPBRIBCBoBCAQAFCICYFFRDXBIBACG5JA_BHBjBbEzIlBBAFACqBBsKBDCGBABDCoBBDCgBBDCGBABDCOB4BBD",
     "CiClBPQ1CCFDrTCQBZFqCDKHRNSOROMBCvF4CHEChBBAFlCKehHWuHuBRH2BdNBKrBajBpBCKjBCIHqBCCpBDBFBB",
     "DAF_FgC1ICFClBCFCHBABABABeC0BBGBADCBGDDCFEMFCBG0DANAQMlDAEACJBADEGABABABDBKCDFEEARoBtZzB2",
     "4BkHGDDBMlBBAFAC3BHAQWJGBGBGBGBGBGBGBGwCA1OA1BBoGqBB9CRfgybskBjCtBCsIDPKBUuBQeCvCYiGFBBAB",
     "EYPBCBDBWdzBOxB-BFDABBLbKWZcHuBcAwBoBXCBH0EKHCMFCFCFJGBGB5BGyDdj9KMWEwBk4IGME4BhDhBqLS_BC",
     "1BoBL0DEBmEkBZGZlCeDFCFCFCCjBLBZBSBBBOCNiB6DlC0BrIcDwBvBfNdFlBKdCjBEHBEqB9ESjBEjBEnBIzBMK",
     "BOBGBBBKBOBGBBjC2JJVKHYFBpBBIlCFCABrBBBDACWKWJehCSBBKVKZmC3BGBgCAPDBCBcqBcDcjBHBbb1BKVKSN",
     "RuDoC3ByBNyBNjB8KpBGBuCcKAIVqBRuBUbWM0B5BBCANsBgBYajBdACAIiBDAMvBODVABAjBRBYTB_BGBABDBOBJ",
     "HuBmBHCBCVBGBBBEDASAME-E0BSDUCevBUBBA4FuBpBDkBvBUA7BqBNAnKrB0D_BfHCACHBBBXPABA-CHCmBQABAc",
     "AKnBHAVALtBTASoCnIIBkBRAxBdwDGBBBlBVAZFBBBfOAnKSPABMBhB8DAvC5cmDuDRjGsyCgDPvhBRF59DmS5tI4",
     "RHeRuCRdSvBQDfUFSwV_BgEqCFAiCMgCBBA8gTqDFMDIHJm7F0CBmCBBCACBCDBLBABGBgCBDCHBGBbBDBEBADGBz",
     "KCYBYBeBYBeBYBeBYBeBYBH05BeGFlI9ByEsBKGQAhKdSrBkPb0XGBDBBBOBkG7BjCHA0lBDBaBBBACABJBDBABAG",
     "AEABABABCBBBACABABABABABBBACDBGBDBDBABJBQFCBEBQ0TZGZGZ"]),
  (["lf"], ["KA"]),
  (["mb", "midnumlet"], ["uBAp_HBKAtx3BA0FAGA"]),
  (["ml", "midletter"], ["6BA8DAvWA3OA0EAyxGArv3BAhCAkGA"]),
  (["mn", "midnum"], ["sBAOAiaAqQAiEB-CArMAriGAru3BADA7BADA3FAOA"]),
  (["nl", "newline"], ["LB4DAi9HB"]),
  (["nu", "numeric"],
    ["wBJmxBJBAkEJmGJ8MJ2DJ2DJ2DJ2DJ2DJ2DJ2DJ2DJ2DJgDJ2DJmCJ2IJmCJm6BJmBJsJJgEJmFJGJ2FJ2CJmEJGJ",
     "muiBJmVJmBJmGJWJ2CJ2MJ24UJmsBJmkCJsZJgEJ8BJwEJ2IJ2KJ2DJ2LJmDJmDJmNJmDJ2XJ2HJmCJmNJm4SJ2CJ",
     "mEJ0jbxBgqCJmNJ2PJ2iBJ20EJ"]),
  (["ri", "regionalindicator"], ["mv8DZ"]),
  (["sq", "singlequote"], ["nBA"]),
  (["wsegspace"], ["gBA_yFA_rCGBC0CAg9DA"]),
  (["zwj"], ["tgIA"])]

end PagedFind.Unicode
