import PagedFind.Unicode.CharSet

namespace PagedFind.Unicode

/-- The general categories of assigned characters, surrogates apart. -/
def category : Table := [
  (["lu", "uppercaseletter"],
    ["hCZlDWBGhBABABABABABABABABABABABABABABABABABABABABABABABABABABABACABABABABABABABACABABABA",
     "BABABABABABABABABABABABABABABABABABABABBBABADBBABBBCCDBBBCDBBBBABABBBACABBBCBABBDAHACACAC",
     "ABABABABABABABACABABABABABABABABACACABCBABABABABABABABABABABABABABABABABABABABABABABABABA",
     "BABABABAHBBBCABDBABABABAhJABADAIAGABCBABBBQBIjBACCDABABABABABABABABABABABAFACABBCyBwBABAB",
     "ABABABABABABABABABABABABABABAJABABABABABABABABABABABABABABABABABABABABABABABABABABABBBABA",
     "BABABABACABABABABABABABABABABABABABABABABABABABABABABABABABABABABABABABABABABABABABABABAB",
     "ABABABABABABABAClBp6ClBBAFAyW1CzkCAGqBCCgKABABABABABABABABABABABABABABABABABABABABABABABA",
     "BABABABABABABABABABABABABABABABABABABABABABABABABABABABABABABABABABABABABABABABABABABABAB",
     "ABABABABABABAJABABABABABABABABABABABABABABABABABABABABABABABABABABABABABABABABABABABABABA",
     "BABABABABABABABABABABAJHIFKHIHIFLABABABAIHoCDMDMDMELDmIAEADCCCCADEGABABABDCDKBFA9BA8zCvBw",
     "BABCCABABABDBACAICBABABABABABABABABABABABABABABABABABABABABABABABABABABABABABABABABABABAB",
     "ABABABABABABABABABABABABABAIABAEAtqeABABABABABABABABABABABABABABABABABABABABABABATABABABA",
     "BABABABABABABABABABAnEABABABABABABADABABABABABABABABABABABABABABABABABABABABABABABABABABA",
     "BABABABAKABABBBABABABAEABACABADABABABABABABABABABABEBEBABABABABABABABDBABBDAFABABABAYAr5V",
     "ZlmBnBoEjB8EKBOBGBBq3ByB9EV65CfgsVfgtZZaZaZaABBCACBCDBHaZaBBDCHBGbBBDBEBADGbZaZaZaZaZaZeY",
     "hBYhBYhBYhBYhBA1pEhB"]),
  (["ll", "lowercaseletter"],
    ["hDZ6BApBXBHBABABABABABABABABABABABABABABABABABABABABABABABABABABABBBABABABABABABABBBABABA",
     "BABABABABABABABABABABABABABABABABABABABACABABCCABACADBEACADCCACABABACABBBACADABACBCCGACAC",
     "ABABABABABABABABBBABABABABABABABABBCABADABABABABABABABABABABABABABABABABABABABABABABABABA",
     "BABABABABGCACBBAEABABABABkCBahGABADADCSAbiBBBDCBABABABABABABABABABABABEBACACBzBvBBABABABA",
     "BABABABABABABABABABABABABAJABABABABABABABABABABABABABABABABABABABABABABABABABABACABABABAB",
     "ABABBBABABABABABABABABABABABABABABABABABABABABABABABABABABABABABABABABABABABABABABABABABA",
     "BABABABABABAwBoBn6CqBCC4XFikCIBA1DrB_BMBhBmDABABABABABABABABABABABABABABABABABABABABABABA",
     "BABABABABABABABABABABABABABABABABABABABABABABABABABABABABABABABABABABABABABABABABABABABAB",
     "ABABABABABABABIBABABABABABABABABABABABABABABABABABABABABABABABABABABABABABABABABABABABABA",
     "BABABABABABABABABABABABIIFKHIHIFKHIHINCHIHIHIEBBGADCBBIDCBIHKCBByIADBDAbAEAEACBIDEA1BAr1C",
     "vBBADBBABABAEABBBFFABABABABABABABABABABABABABABABABABABABABABABABABABABABABABABABABABABAB",
     "ABABABABABABABABABABABABABABBHABAEAMlBBAFAzoeABABABABABABABABABABABABABABABABABABABABABAB",
     "ATABABABABABABABABABABABABABAnEABABABABABABCBABABABABABABABABABABABABABABABABABABABABABAB",
     "ABABABABABABABABABHBABACABABABABAEABACABCBABABABABABABABABABAFAFABABABABABABABAEABACADABA",
     "BABABABAaADA1ZqBFIHvCg6TGMEphBZtmBnBoEjB7EKBOBGBBj4ByB9DV65CfgsVf6sZZaGBRaZaDBABGBKaZaZaZ",
     "aZaZaZaZaZabcYBFaYBFaYBFaYBFaYBFBA05BJBTGF3vChB"]),
  (["lt", "titlecaseletter"], ["lOACACAmBA1sHHIHIHMAPAvBA"]),
  (["lm", "modifierletter"],
    ["wVRELOEHABAlEAFA-OAmHAkFBtIBEAfAJADAgFAnFA0mBA_DA1RA62BArDAjTAwOFuF-BNAiBkBxVANAQM_-CBxHA",
     "_FA1OArBEFAhDB9CC24bAinBFuIAyDAcB5DIwCAXApDCDB1OAWApEAsDAVBnDDJAmgVAtBBg_BFBpBBIzsBAgBAwu",
     "XD8PCoBBmRMgCBBAsgQDBGBBxhM9BpGGtdA_iBA"]),
  (["lo", "otherletter"],
    ["qFAPAgIAEDwGA7ZaEDtBfBJjBBBiDBAYBKCCAQABdd4CLAYgBVVqBYHKFXBFRoB7B1BDASAHJQOEHCBCVBGBADDDA",
     "QANBBCOBKAIFEBCVBGBBBBBBfDBATCQIBCBVBGBBBEDASAPBXALHCBCVBGBBBEDAeBBCPARABFDCBDDBBABBDBDCD",
     "LWA0BHBCBWBPDAaCCACBeAEHBCBWBJBEDAfBBBPBRIBCBoBCAQAFCICYFFRDXBIBACG6BvBBBMF7BBBABEBXBABJB",
     "BJACEXDgBA_BHBjBbEzDqBUAQFEDDADBHCEMMAxDoKBDCGBABDCoBBDCgBBDCGBABDCOB4BBDCiClBPxDrTCQBZFq",
     "CGHHRNSOROMBCPzBoBAjCiBB0BHEChBBAFlCKexBdCELrBEZ2BWJ0BwFuBRH2BdNBKrBajBpBCKdxDDBFBBDA6hBD",
     "3_C3BYWJGBGBGBGBGBGBGBGnRA1BAE1CIAB5CEAFqBB9CRfwBPgQ_tGgC0wUB2jBjCnBIrIEPKBiCAxBlCpFAnDAD",
     "GBCBDBWdzBOxB-BFDABBLbKWZcHuBtBECIKEBoBXCBHUPBFDADxBBADBCECABAYBDKHAOFCFCFJGBGxEiBdj9KMWE",
     "wBkoItLCpDjCABJBMBEBABBBBBrDhBqLS_BC1BoBL0DEBmEpDJBsBCeDFCFCFCCjBLBZBSBBBOCNiB6DlMcDwBvBf",
     "NTBHGlBKdCjBEHgEtCiDnBIzB8CzBM2JJVKH4EFCABrBBBDACWKWJehCSBBKVKZmC3BGBgCAPDBCBcqBcDcjBHBbb",
     "1BKVKSNRuDoC3FjBmBDBAwJpBGBQC7BcKAIVqBRuBUbWM0B5BBCANsBgBYajBdACAIiBDAMvBODVABAjBRBYTB_BG",
     "BABDBOBJHuBmBHCBCVBGBBBEDASAMEeJBACABlBBAZABAsB0BSDUCevBUBBA4FuBpBDkBvBUA7BqBNAnCalBG5FrB",
     "zGHCACHBBBXPABA-CHCmBQABAcAKnBHAVALtBTASoCnGgBfIBkBRAxBdwDGBBBlBVAZFBBBfOAnKSPABMBhB8DAvC",
     "5cmHjGsyCgDPvhBRFZ68DFmS51Gdi3B4RHeRuCRdSvBzBUFSzNnB1MqCFAvF3_FI1mBpBJ33IiJPAdCCAODIrMkoC",
     "qDFMDIHJwzIA1PsBhBAhKdSrBkPalHdCAvPGBDBBBOBkG7pBDBaBBBACABJBDBABAGAEABABABCBBBACABABABABA",
     "BBBACDBGBDBDBABJBQFCBEBQkqE_2pBgB5hEG9GCh0FOwpHPtTitC9QivBq6EF_iE"]),
  (["mn", "nonspacingmark"],
    ["gYvDzIEpIsBBABBBBBAoCKwBUQAlDGCFCBBDjBAea7CK6BIJAYDBIBCBErBC7BIqBXBf3BABAEHEADGKBdA6BAEDI",
     "AUBaACB5BAEBEBCCDAeBDALB5BAEEBBEAUBWFBA6BACABDIAHBLBeA9BAMAyBADA3BABCFCBDHBLBdA6BACAGAFBU",
     "BcB5BBEDIAUBdAoCAHCBA6CACGMHiDACILGpCBbABABA3BNBEBBFKBjBJAmDDBFBBCBZBECQDNACBGAPA_VCydCdB",
     "eBeBgCBBGIACKJAtBCBA1DBiBA2DCEBJAGC7GBCA6BABGBABACHGJCAwBNBPxBDwBABEBAFAoBIMBgBDCBBC4BABB",
     "DABC6BHCB4ECBMBGEAGADBmG_BwWMEADL-_CCtEAgDfqRDrDB0udAEJgBBwCBwIADAEAZBFA3EBaRNAmBHZKuBCwB",
     "ACDCBnBAjCFCBCBMAIAvBAzBABCCBFBBAqBBIAuHACAEAw5TAhXPQPteAiHA1EEm0BCBBFDoBCEAlFB9RDhCE9JBv",
     "CDmCKxBD7DA2BOpBACBKCxBDCBHA9BCkBEBH-BAMB0BIKDCA_CCCABBGACA9EADHVB5BBDAlBGDEmCFNABABAOB1C",
     "HCCBAXA0CFBAEBBBuHDGBBBbB1CHCABBqDABACFBAlDCCDBEjIIBBgIBBAEAwEDCBEAgBJoBFCDIAJFCCuBMBB2MG",
     "BFBAyCVCGBBBB6DFDABBBGBAoCBDABA7KBLB0BEFABAXAlnFAGOomLLDCguCE7BG4gBA_BDxCA4lTBhzEtBCWgRCR",
     "HCGeD0EC79B2BExBIAOAWEBOwqBGBQCGBBBEkDAgFG3LA9BD8PD-HBgXGtDG19lYvH"]),
  (["mc", "spacingmark"],
    ["joCA3BACCIDBByBB6BCGBCBKArBA6BCiCA6BCIABB1BB6BABAGBCBKAmDBBBDCBCKApBC9BD9BB6BABECBBBJBcAO",
     "B6BCFCBCKAqBBrCCGHSBqKB_BArFBEAGACBZBKCCGVBCFCAKC4zBAeAhEAHHBB6KDCCEBBFgHB6BABAJABBIFxEAw",
     "BAFABEBB9BAeAEBCA8BACCBADBwBHIBrFAVA25EBz_dBCA4CByBPuEBvBAwBBEBCCuDBCBYAtBABAtDACBFAtHBBB",
     "BBBAzgZABA_DAtBCEBzDAYB7BAwBCJBNA9CCDBBAqFCfB6BBBDCBCCJAKB0CCHACABDBBBAlDCIBDAqDCGABDCAtH",
     "CGDCAxDCIBBAtDABBGApDBEAlICJA3HFBBEACABAuECIDEA0CAdB-BA3MAOAqDAHACA1GEEBBA-KBMAwBBIBBAovQ",
     "CkxD2BoDBzrYBGF"]),
  (["me", "enclosingmark"], ["okBB0xFA-wBDBCrshBC"]),
  (["nd", "decimalnumber", "digit"],
    ["wBJmxBJmEJmGJ8MJ2DJ2DJ2DJ2DJ2DJ2DJ2DJ2DJ2DJgDJ2DJmCJ2IJmCJm6BJmBJsJJgEJmFJGJ2FJ2CJmEJGJmu",
     "iBJmVJmBJmGJWJ2CJ2MJ24UJmsBJmkCJGJ8YJgEJ8BJwEJ2IJ2KJ2DJ2LJmDJGTsCJmNJmDJ2UJ2CJ2HJmCJmNJ2u",
     "QJmpCJ2CJmEJ2QJ27XJ02CxBgqCJmNJ2PJ3HJ1aJ20EJ"]),
  (["nl", "letternumber"], ["u3FCvzCiBCD-zDAZIOCr1dJwyW0BsOAIAmEEqhIuD"]),
  (["no", "othernumber"],
    ["yFBFACC1pCF4LF4DClEG5GGRIxNJ1hBTzjBJgPA10BADFGJmGPpBA2W7BuCV2TdprBA0kBDqEJeHBOgBJnBOwrdFx",
     "mWsBhCDRB1KakBD0pBHZGnBIrCEWFgFBCPCtBgCI0BBeCrCEoDHYHpBGqKFgLe-EJqBDwDGmET7LTlqBBuNInbSza",
     "Um8SG-YWphZTMTsDYuqFIhd6BBCBDsCsBBOieM"]),
  (["pc", "connectorpunctuation"], ["_CA_-HBTA-u3BBYCvHA"]),
  (["pd", "dashpunctuation"],
    ["tBA8qBAzBAhyDAlgBApgCFhwDACAfBEAcA-NATAvDAwszBBlBAKApFAgzDA-JA"]),
  (["ps", "openpunctuation"],
    ["oBAyBAfA-1DABA-6BA-rCADAmBA3BAPA6TABAeA-hBABABABABABABAwCAgBABABABABA0MABABABABABABABABAB",
     "ABAgCABAhBAlhBABABABAZASABABABAsNABABABABADABABABACAhpzBA3GAdABABABABABABABADARABABAqFAyB",
     "AfADACA"]),
  (["pe", "closepunctuation"],
    ["pBAzBAfA91DABA-6BAptCA3BAPA6TABAeA-hBABABABABABABAwCAgBABABABABA0MABABABABABABABABABABAgC",
     "ABAhBAlhBABABABAsBABABABAsNABABABABADABABABACB-ozBA5GAdABABABABABABABADARABABAqFAzBAfACAC",
     "A"]),
  (["pi", "initialpunctuation"], ["rFAs7HACBCAZAouDABAEACAPADA"]),
  (["pf", "finalpunctuation"], ["7FA96HADAcAouDABAEACAPADA"]),
  (["po", "otherpunctuation"],
    ["hBCBCCABABBKBDBbAkCAFAOBHA-VAIAyOFpBA2BACACAsBBUBBBNABCqCDmDArBNpHC2BOfAlIBKAsEA4DA5DAmMA",
     "MAvLA6CAKBoFOBAwDAqCEEBvDFrFAkTIlYA8DCnCB9ECBClBFBD5JB4GBgEGBFgFBKGcC8DD7BE-BBgCHLAiaBIHI",
     "ICDCCDKBABJ6kDDBBwDAvEBECCACIBBBACBKEBJCDBABMCCsNC5BA9FAigdBtICjDAKAzDF8LD2CBoBCBAxBBvBAh",
     "DMQB8DD-DBQB5HAkxUGCAWAUBCDDCBDHCGABB1ECBCCABABBKBDBbAkBACB6MC8UAwBA-MAnXAnGAfAwIImBAwDGi",
     "CG5CD4dEsBD9FGtDBBD-DDwBBvCDEANABC4CFrDAqJBBByDEKBBAoDA6HWpDCcMsCAiEC8HAoIC7EA8CHzCCBE9CJ",
     "3GA_CEqBBlUBqCMvFAwjBE87CB7zOBlEAhCEIAoRCnJDnKA8lTAnvHEz7CA-aB"]),
  (["sm", "mathsymbol"],
    ["rBAQC9BABAtBAEAlBAfA-XAvQC7xGANAnBCNCrEAnBEGAkCEFBEACACAHAfBCABAfrIgBB6CAeYoBF1OAJA2BHvDA",
     "wKECeKPgIiEW-BEfChIwBUCF8-zBA4ZABCkFAQC9BABAjEAGDhtDBxpyBAZAfAZAfAZAfAZAfAZAs5FB"]),
  (["sc", "currencysymbol"],
    ["kBA9DDpnBA7DAyPByPBHA1HAnIAlSA7sCAkmCgB37hBAjuVAsDA6EA7GBDB2_HD-4wBAwtCA"]),
  (["sk", "modifiersymbol"],
    ["-CABAnCAGAEADApQDMNFGBABQ1DAOBioBA05FABCLCNCNCNB8kEBjzdWJBnDBweAOBmiUQ7bABAiFA3g9BE"]),
  (["so", "othersymbol"],
    ["mFACAEABAxeAqIB_DBuGAKATB3HAjQA1LAiEFBAkEAvGApBAnMCPABCCFUABABAlEHBFBBFDlGBwXJzWAyWA9EhBh",
     "LJJIjsBBBDBBKABBGFBABABAEALBOABBBA6BBJECDBBBBBGBeCBBABesIHETCGCwCBdZnBGnCWKxCtCW2FBIB1BIu",
     "DB3HsBrBgC_HgQvBVBGmBCfBoDlHFlLBuBZB4CM1GaPEANBMAVBGBwKBEJgBlBJAQeLdIAPfKmBP_JguG_Bw0V2Bh",
     "bDKBBA9RCm2UP_DAtBCkPADAEBNB5JI5BQCCBMDAvBsB6zBBvSA2jDA1kCHEQq6SDFA2qUAj7DvHQzN8EzD8B1HKm",
     "BC7BFCWBHdE8BVhCDA6F2CplB_P3BDyBHBNBBo2BA86CAhEAxWrBEjDMOCOBOBkBXgF4BcNrBEIHBOF6E6HF3WEQD",
     "MD2DE-CGLEAPLE3BIJGnBIdCLEB-BzKMNCMDJF3BHOCKGIHyEB7C"]),
  (["zs", "spaceseparator"], ["gBA_DA_uFA_rCKkBAvBAg9DA"]),
  (["zl", "lineseparator"], ["ohIA"]),
  (["zp", "paragraphseparator"], ["phIA"]),
  (["cc", "control", "cntrl"], ["Af_CgB"]),
  (["cf", "format"],
    ["tFAyqBFWAgGAxBAgMBwCAr5DA8_BEaExBEBJv03BA5HChmEAPAi7IPgjiBDvmFHm0rYAe_C"]),
  (["co", "privateuse"], ["gg4B_nGg4hc9__BC9__B"])]

end PagedFind.Unicode
