/-
# General categories

Each assigned character belongs to one category.  The table lists the categories under
their short and long names with the characters they hold; what is in none of them is
unassigned.
-/
import BotKeeper.Unicode.Ranges

namespace BotKeeper.Unicode

/-- The assigned categories and their characters. -/
def categoryTable : List (List String × String) := [
  (["cc", "control", "cntrl"],
    "A-c-bA"),
  (["cf", "format"],
    "fNAbkSFWAgAAbRAmABcQAdzLAb58E6EbREBJbxuPAhZCegBAPAi1CPbcdADfgPHyluGA+c-"),
  (["co", "privateuse"],
    "byaAgh-2byAb559Cb559"),
  (["cs", "surrogate"],
    "bwaAb5-"),
  (["ll", "lowercaseletter"],
    "dBZb6AbJXBHBABABABABABABABABABABABABABABABABABABABABABABABABABABABBBABABABABABABABBBABABA" ++
    "BABABABABABABABABABABABABABABABABABABABACABABCCABACADBEACADCCACABABACABBBACADABACBCCGACAC" ++
    "ABABABABABABABABBBABABABABABABABABBCABADABABABABABABABABABABABABABABABABABABABABABABABABA" ++
    "BABABABABGCACBBAEABABABABcEB6gBABADADCSA7bCBBDCBABABABABABABABABABABABEBACACBbTbPBABABABA" ++
    "BABABABABABABABABABABABABAJABABABABABABABABABABABABABABABABABABABABABABABABABABACABABABAB" ++
    "ABABBBABABABABABABABABABABABABABABABABABABABABABABABABABABABABABABABABABABABABABABABABABA" ++
    "BABABABABABAbQbIc0HbKCCxYFceCIdXbLb-MBbBdGABABABABABABABABABABABABABABABABABABABABABABABA" ++
    "BABABABABABABABABABABABABABABABABABABABABABABABABABABABABABABABABABABABABABABABABABABABAB" ++
    "ABABABABABABIBABABABABABABABABABABABABABABABABABABABABABABABABABABABABABABABABABABABABABA" ++
    "BABABABABABABABABABABIIFKHIHIFKHIHINCHIHIHIEBBGADCBBIDCBIHKCBBiSADBDA7AEAEACBIDEAbVAcvLbP" ++
    "BADBBABABAEABBBFFABABABABABABABABABABABABABABABABABABABABABABABABABABABABABABABABABABABAB" ++
    "ABABABABABABABABABABABABABBHABAEAMbFBAFA4iTABABABABABABABABABABABABABABABABABABABABABABAT" ++
    "ABABABABABABABABABABABABABAeHABABABABABABCBABABABABABABABABABABABABABABABABABABABABABABAB" ++
    "ABABABABABABABABHBABACABABABABAEABACABCBABABABABABABABABABAFAFABABABABABABABAEABAGABABABA" ++
    "BA8ADAzVbKFIHcPt0AGMEbbJZbgNbHeIbDe7KBOBGBBbyDbSc4N-vmA-zm6Z6GBR6Z6DBABGBK6Z6Z6Z6Z6Z6Z6Z6" ++
    "Z678YBF6YBF6YBF6YBF6YBFBAbzUJBTGFcpXbB"),
  (["lm", "modifierletter"],
    "vQRELOEHABAeFAFAo+AhGAfEBiNBEA-AJADAfAAfHAbgUAd-ArVAbw6AdLAtDAoQFfOb+NAbCbEvRANAQMc4-BhRA" ++
    "f-AoVAbLEFAdBBc9C1yWAbhCFiOAdSA8BdZIcQAXAdJCDBoVAWAeJAdMAVBdHDJAvaGAbNBb5AFBbJBIy2FDbcPMc" ++
    "ABBAqaMDBGBBmbRb9gJG3NAbc-A"),
  (["lo", "otherletter"],
    "fKAPAiAAEDgQAz76EDbN-BJbDBBdCBAYBKCCAQAB99cYLAYbAVVbKYHKFXBFRbIb7bVDASAHJQOEHCBCVBGBADDDA" ++
    "QANBBCOBKAIFEBCVBGBBBBBB-DBATCQIBCBVBGBBBEDASAPBXALHCBCVBGBBBEDA+BBCPARABFDCBDDBBABBDBDCD" ++
    "LWAbUHBCBWBPDA6CCACB+AEHBCBWBJBEDA-BBBPBRIBCBbICAQAFCICYFFRDXBIBACGb6bPBBMFb7BBABEBXBABJB" ++
    "BJACEXDbAAb-HBbD7EdTbKUAQFEDDADBHCEMMAdRkIBDCGBABDCbIBDCbABDCGBABDCOBbYBDCcCbFPdRtLCQBZFc" ++
    "KGHHRNSOROMBCPbTbIAcDbCBbUHECbBBAFcFK+bR9CELbLEZbWWJbUfQbORHbW9NBKbL6bDbJCK9dRDBFBBDAbb6D" ++
    "c5XbXYWJGBGBGBGBGBGBGBGrHAbVAEcVIABcZEAFbKBc9R-bQPqAgn-cAuqUBbdWcDbHIiLEPKBcCAbRcFfJAdHAD" ++
    "GBCBDBW9bTObRb+FDABBL7KWZ8HbObNECIKEBbIXCBHUPBFDADbRBADBCECABAYBDKHAOFCFCFJGBGeRbC9k3DMWE" ++
    "bQiiElNCdJcDABJBMBEBABBBBBdLbBlKSb-CbVbILdUEBeGdJJBbMC+DFCFCFCCbDLBZBSBBBOCNbCd6mF8DbQbP-" ++
    "NTBHGbFK9CbDEHeAcNdCbHIbTe8jWJVKHeYFCABbLBBDACWKWJ+cBSBBKVKZcGbXGBcAAPDBCB8bK8D8bDHB77bVK" ++
    "VKSNRdOcIfXbDk8bJGBcO8KAIVbKRbOU7WMbUbZBCANbMbAY6bD9ACAIbCDAMbPODVABAbDRBYTBb-GBABDBOBJHb" ++
    "ObGHCBCVBGBBBEDASAMEe+bUSDUC+bPUBBAfYbObJDbEbPUAb7bKNAcH6bFGfZbLgTHCACHBBBXPABAc+HCbGQABA" ++
    "8AKbHHAVALbNTAScIiHIBbERAbR9dQGBBBbFVAZFBBB-OAkHSPABMBbBd8AcP2ZhGgDcsMdAPbbPRFd3ZsGinZrYH" ++
    "+RcOR9SbPbTUFS1QcKFAfPf5XIbgVbKIixXjCPA9CCAODImLciEdKFMDIHJitQApVbMbBAkB9SbLpE6xVGBDBBBOB" ++
    "gEbj7DB6BBBACABJBDBABAGAEABABABCBBBACABABABABABBBACDBGBDBDBABJBQFCBEBQekEbjw-bAebZGg9CfuB" ++
    "OhjQda-q9bpCe0KFec-"),
  (["lt", "titlecaseletter"],
    "oFACACAbGAhmVHIHIHMAPAbPA"),
  (["lu", "uppercaseletter"],
    "cBZdFWBGbBABABABABABABABABABABABABABABABABABABABABABABABABABABABACABABABABABABABACABABABA" ++
    "BABABABABABABABABABABABABABABABABABABABBBABADBBABBBCCDBBBCDBBBBABABBBACABBBCBABBDAHACACAC" ++
    "ABABABABABABABACABABABABABABABABACACABCBABABABABABABABABABABABABABABABABABABABABABABABABA" ++
    "BABABABAHBBBCABDBABABABAjBABADAIAGABCBABBBQBIbDACCDABABABABABABABABABABABAFACABBCbSbQABAB" ++
    "ABABABABABABABABABABABABABABAJABABABABABABABABABABABABABABABABABABABABABABABABABABABBBABA" ++
    "BABABABACABABABABABABABABABABABABABABABABABABABABABABABABABABABABABABABABABABABABABABABAB" ++
    "ABABABABABABABACbFc0JbFBAFAwScVce6bKCCkAABABABABABABABABABABABABABABABABABABABABABABABABA" ++
    "BABABABABABABABABABABABABABABABABABABABABABABABABABABABABABABABABABABABABABABABABABABABAB" ++
    "ABABABABABAJABABABABABABABABABABABABABABABABABABABABABABABABABABABABABABABABABABABABABABA" ++
    "BABABABABABABABABABAJHIFKHIHIFLABABABAIHcIDMDMDMELDiGAEADCCCCADEGABABABDCDKBFAb9Act8bPbQA" ++
    "BCCABABABDBACAICBABABABABABABABABABABABABABABABABABABABABABABABABABABABABABABABABABABABAB" ++
    "ABABABABABABABABABABABABAIABAEA4kNABABABABABABABABABABABABABABABABABABABABABABATABABABABA" ++
    "BABABABABABABABABAeHABABABABABABADABABABABABABABABABABABABABABABABABABABABABABABABABABABA" ++
    "BABABAKABABBBABABABAEABACABADABABABABABABABABABABEBEBABABABABABABABDBAGAFABA8AvzLZbgFbHeI" ++
    "bDe8KBOBGBBbxKbSc5N-vmA-znAZ6Z6Z6ABBCACBCDBH6Z6BBDCHBG7BBDBEBADG7Z6Z6Z6Z6Z6Z+YbBYbBYbBYbB" ++
    "YbBAejVbB"),
  (["mc", "spacingmark"],
    "ciDAbXACCIDBBbSBb6CGBCBKAbLAb6CcCAb6CIABBbVBb6ABAGBCBKAdGBBBDCBCKAbJCb9Db9Bb6ABECBBBJB8AO" ++
    "Bb6CFCBCKAbKBcLCGHSBkKBb-AfLBEAGACBZBKCCGVBCFCAKCbtYA+AeBAHHBBk6DCCEBBFhABb6ABAJABBIFeRAb" ++
    "QAFABEBBb9A+AEBCAb8ACCBADBbQHIBfLAVAezWB35TBCAcYBbSPeOBbPAbQBEBCCdOBCBYAbNABAdNACBFAhNBBB" ++
    "BBBAzaTABAd-AbNCEBdTAYBb7AbQCJBNAc9CDBBAfKC-Bb6BBDCBCCJAKBgRCIBDAdKCGABDCAhNCGDCAdRCIBBAd" ++
    "NABBGAdJBEAiFCJAhXFBBEACABAeOCIDEAcUA9Bb+AmXAOAdKAHACAgVEEBBAk+BMAbQBIBBAuaPbWdIBylTBGF"),
  (["me", "enclosingmark"],
    "beIBfrUAbq+DBCbbmLC"),
  (["mn", "nonspacingmark"],
    "yAdPiTEiJbMBABBBBBAcIKbQUQAdFGCFCBBDbDA+6c7Kb6IJAYDBIBCBEbLCb8HbKXB-bXABAEHEADGKB9Ab6AEDI" ++
    "AUB6ACBbZAEBEBCCDA+BDALBbZAEEBBEAUBWFBAb6ACABDIAHBLB+Ab9AMAbSADAbXABCFCBDHBLB9Ab6ACAGAFBU" ++
    "B8BbZBEDIAUB9AcIAHCBAc6ACGMHdCACILGcJB7ABABAbXNBEBBFKBbDJAdGDBFBBCBZBECQDNACBGAPAv-C3SC9B" ++
    "+B+BcABBGIACKJAbNCBAdVBbCAdWCEBJAGCg7BCAb6ABGBABACHGJCAbQNBPbRDbQABEBAFAbIIMBbADCBBCbYABB" ++
    "DABCb6HCBeYCBMBGEAGADBgGb-wQMEADLc5+CeNAdA-rKDdLB3oUAEJbABcQBiQADAEAZBFAeXB6RNAbGHZKbOCbQ" ++
    "ACDCBbHAcDFCBCBMAIAbPAbTABCCBFBBAbKBIAhOACAEAtzQAxBPQP4NAhCAeVEbuGCBBFDbICEAfFBr9DmDBcQCc" ++
    "GKbRDd7AbWObJACBKCbRDCBHAb9CbEEBHb+AMBbUIKDCAc-CCABBGACAe9ADHVBbZBDAbFGDEgDHCCBAXAcUFBAEB" ++
    "BBhODGBBB7BcVHCABBdKABACFBAdFCCDBEiDIBBiABBAEAeQDCBEAbAJbIFCDIAJFCCbOMBBmWGBFBAcSVCGBBBBd" ++
    "6FDABBBGBAcIBDABAk7BLBbUEFABAfh9AGOnu6Eb7GbaYAb-DcRAtfYBetBbNCWrACRHCG+DeUCb37bWEbRIAOAWE" ++
    "BObkQGBQCGBBBEdEAfAGlXAb9Dp8D5AGdNGyf3VhP"),
  (["nd", "decimalnumber", "digit"],
    "bQJbrGJeGJgGJm8JdWJdWJdWJdWJdWJdWJdWJdWJdWJdAJdWJcGJiWJcGJb0GJbGJjMJeAJfGJGJfWJcWJeGJGJbc" ++
    "oGJvGJbGJgGJWJcWJmWJuyWJbmGJceGJzMJeAJb8JeQJiWJkWJdWJlWJdGJdGJnGJdGJxWJhWJcGJnGJsyGJcWJeG" ++
    "J1dUbRckAJnGJpWJbcWJeuWJ"),
  (["nl", "letternumber"],
    "fxOCctPbCCDdt+AZIOC3vLJwsQbUoMAIAeGEibKdO"),
  (["no", "othernumber"],
    "fSBFACCcjVFlYFdYCeFGgZGRInRJbbVTbdTJpAAbuVADFGJgGPbJAwWb7cOVtW9blJAbeUDeKJ+HBObAJbHO3lQFw" ++
    "gRbMcBDRBkV6bEDbjUHZGbHIcLEWFfABCPCbNcAIbUB+CcLEdIHYHbJGkKFlA+e+JbKDdQGeGTl7TbkFBnOI1HS0T" ++
    "Us2GGy+WzbJTMTdMYfkOI3Bb6BCBDcMbMBO4CM"),
  (["pc", "connectorpunctuation"],
    "c-Ah4-BTAbxo+BYChPA"),
  (["pd", "dashpunctuation"],
    "bNAbk8AbTAdsBAbaFAcaJFdqBACA-BEA8An+ATAdPAbtmQBbFAKAfJAd2-A"),
  (["pe", "closepunctuation"],
    "bJAbTA-Adv9ABAb0+AcnJAbXAPAt6ABA+Abb+ABABABABABABAcQAbAABABABABAmUABABABABABABABABABABAcA" ++
    "ABAbBAbbFABABABAbMABABABAnMABABABABADABABABACBbti+AgZA9ABABABABABABABADARABABAfKAbTA-ACAC" ++
    "A"),
  (["pf", "finalpunctuation"],
    "f7Ah09ADA8AdoIABAEACAPADA"),
  (["pi", "initialpunctuation"],
    "fLAh1MACBCAZAdoIABAEACAPADA"),
  (["po", "otherpunctuation"],
    "bBCBCCABABBKBDB7AcEAFAOBHAv+AIAoSFbJAbWACACAbMBUBBBNABCcKDdGAbLNhJCbWO-AiFBKAeMAdYAdZAmGA" ++
    "MAlPAc6AKBfIOBAdQAcKEEBdPFfLAtEIyFAd8CcHBe9CBCbFFBDjZBgYBeAGBFfMG8Bd9Db7Eb+BcAHLA0CBIHIIC" ++
    "DCCDKBABJde6DBBdQAePBECCACIBBBACBKEBJCDBABMCCnMCbZAf9A3aCBiNCdDAKAdTFl8DcWBbICBAbRBbPAdBM" ++
    "QBd8Dd+BQBhZAurEGCAWAUBCDDCBDHCGABBeVCBCCABABBKBDB7AbEACBm6Cu8AbQAm+AxHAgHA-AiQIbGAdQGcCG" ++
    "cZD3YEbMDf9GdNBBDd+DbQBcPDEANABCcYFdLAnBEKBBAdIAh6WdJC8McMAeCCh8AiICe7Ac8HcTCBEc9JjXEbKBu" ++
    "FBcKMfPAbdQEc18Bot7BeFAcBEIA0SDkHAtf8AhpHEdwSB"),
  (["ps", "openpunctuation"],
    "bIAbSA-Adv+ABAb0+Acl+ADAbGAbXAPAt6ABA+Abb+ABABABABABABAcQAbAABABABABAmUABABABABABABABABAB" ++
    "ABAcAABAbBAbbFABABABAZASABABABAnMABABABABADABABABACAbtjBAgXA9ABABABABABABABADARABABAfKAbS" ++
    "A-ADACA"),
  (["sc", "currencysymbol"],
    "bEAd9DbhJAd7ApSBpSBHAhVAiHAsFAcm7AcgEbAbb1XAvoDAdMAe6Ag7BDBh5WDbqy+AcnQA"),
  (["sk", "modifiersymbol"],
    "c+ABAcHAGAEADAqJDMNFGBABQdVAOBbiCAfzUABCLCNCNCNBee8B3tDWJBdHB4QAOBucGQ17ABAfCAb3aXE"),
  (["sm", "mathsymbol"],
    "bLAQCb9ABAbNAEAbFA-Ax+AqPCgr7ANAbHCNCeLAbHEGAcEEFBEACACAHA-BCABA-iLbABc6A+YbIFoVAJAbWHdPA" ++
    "kQEC+KPiAeCWb+E-CiBbQUCFbt48AzYABCfEAQCb9ABAeDAGDbvwUAZA-AZA-AZA-AZA-AZAfzMB"),
  (["so", "othersymbol"],
    "fGACAEABA4RAiKBd-BgOAKATBhXAqDAlVAeCFBAeEAgPAbJAmHCPABCCFUABABAeFHBFBBFDgFBxQJwTAwSAe9bBl" ++
    "BJJIbmDBBDBBKABBGFBABABAEALBOABBBAb6BJECDBBBBBGB+CBBAB+iMHETCGCcQB9ZbHGcEZKcRcNWfWBIBbVId" ++
    "OBhXbMbLcAh-qAbPVBGbGC-BdIhFFlFBbOZBcYMgV6LIANBMAVBGBkQBEJbAbD8+L9IAP-KbGPj-goAb-vuQbW1BD" ++
    "KBBAr9CuwGPd-AbNCpEADAEBNBjZIbZQCCBMDAbPbMbt6BsPAddWAceVHEQs0KDFAukWAevTdTb8hVKbGCb7FCWBH" ++
    "9Eb8VcBDAf6cWbfJp-bXDbSHBNBBbwIAc08AeBAwRbLEdDMOCOBOBbEXfAbY8NbLEIHBOFe6h6FwXEQDMDdWEc+GL" ++
    "EAPLEbXIJGbHI9CBcOkTMNCMDIHbNBGINEIHIHeSBbW"),
  (["zl", "lineseparator"],
    "ibIA"),
  (["zp", "paragraphseparator"],
    "ibJA"),
  (["zs", "spaceseparator"],
    "bAAd-Afo-Acl-KbEAbPAd3AA")]

end BotKeeper.Unicode
