/-
# Binary properties

The characters of each binary property, under its short and long name.
-/
import BotKeeper.Unicode.Ranges

namespace BotKeeper.Unicode

/-- The binary properties and their characters. -/
def propertyTable : List (List String × String) := [
  (["ahex", "asciihexdigit"],
    "bQJHF6F"),
  (["alpha", "alphabetic"],
    "cBZGZbPAKAEAFWB+BoJELOEHABAcWAbKEBBCDBAGABCBABTBcSBeKIfFBbFCAGbIbHNBABBBBBAI6ED9KFbXBGOdF" ++
    "BHEHECKCCAQbPNdEYbAJBEAFXCSTYHKFXBFRbJKLDGGcLBPBCEONSBHCBCVBGBADDDHCBCBBAIAEBBEMBKAECBFEB" ++
    "CVBGBBBBBBEEEBCBEAHDBARFLCBIBCBVBGBBBEDIBCBBDAPDVDECBHCBCVBGBBBEDHCBCBJBEBBENAQBBFDCBDDBB" ++
    "ABBDBDCDLEEDCBCDAGAbIMBCBWBPDHBCBCIBBCCACD8DBHBCBWBJBEDHBCBCIBGBBDNCMMBCBbICHBCBCBAFDHEWF" ++
    "BCBRDXBIBACGIFBABHSBNbZFGGAbTBBABEBXBABSBCCEBAGAODbAAb-HBbDESEPBbDcDbWBACEQb-KDCbFBAFACbK" ++
    "BkMBDCGBABDCbIBDCbABDCGBABDCOBbYBDCcCbFPQcVCFDtLCQBZFcKDKHTLUMTMMBCBBMbTCSOAEAcDcYHbKFcFK" ++
    "+BLEIX9CELbLEZbW7Eb+CTbSAXBLCbRbTBOBHbTbJCDKbLBKObWWCKbDCIHbKCCbJDBFBBDAFf-bHNLiVCFCbFCFC" ++
    "HBABABAB+CbUBGBADCBGDDCFEMFCBGdUANAQMdFAEACJBADEGABABABDBKCDFEEARbIzNbTbyWhEGDDBMbFBAFACb" ++
    "XHAQWJGBGBGBGBGBGBGBGB-bPAoVCZIHECEEcVGCBcZBDFbKBc9R-bQPqAgn-cAvuMcDbNCiMDPKBUbOFHDdQbHIC" ++
    "dGCb-FBBABEYTBbAYbTMcDBAbMFDABCKbAFbCN8DbSBLPAQPKEBbWJNSWDcEBABAYCCPCDLFCFCFJGBGBbKBNGd6V" ++
    "k3DMWEbQiiElNCdJbGGMEFLBMBEBABBBBBdLbBlKSb-CbVbILdUEBeGbEZGZLcYDFCFCFCCbDLBZBSBBBOCNbCd6c" ++
    "FbUiL8DbQbP-N9FbKF9CbDEHBEbKe9SbDEbDEbHIbTMKBOBGBBBKBOBGBBcDjWJVKHYFBbJBIcFFCABbLBBDACWKW" ++
    "J+cBSBBKVKZcGbXGBcADBBFHBCB8bK8D8bDHB77bVKVKSNRdOcIbXbSNbSNbHkYbJBBDBcO8KAIVbKRbOU7WJcFbL" ++
    "EKbYJANYXbSRDIbCDAJb-BDJBKABAbDRBbBCAGDb+GBABDBOBJHbYXDBHCBCVBGBBBEDHCBCBDAGAFGe8cBBCBDUC" ++
    "+cBCBBAfYbVCGZFbCb+BADAb7bVCAcH6CNVGfZbYdHb--HCACHBBB9BBCBCDc9HCbNCFBABB7bSCJRcHFAScIiHIB" ++
    "bMBGBAbR9CVBNcJGBBBbLDABBBCBACBYFBBBbEBBBDBAkHWJQBbIDCdPAcP2ZdGdORgDcsMdAPbbPRFd3ZsGinZrY" ++
    "H+RcOR9SbPQD-UFSvQb-eAcKEbYHQcABBAMBOf5XIbgVbKIixHDBGBBBjCPA9CCAODImLciEdKFMDIHJEAf1BcUBc" ++
    "GBBCACBCDBLBABGBcABDCHBGB7BDBEBADGBkTCYBYB+BYB+BYB+BYB+BYBHbzU+GFgVGBQCGBBBEFb9bBAdQbMKGQ" ++
    "AkB9SbLpE7xUGBDBBBOBgEb7cDDADAbfUDB6BBBACABJBDBABAGAEABABABCBBBACABABABABABBBACDBGBDBDBAB" ++
    "JBQFCBEBQtUZGZGZdtWbjw-bAebZGg9CfuBOhjQda-q9bpCe0KFec-"),
  (["bidic", "bidicontrol"],
    "bq8AgpRB6EbXD"),
  (["bidim", "bidimirrored"],
    "bIBSABA8ABA9ABAbNAPAdt+Db09Bcm8BKBbWBOBfRAgADDFDADBDDBDBABAEIFABRFDJBBABHC+CDFAJBCSFBJECB" ++
    "EXCPIDUBHBbb9NcKACDBBBCFDFCDNmTVCFBNIAHFDAEEBBCEEABCCBKFCBMSBDCABACABDFBGCYBLBEDBBCBEbKCH" ++
    "BbHFABADEFCEADEBAiAAqDDDBBBOBCJbLHnLJCHbtr9FFBfCBSABA8ABA9ABABBBBbv1XAbZAbZAbZAbZA"),
  (["ci", "caseignorable"],
    "bHAGALAbDABAcHAEABAEACBpXf-EBEAJBBAh7GgPAFAbRbMBABBBBBAbMALFKKBAbDAKUQAdFHBJBDbBABA+6c7Kb" ++
    "6KEACAYXbLCbMAHBGHbJbZbXABAEHEADGKBNAPAb6AEDIAUB6ACBbZAEBEBCCDA+BDALBbZAEEBBEAUBWFBAb6ACA" ++
    "BDIAHBLB+Ab9AMAbSADAbXABCFCBDHBLB9Ab6ACAGAFBUB8BbZBEDIAUB9AcIAHCBAc6ACGLIdCACIJABGcJB7ABA" ++
    "BAbXNBEBBFKBbDJAdGDBFBBCBZBECQDNACBGAPAc+AtAC3SC9B+B+BcABBGIACKDAFAbNEbTAcBBbCAdWCEBJAGCg" ++
    "7BCAb6ABGBABACHGJCAbHAI+bRDbQABEBAFAbIIMBbADCBBCbYABBDABCb6HCBcAFcSCBMBGEAGADBbSb+NAbCdEn" ++
    "9ABCLCNCNCNBMEIBKACACEbREBJBANAQMbTbAc2LBdRCd9APAdA-bPAoVAbEDDEFAc9Fc9C1yWAbhCFiOAdCDBJBA" ++
    "8DcQBObBcOAXCdHCDBIADAEAZBFAeXB6RNAbGHZKbOCbQACDCBRAVBcCFCBCBMAIAbDALAbTABCCBFBBA7AOBFBBA" ++
    "dEEJCdZACAEAtzQAeTQr9PDAMPbCACAfJAHAGALAbDABAbPAbNBcDAVCqBAhCAeVEbaFFBbJBIsGCBBFDbICEAfFB" ++
    "r9DmDBcQCcGKbRDd7AbWObJACBKCbRDCBCAEAKAbSCbEEBHb+AMBbUIKDCAc-CCABBGACAe9ADHVBbZBDAbFGDEgD" ++
    "HCCBAXAcUFBAEBBBhODGBBB7BcVHCABBdKABACFBAdFCCDBEiDIBBiABBAEAeQDCBEAbAJbIFCDIAJFCCbOMBBmWG" ++
    "BFBAcSVCGBBBBd6FDABBBGBAcIBDABAk7BLBbUEFABAfhNQGOnu6Eb7GJDbaLAb-QcABBBqaLDBGBBde+BBDes8bN" ++
    "CWrACJPCG+DeUCb37bWEbRIAOAWEBObkQGBQCGBBBEFb9bBAfANlQAb9Dp7E5AGdNHcvPEydaBA+c-eAhP"),
  (["cased"],
    "cBZGZbPAKAEAFWB+BgCBDEgPBbDHB+EdAAbKDCBCDBAGABCBABTBcSBeKIfFBbFJbIcyXbFBAFACbKBDvAcVCFceC" ++
    "IHbKCCcAf-cAiVCFCbFCFCHBABABAB+CbUBGBADCBGDDCFEMFCBGdUANAQMdFAEACJBADEGABABABDBFEACDFEEAR" ++
    "-DBzRbTbyWhEGDDBMbFBAFA4iSbNS9eEdFDDBb6FBBABEYEBCzVbKBNGcPt0AGMEbaJZGZbfFcPdAbDEbDdUKBOBG" ++
    "BBBKBOBGBBoDACCBbJBIbgFbSNbSc3Nb-vlAb-zmAcUBcGBBCACBCDBLBABGBcABDCHBGB7BDBEBADGBkTCYBYB+B" ++
    "YB+BYB+BYB+BYBHbzUJBTGFiFb9ceScDb5MZGZGZ"),
  (["cwcf", "changeswhencasefolded"],
    "cBZc6AKWBHbAABABABABABABABABABABABABABABABABABABABABABABABABABABABACABABABABABABABABBBABA" ++
    "BABABABABABABABABABABABABABABABABABABABABBBABABABBBABBBCCDBBBCDBBBBABABBBACABBBCBABBDAHBB" ++
    "BBBBABABABABABABABACABABABABABABABABACBBABCBABABABABABABABABABABABABABABABABABABABABABABA" ++
    "BABABABABABAHBBBCABDBABABABAhWAbKABADAIAGABCBABBBQBIWAMCDBBABABABABABABABABABABABABBCBBAB" ++
    "BCbSbQABABABABABABABABABABABABABABABABAJABABABABABABABABABABABABABABABABABABABABABABABABA" ++
    "BABABBBABABABABABACABABABABABABABABABABABABABABABABABABABABABABABABABABABABABABABABABABAB" ++
    "ABABABABABABABABABABABABACbFbQAcyYbFBAFAzKFceCIHbKCCkAABABABABABABABABABABABABABABABABABA" ++
    "BABABABABABABABABABABABABABABABABABABABABABABABABABABABABABABABABABABABABABABABABABABABAB" ++
    "ABABABABABABABABABABABABAFBCABABABABABABABABABABABABABABABABABABABABABABABABABABABABABABA" ++
    "BABABABABABABABABABABABABABABABABABAJHIFKHIHIFLABABABAIHQbPCCCFFCCFLDMEFCCFjJADBGAbNPTAzS" ++
    "ZbzQbPbQABCCABABABDBACAICBABABABABABABABABABABABABABABABABABABABABABABABABABABABABABABABA" ++
    "BABABABABABABABABABABABABABABABABAIABAEA4kNABABABABABABABABABABABABABABABABABABABABABABAT" ++
    "ABABABABABABABABABABABABABAeHABABABABABABADABABABABABABABABABABABABABABABABABABABABABABAB" ++
    "ABABABABABABABAKABABBBABABABAEABACABADABABABABABABABABABABEBEBABABABABABABABDBAGAFABA8A16" ++
    "cPt0AGMEbaJZbgFbHeIbDe8KBOBGBBbxKbSc5N-vmA-4vAbB"),
  (["cwcm", "changeswhencasemapped"],
    "cBZGZb6AKWB+Bb-BcTBMBNCNCBBAEc8BRG6BBBABBDBBABBBECABBCAHACABBDFFAKBfGAbKDCBDCBAGABCBABTBb" ++
    "ODbABEBeEIfFBbFKbGcyYbFBAFACbKCCvAcVCFceCIHbKCCfZADAQAdRe7CABdVCFCbFCFCHBABABAB+CbUBGBADC" ++
    "BGDDCFEMFCBGjJADBGA7AR-DBzRbTbyWdQBBBBHdFHDDBMbFBAFA4iSbNS7eGNCb9JODCCEBYB6FBED7B08A8cPt0" ++
    "AGMEbaJZGZbfFcPdAbDEbDdUKBOBGBBBKBOBGBBbwDbSNbSc3Nb-vlAb-4uAcD"),
  (["cwl", "changeswhenlowercased"],
    "cBZdFWBGbBABABABABABABABABABABABABABABABABABABABABABABABABABABABACABABABABABABABACABABABA" ++
    "BABABABABABABABABABABABABABABABABABABABBBABADBBABBBCCDBBBCDBBBBABABBBACABBBCBABBDAHBBBBBB" ++
    "ABABABABABABABACABABABABABABABABACBBABCBABABABABABABABABABABABABABABABABABABABABABABABABA" ++
    "BABABABAHBBBCABDBABABABAjBABADAIAGABCBABBBQBIbDAIABABABABABABABABABABABAFACABBCbSbQABABAB" ++
    "ABABABABABABABABABABABABABAJABABABABABABABABABABABABABABABABABABABABABABABABABABABBBABABA" ++
    "BABABACABABABABABABABABABABABABABABABABABABABABABABABABABABABABABABABABABABABABABABABABAB" ++
    "ABABABABABABACbFc0JbFBAFAwScVce6bKCCkAABABABABABABABABABABABABABABABABABABABABABABABABABA" ++
    "BABABABABABABABABABABABABABABABABABABABABABABABABABABABABABABABABABABABABABABABABABABABAB" ++
    "ABABABABAJABABABABABABABABABABABABABABABABABABABABABABABABABABABABABABABABABABABABABABABA" ++
    "BABABABABABABABABAJHIFKHIHIFLABABABAIHYHIHIHIELELDMELEjJADBGAbNPTAzSZbzQbPbQABCCABABABDBA" ++
    "CAICBABABABABABABABABABABABABABABABABABABABABABABABABABABABABABABABABABABABABABABABABABAB" ++
    "ABABABABABABAIABAEA4kNABABABABABABABABABABABABABABABABABABABABABABATABABABABABABABABABABA" ++
    "BABABAeHABABABABABABADABABABABABABABABABABABABABABABABABABABABABABABABABABABABABABAKABABB" ++
    "BABABABAEABACABADABABABABABABABABABABEBEBABABABABABABABDBAGAFABA8AvzLZbgFbHeIbDe8KBOBGBBb" ++
    "xKbSc5N-vmA-4vAbB"),
  (["cwt", "changeswhentitlecased"],
    "dBZb6AbJXBHBABABABABABABABABABABABABABABABABABABABABABABABABABABABACABABABABABABABBBABABA" ++
    "BABABABABABABABABABABABABABABABABABABABACABABCCABACADAFACADBDACABABACAEACADABACADABAEABBB" ++
    "BBABABABABABABABABBBABABABABABABABABCBABADABABABABABABABABABABABABABABABABABABABADABABABA" ++
    "BABABABABAIACBBAEABABABABFBBBABBDBBABBBECABBCAHACABBDFFAKBfGAbLABADADCSA7bCBBDCBABABABABA" ++
    "BABABABABABABEBACACAbUbPBABABABABABABABABABABABABABABABABAJABABABABABABABABABABABABABABAB" ++
    "ABABABABABABABABABABABACABABABABABABBBABABABABABABABABABABABABABABABABABABABABABABABABABA" ++
    "BABABABABABABABABABABABABABABABABABABABABABAbRbGdtQFceCIhQADAQAdSABABABABABABABABABABABAB" ++
    "ABABABABABABABABABABABABABABABABABABABABABABABABABABABABABABABABABABABABABABABABABABABABA" ++
    "BABABABABABABABABABABABABABABABABABGFABABABABABABABABABABABABABABABABABABABABABABABABABAB" ++
    "ABABABABABABABABABABABABABABABABABABABABABIIFKHIHIFKHIHINCHIHIHIEBBGADCBBIDCBIHKCBBkWAbBP" ++
    "EA0LZb0GbPBADBBABABAGACAKABABABABABABABABABABABABABABABABABABABABABABABABABABABABABABABAB" ++
    "ABABABABABABABABABABABABABABABABABAIABAEAMbFBAFA4iTABABABABABABABABABABABABABABABABABABAB" ++
    "ABABABATABABABABABABABABABABABABABAeHABABABABABABADABABABABABABABABABABABABABABABABABABAB" ++
    "ABABABABABABABABABABABAKABACABABABABAEAEABBCABABABABABABABABABALABABABABABABABAEABAGAFABA" ++
    "8A08A8cPt0AGMEbbJZbgNbHeIbDe7KBOBGBBbyDbSc4N-vmA-4vCbB"),
  (["cwu", "changeswhenuppercased"],
    "dBZb6AbJXBHBABABABABABABABABABABABABABABABABABABABABABABABABABABABACABABABABABABABBBABABA" ++
    "BABABABABABABABABABABABABABABABABABABABACABABCCABACADAFACADBDACABABACAEACADABACADABAFBBBB" ++
    "BBABABABABABABABBBABABABABABABABABBBBBADABABABABABABABABABABABABABABABABABABABADABABABABA" ++
    "BABABABAIACBBAEABABABABFBBBABBDBBABBBECABBCAHACABBDFFAKBfGAbLABADADCSA7bCBBDCBABABABABABA" ++
    "BABABABABABEBACACAbUbPBABABABABABABABABABABABABABABABABAJABABABABABABABABABABABABABABABAB" ++
    "ABABABABABABABABABABACABABABABABABBBABABABABABABABABABABABABABABABABABABABABABABABABABABA" ++
    "BABABABABABABABABABABABABABABABABABABABABAbRbGc0IbKCCxYFceCIhQADAQAdSABABABABABABABABABAB" ++
    "ABABABABABABABABABABABABABABABABABABABABABABABABABABABABABABABABABABABABABABABABABABABABA" ++
    "BABABABABABABABABABABABABABABABABABABABGFABABABABABABABABABABABABABABABABABABABABABABABAB" ++
    "ABABABABABABABABABABABABABABABABABABABABABABABIIFKHIHIFKHIHINCbUBBEABADCBBEADDCBIHKCBBEAk" ++
    "RAbBPEA0LZb0GbPBADBBABABAGACAKABABABABABABABABABABABABABABABABABABABABABABABABABABABABABA" ++
    "BABABABABABABABABABABABABABABABABABABABAIABAEAMbFBAFA4iTABABABABABABABABABABABABABABABABA" ++
    "BABABABABABATABABABABABABABABABABABABABAeHABABABABABABADABABABABABABABABABABABABABABABABA" ++
    "BABABABABABABABABABABABABABAKABACABABABABAEAEABBCABABABABABABABABABALABABABABABABABAEABAG" ++
    "AFABA8A08A8cPt0AGMEbbJZbgNbHeIbDe7KBOBGBBbyDbSc4N-vmA-4vCbB"),
  (["dash"],
    "bNAbk8AbTAdsBAbaFAcaJFb9AbHAPAmGAdaEACA-BEA8An+ATAdPAbtmQBbFAKAfJAd2-A"),
  (["di", "defaultignorablecodepoint"],
    "fNAvBAwMAc0CBbsTBcVEb57E6EbRPehUAbte7PhPAfAAcPIbpfHDfgPHyluFd5-"),
  (["dep", "deprecated"],
    "kJAbjJAciDABAcbJBcgFFvZB1xgWA"),
  (["dia", "diacritic"],
    "c+ABAcHAGAEACBpXe+BHFFRBEAJBh9EgRAbXQB6BABBBAeGHEBeGBEBDCcD6c7Kb6KbCBd+HbJJQ7b9AQADD8AcKA" ++
    "QAdOAQAdOAQAbPCb8AQAHAdXAdOAQAdOAQAdNBQAd8Ad8FBAdLANEcLB7ABABAEBcCCBBb+AdQABBbIBEEZGBAKBw" ++
    "BC3UBfTKJAk7CjZHCAbQOCKdIAPAbGIbWBeKBcAFcSYEAGACCbSb+cZLbFKn9ABCLCNCNCNBdhQCj9Ap6FdJDc-A3" ++
    "lSAMBBA8BcSBObBdGCdNBgKA7RbZDbEAc-AMAbEAeVCcBDbTAdEEJCeABtzQAyBPiOABAbPAbNBcDAx8Abe-FBbJB" ++
    "IzKBr7FoVCcGKbRDgAAbJAcIBdYBb+AcMAJCdIBfSBcRAQAYGDEgNADAd7Bh7Bd+AdWBdTAiNBiCBEAe8AcTASAcR" ++
    "AnFAiCABBcRAfvPOnu6Eb7GbcYQcQBp5+DBGBBhyBbNCWrACDFIHCG+DduCb9gCGlXAb9DbpAGdNCBC"),
  (["emoji"],
    "bDAGAFJdPAEAh2NAMAgYAWAc6FPBlPBMAfGAZKECgHAhHBKAJAb6DBEJACACBCAEACABBCADADBICFABAFLLBCABB" ++
    "BASACBSFBABBDBFACBEBLBFBCAFBBABBUBFFBDCAEACACFBACABABAGADAGAKBPACAEABAECBALBbQCJAOAOAlUBo" ++
    "PCTBbTAEAbg6AMAsZABAdplKAgKAfABMBOACJcLZBBXAUACIVBfObBCdPCBBCCcSCCBiGBb+LFBXHBCHMACDCAEBN" ++
    "BCAIBJAFCMCICCABAEAGADAGcVbQcFFHCCEJDABBDACJhDLEAi7bOBJBfYdQMDIHbNBGINEIHI"),
  (["ecomp", "emojicomponent"],
    "bDAGAFJh4TAgVAbxjLAb24WZp7EbnQDybtMc-"),
  (["emod", "emojimodifier"],
    "d257E"),
  (["ebase", "emojimodifierbase"],
    "jq9Ag7AQDdtdXAb8CCACCdVBCKVSDAECBCHABAYAgJBEAVAEBfOCDEcTAQCJALAr-ACAIHGAJJCCbYAb9BBBBARCB" ++
    "MhFCbKI"),
  (["epres", "emojipresentation"],
    "iy6BgNDDACAqJBVBbSLbLATANAIBRBFBIAFAVAHBBAEACAHAEB8AbDABAECBAb9CYAOA07BbTAEAdrfOAgKAf+ACJ" ++
    "cLZBAYAUACEBCVBfObAMIBcFBVMbKEEMQDADcGBABf6Cb+NDBXSA6BNAcWcUbQcFGADCCCEDLBHIhDLEAi7bOBJBf" ++
    "YdQMDIHbNBGINEIHI"),
  (["extpict", "extendedpictographic"],
    "fJAEAh2NAMAgYAWAc6FPBlPBMAc-AcGAZKECgHAhHBKAJAb6DBFBLBdRKdVCKBABAGADAGAKBPACAEABAECBALEbN" ++
    "CJAOAOAlUBoPCTBbTAEAbg6AMAsZABAdplGh-NC-Ab8FMBOACJSbY7OKAUACIBDJnRFj9IiJbQd-dULcVbKMDbYHK" ++
    "FbIH+cRMbOBJBnYiA59"),
  (["ext", "extender"],
    "fXAqYB1OAnZA06AxQAd-AckDAbYAtDAmOAcEAe2JAbLEdHBc9C1yWAbpWA4CAWAeJAdMAVBvd7AcaQBc46AtICbgP" ++
    "AufJBbe8BBA2kYBcaGC"),
  (["grbase", "graphemebase"],
    "bAc+bBMBsRdQHCFEGBABTBg-HfFBbFCbRCCbOABACACAJ6EFRJLABbNVPBdEIAGBCAE-CAB99cYLAObKJGDXEAJAD" ++
    "AHOBYFABKF+RbJbZbWBABDIDBCHJC8BBBHCBCVBGBADDDABBGBCBBANBBCEXFABFEBCVBGBBBBBBECYDBAHJCCBAM" ++
    "ABIBCBVBGBBBEDDIABBDAPBELHAIBBHCBCVBGBBBEDACAGBCBPBBCERLABFDCBDDBBABBDBDCDLFABBDCBCDAVUGC" ++
    "BHBCBWBPDADDTCCACBEJHJBKBCBWBJBEDBBBBBCBBBRBBBEJBCOKBCBbICABBFCBCBBECBJEZCBBRDXBIBACGJBGG" ++
    "HJCCMbPBBLHIMbFBBABEBXBABJBBJACEBAJJCDbAXC6BABABNBbDSAFACEbRHBFBMbFbMEAGACBCYCDDPEMBBCFBO" ++
    "BbHBAFAClYBDCGBABDCbIBDCbABDCGBABDCOBbYBDCcCF8DZGcVCFCu8DcYHRDAJSCCJROMBCPbTCAHHBBLIDJGJG" ++
    "KFJGcYHECbBBAFcFK+EDCCEBBFHADbJCELbLEZGKDbYCBDbXBAJABBIFNJGJGNcWbPHABEBJD6JKD-EBCADbXBACC" ++
    "BADBIbPIBFODb7HbKCKLANAHDBFBCCAFf-cAiVCFCbFCFCHBABABAB+CbUBOBNCFBSCCBIBKFXHbQQBC6BMDbAb-e" ++
    "LEuWZKVbyTC-BkXDBFbMBAFACbXHBPWJGBGBGBGBGBGBGBGbBc9bCZBcYMgV6LEbJGPBcVEdEFbKBc9BcTMbOB2tM" ++
    "DbWJk7UbOEAK-CcPCFIgKFBBABEYPBCBDBYCEEJGbXIcDKLYMBbFIYLBL9GbPBBEBCPBKEGBYBbIGBCBLCBHBACJC" ++
    "-BbSBADBCECABAYQCHLFCFCFJGBGBb7EdUBBBDDJGk3DMWEbQiiElNCdJbGGMEFABXBEBABBBBBd8Qn8CbVHAbAPQ" ++
    "JWbCBSBDEEBeGEe8C+DFCFCFCCDGBGNBCLBZBSBBBOCNbCd6FCEbMDcXBMDAbPbMeD8DbQQ6EbDJ9FbFK9BbEENbK" ++
    "e9CJGbDEbDEbHIbTLLBOBGBBBKBOBGBBcDjWJVKHYFBbJBIcFFCABbLBBDACWBcHIIbQSBBFbAD6FAcAbXETCbOPD" ++
    "BCB8KIHIHb-bAbEGLJbVD8C6FZHDMGcQcIbXbSNbSHbJMJjG+BbJDACBcObHIVLIWREDbG7UWJABbVPGE9BBCAMbQ" ++
    "EBCBBDOYHJJbDFAJRIbCBCLbTJJEBBPBTLRB7DBBACFBBb-GBABDBOBKGbOBCNJIBBHCBCVBGBBBEDABABDCBCCCA" ++
    "MGe8bXIBDABUBABC+bPBBGABBBACACDIJfGbOBBGDCAC6bEbSIBBACDLJGMTbKBABBGABBGJbW6FBEAJWfZbOJACA" ++
    "dEcSMHCACHBBBXBEBBEABDBCJJcGHCbJIDBD7AKbHGBEHJAGBDbNNACINcIHJhWIBbFOABFK8D-ZAHACAcLGBBBbF" ++
    "VAJJGFBBBbEEBBABAHJjWSCDJOBbDIBBABWcWAPbRN26dGdOBELgDcsMdCNbbPRFd3ZsGinZrYH+BJEcQBJG9HAKb" ++
    "PHOKJBGBUFSvQc6dFcKFbXLMcADMBOf5XIbgVbKIixHDBGBBBjCPA9CCAODImLciEdKFMDIHJCACAevQdTb8hVKbG" ++
    "Cb7BADDVBH9Eb8VcBDAd6TMTMcWJYeHcUBcGBBCACBCDBLBABGBcABDCHBGB7BDBEBADGBkTCjDCrRbXDbSHBNBGb" ++
    "dU+GFiFb9eSbMKGCJEBkA9SbLEJFAoQ7EJxGGBDBBBOBgECIbQcDHAEJEByRcDcMb8gCDB6BBBACABJBDBABAGAEA" ++
    "BABABCBBBACABABABABABBBACDBGBDBDBABJBQFCBEBQbUBiObLEdDMOCOBOBbEKfNbY8NbLEIHBOFe64XEQDMDdW" ++
    "Ec+GLEAPLEbXIJGbHI9CBcOkTMNCMDIHbNBGINEIHIHeSBbWbFJbaGbjw-bAebZGg9CfuBOhjQda-q9bpCe0KFec-"),
  (["grext", "graphemeextend"],
    "yAdPiTGiHbMBABBBBBAcIKbQUQAdFGCFCBBDbDA+6c7Kb6IJAYDBIBCBEbLCb8HbKXB-bXABAEHEADGKB9Ab6ABAC" ++
    "DIAJAKB6ACBbZAEBEBCCDA+BDALBbZAEEBBEAUBWFBAb6ABBBDIAHCKB+Ab7ABAMAJAbIADAbXABCFCBDHBLB9Ab6" ++
    "ACACADAFBHBLB8BbZBBACDIAJAKB9AcIAEACCBAIAcRACGMHdCACILGcJB7ABABAbXNBEBBFKBbDJAdGDBFBBCBZB" ++
    "ECQDNACBGAPAv-C3SC9B+B+BcABBGIACKJAbNCBAdVBbCAdWCEBJAGCg7BCAb6ABGBABACHGJCAbQ+bRDbQGBAFAb" ++
    "IIMBbADCBBCbYABBDABCb6HCBeYCBMBGEAGADBgGb-qMAgDbAc5+CeNAdA-rKFdJB3oUDBJbABcQBiQADAEAZBFAe" ++
    "XB6RNAbGHZKbOCbQACDCBbHAcDFCBCBMAIAbPAbTABCCBFBBAbKBIAhOACAEAtzQAxBPQPlOBs9AhCAeVEbuGCBBF" ++
    "DbICEAfFBr9DmDBcQCcGKbRDd7AbWObJACBKCbRDCBHAb9CbEEBHb+AMBbUIKDCAc-CCABBGACAe9ADHVBbZBBABA" ++
    "WAOGDEgDHCCBAXAcRACFBACABBBBhLACDGBBB7BcVHCABBdKABACFBAdFCCDBEiDIBBhVAKBBAEAeQDCBEAbAJbIF" ++
    "CDIAJFCCbOMBBmWGBFBAcSVCGBBBBd6FDABBBGBAcIBDABAk7BLBbUEFABAfh9AGOnu6Eb7GbaYAb-DcRAtfYBetB" ++
    "bNCWq+ABCEEIHCG+DeUCb37bWEbRIAOAWEBObkQGBQCGBBBEdEAfAGlXAb9Dp8D5AGdNGyfwVc-eAhP"),
  (["hex", "hexdigit"],
    "bQJHF6Fb5vJJHF6F"),
  (["hyphen"],
    "bNAd-Abg8Aet7AcaJBdqFAxDAbtlHAfJAcXA"),
  (["idsb", "idsbinaryoperator"],
    "l5QBCH"),
  (["idst", "idstrinaryoperator"],
    "l5SB"),
  (["idc", "idcontinue"],
    "bQJHZEABZbPAKABACAFWB+BoJELOEHABARdUBBCDBAGEBABTBcSBeKBECfFBbFCAGbIIbMBABBBBBAI6ED9KFcJEd" ++
    "FBHCJBSCAQb6CdEObVEACACbNS7EKFXBFJcJBeACJBSBHCBCVBGBADDCICBCDIAEBBECLKABACCBFEBCVBGBBBBBB" ++
    "CABEEBCCDAHDBAHPLCBIBCBVBGBBBECJBCBCCAPDCJJGBCBHCBCVBGBBBECICBCCHCEBBECJBAQBBFDCBDDBBABBD" ++
    "BDCDLEEDCBDCAGAOJQMBCBWBPCIBCBDHBBCCACDCJQDBHBCBWBJBECIBCBDHBGBBDCJBCMMBCBbSBCBEFDHECJKFB" ++
    "CBRDXBIBACGDAEFBABHGJCBNbZFOBJbHBBABEBXBABWCEBABGBJCDbAAXBGJLABABAEJBbDETBRBbDJAbZcJGcNCb" ++
    "FBAFACbKBkMBDCGBABDCbIBDCbABDCGBABDCOBbYBDCcCCCJIOPQcVCFDtLCQBZFcKDKHVJVLTMMBCBBMcTDAEBCJ" ++
    "bBCBKGcYHbKFcFK+BLELKbHCELbLEZGKbF7Eb+B8CKGJNAINBPbRcMDJRIMdTMbXIJDbQCIHbKCCQCBbGFqVCFCbF" ++
    "CFCHBABABAB+CbUBGBADCBGDDCFEMFCBGcCBTA8ANAQMbTMEADLRAEACJBACFGABABABPCDFEEARbIctXhEGIMbFB" ++
    "AFACbXHAPXJGBGBGBGBGBGBGBGB-qFCZOBECEEcVCGBcZBDFbKBc9R-bQPqAgn-cAvuMcDbNCiMD7UbPEJBdSbFIC" ++
    "dGCb-FBBABEYbVEATbTMcFKJGXDABbQCbDM8DcAOKG+BbWJNCJGWDcIYCCPCEKFCFCFJGBGBbKBNGd6BBCJGk3DMW" ++
    "EbQiiElNCdJbGGMEFLBMBEBABBBBBdLbBlKSb-CbVbILEPQPDBYCbAEBeGTJHZEABZLcYDFCFCFCCbDLBZBSBBBOC" ++
    "NbCd6cFbUeIAeC8DbQPA--N9FbKF9CbDEHBEbKe9CJGbDEbDEbHIbTMKBOBGBBBKBOBGBBcDjWJVKHYFBbJBIcFFC" ++
    "ABbLBBDACWKWJ+cBSBBKVKZcGbXGBcADBBFHBCB8CCEAbA8D8bDHB9ZbVKVKSNRdOcIbXbSNbSNbHIJkGbJBBDBcL" ++
    "-KAIbA-VbKU7WJcG-PJb7HANYHJGbUBJEDIbDCAJcEEDBMBAbDRBbEGDb+GBABDBOBJHb6FJGDBHCBCVBGBBBEBJC" ++
    "BCCCAGAFGCGDEeLcKFJED+cFBAIJfGbVCIXFbCcADALJbGbYHJbW6COEJGGfZb6dFcJVHCACHBBB9BBCIMJcGHCbN" ++
    "CHBB7b+IAIcJDAScIiHIBbMBIPJY9CVBNcJGBBBbLDABBBIIJGFBBBbEBBBFHJjWWJQBbIDENJcWAcP2ZdGdORgDc" ++
    "sMdAPbbPQVd3KsGinZrYH+BJGcOBJG9CELbWJDMJJUFSvQb-eAcKEbYHQcABBBLBOf5XIbgVbKIixHDBGBBBjCPA9" ++
    "CCAODImLciEdKFMDIHJDBetBbNCWq+EDFIHCG+DeUCn7cUBcGBBCACBCDBLBABGBcABDCHBGB7BDBEBADGBkTCYBY" ++
    "B+BYB+BYB+BYB+BYBHCbRqAbWEbRIAOAWEBObcQ+GFgVGBQCGBBBEFb9bBAdQbMDNCJEAkB+RbZoWbJxGGBDBBBOB" ++
    "gELGbJcLEJbfGDB6BBBACABJBDBABAGAEABABABCBBBACABABABABABBBACDBGBDBDBABJBQFCBEBQdjUJbaGbjw-" ++
    "bAebZGg9CfuBOhjQda-q9bpCe0KFec-vxkQhP"),
  (["ids", "idstart"],
    "cBZGZbPAKAEAFWB+BoJELOEHABAeBEBBCDBAGABCBABTBcSBeKIfFBbFCAGbIcH6EDbNbKbDBBdCBAPBHBKCCAQAB" ++
    "99cYLAYbAJBEAFVEAJADAXYHKFXBFRbJb6bVDASAHJPPEHCBCVBGBADDDAQANBBCOBKAIFEBCVBGBBBBBB-DBATCQ" ++
    "IBCBVBGBBBEDASAPBXALHCBCVBGBBBEDA+BBCPARABFDCBDDBBABBDBDCDLWAbUHBCBWBPDA6CCACB+AEHBCBWBJB" ++
    "EDA-BBBPBRIBCBbICAQAFCICYFFRDXBIBACGb6bPBBMGb6BBABEBXBABJBBJACEBAVDbAAb-HBbD7EdTbKUAQFEDD" ++
    "ADBHCEMMARbFBAFACbKBkMBDCGBABDCbIBDCbABDCGBABDCOBbYBDCcCbFPQcVCFDtLCQBZFcKDKHRNSOROMBCPbT" ++
    "bDAEAcDcYHbIBAFcFK+bR9CELbLEZbWWJbUcSAc9bORHbW9NBKbL6bDbJCKbDCIHbKCCbJDBFBBDAFf-cAiVCFCbF" ++
    "CFCHBABABAB+CbUBGBADCBGDDCFEMFCBGdUANAQMdFAEACJBACFGABABABPCDFEEARbIctXhEGDDBMbFBAFACbXHA" ++
    "QWJGBGBGBGBGBGBGBGrGCZIHECEEcVEEBcZBDFbKBc9R-bQPqAgn-cAvuMcDbNCiMDPKBUbOQ+CcPbHICdGCb-FBB" ++
    "ABEYPBCBDBW9bTObRb+FDABBL7KWZ8HbO8AQEBJKEBbIXCBHUWDADbRBADBCECABAYCCKHCMFCFCFJGBGBbKBNGdS" ++
    "9k3DMWEbQiiElNCdJbGGMEFABJBMBEBABBBBBdLbBlKSb-CbVbILdUEBeGbEZGZLcYDFCFCFCCbDLBZBSBBBOCNbC" ++
    "d6cFbUiL8DbQbP-N9FbFK9CbDEHBEbKe9SbDEbDEbHIbTMKBOBGBBBKBOBGBBcDjWJVKHYFBbJBIcFFCABbLBBDAC" ++
    "WKWJ+cBSBBKVKZcGbXGBcAAPDBCB8bK8D8bDHB77bVKVKSNRdOcIbXbSNbSNbDk8bJGBcO8KAIVbKRbOU7WMbUbZB" ++
    "CANbMbAY6bD9ACAIbCDAMbPODVABAbDRBYTBb-GBABDBOBJHbObGHCBCVBGBBBEDASAMEe+bUSDUC+bPUBBAfYbOb" ++
    "JDbEbPUAb7bKNAcH6bFGfZbLdUb--HCACHBBBXPABAc+HCbGQABA8AKbHHAVALbNTAScIiHIBbERAbR9dQGBBBbFV" ++
    "AZFBBB-OAkHSPABMBbBd8AcP2ZdGdORgDcsMdAPbbPRFd3ZsGinZrYH+RcOR9SbPQD-UFSvQb-eAcKFAcCMcABBA8" ++
    "f5XIbgVbKIixHDBGBBBjCPA9CCAODImLciEdKFMDIHJf1GcUBcGBBCACBCDBLBABGBcABDCHBGB7BDBEBADGBkTCY" ++
    "BYB+BYB+BYB+BYB+BYBHbzU+GFiFb9eSbMKGQAkB9SbLpE7xUGBDBBBOBgEb7cDHAbfUDB6BBBACABJBDBABAGAEA" ++
    "BABABCBBBACABABABABABBBACDBGBDBDBABJBQFCBEBQekEbjw-bAebZGg9CfuBOhjQda-q9bpCe0KFec-"),
  (["ideo", "ideographic"],
    "maGBZIOC4Fgn-cAup-wiAlNCdJ3iKA7f5XIbgVbKIjdHmLtiEbjw-bAebZGg9CfuBOhjQda-q9bpCe0KFec-"),
  (["joinc", "joincontrol"],
    "iaMB"),
  (["loe", "logicalorderexception"],
    "dsAEd7EcxQCCAbeh6BCABB"),
  (["lower", "lowercase"],
    "dBZbPAKAEAbEXBHBABABABABABABABABABABABABABABABABABABABABABABABABABABABBBABABABABABABABBBA" ++
    "BABABABABABABABABABABABABABABABABABABABABABACABABCCABACADBEACADCCACABABACABBBACADABACBCCG" ++
    "ACACABABABABABABABABBBABABABABABABABABBCABADABABABABABABABABABABABABABABABABABABABABABABA" ++
    "BABABABABABABGCACBBAEABABABABcEBbDHB+EdAAbLABADACDSA7bCBBDCBABABABABABABABABABABABEBACACB" ++
    "bTbPBABABABABABABABABABABABABABABABABAJABABABABABABABABABABABABABABABABABABABABABABABABAB" ++
    "ABACABABABABABABBBABABABABABABABABABABABABABABABABABABABABABABABABABABABABABABABABABABABA" ++
    "BABABABABABABABABABABABAbQbIc0HbKBDxYFceCIdXf-cBABABABABABABABABABABABABABABABABABABABABA" ++
    "BABABABABABABABABABABABABABABABABABABABABABABABABABABABABABABABABABABABABABABABABABABABAB" ++
    "ABABABABABABABABABIBABABABABABABABABABABABABABABABABABABABABABABABABABABABABABABABABABABA" ++
    "BABABABABABABABABABABABABABIIFKHIHIFKHIHINCHIHIHIEBBGADCBBIDCBIHKCBBdZANAQMdNADBDA7AEAEAC" ++
    "BIDEAbBPEA0LZb0GbPBADBBABABAEABBBHDABABABABABABABABABABABABABABABABABABABABABABABABABABAB" ++
    "ABABABABABABABABABABABABABABABABABABABABABABBHABAEAMbFBAFA4iTABABABABABABABABABABABABABAB" ++
    "ABABABABABABABABATABABABABABABABABABABABABABCeFABABABABABABCBABABABABABABABABABABABABABAB" ++
    "ABABABABABABABABABABABABABABABABJBABACABABABABAEABACABCBABABABABABABABABABAFAFABABABABABA" ++
    "BABAEABAGABABABABAYCBABCzVbKBNGcPt0AGMEbbJZbgNbHeIbDe7KBOBGBBoDACCBbJBIbiFbSc4N-vmA-zm6Z6" ++
    "GBR6Z6DBABGBK6Z6Z6Z6Z6Z6Z6Z6Z678YBF6YBF6YBF6YBF6YBFBAbzUJBTGFiFb9cfUbB"),
  (["math"],
    "bLAQC-A9ABAbNAEAbFA-AwYCCA6BCCqPCgqNA7CLADANAODVELEcBMEADBEESAEACJBACFGADBCBBCBFDNBAcEXBF" ++
    "BBEBE-BAGBOiLIDUBc6A+6BAYALGn9BMJEFEBCBDEOABACFLHFBbZABA9DJCkQb-iAp-bQUCFbt48AzXFBAfCAQC9" ++
    "ABA9ABAeDAGDbvaTcUBcGBBCACBCDBLBABGBcABDCHBGB7BDBEBADGBkTCjDCbRfqADB6BBBACABJBDBABAGAEABA" ++
    "BABCBBBACABABABABABBBACDBGBDBDBABJBQFCBEBQbUB"),
  (["nchar", "noncharactercodepoint"],
    "b5oQ-qOBb55+Bb55+Bb55+Bb55+Bb55+Bb55+Bb55+Bb55+Bb55+Bb55+Bb55+Bb55+Bb55+Bb55+Bb55+Bb55+B"),
  (["patsyn", "patternsyntax"],
    "bBOKG6DBA6DbCGBABBBABBEAEADAXA-AhyYXIOCSBJjRwPfAtV+bdLqAd-mBCEYPAbtiNBiFB"),
  (["patws", "patternwhitespace"],
    "JESAdEAh2IBYB"),
  (["pcm", "prependedconcatenationmark"],
    "bqAFgXAbRAmABcQAcb46APA"),
  (["qmark", "quotationmark"],
    "bCAEAeDAPAh08HZBdqHAoJDNCbtrBDf9AEAc6B"),
  (["radical"],
    "luAZBcYMgV"),
  (["ri", "regionalindicator"],
    "d2pGZ"),
  (["sterm", "sentenceterminal"],
    "bBAMAQAbkJAeTCfUAbLChWAb9ABADBjFBbxEByWAEByFAgGBgMAFAj6BlCDfOBCB9Bf8BcBB38BJCdpEANAWBnNA3" ++
    "h8AiOBhDADAl+BcWBc-AeYBeTCeQBhZAutGADBfJAMAQAcBAcxUBbh9EbMDf9BdVDd-CeBBGAQBcYBBBdMAnBBlVB" ++
    "FOdJBhZCqFABAh7BcXBnEBvUBcKBszJBeFAcBBLA0TAtqGAhpIA"),
  (["sd", "softdotted"],
    "dJBgEAiZA+AbUAUAkAAdCABAgiJAbTANADAeEAe9AnFAgWBczSAdj3FBbSBbSBbSBbSBbSBbSBbSBbSBbSBbSBbSB" ++
    "bSBceGAjRB6A"),
  (["term", "terminalpunctuation"],
    "bBAKABALBDAz+AIAqBAbZAcIAOABCfUAbLKBAhLBbWO-AiFBbhUBfMAEFjXByVHyFAd8CcHBe9CDAbHDCBj6BlCDf" ++
    "OBBC9Bf8Eb+B38BJCdpEANAEAKABBDBnMB3h7BiNChDEl+BcWBc-AeXCeTCd-AQBhZAutECBDfJAKABALBDAcBACA" ++
    "bb6AbQAbeGAgHAjWBeYFcEFcZD3YEbMDf9GdQDd-CeBBGAQBcYEdMAnBCMBlGDDOdJBhZCqFABAh7BcXBEBm+CbNA" ++
    "uFBcKBbjLErpZBeFAcBCKA0SBtqGAhpHD"),
  (["uideo", "unifiedideograph"],
    "naAgn-cAup-wqOBBABBKABABBCCcboWbjw-bAebZGg9CfuBOhjQfa-e0KFec-"),
  (["upper", "uppercase"],
    "cBZdFWBGbBABABABABABABABABABABABABABABABABABABABABABABABABABABABACABABABABABABABACABABABA" ++
    "BABABABABABABABABABABABABABABABABABABABBBABADBBABBBCCDBBBCDBBBBABABBBACABBBCBABBDAHACACAC" ++
    "ABABABABABABABACABABABABABABABABACACABCBABABABABABABABABABABABABABABABABABABABABABABABABA" ++
    "BABABABAHBBBCABDBABABABAjBABADAIAGABCBABBBQBIbDACCDABABABABABABABABABABABAFACABBCbSbQABAB" ++
    "ABABABABABABABABABABABABABABAJABABABABABABABABABABABABABABABABABABABABABABABABABABABBBABA" ++
    "BABABABACABABABABABABABABABABABABABABABABABABABABABABABABABABABABABABABABABABABABABABABAB" ++
    "ABABABABABABABACbFc0JbFBAFAwScVce6bKCCkAABABABABABABABABABABABABABABABABABABABABABABABABA" ++
    "BABABABABABABABABABABABABABABABABABABABABABABABABABABABABABABABABABABABABABABABABABABABAB" ++
    "ABABABABABAJABABABABABABABABABABABABABABABABABABABABABABABABABABABABABABABABABABABABABABA" ++
    "BABABABABABABABABABAJHIFKHIHIFLABABABAIHcIDMDMDMELDiGAEADCCCCADEGABABABDCDKBFA6PTAzSZbzQb" ++
    "PbQABCCABABABDBACAICBABABABABABABABABABABABABABABABABABABABABABABABABABABABABABABABABABAB" ++
    "ABABABABABABABABABABABABABABAIABAEA4kNABABABABABABABABABABABABABABABABABABABABABABATABABA" ++
    "BABABABABABABABABABABAeHABABABABABABADABABABABABABABABABABABABABABABABABABABABABABABABABA" ++
    "BABABABABAKABABBBABABABAEABACABADABABABABABABABABABABEBEBABABABABABABABDBAGAFABA8AvzLZbgF" ++
    "bHeIbDe8KBOBGBBbxKbSc5N-vmA-znAZ6Z6Z6ABBCACBCDBH6Z6BBDCHBG7BBDBEBADG7Z6Z6Z6Z6Z6Z+YbBYbBYb" ++
    "BYbBYbBAejVbBcaOZGZGZ"),
  (["vs", "variationselector"],
    "gaLCBAbzpQP0axQhP"),
  (["wspace", "whitespace", "space"],
    "JESAdEA6Afo-Acl-K9BFAbPAd3AA"),
  (["xidc", "xidcontinue"],
    "bQJHZEABZbPAKABACAFWB+BoJELOEHABARdUBBDCBAGEBABTBcSBeKBECfFBbFCAGbIIbMBABBBBBAI6ED9KFcJEd" ++
    "FBHCJBSCAQb6CdEObVEACACbNS7EKFXBFJcJBeACJBSBHCBCVBGBADDCICBCDIAEBBECLKABACCBFEBCVBGBBBBBB" ++
    "CABEEBCCDAHDBAHPLCBIBCBVBGBBBECJBCBCCAPDCJJGBCBHCBCVBGBBBECICBCCHCEBBECJBAQBBFDCBDDBBABBD" ++
    "BDCDLEEDCBDCAGAOJQMBCBWBPCIBCBDHBBCCACDCJQDBHBCBWBJBECIBCBDHBGBBDCJBCMMBCBbSBCBEFDHECJKFB" ++
    "CBRDXBIBACGDAEFBABHGJCBNbZFOBJbHBBABEBXBABWCEBABGBJCDbAAXBGJLABABAEJBbDETBRBbDJAbZcJGcNCb" ++
    "FBAFACbKBkMBDCGBABDCbIBDCbABDCGBABDCOBbYBDCcCCCJIOPQcVCFDtLCQBZFcKDKHVJVLTMMBCBBMcTDAEBCJ" ++
    "bBCBKGcYHbKFcFK+BLELKbHCELbLEZGKbF7Eb+B8CKGJNAINBPbRcMDJRIMdTMbXIJDbQCIHbKCCQCBbGFqVCFCbF" ++
    "CFCHBABABAB+CbUBGBADCBGDDCFEMFCBGcCBTA8ANAQMbTMEADLRAEACJBACFGABABABPCDFEEARbIctXhEGIMbFB" ++
    "AFACbXHAPXJGBGBGBGBGBGBGBGB-qFCZOBECEEcVCBCCBcZBDFbKBc9R-bQPqAgn-cAvuMcDbNCiMD7UbPEJBdSbF" ++
    "ICdGCb-FBBABEYbVEATbTMcFKJGXDABbQCbDM8DcAOKG+BbWJNCJGWDcIYCCPCEKFCFCFJGBGBbKBNGd6BBCJGk3D" ++
    "MWEbQiiElNCdJbGGMEFLBMBEBABBBBBdLbBeKGgZSb-CbVbIJGPQPDBYCbBABADABABABABd9TJHZEABZLcYDFCFC" ++
    "FCCbDLBZBSBBBOCNbCd6cFbUeIAeC8DbQPA--N9FbKF9CbDEHBEbKe9CJGbDEbDEbHIbTMKBOBGBBBKBOBGBBcDjW" ++
    "JVKHYFBbJBIcFFCABbLBBDACWKWJ+cBSBBKVKZcGbXGBcADBBFHBCB8CCEAbA8D8bDHB9ZbVKVKSNRdOcIbXbSNbS" ++
    "NbHIJkGbJBBDBcL-KAIbA-VbKU7WJcG-PJb7HANYHJGbUBJEDIbDCAJcEEDBMBAbDRBbEGDb+GBABDBOBJHb6FJGD" ++
    "BHCBCVBGBBBEBJCBCCCAGAFGCGDEeLcKFJED+cFBAIJfGbVCIXFbCcADALJbGbYHJbW6COEJGGfZb6dFcJVHCACHB" ++
    "BB9BBCIMJcGHCbNCHBB7b+IAIcJDAScIiHIBbMBIPJY9CVBNcJGBBBbLDABBBIIJGFBBBbEBBBFHJjWWJQBbIDENJ" ++
    "cWAcP2ZdGdORgDcsMdAPbbPQVd3KsGinZrYH+BJGcOBJG9CELbWJDMJJUFSvQb-eAcKEbYHQcABBBLBOf5XIbgVbK" ++
    "IixHDBGBBBjCPA9CCAODImLciEdKFMDIHJDBetBbNCWq+EDFIHCG+DeUCn7cUBcGBBCACBCDBLBABGBcABDCHBGB7" ++
    "BDBEBADGBkTCYBYB+BYB+BYB+BYB+BYBHCbRqAbWEbRIAOAWEBObcQ+GFgVGBQCGBBBEFb9bBAdQbMDNCJEAkB+Rb" ++
    "ZoWbJxGGBDBBBOBgELGbJcLEJbfGDB6BBBACABJBDBABAGAEABABABCBBBACABABABABABBBACDBGBDBDBABJBQFC" ++
    "BEBQdjUJbaGbjw-bAebZGg9CfuBOhjQda-q9bpCe0KFec-vxkQhP"),
  (["xids", "xidstart"],
    "cBZGZbPAKAEAFWB+BoJELOEHABAeBEBBDCBAGABCBABTBcSBeKIfFBbFCAGbIcH6EDbNbKbDBBdCBAPBHBKCCAQAB" ++
    "99cYLAYbAJBEAFVEAJADAXYHKFXBFRbJb6bVDASAHJPPEHCBCVBGBADDDAQANBBCOBKAIFEBCVBGBBBBBB-DBATCQ" ++
    "IBCBVBGBBBEDASAPBXALHCBCVBGBBBEDA+BBCPARABFDCBDDBBABBDBDCDLWAbUHBCBWBPDA6CCACB+AEHBCBWBJB" ++
    "EDA-BBBPBRIBCBbICAQAFCICYFFRDXBIBACGb6bPBANGb6BBABEBXBABJBAKACEBAVDbAAb-HBbD7EdTbKUAQFEDD" ++
    "ADBHCEMMARbFBAFACbKBkMBDCGBABDCbIBDCbABDCGBABDCOBbYBDCcCbFPQcVCFDtLCQBZFcKDKHRNSOROMBCPbT" ++
    "bDAEAcDcYHbIBAFcFK+bR9CELbLEZbWWJbUcSAc9bORHbW9NBKbL6bDbJCKbDCIHbKCCbJDBFBBDAFf-cAiVCFCbF" ++
    "CFCHBABABAB+CbUBGBADCBGDDCFEMFCBGdUANAQMdFAEACJBACFGABABABPCDFEEARbIctXhEGDDBMbFBAFACbXHA" ++
    "QWJGBGBGBGBGBGBGBGrGCZIHECEEcVGCBcZBDFbKBc9R-bQPqAgn-cAvuMcDbNCiMDPKBUbOQ+CcPbHICdGCb-FBB" ++
    "ABEYPBCBDBW9bTObRb+FDABBL7KWZ8HbO8AQEBJKEBbIXCBHUWDADbRBADBCECABAYCCKHCMFCFCFJGBGBbKBNGdS" ++
    "9k3DMWEbQiiElNCdJbGGMEFABJBMBEBABBBBBdLbBeKGgZSb-CbVbIJdXABADABABABABd9bEZGZLbXC+DFCFCFCC" ++
    "bDLBZBSBBBOCNbCd6cFbUiL8DbQbP-N9FbFK9CbDEHBEbKe9SbDEbDEbHIbTMKBOBGBBBKBOBGBBcDjWJVKHYFBbJ" ++
    "BIcFFCABbLBBDACWKWJ+cBSBBKVKZcGbXGBcAAPDBCB8bK8D8bDHB77bVKVKSNRdOcIbXbSNbSNbDk8bJGBcO8KAI" ++
    "VbKRbOU7WMbUbZBCANbMbAY6bD9ACAIbCDAMbPODVABAbDRBYTBb-GBABDBOBJHbObGHCBCVBGBBBEDASAMEe+bUS" ++
    "DUC+bPUBBAfYbObJDbEbPUAb7bKNAcH6bFGfZbLdUb--HCACHBBBXPABAc+HCbGQABA8AKbHHAVALbNTAScIiHIBb" ++
    "ERAbR9dQGBBBbFVAZFBBB-OAkHSPABMBbBd8AcP2ZdGdORgDcsMdAPbbPRFd3ZsGinZrYH+RcOR9SbPQD-UFSvQb-" ++
    "eAcKFAcCMcABBA8f5XIbgVbKIixHDBGBBBjCPA9CCAODImLciEdKFMDIHJf1GcUBcGBBCACBCDBLBABGBcABDCHBG" ++
    "B7BDBEBADGBkTCYBYB+BYB+BYB+BYB+BYBHbzU+GFiFb9eSbMKGQAkB9SbLpE7xUGBDBBBOBgEb7cDHAbfUDB6BBB" ++
    "ACABJBDBABAGAEABABABCBBBACABABABABABBBACDBGBDBDBABJBQFCBEBQekEbjw-bAebZGg9CfuBOhjQda-q9bp" ++
    "Ce0KFec-"),
  (["grlink", "graphemelink"],
    "ckNAd-Ad-Ad-Ad-Ad-Ad-Ad-AdNBQAd8AdPAd-AgJAfUBbwZB+Ae9AuNAhDAdFBcGBemLA4uGAbFAeXAeOAdMAjVA" ++
    "hWAxsRAbqGAbJAOAbZAdZBeLAdUAfUAdCAhUAd-Ah8Ad-AdWAdUAiNAiDBfBAcTASAcRAnFAiEBcRAnJB")]

end BotKeeper.Unicode
