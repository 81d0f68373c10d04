/-
# Segmentation classes

The classes of characters that decide where text may be cut.
-/
import BotKeeper.Unicode.Ranges

namespace BotKeeper.Unicode

/-- The classes of characters for breaks between grapheme clusters. -/
def graphemeBreakTable : List (List String × String) := [
  (["cn", "control"],
    "AJBBBRc-bANAblOAepRAb58ACBYGbRPbxuPAhQLnbUPbcdADfgPHyluF-dAd-hQdqP"),
  (["cr"],
    "NA"),
  (["eb", "ebase"],
    ""),
  (["ebg", "ebasegaz"],
    ""),
  (["em", "emodifier"],
    ""),
  (["ex", "extend"],
    "yAdPiTGiHbMBABBBBBAcIKbQUQAdFGCFCBBDbDA+6c7Kb6IJAYDBIBCBEbLCb8HbKXB-bXABAEHEADGKB9Ab6ABAC" ++
    "DIAJAKB6ACBbZAEBEBCCDA+BDALBbZAEEBBEAUBWFBAb6ABBBDIAHCKB+Ab7ABAMAJAbIADAbXABCFCBDHBLB9Ab6" ++
    "ACACADAFBHBLB8BbZBBACDIAJAKB9AcIAEACCBAIAcRACGMHdCACILGcJB7ABABAbXNBEBBFKBbDJAdGDBFBBCBZB" ++
    "ECQDNACBGAPAv-C3SC9B+B+BcABBGIACKJAbNCBAdVBbCAdWCEBJAGCg7BCAb6ABGBABACHGJCAbQ+bRDbQGBAFAb" ++
    "IIMBbADCBBCbYABBDABCb6HCBeYCBMBGEAGADBgGb-qMAgDbAc5+CeNAdA-rKFdJB3oUDBJbABcQBiQADAEAZBFAe" ++
    "XB6RNAbGHZKbOCbQACDCBbHAcDFCBCBMAIAbPAbTABCCBFBBAbKBIAhOACAEAtzQAxBPQPlOBs9AhCAeVEbuGCBBF" ++
    "DbICEAfFBr9DmDBcQCcGKbRDd7AbWObJACBKCbRDCBHAb9CbEEBHb+AMBbUIKDCAc-CCABBGACAe9ADHVBbZBBABA" ++
    "WAOGDEgDHCCBAXAcRACFBACABBBBhLACDGBBB7BcVHCABBdKABACFBAdFCCDBEiDIBBhVAKBBAEAeQDCBEAbAJbIF" ++
    "CDIAJFCCbOMBBmWGBFBAcSVCGBBBBd6FDABBBGBAcIBDABAk7BLBbUEFABAfh9AGOnu6Eb7GbaYAb-DcRAtfYBetB" ++
    "bNCWq+ABCEEIHCG+DeUCb37bWEbRIAOAWEBObkQGBQCGBBBEdEAfAGlXAb9Dp8D5AGdNGcvQEydbAc-eAhP"),
  (["gaz", "glueafterzwj"],
    ""),
  (["l"],
    "eiAc-bgaA8"),
  (["lf"],
    "KA"),
  (["lv"],
    "blaAA7A7A7A7A7A7A7A7A7A7A7A7A7A7A7A7A7A7A7A7A7A7A7A7A7A7A7A7A7A7A7A7A7A7A7A7A7A7A7A7A7A7A" ++
    "7A7A7A7A7A7A7A7A7A7A7A7A7A7A7A7A7A7A7A7A7A7A7A7A7A7A7A7A7A7A7A7A7A7A7A7A7A7A7A7A7A7A7A7A7" ++
    "A7A7A7A7A7A7A7A7A7A7A7A7A7A7A7A7A7A7A7A7A7A7A7A7A7A7A7A7A7A7A7A7A7A7A7A7A7A7A7A7A7A7A7A7A" ++
    "7A7A7A7A7A7A7A7A7A7A7A7A7A7A7A7A7A7A7A7A7A7A7A7A7A7A7A7A7A7A7A7A7A7A7A7A7A7A7A7A7A7A7A7A7" ++
    "A7A7A7A7A7A7A7A7A7A7A7A7A7A7A7A7A7A7A7A7A7A7A7A7A7A7A7A7A7A7A7A7A7A7A7A7A7A7A7A7A7A7A7A7A" ++
    "7A7A7A7A7A7A7A7A7A7A7A7A7A7A7A7A7A7A7A7A7A7A7A7A7A7A7A7A7A7A7A7A7A7A7A7A7A7A7A7A7A7A7A7A7" ++
    "A7A7A7A7A7A7A7A7A7A7A7A7A7A7A7A7A7A7A7A7A7A7A7A7A7A7A7A7A7A7A7A7A7A7A7A7A7A7A7A7A7A7A7A7A" ++
    "7A7A7A7A7A7A7A7A7A7A7A7A7A7A7A7A7A7A7A7A7A7A7A7A7A7A7A7A7A7A7A7A7A7A7A7A7A7A7A7A7A7A7A7A7" ++
    "A7A7A7A7A7A7A7A7A7A7A7A7A7A7A7A7A7A7A7A7A7A7A7A7A7A7A7A7A7A7A7A7A7A7A7A7A7A7A7A7A7A7A7A7A"),
  (["lvt"],
    "blaB6B6B6B6B6B6B6B6B6B6B6B6B6B6B6B6B6B6B6B6B6B6B6B6B6B6B6B6B6B6B6B6B6B6B6B6B6B6B6B6B6B6B6" ++
    "B6B6B6B6B6B6B6B6B6B6B6B6B6B6B6B6B6B6B6B6B6B6B6B6B6B6B6B6B6B6B6B6B6B6B6B6B6B6B6B6B6B6B6B6B" ++
    "6B6B6B6B6B6B6B6B6B6B6B6B6B6B6B6B6B6B6B6B6B6B6B6B6B6B6B6B6B6B6B6B6B6B6B6B6B6B6B6B6B6B6B6B6" ++
    "B6B6B6B6B6B6B6B6B6B6B6B6B6B6B6B6B6B6B6B6B6B6B6B6B6B6B6B6B6B6B6B6B6B6B6B6B6B6B6B6B6B6B6B6B" ++
    "6B6B6B6B6B6B6B6B6B6B6B6B6B6B6B6B6B6B6B6B6B6B6B6B6B6B6B6B6B6B6B6B6B6B6B6B6B6B6B6B6B6B6B6B6" ++
    "B6B6B6B6B6B6B6B6B6B6B6B6B6B6B6B6B6B6B6B6B6B6B6B6B6B6B6B6B6B6B6B6B6B6B6B6B6B6B6B6B6B6B6B6B" ++
    "6B6B6B6B6B6B6B6B6B6B6B6B6B6B6B6B6B6B6B6B6B6B6B6B6B6B6B6B6B6B6B6B6B6B6B6B6B6B6B6B6B6B6B6B6" ++
    "B6B6B6B6B6B6B6B6B6B6B6B6B6B6B6B6B6B6B6B6B6B6B6B6B6B6B6B6B6B6B6B6B6B6B6B6B6B6B6B6B6B6B6B6B" ++
    "6B6B6B6B6B6B6B6B6B6B6B6B6B6B6B6B6B6B6B6B6B6B6B6B6B6B6B6B6B6B6B6B6B6B6B6B6B6B6B6B6B6B6B6B6"),
  (["pp", "prepend"],
    "bqAFgXAbRAmABcQAbdLAca1OAPAhUBb17ABAhYAcJFv8An7A"),
  (["ri", "regionalindicator"],
    "d2pGZ"),
  (["sm", "spacingmark"],
    "ciDAbXACCIDBBbSBb7BGBCBbWAb6CcCAb6CIABBbVBb8AGBCBdSABBDCBCbUCb9Db9Bb6ABBBBCBBBbHAOBb7BFCB" ++
    "CbVBcMBGGTBb-Ad-AeKBb-AfRAJBZBbMAbuQA+AeBAHHBBk6DCCEBBFhABb6ABAVFeRAbWABEBBb9A+AEBCAb8ACC" ++
    "BADBbQHIBfLAVAbczLBCAcYBbSPeOBbPAbQBEBCCdOBCBYAe9ACBFAhNBBBBBBAzaTABAd-AbNCEBdTAYBb7AbQCJ" ++
    "BNAc9CDBBAfKC-Bb7ABDCBCCUBgRCIBDAdLBGABBBACAhOBGDCAdRCIBBAdNABBGAdPAiFCJAhYEBBEACABAeOCID" ++
    "EAcUA9Bb+AmXAOAdKAHACAgVEEBBAk+BMAbQBIBBAuaPbWdIBylUAGA"),
  (["t"],
    "enIcXbroLbQ"),
  (["v"],
    "elAcHbrqIW"),
  (["xx", "other"],
    "bAc+bBMBsRdQiSHiGbNABACACABbXGJLABbNVPBdEIAGBCAEbABAB97c6LbZJIBXEAJADAFbKDbTCFIbJb6bVDASA" ++
    "HJC8DbXBAHBCBDIBJCZBBDbXBAFDCBDCB9CCBKDbXBAIADADTCVGADbXBAHBCBDGDJC9Bb6FCDAEIBbHFbWBAHADA" ++
    "EGCKC8DbXBAHADAEGCKCOBLEbWCAHADAFHBJC8DcFBDGABAIRCb8BAILIdBBAKKHcIC6BABABDCbQUACELAbEIBdF" ++
    "LAGWEDDPEMBADFBOBdBiAk8D3RE7D8C9Cb-bAIBbMFdUCbBBdVMDMg6FbYKABABBYBBbP-bQFbORbFJLD9NbXObPU" ++
    "eXDAVDBFBBDgFcAqKFXHbQQc-bBc59DeMBc-bArJGdIC3oTEAK-CcPCiPBCBDBWFDBcSCbRSZSMBbFIYNL9CEbOOb" ++
    "DBcCOLBHCbNBbSBADBCECABbIFEChLIACRk3ELXDbRizBBxAQPQgOBe9CcPMqABhBBeUFbuFDACEEbHDDBfECr8Em" ++
    "CCcPDcFLbQEdZDbUPbIBBCJEbMLBBDBJBbRDbDOPCbLBLDbPOACEEACc7MFBBBe8MUEbWCAHBCBDIBJCBHCFf-SWB" ++
    "cQUhKHBJ6CcRRdJNdEDBKh-PhUGACBJeMHBHCB7KbHMHBILbHWmUIAIcRWAOdZGCBACAJcBFACAFk6EIEbPHCFfhM" ++
    "RFPnuZFb6HbaXBAbXGEcQBKCtfKCAEes7bOBXq9FCWBH9EeTDb36bXDbSHBNBVFAPbkPHARBHACAFdDBe-HlWBb8E" ++
    "p7E4-HdMHce66p6Fyc5-eaAf15-"),
  (["zwj"],
    "iaNA")]

/-- The classes of characters for breaks between words. -/
def wordBreakTable : List (List String × String) := [
  (["cr"],
    "NA"),
  (["dq", "doublequote"],
    "bCA"),
  (["eb", "ebase"],
    ""),
  (["ebg", "ebasegaz"],
    ""),
  (["em", "emodifier"],
    ""),
  (["ex", "extendnumlet"],
    "c-Ah4PAPBTAbxo+BYChPA"),
  (["extend"],
    "yAdPiTGiHbMBABBBBBAcIKbQUQAdFGCFCBBDbDA+6c7Kb6IJAYDBIBCBEbLCb8HbKXBbAbWCBRBGKB9CbYABGCBCC" ++
    "JAKB6ACCbYABEEBCCDA+BDALCbYABHBCBCUBWFBCbYABGCBCCHCKB+Ab7EDCBDJAbIEbXABGBCBDHBLB9CbYABGBC" ++
    "BDHBLBPAMDbXBBGBCBDJAKB9CcGAEFBABHSBb9ACGMHdCACILGcJB7ABABAEBbRTBBFKBbDJAdETXDECBCCGDDNLB" ++
    "AKDv-C3SD8C9B+BcA-JAbNCBAdVBbCAdWLELg7EbZJB8CAbQ+bREbPQbGIMC+MbYNbQTeYCBUEAGACCgGb-qMAgDb" ++
    "Ac5+CeNAdA-rKFdJB3oUDBJbABcQBiQADAEAXEEAcTBbSR6RNAbGHZMbMDbPNbEAcDNMAIBbNCbSABCCBFBBAbJEF" ++
    "BhMHBBtzQAxBPQPlOBs9AhCAeVEbuGCBBFDbICEAfFBr9DmDBcQCcGKbRDd6CbVObJACBKDbNKHAb9CbENQBbMAMC" ++
    "bQNIDBBc8LGACAe9LVDbXBBGCBCCJAKBCGDEgARXAcRThLGCI7BcSQdKMdFOiAOhVFBBCDBABBeNGCGDA8JbIGBDI" ++
    "AJKbOPmVHBHcSVBNd6FDABBBGBAcCEBBBEk7DJBBAbQGDEfh9AGOnu6Eb7GbaYABbWHDcRALBtfLBetBbNCWq+EDF" ++
    "IHCG+DeUCb37bWEbRIAOAWEBObkQGBQCGBBBEdEAfAGlXAb9Dp8D5AGdNGcvQEydbAc-eAhP"),
  (["fo", "format"],
    "fNAbkSFWAgAAbRAmABcQAdzLAb5-B6EbREBJbxuPAhZCegBAPAi1CPbcdADfgPHyluGA"),
  (["gaz", "glueafterzwj"],
    ""),
  (["hl", "hebrewletter"],
    "boQ6EDb3jKABJBMBEBABBBBBJ"),
  (["ka", "katakana"],
    "mbREdFBDc6BDhQPgQbOBcXbtaObXbmcSDBGBBBAi-CbSAOD"),
  (["le", "aletter"],
    "cBZGZbPAKAEAFWB+Bo-GbBdQEBBCDBAGABCBABTBcSBeKIfFBbFCDBABbIBAdIAbMbKbDBBdCBAPBHBKCCAQAB99c" ++
    "YLAYbAJBEAFVEAJADAXYHKFXBFRbJb6bVDASAHJPPEHCBCVBGBADDDAQANBBCOBKAIFEBCVBGBBBBBB-DBATCQIBC" ++
    "BVBGBBBEDASAPBXALHCBCVBGBBBEDA+BBCPARABFDCBDDBBABBDBDCDLWAbUHBCBWBPDA6CCACB+AEHBCBWBJBEDA" ++
    "-BBBPBRIBCBbICAQAFCICYFFRDXBIBACGjZAb-HBbD7EiTbFBAFACbKBkMBDCGBABDCbIBDCbABDCGBABDCOBbYBD" ++
    "CcCbFPQcVCFDtLCQBZFcKDKHRNSOROMBCfPcYHECbBBAFcFK+hBWhObORHbW9NBKbL6bDbJCKbDCIHbKCCbJDBFBB" ++
    "DAFf-cAiVCFCbFCFCHBABABAB+CbUBGBADCBGDDCFEMFCBGdUANAQMdFAEACJBADEGABABABDBKCDFEEARbIzNbTb" ++
    "yWhEGDDBMbFBAFACbXHAQWJGBGBGBGBGBGBGBGcQAoVAbVBgIbKBc9R-1sAbeMcDbNCiMDPKBUbOQ+CcPYgCFBBAB" ++
    "EYPBCBDBW9bTObRb+FDABBL7KWZ8HbO8AbQbIXCBHeUKHCMFCFCFJGBGBbZGdS9k3DMWEbQiyEGMEbYdBbBlKSb-C" ++
    "bVbILdUEBeGbEZGZcF+DFCFCFCCbDLBZBSBBBOCNbCd6cFbUiL8DbQbP-N9FbFK9CbDEHBEbKe9SbDEbDEbHIbTMK" ++
    "BOBGBBBKBOBGBBcDjWJVKHYFBbJBIcFFCABbLBBDACWKWJ+cBSBBKVKZcGbXGBcAAPDBCB8bK8D8bDHB77bVKVKSN" ++
    "RdOcIbXbSNbSNbDk8bJGBcO8KAIVbKRbOU7WMbUbZBCANbMbAY6bD9ACAIbCDAMbPODVABAbDRBYTBb-GBABDBOBJ" ++
    "HbObGHCBCVBGBBBEDASAMEe+bUSDUC+bPUBBAfYbObJDbEbPUAb7bKNAkHbLdUb--HCACHBBBXPABAc+HCbGQABA8" ++
    "AKbHHAVALbNTAScIiHIBbERAbR9dQGBBBbFVAZFBBB-OAkHSPABMBbBd8AcP2ZdGdORgDcsMdAPbbPRFd3ZsGinZr" ++
    "YH+RcOR9SbPQD-UFSvQb-eAcKFAcCMcABBAta8dKFMDIHJf1GcUBcGBBCACBCDBLBABGBcABDCHBGB7BDBEBADGBk" ++
    "TCYBYB+BYB+BYB+BYB+BYBHbzU+GFiFb9eSbMKGQAkB9SbLpE7xUGBDBBBOBgEb7cDHAbfUDB6BBBACABJBDBABAG" ++
    "AEABABABCBBBACABABABABABBBACDBGBDBDBABJBQFCBEBQtUZGZGZ"),
  (["lf"],
    "KA"),
  (["mb", "midnumlet"],
    "bOAh5JBKAbxrNAfUAGA"),
  (["ml", "midletter"],
    "b6Ad8AwPAoXAeUAgrSAbxpLAcBAgEA"),
  (["mn", "midnum"],
    "bMAOA0CAqKAeCBc+AmLAgcLAbxoLADAb7ADAfXAOA"),
  (["nl", "newline"],
    "LBdYAh3CB"),
  (["nu", "numeric"],
    "bQJbrGJBAeEJgGJm8JdWJdWJdWJdWJdWJdWJdWJdWJdWJdAJdWJcGJiWJcGJb0GJbGJjMJeAJfGJGJfWJcWJeGJGJ" ++
    "bcoGJvGJbGJgGJWJcWJmWJuyWJbmGJceGJzMJeAJb8JeQJiWJkWJdWJlWJdGJdGJnGJdGJxWJhWJcGJnGJsyGJcWJ" ++
    "eGJ1dUbRckAJnGJpWJbcWJeuWJ"),
  (["ri", "regionalindicator"],
    "d2pGZ"),
  (["sq", "singlequote"],
    "bHA"),
  (["wsegspace"],
    "bAAfs-Acl-GBCcUAd3AA"),
  (["xx", "other"],
    "AJERBABDBDBABAME6DBA6JBbDBBBGBABBBEXA-ApAFeXACBGFFABAUAcTAeLAfNAbGBEAbNFbNABACACABH7DGKGF" ++
    "CBLABCcKACAdGAJAKATBBOb8BdFNbWBBABBBBbOR8DLEYAGACFgMBKATAIBCBWAHABCEBJBCBEHBDCAFBMJBABBDA" ++
    "GDCBWAHACACACBBAFDCBDCBGEABGQKDAJADAWAHACAFBKADADBBOEBKIHADAIBCBWAHACAFBJBCBDGDDCAFBKABPC" ++
    "AGCDAECCABACCCCDCMDFCDAEBBFBNKPNADAXAQBJADAEGCADBBBEBKPEAIADAXAKAFBJADAEGCFCAEBKADLNADAbT" ++
    "ADAFEEGFBKJGADASCYAJABBHCBDGABAIFKBCb8BBHLIAKcWBBJKHAKbFBWCFKKBABABDKAbEDUASAbEIBdDUAKLED" ++
    "DADBHCEMMAPBbGABEBBbLAkNAEBHABAEBbJAEBbBAEBHABAEBPAbZAEBcDBD-QPcWBGCtMBbMEcLCLGWIWKULNADA" ++
    "Cb-bAIBBKbAPFcZGbLEcGJ-AMDMJKd-KbF8bYKA9BLFKV-bQcNCKQJLdULbYHKCbRBJGbLBDPDAbHEqWBGBbGBGBI" ++
    "ABABABA-BbVAHABCDAHCEBGDNEDAHCHADAEHCJBBJOCCBOBJGAKABMBPNbSbBQBDBBKABCFFBABABAEALBEEFDBQb" ++
    "JzMbUbyVhFFJLbGABEBBbYGBOYIHAHAHAHAHAHAHAHAbAbOBoPBDBbDGAFECc7ECc7AEEbLAc+QbAbPQgPbPAcY1f" ++
    "HbeNcCbOBiNC8TbTAKAdTVgDECABAFXbWDBSbULcGJKFYCBAbRBbEL9CcBNLKBJKFbXIOBKbADbRBADBCECAB9QBF" ++
    "JGBGBGIHAHAb6Fd7ACBKFk3ELXDbRiyDHLFEMANAFABACACAdMbAlLRcABbWbHMDRBCKQCCXEABACZFAeHBBGBDBA" ++
    "BAME6DBA6KcZCGBGBGBD7DDMA6ATACAPBObBd7cEbVeHBeB9CbROB+bAM+EbLE+BbEDIAFbJe+BKFbEDbEDbIHbUL" ++
    "LAPAHACALAPAHACcCjXIWJIXGAbKAJcEGBBAbMACCBBXJXI-cATACJWJ6cFbYFCb-EACEIADA9BDDB-9C9bCIA+Yb" ++
    "WJWJTMSdNcJbWbTMbTMbIHKkFbKACCCcKbAJBHbB+WbJV6XIcH+QIb8BBDBJBBZGKFbVAKDEHbEBBIcFDEANABbCS" ++
    "AbFFEb9HABAEAPAKGb7EKFEAIBCBWAHACAFAKBCBDBBFBEHBHCFeKcLEKDE9cGABHKfFbWBJWGbBcBCBKKbFbZGKc" ++
    "SPDKgFb7dEcKUIBBBIACA+ACBJLKcFIBbOBIAC6b-HBHcKCBRcJiGJAbNAJOKX+BWAOcIHACAbMCBACAJHKFGACAb" ++
    "FACAGGKjVXIRAbJCFMKcVBcO26dFdPQgEcsLdBObcWd3JsHinYrZG-AKFcPAKF+BFKbXIELKIVETvPcAd-cLDbZGR" ++
    "b-CACKCp59EAHACABi+DbRBNEcuXdLENCJGKCCAEes7bOBXq9FCWBH9EeTDn6cVAcHACBBBCBEAMABAHAcBAEBIAH" ++
    "A8AEAFABCHAkUBZAZA-AZA-AZA-AZA-AZAIBbSp-bXDbSHBNBVFAPbcP-FGgUHARBHACAFEb+bABdPbNCOBKDBkA-" ++
    "Qb6oVbKxFHAEACAPAgFKHbIcMDKbfFEA7ACABBBAKAEABABFBDBABABADACABBBABABABABACABBEAHAEAEABAKAR" ++
    "EDAFARtT6F6F6c76p6Fb5PKybaGB9dAd-hQf5qP"),
  (["zwj"],
    "iaNA")]

/-- The classes of characters for breaks between sentences. -/
def sentenceBreakTable : List (List String × String) := [
  (["at", "aterm"],
    "bOAh5VAbxrNAf7A"),
  (["cl", "close"],
    "bCAECbRABA9ABAbNAPAdt+Db09Bcl7HZBKBbWBOBtZD9BbbQFHNcPB-JmTVb-DbABbaCNOBCJYASHnLJCHBCbti+B" ++
    "gXB8PCBQFfJBbRABA9ABABBBBb3ySC"),
  (["cr"],
    "NA"),
  (["ex", "extend"],
    "yAdPiTGiHbMBABBBBBAcIKbQUQAdFGCFCBBDbDA+6c7Kb6IJAYDBIBCBEbLCb8HbKXBbAbWCBRBGKB9CbYABGCBCC" ++
    "JAKB6ACCbYABEEBCCDA+BDALCbYABHBCBCUBWFBCbYABGCBCCHCKB+Ab7EDCBDJAbIEbXABGBCBDHBLB9CbYABGBC" ++
    "BDHBLBPAMDbXBBGBCBDJAKB9CcGAEFBABHSBb9ACGMHdCACILGcJB7ABABAEBbRTBBFKBbDJAdETXDECBCCGDDNLB" ++
    "AKDv-C3SD8C9B+BcA-JAbNCBAdVBbCAdWLELg7EbZJB8CAbQ+bREbPQbGIMC+MbYNbQTeYCBUEAGACCgGb-qMBgCb" ++
    "Ac5+CeNAdA-rKFdJB3oUDBJbABcQBiQADAEAXEEAcTBbSR6RNAbGHZMbMDbPNbEAcDNMAIBbNCbSABCCBFBBAbJEF" ++
    "BhMHBBtzQAxBPQPlOBs9AhCAeVEbuGCBBFDbICEAfFBr9DmDBcQCcGKbRDd6CbVObJACBKDbNKHAb9CbENQBbMAMC" ++
    "bQNIDBBc8LGACAe9LVDbXBBGCBCCJAKBCGDEgARXAcRThLGCI7BcSQdKMdFOiAOhVFBBCDBABBeNGCGDA8JbIGBDI" ++
    "AJKbOPmVHBHcSVBNd6FDABBBGBAcCEBBBEk7DJBBAbQGDEfh9AGOnu6Eb7GbaYABbWHDcRALBtfLBetBbNCWq+EDF" ++
    "IHCG+DeUCb37bWEbRIAOAWEBObkQGBQCGBBBEdEAfAGlXAb9Dp8D5AGdNGyfwVc-eAhP"),
  (["fo", "format"],
    "fNAbkSFWAgAAbRAmABcQAdzLAb58ACB6EbREBJbxuPAhZCegBAPAi1CPbcdADfgPHyluGA"),
  (["le", "oletter"],
    "n7AEDgQAbEGGL6ABAeFApEAdW6EEbMbKbDBBdCBAPBHBKCCAQAB99cYLAYbAJBEAFVEAJADAXYHKFXBFRbJb6bVDA" ++
    "SAHJPPEHCBCVBGBADDDAQANBBCOBKAIFEBCVBGBBBBBB-DBATCQIBCBVBGBBBEDASAPBXALHCBCVBGBBBEDA+BBCP" ++
    "ARABFDCBDDBBABBDBDCDLWAbUHBCBWBPDA6CCACB+AEHBCBWBJBEDA-BBBPBRIBCBbICAQAFCICYFFRDXBIBACGb6" ++
    "bPBBMGb6BBABEBXBABJBBJACEBAVDbAAb-HBbD7EdTbKUAQFEDDADBHCEMMAcBbKCkLBDCGBABDCbIBDCbABDCGBA" ++
    "BDCOBbYBDCcCbFPdRtLCQBZFcKDKHRNSOROMBCPbTbDAEAcDcYHECbBBAFcFK+bR9CELbLEZbWWJbUcSAc9bORHbW" ++
    "9NBKbL6bDbJCKbDSbKCCbJDBFBBDAbb6DcHCCDc3HbXHAQWJGBGBGBGBGBGBGBGcQAoVCZIHECEEcVGCBcZBDFbKB" ++
    "c9R-bQPqAgn-cAvuMcDbNCiMDPKBcCAQAbAcPbHIdIAGAdHADGBCBDBW9bTObRb+FDABBL7KWZ8HbO8AQEBJKEBbI" ++
    "XCBHUWDADbRBADBCECABAYCCKHCMFCFCFJGBGeRbC9k3DMWEbQiiElNCdJcDABJBMBEBABBBBBdLbBlKSb-CbVbIL" ++
    "dUEBeGdJbXC+DFCFCFCCbDLBZBSBBBOCNbCd6cFbUiL8DbQbP-N9FbFK9CbDEHBEd6cNdCbHIbTe8jWJVKHZBd9FC" ++
    "ABbLBBDACWKWJ+cBSBBKVKZcGbXGBcAAPDBCB8bK8D8bDHB77bVKVKSNRdOcIfXbDk8bJGBcO8KAIVbKRbOU7WMbU" ++
    "bZBCANbMbAY6bD9ACAIbCDAMbPODVABAbDRBYTBb-GBABDBOBJHbObGHCBCVBGBBBEDASAMEe+bUSDUC+bPUBBAfY" ++
    "bObJDbEbPUAb7bKNAcH6bFGfZbLgTHCACHBBBXPABAc+HCbGQABA8AKbHHAVALbNTAScIiHIBbERAbR9dQGBBBbFV" ++
    "AZFBBB-OAkHSPABMBbBd8AcP2ZdGdORgDcsMdAPbbPRFd3ZsGinZrYH+RcOR9SbPQD-UFS1QcKFAcCMcABBA8f5XI" ++
    "bgVbKIixHDBGBBBjCPA9CCAODImLciEdKFMDIHJitQApVbMKGQAkB9SbLpE7xUGBDBBBOBgEeGAbfUDB6BBBACABJ" ++
    "BDBABAGAEABABABCBBBACABABABABABBBACDBGBDBDBABJBQFCBEBQekEbjw-bAebZGg9CfuBOhjQda-q9bpCe0KF" ++
    "ec-"),
  (["lf"],
    "KA"),
  (["lo", "lower"],
    "dBZbPAKAEAbEXBHBABABABABABABABABABABABABABABABABABABABABABABABABABABABBBABABABABABABABBBA" ++
    "BABABABABABABABABABABABABABABABABABABABABABACABABCCABACADBEACADCCACABABACABBBACADABACBCCG" ++
    "ACACABABABABABABABABBBABABABABABABABABBCABADABABABABABABABABABABABABABABABABABABABABABABA" ++
    "BABABABABABABGCACBBAEABABABABcEBbDHB+EeMABADACDSA7bCBBDCBABABABABABABABABABABABEBACACBbTb" ++
    "PBABABABABABABABABABABABABABABABABAJABABABABABABABABABABABABABABABABABABABABABABABABABABA" ++
    "CABABABABABABBBABABABABABABABABABABABABABABABABABABABABABABABABABABABABABABABABABABABABAB" ++
    "ABABABABABABABABABABAbQbIc1TAx7FceCIdXf-cBABABABABABABABABABABABABABABABABABABABABABABABA" ++
    "BABABABABABABABABABABABABABABABABABABABABABABABABABABABABABABABABABABABABABABABABABABABAB" ++
    "ABABABABABABIBABABABABABABABABABABABABABABABABABABABABABABABABABABABABABABABABABABABABABA" ++
    "BABABABABABABABABABABIIFKHIHIFKHIHINCHIHIHIEBBGADCBBIDCBIHKCBBdZANAQMdNADBDA7AEAEACBIDEAb" ++
    "BPEA0LZb0GbPBADBBABABAEABBBHDABABABABABABABABABABABABABABABABABABABABABABABABABABABABABAB" ++
    "ABABABABABABABABABABABABABABABABABABABBHABAEAMbFBAFA4iTABABABABABABABABABABABABABABABABAB" ++
    "ABABABABABATABABABABABABABABABABABABABCeFABABABABABABCBABABABABABABABABABABABABABABABABAB" ++
    "ABABABABABABABABABABABABABJBABACABABABABAEABACABCBABABABABABABABABABAFAFABABABABABABABAEA" ++
    "BAGABABABABAYCBABCzVbKBNGcPt0AGMEbbJZbgNbHeIbDe7KBOBGBBoDACCBbJBIbiFbSc4N-vmA-zm6Z6GBR6Z6" ++
    "DBABGBK6Z6Z6Z6Z6Z6Z6Z6Z678YBF6YBF6YBF6YBF6YBFBAbzUJBTGFiFb9cfUbB"),
  (["nu", "numeric"],
    "bQJbrGJBBeDJgGJm8JdWJdWJdWJdWJdWJdWJdWJdWJdWJdAJdWJcGJiWJcGJb0GJbGJjMJeAJfGJGJfWJcWJeGJGJ" ++
    "bcoGJvGJbGJgGJWJcWJmWJuyWJbmGJceGJzMJeAJb8JeQJiWJkWJdWJlWJdGJdGJnGJdGJxWJhWJcGJnGJsyGJcWJ" ++
    "eGJ1dUbRckAJnGJpWJbcWJeuWJ"),
  (["sc", "scontinue"],
    "bMBMAbjCAfOBpKAeaJAFAcaKBd5MAbtqOBBA9B9BDACAKAfIBMAcJA"),
  (["se", "sep"],
    "eFAh3CB"),
  (["sp"],
    "JABBTAd-Afo-Acl-KbEAbPAd3AA"),
  (["st", "sterm"],
    "bBA9AbkJAeTCfUAbLChWAb9ABADBjFBbxEByWAEByFAgGBgMAFAj6BlCDfOBCB9Bf8BcBB38BJCdpEANAWBnNA3h8" ++
    "AiOBhDADAl+BcWBc-AeYBeTCeQBhZAutKBfJA9AcBAcxUBbh9EbMDf9BdVDd-CeBBGAQBcYBBBdMAnBBlVBFOdJBh" ++
    "ZCqFABAh7BcXBnEBvUBcKBszJBeFAcBBLA0TAtqGAhpIA"),
  (["up", "upper"],
    "cBZdFWBGbBABABABABABABABABABABABABABABABABABABABABABABABABABABABACABABABABABABABACABABABA" ++
    "BABABABABABABABABABABABABABABABABABABABBBABADBBABBBCCDBBBCDBBBBABABBBACABBBCBABBDAHBBBBBB" ++
    "ABABABABABABABACABABABABABABABABACBBABCBABABABABABABABABABABABABABABABABABABABABABABABABA" ++
    "BABABABAHBBBCABDBABABABAjBABADAIAGABCBABBBQBIbDACCDABABABABABABABABABABABAFACABBCbSbQABAB" ++
    "ABABABABABABABABABABABABABABAJABABABABABABABABABABABABABABABABABABABABABABABABABABABBBABA" ++
    "BABABABACABABABABABABABABABABABABABABABABABABABABABABABABABABABABABABABABABABABABABABABAB" ++
    "ABABABABABABABACbFc0JbFBAFAwScVcqKABABABABABABABABABABABABABABABABABABABABABABABABABABABA" ++
    "BABABABABABABABABABABABABABABABABABABABABABABABABABABABABABABABABABABABABABABABABABABABAB" ++
    "ABABAJABABABABABABABABABABABABABABABABABABABABABABABABABABABABABABABABABABABABABABABABABA" ++
    "BABABABABABABAJHIFKHIHIFLABABABAIHYHIHIHIELELDMELEiFAEADCCCCADEGABABABDCDKBFA6PTAzSZbzQbP" ++
    "bQABCCABABABDBACAICBABABABABABABABABABABABABABABABABABABABABABABABABABABABABABABABABABABA" ++
    "BABABABABABABABABABABABABABAIABAEA4kNABABABABABABABABABABABABABABABABABABABABABABATABABAB" ++
    "ABABABABABABABABABABAeHABABABABABABADABABABABABABABABABABABABABABABABABABABABABABABABABAB" ++
    "ABABABABAKABABBBABABABAEABACABADABABABABABABABABABABEBEBABABABABABABABDBAGAFABA8AvzLZbgFb" ++
    "HeIbDe8KBOBGBBbxKbSc5N-vmA-znAZ6Z6Z6ABBCACBCDBH6Z6BBDCHBG7BBDBEBADG7Z6Z6Z6Z6Z6Z+YbBYbBYbB" ++
    "YbBYbBAejVbBcaOZGZGZ"),
  (["xx", "other"],
    "AIFRDDDBDALDBA7ABC7ABGBZBICABGBDCDXA-AoKDMNFGBABQdVACBEABFBADABAUAcTAeLAfNAbGBBCBBbKGbNAB" ++
    "ACACABH7DFLGFCBLAcOACAdQAKATBELb8BdFNbWBDBBBbOIBABCCA8DLEYAGACFgYATAIBCBWAHABCEBJBCBEHBDC" ++
    "AFBMJBABBDAGDCBWAHACACACBBAFDCBDCBGEABGQKDAJADAWAHACAFBKADADBBOEBKIHADAIBCBWAHACAFBJBCBDG" ++
    "DDCAFBKABPCAGCDAECCABACCCCDCMDFCDAEBBFBNKPNADAXAQBJADAEGCADBBBEBKPEAIADAXAKAFBJADAEGCFCAE" ++
    "BKADLNADAbTADAFEEGFBKJGADASCYAJABBHCBDGABAIFKBCMb6EPAKbGCABAFAYABAXBFABAHAKBE-BWCFKKBABAP" ++
    "AbEDUASAbEIBbYcMDcOBbGABEBBbLAkNAEBHABAEBbJAEBbBAEBHABAEBPAbZAEBcDBDBBDCWQPcWBGCtMAbPCcLC" ++
    "LGWIYIULNADACLcUCBDCBKXCDCAPFcZGbLEcGJ-AMDMHbKBFKbMD6FKbF8Db-A9BLFKMFD-bQcNCMBCKJICAdULbY" ++
    "CCCKCb8GbLBDPDAbHEqWBGBbGBGBIABABABA-BbVAHABCDAHCEBGDNEDAHCQCCCIDBCIICACGFUGAKABKDMCANbSb" ++
    "BQBDBBKABCFFBABABAEALBEEFDBQbJl+E8CmKbUtQGGOcOC+KmSWb+E-CqBhFFJLbGABEBBbYGBOYIHAHAHAHAHAH" ++
    "AHAHAbONCBKDCLBEBPKnCDBNBIADAPAFBFDcWBCBDAc6AEEbLAc+QbAbPQp-goAb-vuNcCbOAiOA+TbTAKAdTABCB" ++
    "+JBdHBcAECABAFXbWDBSbUBCHcGHMFYCBAbRAbFL9CcBGCELF-AbXIOBKC6CcJXDBXJGBGBGIHAHAbLAOFd+BKFk3" ++
    "ELXDbRiiDlOBdKbFHLFEMANAFABACACAdMbAlNPcABbWbHMDSABCCGQACBQBCGDBKDBLFAeHBBABFCBDALDBA7ABC" ++
    "7ABAGAcZCGBGBGBD7DDMA6ATACAPBObBd7cEbVeHBeB9CbROB+bAM+EbLE+BbEDIAFbJe+BKFbEDbEDbIHbULLAPA" ++
    "HACALAPAHACcCjXIWJIXGAbKAJcEGBBAbMACCBBXJXI-cATACJWJ6cFbYFCb-EACEIADA9BDDBVCH9C9bCIA+YbWJ" ++
    "WJTMSdNcJbWbTMbTMbIHKkFbKACCCcKbAJBHbBDFV6bFV6XIcJ8QIb8BGJBBZGKFbVAKAHHbEBBIcHBSABAC-SAbH" ++
    "ACAEb9HABAEAPALFb7EKFEAIBCBWAHACAFAKBCBDBBFBEHBHCFeKcNCKDE9cGABHKfFbWBJACEVbBcDABKKbFbZGK" ++
    "bV7BPDKBDAHfYb7dEcKUIBBBIACA+ACBKABIKcFIBbOBIAC6b-CCCBHcKADRcJiGJAbNALMKX+BWAOcIHACAbMCBA" ++
    "CAJHKFGACAbFACAGGKjVZGRAbJCHKKcVBcO26dFdPQgEcsLdBObcWd3JsHinYrZG-AKDcRAKF+BGJbZGFKKIVETvP" ++
    "cAXBdGcLDbZGRb-CACKCNf5YHbgWbJJixGEAHACAjDOB8DBBNEHmMciDdLENCJGKCHes7bOBXq9FCWBH9EeTDn6cV" ++
    "AcHACBBBCBEAMABAHAcBAEBIAHA8AEAFABCHAkUBZAZA-AZA-AZA-AZA-AZAIBbSp-bXDbSHBNBCBRFAPbcP-FGgU" ++
    "HARBHACAFEb+bABdPbNCOBKDBkA-Qb6oVbKxFHAEACAPAgFKHbIcMDKbfFEA7ACABBBAKAEABABFBDBABABADACAB" ++
    "BBABABABABACABBEAHAEAEABAKAREDAFARtT6F6F6bhLDblWKbaFbjxA-eb6Fg+BfuCNhjRda+q+bpBe0LEedAvxc" ++
    "QB9dAd-hQf5qP")]

end BotKeeper.Unicode
