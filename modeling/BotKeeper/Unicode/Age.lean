/-
# Ages

The characters that each version of the standard added.
-/
import BotKeeper.Unicode.Ranges

namespace BotKeeper.Unicode

/-- The versions in order and the characters each of them added. -/
def ageTable : List (List String × String) := [
  (["1.1", "v11"],
    "ApVE9bYcYHbOBJWcF6BSBEADAFGBABTBbLBGDABABABABRNLBcBBLBbIJbUCBCBD7CHCBbXbFCGBbGBAbGJBIM6FE" ++
    "XAOADABZFSNNCcHCEBOB9CJqHCBbUCRCEDYQCBHCBCVBGBADDCABGCBCCJAEBBECUHACFEBCVBGBBBBBBCABEEBCC" ++
    "LDBAHOMCBGBABCBVBGBBBECJBCBCCAPAFJRCBHCBCVBGBBCDCHDBCCIBEBBCEKRBBFDCBDDBBABBDBDCDHBCEEDCB" ++
    "DJAPLOCBHBCBWBJBEEGBCBDHBJBEJSBBHBCBWBJBEEGBCBDHBHABBEJSBBHBCBWBPEFCCBDJAIBEJeRbZE8bFBBAC" ++
    "BBACAGDBGBCBABACBBMBCCEBABFCJCBoCbFKbGEAEcZFcDFcRdaGe6FcZGVCFCbFCFCHBABABAB+CbUBOBNCFBSCC" ++
    "BIBbOBWbDGD6RKbFR+bY6bPNc6VhROABdYeFbE7KVeKVeVKcPQTGcVeRDBDC7BbCBABDDABGCGO+DXBNccBbXHABc" ++
    "TEFCc9GbHEc9BPdA8DbD87DbRPLEbOBdWEdCC+gqBunFqc6grNgSGMEGYBEBABBBBBdLbBlMQb-CbVbILbEDMUEJB" ++
    "SBDECBABeGCABc9Cc9DFCFCFCCDGBGOC"),
  (["2.0", "v20"],
    "bmRQBMUAcj7cHBbAH6EFBABUDGBAdxBAqPAbc0Uk3Dc8b5-ch5+Bb55+Bb55+Bb55+Bb55+Bb55+Bb55+Bb55+Bb5" ++
    "5+Bb55+Bb55+Bb55+Bb55+Bb55+eaaB"),
  (["2.1", "v21"],
    "ifMAbx0PA"),
  (["3.0", "v30"],
    "pWD+HCRdVEbRAKEcXITAdUADABABABA+AMAcCAMAbKBCDc8Be8AgICdCBFAPAbKEBNB9D6bVbQboRBBRDXBIBACGD" ++
    "AEFBABHSClVAbLAXCHABCBOCAbQbBBEBBBGDDGZnGGBb+BABDCGBABDCbGBABDC+BABDCGBABDCGBGBWB+BABDCGB" ++
    "bGBSG7bDcUMtVJ8DcQePc8DJWOBJGcXIbJb2FAYFc-CbSBcVBcIAdHIiNAdZAB9eKBoJHbBAcWBmOh-bmAZBcYMgV" ++
    "6Lb8CDAlBXsIgnVusKbeMDRCPBLBCBAvsWAbg7C"),
  (["3.1", "v31"],
    "5UBb4o6-biQ+BDM6fVbFCbFbs3ShVKbGDfTrCcUBcGBBCACBCDBLBABDBBBcABDCHBGB7BDBEBADGBkREjBEbRkaA" ++
    "bjwWujJq9wbpDA+c-"),
  (["3.2", "v32"],
    "rAAjOATMdIB8AeTBbZBCBCBbRPk+BkBAckFBbqHMBGLWJTMMBCBBcgTAGEEAHENAb+BbSGcSOfILhSNd8A+bTi8Te" ++
    "XJcYHWBc6LCJg+Nc67EPiAp-bj7CcXBIBc+AhQPcROcRO2pCBQAMADAvlKb62RADPbVBbMAhLB"),
  (["4.0", "v40"],
    "rBASCdXBb-QcQHFCeXEqEDJIcACeVBPAbNC9CnUAfYAcDABAeIAcUCNAcDAb7AeBHgBBcy-ASJiG8DLELEADbJCEd" ++
    "L-yAdLxHBhGAuTBjOAiUBdUHOBbc+NbyPBbRAbLBcODfHDdDB-AgoAb-bl59AcJBnXLBZBSBBBOCNbCd6FCEbMDIs" ++
    "A9BAeGBbGcPCJ0WFCABbLBBDACAbswAcWlKAylb+hP"),
  (["4.1", "v41"],
    "rXKiWEe-DhWBfKAbCCcDASAb6FhR9qPAcQApHAbPA5JBjHBBAiKAb-Ab-AbHA-A-A-APAbHAXB-ZbpGbJGZGJEBbA" ++
    "7CB0McXuRBBGbRE9DbVAcQAPAuEKr8AdFBSKFPiOG0HFhMbOBbObBdKObMKbVJAQWJGBGBGBGBGBGBGBGbBXEB3CP" ++
    "fOA1jHVb0EWhJbLusEdJzWJzGcKqVbDENbrKDBBFHBCB6ECEIIIbr3HcFbc+B"),
  (["5.0", "v50"],
    "sCNjLCkRAbKFQDfGAqFb6mABBB1CBNBdqNcLEbMsHGbTBxMDc9BbVAsXLwKAiUD0JGFDj8MHD4u-DFBi+bXyeIZFA" ++
    "fxA1OeRdCNDblxMRbcYB"),
  (["5.1", "v51"],
    "1QDCBcXAfXAeMPhCELEbAEjORpRBg+AbDAgOA9BdMAdMA6BIBUHf9AGA9BMFDGpLBdBADCcNAFACAHCEF6b-EBcaK" ++
    "AwVbKDLcGbXDODbSkL7fVDc6FlEAeLAc+AbVDbiUAVJDDiIA-DzLEEbIDEiYCBCEFlC-YDCSx8AfCT1oYHbj8jLU-" ++
    "CRI7eDECdKdOEeAcEJLbGcTLAfAbWJNCJCDu4EC1JLbUbNeC8DbQbsPZFAbr5JAhwWbLEdD"),
  (["5.2", "v52"],
    "bjEBw6bNCOgBAcNAGAbDBeAAboZDgBDf8EcEEcSFqAAtWIrQcFfUBbOAcFb+B8CKGJGNrCbCiKAvYCeXCbWAs+AvV" ++
    "B9CEJBSBAEXcXA59EiWANBdLGj-AbaSL1lUHbiEbPnAcXjYJfG7dE8DcNBKEBeA7EcCYEhAbNCJk3WWEbQitPCdoS" ++
    "VBIf6BkE-eAbVD8C6FHeAcIqX+qBcBhz+bbObpgRKF+CALABACADADEIAHAZABBCAKDCAdPAPbBOIbnfXebU"),
  (["6.0", "v60"],
    "bjGBhYAb+ApA7CAg7BTAGB7Ep6FnRAQATAr9DcJB2CBcdBbTIDp8AuYH8AzPKw6ATABD9AEB8AbDABAECJBbUCYAO" ++
    "AOBbnAAOAbbYC3fFBjLBBBOJcQAyGFCFCFJGBGueDPfb+cNE9v2QrYroHBqe+OCNCOBOcQABKBABBBCBCFHBGBJGI" ++
    "BACBBJEBBJcLZBBbPIVBfObAPFBcFDTMbEBEVQPb+BABfVBDDb9SXeTEBPBCBABABABCBFCDBACDBLEKbQcFb6dTb" ++
    "p4Mg9"),
  (["6.1", "v61"],
    "bmPAdUAu7ABKbX6pRA5NBpHAFAbPCcvLCMFiAHbLDcwUABAbjEBbTAFAbYBgKJ2mQAbvHHbDAhSBWAcNBxGWtzXBd" ++
    "0QbXGBbyQYHJGbUBNb8cIHJbfGbXIJwbWcELbOQQ5tADB6BBBACABJBDBABAGAEABABABCBBBACABABABABABBBAC" ++
    "DBGBDBDBABJBQFCBEBQbUBtYB4UDf8AQADABABABADAGBEABBEA"),
  (["6.2", "v62"],
    "if6A"),
  (["6.3", "v63"],
    "bq8AgsJD"),
  (["7.0", "v70"],
    "1-AnIHc9BdWAu7ALFcMAdYAHAt-AbTAcMAd-AhEJciBHrEBmROrZBhNOwFCzWGyFAbcMCKZC-CbBDLBHtKG4cVFhW" ++
    "LLCCBcFApI+d9DfQbPEBuwBG09BTAj-7bDAbQbKmFbHIbTLAeQjWJVKHhYb+IIoQ-bAbGELeJRHDMGbgPAgQbGcWA" ++
    "MAGTLRBbKdSb6FJHCBHCBCVBGBBBECICBCCJAFGCGDEiLcHIJfGbVCRbWcELJsGcSMAoAbYcdWbJgKLFAroL+BJEB" ++
    "dA9CFKcFKJBGBUFSudQdKFMDIHJCHk08gECPb5IAbAVVBqULJAcGAWLbFAFDFLRGcHABAfWAEBb-BEG9RBbIBcVcG" ++
    "BNbPcGJQMDDeMcUbLLEbXIJGbHI9"),
  (["8.0", "v80"],
    "cfTBbOAqVAlAAiEAbuVACFdgAAgLBctAD249IbwIAhQAbCFkEBtCDMcPutOBcvQSBBFEf8BCPCbNuAbSNbSHFbgJD" ++
    "OEfAGBABDBOBKcWAcPAtZTjCZDOEPdcZAhGgDhv8sGbc2XKbqXuLPEBOgd9CcOBcPEbEHh-AcLEhTBeLAr-IdHEb7" ++
    "Abps-fuB"),
  (["9.0", "v90"],
    "cfWHWO29AgOAECBGXCdyHIlSAbp-DcsEB4lJAiWAwgHBzBbDEbDdkCAoBcZBABAqCMbmTIBbMBNK8D-CVBNuzJA-f" ++
    "5MTxSviNGBQCGBBBEcgVcKFJEBcb7ReOAz+AbJAjMBbBCrCFBHIACLBLEObGM"),
  (["10.0", "v100"],
    "cdAKmRBh8FqAAb6Bd36Ah+DwFAz-Ab4SAtSExEA1vHUy0CCfwQcHIbTCWBEs9GBBBbLDABBBIIJuuHAqbAi8cRmLp" ++
    "1EFbdNBbCBqHLTAIHBBZASMbGFbYWbvgJhjQ"),
  (["11.0", "v110"],
    "blAAbHAdGAqNCgTAjKAdXAmNAd-Ac5TAbaXbKCCdx6CWYEOsLExAA1v7Eb3-AIBkEByjUBSAvXbHIJoGbHIbJlTAd" ++
    "WCpUAjCAv7AhFb7tBAwCFBBBbEBBBFHJjWYt0Hc6gkSEsxOTd+GghYcDbd6AboJAg7DlUC8ECDDABDYKNJHBbEYdA" ++
    "N"),
  (["12.0", "v120"],
    "ddXAqOACACABFEAHAHBCANAdr-AdwOAbVAsPA4lKFCE2-BzdYWbdIAsYAxHHCbNCKe-Bbj6bRNAfbQIoyMFEAbPIc" ++
    "6BgaOFkkYCRDl2YbMDNCJEBlQbZFAbsLA3Vb8bbOAblIAbEAhFLjBCbPAbRAJAbJFDBKFDHCCbQcT8DECFCNF"),
  (["12.1", "v121"],
    "mx-A"),
  (["13.0", "v130"],
    "cf+JuNAnOAd8Adj9BegWAvYC1IEg5WJurQMb4KDbKBbVAz7DvrQAdhDbJBCCBh+7l7AeGBuKAFBbe+GCACHBBB9BB" ++
    "CLJJbsWAubTALBgyBpCbKIzaECc9Cb9AbjIBbDBnTBc6AdFAEBbKBGC9AfIAODPSHGJCNGbJeSBbWbFJbkw9GwjCe" ++
    "0K"),
  (["14.0", "v140"],
    "bq9AsS+BBGHVASK1JAbAAd-AcrPAHAJAhPAvRNd9AbQBt7AwFAc1OAbPApTK2m-Cb4ABOBBABEYCu4NAl9Pd-AbOB" ++
    "b1QKBOBGBBBKBOBGBBoDFBbJBIb3VZhGFcMAbpWAeGG1JPfgQdCot9cOBJrjGDBGBBjADho9bNCWJdTrFBdiV+1R+" ++
    "bjRGBDBBBOdw+CiQAmIAcSAfOBbMDKDICRCGHIGbk5HBecVD"),
  (["15.0", "v150"],
    "dhTAo6AcabOCz-Ccf+J5WQBbID7fgVAJ85g8AbCAilKTdcRFiFb9bBAbcAbJepCAeXCEEcZAu7CPBbECLCBAOBKBM" ++
    "AOBbpcAAxaWec-")]

end BotKeeper.Unicode
