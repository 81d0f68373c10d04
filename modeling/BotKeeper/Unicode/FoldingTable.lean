/-
# Simple case foldings

Which character a character folds to, as runs: the distance from the previous run, twice
the number of further characters plus one if every other character is meant, and twice the
distance to the folded character plus one if it lies below.
-/

namespace BotKeeper.Unicode

/-- The runs of characters that fold to another character. -/
def foldingText : String :=
  "cBbScAdUAbqOLbMcAYMcAbIbPCbSFCHPCRbNCbOAhTBFCGAqZCAnEBDCEAm8BACCCm6CACDAe+BAmUBAmWBACCAm6BA" ++
  "m+CAnGBAnCBACEAnGBAnKCAnMBFCGAnUBACCAnUDACCAnUBACCCnSCDCEAnWBACEACIAEBACCAEBACCAEBRCTRCTAEB" ++
  "DCEAgDBAdRBbHCbIAiFCRCYAvcWBACCAkHBAvcQDACCAmHBAeKBAeOBJCh-AhIbLDCGACJAhIHAcMCEcKEAeACCd+Db" ++
  "AcASQcA-ACNAQBAb9BAbTEA-BAbNCXCYAdNBAdBDAdZBAeBCACCAPBACDEiFD+fAQb+cAcQbBCbKbVCbWA+BNCPc-Cd" ++
  "BcKdAc1PcKogAbHAogAGAogAzLKRceIAme9BAme7BAmeJBCmeFCAmeHBAmdZBAmcJBAce2GIcUf2BbNEf2BkDeVCe7A" ++
  "dVDAo1-Cc-CdIORQKRQORQORQKRRHRPORbAORQORQORQCRCCeVCATCAoaLKGfNEATMCRCCgJOCRCChBCAPMCiBCCh9C" ++
  "ATjKAov7EAql-BAqeNHAbYbO+bAbDACzTbSbUb0Kc+dAdAACCAu5PBAhoNBAu4PDFCGAvbZBAu57BAvb-BAvb9CACDA" ++
  "CJCvd-CdDCdLDCHAC4kObNCcA7CfCNCQb9CcHDCEAcfaJBJCNACCAcssRDDCGTCUAcsuJBAcsu-BAcsuXBAcsuDBAcs" ++
  "uJCAcsrFBAcssVBAcsrLBAb0ABPCQAdBBAcsuHBAcfdRBDCJACGDC-AC17e+cl3Bu3RbScAbg-cOcQfQcGcQgAUcOM8" ++
  "cOQMcOICcObxMdEeAdbAb+cAvnAb+cA4wAcCcE"

end BotKeeper.Unicode
