/-
# Scripts

The characters of each script, and of those scripts whose set of extensions differs from
it: a character shared by several scripts is in the extensions of each of them.
-/
import BotKeeper.Unicode.Ranges

namespace BotKeeper.Unicode

/-- The scripts and their characters. -/
def scriptTable : List (List String × String) := [
  (["adlm", "adlam"],
    "d0iAcLEJEB"),
  (["aghb", "caucasianalbanian"],
    "cbjQbTLA"),
  (["ahom"],
    "cfyA6COEW"),
  (["arab", "arabic"],
    "bqAEBFBNBCB-BJLZBdLBbBcQbPhQ+BBGcJB8b2sQdSQlKCcPCbVHAbAPdQEBeGd1D+d+CbxyADB6BBBACABJBDBAB" ++
    "AGAEABABABCBBBACABABABABABBBACDBGBDBDBABJBQFCBEBQbUB"),
  (["armi", "imperialaramaic"],
    "cccAVBI"),
  (["armn", "armenian"],
    "bjRbFCbRCCb3mDE"),
  (["avst", "avestan"],
    "ccyAbVDG"),
  (["bali", "balinese"],
    "gyAcMDbO"),
  (["bamu", "bamum"],
    "bjvAcXbqiIrY"),
  (["bass", "bassavah"],
    "c0wQ9CF"),
  (["batk", "batak"],
    "g4AbTID"),
  (["beng", "bengali"],
    "cmADBHCBCVBGBADDCICBCDIAEBBECY"),
  (["bhks", "bhaiksuki"],
    "chaAIBbMBNK8"),
  (["bopo", "bopomofo"],
    "xKBlqZbKdQ-"),
  (["brah", "brahmi"],
    "ceaAcNEbDJA"),
  (["brai", "braille"],
    "kaAh-"),
  (["bugi", "buginese"],
    "gqA7CB"),
  (["buhd", "buhid"],
    "f0AT"),
  (["cakm", "chakma"],
    "ceiAbUBR"),
  (["cans", "canadianaboriginal"],
    "faAt-rQcFcan6P"),
  (["cari", "carian"],
    "cavAbQ"),
  (["cham"],
    "bkqAbWJNCJCD"),
  (["cher", "cherokee"],
    "e3AcVCFbf1ScP"),
  (["chrs", "chorasmian"],
    "cd3Q7"),
  (["copt", "coptic", "qaac"],
    "5CNkeQdTFG"),
  (["cpmn", "cyprominoan"],
    "cl2QdC"),
  (["cprt", "cypriot"],
    "ccaAFCABbLBBDACA"),
  (["cyrl", "cyrillic"],
    "baAeECfIf0QIfCAcMAedH-4cAc-v2OBbyqAb9bBA"),
  (["deva", "devanagari"],
    "ciAcQEOCZbh1A-2qAJ"),
  (["diak", "divesakuru"],
    "cgiAGCACHBBB9BBCLJJ"),
  (["dogr", "dogra"],
    "cgaAb7"),
  (["dsrt", "deseret"],
    "cbaAcP"),
  (["dupl", "duployan"],
    "dpaAdKFMDIHJCD"),
  (["egyp", "egyptianhieroglyphs"],
    "cmaAbcV"),
  (["elba", "elbasan"],
    "cbiAbH"),
  (["elym", "elymaic"],
    "cd5AW"),
  (["ethi", "ethiopic"],
    "eqAcIBDCGBABDCbIBDCbABDCGBABDCOBbYBDCcCC-DZgpGWJGBGBGBGBGBGBGBG5jCFCFCFJGBGcpfRGBDBBBO"),
  (["geor", "georgian"],
    "efAbFBAFACbKBDc2QbKCCecAbFBAFA"),
  (["glag", "glagolitic"],
    "laAc-dm3AGBQCGBBBE"),
  (["gong", "gunjalagondi"],
    "chlAFBBBbEBBBFHJ"),
  (["gonm", "masaramgondi"],
    "chiAGBBBbLDABBBIIJ"),
  (["goth", "gothic"],
    "cazQ6"),
  (["gran", "grantha"],
    "ceyADBHCBCVBGBBBECICBCCCAGAFGCGDE"),
  (["grek", "greek"],
    "1QDBCCDBAEABABCBABTBb+OPgjGEbSEEEcUAkAVCFCbFCFCHBABABAB+CbUBOBNCFBSCCBIjHAbcr+Avo6cORAbuc" ++
    "-cF"),
  (["gujr", "gujarati"],
    "cuBCBIBCBVBGBBBECJBCBCCAPDCLHG"),
  (["guru", "gurmukhi"],
    "cqBCBFEBCVBGBBBBBBCABEEBCCDAHDBAHQ"),
  (["hang", "hangul"],
    "eiAh-hrOBiBc9dR+cB+3xB8uDk3DMWEbQj3E+DFCFCFCC"),
  (["hani", "han"],
    "luAZBcYMgVbPABAZIOD4Egn-cAup-wiAlNCdJ3iIBMBbeaObjw-bAebZGg9CfuBOhjQda-q9bpCe0KFec-"),
  (["hano", "hanunoo"],
    "fzAU"),
  (["hatr", "hatran"],
    "cchASBBFE"),
  (["hebr", "hebrew"],
    "bmRbWI6EFb3jIZBEBABBBBBJ"),
  (["hira", "hiragana"],
    "mcBcVGCc51Bi+SA9CqfNA"),
  (["hluw", "anatolianhieroglyphs"],
    "craAsG"),
  (["hmng", "pahawhhmong"],
    "c0yAcFKJBGBUFS"),
  (["hmnp", "nyiakengpuachuehmong"],
    "dyiAbMDNCJEB"),
  ([""],
    ""),
  (["hung", "oldhungarian"],
    "cdeAbSNbSHF"),
  (["ital", "olditalic"],
    "cayAbDJC"),
  (["java", "javanese"],
    "bkmAcNCJEB"),
  (["kali", "kayahli"],
    "bkiAbNBA"),
  (["kana", "katakana"],
    "mfBcZCChQPgQbOBcXbtaOJBbMbmcSDBGBBBAi-CbSAOD"),
  (["kawi"],
    "chyAQBbID7"),
  (["khar", "kharoshthi"],
    "ccqADBBFHBCB8CCEJHI"),
  (["khmr", "khmer"],
    "f2Ac9CJGJpG-"),
  (["khoj", "khojki"],
    "ceqARBbO"),
  (["kits", "khitansmallscript"],
    "c15EAgy7oV"),
  (["knda", "kannada"],
    "deAMBCBWBJBECIBCBDHBGBBDCJBC"),
  (["kthi", "kaithi"],
    "ceeAcCKA"),
  (["lana", "taitham"],
    "grAb+B8CKGJGN"),
  (["laoo", "lao"],
    "duBBBABEBXBABWCEBABGBJCD"),
  (["latn", "latin"],
    "cBZGZbPAPAFWB+BoAbHEgq7bFGbQFDFMBcFcBh-lRANAQMeNBGA7ARbIcwX-4vCdFDb-FBBABEYNzQbKBIBDt2WGb" ++
    "a6ZGZcbFFBbJBIbv0F+GF"),
  (["lepc", "lepcha"],
    "haAbXDODC"),
  (["limb", "limbu"],
    "giA+BLELEADL"),
  (["lina", "lineara"],
    "cbqAjWJVKH"),
  (["linb", "linearb"],
    "caaALBZBSBBBOCNbCd6"),
  (["lisu"],
    "bjgQbP4vQA"),
  (["lyci", "lycian"],
    "cauA8"),
  (["lydi", "lydian"],
    "ccjAZFA"),
  (["mahj", "mahajani"],
    "cekQbG"),
  (["maka", "makasar"],
    "chxAY"),
  (["mand", "mandaic"],
    "ccA7CA"),
  (["mani", "manichaean"],
    "ccwAbGEL"),
  (["marc", "marchen"],
    "chdQ-CVBN"),
  (["medf", "medefaidrin"],
    "c1sAc6"),
  (["mend", "mendekikakui"],
    "d0aAgECP"),
  (["merc", "meroiticcursive"],
    "ccnAXETCbN"),
  (["mero", "meroitichieroglyphs"],
    "ccmA-"),
  (["mlym", "malayalam"],
    "diAMBCBbSBCBFEPCZ"),
  (["modi"],
    "cfqAcELJ"),
  (["mong", "mongolian"],
    "gaABCABTGcYHbKb5nVM"),
  (["mroo", "mro"],
    "c0sA+BJEB"),
  (["mtei", "meeteimayek"],
    "bkxAWgJbNCJ"),
  (["mult", "multani"],
    "ceuAGBABDBOBK"),
  (["mymr", "myanmar"],
    "eaAe-bgkA+dB-"),
  (["nagm", "nagmundari"],
    "dzgQbJ"),
  (["nand", "nandinagari"],
    "cgnAHCbNCK"),
  (["narb", "oldnortharabian"],
    "ccuA-"),
  (["nbat", "nabataean"],
    "cceA+II"),
  (["newa"],
    "cfaAc7BE"),
  (["nkoo", "nko"],
    "b4Ab6CC"),
  (["nshu", "nushu"],
    "c15BAqmOmL"),
  (["ogam", "ogham"],
    "fuA8"),
  (["olck", "olchiki"],
    "hcQbP"),
  (["orkh", "oldturkic"],
    "cdaAcI"),
  (["orya", "oriya"],
    "cyBCBHCBCVBGBBBECICBCCHCEBBECR"),
  (["osge", "osage"],
    "cbfQbDEbD"),
  (["osma", "osmanya"],
    "cbeA9CJ"),
  (["ougr", "olduyghur"],
    "cd1QZ"),
  (["palm", "palmyrene"],
    "ccdA-"),
  (["pauc", "paucinhau"],
    "cgwAbY"),
  (["perm", "oldpermic"],
    "ca0QbK"),
  (["phag", "phagspa"],
    "bkcAbX"),
  (["phli", "inscriptionalpahlavi"],
    "cc1ASFH"),
  (["phlp", "psalterpahlavi"],
    "cc2ARHDMG"),
  (["phnx", "phoenician"],
    "cciA7DA"),
  (["plrd", "miao"],
    "c1yAcKEbYHQ"),
  (["prti", "inscriptionalparthian"],
    "cc0AVCH"),
  (["rjng", "rejang"],
    "bkjQbDLA"),
  (["rohg", "hanifirohingya"],
    "cdiAbHIJ"),
  (["runr", "runic"],
    "fvAcKDK"),
  (["samr", "samaritan"],
    "caAbNCO"),
  (["sarb", "oldsoutharabian"],
    "cctA-"),
  (["saur", "saurashtra"],
    "bkeAcFIL"),
  (["sgnw", "signwriting"],
    "dwaAuLPEBO"),
  (["shaw", "shavian"],
    "cbcQbP"),
  (["shrd", "sharada"],
    "cemAc-"),
  (["sidd", "siddham"],
    "cfmAbVCbF"),
  (["sind", "khudawadi"],
    "cevQb6FJ"),
  (["sinh", "sinhala"],
    "dmBCBRDXBIBACGDAEFBABHGJCCca5MT"),
  (["sogd", "sogdian"],
    "cdzQbJ"),
  (["sogo", "oldsogdian"],
    "cdyAbH"),
  (["sora", "sorasompeng"],
    "cegQYHJ"),
  (["soyo", "soyombo"],
    "cgsQcS"),
  (["sund", "sundanese"],
    "g2Ab-iAH"),
  (["sylo", "sylotinagri"],
    "bkaAbM"),
  (["syrc", "syriac"],
    "byANBb7CCiQK"),
  (["tagb", "tagbanwa"],
    "f1AMBCBB"),
  (["takr", "takri"],
    "cfuAbZGJ"),
  (["tale", "taile"],
    "gkQ9CE"),
  (["talu", "newtailue"],
    "gmAbLEZGKDB"),
  (["taml", "tamil"],
    "c2CBBFDCBDDBBABBDBDCDLEEDCBDCAGAOUce4FbRNA"),
  (["tang", "tangut"],
    "c15AA-f5XIx-qAI"),
  (["tavt", "taiviet"],
    "bkuAcCYE"),
  (["telu", "telugu"],
    "daAMBCBWBPCIBCBDHBBCCACDCJHI"),
  (["tfng", "tifinagh"],
    "ljQbXHBOA"),
  (["tglg", "tagalog"],
    "fyAVJA"),
  (["thaa", "thaana"],
    "b2AbR"),
  (["thai"],
    "dqBbZF7"),
  (["tibt", "tibetan"],
    "dyAcHBbDEbGBbDBOBGEB"),
  (["tirh", "tirhuta"],
    "cfeAcHIJ"),
  (["tnsa", "tangsa"],
    "c0tQcOBJ"),
  (["toto"],
    "dyuQ+"),
  (["ugar", "ugaritic"],
    "ca2A9BA"),
  (["vaii", "vai"],
    "bjiAjL"),
  (["vith", "vithkuqi"],
    "cblQKBOBGBBBKBOBGBB"),
  (["wara", "warangciti"],
    "cgfAcSMA"),
  (["wcho", "wancho"],
    "dywAbZFA"),
  (["xpeo", "oldpersian"],
    "ca3AbDEN"),
  (["xsux", "cuneiform"],
    "ciaA2ZdGdOBELgD"),
  (["yezi", "yezidi"],
    "cduAbJBCCB"),
  (["yiii", "yi"],
    "biaAbeMDbW"),
  (["zanb", "zanabazarsquare"],
    "cgqAcH"),
  (["zinh", "inherited", "qaai"],
    "yAdPiVBoEK6AxADek7+qBCBMBGEAGADBgGb-qMBgCbAdzZDdLBbtlFPQN4PAhCAec6Abo4EbNCWrACRHCG+Dyl0Sh" ++
    "P"),
  (["zyyy", "common"],
    "AcA6F6bOBOBEXA-AoBbGFECTdUAJAGABAt9AGAOADAbAAe8AqEAeBBbgZAmVDjCAbpPCcHBgLBBAbgNANAHDBFBCC" ++
    "AyFLCcWBKDKBORbAb-bFBCCFB6BQbJCEuWZKV2-iAtTC-BdIqAc9mSLEEBABYPHEDc7BDAc6BeTPbAbDb8b--cQbP" ++
    "AcYfHgoAb-wiAbBdGCfFJhUAfAAmLAOBuoSBgQJWbCBSBDeTAB-6F6KKAbNBcAGBGKEiCCEbMDIcQMbTbMhE6bonE" ++
    "DevMdTb8hVKbGCb9DQIBH9Eb8gVTMTMcWJYeHcUBcGBBCACBCDBLBABGBcABDCHBGB7BDBEBADGBkTCjDCbRfdRcD" ++
    "cMb8wCbLEdDMOCOBOBbEKfNbYZBBNbLEIHBOFe64XEQDMDdWEc+GLEAPLEbXIJGbHI9CBcOkTMNCMDIHbNBGINEIH" ++
    "IHeSBbWbFJybaHA+c-"),
  (["zzzz", "unknown"],
    "1YBGDHABAUAmNAbGBbSBDAbXH7DGKiOAb8BdFNb7BbRBPA8BBALE-ACFhMAIBCBWAHABCEBJBCBEHBDCAFBZBDAGD" ++
    "CBWAHACACACBBAFDCBDCBGEABGRJDAJADAWAHACAFBKADADBBOEBMGHADAIBCBWAHACAFBJBCBDGDDCAFBSJCAGCD" ++
    "AECCABACCCCDCMDFCDAEBBFBNVENADAXAQBJADAEGCADBBBEBKGWADAXAKAFBJADAEGCFCAEBKADLNADAbTADAGDQ" ++
    "B6ADASCYAJABBHCBDGABAIFKBDLb6D9bECABAFAYABAXBFABAHAKBE-cIAbEDbHAbEAPANbEgGABEBBlZAEBHABAE" ++
    "BbJAEBbBAEBHABAEBPAbZAEBcDBbAC6FcWBGBu9CcZGWIYIULNADACLc+BKFKF6FcZGbLEcGJ-AMDMDBCbKBFKbMD" ++
    "6FLCb+BcBA9BLFKFOB-bQcNCbPAdUHb8CPCb8GbLBLHbLEqWBGBbGBGBIABABABA-BbVAPAOBGATBDAJAdFAMB7AN" ++
    "CbBObBOeMDuXYLUbyUBbAAk9EbNABEBBbYGCNYIHAHAHAHAHAHAHAHAd+bB6AcZLgWZMDcAAcWBdHEbLAc+AcULbP" ++
    "A2tNCbXIk8TfYHgLECABAFXb7CKFbYHcGHMFdUK+CcOALDbBAbXIOBKBdHX8JGBGBGIHAHAb8Dd+BKFk3ELXDbRii" ++
    "DlOBdKbFHLFE6AFABACACAd9Pn9BbWGB-bKFbTATAEDFAeHBBAf+CGBGBGBDCHAHJFBMA6ATACAPBObBd7EDDbNCc" ++
    "YANCBbObOeB9CbRO8DbEI+EbLE+AbFDObJe+BKFbEDbEDbIHbUKMAPAHACALAPAHACcCjXIWJIXGAbKAJcEGBBAbM" ++
    "ACCBBXAcIHJbPTACEbBC7EBb-bYDUBbSACEIADA9BDDKGJGcA-bHDMIbWC9B7E6GELHcPcJbWbTMbTGbOHKjF-AbK" ++
    "ADBCcKbLHbKV6bF8TXIcODbEIcEJBBZGKFbVASHbHIdAAUKSAbPb9HABAEAPALFb7EKFEAIBCBWAHACAFAKBCBDBB" ++
    "FBEHBHCFeKc8AF9cIHKfFbWBbGbBcFKKFNSb6FKbV7BPDXfYb8dDcTLIBBBIACA+ACBMIKcFIBbOBL6cIHcTMcJGK" ++
    "hVJAbNAOJ9CbABWAOcIHACAbMCBACAJHKFGACAbFACAGGKjVZGRAbJC8cVBObSM27dFdPAFKgEcsLdDMbcWd3JsHi" ++
    "nYrZG-AKDcRAKF+BGJcGJKAHAVETvPc7dEcLDbZGRb-FKCNf5YHbgWbJJixGEAHACAjDOB8DBBNEHmMciDdLENCJG" ++
    "KBIes7bOBXIdUb7hWJbHBgCUcGdZULULcXIZeGcVAcHACBBBCBEAMABAHAcBAEBIAHA8AEAFABCHAkUBjEBv+OFAP" ++
    "bcP-FGgUHARBHACAFEb+bABdPbNCOBKDCj--Qb6EBoPbKxFHAEACAPAgFBQbIcMDKDCyQcEcLb9gBEA7ACABBBAKA" ++
    "EABABFBDBABABADACABBBABABABABACABBEAHAEAEABAKAREDAFARbTCiNbMDdELPBPAPAbFJfObX9MbMDJGCNGeZ" ++
    "4YDRCNCdXDc-FMDBOMDbYHKFbIH+BCcNkULOBNCJGbOAHHODJGJGeTAbXbEKbaFbjxA-eb6Fg+BfuCNhjRda+q+bp" ++
    "Be0LEedAvxcQB9dAd-hQf5qP")]

/-- The scripts whose extensions differ, with their extensions. -/
def extensionTable : List (List String × String) := [
  (["adlm", "adlam"],
    "bq-AbAAdyv-cLEJEB"),
  (["arab", "arabic"],
    "bqAEBgWBbBcQbPhQ+BBGcJB8b2sQdSQn8CbVHAbAPdQEBeG5D7c1E+d+CbxyADB6BBBACABJBDBABAGAEABABABCB" ++
    "BBACABABABABABBBACDBGBDBDBABJBQFCBEBQbUB"),
  (["beng", "bengali"],
    "ckRBRB6DBHCBCVBGBADDCICBCDIAEBBECYewRABACBBAIAIACAEACCbc5ZA"),
  (["bopo", "bopomofo"],
    "xKBliVCEJBMKDCAGAgDAJbKdQ-bteFBi6E"),
  (["bugi", "buginese"],
    "gqA7CBbd3PA"),
  (["buhd", "buhid"],
    "fzVBJT"),
  (["cakm", "chakma"],
    "cpGJbsQJcafWbUBR"),
  (["copt", "coptic", "qaac"],
    "5CNkeQdTFGbvpA7"),
  (["cpmn", "cyprominoan"],
    "caiABluOdC"),
  (["cprt", "cypriot"],
    "caiACEbMDIbwAFCABbLBBDACA"),
  (["cyrl", "cyrillic"],
    "baAjPf0QIfCAcMAd-Ad5H-cDA358c-v2OBbyqAb9bBA"),
  (["deva", "devanagari"],
    "ciAcSCbKe0QbGBB5WAbbz-JfG-2qAJ"),
  (["dogr", "dogra"],
    "clELbhwAJ14Gb7"),
  (["dupl", "duployan"],
    "dpaAdKFMDIHJCH"),
  (["geor", "georgian"],
    "efAbFBAFACbPc2QbKCCecAbFBAFA"),
  (["glag", "glagolitic"],
    "beEACAj1Yc-pDA4bLAcomQGBQCGBBBE"),
  (["gong", "gunjalagondi"],
    "clEBce56FBBBbEBBBFHJ"),
  (["gonm", "masaramgondi"],
    "clEBce26GBBBbLDABBBIIJ"),
  (["gran", "grantha"],
    "ckRBRBuANeg8ABB+CDB5WAb2qPDBHCBCVBGBBBEBJCBCCCAGAFGCGDEdc7BBA"),
  (["grek", "greek"],
    "0CACAbKDBCCDBAEABABCBABTBb+OPgjGEbSEEEcUCj+VCFCbFCFCHBABABAB+CbUBOBNCFBSCCBIjHAbcr+Avo6cO" ++
    "RAbuc-cF"),
  (["gujr", "gujarati"],
    "ckRBRBi7CBIBCBVBGBBBECJBCBCCAPDCLHGbhjQJ"),
  (["guru", "gurmukhi"],
    "ckRBRBe7CBFEBCVBGBBBBBBCABEEBCCDAHDBAHQbhnZJ"),
  (["hang", "hangul"],
    "eiAh-hqBCEJBMOCGAgDAbVc9dR+cB+3xB8uDk3DMWEbQjsJBi6Eb6+DFCFCFCC"),
  (["hani", "han"],
    "luAZBcYMgVbLCBMBMBMCAGIf7AeUPbAbDb8bHbYbQPLbTAcYYKEdA+Bgn-cAup-byAHupYlNCdJ1LBi6E2d8BMBy1" ++
    "ORhw+BdnObjw-bAebZGg9CfuBOhjQda-q9bpCe0KFec-"),
  (["hano", "hanunoo"],
    "fzAW"),
  (["hira", "hiragana"],
    "maBCEJBMQFBAEBDcVCHc6BbtkIBi6EKAbNBbmdBi+SA9CqfNA"),
  (["java", "javanese"],
    "bkmAcNBKEB"),
  (["kali", "kayahli"],
    "bkiAbP"),
  (["kana", "katakana"],
    "maBCEJBMQFBAEBc7DDc-hQPgQbOBcXbsxNBi6b+bmcQDBGBBBAi-CbSAOD"),
  (["khoj", "khojki"],
    "cxGJbhkAJ0oGRBbO"),
  (["knda", "kannada"],
    "ckRBRBy6MBCBWBJBECIBCBDHBGBBDCJBCd48ABAHAXABAbcz7F"),
  (["kthi", "kaithi"],
    "clGJbhwAJ0cGcCKA"),
  (["latn", "latin"],
    "cBZGZbPAPAFWB+BoAbHEd+MiVBbgKBb3IAdaEbFGbQFDFMBcFcBh-jPAcBANAQMcTAbZBGA7ARbIcwX-4uAH6dFDb" ++
    "-FBBABEYNjOAqBbKBIBDt2WGba6ZGZcbFFBbJBIbv0F+GF"),
  (["limb", "limbu"],
    "clFAd26+BLELEADL"),
  (["lina", "lineara"],
    "caiHbMbgMjWJVKH"),
  (["linb", "linearb"],
    "caaALBZBSBBBOCNbCd6FCEbMDI"),
  (["mahj", "mahajani"],
    "clELbhwAJ0iWbG"),
  (["mand", "mandaic"],
    "bsAAp-7CA"),
  (["mani", "manichaean"],
    "bsAAcbd-bGEL"),
  (["mlym", "malayalam"],
    "ckRBRB26MBCBbSBCBFEPCZd06Abc0VC"),
  (["modi"],
    "bkbQJ1oGcELJ"),
  (["mong", "mongolian"],
    "gaAZGcYHbKb2EAb3rQM"),
  (["mult", "multani"],
    "ctGJccaQGBABDBOBK"),
  (["mymr", "myanmar"],
    "eaAe-bgeOAfR+dB-"),
  (["nand", "nandinagari"],
    "clEB2AJd5ZAIAHAbczVF2lKHCbNCK"),
  (["nkoo", "nko"],
    "bqMAOADAnAb6CCb3j+B"),
  (["orya", "oriya"],
    "ckRBRBm7CBHCBCVBGBBBECICBCCHCEBBECRelCAXA"),
  (["ougr", "olduyghur"],
    "bsAAcbfRAbd9Z"),
  (["perm", "oldpermic"],
    "beDAb5wMbK"),
  (["phag", "phagspa"],
    "gaCBBAbeb6bX"),
  (["phlp", "psalterpahlavi"],
    "bsAAcbj-RHDMG"),
  (["rohg", "hanifirohingya"],
    "bqMAOADAbAAeTAcbrLbHIJ"),
  (["shrd", "sharada"],
    "ckRAe2FABACBCAb3e-c-"),
  (["sind", "khudawadi"],
    "clEBbhwKJ0tWb6FJ"),
  (["sinh", "sinhala"],
    "clEBba7CBRDXBIBACGDAEFBABHGJCCca5MT"),
  (["sogd", "sogdian"],
    "bsAAcchPbJ"),
  (["sylo", "sylotinagri"],
    "clEBeAJbhqQbM"),
  (["syrc", "syriac"],
    "bqMAOBCAbAAKK6AePNBb7CCiQKfmNABA"),
  (["tagb", "tagbanwa"],
    "fzVBbJMBCBB"),
  (["takr", "takri"],
    "clEBbhwKJ1sGbZGJ"),
  (["tale", "taile"],
    "ecAJciG9CE"),
  (["taml", "tamil"],
    "ckRBRBq8BBFDCBDDBBABBDBDCDLEEDCBDCAGAOUeg-AbdaYA0qNABAbXBdeDbRNA"),
  (["telu", "telugu"],
    "ckRBRBu6MBCBWBPCIBCBDHBBCCACDCJHIec6AXA"),
  (["tglg", "tagalog"],
    "fyAVJAVB"),
  (["thaa", "thaana"],
    "bqMAOBCAcAJiWbRb3sAAKA"),
  (["tirh", "tirhuta"],
    "ckRBRBe2MAbcz9J1cGcHIJ"),
  (["yezi", "yezidi"],
    "bqMAOADAcAJccaWbJBCCB"),
  (["yiii", "yi"],
    "maBBFJCHg-A1yEbeMDbWwu6E"),
  (["zinh", "inherited", "qaai"],
    "yAcBBBB8bpQBek7+xTbVBABEqMBgC-bxiQPQN4PAbtiCbNCWrACRHCG+Dyl0ShP"),
  (["zyyy", "common"],
    "AcA6F6bOBOBEXA-AoBbGFECTdUAJAGABAt9AgXAqEAbk8AmVDbySCciSLCbABbUBKDKBORbAb-bFBCCFB6BQbJCEu" ++
    "WZKV2-iAtTC-BdIqAcCBZmSLEADANANAVAqRX-AbROMDfBJFc--AgoAb-wiIZdGC4QAOBuvEJWUCLBSBDeTAB-6F6" ++
    "Fd-GBGKEmSMbTbMbtkTdTb8hVKbGCb9DQIBH9Eb8gVTMTMcW7GeHcUBcGBBCACBCDBLBABGBcABDCHBGB7BDBEBAD" ++
    "GBkTCjDCbRfdRcDcMb8wCbLEdDMOCOBOBbEKfNbYZBBNbLEIXFe64XEQDMDdWEc+GLEAPLEbXIJGbHI9CBcOkTMNC" ++
    "MDIHbNBGINEIHIHeSBbWbFJybaHA+c-")]

end BotKeeper.Unicode
