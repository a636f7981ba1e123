import FeatureFlags.Pattern.Property.Coded

/-!
# General categories

The characters of each general category. Surrogates have a category but are no characters.
-/

namespace FeatureFlags.Pattern.Property

/-- The general categories. -/
def categories : List Coded := [
  { names := ["cc", "control", "cntrl"], code := ["AbFdSbG"] },
  { names := ["cf", "format"],
    code := ["gRAcaLFXAhLAbYAoVBdDAftKAdaREbBEbYECJdghKAjQCgjAAQAnkLPbzqVDhwYHbtkzNAbFdR"] },
  { names := ["cn", "unassigned"],
    code := ["biEBHDIACAVApIAbNBbZBEAcEHbCDHKkLAcJBdYNcIBbYBQAbDBCAMEbJEjEAJBDBXAIACCFBKBDBFHCDDAGB",
      "bABEAHDDBXAIADADADBCAGDDBECCGFACGSJEAKAEAXAIADAGBLAEAEBCOFBNGIAEAJBDBXAIADAGBKBDBEGED",
      "DAGBTJDAHCEAFCDACADCDCECNDGCEAFBCFCNWEOAEAYARBKAEAFGDAEADBFBLGXAEAYALAGBKAEAFGDEEAFBLA",
      "ELOAEAcAAEAHDRBbBAEATCZAKACBICCDHACAJFLBELcHDbEbKDACAGAZACAYBGACAIALBFbFcVAbLDbOAbLAQA",
      "ObKhRACECBoOAFBIACAFBbQAFBbIAFBIACAFBQAcGAFBcQBbHCbBFdJBHBzUCdMGXIZIVLOAEADLdRBLFLFbBF",
      "dMGbSEcTJbGANDNDCCbRBGKbTDbBFMCcLBcOAbEBMFLFPBbVBNTdAAgLHcJCQCcLEbSBMHbSEuPBHBbNBHBJA",
      "CACACAbGBcCAQAPBHAUBEAKAdYANBbCAOCbJNbIOfLDzRVMUcrTBoTEbUACECBcFGDNZIIAIAIAIAIAIAIAIA",
      "eXbHbBAdMLiHZdDAdJBeAEbSAdRAdJIbXAbriSCcEInLThDHiOTcJCLFcFHcTHNFeNKbFCdBAMDbIAcEIPBLB",
      "eAXbDJHBHBHIIAIAcJDeXBLFqnTLYDbYDnbBBeDbLILGEbBAGACADADAzBbFbRFcAAUAFDGAfGBCAhJCHBHBHB",
      "ECIAIJGBNAbBAUADAQBPbHeUEEDbUCdLAOCCbUbVeZbECbYObDDbLIbFEbSEbFAbMDPbPgDBLFbLDbLDbPHcBK",
      "NAQAIADAMAQAIADCcBLmAIXJJXHAbRAKcQHBCAbTADCCBYAcVHKbVUADEbICbCEbCbLcFDVBbZADEJAEAbEBED",
      "LGKGcNbFbODNIcDCbEBbCEbBGFLIdBcWcCcAMcAGbVHLFbNCbEHDhZbGAbRAEBDPHHKbGbVHbRVbBbLbDTYI",
      "dBDbLIcRJCBbAGLFcCATHbOIdTAVKTAbWcJIACAFAQAMFcIELFFAJBDBXAIADAGALBDBEBCFCEIBICGKLACBCA",
      "bNALACBCAFALADHDbCdPAGbDcVHLgJcDBbNbHcSKLFOScHFLFVbBbCBQDYhCcJdVdGLJBCBJADAbFADBNILcR",
      "JBbVBMbAcVHdGMcWGLdHJdJbJNLFKAbUAPJbECbHBXAPcUIADAbTCCADAKHLFHADAbMADAHGLFbTDLjLbAGSA",
      "bQCbEdGCObZMbjOdXeIAGKhPdxJdWMbqTJfxSEwMkdCcHcoRvYGbGALDdEALFbFBHJcTJLAIAWEUqPcHhPdOE",
      "bABbAbRcYDcGGScLGKIIkxZbObHdSeMmwQFAIADAlGOCbCEBCNFHpHdkTeEEOCKGLBJfvFjUCqVFYOSObVBYI",
      "eNcHjNJbOBhNUcTeRVLVLdKIbAfEdIAcUADBCBDBFANACAIAcOAFBJAIAbDAFAGACCIAnDBlHBbbBOGAQbqL",
      "bGFHiEIASBIADAGEcLbGCeHbUCPBLDDmHbGQcHECrVbRiFbSDChJbGAXHDiPIAFADAQAhQBRbOcZDLDDbeE",
      "cRcXcKhLFAbCADACBCALAFACACFCDCACACAEADACBCACACACACADACBFAIAFAFACALASEEAGASbZDkJbTDdXL",
      "QBQAQAbMJgTcDbEMbTDKGDNHfXblYCSCOCiLFNDCONDcFHLFbPHbFBNDDNKbMnHHPBOCMCcGACDRBNDLGfSA",
      "eAbnOclfDbFgmPBioDBlbMOxZdqVuXcfXhiAEmoPbogoCCbDdTeXjHdsfNdsyPBdsyPB"] },
  { names := ["co", "privateuse"], code := ["dgvOjmDcahxPdsyNDdsyN"] },
  { names := ["ll", "lowercaseletter"],
    code := ["dTZcHAbQXCHCACACACACACACACACACACACACACACACACACACACACACACACACACACACBCACACACACACACACBCA",
      "CACACACACACACACACACACACACACACACACACACACACACADACACCDACADAEBFADAECDADACACADACBCADAEACADB",
      "DCHADADACACACACACACACACBCACACACACACACACACBDACAEACACACACACACACACACACACACACACACACACACACA",
      "CACACACACACACACACACGDADBCAFACACACACcQDZhMACAEAECTAbCbICBECCACACACACACACACACACACACECADA",
      "DBcAbVCACACACACACACACACACACACACACACACACAKACACACACACACACACACACACACACACACACACACACACACACA",
      "CACACACADACACACACACACBCACACACACACACACACACACACACACACACACACACACACACACACACACACACACACACACA",
      "CACACACACACACACACACACACACACACACAbXbOehCbQDCbdHFdfVICAeObRcMMCbHdZACACACACACACACACACACA",
      "CACACACACACACACACACACACACACACACACACACACACACACACACACACACACACACACACACACACACACACACACACACA",
      "CACACACACACACACACACACACACACACACACACACACACICACACACACACACACACACACACACACACACACACACACACACA",
      "CACACACACACACACACACACACACACACACACACACACACACACACACACACIJFLHJHJFLHJHJNDHJHJHJECBHAECCBJD",
      "DBJHLCCBkPAEBEAbCAFAFADBJDFAcCAebCbVCAEBCACACAFACBCFGACACACACACACACACACACACACACACACACA",
      "CACACACACACACACACACACACACACACACACACACACACACACACACACACACACACACACACBIACAFANbLCAGAbtwEACA",
      "CACACACACACACACACACACACACACACACACACACACACAUACACACACACACACACACACACACACAfGACACACACACACC",
      "CACACACACACACACACACACACACACACACACACACACACACACACACACACACACACACACHCACADACACACACAFACADACC",
      "CACACACACACACACACACAGAGACACACACACACACAFACADACACACACACACACAbBAEAbfQbQGIIdBbeaJGNEbpAZ",
      "bvIbNfHbJgAKCOCGCBcrCbYeWVegPbFbgjXbFcIYbmjFZbBGCRbBZbBDCACGCKbBZbBZbBZbBZbBZbBZbBZbBZ",
      "bBbBbDYCFbBYCFbBYCFbBYCFbBYCFCAcsZJCTHFduEbH"] },
  { names := ["lm", "modifierletter"],
    code := ["baMRFLPEIACAfEAGAsLAiXAgJBkKBFAbGAKAEAgFAgMAbvPAeYAvUAcpNAeEAxOArXFgTcKOAbJbKbaOAOARM",
      "emYBjIAhKAsCAbSEGAdUBdQCbqbVAbwDFkLAeLAbDBeSIdDAYAeBDEBsCAXAfIAeFAWBeADKAbfvJAbUBczPF",
      "CbPCIccYAbHAnEAfsMAbdiDDtPCbPBvFMcNBCAPBygBDCGCBsgOcJhUGbkGAuMAwQA"] },
  { names := ["lo", "otherletter"],
    code := ["gOAQAjXAFDiBBbfVbAFDbUbFCJbKBCdUCAZBLCDARACbDbEdKMAZbGWVbRYIKGXCGRbOcIcBEATAIJROFHDBDV",
      "CGCAEDEARAOBCCPBLAJFFBDVCGCBCBCBbGDCAUCRICCCVCGCBCEEATAQBYAMHDBDVCGCBCEEAbFBCCQASACFEC",
      "CDEBCACBEBECELXAcBHCCCWCPEAbBCCBDBbFAFHCCCWCJCEEAbFCCBQBSICCCbODARAGCJCZFGREXCICADG",
      "cHbVCBNFcIBCACECXCACJCBKADEYDbHAcMHCbJbCEeMbQVARFFDEAEBICFMNAeKmQCDDGCACDDbOCDDbGCDDG",
      "CACDDOCcECDDcObMPeKxVDQCZGcWHHIROSPRPMCCQbZbPAcQbICcAIEDbHCAGcRLbEbYbDDEMbRFZcDWKcA",
      "gVbUSHcDbDOBLbRbBbJbQCLbDeKDCFCBEAbpRDenWcDZWKGCGCGCGCGCGCGCGvGAcCAFdHJACdLFAGbQCdPSbF",
      "bXPtTjtNcNbfcECbrYcQbNJkHFPLBcPAbYcRgOAeAAEGCCCDCWbEbZPbXcLFEACBMbBLWbAbCIbUbUEDILECbO",
      "YCCHVPCFEAEbXCAEBDEDACAZBEKIAPFDFDFKGCGfQbIbEqnRNWFbWmnDoBDeBcQACJCMCECACBCBCeDbInYTcL",
      "DcBbPLeNECfEeCJCbSDbEEFDFDFDCbKLCZCSCBCODNbJeSpAbCEbWbWbFOTCHHbLLbDDbJFHeZcZdVbNJbZ",
      "dPbZNlYKVLHfXFDACbRCBEADWLWKbEcOSCBLVLZHZbNcDHBcNAQDCCCbCbRbCEbCbKHCbBbCcBLVLSOReHcU",
      "hCbJbNDCAlTbPHBRCCBcFbCLAJVbRRbVUbCWNcAcGBDAObSbHYbBbJbEADAJbIEANbVPDWACAbKRCYUBcMGCA",
      "CDCOCJIbUbNHDBDVCGCBCEEATANEbFJCADACbLCAbAACAbTcATDVCbFbVVBCAhDbUbQDbLbVVAcIbQOAcUbA",
      "bMGhEbRiEHDADHCBCXQACAdRHDbMRACAbDALbNIAWAMbTUATcUhSbGbGICbKSAbYbDeJGCBCbLWAbAFCBCbFPA",
      "YbOCBkBSQACMCbHeVAdCbjLiXhNdxLdSQbpFSFbAfxQGwKkdEbDcpVvWIbESdASbDTbVcAUGSqUbNpQcWGA",
      "gUkxXbQbFdUeKmxIlEQAbECDAPDJpFdkVeCGMEIIJnbDAtIbSbIAmKbDTbRsRbAiWbDDAiAbECCCBCGDEKAiSG",
      "CDCBCOChObzODCbACBCADACJCDCACAHAFACACACCCBCADACACACACACBCADDCGCDCDCACJCQGCCECQgoBclfB",
      "bHgmNDioBDlbKQxXdqXuVcfZhhYGmoN"] },
  { names := ["lt", "titlecaseletter"], code := ["rLADADAbNAlfIHJHJHNAQAbWA"] },
  { names := ["lu", "uppercaseletter"],
    code := ["cNZdYWCGbIACACACACACACACACACACACACACACACACACACACACACACACACACACACADACACACACACACACADACA",
      "CACACACACACACACACACACACACACACACACACACACACACBCACAEBCACBCCDDCBCCEBCBCACACBCADACBCCCACBEA",
      "IADADADACACACACACACACADACACACACACACACACADADACCCACACACACACACACACACACACACACACACACACACACA",
      "CACACACACACACACACAIBCBDACDCACACACAlEACAEAJAHACCCACBCQCIbKADCEACACACACACACACACACACACAGA",
      "DACBDbYbXACACACACACACACACACACACACACACACACAKACACACACACACACACACACACACACACACACACACACACACA",
      "CACACACACACBCACACACACACADACACACACACACACACACACACACACACACACACACACACACACACACACACACACACACA",
      "CACACACACACACACACACACACACACACACACADbLehEbLCAGAbbVdHdgMAHbQDCmJACACACACACACACACACACACA",
      "CACACACACACACACACACACACACACACACACACACACACACACACACACACACACACACACACACACACACACACACACACACA",
      "CACACACACACACACACACACACACACACACACACACACAKACACACACACACACACACACACACACACACACACACACACACACA",
      "CACACACACACACACACACACACACACACACACACACACACACACACACACAKHJFLHJHJFMACACACAJHcVDNDNDNEMDkDA",
      "FAECDCDAEEHACACACDDDLBGAcKAdzHbVbXACCDACACACDCADAJCCACACACACACACACACACACACACACACACACA",
      "CACACACACACACACACACACACACACACACACACACACACACACACACACACACACACACACAJACAFAbtyKACACACACACA",
      "CACACACACACACACACACACACACACACACACAUACACACACACACACACACACACACACAfGACACACACACACAEACACACA",
      "CACACACACACACACACACACACACACACACACACACACACACACACACACACALACACBCACACACAFACADACAEACACACACA",
      "CACACACACACECECACACACACACACACDCACBCACACACACACACACAZAbhaIZbvAbNfHbJgBKCOCGCBcqDbYgCV",
      "egPbFbgjXbFcNYbmjGZbBZbBZbBACBDADBDDCHbBZbBBCDDHCGbCBCDCECAEGbCZbBZbBZbBZbBZbBZbFYbIY",
      "bIYbIYbIYbIAgnMbH"] },
  { names := ["mc", "spacingmark"],
    code := ["dkTAcEADCJDCBbZBcHCHBDBLAbSAcHCcPAcHCJACBcCBcHACAHBDBLAdZBCBECCCLAbQCcKDcKBcHACEDBCBKB",
      "bDAPBcHCGCCCLAbRBcYCHHTBmTBcMAgQBFAHADBbABLCDGWBDFDALCclTAbFAfAAIHCBnJDDCFBCFiRBcHACA",
      "KACBJFfQAbXAGACECBcKAbFAFBDAcJADCCAEBbXHJBgQAWAhhFBbtlCBDAdLBbZPfNBbWAbXBFBDCeHBDBZA",
      "bUACAeGADBGAjEBCBCBCAblxKACAeYAbUCFBeMAZBcIAbXCKBOAdQCEBCAgPCbGBcHBCDDBDCKALBdHCIADACD",
      "CBCAdYCJBEAeDCHACDDAjECHDDAeKCJBCAeGACBHAeAACBFAkCCKAjOFCBFADACAfNCJDFAdHAbEBcLAhUAEA",
      "CAhSAPAeDAIADAiGEFBCAnNBNAbXBJBCAyyZCfjHcCeBBbkxOBHF"] },
  { names := ["me", "enclosingmark"], code := ["bsQBikRAciHDCCbyoYC"] },
  { names := ["mn", "nonspacingmark"],
    code := ["bdOeHkQEkGbSCACBCBCAcVKbXURAdYGDFDBCDbKAbFbAdOKcHIKAZDCICCCEbSCcIIbRXCbFcEACAFHFAEGLB",
      "bEAcHAFDJAVBbBADBcGAFBFBDCEAbFBEAMBcGAFECBFAVBXFCAcHADACDJAIBMBbFAcKANAbZAEAcEACCGCCD",
      "IBMBbEAcHADAHAGBVBbDBcGBFDJAVBbEAcVAICCAdNADGNHdVADIMGcWBbCACACAcENCECBGKCbJKAdZDCFCB",
      "DBbABFCRDOADBHAQAbbCCbkLCbEBbFBbFBcNBCGJADKKAbUCCAeOBbJAePCFBKAHCiMBDAcHACGCACADHHJDA",
      "bXNCbEDLVDbXACECAGAbPINBbHDDBCCcFACBEACCcHHDBfXCCMCGFAHAEBhRcLbbTMFAELeoDCfMAdTbFvJD",
      "eEBbsqFAFJbHBdDBkNAEAFAbABGAfWBbBROAbNHbAKbVCbXADDDBbOAcQFDBDBNAJAbWAcAACCDBGBCAbRBJA",
      "jFADAFAbdzTAbcKPRPblMAiTAfUEcmHCCBGDbPCFAgKBwCDcOEmGBdAFcTKbYDeUAcDObQADBLCbYDDBIAcKC",
      "bLECHcLANBcBILDDAdSCDACBHADAgCAEHWBcGBEAbMGEEcTFOACACAPBdIHDCCAYAdHFCAFBCBjFDHBCBbCB",
      "dIHDACBeDACADFCAdYACADDCEkAICBjXBCAFAfPDDBFAbHJbPFDDJAKFDCbVMCBhRACCCAhUGCFCAdFVDGCBCB",
      "eTFEACBCGCAcVBEACAnKBMBcBEGACAYAhxUAHOqyZLECdsBEcIGboJAcMDdEAbdbLBgzAbTDWuZCSHDGbFDfTC",
      "cyEcCFbXJAPAXECOcaJGCQDGCBCEdXAgFGoMAcKDtPDjVBjKADAIBGAsHGeGGbtciWjF"] },
  { names := ["nd", "decimalnumber", "digit"],
    code := ["bWJciPJfFJhRJpXJePJePJePJePJePJePJePJePJePJdTJePJcTJkTJcTJctRJbNJlPJeZJgLJHJhBJdJJfFJ",
      "HJcaePJbaDJbNJhRJXJdJJpRJbfmDJccLJdfZJHJbeRJeZJcJJfPJkTJnFJePJoLJdZJHTcZJqHJdZJzNJdJJ",
      "jNJcTJcDJnVJyyHJdmDJdJJfFJuPJbkdZJecRbXdnDJqHJtJJjOJbgWJhbBJ"] },
  { names := ["nl", "letternumber"], code := ["irUCdyUbIDDfmTAbAIPCbsyMJbifHcArTAJAfFEmeTeGbcpQC"] },
  { names := ["no", "othernumber"],
    code := ["gWBGADCdmSFoNFeRCfEGiKGSIqSJbpMTbrWJsNAcmWAEFHJhRPbQAbbZcHdBVyHbDcbIAbtDDfJJbFHCObHJ",
      "bOObsmJFbhqObScODSBnEbAbLDbzHHbAGbOIcYEXFgFBDPDbTcNIcBBbFCcYEeBHZHbQGmTFnPbEgDJbRDeJG",
      "fFToQTbzYBqPIbhOSbgUUbcpRGbeTWblyGTNTeFYibVIbjUcGCCCDcZbSCOblBM"] },
  { names := ["pc", "connectorpunctuation"], code := ["dRAmbWBUAdgaPBZCjGA"] },
  { names := ["pd", "dashpunctuation"],
    code := ["bTAcaVAcAAfkKAbnQAdbEFfhYADAbGBFAbDArFAUAeIAczwBBbMALAgOAflPAmHA"] },
  { names := ["pe", "closepunctuation"],
    code := ["bPAcAAbGAfpEACAcuPAdrEAcEAQAyLACAbFAbpVACACACACACACAdDAbHACACACACApPACACACACACACACACA",
      "CACAcNACAbIAboWACACACAbTACACACAqNACACACACAEACACACADBczrRAiKAbEACACACACACACACAEASACACA",
      "gPAcAAbGADADA"] },
  { names := ["pf", "finalpunctuation"], code := ["hFAlwWAEAbDAffTACAFADAQAEA"] },
  { names := ["pi", "initialpunctuation"], code := ["gPAlxLADBDAbAAffTACAFADAQAEA"] },
  { names := ["po", "otherpunctuation"],
    code := ["bHCCCDACACBLBEBbCAcRAGAPBIAbbBAJArZFbQAcDADADAbTBVBCBOACCcXDdZAbSNjACcDObGAkCBLAfLAeRA",
      "eSApBANAoEAdNALBgNOCAeJAcXEFBeIFgQAxPIbdUAeVCcUBgCCCCbMFCDmCBiJBeZGCFgFBLGbDCeVDcIEcLB",
      "cNHMAbgDBJHJIDDDCEKCACJeuDDCBeJAfOBFCDADICBCADBLECJDDCACMDCqNCcGAhIAbryHBkKCdWALAeMF",
      "oRDdJBbPCCAbYBbWAdUMRBeVDeXBRBjQAbfcVGDAXAVBDDECCDICHACBfUCCCDACACBLBEBbCAbLADBpVCzTA",
      "bXApZAbcQAhSAbGAkNIbNAeJGcPGdMDbfOAfDEbTDhIGeGBCDeXDbXBdCDFAOACCdLFeEAlNBCBeLELBCAeBA",
      "jRWeCCbDMcZAfBCjTAkFCgAAdPHdGCCEdQJiIAdSEbRByWBcXMgUAbrTEejDBwdWBfEAcOEJAvHClKDmQA",
      "bdbPAliMEeiUAbhFB"] },
  { names := ["ps", "openpunctuation"],
    code := ["bOAbZAbGAfpFACAcuPAdpNAEAbNAcEAQAyLACAbFAbpVACACACACACACAdDAbHACACACACApPACACACACACACA",
      "CACACACAcNACAbIAboWACACACAbAATACACACAqNACACACACAEACACACADAczrUAiIAbEACACACACACACACAEA",
      "SACACAgPAbZAbGAEADA"] },
  { names := ["sc", "currencysymbol"],
    code := ["bKAeWDbwKAeUAtFBtFBIAjMAkEAwKAdqQAdiJbHbzhVAbgmMAeFAfZAiMBEBmcTDcvxFAdrLA"] },
  { names := ["sk", "modifiersymbol"],
    code := ["dQACAcUAHAFAEAuCDNNGGCACQeOAPBbxJAiuNACCMCOCOCOBghPBbsvSWKBeABblPAPBbekLQbiIACAgHA",
      "dolKE"] },
  { names := ["sm", "mathsymbol"],
    code := ["bRARCcKACAbUAFAbMAbGAbdNAuICjyIAOAbOCOCfKAbOEHAcREGBFADADAIAbGBDACAbGkHbHBdNAbFYbPFsCA",
      "KAcDHeIAmZEDbELPjXfAXcKFbFDjXbXUDFdasRAbfTACCgJARCcKACAfCAHDfeGBcvgBAcyZAbAAbGAbAAbGA",
      "bAAbGAbAAbGAbAAiuFBdtFI"] },
  { names := ["so", "othersymbol"],
    code := ["gKADAFACAblQAkHBeYBhZALAUBjOAtWAoKAfBFCAfDAiAAbQApCCQACCDFVACACAfEHCFCBGDhQBbcZJbbWA",
      "bbVAgCbHnQJKIccIBCDCBLACBHFCACACAFAMBPACBCAcHBKEDDCBCBCGCbEDBCACbEkJHFTDGDdCCbDbAbNHcT",
      "XKdEcZXhACICcBJeGCjNbTbRcNjVtTbVWBHbMDfHiWFnUBbVZCdKNiFbBPFAOBNAWBHBmZBFJbHbLKARbEMbD",
      "JAQbFLbMQmHjtPcLbguJcCbhIDLBCAwCCbeuKPoCPcNBcDHbUCsRAEAFBOBmCIcGQDCCMEAbWbSclVBwUAbnTH",
      "deTAdgOHFQbcnJDGAbeuXAfvOjFLCEqTHWQPdTeLcJjLLbMDcHGCXBIbDFcIWcNEAhFdIbtYtRcEDbZHCNCB",
      "coVAehXAfAAbbUbRFdVNODOCOCbKYgEcFbCObRFIIBPFfZjQGbcAEQEMEiJHLFAQLFcDJJHbNJbDDLFBcLnFJN",
      "DMEKEcECAFPDLFJIfQCdNLA"] },
  { names := ["zl", "lineseparator"], code := ["meQA"] },
  { names := ["zp", "paragraphseparator"], code := ["meRA"] },
  { names := ["zs", "spaceseparator"], code := ["bGAeYAihKAdpOKbLAbWAfxXA"] }]

end FeatureFlags.Pattern.Property
