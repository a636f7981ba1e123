import FeatureFlags.Pattern.Property.Coded

/-!
# Binary properties

The characters that have each of the properties a character has or has not.
-/

namespace FeatureFlags.Pattern.Property

/-- The binary properties. -/
def binaries : List Coded := [
  { names := ["asciihexdigit", "ahex"], code := ["bWJIFbBF"] },
  { names := ["alphabetic", "alpha"],
    code := ["cNZHZbWALAFAGWCbECrPFLPEIACAdJAbERCBDDCAHACCCACTCdECfIJgJCbLDAHbObONCACBCBCAJbAFDbEK",
      "GcDCGPdXCHFHFCLCDARbVOdWZbGKBFAGXDSUYIKGXCGIAJbPLLEGHcXCPCCFOOSCHDBDVCGCAEDEHDBDBCAJA",
      "FBCENBLAFCCFFBDVCGCBCBCBFEFBDBFAIDCASFMCCICCCVCGCBCEEICCCBEAQDWDFCCHDBDVCGCBCEEHDBDBKB",
      "FBCEOARBCFECCDEBCACBEBECELFEECCCEAHAbPMCCCWCPEHCCCCJBCCCBDDbDDCHCCCWCJCEEHCCCCJBGCCDOC",
      "NMCCCbODHCCCCCAGDIEXFCCCREXCICADGJFCACHTBOcFGGHAcABCACECXCACSCCDECAHAPDbHAcMHCbJFSFP",
      "CbJcQcCCADERcLLDDbLCAGADbQCmUCDDGCACDDbOCDDbGCDDGCACDDOCcECDDcObMPRdHDFExVDQCZGcWEKIT",
      "MUNTNMCCCBNbZDSPAFAcQdKIbQGcRLbECLFIYbDDEMbRFZcDbBFcKDTbZAYBMCbYbZCOCHcAbPDDLbRCKPcCXC",
      "LbJDKGbQDCbQDCFCBEAGhJUbHMkRDFDbLDFDHCACACACbEDcACGCAECCGEDDFFMGCCGeNAOARMdYAFADJCAEE",
      "HACACACDCKDDGEFASbObfIbZcrViUHDEBNbLCAGADcDIARWKGCGCGCGCGCGCGCGCbFbWAsCCbAIIEDEFdHHC",
      "CdLCDGbQCdPSbFbXPtTjtNcNbguEcQbTDkIEPLBVbUGHEeIbOIDdYDdDVUCbGZbZNcPCAbTFEACCLbGGbIObC",
      "EbYCLQARPLECcCKNTWEcQCACAZCDPDDMFDFDFKGCGCbQCNHeSWqnRNWFbWmnDoBDeBbNGNEGLCMCECACBCBCeD",
      "bInYTcLDcBbPLeNECfEbLZHZMdKEFDFDFDCbKLCZCSCBCODNbJeScScAkIbCEbWbWbFObDGbQGbDDbJFHCE",
      "bRgBTbJFbJFbNJbZNKCOCGCBCKCOCGCBEbZNlYKVLHZFCbPCIcSFDACbRCBEADWLWKbEcOSCBLVLZHZbNcDHB",
      "cNDCBGHCCCbCbRbCEbCbKHCbBbCcBLVLSOReHcUcEbYObYObNbJbBEAGWjRbPCBEBRFbZCEbCLAJVbRRbVUbCW",
      "KcRbSELcEKAOYYbYSDJbIEAKcLCDKBLACAbKRCbHDAHDcLGCACDCOCJIcEYDCHDBDVCGCBCEEHDBDBEAHAGG",
      "bDJCADACbLCJCADACDCBEACAbTcNCCCDVCbFcNDBCAhDcBDGbAFbJcKCAEAcIcBDAcUbADNWGhEcEeAcLbGHDA",
      "DHCBCbDCBDBDDdQHDbTDFCACBbCbYDJScTGATcUeAHdLbGbGICbSCGCAbYbDDVCNcWGCBCbREACBCCCADBZFCB",
      "CbKCBCDCAYbRkBWKQCbOECeIAdCbjLdZeGShNdxLdSQbpFSFbAfxQGwKkdEbUcpEvWIbESdASbDTbVRDbGUGS",
      "qRbSiEcLbHYDYbTcWFcEIQcNBCANGKkxXbQbFdUeKmwSDCGCBClEQAbECDAPDJpFdkVeCGMEIIJFAiwGdGCcS",
      "CBDADBDDCLCACGCcMCDDHCGCbBCDCECAEGCnBDYCYCbECYCbECYCbECYCbECYCHcsZbEHFiGGCQDGCBCEGcJ",
      "bIAeJbSLGRAmKbDTbRsRbBiVbDDAiAbECVJBiRGCDCBCOChOcIcPEAEAbuJDCbACBCADACJCDCACAHAFACACA",
      "CCCBCADACACACACACBCADDCGCDCDCACJCQGCCECQyFZHZHZfmLclfBbHgmNDioBDlbKQxXdqXuVcfZhhYGmoN"] },
  { names := ["bidicontrol", "bidic"], code := ["ciEAjvMBbBEcED"] },
  { names := ["bidimirrored", "bidim"],
    code := ["bOBTACAbDACAbEACAbUAQAfmTDcuOBdqRBLBcDBPBgWAhLDEFEAEBEDCDCACAFIGACRGDKBCACHCbFDDGAKBDS",
      "GBKEDBFXDPJDVBIBbpUNcXADDCBCCGDGCENpOVDFCNJAIFEAFECBDEFACCDBLFDBNSCDDACADACDGBHCZBMBFD",
      "CBDBFbQDHCbNGACAEEGCFAEECAjXAtWDEBCBPBDJbSHqMJDHdacSFGBgHBTACAbDACAbEACACBCBddpOAcGA",
      "cGAcGAcGA"] },
  { names := ["caseignorable", "ci"],
    code := ["bNAHAMAbKACAcUAFACAFADBtKhJFBFAKBCAjSGiAAGAbYbSCACBCBCAbTAMFLKCAbKALURAdYHCJCDbIACA",
      "bFbAdOKcHKFADAZXbSCbTAIBGIbQcFcEACAFHFAEGLBOAQAcHAFDJAVBbBADBcGAFBFBDCEAbFBEAMBcGAFECB",
      "FAVBXFCAcHADACDJAIBMBbFAcKANAbZAEAcEACCGCCDIBMBbEAcHADAHAGBVBbDBcGBFDJAVBbEAcVAICCAdNA",
      "DGMIdVADIKACGcWBbCACACAcENCECBGKCbJKAdZDCFCBDBbABFCRDOADBHAQAdRAxLCbkLCbEBbFBbFBcNBCG",
      "JADKEAGAbUEcAAcOBbJAePCFBKAHCiMBDAcHACGCACADHHJDAbOAJbTDLVDbXACECAGAbPINBbHDDBCCcFACB",
      "EACCcHHDBcNFdFCCMCGFAHAEBbZcKOAbJdWrEACCMCOCOCOBNEJBLADADEbYECJCAOARMcAbGejSBeKCeWAQA",
      "dTbFbWAsCAbLDEEGAdQFdQCbqbVAbwDFkLAdVDCJCAbDDdDBPbHdBAYCdZDEBJAEAFAbABGAfWBbBROAbNHbAK",
      "bVCbXADDDBSAWBcPFDBDBNAJAbKAMAcAACCDBGBCAbCAPBGBCAdXEKCeSADAFAbdzTAfSQwCPEANPbJADAgOA",
      "IAHAMAbKACAbWAbUBcQAWCtUAiTAfUEbnQFCbPCIwLCCBGDbPCFAgKBwCDbNAbBECAmEBZAcBFcTKbYDeUAcDO",
      "bQADBLCbYDDBDAFALAbZCbLECHcLANBcBILDDAdSCDACBHADAgCAEHWBcGBEAbMGEEcTFOACACAPBdIHDCCAYA",
      "dHFCAFBCBjFDHBCBbCBdIHDACBeDACADFCAdYACADDCEkAICBjXBCAFAfPDDBFAbHJbPFDDJAKFDCbVMCBhRA",
      "CCCAhUGCFCAdFVDGCBCBeTFEACBCGCAcVBEACAcOAkWBMBcBEGACAYAhxEQHOqyZLECdsBEcIGKDtPCbPBsPA",
      "cMQcNBCBOBygBDCGCBeuHBCDgyVbTDWuZCKPDGbFDfTCcyEcCFbXJAPAXECOcaJGCQDGCBCEGcJbIAgFNoFA",
      "cKDtOEjVBjKADAIBGAKArXGeGHebGEbsxxQAbFdReZjF"] },
  { names := ["cased"],
    code := ["cNZHZbWALAFAGWCbEChMCDFhZDbIIBbFEdTAbRDDBDDCAHACCCACTCdECfIJgJCbLKbOefGbLCAGADbQCDzXdH",
      "DFdfVKGbQDCcNhJcNkRDFDbLDFDHCACACACbEDcACGCAECCGEDDFFMGCCGeNAOARMdYAFADJCAEEHACACACDCF",
      "FADDGEFASbFEBbfMbZcrViUHDEBNbLCAGAbtwDbTTbDfDdXEDCcYVFCCbfQbQCNHdBbeaJGNEbnUZHZbtUdB",
      "dTbJFbJeNKCOCGCBCKCOCGCBrKADCCbPCIbvAbYObYdQVLVefJcLbgiRcLbHYDYbmiFdGCcSCBDADBDDCLCACG",
      "CcMCDDHCGCbBCDCECAEGCnBDYCYCbECYCbECYCbECYCbECYCHcsZJCTHFkCcJdgLcPdaBZHZHZ"] },
  { names := ["changeswhencasefolded", "cwcf"],
    code := ["cNZdNALWCHbHACACACACACACACACACACACACACACACACACACACACACACACACACACACADACACACACACACACACB",
      "CACACACACACACACACACACACACACACACACACACACACACACBCACACACBCACBCCDDCBCCEBCBCACACBCADACBCCCA",
      "CBEAIBCBCBCACACACACACACACADACACACACACACACACADBCACCCACACACACACACACACACACACACACACACACACA",
      "CACACACACACACACACACACAIBCBDACDCACACACAjNAbRACAEAJAHACCCACBCQCIXANCEBCACACACACACACACACA",
      "CACACACBDBCACBDbYbXACACACACACACACACACACACACACACACACAKACACACACACACACACACACACACACACACACA",
      "CACACACACACACACACACACBCACACACACACADACACACACACACACACACACACACACACACACACACACACACACACACACA",
      "CACACACACACACACACACACACACACACACACACACACACACADbLbXAefHbLCAGAbfFFdfVJHbQDCmJACACACACACA",
      "CACACACACACACACACACACACACACACACACACACACACACACACACACACACACACACACACACACACACACACACACACACA",
      "CACACACACACACACACACACACACACACACACACACACACACACACACACAGBDACACACACACACACACACACACACACACACA",
      "CACACACACACACACACACACACACACACACACACACACACACACACACACACACACACACACACAKHJFLHJHJFMACACACAJH",
      "RbVDCDFGCDFMDNEGCDFlMAEBHAbUPUAbfNZcsVbVbXACCDACACACDCADAJCCACACACACACACACACACACACACA",
      "CACACACACACACACACACACACACACACACACACACACACACACACACACACACACACACACACACACACAJACAFAbtyKACA",
      "CACACACACACACACACACACACACACACACACACACACACAUACACACACACACACACACACACACACAfGACACACACACACA",
      "EACACACACACACACACACACACACACACACACACACACACACACACACACACACACACACALACACBCACACACAFACADACAEA",
      "CACACACACACACACACACECECACACACACACACACDCACBCACACACACACACACAZAbiHdBbeaJGNEbnUZbvAbNfHbJ",
      "gBKCOCGCBcqDbYgCVegPbFbgjXbFcNYbuiAbH"] },
  { names := ["changeswhencasemapped", "cwcm"],
    code := ["cNZHZcHALWCbECcLCdFCbBDNDBCAFdOCRHbACBCACBEBCDCEDACBDAIADACBEFGALBgLAbRDDBECCAHACCCACT",
      "CbUEbGCECfCJgJCbLLbMefHbLCAGADbQDCzXdHDFdfVKGbQDChEAEARAeKfZDACeNDFDbLDFDHCACACACbEDcA",
      "CGCAECCGEDDFFMGCCGlMAEBHAbCASbFEBbfMbZcrVeICBCBIdXIDEBNbLCAGAbtwDbTTbBfFNDcJKOECDECY",
      "CbSZBbhDAbDdBbeaJGNEbnUZHZbtUdBdTbJFbJeNKCOCGCBCKCOCGCBcoQbYObYdQVLVefJcLbgiRcLbHYDY",
      "bugZcP"] },
  { names := ["changeswhenlowercased", "cwl"],
    code := ["cNZdYWCGbIACACACACACACACACACACACACACACACACACACACACACACACACACACACADACACACACACACACADACA",
      "CACACACACACACACACACACACACACACACACACACACACACBCACAEBCACBCCDDCBCCEBCBCACACBCADACBCCCACBEA",
      "IBCBCBCACACACACACACACADACACACACACACACACADBCACCCACACACACACACACACACACACACACACACACACACACA",
      "CACACACACACACACACAIBCBDACDCACACACAlEACAEAJAHACCCACBCQCIbKAJACACACACACACACACACACACAGADA",
      "CBDbYbXACACACACACACACACACACACACACACACACAKACACACACACACACACACACACACACACACACACACACACACACA",
      "CACACACACBCACACACACACADACACACACACACACACACACACACACACACACACACACACACACACACACACACACACACACA",
      "CACACACACACACACACACACACACACACACADbLehEbLCAGAbbVdHdgMAHbQDCmJACACACACACACACACACACACACA",
      "CACACACACACACACACACACACACACACACACACACACACACACACACACACACACACACACACACACACACACACACACACACA",
      "CACACACACACACACACACACACACACACACACACACAKACACACACACACACACACACACACACACACACACACACACACACACA",
      "CACACACACACACACACACACACACACACACACACACACACACACACACAKHJFLHJHJFMACACACAJHZHJHJHJEMEMDNEME",
      "lMAEBHAbUPUAbfNZcsVbVbXACCDACACACDCADAJCCACACACACACACACACACACACACACACACACACACACACACACA",
      "CACACACACACACACACACACACACACACACACACACACACACACACACACAJACAFAbtyKACACACACACACACACACACACA",
      "CACACACACACACACACACACAUACACACACACACACACACACACACACAfGACACACACACACAEACACACACACACACACACA",
      "CACACACACACACACACACACACACACACACACACACACACALACACBCACACACAFACADACAEACACACACACACACACACACE",
      "CECACACACACACACACDCACBCACACACACACACACAZAbhaIZbvAbNfHbJgBKCOCGCBcqDbYgCVegPbFbgjXbFcNY",
      "buiAbH"] },
  { names := ["changeswhennfkccasefolded", "cwkcf"],
    code := ["cNZcSAIACADACADDDCCCCWCHbHACACACACACACACACACACACACACACACACACACACACACACACACACCCADACACA",
      "CCCACACACBCACACACACACACACACACACACACACACACACACACACACACACBCACACACBCACBCCDDCBCCEBCBCACACB",
      "CADACBCCCACBEAIJCACACACACACACADACACACACACACACACADDCCCACACACACACACACACACACACACACACACACA",
      "CACACACACACACACACACACACAIBCBDACDCACACACAdUIbGFDEdOBCCKAbHACACACAEAEBFGCACBCQCIXANHCACA",
      "CACACACACACACACACACACCCBCACBDbYbXACACACACACACACACACACACACACACACACAKACACACACACACACACACA",
      "CACACACACACACACACACACACACACACACACACBCACACACACACADACACACACACACACACACACACACACACACACACACA",
      "CACACACACACACACACACACACACACACACACACACACACACACACACACACACACADbLbXAfTAdLDbcIHeVBCAdGADA",
      "bJCDAjUBbbYAeYAbPBbVAcDAKAFAFAFANAKACEIASAKAFAFAFANAiXbLCAGAbVAdVBzOFbkPBdIEbrTJHbQDC",
      "eFCCKCRCbBOAbJbKcNACACACACACACACACACACACACACACACACACACACACACACACACACACACACACACACACACA",
      "CACACACACACACACACACACACACACACACACACACACACACACACACACACACACACACACACACACACACACACACACAGBDA",
      "CACACACACACACACACACACACACACACACACACACACACACACACACACACACACACACACACACACACACACACACACACACA",
      "CACACACACAKHJFLHJHJFMACACACAJHCACACACACACACADbVDCDNDIEAFDCCEAFHDCDHCPCAGANCEFEBCBFACA",
      "JCOAISDbACMMAdKDCCCKCBDEDCCACACACDCKCFFEHbVEAGAgHBCBjPBlYfIbyOAeACdYAlGbVbXACCDACACACD",
      "CADAHECACACACACACACACACACACACACACACACACACACACACACACACACACACACACACACACACACACACACACACACA",
      "CACACACACACACACACAJACAFAeVAlSAdGANiFbRAcCACCdTBDAdSAbYdPENdTbECbNJbUCoTbrgZACACACACACA",
      "CACACACACACACACACACACACACACACACACAUACACACACACACACACACACACACACACBfDACACACACACACAEACACA",
      "CACACACACACACACACACACACACACACACACACACACACACACACACACACACACAJACACBCACACACAFACADACAEACACA",
      "CACACACACACACACECECACACACACACACACDCACBCACACACACACACACAVEDBbhJDKAHdBbdgRkJDACADJCACADB",
      "EcPDeBbNGNEGACXCECACBCBCeDbInYTcLDcBbPMEZXUDLCSCDFCCACfEDAChHEFDFDFDCEGCGCIbnSbNfHbJ",
      "gBKCOCGCBsYECbPCIbvAbYgCVegPbFbgjXbFcNYbdnCDgdNbJbrHGPHcNFwEdGCcSCBDADBDDCLCACGCcMCDDH",
      "CGCbBCDCECAEGCnBDlFDbXdcRcJdgLbHbvZDCbACBCADACJCDCACAHAFACACACCCBCADACACACACACBCADDCG",
      "CDCDCACJCQGCCECQwJKGbECbFbBCbKAeICObRFIIBdqTJdrlNuVbpcqTgbN"] },
  { names := ["changeswhentitlecased", "cwt"],
    code := ["dTZcHAbQXCHCACACACACACACACACACACACACACACACACACACACACACACACACACACACADACACACACACACACBCA",
      "CACACACACACACACACACACACACACACACACACACACACACADACACCDACADAEAGADAECDADACACADAFADAEACADAEA",
      "CAFACBCBCACACACACACACACACBCACACACACACACACACCCACAEACACACACACACACACACACACACACACACACACACA",
      "CAEACACACACACACACACAJADBCAFACACACACFCBCACBEBCDCEDACBDAIADACBEFGALBgLAbSACAEAECTAbCbICB",
      "ECCACACACACACACACACACACACECADADAcBbVCACACACACACACACACACACACACACACACACAKACACACACACACACA",
      "CACACACACACACACACACACACACACACACACACACADACACACACACACBCACACACACACACACACACACACACACACACACA",
      "CACACACACACACACACACACACACACACACACACACACACACACACACACACACACACACAbYbMfmFFdfVICAjFAEARAeLA",
      "CACACACACACACACACACACACACACACACACACACACACACACACACACACACACACACACACACACACACACACACACACACA",
      "CACACACACACACACACACACACACACACACACACACACACACACACACACACACACACACGGACACACACACACACACACACACA",
      "CACACACACACACACACACACACACACACACACACACACACACACACACACACACACACACACACACACACIJFLHJHJFLHJHJN",
      "DHJHJHJECBHAECCBJDDBJHLCCBnFAbIPFAbgMZctRbVCAEBCACACAHADALACACACACACACACACACACACACACA",
      "CACACACACACACACACACACACACACACACACACACACACACACACACACACACACACACACACACACACAJACAFANbLCAGA",
      "btwEACACACACACACACACACACACACACACACACACACACACACACAUACACACACACACACACACACACACACAfGACACACA",
      "CACACAEACACACACACACACACACACACACACACACACACACACACACACACACACACACACACACALACADACACACACAFAFA",
      "CBDACACACACACACACACACAMACACACACACACACAFACADACACACACACACACAbBAbhDAbDdBbeaJGNEbpAZbvIbN",
      "fHbJgAKCOCGCBcrCbYeWVegPbFbgjXbFcIYbuiHbH"] },
  { names := ["changeswhenuppercased", "cwu"],
    code := ["dTZcHAbQXCHCACACACACACACACACACACACACACACACACACACACACACACACACACACACADACACACACACACACBCA",
      "CACACACACACACACACACACACACACACACACACACACACACADACACCDACADAEAGADAECDADACACADAFADAEACADAEA",
      "CAGBCBCBCACACACACACACACBCACACACACACACACACBCBCAEACACACACACACACACACACACACACACACACACACACA",
      "EACACACACACACACACAJADBCAFACACACACFCBCACBEBCDCEDACBDAIADACBEFGALBgLAbSACAEAECTAbCbICBEC",
      "CACACACACACACACACACACACECADADAcBbVCACACACACACACACACACACACACACACACACAKACACACACACACACACA",
      "CACACACACACACACACACACACACACACACACACADACACACACACACBCACACACACACACACACACACACACACACACACACA",
      "CACACACACACACACACACACACACACACACACACACACACACACACACACACACACACAbYbMehDbQDCbdHFdfVICAjFAEA",
      "RAeLACACACACACACACACACACACACACACACACACACACACACACACACACACACACACACACACACACACACACACACACA",
      "CACACACACACACACACACACACACACACACACACACACACACACACACACACACACACACACACACGGACACACACACACACACA",
      "CACACACACACACACACACACACACACACACACACACACACACACACACACACACACACACACACACACACACACACIJFLHJHJF",
      "LHJHJNDcACBFACAECCBFAEDDBJHLCCBFAnAAbIPFAbgMZctRbVCAEBCACACAHADALACACACACACACACACACACA",
      "CACACACACACACACACACACACACACACACACACACACACACACACACACACACACACACACACACACACACACACAJACAFA",
      "NbLCAGAbtwEACACACACACACACACACACACACACACACACACACACACACACAUACACACACACACACACACACACACACA",
      "fGACACACACACACAEACACACACACACACACACACACACACACACACACACACACACACACACACACACACACACALACADACA",
      "CACACAFAFACBDACACACACACACACACACAMACACACACACACACAFACADACACACACACACACAbBAbhDAbDdBbeaJGNE",
      "bpAZbvIbNfHbJgAKCOCGCBcrCbYeWVegPbFbgjXbFcIYbuiHbH"] },
  { names := ["dash"],
    code := ["bTAcaVAcAAfkKAbnQAdbEFcKAbOAQApBAeoJADAbGBFAbDArFAUAeIAczwBBbMALAgOAflPAmHA"] },
  { names := ["defaultignorablecodepoint", "di"],
    code := ["gRAzYAbbPAegXBckIBdIEdaQEbBEbYPgkZAczmQPjGAgFAdCIctlODhwYHbtkzMgbN"] },
  { names := ["deprecated", "dep"], code := ["mRAbyWAdkUACAdcKBdiKFbaWBbzryLA"] },
  { names := ["diacritic", "dia"],
    code := ["dQACAcUAHAFADBtKgCCHGFSBFAKBjUEiCAcEbSCACBCBCAfCHFBfFBFBECcQbAdOKcHKbJBeXHbQJRbBcKARA",
      "EDbDAcXARAeHARAeHARAbWCcJARAIAeQAeHARAeHARAeGBRAeVAeIANFCAeEAOEcYBbCACACAFBcPCCBcLAeJA",
      "CBbPBFEbAGCALBbbECbkNBbFAfTKKAnKClHAVHDAbXODKEODLcVAQAbNIcDBcHAMBcPBcNFdFYFAHADCbZcK",
      "bXbJGLbMKrEACCMCOCOCOBexLCmGAtNFeCDdSAbsmLANBCAbDBdFBPbHdZCdZAHBNAbMAfWAbCRcGDbLAdSANA",
      "bLAfUCcODcAAdXEKCeZBbdzTAbdQPkLACAbWAbUBcQAbdLAbtOFCbPCIyOCFAgKBwAFbNAbBEpHADCcTKbYD",
      "hLAbQAcVBeRBcLAcZAKCeBBgXBdDBRAZGEEdMCCBOBdSAEAeUBjSBeXAePBeMAkKBjZBFAgBAdGATAdEAqGA",
      "jZACBdEAcOAnWBYAhyBOqzQAdsBEcIGvTBvBQdDBygDDCGCBltIbTDWuZCEFJHDGbFDfmXcJhNGoMAcKDbdNB",
      "bcJGeGCCC"] },
  { names := ["emoji"],
    code := ["bJAHAGJeIAFAlySANAiJAXAdNFQBoEBNAgLAbAKFChSAiYBLAKAcHDCEKADADBDAFADACBDAEAEBJCGACAGLMB",
      "DACBCATADBTFCACBEBGADBFBMBGBDAGBCACBVBGFCDDAFADADFCADACACAHAEAHALBQADAFACAFCCAMBbXCKA",
      "PAPAoJBrWCUBcAAFAbvVANAxEACAgmrRAhVAgFBNBPADJcYZCBYAVADIWBgTbHDeHDBCCDdEDCCkCCcKMFCXIB",
      "DHNADDDAFBOBDAJBKAGCNCJCDACAFAHAEAHdHbXcRGHDDEJEACBEADJiULFAkYbUCJChCeJMEKEcECAFPDLFJ"] },
  { names := ["emojicomponent", "ecomp"], code := ["bJAHAGJmbKAiGAdftSAdoiXZtOEceBDbsvuRdR"] },
  { names := ["emojimodifier", "emod"], code := ["hhiXE"] },
  { names := ["emojimodifierbase", "ebase"],
    code := ["olHAiMARDgsjWAcJCDADCeOBDKWSEAFCCCIACAZAhUBFAWAFBgTCEEdGARCKAMAwEADAJHHAKJDCcFAcKBCBCA",
      "SCCMiWCbRI"] },
  { names := ["emojipresentation", "epres"],
    code := ["nhQBhYDEADAuCBWBbZLbSAUAOAJBSBGBJAGAWAIBCAFADAIAFBbDAbKACAFCCAcKCZAPAbhCBcAAFAgplFAhVA",
      "hJADJcYZCAZAVADECCWBgTbGNICcRCVNbQFENQEAEcSCAChEDcKODCXTAbBBOAdJdGbXcRHAECDDEDMBIIiUL",
      "FAkYbUCJChCeJMEKEcECAFPDLFJ"] },
  { names := ["extendedpictographic", "extpict"],
    code := ["gNAFAlySANAiJAXAdNFQBoEBNAgLAbAKFChSAiYBLAKAcHDCEKADADBDAFADACBDAEAEBJCGACAGLMBDACBCA",
      "TADBTFCACBEBGADBFBMBGBDAGBCACBVBGFCDDAFADADFCADACACAHAEAHALBQADAFACAFCCAMBbXCKAPAPAoJB",
      "rWCUBcAAFAbvVANAxEACAgmrRAbODdXLQBQAPBbMJeJBNBPADJUcDbCOLAVADICDKWHhFDeHDBCCDdEDCCDGjT",
      "CcKMFCXIBDHNADDDAFBOBDAJBKAGCNCJCDACAFAHAEAHdHbXcRGHDQEACFDMiLbLNDcFHLFbPHbFBNDDNKbM",
      "NbUCJChCdLHPfPjXbnH"] },
  { names := ["extender", "ext"],
    code := ["hBAuRBbhVArAAyHAfIAdMAbcZAeYAdnGAcFAxOApJAcRAhkKAbSEeABdQCbqbVAcgTAblBAXAfIAeFAWBbfzWA",
      "dbLBcfCAbCAFAbvCAlIAeNBtFCbvKAbgBAbdiFBbtLBCAPBbqxLBbuGAbgVC"] },
  { names := ["graphemebase", "grbase"],
    code := ["bGdQbIMCwVeJHDFFGCACTCiPIgJCbLDbXDCbVACADADAKbAFFSJMACbTWPCdWJAHBDAFbFDACbDbEdKMAPbQKG",
      "EXFAKAEAIOCYGACKGbFRbPcGcCCACDJDCCIJDbCCBCHDBDVCGCAEDEACBHBDBCAOBCCFXGACFFBDVCGCBCBCB",
      "FCZDCAIJDCCANACICCCVCGCBCEEDJACBEAQBFLIAJBCHDBDVCGCBCEEADAHBDBQBCCFRMACFECCDEBCACBEBEC",
      "ELGACBECCCEAWUHCCHCCCWCPEAEDUCCBDBFJIJCKCCCWCJCEEBDACBYCCBFJCCPKCCCbODACBGCCCCBFCCJFZ",
      "DBCREXCICADGKBHGIJDCNbVCBMHJMbMBCACECXCACJCBKADECAKJDDbHXDbACACACNCbJTAGADEbYHCFCMbMbS",
      "FAHADBDYDDEPFMCBDFCOCbNCAGADoMCDDGCACDDbOCDDbGCDDGCACDDOCcECDDcOGbCEZHdHDFDzSEdKIROSEB",
      "KRPMCCQbZDAIHCBMIEJHJHKGJHdKIEDbHCAGcRLbEFDDCFBCFIAEbPDEMbRFZHKEcEDBEcDCAKACBJFOJHJHN",
      "dJbVLDEHCbCKLDbFFBHcDCADCCAObVJBGOEcJGbQDKMAOAIDCFCCDAGhJcNkRDFDbLDFDHCACACACbEDcACOCN",
      "DFCSDCCICKGXIbWRBDbACMEbHcLfJFzPXKWcrRDoMEBGbSCAGADcDIBQWKGCGCGCGCGCGCGCGbIdPbJZCdKNiF",
      "bBcFHPCdHFdWGbQCdPCdHKbVCbriQEcCKnJVbUFALbFDdBDFJiMVQCCCDCYDEFJHcDJcPLLZMCbLJYMANbDHbV",
      "CBFBDBCMCKFGCYCbOHBDBMCCHCADJDbFCbYCAEBDEDACAZQDHMFDFDFKGCGCcHFeMCBCDEJHqnRNWFbWmnDoB",
      "DeBbNGNEGACXCECACBCBCyZbHPRJXbICSCDFECfEFgADbEEFDFDFDCEGCGOBDLCZCSCBCODNbJeSGCFbSEdJCM",
      "EAbWbSfCbCEbWRbAFbJKbDGbLLbDCbKFNbRgBDJHbJFbJFbNJbZMLCOCGCBCKCOCGCBEbZNlYKVLHZFCbPCI",
      "cSFDACbRCBEADWCcTJIbXSCBGbGEbAGbAbNcDFTDbUQDCCCbCLIIIIcLbHbKHLKcBEbCDbAGZIDNGdDcUcEbY",
      "ObYIbPNJHbLJXJBiBbECbPEADBRFJIbObNJVMIXRFDbNbBVWKACcBQGFbDCBDANbWFBDBCDPYIJKbJGAKRJbI",
      "CCMbZKACHFBCPCTMRCbBEBFFCBcMGCACDCOCKHbUCCOJJBCHDBDVCGCBCEEACACDDBDBEANGbDJCADACbLCACB",
      "QACBEACCCBbOcDJBEACUCACCbFbVCBHACBCADADDJJgLbUCBHDDADbAbLbYJBCADDMJHMUbQCACBJBHJHTbDbA",
      "EACBFAKWhEbUKADAdXdENHDADHCBCXCECBHDCCKJcTHDbPJDCDbCALbNHBFHKAHBEbTOADIOcUIJdKAEACA",
      "dLbHPJHICbLPACFLbCEbFbAAIADAcYGCBCbLWAKJHFCBCbKFBCACAIJHbRFJjNSDDKOCbJJBEWdJAQbXObjM",
      "dZeGCEMhNdxLdUObpFSFbAfxQGwKkdEbDNCEJcoTvWIbECJFdCCJHbDIALbVIOLJCGCUGSqRcFhRdMGYDYbTcW",
      "GcDMMcNDPEKkxXbQbFdUeKmwSDCGCBClEQAbECDAPDJpFdkVeCGMEIIJDADAfvLjSEqTHWQQdSeLcJjLLbMDcH",
      "GCXBIbDFcIWcNEAeTTNTNdIKYfGdGCcSCBDADBDDCLCACGCcMCDDHCGCbBCDCECAEGCnBDlFDvPcEDbZHCNCG",
      "brXbEHFkCcJfRbSLGDJFBmJbDTbRFJGArXbBFJiHbDDKFAhLbECCCBCGDEKBiRGCDCBCOChODIbXcPIAFJFB",
      "beGcPcZcIhNDCbACBCADACJCDCACAHAFACACACCCBCADACACACACACBCADDCGCDCDCACJCQGCCECQcBBkLbR",
      "FdVNODOCOCbKLgRcFbCObRFIIBPFfZblWEQEMEiJHLFAQLFcDJJHbNJbDDLFBPIbOnFJNDMEKEcECAFPDLFJ",
      "IfQCdYbnQclfBbHgmNDioBDlbKQxXdqXuVcfZhhYGmoN"] },
  { names := ["graphemeextend", "grext"],
    code := ["bdOeHkQGkEbSCACBCBCAcVKbXURAdYGDFDBCDbKAbFbAdOKcHIKAZDCICCCEbSCcIIbRXCbFcEACAFHFAEGLB",
      "bEAcHACADDJAKALBbBADBcGAFBFBDCEAbFBEAMBcGAFECBFAVBXFCAcHACBCDJAICLBbFAcIACANAKAbPAEA",
      "cEACCGCCDIBMBbEAcHADBCAECCDIBMBbDBcGBCADDJAKALBbEAcVAFADCCAJAdEADGNHdVADIMGcWBbCACACA",
      "cENCECBGKCbJKAdZDCFCBDBbABFCRDOADBHAQAbbCCbkLDbDCbEBbFBcNBCGJADKKAbUCCAeOBbJAePCFBKAHC",
      "iMBDAcHACGCACADHHJDAbXbTDLVDbXJFCbNINBbHDDFcFACBEACEcFHDBfXCCMCGFAHAEBhRcLuFAhObGeoDC",
      "fMAdTbFvJFeCBbsqFDCJbHBdDBkNAEAFAbABGAfWBbBROAbNHbAKCAbTCbXADDDBDAbLAcQFDBDBNAJAbWAcAA",
      "CCDBGBCAbRBJAjFADAFAbdzTAbcKPRPoDBxIAiTAfUEcmHCCBGDbPCFAgKBwCDcOEmGBdAFcTKbYDeUAcDObQA",
      "DBLCbYDDBIAcKCbLECHcLANBcBICAJDDAdSCDDHADAgCAEHWBcGBCACANAKAPGEEcQADFCADACCFCCAPBdIHDC",
      "CAYAdEADFCADACBCBjCADDHBCBbCBdIHDACBeDACADHdYACADDCEkAICBjMALDFAfPDDBFAbHJbPFDDJAKFDC",
      "bVMCBhRACCCAhUGCFCAdFVDGCBCBeTFEACBCGCAcVBEACAnKBMBcBEGCYAhxUAHOqyZLECdsBEcIGboJAcMD",
      "dEAMBbdaYBgzAbTDWuXEEFJHDGbFDfTCcyEcCFbXJAPAXECOcaJGCQDGCBCEdXAgFGoMAcKDtPDjVBjKADAIB",
      "GAsHGeGGbtcaGdReZjF"] },
  { names := ["hexdigit", "hex"], code := ["bWJIFbBFdslMJIFbBF"] },
  { names := ["idsbinaryoperator", "idsb"], code := ["seABDJtEA"] },
  { names := ["idstrinaryoperator", "idst"], code := ["seCB"] },
  { names := ["idcontinue", "idc"],
    code := ["bWJIZFACZbWALACADAGWCbECrPFLPEIACASeMCBDDCAHECACTCdECfICEDgJCbLDAHbOJbSCACBCBCAJbAFD",
      "bEKGcVFdXCHDJCSDARcGDdWPcBFADADbTTbBFKGXCGIcWCeYDJCSCHDBDVCGCAEDDIDBDDJAFBCEDLLACADCCF",
      "FBDVCGCBCBCBDACEFBDCEAIDCAIPMCCICCCVCGCBCEDJCCCCDAQDDJKGCCCHDBDVCGCBCEDIDBDCICFBCEDJCA",
      "RBCFECCDEBCACBEBECELFEECCDDAHAPJRMCCCWCPDICCCDIBCCCBDDDJRDCHCCCWCJCEDICCCDIBGCCDDJCCNM",
      "CCCbYCCCEGDIEDJLFCCCREXCICADGEAFFCACHHJDBOcFGOCJbOBCACECXCACWDECACGCJDDbHAYBHJMACACAFJ",
      "CbJFTCRCbJKAcGcVHcZDbLCAGADbQCmUCDDGCACDDbOCDDbGCDDGCACDDOCcECDDcODCKIPPRdHDFExVDQCZ",
      "GcWEKIVKVMTNMCCCBNdFEAFBDJbICCKHdKIbQGcRLbECLFLLbNDEMbRFZHKbMbBFcKCbCDKHJOAJNCbEDLVcY",
      "EJSINeLNcDJJEbWDKGbQDCRCCbMGuNDFDbLDFDHCACACACbEDcACGCAECCGEDDFFMGCCGQBbYBUAbDAOARMcAM",
      "FAELSAFADJCADFHACACACPDDGEFASbOdzCiUHINbLCAGADcDIAQXKGCGCGCGCGCGCGCGCbFtYCbAOCEDEFdHDG",
      "CdQGbQCdPSbFbXPtTjtNcNbguEcQbTDkIEbBVbVFJCeKbMIDdYDdDVcCFAUbZNcRLJHXEACbWDbJNbCEcMPK",
      "HbECcCKNDJHWEcUZCDPDELFDFDFKGCGCbQCNHeSCBDJHqnRNWFbWmnDoBDeBbNGNEGLCMCECACBCBCeDbInY",
      "TcLDcBbPLFPRPEBZCbHECfEUJIZFACZLdLEFDFDFDCbKLCZCSCBCODNbJeScScAfHAfBbCEbWQAbGbFObDGbQ",
      "GbDDbJFHCEbRgBDJHbJFbJFbNJbZNKCOCGCBCKCOCGCBEbZNlYKVLHZFCbPCIcSFDACbRCBEADWLWKbEcOSCB",
      "LVLZHZbNcDHBcNDCBGHCCCbCDCFAbHbCEbCbKHCbDbAcBLVLSOReHcUcEbYObYObNJJHbLEECWjRbPCBEBRF",
      "bZbILAJbGbGVbRUbCWKcSbGPKcHIAOYIJHcACJFDJbJDAKcQFDCMCAbKRCbKHDcLGCACDCOCJIcGGJHDCHDBDV",
      "CGCBCECJDBDCDAHAGGDGEEMJCADACbLCJCADACDCHOBbEcWGJFDbFcRCAJJgLcBDIYFbJcMEAMJbNcEIJHT",
      "bDbADOFJHGhEcGdYcVWHDADHCBCbDCBDINJcTHDbTDHCBbCcKJAJcVEATcUeAHdLbGQJHICbSCIQJZbDDVCN",
      "cWGCBCbREACBCIJJHFCBCbKCBCFIJHbRFJjNWKQCbOEEOKdIAdCbjLdZeGShNdxLdSQbpFRVLfxQGwKkdEcF",
      "coTvWIbECJHdACJHbDDEMcCKDNJKUGSqRbSEJhRcLbHYDYbTcWFcEIQcNBCBMGKkxXbQbFdUeKmwSDCGCBClE",
      "QAbECDAPDJpFdkVeCGMEIIJEBgeSJtZbTDWuXEEFJHDGbFDfTCrCdGCcSCBDADBDDCLCACGCcMCDDHCGCbBCD",
      "CECAEGCnBDYCYCbECYCbECYCbECYCbECYCHDbXtTcCFbXJAPAXECObqNbEHFiGGCQDGCBCEGcJbIAeJbSENDJ",
      "FAmKbEScFsDbPiHbQhQbECVJBiRGCDCBCOChOMGbQcXFJbtVDCbACBCADACJCDCACAHAFACACACCCBCADACACA",
      "CACACBCADDCGCDCDCACJCQGCCECQfaBJbnRclfBbHgmNDioBDlbKQxXdqXuVcfZhhYGmoNbogxZjF"] },
  { names := ["idstart", "ids"],
    code := ["cNZHZbWALAFAGWCbECrPFLPEIACAfAECBDDCAHACCCACTCdECfIJgJCbLDAHbOcUbAFDbUbQbKBCdUCAQBIBLC",
      "DARACbDbEdKMAZbGKBFAGVFAKAEAYYIKGXCGRbPcHcBEATAIJQPFHDBDVCGCAEDEARAOBCCPBLAJFFBDVCGCB",
      "CBCBbGDCAUCRICCCVCGCBCEEATAQBYAMHDBDVCGCBCEEAbFBCCQASACFECCDEBCACBEBECELXAcBHCCCWCPEA",
      "bBCCBDBbFAFHCCCWCJCEEAbFCCBQBSICCCbODARAGCJCZFGREXCICADGcHbVCBNGcHBCACECXCACJCBKADECA",
      "WDbHAcMHCbJbCEeMbQVARFFDEAEBICFMNASbLCAGADbQCmUCDDGCACDDbOCDDbGCDDGCACDDOCcECDDcObMP",
      "RdHDFExVDQCZGcWEKIROSPRPMCCQbZbKAFAcQdKIbOCAGcRLbEbYbDDEMbRFZcDWKcAdFAdQbUSHcDbDOBLbR",
      "bBbJbQCLbJDKGbQDCbQDCFCBEAGhJcNkRDFDbLDFDHCACACACbEDcACGCAECCGEDDFFMGCCGeNAOARMdYAFADJ",
      "CADFHACACACPDDGEFASbOdzCiUHDEBNbLCAGADcDIARWKGCGCGCGCGCGCGCGvFCbAIIEDEFdHFECdLCDGbQCdP",
      "SbFbXPtTjtNcNbguEcQbTDkIEPLBVbURbEDdBbOIDdYDdDVQCCCDCWbEbZPbXcLFEACBMbBLWbAbCIbUbDARE",
      "CJLECbOYCCHVWEAEbXCAEBDEDACAZCDKICNFDFDFKGCGCbQCNHeKbEqnRNWFbWmnDoBDeBbNGNEGACJCMCECA",
      "CBCBCeDbInYTcLDcBbPLeNECfEbLZHZMdKEFDFDFDCbKLCZCSCBCODNbJeScScAkIbCEbWbWbFObDGbLLbDDbJ",
      "FHCEbRgBTbJFbJFbNJbZNKCOCGCBCKCOCGCBEbZNlYKVLHZFCbPCIcSFDACbRCBEADWLWKbEcOSCBLVLZHZ",
      "bNcDHBcNAQDCCCbCbRbCEbCbKHCbBbCcBLVLSOReHcUcEbYObYObJbNbBKWjRbPHBRFcFbCLAJVbRRbVUbCW",
      "NcAcGBDAObSbHYbBbJbEADAJbIEANbVPDWACAbKRCYUBcMGCACDCOCJIbUbNHDBDVCGCBCEEATANEbFJCADA",
      "CbLCAbAACAbTcATDVCbFbVVBCAhDbUbQDbLbVVAcIbQOAcUbAbMGhEbReNcLbGHDADHCBCXQACAdRHDbMRACA",
      "bDALbNIAWAMbTUATcUhSbGbGICbKSAbYbDeJGCBCbLWAbAFCBCbFPAYbRkBSQACMCbHeVAdCbjLdZeGShN",
      "dxLdSQbpFSFbAfxQGwKkdEbDcpVvWIbESdASbDTbVRDbGUGSqRbSiEcLbHYDYbTcWGAcPMcNBCAPEKkxXbQbF",
      "dUeKmwSDCGCBClEQAbECDAPDJpFdkVeCGMEIIJiwLdGCcSCBDADBDDCLCACGCcMCDDHCGCbBCDCECAEGCnBDY",
      "CYCbECYCbECYCbECYCbECYCHcsZbEHFkCcJfRbSLGRAmKbDTbRsRbBiVbDDAiAbECCCBCGDEKBiRGCDCBCOChO",
      "cIcPIAbuJDCbACBCADACJCDCACAHAFACACACCCBCADACACACACACBCADDCGCDCDCACJCQGCCECQgoBclfB",
      "bHgmNDioBDlbKQxXdqXuVcfZhhYGmoN"] },
  { names := ["ideographic", "ideo"],
    code := ["seWBbAIPCblEjtNcNbfbJbhsJoBDeBbsiLAOEKkxXbQbFdUeKnlMpFbdeJclfBbHgmNDioBDlbKQxXdqXuV",
      "cfZhhYGmoN"] },
  { names := ["joincontrol", "joinc"], code := ["mdOB"] },
  { names := ["logicalorderexception", "loe"], code := ["fkIEeUEedTCDAccxNBDACB"] },
  { names := ["lowercase", "lower"],
    code := ["dTZbWALAFAbLXCHCACACACACACACACACACACACACACACACACACACACACACACACACACACACBCACACACACACACA",
      "CBCACACACACACACACACACACACACACACACACACACACACACACADACACCDACADAEBFADAECDADACACADACBCADAEA",
      "CADBDCHADADACACACACACACACACBCACACACACACACACACBDACAEACACACACACACACACACACACACACACACACACA",
      "CACACACACACACACACACACACGDADBCAFACACACACcQDbIIBbFEdTAbSACAEADDTAbCbICBECCACACACACACACA",
      "CACACACACECADADBcAbVCACACACACACACACACACACACACACACACACAKACACACACACACACACACACACACACACACA",
      "CACACACACACACACACACACADACACACACACACBCACACACACACACACACACACACACACACACACACACACACACACACACA",
      "CACACACACACACACACACACACACACACACACACACACACACACAbXbOehCbQCDbdHFdfVICAeOhJcOACACACACACACA",
      "CACACACACACACACACACACACACACACACACACACACACACACACACACACACACACACACACACACACACACACACACACACA",
      "CACACACACACACACACACACACACACACACACACACACACACACACACICACACACACACACACACACACACACACACACACACA",
      "CACACACACACACACACACACACACACACACACACACACACACACACACACACACACACACIJFLHJHJFLHJHJNDHJHJHJECB",
      "HAECCBJDDBJHLCCBeSAOARMeGAEBEAbCAFAFADBJDFAbIPFAbgMZctRbVCAEBCACACAFACBCHEACACACACACA",
      "CACACACACACACACACACACACACACACACACACACACACACACACACACACACACACACACACACACACACACACACACACACA",
      "CBIACAFANbLCAGAbtwEACACACACACACACACACACACACACACACACACACACACACACAUACACACACACACACACACACA",
      "CACACCfEACACACACACACCCACACACACACACACACACACACACACACACACACACACACACACACACACACACACACACJCA",
      "CADACACACACAFACADACCCACACACACACACACACACAGAGACACACACACACACAFACADACACACACACACACAWDCACC",
      "bfQbQCNHdBbeaJGNEbpAZbvIbNfHbJgAKCOCGCBrKADCCbPCIbxMbYeWVegPbFbgjXbFcIYbmjFZbBGCRbBZ",
      "bBDCACGCKbBZbBZbBZbBZbBZbBZbBZbBZbBbBbDYCFbBYCFbBYCFbBYCFbBYCFCAcsZJCTHFkCcJdhTbH"] },
  { names := ["math"],
    code := ["bRARCbGAbEACAbUAFAbMAbGAbcBCDAbBBDCuICjwOAbCCMAEAOAPDWEMEcOMFAEBFETAFADJCADFHAEBDBCCCF",
      "ENCAcRXCFCBFBFbFCAHBPkHJDVBdNAbFbACAZAMGrEBNJFFFBDBEEPACADFMHGBcGACAbEDKCmZcLjXtRbXUDF",
      "dasRAbfSFCAgHARCbEACAbEACAfCAHDfeGBcvgBAbxWdGCcSCBDADBDDCLCACGCcMCDDHCGCbBCDCECAEGCnB",
      "DlFDbXiiRDCbACBCADACJCDCACAHAFACACACCCBCADACACACACACBCADDCGCDCDCACJCQGCCECQcBBdtFI"] },
  { names := ["noncharactercodepoint", "nchar"],
    code := ["dsdCbFuHBdsyPBdsyPBdsyPBdsyPBdsyPBdsyPBdsyPBdsyPBdsyPBdsyPBdsyPBdsyPBdsyPBdsyPBdsyPB",
      "dsyPB"] },
  { names := ["patternsyntax", "patsyn"],
    code := ["bHOLGbBDCAbBDbJGCACBCACBFAFAEAYAbGAluFXJODSCJlUbbRgFyFbFbrNtTeXoWCFYQAczrABkCB"] },
  { names := ["patternwhitespace", "patws"], code := ["JETAdXAlyNBZB"] },
  { names := ["quotationmark", "qmark"], code := ["bIAFAfCAQAlwVHbABfiEArQDOCdabQDhIAFAdNB"] },
  { names := ["radical"], code := ["rpWZCdKNiF"] },
  { names := ["regionalindicator", "ri"], code := ["hgoKZ"] },
  { names := ["sentenceterminal", "sterm"],
    code := ["bHANARAcaCAfSCgZAbSCjNAcKACAEBlIBcpXBbeLAFBbdUAhRBgCBbUAGAmDBnRDgHBLBDBbEChGBcOBbjXAYB",
      "KCeuYClVAOAXBqOAbshXAkLBiUAEAoTBdJBdSAfXBfSCfPBjQAbfcXADBcIAEBgOANARAcOAedXBbxEEbTDhIB",
      "eODeYCfABHARBdLBCBeFAlNBeOBoKBGOeCBjQCtYACAjSBdKBqFBbaRBcXBbcmCBfEAcOBMAvIBlLAbdoHA",
      "liNA"] },
  { names := ["softdotted", "sd"],
    code := ["eBBhPAkWAbFAcBAVAmJAdVACAjmOAcAAOAEAfDAgCAqGAiHBegHAgelIBbZBbZBbZBbZBbZBbZBbZBbZBbZB",
      "bZBbZBbZBdfZAlUBbBA"] },
  { names := ["terminalpunctuation", "term"],
    code := ["bHALACAMBEAbfZAJAtUAcGAcVAPACCgZAbSKCAjCBcDFCHbGAkCBbwVBgRAFFmABbeKHbdUAeVCcUBgCCEAbOD",
      "DBmDBnRDgHBLBCCbEChGEcLBbjXAYBKCeuYClVAOAFALACBEBqNBbshWBkKCiUEoTBdJBdSAfWCfSCeYARBjQA",
      "bfcXADBcGCCDgOALACAMBEAcOADAbpRAbXAbsPAhSAlZBfXFcRFdMDbkREbTDhIGeJDeYCfABHARBdLEeFAlNB",
      "eOCNBnVDEOeCBjQCtYACAjSBdKBFBpZCbUAyWBcXBbyYEbanABfEAcOCLAvIBlKBbdoHAliMD"] },
  { names := ["unifiedideograph", "uideo"],
    code := ["tsAjtNcNbfbJbicTBCACBLACACBDCdveDclfBbHgmNDioBDlbKQxXgrRhhYGmoN"] },
  { names := ["uppercase", "upper"],
    code := ["cNZdYWCGbIACACACACACACACACACACACACACACACACACACACACACACACACACACACADACACACACACACACADACA",
      "CACACACACACACACACACACACACACACACACACACACACACBCACAEBCACBCCDDCBCCEBCBCACACBCADACBCCCACBEA",
      "IADADADACACACACACACACADACACACACACACACACADADACCCACACACACACACACACACACACACACACACACACACACA",
      "CACACACACACACACACAIBCBDACDCACACACAlEACAEAJAHACCCACBCQCIbKADCEACACACACACACACACACACACAGA",
      "DACBDbYbXACACACACACACACACACACACACACACACACAKACACACACACACACACACACACACACACACACACACACACACA",
      "CACACACACACBCACACACACACADACACACACACACACACACACACACACACACACACACACACACACACACACACACACACACA",
      "CACACACACACACACACACACACACACACACACADbLehEbLCAGAbbVdHdgMAHbQDCmJACACACACACACACACACACACA",
      "CACACACACACACACACACACACACACACACACACACACACACACACACACACACACACACACACACACACACACACACACACACA",
      "CACACACACACACACACACACACACACACACACACACACAKACACACACACACACACACACACACACACACACACACACACACACA",
      "CACACACACACACACACACACACACACACACACACACACACACACACACACAKHJFLHJHJFMACACACAJHcVDNDNDNEMDkDA",
      "FAECDCDAEEHACACACDDDLBGAbBPUAbfNZcsVbVbXACCDACACACDCADAJCCACACACACACACACACACACACACACA",
      "CACACACACACACACACACACACACACACACACACACACACACACACACACACACACACACACACACACAJACAFAbtyKACACA",
      "CACACACACACACACACACACACACACACACACACACACAUACACACACACACACACACACACACACAfGACACACACACACAEA",
      "CACACACACACACACACACACACACACACACACACACACACACACACACACACACACACALACACBCACACACAFACADACAEACA",
      "CACACACACACACACACECECACACACACACACACDCACBCACACACACACACACAZAbhaIZbvAbNfHbJgBKCOCGCBcqDbY",
      "gCVegPbFbgjXbFcNYbmjGZbBZbBZbBACBDADBDDCHbBZbBBCDDHCGbCBCDCECAEGbCZbBZbBZbBZbBZbBZbFY",
      "bIYbIYbIYbIYbIAgnMbHdbJZHZHZ"] },
  { names := ["variationselector", "vs"], code := ["jcTCCAdjcBPbwnkZjF"] },
  { names := ["space", "whitespace", "wspace"], code := ["JETAdXAbBAihKAdpOKbEBGAbWAfxXA"] },
  { names := ["xidcontinue", "xidc"],
    code := ["bWJIZFACZbWALACADAGWCbECrPFLPEIACASeMCBECCAHECACTCdECfICEDgJCbLDAHbOJbSCACBCBCAJbAFD",
      "bEKGcVFdXCHDJCSDARcGDdWPcBFADADbTTbBFKGXCGIcWCeYDJCSCHDBDVCGCAEDDIDBDDJAFBCEDLLACADCCF",
      "FBDVCGCBCBCBDACEFBDCEAIDCAIPMCCICCCVCGCBCEDJCCCCDAQDDJKGCCCHDBDVCGCBCEDIDBDCICFBCEDJCA",
      "RBCFECCDEBCACBEBECELFEECCDDAHAPJRMCCCWCPDICCCDIBCCCBDDDJRDCHCCCWCJCEDICCCDIBGCCDDJCCNM",
      "CCCbYCCCEGDIEDJLFCCCREXCICADGEAFFCACHHJDBOcFGOCJbOBCACECXCACWDECACGCJDDbHAYBHJMACACAFJ",
      "CbJFTCRCbJKAcGcVHcZDbLCAGADbQCmUCDDGCACDDbOCDDbGCDDGCACDDOCcECDDcODCKIPPRdHDFExVDQCZ",
      "GcWEKIVKVMTNMCCCBNdFEAFBDJbICCKHdKIbQGcRLbECLFLLbNDEMbRFZHKbMbBFcKCbCDKHJOAJNCbEDLVcY",
      "EJSINeLNcDJJEbWDKGbQDCRCCbMGuNDFDbLDFDHCACACACbEDcACGCAECCGEDDFFMGCCGQBbYBUAbDAOARMcAM",
      "FAELSAFADJCADFHACACACPDDGEFASbOdzCiUHINbLCAGADcDIAQXKGCGCGCGCGCGCGCGCbFtYCbAOCEDEFdHDB",
      "DCCdQGbQCdPSbFbXPtTjtNcNbguEcQbTDkIEbBVbVFJCeKbMIDdYDdDVcCFAUbZNcRLJHXEACbWDbJNbCEcMPK",
      "HbECcCKNDJHWEcUZCDPDELFDFDFKGCGCbQCNHeSCBDJHqnRNWFbWmnDoBDeBbNGNEGLCMCECACBCBCeDbIfI",
      "HiJTcLDcBbPJHPRPEBZCbIACAEACACACACeVUJIZFACZLdLEFDFDFDCbKLCZCSCBCODNbJeScScAfHAfBbCEbW",
      "QAbGbFObDGbQGbDDbJFHCEbRgBDJHbJFbJFbNJbZNKCOCGCBCKCOCGCBEbZNlYKVLHZFCbPCIcSFDACbRCBEA",
      "DWLWKbEcOSCBLVLZHZbNcDHBcNDCBGHCCCbCDCFAbHbCEbCbKHCbDbAcBLVLSOReHcUcEbYObYObNJJHbLEECW",
      "jRbPCBEBRFbZbILAJbGbGVbRUbCWKcSbGPKcHIAOYIJHcACJFDJbJDAKcQFDCMCAbKRCbKHDcLGCACDCOCJIcG",
      "GJHDCHDBDVCGCBCECJDBDCDAHAGGDGEEMJCADACbLCJCADACDCHOBbEcWGJFDbFcRCAJJgLcBDIYFbJcMEAMJ",
      "bNcEIJHTbDbADOFJHGhEcGdYcVWHDADHCBCbDCBDINJcTHDbTDHCBbCcKJAJcVEATcUeAHdLbGQJHICbSCIQJ",
      "ZbDDVCNcWGCBCbREACBCIJJHFCBCbKCBCFIJHbRFJjNWKQCbOEEOKdIAdCbjLdZeGShNdxLdSQbpFRVLfxQGwK",
      "kdEcFcoTvWIbECJHdACJHbDDEMcCKDNJKUGSqRbSEJhRcLbHYDYbTcWFcEIQcNBCBMGKkxXbQbFdUeKmwSDCG",
      "CBClEQAbECDAPDJpFdkVeCGMEIIJEBgeSJtZbTDWuXEEFJHDGbFDfTCrCdGCcSCBDADBDDCLCACGCcMCDDHCG",
      "CbBCDCECAEGCnBDYCYCbECYCbECYCbECYCbECYCHDbXtTcCFbXJAPAXECObqNbEHFiGGCQDGCBCEGcJbIAeJbS",
      "ENDJFAmKbEScFsDbPiHbQhQbECVJBiRGCDCBCOChOMGbQcXFJbtVDCbACBCADACJCDCACAHAFACACACCCBCADA",
      "CACACACACBCADDCGCDCDCACJCQGCCECQfaBJbnRclfBbHgmNDioBDlbKQxXdqXuVcfZhhYGmoNbogxZjF"] },
  { names := ["xidstart", "xids"],
    code := ["cNZHZbWALAFAGWCbECrPFLPEIACAfAECBECCAHACCCACTCdECfIJgJCbLDAHbOcUbAFDbUbQbKBCdUCAQBIBLC",
      "DARACbDbEdKMAZbGKBFAGVFAKAEAYYIKGXCGRbPcHcBEATAIJQPFHDBDVCGCAEDEARAOBCCPBLAJFFBDVCGCB",
      "CBCBbGDCAUCRICCCVCGCBCEEATAQBYAMHDBDVCGCBCEEAbFBCCQASACFECCDEBCACBEBECELXAcBHCCCWCPEA",
      "bBCCBDBbFAFHCCCWCJCEEAbFCCBQBSICCCbODARAGCJCZFGREXCICADGcHbVCAOGcHBCACECXCACJCALADECA",
      "WDbHAcMHCbJbCEeMbQVARFFDEAEBICFMNASbLCAGADbQCmUCDDGCACDDbOCDDbGCDDGCACDDOCcECDDcObMP",
      "RdHDFExVDQCZGcWEKIROSPRPMCCQbZbKAFAcQdKIbOCAGcRLbEbYbDDEMbRFZcDWKcAdFAdQbUSHcDbDOBLbR",
      "bBbJbQCLbJDKGbQDCbQDCFCBEAGhJcNkRDFDbLDFDHCACACACbEDcACGCAECCGEDDFFMGCCGeNAOARMdYAFADJ",
      "CADFHACACACPDDGEFASbOdzCiUHDEBNbLCAGADcDIARWKGCGCGCGCGCGCGCGvFCbAIIEDEFdHHCCdLCDGbQCdP",
      "SbFbXPtTjtNcNbguEcQbTDkIEPLBVbURbEDdBbOIDdYDdDVQCCCDCWbEbZPbXcLFEACBMbBLWbAbCIbUbDARE",
      "CJLECbOYCCHVWEAEbXCAEBDEDACAZCDKICNFDFDFKGCGCbQCNHeKbEqnRNWFbWmnDoBDeBbNGNEGACJCMCECA",
      "CBCBCeDbIfIHiJTcLDcBbPJeQACAEACACACACeVbLZHZMcDDbEEFDFDFDCbKLCZCSCBCODNbJeScScAkIbCEbW",
      "bWbFObDGbLLbDDbJFHCEbRgBTbJFbJFbNJbZNKCOCGCBCKCOCGCBEbZNlYKVLHZFCbPCIcSFDACbRCBEADWLW",
      "KbEcOSCBLVLZHZbNcDHBcNAQDCCCbCbRbCEbCbKHCbBbCcBLVLSOReHcUcEbYObYObJbNbBKWjRbPHBRFcFbC",
      "LAJVbRRbVUbCWNcAcGBDAObSbHYbBbJbEADAJbIEANbVPDWACAbKRCYUBcMGCACDCOCJIbUbNHDBDVCGCBCEEA",
      "TANEbFJCADACbLCAbAACAbTcATDVCbFbVVBCAhDbUbQDbLbVVAcIbQOAcUbAbMGhEbReNcLbGHDADHCBCXQACA",
      "dRHDbMRACAbDALbNIAWAMbTUATcUhSbGbGICbKSAbYbDeJGCBCbLWAbAFCBCbFPAYbRkBSQACMCbHeVAdCbjL",
      "dZeGShNdxLdSQbpFSFbAfxQGwKkdEbDcpVvWIbESdASbDTbVRDbGUGSqRbSiEcLbHYDYbTcWGAcPMcNBCAPE",
      "KkxXbQbFdUeKmwSDCGCBClEQAbECDAPDJpFdkVeCGMEIIJiwLdGCcSCBDADBDDCLCACGCcMCDDHCGCbBCDCECA",
      "EGCnBDYCYCbECYCbECYCbECYCbECYCHcsZbEHFkCcJfRbSLGRAmKbDTbRsRbBiVbDDAiAbECCCBCGDEKBiRGCD",
      "CBCOChOcIcPIAbuJDCbACBCADACJCDCACAHAFACACACCCBCADACACACACACBCADDCGCDCDCACJCQGCCECQ",
      "goBclfBbHgmNDioBDlbKQxXdqXuVcfZhhYGmoN"] }]

end FeatureFlags.Pattern.Property
