import FeatureFlags.Pattern.Property.Coded

/-!
# Script extensions

The characters used in a script, where they are not just the characters of the script.
-/

namespace FeatureFlags.Pattern.Property

/-- The scripts that share characters with others. -/
def scriptExtensions : List Coded := [
  { names := ["adlm", "adlam"], code := ["ciHAbHAjwPAfhIAglrJcXFJFB"] },
  { names := ["aghb", "caucasianalbanian"], code := ["bdSAbTAbTAdtqObZMA"] },
  { names := ["arab", "arabic"],
    code := ["chCECiGCbHdDbVjHbHGcWCbCivOAfhIAczrByPbHPeJECfEbmIbBeiFbEcQFJIbIFdglTDCbACBCADACJCDCA",
      "CAHAFACACACCCBCADACACACACACBCADDCGCDCDCACJCQGCCECQcBB"] },
  { names := ["armn", "armenian"], code := ["bdWAvHbLDbXDCdozKE"] },
  { names := ["avst", "avestan"], code := ["hBArfTBdfqDcBEG"] },
  { names := ["beng", "bengali"],
    code := ["baYAcmVBSBbBDCHDBDVCGCAEDDIDBDDJAFBCEDYhdIACADBCAJAJADAFADCcbaGA"] },
  { names := ["bopo", "bopomofo"], code := ["bbJACCOARBrbYCFJCMLDDAHAhOAKbQeJbFczlUBkXE"] },
  { names := ["bugi", "buginese"], code := ["jwAbBDBcckUA"] },
  { names := ["buhd", "buhid"], code := ["iuNBKT"] },
  { names := ["cakm", "chakma"], code := ["dtMJckFJdtfRcACR"] },
  { names := ["cari", "carian"], code := ["hBAlzNADAfgEAdclRbW"] },
  { names := ["cher", "cherokee"], code := ["bdOCCAHBXBMBgfVdHDFcfjFdB"] },
  { names := ["copt", "coptic", "qaac"], code := ["hBAwNAEBCAeFBeFNpjLeLGGkUAdcpDbB"] },
  { names := ["cpmn", "cyprominoan"], code := ["dtiMBrqLdU"] },
  { names := ["cprt", "cypriot"], code := ["dtiMCFbSEIcoNFDACbRCBEADA"] },
  { names := ["cyrl", "cyrillic"],
    code := ["baYAcQCCACACADAGAjFlRivPKgFAcZAeYAgaQbFcQAbtlLdRbheDBdhpHcJbIA"] },
  { names := ["deva", "devanagari"], code := ["baYAcjSdEDbQhiFbMCBbnBAbzfSJgLbFbreNJ"] },
  { names := ["dogr", "dogra"], code := ["doMLcidDJbqiPcH"] },
  { names := ["dupl", "duployan"], code := ["hBAwUBCAZBqiIAfuqMeCGMEIIJDH"] },
  { names := ["elba", "elbasan"], code := ["hBAwSAdtsDbN"] },
  { names := ["ethi", "ethiopic"],
    code := ["beCAfrEcUCDDGCACDDbOCDDbGCDDGCACDDOCcECDDcODbFEZjvBWKGCGCGCGCGCGCGCGbvkDFDFDFKGCGepyGG",
      "CDCBCO"] },
  { names := ["gara", "garay"], code := ["chOAPAEAdvqVbLEbCJB"] },
  { names := ["geor", "georgian"], code := ["hBAbvMAefFbLCAGADbVejXbQDCbjNAeuObLCAGAkAA"] },
  { names := ["glag", "glagolitic"],
    code := ["hBAwQACAoTADAjYAeiSAfvJAekSdRsQAbtnGAeotLGCQDGCBCE"] },
  { names := ["gong", "gunjalagondi"], code := ["hBAdhLBeanJFCBCbKCBCFIJ"] },
  { names := ["gonm", "masaramgondi"], code := ["doMBeajRGCBCbREACBCIJJ"] },
  { names := ["goth", "gothic"], code := ["hBAwRBDAbPAdsyPbA"] },
  { names := ["gran", "grantha"],
    code := ["dnTBSByRNgkBACBbFCEBbnBAdnrKDCHDBDVCGCBCECJDBDCDAHAGGDGEEerSBCA"] },
  { names := ["grek", "greek"],
    code := ["hBAwNBDACACALAbVADAbRHDDCAFACACCCACTCcKPPjnREbZEFEdHCmHVDFDbLDFDHCACACACbEDcACOCNDFCS",
      "DCCIdRAhTAcajFAbgnJdASAdaxScR"] },
  { names := ["gujr", "gujarati"], code := ["dnTBSBkYCCICCCVCGCBCEDJCCCCDAQDDLIGchnTJ"] },
  { names := ["gukh", "gurungkhema"], code := ["doNAfadFcF"] },
  { names := ["guru", "gurmukhi"], code := ["dnTBSBgACCFFBDVCGCBCBCBDACEFBDCEAIDCAIQchtAJ"] },
  { names := ["hang", "hangul"],
    code := ["glKjVljMCFJCMPCHAhOAcCdPeKbEcObEbtaObCyUqnRNWFbWonABkXEcHbEEFDFDFDC"] },
  { names := ["hani", "han"],
    code := ["hBAriVZCdKNiFbBPCCCMCMCMDAHIhGAfTPbHbLKAbXbNcFbWQLcAAdLYLEdTbECjtNcNbfbJcqZHbfbDoBDeB",
      "bhSBkXEbqpPBNGblqWRlrZBfeTclfBbHgmNDioBDlbKQxXdqXuVcfZhhYGmoN"] },
  { names := ["hano", "hanunoo"], code := ["itSW"] },
  { names := ["hebr", "hebrew"], code := ["bdVByZcCJbAFFdovXZCECACBCBCJ"] },
  { names := ["hira", "hiragana"], code := ["seRCFJCMRFCAFBEdHDHdNBcztHBkXELAbUBcouSlATAbECymWA"] },
  { names := ["hung", "oldhungarian"], code := ["mgOADAfgEAQAdgeHbYObYIF"] },
  { names := ["java", "javanese"], code := ["cmeYcZCKFB"] },
  { names := ["kali", "kayahli"], code := ["cmaAbV"] },
  { names := ["kana", "katakana"],
    code := ["bdTAbEAqzUCFJCMRFCAFBdODEdRjHPiBbUCdJcywCBkXcKcouBDCGCBCAlCCbZAPD"] },
  { names := ["khoj", "khojki"], code := ["edIJchoJJbobNRCbU"] },
  { names := ["knda", "kannada"], code := ["dnTBSBbePMCCCWCJCEDICCCDIBGCCDDJCCgaFACBHAYACAcasYF"] },
  { names := ["kthi", "kaithi"], code := ["doOJnxYAbufFJbnmTcOLA"] },
  { names := ["latn", "latin"],
    code := ["cNZHZbWANADAGWCbECrGEALACCCAKACAHEbCOCBCAQCIBCBbNAGAFMkSBbvFBcxLAeoJbLHbWGDGMCcRcGAIjV",
      "lSAcOAOARMdGAcGBHAbCASbOecUbFpSAbtuNHbBdXEdDVOlRAtUbQCICDbedRGboLZHZdcGFCbPCIddnQbEHF"] },
  { names := ["limb", "limbu"], code := ["doNAfxRbECLFLFAEL"] },
  { names := ["lina", "lineara"], code := ["dtiTbSbvHlYKVLH"] },
  { names := ["linb", "linearb"], code := ["dsyQLCZCSCBCODNbJeSGCFbSEI"] },
  { names := ["lisu"], code := ["baYARArdLBbsfTbVbumBA"] },
  { names := ["lyci", "lycian"], code := ["mgOAdhqSbC"] },
  { names := ["lydi", "lydian"], code := ["hBArfUAdexRZGA"] },
  { names := ["mahj", "mahajani"], code := ["hBAdhLLcidDJbnuTbM"] },
  { names := ["mand", "mandaic"], code := ["cjOAtSbBDA"] },
  { names := ["mani", "manichaean"], code := ["cjOAduqYbMFL"] },
  { names := ["mero", "meroitichieroglyphs"], code := ["mgRAdkhNbF"] },
  { names := ["mlym", "malayalam"], code := ["dnTBSBbjNMCCCbYCCCFFPDZfvFAYAcatAC"] },
  { names := ["modi"], code := ["clsAJbpoXcQMJ"] },
  { names := ["mong", "mongolian"], code := ["jcIZHdKIbQcwBAfzUBGDdjfXM"] },
  { names := ["mult", "multani"], code := ["dyKJdwaBGCACDCOCK"] },
  { names := ["mymr", "myanmar"], code := ["gbOgDcfuDAgWbEdUbFbpaNT"] },
  { names := ["nand", "nandinagari"], code := ["dnTATBbiNJgbIAJAIAcasSFbqyTHDbTDK"] },
  { names := ["newa"], code := ["dnTBhkDACBKAHACACAdpoTdNCE"] },
  { names := ["nkoo", "nko"], code := ["chOAPAEAqBcGDCdowTB"] },
  { names := ["onao", "olonal"], code := ["doMBgykXbQFA"] },
  { names := ["orkh", "oldturkic"], code := ["mgOAfgGAdgaAcU"] },
  { names := ["orya", "oriya"], code := ["dnTBSBpWCCHDBDVCGCBCEDIDBDCICFBCEDRgpFAYA"] },
  { names := ["osge", "osage"], code := ["bdPADAHAcZAdtlWbJFbJ"] },
  { names := ["ougr", "olduyghur"], code := ["cjOAdusWAbsGZ"] },
  { names := ["perm", "oldpermic"], code := ["hBAwNAGCLAoEAdsmVbQ"] },
  { names := ["phag", "phagspa"], code := ["jcKBCAdcKAfzVAbtnYcD"] },
  { names := ["phlp", "psalterpahlavi"], code := ["cjOAduyIRIDNG"] },
  { names := ["rohg", "hanifirohingya"], code := ["chOAPAEAbHAfSAdvhKbNJJ"] },
  { names := ["runr", "runic"], code := ["ioUdK"] },
  { names := ["samr", "samaritan"], code := ["daUbTDOojRA"] },
  { names := ["shaw", "shavian"], code := ["hBAduiBbV"] },
  { names := ["shrd", "sharada"], code := ["dnTAhkGACADBDAKADAcatFFDAbnwQdRdpPH"] },
  { names := ["sind", "khudawadi"], code := ["doMBcidNJboiHcGGJ"] },
  { names := ["sinh", "sinhala"], code := ["doMBboMCCREXCICADGEAFFCACHHJDCfrQAdotRT"] },
  { names := ["sogd", "sogdian"], code := ["cjOAdwiQbP"] },
  { names := ["sunu", "sunuwar"], code := ["bdOBCAKADAbDAEAecgLbHPJ"] },
  { names := ["sylo", "sylotinagri"], code := ["doMBeZJchwJbS"] },
  { names := ["syrc", "syriac"], code := ["bdRBDBCAZCIBCBbcDAPBDAbHALKbBAfONCcHDCkNKieGACA"] },
  { names := ["tagb", "tagbanwa"], code := ["iuNBbQMCCCB"] },
  { names := ["takr", "takri"], code := ["doMBcidNJbptVcFHJ"] },
  { names := ["tale", "taile"], code := ["bdOBGBEAfaAJdkXbDDE"] },
  { names := ["taml", "tamil"],
    code := ["dnTBSBuVBCFECCDEBCACBEBECELFEECCDDAHAPUgkEAcbbLAboeGACAcEBetGbXOA"] },
  { names := ["tang", "tangut"], code := ["seAPtCAeqkNAbGkfVtTbEdUeK"] },
  { names := ["telu", "telugu"], code := ["dnTBSBzRMCCCWCPDICCCDIBCCCBDDDJIIgeWBCACAYA"] },
  { names := ["tfng", "tifinagh"], code := ["bdQACACDbAApyBcDIBPA"] },
  { names := ["tglg", "tagalog"], code := ["isMVKAWB"] },
  { names := ["thaa", "thaana"], code := ["chOAPBDAcNJkTbXdpgRALA"] },
  { names := ["thai"], code := ["baYAbBAbSAbUAecMcFGbB"] },
  { names := ["tibt", "tibetan"], code := ["frScTCbJFbMCbJCOCGFBmeWD"] },
  { names := ["tirh", "tirhuta"], code := ["dnTBSBhjKANAQAcatAJbpaDcTJJ"] },
  { names := ["todr", "todhri"], code := ["bdPADADAKACAcXAdtwCbZ"] },
  { names := ["toto"], code := ["baYAgzsMbE"] },
  { names := ["tutg", "tulutigalari"], code := ["exAJgbRACAcasYFhGAbojFJCADACbLCJCADACDCJCBJB"] },
  { names := ["yezi", "yezidi"], code := ["chOAPAEAcNJdwaHbPCCDB"] },
  { names := ["yiii", "yi"], code := ["seRBGJDHiQAbqbDbsUEcCbiiDE"] },
  { names := ["zinh", "inherited", "qaai"],
    code := ["beDADACOEGDADPCBCRCECDcgNBgoYbTDLbbZcBCACEuFBhNbFdfsRPRNblOAczqPbTDWuZCSHDGbFDbtlhJjF"] },
  { names := ["zyyy", "common"],
    code := ["AcMbBFbBbUCLCBCEYAbGArICCJCAEACICACFGEDTeXAHACAyOAiIAtXAcaVApQDgdCLDbGCbECJCBCGCKEKCO",
      "SbHcLbLCCDFCbACQbQCFzPXKWbjRjXyDDfHtTWCXDJCDCACZqDAEAOAOAWAuKXbGAbYONDgGJGdRbGAjtPcL",
      "bhsRZdZCblPAPBbfhTJXUDLCSCDfSACbFbBFbBFeYGCGLEpNMcAbScynCjSEqTHWQQdSeLcJjLLbMDcJEQJB",
      "IbDFcIiGTNTNdIbCGfGdGCcSCBDADBDDCLCACGCcMCDDHCGCbBCDCECAEGCnBDlFDbXhtIcPcZcIbbFbRFdVNO",
      "DOCOCbKLgRcFZCBObRFIYFfZblWEQEMEiJHLFAQLFcDJJHbNJbDDLFBPIbOnFJNDMEKEcECAFPDLFJIfQCdY",
      "bsuxBAbFdR"] }]

end FeatureFlags.Pattern.Property
