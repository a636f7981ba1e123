import FeatureFlags.Pattern.Property.Coded

/-!
# Scripts

The characters of each script, for characters of one script only.
-/

namespace FeatureFlags.Pattern.Property

/-- The scripts. -/
def scripts : List Coded := [
  { names := ["adlm", "adlam"], code := ["hdeUcXFJFB"] },
  { names := ["aghb", "caucasianalbanian"], code := ["duxSbZMA"] },
  { names := ["ahom"], code := ["ebrCbADOFW"] },
  { names := ["arab", "arabic"],
    code := ["chCECFCNCCCbFCJMZCeDCbHdDbVjHbHGcWCbCdntXsZDfNbHPeJECfEfvObEcQFJIbIFdglTDCbACBCADACJCD",
      "CACAHAFACACACCCBCADACACACACACBCADDCGCDCDCACJCQGCCECQcBB"] },
  { names := ["armi", "imperialaramaic"], code := ["dwbWVCI"] },
  { names := ["armn", "armenian"], code := ["bzDbLDbXDCdozKE"] },
  { names := ["avst", "avestan"], code := ["dxcYcBEG"] },
  { names := ["bali", "balinese"], code := ["kfWcYCbX"] },
  { names := ["bamu", "bamum"], code := ["clcQdJcvcRvW"] },
  { names := ["bass", "bassavah"], code := ["fhkIbDDF"] },
  { names := ["batk", "batak"], code := ["knGbZJD"] },
  { names := ["beng", "bengali"], code := ["dpODCHDBDVCGCAEDDIDBDDJAFBCEDY"] },
  { names := ["bhks", "bhaiksuki"], code := ["edoIICbSCNLbC"] },
  { names := ["bopo", "bopomofo"], code := ["bcSBrlYbQeJbF"] },
  { names := ["brah", "brahmi"], code := ["dzaEcZFbJKA"] },
  { names := ["brai", "braille"], code := ["pdWjV"] },
  { names := ["bugi", "buginese"], code := ["jwAbBDB"] },
  { names := ["buhd", "buhid"], code := ["iuYT"] },
  { names := ["cakm", "chakma"], code := ["dzkAcACR"] },
  { names := ["cans", "canadianaboriginal"], code := ["hoYyPvPcRdtpRP"] },
  { names := ["cari", "carian"], code := ["dtyMbW"] },
  { names := ["cham"], code := ["cmjWcCKNDJDD"] },
  { names := ["cher", "cherokee"], code := ["hlGdHDFcfjFdB"] },
  { names := ["chrs", "chorasmian"], code := ["dyxCbB"] },
  { names := ["copt", "coptic", "qaac"], code := ["bmGNpjLeLGG"] },
  { names := ["cpmn", "cyprominoan"], code := ["ekyYdU"] },
  { names := ["cprt", "cypriot"], code := ["dvzKFDACbRCBEADA"] },
  { names := ["cyrl", "cyrillic"], code := ["bnKfCDgMivPKgFAcZAgfObFbtoBdRbheDBdhpHcJbIA"] },
  { names := ["deva", "devanagari"], code := ["dkQdCFODZcijHbFbreNJ"] },
  { names := ["diak", "divesakuru"], code := ["eckUGDADHCBCbDCBDLKJ"] },
  { names := ["dogr", "dogra"], code := ["ecaYcH"] },
  { names := ["dsrt", "deseret"], code := ["dumAdB"] },
  { names := ["dupl", "duployan"], code := ["gmdSeCGMEIIJDD"] },
  { names := ["egyp", "egyptianhieroglyphs"], code := ["eldGbqRLfxQ"] },
  { names := ["elba", "elbasan"], code := ["duvWbN"] },
  { names := ["elym", "elymaic"], code := ["dyyYW"] },
  { names := ["ethi", "ethiopic"],
    code := ["gvGcUCDDGCACDDbOCDDbGCDDGCACDDOCcECDDcODbFEZjvBWKGCGCGCGCGCGCGCGbvkDFDFDFKGCGepyGGCDCB",
      "CO"] },
  { names := ["gara", "garay"], code := ["dxzCbLEbCJB"] },
  { names := ["geor", "georgian"], code := ["ghSbLCAGADbQCDejXbQDCgeBbLCAGA"] },
  { names := ["glag", "glagolitic"], code := ["qrGdRgizHGCQDGCBCE"] },
  { names := ["gong", "gunjalagondi"], code := ["eebWFCBCbKCBCFIJ"] },
  { names := ["gonm", "masaramgondi"], code := ["edyEGCBCbREACBCIJJ"] },
  { names := ["goth", "gothic"], code := ["dueAbA"] },
  { names := ["gran", "grantha"], code := ["eadSDCHDBDVCGCBCEDIDBDCDAHAGGDGEE"] },
  { names := ["grek", "greek"],
    code := ["bhWDCCDDCAFACACCCACTCcKPPjnREbZEFEdHAmJVDFDbLDFDHCACACACbEDcACOCNDFCSDCCIlKAcajFA",
      "bgnJdASAdaxScR"] },
  { names := ["gujr", "gujarati"], code := ["dzLCCICCCVCGCBCEDJCCCCDAQDDLIG"] },
  { names := ["gukh", "gurungkhema"], code := ["fdrScF"] },
  { names := ["guru", "gurmukhi"], code := ["duNCCFFBDVCGCBCBCBDACEFBDCEAIDCAIQ"] },
  { names := ["hang", "hangul"], code := ["glKjVllFBjYdPeKbEcObEbtaObCyUqnRNWFbWpaJbEEFDFDFDC"] },
  { names := ["hani", "han"],
    code := ["rpWZCdKNiFbWACAbAIPDblDjtNcNbfbJbhsJoBDeBbsiJBNGccoGclfBbHgmNDioBDlbKQxXdqXuVcfZhhY",
      "GmoN"] },
  { names := ["hano", "hanunoo"], code := ["itSU"] },
  { names := ["hatr", "hatran"], code := ["dwiASCBGE"] },
  { names := ["hebr", "hebrew"], code := ["ccVcCJbAFFdovXZCECACBCBCJ"] },
  { names := ["hira", "hiragana"], code := ["shDdHHCfpeWlATAbECymWA"] },
  { names := ["hluw", "anatolianhieroglyphs"], code := ["essEwK"] },
  { names := ["hmng", "pahawhhmong"], code := ["fhmEcRLJCGCUGS"] },
  { names := ["hmnp", "nyiakengpuachuehmong"], code := ["haeAbSENDJFB"] },
  { names := ["hung", "oldhungarian"], code := ["dxrSbYObYIF"] },
  { names := ["ital", "olditalic"], code := ["ducEbJKC"] },
  { names := ["java", "javanese"], code := ["cmeYcZDJFB"] },
  { names := ["kali", "kayahli"], code := ["cmaAbTCA"] },
  { names := ["kana", "katakana"], code := ["skVdLDCjHPiBbUCdJczhFJCbScouDDCGCBCAlCCbZAPD"] },
  { names := ["kawi"], code := ["eerWQCbOEbC"] },
  { names := ["khar", "kharoshthi"], code := ["dwtCDCBGHCCCbCDCFJII"] },
  { names := ["khmr", "khmer"], code := ["ixKdPDJHJsTbF"] },
  { names := ["khoj", "khojki"], code := ["dztWRCbU"] },
  { names := ["kits", "khitansmallscript"], code := ["fjiIAkgYsBbQA"] },
  { names := ["knda", "kannada"], code := ["etCMCCCWCJCEDICCCDIBGCCDDJCC"] },
  { names := ["krai", "kiratrai"], code := ["fiiIcF"] },
  { names := ["kthi", "kaithi"], code := ["dzfCcOLA"] },
  { names := ["lana", "taitham"], code := ["jxGcKCbCDKHJHN"] },
  { names := ["laoo", "lao"], code := ["fmVBCACECXCACWDECACGCJDD"] },
  { names := ["latn", "latin"],
    code := ["cNZHZbWAQAGWCbECrGbOEjxCbLHbWGDGMCcRcOjVoGAOARMfMBHAbCASbOecUbFbulNdXEdDVObfLbQCICD",
      "bedRGboLZHZdcGFCbPCIddnQbEHF"] },
  { names := ["lepc", "lepcha"], code := ["kpScDEOEC"] },
  { names := ["limb", "limbu"], code := ["jmEbECLFLFAEL"] },
  { names := ["lina", "lineara"], code := ["dvfSlYKVLH"] },
  { names := ["linb", "linearb"], code := ["dsyQLCZCSCBCODNbJeS"] },
  { names := ["lisu"], code := ["ckkUbVbumBA"] },
  { names := ["lyci", "lycian"], code := ["dtxGbC"] },
  { names := ["lydi", "lydian"], code := ["dwkMZGA"] },
  { names := ["mahj", "mahajani"], code := ["dznCbM"] },
  { names := ["maka", "makasar"], code := ["eeqQY"] },
  { names := ["mand", "mandaic"], code := ["ddGbBDA"] },
  { names := ["mani", "manichaean"], code := ["dxaMbMFL"] },
  { names := ["marc", "marchen"], code := ["edsQbFDVCN"] },
  { names := ["medf", "medefaidrin"], code := ["fisEdM"] },
  { names := ["mend", "mendekikakui"], code := ["hcuYhODP"] },
  { names := ["merc", "meroiticcursive"], code := ["dwpKXFTDbT"] },
  { names := ["mero", "meroitichieroglyphs"], code := ["dwoEbF"] },
  { names := ["mlym", "malayalam"], code := ["eyAMCCCbYCCCFFPDZ"] },
  { names := ["modi"], code := ["ebhGcQMJ"] },
  { names := ["mong", "mongolian"], code := ["jcIBDACTHdKIbQdscCM"] },
  { names := ["mroo", "mro"], code := ["fheUbECJFB"] },
  { names := ["mtei", "meeteimayek"], code := ["cmsMWhUbTDJ"] },
  { names := ["mult", "multani"], code := ["dzyUGCACDCOCK"] },
  { names := ["mymr", "myanmar"], code := ["gbOgDcgaZbEdUbFbpaNT"] },
  { names := ["nagm", "nagmundari"], code := ["hbpObP"] },
  { names := ["nand", "nandinagari"], code := ["ecqYHDbTDK"] },
  { names := ["narb", "oldnortharabian"], code := ["dwyAbF"] },
  { names := ["nbat", "nabataean"], code := ["dweIbEJI"] },
  { names := ["newa"], code := ["eanOdNCE"] },
  { names := ["nkoo", "nko"], code := ["cyIcGDC"] },
  { names := ["nshu", "nushu"], code := ["fjiFAyvNpF"] },
  { names := ["ogam", "ogham"], code := ["inObC"] },
  { names := ["olck", "olchiki"], code := ["ksUbV"] },
  { names := ["onao", "olonal"], code := ["hbzKbQFA"] },
  { names := ["orkh", "oldturkic"], code := ["dxmUcU"] },
  { names := ["orya", "oriya"], code := ["eeJCCHDBDVCGCBCEDIDBDCICFBCEDR"] },
  { names := ["osge", "osage"], code := ["dusUbJFbJ"] },
  { names := ["osma", "osmanya"], code := ["duqYbDDJ"] },
  { names := ["ougr", "olduyghur"], code := ["dyuQZ"] },
  { names := ["palm", "palmyrene"], code := ["dwdCbF"] },
  { names := ["pauc", "paucinhau"], code := ["edcAcE"] },
  { names := ["perm", "oldpermic"], code := ["dufGbQ"] },
  { names := ["phag", "phagspa"], code := ["clsQcD"] },
  { names := ["phli", "inscriptionalpahlavi"], code := ["dxgQSGH"] },
  { names := ["phlp", "psalterpahlavi"], code := ["dxhWRIDNG"] },
  { names := ["phnx", "phoenician"], code := ["dwjGbBEA"] },
  { names := ["plrd", "miao"], code := ["fizOcWFcEIQ"] },
  { names := ["prti", "inscriptionalparthian"], code := ["dxfKVDH"] },
  { names := ["rjng", "rejang"], code := ["cmbWbJMA"] },
  { names := ["rohg", "hanifirohingya"], code := ["dxwQbNJJ"] },
  { names := ["runr", "runic"], code := ["ioUcWEK"] },
  { names := ["samr", "samaritan"], code := ["daUbTDO"] },
  { names := ["sarb", "oldsoutharabian"], code := ["dwwUbF"] },
  { names := ["saur", "saurashtra"], code := ["clvCcRJL"] },
  { names := ["sgnw", "signwriting"], code := ["gwtKzBQECO"] },
  { names := ["shaw", "shavian"], code := ["dupCbV"] },
  { names := ["shrd", "sharada"], code := ["dzoYdRdpPH"] },
  { names := ["sidd", "siddham"], code := ["ebcIcBDbL"] },
  { names := ["sind", "khudawadi"], code := ["eaaQcGGJ"] },
  { names := ["sinh", "sinhala"], code := ["fcZCCREXCICADGEAFFCACHHJDCdulHT"] },
  { names := ["sogd", "sogdian"], code := ["dysEbP"] },
  { names := ["sogo", "oldsogdian"], code := ["dyqIbN"] },
  { names := ["sora", "sorasompeng"], code := ["dziEYIJ"] },
  { names := ["soyo", "soyombo"], code := ["ecxSdE"] },
  { names := ["sund", "sundanese"], code := ["kkUcLjXH"] },
  { names := ["sunu", "sunuwar"], code := ["edlWbHPJ"] },
  { names := ["sylo", "sylotinagri"], code := ["clqEbS"] },
  { names := ["syrc", "syriac"], code := ["cqYNCcHDCkNK"] },
  { names := ["tagb", "tagbanwa"], code := ["iwEMCCCB"] },
  { names := ["takr", "takri"], code := ["ebmEcFHJ"] },
  { names := ["tale", "taile"], code := ["jpGbDDE"] },
  { names := ["talu", "newtailue"], code := ["jrCbRFZHKEB"] },
  { names := ["taml", "tamil"], code := ["ejIBCFECCDEBCACBEBECELFEECCDDAHAPUealIbXOA"] },
  { names := ["tang", "tangut"], code := ["fjiEAbGkfVtTbEdUeK"] },
  { names := ["tavt", "taiviet"], code := ["cmoUcOZE"] },
  { names := ["telu", "telugu"], code := ["eoEMCCCWCPDICCCDIBCCCBDDDJII"] },
  { names := ["tfng", "tifinagh"], code := ["rcYcDIBPA"] },
  { names := ["tglg", "tagalog"], code := ["isMVKA"] },
  { names := ["thaa", "thaana"], code := ["cvWbX"] },
  { names := ["thai"], code := ["fhXcFGbB"] },
  { names := ["tibt", "tibetan"], code := ["frScTCbJFbMCbJCOCGFB"] },
  { names := ["tirh", "tirhuta"], code := ["easMcTJJ"] },
  { names := ["tnsa", "tangsa"], code := ["fhgQdACJ"] },
  { names := ["todr", "todhri"], code := ["dvdGbZ"] },
  { names := ["toto"], code := ["hatKbE"] },
  { names := ["tutg", "tulutigalari"], code := ["eaiQJCADACbLCJCADACDCJCBJB"] },
  { names := ["ugar", "ugaritic"], code := ["duhCbDCA"] },
  { names := ["vaii", "vai"], code := ["ckmQlN"] },
  { names := ["vith", "vithkuqi"], code := ["dvaEKCOCGCBCKCOCGCB"] },
  { names := ["wara", "warangciti"], code := ["echCdENA"] },
  { names := ["wcho", "wancho"], code := ["havGcFGA"] },
  { names := ["xpeo", "oldpersian"], code := ["duiIbJFN"] },
  { names := ["xsux", "cuneiform"], code := ["efbSbjLdZeGCEMhN"] },
  { names := ["yezi", "yezidi"], code := ["dylKbPCCDB"] },
  { names := ["yiii", "yi"], code := ["cipKbsUEcC"] },
  { names := ["zanb", "zanabazarsquare"], code := ["ecuQcT"] },
  { names := ["zinh", "inherited", "qaai"],
    code := ["bdOeHkSBrLKbBAbcJDgoYbTDLsRCCMCGFAHAEBhRcLuFBhNbGftYDeEBczuKPRNblOAiTAgfBActcVbTDWuZC",
      "SHDGbFDbtlhJjF"] },
  { names := ["zyyy", "common"],
    code := ["AcMbBFbBbUCOCEYAbGArIbMGEDTeNAKAHACAyOAHAPAEAbHAgBAtXAfABbvUApQDlFAcgMCcUBhWBCAbvIAOA",
      "IDCFCCDAbdULDdICKEKCOSbHcLbLCCDFCbACQbQCFzPXKWbjRjXyDDfHtTdPpNUCACYQHFDdOBEAdNBfSPbHbL",
      "KAbXcLbGdCbWAdLgLjtPcLbhsJbHdZCgKJjLAgFApGAPBbezRBiBJXbICSCDfSACbFbBFbBKLAbUBcNGCGLE",
      "jZCFbSEIdDMcAbSiVbAcshXDfvHjSEqTHWQQdSeLcJjLLbMDcJEQJBIbDFcIiGTNTNdIKYfGdGCcSCBDADBDD",
      "CLCACGCcMCDDHCGCbBCDCECAEGCnBDlFDbXhtIcPcZcIbbFbRFdVNODOCOCbKLgRcFZCBObRFIIBPFfZblWEQ",
      "EMEiJHLFAQLFcDJJHbNJbDDLFBPIbOnFJNDMEKEcECAFPDLFJIfQCdYbsuxBAbFdR"] }]

end FeatureFlags.Pattern.Property
