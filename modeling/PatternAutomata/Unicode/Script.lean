import PatternAutomata.Unicode.Packed

/-!
# Scripts

The script of a character, and the scripts that a character of `Common` or `Inherited` script is
used with besides.
-/
namespace PatternAutomata.Unicode

/-- The scripts, each under its long name and then its four-letter code. -/
def scripts : List Packed.Entry := [
  ⟨"Adlam", ["Adlm"],
    ["hdeUcXEJEB"]⟩,
  ⟨"Ahom", ["Ahom"],
    ["ebrCbACOEW"]⟩,
  ⟨"Anatolian_Hieroglyphs", ["Hluw"],
    ["essEwK"]⟩,
  ⟨"Arabic", ["Arab"],
    ["chCEBFBNBCBbFBJLZBeDBbHdCbVjGbEBBFcWBbCdntWeKQnYCdBCcBHAbGPeIEBfEfvNbEcPCcDDdglSDBbABBBA",
     "CABJBDBABAGAEABABABCBBBACABABABABABBBACDBGBDBDBABJBQFCBEBQcAB"]⟩,
  ⟨"Armenian", ["Armn"],
    ["bzDbLCbXCCdozJE"]⟩,
  ⟨"Avestan", ["Avst"],
    ["dxcYcBDG"]⟩,
  ⟨"Balinese", ["Bali"],
    ["kfWcYBbX"]⟩,
  ⟨"Bamum", ["Bamu"],
    ["clcQdJcvcQvW"]⟩,
  ⟨"Bassa_Vah", ["Bass"],
    ["fhkIbDCF"]⟩,
  ⟨"Batak", ["Batk"],
    ["knGbZID"]⟩,
  ⟨"Bengali", ["Beng"],
    ["dpODBHCBCVBGBADDCICBCDIAEBBECY"]⟩,
  ⟨"Bhaiksuki", ["Bhks"],
    ["edoIIBbSBNKbC"]⟩,
  ⟨"Bopomofo", ["Bopo"],
    ["bcSBrlXbQeIbF"]⟩,
  ⟨"Brahmi", ["Brah"],
    ["dzaEcZEbJJA"]⟩,
  ⟨"Braille", ["Brai"],
    ["pdWjV"]⟩,
  ⟨"Buginese", ["Bugi"],
    ["jwAbBCB"]⟩,
  ⟨"Buhid", ["Buhd"],
    ["iuYT"]⟩,
  ⟨"Canadian_Aboriginal", ["Cans"],
    ["hoYyPvOcRdtpQP"]⟩,
  ⟨"Carian", ["Cari"],
    ["dtyMbW"]⟩,
  ⟨"Caucasian_Albanian", ["Aghb"],
    ["duxSbZLA"]⟩,
  ⟨"Chakma", ["Cakm"],
    ["dzkAcABR"]⟩,
  ⟨"Cham", ["Cham"],
    ["cmjWcCJNCJCD"]⟩,
  ⟨"Cherokee", ["Cher"],
    ["hlGdHCFcfjEdB"]⟩,
  ⟨"Chorasmian", ["Chrs"],
    ["dyxCbB"]⟩,
  ⟨"Common", ["Zyyy"],
    ["AcMbAFbAbUBOBEXAbFArHbMFECTeMAJAGABAyNAGAOADAbGAgAAtWAeZBbvTApPDlEAcgLCcTBhVBBAbvHANAHDB",
     "FBCCAbdTLCdIBKDKBORbGcLbLBCCFBbABQbPCEzPWKVbjRjWyDCbFBeAtSdPpMUBABYPHEDdNBDAdMBfRPbGbLJA",
     "bWcLbFdCbVAdKgLjtOcLbhsIbHdYCgJJjKAgEApFAOBbezQBiAJWbIBSBDfRABbFbAFbAKKAbTBcMGBGKEjYCEbS",
     "DIdCMbZbSiUbAcshWDfvGjPGqTgAeLcIjLKbMCcJDQIBHbDEcIiFTMTMdIJYfFdGBcSBBCACBCDBLBABGBcMBDCH",
     "BGBbBBDBEBADGBnBClFCbXhtHcPcYcIbbEbREdVMOCOBOBbKKgRcEZBBNbREIHBOFfYblVEQDMDeOEdQGLEAPLE",
     "cDIJGbNIbDCLEBcKnBMNCMDJFcDHOCKGIHfQBdXbsuxBAbEdR"]⟩,
  ⟨"Coptic", ["Copt", "Qaac"],
    ["bmGNpjKeLFG"]⟩,
  ⟨"Cuneiform", ["Xsux"],
    ["efbSbjLdYeGBELhN"]⟩,
  ⟨"Cypriot", ["Cprt"],
    ["dvzKFCABbRBBDACA"]⟩,
  ⟨"Cypro_Minoan", ["Cpmn"],
    ["ekyYdU"]⟩,
  ⟨"Cyrillic", ["Cyrl"],
    ["bnKfCCgMivOKgEAcYAgfNbFbtoAdRbheCBdhpGcJbHA"]⟩,
  ⟨"Deseret", ["Dsrt"],
    ["dumAdB"]⟩,
  ⟨"Devanagari", ["Deva"],
    ["dkQdCEOCZcijGbFbreMJ"]⟩,
  ⟨"Dives_Akuru", ["Diak"],
    ["eckUGCACHBBBbDBBCLJJ"]⟩,
  ⟨"Dogra", ["Dogr"],
    ["ecaYcH"]⟩,
  ⟨"Duployan", ["Dupl"],
    ["gmdSeCFMDIHJCD"]⟩,
  ⟨"Egyptian_Hieroglyphs", ["Egyp"],
    ["eldGbqRKfxQ"]⟩,
  ⟨"Elbasan", ["Elba"],
    ["duvWbN"]⟩,
  ⟨"Elymaic", ["Elym"],
    ["dyyYW"]⟩,
  ⟨"Ethiopic", ["Ethi"],
    ["gvGcUBDCGBABDCbOBDCbGBDCGBABDCOBcEBDCcOCbFDZjvAWJGBGBGBGBGBGBGBGbvkCFCFCFJGBGepyFGBDBBBO"]⟩,
  ⟨"Garay", ["Gara"],
    ["dxzCbLDbCIB"]⟩,
  ⟨"Georgian", ["Geor"],
    ["ghSbLBAFACbQBDejWbQCCgeAbLBAFA"]⟩,
  ⟨"Glagolitic", ["Glag"],
    ["qrGdRgizGGBQCGBBBE"]⟩,
  ⟨"Gothic", ["Goth"],
    ["dueAbA"]⟩,
  ⟨"Grantha", ["Gran"],
    ["eadSDBHCBCVBGBBBECICBCCCAGAFGCGDE"]⟩,
  ⟨"Greek", ["Grek"],
    ["bhWDBCCDBAEABABCBABTBcKOPjnQEbYEEEdGAmIVCFCbLCFCHBABABABbECcABOBNCFBSCCBIlJAcajEAbgnIdAR",
     "AdaxRcR"]⟩,
  ⟨"Gujarati", ["Gujr"],
    ["dzLCBIBCBVBGBBBECJBCBCCAPDCLHG"]⟩,
  ⟨"Gunjala_Gondi", ["Gong"],
    ["eebWFBBBbKBBBFHJ"]⟩,
  ⟨"Gurmukhi", ["Guru"],
    ["duNCBFEBCVBGBBBBBBCABEEBCCDAHDBAHQ"]⟩,
  ⟨"Gurung_Khema", ["Gukh"],
    ["fdrScF"]⟩,
  ⟨"Han", ["Hani"],
    ["rpWZBdKMiFbVABAZIODblCjtNcMbfbJbhsIoBCeBbsiIBMBccoKclfBbGgdTGiNCinPOlbKPxXdqWuVcfYhhYF",
     "gfF"]⟩,
  ⟨"Hangul", ["Hang"],
    ["glKjVllEBjXdPeJbEcNbEbtaNbCyTqnRMWEbWpaIbEDFCFCFCC"]⟩,
  ⟨"Hanifi_Rohingya", ["Rohg"],
    ["dxwQbNIJ"]⟩,
  ⟨"Hanunoo", ["Hano"],
    ["itSU"]⟩,
  ⟨"Hatran", ["Hatr"],
    ["dwiASBBFE"]⟩,
  ⟨"Hebrew", ["Hebr"],
    ["ccVcCIbAEFdovWZBEBABBBBBJ"]⟩,
  ⟨"Hiragana", ["Hira"],
    ["shDdHGCfpeVlASAbDCymVA"]⟩,
  ⟨"Imperial_Aramaic", ["Armi"],
    ["dwbWVBI"]⟩,
  ⟨"Inherited", ["Zinh", "Qaai"],
    ["bdOeHkRBrKKbAAbcIDgoXbEtTCBMBGEAGADBhQcLuEBhMbGftXDeDBczuJPQNblNAiSAgfAActcUbTCWuYCRHCG",
     "bEDbtlhIjF"]⟩,
  ⟨"Inscriptional_Pahlavi", ["Phli"],
    ["dxgQSFH"]⟩,
  ⟨"Inscriptional_Parthian", ["Prti"],
    ["dxfKVCH"]⟩,
  ⟨"Javanese", ["Java"],
    ["cmeYcZCJEB"]⟩,
  ⟨"Kaithi", ["Kthi"],
    ["dzfCcOKA"]⟩,
  ⟨"Kannada", ["Knda"],
    ["etCMBCBWBJBECIBCBDHBGBBDCJBC"]⟩,
  ⟨"Katakana", ["Kana"],
    ["skVdLCCjGPiAbUBdJczhEJBbScouCDBGBBBAlBCbYAOD"]⟩,
  ⟨"Kawi", ["Kawi"],
    ["eerWQBbODbC"]⟩,
  ⟨"Kayah_Li", ["Kali"],
    ["cmaAbTBA"]⟩,
  ⟨"Kharoshthi", ["Khar"],
    ["dwtCDBBFHBCBbCCCEJHI"]⟩,
  ⟨"Khitan_Small_Script", ["Kits"],
    ["fjiIAkgXsBbPA"]⟩,
  ⟨"Khmer", ["Khmr"],
    ["ixKdPCJGJsSbF"]⟩,
  ⟨"Khojki", ["Khoj"],
    ["dztWRBbU"]⟩,
  ⟨"Khudawadi", ["Sind"],
    ["eaaQcGFJ"]⟩,
  ⟨"Kirat_Rai", ["Krai"],
    ["fiiIcF"]⟩,
  ⟨"Lao", ["Laoo"],
    ["fmVBBABEBXBABWCEBABGBJCD"]⟩,
  ⟨"Latin", ["Latn"],
    ["cNZGZbVAPAFWBbEBrGbNEjxBbLGbWFDFMBcRcNjVoFANAQMfLBGAbBARbOecTbFbulMdXDcOCBBABHVNbfKbQBIB",
     "DbedQGboKZGZdcFFBbPBIddnPbEGF"]⟩,
  ⟨"Lepcha", ["Lepc"],
    ["kpScDDODC"]⟩,
  ⟨"Limbu", ["Limb"],
    ["jmEbEBLELEADL"]⟩,
  ⟨"Linear_A", ["Lina"],
    ["dvfSlYJVKH"]⟩,
  ⟨"Linear_B", ["Linb"],
    ["dsyQLBZBSBBBOCNbIeS"]⟩,
  ⟨"Lisu", ["Lisu"],
    ["ckkUbVbumAA"]⟩,
  ⟨"Lycian", ["Lyci"],
    ["dtxGbC"]⟩,
  ⟨"Lydian", ["Lydi"],
    ["dwkMZFA"]⟩,
  ⟨"Mahajani", ["Mahj"],
    ["dznCbM"]⟩,
  ⟨"Makasar", ["Maka"],
    ["eeqQY"]⟩,
  ⟨"Malayalam", ["Mlym"],
    ["eyAMBCBbYBCBFEPCZ"]⟩,
  ⟨"Mandaic", ["Mand"],
    ["ddGbBCA"]⟩,
  ⟨"Manichaean", ["Mani"],
    ["dxaMbMEL"]⟩,
  ⟨"Marchen", ["Marc"],
    ["edsQbFCVBN"]⟩,
  ⟨"Masaram_Gondi", ["Gonm"],
    ["edyEGBBBbRDABBBIIJ"]⟩,
  ⟨"Medefaidrin", ["Medf"],
    ["fisEdM"]⟩,
  ⟨"Meetei_Mayek", ["Mtei"],
    ["cmsMWhTbTCJ"]⟩,
  ⟨"Mende_Kikakui", ["Mend"],
    ["hcuYhOCP"]⟩,
  ⟨"Meroitic_Cursive", ["Merc"],
    ["dwpKXETCbT"]⟩,
  ⟨"Meroitic_Hieroglyphs", ["Mero"],
    ["dwoEbF"]⟩,
  ⟨"Miao", ["Plrd"],
    ["fizOcWEcEHQ"]⟩,
  ⟨"Modi", ["Modi"],
    ["ebhGcQLJ"]⟩,
  ⟨"Mongolian", ["Mong"],
    ["jcIBCABTGdKHbQdscBM"]⟩,
  ⟨"Mro", ["Mroo"],
    ["fheUbEBJEB"]⟩,
  ⟨"Multani", ["Mult"],
    ["dzyUGBABDBOBK"]⟩,
  ⟨"Myanmar", ["Mymr"],
    ["gbOgDcgaYbEdTbFbpaMT"]⟩,
  ⟨"Nabataean", ["Nbat"],
    ["dweIbEII"]⟩,
  ⟨"Nag_Mundari", ["Nagm"],
    ["hbpObP"]⟩,
  ⟨"Nandinagari", ["Nand"],
    ["ecqYHCbTCK"]⟩,
  ⟨"New_Tai_Lue", ["Talu"],
    ["jrCbREZGKDB"]⟩,
  ⟨"Newa", ["Newa"],
    ["eanOdNBE"]⟩,
  ⟨"Nko", ["Nkoo"],
    ["cyIcGCC"]⟩,
  ⟨"Nushu", ["Nshu"],
    ["fjiFAyvMpF"]⟩,
  ⟨"Nyiakeng_Puachue_Hmong", ["Hmnp"],
    ["haeAbSDNCJEB"]⟩,
  ⟨"Ogham", ["Ogam"],
    ["inObC"]⟩,
  ⟨"Ol_Chiki", ["Olck"],
    ["ksUbV"]⟩,
  ⟨"Ol_Onal", ["Onao"],
    ["hbzKbQEA"]⟩,
  ⟨"Old_Hungarian", ["Hung"],
    ["dxrSbYNbYHF"]⟩,
  ⟨"Old_Italic", ["Ital"],
    ["ducEbJJC"]⟩,
  ⟨"Old_North_Arabian", ["Narb"],
    ["dwyAbF"]⟩,
  ⟨"Old_Permic", ["Perm"],
    ["dufGbQ"]⟩,
  ⟨"Old_Persian", ["Xpeo"],
    ["duiIbJEN"]⟩,
  ⟨"Old_Sogdian", ["Sogo"],
    ["dyqIbN"]⟩,
  ⟨"Old_South_Arabian", ["Sarb"],
    ["dwwUbF"]⟩,
  ⟨"Old_Turkic", ["Orkh"],
    ["dxmUcU"]⟩,
  ⟨"Old_Uyghur", ["Ougr"],
    ["dyuQZ"]⟩,
  ⟨"Oriya", ["Orya"],
    ["eeJCBHCBCVBGBBBECICBCCHCEBBECR"]⟩,
  ⟨"Osage", ["Osge"],
    ["dusUbJEbJ"]⟩,
  ⟨"Osmanya", ["Osma"],
    ["duqYbDCJ"]⟩,
  ⟨"Pahawh_Hmong", ["Hmng"],
    ["fhmEcRKJBGBUFS"]⟩,
  ⟨"Palmyrene", ["Palm"],
    ["dwdCbF"]⟩,
  ⟨"Pau_Cin_Hau", ["Pauc"],
    ["edcAcE"]⟩,
  ⟨"Phags_Pa", ["Phag"],
    ["clsQcD"]⟩,
  ⟨"Phoenician", ["Phnx"],
    ["dwjGbBDA"]⟩,
  ⟨"Psalter_Pahlavi", ["Phlp"],
    ["dxhWRHDMG"]⟩,
  ⟨"Rejang", ["Rjng"],
    ["cmbWbJLA"]⟩,
  ⟨"Runic", ["Runr"],
    ["ioUcWDK"]⟩,
  ⟨"Samaritan", ["Samr"],
    ["daUbTCO"]⟩,
  ⟨"Saurashtra", ["Saur"],
    ["clvCcRIL"]⟩,
  ⟨"Sharada", ["Shrd"],
    ["dzoYdR"]⟩,
  ⟨"Shavian", ["Shaw"],
    ["dupCbV"]⟩,
  ⟨"Siddham", ["Sidd"],
    ["ebcIcBCbL"]⟩,
  ⟨"SignWriting", ["Sgnw"],
    ["gwtKzBPEBO"]⟩,
  ⟨"Sinhala", ["Sinh"],
    ["fcZCBRDXBIBACGDAEFBABHGJCCdulGT"]⟩,
  ⟨"Sogdian", ["Sogd"],
    ["dysEbP"]⟩,
  ⟨"Sora_Sompeng", ["Sora"],
    ["dziEYHJ"]⟩,
  ⟨"Soyombo", ["Soyo"],
    ["ecxSdE"]⟩,
  ⟨"Sundanese", ["Sund"],
    ["kkUcLjWH"]⟩,
  ⟨"Sunuwar", ["Sunu"],
    ["edlWbHOJ"]⟩,
  ⟨"Syloti_Nagri", ["Sylo"],
    ["clqEbS"]⟩,
  ⟨"Syriac", ["Syrc"],
    ["cqYNBcHCCkMK"]⟩,
  ⟨"Tagalog", ["Tglg"],
    ["isMVJA"]⟩,
  ⟨"Tagbanwa", ["Tagb"],
    ["iwEMBCBB"]⟩,
  ⟨"Tai_Le", ["Tale"],
    ["jpGbDCE"]⟩,
  ⟨"Tai_Tham", ["Lana"],
    ["jxGcKBbCCKGJGN"]⟩,
  ⟨"Tai_Viet", ["Tavt"],
    ["cmoUcOYE"]⟩,
  ⟨"Takri", ["Takr"],
    ["ebmEcFGJ"]⟩,
  ⟨"Tamil", ["Taml"],
    ["ejIBBFDCBDDBBABBDBDCDLEEDCBDCAGAOUealHbXNA"]⟩,
  ⟨"Tangsa", ["Tnsa"],
    ["fhgQdABJ"]⟩,
  ⟨"Tangut", ["Tang"],
    ["fjiEAbFjbZIbdNtSI"]⟩,
  ⟨"Telugu", ["Telu"],
    ["eoEMBCBWBPCIBCBDHBBCCACDCJHI"]⟩,
  ⟨"Thaana", ["Thaa"],
    ["cvWbX"]⟩,
  ⟨"Thai", ["Thai"],
    ["fhXcFFbB"]⟩,
  ⟨"Tibetan", ["Tibt"],
    ["frScTBbJEbMBbJBOBGEB"]⟩,
  ⟨"Tifinagh", ["Tfng"],
    ["rcYcDHBOA"]⟩,
  ⟨"Tirhuta", ["Tirh"],
    ["easMcTIJ"]⟩,
  ⟨"Todhri", ["Todr"],
    ["dvdGbZ"]⟩,
  ⟨"Toto", ["Toto"],
    ["hatKbE"]⟩,
  ⟨"Tulu_Tigalari", ["Tutg"],
    ["eaiQJBACABbLBJBACABDBJBBIB"]⟩,
  ⟨"Ugaritic", ["Ugar"],
    ["duhCbDBA"]⟩,
  ⟨"Vai", ["Vaii"],
    ["ckmQlN"]⟩,
  ⟨"Vithkuqi", ["Vith"],
    ["dvaEKBOBGBBBKBOBGBB"]⟩,
  ⟨"Wancho", ["Wcho"],
    ["havGcFFA"]⟩,
  ⟨"Warang_Citi", ["Wara"],
    ["echCdEMA"]⟩,
  ⟨"Yezidi", ["Yezi"],
    ["dylKbPBCCB"]⟩,
  ⟨"Yi", ["Yiii"],
    ["cipKbsUDcC"]⟩,
  ⟨"Zanabazar_Square", ["Zanb"],
    ["ecuQcT"]⟩]

/-- The characters that are used in a script although their own script is another. -/
def scriptExtensions : List Packed.Entry := [
  ⟨"Adlam", [],
    ["ciHAbGAjwOAfhHA"]⟩,
  ⟨"Arabic", [],
    ["chOAOADAbGAKKbAAjuSAfhHAdakABcdKbB"]⟩,
  ⟨"Armenian", [],
    ["bdWA"]⟩,
  ⟨"Avestan", [],
    ["hBArfSB"]⟩,
  ⟨"Bengali", [],
    ["baYAcmUBRBhjEABACBBAIAIACAEACCcbaFA"]⟩,
  ⟨"Bopomofo", [],
    ["bbJABCNArcPCEJBMKDCAGAhNAcztHBkWE"]⟩,
  ⟨"Buginese", [],
    ["cmhZA"]⟩,
  ⟨"Buhid", [],
    ["iuNB"]⟩,
  ⟨"Carian", [],
    ["hBAlzMACAfgDA"]⟩,
  ⟨"Caucasian_Albanian", [],
    ["bdSAbSAbSA"]⟩,
  ⟨"Chakma", [],
    ["dtMJckEJ"]⟩,
  ⟨"Cherokee", [],
    ["bdOCBAGBWBLB"]⟩,
  ⟨"Coptic", [],
    ["hBAwMADBBAeEBqdTAdcpCbB"]⟩,
  ⟨"Cypriot", [],
    ["dtiMCEbSDI"]⟩,
  ⟨"Cypro_Minoan", [],
    ["dtiMB"]⟩,
  ⟨"Cyrillic", [],
    ["baYAcPCBABABACAFAoHBjqNAgeKA"]⟩,
  ⟨"Devanagari", [],
    ["baYAcmUBRBhjEbMBBbnAAbzfRJ"]⟩,
  ⟨"Dogra", [],
    ["doMLcidCJ"]⟩,
  ⟨"Duployan", [],
    ["hBAwTBBAYBqiHAfuwPD"]⟩,
  ⟨"Elbasan", [],
    ["hBAwRA"]⟩,
  ⟨"Ethiopic", [],
    ["beCA"]⟩,
  ⟨"Garay", [],
    ["chOAOADA"]⟩,
  ⟨"Georgian", [],
    ["hBAbvLAeiRAfvIAfgGA"]⟩,
  ⟨"Glagolitic", [],
    ["hBAwPABAoSACAjXAeiRAfvIAfgYAbtnFA"]⟩,
  ⟨"Gothic", [],
    ["hBAwQBCAbOA"]⟩,
  ⟨"Grantha", [],
    ["dnTBRByQNgkAABBbECDBbnAAdntQAetWBBA"]⟩,
  ⟨"Greek", [],
    ["hBAwMBCABABAKAbUACAbUAjyXBzRA"]⟩,
  ⟨"Gujarati", [],
    ["dnTBRBcidMJ"]⟩,
  ⟨"Gunjala_Gondi", [],
    ["hBAdhKB"]⟩,
  ⟨"Gurmukhi", [],
    ["dnTBRBcidMJ"]⟩,
  ⟨"Gurung_Khema", [],
    ["doNA"]⟩,
  ⟨"Han", [],
    ["hBArwYPBCCABJBMKDCAGAEDhFAfSPbGbLJAbWbNcEbWPLbZAdKYKEdSbEbroJHbhaZBkWEdchERlrYB"]⟩,
  ⟨"Hangul", [],
    ["seRCEJBMQAGAhNAcztHBkWE"]⟩,
  ⟨"Hanifi_Rohingya", [],
    ["chOAOADAbGAfRA"]⟩,
  ⟨"Hanunoo", [],
    ["iuNB"]⟩,
  ⟨"Hebrew", [],
    ["bdVB"]⟩,
  ⟨"Hiragana", [],
    ["seRCEJBMQFBAEBdNDDAdMBcztGBkWEKAbTB"]⟩,
  ⟨"Javanese", [],
    ["cmhZA"]⟩,
  ⟨"Kaithi", [],
    ["doOJnxXAbufEJ"]⟩,
  ⟨"Kannada", [],
    ["dnTBRBhjEABBGAXABAcasXF"]⟩,
  ⟨"Katakana", [],
    ["bdTAbDAqzTCEJBMQFBAEBdNDDAdMBcztGBkWEKAbTB"]⟩,
  ⟨"Kayah_Li", [],
    ["cmbUA"]⟩,
  ⟨"Khojki", [],
    ["edIJchoIJ"]⟩,
  ⟨"Khudawadi", [],
    ["doMBcidMJ"]⟩,
  ⟨"Latin", [],
    ["hBAtWAKABCBAJABAbMOBBBAMACCHBBBbMAFAEMkRBbvEBcxKAexWAvUAhKAezMAbtuMHvEA"]⟩,
  ⟨"Limbu", [],
    ["doNA"]⟩,
  ⟨"Linear_A", [],
    ["dtiTbS"]⟩,
  ⟨"Linear_B", [],
    ["dtiMCEbSDI"]⟩,
  ⟨"Lisu", [],
    ["baYAQArdKB"]⟩,
  ⟨"Lycian", [],
    ["mgOA"]⟩,
  ⟨"Lydian", [],
    ["hBArfTA"]⟩,
  ⟨"Mahajani", [],
    ["hBAdhKLcidCJ"]⟩,
  ⟨"Malayalam", [],
    ["dnTBRBhjOAXAcasZC"]⟩,
  ⟨"Mandaic", [],
    ["cjOA"]⟩,
  ⟨"Manichaean", [],
    ["cjOA"]⟩,
  ⟨"Masaram_Gondi", [],
    ["doMB"]⟩,
  ⟨"Meroitic_Hieroglyphs", [],
    ["mgRA"]⟩,
  ⟨"Modi", [],
    ["clsAJ"]⟩,
  ⟨"Mongolian", [],
    ["jcKBBAdcJAfzTBFD"]⟩,
  ⟨"Multani", [],
    ["dyKJ"]⟩,
  ⟨"Myanmar", [],
    ["cmbUA"]⟩,
  ⟨"Nandinagari", [],
    ["doMBbiMJgbHAIAHAcasRF"]⟩,
  ⟨"Nko", [],
    ["chOAOADAdppEB"]⟩,
  ⟨"Ol_Onal", [],
    ["doMB"]⟩,
  ⟨"Old_Hungarian", [],
    ["mgOACAfgDAPA"]⟩,
  ⟨"Old_Permic", [],
    ["hBAwMAFCKAoDA"]⟩,
  ⟨"Old_Turkic", [],
    ["mgOAfgFA"]⟩,
  ⟨"Old_Uyghur", [],
    ["cjOAdusVA"]⟩,
  ⟨"Oriya", [],
    ["dnTBRBhjOAXA"]⟩,
  ⟨"Osage", [],
    ["bdPACAGAcYA"]⟩,
  ⟨"Phags_Pa", [],
    ["jcKBBAdcJAfzUA"]⟩,
  ⟨"Psalter_Pahlavi", [],
    ["cjOA"]⟩,
  ⟨"Runic", [],
    ["irRC"]⟩,
  ⟨"Samaritan", [],
    ["rmVA"]⟩,
  ⟨"Sharada", [],
    ["dnTAhkFABACBCAcatRFCA"]⟩,
  ⟨"Shavian", [],
    ["hBA"]⟩,
  ⟨"Sinhala", [],
    ["doMBhkMA"]⟩,
  ⟨"Sogdian", [],
    ["cjOA"]⟩,
  ⟨"Sunuwar", [],
    ["bdOBBAJACAbCADA"]⟩,
  ⟨"Syloti_Nagri", [],
    ["doMBeYJ"]⟩,
  ⟨"Syriac", [],
    ["bdRBCBBAVACCHBBAbcDAOBCAbGAKKbAAixRABA"]⟩,
  ⟨"Tagalog", [],
    ["iuNB"]⟩,
  ⟨"Tagbanwa", [],
    ["iuNB"]⟩,
  ⟨"Tai_Le", [],
    ["bdOBFBDAezZJ"]⟩,
  ⟨"Takri", [],
    ["doMBcidMJ"]⟩,
  ⟨"Tamil", [],
    ["dnTBRBhjOAcbbKAboeFABAcDB"]⟩,
  ⟨"Tangut", [],
    ["seAPtBA"]⟩,
  ⟨"Telugu", [],
    ["dnTBRBhjOAXA"]⟩,
  ⟨"Thaana", [],
    ["chOAOBCAcMJdptGAKA"]⟩,
  ⟨"Thai", [],
    ["baYAbAAbRAbTA"]⟩,
  ⟨"Tibetan", [],
    ["seYD"]⟩,
  ⟨"Tifinagh", [],
    ["bdQABACABA"]⟩,
  ⟨"Tirhuta", [],
    ["dnTBRBhkMAcasZJ"]⟩,
  ⟨"Todhri", [],
    ["bdPACACAJABAcWA"]⟩,
  ⟨"Toto", [],
    ["baYA"]⟩,
  ⟨"Tulu_Tigalari", [],
    ["exAJgbQABAcasXFhFA"]⟩,
  ⟨"Yezidi", [],
    ["chOAOADAcMJ"]⟩,
  ⟨"Yi", [],
    ["seRBFJCHiPAdaeFE"]⟩]

/-- The characters that belong to a script or are used in it. Those that are used in particular
scripts do not count as common or inherited. -/
def scriptUsers (script : Packed.Entry) : CharSet :=
  if script.name = "Common" ∨ script.name = "Inherited" then
    script.set.difference (.ofRanges (scriptExtensions.flatMap (·.set.ranges)))
  else
    .union script.set <|
      .ofRanges ((scriptExtensions.filter (·.name = script.name)).flatMap (·.set.ranges))

end PatternAutomata.Unicode
