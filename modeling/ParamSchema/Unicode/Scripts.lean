import ParamSchema.Unicode.NamedSet

/-!
The scripts that characters belong to.
-/

namespace ParamSchema.Unicode

/-- The scripts under their short names, then the long ones. -/
def scripts : List NamedSet := [
  ⟨["Adlm", "Adlam"], ["j6oAiMEKEC"]⟩,
  ⟨["Ahom", "Ahom"], ["il4AbCPEX"]⟩,
  ⟨["Hluw", "Anatolian_Hieroglyphs"], ["ixgAyH"]⟩,
  ⟨["Arab", "Arabic"],
    ["hwAFBGBOBDBhABKLaBjMBhCiQhQnQfBCFiLBdh8yQjTQrLCiQChWHBhAQjQFBkHj7DfiDDhXEh34AEBbBCBBCBBKBE",
     "BBBBGBEBBBBBBDBCBBCBBBBBBBBBBCBBCEBHBEBEBBBKBRFDBFBRhUC"]⟩,
  ⟨["Armn", "Armenian"], ["hpRhGChSCDh9sDF"]⟩,
  ⟨["Avst", "Avestan"], ["ii4AhWDH"]⟩,
  ⟨["Bali", "Balinese"], ["m4AiNBhS"]⟩,
  ⟨["Bamu", "Bamum"], ["hp1AiYhwoIxZ"]⟩,
  ⟨["Bass", "Bassa_Vah"], ["i62QeCG"]⟩,
  ⟨["Batk", "Batak"], ["m+AhUIE"]⟩,
  ⟨["Beng", "Bengali"], ["isAEBICCCWBHBBDECJCCCEIBECBFCZ"]⟩,
  ⟨["Bhks", "Bhaiksuki"], ["ingAJBhNBOKd"]⟩,
  ⟨["Bopo", "Bopomofo"], ["3KCrwZhLjQhA"]⟩,
  ⟨["Brah", "Brahmi"], ["ikgAiOEhEJB"]⟩,
  ⟨["Brai", "Braille"], ["qgAoA"]⟩,
  ⟨["Bugi", "Buginese"], ["mwAcCC"]⟩,
  ⟨["Buhd", "Buhid"], ["l6AU"]⟩,
  ⟨["Cans", "Canadian_Aboriginal"], ["lgA0AxQiGigtaQ"]⟩,
  ⟨["Cari", "Carian"], ["ig1AhR"]⟩,
  ⟨["Aghb", "Caucasian_Albanian"], ["ihpQhULB"]⟩,
  ⟨["Cakm", "Chakma"], ["ikoAhVBS"]⟩,
  ⟨["Cham", "Cham"], ["hqwAhXJOCKCE"]⟩,
  ⟨["Cher", "Cherokee"], ["k9AiWCGhl7SiQ"]⟩,
  ⟨["Chrs", "Chorasmian"], ["ij9Qc"]⟩,
  ⟨["Zyyy", "Common"],
    ["AiBaGahPBPBFXBfBuBhHFFCUjUBJBGBBBzdBGBOBDBhABkcBwEBkBChmZBsVEpCBhvPDiHCmLCBBhmNBNBHEBGBDCB",
     "4FMCiXBLDLBPRhBhfhGBDCGBbBRhJDE0aWLV9AoAzUChABjJwAiesSVBBBZPIEEibCDBiaCkTQhAhGJBhQiAfiRhPB",
     "iYlImuAiA2oAhCjGDlFKnUBlABsLBOC0uSCmQKWhDBTBEkTBBhAaGaLKBhNCiAHBHKFoCDEhNDJiQNhThNnEbhutEE",
     "j6cnaGtUkcjUhcnWKhHCheDRICHeEhdmVUMUMiXJZkHiVBiHBCCBCCCEBMBBBHBiBBECIBHBcBEBFBBDHBqUCpEChS",
     "ljRiEiMhd2ChMEjEMPCPBPBhFKlOhYaBCNhMEJHCOGka+YERDNDjXEifGMEBPMEhYIKGhIIeCMECheqUMOCNDKFhYH",
     "PCLGJHkTBjG4hgHBejA"]⟩,
  ⟨["Copt", "Coptic", "Qaac"], ["=COqkQjUFH"]⟩,
  ⟨["Xsux", "Cuneiform"], ["iogA8ajGjPBFLmE"]⟩,
  ⟨["Cprt", "Cypriot"], ["iigAGCBBhMBCDBCB"]⟩,
  ⟨["Cpmn", "Cypro_Minoan"], ["ir8QjD"]⟩,
  ⟨["Cyrl", "Cyrillic"], ["hgAkFClJl6QLlABiMBkjHhA+iAjA18OCh4wAhehBB"]⟩,
  ⟨["Dsrt", "Deseret"], ["ihgAiQ"]⟩,
  ⟨["Deva", "Devanagari"], ["ioAiREPCahn7AhA8wAK"]⟩,
  ⟨["Diak", "Dives_Akuru"], ["imoAHCBCIBCBeBCCMJK"]⟩,
  ⟨["Dogr", "Dogra"], ["imgAhc"]⟩,
  ⟨["Dupl", "Duployan"], ["jvgAjLFNDJHKCE"]⟩,
  ⟨["Egyp", "Egyptian_Hieroglyphs"], ["isgAhiWKj8b"]⟩,
  ⟨["Elba", "Elbasan"], ["ihoAhI"]⟩,
  ⟨["Elym", "Elymaic"], ["ij=AX"]⟩,
  ⟨["Ethi", "Ethiopic"],
    ["kwAiJBECHBBBEChJBEChBBECHBBBECPBhZBECiDChADamvGXJHBHBHBHBHBHBHBH=pCGCGCGJHBHivlRHBEBCBP"]⟩,
  ⟨["Gara", "Garay"], ["ijqAhGDdIC"]⟩,
  ⟨["Geor", "Georgian"], ["klAhGBBFBChLBEi8QhLCDkiAhGBBFB"]⟩,
  ⟨["Glag", "Glagolitic"], ["rgAjAjs9AHBRCHBCBF"]⟩,
  ⟨["Goth", "Gothic"], ["ig5Qb"]⟩,
  ⟨["Gran", "Grantha"], ["ik4AEBICCCWBHBCBFCJCCCDCBGBFHCHDF"]⟩,
  ⟨["Grek", "Greek"],
    ["7QEBDCEBBEBBBBDBBBUBhfOQmpGFhSFEFiUBqAWCGChGCGCIBBBBBBBfChVBPBOCGBTCDBJpHBhixeB1uaiPRBh0if",
     "iG"]⟩,
  ⟨["Gujr", "Gujarati"], ["i0BDBJBDBWBHBCBFCKBDBDCBPECMHH"]⟩,
  ⟨["Gong", "Gunjala_Gondi"], ["inrAGBCBhFBCBGHK"]⟩,
  ⟨["Guru", "Gurmukhi"], ["iwBDBGECCWBHBCBCBCCBBFECCDDBHEBBHR"]⟩,
  ⟨["Gukh", "Gurung_Khema"], ["i4oAha"]⟩,
  ⟨["Hani", "Han"],
    ["r0AaBiZMmWhPBBBZJOE+EmuAiA0wA2oArOCjK9oICMChkgOhp3AhAkhaGmeCl0COnpRPzOitCwehvCk6LFkjA"]⟩,
  ⟨["Hang", "Hangul"], ["koAoAnxOCoBiejRfiBf93Bd0Dq9EMXEhRp9EfDGCGCGCD"]⟩,
  ⟨["Rohg", "Hanifi_Rohingya"], ["ijoAhIIK"]⟩,
  ⟨["Hano", "Hanunoo"], ["l5AV"]⟩,
  ⟨["Hatr", "Hatran"], ["iinATBCFF"]⟩,
  ⟨["Hebr", "Hebrew"], ["hsRhXIbEGh9pIaBFBBBCBCBK"]⟩,
  ⟨["Hira", "Hiragana"], ["siBiWGDi=7BofSBdDwlNB"]⟩,
  ⟨["Armi", "Imperial_Aramaic"], ["iiiAWBJ"]⟩,
  ⟨["Zinh", "Inherited", "Qaai"],
    ["4AjQoVCuELaB3AEkqbfwBDBNBHEBGBDCmGiAwMCmChBj5ZEjLChzrFQQO+PBnCBkiaBhu+EhOCXxADRICHeE4r6SnQ"]⟩,
  ⟨["Phli", "Inscriptional_Pahlavi"], ["ii7ATFI"]⟩,
  ⟨["Prti", "Inscriptional_Parthian"], ["ii6AWCI"]⟩,
  ⟨["Java", "Javanese"], ["hqsAiOCKEC"]⟩,
  ⟨["Kthi", "Kaithi"], ["ikkAiDKB"]⟩,
  ⟨["Knda", "Kannada"], ["jkANBDBXBKBFCJBDBEHCGCBECKBD"]⟩,
  ⟨["Kana", "Katakana"], ["slBiaCDnQQmQhPBiYhzgOKBhNhsiSEBHBCBBofDhSBOE"]⟩,
  ⟨["Kawi", "Kawi"], ["in4ARBhJDd"]⟩,
  ⟨["Kali", "Kayah_Li"], ["hqoAhOBB"]⟩,
  ⟨["Khar", "Kharoshthi"], ["iiwAEBCFIBDBdCDEKHJ"]⟩,
  ⟨["Kits", "Khitan_Small_Script"], ["i7=EBm4buWhJB"]⟩,
  ⟨["Khmr", "Khmer"], ["l8AieCKGKvGhA"]⟩,
  ⟨["Khoj", "Khojki"], ["ikwASBhP"]⟩,
  ⟨["Sind", "Khudawadi"], ["ik1QhbFK"]⟩,
  ⟨["Krai", "Kirat_Rai"], ["i7qAha"]⟩,
  ⟨["Laoo", "Lao"], ["j0BCBBBFBYBBBXCFBBBHBKCE"]⟩,
  ⟨["Latn", "Latin"],
    ["iBaGahPBPBFXBfBuBhHFmwbhGGhRFEFNBiGiBoArRBNBQNkNCGBbBRhJi2XhA+1CjGDiDCCBBBIVO5QhLBJBEz8WHh",
     "gaaGaihFGBhKBJh16FfGG"]⟩,
  ⟨["Lepc", "Lepcha"], ["ngAhYDPDD"]⟩,
  ⟨["Limb", "Limbu"], ["moAfBMEMEBDM"]⟩,
  ⟨["Lina", "Linear_A"], ["ihwApXJWKI"]⟩,
  ⟨["Linb", "Linear_B"], ["iggAMBaBTBCBPCOhCjb"]⟩,
  ⟨["Lisu", "Lisu"], ["hpmQhQ+1QB"]⟩,
  ⟨["Lyci", "Lycian"], ["ig0Ad"]⟩,
  ⟨["Lydi", "Lydian"], ["iipAaFB"]⟩,
  ⟨["Mahj", "Mahajani"], ["ikqQhH"]⟩,
  ⟨["Maka", "Makasar"], ["in3AZ"]⟩,
  ⟨["Mlym", "Malayalam"], ["joANBDBhTBDBGEQCa"]⟩,
  ⟨["Mand", "Mandaic"], ["iiAcCB"]⟩,
  ⟨["Mani", "Manichaean"], ["ii2AhHEM"]⟩,
  ⟨["Marc", "Marchen"], ["injQhACWBO"]⟩,
  ⟨["Gonm", "Masaram_Gondi"], ["inoAHBCBhMDBBCBJIK"]⟩,
  ⟨["Medf", "Medefaidrin"], ["i7yAib"]⟩,
  ⟨["Mtei", "Meetei_Mayek"], ["hq3AXmJhOCK"]⟩,
  ⟨["Mend", "Mende_Kikakui"], ["j6gAmFCQ"]⟩,
  ⟨["Merc", "Meroitic_Cursive"], ["iitAYEUChO"]⟩,
  ⟨["Mero", "Meroitic_Hieroglyphs"], ["iisAhA"]⟩,
  ⟨["Plrd", "Miao"], ["i74AiLEhZHR"]⟩,
  ⟨["Modi", "Modi"], ["ilwAiFLK"]⟩,
  ⟨["Mong", "Mongolian"], ["mgACCBBUGiZHhLh=tVN"]⟩,
  ⟨["Mroo", "Mro"], ["i6yAfBKEC"]⟩,
  ⟨["Mult", "Multani"], ["ik0AHBBBEBPBL"]⟩,
  ⟨["Mymr", "Myanmar"], ["kgAlAhmqAfjBhA7iQU"]⟩,
  ⟨["Nbat", "Nabataean"], ["iikAfIJ"]⟩,
  ⟨["Nagm", "Nag_Mundari"], ["j5mQhK"]⟩,
  ⟨["Nand", "Nandinagari"], ["imtAIChOCL"]⟩,
  ⟨["Talu", "New_Tai_Lue"], ["msAhMEaGLDC"]⟩,
  ⟨["Newa", "Newa"], ["ilgAicBF"]⟩,
  ⟨["Nkoo", "Nko"], ["h+AhbCD"]⟩,
  ⟨["Nshu", "Nushu"], ["i7=BBwsOsM"]⟩,
  ⟨["Hmnp", "Nyiakeng_Puachue_Hmong"], ["j4oAhNDOCKEC"]⟩,
  ⟨["Ogam", "Ogham"], ["l0Ad"]⟩,
  ⟨["Olck", "Ol_Chiki"], ["niQhQ"]⟩,
  ⟨["Onao", "Ol_Onal"], ["j5uQhLEB"]⟩,
  ⟨["Hung", "Old_Hungarian"], ["ijkAhTNhTHG"]⟩,
  ⟨["Ital", "Old_Italic"], ["ig4AhEJD"]⟩,
  ⟨["Narb", "Old_North_Arabian"], ["ii0AhA"]⟩,
  ⟨["Perm", "Old_Permic"], ["ig6QhL"]⟩,
  ⟨["Xpeo", "Old_Persian"], ["ig9AhEEO"]⟩,
  ⟨["Sogo", "Old_Sogdian"], ["ij4AhI"]⟩,
  ⟨["Sarb", "Old_South_Arabian"], ["iizAhA"]⟩,
  ⟨["Orkh", "Old_Turkic"], ["ijgAiJ"]⟩,
  ⟨["Ougr", "Old_Uyghur"], ["ij7Qa"]⟩,
  ⟨["Orya", "Oriya"], ["i4BDBICCCWBHBCBFCJCCCDHDECBFCS"]⟩,
  ⟨["Osge", "Osage"], ["ihlQhEEhE"]⟩,
  ⟨["Osma", "Osmanya"], ["ihkAeCK"]⟩,
  ⟨["Hmng", "Pahawh_Hmong"], ["i64AiGKKBHBVFT"]⟩,
  ⟨["Palm", "Palmyrene"], ["iijAhA"]⟩,
  ⟨["Pauc", "Pau_Cin_Hau"], ["im2AhZ"]⟩,
  ⟨["Phag", "Phags_Pa"], ["hqiAhY"]⟩,
  ⟨["Phnx", "Phoenician"], ["iioAcDB"]⟩,
  ⟨["Phlp", "Psalter_Pahlavi"], ["ii8ASHEMH"]⟩,
  ⟨["Rjng", "Rejang"], ["hqpQhELB"]⟩,
  ⟨["Runr", "Runic"], ["l1AiLDL"]⟩,
  ⟨["Samr", "Samaritan"], ["igAhOCP"]⟩,
  ⟨["Saur", "Saurashtra"], ["hqkAiGIM"]⟩,
  ⟨["Shrd", "Sharada"], ["iksAjA"]⟩,
  ⟨["Shaw", "Shavian"], ["ihiQhQ"]⟩,
  ⟨["Sidd", "Siddham"], ["ilsAhWChG"]⟩,
  ⟨["Sgnw", "SignWriting"], ["j2gA0MPFBP"]⟩,
  ⟨["Sinh", "Sinhala"], ["jsBDBSDYBJBBCHDBEGBBBIGKCDig=MU"]⟩,
  ⟨["Sogd", "Sogdian"], ["ij5QhK"]⟩,
  ⟨["Sora", "Sora_Sompeng"], ["ikmQZHK"]⟩,
  ⟨["Soyo", "Soyombo"], ["imyQiT"]⟩,
  ⟨["Sund", "Sundanese"], ["m8AiAoAI"]⟩,
  ⟨["Sunu", "Sunuwar"], ["im+AhCOK"]⟩,
  ⟨["Sylo", "Syloti_Nagri"], ["hqgAhN"]⟩,
  ⟨["Syrc", "Syriac"], ["h4AOBhcCDoQL"]⟩,
  ⟨["Tglg", "Tagalog"], ["l4AWJB"]⟩,
  ⟨["Tagb", "Tagbanwa"], ["l7ANBDBC"]⟩,
  ⟨["Tale", "Tai_Le"], ["mqQeCF"]⟩,
  ⟨["Lana", "Tai_Tham"], ["mxAhfBdCLGKGO"]⟩,
  ⟨["Tavt", "Tai_Viet"], ["hq0AiDYF"]⟩,
  ⟨["Takr", "Takri"], ["il0AhaGK"]⟩,
  ⟨["Taml", "Tamil"], ["i8CCBGDDBEDCBBBCDCDDDMEFDDBECBGBOVik+FhSNB"]⟩,
  ⟨["Tnsa", "Tangsa"], ["i6zQiPBK"]⟩,
  ⟨["Tang", "Tangut"], ["i7=ABfl=YI4AwAJ"]⟩,
  ⟨["Telu", "Telugu"], ["jgANBDBXBQCJBDBEHCBDCBCECKHJ"]⟩,
  ⟨["Thaa", "Thaana"], ["h8AhS"]⟩,
  ⟨["Thai", "Thai"], ["jwBhaFc"]⟩,
  ⟨["Tibt", "Tibetan"], ["j4AiIBhEEhHBhEBPBHEC"]⟩,
  ⟨["Tfng", "Tifinagh"], ["rpQhYHCOB"]⟩,
  ⟨["Tirh", "Tirhuta"], ["ilkAiIIK"]⟩,
  ⟨["Todr", "Todhri"], ["ihuAhU"]⟩,
  ⟨["Toto", "Toto"], ["j40Qf"]⟩,
  ⟨["Tutg", "Tulu_Tigalari"], ["ik8AKBBCBBhGBKBBCBBEBKBCIC"]⟩,
  ⟨["Ugar", "Ugaritic"], ["ig8AeBB"]⟩,
  ⟨["Vaii", "Vai"], ["hpoApM"]⟩,
  ⟨["Vith", "Vithkuqi"], ["ihrQLBPBHBCBLBPBHBC"]⟩,
  ⟨["Wcho", "Wancho"], ["j42AhaFB"]⟩,
  ⟨["Wara", "Warang_Citi"], ["imlAiTMB"]⟩,
  ⟨["Yezi", "Yezidi"], ["ij0AhKBDCC"]⟩,
  ⟨["Yiii", "Yi"], ["hogAhkNDhX"]⟩,
  ⟨["Zanb", "Zanabazar_Square"], ["imwAiI"]⟩]

end ParamSchema.Unicode
