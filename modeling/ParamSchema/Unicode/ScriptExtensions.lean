import ParamSchema.Unicode.NamedSet

/-!
The scripts that characters are used in, where those are not the scripts that they belong to.
-/

namespace ParamSchema.Unicode

/-- For each script with a difference, the characters that are used in it but belong to another, or
belong to it as the common or inherited script but are used in a few scripts only. -/
def extensionChanges : List NamedSet := [
  ⟨["Adlm", "Adlam"], ["hwfBhAB"]⟩,
  ⟨["Arab", "Arabic"], ["hwMBOBDBhABKLaBh92NChtAc"]⟩,
  ⟨["Beng", "Bengali"], ["iqRCRCk7KBBBCCBBIBIBCBEBCDhi=ZB"]⟩,
  ⟨["Bopo", "Bopomofo"], ["sgBDEKBNKECBGBmDBhzqJCoaF"]⟩,
  ⟨["Bugi", "Buginese"], ["hquPB"]⟩,
  ⟨["Buhd", "Buhid"], ["l5VC"]⟩,
  ⟨["Cakm", "Chakma"], ["ivGKhyQK"]⟩,
  ⟨["Zyyy", "Common"],
    ["hwMBOBDBhAB5DCh8VBhxZCmLCBBhmNBNBHEBGBDCB5UBjwTBtdDCBBKBNQGBBEEibCDBiaCkTQhAhEhchIhYhRPMhT",
     "BiYZKFjAf84BIpIKnUBlAB07OCoFCoaFKBhNCrADEhNDJtBbhutEEl1cSn2eC"]⟩,
  ⟨["Copt", "Coptic", "Qaac"], ["ig3Ac"]⟩,
  ⟨["Cprt", "Cypriot"], ["igoADEhNDJ"]⟩,
  ⟨["Cpmn", "Cypro_Minoan"], ["igoAC"]⟩,
  ⟨["Cyrl", "Cyrillic"], ["hkFCmrRBkiKB"]⟩,
  ⟨["Deva", "Devanagari"], ["iqRCRCk7KhHBC=WBhh5fK"]⟩,
  ⟨["Dogr", "Dogra"], ["irEMhn2AK"]⟩,
  ⟨["Dupl", "Duployan"], ["jvlAE"]⟩,
  ⟨["Geor", "Georgian"], ["knbB"]⟩,
  ⟨["Glag", "Glagolitic"], ["hkEBCBqtbB+hLB"]⟩,
  ⟨["Gran", "Grantha"], ["iqRCRC0AOkmcBBCeDDC=WBh8yKBjkUCBB"]⟩,
  ⟨["Grek", "Greek"], ["6CBCBmzaC"]⟩,
  ⟨["Gujr", "Gujarati"], ["iqRCRChn2KK"]⟩,
  ⟨["Gong", "Gunjala_Gondi"], ["irEC"]⟩,
  ⟨["Guru", "Gurmukhi"], ["iqRCRChn2KK"]⟩,
  ⟨["Hani", "Han"], ["sgBDCBBKBNKECBGBEElbBkUQhAhEhchIhYhRPMhTBiYZKFjAf84BI15dCoaFh0=aSn2eC"]⟩,
  ⟨["Hang", "Hangul"], ["sgBDEKBNQBGBmDBhzqJCoaF"]⟩,
  ⟨["Rohg", "Hanifi_Rohingya"], ["hwMBOBDBhABkTB"]⟩,
  ⟨["Hano", "Hanunoo"], ["l5VC"]⟩,
  ⟨["Hira", "Hiragana"], ["sgBDEKBNQGBBECibEDBiaChzqICoaFKBhNC"]⟩,
  ⟨["Zinh", "Inherited", "Qaai"],
    ["6CBCBdNoVCuELaB3ACk7dDBNBHEBGBDCmGChWBBB3VBj5ZEjLCh0yFBkiaB"]⟩,
  ⟨["Java", "Javanese"], ["hquPB"]⟩,
  ⟨["Kthi", "Kaithi"], ["irGKhn2AK"]⟩,
  ⟨["Knda", "Kannada"], ["iqRCRCk7KBBBHBXBBBhi5bG"]⟩,
  ⟨["Kana", "Katakana"], ["sgBDEKBNQGBBECibEDBiaChzqICoaFKBhNC"]⟩,
  ⟨["Kali", "Kayah_Li"], ["hqpOB"]⟩,
  ⟨["Khoj", "Khojki"], ["i3GKhnqAK"]⟩,
  ⟨["Sind", "Khudawadi"], ["irEChn2KK"]⟩,
  ⟨["Latn", "Latin"], ["7DNoVChmKCh9IBj5TBmABhhwPIxGB"]⟩,
  ⟨["Limb", "Limbu"], ["irFB"]⟩,
  ⟨["Lina", "Linear_A"], ["igoHhN"]⟩,
  ⟨["Linb", "Linear_B"], ["igoADEhNDJ"]⟩,
  ⟨["Mahj", "Mahajani"], ["irEMhn2AK"]⟩,
  ⟨["Mlym", "Malayalam"], ["iqRCRCk7UBhi6VD"]⟩,
  ⟨["Mand", "Mandaic"], ["hyAB"]⟩,
  ⟨["Mani", "Manichaean"], ["hyAB"]⟩,
  ⟨["Gonm", "Masaram_Gondi"], ["irEC"]⟩,
  ⟨["Modi", "Modi"], ["hqhQK"]⟩,
  ⟨["Mong", "Mongolian"], ["mgCCBBihJB"]⟩,
  ⟨["Mult", "Multani"], ["izGK"]⟩,
  ⟨["Mymr", "Myanmar"], ["hqpOB"]⟩,
  ⟨["Nand", "Nandinagari"], ["irEC8AKj=ZBIBHBhi5VG"]⟩,
  ⟨["Nkoo", "Nko"], ["hwMBOBDBh94eC"]⟩,
  ⟨["Perm", "Old_Permic"], ["hkDB"]⟩,
  ⟨["Ougr", "Old_Uyghur"], ["hyABihlRB"]⟩,
  ⟨["Orya", "Oriya"], ["iqRCRCk7UBXB"]⟩,
  ⟨["Phag", "Phags_Pa"], ["mgCCBB"]⟩,
  ⟨["Phlp", "Psalter_Pahlavi"], ["hyAB"]⟩,
  ⟨["Shrd", "Sharada"], ["iqRBk8FBBBCCCB"]⟩,
  ⟨["Sinh", "Sinhala"], ["irEC"]⟩,
  ⟨["Sogd", "Sogdian"], ["hyAB"]⟩,
  ⟨["Sylo", "Syloti_Nagri"], ["irECkAK"]⟩,
  ⟨["Syrc", "Syriac"], ["hwMBOCCBhABKLaBl8HBBB"]⟩,
  ⟨["Tglg", "Tagalog"], ["l5VC"]⟩,
  ⟨["Tagb", "Tagbanwa"], ["l5VC"]⟩,
  ⟨["Tale", "Tai_Le"], ["kiAK"]⟩,
  ⟨["Takr", "Takri"], ["irEChn2KK"]⟩,
  ⟨["Taml", "Tamil"], ["iqRCRCk7UBhjgYB6wNBBBhXC"]⟩,
  ⟨["Telu", "Telugu"], ["iqRCRCk7UBXB"]⟩,
  ⟨["Thaa", "Thaana"], ["hwMBOCCBiAKh98IBKB"]⟩,
  ⟨["Tirh", "Tirhuta"], ["iqRCRCk8MBhi5dK"]⟩,
  ⟨["Yezi", "Yezidi"], ["hwMBOBDBiAK"]⟩,
  ⟨["Yiii", "Yi"], ["sgBCFKCImfBhzzFF"]⟩]

end ParamSchema.Unicode
