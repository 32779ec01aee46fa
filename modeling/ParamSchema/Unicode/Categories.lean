import ParamSchema.Unicode.NamedSet

/-!
The general categories of characters, without those of surrogates and unassigned code points.
-/

namespace ParamSchema.Unicode

/-- The general categories under their short names, then the long ones. -/
def categories : List NamedSet := [
  ⟨["Cc", "Control", "Cntrl"], ["AhAifhB"]⟩,
  ⟨["Cf", "Format"], ["lNBhqSGWBmABhRBsACiQBj5LBh=cFaFhRFBKh30PBnZDkmBBPBo7CQhijAElmPI4r0GBejA"]⟩,
  ⟨["Co", "Private_Use"], ["h4gAmoA8h4Ah==eCh==e"]⟩,
  ⟨["Ll", "Lowercase_Letter"],
    ["jBahaBhJYBIBBBBBBBBBBBBBBBBBBBBBBBBBBBBBBBBBBBBBBBBBBBBBBBBBBBBBBBCBBBBBBBBBBBBBBBCBBBBBBB",
     "BBBBBBBBBBBBBBBBBBBBBBBBBBBBBBBBBBBBBBBCBBBBDCBBBCBDCEBCBDDCBCBBBBBCBBCBBCBDBBBCCCDGBCBCBB",
     "BBBBBBBBBBBBBBCBBBBBBBBBBBBBBBBBCCBBBDBBBBBBBBBBBBBBBBBBBBBBBBBBBBBBBBBBBBBBBBBBBBBBBBBBBB",
     "BBBBBBHCBCCBBEBBBBBBBBiFBbmBBBBDBDDSBbhDBCDDBBBBBBBBBBBBBBBBBBBBBBBFBBCBCChThQBBBBBBBBBBBB",
     "BBBBBBBBBBBBBBBBBBBBBBJBBBBBBBBBBBBBBBBBBBBBBBBBBBBBBBBBBBBBBBBBBBBBBBBBBBBBCBBBBBBBBBBBBC",
     "BBBBBBBBBBBBBBBBBBBBBBBBBBBBBBBBBBBBBBBBBBBBBBBBBBBBBBBBBBBBBBBBBBBBBBBBBBBBBBBBBBBBBBBBBB",
     "BBBBBBhQhJi6HhLCD3YGikCJBBjVhMhfNBhCjGBBBBBBBBBBBBBBBBBBBBBBBBBBBBBBBBBBBBBBBBBBBBBBBBBBBB",
     "BBBBBBBBBBBBBBBBBBBBBBBBBBBBBBBBBBBBBBBBBBBBBBBBBBBBBBBBBBBBBBBBBBBBBBBBBBBBBBBBBBBBBBBBBB",
     "BBBBBBJBBBBBBBBBBBBBBBBBBBBBBBBBBBBBBBBBBBBBBBBBBBBBBBBBBBBBBBBBBBBBBBBBBBBBBBBBBBBBBBBBBB",
     "BBBBBBBBBBBBBBJIGKIIIIGKIIIIOCIIIIIIFBCGBDDBCIECCIIKDBCoSBDCDBbBEBEBCCIEEBhVBi1LhQBBDCBBBB",
     "BBEBBCBGFBBBBBBBBBBBBBBBBBBBBBBBBBBBBBBBBBBBBBBBBBBBBBBBBBBBBBBBBBBBBBBBBBBBBBBBBBBBBBBBBB",
     "BBBBBBBBBBBBBBBBBCHBBBEBMhGBBFB+oTBBBBBBBBBBBBBBBBBBBBBBBBBBBBBBBBBBBBBBBBBBBBBTBBBBBBBBBB",
     "BBBBBBBBBBBBBBBBBkHBBBBBBBBBBBBDBBBBBBBBBBBBBBBBBBBBBBBBBBBBBBBBBBBBBBBBBBBBBBBBBBBBBBBBBB",
     "BBBBBIBBBBCBBBBBBBBBEBBBCBBDBBBBBBBBBBBBBBBBBBBBFBFBBBBBBBBBBBBBBBEBBBCBDBBBBBBBBBBBaBDB5V",
     "hLFJHiQz6AHMFhhJahmNhIkIhEkbLBPBHBCh4DhTjdWi5ahA1sAhA5saaaHBSaaaEBBBHBLaaaaaaaaaaaaaaaaacc",
     "ZBGaZBGaZBGaZBGaZBGBBh5UKBUGGivXhC"]⟩,
  ⟨["Lm", "Modifier_Letter"],
    ["1QSEMOFHBBBkFBFBueBnGBlECoNCEBfBJBDBlABlHBhmUBjfBxVBh2aBjLBzDBuQGlOhfNBhChF1RBNBQNi+fCnRBl",
     "fBuVBhLFFBjBCidD74WBhnCGoOBjSBcCjZJiQBXBjJDDCuVBWBkJBjMBVCjHEJB1gGBhNCh=AGBhKBJhsTBhAB3uQE",
     "vcDhICxGNiACBBwgMEBHBCshRhemJH9NBhifB"]⟩,
  ⟨["Lo", "Other_Letter"],
    ["lKBPBoABEEmQB5bbEEhNhABKhDCBjDBBYCKDCBQBBediZLBYhBVWhKZHLFYBGRhJhbhWDBSBHKQPEICCCWBHBBDEDB",
     "QBNCBDOCKBIGECCWBHBCBCBCfEBBTDQJBDBWBHBCBFDBSBPCXBLICCCWBHBCBFDBeCBDPBRBBGDDBEDCBBBCDCDDDM",
     "WBhUIBDBXBQDBaDCBCCeBEIBDBXBKBFDBfCBCPCRJBDBhJCBQBFDIDYGFSDYBJBBCHhahQBCMGhbCBBBFBYBBBKBCJ",
     "BCFXEhABhfIBhEbFjThLUBQGEEDBDCHDENMBjRqJBECHBBBEChJBEChBBECHBBBECPBhZBECiDhFQjRzMCRBaFiLGI",
     "HSNTOSONBDPhUhIBiDhDBhVHFChCBBFiGKfhReCFLhMEahWXJhVlQhPRIhWeNCKhMahEhJDKejREBGBCDBhhaEi=Xh",
     "YYXJHBHBHBHBHBHBHBHxHBhVBEiWIBBiaEBFhLBieRhAhQQwAmuAiA0wVBhjXiDhIIoMEQKCiCBhRiGlJBjHBDHBDB",
     "EBXdhUOhSheGDBBCLcKXZdHhPhNFCJKFBhJXDBIUQBGDBDhSBBDCCFCBBBYCDLHBOGCGCGJHBHkRhDdq9EMXEhRooE",
     "rOCjKiDBBKBNBFBBBCBCBjMhBrLSiAChWhIMjUFBkHjJKBhNCfDGCGCGCDhDMBaBTBCBPCOhCjbsFdDhRhPhANUBIG",
     "hGKeChEEIkAiOjChIIhUichUMpXJWKIkYGCBBhMBCDBCXKXJfiBTBCKWKaiGhYGCiABPEBDBdhKdDdhDIBcbhWKWKT",
     "NSjOiJlXhEhGEBBpQhKGCQDhbdKBIWhKShOVbXMhVhZCCBNhNhAZahEdBCBIhDDBMhQOEVBBBhDSBZTChfHBBBEBPB",
     "KHhPhGICCCWBHBCBFDBSBMFeKBBCBBhGBBZBBBhMhVSEUDehQUCBBlYhPhJEhEhQUBhbhLNBiHbhFHlZhMmTICBCIB",
     "CBYPBBBieIChHQBBBcBKhIHBVBLhOTBSiJmHhBfJBhFRBhRejQHBCBhGVBZGBCBhAOBqHTPBBNBhCjcBiP8anGmEiy",
     "MjBPhhQRGZj8bFyHm1Zeh3CxZHfRiPReShQhTVFTtThIsViLFBlPl=YIhmWhJKo3XpDPBdDCBOEIsMioEjLFNDJHKo",
     "zQBvVhNhBBqBeShMvEbnFeCBvPHBEBCBPBmFhpbEBbBCBBCBBKBEBBBBGBEBBBBBBDBCBBCBBBBBBBBBBCBBCEBHBE",
     "BEBBBKBRFDBFBRkqEhp3AhAkhaGmeCl0COnpRPzOitCwehvCk6LFkjA"]⟩,
  ⟨["Lt", "Titlecase_Letter"], ["uFBCBCBhGBnsVIIIIIMBPBhPB"]⟩,
  ⟨["Lu", "Uppercase_Letter"],
    ["iBajFXBHhBBBBBBBBBBBBBBBBBBBBBBBBBBBBBBBBBBBBBBBBBBBBBBBBBBBBBBBBCBBBBBBBBBBBBBBBCBBBBBBBB",
     "BBBBBBBBBBBBBBBBBBBBBBBBBBBBBBBBBBBBBBCBBBBDCBBBCBDCEBCBDDCBCBBBBBCBBCBBCBDBBBCDBHBCBCBCBB",
     "BBBBBBBBBBBBBCBBBBBBBBBBBBBBBBBCBCBBDBBBBBBBBBBBBBBBBBBBBBBBBBBBBBBBBBBBBBBBBBBBBBBBBBBBBB",
     "BBBBBHCBCCBBEBBBBBBBBpBBBBDBIBGBBDBBBCBRBJhDBCDDBBBBBBBBBBBBBBBBBBBBBBBFBCBBCChThQBBBBBBBB",
     "BBBBBBBBBBBBBBBBBBBBBBBBBJBBBBBBBBBBBBBBBBBBBBBBBBBBBBBBBBBBBBBBBBBBBBBBBBBBBBBBCBBBBBBBBB",
     "BBBCBBBBBBBBBBBBBBBBBBBBBBBBBBBBBBBBBBBBBBBBBBBBBBBBBBBBBBBBBBBBBBBBBBBBBBBBBBBBBBBBBBBBBB",
     "BBBBBBBBBChGi6JhGBBFB2SiWikTBGhLCDqABBBBBBBBBBBBBBBBBBBBBBBBBBBBBBBBBBBBBBBBBBBBBBBBBBBBBB",
     "BBBBBBBBBBBBBBBBBBBBBBBBBBBBBBBBBBBBBBBBBBBBBBBBBBBBBBBBBBBBBBBBBBBBBBBBBBBBBBBBBBBBBBBBBB",
     "BBBBBJBBBBBBBBBBBBBBBBBBBBBBBBBBBBBBBBBBBBBBBBBBBBBBBBBBBBBBBBBBBBBBBBBBBBBBBBBBBBBBBBBBBB",
     "BBBBBBBBBBBBBJIIGKIIIIGLBBBBBBBIIiIEMEMEMFLEoGBEBDDCDCBDFGBBBBBBECEKCFBhdBizchQhQBBDCBBBBB",
     "BEBBCBIDBBBBBBBBBBBBBBBBBBBBBBBBBBBBBBBBBBBBBBBBBBBBBBBBBBBBBBBBBBBBBBBBBBBBBBBBBBBBBBBBBB",
     "BBBBBBBBBBBBBBBBIBBBEB+qNBBBBBBBBBBBBBBBBBBBBBBBBBBBBBBBBBBBBBBBBBBBBBTBBBBBBBBBBBBBBBBBBB",
     "BBBBBBBBkHBBBBBBBBBBBBBDBBBBBBBBBBBBBBBBBBBBBBBBBBBBBBBBBBBBBBBBBBBBBBBBBBBBBBBBBBBBBKBBBB",
     "CBBBBBBBBEBBBCBBBDBBBBBBBBBBBBBBBBBBBBFBFBBBBBBBBBBBBBBBEBBBCDBFBBBBBBBYB15LahmFhIkIhEkcLB",
     "PBHBCh3KhTkdWi5ahA1sAhA5tAaaaaaaBBCCBCCCEBIaaaCBECIBHbCBEBFBBDHbaaaaaaaaaaaeZhBZhBZhBZhBZh",
     "BBkpVhC"]⟩,
  ⟨["Mc", "Spacing_Mark"],
    ["ioDBhXBCDIEBChSChaDGCCCKBhLBhaDiCBhaDIBBChVChaBBBGCCCKBjGCBCDDBDKBhJDhdEhdChaBBFCCBCJCcBOC",
     "haDFDBDKBhKCiLDGISCqKChfBlLCEBGBCCZCKDCHVCCGCBKDhzYBeBkBBHIBCqaECDECBGnAChaBBBJBBCIGkRBhQB",
     "FBBFBChdBeBECCBhcBCDBBDChQIIClLBVBk5WC9=TCCBiYChSQkOChPBhQCECCDjOCCCYBhNBBBjNBCCFBnNCBCBCB",
     "B5gTBBBjfBhNDECjTBYChbBhQDJCNBidDDCBBlKDfChaCBECCCDJBKCiUDHBCBBEBCBBjFDICDBjKDGBBECBnNDGEC",
     "BjRDICBBjNBBCGBjHBBCEBoFDJBnXGBCEBCBBBkODIEEBiUBdCheBsXBOBjKBHBCBmVFECBBqeCMBhQCICBBwvIDjx",
     "EhXjIC4rTCGG"]⟩,
  ⟨["Me", "Enclosing_Mark"], ["hkIClxUBhweEBDhhsLD"]⟩,
  ⟨["Mn", "Nonspacing_Mark"],
    ["4AjQoTFoJhNBBBCBCBBiILhQVQBjFHCGCCBEhDBebibLhaJJBYEBJBDBFhLDhbJhKYBhAhXBBBEIEBDHKCdBhaBEEI",
     "BUCaBCChZBECECCDDBeCDBLChZBEFBCEBUCWGBBhaBCBBEIBHCLCeBhdBMBhSBDBhXBBDFDBEHCLCdBhaBCBGBFCUC",
     "cChZCEEIBUCdBiIBHDBBiaBCHMIjCBCJLHiJCbBBBBBhXOBFBCFLBhEJBjGEBGBCCCZCEDQENBCCGBPB1fD9SDdCeC",
     "eCiACBHIBCLJBhNDBBjVChCBjWDECJBGDmbCCBhaBBHBBBBCIGKCBhQOBQhREhQBBFBBFBhIJMChAECCBDhYBBCDBB",
     "DhaICCkYDBNBHEBGBDCmGiA2QNEBDMi=eDkNBjAhAxKEjLC9uUBEKhACiQCoQBDBEBZCFBkXCaSNBhGIZLhODhQBCE",
     "CChHBiDGCCCCMBIBhPBhTBBDCCFCBBhKCIBnOBCBEBz5QB3BQQQ+NBnCBkVFh0GDBCFEhIDEBlFCxdEiBFpdCiPEiG",
     "LhREjbBhWPhJBCCKDhRECCHBhdDhEFBIheBMChUJKECBifDCBBCGBCBkdBDIVChZCDBhFHDFiGGNBBBBBOCiVICDBB",
     "XBiUGBBECBCnOEGCBCbCiVICBBCjKBBBCGBBjFBBBCEBFoDJBCoACBBEBkQECCEBhAKhIGCEIBJGCDhONBCsWHBGBB",
     "iSWCHBCBCjaGDBBCBHBBiICDBBBqbCLChUFFBBBXBlnFBGPrmIMDDiuAFhbHhgYBhfEiRBzlYCkzBhOCXxADRICHeE",
     "kUDh9bhXEhSIBOBWFBPhqQHBRCHBCBFjEBlAHrXBhdEvcEneC3AHjNH4l9VnQ"]⟩,
  ⟨["Nd", "Decimal_Number", "Digit"],
    ["hQKhxGKkGKmGKscKjWKjWKjWKjWKjWKjWKjWKjWKjWKjAKjWKiGKoWKiGKh6GKhGKpMKkAKlGKGKlWKiWKkGKGKhiu",
     "GK1GKhGKmGKWKiWKsWK04WKhsGKikGKGK4cKkAKhcKkQKoWKqWKjWKrWKjGKGUiMKtGKjGK0WKiWKnWKiGKtGKwuWK",
     "ipGKiWKkGKwWK37WKi2UhSiqAKtGKvWKnXK6VKk0WK"]⟩,
  ⟨["Nl", "Letter_Number"], ["l3ODizPhDCEjzeBZJOD91LK2yQhVuMBIBkGFohKjP"]⟩,
  ⟨["No", "Other_Number"],
    ["lSCFBCDipVGrYGjYDkFHmZHRJtRKhhVUhjTKvABh0VBDGGKmGQhJB2WhciOWzWehrJBhkUEkKKeIBPhAKhHP9rQG2m",
     "RhNiBERCqVbhEEhpUIZHhHJiLFWGlACCQChOiAJhUCeDiLFjIIYIhJHqKGrAfkeKhKEjQHkGUrbUhqFCtOJ7HT6TVy",
     "8GH4eX5hJUMUjMZlqOJ9BhbBDBEiMhNBP+CN"]⟩,
  ⟨["Pc", "Connector_Punctuation"], ["ifBn+fCTBh3ueCYDnPB"]⟩,
  ⟨["Pd", "Dash_Punctuation"],
    ["hNBhqcBhTBjyBBhgFBigJGjwBBCBfCEBcBteBTBjPBhzsQChFBKBlJBjzABpeB"]⟩,
  ⟨["Pe", "Close_Punctuation"],
    ["hJBhTBfBj1dBBBh6eBitJBhXBPBzaBBBeBhheBBBBBBBBBBBBBiQBhABBBBBBBBBsUBBBBBBBBBBBBBBBBBBBBBiAB",
     "BBhBBhhFBBBBBBBhMBBBBBBBtMBBBBBBBBBDBBBBBBBCChzoeBmZBdBBBBBBBBBBBBBBBDBRBBBBBlKBhTBfBCBCB"]⟩,
  ⟨["Pf", "Final_Punctuation"], ["lbBn6dBDBcBjuIBBBEBCBPBDB"]⟩,
  ⟨["Pi", "Initial_Punctuation"], ["lLBn7MBCCCBZBjuIBBBEBCBPBDB"]⟩,
  ⟨["Po", "Other_Punctuation"],
    ["hBDBDCBBBBCKCDCbBiEBFBOCHB1eBIBuSGhJBhWBCBCBhMCUCBCNBBDiKEjGBhLOnJDhWPfBoFCKBkMBjYBjZBsGBM",
     "BrPBiaBKClIPBBjQBiKFECjPGlLBzEJ4FBjcDiHCkdDBDhFGBEpZCmYCkAHBGlACKHcDjcEhbFheCiAILB6CCIIIJC",
     "ECDDLBBBKjkaEBCjQBkPCEDCBCJBCBBCCKFBKCEBBBNCDtMDhZBldB9gCCoNDjDBKBjTGrcEiWChIDBBhRChPBjBNQ",
     "CjcEjeCQCnZB0xEHCBWBUCCEDDBEHDGBBCkVDBDCBBBBCKCDCbBhEBCCsaD0cBhQBseB3HBmHBfBoQJhGBjQHiCHiZ",
     "E9YFhMEldHjNCBEjeEhQCiPEEBNBBDiYGjLBpKCBCjSFKCBBjIBnaXjJDcNiMBkCDncBoIDkbBicIiTDBFidKmXBif",
     "FhKC0FCiKNlPBhjQFi7cCuzbCkFBiBFIBxIDpHEqHBzlcBnvHFi7TB6eC"]⟩,
  ⟨["Ps", "Open_Punctuation"],
    ["hIBhSBfBj1eBBBh6eBireBDBhGBhXBPBzaBBBeBhheBBBBBBBBBBBBBiQBhABBBBBBBBBsUBBBBBBBBBBBBBBBBBBB",
     "BBiABBBhBBhhFBBBBBBBZBSBBBBBBBtMBBBBBBBBBDBBBBBBBCBhzpBBmXBdBBBBBBBBBBBBBBBDBRBBBBBlKBhSBf",
     "BDBCB"]⟩,
  ⟨["Sc", "Currency_Symbol"],
    ["hEBjdEhnJBjbBvSCvSCHBnVBoHByFBisbBimEhBhh7XB1uDBjMBkaBmbCDCn=WEhw4eBitQB"]⟩,
  ⟨["Sk", "Modifier_Symbol"],
    ["ieBBBiHBGBEBDBwJEMOFHBBBRjVBOChoCBl5UBBDLDNDNDNCkkcC9zDXJCjHC+QBOC0iGR7bBBBlCBh9gXF"]⟩,
  ⟨["Sm", "Math_Symbol"],
    ["hLBQDhdBBBhNBEBhFBfB3eBwPDmxbBNBhHDNDkLBhHFGBiEFFCEBCBCBHBfCCBBBfoMhACiaBeZhIGuVBJBhWIjPBq",
     "QFCfKQoAkDWhfEhACoChQVCGhz+cB5YBBDlEBQDhdBBBkDBGEjtBChypRBZBfBZBfBZBfBZBfBZBl5MC"]⟩,
  ⟨["So", "Other_Symbol"],
    ["lGBCBEBBB+RBoKCjfCmOBKBTCnXBwDBrVBkCGBBkEBmPBhJBsHDPBBDCGUBBBBBkFIBGBCFEmFC3QK2TB2SBkdhCrB",
     "KJJhsDCBEBCKBBCGGBBBBBBEBLCOBBCBBhaCJFCEBCBCBHBfCCBBBfoMIEUCHCiRBeZhIGiIWLiRiOWlXBJBhWIjPB",
     "nYhMhMiAoAwAhQVCGhHChABjJnFGrFChOaBiZMmWaQEBNCMBVCGCqQCEKhAhGJBQfLeIBPhAKhHPqAmuAiA10QhX7B",
     "EKCBBxdD02GQjfBhNDvEBDBECNCpZJhZRCDBNDBhPhNhzaCyPBjjWBikVIERy6KEFB0qWBj7DnQQtUkcjUhcnWKhHC",
     "hcFDWCHeEhdViCDBlaiXhlJwAhXEhSIBOBCh2IBi6cBkBB2RhMEjEMPCPBPBhFXlBhYdNhMEJHCOGkanbF2YERDNDj",
     "XEifGMEBPMEhYIKGhIIeCMECheqUMOCNDKFhYHPCLGJHkTBic"]⟩,
  ⟨["Zl", "Line_Separator"], ["ohIB"]⟩,
  ⟨["Zp", "Paragraph_Separator"], ["ohJB"]⟩,
  ⟨["Zs", "Space_Separator"], ["hABjfBlufBirfLhEBhPBj9AB"]⟩]

end ParamSchema.Unicode
