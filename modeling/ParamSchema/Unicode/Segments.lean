import ParamSchema.Unicode.NamedSet

/-!
The parts that characters play in the division of text into user-perceived characters, words and
sentences.
-/

namespace ParamSchema.Unicode

/-- What characters are to the edges of user-perceived characters. -/
def graphemeBreaks : List NamedSet := [
  ⟨["CN", "Control"], ["AKBCBSifhBNBhrOBkvRBh=cBCCYHhRQh30PBnQMthUQhijAElmPI4r0FhAjAkAnQjwQ"]⟩,
  ⟨["CR"], ["NB"]⟩,
  ⟨["EX", "Extend"],
    ["4AjQoTHoHhNBBBCBCBBiILhQVQBjFHCGCCBEhDBebibLhaJJBYEBJBDBFhLDhbJhKYBhAhXBBBEIEBDHKCdBhaBBBC",
     "EIBJBKCaBCChZBECECCDDBeCDBLChZBEFBCEBUCWGBBhaBBCBEIBHDKCeBhbBBBMBJBhIBDBhXBBDFDBEHCLCdBhaB",
     "CBCBDBFCHCLCcChZCBBCEIBJBKCdBiIBEBCDBBIBiRBCHMIjCBCJLHiJCbBBBBBhXOBFBCFLBhEJBjGEBGBCCCZCED",
     "QENBCCGBPB1fD9SDdCeCeCiACBHIBCLJBhNDBBjVChCBjWDECJBGDmbCCBhaBBHBBBBCIGKCBhQfhREhQHBBFBhIJM",
     "ChAECCBDhYBBCDBBDhaICCkYDBNBHEBGBDCmGiAwMBmDhBi=eDkNBjAhAxKGjJC9uUEBKhACiQCoQBDBEBZCFBkXCa",
     "SNBhGIZLhODhQBCECChHBiDGCCCCMBIBhPBhTBBDCCFCBBhKCIBnOBCBEBz5QB3BQQQrOCydBnCBkVFh0GDBCFEhID",
     "EBlFCxdEiBFpdCiPEiGLhREjbBhWPhJBCCKDhRECCHBhdDhEFBIheBMChUJKECBifDCBBCGBCBkdBDIVChZCBBBBWB",
     "OHDFiDBCGBBCBBDEDBBOCiVICDBBXBiRBCGBBCBBCBCnLBCEGCBCbCiVICBBCjKBBBCGBBjFBBBCEBFoDJBCnVBKCB",
     "BEBkQECCEBhAKhIGCEIBJGCDhONBCsWHBGBBiSWCHBCBCjaGDBBCBHBBiICDBBBqbCLChUFFBBBXBlnFBGPrmIMDDi",
     "uAFhbHhgYBhfEiRBzlYCkzBhOCXweBBDEFIICHeEkUDh9bhXEhSIBOBWFBPhqQHBRCHBCBFjEBlAHrXBhdEvcEneC3",
     "AHjNHi1QF4jhAjAkAnQ"]⟩,
  ⟨["L"], ["koAjAhmgAd"]⟩,
  ⟨["LF"], ["KB"]⟩,
  ⟨["LV"],
    ["hrgABbBbBbBbBbBbBbBbBbBbBbBbBbBbBbBbBbBbBbBbBbBbBbBbBbBbBbBbBbBbBbBbBbBbBbBbBbBbBbBbBbBbBb",
     "BbBbBbBbBbBbBbBbBbBbBbBbBbBbBbBbBbBbBbBbBbBbBbBbBbBbBbBbBbBbBbBbBbBbBbBbBbBbBbBbBbBbBbBbBb",
     "BbBbBbBbBbBbBbBbBbBbBbBbBbBbBbBbBbBbBbBbBbBbBbBbBbBbBbBbBbBbBbBbBbBbBbBbBbBbBbBbBbBbBbBbBb",
     "BbBbBbBbBbBbBbBbBbBbBbBbBbBbBbBbBbBbBbBbBbBbBbBbBbBbBbBbBbBbBbBbBbBbBbBbBbBbBbBbBbBbBbBbBb",
     "BbBbBbBbBbBbBbBbBbBbBbBbBbBbBbBbBbBbBbBbBbBbBbBbBbBbBbBbBbBbBbBbBbBbBbBbBbBbBbBbBbBbBbBbBb",
     "BbBbBbBbBbBbBbBbBbBbBbBbBbBbBbBbBbBbBbBbBbBbBbBbBbBbBbBbBbBbBbBbBbBbBbBbBbBbBbBbBbBbBbBbBb",
     "BbBbBbBbBbBbBbBbBbBbBbBbBbBbBbBbBbBbBbBbBbBbBbBbBbBbBbBbBbBbBbBbBbBbBbBbBbBbBbBbBbBbBbBbBb",
     "BbBbBbBbBbBbBbBbBbBbBbBbBbBbBbBbBbBbBbBbBbBbBbBbBbBbBbBbBbBbBbBbBbBbBbBbBbBbBbBbBbBbBbBbBb",
     "BbBbBbBbBbBbBbBbBbBbBbBbBbBbBbBbBbBbBbBbBbBbBbBbBbBbBbBbBbBbBbBbBbBbBbBbBbBbBbBbB"]⟩,
  ⟨["LVT"],
    ["hrgBbBbBbBbBbBbBbBbBbBbBbBbBbBbBbBbBbBbBbBbBbBbBbBbBbBbBbBbBbBbBbBbBbBbBbBbBbBbBbBbBbBbBbB",
     "bBbBbBbBbBbBbBbBbBbBbBbBbBbBbBbBbBbBbBbBbBbBbBbBbBbBbBbBbBbBbBbBbBbBbBbBbBbBbBbBbBbBbBbBbB",
     "bBbBbBbBbBbBbBbBbBbBbBbBbBbBbBbBbBbBbBbBbBbBbBbBbBbBbBbBbBbBbBbBbBbBbBbBbBbBbBbBbBbBbBbBbB",
     "bBbBbBbBbBbBbBbBbBbBbBbBbBbBbBbBbBbBbBbBbBbBbBbBbBbBbBbBbBbBbBbBbBbBbBbBbBbBbBbBbBbBbBbBbB",
     "bBbBbBbBbBbBbBbBbBbBbBbBbBbBbBbBbBbBbBbBbBbBbBbBbBbBbBbBbBbBbBbBbBbBbBbBbBbBbBbBbBbBbBbBbB",
     "bBbBbBbBbBbBbBbBbBbBbBbBbBbBbBbBbBbBbBbBbBbBbBbBbBbBbBbBbBbBbBbBbBbBbBbBbBbBbBbBbBbBbBbBbB",
     "bBbBbBbBbBbBbBbBbBbBbBbBbBbBbBbBbBbBbBbBbBbBbBbBbBbBbBbBbBbBbBbBbBbBbBbBbBbBbBbBbBbBbBbBbB",
     "bBbBbBbBbBbBbBbBbBbBbBbBbBbBbBbBbBbBbBbBbBbBbBbBbBbBbBbBbBbBbBbBbBbBbBbBbBbBbBbBbBbBbBbBbB",
     "bBbBbBbBbBbBbBbBbBbBbBbBbBbBbBbBbBbBbBbBbBbBbBbBbBbBbBbBbBbBbBbBbBbBbBbBbBbBbBbBb"]⟩,
  ⟨["PP", "Prepend"], ["hwAGmXBhRBsACiQBhjLBig7OBPBnUCh7bBBBnYBiJG1cBtbB"]⟩,
  ⟨["RI", "Regional_Indicator"], ["j8vGa"]⟩,
  ⟨["SM", "SpacingMark"],
    ["ioDBhXBCDIEBChSChbCGCCChWBhaDiCBhaDIBBChVChcBGCCCjSBBCDDBDhUDhdEhdChaBBCBCCCBChHBOChbCFDBD",
     "hVCiMCGHTChfBjfBkKChfBlRBJCZChMBh0QBeBkBBHIBCqaECDECBGnAChaBBBVGkRBhWBBFBChdBeBECCBhcBCDBB",
     "DChQIIClLBVBhi5LCCBiYChSQkOChPBhQCECCDjOCCCYBkdBCCFBnNCBCBCBB5gTBBBjfBhNDECjTBYChbBhQDJCNB",
     "idDDCBBlKDfChbBBECCCDUCiVCPBBCjHDICDBjLCGBBCBBCBnOCGECBjRDICBBjNBBCGBjHBHBoFDJBnYFBCEBCBBB",
     "kODIEEBiUBdCheBsXBOBjKBHBCBmVFECBBqeCMBhQCICBBwvIDjxEhXjIC4rUBGB"]⟩,
  ⟨["T"], ["ktIiYhxuLhR"]⟩,
  ⟨["V"], ["krAiIhxwIX"]⟩,
  ⟨["ZWJ"], ["ogNB"]⟩]

/-- What characters are to the edges of words. -/
def wordBreaks : List NamedSet := [
  ⟨["CR"], ["NB"]⟩,
  ⟨["DQ", "Double_Quote"], ["hCB"]⟩,
  ⟨["EX", "ExtendNumLet"], ["ifBn+PBPCTBh3ueCYDnPB"]⟩,
  ⟨["Extend"],
    ["4AjQoTHoHhNBBBCBCBBiILhQVQBjFHCGCCBEhDBebibLhaJJBYEBJBDBFhLDhbJhKYBhBhWDBSBHKCdDhYBBHCCCDJ",
     "BKCaBCDhYBBFECCDDBeCDBLDhYBBIBDBDUCWGBDhYBBHCCCDHDKCeBhbFDDBEJBhIFhXBBHBDBEHCLCdDhYBBHBDBE",
     "HCLCPBMEhXCBHBDBEJBKCdDiGBEGBBBISChdBCHMIjCBCJLHiJCbBBBBBEChRUBCFLBhEJBjEUXEEDBDCHDENMBBKE",
     "1fD9SEcDdCeCiAhAJBhNDBBjVChCBjWMEMmbFhZKBdCBhQfhRFhPRhGJMDeNhYOhQUkYDBVEBGBCDmGiAwMBmDhBi=",
     "eDkNBjAhAxKGjJC9uUEBKhACiQCoQBDBEBXFEBiTChSSaSNBhGIZNhMEhPOhEBiDOMBIChNDhSBBDCCFCBBhJFFCnM",
     "IBCz5QB3BQQQrOCydBnCBkVFh0GDBCFEhIDEBlFCxdEiBFpdCiPEiGLhREjaDhVPhJBCCKEhNLHBhdDhEOQChMBMDh",
     "QOIEBCicMGBCBkdMVEhXCBHCCCDJBKCCHDFiDJBBCBBEBFBBOCiSSXBiRUnLHCJbCiSRjKNjFPoAPnVGBCCEBBBCkN",
     "HCHDBcKhIHBEIBJLhOQsVIBIiSWBOjaGDBBCBHBBiCFBCBFqbEJCBBhQHDFXBlnFBGPrmISiuAFhbHhgYBBhXHEiRB",
     "LCzlLCkzBhOCXweFDGIICHeEkUDh9bhXEhSIBOBWFBPhqQHBRCHBCBFjEBlAHrXBhdEvcEneC3AHjNHi1QF4jhAjAk",
     "AnQ"]⟩,
  ⟨["FO", "Format"], ["lNBhqSGWBmABhRBsACiQBj5LBh=fCaFhRFBKh30PBnZDkmBBPBo7CQhijAElmPI4r0GB"]⟩,
  ⟨["HL", "Hebrew_Letter"], ["huQbEEh9pKBBKBNBFBBBCBCBK"]⟩,
  ⟨["KA", "Katakana"], ["shRFjFCDibBEnQQmQhPBiYhzgOhYhsiSEBHBCBBofDhSBOE"]⟩,
  ⟨["LE", "ALetter"],
    ["iBaGahPBKBEBFXBfBvAGhCjQFBCCEBBGBBDBBBUBiTBkLIlGBhGCEBBBhJBBjIBhMhLhDCBjDBBPCHCKDCBQBBediZ",
     "LBYhBJCEBFWEBJBDBXZHLFYBGRhKhahWDBSBHKPQEICCCWBHBBDEDBQBNCBDOCKBIGECCWBHBCBCBCfEBBTDQJBDBW",
     "BHBCBFDBSBPCXBLICCCWBHBCBFDBeCBDPBRBBGDDBEDCBBBCDCDDDMWBhUIBDBXBQDBaDCBCCeBEIBDBXBKBFDBfCB",
     "CPCRJBDBhJCBQBFDIDYGFSDYBJBBCHpZBhfIBhEbFoThGBBFBChLBqNBECHBBBEChJBEChBBECHBBBECPBhZBECiDh",
     "FQQiWCGDzMCRBaFiLDLHSNTOSONBDlPiZHFChCBBFiGKfnBXnOhPRIhWeNCKhMahEhJDKhECLFhLCDhJEBGBCDBFmA",
     "iAoWCGChGCGCIBBBBBBBfChVBHBBDDBHDECGENFDBHjUBNBQNjFBEBCKBBDFGBBBBBBEBLCEFFEBRhJ5NhUh4WnFGE",
     "DCMhGBBFBChYHBQXJHBHBHBHBHBHBHBHiQBuVBhVCmIhLBieRhA7yAhkNiDhOCoNDQKCUhPQfCiQYmGCCBBBIVQBDB",
     "EBXdhUOhSheGDBBCLcKXZdHhPcBhQhJXDBIkULHDMGCGCGJHBHBhaGjTdq9EMXEhRo4EHMFhYjChBrLSiAChWhIMjU",
     "FBkHhEaGaiFfDGCGCGCDhDMBaBTBCBPCOhCjbiFhVoLdDhRhPhANeFhGKeChEEIBFhKkeShEEhEEhIIhUMLBPBHBCB",
     "LBPBHBCDhUMpXJWKIYGBhKBJiFGCBBhMBCDBCXKXJfiBTBCKWKaiGhYGCiABPEBDBdhKdDdhDIBcbhWKWKTNSjOiJh",
     "XhTNhTNhEhGcJXnahKGCQDhbdKBIWhKShOVbXMhVhZCCBNhNhAZahEdBCBIhDDBMhQOEVBBBhDSBZTChfHBBBEBPBK",
     "HhPhGICCCWBHBCBFDBSBMFeKBBCBBhGBBZBBBhMhVSEUDehQUCBBlYhPhJEhEhQUBhbhLNBqHhMjUiAfICBCIBCBYP",
     "BBBieIChHQBBBcBKhIHBVBLhOTBSiJmHhBfJBhFRBhRejQHBCBhGVBZGBCBhAOBqHTPBBNBhCjcBiP8ajGjPRmEiyM",
     "jBPhhQRGZj8bFyHm1Zeh3CxZHfRiPReShQQEfVFTtQhNmTiAkAiLFBiCNiACBBnobBr4AjLFNDJHKl7GiVBiHBCCBC",
     "CCEBMBBBHBiBBECIBHBcBEBFBBDHBqUCZBZBfBZBfBZBfBZBfBZBIh5UfGGoFhekShNKHQBqBeShMvEcnEeCBvPHBE",
     "BCBPBmFhbiEHBhlUEBbBCBBCBBKBEBBBBGBEBBBBBBDBCBBCBBBBBBBBBBCBBCEBHBEBEBBBKBRFDBFBRzUaGaGa"]⟩,
  ⟨["LF"], ["KB"]⟩,
  ⟨["MB", "MidNumLet"], ["hOBn=JCKBh3xNBlUBGB"]⟩,
  ⟨["ML", "MidLetter"], ["haBjcB2PBuXBkUBmxSBh3vLBiBBmEB"]⟩,
  ⟨["MN", "MidNum"], ["hMBOB6CBwKBkCCieBsLBmiLBh3uLBDBhbBDBlXBOB"]⟩,
  ⟨["NL", "Newline"], ["LCjYBn9CC"]⟩,
  ⟨["NU", "Numeric"],
    ["hQKhxGKBBkEKmGKscKjWKjWKjWKjWKjWKjWKjWKjWKjWKjAKjWKiGKoWKiGKh6GKhGKpMKkAKlGKGKlWKiWKkGKGKh",
     "iuGK1GKhGKmGKWKiWKsWK04WKhsGKikGKGK4cKkAKhcKkQKoWKqWKjWKrWKjGKGUiMKtGKjGK0WKiWKnWKiGKtGKwu",
     "WKipGKiWKkGKwWK37WKi2UhSiqAKtGKvWKnXK6VKk0WK"]⟩,
  ⟨["RI", "Regional_Indicator"], ["j8vGa"]⟩,
  ⟨["SQ", "Single_Quote"], ["hHB"]⟩,
  ⟨["WSegSpace"], ["hABlyfBirfHBDiUBj9AB"]⟩,
  ⟨["ZWJ"], ["ogNB"]⟩]

/-- What characters are to the edges of sentences. -/
def sentenceBreaks : List NamedSet := [
  ⟨["AT", "ATerm"], ["hOBn=VBh3xNBlbB"]⟩,
  ⟨["CL", "Close"],
    ["hCBEDhRBBBdBBBhNBPBjzeEh6dCirbIZCKChWCOCzZEdChhQGHOiPCfKsTWhfEhAChgCOOCCKYBSItLKCIBDhzoeCm",
     "XCcQCCQGlJChRBBBdBBBBCBCh94SD"]⟩,
  ⟨["CR"], ["NB"]⟩,
  ⟨["EX", "Extend"],
    ["4AjQoTHoHhNBBBCBCBBiILhQVQBjFHCGCCBEhDBebibLhaJJBYEBJBDBFhLDhbJhKYBhBhWDBSBHKCdDhYBBHCCCDJ",
     "BKCaBCDhYBBFECCDDBeCDBLDhYBBIBDBDUCWGBDhYBBHCCCDHDKCeBhbFDDBEJBhIFhXBBHBDBEHCLCdDhYBBHBDBE",
     "HCLCPBMEhXCBHBDBEJBKCdDiGBEGBBBISChdBCHMIjCBCJLHiJCbBBBBBEChRUBCFLBhEJBjEUXEEDBDCHDENMBBKE",
     "1fD9SEcDdCeCiAhAJBhNDBBjVChCBjWMEMmbFhZKBdCBhQfhRFhPRhGJMDeNhYOhQUkYDBVEBGBCDmGiAwMCmChBi=",
     "eDkNBjAhAxKGjJC9uUEBKhACiQCoQBDBEBXFEBiTChSSaSNBhGIZNhMEhPOhEBiDOMBIChNDhSBBDCCFCBBhJFFCnM",
     "IBCz5QB3BQQQrOCydBnCBkVFh0GDBCFEhIDEBlFCxdEiBFpdCiPEiGLhREjaDhVPhJBCCKEhNLHBhdDhEOQChMBMDh",
     "QOIEBCicMGBCBkdMVEhXCBHCCCDJBKCCHDFiDJBBCBBEBFBBOCiSSXBiRUnLHCJbCiSRjKNjFPoAPnVGBCCEBBBCkN",
     "HCHDBcKhIHBEIBJLhOQsVIBIiSWBOjaGDBBCBHBBiCFBCBFqbEJCBBhQHDFXBlnFBGPrmISiuAFhbHhgYBBhXHEiRB",
     "LCzlLCkzBhOCXweFDGIICHeEkUDh9bhXEhSIBOBWFBPhqQHBRCHBCBFjEBlAHrXBhdEvcEneC3AHjNH4l2VjAkAnQ"]⟩,
  ⟨["FO", "Format"], ["lNBhqSGWBmABhRBsACiQBj5LBh=cBCCaFhRFBKh30PBnZDkmBBPBo7CQhijAElmPI4r0GB"]⟩,
  ⟨["LE", "OLetter"],
    ["tbBEEmQBhEHGMaBBBkFBvEBjWbEFhMhLhDCBjDBBPCHCKDCBQBBediZLBYhBJCEBFWEBJBDBXZHLFYBGRhKhahWDBS",
     "BHKPQEICCCWBHBBDEDBQBNCBDOCKBIGECCWBHBCBCBCfEBBTDQJBDBWBHBCBFDBSBPCXBLICCCWBHBCBFDBeCBDPBR",
     "BBGDDBEDCBBBCDCDDDMWBhUIBDBXBQDBaDCBCCeBEIBDBXBKBFDBfCBCPCRJBDBhJCBQBFDIDYGFSDYBJBBCHhahQB",
     "CMHhaCBBBFBYBBBKBCJBCFBBVEhABhfIBhEbFjThLUBQGEEDBDCHDENMBiBhLCqMBECHBBBEChJBEChBBECHBBBECP",
     "BhZBECiDhFQjRzMCRBaFiLDLHSNTOSONBDPhUhDBEBiDiZHFChCBBFiGKfhReCFLhMEahWXJhViSBidhPRIhWeNCKh",
     "MahEhJDKhEShLCDhJEBGBCDBhhaEiHDCEi9HhYHBQXJHBHBHBHBHBHBHBHiQBuVDZJHFCFEiWGDBiaBEFhLBieRhAh",
     "QQwAmuAiA10NiDhOCoNDQKCiCBQBhAiQhHJjIBGBjHBDHBDBEBXdhUOhSheGDBBCLcKXZdHhPcBQFBKKFBhJXDBIUX",
     "DBDhSBBDCCFCBBBYDCLHDMGCGCGJHBHkRhDdq9EMXEhRooErOCjKiDBBKBNBFBBBCBCBjMhBrLSiAChWhIMjUFBkHj",
     "JhYCfDGCGCGCDhDMBaBTBCBPCOhCjbiFhVoLdDhRhPhANeFhGKeChEEIBFjaiOjChIIhUichUMpXJWKIZCjdGCBBhM",
     "BCDBCXKXJfiBTBCKWKaiGhYGCiABPEBDBdhKdDdhDIBcbhWKWKTNSjOiJlXhEhGGfBoQhKGCQDhbdKBIWhKShOVbXM",
     "hVhZCCBNhNhAZahEdBCBIhDDBMhQOEVBBBhDSBZTChfHBBBEBPBKHhPhGICCCWBHBCBFDBSBMFeKBBCBBhGBBZBBBh",
     "MhVSEUDehQUCBBlYhPhJEhEhQUBhbhLNBiHbhFHlZhMmTICBCIBCBYPBBBieIChHQBBBcBKhIHBVBLhOTBSiJmHhBf",
     "JBhFRBhRejQHBCBhGVBZGBCBhAOBqHTPBBNBhCjcBiP8ajGjPRmEiyMjBPhhQRGZj8bFyHm1Zeh3CxZHfRiPReShQQ",
     "EfVFTtQhNsTiLFBiCNiACBBcl=YIhmWhJKo3HEBHBCBpDPBdDCBOEIsMioEjLFNDJHKozQBvVhNKHQBqBeShMvEcnE",
     "eCBvPHBEBCBPBmFkGBhlUEBbBCBBCBBKBEBBBBGBEBBBBBBDBCBBCBBBBBBBBBBCBBCEBHBEBEBBBKBRFDBFBRkqEh",
     "p3AhAkhaGmeCl0COnpRPzOitCwehvCk6LFkjA"]⟩,
  ⟨["LF"], ["KB"]⟩,
  ⟨["LO", "Lower"],
    ["jBahPBKBEBhEYBIBBBBBBBBBBBBBBBBBBBBBBBBBBBBBBBBBBBBBBBBBBBBBBBBBBBBBBBCBBBBBBBBBBBBBBBCBBB",
     "BBBBBBBBBBBBBBBBBBBBBBBBBBBBBBBBBBBBBBBBBBBCBBBBDCBBBCBDCEBCBDDCBCBBBBBCBBCBBCBDBBBCCCDGBC",
     "BCBBBBBBBBBBBBBBBBCBBBBBBBBBBBBBBBBBCCBBBDBBBBBBBBBBBBBBBBBBBBBBBBBBBBBBBBBBBBBBBBBBBBBBBB",
     "BBBBBBBBBBHCBCCBBEBBBBBBBBiFBhEHCeFkMBBBDBCESBbhDBCDDBBBBBBBBBBBBBBBBBBBBBBBFBBCBCChThQBBB",
     "BBBBBBBBBBBBBBBBBBBBBBBBBBBBBBBJBBBBBBBBBBBBBBBBBBBBBBBBBBBBBBBBBBBBBBBBBBBBBBBBBBBBBCBBBB",
     "BBBBBBBBCBBBBBBBBBBBBBBBBBBBBBBBBBBBBBBBBBBBBBBBBBBBBBBBBBBBBBBBBBBBBBBBBBBBBBBBBBBBBBBBBB",
     "BBBBBBBBBBBBBBBhQhJi7TB3bGikCJBBjVmAiBBBBBBBBBBBBBBBBBBBBBBBBBBBBBBBBBBBBBBBBBBBBBBBBBBBBB",
     "BBBBBBBBBBBBBBBBBBBBBBBBBBBBBBBBBBBBBBBBBBBBBBBBBBBBBBBBBBBBBBBBBBBBBBBBBBBBBBBBBBBBBBBBBB",
     "BBBBBBJBBBBBBBBBBBBBBBBBBBBBBBBBBBBBBBBBBBBBBBBBBBBBBBBBBBBBBBBBBBBBBBBBBBBBBBBBBBBBBBBBBB",
     "BBBBBBBBBBBBBBJIGKIIIIGKIIIIOCIIIIIIFBCGBDDBCIECCIIKDBCjZBNBQNjNBDCDBbBEBEBCCIEEBhBQEB6Lah",
     "6GhQBBDCBBBBBBEBBCBIDBBBBBBBBBBBBBBBBBBBBBBBBBBBBBBBBBBBBBBBBBBBBBBBBBBBBBBBBBBBBBBBBBBBBB",
     "BBBBBBBBBBBBBBBBBBBBBBBBBBBBBCHBBBEBMhGBBFB+oTBBBBBBBBBBBBBBBBBBBBBBBBBBBBBBBBBBBBBBBBBBBB",
     "BTBBBBBBBBBBBBBBBBBBBBBBBBBBDkFBBBBBBBBBBBBDBBBBBBBBBBBBBBBBBBBBBBBBBBBBBBBBBBBBBBBBBBBBBB",
     "BBBBBBBBBBBBBBBKBBBBCBBBBBBBBBEBBBCBBDBBBBBBBBBBBBBBBBBBBBFBFBBBBBBBBBBBBBBBEBBBCBDBBBBBBB",
     "BBBBWDBBBD5VhLBOGiQz6AHMFhhJahmNhIkIhEkbLBPBHBCuDBCDBhKBJhoFhTjdWi5ahA1sAhA5saaaHBSaaaEBBB",
     "HBLaaaaaaaaaaaaaaaaaccZBGaZBGaZBGaZBGaZBGBBh5UKBUGGoFheilUhC"]⟩,
  ⟨["NU", "Numeric"],
    ["hQKhxGKBCkDKmGKscKjWKjWKjWKjWKjWKjWKjWKjWKjWKjAKjWKiGKoWKiGKh6GKhGKpMKkAKlGKGKlWKiWKkGKGKh",
     "iuGK1GKhGKmGKWKiWKsWK04WKhsGKikGKGK4cKkAKhcKkQKoWKqWKjWKrWKjGKGUiMKtGKjGK0WKiWKnWKiGKtGKwu",
     "WKipGKiWKkGKwWK37WKi2UhSiqAKtGKvWKnXK6VKk0WK"]⟩,
  ⟨["SC", "SContinue"], ["hMCMBhpCBlOCvKBkgJBFBigKCj=MBhzwOCBBdCdCDBCBKBlICMBiJB"]⟩,
  ⟨["SE", "Sep"], ["kFBn9CC"]⟩,
  ⟨["SP", "Sp"], ["JBBCTBjfBlufBirfLhEBhPBj9AB"]⟩,
  ⟨["ST", "STerm"],
    ["hBBdBhqJBkTDlUBhLDnWBhdBBBDCpFCh3EC4WBEC4FBmGCmMBFBpaCrCElCCKCCCdDlbCiBC9cCJDjvEBNBWCtNB9n",
     "cBoOCnDBDBreCiWCifBkYCkTDkQCnZB0zKClJBdBiBBi3UChndFhMEldCjVEjfDkBCGBQCiYCBCjMBpKCjVCrVCFPj",
     "JCnZDwFBBBnbCiXCtEC1UCiKCy5JCkFBiBCLBxJCpIBzwGBnvIBi7WB"]⟩,
  ⟨["UP", "Upper"],
    ["iBajFXBHhBBBBBBBBBBBBBBBBBBBBBBBBBBBBBBBBBBBBBBBBBBBBBBBBBBBBBBBBCBBBBBBBBBBBBBBBCBBBBBBBB",
     "BBBBBBBBBBBBBBBBBBBBBBBBBBBBBBBBBBBBBBCBBBBDCBBBCBDCEBCBDDCBCBBBBBCBBCBBCBDBBBCDBHCBCBCBBB",
     "BBBBBBBBBBBBBCBBBBBBBBBBBBBBBBBCCBBBDBBBBBBBBBBBBBBBBBBBBBBBBBBBBBBBBBBBBBBBBBBBBBBBBBBBBB",
     "BBBBBHCBCCBBEBBBBBBBBpBBBBDBIBGBBDBBBCBRBJhDBCDDBBBBBBBBBBBBBBBBBBBBBBBFBCBBCChThQBBBBBBBB",
     "BBBBBBBBBBBBBBBBBBBBBBBBBJBBBBBBBBBBBBBBBBBBBBBBBBBBBBBBBBBBBBBBBBBBBBBBBBBBBBBBCBBBBBBBBB",
     "BBBCBBBBBBBBBBBBBBBBBBBBBBBBBBBBBBBBBBBBBBBBBBBBBBBBBBBBBBBBBBBBBBBBBBBBBBBBBBBBBBBBBBBBBB",
     "BBBBBBBBBChGi6JhGBBFB2SiWikTBrWBBBBBBBBBBBBBBBBBBBBBBBBBBBBBBBBBBBBBBBBBBBBBBBBBBBBBBBBBBB",
     "BBBBBBBBBBBBBBBBBBBBBBBBBBBBBBBBBBBBBBBBBBBBBBBBBBBBBBBBBBBBBBBBBBBBBBBBBBBBBBBBBBBBBBBBBB",
     "JBBBBBBBBBBBBBBBBBBBBBBBBBBBBBBBBBBBBBBBBBBBBBBBBBBBBBBBBBBBBBBBBBBBBBBBBBBBBBBBBBBBBBBBBB",
     "BBBBBBBBJIIGKIIIIGLBBBBBBBIIYIIIIIIFLFLEMFLFoFBEBDDCDCBDFGBBBBBBECEKCFBaQTB5Sah5QhQhQBBDCB",
     "BBBBBEBBCBIDBBBBBBBBBBBBBBBBBBBBBBBBBBBBBBBBBBBBBBBBBBBBBBBBBBBBBBBBBBBBBBBBBBBBBBBBBBBBBB",
     "BBBBBBBBBBBBBBBBBBBBIBBBEB+qNBBBBBBBBBBBBBBBBBBBBBBBBBBBBBBBBBBBBBBBBBBBBBTBBBBBBBBBBBBBBB",
     "BBBBBBBBBBBBkHBBBBBBBBBBBBBDBBBBBBBBBBBBBBBBBBBBBBBBBBBBBBBBBBBBBBBBBBBBBBBBBBBBBBBBBBBBBK",
     "BBBBCBBBBBBBBEBBBCBBBDBBBBBBBBBBBBBBBBBBBBFBFBBBBBBBBBBBBBBBEBBBCDBFBBBBBBBYB15LahmFhIkIhE",
     "kcLBPBHBCh3KhTkdWi5ahA1sAhA5tAaaaaaaBBCCBCCCEBIaaaCBECIBHbCBEBFBBDHbaaaaaaaaaaaeZhBZhBZhBZ",
     "hBZhBBkpVhCigOaGaGa"]⟩]

end ParamSchema.Unicode
