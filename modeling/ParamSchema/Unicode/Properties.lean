import ParamSchema.Unicode.NamedSet

/-!
The yes-or-no properties of characters.
-/

namespace ParamSchema.Unicode

/-- The properties under their names. -/
def properties : List NamedSet := [
  ⟨["AHex", "ASCII_Hex_Digit"], ["hQKHGaG"]⟩,
  ⟨["Alpha", "Alphabetic"],
    ["iBaGahPBKBEBFXBfBuKEMOFHBBBiWBhKFBCCEBBGBBDBBBUBiTBkLIlGBhGCBGhJhHOBBBCBCBBIbEEdLFhYBHOjGB",
     "IEIEDKDCBQhQNjFYhBJCEBFYCTTZHLFYBGIBIhKKMDHGiMBQBDEPNTBICCCWBHBBDEDICCCCBBIBECBFMCKBEDBGEC",
     "CWBHBCBCBCEFECCCEBHEBBRGLDBJBDBWBHBCBFDJBDBCDBPEVEEDBICCCWBHBCBFDICCCCJCECBFNBQCBGDDBEDCBB",
     "BCDCDDDMEFDDBDDBGBhINBDBXBQDIBDBDICBDCBCEcEBIBDBXBKBFDIBDBDICGCBENDMNBDBhJCIBDBDBBFEHFWGBD",
     "BSDYBJBBCHIGBBBISCNhaFHGBhTCBBBFBYBBBTBDCFBBGBOEhABhfIBhEETEQBhEiDhXBBCFQiAKEChGBBFBChLBqN",
     "BECHBBBEChJBEChBBECHBBBECPBhZBECiDhFQQiWCGDzMCRBaFiLDLHULVMUMNBDBCMhUCTOBEBiDiZHhLFiGKfBME",
     "JXeCFLhMEahWcEhfCUhSBXCLDhRhUBPBIhThKCEKhMBLOhXWDKhECLFhLCDhJEBGBCDBFmAhHOLoWCGChGCGCIBBBB",
     "BBBfChVBHBBDDBHDECGENFDBHjUBNBQNjFBEBCKBBDFGBBBBBBEBLCEFFEBRhJ5NhUh4WnFGEDCMhGBBFBChYHBQXJ",
     "HBHBHBHBHBHBHBHBhAhPBuVDZJHFCFEiWGDBiaBEFhLBieRhAhQQwAmuAiA10NiDhOCoNDQKCUhPFIDjRhHJCjHCiD",
     "CCBBBIVUBhBYhUMiEBBhMGDBBDKhBFhDNdDhTBMPBQQKFBhXJOSXDiFBBBBYDCQCELGCGCGJHBHBhLBOGjbVq9EMXE",
     "hRooErOCjKhGHMFFMBNBFBBBCBCBjMhBrLSiAChWhIMjUFBkHhEaGaLiZDGCGCGCDhDMBaBTBCBPCOhCjbiFhVoLdD",
     "hRhPhANeFhLFeChEEIBFhKkeShEEhEEhIIhUMLBPBHBCBLBPBHBCDhUMpXJWKIYGBhKBJiFGCBBhMBCDBCXKXJfiBT",
     "BCKWKaiGhYGCiAEBCFIBDBdhKdDdhDIBcbhWKWKTNSjOiJhXhTNhTNhIhCcDBFXnahKBCDCQDhXBDdKBIWhKShOVbX",
     "JiGhLFKhZJBNZXhTREIhDDBJiABEJCKBBBhDSBhCCBGEheHBBBEBPBKHhZXEBICCCWBHBCBFDICCCCDBGBFHcKBBCB",
     "BhGBKBBCBBEBCDBBBhMiCBDBEUDeiCCCBBlYhWCHZGhChfBBDBhbhWCBiHbCOVHlZhZjHiAfICBCIBCBeBCCCCEidI",
     "ChOCGBBBCbhTCKRiIFBSiJmHhBfJBhNBHBBhReCWBOiJHBCBhMDBBCBDBBCCYGBCBhFBCBEBBqHXJRBhJDDjPBiP8a",
     "jGjPRmEiyMjBPhhQRGZj8bFyHm1ZhPh2RxZHfRiPReShQQEfVFTtQhNmTiAkAiLEhZHRiACBBMCOl=YIhmWhJKo3HE",
     "BHBCBpDPBdDCBOEIsMioEjLFNDJHKEBl7BiVBiHBCCBCCCEBMBBBHBiBBECIBHBcBEBFBBDHBqUCZBZBfBZBfBZBfB",
     "ZBfBZBIh5UfGGmVHBRCHBCBFFhehBBjQhNKHQBqBeShMvEcnEeCBvPHBEBCBPBmFhbiEDBDBhlUEBbBCBBCBBKBEBB",
     "BBGBEBBBBBBDBCBBCBBBBBBBBBBCBBCEBHBEBEBBBKBRFDBFBRzUaGaGajzWhp3AhAkhaGmeCl0COnpRPzOitCwehv",
     "Ck6LFkjA"]⟩,
  ⟨["Bidi_C", "Bidi_Control"], ["hwcBmvRCaFhXE"]⟩,
  ⟨["Bidi_M", "Bidi_Mirrored"],
    ["hICSBBBcBBBdBBBhNBPBjzeEh6dCiscCKChWCOClRBmAEDGDBDCDEBEBBBBEJFBBSFEJCBBBICfCEFBJCCTFCJFCCE",
     "YCQIEUCHChhdOiKBCEBCBDFEFDDOsTWCGBOIBHGDBEFBCCFEBBDCCKGCCMTBECBBBCBBEFCGDYCLCEEBCCCEhLCIBh",
     "IFBBBDFFDEBDFBBoABwDEDCBCOCCKhLItLKCIhzxdGFClCCSBBBcBBBdBBBBCBCh17XBhZBhZBhZBhZB"]⟩,
  ⟨["CI", "Case_Ignorable"],
    ["hHBGBLBhDBBBiHBEBBBEBCCvXmAECEBJCBBnbHmPBFBhRhNBBBCBCBBhMBLGKLBBhDBKVQBjFIBKBEhBBBBebibLha",
     "LEBCBYYhLDhMBHCFJhJhahXBBBEIEBDHKCNBPBhaBEEIBUCaBCChZBECECCDDBeCDBLChZBEFBCEBUCWGBBhaBCBBE",
     "IBHCLCeBhdBMBhSBDBhXBBDFDBEHCLCdBhaBCBGBFCUCcChZCEEIBUCdBiIBHDBBiaBCHLJjCBCJJBBHiJCbBBBBBh",
     "XOBFBCFLBhEJBjGEBGBCCCZCEDQENBCCGBPBieBzAD9SDdCeCeCiACBHIBCLDBFBhNFhTBiBChCBjWDECJBGDmbCCB",
     "haBBHBBBBCIGKCBhHBIfhREhQBBFBBFBhIJMChAECCBDhYBBCDBBDhaICCiAGiSDBNBHEBGBDChShfNBhCjFtdBBDL",
     "DNDNDNCMFICKBCBCFhRFBKBBNBQNhThBi8LCjRDjdBPBjAhAhPBuVBhEEDFFBidGidD74WBhnCGoOBjCEBKBBcEiQC",
     "OhCiOBXDjHDDCIBDBEBZCFBkXCaSNBhGIZLhODhQBCECCRBVCiCGCCCCMBIBhDBLBhTBBDCCFCBBbBOCFCBBjEFJDj",
     "ZBCBEBz5QBkTRxdQDBMQhCBCBlJBHBGBLBhDBBBhPBhNCiDBVDwBBnCBkVFhgFGBhKBJyGDBCFEhIDEBlFCxdEhGBa",
     "FBBpbCiPEiGLhREjbBhWPhJBCCKDhRECCCBEBKBhSDhEFBIheBMChUJKECBifDCBBCGBCBkdBDIVChZCDBhFHDFiGG",
     "NBBBBBOCiVICDBBXBiUGBBECBCnOEGCBCbCiVICBBCjKBBBCGBBjFBBBCEBFoDJBCoACBBEBkQECCEBhAKhIGCEIBJ",
     "GCDhONBCsWHBGBBiSWCHBCBCjaGDBBCBHBBiICDBBBqbCLChUFFBBBXBlmVRGPrmIMDDiuAFhbHJEvcDhICvCBhfRi",
     "ACBCwgLEBHBCjkeCBEkychOCXxADJQCHeEkUDh9bhXEhSIBOBWFBPhqQHBRCHBCBFFhehBBlAOrQBhdEvbFneC3AHj",
     "NIi1PF4jgBBejAkAnQ"]⟩,
  ⟨["Cased"],
    ["iBaGahPBKBEBFXBfBmDBEEmQBhEHCeFjABhKECCCEBBGBBDBBBUBiTBkLIlGBhGJhJi4XhGBBFBChLBE1AiWCGikCL",
     "FhLCDiAmAiAoWCGChGCGCIBBBBBBBfChVBHBBDDBHDECGENFDBHjUBNBQNjFBEBCKBBDFGBBBBBBEBGEBCEFFEBRhA",
     "DC5RhUh4WnFGEDCMhGBBFB+oShOSekEjGDEBheCCBBBIVFBD5VhLBOGiQz6AHMFhgJaGahlFiQjAhEEhEjULBPBHBC",
     "BLBPBHBCuDBCDBhKBJhmFhTNhTidWKWi4aiA1rAiA5sAiVBiHBCCBCCCEBMBBBHBiBBECIBHBcBEBFBBDHBqUCZBZB",
     "fBZBfBZBfBZBfBZBIh5UKBUGGoFheikSiEh=MaGaGa"]⟩,
  ⟨["CWCF", "Changes_When_Casefolded"],
    ["iBaiaBKXBIhABBBBBBBBBBBBBBBBBBBBBBBBBBBBBBBBBBBBBBBBBBBBBBBBBBBBBBBCBBBBBBBBBBBBBBBBCBBBBB",
     "BBBBBBBBBBBBBBBBBBBBBBBBBBBBBBBBBBBBBBBBCBBBBBBBCBBBCBDCEBCBDDCBCBBBBBCBBCBBCBDBBBCDBHCBCB",
     "CBBBBBBBBBBBBBBBBCBBBBBBBBBBBBBBBBBCCBBBDBBBBBBBBBBBBBBBBBBBBBBBBBBBBBBBBBBBBBBBBBBBBBBBBB",
     "BBBBBBBBBHCBCCBBEBBBBBBBBnWBhKBBBDBIBGBBDBBBCBRBJWBMDDCBBBBBBBBBBBBBBBBBBBBBBBBBCCCBBBCChT",
     "hQBBBBBBBBBBBBBBBBBBBBBBBBBBBBBBBBBJBBBBBBBBBBBBBBBBBBBBBBBBBBBBBBBBBBBBBBBBBBBBBBBBBBBBBB",
     "CBBBBBBBBBBBBCBBBBBBBBBBBBBBBBBBBBBBBBBBBBBBBBBBBBBBBBBBBBBBBBBBBBBBBBBBBBBBBBBBBBBBBBBBBB",
     "BBBBBBBBBBBBBBBBBBBChGhQBi4YhGBBFB5KGikCKGhLCDqABBBBBBBBBBBBBBBBBBBBBBBBBBBBBBBBBBBBBBBBBB",
     "BBBBBBBBBBBBBBBBBBBBBBBBBBBBBBBBBBBBBBBBBBBBBBBBBBBBBBBBBBBBBBBBBBBBBBBBBBBBBBBBBBBBBBBBBB",
     "BBBBBBBBBBBBBBBBBFCCBBBBBBBBBBBBBBBBBBBBBBBBBBBBBBBBBBBBBBBBBBBBBBBBBBBBBBBBBBBBBBBBBBBBBB",
     "BBBBBBBBBBBBBBBBBBBBBBBBBBBJIIGKIIIIGLBBBBBBBIIQhQCDCGFDCGLEMFFDCGpJBDCGBhNQTB5Sah5QhQhQBB",
     "DCBBBBBBEBBCBIDBBBBBBBBBBBBBBBBBBBBBBBBBBBBBBBBBBBBBBBBBBBBBBBBBBBBBBBBBBBBBBBBBBBBBBBBBBB",
     "BBBBBBBBBBBBBBBBBBBBBBBIBBBEB+qNBBBBBBBBBBBBBBBBBBBBBBBBBBBBBBBBBBBBBBBBBBBBBTBBBBBBBBBBBB",
     "BBBBBBBBBBBBBBBkHBBBBBBBBBBBBBDBBBBBBBBBBBBBBBBBBBBBBBBBBBBBBBBBBBBBBBBBBBBBBBBBBBBBBBBBBB",
     "BBKBBBBCBBBBBBBBEBBBCBBBDBBBBBBBBBBBBBBBBBBBBFBFBBBBBBBBBBBBBBBEBBBCDBFBBBBBBBYB7aiQz6AHMF",
     "hgJahmFhIkIhEkcLBPBHBCh3KhTkdWi5ahA1sAhA+1AhC"]⟩,
  ⟨["CWCM", "Changes_When_Casemapped"],
    ["iBaGahaBKXBfBiABiUBcCOCCBBEidBSGbBCBBBCDCBEBFCBBCCBHBCBBCDGFBKClGBhKECCDDBBGBBDBBBUBhPDhBB",
     "FBkFIlGBhGKhHi4YhGBBFBChLCD1AiWCGikCLFhLCDlZBDBQBjRkcCBBjWCGChGCGCIBBBBBBBfChVBHBBDDBHDECG",
     "ENFDBHpJBDCGBbBRhADC5RhUh4WjRBCBCHjGHEDCMhGBBFB+oShOSckGOCheJPDDCFBZBeCCEHYC6cBciQz6AHMFhg",
     "JaGahlFiQjAhEEhEjULBPBHBCBLBPBHBCh2DhTNhTidWKWi4aiA1rAiA+0AiE"]⟩,
  ⟨["CWL", "Changes_When_Lowercased"],
    ["iBajFXBHhBBBBBBBBBBBBBBBBBBBBBBBBBBBBBBBBBBBBBBBBBBBBBBBBBBBBBBBBCBBBBBBBBBBBBBBBCBBBBBBBB",
     "BBBBBBBBBBBBBBBBBBBBBBBBBBBBBBBBBBBBBBCBBBBDCBBBCBDCEBCBDDCBCBBBBBCBBCBBCBDBBBCDBHCBCBCBBB",
     "BBBBBBBBBBBBBCBBBBBBBBBBBBBBBBBCCBBBDBBBBBBBBBBBBBBBBBBBBBBBBBBBBBBBBBBBBBBBBBBBBBBBBBBBBB",
     "BBBBBHCBCCBBEBBBBBBBBpBBBBDBIBGBBDBBBCBRBJhDBIBBBBBBBBBBBBBBBBBBBBBBBFBCBBCChThQBBBBBBBBBB",
     "BBBBBBBBBBBBBBBBBBBBBBBJBBBBBBBBBBBBBBBBBBBBBBBBBBBBBBBBBBBBBBBBBBBBBBBBBBBBBBCBBBBBBBBBBB",
     "BCBBBBBBBBBBBBBBBBBBBBBBBBBBBBBBBBBBBBBBBBBBBBBBBBBBBBBBBBBBBBBBBBBBBBBBBBBBBBBBBBBBBBBBBB",
     "BBBBBBBChGi6JhGBBFB2SiWikTBGhLCDqABBBBBBBBBBBBBBBBBBBBBBBBBBBBBBBBBBBBBBBBBBBBBBBBBBBBBBBB",
     "BBBBBBBBBBBBBBBBBBBBBBBBBBBBBBBBBBBBBBBBBBBBBBBBBBBBBBBBBBBBBBBBBBBBBBBBBBBBBBBBBBBBBBBBBB",
     "BBBJBBBBBBBBBBBBBBBBBBBBBBBBBBBBBBBBBBBBBBBBBBBBBBBBBBBBBBBBBBBBBBBBBBBBBBBBBBBBBBBBBBBBBB",
     "BBBBBBBBBBBJIIGKIIIIGLBBBBBBBIIYIIIIIIFLFLEMFLFpJBDCGBhNQTB5Sah5QhQhQBBDCBBBBBBEBBCBIDBBBB",
     "BBBBBBBBBBBBBBBBBBBBBBBBBBBBBBBBBBBBBBBBBBBBBBBBBBBBBBBBBBBBBBBBBBBBBBBBBBBBBBBBBBBBBBBBBB",
     "BBBBIBBBEB+qNBBBBBBBBBBBBBBBBBBBBBBBBBBBBBBBBBBBBBBBBBBBBBTBBBBBBBBBBBBBBBBBBBBBBBBBBBkHBB",
     "BBBBBBBBBBBDBBBBBBBBBBBBBBBBBBBBBBBBBBBBBBBBBBBBBBBBBBBBBBBBBBBBBBBBBBBBBKBBBBCBBBBBBBBEBB",
     "BCBBBDBBBBBBBBBBBBBBBBBBBBFBFBBBBBBBBBBBBBBBEBBBCDBFBBBBBBBYB15LahmFhIkIhEkcLBPBHBCh3KhTkd",
     "Wi5ahA1sAhA+1AhC"]⟩,
  ⟨["CWT", "Changes_When_Titlecased"],
    ["jBahaBhJYBIBBBBBBBBBBBBBBBBBBBBBBBBBBBBBBBBBBBBBBBBBBBBBBBBBBBBBBBBCBBBBBBBBBBBBBBCBBBBBBB",
     "BBBBBBBBBBBBBBBBBBBBBBBBBBBBBBBBBBBBBBBCBBBBDCBBBCBDBFBCBDDCBCBBBBBCBEBCBDBBBCBDBBBEBBCBCB",
     "BBBBBBBBBBBBBBBBCBBBBBBBBBBBBBBBBBDBBBBDBBBBBBBBBBBBBBBBBBBBBBBBBBBBBBBBBBBBBBBDBBBBBBBBBB",
     "BBBBBBBIBCCBBEBBBBBBBBGBCBBBCDCBEBFCBBCCBHBCBBCDGFBKClGBhLBBBDBDDSBbhDBCDDBBBBBBBBBBBBBBBB",
     "BBBBBBBFBBCBCBhUhQBBBBBBBBBBBBBBBBBBBBBBBBBBBBBBBBBBJBBBBBBBBBBBBBBBBBBBBBBBBBBBBBBBBBBBBB",
     "BBBBBBBBBBBBBBBBCBBBBBBBBBBBBCBBBBBBBBBBBBBBBBBBBBBBBBBBBBBBBBBBBBBBBBBBBBBBBBBBBBBBBBBBBB",
     "BBBBBBBBBBBBBBBBBBBBBBBBBBBBBBBBBBBBhRhHjzQGikCJBBnOBDBQBjSBBBBBBBBBBBBBBBBBBBBBBBBBBBBBBB",
     "BBBBBBBBBBBBBBBBBBBBBBBBBBBBBBBBBBBBBBBBBBBBBBBBBBBBBBBBBBBBBBBBBBBBBBBBBBBBBBBBBBBBBBBBBB",
     "BBBBBBBBBBBBBBBBBBBBBBBBBBBHFBBBBBBBBBBBBBBBBBBBBBBBBBBBBBBBBBBBBBBBBBBBBBBBBBBBBBBBBBBBBB",
     "BBBBBBBBBBBBBBBBBBBBBBBBBBBBBBBBBJIGKIIIIGKIIIIOCIIIIIIFBCGBDDBCIECCIIKDBCqWBhBQEB6Lah6GhQ",
     "BBDCBBBBBBGBCBKBBBBBBBBBBBBBBBBBBBBBBBBBBBBBBBBBBBBBBBBBBBBBBBBBBBBBBBBBBBBBBBBBBBBBBBBBBB",
     "BBBBBBBBBBBBBBBBBBBBBBBBIBBBEBMhGBBFB+oTBBBBBBBBBBBBBBBBBBBBBBBBBBBBBBBBBBBBBBBBBBBBBTBBBB",
     "BBBBBBBBBBBBBBBBBBBBBBBkHBBBBBBBBBBBBBDBBBBBBBBBBBBBBBBBBBBBBBBBBBBBBBBBBBBBBBBBBBBBBBBBBB",
     "BBBBBBBBBBKBBBCBBBBBBBBBEBEBBCCBBBBBBBBBBBBBBBBBBBLBBBBBBBBBBBBBBBEBBBCBDBFBBBBBaB6cBciQz6",
     "AHMFhhJahmNhIkIhEkbLBPBHBCh4DhTjdWi5ahA1sAhA+1ChC"]⟩,
  ⟨["CWU", "Changes_When_Uppercased"],
    ["jBahaBhJYBIBBBBBBBBBBBBBBBBBBBBBBBBBBBBBBBBBBBBBBBBBBBBBBBBBBBBBBBBCBBBBBBBBBBBBBBCBBBBBBB",
     "BBBBBBBBBBBBBBBBBBBBBBBBBBBBBBBBBBBBBBBCBBBBDCBBBCBDBFBCBDDCBCBBBBBCBEBCBDBBBCBDBBBFCBCBCB",
     "BBBBBBBBBBBBBBCBBBBBBBBBBBBBBBBBCBCBBDBBBBBBBBBBBBBBBBBBBBBBBBBBBBBBBBBBBBBBBDBBBBBBBBBBBB",
     "BBBBBIBCCBBEBBBBBBBBGBCBBBCDCBEBFCBBCCBHBCBBCDGFBKClGBhLBBBDBDDSBbhDBCDDBBBBBBBBBBBBBBBBBB",
     "BBBBBFBBCBCBhUhQBBBBBBBBBBBBBBBBBBBBBBBBBBBBBBBBBBJBBBBBBBBBBBBBBBBBBBBBBBBBBBBBBBBBBBBBBB",
     "BBBBBBBBBBBBBBCBBBBBBBBBBBBCBBBBBBBBBBBBBBBBBBBBBBBBBBBBBBBBBBBBBBBBBBBBBBBBBBBBBBBBBBBBBB",
     "BBBBBBBBBBBBBBBBBBBBBBBBBBBBBBBBBBhRhHi6IhLCD3YGikCJBBnOBDBQBjSBBBBBBBBBBBBBBBBBBBBBBBBBBB",
     "BBBBBBBBBBBBBBBBBBBBBBBBBBBBBBBBBBBBBBBBBBBBBBBBBBBBBBBBBBBBBBBBBBBBBBBBBBBBBBBBBBBBBBBBBB",
     "BBBBBBBBBBBBBBBBBBBBBBBBBBBBBBBHFBBBBBBBBBBBBBBBBBBBBBBBBBBBBBBBBBBBBBBBBBBBBBBBBBBBBBBBBB",
     "BBBBBBBBBBBBBBBBBBBBBBBBBBBBBBBBBBBBBJIGKIIIIGKIIIIOChVBCEBBBDDBCEBDECCIIKDBCEBqRBhBQEB6La",
     "h6GhQBBDCBBBBBBGBCBKBBBBBBBBBBBBBBBBBBBBBBBBBBBBBBBBBBBBBBBBBBBBBBBBBBBBBBBBBBBBBBBBBBBBBB",
     "BBBBBBBBBBBBBBBBBBBBBBBBBBBBBIBBBEBMhGBBFB+oTBBBBBBBBBBBBBBBBBBBBBBBBBBBBBBBBBBBBBBBBBBBBB",
     "TBBBBBBBBBBBBBBBBBBBBBBBBBBBkHBBBBBBBBBBBBBDBBBBBBBBBBBBBBBBBBBBBBBBBBBBBBBBBBBBBBBBBBBBBB",
     "BBBBBBBBBBBBBBBKBBBCBBBBBBBBBEBEBBCCBBBBBBBBBBBBBBBBBBBLBBBBBBBBBBBBBBBEBBBCBDBFBBBBBaB6cB",
     "ciQz6AHMFhhJahmNhIkIhEkbLBPBHBCh4DhTjdWi5ahA1sAhA+1ChC"]⟩,
  ⟨["Dash"], ["hNBhqcBhTBjyBBhgFBigJGhdBhHBPBsGBjgEBCBfCEBcBteBTBjPBhzsQChFBKBlJBjzABpeB"]⟩,
  ⟨["DI", "Default_Ignorable_Code_Point"],
    ["lNB1BB2MBi6CChyTCiVFh=bFaFhRQknUBhzkbQnPBlABiPJhvlHElmPI4r0FkgA"]⟩,
  ⟨["Dep", "Deprecated"], ["qJBhpJBioDBBBihJCimFG1ZC73mWB"]⟩,
  ⟨["Dia", "Diacritic"],
    ["ieBBBiHBGBEBCCvXkfBIFGRCEBJCndFmRBhXRBbBBBCBBkGIECkGCECDDiDbibLhaLhCCjeIhJKQchdBQBDEcBiKBQ",
     "BjOBQBjOBQBhPDhcBQBHBjXBjOBQBjOBQBjNCQBjcBjcGBBjLBNFiLCbBBBBBECiCDBCheBjQBBChICEFZHBBKC2BD",
     "9UClTLJBqbDpZICBhQPCLjIBPBhGJhWCkKCiAGiSZEBGBCDhShfiZMhFLtdBBDLDNDNDNCjnQDpdBvaGjJEifB9rSB",
     "MCBBcCiSCOhCjGDjNCmKBbShZEhEBifBMBhEBkVDiBEhTBjEFJDkACz5QB4BQoOBBBhPBhNCiDB3cBhkfGBhKBJ5KC",
     "xbGhGBaFsPDiGLhREmABhJBiICjYCheBiMBJDjIClSCiRBQBYHDFiZDBCNCifBDBjbCnbCjeBjWCjTBoNCoCCEBkcB",
     "iTBSBiRBtFBoCBBCiRBuCBlnMPrmZBiuAFhbHxUCxCRiQCv=eEBHBCn4BhOCXxADDGIICHeEj0ChemCHrXBhdE3eC3",
     "AHjNDBD"]⟩,
  ⟨["Emoji"],
    ["hDBGBFKjPBEBn8NBMBmYBWBiaGPCrPCMBlGBZLEDmHBnHCKBJBhaEBFJBCBCCCBEBCBBCCBDBDCIDFBBBFMLCCBBCB",
     "BSBCCSGBBBCDCFBCCECLCFCCBFCBBBCUCFGBECBEBCBCGBBCBBBBBGBDBGBKCPBCBEBBBEDBBLChQDJBOBOBrUCuPD",
     "TChTBEBhmaBMByZBBBjvrKBmKBlACMCOBCKiLaBCXBUBCJVClOhCCjQCCBDCiTCDBoHBhfLGBYHCCIMBCECBECNCCB",
     "ICJBFDMDIDCBBBEBGBDBGiWhQiGFICDEKDBBCDBCKnDMEBobhPBKBlZjQNDKFhYHPCLGJ"]⟩,
  ⟨["EComp", "Emoji_Component"], ["hDBGBFKn+TBmVBh3pLBh8+WavbFhtQE4hzMjA"]⟩,
  ⟨["EMod", "Emoji_Modifier"], ["j8=bF"]⟩,
  ⟨["EBase", "Emoji_Modifier_Base"],
    ["pwdBmbBQEjzjXBhcDCBCDjVCCLVTDBEDBDHBBBYBmJCEBVBEClODDFiTBQDJBLBxfBCBIIGBJKCDhYBhdCBCBBRDBN",
     "nFDhKJ"]⟩,
  ⟨["EPres", "Emoji_Presentation"],
    ["o4aCmNEDBCBwJCVChSMhLBTBNBICRCFCIBFBVBHCBBEBCBHBECcBhDBBBEDBBhdDYBOB6bChTBEBjxlOBmKBleBCKi",
     "LaBBYBUBCFBDVClOhBMJBiGBWMhLEFMRDBDiHBBBlbChfNEBYSBaCNBiWiVhQiGGBDDCDEELCHJnDMEBobhPBKBlZj",
     "QNDKFhYHPCLGJ"]⟩,
  ⟨["ExtPict", "Extended_Pictographic"],
    ["lJBEBn8NBMBmYBWBiaGPCrPCMBifBiGBZLEDmHBnHCKBJBhaEBGBMBjSKjWCLBBBBGBDBGBKCPBCBEBBBEDBBLFhND",
     "JBOBOBrUCuPDTChTBEBhmaBMByZBBBjvrGoANDfBhcGMCOBCKShZbPKBUBCJBEJtSFpeIoKhQkAjUMiVhLMEhYIKGh",
     "IIeiSMhPBKBtZoA=e"]⟩,
  ⟨["Ext", "Extender"],
    ["lXBwYC7OBtZB6aB3QBjfBiqDBhYBzDBsOBiEBk8JBhLFjHCidD74WBhvWB+CBWBkJBjMBVC1jbBigQChuLBbBEBhvN",
     "BjVBvSDhmPB0lJChkcCBB8qYCigGD"]⟩,
  ⟨["Gr_Base", "Grapheme_Base"],
    ["hAifhBNBySjQICGEHBBBUBnAHlGBhGChSCDhOBBBCBCBJbEGRKLBBhOVQBjFIBGCCBEhACBBediZLBOhLJHDYEBJBD",
     "BHPBZFBBLFfRhKhZhXBBBEIEBDHKCdBCBICCCWBHBBDEDBBCGCCCBBNCBDEYFBBGECCWBHBCBCBCEDYEBBHKCDBBMB",
     "BJBDBWBHBCBFDEIBBCDBPCEMHBICBICCCWBHBCBFDBCBGCCCPCBDESLBBGDDBEDCBBBCDCDDDMFBBCDDBDDBVVGDBI",
     "BDBXBQDBDETDCBCCEKHKBLBDBXBKBFDCBCBCCCBCRCBCEKBDOLBDBhJCBBCFDBDBCEDBKEaCCBSDYBJBBCHJCGHHKC",
     "DMhQBCLIINhFCBBBFBYBBBKBCJBCFBBJKCEhAYCbBBBBBOBhESBFBCFhRIBGBNhFhNEBGBCCCZCEDQENBCCGBPBhIB",
     "BFBCrZBECHBBBEChJBEChBBECHBBBECPBhZBECiDFdDaGiWCGC0dDiZHSDBJTCDJSONBDPhUCBHIBCLJDKGKGLFKGi",
     "ZHFChCBBFiGKfEECDECBGHBDhKCFLhMEaGLDhZCCDhYBBJBBCIGNKGKGOiWhQHBBFBKBdJMChAECCBDhYBBCDBBDCI",
     "hQICFPDheFhLCLLBNBHEBGBDCBFmAiAoWCGChGCGCIBBBBBBBfChVBPBOCGBTCDBJBLFYHhRQCCbBNDhBhfkME0aWL",
     "Vh4UChABqYDCFhNBBFBChYHCPXJHBHBHBHBHBHBHBHhBiehCaBiZMmWahaGQBiWEjFFhLBieBiWJhQB8zNDhXJqcUh",
     "PEBKhACiQCGImOCCBBBIVQBDBEBZCFEKGhYIiEKMYNBhGIZLCLeGhQBCECCQBLEHBZBhJGCCCLDBIBBCKChABhTBBD",
     "CCFCBBBYRCILGCGCGJHBHBhcEjVBCBEDKGq9EMXEhRooErOCjKhGHMFFBBYBFBBBCBCBjdQtdChWHBhAQQKWhDBTBE",
     "EFBkHEkdCfDGCGCGCDDHBHNCCMBaBTBCBPCOhCjbFDEhNDiYBNDBhPhNkDdDhRQbEhEJeFhGKeBhFEOhKkeCKGhEEh",
     "EEhIIhULMBPBHBCBLBPBHBCDhUMpXJWKIYGBhKBJiFGCBBhMBCDBCXBiIIJhQTBCFhBDbFBiAhYEUChPPEBDBdKJHJ",
     "HiAhAhFGMJhWDdCbFaHEMHiQiJhXhTNhTHhKMKGhGIYICmQfBhKDBCCQDhbhIIWLJWSEEhGcUXJBBhWPHEeBCCBMhR",
     "ECCCBEOZHKJhEFBJSIhDBDLhUJKECBQBULSBcDCBBCGBChfHBBBEBPBLGhPBDNKICBICCCWBHBCBFDBBBBECCCDCBM",
     "HcKBBCBBhGBBBCPBBCDBBDBChHhYICDBBVBBBDehQBCGBBCBBCBCEIKlGhPBCGECBCbhEhTICBBCELKGNThLBBBCGB",
     "BCGKGUcbDBBCEBJXlZhPJBCBjEiTMICBCIBCBYBFBCEBBEBDJKiGIChKIEBEbBKhIGCEIJBGCDhONBCJNiJHKlWhCO",
     "KGJBhGOBBGKdDhAZBHBCBiLHBCBhGVBJKGGBCBhFECBBBBHKpWTCEJPBhEICBBBXiWBPhSN8bjGjPBFLmEiyMjDNhh",
     "QRGZj8bFyHm1ZeMDDKh2GxZHfBKEiRBKGeHBKhQHPKKBHBVFTtQhamGibjFiLFhYLNiAEMCOl=YIhmWhJKo3HEBHBC",
     "BpDPBdDCBOEIsMioEjLFNDJHKCBCBj7AnaGtUkcjUhcnWKhHChcBBDEVCHeEhdViCDBjaUMUMiXJZkHiVBiHBCCBCC",
     "CEBMBBBHBiBBECIBHBcBEBFBBDHBqUCpECxShXEhSIBOBHhjUfGGoFhekShNKHCKECqAeShMEKFBuQcEKmWeCLEBvA",
     "HBEBCBPBmFCJhQiEHBEKEC4RiEiMhdmCEBbBCBBCBBKBEBBBBGBEBBBBBBDBCBBCBBBBBBBBBBCBBCEBHBEBEBBBKB",
     "RFDBFBRhUCoOhMEjEMPCPBPBhFKlOhYdNhMEJHCOGka+YERDNDjXEifGMEBPMEhYIKGhIIeCMECheqUMOCNDKFhYHP",
     "CLGJHkTBjGhgGhp3AhAkhaGmeCl0COnpRPzOitCwehvCk6LFkjA"]⟩,
  ⟨["Gr_Ext", "Grapheme_Extend"],
    ["4AjQoTHoHhNBBBCBCBBiILhQVQBjFHCGCCBEhDBebibLhaJJBYEBJBDBFhLDhbJhKYBhAhXBBBEIEBDHKCdBhaBBBC",
     "EIBJBKCaBCChZBECECCDDBeCDBLChZBEFBCEBUCWGBBhaBBCBEIBHDKCeBhbBBBMBJBhIBDBhXBBDFDBEHCLCdBhaB",
     "CBCBDBFCHCLCcChZCBBCEIBJBKCdBiIBEBCDBBIBiRBCHMIjCBCJLHiJCbBBBBBhXOBFBCFLBhEJBjGEBGBCCCZCED",
     "QENBCCGBPB1fD9SDdCeCeCiACBHIBCLJBhNDBBjVChCBjWDECJBGDmbCCBhaBBHBBBBCIGKCBhQfhREhQHBBFBhIJM",
     "ChAECCBDhYBBCDBBDhaICCkYDBNBHEBGBDCmGiAwMBmDhBi=eDkNBjAhAxKGjJC9uUEBKhACiQCoQBDBEBZCFBkXCa",
     "SNBhGIZLhODhQBCECChHBiDGCCCCMBIBhPBhTBBDCCFCBBhKCIBnOBCBEBz5QB3BQQQrOCydBnCBkVFh0GDBCFEhID",
     "EBlFCxdEiBFpdCiPEiGLhREjbBhWPhJBCCKDhRECCHBhdDhEFBIheBMChUJKECBifDCBBCGBCBkdBDIVChZCBBBBWB",
     "OHDFiDBCGBBCBBDEDBBOCiVICDBBXBiRBCGBBCBBCBCnLBCEGCBCbCiVICBBCjKBBBCGBBjFBBBCEBFoDJBCnVBKCB",
     "BEBkQECCEBhAKhIGCEIBJGCDhONBCsWHBGBBiSWCHBCBCjaGDBBCBHBBiICDBBBqbCLChUFFBBBXBlnFBGPrmIMDDi",
     "uAFhbHhgYBhfEiRBzlYCkzBhOCXweBBDEFIICHeEkUDh9bhXEhSIBOBWFBPhqQHBRCHBCBFjEBlAHrXBhdEvcEneC3",
     "AHjNH4l2VjAkAnQ"]⟩,
  ⟨[""],
    ["iqNBjfBjfBjfBjfBjfBjfBjfBjNCQBjcBjPBjfBmJBlUCh2ZCeBkdB0NBnDBjFCiGCksLB+0GBhFBkXBkOBjMBpVBn",
     "WB3yRBhwGBhJBOBhZBjZCkLBjUBlUBjCBkADjRBjfBncBjfBjWBjUBoNBoDClBBiTBSBiRBtFBoECiRBtJCwvMB"]⟩,
  ⟨["Hex", "Hex_Digit"], ["hQKHGaGh=1JKHGaG"]⟩,
  ⟨["Hyphen"], ["hNBjfBhmcBkzbBigJCjwFB3DBhzrHBlJBiXB"]⟩,
  ⟨["IDSB", "IDS_Binary_Operator"], ["r=QCCKvRB"]⟩,
  ⟨["IDST", "IDS_Trinary_Operator"], ["r=SC"]⟩,
  ⟨["IDSU", "IDS_Unary_Operator"], ["r=eC"]⟩,
  ⟨["ID_Compat_Math_Continue"], ["lSCFBn9WBDLBPrTBEBWBjtlCBZBfBZBfBZBfBZBfBZB"]⟩,
  ⟨["ID_Compat_Math_Start"], ["owCBEBWBjtlCBZBfBZBfBZBfBZBfBZB"]⟩,
  ⟨["IDC", "ID_Continue"],
    ["hQKHaEBBahPBKBBBCBFXBfBuKEMOFHBBBRjVBCCEBBGFBBBUBiTBkLBFClGBhGCBGhJIhNBBBCBCBBIbEEdLFiKEjG",
     "BICKBTCBQhbCjFOhWEBCBChOScELFYBGIiLBkBCKBTBICCCWBHBBDECJCCCEIBECBFCMKBBBCDBGECCWBHBCBCBCCB",
     "BFECCDDBHEBBHQLDBJBDBWBHBCBFCKBDBDCBPECKJHBDBICCCWBHBCBFCJCCCDHDECBFCKBBQCBGDDBEDCBBBCDCDD",
     "DMEFDDBECBGBOKQNBDBXBQCJBDBEHCBDCBCECKQEBIBDBXBKBFCJBDBEHCGCBECKBDMNBDBhTBDBFFEHFCKKGBDBSD",
     "YBJBBCHDBEGBBBIGKCCNhaFPBKhHCBBBFBYBBBXCFBBBHBKCEhABXCGKLBBBBBEKBhEEUBSBhEJBhZiKGiOChGBBFB",
     "ChLBqNBECHBBBEChJBEChBBECHBBBECPBhZBECiDCDJJOQQiWCGDzMCRBaFiLDLHWJWLUMNBDBCMiUDBECCKhBDBLG",
     "iZHhLFiGKfBMEMKhICFLhMEaGLhFcEhfBdCLGKNBIOBQhRiNDKRJMjUMhYIKDhRCLFhLCDQDBhHFwWCGChGCGCIBBB",
     "BBBBfChVBHBBDDBHDECGENFDBHPChRCTBcBNBQNhTNEBDMRBEBCKBBCGGBBBBBBQCEFFEBRhJizXnFGJMhGBBFBChY",
     "HBPYJHBHBHBHBHBHBHBHBhAwFDZPBFCFEiWCHBifFhLBieRhAhQQwAmuAiA10NiDhOCoNDcUhQEKBjThFJCjHCiDCC",
     "BBBIVhWEBThUMiGKKGYDBBhRChEMdDiBOLGfBhXJOCKGXDiJYDCQCFKGCGCGJHBHBhLBOGjbBCCKGq9EMXEhRooErO",
     "CjKhGHMFFMBNBFBBBCBCBjMhBrLSiAChWhIMEQQQDCYDhAFBkHTKHaEBBaKiaDGCGCGCDhDMBaBTBCBPCOhCjbiFhV",
     "kIBkCdDhRPBfhANeFhLFeChEEIBFhKkeCKGhEEhEEhIIhUMLBPBHBCBLBPBHBCDhUMpXJWKIYGBhKBJiFGCBBhMBCD",
     "BCXKXJfiBTBCKWKaiGhYGCiAEBCFIBDBdCDEBhAdDdhDIBeZhWKWKTNSjOiJhXhTNhTNhIIKGhGDFBXnahKBCDCQDh",
     "XhBKBIhBfWhKVbXJiHfQJhcHBNZHKGhVBKEEIhECBJiFEEBNBBhDSBhFGEheHBBBEBPBKHhbFKGEBICCCWBHBCBFBK",
     "CCCDCBGBFHCHDFLKBBCBBhGBKBBCBBEBINCdiLFKEEeiGBBIKlGhWCJXGhCiBDBLKhGhZHKGUcbCPEKGHlZhbjFiKV",
     "ICBCIBCBeBCCJMKiGIChOCIBCbhfIBIiKDBSiJmHhBPKGJBhNBJPKYeCWBOiJHBCBhMDBBCBJIKGGBCBhFBCBGHKpW",
     "XJRBhJDFNLiVBiP8ajGjPRmEiyMjBPhhQQWKj8bFyHm1Zhah2GxZHfBKGiPBKGeCFLhXJEMKJVFTtQhNDKmGiAkAiL",
     "EhZHRiACBCLCOl=YIhmWhJKo3HEBHBCBpDPBdDCBOEIsMioEjLFNDJHKDCkiRKwGhOCXweFDGIICHeEkUDtbiVBiHB",
     "CCBCCCEBMBBBHBiBBECIBHBcBEBFBBDHBqUCZBZBfBZBfBZBfBZBfBZBIChSwAhXEhSIBOBWFBPhiQfGGmVHBRCHBC",
     "BFFhehBBjQhNDOCKEBqBfRhauWhKmWhLvFHBEBCBPBmFLHhJiMEKhlGEBbBCBBCBBKBEBBBBGBEBBBBBBDBCBBCBBB",
     "BBBBBBBCBBCEBHBEBEBBBKBRFDBFBRjpUKhgGhp3AhAkhaGmeCl0COnpRPzOitCwehvCk6LFkjA13qQnQ"]⟩,
  ⟨["IDS", "ID_Start"],
    ["iBaGahPBKBEBFXBfBuKEMOFHBBBkBFBCCEBBGBBDBBBUBiTBkLIlGBhGCBGhJiHbEEhNhLhDCBjDBBPCHCKDCBQBBe",
     "diZLBYhBJCEBFWEBJBDBXZHLFYBGRhKhahWDBSBHKPQEICCCWBHBBDEDBQBNCBDOCKBIGECCWBHBCBCBCfEBBTDQJB",
     "DBWBHBCBFDBSBPCXBLICCCWBHBCBFDBeCBDPBRBBGDDBEDCBBBCDCDDDMWBhUIBDBXBQDBaDCBCCeBEIBDBXBKBFDB",
     "fCBCPCRJBDBhJCBQBFDIDYGFSDYBJBBCHhahQBCMHhaCBBBFBYBBBKBCJBCFBBVEhABhfIBhEbFjThLUBQGEEDBDCH",
     "DENMBRhGBBFBChLBqNBECHBBBEChJBEChBBECHBBBECPBhZBECiDhFQQiWCGDzMCRBaFiLDLHSNTOSONBDPhUhDBEB",
     "iDiZHhJBBFiGKfhReCFLhMEahWXJhViSBidhPRIhWeNCKhMahEhJDKhECLFhLCDhJEBGBCDBFmAiAoWCGChGCGCIBB",
     "BBBBBfChVBHBBDDBHDECGENFDBHjUBNBQNjFBEBCKBBCGGBBBBBBQCEFFEBRhJizXnFGEDCMhGBBFBChYHBQXJHBHB",
     "HBHBHBHBHBHxGDZJHFCFEiWEFBiaBEFhLBieRhAhQQwAmuAiA10NiDhOCoNDQKCUhPQfCiQhHJCjHCiDCCBBBIVQBD",
     "BEBXdhUOhSheGDBBCLcKXZdHhPcBQFBKKFBhJXDBIUXDBDhSBBDCCFCBBBYDCLHDMGCGCGJHBHBhLBOGjTdq9EMXEh",
     "RooErOCjKhGHMFFBBKBNBFBBBCBCBjMhBrLSiAChWhIMjUFBkHhEaGaLiZDGCGCGCDhDMBaBTBCBPCOhCjbiFhVoLd",
     "DhRhPhANeFhGKeChEEIBFhKkeShEEhEEhIIhUMLBPBHBCBLBPBHBCDhUMpXJWKIYGBhKBJiFGCBBhMBCDBCXKXJfiB",
     "TBCKWKaiGhYGCiABPEBDBdhKdDdhDIBcbhWKWKTNSjOiJhXhTNhTNhEhGcJXnahKGCQDhbdKBIWhKShOVbXMhVhZCC",
     "BNhNhAZahEdBCBIhDDBMhQOEVBBBhDSBZTChfHBBBEBPBKHhPhGICCCWBHBCBFDBSBMFeKBBCBBhGBBZBBBhMhVSEU",
     "DehQUCBBlYhPhJEhEhQUBhbhLNBiHbhFHlZhMjUiAfICBCIBCBYPBBBieIChHQBBBcBKhIHBVBLhOTBSiJmHhBfJBh",
     "FRBhRejQHBCBhGVBZGBCBhAOBqHTPBBNBhCjcBiP8ajGjPRmEiyMjBPhhQRGZj8bFyHm1Zeh3CxZHfRiPReShQQEfV",
     "FTtQhNmTiAkAiLFBiCNiACBBcl=YIhmWhJKo3HEBHBCBpDPBdDCBOEIsMioEjLFNDJHKl7GiVBiHBCCBCCCEBMBBBH",
     "BiBBECIBHBcBEBFBBDHBqUCZBZBfBZBfBZBfBZBfBZBIh5UfGGoFhekShNKHQBqBeShMvEcnEeCBvPHBEBCBPBmFhb",
     "iEHBhlUEBbBCBBCBBKBEBBBBGBEBBBBBBDBCBBCBBBBBBBBBBCBBCEBHBEBEBBBKBRFDBFBRkqEhp3AhAkhaGmeCl0",
     "COnpRPzOitCwehvCk6LFkjA"]⟩,
  ⟨["Ideo", "Ideographic"],
    ["sgGCZJOD+FmuAiA0wA2oArOCjK9oKBbl=YIhmWhJKpjHsMzoEhp3AhAkhaGmeCl0COnpRPzOitCwehvCk6LFkjA"]⟩,
  ⟨["Join_C", "Join_Control"], ["ogMC"]⟩,
  ⟨["LOE", "Logical_Order_Exception"], ["jyAFjbFi3QDCBhknaCCBBC"]⟩,
  ⟨["Lower", "Lowercase"],
    ["jBahPBKBEBhEYBIBBBBBBBBBBBBBBBBBBBBBBBBBBBBBBBBBBBBBBBBBBBBBBBBBBBBBBBCBBBBBBBBBBBBBBBCBBB",
     "BBBBBBBBBBBBBBBBBBBBBBBBBBBBBBBBBBBBBBBBBBBCBBBBDCBBBCBDCEBCBDDCBCBBBBBCBBCBBCBDBBBCCCDGBC",
     "BCBBBBBBBBBBBBBBBBCBBBBBBBBBBBBBBBBBCCBBBDBBBBBBBBBBBBBBBBBBBBBBBBBBBBBBBBBBBBBBBBBBBBBBBB",
     "BBBBBBBBBBHCBCCBBEBBBBBBBBiFBhEHCeFjABhLBBBDBCESBbhDBCDDBBBBBBBBBBBBBBBBBBBBBBBFBBCBCChThQ",
     "BBBBBBBBBBBBBBBBBBBBBBBBBBBBBBBBBBJBBBBBBBBBBBBBBBBBBBBBBBBBBBBBBBBBBBBBBBBBBBBBBBBBBBBBCB",
     "BBBBBBBBBBBCBBBBBBBBBBBBBBBBBBBBBBBBBBBBBBBBBBBBBBBBBBBBBBBBBBBBBBBBBBBBBBBBBBBBBBBBBBBBBB",
     "BBBBBBBBBBBBBBBBBBhQhJi6HhLBE3YGikCJBBjVmAiBBBBBBBBBBBBBBBBBBBBBBBBBBBBBBBBBBBBBBBBBBBBBBB",
     "BBBBBBBBBBBBBBBBBBBBBBBBBBBBBBBBBBBBBBBBBBBBBBBBBBBBBBBBBBBBBBBBBBBBBBBBBBBBBBBBBBBBBBBBBB",
     "BBBBBBBBBBBBJBBBBBBBBBBBBBBBBBBBBBBBBBBBBBBBBBBBBBBBBBBBBBBBBBBBBBBBBBBBBBBBBBBBBBBBBBBBBB",
     "BBBBBBBBBBBBBBBBBBBBJIGKIIIIGKIIIIOCIIIIIIFBCGBDDBCIECCIIKDBCjZBNBQNjNBDCDBbBEBEBCCIEEBhBQ",
     "EB6Lah6GhQBBDCBBBBBBEBBCBIDBBBBBBBBBBBBBBBBBBBBBBBBBBBBBBBBBBBBBBBBBBBBBBBBBBBBBBBBBBBBBBB",
     "BBBBBBBBBBBBBBBBBBBBBBBBBBBBBBBBBBBCHBBBEBMhGBBFB+oTBBBBBBBBBBBBBBBBBBBBBBBBBBBBBBBBBBBBBB",
     "BBBBBBBTBBBBBBBBBBBBBBBBBBBBBBBBBBDkFBBBBBBBBBBBBDBBBBBBBBBBBBBBBBBBBBBBBBBBBBBBBBBBBBBBBB",
     "BBBBBBBBBBBBBBBBBBBBBKBBBBCBBBBBBBBBEBBBCBBDBBBBBBBBBBBBBBBBBBBBFBFBBBBBBBBBBBBBBBEBBBCBDB",
     "BBBBBBBBBBWDBBBD5VhLBOGiQz6AHMFhhJahmNhIkIhEkbLBPBHBCuDBCDBhKBJhoFhTjdWi5ahA1sAhA5saaaHBSa",
     "aaEBBBHBLaaaaaaaaaaaaaaaaaccZBGaZBGaZBGaZBGaZBGBBh5UKBUGGoFheilUhC"]⟩,
  ⟨["Math"],
    ["hLBQDfBdBBBhNBEBhFBfB2YDCBaCCDwPDmwNBbDLBDBNBOEVFLFiBNEBDCEFSBEBCKBBCGGBDCCCBDBGDOBBiEYBGB",
     "CECEhABBGCOoMIEUCiaBebBBYBLHtdCMKEGECCCDFOBBBCGLIFChZBBBdEJDqQiAoAwAhQVCGhz+cB5XGBBlCBQDdB",
     "BBdBBBkDBGEjtBChxzQiVBiHBCCBCCCEBMBBBHBiBBECIBHBcBEBFBBDHBqUCpEChSlwAEBbBCBBCBBKBEBBBBGBEB",
     "BBBBBDBCBBCBBBBBBBBBBCBBCEBHBEBEBBBKBRFDBFBRhUC"]⟩,
  ⟨["MCM", "Modifier_Combining_Mark"], ["hyUCCBkDBGBDCvBCBDDBfB"]⟩,
  ⟨["NChar", "Noncharacter_Code_Point"],
    ["h=uQhAwOCh==eCh==eCh==eCh==eCh==eCh==eCh==eCh==eCh==eCh==eCh==eCh==eCh==eCh==eCh==eCh==eC"]⟩,
  ⟨["Pat_Syn", "Pattern_Syntax"],
    ["hBPKHaEBBaEhCHBBBCBBBCEBEBDBXBfBn4YYIPCTBKpR2QlAzWehjMwAkAsBDEZPBhzoNCoFC"]⟩,
  ⟨["Pat_WS", "Pattern_White_Space"], ["JFSBjEBn8ICYC"]⟩,
  ⟨["PCM", "Prepended_Concatenation_Mark"], ["hwAGmXBhRBsACiQBih+aBPB"]⟩,
  ⟨["QMark", "Quotation_Mark"], ["hCBEBkDBPBn6cIZCjwHBuJENDhzxBEldBEBiaC"]⟩,
  ⟨["Radical"], ["r0AaBiZMmW"]⟩,
  ⟨["RI", "Regional_Indicator"], ["j8vGa"]⟩,
  ⟨["STerm", "Sentence_Terminal"],
    ["hBBMBQBhqJBkTDlUBhLDnWBhdBBBDCpFCh3EC4WBEC4FBmGCmMBFBpaCrCElCCKCCCdDlbCiBC9cCJDjvEBNBWCtNB",
     "9ncBoOCnDBDBreCiWCifBkYCkTDkQCnZB0zGBDClJBMBQBiBBi3UChndFhMEldCjVEjfDkBCGBQCiYCBCjMBpKCjVC",
     "rVCFPjJCnZDwFBBBnbCiXCtEC1UCiKCy5JCkFBiBCLBxJCpIBzwGBnvIBi7WB"]⟩,
  ⟨["SD", "Soft_Dotted"],
    ["jJCmEBoZBeBhUBUBqABjCBBBmoJBhTBNBDBkEBkdBtFBmWCi5SBjp9FChSChSChSChSChSChSChSChSChSChSChSCh",
     "SCikGBpRCaB"]⟩,
  ⟨["Term", "Terminal_Punctuation"],
    ["hBBKBBBLCDB5eBIBwBBhZBiIBOBBDlUBhLLBBnLChWPfBoFChnUClMBEGpXC4VI4FBjcDiHCkdDDBhHECCpaCrCElC",
     "CKCBDdDlbFheC9cCJDjvEBNBEBKBBCDCtMC9nbCoNDnDFreCiWCifBkXDkTDjfBQCnZB0zEDBElJBKBBBLCDBiBBCB",
     "hhaBhQBhkGBmHBpWCkYGiEGiZE9YFhMEldHjQEjfDkBCGBQCiYFjMBpKCjVDMCrGEDPjJCnZDwFBBBnbCiXCECseDh",
     "NB0FCiKChpLFxvZCkFBiBDKBxJCpHCzwGBnvHEi7UB"]⟩,
  ⟨["UIdeo", "Unified_Ideograph"],
    ["tgAmuAiA0wA2wOCBBBCKBBBBCCDihuWhp3AhAkhaGmeCl0COnpRPzOktCk6LFkjA"]⟩,
  ⟨["Upper", "Uppercase"],
    ["iBajFXBHhBBBBBBBBBBBBBBBBBBBBBBBBBBBBBBBBBBBBBBBBBBBBBBBBBBBBBBBBCBBBBBBBBBBBBBBBCBBBBBBBB",
     "BBBBBBBBBBBBBBBBBBBBBBBBBBBBBBBBBBBBBBCBBBBDCBBBCBDCEBCBDDCBCBBBBBCBBCBBCBDBBBCDBHBCBCBCBB",
     "BBBBBBBBBBBBBCBBBBBBBBBBBBBBBBBCBCBBDBBBBBBBBBBBBBBBBBBBBBBBBBBBBBBBBBBBBBBBBBBBBBBBBBBBBB",
     "BBBBBHCBCCBBEBBBBBBBBpBBBBDBIBGBBDBBBCBRBJhDBCDDBBBBBBBBBBBBBBBBBBBBBBBFBCBBCChThQBBBBBBBB",
     "BBBBBBBBBBBBBBBBBBBBBBBBBJBBBBBBBBBBBBBBBBBBBBBBBBBBBBBBBBBBBBBBBBBBBBBBBBBBBBBBCBBBBBBBBB",
     "BBBCBBBBBBBBBBBBBBBBBBBBBBBBBBBBBBBBBBBBBBBBBBBBBBBBBBBBBBBBBBBBBBBBBBBBBBBBBBBBBBBBBBBBBB",
     "BBBBBBBBBChGi6JhGBBFB2SiWikTBGhLCDqABBBBBBBBBBBBBBBBBBBBBBBBBBBBBBBBBBBBBBBBBBBBBBBBBBBBBB",
     "BBBBBBBBBBBBBBBBBBBBBBBBBBBBBBBBBBBBBBBBBBBBBBBBBBBBBBBBBBBBBBBBBBBBBBBBBBBBBBBBBBBBBBBBBB",
     "BBBBBJBBBBBBBBBBBBBBBBBBBBBBBBBBBBBBBBBBBBBBBBBBBBBBBBBBBBBBBBBBBBBBBBBBBBBBBBBBBBBBBBBBBB",
     "BBBBBBBBBBBBBJIIGKIIIIGLBBBBBBBIIiIEMEMEMFLEoGBEBDDCDCBDFGBBBBBBECEKCFBaQTB5Sah5QhQhQBBDCB",
     "BBBBBEBBCBIDBBBBBBBBBBBBBBBBBBBBBBBBBBBBBBBBBBBBBBBBBBBBBBBBBBBBBBBBBBBBBBBBBBBBBBBBBBBBBB",
     "BBBBBBBBBBBBBBBBBBBBIBBBEB+qNBBBBBBBBBBBBBBBBBBBBBBBBBBBBBBBBBBBBBBBBBBBBBTBBBBBBBBBBBBBBB",
     "BBBBBBBBBBBBkHBBBBBBBBBBBBBDBBBBBBBBBBBBBBBBBBBBBBBBBBBBBBBBBBBBBBBBBBBBBBBBBBBBBBBBBBBBBK",
     "BBBBCBBBBBBBBEBBBCBBBDBBBBBBBBBBBBBBBBBBBBFBFBBBBBBBBBBBBBBBEBBBCDBFBBBBBBBYB15LahmFhIkIhE",
     "kcLBPBHBCh3KhTkdWi5ahA1sAhA5tAaaaaaaBBCCBCCCEBIaaaCBECIBHbCBEBFBBDHbaaaaaaaaaaaeZhBZhBZhBZ",
     "hBZhBBkpVhCigOaGaGa"]⟩,
  ⟨["VS", "Variation_Selector"], ["mgLDBBh5vQQ6g3QnQ"]⟩,
  ⟨["Space", "WSpace", "White_Space"], ["JFSBjEBaBlufBirfLdCFBhPBj9AB"]⟩,
  ⟨["XIDC", "XID_Continue"],
    ["hQKHaEBBahPBKBBBCBFXBfBuKEMOFHBBBRjVBCDDBBGFBBBUBiTBkLBFClGBhGCBGhJIhNBBBCBCBBIbEEdLFiKEjG",
     "BICKBTCBQhbCjFOhWEBCBChOScELFYBGIiLBkBCKBTBICCCWBHBBDECJCCCEIBECBFCMKBBBCDBGECCWBHBCBCBCCB",
     "BFECCDDBHEBBHQLDBJBDBWBHBCBFCKBDBDCBPECKJHBDBICCCWBHBCBFCJCCCDHDECBFCKBBQCBGDDBEDCBBBCDCDD",
     "DMEFDDBECBGBOKQNBDBXBQCJBDBEHCBDCBCECKQEBIBDBXBKBFCJBDBEHCGCBECKBDMNBDBhTBDBFFEHFCKKGBDBSD",
     "YBJBBCHDBEGBBBIGKCCNhaFPBKhHCBBBFBYBBBXCFBBBHBKCEhABXCGKLBBBBBEKBhEEUBSBhEJBhZiKGiOChGBBFB",
     "ChLBqNBECHBBBEChJBEChBBECHBBBECPBhZBECiDCDJJOQQiWCGDzMCRBaFiLDLHWJWLUMNBDBCMiUDBECCKhBDBLG",
     "iZHhLFiGKfBMEMKhICFLhMEaGLhFcEhfBdCLGKNBIOBQhRiNDKRJMjUMhYIKDhRCLFhLCDQDBhHFwWCGChGCGCIBBB",
     "BBBBfChVBHBBDDBHDECGENFDBHPChRCTBcBNBQNhTNEBDMRBEBCKBBCGGBBBBBBQCEFFEBRhJizXnFGJMhGBBFBChY",
     "HBPYJHBHBHBHBHBHBHBHBhAwFDZPBFCFEiWCCCDBifFhLBieRhAhQQwAmuAiA10NiDhOCoNDcUhQEKBjThFJCjHCiD",
     "CCBBBIVhWEBThUMiGKKGYDBBhRChEMdDiBOLGfBhXJOCKGXDiJYDCQCFKGCGCGJHBHBhLBOGjbBCCKGq9EMXEhRooE",
     "rOCjKhGHMFFMBNBFBBBCBCBjMhBkLGmaSiAChWhIKGQQQDCYDhBBBBDBBBBBBBBjeTKHaEBBaKiaDGCGCGCDhDMBaB",
     "TBCBPCOhCjbiFhVkIBkCdDhRPBfhANeFhLFeChEEIBFhKkeCKGhEEhEEhIIhUMLBPBHBCBLBPBHBCDhUMpXJWKIYGB",
     "hKBJiFGCBBhMBCDBCXKXJfiBTBCKWKaiGhYGCiAEBCFIBDBdCDEBhAdDdhDIBeZhWKWKTNSjOiJhXhTNhTNhIIKGhG",
     "DFBXnahKBCDCQDhXhBKBIhBfWhKVbXJiHfQJhcHBNZHKGhVBKEEIhECBJiFEEBNBBhDSBhFGEheHBBBEBPBKHhbFKG",
     "EBICCCWBHBCBFBKCCCDCBGBFHCHDFLKBBCBBhGBKBBCBBEBINCdiLFKEEeiGBBIKlGhWCJXGhCiBDBLKhGhZHKGUcb",
     "CPEKGHlZhbjFiKVICBCIBCBeBCCJMKiGIChOCIBCbhfIBIiKDBSiJmHhBPKGJBhNBJPKYeCWBOiJHBCBhMDBBCBJIK",
     "GGBCBhFBCBGHKpWXJRBhJDFNLiVBiP8ajGjPRmEiyMjBPhhQQWKj8bFyHm1Zhah2GxZHfBKGiPBKGeCFLhXJEMKJVF",
     "TtQhNDKmGiAkAiLEhZHRiACBCLCOl=YIhmWhJKo3HEBHBCBpDPBdDCBOEIsMioEjLFNDJHKDCkiRKwGhOCXweFDGII",
     "CHeEkUDtbiVBiHBCCBCCCEBMBBBHBiBBECIBHBcBEBFBBDHBqUCZBZBfBZBfBZBfBZBfBZBIChSwAhXEhSIBOBWFBP",
     "hiQfGGmVHBRCHBCBFFhehBBjQhNDOCKEBqBfRhauWhKmWhLvFHBEBCBPBmFLHhJiMEKhlGEBbBCBBCBBKBEBBBBGBE",
     "BBBBBBDBCBBCBBBBBBBBBBCBBCEBHBEBEBBBKBRFDBFBRjpUKhgGhp3AhAkhaGmeCl0COnpRPzOitCwehvCk6LFkjA",
     "13qQnQ"]⟩,
  ⟨["XIDS", "XID_Start"],
    ["iBaGahPBKBEBFXBfBuKEMOFHBBBkBFBCDDBBGBBDBBBUBiTBkLIlGBhGCBGhJiHbEEhNhLhDCBjDBBPCHCKDCBQBBe",
     "diZLBYhBJCEBFWEBJBDBXZHLFYBGRhKhahWDBSBHKPQEICCCWBHBBDEDBQBNCBDOCKBIGECCWBHBCBCBCfEBBTDQJB",
     "DBWBHBCBFDBSBPCXBLICCCWBHBCBFDBeCBDPBRBBGDDBEDCBBBCDCDDDMWBhUIBDBXBQDBaDCBCCeBEIBDBXBKBFDB",
     "fCBCPCRJBDBhJCBQBFDIDYGFSDYBJBBCHhahQBBNHhaCBBBFBYBBBKBBKBCFBBVEhABhfIBhEbFjThLUBQGEEDBDCH",
     "DENMBRhGBBFBChLBqNBECHBBBEChJBEChBBECHBBBECPBhZBECiDhFQQiWCGDzMCRBaFiLDLHSNTOSONBDPhUhDBEB",
     "iDiZHhJBBFiGKfhReCFLhMEahWXJhViSBidhPRIhWeNCKhMahEhJDKhECLFhLCDhJEBGBCDBFmAiAoWCGChGCGCIBB",
     "BBBBBfChVBHBBDDBHDECGENFDBHjUBNBQNjFBEBCKBBCGGBBBBBBQCEFFEBRhJizXnFGEDCMhGBBFBChYHBQXJHBHB",
     "HBHBHBHBHBHxGDZJHFCFEiWGDBiaBEFhLBieRhAhQQwAmuAiA10NiDhOCoNDQKCUhPQfCiQhHJCjHCiDCCBBBIVQBD",
     "BEBXdhUOhSheGDBBCLcKXZdHhPcBQFBKKFBhJXDBIUXDBDhSBBDCCFCBBBYDCLHDMGCGCGJHBHBhLBOGjTdq9EMXEh",
     "RooErOCjKhGHMFFBBKBNBFBBBCBCBjMhBkLGmaSiAChWhIKjXBBBDBBBBBBBBjehEaGaLhYCfDGCGCGCDhDMBaBTBC",
     "BPCOhCjbiFhVoLdDhRhPhANeFhGKeChEEIBFhKkeShEEhEEhIIhUMLBPBHBCBLBPBHBCDhUMpXJWKIYGBhKBJiFGCB",
     "BhMBCDBCXKXJfiBTBCKWKaiGhYGCiABPEBDBdhKdDdhDIBcbhWKWKTNSjOiJhXhTNhTNhEhGcJXnahKGCQDhbdKBIW",
     "hKShOVbXMhVhZCCBNhNhAZahEdBCBIhDDBMhQOEVBBBhDSBZTChfHBBBEBPBKHhPhGICCCWBHBCBFDBSBMFeKBBCBB",
     "hGBBZBBBhMhVSEUDehQUCBBlYhPhJEhEhQUBhbhLNBiHbhFHlZhMjUiAfICBCIBCBYPBBBieIChHQBBBcBKhIHBVBL",
     "hOTBSiJmHhBfJBhFRBhRejQHBCBhGVBZGBCBhAOBqHTPBBNBhCjcBiP8ajGjPRmEiyMjBPhhQRGZj8bFyHm1Zeh3Cx",
     "ZHfRiPReShQQEfVFTtQhNmTiAkAiLFBiCNiACBBcl=YIhmWhJKo3HEBHBCBpDPBdDCBOEIsMioEjLFNDJHKl7GiVBi",
     "HBCCBCCCEBMBBBHBiBBECIBHBcBEBFBBDHBqUCZBZBfBZBfBZBfBZBfBZBIh5UfGGoFhekShNKHQBqBeShMvEcnEeC",
     "BvPHBEBCBPBmFhbiEHBhlUEBbBCBBCBBKBEBBBBGBEBBBBBBDBCBBCBBBBBBBBBBCBBCEBHBEBEBBBKBRFDBFBRkqE",
     "hp3AhAkhaGmeCl0COnpRPzOitCwehvCk6LFkjA"]⟩]

end ParamSchema.Unicode
