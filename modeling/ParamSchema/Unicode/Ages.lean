import ParamSchema.Unicode.NamedSet

/-!
The versions of the standard in which characters were first assigned.
-/

namespace ParamSchema.Unicode

/-- The versions from the first on, each with what it added. -/
def ages : List NamedSet := [
  ⟨["1.1", "V1_1"],
    ["AvWEehYiZHhPBKWiGaCSCEBDBFHBBBUBhMBHDBBBBBBBBSNMBiCBMBhJJhVCCCCDcCICChXhGCHBhHBBhGKBJMbFFX",
     "BOBDBBaFTNOCiICFBPBeCKwHDBhVCSCFDZQDBICCCWBHBBDECBBHCCCDJBECBFCVHBCGECCWBHBCBCBCCBBFECCDLE",
     "BBHPMDBHBBBDBWBHBCBFCKBDBDCBPBFKRDBICCCWBHBCCECIDCCDICECBDELRCBGDDBEDCBBBCDCDDDIBDEFDDBEJB",
     "PMODBIBDBXBKBFEHBDBEHCJCEKSCBIBDBXBKBFEHBDBEHCHBBCEKSCBIBDBXBQEGCDBEJBICEKkRhaEdhFCBBCCBBC",
     "BGEBHBDBBBBCCBNBDCFBBBGCKCCuChGKhHEBEiaFiEFiSjgGkbFiaGWCGChGCGCIBBBBBBBfChVBPBOCGBTCDBJBhP",
     "BXhDHDbRLhFSehZahQNibVnSOBBjZkFhFbLVkLVkWKiQQUGiWkREBECcBhDBBBEDBBHCHOfDYBOiiBhYHBBiUEGCie",
     "GhIEieBQjAdDhEccDhSPMEhPBjXEjDCfmwB0tGwiamxOmSHMFGZBFBBBCBCBjMhBrNQiAChWhIMhEEMVEKBTBEEDBB",
     "BkHCBBieCieDGCGCGCDDHBHOD"]⟩,
  ⟨["2.0", "V2_0"],
    ["hsRRBNUBipbiIBhBHbEGBBBVDHBBj3BBwPBhi6Uq9EiqiaCh==eCh==eCh==eCh==eCh==eCh==eCh==eCh==eCh==",
     "eCh==eCh==eCh==eCh==ekggC"]⟩,
  ⟨["2.1", "V2_1"], ["olMBh36PB"]⟩,
  ⟨["3.0", "V3_0"],
    ["vWEeICSjVFhRBKFiXJTBjUBDBBBBBBBeBMBiCBMBhKCCEicCkcBmIDjCCFBPBhKFBOBeDbhVhRhuRCBSDYBJBBCHDB",
     "EGBBBISDrVBhLBXDHBBDBPCBhQhCBFBCBHDEGatGHBhfBBBECHBBBEChHBBBECfBBBECHBBBECHBHBXBfBBBECHBhH",
     "BTGchDiVMzWJdDiRkPidDKWPBKGiYIhKh8FBYGifDhSCiVCiIBjHJoNBjZBBekKCuJIhBBiWCsOoAhsAaBiZMmWaMh",
     "cDDBrBYyImtW0yKhkNDSCQBMBDBB1yWBhmbD"]⟩,
  ⟨["3.1", "V3_1"],
    ["=UCh+uahAhoQfBEMblVhGChGhy9SnWKhHDlUxCiVBiHBCCBCCCEBMBBBEBCBiBBECIBHBcBEBFBBDHBqSEpCEhSqgA",
     "hp2X0pJwe2hvDBejA"]⟩,
  ⟨["3.2", "V3_2"],
    ["xABpOBTNjICcBkTChZCCCCChRQqeCqBBiqFChwHNBHLXJUMNBDBCimTBGFEBHFNBheChSHiSPlIMnSOjcBehUocUkX",
     "KiYIWCiaMCKmeOiacEQoAwAhpbDiXCICieBnQQiRPiRP8vCCQBMBDB1rKhb8RBDQhVChMBnLC"]⟩,
  ⟨["4.0", "V4_0"],
    ["xBBSDjXChfRiQIFDkXFwEEJJiADkVCPBhNDdDtUBlYBiDBBBkIBiUDNBiDBhbBkBImBCi4fBSKoGdDMEMEBDhKCFjL",
     "hA4AjM3HCnGB0TCpOBoUCjUIOChieOh4PChRBhLCiOElHEjDCfBmuAiAhr=dBiJCtXMBaBTBCBPCOhCjbFDEhNDJyA",
     "eBBkGChGiQCK6WGCBBhMBCDBCBhy2AiXrKB4rhenQ"]⟩,
  ⟨["4.1", "V4_1"],
    ["xXLoWFkfEnWClKBhCDiDBSBhaGnRewPBiQBvHBhPB=JCpHCBBoKBhfBhfBhHBfBfBfBPBhHBXCfahvGhKGaGKEChAc",
     "CC6MiY0RCBHhRFdEhVBiQBPB0ELxcBjFCSLFQoOH6HGnMhPBhPhBjLOhNKhWJBQXJHBHBHBHBHBHBHBHhBYEC9CQlO",
     "B7pHWh6EXnJhM0yEjK5WK5GiLwVhEEOhxKEBCFIBDBbEDEJIJhx9HiGhieC"]⟩,
  ⟨["5.0", "V5_0"],
    ["yCOpLDqRBhKGQElGBwFhbsACBC7CCNCjwNiMEhNyHHhTC3MEidChVByXM2KBoUE6JHFEpcNHE+0fEFCoehY4kIaFBl",
     "3A7PkRjDNEhr3MShiYC"]⟩,
  ⟨["5.1", "V5_1"],
    ["7QECCiXBlXBkMQnCFLFhAFpOSvRCmeBhDBmOBdCjMBjMBaCICUIldBGBdCMGDHvLCjBBDDiNBFBCBHDEGaiAECigKB",
     "2VhLDMiGhYDPDhTqLclVEiaGrEBkLBieBhVEhoUBVKDEoIBfE5LFEhJDFoYDBDEGrChAYECT3cBlCU7uYIhpcpMUhA",
     "CSIckDFCjLjOFkAiFJMhGiULBlAhXJOCKCE0+ED7JMhUhOkCdDhRhyPaFBhx=JBn2WhMEjE"]⟩,
  ⟨["5.2", "V5_2"],
    ["hpEC2ahOCPmBBiNBGBhDCkABhuZEmBElcFiEFiSGwABzWJxQiGlUChOBiFhfBdCLGKGOxChDoKB1YDkXDhWByeB1VC",
     "dDEKBTBBEYiXB=dFoWBNCjLHpfBhgSM7rUIhoEhQtAiYpYKlGcjEdDiOBLECkAcEiDYFnAhOCKq9WXEhRozPDjuSWB",
     "JlaCqEhAkAhWDdCbFIkAiJwXfwBiCn5ehhPhvmRLFfCBLBBBCBDBDFIBHBZBBCCBKECBjPBPhCOJhtlXkhV"]⟩,
  ⟨["6.0", "V6_0"],
    ["hpGCnYBheBvAcCBmbCTBGCbFvaGtRBQBTBxdEiJC8CCijBhUIEvcB0YIcB5PL2aBTBBEdBECcBhDBBBEDJChUDYBOB",
     "OChtABOBhhYD9lFCpLCBCOKiQB4GGCGCGJHBH0kDQlheiOEe18QxZxuHCwkePCOCPBPiQBBLBBBCBDBDFIBHBKGJBB",
     "CCBKECBKiLaBChPJVClOhBPGBiGDUMhFBFVRPhfBBBlWBEDheSYkTFBQBDBBBBBBBDBGCEBBCEBMELhQiGhajUhv+M",
     "me"]⟩,
  ⟨["6.1", "V6_1"],
    ["hsPBjUB0bBBLhXbvRB=NCvHBFBhPDi1LDMGoAIhLEi2UBBBhpEChTBFBhYCmKK8sQBh1HIhDBnSCWBiNC3GXz5XCj6",
     "QhYGCh4QZHKGhVBOhciJHKhlGhYIK2hWiFLhPQR=zAEBbBCBBCBBKBEBBBBGBEBBBBBBDBCBBCBBBBBBBBBBCBBCEB",
     "HBEBEBBBKBRFDBFBRhUCzYC+UElcBQBDBBBBBBBDBGCEBBCEB"]⟩,
  ⟨["6.2", "V6_2"], ["olaB"]⟩,
  ⟨["6.3", "V6_3"], ["hwcBmyJE"]⟩,
  ⟨["7.0", "V7_0"],
    ["7fBtIIidCjWB0bBLGiMBjYBHBzfBhTBiMBjfBnEKioBIxECsRPxZCnNP2FD5WH4FBhiMDKaChAChCDMBIzKH+iVGnW",
     "MLDCCiFBvIfjdElQhQEC02BH6dCTBpfchDBhQhLsFhIIhULBkQpXJWKInYhfIJuQhAhAhHEMkJSHEMHhmPBmQhHiWB",
     "MBGULSBhLjShbFKHDBICCCWBHBCBFCJCCCDJBFHCHDFoLiIIKlGhWCShWiFLKyGiTMBuAhZijWhKmKMFBxuLfBKECj",
     "AeCGKiGKKBHBVFT0jQjLFNDJHKCIq6cmFCQh=IBhAWVCwUMJBiGBWMhFBFEFMRHiHBBBlWBEChfCEHdSBhJBiWiGCN",
     "hQiGKQNDEkMiVhLMEhYIKGhIIe"]⟩,
  ⟨["8.0", "V8_0"],
    ["ilTChOBwVBrABoEBh0VBCGjmABmLCizAE8+dJh2IBnQBhCGqECzCEMiQ0zOCi1QTBCFFlcCCQChO0AhTNhTHGhmJEO",
     "FlAHBBBEBPBLiWBiPBzZUpCaDPEQjiZBnGmEn1cyHhi8XLhwX0MPFBPmjdDiOCiPFhEInfBiLFnTCkLBxfJjHFhbBh",
     "vyfl0C"]⟩,
  ⟨["9.0", "V9_0"],
    ["ilWIWP8dBmOBEDBHXDj4HJrSBhvfEiyEC+rJBoWB2mHC5BhEEhEjqCBuBiaBBBBwCNhsTJBhNBOKdDhACWBO05JBfl",
     "=NT3T1oNHBRCHBCBFimViLFKECihbSkOB5eBhJBpMChBDxCGBIIBCMBMEPhGN"]⟩,
  ⟨["10.0", "V10_0"],
    ["ijALsRCncGwABhaCj9aBneE2FB5fBh+SBzSF3EB71HV46CDl2QiIIhUCXBFydHBCBhMDBBCBJIK00HBwhAodiRsMv7",
     "EGhjNChCCwHMTBIIBCZBSNhGGhYXh1mJnpR"]⟩,
  ⟨["11.0", "V11_0"],
    ["hrABhHBjGBwNDmTBpKBjXBsNBjfBi=TBhgXhLCDj3aDWZEPyLF3AB71bFh9fBICqEC4pUCSB1XhIIKuGhIIhKrTBjW",
     "DvUBpCB1bBnFhczBB2CGBCBhFBCBGHKpWZz6HibmqSFy3OUjeHmnYiEhjaBhuJBmbErUDcFCEDBBEYLNKHChEZjAO"]⟩,
  ⟨["12.0", "V12_0"],
    ["jjXBwOBCBCBBGEBHBHCCBNBjxfBj2OBhVByPB+rKGCF8fC5jYXhjIByYB3HIChOCLkfChpahSNBlhQJu4MGEBhPJia",
     "CmgOGqqYDREr8YhNDOCKECrQhaFBhyLB9VhdhhOBhrIBhEBnFMpBDhPBhRBJBhJGDCKGDICDhQiUcEEDFDNG"]⟩,
  ⟨["12.1", "V12_1"], ["s3fB"]⟩,
  ⟨["13.0", "V13_0"],
    ["ileK0NBtOBjcBjpdCkmWB1YD7IFm=WK0xQNh+KEhKChVB5bE1xQBjnDhKBDCCnecrbBkGC0KBFChkeHCBCIBCBeBCC",
     "MJKhyWB0hTBLCm4BvDhKJ5gEDidDhdBhpIChDCtTCiaBjFBEChKCGDdBlIBOEPTHHJDNHhJkTBhXhFKhq2dH2pCk6L"]⟩,
  ⟨["14.0", "V14_0"],
    ["hwdBySfBCGIVBSL7JBhABjfBixPBHBJBnPB1ROjdBhQCzbB2FBi7OBhPBvTL8sfDh+ACOCBBBFYD0+NBrdQjfBhOCh",
     "7QLBPBHBCBLBPBHBCuDGBhKBJh9VanGGiMBhvWBkGH7JQlmQjDuzdiPBKxpGEBHBCpAEnudhOCXJjUxFCjoVf7Rfhp",
     "RHBEBCBPj2eDoQBsIBiSBlOChMEKEIDRDGIIHhq=HCkiVE"]⟩,
  ⟨["15.0", "V15_0"],
    ["jnTBuaBighOD5fDileK=WRBhJDclmVBJd=mcBhCBorKUjiRGoFhehBBhiAhKkvCBkXDEFiZB0bDPChEDLDBBOCKCMB",
     "OChviAB3gWkjA"]⟩,
  ⟨["15.1", "V15_1"], ["r=cEvPBluwAzO"]⟩,
  ⟨["16.0", "V16_0"],
    ["ikXBk1WChPBoJCh8cDjtaC9vFDMD3vDhUh6MhGDdICpSDhXBhkDKBBCBBhGBKBBCBBEBKBCIC3NUhmchCOK7ABloFj",
     "8bnoFhajgGhan8FBv4AnaGtUl4chLEBk1SKECuHBFBhOBHBVBCBJBnBhF"]⟩]

end ParamSchema.Unicode
