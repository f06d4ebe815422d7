import SigCheck.CharName.Run

/-
  Names of pictures, further letters and tags, from U+1E000
  to U+10FFFF.

  Key definitions include:
    * `CharName.pictorial`
-/

namespace SigCheck

/- The runs of these names. -/
def CharName.pictorial : List NameRun :=
  [⟨0x1E000, ["aCOMBINING GLAGOLITIC LETTER AZUdBUKYdVEDE",
      "dGLAGOLIdDOBROdYESTUdZHIVETE"]⟩,
    ⟨0x1E008, ["aCOMBINING GLAGOLITIC LETTER ZEMLJAdIZHE",
      "dINITIAL IZHEdIdDJERVIdKAKOdLJUDIJEdMYSLITEdNASHIdONU",
      "dPOKOJIdRITSIdSLOVOdTVRIDOdUKUdFRITUdHERU"]⟩,
    ⟨0x1E01B, ["aCOMBINING GLAGOLITIC LETTER SHTAdTSIdCHRIVI",
      "dSHAdYERUdYERIdYATI"]⟩,
    ⟨0x1E023, ["aCOMBINING GLAGOLITIC LETTER YUdSMALL YUS"]⟩,
    ⟨0x1E026, ["aCOMBINING GLAGOLITIC LETTER YOdIOTATED ",
      "SMALL YUSdBIG YUSdIOTATED BIG YUSdFITA"]⟩,
    ⟨0x1E030, ["aMODIFIER LETTER CYRILLIC SMALL AeBEeVEeGHE",
      "eDEeIEeZHEeZEeIeKAeELeEMeOePEeEReESeTEeUeEFeHAeTSE",
      "eCHEeSHAeYERUeEeYUeDZZEeSCHWAeBYELORUSSIAN-UKRAINIAN ",
      "IeJEeBARRED OeSTRAIGHT UePALOCHKAaCYRILLIC SUBSCRIPT ",
      "SMALL LETTER AeBEeVEeGHEeDEeIEeZHEeZEeIeKAeELeOePEeES",
      "eUeEFeHAeTSEeCHEeSHAeHARD SIGNeYERUeGHE WITH UPTURN",
      "eBYELORUSSIAN-UKRAINIAN IeDZEeDZHEaMODIFIER LETTER ",
      "CYRILLIC SMALL ES WITH DESCENDEReYERU WITH BACK YER",
      "eSTRAIGHT U WITH STROKE"]⟩,
    ⟨0x1E08F, ["aCOMBINING CYRILLIC SMALL LETTER ",
      "BYELORUSSIAN-UKRAINIAN I"]⟩,
    ⟨0x1E100, ["aNYIAKENG PUACHUE HMONG LETTER MAeTSAeNTAeTA",
      "eHAeNAeXAeNKAeCAeLAeSAeZAeNCAeNTSAeKAeDAeNYAeNRAeVA",
      "eNTXAeTXAeFAeRAeQAeYAeNQAePAeXYAeNPAeDLAeNPLAeHAHeMLA",
      "ePLAeGAeRRAeAeAAeIeUeOeOOeEeEEeW"]⟩,
    ⟨0x1E130, ["aNYIAKENG PUACHUE HMONG TONE-BeMeJeVeSeGeD",
      "dSIGN FOR PERSONfTHINGfLOCATIONfANIMALfINVERTEBRATE",
      "eXW XWdSYLLABLE LENGTHENER"]⟩,
    ⟨0x1E140, ["aNYIAKENG PUACHUE HMONG DIGIT ZEROeONEeTWO",
      "eTHREEeFOUReFIVEeSIXeSEVENeEIGHTeNINE"]⟩,
    ⟨0x1E14E, ["aNYIAKENG PUACHUE HMONG LOGOGRAM NYAJ",
      "dCIRCLED CA"]⟩,
    ⟨0x1E290, ["aTOTO LETTER PAcBAcTAcDAcKAcGAcMAcNAcNGAcSA",
      "cCHAcYAcWAcJAcHAcRAcLAcIcBREATHY IcIUcBREATHY IUcUcE",
      "cBREATHY EcEOcBREATHY EOcOcAEcBREATHY AEcAbSIGN ",
      "RISING TONE"]⟩,
    ⟨0x1E2C0, ["aWANCHO LETTER AAcAcBAcCAcDAcGAcYAcPHAcLAcNA",
      "cPAcTAcTHAcFAcSAcSHAcJAcZAcWAcVAcKAcOcAUcRAcMAcKHAcHA",
      "cEcIcNGAcUcLLHAcTSAcTRAcONGcAANGcANGcINGcONcENcAAN",
      "cNYAcUENcYIHbTONE TUPcTUPNIcKOIcKOINIbDIGIT ZEROcONE",
      "cTWOcTHREEcFOURcFIVEcSIXcSEVENcEIGHTcNINE"]⟩,
    ⟨0x1E2FF, ["aWANCHO NGUN SIGN"]⟩,
    ⟨0x1E4D0, ["aNAG MUNDARI LETTER OdOPdOLdOYdONGdAdAJdAB",
      "dANYdAHdIdISdIDDdITdIHdUdUCdUDdUKdURdEdENNdEGdEMdEN",
      "dETTdELLcSIGN OJODdMUHORdTOYORdIKIRdSUTUHcDIGIT ZERO",
      "dONEdTWOdTHREEdFOURdFIVEdSIXdSEVENdEIGHTdNINE"]⟩,
    ⟨0x1E7E0, ["aETHIOPIC SYLLABLE HHYAcHHYUcHHYIcHHYAA",
      "cHHYEEcHHYEcHHYO"]⟩,
    ⟨0x1E7E8, ["aETHIOPIC SYLLABLE GURAGE HHWAcHHWIcHHWEE",
      "cHHWE"]⟩,
    ⟨0x1E7ED, ["aETHIOPIC SYLLABLE GURAGE MWIdMWEE"]⟩,
    ⟨0x1E7F0, ["aETHIOPIC SYLLABLE GURAGE QWIdQWEEdQWEdBWI",
      "dBWEEdKWIdKWEEdKWEdGWIdGWEEdGWEdFWIdFWEEdPWIdPWEE"]⟩,
    ⟨0x1E800, ["aMENDE KIKAKUI SYLLABLE M001 KIdM002 KA",
      "dM003 KUdM065 KEEdM095 KEdM076 KOOdM048 KOdM179 KUA",
      "dM004 WIdM005 WAdM006 WUdM126 WEEdM118 WEdM114 WOO",
      "dM045 WOdM194 WUIdM143 WEIdM061 WVIdM049 WVAdM139 WVE",
      "dM007 MINdM008 MANdM009 MUNdM059 MENdM094 MONdM154 ",
      "MUANdM189 MUENdM010 BIdM011 BAdM012 BUdM150 BEEdM097 ",
      "BEdM103 BOOdM138 BOdM013 IdM014 AdM015 UdM163 EE",
      "dM100 EdM165 OOdM147 OdM137 EIdM131 INdM135 INdM195 ",
      "ANdM178 ENdM019 SIdM020 SAdM021 SUdM162 SEEdM116 SE",
      "dM136 SOOdM079 SOdM196 SIAdM025 LIdM026 LAdM027 LU",
      "dM084 LEEdM073 LEdM054 LOOdM153 LOdM110 LONG LEdM016 ",
      "DIdM017 DAdM018 DUdM089 DEEdM180 DOOdM181 DOdM022 TI",
      "dM023 TAdM024 TUdM091 TEEdM055 TEdM104 TOOdM069 TO",
      "dM028 JIdM029 JAdM030 JUdM157 JEEdM113 JEdM160 JOO",
      "dM063 JOdM175 LONG JOdM031 YIdM032 YAdM033 YUdM109 ",
      "YEEdM080 YEdM141 YOOdM121 YOdM034 FIdM035 FAdM036 FU",
      "dM078 FEEdM075 FEdM133 FOOdM088 FOdM197 FUAdM101 FAN",
      "dM037 NINdM038 NANdM039 NUNdM117 NENdM169 NONdM176 HI",
      "dM041 HAdM186 HUdM040 HEEdM096 HEdM042 HOOdM140 HO",
      "dM083 HEEIdM128 HOOUdM053 HINdM130 HANdM087 HUNdM052 ",
      "HENdM193 HONdM046 HUANdM090 NGGIdM043 NGGAdM082 NGGU",
      "dM115 NGGEEdM146 NGGEdM156 NGGOOdM120 NGGOdM159 NGGAA",
      "dM127 NGGUAdM086 LONG NGGEdM106 LONG NGGOOdM183 LONG ",
      "NGGOdM155 GIdM111 GAdM168 GUdM190 GEEdM166 GUEIdM167 ",
      "GUANdM184 NGENdM057 NGONdM177 NGUANdM068 PIdM099 PA",
      "dM050 PUdM081 PEEdM051 PEdM102 POOdM066 POdM145 MBI",
      "dM062 MBAdM122 MBUdM047 MBEEdM188 MBEEdM072 MBEdM172 ",
      "MBOOdM174 MBOdM187 MBUUdM161 LONG MBEdM105 LONG MBOO",
      "dM142 LONG MBOdM132 KPIdM092 KPAdM074 KPUdM044 KPEE",
      "dM108 KPEdM112 KPOOdM158 KPOdM124 GBIdM056 GBAdM148 ",
      "GBUdM093 GBEEdM107 GBEdM071 GBOOdM070 GBOdM171 RA",
      "dM123 NDIdM129 NDAdM125 NDUdM191 NDEEdM119 NDEdM067 ",
      "NDOOdM064 NDOdM152 NJAdM192 NJUdM149 NJEEdM134 NJOO",
      "dM182 VIdM185 VAdM151 VUdM173 VEEdM085 VEdM144 VOO",
      "dM077 VOdM164 NYINdM058 NYANdM170 NYUNdM098 NYEN",
      "dM060 NYON"]⟩,
    ⟨0x1E8C7, ["aMENDE KIKAKUI DIGIT ONEdTWOdTHREEdFOURdFIVE",
      "dSIXdSEVENdEIGHTdNINEcCOMBINING NUMBER TEENSeTENS",
      "eHUNDREDSeTHOUSANDSeTEN THOUSANDSeHUNDRED THOUSANDS",
      "eMILLIONS"]⟩,
    ⟨0x1E900, ["aADLAM CAPITAL LETTER ALIFdDAALIdLAAMdMIIM",
      "dBAdSINNYIIYHEdPEdBHEdRAdEdFAdIdOdDHAdYHEdWAWdNUNdKAF",
      "dYAdUdJIIMdCHIdHAdQAAFdGAdNYAdTUdNHAdVAdKHAdGBEdZAL",
      "dKPOdSHAbSMALL LETTER ALIFdDAALIdLAAMdMIIMdBA",
      "dSINNYIIYHEdPEdBHEdRAdEdFAdIdOdDHAdYHEdWAWdNUNdKAFdYA",
      "dUdJIIMdCHIdHAdQAAFdGAdNYAdTUdNHAdVAdKHAdGBEdZALdKPO",
      "dSHAbALIF LENGTHENERbVOWEL LENGTHENERbGEMINATION MARK",
      "bHAMZAbCONSONANT MODIFIERbGEMINATE CONSONANT MODIFIER",
      "bNUKTAbNASALIZATION MARK"]⟩,
    ⟨0x1E950, ["aADLAM DIGIT ZEROcONEcTWOcTHREEcFOURcFIVE",
      "cSIXcSEVENcEIGHTcNINE"]⟩,
    ⟨0x1E95E, ["aADLAM INITIAL EXCLAMATION MARKcQUESTION ",
      "MARK"]⟩,
    ⟨0x1EC71, ["aINDIC SIYAQ NUMBER ONEdTWOdTHREEdFOURdFIVE",
      "dSIXdSEVENdEIGHTdNINEdTENdTWENTYdTHIRTYdFORTYdFIFTY",
      "dSIXTYdSEVENTYdEIGHTYdNINETYdONE HUNDREDdTWO HUNDRED",
      "dTHREE HUNDREDdFOUR HUNDREDdFIVE HUNDREDdSIX HUNDRED",
      "dSEVEN HUNDREDdEIGHT HUNDREDdNINE HUNDREDdONE ",
      "THOUSANDdTWO THOUSANDdTHREE THOUSANDdFOUR THOUSAND",
      "dFIVE THOUSANDdSIX THOUSANDdSEVEN THOUSANDdEIGHT ",
      "THOUSANDdNINE THOUSANDdTEN THOUSANDdTWENTY THOUSAND",
      "dTHIRTY THOUSANDdFORTY THOUSANDdFIFTY THOUSANDdSIXTY ",
      "THOUSANDdSEVENTY THOUSANDdEIGHTY THOUSANDdNINETY ",
      "THOUSANDdLAKHdLAKHANcLAKH MARKcNUMBER KARORdKARORAN",
      "dPREFIXED ONEeTWOeTHREEeFOUReFIVEeSIXeSEVENeEIGHT",
      "eNINEcPLACEHOLDERcFRACTION ONE QUARTEReHALFdTHREE ",
      "QUARTERScRUPEE MARKcNUMBER ALTERNATE ONEeTWOeTEN ",
      "THOUSANDcALTERNATE LAKH MARK"]⟩,
    ⟨0x1ED01, ["aOTTOMAN SIYAQ NUMBER ONEdTWOdTHREEdFOUR",
      "dFIVEdSIXdSEVENdEIGHTdNINEdTENdTWENTYdTHIRTYdFORTY",
      "dFIFTYdSIXTYdSEVENTYdEIGHTYdNINETYdONE HUNDREDdTWO ",
      "HUNDREDdTHREE HUNDREDdFOUR HUNDREDdFIVE HUNDREDdSIX ",
      "HUNDREDdSEVEN HUNDREDdEIGHT HUNDREDdNINE HUNDREDdONE ",
      "THOUSANDdTWO THOUSANDdTHREE THOUSANDdFOUR THOUSAND",
      "dFIVE THOUSANDdSIX THOUSANDdSEVEN THOUSANDdEIGHT ",
      "THOUSANDdNINE THOUSANDdTEN THOUSANDdTWENTY THOUSAND",
      "dTHIRTY THOUSANDdFORTY THOUSANDdFIFTY THOUSANDdSIXTY ",
      "THOUSANDdSEVENTY THOUSANDdEIGHTY THOUSANDdNINETY ",
      "THOUSANDcMARRATANcALTERNATE NUMBER TWOeTHREEeFOUR",
      "eFIVEeSIXeSEVENeEIGHTeNINEeTENeFOUR HUNDREDeSIX ",
      "HUNDREDeTWO THOUSANDeTEN THOUSANDcFRACTION ONE HALF",
      "eSIXTH"]⟩,
    ⟨0x1EE00, ["aARABIC MATHEMATICAL ALEFcBEHcJEEMcDAL"]⟩,
    ⟨0x1EE05, ["aARABIC MATHEMATICAL WAWcZAINcHAHcTAHcYEH",
      "cKAFcLAMcMEEMcNOONcSEENcAINcFEHcSADcQAFcREHcSHEENcTEH",
      "cTHEHcKHAHcTHALcDADcZAHcGHAINcDOTLESS BEHdNOONdFEH",
      "dQAF"]⟩,
    ⟨0x1EE21, ["aARABIC MATHEMATICAL INITIAL BEHdJEEM"]⟩,
    ⟨0x1EE24, ["aARABIC MATHEMATICAL INITIAL HEH"]⟩,
    ⟨0x1EE27, ["aARABIC MATHEMATICAL INITIAL HAH"]⟩,
    ⟨0x1EE29, ["aARABIC MATHEMATICAL INITIAL YEHdKAFdLAM",
      "dMEEMdNOONdSEENdAINdFEHdSADdQAF"]⟩,
    ⟨0x1EE34, ["aARABIC MATHEMATICAL INITIAL SHEENdTEHdTHEH",
      "dKHAH"]⟩,
    ⟨0x1EE39, ["aARABIC MATHEMATICAL INITIAL DAD"]⟩,
    ⟨0x1EE3B, ["aARABIC MATHEMATICAL INITIAL GHAIN"]⟩,
    ⟨0x1EE42, ["aARABIC MATHEMATICAL TAILED JEEM"]⟩,
    ⟨0x1EE47, ["aARABIC MATHEMATICAL TAILED HAH"]⟩,
    ⟨0x1EE49, ["aARABIC MATHEMATICAL TAILED YEH"]⟩,
    ⟨0x1EE4B, ["aARABIC MATHEMATICAL TAILED LAM"]⟩,
    ⟨0x1EE4D, ["aARABIC MATHEMATICAL TAILED NOONdSEENdAIN"]⟩,
    ⟨0x1EE51, ["aARABIC MATHEMATICAL TAILED SADdQAF"]⟩,
    ⟨0x1EE54, ["aARABIC MATHEMATICAL TAILED SHEEN"]⟩,
    ⟨0x1EE57, ["aARABIC MATHEMATICAL TAILED KHAH"]⟩,
    ⟨0x1EE59, ["aARABIC MATHEMATICAL TAILED DAD"]⟩,
    ⟨0x1EE5B, ["aARABIC MATHEMATICAL TAILED GHAIN"]⟩,
    ⟨0x1EE5D, ["aARABIC MATHEMATICAL TAILED DOTLESS NOON"]⟩,
    ⟨0x1EE5F, ["aARABIC MATHEMATICAL TAILED DOTLESS QAF"]⟩,
    ⟨0x1EE61, ["aARABIC MATHEMATICAL STRETCHED BEHdJEEM"]⟩,
    ⟨0x1EE64, ["aARABIC MATHEMATICAL STRETCHED HEH"]⟩,
    ⟨0x1EE67, ["aARABIC MATHEMATICAL STRETCHED HAHdTAHdYEH",
      "dKAF"]⟩,
    ⟨0x1EE6C, ["aARABIC MATHEMATICAL STRETCHED MEEMdNOON",
      "dSEENdAINdFEHdSADdQAF"]⟩,
    ⟨0x1EE74, ["aARABIC MATHEMATICAL STRETCHED SHEENdTEH",
      "dTHEHdKHAH"]⟩,
    ⟨0x1EE79, ["aARABIC MATHEMATICAL STRETCHED DADdZAHdGHAIN",
      "dDOTLESS BEH"]⟩,
    ⟨0x1EE7E, ["aARABIC MATHEMATICAL STRETCHED DOTLESS FEH"]⟩,
    ⟨0x1EE80, ["aARABIC MATHEMATICAL LOOPED ALEFdBEHdJEEM",
      "dDALdHEHdWAWdZAINdHAHdTAHdYEH"]⟩,
    ⟨0x1EE8B, ["aARABIC MATHEMATICAL LOOPED LAMdMEEMdNOON",
      "dSEENdAINdFEHdSADdQAFdREHdSHEENdTEHdTHEHdKHAHdTHAL",
      "dDADdZAHdGHAIN"]⟩,
    ⟨0x1EEA1, ["aARABIC MATHEMATICAL DOUBLE-STRUCK BEHeJEEM",
      "eDAL"]⟩,
    ⟨0x1EEA5, ["aARABIC MATHEMATICAL DOUBLE-STRUCK WAWeZAIN",
      "eHAHeTAHeYEH"]⟩,
    ⟨0x1EEAB, ["aARABIC MATHEMATICAL DOUBLE-STRUCK LAMeMEEM",
      "eNOONeSEENeAINeFEHeSADeQAFeREHeSHEENeTEHeTHEHeKHAH",
      "eTHALeDADeZAHeGHAIN"]⟩,
    ⟨0x1EEF0, ["aARABIC MATHEMATICAL OPERATOR MEEM WITH HAH ",
      "WITH TATWEELdHAH WITH DAL"]⟩,
    ⟨0x1F000, ["aMAHJONG TILE EAST WINDcSOUTH WINDcWEST WIND",
      "cNORTH WINDcRED DRAGONcGREEN DRAGONcWHITE DRAGONcONE ",
      "OF CHARACTERScTWO OF CHARACTERScTHREE OF CHARACTERS",
      "cFOUR OF CHARACTERScFIVE OF CHARACTERScSIX OF ",
      "CHARACTERScSEVEN OF CHARACTERScEIGHT OF CHARACTERS",
      "cNINE OF CHARACTERScONE OF BAMBOOScTWO OF BAMBOOS",
      "cTHREE OF BAMBOOScFOUR OF BAMBOOScFIVE OF BAMBOOS",
      "cSIX OF BAMBOOScSEVEN OF BAMBOOScEIGHT OF BAMBOOS",
      "cNINE OF BAMBOOScONE OF CIRCLEScTWO OF CIRCLEScTHREE ",
      "OF CIRCLEScFOUR OF CIRCLEScFIVE OF CIRCLEScSIX OF ",
      "CIRCLEScSEVEN OF CIRCLEScEIGHT OF CIRCLEScNINE OF ",
      "CIRCLEScPLUMcORCHIDcBAMBOOcCHRYSANTHEMUMcSPRING",
      "cSUMMERcAUTUMNcWINTERcJOKERcBACK"]⟩,
    ⟨0x1F030, ["aDOMINO TILE HORIZONTAL BACKcHORIZONTAL-00-",
      "00e01e02e03e04e05e06d01-00e01e02e03e04e05e06d02-00e01",
      "e02e03e04e05e06d03-00e01e02e03e04e05e06d04-00e01e02",
      "e03e04e05e06d05-00e01e02e03e04e05e06d06-00e01e02e03",
      "e04e05e06cVERTICAL BACKcVERTICAL-00-00e01e02e03e04e05",
      "e06d01-00e01e02e03e04e05e06d02-00e01e02e03e04e05e06",
      "d03-00e01e02e03e04e05e06d04-00e01e02e03e04e05e06d05-",
      "00e01e02e03e04e05e06d06-00e01e02e03e04e05e06"]⟩,
    ⟨0x1F0A0, ["aPLAYING CARD BACKcACE OF SPADEScTWO OF ",
      "SPADEScTHREE OF SPADEScFOUR OF SPADEScFIVE OF SPADES",
      "cSIX OF SPADEScSEVEN OF SPADEScEIGHT OF SPADEScNINE ",
      "OF SPADEScTEN OF SPADEScJACK OF SPADEScKNIGHT OF ",
      "SPADEScQUEEN OF SPADEScKING OF SPADES"]⟩,
    ⟨0x1F0B1, ["aPLAYING CARD ACE OF HEARTScTWO OF HEARTS",
      "cTHREE OF HEARTScFOUR OF HEARTScFIVE OF HEARTScSIX ",
      "OF HEARTScSEVEN OF HEARTScEIGHT OF HEARTScNINE OF ",
      "HEARTScTEN OF HEARTScJACK OF HEARTScKNIGHT OF HEARTS",
      "cQUEEN OF HEARTScKING OF HEARTScRED JOKER"]⟩,
    ⟨0x1F0C1, ["aPLAYING CARD ACE OF DIAMONDScTWO OF ",
      "DIAMONDScTHREE OF DIAMONDScFOUR OF DIAMONDScFIVE OF ",
      "DIAMONDScSIX OF DIAMONDScSEVEN OF DIAMONDScEIGHT OF ",
      "DIAMONDScNINE OF DIAMONDScTEN OF DIAMONDScJACK OF ",
      "DIAMONDScKNIGHT OF DIAMONDScQUEEN OF DIAMONDScKING ",
      "OF DIAMONDScBLACK JOKER"]⟩,
    ⟨0x1F0D1, ["aPLAYING CARD ACE OF CLUBScTWO OF CLUBS",
      "cTHREE OF CLUBScFOUR OF CLUBScFIVE OF CLUBScSIX OF ",
      "CLUBScSEVEN OF CLUBScEIGHT OF CLUBScNINE OF CLUBS",
      "cTEN OF CLUBScJACK OF CLUBScKNIGHT OF CLUBScQUEEN OF ",
      "CLUBScKING OF CLUBScWHITE JOKERcFOOLcTRUMP-1d2d3d4d5",
      "d6d7d8d9d10d11d12d13d14d15d16d17d18d19d20d21"]⟩,
    ⟨0x1F100, ["aDIGIT ZERO FULL STOPcCOMMAbONE COMMAbTWO ",
      "COMMAbTHREE COMMAbFOUR COMMAbFIVE COMMAbSIX COMMA",
      "bSEVEN COMMAbEIGHT COMMAbNINE COMMAaDINGBAT CIRCLED ",
      "SANS-SERIF DIGIT ZERObNEGATIVE CIRCLED SANS-SERIF ",
      "DIGIT ZEROaCIRCLED ZERO WITH SLASHbANTICLOCKWISE ",
      "ARROWbDOLLAR SIGN WITH OVERLAID BACKSLASH",
      "aPARENTHESIZED LATIN CAPITAL LETTER AeBeCeDeEeFeGeHeI",
      "eJeKeLeMeNeOePeQeReSeTeUeVeWeXeYeZaTORTOISE SHELL ",
      "BRACKETED LATIN CAPITAL LETTER SaCIRCLED ITALIC ",
      "LATIN CAPITAL LETTER CfRbCDbWZaCOPYLEFT SYMBOL",
      "aSQUARED LATIN CAPITAL LETTER AeBeCeDeEeFeGeHeIeJeKeL",
      "eMeNeOePeQeReSeTeUeVeWeXeYeZbHVbMVbSDbSSbPPVbWC",
      "aNEGATIVE CIRCLED LATIN CAPITAL LETTER AfBfCfDfEfFfG",
      "fHfIfJfKfLfMfNfOfPfQfRfSfTfUfVfWfXfYfZaRAISED MC SIGN",
      "bMD SIGNbMR SIGNaCIRCLED CCbC WITH OVERLAID BACKSLASH",
      "bHUMAN FIGUREaNEGATIVE SQUARED LATIN CAPITAL LETTER A",
      "fBfCfDfEfFfGfHfIfJfKfLfMfNfOfPfQfRfSfTfUfVfWfXfYfZ",
      "aCROSSED NEGATIVE SQUARED LATIN CAPITAL LETTER P",
      "aNEGATIVE SQUARED ICcPAcSAcABcWCaSQUARE DJaSQUARED CL",
      "bCOOLbFREEbIDbNEWbNGbOKbSOSbUP WITH EXCLAMATION MARK",
      "bVSbTHREE DbSECOND SCREENbTWO KbFOUR KbEIGHT KbFIVE ",
      "POINT ONEbSEVEN POINT ONEbTWENTY-TWO POINT TWObSIXTY ",
      "PbONE HUNDRED TWENTY PbLATIN SMALL LETTER DbHCbHDR",
      "bHI-RESbLOSSLESSbSHVbUHDbVODaMASK WORK SYMBOL"]⟩,
    ⟨0x1F1E6, ["aREGIONAL INDICATOR SYMBOL LETTER AeBeCeDeE",
      "eFeGeHeIeJeKeLeMeNeOePeQeReSeTeUeVeWeXeYeZaSQUARE ",
      "HIRAGANA HOKAaSQUARED KATAKANA KOKOcSA"]⟩,
    ⟨0x1F210, ["aSQUARED CJK UNIFIED IDEOGRAPH-624Be5B57",
      "e53CCbKATAKANA DEbCJK UNIFIED IDEOGRAPH-4E8Ce591A",
      "e89E3e5929e4EA4e6620e7121e6599e524De5F8Ce518De65B0",
      "e521De7D42e751Fe8CA9e58F0e5439e6F14e6295e6355e4E00",
      "e4E09e904Ae5DE6e4E2De53F3e6307e8D70e6253e7981e7A7A",
      "e5408e6E80e6709e6708e7533e5272e55B6e914D"]⟩,
    ⟨0x1F240, ["aTORTOISE SHELL BRACKETED CJK UNIFIED ",
      "IDEOGRAPH-672Cg4E09g4E8Cg5B89g70B9g6253g76D7g52DD",
      "g6557"]⟩,
    ⟨0x1F250, ["aCIRCLED IDEOGRAPH ADVANTAGEcACCEPT"]⟩,
    ⟨0x1F260, ["aROUNDED SYMBOL FOR FUdLUdSHOUdXIdSHUANGXI",
      "dCAI"]⟩,
    ⟨0x1F300, ["aCYCLONEaFOGGYaCLOSED UMBRELLAaNIGHT WITH ",
      "STARSaSUNRISE OVER MOUNTAINSaSUNRISEaCITYSCAPE AT ",
      "DUSKaSUNSET OVER BUILDINGSaRAINBOWaBRIDGE AT NIGHT",
      "aWATER WAVEaVOLCANOaMILKY WAYaEARTH GLOBE EUROPE-",
      "AFRICAcAMERICAScASIA-AUSTRALIAaGLOBE WITH MERIDIANS",
      "aNEW MOON SYMBOLaWAXING CRESCENT MOON SYMBOLaFIRST ",
      "QUARTER MOON SYMBOLaWAXING GIBBOUS MOON SYMBOLaFULL ",
      "MOON SYMBOLaWANING GIBBOUS MOON SYMBOLaLAST QUARTER ",
      "MOON SYMBOLaWANING CRESCENT MOON SYMBOLaCRESCENT MOON",
      "aNEW MOON WITH FACEaFIRST QUARTER MOON WITH FACE",
      "aLAST QUARTER MOON WITH FACEaFULL MOON WITH FACEaSUN ",
      "WITH FACEaGLOWING STARaSHOOTING STARaTHERMOMETER",
      "aBLACK DROPLETaWHITE SUNbSUN WITH SMALL CLOUDcBEHIND ",
      "CLOUDdCLOUD WITH RAINaCLOUD WITH RAINcSNOWcLIGHTNING",
      "cTORNADOaFOGaWIND BLOWING FACEaHOT DOGaTACOaBURRITO",
      "aCHESTNUTaSEEDLINGaEVERGREEN TREEaDECIDUOUS TREE",
      "aPALM TREEaCACTUSaHOT PEPPERaTULIPaCHERRY BLOSSOM",
      "aROSEaHIBISCUSaSUNFLOWERaBLOSSOMaEAR OF MAIZEcRICE",
      "aHERBaFOUR LEAF CLOVERaMAPLE LEAFaFALLEN LEAFaLEAF ",
      "FLUTTERING IN WINDaMUSHROOMaTOMATOaAUBERGINEaGRAPES",
      "aMELONaWATERMELONaTANGERINEaLEMONaBANANAaPINEAPPLE",
      "aRED APPLEaGREEN APPLEaPEARaPEACHaCHERRIESaSTRAWBERRY",
      "aHAMBURGERaSLICE OF PIZZAaMEAT ON BONEaPOULTRY LEG",
      "aRICE CRACKERbBALLaCOOKED RICEaCURRY AND RICE",
      "aSTEAMING BOWLaSPAGHETTIaBREADaFRENCH FRIESaROASTED ",
      "SWEET POTATOaDANGOaODENaSUSHIaFRIED SHRIMPaFISH CAKE ",
      "WITH SWIRL DESIGNaSOFT ICE CREAMaSHAVED ICEaICE CREAM",
      "aDOUGHNUTaCOOKIEaCHOCOLATE BARaCANDYaLOLLIPOPaCUSTARD",
      "aHONEY POTaSHORTCAKEaBENTO BOXaPOT OF FOODaCOOKING",
      "aFORK AND KNIFEaTEACUP WITHOUT HANDLEaSAKE BOTTLE ",
      "AND CUPaWINE GLASSaCOCKTAIL GLASSaTROPICAL DRINK",
      "aBEER MUGaCLINKING BEER MUGSaBABY BOTTLEaFORK AND ",
      "KNIFE WITH PLATEaBOTTLE WITH POPPING CORKaPOPCORN",
      "aRIBBONaWRAPPED PRESENTaBIRTHDAY CAKEaJACK-O-LANTERN",
      "aCHRISTMAS TREEaFATHER CHRISTMASaFIREWORKSaFIREWORK ",
      "SPARKLERaBALLOONaPARTY POPPERaCONFETTI BALLaTANABATA ",
      "TREEaCROSSED FLAGSaPINE DECORATIONaJAPANESE DOLLS",
      "aCARP STREAMERaWIND CHIMEaMOON VIEWING CEREMONY",
      "aSCHOOL SATCHELaGRADUATION CAPaHEART WITH TIP ON THE ",
      "LEFTaBOUQUET OF FLOWERSaMILITARY MEDALaREMINDER ",
      "RIBBONaMUSICAL KEYBOARD WITH JACKSaSTUDIO MICROPHONE",
      "aLEVEL SLIDERaCONTROL KNOBSaBEAMED ASCENDING MUSICAL ",
      "NOTESbDESCENDING MUSICAL NOTESaFILM FRAMESaADMISSION ",
      "TICKETSaCAROUSEL HORSEaFERRIS WHEELaROLLER COASTER",
      "aFISHING POLE AND FISHaMICROPHONEaMOVIE CAMERAaCINEMA",
      "aHEADPHONEaARTIST PALETTEaTOP HATaCIRCUS TENTaTICKET",
      "aCLAPPER BOARDaPERFORMING ARTSaVIDEO GAMEaDIRECT HIT",
      "aSLOT MACHINEaBILLIARDSaGAME DIEaBOWLINGaFLOWER ",
      "PLAYING CARDSaMUSICAL NOTEaMULTIPLE MUSICAL NOTES",
      "aSAXOPHONEaGUITARaMUSICAL KEYBOARDaTRUMPETaVIOLIN",
      "aMUSICAL SCOREaRUNNING SHIRT WITH SASHaTENNIS ",
      "RACQUET AND BALLaSKI AND SKI BOOTaBASKETBALL AND HOOP",
      "aCHEQUERED FLAGaSNOWBOARDERaRUNNERaSURFERaSPORTS ",
      "MEDALaTROPHYaHORSE RACINGaAMERICAN FOOTBALLaRUGBY ",
      "FOOTBALLaSWIMMERaWEIGHT LIFTERaGOLFERaRACING ",
      "MOTORCYCLEbCARaCRICKET BAT AND BALLaVOLLEYBALLaFIELD ",
      "HOCKEY STICK AND BALLaICE HOCKEY STICK AND PUCK",
      "aTABLE TENNIS PADDLE AND BALLaSNOW CAPPED MOUNTAIN",
      "aCAMPINGaBEACH WITH UMBRELLAaBUILDING CONSTRUCTION",
      "aHOUSE BUILDINGSaCITYSCAPEaDERELICT HOUSE BUILDING",
      "aCLASSICAL BUILDINGaDESERTaDESERT ISLANDaNATIONAL ",
      "PARKaSTADIUMaHOUSE BUILDINGbWITH GARDENaOFFICE ",
      "BUILDINGaJAPANESE POST OFFICEaEUROPEAN POST OFFICE",
      "aHOSPITALaBANKaAUTOMATED TELLER MACHINEaHOTELaLOVE ",
      "HOTELaCONVENIENCE STOREaSCHOOLaDEPARTMENT STORE",
      "aFACTORYaIZAKAYA LANTERNaJAPANESE CASTLEaEUROPEAN ",
      "CASTLEaWHITE PENNANTaBLACK PENNANTaWAVING WHITE FLAG",
      "bBLACK FLAGaROSETTEaBLACK ROSETTEaLABELaBADMINTON ",
      "RACQUET AND SHUTTLECOCKaBOW AND ARROWaAMPHORAaEMOJI ",
      "MODIFIER FITZPATRICK TYPE-1-2e3e4e5e6aRATaMOUSEaOX",
      "aWATER BUFFALOaCOWaTIGERaLEOPARDaRABBITaCATaDRAGON",
      "aCROCODILEaWHALEaSNAILaSNAKEaHORSEaRAMaGOATaSHEEP",
      "aMONKEYaROOSTERaCHICKENaDOGaPIGaBOARaELEPHANTaOCTOPUS",
      "aSPIRAL SHELLaBUGaANTaHONEYBEEaLADY BEETLEaFISH",
      "aTROPICAL FISHaBLOWFISHaTURTLEaHATCHING CHICKaBABY ",
      "CHICKaFRONT-FACING BABY CHICKaBIRDaPENGUINaKOALA",
      "aPOODLEaDROMEDARY CAMELaBACTRIAN CAMELaDOLPHINaMOUSE ",
      "FACEaCOW FACEaTIGER FACEaRABBIT FACEaCAT FACEaDRAGON ",
      "FACEaSPOUTING WHALEaHORSE FACEaMONKEY FACEaDOG FACE",
      "aPIG FACEaFROG FACEaHAMSTER FACEaWOLF FACEaBEAR FACE",
      "aPANDA FACEaPIG NOSEaPAW PRINTSaCHIPMUNKaEYESaEYEaEAR",
      "aNOSEaMOUTHaTONGUEaWHITE UP POINTING BACKHAND INDEX",
      "bDOWN POINTING BACKHAND INDEXbLEFT POINTING BACKHAND ",
      "INDEXbRIGHT POINTING BACKHAND INDEXaFISTED HAND SIGN",
      "aWAVING HAND SIGNaOK HAND SIGNaTHUMBS UP SIGNbDOWN ",
      "SIGNaCLAPPING HANDS SIGNaOPEN HANDS SIGNaCROWN",
      "aWOMANS HATaEYEGLASSESaNECKTIEaT-SHIRTaJEANSaDRESS",
      "aKIMONOaBIKINIaWOMANS CLOTHESaPURSEaHANDBAGaPOUCH",
      "aMANS SHOEaATHLETIC SHOEaHIGH-HEELED SHOEaWOMANS ",
      "SANDALbBOOTSaFOOTPRINTSaBUST IN SILHOUETTEaBUSTS IN ",
      "SILHOUETTEaBOYaGIRLaMANaWOMANaFAMILYaMAN AND WOMAN ",
      "HOLDING HANDSaTWO MEN HOLDING HANDSbWOMEN HOLDING ",
      "HANDSaPOLICE OFFICERaWOMAN WITH BUNNY EARSaBRIDE ",
      "WITH VEILaPERSON WITH BLOND HAIRaMAN WITH GUA PI MAO",
      "cTURBANaOLDER MANbWOMANaBABYaCONSTRUCTION WORKER",
      "aPRINCESSaJAPANESE OGREbGOBLINaGHOSTaBABY ANGEL",
      "aEXTRATERRESTRIAL ALIENaALIEN MONSTERaIMPaSKULL",
      "aINFORMATION DESK PERSONaGUARDSMANaDANCERaLIPSTICK",
      "aNAIL POLISHaFACE MASSAGEaHAIRCUTaBARBER POLEaSYRINGE",
      "aPILLaKISS MARKaLOVE LETTERaRINGaGEM STONEaKISS",
      "aBOUQUETaCOUPLE WITH HEARTaWEDDINGaBEATING HEART",
      "aBROKEN HEARTaTWO HEARTSaSPARKLING HEARTaGROWING ",
      "HEARTaHEART WITH ARROWaBLUE HEARTaGREEN HEARTaYELLOW ",
      "HEARTaPURPLE HEARTaHEART WITH RIBBONaREVOLVING HEARTS",
      "aHEART DECORATIONaDIAMOND SHAPE WITH A DOT INSIDE",
      "aELECTRIC LIGHT BULBaANGER SYMBOLaBOMBaSLEEPING ",
      "SYMBOLaCOLLISION SYMBOLaSPLASHING SWEAT SYMBOL",
      "aDROPLETaDASH SYMBOLaPILE OF POOaFLEXED BICEPSaDIZZY ",
      "SYMBOLaSPEECH BALLOONaTHOUGHT BALLOONaWHITE FLOWER",
      "aHUNDRED POINTS SYMBOLaMONEY BAGaCURRENCY EXCHANGE",
      "aHEAVY DOLLAR SIGNaCREDIT CARDaBANKNOTE WITH YEN SIGN",
      "cDOLLAR SIGNcEURO SIGNcPOUND SIGNaMONEY WITH WINGS",
      "aCHART WITH UPWARDS TREND AND YEN SIGNaSEATaPERSONAL ",
      "COMPUTERaBRIEFCASEaMINIDISCaFLOPPY DISKaOPTICAL DISC",
      "aDVDaFILE FOLDERaOPEN FILE FOLDERaPAGE WITH CURL",
      "bFACING UPaCALENDARaTEAR-OFF CALENDARaCARD INDEX",
      "aCHART WITH UPWARDS TRENDcDOWNWARDS TRENDaBAR CHART",
      "aCLIPBOARDaPUSHPINaROUND PUSHPINaPAPERCLIPaSTRAIGHT ",
      "RULERaTRIANGULAR RULERaBOOKMARK TABSaLEDGERaNOTEBOOK",
      "aNOTEBOOK WITH DECORATIVE COVERaCLOSED BOOKaOPEN BOOK",
      "aGREEN BOOKaBLUE BOOKaORANGE BOOKaBOOKSaNAME BADGE",
      "aSCROLLaMEMOaTELEPHONE RECEIVERaPAGERaFAX MACHINE",
      "aSATELLITE ANTENNAaPUBLIC ADDRESS LOUDSPEAKER",
      "aCHEERING MEGAPHONEaOUTBOX TRAYaINBOX TRAYaPACKAGEaE-",
      "MAIL SYMBOLaINCOMING ENVELOPEaENVELOPE WITH ",
      "DOWNWARDS ARROW ABOVEaCLOSED MAILBOX WITH LOWERED ",
      "FLAGdRAISED FLAGaOPEN MAILBOX WITH RAISED FLAG",
      "dLOWERED FLAGaPOSTBOXaPOSTAL HORNaNEWSPAPERaMOBILE ",
      "PHONEbPHONE WITH RIGHTWARDS ARROW AT LEFTaVIBRATION ",
      "MODEaMOBILE PHONE OFFaNO MOBILE PHONESaANTENNA WITH ",
      "BARSaCAMERAaCAMERA WITH FLASHaVIDEO CAMERAaTELEVISION",
      "aRADIOaVIDEOCASSETTEaFILM PROJECTORaPORTABLE STEREO",
      "aPRAYER BEADSaTWISTED RIGHTWARDS ARROWSaCLOCKWISE ",
      "RIGHTWARDS AND LEFTWARDS OPEN CIRCLE ARROWSgARROWS ",
      "WITH CIRCLED ONE OVERLAYbDOWNWARDS AND UPWARDS OPEN ",
      "CIRCLE ARROWSaANTICLOCKWISE DOWNWARDS AND UPWARDS ",
      "OPEN CIRCLE ARROWSaLOW BRIGHTNESS SYMBOLaHIGH ",
      "BRIGHTNESS SYMBOLaSPEAKER WITH CANCELLATION STROKE",
      "aSPEAKERaSPEAKER WITH ONE SOUND WAVEcTHREE SOUND ",
      "WAVESaBATTERYaELECTRIC PLUGaLEFT-POINTING MAGNIFYING ",
      "GLASSaRIGHT-POINTING MAGNIFYING GLASSaLOCK WITH INK ",
      "PENaCLOSED LOCK WITH KEYaKEYaLOCKaOPEN LOCKaBELL",
      "aBELL WITH CANCELLATION STROKEaBOOKMARKaLINK SYMBOL",
      "aRADIO BUTTONaBACK WITH LEFTWARDS ARROW ABOVEaEND ",
      "WITH LEFTWARDS ARROW ABOVEaON WITH EXCLAMATION MARK ",
      "WITH LEFT RIGHT ARROW ABOVEaSOON WITH RIGHTWARDS ",
      "ARROW ABOVEaTOP WITH UPWARDS ARROW ABOVEaNO ONE ",
      "UNDER EIGHTEEN SYMBOLaKEYCAP TENaINPUT SYMBOL FOR ",
      "LATIN CAPITAL LETTERSeSMALL LETTERSdNUMBERSdSYMBOLS",
      "dLATIN LETTERSaFIREaELECTRIC TORCHaWRENCHaHAMMERaNUT ",
      "AND BOLTaHOCHOaPISTOLaMICROSCOPEaTELESCOPEaCRYSTAL ",
      "BALLaSIX POINTED STAR WITH MIDDLE DOTaJAPANESE ",
      "SYMBOL FOR BEGINNERaTRIDENT EMBLEMaBLACK SQUARE ",
      "BUTTONaWHITE SQUARE BUTTONaLARGE RED CIRCLEbBLUE ",
      "CIRCLEbORANGE DIAMONDbBLUE DIAMONDaSMALL ORANGE ",
      "DIAMONDbBLUE DIAMONDaUP-POINTING RED TRIANGLEaDOWN-",
      "POINTING RED TRIANGLEaUP-POINTING SMALL RED TRIANGLE",
      "aDOWN-POINTING SMALL RED TRIANGLEaLOWER RIGHT ",
      "SHADOWED WHITE CIRCLEaUPPER RIGHT SHADOWED WHITE ",
      "CIRCLEaCIRCLED CROSS POMMEEaCROSS POMMEE WITH HALF-",
      "CIRCLE BELOWbPOMMEEaNOTCHED LEFT SEMICIRCLE WITH ",
      "THREE DOTSbRIGHT SEMICIRCLE WITH THREE DOTSaSYMBOL ",
      "FOR MARKS CHAPTERaWHITE LATIN CROSSaHEAVY LATIN CROSS",
      "aCELTIC CROSSaOM SYMBOLaDOVE OF PEACEaKAABAaMOSQUE",
      "aSYNAGOGUEaMENORAH WITH NINE BRANCHESaBOWL OF HYGIEIA",
      "aCLOCK FACE ONE OCLOCKcTWO OCLOCKcTHREE OCLOCKcFOUR ",
      "OCLOCKcFIVE OCLOCKcSIX OCLOCKcSEVEN OCLOCKcEIGHT ",
      "OCLOCKcNINE OCLOCKcTEN OCLOCKcELEVEN OCLOCKcTWELVE ",
      "OCLOCKcONE-THIRTYcTWO-THIRTYcTHREE-THIRTYcFOUR-THIRTY",
      "cFIVE-THIRTYcSIX-THIRTYcSEVEN-THIRTYcEIGHT-THIRTY",
      "cNINE-THIRTYcTEN-THIRTYcELEVEN-THIRTYcTWELVE-THIRTY",
      "aRIGHT SPEAKERbSPEAKER WITH ONE SOUND WAVEdTHREE ",
      "SOUND WAVESaBULLHORNaBULLHORN WITH SOUND WAVES",
      "aRINGING BELLaBOOKaCANDLEaMANTELPIECE CLOCKaBLACK ",
      "SKULL AND CROSSBONESaNO PIRACYaHOLEaMAN IN BUSINESS ",
      "SUIT LEVITATINGaSLEUTH OR SPYaDARK SUNGLASSESaSPIDER",
      "aSPIDER WEBaJOYSTICKaMAN DANCINGaLEFT HAND TELEPHONE ",
      "RECEIVERaTELEPHONE RECEIVER WITH PAGEaRIGHT HAND ",
      "TELEPHONE RECEIVERaWHITE TOUCHTONE TELEPHONEaBLACK ",
      "TOUCHTONE TELEPHONEaTELEPHONE ON TOP OF MODEM",
      "aCLAMSHELL MOBILE PHONEaBACK OF ENVELOPEaSTAMPED ",
      "ENVELOPEaENVELOPE WITH LIGHTNINGaFLYING ENVELOPEaPEN ",
      "OVER STAMPED ENVELOPEaLINKED PAPERCLIPSaBLACK PUSHPIN",
      "aLOWER LEFT PENCILcBALLPOINT PENcFOUNTAIN PEN",
      "cPAINTBRUSHcCRAYONaLEFT WRITING HANDaTURNED OK HAND ",
      "SIGNaRAISED HAND WITH FINGERS SPLAYEDaREVERSED ",
      "RAISED HAND WITH FINGERS SPLAYEDbTHUMBS UP SIGNcDOWN ",
      "SIGNbVICTORY HANDbHAND WITH MIDDLE FINGER EXTENDED",
      "aRAISED HAND WITH PART BETWEEN MIDDLE AND RING ",
      "FINGERSaWHITE DOWN POINTING LEFT HAND INDEXaSIDEWAYS ",
      "WHITE LEFT POINTING INDEXcRIGHT POINTING INDEXbBLACK ",
      "LEFT POINTING INDEXcRIGHT POINTING INDEXaBLACK LEFT ",
      "POINTING BACKHAND INDEXbRIGHT POINTING BACKHAND INDEX",
      "aSIDEWAYS WHITE UP POINTING INDEXcDOWN POINTING INDEX",
      "bBLACK UP POINTING INDEXcDOWN POINTING INDEXaBLACK ",
      "UP POINTING BACKHAND INDEXbDOWN POINTING BACKHAND ",
      "INDEXbHEARTaDESKTOP COMPUTERaKEYBOARD AND MOUSE",
      "aTHREE NETWORKED COMPUTERSaPRINTERaPOCKET CALCULATOR",
      "aBLACK HARD SHELL FLOPPY DISKaWHITE HARD SHELL ",
      "FLOPPY DISKaSOFT SHELL FLOPPY DISKaTAPE CARTRIDGE",
      "aWIRED KEYBOARDaONE BUTTON MOUSEaTWO BUTTON MOUSE",
      "aTHREE BUTTON MOUSEaTRACKBALLaOLD PERSONAL COMPUTER",
      "aHARD DISKaSCREENaPRINTER ICONaFAX ICONaOPTICAL DISC ",
      "ICONaDOCUMENT WITH TEXTcTEXT AND PICTUREcPICTURE",
      "aFRAME WITH PICTUREcTILEScAN XaBLACK FOLDERaFOLDER",
      "aOPEN FOLDERaCARD INDEX DIVIDERSbFILE BOXaFILE ",
      "CABINETaEMPTY NOTEbNOTE PAGEcPADaNOTEaNOTE PAGEbPAD",
      "aEMPTY DOCUMENTbPAGEbPAGESaDOCUMENTaPAGEaPAGES",
      "aWASTEBASKETaSPIRAL NOTE PADbCALENDAR PADaDESKTOP ",
      "WINDOWaMINIMIZEaMAXIMIZEaOVERLAPaCLOCKWISE RIGHT AND ",
      "LEFT SEMICIRCLE ARROWSaCANCELLATION XaINCREASE FONT ",
      "SIZE SYMBOLaDECREASE FONT SIZE SYMBOLaCOMPRESSION",
      "aOLD KEYaROLLED-UP NEWSPAPERaPAGE WITH CIRCLED TEXT",
      "aSTOCK CHARTaDAGGER KNIFEaLIPSaSPEAKING HEAD IN ",
      "SILHOUETTEaTHREE RAYS ABOVEcBELOWcLEFTcRIGHTaLEFT ",
      "SPEECH BUBBLEaRIGHT SPEECH BUBBLEaTWO SPEECH BUBBLES",
      "aTHREE SPEECH BUBBLESaLEFT THOUGHT BUBBLEaRIGHT ",
      "THOUGHT BUBBLEaLEFT ANGER BUBBLEaRIGHT ANGER BUBBLE",
      "aMOOD BUBBLEaLIGHTNING MOOD BUBBLEbMOODaBALLOT BOX ",
      "WITH BALLOTbSCRIPT XbBOX WITH SCRIPT XbBOLD SCRIPT X",
      "bBOX WITH BOLD SCRIPT XaLIGHT CHECK MARKaBALLOT BOX ",
      "WITH BOLD CHECKaWORLD MAPaMOUNT FUJIaTOKYO TOWER",
      "aSTATUE OF LIBERTYaSILHOUETTE OF JAPANaMOYAI",
      "aGRINNING FACEbFACE WITH SMILING EYESaFACE WITH ",
      "TEARS OF JOYaSMILING FACE WITH OPEN MOUTHeMOUTH AND ",
      "SMILING EYESgCOLD SWEATgTIGHTLY-CLOSED EYESdHALO",
      "dHORNSaWINKING FACEaSMILING FACE WITH SMILING EYES",
      "aFACE SAVOURING DELICIOUS FOODaRELIEVED FACEaSMILING ",
      "FACE WITH HEART-SHAPED EYESdSUNGLASSESaSMIRKING FACE",
      "aNEUTRAL FACEaEXPRESSIONLESS FACEaUNAMUSED FACEaFACE ",
      "WITH COLD SWEATaPENSIVE FACEaCONFUSED FACE",
      "aCONFOUNDED FACEaKISSING FACEaFACE THROWING A KISS",
      "aKISSING FACE WITH SMILING EYESdCLOSED EYESaFACE ",
      "WITH STUCK-OUT TONGUEeTONGUE AND WINKING EYEgTIGHTLY-",
      "CLOSED EYESaDISAPPOINTED FACEaWORRIED FACEaANGRY FACE",
      "aPOUTING FACEaCRYING FACEaPERSEVERING FACEaFACE WITH ",
      "LOOK OF TRIUMPHaDISAPPOINTED BUT RELIEVED FACE",
      "aFROWNING FACE WITH OPEN MOUTHaANGUISHED FACE",
      "aFEARFUL FACEaWEARY FACEaSLEEPY FACEaTIRED FACE",
      "aGRIMACING FACEaLOUDLY CRYING FACEaFACE WITH OPEN ",
      "MOUTHaHUSHED FACEaFACE WITH OPEN MOUTH AND COLD SWEAT",
      "bSCREAMING IN FEARaASTONISHED FACEaFLUSHED FACE",
      "aSLEEPING FACEaDIZZY FACEaFACE WITHOUT MOUTHbWITH ",
      "MEDICAL MASKaGRINNING CAT FACE WITH SMILING EYESaCAT ",
      "FACE WITH TEARS OF JOYaSMILING CAT FACE WITH OPEN ",
      "MOUTHeHEART-SHAPED EYESaCAT FACE WITH WRY SMILE",
      "aKISSING CAT FACE WITH CLOSED EYESaPOUTING CAT FACE",
      "aCRYING CAT FACEaWEARY CAT FACEaSLIGHTLY FROWNING ",
      "FACEbSMILING FACEaUPSIDE-DOWN FACEaFACE WITH ROLLING ",
      "EYEScNO GOOD GESTUREcOK GESTUREaPERSON BOWING DEEPLY",
      "aSEE-NO-EVIL MONKEYaHEAR-NO-EVIL MONKEYaSPEAK-NO-",
      "EVIL MONKEYaHAPPY PERSON RAISING ONE HANDaPERSON ",
      "RAISING BOTH HANDS IN CELEBRATIONbFROWNINGbWITH ",
      "POUTING FACEcFOLDED HANDSaNORTH WEST POINTING LEAF",
      "aSOUTH WEST POINTING LEAFaNORTH EAST POINTING LEAF",
      "aSOUTH EAST POINTING LEAFaTURNED NORTH WEST POINTING ",
      "LEAFbSOUTH WEST POINTING LEAFbNORTH EAST POINTING ",
      "LEAFbSOUTH EAST POINTING LEAFaNORTH WEST POINTING ",
      "VINE LEAFaSOUTH WEST POINTING VINE LEAFaNORTH EAST ",
      "POINTING VINE LEAFaSOUTH EAST POINTING VINE LEAF",
      "aHEAVY NORTH WEST POINTING VINE LEAFbSOUTH WEST ",
      "POINTING VINE LEAFbNORTH EAST POINTING VINE LEAF",
      "bSOUTH EAST POINTING VINE LEAFaNORTH WEST POINTING ",
      "BUDaSOUTH WEST POINTING BUDaNORTH EAST POINTING BUD",
      "aSOUTH EAST POINTING BUDaHEAVY NORTH WEST POINTING ",
      "BUDbSOUTH WEST POINTING BUDbNORTH EAST POINTING BUD",
      "bSOUTH EAST POINTING BUDaHOLLOW QUILT SQUARE ORNAMENT",
      "dORNAMENT IN BLACK SQUAREaSOLID QUILT SQUARE ORNAMENT",
      "dORNAMENT IN BLACK SQUAREaLEFTWARDS ROCKETaUPWARDS ",
      "ROCKETaRIGHTWARDS ROCKETaDOWNWARDS ROCKETaSCRIPT ",
      "LIGATURE ET ORNAMENTaHEAVY SCRIPT LIGATURE ET ",
      "ORNAMENTaLIGATURE OPEN ET ORNAMENTaHEAVY LIGATURE ",
      "OPEN ET ORNAMENTbAMPERSAND ORNAMENTaSWASH AMPERSAND ",
      "ORNAMENTaSANS-SERIF HEAVY DOUBLE TURNED COMMA ",
      "QUOTATION MARK ORNAMENTeCOMMA QUOTATION MARK ORNAMENT",
      "dLOW DOUBLE COMMA QUOTATION MARK ORNAMENTaHEAVY ",
      "INTERROBANG ORNAMENTaSANS-SERIF INTERROBANG ORNAMENT",
      "aHEAVY SANS-SERIF INTERROBANG ORNAMENTaVERY HEAVY ",
      "SOLIDUScREVERSE SOLIDUSaCHECKER BOARDaREVERSE ",
      "CHECKER BOARDaROCKETaHELICOPTERaSTEAM LOCOMOTIVE",
      "aRAILWAY CARaHIGH-SPEED TRAINcTRAIN WITH BULLET NOSE",
      "aTRAINaMETROaLIGHT RAILaSTATIONaTRAMaTRAM CARaBUS",
      "aONCOMING BUSaTROLLEYBUSaBUS STOPaMINIBUSaAMBULANCE",
      "aFIRE ENGINEaPOLICE CARaONCOMING POLICE CARaTAXI",
      "aONCOMING TAXIaAUTOMOBILEaONCOMING AUTOMOBILE",
      "aRECREATIONAL VEHICLEaDELIVERY TRUCKaARTICULATED ",
      "LORRYaTRACTORaMONORAILaMOUNTAIN RAILWAYaSUSPENSION ",
      "RAILWAYaMOUNTAIN CABLEWAYaAERIAL TRAMWAYaSHIPaROWBOAT",
      "aSPEEDBOATaHORIZONTAL TRAFFIC LIGHTaVERTICAL TRAFFIC ",
      "LIGHTaCONSTRUCTION SIGNaPOLICE CARS REVOLVING LIGHT",
      "aTRIANGULAR FLAG ON POSTaDOORaNO ENTRY SIGNaSMOKING ",
      "SYMBOLaNO SMOKING SYMBOLaPUT LITTER IN ITS PLACE ",
      "SYMBOLaDO NOT LITTER SYMBOLaPOTABLE WATER SYMBOLaNON-",
      "POTABLE WATER SYMBOLaBICYCLEaNO BICYCLESaBICYCLIST",
      "aMOUNTAIN BICYCLISTaPEDESTRIANaNO PEDESTRIANS",
      "aCHILDREN CROSSINGaMENS SYMBOLaWOMENS SYMBOLaRESTROOM",
      "aBABY SYMBOLaTOILETaWATER CLOSETaSHOWERaBATHaBATHTUB",
      "aPASSPORT CONTROLaCUSTOMSaBAGGAGE CLAIMaLEFT LUGGAGE",
      "aTRIANGLE WITH ROUNDED CORNERSaPROHIBITED SIGN",
      "aCIRCLED INFORMATION SOURCEaBOYS SYMBOLaGIRLS SYMBOL",
      "aCOUCH AND LAMPaSLEEPING ACCOMMODATIONaSHOPPING BAGS",
      "aBELLHOP BELLaBEDaPLACE OF WORSHIPaOCTAGONAL SIGN",
      "aSHOPPING TROLLEYaSTUPAaPAGODAaHINDU TEMPLEaHUT",
      "aELEVATOR"]⟩,
    ⟨0x1F6DC, ["aWIRELESSaPLAYGROUND SLIDEaWHEELaRING BUOY",
      "aHAMMER AND WRENCHaSHIELDaOIL DRUMaMOTORWAYaRAILWAY ",
      "TRACKaMOTOR BOATaUP-POINTING MILITARY AIRPLANE",
      "cAIRPLANEcSMALL AIRPLANEaSMALL AIRPLANEaNORTHEAST-",
      "POINTING AIRPLANEaAIRPLANE DEPARTUREbARRIVING"]⟩,
    ⟨0x1F6F0, ["aSATELLITEaONCOMING FIRE ENGINEaDIESEL ",
      "LOCOMOTIVEaPASSENGER SHIPaSCOOTERaMOTOR SCOOTERaCANOE",
      "aSLEDaFLYING SAUCERaSKATEBOARDaAUTO RICKSHAWaPICKUP ",
      "TRUCKaROLLER SKATE"]⟩,
    ⟨0x1F700, ["aALCHEMICAL SYMBOL FOR QUINTESSENCEdAIRdFIRE",
      "dEARTHdWATERdAQUAFORTISdAQUA REGIAeREGIA-2eVITAE",
      "eVITAE-2dVINEGARdVINEGAR-2e3dSULFURdPHILOSOPHERS ",
      "SULFURdBLACK SULFURdMERCURY SUBLIMATEeSUBLIMATE-2f3",
      "dCINNABARdSALTdNITREdVITRIOLdVITRIOL-2dROCK SALT",
      "eSALT-2dGOLDdSILVERdIRON OREeORE-2dCROCUS OF IRON",
      "dREGULUS OF IRONdCOPPER OREdIRON-COPPER ORE",
      "dSUBLIMATE OF COPPERdCROCUS OF COPPERfCOPPER-2",
      "dCOPPER ANTIMONIATEdSALT OF COPPER ANTIMONIATE",
      "dSUBLIMATE OF SALT OF COPPERdVERDIGRISdTIN OREdLEAD ",
      "OREdANTIMONY OREdSUBLIMATE OF ANTIMONYdSALT OF ",
      "ANTIMONYdSUBLIMATE OF SALT OF ANTIMONYdVINEGAR OF ",
      "ANTIMONYdREGULUS OF ANTIMONYfANTIMONY-2dREGULUS",
      "dREGULUS-2e3e4dALKALIdALKALI-2dMARCASITEdSAL-AMMONIAC",
      "dARSENICdREALGARdREALGAR-2dAURIPIGMENTdBISMUTH ORE",
      "dTARTARdTARTAR-2dQUICK LIMEdBORAXdBORAX-2e3dALUMdOIL",
      "dSPIRITdTINCTUREdGUMdWAXdPOWDERdCALXdTUTTYdCAPUT ",
      "MORTUUMdSCEPTER OF JOVEdCADUCEUSdTRIDENTdSTARRED ",
      "TRIDENTdLODESTONEdSOAPdURINEdHORSE DUNGdASHESdPOT ",
      "ASHESdBRICKdPOWDERED BRICKdAMALGAMdSTRATUM SUPER ",
      "STRATUMfSTRATUM-2dSUBLIMATIONdPRECIPITATEdDISTILL",
      "dDISSOLVEdDISSOLVE-2dPURIFYdPUTREFACTIONdCRUCIBLE",
      "dCRUCIBLE-2e3e4e5dALEMBICdBATH OF MARYfVAPOURSdRETORT",
      "dHOURdNIGHTdDAY-NIGHTdMONTHdHALF DRAMeOUNCEaLOT OF ",
      "FORTUNEaOCCULTATIONaLUNAR ECLIPSE"]⟩,
    ⟨0x1F77B, ["aHAUMEAaMAKEMAKEaGONGGONGaQUAOARaORCUS",
      "aBLACK LEFT-POINTING ISOSCELES RIGHT TRIANGLEbUP-",
      "POINTING ISOSCELES RIGHT TRIANGLEbRIGHT-POINTING ",
      "ISOSCELES RIGHT TRIANGLEbDOWN-POINTING ISOSCELES ",
      "RIGHT TRIANGLEbSLIGHTLY SMALL CIRCLEaMEDIUM BOLD ",
      "WHITE CIRCLEaBOLD WHITE CIRCLEaHEAVY WHITE CIRCLE",
      "aVERY HEAVY WHITE CIRCLEaEXTREMELY HEAVY WHITE CIRCLE",
      "aWHITE CIRCLE CONTAINING BLACK SMALL CIRCLEaROUND ",
      "TARGETaBLACK TINY SQUAREbSLIGHTLY SMALL SQUAREaLIGHT ",
      "WHITE SQUAREaMEDIUM WHITE SQUAREaBOLD WHITE SQUARE",
      "aHEAVY WHITE SQUAREaVERY HEAVY WHITE SQUARE",
      "aEXTREMELY HEAVY WHITE SQUAREaWHITE SQUARE ",
      "CONTAINING BLACK VERY SMALL SQUAREeMEDIUM SQUARE",
      "aSQUARE TARGETaBLACK TINY DIAMONDbVERY SMALL DIAMOND",
      "bMEDIUM SMALL DIAMONDaWHITE DIAMOND CONTAINING BLACK ",
      "VERY SMALL DIAMONDeMEDIUM DIAMONDaDIAMOND TARGET",
      "aBLACK TINY LOZENGEbVERY SMALL LOZENGEbMEDIUM SMALL ",
      "LOZENGEaWHITE LOZENGE CONTAINING BLACK SMALL LOZENGE",
      "aTHIN GREEK CROSSaLIGHT GREEK CROSSaMEDIUM GREEK ",
      "CROSSaBOLD GREEK CROSSaVERY BOLD GREEK CROSSbHEAVY ",
      "GREEK CROSSaEXTREMELY HEAVY GREEK CROSSaTHIN SALTIRE",
      "aLIGHT SALTIREaMEDIUM SALTIREaBOLD SALTIREaHEAVY ",
      "SALTIREaVERY HEAVY SALTIREaEXTREMELY HEAVY SALTIRE",
      "aLIGHT FIVE SPOKED ASTERISKaMEDIUM FIVE SPOKED ",
      "ASTERISKaBOLD FIVE SPOKED ASTERISKaHEAVY FIVE SPOKED ",
      "ASTERISKaVERY HEAVY FIVE SPOKED ASTERISKaEXTREMELY ",
      "HEAVY FIVE SPOKED ASTERISKaLIGHT SIX SPOKED ASTERISK",
      "aMEDIUM SIX SPOKED ASTERISKaBOLD SIX SPOKED ASTERISK",
      "aHEAVY SIX SPOKED ASTERISKaVERY HEAVY SIX SPOKED ",
      "ASTERISKaEXTREMELY HEAVY SIX SPOKED ASTERISKaLIGHT ",
      "EIGHT SPOKED ASTERISKaMEDIUM EIGHT SPOKED ASTERISK",
      "aBOLD EIGHT SPOKED ASTERISKaHEAVY EIGHT SPOKED ",
      "ASTERISKaVERY HEAVY EIGHT SPOKED ASTERISKaLIGHT ",
      "THREE POINTED BLACK STARaMEDIUM THREE POINTED BLACK ",
      "STARaTHREE POINTED BLACK STARaMEDIUM THREE POINTED ",
      "PINWHEEL STARaLIGHT FOUR POINTED BLACK STARaMEDIUM ",
      "FOUR POINTED BLACK STARaFOUR POINTED BLACK STAR",
      "aMEDIUM FOUR POINTED PINWHEEL STARaREVERSE LIGHT ",
      "FOUR POINTED PINWHEEL STARaLIGHT FIVE POINTED BLACK ",
      "STARaHEAVY FIVE POINTED BLACK STARaMEDIUM SIX ",
      "POINTED BLACK STARaHEAVY SIX POINTED BLACK STARaSIX ",
      "POINTED PINWHEEL STARaMEDIUM EIGHT POINTED BLACK STAR",
      "aHEAVY EIGHT POINTED BLACK STARaVERY HEAVY EIGHT ",
      "POINTED BLACK STARaHEAVY EIGHT POINTED PINWHEEL STAR",
      "aLIGHT TWELVE POINTED BLACK STARaHEAVY TWELVE ",
      "POINTED BLACK STARdPINWHEEL STARaCIRCLED TRIANGLE",
      "aNEGATIVE CIRCLED TRIANGLEaCIRCLED SQUAREaNEGATIVE ",
      "CIRCLED SQUAREaNINE POINTED WHITE STAR"]⟩,
    ⟨0x1F7E0, ["aLARGE ORANGE CIRCLEbYELLOW CIRCLEbGREEN ",
      "CIRCLEbPURPLE CIRCLEbBROWN CIRCLEbRED SQUAREbBLUE ",
      "SQUAREbORANGE SQUAREbYELLOW SQUAREbGREEN SQUARE",
      "bPURPLE SQUAREbBROWN SQUARE"]⟩,
    ⟨0x1F7F0, ["aHEAVY EQUALS SIGN"]⟩,
    ⟨0x1F800, ["aLEFTWARDS ARROW WITH SMALL TRIANGLE ",
      "ARROWHEADaUPWARDS ARROW WITH SMALL TRIANGLE ARROWHEAD",
      "aRIGHTWARDS ARROW WITH SMALL TRIANGLE ARROWHEAD",
      "aDOWNWARDS ARROW WITH SMALL TRIANGLE ARROWHEAD",
      "aLEFTWARDS ARROW WITH MEDIUM TRIANGLE ARROWHEAD",
      "aUPWARDS ARROW WITH MEDIUM TRIANGLE ARROWHEAD",
      "aRIGHTWARDS ARROW WITH MEDIUM TRIANGLE ARROWHEAD",
      "aDOWNWARDS ARROW WITH MEDIUM TRIANGLE ARROWHEAD",
      "aLEFTWARDS ARROW WITH LARGE TRIANGLE ARROWHEAD",
      "aUPWARDS ARROW WITH LARGE TRIANGLE ARROWHEAD",
      "aRIGHTWARDS ARROW WITH LARGE TRIANGLE ARROWHEAD",
      "aDOWNWARDS ARROW WITH LARGE TRIANGLE ARROWHEAD"]⟩,
    ⟨0x1F810, ["aLEFTWARDS ARROW WITH SMALL EQUILATERAL ",
      "ARROWHEADaUPWARDS ARROW WITH SMALL EQUILATERAL ",
      "ARROWHEADaRIGHTWARDS ARROW WITH SMALL EQUILATERAL ",
      "ARROWHEADaDOWNWARDS ARROW WITH SMALL EQUILATERAL ",
      "ARROWHEADaLEFTWARDS ARROW WITH EQUILATERAL ARROWHEAD",
      "aUPWARDS ARROW WITH EQUILATERAL ARROWHEADaRIGHTWARDS ",
      "ARROW WITH EQUILATERAL ARROWHEADaDOWNWARDS ARROW ",
      "WITH EQUILATERAL ARROWHEADaHEAVY LEFTWARDS ARROW ",
      "WITH EQUILATERAL ARROWHEADbUPWARDS ARROW WITH ",
      "EQUILATERAL ARROWHEADbRIGHTWARDS ARROW WITH ",
      "EQUILATERAL ARROWHEADbDOWNWARDS ARROW WITH ",
      "EQUILATERAL ARROWHEADbLEFTWARDS ARROW WITH LARGE ",
      "EQUILATERAL ARROWHEADbUPWARDS ARROW WITH LARGE ",
      "EQUILATERAL ARROWHEADbRIGHTWARDS ARROW WITH LARGE ",
      "EQUILATERAL ARROWHEADbDOWNWARDS ARROW WITH LARGE ",
      "EQUILATERAL ARROWHEADaLEFTWARDS TRIANGLE-HEADED ",
      "ARROW WITH NARROW SHAFTaUPWARDS TRIANGLE-HEADED ",
      "ARROW WITH NARROW SHAFTaRIGHTWARDS TRIANGLE-HEADED ",
      "ARROW WITH NARROW SHAFTaDOWNWARDS TRIANGLE-HEADED ",
      "ARROW WITH NARROW SHAFTaLEFTWARDS TRIANGLE-HEADED ",
      "ARROW WITH MEDIUM SHAFTaUPWARDS TRIANGLE-HEADED ",
      "ARROW WITH MEDIUM SHAFTaRIGHTWARDS TRIANGLE-HEADED ",
      "ARROW WITH MEDIUM SHAFTaDOWNWARDS TRIANGLE-HEADED ",
      "ARROW WITH MEDIUM SHAFTaLEFTWARDS TRIANGLE-HEADED ",
      "ARROW WITH BOLD SHAFTaUPWARDS TRIANGLE-HEADED ARROW ",
      "WITH BOLD SHAFTaRIGHTWARDS TRIANGLE-HEADED ARROW ",
      "WITH BOLD SHAFTaDOWNWARDS TRIANGLE-HEADED ARROW WITH ",
      "BOLD SHAFTaLEFTWARDS TRIANGLE-HEADED ARROW WITH ",
      "HEAVY SHAFTaUPWARDS TRIANGLE-HEADED ARROW WITH HEAVY ",
      "SHAFTaRIGHTWARDS TRIANGLE-HEADED ARROW WITH HEAVY ",
      "SHAFTaDOWNWARDS TRIANGLE-HEADED ARROW WITH HEAVY ",
      "SHAFTaLEFTWARDS TRIANGLE-HEADED ARROW WITH VERY ",
      "HEAVY SHAFTaUPWARDS TRIANGLE-HEADED ARROW WITH VERY ",
      "HEAVY SHAFTaRIGHTWARDS TRIANGLE-HEADED ARROW WITH ",
      "VERY HEAVY SHAFTaDOWNWARDS TRIANGLE-HEADED ARROW ",
      "WITH VERY HEAVY SHAFTaLEFTWARDS FINGER-POST ARROW",
      "aUPWARDS FINGER-POST ARROWaRIGHTWARDS FINGER-POST ",
      "ARROWaDOWNWARDS FINGER-POST ARROWaLEFTWARDS SQUARED ",
      "ARROWaUPWARDS SQUARED ARROWaRIGHTWARDS SQUARED ARROW",
      "aDOWNWARDS SQUARED ARROWaLEFTWARDS COMPRESSED ARROW",
      "aUPWARDS COMPRESSED ARROWaRIGHTWARDS COMPRESSED ARROW",
      "aDOWNWARDS COMPRESSED ARROWaLEFTWARDS HEAVY ",
      "COMPRESSED ARROWaUPWARDS HEAVY COMPRESSED ARROW",
      "aRIGHTWARDS HEAVY COMPRESSED ARROWaDOWNWARDS HEAVY ",
      "COMPRESSED ARROWaLEFTWARDS HEAVY ARROWaUPWARDS HEAVY ",
      "ARROWaRIGHTWARDS HEAVY ARROWaDOWNWARDS HEAVY ARROW"]⟩,
    ⟨0x1F850, ["aLEFTWARDS SANS-SERIF ARROWaUPWARDS SANS-",
      "SERIF ARROWaRIGHTWARDS SANS-SERIF ARROWaDOWNWARDS ",
      "SANS-SERIF ARROWaNORTH WEST SANS-SERIF ARROWbEAST ",
      "SANS-SERIF ARROWaSOUTH EAST SANS-SERIF ARROWbWEST ",
      "SANS-SERIF ARROWaLEFT RIGHT SANS-SERIF ARROWaUP DOWN ",
      "SANS-SERIF ARROW"]⟩,
    ⟨0x1F860, ["aWIDE-HEADED LEFTWARDS LIGHT BARB ARROW",
      "cUPWARDS LIGHT BARB ARROWcRIGHTWARDS LIGHT BARB ARROW",
      "cDOWNWARDS LIGHT BARB ARROWcNORTH WEST LIGHT BARB ",
      "ARROWdEAST LIGHT BARB ARROWcSOUTH EAST LIGHT BARB ",
      "ARROWdWEST LIGHT BARB ARROWcLEFTWARDS BARB ARROW",
      "cUPWARDS BARB ARROWcRIGHTWARDS BARB ARROWcDOWNWARDS ",
      "BARB ARROWcNORTH WEST BARB ARROWdEAST BARB ARROW",
      "cSOUTH EAST BARB ARROWdWEST BARB ARROWcLEFTWARDS ",
      "MEDIUM BARB ARROWcUPWARDS MEDIUM BARB ARROW",
      "cRIGHTWARDS MEDIUM BARB ARROWcDOWNWARDS MEDIUM BARB ",
      "ARROWcNORTH WEST MEDIUM BARB ARROWdEAST MEDIUM BARB ",
      "ARROWcSOUTH EAST MEDIUM BARB ARROWdWEST MEDIUM BARB ",
      "ARROWcLEFTWARDS HEAVY BARB ARROWcUPWARDS HEAVY BARB ",
      "ARROWcRIGHTWARDS HEAVY BARB ARROWcDOWNWARDS HEAVY ",
      "BARB ARROWcNORTH WEST HEAVY BARB ARROWdEAST HEAVY ",
      "BARB ARROWcSOUTH EAST HEAVY BARB ARROWdWEST HEAVY ",
      "BARB ARROWcLEFTWARDS VERY HEAVY BARB ARROWcUPWARDS ",
      "VERY HEAVY BARB ARROWcRIGHTWARDS VERY HEAVY BARB ",
      "ARROWcDOWNWARDS VERY HEAVY BARB ARROWcNORTH WEST ",
      "VERY HEAVY BARB ARROWdEAST VERY HEAVY BARB ARROW",
      "cSOUTH EAST VERY HEAVY BARB ARROWdWEST VERY HEAVY ",
      "BARB ARROW"]⟩,
    ⟨0x1F890, ["aLEFTWARDS TRIANGLE ARROWHEADaUPWARDS ",
      "TRIANGLE ARROWHEADaRIGHTWARDS TRIANGLE ARROWHEAD",
      "aDOWNWARDS TRIANGLE ARROWHEADaLEFTWARDS WHITE ARROW ",
      "WITHIN TRIANGLE ARROWHEADaUPWARDS WHITE ARROW WITHIN ",
      "TRIANGLE ARROWHEADaRIGHTWARDS WHITE ARROW WITHIN ",
      "TRIANGLE ARROWHEADaDOWNWARDS WHITE ARROW WITHIN ",
      "TRIANGLE ARROWHEADaLEFTWARDS ARROW WITH NOTCHED TAIL",
      "aUPWARDS ARROW WITH NOTCHED TAILaRIGHTWARDS ARROW ",
      "WITH NOTCHED TAILaDOWNWARDS ARROW WITH NOTCHED TAIL",
      "aHEAVY ARROW SHAFT WIDTH ONEeTWO THIRDSeONE HALF",
      "fTHIRDaLEFTWARDS BOTTOM-SHADED WHITE ARROW",
      "aRIGHTWARDS BOTTOM SHADED WHITE ARROWaLEFTWARDS TOP ",
      "SHADED WHITE ARROWaRIGHTWARDS TOP SHADED WHITE ARROW",
      "aLEFTWARDS LEFT-SHADED WHITE ARROWaRIGHTWARDS RIGHT-",
      "SHADED WHITE ARROWaLEFTWARDS RIGHT-SHADED WHITE ARROW",
      "aRIGHTWARDS LEFT-SHADED WHITE ARROWaLEFTWARDS BACK-",
      "TILTED SHADOWED WHITE ARROWaRIGHTWARDS BACK-TILTED ",
      "SHADOWED WHITE ARROWaLEFTWARDS FRONT-TILTED SHADOWED ",
      "WHITE ARROWaRIGHTWARDS FRONT-TILTED SHADOWED WHITE ",
      "ARROWaWHITE ARROW SHAFT WIDTH ONEeTWO THIRDS"]⟩,
    ⟨0x1F8B0, ["aARROW POINTING UPWARDS THEN NORTH WEST",
      "cRIGHTWARDS THEN CURVING SOUTH WEST"]⟩,
    ⟨0x1F900, ["aCIRCLED CROSS FORMEE WITH FOUR DOTSeTWO ",
      "DOTScFORMEEaLEFT HALF CIRCLE WITH FOUR DOTSeTHREE ",
      "DOTSeTWO DOTSeDOTcCIRCLEaDOWNWARD FACING HOOK",
      "cNOTCHED HOOKcHOOK WITH DOTcNOTCHED HOOK WITH DOT",
      "aPINCHED FINGERSaWHITE HEARTaBROWN HEARTaPINCHING ",
      "HANDaZIPPER-MOUTH FACEaMONEY-MOUTH FACEaFACE WITH ",
      "THERMOMETERaNERD FACEaTHINKING FACEaFACE WITH HEAD-",
      "BANDAGEaROBOT FACEaHUGGING FACEaSIGN OF THE HORNS",
      "aCALL ME HANDaRAISED BACK OF HANDaLEFT-FACING FIST",
      "aRIGHT-FACING FISTaHANDSHAKEaHAND WITH INDEX AND ",
      "MIDDLE FINGERS CROSSEDaI LOVE YOU HAND SIGNaFACE ",
      "WITH COWBOY HATaCLOWN FACEaNAUSEATED FACEaROLLING ON ",
      "THE FLOOR LAUGHINGaDROOLING FACEaLYING FACEaFACE PALM",
      "aSNEEZING FACEaFACE WITH ONE EYEBROW RAISEDaGRINNING ",
      "FACE WITH STAR EYESdONE LARGE AND ONE SMALL EYEaFACE ",
      "WITH FINGER COVERING CLOSED LIPSaSERIOUS FACE WITH ",
      "SYMBOLS COVERING MOUTHaSMILING FACE WITH SMILING ",
      "EYES AND HAND COVERING MOUTHaFACE WITH OPEN MOUTH ",
      "VOMITINGaSHOCKED FACE WITH EXPLODING HEADaPREGNANT ",
      "WOMANaBREAST-FEEDINGaPALMS UP TOGETHERaSELFIEaPRINCE",
      "aMAN IN TUXEDOaMOTHER CHRISTMASaSHRUGaPERSON DOING ",
      "CARTWHEELaJUGGLINGaFENCERaMODERN PENTATHLONaWRESTLERS",
      "aWATER POLOaHANDBALLaDIVING MASKaWILTED FLOWERaDRUM ",
      "WITH DRUMSTICKSaCLINKING GLASSESaTUMBLER GLASSaSPOON",
      "aGOAL NETaRIFLEaFIRST PLACE MEDALaSECOND PLACE MEDAL",
      "aTHIRD PLACE MEDALaBOXING GLOVEaMARTIAL ARTS UNIFORM",
      "aCURLING STONEaLACROSSE STICK AND BALLaSOFTBALL",
      "aFLYING DISCaCROISSANTaAVOCADOaCUCUMBERaBACONaPOTATO",
      "aCARROTaBAGUETTE BREADaGREEN SALADaSHALLOW PAN OF ",
      "FOODaSTUFFED FLATBREADaEGGaGLASS OF MILKaPEANUTS",
      "aKIWIFRUITaPANCAKESaDUMPLINGaFORTUNE COOKIEaTAKEOUT ",
      "BOXaCHOPSTICKSaBOWL WITH SPOONaCUP WITH STRAWaCOCONUT",
      "aBROCCOLIaPIEaPRETZELaCUT OF MEATaSANDWICHaCANNED ",
      "FOODaLEAFY GREENaMANGOaMOON CAKEaBAGELaSMILING FACE ",
      "WITH SMILING EYES AND THREE HEARTSaYAWNING FACE",
      "aSMILING FACE WITH TEARaFACE WITH PARTY HORN AND ",
      "PARTY HATcUNEVEN EYES AND WAVY MOUTHaOVERHEATED FACE",
      "aFREEZING FACEaNINJAaDISGUISED FACEaFACE HOLDING ",
      "BACK TEARSbWITH PLEADING EYESaSARIaLAB COATaGOGGLES",
      "aHIKING BOOTaFLAT SHOEaCRABaLION FACEaSCORPIONaTURKEY",
      "aUNICORN FACEaEAGLEaDUCKaBATaSHARKaOWLaFOX FACE",
      "aBUTTERFLYaDEERaGORILLAaLIZARDaRHINOCEROSaSHRIMP",
      "aSQUIDaGIRAFFE FACEaZEBRA FACEaHEDGEHOGaSAUROPODaT-",
      "REXaCRICKETaKANGAROOaLLAMAaPEACOCKaHIPPOPOTAMUS",
      "aPARROTaRACCOONaLOBSTERaMOSQUITOaMICROBEaBADGERaSWAN",
      "aMAMMOTHaDODOaSLOTHaOTTERaORANGUTANaSKUNKaFLAMINGO",
      "aOYSTERaBEAVERaBISONaSEALaGUIDE DOGaPROBING CANE",
      "aEMOJI COMPONENT RED HAIRcCURLY HAIRcBALDcWHITE HAIR",
      "aBONEaLEGaFOOTaTOOTHaSUPERHEROaSUPERVILLAINaSAFETY ",
      "VESTaEAR WITH HEARING AIDaMOTORIZED WHEELCHAIR",
      "aMANUAL WHEELCHAIRaMECHANICAL ARMbLEGaCHEESE WEDGE",
      "aCUPCAKEaSALT SHAKERaBEVERAGE BOXaGARLICaONION",
      "aFALAFELaWAFFLEaBUTTERaMATE DRINKaICE CUBEaBUBBLE TEA",
      "aTROLLaSTANDING PERSONaKNEELING PERSONaDEAF PERSON",
      "aFACE WITH MONOCLEaADULTaCHILDaOLDER ADULTaBEARDED ",
      "PERSONaPERSON WITH HEADSCARFbIN STEAMY ROOMbCLIMBING",
      "bIN LOTUS POSITIONaMAGEaFAIRYaVAMPIREaMERPERSONaELF",
      "aGENIEaZOMBIEaBRAINaORANGE HEARTaBILLED CAPaSCARF",
      "aGLOVESaCOATaSOCKSaRED GIFT ENVELOPEaFIRECRACKER",
      "aJIGSAW PUZZLE PIECEaTEST TUBEaPETRI DISHaDNA DOUBLE ",
      "HELIXaCOMPASSaABACUSaFIRE EXTINGUISHERaTOOLBOXaBRICK",
      "aMAGNETaLUGGAGEaLOTION BOTTLEaSPOOL OF THREADaBALL ",
      "OF YARNaSAFETY PINaTEDDY BEARaBROOMaBASKETaROLL OF ",
      "PAPERaBAR OF SOAPaSPONGEaRECEIPTaNAZAR AMULET",
      "aNEUTRAL CHESS KINGcQUEENcROOKcBISHOPcKNIGHTcPAWN",
      "aWHITE CHESS KNIGHT ROTATED FORTY-FIVE DEGREESaBLACK ",
      "CHESS KNIGHT ROTATED FORTY-FIVE DEGREESaNEUTRAL ",
      "CHESS KNIGHT ROTATED FORTY-FIVE DEGREESaWHITE CHESS ",
      "KING ROTATED NINETY DEGREEScQUEEN ROTATED NINETY ",
      "DEGREEScROOK ROTATED NINETY DEGREEScBISHOP ROTATED ",
      "NINETY DEGREEScKNIGHT ROTATED NINETY DEGREEScPAWN ",
      "ROTATED NINETY DEGREESaBLACK CHESS KING ROTATED ",
      "NINETY DEGREEScQUEEN ROTATED NINETY DEGREEScROOK ",
      "ROTATED NINETY DEGREEScBISHOP ROTATED NINETY DEGREES",
      "cKNIGHT ROTATED NINETY DEGREEScPAWN ROTATED NINETY ",
      "DEGREESaNEUTRAL CHESS KING ROTATED NINETY DEGREES",
      "cQUEEN ROTATED NINETY DEGREEScROOK ROTATED NINETY ",
      "DEGREEScBISHOP ROTATED NINETY DEGREEScKNIGHT ROTATED ",
      "NINETY DEGREEScPAWN ROTATED NINETY DEGREESaWHITE ",
      "CHESS KNIGHT ROTATED ONE HUNDRED THIRTY-FIVE DEGREES",
      "aBLACK CHESS KNIGHT ROTATED ONE HUNDRED THIRTY-FIVE ",
      "DEGREESaNEUTRAL CHESS KNIGHT ROTATED ONE HUNDRED ",
      "THIRTY-FIVE DEGREESaWHITE CHESS TURNED KINGdQUEEN",
      "dROOKdBISHOPdKNIGHTdPAWNaBLACK CHESS TURNED KING",
      "dQUEENdROOKdBISHOPdKNIGHTdPAWNaNEUTRAL CHESS TURNED ",
      "KINGdQUEENdROOKdBISHOPdKNIGHTdPAWNaWHITE CHESS ",
      "KNIGHT ROTATED TWO HUNDRED TWENTY-FIVE DEGREESaBLACK ",
      "CHESS KNIGHT ROTATED TWO HUNDRED TWENTY-FIVE DEGREES",
      "aNEUTRAL CHESS KNIGHT ROTATED TWO HUNDRED TWENTY-",
      "FIVE DEGREESaWHITE CHESS KING ROTATED TWO HUNDRED ",
      "SEVENTY DEGREEScQUEEN ROTATED TWO HUNDRED SEVENTY ",
      "DEGREEScROOK ROTATED TWO HUNDRED SEVENTY DEGREES",
      "cBISHOP ROTATED TWO HUNDRED SEVENTY DEGREEScKNIGHT ",
      "ROTATED TWO HUNDRED SEVENTY DEGREEScPAWN ROTATED TWO ",
      "HUNDRED SEVENTY DEGREESaBLACK CHESS KING ROTATED TWO ",
      "HUNDRED SEVENTY DEGREEScQUEEN ROTATED TWO HUNDRED ",
      "SEVENTY DEGREEScROOK ROTATED TWO HUNDRED SEVENTY ",
      "DEGREEScBISHOP ROTATED TWO HUNDRED SEVENTY DEGREES",
      "cKNIGHT ROTATED TWO HUNDRED SEVENTY DEGREEScPAWN ",
      "ROTATED TWO HUNDRED SEVENTY DEGREESaNEUTRAL CHESS ",
      "KING ROTATED TWO HUNDRED SEVENTY DEGREEScQUEEN ",
      "ROTATED TWO HUNDRED SEVENTY DEGREEScROOK ROTATED TWO ",
      "HUNDRED SEVENTY DEGREEScBISHOP ROTATED TWO HUNDRED ",
      "SEVENTY DEGREEScKNIGHT ROTATED TWO HUNDRED SEVENTY ",
      "DEGREEScPAWN ROTATED TWO HUNDRED SEVENTY DEGREES",
      "aWHITE CHESS KNIGHT ROTATED THREE HUNDRED FIFTEEN ",
      "DEGREESaBLACK CHESS KNIGHT ROTATED THREE HUNDRED ",
      "FIFTEEN DEGREESaNEUTRAL CHESS KNIGHT ROTATED THREE ",
      "HUNDRED FIFTEEN DEGREESaWHITE CHESS EQUIHOPPERaBLACK ",
      "CHESS EQUIHOPPERaNEUTRAL CHESS EQUIHOPPERaWHITE ",
      "CHESS EQUIHOPPER ROTATED NINETY DEGREESaBLACK CHESS ",
      "EQUIHOPPER ROTATED NINETY DEGREESaNEUTRAL CHESS ",
      "EQUIHOPPER ROTATED NINETY DEGREESaWHITE CHESS KNIGHT-",
      "QUEENdROOKdBISHOPaBLACK CHESS KNIGHT-QUEENdROOK",
      "dBISHOP"]⟩,
    ⟨0x1FA60, ["aXIANGQI RED GENERALcMANDARINcELEPHANTcHORSE",
      "cCHARIOTcCANNONcSOLDIERbBLACK GENERALcMANDARIN",
      "cELEPHANTcHORSEcCHARIOTcCANNONcSOLDIER"]⟩,
    ⟨0x1FA70, ["aBALLET SHOESaONE-PIECE SWIMSUITaBRIEFS",
      "aSHORTSaTHONG SANDALaLIGHT BLUE HEARTaGREY HEART",
      "aPINK HEARTaDROP OF BLOODaADHESIVE BANDAGE",
      "aSTETHOSCOPEaX-RAYaCRUTCH"]⟩,
    ⟨0x1FA80, ["aYO-YOaKITEaPARACHUTEaBOOMERANGaMAGIC WAND",
      "aPINATAaNESTING DOLLSaMARACASaFLUTE"]⟩,
    ⟨0x1FA90, ["aRINGED PLANETaCHAIRaRAZORaAXEaDIYA LAMP",
      "aBANJOaMILITARY HELMETaACCORDIONaLONG DRUMaCOIN",
      "aCARPENTRY SAWaSCREWDRIVERaLADDERaHOOKaMIRRORaWINDOW",
      "aPLUNGERaSEWING NEEDLEaKNOTaBUCKETaMOUSE TRAP",
      "aTOOTHBRUSHaHEADSTONEaPLACARDaROCKaMIRROR BALL",
      "aIDENTIFICATION CARDaLOW BATTERYaHAMSAaFOLDING HAND ",
      "FANaHAIR PICKaKHANDAaFLYaWORMaBEETLEaCOCKROACH",
      "aPOTTED PLANTaWOODaFEATHERaLOTUSaCORALaEMPTY NEST",
      "aNEST WITH EGGSaHYACINTHaJELLYFISHaWING"]⟩,
    ⟨0x1FABF, ["aGOOSEaANATOMICAL HEARTaLUNGSaPEOPLE HUGGING",
      "aPREGNANT MANbPERSONaPERSON WITH CROWN"]⟩,
    ⟨0x1FACE, ["aMOOSEaDONKEYaBLUEBERRIESaBELL PEPPERaOLIVE",
      "aFLATBREADaTAMALEaFONDUEaTEAPOTaPOURING LIQUIDaBEANS",
      "aJARaGINGER ROOTaPEA POD"]⟩,
    ⟨0x1FAE0, ["aMELTING FACEaSALUTING FACEaFACE WITH OPEN ",
      "EYES AND HAND OVER MOUTHcPEEKING EYEcDIAGONAL MOUTH",
      "aDOTTED LINE FACEaBITING LIPaBUBBLESaSHAKING FACE"]⟩,
    ⟨0x1FAF0, ["aHAND WITH INDEX FINGER AND THUMB CROSSED",
      "aRIGHTWARDS HANDaLEFTWARDS HANDaPALM DOWN HANDbUP ",
      "HANDaINDEX POINTING AT THE VIEWERaHEART HANDS",
      "aLEFTWARDS PUSHING HANDaRIGHTWARDS PUSHING HAND"]⟩,
    ⟨0x1FB00, ["aBLOCK SEXTANT-1c2c12c3c13c23c123c4c14c24",
      "c124c34c134c234c1234c5c15c25c125c35c235c1235c45c145",
      "c245c1245c345c1345c2345c12345c6c16c26c126c36c136c236",
      "c1236c46c146c1246c346c1346c2346c12346c56c156c256c1256",
      "c356c1356c2356c12356c456c1456c2456c12456c3456c13456",
      "c23456aLOWER LEFT BLOCK DIAGONAL LOWER MIDDLE LEFT ",
      "TO LOWER CENTREjRIGHTeUPPER MIDDLE LEFT TO LOWER ",
      "CENTREjRIGHTfLEFT TO LOWER CENTREbRIGHT BLOCK ",
      "DIAGONAL UPPER MIDDLE LEFT TO UPPER CENTREjRIGHT",
      "eLOWER MIDDLE LEFT TO UPPER CENTREjRIGHTfLEFT TO ",
      "UPPER CENTREfMIDDLE LEFT TO UPPER MIDDLE RIGHT",
      "fCENTRE TO LOWER MIDDLE RIGHTfLEFT TO LOWER MIDDLE ",
      "RIGHTfCENTRE TO UPPER MIDDLE RIGHTfLEFT TO UPPER ",
      "MIDDLE RIGHTfCENTRE TO UPPER RIGHTbLEFT BLOCK ",
      "DIAGONAL UPPER CENTRE TO UPPER MIDDLE RIGHTfLEFT TO ",
      "UPPER MIDDLE RIGHTfCENTRE TO LOWER MIDDLE RIGHTfLEFT ",
      "TO LOWER MIDDLE RIGHTfCENTRE TO LOWER RIGHTfMIDDLE ",
      "LEFT TO LOWER MIDDLE RIGHTaUPPER RIGHT BLOCK ",
      "DIAGONAL LOWER MIDDLE LEFT TO LOWER CENTREjRIGHT",
      "eUPPER MIDDLE LEFT TO LOWER CENTREjRIGHTfLEFT TO ",
      "LOWER CENTREbLEFT BLOCK DIAGONAL UPPER MIDDLE LEFT ",
      "TO UPPER CENTREjRIGHTeLOWER MIDDLE LEFT TO UPPER ",
      "CENTREjRIGHTfLEFT TO UPPER CENTREfMIDDLE LEFT TO ",
      "UPPER MIDDLE RIGHTfCENTRE TO LOWER MIDDLE RIGHTfLEFT ",
      "TO LOWER MIDDLE RIGHTfCENTRE TO UPPER MIDDLE RIGHT",
      "fLEFT TO UPPER MIDDLE RIGHTfCENTRE TO UPPER RIGHT",
      "bRIGHT BLOCK DIAGONAL UPPER CENTRE TO UPPER MIDDLE ",
      "RIGHTfLEFT TO UPPER MIDDLE RIGHTfCENTRE TO LOWER ",
      "MIDDLE RIGHTfLEFT TO LOWER MIDDLE RIGHTfCENTRE TO ",
      "LOWER RIGHTfMIDDLE LEFT TO LOWER MIDDLE RIGHTbAND ",
      "RIGHT AND LOWER TRIANGULAR THREE QUARTERS BLOCKaLEFT ",
      "AND LOWER AND RIGHT TRIANGULAR THREE QUARTERS BLOCK",
      "aUPPER AND LEFT AND LOWER TRIANGULAR THREE QUARTERS ",
      "BLOCKaLEFT AND UPPER AND RIGHT TRIANGULAR THREE ",
      "QUARTERS BLOCKbTRIANGULAR ONE QUARTER BLOCKaUPPER ",
      "TRIANGULAR ONE QUARTER BLOCKaRIGHT TRIANGULAR ONE ",
      "QUARTER BLOCKaLOWER TRIANGULAR ONE QUARTER BLOCK",
      "aVERTICAL ONE EIGHTH BLOCK-2e3e4e5e6e7aHORIZONTAL ",
      "ONE EIGHTH BLOCK-2e3e4e5e6e7aLEFT AND LOWER ONE ",
      "EIGHTH BLOCKcUPPER ONE EIGHTH BLOCKaRIGHT AND UPPER ",
      "ONE EIGHTH BLOCKcLOWER ONE EIGHTH BLOCKaUPPER AND ",
      "LOWER ONE EIGHTH BLOCKaHORIZONTAL ONE EIGHTH BLOCK-",
      "1358aUPPER ONE QUARTER BLOCKbTHREE EIGHTHS BLOCK",
      "bFIVE EIGHTHS BLOCKbTHREE QUARTERS BLOCKbSEVEN ",
      "EIGHTHS BLOCKaRIGHT ONE QUARTER BLOCKbTHREE EIGHTHS ",
      "BLOCKbFIVE EIGHTHS BLOCKbTHREE QUARTERS BLOCKbSEVEN ",
      "EIGHTHS BLOCKaLEFT HALF MEDIUM SHADEaRIGHT HALF ",
      "MEDIUM SHADEaUPPER HALF MEDIUM SHADEaLOWER HALF ",
      "MEDIUM SHADEaINVERSE MEDIUM SHADEaUPPER HALF BLOCK ",
      "AND LOWER HALF INVERSE MEDIUM SHADEcINVERSE MEDIUM ",
      "SHADE AND LOWER HALF BLOCK"]⟩,
    ⟨0x1FB94, ["aLEFT HALF INVERSE MEDIUM SHADE AND RIGHT ",
      "HALF BLOCKaCHECKER BOARD FILLaINVERSE CHECKER BOARD ",
      "FILLaHEAVY HORIZONTAL FILLaUPPER LEFT TO LOWER RIGHT ",
      "FILLbRIGHT TO LOWER LEFT FILLbAND LOWER TRIANGULAR ",
      "HALF BLOCKaLEFT AND RIGHT TRIANGULAR HALF BLOCK",
      "aUPPER LEFT TRIANGULAR MEDIUM SHADEbRIGHT TRIANGULAR ",
      "MEDIUM SHADEaLOWER RIGHT TRIANGULAR MEDIUM SHADE",
      "bLEFT TRIANGULAR MEDIUM SHADEaBOX DRAWINGS LIGHT ",
      "DIAGONAL UPPER CENTRE TO MIDDLE LEFTiRIGHTeMIDDLE ",
      "LEFT TO LOWER CENTREfRIGHT TO LOWER CENTREeUPPER ",
      "CENTRE TO MIDDLE LEFT TO LOWER CENTREiRIGHT TO LOWER ",
      "CENTREeMIDDLE LEFT TO LOWER CENTRE TO MIDDLE RIGHT",
      "hUPPER CENTRE TO MIDDLE RIGHTeUPPER CENTRE TO MIDDLE ",
      "LEFT AND MIDDLE RIGHT TO LOWER CENTREiRIGHT AND ",
      "MIDDLE LEFT TO LOWER CENTREjTO LOWER CENTRE TO ",
      "MIDDLE LEFTiLEFT TO LOWER CENTRE TO MIDDLE RIGHT",
      "eMIDDLE LEFT TO UPPER CENTRE TO MIDDLE RIGHT TO ",
      "LOWER CENTREfRIGHT TO UPPER CENTRE TO MIDDLE LEFT TO ",
      "LOWER CENTREeDIAMONDdHORIZONTAL WITH VERTICAL STROKE",
      "aARROWHEAD-SHAPED POINTERaINVERSE CHECK MARKaLEFT ",
      "HALF RUNNING MANaRIGHT HALF RUNNING MANaINVERSE ",
      "DOWNWARDS ARROW WITH TIP LEFTWARDSaLEFTWARDS ARROW ",
      "AND UPPER AND LOWER ONE EIGHTH BLOCKaRIGHTWARDS ",
      "ARROW AND UPPER AND LOWER ONE EIGHTH BLOCKaDOWNWARDS ",
      "ARROW AND RIGHT ONE EIGHTH BLOCKaUPWARDS ARROW AND ",
      "RIGHT ONE EIGHTH BLOCKaLEFT HALF FOLDERaRIGHT HALF ",
      "FOLDERaVOIDED GREEK CROSSaRIGHT OPEN SQUARED DOT",
      "aNEGATIVE DIAGONAL CROSScMIDDLE RIGHT TO LOWER CENTRE",
      "cDIAMONDaWHITE HEAVY SALTIRE WITH ROUNDED CORNERS",
      "aLEFT THIRD WHITE RIGHT POINTING INDEXaMIDDLE THIRD ",
      "WHITE RIGHT POINTING INDEXaRIGHT THIRD WHITE RIGHT ",
      "POINTING INDEXaNEGATIVE SQUARED QUESTION MARKaSTICK ",
      "FIGUREbFIGURE WITH ARMS RAISEDcLEANING LEFTdRIGHT",
      "cWITH DRESSaWHITE UP-POINTING CHEVRON"]⟩,
    ⟨0x1FBF0, ["aSEGMENTED DIGIT ZEROcONEcTWOcTHREEcFOUR",
      "cFIVEcSIXcSEVENcEIGHTcNINE"]⟩,
    ⟨0xE0001, ["aLANGUAGE TAG"]⟩,
    ⟨0xE0020, ["aTAG SPACEbEXCLAMATION MARKbQUOTATION MARK",
      "bNUMBER SIGNbDOLLAR SIGNbPERCENT SIGNbAMPERSAND",
      "bAPOSTROPHEbLEFT PARENTHESISbRIGHT PARENTHESIS",
      "bASTERISKbPLUS SIGNbCOMMAbHYPHEN-MINUSbFULL STOP",
      "bSOLIDUSbDIGIT ZEROcONEcTWOcTHREEcFOURcFIVEcSIXcSEVEN",
      "cEIGHTcNINEbCOLONbSEMICOLONbLESS-THAN SIGNbEQUALS ",
      "SIGNbGREATER-THAN SIGNbQUESTION MARKbCOMMERCIAL AT",
      "bLATIN CAPITAL LETTER AeBeCeDeEeFeGeHeIeJeKeLeMeNeOeP",
      "eQeReSeTeUeVeWeXeYeZbLEFT SQUARE BRACKETbREVERSE ",
      "SOLIDUSbRIGHT SQUARE BRACKETbCIRCUMFLEX ACCENTbLOW ",
      "LINEbGRAVE ACCENTbLATIN SMALL LETTER AeBeCeDeEeFeGeH",
      "eIeJeKeLeMeNeOePeQeReSeTeUeVeWeXeYeZbLEFT CURLY ",
      "BRACKETbVERTICAL LINEbRIGHT CURLY BRACKETbTILDE",
      "aCANCEL TAG"]⟩,
    ⟨0xE0100, ["aVARIATION SELECTOR-17c18c19c20c21c22c23c24",
      "c25c26c27c28c29c30c31c32c33c34c35c36c37c38c39c40c41",
      "c42c43c44c45c46c47c48c49c50c51c52c53c54c55c56c57c58",
      "c59c60c61c62c63c64c65c66c67c68c69c70c71c72c73c74c75",
      "c76c77c78c79c80c81c82c83c84c85c86c87c88c89c90c91c92",
      "c93c94c95c96c97c98c99c100c101c102c103c104c105c106c107",
      "c108c109c110c111c112c113c114c115c116c117c118c119c120",
      "c121c122c123c124c125c126c127c128c129c130c131c132c133",
      "c134c135c136c137c138c139c140c141c142c143c144c145c146",
      "c147c148c149c150c151c152c153c154c155c156c157c158c159",
      "c160c161c162c163c164c165c166c167c168c169c170c171c172",
      "c173c174c175c176c177c178c179c180c181c182c183c184c185",
      "c186c187c188c189c190c191c192c193c194c195c196c197c198",
      "c199c200c201c202c203c204c205c206c207c208c209c210c211",
      "c212c213c214c215c216c217c218c219c220c221c222c223c224",
      "c225c226c227c228c229c230c231c232c233c234c235c236c237",
      "c238c239c240c241c242c243c244c245c246c247c248c249c250",
      "c251c252c253c254c255c256"]⟩]

end SigCheck
