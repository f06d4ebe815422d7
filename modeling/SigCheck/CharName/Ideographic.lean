import SigCheck.CharName.Run

/-
  Names of syllables and further letters beside ideographs,
  from U+3000 to U+ABFF.

  Key definitions include:
    * `CharName.ideographic`
-/

namespace SigCheck

/- The runs of these names. -/
def CharName.ideographic : List NameRun :=
  [⟨0x3000, ["aIDEOGRAPHIC SPACEbCOMMAbFULL STOPaDITTO MARK",
      "aJAPANESE INDUSTRIAL STANDARD SYMBOLaIDEOGRAPHIC ",
      "ITERATION MARKbCLOSING MARKbNUMBER ZEROaLEFT ANGLE ",
      "BRACKETaRIGHT ANGLE BRACKETaLEFT DOUBLE ANGLE BRACKET",
      "aRIGHT DOUBLE ANGLE BRACKETaLEFT CORNER BRACKET",
      "aRIGHT CORNER BRACKETaLEFT WHITE CORNER BRACKET",
      "aRIGHT WHITE CORNER BRACKETaLEFT BLACK LENTICULAR ",
      "BRACKETaRIGHT BLACK LENTICULAR BRACKETaPOSTAL MARK",
      "aGETA MARKaLEFT TORTOISE SHELL BRACKETaRIGHT ",
      "TORTOISE SHELL BRACKETaLEFT WHITE LENTICULAR BRACKET",
      "aRIGHT WHITE LENTICULAR BRACKETaLEFT WHITE TORTOISE ",
      "SHELL BRACKETaRIGHT WHITE TORTOISE SHELL BRACKET",
      "aLEFT WHITE SQUARE BRACKETaRIGHT WHITE SQUARE BRACKET",
      "aWAVE DASHaREVERSED DOUBLE PRIME QUOTATION MARK",
      "aDOUBLE PRIME QUOTATION MARKaLOW DOUBLE PRIME ",
      "QUOTATION MARKaPOSTAL MARK FACEaHANGZHOU NUMERAL ONE",
      "cTWOcTHREEcFOURcFIVEcSIXcSEVENcEIGHTcNINE",
      "aIDEOGRAPHIC LEVEL TONE MARKbRISING TONE MARK",
      "bDEPARTING TONE MARKbENTERING TONE MARKaHANGUL ",
      "SINGLE DOT TONE MARKbDOUBLE DOT TONE MARKaWAVY DASH",
      "aVERTICAL KANA REPEAT MARKdWITH VOICED SOUND MARK",
      "dMARK UPPER HALFdWITH VOICED SOUND MARK UPPER HALF",
      "dMARK LOWER HALFaCIRCLED POSTAL MARKaIDEOGRAPHIC ",
      "TELEGRAPH LINE FEED SEPARATOR SYMBOLaHANGZHOU ",
      "NUMERAL TENcTWENTYcTHIRTYaVERTICAL IDEOGRAPHIC ",
      "ITERATION MARKaMASU MARKaPART ALTERNATION MARK",
      "aIDEOGRAPHIC VARIATION INDICATORbHALF FILL SPACE"]⟩,
    ⟨0x3041, ["aHIRAGANA LETTER SMALL AcAcSMALL IcIcSMALL U",
      "cUcSMALL EcEcSMALL OcOcKAcGAcKIcGIcKUcGUcKEcGEcKOcGO",
      "cSAcZAcSIcZIcSUcZUcSEcZEcSOcZOcTAcDAcTIcDIcSMALL TU",
      "cTUcDUcTEcDEcTOcDOcNAcNIcNUcNEcNOcHAcBAcPAcHIcBIcPI",
      "cHUcBUcPUcHEcBEcPEcHOcBOcPOcMAcMIcMUcMEcMOcSMALL YA",
      "cYAcSMALL YUcYUcSMALL YOcYOcRAcRIcRUcREcROcSMALL WA",
      "cWAcWIcWEcWOcNcVUcSMALL KAdKE"]⟩,
    ⟨0x3099, ["aCOMBINING KATAKANA-HIRAGANA VOICED SOUND ",
      "MARKdSEMI-VOICED SOUND MARKaKATAKANA-HIRAGANA VOICED ",
      "SOUND MARKcSEMI-VOICED SOUND MARKaHIRAGANA ITERATION ",
      "MARKbVOICED ITERATION MARKbDIGRAPH YORIaKATAKANA-",
      "HIRAGANA DOUBLE HYPHENaKATAKANA LETTER SMALL AcA",
      "cSMALL IcIcSMALL UcUcSMALL EcEcSMALL OcOcKAcGAcKIcGI",
      "cKUcGUcKEcGEcKOcGOcSAcZAcSIcZIcSUcZUcSEcZEcSOcZOcTA",
      "cDAcTIcDIcSMALL TUcTUcDUcTEcDEcTOcDOcNAcNIcNUcNEcNO",
      "cHAcBAcPAcHIcBIcPIcHUcBUcPUcHEcBEcPEcHOcBOcPOcMAcMI",
      "cMUcMEcMOcSMALL YAcYAcSMALL YUcYUcSMALL YOcYOcRAcRI",
      "cRUcREcROcSMALL WAcWAcWIcWEcWOcNcVUcSMALL KAdKEcVAcVI",
      "cVEcVObMIDDLE DOTaKATAKANA-HIRAGANA PROLONGED SOUND ",
      "MARKaKATAKANA ITERATION MARKbVOICED ITERATION MARK",
      "bDIGRAPH KOTO"]⟩,
    ⟨0x3105, ["aBOPOMOFO LETTER BcPcMcFcDcTcNcLcGcKcHcJcQcX",
      "cZHcCHcSHcRcZcCcScAcOcEcEHcAIcEIcAUcOUcANcENcANGcENG",
      "cERcIcUcIUcVcNGcGNcIHcO WITH DOT ABOVEcNN"]⟩,
    ⟨0x3131, ["aHANGUL LETTER KIYEOKcSSANGKIYEOKcKIYEOK-SIOS",
      "cNIEUNcNIEUN-CIEUCdHIEUHcTIKEUTcSSANGTIKEUTcRIEUL",
      "cRIEUL-KIYEOKdMIEUMdPIEUPdSIOSdTHIEUTHdPHIEUPHdHIEUH",
      "cMIEUMcPIEUPcSSANGPIEUPcPIEUP-SIOScSIOScSSANGSIOS",
      "cIEUNGcCIEUCcSSANGCIEUCcCHIEUCHcKHIEUKHcTHIEUTH",
      "cPHIEUPHcHIEUHcAcAEcYAcYAEcEOcEcYEOcYEcOcWAcWAEcOEcYO",
      "cUcWEOcWEcWIcYUcEUcYIcIbFILLERbLETTER SSANGNIEUN",
      "cNIEUN-TIKEUTdSIOSdPANSIOScRIEUL-KIYEOK-SIOSdTIKEUT",
      "dPIEUP-SIOSdPANSIOSdYEORINHIEUHcMIEUM-PIEUPdSIOS",
      "dPANSIOScKAPYEOUNMIEUMcPIEUP-KIYEOKdTIKEUTdSIOS-",
      "KIYEOKeTIKEUTdCIEUCdTHIEUTHcKAPYEOUNPIEUP",
      "cKAPYEOUNSSANGPIEUPcSIOS-KIYEOKdNIEUNdTIKEUTdPIEUP",
      "dCIEUCcPANSIOScSSANGIEUNGcYESIEUNGcYESIEUNG-SIOS",
      "dPANSIOScKAPYEOUNPHIEUPHcSSANGHIEUHcYEORINHIEUHcYO-YA",
      "dYAEdIcYU-YEOdYEdIcARAEAcARAEAE"]⟩,
    ⟨0x3190, ["aIDEOGRAPHIC ANNOTATION LINKING MARKcREVERSE ",
      "MARKcONE MARKcTWO MARKcTHREE MARKcFOUR MARKcTOP MARK",
      "cMIDDLE MARKcBOTTOM MARKcFIRST MARKcSECOND MARK",
      "cTHIRD MARKcFOURTH MARKcHEAVEN MARKcEARTH MARKcMAN ",
      "MARKaBOPOMOFO LETTER BUcZIcJIcGUcEEcENNcOOcONNcIRcANN",
      "cINNcUNNcIMcNGGcAINNcAUNNcAMcOMcONGcINNNbFINAL ",
      "LETTER PdTdKdHbLETTER GHcLHcZYbFINAL LETTER GbLETTER ",
      "GWcKWcOEcAHaCJK STROKE TcWGcXGcBXGcSWcHZZcHZGcHPcHZWG",
      "cSZWGcHZTcHZZPcHPWGcHZWcHZZZcNcHcScPcSPcDcHZcHGcSZ",
      "cSWZcSTcSGcPDcPZcTNcSZZcSWGcHXWGcHZZZGcPGcQ"]⟩,
    ⟨0x31F0, ["aKATAKANA LETTER SMALL KUdSIdSUdTOdNUdHAdHI",
      "dHUdHEdHOdMUdRAdRIdRUdREdROaPARENTHESIZED HANGUL ",
      "KIYEOKcNIEUNcTIKEUTcRIEULcMIEUMcPIEUPcSIOScIEUNG",
      "cCIEUCcCHIEUCHcKHIEUKHcTHIEUTHcPHIEUPHcHIEUHcKIYEOK A",
      "cNIEUN AcTIKEUT AcRIEUL AcMIEUM AcPIEUP AcSIOS A",
      "cIEUNG AcCIEUC AcCHIEUCH AcKHIEUKH AcTHIEUTH A",
      "cPHIEUPH AcHIEUH AcCIEUC UbKOREAN CHARACTER OJEONdO ",
      "HU"]⟩,
    ⟨0x3220, ["aPARENTHESIZED IDEOGRAPH ONEcTWOcTHREEcFOUR",
      "cFIVEcSIXcSEVENcEIGHTcNINEcTENcMOONcFIREcWATERcWOOD",
      "cMETALcEARTHcSUNcSTOCKcHAVEcSOCIETYcNAMEcSPECIAL",
      "cFINANCIALcCONGRATULATIONcLABORcREPRESENTcCALLcSTUDY",
      "cSUPERVISEcENTERPRISEcRESOURCEcALLIANCEcFESTIVALcREST",
      "cSELFcREACHaCIRCLED IDEOGRAPH QUESTIONcKINDERGARTEN",
      "cSCHOOLcKOTObNUMBER TEN ON BLACK SQUAREcTWENTY ON ",
      "BLACK SQUAREcTHIRTY ON BLACK SQUAREcFORTY ON BLACK ",
      "SQUAREcFIFTY ON BLACK SQUAREcSIXTY ON BLACK SQUARE",
      "cSEVENTY ON BLACK SQUAREcEIGHTY ON BLACK SQUARE",
      "aPARTNERSHIP SIGNaCIRCLED NUMBER TWENTY ONEdTWOdTHREE",
      "dFOURdFIVEdSIXdSEVENdEIGHTdNINEcTHIRTYcTHIRTY ONEdTWO",
      "dTHREEdFOURdFIVEbHANGUL KIYEOKcNIEUNcTIKEUTcRIEUL",
      "cMIEUMcPIEUPcSIOScIEUNGcCIEUCcCHIEUCHcKHIEUKHcTHIEUTH",
      "cPHIEUPHcHIEUHcKIYEOK AcNIEUN AcTIKEUT AcRIEUL A",
      "cMIEUM AcPIEUP AcSIOS AcIEUNG AcCIEUC AcCHIEUCH A",
      "cKHIEUKH AcTHIEUTH AcPHIEUPH AcHIEUH AbKOREAN ",
      "CHARACTER CHAMKOdJUEUIbHANGUL IEUNG UaKOREAN ",
      "STANDARD SYMBOLaCIRCLED IDEOGRAPH ONEcTWOcTHREEcFOUR",
      "cFIVEcSIXcSEVENcEIGHTcNINEcTENcMOONcFIREcWATERcWOOD",
      "cMETALcEARTHcSUNcSTOCKcHAVEcSOCIETYcNAMEcSPECIAL",
      "cFINANCIALcCONGRATULATIONcLABORcSECRETcMALEcFEMALE",
      "cSUITABLEcEXCELLENTcPRINTcATTENTIONcITEMcRESTcCOPY",
      "cCORRECTcHIGHcCENTREcLOWcLEFTcRIGHTcMEDICINEcRELIGION",
      "cSTUDYcSUPERVISEcENTERPRISEcRESOURCEcALLIANCEcNIGHT",
      "bNUMBER THIRTY SIXdSEVENdEIGHTdNINEcFORTYcFORTY ONE",
      "dTWOdTHREEdFOURdFIVEdSIXdSEVENdEIGHTdNINEcFIFTY",
      "aIDEOGRAPHIC TELEGRAPH SYMBOL FOR JANUARYeFEBRUARY",
      "eMARCHeAPRILeMAYeJUNEeJULYeAUGUSTeSEPTEMBEReOCTOBER",
      "eNOVEMBEReDECEMBERaSQUARE HGbERGbEVaLIMITED ",
      "LIABILITY SIGNaCIRCLED KATAKANA AcIcUcEcOcKAcKIcKUcKE",
      "cKOcSAcSIcSUcSEcSOcTAcTIcTUcTEcTOcNAcNIcNUcNEcNOcHA",
      "cHIcHUcHEcHOcMAcMIcMUcMEcMOcYAcYUcYOcRAcRIcRUcREcRO",
      "cWAcWIcWEcWOaSQUARE ERA NAME REIWAbAPAATObARUHUA",
      "bANPEAbAARUbININGUbINTIbUONbESUKUUDObEEKAAbONSUbOOMU",
      "bKAIRIbKARATTObKARORIIbGARONbGANMAbGIGAbGINIIbKYURII",
      "bGIRUDAAbKIRObKIROGURAMUbKIROMEETORUbKIROWATTObGURAMU",
      "bGURAMUTONbKURUZEIRObKUROONEbKEESUbKORUNAbKOOPO",
      "bSAIKURUbSANTIIMUbSIRINGUbSENTIbSENTObDAASUbDESIbDORU",
      "bTONbNANObNOTTObHAITUbPAASENTObPAATUbBAARERU",
      "bPIASUTORUbPIKURUbPIKObBIRUbHUARADDObHUIITObBUSSYERU",
      "bHURANbHEKUTAARUbPESObPENIHIbHERUTUbPENSUbPEEZIbBEETA",
      "bPOINTObBORUTObHONbPONDObHOORUbHOONbMAIKURObMAIRU",
      "bMAHHAbMARUKUbMANSYONbMIKURONbMIRIbMIRIBAARUbMEGA",
      "bMEGATONbMEETORUbYAADObYAARUbYUANbRITTORUbRIRAbRUPII",
      "bRUUBURUbREMUbRENTOGENbWATTOaIDEOGRAPHIC TELEGRAPH ",
      "SYMBOL FOR HOUR ZEROfONEfTWOfTHREEfFOURfFIVEfSIX",
      "fSEVENfEIGHTfNINEfTENfELEVENfTWELVEfTHIRTEENfFOURTEEN",
      "fFIFTEENfSIXTEENfSEVENTEENfEIGHTEENfNINETEENfTWENTY",
      "fTWENTY-ONEgTWOgTHREEgFOURaSQUARE HPAbDAbAUbBARbOVbPC",
      "bDMbDM SQUAREDcCUBEDbIUbERA NAME HEISEIdSYOUWA",
      "dTAISYOUdMEIZIbCORPORATIONbPA AMPSbNAbMU AbMAbKAbKB",
      "bMBbGBbCALbKCALbPFbNFbMU FcGbMGbKGbHZbKHZbMHZbGHZbTHZ",
      "bMU LbMLbDLbKLbFMbNMbMU MbMMbCMbKMbMM SQUAREDbCM ",
      "SQUAREDbM SQUAREDbKM SQUAREDbMM CUBEDbCM CUBEDbM ",
      "CUBEDbKM CUBEDbM OVER SdS SQUAREDbPAbKPAbMPAbGPAbRAD",
      "bRAD OVER SdS SQUAREDbPSbNSbMU SbMSbPVbNVbMU VbMVbKV",
      "bMV MEGAbPWbNWbMU WbMWbKWbMW MEGAbK OHMbM OHMbAMbBQ",
      "bCCbCDbC OVER KGbCObDBbGYbHAbHPbINbKKbKM CAPITALbKT",
      "bLMbLNbLOGbLXbMB SMALLbMILbMOLbPHbPMbPPMbPRbSRbSVbWB",
      "bV OVER MbA OVER MaIDEOGRAPHIC TELEGRAPH SYMBOL FOR ",
      "DAY ONEfTWOfTHREEfFOURfFIVEfSIXfSEVENfEIGHTfNINEfTEN",
      "fELEVENfTWELVEfTHIRTEENfFOURTEENfFIFTEENfSIXTEEN",
      "fSEVENTEENfEIGHTEENfNINETEENfTWENTYfTWENTY-ONEgTWO",
      "gTHREEgFOURgFIVEgSIXgSEVENgEIGHTgNINEfTHIRTYfTHIRTY-",
      "ONEaSQUARE GAL"]⟩,
    ⟨0x4DC0, ["aHEXAGRAM FOR THE CREATIVE HEAVENdRECEPTIVE ",
      "EARTHcDIFFICULTY AT THE BEGINNINGcYOUTHFUL FOLLY",
      "cWAITINGcCONFLICTcTHE ARMYcHOLDING TOGETHERcSMALL ",
      "TAMINGcTREADINGcPEACEcSTANDSTILLcFELLOWSHIPcGREAT ",
      "POSSESSIONcMODESTYcENTHUSIASMcFOLLOWINGcWORK ON THE ",
      "DECAYEDcAPPROACHcCONTEMPLATIONcBITING THROUGHcGRACE",
      "cSPLITTING APARTcRETURNcINNOCENCEcGREAT TAMINGcMOUTH ",
      "CORNERScGREAT PREPONDERANCEcTHE ABYSMAL WATER",
      "dCLINGING FIREcINFLUENCEcDURATIONcRETREATcGREAT POWER",
      "cPROGRESScDARKENING OF THE LIGHTcTHE FAMILY",
      "cOPPOSITIONcOBSTRUCTIONcDELIVERANCEcDECREASEcINCREASE",
      "cBREAKTHROUGHcCOMING TO MEETcGATHERING TOGETHER",
      "cPUSHING UPWARDcOPPRESSIONcTHE WELLcREVOLUTIONcTHE ",
      "CAULDRONdAROUSING THUNDERdKEEPING STILL MOUNTAIN",
      "cDEVELOPMENTcTHE MARRYING MAIDENcABUNDANCEcTHE ",
      "WANDERERdGENTLE WINDdJOYOUS LAKEcDISPERSION",
      "cLIMITATIONcINNER TRUTHcSMALL PREPONDERANCEcAFTER ",
      "COMPLETIONcBEFORE COMPLETION"]⟩,
    ⟨0xA000, ["aYI SYLLABLE ITcIXcIcIPcIETcIEXcIEcIEPcATcAX",
      "cAcAPcUOXcUOcUOPcOTcOXcOcOPcEXcEcWUcBITcBIXcBIcBIP",
      "cBIETcBIEXcBIEcBIEPcBATcBAXcBAcBAPcBUOXcBUOcBUOPcBOT",
      "cBOXcBOcBOPcBEXcBEcBEPcBUTcBUXcBUcBUPcBURXcBURcBYT",
      "cBYXcBYcBYPcBYRXcBYRcPITcPIXcPIcPIPcPIEXcPIEcPIEPcPAT",
      "cPAXcPAcPAPcPUOXcPUOcPUOPcPOTcPOXcPOcPOPcPUTcPUXcPU",
      "cPUPcPURXcPURcPYTcPYXcPYcPYPcPYRXcPYRcBBITcBBIXcBBI",
      "cBBIPcBBIETcBBIEXcBBIEcBBIEPcBBATcBBAXcBBAcBBAPcBBUOX",
      "cBBUOcBBUOPcBBOTcBBOXcBBOcBBOPcBBEXcBBEcBBEPcBBUT",
      "cBBUXcBBUcBBUPcBBURXcBBURcBBYTcBBYXcBBYcBBYPcNBIT",
      "cNBIXcNBIcNBIPcNBIEXcNBIEcNBIEPcNBATcNBAXcNBAcNBAP",
      "cNBOTcNBOXcNBOcNBOPcNBUTcNBUXcNBUcNBUPcNBURXcNBUR",
      "cNBYTcNBYXcNBYcNBYPcNBYRXcNBYRcHMITcHMIXcHMIcHMIP",
      "cHMIEXcHMIEcHMIEPcHMATcHMAXcHMAcHMAPcHMUOXcHMUOcHMUOP",
      "cHMOTcHMOXcHMOcHMOPcHMUTcHMUXcHMUcHMUPcHMURXcHMUR",
      "cHMYXcHMYcHMYPcHMYRXcHMYRcMITcMIXcMIcMIPcMIEXcMIE",
      "cMIEPcMATcMAXcMAcMAPcMUOTcMUOXcMUOcMUOPcMOTcMOXcMO",
      "cMOPcMEXcMEcMUTcMUXcMUcMUPcMURXcMURcMYTcMYXcMYcMYP",
      "cFITcFIXcFIcFIPcFATcFAXcFAcFAPcFOXcFOcFOPcFUTcFUXcFU",
      "cFUPcFURXcFURcFYTcFYXcFYcFYPcVITcVIXcVIcVIPcVIETcVIEX",
      "cVIEcVIEPcVATcVAXcVAcVAPcVOTcVOXcVOcVOPcVEXcVEPcVUT",
      "cVUXcVUcVUPcVURXcVURcVYTcVYXcVYcVYPcVYRXcVYRcDITcDIX",
      "cDIcDIPcDIEXcDIEcDIEPcDATcDAXcDAcDAPcDUOXcDUOcDOTcDOX",
      "cDOcDOPcDEXcDEcDEPcDUTcDUXcDUcDUPcDURXcDURcTITcTIXcTI",
      "cTIPcTIEXcTIEcTIEPcTATcTAXcTAcTAPcTUOTcTUOXcTUOcTUOP",
      "cTOTcTOXcTOcTOPcTEXcTEcTEPcTUTcTUXcTUcTUPcTURXcTUR",
      "cDDITcDDIXcDDIcDDIPcDDIEXcDDIEcDDIEPcDDATcDDAXcDDA",
      "cDDAPcDDUOXcDDUOcDDUOPcDDOTcDDOXcDDOcDDOPcDDEXcDDE",
      "cDDEPcDDUTcDDUXcDDUcDDUPcDDURXcDDURcNDITcNDIXcNDI",
      "cNDIPcNDIEXcNDIEcNDATcNDAXcNDAcNDAPcNDOTcNDOXcNDO",
      "cNDOPcNDEXcNDEcNDEPcNDUTcNDUXcNDUcNDUPcNDURXcNDUR",
      "cHNITcHNIXcHNIcHNIPcHNIETcHNIEXcHNIEcHNIEPcHNATcHNAX",
      "cHNAcHNAPcHNUOXcHNUOcHNOTcHNOXcHNOPcHNEXcHNEcHNEP",
      "cHNUTcNITcNIXcNIcNIPcNIEXcNIEcNIEPcNAXcNAcNAPcNUOX",
      "cNUOcNUOPcNOTcNOXcNOcNOPcNEXcNEcNEPcNUTcNUXcNUcNUP",
      "cNURXcNURcHLITcHLIXcHLIcHLIPcHLIEXcHLIEcHLIEPcHLAT",
      "cHLAXcHLAcHLAPcHLUOXcHLUOcHLUOPcHLOXcHLOcHLOPcHLEX",
      "cHLEcHLEPcHLUTcHLUXcHLUcHLUPcHLURXcHLURcHLYTcHLYXcHLY",
      "cHLYPcHLYRXcHLYRcLITcLIXcLIcLIPcLIETcLIEXcLIEcLIEP",
      "cLATcLAXcLAcLAPcLUOTcLUOXcLUOcLUOPcLOTcLOXcLOcLOPcLEX",
      "cLEcLEPcLUTcLUXcLUcLUPcLURXcLURcLYTcLYXcLYcLYPcLYRX",
      "cLYRcGITcGIXcGIcGIPcGIETcGIEXcGIEcGIEPcGATcGAXcGAcGAP",
      "cGUOTcGUOXcGUOcGUOPcGOTcGOXcGOcGOPcGETcGEXcGEcGEPcGUT",
      "cGUXcGUcGUPcGURXcGURcKITcKIXcKIcKIPcKIEXcKIEcKIEPcKAT",
      "cKAXcKAcKAPcKUOXcKUOcKUOPcKOTcKOXcKOcKOPcKETcKEXcKE",
      "cKEPcKUTcKUXcKUcKUPcKURXcKURcGGITcGGIXcGGIcGGIEXcGGIE",
      "cGGIEPcGGATcGGAXcGGAcGGAPcGGUOTcGGUOXcGGUOcGGUOPcGGOT",
      "cGGOXcGGOcGGOPcGGETcGGEXcGGEcGGEPcGGUTcGGUXcGGUcGGUP",
      "cGGURXcGGURcMGIEXcMGIEcMGATcMGAXcMGAcMGAPcMGUOXcMGUO",
      "cMGUOPcMGOTcMGOXcMGOcMGOPcMGEXcMGEcMGEPcMGUTcMGUXcMGU",
      "cMGUPcMGURXcMGURcHXITcHXIXcHXIcHXIPcHXIETcHXIEXcHXIE",
      "cHXIEPcHXATcHXAXcHXAcHXAPcHXUOTcHXUOXcHXUOcHXUOPcHXOT",
      "cHXOXcHXOcHXOPcHXEXcHXEcHXEPcNGIEXcNGIEcNGIEPcNGAT",
      "cNGAXcNGAcNGAPcNGUOTcNGUOXcNGUOcNGOTcNGOXcNGOcNGOP",
      "cNGEXcNGEcNGEPcHITcHIEXcHIEcHATcHAXcHAcHAPcHUOTcHUOX",
      "cHUOcHUOPcHOTcHOXcHOcHOPcHEXcHEcHEPcWATcWAXcWAcWAP",
      "cWUOXcWUOcWUOPcWOXcWOcWOPcWEXcWEcWEPcZITcZIXcZIcZIP",
      "cZIEXcZIEcZIEPcZATcZAXcZAcZAPcZUOXcZUOcZUOPcZOTcZOX",
      "cZOcZOPcZEXcZEcZEPcZUTcZUXcZUcZUPcZURXcZURcZYTcZYXcZY",
      "cZYPcZYRXcZYRcCITcCIXcCIcCIPcCIETcCIEXcCIEcCIEPcCAT",
      "cCAXcCAcCAPcCUOXcCUOcCUOPcCOTcCOXcCOcCOPcCEXcCEcCEP",
      "cCUTcCUXcCUcCUPcCURXcCURcCYTcCYXcCYcCYPcCYRXcCYRcZZIT",
      "cZZIXcZZIcZZIPcZZIETcZZIEXcZZIEcZZIEPcZZATcZZAXcZZA",
      "cZZAPcZZOXcZZOcZZOPcZZEXcZZEcZZEPcZZUXcZZUcZZUPcZZURX",
      "cZZURcZZYTcZZYXcZZYcZZYPcZZYRXcZZYRcNZITcNZIXcNZI",
      "cNZIPcNZIEXcNZIEcNZIEPcNZATcNZAXcNZAcNZAPcNZUOXcNZUO",
      "cNZOXcNZOPcNZEXcNZEcNZUXcNZUcNZUPcNZURXcNZURcNZYT",
      "cNZYXcNZYcNZYPcNZYRXcNZYRcSITcSIXcSIcSIPcSIEXcSIE",
      "cSIEPcSATcSAXcSAcSAPcSUOXcSUOcSUOPcSOTcSOXcSOcSOPcSEX",
      "cSEcSEPcSUTcSUXcSUcSUPcSURXcSURcSYTcSYXcSYcSYPcSYRX",
      "cSYRcSSITcSSIXcSSIcSSIPcSSIEXcSSIEcSSIEPcSSATcSSAX",
      "cSSAcSSAPcSSOTcSSOXcSSOcSSOPcSSEXcSSEcSSEPcSSUTcSSUX",
      "cSSUcSSUPcSSYTcSSYXcSSYcSSYPcSSYRXcSSYRcZHATcZHAXcZHA",
      "cZHAPcZHUOXcZHUOcZHUOPcZHOTcZHOXcZHOcZHOPcZHETcZHEX",
      "cZHEcZHEPcZHUTcZHUXcZHUcZHUPcZHURXcZHURcZHYTcZHYXcZHY",
      "cZHYPcZHYRXcZHYRcCHATcCHAXcCHAcCHAPcCHUOTcCHUOXcCHUO",
      "cCHUOPcCHOTcCHOXcCHOcCHOPcCHETcCHEXcCHEcCHEPcCHUXcCHU",
      "cCHUPcCHURXcCHURcCHYTcCHYXcCHYcCHYPcCHYRXcCHYRcRRAX",
      "cRRAcRRUOXcRRUOcRROTcRROXcRROcRROPcRRETcRREXcRREcRREP",
      "cRRUTcRRUXcRRUcRRUPcRRURXcRRURcRRYTcRRYXcRRYcRRYP",
      "cRRYRXcRRYRcNRATcNRAXcNRAcNRAPcNROXcNROcNROPcNRET",
      "cNREXcNREcNREPcNRUTcNRUXcNRUcNRUPcNRURXcNRURcNRYT",
      "cNRYXcNRYcNRYPcNRYRXcNRYRcSHATcSHAXcSHAcSHAPcSHUOX",
      "cSHUOcSHUOPcSHOTcSHOXcSHOcSHOPcSHETcSHEXcSHEcSHEP",
      "cSHUTcSHUXcSHUcSHUPcSHURXcSHURcSHYTcSHYXcSHYcSHYP",
      "cSHYRXcSHYRcRATcRAXcRAcRAPcRUOXcRUOcRUOPcROTcROXcRO",
      "cROPcREXcREcREPcRUTcRUXcRUcRUPcRURXcRURcRYTcRYXcRY",
      "cRYPcRYRXcRYRcJITcJIXcJIcJIPcJIETcJIEXcJIEcJIEPcJUOT",
      "cJUOXcJUOcJUOPcJOTcJOXcJOcJOPcJUTcJUXcJUcJUPcJURXcJUR",
      "cJYTcJYXcJYcJYPcJYRXcJYRcQITcQIXcQIcQIPcQIETcQIEXcQIE",
      "cQIEPcQUOTcQUOXcQUOcQUOPcQOTcQOXcQOcQOPcQUTcQUXcQU",
      "cQUPcQURXcQURcQYTcQYXcQYcQYPcQYRXcQYRcJJITcJJIXcJJI",
      "cJJIPcJJIETcJJIEXcJJIEcJJIEPcJJUOXcJJUOcJJUOPcJJOT",
      "cJJOXcJJOcJJOPcJJUTcJJUXcJJUcJJUPcJJURXcJJURcJJYT",
      "cJJYXcJJYcJJYPcNJITcNJIXcNJIcNJIPcNJIETcNJIEXcNJIE",
      "cNJIEPcNJUOXcNJUOcNJOTcNJOXcNJOcNJOPcNJUXcNJUcNJUP",
      "cNJURXcNJURcNJYTcNJYXcNJYcNJYPcNJYRXcNJYRcNYITcNYIX",
      "cNYIcNYIPcNYIETcNYIEXcNYIEcNYIEPcNYUOXcNYUOcNYUOP",
      "cNYOTcNYOXcNYOcNYOPcNYUTcNYUXcNYUcNYUPcXITcXIXcXIcXIP",
      "cXIETcXIEXcXIEcXIEPcXUOXcXUOcXOTcXOXcXOcXOPcXYTcXYX",
      "cXYcXYPcXYRXcXYRcYITcYIXcYIcYIPcYIETcYIEXcYIEcYIEP",
      "cYUOTcYUOXcYUOcYUOPcYOTcYOXcYOcYOPcYUTcYUXcYUcYUP",
      "cYURXcYURcYYTcYYXcYYcYYPcYYRXcYYR"]⟩,
    ⟨0xA490, ["aYI RADICAL QOTcLIcKITcNYIPcCYPcSSIcGGOPcGEP",
      "cMIcHXITcLYRcBBUTcMOPcYOcPUTcHXUOcTATcGAcZUPcCYTcDDUR",
      "cBURcGGUOcNYOPcTUcOPcJJUTcZOTcPYTcHMOcYITcVURcSHYcVEP",
      "cZAcJOcNZUPcJJYcGOTcJJIEcWOcDUcSHURcLIEcCYcCUOPcCIP",
      "cHXOPcSHATcZURcSHOPcCHEcZZIETcNBIEcKE"]⟩,
    ⟨0xA4D0, ["aLISU LETTER BAcPAcPHAcDAcTAcTHAcGAcKAcKHAcJA",
      "cCAcCHAcDZAcTSAcTSHAcMAcNAcLAcSAcZHAcZAcNGAcHAcXAcHHA",
      "cFAcWAcSHAcYAcGHAcAcAEcEcEUcIcOcUcUEcUHcOEcTONE MYA ",
      "TIdNA POdMYA CYAeBOeNAeJEUbPUNCTUATION COMMAcFULL ",
      "STOPaVAI SYLLABLE EEcEENcHEEcWEEcWEENcPEEcBHEEcBEE",
      "cMBEEcKPEEcMGBEEcGBEEcFEEcVEEcTEEcTHEEcDHEEcDHHEEcLEE",
      "cREEcDEEcNDEEcSEEcSHEEcZEEcZHEEcCEEcJEEcNJEEcYEEcKEE",
      "cNGGEEcGEEcMEEcNEEcNYEEcIcINcHIcHINcWIcWINcPIcBHIcBI",
      "cMBIcKPIcMGBIcGBIcFIcVIcTIcTHIcDHIcDHHIcLIcRIcDIcNDI",
      "cSIcSHIcZIcZHIcCIcJIcNJIcYIcKIcNGGIcGIcMIcNIcNYIcAcAN",
      "cNGANcHAcHANcWAcWANcPAcBHAcBAcMBAcKPAcKPANcMGBAcGBA",
      "cFAcVAcTAcTHAcDHAcDHHAcLAcRAcDAcNDAcSAcSHAcZAcZHAcCA",
      "cJAcNJAcYAcKAcKANcNGGAcGAcMAcNAcNYAcOOcOONcHOOcWOO",
      "cWOONcPOOcBHOOcBOOcMBOOcKPOOcMGBOOcGBOOcFOOcVOOcTOO",
      "cTHOOcDHOOcDHHOOcLOOcROOcDOOcNDOOcSOOcSHOOcZOOcZHOO",
      "cCOOcJOOcNJOOcYOOcKOOcNGGOOcGOOcMOOcNOOcNYOOcUcUNcHU",
      "cHUNcWUcWUNcPUcBHUcBUcMBUcKPUcMGBUcGBUcFUcVUcTUcTHU",
      "cDHUcDHHUcLUcRUcDUcNDUcSUcSHUcZUcZHUcCUcJUcNJUcYUcKU",
      "cNGGUcGUcMUcNUcNYUcOcONcNGONcHOcHONcWOcWONcPOcBHOcBO",
      "cMBOcKPOcMGBOcGBOcGBONcFOcVOcTOcTHOcDHOcDHHOcLOcROcDO",
      "cNDOcSOcSHOcZOcZHOcCOcJOcNJOcYOcKOcNGGOcGOcMOcNOcNYO",
      "cEcENcNGENcHEcHENcWEcWENcPEcBHEcBEcMBEcKPEcKPENcMGBE",
      "cGBEcGBENcFEcVEcTEcTHEcDHEcDHHEcLEcREcDEcNDEcSEcSHE",
      "cZEcZHEcCEcJEcNJEcYEcKEcNGGEcNGGENcGEcGENcMEcNEcNYE",
      "cNGcLENGTHENERbCOMMAbFULL STOPbQUESTION MARK",
      "bSYLLABLE NDOLE FAdKAdSOObSYMBOL FEENGcKEENGcTINGcNII",
      "cBANGcFAAcTAAcDANGcDOONGcKUNGcTONGcDO-OcJONGbDIGIT ",
      "ZEROcONEcTWOcTHREEcFOURcFIVEcSIXcSEVENcEIGHTcNINE",
      "bSYLLABLE NDOLE MAdDO"]⟩,
    ⟨0xA640, ["aCYRILLIC CAPITAL LETTER ZEMLYAbSMALL LETTER ",
      "ZEMLYAbCAPITAL LETTER DZELObSMALL LETTER DZELO",
      "bCAPITAL LETTER REVERSED DZEbSMALL LETTER REVERSED ",
      "DZEbCAPITAL LETTER IOTAbSMALL LETTER IOTAbCAPITAL ",
      "LETTER DJERVbSMALL LETTER DJERVbCAPITAL LETTER ",
      "MONOGRAPH UKbSMALL LETTER MONOGRAPH UKbCAPITAL ",
      "LETTER BROAD OMEGAbSMALL LETTER BROAD OMEGAbCAPITAL ",
      "LETTER NEUTRAL YERbSMALL LETTER NEUTRAL YERbCAPITAL ",
      "LETTER YERU WITH BACK YERbSMALL LETTER YERU WITH ",
      "BACK YERbCAPITAL LETTER IOTIFIED YATbSMALL LETTER ",
      "IOTIFIED YATbCAPITAL LETTER REVERSED YUbSMALL LETTER ",
      "REVERSED YUbCAPITAL LETTER IOTIFIED AbSMALL LETTER ",
      "IOTIFIED AbCAPITAL LETTER CLOSED LITTLE YUSbSMALL ",
      "LETTER CLOSED LITTLE YUSbCAPITAL LETTER BLENDED YUS",
      "bSMALL LETTER BLENDED YUSbCAPITAL LETTER IOTIFIED ",
      "CLOSED LITTLE YUSbSMALL LETTER IOTIFIED CLOSED ",
      "LITTLE YUSbCAPITAL LETTER YNbSMALL LETTER YNbCAPITAL ",
      "LETTER REVERSED TSEbSMALL LETTER REVERSED TSE",
      "bCAPITAL LETTER SOFT DEbSMALL LETTER SOFT DEbCAPITAL ",
      "LETTER SOFT ELbSMALL LETTER SOFT ELbCAPITAL LETTER ",
      "SOFT EMbSMALL LETTER SOFT EMbCAPITAL LETTER ",
      "MONOCULAR ObSMALL LETTER MONOCULAR ObCAPITAL LETTER ",
      "BINOCULAR ObSMALL LETTER BINOCULAR ObCAPITAL LETTER ",
      "DOUBLE MONOCULAR ObSMALL LETTER DOUBLE MONOCULAR O",
      "bLETTER MULTIOCULAR OaCOMBINING CYRILLIC VZMETcTEN ",
      "MILLIONS SIGNcHUNDRED MILLIONS SIGNcTHOUSAND ",
      "MILLIONS SIGNaSLAVONIC ASTERISKaCOMBINING CYRILLIC ",
      "LETTER UKRAINIAN IEdIdYIdUdHARD SIGNdYERUdSOFT SIGN",
      "dOMEGAcKAVYKAcPAYEROKaCYRILLIC KAVYKAbPAYEROK",
      "bCAPITAL LETTER DWEbSMALL LETTER DWEbCAPITAL LETTER ",
      "DZWEbSMALL LETTER DZWEbCAPITAL LETTER ZHWEbSMALL ",
      "LETTER ZHWEbCAPITAL LETTER CCHEbSMALL LETTER CCHE",
      "bCAPITAL LETTER DZZEbSMALL LETTER DZZEbCAPITAL ",
      "LETTER TE WITH MIDDLE HOOKbSMALL LETTER TE WITH ",
      "MIDDLE HOOKbCAPITAL LETTER TWEbSMALL LETTER TWE",
      "bCAPITAL LETTER TSWEbSMALL LETTER TSWEbCAPITAL ",
      "LETTER TSSEbSMALL LETTER TSSEbCAPITAL LETTER TCHE",
      "bSMALL LETTER TCHEbCAPITAL LETTER HWEbSMALL LETTER ",
      "HWEbCAPITAL LETTER SHWEbSMALL LETTER SHWEbCAPITAL ",
      "LETTER DOUBLE ObSMALL LETTER DOUBLE ObCAPITAL LETTER ",
      "CROSSED ObSMALL LETTER CROSSED OaMODIFIER LETTER ",
      "CYRILLIC HARD SIGNdSOFT SIGNaCOMBINING CYRILLIC ",
      "LETTER EFdIOTIFIED EaBAMUM LETTER AcKAcUcKUcEEcREE",
      "cTAEcOcNYIcIcLAcPAcRIIcRIEEcLEEEEcMEEEEcTAAcNDAA",
      "cNJAEMcMcSUUcMUcSHIIcSIcSHEUXcSEUXcKYEEcKETcNUAEcNU",
      "cNJUAEcYOQcSHUcYUQcYAcNSHAcKEUXcPEUXcNJEEcNTEEcPUE",
      "cWUEcPEEcFEEcRUcLUcMIcNIcREUXcRAEcKENcNGKWAENcNGGA",
      "cNGAcSHOcPUAEcFUcFOMcWAcNAcLIcPIcLOQcKOcMBENcRENcMEN",
      "cMAcTIcKIcMOcMBAAcTETcKPAcTENcNTUUcSAMBAcFAAMAEcKOVUU",
      "cKOGHOMbCOMBINING MARK KOQNDONdTUKWENTISbNJAEMLI",
      "bFULL STOPbCOLONbCOMMAbSEMICOLONbQUESTION MARK"]⟩,
    ⟨0xA700, ["aMODIFIER LETTER CHINESE TONE YIN PINGeYANG ",
      "PINGeYIN SHANGeYANG SHANGeYIN QUeYANG QUeYIN RUeYANG ",
      "RUcEXTRA-HIGH DOTTED TONE BARcHIGH DOTTED TONE BAR",
      "cMID DOTTED TONE BARcLOW DOTTED TONE BARcEXTRA-LOW ",
      "DOTTED TONE BARdHIGH DOTTED LEFT-STEM TONE BARcHIGH ",
      "DOTTED LEFT-STEM TONE BARcMID DOTTED LEFT-STEM TONE ",
      "BARcLOW DOTTED LEFT-STEM TONE BARcEXTRA-LOW DOTTED ",
      "LEFT-STEM TONE BARdHIGH LEFT-STEM TONE BARcHIGH LEFT-",
      "STEM TONE BARcMID LEFT-STEM TONE BARcLOW LEFT-STEM ",
      "TONE BARcEXTRA-LOW LEFT-STEM TONE BARcDOT VERTICAL ",
      "BARdSLASHdHORIZONTAL BARcLOWER RIGHT CORNER ANGLE",
      "cRAISED UP ARROWdDOWN ARROWdEXCLAMATION MARK",
      "dINVERTED EXCLAMATION MARKcLOW INVERTED EXCLAMATION ",
      "MARKcSTRESS AND HIGH TONEeLOW TONEaLATIN CAPITAL ",
      "LETTER EGYPTOLOGICAL ALEFbSMALL LETTER EGYPTOLOGICAL ",
      "ALEFbCAPITAL LETTER EGYPTOLOGICAL AINbSMALL LETTER ",
      "EGYPTOLOGICAL AINbCAPITAL LETTER HENGbSMALL LETTER ",
      "HENGbCAPITAL LETTER TZbSMALL LETTER TZbCAPITAL ",
      "LETTER TRESILLObSMALL LETTER TRESILLObCAPITAL LETTER ",
      "CUATRILLObSMALL LETTER CUATRILLObCAPITAL LETTER ",
      "CUATRILLO WITH COMMAbSMALL LETTER CUATRILLO WITH ",
      "COMMAbLETTER SMALL CAPITAL FeSbCAPITAL LETTER AA",
      "bSMALL LETTER AAbCAPITAL LETTER AObSMALL LETTER AO",
      "bCAPITAL LETTER AUbSMALL LETTER AUbCAPITAL LETTER AV",
      "bSMALL LETTER AVbCAPITAL LETTER AV WITH HORIZONTAL ",
      "BARbSMALL LETTER AV WITH HORIZONTAL BARbCAPITAL ",
      "LETTER AYbSMALL LETTER AYbCAPITAL LETTER REVERSED C ",
      "WITH DOTbSMALL LETTER REVERSED C WITH DOTbCAPITAL ",
      "LETTER K WITH STROKEbSMALL LETTER K WITH STROKE",
      "bCAPITAL LETTER K WITH DIAGONAL STROKEbSMALL LETTER ",
      "K WITH DIAGONAL STROKEbCAPITAL LETTER K WITH STROKE ",
      "AND DIAGONAL STROKEbSMALL LETTER K WITH STROKE AND ",
      "DIAGONAL STROKEbCAPITAL LETTER BROKEN LbSMALL LETTER ",
      "BROKEN LbCAPITAL LETTER L WITH HIGH STROKEbSMALL ",
      "LETTER L WITH HIGH STROKEbCAPITAL LETTER O WITH LONG ",
      "STROKE OVERLAYbSMALL LETTER O WITH LONG STROKE ",
      "OVERLAYbCAPITAL LETTER O WITH LOOPbSMALL LETTER O ",
      "WITH LOOPbCAPITAL LETTER OObSMALL LETTER OObCAPITAL ",
      "LETTER P WITH STROKE THROUGH DESCENDERbSMALL LETTER ",
      "P WITH STROKE THROUGH DESCENDERbCAPITAL LETTER P ",
      "WITH FLOURISHbSMALL LETTER P WITH FLOURISHbCAPITAL ",
      "LETTER P WITH SQUIRREL TAILbSMALL LETTER P WITH ",
      "SQUIRREL TAILbCAPITAL LETTER Q WITH STROKE THROUGH ",
      "DESCENDERbSMALL LETTER Q WITH STROKE THROUGH ",
      "DESCENDERbCAPITAL LETTER Q WITH DIAGONAL STROKE",
      "bSMALL LETTER Q WITH DIAGONAL STROKEbCAPITAL LETTER ",
      "R ROTUNDAbSMALL LETTER R ROTUNDAbCAPITAL LETTER RUM ",
      "ROTUNDAbSMALL LETTER RUM ROTUNDAbCAPITAL LETTER V ",
      "WITH DIAGONAL STROKEbSMALL LETTER V WITH DIAGONAL ",
      "STROKEbCAPITAL LETTER VYbSMALL LETTER VYbCAPITAL ",
      "LETTER VISIGOTHIC ZbSMALL LETTER VISIGOTHIC Z",
      "bCAPITAL LETTER THORN WITH STROKEbSMALL LETTER THORN ",
      "WITH STROKEbCAPITAL LETTER THORN WITH STROKE THROUGH ",
      "DESCENDERbSMALL LETTER THORN WITH STROKE THROUGH ",
      "DESCENDERbCAPITAL LETTER VENDbSMALL LETTER VEND",
      "bCAPITAL LETTER ETbSMALL LETTER ETbCAPITAL LETTER IS",
      "bSMALL LETTER ISbCAPITAL LETTER CONbSMALL LETTER CON",
      "aMODIFIER LETTER USaLATIN SMALL LETTER DUMdLUMdMUM",
      "dNUMdRUMbLETTER SMALL CAPITAL RUMbSMALL LETTER TUMdUM",
      "bCAPITAL LETTER INSULAR DbSMALL LETTER INSULAR D",
      "bCAPITAL LETTER INSULAR FbSMALL LETTER INSULAR F",
      "bCAPITAL LETTER INSULAR GdTURNED INSULAR GbSMALL ",
      "LETTER TURNED INSULAR GbCAPITAL LETTER TURNED L",
      "bSMALL LETTER TURNED LbCAPITAL LETTER INSULAR R",
      "bSMALL LETTER INSULAR RbCAPITAL LETTER INSULAR S",
      "bSMALL LETTER INSULAR SbCAPITAL LETTER INSULAR T",
      "bSMALL LETTER INSULAR TaMODIFIER LETTER LOW ",
      "CIRCUMFLEX ACCENTcCOLONcSHORT EQUALS SIGNaLATIN ",
      "CAPITAL LETTER SALTILLObSMALL LETTER SALTILLO",
      "bCAPITAL LETTER TURNED HbSMALL LETTER L WITH ",
      "RETROFLEX HOOK AND BELTbLETTER SINOLOGICAL DOT",
      "bCAPITAL LETTER N WITH DESCENDERbSMALL LETTER N WITH ",
      "DESCENDERbCAPITAL LETTER C WITH BARbSMALL LETTER C ",
      "WITH BARfPALATAL HOOKdH WITH PALATAL HOOKbCAPITAL ",
      "LETTER B WITH FLOURISHbSMALL LETTER B WITH FLOURISH",
      "bCAPITAL LETTER F WITH STROKEbSMALL LETTER F WITH ",
      "STROKEbCAPITAL LETTER VOLAPUK AEbSMALL LETTER ",
      "VOLAPUK AEbCAPITAL LETTER VOLAPUK OEbSMALL LETTER ",
      "VOLAPUK OEbCAPITAL LETTER VOLAPUK UEbSMALL LETTER ",
      "VOLAPUK UEbCAPITAL LETTER G WITH OBLIQUE STROKE",
      "bSMALL LETTER G WITH OBLIQUE STROKEbCAPITAL LETTER K ",
      "WITH OBLIQUE STROKEbSMALL LETTER K WITH OBLIQUE ",
      "STROKEbCAPITAL LETTER N WITH OBLIQUE STROKEbSMALL ",
      "LETTER N WITH OBLIQUE STROKEbCAPITAL LETTER R WITH ",
      "OBLIQUE STROKEbSMALL LETTER R WITH OBLIQUE STROKE",
      "bCAPITAL LETTER S WITH OBLIQUE STROKEbSMALL LETTER S ",
      "WITH OBLIQUE STROKEbCAPITAL LETTER H WITH HOOK",
      "dREVERSED OPEN EdSCRIPT GdL WITH BELTdSMALL CAPITAL I",
      "bLETTER SMALL CAPITAL QbCAPITAL LETTER TURNED KeTdJ ",
      "WITH CROSSED-TAILdCHIdBETAbSMALL LETTER BETAbCAPITAL ",
      "LETTER OMEGAbSMALL LETTER OMEGAbCAPITAL LETTER U ",
      "WITH STROKEbSMALL LETTER U WITH STROKEbCAPITAL ",
      "LETTER GLOTTAL AbSMALL LETTER GLOTTAL AbCAPITAL ",
      "LETTER GLOTTAL IbSMALL LETTER GLOTTAL IbCAPITAL ",
      "LETTER GLOTTAL UbSMALL LETTER GLOTTAL UbCAPITAL ",
      "LETTER OLD POLISH ObSMALL LETTER OLD POLISH O",
      "bCAPITAL LETTER ANGLICANA WbSMALL LETTER ANGLICANA W",
      "bCAPITAL LETTER C WITH PALATAL HOOKdS WITH HOOKdZ ",
      "WITH PALATAL HOOKdD WITH SHORT STROKE OVERLAYbSMALL ",
      "LETTER D WITH SHORT STROKE OVERLAYbCAPITAL LETTER S ",
      "WITH SHORT STROKE OVERLAYbSMALL LETTER S WITH SHORT ",
      "STROKE OVERLAY"]⟩,
    ⟨0xA7D0, ["aLATIN CAPITAL LETTER CLOSED INSULAR GbSMALL ",
      "LETTER CLOSED INSULAR G"]⟩,
    ⟨0xA7D3, ["aLATIN SMALL LETTER DOUBLE THORN"]⟩,
    ⟨0xA7D5, ["aLATIN SMALL LETTER DOUBLE WYNNbCAPITAL ",
      "LETTER MIDDLE SCOTS SbSMALL LETTER MIDDLE SCOTS S",
      "bCAPITAL LETTER SIGMOID SbSMALL LETTER SIGMOID S"]⟩,
    ⟨0xA7F2, ["aMODIFIER LETTER CAPITAL CdFdQaLATIN CAPITAL ",
      "LETTER REVERSED HALF HbSMALL LETTER REVERSED HALF H",
      "bEPIGRAPHIC LETTER SIDEWAYS IaMODIFIER LETTER ",
      "CAPITAL H WITH STROKEcSMALL LIGATURE OEaLATIN LETTER ",
      "SMALL CAPITAL TURNED MbEPIGRAPHIC LETTER REVERSED FeP",
      "dINVERTED MdI LONGAdARCHAIC MaSYLOTI NAGRI LETTER AdI",
      "cSIGN DVISVARAcLETTER UdEdOcSIGN HASANTAcLETTER KO",
      "dKHOdGOdGHOcSIGN ANUSVARAcLETTER COdCHOdJOdJHOdTTO",
      "dTTHOdDDOdDDHOdTOdTHOdDOdDHOdNOdPOdPHOdBOdBHOdMOdRO",
      "dLOdRROdSOdHOcVOWEL SIGN AeIeUeEeOOcPOETRY MARK-1e2e3",
      "e4cSIGN ALTERNATE HASANTA"]⟩,
    ⟨0xA830, ["aNORTH INDIC FRACTION ONE QUARTEReHALFdTHREE ",
      "QUARTERSdONE SIXTEENTHeEIGHTHdTHREE SIXTEENTHS",
      "cQUARTER MARKcPLACEHOLDER MARKcRUPEE MARKcQUANTITY ",
      "MARK"]⟩,
    ⟨0xA840, ["aPHAGS-PA LETTER KAdKHAdGAdNGAdCAdCHAdJAdNYA",
      "dTAdTHAdDAdNAdPAdPHAdBAdMAdTSAdTSHAdDZAdWAdZHAdZA",
      "dSMALL AdYAdRAdLAdSHAdSAdHAdAdIdUdEdOdQAdXAdFAdGGAdEE",
      "cSUBJOINED LETTER WAeYAcLETTER TTAdTTHAdDDAdNNA",
      "dALTERNATE YAdVOICELESS SHAdVOICED HAdASPIRATED FA",
      "cSUBJOINED LETTER RAcSUPERFIXED LETTER RAcLETTER ",
      "CANDRABINDUcSINGLE HEAD MARKcDOUBLE HEAD MARKcMARK ",
      "SHADdDOUBLE SHAD"]⟩,
    ⟨0xA880, ["aSAURASHTRA SIGN ANUSVARAcVISARGAbLETTER AcAA",
      "cIcIIcUcUUcVOCALIC RdRRdLdLLcEcEEcAIcOcOOcAUcKAcKHA",
      "cGAcGHAcNGAcCAcCHAcJAcJHAcNYAcTTAcTTHAcDDAcDDHAcNNA",
      "cTAcTHAcDAcDHAcNAcPAcPHAcBAcBHAcMAcYAcRAcLAcVAcSHA",
      "cSSAcSAcHAcLLAbCONSONANT SIGN HAARUbVOWEL SIGN AAdI",
      "dIIdUdUUdVOCALIC ReRReLeLLdEdEEdAIdOdOOdAUbSIGN ",
      "VIRAMAcCANDRABINDU"]⟩,
    ⟨0xA8CE, ["aSAURASHTRA DANDAbDOUBLE DANDAbDIGIT ZEROcONE",
      "cTWOcTHREEcFOURcFIVEcSIXcSEVENcEIGHTcNINE"]⟩,
    ⟨0xA8E0, ["aCOMBINING DEVANAGARI DIGIT ZEROdONEdTWO",
      "dTHREEdFOURdFIVEdSIXdSEVENdEIGHTdNINEcLETTER AdUdKA",
      "dNAdPAdRAdVIcSIGN AVAGRAHAaDEVANAGARI SIGN SPACING ",
      "CANDRABINDUcCANDRABINDU VIRAMAcDOUBLE CANDRABINDU ",
      "VIRAMAcCANDRABINDU TWOdTHREEdAVAGRAHAcPUSHPIKAbGAP ",
      "FILLERbCARETbHEADSTROKEbSIGN SIDDHAMbJAIN OMbLETTER ",
      "AYbVOWEL SIGN AYaKAYAH LI DIGIT ZEROdONEdTWOdTHREE",
      "dFOURdFIVEdSIXdSEVENdEIGHTdNINEcLETTER KAdKHAdGAdNGA",
      "dSAdSHAdZAdNYAdTAdHTAdNAdPAdPHAdMAdDAdBAdRAdYAdLAdWA",
      "dTHAdHAdVAdCAdAdOEdIdOOcVOWEL UEdEdUdEEdOcTONE PLOPHU",
      "dCALYAdCALYA PLOPHUcSIGN CWIdSHYAaREJANG LETTER KAcGA",
      "cNGAcTAcDAcNAcPAcBAcMAcCAcJAcNYAcSAcRAcLAcYAcWAcHA",
      "cMBAcNGGAcNDAcNYJAcAbVOWEL SIGN IdUdEdAIdOdAUdEUdEA",
      "bCONSONANT SIGN NGdNdRdHbVIRAMA"]⟩,
    ⟨0xA95F, ["aREJANG SECTION MARKaHANGUL CHOSEONG TIKEUT-",
      "MIEUMdPIEUPdSIOSdCIEUCcRIEUL-KIYEOKdSSANGKIYEOK",
      "dTIKEUTdSSANGTIKEUTdMIEUMdPIEUPdSSANGPIEUP",
      "dKAPYEOUNPIEUPdSIOSdCIEUCdKHIEUKHcMIEUM-KIYEOKdTIKEUT",
      "dSIOScPIEUP-SIOS-THIEUTHdKHIEUKHdHIEUHcSSANGSIOS-",
      "PIEUPcIEUNG-RIEULdHIEUHcSSANGCIEUC-HIEUHcSSANGTHIEUTH",
      "cPHIEUPH-HIEUHcHIEUH-SIOScSSANGYEORINHIEUH"]⟩,
    ⟨0xA980, ["aJAVANESE SIGN PANYANGGAcCECAKcLAYARcWIGNYAN",
      "bLETTER AcI KAWIcIcIIcUcPA CEREKcNGA LELETdLELET ",
      "RASWADIcEcAIcOcKAcKA SASAKdMURDAcGAcGA MURDAcNGAcCA",
      "cCA MURDAcJAcNYA MURDAcJA MAHAPRANAcNYAcTTAcTTA ",
      "MAHAPRANAcDDAcDDA MAHAPRANAcNA MURDAcTAcTA MURDAcDA",
      "cDA MAHAPRANAcNAcPAcPA MURDAcBAcBA MURDAcMAcYAcRAcRA ",
      "AGUNGcLAcWAcSA MURDAdMAHAPRANAcSAcHAbSIGN CECAK TELU",
      "bVOWEL SIGN TARUNGdTOLONGdWULUdWULU MELIKdSUKUdSUKU ",
      "MENDUTdTALINGdDIRGA MUREdPEPETbCONSONANT SIGN KERET",
      "dPENGKALdCAKRAbPANGKONbLEFT RERENGGANbRIGHT RERENGGAN",
      "bPADA ANDAPcMADYAcLUHURcWINDUcPANGKATcLINGSAcLUNGSI",
      "cADEGcADEG ADEGcPISELEHbTURNED PADA PISELEH"]⟩,
    ⟨0xA9CF, ["aJAVANESE PANGRANGKEPbDIGIT ZEROcONEcTWO",
      "cTHREEcFOURcFIVEcSIXcSEVENcEIGHTcNINE"]⟩,
    ⟨0xA9DE, ["aJAVANESE PADA TIRTA TUMETEScISEN-ISEN",
      "aMYANMAR LETTER SHAN GHAdCHAdJHAdNNAdBHAbSIGN SHAN ",
      "SAWbMODIFIER LETTER SHAN REDUPLICATIONbLETTER TAI ",
      "LAING NYAeFAeGAeGHAeJAeJHAeDDAeDDHAeNNAbTAI LAING ",
      "DIGIT ZEROeONEeTWOeTHREEeFOUReFIVEeSIXeSEVENeEIGHT",
      "eNINEbLETTER TAI LAING LLAeDAeDHAeBAeBHA"]⟩,
    ⟨0xAA00, ["aCHAM LETTER AcIcUcEcAIcOcKAcKHAcGAcGHAcNGUE",
      "cNGAcCHAcCHHAcJAcJHAcNHUEcNHAcNHJAcTAcTHAcDAcDHAcNUE",
      "cNAcDDAcPAcPPAcPHAcBAcBHAcMUEcMAcBBAcYAcRAcLAcVAcSSA",
      "cSAcHAbVOWEL SIGN AAdIdIIdEIdUdOEdOdAIdAUdUE",
      "bCONSONANT SIGN YAdRAdLAdWA"]⟩,
    ⟨0xAA40, ["aCHAM LETTER FINAL KdGdNGbCONSONANT SIGN ",
      "FINAL NGbLETTER FINAL CHdTdNdPdYdRdLdSSbCONSONANT ",
      "SIGN FINAL MeH"]⟩,
    ⟨0xAA50, ["aCHAM DIGIT ZEROcONEcTWOcTHREEcFOURcFIVEcSIX",
      "cSEVENcEIGHTcNINE"]⟩,
    ⟨0xAA5C, ["aCHAM PUNCTUATION SPIRALcDANDAcDOUBLE DANDA",
      "cTRIPLE DANDAaMYANMAR LETTER KHAMTI GAdCAdCHAdJAdJHA",
      "dNYAdTTAdTTHAdDDAdDDHAdDHAdNAdSAdHAdHHAdFAbMODIFIER ",
      "LETTER KHAMTI REDUPLICATIONbLETTER KHAMTI XAdZAdRA",
      "bLOGOGRAM KHAMTI OAYdQNdHMbSYMBOL AITON EXCLAMATION",
      "dONEdTWObLETTER AITON RAbSIGN PAO KAREN TONEcTAI ",
      "LAING TONE-2f5bLETTER SHWE PALAUNG CHAeSHAaTAI VIET ",
      "LETTER LOW KOdHIGH KOdLOW KHOdHIGH KHOdLOW KHHOdHIGH ",
      "KHHOdLOW GOdHIGH GOdLOW NGOdHIGH NGOdLOW COdHIGH CO",
      "dLOW CHOdHIGH CHOdLOW SOdHIGH SOdLOW NYOdHIGH NYO",
      "dLOW DOdHIGH DOdLOW TOdHIGH TOdLOW THOdHIGH THOdLOW ",
      "NOdHIGH NOdLOW BOdHIGH BOdLOW POdHIGH POdLOW PHO",
      "dHIGH PHOdLOW FOdHIGH FOdLOW MOdHIGH MOdLOW YOdHIGH ",
      "YOdLOW ROdHIGH ROdLOW LOdHIGH LOdLOW VOdHIGH VOdLOW ",
      "HOdHIGH HOdLOW OdHIGH OcMAI KANGcVOWEL AAdIdUEdUdEdO",
      "cMAI KHITcVOWEL IAdUEAdUAdAUEdAYdANdAMcTONE MAI EK",
      "eNUENGeTHOeSONG"]⟩,
    ⟨0xAADB, ["aTAI VIET SYMBOL KONdNUENGdSAMdHO HOIdKOI KOI",
      "aMEETEI MAYEK LETTER EdOdCHAdNYAdTTAdTTHAdDDAdDDHA",
      "dNNAdSHAdSSAcVOWEL SIGN IIeUUeAAIeAUeAAUcCHEIKHAN",
      "cAHANG KHUDAMcANJIcSYLLABLE REPETITION MARKcWORD ",
      "REPETITION MARKcVOWEL SIGN VISARGAcVIRAMA"]⟩,
    ⟨0xAB01, ["aETHIOPIC SYLLABLE TTHUcTTHIcTTHAAcTTHEEcTTHE",
      "cTTHO"]⟩,
    ⟨0xAB09, ["aETHIOPIC SYLLABLE DDHUcDDHIcDDHAAcDDHEEcDDHE",
      "cDDHO"]⟩,
    ⟨0xAB11, ["aETHIOPIC SYLLABLE DZUcDZIcDZAAcDZEEcDZEcDZO"]⟩,
    ⟨0xAB20, ["aETHIOPIC SYLLABLE CCHHAcCCHHUcCCHHIcCCHHAA",
      "cCCHHEEcCCHHEcCCHHO"]⟩,
    ⟨0xAB28, ["aETHIOPIC SYLLABLE BBAcBBUcBBIcBBAAcBBEEcBBE",
      "cBBO"]⟩,
    ⟨0xAB30, ["aLATIN SMALL LETTER BARRED ALPHAdA REVERSED-",
      "SCHWAdBLACKLETTER EdBARRED EdE WITH FLOURISHdLENIS F",
      "dSCRIPT G WITH CROSSED-TAILdL WITH INVERTED LAZY S",
      "fDOUBLE MIDDLE TILDEfMIDDLE RINGdM WITH CROSSED-TAIL",
      "dN WITH CROSSED-TAILdENG WITH CROSSED-TAIL",
      "dBLACKLETTER OeO WITH STROKEdOPEN O WITH STROKE",
      "dINVERTED OEdTURNED OE WITH STROKEgHORIZONTAL STROKE",
      "eO OPEN-OgO WITH STROKEdSTIRRUP RbLETTER SMALL ",
      "CAPITAL R WITH RIGHT LEGbSMALL LETTER R WITHOUT ",
      "HANDLEdDOUBLE RdR WITH CROSSED-TAILdDOUBLE R WITH ",
      "CROSSED-TAILdSCRIPT ReR WITH RINGdBASELINE ESHdU ",
      "WITH SHORT RIGHT LEGeBAR WITH SHORT RIGHT LEGdUI",
      "dTURNED UIdU WITH LEFT HOOKdCHIdCHI WITH LOW RIGHT ",
      "RINGgLEFT SERIFdX WITH LOW RIGHT RINGfLONG LEFT LEG",
      "hLEG AND LOW RIGHT RINGiWITH SERIFdY WITH SHORT ",
      "RIGHT LEGaMODIFIER BREVE WITH INVERTED BREVEbLETTER ",
      "SMALL HENGdL WITH INVERTED LAZY SfMIDDLE TILDEdU ",
      "WITH LEFT HOOKaLATIN SMALL LETTER SAKHA YATdIOTIFIED ",
      "EdOPEN OEdUOdINVERTED ALPHAaGREEK LETTER SMALL ",
      "CAPITAL OMEGAaLATIN SMALL LETTER DZ DIGRAPH WITH ",
      "RETROFLEX HOOKdTS DIGRAPH WITH RETROFLEX HOOKdTURNED ",
      "R WITH MIDDLE TILDEaMODIFIER LETTER SMALL TURNED W",
      "cLEFT TACKcRIGHT TACK"]⟩,
    ⟨0xAB70, ["aCHEROKEE SMALL LETTER AdEdIdOdUdVdGAdKAdGE",
      "dGIdGOdGUdGVdHAdHEdHIdHOdHUdHVdLAdLEdLIdLOdLUdLVdMA",
      "dMEdMIdMOdMUdNAdHNAdNAHdNEdNIdNOdNUdNVdQUAdQUEdQUI",
      "dQUOdQUUdQUVdSAdSdSEdSIdSOdSUdSVdDAdTAdDEdTEdDIdTIdDO",
      "dDUdDVdDLAdTLAdTLEdTLIdTLOdTLUdTLVdTSAdTSEdTSIdTSO",
      "dTSUdTSVdWAdWEdWIdWOdWUdWVdYAaMEETEI MAYEK LETTER KOK",
      "dSAMdLAIdMITdPAdNAdCHILdTILdKHOUdNGOUdTHOUdWAIdYANG",
      "dHUKdUNdIdPHAMdATIYAdGOKdJHAMdRAIdBAdJILdDILdGHOU",
      "dDHOUdBHAMdKOK LONSUMdLAI LONSUMdMIT LONSUMdPA LONSUM",
      "dNA LONSUMdTIL LONSUMdNGOU LONSUMdI LONSUMcVOWEL ",
      "SIGN ONAPeINAPeANAPeYENAPeSOUNAPeUNAPeCHEINAPeNUNG",
      "cCHEIKHEIcLUM IYEKcAPUN IYEK"]⟩,
    ⟨0xABF0, ["aMEETEI MAYEK DIGIT ZEROdONEdTWOdTHREEdFOUR",
      "dFIVEdSIXdSEVENdEIGHTdNINE"]⟩]

end SigCheck
