import SigCheck.CharName.Run

/-
  Names of the Hebrew, Arabic and neighbouring scripts, from
  U+0591 to U+08FF.

  Key definitions include:
    * `CharName.middleEastern`
-/

namespace SigCheck

/- The runs of these names. -/
def CharName.middleEastern : List NameRun :=
  [⟨0x591, ["aHEBREW ACCENT ETNAHTAcSEGOLcSHALSHELETcZAQEF ",
      "QATANdGADOLcTIPEHAcREVIAcZARQAcPASHTAcYETIVcTEVIR",
      "cGERESHcGERESH MUQDAMcGERSHAYIMcQARNEY PARAcTELISHA ",
      "GEDOLAcPAZERcATNAH HAFUKHcMUNAHcMAHAPAKHcMERKHA",
      "cMERKHA KEFULAcDARGAcQADMAcTELISHA QETANAcYERAH BEN ",
      "YOMOcOLEcILUYcDEHIcZINORbMARK MASORA CIRCLEbPOINT ",
      "SHEVAcHATAF SEGOLdPATAHdQAMATScHIRIQcTSEREcSEGOL",
      "cPATAHcQAMATScHOLAMcHOLAM HASER FOR VAVcQUBUTS",
      "cDAGESH OR MAPIQcMETEGbPUNCTUATION MAQAFbPOINT RAFE",
      "bPUNCTUATION PASEQbPOINT SHIN DOTcSIN DOT",
      "bPUNCTUATION SOF PASUQbMARK UPPER DOTcLOWER DOT",
      "bPUNCTUATION NUN HAFUKHAbPOINT QAMATS QATAN"]⟩,
    ⟨0x5D0, ["aHEBREW LETTER ALEFcBETcGIMELcDALETcHEcVAV",
      "cZAYINcHETcTETcYODcFINAL KAFcKAFcLAMEDcFINAL MEMcMEM",
      "cFINAL NUNcNUNcSAMEKHcAYINcFINAL PEcPEcFINAL TSADI",
      "cTSADIcQOFcRESHcSHINcTAV"]⟩,
    ⟨0x5EF, ["aHEBREW YOD TRIANGLEbLIGATURE YIDDISH DOUBLE ",
      "VAVdVAV YODdDOUBLE YODbPUNCTUATION GERESHcGERSHAYIM"]⟩,
    ⟨0x600, ["aARABIC NUMBER SIGNbSIGN SANAHbFOOTNOTE MARKER",
      "bSIGN SAFHAcSAMVATbNUMBER MARK ABOVEaARABIC-INDIC ",
      "CUBE ROOTcFOURTH ROOTaARABIC RAYaARABIC-INDIC PER ",
      "MILLE SIGNdTEN THOUSAND SIGNaAFGHANI SIGNaARABIC ",
      "COMMAbDATE SEPARATORbPOETIC VERSE SIGNbSIGN MISRA",
      "cSALLALLAHOU ALAYHE WASSALLAMcALAYHE ASSALLAM",
      "cRAHMATULLAH ALAYHEcRADI ALLAHOU ANHUcTAKHALLUS",
      "bSMALL HIGH TAHdLIGATURE ALEF WITH LAM WITH YEHdZAIN",
      "cFATHAcDAMMAcKASRAbSEMICOLONbLETTER MARKbEND OF TEXT ",
      "MARKbTRIPLE DOT PUNCTUATION MARKbQUESTION MARK",
      "bLETTER KASHMIRI YEHcHAMZAcALEF WITH MADDA ABOVE",
      "eHAMZA ABOVEcWAW WITH HAMZA ABOVEcALEF WITH HAMZA ",
      "BELOWcYEH WITH HAMZA ABOVEcALEFcBEHcTEH MARBUTAcTEH",
      "cTHEHcJEEMcHAHcKHAHcDALcTHALcREHcZAINcSEENcSHEENcSAD",
      "cDADcTAHcZAHcAINcGHAINcKEHEH WITH TWO DOTS ABOVE",
      "eTHREE DOTS BELOWcFARSI YEH WITH INVERTED VfTWO DOTS ",
      "ABOVEfTHREE DOTS ABOVEbTATWEELbLETTER FEHcQAFcKAFcLAM",
      "cMEEMcNOONcHEHcWAWcALEF MAKSURAcYEHbFATHATANbDAMMATAN",
      "bKASRATANbFATHAbDAMMAbKASRAbSHADDAbSUKUNbMADDAH ABOVE",
      "bHAMZA ABOVEcBELOWbSUBSCRIPT ALEFbINVERTED DAMMA",
      "bMARK NOON GHUNNAbZWARAKAYbVOWEL SIGN SMALL V ABOVE",
      "dINVERTED SMALL V ABOVEdDOT BELOWbREVERSED DAMMA",
      "bFATHA WITH TWO DOTSbWAVY HAMZA BELOWaARABIC-INDIC ",
      "DIGIT ZEROdONEdTWOdTHREEdFOURdFIVEdSIXdSEVENdEIGHT",
      "dNINEaARABIC PERCENT SIGNbDECIMAL SEPARATOR",
      "bTHOUSANDS SEPARATORbFIVE POINTED STARbLETTER ",
      "DOTLESS BEHdQAFcSUPERSCRIPT ALEFcALEF WASLAdWITH ",
      "WAVY HAMZA ABOVEgBELOWcHIGH HAMZAdHAMZA ALEFeWAWcU ",
      "WITH HAMZA ABOVEcHIGH HAMZA YEHcTTEHcTTEHEHcBEEHcTEH ",
      "WITH RINGeTHREE DOTS ABOVE DOWNWARDScPEHcTEHEHcBEHEH",
      "cHAH WITH HAMZA ABOVEeTWO DOTS VERTICAL ABOVEcNYEH",
      "cDYEHcHAH WITH THREE DOTS ABOVEcTCHEHcTCHEHEHcDDAL",
      "cDAL WITH RINGeDOT BELOWfBELOW AND SMALL TAHcDAHAL",
      "cDDAHALcDULcDAL WITH THREE DOTS ABOVE DOWNWARDSeFOUR ",
      "DOTS ABOVEcRREHcREH WITH SMALL VeRINGeDOT BELOW",
      "eSMALL V BELOWeDOT BELOW AND DOT ABOVEeTWO DOTS ABOVE",
      "cJEHcREH WITH FOUR DOTS ABOVEcSEEN WITH DOT BELOW ",
      "AND DOT ABOVEeTHREE DOTS BELOWgBELOW AND THREE DOTS ",
      "ABOVEcSAD WITH TWO DOTS BELOWeTHREE DOTS ABOVEcTAH ",
      "WITH THREE DOTS ABOVEcAIN WITH THREE DOTS ABOVE",
      "cDOTLESS FEHcFEH WITH DOT MOVED BELOWfBELOWcVEHcFEH ",
      "WITH THREE DOTS BELOWcPEHEHcQAF WITH DOT ABOVEeTHREE ",
      "DOTS ABOVEcKEHEHcSWASH KAFcKAF WITH RINGeDOT ABOVEcNG",
      "cKAF WITH THREE DOTS BELOWcGAFcGAF WITH RINGcNGOEH",
      "cGAF WITH TWO DOTS BELOWcGUEHcGAF WITH THREE DOTS ",
      "ABOVEcLAM WITH SMALL VeDOT ABOVEeTHREE DOTS ABOVE",
      "gBELOWcNOON WITH DOT BELOWdGHUNNAcRNOONcNOON WITH ",
      "RINGeTHREE DOTS ABOVEcHEH DOACHASHMEEcTCHEH WITH DOT ",
      "ABOVEcHEH WITH YEH ABOVEdGOALdGOAL WITH HAMZA ABOVE",
      "cTEH MARBUTA GOALcWAW WITH RINGcKIRGHIZ OEcOEcUcYU",
      "cKIRGHIZ YUcWAW WITH TWO DOTS ABOVEcVEcFARSI YEHcYEH ",
      "WITH TAILeSMALL VcWAW WITH DOT ABOVEcEcYEH WITH ",
      "THREE DOTS BELOWdBARREEdBARREE WITH HAMZA ABOVEbFULL ",
      "STOPbLETTER AEbSMALL HIGH LIGATURE SAD WITH LAM WITH ",
      "ALEF MAKSURAeQAF WITH LAM WITH ALEF MAKSURAdMEEM ",
      "INITIAL FORMdLAM ALEFdJEEMdTHREE DOTSdSEENbEND OF ",
      "AYAHbSTART OF RUB EL HIZBbSMALL HIGH ROUNDED ZERO",
      "dUPRIGHT RECTANGULAR ZEROdDOTLESS HEAD OF KHAHdMEEM ",
      "ISOLATED FORMcLOW SEENcHIGH MADDAcWAWcYEHcHIGH YEH",
      "dNOONbPLACE OF SAJDAHbEMPTY CENTRE LOW STOPdHIGH STOP",
      "bROUNDED HIGH STOP WITH FILLED CENTREbSMALL LOW MEEM",
      "bLETTER DAL WITH INVERTED VcREH WITH INVERTED V",
      "aEXTENDED ARABIC-INDIC DIGIT ZEROeONEeTWOeTHREEeFOUR",
      "eFIVEeSIXeSEVENeEIGHTeNINEaARABIC LETTER SHEEN WITH ",
      "DOT BELOWcDAD WITH DOT BELOWcGHAIN WITH DOT BELOW",
      "bSIGN SINDHI AMPERSANDdPOSTPOSITION MENbLETTER HEH ",
      "WITH INVERTED VaSYRIAC END OF PARAGRAPHbSUPRALINEAR ",
      "FULL STOPbSUBLINEAR FULL STOPbSUPRALINEAR COLON",
      "bSUBLINEAR COLONbHORIZONTAL COLONbCOLON SKEWED LEFT",
      "dRIGHTbSUPRALINEAR COLON SKEWED LEFTbSUBLINEAR COLON ",
      "SKEWED RIGHTbCONTRACTIONbHARKLEAN OBELUScMETOBELUS",
      "cASTERISCUS"]⟩,
    ⟨0x70F, ["aSYRIAC ABBREVIATION MARKbLETTER ALAPH",
      "cSUPERSCRIPT ALAPHcBETHcGAMALcGAMAL GARSHUNIcDALATH",
      "cDOTLESS DALATH RISHcHEcWAWcZAINcHETHcTETHcTETH ",
      "GARSHUNIcYUDHcYUDH HEcKAPHcLAMADHcMIMcNUNcSEMKATH",
      "cFINAL SEMKATHcEcPEcREVERSED PEcSADHEcQAPHcRISHcSHIN",
      "cTAWcPERSIAN BHETHdGHAMALdDHALATHbPTHAHA ABOVEcBELOW",
      "cDOTTEDbZQAPHA ABOVEcBELOWcDOTTEDbRBASA ABOVEcBELOW",
      "bDOTTED ZLAMA HORIZONTALdANGULARbHBASA ABOVEcBELOW",
      "bHBASA-ESASA DOTTEDbESASA ABOVEcBELOWbRWAHAbFEMININE ",
      "DOTbQUSHSHAYAbRUKKAKHAbTWO VERTICAL DOTS ABOVEeBELOW",
      "bTHREE DOTS ABOVEdBELOWbOBLIQUE LINE ABOVEdBELOW",
      "bMUSICbBARREKH"]⟩,
    ⟨0x74D, ["aSYRIAC LETTER SOGDIAN ZHAINdKHAPHdFEaARABIC ",
      "LETTER BEH WITH THREE DOTS HORIZONTALLY BELOWeDOT ",
      "BELOW AND THREE DOTS ABOVEeTHREE DOTS POINTING ",
      "UPWARDS BELOWiBELOW AND TWO DOTS ABOVEeTWO DOTS ",
      "BELOW AND DOT ABOVEeINVERTED SMALL V BELOWeSMALL V",
      "cHAH WITH TWO DOTS ABOVEeTHREE DOTS POINTING UPWARDS ",
      "BELOWcDAL WITH TWO DOTS VERTICALLY BELOW AND SMALL ",
      "TAHeINVERTED SMALL V BELOWcREH WITH STROKEcSEEN WITH ",
      "FOUR DOTS ABOVEcAIN WITH TWO DOTS ABOVEeTHREE DOTS ",
      "POINTING DOWNWARDS ABOVEeTWO DOTS VERTICALLY ABOVE",
      "cFEH WITH TWO DOTS BELOWeTHREE DOTS POINTING UPWARDS ",
      "BELOWcKEHEH WITH DOT ABOVEeTHREE DOTS ABOVEgPOINTING ",
      "UPWARDS BELOWcMEEM WITH DOT ABOVEfBELOWcNOON WITH ",
      "TWO DOTS BELOWeSMALL TAHfVcLAM WITH BARcREH WITH TWO ",
      "DOTS VERTICALLY ABOVEeHAMZA ABOVEcSEEN WITH TWO DOTS ",
      "VERTICALLY ABOVEcHAH WITH SMALL ARABIC LETTER TAH ",
      "BELOWiAND TWO DOTScSEEN WITH SMALL ARABIC LETTER TAH ",
      "AND TWO DOTScREH WITH SMALL ARABIC LETTER TAH AND ",
      "TWO DOTScHAH WITH SMALL ARABIC LETTER TAH ABOVEcALEF ",
      "WITH EXTENDED ARABIC-INDIC DIGIT TWO ABOVEiTHREE ",
      "ABOVEcFARSI YEH WITH EXTENDED ARABIC-INDIC DIGIT TWO ",
      "ABOVEjTHREE ABOVEjFOUR BELOWcWAW WITH EXTENDED ",
      "ARABIC-INDIC DIGIT TWO ABOVEiTHREE ABOVEcYEH BARREE ",
      "WITH EXTENDED ARABIC-INDIC DIGIT TWO ABOVEjTHREE ",
      "ABOVEcHAH WITH EXTENDED ARABIC-INDIC DIGIT FOUR BELOW",
      "cSEEN WITH EXTENDED ARABIC-INDIC DIGIT FOUR ABOVE",
      "eINVERTED VcKAF WITH TWO DOTS ABOVEaTHAANA LETTER HAA",
      "cSHAVIYANIcNOONUcRAAcBAAcLHAVIYANIcKAAFUcALIFUcVAAVU",
      "cMEEMUcFAAFUcDHAALUcTHAAcLAAMUcGAAFUcGNAVIYANIcSEENU",
      "cDAVIYANIcZAVIYANIcTAVIYANIcYAAcPAVIYANIcJAVIYANI",
      "cCHAVIYANIcTTAAcHHAAcKHAAcTHAALUcZAAcSHEENUcSAADHU",
      "cDAADHUcTOcZOcAINUcGHAINUcQAAFUcWAAVUbABAFILI",
      "bAABAAFILIbIBIFILIbEEBEEFILIbUBUFILIbOOBOOFILI",
      "bEBEFILIbEYBEYFILIbOBOFILIbOABOAFILIbSUKUNbLETTER NAA"]⟩,
    ⟨0x7C0, ["aNKO DIGIT ZEROcONEcTWOcTHREEcFOURcFIVEcSIX",
      "cSEVENcEIGHTcNINEbLETTER AcEEcIcEcUcOOcOcDAGBASINNAcN",
      "cBAcPAcTAcJAcCHAcDAcRAcRRAcSAcGBAcFAcKAcLAcNA WOLOSO",
      "cMAcNYAcNAcHAcWAcYAcNYA WOLOSOcJONA JAdCHAdRA",
      "bCOMBINING SHORT HIGH TONEdLOW TONEdRISING TONEcLONG ",
      "DESCENDING TONEdHIGH TONEdLOW TONEdRISING TONE",
      "cNASALIZATION MARKcDOUBLE DOT ABOVEbHIGH TONE ",
      "APOSTROPHEbLOW TONE APOSTROPHEbSYMBOL OO DENNEN",
      "cGBAKURUNENbCOMMAbEXCLAMATION MARKbLAJANYALAN"]⟩,
    ⟨0x7FD, ["aNKO DANTAYALANbDOROME SIGNbTAMAN SIGN",
      "aSAMARITAN LETTER ALAFcBITcGAMANcDALATcIYcBAAcZENcIT",
      "cTITcYUTcKAAFcLABATcMIMcNUNcSINGAATcINcFIcTSAADIYcQUF",
      "cRISHcSHANcTAAFbMARK INcIN-ALAFcOCCLUSIONcDAGESH",
      "bMODIFIER LETTER EPENTHETIC YUTbMARK EPENTHETIC YUT",
      "bVOWEL SIGN LONG EdEdOVERLONG AAdLONG AAdAAdOVERLONG ",
      "AdLONG AdAbMODIFIER LETTER SHORT AbVOWEL SIGN SHORT A",
      "dLONG UdUbMODIFIER LETTER IbVOWEL SIGN LONG IdIdO",
      "dSUKUNbMARK NEQUDAA"]⟩,
    ⟨0x830, ["aSAMARITAN PUNCTUATION NEQUDAAcAFSAAQcANGED",
      "cBAUcATMAAUcSHIYYAALAAbABBREVIATION MARKbPUNCTUATION ",
      "MELODIC QITSAcZIQAAcQITSAcZAEFcTURUcARKAANUcSOF ",
      "MASHFAATcANNAAU"]⟩,
    ⟨0x840, ["aMANDAIC LETTER HALQAcABcAGcADcAHcUSHENNAcAZ",
      "cITcATTcAKSAcAKcALcAMcANcAScINcAPcASZcAQcARcASHcAT",
      "cDUSHENNAcKADcAINbAFFRICATION MARKbVOCALIZATION MARK",
      "bGEMINATION MARK"]⟩,
    ⟨0x85E, ["aMANDAIC PUNCTUATION"]⟩,
    ⟨0x860, ["aSYRIAC LETTER MALAYALAM NGAdJAdNYAdTTAdNNA",
      "dNNNAdBHAdRAdLLAdLLLAdSSA"]⟩,
    ⟨0x870, ["aARABIC LETTER ALEF WITH ATTACHED FATHAfTOP ",
      "RIGHT FATHAeRIGHT MIDDLE STROKEeLEFT MIDDLE STROKE",
      "eATTACHED KASRAfBOTTOM RIGHT KASRAfROUND DOT ABOVE",
      "fRIGHT ROUND DOTfLEFT ROUND DOTfROUND DOT BELOWeDOT ",
      "ABOVEeATTACHED TOP RIGHT FATHA AND DOT ABOVEeRIGHT ",
      "MIDDLE STROKE AND DOT ABOVEeATTACHED BOTTOM RIGHT ",
      "KASRA AND DOT ABOVEfTOP RIGHT FATHA AND LEFT RING",
      "eRIGHT MIDDLE STROKE AND LEFT RINGeATTACHED BOTTOM ",
      "RIGHT KASRA AND LEFT RINGfRIGHT HAMZAfLEFT HAMZA",
      "bTATWEEL WITH OVERSTRUCK HAMZAeWAWdTWO DOTS BELOW",
      "bLETTER THIN YEHbBASELINE ROUND DOTbRAISED ROUND DOT",
      "bLETTER NOON WITH INVERTED SMALL VcHAH WITH INVERTED ",
      "SMALL V BELOWcTAH WITH DOT BELOWeTHREE DOTS BELOW",
      "cKEHEH WITH TWO DOTS VERTICALLY BELOWbVERTICAL TAIL"]⟩,
    ⟨0x890, ["aARABIC POUND MARK ABOVEbPIASTRE MARK ABOVE"]⟩,
    ⟨0x898, ["aARABIC SMALL HIGH WORD AL-JUZcLOW WORD ",
      "ISHMAAMeIMAALAeTASHEELbMADDA WAAJIBbSUPERSCRIPT ALEF ",
      "MOKHASSASbDOUBLED MADDAbHALF MADDA OVER MADDAbLETTER ",
      "BEH WITH SMALL V BELOWeHAMZA ABOVEcJEEM WITH TWO ",
      "DOTS ABOVEcTAH WITH TWO DOTS ABOVEcFEH WITH DOT ",
      "BELOW AND THREE DOTS ABOVEcQAF WITH DOT BELOWcLAM ",
      "WITH DOUBLE BARcMEEM WITH THREE DOTS ABOVEcYEH WITH ",
      "TWO DOTS BELOW AND HAMZA ABOVEiDOT ABOVEcREH WITH ",
      "LOOPcWAW WITH DOT WITHINcROHINGYA YEHcLOW ALEFcDAL ",
      "WITH THREE DOTS BELOWcSAD WITH THREE DOTS BELOWcGAF ",
      "WITH INVERTED STROKEcSTRAIGHT WAWcZAIN WITH INVERTED ",
      "V ABOVEcAIN WITH THREE DOTS BELOWcKAF WITH DOT BELOW",
      "cQAF WITH DOT BELOW AND NO DOTS ABOVEcBEH WITH SMALL ",
      "MEEM ABOVEcPEH WITH SMALL MEEM ABOVEcTEH WITH SMALL ",
      "TEH ABOVEcREH WITH SMALL NOON ABOVEcYEH WITH TWO ",
      "DOTS BELOW AND SMALL NOON ABOVEcAFRICAN FEHdQAFdNOON",
      "cPEH WITH SMALL VcTEH WITH SMALL VcTTEH WITH SMALL V",
      "cTCHEH WITH SMALL VcKEHEH WITH SMALL VcGHAIN WITH ",
      "THREE DOTS ABOVEcAFRICAN QAF WITH THREE DOTS ABOVE",
      "cJEEM WITH THREE DOTS ABOVEgBELOWcLAM WITH SMALL ",
      "ARABIC LETTER TAH ABOVEcGRAFbSMALL FARSI YEHcHIGH ",
      "FARSI YEHdYEH BARREE WITH TWO DOTS BELOWdWORD SAHdZAH",
      "bLARGE ROUND DOT ABOVEeBELOWbSUKUN BELOWbLARGE ",
      "CIRCLE BELOWcROUND DOT INSIDE CIRCLE BELOWbSMALL LOW ",
      "WAWcHIGH WORD AR-RUBdSADdAINdQAFdNOON WITH KASRAcLOW ",
      "NOON WITH KASRAcHIGH WORD ATH-THALATHAeAS-SAJDAeAN-",
      "NISFeSAKTAeQIFeWAQFAdFOOTNOTE MARKERdSIGN SAFHA",
      "bDISPUTED END OF AYAHbTURNED DAMMA BELOWbCURLY FATHA",
      "cDAMMAcKASRAcFATHATANcDAMMATANcKASRATANbTONE ONE DOT ",
      "ABOVEcTWO DOTS ABOVEcLOOP ABOVEcONE DOT BELOWcTWO ",
      "DOTS BELOWcLOOP BELOWbOPEN FATHATANcDAMMATANcKASRATAN",
      "bSMALL HIGH WAWbFATHA WITH RINGdDOT ABOVEbKASRA WITH ",
      "DOT BELOWbLEFT ARROWHEAD ABOVEbRIGHT ARROWHEAD ABOVE",
      "bLEFT ARROWHEAD BELOWbRIGHT ARROWHEAD BELOWbDOUBLE ",
      "RIGHT ARROWHEAD ABOVEeABOVE WITH DOTbRIGHT ARROWHEAD ",
      "ABOVE WITH DOTbDAMMA WITH DOTbMARK SIDEWAYS NOON ",
      "GHUNNAaDEVANAGARI SIGN INVERTED CANDRABINDU",
      "cCANDRABINDUcANUSVARAcVISARGAbLETTER SHORT AcAcAAcI",
      "cIIcUcUUcVOCALIC RdLcCANDRA EcSHORT EcEcAIcCANDRA O",
      "cSHORT OcOcAUcKAcKHAcGAcGHAcNGAcCAcCHAcJAcJHAcNYAcTTA",
      "cTTHAcDDAcDDHAcNNAcTAcTHAcDAcDHAcNAcNNNAcPAcPHAcBA",
      "cBHAcMAcYAcRAcRRAcLAcLLAcLLLAcVAcSHAcSSAcSAcHAbVOWEL ",
      "SIGN OEdOOEbSIGN NUKTAcAVAGRAHAbVOWEL SIGN AAdIdIIdU",
      "dUUdVOCALIC ReRRdCANDRA EdSHORT EdEdAIdCANDRA O",
      "dSHORT OdOdAUbSIGN VIRAMAbVOWEL SIGN PRISHTHAMATRA E",
      "dAWbOMbSTRESS SIGN UDATTAdANUDATTAbGRAVE ACCENT",
      "bACUTE ACCENTbVOWEL SIGN CANDRA LONG EdUEdUUEbLETTER ",
      "QAcKHHAcGHHAcZAcDDDHAcRHAcFAcYYAcVOCALIC RRdLLbVOWEL ",
      "SIGN VOCALIC LeLLbDANDAbDOUBLE DANDAbDIGIT ZEROcONE",
      "cTWOcTHREEcFOURcFIVEcSIXcSEVENcEIGHTcNINE",
      "bABBREVIATION SIGNbSIGN HIGH SPACING DOTbLETTER ",
      "CANDRA AcOEcOOEcAWcUEcUUEcMARWARI DDAcZHAcHEAVY YA",
      "cGGAcJJAcGLOTTAL STOPcDDDAcBBAaBENGALI ANJIbSIGN ",
      "CANDRABINDUcANUSVARAcVISARGA"]⟩]

end SigCheck
