import SigCheck.CharName.Run

/-
  Names of forms of letters and half-width signs, from
  U+D7B0 to U+FFFF.

  Key definitions include:
    * `CharName.presentation`
-/

namespace SigCheck

/- The runs of these names. -/
def CharName.presentation : List NameRun :=
  [⟨0xD7B0, ["aHANGUL JUNGSEONG O-YEOdO-IcYO-AdAEdEOcU-YEO",
      "dI-IcYU-AEdOcEU-AdEOdEdOcI-YA-OdYAEdYEOdYEdO-IdYOdYU",
      "dIcARAEA-AdE"]⟩,
    ⟨0xD7CB, ["aHANGUL JONGSEONG NIEUN-RIEULdCHIEUCH",
      "cSSANGTIKEUTcSSANGTIKEUT-PIEUPcTIKEUT-PIEUPdSIOS",
      "dSIOS-KIYEOKdCIEUCdCHIEUCHdTHIEUTHcRIEUL-SSANGKIYEOK",
      "dKIYEOK-HIEUHcSSANGRIEUL-KHIEUKHcRIEUL-MIEUM-HIEUH",
      "dPIEUP-TIKEUTePHIEUPHdYESIEUNGdYEORINHIEUH-HIEUH",
      "cKAPYEOUNRIEULcMIEUM-NIEUNdSSANGNIEUNcSSANGMIEUM",
      "cMIEUM-PIEUP-SIOSdCIEUCcPIEUP-TIKEUTdRIEUL-PHIEUPH",
      "dMIEUMcSSANGPIEUPcPIEUP-SIOS-TIKEUTdCIEUCdCHIEUCH",
      "cSIOS-MIEUMdKAPYEOUNPIEUPcSSANGSIOS-KIYEOKdTIKEUT",
      "cSIOS-PANSIOSdCIEUCdCHIEUCHdTHIEUTHdHIEUHcPANSIOS-",
      "PIEUPdKAPYEOUNPIEUPcYESIEUNG-MIEUMdHIEUHcCIEUC-PIEUP",
      "dSSANGPIEUPcSSANGCIEUCcPHIEUPH-SIOSdTHIEUTH"]⟩,
    ⟨0xFB00, ["aLATIN SMALL LIGATURE FFdFIdFLdFFIdFFLdLONG ",
      "S TdST"]⟩,
    ⟨0xFB13, ["aARMENIAN SMALL LIGATURE MEN NOWeECHeINIdVEW ",
      "NOWdMEN XEH"]⟩,
    ⟨0xFB1D, ["aHEBREW LETTER YOD WITH HIRIQbPOINT JUDEO-",
      "SPANISH VARIKAbLIGATURE YIDDISH YOD YOD PATAHbLETTER ",
      "ALTERNATIVE AYINcWIDE ALEFdDALETdHEdKAFdLAMEDdFINAL ",
      "MEMdRESHdTAVcALTERNATIVE PLUS SIGNcSHIN WITH SHIN DOT",
      "eSIN DOTeDAGESH AND SHIN DOTgSIN DOTcALEF WITH PATAH",
      "eQAMATSeMAPIQcBET WITH DAGESHcGIMEL WITH DAGESH",
      "cDALET WITH DAGESHcHE WITH MAPIQcVAV WITH DAGESH",
      "cZAYIN WITH DAGESH"]⟩,
    ⟨0xFB38, ["aHEBREW LETTER TET WITH DAGESHcYOD WITH ",
      "DAGESHcFINAL KAF WITH DAGESHcKAF WITH DAGESHcLAMED ",
      "WITH DAGESH"]⟩,
    ⟨0xFB3E, ["aHEBREW LETTER MEM WITH DAGESH"]⟩,
    ⟨0xFB40, ["aHEBREW LETTER NUN WITH DAGESHcSAMEKH WITH ",
      "DAGESH"]⟩,
    ⟨0xFB43, ["aHEBREW LETTER FINAL PE WITH DAGESHcPE WITH ",
      "DAGESH"]⟩,
    ⟨0xFB46, ["aHEBREW LETTER TSADI WITH DAGESHcQOF WITH ",
      "DAGESHcRESH WITH DAGESHcSHIN WITH DAGESHcTAV WITH ",
      "DAGESHcVAV WITH HOLAMcBET WITH RAFEcKAF WITH RAFEcPE ",
      "WITH RAFEbLIGATURE ALEF LAMEDaARABIC LETTER ALEF ",
      "WASLA ISOLATED FORMeFINAL FORMcBEEH ISOLATED FORM",
      "dFINAL FORMdINITIAL FORMdMEDIAL FORMcPEH ISOLATED ",
      "FORMdFINAL FORMdINITIAL FORMdMEDIAL FORMcBEHEH ",
      "ISOLATED FORMdFINAL FORMdINITIAL FORMdMEDIAL FORM",
      "cTTEHEH ISOLATED FORMdFINAL FORMdINITIAL FORMdMEDIAL ",
      "FORMcTEHEH ISOLATED FORMdFINAL FORMdINITIAL FORM",
      "dMEDIAL FORMcTTEH ISOLATED FORMdFINAL FORMdINITIAL ",
      "FORMdMEDIAL FORMcVEH ISOLATED FORMdFINAL FORM",
      "dINITIAL FORMdMEDIAL FORMcPEHEH ISOLATED FORMdFINAL ",
      "FORMdINITIAL FORMdMEDIAL FORMcDYEH ISOLATED FORM",
      "dFINAL FORMdINITIAL FORMdMEDIAL FORMcNYEH ISOLATED ",
      "FORMdFINAL FORMdINITIAL FORMdMEDIAL FORMcTCHEH ",
      "ISOLATED FORMdFINAL FORMdINITIAL FORMdMEDIAL FORM",
      "cTCHEHEH ISOLATED FORMdFINAL FORMdINITIAL FORM",
      "dMEDIAL FORMcDDAHAL ISOLATED FORMdFINAL FORMcDAHAL ",
      "ISOLATED FORMdFINAL FORMcDUL ISOLATED FORMdFINAL FORM",
      "cDDAL ISOLATED FORMdFINAL FORMcJEH ISOLATED FORM",
      "dFINAL FORMcRREH ISOLATED FORMdFINAL FORMcKEHEH ",
      "ISOLATED FORMdFINAL FORMdINITIAL FORMdMEDIAL FORM",
      "cGAF ISOLATED FORMdFINAL FORMdINITIAL FORMdMEDIAL ",
      "FORMcGUEH ISOLATED FORMdFINAL FORMdINITIAL FORM",
      "dMEDIAL FORMcNGOEH ISOLATED FORMdFINAL FORMdINITIAL ",
      "FORMdMEDIAL FORMcNOON GHUNNA ISOLATED FORMeFINAL FORM",
      "cRNOON ISOLATED FORMdFINAL FORMdINITIAL FORMdMEDIAL ",
      "FORMcHEH WITH YEH ABOVE ISOLATED FORMgFINAL FORM",
      "dGOAL ISOLATED FORMeFINAL FORMeINITIAL FORMeMEDIAL ",
      "FORMdDOACHASHMEE ISOLATED FORMeFINAL FORMeINITIAL ",
      "FORMeMEDIAL FORMcYEH BARREE ISOLATED FORMeFINAL FORM",
      "eWITH HAMZA ABOVE ISOLATED FORMhFINAL FORMbSYMBOL ",
      "DOT ABOVEdBELOWcTWO DOTS ABOVEeBELOWcTHREE DOTS ABOVE",
      "eBELOWePOINTING DOWNWARDS ABOVEgBELOWcFOUR DOTS ABOVE",
      "eBELOWcDOUBLE VERTICAL BAR BELOWcTWO DOTS VERTICALLY ",
      "ABOVEfBELOWcRINGcSMALL TAH ABOVEeBELOWcWASLA ABOVE"]⟩,
    ⟨0xFBD3, ["aARABIC LETTER NG ISOLATED FORMdFINAL FORM",
      "dINITIAL FORMdMEDIAL FORMcU ISOLATED FORMdFINAL FORM",
      "cOE ISOLATED FORMdFINAL FORMcYU ISOLATED FORMdFINAL ",
      "FORMcU WITH HAMZA ABOVE ISOLATED FORMcVE ISOLATED ",
      "FORMdFINAL FORMcKIRGHIZ OE ISOLATED FORMeFINAL FORM",
      "dYU ISOLATED FORMeFINAL FORMcE ISOLATED FORMdFINAL ",
      "FORMdINITIAL FORMdMEDIAL FORMcUIGHUR KAZAKH KIRGHIZ ",
      "ALEF MAKSURA INITIAL FORMhMEDIAL FORMbLIGATURE YEH ",
      "WITH HAMZA ABOVE WITH ALEF ISOLATED FORMiFINAL FORM",
      "hAE ISOLATED FORMiFINAL FORMhWAW ISOLATED FORMiFINAL ",
      "FORMhU ISOLATED FORMiFINAL FORMhOE ISOLATED FORM",
      "iFINAL FORMhYU ISOLATED FORMiFINAL FORMhE ISOLATED ",
      "FORMiFINAL FORMiINITIAL FORMcUIGHUR KIRGHIZ YEH WITH ",
      "HAMZA ABOVE WITH ALEF MAKSURA ISOLATED FORMlFINAL ",
      "FORMlINITIAL FORMbLETTER FARSI YEH ISOLATED FORM",
      "eFINAL FORMeINITIAL FORMeMEDIAL FORMbLIGATURE YEH ",
      "WITH HAMZA ABOVE WITH JEEM ISOLATED FORMhHAH ",
      "ISOLATED FORMhMEEM ISOLATED FORMhALEF MAKSURA ",
      "ISOLATED FORMhYEH ISOLATED FORMcBEH WITH JEEM ",
      "ISOLATED FORMeHAH ISOLATED FORMeKHAH ISOLATED FORM",
      "eMEEM ISOLATED FORMeALEF MAKSURA ISOLATED FORMeYEH ",
      "ISOLATED FORMcTEH WITH JEEM ISOLATED FORMeHAH ",
      "ISOLATED FORMeKHAH ISOLATED FORMeMEEM ISOLATED FORM",
      "eALEF MAKSURA ISOLATED FORMeYEH ISOLATED FORMcTHEH ",
      "WITH JEEM ISOLATED FORMeMEEM ISOLATED FORMeALEF ",
      "MAKSURA ISOLATED FORMeYEH ISOLATED FORMcJEEM WITH ",
      "HAH ISOLATED FORMeMEEM ISOLATED FORMcHAH WITH JEEM ",
      "ISOLATED FORMeMEEM ISOLATED FORMcKHAH WITH JEEM ",
      "ISOLATED FORMeHAH ISOLATED FORMeMEEM ISOLATED FORM",
      "cSEEN WITH JEEM ISOLATED FORMeHAH ISOLATED FORMeKHAH ",
      "ISOLATED FORMeMEEM ISOLATED FORMcSAD WITH HAH ",
      "ISOLATED FORMeMEEM ISOLATED FORMcDAD WITH JEEM ",
      "ISOLATED FORMeHAH ISOLATED FORMeKHAH ISOLATED FORM",
      "eMEEM ISOLATED FORMcTAH WITH HAH ISOLATED FORMeMEEM ",
      "ISOLATED FORMcZAH WITH MEEM ISOLATED FORMcAIN WITH ",
      "JEEM ISOLATED FORMeMEEM ISOLATED FORMcGHAIN WITH ",
      "JEEM ISOLATED FORMeMEEM ISOLATED FORMcFEH WITH JEEM ",
      "ISOLATED FORMeHAH ISOLATED FORMeKHAH ISOLATED FORM",
      "eMEEM ISOLATED FORMeALEF MAKSURA ISOLATED FORMeYEH ",
      "ISOLATED FORMcQAF WITH HAH ISOLATED FORMeMEEM ",
      "ISOLATED FORMeALEF MAKSURA ISOLATED FORMeYEH ",
      "ISOLATED FORMcKAF WITH ALEF ISOLATED FORMeJEEM ",
      "ISOLATED FORMeHAH ISOLATED FORMeKHAH ISOLATED FORM",
      "eLAM ISOLATED FORMeMEEM ISOLATED FORMeALEF MAKSURA ",
      "ISOLATED FORMeYEH ISOLATED FORMcLAM WITH JEEM ",
      "ISOLATED FORMeHAH ISOLATED FORMeKHAH ISOLATED FORM",
      "eMEEM ISOLATED FORMeALEF MAKSURA ISOLATED FORMeYEH ",
      "ISOLATED FORMcMEEM WITH JEEM ISOLATED FORMeHAH ",
      "ISOLATED FORMeKHAH ISOLATED FORMeMEEM ISOLATED FORM",
      "eALEF MAKSURA ISOLATED FORMeYEH ISOLATED FORMcNOON ",
      "WITH JEEM ISOLATED FORMeHAH ISOLATED FORMeKHAH ",
      "ISOLATED FORMeMEEM ISOLATED FORMeALEF MAKSURA ",
      "ISOLATED FORMeYEH ISOLATED FORMcHEH WITH JEEM ",
      "ISOLATED FORMeMEEM ISOLATED FORMeALEF MAKSURA ",
      "ISOLATED FORMeYEH ISOLATED FORMcYEH WITH JEEM ",
      "ISOLATED FORMeHAH ISOLATED FORMeKHAH ISOLATED FORM",
      "eMEEM ISOLATED FORMeALEF MAKSURA ISOLATED FORMeYEH ",
      "ISOLATED FORMcTHAL WITH SUPERSCRIPT ALEF ISOLATED ",
      "FORMcREH WITH SUPERSCRIPT ALEF ISOLATED FORMcALEF ",
      "MAKSURA WITH SUPERSCRIPT ALEF ISOLATED FORMcSHADDA ",
      "WITH DAMMATAN ISOLATED FORMeKASRATAN ISOLATED FORM",
      "eFATHA ISOLATED FORMeDAMMA ISOLATED FORMeKASRA ",
      "ISOLATED FORMeSUPERSCRIPT ALEF ISOLATED FORMcYEH ",
      "WITH HAMZA ABOVE WITH REH FINAL FORMhZAIN FINAL FORM",
      "hMEEM FINAL FORMhNOON FINAL FORMhALEF MAKSURA FINAL ",
      "FORMhYEH FINAL FORMcBEH WITH REH FINAL FORMeZAIN ",
      "FINAL FORMeMEEM FINAL FORMeNOON FINAL FORMeALEF ",
      "MAKSURA FINAL FORMeYEH FINAL FORMcTEH WITH REH FINAL ",
      "FORMeZAIN FINAL FORMeMEEM FINAL FORMeNOON FINAL FORM",
      "eALEF MAKSURA FINAL FORMeYEH FINAL FORMcTHEH WITH ",
      "REH FINAL FORMeZAIN FINAL FORMeMEEM FINAL FORMeNOON ",
      "FINAL FORMeALEF MAKSURA FINAL FORMeYEH FINAL FORM",
      "cFEH WITH ALEF MAKSURA FINAL FORMeYEH FINAL FORMcQAF ",
      "WITH ALEF MAKSURA FINAL FORMeYEH FINAL FORMcKAF WITH ",
      "ALEF FINAL FORMeLAM FINAL FORMeMEEM FINAL FORMeALEF ",
      "MAKSURA FINAL FORMeYEH FINAL FORMcLAM WITH MEEM ",
      "FINAL FORMeALEF MAKSURA FINAL FORMeYEH FINAL FORM",
      "cMEEM WITH ALEF FINAL FORMeMEEM FINAL FORMcNOON WITH ",
      "REH FINAL FORMeZAIN FINAL FORMeMEEM FINAL FORMeNOON ",
      "FINAL FORMeALEF MAKSURA FINAL FORMeYEH FINAL FORM",
      "cALEF MAKSURA WITH SUPERSCRIPT ALEF FINAL FORMcYEH ",
      "WITH REH FINAL FORMeZAIN FINAL FORMeMEEM FINAL FORM",
      "eNOON FINAL FORMeALEF MAKSURA FINAL FORMeYEH FINAL ",
      "FORMeHAMZA ABOVE WITH JEEM INITIAL FORMhHAH INITIAL ",
      "FORMhKHAH INITIAL FORMhMEEM INITIAL FORMhHEH INITIAL ",
      "FORMcBEH WITH JEEM INITIAL FORMeHAH INITIAL FORM",
      "eKHAH INITIAL FORMeMEEM INITIAL FORMeHEH INITIAL FORM",
      "cTEH WITH JEEM INITIAL FORMeHAH INITIAL FORMeKHAH ",
      "INITIAL FORMeMEEM INITIAL FORMeHEH INITIAL FORMcTHEH ",
      "WITH MEEM INITIAL FORMcJEEM WITH HAH INITIAL FORM",
      "eMEEM INITIAL FORMcHAH WITH JEEM INITIAL FORMeMEEM ",
      "INITIAL FORMcKHAH WITH JEEM INITIAL FORMeMEEM ",
      "INITIAL FORMcSEEN WITH JEEM INITIAL FORMeHAH INITIAL ",
      "FORMeKHAH INITIAL FORMeMEEM INITIAL FORMcSAD WITH ",
      "HAH INITIAL FORMeKHAH INITIAL FORMeMEEM INITIAL FORM",
      "cDAD WITH JEEM INITIAL FORMeHAH INITIAL FORMeKHAH ",
      "INITIAL FORMeMEEM INITIAL FORMcTAH WITH HAH INITIAL ",
      "FORMcZAH WITH MEEM INITIAL FORMcAIN WITH JEEM ",
      "INITIAL FORMeMEEM INITIAL FORMcGHAIN WITH JEEM ",
      "INITIAL FORMeMEEM INITIAL FORMcFEH WITH JEEM INITIAL ",
      "FORMeHAH INITIAL FORMeKHAH INITIAL FORMeMEEM INITIAL ",
      "FORMcQAF WITH HAH INITIAL FORMeMEEM INITIAL FORMcKAF ",
      "WITH JEEM INITIAL FORMeHAH INITIAL FORMeKHAH INITIAL ",
      "FORMeLAM INITIAL FORMeMEEM INITIAL FORMcLAM WITH ",
      "JEEM INITIAL FORMeHAH INITIAL FORMeKHAH INITIAL FORM",
      "eMEEM INITIAL FORMeHEH INITIAL FORMcMEEM WITH JEEM ",
      "INITIAL FORMeHAH INITIAL FORMeKHAH INITIAL FORMeMEEM ",
      "INITIAL FORMcNOON WITH JEEM INITIAL FORMeHAH INITIAL ",
      "FORMeKHAH INITIAL FORMeMEEM INITIAL FORMeHEH INITIAL ",
      "FORMcHEH WITH JEEM INITIAL FORMeMEEM INITIAL FORM",
      "eSUPERSCRIPT ALEF INITIAL FORMcYEH WITH JEEM INITIAL ",
      "FORMeHAH INITIAL FORMeKHAH INITIAL FORMeMEEM INITIAL ",
      "FORMeHEH INITIAL FORMeHAMZA ABOVE WITH MEEM MEDIAL ",
      "FORMhHEH MEDIAL FORMcBEH WITH MEEM MEDIAL FORMeHEH ",
      "MEDIAL FORMcTEH WITH MEEM MEDIAL FORMeHEH MEDIAL FORM",
      "cTHEH WITH MEEM MEDIAL FORMeHEH MEDIAL FORMcSEEN ",
      "WITH MEEM MEDIAL FORMeHEH MEDIAL FORMcSHEEN WITH ",
      "MEEM MEDIAL FORMeHEH MEDIAL FORMcKAF WITH LAM MEDIAL ",
      "FORMeMEEM MEDIAL FORMcLAM WITH MEEM MEDIAL FORMcNOON ",
      "WITH MEEM MEDIAL FORMeHEH MEDIAL FORMcYEH WITH MEEM ",
      "MEDIAL FORMeHEH MEDIAL FORMcSHADDA WITH FATHA MEDIAL ",
      "FORMeDAMMA MEDIAL FORMeKASRA MEDIAL FORMcTAH WITH ",
      "ALEF MAKSURA ISOLATED FORMeYEH ISOLATED FORMcAIN ",
      "WITH ALEF MAKSURA ISOLATED FORMeYEH ISOLATED FORM",
      "cGHAIN WITH ALEF MAKSURA ISOLATED FORMeYEH ISOLATED ",
      "FORMcSEEN WITH ALEF MAKSURA ISOLATED FORMeYEH ",
      "ISOLATED FORMcSHEEN WITH ALEF MAKSURA ISOLATED FORM",
      "eYEH ISOLATED FORMcHAH WITH ALEF MAKSURA ISOLATED ",
      "FORMeYEH ISOLATED FORMcJEEM WITH ALEF MAKSURA ",
      "ISOLATED FORMeYEH ISOLATED FORMcKHAH WITH ALEF ",
      "MAKSURA ISOLATED FORMeYEH ISOLATED FORMcSAD WITH ",
      "ALEF MAKSURA ISOLATED FORMeYEH ISOLATED FORMcDAD ",
      "WITH ALEF MAKSURA ISOLATED FORMeYEH ISOLATED FORM",
      "cSHEEN WITH JEEM ISOLATED FORMeHAH ISOLATED FORM",
      "eKHAH ISOLATED FORMeMEEM ISOLATED FORMeREH ISOLATED ",
      "FORMcSEEN WITH REH ISOLATED FORMcSAD WITH REH ",
      "ISOLATED FORMcDAD WITH REH ISOLATED FORMcTAH WITH ",
      "ALEF MAKSURA FINAL FORMeYEH FINAL FORMcAIN WITH ALEF ",
      "MAKSURA FINAL FORMeYEH FINAL FORMcGHAIN WITH ALEF ",
      "MAKSURA FINAL FORMeYEH FINAL FORMcSEEN WITH ALEF ",
      "MAKSURA FINAL FORMeYEH FINAL FORMcSHEEN WITH ALEF ",
      "MAKSURA FINAL FORMeYEH FINAL FORMcHAH WITH ALEF ",
      "MAKSURA FINAL FORMeYEH FINAL FORMcJEEM WITH ALEF ",
      "MAKSURA FINAL FORMeYEH FINAL FORMcKHAH WITH ALEF ",
      "MAKSURA FINAL FORMeYEH FINAL FORMcSAD WITH ALEF ",
      "MAKSURA FINAL FORMeYEH FINAL FORMcDAD WITH ALEF ",
      "MAKSURA FINAL FORMeYEH FINAL FORMcSHEEN WITH JEEM ",
      "FINAL FORMeHAH FINAL FORMeKHAH FINAL FORMeMEEM FINAL ",
      "FORMeREH FINAL FORMcSEEN WITH REH FINAL FORMcSAD ",
      "WITH REH FINAL FORMcDAD WITH REH FINAL FORMcSHEEN ",
      "WITH JEEM INITIAL FORMeHAH INITIAL FORMeKHAH INITIAL ",
      "FORMeMEEM INITIAL FORMcSEEN WITH HEH INITIAL FORM",
      "cSHEEN WITH HEH INITIAL FORMcTAH WITH MEEM INITIAL ",
      "FORMcSEEN WITH JEEM MEDIAL FORMeHAH MEDIAL FORMeKHAH ",
      "MEDIAL FORMcSHEEN WITH JEEM MEDIAL FORMeHAH MEDIAL ",
      "FORMeKHAH MEDIAL FORMcTAH WITH MEEM MEDIAL FORMcZAH ",
      "WITH MEEM MEDIAL FORMcALEF WITH FATHATAN FINAL FORM",
      "fISOLATED FORMaORNATE LEFT PARENTHESISbRIGHT ",
      "PARENTHESISaARABIC LIGATURE RAHIMAHU ALLAAHcRADI ",
      "ALLAAHU ANHeANHAAeANHUMeANHUMAAeANHUNNAcSALLALLAAHU ",
      "ALAYHI WA-AALIHcALAYHI AS-SALAAMcALAYHIM AS-SALAAM",
      "cALAYHIMAA AS-SALAAMcALAYHI AS-SALAATU WAS-SALAAM",
      "cQUDDISA SIRRAHcSALLALLAHU ALAYHI WAAALIHEE WA-SALLAM",
      "cALAYHAA AS-SALAAMcTABAARAKA WA-TAAALAAcRAHIMAHUM ",
      "ALLAAHcTEH WITH JEEM WITH MEEM INITIAL FORMeHAH WITH ",
      "JEEM FINAL FORMhINITIAL FORMgMEEM INITIAL FORMeKHAH ",
      "WITH MEEM INITIAL FORMeMEEM WITH JEEM INITIAL FORM",
      "gHAH INITIAL FORMgKHAH INITIAL FORMcJEEM WITH MEEM ",
      "WITH HAH FINAL FORMhINITIAL FORMcHAH WITH MEEM WITH ",
      "YEH FINAL FORMgALEF MAKSURA FINAL FORMcSEEN WITH HAH ",
      "WITH JEEM INITIAL FORMeJEEM WITH HAH INITIAL FORM",
      "gALEF MAKSURA FINAL FORMeMEEM WITH HAH FINAL FORM",
      "hINITIAL FORMgJEEM INITIAL FORMgMEEM FINAL FORM",
      "hINITIAL FORMcSAD WITH HAH WITH HAH FINAL FORM",
      "hINITIAL FORMeMEEM WITH MEEM FINAL FORMcSHEEN WITH ",
      "HAH WITH MEEM FINAL FORMhINITIAL FORMeJEEM WITH YEH ",
      "FINAL FORMeMEEM WITH KHAH FINAL FORMhINITIAL FORM",
      "gMEEM FINAL FORMhINITIAL FORMcDAD WITH HAH WITH ALEF ",
      "MAKSURA FINAL FORMeKHAH WITH MEEM FINAL FORMhINITIAL ",
      "FORMcTAH WITH MEEM WITH HAH FINAL FORMhINITIAL FORM",
      "gMEEM INITIAL FORMgYEH FINAL FORMcAIN WITH JEEM WITH ",
      "MEEM FINAL FORMeMEEM WITH MEEM FINAL FORMhINITIAL ",
      "FORMgALEF MAKSURA FINAL FORMcGHAIN WITH MEEM WITH ",
      "MEEM FINAL FORMgYEH FINAL FORMgALEF MAKSURA FINAL ",
      "FORMcFEH WITH KHAH WITH MEEM FINAL FORMhINITIAL FORM",
      "cQAF WITH MEEM WITH HAH FINAL FORMgMEEM FINAL FORM",
      "cLAM WITH HAH WITH MEEM FINAL FORMgYEH FINAL FORM",
      "gALEF MAKSURA FINAL FORMeJEEM WITH JEEM INITIAL FORM",
      "hFINAL FORMeKHAH WITH MEEM FINAL FORMhINITIAL FORM",
      "eMEEM WITH HAH FINAL FORMhINITIAL FORMcMEEM WITH HAH ",
      "WITH JEEM INITIAL FORMgMEEM INITIAL FORMgYEH FINAL ",
      "FORMeJEEM WITH HAH INITIAL FORMgMEEM INITIAL FORM",
      "eKHAH WITH JEEM INITIAL FORMgMEEM INITIAL FORM"]⟩,
    ⟨0xFD92, ["aARABIC LIGATURE MEEM WITH JEEM WITH KHAH ",
      "INITIAL FORMcHEH WITH MEEM WITH JEEM INITIAL FORM",
      "gMEEM INITIAL FORMcNOON WITH HAH WITH MEEM INITIAL ",
      "FORMgALEF MAKSURA FINAL FORMeJEEM WITH MEEM FINAL ",
      "FORMhINITIAL FORMgALEF MAKSURA FINAL FORMeMEEM WITH ",
      "YEH FINAL FORMgALEF MAKSURA FINAL FORMcYEH WITH MEEM ",
      "WITH MEEM FINAL FORMhINITIAL FORMcBEH WITH KHAH WITH ",
      "YEH FINAL FORMcTEH WITH JEEM WITH YEH FINAL FORM",
      "gALEF MAKSURA FINAL FORMeKHAH WITH YEH FINAL FORM",
      "gALEF MAKSURA FINAL FORMeMEEM WITH YEH FINAL FORM",
      "gALEF MAKSURA FINAL FORMcJEEM WITH MEEM WITH YEH ",
      "FINAL FORMeHAH WITH ALEF MAKSURA FINAL FORMeMEEM ",
      "WITH ALEF MAKSURA FINAL FORMcSEEN WITH KHAH WITH ",
      "ALEF MAKSURA FINAL FORMcSAD WITH HAH WITH YEH FINAL ",
      "FORMcSHEEN WITH HAH WITH YEH FINAL FORMcDAD WITH HAH ",
      "WITH YEH FINAL FORMcLAM WITH JEEM WITH YEH FINAL FORM",
      "eMEEM WITH YEH FINAL FORMcYEH WITH HAH WITH YEH ",
      "FINAL FORMeJEEM WITH YEH FINAL FORMeMEEM WITH YEH ",
      "FINAL FORMcMEEM WITH MEEM WITH YEH FINAL FORMcQAF ",
      "WITH MEEM WITH YEH FINAL FORMcNOON WITH HAH WITH YEH ",
      "FINAL FORMcQAF WITH MEEM WITH HAH INITIAL FORMcLAM ",
      "WITH HAH WITH MEEM INITIAL FORMcAIN WITH MEEM WITH ",
      "YEH FINAL FORMcKAF WITH MEEM WITH YEH FINAL FORM",
      "cNOON WITH JEEM WITH HAH INITIAL FORMcMEEM WITH KHAH ",
      "WITH YEH FINAL FORMcLAM WITH JEEM WITH MEEM INITIAL ",
      "FORMcKAF WITH MEEM WITH MEEM FINAL FORMcLAM WITH ",
      "JEEM WITH MEEM FINAL FORMcNOON WITH JEEM WITH HAH ",
      "FINAL FORMcJEEM WITH HAH WITH YEH FINAL FORMcHAH ",
      "WITH JEEM WITH YEH FINAL FORMcMEEM WITH JEEM WITH ",
      "YEH FINAL FORMcFEH WITH MEEM WITH YEH FINAL FORMcBEH ",
      "WITH HAH WITH YEH FINAL FORMcKAF WITH MEEM WITH MEEM ",
      "INITIAL FORMcAIN WITH JEEM WITH MEEM INITIAL FORM",
      "cSAD WITH MEEM WITH MEEM INITIAL FORMcSEEN WITH KHAH ",
      "WITH YEH FINAL FORMcNOON WITH JEEM WITH YEH FINAL ",
      "FORM"]⟩,
    ⟨0xFDCF, ["aARABIC LIGATURE SALAAMUHU ALAYNAA"]⟩,
    ⟨0xFDF0, ["aARABIC LIGATURE SALLA USED AS KORANIC STOP ",
      "SIGN ISOLATED FORMcQALA USED AS KORANIC STOP SIGN ",
      "ISOLATED FORMcALLAH ISOLATED FORMcAKBAR ISOLATED FORM",
      "cMOHAMMAD ISOLATED FORMcSALAM ISOLATED FORMcRASOUL ",
      "ISOLATED FORMcALAYHE ISOLATED FORMcWASALLAM ISOLATED ",
      "FORMcSALLA ISOLATED FORMcSALLALLAHOU ALAYHE WASALLAM",
      "cJALLAJALALOUHOUaRIAL SIGNaARABIC LIGATURE BISMILLAH ",
      "AR-RAHMAN AR-RAHEEMcSUBHAANAHU WA TAAALAAcAZZA WA ",
      "JALLaVARIATION SELECTOR-1c2c3c4c5c6c7c8c9c10c11c12c13",
      "c14c15c16aPRESENTATION FORM FOR VERTICAL COMMA",
      "eIDEOGRAPHIC COMMAfFULL STOPeCOLONeSEMICOLON",
      "eEXCLAMATION MARKeQUESTION MARKeLEFT WHITE ",
      "LENTICULAR BRACKETeRIGHT WHITE LENTICULAR BRAKCET",
      "eHORIZONTAL ELLIPSIS"]⟩,
    ⟨0xFE20, ["aCOMBINING LIGATURE LEFT HALFcRIGHT HALF",
      "bDOUBLE TILDE LEFT HALFdRIGHT HALFbMACRON LEFT HALF",
      "cRIGHT HALFbCONJOINING MACRONbLIGATURE LEFT HALF ",
      "BELOWcRIGHT HALF BELOWbTILDE LEFT HALF BELOWcRIGHT ",
      "HALF BELOWbMACRON LEFT HALF BELOWcRIGHT HALF BELOW",
      "bCONJOINING MACRON BELOWbCYRILLIC TITLO LEFT HALF",
      "dRIGHT HALFaPRESENTATION FORM FOR VERTICAL TWO DOT ",
      "LEADEReEM DASHeEN DASHeLOW LINEeWAVY LOW LINEeLEFT ",
      "PARENTHESISeRIGHT PARENTHESISeLEFT CURLY BRACKET",
      "eRIGHT CURLY BRACKETeLEFT TORTOISE SHELL BRACKET",
      "eRIGHT TORTOISE SHELL BRACKETeLEFT BLACK LENTICULAR ",
      "BRACKETeRIGHT BLACK LENTICULAR BRACKETeLEFT DOUBLE ",
      "ANGLE BRACKETeRIGHT DOUBLE ANGLE BRACKETeLEFT ANGLE ",
      "BRACKETeRIGHT ANGLE BRACKETeLEFT CORNER BRACKET",
      "eRIGHT CORNER BRACKETeLEFT WHITE CORNER BRACKET",
      "eRIGHT WHITE CORNER BRACKETaSESAME DOTaWHITE SESAME ",
      "DOTaPRESENTATION FORM FOR VERTICAL LEFT SQUARE ",
      "BRACKETeRIGHT SQUARE BRACKETaDASHED OVERLINE",
      "aCENTRELINE OVERLINEaWAVY OVERLINEaDOUBLE WAVY ",
      "OVERLINEaDASHED LOW LINEaCENTRELINE LOW LINEaWAVY ",
      "LOW LINEaSMALL COMMAbIDEOGRAPHIC COMMAbFULL STOP"]⟩,
    ⟨0xFE54, ["aSMALL SEMICOLONbCOLONbQUESTION MARK",
      "bEXCLAMATION MARKbEM DASHbLEFT PARENTHESISbRIGHT ",
      "PARENTHESISbLEFT CURLY BRACKETbRIGHT CURLY BRACKET",
      "bLEFT TORTOISE SHELL BRACKETbRIGHT TORTOISE SHELL ",
      "BRACKETbNUMBER SIGNbAMPERSANDbASTERISKbPLUS SIGN",
      "bHYPHEN-MINUSbLESS-THAN SIGNbGREATER-THAN SIGN",
      "bEQUALS SIGN"]⟩,
    ⟨0xFE68, ["aSMALL REVERSE SOLIDUSbDOLLAR SIGNbPERCENT ",
      "SIGNbCOMMERCIAL AT"]⟩,
    ⟨0xFE70, ["aARABIC FATHATAN ISOLATED FORMbTATWEEL WITH ",
      "FATHATAN ABOVEbDAMMATAN ISOLATED FORMbTAIL FRAGMENT",
      "bKASRATAN ISOLATED FORM"]⟩,
    ⟨0xFE76, ["aARABIC FATHA ISOLATED FORMcMEDIAL FORM",
      "bDAMMA ISOLATED FORMcMEDIAL FORMbKASRA ISOLATED FORM",
      "cMEDIAL FORMbSHADDA ISOLATED FORMcMEDIAL FORMbSUKUN ",
      "ISOLATED FORMcMEDIAL FORMbLETTER HAMZA ISOLATED FORM",
      "cALEF WITH MADDA ABOVE ISOLATED FORMgFINAL FORM",
      "eHAMZA ABOVE ISOLATED FORMgFINAL FORMcWAW WITH HAMZA ",
      "ABOVE ISOLATED FORMgFINAL FORMcALEF WITH HAMZA BELOW ",
      "ISOLATED FORMgFINAL FORMcYEH WITH HAMZA ABOVE ",
      "ISOLATED FORMgFINAL FORMgINITIAL FORMgMEDIAL FORM",
      "cALEF ISOLATED FORMdFINAL FORMcBEH ISOLATED FORM",
      "dFINAL FORMdINITIAL FORMdMEDIAL FORMcTEH MARBUTA ",
      "ISOLATED FORMeFINAL FORMdISOLATED FORMdFINAL FORM",
      "dINITIAL FORMdMEDIAL FORMcTHEH ISOLATED FORMdFINAL ",
      "FORMdINITIAL FORMdMEDIAL FORMcJEEM ISOLATED FORM",
      "dFINAL FORMdINITIAL FORMdMEDIAL FORMcHAH ISOLATED ",
      "FORMdFINAL FORMdINITIAL FORMdMEDIAL FORMcKHAH ",
      "ISOLATED FORMdFINAL FORMdINITIAL FORMdMEDIAL FORM",
      "cDAL ISOLATED FORMdFINAL FORMcTHAL ISOLATED FORM",
      "dFINAL FORMcREH ISOLATED FORMdFINAL FORMcZAIN ",
      "ISOLATED FORMdFINAL FORMcSEEN ISOLATED FORMdFINAL ",
      "FORMdINITIAL FORMdMEDIAL FORMcSHEEN ISOLATED FORM",
      "dFINAL FORMdINITIAL FORMdMEDIAL FORMcSAD ISOLATED ",
      "FORMdFINAL FORMdINITIAL FORMdMEDIAL FORMcDAD ",
      "ISOLATED FORMdFINAL FORMdINITIAL FORMdMEDIAL FORM",
      "cTAH ISOLATED FORMdFINAL FORMdINITIAL FORMdMEDIAL ",
      "FORMcZAH ISOLATED FORMdFINAL FORMdINITIAL FORM",
      "dMEDIAL FORMcAIN ISOLATED FORMdFINAL FORMdINITIAL ",
      "FORMdMEDIAL FORMcGHAIN ISOLATED FORMdFINAL FORM",
      "dINITIAL FORMdMEDIAL FORMcFEH ISOLATED FORMdFINAL ",
      "FORMdINITIAL FORMdMEDIAL FORMcQAF ISOLATED FORM",
      "dFINAL FORMdINITIAL FORMdMEDIAL FORMcKAF ISOLATED ",
      "FORMdFINAL FORMdINITIAL FORMdMEDIAL FORMcLAM ",
      "ISOLATED FORMdFINAL FORMdINITIAL FORMdMEDIAL FORM",
      "cMEEM ISOLATED FORMdFINAL FORMdINITIAL FORMdMEDIAL ",
      "FORMcNOON ISOLATED FORMdFINAL FORMdINITIAL FORM",
      "dMEDIAL FORMcHEH ISOLATED FORMdFINAL FORMdINITIAL ",
      "FORMdMEDIAL FORMcWAW ISOLATED FORMdFINAL FORMcALEF ",
      "MAKSURA ISOLATED FORMeFINAL FORMcYEH ISOLATED FORM",
      "dFINAL FORMdINITIAL FORMdMEDIAL FORMbLIGATURE LAM ",
      "WITH ALEF WITH MADDA ABOVE ISOLATED FORMiFINAL FORM",
      "gHAMZA ABOVE ISOLATED FORMiFINAL FORMhBELOW ISOLATED ",
      "FORMiFINAL FORMfISOLATED FORMfFINAL FORM"]⟩,
    ⟨0xFEFF, ["aZERO WIDTH NO-BREAK SPACE"]⟩,
    ⟨0xFF01, ["aFULLWIDTH EXCLAMATION MARKbQUOTATION MARK",
      "bNUMBER SIGNbDOLLAR SIGNbPERCENT SIGNbAMPERSAND",
      "bAPOSTROPHEbLEFT PARENTHESISbRIGHT PARENTHESIS",
      "bASTERISKbPLUS SIGNbCOMMAbHYPHEN-MINUSbFULL STOP",
      "bSOLIDUSbDIGIT ZEROcONEcTWOcTHREEcFOURcFIVEcSIXcSEVEN",
      "cEIGHTcNINEbCOLONbSEMICOLONbLESS-THAN SIGNbEQUALS ",
      "SIGNbGREATER-THAN SIGNbQUESTION MARKbCOMMERCIAL AT",
      "bLATIN CAPITAL LETTER AeBeCeDeEeFeGeHeIeJeKeLeMeNeOeP",
      "eQeReSeTeUeVeWeXeYeZbLEFT SQUARE BRACKETbREVERSE ",
      "SOLIDUSbRIGHT SQUARE BRACKETbCIRCUMFLEX ACCENTbLOW ",
      "LINEbGRAVE ACCENTbLATIN SMALL LETTER AeBeCeDeEeFeGeH",
      "eIeJeKeLeMeNeOePeQeReSeTeUeVeWeXeYeZbLEFT CURLY ",
      "BRACKETbVERTICAL LINEbRIGHT CURLY BRACKETbTILDEbLEFT ",
      "WHITE PARENTHESISbRIGHT WHITE PARENTHESISaHALFWIDTH ",
      "IDEOGRAPHIC FULL STOPbLEFT CORNER BRACKETbRIGHT ",
      "CORNER BRACKETbIDEOGRAPHIC COMMAbKATAKANA MIDDLE DOT",
      "cLETTER WOdSMALL AeIeUeEeOeYAeYUeYOeTUbKATAKANA-",
      "HIRAGANA PROLONGED SOUND MARKbKATAKANA LETTER AdIdUdE",
      "dOdKAdKIdKUdKEdKOdSAdSIdSUdSEdSOdTAdTIdTUdTEdTOdNAdNI",
      "dNUdNEdNOdHAdHIdHUdHEdHOdMAdMIdMUdMEdMOdYAdYUdYOdRA",
      "dRIdRUdREdROdWAdNcVOICED SOUND MARKcSEMI-VOICED ",
      "SOUND MARKbHANGUL FILLERcLETTER KIYEOKdSSANGKIYEOK",
      "dKIYEOK-SIOSdNIEUNdNIEUN-CIEUCeHIEUHdTIKEUT",
      "dSSANGTIKEUTdRIEULdRIEUL-KIYEOKeMIEUMePIEUPeSIOS",
      "eTHIEUTHePHIEUPHeHIEUHdMIEUMdPIEUPdSSANGPIEUPdPIEUP-",
      "SIOSdSIOSdSSANGSIOSdIEUNGdCIEUCdSSANGCIEUCdCHIEUCH",
      "dKHIEUKHdTHIEUTHdPHIEUPHdHIEUH"]⟩,
    ⟨0xFFC2, ["aHALFWIDTH HANGUL LETTER AdAEdYAdYAEdEOdE"]⟩,
    ⟨0xFFCA, ["aHALFWIDTH HANGUL LETTER YEOdYEdOdWAdWAEdOE"]⟩,
    ⟨0xFFD2, ["aHALFWIDTH HANGUL LETTER YOdUdWEOdWEdWIdYU"]⟩,
    ⟨0xFFDA, ["aHALFWIDTH HANGUL LETTER EUdYIdI"]⟩,
    ⟨0xFFE0, ["aFULLWIDTH CENT SIGNbPOUND SIGNbNOT SIGN",
      "bMACRONbBROKEN BARbYEN SIGNbWON SIGN"]⟩,
    ⟨0xFFE8, ["aHALFWIDTH FORMS LIGHT VERTICALbLEFTWARDS ",
      "ARROWbUPWARDS ARROWbRIGHTWARDS ARROWbDOWNWARDS ARROW",
      "bBLACK SQUAREbWHITE CIRCLE"]⟩,
    ⟨0xFFF9, ["aINTERLINEAR ANNOTATION ANCHORcSEPARATOR",
      "cTERMINATORaOBJECT REPLACEMENT CHARACTERaREPLACEMENT ",
      "CHARACTER"]⟩]

end SigCheck
