import SigCheck.CharName.Run

/-
  Names of scripts of East Asia, Africa and America, from
  U+1000 to U+1CFF.

  Key definitions include:
    * `CharName.asian`
-/

namespace SigCheck

/- The runs of these names. -/
def CharName.asian : List NameRun :=
  [⟨0x1000, ["aMYANMAR LETTER KAcKHAcGAcGHAcNGAcCAcCHAcJA",
      "cJHAcNYAcNNYAcTTAcTTHAcDDAcDDHAcNNAcTAcTHAcDAcDHAcNA",
      "cPAcPHAcBAcBHAcMAcYAcRAcLAcWAcSAcHAcLLAcAcSHAN AcIcII",
      "cUcUUcEcMON EcOcAUbVOWEL SIGN TALL AAdAAdIdIIdUdUUdE",
      "dAIdMON IIeOdE ABOVEbSIGN ANUSVARAcDOT BELOWcVISARGA",
      "cVIRAMAcASATbCONSONANT SIGN MEDIAL YAeRAeWAeHA",
      "bLETTER GREAT SAbDIGIT ZEROcONEcTWOcTHREEcFOURcFIVE",
      "cSIXcSEVENcEIGHTcNINEbSIGN LITTLE SECTIONcSECTION",
      "bSYMBOL LOCATIVEcCOMPLETEDcAFOREMENTIONEDcGENITIVE",
      "bLETTER SHAcSSAcVOCALIC RdRRdLdLLbVOWEL SIGN VOCALIC ",
      "ReRReLeLLbLETTER MON NGAdJHAdBBAdBBEbCONSONANT SIGN ",
      "MON MEDIAL NAfMAfLAbLETTER SGAW KAREN SHAbVOWEL SIGN ",
      "SGAW KAREN EUbTONE MARK SGAW KAREN HATHIfKE PHO",
      "bLETTER WESTERN PWO KAREN THAfPWAbVOWEL SIGN WESTERN ",
      "PWO KAREN EUgUEbSIGN WESTERN PWO KAREN TONE-1g2g3g4g5",
      "bLETTER EASTERN PWO KAREN NNAfYWAfGHWAbVOWEL SIGN ",
      "GEBA KAREN IdKAYAH OEeUeEEbLETTER SHAN KAdKHAdGAdCA",
      "dZAdNYAdDAdNAdPHAdFAdBAdTHAdHAbCONSONANT SIGN SHAN ",
      "MEDIAL WAbVOWEL SIGN SHAN AAeEeE ABOVEeFINAL YbSIGN ",
      "SHAN TONE-2e3e5e6dCOUNCIL TONE-2f3eEMPHATIC TONE",
      "bLETTER RUMAI PALAUNG FAbSIGN RUMAI PALAUNG TONE-5",
      "bSHAN DIGIT ZEROdONEdTWOdTHREEdFOURdFIVEdSIXdSEVEN",
      "dEIGHTdNINEbSIGN KHAMTI TONE-1e3bVOWEL SIGN AITON A",
      "eAIbSYMBOL SHAN ONEdEXCLAMATIONaGEORGIAN CAPITAL ",
      "LETTER ANdBANdGANdDONdENdVINdZENdTANdINdKANdLASdMAN",
      "dNARdONdPARdZHARdRAEdSANdTARdUNdPHARdKHARdGHANdQAR",
      "dSHINdCHINdCANdJILdCILdCHARdXANdJHANdHAEdHEdHIEdWE",
      "dHARdHOE"]⟩,
    ⟨0x10C7, ["aGEORGIAN CAPITAL LETTER YN"]⟩,
    ⟨0x10CD, ["aGEORGIAN CAPITAL LETTER AEN"]⟩,
    ⟨0x10D0, ["aGEORGIAN LETTER ANcBANcGANcDONcENcVINcZEN",
      "cTANcINcKANcLAScMANcNARcONcPARcZHARcRAEcSANcTARcUN",
      "cPHARcKHARcGHANcQARcSHINcCHINcCANcJILcCILcCHARcXAN",
      "cJHANcHAEcHEcHIEcWEcHARcHOEcFIcYNcELIFIcTURNED GAN",
      "cAINbPARAGRAPH SEPARATORaMODIFIER LETTER GEORGIAN NAR",
      "aGEORGIAN LETTER AENcHARD SIGNcLABIAL SIGNaHANGUL ",
      "CHOSEONG KIYEOKcSSANGKIYEOKcNIEUNcTIKEUTcSSANGTIKEUT",
      "cRIEULcMIEUMcPIEUPcSSANGPIEUPcSIOScSSANGSIOScIEUNG",
      "cCIEUCcSSANGCIEUCcCHIEUCHcKHIEUKHcTHIEUTHcPHIEUPH",
      "cHIEUHcNIEUN-KIYEOKcSSANGNIEUNcNIEUN-TIKEUTdPIEUP",
      "cTIKEUT-KIYEOKcRIEUL-NIEUNcSSANGRIEULcRIEUL-HIEUH",
      "cKAPYEOUNRIEULcMIEUM-PIEUPcKAPYEOUNMIEUMcPIEUP-KIYEOK",
      "dNIEUNdTIKEUTdSIOSdSIOS-KIYEOKeTIKEUTePIEUPdSSANGSIOS",
      "dSIOS-CIEUCdCIEUCdCHIEUCHdTHIEUTHdPHIEUPH",
      "cKAPYEOUNPIEUPcKAPYEOUNSSANGPIEUPcSIOS-KIYEOKdNIEUN",
      "dTIKEUTdRIEULdMIEUMdPIEUPdPIEUP-KIYEOKdSSANGSIOS",
      "dIEUNGdCIEUCdCHIEUCHdKHIEUKHdTHIEUTHdPHIEUPHdHIEUH",
      "cCHITUEUMSIOScCHITUEUMSSANGSIOScCEONGCHIEUMSIOS",
      "cCEONGCHIEUMSSANGSIOScPANSIOScIEUNG-KIYEOKdTIKEUT",
      "dMIEUMdPIEUPdSIOSdPANSIOScSSANGIEUNGcIEUNG-CIEUC",
      "dCHIEUCHdTHIEUTHdPHIEUPHcYESIEUNGcCIEUC-IEUNG",
      "cCHITUEUMCIEUCcCHITUEUMSSANGCIEUCcCEONGCHIEUMCIEUC",
      "cCEONGCHIEUMSSANGCIEUCcCHIEUCH-KHIEUKHdHIEUH",
      "cCHITUEUMCHIEUCHcCEONGCHIEUMCHIEUCHcPHIEUPH-PIEUP",
      "cKAPYEOUNPHIEUPHcSSANGHIEUHcYEORINHIEUHcKIYEOK-TIKEUT",
      "cNIEUN-SIOSdCIEUCdHIEUHcTIKEUT-RIEULcFILLER",
      "bJUNGSEONG FILLERcAcAEcYAcYAEcEOcEcYEOcYEcOcWAcWAEcOE",
      "cYOcUcWEOcWEcWIcYUcEUcYIcIcA-OdUcYA-OdYOcEO-OdUdEU",
      "cYEO-OdUcO-EOdEdYEdOdUcYO-YAdYAEdYEOdOdIcU-AdAEdEO-EU",
      "dYEdUcYU-AdEOdEdYEOdYEdUdIcEU-UdEUcYI-UcI-AdYAdOdUdEU",
      "dARAEAcARAEAcARAEA-EOdUdIcSSANGARAEAcA-EUcYA-UcYEO-YA",
      "cO-YAdYAEbJONGSEONG KIYEOKcSSANGKIYEOKcKIYEOK-SIOS",
      "cNIEUNcNIEUN-CIEUCdHIEUHcTIKEUTcRIEULcRIEUL-KIYEOK",
      "dMIEUMdPIEUPdSIOSdTHIEUTHdPHIEUPHdHIEUHcMIEUMcPIEUP",
      "cPIEUP-SIOScSIOScSSANGSIOScIEUNGcCIEUCcCHIEUCH",
      "cKHIEUKHcTHIEUTHcPHIEUPHcHIEUHcKIYEOK-RIEULdSIOS-",
      "KIYEOKcNIEUN-KIYEOKdTIKEUTdSIOSdPANSIOSdTHIEUTH",
      "cTIKEUT-KIYEOKdRIEULcRIEUL-KIYEOK-SIOSdNIEUNdTIKEUT",
      "dTIKEUT-HIEUHcSSANGRIEULcRIEUL-MIEUM-KIYEOKeSIOS",
      "dPIEUP-SIOSeHIEUHdKAPYEOUNPIEUPdSSANGSIOSdPANSIOS",
      "dKHIEUKHdYEORINHIEUHcMIEUM-KIYEOKdRIEULdPIEUPdSIOS",
      "dSSANGSIOSdPANSIOSdCHIEUCHdHIEUHcKAPYEOUNMIEUMcPIEUP-",
      "RIEULdPHIEUPHdHIEUHcKAPYEOUNPIEUPcSIOS-KIYEOKdTIKEUT",
      "dRIEULdPIEUPcPANSIOScIEUNG-KIYEOKdSSANGKIYEOK",
      "cSSANGIEUNGcIEUNG-KHIEUKHcYESIEUNGcYESIEUNG-SIOS",
      "dPANSIOScPHIEUPH-PIEUPcKAPYEOUNPHIEUPHcHIEUH-NIEUN",
      "dRIEULdMIEUMdPIEUPcYEORINHIEUHcKIYEOK-NIEUNdPIEUP",
      "dCHIEUCHdKHIEUKHdHIEUHcSSANGNIEUNaETHIOPIC SYLLABLE ",
      "HAcHUcHIcHAAcHEEcHEcHOcHOAcLAcLUcLIcLAAcLEEcLEcLOcLWA",
      "cHHAcHHUcHHIcHHAAcHHEEcHHEcHHOcHHWAcMAcMUcMIcMAAcMEE",
      "cMEcMOcMWAcSZAcSZUcSZIcSZAAcSZEEcSZEcSZOcSZWAcRAcRU",
      "cRIcRAAcREEcREcROcRWAcSAcSUcSIcSAAcSEEcSEcSOcSWAcSHA",
      "cSHUcSHIcSHAAcSHEEcSHEcSHOcSHWAcQAcQUcQIcQAAcQEEcQE",
      "cQOcQOAcQWA"]⟩,
    ⟨0x124A, ["aETHIOPIC SYLLABLE QWIcQWAAcQWEEcQWE"]⟩,
    ⟨0x1250, ["aETHIOPIC SYLLABLE QHAcQHUcQHIcQHAAcQHEEcQHE",
      "cQHO"]⟩,
    ⟨0x1258, ["aETHIOPIC SYLLABLE QHWA"]⟩,
    ⟨0x125A, ["aETHIOPIC SYLLABLE QHWIcQHWAAcQHWEEcQHWE"]⟩,
    ⟨0x1260, ["aETHIOPIC SYLLABLE BAcBUcBIcBAAcBEEcBEcBOcBWA",
      "cVAcVUcVIcVAAcVEEcVEcVOcVWAcTAcTUcTIcTAAcTEEcTEcTO",
      "cTWAcCAcCUcCIcCAAcCEEcCEcCOcCWAcXAcXUcXIcXAAcXEEcXE",
      "cXOcXOAcXWA"]⟩,
    ⟨0x128A, ["aETHIOPIC SYLLABLE XWIcXWAAcXWEEcXWE"]⟩,
    ⟨0x1290, ["aETHIOPIC SYLLABLE NAcNUcNIcNAAcNEEcNEcNOcNWA",
      "cNYAcNYUcNYIcNYAAcNYEEcNYEcNYOcNYWAcGLOTTAL AdUdIdAA",
      "dEEdEdOdWAcKAcKUcKIcKAAcKEEcKEcKOcKOAcKWA"]⟩,
    ⟨0x12B2, ["aETHIOPIC SYLLABLE KWIcKWAAcKWEEcKWE"]⟩,
    ⟨0x12B8, ["aETHIOPIC SYLLABLE KXAcKXUcKXIcKXAAcKXEEcKXE",
      "cKXO"]⟩,
    ⟨0x12C0, ["aETHIOPIC SYLLABLE KXWA"]⟩,
    ⟨0x12C2, ["aETHIOPIC SYLLABLE KXWIcKXWAAcKXWEEcKXWE"]⟩,
    ⟨0x12C8, ["aETHIOPIC SYLLABLE WAcWUcWIcWAAcWEEcWEcWOcWOA",
      "cPHARYNGEAL AdUdIdAAdEEdEdO"]⟩,
    ⟨0x12D8, ["aETHIOPIC SYLLABLE ZAcZUcZIcZAAcZEEcZEcZOcZWA",
      "cZHAcZHUcZHIcZHAAcZHEEcZHEcZHOcZHWAcYAcYUcYIcYAAcYEE",
      "cYEcYOcYOAcDAcDUcDIcDAAcDEEcDEcDOcDWAcDDAcDDUcDDI",
      "cDDAAcDDEEcDDEcDDOcDDWAcJAcJUcJIcJAAcJEEcJEcJOcJWAcGA",
      "cGUcGIcGAAcGEEcGEcGOcGOAcGWA"]⟩,
    ⟨0x1312, ["aETHIOPIC SYLLABLE GWIcGWAAcGWEEcGWE"]⟩,
    ⟨0x1318, ["aETHIOPIC SYLLABLE GGAcGGUcGGIcGGAAcGGEEcGGE",
      "cGGOcGGWAAcTHAcTHUcTHIcTHAAcTHEEcTHEcTHOcTHWAcCHAcCHU",
      "cCHIcCHAAcCHEEcCHEcCHOcCHWAcPHAcPHUcPHIcPHAAcPHEEcPHE",
      "cPHOcPHWAcTSAcTSUcTSIcTSAAcTSEEcTSEcTSOcTSWAcTZAcTZU",
      "cTZIcTZAAcTZEEcTZEcTZOcTZOAcFAcFUcFIcFAAcFEEcFEcFO",
      "cFWAcPAcPUcPIcPAAcPEEcPEcPOcPWAcRYAcMYAcFYA"]⟩,
    ⟨0x135D, ["aETHIOPIC COMBINING GEMINATION AND VOWEL ",
      "LENGTH MARKcVOWEL LENGTH MARKcGEMINATION MARK",
      "bSECTION MARKbWORDSPACEbFULL STOPbCOMMAbSEMICOLON",
      "bCOLONbPREFACE COLONbQUESTION MARKbPARAGRAPH ",
      "SEPARATORbDIGIT ONEcTWOcTHREEcFOURcFIVEcSIXcSEVEN",
      "cEIGHTcNINEbNUMBER TENcTWENTYcTHIRTYcFORTYcFIFTY",
      "cSIXTYcSEVENTYcEIGHTYcNINETYcHUNDREDcTEN THOUSAND"]⟩,
    ⟨0x1380, ["aETHIOPIC SYLLABLE SEBATBEIT MWAcMWIcMWEEcMWE",
      "cSEBATBEIT BWAcBWIcBWEEcBWEcSEBATBEIT FWAcFWIcFWEE",
      "cFWEcSEBATBEIT PWAcPWIcPWEEcPWEbTONAL MARK YIZET",
      "dDERETdRIKRIKdSHORT RIKRIKdDIFATdKENATdCHIRETdHIDET",
      "dDERET-HIDETdKURT"]⟩,
    ⟨0x13A0, ["aCHEROKEE LETTER AcEcIcOcUcVcGAcKAcGEcGIcGO",
      "cGUcGVcHAcHEcHIcHOcHUcHVcLAcLEcLIcLOcLUcLVcMAcMEcMI",
      "cMOcMUcNAcHNAcNAHcNEcNIcNOcNUcNVcQUAcQUEcQUIcQUOcQUU",
      "cQUVcSAcScSEcSIcSOcSUcSVcDAcTAcDEcTEcDIcTIcDOcDUcDV",
      "cDLAcTLAcTLEcTLIcTLOcTLUcTLVcTSAcTSEcTSIcTSOcTSUcTSV",
      "cWAcWEcWIcWOcWUcWVcYAcYEcYIcYOcYUcYVcMV"]⟩,
    ⟨0x13F8, ["aCHEROKEE SMALL LETTER YEdYIdYOdYUdYVdMV"]⟩,
    ⟨0x1400, ["aCANADIAN SYLLABICS HYPHENcEcAAIcIcIIcOcOOcY-",
      "CREE OOcCARRIER EEdIcAcAAcWEcWEST-CREE WEcWIcWEST-",
      "CREE WIcWIIcWEST-CREE WIIcWOcWEST-CREE WOcWOOcWEST-",
      "CREE WOOcNASKAPI WOOcWAcWEST-CREE WAcWAAcWEST-CREE ",
      "WAAcNASKAPI WAAcAIcY-CREE WcGLOTTAL STOPcFINAL ACUTE",
      "dGRAVEdBOTTOM HALF RINGdTOP HALF RINGdRIGHT HALF RING",
      "dRINGdDOUBLE ACUTEeSHORT VERTICAL STROKESdMIDDLE DOT",
      "dSHORT HORIZONTAL STROKEdPLUSdDOWN TACKcENcINcONcAN",
      "cPEcPAAIcPIcPIIcPOcPOOcY-CREE POOcCARRIER HEEdHIcPA",
      "cPAAcPWEcWEST-CREE PWEcPWIcWEST-CREE PWIcPWIIcWEST-",
      "CREE PWIIcPWOcWEST-CREE PWOcPWOOcWEST-CREE PWOOcPWA",
      "cWEST-CREE PWAcPWAAcWEST-CREE PWAAcY-CREE PWAAcP",
      "cWEST-CREE PcCARRIER HcTEcTAAIcTIcTIIcTOcTOOcY-CREE ",
      "TOOcCARRIER DEEdDIcTAcTAAcTWEcWEST-CREE TWEcTWIcWEST-",
      "CREE TWIcTWIIcWEST-CREE TWIIcTWOcWEST-CREE TWOcTWOO",
      "cWEST-CREE TWOOcTWAcWEST-CREE TWAcTWAAcWEST-CREE TWAA",
      "cNASKAPI TWAAcTcTTEcTTIcTTOcTTAcKEcKAAIcKIcKIIcKOcKOO",
      "cY-CREE KOOcKAcKAAcKWEcWEST-CREE KWEcKWIcWEST-CREE ",
      "KWIcKWIIcWEST-CREE KWIIcKWOcWEST-CREE KWOcKWOOcWEST-",
      "CREE KWOOcKWAcWEST-CREE KWAcKWAAcWEST-CREE KWAA",
      "cNASKAPI KWAAcKcKWcSOUTH-SLAVEY KEHeKIHeKOHeKAHcCE",
      "cCAAIcCIcCIIcCOcCOOcY-CREE COOcCAcCAAcCWEcWEST-CREE ",
      "CWEcCWIcWEST-CREE CWIcCWIIcWEST-CREE CWIIcCWOcWEST-",
      "CREE CWOcCWOOcWEST-CREE CWOOcCWAcWEST-CREE CWAcCWAA",
      "cWEST-CREE CWAAcNASKAPI CWAAcCcSAYISI THcMEcMAAIcMI",
      "cMIIcMOcMOOcY-CREE MOOcMAcMAAcMWEcWEST-CREE MWEcMWI",
      "cWEST-CREE MWIcMWIIcWEST-CREE MWIIcMWOcWEST-CREE MWO",
      "cMWOOcWEST-CREE MWOOcMWAcWEST-CREE MWAcMWAAcWEST-",
      "CREE MWAAcNASKAPI MWAAcMcWEST-CREE McMHcATHAPASCAN M",
      "cSAYISI McNEcNAAIcNIcNIIcNOcNOOcY-CREE NOOcNAcNAAcNWE",
      "cWEST-CREE NWEcNWAcWEST-CREE NWAcNWAAcWEST-CREE NWAA",
      "cNASKAPI NWAAcNcCARRIER NGcNHcLEcLAAIcLIcLIIcLOcLOO",
      "cY-CREE LOOcLAcLAAcLWEcWEST-CREE LWEcLWIcWEST-CREE ",
      "LWIcLWIIcWEST-CREE LWIIcLWOcWEST-CREE LWOcLWOOcWEST-",
      "CREE LWOOcLWAcWEST-CREE LWAcLWAAcWEST-CREE LWAAcL",
      "cWEST-CREE LcMEDIAL LcSEcSAAIcSIcSIIcSOcSOOcY-CREE ",
      "SOOcSAcSAAcSWEcWEST-CREE SWEcSWIcWEST-CREE SWIcSWII",
      "cWEST-CREE SWIIcSWOcWEST-CREE SWOcSWOOcWEST-CREE SWOO",
      "cSWAcWEST-CREE SWAcSWAAcWEST-CREE SWAAcNASKAPI SWAAcS",
      "cATHAPASCAN ScSWcBLACKFOOT ScMOOSE-CREE SKcNASKAPI ",
      "SKWdS-WdSPWAdSTWAdSKWAdSCWAcSHEcSHIcSHIIcSHOcSHOOcSHA",
      "cSHAAcSHWEcWEST-CREE SHWEcSHWIcWEST-CREE SHWIcSHWII",
      "cWEST-CREE SHWIIcSHWOcWEST-CREE SHWOcSHWOOcWEST-CREE ",
      "SHWOOcSHWAcWEST-CREE SHWAcSHWAAcWEST-CREE SHWAAcSHcYE",
      "cYAAIcYIcYIIcYOcYOOcY-CREE YOOcYAcYAAcYWEcWEST-CREE ",
      "YWEcYWIcWEST-CREE YWIcYWIIcWEST-CREE YWIIcYWOcWEST-",
      "CREE YWOcYWOOcWEST-CREE YWOOcYWAcWEST-CREE YWAcYWAA",
      "cWEST-CREE YWAAcNASKAPI YWAAcYcBIBLE-CREE YcWEST-",
      "CREE YcSAYISI YIcREcR-CREE REcWEST-CREE LEcRAAIcRI",
      "cRIIcROcROOcWEST-CREE LOcRAcRAAcWEST-CREE LAcRWAA",
      "cWEST-CREE RWAAcRcWEST-CREE RcMEDIAL RcFEcFAAIcFIcFII",
      "cFOcFOOcFAcFAAcFWAAcWEST-CREE FWAAcFcTHEcN-CREE THE",
      "cTHIcN-CREE THIcTHIIcN-CREE THIIcTHOcTHOOcTHAcTHAA",
      "cTHWAAcWEST-CREE THWAAcTHcTTHEcTTHIcTTHOcTTHAcTTHcTYE",
      "cTYIcTYOcTYAcNUNAVIK HEdHIdHIIdHOdHOOdHAdHAAdH",
      "cNUNAVUT HcHKcQAAIcQIcQIIcQOcQOOcQAcQAAcQcTLHEcTLHI",
      "cTLHOcTLHAcWEST-CREE REeRIeROeRAcNGAAIcNGIcNGIIcNGO",
      "cNGOOcNGAcNGAAcNGcNNGcSAYISI SHEdSHIdSHOdSHAcWOODS-",
      "CREE THEeTHIeTHOeTHAeTHcLHIcLHIIcLHOcLHOOcLHAcLHAAcLH",
      "cTH-CREE THEeTHIeTHIIeTHOeTHOOeTHAeTHAAeTHcAIVILIK B",
      "cBLACKFOOT EdIdOdAdWEdWIdWOdWAdNEdNIdNOdNAdKEdKIdKO",
      "dKAcSAYISI HEdHIdHOdHAcCARRIER GHUdGHOdGHEdGHEEdGHI",
      "dGHAdRUdROdREdREEdRIdRAdWUdWOdWEdWEEdWIdWAdHWUdHWO",
      "dHWEdHWEEdHWIdHWAdTHUdTHOdTHEdTHEEdTHIdTHAdTTUdTTO",
      "dTTEdTTEEdTTIdTTAdPUdPOdPEdPEEdPIdPAdPdGUdGOdGEdGEE",
      "dGIdGAdKHUdKHOdKHEdKHEEdKHIdKHAdKKUdKKOdKKEdKKEEdKKI",
      "dKKAdKKdNUdNOdNEdNEEdNIdNAdMUdMOdMEdMEEdMIdMAdYUdYO",
      "dYEdYEEdYIdYAdJUcSAYISI JUcCARRIER JOdJEdJEEdJI",
      "cSAYISI JIcCARRIER JAdJJUdJJOdJJEdJJEEdJJIdJJAdLUdLO",
      "dLEdLEEdLIdLAdDLUdDLOdDLEdDLEEdDLIdDLAdLHUdLHOdLHE",
      "dLHEEdLHIdLHAdTLHUdTLHOdTLHEdTLHEEdTLHIdTLHAdTLUdTLO",
      "dTLEdTLEEdTLIdTLAdZUdZOdZEdZEEdZIdZAdZdINITIAL ZdDZU",
      "dDZOdDZEdDZEEdDZIdDZAdSUdSOdSEdSEEdSIdSAdSHUdSHOdSHE",
      "dSHEEdSHIdSHAdSHdTSUdTSOdTSEdTSEEdTSIdTSAdCHUdCHOdCHE",
      "dCHEEdCHIdCHAdTTSUdTTSOdTTSEdTTSEEdTTSIdTTSAcCHI SIGN",
      "cFULL STOPcQAIcNGAIcNNGIcNNGIIcNNGOcNNGOOcNNGAcNNGAA",
      "cWOODS-CREE THWEEeTHWIeTHWIIeTHWOeTHWOOeTHWAeTHWAA",
      "eFINAL THcBLACKFOOT WaOGHAM SPACE MARKbLETTER BEITH",
      "cLUIScFEARNcSAILcNIONcUATHcDAIRcTINNEcCOLLcCEIRTcMUIN",
      "cGORTcNGEADALcSTRAIFcRUIScAILMcONNcURcEADHADHcIODHADH",
      "cEABHADHcORcUILLEANNcIFINcEAMHANCHOLLcPEITHbFEATHER ",
      "MARKbREVERSED FEATHER MARK"]⟩,
    ⟨0x16A0, ["aRUNIC LETTER FEHU FEOH FE FcVcURUZ UR UcYRcY",
      "cWcTHURISAZ THURS THORNcETHcANSUZ AcOS OcAC AcAESC",
      "cLONG-BRANCH-OSS OcSHORT-TWIG-OSS OcOcOEcONcRAIDO ",
      "RAD REID RcKAUNAcCENcKAUN KcGcENGcGEBO GYFU GcGAR",
      "cWUNJO WYNN WcHAGLAZ HcHAEGL HcLONG-BRANCH-HAGALL H",
      "cSHORT-TWIG-HAGALL HcNAUDIZ NYD NAUD NcSHORT-TWIG-",
      "NAUD NcDOTTED-NcISAZ IS ISS IcEcJERAN JcGERcLONG-",
      "BRANCH-AR AEcSHORT-TWIG-AR AcIWAZ EOHcPERTHO PEORTH P",
      "cALGIZ EOLHXcSOWILO ScSIGEL LONG-BRANCH-SOL ScSHORT-",
      "TWIG-SOL ScCcZcTIWAZ TIR TYR TcSHORT-TWIG-TYR TcD",
      "cBERKANAN BEORC BJARKAN BcSHORT-TWIG-BJARKAN B",
      "cDOTTED-PcOPEN-PcEHWAZ EH EcMANNAZ MAN McLONG-BRANCH-",
      "MADR McSHORT-TWIG-MADR McLAUKAZ LAGU LOGR LcDOTTED-L",
      "cINGWAZcINGcDAGAZ DAEG DcOTHALAN ETHEL OcEARcIOR",
      "cCWEORTHcCALCcCEALCcSTANcLONG-BRANCH-YRcSHORT-TWIG-YR",
      "cICELANDIC-YRcQcXbSINGLE PUNCTUATIONbMULTIPLE ",
      "PUNCTUATIONbCROSS PUNCTUATIONbARLAUG SYMBOLbTVIMADUR ",
      "SYMBOLbBELGTHOR SYMBOLbLETTER KcSHcOOcFRANKS CASKET ",
      "OSeISeEHeACeAESC"]⟩,
    ⟨0x1700, ["aTAGALOG LETTER AcIcUcKAcGAcNGAcTAcDAcNAcPA",
      "cBAcMAcYAcRAcLAcWAcSAcHAbVOWEL SIGN IdUbSIGN VIRAMA",
      "cPAMUDPOD"]⟩,
    ⟨0x171F, ["aTAGALOG LETTER ARCHAIC RAaHANUNOO LETTER AcI",
      "cUcKAcGAcNGAcTAcDAcNAcPAcBAcMAcYAcRAcLAcWAcSAcHA",
      "bVOWEL SIGN IdUbSIGN PAMUDPODaPHILIPPINE SINGLE ",
      "PUNCTUATIONbDOUBLE PUNCTUATION"]⟩,
    ⟨0x1740, ["aBUHID LETTER AcIcUcKAcGAcNGAcTAcDAcNAcPAcBA",
      "cMAcYAcRAcLAcWAcSAcHAbVOWEL SIGN IdU"]⟩,
    ⟨0x1760, ["aTAGBANWA LETTER AcIcUcKAcGAcNGAcTAcDAcNAcPA",
      "cBAcMAcYA"]⟩,
    ⟨0x176E, ["aTAGBANWA LETTER LAcWAcSA"]⟩,
    ⟨0x1772, ["aTAGBANWA VOWEL SIGN IdU"]⟩,
    ⟨0x1780, ["aKHMER LETTER KAcKHAcKOcKHOcNGOcCAcCHAcCOcCHO",
      "cNYOcDAcTTHAcDOcTTHOcNNOcTAcTHAcTOcTHOcNOcBAcPHAcPO",
      "cPHOcMOcYOcROcLOcVOcSHAcSSOcSAcHAcLAcQAbINDEPENDENT ",
      "VOWEL QAQdQAAdQIdQIIdQUdQUKdQUUdQUUVdRYdRYYdLYdLYYdQE",
      "dQAIdQOO TYPE ONEfTWOdQAUbVOWEL INHERENT AQdAAcSIGN ",
      "AAdIdIIdYdYYdUdUUdUAdOEdYAdIEdEdAEdAIdOOdAUbSIGN ",
      "NIKAHITcREAHMUKcYUUKALEAPINTUcMUUSIKATOANcTRIISAP",
      "cBANTOCcROBATcTOANDAKHIATcKAKABATcAHSDAcSAMYOK SANNYA",
      "cVIRIAMcCOENGcBATHAMASATcKHANcBARIYOOSANcCAMNUC PII ",
      "KUUHcLEK TOOcBEYYALcPHNAEK MUANcKOOMUUTbCURRENCY ",
      "SYMBOL RIELbSIGN AVAKRAHASANYAcATTHACAN"]⟩,
    ⟨0x17E0, ["aKHMER DIGIT ZEROcONEcTWOcTHREEcFOURcFIVEcSIX",
      "cSEVENcEIGHTcNINE"]⟩,
    ⟨0x17F0, ["aKHMER SYMBOL LEK ATTAK SONeMUOYePIIeBEIeBUON",
      "ePRAMePRAM-MUOYfPIIfBEIfBUON"]⟩,
    ⟨0x1800, ["aMONGOLIAN BIRGAbELLIPSISbCOMMAbFULL STOP",
      "bCOLONbFOUR DOTSbTODO SOFT HYPHENbSIBE SYLLABLE ",
      "BOUNDARY MARKERbMANCHU COMMAcFULL STOPbNIRUGUbFREE ",
      "VARIATION SELECTOR ONEeTWOeTHREEbVOWEL SEPARATOR",
      "bFREE VARIATION SELECTOR FOURbDIGIT ZEROcONEcTWO",
      "cTHREEcFOURcFIVEcSIXcSEVENcEIGHTcNINE"]⟩,
    ⟨0x1820, ["aMONGOLIAN LETTER AcEcIcOcUcOEcUEcEEcNAcANG",
      "cBAcPAcQAcGAcMAcLAcSAcSHAcTAcDAcCHAcJAcYAcRAcWAcFAcKA",
      "cKHAcTSAcZAcHAAcZRAcLHAcZHIcCHIcTODO LONG VOWEL SIGN",
      "dEdIdOdUdOEdUEdANGdBAdPAdQAdGAdMAdTAdDAdCHAdJAdTSAdYA",
      "dWAdKAdGAAdHAAdJIAdNIAdDZAcSIBE EdIdIYdUEdUdANGdKAdGA",
      "dHAdPAdSHAdTAdDAdJAdFAdGAAdHAAdTSAdZAdRAAdCHAdZHA",
      "cMANCHU IdKAdRAdFAdZHAcCHA WITH TWO DOTS"]⟩,
    ⟨0x1880, ["aMONGOLIAN LETTER ALI GALI ANUSVARA ONE",
      "eVISARGA ONEeDAMARUeUBADAMAeINVERTED UBADAMAeBALUDA",
      "eTHREE BALUDAeAeIeKAeNGAeCAeTTAeTTHAeDDAeNNAeTAeDAePA",
      "ePHAeSSAeZHAeZAeAHcTODO ALI GALI TAfZHAcMANCHU ALI ",
      "GALI GHAfNGAfCAfJHAfTTAfDDHAfTAfDHAfSSAfCYAfZHAfZA",
      "cALI GALI HALF UfYAcMANCHU ALI GALI BHAcALI GALI ",
      "DAGALGAcMANCHU ALI GALI LHA"]⟩,
    ⟨0x18B0, ["aCANADIAN SYLLABICS OYcAYcAAYcWAYcPOYcPAY",
      "cPWOYcTAYcKAYcKWAYcMAYcNOYcNAYcLAYcSOYcSAYcSHOYcSHAY",
      "cSHWOYcYOYcYAYcRAYcNWIcOJIBWAY NWIcNWIIcOJIBWAY NWII",
      "cNWOcOJIBWAY NWOcNWOOcOJIBWAY NWOOcRWEEcRWIcRWIIcRWO",
      "cRWOOcRWAcOJIBWAY PdTdKdCdMdNdSdSHcEASTERN WcWESTERN ",
      "WcFINAL SMALL RINGdRAISED DOTcR-CREE RWEcWEST-CREE ",
      "LOOeLAAcTHWEcTHWAcTTHWEcTTHOOcTTHAAcTLHWEcTLHOO",
      "cSAYISI SHWEdSHOOdHOOcCARRIER GWUdDENE GEEdGAAdGWA",
      "cSAYISI JUUcCARRIER JWAcBEAVER DENE LeRcCARRIER ",
      "DENTAL S"]⟩,
    ⟨0x1900, ["aLIMBU VOWEL-CARRIER LETTERbLETTER KAcKHAcGA",
      "cGHAcNGAcCAcCHAcJAcJHAcYANcTAcTHAcDAcDHAcNAcPAcPHAcBA",
      "cBHAcMAcYAcRAcLAcWAcSHAcSSAcSAcHAcGYANcTRA"]⟩,
    ⟨0x1920, ["aLIMBU VOWEL SIGN AdIdUdEEdAIdOOdAUdEdO",
      "bSUBJOINED LETTER YAdRAdWA"]⟩,
    ⟨0x1930, ["aLIMBU SMALL LETTER KAdNGAdANUSVARAdTAdNAdPA",
      "dMAdRAdLAbSIGN MUKPHRENGcKEMPHRENGcSA-I"]⟩,
    ⟨0x1940, ["aLIMBU SIGN LOO"]⟩,
    ⟨0x1944, ["aLIMBU EXCLAMATION MARKbQUESTION MARKbDIGIT ",
      "ZEROcONEcTWOcTHREEcFOURcFIVEcSIXcSEVENcEIGHTcNINE",
      "aTAI LE LETTER KAdXAdNGAdTSAdSAdYAdTAdTHAdLAdPAdPHA",
      "dMAdFAdVAdHAdQAdKHAdTSHAdNAdAdIdEEdEHdUdOOdOdUEdEdAUE",
      "dAI"]⟩,
    ⟨0x1970, ["aTAI LE LETTER TONE-2e3e4e5e6"]⟩,
    ⟨0x1980, ["aNEW TAI LUE LETTER HIGH QAeLOW QAeHIGH KAfXA",
      "fNGAeLOW KAfXAfNGAeHIGH TSAfSAfYAeLOW TSAfSAfYAeHIGH ",
      "TAfTHAfNAeLOW TAfTHAfNAeHIGH PAfPHAfMAeLOW PAfPHAfMA",
      "eHIGH FAfVAfLAeLOW FAfVAfLAeHIGH HAfDAfBAeLOW HAfDA",
      "fBAeHIGH KVAfXVAeLOW KVAfXVAeHIGH SUAeLOW SUA"]⟩,
    ⟨0x19B0, ["aNEW TAI LUE VOWEL SIGN VOWEL SHORTENERfAAfII",
      "fUfUUfEfAEfOfOAfUEfAYfAAYfUYfOYfOAYfUEYfIYdLETTER ",
      "FINAL VfNGfNfMfKfDfBdTONE MARK-1f2"]⟩,
    ⟨0x19D0, ["aNEW TAI LUE DIGIT ZEROeONEeTWOeTHREEeFOUR",
      "eFIVEeSIXeSEVENeEIGHTeNINEdTHAM DIGIT ONE"]⟩,
    ⟨0x19DE, ["aNEW TAI LUE SIGN LAEeLAEVaKHMER SYMBOL ",
      "PATHAMASATcMUOY KOETcPII KOETcBEI KOETcBUON KOET",
      "cPRAM KOETcPRAM-MUOY KOETdPII KOETdBEI KOETdBUON KOET",
      "cDAP KOETcDAP-MUOY KOETdPII KOETdBEI KOETdBUON KOET",
      "dPRAM KOETcTUTEYASATcMUOY ROCcPII ROCcBEI ROCcBUON ",
      "ROCcPRAM ROCcPRAM-MUOY ROCdPII ROCdBEI ROCdBUON ROC",
      "cDAP ROCcDAP-MUOY ROCdPII ROCdBEI ROCdBUON ROCdPRAM ",
      "ROCaBUGINESE LETTER KAcGAcNGAcNGKAcPAcBAcMAcMPAcTAcDA",
      "cNAcNRAcCAcJAcNYAcNYCAcYAcRAcLAcVAcSAcAcHAbVOWEL ",
      "SIGN IdUdEdOdAE"]⟩,
    ⟨0x1A1E, ["aBUGINESE PALLAWAbEND OF SECTIONaTAI THAM ",
      "LETTER HIGH KAeKHAeKXAdLOW KAeKXAeKHAdNGAdHIGH CAeCHA",
      "dLOW CAeSAeCHAdNYAdRATAdHIGH RATHAdDAdLOW RATHAdRANA",
      "dHIGH TAeTHAdLOW TAeTHAdNAdBAdHIGH PAePHAeFAdLOW PA",
      "eFAePHAdMAdLOW YAdHIGH YAdRAdRUEdLAdLUEdWAdHIGH SHA",
      "eSSAeSAeHAdLLAdAdLOW HAdIdIIdUdUUdEEdOOdLAEdGREAT SA",
      "cCONSONANT SIGN MEDIAL RAfLAeLA TANG LAIcSIGN MAI ",
      "KANG LAIcCONSONANT SIGN FINAL NGAeLOW PAeHIGH RATHA ",
      "OR LOW PAeMAeBAeSA"]⟩,
    ⟨0x1A60, ["aTAI THAM SIGN SAKOTcVOWEL SIGN AeMAI SATeAA",
      "eTALL AAeIeIIeUEeUUEeUeUUeOeOA BELOWeOYeEeAEeOOeAI",
      "eTHAM AIeOA ABOVEcSIGN MAI KANGdTONE-1e2dKHUEN TONE-3",
      "f4f5dRA HAAMdMAI SAMdKHUEN-LUE KARAN"]⟩,
    ⟨0x1A7F, ["aTAI THAM COMBINING CRYPTOGRAMMIC DOTcHORA ",
      "DIGIT ZEROeONEeTWOeTHREEeFOUReFIVEeSIXeSEVENeEIGHT",
      "eNINE"]⟩,
    ⟨0x1A90, ["aTAI THAM THAM DIGIT ZEROeONEeTWOeTHREEeFOUR",
      "eFIVEeSIXeSEVENeEIGHTeNINE"]⟩,
    ⟨0x1AA0, ["aTAI THAM SIGN WIANGdWIANGWAAKdSAWANdKEOWdHOY",
      "dDOKMAIdREVERSED ROTATED RANAdMAI YAMOKdKAANdKAANKUU",
      "dSATKAANdSATKAANKUUdHANGdCAANG"]⟩,
    ⟨0x1AB0, ["aCOMBINING DOUBLED CIRCUMFLEX ACCENT",
      "bDIAERESIS-RINGbINFINITYbDOWNWARDS ARROWbTRIPLE DOT",
      "bX-X BELOWbWIGGLY LINE BELOWbOPEN MARK BELOWbDOUBLE ",
      "OPEN MARK BELOWbLIGHT CENTRALIZATION STROKE BELOW",
      "bSTRONG CENTRALIZATION STROKE BELOWbPARENTHESES ABOVE",
      "bDOUBLE PARENTHESES ABOVEbPARENTHESES BELOWcOVERLAY",
      "bLATIN SMALL LETTER W BELOWeTURNED W BELOWbLEFT ",
      "PARENTHESIS ABOVE LEFTbRIGHT PARENTHESIS ABOVE RIGHT",
      "bLEFT PARENTHESIS BELOW LEFTbRIGHT PARENTHESIS BELOW ",
      "RIGHTbSQUARE BRACKETS ABOVEbNUMBER SIGN ABOVE",
      "bINVERTED DOUBLE ARCH ABOVEbPLUS SIGN ABOVEbDOUBLE ",
      "PLUS SIGN ABOVEeBELOWbTRIPLE ACUTE ACCENTbLATIN ",
      "SMALL LETTER INSULAR GfRfT"]⟩,
    ⟨0x1B00, ["aBALINESE SIGN ULU RICEMdCANDRAcCECEKcSURANG",
      "cBISAHbLETTER AKARAcAKARA TEDUNGcIKARAcIKARA TEDUNG",
      "cUKARAcUKARA TEDUNGcRA REPAdREPA TEDUNGcLA LENGA",
      "dLENGA TEDUNGcEKARAcAIKARAcOKARAcOKARA TEDUNGcKAcKA ",
      "MAHAPRANAcGAcGA GORAcNGAcCAcCA LACAcJAcJA JERAcNYA",
      "cTA LATIKdMURDA MAHAPRANAcDA MURDA ALPAPRANA",
      "eMAHAPRANAcNA RAMBATcTAcTA TAWAcDAcDA MADUcNAcPAcPA ",
      "KAPALcBAcBA KEMBANGcMAcYAcRAcLAcWAcSA SAGAdSAPAcSAcHA",
      "bSIGN REREKANbVOWEL SIGN TEDUNGdULUdULU SARIdSUKU",
      "dSUKU ILUTdRA REPAeREPA TEDUNGdLA LENGAeLENGA TEDUNG",
      "dTALINGdTALING REPAeTEDUNGeREPA TEDUNGdPEPETdPEPET ",
      "TEDUNGbADEG ADEGbLETTER KAF SASAKcKHOT SASAKcTZIR ",
      "SASAKcEF SASAKcVE SASAKcZAL SASAKcASYURA SASAK",
      "cARCHAIC JNYA"]⟩,
    ⟨0x1B50, ["aBALINESE DIGIT ZEROcONEcTWOcTHREEcFOURcFIVE",
      "cSIXcSEVENcEIGHTcNINEbPANTIbPAMADAbWINDUbCARIK ",
      "PAMUNGKAHcSIKIcPARERENbPAMENENGbMUSICAL SYMBOL DONG",
      "dDENGdDUNGdDANGdDANG SURANGdDINGdDAENGdDEUNGdDAING",
      "dDANG GEDEdCOMBINING TEGEHeENDEPeKEMPULeKEMPLI",
      "eJEGOGANeKEMPUL WITH JEGOGANeKEMPLI WITH JEGOGAN",
      "eBENDEeGONGdRIGHT-HAND OPEN DUGgDAGfCLOSED TUKgTAK",
      "dLEFT-HAND OPEN PANGgPUNGfCLOSED PLAKgPLUKfOPEN PING",
      "bPANTI LANTANGbPAMADA LANTANG"]⟩,
    ⟨0x1B80, ["aSUNDANESE SIGN PANYECEKcPANGLAYARcPANGWISAD",
      "bLETTER AcIcUcAEcOcEcEUcKAcQAcGAcNGAcCAcJAcZAcNYAcTA",
      "cDAcNAcPAcFAcVAcBAcMAcYAcRAcLAcWAcSAcXAcHAbCONSONANT ",
      "SIGN PAMINGKALdPANYAKRAdPANYIKUbVOWEL SIGN PANGHULU",
      "dPANYUKUdPANAELAENGdPANOLONGdPAMEPETdPANEULEUNGbSIGN ",
      "PAMAAEHcVIRAMAbCONSONANT SIGN PASANGAN MAeWAbLETTER ",
      "KHAcSYAbDIGIT ZEROcONEcTWOcTHREEcFOURcFIVEcSIXcSEVEN",
      "cEIGHTcNINEbAVAGRAHAbLETTER REUcLEUcBHAcFINAL KdM",
      "aBATAK LETTER AcSIMALUNGUN AcHAcSIMALUNGUN HA",
      "cMANDAILING HAcBAcKARO BAcPAcSIMALUNGUN PAcNA",
      "cMANDAILING NAcWAcSIMALUNGUN WAcPAKPAK WAcGA",
      "cSIMALUNGUN GAcJAcDAcRAcSIMALUNGUN RAcMAcSIMALUNGUN ",
      "MAcSOUTHERN TAcNORTHERN TAcSAcSIMALUNGUN SA",
      "cMANDAILING SAcYAcSIMALUNGUN YAcNGAcLAcSIMALUNGUN LA",
      "cNYAcCAcNDAcMBAcIcUbSIGN TOMPIbVOWEL SIGN EdPAKPAK E",
      "dEEdIdKARO IdOdKARO OdUdU FOR SIMALUNGUN SA",
      "bCONSONANT SIGN NGdHbPANGOLATbPANONGONAN"]⟩,
    ⟨0x1BFC, ["aBATAK SYMBOL BINDU NA METEKdPINARBORASdJUDUL",
      "dPANGOLATaLEPCHA LETTER KAcKLAcKHAcGAcGLAcNGAcCAcCHA",
      "cJAcNYAcTAcTHAcDAcNAcPAcPLAcPHAcFAcFLAcBAcBLAcMAcMLA",
      "cTSAcTSHAcDZAcYAcRAcLAcHAcHLAcVAcSAcSHAcWAcA",
      "bSUBJOINED LETTER YAdRAbVOWEL SIGN AAdIdOdOOdUdUUdE",
      "bCONSONANT SIGN KdMdLdNdPdRdTdNYIN-DOdKANGbSIGN RAN",
      "cNUKTA"]⟩,
    ⟨0x1C3B, ["aLEPCHA PUNCTUATION TA-ROLcNYET THYOOM TA-ROL",
      "cCER-WAcTSHOOK CER-WAcTSHOOKbDIGIT ZEROcONEcTWOcTHREE",
      "cFOURcFIVEcSIXcSEVENcEIGHTcNINE"]⟩,
    ⟨0x1C4D, ["aLEPCHA LETTER TTAcTTHAcDDAaOL CHIKI DIGIT ",
      "ZEROdONEdTWOdTHREEdFOURdFIVEdSIXdSEVENdEIGHTdNINE",
      "cLETTER LAdATdAGdANGdALdLAAdAAKdAAJdAAMdAAWdLIdISdIH",
      "dINYdIRdLUdUCdUDdUNNdUYdLEdEPdEDDdENdERRdLOdOTTdOBdOV",
      "dOHcMU TTUDDAGcGAAHLAA TTUDDAAGcMU-GAAHLAA TTUDDAAG",
      "cRELAAcPHAARKAAcAHADcPUNCTUATION MUCAADdDOUBLE MUCAAD",
      "aCYRILLIC SMALL LETTER ROUNDED VEdLONG-LEGGED DE",
      "dNARROW OdWIDE ESdTALL TEdTHREE-LEGGED TEdTALL HARD ",
      "SIGNeYATdUNBLENDED UK"]⟩,
    ⟨0x1C90, ["aGEORGIAN MTAVRULI CAPITAL LETTER ANeBANeGAN",
      "eDONeENeVINeZENeTANeINeKANeLASeMANeNAReONePAReZHAR",
      "eRAEeSANeTAReUNePHAReKHAReGHANeQAReSHINeCHINeCANeJIL",
      "eCILeCHAReXANeJHANeHAEeHEeHIEeWEeHAReHOEeFIeYNeELIFI",
      "eTURNED GANeAIN"]⟩,
    ⟨0x1CBD, ["aGEORGIAN MTAVRULI CAPITAL LETTER AENeHARD ",
      "SIGNeLABIAL SIGNaSUNDANESE PUNCTUATION BINDU SURYA",
      "dPANGLONGdPURNAMAdCAKRAdLEU SATANGAdKA SATANGAdDA ",
      "SATANGAdBA SATANGA"]⟩,
    ⟨0x1CD0, ["aVEDIC TONE KARSHANAcSHARAcPRENKHAbSIGN ",
      "NIHSHVASAcYAJURVEDIC MIDLINE SVARITAbTONE YAJURVEDIC ",
      "AGGRAVATED INDEPENDENT SVARITAdINDEPENDENT SVARITA",
      "dKATHAKA INDEPENDENT SVARITAcCANDRA BELOWcYAJURVEDIC ",
      "KATHAKA INDEPENDENT SVARITA SCHROEDERcDOUBLE SVARITA",
      "cTRIPLE SVARITAcKATHAKA ANUDATTAcDOT BELOWcTWO DOTS ",
      "BELOWcTHREE DOTS BELOWcRIGVEDIC KASHMIRI INDEPENDENT ",
      "SVARITAcATHARVAVEDIC INDEPENDENT SVARITAbSIGN ",
      "VISARGA SVARITAdUDATTAcREVERSED VISARGA UDATTA",
      "cVISARGA ANUDATTAcREVERSED VISARGA ANUDATTAcVISARGA ",
      "UDATTA WITH TAILdANUDATTA WITH TAILcANUSVARA ",
      "ANTARGOMUKHAdBAHIRGOMUKHAdVAMAGOMUKHAdVAMAGOMUKHA ",
      "WITH TAILcTIRYAKcHEXIFORM LONG ANUSVARAcLONG ANUSVARA",
      "cRTHANG LONG ANUSVARAcANUSVARA UBHAYATO MUKHA",
      "cARDHAVISARGAcROTATED ARDHAVISARGAbTONE CANDRA ABOVE",
      "bSIGN JIHVAMULIYAcUPADHMANIYAcATIKRAMAbTONE RING ",
      "ABOVEcDOUBLE RING ABOVEbSIGN DOUBLE ANUSVARA ",
      "ANTARGOMUKHA"]⟩]

end SigCheck
