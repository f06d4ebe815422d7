import SigCheck.CharName.Run

/-
  Names of music, mathematical letters and written signs,
  from U+1CF00 to U+1DFFF.

  Key definitions include:
    * `CharName.notational`
-/

namespace SigCheck

/- The runs of these names. -/
def CharName.notational : List NameRun :=
  [⟨0x1CF00, ["aZNAMENNY COMBINING MARK GORAZDO NIZKO S ",
      "KRYZHEM ON LEFTdNIZKO S KRYZHEM ON LEFTdTSATA ON LEFT",
      "dGORAZDO NIZKO ON LEFTdNIZKO ON LEFTdSREDNE ON LEFT",
      "dMALO POVYSHE ON LEFTdPOVYSHE ON LEFTdVYSOKO ON LEFT",
      "dMALO POVYSHE S KHOKHLOM ON LEFTdPOVYSHE S KHOKHLOM ",
      "ON LEFTdVYSOKO S KHOKHLOM ON LEFTdGORAZDO NIZKO S ",
      "KRYZHEM ON RIGHTdNIZKO S KRYZHEM ON RIGHTdTSATA ON ",
      "RIGHTdGORAZDO NIZKO ON RIGHTdNIZKO ON RIGHTdSREDNE ",
      "ON RIGHTdMALO POVYSHE ON RIGHTdPOVYSHE ON RIGHT",
      "dVYSOKO ON RIGHTdMALO POVYSHE S KHOKHLOM ON RIGHT",
      "dPOVYSHE S KHOKHLOM ON RIGHTdVYSOKO S KHOKHLOM ON ",
      "RIGHTdTSATA S KRYZHEMdMALO POVYSHE S KRYZHEMdSTRANNO ",
      "MALO POVYSHEdPOVYSHE S KRYZHEMeSTRANNOdVYSOKO S ",
      "KRYZHEMdMALO POVYSHE STRANNOdGORAZDO VYSOKOdZELOdON",
      "dRAVNOdTIKHAYAdBORZAYAdUDARKAdPODVERTKAdLOMKAdKUPNAYA",
      "dKACHKAdZEVOKdSKOBAdRAZSEKAdKRYZH ON LEFT"]⟩,
    ⟨0x1CF30, ["aZNAMENNY COMBINING TONAL RANGE MARK MRACHNO",
      "fSVETLOfTRESVETLOcMARK ZADERZHKAdDEMESTVENNY ",
      "ZADERZHKAdOTSECHKAdPODCHASHIEdPODCHASHIE WITH ",
      "VERTICAL STROKEdCHASHKAdCHASHKA POLNAYAdOBLACHKO",
      "dSOROCHYA NOZHKAdTOCHKAdDVOETOCHIEcATTACHING ",
      "VERTICAL OMETcMARK CURVED OMETdKRYZHcLOWER TONAL ",
      "RANGE INDICATORbPRIZNAK MODIFIER LEVEL-2e3dDIRECTION ",
      "FLIPdKRYZHdROG"]⟩,
    ⟨0x1CF50, ["aZNAMENNY NEUME KRYUKcKRYUK TIKHYcPARAKLIT",
      "cDVA V CHELNUcKLYUCHcZANOZHEKcSTOPITSAcSTOPITSA S ",
      "OCHKOMcPEREVODKAcPEREVODKA NEPOSTOYANNAYAcSTOPITSA ",
      "WITH SOROCHYA NOZHKAcCHELYUSTKAcPALKAcZAPYATAYA",
      "cGOLUBCHIK BORZYdTIKHYdMRACHNYdSVETLYdTRESVETLY",
      "cVRAKHIYA PROSTAYAdMRACHNAYAdSVETLAYAdTRESVETLAYA",
      "dKLYUCHEVAYA PROSTAYAeMRACHNAYAeSVETLAYAeTRESVETLAYA",
      "cDOUBLE ZAPYATAYAcREVERSED CHELYUSTKAcDERBITSA",
      "cKHAMILOcCHASHKAcPODCHASHIEcSKAMEYTSA MRACHNAYA",
      "dSVETLAYAdTRESVETLAYAdTIKHAYAcDEMESTVENNY KLYUCH",
      "cSKAMEYTSA KLYUCHEVAYA SVETLAYAdKLYUCHENEPOSTOYANNAYA",
      "dKLYUCHEVAYA TIKHAYAdDVOECHELNAYA PROSTAYAeSVETLAYA",
      "eNEPOSTOYANNAYAeKLYUCHEVAYAcSLOZHITIEcSLOZHITIE S ",
      "ZAPYATOYdZAKRYTOEdS KRYZHEMcKRYZHcROGcFITAcKOBYLA",
      "cZMEYTSAcSTATYAcSTATYA S ZAPYATOYeKRYZHEMeZAPYATOY I ",
      "KRYZHEMeKRYZHEM I ZAPYATOYdZAKRYTAYAdZAKRYTAYA S ",
      "ZAPYATOYdS ROGOMeDVUMYA ZAPYATYMIeZAPYATOY I ",
      "PODCHASHIEMcPOLKULIZMYcSTATYA NEPOSTOYANNAYAcSTRELA ",
      "PROSTAYAdMRACHNOTIKHAYAdKRYZHEVAYAdPOLUPOVODNAYA",
      "dPOVODNAYAdNEPOSTOYANNAYAdKLYUCHEPOVODNAYA",
      "dKLYUCHENEPOSTOYANNAYAdTIKHAYA PUTNAYAdDVOECHELNAYA",
      "dDVOECHELNOKRYZHEVAYAdDVOECHELNOPOVODNAYA",
      "dDVOECHELNAYA KLYUCHEVAYAdDVOECHELNOPOVODNAYA ",
      "KLYUCHEVAYAdGROMNAYA WITH SINGLE ZAPYATAYA",
      "dGROMOPOVODNAYA WITH SINGLE ZAPYATAYAdGROMNAYA",
      "dGROMOPOVODNAYAdGROMOPOVODNAYA WITH DOUBLE ZAPYATAYA",
      "dGROMOKRYZHEVAYAdGROMOKRYZHEVAYA POVODNAYAcMECHIK",
      "cMECHIK POVODNYdKLYUCHEVOYdKLYUCHEPOVODNY",
      "dKLYUCHENEPOSTOYANNYcSTRELA TRYASOGLASNAYA",
      "dTRYASOPOVODNAYAdTRYASOSTRELNAYAcOSOKAcOSOKA SVETLAYA",
      "dTRESVETLAYAdKRYUKOVAYA SVETLAYAdKLYUCHEVAYA SVETLAYA",
      "eNEPOSTOYANNAYAcSTRELA KRYUKOVAYAdKRYUKOVAYA ",
      "POVODNAYAeGROMNAYA WITH SINGLE ZAPYATAYA",
      "eGROMOPOVODNAYA WITH SINGLE ZAPYATAYAeGROMNAYA",
      "eGROMOPOVODNAYAeGROMOPOVODNAYA WITH DOUBLE ZAPYATAYA",
      "eGROMOKRYZHEVAYAeGROMOKRYZHEVAYA POVODNAYAeTRYASKA",
      "cKUFISMAcOBLAKOcDUDAcNEMKAcPAUK"]⟩,
    ⟨0x1D000, ["aBYZANTINE MUSICAL SYMBOL PSILIdDASEIA",
      "dPERISPOMENIdOXEIA EKFONITIKONeDIPLIdVAREIA ",
      "EKFONITIKONeDIPLIdKATHISTIdSYRMATIKIdPARAKLITIKI",
      "dYPOKRISISdYPOKRISIS DIPLIdKREMASTIdAPESO EKFONITIKON",
      "dEXO EKFONITIKONdTELEIAdKENTIMATAdAPOSTROFOS",
      "dAPOSTROFOS DIPLIdSYNEVMAdTHITAdOLIGON ARCHAION",
      "dGORGON ARCHAIONdPSILONdCHAMILONdVATHYdISON ARCHAION",
      "dKENTIMA ARCHAIONdKENTIMATA ARCHAIONdSAXIMATA",
      "dPARICHONdSTAVROS APODEXIAdOXEIAI ARCHAIONdVAREIAI ",
      "ARCHAIONdAPODERMA ARCHAIONdAPOTHEMAdKLASMAdREVMA",
      "dPIASMA ARCHAIONdTINAGMAdANATRICHISMAdSEISMAdSYNAGMA ",
      "ARCHAIONeMETA STAVROUdOYRANISMA ARCHAIONdTHEMAdLEMOI",
      "dDYOdTRIAdTESSERAdKRATIMATAdAPESO EXO NEOdFTHORA ",
      "ARCHAIONdIMIFTHORAdTROMIKON ARCHAIONdKATAVA TROMIKON",
      "dPELASTONdPSIFISTONdKONTEVMAdCHOREVMA ARCHAION",
      "dRAPISMAdPARAKALESMA ARCHAIONdPARAKLITIKI ARCHAION",
      "dICHADINdNANAdPETASMAdKONTEVMA ALLOdTROMIKON ALLO",
      "dSTRAGGISMATAdGRONTHISMATAdISON NEOdOLIGON NEOdOXEIA ",
      "NEOdPETASTIdKOUFISMAdPETASTOKOUFISMAdKRATIMOKOUFISMA",
      "dPELASTON NEOdKENTIMATA NEO ANOdKENTIMA NEO ANO",
      "dYPSILIdAPOSTROFOS NEOdAPOSTROFOI SYNDESMOS NEO",
      "dYPORROIdKRATIMOYPORROONdELAFRONdCHAMILIdMIKRON ISON",
      "dVAREIA NEOdPIASMA NEOdPSIFISTON NEOdOMALON",
      "dANTIKENOMAdLYGISMAdPARAKLITIKI NEOdPARAKALESMA NEO",
      "dETERON PARAKALESMAdKYLISMAdANTIKENOKYLISMAdTROMIKON ",
      "NEOdEKSTREPTONdSYNAGMA NEOdSYRMAdCHOREVMA NEO",
      "dEPEGERMAdSEISMA NEOdXIRON KLASMAdTROMIKOPSIFISTON",
      "dPSIFISTOLYGISMAdTROMIKOLYGISMAdTROMIKOPARAKALESMA",
      "dPSIFISTOPARAKALESMAdTROMIKOSYNAGMAdPSIFISTOSYNAGMA",
      "dGORGOSYNTHETONdARGOSYNTHETONdETERON ARGOSYNTHETON",
      "dOYRANISMA NEOdTHEMATISMOS ESOeEXOdTHEMA APLOUNdTHES ",
      "KAI APOTHESdKATAVASMAdENDOFONONdYFEN KATOeANOdSTAVROS",
      "dKLASMA ANOdDIPLI ARCHAIONdKRATIMA ARCHAIONeALLOeNEO",
      "dAPODERMA NEOdAPLIdDIPLIdTRIPLIdTETRAPLIdKORONIS",
      "dLEIMMA ENOS CHRONOUeDYO CHRONONeTRION CHRONON",
      "eTESSARON CHRONONeIMISEOS CHRONOUdGORGON NEO ANO",
      "ePARESTIGMENON ARISTERAfDEXIAdDIGORGONdDIGORGON ",
      "PARESTIGMENON ARISTERA KATOgANOfDEXIAdTRIGORGONdARGON",
      "dIMIDIARGONdDIARGONdAGOGI POLI ARGIeARGOTERIeARGI",
      "eMETRIAeMESIeGORGIeGORGOTERIePOLI GORGIdMARTYRIA ",
      "PROTOS ICHOSeALLI PROTOS ICHOSeDEYTEROS ICHOSeALLI ",
      "DEYTEROS ICHOSeTRITOS ICHOSeTRIFONIASeTETARTOS ICHOS",
      "fLEGETOS ICHOSeLEGETOS ICHOSePLAGIOS ICHOSdISAKIA ",
      "TELOUS ICHIMATOSdAPOSTROFOI TELOUS ICHIMATOS",
      "dFANEROSIS TETRAFONIASeMONOFONIASeDIFONIASdMARTYRIA ",
      "VARYS ICHOSePROTOVARYS ICHOSePLAGIOS TETARTOS ICHOS",
      "dGORTHMIKON N APLOUNfDIPLOUNdENARXIS KAI FTHORA VOU",
      "dIMIFONONdIMIFTHORONdFTHORA ARCHAION DEYTEROU ICHOU",
      "eDIATONIKI PAfNANAeNAOS ICHOSeDIATONIKI DIeSKLIRON ",
      "DIATONON DIeDIATONIKI KEfZOfNI KATOgANOeMALAKON ",
      "CHROMA DIFONIASgMONOFONIASdFHTORA SKLIRON CHROMA ",
      "VASISdFTHORA SKLIRON CHROMA SYNAFIeNENANOdCHROA ZYGOS",
      "eKLITONeSPATHIdFTHORA I YFESIS TETARTIMORION",
      "eENARMONIOS ANTIFONIAdYFESIS TRITIMORIONdDIESIS ",
      "TRITIMORIONeTETARTIMORIONeAPLI DYO DODEKATA",
      "eMONOGRAMMOS TESSERA DODEKATAeDIGRAMMOS EX DODEKATA",
      "eTRIGRAMMOS OKTO DODEKATAdYFESIS APLI DYO DODEKATA",
      "eMONOGRAMMOS TESSERA DODEKATAeDIGRAMMOS EX DODEKATA",
      "eTRIGRAMMOS OKTO DODEKATAdGENIKI DIESISeYFESIS",
      "dDIASTOLI APLI MIKRIfMEGALIeDIPLIeTHESEOSdSIMANSIS ",
      "THESEOSeTHESEOS DISIMOUfTRISIMOUfTETRASIMOUeARSEOS",
      "eARSEOS DISIMOUfTRISIMOUfTETRASIMOUdDIGRAMMA GG",
      "dDIFTOGGOS OUdSTIGMAdARKTIKO PAeVOUeGAeDIeKEeZOeNI",
      "dKENTIMATA NEO MESOdKENTIMA NEO MESOdKENTIMATA NEO ",
      "KATOdKENTIMA NEO KATOdKLASMA KATOdGORGON NEO KATO"]⟩,
    ⟨0x1D100, ["aMUSICAL SYMBOL SINGLE BARLINEcDOUBLE ",
      "BARLINEcFINAL BARLINEcREVERSE FINAL BARLINEcDASHED ",
      "BARLINEcSHORT BARLINEcLEFT REPEAT SIGNcRIGHT REPEAT ",
      "SIGNcREPEAT DOTScDAL SEGNOcDA CAPOcSEGNOcCODA",
      "cREPEATED FIGURE-1e2e3cFERMATAcFERMATA BELOWcBREATH ",
      "MARKcCAESURAcBRACEcBRACKETcONE-LINE STAFFcTWO-LINE ",
      "STAFFcTHREE-LINE STAFFcFOUR-LINE STAFFcFIVE-LINE ",
      "STAFFcSIX-LINE STAFFdSTRING FRETBOARDcFOUR-STRING ",
      "FRETBOARDcG CLEFdCLEF OTTAVA ALTAfBASSAcC CLEFcF CLEF",
      "dCLEF OTTAVA ALTAfBASSAcDRUM CLEF-1e2"]⟩,
    ⟨0x1D129, ["aMUSICAL SYMBOL MULTIPLE MEASURE REST",
      "cDOUBLE SHARPdFLATcFLAT UPdDOWNcNATURAL UPdDOWN",
      "cSHARP UPdDOWNcQUARTER TONE SHARPeFLATcCOMMON TIME",
      "cCUT TIMEcOTTAVA ALTAdBASSAcQUINDICESIMA ALTAdBASSA",
      "cMULTI RESTcWHOLE RESTcHALF RESTcQUARTER RESTcEIGHTH ",
      "RESTcSIXTEENTH RESTcTHIRTY-SECOND RESTcSIXTY-FOURTH ",
      "RESTcONE HUNDRED TWENTY-EIGHTH RESTcX NOTEHEADcPLUS ",
      "NOTEHEADcCIRCLE X NOTEHEADcSQUARE NOTEHEAD WHITE",
      "eBLACKcTRIANGLE NOTEHEAD UP WHITEfBLACKeLEFT WHITE",
      "fBLACKeRIGHT WHITEfBLACKeDOWN WHITEfBLACKeUP RIGHT ",
      "WHITEgBLACKcMOON NOTEHEAD WHITEeBLACKcTRIANGLE-ROUND ",
      "NOTEHEAD DOWN WHITEgBLACKcPARENTHESIS NOTEHEADcVOID ",
      "NOTEHEADcNOTEHEAD BLACKcNULL NOTEHEADcCLUSTER ",
      "NOTEHEAD WHITEeBLACKcBREVEcWHOLE NOTEcHALF NOTE",
      "cQUARTER NOTEcEIGHTH NOTEcSIXTEENTH NOTEcTHIRTY-",
      "SECOND NOTEcSIXTY-FOURTH NOTEcONE HUNDRED TWENTY-",
      "EIGHTH NOTEcCOMBINING STEMdSPRECHGESANG STEMdTREMOLO-",
      "1e2e3cFINGERED TREMOLO-1e2e3cCOMBINING AUGMENTATION ",
      "DOTdFLAG-1e2e3e4e5cBEGIN BEAMcEND BEAMcBEGIN TIEcEND ",
      "TIEcBEGIN SLURcEND SLURcBEGIN PHRASEcEND PHRASE",
      "cCOMBINING ACCENTdSTACCATOdTENUTOdSTACCATISSIMO",
      "dMARCATOdMARCATO-STACCATOdACCENT-STACCATOdLOURE",
      "cARPEGGIATO UPdDOWNcCOMBINING DOITdRIPdFLIPdSMEAR",
      "dBENDdDOUBLE TONGUEdTRIPLE TONGUEcRINFORZANDOcSUBITO",
      "cZcPIANOcMEZZOcFORTEcCRESCENDOcDECRESCENDOcGRACE ",
      "NOTE SLASHeNO SLASHcTRcTURNcINVERTED TURNcTURN SLASH",
      "dUPcORNAMENT STROKE-1e2e3e4e5e6e7e8e9e10e11",
      "cHAUPTSTIMMEcNEBENSTIMMEcEND OF STIMMEcDEGREE SLASH",
      "cCOMBINING DOWN BOWdUP BOWdHARMONICdSNAP PIZZICATO",
      "cPEDAL MARKdUP MARKcHALF PEDAL MARKcGLISSANDO UPdDOWN",
      "cWITH FINGERNAILScDAMPcDAMP ALLcMAXIMAcLONGAcBREVIS",
      "cSEMIBREVIS WHITEdBLACKcMINIMAcMINIMA BLACK",
      "cSEMIMINIMA WHITEdBLACKcFUSA WHITEdBLACKcLONGA ",
      "PERFECTA RESTdIMPERFECTA RESTcBREVIS RESTcSEMIBREVIS ",
      "RESTcMINIMA RESTcSEMIMINIMA RESTcTEMPUS PERFECTUM ",
      "CUM PROLATIONE PERFECTAgIMPERFECTAgPERFECTA ",
      "DIMINUTION-1dIMPERFECTUM CUM PROLATIONE PERFECTA",
      "gIMPERFECTAgIMPERFECTA DIMINUTION-1i2i3cCROIX",
      "cGREGORIAN C CLEFdF CLEFcSQUARE BcVIRGAcPODATUS",
      "cCLIVIScSCANDICUScCLIMACUScTORCULUScPORRECTUS",
      "cPORRECTUS FLEXUScSCANDICUS FLEXUScTORCULUS RESUPINUS",
      "cPES SUBPUNCTIScKIEVAN C CLEFdEND OF PIECEdFINAL NOTE",
      "dRECITATIVE MARKdWHOLE NOTEdHALF NOTEdQUARTER NOTE ",
      "STEM DOWNgUPdEIGHTH NOTE STEM DOWNgUPdFLAT SIGNcSORI",
      "cKORON"]⟩,
    ⟨0x1D200, ["aGREEK VOCAL NOTATION SYMBOL-1e2e3e4e5e6e7e8",
      "e9e10e11e12e13e14e15e16e17e18e19e20e21e22e23e24e50e51",
      "e52e53e54bINSTRUMENTAL NOTATION SYMBOL-1e2e4e5e7e8e11",
      "e12e13e14e17e18e19e23e24e25e26e27e29e30e32e36e37e38",
      "e39e40e42e43e45e47e48e49e50e51e52e53e54aCOMBINING ",
      "GREEK MUSICAL TRISEMEdTETRASEMEdPENTASEMEaGREEK ",
      "MUSICAL LEIMMA"]⟩,
    ⟨0x1D2C0, ["aKAKTOVIK NUMERAL ZEROcONEcTWOcTHREEcFOUR",
      "cFIVEcSIXcSEVENcEIGHTcNINEcTENcELEVENcTWELVEcTHIRTEEN",
      "cFOURTEENcFIFTEENcSIXTEENcSEVENTEENcEIGHTEENcNINETEEN"]⟩,
    ⟨0x1D2E0, ["aMAYAN NUMERAL ZEROcONEcTWOcTHREEcFOURcFIVE",
      "cSIXcSEVENcEIGHTcNINEcTENcELEVENcTWELVEcTHIRTEEN",
      "cFOURTEENcFIFTEENcSIXTEENcSEVENTEENcEIGHTEENcNINETEEN"]⟩,
    ⟨0x1D300, ["aMONOGRAM FOR EARTHaDIGRAM FOR HEAVENLY ",
      "EARTHcHUMAN EARTHcEARTHLY HEAVENdHUMANcEARTH",
      "aTETRAGRAM FOR CENTREcFULL CIRCLEcMIREDcBARRIER",
      "cKEEPING SMALLcCONTRARIETYcASCENTcOPPOSITION",
      "cBRANCHING OUTcDEFECTIVENESS OR DISTORTIONcDIVERGENCE",
      "cYOUTHFULNESScINCREASEcPENETRATIONcREACHcCONTACT",
      "cHOLDING BACKcWAITINGcFOLLOWINGcADVANCEcRELEASE",
      "cRESISTANCEcEASEcJOYcCONTENTIONcENDEAVOURcDUTIES",
      "cCHANGEcDECISIVENESScBOLD RESOLUTIONcPACKINGcLEGION",
      "cCLOSENESScKINSHIPcGATHERINGcSTRENGTHcPURITYcFULLNESS",
      "cRESIDENCEcLAW OR MODELcRESPONSEcGOING TO MEET",
      "cENCOUNTERScSTOVEcGREATNESScENLARGEMENTcPATTERN",
      "cRITUALcFLIGHTcVASTNESS OR WASTINGcCONSTANCYcMEASURE",
      "cETERNITYcUNITYcDIMINISHMENTcCLOSED MOUTHcGUARDEDNESS",
      "cGATHERING INcMASSINGcACCUMULATIONcEMBELLISHMENT",
      "cDOUBTcWATCHcSINKINGcINNERcDEPARTUREcDARKENING",
      "cDIMMINGcEXHAUSTIONcSEVERANCEcSTOPPAGEcHARDNESS",
      "cCOMPLETIONcCLOSUREcFAILUREcAGGRAVATIONcCOMPLIANCE",
      "cON THE VERGEcDIFFICULTIEScLABOURINGcFOSTERING"]⟩,
    ⟨0x1D360, ["aCOUNTING ROD UNIT DIGIT ONEeTWOeTHREEeFOUR",
      "eFIVEeSIXeSEVENeEIGHTeNINEcTENS DIGIT ONEeTWOeTHREE",
      "eFOUReFIVEeSIXeSEVENeEIGHTeNINEaIDEOGRAPHIC TALLY ",
      "MARK ONEdTWOdTHREEdFOURdFIVEaTALLY MARK ONEcFIVE"]⟩,
    ⟨0x1D400, ["aMATHEMATICAL BOLD CAPITAL AdBdCdDdEdFdGdHdI",
      "dJdKdLdMdNdOdPdQdRdSdTdUdVdWdXdYdZcSMALL AdBdCdDdEdF",
      "dGdHdIdJdKdLdMdNdOdPdQdRdSdTdUdVdWdXdYdZbITALIC ",
      "CAPITAL AdBdCdDdEdFdGdHdIdJdKdLdMdNdOdPdQdRdSdTdUdVdW",
      "dXdYdZcSMALL AdBdCdDdEdFdG"]⟩,
    ⟨0x1D456, ["aMATHEMATICAL ITALIC SMALL IdJdKdLdMdNdOdPdQ",
      "dRdSdTdUdVdWdXdYdZbBOLD ITALIC CAPITAL AeBeCeDeEeFeG",
      "eHeIeJeKeLeMeNeOePeQeReSeTeUeVeWeXeYeZdSMALL AeBeCeD",
      "eEeFeGeHeIeJeKeLeMeNeOePeQeReSeTeUeVeWeXeYeZbSCRIPT ",
      "CAPITAL A"]⟩,
    ⟨0x1D49E, ["aMATHEMATICAL SCRIPT CAPITAL CdD"]⟩,
    ⟨0x1D4A2, ["aMATHEMATICAL SCRIPT CAPITAL G"]⟩,
    ⟨0x1D4A5, ["aMATHEMATICAL SCRIPT CAPITAL JdK"]⟩,
    ⟨0x1D4A9, ["aMATHEMATICAL SCRIPT CAPITAL NdOdPdQ"]⟩,
    ⟨0x1D4AE, ["aMATHEMATICAL SCRIPT CAPITAL SdTdUdVdWdXdYdZ",
      "cSMALL AdBdCdD"]⟩,
    ⟨0x1D4BB, ["aMATHEMATICAL SCRIPT SMALL F"]⟩,
    ⟨0x1D4BD, ["aMATHEMATICAL SCRIPT SMALL HdIdJdKdLdMdN"]⟩,
    ⟨0x1D4C5, ["aMATHEMATICAL SCRIPT SMALL PdQdRdSdTdUdVdWdX",
      "dYdZbBOLD SCRIPT CAPITAL AeBeCeDeEeFeGeHeIeJeKeLeMeN",
      "eOePeQeReSeTeUeVeWeXeYeZdSMALL AeBeCeDeEeFeGeHeIeJeK",
      "eLeMeNeOePeQeReSeTeUeVeWeXeYeZbFRAKTUR CAPITAL AdB"]⟩,
    ⟨0x1D507, ["aMATHEMATICAL FRAKTUR CAPITAL DdEdFdG"]⟩,
    ⟨0x1D50D, ["aMATHEMATICAL FRAKTUR CAPITAL JdKdLdMdNdOdP",
      "dQ"]⟩,
    ⟨0x1D516, ["aMATHEMATICAL FRAKTUR CAPITAL SdTdUdVdWdXdY"]⟩,
    ⟨0x1D51E, ["aMATHEMATICAL FRAKTUR SMALL AdBdCdDdEdFdGdH",
      "dIdJdKdLdMdNdOdPdQdRdSdTdUdVdWdXdYdZbDOUBLE-STRUCK ",
      "CAPITAL AeB"]⟩,
    ⟨0x1D53B, ["aMATHEMATICAL DOUBLE-STRUCK CAPITAL DeEeFeG"]⟩,
    ⟨0x1D540, ["aMATHEMATICAL DOUBLE-STRUCK CAPITAL IeJeKeL",
      "eM"]⟩,
    ⟨0x1D546, ["aMATHEMATICAL DOUBLE-STRUCK CAPITAL O"]⟩,
    ⟨0x1D54A, ["aMATHEMATICAL DOUBLE-STRUCK CAPITAL SeTeUeV",
      "eWeXeY"]⟩,
    ⟨0x1D552, ["aMATHEMATICAL DOUBLE-STRUCK SMALL AeBeCeDeE",
      "eFeGeHeIeJeKeLeMeNeOePeQeReSeTeUeVeWeXeYeZbBOLD ",
      "FRAKTUR CAPITAL AeBeCeDeEeFeGeHeIeJeKeLeMeNeOePeQeReS",
      "eTeUeVeWeXeYeZdSMALL AeBeCeDeEeFeGeHeIeJeKeLeMeNeOeP",
      "eQeReSeTeUeVeWeXeYeZbSANS-SERIF CAPITAL AeBeCeDeEeFeG",
      "eHeIeJeKeLeMeNeOePeQeReSeTeUeVeWeXeYeZdSMALL AeBeCeD",
      "eEeFeGeHeIeJeKeLeMeNeOePeQeReSeTeUeVeWeXeYeZdBOLD ",
      "CAPITAL AfBfCfDfEfFfGfHfIfJfKfLfMfNfOfPfQfRfSfTfUfVfW",
      "fXfYfZeSMALL AfBfCfDfEfFfGfHfIfJfKfLfMfNfOfPfQfRfSfT",
      "fUfVfWfXfYfZdITALIC CAPITAL AfBfCfDfEfFfGfHfIfJfKfLfM",
      "fNfOfPfQfRfSfTfUfVfWfXfYfZeSMALL AfBfCfDfEfFfGfHfIfJ",
      "fKfLfMfNfOfPfQfRfSfTfUfVfWfXfYfZdBOLD ITALIC CAPITAL ",
      "AgBgCgDgEgFgGgHgIgJgKgLgMgNgOgPgQgRgSgTgUgVgWgXgYgZ",
      "fSMALL AgBgCgDgEgFgGgHgIgJgKgLgMgNgOgPgQgRgSgTgUgVgW",
      "gXgYgZbMONOSPACE CAPITAL AdBdCdDdEdFdGdHdIdJdKdLdMdN",
      "dOdPdQdRdSdTdUdVdWdXdYdZcSMALL AdBdCdDdEdFdGdHdIdJdK",
      "dLdMdNdOdPdQdRdSdTdUdVdWdXdYdZbITALIC SMALL DOTLESS I",
      "eJ"]⟩,
    ⟨0x1D6A8, ["aMATHEMATICAL BOLD CAPITAL ALPHAdBETAdGAMMA",
      "dDELTAdEPSILONdZETAdETAdTHETAdIOTAdKAPPAdLAMDAdMUdNU",
      "dXIdOMICRONdPIdRHOdTHETA SYMBOLdSIGMAdTAUdUPSILONdPHI",
      "dCHIdPSIdOMEGAcNABLAcSMALL ALPHAdBETAdGAMMAdDELTA",
      "dEPSILONdZETAdETAdTHETAdIOTAdKAPPAdLAMDAdMUdNUdXI",
      "dOMICRONdPIdRHOdFINAL SIGMAdSIGMAdTAUdUPSILONdPHIdCHI",
      "dPSIdOMEGAcPARTIAL DIFFERENTIALcEPSILON SYMBOLcTHETA ",
      "SYMBOLcKAPPA SYMBOLcPHI SYMBOLcRHO SYMBOLcPI SYMBOL",
      "bITALIC CAPITAL ALPHAdBETAdGAMMAdDELTAdEPSILONdZETA",
      "dETAdTHETAdIOTAdKAPPAdLAMDAdMUdNUdXIdOMICRONdPIdRHO",
      "dTHETA SYMBOLdSIGMAdTAUdUPSILONdPHIdCHIdPSIdOMEGA",
      "cNABLAcSMALL ALPHAdBETAdGAMMAdDELTAdEPSILONdZETAdETA",
      "dTHETAdIOTAdKAPPAdLAMDAdMUdNUdXIdOMICRONdPIdRHO",
      "dFINAL SIGMAdSIGMAdTAUdUPSILONdPHIdCHIdPSIdOMEGA",
      "cPARTIAL DIFFERENTIALcEPSILON SYMBOLcTHETA SYMBOL",
      "cKAPPA SYMBOLcPHI SYMBOLcRHO SYMBOLcPI SYMBOLbBOLD ",
      "ITALIC CAPITAL ALPHAeBETAeGAMMAeDELTAeEPSILONeZETA",
      "eETAeTHETAeIOTAeKAPPAeLAMDAeMUeNUeXIeOMICRONePIeRHO",
      "eTHETA SYMBOLeSIGMAeTAUeUPSILONePHIeCHIePSIeOMEGA",
      "dNABLAdSMALL ALPHAeBETAeGAMMAeDELTAeEPSILONeZETAeETA",
      "eTHETAeIOTAeKAPPAeLAMDAeMUeNUeXIeOMICRONePIeRHO",
      "eFINAL SIGMAeSIGMAeTAUeUPSILONePHIeCHIePSIeOMEGA",
      "dPARTIAL DIFFERENTIALdEPSILON SYMBOLdTHETA SYMBOL",
      "dKAPPA SYMBOLdPHI SYMBOLdRHO SYMBOLdPI SYMBOLbSANS-",
      "SERIF BOLD CAPITAL ALPHAfBETAfGAMMAfDELTAfEPSILON",
      "fZETAfETAfTHETAfIOTAfKAPPAfLAMDAfMUfNUfXIfOMICRONfPI",
      "fRHOfTHETA SYMBOLfSIGMAfTAUfUPSILONfPHIfCHIfPSIfOMEGA",
      "eNABLAeSMALL ALPHAfBETAfGAMMAfDELTAfEPSILONfZETAfETA",
      "fTHETAfIOTAfKAPPAfLAMDAfMUfNUfXIfOMICRONfPIfRHO",
      "fFINAL SIGMAfSIGMAfTAUfUPSILONfPHIfCHIfPSIfOMEGA",
      "ePARTIAL DIFFERENTIALeEPSILON SYMBOLeTHETA SYMBOL",
      "eKAPPA SYMBOLePHI SYMBOLeRHO SYMBOLePI SYMBOLeITALIC ",
      "CAPITAL ALPHAgBETAgGAMMAgDELTAgEPSILONgZETAgETAgTHETA",
      "gIOTAgKAPPAgLAMDAgMUgNUgXIgOMICRONgPIgRHOgTHETA ",
      "SYMBOLgSIGMAgTAUgUPSILONgPHIgCHIgPSIgOMEGAfNABLA",
      "fSMALL ALPHAgBETAgGAMMAgDELTAgEPSILONgZETAgETAgTHETA",
      "gIOTAgKAPPAgLAMDAgMUgNUgXIgOMICRONgPIgRHOgFINAL SIGMA",
      "gSIGMAgTAUgUPSILONgPHIgCHIgPSIgOMEGAfPARTIAL ",
      "DIFFERENTIALfEPSILON SYMBOLfTHETA SYMBOLfKAPPA SYMBOL",
      "fPHI SYMBOLfRHO SYMBOLfPI SYMBOLbBOLD CAPITAL DIGAMMA",
      "cSMALL DIGAMMA"]⟩,
    ⟨0x1D7CE, ["aMATHEMATICAL BOLD DIGIT ZEROdONEdTWOdTHREE",
      "dFOURdFIVEdSIXdSEVENdEIGHTdNINEbDOUBLE-STRUCK DIGIT ",
      "ZEROeONEeTWOeTHREEeFOUReFIVEeSIXeSEVENeEIGHTeNINE",
      "bSANS-SERIF DIGIT ZEROeONEeTWOeTHREEeFOUReFIVEeSIX",
      "eSEVENeEIGHTeNINEdBOLD DIGIT ZEROfONEfTWOfTHREEfFOUR",
      "fFIVEfSIXfSEVENfEIGHTfNINEbMONOSPACE DIGIT ZEROdONE",
      "dTWOdTHREEdFOURdFIVEdSIXdSEVENdEIGHTdNINE",
      "aSIGNWRITING HAND-FIST INDEXcCIRCLE INDEXcCUP INDEX",
      "cOVAL INDEXcHINGE INDEXcANGLE INDEXcFIST INDEX BENT",
      "cCIRCLE INDEX BENTcFIST THUMB UNDER INDEX BENTdINDEX ",
      "RAISED KNUCKLEeCUPPEDeHINGEDeHINGED LOWcCIRCLE INDEX ",
      "HINGEcFIST INDEX MIDDLEcCIRCLE INDEX MIDDLEcFIST ",
      "INDEX MIDDLE BENTfRAISED KNUCKLESfHINGEDeUP MIDDLE ",
      "HINGEDeHINGED MIDDLE UPeMIDDLE CONJOINEDfCONJOINED ",
      "INDEX BENTgMIDDLE BENTgCUPPEDgHINGEDfCROSSEDcCIRCLE ",
      "INDEX MIDDLE CROSSEDcFIST MIDDLE BENT OVER INDEX",
      "dINDEX BENT OVER MIDDLEeMIDDLE THUMBcCIRCLE INDEX ",
      "MIDDLE THUMBcFIST INDEX MIDDLE STRAIGHT THUMB BENT",
      "fBENT THUMB STRAIGHTfTHUMB BENTfHINGED SPREAD THUMB ",
      "SIDEeUP MIDDLE HINGED THUMB SIDEiCONJOINEDeHINGED ",
      "MIDDLE UP THUMB SIDEeMIDDLE UP SPREAD THUMB FORWARD",
      "fTHUMB CUPPEDgCIRCLEDgHOOKEDgHINGEDdTHUMB BETWEEN ",
      "INDEX MIDDLE STRAIGHTdINDEX MIDDLE CONJOINED THUMB ",
      "SIDEhSIDE CONJOINEDiBENTdMIDDLE THUMB HOOKED INDEX UP",
      "dINDEX THUMB HOOKED MIDDLE UPeMIDDLE CONJOINED ",
      "HINGED THUMB SIDEfCROSSED THUMB SIDEfCONJOINED THUMB ",
      "FORWARDgCUPPED THUMB FORWARDdMIDDLE THUMB CUPPED ",
      "INDEX UPdINDEX THUMB CUPPED MIDDLE UPdMIDDLE THUMB ",
      "CIRCLED INDEX UPhHINGEDdINDEX THUMB ANGLED OUT ",
      "MIDDLE UPgIN MIDDLE UPfCIRCLED MIDDLE UPeMIDDLE ",
      "THUMB CONJOINED HINGEDgANGLED OUTgANGLEDdMIDDLE ",
      "THUMB ANGLED OUT INDEX UPiCROSSEDgINDEX UPdINDEX ",
      "THUMB HOOKED MIDDLE HINGEDcFLAT FOUR FINGERSeFINGERS ",
      "BENTfHINGEDfCONJOINEDfCONJOINED SPLITcCLAW FOUR ",
      "FINGERS CONJOINEDcFIST FOUR FINGERS CONJOINED BENT",
      "cHINGE FOUR FINGERS CONJOINEDcFLAT FIVE FINGERS ",
      "SPREADdHEEL FIVE FINGERS SPREADdFIVE FINGERS SPREAD ",
      "FOUR BENTdHEEL FIVE FINGERS SPREAD FOUR BENTdFIVE ",
      "FINGERS SPREAD BENTdHEEL FIVE FINGERS SPREAD BENT",
      "dFIVE FINGERS SPREAD THUMB FORWARDcCUP FIVE FINGERS ",
      "SPREADfSPREAD OPENcHINGE FIVE FINGERS SPREAD OPEN",
      "cOVAL FIVE FINGERS SPREADcFLAT FIVE FINGERS SPREAD ",
      "HINGEDgHINGED THUMB SIDEhNO THUMBcFLATcFLAT BETWEEN ",
      "PALM FACINGSdHEELdTHUMB SIDEdHEEL THUMB SIDEdTHUMB ",
      "BENTeFORWARDdSPLIT INDEX THUMB SIDEeCENTREeCENTRE ",
      "THUMB SIDEgSIDE BENTeLITTLEcCLAWcCLAW THUMB SIDEdNO ",
      "THUMBdTHUMB FORWARDcHOOK CURLICUEcHOOKcCUP OPENcCUP",
      "cCUP OPEN THUMB SIDEdTHUMB SIDEdOPEN NO THUMBdNO ",
      "THUMBdOPEN THUMB FORWARDdTHUMB FORWARDcCURLICUE OPEN",
      "cCURLICUEcCIRCLEcOVALcOVAL THUMB SIDEdNO THUMBdTHUMB ",
      "FORWARDcHINGE OPENdOPEN THUMB FORWARDcHINGEcHINGE ",
      "SMALLdOPEN THUMB SIDEdTHUMB SIDEdOPEN NO THUMBdNO ",
      "THUMBdTHUMB SIDE TOUCHING INDEXeBETWEEN MIDDLE RING",
      "cANGLEcFIST INDEX MIDDLE RINGcCIRCLE INDEX MIDDLE ",
      "RINGcHINGE INDEX MIDDLE RINGcANGLE INDEX MIDDLE RING",
      "cHINGE LITTLEcFIST INDEX MIDDLE RING BENTgCONJOINED",
      "cHINGE INDEX MIDDLE RING CONJOINEDcFIST LITTLE DOWN",
      "eDOWN RIPPLE STRAIGHTgCURVEDfOTHERS CIRCLEDeUPdTHUMB ",
      "UNDER LITTLE UPcCIRCLE LITTLE UPcOVAL LITTLE UP",
      "cANGLE LITTLE UPcFIST LITTLE RAISED KNUCKLEeBENT",
      "eTOUCHES THUMBeTHUMBcHINGE LITTLE THUMBcFIST LITTLE ",
      "INDEX THUMBcHINGE LITTLE INDEX THUMBcANGLE LITTLE ",
      "INDEX THUMB INDEX THUMB OUThTHUMBcFIST LITTLE INDEX",
      "cCIRCLE LITTLE INDEXcHINGE LITTLE INDEXcANGLE LITTLE ",
      "INDEXcFIST INDEX MIDDLE LITTLEcCIRCLE INDEX MIDDLE ",
      "LITTLEcHINGE INDEX MIDDLE LITTLEdRINGcANGLE INDEX ",
      "MIDDLE LITTLEcFIST INDEX MIDDLE CROSS LITTLEcCIRCLE ",
      "INDEX MIDDLE CROSS LITTLEcFIST RING DOWNcHINGE RING ",
      "DOWN INDEX THUMB HOOK MIDDLEcANGLE RING DOWN MIDDLE ",
      "THUMB INDEX CROSScFIST RING UPeRAISED KNUCKLEeLITTLE",
      "cCIRCLE RING LITTLEcOVAL RING LITTLEcANGLE RING ",
      "LITTLEcFIST RING MIDDLEeMIDDLE CONJOINEDfRAISED ",
      "KNUCKLESeINDEXeTHUMBcHOOK RING THUMBcFIST INDEX RING ",
      "LITTLEcCIRCLE INDEX RING LITTLEcCURLICUE INDEX RING ",
      "LITTLE ONcHOOK INDEX RING LITTLE OUTgINgUNDERcCUP ",
      "INDEX RING LITTLEcHINGE INDEX RING LITTLEcANGLE ",
      "INDEX RING LITTLE OUTfLITTLEcFIST MIDDLE DOWNcHINGE ",
      "MIDDLEcFIST MIDDLE UPcCIRCLE MIDDLE UPcFIST MIDDLE ",
      "RAISED KNUCKLEeUP THUMB SIDEcHOOK MIDDLE THUMBcFIST ",
      "MIDDLE THUMB LITTLEeLITTLEeRING LITTLEcCIRCLE MIDDLE ",
      "RING LITTLEcCURLICUE MIDDLE RING LITTLE ONcCUP ",
      "MIDDLE RING LITTLEcHINGE MIDDLE RING LITTLEcANGLE ",
      "MIDDLE RING LITTLE OUTgINfLITTLEcCIRCLE MIDDLE RING ",
      "LITTLE BENTcCLAW MIDDLE RING LITTLE CONJOINED",
      "gCONJOINED SIDEcHOOK MIDDLE RING LITTLE CONJOINED OUT",
      "hINgCONJOINEDcHINGE INDEX HINGEDcFIST INDEX THUMB ",
      "SIDEcHINGE INDEX THUMB SIDEcFIST INDEX THUMB SIDE ",
      "THUMB DIAGONALhCONJOINEDhBENTgINDEX BENTgBOTH BENT",
      "gINDEX HINGEfFORWARD INDEX STRAIGHThBENTfHOOK",
      "fCURLICUEfCURVE THUMB INSIDEcCLAW INDEX THUMB CURVE ",
      "THUMB INSIDEcFIST INDEX THUMB CURVE THUMB UNDER",
      "fCIRCLEcCUP INDEX THUMBeTHUMB OPENcHINGE INDEX THUMB ",
      "OPENfLARGEeTHUMBeTHUMB SMALLcANGLE INDEX THUMB OUTfIN",
      "eTHUMBcFIST THUMBdTHUMB HEELeSIDE DIAGONALfCONJOINED",
      "fBENTeFORWARDeBETWEEN INDEX MIDDLEfMIDDLE RINGfRING ",
      "LITTLEeUNDER TWO FINGERSeOVER TWO FINGERSeUNDER ",
      "THREE FINGERSfFOUR FINGERSeOVER FOUR RAISED KNUCKLES",
      "cFISTcFIST HEELbTOUCH SINGLEcMULTIPLEcBETWEENbGRASP ",
      "SINGLEcMULTIPLEcBETWEENbSTRIKE SINGLEcMULTIPLE",
      "cBETWEENbBRUSH SINGLEcMULTIPLEcBETWEENbRUB SINGLE",
      "cMULTIPLEcBETWEENbSURFACE SYMBOLScBETWEENbSQUEEZE ",
      "LARGE SINGLEcSMALL SINGLEcLARGE MULTIPLEcSMALL ",
      "MULTIPLEcSEQUENTIALbFLICK LARGE SINGLEcSMALL SINGLE",
      "cLARGE MULTIPLEcSMALL MULTIPLEcSEQUENTIALbSQUEEZE ",
      "FLICK ALTERNATINGbMOVEMENT-HINGE UP DOWN LARGEfSMALL",
      "eSEQUENTIALdDOWN SEQUENTIALdUP DOWN ALTERNATING LARGE",
      "gSMALLdSIDE TO SIDE SCISSORScWALLPLANE FINGER CONTACT",
      "cFLOORPLANE FINGER CONTACTcWALLPLANE SINGLE STRAIGHT ",
      "SMALLfMEDIUMfLARGEfLARGESTeWRIST FLEXdDOUBLE STRAIGHT",
      "eWRIST FLEXeALTERNATINGeALTERNATING WRIST FLEXdCROSS",
      "dTRIPLE STRAIGHT MOVEMENTeWRIST FLEXeALTERNATING",
      "eALTERNATING WRIST FLEXdBEND SMALLeMEDIUMeLARGE",
      "dCORNER SMALLeMEDIUMeLARGEeROTATIONdCHECK SMALL",
      "eMEDIUMeLARGEdBOX SMALLeMEDIUMeLARGEdZIGZAG SMALL",
      "eMEDIUMeLARGEdPEAKS SMALLeMEDIUMeLARGEbTRAVEL-",
      "WALLPLANE ROTATION-WALLPLANE SINGLEfDOUBLE",
      "fALTERNATINGeFLOORPLANE SINGLEfDOUBLEfALTERNATING",
      "dSHAKINGdARM SPIRAL SINGLEfDOUBLEfTRIPLEbMOVEMENT-",
      "DIAGONAL AWAY SMALLeMEDIUMeLARGEeLARGESTdTOWARDS ",
      "SMALLeMEDIUMeLARGEeLARGESTdBETWEEN AWAY SMALLfMEDIUM",
      "fLARGEfLARGESTeTOWARDS SMALLfMEDIUMfLARGEfLARGEST",
      "cFLOORPLANE SINGLE STRAIGHT SMALLfMEDIUMfLARGE",
      "fLARGESTeWRIST FLEXdDOUBLE STRAIGHTeWRIST FLEX",
      "eALTERNATINGeALTERNATING WRIST FLEXdCROSSdTRIPLE ",
      "STRAIGHT MOVEMENTeWRIST FLEXeALTERNATING MOVEMENT",
      "fWRIST FLEXdBENDdCORNER SMALLeMEDIUMeLARGEdCHECKdBOX ",
      "SMALLeMEDIUMeLARGEdZIGZAG SMALLeMEDIUMeLARGEdPEAKS ",
      "SMALLeMEDIUMeLARGEbTRAVEL-FLOORPLANE ROTATION-",
      "FLOORPLANE SINGLEfDOUBLEfALTERNATINGeWALLPLANE SINGLE",
      "fDOUBLEfALTERNATINGdSHAKINGbMOVEMENT-WALLPLANE CURVE ",
      "QUARTER SMALLfMEDIUMfLARGEfLARGESTeHALF-CIRCLE SMALL",
      "gMEDIUMgLARGEgLARGESTeTHREE-QUARTER CIRCLE SMALL",
      "hMEDIUMdHUMP SMALLeMEDIUMeLARGEdLOOP SMALLeMEDIUM",
      "eLARGEeSMALL DOUBLEdWAVE CURVE DOUBLE SMALLgMEDIUM",
      "gLARGEfTRIPLE SMALLgMEDIUMgLARGEdCURVE THEN STRAIGHT",
      "dCURVED CROSS SMALLfMEDIUMbROTATION-WALLPLANE SINGLE",
      "dDOUBLEdALTERNATEbMOVEMENT-WALLPLANE SHAKINGdCURVE ",
      "HITTING FRONT WALLdHUMP HITTING FRONT WALLdLOOP ",
      "HITTING FRONT WALLdWAVE HITTING FRONT WALLbROTATION-",
      "WALLPLANE SINGLE HITTING FRONT WALLdDOUBLE HITTING ",
      "FRONT WALLdALTERNATING HITTING FRONT WALLbMOVEMENT-",
      "WALLPLANE CURVE HITTING CHESTdHUMP HITTING CHEST",
      "dLOOP HITTING CHESTdWAVE HITTING CHESTbROTATION-",
      "WALLPLANE SINGLE HITTING CHESTdDOUBLE HITTING CHEST",
      "dALTERNATING HITTING CHESTbMOVEMENT-WALLPLANE WAVE ",
      "DIAGONAL PATH SMALLgMEDIUMgLARGEcFLOORPLANE CURVE ",
      "HITTING CEILING SMALLgLARGEdHUMP HITTING CEILING ",
      "SMALL DOUBLEgLARGE DOUBLEgSMALL TRIPLEgLARGE TRIPLE",
      "dLOOP HITTING CEILING SMALL SINGLEgLARGE SINGLE",
      "gSMALL DOUBLEgLARGE DOUBLEdWAVE HITTING CEILING SMALL",
      "gLARGEbROTATION-FLOORPLANE SINGLE HITTING CEILING",
      "dDOUBLE HITTING CEILINGdALTERNATING HITTING CEILING",
      "bMOVEMENT-FLOORPLANE CURVE HITTING FLOOR SMALLgLARGE",
      "dHUMP HITTING FLOOR SMALL DOUBLEgLARGE DOUBLEgTRIPLE ",
      "SMALL TRIPLEhLARGE TRIPLEdLOOP HITTING FLOOR SMALL ",
      "SINGLEgLARGE SINGLEgSMALL DOUBLEgLARGE DOUBLEdWAVE ",
      "HITTING FLOOR SMALLgLARGEbROTATION-FLOORPLANE SINGLE ",
      "HITTING FLOORdDOUBLE HITTING FLOORdALTERNATING ",
      "HITTING FLOORbMOVEMENT-FLOORPLANE CURVE SMALLeMEDIUM",
      "eLARGEeLARGESTeCOMBINEDdHUMP SMALLdLOOP SMALLdWAVE ",
      "SNAKEeSMALLeLARGEbROTATION-FLOORPLANE SINGLEdDOUBLE",
      "dALTERNATINGbMOVEMENT-FLOORPLANE SHAKING PARALLEL",
      "cWALLPLANE ARM CIRCLE SMALL SINGLEfMEDIUM SINGLE",
      "fSMALL DOUBLEfMEDIUM DOUBLEcFLOORPLANE ARM CIRCLE ",
      "HITTING WALL SMALL SINGLEhMEDIUM SINGLEhLARGE SINGLE",
      "hSMALL DOUBLEhMEDIUM DOUBLEhLARGE DOUBLEcWALLPLANE ",
      "WRIST CIRCLE FRONT SINGLEgDOUBLEcFLOORPLANE WRIST ",
      "CIRCLE HITTING WALL SINGLEhDOUBLEcWALLPLANE FINGER ",
      "CIRCLES SINGLEfDOUBLEcFLOORPLANE FINGER CIRCLES ",
      "HITTING WALL SINGLEhDOUBLEbDYNAMIC ARROWHEAD SMALL",
      "dLARGEcFASTcSLOWcTENSEcRELAXEDcSIMULTANEOUS",
      "cSIMULTANEOUS ALTERNATINGcEVERY OTHER TIMEcGRADUAL",
      "bHEADbHEAD RIMcMOVEMENT-WALLPLANE STRAIGHTeTILT",
      "dFLOORPLANE STRAIGHTdWALLPLANE CURVEdFLOORPLANE CURVE",
      "cMOVEMENT CIRCLEbFACE DIRECTION POSITION NOSE ",
      "FORWARD TILTINGfUP OR DOWNhDOWN TILTINGbEYEBROWS ",
      "STRAIGHT UPdNEUTRALdDOWNbDREAMY EYEBROWS NEUTRAL DOWN",
      "dDOWN NEUTRALdUP NEUTRALdNEUTRAL UPbFOREHEAD NEUTRAL",
      "cCONTACTcWRINKLEDbEYES OPENcSQUEEZEDcCLOSEDbEYE ",
      "BLINK SINGLEdMULTIPLEbEYES HALF OPENcWIDE OPENcHALF ",
      "CLOSEDcWIDENING MOVEMENTbEYE WINKbEYELASHES UPcDOWN",
      "cFLUTTERINGbEYEGAZE-WALLPLANE STRAIGHTdSTRAIGHT ",
      "DOUBLEeALTERNATINGcFLOORPLANE STRAIGHTdSTRAIGHT ",
      "DOUBLEeALTERNATINGcWALLPLANE CURVEDcFLOORPLANE CURVED",
      "cWALLPLANE CIRCLINGbCHEEKS PUFFEDcNEUTRALcSUCKED",
      "bTENSE CHEEKS HIGHdMIDDLEdLOWbEARSbNOSE NEUTRAL",
      "cCONTACTcWRINKLEScWIGGLESbAIR BLOWING OUTcSUCKING IN",
      "cBLOW SMALL ROTATIONScSUCK SMALL ROTATIONSbBREATH ",
      "INHALEcEXHALEbMOUTH CLOSED NEUTRALdFORWARDdCONTACT",
      "cSMILEcSMILE WRINKLEDdOPENcFROWNcFROWN WRINKLEDdOPEN",
      "cOPEN CIRCLEdFORWARDdWRINKLEDdOVALdOVAL WRINKLEDeYAWN",
      "dRECTANGLEdRECTANGLE WRINKLEDeYAWNcKISScKISS FORWARD",
      "dWRINKLEDcTENSEcTENSE FORWARDdSUCKEDbLIPS PRESSED ",
      "TOGETHERbLIP LOWER OVER UPPERcUPPER OVER LOWERbMOUTH ",
      "CORNERScWRINKLES SINGLEdDOUBLEbTONGUE STICKING OUT ",
      "FARcLICKING LIPScTIP BETWEEN LIPSdTOUCHING INSIDE ",
      "MOUTHcINSIDE MOUTH RELAXEDcMOVES AGAINST CHEEK",
      "cCENTRE STICKING OUTdINSIDE MOUTHbTEETHbTEETH ",
      "MOVEMENTcON TONGUEdTONGUE MOVEMENTdLIPSdLIPS MOVEMENT",
      "cBITE LIPSbMOVEMENT-WALLPLANE JAWcFLOORPLANE JAWbNECK",
      "bHAIRbEXCITEMENTbSHOULDER HIP SPINEdPOSITIONS",
      "bWALLPLANE SHOULDER HIP MOVEbFLOORPLANE SHOULDER HIP ",
      "MOVEbSHOULDER TILTING FROM WAISTbTORSO-WALLPLANE ",
      "STRAIGHT STRETCHdCURVED BENDcFLOORPLANE TWISTING",
      "bUPPER BODY TILTING FROM HIP JOINTSbLIMB COMBINATION",
      "cLENGTH-1d2d3d4d5d6d7bFINGERbLOCATION-WALLPLANE SPACE",
      "cFLOORPLANE SPACEbLOCATION HEIGHTcWIDTHcDEPTHcHEAD ",
      "NECKcTORSOcLIMBS DIGITSbCOMMAbFULL STOPbSEMICOLON",
      "bCOLONbPARENTHESIS"]⟩,
    ⟨0x1DA9B, ["aSIGNWRITING FILL MODIFIER-2d3d4d5d6"]⟩,
    ⟨0x1DAA1, ["aSIGNWRITING ROTATION MODIFIER-2d3d4d5d6d7d8",
      "d9d10d11d12d13d14d15d16"]⟩,
    ⟨0x1DF00, ["aLATIN SMALL LETTER FENG DIGRAPH WITH TRILL",
      "dREVERSED SCRIPT GbLETTER SMALL CAPITAL TURNED G",
      "bSMALL LETTER REVERSED KbLETTER SMALL CAPITAL L WITH ",
      "BELTbSMALL LETTER LEZH WITH RETROFLEX HOOKdTURNED Y ",
      "WITH BELTdREVERSED ENGdTURNED R WITH LONG LEG AND ",
      "RETROFLEX HOOKdT WITH HOOK AND RETROFLEX HOOKbLETTER ",
      "RETROFLEX CLICK WITH RETROFLEX HOOKbSMALL LETTER ESH ",
      "WITH DOUBLE BARgBAR AND CURLdTURNED T WITH CURL",
      "bLETTER INVERTED GLOTTAL STOP WITH CURLcSTRETCHED C ",
      "WITH CURLcSMALL CAPITAL TURNED KbSMALL LETTER L WITH ",
      "FISHHOOKdDEZH DIGRAPH WITH PALATAL HOOKdL WITH BELT ",
      "AND PALATAL HOOKdENG WITH PALATAL HOOKdTURNED R WITH ",
      "PALATAL HOOKdR WITH FISHHOOK AND PALATAL HOOKdTESH ",
      "DIGRAPH WITH PALATAL HOOKdEZH WITH PALATAL HOOKdDEZH ",
      "DIGRAPH WITH RETROFLEX HOOKdI WITH STROKE AND ",
      "RETROFLEX HOOKdO WITH RETROFLEX HOOKdTESH DIGRAPH ",
      "WITH RETROFLEX HOOKdC WITH RETROFLEX HOOKdS WITH CURL"]⟩,
    ⟨0x1DF25, ["aLATIN SMALL LETTER D WITH MID-HEIGHT LEFT ",
      "HOOKdL WITH MID-HEIGHT LEFT HOOKdN WITH MID-HEIGHT ",
      "LEFT HOOKdR WITH MID-HEIGHT LEFT HOOKdS WITH MID-",
      "HEIGHT LEFT HOOKdT WITH MID-HEIGHT LEFT HOOK"]⟩]

end SigCheck
