import SigCheck.CharName.Run

/-
  Names of ornaments, patterns, arrows and radicals, from
  U+2B76 to U+2FFF.

  Key definitions include:
    * `CharName.shapes`
-/

namespace SigCheck

/- The runs of these names. -/
def CharName.shapes : List NameRun :=
  [⟨0x2B76, ["aNORTH WEST TRIANGLE-HEADED ARROW TO BAR",
      "bEAST TRIANGLE-HEADED ARROW TO BARaSOUTH EAST ",
      "TRIANGLE-HEADED ARROW TO BARbWEST TRIANGLE-HEADED ",
      "ARROW TO BARaLEFTWARDS TRIANGLE-HEADED ARROW WITH ",
      "DOUBLE HORIZONTAL STROKEaUPWARDS TRIANGLE-HEADED ",
      "ARROW WITH DOUBLE HORIZONTAL STROKEaRIGHTWARDS ",
      "TRIANGLE-HEADED ARROW WITH DOUBLE HORIZONTAL STROKE",
      "aDOWNWARDS TRIANGLE-HEADED ARROW WITH DOUBLE ",
      "HORIZONTAL STROKEaHORIZONTAL TAB KEYaVERTICAL TAB KEY",
      "aLEFTWARDS TRIANGLE-HEADED ARROW OVER RIGHTWARDS ",
      "TRIANGLE-HEADED ARROWaUPWARDS TRIANGLE-HEADED ARROW ",
      "LEFTWARDS OF DOWNWARDS TRIANGLE-HEADED ARROW",
      "aRIGHTWARDS TRIANGLE-HEADED ARROW OVER LEFTWARDS ",
      "TRIANGLE-HEADED ARROWaDOWNWARDS TRIANGLE-HEADED ",
      "ARROW LEFTWARDS OF UPWARDS TRIANGLE-HEADED ARROW",
      "aLEFTWARDS TRIANGLE-HEADED PAIRED ARROWSaUPWARDS ",
      "TRIANGLE-HEADED PAIRED ARROWSaRIGHTWARDS TRIANGLE-",
      "HEADED PAIRED ARROWSaDOWNWARDS TRIANGLE-HEADED ",
      "PAIRED ARROWSaLEFTWARDS BLACK CIRCLED WHITE ARROW",
      "aUPWARDS BLACK CIRCLED WHITE ARROWaRIGHTWARDS BLACK ",
      "CIRCLED WHITE ARROWaDOWNWARDS BLACK CIRCLED WHITE ",
      "ARROWaANTICLOCKWISE TRIANGLE-HEADED RIGHT U-SHAPED ",
      "ARROWdBOTTOM U-SHAPED ARROWdLEFT U-SHAPED ARROWdTOP ",
      "U-SHAPED ARROWaRETURN LEFTbRIGHTaNEWLINE LEFTbRIGHT",
      "aFOUR CORNER ARROWS CIRCLING ANTICLOCKWISE",
      "aRIGHTWARDS BLACK ARROW"]⟩,
    ⟨0x2B97, ["aSYMBOL FOR TYPE A ELECTRONICSaTHREE-D TOP-",
      "LIGHTED LEFTWARDS EQUILATERAL ARROWHEADcRIGHT-",
      "LIGHTED UPWARDS EQUILATERAL ARROWHEADcTOP-LIGHTED ",
      "RIGHTWARDS EQUILATERAL ARROWHEADcLEFT-LIGHTED ",
      "DOWNWARDS EQUILATERAL ARROWHEADaBLACK LEFTWARDS ",
      "EQUILATERAL ARROWHEADbUPWARDS EQUILATERAL ARROWHEAD",
      "bRIGHTWARDS EQUILATERAL ARROWHEADbDOWNWARDS ",
      "EQUILATERAL ARROWHEADaDOWNWARDS TRIANGLE-HEADED ",
      "ARROW WITH LONG TIP LEFTWARDShRIGHTWARDSaUPWARDS ",
      "TRIANGLE-HEADED ARROW WITH LONG TIP LEFTWARDS",
      "hRIGHTWARDSaLEFTWARDS TRIANGLE-HEADED ARROW WITH ",
      "LONG TIP UPWARDSaRIGHTWARDS TRIANGLE-HEADED ARROW ",
      "WITH LONG TIP UPWARDSaLEFTWARDS TRIANGLE-HEADED ",
      "ARROW WITH LONG TIP DOWNWARDSaRIGHTWARDS TRIANGLE-",
      "HEADED ARROW WITH LONG TIP DOWNWARDSaBLACK CURVED ",
      "DOWNWARDS AND LEFTWARDS ARROWeRIGHTWARDS ARROW",
      "cUPWARDS AND LEFTWARDS ARROWeRIGHTWARDS ARROW",
      "cLEFTWARDS AND UPWARDS ARROWcRIGHTWARDS AND UPWARDS ",
      "ARROWcLEFTWARDS AND DOWNWARDS ARROWcRIGHTWARDS AND ",
      "DOWNWARDS ARROWaRIBBON ARROW DOWN LEFTdRIGHTcUP LEFT",
      "dRIGHTcLEFT UPcRIGHT UPcLEFT DOWNcRIGHT DOWNaUPWARDS ",
      "WHITE ARROW FROM BAR WITH HORIZONTAL BARaUP ",
      "ARROWHEAD IN A RECTANGLE BOXaOVERLAPPING WHITE ",
      "SQUAREScAND BLACK SQUARESbBLACK SQUARESaBALLOT BOX ",
      "WITH LIGHT XaCIRCLED XbBOLD XaBLACK SQUARE CENTRED",
      "bDIAMOND CENTREDaTURNED BLACK PENTAGONaHORIZONTAL ",
      "BLACK OCTAGONaBLACK OCTAGONbMEDIUM UP-POINTING ",
      "TRIANGLE CENTREDcDOWN-POINTING TRIANGLE CENTREDcLEFT-",
      "POINTING TRIANGLE CENTREDcRIGHT-POINTING TRIANGLE ",
      "CENTREDaNEPTUNE FORM TWOaTOP HALF BLACK CIRCLE",
      "aBOTTOM HALF BLACK CIRCLEaLIGHT FOUR POINTED BLACK ",
      "CUSPaROTATED LIGHT FOUR POINTED BLACK CUSPaWHITE ",
      "FOUR POINTED CUSPaROTATED WHITE FOUR POINTED CUSP",
      "aSQUARE POSITION INDICATORaUNCERTAINTY SIGNaGROUP ",
      "MARKaPLUTO FORM TWOcTHREEcFOURcFIVEaTRANSPLUTO",
      "aPROSERPINAaASTRAEAaHYGIEAaPHOLUSaNESSUSaWHITE MOON ",
      "SELENAaBLACK DIAMOND ON CROSSaTRUE LIGHT MOON ARTA",
      "aCUPIDOaHADESaZEUSaKRONOSaAPOLLONaADMETOSaVULCANUS",
      "aPOSEIDONaLEFT HALF BLACK STARaRIGHT HALF BLACK STAR",
      "aSTAR WITH LEFT HALF BLACKcRIGHT HALF BLACK",
      "aLEFTWARDS TWO-HEADED ARROW WITH TRIANGLE ARROWHEADS",
      "aUPWARDS TWO-HEADED ARROW WITH TRIANGLE ARROWHEADS",
      "aRIGHTWARDS TWO-HEADED ARROW WITH TRIANGLE ARROWHEADS",
      "aDOWNWARDS TWO-HEADED ARROW WITH TRIANGLE ARROWHEADS",
      "aERIS FORM ONEcTWOaSEDNAaRUSSIAN ASTROLOGICAL SYMBOL ",
      "VIGINTILEdNOVILEdQUINTILEdBINOVILEdSENTAGONdTREDECILE",
      "aEQUALS SIGN WITH INFINITY BELOWaUNITED SYMBOL",
      "aSEPARATED SYMBOLaDOUBLED SYMBOLaPASSED SYMBOL",
      "aREVERSED RIGHT ANGLEaHELLSCHREIBER PAUSE SYMBOL",
      "aGLAGOLITIC CAPITAL LETTER AZUdBUKYdVEDEdGLAGOLI",
      "dDOBROdYESTUdZHIVETEdDZELOdZEMLJAdIZHEdINITIAL IZHEdI",
      "dDJERVIdKAKOdLJUDIJEdMYSLITEdNASHIdONUdPOKOJIdRITSI",
      "dSLOVOdTVRIDOdUKUdFRITUdHERUdOTUdPEdSHTAdTSIdCHRIVI",
      "dSHAdYERUdYERIdYATIdSPIDERY HAdYUdSMALL YUSeYUS WITH ",
      "TAILdYOdIOTATED SMALL YUSdBIG YUSdIOTATED BIG YUS",
      "dFITAdIZHITSAdSHTAPICdTROKUTASTI AdLATINATE MYSLITE",
      "dCAUDATE CHRIVIbSMALL LETTER AZUdBUKYdVEDEdGLAGOLI",
      "dDOBROdYESTUdZHIVETEdDZELOdZEMLJAdIZHEdINITIAL IZHEdI",
      "dDJERVIdKAKOdLJUDIJEdMYSLITEdNASHIdONUdPOKOJIdRITSI",
      "dSLOVOdTVRIDOdUKUdFRITUdHERUdOTUdPEdSHTAdTSIdCHRIVI",
      "dSHAdYERUdYERIdYATIdSPIDERY HAdYUdSMALL YUSeYUS WITH ",
      "TAILdYOdIOTATED SMALL YUSdBIG YUSdIOTATED BIG YUS",
      "dFITAdIZHITSAdSHTAPICdTROKUTASTI AdLATINATE MYSLITE",
      "dCAUDATE CHRIVIaLATIN CAPITAL LETTER L WITH DOUBLE ",
      "BARbSMALL LETTER L WITH DOUBLE BARbCAPITAL LETTER L ",
      "WITH MIDDLE TILDEdP WITH STROKEdR WITH TAILbSMALL ",
      "LETTER A WITH STROKEdT WITH DIAGONAL STROKEbCAPITAL ",
      "LETTER H WITH DESCENDERbSMALL LETTER H WITH DESCENDER",
      "bCAPITAL LETTER K WITH DESCENDERbSMALL LETTER K WITH ",
      "DESCENDERbCAPITAL LETTER Z WITH DESCENDERbSMALL ",
      "LETTER Z WITH DESCENDERbCAPITAL LETTER ALPHAdM WITH ",
      "HOOKdTURNED AeALPHAbSMALL LETTER V WITH RIGHT HOOK",
      "bCAPITAL LETTER W WITH HOOKbSMALL LETTER W WITH HOOK",
      "dV WITH CURLbCAPITAL LETTER HALF HbSMALL LETTER HALF ",
      "HdTAILLESS PHIdE WITH NOTCHdTURNED R WITH TAILdO ",
      "WITH LOW RING INSIDEbLETTER SMALL CAPITAL TURNED E",
      "bSUBSCRIPT SMALL LETTER JaMODIFIER LETTER CAPITAL V",
      "aLATIN CAPITAL LETTER S WITH SWASH TAILdZ WITH SWASH ",
      "TAILaCOPTIC CAPITAL LETTER ALFAbSMALL LETTER ALFA",
      "bCAPITAL LETTER VIDAbSMALL LETTER VIDAbCAPITAL ",
      "LETTER GAMMAbSMALL LETTER GAMMAbCAPITAL LETTER DALDA",
      "bSMALL LETTER DALDAbCAPITAL LETTER EIEbSMALL LETTER ",
      "EIEbCAPITAL LETTER SOUbSMALL LETTER SOUbCAPITAL ",
      "LETTER ZATAbSMALL LETTER ZATAbCAPITAL LETTER HATE",
      "bSMALL LETTER HATEbCAPITAL LETTER THETHEbSMALL ",
      "LETTER THETHEbCAPITAL LETTER IAUDAbSMALL LETTER IAUDA",
      "bCAPITAL LETTER KAPAbSMALL LETTER KAPAbCAPITAL ",
      "LETTER LAULAbSMALL LETTER LAULAbCAPITAL LETTER MI",
      "bSMALL LETTER MIbCAPITAL LETTER NIbSMALL LETTER NI",
      "bCAPITAL LETTER KSIbSMALL LETTER KSIbCAPITAL LETTER O",
      "bSMALL LETTER ObCAPITAL LETTER PIbSMALL LETTER PI",
      "bCAPITAL LETTER RObSMALL LETTER RObCAPITAL LETTER ",
      "SIMAbSMALL LETTER SIMAbCAPITAL LETTER TAUbSMALL ",
      "LETTER TAUbCAPITAL LETTER UAbSMALL LETTER UAbCAPITAL ",
      "LETTER FIbSMALL LETTER FIbCAPITAL LETTER KHIbSMALL ",
      "LETTER KHIbCAPITAL LETTER PSIbSMALL LETTER PSI",
      "bCAPITAL LETTER OOUbSMALL LETTER OOUbCAPITAL LETTER ",
      "DIALECT-P ALEFbSMALL LETTER DIALECT-P ALEFbCAPITAL ",
      "LETTER OLD COPTIC AINbSMALL LETTER OLD COPTIC AIN",
      "bCAPITAL LETTER CRYPTOGRAMMIC EIEbSMALL LETTER ",
      "CRYPTOGRAMMIC EIEbCAPITAL LETTER DIALECT-P KAPA",
      "bSMALL LETTER DIALECT-P KAPAbCAPITAL LETTER DIALECT-",
      "P NIbSMALL LETTER DIALECT-P NIbCAPITAL LETTER ",
      "CRYPTOGRAMMIC NIbSMALL LETTER CRYPTOGRAMMIC NI",
      "bCAPITAL LETTER OLD COPTIC OOUbSMALL LETTER OLD ",
      "COPTIC OOUbCAPITAL LETTER SAMPIbSMALL LETTER SAMPI",
      "bCAPITAL LETTER CROSSED SHEIbSMALL LETTER CROSSED ",
      "SHEIbCAPITAL LETTER OLD COPTIC SHEIbSMALL LETTER OLD ",
      "COPTIC SHEIbCAPITAL LETTER OLD COPTIC ESHbSMALL ",
      "LETTER OLD COPTIC ESHbCAPITAL LETTER AKHMIMIC KHEI",
      "bSMALL LETTER AKHMIMIC KHEIbCAPITAL LETTER DIALECT-P ",
      "HORIbSMALL LETTER DIALECT-P HORIbCAPITAL LETTER OLD ",
      "COPTIC HORIbSMALL LETTER OLD COPTIC HORIbCAPITAL ",
      "LETTER OLD COPTIC HAbSMALL LETTER OLD COPTIC HA",
      "bCAPITAL LETTER L-SHAPED HAbSMALL LETTER L-SHAPED HA",
      "bCAPITAL LETTER OLD COPTIC HEIbSMALL LETTER OLD ",
      "COPTIC HEIbCAPITAL LETTER OLD COPTIC HATbSMALL ",
      "LETTER OLD COPTIC HATbCAPITAL LETTER OLD COPTIC ",
      "GANGIAbSMALL LETTER OLD COPTIC GANGIAbCAPITAL LETTER ",
      "OLD COPTIC DJAbSMALL LETTER OLD COPTIC DJAbCAPITAL ",
      "LETTER OLD COPTIC SHIMAbSMALL LETTER OLD COPTIC SHIMA",
      "bCAPITAL LETTER OLD NUBIAN SHIMAbSMALL LETTER OLD ",
      "NUBIAN SHIMAbCAPITAL LETTER OLD NUBIAN NGIbSMALL ",
      "LETTER OLD NUBIAN NGIbCAPITAL LETTER OLD NUBIAN NYI",
      "bSMALL LETTER OLD NUBIAN NYIbCAPITAL LETTER OLD ",
      "NUBIAN WAUbSMALL LETTER OLD NUBIAN WAUbSYMBOL KAIcMI ",
      "ROcPI ROcSTAUROScTAU ROcKHI ROcSHIMA SIMAbCAPITAL ",
      "LETTER CRYPTOGRAMMIC SHEIbSMALL LETTER CRYPTOGRAMMIC ",
      "SHEIbCAPITAL LETTER CRYPTOGRAMMIC GANGIAbSMALL ",
      "LETTER CRYPTOGRAMMIC GANGIAbCOMBINING NI ABOVE",
      "cSPIRITUS ASPERdLENISbCAPITAL LETTER BOHAIRIC KHEI",
      "bSMALL LETTER BOHAIRIC KHEI"]⟩,
    ⟨0x2CF9, ["aCOPTIC OLD NUBIAN FULL STOPdDIRECT QUESTION ",
      "MARKdINDIRECT QUESTION MARKdVERSE DIVIDERbFRACTION ",
      "ONE HALFbFULL STOPbMORPHOLOGICAL DIVIDERaGEORGIAN ",
      "SMALL LETTER ANdBANdGANdDONdENdVINdZENdTANdINdKANdLAS",
      "dMANdNARdONdPARdZHARdRAEdSANdTARdUNdPHARdKHARdGHAN",
      "dQARdSHINdCHINdCANdJILdCILdCHARdXANdJHANdHAEdHEdHIE",
      "dWEdHARdHOE"]⟩,
    ⟨0x2D27, ["aGEORGIAN SMALL LETTER YN"]⟩,
    ⟨0x2D2D, ["aGEORGIAN SMALL LETTER AEN"]⟩,
    ⟨0x2D30, ["aTIFINAGH LETTER YAcYABcYABHcYAGcYAGHH",
      "cBERBER ACADEMY YAJcYAJcYADcYADHcYADDcYADDHcYEYcYAF",
      "cYAKcTUAREG YAKcYAKHHcYAHcBERBER ACADEMY YAHcTUAREG ",
      "YAHcYAHHcYAAcYAKHcTUAREG YAKHcYAQcTUAREG YAQcYIcYAZH",
      "cAHAGGAR YAZHcTUAREG YAZHcYALcYAMcYANcTUAREG YAGN",
      "dYANGcYAPcYUcYARcYARRcYAGHcTUAREG YAGHcAYER YAGHcYAS",
      "cYASScYASHcYATcYATHcYACHcYATTcYAVcYAWcYAYcYAZ",
      "cTAWELLEMET YAZcYAZZcYEcYO"]⟩,
    ⟨0x2D6F, ["aTIFINAGH MODIFIER LETTER LABIALIZATION MARK",
      "bSEPARATOR MARK"]⟩,
    ⟨0x2D7F, ["aTIFINAGH CONSONANT JOINERaETHIOPIC SYLLABLE ",
      "LOAcMOAcROAcSOAcSHOAcBOAcTOAcCOAcNOAcNYOAcGLOTTAL OA",
      "cZOAcDOAcDDOAcJOAcTHOAcCHOAcPHOAcPOAcGGWAcGGWIcGGWEE",
      "cGGWE"]⟩,
    ⟨0x2DA0, ["aETHIOPIC SYLLABLE SSAcSSUcSSIcSSAAcSSEEcSSE",
      "cSSO"]⟩,
    ⟨0x2DA8, ["aETHIOPIC SYLLABLE CCAcCCUcCCIcCCAAcCCEEcCCE",
      "cCCO"]⟩,
    ⟨0x2DB0, ["aETHIOPIC SYLLABLE ZZAcZZUcZZIcZZAAcZZEEcZZE",
      "cZZO"]⟩,
    ⟨0x2DB8, ["aETHIOPIC SYLLABLE CCHAcCCHUcCCHIcCCHAAcCCHEE",
      "cCCHEcCCHO"]⟩,
    ⟨0x2DC0, ["aETHIOPIC SYLLABLE QYAcQYUcQYIcQYAAcQYEEcQYE",
      "cQYO"]⟩,
    ⟨0x2DC8, ["aETHIOPIC SYLLABLE KYAcKYUcKYIcKYAAcKYEEcKYE",
      "cKYO"]⟩,
    ⟨0x2DD0, ["aETHIOPIC SYLLABLE XYAcXYUcXYIcXYAAcXYEEcXYE",
      "cXYO"]⟩,
    ⟨0x2DD8, ["aETHIOPIC SYLLABLE GYAcGYUcGYIcGYAAcGYEEcGYE",
      "cGYO"]⟩,
    ⟨0x2DE0, ["aCOMBINING CYRILLIC LETTER BEdVEdGHEdDEdZHE",
      "dZEdKAdELdEMdENdOdPEdERdESdTEdHAdTSEdCHEdSHAdSHCHA",
      "dFITAdES-TEdAdIEdDJERVdMONOGRAPH UKdYATdYUdIOTIFIED A",
      "dLITTLE YUSdBIG YUSdIOTIFIED BIG YUSaRIGHT ANGLE ",
      "SUBSTITUTION MARKERcDOTTED SUBSTITUTION MARKERaLEFT ",
      "SUBSTITUTION BRACKETaRIGHT SUBSTITUTION BRACKETaLEFT ",
      "DOTTED SUBSTITUTION BRACKETaRIGHT DOTTED ",
      "SUBSTITUTION BRACKETaRAISED INTERPOLATION MARKER",
      "bDOTTED INTERPOLATION MARKERaDOTTED TRANSPOSITION ",
      "MARKERaLEFT TRANSPOSITION BRACKETaRIGHT ",
      "TRANSPOSITION BRACKETaRAISED SQUAREaLEFT RAISED ",
      "OMISSION BRACKETaRIGHT RAISED OMISSION BRACKET",
      "aEDITORIAL CORONISaPARAGRAPHOSaFORKED PARAGRAPHOS",
      "aREVERSED FORKED PARAGRAPHOSaHYPODIASTOLEaDOTTED ",
      "OBELOSaDOWNWARDS ANCORAaUPWARDS ANCORAaDOTTED RIGHT-",
      "POINTING ANGLEaDOUBLE OBLIQUE HYPHENaINVERTED ",
      "INTERROBANGaPALM BRANCHaHYPHEN WITH DIAERESISaTILDE ",
      "WITH RING ABOVEaLEFT LOW PARAPHRASE BRACKETaRIGHT ",
      "LOW PARAPHRASE BRACKETaTILDE WITH DOT ABOVEdBELOW",
      "aLEFT VERTICAL BAR WITH QUILLaRIGHT VERTICAL BAR ",
      "WITH QUILLaTOP LEFT HALF BRACKETbRIGHT HALF BRACKET",
      "aBOTTOM LEFT HALF BRACKETbRIGHT HALF BRACKETaLEFT ",
      "SIDEWAYS U BRACKETaRIGHT SIDEWAYS U BRACKETaLEFT ",
      "DOUBLE PARENTHESISaRIGHT DOUBLE PARENTHESISaTWO DOTS ",
      "OVER ONE DOT PUNCTUATIONaONE DOT OVER TWO DOTS ",
      "PUNCTUATIONaSQUARED FOUR DOT PUNCTUATIONaFIVE DOT ",
      "MARKaREVERSED QUESTION MARKaVERTICAL TILDEaRING POINT",
      "aWORD SEPARATOR MIDDLE DOTaTURNED COMMAaRAISED DOT",
      "bCOMMAaTURNED SEMICOLONaDAGGER WITH LEFT GUARDcRIGHT ",
      "GUARDaTURNED DAGGERaTOP HALF SECTION SIGNaTWO-EM DASH",
      "aTHREE-EM DASHaSTENOGRAPHIC FULL STOPaVERTICAL SIX ",
      "DOTSaWIGGLY VERTICAL LINEaCAPITULUMaDOUBLE HYPHEN",
      "aREVERSED COMMAaDOUBLE LOW-REVERSED-9 QUOTATION MARK",
      "aDASH WITH LEFT UPTURNaDOUBLE SUSPENSION MARK",
      "aINVERTED LOW KAVYKAcKAVYKA WITH KAVYKA ABOVEaLOW ",
      "KAVYKAbKAVYKA WITH DOTaDOUBLE STACKED COMMAaDOTTED ",
      "SOLIDUSaTRIPLE DAGGERaMEDIEVAL COMMAaPARAGRAPHUS MARK",
      "aPUNCTUS ELEVATUS MARKaCORNISH VERSE DIVIDERaCROSS ",
      "PATTY WITH RIGHT CROSSBARdLEFT CROSSBARaTIRONIAN ",
      "SIGN CAPITAL ETaMEDIEVAL EXCLAMATION MARKbQUESTION ",
      "MARKaLEFT SQUARE BRACKET WITH STROKEaRIGHT SQUARE ",
      "BRACKET WITH STROKEaLEFT SQUARE BRACKET WITH DOUBLE ",
      "STROKEaRIGHT SQUARE BRACKET WITH DOUBLE STROKEaTOP ",
      "HALF LEFT PARENTHESIScRIGHT PARENTHESISaBOTTOM HALF ",
      "LEFT PARENTHESIScRIGHT PARENTHESISaOBLIQUE HYPHEN"]⟩,
    ⟨0x2E80, ["aCJK RADICAL REPEATcCLIFFcSECOND ONEdTWO",
      "dTHREEcPERSONcBOXcTABLEcKNIFE ONEdTWOcDIVINATIONcSEAL",
      "cSMALL ONEdTWOcLAME ONEdTWOdTHREEdFOURcSNAKEcTHREAD",
      "cSNOUT ONEdTWOcHEART ONEdTWOcHANDcRAP"]⟩,
    ⟨0x2E9B, ["aCJK RADICAL CHOKEcSUNcMOONcDEATHcMOTHER",
      "cCIVILIANcWATER ONEdTWOcFIREcPAW ONEdTWOcSIMPLIFIED ",
      "HALF TREE TRUNKcCOWcDOGcJADEcBOLT OF CLOTHcEYE",
      "cSPIRIT ONEdTWOcBAMBOOcSILKcC-SIMPLIFIED SILKcNET ONE",
      "dTWOdTHREEdFOURcMESHcSHEEPcRAMcEWEcOLDcBRUSH ONEdTWO",
      "cMEATcMORTARcGRASS ONEdTWOdTHREEcTIGERcCLOTHEScWEST ",
      "ONEdTWOcC-SIMPLIFIED SEEcSIMPLIFIED HORNcHORNcC-",
      "SIMPLIFIED SPEECHeSHELLcFOOTcC-SIMPLIFIED CART",
      "cSIMPLIFIED WALKcWALK ONEdTWOcCITYcC-SIMPLIFIED GOLD",
      "cLONG ONEdTWOcC-SIMPLIFIED LONGeGATEcMOUND ONEdTWO",
      "cRAINcBLUEcC-SIMPLIFIED TANNED LEATHEReLEAFeWINDeFLY",
      "cEAT ONEdTWOdTHREEcC-SIMPLIFIED EATcHEADcC-",
      "SIMPLIFIED HORSEcBONEcGHOSTcC-SIMPLIFIED FISHeBIRD",
      "eSALTcSIMPLIFIED WHEATdYELLOWcC-SIMPLIFIED FROGcJ-",
      "SIMPLIFIED EVENcC-SIMPLIFIED EVENcJ-SIMPLIFIED TOOTH",
      "cC-SIMPLIFIED TOOTHcJ-SIMPLIFIED DRAGONcC-SIMPLIFIED ",
      "DRAGONcTURTLEcJ-SIMPLIFIED TURTLEcC-SIMPLIFIED TURTLE"]⟩,
    ⟨0x2F00, ["aKANGXI RADICAL ONEcLINEcDOTcSLASHcSECOND",
      "cHOOKcTWOcLIDcMANcLEGScENTERcEIGHTcDOWN BOXcCOVERcICE",
      "cTABLEcOPEN BOXcKNIFEcPOWERcWRAPcSPOONcRIGHT OPEN BOX",
      "cHIDING ENCLOSUREcTENcDIVINATIONcSEALcCLIFFcPRIVATE",
      "cAGAINcMOUTHcENCLOSUREcEARTHcSCHOLARcGOcGO SLOWLY",
      "cEVENINGcBIGcWOMANcCHILDcROOFcINCHcSMALLcLAMEcCORPSE",
      "cSPROUTcMOUNTAINcRIVERcWORKcONESELFcTURBANcDRYcSHORT ",
      "THREADcDOTTED CLIFFcLONG STRIDEcTWO HANDScSHOOTcBOW",
      "cSNOUTcBRISTLEcSTEPcHEARTcHALBERDcDOORcHANDcBRANCH",
      "cRAPcSCRIPTcDIPPERcAXEcSQUAREcNOTcSUNcSAYcMOONcTREE",
      "cLACKcSTOPcDEATHcWEAPONcDO NOTcCOMPAREcFURcCLANcSTEAM",
      "cWATERcFIREcCLAWcFATHERcDOUBLE XcHALF TREE TRUNK",
      "cSLICEcFANGcCOWcDOGcPROFOUNDcJADEcMELONcTILEcSWEET",
      "cLIFEcUSEcFIELDcBOLT OF CLOTHcSICKNESScDOTTED TENT",
      "cWHITEcSKINcDISHcEYEcSPEARcARROWcSTONEcSPIRITcTRACK",
      "cGRAINcCAVEcSTANDcBAMBOOcRICEcSILKcJARcNETcSHEEP",
      "cFEATHERcOLDcANDcPLOWcEARcBRUSHcMEATcMINISTERcSELF",
      "cARRIVEcMORTARcTONGUEcOPPOSEcBOATcSTOPPINGcCOLOR",
      "cGRASScTIGERcINSECTcBLOODcWALK ENCLOSUREcCLOTHEScWEST",
      "cSEEcHORNcSPEECHcVALLEYcBEANcPIGcBADGERcSHELLcREDcRUN",
      "cFOOTcBODYcCARTcBITTERcMORNINGcWALKcCITYcWINE",
      "cDISTINGUISHcVILLAGEcGOLDcLONGcGATEcMOUNDcSLAVE",
      "cSHORT TAILED BIRDcRAINcBLUEcWRONGcFACEcLEATHER",
      "cTANNED LEATHERcLEEKcSOUNDcLEAFcWINDcFLYcEATcHEAD",
      "cFRAGRANTcHORSEcBONEcTALLcHAIRcFIGHTcSACRIFICIAL WINE",
      "cCAULDRONcGHOSTcFISHcBIRDcSALTcDEERcWHEATcHEMPcYELLOW",
      "cMILLETcBLACKcEMBROIDERYcFROGcTRIPODcDRUMcRATcNOSE",
      "cEVENcTOOTHcDRAGONcTURTLEcFLUTE"]⟩,
    ⟨0x2FF0, ["aIDEOGRAPHIC DESCRIPTION CHARACTER LEFT TO ",
      "RIGHTdABOVE TO BELOWdLEFT TO MIDDLE AND RIGHTdABOVE ",
      "TO MIDDLE AND BELOWdFULL SURROUNDdSURROUND FROM ABOVE",
      "fBELOWfLEFTfUPPER LEFTgRIGHTfLOWER LEFTdOVERLAID"]⟩]

end SigCheck
