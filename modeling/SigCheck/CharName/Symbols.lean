import SigCheck.CharName.Run

/-
  Names of punctuation, mathematical signs and symbols, from
  U+2000 to U+26FF.

  Key definitions include:
    * `CharName.symbols`
-/

namespace SigCheck

/- The runs of these names. -/
def CharName.symbols : List NameRun :=
  [⟨0x2000, ["aEN QUADaEM QUADaEN SPACEaEM SPACEaTHREE-PER-",
      "EM SPACEaFOUR-PER-EM SPACEaSIX-PER-EM SPACEaFIGURE ",
      "SPACEaPUNCTUATION SPACEaTHIN SPACEaHAIR SPACEaZERO ",
      "WIDTH SPACEcNON-JOINERcJOINERaLEFT-TO-RIGHT MARK",
      "aRIGHT-TO-LEFT MARKaHYPHENaNON-BREAKING HYPHEN",
      "aFIGURE DASHaEN DASHaEM DASHaHORIZONTAL BARaDOUBLE ",
      "VERTICAL LINEbLOW LINEaLEFT SINGLE QUOTATION MARK",
      "aRIGHT SINGLE QUOTATION MARKaSINGLE LOW-9 QUOTATION ",
      "MARKbHIGH-REVERSED-9 QUOTATION MARKaLEFT DOUBLE ",
      "QUOTATION MARKaRIGHT DOUBLE QUOTATION MARKaDOUBLE ",
      "LOW-9 QUOTATION MARKbHIGH-REVERSED-9 QUOTATION MARK",
      "aDAGGERaDOUBLE DAGGERaBULLETaTRIANGULAR BULLETaONE ",
      "DOT LEADERaTWO DOT LEADERaHORIZONTAL ELLIPSIS",
      "aHYPHENATION POINTaLINE SEPARATORaPARAGRAPH SEPARATOR",
      "aLEFT-TO-RIGHT EMBEDDINGaRIGHT-TO-LEFT EMBEDDINGaPOP ",
      "DIRECTIONAL FORMATTINGaLEFT-TO-RIGHT OVERRIDEaRIGHT-",
      "TO-LEFT OVERRIDEaNARROW NO-BREAK SPACEaPER MILLE SIGN",
      "bTEN THOUSAND SIGNaPRIMEaDOUBLE PRIMEaTRIPLE PRIME",
      "aREVERSED PRIMEbDOUBLE PRIMEbTRIPLE PRIMEaCARET",
      "aSINGLE LEFT-POINTING ANGLE QUOTATION MARKbRIGHT-",
      "POINTING ANGLE QUOTATION MARKaREFERENCE MARKaDOUBLE ",
      "EXCLAMATION MARKaINTERROBANGaOVERLINEaUNDERTIE",
      "aCHARACTER TIEaCARET INSERTION POINTaASTERISMaHYPHEN ",
      "BULLETaFRACTION SLASHaLEFT SQUARE BRACKET WITH QUILL",
      "aRIGHT SQUARE BRACKET WITH QUILLaDOUBLE QUESTION MARK",
      "aQUESTION EXCLAMATION MARKaEXCLAMATION QUESTION MARK",
      "aTIRONIAN SIGN ETaREVERSED PILCROW SIGNaBLACK ",
      "LEFTWARDS BULLETbRIGHTWARDS BULLETaLOW ASTERISK",
      "aREVERSED SEMICOLONaCLOSE UPaTWO ASTERISKS ALIGNED ",
      "VERTICALLYaCOMMERCIAL MINUS SIGNaSWUNG DASHaINVERTED ",
      "UNDERTIEaFLOWER PUNCTUATION MARKaTHREE DOT ",
      "PUNCTUATIONaQUADRUPLE PRIMEaFOUR DOT PUNCTUATION",
      "aFIVE DOT PUNCTUATIONaTWO DOT PUNCTUATIONaFOUR DOT ",
      "MARKaDOTTED CROSSaTRICOLONaVERTICAL FOUR DOTSaMEDIUM ",
      "MATHEMATICAL SPACEaWORD JOINERaFUNCTION APPLICATION",
      "aINVISIBLE TIMESbSEPARATORbPLUS"]⟩,
    ⟨0x2066, ["aLEFT-TO-RIGHT ISOLATEaRIGHT-TO-LEFT ISOLATE",
      "aFIRST STRONG ISOLATEaPOP DIRECTIONAL ISOLATE",
      "aINHIBIT SYMMETRIC SWAPPINGaACTIVATE SYMMETRIC ",
      "SWAPPINGaINHIBIT ARABIC FORM SHAPINGaACTIVATE ARABIC ",
      "FORM SHAPINGaNATIONAL DIGIT SHAPESaNOMINAL DIGIT ",
      "SHAPESaSUPERSCRIPT ZERObLATIN SMALL LETTER I"]⟩,
    ⟨0x2074, ["aSUPERSCRIPT FOURbFIVEbSIXbSEVENbEIGHTbNINE",
      "bPLUS SIGNbMINUSbEQUALS SIGNbLEFT PARENTHESISbRIGHT ",
      "PARENTHESISbLATIN SMALL LETTER NaSUBSCRIPT ZERObONE",
      "bTWObTHREEbFOURbFIVEbSIXbSEVENbEIGHTbNINEbPLUS SIGN",
      "bMINUSbEQUALS SIGNbLEFT PARENTHESISbRIGHT PARENTHESIS"]⟩,
    ⟨0x2090, ["aLATIN SUBSCRIPT SMALL LETTER AeEeOeXeSCHWAeH",
      "eKeLeMeNePeSeT"]⟩,
    ⟨0x20A0, ["aEURO-CURRENCY SIGNaCOLON SIGNaCRUZEIRO SIGN",
      "aFRENCH FRANC SIGNaLIRA SIGNaMILL SIGNaNAIRA SIGN",
      "aPESETA SIGNaRUPEE SIGNaWON SIGNaNEW SHEQEL SIGN",
      "aDONG SIGNaEURO SIGNaKIP SIGNaTUGRIK SIGNaDRACHMA ",
      "SIGNaGERMAN PENNY SIGNaPESO SIGNaGUARANI SIGN",
      "aAUSTRAL SIGNaHRYVNIA SIGNaCEDI SIGNaLIVRE TOURNOIS ",
      "SIGNaSPESMILO SIGNaTENGE SIGNaINDIAN RUPEE SIGN",
      "aTURKISH LIRA SIGNaNORDIC MARK SIGNaMANAT SIGNaRUBLE ",
      "SIGNaLARI SIGNaBITCOIN SIGNaSOM SIGN"]⟩,
    ⟨0x20D0, ["aCOMBINING LEFT HARPOON ABOVEbRIGHT HARPOON ",
      "ABOVEbLONG VERTICAL LINE OVERLAYbSHORT VERTICAL LINE ",
      "OVERLAYbANTICLOCKWISE ARROW ABOVEbCLOCKWISE ARROW ",
      "ABOVEbLEFT ARROW ABOVEbRIGHT ARROW ABOVEbRING OVERLAY",
      "bCLOCKWISE RING OVERLAYbANTICLOCKWISE RING OVERLAY",
      "bTHREE DOTS ABOVEbFOUR DOTS ABOVEbENCLOSING CIRCLE",
      "cSQUAREcDIAMONDcCIRCLE BACKSLASHbLEFT RIGHT ARROW ",
      "ABOVEbENCLOSING SCREENcKEYCAPcUPWARD POINTING ",
      "TRIANGLEbREVERSE SOLIDUS OVERLAYbDOUBLE VERTICAL ",
      "STROKE OVERLAYbANNUITY SYMBOLbTRIPLE UNDERDOTbWIDE ",
      "BRIDGE ABOVEbLEFTWARDS ARROW OVERLAYbLONG DOUBLE ",
      "SOLIDUS OVERLAYbRIGHTWARDS HARPOON WITH BARB ",
      "DOWNWARDSbLEFTWARDS HARPOON WITH BARB DOWNWARDSbLEFT ",
      "ARROW BELOWbRIGHT ARROW BELOWbASTERISK ABOVE"]⟩,
    ⟨0x2100, ["aACCOUNT OFaADDRESSED TO THE SUBJECTaDOUBLE-",
      "STRUCK CAPITAL CaDEGREE CELSIUSaCENTRE LINE SYMBOL",
      "aCARE OFaCADA UNAaEULER CONSTANTaSCRUPLEaDEGREE ",
      "FAHRENHEITaSCRIPT SMALL GbCAPITAL HaBLACK-LETTER ",
      "CAPITAL HaDOUBLE-STRUCK CAPITAL HaPLANCK CONSTANT",
      "bCONSTANT OVER TWO PIaSCRIPT CAPITAL IaBLACK-LETTER ",
      "CAPITAL IaSCRIPT CAPITAL LbSMALL LaL B BAR SYMBOL",
      "aDOUBLE-STRUCK CAPITAL NaNUMERO SIGNaSOUND RECORDING ",
      "COPYRIGHTaSCRIPT CAPITAL PaDOUBLE-STRUCK CAPITAL PdQ",
      "aSCRIPT CAPITAL RaBLACK-LETTER CAPITAL RaDOUBLE-",
      "STRUCK CAPITAL RaPRESCRIPTION TAKEaRESPONSEaSERVICE ",
      "MARKaTELEPHONE SIGNaTRADE MARK SIGNaVERSICLEaDOUBLE-",
      "STRUCK CAPITAL ZaOUNCE SIGNaOHM SIGNaINVERTED OHM ",
      "SIGNaBLACK-LETTER CAPITAL ZaTURNED GREEK SMALL ",
      "LETTER IOTAaKELVIN SIGNaANGSTROM SIGNaSCRIPT CAPITAL ",
      "BaBLACK-LETTER CAPITAL CaESTIMATED SYMBOLaSCRIPT ",
      "SMALL EbCAPITAL EcFaTURNED CAPITAL FaSCRIPT CAPITAL M",
      "bSMALL OaALEF SYMBOLaBET SYMBOLaGIMEL SYMBOLaDALET ",
      "SYMBOLaINFORMATION SOURCEaROTATED CAPITAL Q",
      "aFACSIMILE SIGNaDOUBLE-STRUCK SMALL PIdGAMMAcCAPITAL ",
      "GAMMAdPIcN-ARY SUMMATIONaTURNED SANS-SERIF CAPITAL G",
      "eLaREVERSED SANS-SERIF CAPITAL LaTURNED SANS-SERIF ",
      "CAPITAL YaDOUBLE-STRUCK ITALIC CAPITAL DdSMALL DeEeI",
      "eJaPROPERTY LINEaTURNED AMPERSANDaPER SIGN",
      "aAKTIESELSKABaTURNED SMALL FaSYMBOL FOR SAMARITAN ",
      "SOURCEaVULGAR FRACTION ONE SEVENTHdNINTHdTENTHdTHIRD",
      "cTWO THIRDScONE FIFTHcTWO FIFTHScTHREE FIFTHScFOUR ",
      "FIFTHScONE SIXTHcFIVE SIXTHScONE EIGHTHcTHREE EIGHTHS",
      "cFIVE EIGHTHScSEVEN EIGHTHSaFRACTION NUMERATOR ONE",
      "aROMAN NUMERAL ONEcTWOcTHREEcFOURcFIVEcSIXcSEVEN",
      "cEIGHTcNINEcTENcELEVENcTWELVEcFIFTYcONE HUNDREDcFIVE ",
      "HUNDREDcONE THOUSANDaSMALL ROMAN NUMERAL ONEdTWO",
      "dTHREEdFOURdFIVEdSIXdSEVENdEIGHTdNINEdTENdELEVEN",
      "dTWELVEdFIFTYdONE HUNDREDdFIVE HUNDREDdONE THOUSAND",
      "aROMAN NUMERAL ONE THOUSAND C DcFIVE THOUSANDcTEN ",
      "THOUSANDcREVERSED ONE HUNDREDaLATIN SMALL LETTER ",
      "REVERSED CaROMAN NUMERAL SIX LATE FORMcFIFTY EARLY ",
      "FORMdTHOUSANDcONE HUNDRED THOUSANDaVULGAR FRACTION ",
      "ZERO THIRDSaTURNED DIGIT TWOcTHREE"]⟩,
    ⟨0x2190, ["aLEFTWARDS ARROWaUPWARDS ARROWaRIGHTWARDS ",
      "ARROWaDOWNWARDS ARROWaLEFT RIGHT ARROWaUP DOWN ARROW",
      "aNORTH WEST ARROWbEAST ARROWaSOUTH EAST ARROWbWEST ",
      "ARROWaLEFTWARDS ARROW WITH STROKEaRIGHTWARDS ARROW ",
      "WITH STROKEaLEFTWARDS WAVE ARROWaRIGHTWARDS WAVE ",
      "ARROWaLEFTWARDS TWO HEADED ARROWaUPWARDS TWO HEADED ",
      "ARROWaRIGHTWARDS TWO HEADED ARROWaDOWNWARDS TWO ",
      "HEADED ARROWaLEFTWARDS ARROW WITH TAILaRIGHTWARDS ",
      "ARROW WITH TAILaLEFTWARDS ARROW FROM BARaUPWARDS ",
      "ARROW FROM BARaRIGHTWARDS ARROW FROM BARaDOWNWARDS ",
      "ARROW FROM BARaUP DOWN ARROW WITH BASEaLEFTWARDS ",
      "ARROW WITH HOOKaRIGHTWARDS ARROW WITH HOOKaLEFTWARDS ",
      "ARROW WITH LOOPaRIGHTWARDS ARROW WITH LOOPaLEFT ",
      "RIGHT WAVE ARROWcARROW WITH STROKEaDOWNWARDS ZIGZAG ",
      "ARROWaUPWARDS ARROW WITH TIP LEFTWARDSeRIGHTWARDS",
      "aDOWNWARDS ARROW WITH TIP LEFTWARDSeRIGHTWARDS",
      "aRIGHTWARDS ARROW WITH CORNER DOWNWARDSaDOWNWARDS ",
      "ARROW WITH CORNER LEFTWARDSaANTICLOCKWISE TOP ",
      "SEMICIRCLE ARROWaCLOCKWISE TOP SEMICIRCLE ARROW",
      "aNORTH WEST ARROW TO LONG BARaLEFTWARDS ARROW TO BAR ",
      "OVER RIGHTWARDS ARROW TO BARaANTICLOCKWISE OPEN ",
      "CIRCLE ARROWaCLOCKWISE OPEN CIRCLE ARROWaLEFTWARDS ",
      "HARPOON WITH BARB UPWARDSeDOWNWARDSaUPWARDS HARPOON ",
      "WITH BARB RIGHTWARDSeLEFTWARDSaRIGHTWARDS HARPOON ",
      "WITH BARB UPWARDSeDOWNWARDSaDOWNWARDS HARPOON WITH ",
      "BARB RIGHTWARDSeLEFTWARDSaRIGHTWARDS ARROW OVER ",
      "LEFTWARDS ARROWaUPWARDS ARROW LEFTWARDS OF DOWNWARDS ",
      "ARROWaLEFTWARDS ARROW OVER RIGHTWARDS ARROWbPAIRED ",
      "ARROWSaUPWARDS PAIRED ARROWSaRIGHTWARDS PAIRED ARROWS",
      "aDOWNWARDS PAIRED ARROWSaLEFTWARDS HARPOON OVER ",
      "RIGHTWARDS HARPOONaRIGHTWARDS HARPOON OVER LEFTWARDS ",
      "HARPOONaLEFTWARDS DOUBLE ARROW WITH STROKEaLEFT ",
      "RIGHT DOUBLE ARROW WITH STROKEaRIGHTWARDS DOUBLE ",
      "ARROW WITH STROKEaLEFTWARDS DOUBLE ARROWaUPWARDS ",
      "DOUBLE ARROWaRIGHTWARDS DOUBLE ARROWaDOWNWARDS ",
      "DOUBLE ARROWaLEFT RIGHT DOUBLE ARROWaUP DOWN DOUBLE ",
      "ARROWaNORTH WEST DOUBLE ARROWbEAST DOUBLE ARROW",
      "aSOUTH EAST DOUBLE ARROWbWEST DOUBLE ARROWaLEFTWARDS ",
      "TRIPLE ARROWaRIGHTWARDS TRIPLE ARROWaLEFTWARDS ",
      "SQUIGGLE ARROWaRIGHTWARDS SQUIGGLE ARROWaUPWARDS ",
      "ARROW WITH DOUBLE STROKEaDOWNWARDS ARROW WITH DOUBLE ",
      "STROKEaLEFTWARDS DASHED ARROWaUPWARDS DASHED ARROW",
      "aRIGHTWARDS DASHED ARROWaDOWNWARDS DASHED ARROW",
      "aLEFTWARDS ARROW TO BARaRIGHTWARDS ARROW TO BAR",
      "aLEFTWARDS WHITE ARROWaUPWARDS WHITE ARROW",
      "aRIGHTWARDS WHITE ARROWaDOWNWARDS WHITE ARROW",
      "aUPWARDS WHITE ARROW FROM BARdON PEDESTALePEDESTAL ",
      "WITH HORIZONTAL BARgVERTICAL BARcDOUBLE ARROWdARROW ",
      "ON PEDESTALaRIGHTWARDS WHITE ARROW FROM WALLaNORTH ",
      "WEST ARROW TO CORNERaSOUTH EAST ARROW TO CORNERaUP ",
      "DOWN WHITE ARROWaRIGHT ARROW WITH SMALL CIRCLE",
      "aDOWNWARDS ARROW LEFTWARDS OF UPWARDS ARROWaTHREE ",
      "RIGHTWARDS ARROWSaLEFTWARDS ARROW WITH VERTICAL ",
      "STROKEaRIGHTWARDS ARROW WITH VERTICAL STROKEaLEFT ",
      "RIGHT ARROW WITH VERTICAL STROKEaLEFTWARDS ARROW ",
      "WITH DOUBLE VERTICAL STROKEaRIGHTWARDS ARROW WITH ",
      "DOUBLE VERTICAL STROKEaLEFT RIGHT ARROW WITH DOUBLE ",
      "VERTICAL STROKEaLEFTWARDS OPEN-HEADED ARROW",
      "aRIGHTWARDS OPEN-HEADED ARROWaLEFT RIGHT OPEN-HEADED ",
      "ARROWaFOR ALLaCOMPLEMENTaPARTIAL DIFFERENTIALaTHERE ",
      "EXISTSbDOES NOT EXISTaEMPTY SETaINCREMENTaNABLA",
      "aELEMENT OFaNOT AN ELEMENT OFaSMALL ELEMENT OF",
      "aCONTAINS AS MEMBERaDOES NOT CONTAIN AS MEMBERaSMALL ",
      "CONTAINS AS MEMBERaEND OF PROOFaN-ARY PRODUCT",
      "cCOPRODUCTcSUMMATIONaMINUS SIGNaMINUS-OR-PLUS SIGN",
      "aDOT PLUSaDIVISION SLASHaSET MINUSaASTERISK OPERATOR",
      "aRING OPERATORaBULLET OPERATORaSQUARE ROOTaCUBE ROOT",
      "aFOURTH ROOTaPROPORTIONAL TOaINFINITYaRIGHT ANGLE",
      "aANGLEaMEASURED ANGLEaSPHERICAL ANGLEaDIVIDESaDOES ",
      "NOT DIVIDEaPARALLEL TOaNOT PARALLEL TOaLOGICAL ANDbOR",
      "aINTERSECTIONaUNIONaINTEGRALaDOUBLE INTEGRALaTRIPLE ",
      "INTEGRALaCONTOUR INTEGRALaSURFACE INTEGRALaVOLUME ",
      "INTEGRALaCLOCKWISE INTEGRALbCONTOUR INTEGRAL",
      "aANTICLOCKWISE CONTOUR INTEGRALaTHEREFOREaBECAUSE",
      "aRATIOaPROPORTIONaDOT MINUSaEXCESSaGEOMETRIC ",
      "PROPORTIONaHOMOTHETICaTILDE OPERATORaREVERSED TILDE",
      "aINVERTED LAZY SaSINE WAVEaWREATH PRODUCTaNOT TILDE",
      "aMINUS TILDEaASYMPTOTICALLY EQUAL TOaNOT ",
      "ASYMPTOTICALLY EQUAL TOaAPPROXIMATELY EQUAL TObBUT ",
      "NOT ACTUALLY EQUAL TOaNEITHER APPROXIMATELY NOR ",
      "ACTUALLY EQUAL TOaALMOST EQUAL TOaNOT ALMOST EQUAL TO",
      "aALMOST EQUAL OR EQUAL TOaTRIPLE TILDEaALL EQUAL TO",
      "aEQUIVALENT TOaGEOMETRICALLY EQUIVALENT TO",
      "aDIFFERENCE BETWEENaAPPROACHES THE LIMIT",
      "aGEOMETRICALLY EQUAL TOaAPPROXIMATELY EQUAL TO OR ",
      "THE IMAGE OFaIMAGE OF OR APPROXIMATELY EQUAL TO",
      "aCOLON EQUALSaEQUALS COLONaRING IN EQUAL TObEQUAL TO",
      "aCORRESPONDS TOaESTIMATESaEQUIANGULAR TOaSTAR EQUALS",
      "aDELTA EQUAL TOaEQUAL TO BY DEFINITIONaMEASURED BY",
      "aQUESTIONED EQUAL TOaNOT EQUAL TOaIDENTICAL TOaNOT ",
      "IDENTICAL TOaSTRICTLY EQUIVALENT TOaLESS-THAN OR ",
      "EQUAL TOaGREATER-THAN OR EQUAL TOaLESS-THAN OVER ",
      "EQUAL TOaGREATER-THAN OVER EQUAL TOaLESS-THAN BUT ",
      "NOT EQUAL TOaGREATER-THAN BUT NOT EQUAL TOaMUCH LESS-",
      "THANbGREATER-THANaBETWEENaNOT EQUIVALENT TObLESS-THAN",
      "bGREATER-THANaNEITHER LESS-THAN NOR EQUAL TObGREATER-",
      "THAN NOR EQUAL TOaLESS-THAN OR EQUIVALENT TOaGREATER-",
      "THAN OR EQUIVALENT TOaNEITHER LESS-THAN NOR ",
      "EQUIVALENT TObGREATER-THAN NOR EQUIVALENT TOaLESS-",
      "THAN OR GREATER-THANaGREATER-THAN OR LESS-THAN",
      "aNEITHER LESS-THAN NOR GREATER-THANbGREATER-THAN NOR ",
      "LESS-THANaPRECEDESaSUCCEEDSaPRECEDES OR EQUAL TO",
      "aSUCCEEDS OR EQUAL TOaPRECEDES OR EQUIVALENT TO",
      "aSUCCEEDS OR EQUIVALENT TOaDOES NOT PRECEDEcSUCCEED",
      "aSUBSET OFaSUPERSET OFaNOT A SUBSET OFcSUPERSET OF",
      "aSUBSET OF OR EQUAL TOaSUPERSET OF OR EQUAL TO",
      "aNEITHER A SUBSET OF NOR EQUAL TOcSUPERSET OF NOR ",
      "EQUAL TOaSUBSET OF WITH NOT EQUAL TOaSUPERSET OF ",
      "WITH NOT EQUAL TOaMULTISETaMULTISET MULTIPLICATION",
      "bUNIONaSQUARE IMAGE OFbORIGINAL OFbIMAGE OF OR EQUAL ",
      "TObORIGINAL OF OR EQUAL TObCAPbCUPaCIRCLED PLUSbMINUS",
      "bTIMESbDIVISION SLASHbDOT OPERATORbRING OPERATOR",
      "bASTERISK OPERATORbEQUALSbDASHaSQUARED PLUSbMINUS",
      "bTIMESbDOT OPERATORaRIGHT TACKaLEFT TACKaDOWN TACK",
      "aUP TACKaASSERTIONaMODELSaTRUEaFORCESaTRIPLE ",
      "VERTICAL BAR RIGHT TURNSTILEaDOUBLE VERTICAL BAR ",
      "DOUBLE RIGHT TURNSTILEaDOES NOT PROVEaNOT TRUEaDOES ",
      "NOT FORCEaNEGATED DOUBLE VERTICAL BAR DOUBLE RIGHT ",
      "TURNSTILEaPRECEDES UNDER RELATIONaSUCCEEDS UNDER ",
      "RELATIONaNORMAL SUBGROUP OFaCONTAINS AS NORMAL ",
      "SUBGROUPaNORMAL SUBGROUP OF OR EQUAL TOaCONTAINS AS ",
      "NORMAL SUBGROUP OR EQUAL TOaORIGINAL OFaIMAGE OF",
      "aMULTIMAPaHERMITIAN CONJUGATE MATRIXaINTERCALATEaXOR",
      "aNANDaNORaRIGHT ANGLE WITH ARCbTRIANGLEaN-ARY ",
      "LOGICAL ANDdORcINTERSECTIONcUNIONaDIAMOND OPERATOR",
      "aDOT OPERATORaSTAR OPERATORaDIVISION TIMESaBOWTIE",
      "aLEFT NORMAL FACTOR SEMIDIRECT PRODUCTaRIGHT NORMAL ",
      "FACTOR SEMIDIRECT PRODUCTaLEFT SEMIDIRECT PRODUCT",
      "aRIGHT SEMIDIRECT PRODUCTaREVERSED TILDE EQUALS",
      "aCURLY LOGICAL ORcANDaDOUBLE SUBSETbSUPERSET",
      "bINTERSECTIONbUNIONaPITCHFORKaEQUAL AND PARALLEL TO",
      "aLESS-THAN WITH DOTaGREATER-THAN WITH DOTaVERY MUCH ",
      "LESS-THANcGREATER-THANaLESS-THAN EQUAL TO OR GREATER-",
      "THANaGREATER-THAN EQUAL TO OR LESS-THANaEQUAL TO OR ",
      "LESS-THANdGREATER-THANdPRECEDESdSUCCEEDSaDOES NOT ",
      "PRECEDE OR EQUALcSUCCEED OR EQUALaNOT SQUARE IMAGE ",
      "OF OR EQUAL TOcORIGINAL OF OR EQUAL TOaSQUARE IMAGE ",
      "OF OR NOT EQUAL TObORIGINAL OF OR NOT EQUAL TOaLESS-",
      "THAN BUT NOT EQUIVALENT TOaGREATER-THAN BUT NOT ",
      "EQUIVALENT TOaPRECEDES BUT NOT EQUIVALENT TO",
      "aSUCCEEDS BUT NOT EQUIVALENT TOaNOT NORMAL SUBGROUP ",
      "OFaDOES NOT CONTAIN AS NORMAL SUBGROUPaNOT NORMAL ",
      "SUBGROUP OF OR EQUAL TOaDOES NOT CONTAIN AS NORMAL ",
      "SUBGROUP OR EQUALaVERTICAL ELLIPSISaMIDLINE ",
      "HORIZONTAL ELLIPSISaUP RIGHT DIAGONAL ELLIPSISaDOWN ",
      "RIGHT DIAGONAL ELLIPSISaELEMENT OF WITH LONG ",
      "HORIZONTAL STROKEdVERTICAL BAR AT END OF HORIZONTAL ",
      "STROKEaSMALL ELEMENT OF WITH VERTICAL BAR AT END OF ",
      "HORIZONTAL STROKEaELEMENT OF WITH DOT ABOVEdOVERBAR",
      "aSMALL ELEMENT OF WITH OVERBARaELEMENT OF WITH ",
      "UNDERBARdTWO HORIZONTAL STROKESaCONTAINS WITH LONG ",
      "HORIZONTAL STROKEcVERTICAL BAR AT END OF HORIZONTAL ",
      "STROKEaSMALL CONTAINS WITH VERTICAL BAR AT END OF ",
      "HORIZONTAL STROKEaCONTAINS WITH OVERBARaSMALL ",
      "CONTAINS WITH OVERBARaZ NOTATION BAG MEMBERSHIP",
      "aDIAMETER SIGNaELECTRIC ARROWaHOUSEaUP ARROWHEAD",
      "aDOWN ARROWHEADaPROJECTIVEaPERSPECTIVEaWAVY LINE",
      "aLEFT CEILINGaRIGHT CEILINGaLEFT FLOORaRIGHT FLOOR",
      "aBOTTOM RIGHT CROPbLEFT CROPaTOP RIGHT CROPbLEFT CROP",
      "aREVERSED NOT SIGNaSQUARE LOZENGEaARCaSEGMENTaSECTOR",
      "aTELEPHONE RECORDERaPOSITION INDICATORaVIEWDATA ",
      "SQUAREaPLACE OF INTEREST SIGNaTURNED NOT SIGNaWATCH",
      "aHOURGLASSaTOP LEFT CORNERbRIGHT CORNERaBOTTOM LEFT ",
      "CORNERbRIGHT CORNERaTOP HALF INTEGRALaBOTTOM HALF ",
      "INTEGRALaFROWNaSMILEaUP ARROWHEAD BETWEEN TWO ",
      "HORIZONTAL BARSaOPTION KEYaERASE TO THE RIGHTaX IN A ",
      "RECTANGLE BOXaKEYBOARDaLEFT-POINTING ANGLE BRACKET",
      "aRIGHT-POINTING ANGLE BRACKETaERASE TO THE LEFT",
      "aBENZENE RINGaCYLINDRICITYaALL AROUND-PROFILE",
      "aSYMMETRYaTOTAL RUNOUTaDIMENSION ORIGINaCONICAL TAPER",
      "aSLOPEaCOUNTERBOREaCOUNTERSINKaAPL FUNCTIONAL SYMBOL ",
      "I-BEAMdSQUISH QUADdQUAD EQUALeDIVIDEeDIAMONDeJOT",
      "eCIRCLEdCIRCLE STILEeJOTdSLASH BARdBACKSLASH BAR",
      "dQUAD SLASHeBACKSLASHeLESS-THANeGREATER-THAN",
      "dLEFTWARDS VANEdRIGHTWARDS VANEdQUAD LEFTWARDS ARROW",
      "eRIGHTWARDS ARROWdCIRCLE BACKSLASHdDOWN TACK UNDERBAR",
      "dDELTA STILEdQUAD DOWN CARETeDELTAdDOWN TACK JOT",
      "dUPWARDS VANEdQUAD UPWARDS ARROWdUP TACK OVERBARdDEL ",
      "STILEdQUAD UP CARETeDELdUP TACK JOTdDOWNWARDS VANE",
      "dQUAD DOWNWARDS ARROWdQUOTE UNDERBARdDELTA UNDERBAR",
      "dDIAMOND UNDERBARdJOT UNDERBARdCIRCLE UNDERBARdUP ",
      "SHOE JOTdQUOTE QUADdCIRCLE STARdQUAD COLONdUP TACK ",
      "DIAERESISdDEL DIAERESISdSTAR DIAERESISdJOT DIAERESIS",
      "dCIRCLE DIAERESISdDOWN SHOE STILEdLEFT SHOE STILE",
      "dTILDE DIAERESISdGREATER-THAN DIAERESISdCOMMA BAR",
      "dDEL TILDEdZILDEdSTILE TILDEdSEMICOLON UNDERBARdQUAD ",
      "NOT EQUALeQUESTIONdDOWN CARET TILDEdUP CARET TILDE",
      "dIOTAdRHOdOMEGAdALPHA UNDERBARdEPSILON UNDERBARdIOTA ",
      "UNDERBARdOMEGA UNDERBARdALPHAaNOT CHECK MARKaRIGHT ",
      "ANGLE WITH DOWNWARDS ZIGZAG ARROWaSHOULDERED OPEN BOX",
      "aBELL SYMBOLaVERTICAL LINE WITH MIDDLE DOTaINSERTION ",
      "SYMBOLaCONTINUOUS UNDERLINE SYMBOLaDISCONTINUOUS ",
      "UNDERLINE SYMBOLaEMPHASIS SYMBOLaCOMPOSITION SYMBOL",
      "aWHITE SQUARE WITH CENTRE VERTICAL LINEaENTER SYMBOL",
      "aALTERNATIVE KEY SYMBOLaHELM SYMBOLaCIRCLED ",
      "HORIZONTAL BAR WITH NOTCHbTRIANGLE DOWNaBROKEN ",
      "CIRCLE WITH NORTHWEST ARROWaUNDO SYMBOLaMONOSTABLE ",
      "SYMBOLaHYSTERESIS SYMBOLaOPEN-CIRCUIT-OUTPUT H-TYPE ",
      "SYMBOLdL-TYPE SYMBOLaPASSIVE-PULL-DOWN-OUTPUT SYMBOL",
      "cUP-OUTPUT SYMBOLaDIRECT CURRENT SYMBOL FORM TWO",
      "aSOFTWARE-FUNCTION SYMBOLaAPL FUNCTIONAL SYMBOL QUAD",
      "aDECIMAL SEPARATOR KEY SYMBOLaPREVIOUS PAGEaNEXT PAGE",
      "aPRINT SCREEN SYMBOLaCLEAR SCREEN SYMBOLaLEFT ",
      "PARENTHESIS UPPER HOOKcEXTENSIONcLOWER HOOKaRIGHT ",
      "PARENTHESIS UPPER HOOKcEXTENSIONcLOWER HOOKaLEFT ",
      "SQUARE BRACKET UPPER CORNERdEXTENSIONdLOWER CORNER",
      "aRIGHT SQUARE BRACKET UPPER CORNERdEXTENSIONdLOWER ",
      "CORNERaLEFT CURLY BRACKET UPPER HOOKdMIDDLE PIECE",
      "dLOWER HOOKaCURLY BRACKET EXTENSIONaRIGHT CURLY ",
      "BRACKET UPPER HOOKdMIDDLE PIECEdLOWER HOOKaINTEGRAL ",
      "EXTENSIONaHORIZONTAL LINE EXTENSIONaUPPER LEFT OR ",
      "LOWER RIGHT CURLY BRACKET SECTIONbRIGHT OR LOWER ",
      "LEFT CURLY BRACKET SECTIONaSUMMATION TOPbBOTTOMaTOP ",
      "SQUARE BRACKETaBOTTOM SQUARE BRACKETcBRACKET OVER ",
      "TOP SQUARE BRACKETaRADICAL SYMBOL BOTTOMaLEFT ",
      "VERTICAL BOX LINEaRIGHT VERTICAL BOX LINEaHORIZONTAL ",
      "SCAN LINE-1d3d7d9aDENTISTRY SYMBOL LIGHT VERTICAL ",
      "AND TOP RIGHTfBOTTOM RIGHTeWITH CIRCLEdDOWN AND ",
      "HORIZONTAL WITH CIRCLEdUP AND HORIZONTAL WITH CIRCLE",
      "dVERTICAL WITH TRIANGLEdDOWN AND HORIZONTAL WITH ",
      "TRIANGLEdUP AND HORIZONTAL WITH TRIANGLEdVERTICAL ",
      "AND WAVEdDOWN AND HORIZONTAL WITH WAVEdUP AND ",
      "HORIZONTAL WITH WAVEdDOWN AND HORIZONTALdUP AND ",
      "HORIZONTALdVERTICAL AND TOP LEFTfBOTTOM LEFTaSQUARE ",
      "FOOTaRETURN SYMBOLaEJECT SYMBOLaVERTICAL LINE ",
      "EXTENSIONaMETRICAL BREVEbLONG OVER SHORTbSHORT OVER ",
      "LONGbLONG OVER TWO SHORTSbTWO SHORTS OVER LONGdJOINED",
      "bTRISEMEbTETRASEMEbPENTASEMEaEARTH GROUNDaFUSEaTOP ",
      "PARENTHESISaBOTTOM PARENTHESISaTOP CURLY BRACKET",
      "aBOTTOM CURLY BRACKETaTOP TORTOISE SHELL BRACKET",
      "aBOTTOM TORTOISE SHELL BRACKETaWHITE TRAPEZIUM",
      "aBENZENE RING WITH CIRCLEaSTRAIGHTNESSaFLATNESSaAC ",
      "CURRENTaELECTRICAL INTERSECTIONaDECIMAL EXPONENT ",
      "SYMBOLaBLACK RIGHT-POINTING DOUBLE TRIANGLEbLEFT-",
      "POINTING DOUBLE TRIANGLEbUP-POINTING DOUBLE TRIANGLE",
      "bDOWN-POINTING DOUBLE TRIANGLEbRIGHT-POINTING DOUBLE ",
      "TRIANGLE WITH VERTICAL BARbLEFT-POINTING DOUBLE ",
      "TRIANGLE WITH VERTICAL BARbRIGHT-POINTING TRIANGLE ",
      "WITH DOUBLE VERTICAL BARaALARM CLOCKaSTOPWATCHaTIMER ",
      "CLOCKaHOURGLASS WITH FLOWING SANDaBLACK MEDIUM LEFT-",
      "POINTING TRIANGLEcRIGHT-POINTING TRIANGLEcUP-",
      "POINTING TRIANGLEcDOWN-POINTING TRIANGLEaDOUBLE ",
      "VERTICAL BARaBLACK SQUARE FOR STOPbCIRCLE FOR RECORD",
      "aPOWER SYMBOLbON-OFF SYMBOLbON SYMBOLbSLEEP SYMBOL",
      "aOBSERVER EYE SYMBOLaSYMBOL FOR NULLcSTART OF HEADING",
      "eTEXTcEND OF TEXTeTRANSMISSIONcENQUIRYcACKNOWLEDGE",
      "cBELLcBACKSPACEcHORIZONTAL TABULATIONcLINE FEED",
      "cVERTICAL TABULATIONcFORM FEEDcCARRIAGE RETURNcSHIFT ",
      "OUTdINcDATA LINK ESCAPEcDEVICE CONTROL ONEeTWOeTHREE",
      "eFOURcNEGATIVE ACKNOWLEDGEcSYNCHRONOUS IDLEcEND OF ",
      "TRANSMISSION BLOCKcCANCELcEND OF MEDIUMcSUBSTITUTE",
      "cESCAPEcFILE SEPARATORcGROUP SEPARATORcRECORD ",
      "SEPARATORcUNIT SEPARATORcSPACEcDELETEaBLANK SYMBOL",
      "aOPEN BOXaSYMBOL FOR NEWLINEcDELETE FORM TWO",
      "cSUBSTITUTE FORM TWO"]⟩,
    ⟨0x2440, ["aOCR HOOKbCHAIRbFORKbINVERTED FORKbBELT ",
      "BUCKLEbBOW TIEbBRANCH BANK IDENTIFICATIONbAMOUNT OF ",
      "CHECKbDASHbCUSTOMER ACCOUNT NUMBERbDOUBLE BACKSLASH"]⟩,
    ⟨0x2460, ["aCIRCLED DIGIT ONEcTWOcTHREEcFOURcFIVEcSIX",
      "cSEVENcEIGHTcNINEbNUMBER TENcELEVENcTWELVEcTHIRTEEN",
      "cFOURTEENcFIFTEENcSIXTEENcSEVENTEENcEIGHTEENcNINETEEN",
      "cTWENTYaPARENTHESIZED DIGIT ONEcTWOcTHREEcFOURcFIVE",
      "cSIXcSEVENcEIGHTcNINEbNUMBER TENcELEVENcTWELVE",
      "cTHIRTEENcFOURTEENcFIFTEENcSIXTEENcSEVENTEENcEIGHTEEN",
      "cNINETEENcTWENTYaDIGIT ONE FULL STOPbTWO FULL STOP",
      "bTHREE FULL STOPbFOUR FULL STOPbFIVE FULL STOPbSIX ",
      "FULL STOPbSEVEN FULL STOPbEIGHT FULL STOPbNINE FULL ",
      "STOPaNUMBER TEN FULL STOPbELEVEN FULL STOPbTWELVE ",
      "FULL STOPbTHIRTEEN FULL STOPbFOURTEEN FULL STOP",
      "bFIFTEEN FULL STOPbSIXTEEN FULL STOPbSEVENTEEN FULL ",
      "STOPbEIGHTEEN FULL STOPbNINETEEN FULL STOPbTWENTY ",
      "FULL STOPaPARENTHESIZED LATIN SMALL LETTER AeBeCeDeE",
      "eFeGeHeIeJeKeLeMeNeOePeQeReSeTeUeVeWeXeYeZaCIRCLED ",
      "LATIN CAPITAL LETTER AeBeCeDeEeFeGeHeIeJeKeLeMeNeOeP",
      "eQeReSeTeUeVeWeXeYeZcSMALL LETTER AeBeCeDeEeFeGeHeIeJ",
      "eKeLeMeNeOePeQeReSeTeUeVeWeXeYeZbDIGIT ZEROaNEGATIVE ",
      "CIRCLED NUMBER ELEVENdTWELVEdTHIRTEENdFOURTEEN",
      "dFIFTEENdSIXTEENdSEVENTEENdEIGHTEENdNINETEENdTWENTY",
      "aDOUBLE CIRCLED DIGIT ONEdTWOdTHREEdFOURdFIVEdSIX",
      "dSEVENdEIGHTdNINEcNUMBER TENaNEGATIVE CIRCLED DIGIT ",
      "ZEROaBOX DRAWINGS LIGHT HORIZONTALcHEAVY HORIZONTAL",
      "cLIGHT VERTICALcHEAVY VERTICALcLIGHT TRIPLE DASH ",
      "HORIZONTALcHEAVY TRIPLE DASH HORIZONTALcLIGHT TRIPLE ",
      "DASH VERTICALcHEAVY TRIPLE DASH VERTICALcLIGHT ",
      "QUADRUPLE DASH HORIZONTALcHEAVY QUADRUPLE DASH ",
      "HORIZONTALcLIGHT QUADRUPLE DASH VERTICALcHEAVY ",
      "QUADRUPLE DASH VERTICALcLIGHT DOWN AND RIGHTcDOWN ",
      "LIGHT AND RIGHT HEAVYdHEAVY AND RIGHT LIGHTcHEAVY ",
      "DOWN AND RIGHTcLIGHT DOWN AND LEFTcDOWN LIGHT AND ",
      "LEFT HEAVYdHEAVY AND LEFT LIGHTcHEAVY DOWN AND LEFT",
      "cLIGHT UP AND RIGHTcUP LIGHT AND RIGHT HEAVYdHEAVY ",
      "AND RIGHT LIGHTcHEAVY UP AND RIGHTcLIGHT UP AND LEFT",
      "cUP LIGHT AND LEFT HEAVYdHEAVY AND LEFT LIGHTcHEAVY ",
      "UP AND LEFTcLIGHT VERTICAL AND RIGHTcVERTICAL LIGHT ",
      "AND RIGHT HEAVYcUP HEAVY AND RIGHT DOWN LIGHTcDOWN ",
      "HEAVY AND RIGHT UP LIGHTcVERTICAL HEAVY AND RIGHT ",
      "LIGHTcDOWN LIGHT AND RIGHT UP HEAVYcUP LIGHT AND ",
      "RIGHT DOWN HEAVYcHEAVY VERTICAL AND RIGHTcLIGHT ",
      "VERTICAL AND LEFTcVERTICAL LIGHT AND LEFT HEAVYcUP ",
      "HEAVY AND LEFT DOWN LIGHTcDOWN HEAVY AND LEFT UP ",
      "LIGHTcVERTICAL HEAVY AND LEFT LIGHTcDOWN LIGHT AND ",
      "LEFT UP HEAVYcUP LIGHT AND LEFT DOWN HEAVYcHEAVY ",
      "VERTICAL AND LEFTcLIGHT DOWN AND HORIZONTALcLEFT ",
      "HEAVY AND RIGHT DOWN LIGHTcRIGHT HEAVY AND LEFT DOWN ",
      "LIGHTcDOWN LIGHT AND HORIZONTAL HEAVYdHEAVY AND ",
      "HORIZONTAL LIGHTcRIGHT LIGHT AND LEFT DOWN HEAVY",
      "cLEFT LIGHT AND RIGHT DOWN HEAVYcHEAVY DOWN AND ",
      "HORIZONTALcLIGHT UP AND HORIZONTALcLEFT HEAVY AND ",
      "RIGHT UP LIGHTcRIGHT HEAVY AND LEFT UP LIGHTcUP ",
      "LIGHT AND HORIZONTAL HEAVYdHEAVY AND HORIZONTAL LIGHT",
      "cRIGHT LIGHT AND LEFT UP HEAVYcLEFT LIGHT AND RIGHT ",
      "UP HEAVYcHEAVY UP AND HORIZONTALcLIGHT VERTICAL AND ",
      "HORIZONTALcLEFT HEAVY AND RIGHT VERTICAL LIGHTcRIGHT ",
      "HEAVY AND LEFT VERTICAL LIGHTcVERTICAL LIGHT AND ",
      "HORIZONTAL HEAVYcUP HEAVY AND DOWN HORIZONTAL LIGHT",
      "cDOWN HEAVY AND UP HORIZONTAL LIGHTcVERTICAL HEAVY ",
      "AND HORIZONTAL LIGHTcLEFT UP HEAVY AND RIGHT DOWN ",
      "LIGHTcRIGHT UP HEAVY AND LEFT DOWN LIGHTcLEFT DOWN ",
      "HEAVY AND RIGHT UP LIGHTcRIGHT DOWN HEAVY AND LEFT ",
      "UP LIGHTcDOWN LIGHT AND UP HORIZONTAL HEAVYcUP LIGHT ",
      "AND DOWN HORIZONTAL HEAVYcRIGHT LIGHT AND LEFT ",
      "VERTICAL HEAVYcLEFT LIGHT AND RIGHT VERTICAL HEAVY",
      "cHEAVY VERTICAL AND HORIZONTALcLIGHT DOUBLE DASH ",
      "HORIZONTALcHEAVY DOUBLE DASH HORIZONTALcLIGHT DOUBLE ",
      "DASH VERTICALcHEAVY DOUBLE DASH VERTICALcDOUBLE ",
      "HORIZONTALdVERTICALcDOWN SINGLE AND RIGHT DOUBLE",
      "dDOUBLE AND RIGHT SINGLEcDOUBLE DOWN AND RIGHTcDOWN ",
      "SINGLE AND LEFT DOUBLEdDOUBLE AND LEFT SINGLEcDOUBLE ",
      "DOWN AND LEFTcUP SINGLE AND RIGHT DOUBLEdDOUBLE AND ",
      "RIGHT SINGLEcDOUBLE UP AND RIGHTcUP SINGLE AND LEFT ",
      "DOUBLEdDOUBLE AND LEFT SINGLEcDOUBLE UP AND LEFT",
      "cVERTICAL SINGLE AND RIGHT DOUBLEdDOUBLE AND RIGHT ",
      "SINGLEcDOUBLE VERTICAL AND RIGHTcVERTICAL SINGLE AND ",
      "LEFT DOUBLEdDOUBLE AND LEFT SINGLEcDOUBLE VERTICAL ",
      "AND LEFTcDOWN SINGLE AND HORIZONTAL DOUBLEdDOUBLE ",
      "AND HORIZONTAL SINGLEcDOUBLE DOWN AND HORIZONTALcUP ",
      "SINGLE AND HORIZONTAL DOUBLEdDOUBLE AND HORIZONTAL ",
      "SINGLEcDOUBLE UP AND HORIZONTALcVERTICAL SINGLE AND ",
      "HORIZONTAL DOUBLEdDOUBLE AND HORIZONTAL SINGLE",
      "cDOUBLE VERTICAL AND HORIZONTALcLIGHT ARC DOWN AND ",
      "RIGHTgLEFTeUP AND LEFTgRIGHTdDIAGONAL UPPER RIGHT TO ",
      "LOWER LEFTfLEFT TO LOWER RIGHTeCROSSdLEFTdUPdRIGHT",
      "dDOWNcHEAVY LEFTdUPdRIGHTdDOWNcLIGHT LEFT AND HEAVY ",
      "RIGHTdUP AND HEAVY DOWNcHEAVY LEFT AND LIGHT RIGHT",
      "dUP AND LIGHT DOWNaUPPER HALF BLOCKaLOWER ONE EIGHTH ",
      "BLOCKcQUARTER BLOCKbTHREE EIGHTHS BLOCKbHALF BLOCK",
      "bFIVE EIGHTHS BLOCKbTHREE QUARTERS BLOCKbSEVEN ",
      "EIGHTHS BLOCKaFULL BLOCKaLEFT SEVEN EIGHTHS BLOCK",
      "bTHREE QUARTERS BLOCKbFIVE EIGHTHS BLOCKbHALF BLOCK",
      "bTHREE EIGHTHS BLOCKbONE QUARTER BLOCKcEIGHTH BLOCK",
      "aRIGHT HALF BLOCKaLIGHT SHADEaMEDIUM SHADEaDARK SHADE",
      "aUPPER ONE EIGHTH BLOCKaRIGHT ONE EIGHTH BLOCK",
      "aQUADRANT LOWER LEFTcRIGHTbUPPER LEFTcLEFT AND LOWER ",
      "LEFT AND LOWER RIGHTfRIGHTeUPPER RIGHT AND LOWER LEFT",
      "iRIGHTcRIGHTcRIGHT AND LOWER LEFTfLEFT AND LOWER ",
      "RIGHTaBLACK SQUAREaWHITE SQUAREbSQUARE WITH ROUNDED ",
      "CORNERScCONTAINING BLACK SMALL SQUAREaSQUARE WITH ",
      "HORIZONTAL FILLcVERTICAL FILLcORTHOGONAL CROSSHATCH ",
      "FILLcUPPER LEFT TO LOWER RIGHT FILLdRIGHT TO LOWER ",
      "LEFT FILLcDIAGONAL CROSSHATCH FILLaBLACK SMALL SQUARE",
      "aWHITE SMALL SQUAREaBLACK RECTANGLEaWHITE RECTANGLE",
      "aBLACK VERTICAL RECTANGLEaWHITE VERTICAL RECTANGLE",
      "aBLACK PARALLELOGRAMaWHITE PARALLELOGRAMaBLACK UP-",
      "POINTING TRIANGLEaWHITE UP-POINTING TRIANGLEaBLACK ",
      "UP-POINTING SMALL TRIANGLEaWHITE UP-POINTING SMALL ",
      "TRIANGLEaBLACK RIGHT-POINTING TRIANGLEaWHITE RIGHT-",
      "POINTING TRIANGLEaBLACK RIGHT-POINTING SMALL TRIANGLE",
      "aWHITE RIGHT-POINTING SMALL TRIANGLEaBLACK RIGHT-",
      "POINTING POINTERaWHITE RIGHT-POINTING POINTERaBLACK ",
      "DOWN-POINTING TRIANGLEaWHITE DOWN-POINTING TRIANGLE",
      "aBLACK DOWN-POINTING SMALL TRIANGLEaWHITE DOWN-",
      "POINTING SMALL TRIANGLEaBLACK LEFT-POINTING TRIANGLE",
      "aWHITE LEFT-POINTING TRIANGLEaBLACK LEFT-POINTING ",
      "SMALL TRIANGLEaWHITE LEFT-POINTING SMALL TRIANGLE",
      "aBLACK LEFT-POINTING POINTERaWHITE LEFT-POINTING ",
      "POINTERaBLACK DIAMONDaWHITE DIAMONDbDIAMOND ",
      "CONTAINING BLACK SMALL DIAMONDaFISHEYEaLOZENGEaWHITE ",
      "CIRCLEaDOTTED CIRCLEaCIRCLE WITH VERTICAL FILL",
      "aBULLSEYEaBLACK CIRCLEaCIRCLE WITH LEFT HALF BLACK",
      "cRIGHT HALF BLACKcLOWER HALF BLACKcUPPER HALF BLACK",
      "dRIGHT QUADRANT BLACKcALL BUT UPPER LEFT QUADRANT ",
      "BLACKaLEFT HALF BLACK CIRCLEaRIGHT HALF BLACK CIRCLE",
      "aINVERSE BULLETbWHITE CIRCLEaUPPER HALF INVERSE ",
      "WHITE CIRCLEaLOWER HALF INVERSE WHITE CIRCLEaUPPER ",
      "LEFT QUADRANT CIRCULAR ARCbRIGHT QUADRANT CIRCULAR ",
      "ARCaLOWER RIGHT QUADRANT CIRCULAR ARCbLEFT QUADRANT ",
      "CIRCULAR ARCaUPPER HALF CIRCLEaLOWER HALF CIRCLE",
      "aBLACK LOWER RIGHT TRIANGLEcLEFT TRIANGLEbUPPER LEFT ",
      "TRIANGLEcRIGHT TRIANGLEaWHITE BULLETaSQUARE WITH ",
      "LEFT HALF BLACKcRIGHT HALF BLACKcUPPER LEFT DIAGONAL ",
      "HALF BLACKcLOWER RIGHT DIAGONAL HALF BLACKaWHITE ",
      "SQUARE WITH VERTICAL BISECTING LINEbUP-POINTING ",
      "TRIANGLE WITH DOTaUP-POINTING TRIANGLE WITH LEFT ",
      "HALF BLACKeRIGHT HALF BLACKaLARGE CIRCLEaWHITE ",
      "SQUARE WITH UPPER LEFT QUADRANTdLOWER LEFT QUADRANT",
      "eRIGHT QUADRANTdUPPER RIGHT QUADRANTbCIRCLE WITH ",
      "UPPER LEFT QUADRANTdLOWER LEFT QUADRANTeRIGHT ",
      "QUADRANTdUPPER RIGHT QUADRANTaUPPER LEFT TRIANGLE",
      "bRIGHT TRIANGLEaLOWER LEFT TRIANGLEaWHITE MEDIUM ",
      "SQUAREaBLACK MEDIUM SQUAREaWHITE MEDIUM SMALL SQUARE",
      "aBLACK MEDIUM SMALL SQUAREaLOWER RIGHT TRIANGLE",
      "aBLACK SUN WITH RAYSaCLOUDaUMBRELLAaSNOWMANaCOMET",
      "aBLACK STARaWHITE STARaLIGHTNINGaTHUNDERSTORMaSUN",
      "aASCENDING NODEaDESCENDING NODEaCONJUNCTION",
      "aOPPOSITIONaBLACK TELEPHONEaWHITE TELEPHONEaBALLOT ",
      "BOXbBOX WITH CHECKdXaSALTIREaUMBRELLA WITH RAIN DROPS",
      "aHOT BEVERAGEaWHITE SHOGI PIECEaBLACK SHOGI PIECE",
      "aSHAMROCKaREVERSED ROTATED FLORAL HEART BULLETaBLACK ",
      "LEFT POINTING INDEXbRIGHT POINTING INDEXaWHITE LEFT ",
      "POINTING INDEXbUP POINTING INDEXbRIGHT POINTING INDEX",
      "bDOWN POINTING INDEXaSKULL AND CROSSBONESaCAUTION ",
      "SIGNaRADIOACTIVE SIGNaBIOHAZARD SIGNaCADUCEUSaANKH",
      "aORTHODOX CROSSaCHI RHOaCROSS OF LORRAINEcJERUSALEM",
      "aSTAR AND CRESCENTaFARSI SYMBOLaADI SHAKTIaHAMMER ",
      "AND SICKLEaPEACE SYMBOLaYIN YANGaTRIGRAM FOR HEAVEN",
      "cLAKEcFIREcTHUNDERcWINDcWATERcMOUNTAINcEARTHaWHEEL ",
      "OF DHARMAaWHITE FROWNING FACEbSMILING FACEaBLACK ",
      "SMILING FACEaWHITE SUN WITH RAYSaFIRST QUARTER MOON",
      "aLAST QUARTER MOONaMERCURYaFEMALE SIGNaEARTHaMALE ",
      "SIGNaJUPITERaSATURNaURANUSaNEPTUNEaPLUTOaARIESaTAURUS",
      "aGEMINIaCANCERaLEOaVIRGOaLIBRAaSCORPIUSaSAGITTARIUS",
      "aCAPRICORNaAQUARIUSaPISCESaWHITE CHESS KINGcQUEEN",
      "cROOKcBISHOPcKNIGHTcPAWNaBLACK CHESS KINGcQUEENcROOK",
      "cBISHOPcKNIGHTcPAWNbSPADE SUITaWHITE HEART SUIT",
      "bDIAMOND SUITaBLACK CLUB SUITaWHITE SPADE SUITaBLACK ",
      "HEART SUITbDIAMOND SUITaWHITE CLUB SUITaHOT SPRINGS",
      "aQUARTER NOTEaEIGHTH NOTEaBEAMED EIGHTH NOTES",
      "bSIXTEENTH NOTESaMUSIC FLAT SIGNbNATURAL SIGNbSHARP ",
      "SIGNaWEST SYRIAC CROSSaEAST SYRIAC CROSSaUNIVERSAL ",
      "RECYCLING SYMBOLaRECYCLING SYMBOL FOR TYPE-1 PLASTICS",
      "e2 PLASTICSe3 PLASTICSe4 PLASTICSe5 PLASTICSe6 ",
      "PLASTICSe7 PLASTICSdGENERIC MATERIALSaBLACK ",
      "UNIVERSAL RECYCLING SYMBOLaRECYCLED PAPER SYMBOL",
      "aPARTIALLY-RECYCLED PAPER SYMBOLaPERMANENT PAPER SIGN",
      "aWHEELCHAIR SYMBOLaDIE FACE-1c2c3c4c5c6aWHITE CIRCLE ",
      "WITH DOT RIGHTdTWO DOTSaBLACK CIRCLE WITH WHITE DOT ",
      "RIGHTdTWO WHITE DOTSaMONOGRAM FOR YANGcYINaDIGRAM ",
      "FOR GREATER YANGcLESSER YINdYANGcGREATER YINaWHITE ",
      "FLAGaBLACK FLAGaHAMMER AND PICKaANCHORaCROSSED SWORDS",
      "aSTAFF OF AESCULAPIUSaSCALESaALEMBICaFLOWERaGEAR",
      "aSTAFF OF HERMESaATOM SYMBOLaFLEUR-DE-LISaOUTLINED ",
      "WHITE STARaTHREE LINES CONVERGING RIGHTdLEFTaWARNING ",
      "SIGNaHIGH VOLTAGE SIGNaDOUBLED FEMALE SIGNbMALE SIGN",
      "aINTERLOCKED FEMALE AND MALE SIGNaMALE AND FEMALE ",
      "SIGNbWITH STROKE SIGNdAND MALE AND FEMALE SIGN",
      "aVERTICAL MALE WITH STROKE SIGNaHORIZONTAL MALE WITH ",
      "STROKE SIGNaMEDIUM WHITE CIRCLEbBLACK CIRCLEbSMALL ",
      "WHITE CIRCLEaMARRIAGE SYMBOLaDIVORCE SYMBOL",
      "aUNMARRIED PARTNERSHIP SYMBOLaCOFFINaFUNERAL URN",
      "aNEUTERaCERESaPALLASaJUNOaVESTAaCHIRONaBLACK MOON ",
      "LILITHaSEXTILEaSEMISEXTILEaQUINCUNXaSESQUIQUADRATE",
      "aSOCCER BALLaBASEBALLaSQUARED KEYaWHITE DRAUGHTS MAN",
      "cKINGaBLACK DRAUGHTS MANcKINGaSNOWMAN WITHOUT SNOW",
      "aSUN BEHIND CLOUDaRAINaBLACK SNOWMANaTHUNDER CLOUD ",
      "AND RAINaTURNED WHITE SHOGI PIECEbBLACK SHOGI PIECE",
      "aWHITE DIAMOND IN SQUAREaCROSSING LANESaDISABLED CAR",
      "aOPHIUCHUSaPICKaCAR SLIDINGaHELMET WITH WHITE CROSS",
      "aCIRCLED CROSSING LANESaCHAINSaNO ENTRYaALTERNATE ",
      "ONE-WAY LEFT WAY TRAFFICaBLACK TWO-WAY LEFT WAY ",
      "TRAFFICaWHITE TWO-WAY LEFT WAY TRAFFICaBLACK LEFT ",
      "LANE MERGEaWHITE LEFT LANE MERGEaDRIVE SLOW SIGN",
      "aHEAVY WHITE DOWN-POINTING TRIANGLEaLEFT CLOSED ENTRY",
      "aSQUARED SALTIREaFALLING DIAGONAL IN WHITE CIRCLE IN ",
      "BLACK SQUAREaBLACK TRUCKaRESTRICTED LEFT ENTRY-1d2",
      "aASTRONOMICAL SYMBOL FOR URANUSaHEAVY CIRCLE WITH ",
      "STROKE AND TWO DOTS ABOVEaPENTAGRAMaRIGHT-HANDED ",
      "INTERLACED PENTAGRAMaLEFT-HANDED INTERLACED PENTAGRAM",
      "aINVERTED PENTAGRAMaBLACK CROSS ON SHIELDaSHINTO ",
      "SHRINEaCHURCHaCASTLEaHISTORIC SITEaGEAR WITHOUT HUB",
      "bWITH HANDLESaMAP SYMBOL FOR LIGHTHOUSEaMOUNTAIN",
      "aUMBRELLA ON GROUNDaFOUNTAINaFLAG IN HOLEaFERRY",
      "aSAILBOATaSQUARE FOUR CORNERSaSKIERaICE SKATEaPERSON ",
      "WITH BALLaTENTaJAPANESE BANK SYMBOLaHEADSTONE ",
      "GRAVEYARD SYMBOLaFUEL PUMPaCUP ON BLACK SQUAREaWHITE ",
      "FLAG WITH HORIZONTAL MIDDLE BLACK STRIPEaBLACK ",
      "SAFETY SCISSORSaUPPER BLADE SCISSORSaBLACK SCISSORS",
      "aLOWER BLADE SCISSORSaWHITE SCISSORSbHEAVY CHECK MARK",
      "aTELEPHONE LOCATION SIGNaTAPE DRIVEaAIRPLANEaENVELOPE",
      "aRAISED FISTbHANDaVICTORY HANDaWRITING HANDaLOWER ",
      "RIGHT PENCILaPENCILaUPPER RIGHT PENCILaWHITE NIB",
      "aBLACK NIBaCHECK MARKaHEAVY CHECK MARK",
      "aMULTIPLICATION XaHEAVY MULTIPLICATION XaBALLOT X",
      "aHEAVY BALLOT XaOUTLINED GREEK CROSSaHEAVY GREEK ",
      "CROSSaOPEN CENTRE CROSSaHEAVY OPEN CENTRE CROSS",
      "aLATIN CROSSaSHADOWED WHITE LATIN CROSSaOUTLINED ",
      "LATIN CROSSaMALTESE CROSSaSTAR OF DAVIDaFOUR ",
      "TEARDROP-SPOKED ASTERISKbBALLOON-SPOKED ASTERISK",
      "aHEAVY FOUR BALLOON-SPOKED ASTERISKaFOUR CLUB-SPOKED ",
      "ASTERISKaBLACK FOUR POINTED STARaWHITE FOUR POINTED ",
      "STARaSPARKLESaSTRESS OUTLINED WHITE STARaCIRCLED ",
      "WHITE STARaOPEN CENTRE BLACK STARaBLACK CENTRE WHITE ",
      "STARaOUTLINED BLACK STARaHEAVY OUTLINED BLACK STAR",
      "aPINWHEEL STARaSHADOWED WHITE STARaHEAVY ASTERISK",
      "aOPEN CENTRE ASTERISKaEIGHT SPOKED ASTERISKbPOINTED ",
      "BLACK STARcPINWHEEL STARaSIX POINTED BLACK STAR",
      "aEIGHT POINTED RECTILINEAR BLACK STARaHEAVY EIGHT ",
      "POINTED RECTILINEAR BLACK STARaTWELVE POINTED BLACK ",
      "STARaSIXTEEN POINTED ASTERISKaTEARDROP-SPOKED ",
      "ASTERISKaOPEN CENTRE TEARDROP-SPOKED ASTERISKaHEAVY ",
      "TEARDROP-SPOKED ASTERISKaSIX PETALLED BLACK AND ",
      "WHITE FLORETTEaBLACK FLORETTEaWHITE FLORETTEaEIGHT ",
      "PETALLED OUTLINED BLACK FLORETTEaCIRCLED OPEN CENTRE ",
      "EIGHT POINTED STARaHEAVY TEARDROP-SPOKED PINWHEEL ",
      "ASTERISKaSNOWFLAKEaTIGHT TRIFOLIATE SNOWFLAKEaHEAVY ",
      "CHEVRON SNOWFLAKEaSPARKLEaHEAVY SPARKLEaBALLOON-",
      "SPOKED ASTERISKaEIGHT TEARDROP-SPOKED PROPELLER ",
      "ASTERISKaHEAVY EIGHT TEARDROP-SPOKED PROPELLER ",
      "ASTERISKaCROSS MARKaSHADOWED WHITE CIRCLEaNEGATIVE ",
      "SQUARED CROSS MARKaLOWER RIGHT DROP-SHADOWED WHITE ",
      "SQUAREaUPPER RIGHT DROP-SHADOWED WHITE SQUAREaLOWER ",
      "RIGHT SHADOWED WHITE SQUAREaUPPER RIGHT SHADOWED ",
      "WHITE SQUAREaBLACK QUESTION MARK ORNAMENTaWHITE ",
      "QUESTION MARK ORNAMENTbEXCLAMATION MARK ORNAMENT",
      "aBLACK DIAMOND MINUS WHITE XaHEAVY EXCLAMATION MARK ",
      "SYMBOLaLIGHT VERTICAL BARaMEDIUM VERTICAL BARaHEAVY ",
      "VERTICAL BARbSINGLE TURNED COMMA QUOTATION MARK ",
      "ORNAMENTcCOMMA QUOTATION MARK ORNAMENTbDOUBLE TURNED ",
      "COMMA QUOTATION MARK ORNAMENTcCOMMA QUOTATION MARK ",
      "ORNAMENTbLOW SINGLE COMMA QUOTATION MARK ORNAMENT",
      "cDOUBLE COMMA QUOTATION MARK ORNAMENTaCURVED STEM ",
      "PARAGRAPH SIGN ORNAMENTaHEAVY EXCLAMATION MARK ",
      "ORNAMENTbHEART EXCLAMATION MARK ORNAMENTbBLACK HEART",
      "aROTATED HEAVY BLACK HEART BULLETaFLORAL HEART",
      "aROTATED FLORAL HEART BULLETaMEDIUM LEFT PARENTHESIS ",
      "ORNAMENTbRIGHT PARENTHESIS ORNAMENTbFLATTENED LEFT ",
      "PARENTHESIS ORNAMENTcRIGHT PARENTHESIS ORNAMENTbLEFT-",
      "POINTING ANGLE BRACKET ORNAMENTbRIGHT-POINTING ANGLE ",
      "BRACKET ORNAMENTaHEAVY LEFT-POINTING ANGLE QUOTATION ",
      "MARK ORNAMENTbRIGHT-POINTING ANGLE QUOTATION MARK ",
      "ORNAMENTbLEFT-POINTING ANGLE BRACKET ORNAMENTbRIGHT-",
      "POINTING ANGLE BRACKET ORNAMENTaLIGHT LEFT TORTOISE ",
      "SHELL BRACKET ORNAMENTbRIGHT TORTOISE SHELL BRACKET ",
      "ORNAMENTaMEDIUM LEFT CURLY BRACKET ORNAMENTbRIGHT ",
      "CURLY BRACKET ORNAMENTaDINGBAT NEGATIVE CIRCLED ",
      "DIGIT ONEeTWOeTHREEeFOUReFIVEeSIXeSEVENeEIGHTeNINE",
      "dNUMBER TENbCIRCLED SANS-SERIF DIGIT ONEfTWOfTHREE",
      "fFOURfFIVEfSIXfSEVENfEIGHTfNINEeNUMBER TENbNEGATIVE ",
      "CIRCLED SANS-SERIF DIGIT ONEgTWOgTHREEgFOURgFIVEgSIX",
      "gSEVENgEIGHTgNINEfNUMBER TENaHEAVY WIDE-HEADED ",
      "RIGHTWARDS ARROWbPLUS SIGNbMINUS SIGNbDIVISION SIGN",
      "bSOUTH EAST ARROWbRIGHTWARDS ARROWbNORTH EAST ARROW",
      "aDRAFTING POINT RIGHTWARDS ARROWaHEAVY ROUND-TIPPED ",
      "RIGHTWARDS ARROWaTRIANGLE-HEADED RIGHTWARDS ARROW",
      "aHEAVY TRIANGLE-HEADED RIGHTWARDS ARROWaDASHED ",
      "TRIANGLE-HEADED RIGHTWARDS ARROWaHEAVY DASHED ",
      "TRIANGLE-HEADED RIGHTWARDS ARROWaBLACK RIGHTWARDS ",
      "ARROWaTHREE-D TOP-LIGHTED RIGHTWARDS ARROWHEAD",
      "cBOTTOM-LIGHTED RIGHTWARDS ARROWHEADaBLACK ",
      "RIGHTWARDS ARROWHEADaHEAVY BLACK CURVED DOWNWARDS ",
      "AND RIGHTWARDS ARROWdUPWARDS AND RIGHTWARDS ARROW",
      "aSQUAT BLACK RIGHTWARDS ARROWaHEAVY CONCAVE-POINTED ",
      "BLACK RIGHTWARDS ARROWaRIGHT-SHADED WHITE RIGHTWARDS ",
      "ARROWaLEFT-SHADED WHITE RIGHTWARDS ARROWaBACK-TILTED ",
      "SHADOWED WHITE RIGHTWARDS ARROWaFRONT-TILTED ",
      "SHADOWED WHITE RIGHTWARDS ARROWaHEAVY LOWER RIGHT-",
      "SHADOWED WHITE RIGHTWARDS ARROWbUPPER RIGHT-SHADOWED ",
      "WHITE RIGHTWARDS ARROWaNOTCHED LOWER RIGHT-SHADOWED ",
      "WHITE RIGHTWARDS ARROWaCURLY LOOPaNOTCHED UPPER ",
      "RIGHT-SHADOWED WHITE RIGHTWARDS ARROWaCIRCLED HEAVY ",
      "WHITE RIGHTWARDS ARROWaWHITE-FEATHERED RIGHTWARDS ",
      "ARROWaBLACK-FEATHERED SOUTH EAST ARROWcRIGHTWARDS ",
      "ARROWcNORTH EAST ARROWaHEAVY BLACK-FEATHERED SOUTH ",
      "EAST ARROWdRIGHTWARDS ARROWdNORTH EAST ARROW",
      "aTEARDROP-BARBED RIGHTWARDS ARROWaHEAVY TEARDROP-",
      "SHANKED RIGHTWARDS ARROWaWEDGE-TAILED RIGHTWARDS ",
      "ARROWaHEAVY WEDGE-TAILED RIGHTWARDS ARROWaOPEN-",
      "OUTLINED RIGHTWARDS ARROWaDOUBLE CURLY LOOPaTHREE ",
      "DIMENSIONAL ANGLEaWHITE TRIANGLE CONTAINING SMALL ",
      "WHITE TRIANGLEaPERPENDICULARaOPEN SUBSETbSUPERSET",
      "aLEFT S-SHAPED BAG DELIMITERaRIGHT S-SHAPED BAG ",
      "DELIMITERaOR WITH DOT INSIDEaREVERSE SOLIDUS ",
      "PRECEDING SUBSETaSUPERSET PRECEDING SOLIDUSaVERTICAL ",
      "BAR WITH HORIZONTAL STROKEaMATHEMATICAL RISING ",
      "DIAGONALaLONG DIVISIONaMATHEMATICAL FALLING DIAGONAL",
      "aSQUARED LOGICAL ANDcORaWHITE DIAMOND WITH CENTRED ",
      "DOTaAND WITH DOTaELEMENT OF OPENING UPWARDSaLOWER ",
      "RIGHT CORNER WITH DOTaUPPER LEFT CORNER WITH DOT",
      "aLEFT OUTER JOINaRIGHT OUTER JOINaFULL OUTER JOIN",
      "aLARGE UP TACKbDOWN TACKaLEFT AND RIGHT DOUBLE ",
      "TURNSTILEdTACKbMULTIMAPaLONG RIGHT TACKbLEFT TACKaUP ",
      "TACK WITH CIRCLE ABOVEaLOZENGE DIVIDED BY HORIZONTAL ",
      "RULEaWHITE CONCAVE-SIDED DIAMONDdDIAMOND WITH ",
      "LEFTWARDS TICKfRIGHTWARDS TICKbSQUARE WITH LEFTWARDS ",
      "TICKdRIGHTWARDS TICKaMATHEMATICAL LEFT WHITE SQUARE ",
      "BRACKETbRIGHT WHITE SQUARE BRACKETbLEFT ANGLE BRACKET",
      "bRIGHT ANGLE BRACKETbLEFT DOUBLE ANGLE BRACKETbRIGHT ",
      "DOUBLE ANGLE BRACKETbLEFT WHITE TORTOISE SHELL ",
      "BRACKETbRIGHT WHITE TORTOISE SHELL BRACKETbLEFT ",
      "FLATTENED PARENTHESISbRIGHT FLATTENED PARENTHESIS",
      "aUPWARDS QUADRUPLE ARROWaDOWNWARDS QUADRUPLE ARROW",
      "aANTICLOCKWISE GAPPED CIRCLE ARROWaCLOCKWISE GAPPED ",
      "CIRCLE ARROWaRIGHT ARROW WITH CIRCLED PLUSaLONG ",
      "LEFTWARDS ARROWbRIGHTWARDS ARROWbLEFT RIGHT ARROW",
      "bLEFTWARDS DOUBLE ARROWbRIGHTWARDS DOUBLE ARROWbLEFT ",
      "RIGHT DOUBLE ARROWbLEFTWARDS ARROW FROM BAR",
      "bRIGHTWARDS ARROW FROM BARbLEFTWARDS DOUBLE ARROW ",
      "FROM BARbRIGHTWARDS DOUBLE ARROW FROM BARcSQUIGGLE ",
      "ARROWaBRAILLE PATTERN BLANKcDOTS-1d2d12d3d13d23d123d4",
      "d14d24d124d34d134d234d1234d5d15d25d125d35d135d235",
      "d1235d45d145d245d1245d345d1345d2345d12345d6d16d26d126",
      "d36d136d236d1236d46d146d246d1246d346d1346d2346d12346",
      "d56d156d256d1256d356d1356d2356d12356d456d1456d2456",
      "d12456d3456d13456d23456d123456d7d17d27d127d37d137d237",
      "d1237d47d147d247d1247d347d1347d2347d12347d57d157d257",
      "d1257d357d1357d2357d12357d457d1457d2457d12457d3457",
      "d13457d23457d123457d67d167d267d1267d367d1367d2367",
      "d12367d467d1467d2467d12467d3467d13467d23467d123467",
      "d567d1567d2567d12567d3567d13567d23567d123567d4567",
      "d14567d24567d124567d34567d134567d234567d1234567d8d18",
      "d28d128d38d138d238d1238d48d148d248d1248d348d1348d2348",
      "d12348d58d158d258d1258d358d1358d2358d12358d458d1458",
      "d2458d12458d3458d13458d23458d123458d68d168d268d1268",
      "d368d1368d2368d12368d468d1468d2468d12468d3468d13468",
      "d23468d123468d568d1568d2568d12568d3568d13568d23568",
      "d123568d4568d14568d24568d124568d34568d134568d234568",
      "d1234568d78d178d278d1278d378d1378d2378d12378d478d1478",
      "d2478d12478d3478d13478d23478d123478d578d1578d2578",
      "d12578d3578d13578d23578d123578d4578d14578d24578",
      "d124578d34578d134578d234578d1234578d678d1678d2678",
      "d12678d3678d13678d23678d123678d4678d14678d24678",
      "d124678d34678d134678d234678d1234678d5678d15678d25678",
      "d125678d35678d135678d235678d1235678d45678d145678",
      "d245678d1245678d345678d1345678d2345678d12345678",
      "aRIGHTWARDS TWO-HEADED ARROW WITH VERTICAL STROKE",
      "fDOUBLE VERTICAL STROKEaLEFTWARDS DOUBLE ARROW WITH ",
      "VERTICAL STROKEaRIGHTWARDS DOUBLE ARROW WITH ",
      "VERTICAL STROKEaLEFT RIGHT DOUBLE ARROW WITH ",
      "VERTICAL STROKEaRIGHTWARDS TWO-HEADED ARROW FROM BAR",
      "aLEFTWARDS DOUBLE ARROW FROM BARaRIGHTWARDS DOUBLE ",
      "ARROW FROM BARaDOWNWARDS ARROW WITH HORIZONTAL STROKE",
      "aUPWARDS ARROW WITH HORIZONTAL STROKEbTRIPLE ARROW",
      "aDOWNWARDS TRIPLE ARROWaLEFTWARDS DOUBLE DASH ARROW",
      "aRIGHTWARDS DOUBLE DASH ARROWaLEFTWARDS TRIPLE DASH ",
      "ARROWaRIGHTWARDS TRIPLE DASH ARROWbTWO-HEADED TRIPLE ",
      "DASH ARROWbARROW WITH DOTTED STEMaUPWARDS ARROW TO ",
      "BARaDOWNWARDS ARROW TO BARaRIGHTWARDS ARROW WITH ",
      "TAIL WITH VERTICAL STROKEfDOUBLE VERTICAL STROKEbTWO-",
      "HEADED ARROW WITH TAILfTAIL WITH VERTICAL STROKE",
      "hDOUBLE VERTICAL STROKEaLEFTWARDS ARROW-TAIL",
      "aRIGHTWARDS ARROW-TAILaLEFTWARDS DOUBLE ARROW-TAIL",
      "aRIGHTWARDS DOUBLE ARROW-TAILaLEFTWARDS ARROW TO ",
      "BLACK DIAMONDaRIGHTWARDS ARROW TO BLACK DIAMOND",
      "aLEFTWARDS ARROW FROM BAR TO BLACK DIAMOND",
      "aRIGHTWARDS ARROW FROM BAR TO BLACK DIAMONDaNORTH ",
      "WEST AND SOUTH EAST ARROWbEAST AND SOUTH WEST ARROW",
      "bWEST ARROW WITH HOOKbEAST ARROW WITH HOOKaSOUTH ",
      "EAST ARROW WITH HOOKbWEST ARROW WITH HOOKaNORTH WEST ",
      "ARROW AND NORTH EAST ARROWbEAST ARROW AND SOUTH EAST ",
      "ARROWaSOUTH EAST ARROW AND SOUTH WEST ARROWbWEST ",
      "ARROW AND NORTH WEST ARROWaRISING DIAGONAL CROSSING ",
      "FALLING DIAGONALaFALLING DIAGONAL CROSSING RISING ",
      "DIAGONALaSOUTH EAST ARROW CROSSING NORTH EAST ARROW",
      "aNORTH EAST ARROW CROSSING SOUTH EAST ARROWaFALLING ",
      "DIAGONAL CROSSING NORTH EAST ARROWaRISING DIAGONAL ",
      "CROSSING SOUTH EAST ARROWaNORTH EAST ARROW CROSSING ",
      "NORTH WEST ARROWbWEST ARROW CROSSING NORTH EAST ARROW",
      "aWAVE ARROW POINTING DIRECTLY RIGHTaARROW POINTING ",
      "RIGHTWARDS THEN CURVING UPWARDSfDOWNWARDScDOWNWARDS ",
      "THEN CURVING LEFTWARDSfRIGHTWARDSaRIGHT-SIDE ARC ",
      "CLOCKWISE ARROWaLEFT-SIDE ARC ANTICLOCKWISE ARROW",
      "aTOP ARC ANTICLOCKWISE ARROWaBOTTOM ARC ",
      "ANTICLOCKWISE ARROWaTOP ARC CLOCKWISE ARROW WITH ",
      "MINUScANTICLOCKWISE ARROW WITH PLUSaLOWER RIGHT ",
      "SEMICIRCULAR CLOCKWISE ARROWbLEFT SEMICIRCULAR ",
      "ANTICLOCKWISE ARROWaANTICLOCKWISE CLOSED CIRCLE ARROW",
      "aCLOCKWISE CLOSED CIRCLE ARROWaRIGHTWARDS ARROW ",
      "ABOVE SHORT LEFTWARDS ARROWaLEFTWARDS ARROW ABOVE ",
      "SHORT RIGHTWARDS ARROWaSHORT RIGHTWARDS ARROW ABOVE ",
      "LEFTWARDS ARROWaRIGHTWARDS ARROW WITH PLUS BELOW",
      "aLEFTWARDS ARROW WITH PLUS BELOWaRIGHTWARDS ARROW ",
      "THROUGH XaLEFT RIGHT ARROW THROUGH SMALL CIRCLE",
      "aUPWARDS TWO-HEADED ARROW FROM SMALL CIRCLEaLEFT ",
      "BARB UP RIGHT BARB DOWN HARPOONcDOWN RIGHT BARB UP ",
      "HARPOONaUP BARB RIGHT DOWN BARB LEFT HARPOONcLEFT ",
      "DOWN BARB RIGHT HARPOONaLEFT BARB UP RIGHT BARB UP ",
      "HARPOONaUP BARB RIGHT DOWN BARB RIGHT HARPOONaLEFT ",
      "BARB DOWN RIGHT BARB DOWN HARPOONaUP BARB LEFT DOWN ",
      "BARB LEFT HARPOONaLEFTWARDS HARPOON WITH BARB UP TO ",
      "BARaRIGHTWARDS HARPOON WITH BARB UP TO BARaUPWARDS ",
      "HARPOON WITH BARB RIGHT TO BARaDOWNWARDS HARPOON ",
      "WITH BARB RIGHT TO BARaLEFTWARDS HARPOON WITH BARB ",
      "DOWN TO BARaRIGHTWARDS HARPOON WITH BARB DOWN TO BAR",
      "aUPWARDS HARPOON WITH BARB LEFT TO BARaDOWNWARDS ",
      "HARPOON WITH BARB LEFT TO BARaLEFTWARDS HARPOON WITH ",
      "BARB UP FROM BARaRIGHTWARDS HARPOON WITH BARB UP ",
      "FROM BARaUPWARDS HARPOON WITH BARB RIGHT FROM BAR",
      "aDOWNWARDS HARPOON WITH BARB RIGHT FROM BAR",
      "aLEFTWARDS HARPOON WITH BARB DOWN FROM BAR",
      "aRIGHTWARDS HARPOON WITH BARB DOWN FROM BARaUPWARDS ",
      "HARPOON WITH BARB LEFT FROM BARaDOWNWARDS HARPOON ",
      "WITH BARB LEFT FROM BARaLEFTWARDS HARPOON WITH BARB ",
      "UP ABOVE LEFTWARDS HARPOON WITH BARB DOWNaUPWARDS ",
      "HARPOON WITH BARB LEFT BESIDE UPWARDS HARPOON WITH ",
      "BARB RIGHTaRIGHTWARDS HARPOON WITH BARB UP ABOVE ",
      "RIGHTWARDS HARPOON WITH BARB DOWNaDOWNWARDS HARPOON ",
      "WITH BARB LEFT BESIDE DOWNWARDS HARPOON WITH BARB ",
      "RIGHTaLEFTWARDS HARPOON WITH BARB UP ABOVE ",
      "RIGHTWARDS HARPOON WITH BARB UPeDOWN ABOVE ",
      "RIGHTWARDS HARPOON WITH BARB DOWNaRIGHTWARDS HARPOON ",
      "WITH BARB UP ABOVE LEFTWARDS HARPOON WITH BARB UP",
      "eDOWN ABOVE LEFTWARDS HARPOON WITH BARB DOWN",
      "aLEFTWARDS HARPOON WITH BARB UP ABOVE LONG DASHeDOWN ",
      "BELOW LONG DASHaRIGHTWARDS HARPOON WITH BARB UP ",
      "ABOVE LONG DASHeDOWN BELOW LONG DASHaUPWARDS HARPOON ",
      "WITH BARB LEFT BESIDE DOWNWARDS HARPOON WITH BARB ",
      "RIGHTaDOWNWARDS HARPOON WITH BARB LEFT BESIDE ",
      "UPWARDS HARPOON WITH BARB RIGHTaRIGHT DOUBLE ARROW ",
      "WITH ROUNDED HEADaEQUALS SIGN ABOVE RIGHTWARDS ARROW",
      "aTILDE OPERATOR ABOVE RIGHTWARDS ARROWaLEFTWARDS ",
      "ARROW ABOVE TILDE OPERATORaRIGHTWARDS ARROW ABOVE ",
      "TILDE OPERATORdALMOST EQUAL TOaLESS-THAN ABOVE ",
      "LEFTWARDS ARROWaLEFTWARDS ARROW THROUGH LESS-THAN",
      "aGREATER-THAN ABOVE RIGHTWARDS ARROWaSUBSET ABOVE ",
      "RIGHTWARDS ARROWaLEFTWARDS ARROW THROUGH SUBSET",
      "aSUPERSET ABOVE LEFTWARDS ARROWaLEFT FISH TAILaRIGHT ",
      "FISH TAILaUP FISH TAILaDOWN FISH TAILaTRIPLE ",
      "VERTICAL BAR DELIMITERaZ NOTATION SPOTcTYPE COLON",
      "aLEFT WHITE CURLY BRACKETaRIGHT WHITE CURLY BRACKET",
      "aLEFT WHITE PARENTHESISaRIGHT WHITE PARENTHESISaZ ",
      "NOTATION LEFT IMAGE BRACKETcRIGHT IMAGE BRACKETcLEFT ",
      "BINDING BRACKETcRIGHT BINDING BRACKETaLEFT SQUARE ",
      "BRACKET WITH UNDERBARaRIGHT SQUARE BRACKET WITH ",
      "UNDERBARaLEFT SQUARE BRACKET WITH TICK IN TOP CORNER",
      "aRIGHT SQUARE BRACKET WITH TICK IN BOTTOM CORNER",
      "aLEFT SQUARE BRACKET WITH TICK IN BOTTOM CORNER",
      "aRIGHT SQUARE BRACKET WITH TICK IN TOP CORNERaLEFT ",
      "ANGLE BRACKET WITH DOTaRIGHT ANGLE BRACKET WITH DOT",
      "aLEFT ARC LESS-THAN BRACKETaRIGHT ARC GREATER-THAN ",
      "BRACKETaDOUBLE LEFT ARC GREATER-THAN BRACKETbRIGHT ",
      "ARC LESS-THAN BRACKETaLEFT BLACK TORTOISE SHELL ",
      "BRACKETaRIGHT BLACK TORTOISE SHELL BRACKETaDOTTED ",
      "FENCEaVERTICAL ZIGZAG LINEaMEASURED ANGLE OPENING ",
      "LEFTaRIGHT ANGLE VARIANT WITH SQUAREaMEASURED RIGHT ",
      "ANGLE WITH DOTaANGLE WITH S INSIDEaACUTE ANGLE",
      "aSPHERICAL ANGLE OPENING LEFTdUPaTURNED ANGLE",
      "aREVERSED ANGLEaANGLE WITH UNDERBARaREVERSED ANGLE ",
      "WITH UNDERBARaOBLIQUE ANGLE OPENING UPdDOWNaMEASURED ",
      "ANGLE WITH OPEN ARM ENDING IN ARROW POINTING UP AND ",
      "RIGHTlLEFTjDOWN AND RIGHTlLEFTjRIGHT AND UPjLEFT AND ",
      "UPjRIGHT AND DOWNjLEFT AND DOWNaREVERSED EMPTY SET",
      "aEMPTY SET WITH OVERBARdSMALL CIRCLE ABOVEdRIGHT ",
      "ARROW ABOVEdLEFT ARROW ABOVEaCIRCLE WITH HORIZONTAL ",
      "BARaCIRCLED VERTICAL BARbPARALLELbREVERSE SOLIDUS",
      "bPERPENDICULARaCIRCLE DIVIDED BY HORIZONTAL BAR AND ",
      "TOP HALF DIVIDED BY VERTICAL BARbWITH SUPERIMPOSED X",
      "aCIRCLED ANTICLOCKWISE-ROTATED DIVISION SIGNaUP ",
      "ARROW THROUGH CIRCLEaCIRCLED WHITE BULLETbBULLET",
      "bLESS-THANbGREATER-THANaCIRCLE WITH SMALL CIRCLE TO ",
      "THE RIGHTcTWO HORIZONTAL STROKES TO THE RIGHT",
      "aSQUARED RISING DIAGONAL SLASHbFALLING DIAGONAL SLASH",
      "bASTERISKbSMALL CIRCLEbSQUAREaTWO JOINED SQUARES",
      "aTRIANGLE WITH DOT ABOVEcUNDERBARaS IN TRIANGLE",
      "aTRIANGLE WITH SERIFS AT BOTTOMaRIGHT TRIANGLE ABOVE ",
      "LEFT TRIANGLEaLEFT TRIANGLE BESIDE VERTICAL BAR",
      "aVERTICAL BAR BESIDE RIGHT TRIANGLEaBOWTIE WITH LEFT ",
      "HALF BLACKcRIGHT HALF BLACKaBLACK BOWTIEaTIMES WITH ",
      "LEFT HALF BLACKcRIGHT HALF BLACKaWHITE HOURGLASS",
      "aBLACK HOURGLASSaLEFT WIGGLY FENCEaRIGHT WIGGLY FENCE",
      "aLEFT DOUBLE WIGGLY FENCEaRIGHT DOUBLE WIGGLY FENCE",
      "aINCOMPLETE INFINITYaTIE OVER INFINITYaINFINITY ",
      "NEGATED WITH VERTICAL BARaDOUBLE-ENDED MULTIMAP",
      "aSQUARE WITH CONTOURED OUTLINEaINCREASES ASaSHUFFLE ",
      "PRODUCTaEQUALS SIGN AND SLANTED PARALLELePARALLEL ",
      "WITH TILDE ABOVEaIDENTICAL TO AND SLANTED PARALLEL",
      "aGLEICH STARKaTHERMODYNAMICaDOWN-POINTING TRIANGLE ",
      "WITH LEFT HALF BLACKeRIGHT HALF BLACKaBLACK DIAMOND ",
      "WITH DOWN ARROWbLOZENGEaWHITE CIRCLE WITH DOWN ARROW",
      "aBLACK CIRCLE WITH DOWN ARROWaERROR-BARRED WHITE ",
      "SQUAREcBLACK SQUAREcWHITE DIAMONDcBLACK DIAMOND",
      "cWHITE CIRCLEcBLACK CIRCLEaRULE-DELAYEDaREVERSE ",
      "SOLIDUS OPERATORaSOLIDUS WITH OVERBARaREVERSE ",
      "SOLIDUS WITH HORIZONTAL STROKEaBIG SOLIDUSbREVERSE ",
      "SOLIDUSaDOUBLE PLUSaTRIPLE PLUSaLEFT-POINTING CURVED ",
      "ANGLE BRACKETaRIGHT-POINTING CURVED ANGLE BRACKET",
      "aTINYaMINYaN-ARY CIRCLED DOT OPERATORdPLUS OPERATOR",
      "dTIMES OPERATORcUNION OPERATOR WITH DOTfPLUScSQUARE ",
      "INTERSECTION OPERATORdUNION OPERATORaTWO LOGICAL AND ",
      "OPERATORcOR OPERATORaN-ARY TIMES OPERATORaMODULO TWO ",
      "SUMaSUMMATION WITH INTEGRALaQUADRUPLE INTEGRAL ",
      "OPERATORaFINITE PART INTEGRALaINTEGRAL WITH DOUBLE ",
      "STROKEbAVERAGE WITH SLASHaCIRCULATION FUNCTION",
      "aANTICLOCKWISE INTEGRATIONaLINE INTEGRATION WITH ",
      "RECTANGULAR PATH AROUND POLEdSEMICIRCULAR PATH ",
      "AROUND POLEcNOT INCLUDING THE POLEaINTEGRAL AROUND A ",
      "POINT OPERATORaQUATERNION INTEGRAL OPERATORaINTEGRAL ",
      "WITH LEFTWARDS ARROW WITH HOOKcTIMES SIGN",
      "cINTERSECTIONcUNIONcOVERBARcUNDERBARaJOINaLARGE LEFT ",
      "TRIANGLE OPERATORaZ NOTATION SCHEMA COMPOSITION",
      "dPIPINGdPROJECTIONaPLUS SIGN WITH SMALL CIRCLE ABOVE",
      "dCIRCUMFLEX ACCENT ABOVEdTILDE ABOVEdDOT BELOWdTILDE ",
      "BELOWdSUBSCRIPT TWOdBLACK TRIANGLEaMINUS SIGN WITH ",
      "COMMA ABOVEdDOT BELOWdFALLING DOTSdRISING DOTSaPLUS ",
      "SIGN IN LEFT HALF CIRCLEdRIGHT HALF CIRCLEaVECTOR OR ",
      "CROSS PRODUCTaMULTIPLICATION SIGN WITH DOT ABOVE",
      "dUNDERBARaSEMIDIRECT PRODUCT WITH BOTTOM CLOSED",
      "aSMASH PRODUCTaMULTIPLICATION SIGN IN LEFT HALF ",
      "CIRCLEdRIGHT HALF CIRCLEaCIRCLED MULTIPLICATION SIGN ",
      "WITH CIRCUMFLEX ACCENTaMULTIPLICATION SIGN IN DOUBLE ",
      "CIRCLEaCIRCLED DIVISION SIGNaPLUS SIGN IN TRIANGLE",
      "aMINUS SIGN IN TRIANGLEaMULTIPLICATION SIGN IN ",
      "TRIANGLEaINTERIOR PRODUCTaRIGHTHAND INTERIOR PRODUCT",
      "aZ NOTATION RELATIONAL COMPOSITIONaAMALGAMATION OR ",
      "COPRODUCTaINTERSECTION WITH DOTaUNION WITH MINUS SIGN",
      "cOVERBARaINTERSECTION WITH OVERBARcLOGICAL ANDaUNION ",
      "WITH LOGICAL ORbABOVE INTERSECTIONaINTERSECTION ",
      "ABOVE UNIONaUNION ABOVE BAR ABOVE INTERSECTION",
      "aINTERSECTION ABOVE BAR ABOVE UNIONaUNION BESIDE AND ",
      "JOINED WITH UNIONaINTERSECTION BESIDE AND JOINED ",
      "WITH INTERSECTIONaCLOSED UNION WITH SERIFS",
      "bINTERSECTION WITH SERIFSaDOUBLE SQUARE INTERSECTION",
      "cUNIONaCLOSED UNION WITH SERIFS AND SMASH PRODUCT",
      "aLOGICAL AND WITH DOT ABOVEbOR WITH DOT ABOVEaDOUBLE ",
      "LOGICAL ANDcORaTWO INTERSECTING LOGICAL ANDdOR",
      "aSLOPING LARGE ORcANDaLOGICAL OR OVERLAPPING LOGICAL ",
      "ANDbAND WITH MIDDLE STEMbOR WITH MIDDLE STEMbAND ",
      "WITH HORIZONTAL DASHbOR WITH HORIZONTAL DASHbAND ",
      "WITH DOUBLE OVERBARdUNDERBARdDOUBLE UNDERBARaSMALL ",
      "VEE WITH UNDERBARaLOGICAL OR WITH DOUBLE OVERBAR",
      "eUNDERBARaZ NOTATION DOMAIN ANTIRESTRICTIONcRANGE ",
      "ANTIRESTRICTIONaEQUALS SIGN WITH DOT BELOWaIDENTICAL ",
      "WITH DOT ABOVEaTRIPLE HORIZONTAL BAR WITH DOUBLE ",
      "VERTICAL STROKEeTRIPLE VERTICAL STROKEaTILDE ",
      "OPERATOR WITH DOT ABOVEdRISING DOTSaSIMILAR MINUS ",
      "SIMILARaCONGRUENT WITH DOT ABOVEaEQUALS WITH ASTERISK",
      "aALMOST EQUAL TO WITH CIRCUMFLEX ACCENT",
      "aAPPROXIMATELY EQUAL OR EQUAL TOaEQUALS SIGN ABOVE ",
      "PLUS SIGNaPLUS SIGN ABOVE EQUALS SIGNaEQUALS SIGN ",
      "ABOVE TILDE OPERATORaDOUBLE COLON EQUALaTWO ",
      "CONSECUTIVE EQUALS SIGNSaTHREE CONSECUTIVE EQUALS ",
      "SIGNSaEQUALS SIGN WITH TWO DOTS ABOVE AND TWO DOTS ",
      "BELOWaEQUIVALENT WITH FOUR DOTS ABOVEaLESS-THAN WITH ",
      "CIRCLE INSIDEaGREATER-THAN WITH CIRCLE INSIDEaLESS-",
      "THAN WITH QUESTION MARK ABOVEaGREATER-THAN WITH ",
      "QUESTION MARK ABOVEaLESS-THAN OR SLANTED EQUAL TO",
      "aGREATER-THAN OR SLANTED EQUAL TOaLESS-THAN OR ",
      "SLANTED EQUAL TO WITH DOT INSIDEaGREATER-THAN OR ",
      "SLANTED EQUAL TO WITH DOT INSIDEaLESS-THAN OR ",
      "SLANTED EQUAL TO WITH DOT ABOVEaGREATER-THAN OR ",
      "SLANTED EQUAL TO WITH DOT ABOVEaLESS-THAN OR SLANTED ",
      "EQUAL TO WITH DOT ABOVE RIGHTaGREATER-THAN OR ",
      "SLANTED EQUAL TO WITH DOT ABOVE LEFTaLESS-THAN OR ",
      "APPROXIMATEaGREATER-THAN OR APPROXIMATEaLESS-THAN ",
      "AND SINGLE-LINE NOT EQUAL TOaGREATER-THAN AND SINGLE-",
      "LINE NOT EQUAL TOaLESS-THAN AND NOT APPROXIMATE",
      "aGREATER-THAN AND NOT APPROXIMATEaLESS-THAN ABOVE ",
      "DOUBLE-LINE EQUAL ABOVE GREATER-THANaGREATER-THAN ",
      "ABOVE DOUBLE-LINE EQUAL ABOVE LESS-THANaLESS-THAN ",
      "ABOVE SIMILAR OR EQUALaGREATER-THAN ABOVE SIMILAR OR ",
      "EQUALaLESS-THAN ABOVE SIMILAR ABOVE GREATER-THAN",
      "aGREATER-THAN ABOVE SIMILAR ABOVE LESS-THANaLESS-",
      "THAN ABOVE GREATER-THAN ABOVE DOUBLE-LINE EQUAL",
      "aGREATER-THAN ABOVE LESS-THAN ABOVE DOUBLE-LINE EQUAL",
      "aLESS-THAN ABOVE SLANTED EQUAL ABOVE GREATER-THAN ",
      "ABOVE SLANTED EQUALaGREATER-THAN ABOVE SLANTED EQUAL ",
      "ABOVE LESS-THAN ABOVE SLANTED EQUALaSLANTED EQUAL TO ",
      "OR LESS-THANeGREATER-THANeLESS-THAN WITH DOT INSIDE",
      "eGREATER-THAN WITH DOT INSIDEaDOUBLE-LINE EQUAL TO ",
      "OR LESS-THANfGREATER-THANcSLANTED EQUAL TO OR LESS-",
      "THANgGREATER-THANaSIMILAR OR LESS-THANcGREATER-THAN",
      "bABOVE LESS-THAN ABOVE EQUALS SIGNcGREATER-THAN ",
      "ABOVE EQUALS SIGNaDOUBLE NESTED LESS-THANcGREATER-",
      "THANcLESS-THAN WITH UNDERBARaGREATER-THAN ",
      "OVERLAPPING LESS-THANcBESIDE LESS-THANaLESS-THAN ",
      "CLOSED BY CURVEaGREATER-THAN CLOSED BY CURVEaLESS-",
      "THAN CLOSED BY CURVE ABOVE SLANTED EQUALaGREATER-",
      "THAN CLOSED BY CURVE ABOVE SLANTED EQUALaSMALLER THAN",
      "aLARGER THANaSMALLER THAN OR EQUAL TOaLARGER THAN OR ",
      "EQUAL TOaEQUALS SIGN WITH BUMPY ABOVEaPRECEDES ABOVE ",
      "SINGLE-LINE EQUALS SIGNaSUCCEEDS ABOVE SINGLE-LINE ",
      "EQUALS SIGNaPRECEDES ABOVE SINGLE-LINE NOT EQUAL TO",
      "aSUCCEEDS ABOVE SINGLE-LINE NOT EQUAL TOaPRECEDES ",
      "ABOVE EQUALS SIGNaSUCCEEDS ABOVE EQUALS SIGN",
      "aPRECEDES ABOVE NOT EQUAL TOaSUCCEEDS ABOVE NOT ",
      "EQUAL TOaPRECEDES ABOVE ALMOST EQUAL TOaSUCCEEDS ",
      "ABOVE ALMOST EQUAL TOaPRECEDES ABOVE NOT ALMOST ",
      "EQUAL TOaSUCCEEDS ABOVE NOT ALMOST EQUAL TOaDOUBLE ",
      "PRECEDESbSUCCEEDSaSUBSET WITH DOTaSUPERSET WITH DOT",
      "aSUBSET WITH PLUS SIGN BELOWaSUPERSET WITH PLUS SIGN ",
      "BELOWaSUBSET WITH MULTIPLICATION SIGN BELOWaSUPERSET ",
      "WITH MULTIPLICATION SIGN BELOWaSUBSET OF OR EQUAL TO ",
      "WITH DOT ABOVEaSUPERSET OF OR EQUAL TO WITH DOT ABOVE",
      "aSUBSET OF ABOVE EQUALS SIGNaSUPERSET OF ABOVE ",
      "EQUALS SIGNaSUBSET OF ABOVE TILDE OPERATORaSUPERSET ",
      "OF ABOVE TILDE OPERATORaSUBSET OF ABOVE ALMOST EQUAL ",
      "TOaSUPERSET OF ABOVE ALMOST EQUAL TOaSUBSET OF ABOVE ",
      "NOT EQUAL TOaSUPERSET OF ABOVE NOT EQUAL TOaSQUARE ",
      "LEFT OPEN BOX OPERATORbRIGHT OPEN BOX OPERATOR",
      "aCLOSED SUBSETbSUPERSETbSUBSET OR EQUAL TObSUPERSET ",
      "OR EQUAL TOaSUBSET ABOVE SUPERSETaSUPERSET ABOVE ",
      "SUBSETaSUBSET ABOVE SUBSETaSUPERSET ABOVE SUPERSET",
      "bBESIDE SUBSETcAND JOINED BY DASH WITH SUBSET",
      "aELEMENT OF OPENING DOWNWARDSaPITCHFORK WITH TEE TOP",
      "aTRANSVERSAL INTERSECTIONaFORKINGaNONFORKINGaSHORT ",
      "LEFT TACKbDOWN TACKbUP TACKaPERPENDICULAR WITH S",
      "aVERTICAL BAR TRIPLE RIGHT TURNSTILEaDOUBLE VERTICAL ",
      "BAR LEFT TURNSTILEaVERTICAL BAR DOUBLE LEFT TURNSTILE",
      "aDOUBLE VERTICAL BAR DOUBLE LEFT TURNSTILEaLONG DASH ",
      "FROM LEFT MEMBER OF DOUBLE VERTICALaSHORT DOWN TACK ",
      "WITH OVERBARbUP TACK WITH UNDERBARdABOVE SHORT DOWN ",
      "TACKaDOUBLE DOWN TACKbUP TACKbSTROKE NOT SIGN",
      "aREVERSED DOUBLE STROKE NOT SIGNaDOES NOT DIVIDE ",
      "WITH REVERSED NEGATION SLASHaVERTICAL LINE WITH ",
      "CIRCLE ABOVEeBELOWaDOWN TACK WITH CIRCLE BELOW",
      "aPARALLEL WITH HORIZONTAL STROKEcTILDE OPERATOR",
      "aTRIPLE VERTICAL BAR BINARY RELATIONdWITH HORIZONTAL ",
      "STROKEbCOLON OPERATORbNESTED LESS-THANcGREATER-THAN",
      "aDOUBLE-LINE SLANTED LESS-THAN OR EQUAL TOdGREATER-",
      "THAN OR EQUAL TOaTRIPLE SOLIDUS BINARY RELATION",
      "aLARGE TRIPLE VERTICAL BAR OPERATORaDOUBLE SOLIDUS ",
      "OPERATORaWHITE VERTICAL BARaN-ARY WHITE VERTICAL BAR",
      "aNORTH EAST WHITE ARROWbWEST WHITE ARROWaSOUTH EAST ",
      "WHITE ARROWbWEST WHITE ARROWaLEFT RIGHT WHITE ARROW",
      "aLEFTWARDS BLACK ARROWaUPWARDS BLACK ARROWaDOWNWARDS ",
      "BLACK ARROWaNORTH EAST BLACK ARROWbWEST BLACK ARROW",
      "aSOUTH EAST BLACK ARROWbWEST BLACK ARROWaLEFT RIGHT ",
      "BLACK ARROWaUP DOWN BLACK ARROWaRIGHTWARDS ARROW ",
      "WITH TIP DOWNWARDSeUPWARDSaLEFTWARDS ARROW WITH TIP ",
      "DOWNWARDSeUPWARDSaSQUARE WITH TOP HALF BLACKcBOTTOM ",
      "HALF BLACKcUPPER RIGHT DIAGONAL HALF BLACKcLOWER ",
      "LEFT DIAGONAL HALF BLACKaDIAMOND WITH LEFT HALF BLACK",
      "cRIGHT HALF BLACKcTOP HALF BLACKcBOTTOM HALF BLACK",
      "aDOTTED SQUAREaBLACK LARGE SQUAREaWHITE LARGE SQUARE",
      "aBLACK VERY SMALL SQUAREaWHITE VERY SMALL SQUARE",
      "aBLACK PENTAGONaWHITE PENTAGONbHEXAGONaBLACK HEXAGON",
      "aHORIZONTAL BLACK HEXAGONaBLACK LARGE CIRCLEbMEDIUM ",
      "DIAMONDaWHITE MEDIUM DIAMONDaBLACK MEDIUM LOZENGE",
      "aWHITE MEDIUM LOZENGEaBLACK SMALL DIAMONDcLOZENGE",
      "aWHITE SMALL LOZENGEaBLACK HORIZONTAL ELLIPSEaWHITE ",
      "HORIZONTAL ELLIPSEaBLACK VERTICAL ELLIPSEaWHITE ",
      "VERTICAL ELLIPSEaLEFT ARROW WITH SMALL CIRCLEaTHREE ",
      "LEFTWARDS ARROWSaLEFT ARROW WITH CIRCLED PLUSaLONG ",
      "LEFTWARDS SQUIGGLE ARROWaLEFTWARDS TWO-HEADED ARROW ",
      "WITH VERTICAL STROKEfDOUBLE VERTICAL STROKEeFROM BAR",
      "dTRIPLE DASH ARROWbARROW WITH DOTTED STEMdTAIL WITH ",
      "VERTICAL STROKEfDOUBLE VERTICAL STROKEbTWO-HEADED ",
      "ARROW WITH TAILfTAIL WITH VERTICAL STROKEhDOUBLE ",
      "VERTICAL STROKEbARROW THROUGH XaWAVE ARROW POINTING ",
      "DIRECTLY LEFTaEQUALS SIGN ABOVE LEFTWARDS ARROW",
      "aREVERSE TILDE OPERATOR ABOVE LEFTWARDS ARROW",
      "aLEFTWARDS ARROW ABOVE REVERSE ALMOST EQUAL TO",
      "aRIGHTWARDS ARROW THROUGH GREATER-THANdSUPERSET",
      "aLEFTWARDS QUADRUPLE ARROWaRIGHTWARDS QUADRUPLE ARROW",
      "aREVERSE TILDE OPERATOR ABOVE RIGHTWARDS ARROW",
      "aRIGHTWARDS ARROW ABOVE REVERSE ALMOST EQUAL TO",
      "aTILDE OPERATOR ABOVE LEFTWARDS ARROWaLEFTWARDS ",
      "ARROW ABOVE ALMOST EQUAL TOdREVERSE TILDE OPERATOR",
      "aRIGHTWARDS ARROW ABOVE REVERSE TILDE OPERATOR",
      "aDOWNWARDS TRIANGLE-HEADED ZIGZAG ARROWaSHORT ",
      "SLANTED NORTH ARROWbBACKSLANTED SOUTH ARROWaWHITE ",
      "MEDIUM STARaBLACK SMALL STARaWHITE SMALL STARaBLACK ",
      "RIGHT-POINTING PENTAGONaWHITE RIGHT-POINTING PENTAGON",
      "aHEAVY LARGE CIRCLEbOVAL WITH OVAL INSIDEbCIRCLE ",
      "WITH CIRCLE INSIDEbCIRCLEbCIRCLED SALTIREaSLANTED ",
      "NORTH ARROW WITH HOOKED HEADaBACKSLANTED SOUTH ARROW ",
      "WITH HOOKED TAILaSLANTED NORTH ARROW WITH HORIZONTAL ",
      "TAILaBACKSLANTED SOUTH ARROW WITH HORIZONTAL TAIL",
      "aBENT ARROW POINTING DOWNWARDS THEN NORTH EASTaSHORT ",
      "BENT ARROW POINTING DOWNWARDS THEN NORTH EAST",
      "aLEFTWARDS TRIANGLE-HEADED ARROWaUPWARDS TRIANGLE-",
      "HEADED ARROWaRIGHTWARDS TRIANGLE-HEADED ARROW",
      "aDOWNWARDS TRIANGLE-HEADED ARROWaLEFT RIGHT TRIANGLE-",
      "HEADED ARROWaUP DOWN TRIANGLE-HEADED ARROWaNORTH ",
      "WEST TRIANGLE-HEADED ARROWbEAST TRIANGLE-HEADED ARROW",
      "aSOUTH EAST TRIANGLE-HEADED ARROWbWEST TRIANGLE-",
      "HEADED ARROWaLEFTWARDS TRIANGLE-HEADED DASHED ARROW",
      "aUPWARDS TRIANGLE-HEADED DASHED ARROWaRIGHTWARDS ",
      "TRIANGLE-HEADED DASHED ARROWaDOWNWARDS TRIANGLE-",
      "HEADED DASHED ARROWaCLOCKWISE TRIANGLE-HEADED OPEN ",
      "CIRCLE ARROWaANTICLOCKWISE TRIANGLE-HEADED OPEN ",
      "CIRCLE ARROWaLEFTWARDS TRIANGLE-HEADED ARROW TO BAR",
      "aUPWARDS TRIANGLE-HEADED ARROW TO BARaRIGHTWARDS ",
      "TRIANGLE-HEADED ARROW TO BARaDOWNWARDS TRIANGLE-",
      "HEADED ARROW TO BAR"]⟩]

end SigCheck
