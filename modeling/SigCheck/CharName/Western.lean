import SigCheck.CharName.Run

/-
  Names of Latin, Greek, Cyrillic and Armenian, from U+0020
  to U+058F.

  Key definitions include:
    * `CharName.western`
-/

namespace SigCheck

/- The runs of these names. -/
def CharName.western : List NameRun :=
  [⟨0x20, ["aSPACEaEXCLAMATION MARKaQUOTATION MARKaNUMBER ",
      "SIGNaDOLLAR SIGNaPERCENT SIGNaAMPERSANDaAPOSTROPHE",
      "aLEFT PARENTHESISaRIGHT PARENTHESISaASTERISKaPLUS ",
      "SIGNaCOMMAaHYPHEN-MINUSaFULL STOPaSOLIDUSaDIGIT ZERO",
      "bONEbTWObTHREEbFOURbFIVEbSIXbSEVENbEIGHTbNINEaCOLON",
      "aSEMICOLONaLESS-THAN SIGNaEQUALS SIGNaGREATER-THAN ",
      "SIGNaQUESTION MARKaCOMMERCIAL ATaLATIN CAPITAL ",
      "LETTER AdBdCdDdEdFdGdHdIdJdKdLdMdNdOdPdQdRdSdTdUdVdW",
      "dXdYdZaLEFT SQUARE BRACKETaREVERSE SOLIDUSaRIGHT ",
      "SQUARE BRACKETaCIRCUMFLEX ACCENTaLOW LINEaGRAVE ",
      "ACCENTaLATIN SMALL LETTER AdBdCdDdEdFdGdHdIdJdKdLdMdN",
      "dOdPdQdRdSdTdUdVdWdXdYdZaLEFT CURLY BRACKETaVERTICAL ",
      "LINEaRIGHT CURLY BRACKETaTILDE"]⟩,
    ⟨0xA0, ["aNO-BREAK SPACEaINVERTED EXCLAMATION MARKaCENT ",
      "SIGNaPOUND SIGNaCURRENCY SIGNaYEN SIGNaBROKEN BAR",
      "aSECTION SIGNaDIAERESISaCOPYRIGHT SIGNaFEMININE ",
      "ORDINAL INDICATORaLEFT-POINTING DOUBLE ANGLE ",
      "QUOTATION MARKaNOT SIGNaSOFT HYPHENaREGISTERED SIGN",
      "aMACRONaDEGREE SIGNaPLUS-MINUS SIGNaSUPERSCRIPT TWO",
      "bTHREEaACUTE ACCENTaMICRO SIGNaPILCROW SIGNaMIDDLE ",
      "DOTaCEDILLAaSUPERSCRIPT ONEaMASCULINE ORDINAL ",
      "INDICATORaRIGHT-POINTING DOUBLE ANGLE QUOTATION MARK",
      "aVULGAR FRACTION ONE QUARTERdHALFcTHREE QUARTERS",
      "aINVERTED QUESTION MARKaLATIN CAPITAL LETTER A WITH ",
      "GRAVEfACUTEfCIRCUMFLEXfTILDEfDIAERESISfRING ABOVEdAE",
      "dC WITH CEDILLAdE WITH GRAVEfACUTEfCIRCUMFLEX",
      "fDIAERESISdI WITH GRAVEfACUTEfCIRCUMFLEXfDIAERESIS",
      "dETHdN WITH TILDEdO WITH GRAVEfACUTEfCIRCUMFLEXfTILDE",
      "fDIAERESISaMULTIPLICATION SIGNaLATIN CAPITAL LETTER ",
      "O WITH STROKEdU WITH GRAVEfACUTEfCIRCUMFLEXfDIAERESIS",
      "dY WITH ACUTEdTHORNbSMALL LETTER SHARP SdA WITH GRAVE",
      "fACUTEfCIRCUMFLEXfTILDEfDIAERESISfRING ABOVEdAEdC ",
      "WITH CEDILLAdE WITH GRAVEfACUTEfCIRCUMFLEXfDIAERESIS",
      "dI WITH GRAVEfACUTEfCIRCUMFLEXfDIAERESISdETHdN WITH ",
      "TILDEdO WITH GRAVEfACUTEfCIRCUMFLEXfTILDEfDIAERESIS",
      "aDIVISION SIGNaLATIN SMALL LETTER O WITH STROKEdU ",
      "WITH GRAVEfACUTEfCIRCUMFLEXfDIAERESISdY WITH ACUTE",
      "dTHORNdY WITH DIAERESISbCAPITAL LETTER A WITH MACRON",
      "bSMALL LETTER A WITH MACRONbCAPITAL LETTER A WITH ",
      "BREVEbSMALL LETTER A WITH BREVEbCAPITAL LETTER A ",
      "WITH OGONEKbSMALL LETTER A WITH OGONEKbCAPITAL ",
      "LETTER C WITH ACUTEbSMALL LETTER C WITH ACUTE",
      "bCAPITAL LETTER C WITH CIRCUMFLEXbSMALL LETTER C ",
      "WITH CIRCUMFLEXbCAPITAL LETTER C WITH DOT ABOVE",
      "bSMALL LETTER C WITH DOT ABOVEbCAPITAL LETTER C WITH ",
      "CARONbSMALL LETTER C WITH CARONbCAPITAL LETTER D ",
      "WITH CARONbSMALL LETTER D WITH CARONbCAPITAL LETTER ",
      "D WITH STROKEbSMALL LETTER D WITH STROKEbCAPITAL ",
      "LETTER E WITH MACRONbSMALL LETTER E WITH MACRON",
      "bCAPITAL LETTER E WITH BREVEbSMALL LETTER E WITH ",
      "BREVEbCAPITAL LETTER E WITH DOT ABOVEbSMALL LETTER E ",
      "WITH DOT ABOVEbCAPITAL LETTER E WITH OGONEKbSMALL ",
      "LETTER E WITH OGONEKbCAPITAL LETTER E WITH CARON",
      "bSMALL LETTER E WITH CARONbCAPITAL LETTER G WITH ",
      "CIRCUMFLEXbSMALL LETTER G WITH CIRCUMFLEXbCAPITAL ",
      "LETTER G WITH BREVEbSMALL LETTER G WITH BREVE",
      "bCAPITAL LETTER G WITH DOT ABOVEbSMALL LETTER G WITH ",
      "DOT ABOVEbCAPITAL LETTER G WITH CEDILLAbSMALL LETTER ",
      "G WITH CEDILLAbCAPITAL LETTER H WITH CIRCUMFLEX",
      "bSMALL LETTER H WITH CIRCUMFLEXbCAPITAL LETTER H ",
      "WITH STROKEbSMALL LETTER H WITH STROKEbCAPITAL ",
      "LETTER I WITH TILDEbSMALL LETTER I WITH TILDE",
      "bCAPITAL LETTER I WITH MACRONbSMALL LETTER I WITH ",
      "MACRONbCAPITAL LETTER I WITH BREVEbSMALL LETTER I ",
      "WITH BREVEbCAPITAL LETTER I WITH OGONEKbSMALL LETTER ",
      "I WITH OGONEKbCAPITAL LETTER I WITH DOT ABOVEbSMALL ",
      "LETTER DOTLESS IbCAPITAL LIGATURE IJbSMALL LIGATURE ",
      "IJbCAPITAL LETTER J WITH CIRCUMFLEXbSMALL LETTER J ",
      "WITH CIRCUMFLEXbCAPITAL LETTER K WITH CEDILLAbSMALL ",
      "LETTER K WITH CEDILLAdKRAbCAPITAL LETTER L WITH ACUTE",
      "bSMALL LETTER L WITH ACUTEbCAPITAL LETTER L WITH ",
      "CEDILLAbSMALL LETTER L WITH CEDILLAbCAPITAL LETTER L ",
      "WITH CARONbSMALL LETTER L WITH CARONbCAPITAL LETTER ",
      "L WITH MIDDLE DOTbSMALL LETTER L WITH MIDDLE DOT",
      "bCAPITAL LETTER L WITH STROKEbSMALL LETTER L WITH ",
      "STROKEbCAPITAL LETTER N WITH ACUTEbSMALL LETTER N ",
      "WITH ACUTEbCAPITAL LETTER N WITH CEDILLAbSMALL ",
      "LETTER N WITH CEDILLAbCAPITAL LETTER N WITH CARON",
      "bSMALL LETTER N WITH CARONePRECEDED BY APOSTROPHE",
      "bCAPITAL LETTER ENGbSMALL LETTER ENGbCAPITAL LETTER ",
      "O WITH MACRONbSMALL LETTER O WITH MACRONbCAPITAL ",
      "LETTER O WITH BREVEbSMALL LETTER O WITH BREVE",
      "bCAPITAL LETTER O WITH DOUBLE ACUTEbSMALL LETTER O ",
      "WITH DOUBLE ACUTEbCAPITAL LIGATURE OEbSMALL LIGATURE ",
      "OEbCAPITAL LETTER R WITH ACUTEbSMALL LETTER R WITH ",
      "ACUTEbCAPITAL LETTER R WITH CEDILLAbSMALL LETTER R ",
      "WITH CEDILLAbCAPITAL LETTER R WITH CARONbSMALL ",
      "LETTER R WITH CARONbCAPITAL LETTER S WITH ACUTE",
      "bSMALL LETTER S WITH ACUTEbCAPITAL LETTER S WITH ",
      "CIRCUMFLEXbSMALL LETTER S WITH CIRCUMFLEXbCAPITAL ",
      "LETTER S WITH CEDILLAbSMALL LETTER S WITH CEDILLA",
      "bCAPITAL LETTER S WITH CARONbSMALL LETTER S WITH ",
      "CARONbCAPITAL LETTER T WITH CEDILLAbSMALL LETTER T ",
      "WITH CEDILLAbCAPITAL LETTER T WITH CARONbSMALL ",
      "LETTER T WITH CARONbCAPITAL LETTER T WITH STROKE",
      "bSMALL LETTER T WITH STROKEbCAPITAL LETTER U WITH ",
      "TILDEbSMALL LETTER U WITH TILDEbCAPITAL LETTER U ",
      "WITH MACRONbSMALL LETTER U WITH MACRONbCAPITAL ",
      "LETTER U WITH BREVEbSMALL LETTER U WITH BREVE",
      "bCAPITAL LETTER U WITH RING ABOVEbSMALL LETTER U ",
      "WITH RING ABOVEbCAPITAL LETTER U WITH DOUBLE ACUTE",
      "bSMALL LETTER U WITH DOUBLE ACUTEbCAPITAL LETTER U ",
      "WITH OGONEKbSMALL LETTER U WITH OGONEKbCAPITAL ",
      "LETTER W WITH CIRCUMFLEXbSMALL LETTER W WITH ",
      "CIRCUMFLEXbCAPITAL LETTER Y WITH CIRCUMFLEXbSMALL ",
      "LETTER Y WITH CIRCUMFLEXbCAPITAL LETTER Y WITH ",
      "DIAERESISdZ WITH ACUTEbSMALL LETTER Z WITH ACUTE",
      "bCAPITAL LETTER Z WITH DOT ABOVEbSMALL LETTER Z WITH ",
      "DOT ABOVEbCAPITAL LETTER Z WITH CARONbSMALL LETTER Z ",
      "WITH CARONdLONG SdB WITH STROKEbCAPITAL LETTER B ",
      "WITH HOOKfTOPBARbSMALL LETTER B WITH TOPBARbCAPITAL ",
      "LETTER TONE SIXbSMALL LETTER TONE SIXbCAPITAL LETTER ",
      "OPEN OdC WITH HOOKbSMALL LETTER C WITH HOOKbCAPITAL ",
      "LETTER AFRICAN DdD WITH HOOKfTOPBARbSMALL LETTER D ",
      "WITH TOPBARdTURNED DELTAbCAPITAL LETTER REVERSED E",
      "dSCHWAdOPEN EdF WITH HOOKbSMALL LETTER F WITH HOOK",
      "bCAPITAL LETTER G WITH HOOKdGAMMAbSMALL LETTER HV",
      "bCAPITAL LETTER IOTAdI WITH STROKEdK WITH HOOKbSMALL ",
      "LETTER K WITH HOOKdL WITH BARdLAMBDA WITH STROKE",
      "bCAPITAL LETTER TURNED MdN WITH LEFT HOOKbSMALL ",
      "LETTER N WITH LONG RIGHT LEGbCAPITAL LETTER O WITH ",
      "MIDDLE TILDEfHORNbSMALL LETTER O WITH HORNbCAPITAL ",
      "LETTER OIbSMALL LETTER OIbCAPITAL LETTER P WITH HOOK",
      "bSMALL LETTER P WITH HOOKbLETTER YRbCAPITAL LETTER ",
      "TONE TWObSMALL LETTER TONE TWObCAPITAL LETTER ESH",
      "bLETTER REVERSED ESH LOOPbSMALL LETTER T WITH ",
      "PALATAL HOOKbCAPITAL LETTER T WITH HOOKbSMALL LETTER ",
      "T WITH HOOKbCAPITAL LETTER T WITH RETROFLEX HOOKdU ",
      "WITH HORNbSMALL LETTER U WITH HORNbCAPITAL LETTER ",
      "UPSILONdV WITH HOOKdY WITH HOOKbSMALL LETTER Y WITH ",
      "HOOKbCAPITAL LETTER Z WITH STROKEbSMALL LETTER Z ",
      "WITH STROKEbCAPITAL LETTER EZHdEZH REVERSEDbSMALL ",
      "LETTER EZH REVERSEDeWITH TAILbLETTER TWO WITH STROKE",
      "bCAPITAL LETTER TONE FIVEbSMALL LETTER TONE FIVE",
      "bLETTER INVERTED GLOTTAL STOP WITH STROKEcWYNN",
      "cDENTAL CLICKcLATERAL CLICKcALVEOLAR CLICKcRETROFLEX ",
      "CLICKbCAPITAL LETTER DZ WITH CARONdD WITH SMALL ",
      "LETTER Z WITH CARONbSMALL LETTER DZ WITH CARON",
      "bCAPITAL LETTER LJdL WITH SMALL LETTER JbSMALL ",
      "LETTER LJbCAPITAL LETTER NJdN WITH SMALL LETTER J",
      "bSMALL LETTER NJbCAPITAL LETTER A WITH CARONbSMALL ",
      "LETTER A WITH CARONbCAPITAL LETTER I WITH CARON",
      "bSMALL LETTER I WITH CARONbCAPITAL LETTER O WITH ",
      "CARONbSMALL LETTER O WITH CARONbCAPITAL LETTER U ",
      "WITH CARONbSMALL LETTER U WITH CARONbCAPITAL LETTER ",
      "U WITH DIAERESIS AND MACRONbSMALL LETTER U WITH ",
      "DIAERESIS AND MACRONbCAPITAL LETTER U WITH DIAERESIS ",
      "AND ACUTEbSMALL LETTER U WITH DIAERESIS AND ACUTE",
      "bCAPITAL LETTER U WITH DIAERESIS AND CARONbSMALL ",
      "LETTER U WITH DIAERESIS AND CARONbCAPITAL LETTER U ",
      "WITH DIAERESIS AND GRAVEbSMALL LETTER U WITH ",
      "DIAERESIS AND GRAVEdTURNED EbCAPITAL LETTER A WITH ",
      "DIAERESIS AND MACRONbSMALL LETTER A WITH DIAERESIS ",
      "AND MACRONbCAPITAL LETTER A WITH DOT ABOVE AND MACRON",
      "bSMALL LETTER A WITH DOT ABOVE AND MACRONbCAPITAL ",
      "LETTER AE WITH MACRONbSMALL LETTER AE WITH MACRON",
      "bCAPITAL LETTER G WITH STROKEbSMALL LETTER G WITH ",
      "STROKEbCAPITAL LETTER G WITH CARONbSMALL LETTER G ",
      "WITH CARONbCAPITAL LETTER K WITH CARONbSMALL LETTER ",
      "K WITH CARONbCAPITAL LETTER O WITH OGONEKbSMALL ",
      "LETTER O WITH OGONEKbCAPITAL LETTER O WITH OGONEK ",
      "AND MACRONbSMALL LETTER O WITH OGONEK AND MACRON",
      "bCAPITAL LETTER EZH WITH CARONbSMALL LETTER EZH WITH ",
      "CARONdJ WITH CARONbCAPITAL LETTER DZdD WITH SMALL ",
      "LETTER ZbSMALL LETTER DZbCAPITAL LETTER G WITH ACUTE",
      "bSMALL LETTER G WITH ACUTEbCAPITAL LETTER HWAIRdWYNN",
      "dN WITH GRAVEbSMALL LETTER N WITH GRAVEbCAPITAL ",
      "LETTER A WITH RING ABOVE AND ACUTEbSMALL LETTER A ",
      "WITH RING ABOVE AND ACUTEbCAPITAL LETTER AE WITH ",
      "ACUTEbSMALL LETTER AE WITH ACUTEbCAPITAL LETTER O ",
      "WITH STROKE AND ACUTEbSMALL LETTER O WITH STROKE AND ",
      "ACUTEbCAPITAL LETTER A WITH DOUBLE GRAVEbSMALL ",
      "LETTER A WITH DOUBLE GRAVEbCAPITAL LETTER A WITH ",
      "INVERTED BREVEbSMALL LETTER A WITH INVERTED BREVE",
      "bCAPITAL LETTER E WITH DOUBLE GRAVEbSMALL LETTER E ",
      "WITH DOUBLE GRAVEbCAPITAL LETTER E WITH INVERTED ",
      "BREVEbSMALL LETTER E WITH INVERTED BREVEbCAPITAL ",
      "LETTER I WITH DOUBLE GRAVEbSMALL LETTER I WITH ",
      "DOUBLE GRAVEbCAPITAL LETTER I WITH INVERTED BREVE",
      "bSMALL LETTER I WITH INVERTED BREVEbCAPITAL LETTER O ",
      "WITH DOUBLE GRAVEbSMALL LETTER O WITH DOUBLE GRAVE",
      "bCAPITAL LETTER O WITH INVERTED BREVEbSMALL LETTER O ",
      "WITH INVERTED BREVEbCAPITAL LETTER R WITH DOUBLE ",
      "GRAVEbSMALL LETTER R WITH DOUBLE GRAVEbCAPITAL ",
      "LETTER R WITH INVERTED BREVEbSMALL LETTER R WITH ",
      "INVERTED BREVEbCAPITAL LETTER U WITH DOUBLE GRAVE",
      "bSMALL LETTER U WITH DOUBLE GRAVEbCAPITAL LETTER U ",
      "WITH INVERTED BREVEbSMALL LETTER U WITH INVERTED ",
      "BREVEbCAPITAL LETTER S WITH COMMA BELOWbSMALL LETTER ",
      "S WITH COMMA BELOWbCAPITAL LETTER T WITH COMMA BELOW",
      "bSMALL LETTER T WITH COMMA BELOWbCAPITAL LETTER YOGH",
      "bSMALL LETTER YOGHbCAPITAL LETTER H WITH CARONbSMALL ",
      "LETTER H WITH CARONbCAPITAL LETTER N WITH LONG RIGHT ",
      "LEGbSMALL LETTER D WITH CURLbCAPITAL LETTER OUbSMALL ",
      "LETTER OUbCAPITAL LETTER Z WITH HOOKbSMALL LETTER Z ",
      "WITH HOOKbCAPITAL LETTER A WITH DOT ABOVEbSMALL ",
      "LETTER A WITH DOT ABOVEbCAPITAL LETTER E WITH CEDILLA",
      "bSMALL LETTER E WITH CEDILLAbCAPITAL LETTER O WITH ",
      "DIAERESIS AND MACRONbSMALL LETTER O WITH DIAERESIS ",
      "AND MACRONbCAPITAL LETTER O WITH TILDE AND MACRON",
      "bSMALL LETTER O WITH TILDE AND MACRONbCAPITAL LETTER ",
      "O WITH DOT ABOVEbSMALL LETTER O WITH DOT ABOVE",
      "bCAPITAL LETTER O WITH DOT ABOVE AND MACRONbSMALL ",
      "LETTER O WITH DOT ABOVE AND MACRONbCAPITAL LETTER Y ",
      "WITH MACRONbSMALL LETTER Y WITH MACRONdL WITH CURLdN ",
      "WITH CURLdT WITH CURLdDOTLESS JdDB DIGRAPHdQP DIGRAPH",
      "bCAPITAL LETTER A WITH STROKEdC WITH STROKEbSMALL ",
      "LETTER C WITH STROKEbCAPITAL LETTER L WITH BARdT ",
      "WITH DIAGONAL STROKEbSMALL LETTER S WITH SWASH TAIL",
      "dZ WITH SWASH TAILbCAPITAL LETTER GLOTTAL STOPbSMALL ",
      "LETTER GLOTTAL STOPbCAPITAL LETTER B WITH STROKEdU ",
      "BARdTURNED VdE WITH STROKEbSMALL LETTER E WITH STROKE",
      "bCAPITAL LETTER J WITH STROKEbSMALL LETTER J WITH ",
      "STROKEbCAPITAL LETTER SMALL Q WITH HOOK TAILbSMALL ",
      "LETTER Q WITH HOOK TAILbCAPITAL LETTER R WITH STROKE",
      "bSMALL LETTER R WITH STROKEbCAPITAL LETTER Y WITH ",
      "STROKEbSMALL LETTER Y WITH STROKEdTURNED AdALPHA",
      "dTURNED ALPHAdB WITH HOOKdOPEN OdC WITH CURLdD WITH ",
      "TAILfHOOKdREVERSED EdSCHWAdSCHWA WITH HOOKdOPEN E",
      "dREVERSED OPEN EfE WITH HOOKdCLOSED REVERSED OPEN E",
      "dDOTLESS J WITH STROKEdG WITH HOOKdSCRIPT GbLETTER ",
      "SMALL CAPITAL GbSMALL LETTER GAMMAdRAMS HORNdTURNED H",
      "dH WITH HOOKdHENG WITH HOOKdI WITH STROKEdIOTA",
      "bLETTER SMALL CAPITAL IbSMALL LETTER L WITH MIDDLE ",
      "TILDEfBELTfRETROFLEX HOOKdLEZHdTURNED MeM WITH LONG ",
      "LEGdM WITH HOOKdN WITH LEFT HOOKfRETROFLEX HOOK",
      "bLETTER SMALL CAPITAL NbSMALL LETTER BARRED ObLETTER ",
      "SMALL CAPITAL OEbSMALL LETTER CLOSED OMEGAdPHI",
      "dTURNED ReR WITH LONG LEGgHOOKdR WITH LONG LEGfTAIL",
      "fFISHHOOKdREVERSED R WITH FISHHOOKbLETTER SMALL ",
      "CAPITAL ReINVERTED RbSMALL LETTER S WITH HOOKdESH",
      "dDOTLESS J WITH STROKE AND HOOKdSQUAT REVERSED ESH",
      "dESH WITH CURLdTURNED TdT WITH RETROFLEX HOOKdU BAR",
      "dUPSILONdV WITH HOOKdTURNED VeWeYbLETTER SMALL ",
      "CAPITAL YbSMALL LETTER Z WITH RETROFLEX HOOKfCURLdEZH",
      "dEZH WITH CURLbLETTER GLOTTAL STOPcPHARYNGEAL VOICED ",
      "FRICATIVEcINVERTED GLOTTAL STOPcSTRETCHED CcBILABIAL ",
      "CLICKcSMALL CAPITAL BbSMALL LETTER CLOSED OPEN E",
      "bLETTER SMALL CAPITAL G WITH HOOKeHbSMALL LETTER J ",
      "WITH CROSSED-TAILdTURNED KbLETTER SMALL CAPITAL L",
      "bSMALL LETTER Q WITH HOOKbLETTER GLOTTAL STOP WITH ",
      "STROKEcREVERSED GLOTTAL STOP WITH STROKEbSMALL ",
      "LETTER DZ DIGRAPHdDEZH DIGRAPHdDZ DIGRAPH WITH CURL",
      "dTS DIGRAPHdTESH DIGRAPHdTC DIGRAPH WITH CURLdFENG ",
      "DIGRAPHdLS DIGRAPHdLZ DIGRAPHbLETTER BILABIAL ",
      "PERCUSSIVEcBIDENTAL PERCUSSIVEbSMALL LETTER TURNED H ",
      "WITH FISHHOOKgFISHHOOK AND TAILaMODIFIER LETTER ",
      "SMALL HdH WITH HOOKdJdRdTURNED ReR WITH HOOKdCAPITAL ",
      "INVERTED RdWdYcPRIMEcDOUBLE PRIMEcTURNED COMMA",
      "cAPOSTROPHEcREVERSED COMMAcRIGHT HALF RINGcLEFT HALF ",
      "RINGcGLOTTAL STOPcREVERSED GLOTTAL STOPcLEFT ",
      "ARROWHEADcRIGHT ARROWHEADcUP ARROWHEADcDOWN ARROWHEAD",
      "cCIRCUMFLEX ACCENTaCARONaMODIFIER LETTER VERTICAL ",
      "LINEcMACRONcACUTE ACCENTcGRAVE ACCENTcLOW VERTICAL ",
      "LINEdMACRONdGRAVE ACCENTdACUTE ACCENTcTRIANGULAR ",
      "COLONcHALF TRIANGULAR COLONcCENTRED RIGHT HALF RING",
      "dLEFT HALF RINGcUP TACKcDOWN TACKcPLUS SIGNcMINUS ",
      "SIGNaBREVEaDOT ABOVEaRING ABOVEaOGONEKaSMALL TILDE",
      "aDOUBLE ACUTE ACCENTaMODIFIER LETTER RHOTIC HOOK",
      "cCROSS ACCENTcSMALL GAMMAdLdSdXdREVERSED GLOTTAL STOP",
      "cEXTRA-HIGH TONE BARcHIGH TONE BARcMID TONE BARcLOW ",
      "TONE BARcEXTRA-LOW TONE BARcYIN DEPARTING TONE MARK",
      "cYANG DEPARTING TONE MARKcVOICINGcUNASPIRATEDcDOUBLE ",
      "APOSTROPHEcLOW DOWN ARROWHEADdUP ARROWHEADdLEFT ",
      "ARROWHEADdRIGHT ARROWHEADdRINGcMIDDLE GRAVE ACCENT",
      "dDOUBLE GRAVE ACCENTeACUTE ACCENTcLOW TILDEcRAISED ",
      "COLONcBEGIN HIGH TONEcEND HIGH TONEcBEGIN LOW TONE",
      "cEND LOW TONEcSHELFcOPEN SHELFcLOW LEFT ARROW",
      "aCOMBINING GRAVE ACCENTbACUTE ACCENTbCIRCUMFLEX ",
      "ACCENTbTILDEbMACRONbOVERLINEbBREVEbDOT ABOVE",
      "bDIAERESISbHOOK ABOVEbRING ABOVEbDOUBLE ACUTE ACCENT",
      "bCARONbVERTICAL LINE ABOVEbDOUBLE VERTICAL LINE ABOVE",
      "cGRAVE ACCENTbCANDRABINDUbINVERTED BREVEbTURNED ",
      "COMMA ABOVEbCOMMA ABOVEbREVERSED COMMA ABOVEbCOMMA ",
      "ABOVE RIGHTbGRAVE ACCENT BELOWbACUTE ACCENT BELOW",
      "bLEFT TACK BELOWbRIGHT TACK BELOWbLEFT ANGLE ABOVE",
      "bHORNbLEFT HALF RING BELOWbUP TACK BELOWbDOWN TACK ",
      "BELOWbPLUS SIGN BELOWbMINUS SIGN BELOWbPALATALIZED ",
      "HOOK BELOWbRETROFLEX HOOK BELOWbDOT BELOWbDIAERESIS ",
      "BELOWbRING BELOWbCOMMA BELOWbCEDILLAbOGONEKbVERTICAL ",
      "LINE BELOWbBRIDGE BELOWbINVERTED DOUBLE ARCH BELOW",
      "bCARON BELOWbCIRCUMFLEX ACCENT BELOWbBREVE BELOW",
      "bINVERTED BREVE BELOWbTILDE BELOWbMACRON BELOWbLOW ",
      "LINEbDOUBLE LOW LINEbTILDE OVERLAYbSHORT STROKE ",
      "OVERLAYbLONG STROKE OVERLAYbSHORT SOLIDUS OVERLAY",
      "bLONG SOLIDUS OVERLAYbRIGHT HALF RING BELOWbINVERTED ",
      "BRIDGE BELOWbSQUARE BELOWbSEAGULL BELOWbX ABOVE",
      "bVERTICAL TILDEbDOUBLE OVERLINEbGRAVE TONE MARK",
      "bACUTE TONE MARKbGREEK PERISPOMENIcKORONIScDIALYTIKA ",
      "TONOScYPOGEGRAMMENIbBRIDGE ABOVEbEQUALS SIGN BELOW",
      "bDOUBLE VERTICAL LINE BELOWbLEFT ANGLE BELOWbNOT ",
      "TILDE ABOVEbHOMOTHETIC ABOVEbALMOST EQUAL TO ABOVE",
      "bLEFT RIGHT ARROW BELOWbUPWARDS ARROW BELOWbGRAPHEME ",
      "JOINERbRIGHT ARROWHEAD ABOVEbLEFT HALF RING ABOVE",
      "bFERMATAbX BELOWbLEFT ARROWHEAD BELOWbRIGHT ",
      "ARROWHEAD BELOWdAND UP ARROWHEAD BELOWcHALF RING ",
      "ABOVEbDOT ABOVE RIGHTbASTERISK BELOWbDOUBLE RING ",
      "BELOWbZIGZAG ABOVEbDOUBLE BREVE BELOWcBREVEcMACRON",
      "cMACRON BELOWcTILDEcINVERTED BREVEcRIGHTWARDS ARROW ",
      "BELOWbLATIN SMALL LETTER AeEeIeOeUeCeDeHeMeReTeVeX",
      "aGREEK CAPITAL LETTER HETAbSMALL LETTER HETAbCAPITAL ",
      "LETTER ARCHAIC SAMPIbSMALL LETTER ARCHAIC SAMPI",
      "bNUMERAL SIGNbLOWER NUMERAL SIGNbCAPITAL LETTER ",
      "PAMPHYLIAN DIGAMMAbSMALL LETTER PAMPHYLIAN DIGAMMA"]⟩,
    ⟨0x37A, ["aGREEK YPOGEGRAMMENIbSMALL REVERSED LUNATE ",
      "SIGMA SYMBOLcDOTTED LUNATE SIGMA SYMBOLcREVERSED ",
      "DOTTED LUNATE SIGMA SYMBOLbQUESTION MARKbCAPITAL ",
      "LETTER YOT"]⟩,
    ⟨0x384, ["aGREEK TONOSbDIALYTIKA TONOSbCAPITAL LETTER ",
      "ALPHA WITH TONOSbANO TELEIAbCAPITAL LETTER EPSILON ",
      "WITH TONOSdETA WITH TONOSdIOTA WITH TONOS"]⟩,
    ⟨0x38C, ["aGREEK CAPITAL LETTER OMICRON WITH TONOS"]⟩,
    ⟨0x38E, ["aGREEK CAPITAL LETTER UPSILON WITH TONOS",
      "dOMEGA WITH TONOSbSMALL LETTER IOTA WITH DIALYTIKA ",
      "AND TONOSbCAPITAL LETTER ALPHAdBETAdGAMMAdDELTA",
      "dEPSILONdZETAdETAdTHETAdIOTAdKAPPAdLAMDAdMUdNUdXI",
      "dOMICRONdPIdRHO"]⟩,
    ⟨0x3A3, ["aGREEK CAPITAL LETTER SIGMAdTAUdUPSILONdPHI",
      "dCHIdPSIdOMEGAdIOTA WITH DIALYTIKAdUPSILON WITH ",
      "DIALYTIKAbSMALL LETTER ALPHA WITH TONOSdEPSILON WITH ",
      "TONOSdETA WITH TONOSdIOTA WITH TONOSdUPSILON WITH ",
      "DIALYTIKA AND TONOSdALPHAdBETAdGAMMAdDELTAdEPSILON",
      "dZETAdETAdTHETAdIOTAdKAPPAdLAMDAdMUdNUdXIdOMICRONdPI",
      "dRHOdFINAL SIGMAdSIGMAdTAUdUPSILONdPHIdCHIdPSIdOMEGA",
      "dIOTA WITH DIALYTIKAdUPSILON WITH DIALYTIKAdOMICRON ",
      "WITH TONOSdUPSILON WITH TONOSdOMEGA WITH TONOS",
      "bCAPITAL KAI SYMBOLbBETA SYMBOLbTHETA SYMBOLbUPSILON ",
      "WITH HOOK SYMBOLdACUTE AND HOOK SYMBOLdDIAERESIS AND ",
      "HOOK SYMBOLbPHI SYMBOLbPI SYMBOLbKAI SYMBOLbLETTER ",
      "ARCHAIC KOPPAbSMALL LETTER ARCHAIC KOPPAbLETTER ",
      "STIGMAbSMALL LETTER STIGMAbLETTER DIGAMMAbSMALL ",
      "LETTER DIGAMMAbLETTER KOPPAbSMALL LETTER KOPPA",
      "bLETTER SAMPIbSMALL LETTER SAMPIaCOPTIC CAPITAL ",
      "LETTER SHEIbSMALL LETTER SHEIbCAPITAL LETTER FEI",
      "bSMALL LETTER FEIbCAPITAL LETTER KHEIbSMALL LETTER ",
      "KHEIbCAPITAL LETTER HORIbSMALL LETTER HORIbCAPITAL ",
      "LETTER GANGIAbSMALL LETTER GANGIAbCAPITAL LETTER ",
      "SHIMAbSMALL LETTER SHIMAbCAPITAL LETTER DEIbSMALL ",
      "LETTER DEIaGREEK KAPPA SYMBOLbRHO SYMBOLbLUNATE ",
      "SIGMA SYMBOLbLETTER YOTbCAPITAL THETA SYMBOLbLUNATE ",
      "EPSILON SYMBOLbREVERSED LUNATE EPSILON SYMBOL",
      "bCAPITAL LETTER SHObSMALL LETTER SHObCAPITAL LUNATE ",
      "SIGMA SYMBOLcLETTER SANbSMALL LETTER SANbRHO WITH ",
      "STROKE SYMBOLbCAPITAL REVERSED LUNATE SIGMA SYMBOL",
      "cDOTTED LUNATE SIGMA SYMBOLcREVERSED DOTTED LUNATE ",
      "SIGMA SYMBOLaCYRILLIC CAPITAL LETTER IE WITH GRAVEdIO",
      "dDJEdGJEdUKRAINIAN IEdDZEdBYELORUSSIAN-UKRAINIAN IdYI",
      "dJEdLJEdNJEdTSHEdKJEdI WITH GRAVEdSHORT UdDZHEdAdBE",
      "dVEdGHEdDEdIEdZHEdZEdIdSHORT IdKAdELdEMdENdOdPEdERdES",
      "dTEdUdEFdHAdTSEdCHEdSHAdSHCHAdHARD SIGNdYERUdSOFT ",
      "SIGNdEdYUdYAbSMALL LETTER AdBEdVEdGHEdDEdIEdZHEdZEdI",
      "dSHORT IdKAdELdEMdENdOdPEdERdESdTEdUdEFdHAdTSEdCHE",
      "dSHAdSHCHAdHARD SIGNdYERUdSOFT SIGNdEdYUdYAdIE WITH ",
      "GRAVEdIOdDJEdGJEdUKRAINIAN IEdDZEdBYELORUSSIAN-",
      "UKRAINIAN IdYIdJEdLJEdNJEdTSHEdKJEdI WITH GRAVE",
      "dSHORT UdDZHEbCAPITAL LETTER OMEGAbSMALL LETTER OMEGA",
      "bCAPITAL LETTER YATbSMALL LETTER YATbCAPITAL LETTER ",
      "IOTIFIED EbSMALL LETTER IOTIFIED EbCAPITAL LETTER ",
      "LITTLE YUSbSMALL LETTER LITTLE YUSbCAPITAL LETTER ",
      "IOTIFIED LITTLE YUSbSMALL LETTER IOTIFIED LITTLE YUS",
      "bCAPITAL LETTER BIG YUSbSMALL LETTER BIG YUSbCAPITAL ",
      "LETTER IOTIFIED BIG YUSbSMALL LETTER IOTIFIED BIG YUS",
      "bCAPITAL LETTER KSIbSMALL LETTER KSIbCAPITAL LETTER ",
      "PSIbSMALL LETTER PSIbCAPITAL LETTER FITAbSMALL ",
      "LETTER FITAbCAPITAL LETTER IZHITSAbSMALL LETTER ",
      "IZHITSAbCAPITAL LETTER IZHITSA WITH DOUBLE GRAVE ",
      "ACCENTbSMALL LETTER IZHITSA WITH DOUBLE GRAVE ACCENT",
      "bCAPITAL LETTER UKbSMALL LETTER UKbCAPITAL LETTER ",
      "ROUND OMEGAbSMALL LETTER ROUND OMEGAbCAPITAL LETTER ",
      "OMEGA WITH TITLObSMALL LETTER OMEGA WITH TITLO",
      "bCAPITAL LETTER OTbSMALL LETTER OTbCAPITAL LETTER ",
      "KOPPAbSMALL LETTER KOPPAbTHOUSANDS SIGNaCOMBINING ",
      "CYRILLIC TITLOcPALATALIZATIONcDASIA PNEUMATAcPSILI ",
      "PNEUMATAcPOKRYTIEcHUNDRED THOUSANDS SIGNcMILLIONS ",
      "SIGNaCYRILLIC CAPITAL LETTER SHORT I WITH TAILbSMALL ",
      "LETTER SHORT I WITH TAILbCAPITAL LETTER SEMISOFT SIGN",
      "bSMALL LETTER SEMISOFT SIGNbCAPITAL LETTER ER WITH ",
      "TICKbSMALL LETTER ER WITH TICKbCAPITAL LETTER GHE ",
      "WITH UPTURNbSMALL LETTER GHE WITH UPTURNbCAPITAL ",
      "LETTER GHE WITH STROKEbSMALL LETTER GHE WITH STROKE",
      "bCAPITAL LETTER GHE WITH MIDDLE HOOKbSMALL LETTER ",
      "GHE WITH MIDDLE HOOKbCAPITAL LETTER ZHE WITH ",
      "DESCENDERbSMALL LETTER ZHE WITH DESCENDERbCAPITAL ",
      "LETTER ZE WITH DESCENDERbSMALL LETTER ZE WITH ",
      "DESCENDERbCAPITAL LETTER KA WITH DESCENDERbSMALL ",
      "LETTER KA WITH DESCENDERbCAPITAL LETTER KA WITH ",
      "VERTICAL STROKEbSMALL LETTER KA WITH VERTICAL STROKE",
      "bCAPITAL LETTER KA WITH STROKEbSMALL LETTER KA WITH ",
      "STROKEbCAPITAL LETTER BASHKIR KAbSMALL LETTER ",
      "BASHKIR KAbCAPITAL LETTER EN WITH DESCENDERbSMALL ",
      "LETTER EN WITH DESCENDERbCAPITAL LIGATURE EN GHE",
      "bSMALL LIGATURE EN GHEbCAPITAL LETTER PE WITH MIDDLE ",
      "HOOKbSMALL LETTER PE WITH MIDDLE HOOKbCAPITAL LETTER ",
      "ABKHASIAN HAbSMALL LETTER ABKHASIAN HAbCAPITAL ",
      "LETTER ES WITH DESCENDERbSMALL LETTER ES WITH ",
      "DESCENDERbCAPITAL LETTER TE WITH DESCENDERbSMALL ",
      "LETTER TE WITH DESCENDERbCAPITAL LETTER STRAIGHT U",
      "bSMALL LETTER STRAIGHT UbCAPITAL LETTER STRAIGHT U ",
      "WITH STROKEbSMALL LETTER STRAIGHT U WITH STROKE",
      "bCAPITAL LETTER HA WITH DESCENDERbSMALL LETTER HA ",
      "WITH DESCENDERbCAPITAL LIGATURE TE TSEbSMALL ",
      "LIGATURE TE TSEbCAPITAL LETTER CHE WITH DESCENDER",
      "bSMALL LETTER CHE WITH DESCENDERbCAPITAL LETTER CHE ",
      "WITH VERTICAL STROKEbSMALL LETTER CHE WITH VERTICAL ",
      "STROKEbCAPITAL LETTER SHHAbSMALL LETTER SHHAbCAPITAL ",
      "LETTER ABKHASIAN CHEbSMALL LETTER ABKHASIAN CHE",
      "bCAPITAL LETTER ABKHASIAN CHE WITH DESCENDERbSMALL ",
      "LETTER ABKHASIAN CHE WITH DESCENDERbLETTER PALOCHKA",
      "bCAPITAL LETTER ZHE WITH BREVEbSMALL LETTER ZHE WITH ",
      "BREVEbCAPITAL LETTER KA WITH HOOKbSMALL LETTER KA ",
      "WITH HOOKbCAPITAL LETTER EL WITH TAILbSMALL LETTER ",
      "EL WITH TAILbCAPITAL LETTER EN WITH HOOKbSMALL ",
      "LETTER EN WITH HOOKbCAPITAL LETTER EN WITH TAIL",
      "bSMALL LETTER EN WITH TAILbCAPITAL LETTER KHAKASSIAN ",
      "CHEbSMALL LETTER KHAKASSIAN CHEbCAPITAL LETTER EM ",
      "WITH TAILbSMALL LETTER EM WITH TAILdPALOCHKAbCAPITAL ",
      "LETTER A WITH BREVEbSMALL LETTER A WITH BREVE",
      "bCAPITAL LETTER A WITH DIAERESISbSMALL LETTER A WITH ",
      "DIAERESISbCAPITAL LIGATURE A IEbSMALL LIGATURE A IE",
      "bCAPITAL LETTER IE WITH BREVEbSMALL LETTER IE WITH ",
      "BREVEbCAPITAL LETTER SCHWAbSMALL LETTER SCHWA",
      "bCAPITAL LETTER SCHWA WITH DIAERESISbSMALL LETTER ",
      "SCHWA WITH DIAERESISbCAPITAL LETTER ZHE WITH ",
      "DIAERESISbSMALL LETTER ZHE WITH DIAERESISbCAPITAL ",
      "LETTER ZE WITH DIAERESISbSMALL LETTER ZE WITH ",
      "DIAERESISbCAPITAL LETTER ABKHASIAN DZEbSMALL LETTER ",
      "ABKHASIAN DZEbCAPITAL LETTER I WITH MACRONbSMALL ",
      "LETTER I WITH MACRONbCAPITAL LETTER I WITH DIAERESIS",
      "bSMALL LETTER I WITH DIAERESISbCAPITAL LETTER O WITH ",
      "DIAERESISbSMALL LETTER O WITH DIAERESISbCAPITAL ",
      "LETTER BARRED ObSMALL LETTER BARRED ObCAPITAL LETTER ",
      "BARRED O WITH DIAERESISbSMALL LETTER BARRED O WITH ",
      "DIAERESISbCAPITAL LETTER E WITH DIAERESISbSMALL ",
      "LETTER E WITH DIAERESISbCAPITAL LETTER U WITH MACRON",
      "bSMALL LETTER U WITH MACRONbCAPITAL LETTER U WITH ",
      "DIAERESISbSMALL LETTER U WITH DIAERESISbCAPITAL ",
      "LETTER U WITH DOUBLE ACUTEbSMALL LETTER U WITH ",
      "DOUBLE ACUTEbCAPITAL LETTER CHE WITH DIAERESISbSMALL ",
      "LETTER CHE WITH DIAERESISbCAPITAL LETTER GHE WITH ",
      "DESCENDERbSMALL LETTER GHE WITH DESCENDERbCAPITAL ",
      "LETTER YERU WITH DIAERESISbSMALL LETTER YERU WITH ",
      "DIAERESISbCAPITAL LETTER GHE WITH STROKE AND HOOK",
      "bSMALL LETTER GHE WITH STROKE AND HOOKbCAPITAL ",
      "LETTER HA WITH HOOKbSMALL LETTER HA WITH HOOK",
      "bCAPITAL LETTER HA WITH STROKEbSMALL LETTER HA WITH ",
      "STROKEbCAPITAL LETTER KOMI DEbSMALL LETTER KOMI DE",
      "bCAPITAL LETTER KOMI DJEbSMALL LETTER KOMI DJE",
      "bCAPITAL LETTER KOMI ZJEbSMALL LETTER KOMI ZJE",
      "bCAPITAL LETTER KOMI DZJEbSMALL LETTER KOMI DZJE",
      "bCAPITAL LETTER KOMI LJEbSMALL LETTER KOMI LJE",
      "bCAPITAL LETTER KOMI NJEbSMALL LETTER KOMI NJE",
      "bCAPITAL LETTER KOMI SJEbSMALL LETTER KOMI SJE",
      "bCAPITAL LETTER KOMI TJEbSMALL LETTER KOMI TJE",
      "bCAPITAL LETTER REVERSED ZEbSMALL LETTER REVERSED ZE",
      "bCAPITAL LETTER EL WITH HOOKbSMALL LETTER EL WITH ",
      "HOOKbCAPITAL LETTER LHAbSMALL LETTER LHAbCAPITAL ",
      "LETTER RHAbSMALL LETTER RHAbCAPITAL LETTER YAEbSMALL ",
      "LETTER YAEbCAPITAL LETTER QAbSMALL LETTER QAbCAPITAL ",
      "LETTER WEbSMALL LETTER WEbCAPITAL LETTER ALEUT KA",
      "bSMALL LETTER ALEUT KAbCAPITAL LETTER EL WITH MIDDLE ",
      "HOOKbSMALL LETTER EL WITH MIDDLE HOOKbCAPITAL LETTER ",
      "EN WITH MIDDLE HOOKbSMALL LETTER EN WITH MIDDLE HOOK",
      "bCAPITAL LETTER PE WITH DESCENDERbSMALL LETTER PE ",
      "WITH DESCENDERbCAPITAL LETTER SHHA WITH DESCENDER",
      "bSMALL LETTER SHHA WITH DESCENDERbCAPITAL LETTER EN ",
      "WITH LEFT HOOKbSMALL LETTER EN WITH LEFT HOOK",
      "bCAPITAL LETTER DZZHEbSMALL LETTER DZZHEbCAPITAL ",
      "LETTER DCHEbSMALL LETTER DCHEbCAPITAL LETTER EL WITH ",
      "DESCENDERbSMALL LETTER EL WITH DESCENDER"]⟩,
    ⟨0x531, ["aARMENIAN CAPITAL LETTER AYBdBENdGIMdDAdECHdZA",
      "dEHdETdTOdZHEdINIdLIWNdXEHdCAdKENdHOdJAdGHADdCHEHdMEN",
      "dYIdNOWdSHAdVOdCHAdPEHdJHEHdRAdSEHdVEWdTIWNdREHdCO",
      "dYIWNdPIWRdKEHdOHdFEH"]⟩,
    ⟨0x559, ["aARMENIAN MODIFIER LETTER LEFT HALF RING",
      "bAPOSTROPHEbEMPHASIS MARKbEXCLAMATION MARKbCOMMA",
      "bQUESTION MARKbABBREVIATION MARKbSMALL LETTER TURNED ",
      "AYBdAYBdBENdGIMdDAdECHdZAdEHdETdTOdZHEdINIdLIWNdXEH",
      "dCAdKENdHOdJAdGHADdCHEHdMENdYIdNOWdSHAdVOdCHAdPEH",
      "dJHEHdRAdSEHdVEWdTIWNdREHdCOdYIWNdPIWRdKEHdOHdFEH",
      "cLIGATURE ECH YIWNcLETTER YI WITH STROKEbFULL STOP",
      "bHYPHEN"]⟩,
    ⟨0x58D, ["aRIGHT-FACING ARMENIAN ETERNITY SIGNaLEFT-",
      "FACING ARMENIAN ETERNITY SIGNaARMENIAN DRAM SIGN"]⟩]

end SigCheck
