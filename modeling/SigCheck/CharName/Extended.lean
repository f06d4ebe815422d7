import SigCheck.CharName.Run

/-
  Names of phonetic and further Latin and Greek letters,
  from U+1D00 to U+1FFF.

  Key definitions include:
    * `CharName.extended`
-/

namespace SigCheck

/- The runs of these names. -/
def CharName.extended : List NameRun :=
  [⟨0x1D00, ["aLATIN LETTER SMALL CAPITAL AeAEbSMALL ",
      "LETTER TURNED AEbLETTER SMALL CAPITAL BARRED BeCeD",
      "eETHeEbSMALL LETTER TURNED OPEN EeIbLETTER SMALL ",
      "CAPITAL JeKeL WITH STROKEeMeREVERSED NeOeOPEN O",
      "bSMALL LETTER SIDEWAYS OeOPEN OeO WITH STROKEdTURNED ",
      "OEbLETTER SMALL CAPITAL OUbSMALL LETTER TOP HALF O",
      "dBOTTOM HALF ObLETTER SMALL CAPITAL PeREVERSED R",
      "eTURNED ReTeUbSMALL LETTER SIDEWAYS UeDIAERESIZED U",
      "eTURNED MbLETTER SMALL CAPITAL VeWeZeEZHcVOICED ",
      "LARYNGEAL SPIRANTcAINaGREEK LETTER SMALL CAPITAL ",
      "GAMMAeLAMDAePIeRHOePSIaCYRILLIC LETTER SMALL CAPITAL ",
      "ELaMODIFIER LETTER CAPITAL AdAEdBdBARRED BdDdE",
      "dREVERSED EdGdHdIdJdKdLdMdNdREVERSED NdOdOUdPdRdTdUdW",
      "cSMALL AdTURNED AdALPHAdTURNED AEdBdDdEdSCHWAdOPEN E",
      "dTURNED OPEN EdGdTURNED IdKdMdENGdOdOPEN OdTOP HALF O",
      "dBOTTOM HALF OdPdTdUdSIDEWAYS UdTURNED MdVdAINdBETA",
      "dGREEK GAMMAdDELTAdGREEK PHIdCHIaLATIN SUBSCRIPT ",
      "SMALL LETTER IeReUeVaGREEK SUBSCRIPT SMALL LETTER ",
      "BETAeGAMMAeRHOePHIeCHIaLATIN SMALL LETTER UEdB WITH ",
      "MIDDLE TILDEdD WITH MIDDLE TILDEdF WITH MIDDLE TILDE",
      "dM WITH MIDDLE TILDEdN WITH MIDDLE TILDEdP WITH ",
      "MIDDLE TILDEdR WITH MIDDLE TILDEfFISHHOOK AND MIDDLE ",
      "TILDEdS WITH MIDDLE TILDEdT WITH MIDDLE TILDEdZ WITH ",
      "MIDDLE TILDEdTURNED GaMODIFIER LETTER CYRILLIC EN",
      "aLATIN SMALL LETTER INSULAR GdTH WITH STRIKETHROUGH",
      "cCAPITAL LETTER I WITH STROKEcLETTER IOTA WITH STROKE",
      "dP WITH STROKEcCAPITAL LETTER U WITH STROKEcLETTER ",
      "UPSILON WITH STROKEdB WITH PALATAL HOOKdD WITH ",
      "PALATAL HOOKdF WITH PALATAL HOOKdG WITH PALATAL HOOK",
      "dK WITH PALATAL HOOKdL WITH PALATAL HOOKdM WITH ",
      "PALATAL HOOKdN WITH PALATAL HOOKdP WITH PALATAL HOOK",
      "dR WITH PALATAL HOOKdS WITH PALATAL HOOKdESH WITH ",
      "PALATAL HOOKdV WITH PALATAL HOOKdX WITH PALATAL HOOK",
      "dZ WITH PALATAL HOOKdA WITH RETROFLEX HOOKdALPHA ",
      "WITH RETROFLEX HOOKdD WITH HOOK AND TAILdE WITH ",
      "RETROFLEX HOOKdOPEN E WITH RETROFLEX HOOKdREVERSED ",
      "OPEN E WITH RETROFLEX HOOKdSCHWA WITH RETROFLEX HOOK",
      "dI WITH RETROFLEX HOOKdOPEN O WITH RETROFLEX HOOK",
      "dESH WITH RETROFLEX HOOKdU WITH RETROFLEX HOOKdEZH ",
      "WITH RETROFLEX HOOKaMODIFIER LETTER SMALL TURNED ",
      "ALPHAdCdC WITH CURLdETHdREVERSED OPEN EdFdDOTLESS J ",
      "WITH STROKEdSCRIPT GdTURNED HdI WITH STROKEdIOTA",
      "dCAPITAL IeI WITH STROKEdJ WITH CROSSED-TAILdL WITH ",
      "RETROFLEX HOOKfPALATAL HOOKdCAPITAL LdM WITH HOOK",
      "dTURNED M WITH LONG LEGdN WITH LEFT HOOKfRETROFLEX ",
      "HOOKdCAPITAL NdBARRED OdPHIdS WITH HOOKdESHdT WITH ",
      "PALATAL HOOKdU BARdUPSILONdCAPITAL UdV WITH HOOK",
      "dTURNED VdZdZ WITH RETROFLEX HOOKfCURLdEZHdTHETA",
      "aCOMBINING DOTTED GRAVE ACCENTcACUTE ACCENTbSNAKE ",
      "BELOWbSUSPENSION MARKbMACRON-ACUTEbGRAVE-MACRON",
      "bMACRON-GRAVEbACUTE-MACRONbGRAVE-ACUTE-GRAVEbACUTE-",
      "GRAVE-ACUTEbLATIN SMALL LETTER R BELOWbBREVE-MACRON",
      "bMACRON-BREVEbDOUBLE CIRCUMFLEX ABOVEbOGONEK ABOVE",
      "bZIGZAG BELOWbIS BELOWbUR ABOVEbUS ABOVEbLATIN SMALL ",
      "LETTER FLATTENED OPEN A ABOVEeAEeAOeAVeC CEDILLA",
      "eINSULAR DeETHeGcLETTER SMALL CAPITAL GcSMALL LETTER ",
      "KeLcLETTER SMALL CAPITAL LfMcSMALL LETTER NcLETTER ",
      "SMALL CAPITAL NfRcSMALL LETTER R ROTUNDAeSeLONG SeZ",
      "eALPHAeBeBETAeSCHWAeFeL WITH DOUBLE MIDDLE TILDEeO ",
      "WITH LIGHT CENTRALIZATION STROKEePeESHeU WITH LIGHT ",
      "CENTRALIZATION STROKEeWeA WITH DIAERESISeO WITH ",
      "DIAERESISeU WITH DIAERESISbUP TACK ABOVEbKAVYKA ",
      "ABOVE RIGHTdLEFTbDOT ABOVE LEFTbWIDE INVERTED BRIDGE ",
      "BELOWbDOT BELOW LEFTbDELETION MARKbDOUBLE INVERTED ",
      "BREVE BELOWbALMOST EQUAL TO BELOWbLEFT ARROWHEAD ",
      "ABOVEbRIGHT ARROWHEAD AND DOWN ARROWHEAD BELOWaLATIN ",
      "CAPITAL LETTER A WITH RING BELOWbSMALL LETTER A WITH ",
      "RING BELOWbCAPITAL LETTER B WITH DOT ABOVEbSMALL ",
      "LETTER B WITH DOT ABOVEbCAPITAL LETTER B WITH DOT ",
      "BELOWbSMALL LETTER B WITH DOT BELOWbCAPITAL LETTER B ",
      "WITH LINE BELOWbSMALL LETTER B WITH LINE BELOW",
      "bCAPITAL LETTER C WITH CEDILLA AND ACUTEbSMALL ",
      "LETTER C WITH CEDILLA AND ACUTEbCAPITAL LETTER D ",
      "WITH DOT ABOVEbSMALL LETTER D WITH DOT ABOVEbCAPITAL ",
      "LETTER D WITH DOT BELOWbSMALL LETTER D WITH DOT BELOW",
      "bCAPITAL LETTER D WITH LINE BELOWbSMALL LETTER D ",
      "WITH LINE BELOWbCAPITAL LETTER D WITH CEDILLAbSMALL ",
      "LETTER D WITH CEDILLAbCAPITAL LETTER D WITH ",
      "CIRCUMFLEX BELOWbSMALL LETTER D WITH CIRCUMFLEX BELOW",
      "bCAPITAL LETTER E WITH MACRON AND GRAVEbSMALL LETTER ",
      "E WITH MACRON AND GRAVEbCAPITAL LETTER E WITH MACRON ",
      "AND ACUTEbSMALL LETTER E WITH MACRON AND ACUTE",
      "bCAPITAL LETTER E WITH CIRCUMFLEX BELOWbSMALL LETTER ",
      "E WITH CIRCUMFLEX BELOWbCAPITAL LETTER E WITH TILDE ",
      "BELOWbSMALL LETTER E WITH TILDE BELOWbCAPITAL LETTER ",
      "E WITH CEDILLA AND BREVEbSMALL LETTER E WITH CEDILLA ",
      "AND BREVEbCAPITAL LETTER F WITH DOT ABOVEbSMALL ",
      "LETTER F WITH DOT ABOVEbCAPITAL LETTER G WITH MACRON",
      "bSMALL LETTER G WITH MACRONbCAPITAL LETTER H WITH ",
      "DOT ABOVEbSMALL LETTER H WITH DOT ABOVEbCAPITAL ",
      "LETTER H WITH DOT BELOWbSMALL LETTER H WITH DOT BELOW",
      "bCAPITAL LETTER H WITH DIAERESISbSMALL LETTER H WITH ",
      "DIAERESISbCAPITAL LETTER H WITH CEDILLAbSMALL LETTER ",
      "H WITH CEDILLAbCAPITAL LETTER H WITH BREVE BELOW",
      "bSMALL LETTER H WITH BREVE BELOWbCAPITAL LETTER I ",
      "WITH TILDE BELOWbSMALL LETTER I WITH TILDE BELOW",
      "bCAPITAL LETTER I WITH DIAERESIS AND ACUTEbSMALL ",
      "LETTER I WITH DIAERESIS AND ACUTEbCAPITAL LETTER K ",
      "WITH ACUTEbSMALL LETTER K WITH ACUTEbCAPITAL LETTER ",
      "K WITH DOT BELOWbSMALL LETTER K WITH DOT BELOW",
      "bCAPITAL LETTER K WITH LINE BELOWbSMALL LETTER K ",
      "WITH LINE BELOWbCAPITAL LETTER L WITH DOT BELOW",
      "bSMALL LETTER L WITH DOT BELOWbCAPITAL LETTER L WITH ",
      "DOT BELOW AND MACRONbSMALL LETTER L WITH DOT BELOW ",
      "AND MACRONbCAPITAL LETTER L WITH LINE BELOWbSMALL ",
      "LETTER L WITH LINE BELOWbCAPITAL LETTER L WITH ",
      "CIRCUMFLEX BELOWbSMALL LETTER L WITH CIRCUMFLEX BELOW",
      "bCAPITAL LETTER M WITH ACUTEbSMALL LETTER M WITH ",
      "ACUTEbCAPITAL LETTER M WITH DOT ABOVEbSMALL LETTER M ",
      "WITH DOT ABOVEbCAPITAL LETTER M WITH DOT BELOWbSMALL ",
      "LETTER M WITH DOT BELOWbCAPITAL LETTER N WITH DOT ",
      "ABOVEbSMALL LETTER N WITH DOT ABOVEbCAPITAL LETTER N ",
      "WITH DOT BELOWbSMALL LETTER N WITH DOT BELOWbCAPITAL ",
      "LETTER N WITH LINE BELOWbSMALL LETTER N WITH LINE ",
      "BELOWbCAPITAL LETTER N WITH CIRCUMFLEX BELOWbSMALL ",
      "LETTER N WITH CIRCUMFLEX BELOWbCAPITAL LETTER O WITH ",
      "TILDE AND ACUTEbSMALL LETTER O WITH TILDE AND ACUTE",
      "bCAPITAL LETTER O WITH TILDE AND DIAERESISbSMALL ",
      "LETTER O WITH TILDE AND DIAERESISbCAPITAL LETTER O ",
      "WITH MACRON AND GRAVEbSMALL LETTER O WITH MACRON AND ",
      "GRAVEbCAPITAL LETTER O WITH MACRON AND ACUTEbSMALL ",
      "LETTER O WITH MACRON AND ACUTEbCAPITAL LETTER P WITH ",
      "ACUTEbSMALL LETTER P WITH ACUTEbCAPITAL LETTER P ",
      "WITH DOT ABOVEbSMALL LETTER P WITH DOT ABOVEbCAPITAL ",
      "LETTER R WITH DOT ABOVEbSMALL LETTER R WITH DOT ABOVE",
      "bCAPITAL LETTER R WITH DOT BELOWbSMALL LETTER R WITH ",
      "DOT BELOWbCAPITAL LETTER R WITH DOT BELOW AND MACRON",
      "bSMALL LETTER R WITH DOT BELOW AND MACRONbCAPITAL ",
      "LETTER R WITH LINE BELOWbSMALL LETTER R WITH LINE ",
      "BELOWbCAPITAL LETTER S WITH DOT ABOVEbSMALL LETTER S ",
      "WITH DOT ABOVEbCAPITAL LETTER S WITH DOT BELOWbSMALL ",
      "LETTER S WITH DOT BELOWbCAPITAL LETTER S WITH ACUTE ",
      "AND DOT ABOVEbSMALL LETTER S WITH ACUTE AND DOT ABOVE",
      "bCAPITAL LETTER S WITH CARON AND DOT ABOVEbSMALL ",
      "LETTER S WITH CARON AND DOT ABOVEbCAPITAL LETTER S ",
      "WITH DOT BELOW AND DOT ABOVEbSMALL LETTER S WITH DOT ",
      "BELOW AND DOT ABOVEbCAPITAL LETTER T WITH DOT ABOVE",
      "bSMALL LETTER T WITH DOT ABOVEbCAPITAL LETTER T WITH ",
      "DOT BELOWbSMALL LETTER T WITH DOT BELOWbCAPITAL ",
      "LETTER T WITH LINE BELOWbSMALL LETTER T WITH LINE ",
      "BELOWbCAPITAL LETTER T WITH CIRCUMFLEX BELOWbSMALL ",
      "LETTER T WITH CIRCUMFLEX BELOWbCAPITAL LETTER U WITH ",
      "DIAERESIS BELOWbSMALL LETTER U WITH DIAERESIS BELOW",
      "bCAPITAL LETTER U WITH TILDE BELOWbSMALL LETTER U ",
      "WITH TILDE BELOWbCAPITAL LETTER U WITH CIRCUMFLEX ",
      "BELOWbSMALL LETTER U WITH CIRCUMFLEX BELOWbCAPITAL ",
      "LETTER U WITH TILDE AND ACUTEbSMALL LETTER U WITH ",
      "TILDE AND ACUTEbCAPITAL LETTER U WITH MACRON AND ",
      "DIAERESISbSMALL LETTER U WITH MACRON AND DIAERESIS",
      "bCAPITAL LETTER V WITH TILDEbSMALL LETTER V WITH ",
      "TILDEbCAPITAL LETTER V WITH DOT BELOWbSMALL LETTER V ",
      "WITH DOT BELOWbCAPITAL LETTER W WITH GRAVEbSMALL ",
      "LETTER W WITH GRAVEbCAPITAL LETTER W WITH ACUTE",
      "bSMALL LETTER W WITH ACUTEbCAPITAL LETTER W WITH ",
      "DIAERESISbSMALL LETTER W WITH DIAERESISbCAPITAL ",
      "LETTER W WITH DOT ABOVEbSMALL LETTER W WITH DOT ABOVE",
      "bCAPITAL LETTER W WITH DOT BELOWbSMALL LETTER W WITH ",
      "DOT BELOWbCAPITAL LETTER X WITH DOT ABOVEbSMALL ",
      "LETTER X WITH DOT ABOVEbCAPITAL LETTER X WITH ",
      "DIAERESISbSMALL LETTER X WITH DIAERESISbCAPITAL ",
      "LETTER Y WITH DOT ABOVEbSMALL LETTER Y WITH DOT ABOVE",
      "bCAPITAL LETTER Z WITH CIRCUMFLEXbSMALL LETTER Z ",
      "WITH CIRCUMFLEXbCAPITAL LETTER Z WITH DOT BELOW",
      "bSMALL LETTER Z WITH DOT BELOWbCAPITAL LETTER Z WITH ",
      "LINE BELOWbSMALL LETTER Z WITH LINE BELOWdH WITH ",
      "LINE BELOWdT WITH DIAERESISdW WITH RING ABOVEdY WITH ",
      "RING ABOVEdA WITH RIGHT HALF RINGdLONG S WITH DOT ",
      "ABOVEgDIAGONAL STROKEgHIGH STROKEbCAPITAL LETTER ",
      "SHARP SbSMALL LETTER DELTAbCAPITAL LETTER A WITH DOT ",
      "BELOWbSMALL LETTER A WITH DOT BELOWbCAPITAL LETTER A ",
      "WITH HOOK ABOVEbSMALL LETTER A WITH HOOK ABOVE",
      "bCAPITAL LETTER A WITH CIRCUMFLEX AND ACUTEbSMALL ",
      "LETTER A WITH CIRCUMFLEX AND ACUTEbCAPITAL LETTER A ",
      "WITH CIRCUMFLEX AND GRAVEbSMALL LETTER A WITH ",
      "CIRCUMFLEX AND GRAVEbCAPITAL LETTER A WITH ",
      "CIRCUMFLEX AND HOOK ABOVEbSMALL LETTER A WITH ",
      "CIRCUMFLEX AND HOOK ABOVEbCAPITAL LETTER A WITH ",
      "CIRCUMFLEX AND TILDEbSMALL LETTER A WITH CIRCUMFLEX ",
      "AND TILDEbCAPITAL LETTER A WITH CIRCUMFLEX AND DOT ",
      "BELOWbSMALL LETTER A WITH CIRCUMFLEX AND DOT BELOW",
      "bCAPITAL LETTER A WITH BREVE AND ACUTEbSMALL LETTER ",
      "A WITH BREVE AND ACUTEbCAPITAL LETTER A WITH BREVE ",
      "AND GRAVEbSMALL LETTER A WITH BREVE AND GRAVE",
      "bCAPITAL LETTER A WITH BREVE AND HOOK ABOVEbSMALL ",
      "LETTER A WITH BREVE AND HOOK ABOVEbCAPITAL LETTER A ",
      "WITH BREVE AND TILDEbSMALL LETTER A WITH BREVE AND ",
      "TILDEbCAPITAL LETTER A WITH BREVE AND DOT BELOW",
      "bSMALL LETTER A WITH BREVE AND DOT BELOWbCAPITAL ",
      "LETTER E WITH DOT BELOWbSMALL LETTER E WITH DOT BELOW",
      "bCAPITAL LETTER E WITH HOOK ABOVEbSMALL LETTER E ",
      "WITH HOOK ABOVEbCAPITAL LETTER E WITH TILDEbSMALL ",
      "LETTER E WITH TILDEbCAPITAL LETTER E WITH CIRCUMFLEX ",
      "AND ACUTEbSMALL LETTER E WITH CIRCUMFLEX AND ACUTE",
      "bCAPITAL LETTER E WITH CIRCUMFLEX AND GRAVEbSMALL ",
      "LETTER E WITH CIRCUMFLEX AND GRAVEbCAPITAL LETTER E ",
      "WITH CIRCUMFLEX AND HOOK ABOVEbSMALL LETTER E WITH ",
      "CIRCUMFLEX AND HOOK ABOVEbCAPITAL LETTER E WITH ",
      "CIRCUMFLEX AND TILDEbSMALL LETTER E WITH CIRCUMFLEX ",
      "AND TILDEbCAPITAL LETTER E WITH CIRCUMFLEX AND DOT ",
      "BELOWbSMALL LETTER E WITH CIRCUMFLEX AND DOT BELOW",
      "bCAPITAL LETTER I WITH HOOK ABOVEbSMALL LETTER I ",
      "WITH HOOK ABOVEbCAPITAL LETTER I WITH DOT BELOW",
      "bSMALL LETTER I WITH DOT BELOWbCAPITAL LETTER O WITH ",
      "DOT BELOWbSMALL LETTER O WITH DOT BELOWbCAPITAL ",
      "LETTER O WITH HOOK ABOVEbSMALL LETTER O WITH HOOK ",
      "ABOVEbCAPITAL LETTER O WITH CIRCUMFLEX AND ACUTE",
      "bSMALL LETTER O WITH CIRCUMFLEX AND ACUTEbCAPITAL ",
      "LETTER O WITH CIRCUMFLEX AND GRAVEbSMALL LETTER O ",
      "WITH CIRCUMFLEX AND GRAVEbCAPITAL LETTER O WITH ",
      "CIRCUMFLEX AND HOOK ABOVEbSMALL LETTER O WITH ",
      "CIRCUMFLEX AND HOOK ABOVEbCAPITAL LETTER O WITH ",
      "CIRCUMFLEX AND TILDEbSMALL LETTER O WITH CIRCUMFLEX ",
      "AND TILDEbCAPITAL LETTER O WITH CIRCUMFLEX AND DOT ",
      "BELOWbSMALL LETTER O WITH CIRCUMFLEX AND DOT BELOW",
      "bCAPITAL LETTER O WITH HORN AND ACUTEbSMALL LETTER O ",
      "WITH HORN AND ACUTEbCAPITAL LETTER O WITH HORN AND ",
      "GRAVEbSMALL LETTER O WITH HORN AND GRAVEbCAPITAL ",
      "LETTER O WITH HORN AND HOOK ABOVEbSMALL LETTER O ",
      "WITH HORN AND HOOK ABOVEbCAPITAL LETTER O WITH HORN ",
      "AND TILDEbSMALL LETTER O WITH HORN AND TILDEbCAPITAL ",
      "LETTER O WITH HORN AND DOT BELOWbSMALL LETTER O WITH ",
      "HORN AND DOT BELOWbCAPITAL LETTER U WITH DOT BELOW",
      "bSMALL LETTER U WITH DOT BELOWbCAPITAL LETTER U WITH ",
      "HOOK ABOVEbSMALL LETTER U WITH HOOK ABOVEbCAPITAL ",
      "LETTER U WITH HORN AND ACUTEbSMALL LETTER U WITH ",
      "HORN AND ACUTEbCAPITAL LETTER U WITH HORN AND GRAVE",
      "bSMALL LETTER U WITH HORN AND GRAVEbCAPITAL LETTER U ",
      "WITH HORN AND HOOK ABOVEbSMALL LETTER U WITH HORN ",
      "AND HOOK ABOVEbCAPITAL LETTER U WITH HORN AND TILDE",
      "bSMALL LETTER U WITH HORN AND TILDEbCAPITAL LETTER U ",
      "WITH HORN AND DOT BELOWbSMALL LETTER U WITH HORN AND ",
      "DOT BELOWbCAPITAL LETTER Y WITH GRAVEbSMALL LETTER Y ",
      "WITH GRAVEbCAPITAL LETTER Y WITH DOT BELOWbSMALL ",
      "LETTER Y WITH DOT BELOWbCAPITAL LETTER Y WITH HOOK ",
      "ABOVEbSMALL LETTER Y WITH HOOK ABOVEbCAPITAL LETTER ",
      "Y WITH TILDEbSMALL LETTER Y WITH TILDEbCAPITAL ",
      "LETTER MIDDLE-WELSH LLbSMALL LETTER MIDDLE-WELSH LL",
      "bCAPITAL LETTER MIDDLE-WELSH VbSMALL LETTER MIDDLE-",
      "WELSH VbCAPITAL LETTER Y WITH LOOPbSMALL LETTER Y ",
      "WITH LOOPaGREEK SMALL LETTER ALPHA WITH PSILIfDASIA",
      "fPSILI AND VARIAfDASIA AND VARIAfPSILI AND OXIA",
      "fDASIA AND OXIAfPSILI AND PERISPOMENIfDASIA AND ",
      "PERISPOMENIbCAPITAL LETTER ALPHA WITH PSILIfDASIA",
      "fPSILI AND VARIAfDASIA AND VARIAfPSILI AND OXIA",
      "fDASIA AND OXIAfPSILI AND PERISPOMENIfDASIA AND ",
      "PERISPOMENIbSMALL LETTER EPSILON WITH PSILIfDASIA",
      "fPSILI AND VARIAfDASIA AND VARIAfPSILI AND OXIA",
      "fDASIA AND OXIA"]⟩,
    ⟨0x1F18, ["aGREEK CAPITAL LETTER EPSILON WITH PSILI",
      "fDASIAfPSILI AND VARIAfDASIA AND VARIAfPSILI AND OXIA",
      "fDASIA AND OXIA"]⟩,
    ⟨0x1F20, ["aGREEK SMALL LETTER ETA WITH PSILIfDASIA",
      "fPSILI AND VARIAfDASIA AND VARIAfPSILI AND OXIA",
      "fDASIA AND OXIAfPSILI AND PERISPOMENIfDASIA AND ",
      "PERISPOMENIbCAPITAL LETTER ETA WITH PSILIfDASIA",
      "fPSILI AND VARIAfDASIA AND VARIAfPSILI AND OXIA",
      "fDASIA AND OXIAfPSILI AND PERISPOMENIfDASIA AND ",
      "PERISPOMENIbSMALL LETTER IOTA WITH PSILIfDASIAfPSILI ",
      "AND VARIAfDASIA AND VARIAfPSILI AND OXIAfDASIA AND ",
      "OXIAfPSILI AND PERISPOMENIfDASIA AND PERISPOMENI",
      "bCAPITAL LETTER IOTA WITH PSILIfDASIAfPSILI AND VARIA",
      "fDASIA AND VARIAfPSILI AND OXIAfDASIA AND OXIAfPSILI ",
      "AND PERISPOMENIfDASIA AND PERISPOMENIbSMALL LETTER ",
      "OMICRON WITH PSILIfDASIAfPSILI AND VARIAfDASIA AND ",
      "VARIAfPSILI AND OXIAfDASIA AND OXIA"]⟩,
    ⟨0x1F48, ["aGREEK CAPITAL LETTER OMICRON WITH PSILI",
      "fDASIAfPSILI AND VARIAfDASIA AND VARIAfPSILI AND OXIA",
      "fDASIA AND OXIA"]⟩,
    ⟨0x1F50, ["aGREEK SMALL LETTER UPSILON WITH PSILIfDASIA",
      "fPSILI AND VARIAfDASIA AND VARIAfPSILI AND OXIA",
      "fDASIA AND OXIAfPSILI AND PERISPOMENIfDASIA AND ",
      "PERISPOMENI"]⟩,
    ⟨0x1F59, ["aGREEK CAPITAL LETTER UPSILON WITH DASIA"]⟩,
    ⟨0x1F5B, ["aGREEK CAPITAL LETTER UPSILON WITH DASIA AND ",
      "VARIA"]⟩,
    ⟨0x1F5D, ["aGREEK CAPITAL LETTER UPSILON WITH DASIA AND ",
      "OXIA"]⟩,
    ⟨0x1F5F, ["aGREEK CAPITAL LETTER UPSILON WITH DASIA AND ",
      "PERISPOMENIbSMALL LETTER OMEGA WITH PSILIfDASIA",
      "fPSILI AND VARIAfDASIA AND VARIAfPSILI AND OXIA",
      "fDASIA AND OXIAfPSILI AND PERISPOMENIfDASIA AND ",
      "PERISPOMENIbCAPITAL LETTER OMEGA WITH PSILIfDASIA",
      "fPSILI AND VARIAfDASIA AND VARIAfPSILI AND OXIA",
      "fDASIA AND OXIAfPSILI AND PERISPOMENIfDASIA AND ",
      "PERISPOMENIbSMALL LETTER ALPHA WITH VARIAfOXIA",
      "dEPSILON WITH VARIAfOXIAdETA WITH VARIAfOXIAdIOTA ",
      "WITH VARIAfOXIAdOMICRON WITH VARIAfOXIAdUPSILON WITH ",
      "VARIAfOXIAdOMEGA WITH VARIAfOXIA"]⟩,
    ⟨0x1F80, ["aGREEK SMALL LETTER ALPHA WITH PSILI AND ",
      "YPOGEGRAMMENIfDASIA AND YPOGEGRAMMENIfPSILI AND ",
      "VARIA AND YPOGEGRAMMENIfDASIA AND VARIA AND ",
      "YPOGEGRAMMENIfPSILI AND OXIA AND YPOGEGRAMMENIfDASIA ",
      "AND OXIA AND YPOGEGRAMMENIfPSILI AND PERISPOMENI AND ",
      "YPOGEGRAMMENIfDASIA AND PERISPOMENI AND YPOGEGRAMMENI",
      "bCAPITAL LETTER ALPHA WITH PSILI AND PROSGEGRAMMENI",
      "fDASIA AND PROSGEGRAMMENIfPSILI AND VARIA AND ",
      "PROSGEGRAMMENIfDASIA AND VARIA AND PROSGEGRAMMENI",
      "fPSILI AND OXIA AND PROSGEGRAMMENIfDASIA AND OXIA ",
      "AND PROSGEGRAMMENIfPSILI AND PERISPOMENI AND ",
      "PROSGEGRAMMENIfDASIA AND PERISPOMENI AND ",
      "PROSGEGRAMMENIbSMALL LETTER ETA WITH PSILI AND ",
      "YPOGEGRAMMENIfDASIA AND YPOGEGRAMMENIfPSILI AND ",
      "VARIA AND YPOGEGRAMMENIfDASIA AND VARIA AND ",
      "YPOGEGRAMMENIfPSILI AND OXIA AND YPOGEGRAMMENIfDASIA ",
      "AND OXIA AND YPOGEGRAMMENIfPSILI AND PERISPOMENI AND ",
      "YPOGEGRAMMENIfDASIA AND PERISPOMENI AND YPOGEGRAMMENI",
      "bCAPITAL LETTER ETA WITH PSILI AND PROSGEGRAMMENI",
      "fDASIA AND PROSGEGRAMMENIfPSILI AND VARIA AND ",
      "PROSGEGRAMMENIfDASIA AND VARIA AND PROSGEGRAMMENI",
      "fPSILI AND OXIA AND PROSGEGRAMMENIfDASIA AND OXIA ",
      "AND PROSGEGRAMMENIfPSILI AND PERISPOMENI AND ",
      "PROSGEGRAMMENIfDASIA AND PERISPOMENI AND ",
      "PROSGEGRAMMENIbSMALL LETTER OMEGA WITH PSILI AND ",
      "YPOGEGRAMMENIfDASIA AND YPOGEGRAMMENIfPSILI AND ",
      "VARIA AND YPOGEGRAMMENIfDASIA AND VARIA AND ",
      "YPOGEGRAMMENIfPSILI AND OXIA AND YPOGEGRAMMENIfDASIA ",
      "AND OXIA AND YPOGEGRAMMENIfPSILI AND PERISPOMENI AND ",
      "YPOGEGRAMMENIfDASIA AND PERISPOMENI AND YPOGEGRAMMENI",
      "bCAPITAL LETTER OMEGA WITH PSILI AND PROSGEGRAMMENI",
      "fDASIA AND PROSGEGRAMMENIfPSILI AND VARIA AND ",
      "PROSGEGRAMMENIfDASIA AND VARIA AND PROSGEGRAMMENI",
      "fPSILI AND OXIA AND PROSGEGRAMMENIfDASIA AND OXIA ",
      "AND PROSGEGRAMMENIfPSILI AND PERISPOMENI AND ",
      "PROSGEGRAMMENIfDASIA AND PERISPOMENI AND ",
      "PROSGEGRAMMENIbSMALL LETTER ALPHA WITH VRACHYfMACRON",
      "fVARIA AND YPOGEGRAMMENIfYPOGEGRAMMENIfOXIA AND ",
      "YPOGEGRAMMENI"]⟩,
    ⟨0x1FB6, ["aGREEK SMALL LETTER ALPHA WITH PERISPOMENI",
      "fPERISPOMENI AND YPOGEGRAMMENIbCAPITAL LETTER ALPHA ",
      "WITH VRACHYfMACRONfVARIAfOXIAfPROSGEGRAMMENIbKORONIS",
      "bPROSGEGRAMMENIbPSILIbPERISPOMENIbDIALYTIKA AND ",
      "PERISPOMENIbSMALL LETTER ETA WITH VARIA AND ",
      "YPOGEGRAMMENIfYPOGEGRAMMENIfOXIA AND YPOGEGRAMMENI"]⟩,
    ⟨0x1FC6, ["aGREEK SMALL LETTER ETA WITH PERISPOMENI",
      "fPERISPOMENI AND YPOGEGRAMMENIbCAPITAL LETTER ",
      "EPSILON WITH VARIAfOXIAdETA WITH VARIAfOXIA",
      "fPROSGEGRAMMENIbPSILI AND VARIAdOXIAdPERISPOMENI",
      "bSMALL LETTER IOTA WITH VRACHYfMACRONfDIALYTIKA AND ",
      "VARIAhOXIA"]⟩,
    ⟨0x1FD6, ["aGREEK SMALL LETTER IOTA WITH PERISPOMENI",
      "fDIALYTIKA AND PERISPOMENIbCAPITAL LETTER IOTA WITH ",
      "VRACHYfMACRONfVARIAfOXIA"]⟩,
    ⟨0x1FDD, ["aGREEK DASIA AND VARIAdOXIAdPERISPOMENI",
      "bSMALL LETTER UPSILON WITH VRACHYfMACRONfDIALYTIKA ",
      "AND VARIAhOXIAdRHO WITH PSILIfDASIAdUPSILON WITH ",
      "PERISPOMENIfDIALYTIKA AND PERISPOMENIbCAPITAL LETTER ",
      "UPSILON WITH VRACHYfMACRONfVARIAfOXIAdRHO WITH DASIA",
      "bDIALYTIKA AND VARIAdOXIAbVARIA"]⟩,
    ⟨0x1FF2, ["aGREEK SMALL LETTER OMEGA WITH VARIA AND ",
      "YPOGEGRAMMENIfYPOGEGRAMMENIfOXIA AND YPOGEGRAMMENI"]⟩,
    ⟨0x1FF6, ["aGREEK SMALL LETTER OMEGA WITH PERISPOMENI",
      "fPERISPOMENI AND YPOGEGRAMMENIbCAPITAL LETTER ",
      "OMICRON WITH VARIAfOXIAdOMEGA WITH VARIAfOXIA",
      "fPROSGEGRAMMENIbOXIAbDASIA"]⟩]

end SigCheck
