import SigCheck.CharName.Run

/-
  Names of further scripts of South Asia, from U+11000 to
  U+11FFF.

  Key definitions include:
    * `CharName.indic`
-/

namespace SigCheck

/- The runs of these names. -/
def CharName.indic : List NameRun :=
  [⟨0x11000, ["aBRAHMI SIGN CANDRABINDUcANUSVARAcVISARGA",
      "cJIHVAMULIYAcUPADHMANIYAbLETTER AcAAcIcIIcUcUU",
      "cVOCALIC RdRRdLdLLcEcAIcOcAUcKAcKHAcGAcGHAcNGAcCAcCHA",
      "cJAcJHAcNYAcTTAcTTHAcDDAcDDHAcNNAcTAcTHAcDAcDHAcNAcPA",
      "cPHAcBAcBHAcMAcYAcRAcLAcVAcSHAcSSAcSAcHAcLLAcOLD ",
      "TAMIL LLLAeRRAeNNNAbVOWEL SIGN AAdBHATTIPROLU AAdIdII",
      "dUdUUdVOCALIC ReRReLeLLdEdAIdOdAUbVIRAMAbDANDA",
      "bDOUBLE DANDAbPUNCTUATION DOTcDOUBLE DOTcLINE",
      "cCRESCENT BARcLOTUS"]⟩,
    ⟨0x11052, ["aBRAHMI NUMBER ONEcTWOcTHREEcFOURcFIVEcSIX",
      "cSEVENcEIGHTcNINEcTENcTWENTYcTHIRTYcFORTYcFIFTYcSIXTY",
      "cSEVENTYcEIGHTYcNINETYcONE HUNDREDdTHOUSANDbDIGIT ",
      "ZEROcONEcTWOcTHREEcFOURcFIVEcSIXcSEVENcEIGHTcNINE",
      "bSIGN OLD TAMIL VIRAMAbLETTER OLD TAMIL SHORT EfO",
      "bVOWEL SIGN OLD TAMIL SHORT EgObLETTER OLD TAMIL LLA"]⟩,
    ⟨0x1107F, ["aBRAHMI NUMBER JOINERaKAITHI SIGN ",
      "CANDRABINDUcANUSVARAcVISARGAbLETTER AcAAcIcIIcUcUUcE",
      "cAIcOcAUcKAcKHAcGAcGHAcNGAcCAcCHAcJAcJHAcNYAcTTAcTTHA",
      "cDDAcDDDHAcDDHAcRHAcNNAcTAcTHAcDAcDHAcNAcPAcPHAcBA",
      "cBHAcMAcYAcRAcLAcVAcSHAcSSAcSAcHAbVOWEL SIGN AAdIdII",
      "dUdUUdEdAIdOdAUbSIGN VIRAMAcNUKTAbABBREVIATION SIGN",
      "bENUMERATION SIGNbNUMBER SIGNbSECTION MARKbDOUBLE ",
      "SECTION MARKbDANDAbDOUBLE DANDAbVOWEL SIGN VOCALIC R"]⟩,
    ⟨0x110CD, ["aKAITHI NUMBER SIGN ABOVE"]⟩,
    ⟨0x110D0, ["aSORA SOMPENG LETTER SAHdTAHdBAHdCAHdDAHdGAH",
      "dMAHdNGAHdLAHdNAHdVAHdPAHdYAHdRAHdHAHdKAHdJAHdNYAHdAH",
      "dEEHdIHdUHdOHdEHdMAE"]⟩,
    ⟨0x110F0, ["aSORA SOMPENG DIGIT ZEROdONEdTWOdTHREEdFOUR",
      "dFIVEdSIXdSEVENdEIGHTdNINE"]⟩,
    ⟨0x11100, ["aCHAKMA SIGN CANDRABINDUcANUSVARAcVISARGA",
      "bLETTER AAcIcUcEcKAAcKHAAcGAAcGHAAcNGAAcCAAcCHAAcJAA",
      "cJHAAcNYAAcTTAAcTTHAAcDDAAcDDHAAcNNAAcTAAcTHAAcDAA",
      "cDHAAcNAAcPAAcPHAAcBAAcBHAAcMAAcYYAAcYAAcRAAcLAAcWAA",
      "cSAAcHAAbVOWEL SIGN AdIdIIdUdUUdEdAIdOdAUdOIbO MARK",
      "bAU MARKbVIRAMAbMAAYYAA"]⟩,
    ⟨0x11136, ["aCHAKMA DIGIT ZEROcONEcTWOcTHREEcFOURcFIVE",
      "cSIXcSEVENcEIGHTcNINEbSECTION MARKbDANDAbDOUBLE DANDA",
      "bQUESTION MARKbLETTER LHAAbVOWEL SIGN AAdEIbLETTER ",
      "VAA"]⟩,
    ⟨0x11150, ["aMAHAJANI LETTER AcIcUcEcOcKAcKHAcGAcGHAcCA",
      "cCHAcJAcJHAcNYAcTTAcTTHAcDDAcDDHAcNNAcTAcTHAcDAcDHA",
      "cNAcPAcPHAcBAcBHAcMAcRAcLAcVAcSAcHAcRRAbSIGN NUKTA",
      "bABBREVIATION SIGNbSECTION MARKbLIGATURE SHRI"]⟩,
    ⟨0x11180, ["aSHARADA SIGN CANDRABINDUcANUSVARAcVISARGA",
      "bLETTER AcAAcIcIIcUcUUcVOCALIC RdRRdLdLLcEcAIcOcAUcKA",
      "cKHAcGAcGHAcNGAcCAcCHAcJAcJHAcNYAcTTAcTTHAcDDAcDDHA",
      "cNNAcTAcTHAcDAcDHAcNAcPAcPHAcBAcBHAcMAcYAcRAcLAcLLA",
      "cVAcSHAcSSAcSAcHAbVOWEL SIGN AAdIdIIdUdUUdVOCALIC R",
      "eRReLeLLdEdAIdOdAUbSIGN VIRAMAcAVAGRAHAcJIHVAMULIYA",
      "cUPADHMANIYAbOMbDANDAbDOUBLE DANDAbABBREVIATION SIGN",
      "bSEPARATORbSANDHI MARKbSIGN NUKTAbVOWEL MODIFIER MARK",
      "bEXTRA SHORT VOWEL MARKbSUTRA MARKbVOWEL SIGN ",
      "PRISHTHAMATRA EbSIGN INVERTED CANDRABINDUbDIGIT ZERO",
      "cONEcTWOcTHREEcFOURcFIVEcSIXcSEVENcEIGHTcNINEbEKAM",
      "bSIGN SIDDHAMbHEADSTROKEbCONTINUATION SIGNbSECTION ",
      "MARK-1d2"]⟩,
    ⟨0x111E1, ["aSINHALA ARCHAIC DIGIT ONEdTWOdTHREEdFOUR",
      "dFIVEdSIXdSEVENdEIGHTdNINEcNUMBER TENdTWENTYdTHIRTY",
      "dFORTYdFIFTYdSIXTYdSEVENTYdEIGHTYdNINETYdONE HUNDRED",
      "eTHOUSAND"]⟩,
    ⟨0x11200, ["aKHOJKI LETTER AcAAcIcUcEcAIcOcAUcKAcKHAcGA",
      "cGGAcGHAcNGAcCAcCHAcJAcJJA"]⟩,
    ⟨0x11213, ["aKHOJKI LETTER NYAcTTAcTTHAcDDAcDDHAcNNAcTA",
      "cTHAcDAcDDDAcDHAcNAcPAcPHAcBAcBBAcBHAcMAcYAcRAcLAcVA",
      "cSAcHAcLLAbVOWEL SIGN AAdIdIIdUdEdAIdOdAUbSIGN ",
      "ANUSVARAcVIRAMAcNUKTAcSHADDAbDANDAbDOUBLE DANDAbWORD ",
      "SEPARATORbSECTION MARKbDOUBLE SECTION MARK",
      "bABBREVIATION SIGNbSIGN SUKUNbLETTER QAcSHORT I",
      "bVOWEL SIGN VOCALIC R"]⟩,
    ⟨0x11280, ["aMULTANI LETTER AcIcUcEcKAcKHAcGA"]⟩,
    ⟨0x11288, ["aMULTANI LETTER GHA"]⟩,
    ⟨0x1128A, ["aMULTANI LETTER CAcCHAcJAcJJA"]⟩,
    ⟨0x1128F, ["aMULTANI LETTER NYAcTTAcTTHAcDDAcDDDAcDDHA",
      "cNNAcTAcTHAcDAcDHAcNAcPAcPHAcBA"]⟩,
    ⟨0x1129F, ["aMULTANI LETTER BHAcMAcYAcRAcLAcVAcSAcHAcRRA",
      "cRHAbSECTION MARK"]⟩,
    ⟨0x112B0, ["aKHUDAWADI LETTER AcAAcIcIIcUcUUcEcAIcOcAU",
      "cKAcKHAcGAcGGAcGHAcNGAcCAcCHAcJAcJJAcJHAcNYAcTTAcTTHA",
      "cDDAcDDDAcRRAcDDHAcNNAcTAcTHAcDAcDHAcNAcPAcPHAcBAcBBA",
      "cBHAcMAcYAcRAcLAcVAcSHAcSAcHAbSIGN ANUSVARAbVOWEL ",
      "SIGN AAdIdIIdUdUUdEdAIdOdAUbSIGN NUKTAcVIRAMA"]⟩,
    ⟨0x112F0, ["aKHUDAWADI DIGIT ZEROcONEcTWOcTHREEcFOUR",
      "cFIVEcSIXcSEVENcEIGHTcNINE"]⟩,
    ⟨0x11300, ["aGRANTHA SIGN COMBINING ANUSVARA ABOVE",
      "cCANDRABINDUcANUSVARAcVISARGA"]⟩,
    ⟨0x11305, ["aGRANTHA LETTER AcAAcIcIIcUcUUcVOCALIC RdL"]⟩,
    ⟨0x1130F, ["aGRANTHA LETTER EEcAI"]⟩,
    ⟨0x11313, ["aGRANTHA LETTER OOcAUcKAcKHAcGAcGHAcNGAcCA",
      "cCHAcJAcJHAcNYAcTTAcTTHAcDDAcDDHAcNNAcTAcTHAcDAcDHA",
      "cNA"]⟩,
    ⟨0x1132A, ["aGRANTHA LETTER PAcPHAcBAcBHAcMAcYAcRA"]⟩,
    ⟨0x11332, ["aGRANTHA LETTER LAcLLA"]⟩,
    ⟨0x11335, ["aGRANTHA LETTER VAcSHAcSSAcSAcHA"]⟩,
    ⟨0x1133B, ["aCOMBINING BINDU BELOWaGRANTHA SIGN NUKTA",
      "cAVAGRAHAbVOWEL SIGN AAdIdIIdUdUUdVOCALIC ReRR"]⟩,
    ⟨0x11347, ["aGRANTHA VOWEL SIGN EEdAI"]⟩,
    ⟨0x1134B, ["aGRANTHA VOWEL SIGN OOdAUbSIGN VIRAMA"]⟩,
    ⟨0x11350, ["aGRANTHA OM"]⟩,
    ⟨0x11357, ["aGRANTHA AU LENGTH MARK"]⟩,
    ⟨0x1135D, ["aGRANTHA SIGN PLUTAbLETTER VEDIC ANUSVARA",
      "dDOUBLE ANUSVARAcVOCALIC RRdLLbVOWEL SIGN VOCALIC L",
      "eLL"]⟩,
    ⟨0x11366, ["aCOMBINING GRANTHA DIGIT ZEROdONEdTWOdTHREE",
      "dFOURdFIVEdSIX"]⟩,
    ⟨0x11370, ["aCOMBINING GRANTHA LETTER AdKAdNAdVIdPA"]⟩,
    ⟨0x11400, ["aNEWA LETTER AcAAcIcIIcUcUUcVOCALIC RdRRdL",
      "dLLcEcAIcOcAUcKAcKHAcGAcGHAcNGAcNGHAcCAcCHAcJAcJHA",
      "cNYAcNYHAcTTAcTTHAcDDAcDDHAcNNAcTAcTHAcDAcDHAcNAcNHA",
      "cPAcPHAcBAcBHAcMAcMHAcYAcRAcRHAcLAcLHAcWAcSHAcSSAcSA",
      "cHAbVOWEL SIGN AAdIdIIdUdUUdVOCALIC ReRReLeLLdEdAIdO",
      "dAUbSIGN VIRAMAcCANDRABINDUcANUSVARAcVISARGAcNUKTA",
      "cAVAGRAHAcFINAL ANUSVARAbOMbSIDDHIbDANDAbDOUBLE DANDA",
      "bCOMMAbGAP FILLERbABBREVIATION SIGNbDIGIT ZEROcONE",
      "cTWOcTHREEcFOURcFIVEcSIXcSEVENcEIGHTcNINEbDOUBLE ",
      "COMMAbPLACEHOLDER MARK"]⟩,
    ⟨0x1145D, ["aNEWA INSERTION SIGNbSANDHI MARKbLETTER ",
      "VEDIC ANUSVARAbSIGN JIHVAMULIYAcUPADHMANIYA"]⟩,
    ⟨0x11480, ["aTIRHUTA ANJIbLETTER AcAAcIcIIcUcUUcVOCALIC ",
      "RdRRdLdLLcEcAIcOcAUcKAcKHAcGAcGHAcNGAcCAcCHAcJAcJHA",
      "cNYAcTTAcTTHAcDDAcDDHAcNNAcTAcTHAcDAcDHAcNAcPAcPHAcBA",
      "cBHAcMAcYAcRAcLAcVAcSHAcSSAcSAcHAbVOWEL SIGN AAdIdII",
      "dUdUUdVOCALIC ReRReLeLLdEdSHORT EdAIdOdSHORT OdAU",
      "bSIGN CANDRABINDUcANUSVARAcVISARGAcVIRAMAcNUKTA",
      "cAVAGRAHAbGVANGbABBREVIATION SIGNbOM"]⟩,
    ⟨0x114D0, ["aTIRHUTA DIGIT ZEROcONEcTWOcTHREEcFOURcFIVE",
      "cSIXcSEVENcEIGHTcNINE"]⟩,
    ⟨0x11580, ["aSIDDHAM LETTER AcAAcIcIIcUcUUcVOCALIC RdRR",
      "dLdLLcEcAIcOcAUcKAcKHAcGAcGHAcNGAcCAcCHAcJAcJHAcNYA",
      "cTTAcTTHAcDDAcDDHAcNNAcTAcTHAcDAcDHAcNAcPAcPHAcBAcBHA",
      "cMAcYAcRAcLAcVAcSHAcSSAcSAcHAbVOWEL SIGN AAdIdIIdUdUU",
      "dVOCALIC ReRR"]⟩,
    ⟨0x115B8, ["aSIDDHAM VOWEL SIGN EdAIdOdAUbSIGN ",
      "CANDRABINDUcANUSVARAcVISARGAcVIRAMAcNUKTAcSIDDHAM",
      "bDANDAbDOUBLE DANDAbSEPARATOR DOTcBARbREPETITION ",
      "MARK-1d2d3bEND OF TEXT MARKbSECTION MARK WITH ",
      "TRIDENT AND U-SHAPED ORNAMENTSgDOTTED CRESCENTSeRAYS ",
      "AND DOTTED CRESCENTShDOUBLE CRESCENTShTRIPLE ",
      "CRESCENTSdDOUBLE RINGeRING WITH RAYSdWITH DOUBLE ",
      "CRESCENTSeTRIPLE CRESCENTSeQUADRUPLE CRESCENTS",
      "eSEPTUPLE CRESCENTSeCIRCLES AND RAYSgTWO ENCLOSURES",
      "gFOUR ENCLOSURESbLETTER THREE-CIRCLE ALTERNATE IcTWO-",
      "CIRCLE ALTERNATE IfIIcALTERNATE UbVOWEL SIGN ",
      "ALTERNATE UeUU"]⟩,
    ⟨0x11600, ["aMODI LETTER AcAAcIcIIcUcUUcVOCALIC RdRRdL",
      "dLLcEcAIcOcAUcKAcKHAcGAcGHAcNGAcCAcCHAcJAcJHAcNYAcTTA",
      "cTTHAcDDAcDDHAcNNAcTAcTHAcDAcDHAcNAcPAcPHAcBAcBHAcMA",
      "cYAcRAcLAcVAcSHAcSSAcSAcHAcLLAbVOWEL SIGN AAdIdIIdU",
      "dUUdVOCALIC ReRReLeLLdEdAIdOdAUbSIGN ANUSVARAcVISARGA",
      "cVIRAMAcARDHACANDRAbDANDAbDOUBLE DANDAbABBREVIATION ",
      "SIGNbSIGN HUVA"]⟩,
    ⟨0x11650, ["aMODI DIGIT ZEROcONEcTWOcTHREEcFOURcFIVEcSIX",
      "cSEVENcEIGHTcNINE"]⟩,
    ⟨0x11660, ["aMONGOLIAN BIRGA WITH ORNAMENTbROTATED BIRGA",
      "bDOUBLE BIRGA WITH ORNAMENTbTRIPLE BIRGA WITH ",
      "ORNAMENTbBIRGA WITH DOUBLE ORNAMENTbROTATED BIRGA ",
      "WITH ORNAMENTeDOUBLE ORNAMENTbINVERTED BIRGAcBIRGA ",
      "WITH DOUBLE ORNAMENTbSWIRL BIRGAcBIRGA WITH ORNAMENT",
      "eDOUBLE ORNAMENTbTURNED SWIRL BIRGA WITH DOUBLE ",
      "ORNAMENT"]⟩,
    ⟨0x11680, ["aTAKRI LETTER AcAAcIcIIcUcUUcEcAIcOcAUcKA",
      "cKHAcGAcGHAcNGAcCAcCHAcJAcJHAcNYAcTTAcTTHAcDDAcDDHA",
      "cNNAcTAcTHAcDAcDHAcNAcPAcPHAcBAcBHAcMAcYAcRAcLAcVA",
      "cSHAcSAcHAcRRAbSIGN ANUSVARAcVISARGAbVOWEL SIGN AAdI",
      "dIIdUdUUdEdAIdOdAUbSIGN VIRAMAcNUKTAbLETTER ARCHAIC ",
      "KHAbABBREVIATION SIGN"]⟩,
    ⟨0x116C0, ["aTAKRI DIGIT ZEROcONEcTWOcTHREEcFOURcFIVE",
      "cSIXcSEVENcEIGHTcNINE"]⟩,
    ⟨0x11700, ["aAHOM LETTER KAcKHAcNGAcNAcTAcALTERNATE TA",
      "cPAcPHAcBAcMAcJAcCHAcTHAcRAcLAcSAcNYAcHAcAcDAcDHAcGA",
      "cALTERNATE GAcGHAcBHAcJHAcALTERNATE BA"]⟩,
    ⟨0x1171D, ["aAHOM CONSONANT SIGN MEDIAL LAeRAeLIGATING ",
      "RAbVOWEL SIGN AdAAdIdIIdUdUUdEdAWdOdAIdAMbSIGN KILLER"]⟩,
    ⟨0x11730, ["aAHOM DIGIT ZEROcONEcTWOcTHREEcFOURcFIVEcSIX",
      "cSEVENcEIGHTcNINEbNUMBER TENcTWENTYbSIGN SMALL ",
      "SECTIONcSECTIONcRULAIbSYMBOL VIbLETTER CAcTTAcTTHA",
      "cDDAcDDHAcNNAcLLA"]⟩,
    ⟨0x11800, ["aDOGRA LETTER AcAAcIcIIcUcUUcEcAIcOcAUcKA",
      "cKHAcGAcGHAcNGAcCAcCHAcJAcJHAcNYAcTTAcTTHAcDDAcDDHA",
      "cNNAcTAcTHAcDAcDHAcNAcPAcPHAcBAcBHAcMAcYAcRAcLAcVA",
      "cSHAcSSAcSAcHAcRRAbVOWEL SIGN AAdIdIIdUdUUdVOCALIC R",
      "eRRdEdAIdOdAUbSIGN ANUSVARAcVISARGAcVIRAMAcNUKTA",
      "bABBREVIATION SIGN"]⟩,
    ⟨0x118A0, ["aWARANG CITI CAPITAL LETTER NGAAeAeWIeYUeYA",
      "eYOeIIeUUeEeOeANGeGAeKOeENYeYUJeUCeENNeODDeTTEeNUNG",
      "eDAeATeAMeBUePUeHIYOeHOLOeHORReHAReSSUUeSIIeVIYO",
      "cSMALL LETTER NGAAeAeWIeYUeYAeYOeIIeUUeEeOeANGeGAeKO",
      "eENYeYUJeUCeENNeODDeTTEeNUNGeDAeATeAMeBUePUeHIYOeHOLO",
      "eHORReHAReSSUUeSIIeVIYOcDIGIT ZEROdONEdTWOdTHREEdFOUR",
      "dFIVEdSIXdSEVENdEIGHTdNINEcNUMBER TENdTWENTYdTHIRTY",
      "dFORTYdFIFTYdSIXTYdSEVENTYdEIGHTYdNINETY"]⟩,
    ⟨0x118FF, ["aWARANG CITI OMaDIVES AKURU LETTER AdAAdIdII",
      "dUdUUdE"]⟩,
    ⟨0x11909, ["aDIVES AKURU LETTER O"]⟩,
    ⟨0x1190C, ["aDIVES AKURU LETTER KAdKHAdGAdGHAdNGAdCAdCHA",
      "dJA"]⟩,
    ⟨0x11915, ["aDIVES AKURU LETTER NYAdTTA"]⟩,
    ⟨0x11918, ["aDIVES AKURU LETTER DDAdDDHAdNNAdTAdTHAdDA",
      "dDHAdNAdPAdPHAdBAdBHAdMAdYAdYYAdRAdLAdVAdSHAdSSAdSA",
      "dHAdLLAdZAcVOWEL SIGN AAeIeIIeUeUUeE"]⟩,
    ⟨0x11937, ["aDIVES AKURU VOWEL SIGN AIeO"]⟩,
    ⟨0x1193B, ["aDIVES AKURU SIGN ANUSVARAdCANDRABINDU",
      "dHALANTAcVIRAMAcPREFIXED NASAL SIGNcMEDIAL YA",
      "cINITIAL RAcMEDIAL RAcSIGN NUKTAcDOUBLE DANDAcGAP ",
      "FILLERcEND OF TEXT MARK"]⟩,
    ⟨0x11950, ["aDIVES AKURU DIGIT ZEROdONEdTWOdTHREEdFOUR",
      "dFIVEdSIXdSEVENdEIGHTdNINE"]⟩,
    ⟨0x119A0, ["aNANDINAGARI LETTER AcAAcIcIIcUcUUcVOCALIC R",
      "dRR"]⟩,
    ⟨0x119AA, ["aNANDINAGARI LETTER EcAIcOcAUcKAcKHAcGAcGHA",
      "cNGAcCAcCHAcJAcJHAcNYAcTTAcTTHAcDDAcDDHAcNNAcTAcTHA",
      "cDAcDHAcNAcPAcPHAcBAcBHAcMAcYAcRAcLAcVAcSHAcSSAcSAcHA",
      "cLLAcRRAbVOWEL SIGN AAdIdIIdUdUUdVOCALIC ReRR"]⟩,
    ⟨0x119DA, ["aNANDINAGARI VOWEL SIGN EdAIdOdAUbSIGN ",
      "ANUSVARAcVISARGAcVIRAMAcAVAGRAHAcSIDDHAMbHEADSTROKE",
      "bVOWEL SIGN PRISHTHAMATRA E"]⟩,
    ⟨0x11A00, ["aZANABAZAR SQUARE LETTER AcVOWEL SIGN IeUEeU",
      "eEeOEeOeAIeAUeREVERSED IdLENGTH MARKcLETTER KAdKHAdGA",
      "dGHAdNGAdCAdCHAdJAdNYAdTTAdTTHAdDDAdDDHAdNNAdTAdTHA",
      "dDAdDHAdNAdPAdPHAdBAdBHAdMAdTSAdTSHAdDZAdDZHAdZHAdZA",
      "d-AdYAdRAdLAdVAdSHAdSSAdSAdHAdKSSAcFINAL CONSONANT ",
      "MARKcSIGN VIRAMAdCANDRABINDUdCANDRABINDU WITH ",
      "ORNAMENTdCANDRA WITH ORNAMENTdANUSVARAdVISARGA",
      "cCLUSTER-INITIAL LETTER RAdFINAL LETTER YAfRAfLAfVA",
      "cINITIAL HEAD MARKcCLOSING HEAD MARKcMARK TSHEGdSHAD",
      "dDOUBLE SHADdLONG TSHEGcINITIAL DOUBLE-LINED HEAD ",
      "MARKcCLOSING DOUBLE-LINED HEAD MARKcSUBJOINER"]⟩,
    ⟨0x11A50, ["aSOYOMBO LETTER AbVOWEL SIGN IdUEdUdEdOdOE",
      "dAIdAUdVOCALIC ReLcLENGTH MARKbLETTER KAcKHAcGAcGHA",
      "cNGAcCAcCHAcJAcJHAcNYAcTTAcTTHAcDDAcDDHAcNNAcTAcTHA",
      "cDAcDHAcNAcPAcPHAcBAcBHAcMAcTSAcTSHAcDZAcZHAcZAc-AcYA",
      "cRAcLAcVAcSHAcSSAcSAcHAcKSSAbSIGN JIHVAMULIYA",
      "cUPADHMANIYAbCLUSTER-INITIAL LETTER RAeLAeSHAeSA",
      "bFINAL CONSONANT SIGN GeKeNGeDeNeBeMeReLeSHeSe-A",
      "bSIGN ANUSVARAcVISARGAbGEMINATION MARKbSUBJOINER",
      "bMARK TSHEGcSHADcDOUBLE SHADcPLUTAbHEAD MARK WITH ",
      "MOON AND SUN AND TRIPLE FLAMEiFLAMEgSUNbTERMINAL ",
      "MARK-1d2"]⟩,
    ⟨0x11AB0, ["aCANADIAN SYLLABICS NATTILIK HIdHIIdHOdHOO",
      "dHAdHAAdSHRIdSHRIIdSHROdSHROOdSHRAdSHRAAcSPEcSPIcSPO",
      "cSPAaPAU CIN HAU LETTER PAeKAeLAeMAeDAeZAeVAeNGAeHA",
      "eGAeKHAeSAeBAeCAeTAeTHAeNAePHAeRAeFAeCHAeAeEeIeOeUeUA",
      "eIAeFINAL PfKfTfMfNfLfWfNGfYdRISING TONE LONGeTONE",
      "dSANDHI GLOTTAL STOPdRISING TONE LONG FINALfFINAL",
      "dSANDHI GLOTTAL STOP FINALeTONE LONGeTONEeTONE LONG ",
      "FINALfFINALdMID-LEVEL TONEdGLOTTAL STOP VARIANTdMID-",
      "LEVEL TONE LONG FINALgFINALdLOW-FALLING TONE LONG",
      "fTONEdGLOTTAL STOPdLOW-FALLING TONE LONG FINALgFINAL",
      "dGLOTTAL STOP FINAL"]⟩,
    ⟨0x11B00, ["aDEVANAGARI HEAD MARKcMARK WITH HEADSTROKE",
      "bSIGN BHALEcBHALE WITH HOOKcEXTENDED BHALEdBHALE ",
      "WITH HOOKcWESTERN FIVE-LIKE BHALEdNINE-LIKE BHALE",
      "cREVERSED NINE-LIKE BHALEcMINDU"]⟩,
    ⟨0x11C00, ["aBHAIKSUKI LETTER AcAAcIcIIcUcUUcVOCALIC R",
      "dRRdL"]⟩,
    ⟨0x11C0A, ["aBHAIKSUKI LETTER EcAIcOcAUcKAcKHAcGAcGHA",
      "cNGAcCAcCHAcJAcJHAcNYAcTTAcTTHAcDDAcDDHAcNNAcTAcTHA",
      "cDAcDHAcNAcPAcPHAcBAcBHAcMAcYAcRAcLAcVAcSHAcSSAcSAcHA",
      "bVOWEL SIGN AAdIdIIdUdUUdVOCALIC ReRReL"]⟩,
    ⟨0x11C38, ["aBHAIKSUKI VOWEL SIGN EdAIdOdAUbSIGN ",
      "CANDRABINDUcANUSVARAcVISARGAcVIRAMAcAVAGRAHAbDANDA",
      "bDOUBLE DANDAbWORD SEPARATORbGAP FILLER-1d2"]⟩,
    ⟨0x11C50, ["aBHAIKSUKI DIGIT ZEROcONEcTWOcTHREEcFOUR",
      "cFIVEcSIXcSEVENcEIGHTcNINEbNUMBER ONEcTWOcTHREEcFOUR",
      "cFIVEcSIXcSEVENcEIGHTcNINEcTENcTWENTYcTHIRTYcFORTY",
      "cFIFTYcSIXTYcSEVENTYcEIGHTYcNINETYbHUNDREDS UNIT MARK"]⟩,
    ⟨0x11C70, ["aMARCHEN HEAD MARKbMARK SHADbLETTER KAcKHA",
      "cGAcNGAcCAcCHAcJAcNYAcTAcTHAcDAcNAcPAcPHAcBAcMAcTSA",
      "cTSHAcDZAcWAcZHAcZAc-AcYAcRAcLAcSHAcSAcHAcA"]⟩,
    ⟨0x11C92, ["aMARCHEN SUBJOINED LETTER KAdKHAdGAdNGAdCA",
      "dCHAdJAdNYAdTAdTHAdDAdNAdPAdPHAdBAdMAdTSAdTSHAdDZAdWA",
      "dZHAdZA"]⟩,
    ⟨0x11CA9, ["aMARCHEN SUBJOINED LETTER YAdRAdLAdSHAdSAdHA",
      "dAbVOWEL SIGN AAdIdUdEdObSIGN ANUSVARAcCANDRABINDU"]⟩,
    ⟨0x11D00, ["aMASARAM GONDI LETTER AdAAdIdIIdUdUUdE"]⟩,
    ⟨0x11D08, ["aMASARAM GONDI LETTER AIdO"]⟩,
    ⟨0x11D0B, ["aMASARAM GONDI LETTER AUdKAdKHAdGAdGHAdNGA",
      "dCAdCHAdJAdJHAdNYAdTTAdTTHAdDDAdDDHAdNNAdTAdTHAdDA",
      "dDHAdNAdPAdPHAdBAdBHAdMAdYAdRAdLAdVAdSHAdSSAdSAdHA",
      "dLLAdKSSAdJNYAdTRAcVOWEL SIGN AAeIeIIeUeUUeVOCALIC R"]⟩,
    ⟨0x11D3A, ["aMASARAM GONDI VOWEL SIGN E"]⟩,
    ⟨0x11D3C, ["aMASARAM GONDI VOWEL SIGN AIeO"]⟩,
    ⟨0x11D3F, ["aMASARAM GONDI VOWEL SIGN AUcSIGN ANUSVARA",
      "dVISARGAdNUKTAdCANDRAdHALANTAcVIRAMAcREPHAcRA-KARA"]⟩,
    ⟨0x11D50, ["aMASARAM GONDI DIGIT ZEROdONEdTWOdTHREEdFOUR",
      "dFIVEdSIXdSEVENdEIGHTdNINE"]⟩,
    ⟨0x11D60, ["aGUNJALA GONDI LETTER AdAAdIdIIdUdUU"]⟩,
    ⟨0x11D67, ["aGUNJALA GONDI LETTER EEdAI"]⟩,
    ⟨0x11D6A, ["aGUNJALA GONDI LETTER OOdAUdYAdVAdBAdBHAdMA",
      "dKAdKHAdTAdTHAdLAdGAdGHAdDAdDHAdNAdCAdCHAdTTAdTTHA",
      "dLLAdJAdJHAdDDAdDDHAdNGAdPAdPHAdHAdRAdSAcVOWEL SIGN ",
      "AAeIeIIeUeUU"]⟩,
    ⟨0x11D90, ["aGUNJALA GONDI VOWEL SIGN EEeAI"]⟩,
    ⟨0x11D93, ["aGUNJALA GONDI VOWEL SIGN OOeAUcSIGN ",
      "ANUSVARAdVISARGAcVIRAMAcOM"]⟩,
    ⟨0x11DA0, ["aGUNJALA GONDI DIGIT ZEROdONEdTWOdTHREEdFOUR",
      "dFIVEdSIXdSEVENdEIGHTdNINE"]⟩,
    ⟨0x11EE0, ["aMAKASAR LETTER KAcGAcNGAcPAcBAcMAcTAcDAcNA",
      "cCAcJAcNYAcYAcRAcLAcVAcSAcAbANGKAbVOWEL SIGN IdUdEdO",
      "bPASSIMBANGbEND OF SECTION"]⟩,
    ⟨0x11F00, ["aKAWI SIGN CANDRABINDUcANUSVARAcREPHA",
      "cVISARGAbLETTER AcAAcIcIIcUcUUcVOCALIC RdRRdLdLLcEcAI",
      "cO"]⟩,
    ⟨0x11F12, ["aKAWI LETTER KAcKHAcGAcGHAcNGAcCAcCHAcJAcJHA",
      "cNYAcTTAcTTHAcDDAcDDHAcNNAcTAcTHAcDAcDHAcNAcPAcPHAcBA",
      "cBHAcMAcYAcRAcLAcWAcSHAcSSAcSAcHAcJNYAbVOWEL SIGN AA",
      "dALTERNATE AAdIdIIdUdUUdVOCALIC R"]⟩,
    ⟨0x11F3E, ["aKAWI VOWEL SIGN EdAIdEUbSIGN KILLER",
      "bCONJOINERbDANDAbDOUBLE DANDAbPUNCTUATION SECTION ",
      "MARKERcALTERNATE SECTION MARKERcFLOWERcSPACE FILLER",
      "cDOTcDOUBLE DOTcTRIPLE DOTcCIRCLEcFILLED CIRCLE",
      "cSPIRALcCLOSING SPIRALbDIGIT ZEROcONEcTWOcTHREEcFOUR",
      "cFIVEcSIXcSEVENcEIGHTcNINE"]⟩,
    ⟨0x11FB0, ["aLISU LETTER YHA"]⟩,
    ⟨0x11FC0, ["aTAMIL FRACTION ONE THREE-HUNDRED-AND-",
      "TWENTIETHdONE-HUNDRED-AND-SIXTIETHdEIGHTIETHdSIXTY-",
      "FOURTHdFORTIETHdTHIRTY-SECONDcTHREE EIGHTIETHSdSIXTY-",
      "FOURTHScONE TWENTIETHdSIXTEENTH-1e2dTENTHdEIGHTH",
      "cTHREE TWENTIETHSdSIXTEENTHScONE FIFTHdQUARTERdHALF-1",
      "e2cTHREE QUARTERScDOWNSCALING FACTOR KIIZHbSIGN NEL",
      "cCEVITUcAAZHAAKKUcUZHAKKUcMUUVUZHAKKUcKURUNIcPATHAKKU",
      "cMUKKURUNIcKAACUcPANAMcPONcVARAAKANcPAARAMcKUZHIcVELI",
      "bWET CULTIVATION SIGNbDRY CULTIVATION SIGNbLAND SIGN",
      "bSALT PAN SIGNbTRADITIONAL CREDIT SIGNcNUMBER SIGN",
      "bCURRENT SIGNbAND ODD SIGNbSPENT SIGNbTOTAL SIGNbIN ",
      "POSSESSION SIGNbSTARTING FROM SIGNbSIGN MUTHALIYA",
      "cVAKAIYARAA"]⟩,
    ⟨0x11FFF, ["aTAMIL PUNCTUATION END OF TEXTaCUNEIFORM ",
      "SIGN AcA TIMES AeBADeGAN2 TENUeHAeIGIeLAGAR GUNUeMUSH",
      "eSAGcA2cABcAB TIMES ASH2eDUN3 GUNUeGALeGAN2 TENUeHA",
      "eIGI GUNUeIMINeLAGABeSHESHeU PLUS U PLUS UdGUNUcAB2",
      "cAB2 TIMES BALAGeGAN2 TENUeME PLUS ENeSHA3eTAK4cADcAK",
      "cAK TIMES ERIN2eSHITA PLUS GISHcALcAL TIMES ALeDIM2",
      "eGISHeHAeKAD3eKIeSHEeUSHcALANcALEPHcAMARcAMAR TIMES ",
      "SHEcANcAN OVER ANdTHREE TIMESdPLUS NAGA OPPOSING AN ",
      "PLUS NAGAfSQUAREDcANSHEcAPINcARADcARAD TIMES KUR",
      "cARKABcASAL2cASHcASH ZIDA TENUdKABA TENUdOVER ASH ",
      "TUG2 OVER TUG2 TUG2 OVER TUG2 PAPfOVER ASHgASH ",
      "CROSSING ASH OVER ASH OVER ASHcASH2cASHGABcBAcBAD",
      "cBAG3cBAHAR2cBALcBAL OVER BALcBALAGcBARcBARA2cBIcBI ",
      "TIMES AeGAReIGI GUNUcBUcBU OVER BU ABfUNdCROSSING BU",
      "cBULUGcBULUG OVER BULUGcBURcBUR2cDAcDAGcDAG KISIM5 ",
      "TIMES A PLUS MASHfAMARfBALAGfBIfGAfGA PLUS MASHfGI",
      "fGIR2fGUDfHAfIRfIR PLUS LUfKAKfLAfLUfLU PLUS MASH2",
      "fLUMfNEfPAP PLUS PAPfSIfTAK4fU2 PLUS GIR2fUSHcDAMcDAR",
      "cDARA3cDARA4cDIcDIBcDIMcDIM TIMES SHEcDIM2cDINcDIN ",
      "KASKAL U GUNU DISHcDISHcDUcDU OVER DUdGUNUdSHESHIG",
      "cDUBcDUB TIMES ESH2cDUB2cDUGcDUGUDcDUHcDUNcDUN3cDUN3 ",
      "GUNUdGUNU GUNUcDUN4cDUR2cEcE TIMES PAPdOVER E NUN ",
      "OVER NUNcE2cE2 TIMES A PLUS HA PLUS DAeGAReMIeSALeSHE",
      "eUcEDINcEGIRcELcENcEN TIMES GAN2eGAN2 TENUeME",
      "dCROSSING ENdOPPOSING ENdSQUAREDcERENcERIN2cESH2cEZEN",
      "cEZEN TIMES AeA PLUS LALgLAL TIMES LALeANeBADeDUN3 ",
      "GUNUfGUNU GUNUeHAeHA GUNUeIGI GUNUeKASKALeKASKAL ",
      "SQUAREDeKU3eLAeLAL TIMES LALeLIeLUeU2eUDcGAcGA GUNU",
      "cGA2cGA2 TIMES A PLUS DA PLUS HAgHAgIGIeAB2 TENU ",
      "PLUS TABeANeASHeASH2 PLUS GALeBADeBAR PLUS RAeBUR",
      "eBUR PLUS RAeDAeDIeDIM TIMES SHEeDUBeELeEL PLUS LAeEN",
      "eEN TIMES GAN2 TENUeGAN2 TENUeGAReGIeGI4eGI4 PLUS A",
      "eGIR2 PLUS SUeHA PLUS LU PLUS ESH2eHALeHAL PLUS LA",
      "eHI PLUS LIeHUB2eIGI GUNUeISH PLUS HU PLUS ASHeKAK",
      "eKASKALeKIDeKID PLUS LALeKU3 PLUS ANeLAeME PLUS ENeMI",
      "eNUNeNUN OVER NUNePAeSALeSAReSHEeSHE PLUS TUReSHID",
      "eSUMeTAK4eUeUDeUD PLUS DUdOVER GA2cGABAcGABA ",
      "CROSSING GABAcGADcGAD OVER GAD GAR OVER GARcGALcGAL ",
      "GAD OVER GAD GAR OVER GARcGALAMcGAMcGANcGAN2cGAN2 ",
      "TENUdOVER GAN2dCROSSING GAN2cGARcGAR3cGASHANcGESHTIN",
      "cGESHTIN TIMES KURcGIcGI TIMES EeUdCROSSING GIcGI4",
      "cGI4 OVER GI4dCROSSING GI4cGIDIMcGIR2cGIR2 GUNUcGIR3",
      "cGIR3 TIMES A PLUS IGIeGAN2 TENUeIGIeLU PLUS IGIePA",
      "cGISALcGISHcGISH CROSSING GISHdTIMES BADeTAK4dTENUcGU",
      "cGU CROSSING GUcGU2cGU2 TIMES KAKeKAK TIMES IGI GUNU",
      "eNUNeSAL PLUS TUG2dGUNUcGUDcGUD TIMES A PLUS KUReKUR",
      "dOVER GUD LUGALcGULcGUMcGUM TIMES SHEcGURcGUR7cGURUN",
      "cGURUSHcHAcHA TENUdGUNUcHALcHIcHI TIMES ASHeASH2eBAD",
      "eDISHeGADeKINeNUNeSHEeUcHUcHUB2cHUB2 TIMES ANeHAL",
      "eKASKALeLISHeUDcHUL2cIcI AcIBcIDIMcIDIM OVER IDIM BUR",
      "fSQUAREDcIGcIGIcIGI DIBdRIdOVER IGI SHIR OVER SHIR ",
      "UD OVER UDdGUNUcILcIL TIMES GAN2 TENUcIL2cIMcIM ",
      "TIMES TAK4dCROSSING IMdOPPOSING IMdSQUAREDcIMINcINcIR",
      "cISHcKAcKA TIMES AeADeAD PLUS KU3eASH2eBADeBALAGeBAR",
      "eBIeERIN2eESH2eGAeGALeGAN2 TENUeGAReGAR PLUS SHA3 ",
      "PLUS AeGIeGIR2eGISH PLUS SARfCROSSING GISHeGUeGUR7",
      "eIGIeIMeKAKeKIeKIDeLIeLUeMEeME PLUS DUgGIgTEeMIeMI ",
      "PLUS NUNUZeNEeNUNePIeRUeSAeSAReSHAeSHEeSHIDeSHUeSIG",
      "eSUHUReTAReUeU2eUDeUMUM TIMES PAeUSHeZIcKA2cKA2 ",
      "CROSSING KA2cKABcKAD2cKAD3cKAD4cKAD5cKAD5 OVER KAD5",
      "cKAKcKAK TIMES IGI GUNUcKALcKAL TIMES BADdCROSSING ",
      "KALcKAM2cKAM4cKASKALcKASKAL LAGAB TIMES U OVER LAGAB ",
      "TIMES UdOVER KASKAL LAGAB TIMES U OVER LAGAB TIMES U",
      "cKESH2cKIcKI TIMES BADeUeUDcKIDcKINcKISALcKISHcKISIM5",
      "cKISIM5 OVER KISIM5cKUcKU OVER HI TIMES ASH2 KU OVER ",
      "HI TIMES ASH2cKU3cKU4cKU4 VARIANT FORMcKU7cKULcKUL ",
      "GUNUcKUNcKURcKUR OPPOSING KURcKUSHU2cKWU318cLAcLAGAB",
      "cLAGAB TIMES AeA PLUS DA PLUS HAgGARgLALeALeANeASH ",
      "ZIDA TENUeBADeBIeDAReENeGAeGAReGUDeGUD PLUS GUDeHA",
      "eHALeHI TIMES NUNeIGI GUNUeIMeIM PLUS HAgLUeKIeKIN",
      "eKU3eKULeKUL PLUS HI PLUS AeLAGABeLISHeLUeLULeMEeME ",
      "PLUS ENeMUSHeNEeSHE PLUS SUMeSHITA PLUS GISH PLUS ",
      "ERIN2hTENUeSHU2eSHU2 PLUS SHU2eSUMeTAGeTAK4eTE PLUS ",
      "A PLUS SU PLUS NAeUeU PLUS AgU PLUS UeU2 PLUS ASHeUD",
      "eUSHdSQUAREDcLAGARcLAGAR TIMES SHEeSHE PLUS SUMdGUNU",
      "dGUNU OVER LAGAR GUNU SHEcLAHSHUcLALcLAL TIMES LAL",
      "cLAMcLAM TIMES KUReKUR PLUS RUcLIcLILcLIMMU2cLISHcLU",
      "cLU TIMES BADcLU2cLU2 TIMES ALeBADeESH2eESH2 TENU",
      "eGAN2 TENUeHI TIMES BADeIMeKAD2eKAD3eKAD3 PLUS ASHeKI",
      "eLA PLUS ASHeLAGABeME PLUS ENeNEeNUeSI PLUS ASHeSIK2 ",
      "PLUS BUeTUG2dTENUdCROSSING LU2dOPPOSING LU2dSQUARED",
      "dSHESHIGcLU3cLUGALcLUGAL OVER LUGALdOPPOSING LUGAL",
      "dSHESHIGcLUHcLULcLUMcLUM OVER LUMeLUM GAR OVER GARcMA",
      "cMA TIMES TAK4dGUNUcMA2cMAHcMARcMASHcMASH2cMEcMEScMI",
      "cMINcMUcMU OVER MUcMUGcMUG GUNUcMUNSUBcMURGU2cMUSH",
      "cMUSH TIMES AeKUReZAdOVER MUSHeMUSH TIMES A PLUS NA",
      "dCROSSING MUSHcMUSH3cMUSH3 TIMES AeA PLUS DIeDIdGUNU",
      "cNAcNA2cNAGAcNAGA INVERTEDdTIMES SHU TENUdOPPOSING ",
      "NAGAcNAGARcNAM NUTILLUcNAMcNAM2cNEcNE TIMES AeUD",
      "dSHESHIGcNIcNI TIMES EcNI2cNIMcNIM TIMES GAN2 TENU",
      "eGAR PLUS GAN2 TENUcNINDA2cNINDA2 TIMES ANeASHeASH ",
      "PLUS ASHeGUDeME PLUS GAN2 TENUeNEeNUNeSHEeSHE PLUS A ",
      "ANgASHgASH PLUS ASHeU2 PLUS ASHeUSHcNISAGcNUcNU11cNUN",
      "cNUN LAGAR TIMES GARfMASHfSALfSAL OVER NUN LAGAR ",
      "TIMES SALfUSHdTENUdOVER NUNdCROSSING NUNeNUN LAGAR ",
      "OVER LAGARcNUNUZcNUNUZ AB2 TIMES ASHGABfBIfDUGfGUD",
      "fIGI GUNUfKAD3fLAfNEfSILA3fU2dKISIM5 TIMES BIfBI UcPA",
      "cPADcPANcPAPcPESH2cPIcPI TIMES AeABeBIeBUeEeIeIBeUeU2",
      "dCROSSING PIcPIRIGcPIRIG TIMES KALeUDeZAdOPPOSING ",
      "PIRIGcRAcRABcRIcRUcSAcSAG NUTILLUcSAGcSAG TIMES AeDU",
      "eDUBeHAeKAKeKUReLUMeMIeNUNeSALeSHIDeTABeU2eUBeUMeUR",
      "eUSHdOVER SAGdGUNUcSALcSAL LAGAB TIMES ASH2cSANGA2",
      "cSARcSHAcSHA3cSHA3 TIMES AeBADeGISHeNEeSHU2eTUReUeU ",
      "PLUS AcSHA6cSHAB6cSHAR2cSHEcSHE HUdOVER SHE GAD OVER ",
      "GAD GAR OVER GARfTAB OVER TAB GAR OVER GARcSHEG9cSHEN",
      "cSHESHcSHESH2cSHESHLAMcSHIDcSHID TIMES AeIMcSHIM",
      "cSHIM TIMES AeBALeBULUGeDINeGAReIGIeIGI GUNUeKUSHU2",
      "eLULeMUGeSALcSHINIGcSHIRcSHIR TENUdOVER SHIR BUR ",
      "OVER BURcSHITAcSHUcSHU OVER INVERTED SHUcSHU2cSHUBUR",
      "cSIcSI GUNUcSIGcSIG4cSIG4 OVER SIG4 SHU2cSIK2cSILA3",
      "cSUcSU OVER SUcSUDcSUD2cSUHURcSUMcSUMASHcSURcSUR9cTA",
      "cTA ASTERISKdTIMES HIeMIdGUNUcTABcTAB OVER TAB NI ",
      "OVER NI DISH OVER DISHdSQUAREDcTAGcTAG TIMES BIeGUD",
      "eSHEeSHUeTUG2eUDcTAK4cTARcTEcTE GUNUcTIcTI TENUcTIL",
      "cTIRcTIR TIMES TAK4dOVER TIReTIR GAD OVER GAD GAR ",
      "OVER GARcTUcTUG2cTUKcTUMcTURcTUR OVER TUR ZA OVER ZA",
      "cUcU GUDdU UdOVER U PA OVER PA GAR OVER GARfSUR OVER ",
      "SURfU REVERSED OVER U REVERSEDcU2cUBcUDcUD KUSHU2",
      "dTIMES BADeMIeU PLUS U PLUS UiU GUNUdGUNUdSHESHIG",
      "dSHESHIG TIMES BADcUDUGcUMcUM TIMES LAGABeME PLUS DA",
      "eSHA3eUcUMBINcUMUMcUMUM TIMES KASKALePAcUNcUN GUNUcUR",
      "cUR CROSSING URdSHESHIGcUR2cUR2 TIMES A PLUS HAgNAeAL",
      "eHAeNUNeU2eU2 PLUS ASHgBIcUR4cURIcURI3cURUcURU TIMES ",
      "AeASHGABeBAReDUNeGAeGALeGAN2 TENUeGAReGUeHAeIGIeIM",
      "eISHeKIeLUMeMINePAeSHEeSIG4eTUeU PLUS GUDeUDeURUDA",
      "cURUDAcURUDA TIMES UcUSHcUSH TIMES AeKUeKUReTAK4cUSHX",
      "cUSH2cUSHUMXcUTUKIcUZ3cUZ3 TIMES KASKALcUZUcZAcZA ",
      "TENUdSQUARED TIMES KURcZAGcZAMXcZE2cZIcZI OVER ZIcZI3",
      "cZIBcZIB KABA TENUcZIGcZIZ2cZUcZU5cZU5 TIMES AcZUBUR",
      "cZUMcKAP ELAMITEcAB TIMES NUNcAB2 TIMES AcAMAR TIMES ",
      "KUGcDAG KISIM5 TIMES U2 PLUS MASHcDAG3cDISH PLUS SHU",
      "cDUB TIMES SHEcEZEN TIMES GUDeSHEcGA2 TIMES AN PLUS ",
      "KAK PLUS AeASH2cGE22cGIGcHUSHcKA TIMES ANSHEeASH3",
      "eGISHeGUDeHI TIMES ASH2eLUMePAeSHULeTUeUR2cLAGAB ",
      "TIMES GIcLU2 SHESHIG TIMES BADdTIMES ESH2 PLUS LAL",
      "eSHUcMESHcMUSH3 TIMES ZAcNA4cNINcNIN9cNINDA2 TIMES ",
      "BALeGIcNU11 ROTATED NINETY DEGREEScPESH2 ASTERISK",
      "cPIR2cSAG TIMES IGI GUNUcTI2cUM TIMES MEcU U"]⟩]

end SigCheck
