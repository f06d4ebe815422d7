import SigCheck.CharName.Run

/-
  Names of the scripts of South Asia, from U+0985 to U+0FFF.

  Key definitions include:
    * `CharName.southAsian`
-/

namespace SigCheck

/- The runs of these names. -/
def CharName.southAsian : List NameRun :=
  [⟨0x985, ["aBENGALI LETTER AcAAcIcIIcUcUUcVOCALIC RdL"]⟩,
    ⟨0x98F, ["aBENGALI LETTER EcAI"]⟩,
    ⟨0x993, ["aBENGALI LETTER OcAUcKAcKHAcGAcGHAcNGAcCAcCHA",
      "cJAcJHAcNYAcTTAcTTHAcDDAcDDHAcNNAcTAcTHAcDAcDHAcNA"]⟩,
    ⟨0x9AA, ["aBENGALI LETTER PAcPHAcBAcBHAcMAcYAcRA"]⟩,
    ⟨0x9B2, ["aBENGALI LETTER LA"]⟩,
    ⟨0x9B6, ["aBENGALI LETTER SHAcSSAcSAcHA"]⟩,
    ⟨0x9BC, ["aBENGALI SIGN NUKTAcAVAGRAHAbVOWEL SIGN AAdI",
      "dIIdUdUUdVOCALIC ReRR"]⟩,
    ⟨0x9C7, ["aBENGALI VOWEL SIGN EdAI"]⟩,
    ⟨0x9CB, ["aBENGALI VOWEL SIGN OdAUbSIGN VIRAMAbLETTER ",
      "KHANDA TA"]⟩,
    ⟨0x9D7, ["aBENGALI AU LENGTH MARK"]⟩,
    ⟨0x9DC, ["aBENGALI LETTER RRAcRHA"]⟩,
    ⟨0x9DF, ["aBENGALI LETTER YYAcVOCALIC RRdLLbVOWEL SIGN ",
      "VOCALIC LeLL"]⟩,
    ⟨0x9E6, ["aBENGALI DIGIT ZEROcONEcTWOcTHREEcFOURcFIVE",
      "cSIXcSEVENcEIGHTcNINEbLETTER RA WITH MIDDLE DIAGONAL",
      "eLOWER DIAGONALbRUPEE MARKcSIGNbCURRENCY NUMERATOR ",
      "ONEdTWOdTHREEdFOURdONE LESS THAN THE DENOMINATOR",
      "cDENOMINATOR SIXTEENbISSHARbGANDA MARKbLETTER VEDIC ",
      "ANUSVARAbABBREVIATION SIGNbSANDHI MARK"]⟩,
    ⟨0xA01, ["aGURMUKHI SIGN ADAK BINDIcBINDIcVISARGA"]⟩,
    ⟨0xA05, ["aGURMUKHI LETTER AcAAcIcIIcUcUU"]⟩,
    ⟨0xA0F, ["aGURMUKHI LETTER EEcAI"]⟩,
    ⟨0xA13, ["aGURMUKHI LETTER OOcAUcKAcKHAcGAcGHAcNGAcCA",
      "cCHAcJAcJHAcNYAcTTAcTTHAcDDAcDDHAcNNAcTAcTHAcDAcDHA",
      "cNA"]⟩,
    ⟨0xA2A, ["aGURMUKHI LETTER PAcPHAcBAcBHAcMAcYAcRA"]⟩,
    ⟨0xA32, ["aGURMUKHI LETTER LAcLLA"]⟩,
    ⟨0xA35, ["aGURMUKHI LETTER VAcSHA"]⟩,
    ⟨0xA38, ["aGURMUKHI LETTER SAcHA"]⟩,
    ⟨0xA3C, ["aGURMUKHI SIGN NUKTA"]⟩,
    ⟨0xA3E, ["aGURMUKHI VOWEL SIGN AAdIdIIdUdUU"]⟩,
    ⟨0xA47, ["aGURMUKHI VOWEL SIGN EEdAI"]⟩,
    ⟨0xA4B, ["aGURMUKHI VOWEL SIGN OOdAUbSIGN VIRAMA"]⟩,
    ⟨0xA51, ["aGURMUKHI SIGN UDAAT"]⟩,
    ⟨0xA59, ["aGURMUKHI LETTER KHHAcGHHAcZAcRRA"]⟩,
    ⟨0xA5E, ["aGURMUKHI LETTER FA"]⟩,
    ⟨0xA66, ["aGURMUKHI DIGIT ZEROcONEcTWOcTHREEcFOURcFIVE",
      "cSIXcSEVENcEIGHTcNINEbTIPPIbADDAKbIRIbURAbEK ONKAR",
      "bSIGN YAKASHbABBREVIATION SIGN"]⟩,
    ⟨0xA81, ["aGUJARATI SIGN CANDRABINDUcANUSVARAcVISARGA"]⟩,
    ⟨0xA85, ["aGUJARATI LETTER AcAAcIcIIcUcUUcVOCALIC RdL",
      "bVOWEL CANDRA E"]⟩,
    ⟨0xA8F, ["aGUJARATI LETTER EcAIbVOWEL CANDRA O"]⟩,
    ⟨0xA93, ["aGUJARATI LETTER OcAUcKAcKHAcGAcGHAcNGAcCAcCHA",
      "cJAcJHAcNYAcTTAcTTHAcDDAcDDHAcNNAcTAcTHAcDAcDHAcNA"]⟩,
    ⟨0xAAA, ["aGUJARATI LETTER PAcPHAcBAcBHAcMAcYAcRA"]⟩,
    ⟨0xAB2, ["aGUJARATI LETTER LAcLLA"]⟩,
    ⟨0xAB5, ["aGUJARATI LETTER VAcSHAcSSAcSAcHA"]⟩,
    ⟨0xABC, ["aGUJARATI SIGN NUKTAcAVAGRAHAbVOWEL SIGN AAdI",
      "dIIdUdUUdVOCALIC ReRRdCANDRA E"]⟩,
    ⟨0xAC7, ["aGUJARATI VOWEL SIGN EdAIdCANDRA O"]⟩,
    ⟨0xACB, ["aGUJARATI VOWEL SIGN OdAUbSIGN VIRAMA"]⟩,
    ⟨0xAD0, ["aGUJARATI OM"]⟩,
    ⟨0xAE0, ["aGUJARATI LETTER VOCALIC RRdLLbVOWEL SIGN ",
      "VOCALIC LeLL"]⟩,
    ⟨0xAE6, ["aGUJARATI DIGIT ZEROcONEcTWOcTHREEcFOURcFIVE",
      "cSIXcSEVENcEIGHTcNINEbABBREVIATION SIGNbRUPEE SIGN"]⟩,
    ⟨0xAF9, ["aGUJARATI LETTER ZHAbSIGN SUKUNcSHADDAcMADDAH",
      "cTHREE-DOT NUKTA ABOVEcCIRCLE NUKTA ABOVEcTWO-CIRCLE ",
      "NUKTA ABOVE"]⟩,
    ⟨0xB01, ["aORIYA SIGN CANDRABINDUcANUSVARAcVISARGA"]⟩,
    ⟨0xB05, ["aORIYA LETTER AcAAcIcIIcUcUUcVOCALIC RdL"]⟩,
    ⟨0xB0F, ["aORIYA LETTER EcAI"]⟩,
    ⟨0xB13, ["aORIYA LETTER OcAUcKAcKHAcGAcGHAcNGAcCAcCHAcJA",
      "cJHAcNYAcTTAcTTHAcDDAcDDHAcNNAcTAcTHAcDAcDHAcNA"]⟩,
    ⟨0xB2A, ["aORIYA LETTER PAcPHAcBAcBHAcMAcYAcRA"]⟩,
    ⟨0xB32, ["aORIYA LETTER LAcLLA"]⟩,
    ⟨0xB35, ["aORIYA LETTER VAcSHAcSSAcSAcHA"]⟩,
    ⟨0xB3C, ["aORIYA SIGN NUKTAcAVAGRAHAbVOWEL SIGN AAdIdII",
      "dUdUUdVOCALIC ReRR"]⟩,
    ⟨0xB47, ["aORIYA VOWEL SIGN EdAI"]⟩,
    ⟨0xB4B, ["aORIYA VOWEL SIGN OdAUbSIGN VIRAMA"]⟩,
    ⟨0xB55, ["aORIYA SIGN OVERLINEbAI LENGTH MARKbAU LENGTH ",
      "MARK"]⟩,
    ⟨0xB5C, ["aORIYA LETTER RRAcRHA"]⟩,
    ⟨0xB5F, ["aORIYA LETTER YYAcVOCALIC RRdLLbVOWEL SIGN ",
      "VOCALIC LeLL"]⟩,
    ⟨0xB66, ["aORIYA DIGIT ZEROcONEcTWOcTHREEcFOURcFIVEcSIX",
      "cSEVENcEIGHTcNINEbISSHARbLETTER WAbFRACTION ONE ",
      "QUARTERdHALFcTHREE QUARTERScONE SIXTEENTHdEIGHTH",
      "cTHREE SIXTEENTHS"]⟩,
    ⟨0xB82, ["aTAMIL SIGN ANUSVARAcVISARGA"]⟩,
    ⟨0xB85, ["aTAMIL LETTER AcAAcIcIIcUcUU"]⟩,
    ⟨0xB8E, ["aTAMIL LETTER EcEEcAI"]⟩,
    ⟨0xB92, ["aTAMIL LETTER OcOOcAUcKA"]⟩,
    ⟨0xB99, ["aTAMIL LETTER NGAcCA"]⟩,
    ⟨0xB9C, ["aTAMIL LETTER JA"]⟩,
    ⟨0xB9E, ["aTAMIL LETTER NYAcTTA"]⟩,
    ⟨0xBA3, ["aTAMIL LETTER NNAcTA"]⟩,
    ⟨0xBA8, ["aTAMIL LETTER NAcNNNAcPA"]⟩,
    ⟨0xBAE, ["aTAMIL LETTER MAcYAcRAcRRAcLAcLLAcLLLAcVAcSHA",
      "cSSAcSAcHA"]⟩,
    ⟨0xBBE, ["aTAMIL VOWEL SIGN AAdIdIIdUdUU"]⟩,
    ⟨0xBC6, ["aTAMIL VOWEL SIGN EdEEdAI"]⟩,
    ⟨0xBCA, ["aTAMIL VOWEL SIGN OdOOdAUbSIGN VIRAMA"]⟩,
    ⟨0xBD0, ["aTAMIL OM"]⟩,
    ⟨0xBD7, ["aTAMIL AU LENGTH MARK"]⟩,
    ⟨0xBE6, ["aTAMIL DIGIT ZEROcONEcTWOcTHREEcFOURcFIVEcSIX",
      "cSEVENcEIGHTcNINEbNUMBER TENcONE HUNDREDdTHOUSAND",
      "bDAY SIGNbMONTH SIGNbYEAR SIGNbDEBIT SIGNbCREDIT SIGN",
      "bAS ABOVE SIGNbRUPEE SIGNbNUMBER SIGN"]⟩,
    ⟨0xC00, ["aTELUGU SIGN COMBINING CANDRABINDU ABOVE",
      "cCANDRABINDUcANUSVARAcVISARGAcCOMBINING ANUSVARA ",
      "ABOVEbLETTER AcAAcIcIIcUcUUcVOCALIC RdL"]⟩,
    ⟨0xC0E, ["aTELUGU LETTER EcEEcAI"]⟩,
    ⟨0xC12, ["aTELUGU LETTER OcOOcAUcKAcKHAcGAcGHAcNGAcCA",
      "cCHAcJAcJHAcNYAcTTAcTTHAcDDAcDDHAcNNAcTAcTHAcDAcDHA",
      "cNA"]⟩,
    ⟨0xC2A, ["aTELUGU LETTER PAcPHAcBAcBHAcMAcYAcRAcRRAcLA",
      "cLLAcLLLAcVAcSHAcSSAcSAcHA"]⟩,
    ⟨0xC3C, ["aTELUGU SIGN NUKTAcAVAGRAHAbVOWEL SIGN AAdIdII",
      "dUdUUdVOCALIC ReRR"]⟩,
    ⟨0xC46, ["aTELUGU VOWEL SIGN EdEEdAI"]⟩,
    ⟨0xC4A, ["aTELUGU VOWEL SIGN OdOOdAUbSIGN VIRAMA"]⟩,
    ⟨0xC55, ["aTELUGU LENGTH MARKbAI LENGTH MARK"]⟩,
    ⟨0xC58, ["aTELUGU LETTER TSAcDZAcRRRA"]⟩,
    ⟨0xC5D, ["aTELUGU LETTER NAKAARA POLLU"]⟩,
    ⟨0xC60, ["aTELUGU LETTER VOCALIC RRdLLbVOWEL SIGN ",
      "VOCALIC LeLL"]⟩,
    ⟨0xC66, ["aTELUGU DIGIT ZEROcONEcTWOcTHREEcFOURcFIVEcSIX",
      "cSEVENcEIGHTcNINE"]⟩,
    ⟨0xC77, ["aTELUGU SIGN SIDDHAMbFRACTION DIGIT ZERO FOR ",
      "ODD POWERS OF FOURdONE FOR ODD POWERS OF FOURdTWO ",
      "FOR ODD POWERS OF FOURdTHREE FOR ODD POWERS OF FOUR",
      "dONE FOR EVEN POWERS OF FOURdTWO FOR EVEN POWERS OF ",
      "FOURdTHREE FOR EVEN POWERS OF FOURbSIGN TUUMU",
      "aKANNADA SIGN SPACING CANDRABINDUcCANDRABINDU",
      "cANUSVARAcVISARGAcSIDDHAMbLETTER AcAAcIcIIcUcUU",
      "cVOCALIC RdL"]⟩,
    ⟨0xC8E, ["aKANNADA LETTER EcEEcAI"]⟩,
    ⟨0xC92, ["aKANNADA LETTER OcOOcAUcKAcKHAcGAcGHAcNGAcCA",
      "cCHAcJAcJHAcNYAcTTAcTTHAcDDAcDDHAcNNAcTAcTHAcDAcDHA",
      "cNA"]⟩,
    ⟨0xCAA, ["aKANNADA LETTER PAcPHAcBAcBHAcMAcYAcRAcRRAcLA",
      "cLLA"]⟩,
    ⟨0xCB5, ["aKANNADA LETTER VAcSHAcSSAcSAcHA"]⟩,
    ⟨0xCBC, ["aKANNADA SIGN NUKTAcAVAGRAHAbVOWEL SIGN AAdI",
      "dIIdUdUUdVOCALIC ReRR"]⟩,
    ⟨0xCC6, ["aKANNADA VOWEL SIGN EdEEdAI"]⟩,
    ⟨0xCCA, ["aKANNADA VOWEL SIGN OdOOdAUbSIGN VIRAMA"]⟩,
    ⟨0xCD5, ["aKANNADA LENGTH MARKbAI LENGTH MARK"]⟩,
    ⟨0xCDD, ["aKANNADA LETTER NAKAARA POLLUcFA"]⟩,
    ⟨0xCE0, ["aKANNADA LETTER VOCALIC RRdLLbVOWEL SIGN ",
      "VOCALIC LeLL"]⟩,
    ⟨0xCE6, ["aKANNADA DIGIT ZEROcONEcTWOcTHREEcFOURcFIVE",
      "cSIXcSEVENcEIGHTcNINE"]⟩,
    ⟨0xCF1, ["aKANNADA SIGN JIHVAMULIYAcUPADHMANIYA",
      "cCOMBINING ANUSVARA ABOVE RIGHT"]⟩,
    ⟨0xD00, ["aMALAYALAM SIGN COMBINING ANUSVARA ABOVE",
      "cCANDRABINDUcANUSVARAcVISARGAbLETTER VEDIC ANUSVARAcA",
      "cAAcIcIIcUcUUcVOCALIC RdL"]⟩,
    ⟨0xD0E, ["aMALAYALAM LETTER EcEEcAI"]⟩,
    ⟨0xD12, ["aMALAYALAM LETTER OcOOcAUcKAcKHAcGAcGHAcNGAcCA",
      "cCHAcJAcJHAcNYAcTTAcTTHAcDDAcDDHAcNNAcTAcTHAcDAcDHA",
      "cNAcNNNAcPAcPHAcBAcBHAcMAcYAcRAcRRAcLAcLLAcLLLAcVA",
      "cSHAcSSAcSAcHAcTTTAbSIGN VERTICAL BAR VIRAMA",
      "cCIRCULAR VIRAMAcAVAGRAHAbVOWEL SIGN AAdIdIIdUdUU",
      "dVOCALIC ReRR"]⟩,
    ⟨0xD46, ["aMALAYALAM VOWEL SIGN EdEEdAI"]⟩,
    ⟨0xD4A, ["aMALAYALAM VOWEL SIGN OdOOdAUbSIGN VIRAMA",
      "bLETTER DOT REPHbSIGN PARA"]⟩,
    ⟨0xD54, ["aMALAYALAM LETTER CHILLU MdYdLLLbAU LENGTH ",
      "MARKbFRACTION ONE ONE-HUNDRED-AND-SIXTIETHdFORTIETH",
      "cTHREE EIGHTIETHScONE TWENTIETHdTENTHcTHREE ",
      "TWENTIETHScONE FIFTHbLETTER ARCHAIC IIcVOCALIC RRdLL",
      "bVOWEL SIGN VOCALIC LeLL"]⟩,
    ⟨0xD66, ["aMALAYALAM DIGIT ZEROcONEcTWOcTHREEcFOURcFIVE",
      "cSIXcSEVENcEIGHTcNINEbNUMBER TENcONE HUNDREDdTHOUSAND",
      "bFRACTION ONE QUARTERdHALFcTHREE QUARTERScONE ",
      "SIXTEENTHdEIGHTHcTHREE SIXTEENTHSbDATE MARKbLETTER ",
      "CHILLU NNdNdRRdLdLLdK"]⟩,
    ⟨0xD81, ["aSINHALA SIGN CANDRABINDUcANUSVARAYAcVISARGAYA"]⟩,
    ⟨0xD85, ["aSINHALA LETTER AYANNAcAAYANNAcAEYANNA",
      "cAEEYANNAcIYANNAcIIYANNAcUYANNAcUUYANNAcIRUYANNA",
      "cIRUUYANNAcILUYANNAcILUUYANNAcEYANNAcEEYANNAcAIYANNA",
      "cOYANNAcOOYANNAcAUYANNA"]⟩,
    ⟨0xD9A, ["aSINHALA LETTER ALPAPRAANA KAYANNA",
      "cMAHAAPRAANA KAYANNAcALPAPRAANA GAYANNAcMAHAAPRAANA ",
      "GAYANNAcKANTAJA NAASIKYAYAcSANYAKA GAYANNA",
      "cALPAPRAANA CAYANNAcMAHAAPRAANA CAYANNAcALPAPRAANA ",
      "JAYANNAcMAHAAPRAANA JAYANNAcTAALUJA NAASIKYAYA",
      "dSANYOOGA NAAKSIKYAYAcSANYAKA JAYANNAcALPAPRAANA ",
      "TTAYANNAcMAHAAPRAANA TTAYANNAcALPAPRAANA DDAYANNA",
      "cMAHAAPRAANA DDAYANNAcMUURDHAJA NAYANNAcSANYAKA ",
      "DDAYANNAcALPAPRAANA TAYANNAcMAHAAPRAANA TAYANNA",
      "cALPAPRAANA DAYANNAcMAHAAPRAANA DAYANNAcDANTAJA ",
      "NAYANNA"]⟩,
    ⟨0xDB3, ["aSINHALA LETTER SANYAKA DAYANNAcALPAPRAANA ",
      "PAYANNAcMAHAAPRAANA PAYANNAcALPAPRAANA BAYANNA",
      "cMAHAAPRAANA BAYANNAcMAYANNAcAMBA BAYANNAcYAYANNA",
      "cRAYANNA"]⟩,
    ⟨0xDBD, ["aSINHALA LETTER DANTAJA LAYANNA"]⟩,
    ⟨0xDC0, ["aSINHALA LETTER VAYANNAcTAALUJA SAYANNA",
      "cMUURDHAJA SAYANNAcDANTAJA SAYANNAcHAYANNAcMUURDHAJA ",
      "LAYANNAcFAYANNA"]⟩,
    ⟨0xDCA, ["aSINHALA SIGN AL-LAKUNA"]⟩,
    ⟨0xDCF, ["aSINHALA VOWEL SIGN AELA-PILLAdKETTI AEDA-",
      "PILLAdDIGA AEDA-PILLAdKETTI IS-PILLAdDIGA IS-PILLA",
      "dKETTI PAA-PILLA"]⟩,
    ⟨0xDD6, ["aSINHALA VOWEL SIGN DIGA PAA-PILLA"]⟩,
    ⟨0xDD8, ["aSINHALA VOWEL SIGN GAETTA-PILLAdKOMBUVAdDIGA ",
      "KOMBUVAdKOMBU DEKAdKOMBUVA HAA AELA-PILLAfDIGA AELA-",
      "PILLAfGAYANUKITTAdGAYANUKITTA"]⟩,
    ⟨0xDE6, ["aSINHALA LITH DIGIT ZEROdONEdTWOdTHREEdFOUR",
      "dFIVEdSIXdSEVENdEIGHTdNINE"]⟩,
    ⟨0xDF2, ["aSINHALA VOWEL SIGN DIGA GAETTA-PILLA",
      "eGAYANUKITTAbPUNCTUATION KUNDDALIYA"]⟩,
    ⟨0xE01, ["aTHAI CHARACTER KO KAIcKHO KHAIdKHUATdKHWAI",
      "dKHONdRAKHANGcNGO NGUcCHO CHANdCHINGdCHANGcSO SOcCHO ",
      "CHOEcYO YINGcDO CHADAcTO PATAKcTHO THANdNANGMONTHO",
      "dPHUTHAOcNO NENcDO DEKcTO TAOcTHO THUNGdTHAHANdTHONG",
      "cNO NUcBO BAIMAIcPO PLAcPHO PHUNGcFO FAcPHO PHANcFO ",
      "FANcPHO SAMPHAOcMO MAcYO YAKcRO RUAcRUcLO LINGcLUcWO ",
      "WAENcSO SALAdRUSIdSUAcHO HIPcLO CHULAcO ANGcHO NOKHUK",
      "cPAIYANNOIcSARA AcMAI HAN-AKATcSARA AAdAMdIdIIdUEdUEE",
      "dUdUUcPHINTHU"]⟩,
    ⟨0xE3F, ["aTHAI CURRENCY SYMBOL BAHTbCHARACTER SARA EdAE",
      "dOdAI MAIMUANeMAIMALAIcLAKKHANGYAOcMAIYAMOKcMAITAIKHU",
      "cMAI EKdTHOdTRIdCHATTAWAcTHANTHAKHATcNIKHAHIT",
      "cYAMAKKANcFONGMANbDIGIT ZEROcONEcTWOcTHREEcFOURcFIVE",
      "cSIXcSEVENcEIGHTcNINEbCHARACTER ANGKHANKHUcKHOMUT"]⟩,
    ⟨0xE81, ["aLAO LETTER KOcKHO SUNG"]⟩,
    ⟨0xE84, ["aLAO LETTER KHO TAM"]⟩,
    ⟨0xE86, ["aLAO LETTER PALI GHAcNGOcCOcPALI CHAcSO TAM"]⟩,
    ⟨0xE8C, ["aLAO LETTER PALI JHAcNYOcPALI NYAdTTAdTTHAdDDA",
      "dDDHAdNNAcDOcTOcTHO SUNGdTAMcPALI DHAcNOcBOcPOcPHO ",
      "SUNGcFO TAMcPHO TAMcFO SUNGcPALI BHAcMOcYOcLO LING"]⟩,
    ⟨0xEA5, ["aLAO LETTER LO LOOT"]⟩,
    ⟨0xEA7, ["aLAO LETTER WOcSANSKRIT SHAdSSAcSO SUNGcHO ",
      "SUNGcPALI LLAcOcHO TAMbELLIPSISbVOWEL SIGN AdMAI KAN",
      "dAAdAMdIdIIdYdYYdUdUUbSIGN PALI VIRAMAbVOWEL SIGN ",
      "MAI KONbSEMIVOWEL SIGN LOdNYO"]⟩,
    ⟨0xEC0, ["aLAO VOWEL SIGN EdEIdOdAYdAI"]⟩,
    ⟨0xEC6, ["aLAO KO LA"]⟩,
    ⟨0xEC8, ["aLAO TONE MAI EKdTHOdTIdCATAWAbCANCELLATION ",
      "MARKbNIGGAHITAbYAMAKKAN"]⟩,
    ⟨0xED0, ["aLAO DIGIT ZEROcONEcTWOcTHREEcFOURcFIVEcSIX",
      "cSEVENcEIGHTcNINE"]⟩,
    ⟨0xEDC, ["aLAO HO NOcMObLETTER KHMU GOdNYO"]⟩,
    ⟨0xF00, ["aTIBETAN SYLLABLE OMbMARK GTER YIG MGO ",
      "TRUNCATED Af-UM RNAM BCAD MAhGTER TSHEG MAcINITIAL ",
      "YIG MGO MDUN MAcCLOSING YIG MGO SGAB MAcCARET YIG ",
      "MGO PHUR SHAD MAcYIG MGO TSHEG SHAD MAcSBRUL SHAD",
      "cBSKUR YIG MGOcBKA- SHOG YIG MGOcINTERSYLLABIC TSHEG",
      "cDELIMITER TSHEG BSTARcSHADcNYIS SHADcTSHEG SHAD",
      "cNYIS TSHEG SHADcRIN CHEN SPUNGS SHADcRGYA GRAM SHAD",
      "cCARET -DZUD RTAGS ME LONG CANcGTER TSHEGbLOGOTYPE ",
      "SIGN CHAD RTAGSdLHAG RTAGSbASTROLOGICAL SIGN SGRA ",
      "GCAN -CHAR RTAGSd-KHYUD PAdSDONG TSHUGSbSIGN RDEL ",
      "DKAR GCIGeGNYISeGSUMdNAG GCIGeGNYISdDKAR RDEL NAG",
      "bDIGIT ZEROcONEcTWOcTHREEcFOURcFIVEcSIXcSEVENcEIGHT",
      "cNINEcHALF ONEdTWOdTHREEdFOURdFIVEdSIXdSEVENdEIGHT",
      "dNINEdZERObMARK BSDUS RTAGScNGAS BZUNG NYI ZLAcCARET ",
      "-DZUD RTAGS BZHI MIG CANcNGAS BZUNG SGOR RTAGScCHE ",
      "MGOcTSA -PHRUcGUG RTAGS GYONeGYAScANG KHANG GYONeGYAS",
      "bSIGN YAR TSHEScMAR TSHESbLETTER KAcKHAcGAcGHAcNGAcCA",
      "cCHAcJA"]⟩,
    ⟨0xF49, ["aTIBETAN LETTER NYAcTTAcTTHAcDDAcDDHAcNNAcTA",
      "cTHAcDAcDHAcNAcPAcPHAcBAcBHAcMAcTSAcTSHAcDZAcDZHAcWA",
      "cZHAcZAc-AcYAcRAcLAcSHAcSSAcSAcHAcAcKSSAcFIXED-FORM ",
      "RAcKKAcRRA"]⟩,
    ⟨0xF71, ["aTIBETAN VOWEL SIGN AAdIdIIdUdUUdVOCALIC ReRR",
      "eLeLLdEdEEdOdOObSIGN RJES SU NGA ROcRNAM BCADbVOWEL ",
      "SIGN REVERSED IeIIbSIGN NYI ZLA NAA DAcSNA LDANbMARK ",
      "HALANTAcPALUTAbSIGN LCI RTAGScYANG RTAGScLCE TSA CAN",
      "cMCHU CANcGRU CAN RGYINGSdMED RGYINGScINVERTED MCHU ",
      "CANbSUBJOINED SIGN LCE TSA CANdMCHU CANdINVERTED ",
      "MCHU CANcLETTER KAdKHAdGAdGHAdNGAdCAdCHAdJA"]⟩,
    ⟨0xF99, ["aTIBETAN SUBJOINED LETTER NYAdTTAdTTHAdDDA",
      "dDDHAdNNAdTAdTHAdDAdDHAdNAdPAdPHAdBAdBHAdMAdTSAdTSHA",
      "dDZAdDZHAdWAdZHAdZAd-AdYAdRAdLAdSHAdSSAdSAdHAdAdKSSA",
      "dFIXED-FORM WAfYAfRA"]⟩,
    ⟨0xFBE, ["aTIBETAN KU RU KHAdKHA BZHI MIG CAN",
      "bCANTILLATION SIGN HEAVY BEATdLIGHT BEATdCANG TE-U",
      "dSBUB -CHALbSYMBOL DRIL BUcRDO RJEcPADMA GDANcRDO ",
      "RJE RGYA GRAMcPHUR PAcNOR BUdBU NYIS -KHYILeGSUM -",
      "KHYILeBZHI -KHYIL"]⟩,
    ⟨0xFCE, ["aTIBETAN SIGN RDEL NAG RDEL DKAReGSUMbMARK ",
      "BSKA- SHOG GI MGO RGYANcMNYAM YIG GI MGO RGYANcNYIS ",
      "TSHEGcINITIAL BRDA RNYING YIG MGO MDUN MAcCLOSING ",
      "BRDA RNYING YIG MGO SGAB MAaRIGHT-FACING SVASTI SIGN",
      "aLEFT-FACING SVASTI SIGNaRIGHT-FACING SVASTI SIGN ",
      "WITH DOTSaLEFT-FACING SVASTI SIGN WITH DOTSaTIBETAN ",
      "MARK LEADING MCHAN RTAGScTRAILING MCHAN RTAGS"]⟩]

end SigCheck
