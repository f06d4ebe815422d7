import SigCheck.CharName.Run

/-
  Names of old alphabets and syllables, from U+10000 to
  U+10FFF.

  Key definitions include:
    * `CharName.ancient`
-/

namespace SigCheck

/- The runs of these names. -/
def CharName.ancient : List NameRun :=
  [⟨0x10000, ["aLINEAR B SYLLABLE B008 AdB038 EdB028 I",
      "dB061 OdB010 UdB001 DAdB045 DEdB007 DIdB014 DOdB051 ",
      "DUdB057 JAdB046 JE"]⟩,
    ⟨0x1000D, ["aLINEAR B SYLLABLE B036 JOdB065 JUdB077 KA",
      "dB044 KEdB067 KIdB070 KOdB081 KUdB080 MAdB013 ME",
      "dB073 MIdB015 MOdB023 MUdB006 NAdB024 NEdB030 NI",
      "dB052 NOdB055 NUdB003 PAdB072 PEdB039 PIdB011 PO",
      "dB050 PUdB016 QAdB078 QEdB021 QIdB032 QO"]⟩,
    ⟨0x10028, ["aLINEAR B SYLLABLE B060 RAdB027 REdB053 RI",
      "dB002 ROdB026 RUdB031 SAdB009 SEdB041 SIdB012 SO",
      "dB058 SUdB059 TAdB004 TEdB037 TIdB005 TOdB069 TU",
      "dB054 WAdB075 WEdB040 WIdB042 WO"]⟩,
    ⟨0x1003C, ["aLINEAR B SYLLABLE B017 ZAdB074 ZE"]⟩,
    ⟨0x1003F, ["aLINEAR B SYLLABLE B020 ZOdB025 A2dB043 A3",
      "dB085 AUdB071 DWEdB090 DWOdB048 NWAdB029 PU2dB062 PTE",
      "dB076 RA2dB033 RA3dB068 RO2dB066 TA2dB087 TWEdB091 ",
      "TWO"]⟩,
    ⟨0x10050, ["aLINEAR B SYMBOL B018dB019dB022dB034dB047",
      "dB049dB056dB063dB064dB079dB082dB083dB086dB089"]⟩,
    ⟨0x10080, ["aLINEAR B IDEOGRAM B100 MANdB102 WOMANdB104 ",
      "DEERdB105 EQUIDdB105F MAREdB105M STALLIONdB106F EWE",
      "dB106M RAMdB107F SHE-GOATdB107M HE-GOATdB108F SOW",
      "dB108M BOARdB109F COWdB109M BULLdB120 WHEATdB121 ",
      "BARLEYdB122 OLIVEdB123 SPICEdB125 CYPERUScMONOGRAM ",
      "B127 KAPOdB128 KANAKOcIDEOGRAM B130 OILdB131 WINE",
      "dB132cMONOGRAM B133 AREPAdB135 MERIcIDEOGRAM B140 ",
      "BRONZEdB141 GOLDdB142dB145 WOOLdB146dB150dB151 HORN",
      "dB152dB153dB154cMONOGRAM B156 TURO2cIDEOGRAM B157",
      "dB158dB159 CLOTHdB160dB161dB162 GARMENTdB163 ARMOUR",
      "dB164dB165dB166dB167dB168dB169dB170dB171dB172dB173 ",
      "MONTHdB174dB176 TREEdB177dB178dB179dB180dB181dB182",
      "dB183dB184dB185dB189dB190dB191 HELMETdB220 FOOTSTOOL",
      "dB225 BATHTUBdB230 SPEARdB231 ARROWdB232dB233 SWORD",
      "dB234dB236dB240 WHEELED CHARIOTdB241 CHARIOTdB242 ",
      "CHARIOT FRAMEdB243 WHEELdB245dB246cMONOGRAM B247 ",
      "DIPTEcIDEOGRAM B248dB249dB251dB252dB253dB254 DART",
      "dB255dB256dB257dB258dB259dVESSEL B155eB200eB201eB202",
      "eB203eB204eB205eB206eB207eB208eB209eB210eB211eB212",
      "eB213eB214eB215eB216eB217eB218eB219eB221eB222eB226",
      "eB227eB228eB229eB250eB305"]⟩,
    ⟨0x10100, ["aAEGEAN WORD SEPARATOR LINEdDOTbCHECK MARK"]⟩,
    ⟨0x10107, ["aAEGEAN NUMBER ONEcTWOcTHREEcFOURcFIVEcSIX",
      "cSEVENcEIGHTcNINEcTENcTWENTYcTHIRTYcFORTYcFIFTYcSIXTY",
      "cSEVENTYcEIGHTYcNINETYcONE HUNDREDcTWO HUNDREDcTHREE ",
      "HUNDREDcFOUR HUNDREDcFIVE HUNDREDcSIX HUNDREDcSEVEN ",
      "HUNDREDcEIGHT HUNDREDcNINE HUNDREDcONE THOUSANDcTWO ",
      "THOUSANDcTHREE THOUSANDcFOUR THOUSANDcFIVE THOUSAND",
      "cSIX THOUSANDcSEVEN THOUSANDcEIGHT THOUSANDcNINE ",
      "THOUSANDcTEN THOUSANDcTWENTY THOUSANDcTHIRTY THOUSAND",
      "cFORTY THOUSANDcFIFTY THOUSANDcSIXTY THOUSAND",
      "cSEVENTY THOUSANDcEIGHTY THOUSANDcNINETY THOUSAND"]⟩,
    ⟨0x10137, ["aAEGEAN WEIGHT BASE UNITcFIRST SUBUNIT",
      "cSECOND SUBUNITcTHIRD SUBUNITcFOURTH SUBUNITbDRY ",
      "MEASURE FIRST SUBUNITbLIQUID MEASURE FIRST SUBUNIT",
      "bMEASURE SECOND SUBUNITcTHIRD SUBUNITaGREEK ",
      "ACROPHONIC ATTIC ONE QUARTEReHALFeDRACHMAdFIVEdFIFTY",
      "dFIVE HUNDREDeTHOUSANDdFIFTY THOUSANDdFIVE TALENTS",
      "dTEN TALENTSdFIFTY TALENTSdONE HUNDRED TALENTSdFIVE ",
      "HUNDRED TALENTSdONE THOUSAND TALENTSdFIVE THOUSAND ",
      "TALENTSeSTATERSdTEN STATERSdFIFTY STATERSdONE ",
      "HUNDRED STATERSdFIVE HUNDRED STATERSdONE THOUSAND ",
      "STATERSdTEN THOUSAND STATERSdFIFTY THOUSAND STATERS",
      "dTEN MNAScHERAEUM ONE PLETHRONcTHESPIAN ONE",
      "cHERMIONIAN ONEcEPIDAUREAN TWOcTHESPIAN TWOcCYRENAIC ",
      "TWO DRACHMAScEPIDAUREAN TWO DRACHMAScTROEZENIAN FIVE",
      "dTENdTEN ALTERNATE FORMcHERMIONIAN TENcMESSENIAN TEN",
      "cTHESPIAN TENdTHIRTYcTROEZENIAN FIFTYdFIFTY ",
      "ALTERNATE FORMcHERMIONIAN FIFTYcTHESPIAN FIFTYdONE ",
      "HUNDREDdTHREE HUNDREDcEPIDAUREAN FIVE HUNDRED",
      "cTROEZENIAN FIVE HUNDREDcTHESPIAN FIVE HUNDRED",
      "cCARYSTIAN FIVE HUNDREDcNAXIAN FIVE HUNDREDcTHESPIAN ",
      "ONE THOUSANDdFIVE THOUSANDcDELPHIC FIVE MNAS",
      "cSTRATIAN FIFTY MNASbONE HALF SIGNdSIGN ALTERNATE ",
      "FORMbTWO THIRDS SIGNbTHREE QUARTERS SIGNbYEAR SIGN",
      "bTALENT SIGNbDRACHMA SIGNbOBOL SIGNbTWO OBOLS SIGN",
      "bTHREE OBOLS SIGNbFOUR OBOLS SIGNbFIVE OBOLS SIGN",
      "bMETRETES SIGNbKYATHOS BASE SIGNbLITRA SIGNbOUNKIA ",
      "SIGNbXESTES SIGNbARTABE SIGNbAROURA SIGNbGRAMMA SIGN",
      "bTRYBLION BASE SIGNbZERO SIGNbONE QUARTER SIGN",
      "bSINUSOID SIGNbINDICTION SIGNaNOMISMA SIGN"]⟩,
    ⟨0x10190, ["aROMAN SEXTANS SIGNbUNCIA SIGNbSEMUNCIA SIGN",
      "bSEXTULA SIGNbDIMIDIA SEXTULA SIGNbSILIQUA SIGN",
      "bDENARIUS SIGNbQUINARIUS SIGNbSESTERTIUS SIGN",
      "bDUPONDIUS SIGNbAS SIGNbCENTURIAL SIGNaASCIA SYMBOL"]⟩,
    ⟨0x101A0, ["aGREEK SYMBOL TAU RHO"]⟩,
    ⟨0x101D0, ["aPHAISTOS DISC SIGN PEDESTRIANdPLUMED HEAD",
      "dTATTOOED HEADdCAPTIVEdCHILDdWOMANdHELMETdGAUNTLET",
      "dTIARAdARROWdBOWdSHIELDdCLUBdMANACLESdMATTOCKdSAWdLID",
      "dBOOMERANGdCARPENTRY PLANEdDOLIUMdCOMBdSLINGdCOLUMN",
      "dBEEHIVEdSHIPdHORNdHIDEdBULLS LEGdCATdRAMdEAGLEdDOVE",
      "dTUNNYdBEEdPLANE TREEdVINEdPAPYRUSdROSETTEdLILYdOX ",
      "BACKdFLUTEdGRATERdSTRAINERdSMALL AXEdWAVY BAND",
      "dCOMBINING OBLIQUE STROKE"]⟩,
    ⟨0x10280, ["aLYCIAN LETTER AcEcBcBHcGcDcIcWcZcTHcJcKcQcL",
      "cMcNcMMcNNcUcPcKKcRcScTcTTcANcENcHcX"]⟩,
    ⟨0x102A0, ["aCARIAN LETTER AcP2cDcLcUUUcRcLDcA2cQcBcMcO",
      "cD2cTcSHcSH2cScC-18cUcNNcXcNcTT2cPcSScIcEcUUUUcKcK2",
      "cNDcUUcGcG2cSTcST2cNGcIIcC-39cTTcUUU2cRRcMBcMB2cMB3",
      "cMB4cLD2cE2cUUU3"]⟩,
    ⟨0x102E0, ["aCOPTIC EPACT THOUSANDS MARKcDIGIT ONEdTWO",
      "dTHREEdFOURdFIVEdSIXdSEVENdEIGHTdNINEcNUMBER TEN",
      "dTWENTYdTHIRTYdFORTYdFIFTYdSIXTYdSEVENTYdEIGHTY",
      "dNINETYdONE HUNDREDdTWO HUNDREDdTHREE HUNDREDdFOUR ",
      "HUNDREDdFIVE HUNDREDdSIX HUNDREDdSEVEN HUNDREDdEIGHT ",
      "HUNDREDdNINE HUNDRED"]⟩,
    ⟨0x10300, ["aOLD ITALIC LETTER AdBEdKEdDEdEdVEdZEdHEdTHE",
      "dIdKAdELdEMdENdESHdOdPEdSHEdKUdERdESdTEdUdEKSdPHEdKHE",
      "dEFdERSdCHEdIIdUUdESScNUMERAL ONEdFIVEdTENdFIFTY"]⟩,
    ⟨0x1032D, ["aOLD ITALIC LETTER YEdNORTHERN TSEdSOUTHERN ",
      "TSEaGOTHIC LETTER AHSAcBAIRKANcGIBAcDAGScAIHVUS",
      "cQAIRTHRAcIUJAcHAGLcTHIUTHcEIScKUSMAcLAGUScMANNA",
      "cNAUTHScJERcURUScPAIRTHRAcNINETYcRAIDAcSAUILcTEIWS",
      "cWINJAcFAIHUcIGGWScHWAIRcOTHALcNINE HUNDRED"]⟩,
    ⟨0x10350, ["aOLD PERMIC LETTER ANdBURdGAIdDOIdEdZHOI",
      "dDZHOIdZATAdDZITAdIdKOKEdLEIdMENOEdNENOEdVOOIdPEEI",
      "dREIdSIIdTAIdUdCHERYdSHOOIdSHCHOOIdYRYdYERUdOdOOdEF",
      "dHAdTSIUdVERdYERdYERIdYATdIEdYUdYAdIAaCOMBINING OLD ",
      "PERMIC LETTER ANeDOIeZATAeNENOEeSII"]⟩,
    ⟨0x10380, ["aUGARITIC LETTER ALPAcBETAcGAMLAcKHAcDELTA",
      "cHOcWOcZETAcHOTAcTETcYODcKAFcSHINcLAMDAcMEMcDHALcNUN",
      "cZUcSAMKAcAINcPUcSADEcQOPAcRASHAcTHANNAcGHAINcTOcIcU",
      "cSSU"]⟩,
    ⟨0x1039F, ["aUGARITIC WORD DIVIDERaOLD PERSIAN SIGN AdI",
      "dUdKAdKUdGAdGUdXAdCAdJAdJIdTAdTUdDAdDIdDUdTHAdPAdBA",
      "dFAdNAdNUdMAdMIdMUdYAdVAdVIdRAdRUdLAdSAdZAdSHAdSSAdHA"]⟩,
    ⟨0x103C8, ["aOLD PERSIAN SIGN AURAMAZDAAdAURAMAZDAA-2",
      "dAURAMAZDAAHAdXSHAAYATHIYAdDAHYAAUSHdDAHYAAUSH-2dBAGA",
      "dBUUMISHcWORD DIVIDERcNUMBER ONEdTWOdTENdTWENTY",
      "dHUNDRED"]⟩,
    ⟨0x10400, ["aDESERET CAPITAL LETTER LONG IeEeAeAHeOeOO",
      "dSHORT IeEeAeAHeOeOOdAYdOWdWUdYEEdHdPEEdBEEdTEEdDEE",
      "dCHEEdJEEdKAYdGAYdEFdVEEdETHdTHEEdESdZEEdESHdZHEEdER",
      "dELdEMdENdENGdOIdEWbSMALL LETTER LONG IeEeAeAHeOeOO",
      "dSHORT IeEeAeAHeOeOOdAYdOWdWUdYEEdHdPEEdBEEdTEEdDEE",
      "dCHEEdJEEdKAYdGAYdEFdVEEdETHdTHEEdESdZEEdESHdZHEEdER",
      "dELdEMdENdENGdOIdEWaSHAVIAN LETTER PEEPcTOTcKICKcFEE",
      "cTHIGHcSOcSUREcCHURCHcYEAcHUNGcBIBcDEADcGAGcVOWcTHEY",
      "cZOOcMEASUREcJUDGEcWOEcHA-HAcLOLLcMIMEcIFcEGGcASHcADO",
      "cONcWOOLcOUTcAHcROARcNUNcEATcAGEcICEcUPcOAKcOOZEcOIL",
      "cAWEcAREcORcAIRcERRcARRAYcEARcIANcYEWaOSMANYA LETTER ",
      "ALEFcBAcTAcJAcXAcKHAcDEELcRAcSAcSHIINcDHAcCAYNcGAcFA",
      "cQAAFcKAAFcLAANcMIINcNUUNcWAWcHAcYAcAcEcIcOcUcAAcEE",
      "cOO"]⟩,
    ⟨0x104A0, ["aOSMANYA DIGIT ZEROcONEcTWOcTHREEcFOURcFIVE",
      "cSIXcSEVENcEIGHTcNINE"]⟩,
    ⟨0x104B0, ["aOSAGE CAPITAL LETTER AdAIdAINdAHdBRAdCHA",
      "dEHCHAdEdEINdHAdHYAdIdKAdEHKAdKYAdLAdMAdNAdOdOINdPA",
      "dEHPAdSAdSHAdTAdEHTAdTSAdEHTSAdTSHAdDHAdUdWAdKHAdGHA",
      "dZAdZHA"]⟩,
    ⟨0x104D8, ["aOSAGE SMALL LETTER AdAIdAINdAHdBRAdCHA",
      "dEHCHAdEdEINdHAdHYAdIdKAdEHKAdKYAdLAdMAdNAdOdOINdPA",
      "dEHPAdSAdSHAdTAdEHTAdTSAdEHTSAdTSHAdDHAdUdWAdKHAdGHA",
      "dZAdZHA"]⟩,
    ⟨0x10500, ["aELBASAN LETTER AcBEcCEcCHEcDEcNDEcDHEcEIcE",
      "cFEcGEcGJEcHEcIcJEcKEcLEcLLEcMEcNEcNAcNJEcOcPEcQEcRE",
      "cRREcSEcSHEcTEcTHEcUcVEcXEcYcZEcZHEcGHEcGHAMMAcKHE"]⟩,
    ⟨0x10530, ["aCAUCASIAN ALBANIAN LETTER ALTdBETdGIMdDAT",
      "dEBdZARLdEYNdZHILdTASdCHAdYOWDdZHAdIRBdSHAdLANdINYA",
      "dXEYNdDYANdCARdJHOXdKARdLYITdHEYTdQAYdAORdCHOYdCHI",
      "dCYAYdMAQdQARdNOWCdDZYAYdSHAKdJAYNdONdTYAYdFAMdDZAY",
      "dCHATdPENdGHEYSdRATdSEYKdVEYZdTIWRdSHOYdIWNdCYAWdCAYN",
      "dYAYDdPIWRdKIW"]⟩,
    ⟨0x1056F, ["aCAUCASIAN ALBANIAN CITATION MARKaVITHKUQI ",
      "CAPITAL LETTER AdBBEdBEdCEdCHEdDEdDHEdEIdEdFEdGA"]⟩,
    ⟨0x1057C, ["aVITHKUQI CAPITAL LETTER HAdHHAdIdIJEdJEdKA",
      "dLAdLLAdMEdNEdNJEdOdPEdQAdRE"]⟩,
    ⟨0x1058C, ["aVITHKUQI CAPITAL LETTER SEdSHEdTEdTHEdUdVE",
      "dXE"]⟩,
    ⟨0x10594, ["aVITHKUQI CAPITAL LETTER YdZE"]⟩,
    ⟨0x10597, ["aVITHKUQI SMALL LETTER AdBBEdBEdCEdCHEdDE",
      "dDHEdEIdEdFEdGA"]⟩,
    ⟨0x105A3, ["aVITHKUQI SMALL LETTER HAdHHAdIdIJEdJEdKAdLA",
      "dLLAdMEdNEdNJEdOdPEdQAdRE"]⟩,
    ⟨0x105B3, ["aVITHKUQI SMALL LETTER SEdSHEdTEdTHEdUdVEdXE"]⟩,
    ⟨0x105BB, ["aVITHKUQI SMALL LETTER YdZE"]⟩,
    ⟨0x10600, ["aLINEAR A SIGN AB001dAB002dAB003dAB004dAB005",
      "dAB006dAB007dAB008dAB009dAB010dAB011dAB013dAB016",
      "dAB017dAB020dAB021dAB021FdAB021MdAB022dAB022FdAB022M",
      "dAB023dAB023MdAB024dAB026dAB027dAB028dA028BdAB029",
      "dAB030dAB031dAB034dAB037dAB038dAB039dAB040dAB041",
      "dAB044dAB045dAB046dAB047dAB048dAB049dAB050dAB051",
      "dAB053dAB054dAB055dAB056dAB057dAB058dAB059dAB060",
      "dAB061dAB065dAB066dAB067dAB069dAB070dAB073dAB074",
      "dAB076dAB077dAB078dAB079dAB080dAB081dAB082dAB085",
      "dAB086dAB087dA100-102dAB118dAB120dA120BdAB122dAB123",
      "dAB131AdAB131BdA131CdAB164dAB171dAB180dAB188dAB191",
      "dA301dA302dA303dA304dA305dA306dA307dA308dA309AdA309B",
      "dA309CdA310dA311dA312dA313AdA313BdA313CdA314dA315",
      "dA316dA317dA318dA319dA320dA321dA322dA323dA324dA325",
      "dA326dA327dA328dA329dA330dA331dA332dA333dA334dA335",
      "dA336dA337dA338dA339dA340dA341dA342dA343dA344dA345",
      "dA346dA347dA348dA349dA350dA351dA352dA353dA354dA355",
      "dA356dA357dA358dA359dA360dA361dA362dA363dA364dA365",
      "dA366dA367dA368dA369dA370dA371dA400-VASdA401-VAS",
      "dA402-VASdA403-VASdA404-VASdA405-VASdA406-VASdA407-",
      "VASdA408-VASdA409-VASdA410-VASdA411-VASdA412-VAS",
      "dA413-VASdA414-VASdA415-VASdA416-VASdA417-VASdA418-",
      "VASdA501dA502dA503dA504dA505dA506dA508dA509dA510dA511",
      "dA512dA513dA515dA516dA520dA521dA523dA524dA525dA526",
      "dA527dA528dA529dA530dA531dA532dA534dA535dA536dA537",
      "dA538dA539dA540dA541dA542dA545dA547dA548dA549dA550",
      "dA551dA552dA553dA554dA555dA556dA557dA559dA563dA564",
      "dA565dA566dA568dA569dA570dA571dA572dA573dA574dA575",
      "dA576dA577dA578dA579dA580dA581dA582dA583dA584dA585",
      "dA586dA587dA588dA589dA591dA592dA594dA595dA596dA598",
      "dA600dA601dA602dA603dA604dA606dA608dA609dA610dA611",
      "dA612dA613dA614dA615dA616dA617dA618dA619dA620dA621",
      "dA622dA623dA624dA626dA627dA628dA629dA634dA637dA638",
      "dA640dA642dA643dA644dA645dA646dA648dA649dA651dA652",
      "dA653dA654dA655dA656dA657dA658dA659dA660dA661dA662",
      "dA663dA664"]⟩,
    ⟨0x10740, ["aLINEAR A SIGN A701 AdA702 BdA703 DdA704 E",
      "dA705 FdA706 HdA707 JdA708 KdA709 LdA709-2 L2e3 L3e4 ",
      "L4e6 L6dA710 WdA711 XdA712 YdA713 OMEGAdA714 ABB",
      "dA715 BBdA717 DDdA726 EYYYdA732 JE"]⟩,
    ⟨0x10760, ["aLINEAR A SIGN A800dA801dA802dA803dA804dA805",
      "dA806dA807"]⟩,
    ⟨0x10780, ["aMODIFIER LETTER SMALL CAPITAL AA",
      "cSUPERSCRIPT TRIANGULAR COLONdHALF TRIANGULAR COLON",
      "cSMALL AEdCAPITAL BdB WITH HOOK"]⟩,
    ⟨0x10787, ["aMODIFIER LETTER SMALL DZ DIGRAPHeDIGRAPH ",
      "WITH RETROFLEX HOOKgCURLdDEZH DIGRAPHdD WITH TAIL",
      "fHOOKfHOOK AND TAILdREVERSED EdCLOSED REVERSED OPEN E",
      "dFENG DIGRAPHdRAMS HORNdCAPITAL GdG WITH HOOK",
      "dCAPITAL G WITH HOOKdH WITH STROKEdCAPITAL HdHENG ",
      "WITH HOOKdDOTLESS J WITH STROKE AND HOOKdLS DIGRAPH",
      "dLZ DIGRAPHdL WITH BELTdCAPITAL L WITH BELTdL WITH ",
      "RETROFLEX HOOK AND BELTdLEZHdLEZH WITH RETROFLEX HOOK",
      "dTURNED YeY WITH BELTdO WITH STROKEdCAPITAL OE",
      "dCLOSED OMEGAdQdTURNED R WITH LONG LEGhLEG AND ",
      "RETROFLEX HOOKdR WITH TAILfFISHHOOKdCAPITAL RdTC ",
      "DIGRAPH WITH CURLdTS DIGRAPHeDIGRAPH WITH RETROFLEX ",
      "HOOKdTESH DIGRAPHdT WITH RETROFLEX HOOKdV WITH RIGHT ",
      "HOOK"]⟩,
    ⟨0x107B2, ["aMODIFIER LETTER SMALL CAPITAL YcGLOTTAL ",
      "STOP WITH STROKEcREVERSED GLOTTAL STOP WITH STROKE",
      "cBILABIAL CLICKcDENTAL CLICKcLATERAL CLICKcALVEOLAR ",
      "CLICKcRETROFLEX CLICK WITH RETROFLEX HOOKcSMALL S ",
      "WITH CURL"]⟩,
    ⟨0x10800, ["aCYPRIOT SYLLABLE AcEcIcOcUcJA"]⟩,
    ⟨0x10808, ["aCYPRIOT SYLLABLE JO"]⟩,
    ⟨0x1080A, ["aCYPRIOT SYLLABLE KAcKEcKIcKOcKUcLAcLEcLIcLO",
      "cLUcMAcMEcMIcMOcMUcNAcNEcNIcNOcNUcPAcPEcPIcPOcPUcRA",
      "cREcRIcROcRUcSAcSEcSIcSOcSUcTAcTEcTIcTOcTUcWAcWEcWI",
      "cWO"]⟩,
    ⟨0x10837, ["aCYPRIOT SYLLABLE XAcXE"]⟩,
    ⟨0x1083C, ["aCYPRIOT SYLLABLE ZA"]⟩,
    ⟨0x1083F, ["aCYPRIOT SYLLABLE ZOaIMPERIAL ARAMAIC ",
      "LETTER ALEPHdBETHdGIMELdDALETHdHEdWAWdZAYINdHETHdTETH",
      "dYODHdKAPHdLAMEDHdMEMdNUNdSAMEKHdAYINdPEdSADHEdQOPH",
      "dRESHdSHINdTAW"]⟩,
    ⟨0x10857, ["aIMPERIAL ARAMAIC SECTION SIGNcNUMBER ONE",
      "dTWOdTHREEdTENdTWENTYdONE HUNDREDeTHOUSANDdTEN ",
      "THOUSANDaPALMYRENE LETTER ALEPHcBETHcGIMELcDALETHcHE",
      "cWAWcZAYINcHETHcTETHcYODHcKAPHcLAMEDHcMEMcFINAL NUN",
      "cNUNcSAMEKHcAYINcPEcSADHEcQOPHcRESHcSHINcTAWbLEFT-",
      "POINTING FLEURONbRIGHT-POINTING FLEURONbNUMBER ONE",
      "cTWOcTHREEcFOURcFIVEcTENcTWENTYaNABATAEAN LETTER ",
      "FINAL ALEPHcALEPHcFINAL BETHcBETHcGIMELcDALETHcFINAL ",
      "HEcHEcWAWcZAYINcHETHcTETHcFINAL YODHcYODHcFINAL KAPH",
      "cKAPHcFINAL LAMEDHcLAMEDHcFINAL MEMcMEMcFINAL NUNcNUN",
      "cSAMEKHcAYINcPEcSADHEcQOPHcRESHcFINAL SHINcSHINcTAW"]⟩,
    ⟨0x108A7, ["aNABATAEAN NUMBER ONEcTWOcTHREEcFOUR",
      "bCRUCIFORM NUMBER FOURbNUMBER FIVEcTENcTWENTYcONE ",
      "HUNDRED"]⟩,
    ⟨0x108E0, ["aHATRAN LETTER ALEPHcBETHcGIMELcDALETH-RESH",
      "cHEcWAWcZAYNcHETHcTETHcYODHcKAPHcLAMEDHcMEMcNUN",
      "cSAMEKHcAYNcPEcSADHEcQOPH"]⟩,
    ⟨0x108F4, ["aHATRAN LETTER SHINcTAW"]⟩,
    ⟨0x108FB, ["aHATRAN NUMBER ONEcFIVEcTENcTWENTYcONE ",
      "HUNDREDaPHOENICIAN LETTER ALFcBETcGAMLcDELTcHEcWAU",
      "cZAIcHETcTETcYODcKAFcLAMDcMEMcNUNcSEMKcAINcPEcSADE",
      "cQOFcROSHcSHINcTAUbNUMBER ONEcTENcTWENTYcONE HUNDRED",
      "cTWOcTHREE"]⟩,
    ⟨0x1091F, ["aPHOENICIAN WORD SEPARATORaLYDIAN LETTER AcB",
      "cGcDcEcVcIcYcKcLcMcNcOcRcSScTcUcFcQcScTTcANcENcLYcNN",
      "cC"]⟩,
    ⟨0x1093F, ["aLYDIAN TRIANGULAR MARK"]⟩,
    ⟨0x10980, ["aMEROITIC HIEROGLYPHIC LETTER AdEdIdOdYAdWA",
      "dBAdBA-2dPAdMAdNAdNA-2dNEdNE-2dRAdRA-2dLAdKHAdHHAdSA",
      "dSA-2dSEdKAdQAdTAdTA-2dTEdTE-2dTOdDAcSYMBOL VIDJ",
      "dVIDJ-2bCURSIVE LETTER AdEdIdOdYAdWAdBAdPAdMAdNAdNE",
      "dRAdLAdKHAdHHAdSAdARCHAIC SAdSEdKAdQAdTAdTEdTOdDA"]⟩,
    ⟨0x109BC, ["aMEROITIC CURSIVE FRACTION ELEVEN TWELFTHS",
      "dONE HALFcLOGOGRAM RMTdIMNcNUMBER ONEdTWOdTHREEdFOUR",
      "dFIVEdSIXdSEVENdEIGHTdNINEdTENdTWENTYdTHIRTYdFORTY",
      "dFIFTYdSIXTYdSEVENTY"]⟩,
    ⟨0x109D2, ["aMEROITIC CURSIVE NUMBER ONE HUNDREDdTWO ",
      "HUNDREDdTHREE HUNDREDdFOUR HUNDREDdFIVE HUNDREDdSIX ",
      "HUNDREDdSEVEN HUNDREDdEIGHT HUNDREDdNINE HUNDREDdONE ",
      "THOUSANDdTWO THOUSANDdTHREE THOUSANDdFOUR THOUSAND",
      "dFIVE THOUSANDdSIX THOUSANDdSEVEN THOUSANDdEIGHT ",
      "THOUSANDdNINE THOUSANDdTEN THOUSANDdTWENTY THOUSAND",
      "dTHIRTY THOUSANDdFORTY THOUSANDdFIFTY THOUSANDdSIXTY ",
      "THOUSANDdSEVENTY THOUSANDdEIGHTY THOUSANDdNINETY ",
      "THOUSANDdONE HUNDRED THOUSANDdTWO HUNDRED THOUSAND",
      "dTHREE HUNDRED THOUSANDdFOUR HUNDRED THOUSANDdFIVE ",
      "HUNDRED THOUSANDdSIX HUNDRED THOUSANDdSEVEN HUNDRED ",
      "THOUSANDdEIGHT HUNDRED THOUSANDdNINE HUNDRED THOUSAND",
      "cFRACTION ONE TWELFTHdTWO TWELFTHSdTHREE TWELFTHS",
      "dFOUR TWELFTHSdFIVE TWELFTHSdSIX TWELFTHSdSEVEN ",
      "TWELFTHSdEIGHT TWELFTHSdNINE TWELFTHSdTEN TWELFTHS",
      "aKHAROSHTHI LETTER AbVOWEL SIGN IdUdVOCALIC R"]⟩,
    ⟨0x10A05, ["aKHAROSHTHI VOWEL SIGN EdO"]⟩,
    ⟨0x10A0C, ["aKHAROSHTHI VOWEL LENGTH MARKbSIGN DOUBLE ",
      "RING BELOWcANUSVARAcVISARGAbLETTER KAcKHAcGAcGHA"]⟩,
    ⟨0x10A15, ["aKHAROSHTHI LETTER CAcCHAcJA"]⟩,
    ⟨0x10A19, ["aKHAROSHTHI LETTER NYAcTTAcTTHAcDDAcDDHAcNNA",
      "cTAcTHAcDAcDHAcNAcPAcPHAcBAcBHAcMAcYAcRAcLAcVAcSHA",
      "cSSAcSAcZAcHAcKKAcTTTHAcTTTAcVHA"]⟩,
    ⟨0x10A38, ["aKHAROSHTHI SIGN BAR ABOVEcCAUDAcDOT BELOW"]⟩,
    ⟨0x10A3F, ["aKHAROSHTHI VIRAMAbDIGIT ONEcTWOcTHREEcFOUR",
      "bNUMBER TENcTWENTYcONE HUNDREDdTHOUSANDbFRACTION ONE ",
      "HALF"]⟩,
    ⟨0x10A50, ["aKHAROSHTHI PUNCTUATION DOTcSMALL CIRCLE",
      "cCIRCLEcCRESCENT BARcMANGALAMcLOTUScDANDAcDOUBLE ",
      "DANDAcLINES"]⟩,
    ⟨0x10A60, ["aOLD SOUTH ARABIAN LETTER HEeLAMEDHeHETHeMEM",
      "eQOPHeWAWeSHINeRESHeBETHeTAWeSATeKAPHeNUNeKHETHeSADHE",
      "eSAMEKHeFEeALEFeAYNeDHADHEeGIMELeDALETHeGHAYNeTETH",
      "eZAYNeDHALETHeYODHeTHAWeTHETHdNUMBER ONEeFIFTY",
      "dNUMERIC INDICATORbNORTH ARABIAN LETTER HEHeLAMeHAH",
      "eMEEMeQAFeWAWeES-2eREHeBEHeTEHeES-1eKAFeNOONeKHAHeSAD",
      "eES-3eFEHeALEFeAINeDADeGEEMeDALeGHAINeTAHeZAINeTHAL",
      "eYEHeTHEHeZAHdNUMBER ONEeTENeTWENTY"]⟩,
    ⟨0x10AC0, ["aMANICHAEAN LETTER ALEPHcBETHcBHETHcGIMEL",
      "cGHIMELcDALETHcHEcWAWbSIGN UDbLETTER ZAYINcZHAYIN",
      "cJAYINcJHAYINcHETHcTETHcYODHcKAPHcXAPHcKHAPHcLAMEDH",
      "cDHAMEDHcTHAMEDHcMEMcNUNcSAMEKHcAYINcAAYINcPEcFE",
      "cSADHEcQOPHcXOPHcQHOPHcRESHcSHINcSSHINcTAW",
      "bABBREVIATION MARK ABOVEdBELOW"]⟩,
    ⟨0x10AEB, ["aMANICHAEAN NUMBER ONEcFIVEcTENcTWENTYcONE ",
      "HUNDREDbPUNCTUATION STARcFLEURONcDOUBLE DOT WITHIN ",
      "DOTcDOT WITHIN DOTcDOTcTWO DOTScLINE FILLER"]⟩,
    ⟨0x10B00, ["aAVESTAN LETTER AcAAcAOcAAOcANcAANcAEcAEEcE",
      "cEEcOcOOcIcIIcUcUUcKEcXEcXYEcXVEcGEcGGEcGHEcCEcJEcTE",
      "cTHEcDEcDHEcTTEcPEcFEcBEcBHEcNGEcNGYEcNGVEcNEcNYEcNNE",
      "cMEcHMEcYYEcYEcVEcREcLEcSEcZEcSHEcZHEcSHYEcSSHEcHE"]⟩,
    ⟨0x10B39, ["aAVESTAN ABBREVIATION MARKaTINY TWO DOTS ",
      "OVER ONE DOT PUNCTUATIONaSMALL TWO DOTS OVER ONE DOT ",
      "PUNCTUATIONaLARGE TWO DOTS OVER ONE DOT PUNCTUATION",
      "bONE DOT OVER TWO DOTS PUNCTUATIONbTWO RINGS OVER ",
      "ONE RING PUNCTUATIONbONE RING OVER TWO RINGS ",
      "PUNCTUATIONaINSCRIPTIONAL PARTHIAN LETTER ALEPHdBETH",
      "dGIMELdDALETHdHEdWAWdZAYINdHETHdTETHdYODHdKAPHdLAMEDH",
      "dMEMdNUNdSAMEKHdAYINdPEdSADHEdQOPHdRESHdSHINdTAW"]⟩,
    ⟨0x10B58, ["aINSCRIPTIONAL PARTHIAN NUMBER ONEdTWOdTHREE",
      "dFOURdTENdTWENTYdONE HUNDREDeTHOUSANDbPAHLAVI LETTER ",
      "ALEPHdBETHdGIMELdDALETHdHEdWAW-AYIN-RESHdZAYINdHETH",
      "dTETHdYODHdKAPHdLAMEDHdMEM-QOPHdNUNdSAMEKHdPEdSADHE",
      "dSHINdTAW"]⟩,
    ⟨0x10B78, ["aINSCRIPTIONAL PAHLAVI NUMBER ONEdTWOdTHREE",
      "dFOURdTENdTWENTYdONE HUNDREDeTHOUSANDaPSALTER ",
      "PAHLAVI LETTER ALEPHdBETHdGIMELdDALETHdHEdWAW-AYIN-",
      "RESHdZAYINdHETHdYODHdKAPHdLAMEDHdMEM-QOPHdNUNdSAMEKH",
      "dPEdSADHEdSHINdTAW"]⟩,
    ⟨0x10B99, ["aPSALTER PAHLAVI SECTION MARKcTURNED ",
      "SECTION MARKcFOUR DOTS WITH CROSSfDOT"]⟩,
    ⟨0x10BA9, ["aPSALTER PAHLAVI NUMBER ONEdTWOdTHREEdFOUR",
      "dTENdTWENTYdONE HUNDRED"]⟩,
    ⟨0x10C00, ["aOLD TURKIC LETTER ORKHON AdYENISEI AeAE",
      "dORKHON IdYENISEI IeEdORKHON OeOEdYENISEI OEdORKHON ",
      "ABdYENISEI ABdORKHON AEBdYENISEI AEBdORKHON AG",
      "dYENISEI AGdORKHON AEGdYENISEI AEGdORKHON ADdYENISEI ",
      "ADdORKHON AEDeEZdYENISEI EZdORKHON AYdYENISEI AY",
      "dORKHON AEYdYENISEI AEYdORKHON AEKdYENISEI AEK",
      "dORKHON OEKdYENISEI OEKdORKHON ALdYENISEI ALdORKHON ",
      "AELeELTeEMeANeAENdYENISEI AENdORKHON ENTdYENISEI ENT",
      "dORKHON ENCdYENISEI ENCdORKHON ENYdYENISEI ENYeANG",
      "dORKHON ENGdYENISEI AENGdORKHON EPeOPeICeECdYENISEI ",
      "ECdORKHON AQdYENISEI AQdORKHON IQdYENISEI IQdORKHON ",
      "OQdYENISEI OQdORKHON ARdYENISEI ARdORKHON AEReASeAES",
      "eASHdYENISEI ASHdORKHON ESHdYENISEI ESHdORKHON AT",
      "dYENISEI ATdORKHON AETdYENISEI AETdORKHON OTeBASH"]⟩,
    ⟨0x10C80, ["aOLD HUNGARIAN CAPITAL LETTER AeAAeEBeAMBeEC",
      "eENCeECSeEDeANDeEeCLOSE EeEEeEFeEGeEGYeEHeIeIIeEJeEK",
      "eAKeUNKeELeELYeEMeENeENYeOeOOeNIKOLSBURG OE",
      "eRUDIMENTA OEeOEEeEPeEMPeEReSHORT EReESeESZeETeENT",
      "eETYeECHeUeUUeNIKOLSBURG UEeRUDIMENTA UEeEVeEZeEZS",
      "eENT-SHAPED SIGNeUS"]⟩,
    ⟨0x10CC0, ["aOLD HUNGARIAN SMALL LETTER AeAAeEBeAMBeEC",
      "eENCeECSeEDeANDeEeCLOSE EeEEeEFeEGeEGYeEHeIeIIeEJeEK",
      "eAKeUNKeELeELYeEMeENeENYeOeOOeNIKOLSBURG OE",
      "eRUDIMENTA OEeOEEeEPeEMPeEReSHORT EReESeESZeETeENT",
      "eETYeECHeUeUUeNIKOLSBURG UEeRUDIMENTA UEeEVeEZeEZS",
      "eENT-SHAPED SIGNeUS"]⟩,
    ⟨0x10CFA, ["aOLD HUNGARIAN NUMBER ONEdFIVEdTENdFIFTY",
      "dONE HUNDREDeTHOUSANDaHANIFI ROHINGYA LETTER AdBAdPA",
      "dTAdTTAdJAdCAdHAdKHAdFAdDAdDDAdRAdRRAdZAdSAdSHAdKAdGA",
      "dLAdMAdNAdWAdKINNA WAdYAdKINNA YAdNGAdNYAdVAcVOWEL A",
      "dIdUdEdOcMARK SAKINdNA KHONNAcSIGN HARBAHAYdTAHALA",
      "dTANAdTASSI"]⟩,
    ⟨0x10D30, ["aHANIFI ROHINGYA DIGIT ZEROdONEdTWOdTHREE",
      "dFOURdFIVEdSIXdSEVENdEIGHTdNINE"]⟩,
    ⟨0x10E60, ["aRUMI DIGIT ONEcTWOcTHREEcFOURcFIVEcSIX",
      "cSEVENcEIGHTcNINEbNUMBER TENcTWENTYcTHIRTYcFORTY",
      "cFIFTYcSIXTYcSEVENTYcEIGHTYcNINETYcONE HUNDREDcTWO ",
      "HUNDREDcTHREE HUNDREDcFOUR HUNDREDcFIVE HUNDREDcSIX ",
      "HUNDREDcSEVEN HUNDREDcEIGHT HUNDREDcNINE HUNDRED",
      "bFRACTION ONE HALFdQUARTERdTHIRDcTWO THIRDS"]⟩,
    ⟨0x10E80, ["aYEZIDI LETTER ELIFcBEcPEcPHEcTHEcSEcCIM",
      "cCHIMcCHHIMcHHAcXAcDALcZALcRAcRHAcZAcJAcSINcSHINcSAD",
      "cDADcTAcZEcEYNcXHEYNcFAcVAcVA ALTERNATE FORMcQAFcKAF",
      "cKHAFcGAFcLAMcMIMcNUNcUMcWAWcOWcEWcHAYcYOTcET"]⟩,
    ⟨0x10EAB, ["aYEZIDI COMBINING HAMZA MARKcMADDA MARK",
      "bHYPHENATION MARK"]⟩,
    ⟨0x10EB0, ["aYEZIDI LETTER LAM WITH DOT ABOVEcYOT WITH ",
      "CIRCUMFLEX ABOVE"]⟩,
    ⟨0x10EFD, ["aARABIC SMALL LOW WORD SAKTAeQASReMADDAaOLD ",
      "SOGDIAN LETTER ALEPHdFINAL ALEPHdBETHdFINAL BETH",
      "dGIMELdHEdFINAL HEdWAWdZAYINdHETHdYODHdKAPHdLAMEDH",
      "dMEMdNUNdFINAL NUNeNUN WITH VERTICAL TAILdSAMEKHdAYIN",
      "dALTERNATE AYINdPEdSADHEdFINAL SADHEeSADHE WITH ",
      "VERTICAL TAILdRESH-AYIN-DALETHdSHINdTAWdFINAL TAW",
      "eTAW WITH VERTICAL TAILcNUMBER ONEdTWOdTHREEdFOUR",
      "dFIVEdTENdTWENTYdTHIRTYdONE HUNDREDcFRACTION ONE HALF",
      "cLIGATURE AYIN-DALETH"]⟩,
    ⟨0x10F30, ["aSOGDIAN LETTER ALEPHcBETHcGIMELcHEcWAW",
      "cZAYINcHETHcYODHcKAPHcLAMEDHcMEMcNUNcSAMEKHcAYINcPE",
      "cSADHEcRESH-AYINcSHINcTAWcFETHcLESHbINDEPENDENT SHIN",
      "bCOMBINING DOT BELOWcTWO DOTS BELOWcDOT ABOVEcTWO ",
      "DOTS ABOVEcCURVE ABOVEdBELOWcHOOK ABOVEdBELOWcLONG ",
      "HOOK BELOWcRESH BELOWcSTROKE BELOWbNUMBER ONEcTEN",
      "cTWENTYcONE HUNDREDbPUNCTUATION TWO VERTICAL BARS",
      "eBARS WITH DOTScCIRCLE WITH DOTcTWO CIRCLES WITH DOTS",
      "cHALF CIRCLE WITH DOT"]⟩,
    ⟨0x10F70, ["aOLD UYGHUR LETTER ALEPHdBETHdGIMEL-HETHdWAW",
      "dZAYINdFINAL HETHdYODHdKAPHdLAMEDHdMEMdNUNdSAMEKHdPE",
      "dSADHEdRESHdSHINdTAWdLESHcCOMBINING DOT ABOVEeBELOW",
      "dTWO DOTS ABOVEfBELOWcPUNCTUATION BARdTWO BARSeDOTS",
      "dFOUR DOTS"]⟩,
    ⟨0x10FB0, ["aCHORASMIAN LETTER ALEPHcSMALL ALEPHcBETH",
      "cGIMELcDALETHcHEcWAWcCURLED WAWcZAYINcHETHcYODHcKAPH",
      "cLAMEDHcMEMcNUNcSAMEKHcAYINcPEcRESHcSHINcTAWbNUMBER ",
      "ONEcTWOcTHREEcFOURcTENcTWENTYcONE HUNDRED"]⟩,
    ⟨0x10FE0, ["aELYMAIC LETTER ALEPHcBETHcGIMELcDALETHcHE",
      "cWAWcZAYINcHETHcTETHcYODHcKAPHcLAMEDHcMEMcNUNcSAMEKH",
      "cAYINcPEcSADHEcQOPHcRESHcSHINcTAWbLIGATURE ZAYIN-YODH"]⟩]

end SigCheck
