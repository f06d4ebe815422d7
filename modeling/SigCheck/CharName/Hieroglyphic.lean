import SigCheck.CharName.Run

/-
  Names of wedges, hieroglyphs and components, from U+12400
  to U+1BFFF.

  Key definitions include:
    * `CharName.hieroglyphic`
-/

namespace SigCheck

/- The runs of these names. -/
def CharName.hieroglyphic : List NameRun :=
  [⟨0x12400, ["aCUNEIFORM NUMERIC SIGN TWO ASHdTHREE ASH",
      "dFOUR ASHdFIVE ASHdSIX ASHdSEVEN ASHdEIGHT ASHdNINE ",
      "ASHdTHREE DISHdFOUR DISHdFIVE DISHdSIX DISHdSEVEN ",
      "DISHdEIGHT DISHdNINE DISHdFOUR UdFIVE UdSIX UdSEVEN U",
      "dEIGHT UdNINE UdONE GESH2dTWO GESH2dTHREE GESH2dFOUR ",
      "GESH2dFIVE GESH2dSIX GESH2dSEVEN GESH2dEIGHT GESH2",
      "dNINE GESH2dONE GESHUdTWO GESHUdTHREE GESHUdFOUR ",
      "GESHUdFIVE GESHUdTWO SHAR2dTHREE SHAR2eSHAR2 VARIANT ",
      "FORMdFOUR SHAR2dFIVE SHAR2dSIX SHAR2dSEVEN SHAR2",
      "dEIGHT SHAR2dNINE SHAR2dONE SHARUdTWO SHARUdTHREE ",
      "SHARUeSHARU VARIANT FORMdFOUR SHARUdFIVE SHARUdSHAR2 ",
      "TIMES GAL PLUS DISHhMINdONE BURUdTWO BURUdTHREE BURU",
      "eBURU VARIANT FORMdFOUR BURUdFIVE BURUdTHREE VARIANT ",
      "FORM ESH16gESH21dFOUR VARIANT FORM LIMMUgLIMMU4",
      "gLIMMU AhBdSIX VARIANT FORM ASH9dSEVEN VARIANT FORM ",
      "IMIN3gIMIN AhBdEIGHT VARIANT FORM USSUgUSSU3dNINE ",
      "VARIANT FORM ILIMMUgILIMMU3gILIMMU4gILIMMU AdTWO ASH ",
      "TENUdTHREE ASH TENUdFOUR ASH TENUdFIVE ASH TENUdSIX ",
      "ASH TENUdONE BAN2dTWO BAN2dTHREE BAN2dFOUR BAN2eBAN2 ",
      "VARIANT FORMdFIVE BAN2eBAN2 VARIANT FORMdNIGIDAMIN",
      "dNIGIDAESHdONE ESHE3dTWO ESHE3dONE THIRD DISHdTWO ",
      "THIRDS DISHdFIVE SIXTHS DISHdONE THIRD VARIANT FORM A",
      "dTWO THIRDS VARIANT FORM AdONE EIGHTH ASHeQUARTER ASH",
      "dOLD ASSYRIAN ONE SIXTHgQUARTERdONE QUARTER GUReHALF ",
      "GURdELAMITE ONE THIRDeTWO THIRDSeFORTYeFIFTYdFOUR U ",
      "VARIANT FORMdFIVE U VARIANT FORMdSIX U VARIANT FORM",
      "dSEVEN U VARIANT FORMdEIGHT U VARIANT FORMdNINE U ",
      "VARIANT FORM"]⟩,
    ⟨0x12470, ["aCUNEIFORM PUNCTUATION SIGN OLD ASSYRIAN ",
      "WORD DIVIDERdVERTICAL COLONdDIAGONAL COLONeTRICOLON",
      "eQUADCOLON"]⟩,
    ⟨0x12480, ["aCUNEIFORM SIGN AB TIMES NUN TENUeSHU2cAD ",
      "TIMES ESH2cBAD TIMES DISH TENUcBAHAR2 TIMES AB2eNIeZA",
      "cBU OVER BU TIMES NA2cDA TIMES TAK4cDAG TIMES KUR",
      "cDIM TIMES IGIeU U UcDIM2 TIMES UDcDUG TIMES ANSHE",
      "eASHeASH AT LEFTeDINeDUNeERIN2eGAeGIeGIR2 GUNUeGISH",
      "eHAeHIeIGI GUNUeKASKALeKUReKUSHU2eKUSHU2 PLUS KASKAL",
      "eLAK-020eLAMeLAM TIMES KUReLUH PLUS GISHeMASHeMESeMI",
      "eNIePIeSHEeSI GUNUcE2 TIMES KURePAPcERIN2 XcESH2 ",
      "CROSSING ESH2cEZEN SHESHIG TIMES ASHfHIfIGI GUNUfLA",
      "fLALfMEfMESfSUdTIMES SUcGA2 TIMES BAHAR2eDIM GUNU",
      "eDUG TIMES IGI GUNUgKASKALeERENeGAeGAR PLUS DIgNEeHA ",
      "PLUS AeKUSHU2 PLUS KASKALeLAMeLAM TIMES KUReLUHeMUSH",
      "eNEeNE PLUS E2gGIeSHIMeZIZ2cGABA ROTATED NINETY ",
      "DEGREEScGESHTIN TIMES UcGISH TIMES GISH CROSSING GISH",
      "cGU2 TIMES IGI GUNUcGUD PLUS GISH TIMES TAK4cHA TENU ",
      "GUNUcHI TIMES ASH OVER HI TIMES ASHcKA TIMES BUeKAeU ",
      "U UeURcLAGAB TIMES ZU OVER ZUcLAK-003d021d025d030d050",
      "d051d062d079 OVER LAK-079 GUNUd080d081 OVER LAK-081",
      "d092d130d142d210d219d220d225d228d238d265d266d343d347",
      "d348d383d384d390d441d449d449 TIMES GUfIGIfPAP PLUS ",
      "LU3hPAP PLUS LU3fU2 PLUS BAd450d457d470d483d490d492",
      "d493d495d550d608d617d617 TIMES ASHfBADfDUN3 GUNU GUNU",
      "fKU3fLAfTARfTEfU2fUDfURUDAd636d648d648 TIMES DUBfGA",
      "fIGIfIGI GUNUfNIfPAP PLUS PAP PLUS LU3fSHESH PLUS KI",
      "fUDfURUDAd724d749cLU2 GUNU TIMES ASHdTIMES DISHeHAL",
      "ePAPePAP PLUS PAP PLUS LU3eTAK4cMI PLUS ZA7cMUSH ",
      "OVER MUSH TIMES GAgKAKcNINDA2 TIMES DIM GUNUeGISHeGUL",
      "eHIeKESH2eLAK-050eMASHePAP PLUS PAPeUeU PLUS UeURUDA",
      "cSAG GUNU TIMES HAdTIMES ENeSHE AT LEFTeTAK4cSHA6 ",
      "TENUcSHE OVER SHEdPLUS HUB2eNAM2eSARcSHU2 PLUS DUG ",
      "TIMES NIeE2 TIMES ANcSI TIMES TAK4cTAK4 PLUS SAGcTUM ",
      "TIMES GAN2 TENUeTHREE DISHcUR2 INVERTEDdTIMES UDcURU ",
      "TIMES DARA3eLAK-668eLU3cZA7cZU OVER ZU PLUS SARcZU5 ",
      "TIMES THREE DISH TENU"]⟩,
    ⟨0x12F90, ["aCYPRO-MINOAN SIGN CM001dCM002dCM004dCM005",
      "dCM006dCM007dCM008dCM009dCM010dCM011dCM012dCM012B",
      "dCM013dCM015dCM017dCM019dCM021dCM023dCM024dCM025",
      "dCM026dCM027dCM028dCM029dCM030dCM033dCM034dCM035",
      "dCM036dCM037dCM038dCM039dCM040dCM041dCM044dCM046",
      "dCM047dCM049dCM050dCM051dCM052dCM053dCM054dCM055",
      "dCM056dCM058dCM059dCM060dCM061dCM062dCM063dCM064",
      "dCM066dCM067dCM068dCM069dCM070dCM071dCM072dCM073",
      "dCM074dCM075dCM075BdCM076dCM078dCM079dCM080dCM081",
      "dCM082dCM083dCM084dCM085dCM086dCM087dCM088dCM089",
      "dCM090dCM091dCM092dCM094dCM095dCM096dCM097dCM098",
      "dCM099dCM100dCM101dCM102dCM103dCM104dCM105dCM107",
      "dCM108dCM109dCM110dCM112dCM114dCM301dCM302"]⟩,
    ⟨0x13000, ["aEGYPTIAN HIEROGLYPH A001cA002cA003cA004",
      "cA005cA005AcA006cA006AcA006BcA007cA008cA009cA010cA011",
      "cA012cA013cA014cA014AcA015cA016cA017cA017AcA018cA019",
      "cA020cA021cA022cA023cA024cA025cA026cA027cA028cA029",
      "cA030cA031cA032cA032AcA033cA034cA035cA036cA037cA038",
      "cA039cA040cA040AcA041cA042cA042AcA043cA043AcA044cA045",
      "cA045AcA046cA047cA048cA049cA050cA051cA052cA053cA054",
      "cA055cA056cA057cA058cA059cA060cA061cA062cA063cA064",
      "cA065cA066cA067cA068cA069cA070cB001cB002cB003cB004",
      "cB005cB005AcB006cB007cB008cB009cC001cC002cC002AcC002B",
      "cC002CcC003cC004cC005cC006cC007cC008cC009cC010cC010A",
      "cC011cC012cC013cC014cC015cC016cC017cC018cC019cC020",
      "cC021cC022cC023cC024cD001cD002cD003cD004cD005cD006",
      "cD007cD008cD008AcD009cD010cD011cD012cD013cD014cD015",
      "cD016cD017cD018cD019cD020cD021cD022cD023cD024cD025",
      "cD026cD027cD027AcD028cD029cD030cD031cD031AcD032cD033",
      "cD034cD034AcD035cD036cD037cD038cD039cD040cD041cD042",
      "cD043cD044cD045cD046cD046AcD047cD048cD048AcD049cD050",
      "cD050AcD050BcD050CcD050DcD050EcD050FcD050GcD050H",
      "cD050IcD051cD052cD052AcD053cD054cD054AcD055cD056cD057",
      "cD058cD059cD060cD061cD062cD063cD064cD065cD066cD067",
      "cD067AcD067BcD067CcD067DcD067EcD067FcD067GcD067HcE001",
      "cE002cE003cE004cE005cE006cE007cE008cE008AcE009cE009A",
      "cE010cE011cE012cE013cE014cE015cE016cE016AcE017cE017A",
      "cE018cE019cE020cE020AcE021cE022cE023cE024cE025cE026",
      "cE027cE028cE028AcE029cE030cE031cE032cE033cE034cE034A",
      "cE036cE037cE038cF001cF001AcF002cF003cF004cF005cF006",
      "cF007cF008cF009cF010cF011cF012cF013cF013AcF014cF015",
      "cF016cF017cF018cF019cF020cF021cF021AcF022cF023cF024",
      "cF025cF026cF027cF028cF029cF030cF031cF031AcF032cF033",
      "cF034cF035cF036cF037cF037AcF038cF038AcF039cF040cF041",
      "cF042cF043cF044cF045cF045AcF046cF046AcF047cF047AcF048",
      "cF049cF050cF051cF051AcF051BcF051CcF052cF053cG001cG002",
      "cG003cG004cG005cG006cG006AcG007cG007AcG007BcG008cG009",
      "cG010cG011cG011AcG012cG013cG014cG015cG016cG017cG018",
      "cG019cG020cG020AcG021cG022cG023cG024cG025cG026cG026A",
      "cG027cG028cG029cG030cG031cG032cG033cG034cG035cG036",
      "cG036AcG037cG037AcG038cG039cG040cG041cG042cG043cG043A",
      "cG044cG045cG045AcG046cG047cG048cG049cG050cG051cG052",
      "cG053cG054cH001cH002cH003cH004cH005cH006cH006AcH007",
      "cH008cI001cI002cI003cI004cI005cI005AcI006cI007cI008",
      "cI009cI009AcI010cI010AcI011cI011AcI012cI013cI014cI015",
      "cK001cK002cK003cK004cK005cK006cK007cK008cL001cL002",
      "cL002AcL003cL004cL005cL006cL006AcL007cL008cM001cM001A",
      "cM001BcM002cM003cM003AcM004cM005cM006cM007cM008cM009",
      "cM010cM010AcM011cM012cM012AcM012BcM012CcM012DcM012E",
      "cM012FcM012GcM012HcM013cM014cM015cM015AcM016cM016A",
      "cM017cM017AcM018cM019cM020cM021cM022cM022AcM023cM024",
      "cM024AcM025cM026cM027cM028cM028AcM029cM030cM031cM031A",
      "cM032cM033cM033AcM033BcM034cM035cM036cM037cM038cM039",
      "cM040cM040AcM041cM042cM043cM044cN001cN002cN003cN004",
      "cN005cN006cN007cN008cN009cN010cN011cN012cN013cN014",
      "cN015cN016cN017cN018cN018AcN018BcN019cN020cN021cN022",
      "cN023cN024cN025cN025AcN026cN027cN028cN029cN030cN031",
      "cN032cN033cN033AcN034cN034AcN035cN035AcN036cN037",
      "cN037AcN038cN039cN040cN041cN042cNL001cNL002cNL003",
      "cNL004cNL005cNL005AcNL006cNL007cNL008cNL009cNL010",
      "cNL011cNL012cNL013cNL014cNL015cNL016cNL017cNL017A",
      "cNL018cNL019cNL020cNU001cNU002cNU003cNU004cNU005",
      "cNU006cNU007cNU008cNU009cNU010cNU010AcNU011cNU011A",
      "cNU012cNU013cNU014cNU015cNU016cNU017cNU018cNU018A",
      "cNU019cNU020cNU021cNU022cNU022AcO001cO001AcO002cO003",
      "cO004cO005cO005AcO006cO006AcO006BcO006CcO006DcO006E",
      "cO006FcO007cO008cO009cO010cO010AcO010BcO010CcO011",
      "cO012cO013cO014cO015cO016cO017cO018cO019cO019AcO020",
      "cO020AcO021cO022cO023cO024cO024AcO025cO025AcO026cO027",
      "cO028cO029cO029AcO030cO030AcO031cO032cO033cO033AcO034",
      "cO035cO036cO036AcO036BcO036CcO036DcO037cO038cO039",
      "cO040cO041cO042cO043cO044cO045cO046cO047cO048cO049",
      "cO050cO050AcO050BcO051cP001cP001AcP002cP003cP003A",
      "cP004cP005cP006cP007cP008cP009cP010cP011cQ001cQ002",
      "cQ003cQ004cQ005cQ006cQ007cR001cR002cR002AcR003cR003A",
      "cR003BcR004cR005cR006cR007cR008cR009cR010cR010AcR011",
      "cR012cR013cR014cR015cR016cR016AcR017cR018cR019cR020",
      "cR021cR022cR023cR024cR025cR026cR027cR028cR029cS001",
      "cS002cS002AcS003cS004cS005cS006cS006AcS007cS008cS009",
      "cS010cS011cS012cS013cS014cS014AcS014BcS015cS016cS017",
      "cS017AcS018cS019cS020cS021cS022cS023cS024cS025cS026",
      "cS026AcS026BcS027cS028cS029cS030cS031cS032cS033cS034",
      "cS035cS035AcS036cS037cS038cS039cS040cS041cS042cS043",
      "cS044cS045cS046cT001cT002cT003cT003AcT004cT005cT006",
      "cT007cT007AcT008cT008AcT009cT009AcT010cT011cT011A",
      "cT012cT013cT014cT015cT016cT016AcT017cT018cT019cT020",
      "cT021cT022cT023cT024cT025cT026cT027cT028cT029cT030",
      "cT031cT032cT032AcT033cT033AcT034cT035cT036cU001cU002",
      "cU003cU004cU005cU006cU006AcU006BcU007cU008cU009cU010",
      "cU011cU012cU013cU014cU015cU016cU017cU018cU019cU020",
      "cU021cU022cU023cU023AcU024cU025cU026cU027cU028cU029",
      "cU029AcU030cU031cU032cU032AcU033cU034cU035cU036cU037",
      "cU038cU039cU040cU041cU042cV001cV001AcV001BcV001C",
      "cV001DcV001EcV001FcV001GcV001HcV001IcV002cV002AcV003",
      "cV004cV005cV006cV007cV007AcV007BcV008cV009cV010cV011",
      "cV011AcV011BcV011CcV012cV012AcV012BcV013cV014cV015",
      "cV016cV017cV018cV019cV020cV020AcV020BcV020CcV020D",
      "cV020EcV020FcV020GcV020HcV020IcV020JcV020KcV020LcV021",
      "cV022cV023cV023AcV024cV025cV026cV027cV028cV028AcV029",
      "cV029AcV030cV030AcV031cV031AcV032cV033cV033AcV034",
      "cV035cV036cV037cV037AcV038cV039cV040cV040AcW001cW002",
      "cW003cW003AcW004cW005cW006cW007cW008cW009cW009AcW010",
      "cW010AcW011cW012cW013cW014cW014AcW015cW016cW017cW017A",
      "cW018cW018AcW019cW020cW021cW022cW023cW024cW024AcW025",
      "cX001cX002cX003cX004cX004AcX004BcX005cX006cX006AcX007",
      "cX008cX008AcY001cY001AcY002cY003cY004cY005cY006cY007",
      "cY008cZ001cZ002cZ002AcZ002BcZ002CcZ002DcZ003cZ003A",
      "cZ003BcZ004cZ004AcZ005cZ005AcZ006cZ007cZ008cZ009cZ010",
      "cZ011cZ012cZ013cZ014cZ015cZ015AcZ015BcZ015CcZ015D",
      "cZ015EcZ015FcZ015GcZ015HcZ015IcZ016cZ016AcZ016BcZ016C",
      "cZ016DcZ016EcZ016FcZ016GcZ016HcAA001cAA002cAA003",
      "cAA004cAA005cAA006cAA007cAA007AcAA007BcAA008cAA009",
      "cAA010cAA011cAA012cAA013cAA014cAA015cAA016cAA017",
      "cAA018cAA019cAA020cAA021cAA022cAA023cAA024cAA025",
      "cAA026cAA027cAA028cAA029cAA030cAA031cAA032cV011D",
      "cVERTICAL JOINERcHORIZONTAL JOINERcINSERT AT TOP ",
      "STARTeBOTTOM STARTeTOP ENDeBOTTOM ENDcOVERLAY MIDDLE",
      "cBEGIN SEGMENTcEND SEGMENTcINSERT AT MIDDLEeTOP",
      "eBOTTOMcBEGIN ENCLOSUREcEND ENCLOSUREcBEGIN WALLED ",
      "ENCLOSUREcEND WALLED ENCLOSUREcMIRROR HORIZONTALLY",
      "cFULL BLANKcHALF BLANKcLOST SIGNcHALF LOST SIGNcTALL ",
      "LOST SIGNcWIDE LOST SIGNcMODIFIER DAMAGED AT TOP ",
      "STARTfBOTTOM STARTfSTARTfTOP ENDfTOPfBOTTOM START ",
      "AND TOP ENDfSTART AND TOPfBOTTOM ENDfTOP START AND ",
      "BOTTOM ENDfBOTTOMfSTART AND BOTTOMfENDfTOP AND END",
      "fBOTTOM AND ENDdDAMAGED"]⟩,
    ⟨0x14400, ["aANATOLIAN HIEROGLYPH A001cA002cA003cA004",
      "cA005cA006cA007cA008cA009cA010cA010AcA011cA012cA013",
      "cA014cA015cA016cA017cA018cA019cA020cA021cA022cA023",
      "cA024cA025cA026cA026AcA027cA028cA029cA030cA031cA032",
      "cA033cA034cA035cA036cA037cA038cA039cA039AcA040cA041",
      "cA041AcA042cA043cA044cA045cA045AcA046cA046AcA046B",
      "cA047cA048cA049cA050cA051cA052cA053cA054cA055cA056",
      "cA057cA058cA059cA060cA061cA062cA063cA064cA065cA066",
      "cA066AcA066BcA066CcA067cA068cA069cA070cA071cA072cA073",
      "cA074cA075cA076cA077cA078cA079cA080cA081cA082cA083",
      "cA084cA085cA086cA087cA088cA089cA090cA091cA092cA093",
      "cA094cA095cA096cA097cA097AcA098cA098AcA099cA100cA100A",
      "cA101cA101AcA102cA102AcA103cA104cA104AcA104BcA104C",
      "cA105cA105AcA105BcA106cA107cA107AcA107BcA107CcA108",
      "cA109cA110cA110AcA110BcA111cA112cA113cA114cA115cA115A",
      "cA116cA117cA118cA119cA120cA121cA122cA123cA124cA125",
      "cA125AcA126cA127cA128cA129cA130cA131cA132cA133cA134",
      "cA135cA135AcA136cA137cA138cA139cA140cA141cA142cA143",
      "cA144cA145cA146cA147cA148cA149cA150cA151cA152cA153",
      "cA154cA155cA156cA157cA158cA159cA160cA161cA162cA163",
      "cA164cA165cA166cA167cA168cA169cA170cA171cA172cA173",
      "cA174cA175cA176cA177cA178cA179cA180cA181cA182cA183",
      "cA184cA185cA186cA187cA188cA189cA190cA191cA192cA193",
      "cA194cA195cA196cA197cA198cA199cA200cA201cA202cA202A",
      "cA202BcA203cA204cA205cA206cA207cA207AcA208cA209cA209A",
      "cA210cA211cA212cA213cA214cA215cA215AcA216cA216AcA217",
      "cA218cA219cA220cA221cA222cA223cA224cA225cA226cA227",
      "cA227AcA228cA229cA230cA231cA232cA233cA234cA235cA236",
      "cA237cA238cA239cA240cA241cA242cA243cA244cA245cA246",
      "cA247cA248cA249cA250cA251cA252cA253cA254cA255cA256",
      "cA257cA258cA259cA260cA261cA262cA263cA264cA265cA266",
      "cA267cA267AcA268cA269cA270cA271cA272cA273cA274cA275",
      "cA276cA277cA278cA279cA280cA281cA282cA283cA284cA285",
      "cA286cA287cA288cA289cA289AcA290cA291cA292cA293cA294",
      "cA294AcA295cA296cA297cA298cA299cA299AcA300cA301cA302",
      "cA303cA304cA305cA306cA307cA308cA309cA309AcA310cA311",
      "cA312cA313cA314cA315cA316cA317cA318cA319cA320cA321",
      "cA322cA323cA324cA325cA326cA327cA328cA329cA329AcA330",
      "cA331cA332AcA332BcA332CcA333cA334cA335cA336cA336A",
      "cA336BcA336CcA337cA338cA339cA340cA341cA342cA343cA344",
      "cA345cA346cA347cA348cA349cA350cA351cA352cA353cA354",
      "cA355cA356cA357cA358cA359cA359AcA360cA361cA362cA363",
      "cA364cA364AcA365cA366cA367cA368cA368AcA369cA370cA371",
      "cA371AcA372cA373cA374cA375cA376cA377cA378cA379cA380",
      "cA381cA381AcA382cA383 RA OR RIcA383AcA384cA385cA386",
      "cA386AcA387cA388cA389cA390cA391cA392cA393 EIGHTcA394",
      "cA395cA396cA397cA398cA399cA400cA401cA402cA403cA404",
      "cA405cA406cA407cA408cA409cA410 BEGIN LOGOGRAM MARK",
      "cA410A END LOGOGRAM MARKcA411cA412cA413cA414cA415",
      "cA416cA417cA418cA419cA420cA421cA422cA423cA424cA425",
      "cA426cA427cA428cA429cA430cA431cA432cA433cA434cA435",
      "cA436cA437cA438cA439cA440cA441cA442cA443cA444cA445",
      "cA446cA447cA448cA449cA450cA450AcA451cA452cA453cA454",
      "cA455cA456cA457cA457AcA458cA459cA460cA461cA462cA463",
      "cA464cA465cA466cA467cA468cA469cA470cA471cA472cA473",
      "cA474cA475cA476cA477cA478cA479cA480cA481cA482cA483",
      "cA484cA485cA486cA487cA488cA489cA490cA491cA492cA493",
      "cA494cA495cA496cA497cA501cA502cA503cA504cA505cA506",
      "cA507cA508cA509cA510cA511cA512cA513cA514cA515cA516",
      "cA517cA518cA519cA520cA521cA522cA523cA524cA525cA526",
      "cA527cA528cA529cA530"]⟩,
    ⟨0x16800, ["aBAMUM LETTER PHASE-A NGKUE MFONeGBIEE FON",
      "ePON MFON PIPAEMGBIEEgPIPAEMBAeNAA MFONeSHUENSHUET",
      "eTITA MFONeNZA MFONeSHINDA PA NJIePON PA NJI ",
      "PIPAEMGBIEEhPIPAEMBAeMAEMBGBIEEeTU MAEMBAeNGANGU",
      "eMAEMVEUXeMANSUAEeMVEUAENGAMeSEUNYAMeNTOQPEN",
      "eKEUKEUTNDAeNKINDIeSUUeNGKUENZEUMeLAPAQeLET KUTeNTAP ",
      "MFAAeMAEKEUPePASHAEeGHEUAERAEePAMSHAEeMON NGGEUAET",
      "eNZUN MEUTeU YUQ NAEeGHEUAEGHEUAEeNTAP NTAAeSISA",
      "eMGBASAeMEUNJOMNDEUQeMOOMPUQeKAFAePA LEERAEWAeNDA ",
      "LEERAEWAePETeMAEMKPENeNIKAePUPeTUAEPeLUAEPeSONJAM",
      "eTEUTEUWENeMAENYIeKETeNDAANGGEUAETeKUOQeMOOMEUTeSHUM",
      "eLOMMAEeFIRIeROMeKPOQeSOQeMAP PIEETeSHIRAEeNTAPeSHOQ ",
      "NSHUT YUMeNYIT MONGKEUAEQePAARAEeNKAARAEeUNKNOWN",
      "eNGGENeMAESIeNJAMeMBANYIeNYETeTEUAENeSOTePAAMeNSHIEE",
      "eMAEMeNYIeKAQeNSHAeVEEeLUeNENeNAQeMBAQdB NSHUETeTU ",
      "MAEMGBIEEeSIEEeSET TUeLOM NTEUMeMBA MAELEEeKIEEM",
      "eYEURAEeMBAARAEeKAMePEESHIeYAFU LEERAEWAeLAM NSHUT ",
      "NYAMeNTIEE SHEUOQeNDU NJAAeGHEUGHEUAEMePITeTU NSIEE",
      "eSHET NJAQeSHEUAEQTUeMFON TEUAEQeMBIT MBAAKETeNYI ",
      "NTEUMeKEUPUQeGHEUGHENeKEUYEUXeLAANAEePARUMeVEUM",
      "eNGKINDI MVOPeNGGEU MBUeWUAETeSAKEUAEeTAAMeMEUQ",
      "eNGGUOQeNGGUOQ LARGEeMFIYAQeSUEeMBEURIeMONTIEEN",
      "eNYAEMAEePUNGAAMeMEUT NGGEETeFEUXeMBUOQeFEEeKEUAEM",
      "eMA NJEUAENAfNJUQAeLETeNGGAAMeNSENeMAeKIQeNGOMdC ",
      "NGKUE MAEMBAeNZAeYUMeWANGKUOQeNGGENeNDEUAEREEeNGKAQ",
      "eGHARAEeMBEEKEETeGBAYIeNYIR MKPARAQ MEUNeNTU MBIT",
      "eMBEUMePIRIEENeNDOMBUeMBAA CABBAGE-TREEeKEUSHEUAEP",
      "eGHAPeKEUKAQeYU MUOMAEeNZEUMeMBUEeNSEUAENeMBITeYEUQ",
      "eKPARAQeKAAeSEUXeNDIDAeTAASHAEeNJUEQeTITA YUEeSUAET",
      "eNGGUAEN NYAMeVEUXeNANSANAQeMA KEUAERIeNTAAeNGGUON",
      "eLAPeMBIRIEENeMGBASAQeNTEUNGBAeTEUTEUXeNGGUMeFUE",
      "eNDEUTeNSAeNSHAQeBUNGeVEUAEPENeMBERAEeRUeNJAEMeLAM",
      "eTITUAEPeNSUOT NGOMeNJEEEEeKETeNGGUeMAESIeMBUAEMeLU",
      "eKUTeNJAMeNGOMeWUPeNGGUEETeNSOMeNTENeKUOP NKAARAE",
      "eNSUNeNDAMeMA NSIEEeYAAeNDAPeSHUEQeSETFONeMBIeMAEMBA",
      "eMBANYIeKEUSEUXeMBEUXeKEUMeMBAA PICKETeYUWOQeNJEUX",
      "eMIEEeMUAEeSHIQeKEN LAWfFATIGUEeNGAQeNAQeLIQePINePEN",
      "eTETdD MBUOeWAPeNJIeMFONeNJIEEeLIEEeNJEUTeNSHEE",
      "eNGGAAMAEeNYAMeWUAENeNGKUNeSHEEeNGKAPeKEUAETMEUNeTEUT",
      "eSHEUAEeNJAPeSUEeKETeYAEMMAEeKUOMeSAPeMFEUTeNDEUX",
      "eMALEERIeMEUTeSEUAEQeYENeNJEUAEMeKEUOT MBUAEeNGKEURI",
      "eTUeGHAAeNGKYEEeFEUFEUAETeNDEEeMGBOFUMeLEUAEPeNDON",
      "eMONIeMGBEUNePUUTeMGBIEEeMFOeLUMeNSIEEPeMBAAeKWAET",
      "eNYETeTEUAENeSOTeYUWOQeKEUMeRAEMeTEEEEeNGKEUAEQ",
      "eMFEUAEeNSIEETeKEUPePIPePEUTAEeNYUEeLETeNGGAAMeMFIEE",
      "eNGGWAENeYUOMePAPeYUOPeNDAMeNTEUMeSUAEeKUNeNGGEUX",
      "eNGKIEEeTUOTeMEUNeKUQeNSUMeTEUNeMAENJETeNGGAPeLEUM",
      "eNGGUOMeNSHUTeNJUEQeGHEUAEeKUeREN OLDeTAEeTOQeNYIeRII",
      "eLEEEEeMEEEEeMeSUUeMUeSHIIeSHEUXeKYEEeNUeSHUeNTEEePEE",
      "eNIeSHOQePUQeMVOPeLOQeREN MUCHeTIeNTUUeMBAA SEVENeSAQ",
      "eFAAdE NDAPeTOONeMBEUMeLAPeVOMeLOONePAAeSOMeRAQ",
      "eNSHUOPeNDUNePUAEeTAMeNGKAeKPEUXeWUOeSEEeNGGEUAET",
      "ePAAMeTOOeKUOPeLOMeNSHIEEeNGOPeMAEMeNGKEUXeNGOQeNSHUE",
      "eRIMGBAeNJEUXePEEMeSAAeNGGURAEeMGBAeGHEUXeNGKEUAEM",
      "eNJAEMLIeMAPeLOOTeNGGEEEEeNDIQeTAEN NTEUMeSETePUM",
      "eNDAA SOFTNESSeNGGUAESHAE NYAMeYIEEeGHEUNeTUAEeYEUAE",
      "ePOeTUMAEeKEUAEeSUAENeTEUAEQeVEUAEeWEUXeLAAMePUeTAAQ",
      "eGHAAMAEeNGEUREUTeSHEUAEQeMGBENeMBEEeNZAQeNKOMeGBET",
      "eTUMeKUETeYAPeNYI CLEAVEReYITeMFEUQeNDIAQePIEEQeYUEQ",
      "eLEUAEMeFUEeGBEUXeNGKUPeKETeMAEeNGKAAMIeGHETeFAeNTUM",
      "ePEUTeYEUMeNGGEUAEeNYI BETWEENeNZUQePOONeMIEEeFUET",
      "eNAEeMUAEeGHEUAEeFU IeMVIePUAQeNGKUMeKUTePIETeNTAP",
      "eYEUAETeNGGUPePA PEOPLEeFU CALLeFOMeNJEEeAeTOQeOeI",
      "eLAQePA PLURALeTAAeTAQeNDAA MY HOUSEeSHIQeYEUXeNGUAE",
      "eYUAENeYOQ SWIMMINGfCOVEReYUQeYUNeKEUXePEUXeNJEE ",
      "EPOCHePUEeWUEeFEEeVEEeLUeMIeREUXeRAEeNGUAETeNGAeSHO",
      "eSHOQeFU REMEDYeNAePIeLOQeKOeMENeMAeMAQeTEUeKIeMON",
      "eTENeFAQeGHOMdF KAeUeKUeEEeREEeTAEeNYIeLAeRIIeRIEE",
      "eMEEEEeTAAeNDAAeNJAEMeMeSUUeSHIIeSIeSEUXeKYEEeKET",
      "eNUAEeNUeNJUAEeYOQeSHUeYAeNSHAePEUXeNTEEeWUEePEEeRU",
      "eNIeREUXeKENeNGKWAENeNGGAeSHOePUAEeFOMeWAeLIeLOQeKO",
      "eMBENeRENeMAeMOeMBAAeTETeKPAeSAMBAeVUEQ"]⟩,
    ⟨0x16A40, ["aMRO LETTER TAcNGIcYOcMIMcBAcDAcAcPHIcKHAI",
      "cHAOcDAIcCHUcKEAAEcOLcMAEMcNINcPAcOOcOcROcSHIcTHEAcEA",
      "cWAcEcKOcLANcLAcHAIcRIcTEK"]⟩,
    ⟨0x16A60, ["aMRO DIGIT ZEROcONEcTWOcTHREEcFOURcFIVEcSIX",
      "cSEVENcEIGHTcNINE"]⟩,
    ⟨0x16A6E, ["aMRO DANDAbDOUBLE DANDAaTANGSA LETTER OZcOC",
      "cOQcOXcAZcACcAQcAXcVZcVCcVQcVXcEZcECcEQcEXcIZcICcIQ",
      "cIXcUZcUCcUQcUXcAWZcAWCcAWQcAWXcUIZcUICcUIQcUIX",
      "cFINAL NGcLONG UEXcSHORT UEZdAWXcUECcUEZcUEQcUEXcUIUZ",
      "cUIUCcUIUQcUIUXcMZcMCcMQcMXcKAcKHAcGAcNGAcSAcYAcWAcPA",
      "cNYAcPHAcBAcMAcNAcHAcLAcHTAcTAcDAcRAcNHAcSHAcCAcTSA",
      "cGHAcHTTAcTHAcXAcFAcDHAcCHAcZA"]⟩,
    ⟨0x16AC0, ["aTANGSA DIGIT ZEROcONEcTWOcTHREEcFOURcFIVE",
      "cSIXcSEVENcEIGHTcNINE"]⟩,
    ⟨0x16AD0, ["aBASSA VAH LETTER ENNIdKAdSEdFAdMBEdYIEdGAH",
      "dDHIIdKPAHdJOdHWAHdWAdZOdGBUdDOdCEdUWUdTOdBAdVUdYEIN",
      "dPAdWADDAdAdOdOOdUdEEdEdI"]⟩,
    ⟨0x16AF0, ["aBASSA VAH COMBINING HIGH TONEdLOW TONEdMID ",
      "TONEdLOW-MID TONEdHIGH-LOW TONEcFULL STOP"]⟩,
    ⟨0x16B00, ["aPAHAWH HMONG VOWEL KEEBdKEEVdKIBdKIVdKAUB",
      "dKAUVdKUBdKUVdKEBdKEVdKAIBdKAIVdKOOBdKOOVdKAWBdKAWV",
      "dKUABdKUAVdKOBdKOVdKIABdKIAVdKABdKAVdKWBdKWVdKAAB",
      "dKAAVcCONSONANT VAUdNTSAUdLAUdHAUdNLAUdRAUdNKAUdQHAU",
      "dYAUdHLAUdMAUdCHAUdNCHAUdHNAUdPLHAUdNTHAUdNAUdAUdXAU",
      "dCAUcMARK CIM TUBeSOeKESeKHAVeSUAMeHOMeTAUMcSIGN VOS ",
      "THOMeTSHAB CEEBdCIM CHEEMdVOS THIABeFEEMdXYEEM NTXIV",
      "eRHOeTOVeFAIBdVOS SEEVdMEEJ SUABdVOS NRUAdIB YAMdXAUS",
      "dCIM TSOV ROG"]⟩,
    ⟨0x16B50, ["aPAHAWH HMONG DIGIT ZEROdONEdTWOdTHREEdFOUR",
      "dFIVEdSIXdSEVENdEIGHTdNINE"]⟩,
    ⟨0x16B5B, ["aPAHAWH HMONG NUMBER TENSdHUNDREDSdTEN ",
      "THOUSANDSdMILLIONSdHUNDRED MILLIONSdTEN BILLIONS",
      "dTRILLIONS"]⟩,
    ⟨0x16B63, ["aPAHAWH HMONG SIGN VOS LUBdXYOOdHLIdTHIRD-",
      "STAGE HLIdZWJ THAJdHNUBdNQIGdXIABdNTUJdAVdTXHEEJ CEEV",
      "dMEEJ TSEEBdTAUdLOSdMUSdCIM HAIS LUS NTOG NTOGeCUAM ",
      "TSHOOJeTXWVeTXWV CHWVePUB DAWBeNRES TOS"]⟩,
    ⟨0x16B7D, ["aPAHAWH HMONG CLAN SIGN TSHEEJeYEEGeLISeLAUJ",
      "eXYOOJeKOOeHAWJeMUASeTHOJeTSABePHABeKHABeHAMeVAJeFAJ",
      "eYAJeTSWBeKWMeVWJ"]⟩,
    ⟨0x16E40, ["aMEDEFAIDRIN CAPITAL LETTER MdSdVdWdATIUdZ",
      "dKPdPdTdGdFdIdKdAdJdEdBdCdUdYUdLdQdHPdNYdXdDdOEdNdRdO",
      "dAIdYbSMALL LETTER MdSdVdWdATIUdZdKPdPdTdGdFdIdKdAdJ",
      "dEdBdCdUdYUdLdQdHPdNYdXdDdOEdNdRdOdAIdYbDIGIT ZERO",
      "cONEcTWOcTHREEcFOURcFIVEcSIXcSEVENcEIGHTcNINEbNUMBER ",
      "TENcELEVENcTWELVEcTHIRTEENcFOURTEENcFIFTEENcSIXTEEN",
      "cSEVENTEENcEIGHTEENcNINETEENbDIGIT ONE ALTERNATE FORM",
      "cTWO ALTERNATE FORMcTHREE ALTERNATE FORMbCOMMAbFULL ",
      "STOPbSYMBOL AIVAbEXCLAMATION OH"]⟩,
    ⟨0x16F00, ["aMIAO LETTER PAcBAcYI PAcPLAcMAcMHAcARCHAIC ",
      "MAcFAcVAcVFAcTAcDAcYI TTAdTAcTTAcDDAcNAcNHAcYI NNA",
      "cARCHAIC NAcNNAcNNHAcLAcLYAcLHAcLHYAcTLHAcDLHAcTLHYA",
      "cDLHYAcKAcGAcYI KAcQAcQGAcNGAcNGHAcARCHAIC NGAcHAcXA",
      "cGHAcGHHAcTSSAcDZZAcNYAcNYHAcTSHAcDZHAcYI TSHAdDZHA",
      "cREFORMED TSHAcSHAcSSAcZHAcZSHAcTSAcDZAcYI TSAcSAcZA",
      "cZSAcZZAcZZSAcARCHAIC ZZAcZZYAcZZSYAcWAcAHcHHAcBRI",
      "cSYIcDZYIcTEcTSEcRTE"]⟩,
    ⟨0x16F4F, ["aMIAO SIGN CONSONANT MODIFIER BARbLETTER ",
      "NASALIZATIONbSIGN ASPIRATIONcREFORMED VOICING",
      "dASPIRATIONbVOWEL SIGN AdAAdAHHdANdANGdOdOOdWOdWdEdEN",
      "dENGdOEYdIdIAdIANdIANGdIOdIEdIIdIUdINGdUdUAdUANdUANG",
      "dUUdUEIdUNGdYdYIdAEdAEEdERRdROUNDED ERRdERdROUNDED ER",
      "dAIdEIdAUdOUdNdNGdUOGdYUIdOGdOERdVWdIGdEAdIONGdUI"]⟩,
    ⟨0x16F8F, ["aMIAO TONE RIGHTcTOP RIGHTcABOVEcBELOW",
      "bLETTER TONE-2d3d4d5d6d7d8cREFORMED TONE-1e2e4e5e6e8"]⟩,
    ⟨0x16FE0, ["aTANGUT ITERATION MARKaNUSHU ITERATION MARK",
      "aOLD CHINESE HOOK MARKcITERATION MARKaKHITAN SMALL ",
      "SCRIPT FILLER"]⟩,
    ⟨0x16FF0, ["aVIETNAMESE ALTERNATE READING MARK CAeNHAY"]⟩,
    ⟨0x18800, ["aTANGUT COMPONENT-001c002c003c004c005c006",
      "c007c008c009c010c011c012c013c014c015c016c017c018c019",
      "c020c021c022c023c024c025c026c027c028c029c030c031c032",
      "c033c034c035c036c037c038c039c040c041c042c043c044c045",
      "c046c047c048c049c050c051c052c053c054c055c056c057c058",
      "c059c060c061c062c063c064c065c066c067c068c069c070c071",
      "c072c073c074c075c076c077c078c079c080c081c082c083c084",
      "c085c086c087c088c089c090c091c092c093c094c095c096c097",
      "c098c099c100c101c102c103c104c105c106c107c108c109c110",
      "c111c112c113c114c115c116c117c118c119c120c121c122c123",
      "c124c125c126c127c128c129c130c131c132c133c134c135c136",
      "c137c138c139c140c141c142c143c144c145c146c147c148c149",
      "c150c151c152c153c154c155c156c157c158c159c160c161c162",
      "c163c164c165c166c167c168c169c170c171c172c173c174c175",
      "c176c177c178c179c180c181c182c183c184c185c186c187c188",
      "c189c190c191c192c193c194c195c196c197c198c199c200c201",
      "c202c203c204c205c206c207c208c209c210c211c212c213c214",
      "c215c216c217c218c219c220c221c222c223c224c225c226c227",
      "c228c229c230c231c232c233c234c235c236c237c238c239c240",
      "c241c242c243c244c245c246c247c248c249c250c251c252c253",
      "c254c255c256c257c258c259c260c261c262c263c264c265c266",
      "c267c268c269c270c271c272c273c274c275c276c277c278c279",
      "c280c281c282c283c284c285c286c287c288c289c290c291c292",
      "c293c294c295c296c297c298c299c300c301c302c303c304c305",
      "c306c307c308c309c310c311c312c313c314c315c316c317c318",
      "c319c320c321c322c323c324c325c326c327c328c329c330c331",
      "c332c333c334c335c336c337c338c339c340c341c342c343c344",
      "c345c346c347c348c349c350c351c352c353c354c355c356c357",
      "c358c359c360c361c362c363c364c365c366c367c368c369c370",
      "c371c372c373c374c375c376c377c378c379c380c381c382c383",
      "c384c385c386c387c388c389c390c391c392c393c394c395c396",
      "c397c398c399c400c401c402c403c404c405c406c407c408c409",
      "c410c411c412c413c414c415c416c417c418c419c420c421c422",
      "c423c424c425c426c427c428c429c430c431c432c433c434c435",
      "c436c437c438c439c440c441c442c443c444c445c446c447c448",
      "c449c450c451c452c453c454c455c456c457c458c459c460c461",
      "c462c463c464c465c466c467c468c469c470c471c472c473c474",
      "c475c476c477c478c479c480c481c482c483c484c485c486c487",
      "c488c489c490c491c492c493c494c495c496c497c498c499c500",
      "c501c502c503c504c505c506c507c508c509c510c511c512c513",
      "c514c515c516c517c518c519c520c521c522c523c524c525c526",
      "c527c528c529c530c531c532c533c534c535c536c537c538c539",
      "c540c541c542c543c544c545c546c547c548c549c550c551c552",
      "c553c554c555c556c557c558c559c560c561c562c563c564c565",
      "c566c567c568c569c570c571c572c573c574c575c576c577c578",
      "c579c580c581c582c583c584c585c586c587c588c589c590c591",
      "c592c593c594c595c596c597c598c599c600c601c602c603c604",
      "c605c606c607c608c609c610c611c612c613c614c615c616c617",
      "c618c619c620c621c622c623c624c625c626c627c628c629c630",
      "c631c632c633c634c635c636c637c638c639c640c641c642c643",
      "c644c645c646c647c648c649c650c651c652c653c654c655c656",
      "c657c658c659c660c661c662c663c664c665c666c667c668c669",
      "c670c671c672c673c674c675c676c677c678c679c680c681c682",
      "c683c684c685c686c687c688c689c690c691c692c693c694c695",
      "c696c697c698c699c700c701c702c703c704c705c706c707c708",
      "c709c710c711c712c713c714c715c716c717c718c719c720c721",
      "c722c723c724c725c726c727c728c729c730c731c732c733c734",
      "c735c736c737c738c739c740c741c742c743c744c745c746c747",
      "c748c749c750c751c752c753c754c755c756c757c758c759c760",
      "c761c762c763c764c765c766c767c768"]⟩,
    ⟨0x1AFF0, ["aKATAKANA LETTER MINNAN TONE-2e3e4e5"]⟩,
    ⟨0x1AFF5, ["aKATAKANA LETTER MINNAN TONE-7e8dNASALIZED ",
      "TONE-1f2f3f4f5"]⟩,
    ⟨0x1AFFD, ["aKATAKANA LETTER MINNAN NASALIZED TONE-7f8"]⟩,
    ⟨0x1B000, ["aKATAKANA LETTER ARCHAIC EaHIRAGANA LETTER ",
      "ARCHAIC YEaHENTAIGANA LETTER A-1d2d3dWOcI-1d2d3d4cU-1",
      "d2d3d4d5cE-2d3d4d5d6cO-1d2d3cKA-1d2d3d4d5d6d7d8d9d10",
      "d11dKEcKI-1d2d3d4d5d6d7d8cKU-1d2d3d4d5d6d7cKE-1d2d3d4",
      "d5d6cKO-1d2d3dKIcSA-1d2d3d4d5d6d7d8cSI-1d2d3d4d5d6",
      "cSU-1d2d3d4d5d6d7d8cSE-1d2d3d4d5cSO-1d2d3d4d5d6d7cTA-",
      "1d2d3d4cTI-1d2d3d4d5d6d7cTU-1d2d3d4dTOcTE-1d2d3d4d5d6",
      "d7d8d9cTO-1d2d3d4d5d6dRAcNA-1d2d3d4d5d6d7d8d9cNI-1d2",
      "d3d4d5d6d7dTEcNU-1d2d3cNE-1d2d3d4d5d6dKOcNO-1d2d3d4d5",
      "cHA-1d2d3d4d5d6d7d8d9d10d11cHI-1d2d3d4d5d6d7cHU-1d2d3",
      "cHE-1d2d3d4d5d6d7cHO-1d2d3d4d5d6d7d8cMA-1d2d3d4d5d6d7",
      "cMI-1d2d3d4d5d6d7cMU-1d2d3d4cME-1d2dMAcMO-1d2d3d4d5d6",
      "cYA-1d2d3d4d5dYOcYU-1d2d3d4cYO-1d2d3d4d5d6cRA-1d2d3d4",
      "cRI-1d2d3d4d5d6d7cRU-1d2d3d4d5d6cRE-1d2d3d4cRO-1d2d3",
      "d4d5d6cWA-1d2d3d4d5cWI-1d2d3d4d5cWE-1d2d3d4cWO-1d2d3",
      "d4d5d6d7cN-MU-MO-1f2aHIRAGANA LETTER ARCHAIC WU",
      "aKATAKANA LETTER ARCHAIC YIdYEdWU"]⟩,
    ⟨0x1B132, ["aHIRAGANA LETTER SMALL KO"]⟩,
    ⟨0x1B150, ["aHIRAGANA LETTER SMALL WIdWEdWO"]⟩,
    ⟨0x1B155, ["aKATAKANA LETTER SMALL KO"]⟩,
    ⟨0x1B164, ["aKATAKANA LETTER SMALL WIdWEdWOdN"]⟩,
    ⟨0x1BC00, ["aDUPLOYAN LETTER HcXcPcTcFcKcLcBcDcVcGcRcP N",
      "cD ScF NcK McR ScTHcSLOAN DHcDHcKKcSLOAN JcHLcLHcRHcM",
      "cNcJcScM NcN McJ McS JcM WITH DOTcN WITH DOTcJ WITH ",
      "DOTeDOTS INSIDE AND ABOVEcS WITH DOTeDOT BELOWcM ScN ",
      "ScJ ScS ScM N ScN M ScJ M ScS J ScJ S WITH DOTdNdN S",
      "cS TdT RdPdP RcT SdR ScWcWHcW RcS NdMcK R ScG R ScS K",
      "dK RcAcSLOAN OWcOAcOcAOUcIcEcIEcSHORT IcUIcEEcSLOAN ",
      "EHcROMANIAN IcSLOAN EEcLONG IcYEcUcEUcXWcU NcLONG U",
      "cROMANIAN UcUHcSLOAN UcOOHcOWcOUcWAcWOcWIcWEIcWOW",
      "cNASAL UdOdIdAcPERNIN ANdAMcSLOAN ENdANdONcVOCALIC M"]⟩,
    ⟨0x1BC70, ["aDUPLOYAN AFFIX LEFT HORIZONTAL SECANTcMID ",
      "HORIZONTAL SECANTcRIGHT HORIZONTAL SECANTcLOW ",
      "VERTICAL SECANTcMID VERTICAL SECANTcHIGH VERTICAL ",
      "SECANTcATTACHED SECANTdLEFT-TO-RIGHT SECANTdTANGENT",
      "dTAILdE HOOKdI HOOKdTANGENT HOOK"]⟩,
    ⟨0x1BC80, ["aDUPLOYAN AFFIX HIGH ACUTEdTIGHT ACUTEdGRAVE",
      "dLONG GRAVEdDOTdCIRCLEdLINEdWAVEdVERTICAL"]⟩,
    ⟨0x1BC90, ["aDUPLOYAN AFFIX LOW ACUTEdTIGHT ACUTEdGRAVE",
      "dLONG GRAVEdDOTdCIRCLEdLINEdWAVEdVERTICALdARROW"]⟩,
    ⟨0x1BC9C, ["aDUPLOYAN SIGN O WITH CROSSbTHICK LETTER ",
      "SELECTORbDOUBLE MARKbPUNCTUATION CHINOOK FULL STOP",
      "aSHORTHAND FORMAT LETTER OVERLAPcCONTINUING OVERLAP",
      "cDOWN STEPcUP STEP"]⟩]

end SigCheck
