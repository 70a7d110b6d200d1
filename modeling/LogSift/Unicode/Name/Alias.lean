import LogSift.Unicode.Name.Run

/-!
# Further names of characters

Names of control characters, corrected names and abbreviations.
-/

namespace LogSift.Unicode

/-- The runs of characters with further names. -/
def furtherNames : List NameRun := [
  ⟨0x0, "NULLaSTART OF HEADINGcTEXTaEND OF TEXTcTRANSMISSIONaENQUIRYaACKNOWLEDGEaALERTaBACKSPACE
aCHARACTER TABULATIONaLINE FEEDbTABULATIONaFORM FEEDaCARRIAGE RETURNaSHIFT OUTbIN
aDATA LINK ESCAPEaDEVICE CONTROL ONEcTWOcTHREEcFOURaNEGATIVE ACKNOWLEDGEaSYNCHRONOUS IDLE
aEND OF TRANSMISSION BLOCKaCANCELaEND OF MEDIUMaSUBSTITUTEaESCAPEaINFORMATION SEPARATOR FOUR
cTHREEcTWOcONEaSP"⟩,
  ⟨0x7F, "DELETEaPADDING CHARACTERaHIGH OCTET PRESETaBREAK PERMITTED HEREaNO BREAK HEREaINDEXaNEXT LINE
aSTART OF SELECTED AREAaEND OF SELECTED AREAaCHARACTER TABULATION SETcWITH JUSTIFICATION
aLINE TABULATION SETaPARTIAL LINE FORWARDcBACKWARDaREVERSE LINE FEEDaSINGLE SHIFT TWOcTHREE
aDEVICE CONTROL STRINGaPRIVATE USE ONEcTWOaSET TRANSMIT STATEaCANCEL CHARACTERaMESSAGE WAITING
aSTART OF GUARDED AREAaEND OF GUARDED AREAaSTART OF STRINGaSINGLE GRAPHIC CHARACTER INTRODUCER
bCHARACTER INTRODUCERaCONTROL SEQUENCE INTRODUCERaSTRING TERMINATORaOPERATING SYSTEM COMMAND
aPRIVACY MESSAGEaAPPLICATION PROGRAM COMMANDaNBSP"⟩,
  ⟨0xAD, "SHY"⟩,
  ⟨0x1A2, "LATIN CAPITAL LETTER GHAbSMALL LETTER GHA"⟩,
  ⟨0x34F, "CGJ"⟩,
  ⟨0x61C, "ALM"⟩,
  ⟨0x709, "SYRIAC SUBLINEAR COLON SKEWED LEFT"⟩,
  ⟨0xCDE, "KANNADA LETTER LLLA"⟩,
  ⟨0xE9D, "LAO LETTER FO FON"⟩,
  ⟨0xE9F, "LAO LETTER FO FAY"⟩,
  ⟨0xEA3, "LAO LETTER RO"⟩,
  ⟨0xEA5, "LAO LETTER LO"⟩,
  ⟨0xFD0, "TIBETAN MARK BKA- SHOG GI MGO RGYAN"⟩,
  ⟨0x11EC, "HANGUL JONGSEONG YESIEUNG-KIYEOKcYESIEUNG-SSANGKIYEOKcSSANGYESIEUNGcYESIEUNG-KHIEUKH"⟩,
  ⟨0x180B, "FVS1aFVS2aFVS3aMVSaFVS4"⟩,
  ⟨0x200B, "ZWSPaZWNJaZWJaLRMaRLM"⟩,
  ⟨0x202A, "LREaRLEaPDFaLROaRLOaNNBSP"⟩,
  ⟨0x205F, "MMSPaWJ"⟩,
  ⟨0x2066, "LRIaRLIaFSIaPDI"⟩,
  ⟨0x2118, "WEIERSTRASS ELLIPTIC FUNCTION"⟩,
  ⟨0x2448, "MICR ON US SYMBOLbDASH SYMBOL"⟩,
  ⟨0x2B7A, "LEFTWARDS TRIANGLE-HEADED ARROW WITH DOUBLE VERTICAL STROKE"⟩,
  ⟨0x2B7C, "RIGHTWARDS TRIANGLE-HEADED ARROW WITH DOUBLE VERTICAL STROKE"⟩,
  ⟨0xA015, "YI SYLLABLE ITERATION MARK"⟩,
  ⟨0xAA6E, "MYANMAR LETTER KHAMTI LLA"⟩,
  ⟨0xFE00, "VS1aVS2aVS3aVS4aVS5aVS6aVS7aVS8aVS9aVS10aVS11aVS12aVS13aVS14aVS15aVS16"⟩,
  ⟨0xFE18, "PRESENTATION FORM FOR VERTICAL RIGHT WHITE LENTICULAR BRACKET"⟩,
  ⟨0xFEFF, "BYTE ORDER MARK"⟩,
  ⟨0x122D4, "CUNEIFORM SIGN NU11 TENUdOVER NU11 BUR OVER BUR"⟩,
  ⟨0x16E56, "MEDEFAIDRIN CAPITAL LETTER HdNG"⟩,
  ⟨0x16E76, "MEDEFAIDRIN SMALL LETTER HdNG"⟩,
  ⟨0x1B001, "HENTAIGANA LETTER E-1"⟩,
  ⟨0x1D0C5, "BYZANTINE MUSICAL SYMBOL FTHORA SKLIRON CHROMA VASIS"⟩,
  ⟨0xE0100, "VS17aVS18aVS19aVS20aVS21aVS22aVS23aVS24aVS25aVS26aVS27aVS28aVS29aVS30aVS31aVS32aVS33aVS34aVS35
aVS36aVS37aVS38aVS39aVS40aVS41aVS42aVS43aVS44aVS45aVS46aVS47aVS48aVS49aVS50aVS51aVS52aVS53aVS54
aVS55aVS56aVS57aVS58aVS59aVS60aVS61aVS62aVS63aVS64aVS65aVS66aVS67aVS68aVS69aVS70aVS71aVS72aVS73
aVS74aVS75aVS76aVS77aVS78aVS79aVS80aVS81aVS82aVS83aVS84aVS85aVS86aVS87aVS88aVS89aVS90aVS91aVS92
aVS93aVS94aVS95aVS96aVS97aVS98aVS99aVS100aVS101aVS102aVS103aVS104aVS105aVS106aVS107aVS108aVS109
aVS110aVS111aVS112aVS113aVS114aVS115aVS116aVS117aVS118aVS119aVS120aVS121aVS122aVS123aVS124aVS125
aVS126aVS127aVS128aVS129aVS130aVS131aVS132aVS133aVS134aVS135aVS136aVS137aVS138aVS139aVS140aVS141
aVS142aVS143aVS144aVS145aVS146aVS147aVS148aVS149aVS150aVS151aVS152aVS153aVS154aVS155aVS156aVS157
aVS158aVS159aVS160aVS161aVS162aVS163aVS164aVS165aVS166aVS167aVS168aVS169aVS170aVS171aVS172aVS173
aVS174aVS175aVS176aVS177aVS178aVS179aVS180aVS181aVS182aVS183aVS184aVS185aVS186aVS187aVS188aVS189
aVS190aVS191aVS192aVS193aVS194aVS195aVS196aVS197aVS198aVS199aVS200aVS201aVS202aVS203aVS204aVS205
aVS206aVS207aVS208aVS209aVS210aVS211aVS212aVS213aVS214aVS215aVS216aVS217aVS218aVS219aVS220aVS221
aVS222aVS223aVS224aVS225aVS226aVS227aVS228aVS229aVS230aVS231aVS232aVS233aVS234aVS235aVS236aVS237
aVS238aVS239aVS240aVS241aVS242aVS243aVS244aVS245aVS246aVS247aVS248aVS249aVS250aVS251aVS252aVS253
aVS254aVS255aVS256"⟩,
  ⟨0x0, "NULaSOHaSTXaETXaEOTaENQaACKaBELaBSaHORIZONTAL TABULATIONaNEW LINEaVERTICAL TABULATIONaFFaCR
aLOCKING-SHIFT ONEbZEROaDLEaDC1aDC2aDC3aDC4aNAKaSYNaETBaCANaEOMaSUBaESCaFILE SEPARATOR
aGROUP SEPARATORaRECORD SEPARATORaUNIT SEPARATOR"⟩,
  ⟨0x7F, "DELaPADaHOPaBPHaNBHaINDaNELaSSAaESAaHORIZONTAL TABULATION SETcWITH JUSTIFICATION
aVERTICAL TABULATION SETaPARTIAL LINE DOWNcUPaREVERSE INDEXaSINGLE-SHIFT-2aSINGLE-SHIFT-3aDCS
aPRIVATE USE-1bUSE-2aSTSaCCHaMWaSTART OF PROTECTED AREAaEND OF PROTECTED AREAaSOSaSGCaSCIaCSIaST
aOSCaPMaAPC"⟩,
  ⟨0xFEFF, "BOM"⟩,
  ⟨0x9, "HTaEND OF LINEaVT"⟩,
  ⟨0xE, "SOaSI"⟩,
  ⟨0x1C, "FSaGSaRSaUS"⟩,
  ⟨0x88, "HTSaHTJaVTSaPLDaPLUaRIaSS2aSS3"⟩,
  ⟨0x91, "PU1aPU2"⟩,
  ⟨0x96, "SPAaEPA"⟩,
  ⟨0xFEFF, "ZWNBSP"⟩,
  ⟨0x9, "TABaEOL"⟩,
  ⟨0xA, "LF"⟩,
  ⟨0xA, "NL"⟩]

end LogSift.Unicode
