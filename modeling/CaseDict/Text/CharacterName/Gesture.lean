import CaseDict.Text.CharacterName.Listing
/-! # Names of signs for gestures, and further letters -/

namespace CaseDict.Text.CharacterName

/-- Names of the signs for writing gestures and of further letters, below U+1F000. -/
def gesture : Listing :=
  "=1D800aSIGNWRITING HAND-FIST INDEXbHAND-CIRCLE INDEXbHAND-CUP INDEXbHAND-OV#INDEX
  bHAND-HINGE INDEXbHAND-ANGLE INDEXbHAND-FIST INDEX BENTbHAND-CIRCLE INDEX BENT
  bHAND-FIST THUMB UNDER INDEX BENTcINDEX RAISED KNUCKLEdCUPPEDdHINGEDeLOWbHAND-CIRCLE INDEX HINGE
  bHAND-FIST INDEX MIDDLEbHAND-CIRCLE INDEX MIDDLEbHAND-FIST INDEX MIDDLE BENTeRAISED KNUCKLES
  eHINGEDdUP MIDDLE HINGEDdHINGED MIDDLE UPdMIDDLE CONJOINEDfINDEX BENTfMIDDLE BENTfCUPPEDfHINGED
  eCROSSEDbHAND-CIRCLE INDEX MIDDLE CROSSEDbHAND-FIST MIDDLE BENT OVER INDEXcINDEX BENT OVER MIDDLE
  dMIDDLE THUMBbHAND-CIRCLE INDEX MIDDLE THUMBbHAND-FIST INDEX MIDDLE STRAIGHT THUMB BENT
  eBENT THUMB STRAIGHTeTHUMB BENTeHINGED SPREAD THUMB SIDEdUP MIDDLE HINGED THUMB SIDEhCONJOINED
  dHINGED MIDDLE UP THUMB SIDEdMIDDLE UP SPREAD THUMB FORWARDeTHUMB CUPPEDfCIRCLEDfHOOKEDfHINGED
  cTHUMB BETWEEN INDEX MIDDLE STRAIGHTcINDEX MIDDLE CONJOINED THUMB SIDEhCONJOINEDhBENT
  cMIDDLE THUMB HOOKED INDEX UPcINDEX THUMB HOOKED MIDDLE UPdMIDDLE CONJOINED HINGED THUMB SIDE
  eCROSSED THUMB SIDEeCONJOINED THUMB FORWARDfCUPPED THUMB FORWARDcMIDDLE THUMB CUPPED INDEX UP
  cINDEX THUMB CUPPED MIDDLE UPcMIDDLE THUMB CIRCLED INDEX UPgHINGED
  cINDEX THUMB ANGLED OUT MIDDLE UPfIN MIDDLE UPeCIRCLED MIDDLE UPdMIDDLE THUMB CONJOINED HINGED
  fANGLED OUTfANGLEDcMIDDLE THUMB ANGLED OUT INDEX UPhCROSSEDfINDEX UP
  cINDEX THUMB HOOKED MIDDLE HINGEDbHAND-FLAT FOUR FINGERSeBENTeHINGEDeCONJOINEDfSPLIT
  bHAND-CLAW FOUR FINGERS CONJOINEDbHAND-FIST FOUR FINGERS CONJOINED BENT
  bHAND-HINGE FOUR FINGERS CONJOINEDbHAND-FLAT FIVE FINGERS SPREADcHEEL FIVE FINGERS SPREAD
  cFIVE FINGERS SPREAD FOUR BENTcHEEL FIVE FINGERS SPREAD FOUR BENTcFIVE FINGERS SPREAD BENT
  cHEEL FIVE FINGERS SPREAD BENTcFIVE FINGERS SPREAD THUMB FORWARDbHAND-CUP FIVE FINGERS SPREADfOPEN
  bHAND-HINGE FIVE FINGERS SPREAD OPENbHAND-OV#FIVE FINGERS SPREAD
  bHAND-FLAT FIVE FINGERS SPREAD HINGEDgTHUMB SIDEgNO THUMBbHAND-FLATcBETWEEN PALM FACINGScHEEL
  cTHUMB SIDEcHEEL THUMB SIDEcTHUMB BENTdFORWARDcSPLIT INDEX THUMB SIDEdCENTREeTHUMB SIDEgBENT
  dLITTLEbHAND-CLAWcTHUMB SIDEcNO THUMBcTHUMB FORWARDbHAND-HOOK CURLICUEbHAND-HOOKbHAND-CUP OPEN
  bHAND-CUPcOPEN THUMB SIDEcTHUMB SIDEcOPEN NO THUMBcNO THUMBcOPEN THUMB FORWARDcTHUMB FORWARD
  bHAND-CURLICUE OPENbHAND-CURLICUEbHAND-CIRCLEbHAND-OV#cTHUMB SIDEcNO THUMBcTHUMB FORWARD
  bHAND-HINGE OPENdTHUMB FORWARDbHAND-HINGEc,cOPEN THUMB SIDEcTHUMB SIDEcOPEN NO THUMBcNO THUMB
  cTHUMB SIDE TOUCHING INDEXdBETWEEN MIDDLE RINGbHAND-ANGLEbHAND-FIST INDEX MIDDLE RING
  bHAND-CIRCLE INDEX MIDDLE RINGbHAND-HINGE INDEX MIDDLE RINGbHAND-ANGLE INDEX MIDDLE RING
  bHAND-HINGE LITTLEbHAND-FIST INDEX MIDDLE RING BENTfCONJOINED
  bHAND-HINGE INDEX MIDDLE RING CONJOINEDbHAND-FIST LITTLE DOWNeRIPPLE STRAIGHTfCURVED
  eOTHERS CIRCLEDdUPcTHUMB UNDER LITTLE UPbHAND-CIRCLE LITTLE UPbHAND-OV#LITTLE UP
  bHAND-ANGLE LITTLE UPbHAND-FIST LITTLE RAISED KNUCKLEdBENTdTOUCHES THUMBdTHUMB
  bHAND-HINGE LITTLE THUMBbHAND-FIST LITTLE INDEX THUMBbHAND-HINGE LITTLE INDEX THUMB
  bHAND-ANGLE LITTLE INDEX THUMB INDEX THUMB OUTgTHUMBbHAND-FIST LITTLE INDEX
  bHAND-CIRCLE LITTLE INDEXbHAND-HINGE LITTLE INDEXbHAND-ANGLE LITTLE INDEX
  bHAND-FIST INDEX MIDDLE LITTLEbHAND-CIRCLE INDEX MIDDLE LITTLEbHAND-HINGE INDEX MIDDLE LITTLEcRING
  bHAND-ANGLE INDEX MIDDLE LITTLEbHAND-FIST INDEX MIDDLE CROSS LITTLE
  bHAND-CIRCLE INDEX MIDDLE CROSS LITTLEbHAND-FIST RING DOWN
  bHAND-HINGE RING DOWN INDEX THUMB HOOK MIDDLEbHAND-ANGLE RING DOWN MIDDLE THUMB INDEX CROSS
  bHAND-FIST RING UPdRAISED KNUCKLEdLITTLEbHAND-CIRCLE RING LITTLEbHAND-OV#RING LITTLE
  bHAND-ANGLE RING LITTLEbHAND-FIST RING MIDDLEeCONJOINEDeRAISED KNUCKLESdINDEXdTHUMB
  bHAND-HOOK RING THUMBbHAND-FIST INDEX RING LITTLEbHAND-CIRCLE INDEX RING LITTLE
  bHAND-CURLICUE INDEX RING LITTLE ONbHAND-HOOK INDEX RING LITTLE OUTfINfUNDER
  bHAND-CUP INDEX RING LITTLEbHAND-HINGE INDEX RING LITTLEbHAND-ANGLE INDEX RING LITTLE OUTeLITTLE
  bHAND-FIST MIDDLE DOWNbHAND-HINGE MIDDLEbHAND-FIST MIDDLE UPbHAND-CIRCLE MIDDLE UP
  bHAND-FIST MIDDLE RAISED KNUCKLEdUP THUMB SIDEbHAND-HOOK MIDDLE THUMB
  bHAND-FIST MIDDLE THUMB LITTLEdLITTLEdRING LITTLEbHAND-CIRCLE MIDDLE RING LITTLE
  bHAND-CURLICUE MIDDLE RING LITTLE ONbHAND-CUP MIDDLE RING LITTLEbHAND-HINGE MIDDLE RING LITTLE
  bHAND-ANGLE MIDDLE RING LITTLE OUTfINeLITTLEbHAND-CIRCLE MIDDLE RING LITTLE BENT
  bHAND-CLAW MIDDLE RING LITTLE CONJOINEDgSIDEbHAND-HOOK MIDDLE RING LITTLE CONJOINED OUTgIN
  fCONJOINEDbHAND-HINGE INDEX HINGEDbHAND-FIST INDEX THUMB SIDEbHAND-HINGE INDEX THUMB SIDE
  bHAND-FIST INDEX THUMB SIDE THUMB DIAGON#gCONJOINEDgBENTfINDEX BENTfBOTH BENTfINDEX HINGE
  eFORWARD INDEX STRAIGHTgBENTeHOOKeCURLICUEeCURVE THUMB INSIDE
  bHAND-CLAW INDEX THUMB CURVE THUMB INSIDEbHAND-FIST INDEX THUMB CURVE THUMB UNDEReCIRCLE
  bHAND-CUP INDEX THUMBeOPENbHAND-HINGE INDEX THUMB OPENeLARGEdTHUMBe,bHAND-ANGLE INDEX THUMB OUTeIN
  dTHUMBbHAND-FIST THUMBdHEELdSIDE DIAGON#eCONJOINEDeBENTdFORWARDdBETWEEN INDEX MIDDLEeMIDDLE RING
  eRING LITTLEdUNDER TWO FINGERSdOVER TWO FINGERSdUNDER THREE FINGERSeFOUR FINGERS
  dOVER FOUR RAISED KNUCKLESbHAND-FISTcHEELbTOUCH SINGLEcMULTIPLEcBETWEENbGRASP SINGLEcMULTIPLE
  cBETWEENbSTRIKE SINGLEcMULTIPLEcBETWEENbBRUSH SINGLEcMULTIPLEcBETWEENbRUB SINGLEcMULTIPLEcBETWEEN
  bSURFACE SYMBOLScBETWEENbSQUEEZE LARGE SINGLEc,SINGLEcLARGE MULTIPLEc,MULTIPLEcSEQUENTI#
  bFLICK LARGE SINGLEc,SINGLEcLARGE MULTIPLEc,MULTIPLEcSEQUENTI#bSQUEEZE FLICK ALTERNATING
  bMOVEMENT-HINGE UP DOWN LARGEe,dSEQUENTI#cDOWN SEQUENTI#cUP DOWN ALTERNATING LARGEf,
  cSIDE TO SIDE SCISSORSbMOVEMENT-WALLPLANE FINGER CONTACTbMOVEMENT-FLOORPLANE FINGER CONTACT
  bMOVEMENT-WALLPLANE SINGLE STRAIGHT,eMEDIUMeLARGEeLARGESTdWRIST FLEXc:STRAIGHTdWRIST FLEX
  dALTERNATINGeWRIST FLEXcCROSScTRIPLE STRAIGHT MOVEMENTdWRIST FLEXdALTERNATINGeWRIST FLEXcBEND,
  dMEDIUMdLARGEcCORNER,dMEDIUMdLARGEdROTATIONcCHECK,dMEDIUMdLARGEcBOX,dMEDIUMdLARGEcZIGZAG,dMEDIUM
  dLARGEcPEAKS,dMEDIUMdLARGEbTRAVEL-WALLPLANE ROTATION-WALLPLANE SINGLEd:dALTERNATING
  cROTATION-FLOORPLANE SINGLEd:dALTERNATINGcSHAKINGcARM SPIR#SINGLEe:eTRIPLEbMOVEMENT-DIAGON#AWAY,
  dMEDIUMdLARGEdLARGESTcTOWARDS,dMEDIUMdLARGEdLARGESTcBETWEEN AWAY,eMEDIUMeLARGEeLARGESTdTOWARDS,
  eMEDIUMeLARGEeLARGESTbMOVEMENT-FLOORPLANE SINGLE STRAIGHT,eMEDIUMeLARGEeLARGESTdWRIST FLEX
  c:STRAIGHTdWRIST FLEXdALTERNATINGeWRIST FLEXcCROSScTRIPLE STRAIGHT MOVEMENTdWRIST FLEX
  dALTERNATING MOVEMENTeWRIST FLEXcBENDcCORNER,dMEDIUMdLARGEcCHECKcBOX,dMEDIUMdLARGEcZIGZAG,dMEDIUM
  dLARGEcPEAKS,dMEDIUMdLARGEbTRAVEL-FLOORPLANE ROTATION-FLOORPLANE SINGLEd:dALTERNATING
  cROTATION-WALLPLANE SINGLEd:dALTERNATINGcSHAKINGbMOVEMENT-WALLPLANE CURVE QUARTER,eMEDIUMeLARGE
  eLARGESTdHALF-CIRCLE,eMEDIUMeLARGEeLARGESTdTHREE-QUARTER CIRCLE,fMEDIUMcHUMP,dMEDIUMdLARGEcLOOP,
  dMEDIUMdLARGEd,:cWAVE CURVE:,fMEDIUMfLARGEeTRIPLE,fMEDIUMfLARGEcCURVE THEN STRAIGHTcCURVED CROSS,
  eMEDIUMbROTATION-WALLPLANE SINGLEc:cALTERNATEbMOVEMENT-WALLPLANE SHAKINGcCURVE HITTING FRONT WALL
  cHUMP HITTING FRONT WALLcLOOP HITTING FRONT WALLcWAVE HITTING FRONT WALL
  bROTATION-WALLPLANE SINGLE HITTING FRONT WALLc:HITTING FRONT WALLcALTERNATING HITTING FRONT WALL
  bMOVEMENT-WALLPLANE CURVE HITTING CHESTcHUMP HITTING CHESTcLOOP HITTING CHESTcWAVE HITTING CHEST
  bROTATION-WALLPLANE SINGLE HITTING CHESTc:HITTING CHESTcALTERNATING HITTING CHEST
  bMOVEMENT-WALLPLANE WAVE DIAGON#PATH,fMEDIUMfLARGEbMOVEMENT-FLOORPLANE CURVE HITTING CEILING,
  fLARGEcHUMP HITTING CEILING,:fLARGE:f,TRIPLEfLARGE TRIPLEcLOOP HITTING CEILING,SINGLEfLARGE SINGLE
  f,:fLARGE:cWAVE HITTING CEILING,fLARGEbROTATION-FLOORPLANE SINGLE HITTING CEILINGc:HITTING CEILING
  cALTERNATING HITTING CEILINGbMOVEMENT-FLOORPLANE CURVE HITTING FLOOR,fLARGEcHUMP HITTING FLOOR,:
  fLARGE:fTRIPLE,TRIPLEgLARGE TRIPLEcLOOP HITTING FLOOR,SINGLEfLARGE SINGLEf,:fLARGE:
  cWAVE HITTING FLOOR,fLARGEbROTATION-FLOORPLANE SINGLE HITTING FLOORc:HITTING FLOOR
  cALTERNATING HITTING FLOORbMOVEMENT-FLOORPLANE CURVE,dMEDIUMdLARGEdLARGESTdCOMBINEDcHUMP,cLOOP,
  cWAVE SNAKEd,dLARGEbROTATION-FLOORPLANE SINGLEc:cALTERNATINGbMOVEMENT-FLOORPLANE SHAKING PARALLEL
  bMOVEMENT-WALLPLANE ARM CIRCLE,SINGLEeMEDIUM SINGLEe,:eMEDIUM:
  bMOVEMENT-FLOORPLANE ARM CIRCLE HITTING WALL,SINGLEgMEDIUM SINGLEgLARGE SINGLEg,:gMEDIUM:gLARGE:
  bMOVEMENT-WALLPLANE WRIST CIRCLE FRONT SINGLEf:
  bMOVEMENT-FLOORPLANE WRIST CIRCLE HITTING WALL SINGLEg:bMOVEMENT-WALLPLANE FINGER CIRCLES SINGLEe:
  bMOVEMENT-FLOORPLANE FINGER CIRCLES HITTING WALL SINGLEg:bDYNAMIC ARROWHEAD,dLARGEcFASTcSLOWcTENSE
  cRELAXEDcSIMULTANEOUSdALTERNATINGcEVERY OTHER TIMEcGRADU#bHEADcRIMcMOVEMENT-WALLPLANE STRAIGHT
  dTILTcMOVEMENT-FLOORPLANE STRAIGHTcMOVEMENT-WALLPLANE CURVEcMOVEMENT-FLOORPLANE CURVE
  cMOVEMENT CIRCLEbFACE DIRECTION POSITION NOSE FORWARD TILTINGfUP OR DOWNiTILTING
  bEYEBROWS STRAIGHT UPdNEUTR#dDOWNbDREAMY EYEBROWS NEUTR#DOWNdDOWN NEUTR#dUP NEUTR#dNEUTR#UP
  bFOREHEAD NEUTR#cCONTACTcWRINKLEDbEYES OPENcSQUEEZEDcCLOSEDbEYE BLINK SINGLEdMULTIPLE
  bEYES HALF OPENcWIDE OPENcHALF CLOSEDcWIDENING MOVEMENTbEYE WINKbEYELASHES UPcDOWNcFLUTTERING
  bEYEGAZE-WALLPLANE STRAIGHTd:dALTERNATINGbEYEGAZE-FLOORPLANE STRAIGHTd:dALTERNATING
  bEYEGAZE-WALLPLANE CURVEDbEYEGAZE-FLOORPLANE CURVEDbEYEGAZE-WALLPLANE CIRCLINGbCHEEKS PUFFED
  cNEUTR#cSUCKEDbTENSE CHEEKS HIGHdMIDDLEdLOWbEARSbNOSE NEUTR#cCONTACTcWRINKLEScWIGGLES
  bAIR BLOWING OUTcSUCKING INcBLOW,ROTATIONScSUCK,ROTATIONSbBREATH INHALEcEXHALEbMOUTH CLOSED NEUTR#
  dFORWARDdCONTACTcSMILEdWRINKLEDdOPENcFROWNdWRINKLEDdOPENcOPEN CIRCLEdFORWARDdWRINKLEDdOV#eWRINKLED
  eYAWNdRECTANGLEeWRINKLEDeYAWNcKISSdFORWARDdWRINKLEDcTENSEdFORWARDdSUCKEDbLIPS PRESSED TOGETHER
  bLIP LOWER OVER UPPERcUPPER OVER LOWERbMOUTH CORNERScWRINKLES SINGLEd:bTONGUE STICKING OUT FAR
  cLICKING LIPScTIP BETWEEN LIPSdTOUCHING INSIDE MOUTHcINSIDE MOUTH RELAXEDcMOVES AGAINST CHEEK
  cCENTRE STICKING OUTdINSIDE MOUTHbTEETHcMOVEMENTcON TONGUEeMOVEMENTdLIPSeMOVEMENTcBITE LIPS
  bMOVEMENT-WALLPLANE JAWbMOVEMENT-FLOORPLANE JAWbNECKbHAIRbEXCITEMENTbSHOULDER HIP SPINEdPOSITIONS
  bWALLPLANE SHOULDER HIP MOVEbFLOORPLANE SHOULDER HIP MOVEbSHOULDER TILTING FROM WAIST
  bTORSO-WALLPLANE STRAIGHT STRETCHcCURVED BENDbTORSO-FLOORPLANE TWISTING
  bUPPER BODY TILTING FROM HIP JOINTSbLIMB COMBINATIONcLENGTH-1*6bFINGERbLOCATION-WALLPLANE SPACE
  bLOCATION-FLOORPLANE SPACEbLOCATION HEIGHTcWIDTHcDEPTHcHEAD NECKcTORSOcLIMBS DIGITSbCOMMA
  bFULL STOPbSEMICOLONbCOLONbPARENTHESIS=1DA9BbFILL MODIFIER-2*4=1DAA1bROTATION MODIFIER-2*14=1DF00
  aLATIN,.FENG DIGRAPH&TRILLdREVERSED SCRIPT Gb.,!TURNED Gb,.REVERSED Kb.,!L&BELT
  b,.LEZH&RETROFLEX HOOKdTURNED Y&BELTdREVERSED ENGdTURNED R&LONG LEG+RETROFLEX HOOK
  dT&HOOK+RETROFLEX HOOKb.RETROFLEX CLICK&RETROFLEX HOOKb,.ESH&:BARh+CURLdTURNED T&CURL
  b.INVERTED GLOTT#STOP&CURLcSTRETCHED C&CURLc,!TURNED Kb,.L&FISHHOOKdDEZH DIGRAPH&PALAT#HOOK
  dL&BELT+PALAT#HOOKdENG&PALAT#HOOKdTURNED R&PALAT#HOOKdR&FISHHOOK+PALAT#HOOK
  dTESH DIGRAPH&PALAT#HOOKdEZH&PALAT#HOOKdDEZH DIGRAPH&RETROFLEX HOOKdI&STROKE+RETROFLEX HOOK
  dO&RETROFLEX HOOKdTESH DIGRAPH&RETROFLEX HOOKdC&RETROFLEX HOOKdS&CURL=1E000
  aCOMBINING GLAGOLITIC.AZUdBUKYdVEDEdGLAGOLIdDOBROdYESTUdZHIVETE=1E008dZEMLJAdIZHEd[IZHEdIdDJERVI
  dKAKOdLJUDIJEdMYSLITEdNASHIdONUdPOKOJIdRITSIdSLOVOdTVRIDOdUKUdFRITUdHERU=1E01BdSHTAdTSIdCHRIVIdSHA
  dYERUdYERIdYATI=1E023dYUd,YUS=1E026dYOdIOTATED,YUSdBIG YUSdIOTATED BIG YUSdFITA=1E100
  aNYIAKENG PUACHUE HMONG.MAeTSAeNTAeTAeHAeNAeXAeNKAeCAeLAeSAeZAeNCAeNTSAeKAeDAeNYAeNRAeVAeNTXAeTXA
  eFAeRAeQAeYAeNQAePAeXYAeNPAeDLAeNPLAeHAHeMLAePLAeGAeRRAeAeAAeIeUeOeOOeEeEEeW=1E130dTONE-BdTONE-M
  dTONE-JdTONE-VdTONE-SdTONE-GdTONE-Dd$FOR PERSONfTHINGfLOCATIONfANIM#fINVERTEBRATEeXW XW
  dSYLLABLE LENGTHENER=1E140dDIGIT ZEROeONEeTWOeTHREEeFOUReFIVEeSIXeSEVENeEIGHTeNINE=1E14E
  dLOGOGRAM NYAJdCIRCLED CA=1E290aTOTO.PAcBAcTAcDAcKAcGAcMAcNAcNGAcSAcCHAcYAcWAcJAcHAcRAcLAcI
  cBREATHY IcIUcBREATHY IUcUcEcBREATHY EcEOcBREATHY EOcOcAEcBREATHY AEcAb$RISING TONE=1E2C0
  aWANCHO.AAcAcBAcCAcDAcGAcYAcPHAcLAcNAcPAcTAcTHAcFAcSAcSHAcJAcZAcWAcVAcKAcOcAUcRAcMAcKHAcHAcEcIcNGA
  cUcLLHAcTSAcTRAcONGcAANGcANGcINGcONcENcAANcNYAcUENcYIHbTONE TUPcTUPNIcKOIcKOINIbDIGIT ZEROcONEcTWO
  cTHREEcFOURcFIVEcSIXcSEVENcEIGHTcNINE=1E2FFbNGUN$=1E7E0aETHIOPIC SYLLABLE HHYAcHHYUcHHYIcHHYAA
  cHHYEEcHHYEcHHYO=1E7E8cGURAGE HHWAcHHWIcHHWEEcHHWE=1E7EDcGURAGE MWIdMWEE=1E7F0dQWIdQWEEdQWEdBWI
  dBWEEdKWIdKWEEdKWEdGWIdGWEEdGWEdFWIdFWEEdPWIdPWEE=1E800aMENDE KIKAKUI SYLLABLE M001 KIdM002 KA
  dM003 KUdM065 KEEdM095 KEdM076 KOOdM048 KOdM179 KUAdM004 WIdM005 WAdM006 WUdM126 WEEdM118 WE
  dM114 WOOdM045 WOdM194 WUIdM143 WEIdM061 WVIdM049 WVAdM139 WVEdM007 MINdM008 MANdM009 MUNdM059 MEN
  dM094 MONdM154 MUANdM189 MUENdM010 BIdM011 BAdM012 BUdM150 BEEdM097 BEdM103 BOOdM138 BOdM013 I
  dM014 AdM015 UdM163 EEdM100 EdM165 OOdM147 OdM137 EIdM131 INdM135 INdM195 ANdM178 ENdM019 SI
  dM020 SAdM021 SUdM162 SEEdM116 SEdM136 SOOdM079 SOdM196 SIAdM025 LIdM026 LAdM027 LUdM084 LEE
  dM073 LEdM054 LOOdM153 LOdM110 LONG LEdM016 DIdM017 DAdM018 DUdM089 DEEdM180 DOOdM181 DOdM022 TI
  dM023 TAdM024 TUdM091 TEEdM055 TEdM104 TOOdM069 TOdM028 JIdM029 JAdM030 JUdM157 JEEdM113 JE
  dM160 JOOdM063 JOdM175 LONG JOdM031 YIdM032 YAdM033 YUdM109 YEEdM080 YEdM141 YOOdM121 YOdM034 FI
  dM035 FAdM036 FUdM078 FEEdM075 FEdM133 FOOdM088 FOdM197 FUAdM101 FANdM037 NINdM038 NANdM039 NUN
  dM117 NENdM169 NONdM176 HIdM041 HAdM186 HUdM040 HEEdM096 HEdM042 HOOdM140 HOdM083 HEEIdM128 HOOU
  dM053 HINdM130 HANdM087 HUNdM052 HENdM193 HONdM046 HUANdM090 NGGIdM043 NGGAdM082 NGGUdM115 NGGEE
  dM146 NGGEdM156 NGGOOdM120 NGGOdM159 NGGAAdM127 NGGUAdM086 LONG NGGEdM106 LONG NGGOO
  dM183 LONG NGGOdM155 GIdM111 GAdM168 GUdM190 GEEdM166 GUEIdM167 GUANdM184 NGENdM057 NGON
  dM177 NGUANdM068 PIdM099 PAdM050 PUdM081 PEEdM051 PEdM102 POOdM066 POdM145 MBIdM062 MBAdM122 MBU
  dM047 MBEEdM188 MBEEdM072 MBEdM172 MBOOdM174 MBOdM187 MBUUdM161 LONG MBEdM105 LONG MBOO
  dM142 LONG MBOdM132 KPIdM092 KPAdM074 KPUdM044 KPEEdM108 KPEdM112 KPOOdM158 KPOdM124 GBIdM056 GBA
  dM148 GBUdM093 GBEEdM107 GBEdM071 GBOOdM070 GBOdM171 RAdM123 NDIdM129 NDAdM125 NDUdM191 NDEE
  dM119 NDEdM067 NDOOdM064 NDOdM152 NJAdM192 NJUdM149 NJEEdM134 NJOOdM182 VIdM185 VAdM151 VU
  dM173 VEEdM085 VEdM144 VOOdM077 VOdM164 NYINdM058 NYANdM170 NYUNdM098 NYENdM060 NYON=1E8C7
  cDIGIT ONEdTWOdTHREEdFOURdFIVEdSIXdSEVENdEIGHTdNINEcCOMBINING NUMBER TEENSeTENSeHUNDREDSeTHOUSANDS
  eTEN THOUSANDSeHUNDRED THOUSANDSeMILLIONS=1E900aADLAM!.ALIFdDAALIdLAAMdMIIMdBAdSINNYIIYHEdPEdBHE
  dRAdEdFAdIdOdDHAdYHEdWAWdNUNdKAFdYAdUdJIIMdCHIdHAdQAAFdGAdNYAdTUdNHAdVAdKHAdGBEdZ#dKPOdSHAb,.ALIF
  dDAALIdLAAMdMIIMdBAdSINNYIIYHEdPEdBHEdRAdEdFAdIdOdDHAdYHEdWAWdNUNdKAFdYAdUdJIIMdCHIdHAdQAAFdGAdNYA
  dTUdNHAdVAdKHAdGBEdZ#dKPOdSHAbALIF LENGTHENERbVOWEL LENGTHENERbGEMINATION MARKbHAMZA
  bCONSONANT MODIFIERbGEMINATE CONSONANT MODIFIERbNUKTAbNASALIZATION MARK=1E950bDIGIT ZEROcONEcTWO
  cTHREEcFOURcFIVEcSIXcSEVENcEIGHTcNINE=1E95Eb[EXCLAMATION MARKcQUESTION MARK=1EC71
  aINDIC SIYAQ NUMBER ONEdTWOdTHREEdFOURdFIVEdSIXdSEVENdEIGHTdNINEdTENdTWENTYdTHIRTYdFORTYdFIFTY
  dSIXTYdSEVENTYdEIGHTYdNINETYdONE HUNDREDdTWO HUNDREDdTHREE HUNDREDdFOUR HUNDREDdFIVE HUNDRED
  dSIX HUNDREDdSEVEN HUNDREDdEIGHT HUNDREDdNINE HUNDREDdONE THOUSANDdTWO THOUSANDdTHREE THOUSAND
  dFOUR THOUSANDdFIVE THOUSANDdSIX THOUSANDdSEVEN THOUSANDdEIGHT THOUSANDdNINE THOUSANDdTEN THOUSAND
  dTWENTY THOUSANDdTHIRTY THOUSANDdFORTY THOUSANDdFIFTY THOUSANDdSIXTY THOUSANDdSEVENTY THOUSAND
  dEIGHTY THOUSANDdNINETY THOUSANDdLAKHdLAKHANcLAKH MARKcNUMBER KARORdKARORANdPREFIXED ONEeTWOeTHREE
  eFOUReFIVEeSIXeSEVENeEIGHTeNINEcPLACEHOLDERcFRACTION ONE QUARTEReHALFdTHREE QUARTERScRUPEE MARK
  cNUMBER ALTERNATE ONEeTWOeTEN THOUSANDcALTERNATE LAKH MARK=1ED01aOTTOMAN SIYAQ NUMBER ONEdTWO
  dTHREEdFOURdFIVEdSIXdSEVENdEIGHTdNINEdTENdTWENTYdTHIRTYdFORTYdFIFTYdSIXTYdSEVENTYdEIGHTYdNINETY
  dONE HUNDREDdTWO HUNDREDdTHREE HUNDREDdFOUR HUNDREDdFIVE HUNDREDdSIX HUNDREDdSEVEN HUNDRED
  dEIGHT HUNDREDdNINE HUNDREDdONE THOUSANDdTWO THOUSANDdTHREE THOUSANDdFOUR THOUSANDdFIVE THOUSAND
  dSIX THOUSANDdSEVEN THOUSANDdEIGHT THOUSANDdNINE THOUSANDdTEN THOUSANDdTWENTY THOUSAND
  dTHIRTY THOUSANDdFORTY THOUSANDdFIFTY THOUSANDdSIXTY THOUSANDdSEVENTY THOUSANDdEIGHTY THOUSAND
  dNINETY THOUSANDcMARRATANcALTERNATE NUMBER TWOeTHREEeFOUReFIVEeSIXeSEVENeEIGHTeNINEeTEN
  eFOUR HUNDREDeSIX HUNDREDeTWO THOUSANDeTEN THOUSANDcFRACTION ONE HALFeSIXTH=1EE00
  aARABIC MATHEMATIC#ALEFcBEHcJEEMcD#=1EE05cWAWcZAINcHAHcTAHcYEHcKAFcLAMcMEEMcNOONcSEENcAINcFEHcSAD
  cQAFcREHcSHEENcTEHcTHEHcKHAHcTH#cDADcZAHcGHAINcDOTLESS BEHdNOONdFEHdQAF=1EE21c[BEHdJEEM=1EE24dHEH
  =1EE27dHAH=1EE29dYEHdKAFdLAMdMEEMdNOONdSEENdAINdFEHdSADdQAF=1EE34dSHEENdTEHdTHEHdKHAH=1EE39dDAD
  =1EE3BdGHAIN=1EE42cTAILED JEEM=1EE47dHAH=1EE49dYEH=1EE4BdLAM=1EE4DdNOONdSEENdAIN=1EE51dSADdQAF
  =1EE54dSHEEN=1EE57dKHAH=1EE59dDAD=1EE5BdGHAIN=1EE5DdDOTLESS NOON=1EE5FeQAF=1EE61cSTRETCHED BEH
  dJEEM=1EE64dHEH=1EE67dHAHdTAHdYEHdKAF=1EE6CdMEEMdNOONdSEENdAINdFEHdSADdQAF=1EE74dSHEENdTEHdTHEH
  dKHAH=1EE79dDADdZAHdGHAINdDOTLESS BEH=1EE7EeFEH=1EE80cLOOPED ALEFdBEHdJEEMdD#dHEHdWAWdZAINdHAHdTAH
  dYEH=1EE8BdLAMdMEEMdNOONdSEENdAINdFEHdSADdQAFdREHdSHEENdTEHdTHEHdKHAHdTH#dDADdZAHdGHAIN=1EEA1
  cDOUBLE-STRUCK BEHdJEEMdD#=1EEA5dWAWdZAINdHAHdTAHdYEH=1EEABdLAMdMEEMdNOONdSEENdAINdFEHdSADdQAFdREH
  dSHEENdTEHdTHEHdKHAHdTH#dDADdZAHdGHAIN=1EEF0cOPERATOR MEEM&HAH&TATWEELdHAH&D#"

end CaseDict.Text.CharacterName
