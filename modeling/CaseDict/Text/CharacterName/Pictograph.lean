import CaseDict.Text.CharacterName.Listing
/-! # Names of pictographs -/

namespace CaseDict.Text.CharacterName

/-- Names of playing pieces, pictographs, tags and selectors, from U+1F000 on. -/
def pictograph : Listing :=
  "=1F000aMAHJONG TILE EAST WINDcSOUTH WINDcWEST WINDcNORTH WINDcRED DRAGONcGREEN DRAGON
  cWHITE DRAGONcONE OF CHARACTERScTWO OF CHARACTERScTHREE OF CHARACTERScFOUR OF CHARACTERS
  cFIVE OF CHARACTERScSIX OF CHARACTERScSEVEN OF CHARACTERScEIGHT OF CHARACTERScNINE OF CHARACTERS
  cONE OF BAMBOOScTWO OF BAMBOOScTHREE OF BAMBOOScFOUR OF BAMBOOScFIVE OF BAMBOOScSIX OF BAMBOOS
  cSEVEN OF BAMBOOScEIGHT OF BAMBOOScNINE OF BAMBOOScONE OF CIRCLEScTWO OF CIRCLEScTHREE OF CIRCLES
  cFOUR OF CIRCLEScFIVE OF CIRCLEScSIX OF CIRCLEScSEVEN OF CIRCLEScEIGHT OF CIRCLEScNINE OF CIRCLES
  cPLUMcORCHIDcBAMBOOcCHRYSANTHEMUMcSPRINGcSUMMERcAUTUMNcWINTERcJOKERcBACK=1F030
  aDOMINO TILE HORIZONT#BACKcHORIZONTAL-00-00*6cHORIZONTAL-01-00*6cHORIZONTAL-02-00*6
  cHORIZONTAL-03-00*6cHORIZONTAL-04-00*6cHORIZONTAL-05-00*6cHORIZONTAL-06-00*6c|BACKcVERTICAL-00-00
  *6cVERTICAL-01-00*6cVERTICAL-02-00*6cVERTICAL-03-00*6cVERTICAL-04-00*6cVERTICAL-05-00*6
  cVERTICAL-06-00*6=1F0A0aPLAYING CARD BACKcACE OF SPADEScTWO OF SPADEScTHREE OF SPADES
  cFOUR OF SPADEScFIVE OF SPADEScSIX OF SPADEScSEVEN OF SPADEScEIGHT OF SPADEScNINE OF SPADES
  cTEN OF SPADEScJACK OF SPADEScKNIGHT OF SPADEScQUEEN OF SPADEScKING OF SPADES=1F0B1cACE OF HEARTS
  cTWO OF HEARTScTHREE OF HEARTScFOUR OF HEARTScFIVE OF HEARTScSIX OF HEARTScSEVEN OF HEARTS
  cEIGHT OF HEARTScNINE OF HEARTScTEN OF HEARTScJACK OF HEARTScKNIGHT OF HEARTScQUEEN OF HEARTS
  cKING OF HEARTScRED JOKER=1F0C1cACE OF DIAMONDScTWO OF DIAMONDScTHREE OF DIAMONDScFOUR OF DIAMONDS
  cFIVE OF DIAMONDScSIX OF DIAMONDScSEVEN OF DIAMONDScEIGHT OF DIAMONDScNINE OF DIAMONDS
  cTEN OF DIAMONDScJACK OF DIAMONDScKNIGHT OF DIAMONDScQUEEN OF DIAMONDScKING OF DIAMONDS
  cBLACK JOKER=1F0D1cACE OF CLUBScTWO OF CLUBScTHREE OF CLUBScFOUR OF CLUBScFIVE OF CLUBS
  cSIX OF CLUBScSEVEN OF CLUBScEIGHT OF CLUBScNINE OF CLUBScTEN OF CLUBScJACK OF CLUBS
  cKNIGHT OF CLUBScQUEEN OF CLUBScKING OF CLUBScWHITE JOKERcFOOLcTRUMP-1*20=1F100
  aDIGIT ZERO FULL STOPcCOMMAbONE COMMAbTWO COMMAbTHREE COMMAbFOUR COMMAbFIVE COMMAbSIX COMMA
  bSEVEN COMMAbEIGHT COMMAbNINE COMMAaDINGBAT CIRCLED SANS-SERIF DIGIT ZERO
  bNEGATIVE CIRCLED SANS-SERIF DIGIT ZEROaCIRCLED ZERO&SLASHbANTICLOCKWISE~
  bDOLLAR$&OVERLAID BACKSLASHaPARENTHESIZED LATIN!.A*25aTORTOISE SHELL BRACKETED LATIN!.S
  aCIRCLED ITALIC LATIN!.CfRbCDbWZaCOPYLEFT?aSQUARED LATIN!.A*25bHVbMVbSDbSSbPPVbWC
  aNEGATIVE CIRCLED LATIN!.A*25aRAISED MC$bMD$bMR$aCIRCLED CCbC&OVERLAID BACKSLASHbHUMAN FIGURE
  aNEGATIVE SQUARED LATIN!.A*25aCROSSED NEGATIVE SQUARED LATIN!.PaNEGATIVE SQUARED ICcPAcSAcABcWC
  aSQUARE DJaSQUARED CLbCOOLbFREEbIDbNEWbNGbOKbSOSbUP&EXCLAMATION MARKbVSbTHREE DbSECOND SCREEN
  bTWO KbFOUR KbEIGHT KbFIVE POINT ONEbSEVEN POINT ONEbTWENTY-TWO POINT TWObSIXTY P
  bONE HUNDRED TWENTY PbLATIN,.DbHCbHDRbHI-RESbLOSSLESSbSHVbUHDbVODaMASK WORK?=1F1E6
  aREGION#INDICATOR?.A*25aSQUARE HIRAGANA HOKAaSQUARED KATAKANA KOKOcSA=1F210
  bCJK UNIFIED IDEOGRAPH-624BdIDEOGRAPH-5B57dIDEOGRAPH-53CCbKATAKANA DEbCJK UNIFIED IDEOGRAPH-4E8C
  dIDEOGRAPH-591AdIDEOGRAPH-89E3dIDEOGRAPH-5929dIDEOGRAPH-4EA4dIDEOGRAPH-6620dIDEOGRAPH-7121
  dIDEOGRAPH-6599dIDEOGRAPH-524DdIDEOGRAPH-5F8CdIDEOGRAPH-518DdIDEOGRAPH-65B0dIDEOGRAPH-521D
  dIDEOGRAPH-7D42dIDEOGRAPH-751FdIDEOGRAPH-8CA9dIDEOGRAPH-58F0dIDEOGRAPH-5439dIDEOGRAPH-6F14
  dIDEOGRAPH-6295dIDEOGRAPH-6355dIDEOGRAPH-4E00dIDEOGRAPH-4E09dIDEOGRAPH-904AdIDEOGRAPH-5DE6
  dIDEOGRAPH-4E2DdIDEOGRAPH-53F3dIDEOGRAPH-6307dIDEOGRAPH-8D70dIDEOGRAPH-6253dIDEOGRAPH-7981
  dIDEOGRAPH-7A7AdIDEOGRAPH-5408dIDEOGRAPH-6E80dIDEOGRAPH-6709dIDEOGRAPH-6708dIDEOGRAPH-7533
  dIDEOGRAPH-5272dIDEOGRAPH-55B6dIDEOGRAPH-914D=1F240
  aTORTOISE SHELL BRACKETED CJK UNIFIED IDEOGRAPH-672CfIDEOGRAPH-4E09fIDEOGRAPH-4E8CfIDEOGRAPH-5B89
  fIDEOGRAPH-70B9fIDEOGRAPH-6253fIDEOGRAPH-76D7fIDEOGRAPH-52DDfIDEOGRAPH-6557=1F250
  aCIRCLED IDEOGRAPH ADVANTAGEcACCEPT=1F260aROUNDED?FOR FUdLUdSHOUdXIdSHUANGXIdCAI=1F300aCYCLONE
  aFOGGYaCLOSED UMBRELLAaNIGHT&STARSaSUNRISE OVER MOUNTAINSaSUNRISEaCITYSCAPE AT DUSK
  aSUNSET OVER BUILDINGSaRAINBOWaBRIDGE AT NIGHTaWATER WAVEaVOLCANOaMILKY WAY
  aEARTH GLOBE EUROPE-AFRICAcAMERICAScASIA-AUSTRALIAaGLOBE&MERIDIANSaNEW MOON?aWAXING CRESCENT MOON?
  aFIRST QUARTER MOON?aWAXING GIBBOUS MOON?aFULL MOON?aWANING GIBBOUS MOON?aLAST QUARTER MOON?
  aWANING CRESCENT MOON?aCRESCENT MOONaNEW MOON&FACEaFIRST QUARTER MOON&FACEaLAST QUARTER MOON&FACE
  aFULL MOON&FACEaSUN&FACEaGLOWING STARaSHOOTING STARaTHERMOMETERaBLACK DROPLETaWHITE SUNc&,CLOUD
  cBEHIND CLOUDe&RAINaCLOUD&RAINcSNOWcLIGHTNINGcTORNADOaFOGaWIND BLOWING FACEaHOT DOGaTACOaBURRITO
  aCHESTNUTaSEEDLINGaEVERGREEN TREEaDECIDUOUS TREEaPALM TREEaCACTUSaHOT PEPPERaTULIPaCHERRY BLOSSOM
  aROSEaHIBISCUSaSUNFLOWERaBLOSSOMaEAR OF MAIZEcRICEaHERBaFOUR LEAF CLOVERaMAPLE LEAFaFALLEN LEAF
  aLEAF FLUTTERING IN WINDaMUSHROOMaTOMATOaAUBERGINEaGRAPESaMELONaWATERMELONaTANGERINEaLEMONaBANANA
  aPINEAPPLEaRED APPLEaGREEN APPLEaPEARaPEACHaCHERRIESaSTRAWBERRYaHAMBURGERaSLICE OF PIZZA
  aMEAT ON BONEaPOULTRY LEGaRICE CRACKERbBALLaCOOKED RICEaCURRY+RICEaSTEAMING BOWLaSPAGHETTIaBREAD
  aFRENCH FRIESaROASTED SWEET POTATOaDANGOaODENaSUSHIaFRIED SHRIMPaFISH CAKE&SWIRL DESIGN
  aSOFT ICE CREAMaSHAVED ICEaICE CREAMaDOUGHNUTaCOOKIEaCHOCOLATE BARaCANDYaLOLLIPOPaCUSTARD
  aHONEY POTaSHORTCAKEaBENTO BOXaPOT OF FOODaCOOKINGaFORK+KNIFEaTEACUP WITHOUT HANDLE
  aSAKE BOTTLE+CUPaWINE GLASSaCOCKTAIL GLASSaTROPIC#DRINKaBEER MUGaCLINKING BEER MUGSaBABY BOTTLE
  aFORK+KNIFE&PLATEaBOTTLE&POPPING CORKaPOPCORNaRIBBONaWRAPPED PRESENTaBIRTHDAY CAKEaJACK-O-LANTERN
  aCHRISTMAS TREEaFATHER CHRISTMASaFIREWORKSaFIREWORK SPARKLERaBALLOONaPARTY POPPERaCONFETTI BALL
  aTANABATA TREEaCROSSED FLAGSaPINE DECORATIONaJAPANESE DOLLSaCARP STREAMERaWIND CHIME
  aMOON VIEWING CEREMONYaSCHOOL SATCHELaGRADUATION CAPaHEART&TIP ON THE<aBOUQUET OF FLOWERS
  aMILITARY MED#aREMINDER RIBBONaMUSIC#KEYBOARD&JACKSaSTUDIO MICROPHONEaLEVEL SLIDERaCONTROL KNOBS
  aBEAMED ASCENDING MUSIC#NOTESbDESCENDING MUSIC#NOTESaFILM FRAMESaADMISSION TICKETSaCAROUSEL HORSE
  aFERRIS WHEELaROLLER COASTERaFISHING POLE+FISHaMICROPHONEaMOVIE CAMERAaCINEMAaHEADPHONE
  aARTIST PALETTEaTOP HATaCIRCUS TENTaTICKETaCLAPPER BOARDaPERFORMING ARTSaVIDEO GAMEaDIRECT HIT
  aSLOT MACHINEaBILLIARDSaGAME DIEaBOWLINGaFLOWER PLAYING CARDSaMUSIC#NOTEaMULTIPLE MUSIC#NOTES
  aSAXOPHONEaGUITARaMUSIC#KEYBOARDaTRUMPETaVIOLINaMUSIC#SCOREaRUNNING SHIRT&SASHaTENNIS RACQUET+BALL
  aSKI+SKI BOOTaBASKETBALL+HOOPaCHEQUERED FLAGaSNOWBOARDERaRUNNERaSURFERaSPORTS MED#aTROPHY
  aHORSE RACINGaAMERICAN FOOTBALLaRUGBY FOOTBALLaSWIMMERaWEIGHT LIFTERaGOLFERaRACING MOTORCYCLEbCAR
  aCRICKET BAT+BALLaVOLLEYBALLaFIELD HOCKEY STICK+BALLaICE HOCKEY STICK+PUCK
  aTABLE TENNIS PADDLE+BALLaSNOW CAPPED MOUNTAINaCAMPINGaBEACH&UMBRELLAaBUILDING CONSTRUCTION
  aHOUSE BUILDINGSaCITYSCAPEaDERELICT HOUSE BUILDINGaCLASSIC#BUILDINGaDESERTbISLANDaNATION#PARK
  aSTADIUMaHOUSE BUILDINGb&GARDENaOFFICE BUILDINGaJAPANESE POST OFFICEaEUROPEAN POST OFFICEaHOSPIT#
  aBANKaAUTOMATED TELLER MACHINEaHOTELaLOVE HOTELaCONVENIENCE STOREaSCHOOLaDEPARTMENT STOREaFACTORY
  aIZAKAYA LANTERNaJAPANESE CASTLEaEUROPEAN CASTLEaWHITE PENNANTaBLACK PENNANTaWAVING WHITE FLAG
  bBLACK FLAGaROSETTEaBLACK ROSETTEaLABELaBADMINTON RACQUET+SHUTTLECOCKaBOW+~aAMPHORA
  aEMOJI MODIFIER FITZPATRICK TYPE-1-2dTYPE-3*3aRATaMOUSEaOXaWATER BUFFALOaCOWaTIGERaLEOPARDaRABBIT
  aCATaDRAGONaCROCODILEaWHALEaSNAILaSNAKEaHORSEaRAMaGOATaSHEEPaMONKEYaROOSTERaCHICKENaDOGaPIGaBOAR
  aELEPHANTaOCTOPUSaSPIR#SHELLaBUGaANTaHONEYBEEaLADY BEETLEaFISHaTROPIC#FISHaBLOWFISHaTURTLE
  aHATCHING CHICKaBABY CHICKaFRONT-FACING BABY CHICKaBIRDaPENGUINaKOALAaPOODLEaDROMEDARY CAMEL
  aBACTRIAN CAMELaDOLPHINaMOUSE FACEaCOW FACEaTIGER FACEaRABBIT FACEaCAT FACEaDRAGON FACE
  aSPOUTING WHALEaHORSE FACEaMONKEY FACEaDOG FACEaPIG FACEaFROG FACEaHAMSTER FACEaWOLF FACE
  aBEAR FACEaPANDA FACEaPIG NOSEaPAW PRINTSaCHIPMUNKaEYESaEYEaEARaNOSEaMOUTHaTONGUE
  aWHITE UP POINTING BACKHAND INDEXbDOWN POINTING BACKHAND INDEXb<POINTING BACKHAND INDEX
  b>POINTING BACKHAND INDEXaFISTED HAND$aWAVING HAND$aOK HAND$aTHUMBS UP$bDOWN$aCLAPPING HANDS$
  aOPEN HANDS$aCROWNaWOMANS HATaEYEGLASSESaNECKTIEaT-SHIRTaJEANSaDRESSaKIMONOaBIKINIaWOMANS CLOTHES
  aPURSEaHANDBAGaPOUCHaMANS SHOEaATHLETIC SHOEaHIGH-HEELED SHOEaWOMANS SAND#bBOOTSaFOOTPRINTS
  aBUST IN SILHOUETTEaBUSTS IN SILHOUETTEaBOYaGIRLaMANaWOMANaFAMILYaMAN+WOMAN HOLDING HANDS
  aTWO MEN HOLDING HANDSbWOMEN HOLDING HANDSaPOLICE OFFICERaWOMAN&BUNNY EARSaBRIDE&VEIL
  aPERSON&BLOND HAIRaMAN&GUA PI MAOcTURBANaOLDER MANbWOMANaBABYaCONSTRUCTION WORKERaPRINCESS
  aJAPANESE OGREbGOBLINaGHOSTaBABY ANGELaEXTRATERRESTRI#ALIENaALIEN MONSTERaIMPaSKULL
  aINFORMATION DESK PERSONaGUARDSMANaDANCERaLIPSTICKaNAIL POLISHaFACE MASSAGEaHAIRCUTaBARBER POLE
  aSYRINGEaPILLaKISS MARKaLOVE.aRINGaGEM STONEaKISSaBOUQUETaCOUPLE&HEARTaWEDDINGaBEATING HEART
  aBROKEN HEARTaTWO HEARTSaSPARKLING HEARTaGROWING HEARTaHEART&~aBLUE HEARTaGREEN HEARTaYELLOW HEART
  aPURPLE HEARTaHEART&RIBBONaREVOLVING HEARTSaHEART DECORATIONaDIAMOND SHAPE&A DOT INSIDE
  aELECTRIC LIGHT BULBaANGER?aBOMBaSLEEPING?aCOLLISION?aSPLASHING SWEAT?aDROPLETaDASH?aPILE OF POO
  aFLEXED BICEPSaDIZZY?aSPEECH BALLOONaTHOUGHT BALLOONaWHITE FLOWERaHUNDRED POINTS?aMONEY BAG
  aCURRENCY EXCHANGEaHEAVY DOLLAR$aCREDIT CARDaBANKNOTE&YEN$cDOLLAR$cEURO$cPOUND$aMONEY&WINGS
  aCHART&UPWARDS TREND+YEN$aSEATaPERSON#COMPUTERaBRIEFCASEaMINIDISCaFLOPPY DISKaOPTIC#DISCaDVD
  aFILE FOLDERaOPEN FILE FOLDERaPAGE&CURLbFACING UPaCALENDARaTEAR-OFF CALENDARaCARD INDEX
  aCHART&UPWARDS TRENDcDOWNWARDS TRENDaBAR CHARTaCLIPBOARDaPUSHPINaROUND PUSHPINaPAPERCLIP
  aSTRAIGHT RULERaTRIANGULAR RULERaBOOKMARK TABSaLEDGERaNOTEBOOKb&DECORATIVE COVERaCLOSED BOOK
  aOPEN BOOKaGREEN BOOKaBLUE BOOKaORANGE BOOKaBOOKSaNAME BADGEaSCROLLaMEMOaTELEPHONE RECEIVERaPAGER
  aFAX MACHINEaSATELLITE ANTENNAaPUBLIC ADDRESS LOUDSPEAKERaCHEERING MEGAPHONEaOUTBOX TRAY
  aINBOX TRAYaPACKAGEaE-MAIL?aINCOMING ENVELOPEaENVELOPE&DOWNWARDS~^aCLOSED MAILBOX&LOWERED FLAG
  dRAISED FLAGaOPEN MAILBOX&RAISED FLAGdLOWERED FLAGaPOSTBOXaPOST#HORNaNEWSPAPERaMOBILE PHONEc&)~AT<
  aVIBRATION MODEaMOBILE PHONE OFFaNO MOBILE PHONESaANTENNA&BARSaCAMERAb&FLASHaVIDEO CAMERA
  aTELEVISIONaRADIOaVIDEOCASSETTEaFILM PROJECTORaPORTABLE STEREOaPRAYER BEADSaTWISTED)ARROWS
  aCLOCKWISE)+(OPEN CIRCLE ARROWSh&CIRCLED ONE OVERLAYbDOWNWARDS+UPWARDS OPEN CIRCLE ARROWS
  aANTICLOCKWISE DOWNWARDS+UPWARDS OPEN CIRCLE ARROWSaLOW BRIGHTNESS?aHIGH BRIGHTNESS?
  aSPEAKER&CANCELLATION STROKEaSPEAKERb&ONE SOUND WAVEcTHREE SOUND WAVESaBATTERYaELECTRIC PLUG
  aLEFT-POINTING MAGNIFYING GLASSaRIGHT-POINTING MAGNIFYING GLASSaLOCK&INK PENaCLOSED LOCK&KEYaKEY
  aLOCKaOPEN LOCKaBELLb&CANCELLATION STROKEaBOOKMARKaLINK?aRADIO BUTTONaBACK&(~^aEND&(~^
  aON&EXCLAMATION MARK&<>~^aSOON&)~^aTOP&UPWARDS~^aNO ONE UNDER EIGHTEEN?aKEYCAP TEN
  aINPUT?FOR LATIN!LETTERSsdNUMBERSdSYMBOLSdLATIN LETTERSaFIREaELECTRIC TORCHaWRENCHaHAMMERaNUT+BOLT
  aHOCHOaPISTOLaMICROSCOPEaTELESCOPEaCRYST#BALLaSIX POINTED STAR&MIDDLE DOTaJAPANESE?FOR BEGINNER
  aTRIDENT EMBLEMaBLACK SQUARE BUTTONaWHITE SQUARE BUTTONaLARGE RED CIRCLEbBLUE CIRCLE
  bORANGE DIAMONDbBLUE DIAMONDa,ORANGE DIAMONDbBLUE DIAMONDaUP-POINTING RED TRIANGLE
  aDOWN-POINTING RED TRIANGLEaUP-POINTING,RED TRIANGLEaDOWN-POINTING,RED TRIANGLE
  aLOWER>SHADOWED WHITE CIRCLEaUPPER>SHADOWED WHITE CIRCLEaCIRCLED CROSS POMMEE
  aCROSS POMMEE&HALF-CIRCLE_bPOMMEEaNOTCHED<SEMICIRCLE&THREE DOTSb>SEMICIRCLE&THREE DOTS
  a?FOR MARKS CHAPTERaWHITE LATIN CROSSaHEAVY LATIN CROSSaCELTIC CROSSaOM?aDOVE OF PEACEaKAABA
  aMOSQUEaSYNAGOGUEaMENORAH&NINE BRANCHESaBOWL OF HYGIEIAaCLOCK FACE ONE OCLOCKcTWO OCLOCK
  cTHREE OCLOCKcFOUR OCLOCKcFIVE OCLOCKcSIX OCLOCKcSEVEN OCLOCKcEIGHT OCLOCKcNINE OCLOCKcTEN OCLOCK
  cELEVEN OCLOCKcTWELVE OCLOCKcONE-THIRTYcTWO-THIRTYcTHREE-THIRTYcFOUR-THIRTYcFIVE-THIRTYcSIX-THIRTY
  cSEVEN-THIRTYcEIGHT-THIRTYcNINE-THIRTYcTEN-THIRTYcELEVEN-THIRTYcTWELVE-THIRTYa>SPEAKER
  c&ONE SOUND WAVEdTHREE SOUND WAVESaBULLHORNb&SOUND WAVESaRINGING BELLaBOOKaCANDLE
  aMANTELPIECE CLOCKaBLACK SKULL+CROSSBONESaNO PIRACYaHOLEaMAN IN BUSINESS SUIT LEVITATING
  aSLEUTH OR SPYaDARK SUNGLASSESaSPIDERbWEBaJOYSTICKaMAN DANCINGa<HAND TELEPHONE RECEIVER
  aTELEPHONE RECEIVER&PAGEa>HAND TELEPHONE RECEIVERaWHITE TOUCHTONE TELEPHONE
  aBLACK TOUCHTONE TELEPHONEaTELEPHONE ON TOP OF MODEMaCLAMSHELL MOBILE PHONEaBACK OF ENVELOPE
  aSTAMPED ENVELOPEaENVELOPE&LIGHTNINGaFLYING ENVELOPEaPEN OVER STAMPED ENVELOPEaLINKED PAPERCLIPS
  aBLACK PUSHPINaLOWER<PENCILcBALLPOINT PENcFOUNTAIN PENcPAINTBRUSHcCRAYONa<WRITING HAND
  aTURNED OK HAND$aRAISED HAND&FINGERS SPLAYEDaREVERSED RAISED HAND&FINGERS SPLAYEDbTHUMBS UP$cDOWN$
  bVICTORY HANDbHAND&MIDDLE FINGER EXTENDEDaRAISED HAND&PART BETWEEN MIDDLE+RING FINGERS
  aWHITE DOWN POINTING<HAND INDEXaSIDEWAYS WHITE<POINTING INDEXc>POINTING INDEXbBLACK<POINTING INDEX
  c>POINTING INDEXaBLACK<POINTING BACKHAND INDEXb>POINTING BACKHAND INDEX
  aSIDEWAYS WHITE UP POINTING INDEXcDOWN POINTING INDEXbBLACK UP POINTING INDEXcDOWN POINTING INDEX
  aBLACK UP POINTING BACKHAND INDEXbDOWN POINTING BACKHAND INDEXbHEARTaDESKTOP COMPUTER
  aKEYBOARD+MOUSEaTHREE NETWORKED COMPUTERSaPRINTERaPOCKET CALCULATORaBLACK HARD SHELL FLOPPY DISK
  aWHITE HARD SHELL FLOPPY DISKaSOFT SHELL FLOPPY DISKaTAPE CARTRIDGEaWIRED KEYBOARD
  aONE BUTTON MOUSEaTWO BUTTON MOUSEaTHREE BUTTON MOUSEaTRACKBALLaOLD PERSON#COMPUTERaHARD DISK
  aSCREENaPRINTER ICONaFAX ICONaOPTIC#DISC ICONaDOCUMENT&TEXTd+PICTUREcPICTUREaFRAME&PICTUREcTILES
  cAN XaBLACK FOLDERaFOLDERaOPEN FOLDERaCARD INDEX DIVIDERSbFILE BOXaFILE CABINETaEMPTY NOTEcPAGE
  cPADaNOTEbPAGEbPADaEMPTY DOCUMENTbPAGEbPAGESaDOCUMENTaPAGEaPAGESaWASTEBASKETaSPIR#NOTE PAD
  bCALENDAR PADaDESKTOP WINDOWaMINIMIZEaMAXIMIZEaOVERLAPaCLOCKWISE>+<SEMICIRCLE ARROWS
  aCANCELLATION XaINCREASE FONT SIZE?aDECREASE FONT SIZE?aCOMPRESSIONaOLD KEYaROLLED-UP NEWSPAPER
  aPAGE&CIRCLED TEXTaSTOCK CHARTaDAGGER KNIFEaLIPSaSPEAKING HEAD IN SILHOUETTEaTHREE RAYS^c_c<c>
  a<SPEECH BUBBLEa>SPEECH BUBBLEaTWO SPEECH BUBBLESaTHREE SPEECH BUBBLESa<THOUGHT BUBBLE
  a>THOUGHT BUBBLEa<ANGER BUBBLEa>ANGER BUBBLEaMOOD BUBBLEaLIGHTNING MOOD BUBBLEbMOOD
  aBALLOT BOX&BALLOTbSCRIPT XbBOX&SCRIPT XbBOLD SCRIPT XbBOX&BOLD SCRIPT XaLIGHT CHECK MARK
  aBALLOT BOX&BOLD CHECKaWORLD MAPaMOUNT FUJIaTOKYO TOWERaSTATUE OF LIBERTYaSILHOUETTE OF JAPAN
  aMOYAIaGRINNING FACEc&SMILING EYESaFACE&TEARS OF JOYaSMILING FACE&OPEN MOUTHf+SMILING EYES
  gCOLD SWEATgTIGHTLY-CLOSED EYESdHALOdHORNSaWINKING FACEaSMILING FACE&SMILING EYES
  aFACE SAVOURING DELICIOUS FOODaRELIEVED FACEaSMILING FACE&HEART-SHAPED EYESdSUNGLASSES
  aSMIRKING FACEaNEUTR#FACEaEXPRESSIONLESS FACEaUNAMUSED FACEaFACE&COLD SWEATaPENSIVE FACE
  aCONFUSED FACEaCONFOUNDED FACEaKISSING FACEaFACE THROWING A KISSaKISSING FACE&SMILING EYES
  dCLOSED EYESaFACE&STUCK-OUT TONGUEe+WINKING EYEfTIGHTLY-CLOSED EYESaDISAPPOINTED FACEaWORRIED FACE
  aANGRY FACEaPOUTING FACEaCRYING FACEaPERSEVERING FACEaFACE&LOOK OF TRIUMPH
  aDISAPPOINTED BUT RELIEVED FACEaFROWNING FACE&OPEN MOUTHaANGUISHED FACEaFEARFUL FACEaWEARY FACE
  aSLEEPY FACEaTIRED FACEaGRIMACING FACEaLOUDLY CRYING FACEaFACE&OPEN MOUTHaHUSHED FACE
  aFACE&OPEN MOUTH+COLD SWEATbSCREAMING IN FEARaASTONISHED FACEaFLUSHED FACEaSLEEPING FACE
  aDIZZY FACEaFACE WITHOUT MOUTHb&MEDIC#MASKaGRINNING CAT FACE&SMILING EYESaCAT FACE&TEARS OF JOY
  aSMILING CAT FACE&OPEN MOUTHeHEART-SHAPED EYESaCAT FACE&WRY SMILEaKISSING CAT FACE&CLOSED EYES
  aPOUTING CAT FACEaCRYING CAT FACEaWEARY CAT FACEaSLIGHTLY FROWNING FACEbSMILING FACE
  aUPSIDE-DOWN FACEaFACE&ROLLING EYEScNO GOOD GESTUREcOK GESTUREaPERSON BOWING DEEPLY
  aSEE-NO-EVIL MONKEYaHEAR-NO-EVIL MONKEYaSPEAK-NO-EVIL MONKEYaHAPPY PERSON RAISING ONE HAND
  aPERSON RAISING BOTH HANDS IN CELEBRATIONbFROWNINGb&POUTING FACEcFOLDED HANDS
  aNORTH WEST POINTING LEAFaSOUTH WEST POINTING LEAFaNORTH EAST POINTING LEAF
  aSOUTH EAST POINTING LEAFaTURNED NORTH WEST POINTING LEAFbSOUTH WEST POINTING LEAF
  bNORTH EAST POINTING LEAFbSOUTH EAST POINTING LEAFaNORTH WEST POINTING VINE LEAF
  aSOUTH WEST POINTING VINE LEAFaNORTH EAST POINTING VINE LEAFaSOUTH EAST POINTING VINE LEAF
  aHEAVY NORTH WEST POINTING VINE LEAFbSOUTH WEST POINTING VINE LEAFbNORTH EAST POINTING VINE LEAF
  bSOUTH EAST POINTING VINE LEAFaNORTH WEST POINTING BUDaSOUTH WEST POINTING BUD
  aNORTH EAST POINTING BUDaSOUTH EAST POINTING BUDaHEAVY NORTH WEST POINTING BUD
  bSOUTH WEST POINTING BUDbNORTH EAST POINTING BUDbSOUTH EAST POINTING BUD
  aHOLLOW QUILT SQUARE ORNAMENTeIN BLACK SQUAREaSOLID QUILT SQUARE ORNAMENTeIN BLACK SQUAREa(ROCKET
  aUPWARDS ROCKETa)ROCKETaDOWNWARDS ROCKETaSCRIPT LIGATURE ET ORNAMENT
  aHEAVY SCRIPT LIGATURE ET ORNAMENTaLIGATURE OPEN ET ORNAMENTaHEAVY LIGATURE OPEN ET ORNAMENT
  bAMPERSAND ORNAMENTaSWASH AMPERSAND ORNAMENTaSANS-SERIF HEAVY:TURNED COMMA QUOTATION MARK ORNAMENT
  dCOMMA QUOTATION MARK ORNAMENTcLOW:COMMA QUOTATION MARK ORNAMENTaHEAVY INTERROBANG ORNAMENT
  aSANS-SERIF INTERROBANG ORNAMENTaHEAVY SANS-SERIF INTERROBANG ORNAMENTaVERY HEAVY SOLIDUS
  cREVERSE SOLIDUSaCHECKER BOARDaREVERSE CHECKER BOARDaROCKETaHELICOPTERaSTEAM LOCOMOTIVE
  aRAILWAY CARaHIGH-SPEED TRAINc&BULLET NOSEaTRAINaMETROaLIGHT RAILaSTATIONaTRAMbCARaBUS
  aONCOMING BUSaTROLLEYBUSaBUS STOPaMINIBUSaAMBULANCEaFIRE ENGINEaPOLICE CARaONCOMING POLICE CAR
  aTAXIaONCOMING TAXIaAUTOMOBILEaONCOMING AUTOMOBILEaRECREATION#VEHICLEaDELIVERY TRUCK
  aARTICULATED LORRYaTRACTORaMONORAILaMOUNTAIN RAILWAYaSUSPENSION RAILWAYaMOUNTAIN CABLEWAY
  aAERI#TRAMWAYaSHIPaROWBOATaSPEEDBOATaHORIZONT#TRAFFIC LIGHTa|TRAFFIC LIGHTaCONSTRUCTION$
  aPOLICE CARS REVOLVING LIGHTaTRIANGULAR FLAG ON POSTaDOORaNO ENTRY$aSMOKING?aNO SMOKING?
  aPUT LITTER IN ITS PLACE?aDO NOT LITTER?aPOTABLE WATER?aNON-POTABLE WATER?aBICYCLEaNO BICYCLES
  aBICYCLISTaMOUNTAIN BICYCLISTaPEDESTRIANaNO PEDESTRIANSaCHILDREN CROSSINGaMENS?aWOMENS?aRESTROOM
  aBABY?aTOILETaWATER CLOSETaSHOWERaBATHaBATHTUBaPASSPORT CONTROLaCUSTOMSaBAGGAGE CLAIMa<LUGGAGE
  aTRIANGLE&ROUNDED CORNERSaPROHIBITED$aCIRCLED INFORMATION SOURCEaBOYS?aGIRLS?aCOUCH+LAMP
  aSLEEPING ACCOMMODATIONaSHOPPING BAGSaBELLHOP BELLaBEDaPLACE OF WORSHIPaOCTAGON#$aSHOPPING TROLLEY
  aSTUPAaPAGODAaHINDU TEMPLEaHUTaELEVATOR=1F6DDaPLAYGROUND SLIDEaWHEELaRING BUOYaHAMMER+WRENCH
  aSHIELDaOIL DRUMaMOTORWAYaRAILWAY TRACKaMOTOR BOATaUP-POINTING MILITARY AIRPLANEbAIRPLANE
  b,AIRPLANEa,AIRPLANEaNORTHEAST-POINTING AIRPLANEaAIRPLANE DEPARTUREbARRIVING=1F6F0aSATELLITE
  aONCOMING FIRE ENGINEaDIESEL LOCOMOTIVEaPASSENGER SHIPaSCOOTERaMOTOR SCOOTERaCANOEaSLED
  aFLYING SAUCERaSKATEBOARDaAUTO RICKSHAWaPICKUP TRUCKaROLLER SKATE=1F700aALCHEMIC#?FOR QUINTESSENCE
  dAIRdFIREdEARTHdWATERdAQUAFORTISdAQUA REGIAeREGIA-2eVITAEeVITAE-2dVINEGARdVINEGAR-2*1dSULFUR
  dPHILOSOPHERS SULFURdBLACK SULFURdMERCURY SUBLIMATEeSUBLIMATE-2*1dCINNABARdSALTdNITREdVITRIOL
  dVITRIOL-2dROCK SALTeSALT-2dGOLDdSILVERdIRON OREeORE-2dCROCUS OF IRONdREGULUS OF IRONdCOPPER ORE
  dIRON-COPPER OREdSUBLIMATE OF COPPERdCROCUS OF COPPERfCOPPER-2dCOPPER ANTIMONIATE
  dSALT OF COPPER ANTIMONIATEdSUBLIMATE OF SALT OF COPPERdVERDIGRISdTIN OREdLEAD OREdANTIMONY ORE
  dSUBLIMATE OF ANTIMONYdSALT OF ANTIMONYdSUBLIMATE OF SALT OF ANTIMONYdVINEGAR OF ANTIMONY
  dREGULUS OF ANTIMONYfANTIMONY-2dREGULUSdREGULUS-2*2dALKALIdALKALI-2dMARCASITEdSAL-AMMONIACdARSENIC
  dREALGARdREALGAR-2dAURIPIGMENTdBISMUTH OREdTARTARdTARTAR-2dQUICK LIMEdBORAXdBORAX-2*1dALUMdOIL
  dSPIRITdTINCTUREdGUMdWAXdPOWDERdCALXdTUTTYdCAPUT MORTUUMdSCEPTER OF JOVEdCADUCEUSdTRIDENT
  dSTARRED TRIDENTdLODESTONEdSOAPdURINEdHORSE DUNGdASHESdPOT ASHESdBRICKdPOWDERED BRICKdAMALGAM
  dSTRATUM SUPER STRATUMfSTRATUM-2dSUBLIMATIONdPRECIPITATEdDISTILLdDISSOLVEdDISSOLVE-2dPURIFY
  dPUTREFACTIONdCRUCIBLEdCRUCIBLE-2*3dALEMBICdBATH OF MARYfVAPOURSdRETORTdHOURdNIGHTdDAY-NIGHTdMONTH
  dHALF DRAMeOUNCE=1F780aBLACK LEFT-POINTING ISOSCELES>TRIANGLEbUP-POINTING ISOSCELES>TRIANGLE
  bRIGHT-POINTING ISOSCELES>TRIANGLEbDOWN-POINTING ISOSCELES>TRIANGLEbSLIGHTLY,CIRCLE
  aMEDIUM BOLD WHITE CIRCLEaBOLD WHITE CIRCLEaHEAVY WHITE CIRCLEaVERY HEAVY WHITE CIRCLE
  aEXTREMELY HEAVY WHITE CIRCLEaWHITE CIRCLE CONTAINING BLACK,CIRCLEaROUND TARGETaBLACK TINY SQUARE
  bSLIGHTLY,SQUAREaLIGHT WHITE SQUAREaMEDIUM WHITE SQUAREaBOLD WHITE SQUAREaHEAVY WHITE SQUARE
  aVERY HEAVY WHITE SQUAREaEXTREMELY HEAVY WHITE SQUAREaWHITE SQUARE CONTAINING BLACK VERY,SQUARE
  eMEDIUM SQUAREaSQUARE TARGETaBLACK TINY DIAMONDbVERY,DIAMONDbMEDIUM,DIAMOND
  aWHITE DIAMOND CONTAINING BLACK VERY,DIAMONDeMEDIUM DIAMONDaDIAMOND TARGETaBLACK TINY LOZENGE
  bVERY,LOZENGEbMEDIUM,LOZENGEaWHITE LOZENGE CONTAINING BLACK,LOZENGEaTHIN GREEK CROSS
  aLIGHT GREEK CROSSaMEDIUM GREEK CROSSaBOLD GREEK CROSSaVERY BOLD GREEK CROSSbHEAVY GREEK CROSS
  aEXTREMELY HEAVY GREEK CROSSaTHIN SALTIREaLIGHT SALTIREaMEDIUM SALTIREaBOLD SALTIREaHEAVY SALTIRE
  aVERY HEAVY SALTIREaEXTREMELY HEAVY SALTIREaLIGHT FIVE SPOKED ASTERISKaMEDIUM FIVE SPOKED ASTERISK
  aBOLD FIVE SPOKED ASTERISKaHEAVY FIVE SPOKED ASTERISKaVERY HEAVY FIVE SPOKED ASTERISK
  aEXTREMELY HEAVY FIVE SPOKED ASTERISKaLIGHT SIX SPOKED ASTERISKaMEDIUM SIX SPOKED ASTERISK
  aBOLD SIX SPOKED ASTERISKaHEAVY SIX SPOKED ASTERISKaVERY HEAVY SIX SPOKED ASTERISK
  aEXTREMELY HEAVY SIX SPOKED ASTERISKaLIGHT EIGHT SPOKED ASTERISKaMEDIUM EIGHT SPOKED ASTERISK
  aBOLD EIGHT SPOKED ASTERISKaHEAVY EIGHT SPOKED ASTERISKaVERY HEAVY EIGHT SPOKED ASTERISK
  aLIGHT THREE POINTED BLACK STARaMEDIUM THREE POINTED BLACK STARaTHREE POINTED BLACK STAR
  aMEDIUM THREE POINTED PINWHEEL STARaLIGHT FOUR POINTED BLACK STARaMEDIUM FOUR POINTED BLACK STAR
  aFOUR POINTED BLACK STARaMEDIUM FOUR POINTED PINWHEEL STAR
  aREVERSE LIGHT FOUR POINTED PINWHEEL STARaLIGHT FIVE POINTED BLACK STAR
  aHEAVY FIVE POINTED BLACK STARaMEDIUM SIX POINTED BLACK STARaHEAVY SIX POINTED BLACK STAR
  aSIX POINTED PINWHEEL STARaMEDIUM EIGHT POINTED BLACK STARaHEAVY EIGHT POINTED BLACK STAR
  aVERY HEAVY EIGHT POINTED BLACK STARaHEAVY EIGHT POINTED PINWHEEL STAR
  aLIGHT TWELVE POINTED BLACK STARaHEAVY TWELVE POINTED BLACK STARdPINWHEEL STARaCIRCLED TRIANGLE
  aNEGATIVE CIRCLED TRIANGLEaCIRCLED SQUAREaNEGATIVE CIRCLED SQUARE=1F7E0aLARGE ORANGE CIRCLE
  bYELLOW CIRCLEbGREEN CIRCLEbPURPLE CIRCLEbBROWN CIRCLEbRED SQUAREbBLUE SQUAREbORANGE SQUARE
  bYELLOW SQUAREbGREEN SQUAREbPURPLE SQUAREbBROWN SQUARE=1F7F0aHEAVY EQUALS$=1F800
  a(~&,TRIANGLE ARROWHEADaUPWARDS~&,TRIANGLE ARROWHEADa)~&,TRIANGLE ARROWHEAD
  aDOWNWARDS~&,TRIANGLE ARROWHEADa(~&MEDIUM TRIANGLE ARROWHEADaUPWARDS~&MEDIUM TRIANGLE ARROWHEAD
  a)~&MEDIUM TRIANGLE ARROWHEADaDOWNWARDS~&MEDIUM TRIANGLE ARROWHEADa(~&LARGE TRIANGLE ARROWHEAD
  aUPWARDS~&LARGE TRIANGLE ARROWHEADa)~&LARGE TRIANGLE ARROWHEADaDOWNWARDS~&LARGE TRIANGLE ARROWHEAD
  =1F810a(~&,EQUILATER#ARROWHEADaUPWARDS~&,EQUILATER#ARROWHEADa)~&,EQUILATER#ARROWHEAD
  aDOWNWARDS~&,EQUILATER#ARROWHEADa(~&EQUILATER#ARROWHEADaUPWARDS~&EQUILATER#ARROWHEAD
  a)~&EQUILATER#ARROWHEADaDOWNWARDS~&EQUILATER#ARROWHEADaHEAVY(~&EQUILATER#ARROWHEAD
  bUPWARDS~&EQUILATER#ARROWHEADb)~&EQUILATER#ARROWHEADbDOWNWARDS~&EQUILATER#ARROWHEAD
  b(~&LARGE EQUILATER#ARROWHEADbUPWARDS~&LARGE EQUILATER#ARROWHEADb)~&LARGE EQUILATER#ARROWHEAD
  bDOWNWARDS~&LARGE EQUILATER#ARROWHEADa(TRIANGLE-HEADED~&NARROW SHAFT
  aUPWARDS TRIANGLE-HEADED~&NARROW SHAFTa)TRIANGLE-HEADED~&NARROW SHAFT
  aDOWNWARDS TRIANGLE-HEADED~&NARROW SHAFTa(TRIANGLE-HEADED~&MEDIUM SHAFT
  aUPWARDS TRIANGLE-HEADED~&MEDIUM SHAFTa)TRIANGLE-HEADED~&MEDIUM SHAFT
  aDOWNWARDS TRIANGLE-HEADED~&MEDIUM SHAFTa(TRIANGLE-HEADED~&BOLD SHAFT
  aUPWARDS TRIANGLE-HEADED~&BOLD SHAFTa)TRIANGLE-HEADED~&BOLD SHAFT
  aDOWNWARDS TRIANGLE-HEADED~&BOLD SHAFTa(TRIANGLE-HEADED~&HEAVY SHAFT
  aUPWARDS TRIANGLE-HEADED~&HEAVY SHAFTa)TRIANGLE-HEADED~&HEAVY SHAFT
  aDOWNWARDS TRIANGLE-HEADED~&HEAVY SHAFTa(TRIANGLE-HEADED~&VERY HEAVY SHAFT
  aUPWARDS TRIANGLE-HEADED~&VERY HEAVY SHAFTa)TRIANGLE-HEADED~&VERY HEAVY SHAFT
  aDOWNWARDS TRIANGLE-HEADED~&VERY HEAVY SHAFTa(FINGER-POST~aUPWARDS FINGER-POST~a)FINGER-POST~
  aDOWNWARDS FINGER-POST~a(SQUARED~aUPWARDS SQUARED~a)SQUARED~aDOWNWARDS SQUARED~a(COMPRESSED~
  aUPWARDS COMPRESSED~a)COMPRESSED~aDOWNWARDS COMPRESSED~a(HEAVY COMPRESSED~
  aUPWARDS HEAVY COMPRESSED~a)HEAVY COMPRESSED~aDOWNWARDS HEAVY COMPRESSED~a(HEAVY~aUPWARDS HEAVY~
  a)HEAVY~aDOWNWARDS HEAVY~=1F850a(SANS-SERIF~aUPWARDS SANS-SERIF~a)SANS-SERIF~
  aDOWNWARDS SANS-SERIF~aNORTH WEST SANS-SERIF~bEAST SANS-SERIF~aSOUTH EAST SANS-SERIF~
  bWEST SANS-SERIF~a<>SANS-SERIF~aUP DOWN SANS-SERIF~=1F860aWIDE-HEADED(LIGHT BARB~
  bUPWARDS LIGHT BARB~b)LIGHT BARB~bDOWNWARDS LIGHT BARB~bNORTH WEST LIGHT BARB~cEAST LIGHT BARB~
  bSOUTH EAST LIGHT BARB~cWEST LIGHT BARB~b(BARB~bUPWARDS BARB~b)BARB~bDOWNWARDS BARB~
  bNORTH WEST BARB~cEAST BARB~bSOUTH EAST BARB~cWEST BARB~b(MEDIUM BARB~bUPWARDS MEDIUM BARB~
  b)MEDIUM BARB~bDOWNWARDS MEDIUM BARB~bNORTH WEST MEDIUM BARB~cEAST MEDIUM BARB~
  bSOUTH EAST MEDIUM BARB~cWEST MEDIUM BARB~b(HEAVY BARB~bUPWARDS HEAVY BARB~b)HEAVY BARB~
  bDOWNWARDS HEAVY BARB~bNORTH WEST HEAVY BARB~cEAST HEAVY BARB~bSOUTH EAST HEAVY BARB~
  cWEST HEAVY BARB~b(VERY HEAVY BARB~bUPWARDS VERY HEAVY BARB~b)VERY HEAVY BARB~
  bDOWNWARDS VERY HEAVY BARB~bNORTH WEST VERY HEAVY BARB~cEAST VERY HEAVY BARB~
  bSOUTH EAST VERY HEAVY BARB~cWEST VERY HEAVY BARB~=1F890a(TRIANGLE ARROWHEAD
  aUPWARDS TRIANGLE ARROWHEADa)TRIANGLE ARROWHEADaDOWNWARDS TRIANGLE ARROWHEAD
  a(WHITE~WITHIN TRIANGLE ARROWHEADaUPWARDS WHITE~WITHIN TRIANGLE ARROWHEAD
  a)WHITE~WITHIN TRIANGLE ARROWHEADaDOWNWARDS WHITE~WITHIN TRIANGLE ARROWHEADa(~&NOTCHED TAIL
  aUPWARDS~&NOTCHED TAILa)~&NOTCHED TAILaDOWNWARDS~&NOTCHED TAILaHEAVY~SHAFT WIDTH ONEeTWO THIRDS
  eONE HALFfTHIRDa(BOTTOM-SHADED WHITE~a)BOTTOM SHADED WHITE~a(TOP SHADED WHITE~a)TOP SHADED WHITE~
  a(LEFT-SHADED WHITE~a)RIGHT-SHADED WHITE~a(RIGHT-SHADED WHITE~a)LEFT-SHADED WHITE~
  a(BACK-TILTED SHADOWED WHITE~a)BACK-TILTED SHADOWED WHITE~a(FRONT-TILTED SHADOWED WHITE~
  a)FRONT-TILTED SHADOWED WHITE~aWHITE~SHAFT WIDTH ONEeTWO THIRDS=1F8B0
  a~POINTING UPWARDS THEN NORTH WESTc)THEN CURVING SOUTH WEST=1F900aCIRCLED CROSS FORMEE&FOUR DOTS
  eTWO DOTScFORMEEa<HALF CIRCLE&FOUR DOTSeTHREE DOTSeTWO DOTSeDOTcCIRCLEaDOWNWARD FACING HOOK
  cNOTCHED HOOKcHOOK&DOTcNOTCHED HOOK&DOTaPINCHED FINGERSaWHITE HEARTaBROWN HEARTaPINCHING HAND
  aZIPPER-MOUTH FACEaMONEY-MOUTH FACEaFACE&THERMOMETERaNERD FACEaTHINKING FACEaFACE&HEAD-BANDAGE
  aROBOT FACEaHUGGING FACEa$OF THE HORNSaCALL ME HANDaRAISED BACK OF HANDaLEFT-FACING FIST
  aRIGHT-FACING FISTaHANDSHAKEaHAND&INDEX+MIDDLE FINGERS CROSSEDaI LOVE YOU HAND$aFACE&COWBOY HAT
  aCLOWN FACEaNAUSEATED FACEaROLLING ON THE FLOOR LAUGHINGaDROOLING FACEaLYING FACEaFACE PALM
  aSNEEZING FACEaFACE&ONE EYEBROW RAISEDaGRINNING FACE&STAR EYESdONE LARGE+ONE,EYE
  aFACE&FINGER COVERING CLOSED LIPSaSERIOUS FACE&SYMBOLS COVERING MOUTH
  aSMILING FACE&SMILING EYES+HAND COVERING MOUTHaFACE&OPEN MOUTH VOMITING
  aSHOCKED FACE&EXPLODING HEADaPREGNANT WOMANaBREAST-FEEDINGaPALMS UP TOGETHERaSELFIEaPRINCE
  aMAN IN TUXEDOaMOTHER CHRISTMASaSHRUGaPERSON DOING CARTWHEELaJUGGLINGaFENCERaMODERN PENTATHLON
  aWRESTLERSaWATER POLOaHANDBALLaDIVING MASKaWILTED FLOWERaDRUM&DRUMSTICKSaCLINKING GLASSES
  aTUMBLER GLASSaSPOONaGO#NETaRIFLEaFIRST PLACE MED#aSECOND PLACE MED#aTHIRD PLACE MED#aBOXING GLOVE
  aMARTI#ARTS UNIFORMaCURLING STONEaLACROSSE STICK+BALLaSOFTBALLaFLYING DISCaCROISSANTaAVOCADO
  aCUCUMBERaBACONaPOTATOaCARROTaBAGUETTE BREADaGREEN SALADaSHALLOW PAN OF FOODaSTUFFED FLATBREADaEGG
  aGLASS OF MILKaPEANUTSaKIWIFRUITaPANCAKESaDUMPLINGaFORTUNE COOKIEaTAKEOUT BOXaCHOPSTICKS
  aBOWL&SPOONaCUP&STRAWaCOCONUTaBROCCOLIaPIEaPRETZELaCUT OF MEATaSANDWICHaCANNED FOODaLEAFY GREEN
  aMANGOaMOON CAKEaBAGELaSMILING FACE&SMILING EYES+THREE HEARTSaYAWNING FACEaSMILING FACE&TEAR
  aFACE&PARTY HORN+PARTY HATcUNEVEN EYES+WAVY MOUTHaOVERHEATED FACEaFREEZING FACEaNINJA
  aDISGUISED FACEaFACE HOLDING BACK TEARSb&PLEADING EYESaSARIaLAB COATaGOGGLESaHIKING BOOTaFLAT SHOE
  aCRABaLION FACEaSCORPIONaTURKEYaUNICORN FACEaEAGLEaDUCKaBATaSHARKaOWLaFOX FACEaBUTTERFLYaDEER
  aGORILLAaLIZARDaRHINOCEROSaSHRIMPaSQUIDaGIRAFFE FACEaZEBRA FACEaHEDGEHOGaSAUROPODaT-REXaCRICKET
  aKANGAROOaLLAMAaPEACOCKaHIPPOPOTAMUSaPARROTaRACCOONaLOBSTERaMOSQUITOaMICROBEaBADGERaSWANaMAMMOTH
  aDODOaSLOTHaOTTERaORANGUTANaSKUNKaFLAMINGOaOYSTERaBEAVERaBISONaSE#aGUIDE DOGaPROBING CANE
  aEMOJI COMPONENT RED HAIRcCURLY HAIRcBALDcWHITE HAIRaBONEaLEGaFOOTaTOOTHaSUPERHEROaSUPERVILLAIN
  aSAFETY VESTaEAR&HEARING AIDaMOTORIZED WHEELCHAIRaMANU#WHEELCHAIRaMECHANIC#ARMbLEGaCHEESE WEDGE
  aCUPCAKEaSALT SHAKERaBEVERAGE BOXaGARLICaONIONaFALAFELaWAFFLEaBUTTERaMATE DRINKaICE CUBE
  aBUBBLE TEAaTROLLaSTANDING PERSONaKNEELING PERSONaDEAF PERSONaFACE&MONOCLEaADULTaCHILDaOLDER ADULT
  aBEARDED PERSONaPERSON&HEADSCARFbIN STEAMY ROOMbCLIMBINGbIN LOTUS POSITIONaMAGEaFAIRYaVAMPIRE
  aMERPERSONaELFaGENIEaZOMBIEaBRAINaORANGE HEARTaBILLED CAPaSCARFaGLOVESaCOATaSOCKS
  aRED GIFT ENVELOPEaFIRECRACKERaJIGSAW PUZZLE PIECEaTEST TUBEaPETRI DISHaDNA:HELIXaCOMPASSaABACUS
  aFIRE EXTINGUISHERaTOOLBOXaBRICKaMAGNETaLUGGAGEaLOTION BOTTLEaSPOOL OF THREADaBALL OF YARN
  aSAFETY PINaTEDDY BEARaBROOMaBASKETaROLL OF PAPERaBAR OF SOAPaSPONGEaRECEIPTaNAZAR AMULET
  aNEUTR#CHESS KINGcQUEENcROOKcBISHOPcKNIGHTcPAWNaWHITE CHESS KNIGHT ROTATED FORTY-FIVE DEGREES
  aBLACK CHESS KNIGHT ROTATED FORTY-FIVE DEGREESaNEUTR#CHESS KNIGHT ROTATED FORTY-FIVE DEGREES
  aWHITE CHESS KING ROTATED NINETY DEGREEScQUEEN ROTATED NINETY DEGREEScROOK ROTATED NINETY DEGREES
  cBISHOP ROTATED NINETY DEGREEScKNIGHT ROTATED NINETY DEGREEScPAWN ROTATED NINETY DEGREES
  aBLACK CHESS KING ROTATED NINETY DEGREEScQUEEN ROTATED NINETY DEGREEScROOK ROTATED NINETY DEGREES
  cBISHOP ROTATED NINETY DEGREEScKNIGHT ROTATED NINETY DEGREEScPAWN ROTATED NINETY DEGREES
  aNEUTR#CHESS KING ROTATED NINETY DEGREEScQUEEN ROTATED NINETY DEGREEScROOK ROTATED NINETY DEGREES
  cBISHOP ROTATED NINETY DEGREEScKNIGHT ROTATED NINETY DEGREEScPAWN ROTATED NINETY DEGREES
  aWHITE CHESS KNIGHT ROTATED ONE HUNDRED THIRTY-FIVE DEGREES
  aBLACK CHESS KNIGHT ROTATED ONE HUNDRED THIRTY-FIVE DEGREES
  aNEUTR#CHESS KNIGHT ROTATED ONE HUNDRED THIRTY-FIVE DEGREESaWHITE CHESS TURNED KINGdQUEENdROOK
  dBISHOPdKNIGHTdPAWNaBLACK CHESS TURNED KINGdQUEENdROOKdBISHOPdKNIGHTdPAWNaNEUTR#CHESS TURNED KING
  dQUEENdROOKdBISHOPdKNIGHTdPAWNaWHITE CHESS KNIGHT ROTATED TWO HUNDRED TWENTY-FIVE DEGREES
  aBLACK CHESS KNIGHT ROTATED TWO HUNDRED TWENTY-FIVE DEGREES
  aNEUTR#CHESS KNIGHT ROTATED TWO HUNDRED TWENTY-FIVE DEGREES
  aWHITE CHESS KING ROTATED TWO HUNDRED SEVENTY DEGREEScQUEEN ROTATED TWO HUNDRED SEVENTY DEGREES
  cROOK ROTATED TWO HUNDRED SEVENTY DEGREEScBISHOP ROTATED TWO HUNDRED SEVENTY DEGREES
  cKNIGHT ROTATED TWO HUNDRED SEVENTY DEGREEScPAWN ROTATED TWO HUNDRED SEVENTY DEGREES
  aBLACK CHESS KING ROTATED TWO HUNDRED SEVENTY DEGREEScQUEEN ROTATED TWO HUNDRED SEVENTY DEGREES
  cROOK ROTATED TWO HUNDRED SEVENTY DEGREEScBISHOP ROTATED TWO HUNDRED SEVENTY DEGREES
  cKNIGHT ROTATED TWO HUNDRED SEVENTY DEGREEScPAWN ROTATED TWO HUNDRED SEVENTY DEGREES
  aNEUTR#CHESS KING ROTATED TWO HUNDRED SEVENTY DEGREEScQUEEN ROTATED TWO HUNDRED SEVENTY DEGREES
  cROOK ROTATED TWO HUNDRED SEVENTY DEGREEScBISHOP ROTATED TWO HUNDRED SEVENTY DEGREES
  cKNIGHT ROTATED TWO HUNDRED SEVENTY DEGREEScPAWN ROTATED TWO HUNDRED SEVENTY DEGREES
  aWHITE CHESS KNIGHT ROTATED THREE HUNDRED FIFTEEN DEGREES
  aBLACK CHESS KNIGHT ROTATED THREE HUNDRED FIFTEEN DEGREES
  aNEUTR#CHESS KNIGHT ROTATED THREE HUNDRED FIFTEEN DEGREESaWHITE CHESS EQUIHOPPER
  aBLACK CHESS EQUIHOPPERaNEUTR#CHESS EQUIHOPPERaWHITE CHESS EQUIHOPPER ROTATED NINETY DEGREES
  aBLACK CHESS EQUIHOPPER ROTATED NINETY DEGREESaNEUTR#CHESS EQUIHOPPER ROTATED NINETY DEGREES
  aWHITE CHESS KNIGHT-QUEENcKNIGHT-ROOKcKNIGHT-BISHOPaBLACK CHESS KNIGHT-QUEENcKNIGHT-ROOK
  cKNIGHT-BISHOP=1FA60aXIANGQI RED GENER#cMANDARINcELEPHANTcHORSEcCHARIOTcCANNONcSOLDIER
  bBLACK GENER#cMANDARINcELEPHANTcHORSEcCHARIOTcCANNONcSOLDIER=1FA70aBALLET SHOESaONE-PIECE SWIMSUIT
  aBRIEFSaSHORTSaTHONG SAND#=1FA78aDROP OF BLOODaADHESIVE BANDAGEaSTETHOSCOPEaX-RAYaCRUTCH=1FA80
  aYO-YOaKITEaPARACHUTEaBOOMERANGaMAGIC WANDaPINATAaNESTING DOLLS=1FA90aRINGED PLANETaCHAIRaRAZOR
  aAXEaDIYA LAMPaBANJOaMILITARY HELMETaACCORDIONaLONG DRUMaCOINaCARPENTRY SAWaSCREWDRIVERaLADDER
  aHOOKaMIRRORaWINDOWaPLUNGERaSEWING NEEDLEaKNOTaBUCKETaMOUSE TRAPaTOOTHBRUSHaHEADSTONEaPLACARDaROCK
  aMIRROR BALLaIDENTIFICATION CARDaLOW BATTERYaHAMSA=1FAB0aFLYaWORMaBEETLEaCOCKROACHaPOTTED PLANT
  aWOODaFEATHERaLOTUSaCOR#aEMPTY NESTaNEST&EGGS=1FAC0aANATOMIC#HEARTaLUNGSaPEOPLE HUGGING
  aPREGNANT MANbPERSONaPERSON&CROWN=1FAD0aBLUEBERRIESaBELL PEPPERaOLIVEaFLATBREADaTAMALEaFONDUE
  aTEAPOTaPOURING LIQUIDaBEANSaJAR=1FAE0aMELTING FACEaSALUTING FACEaFACE&OPEN EYES+HAND OVER MOUTH
  cPEEKING EYEcDIAGON#MOUTHaDOTTED LINE FACEaBITING LIPaBUBBLES=1FAF0
  aHAND&INDEX FINGER+THUMB CROSSEDa)HANDa(HANDaPALM DOWN HANDbUP HANDaINDEX POINTING AT THE VIEWER
  aHEART HANDS=1FB00aBLOCK SEXTANT-1*1bSEXTANT-12bSEXTANT-3bSEXTANT-13bSEXTANT-23bSEXTANT-123
  bSEXTANT-4bSEXTANT-14bSEXTANT-24bSEXTANT-124bSEXTANT-34bSEXTANT-134bSEXTANT-234bSEXTANT-1234
  bSEXTANT-5bSEXTANT-15bSEXTANT-25bSEXTANT-125bSEXTANT-35bSEXTANT-235bSEXTANT-1235bSEXTANT-45
  bSEXTANT-145bSEXTANT-245bSEXTANT-1245bSEXTANT-345bSEXTANT-1345bSEXTANT-2345bSEXTANT-12345
  bSEXTANT-6bSEXTANT-16bSEXTANT-26bSEXTANT-126bSEXTANT-36bSEXTANT-136bSEXTANT-236bSEXTANT-1236
  bSEXTANT-46bSEXTANT-146bSEXTANT-1246bSEXTANT-346bSEXTANT-1346bSEXTANT-2346bSEXTANT-12346
  bSEXTANT-56bSEXTANT-156bSEXTANT-256bSEXTANT-1256bSEXTANT-356bSEXTANT-1356bSEXTANT-2356
  bSEXTANT-12356bSEXTANT-456bSEXTANT-1456bSEXTANT-2456bSEXTANT-12456bSEXTANT-3456bSEXTANT-13456
  bSEXTANT-23456aLOWER<BLOCK DIAGON#LOWER MIDDLE<TO LOWER CENTREj>eUPPER MIDDLE<TO LOWER CENTREj>
  f<TO LOWER CENTREb>BLOCK DIAGON#UPPER MIDDLE<TO UPPER CENTREj>eLOWER MIDDLE<TO UPPER CENTREj>
  f<TO UPPER CENTREfMIDDLE<TO UPPER MIDDLE>fCENTRE TO LOWER MIDDLE>f<TO LOWER MIDDLE>
  fCENTRE TO UPPER MIDDLE>f<TO UPPER MIDDLE>fCENTRE TO UPPER>
  b<BLOCK DIAGON#UPPER CENTRE TO UPPER MIDDLE>f<TO UPPER MIDDLE>fCENTRE TO LOWER MIDDLE>
  f<TO LOWER MIDDLE>fCENTRE TO LOWER>fMIDDLE<TO LOWER MIDDLE>
  aUPPER>BLOCK DIAGON#LOWER MIDDLE<TO LOWER CENTREj>eUPPER MIDDLE<TO LOWER CENTREj>f<TO LOWER CENTRE
  b<BLOCK DIAGON#UPPER MIDDLE<TO UPPER CENTREj>eLOWER MIDDLE<TO UPPER CENTREj>f<TO UPPER CENTRE
  fMIDDLE<TO UPPER MIDDLE>fCENTRE TO LOWER MIDDLE>f<TO LOWER MIDDLE>fCENTRE TO UPPER MIDDLE>
  f<TO UPPER MIDDLE>fCENTRE TO UPPER>b>BLOCK DIAGON#UPPER CENTRE TO UPPER MIDDLE>f<TO UPPER MIDDLE>
  fCENTRE TO LOWER MIDDLE>f<TO LOWER MIDDLE>fCENTRE TO LOWER>fMIDDLE<TO LOWER MIDDLE>
  b+>+LOWER TRIANGULAR THREE QUARTERS BLOCKa<+LOWER+>TRIANGULAR THREE QUARTERS BLOCK
  aUPPER+<+LOWER TRIANGULAR THREE QUARTERS BLOCKa<+UPPER+>TRIANGULAR THREE QUARTERS BLOCK
  bTRIANGULAR ONE QUARTER BLOCKaUPPER TRIANGULAR ONE QUARTER BLOCKa>TRIANGULAR ONE QUARTER BLOCK
  aLOWER TRIANGULAR ONE QUARTER BLOCKa|ONE EIGHTH BLOCK-2*5aHORIZONT#ONE EIGHTH BLOCK-2*5
  a<+LOWER ONE EIGHTH BLOCKcUPPER ONE EIGHTH BLOCKa>+UPPER ONE EIGHTH BLOCKcLOWER ONE EIGHTH BLOCK
  aUPPER+LOWER ONE EIGHTH BLOCKaHORIZONT#ONE EIGHTH BLOCK-1358aUPPER ONE QUARTER BLOCK
  bTHREE EIGHTHS BLOCKbFIVE EIGHTHS BLOCKbTHREE QUARTERS BLOCKbSEVEN EIGHTHS BLOCK
  a>ONE QUARTER BLOCKbTHREE EIGHTHS BLOCKbFIVE EIGHTHS BLOCKbTHREE QUARTERS BLOCK
  bSEVEN EIGHTHS BLOCKa<HALF MEDIUM SHADEa>HALF MEDIUM SHADEaUPPER HALF MEDIUM SHADE
  aLOWER HALF MEDIUM SHADEaINVERSE MEDIUM SHADEaUPPER HALF BLOCK+LOWER HALF INVERSE MEDIUM SHADE
  cINVERSE MEDIUM SHADE+LOWER HALF BLOCK=1FB94a<HALF INVERSE MEDIUM SHADE+>HALF BLOCK
  aCHECKER BOARD FILLaINVERSE CHECKER BOARD FILLaHEAVY HORIZONT#FILLaUPPER<TO LOWER>FILL
  b>TO LOWER<FILLb+LOWER TRIANGULAR HALF BLOCKa<+>TRIANGULAR HALF BLOCK
  aUPPER<TRIANGULAR MEDIUM SHADEb>TRIANGULAR MEDIUM SHADEaLOWER>TRIANGULAR MEDIUM SHADE
  b<TRIANGULAR MEDIUM SHADEaBOX DRAWINGS LIGHT DIAGON#UPPER CENTRE TO MIDDLE<i>
  eMIDDLE<TO LOWER CENTREf>TO LOWER CENTREeUPPER CENTRE TO MIDDLE<TO LOWER CENTREi>TO LOWER CENTRE
  eMIDDLE<TO LOWER CENTRE TO MIDDLE>hUPPER CENTRE TO MIDDLE>
  eUPPER CENTRE TO MIDDLE<+MIDDLE>TO LOWER CENTREi>+MIDDLE<TO LOWER CENTRE
  jTO LOWER CENTRE TO MIDDLE<i<TO LOWER CENTRE TO MIDDLE>
  eMIDDLE<TO UPPER CENTRE TO MIDDLE>TO LOWER CENTREf>TO UPPER CENTRE TO MIDDLE<TO LOWER CENTRE
  eDIAMONDdHORIZONT#&|STROKEaARROWHEAD-SHAPED POINTERaINVERSE CHECK MARKa<HALF RUNNING MAN
  a>HALF RUNNING MANaINVERSE DOWNWARDS~&TIP(a(~+UPPER+LOWER ONE EIGHTH BLOCK
  a)~+UPPER+LOWER ONE EIGHTH BLOCKaDOWNWARDS~+>ONE EIGHTH BLOCKaUPWARDS~+>ONE EIGHTH BLOCK
  a<HALF FOLDERa>HALF FOLDERaVOIDED GREEK CROSSa>OPEN SQUARED DOTaNEGATIVE DIAGON#CROSS
  cMIDDLE>TO LOWER CENTREcDIAMONDaWHITE HEAVY SALTIRE&ROUNDED CORNERSa<THIRD WHITE>POINTING INDEX
  aMIDDLE THIRD WHITE>POINTING INDEXa>THIRD WHITE>POINTING INDEXaNEGATIVE SQUARED QUESTION MARK
  aSTICK FIGUREc&ARMS RAISEDcLEANING<d>c&DRESSaWHITE UP-POINTING CHEVRON=1FBF0aSEGMENTED DIGIT ZERO
  cONEcTWOcTHREEcFOURcFIVEcSIXcSEVENcEIGHTcNINE=2F800aCJK COMPATIBILITY IDEOGRAPH-2F800*9@532=E0001
  aLANGUAGE TAG=E0020aTAG SPACEbEXCLAMATION MARKbQUOTATION MARKbNUMBER$bDOLLAR$bPERCENT$bAMPERSAND
  bAPOSTROPHEb<PARENTHESISb>PARENTHESISbASTERISKbPLUS$bCOMMAbHYPHEN-MINUSbFULL STOPbSOLIDUS
  bDIGIT ZEROcONEcTWOcTHREEcFOURcFIVEcSIXcSEVENcEIGHTcNINEbCOLONbSEMICOLONbLESS-THAN$bEQUALS$
  bGREATER-THAN$bQUESTION MARKbCOMMERCI#ATbLATIN!.A*25b<SQUARE BRACKETbREVERSE SOLIDUS
  b>SQUARE BRACKETbCIRCUMFLEX ACCENTbLOW LINEbGRAVE ACCENTbLATIN,.A*25b<CURLY BRACKETb|LINE
  b>CURLY BRACKETbTILDEaCANCEL TAG=E0100aVARIATION SELECTOR-17*239"

end CaseDict.Text.CharacterName
