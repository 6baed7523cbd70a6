import CaseDict.Text.CharacterName.Listing
/-! # Names of punctuation, arrows, operators and technical symbols -/

namespace CaseDict.Text.CharacterName

/-- Names of punctuation, arrows, operators and technical symbols, below U+2400. -/
def technical : Listing :=
  "=2000aEN QUADaEM QUADaEN SPACEaEM SPACEaTHREE-PER-EM SPACEaFOUR-PER-EM SPACEaSIX-PER-EM SPACE
  aFIGURE SPACEaPUNCTUATION SPACEaTHIN SPACEaHAIR SPACEaZERO WIDTH SPACEcNON-JOINERcJOINER
  aLEFT-TO-RIGHT MARKaRIGHT-TO-LEFT MARKaHYPHENaNON-BREAKING HYPHENaFIGURE DASHaEN DASHaEM DASH
  aHORIZONT#BARa:|LINEbLOW LINEa<SINGLE QUOTATION MARKa>SINGLE QUOTATION MARK
  aSINGLE LOW-9 QUOTATION MARKbHIGH-REVERSED-9 QUOTATION MARKa<:QUOTATION MARKa>:QUOTATION MARK
  a:LOW-9 QUOTATION MARKbHIGH-REVERSED-9 QUOTATION MARKaDAGGERa:DAGGERaBULLETaTRIANGULAR BULLET
  aONE DOT LEADERaTWO DOT LEADERaHORIZONT#ELLIPSISaHYPHENATION POINTaLINE SEPARATOR
  aPARAGRAPH SEPARATORaLEFT-TO-RIGHT EMBEDDINGaRIGHT-TO-LEFT EMBEDDINGaPOP DIRECTION#FORMATTING
  aLEFT-TO-RIGHT OVERRIDEaRIGHT-TO-LEFT OVERRIDEaNARROW NO-BREAK SPACEaPER MILLE$bTEN THOUSAND$
  aPRIMEa:PRIMEaTRIPLE PRIMEaREVERSED PRIMEb:PRIMEbTRIPLE PRIMEaCARET
  aSINGLE LEFT-POINTING ANGLE QUOTATION MARKbRIGHT-POINTING ANGLE QUOTATION MARKaREFERENCE MARK
  a:EXCLAMATION MARKaINTERROBANGaOVERLINEaUNDERTIEaCHARACTER TIEaCARET INSERTION POINTaASTERISM
  aHYPHEN BULLETaFRACTION SLASHa<SQUARE BRACKET&QUILLa>SQUARE BRACKET&QUILLa:QUESTION MARK
  aQUESTION EXCLAMATION MARKaEXCLAMATION QUESTION MARKaTIRONIAN$ETaREVERSED PILCROW$aBLACK(BULLET
  b)BULLETaLOW ASTERISKaREVERSED SEMICOLONaCLOSE UPaTWO ASTERISKS ALIGNED VERTICALLYaCOMMERCI#MINUS$
  aSWUNG DASHaINVERTED UNDERTIEaFLOWER PUNCTUATION MARKaTHREE DOT PUNCTUATIONaQUADRUPLE PRIME
  aFOUR DOT PUNCTUATIONaFIVE DOT PUNCTUATIONaTWO DOT PUNCTUATIONaFOUR DOT MARKaDOTTED CROSSaTRICOLON
  a|FOUR DOTSaMEDIUM MATHEMATIC#SPACEaWORD JOINERaFUNCTION APPLICATIONaINVISIBLE TIMESbSEPARATOR
  bPLUS=2066aLEFT-TO-RIGHT ISOLATEaRIGHT-TO-LEFT ISOLATEaFIRST STRONG ISOLATEaPOP DIRECTION#ISOLATE
  aINHIBIT SYMMETRIC SWAPPINGaACTIVATE SYMMETRIC SWAPPINGaINHIBIT ARABIC%SHAPING
  aACTIVATE ARABIC%SHAPINGaNATION#DIGIT SHAPESaNOMIN#DIGIT SHAPESaSUPERSCRIPT ZERObLATIN,.I=2074
  bFOURbFIVEbSIXbSEVENbEIGHTbNINEbPLUS$bMINUSbEQUALS$b<PARENTHESISb>PARENTHESISbLATIN,.N
  aSUBSCRIPT ZERObONEbTWObTHREEbFOURbFIVEbSIXbSEVENbEIGHTbNINEbPLUS$bMINUSbEQUALS$b<PARENTHESIS
  b>PARENTHESIS=2090aLATIN SUBSCRIPT,.AeEeOeXeSCHWAeHeK*3ePeS*1=20A0aEURO-CURRENCY$aCOLON$aCRUZEIRO$
  aFRENCH FRANC$aLIRA$aMILL$aNAIRA$aPESETA$aRUPEE$aWON$aNEW SHEQEL$aDONG$aEURO$aKIP$aTUGRIK$
  aDRACHMA$aGERMAN PENNY$aPESO$aGUARANI$aAUSTR#$aHRYVNIA$aCEDI$aLIVRE TOURNOIS$aSPESMILO$aTENGE$
  aINDIAN RUPEE$aTURKISH LIRA$aNORDIC MARK$aMANAT$aRUBLE$aLARI$aBITCOIN$aSOM$=20D0
  aCOMBINING<HARPOON^b>HARPOON^bLONG|LINE OVERLAYbSHORT|LINE OVERLAYbANTICLOCKWISE~^bCLOCKWISE~^b<~^
  b>~^bRING OVERLAYbCLOCKWISE RING OVERLAYbANTICLOCKWISE RING OVERLAYbTHREE DOTS^bFOUR DOTS^
  bENCLOSING CIRCLEcSQUAREcDIAMONDcCIRCLE BACKSLASHb<>~^bENCLOSING SCREENcKEYCAP
  cUPWARD POINTING TRIANGLEbREVERSE SOLIDUS OVERLAYb:|STROKE OVERLAYbANNUITY?bTRIPLE UNDERDOT
  bWIDE BRIDGE^b(~OVERLAYbLONG:SOLIDUS OVERLAYb)HARPOON&BARB DOWNWARDSb(HARPOON&BARB DOWNWARDSb<~_
  b>~_bASTERISK^=2100aACCOUNT OFaADDRESSED TO THE SUBJECTaDOUBLE-STRUCK!CaDEGREE CELSIUS
  aCENTRE LINE?aCARE OFaCADA UNAaEULER CONSTANTaSCRUPLEaDEGREE FAHRENHEITaSCRIPT,Gb!HaBLACK-LETTER!H
  aDOUBLE-STRUCK!HaPLANCK CONSTANTcOVER TWO PIaSCRIPT!IaBLACK-LETTER!IaSCRIPT!LsaL B BAR?
  aDOUBLE-STRUCK!NaNUMERO$aSOUND RECORDING COPYRIGHTaSCRIPT!PaDOUBLE-STRUCK!P*1aSCRIPT!R
  aBLACK-LETTER!RaDOUBLE-STRUCK!RaPRESCRIPTION TAKEaRESPONSEaSERVICE MARKaTELEPHONE$aTRADE MARK$
  aVERSICLEaDOUBLE-STRUCK!ZaOUNCE$aOHM$aINVERTED OHM$aBLACK-LETTER!ZaTURNED GREEK,.IOTAaKELVIN$
  aANGSTROM$aSCRIPT!BaBLACK-LETTER!CaESTIMATED?aSCRIPT,Eb!E*1aTURNED!FaSCRIPT!Mb,OaALEF?aBET?aGIMEL?
  aDALET?aINFORMATION SOURCEaROTATED!QaFACSIMILE$aDOUBLE-STRUCK,PIcGAMMAb!GAMMAcPIbN-ARY SUMMATION
  aTURNED SANS-SERIF!GdLaREVERSED SANS-SERIF!LaTURNED SANS-SERIF!YaDOUBLE-STRUCK ITALIC!Dsc,EdI*1
  aPROPERTY LINEaTURNED AMPERSANDaPER$aAKTIESELSKABaTURNED,Fa?FOR SAMARITAN SOURCE
  aVULGAR FRACTION ONE SEVENTHdNINTHdTENTHdTHIRDcTWO THIRDScONE FIFTHcTWO FIFTHScTHREE FIFTHS
  cFOUR FIFTHScONE SIXTHcFIVE SIXTHScONE EIGHTHcTHREE EIGHTHScFIVE EIGHTHScSEVEN EIGHTHS
  aFRACTION NUMERATOR ONEaROMAN NUMER#ONEcTWOcTHREEcFOURcFIVEcSIXcSEVENcEIGHTcNINEcTENcELEVENcTWELVE
  cFIFTYcONE HUNDREDcFIVE HUNDREDcONE THOUSANDa,ROMAN NUMER#ONEdTWOdTHREEdFOURdFIVEdSIXdSEVENdEIGHT
  dNINEdTENdELEVENdTWELVEdFIFTYdONE HUNDREDdFIVE HUNDREDdONE THOUSANDaROMAN NUMER#ONE THOUSAND C D
  cFIVE THOUSANDcTEN THOUSANDcREVERSED ONE HUNDREDaLATIN,.REVERSED CaROMAN NUMER#SIX LATE%
  cFIFTY EARLY%dTHOUSANDcONE HUNDRED THOUSANDaVULGAR FRACTION ZERO THIRDSaTURNED DIGIT TWOcTHREE
  =2190a(~aUPWARDS~a)~aDOWNWARDS~a<>~aUP DOWN~aNORTH WEST~bEAST~aSOUTH EAST~bWEST~a(~&STROKE
  a)~&STROKEa(WAVE~a)WAVE~a(TWO HEADED~aUPWARDS TWO HEADED~a)TWO HEADED~aDOWNWARDS TWO HEADED~
  a(~&TAILa)~&TAILa(~FROM BARaUPWARDS~FROM BARa)~FROM BARaDOWNWARDS~FROM BARaUP DOWN~&BASEa(~&HOOK
  a)~&HOOKa(~&LOOPa)~&LOOPa<>WAVE~c~&STROKEaDOWNWARDS ZIGZAG~aUPWARDS~&TIP(e)aDOWNWARDS~&TIP(e)
  a)~&CORNER DOWNWARDSaDOWNWARDS~&CORNER(aANTICLOCKWISE TOP SEMICIRCLE~aCLOCKWISE TOP SEMICIRCLE~
  aNORTH WEST~TO LONG BARa(~TO BAR OVER)~TO BARaANTICLOCKWISE OPEN CIRCLE~aCLOCKWISE OPEN CIRCLE~
  a(HARPOON&BARB UPWARDSeDOWNWARDSaUPWARDS HARPOON&BARB)e(a)HARPOON&BARB UPWARDSeDOWNWARDS
  aDOWNWARDS HARPOON&BARB)e(a)~OVER(~aUPWARDS~(OF DOWNWARDS~a(~OVER)~bPAIRED ARROWS
  aUPWARDS PAIRED ARROWSa)PAIRED ARROWSaDOWNWARDS PAIRED ARROWSa(HARPOON OVER)HARPOON
  a)HARPOON OVER(HARPOONa(:~&STROKEa<>:~&STROKEa):~&STROKEa(:~aUPWARDS:~a):~aDOWNWARDS:~a<>:~
  aUP DOWN:~aNORTH WEST:~bEAST:~aSOUTH EAST:~bWEST:~a(TRIPLE~a)TRIPLE~a(SQUIGGLE~a)SQUIGGLE~
  aUPWARDS~&:STROKEaDOWNWARDS~&:STROKEa(DASHED~aUPWARDS DASHED~a)DASHED~aDOWNWARDS DASHED~a(~TO BAR
  a)~TO BARa(WHITE~aUPWARDS WHITE~a)WHITE~aDOWNWARDS WHITE~aUPWARDS WHITE~FROM BARdON PEDEST#
  f&HORIZONT#BARg|BARc:~eON PEDEST#a)WHITE~FROM WALLaNORTH WEST~TO CORNERaSOUTH EAST~TO CORNER
  aUP DOWN WHITE~a>~&,CIRCLEaDOWNWARDS~(OF UPWARDS~aTHREE)ARROWSa(~&|STROKEa)~&|STROKEa<>~&|STROKE
  a(~&:|STROKEa)~&:|STROKEa<>~&:|STROKEa(OPEN-HEADED~a)OPEN-HEADED~a<>OPEN-HEADED~aFOR ALL
  aCOMPLEMENTaPARTI#DIFFERENTI#aTHERE EXISTSbDOES NOT EXISTaEMPTY SETaINCREMENTaNABLAaELEMENT OF
  aNOT AN ELEMENT OFa,ELEMENT OFaCONTAINS AS MEMBERaDOES NOT CONTAIN AS MEMBERa,CONTAINS AS MEMBER
  aEND OF PROOFaN-ARY PRODUCTbCOPRODUCTbSUMMATIONaMINUS$aMINUS-OR-PLUS$aDOT PLUSaDIVISION SLASH
  aSET MINUSaASTERISK OPERATORaRING OPERATORaBULLET OPERATORaSQUARE ROOTaCUBE ROOTaFOURTH ROOT
  aPROPORTION#TOaINFINITYa>ANGLEaANGLEaMEASURED ANGLEaSPHERIC#ANGLEaDIVIDESaDOES NOT DIVIDE
  aPARALLEL TOaNOT PARALLEL TOaLOGIC#+bORaINTERSECTIONaUNIONaINTEGR#a:INTEGR#aTRIPLE INTEGR#
  aCONTOUR INTEGR#aSURFACE INTEGR#aVOLUME INTEGR#aCLOCKWISE INTEGR#bCONTOUR INTEGR#
  aANTICLOCKWISE CONTOUR INTEGR#aTHEREFOREaBECAUSEaRATIOaPROPORTIONaDOT MINUSaEXCESS
  aGEOMETRIC PROPORTIONaHOMOTHETICaTILDE OPERATORaREVERSED TILDEaINVERTED LAZY SaSINE WAVE
  aWREATH PRODUCTaNOT TILDEaMINUS TILDEaASYMPTOTICALLY EQU#TOaNOT ASYMPTOTICALLY EQU#TO
  aAPPROXIMATELY EQU#TObBUT NOT ACTUALLY EQU#TOaNEITHER APPROXIMATELY NOR ACTUALLY EQU#TO
  aALMOST EQU#TOaNOT ALMOST EQU#TOaALMOST EQU#OR EQU#TOaTRIPLE TILDEaALL EQU#TOaEQUIVALENT TO
  aGEOMETRICALLY EQUIVALENT TOaDIFFERENCE BETWEENaAPPROACHES THE LIMITaGEOMETRICALLY EQU#TO
  aAPPROXIMATELY EQU#TO OR THE IMAGE OFaIMAGE OF OR APPROXIMATELY EQU#TOaCOLON EQUALSaEQUALS COLON
  aRING IN EQU#TObEQU#TOaCORRESPONDS TOaESTIMATESaEQUIANGULAR TOaSTAR EQUALSaDELTA EQU#TO
  aEQU#TO BY DEFINITIONaMEASURED BYaQUESTIONED EQU#TOaNOT EQU#TOaIDENTIC#TOaNOT IDENTIC#TO
  aSTRICTLY EQUIVALENT TOaLESS-THAN OR EQU#TOaGREATER-THAN OR EQU#TOaLESS-THAN OVER EQU#TO
  aGREATER-THAN OVER EQU#TOaLESS-THAN BUT NOT EQU#TOaGREATER-THAN BUT NOT EQU#TOaMUCH LESS-THAN
  bGREATER-THANaBETWEENaNOT EQUIVALENT TObLESS-THANbGREATER-THANaNEITHER LESS-THAN NOR EQU#TO
  bGREATER-THAN NOR EQU#TOaLESS-THAN OR EQUIVALENT TOaGREATER-THAN OR EQUIVALENT TO
  aNEITHER LESS-THAN NOR EQUIVALENT TObGREATER-THAN NOR EQUIVALENT TOaLESS-THAN OR GREATER-THAN
  aGREATER-THAN OR LESS-THANaNEITHER LESS-THAN NOR GREATER-THANbGREATER-THAN NOR LESS-THANaPRECEDES
  aSUCCEEDSaPRECEDES OR EQU#TOaSUCCEEDS OR EQU#TOaPRECEDES OR EQUIVALENT TO
  aSUCCEEDS OR EQUIVALENT TOaDOES NOT PRECEDEcSUCCEEDaSUBSET OFaSUPERSET OFaNOT A SUBSET OF
  cSUPERSET OFaSUBSET OF OR EQU#TOaSUPERSET OF OR EQU#TOaNEITHER A SUBSET OF NOR EQU#TO
  cSUPERSET OF NOR EQU#TOaSUBSET OF&NOT EQU#TOaSUPERSET OF&NOT EQU#TOaMULTISETbMULTIPLICATIONbUNION
  aSQUARE IMAGE OFbORIGIN#OFbIMAGE OF OR EQU#TObORIGIN#OF OR EQU#TObCAPbCUPaCIRCLED PLUSbMINUSbTIMES
  bDIVISION SLASHbDOT OPERATORbRING OPERATORbASTERISK OPERATORbEQUALSbDASHaSQUARED PLUSbMINUSbTIMES
  bDOT OPERATORa>TACKa<TACKaDOWN TACKaUP TACKaASSERTIONaMODELSaTRUEaFORCESaTRIPLE|BAR>TURNSTILE
  a:|BAR:>TURNSTILEaDOES NOT PROVEaNOT TRUEaDOES NOT FORCEaNEGATED:|BAR:>TURNSTILE
  aPRECEDES UNDER RELATIONaSUCCEEDS UNDER RELATIONaNORM#SUBGROUP OFaCONTAINS AS NORM#SUBGROUP
  aNORM#SUBGROUP OF OR EQU#TOaCONTAINS AS NORM#SUBGROUP OR EQU#TOaORIGIN#OFaIMAGE OFaMULTIMAP
  aHERMITIAN CONJUGATE MATRIXaINTERCALATEaXORaNANDaNORa>ANGLE&ARCbTRIANGLEaN-ARY LOGIC#+cOR
  bINTERSECTIONbUNIONaDIAMOND OPERATORaDOT OPERATORaSTAR OPERATORaDIVISION TIMESaBOWTIE
  a<NORM#FACTOR SEMIDIRECT PRODUCTa>NORM#FACTOR SEMIDIRECT PRODUCTa<SEMIDIRECT PRODUCT
  a>SEMIDIRECT PRODUCTaREVERSED TILDE EQUALSaCURLY LOGIC#ORc+a:SUBSETbSUPERSETbINTERSECTIONbUNION
  aPITCHFORKaEQU#+PARALLEL TOaLESS-THAN&DOTaGREATER-THAN&DOTaVERY MUCH LESS-THANcGREATER-THAN
  aLESS-THAN EQU#TO OR GREATER-THANaGREATER-THAN EQU#TO OR LESS-THANaEQU#TO OR LESS-THAN
  dGREATER-THANdPRECEDESdSUCCEEDSaDOES NOT PRECEDE OR EQU#cSUCCEED OR EQU#
  aNOT SQUARE IMAGE OF OR EQU#TOcORIGIN#OF OR EQU#TOaSQUARE IMAGE OF OR NOT EQU#TO
  bORIGIN#OF OR NOT EQU#TOaLESS-THAN BUT NOT EQUIVALENT TOaGREATER-THAN BUT NOT EQUIVALENT TO
  aPRECEDES BUT NOT EQUIVALENT TOaSUCCEEDS BUT NOT EQUIVALENT TOaNOT NORM#SUBGROUP OF
  aDOES NOT CONTAIN AS NORM#SUBGROUPaNOT NORM#SUBGROUP OF OR EQU#TO
  aDOES NOT CONTAIN AS NORM#SUBGROUP OR EQU#a|ELLIPSISaMIDLINE HORIZONT#ELLIPSISaUP>DIAGON#ELLIPSIS
  aDOWN>DIAGON#ELLIPSISaELEMENT OF&LONG HORIZONT#STROKEd|BAR AT END OF HORIZONT#STROKE
  a,ELEMENT OF&|BAR AT END OF HORIZONT#STROKEaELEMENT OF&DOT^dOVERBARa,ELEMENT OF&OVERBAR
  aELEMENT OF&UNDERBARdTWO HORIZONT#STROKESaCONTAINS&LONG HORIZONT#STROKE
  c|BAR AT END OF HORIZONT#STROKEa,CONTAINS&|BAR AT END OF HORIZONT#STROKEaCONTAINS&OVERBAR
  a,CONTAINS&OVERBARaZ NOTATION BAG MEMBERSHIPaDIAMETER$aELECTRIC~aHOUSEaUP ARROWHEADaDOWN ARROWHEAD
  aPROJECTIVEaPERSPECTIVEaWAVY LINEa<CEILINGa>CEILINGa<FLOORa>FLOORaBOTTOM>CROPb<CROPaTOP>CROPb<CROP
  aREVERSED NOT$aSQUARE LOZENGEaARCaSEGMENTaSECTORaTELEPHONE RECORDERaPOSITION INDICATOR
  aVIEWDATA SQUAREaPLACE OF INTEREST$aTURNED NOT$aWATCHaHOURGLASSaTOP<CORNERb>CORNERaBOTTOM<CORNER
  b>CORNERaTOP HALF INTEGR#aBOTTOM HALF INTEGR#aFROWNaSMILEaUP ARROWHEAD BETWEEN TWO HORIZONT#BARS
  aOPTION KEYaERASE TO THE>aX IN A RECTANGLE BOXaKEYBOARDaLEFT-POINTING ANGLE BRACKET
  aRIGHT-POINTING ANGLE BRACKETaERASE TO THE<aBENZENE RINGaCYLINDRICITYaALL AROUND-PROFILEaSYMMETRY
  aTOT#RUNOUTaDIMENSION ORIGINaCONIC#TAPERaSLOPEaCOUNTERBOREaCOUNTERSINKaAPL FUNCTION#?I-BEAM
  dSQUISH QUADdQUAD EQU#eDIVIDEeDIAMONDeJOTeCIRCLEdCIRCLE STILEeJOTdSLASH BARdBACKSLASH BAR
  dQUAD SLASHeBACKSLASHeLESS-THANeGREATER-THANd(VANEd)VANEdQUAD(~e)~dCIRCLE BACKSLASH
  dDOWN TACK UNDERBARdDELTA STILEdQUAD DOWN CARETeDELTAdDOWN TACK JOTdUPWARDS VANEdQUAD UPWARDS~
  dUP TACK OVERBARdDEL STILEdQUAD UP CARETeDELdUP TACK JOTdDOWNWARDS VANEdQUAD DOWNWARDS~
  dQUOTE UNDERBARdDELTA UNDERBARdDIAMOND UNDERBARdJOT UNDERBARdCIRCLE UNDERBARdUP SHOE JOT
  dQUOTE QUADdCIRCLE STARdQUAD COLONdUP TACK DIAERESISdDEL DIAERESISdSTAR DIAERESISdJOT DIAERESIS
  dCIRCLE DIAERESISdDOWN SHOE STILEd<SHOE STILEdTILDE DIAERESISdGREATER-THAN DIAERESISdCOMMA BAR
  dDEL TILDEdZILDEdSTILE TILDEdSEMICOLON UNDERBARdQUAD NOT EQU#eQUESTIONdDOWN CARET TILDE
  dUP CARET TILDEdIOTAdRHOdOMEGAdALPHA UNDERBARdEPSILON UNDERBARdIOTA UNDERBARdOMEGA UNDERBARdALPHA
  aNOT CHECK MARKa>ANGLE&DOWNWARDS ZIGZAG~aSHOULDERED OPEN BOXaBELL?a|LINE&MIDDLE DOTaINSERTION?
  aCONTINUOUS UNDERLINE?aDISCONTINUOUS UNDERLINE?aEMPHASIS?aCOMPOSITION?aWHITE SQUARE&CENTRE|LINE
  aENTER?aALTERNATIVE KEY?aHELM?aCIRCLED HORIZONT#BAR&NOTCHbTRIANGLE DOWNaBROKEN CIRCLE&NORTHWEST~
  aUNDO?aMONOSTABLE?aHYSTERESIS?aOPEN-CIRCUIT-OUTPUT H-TYPE?bL-TYPE?aPASSIVE-PULL-DOWN-OUTPUT?
  aPASSIVE-PULL-UP-OUTPUT?aDIRECT CURRENT?%TWOaSOFTWARE-FUNCTION?aAPL FUNCTION#?QUAD
  aDECIM#SEPARATOR KEY?aPREVIOUS PAGEaNEXT PAGEaPRINT SCREEN?aCLEAR SCREEN?a<PARENTHESIS UPPER HOOK
  cEXTENSIONcLOWER HOOKa>PARENTHESIS UPPER HOOKcEXTENSIONcLOWER HOOKa<SQUARE BRACKET UPPER CORNER
  dEXTENSIONdLOWER CORNERa>SQUARE BRACKET UPPER CORNERdEXTENSIONdLOWER CORNER
  a<CURLY BRACKET UPPER HOOKdMIDDLE PIECEdLOWER HOOKaCURLY BRACKET EXTENSION
  a>CURLY BRACKET UPPER HOOKdMIDDLE PIECEdLOWER HOOKaINTEGR#EXTENSIONaHORIZONT#LINE EXTENSION
  aUPPER<OR LOWER>CURLY BRACKET SECTIONb>OR LOWER<CURLY BRACKET SECTIONaSUMMATION TOPbBOTTOM
  aTOP SQUARE BRACKETaBOTTOM SQUARE BRACKETdOVER TOP SQUARE BRACKETaRADIC#?BOTTOMa<|BOX LINE
  a>|BOX LINEaHORIZONT#SCAN LINE-1cLINE-3cLINE-7cLINE-9aDENTISTRY?LIGHT|+TOP>fBOTTOM>e&CIRCLE
  dDOWN+HORIZONT#&CIRCLEdUP+HORIZONT#&CIRCLEd|&TRIANGLEdDOWN+HORIZONT#&TRIANGLE
  dUP+HORIZONT#&TRIANGLEd|+WAVEdDOWN+HORIZONT#&WAVEdUP+HORIZONT#&WAVEdDOWN+HORIZONT#dUP+HORIZONT#
  d|+TOP<fBOTTOM<aSQUARE FOOTaRETURN?aEJECT?a|LINE EXTENSIONaMETRIC#BREVEbLONG OVER SHORT
  bSHORT OVER LONGbLONG OVER TWO SHORTSbTWO SHORTS OVER LONGdJOINEDbTRISEMEbTETRASEMEbPENTASEME
  aEARTH GROUNDaFUSEaTOP PARENTHESISaBOTTOM PARENTHESISaTOP CURLY BRACKETaBOTTOM CURLY BRACKET
  aTOP TORTOISE SHELL BRACKETaBOTTOM TORTOISE SHELL BRACKETaWHITE TRAPEZIUMaBENZENE RING&CIRCLE
  aSTRAIGHTNESSaFLATNESSaAC CURRENTaELECTRIC#INTERSECTIONaDECIM#EXPONENT?
  aBLACK RIGHT-POINTING:TRIANGLEbLEFT-POINTING:TRIANGLEbUP-POINTING:TRIANGLEbDOWN-POINTING:TRIANGLE
  bRIGHT-POINTING:TRIANGLE&|BARbLEFT-POINTING:TRIANGLE&|BARbRIGHT-POINTING TRIANGLE&:|BAR
  aALARM CLOCKaSTOPWATCHaTIMER CLOCKaHOURGLASS&FLOWING SANDaBLACK MEDIUM LEFT-POINTING TRIANGLE
  cRIGHT-POINTING TRIANGLEcUP-POINTING TRIANGLEcDOWN-POINTING TRIANGLEa:|BARaBLACK SQUARE FOR STOP
  bCIRCLE FOR RECORDaPOWER?bON-OFF?bON?bSLEEP?aOBSERVER EYE?"

end CaseDict.Text.CharacterName
