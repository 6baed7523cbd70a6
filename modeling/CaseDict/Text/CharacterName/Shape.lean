import CaseDict.Text.CharacterName.Listing
/-! # Names of shapes and ornaments -/

namespace CaseDict.Text.CharacterName

/-- Names of enclosed characters, boxes, geometric shapes and ornaments, below U+27C0. -/
def shape : Listing :=
  "=2400a?FOR NULLcSTART OF HEADINGeTEXTcEND OF TEXTeTRANSMISSIONcENQUIRYcACKNOWLEDGEcBELLcBACKSPACE
  cHORIZONT#TABULATIONcLINE FEEDc|TABULATIONc%FEEDcCARRIAGE RETURNcSHIFT OUTdINcDATA LINK ESCAPE
  cDEVICE CONTROL ONEeTWOeTHREEeFOURcNEGATIVE ACKNOWLEDGEcSYNCHRONOUS IDLEcEND OF TRANSMISSION BLOCK
  cCANCELcEND OF MEDIUMcSUBSTITUTEcESCAPEcFILE SEPARATORcGROUP SEPARATORcRECORD SEPARATOR
  cUNIT SEPARATORcSPACEcDELETEaBLANK?aOPEN BOXa?FOR NEWLINEcDELETE%TWOcSUBSTITUTE%TWO=2440aOCR HOOK
  bCHAIRbFORKbINVERTED FORKbBELT BUCKLEbBOW TIEbBRANCH BANK IDENTIFICATIONbAMOUNT OF CHECKbDASH
  bCUSTOMER ACCOUNT NUMBERb:BACKSLASH=2460aCIRCLED DIGIT ONEcTWOcTHREEcFOURcFIVEcSIXcSEVENcEIGHT
  cNINEbNUMBER TENcELEVENcTWELVEcTHIRTEENcFOURTEENcFIFTEENcSIXTEENcSEVENTEENcEIGHTEENcNINETEEN
  cTWENTYaPARENTHESIZED DIGIT ONEcTWOcTHREEcFOURcFIVEcSIXcSEVENcEIGHTcNINEbNUMBER TENcELEVENcTWELVE
  cTHIRTEENcFOURTEENcFIFTEENcSIXTEENcSEVENTEENcEIGHTEENcNINETEENcTWENTYaDIGIT ONE FULL STOP
  bTWO FULL STOPbTHREE FULL STOPbFOUR FULL STOPbFIVE FULL STOPbSIX FULL STOPbSEVEN FULL STOP
  bEIGHT FULL STOPbNINE FULL STOPaNUMBER TEN FULL STOPbELEVEN FULL STOPbTWELVE FULL STOP
  bTHIRTEEN FULL STOPbFOURTEEN FULL STOPbFIFTEEN FULL STOPbSIXTEEN FULL STOPbSEVENTEEN FULL STOP
  bEIGHTEEN FULL STOPbNINETEEN FULL STOPbTWENTY FULL STOPaPARENTHESIZED LATIN,.A*25aCIRCLED LATIN!.A
  *25c,.A*25bDIGIT ZEROaNEGATIVE CIRCLED NUMBER ELEVENdTWELVEdTHIRTEENdFOURTEENdFIFTEENdSIXTEEN
  dSEVENTEENdEIGHTEENdNINETEENdTWENTYa:CIRCLED DIGIT ONEdTWOdTHREEdFOURdFIVEdSIXdSEVENdEIGHTdNINE
  cNUMBER TENaNEGATIVE CIRCLED DIGIT ZEROaBOX DRAWINGS LIGHT HORIZONT#cHEAVY HORIZONT#cLIGHT|cHEAVY|
  cLIGHT TRIPLE DASH HORIZONT#cHEAVY TRIPLE DASH HORIZONT#cLIGHT TRIPLE DASH|cHEAVY TRIPLE DASH|
  cLIGHT QUADRUPLE DASH HORIZONT#cHEAVY QUADRUPLE DASH HORIZONT#cLIGHT QUADRUPLE DASH|
  cHEAVY QUADRUPLE DASH|cLIGHT DOWN+>cDOWN LIGHT+>HEAVYdHEAVY+>LIGHTcHEAVY DOWN+>cLIGHT DOWN+<
  cDOWN LIGHT+<HEAVYdHEAVY+<LIGHTcHEAVY DOWN+<cLIGHT UP+>cUP LIGHT+>HEAVYdHEAVY+>LIGHTcHEAVY UP+>
  cLIGHT UP+<cUP LIGHT+<HEAVYdHEAVY+<LIGHTcHEAVY UP+<cLIGHT|+>c|LIGHT+>HEAVYcUP HEAVY+>DOWN LIGHT
  cDOWN HEAVY+>UP LIGHTc|HEAVY+>LIGHTcDOWN LIGHT+>UP HEAVYcUP LIGHT+>DOWN HEAVYcHEAVY|+>cLIGHT|+<
  c|LIGHT+<HEAVYcUP HEAVY+<DOWN LIGHTcDOWN HEAVY+<UP LIGHTc|HEAVY+<LIGHTcDOWN LIGHT+<UP HEAVY
  cUP LIGHT+<DOWN HEAVYcHEAVY|+<cLIGHT DOWN+HORIZONT#c<HEAVY+>DOWN LIGHTc>HEAVY+<DOWN LIGHT
  cDOWN LIGHT+HORIZONT#HEAVYdHEAVY+HORIZONT#LIGHTc>LIGHT+<DOWN HEAVYc<LIGHT+>DOWN HEAVY
  cHEAVY DOWN+HORIZONT#cLIGHT UP+HORIZONT#c<HEAVY+>UP LIGHTc>HEAVY+<UP LIGHTcUP LIGHT+HORIZONT#HEAVY
  dHEAVY+HORIZONT#LIGHTc>LIGHT+<UP HEAVYc<LIGHT+>UP HEAVYcHEAVY UP+HORIZONT#cLIGHT|+HORIZONT#
  c<HEAVY+>|LIGHTc>HEAVY+<|LIGHTc|LIGHT+HORIZONT#HEAVYcUP HEAVY+DOWN HORIZONT#LIGHT
  cDOWN HEAVY+UP HORIZONT#LIGHTc|HEAVY+HORIZONT#LIGHTc<UP HEAVY+>DOWN LIGHTc>UP HEAVY+<DOWN LIGHT
  c<DOWN HEAVY+>UP LIGHTc>DOWN HEAVY+<UP LIGHTcDOWN LIGHT+UP HORIZONT#HEAVY
  cUP LIGHT+DOWN HORIZONT#HEAVYc>LIGHT+<|HEAVYc<LIGHT+>|HEAVYcHEAVY|+HORIZONT#cLIGHT:DASH HORIZONT#
  cHEAVY:DASH HORIZONT#cLIGHT:DASH|cHEAVY:DASH|c:HORIZONT#d|cDOWN SINGLE+>:d:+>SINGLEc:DOWN+>
  cDOWN SINGLE+<:d:+<SINGLEc:DOWN+<cUP SINGLE+>:d:+>SINGLEc:UP+>cUP SINGLE+<:d:+<SINGLEc:UP+<
  c|SINGLE+>:d:+>SINGLEc:|+>c|SINGLE+<:d:+<SINGLEc:|+<cDOWN SINGLE+HORIZONT#:d:+HORIZONT#SINGLE
  c:DOWN+HORIZONT#cUP SINGLE+HORIZONT#:d:+HORIZONT#SINGLEc:UP+HORIZONT#c|SINGLE+HORIZONT#:
  d:+HORIZONT#SINGLEc:|+HORIZONT#cLIGHT ARC DOWN+>g<eUP+<g>dDIAGON#UPPER>TO LOWER<f<TO LOWER>eCROSS
  d<dUPd>dDOWNcHEAVY<dUPd>dDOWNcLIGHT<+HEAVY>dUP+HEAVY DOWNcHEAVY<+LIGHT>dUP+LIGHT DOWN
  aUPPER HALF BLOCKaLOWER ONE EIGHTH BLOCKcQUARTER BLOCKbTHREE EIGHTHS BLOCKbHALF BLOCK
  bFIVE EIGHTHS BLOCKbTHREE QUARTERS BLOCKbSEVEN EIGHTHS BLOCKaFULL BLOCKa<SEVEN EIGHTHS BLOCK
  bTHREE QUARTERS BLOCKbFIVE EIGHTHS BLOCKbHALF BLOCKbTHREE EIGHTHS BLOCKbONE QUARTER BLOCK
  cEIGHTH BLOCKa>HALF BLOCKaLIGHT SHADEaMEDIUM SHADEaDARK SHADEaUPPER ONE EIGHTH BLOCK
  a>ONE EIGHTH BLOCKaQUADRANT LOWER<c>bUPPER<d+LOWER<+LOWER>f>eUPPER>+LOWER<i>c>d+LOWER<g+LOWER>
  aBLACK SQUAREaWHITE SQUAREc&ROUNDED CORNERScCONTAINING BLACK,SQUAREaSQUARE&HORIZONT#FILLc|FILL
  cORTHOGON#CROSSHATCH FILLcUPPER<TO LOWER>FILLd>TO LOWER<FILLcDIAGON#CROSSHATCH FILLaBLACK,SQUARE
  aWHITE,SQUAREaBLACK RECTANGLEaWHITE RECTANGLEaBLACK|RECTANGLEaWHITE|RECTANGLEaBLACK PARALLELOGRAM
  aWHITE PARALLELOGRAMaBLACK UP-POINTING TRIANGLEaWHITE UP-POINTING TRIANGLE
  aBLACK UP-POINTING,TRIANGLEaWHITE UP-POINTING,TRIANGLEaBLACK RIGHT-POINTING TRIANGLE
  aWHITE RIGHT-POINTING TRIANGLEaBLACK RIGHT-POINTING,TRIANGLEaWHITE RIGHT-POINTING,TRIANGLE
  aBLACK RIGHT-POINTING POINTERaWHITE RIGHT-POINTING POINTERaBLACK DOWN-POINTING TRIANGLE
  aWHITE DOWN-POINTING TRIANGLEaBLACK DOWN-POINTING,TRIANGLEaWHITE DOWN-POINTING,TRIANGLE
  aBLACK LEFT-POINTING TRIANGLEaWHITE LEFT-POINTING TRIANGLEaBLACK LEFT-POINTING,TRIANGLE
  aWHITE LEFT-POINTING,TRIANGLEaBLACK LEFT-POINTING POINTERaWHITE LEFT-POINTING POINTER
  aBLACK DIAMONDaWHITE DIAMONDcCONTAINING BLACK,DIAMONDaFISHEYEaLOZENGEaWHITE CIRCLEaDOTTED CIRCLE
  aCIRCLE&|FILLaBULLSEYEaBLACK CIRCLEaCIRCLE&<HALF BLACKc>HALF BLACKcLOWER HALF BLACK
  cUPPER HALF BLACKd>QUADRANT BLACKcALL BUT UPPER<QUADRANT BLACKa<HALF BLACK CIRCLE
  a>HALF BLACK CIRCLEaINVERSE BULLETbWHITE CIRCLEaUPPER HALF INVERSE WHITE CIRCLE
  aLOWER HALF INVERSE WHITE CIRCLEaUPPER<QUADRANT CIRCULAR ARCb>QUADRANT CIRCULAR ARC
  aLOWER>QUADRANT CIRCULAR ARCb<QUADRANT CIRCULAR ARCaUPPER HALF CIRCLEaLOWER HALF CIRCLE
  aBLACK LOWER>TRIANGLEc<TRIANGLEbUPPER<TRIANGLEc>TRIANGLEaWHITE BULLETaSQUARE&<HALF BLACK
  c>HALF BLACKcUPPER<DIAGON#HALF BLACKcLOWER>DIAGON#HALF BLACKaWHITE SQUARE&|BISECTING LINE
  bUP-POINTING TRIANGLE&DOTaUP-POINTING TRIANGLE&<HALF BLACKd>HALF BLACKaLARGE CIRCLE
  aWHITE SQUARE&UPPER<QUADRANTdLOWER<QUADRANTe>QUADRANTdUPPER>QUADRANTbCIRCLE&UPPER<QUADRANT
  dLOWER<QUADRANTe>QUADRANTdUPPER>QUADRANTaUPPER<TRIANGLEb>TRIANGLEaLOWER<TRIANGLE
  aWHITE MEDIUM SQUAREaBLACK MEDIUM SQUAREaWHITE MEDIUM,SQUAREaBLACK MEDIUM,SQUAREaLOWER>TRIANGLE
  aBLACK SUN&RAYSaCLOUDaUMBRELLAaSNOWMANaCOMETaBLACK STARaWHITE STARaLIGHTNINGaTHUNDERSTORMaSUN
  aASCENDING NODEaDESCENDING NODEaCONJUNCTIONaOPPOSITIONaBLACK TELEPHONEaWHITE TELEPHONEaBALLOT BOX
  c&CHECKdXaSALTIREaUMBRELLA&RAIN DROPSaHOT BEVERAGEaWHITE SHOGI PIECEaBLACK SHOGI PIECEaSHAMROCK
  aREVERSED ROTATED FLOR#HEART BULLETaBLACK<POINTING INDEXb>POINTING INDEXaWHITE<POINTING INDEX
  bUP POINTING INDEXb>POINTING INDEXbDOWN POINTING INDEXaSKULL+CROSSBONESaCAUTION$aRADIOACTIVE$
  aBIOHAZARD$aCADUCEUSaANKHaORTHODOX CROSSaCHI RHOaCROSS OF LORRAINEcJERUSALEMaSTAR+CRESCENTaFARSI?
  aADI SHAKTIaHAMMER+SICKLEaPEACE?aYIN YANGaTRIGRAM FOR HEAVENcLAKEcFIREcTHUNDERcWINDcWATERcMOUNTAIN
  cEARTHaWHEEL OF DHARMAaWHITE FROWNING FACEbSMILING FACEaBLACK SMILING FACEaWHITE SUN&RAYS
  aFIRST QUARTER MOONaLAST QUARTER MOONaMERCURYaFEMALE$aEARTHaMALE$aJUPITERaSATURNaURANUSaNEPTUNE
  aPLUTOaARIESaTAURUSaGEMINIaCANCERaLEOaVIRGOaLIBRAaSCORPIUSaSAGITTARIUSaCAPRICORNaAQUARIUSaPISCES
  aWHITE CHESS KINGcQUEENcROOKcBISHOPcKNIGHTcPAWNaBLACK CHESS KINGcQUEENcROOKcBISHOPcKNIGHTcPAWN
  bSPADE SUITaWHITE HEART SUITbDIAMOND SUITaBLACK CLUB SUITaWHITE SPADE SUITaBLACK HEART SUIT
  bDIAMOND SUITaWHITE CLUB SUITaHOT SPRINGSaQUARTER NOTEaEIGHTH NOTEaBEAMED EIGHTH NOTES
  bSIXTEENTH NOTESaMUSIC FLAT$bNATUR#$bSHARP$aWEST SYRIAC CROSSaEAST SYRIAC CROSSaUNIVERS#RECYCLING?
  aRECYCLING?FOR TYPE-1 PLASTICSdTYPE-2 PLASTICSdTYPE-3 PLASTICSdTYPE-4 PLASTICSdTYPE-5 PLASTICS
  dTYPE-6 PLASTICSdTYPE-7 PLASTICSdGENERIC MATERIALSaBLACK UNIVERS#RECYCLING?aRECYCLED PAPER?
  aPARTIALLY-RECYCLED PAPER?aPERMANENT PAPER$aWHEELCHAIR?aDIE FACE-1*5aWHITE CIRCLE&DOT>dTWO DOTS
  aBLACK CIRCLE&WHITE DOT>dTWO WHITE DOTSaMONOGRAM FOR YANGcYINaDIGRAM FOR GREATER YANGcLESSER YIN
  dYANGcGREATER YINaWHITE FLAGaBLACK FLAGaHAMMER+PICKaANCHORaCROSSED SWORDSaSTAFF OF AESCULAPIUS
  aSCALESaALEMBICaFLOWERaGEARaSTAFF OF HERMESaATOM?aFLEUR-DE-LISaOUTLINED WHITE STAR
  aTHREE LINES CONVERGING>d<aWARNING$aHIGH VOLTAGE$aDOUBLED FEMALE$bMALE$aINTERLOCKED FEMALE+MALE$
  aMALE+FEMALE$b&STROKE$d+MALE+FEMALE$a|MALE&STROKE$aHORIZONT#MALE&STROKE$aMEDIUM WHITE CIRCLE
  bBLACK CIRCLEb,WHITE CIRCLEaMARRIAGE?aDIVORCE?aUNMARRIED PARTNERSHIP?aCOFFINaFUNER#URNaNEUTER
  aCERESaPALLASaJUNOaVESTAaCHIRONaBLACK MOON LILITHaSEXTILEaSEMISEXTILEaQUINCUNXaSESQUIQUADRATE
  aSOCCER BALLaBASEBALLaSQUARED KEYaWHITE DRAUGHTS MANcKINGaBLACK DRAUGHTS MANcKING
  aSNOWMAN WITHOUT SNOWaSUN BEHIND CLOUDaRAINaBLACK SNOWMANaTHUNDER CLOUD+RAIN
  aTURNED WHITE SHOGI PIECEbBLACK SHOGI PIECEaWHITE DIAMOND IN SQUAREaCROSSING LANESaDISABLED CAR
  aOPHIUCHUSaPICKaCAR SLIDINGaHELMET&WHITE CROSSaCIRCLED CROSSING LANESaCHAINSaNO ENTRY
  aALTERNATE ONE-WAY<WAY TRAFFICaBLACK TWO-WAY<WAY TRAFFICaWHITE TWO-WAY<WAY TRAFFIC
  aBLACK<LANE MERGEaWHITE<LANE MERGEaDRIVE SLOW$aHEAVY WHITE DOWN-POINTING TRIANGLEa<CLOSED ENTRY
  aSQUARED SALTIREaFALLING DIAGON#IN WHITE CIRCLE IN BLACK SQUAREaBLACK TRUCKaRESTRICTED<ENTRY-1*1
  aASTRONOMIC#?FOR URANUSaHEAVY CIRCLE&STROKE+TWO DOTS^aPENTAGRAMaRIGHT-HANDED INTERLACED PENTAGRAM
  aLEFT-HANDED INTERLACED PENTAGRAMaINVERTED PENTAGRAMaBLACK CROSS ON SHIELDaSHINTO SHRINEaCHURCH
  aCASTLEaHISTORIC SITEaGEAR WITHOUT HUBb&HANDLESaMAP?FOR LIGHTHOUSEaMOUNTAINaUMBRELLA ON GROUND
  aFOUNTAINaFLAG IN HOLEaFERRYaSAILBOATaSQUARE FOUR CORNERSaSKIERaICE SKATEaPERSON&BALLaTENT
  aJAPANESE BANK?aHEADSTONE GRAVEYARD?aFUEL PUMPaCUP ON BLACK SQUARE
  aWHITE FLAG&HORIZONT#MIDDLE BLACK STRIPEaBLACK SAFETY SCISSORSaUPPER BLADE SCISSORSaBLACK SCISSORS
  aLOWER BLADE SCISSORSaWHITE SCISSORSbHEAVY CHECK MARKaTELEPHONE LOCATION$aTAPE DRIVEaAIRPLANE
  aENVELOPEaRAISED FISTbHANDaVICTORY HANDaWRITING HANDaLOWER>PENCILaPENCILaUPPER>PENCILaWHITE NIB
  aBLACK NIBaCHECK MARKaHEAVY CHECK MARKaMULTIPLICATION XaHEAVY MULTIPLICATION XaBALLOT X
  aHEAVY BALLOT XaOUTLINED GREEK CROSSaHEAVY GREEK CROSSaOPEN CENTRE CROSSaHEAVY OPEN CENTRE CROSS
  aLATIN CROSSaSHADOWED WHITE LATIN CROSSaOUTLINED LATIN CROSSaMALTESE CROSSaSTAR OF DAVID
  aFOUR TEARDROP-SPOKED ASTERISKbBALLOON-SPOKED ASTERISKaHEAVY FOUR BALLOON-SPOKED ASTERISK
  aFOUR CLUB-SPOKED ASTERISKaBLACK FOUR POINTED STARaWHITE FOUR POINTED STARaSPARKLES
  aSTRESS OUTLINED WHITE STARaCIRCLED WHITE STARaOPEN CENTRE BLACK STARaBLACK CENTRE WHITE STAR
  aOUTLINED BLACK STARaHEAVY OUTLINED BLACK STARaPINWHEEL STARaSHADOWED WHITE STARaHEAVY ASTERISK
  aOPEN CENTRE ASTERISKaEIGHT SPOKED ASTERISKbPOINTED BLACK STARcPINWHEEL STAR
  aSIX POINTED BLACK STARaEIGHT POINTED RECTILINEAR BLACK STAR
  aHEAVY EIGHT POINTED RECTILINEAR BLACK STARaTWELVE POINTED BLACK STARaSIXTEEN POINTED ASTERISK
  aTEARDROP-SPOKED ASTERISKaOPEN CENTRE TEARDROP-SPOKED ASTERISKaHEAVY TEARDROP-SPOKED ASTERISK
  aSIX PETALLED BLACK+WHITE FLORETTEaBLACK FLORETTEaWHITE FLORETTE
  aEIGHT PETALLED OUTLINED BLACK FLORETTEaCIRCLED OPEN CENTRE EIGHT POINTED STAR
  aHEAVY TEARDROP-SPOKED PINWHEEL ASTERISKaSNOWFLAKEaTIGHT TRIFOLIATE SNOWFLAKE
  aHEAVY CHEVRON SNOWFLAKEaSPARKLEaHEAVY SPARKLEaBALLOON-SPOKED ASTERISK
  aEIGHT TEARDROP-SPOKED PROPELLER ASTERISKaHEAVY EIGHT TEARDROP-SPOKED PROPELLER ASTERISK
  aCROSS MARKaSHADOWED WHITE CIRCLEaNEGATIVE SQUARED CROSS MARKaLOWER>DROP-SHADOWED WHITE SQUARE
  aUPPER>DROP-SHADOWED WHITE SQUAREaLOWER>SHADOWED WHITE SQUAREaUPPER>SHADOWED WHITE SQUARE
  aBLACK QUESTION MARK ORNAMENTaWHITE QUESTION MARK ORNAMENTbEXCLAMATION MARK ORNAMENT
  aBLACK DIAMOND MINUS WHITE XaHEAVY EXCLAMATION MARK?aLIGHT|BARaMEDIUM|BARaHEAVY|BAR
  bSINGLE TURNED COMMA QUOTATION MARK ORNAMENTcCOMMA QUOTATION MARK ORNAMENT
  b:TURNED COMMA QUOTATION MARK ORNAMENTcCOMMA QUOTATION MARK ORNAMENT
  bLOW SINGLE COMMA QUOTATION MARK ORNAMENTc:COMMA QUOTATION MARK ORNAMENT
  aCURVED STEM PARAGRAPH$ORNAMENTaHEAVY EXCLAMATION MARK ORNAMENTbHEART EXCLAMATION MARK ORNAMENT
  bBLACK HEARTaROTATED HEAVY BLACK HEART BULLETaFLOR#HEARTaROTATED FLOR#HEART BULLET
  aMEDIUM<PARENTHESIS ORNAMENTb>PARENTHESIS ORNAMENTbFLATTENED<PARENTHESIS ORNAMENT
  c>PARENTHESIS ORNAMENTbLEFT-POINTING ANGLE BRACKET ORNAMENTbRIGHT-POINTING ANGLE BRACKET ORNAMENT
  aHEAVY LEFT-POINTING ANGLE QUOTATION MARK ORNAMENTbRIGHT-POINTING ANGLE QUOTATION MARK ORNAMENT
  bLEFT-POINTING ANGLE BRACKET ORNAMENTbRIGHT-POINTING ANGLE BRACKET ORNAMENT
  aLIGHT<TORTOISE SHELL BRACKET ORNAMENTb>TORTOISE SHELL BRACKET ORNAMENT
  aMEDIUM<CURLY BRACKET ORNAMENTb>CURLY BRACKET ORNAMENTaDINGBAT NEGATIVE CIRCLED DIGIT ONEeTWO
  eTHREEeFOUReFIVEeSIXeSEVENeEIGHTeNINEdNUMBER TENbCIRCLED SANS-SERIF DIGIT ONEeTWOeTHREEeFOUReFIVE
  eSIXeSEVENeEIGHTeNINEdNUMBER TENbNEGATIVE CIRCLED SANS-SERIF DIGIT ONEfTWOfTHREEfFOURfFIVEfSIX
  fSEVENfEIGHTfNINEeNUMBER TENaHEAVY WIDE-HEADED)~bPLUS$bMINUS$bDIVISION$bSOUTH EAST~b)~bNORTH EAST~
  aDRAFTING POINT)~aHEAVY ROUND-TIPPED)~aTRIANGLE-HEADED)~aHEAVY TRIANGLE-HEADED)~
  aDASHED TRIANGLE-HEADED)~aHEAVY DASHED TRIANGLE-HEADED)~aBLACK)~aTHREE-D TOP-LIGHTED)ARROWHEAD
  bBOTTOM-LIGHTED)ARROWHEADaBLACK)ARROWHEADaHEAVY BLACK CURVED DOWNWARDS+)~dUPWARDS+)~aSQUAT BLACK)~
  aHEAVY CONCAVE-POINTED BLACK)~aRIGHT-SHADED WHITE)~aLEFT-SHADED WHITE)~
  aBACK-TILTED SHADOWED WHITE)~aFRONT-TILTED SHADOWED WHITE)~aHEAVY LOWER RIGHT-SHADOWED WHITE)~
  bUPPER RIGHT-SHADOWED WHITE)~aNOTCHED LOWER RIGHT-SHADOWED WHITE)~aCURLY LOOP
  aNOTCHED UPPER RIGHT-SHADOWED WHITE)~aCIRCLED HEAVY WHITE)~aWHITE-FEATHERED)~
  aBLACK-FEATHERED SOUTH EAST~b)~bNORTH EAST~aHEAVY BLACK-FEATHERED SOUTH EAST~c)~cNORTH EAST~
  aTEARDROP-BARBED)~aHEAVY TEARDROP-SHANKED)~aWEDGE-TAILED)~aHEAVY WEDGE-TAILED)~aOPEN-OUTLINED)~
  a:CURLY LOOP"

end CaseDict.Text.CharacterName
