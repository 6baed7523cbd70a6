import CaseDict.Text.CharacterName.Listing
/-! # Names of further operators and arrows -/

namespace CaseDict.Text.CharacterName

/-- Names of further operators and arrows and of Braille patterns, below U+2C00. -/
def operator : Listing :=
  "=27C0aTHREE DIMENSION#ANGLEaWHITE TRIANGLE CONTAINING,WHITE TRIANGLEaPERPENDICULARaOPEN SUBSET
  bSUPERSETa<S-SHAPED BAG DELIMITERa>S-SHAPED BAG DELIMITERaOR&DOT INSIDE
  aREVERSE SOLIDUS PRECEDING SUBSETaSUPERSET PRECEDING SOLIDUSa|BAR&HORIZONT#STROKE
  aMATHEMATIC#RISING DIAGON#aLONG DIVISIONaMATHEMATIC#FALLING DIAGON#aSQUARED LOGIC#+cOR
  aWHITE DIAMOND&CENTRED DOTa+&DOTaELEMENT OF OPENING UPWARDSaLOWER>CORNER&DOTaUPPER<CORNER&DOT
  a<OUTER JOINa>OUTER JOINaFULL OUTER JOINaLARGE UP TACKbDOWN TACKa<+>:TURNSTILEdTACKbMULTIMAP
  aLONG>TACKb<TACKaUP TACK&CIRCLE^aLOZENGE DIVIDED BY HORIZONT#RULEaWHITE CONCAVE-SIDED DIAMOND
  d&(TICKe)TICKbSQUARE&(TICKd)TICKaMATHEMATIC#<WHITE SQUARE BRACKETb>WHITE SQUARE BRACKET
  b<ANGLE BRACKETb>ANGLE BRACKETb<:ANGLE BRACKETb>:ANGLE BRACKETb<WHITE TORTOISE SHELL BRACKET
  b>WHITE TORTOISE SHELL BRACKETb<FLATTENED PARENTHESISb>FLATTENED PARENTHESISaUPWARDS QUADRUPLE~
  aDOWNWARDS QUADRUPLE~aANTICLOCKWISE GAPPED CIRCLE~aCLOCKWISE GAPPED CIRCLE~a>~&CIRCLED PLUSaLONG(~
  b)~b<>~b(:~b):~b<>:~b(~FROM BARb)~FROM BARb(:~FROM BARb):~FROM BARcSQUIGGLE~aBRAILLE PATTERN BLANK
  cDOTS-1*1cDOTS-12cDOTS-3cDOTS-13cDOTS-23cDOTS-123cDOTS-4cDOTS-14cDOTS-24cDOTS-124cDOTS-34cDOTS-134
  cDOTS-234cDOTS-1234cDOTS-5cDOTS-15cDOTS-25cDOTS-125cDOTS-35cDOTS-135cDOTS-235cDOTS-1235cDOTS-45
  cDOTS-145cDOTS-245cDOTS-1245cDOTS-345cDOTS-1345cDOTS-2345cDOTS-12345cDOTS-6cDOTS-16cDOTS-26
  cDOTS-126cDOTS-36cDOTS-136cDOTS-236cDOTS-1236cDOTS-46cDOTS-146cDOTS-246cDOTS-1246cDOTS-346
  cDOTS-1346cDOTS-2346cDOTS-12346cDOTS-56cDOTS-156cDOTS-256cDOTS-1256cDOTS-356cDOTS-1356cDOTS-2356
  cDOTS-12356cDOTS-456cDOTS-1456cDOTS-2456cDOTS-12456cDOTS-3456cDOTS-13456cDOTS-23456cDOTS-123456
  cDOTS-7cDOTS-17cDOTS-27cDOTS-127cDOTS-37cDOTS-137cDOTS-237cDOTS-1237cDOTS-47cDOTS-147cDOTS-247
  cDOTS-1247cDOTS-347cDOTS-1347cDOTS-2347cDOTS-12347cDOTS-57cDOTS-157cDOTS-257cDOTS-1257cDOTS-357
  cDOTS-1357cDOTS-2357cDOTS-12357cDOTS-457cDOTS-1457cDOTS-2457cDOTS-12457cDOTS-3457cDOTS-13457
  cDOTS-23457cDOTS-123457cDOTS-67cDOTS-167cDOTS-267cDOTS-1267cDOTS-367cDOTS-1367cDOTS-2367
  cDOTS-12367cDOTS-467cDOTS-1467cDOTS-2467cDOTS-12467cDOTS-3467cDOTS-13467cDOTS-23467cDOTS-123467
  cDOTS-567cDOTS-1567cDOTS-2567cDOTS-12567cDOTS-3567cDOTS-13567cDOTS-23567cDOTS-123567cDOTS-4567
  cDOTS-14567cDOTS-24567cDOTS-124567cDOTS-34567cDOTS-134567cDOTS-234567cDOTS-1234567cDOTS-8cDOTS-18
  cDOTS-28cDOTS-128cDOTS-38cDOTS-138cDOTS-238cDOTS-1238cDOTS-48cDOTS-148cDOTS-248cDOTS-1248cDOTS-348
  cDOTS-1348cDOTS-2348cDOTS-12348cDOTS-58cDOTS-158cDOTS-258cDOTS-1258cDOTS-358cDOTS-1358cDOTS-2358
  cDOTS-12358cDOTS-458cDOTS-1458cDOTS-2458cDOTS-12458cDOTS-3458cDOTS-13458cDOTS-23458cDOTS-123458
  cDOTS-68cDOTS-168cDOTS-268cDOTS-1268cDOTS-368cDOTS-1368cDOTS-2368cDOTS-12368cDOTS-468cDOTS-1468
  cDOTS-2468cDOTS-12468cDOTS-3468cDOTS-13468cDOTS-23468cDOTS-123468cDOTS-568cDOTS-1568cDOTS-2568
  cDOTS-12568cDOTS-3568cDOTS-13568cDOTS-23568cDOTS-123568cDOTS-4568cDOTS-14568cDOTS-24568
  cDOTS-124568cDOTS-34568cDOTS-134568cDOTS-234568cDOTS-1234568cDOTS-78cDOTS-178cDOTS-278cDOTS-1278
  cDOTS-378cDOTS-1378cDOTS-2378cDOTS-12378cDOTS-478cDOTS-1478cDOTS-2478cDOTS-12478cDOTS-3478
  cDOTS-13478cDOTS-23478cDOTS-123478cDOTS-578cDOTS-1578cDOTS-2578cDOTS-12578cDOTS-3578cDOTS-13578
  cDOTS-23578cDOTS-123578cDOTS-4578cDOTS-14578cDOTS-24578cDOTS-124578cDOTS-34578cDOTS-134578
  cDOTS-234578cDOTS-1234578cDOTS-678cDOTS-1678cDOTS-2678cDOTS-12678cDOTS-3678cDOTS-13678cDOTS-23678
  cDOTS-123678cDOTS-4678cDOTS-14678cDOTS-24678cDOTS-124678cDOTS-34678cDOTS-134678cDOTS-234678
  cDOTS-1234678cDOTS-5678cDOTS-15678cDOTS-25678cDOTS-125678cDOTS-35678cDOTS-135678cDOTS-235678
  cDOTS-1235678cDOTS-45678cDOTS-145678cDOTS-245678cDOTS-1245678cDOTS-345678cDOTS-1345678
  cDOTS-2345678cDOTS-12345678a)TWO-HEADED~&|STROKEe:|STROKEa(:~&|STROKEa):~&|STROKEa<>:~&|STROKE
  a)TWO-HEADED~FROM BARa(:~FROM BARa):~FROM BARaDOWNWARDS~&HORIZONT#STROKEaUPWARDS~&HORIZONT#STROKE
  bTRIPLE~aDOWNWARDS TRIPLE~a(:DASH~a):DASH~a(TRIPLE DASH~a)TRIPLE DASH~bTWO-HEADED TRIPLE DASH~
  b~&DOTTED STEMaUPWARDS~TO BARaDOWNWARDS~TO BARa)~&TAIL&|STROKEf:|STROKEbTWO-HEADED~&TAILf&|STROKE
  g:|STROKEa(ARROW-TAILa)ARROW-TAILa(:ARROW-TAILa):ARROW-TAILa(~TO BLACK DIAMONDa)~TO BLACK DIAMOND
  a(~FROM BAR TO BLACK DIAMONDa)~FROM BAR TO BLACK DIAMONDaNORTH WEST+SOUTH EAST~bEAST+SOUTH WEST~
  bWEST~&HOOKbEAST~&HOOKaSOUTH EAST~&HOOKbWEST~&HOOKaNORTH WEST~+NORTH EAST~bEAST~+SOUTH EAST~
  aSOUTH EAST~+SOUTH WEST~bWEST~+NORTH WEST~aRISING DIAGON#CROSSING FALLING DIAGON#
  aFALLING DIAGON#CROSSING RISING DIAGON#aSOUTH EAST~CROSSING NORTH EAST~
  aNORTH EAST~CROSSING SOUTH EAST~aFALLING DIAGON#CROSSING NORTH EAST~
  aRISING DIAGON#CROSSING SOUTH EAST~aNORTH EAST~CROSSING NORTH WEST~bWEST~CROSSING NORTH EAST~
  aWAVE~POINTING DIRECTLY>a~POINTING)THEN CURVING UPWARDSfDOWNWARDScDOWNWARDS THEN CURVING(f)
  aRIGHT-SIDE ARC CLOCKWISE~aLEFT-SIDE ARC ANTICLOCKWISE~aTOP ARC ANTICLOCKWISE~
  aBOTTOM ARC ANTICLOCKWISE~aTOP ARC CLOCKWISE~&MINUScANTICLOCKWISE~&PLUS
  aLOWER>SEMICIRCULAR CLOCKWISE~b<SEMICIRCULAR ANTICLOCKWISE~aANTICLOCKWISE CLOSED CIRCLE~
  aCLOCKWISE CLOSED CIRCLE~a)~^SHORT(~a(~^SHORT)~aSHORT)~^(~a)~&PLUS_a(~&PLUS_a)~THROUGH X
  a<>~THROUGH,CIRCLEaUPWARDS TWO-HEADED~FROM,CIRCLEa<BARB UP>BARB DOWN HARPOONcDOWN>BARB UP HARPOON
  aUP BARB>DOWN BARB<HARPOONc<DOWN BARB>HARPOONa<BARB UP>BARB UP HARPOONaUP BARB>DOWN BARB>HARPOON
  a<BARB DOWN>BARB DOWN HARPOONaUP BARB<DOWN BARB<HARPOONa(HARPOON&BARB UP TO BAR
  a)HARPOON&BARB UP TO BARaUPWARDS HARPOON&BARB>TO BARaDOWNWARDS HARPOON&BARB>TO BAR
  a(HARPOON&BARB DOWN TO BARa)HARPOON&BARB DOWN TO BARaUPWARDS HARPOON&BARB<TO BAR
  aDOWNWARDS HARPOON&BARB<TO BARa(HARPOON&BARB UP FROM BARa)HARPOON&BARB UP FROM BAR
  aUPWARDS HARPOON&BARB>FROM BARaDOWNWARDS HARPOON&BARB>FROM BARa(HARPOON&BARB DOWN FROM BAR
  a)HARPOON&BARB DOWN FROM BARaUPWARDS HARPOON&BARB<FROM BARaDOWNWARDS HARPOON&BARB<FROM BAR
  a(HARPOON&BARB UP^(HARPOON&BARB DOWNaUPWARDS HARPOON&BARB<BESIDE UPWARDS HARPOON&BARB>
  a)HARPOON&BARB UP^)HARPOON&BARB DOWNaDOWNWARDS HARPOON&BARB<BESIDE DOWNWARDS HARPOON&BARB>
  a(HARPOON&BARB UP^)HARPOON&BARB UPeDOWN^)HARPOON&BARB DOWNa)HARPOON&BARB UP^(HARPOON&BARB UP
  eDOWN^(HARPOON&BARB DOWNa(HARPOON&BARB UP^LONG DASHeDOWN_LONG DASHa)HARPOON&BARB UP^LONG DASH
  eDOWN_LONG DASHaUPWARDS HARPOON&BARB<BESIDE DOWNWARDS HARPOON&BARB>
  aDOWNWARDS HARPOON&BARB<BESIDE UPWARDS HARPOON&BARB>a>:~&ROUNDED HEADaEQUALS$^)~aTILDE OPERATOR^)~
  a(~^TILDE OPERATORa)~^TILDE OPERATORdALMOST EQU#TOaLESS-THAN^(~a(~THROUGH LESS-THAN
  aGREATER-THAN^)~aSUBSET^)~a(~THROUGH SUBSETaSUPERSET^(~a<FISH TAILa>FISH TAILaUP FISH TAIL
  aDOWN FISH TAILaTRIPLE|BAR DELIMITERaZ NOTATION SPOTcTYPE COLONa<WHITE CURLY BRACKET
  a>WHITE CURLY BRACKETa<WHITE PARENTHESISa>WHITE PARENTHESISaZ NOTATION<IMAGE BRACKET
  c>IMAGE BRACKETc<BINDING BRACKETc>BINDING BRACKETa<SQUARE BRACKET&UNDERBAR
  a>SQUARE BRACKET&UNDERBARa<SQUARE BRACKET&TICK IN TOP CORNERa>SQUARE BRACKET&TICK IN BOTTOM CORNER
  a<SQUARE BRACKET&TICK IN BOTTOM CORNERa>SQUARE BRACKET&TICK IN TOP CORNERa<ANGLE BRACKET&DOT
  a>ANGLE BRACKET&DOTa<ARC LESS-THAN BRACKETa>ARC GREATER-THAN BRACKETa:<ARC GREATER-THAN BRACKET
  b>ARC LESS-THAN BRACKETa<BLACK TORTOISE SHELL BRACKETa>BLACK TORTOISE SHELL BRACKETaDOTTED FENCE
  a|ZIGZAG LINEaMEASURED ANGLE OPENING<a>ANGLE VARIANT&SQUAREaMEASURED>ANGLE&DOTaANGLE&S INSIDE
  aACUTE ANGLEaSPHERIC#ANGLE OPENING<dUPaTURNED ANGLEaREVERSED ANGLEaANGLE&UNDERBAR
  aREVERSED ANGLE&UNDERBARaOBLIQUE ANGLE OPENING UPdDOWN
  aMEASURED ANGLE&OPEN ARM ENDING IN~POINTING UP+>l<jDOWN+>l<j>+UPj<+UPj>+DOWNj<+DOWN
  aREVERSED EMPTY SETaEMPTY SET&OVERBARd,CIRCLE^d>~^d<~^aCIRCLE&HORIZONT#BARaCIRCLED|BARbPARALLEL
  bREVERSE SOLIDUSbPERPENDICULARaCIRCLE DIVIDED BY HORIZONT#BAR+TOP HALF DIVIDED BY|BAR
  b&SUPERIMPOSED XaCIRCLED ANTICLOCKWISE-ROTATED DIVISION$aUP~THROUGH CIRCLEaCIRCLED WHITE BULLET
  bBULLETbLESS-THANbGREATER-THANaCIRCLE&,CIRCLE TO THE>cTWO HORIZONT#STROKES TO THE>
  aSQUARED RISING DIAGON#SLASHbFALLING DIAGON#SLASHbASTERISKb,CIRCLEbSQUAREaTWO JOINED SQUARES
  aTRIANGLE&DOT^cUNDERBARaS IN TRIANGLEaTRIANGLE&SERIFS AT BOTTOMa>TRIANGLE^<TRIANGLE
  a<TRIANGLE BESIDE|BARa|BAR BESIDE>TRIANGLEaBOWTIE&<HALF BLACKc>HALF BLACKaBLACK BOWTIE
  aTIMES&<HALF BLACKc>HALF BLACKaWHITE HOURGLASSaBLACK HOURGLASSa<WIGGLY FENCEa>WIGGLY FENCE
  a<:WIGGLY FENCEa>:WIGGLY FENCEaINCOMPLETE INFINITYaTIE OVER INFINITYaINFINITY NEGATED&|BAR
  aDOUBLE-ENDED MULTIMAPaSQUARE&CONTOURED OUTLINEaINCREASES ASaSHUFFLE PRODUCT
  aEQUALS$+SLANTED PARALLELf&TILDE^aIDENTIC#TO+SLANTED PARALLELaGLEICH STARKaTHERMODYNAMIC
  aDOWN-POINTING TRIANGLE&<HALF BLACKd>HALF BLACKaBLACK DIAMOND&DOWN~bLOZENGEaWHITE CIRCLE&DOWN~
  aBLACK CIRCLE&DOWN~aERROR-BARRED WHITE SQUAREbBLACK SQUAREbWHITE DIAMONDbBLACK DIAMOND
  bWHITE CIRCLEbBLACK CIRCLEaRULE-DELAYEDaREVERSE SOLIDUS OPERATORaSOLIDUS&OVERBAR
  aREVERSE SOLIDUS&HORIZONT#STROKEaBIG SOLIDUSbREVERSE SOLIDUSa:PLUSaTRIPLE PLUS
  aLEFT-POINTING CURVED ANGLE BRACKETaRIGHT-POINTING CURVED ANGLE BRACKETaTINYaMINY
  aN-ARY CIRCLED DOT OPERATORcPLUS OPERATORcTIMES OPERATORbUNION OPERATOR&DOTePLUS
  bSQUARE INTERSECTION OPERATORcUNION OPERATORaTWO LOGIC#+OPERATORcOR OPERATORaN-ARY TIMES OPERATOR
  aMODULO TWO SUMaSUMMATION&INTEGR#aQUADRUPLE INTEGR#OPERATORaFINITE PART INTEGR#aINTEGR#&:STROKE
  bAVERAGE&SLASHaCIRCULATION FUNCTIONaANTICLOCKWISE INTEGRATION
  aLINE INTEGRATION&RECTANGULAR PATH AROUND POLEdSEMICIRCULAR PATH AROUND POLE
  cNOT INCLUDING THE POLEaINTEGR#AROUND A POINT OPERATORaQUATERNION INTEGR#OPERATORaINTEGR#&(~&HOOK
  cTIMES$cINTERSECTIONcUNIONcOVERBARcUNDERBARaJOINaLARGE<TRIANGLE OPERATOR
  aZ NOTATION SCHEMA COMPOSITIONdPIPINGdPROJECTIONaPLUS$&,CIRCLE^dCIRCUMFLEX ACCENT^dTILDE^dDOT_
  dTILDE_dSUBSCRIPT TWOdBLACK TRIANGLEaMINUS$&COMMA^dDOT_dFALLING DOTSdRISING DOTS
  aPLUS$IN<HALF CIRCLEd>HALF CIRCLEaVECTOR OR CROSS PRODUCTaMULTIPLICATION$&DOT^dUNDERBAR
  aSEMIDIRECT PRODUCT&BOTTOM CLOSEDaSMASH PRODUCTaMULTIPLICATION$IN<HALF CIRCLEd>HALF CIRCLE
  aCIRCLED MULTIPLICATION$&CIRCUMFLEX ACCENTaMULTIPLICATION$IN:CIRCLEaCIRCLED DIVISION$
  aPLUS$IN TRIANGLEaMINUS$IN TRIANGLEaMULTIPLICATION$IN TRIANGLEaINTERIOR PRODUCT
  aRIGHTHAND INTERIOR PRODUCTaZ NOTATION RELATION#COMPOSITIONaAMALGAMATION OR COPRODUCT
  aINTERSECTION&DOTaUNION&MINUS$cOVERBARaINTERSECTION&OVERBARcLOGIC#+aUNION&LOGIC#ORb^INTERSECTION
  aINTERSECTION^UNIONaUNION^BAR^INTERSECTIONaINTERSECTION^BAR^UNIONaUNION BESIDE+JOINED&UNION
  aINTERSECTION BESIDE+JOINED&INTERSECTIONaCLOSED UNION&SERIFSbINTERSECTION&SERIFS
  a:SQUARE INTERSECTIONcUNIONaCLOSED UNION&SERIFS+SMASH PRODUCTaLOGIC#+&DOT^bOR&DOT^a:LOGIC#+cOR
  aTWO INTERSECTING LOGIC#+dORaSLOPING LARGE ORc+aLOGIC#OR OVERLAPPING LOGIC#+b+&MIDDLE STEM
  bOR&MIDDLE STEMb+&HORIZONT#DASHbOR&HORIZONT#DASHb+&:OVERBARdUNDERBARd:UNDERBARa,VEE&UNDERBAR
  aLOGIC#OR&:OVERBAReUNDERBARaZ NOTATION DOMAIN ANTIRESTRICTIONcRANGE ANTIRESTRICTIONaEQUALS$&DOT_
  aIDENTIC#&DOT^aTRIPLE HORIZONT#BAR&:|STROKEeTRIPLE|STROKEaTILDE OPERATOR&DOT^dRISING DOTS
  aSIMILAR MINUS SIMILARaCONGRUENT&DOT^aEQUALS&ASTERISKaALMOST EQU#TO&CIRCUMFLEX ACCENT
  aAPPROXIMATELY EQU#OR EQU#TOaEQUALS$^PLUS$aPLUS$^EQUALS$aEQUALS$^TILDE OPERATORa:COLON EQU#
  aTWO CONSECUTIVE EQUALS SIGNSaTHREE CONSECUTIVE EQUALS SIGNSaEQUALS$&TWO DOTS^+TWO DOTS_
  aEQUIVALENT&FOUR DOTS^aLESS-THAN&CIRCLE INSIDEaGREATER-THAN&CIRCLE INSIDEaLESS-THAN&QUESTION MARK^
  aGREATER-THAN&QUESTION MARK^aLESS-THAN OR SLANTED EQU#TOaGREATER-THAN OR SLANTED EQU#TO
  aLESS-THAN OR SLANTED EQU#TO&DOT INSIDEaGREATER-THAN OR SLANTED EQU#TO&DOT INSIDE
  aLESS-THAN OR SLANTED EQU#TO&DOT^aGREATER-THAN OR SLANTED EQU#TO&DOT^
  aLESS-THAN OR SLANTED EQU#TO&DOT^>aGREATER-THAN OR SLANTED EQU#TO&DOT^<aLESS-THAN OR APPROXIMATE
  aGREATER-THAN OR APPROXIMATEaLESS-THAN+SINGLE-LINE NOT EQU#TOaGREATER-THAN+SINGLE-LINE NOT EQU#TO
  aLESS-THAN+NOT APPROXIMATEaGREATER-THAN+NOT APPROXIMATEaLESS-THAN^DOUBLE-LINE EQU#^GREATER-THAN
  aGREATER-THAN^DOUBLE-LINE EQU#^LESS-THANaLESS-THAN^SIMILAR OR EQU#aGREATER-THAN^SIMILAR OR EQU#
  aLESS-THAN^SIMILAR^GREATER-THANaGREATER-THAN^SIMILAR^LESS-THAN
  aLESS-THAN^GREATER-THAN^DOUBLE-LINE EQU#aGREATER-THAN^LESS-THAN^DOUBLE-LINE EQU#
  aLESS-THAN^SLANTED EQU#^GREATER-THAN^SLANTED EQU#aGREATER-THAN^SLANTED EQU#^LESS-THAN^SLANTED EQU#
  aSLANTED EQU#TO OR LESS-THANeGREATER-THANeLESS-THAN&DOT INSIDEeGREATER-THAN&DOT INSIDE
  aDOUBLE-LINE EQU#TO OR LESS-THANeGREATER-THANbSLANTED EQU#TO OR LESS-THANfGREATER-THAN
  aSIMILAR OR LESS-THANcGREATER-THANb^LESS-THAN^EQUALS$cGREATER-THAN^EQUALS$a:NESTED LESS-THAN
  cGREATER-THANcLESS-THAN&UNDERBARaGREATER-THAN OVERLAPPING LESS-THANbBESIDE LESS-THAN
  aLESS-THAN CLOSED BY CURVEaGREATER-THAN CLOSED BY CURVEaLESS-THAN CLOSED BY CURVE^SLANTED EQU#
  aGREATER-THAN CLOSED BY CURVE^SLANTED EQU#aSMALLER THANaLARGER THANaSMALLER THAN OR EQU#TO
  aLARGER THAN OR EQU#TOaEQUALS$&BUMPY^aPRECEDES^SINGLE-LINE EQUALS$aSUCCEEDS^SINGLE-LINE EQUALS$
  aPRECEDES^SINGLE-LINE NOT EQU#TOaSUCCEEDS^SINGLE-LINE NOT EQU#TOaPRECEDES^EQUALS$aSUCCEEDS^EQUALS$
  aPRECEDES^NOT EQU#TOaSUCCEEDS^NOT EQU#TOaPRECEDES^ALMOST EQU#TOaSUCCEEDS^ALMOST EQU#TO
  aPRECEDES^NOT ALMOST EQU#TOaSUCCEEDS^NOT ALMOST EQU#TOa:PRECEDESbSUCCEEDSaSUBSET&DOTaSUPERSET&DOT
  aSUBSET&PLUS$_aSUPERSET&PLUS$_aSUBSET&MULTIPLICATION$_aSUPERSET&MULTIPLICATION$_
  aSUBSET OF OR EQU#TO&DOT^aSUPERSET OF OR EQU#TO&DOT^aSUBSET OF^EQUALS$aSUPERSET OF^EQUALS$
  aSUBSET OF^TILDE OPERATORaSUPERSET OF^TILDE OPERATORaSUBSET OF^ALMOST EQU#TO
  aSUPERSET OF^ALMOST EQU#TOaSUBSET OF^NOT EQU#TOaSUPERSET OF^NOT EQU#TOaSQUARE<OPEN BOX OPERATOR
  b>OPEN BOX OPERATORaCLOSED SUBSETbSUPERSETbSUBSET OR EQU#TObSUPERSET OR EQU#TOaSUBSET^SUPERSET
  aSUPERSET^SUBSETaSUBSET^SUBSETaSUPERSET^SUPERSETbBESIDE SUBSETc+JOINED BY DASH&SUBSET
  aELEMENT OF OPENING DOWNWARDSaPITCHFORK&TEE TOPaTRANSVERS#INTERSECTIONaFORKINGaNONFORKING
  aSHORT<TACKbDOWN TACKbUP TACKaPERPENDICULAR&Sa|BAR TRIPLE>TURNSTILEa:|BAR<TURNSTILE
  a|BAR:<TURNSTILEa:|BAR:<TURNSTILEaLONG DASH FROM<MEMBER OF:|aSHORT DOWN TACK&OVERBAR
  bUP TACK&UNDERBARd^SHORT DOWN TACKa:DOWN TACKbUP TACKbSTROKE NOT$aREVERSED:STROKE NOT$
  aDOES NOT DIVIDE&REVERSED NEGATION SLASHa|LINE&CIRCLE^e_aDOWN TACK&CIRCLE_
  aPARALLEL&HORIZONT#STROKEcTILDE OPERATORaTRIPLE|BAR BINARY RELATIONd&HORIZONT#STROKE
  bCOLON OPERATORbNESTED LESS-THANcGREATER-THANaDOUBLE-LINE SLANTED LESS-THAN OR EQU#TO
  cGREATER-THAN OR EQU#TOaTRIPLE SOLIDUS BINARY RELATIONaLARGE TRIPLE|BAR OPERATORa:SOLIDUS OPERATOR
  aWHITE|BARaN-ARY WHITE|BARaNORTH EAST WHITE~bWEST WHITE~aSOUTH EAST WHITE~bWEST WHITE~a<>WHITE~
  a(BLACK~aUPWARDS BLACK~aDOWNWARDS BLACK~aNORTH EAST BLACK~bWEST BLACK~aSOUTH EAST BLACK~
  bWEST BLACK~a<>BLACK~aUP DOWN BLACK~a)~&TIP DOWNWARDSeUPWARDSa(~&TIP DOWNWARDSeUPWARDS
  aSQUARE&TOP HALF BLACKcBOTTOM HALF BLACKcUPPER>DIAGON#HALF BLACKcLOWER<DIAGON#HALF BLACK
  aDIAMOND&<HALF BLACKc>HALF BLACKcTOP HALF BLACKcBOTTOM HALF BLACKaDOTTED SQUAREaBLACK LARGE SQUARE
  aWHITE LARGE SQUAREaBLACK VERY,SQUAREaWHITE VERY,SQUAREaBLACK PENTAGONaWHITE PENTAGONbHEXAGON
  aBLACK HEXAGONaHORIZONT#BLACK HEXAGONaBLACK LARGE CIRCLEbMEDIUM DIAMONDaWHITE MEDIUM DIAMOND
  aBLACK MEDIUM LOZENGEaWHITE MEDIUM LOZENGEaBLACK,DIAMONDcLOZENGEaWHITE,LOZENGE
  aBLACK HORIZONT#ELLIPSEaWHITE HORIZONT#ELLIPSEaBLACK|ELLIPSEaWHITE|ELLIPSEa<~&,CIRCLEaTHREE(ARROWS
  a<~&CIRCLED PLUSaLONG(SQUIGGLE~a(TWO-HEADED~&|STROKEe:|STROKEdFROM BARcTRIPLE DASH~b~&DOTTED STEM
  dTAIL&|STROKEf:|STROKEbTWO-HEADED~&TAILf&|STROKEg:|STROKEb~THROUGH XaWAVE~POINTING DIRECTLY<
  aEQUALS$^(~aREVERSE TILDE OPERATOR^(~a(~^REVERSE ALMOST EQU#TOa)~THROUGH GREATER-THANdSUPERSET
  a(QUADRUPLE~a)QUADRUPLE~aREVERSE TILDE OPERATOR^)~a)~^REVERSE ALMOST EQU#TOaTILDE OPERATOR^(~
  a(~^ALMOST EQU#TOdREVERSE TILDE OPERATORa)~^REVERSE TILDE OPERATOR
  aDOWNWARDS TRIANGLE-HEADED ZIGZAG~aSHORT SLANTED NORTH~bBACKSLANTED SOUTH~aWHITE MEDIUM STAR
  aBLACK,STARaWHITE,STARaBLACK RIGHT-POINTING PENTAGONaWHITE RIGHT-POINTING PENTAGON
  aHEAVY LARGE CIRCLEbOV#&OV#INSIDEbCIRCLE&CIRCLE INSIDEbCIRCLEbCIRCLED SALTIRE
  aSLANTED NORTH~&HOOKED HEADaBACKSLANTED SOUTH~&HOOKED TAILaSLANTED NORTH~&HORIZONT#TAIL
  aBACKSLANTED SOUTH~&HORIZONT#TAILaBENT~POINTING DOWNWARDS THEN NORTH EAST
  aSHORT BENT~POINTING DOWNWARDS THEN NORTH EASTa(TRIANGLE-HEADED~aUPWARDS TRIANGLE-HEADED~
  a)TRIANGLE-HEADED~aDOWNWARDS TRIANGLE-HEADED~a<>TRIANGLE-HEADED~aUP DOWN TRIANGLE-HEADED~
  aNORTH WEST TRIANGLE-HEADED~bEAST TRIANGLE-HEADED~aSOUTH EAST TRIANGLE-HEADED~
  bWEST TRIANGLE-HEADED~a(TRIANGLE-HEADED DASHED~aUPWARDS TRIANGLE-HEADED DASHED~
  a)TRIANGLE-HEADED DASHED~aDOWNWARDS TRIANGLE-HEADED DASHED~aCLOCKWISE TRIANGLE-HEADED OPEN CIRCLE~
  aANTICLOCKWISE TRIANGLE-HEADED OPEN CIRCLE~a(TRIANGLE-HEADED~TO BARaUPWARDS TRIANGLE-HEADED~TO BAR
  a)TRIANGLE-HEADED~TO BARaDOWNWARDS TRIANGLE-HEADED~TO BAR=2B76aNORTH WEST TRIANGLE-HEADED~TO BAR
  bEAST TRIANGLE-HEADED~TO BARaSOUTH EAST TRIANGLE-HEADED~TO BARbWEST TRIANGLE-HEADED~TO BAR
  a(TRIANGLE-HEADED~&:HORIZONT#STROKEaUPWARDS TRIANGLE-HEADED~&:HORIZONT#STROKE
  a)TRIANGLE-HEADED~&:HORIZONT#STROKEaDOWNWARDS TRIANGLE-HEADED~&:HORIZONT#STROKEaHORIZONT#TAB KEY
  a|TAB KEYa(TRIANGLE-HEADED~OVER)TRIANGLE-HEADED~
  aUPWARDS TRIANGLE-HEADED~(OF DOWNWARDS TRIANGLE-HEADED~a)TRIANGLE-HEADED~OVER(TRIANGLE-HEADED~
  aDOWNWARDS TRIANGLE-HEADED~(OF UPWARDS TRIANGLE-HEADED~a(TRIANGLE-HEADED PAIRED ARROWS
  aUPWARDS TRIANGLE-HEADED PAIRED ARROWSa)TRIANGLE-HEADED PAIRED ARROWS
  aDOWNWARDS TRIANGLE-HEADED PAIRED ARROWSa(BLACK CIRCLED WHITE~aUPWARDS BLACK CIRCLED WHITE~
  a)BLACK CIRCLED WHITE~aDOWNWARDS BLACK CIRCLED WHITE~aANTICLOCKWISE TRIANGLE-HEADED>U-SHAPED~
  cBOTTOM U-SHAPED~c<U-SHAPED~cTOP U-SHAPED~aRETURN<b>aNEWLINE<b>
  aFOUR CORNER ARROWS CIRCLING ANTICLOCKWISEa)BLACK~=2B97a?FOR TYPE A ELECTRONICS
  aTHREE-D TOP-LIGHTED(EQUILATER#ARROWHEADbRIGHT-LIGHTED UPWARDS EQUILATER#ARROWHEAD
  bTOP-LIGHTED)EQUILATER#ARROWHEADbLEFT-LIGHTED DOWNWARDS EQUILATER#ARROWHEAD
  aBLACK(EQUILATER#ARROWHEADbUPWARDS EQUILATER#ARROWHEADb)EQUILATER#ARROWHEAD
  bDOWNWARDS EQUILATER#ARROWHEADaDOWNWARDS TRIANGLE-HEADED~&LONG TIP(g)
  aUPWARDS TRIANGLE-HEADED~&LONG TIP(g)a(TRIANGLE-HEADED~&LONG TIP UPWARDS
  a)TRIANGLE-HEADED~&LONG TIP UPWARDSa(TRIANGLE-HEADED~&LONG TIP DOWNWARDS
  a)TRIANGLE-HEADED~&LONG TIP DOWNWARDSaBLACK CURVED DOWNWARDS+(~e)~cUPWARDS+(~e)~c(+UPWARDS~
  c)+UPWARDS~c(+DOWNWARDS~c)+DOWNWARDS~aRIBBON~DOWN<d>cUP<d>c<UPc>UPc<DOWNc>DOWN
  aUPWARDS WHITE~FROM BAR&HORIZONT#BARaUP ARROWHEAD IN A RECTANGLE BOXaOVERLAPPING WHITE SQUARES
  c+BLACK SQUARESbBLACK SQUARESaBALLOT BOX&LIGHT XaCIRCLED XbBOLD XaBLACK SQUARE CENTRED
  bDIAMOND CENTREDaTURNED BLACK PENTAGONaHORIZONT#BLACK OCTAGONaBLACK OCTAGON
  bMEDIUM UP-POINTING TRIANGLE CENTREDcDOWN-POINTING TRIANGLE CENTREDcLEFT-POINTING TRIANGLE CENTRED
  cRIGHT-POINTING TRIANGLE CENTREDaNEPTUNE%TWOaTOP HALF BLACK CIRCLEaBOTTOM HALF BLACK CIRCLE
  aLIGHT FOUR POINTED BLACK CUSPaROTATED LIGHT FOUR POINTED BLACK CUSPaWHITE FOUR POINTED CUSP
  aROTATED WHITE FOUR POINTED CUSPaSQUARE POSITION INDICATORaUNCERTAINTY$aGROUP MARKaPLUTO%TWOcTHREE
  cFOURcFIVEaTRANSPLUTOaPROSERPINAaASTRAEAaHYGIEAaPHOLUSaNESSUSaWHITE MOON SELENA
  aBLACK DIAMOND ON CROSSaTRUE LIGHT MOON ARTAaCUPIDOaHADESaZEUSaKRONOSaAPOLLONaADMETOSaVULCANUS
  aPOSEIDONa<HALF BLACK STARa>HALF BLACK STARaSTAR&<HALF BLACKc>HALF BLACK
  a(TWO-HEADED~&TRIANGLE ARROWHEADSaUPWARDS TWO-HEADED~&TRIANGLE ARROWHEADS
  a)TWO-HEADED~&TRIANGLE ARROWHEADSaDOWNWARDS TWO-HEADED~&TRIANGLE ARROWHEADSaERIS%ONEcTWOaSEDNA
  aRUSSIAN ASTROLOGIC#?VIGINTILEdNOVILEdQUINTILEdBINOVILEdSENTAGONdTREDECILEaEQUALS$&INFINITY_
  aUNITED?aSEPARATED?aDOUBLED?aPASSED?aREVERSED>ANGLEaHELLSCHREIBER PAUSE?"

end CaseDict.Text.CharacterName
