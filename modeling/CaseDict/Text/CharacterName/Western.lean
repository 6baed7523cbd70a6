import CaseDict.Text.CharacterName.Listing
/-! # Names of Latin, Greek, Cyrillic and Armenian characters -/

namespace CaseDict.Text.CharacterName

/-- Names of Latin, Greek, Cyrillic and Armenian characters, below U+0590. -/
def western : Listing :=
  "=20aSPACEaEXCLAMATION MARKaQUOTATION MARKaNUMBER$aDOLLAR$aPERCENT$aAMPERSANDaAPOSTROPHE
  a<PARENTHESISa>PARENTHESISaASTERISKaPLUS$aCOMMAaHYPHEN-MINUSaFULL STOPaSOLIDUSaDIGIT ZERObONEbTWO
  bTHREEbFOURbFIVEbSIXbSEVENbEIGHTbNINEaCOLONaSEMICOLONaLESS-THAN$aEQUALS$aGREATER-THAN$
  aQUESTION MARKaCOMMERCI#ATaLATIN!.A*25a<SQUARE BRACKETaREVERSE SOLIDUSa>SQUARE BRACKET
  aCIRCUMFLEX ACCENTaLOW LINEaGRAVE ACCENTaLATIN,.A*25a<CURLY BRACKETa|LINEa>CURLY BRACKETaTILDE=A0
  aNO-BREAK SPACEaINVERTED EXCLAMATION MARKaCENT$aPOUND$aCURRENCY$aYEN$aBROKEN BARaSECTION$
  aDIAERESISaCOPYRIGHT$aFEMININE ORDIN#INDICATORaLEFT-POINTING:ANGLE QUOTATION MARKaNOT$aSOFT HYPHEN
  aREGISTERED$aMACRONaDEGREE$aPLUS-MINUS$aSUPERSCRIPT TWObTHREEaACUTE ACCENTaMICRO$aPILCROW$
  aMIDDLE DOTaCEDILLAaSUPERSCRIPT ONEaMASCULINE ORDIN#INDICATORaRIGHT-POINTING:ANGLE QUOTATION MARK
  aVULGAR FRACTION ONE QUARTERdHALFcTHREE QUARTERSaINVERTED QUESTION MARKaLATIN!.A&GRAVEfACUTE
  fCIRCUMFLEXfTILDEfDIAERESISfRING^dAEdC&CEDILLAdE&GRAVEfACUTEfCIRCUMFLEXfDIAERESISdI&GRAVEfACUTE
  fCIRCUMFLEXfDIAERESISdETHdN&TILDEdO&GRAVEfACUTEfCIRCUMFLEXfTILDEfDIAERESISaMULTIPLICATION$
  aLATIN!.O&STROKEdU&GRAVEfACUTEfCIRCUMFLEXfDIAERESISdY&ACUTEdTHORNb,.SHARP SdA&GRAVEfACUTE
  fCIRCUMFLEXfTILDEfDIAERESISfRING^dAEdC&CEDILLAdE&GRAVEfACUTEfCIRCUMFLEXfDIAERESISdI&GRAVEfACUTE
  fCIRCUMFLEXfDIAERESISdETHdN&TILDEdO&GRAVEfACUTEfCIRCUMFLEXfTILDEfDIAERESISaDIVISION$
  aLATIN,.O&STROKEdU&GRAVEfACUTEfCIRCUMFLEXfDIAERESISdY&ACUTEdTHORNdY&DIAERESISb!.A&MACRONsfBREVEs
  fOGONEKsdC&ACUTEsfCIRCUMFLEXsfDOT^sfCARONsdD&CARONsfSTROKEsdE&MACRONsfBREVEsfDOT^sfOGONEKsfCARONs
  dG&CIRCUMFLEXsfBREVEsfDOT^sfCEDILLAsdH&CIRCUMFLEXsfSTROKEsdI&TILDEsfMACRONsfBREVEsfOGONEKsfDOT^
  b,.DOTLESS Ib!LIGATURE IJsc.J&CIRCUMFLEXsdK&CEDILLAsb,.KRAb!.L&ACUTEsfCEDILLAsfCARONsfMIDDLE DOTs
  fSTROKEsdN&ACUTEsfCEDILLAsfCARONsb,.N PRECEDED BY APOSTROPHEb!.ENGsdO&MACRONsfBREVEsf:ACUTEs
  cLIGATURE OEsc.R&ACUTEsfCEDILLAsfCARONsdS&ACUTEsfCIRCUMFLEXsfCEDILLAsfCARONsdT&CEDILLAsfCARONs
  fSTROKEsdU&TILDEsfMACRONsfBREVEsfRING^sf:ACUTEsfOGONEKsdW&CIRCUMFLEXsdY&CIRCUMFLEXsfDIAERESIS
  dZ&ACUTEsfDOT^sfCARONsb,.LONG SdB&STROKEb!.B&HOOKfTOPBARsdTONE SIXsdOPEN OdC&HOOKsdAFRICAN D
  dD&HOOKfTOPBARsb,.TURNED DELTAb!.REVERSED EdSCHWAdOPEN EdF&HOOKsdG&HOOKdGAMMAb,.HVb!.IOTAdI&STROKE
  dK&HOOKsb,.L&BARdLAMBDA&STROKEb!.TURNED MdN&<HOOKb,.N&LONG>LEGb!.O&MIDDLE TILDEfHORNsdOIsdP&HOOKs
  b.YRb!.TONE TWOsdESHb.REVERSED ESH LOOPb,.T&PALAT#HOOKb!.T&HOOKsfRETROFLEX HOOKdU&HORNsdUPSILON
  dV&HOOKdY&HOOKsdZ&STROKEsdEZHeREVERSEDsb,.EZH&TAILb.TWO&STROKEb!.TONE FIVEs
  b.INVERTED GLOTT#STOP&STROKEcWYNNcDENT#CLICKcLATER#CLICKcALVEOLAR CLICKcRETROFLEX CLICKb!.DZ&CARON
  dD&,.Z&CARONb,.DZ&CARONb!.LJdL&,.Jb,.LJb!.NJdN&,.Jb,.NJb!.A&CARONsdI&CARONsdO&CARONsdU&CARONs
  fDIAERESIS+MACRONshACUTEshCARONshGRAVEsb,.TURNED Eb!.A&DIAERESIS+MACRONsfDOT^+MACRONsdAE&MACRONs
  dG&STROKEsfCARONsdK&CARONsdO&OGONEKsg+MACRONsdEZH&CARONsb,.J&CARONb!.DZdD&,.Zb,.DZb!.G&ACUTEs
  dHWAIRdWYNNdN&GRAVEsdA&RING^+ACUTEsdAE&ACUTEsdO&STROKE+ACUTEsdA&:GRAVEsfINVERTED BREVEsdE&:GRAVEs
  fINVERTED BREVEsdI&:GRAVEsfINVERTED BREVEsdO&:GRAVEsfINVERTED BREVEsdR&:GRAVEsfINVERTED BREVEs
  dU&:GRAVEsfINVERTED BREVEsdS&COMMA_sdT&COMMA_sdYOGHsdH&CARONsdN&LONG>LEGb,.D&CURLb!.OUsdZ&HOOKs
  dA&DOT^sdE&CEDILLAsdO&DIAERESIS+MACRONsfTILDE+MACRONsfDOT^sh+MACRONsdY&MACRONsb,.L&CURLdN&CURL
  dT&CURLdDOTLESS JdDB DIGRAPHdQP DIGRAPHb!.A&STROKEdC&STROKEsdL&BARdT&DIAGON#STROKEb,.S&SWASH TAIL
  dZ&SWASH TAILb!.GLOTT#STOPsdB&STROKEdU BARdTURNED VdE&STROKEsdJ&STROKEsd,Q&HOOK TAILb,.Q&HOOK TAIL
  b!.R&STROKEsdY&STROKEsb,.TURNED AdALPHAdTURNED ALPHAdB&HOOKdOPEN OdC&CURLdD&TAILfHOOKdREVERSED E
  dSCHWAe&HOOKdOPEN EdREVERSED OPEN Eg&HOOKdCLOSED REVERSED OPEN EdDOTLESS J&STROKEdG&HOOKdSCRIPT G
  b.,!Gb,.GAMMAdRAMS HORNdTURNED HdH&HOOKdHENG&HOOKdI&STROKEdIOTAb.,!Ib,.L&MIDDLE TILDEfBELT
  fRETROFLEX HOOKdLEZHdTURNED Mf&LONG LEGdM&HOOKdN&<HOOKfRETROFLEX HOOKb.,!Nb,.BARRED Ob.,!OE
  b,.CLOSED OMEGAdPHIdTURNED Rf&LONG LEGgHOOKdR&LONG LEGfTAILfFISHHOOKdREVERSED R&FISHHOOKb.,!R
  eINVERTED Rb,.S&HOOKdESHdDOTLESS J&STROKE+HOOKdSQUAT REVERSED ESHdESH&CURLdTURNED T
  dT&RETROFLEX HOOKdU BARdUPSILONdV&HOOKdTURNED V*1eYb.,!Yb,.Z&RETROFLEX HOOKfCURLdEZHe&CURL
  b.GLOTT#STOPcPHARYNGE#VOICED FRICATIVEcINVERTED GLOTT#STOPcSTRETCHED CcBILABI#CLICKc,!B
  b,.CLOSED OPEN Eb.,!G&HOOKeHb,.J&CROSSED-TAILdTURNED Kb.,!Lb,.Q&HOOKb.GLOTT#STOP&STROKE
  cREVERSED GLOTT#STOP&STROKEb,.DZ DIGRAPHdDEZH DIGRAPHdDZ DIGRAPH&CURLdTS DIGRAPHdTESH DIGRAPH
  dTC DIGRAPH&CURLdFENG DIGRAPHdLS DIGRAPHdLZ DIGRAPHb.BILABI#PERCUSSIVEcBIDENT#PERCUSSIVE
  b,.TURNED H&FISHHOOKh+TAILaMODIFIER.,He&HOOKdJdRdTURNED Rf&HOOKd!INVERTED RdWdYcPRIMEc:PRIME
  cTURNED COMMAcAPOSTROPHEcREVERSED COMMAc>HALF RINGc<HALF RINGcGLOTT#STOPcREVERSED GLOTT#STOP
  c<ARROWHEADc>ARROWHEADcUP ARROWHEADcDOWN ARROWHEADcCIRCUMFLEX ACCENTaCARONaMODIFIER.|LINEcMACRON
  cACUTE ACCENTcGRAVE ACCENTcLOW|LINEdMACRONdGRAVE ACCENTdACUTE ACCENTcTRIANGULAR COLON
  cHALF TRIANGULAR COLONcCENTRED>HALF RINGd<HALF RINGcUP TACKcDOWN TACKcPLUS$cMINUS$aBREVEaDOT^
  aRING^aOGONEKa,TILDEa:ACUTE ACCENTaMODIFIER.RHOTIC HOOKcCROSS ACCENTc,GAMMAdLdSdX
  dREVERSED GLOTT#STOPcEXTRA-HIGH TONE BARcHIGH TONE BARcMID TONE BARcLOW TONE BAR
  cEXTRA-LOW TONE BARcYIN DEPARTING TONE MARKcYANG DEPARTING TONE MARKcVOICINGcUNASPIRATED
  c:APOSTROPHEcLOW DOWN ARROWHEADdUP ARROWHEADd<ARROWHEADd>ARROWHEADdRINGcMIDDLE GRAVE ACCENT
  d:GRAVE ACCENTeACUTE ACCENTcLOW TILDEcRAISED COLONcBEGIN HIGH TONEcEND HIGH TONEcBEGIN LOW TONE
  cEND LOW TONEcSHELFcOPEN SHELFcLOW<~aCOMBINING GRAVE ACCENTbACUTE ACCENTbCIRCUMFLEX ACCENTbTILDE
  bMACRONbOVERLINEbBREVEbDOT^bDIAERESISbHOOK^bRING^b:ACUTE ACCENTbCARONb|LINE^b:|LINE^cGRAVE ACCENT
  bCANDRABINDUbINVERTED BREVEbTURNED COMMA^bCOMMA^bREVERSED COMMA^bCOMMA^>bGRAVE ACCENT_
  bACUTE ACCENT_b<TACK_b>TACK_b<ANGLE^bHORNb<HALF RING_bUP TACK_bDOWN TACK_bPLUS$_bMINUS$_
  bPALATALIZED HOOK_bRETROFLEX HOOK_bDOT_bDIAERESIS_bRING_bCOMMA_bCEDILLAbOGONEKb|LINE_bBRIDGE_
  bINVERTED:ARCH_bCARON_bCIRCUMFLEX ACCENT_bBREVE_bINVERTED BREVE_bTILDE_bMACRON_bLOW LINEb:LOW LINE
  bTILDE OVERLAYbSHORT STROKE OVERLAYbLONG STROKE OVERLAYbSHORT SOLIDUS OVERLAYbLONG SOLIDUS OVERLAY
  b>HALF RING_bINVERTED BRIDGE_bSQUARE_bSEAGULL_bX^b|TILDEb:OVERLINEbGRAVE TONE MARKbACUTE TONE MARK
  bGREEK PERISPOMENIcKORONIScDIALYTIKA TONOScYPOGEGRAMMENIbBRIDGE^bEQUALS$_b:|LINE_b<ANGLE_
  bNOT TILDE^bHOMOTHETIC^bALMOST EQU#TO^b<>~_bUPWARDS~_bGRAPHEME JOINERb>ARROWHEAD^b<HALF RING^
  bFERMATAbX_b<ARROWHEAD_b>ARROWHEAD_d+UP ARROWHEAD_cHALF RING^bDOT^>bASTERISK_b:RING_bZIGZAG^
  b:BREVE_cBREVEcMACRONd_cTILDEcINVERTED BREVEc)~_bLATIN,.AeEeIeOeUeC*1eHeMeReTeVeXaGREEK!.HETAs
  dARCHAIC SAMPIsbNUMER#$bLOWER NUMER#$b!.PAMPHYLIAN DIGAMMAs=37AbYPOGEGRAMMENI
  b,REVERSED LUNATE SIGMA?cDOTTED LUNATE SIGMA?cREVERSED DOTTED LUNATE SIGMA?bQUESTION MARKb!.YOT
  =384bTONOSbDIALYTIKA TONOSb!.ALPHA&TONOSbANO TELEIAb!.EPSILON&TONOSdETA&TONOSdIOTA&TONOS=38C
  dOMICRON&TONOS=38EdUPSILON&TONOSdOMEGA&TONOSb,.IOTA&DIALYTIKA+TONOSb!.ALPHAdBETAdGAMMAdDELTA
  dEPSILONdZETAdETAdTHETAdIOTAdKAPPAdLAMDAdMUdNUdXIdOMICRONdPIdRHO=3A3dSIGMAdTAUdUPSILONdPHIdCHIdPSI
  dOMEGAdIOTA&DIALYTIKAdUPSILON&DIALYTIKAb,.ALPHA&TONOSdEPSILON&TONOSdETA&TONOSdIOTA&TONOS
  dUPSILON&DIALYTIKA+TONOSdALPHAdBETAdGAMMAdDELTAdEPSILONdZETAdETAdTHETAdIOTAdKAPPAdLAMDAdMUdNUdXI
  dOMICRONdPIdRHOd]SIGMAdSIGMAdTAUdUPSILONdPHIdCHIdPSIdOMEGAdIOTA&DIALYTIKAdUPSILON&DIALYTIKA
  dOMICRON&TONOSdUPSILON&TONOSdOMEGA&TONOSb!KAI?bBETA?bTHETA?bUPSILON&HOOK?dACUTE+HOOK?
  dDIAERESIS+HOOK?bPHI?bPI?bKAI?b.ARCHAIC KOPPAb,.ARCHAIC KOPPAb.STIGMAb,.STIGMAb.DIGAMMAb,.DIGAMMA
  b.KOPPAb,.KOPPAb.SAMPIb,.SAMPIaCOPTIC!.SHEIsdFEIsdKHEIsdHORIsdGANGIAsdSHIMAsdDEIsaGREEK KAPPA?
  bRHO?bLUNATE SIGMA?b.YOTb!THETA?bLUNATE EPSILON?bREVERSED LUNATE EPSILON?b!.SHOscLUNATE SIGMA?
  c.SANsbRHO&STROKE?b!REVERSED LUNATE SIGMA?cDOTTED LUNATE SIGMA?cREVERSED DOTTED LUNATE SIGMA?
  aCYRILLIC!.IE&GRAVEdIOdDJEdGJEdUKRAINIAN IEdDZEdBYELORUSSIAN-UKRAINIAN IdYIdJEdLJEdNJEdTSHEdKJE
  dI&GRAVEdSHORT UdDZHEdAdBEdVEdGHEdDEdIEdZHEdZEdIdSHORT IdKAdEL*2dOdPEdER*1dTEdUdEFdHAdTSEdCHEdSHA
  dSHCHAdHARD$dYERUdSOFT$dEdYUdYAb,.AdBEdVEdGHEdDEdIEdZHEdZEdIdSHORT IdKAdEL*2dOdPEdER*1dTEdUdEFdHA
  dTSEdCHEdSHAdSHCHAdHARD$dYERUdSOFT$dEdYUdYAdIE&GRAVEdIOdDJEdGJEdUKRAINIAN IEdDZE
  dBYELORUSSIAN-UKRAINIAN IdYIdJEdLJEdNJEdTSHEdKJEdI&GRAVEdSHORT UdDZHEb!.OMEGAsdYATsdIOTIFIED Es
  dLITTLE YUSsdIOTIFIED LITTLE YUSsdBIG YUSsdIOTIFIED BIG YUSsdKSIsdPSIsdFITAsdIZHITSAs
  e&:GRAVE ACCENTsdUKsdROUND OMEGAsdOMEGA&TITLOsdOTsdKOPPAsbTHOUSANDS$aCOMBINING CYRILLIC TITLO
  cPALATALIZATIONcDASIA PNEUMATAcPSILI PNEUMATAcPOKRYTIEcHUNDRED THOUSANDS$cMILLIONS$
  aCYRILLIC!.SHORT I&TAILsdSEMISOFT$sdER&TICKsdGHE&UPTURNsfSTROKEsfMIDDLE HOOKsdZHE&DESCENDERs
  dZE&DESCENDERsdKA&DESCENDERsf|STROKEsfSTROKEsdBASHKIR KAsdEN&DESCENDERscLIGATURE EN GHEs
  c.PE&MIDDLE HOOKsdABKHASIAN HAsdES&DESCENDERsdTE&DESCENDERsdSTRAIGHT Usf&STROKEsdHA&DESCENDERs
  cLIGATURE TE TSEsc.CHE&DESCENDERsf|STROKEsdSHHAsdABKHASIAN CHEsf&DESCENDERsb.PALOCHKAb!.ZHE&BREVEs
  dKA&HOOKsdEL&TAILsdEN&HOOKsfTAILsdKHAKASSIAN CHEsdEM&TAILsb,.PALOCHKAb!.A&BREVEsfDIAERESISs
  cLIGATURE A IEsc.IE&BREVEsdSCHWAse&DIAERESISsdZHE&DIAERESISsdZE&DIAERESISsdABKHASIAN DZEsdI&MACRON
  sfDIAERESISsdO&DIAERESISsdBARRED Osf&DIAERESISsdE&DIAERESISsdU&MACRONsfDIAERESISsf:ACUTEs
  dCHE&DIAERESISsdGHE&DESCENDERsdYERU&DIAERESISsdGHE&STROKE+HOOKsdHA&HOOKsfSTROKEsdKOMI DEseDJEseZJE
  seDZJEseLJEseNJEseSJEseTJEsdREVERSED ZEsdEL&HOOKsdLHAsdRHAsdYAEsdQAsdWEsdALEUT KAsdEL&MIDDLE HOOKs
  dEN&MIDDLE HOOKsdPE&DESCENDERsdSHHA&DESCENDERsdEN&<HOOKsdDZZHEsdDCHEsdEL&DESCENDERs=531
  aARMENIAN!.AYBdBENdGIMdDAdECHdZAdEHdETdTOdZHEdINIdLIWNdXEHdCAdKENdHOdJAdGHADdCHEHdMENdYIdNOWdSHA
  dVOdCHAdPEHdJHEHdRAdSEHdVEWdTIWNdREHdCOdYIWNdPIWRdKEHdOHdFEH=559bMODIFIER.<HALF RINGbAPOSTROPHE
  bEMPHASIS MARKbEXCLAMATION MARKbCOMMAbQUESTION MARKbABBREVIATION MARKb,.TURNED AYBdAYBdBENdGIMdDA
  dECHdZAdEHdETdTOdZHEdINIdLIWNdXEHdCAdKENdHOdJAdGHADdCHEHdMENdYIdNOWdSHAdVOdCHAdPEHdJHEHdRAdSEHdVEW
  dTIWNdREHdCOdYIWNdPIWRdKEHdOHdFEHcLIGATURE ECH YIWNc.YI&STROKEbFULL STOPbHYPHEN=58D
  aRIGHT-FACING ARMENIAN ETERNITY$aLEFT-FACING ARMENIAN ETERNITY$aARMENIAN DRAM$"

end CaseDict.Text.CharacterName
