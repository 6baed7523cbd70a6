import CaseDict.Text.CharacterName.Listing
/-! # Names of East Asian characters -/

namespace CaseDict.Text.CharacterName

/-- Names from Glagolitic and Coptic over the East Asian symbols to Yi, below U+A4D0. -/
def eastAsian : Listing :=
  "=2C00aGLAGOLITIC!.AZUdBUKYdVEDEdGLAGOLIdDOBROdYESTUdZHIVETEdDZELOdZEMLJAdIZHEd[IZHEdIdDJERVIdKAKO
  dLJUDIJEdMYSLITEdNASHIdONUdPOKOJIdRITSIdSLOVOdTVRIDOdUKUdFRITUdHERUdOTUdPEdSHTAdTSIdCHRIVIdSHA
  dYERUdYERIdYATIdSPIDERY HAdYUd,YUSf&TAILdYOdIOTATED,YUSdBIG YUSdIOTATED BIG YUSdFITAdIZHITSA
  dSHTAPICdTROKUTASTI AdLATINATE MYSLITEdCAUDATE CHRIVIb,.AZUdBUKYdVEDEdGLAGOLIdDOBROdYESTUdZHIVETE
  dDZELOdZEMLJAdIZHEd[IZHEdIdDJERVIdKAKOdLJUDIJEdMYSLITEdNASHIdONUdPOKOJIdRITSIdSLOVOdTVRIDOdUKU
  dFRITUdHERUdOTUdPEdSHTAdTSIdCHRIVIdSHAdYERUdYERIdYATIdSPIDERY HAdYUd,YUSf&TAILdYOdIOTATED,YUS
  dBIG YUSdIOTATED BIG YUSdFITAdIZHITSAdSHTAPICdTROKUTASTI AdLATINATE MYSLITEdCAUDATE CHRIVI
  aLATIN!.L&:BARsfMIDDLE TILDEdP&STROKEdR&TAILb,.A&STROKEdT&DIAGON#STROKEb!.H&DESCENDERsdK&DESCENDER
  sdZ&DESCENDERsdALPHAdM&HOOKdTURNED AeALPHAb,.V&>HOOKb!.W&HOOKsb,.V&CURLb!.HALF Hsb,.TAILLESS PHI
  dE&NOTCHdTURNED R&TAILdO&LOW RING INSIDEb.,!TURNED EbSUBSCRIPT,.JaMODIFIER.!VaLATIN!.S&SWASH TAIL
  dZ&SWASH TAILaCOPTIC!.ALFAsdVIDAsdGAMMAsdDALDAsdEIEsdSOUsdZATAsdHATEsdTHETHEsdIAUDAsdKAPAsdLAULAs
  dMIsdNIsdKSIsdOsdPIsdROsdSIMAsdTAUsdUAsdFIsdKHIsdPSIsdOOUsdDIALECT-P ALEFsdOLD COPTIC AINs
  dCRYPTOGRAMMIC EIEsdDIALECT-P KAPAseNIsdCRYPTOGRAMMIC NIsdOLD COPTIC OOUsdSAMPIsdCROSSED SHEIs
  dOLD COPTIC SHEIsfESHsdAKHMIMIC KHEIsdDIALECT-P HORIsdOLD COPTIC HORIsfHAsdL-SHAPED HAs
  dOLD COPTIC HEIsfHATsfGANGIAsfDJAsfSHIMAseNUBIAN SHIMAsfNGIsfNYIsfWAUsb?KAIcMI ROcPI ROcSTAUROS
  cTAU ROcKHI ROcSHIMA SIMAb!.CRYPTOGRAMMIC SHEIseGANGIAsbCOMBINING NI^cSPIRITUS ASPERdLENIS
  b!.BOHAIRIC KHEIs=2CF9bOLD NUBIAN FULL STOPdDIRECT QUESTION MARKdINDIRECT QUESTION MARK
  dVERSE DIVIDERbFRACTION ONE HALFbFULL STOPbMORPHOLOGIC#DIVIDERaGEORGIAN,.ANdBANdGANdDONdENdVINdZEN
  dTANdINdKANdLASdMANdNARdONdPARdZHARdRAEdSANdTARdUNdPHARdKHARdGHANdQARdSHINdCHINdCANdJILdCILdCHAR
  dXANdJHANdHAEdHEdHIEdWEdHARdHOE=2D27dYN=2D2DdAEN=2D30aTIFINAGH.YAcYABcYABHcYAGcYAGHH
  cBERBER ACADEMY YAJcYAJcYADcYADHcYADDcYADDHcYEYcYAFcYAKcTUAREG YAKcYAKHHcYAHcBERBER ACADEMY YAH
  cTUAREG YAHcYAHHcYAAcYAKHcTUAREG YAKHcYAQcTUAREG YAQcYIcYAZHcAHAGGAR YAZHcTUAREG YAZHcY#*2
  cTUAREG YAGNdYANGcYAPcYUcYARcYARRcYAGHcTUAREG YAGHcAYER YAGHcYAScYASScYASHcYATcYATHcYACHcYATTcYAV
  *1cYAY*1cTAWELLEMET YAZcYAZZcYEcYO=2D6FbMODIFIER.LABIALIZATION MARKbSEPARATOR MARK=2D7F
  bCONSONANT JOINERaETHIOPIC SYLLABLE LOAcMOAcROAcSOAcSHOAcBOAcTOAcCOAcNOAcNYOAcGLOTT#OAcZOAcDOA
  cDDOAcJOAcTHOAcCHOAcPHOAcPOAcGGWAcGGWIcGGWEEcGGWE=2DA0cSSAcSSUcSSIcSSAAcSSEEcSSEcSSO=2DA8cCCAcCCU
  cCCIcCCAAcCCEEcCCEcCCO=2DB0cZZAcZZUcZZIcZZAAcZZEEcZZEcZZO=2DB8cCCHAcCCHUcCCHIcCCHAAcCCHEEcCCHE
  cCCHO=2DC0cQYAcQYUcQYIcQYAAcQYEEcQYEcQYO=2DC8cKYAcKYUcKYIcKYAAcKYEEcKYEcKYO=2DD0cXYAcXYUcXYIcXYAA
  cXYEEcXYEcXYO=2DD8cGYAcGYUcGYIcGYAAcGYEEcGYEcGYO=2DE0aCOMBINING CYRILLIC.BEdVEdGHEdDEdZHEdZEdKAdEL
  *2dOdPEdER*1dTEdHAdTSEdCHEdSHAdSHCHAdFITAdES-TEdAdIEdDJERVdMONOGRAPH UKdYATdYUdIOTIFIED A
  dLITTLE YUSdBIG YUSdIOTIFIED BIG YUSa>ANGLE SUBSTITUTION MARKERcDOTTED SUBSTITUTION MARKER
  a<SUBSTITUTION BRACKETa>SUBSTITUTION BRACKETa<DOTTED SUBSTITUTION BRACKET
  a>DOTTED SUBSTITUTION BRACKETaRAISED INTERPOLATION MARKERbDOTTED INTERPOLATION MARKER
  aDOTTED TRANSPOSITION MARKERa<TRANSPOSITION BRACKETa>TRANSPOSITION BRACKETaRAISED SQUARE
  a<RAISED OMISSION BRACKETa>RAISED OMISSION BRACKETaEDITORI#CORONISaPARAGRAPHOSaFORKED PARAGRAPHOS
  aREVERSED FORKED PARAGRAPHOSaHYPODIASTOLEaDOTTED OBELOSaDOWNWARDS ANCORAaUPWARDS ANCORA
  aDOTTED RIGHT-POINTING ANGLEa:OBLIQUE HYPHENaINVERTED INTERROBANGaPALM BRANCHaHYPHEN&DIAERESIS
  aTILDE&RING^a<LOW PARAPHRASE BRACKETa>LOW PARAPHRASE BRACKETaTILDE&DOT^d_a<|BAR&QUILLa>|BAR&QUILL
  aTOP<HALF BRACKETb>HALF BRACKETaBOTTOM<HALF BRACKETb>HALF BRACKETa<SIDEWAYS U BRACKET
  a>SIDEWAYS U BRACKETa<:PARENTHESISa>:PARENTHESISaTWO DOTS OVER ONE DOT PUNCTUATION
  aONE DOT OVER TWO DOTS PUNCTUATIONaSQUARED FOUR DOT PUNCTUATIONaFIVE DOT MARK
  aREVERSED QUESTION MARKa|TILDEaRING POINTaWORD SEPARATOR MIDDLE DOTaTURNED COMMAaRAISED DOTbCOMMA
  aTURNED SEMICOLONaDAGGER&<GUARDc>GUARDaTURNED DAGGERaTOP HALF SECTION$aTWO-EM DASHaTHREE-EM DASH
  aSTENOGRAPHIC FULL STOPa|SIX DOTSaWIGGLY|LINEaCAPITULUMa:HYPHENaREVERSED COMMA
  a:LOW-REVERSED-9 QUOTATION MARKaDASH&<UPTURNa:SUSPENSION MARKaINVERTED LOW KAVYKAd&KAVYKA^
  aLOW KAVYKAc&DOTa:STACKED COMMAaDOTTED SOLIDUSaTRIPLE DAGGERaMEDIEV#COMMAaPARAGRAPHUS MARK
  aPUNCTUS ELEVATUS MARKaCORNISH VERSE DIVIDERaCROSS PATTY&>CROSSBARd<CROSSBARaTIRONIAN$!ET
  aMEDIEV#EXCLAMATION MARKbQUESTION MARKa<SQUARE BRACKET&STROKEa>SQUARE BRACKET&STROKE
  a<SQUARE BRACKET&:STROKEa>SQUARE BRACKET&:STROKEaTOP HALF<PARENTHESISc>PARENTHESIS
  aBOTTOM HALF<PARENTHESISc>PARENTHESISaOBLIQUE HYPHEN=2E80aCJK RADIC#REPEATcCLIFFcSECOND ONEdTWO
  dTHREEcPERSONcBOXcTABLEcKNIFE ONEdTWOcDIVINATIONcSE#c,ONEdTWOcLAME ONEdTWOdTHREEdFOURcSNAKEcTHREAD
  cSNOUT ONEdTWOcHEART ONEdTWOcHANDcRAP=2E9BcCHOKEcSUNcMOONcDEATHcMOTHERcCIVILIANcWATER ONEdTWOcFIRE
  cPAW ONEdTWOcSIMPLIFIED HALF TREE TRUNKcCOWcDOGcJADEcBOLT OF CLOTHcEYEcSPIRIT ONEdTWOcBAMBOOcSILK
  cC-SIMPLIFIED SILKcNET ONEdTWOdTHREEdFOURcMESHcSHEEPcRAMcEWEcOLDcBRUSH ONEdTWOcMEATcMORTAR
  cGRASS ONEdTWOdTHREEcTIGERcCLOTHEScWEST ONEdTWOcC-SIMPLIFIED SEEcSIMPLIFIED HORNcHORN
  cC-SIMPLIFIED SPEECHdSHELLcFOOTcC-SIMPLIFIED CARTcSIMPLIFIED WALKcWALK ONEdTWOcCITY
  cC-SIMPLIFIED GOLDcLONG ONEdTWOcC-SIMPLIFIED LONGdGATEcMOUND ONEdTWOcRAINcBLUE
  cC-SIMPLIFIED TANNED LEATHERdLEAFdWINDdFLYcEAT ONEdTWOdTHREEcC-SIMPLIFIED EATcHEAD
  cC-SIMPLIFIED HORSEcBONEcGHOSTcC-SIMPLIFIED FISHdBIRDdSALTcSIMPLIFIED WHEATdYELLOW
  cC-SIMPLIFIED FROGcJ-SIMPLIFIED EVENcC-SIMPLIFIED EVENcJ-SIMPLIFIED TOOTHcC-SIMPLIFIED TOOTH
  cJ-SIMPLIFIED DRAGONcC-SIMPLIFIED DRAGONcTURTLEcJ-SIMPLIFIED TURTLEcC-SIMPLIFIED TURTLE=2F00
  aKANGXI RADIC#ONEcLINEcDOTcSLASHcSECONDcHOOKcTWOcLIDcMANcLEGScENTERcEIGHTcDOWN BOXcCOVERcICEcTABLE
  cOPEN BOXcKNIFEcPOWERcWRAPcSPOONc>OPEN BOXcHIDING ENCLOSUREcTENcDIVINATIONcSE#cCLIFFcPRIVATEcAGAIN
  cMOUTHcENCLOSUREcEARTHcSCHOLARcGOdSLOWLYcEVENINGcBIGcWOMANcCHILDcROOFcINCHc,cLAMEcCORPSEcSPROUT
  cMOUNTAINcRIVERcWORKcONESELFcTURBANcDRYcSHORT THREADcDOTTED CLIFFcLONG STRIDEcTWO HANDScSHOOTcBOW
  cSNOUTcBRISTLEcSTEPcHEARTcHALBERDcDOORcHANDcBRANCHcRAPcSCRIPTcDIPPERcAXEcSQUAREcNOTcSUNcSAYcMOON
  cTREEcLACKcSTOPcDEATHcWEAPONcDO NOTcCOMPAREcFURcCLANcSTEAMcWATERcFIREcCLAWcFATHERc:X
  cHALF TREE TRUNKcSLICEcFANGcCOWcDOGcPROFOUNDcJADEcMELONcTILEcSWEETcLIFEcUSEcFIELDcBOLT OF CLOTH
  cSICKNESScDOTTED TENTcWHITEcSKINcDISHcEYEcSPEARc~cSTONEcSPIRITcTRACKcGRAINcCAVEcSTANDcBAMBOOcRICE
  cSILKcJARcNETcSHEEPcFEATHERcOLDc+cPLOWcEARcBRUSHcMEATcMINISTERcSELFcARRIVEcMORTARcTONGUEcOPPOSE
  cBOATcSTOPPINGcCOLORcGRASScTIGERcINSECTcBLOODcWALK ENCLOSUREcCLOTHEScWESTcSEEcHORNcSPEECHcVALLEY
  cBEANcPIGcBADGERcSHELLcREDcRUNcFOOTcBODYcCARTcBITTERcMORNINGcWALKcCITYcWINEcDISTINGUISHcVILLAGE
  cGOLDcLONGcGATEcMOUNDcSLAVEcSHORT TAILED BIRDcRAINcBLUEcWRONGcFACEcLEATHERcTANNED LEATHERcLEEK
  cSOUNDcLEAFcWINDcFLYcEATcHEADcFRAGRANTcHORSEcBONEcTALLcHAIRcFIGHTcSACRIFICI#WINEcCAULDRONcGHOST
  cFISHcBIRDcSALTcDEERcWHEATcHEMPcYELLOWcMILLETcBLACKcEMBROIDERYcFROGcTRIPODcDRUMcRATcNOSEcEVEN
  cTOOTHcDRAGONcTURTLEcFLUTE=2FF0aIDEOGRAPHIC DESCRIPTION CHARACTER<TO>d^TO_d<TO MIDDLE+>
  d^TO MIDDLE+_dFULL SURROUNDdSURROUND FROM^f_f<fUPPER<g>fLOWER<dOVERLAID=3000bSPACEbCOMMAbFULL STOP
  aDITTO MARKaJAPANESE INDUSTRI#STANDARD?aIDEOGRAPHIC ITERATION MARKbCLOSING MARKbNUMBER ZERO
  a<ANGLE BRACKETa>ANGLE BRACKETa<:ANGLE BRACKETa>:ANGLE BRACKETa<CORNER BRACKETa>CORNER BRACKET
  a<WHITE CORNER BRACKETa>WHITE CORNER BRACKETa<BLACK LENTICULAR BRACKETa>BLACK LENTICULAR BRACKET
  aPOST#MARKaGETA MARKa<TORTOISE SHELL BRACKETa>TORTOISE SHELL BRACKETa<WHITE LENTICULAR BRACKET
  a>WHITE LENTICULAR BRACKETa<WHITE TORTOISE SHELL BRACKETa>WHITE TORTOISE SHELL BRACKET
  a<WHITE SQUARE BRACKETa>WHITE SQUARE BRACKETaWAVE DASHaREVERSED:PRIME QUOTATION MARK
  a:PRIME QUOTATION MARKaLOW:PRIME QUOTATION MARKaPOST#MARK FACEaHANGZHOU NUMER#ONEcTWOcTHREEcFOUR
  cFIVEcSIXcSEVENcEIGHTcNINEaIDEOGRAPHIC LEVEL TONE MARKbRISING TONE MARKbDEPARTING TONE MARK
  bENTERING TONE MARKaHANGUL SINGLE DOT TONE MARKb:DOT TONE MARKaWAVY DASHa|KANA REPEAT MARK
  d&VOICED SOUND MARKdMARK UPPER HALFd&VOICED SOUND MARK UPPER HALFdMARK LOWER HALF
  aCIRCLED POST#MARKaIDEOGRAPHIC TELEGRAPH LINE FEED SEPARATOR?aHANGZHOU NUMER#TENcTWENTYcTHIRTY
  a|IDEOGRAPHIC ITERATION MARKaMASU MARKaPART ALTERNATION MARKaIDEOGRAPHIC VARIATION INDICATOR
  bHALF FILL SPACE=3041aHIRAGANA.,AcAc,IcIc,UcUc,EcEc,OcOcKAcGAcKIcGIcKUcGUcKEcGEcKOcGOcSAcZAcSIcZI
  cSUcZUcSEcZEcSOcZOcTAcDAcTIcDIc,TUcTUcDUcTEcDEcTOcDOcNAcNIcNUcNEcNOcHAcBAcPAcHIcBIcPIcHUcBUcPUcHE
  cBEcPEcHOcBOcPOcMAcMIcMUcMEcMOc,YAcYAc,YUcYUc,YOcYOcRAcRIcRUcREcROc,WAcWAcWIcWEcWOcNcVUc,KAdKE
  =3099aCOMBINING KATAKANA-HIRAGANA VOICED SOUND MARKcSEMI-VOICED SOUND MARK
  aKATAKANA-HIRAGANA VOICED SOUND MARKbSEMI-VOICED SOUND MARKaHIRAGANA ITERATION MARK
  bVOICED ITERATION MARKbDIGRAPH YORIaKATAKANA-HIRAGANA:HYPHENaKATAKANA.,AcAc,IcIc,UcUc,EcEc,OcOcKA
  cGAcKIcGIcKUcGUcKEcGEcKOcGOcSAcZAcSIcZIcSUcZUcSEcZEcSOcZOcTAcDAcTIcDIc,TUcTUcDUcTEcDEcTOcDOcNAcNI
  cNUcNEcNOcHAcBAcPAcHIcBIcPIcHUcBUcPUcHEcBEcPEcHOcBOcPOcMAcMIcMUcMEcMOc,YAcYAc,YUcYUc,YOcYOcRAcRI
  cRUcREcROc,WAcWAcWIcWEcWOcNcVUc,KAdKEcVAcVIcVEcVObMIDDLE DOT
  aKATAKANA-HIRAGANA PROLONGED SOUND MARKaKATAKANA ITERATION MARKbVOICED ITERATION MARKbDIGRAPH KOTO
  =3105aBOPOMOFO.BcPcMcFcDcTcNcLcGcKcHcJcQcXcZHcCHcSHcRcZcCcScAcOcEcEHcAIcEIcAUcOUcANcENcANGcENGcER
  cIcUcIUcVcNGcGNcIHcO&DOT^cNN=3131aHANGUL.KIYEOKcSSANGKIYEOKcKIYEOK-SIOScNIEUNcNIEUN-CIEUC
  cNIEUN-HIEUHcTIKEUTcSSANGTIKEUTcRIEULcRIEUL-KIYEOKcRIEUL-MIEUMcRIEUL-PIEUPcRIEUL-SIOS
  cRIEUL-THIEUTHcRIEUL-PHIEUPHcRIEUL-HIEUHcMIEUMcPIEUPcSSANGPIEUPcPIEUP-SIOScSIOScSSANGSIOScIEUNG
  cCIEUCcSSANGCIEUCcCHIEUCHcKHIEUKHcTHIEUTHcPHIEUPHcHIEUHcAcAEcYAcYAEcEOcEcYEOcYEcOcWAcWAEcOEcYOcU
  cWEOcWEcWIcYUcEUcYIcIbFILLERb.SSANGNIEUNcNIEUN-TIKEUTcNIEUN-SIOScNIEUN-PANSIOScRIEUL-KIYEOK-SIOS
  cRIEUL-TIKEUTcRIEUL-PIEUP-SIOScRIEUL-PANSIOScRIEUL-YEORINHIEUHcMIEUM-PIEUPcMIEUM-SIOS
  cMIEUM-PANSIOScKAPYEOUNMIEUMcPIEUP-KIYEOKcPIEUP-TIKEUTcPIEUP-SIOS-KIYEOKcPIEUP-SIOS-TIKEUT
  cPIEUP-CIEUCcPIEUP-THIEUTHcKAPYEOUNPIEUPcKAPYEOUNSSANGPIEUPcSIOS-KIYEOKcSIOS-NIEUNcSIOS-TIKEUT
  cSIOS-PIEUPcSIOS-CIEUCcPANSIOScSSANGIEUNGcYESIEUNGcYESIEUNG-SIOScYESIEUNG-PANSIOScKAPYEOUNPHIEUPH
  cSSANGHIEUHcYEORINHIEUHcYO-YAcYO-YAEcYO-IcYU-YEOcYU-YEcYU-IcARAEAcARAEAE=3190
  aIDEOGRAPHIC ANNOTATION LINKING MARKcREVERSE MARKcONE MARKcTWO MARKcTHREE MARKcFOUR MARKcTOP MARK
  cMIDDLE MARKcBOTTOM MARKcFIRST MARKcSECOND MARKcTHIRD MARKcFOURTH MARKcHEAVEN MARKcEARTH MARK
  cMAN MARKaBOPOMOFO.BUcZIcJIcGUcEEcENNcOOcONNcIRcANNcINNcUNNcIMcNGGcAINNcAUNNcAMcOMcONGcINNNb].PdT
  dKdHb.GHcLHcZYb].Gb.GWcKWcOEcAHaCJK STROKE TcWGcXGcBXGcSWcHZZcHZGcHPcHZWGcSZWGcHZTcHZZPcHPWGcHZW
  cHZZZcNcHcScPcSPcDcHZcHGcSZcSWZcSTcSGcPDcPZcTNcSZZcSWGcHXWGcHZZZGcPGcQ=31F0aKATAKANA.,KUdSIdSUdTO
  dNUdHAdHIdHUdHEdHOdMUdRAdRIdRUdREdROaPARENTHESIZED HANGUL KIYEOKcNIEUNcTIKEUTcRIEULcMIEUMcPIEUP
  cSIOScIEUNGcCIEUCcCHIEUCHcKHIEUKHcTHIEUTHcPHIEUPHcHIEUHcKIYEOK AcNIEUN AcTIKEUT AcRIEUL AcMIEUM A
  cPIEUP AcSIOS AcIEUNG AcCIEUC AcCHIEUCH AcKHIEUKH AcTHIEUTH AcPHIEUPH AcHIEUH AcCIEUC U
  bKOREAN CHARACTER OJEONdO HU=3220bIDEOGRAPH ONEcTWOcTHREEcFOURcFIVEcSIXcSEVENcEIGHTcNINEcTENcMOON
  cFIREcWATERcWOODcMET#cEARTHcSUNcSTOCKcHAVEcSOCIETYcNAMEcSPECI#cFINANCI#cCONGRATULATIONcLABOR
  cREPRESENTcCALLcSTUDYcSUPERVISEcENTERPRISEcRESOURCEcALLIANCEcFESTIV#cRESTcSELFcREACH
  aCIRCLED IDEOGRAPH QUESTIONcKINDERGARTENcSCHOOLcKOTObNUMBER TEN ON BLACK SQUARE
  cTWENTY ON BLACK SQUAREcTHIRTY ON BLACK SQUAREcFORTY ON BLACK SQUAREcFIFTY ON BLACK SQUARE
  cSIXTY ON BLACK SQUAREcSEVENTY ON BLACK SQUAREcEIGHTY ON BLACK SQUAREaPARTNERSHIP$
  aCIRCLED NUMBER TWENTY ONEdTWOdTHREEdFOURdFIVEdSIXdSEVENdEIGHTdNINEcTHIRTYdONEdTWOdTHREEdFOURdFIVE
  bHANGUL KIYEOKcNIEUNcTIKEUTcRIEULcMIEUMcPIEUPcSIOScIEUNGcCIEUCcCHIEUCHcKHIEUKHcTHIEUTHcPHIEUPH
  cHIEUHcKIYEOK AcNIEUN AcTIKEUT AcRIEUL AcMIEUM AcPIEUP AcSIOS AcIEUNG AcCIEUC AcCHIEUCH A
  cKHIEUKH AcTHIEUTH AcPHIEUPH AcHIEUH AbKOREAN CHARACTER CHAMKOdJUEUIbHANGUL IEUNG U
  aKOREAN STANDARD?aCIRCLED IDEOGRAPH ONEcTWOcTHREEcFOURcFIVEcSIXcSEVENcEIGHTcNINEcTENcMOONcFIRE
  cWATERcWOODcMET#cEARTHcSUNcSTOCKcHAVEcSOCIETYcNAMEcSPECI#cFINANCI#cCONGRATULATIONcLABORcSECRET
  cMALEcFEMALEcSUITABLEcEXCELLENTcPRINTcATTENTIONcITEMcRESTcCOPYcCORRECTcHIGHcCENTREcLOWc<c>
  cMEDICINEcRELIGIONcSTUDYcSUPERVISEcENTERPRISEcRESOURCEcALLIANCEcNIGHTbNUMBER THIRTY SIXdSEVEN
  dEIGHTdNINEcFORTYdONEdTWOdTHREEdFOURdFIVEdSIXdSEVENdEIGHTdNINEcFIFTY
  aIDEOGRAPHIC TELEGRAPH?FOR JANUARYeFEBRUARYeMARCHeAPRILeMAYeJUNEeJULYeAUGUSTeSEPTEMBEReOCTOBER
  eNOVEMBEReDECEMBERaSQUARE HGbERGbEVaLIMITED LIABILITY$aCIRCLED KATAKANA AcIcUcEcOcKAcKIcKUcKEcKO
  cSAcSIcSUcSEcSOcTAcTIcTUcTEcTOcNAcNIcNUcNEcNOcHAcHIcHUcHEcHOcMAcMIcMUcMEcMOcYAcYUcYOcRAcRIcRUcRE
  cROcWAcWIcWEcWOaSQUARE ERA NAME REIWAbAPAATObARUHUAbANPEAbAARUbININGUbINTIbUONbESUKUUDObEEKAAbONSU
  bOOMUbKAIRIbKARATTObKARORIIbGARONbGANMAbGIGAbGINIIbKYURIIbGIRUDAAbKIRObKIROGURAMUbKIROMEETORU
  bKIROWATTObGURAMUbGURAMUTONbKURUZEIRObKUROONEbKEESUbKORUNAbKOOPObSAIKURUbSANTIIMUbSIRINGUbSENTI
  bSENTObDAASUbDESIbDORUbTONbNANObNOTTObHAITUbPAASENTObPAATUbBAARERUbPIASUTORUbPIKURUbPIKObBIRU
  bHUARADDObHUIITObBUSSYERUbHURANbHEKUTAARUbPESObPENIHIbHERUTUbPENSUbPEEZIbBEETAbPOINTObBORUTObHON
  bPONDObHOORUbHOONbMAIKURObMAIRUbMAHHAbMARUKUbMANSYONbMIKURONbMIRIbMIRIBAARUbMEGAbMEGATONbMEETORU
  bYAADObYAARUbYUANbRITTORUbRIRAbRUPIIbRUUBURUbREMUbRENTOGENbWATTO
  aIDEOGRAPHIC TELEGRAPH?FOR HOUR ZEROfONEfTWOfTHREEfFOURfFIVEfSIXfSEVENfEIGHTfNINEfTENfELEVEN
  fTWELVEfTHIRTEENfFOURTEENfFIFTEENfSIXTEENfSEVENTEENfEIGHTEENfNINETEENfTWENTYfTWENTY-ONEfTWENTY-TWO
  fTWENTY-THREEfTWENTY-FOURaSQUARE HPAbDAbAUbBARbOVbPCbDMcSQUAREDcCUBEDbIUbERA NAME HEISEIdSYOUWA
  dTAISYOUdMEIZIbCORPORATIONbPA AMPSbNAbMU AbMAbKA*1bMBbGBbC#bKC#bPFbNFbMU F*1bMGbKGbHZbKHZbMHZbGHZ
  bTHZbMU LbMLbDLbKLbFMbNMbMU MbMMbCMbKMbMM SQUAREDbCM SQUAREDbM SQUAREDbKM SQUAREDbMM CUBED
  bCM CUBEDbM CUBEDbKM CUBEDbM OVER SeSQUAREDbPAbKPAbMPAbGPAbRADcOVER SeSQUAREDbPSbNSbMU SbMSbPVbNV
  bMU VbMVbKVbMV MEGAbPWbNWbMU WbMWbKWbMW MEGAbK OHMbM OHMbAMbBQbCC*1bC OVER KGbCObDBbGYbHAbHPbINbKK
  bKM!bKTbLM*1bLOGbLXbMB,bMILbMOLbPHbPMbPPMbPRbSRbSVbWBbV OVER MbA OVER M
  aIDEOGRAPHIC TELEGRAPH?FOR DAY ONEfTWOfTHREEfFOURfFIVEfSIXfSEVENfEIGHTfNINEfTENfELEVENfTWELVE
  fTHIRTEENfFOURTEENfFIFTEENfSIXTEENfSEVENTEENfEIGHTEENfNINETEENfTWENTYfTWENTY-ONEfTWENTY-TWO
  fTWENTY-THREEfTWENTY-FOURfTWENTY-FIVEfTWENTY-SIXfTWENTY-SEVENfTWENTY-EIGHTfTWENTY-NINEfTHIRTY
  fTHIRTY-ONEaSQUARE G#=4DC0aHEXAGRAM FOR THE CREATIVE HEAVENdRECEPTIVE EARTH
  cDIFFICULTY AT THE BEGINNINGcYOUTHFUL FOLLYcWAITINGcCONFLICTcTHE ARMYcHOLDING TOGETHERc,TAMING
  cTREADINGcPEACEcSTANDSTILLcFELLOWSHIPcGREAT POSSESSIONcMODESTYcENTHUSIASMcFOLLOWING
  cWORK ON THE DECAYEDcAPPROACHcCONTEMPLATIONcBITING THROUGHcGRACEcSPLITTING APARTcRETURNcINNOCENCE
  cGREAT TAMINGcMOUTH CORNERScGREAT PREPONDERANCEcTHE ABYSM#WATERdCLINGING FIREcINFLUENCEcDURATION
  cRETREATcGREAT POWERcPROGRESScDARKENING OF THE LIGHTcTHE FAMILYcOPPOSITIONcOBSTRUCTIONcDELIVERANCE
  cDECREASEcINCREASEcBREAKTHROUGHcCOMING TO MEETcGATHERING TOGETHERcPUSHING UPWARDcOPPRESSION
  cTHE WELLcREVOLUTIONcTHE CAULDRONdAROUSING THUNDERdKEEPING STILL MOUNTAINcDEVELOPMENT
  cTHE MARRYING MAIDENcABUNDANCEcTHE WANDERERdGENTLE WINDdJOYOUS LAKEcDISPERSIONcLIMITATION
  cINNER TRUTHc,PREPONDERANCEcAFTER COMPLETIONcBEFORE COMPLETION=A000aYI SYLLABLE ITcIXcIcIPcIETcIEX
  cIEcIEPcATcAXcAcAPcUOXcUOcUOPcOTcOXcOcOPcEXcEcWUcBITcBIXcBIcBIPcBIETcBIEXcBIEcBIEPcBATcBAXcBAcBAP
  cBUOXcBUOcBUOPcBOTcBOXcBOcBOPcBEXcBEcBEPcBUTcBUXcBUcBUPcBURXcBURcBYTcBYXcBYcBYPcBYRXcBYRcPITcPIX
  cPIcPIPcPIEXcPIEcPIEPcPATcPAXcPAcPAPcPUOXcPUOcPUOPcPOTcPOXcPOcPOPcPUTcPUXcPUcPUPcPURXcPURcPYTcPYX
  cPYcPYPcPYRXcPYRcBBITcBBIXcBBIcBBIPcBBIETcBBIEXcBBIEcBBIEPcBBATcBBAXcBBAcBBAPcBBUOXcBBUOcBBUOP
  cBBOTcBBOXcBBOcBBOPcBBEXcBBEcBBEPcBBUTcBBUXcBBUcBBUPcBBURXcBBURcBBYTcBBYXcBBYcBBYPcNBITcNBIXcNBI
  cNBIPcNBIEXcNBIEcNBIEPcNBATcNBAXcNBAcNBAPcNBOTcNBOXcNBOcNBOPcNBUTcNBUXcNBUcNBUPcNBURXcNBURcNBYT
  cNBYXcNBYcNBYPcNBYRXcNBYRcHMITcHMIXcHMIcHMIPcHMIEXcHMIEcHMIEPcHMATcHMAXcHMAcHMAPcHMUOXcHMUOcHMUOP
  cHMOTcHMOXcHMOcHMOPcHMUTcHMUXcHMUcHMUPcHMURXcHMURcHMYXcHMYcHMYPcHMYRXcHMYRcMITcMIXcMIcMIPcMIEXcMIE
  cMIEPcMATcMAXcMAcMAPcMUOTcMUOXcMUOcMUOPcMOTcMOXcMOcMOPcMEXcMEcMUTcMUXcMUcMUPcMURXcMURcMYTcMYXcMY
  cMYPcFITcFIXcFIcFIPcFATcFAXcFAcFAPcFOXcFOcFOPcFUTcFUXcFUcFUPcFURXcFURcFYTcFYXcFYcFYPcVITcVIXcVI
  cVIPcVIETcVIEXcVIEcVIEPcVATcVAXcVAcVAPcVOTcVOXcVOcVOPcVEXcVEPcVUTcVUXcVUcVUPcVURXcVURcVYTcVYXcVY
  cVYPcVYRXcVYRcDITcDIXcDIcDIPcDIEXcDIEcDIEPcDATcDAXcDAcDAPcDUOXcDUOcDOTcDOXcDOcDOPcDEXcDEcDEPcDUT
  cDUXcDUcDUPcDURXcDURcTITcTIXcTIcTIPcTIEXcTIEcTIEPcTATcTAXcTAcTAPcTUOTcTUOXcTUOcTUOPcTOTcTOXcTOcTOP
  cTEXcTEcTEPcTUTcTUXcTUcTUPcTURXcTURcDDITcDDIXcDDIcDDIPcDDIEXcDDIEcDDIEPcDDATcDDAXcDDAcDDAPcDDUOX
  cDDUOcDDUOPcDDOTcDDOXcDDOcDDOPcDDEXcDDEcDDEPcDDUTcDDUXcDDUcDDUPcDDURXcDDURcNDITcNDIXcNDIcNDIP
  cNDIEXcNDIEcNDATcNDAXcNDAcNDAPcNDOTcNDOXcNDOcNDOPcNDEXcNDEcNDEPcNDUTcNDUXcNDUcNDUPcNDURXcNDURcHNIT
  cHNIXcHNIcHNIPcHNIETcHNIEXcHNIEcHNIEPcHNATcHNAXcHNAcHNAPcHNUOXcHNUOcHNOTcHNOXcHNOPcHNEXcHNEcHNEP
  cHNUTcNITcNIXcNIcNIPcNIEXcNIEcNIEPcNAXcNAcNAPcNUOXcNUOcNUOPcNOTcNOXcNOcNOPcNEXcNEcNEPcNUTcNUXcNU
  cNUPcNURXcNURcHLITcHLIXcHLIcHLIPcHLIEXcHLIEcHLIEPcHLATcHLAXcHLAcHLAPcHLUOXcHLUOcHLUOPcHLOXcHLO
  cHLOPcHLEXcHLEcHLEPcHLUTcHLUXcHLUcHLUPcHLURXcHLURcHLYTcHLYXcHLYcHLYPcHLYRXcHLYRcLITcLIXcLIcLIP
  cLIETcLIEXcLIEcLIEPcLATcLAXcLAcLAPcLUOTcLUOXcLUOcLUOPcLOTcLOXcLOcLOPcLEXcLEcLEPcLUTcLUXcLUcLUP
  cLURXcLURcLYTcLYXcLYcLYPcLYRXcLYRcGITcGIXcGIcGIPcGIETcGIEXcGIEcGIEPcGATcGAXcGAcGAPcGUOTcGUOXcGUO
  cGUOPcGOTcGOXcGOcGOPcGETcGEXcGEcGEPcGUTcGUXcGUcGUPcGURXcGURcKITcKIXcKIcKIPcKIEXcKIEcKIEPcKATcKAX
  cKAcKAPcKUOXcKUOcKUOPcKOTcKOXcKOcKOPcKETcKEXcKEcKEPcKUTcKUXcKUcKUPcKURXcKURcGGITcGGIXcGGIcGGIEX
  cGGIEcGGIEPcGGATcGGAXcGGAcGGAPcGGUOTcGGUOXcGGUOcGGUOPcGGOTcGGOXcGGOcGGOPcGGETcGGEXcGGEcGGEPcGGUT
  cGGUXcGGUcGGUPcGGURXcGGURcMGIEXcMGIEcMGATcMGAXcMGAcMGAPcMGUOXcMGUOcMGUOPcMGOTcMGOXcMGOcMGOPcMGEX
  cMGEcMGEPcMGUTcMGUXcMGUcMGUPcMGURXcMGURcHXITcHXIXcHXIcHXIPcHXIETcHXIEXcHXIEcHXIEPcHXATcHXAXcHXA
  cHXAPcHXUOTcHXUOXcHXUOcHXUOPcHXOTcHXOXcHXOcHXOPcHXEXcHXEcHXEPcNGIEXcNGIEcNGIEPcNGATcNGAXcNGAcNGAP
  cNGUOTcNGUOXcNGUOcNGOTcNGOXcNGOcNGOPcNGEXcNGEcNGEPcHITcHIEXcHIEcHATcHAXcHAcHAPcHUOTcHUOXcHUOcHUOP
  cHOTcHOXcHOcHOPcHEXcHEcHEPcWATcWAXcWAcWAPcWUOXcWUOcWUOPcWOXcWOcWOPcWEXcWEcWEPcZITcZIXcZIcZIPcZIEX
  cZIEcZIEPcZATcZAXcZAcZAPcZUOXcZUOcZUOPcZOTcZOXcZOcZOPcZEXcZEcZEPcZUTcZUXcZUcZUPcZURXcZURcZYTcZYX
  cZYcZYPcZYRXcZYRcCITcCIXcCIcCIPcCIETcCIEXcCIEcCIEPcCATcCAXcCAcCAPcCUOXcCUOcCUOPcCOTcCOXcCOcCOPcCEX
  cCEcCEPcCUTcCUXcCUcCUPcCURXcCURcCYTcCYXcCYcCYPcCYRXcCYRcZZITcZZIXcZZIcZZIPcZZIETcZZIEXcZZIEcZZIEP
  cZZATcZZAXcZZAcZZAPcZZOXcZZOcZZOPcZZEXcZZEcZZEPcZZUXcZZUcZZUPcZZURXcZZURcZZYTcZZYXcZZYcZZYPcZZYRX
  cZZYRcNZITcNZIXcNZIcNZIPcNZIEXcNZIEcNZIEPcNZATcNZAXcNZAcNZAPcNZUOXcNZUOcNZOXcNZOPcNZEXcNZEcNZUX
  cNZUcNZUPcNZURXcNZURcNZYTcNZYXcNZYcNZYPcNZYRXcNZYRcSITcSIXcSIcSIPcSIEXcSIEcSIEPcSATcSAXcSAcSAP
  cSUOXcSUOcSUOPcSOTcSOXcSOcSOPcSEXcSEcSEPcSUTcSUXcSUcSUPcSURXcSURcSYTcSYXcSYcSYPcSYRXcSYRcSSITcSSIX
  cSSIcSSIPcSSIEXcSSIEcSSIEPcSSATcSSAXcSSAcSSAPcSSOTcSSOXcSSOcSSOPcSSEXcSSEcSSEPcSSUTcSSUXcSSUcSSUP
  cSSYTcSSYXcSSYcSSYPcSSYRXcSSYRcZHATcZHAXcZHAcZHAPcZHUOXcZHUOcZHUOPcZHOTcZHOXcZHOcZHOPcZHETcZHEX
  cZHEcZHEPcZHUTcZHUXcZHUcZHUPcZHURXcZHURcZHYTcZHYXcZHYcZHYPcZHYRXcZHYRcCHATcCHAXcCHAcCHAPcCHUOT
  cCHUOXcCHUOcCHUOPcCHOTcCHOXcCHOcCHOPcCHETcCHEXcCHEcCHEPcCHUXcCHUcCHUPcCHURXcCHURcCHYTcCHYXcCHY
  cCHYPcCHYRXcCHYRcRRAXcRRAcRRUOXcRRUOcRROTcRROXcRROcRROPcRRETcRREXcRREcRREPcRRUTcRRUXcRRUcRRUP
  cRRURXcRRURcRRYTcRRYXcRRYcRRYPcRRYRXcRRYRcNRATcNRAXcNRAcNRAPcNROXcNROcNROPcNRETcNREXcNREcNREPcNRUT
  cNRUXcNRUcNRUPcNRURXcNRURcNRYTcNRYXcNRYcNRYPcNRYRXcNRYRcSHATcSHAXcSHAcSHAPcSHUOXcSHUOcSHUOPcSHOT
  cSHOXcSHOcSHOPcSHETcSHEXcSHEcSHEPcSHUTcSHUXcSHUcSHUPcSHURXcSHURcSHYTcSHYXcSHYcSHYPcSHYRXcSHYRcRAT
  cRAXcRAcRAPcRUOXcRUOcRUOPcROTcROXcROcROPcREXcREcREPcRUTcRUXcRUcRUPcRURXcRURcRYTcRYXcRYcRYPcRYRX
  cRYRcJITcJIXcJIcJIPcJIETcJIEXcJIEcJIEPcJUOTcJUOXcJUOcJUOPcJOTcJOXcJOcJOPcJUTcJUXcJUcJUPcJURXcJUR
  cJYTcJYXcJYcJYPcJYRXcJYRcQITcQIXcQIcQIPcQIETcQIEXcQIEcQIEPcQUOTcQUOXcQUOcQUOPcQOTcQOXcQOcQOPcQUT
  cQUXcQUcQUPcQURXcQURcQYTcQYXcQYcQYPcQYRXcQYRcJJITcJJIXcJJIcJJIPcJJIETcJJIEXcJJIEcJJIEPcJJUOXcJJUO
  cJJUOPcJJOTcJJOXcJJOcJJOPcJJUTcJJUXcJJUcJJUPcJJURXcJJURcJJYTcJJYXcJJYcJJYPcNJITcNJIXcNJIcNJIP
  cNJIETcNJIEXcNJIEcNJIEPcNJUOXcNJUOcNJOTcNJOXcNJOcNJOPcNJUXcNJUcNJUPcNJURXcNJURcNJYTcNJYXcNJYcNJYP
  cNJYRXcNJYRcNYITcNYIXcNYIcNYIPcNYIETcNYIEXcNYIEcNYIEPcNYUOXcNYUOcNYUOPcNYOTcNYOXcNYOcNYOPcNYUT
  cNYUXcNYUcNYUPcXITcXIXcXIcXIPcXIETcXIEXcXIEcXIEPcXUOXcXUOcXOTcXOXcXOcXOPcXYTcXYXcXYcXYPcXYRXcXYR
  cYITcYIXcYIcYIPcYIETcYIEXcYIEcYIEPcYUOTcYUOXcYUOcYUOPcYOTcYOXcYOcYOPcYUTcYUXcYUcYUPcYURXcYURcYYT
  cYYXcYYcYYPcYYRXcYYR=A490bRADIC#QOTcLIcKITcNYIPcCYPcSSIcGGOPcGEPcMIcHXITcLYRcBBUTcMOPcYOcPUTcHXUO
  cTATcGAcZUPcCYTcDDURcBURcGGUOcNYOPcTUcOPcJJUTcZOTcPYTcHMOcYITcVURcSHYcVEPcZAcJOcNZUPcJJYcGOTcJJIE
  cWOcDUcSHURcLIEcCYcCUOPcCIPcHXOPcSHATcZURcSHOPcCHEcZZIETcNBIEcKE"

end CaseDict.Text.CharacterName
