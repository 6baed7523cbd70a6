import CaseDict.Text.CharacterName.Listing
/-! # Names of notations -/

namespace CaseDict.Text.CharacterName

/-- Names from Tangut components over musical notes to mathematical letters, below U+1D800. -/
def notations : Listing :=
  "=18800aTANGUT COMPONENT-001*767aKHITAN,SCRIPT CHARACTER-18B00*9@460=1AFF0aKATAKANA.MINNAN TONE-2
  *3=1AFF5dTONE-7*1dNASALIZED TONE-1*4=1AFFDeTONE-7*1=1B000cARCHAIC EaHIRAGANA.ARCHAIC YE
  aHENTAIGANA.A-1*2cA-WOcI-1*3cU-1*4cE-2*4cO-1*2cKA-1*10cKA-KEcKI-1*7cKU-1*6cKE-1*5cKO-1*2cKO-KI
  cSA-1*7cSI-1*5cSU-1*7cSE-1*4cSO-1*6cTA-1*3cTI-1*6cTU-1*3cTU-TOcTE-1*8cTO-1*5cTO-RAcNA-1*8cNI-1*6
  cNI-TEcNU-1*2cNE-1*5cNE-KOcNO-1*4cHA-1*10cHI-1*6cHU-1*2cHE-1*6cHO-1*7cMA-1*6cMI-1*6cMU-1*3cME-1*1
  cME-MAcMO-1*5cYA-1*4cYA-YOcYU-1*3cYO-1*5cRA-1*3cRI-1*6cRU-1*5cRE-1*3cRO-1*5cWA-1*4cWI-1*4cWE-1*3
  cWO-1*6cN-MU-MO-1*1aHIRAGANA.ARCHAIC WUaKATAKANA.ARCHAIC YIdYEdWU=1B150aHIRAGANA.,WIdWEdWO=1B164
  aKATAKANA.,WIdWEdWOdN=1B170aNUSHU CHARACTER-1B170*9@386=1BC00aDUPLOYAN.HcXcPcTcFcK*1cBcDcVcGcRcP N
  cD ScF NcK McR ScTHcSLOAN DHcDHcKKcSLOAN JcHLcLHcRHcM*1cJcScM NcN McJ McS JcM&DOTcN&DOTcJ&DOT
  eDOTS INSIDE+^cS&DOTf_cM ScN ScJ ScS ScM N ScN M ScJ M ScS J ScJ S&DOTdNeScS TeRdPeRcT SdR ScWcWH
  cW RcS NdMcK R ScG R ScS KeRcAcSLOAN OWcOAcOcAOUcIcEcIEcSHORT IcUIcEEcSLOAN EHcROMANIAN IcSLOAN EE
  cLONG IcYEcUcEUcXWcU NcLONG UcROMANIAN UcUHcSLOAN UcOOHcOWcOUcWAcWOcWIcWEIcWOWcNAS#UdOdIdA
  cPERNIN ANdAMcSLOAN ENdANdONcVOCALIC M=1BC70bAFFIX<HORIZONT#SECANTcMID HORIZONT#SECANT
  c>HORIZONT#SECANTcLOW|SECANTcMID|SECANTcHIGH|SECANTcATTACHED SECANTdLEFT-TO-RIGHT SECANTdTANGENT
  dTAILdE HOOKdI HOOKdTANGENT HOOK=1BC80cHIGH ACUTEdTIGHT ACUTEdGRAVEdLONG GRAVEdDOTdCIRCLEdLINE
  dWAVEd|=1BC90cLOW ACUTEdTIGHT ACUTEdGRAVEdLONG GRAVEdDOTdCIRCLEdLINEdWAVEd|d~=1BC9Cb$O&CROSS
  bTHICK.SELECTORb:MARKbPUNCTUATION CHINOOK FULL STOPaSHORTHAND FORMAT.OVERLAPcCONTINUING OVERLAP
  cDOWN STEPcUP STEP=1CF00aZNAMENNY COMBINING MARK GORAZDO NIZKO S KRYZHEM ON<dNIZKO S KRYZHEM ON<
  dTSATA ON<dGORAZDO NIZKO ON<dNIZKO ON<dSREDNE ON<dMALO POVYSHE ON<dPOVYSHE ON<dVYSOKO ON<
  dMALO POVYSHE S KHOKHLOM ON<dPOVYSHE S KHOKHLOM ON<dVYSOKO S KHOKHLOM ON<
  dGORAZDO NIZKO S KRYZHEM ON>dNIZKO S KRYZHEM ON>dTSATA ON>dGORAZDO NIZKO ON>dNIZKO ON>dSREDNE ON>
  dMALO POVYSHE ON>dPOVYSHE ON>dVYSOKO ON>dMALO POVYSHE S KHOKHLOM ON>dPOVYSHE S KHOKHLOM ON>
  dVYSOKO S KHOKHLOM ON>dTSATA S KRYZHEMdMALO POVYSHE S KRYZHEMdSTRANNO MALO POVYSHE
  dPOVYSHE S KRYZHEMeSTRANNOdVYSOKO S KRYZHEMdMALO POVYSHE STRANNOdGORAZDO VYSOKOdZELOdONdRAVNO
  dTIKHAYAdBORZAYAdUDARKAdPODVERTKAdLOMKAdKUPNAYAdKACHKAdZEVOKdSKOBAdRAZSEKAdKRYZH ON<=1CF30
  cTON#RANGE MARK MRACHNOfSVETLOfTRESVETLOcMARK ZADERZHKAdDEMESTVENNY ZADERZHKAdOTSECHKAdPODCHASHIE
  e&|STROKEdCHASHKAePOLNAYAdOBLACHKOdSOROCHYA NOZHKAdTOCHKAdDVOETOCHIEcATTACHING|OMET
  cMARK CURVED OMETdKRYZHcLOWER TON#RANGE INDICATORbPRIZNAK MODIFIER LEVEL-2*1dDIRECTION FLIPdKRYZH
  dROG=1CF50bNEUME KRYUKdTIKHYcPARAKLITcDVA V CHELNUcKLYUCHcZANOZHEKcSTOPITSAdS OCHKOMcPEREVODKA
  dNEPOSTOYANNAYAcSTOPITSA&SOROCHYA NOZHKAcCHELYUSTKAcPALKAcZAPYATAYAcGOLUBCHIK BORZYdTIKHYdMRACHNY
  dSVETLYdTRESVETLYcVRAKHIYA PROSTAYAdMRACHNAYAdSVETLAYAdTRESVETLAYAdKLYUCHEVAYA PROSTAYAeMRACHNAYA
  eSVETLAYAeTRESVETLAYAc:ZAPYATAYAcREVERSED CHELYUSTKAcDERBITSAcKHAMILOcCHASHKAcPODCHASHIE
  cSKAMEYTSA MRACHNAYAdSVETLAYAdTRESVETLAYAdTIKHAYAcDEMESTVENNY KLYUCH
  cSKAMEYTSA KLYUCHEVAYA SVETLAYAdKLYUCHENEPOSTOYANNAYAdKLYUCHEVAYA TIKHAYAdDVOECHELNAYA PROSTAYA
  eSVETLAYAeNEPOSTOYANNAYAeKLYUCHEVAYAcSLOZHITIEdS ZAPYATOYdZAKRYTOEdS KRYZHEMcKRYZHcROGcFITAcKOBYLA
  cZMEYTSAcSTATYAdS ZAPYATOYeKRYZHEMeZAPYATOY I KRYZHEMeKRYZHEM I ZAPYATOYdZAKRYTAYAeS ZAPYATOY
  dS ROGOMeDVUMYA ZAPYATYMIeZAPYATOY I PODCHASHIEMcPOLKULIZMYcSTATYA NEPOSTOYANNAYAcSTRELA PROSTAYA
  dMRACHNOTIKHAYAdKRYZHEVAYAdPOLUPOVODNAYAdPOVODNAYAdNEPOSTOYANNAYAdKLYUCHEPOVODNAYA
  dKLYUCHENEPOSTOYANNAYAdTIKHAYA PUTNAYAdDVOECHELNAYAdDVOECHELNOKRYZHEVAYAdDVOECHELNOPOVODNAYA
  dDVOECHELNAYA KLYUCHEVAYAdDVOECHELNOPOVODNAYA KLYUCHEVAYAdGROMNAYA&SINGLE ZAPYATAYA
  dGROMOPOVODNAYA&SINGLE ZAPYATAYAdGROMNAYAdGROMOPOVODNAYAe&:ZAPYATAYAdGROMOKRYZHEVAYAePOVODNAYA
  cMECHIKdPOVODNYdKLYUCHEVOYdKLYUCHEPOVODNYdKLYUCHENEPOSTOYANNYcSTRELA TRYASOGLASNAYA
  dTRYASOPOVODNAYAdTRYASOSTRELNAYAcOSOKAdSVETLAYAdTRESVETLAYAdKRYUKOVAYA SVETLAYA
  dKLYUCHEVAYA SVETLAYAeNEPOSTOYANNAYAcSTRELA KRYUKOVAYAePOVODNAYAeGROMNAYA&SINGLE ZAPYATAYA
  eGROMOPOVODNAYA&SINGLE ZAPYATAYAeGROMNAYAeGROMOPOVODNAYAf&:ZAPYATAYAeGROMOKRYZHEVAYAfPOVODNAYA
  eTRYASKAcKUFISMAcOBLAKOcDUDAcNEMKAcPAUK=1D000aBYZANTINE MUSIC#?PSILIdDASEIAdPERISPOMENI
  dOXEIA EKFONITIKONeDIPLIdVAREIA EKFONITIKONeDIPLIdKATHISTIdSYRMATIKIdPARAKLITIKIdYPOKRISISeDIPLI
  dKREMASTIdAPESO EKFONITIKONdEXO EKFONITIKONdTELEIAdKENTIMATAdAPOSTROFOSeDIPLIdSYNEVMAdTHITA
  dOLIGON ARCHAIONdGORGON ARCHAIONdPSILONdCHAMILONdVATHYdISON ARCHAIONdKENTIMA ARCHAION
  dKENTIMATA ARCHAIONdSAXIMATAdPARICHONdSTAVROS APODEXIAdOXEIAI ARCHAIONdVAREIAI ARCHAION
  dAPODERMA ARCHAIONdAPOTHEMAdKLASMAdREVMAdPIASMA ARCHAIONdTINAGMAdANATRICHISMAdSEISMA
  dSYNAGMA ARCHAIONeMETA STAVROUdOYRANISMA ARCHAIONdTHEMAdLEMOIdDYOdTRIAdTESSERAdKRATIMATA
  dAPESO EXO NEOdFTHORA ARCHAIONdIMIFTHORAdTROMIKON ARCHAIONdKATAVA TROMIKONdPELASTONdPSIFISTON
  dKONTEVMAdCHOREVMA ARCHAIONdRAPISMAdPARAKALESMA ARCHAIONdPARAKLITIKI ARCHAIONdICHADINdNANAdPETASMA
  dKONTEVMA ALLOdTROMIKON ALLOdSTRAGGISMATAdGRONTHISMATAdISON NEOdOLIGON NEOdOXEIA NEOdPETASTI
  dKOUFISMAdPETASTOKOUFISMAdKRATIMOKOUFISMAdPELASTON NEOdKENTIMATA NEO ANOdKENTIMA NEO ANOdYPSILI
  dAPOSTROFOS NEOdAPOSTROFOI SYNDESMOS NEOdYPORROIdKRATIMOYPORROONdELAFRONdCHAMILIdMIKRON ISON
  dVAREIA NEOdPIASMA NEOdPSIFISTON NEOdOMALONdANTIKENOMAdLYGISMAdPARAKLITIKI NEOdPARAKALESMA NEO
  dETERON PARAKALESMAdKYLISMAdANTIKENOKYLISMAdTROMIKON NEOdEKSTREPTONdSYNAGMA NEOdSYRMAdCHOREVMA NEO
  dEPEGERMAdSEISMA NEOdXIRON KLASMAdTROMIKOPSIFISTONdPSIFISTOLYGISMAdTROMIKOLYGISMA
  dTROMIKOPARAKALESMAdPSIFISTOPARAKALESMAdTROMIKOSYNAGMAdPSIFISTOSYNAGMAdGORGOSYNTHETON
  dARGOSYNTHETONdETERON ARGOSYNTHETONdOYRANISMA NEOdTHEMATISMOS ESOeEXOdTHEMA APLOUN
  dTHES KAI APOTHESdKATAVASMAdENDOFONONdYFEN KATOeANOdSTAVROSdKLASMA ANOdDIPLI ARCHAION
  dKRATIMA ARCHAIONeALLOeNEOdAPODERMA NEOdAPLIdDIPLIdTRIPLIdTETRAPLIdKORONISdLEIMMA ENOS CHRONOU
  eDYO CHRONONeTRION CHRONONeTESSARON CHRONONeIMISEOS CHRONOUdGORGON NEO ANOePARESTIGMENON ARISTERA
  fDEXIAdDIGORGONePARESTIGMENON ARISTERA KATOgANOfDEXIAdTRIGORGONdARGONdIMIDIARGONdDIARGON
  dAGOGI POLI ARGIeARGOTERIeARGIeMETRIAeMESIeGORGIeGORGOTERIePOLI GORGIdMARTYRIA PROTOS ICHOS
  eALLI PROTOS ICHOSeDEYTEROS ICHOSeALLI DEYTEROS ICHOSeTRITOS ICHOSeTRIFONIASeTETARTOS ICHOS
  fLEGETOS ICHOSeLEGETOS ICHOSePLAGIOS ICHOSdISAKIA TELOUS ICHIMATOSdAPOSTROFOI TELOUS ICHIMATOS
  dFANEROSIS TETRAFONIASeMONOFONIASeDIFONIASdMARTYRIA VARYS ICHOSePROTOVARYS ICHOS
  ePLAGIOS TETARTOS ICHOSdGORTHMIKON N APLOUNfDIPLOUNdENARXIS KAI FTHORA VOUdIMIFONONdIMIFTHORON
  dFTHORA ARCHAION DEYTEROU ICHOUeDIATONIKI PAfNANAeNAOS ICHOSeDIATONIKI DIeSKLIRON DIATONON DI
  eDIATONIKI KEfZOfNI KATOgANOeMALAKON CHROMA DIFONIASgMONOFONIASdFHTORA SKLIRON CHROMA VASIS
  dFTHORA SKLIRON CHROMA SYNAFIeNENANOdCHROA ZYGOSeKLITONeSPATHIdFTHORA I YFESIS TETARTIMORION
  eENARMONIOS ANTIFONIAdYFESIS TRITIMORIONdDIESIS TRITIMORIONeTETARTIMORIONeAPLI DYO DODEKATA
  eMONOGRAMMOS TESSERA DODEKATAeDIGRAMMOS EX DODEKATAeTRIGRAMMOS OKTO DODEKATA
  dYFESIS APLI DYO DODEKATAeMONOGRAMMOS TESSERA DODEKATAeDIGRAMMOS EX DODEKATA
  eTRIGRAMMOS OKTO DODEKATAdGENIKI DIESISeYFESISdDIASTOLI APLI MIKRIfMEGALIeDIPLIeTHESEOS
  dSIMANSIS THESEOSfDISIMOUfTRISIMOUfTETRASIMOUeARSEOSfDISIMOUfTRISIMOUfTETRASIMOUdDIGRAMMA GG
  dDIFTOGGOS OUdSTIGMAdARKTIKO PAeVOUeGAeDIeKEeZOeNIdKENTIMATA NEO MESOdKENTIMA NEO MESO
  dKENTIMATA NEO KATOdKENTIMA NEO KATOdKLASMA KATOdGORGON NEO KATO=1D100aMUSIC#?SINGLE BARLINE
  c:BARLINEc]BARLINEcREVERSE]BARLINEcDASHED BARLINEcSHORT BARLINEc<REPEAT$c>REPEAT$cREPEAT DOTS
  cD#SEGNOcDA CAPOcSEGNOcCODAcREPEATED FIGURE-1*2cFERMATAd_cBREATH MARKcCAESURAcBRACEcBRACKET
  cONE-LINE STAFFcTWO-LINE STAFFcTHREE-LINE STAFFcFOUR-LINE STAFFcFIVE-LINE STAFFcSIX-LINE STAFF
  cSIX-STRING FRETBOARDcFOUR-STRING FRETBOARDcG CLEFeOTTAVA ALTAfBASSAcC CLEFcF CLEFeOTTAVA ALTA
  fBASSAcDRUM CLEF-1*1=1D129cMULTIPLE MEASURE RESTc:SHARPdFLATcFLAT UPdDOWNcNATUR#UPdDOWNcSHARP UP
  dDOWNcQUARTER TONE SHARPeFLATcCOMMON TIMEcCUT TIMEcOTTAVA ALTAdBASSAcQUINDICESIMA ALTAdBASSA
  cMULTI RESTcWHOLE RESTcHALF RESTcQUARTER RESTcEIGHTH RESTcSIXTEENTH RESTcTHIRTY-SECOND REST
  cSIXTY-FOURTH RESTcONE HUNDRED TWENTY-EIGHTH RESTcX NOTEHEADcPLUS NOTEHEADcCIRCLE X NOTEHEAD
  cSQUARE NOTEHEAD WHITEeBLACKcTRIANGLE NOTEHEAD UP WHITEfBLACKe<WHITEfBLACKe>WHITEfBLACKeDOWN WHITE
  fBLACKeUP>WHITEgBLACKcMOON NOTEHEAD WHITEeBLACKcTRIANGLE-ROUND NOTEHEAD DOWN WHITEfBLACK
  cPARENTHESIS NOTEHEADcVOID NOTEHEADcNOTEHEAD BLACKcNULL NOTEHEADcCLUSTER NOTEHEAD WHITEeBLACK
  cBREVEcWHOLE NOTEcHALF NOTEcQUARTER NOTEcEIGHTH NOTEcSIXTEENTH NOTEcTHIRTY-SECOND NOTE
  cSIXTY-FOURTH NOTEcONE HUNDRED TWENTY-EIGHTH NOTEcCOMBINING STEMdSPRECHGESANG STEMdTREMOLO-1*2
  cFINGERED TREMOLO-1*2cCOMBINING AUGMENTATION DOTdFLAG-1*4cBEGIN BEAMcEND BEAMcBEGIN TIEcEND TIE
  cBEGIN SLURcEND SLURcBEGIN PHRASEcEND PHRASEcCOMBINING ACCENTdSTACCATOdTENUTOdSTACCATISSIMO
  dMARCATOdMARCATO-STACCATOdACCENT-STACCATOdLOUREcARPEGGIATO UPdDOWNcCOMBINING DOITdRIPdFLIPdSMEAR
  dBENDd:TONGUEdTRIPLE TONGUEcRINFORZANDOcSUBITOcZcPIANOcMEZZOcFORTEcCRESCENDOcDECRESCENDO
  cGRACE NOTE SLASHeNO SLASHcTRcTURNcINVERTED TURNcTURN SLASHdUPcORNAMENT STROKE-1*10cHAUPTSTIMME
  cNEBENSTIMMEcEND OF STIMMEcDEGREE SLASHcCOMBINING DOWN BOWdUP BOWdHARMONICdSNAP PIZZICATOcPED#MARK
  dUP MARKcHALF PED#MARKcGLISSANDO UPdDOWNc&FINGERNAILScDAMPdALLcMAXIMAcLONGAcBREVIS
  cSEMIBREVIS WHITEdBLACKcMINIMAdBLACKcSEMIMINIMA WHITEdBLACKcFUSA WHITEdBLACKcLONGA PERFECTA REST
  dIMPERFECTA RESTcBREVIS RESTcSEMIBREVIS RESTcMINIMA RESTcSEMIMINIMA REST
  cTEMPUS PERFECTUM CUM PROLATIONE PERFECTAgIMPERFECTAgPERFECTA DIMINUTION-1
  dIMPERFECTUM CUM PROLATIONE PERFECTAgIMPERFECTAhDIMINUTION-1*2cCROIXcGREGORIAN C CLEFdF CLEF
  cSQUARE BcVIRGAcPODATUScCLIVIScSCANDICUScCLIMACUScTORCULUScPORRECTUSdFLEXUScSCANDICUS FLEXUS
  cTORCULUS RESUPINUScPES SUBPUNCTIScKIEVAN C CLEFdEND OF PIECEd]NOTEdRECITATIVE MARKdWHOLE NOTE
  dHALF NOTEdQUARTER NOTE STEM DOWNgUPdEIGHTH NOTE STEM DOWNgUPdFLAT$cSORIcKORON=1D200
  aGREEK VOC#NOTATION SYMBOL-1*23dSYMBOL-50*4bINSTRUMENT#NOTATION SYMBOL-1*1dSYMBOL-4*1dSYMBOL-7*1
  dSYMBOL-11*3dSYMBOL-17*2dSYMBOL-23*4dSYMBOL-29*1dSYMBOL-32dSYMBOL-36*4dSYMBOL-42*1dSYMBOL-45
  dSYMBOL-47*7aCOMBINING GREEK MUSIC#TRISEMEdTETRASEMEdPENTASEMEaGREEK MUSIC#LEIMMA=1D2E0
  aMAYAN NUMER#ZEROcONEcTWOcTHREEcFOURcFIVEcSIXcSEVENcEIGHTcNINEcTENcELEVENcTWELVEcTHIRTEENcFOURTEEN
  cFIFTEENcSIXTEENcSEVENTEENcEIGHTEENcNINETEEN=1D300aMONOGRAM FOR EARTHaDIGRAM FOR HEAVENLY EARTH
  cHUMAN EARTHcEARTHLY HEAVENdHUMANcEARTHaTETRAGRAM FOR CENTREcFULL CIRCLEcMIREDcBARRIERcKEEPING,
  cCONTRARIETYcASCENTcOPPOSITIONcBRANCHING OUTcDEFECTIVENESS OR DISTORTIONcDIVERGENCEcYOUTHFULNESS
  cINCREASEcPENETRATIONcREACHcCONTACTcHOLDING BACKcWAITINGcFOLLOWINGcADVANCEcRELEASEcRESISTANCEcEASE
  cJOYcCONTENTIONcENDEAVOURcDUTIEScCHANGEcDECISIVENESScBOLD RESOLUTIONcPACKINGcLEGIONcCLOSENESS
  cKINSHIPcGATHERINGcSTRENGTHcPURITYcFULLNESScRESIDENCEcLAW OR MODELcRESPONSEcGOING TO MEET
  cENCOUNTERScSTOVEcGREATNESScENLARGEMENTcPATTERNcRITU#cFLIGHTcVASTNESS OR WASTINGcCONSTANCYcMEASURE
  cETERNITYcUNITYcDIMINISHMENTcCLOSED MOUTHcGUARDEDNESScGATHERING INcMASSINGcACCUMULATION
  cEMBELLISHMENTcDOUBTcWATCHcSINKINGcINNERcDEPARTUREcDARKENINGcDIMMINGcEXHAUSTIONcSEVERANCEcSTOPPAGE
  cHARDNESScCOMPLETIONcCLOSUREcFAILUREcAGGRAVATIONcCOMPLIANCEcON THE VERGEcDIFFICULTIEScLABOURING
  cFOSTERING=1D360aCOUNTING ROD UNIT DIGIT ONEeTWOeTHREEeFOUReFIVEeSIXeSEVENeEIGHTeNINE
  cTENS DIGIT ONEeTWOeTHREEeFOUReFIVEeSIXeSEVENeEIGHTeNINEaIDEOGRAPHIC TALLY MARK ONEdTWOdTHREEdFOUR
  dFIVEaTALLY MARK ONEcFIVE=1D400aMATHEMATIC#BOLD!A*25c,A*25bITALIC!A*25c,A*6=1D456dI*17
  bBOLD ITALIC!A*25d,A*25bSCRIPT!A=1D49EdC*1=1D4A2dG=1D4A5dJ*1=1D4A9dN*3=1D4AEdS*7c,A*3=1D4BBdF
  =1D4BDdH*6=1D4C5dP*10bBOLD SCRIPT!A*25d,A*25bFRAKTUR!A*1=1D507dD*3=1D50DdJ*7=1D516dS*6=1D51Ec,A*25
  bDOUBLE-STRUCK!A*1=1D53BdD*3=1D540dI*4=1D546dO=1D54AdS*6=1D552c,A*25bBOLD FRAKTUR!A*25d,A*25
  bSANS-SERIF!A*25c,A*25cBOLD!A*25d,A*25cITALIC!A*25d,A*25cBOLD ITALIC!A*25e,A*25bMONOSPACE!A*25c,A
  *25bITALIC,DOTLESS I*1=1D6A8bBOLD!ALPHAdBETAdGAMMAdDELTAdEPSILONdZETAdETAdTHETAdIOTAdKAPPAdLAMDA
  dMUdNUdXIdOMICRONdPIdRHOdTHETA?dSIGMAdTAUdUPSILONdPHIdCHIdPSIdOMEGAcNABLAc,ALPHAdBETAdGAMMAdDELTA
  dEPSILONdZETAdETAdTHETAdIOTAdKAPPAdLAMDAdMUdNUdXIdOMICRONdPIdRHOd]SIGMAdSIGMAdTAUdUPSILONdPHIdCHI
  dPSIdOMEGAcPARTI#DIFFERENTI#cEPSILON?cTHETA?cKAPPA?cPHI?cRHO?cPI?bITALIC!ALPHAdBETAdGAMMAdDELTA
  dEPSILONdZETAdETAdTHETAdIOTAdKAPPAdLAMDAdMUdNUdXIdOMICRONdPIdRHOdTHETA?dSIGMAdTAUdUPSILONdPHIdCHI
  dPSIdOMEGAcNABLAc,ALPHAdBETAdGAMMAdDELTAdEPSILONdZETAdETAdTHETAdIOTAdKAPPAdLAMDAdMUdNUdXIdOMICRON
  dPIdRHOd]SIGMAdSIGMAdTAUdUPSILONdPHIdCHIdPSIdOMEGAcPARTI#DIFFERENTI#cEPSILON?cTHETA?cKAPPA?cPHI?
  cRHO?cPI?bBOLD ITALIC!ALPHAeBETAeGAMMAeDELTAeEPSILONeZETAeETAeTHETAeIOTAeKAPPAeLAMDAeMUeNUeXI
  eOMICRONePIeRHOeTHETA?eSIGMAeTAUeUPSILONePHIeCHIePSIeOMEGAdNABLAd,ALPHAeBETAeGAMMAeDELTAeEPSILON
  eZETAeETAeTHETAeIOTAeKAPPAeLAMDAeMUeNUeXIeOMICRONePIeRHOe]SIGMAeSIGMAeTAUeUPSILONePHIeCHIePSI
  eOMEGAdPARTI#DIFFERENTI#dEPSILON?dTHETA?dKAPPA?dPHI?dRHO?dPI?bSANS-SERIF BOLD!ALPHAeBETAeGAMMA
  eDELTAeEPSILONeZETAeETAeTHETAeIOTAeKAPPAeLAMDAeMUeNUeXIeOMICRONePIeRHOeTHETA?eSIGMAeTAUeUPSILON
  ePHIeCHIePSIeOMEGAdNABLAd,ALPHAeBETAeGAMMAeDELTAeEPSILONeZETAeETAeTHETAeIOTAeKAPPAeLAMDAeMUeNUeXI
  eOMICRONePIeRHOe]SIGMAeSIGMAeTAUeUPSILONePHIeCHIePSIeOMEGAdPARTI#DIFFERENTI#dEPSILON?dTHETA?
  dKAPPA?dPHI?dRHO?dPI?dITALIC!ALPHAfBETAfGAMMAfDELTAfEPSILONfZETAfETAfTHETAfIOTAfKAPPAfLAMDAfMUfNU
  fXIfOMICRONfPIfRHOfTHETA?fSIGMAfTAUfUPSILONfPHIfCHIfPSIfOMEGAeNABLAe,ALPHAfBETAfGAMMAfDELTA
  fEPSILONfZETAfETAfTHETAfIOTAfKAPPAfLAMDAfMUfNUfXIfOMICRONfPIfRHOf]SIGMAfSIGMAfTAUfUPSILONfPHIfCHI
  fPSIfOMEGAePARTI#DIFFERENTI#eEPSILON?eTHETA?eKAPPA?ePHI?eRHO?ePI?bBOLD!DIGAMMAs=1D7CEcDIGIT ZERO
  dONEdTWOdTHREEdFOURdFIVEdSIXdSEVENdEIGHTdNINEbDOUBLE-STRUCK DIGIT ZEROdONEdTWOdTHREEdFOURdFIVEdSIX
  dSEVENdEIGHTdNINEbSANS-SERIF DIGIT ZEROdONEdTWOdTHREEdFOURdFIVEdSIXdSEVENdEIGHTdNINE
  cBOLD DIGIT ZEROeONEeTWOeTHREEeFOUReFIVEeSIXeSEVENeEIGHTeNINEbMONOSPACE DIGIT ZEROdONEdTWOdTHREE
  dFOURdFIVEdSIXdSEVENdEIGHTdNINE"

end CaseDict.Text.CharacterName
