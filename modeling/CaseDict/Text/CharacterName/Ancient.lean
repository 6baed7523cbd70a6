import CaseDict.Text.CharacterName.Listing
/-! # Names of ancient characters -/

namespace CaseDict.Text.CharacterName

/-- Names of ancient and of minority scripts, below U+12000. -/
def ancient : Listing :=
  "=10000aLINEAR B SYLLABLE B008 AdB038 EdB028 IdB061 OdB010 UdB001 DAdB045 DEdB007 DIdB014 DO
  dB051 DUdB057 JAdB046 JE=1000DdB036 JOdB065 JUdB077 KAdB044 KEdB067 KIdB070 KOdB081 KUdB080 MA
  dB013 MEdB073 MIdB015 MOdB023 MUdB006 NAdB024 NEdB030 NIdB052 NOdB055 NUdB003 PAdB072 PEdB039 PI
  dB011 POdB050 PUdB016 QAdB078 QEdB021 QIdB032 QO=10028dB060 RAdB027 REdB053 RIdB002 ROdB026 RU
  dB031 SAdB009 SEdB041 SIdB012 SOdB058 SUdB059 TAdB004 TEdB037 TIdB005 TOdB069 TUdB054 WAdB075 WE
  dB040 WIdB042 WO=1003CdB017 ZAdB074 ZE=1003FdB020 ZOdB025 A2dB043 A3dB085 AUdB071 DWEdB090 DWO
  dB048 NWAdB029 PU2dB062 PTEdB076 RA2dB033 RA3dB068 RO2dB066 TA2dB087 TWEdB091 TWO=10050c?B018*1
  dB022dB034dB047dB049dB056dB063*1dB079dB082*1dB086dB089=10080cIDEOGRAM B100 MANdB102 WOMAN
  dB104 DEERdB105 EQUIDdB105F MAREdB105M STALLIONdB106F EWEdB106M RAMdB107F SHE-GOATdB107M HE-GOAT
  dB108F SOWdB108M BOARdB109F COWdB109M BULLdB120 WHEATdB121 BARLEYdB122 OLIVEdB123 SPICE
  dB125 CYPERUScMONOGRAM B127 KAPOdB128 KANAKOcIDEOGRAM B130 OILdB131 WINEdB132cMONOGRAM B133 AREPA
  dB135 MERIcIDEOGRAM B140 BRONZEdB141 GOLDdB142dB145 WOOLdB146dB150dB151 HORNdB152*2
  cMONOGRAM B156 TURO2cIDEOGRAM B157*1dB159 CLOTHdB160*1dB162 GARMENTdB163 ARMOURdB164*8dB173 MONTH
  dB174dB176 TREEdB177*8dB189*1dB191 HELMETdB220 FOOTSTOOLdB225 BATHTUBdB230 SPEARdB231~dB232
  dB233 SWORDdB234dB236dB240 WHEELED CHARIOTdB241 CHARIOTdB242 CHARIOT FRAMEdB243 WHEELdB245*1
  cMONOGRAM B247 DIPTEcIDEOGRAM B248*1dB251*2dB254 DARTdB255*4dVESSEL B155eB200*19eB221*1eB226*3
  eB250eB305=10100aAEGEAN WORD SEPARATOR LINEdDOTbCHECK MARK=10107bNUMBER ONEcTWOcTHREEcFOURcFIVE
  cSIXcSEVENcEIGHTcNINEcTENcTWENTYcTHIRTYcFORTYcFIFTYcSIXTYcSEVENTYcEIGHTYcNINETYcONE HUNDRED
  cTWO HUNDREDcTHREE HUNDREDcFOUR HUNDREDcFIVE HUNDREDcSIX HUNDREDcSEVEN HUNDREDcEIGHT HUNDRED
  cNINE HUNDREDcONE THOUSANDcTWO THOUSANDcTHREE THOUSANDcFOUR THOUSANDcFIVE THOUSANDcSIX THOUSAND
  cSEVEN THOUSANDcEIGHT THOUSANDcNINE THOUSANDcTEN THOUSANDcTWENTY THOUSANDcTHIRTY THOUSAND
  cFORTY THOUSANDcFIFTY THOUSANDcSIXTY THOUSANDcSEVENTY THOUSANDcEIGHTY THOUSANDcNINETY THOUSAND
  =10137bWEIGHT BASE UNITcFIRST SUBUNITcSECOND SUBUNITcTHIRD SUBUNITcFOURTH SUBUNIT
  bDRY MEASURE FIRST SUBUNITbLIQUID MEASURE FIRST SUBUNITbMEASURE SECOND SUBUNITcTHIRD SUBUNIT
  aGREEK ACROPHONIC ATTIC ONE QUARTEReHALFeDRACHMAdFIVEdFIFTYdFIVE HUNDREDeTHOUSANDdFIFTY THOUSAND
  dFIVE TALENTSdTEN TALENTSdFIFTY TALENTSdONE HUNDRED TALENTSdFIVE HUNDRED TALENTS
  dONE THOUSAND TALENTSdFIVE THOUSAND TALENTSeSTATERSdTEN STATERSdFIFTY STATERSdONE HUNDRED STATERS
  dFIVE HUNDRED STATERSdONE THOUSAND STATERSdTEN THOUSAND STATERSdFIFTY THOUSAND STATERSdTEN MNAS
  cHERAEUM ONE PLETHRONcTHESPIAN ONEcHERMIONIAN ONEcEPIDAUREAN TWOcTHESPIAN TWO
  cCYRENAIC TWO DRACHMAScEPIDAUREAN TWO DRACHMAScTROEZENIAN FIVEdTENeALTERNATE%cHERMIONIAN TEN
  cMESSENIAN TENcTHESPIAN TENdTHIRTYcTROEZENIAN FIFTYeALTERNATE%cHERMIONIAN FIFTYcTHESPIAN FIFTY
  dONE HUNDREDdTHREE HUNDREDcEPIDAUREAN FIVE HUNDREDcTROEZENIAN FIVE HUNDREDcTHESPIAN FIVE HUNDRED
  cCARYSTIAN FIVE HUNDREDcNAXIAN FIVE HUNDREDcTHESPIAN ONE THOUSANDdFIVE THOUSANDcDELPHIC FIVE MNAS
  cSTRATIAN FIFTY MNASbONE HALF$eALTERNATE%bTWO THIRDS$bTHREE QUARTERS$bYEAR$bTALENT$bDRACHMA$bOBOL$
  bTWO OBOLS$bTHREE OBOLS$bFOUR OBOLS$bFIVE OBOLS$bMETRETES$bKYATHOS BASE$bLITRA$bOUNKIA$bXESTES$
  bARTABE$bAROURA$bGRAMMA$bTRYBLION BASE$bZERO$bONE QUARTER$bSINUSOID$bINDICTION$aNOMISMA$=10190
  aROMAN SEXTANS$bUNCIA$bSEMUNCIA$bSEXTULA$bDIMIDIA SEXTULA$bSILIQUA$bDENARIUS$bQUINARIUS$
  bSESTERTIUS$bDUPONDIUS$bAS$bCENTURI#$aASCIA?=101A0aGREEK?TAU RHO=101D0aPHAISTOS DISC$PEDESTRIAN
  dPLUMED HEADdTATTOOED HEADdCAPTIVEdCHILDdWOMANdHELMETdGAUNTLETdTIARAd~dBOWdSHIELDdCLUBdMANACLES
  dMATTOCKdSAWdLIDdBOOMERANGdCARPENTRY PLANEdDOLIUMdCOMBdSLINGdCOLUMNdBEEHIVEdSHIPdHORNdHIDE
  dBULLS LEGdCATdRAMdEAGLEdDOVEdTUNNYdBEEdPLANE TREEdVINEdPAPYRUSdROSETTEdLILYdOX BACKdFLUTEdGRATER
  dSTRAINERd,AXEdWAVY BANDdCOMBINING OBLIQUE STROKE=10280aLYCIAN.AcEcBcBHcGcDcIcWcZcTHcJ*1cQcL*2cMM
  cNNcUcPcKKcR*2cTTcANcENcHcX=102A0aCARIAN.AcP2cDcLcUUUcRcLDcA2cQcBcMcOcD2cTcSHcSH2cScC-18cUcNNcXcN
  cTT2cPcSScIcEcUUUUcKcK2cNDcUUcGcG2cSTcST2cNGcIIcC-39cTTcUUU2cRRcMBcMB2*2cLD2cE2cUUU3=102E0
  aCOPTIC EPACT THOUSANDS MARKcDIGIT ONEdTWOdTHREEdFOURdFIVEdSIXdSEVENdEIGHTdNINEcNUMBER TENdTWENTY
  dTHIRTYdFORTYdFIFTYdSIXTYdSEVENTYdEIGHTYdNINETYdONE HUNDREDdTWO HUNDREDdTHREE HUNDREDdFOUR HUNDRED
  dFIVE HUNDREDdSIX HUNDREDdSEVEN HUNDREDdEIGHT HUNDREDdNINE HUNDRED=10300aOLD ITALIC.AdBEdKEdDEdE
  dVEdZEdHEdTHEdIdKAdEL*2dESHdOdPEdSHEdKUdER*1dTEdUdEKSdPHEdKHEdEFdERSdCHEdIIdUUdESScNUMER#ONEdFIVE
  dTENdFIFTY=1032Dc.YEdNORTHERN TSEdSOUTHERN TSEaGOTHIC.AHSAcBAIRKANcGIBAcDAGScAIHVUScQAIRTHRAcIUJA
  cHAGLcTHIUTHcEIScKUSMAcLAGUScMANNAcNAUTHScJERcURUScPAIRTHRAcNINETYcRAIDAcSAUILcTEIWScWINJAcFAIHU
  cIGGWScHWAIRcOTH#cNINE HUNDRED=10350aOLD PERMIC.ANdBURdGAIdDOIdEdZHOIdDZHOIdZATAdDZITAdIdKOKEdLEI
  dMENOEdNENOEdVOOIdPEEIdREIdSIIdTAIdUdCHERYdSHOOIdSHCHOOIdYRYdYERUdOdOOdEFdHAdTSIUdVERdYERdYERIdYAT
  dIEdYUdYAdIAaCOMBINING OLD PERMIC.ANeDOIeZATAeNENOEeSII=10380aUGARITIC.ALPAcBETAcGAMLAcKHAcDELTA
  cHOcWOcZETAcHOTAcTETcYODcKAFcSHINcLAMDAcMEMcDH#cNUNcZUcSAMKAcAINcPUcSADEcQOPAcRASHAcTHANNAcGHAIN
  cTOcIcUcSSU=1039FbWORD DIVIDERaOLD PERSIAN$AdIdUdKAdKUdGAdGUdXAdCAdJAdJIdTAdTUdDAdDIdDUdTHAdPAdBA
  dFAdNAdNUdMAdMIdMUdYAdVAdVIdRAdRUdLAdSAdZAdSHAdSSAdHA=103C8dAURAMAZDAAdAURAMAZDAA-2dAURAMAZDAAHA
  dXSHAAYATHIYAdDAHYAAUSHdDAHYAAUSH-2dBAGAdBUUMISHcWORD DIVIDERcNUMBER ONEdTWOdTENdTWENTYdHUNDRED
  =10400aDESERET!.LONG IeEeAeAHeOeOOdSHORT IeEeAeAHeOeOOdAYdOWdWUdYEEdHdPEEdBEEdTEEdDEEdCHEEdJEEdKAY
  dGAYdEFdVEEdETHdTHEEdESdZEEdESHdZHEEdERdEL*2dENGdOIdEWb,.LONG IeEeAeAHeOeOOdSHORT IeEeAeAHeOeOOdAY
  dOWdWUdYEEdHdPEEdBEEdTEEdDEEdCHEEdJEEdKAYdGAYdEFdVEEdETHdTHEEdESdZEEdESHdZHEEdERdEL*2dENGdOIdEW
  aSHAVIAN.PEEPcTOTcKICKcFEEcTHIGHcSOcSUREcCHURCHcYEAcHUNGcBIBcDEADcGAGcVOWcTHEYcZOOcMEASUREcJUDGE
  cWOEcHA-HAcLOLLcMIMEcIFcEGGcASHcADOcONcWOOLcOUTcAHcROARcNUNcEATcAGEcICEcUPcOAKcOOZEcOILcAWEcAREcOR
  cAIRcERRcARRAYcEARcIANcYEWaOSMANYA.ALEFcBAcTAcJAcXAcKHAcDEELcRAcSAcSHIINcDHAcCAYNcGAcFAcQAAFcKAAF
  cLAANcMIINcNUUNcWAWcHAcYAcAcEcIcOcUcAAcEEcOO=104A0bDIGIT ZEROcONEcTWOcTHREEcFOURcFIVEcSIXcSEVEN
  cEIGHTcNINE=104B0aOSAGE!.AdAIdAINdAHdBRAdCHAdEHCHAdEdEINdHAdHYAdIdKAdEHKAdKYAdLAdMAdNAdOdOINdPA
  dEHPAdSAdSHAdTAdEHTAdTSAdEHTSAdTSHAdDHAdUdWAdKHAdGHAdZAdZHA=104D8b,.AdAIdAINdAHdBRAdCHAdEHCHAdE
  dEINdHAdHYAdIdKAdEHKAdKYAdLAdMAdNAdOdOINdPAdEHPAdSAdSHAdTAdEHTAdTSAdEHTSAdTSHAdDHAdUdWAdKHAdGHAdZA
  dZHA=10500aELBASAN.AcBEcCEcCHEcDEcNDEcDHEcEIcEcFEcGEcGJEcHEcIcJEcKEcLEcLLEcMEcNEcNAcNJEcOcPEcQEcRE
  cRREcSEcSHEcTEcTHEcUcVEcXEcYcZEcZHEcGHEcGHAMMAcKHE=10530aCAUCASIAN ALBANIAN.ALTdBETdGIMdDATdEB
  dZARLdEYNdZHILdTASdCHAdYOWDdZHAdIRBdSHAdLANdINYAdXEYNdDYANdCARdJHOXdKARdLYITdHEYTdQAYdAORdCHOYdCHI
  dCYAYdMAQdQARdNOWCdDZYAYdSHAKdJAYNdONdTYAYdFAMdDZAYdCHATdPENdGHEYSdRATdSEYKdVEYZdTIWRdSHOYdIWN
  dCYAWdCAYNdYAYDdPIWRdKIW=1056FcCITATION MARKaVITHKUQI!.AdBBEdBEdCEdCHEdDEdDHEdEIdEdFEdGA=1057CdHA
  dHHAdIdIJEdJEdKAdLAdLLAdMEdNEdNJEdOdPEdQAdRE=1058CdSEdSHEdTEdTHEdUdVEdXE=10594dYdZE=10597b,.AdBBE
  dBEdCEdCHEdDEdDHEdEIdEdFEdGA=105A3dHAdHHAdIdIJEdJEdKAdLAdLLAdMEdNEdNJEdOdPEdQAdRE=105B3dSEdSHEdTE
  dTHEdUdVEdXE=105BBdYdZE=10600aLINEAR A$AB001*10dAB013dAB016*1dAB020*1dAB021FdAB021MdAB022dAB022F
  dAB022MdAB023dAB023MdAB024dAB026*2dA028BdAB029*2dAB034dAB037*4dAB044*7dAB053*8dAB065*2dAB069*1
  dAB073*1dAB076*6dAB085*2dA100-102dAB118dAB120dA120BdAB122*1dAB131A*1dA131CdAB164dAB171dAB180dAB188
  dAB191dA301*7dA309A*2dA310*2dA313A*2dA314*57dA400-VASdA401-VASdA402-VASdA403-VASdA404-VASdA405-VAS
  dA406-VASdA407-VASdA408-VASdA409-VASdA410-VASdA411-VASdA412-VASdA413-VASdA414-VASdA415-VAS
  dA416-VASdA417-VASdA418-VASdA501*5dA508*5dA515*1dA520*1dA523*9dA534*8dA545dA547*10dA559dA563*3
  dA568*21dA591*1dA594*2dA598dA600*4dA606dA608*16dA626*3dA634dA637*1dA640dA642*4dA648*1dA651*13
  =10740dA701 AdA702 BdA703 DdA704 EdA705 FdA706 HdA707 JdA708 KdA709 LdA709-2 L2dA709-3 L3
  dA709-4 L4dA709-6 L6dA710 WdA711 XdA712 YdA713 OMEGAdA714 ABBdA715 BBdA717 DDdA726 EYYYdA732 JE
  =10760dA800*7=10780aMODIFIER.,!AAcSUPERSCRIPT TRIANGULAR COLONdHALF TRIANGULAR COLONc,AEd!BdB&HOOK
  =10787dDZ DIGRAPHf&RETROFLEX HOOKgCURLdDEZH DIGRAPHdD&TAILfHOOKg+TAILdREVERSED E
  dCLOSED REVERSED OPEN EdFENG DIGRAPHdRAMS HORNd!GdG&HOOKd!G&HOOKdH&STROKEd!HdHENG&HOOK
  dDOTLESS J&STROKE+HOOKdLS DIGRAPHdLZ DIGRAPHdL&BELTd!L&BELTdL&RETROFLEX HOOK+BELTdLEZH
  e&RETROFLEX HOOKdTURNED Yf&BELTdO&STROKEd!OEdCLOSED OMEGAdQdTURNED R&LONG LEGi+RETROFLEX HOOK
  dR&TAILfFISHHOOKd!RdTC DIGRAPH&CURLdTS DIGRAPHf&RETROFLEX HOOKdTESH DIGRAPHdT&RETROFLEX HOOK
  dV&>HOOK=107B2d!YcGLOTT#STOP&STROKEcREVERSED GLOTT#STOP&STROKEcBILABI#CLICKcDENT#CLICKcLATER#CLICK
  cALVEOLAR CLICKcRETROFLEX CLICK&RETROFLEX HOOKc,S&CURL=10800aCYPRIOT SYLLABLE AcEcIcOcUcJA=10808
  cJO=1080AcKAcKEcKIcKOcKUcLAcLEcLIcLOcLUcMAcMEcMIcMOcMUcNAcNEcNIcNOcNUcPAcPEcPIcPOcPUcRAcREcRIcRO
  cRUcSAcSEcSIcSOcSUcTAcTEcTIcTOcTUcWAcWEcWIcWO=10837cXAcXE=1083CcZA=1083FcZOaIMPERI#ARAMAIC.ALEPH
  dBETHdGIMELdDALETHdHEdWAWdZAYINdHETHdTETHdYODHdKAPHdLAMEDHdMEMdNUNdSAMEKHdAYINdPEdSADHEdQOPHdRESH
  dSHINdTAW=10857cSECTION$cNUMBER ONEdTWOdTHREEdTENdTWENTYdONE HUNDREDeTHOUSANDdTEN THOUSAND
  aPALMYRENE.ALEPHcBETHcGIMELcDALETHcHEcWAWcZAYINcHETHcTETHcYODHcKAPHcLAMEDHcMEMc]NUNcNUNcSAMEKH
  cAYINcPEcSADHEcQOPHcRESHcSHINcTAWbLEFT-POINTING FLEURONbRIGHT-POINTING FLEURONbNUMBER ONEcTWO
  cTHREEcFOURcFIVEcTENcTWENTYaNABATAEAN.]ALEPHcALEPHc]BETHcBETHcGIMELcDALETHc]HEcHEcWAWcZAYINcHETH
  cTETHc]YODHcYODHc]KAPHcKAPHc]LAMEDHcLAMEDHc]MEMcMEMc]NUNcNUNcSAMEKHcAYINcPEcSADHEcQOPHcRESHc]SHIN
  cSHINcTAW=108A7bNUMBER ONEcTWOcTHREEcFOURbCRUCIFORM NUMBER FOURbNUMBER FIVEcTENcTWENTYcONE HUNDRED
  =108E0aHATRAN.ALEPHcBETHcGIMELcDALETH-RESHcHEcWAWcZAYNcHETHcTETHcYODHcKAPHcLAMEDHcMEMcNUNcSAMEKH
  cAYNcPEcSADHEcQOPH=108F4cSHINcTAW=108FBbNUMBER ONEcFIVEcTENcTWENTYcONE HUNDREDaPHOENICIAN.ALFcBET
  cGAMLcDELTcHEcWAUcZAIcHETcTETcYODcKAFcLAMDcMEMcNUNcSEMKcAINcPEcSADEcQOFcROSHcSHINcTAUbNUMBER ONE
  cTENcTWENTYcONE HUNDREDcTWOcTHREE=1091FbWORD SEPARATORaLYDIAN.A*1cGcD*1cVcIcYcK*4cRcSScT*1cFcQcS
  cTTcANcENcLYcNNcC=1093FbTRIANGULAR MARK=10980aMEROITIC HIEROGLYPHIC.AdEdIdOdYAdWAdBAdBA-2dPAdMAdNA
  dNA-2dNEdNE-2dRAdRA-2dLAdKHAdHHAdSAdSA-2dSEdKAdQAdTAdTA-2dTEdTE-2dTOdDAc?VIDJdVIDJ-2bCURSIVE.AdEdI
  dOdYAdWAdBAdPAdMAdNAdNEdRAdLAdKHAdHHAdSAdARCHAIC SAdSEdKAdQAdTAdTEdTOdDA=109BC
  cFRACTION ELEVEN TWELFTHSdONE HALFcLOGOGRAM RMTdIMNcNUMBER ONEdTWOdTHREEdFOURdFIVEdSIXdSEVENdEIGHT
  dNINEdTENdTWENTYdTHIRTYdFORTYdFIFTYdSIXTYdSEVENTY=109D2dONE HUNDREDdTWO HUNDREDdTHREE HUNDRED
  dFOUR HUNDREDdFIVE HUNDREDdSIX HUNDREDdSEVEN HUNDREDdEIGHT HUNDREDdNINE HUNDREDdONE THOUSAND
  dTWO THOUSANDdTHREE THOUSANDdFOUR THOUSANDdFIVE THOUSANDdSIX THOUSANDdSEVEN THOUSAND
  dEIGHT THOUSANDdNINE THOUSANDdTEN THOUSANDdTWENTY THOUSANDdTHIRTY THOUSANDdFORTY THOUSAND
  dFIFTY THOUSANDdSIXTY THOUSANDdSEVENTY THOUSANDdEIGHTY THOUSANDdNINETY THOUSAND
  dONE HUNDRED THOUSANDdTWO HUNDRED THOUSANDdTHREE HUNDRED THOUSANDdFOUR HUNDRED THOUSAND
  dFIVE HUNDRED THOUSANDdSIX HUNDRED THOUSANDdSEVEN HUNDRED THOUSANDdEIGHT HUNDRED THOUSAND
  dNINE HUNDRED THOUSANDcFRACTION ONE TWELFTHdTWO TWELFTHSdTHREE TWELFTHSdFOUR TWELFTHS
  dFIVE TWELFTHSdSIX TWELFTHSdSEVEN TWELFTHSdEIGHT TWELFTHSdNINE TWELFTHSdTEN TWELFTHSaKHAROSHTHI.A
  bVOWEL$IdUdVOCALIC R=10A05dEdO=10A0CcLENGTH MARKb$:RING_cANUSVARAcVISARGAb.KAcKHAcGAcGHA=10A15cCA
  cCHAcJA=10A19cNYAcTTAcTTHAcDDAcDDHAcNNAcTAcTHAcDAcDHAcNAcPAcPHAcBAcBHAcMAcYAcRAcLAcVAcSHAcSSAcSA
  cZAcHAcKKAcTTTHAcTTTAcVHA=10A38b$BAR^cCAUDAcDOT_=10A3FbVIRAMAbDIGIT ONEcTWOcTHREEcFOURbNUMBER TEN
  cTWENTYcONE HUNDREDdTHOUSANDbFRACTION ONE HALF=10A50bPUNCTUATION DOTc,CIRCLEcCIRCLEcCRESCENT BAR
  cMANGALAMcLOTUScDANDAc:DANDAcLINES=10A60aOLD SOUTH ARABIAN.HEeLAMEDHeHETHeMEMeQOPHeWAWeSHINeRESH
  eBETHeTAWeSATeKAPHeNUNeKHETHeSADHEeSAMEKHeFEeALEFeAYNeDHADHEeGIMELeDALETHeGHAYNeTETHeZAYNeDHALETH
  eYODHeTHAWeTHETHdNUMBER ONEeFIFTYdNUMERIC INDICATORbNORTH ARABIAN.HEHeLAMeHAHeMEEMeQAFeWAWeES-2
  eREHeBEHeTEHeES-1eKAFeNOONeKHAHeSADeES-3eFEHeALEFeAINeDADeGEEMeD#eGHAINeTAHeZAINeTH#eYEHeTHEHeZAH
  dNUMBER ONEeTENeTWENTY=10AC0aMANICHAEAN.ALEPHcBETHcBHETHcGIMELcGHIMELcDALETHcHEcWAWb$UDb.ZAYIN
  cZHAYINcJAYINcJHAYINcHETHcTETHcYODHcKAPHcXAPHcKHAPHcLAMEDHcDHAMEDHcTHAMEDHcMEMcNUNcSAMEKHcAYIN
  cAAYINcPEcFEcSADHEcQOPHcXOPHcQHOPHcRESHcSHINcSSHINcTAWbABBREVIATION MARK^d_=10AEBbNUMBER ONEcFIVE
  cTENcTWENTYcONE HUNDREDbPUNCTUATION STARcFLEURONc:DOT WITHIN DOTcDOT WITHIN DOTcDOTcTWO DOTS
  cLINE FILLER=10B00aAVESTAN.AcAAcAOcAAOcANcAANcAEcAEEcEcEEcOcOOcIcIIcUcUUcKEcXEcXYEcXVEcGEcGGEcGHE
  cCEcJEcTEcTHEcDEcDHEcTTEcPEcFEcBEcBHEcNGEcNGYEcNGVEcNEcNYEcNNEcMEcHMEcYYEcYEcVEcREcLEcSEcZEcSHE
  cZHEcSHYEcSSHEcHE=10B39bABBREVIATION MARKaTINY TWO DOTS OVER ONE DOT PUNCTUATION
  a,TWO DOTS OVER ONE DOT PUNCTUATIONaLARGE TWO DOTS OVER ONE DOT PUNCTUATION
  bONE DOT OVER TWO DOTS PUNCTUATIONbTWO RINGS OVER ONE RING PUNCTUATION
  bONE RING OVER TWO RINGS PUNCTUATIONaINSCRIPTION#PARTHIAN.ALEPHdBETHdGIMELdDALETHdHEdWAWdZAYIN
  dHETHdTETHdYODHdKAPHdLAMEDHdMEMdNUNdSAMEKHdAYINdPEdSADHEdQOPHdRESHdSHINdTAW=10B58cNUMBER ONEdTWO
  dTHREEdFOURdTENdTWENTYdONE HUNDREDeTHOUSANDbPAHLAVI.ALEPHdBETHdGIMELdDALETHdHEdWAW-AYIN-RESHdZAYIN
  dHETHdTETHdYODHdKAPHdLAMEDHdMEM-QOPHdNUNdSAMEKHdPEdSADHEdSHINdTAW=10B78cNUMBER ONEdTWOdTHREEdFOUR
  dTENdTWENTYdONE HUNDREDeTHOUSANDaPSALTER PAHLAVI.ALEPHdBETHdGIMELdDALETHdHEdWAW-AYIN-RESHdZAYIN
  dHETHdYODHdKAPHdLAMEDHdMEM-QOPHdNUNdSAMEKHdPEdSADHEdSHINdTAW=10B99cSECTION MARK
  cTURNED SECTION MARKcFOUR DOTS&CROSSfDOT=10BA9cNUMBER ONEdTWOdTHREEdFOURdTENdTWENTYdONE HUNDRED
  =10C00aOLD TURKIC.ORKHON AdYENISEI AeAEdORKHON IdYENISEI IeEdORKHON OeOEdYENISEI OEdORKHON AB
  dYENISEI ABdORKHON AEBdYENISEI AEBdORKHON AGdYENISEI AGdORKHON AEGdYENISEI AEGdORKHON AD
  dYENISEI ADdORKHON AEDeEZdYENISEI EZdORKHON AYdYENISEI AYdORKHON AEYdYENISEI AEYdORKHON AEK
  dYENISEI AEKdORKHON OEKdYENISEI OEKdORKHON ALdYENISEI ALdORKHON AELeELTeEMeANeAENdYENISEI AEN
  dORKHON ENTdYENISEI ENTdORKHON ENCdYENISEI ENCdORKHON ENYdYENISEI ENYeANGdORKHON ENGdYENISEI AENG
  dORKHON EPeOPeICeECdYENISEI ECdORKHON AQdYENISEI AQdORKHON IQdYENISEI IQdORKHON OQdYENISEI OQ
  dORKHON ARdYENISEI ARdORKHON AEReASeAESeASHdYENISEI ASHdORKHON ESHdYENISEI ESHdORKHON AT
  dYENISEI ATdORKHON AETdYENISEI AETdORKHON OTeBASH=10C80bHUNGARIAN!.AeAAeEBeAMBeECeENCeECSeEDe+eE
  eCLOSE EeEE*2eEGYeEHeIeIIeEJ*1eAKeUNKeELeELYeEM*1eENYeOeOOeNIKOLSBURG OEeRUDIMENTA OEeOEEeEPeEMP
  eEReSHORT EReESeESZeETeENTeETYeECHeUeUUeNIKOLSBURG UEeRUDIMENTA UEeEVeEZeEZSeENT-SHAPED$eUS=10CC0
  c,.AeAAeEBeAMBeECeENCeECSeEDe+eEeCLOSE EeEE*2eEGYeEHeIeIIeEJ*1eAKeUNKeELeELYeEM*1eENYeOeOO
  eNIKOLSBURG OEeRUDIMENTA OEeOEEeEPeEMPeEReSHORT EReESeESZeETeENTeETYeECHeUeUUeNIKOLSBURG UE
  eRUDIMENTA UEeEVeEZeEZSeENT-SHAPED$eUS=10CFAcNUMBER ONEdFIVEdTENdFIFTYdONE HUNDREDeTHOUSAND
  aHANIFI ROHINGYA.AdBAdPAdTAdTTAdJAdCAdHAdKHAdFAdDAdDDAdRAdRRAdZAdSAdSHAdKAdGAdLAdMAdNAdWAdKINNA WA
  dYAdKINNA YAdNGAdNYAdVAcVOWEL AdIdUdEdOcMARK SAKINdNA KHONNAc$HARBAHAYdTAHALAdTANAdTASSI=10D30
  cDIGIT ZEROdONEdTWOdTHREEdFOURdFIVEdSIXdSEVENdEIGHTdNINE=10E60aRUMI DIGIT ONEcTWOcTHREEcFOURcFIVE
  cSIXcSEVENcEIGHTcNINEbNUMBER TENcTWENTYcTHIRTYcFORTYcFIFTYcSIXTYcSEVENTYcEIGHTYcNINETYcONE HUNDRED
  cTWO HUNDREDcTHREE HUNDREDcFOUR HUNDREDcFIVE HUNDREDcSIX HUNDREDcSEVEN HUNDREDcEIGHT HUNDRED
  cNINE HUNDREDbFRACTION ONE HALFdQUARTERdTHIRDcTWO THIRDS=10E80aYEZIDI.ELIFcBEcPEcPHEcTHEcSEcCIM
  cCHIMcCHHIMcHHAcXAcD#cZ#cRAcRHAcZAcJAcSINcSHINcSADcDADcTAcZEcEYNcXHEYNcFAcVAdALTERNATE%cQAFcKAF
  cKHAFcGAFcLAMcMIMcNUNcUMcWAWcOWcEWcHAYcYOTcET=10EABbCOMBINING HAMZA MARKcMADDA MARK
  bHYPHENATION MARK=10EB0b.LAM&DOT^cYOT&CIRCUMFLEX^=10F00aOLD SOGDIAN.ALEPHd]ALEPHdBETHd]BETHdGIMEL
  dHEd]HEdWAWdZAYINdHETHdYODHdKAPHdLAMEDHdMEMdNUNd]NUNf&|TAILdSAMEKHdAYINdALTERNATE AYINdPEdSADHE
  d]SADHEf&|TAILdRESH-AYIN-DALETHdSHINdTAWd]TAWf&|TAILcNUMBER ONEdTWOdTHREEdFOURdFIVEdTENdTWENTY
  dTHIRTYdONE HUNDREDcFRACTION ONE HALFcLIGATURE AYIN-DALETH=10F30aSOGDIAN.ALEPHcBETHcGIMELcHEcWAW
  cZAYINcHETHcYODHcKAPHcLAMEDHcMEMcNUNcSAMEKHcAYINcPEcSADHEcRESH-AYINcSHINcTAWcFETHcLESH
  bINDEPENDENT SHINbCOMBINING DOT_cTWO DOTS_cDOT^cTWO DOTS^cCURVE^d_cHOOK^d_cLONG HOOK_cRESH_
  cSTROKE_bNUMBER ONEcTENcTWENTYcONE HUNDREDbPUNCTUATION TWO|BARSf&DOTScCIRCLE&DOTcTWO CIRCLES&DOTS
  cHALF CIRCLE&DOT=10F70aOLD UYGHUR.ALEPHdBETHdGIMEL-HETHdWAWdZAYINd]HETHdYODHdKAPHdLAMEDHdMEMdNUN
  dSAMEKHdPEdSADHEdRESHdSHINdTAWdLESHcCOMBINING DOT^e_dTWO DOTS^f_cPUNCTUATION BARdTWO BARSeDOTS
  dFOUR DOTS=10FB0aCHORASMIAN.ALEPHc,ALEPHcBETHcGIMELcDALETHcHEcWAWcCURLED WAWcZAYINcHETHcYODHcKAPH
  cLAMEDHcMEMcNUNcSAMEKHcAYINcPEcRESHcSHINcTAWbNUMBER ONEcTWOcTHREEcFOURcTENcTWENTYcONE HUNDRED
  =10FE0aELYMAIC.ALEPHcBETHcGIMELcDALETHcHEcWAWcZAYINcHETHcTETHcYODHcKAPHcLAMEDHcMEMcNUNcSAMEKHcAYIN
  cPEcSADHEcQOPHcRESHcSHINcTAWbLIGATURE ZAYIN-YODH=11000aBRAHMI$CANDRABINDUcANUSVARAcVISARGA
  cJIHVAMULIYAcUPADHMANIYAb.AcAAcIcIIcUcUUcVOCALIC RdRRdLdLLcEcAIcOcAUcKAcKHAcGAcGHAcNGAcCAcCHAcJA
  cJHAcNYAcTTAcTTHAcDDAcDDHAcNNAcTAcTHAcDAcDHAcNAcPAcPHAcBAcBHAcMAcYAcRAcLAcVAcSHAcSSAcSAcHAcLLA
  cOLD TAMIL LLLAeRRAeNNNAbVOWEL$AAdBHATTIPROLU AAdIdIIdUdUUdVOCALIC ReRReLeLLdEdAIdOdAUbVIRAMA
  bDANDAb:DANDAbPUNCTUATION DOTc:DOTcLINEcCRESCENT BARcLOTUS=11052bNUMBER ONEcTWOcTHREEcFOURcFIVE
  cSIXcSEVENcEIGHTcNINEcTENcTWENTYcTHIRTYcFORTYcFIFTYcSIXTYcSEVENTYcEIGHTYcNINETYcONE HUNDRED
  dTHOUSANDbDIGIT ZEROcONEcTWOcTHREEcFOURcFIVEcSIXcSEVENcEIGHTcNINEb$OLD TAMIL VIRAMA
  b.OLD TAMIL SHORT EfObVOWEL$OLD TAMIL SHORT EgOb.OLD TAMIL LLA=1107FbNUMBER JOINER
  aKAITHI$CANDRABINDUcANUSVARAcVISARGAb.AcAAcIcIIcUcUUcEcAIcOcAUcKAcKHAcGAcGHAcNGAcCAcCHAcJAcJHAcNYA
  cTTAcTTHAcDDAcDDDHAcDDHAcRHAcNNAcTAcTHAcDAcDHAcNAcPAcPHAcBAcBHAcMAcYAcRAcLAcVAcSHAcSSAcSAcHA
  bVOWEL$AAdIdIIdUdUUdEdAIdOdAUb$VIRAMAcNUKTAbABBREVIATION$bENUMERATION$bNUMBER$bSECTION MARK
  b:SECTION MARKbDANDAb:DANDAbVOWEL$VOCALIC R=110CDbNUMBER$^=110D0aSORA SOMPENG.SAHdTAHdBAHdCAHdDAH
  dGAHdMAHdNGAHdLAHdNAHdVAHdPAHdYAHdRAHdHAHdKAHdJAHdNYAHdAHdEEHdIHdUHdOHdEHdMAE=110F0cDIGIT ZEROdONE
  dTWOdTHREEdFOURdFIVEdSIXdSEVENdEIGHTdNINE=11100aCHAKMA$CANDRABINDUcANUSVARAcVISARGAb.AAcIcUcEcKAA
  cKHAAcGAAcGHAAcNGAAcCAAcCHAAcJAAcJHAAcNYAAcTTAAcTTHAAcDDAAcDDHAAcNNAAcTAAcTHAAcDAAcDHAAcNAAcPAA
  cPHAAcBAAcBHAAcMAAcYYAAcYAAcRAAcLAAcWAAcSAAcHAAbVOWEL$AdIdIIdUdUUdEdAIdOdAUdOIbO MARKbAU MARK
  bVIRAMAbMAAYYAA=11136bDIGIT ZEROcONEcTWOcTHREEcFOURcFIVEcSIXcSEVENcEIGHTcNINEbSECTION MARKbDANDA
  b:DANDAbQUESTION MARKb.LHAAbVOWEL$AAdEIb.VAA=11150aMAHAJANI.AcIcUcEcOcKAcKHAcGAcGHAcCAcCHAcJAcJHA
  cNYAcTTAcTTHAcDDAcDDHAcNNAcTAcTHAcDAcDHAcNAcPAcPHAcBAcBHAcMAcRAcLAcVAcSAcHAcRRAb$NUKTA
  bABBREVIATION$bSECTION MARKbLIGATURE SHRI=11180aSHARADA$CANDRABINDUcANUSVARAcVISARGAb.AcAAcIcIIcU
  cUUcVOCALIC RdRRdLdLLcEcAIcOcAUcKAcKHAcGAcGHAcNGAcCAcCHAcJAcJHAcNYAcTTAcTTHAcDDAcDDHAcNNAcTAcTHA
  cDAcDHAcNAcPAcPHAcBAcBHAcMAcYAcRAcLAcLLAcVAcSHAcSSAcSAcHAbVOWEL$AAdIdIIdUdUUdVOCALIC ReRReLeLLdE
  dAIdOdAUb$VIRAMAcAVAGRAHAcJIHVAMULIYAcUPADHMANIYAbOMbDANDAb:DANDAbABBREVIATION$bSEPARATOR
  bSANDHI MARKb$NUKTAbVOWEL MODIFIER MARKbEXTRA SHORT VOWEL MARKbSUTRA MARKbVOWEL$PRISHTHAMATRA E
  b$INVERTED CANDRABINDUbDIGIT ZEROcONEcTWOcTHREEcFOURcFIVEcSIXcSEVENcEIGHTcNINEbEKAMb$SIDDHAM
  bHEADSTROKEbCONTINUATION$bSECTION MARK-1*1=111E1aSINHALA ARCHAIC DIGIT ONEdTWOdTHREEdFOURdFIVEdSIX
  dSEVENdEIGHTdNINEcNUMBER TENdTWENTYdTHIRTYdFORTYdFIFTYdSIXTYdSEVENTYdEIGHTYdNINETYdONE HUNDRED
  eTHOUSAND=11200aKHOJKI.AcAAcIcUcEcAIcOcAUcKAcKHAcGAcGGAcGHAcNGAcCAcCHAcJAcJJA=11213cNYAcTTAcTTHA
  cDDAcDDHAcNNAcTAcTHAcDAcDDDAcDHAcNAcPAcPHAcBAcBBAcBHAcMAcYAcRAcLAcVAcSAcHAcLLAbVOWEL$AAdIdIIdUdE
  dAIdOdAUb$ANUSVARAcVIRAMAcNUKTAcSHADDAbDANDAb:DANDAbWORD SEPARATORbSECTION MARKb:SECTION MARK
  bABBREVIATION$b$SUKUN=11280aMULTANI.AcIcUcEcKAcKHAcGA=11288cGHA=1128AcCAcCHAcJAcJJA=1128FcNYAcTTA
  cTTHAcDDAcDDDAcDDHAcNNAcTAcTHAcDAcDHAcNAcPAcPHAcBA=1129FcBHAcMAcYAcRAcLAcVAcSAcHAcRRAcRHA
  bSECTION MARK=112B0aKHUDAWADI.AcAAcIcIIcUcUUcEcAIcOcAUcKAcKHAcGAcGGAcGHAcNGAcCAcCHAcJAcJJAcJHAcNYA
  cTTAcTTHAcDDAcDDDAcRRAcDDHAcNNAcTAcTHAcDAcDHAcNAcPAcPHAcBAcBBAcBHAcMAcYAcRAcLAcVAcSHAcSAcHA
  b$ANUSVARAbVOWEL$AAdIdIIdUdUUdEdAIdOdAUb$NUKTAcVIRAMA=112F0bDIGIT ZEROcONEcTWOcTHREEcFOURcFIVEcSIX
  cSEVENcEIGHTcNINE=11300aGRANTHA$COMBINING ANUSVARA^cCANDRABINDUcANUSVARAcVISARGA=11305b.AcAAcIcII
  cUcUUcVOCALIC RdL=1130FcEEcAI=11313cOOcAUcKAcKHAcGAcGHAcNGAcCAcCHAcJAcJHAcNYAcTTAcTTHAcDDAcDDHA
  cNNAcTAcTHAcDAcDHAcNA=1132AcPAcPHAcBAcBHAcMAcYAcRA=11332cLAcLLA=11335cVAcSHAcSSAcSAcHA=1133B
  aCOMBINING BINDU_aGRANTHA$NUKTAcAVAGRAHAbVOWEL$AAdIdIIdUdUUdVOCALIC ReRR=11347dEEdAI=1134BdOOdAU
  b$VIRAMA=11350bOM=11357bAU LENGTH MARK=1135Db$PLUTAb.VEDIC ANUSVARAd:ANUSVARAcVOCALIC RRdLL
  bVOWEL$VOCALIC LeLL=11366aCOMBINING GRANTHA DIGIT ZEROdONEdTWOdTHREEdFOURdFIVEdSIX=11370c.AdKAdNA
  dVIdPA=11400aNEWA.AcAAcIcIIcUcUUcVOCALIC RdRRdLdLLcEcAIcOcAUcKAcKHAcGAcGHAcNGAcNGHAcCAcCHAcJAcJHA
  cNYAcNYHAcTTAcTTHAcDDAcDDHAcNNAcTAcTHAcDAcDHAcNAcNHAcPAcPHAcBAcBHAcMAcMHAcYAcRAcRHAcLAcLHAcWAcSHA
  cSSAcSAcHAbVOWEL$AAdIdIIdUdUUdVOCALIC ReRReLeLLdEdAIdOdAUb$VIRAMAcCANDRABINDUcANUSVARAcVISARGA
  cNUKTAcAVAGRAHAc]ANUSVARAbOMbSIDDHIbDANDAb:DANDAbCOMMAbGAP FILLERbABBREVIATION$bDIGIT ZEROcONEcTWO
  cTHREEcFOURcFIVEcSIXcSEVENcEIGHTcNINEb:COMMAbPLACEHOLDER MARK=1145DbINSERTION$bSANDHI MARK
  b.VEDIC ANUSVARAb$JIHVAMULIYAcUPADHMANIYA=11480aTIRHUTA ANJIb.AcAAcIcIIcUcUUcVOCALIC RdRRdLdLLcE
  cAIcOcAUcKAcKHAcGAcGHAcNGAcCAcCHAcJAcJHAcNYAcTTAcTTHAcDDAcDDHAcNNAcTAcTHAcDAcDHAcNAcPAcPHAcBAcBHA
  cMAcYAcRAcLAcVAcSHAcSSAcSAcHAbVOWEL$AAdIdIIdUdUUdVOCALIC ReRReLeLLdEdSHORT EdAIdOdSHORT OdAU
  b$CANDRABINDUcANUSVARAcVISARGAcVIRAMAcNUKTAcAVAGRAHAbGVANGbABBREVIATION$bOM=114D0bDIGIT ZEROcONE
  cTWOcTHREEcFOURcFIVEcSIXcSEVENcEIGHTcNINE=11580aSIDDHAM.AcAAcIcIIcUcUUcVOCALIC RdRRdLdLLcEcAIcOcAU
  cKAcKHAcGAcGHAcNGAcCAcCHAcJAcJHAcNYAcTTAcTTHAcDDAcDDHAcNNAcTAcTHAcDAcDHAcNAcPAcPHAcBAcBHAcMAcYAcRA
  cLAcVAcSHAcSSAcSAcHAbVOWEL$AAdIdIIdUdUUdVOCALIC ReRR=115B8dEdAIdOdAUb$CANDRABINDUcANUSVARAcVISARGA
  cVIRAMAcNUKTAcSIDDHAMbDANDAb:DANDAbSEPARATOR DOTcBARbREPETITION MARK-1*2bEND OF TEXT MARK
  bSECTION MARK&TRIDENT+U-SHAPED ORNAMENTSgDOTTED CRESCENTSeRAYS+DOTTED CRESCENTSh:CRESCENTS
  hTRIPLE CRESCENTSd:RINGf&RAYSd&:CRESCENTSeTRIPLE CRESCENTSeQUADRUPLE CRESCENTSeSEPTUPLE CRESCENTS
  eCIRCLES+RAYSgTWO ENCLOSURESgFOUR ENCLOSURESb.THREE-CIRCLE ALTERNATE IcTWO-CIRCLE ALTERNATE IeII
  cALTERNATE UbVOWEL$ALTERNATE UeUU=11600aMODI.AcAAcIcIIcUcUUcVOCALIC RdRRdLdLLcEcAIcOcAUcKAcKHAcGA
  cGHAcNGAcCAcCHAcJAcJHAcNYAcTTAcTTHAcDDAcDDHAcNNAcTAcTHAcDAcDHAcNAcPAcPHAcBAcBHAcMAcYAcRAcLAcVAcSHA
  cSSAcSAcHAcLLAbVOWEL$AAdIdIIdUdUUdVOCALIC ReRReLeLLdEdAIdOdAUb$ANUSVARAcVISARGAcVIRAMAcARDHACANDRA
  bDANDAb:DANDAbABBREVIATION$b$HUVA=11650bDIGIT ZEROcONEcTWOcTHREEcFOURcFIVEcSIXcSEVENcEIGHTcNINE
  =11660aMONGOLIAN BIRGA&ORNAMENTbROTATED BIRGAb:BIRGA&ORNAMENTbTRIPLE BIRGA&ORNAMENT
  bBIRGA&:ORNAMENTbROTATED BIRGA&ORNAMENTe:ORNAMENTbINVERTED BIRGAd&:ORNAMENTbSWIRL BIRGAd&ORNAMENT
  e:ORNAMENTbTURNED SWIRL BIRGA&:ORNAMENT=11680aTAKRI.AcAAcIcIIcUcUUcEcAIcOcAUcKAcKHAcGAcGHAcNGAcCA
  cCHAcJAcJHAcNYAcTTAcTTHAcDDAcDDHAcNNAcTAcTHAcDAcDHAcNAcPAcPHAcBAcBHAcMAcYAcRAcLAcVAcSHAcSAcHAcRRA
  b$ANUSVARAcVISARGAbVOWEL$AAdIdIIdUdUUdEdAIdOdAUb$VIRAMAcNUKTAb.ARCHAIC KHAbABBREVIATION$=116C0
  bDIGIT ZEROcONEcTWOcTHREEcFOURcFIVEcSIXcSEVENcEIGHTcNINE=11700aAHOM.KAcKHAcNGAcNAcTAcALTERNATE TA
  cPAcPHAcBAcMAcJAcCHAcTHAcRAcLAcSAcNYAcHAcAcDAcDHAcGAcALTERNATE GAcGHAcBHAcJHAcALTERNATE BA=1171D
  bCONSONANT$MEDI#LAeRAeLIGATING RAbVOWEL$AdAAdIdIIdUdUUdEdAWdOdAIdAMb$KILLER=11730bDIGIT ZEROcONE
  cTWOcTHREEcFOURcFIVEcSIXcSEVENcEIGHTcNINEbNUMBER TENcTWENTYb$,SECTIONcSECTIONcRULAIb?VIb.CAcTTA
  cTTHAcDDAcDDHAcNNAcLLA=11800aDOGRA.AcAAcIcIIcUcUUcEcAIcOcAUcKAcKHAcGAcGHAcNGAcCAcCHAcJAcJHAcNYA
  cTTAcTTHAcDDAcDDHAcNNAcTAcTHAcDAcDHAcNAcPAcPHAcBAcBHAcMAcYAcRAcLAcVAcSHAcSSAcSAcHAcRRAbVOWEL$AAdI
  dIIdUdUUdVOCALIC ReRRdEdAIdOdAUb$ANUSVARAcVISARGAcVIRAMAcNUKTAbABBREVIATION$=118A0
  aWARANG CITI!.NGAAeAeWIeYUeYAeYOeIIeUUeEeOeANGeGAeKOeENYeYUJeUCeENNeODDeTTEeNUNGeDAeATeAMeBUePU
  eHIYOeHOLOeHORReHAReSSUUeSIIeVIYOc,.NGAAeAeWIeYUeYAeYOeIIeUUeEeOeANGeGAeKOeENYeYUJeUCeENNeODDeTTE
  eNUNGeDAeATeAMeBUePUeHIYOeHOLOeHORReHAReSSUUeSIIeVIYOcDIGIT ZEROdONEdTWOdTHREEdFOURdFIVEdSIXdSEVEN
  dEIGHTdNINEcNUMBER TENdTWENTYdTHIRTYdFORTYdFIFTYdSIXTYdSEVENTYdEIGHTYdNINETY=118FFcOM
  aDIVES AKURU.AdAAdIdIIdUdUUdE=11909dO=1190CdKAdKHAdGAdGHAdNGAdCAdCHAdJA=11915dNYAdTTA=11918dDDA
  dDDHAdNNAdTAdTHAdDAdDHAdNAdPAdPHAdBAdBHAdMAdYAdYYAdRAdLAdVAdSHAdSSAdSAdHAdLLAdZAcVOWEL$AAeIeIIeU
  eUUeE=11937eAIeO=1193Bc$ANUSVARAdCANDRABINDUdHALANTAcVIRAMAcPREFIXED NAS#$cMEDI#YAc[RAcMEDI#RA
  c$NUKTAc:DANDAcGAP FILLERcEND OF TEXT MARK=11950cDIGIT ZEROdONEdTWOdTHREEdFOURdFIVEdSIXdSEVEN
  dEIGHTdNINE=119A0aNANDINAGARI.AcAAcIcIIcUcUUcVOCALIC RdRR=119AAcEcAIcOcAUcKAcKHAcGAcGHAcNGAcCAcCHA
  cJAcJHAcNYAcTTAcTTHAcDDAcDDHAcNNAcTAcTHAcDAcDHAcNAcPAcPHAcBAcBHAcMAcYAcRAcLAcVAcSHAcSSAcSAcHAcLLA
  cRRAbVOWEL$AAdIdIIdUdUUdVOCALIC ReRR=119DAdEdAIdOdAUb$ANUSVARAcVISARGAcVIRAMAcAVAGRAHAcSIDDHAM
  bHEADSTROKEbVOWEL$PRISHTHAMATRA E=11A00aZANABAZAR SQUARE.AcVOWEL$IeUEeUeEeOEeOeAIeAUeREVERSED I
  dLENGTH MARKc.KAdKHAdGAdGHAdNGAdCAdCHAdJAdNYAdTTAdTTHAdDDAdDDHAdNNAdTAdTHAdDAdDHAdNAdPAdPHAdBAdBHA
  dMAdTSAdTSHAdDZAdDZHAdZHAdZAd-AdYAdRAdLAdVAdSHAdSSAdSAdHAdKSSAc]CONSONANT MARKc$VIRAMAdCANDRABINDU
  e&ORNAMENTdCANDRA&ORNAMENTdANUSVARAdVISARGAcCLUSTER-INITI#.RAcCLUSTER-FIN#.YAeRAeLAeVAc[HEAD MARK
  cCLOSING HEAD MARKcMARK TSHEGdSHADd:SHADdLONG TSHEGc[DOUBLE-LINED HEAD MARK
  cCLOSING DOUBLE-LINED HEAD MARKcSUBJOINER=11A50aSOYOMBO.AbVOWEL$IdUEdUdEdOdOEdAIdAUdVOCALIC ReL
  cLENGTH MARKb.KAcKHAcGAcGHAcNGAcCAcCHAcJAcJHAcNYAcTTAcTTHAcDDAcDDHAcNNAcTAcTHAcDAcDHAcNAcPAcPHAcBA
  cBHAcMAcTSAcTSHAcDZAcZHAcZAc-AcYAcRAcLAcVAcSHAcSSAcSAcHAcKSSAb$JIHVAMULIYAcUPADHMANIYA
  bCLUSTER-INITI#.RAdLAdSHAdSAb]CONSONANT$GeKeNGeDeNeBeMeReLeSHeSe-Ab$ANUSVARAcVISARGA
  bGEMINATION MARKbSUBJOINERbMARK TSHEGcSHADc:SHADcPLUTAbHEAD MARK&MOON+SUN+TRIPLE FLAMEiFLAMEgSUN
  bTERMIN#MARK-1*1=11AB0aCANADIAN SYLLABICS NATTILIK HIdHIIdHOdHOOdHAdHAAdSHRIdSHRIIdSHROdSHROOdSHRA
  dSHRAAcSPEcSPIcSPOcSPAaPAU CIN HAU.PAeKAeLAeMAeDAeZAeVAeNGAeHAeGAeKHAeSAeBAeCAeTAeTHAeNAePHAeRAeFA
  eCHAeAeEeIeOeUeUAeIAe]PfKfTfM*1fLfWfNGfYdRISING TONE LONGeTONEdSANDHI GLOTT#STOPdRISING TONE LONG]
  f]dSANDHI GLOTT#STOP]eTONE LONGeTONEfLONG]f]dMID-LEVEL TONEdGLOTT#STOP VARIANT
  dMID-LEVEL TONE LONG]f]dLOW-FALLING TONE LONGeTONEdGLOTT#STOPdLOW-FALLING TONE LONG]f]dGLOTT#STOP]
  =11C00aBHAIKSUKI.AcAAcIcIIcUcUUcVOCALIC RdRRdL=11C0AcEcAIcOcAUcKAcKHAcGAcGHAcNGAcCAcCHAcJAcJHAcNYA
  cTTAcTTHAcDDAcDDHAcNNAcTAcTHAcDAcDHAcNAcPAcPHAcBAcBHAcMAcYAcRAcLAcVAcSHAcSSAcSAcHAbVOWEL$AAdIdIIdU
  dUUdVOCALIC ReRReL=11C38dEdAIdOdAUb$CANDRABINDUcANUSVARAcVISARGAcVIRAMAcAVAGRAHAbDANDAb:DANDA
  bWORD SEPARATORbGAP FILLER-1*1=11C50bDIGIT ZEROcONEcTWOcTHREEcFOURcFIVEcSIXcSEVENcEIGHTcNINE
  bNUMBER ONEcTWOcTHREEcFOURcFIVEcSIXcSEVENcEIGHTcNINEcTENcTWENTYcTHIRTYcFORTYcFIFTYcSIXTYcSEVENTY
  cEIGHTYcNINETYbHUNDREDS UNIT MARK=11C70aMARCHEN HEAD MARKbMARK SHADb.KAcKHAcGAcNGAcCAcCHAcJAcNYA
  cTAcTHAcDAcNAcPAcPHAcBAcMAcTSAcTSHAcDZAcWAcZHAcZAc-AcYAcRAcLAcSHAcSAcHAcA=11C92bSUBJOINED.KAdKHA
  dGAdNGAdCAdCHAdJAdNYAdTAdTHAdDAdNAdPAdPHAdBAdMAdTSAdTSHAdDZAdWAdZHAdZA=11CA9dYAdRAdLAdSHAdSAdHAdA
  bVOWEL$AAdIdUdEdOb$ANUSVARAcCANDRABINDU=11D00aMASARAM GONDI.AdAAdIdIIdUdUUdE=11D08dAIdO=11D0BdAU
  dKAdKHAdGAdGHAdNGAdCAdCHAdJAdJHAdNYAdTTAdTTHAdDDAdDDHAdNNAdTAdTHAdDAdDHAdNAdPAdPHAdBAdBHAdMAdYAdRA
  dLAdVAdSHAdSSAdSAdHAdLLAdKSSAdJNYAdTRAcVOWEL$AAeIeIIeUeUUeVOCALIC R=11D3AeE=11D3CeAIeO=11D3FeAU
  c$ANUSVARAdVISARGAdNUKTAdCANDRAdHALANTAcVIRAMAcREPHAcRA-KARA=11D50cDIGIT ZEROdONEdTWOdTHREEdFOUR
  dFIVEdSIXdSEVENdEIGHTdNINE=11D60aGUNJALA GONDI.AdAAdIdIIdUdUU=11D67dEEdAI=11D6AdOOdAUdYAdVAdBAdBHA
  dMAdKAdKHAdTAdTHAdLAdGAdGHAdDAdDHAdNAdCAdCHAdTTAdTTHAdLLAdJAdJHAdDDAdDDHAdNGAdPAdPHAdHAdRAdSA
  cVOWEL$AAeIeIIeUeUU=11D90eEEeAI=11D93eOOeAUc$ANUSVARAdVISARGAcVIRAMAcOM=11DA0cDIGIT ZEROdONEdTWO
  dTHREEdFOURdFIVEdSIXdSEVENdEIGHTdNINE=11EE0aMAKASAR.KAcGAcNGAcPAcBAcMAcTAcDAcNAcCAcJAcNYAcYAcRAcLA
  cVAcSAcAbANGKAbVOWEL$IdUdEdObPASSIMBANGbEND OF SECTION=11FB0aLISU.YHA=11FC0
  aTAMIL FRACTION ONE THREE-HUNDRED-AND-TWENTIETHdONE-HUNDRED-AND-SIXTIETHdEIGHTIETHdSIXTY-FOURTH
  dFORTIETHdTHIRTY-SECONDcTHREE EIGHTIETHSdSIXTY-FOURTHScONE TWENTIETHdSIXTEENTH-1*1dTENTHdEIGHTH
  cTHREE TWENTIETHSdSIXTEENTHScONE FIFTHdQUARTERdHALF-1*1cTHREE QUARTERScDOWNSCALING FACTOR KIIZH
  b$NELcCEVITUcAAZHAAKKUcUZHAKKUcMUUVUZHAKKUcKURUNIcPATHAKKUcMUKKURUNIcKAACUcPANAMcPONcVARAAKAN
  cPAARAMcKUZHIcVELIbWET CULTIVATION$bDRY CULTIVATION$bLAND$bSALT PAN$bTRADITION#CREDIT$cNUMBER$
  bCURRENT$b+ODD$bSPENT$bTOT#$bIN POSSESSION$bSTARTING FROM$b$MUTHALIYAcVAKAIYARAA=11FFF
  bPUNCTUATION END OF TEXT"

end CaseDict.Text.CharacterName
