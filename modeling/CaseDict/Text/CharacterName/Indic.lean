import CaseDict.Text.CharacterName.Listing
/-! # Names of characters of India and its neighbours -/

namespace CaseDict.Text.CharacterName

/-- Names from Devanagari to Myanmar, below U+10A0. -/
def indic : Listing :=
  "=900aDEVANAGARI$INVERTED CANDRABINDUcCANDRABINDUcANUSVARAcVISARGAb.SHORT AcAcAAcIcIIcUcUU
  cVOCALIC RdLcCANDRA EcSHORT EcEcAIcCANDRA OcSHORT OcOcAUcKAcKHAcGAcGHAcNGAcCAcCHAcJAcJHAcNYAcTTA
  cTTHAcDDAcDDHAcNNAcTAcTHAcDAcDHAcNAcNNNAcPAcPHAcBAcBHAcMAcYAcRAcRRAcLAcLLAcLLLAcVAcSHAcSSAcSAcHA
  bVOWEL$OEdOOEb$NUKTAcAVAGRAHAbVOWEL$AAdIdIIdUdUUdVOCALIC ReRRdCANDRA EdSHORT EdEdAIdCANDRA O
  dSHORT OdOdAUb$VIRAMAbVOWEL$PRISHTHAMATRA EdAWbOMbSTRESS$UDATTAdANUDATTAbGRAVE ACCENTbACUTE ACCENT
  bVOWEL$CANDRA LONG EdUEdUUEb.QAcKHHAcGHHAcZAcDDDHAcRHAcFAcYYAcVOCALIC RRdLLbVOWEL$VOCALIC LeLL
  bDANDAb:DANDAbDIGIT ZEROcONEcTWOcTHREEcFOURcFIVEcSIXcSEVENcEIGHTcNINEbABBREVIATION$
  b$HIGH SPACING DOTb.CANDRA AcOEcOOEcAWcUEcUUEcMARWARI DDAcZHAcHEAVY YAcGGAcJJAcGLOTT#STOPcDDDAcBBA
  aBENGALI ANJIb$CANDRABINDUcANUSVARAcVISARGA=985b.AcAAcIcIIcUcUUcVOCALIC RdL=98FcEcAI=993cOcAUcKA
  cKHAcGAcGHAcNGAcCAcCHAcJAcJHAcNYAcTTAcTTHAcDDAcDDHAcNNAcTAcTHAcDAcDHAcNA=9AAcPAcPHAcBAcBHAcMAcYA
  cRA=9B2cLA=9B6cSHAcSSAcSAcHA=9BCb$NUKTAcAVAGRAHAbVOWEL$AAdIdIIdUdUUdVOCALIC ReRR=9C7dEdAI=9CBdOdAU
  b$VIRAMAb.KHANDA TA=9D7bAU LENGTH MARK=9DCb.RRAcRHA=9DFcYYAcVOCALIC RRdLLbVOWEL$VOCALIC LeLL=9E6
  bDIGIT ZEROcONEcTWOcTHREEcFOURcFIVEcSIXcSEVENcEIGHTcNINEb.RA&MIDDLE DIAGON#eLOWER DIAGON#
  bRUPEE MARKc$bCURRENCY NUMERATOR ONEdTWOdTHREEdFOURdONE LESS THAN THE DENOMINATOR
  cDENOMINATOR SIXTEENbISSHARbGANDA MARKb.VEDIC ANUSVARAbABBREVIATION$bSANDHI MARK=A01
  aGURMUKHI$ADAK BINDIcBINDIcVISARGA=A05b.AcAAcIcIIcUcUU=A0FcEEcAI=A13cOOcAUcKAcKHAcGAcGHAcNGAcCA
  cCHAcJAcJHAcNYAcTTAcTTHAcDDAcDDHAcNNAcTAcTHAcDAcDHAcNA=A2AcPAcPHAcBAcBHAcMAcYAcRA=A32cLAcLLA=A35
  cVAcSHA=A38cSAcHA=A3Cb$NUKTA=A3EbVOWEL$AAdIdIIdUdUU=A47dEEdAI=A4BdOOdAUb$VIRAMA=A51cUDAAT=A59
  b.KHHAcGHHAcZAcRRA=A5EcFA=A66bDIGIT ZEROcONEcTWOcTHREEcFOURcFIVEcSIXcSEVENcEIGHTcNINEbTIPPIbADDAK
  bIRIbURAbEK ONKARb$YAKASHbABBREVIATION$=A81aGUJARATI$CANDRABINDUcANUSVARAcVISARGA=A85b.AcAAcIcIIcU
  cUUcVOCALIC RdLbVOWEL CANDRA E=A8Fb.EcAIbVOWEL CANDRA O=A93b.OcAUcKAcKHAcGAcGHAcNGAcCAcCHAcJAcJHA
  cNYAcTTAcTTHAcDDAcDDHAcNNAcTAcTHAcDAcDHAcNA=AAAcPAcPHAcBAcBHAcMAcYAcRA=AB2cLAcLLA=AB5cVAcSHAcSSA
  cSAcHA=ABCb$NUKTAcAVAGRAHAbVOWEL$AAdIdIIdUdUUdVOCALIC ReRRdCANDRA E=AC7dEdAIdCANDRA O=ACBdOdAU
  b$VIRAMA=AD0bOM=AE0b.VOCALIC RRdLLbVOWEL$VOCALIC LeLL=AE6bDIGIT ZEROcONEcTWOcTHREEcFOURcFIVEcSIX
  cSEVENcEIGHTcNINEbABBREVIATION$bRUPEE$=AF9b.ZHAb$SUKUNcSHADDAcMADDAHcTHREE-DOT NUKTA^
  cCIRCLE NUKTA^cTWO-CIRCLE NUKTA^=B01aORIYA$CANDRABINDUcANUSVARAcVISARGA=B05b.AcAAcIcIIcUcUU
  cVOCALIC RdL=B0FcEcAI=B13cOcAUcKAcKHAcGAcGHAcNGAcCAcCHAcJAcJHAcNYAcTTAcTTHAcDDAcDDHAcNNAcTAcTHAcDA
  cDHAcNA=B2AcPAcPHAcBAcBHAcMAcYAcRA=B32cLAcLLA=B35cVAcSHAcSSAcSAcHA=B3Cb$NUKTAcAVAGRAHAbVOWEL$AAdI
  dIIdUdUUdVOCALIC ReRR=B47dEdAI=B4BdOdAUb$VIRAMA=B55cOVERLINEbAI LENGTH MARKbAU LENGTH MARK=B5C
  b.RRAcRHA=B5FcYYAcVOCALIC RRdLLbVOWEL$VOCALIC LeLL=B66bDIGIT ZEROcONEcTWOcTHREEcFOURcFIVEcSIX
  cSEVENcEIGHTcNINEbISSHARb.WAbFRACTION ONE QUARTERdHALFcTHREE QUARTERScONE SIXTEENTHdEIGHTH
  cTHREE SIXTEENTHS=B82aTAMIL$ANUSVARAcVISARGA=B85b.AcAAcIcIIcUcUU=B8EcEcEEcAI=B92cOcOOcAUcKA=B99
  cNGAcCA=B9CcJA=B9EcNYAcTTA=BA3cNNAcTA=BA8cNAcNNNAcPA=BAEcMAcYAcRAcRRAcLAcLLAcLLLAcVAcSHAcSSAcSAcHA
  =BBEbVOWEL$AAdIdIIdUdUU=BC6dEdEEdAI=BCAdOdOOdAUb$VIRAMA=BD0bOM=BD7bAU LENGTH MARK=BE6bDIGIT ZERO
  cONEcTWOcTHREEcFOURcFIVEcSIXcSEVENcEIGHTcNINEbNUMBER TENcONE HUNDREDdTHOUSANDbDAY$bMONTH$bYEAR$
  bDEBIT$bCREDIT$bAS^$bRUPEE$bNUMBER$=C00aTELUGU$COMBINING CANDRABINDU^cCANDRABINDUcANUSVARAcVISARGA
  cCOMBINING ANUSVARA^b.AcAAcIcIIcUcUUcVOCALIC RdL=C0EcEcEEcAI=C12cOcOOcAUcKAcKHAcGAcGHAcNGAcCAcCHA
  cJAcJHAcNYAcTTAcTTHAcDDAcDDHAcNNAcTAcTHAcDAcDHAcNA=C2AcPAcPHAcBAcBHAcMAcYAcRAcRRAcLAcLLAcLLLAcVA
  cSHAcSSAcSAcHA=C3Cb$NUKTAcAVAGRAHAbVOWEL$AAdIdIIdUdUUdVOCALIC ReRR=C46dEdEEdAI=C4AdOdOOdAUb$VIRAMA
  =C55bLENGTH MARKbAI LENGTH MARK=C58b.TSAcDZAcRRRA=C5DcNAKAARA POLLU=C60cVOCALIC RRdLL
  bVOWEL$VOCALIC LeLL=C66bDIGIT ZEROcONEcTWOcTHREEcFOURcFIVEcSIXcSEVENcEIGHTcNINE=C77b$SIDDHAM
  bFRACTION DIGIT ZERO FOR ODD POWERS OF FOURdONE FOR ODD POWERS OF FOURdTWO FOR ODD POWERS OF FOUR
  dTHREE FOR ODD POWERS OF FOURdONE FOR EVEN POWERS OF FOURdTWO FOR EVEN POWERS OF FOUR
  dTHREE FOR EVEN POWERS OF FOURb$TUUMUaKANNADA$SPACING CANDRABINDUcCANDRABINDUcANUSVARAcVISARGA
  cSIDDHAMb.AcAAcIcIIcUcUUcVOCALIC RdL=C8EcEcEEcAI=C92cOcOOcAUcKAcKHAcGAcGHAcNGAcCAcCHAcJAcJHAcNYA
  cTTAcTTHAcDDAcDDHAcNNAcTAcTHAcDAcDHAcNA=CAAcPAcPHAcBAcBHAcMAcYAcRAcRRAcLAcLLA=CB5cVAcSHAcSSAcSAcHA
  =CBCb$NUKTAcAVAGRAHAbVOWEL$AAdIdIIdUdUUdVOCALIC ReRR=CC6dEdEEdAI=CCAdOdOOdAUb$VIRAMA=CD5
  bLENGTH MARKbAI LENGTH MARK=CDDb.NAKAARA POLLUcFA=CE0cVOCALIC RRdLLbVOWEL$VOCALIC LeLL=CE6
  bDIGIT ZEROcONEcTWOcTHREEcFOURcFIVEcSIXcSEVENcEIGHTcNINE=CF1b$JIHVAMULIYAcUPADHMANIYA=D00
  aMALAYALAM$COMBINING ANUSVARA^cCANDRABINDUcANUSVARAcVISARGAb.VEDIC ANUSVARAcAcAAcIcIIcUcUU
  cVOCALIC RdL=D0EcEcEEcAI=D12cOcOOcAUcKAcKHAcGAcGHAcNGAcCAcCHAcJAcJHAcNYAcTTAcTTHAcDDAcDDHAcNNAcTA
  cTHAcDAcDHAcNAcNNNAcPAcPHAcBAcBHAcMAcYAcRAcRRAcLAcLLAcLLLAcVAcSHAcSSAcSAcHAcTTTAb$|BAR VIRAMA
  cCIRCULAR VIRAMAcAVAGRAHAbVOWEL$AAdIdIIdUdUUdVOCALIC ReRR=D46dEdEEdAI=D4AdOdOOdAUb$VIRAMA
  b.DOT REPHb$PARA=D54b.CHILLU MdYdLLLbAU LENGTH MARKbFRACTION ONE ONE-HUNDRED-AND-SIXTIETHdFORTIETH
  cTHREE EIGHTIETHScONE TWENTIETHdTENTHcTHREE TWENTIETHScONE FIFTHb.ARCHAIC IIcVOCALIC RRdLL
  bVOWEL$VOCALIC LeLL=D66bDIGIT ZEROcONEcTWOcTHREEcFOURcFIVEcSIXcSEVENcEIGHTcNINEbNUMBER TEN
  cONE HUNDREDdTHOUSANDbFRACTION ONE QUARTERdHALFcTHREE QUARTERScONE SIXTEENTHdEIGHTH
  cTHREE SIXTEENTHSbDATE MARKb.CHILLU NNdNdRRdLdLLdK=D81aSINHALA$CANDRABINDUcANUSVARAYAcVISARGAYA
  =D85b.AYANNAcAAYANNAcAEYANNAcAEEYANNAcIYANNAcIIYANNAcUYANNAcUUYANNAcIRUYANNAcIRUUYANNAcILUYANNA
  cILUUYANNAcEYANNAcEEYANNAcAIYANNAcOYANNAcOOYANNAcAUYANNA=D9AcALPAPRAANA KAYANNA
  cMAHAAPRAANA KAYANNAcALPAPRAANA GAYANNAcMAHAAPRAANA GAYANNAcKANTAJA NAASIKYAYAcSANYAKA GAYANNA
  cALPAPRAANA CAYANNAcMAHAAPRAANA CAYANNAcALPAPRAANA JAYANNAcMAHAAPRAANA JAYANNAcTAALUJA NAASIKYAYA
  dSANYOOGA NAAKSIKYAYAcSANYAKA JAYANNAcALPAPRAANA TTAYANNAcMAHAAPRAANA TTAYANNAcALPAPRAANA DDAYANNA
  cMAHAAPRAANA DDAYANNAcMUURDHAJA NAYANNAcSANYAKA DDAYANNAcALPAPRAANA TAYANNAcMAHAAPRAANA TAYANNA
  cALPAPRAANA DAYANNAcMAHAAPRAANA DAYANNAcDANTAJA NAYANNA=DB3cSANYAKA DAYANNAcALPAPRAANA PAYANNA
  cMAHAAPRAANA PAYANNAcALPAPRAANA BAYANNAcMAHAAPRAANA BAYANNAcMAYANNAcAMBA BAYANNAcYAYANNAcRAYANNA
  =DBDcDANTAJA LAYANNA=DC0cVAYANNAcTAALUJA SAYANNAcMUURDHAJA SAYANNAcDANTAJA SAYANNAcHAYANNA
  cMUURDHAJA LAYANNAcFAYANNA=DCAb$AL-LAKUNA=DCFbVOWEL$AELA-PILLAdKETTI AEDA-PILLAdDIGA AEDA-PILLA
  dKETTI IS-PILLAdDIGA IS-PILLAdKETTI PAA-PILLA=DD6dDIGA PAA-PILLA=DD8dGAETTA-PILLAdKOMBUVA
  dDIGA KOMBUVAdKOMBU DEKAdKOMBUVA HAA AELA-PILLAfDIGA AELA-PILLAfGAYANUKITTAdGAYANUKITTA=DE6
  bLITH DIGIT ZEROdONEdTWOdTHREEdFOURdFIVEdSIXdSEVENdEIGHTdNINE=DF2bVOWEL$DIGA GAETTA-PILLA
  eGAYANUKITTAbPUNCTUATION KUNDDALIYA=E01aTHAI CHARACTER KO KAIcKHO KHAIdKHUATdKHWAIdKHONdRAKHANG
  cNGO NGUcCHO CHANdCHINGdCHANGcSO SOcCHO CHOEcYO YINGcDO CHADAcTO PATAKcTHO THANdNANGMONTHOdPHUTHAO
  cNO NENcDO DEKcTO TAOcTHO THUNGdTHAHANdTHONGcNO NUcBO BAIMAIcPO PLAcPHO PHUNGcFO FAcPHO PHAN
  cFO FANcPHO SAMPHAOcMO MAcYO YAKcRO RUAcRUcLO LINGcLUcWO WAENcSO SALAdRUSIdSUAcHO HIPcLO CHULA
  cO ANGcHO NOKHUKcPAIYANNOIcSARA AcMAI HAN-AKATcSARA AAdAMdIdIIdUEdUEEdUdUUcPHINTHU=E3F
  bCURRENCY?BAHTbCHARACTER SARA EdAEdOdAI MAIMUANeMAIMALAIcLAKKHANGYAOcMAIYAMOKcMAITAIKHUcMAI EKdTHO
  dTRIdCHATTAWAcTHANTHAKHATcNIKHAHITcYAMAKKANcFONGMANbDIGIT ZEROcONEcTWOcTHREEcFOURcFIVEcSIXcSEVEN
  cEIGHTcNINEbCHARACTER ANGKHANKHUcKHOMUT=E81aLAO.KOcKHO SUNG=E84dTAM=E86cPALI GHAcNGOcCOcPALI CHA
  cSO TAM=E8CcPALI JHAcNYOcPALI NYAdTTAdTTHAdDDAdDDHAdNNAcDOcTOcTHO SUNGdTAMcPALI DHAcNOcBOcPO
  cPHO SUNGcFO TAMcPHO TAMcFO SUNGcPALI BHAcMOcYOcLO LING=EA5dLOOT=EA7cWOcSANSKRIT SHAdSSAcSO SUNG
  cHO SUNGcPALI LLAcOcHO TAMbELLIPSISbVOWEL$AdMAI KANdAAdAMdIdIIdYdYYdUdUUb$PALI VIRAMA
  bVOWEL$MAI KONbSEMIVOWEL$LOdNYO=EC0bVOWEL$EdEIdOdAYdAI=EC6bKO LA=EC8bTONE MAI EKdTHOdTIdCATAWA
  bCANCELLATION MARKbNIGGAHITA=ED0bDIGIT ZEROcONEcTWOcTHREEcFOURcFIVEcSIXcSEVENcEIGHTcNINE=EDCbHO NO
  cMOb.KHMU GOdNYO=F00aTIBETAN SYLLABLE OMbMARK GTER YIG MGO TRUNCATED Af-UM RNAM BCAD MA
  gGTER TSHEG MAc[YIG MGO MDUN MAcCLOSING YIG MGO SGAB MAcCARET YIG MGO PHUR SHAD MA
  cYIG MGO TSHEG SHAD MAcSBRUL SHADcBSKUR YIG MGOcBKA- SHOG YIG MGOcINTERSYLLABIC TSHEG
  cDELIMITER TSHEG BSTARcSHADcNYIS SHADcTSHEG SHADcNYIS TSHEG SHADcRIN CHEN SPUNGS SHAD
  cRGYA GRAM SHADcCARET -DZUD RTAGS ME LONG CANcGTER TSHEGbLOGOTYPE$CHAD RTAGSdLHAG RTAGS
  bASTROLOGIC#$SGRA GCAN -CHAR RTAGSd-KHYUD PAdSDONG TSHUGSb$RDEL DKAR GCIGeGNYISeGSUMdNAG GCIG
  eGNYISdDKAR RDEL NAGbDIGIT ZEROcONEcTWOcTHREEcFOURcFIVEcSIXcSEVENcEIGHTcNINEcHALF ONEdTWOdTHREE
  dFOURdFIVEdSIXdSEVENdEIGHTdNINEdZERObMARK BSDUS RTAGScNGAS BZUNG NYI ZLA
  cCARET -DZUD RTAGS BZHI MIG CANcNGAS BZUNG SGOR RTAGScCHE MGOcTSA -PHRUcGUG RTAGS GYONeGYAS
  cANG KHANG GYONeGYASb$YAR TSHEScMAR TSHESb.KAcKHAcGAcGHAcNGAcCAcCHAcJA=F49cNYAcTTAcTTHAcDDAcDDHA
  cNNAcTAcTHAcDAcDHAcNAcPAcPHAcBAcBHAcMAcTSAcTSHAcDZAcDZHAcWAcZHAcZAc-AcYAcRAcLAcSHAcSSAcSAcHAcA
  cKSSAcFIXED-FORM RAcKKAcRRA=F71bVOWEL$AAdIdIIdUdUUdVOCALIC ReRReLeLLdEdEEdOdOOb$RJES SU NGA RO
  cRNAM BCADbVOWEL$REVERSED IeIIb$NYI ZLA NAA DAcSNA LDANbMARK HALANTAcPALUTAb$LCI RTAGScYANG RTAGS
  cLCE TSA CANcMCHU CANcGRU CAN RGYINGSdMED RGYINGScINVERTED MCHU CANbSUBJOINED$LCE TSA CANdMCHU CAN
  dINVERTED MCHU CANc.KAdKHAdGAdGHAdNGAdCAdCHAdJA=F99dNYAdTTAdTTHAdDDAdDDHAdNNAdTAdTHAdDAdDHAdNAdPA
  dPHAdBAdBHAdMAdTSAdTSHAdDZAdDZHAdWAdZHAdZAd-AdYAdRAdLAdSHAdSSAdSAdHAdAdKSSAdFIXED-FORM WAeYAeRA
  =FBEbKU RU KHAeBZHI MIG CANbCANTILLATION$HEAVY BEATdLIGHT BEATdCANG TE-UdSBUB -CH#b?DRIL BU
  cRDO RJEcPADMA GDANcRDO RJE RGYA GRAMcPHUR PAcNOR BUeNYIS -KHYILeGSUM -KHYILeBZHI -KHYIL=FCE
  b$RDEL NAG RDEL DKAReGSUMbMARK BSKA- SHOG GI MGO RGYANcMNYAM YIG GI MGO RGYANcNYIS TSHEG
  c[BRDA RNYING YIG MGO MDUN MAcCLOSING BRDA RNYING YIG MGO SGAB MAaRIGHT-FACING SVASTI$
  aLEFT-FACING SVASTI$aRIGHT-FACING SVASTI$&DOTSaLEFT-FACING SVASTI$&DOTS
  aTIBETAN MARK LEADING MCHAN RTAGScTRAILING MCHAN RTAGS=1000aMYANMAR.KAcKHAcGAcGHAcNGAcCAcCHAcJA
  cJHAcNYAcNNYAcTTAcTTHAcDDAcDDHAcNNAcTAcTHAcDAcDHAcNAcPAcPHAcBAcBHAcMAcYAcRAcLAcWAcSAcHAcLLAcA
  cSHAN AcIcIIcUcUUcEcMON EcOcAUbVOWEL$TALL AAdAAdIdIIdUdUUdEdAIdMON IIeOdE^b$ANUSVARAcDOT_cVISARGA
  cVIRAMAcASATbCONSONANT$MEDI#YAeRAeWAeHAb.GREAT SAbDIGIT ZEROcONEcTWOcTHREEcFOURcFIVEcSIXcSEVEN
  cEIGHTcNINEb$LITTLE SECTIONcSECTIONb?LOCATIVEcCOMPLETEDcAFOREMENTIONEDcGENITIVEb.SHAcSSAcVOCALIC R
  dRRdLdLLbVOWEL$VOCALIC ReRReLeLLb.MON NGAdJHAdBBAdBBEbCONSONANT$MON MEDI#NAfMAfLAb.SGAW KAREN SHA
  bVOWEL$SGAW KAREN EUbTONE MARK SGAW KAREN HATHIfKE PHOb.WESTERN PWO KAREN THAfPWA
  bVOWEL$WESTERN PWO KAREN EUgUEb$WESTERN PWO KAREN TONE-1*4b.EASTERN PWO KAREN NNAfYWAfGHWA
  bVOWEL$GEBA KAREN IdKAYAH OEeUeEEb.SHAN KAdKHAdGAdCAdZAdNYAdDAdNAdPHAdFAdBAdTHAdHA
  bCONSONANT$SHAN MEDI#WAbVOWEL$SHAN AAeEf^e]Yb$SHAN TONE-2*1dTONE-5*1dCOUNCIL TONE-2*1
  eEMPHATIC TONEb.RUMAI PALAUNG FAb$RUMAI PALAUNG TONE-5bSHAN DIGIT ZEROdONEdTWOdTHREEdFOURdFIVEdSIX
  dSEVENdEIGHTdNINEb$KHAMTI TONE-1dTONE-3bVOWEL$AITON AeAIb?SHAN ONEdEXCLAMATION"

end CaseDict.Text.CharacterName
