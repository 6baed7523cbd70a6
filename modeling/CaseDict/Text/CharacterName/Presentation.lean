import CaseDict.Text.CharacterName.Listing
/-! # Names of further letters and presentation forms -/

namespace CaseDict.Text.CharacterName

/-- Names from Lisu and Vai to the presentation forms, below U+10000. -/
def presentation : Listing :=
  "=A4D0aLISU.BAcPAcPHAcDAcTAcTHAcGAcKAcKHAcJAcCAcCHAcDZAcTSAcTSHAcMAcNAcLAcSAcZHAcZAcNGAcHAcXAcHHA
  cFAcWAcSHAcYAcGHAcAcAEcEcEUcIcOcUcUEcUHcOEcTONE MYA TIdNA POdMYA CYAeBOeNAeJEUbPUNCTUATION COMMA
  cFULL STOPaVAI SYLLABLE EEcEENcHEEcWEEcWEENcPEEcBHEEcBEEcMBEEcKPEEcMGBEEcGBEEcFEEcVEEcTEEcTHEE
  cDHEEcDHHEEcLEEcREEcDEEcNDEEcSEEcSHEEcZEEcZHEEcCEEcJEEcNJEEcYEEcKEEcNGGEEcGEEcMEEcNEEcNYEEcIcINcHI
  cHINcWIcWINcPIcBHIcBIcMBIcKPIcMGBIcGBIcFIcVIcTIcTHIcDHIcDHHIcLIcRIcDIcNDIcSIcSHIcZIcZHIcCIcJIcNJI
  cYIcKIcNGGIcGIcMIcNIcNYIcAcANcNGANcHAcHANcWAcWANcPAcBHAcBAcMBAcKPAcKPANcMGBAcGBAcFAcVAcTAcTHAcDHA
  cDHHAcLAcRAcDAcNDAcSAcSHAcZAcZHAcCAcJAcNJAcYAcKAcKANcNGGAcGAcMAcNAcNYAcOOcOONcHOOcWOOcWOONcPOO
  cBHOOcBOOcMBOOcKPOOcMGBOOcGBOOcFOOcVOOcTOOcTHOOcDHOOcDHHOOcLOOcROOcDOOcNDOOcSOOcSHOOcZOOcZHOOcCOO
  cJOOcNJOOcYOOcKOOcNGGOOcGOOcMOOcNOOcNYOOcUcUNcHUcHUNcWUcWUNcPUcBHUcBUcMBUcKPUcMGBUcGBUcFUcVUcTU
  cTHUcDHUcDHHUcLUcRUcDUcNDUcSUcSHUcZUcZHUcCUcJUcNJUcYUcKUcNGGUcGUcMUcNUcNYUcOcONcNGONcHOcHONcWOcWON
  cPOcBHOcBOcMBOcKPOcMGBOcGBOcGBONcFOcVOcTOcTHOcDHOcDHHOcLOcROcDOcNDOcSOcSHOcZOcZHOcCOcJOcNJOcYOcKO
  cNGGOcGOcMOcNOcNYOcEcENcNGENcHEcHENcWEcWENcPEcBHEcBEcMBEcKPEcKPENcMGBEcGBEcGBENcFEcVEcTEcTHEcDHE
  cDHHEcLEcREcDEcNDEcSEcSHEcZEcZHEcCEcJEcNJEcYEcKEcNGGEcNGGENcGEcGENcMEcNEcNYEcNGcLENGTHENERbCOMMA
  bFULL STOPbQUESTION MARKbSYLLABLE NDOLE FAdKAdSOOb?FEENGcKEENGcTINGcNIIcBANGcFAAcTAAcDANGcDOONG
  cKUNGcTONGcDO-OcJONGbDIGIT ZEROcONEcTWOcTHREEcFOURcFIVEcSIXcSEVENcEIGHTcNINEbSYLLABLE NDOLE MAdDO
  =A640aCYRILLIC!.ZEMLYAsdDZELOsdREVERSED DZEsdIOTAsdDJERVsdMONOGRAPH UKsdBROAD OMEGAsdNEUTR#YERs
  dYERU&BACK YERsdIOTIFIED YATsdREVERSED YUsdIOTIFIED AsdCLOSED LITTLE YUSsdBLENDED YUSs
  dIOTIFIED CLOSED LITTLE YUSsdYNsdREVERSED TSEsdSOFT DEseELs*1sdMONOCULAR OsdBINOCULAR Os
  d:MONOCULAR Osb.MULTIOCULAR OaCOMBINING CYRILLIC VZMETcTEN MILLIONS$cHUNDRED MILLIONS$
  cTHOUSAND MILLIONS$aSLAVONIC ASTERISKaCOMBINING CYRILLIC.UKRAINIAN IEdIdYIdUdHARD$dYERUdSOFT$
  dOMEGAcKAVYKAcPAYEROKaCYRILLIC KAVYKAbPAYEROKb!.DWEsdDZWEsdZHWEsdCCHEsdDZZEsdTE&MIDDLE HOOKsdTWEs
  dTSWEsdTSSEsdTCHEsdHWEsdSHWEsd:OsdCROSSED OsaMODIFIER.CYRILLIC HARD$dSOFT$aCOMBINING CYRILLIC.EF
  dIOTIFIED EaBAMUM.AcKAcUcKUcEEcREEcTAEcOcNYIcIcLAcPAcRIIcRIEEcLEEEEcMEEEEcTAAcNDAAcNJAEMcMcSUUcMU
  cSHIIcSIcSHEUXcSEUXcKYEEcKETcNUAEcNUcNJUAEcYOQcSHUcYUQcYAcNSHAcKEUXcPEUXcNJEEcNTEEcPUEcWUEcPEEcFEE
  cRUcLUcMIcNIcREUXcRAEcKENcNGKWAENcNGGAcNGAcSHOcPUAEcFUcFOMcWAcNAcLIcPIcLOQcKOcMBENcRENcMENcMAcTI
  cKIcMOcMBAAcTETcKPAcTENcNTUUcSAMBAcFAAMAEcKOVUUcKOGHOMbCOMBINING MARK KOQNDONdTUKWENTISbNJAEMLI
  bFULL STOPbCOLONbCOMMAbSEMICOLONbQUESTION MARK=A700aMODIFIER.CHINESE TONE YIN PINGeYANG PING
  eYIN SHANGeYANG SHANGeYIN QUeYANG QUeYIN RUeYANG RUcEXTRA-HIGH DOTTED TONE BAR
  cHIGH DOTTED TONE BARcMID DOTTED TONE BARcLOW DOTTED TONE BARcEXTRA-LOW DOTTED TONE BAR
  cEXTRA-HIGH DOTTED LEFT-STEM TONE BARcHIGH DOTTED LEFT-STEM TONE BARcMID DOTTED LEFT-STEM TONE BAR
  cLOW DOTTED LEFT-STEM TONE BARcEXTRA-LOW DOTTED LEFT-STEM TONE BARcEXTRA-HIGH LEFT-STEM TONE BAR
  cHIGH LEFT-STEM TONE BARcMID LEFT-STEM TONE BARcLOW LEFT-STEM TONE BAR
  cEXTRA-LOW LEFT-STEM TONE BARcDOT|BARdSLASHdHORIZONT#BARcLOWER>CORNER ANGLEcRAISED UP~dDOWN~
  dEXCLAMATION MARKdINVERTED EXCLAMATION MARKcLOW INVERTED EXCLAMATION MARKcSTRESS+HIGH TONE
  eLOW TONEaLATIN!.EGYPTOLOGIC#ALEFseAINsdHENGsdTZsdTRESILLOsdCUATRILLOse&COMMAsb.,!FeSb!.AAsdAOsdAU
  s*1se&HORIZONT#BARsdAYsdREVERSED C&DOTsdK&STROKEsfDIAGON#STROKEsfSTROKE+DIAGON#STROKEsdBROKEN Ls
  dL&HIGH STROKEsdO&LONG STROKE OVERLAYsfLOOPsdOOsdP&STROKE THROUGH DESCENDERsfFLOURISHs
  fSQUIRREL TAILsdQ&STROKE THROUGH DESCENDERsfDIAGON#STROKEsdR ROTUNDAsdRUM ROTUNDAsdV&DIAGON#STROKE
  sdVYsdVISIGOTHIC ZsdTHORN&STROKEsgTHROUGH DESCENDERsdVENDsdETsdISsdCONsaMODIFIER.USaLATIN,.DUMdLUM
  dMUMdNUMdRUMb.,!RUMb,.TUMdUMb!.INSULAR DseFs*1dTURNED INSULAR GseLsdINSULAR Rs*1s*1s
  aMODIFIER.LOW CIRCUMFLEX ACCENTcCOLONcSHORT EQUALS$aLATIN!.SALTILLOsdTURNED H
  b,.L&RETROFLEX HOOK+BELTb.SINOLOGIC#DOTb!.N&DESCENDERsdC&BARsb,.C&PALAT#HOOKdH&PALAT#HOOK
  b!.B&FLOURISHsdF&STROKEsdVOLAPUK AEseOEseUEsdG&OBLIQUE STROKEsdK&OBLIQUE STROKEsdN&OBLIQUE STROKEs
  dR&OBLIQUE STROKEsdS&OBLIQUE STROKEsdH&HOOKdREVERSED OPEN EdSCRIPT GdL&BELTd,!Ib.,!Qb!.TURNED KeT
  dJ&CROSSED-TAILdCHIdBETAsdOMEGAsdU&STROKEsdGLOTT#AseIseUsdOLD POLISH OsdANGLICANA WsdC&PALAT#HOOK
  dS&HOOKdZ&PALAT#HOOKdD&SHORT STROKE OVERLAYsdS&SHORT STROKE OVERLAYs=A7D0dCLOSED INSULAR Gs=A7D3
  b,.:THORN=A7D5eWYNNb!.MIDDLE SCOTS SsdSIGMOID Ss=A7F2aMODIFIER.!CdFdQaLATIN!.REVERSED HALF Hs
  bEPIGRAPHIC.SIDEWAYS IaMODIFIER.!H&STROKEc,LIGATURE OEaLATIN.,!TURNED MbEPIGRAPHIC.REVERSED FeP
  dINVERTED MdI LONGAdARCHAIC MaSYLOTI NAGRI.AdIc$DVISVARAc.UdEdOc$HASANTAc.KOdKHOdGOdGHOc$ANUSVARA
  c.COdCHOdJOdJHOdTTOdTTHOdDDOdDDHOdTOdTHOdDOdDHOdNOdPOdPHOdBOdBHOdMOdROdLOdRROdSOdHOcVOWEL$AeIeUeE
  eOOcPOETRY MARK-1*3c$ALTERNATE HASANTA=A830aNORTH INDIC FRACTION ONE QUARTEReHALFdTHREE QUARTERS
  dONE SIXTEENTHeEIGHTHdTHREE SIXTEENTHScQUARTER MARKcPLACEHOLDER MARKcRUPEE MARKcQUANTITY MARK=A840
  aPHAGS-PA.KAcKHAcGAcNGAcCAcCHAcJAcNYAcTAcTHAcDAcNAcPAcPHAcBAcMAcTSAcTSHAcDZAcWAcZHAcZAc,AcYAcRAcLA
  cSHAcSAcHAcAcIcUcEcOcQAcXAcFAcGGAcEEbSUBJOINED.WAdYAb.TTAcTTHAcDDAcNNAcALTERNATE YAcVOICELESS SHA
  cVOICED HAcASPIRATED FAbSUBJOINED.RAbSUPERFIXED.RAb.CANDRABINDUbSINGLE HEAD MARKb:HEAD MARK
  bMARK SHADc:SHAD=A880aSAURASHTRA$ANUSVARAcVISARGAb.AcAAcIcIIcUcUUcVOCALIC RdRRdLdLLcEcEEcAIcOcOO
  cAUcKAcKHAcGAcGHAcNGAcCAcCHAcJAcJHAcNYAcTTAcTTHAcDDAcDDHAcNNAcTAcTHAcDAcDHAcNAcPAcPHAcBAcBHAcMAcYA
  cRAcLAcVAcSHAcSSAcSAcHAcLLAbCONSONANT$HAARUbVOWEL$AAdIdIIdUdUUdVOCALIC ReRReLeLLdEdEEdAIdOdOOdAU
  b$VIRAMAcCANDRABINDU=A8CEbDANDAb:DANDAbDIGIT ZEROcONEcTWOcTHREEcFOURcFIVEcSIXcSEVENcEIGHTcNINE
  =A8E0aCOMBINING DEVANAGARI DIGIT ZEROdONEdTWOdTHREEdFOURdFIVEdSIXdSEVENdEIGHTdNINEc.AdUdKAdNAdPA
  dRAdVIc$AVAGRAHAaDEVANAGARI$SPACING CANDRABINDUcCANDRABINDU VIRAMAc:CANDRABINDU VIRAMA
  cCANDRABINDU TWOdTHREEdAVAGRAHAcPUSHPIKAbGAP FILLERbCARETbHEADSTROKEb$SIDDHAMbJAIN OMb.AYbVOWEL$AY
  aKAYAH LI DIGIT ZEROdONEdTWOdTHREEdFOURdFIVEdSIXdSEVENdEIGHTdNINEc.KAdKHAdGAdNGAdSAdSHAdZAdNYAdTA
  dHTAdNAdPAdPHAdMAdDAdBAdRAdYAdLAdWAdTHAdHAdVAdCAdAdOEdIdOOcVOWEL UEdEdUdEEdOcTONE PLOPHUdCALYA
  ePLOPHUc$CWIdSHYAaREJANG.KAcGAcNGAcTAcDAcNAcPAcBAcMAcCAcJAcNYAcSAcRAcLAcYAcWAcHAcMBAcNGGAcNDAcNYJA
  cAbVOWEL$IdUdEdAIdOdAUdEUdEAbCONSONANT$NGdNdRdHbVIRAMA=A95FbSECTION MARK
  aHANGUL CHOSEONG TIKEUT-MIEUMcTIKEUT-PIEUPcTIKEUT-SIOScTIKEUT-CIEUCcRIEUL-KIYEOKcRIEUL-SSANGKIYEOK
  cRIEUL-TIKEUTcRIEUL-SSANGTIKEUTcRIEUL-MIEUMcRIEUL-PIEUPcRIEUL-SSANGPIEUPcRIEUL-KAPYEOUNPIEUP
  cRIEUL-SIOScRIEUL-CIEUCcRIEUL-KHIEUKHcMIEUM-KIYEOKcMIEUM-TIKEUTcMIEUM-SIOScPIEUP-SIOS-THIEUTH
  cPIEUP-KHIEUKHcPIEUP-HIEUHcSSANGSIOS-PIEUPcIEUNG-RIEULcIEUNG-HIEUHcSSANGCIEUC-HIEUHcSSANGTHIEUTH
  cPHIEUPH-HIEUHcHIEUH-SIOScSSANGYEORINHIEUH=A980aJAVANESE$PANYANGGAcCECAKcLAYARcWIGNYANb.AcI KAWIcI
  cIIcUcPA CEREKcNGA LELETeRASWADIcEcAIcOcKAdSASAKdMURDAcGAdMURDAcNGAcCAdMURDAcJAcNYA MURDA
  cJA MAHAPRANAcNYAcTTAdMAHAPRANAcDDAdMAHAPRANAcNA MURDAcTAdMURDAcDAdMAHAPRANAcNAcPAdMURDAcBAdMURDA
  cMAcYAcRAdAGUNGcLAcWAcSA MURDAdMAHAPRANAcSAcHAb$CECAK TELUbVOWEL$TARUNGdTOLONGdWULUeMELIKdSUKU
  eMENDUTdTALINGdDIRGA MUREdPEPETbCONSONANT$KERETdPENGK#dCAKRAbPANGKONb<RERENGGANb>RERENGGAN
  bPADA ANDAPcMADYAcLUHURcWINDUcPANGKATcLINGSAcLUNGSIcADEGdADEGcPISELEHbTURNED PADA PISELEH=A9CF
  bPANGRANGKEPbDIGIT ZEROcONEcTWOcTHREEcFOURcFIVEcSIXcSEVENcEIGHTcNINE=A9DEbPADA TIRTA TUMETES
  cISEN-ISENaMYANMAR.SHAN GHAdCHAdJHAdNNAdBHAb$SHAN SAWbMODIFIER.SHAN REDUPLICATIONb.TAI LAING NYA
  eFAeGAeGHAeJAeJHAeDDAeDDHAeNNAbTAI LAING DIGIT ZEROeONEeTWOeTHREEeFOUReFIVEeSIXeSEVENeEIGHTeNINE
  b.TAI LAING LLAeDAeDHAeBAeBHA=AA00aCHAM.AcIcUcEcAIcOcKAcKHAcGAcGHAcNGUEcNGAcCHAcCHHAcJAcJHAcNHUE
  cNHAcNHJAcTAcTHAcDAcDHAcNUEcNAcDDAcPAcPPAcPHAcBAcBHAcMUEcMAcBBAcYAcRAcLAcVAcSSAcSAcHAbVOWEL$AAdI
  dIIdEIdUdOEdOdAIdAUdUEbCONSONANT$YAdRAdLAdWA=AA40b.]KdGdNGbCONSONANT$]NGb.]CHdTdNdPdYdRdLdSS
  bCONSONANT$]MeH=AA50bDIGIT ZEROcONEcTWOcTHREEcFOURcFIVEcSIXcSEVENcEIGHTcNINE=AA5C
  bPUNCTUATION SPIR#cDANDAc:DANDAcTRIPLE DANDAaMYANMAR.KHAMTI GAdCAdCHAdJAdJHAdNYAdTTAdTTHAdDDAdDDHA
  dDHAdNAdSAdHAdHHAdFAbMODIFIER.KHAMTI REDUPLICATIONb.KHAMTI XAdZAdRAbLOGOGRAM KHAMTI OAYdQNdHM
  b?AITON EXCLAMATIONdONEdTWOb.AITON RAb$PAO KAREN TONEcTAI LAING TONE-2eTONE-5b.SHWE PALAUNG CHA
  eSHAaTAI VIET.LOW KOdHIGH KOdLOW KHOdHIGH KHOdLOW KHHOdHIGH KHHOdLOW GOdHIGH GOdLOW NGOdHIGH NGO
  dLOW COdHIGH COdLOW CHOdHIGH CHOdLOW SOdHIGH SOdLOW NYOdHIGH NYOdLOW DOdHIGH DOdLOW TOdHIGH TO
  dLOW THOdHIGH THOdLOW NOdHIGH NOdLOW BOdHIGH BOdLOW POdHIGH POdLOW PHOdHIGH PHOdLOW FOdHIGH FO
  dLOW MOdHIGH MOdLOW YOdHIGH YOdLOW ROdHIGH ROdLOW LOdHIGH LOdLOW VOdHIGH VOdLOW HOdHIGH HOdLOW O
  dHIGH OcMAI KANGcVOWEL AAdIdUEdUdEdOcMAI KHITcVOWEL IAdUEAdUAdAUEdAYdANdAMcTONE MAI EKeNUENGeTHO
  eSONG=AADBc?KONdNUENGdSAMdHO HOIdKOI KOIaMEETEI MAYEK.EdOdCHAdNYAdTTAdTTHAdDDAdDDHAdNNAdSHAdSSA
  cVOWEL$IIeUUeAAIeAUeAAUcCHEIKHANcAHANG KHUDAMcANJIcSYLLABLE REPETITION MARKcWORD REPETITION MARK
  cVOWEL$VISARGAcVIRAMA=AB01aETHIOPIC SYLLABLE TTHUcTTHIcTTHAAcTTHEEcTTHEcTTHO=AB09cDDHUcDDHIcDDHAA
  cDDHEEcDDHEcDDHO=AB11cDZUcDZIcDZAAcDZEEcDZEcDZO=AB20cCCHHAcCCHHUcCCHHIcCCHHAAcCCHHEEcCCHHEcCCHHO
  =AB28cBBAcBBUcBBIcBBAAcBBEEcBBEcBBO=AB30aLATIN,.BARRED ALPHAdA REVERSED-SCHWAdBLACKLETTER E
  dBARRED EdE&FLOURISHdLENIS FdSCRIPT G&CROSSED-TAILdL&INVERTED LAZY Sf:MIDDLE TILDEfMIDDLE RING
  dM&CROSSED-TAILdN&CROSSED-TAILdENG&CROSSED-TAILdBLACKLETTER Of&STROKEdOPEN O&STROKEdINVERTED OE
  dTURNED OE&STROKEgHORIZONT#STROKEeO OPEN-Og&STROKEdSTIRRUP Rb.,!R&>LEGb,.R WITHOUT HANDLEd:R
  dR&CROSSED-TAILd:R&CROSSED-TAILdSCRIPT Rf&RINGdBASELINE ESHdU&SHORT>LEGeBAR&SHORT>LEGdUIdTURNED UI
  dU&<HOOKdCHIe&LOW>RINGg<SERIFdX&LOW>RINGfLONG<LEGi+LOW>RINGi&SERIFdY&SHORT>LEG
  aMODIFIER BREVE&INVERTED BREVEb.,HENGdL&INVERTED LAZY SfMIDDLE TILDEdU&<HOOKaLATIN,.SAKHA YAT
  dIOTIFIED EdOPEN OEdUOdINVERTED ALPHAaGREEK.,!OMEGAaLATIN,.DZ DIGRAPH&RETROFLEX HOOK
  dTS DIGRAPH&RETROFLEX HOOKdTURNED R&MIDDLE TILDEaMODIFIER.,TURNED Wc<TACKc>TACK=AB70aCHEROKEE,.AdE
  dIdOdU*1dGAdKAdGEdGIdGOdGU*1dHAdHEdHIdHOdHU*1dLAdLEdLIdLOdLU*1dMAdMEdMIdMOdMUdNAdHNAdNAHdNEdNIdNO
  dNU*1dQUAdQUEdQUIdQUOdQUU*1dSAdSdSEdSIdSOdSU*1dDAdTAdDEdTEdDIdTIdDOdDU*1dDLAdTLAdTLEdTLIdTLOdTLU*1
  dTSAdTSEdTSIdTSOdTSU*1dWAdWEdWIdWOdWU*1dYAaMEETEI MAYEK.KOKdSAMdLAIdMITdPAdNAdCHILdTILdKHOUdNGOU
  dTHOUdWAIdYANGdHUKdUNdIdPHAMdATIYAdGOKdJHAMdRAIdBAdJILdDILdGHOUdDHOUdBHAMdKOK LONSUMdLAI LONSUM
  dMIT LONSUMdPA LONSUMdNA LONSUMdTIL LONSUMdNGOU LONSUMdI LONSUMcVOWEL$ONAPeINAPeANAPeYENAPeSOUNAP
  eUNAPeCHEINAPeNUNGcCHEIKHEIcLUM IYEKcAPUN IYEK=ABF0cDIGIT ZEROdONEdTWOdTHREEdFOURdFIVEdSIXdSEVEN
  dEIGHTdNINE=D7B0aHANGUL JUNGSEONG O-YEOcO-O-IcYO-AcYO-AEcYO-EOcU-YEOcU-I-IcYU-AEcYU-OcEU-AcEU-EO
  cEU-EcEU-OcI-YA-OcI-YAEcI-YEOcI-YEcI-O-IcI-YOcI-YUcI-IcARAEA-AcARAEA-E=D7CBbJONGSEONG NIEUN-RIEUL
  cNIEUN-CHIEUCHcSSANGTIKEUTcSSANGTIKEUT-PIEUPcTIKEUT-PIEUPcTIKEUT-SIOScTIKEUT-SIOS-KIYEOK
  cTIKEUT-CIEUCcTIKEUT-CHIEUCHcTIKEUT-THIEUTHcRIEUL-SSANGKIYEOKcRIEUL-KIYEOK-HIEUH
  cSSANGRIEUL-KHIEUKHcRIEUL-MIEUM-HIEUHcRIEUL-PIEUP-TIKEUTcRIEUL-PIEUP-PHIEUPHcRIEUL-YESIEUNG
  cRIEUL-YEORINHIEUH-HIEUHcKAPYEOUNRIEULcMIEUM-NIEUNcMIEUM-SSANGNIEUNcSSANGMIEUMcMIEUM-PIEUP-SIOS
  cMIEUM-CIEUCcPIEUP-TIKEUTcPIEUP-RIEUL-PHIEUPHcPIEUP-MIEUMcSSANGPIEUPcPIEUP-SIOS-TIKEUTcPIEUP-CIEUC
  cPIEUP-CHIEUCHcSIOS-MIEUMcSIOS-KAPYEOUNPIEUPcSSANGSIOS-KIYEOKcSSANGSIOS-TIKEUTcSIOS-PANSIOS
  cSIOS-CIEUCcSIOS-CHIEUCHcSIOS-THIEUTHcSIOS-HIEUHcPANSIOS-PIEUPcPANSIOS-KAPYEOUNPIEUP
  cYESIEUNG-MIEUMcYESIEUNG-HIEUHcCIEUC-PIEUPcCIEUC-SSANGPIEUPcSSANGCIEUCcPHIEUPH-SIOS
  cPHIEUPH-THIEUTH=F900aCJK COMPATIBILITY IDEOGRAPH-F900*9@356=FA70@106=FB00aLATIN,LIGATURE FFdFIdFL
  dFFIdFFLdLONG S TdST=FB13aARMENIAN,LIGATURE MEN NOWeECHeINIdVEW NOWdMEN XEH=FB1DaHEBREW.YOD&HIRIQ
  bPOINT JUDEO-SPANISH VARIKAbLIGATURE YIDDISH YOD YOD PATAHb.ALTERNATIVE AYINcWIDE ALEFdDALETdHE
  dKAFdLAMEDd]MEMdRESHdTAVcALTERNATIVE PLUS$cSHIN&SHIN DOTeSIN DOTeDAGESH+SHIN DOTgSIN DOT
  cALEF&PATAHeQAMATSeMAPIQcBET&DAGESHcGIMEL&DAGESHcDALET&DAGESHcHE&MAPIQcVAV&DAGESHcZAYIN&DAGESH
  =FB38cTET&DAGESHcYOD&DAGESHc]KAF&DAGESHcKAF&DAGESHcLAMED&DAGESH=FB3EcMEM&DAGESH=FB40cNUN&DAGESH
  cSAMEKH&DAGESH=FB43c]PE&DAGESHcPE&DAGESH=FB46cTSADI&DAGESHcQOF&DAGESHcRESH&DAGESHcSHIN&DAGESH
  cTAV&DAGESHcVAV&HOLAMcBET&RAFEcKAF&RAFEcPE&RAFEbLIGATURE ALEF LAMEDaARABIC.ALEF WASLA;%e]%cBEEH;%
  d]%d[%dMEDI#%cPEH;%d]%d[%dMEDI#%cBEHEH;%d]%d[%dMEDI#%cTTEHEH;%d]%d[%dMEDI#%cTEHEH;%d]%d[%dMEDI#%
  cTTEH;%d]%d[%dMEDI#%cVEH;%d]%d[%dMEDI#%cPEHEH;%d]%d[%dMEDI#%cDYEH;%d]%d[%dMEDI#%cNYEH;%d]%d[%
  dMEDI#%cTCHEH;%d]%d[%dMEDI#%cTCHEHEH;%d]%d[%dMEDI#%cDDAH#;%d]%cDAH#;%d]%cDUL;%d]%cDD#;%d]%cJEH;%
  d]%cRREH;%d]%cKEHEH;%d]%d[%dMEDI#%cGAF;%d]%d[%dMEDI#%cGUEH;%d]%d[%dMEDI#%cNGOEH;%d]%d[%dMEDI#%
  cNOON GHUNNA;%e]%cRNOON;%d]%d[%dMEDI#%cHEH&YEH^;%g]%dGO#;%e]%e[%eMEDI#%dDOACHASHMEE;%e]%e[%eMEDI#%
  cYEH BARREE;%e]%e&HAMZA^;%h]%b?DOT^d_cTWO DOTS^e_cTHREE DOTS^e_ePOINTING DOWNWARDS^g_cFOUR DOTS^e_
  c:|BAR_cTWO DOTS VERTICALLY^f_cRINGc,TAH^e_cWASLA^=FBD3b.NG;%d]%d[%dMEDI#%cU;%d]%cOE;%d]%cYU;%d]%
  cU&HAMZA^;%cVE;%d]%cKIRGHIZ OE;%e]%dYU;%e]%cE;%d]%d[%dMEDI#%cUIGHUR KAZAKH KIRGHIZ ALEF MAKSURA[%
  hMEDI#%bLIGATURE YEH&HAMZA^&ALEF;%i]%hAE;%i]%hWAW;%i]%hU;%i]%hOE;%i]%hYU;%i]%hE;%i]%i[%
  cUIGHUR KIRGHIZ YEH&HAMZA^&ALEF MAKSURA;%l]%l[%b.FARSI YEH;%e]%e[%eMEDI#%
  bLIGATURE YEH&HAMZA^&JEEM;%hHAH;%hMEEM;%hALEF MAKSURA;%hYEH;%cBEH&JEEM;%eHAH;%eKHAH;%eMEEM;%
  eALEF MAKSURA;%eYEH;%cTEH&JEEM;%eHAH;%eKHAH;%eMEEM;%eALEF MAKSURA;%eYEH;%cTHEH&JEEM;%eMEEM;%
  eALEF MAKSURA;%eYEH;%cJEEM&HAH;%eMEEM;%cHAH&JEEM;%eMEEM;%cKHAH&JEEM;%eHAH;%eMEEM;%cSEEN&JEEM;%
  eHAH;%eKHAH;%eMEEM;%cSAD&HAH;%eMEEM;%cDAD&JEEM;%eHAH;%eKHAH;%eMEEM;%cTAH&HAH;%eMEEM;%cZAH&MEEM;%
  cAIN&JEEM;%eMEEM;%cGHAIN&JEEM;%eMEEM;%cFEH&JEEM;%eHAH;%eKHAH;%eMEEM;%eALEF MAKSURA;%eYEH;%
  cQAF&HAH;%eMEEM;%eALEF MAKSURA;%eYEH;%cKAF&ALEF;%eJEEM;%eHAH;%eKHAH;%eLAM;%eMEEM;%eALEF MAKSURA;%
  eYEH;%cLAM&JEEM;%eHAH;%eKHAH;%eMEEM;%eALEF MAKSURA;%eYEH;%cMEEM&JEEM;%eHAH;%eKHAH;%eMEEM;%
  eALEF MAKSURA;%eYEH;%cNOON&JEEM;%eHAH;%eKHAH;%eMEEM;%eALEF MAKSURA;%eYEH;%cHEH&JEEM;%eMEEM;%
  eALEF MAKSURA;%eYEH;%cYEH&JEEM;%eHAH;%eKHAH;%eMEEM;%eALEF MAKSURA;%eYEH;%cTH#&SUPERSCRIPT ALEF;%
  cREH&SUPERSCRIPT ALEF;%cALEF MAKSURA&SUPERSCRIPT ALEF;%cSHADDA&DAMMATAN;%eKASRATAN;%eFATHA;%
  eDAMMA;%eKASRA;%eSUPERSCRIPT ALEF;%cYEH&HAMZA^&REH]%hZAIN]%hMEEM]%hNOON]%hALEF MAKSURA]%hYEH]%
  cBEH&REH]%eZAIN]%eMEEM]%eNOON]%eALEF MAKSURA]%eYEH]%cTEH&REH]%eZAIN]%eMEEM]%eNOON]%eALEF MAKSURA]%
  eYEH]%cTHEH&REH]%eZAIN]%eMEEM]%eNOON]%eALEF MAKSURA]%eYEH]%cFEH&ALEF MAKSURA]%eYEH]%
  cQAF&ALEF MAKSURA]%eYEH]%cKAF&ALEF]%eLAM]%eMEEM]%eALEF MAKSURA]%eYEH]%cLAM&MEEM]%eALEF MAKSURA]%
  eYEH]%cMEEM&ALEF]%eMEEM]%cNOON&REH]%eZAIN]%eMEEM]%eNOON]%eALEF MAKSURA]%eYEH]%
  cALEF MAKSURA&SUPERSCRIPT ALEF]%cYEH&REH]%eZAIN]%eMEEM]%eNOON]%eALEF MAKSURA]%eYEH]%eHAMZA^&JEEM[%
  hHAH[%hKHAH[%hMEEM[%hHEH[%cBEH&JEEM[%eHAH[%eKHAH[%eMEEM[%eHEH[%cTEH&JEEM[%eHAH[%eKHAH[%eMEEM[%
  eHEH[%cTHEH&MEEM[%cJEEM&HAH[%eMEEM[%cHAH&JEEM[%eMEEM[%cKHAH&JEEM[%eMEEM[%cSEEN&JEEM[%eHAH[%eKHAH[%
  eMEEM[%cSAD&HAH[%eKHAH[%eMEEM[%cDAD&JEEM[%eHAH[%eKHAH[%eMEEM[%cTAH&HAH[%cZAH&MEEM[%cAIN&JEEM[%
  eMEEM[%cGHAIN&JEEM[%eMEEM[%cFEH&JEEM[%eHAH[%eKHAH[%eMEEM[%cQAF&HAH[%eMEEM[%cKAF&JEEM[%eHAH[%
  eKHAH[%eLAM[%eMEEM[%cLAM&JEEM[%eHAH[%eKHAH[%eMEEM[%eHEH[%cMEEM&JEEM[%eHAH[%eKHAH[%eMEEM[%
  cNOON&JEEM[%eHAH[%eKHAH[%eMEEM[%eHEH[%cHEH&JEEM[%eMEEM[%eSUPERSCRIPT ALEF[%cYEH&JEEM[%eHAH[%
  eKHAH[%eMEEM[%eHEH[%eHAMZA^&MEEM MEDI#%hHEH MEDI#%cBEH&MEEM MEDI#%eHEH MEDI#%cTEH&MEEM MEDI#%
  eHEH MEDI#%cTHEH&MEEM MEDI#%eHEH MEDI#%cSEEN&MEEM MEDI#%eHEH MEDI#%cSHEEN&MEEM MEDI#%eHEH MEDI#%
  cKAF&LAM MEDI#%eMEEM MEDI#%cLAM&MEEM MEDI#%cNOON&MEEM MEDI#%eHEH MEDI#%cYEH&MEEM MEDI#%eHEH MEDI#%
  cSHADDA&FATHA MEDI#%eDAMMA MEDI#%eKASRA MEDI#%cTAH&ALEF MAKSURA;%eYEH;%cAIN&ALEF MAKSURA;%eYEH;%
  cGHAIN&ALEF MAKSURA;%eYEH;%cSEEN&ALEF MAKSURA;%eYEH;%cSHEEN&ALEF MAKSURA;%eYEH;%
  cHAH&ALEF MAKSURA;%eYEH;%cJEEM&ALEF MAKSURA;%eYEH;%cKHAH&ALEF MAKSURA;%eYEH;%cSAD&ALEF MAKSURA;%
  eYEH;%cDAD&ALEF MAKSURA;%eYEH;%cSHEEN&JEEM;%eHAH;%eKHAH;%eMEEM;%eREH;%cSEEN&REH;%cSAD&REH;%
  cDAD&REH;%cTAH&ALEF MAKSURA]%eYEH]%cAIN&ALEF MAKSURA]%eYEH]%cGHAIN&ALEF MAKSURA]%eYEH]%
  cSEEN&ALEF MAKSURA]%eYEH]%cSHEEN&ALEF MAKSURA]%eYEH]%cHAH&ALEF MAKSURA]%eYEH]%cJEEM&ALEF MAKSURA]%
  eYEH]%cKHAH&ALEF MAKSURA]%eYEH]%cSAD&ALEF MAKSURA]%eYEH]%cDAD&ALEF MAKSURA]%eYEH]%cSHEEN&JEEM]%
  eHAH]%eKHAH]%eMEEM]%eREH]%cSEEN&REH]%cSAD&REH]%cDAD&REH]%cSHEEN&JEEM[%eHAH[%eKHAH[%eMEEM[%
  cSEEN&HEH[%cSHEEN&HEH[%cTAH&MEEM[%cSEEN&JEEM MEDI#%eHAH MEDI#%eKHAH MEDI#%cSHEEN&JEEM MEDI#%
  eHAH MEDI#%eKHAH MEDI#%cTAH&MEEM MEDI#%cZAH&MEEM MEDI#%cALEF&FATHATAN]%f;%aORNATE<PARENTHESIS
  b>PARENTHESISaARABIC LIGATURE RAHIMAHU ALLAAHcRADI ALLAAHU ANHeANHAAeANHUMeANHUMAAeANHUNNA
  cSALLALLAAHU ALAYHI WA-AALIHcALAYHI AS-SALAAMcALAYHIM AS-SALAAMcALAYHIMAA AS-SALAAM
  cALAYHI AS-SALAATU WAS-SALAAMcQUDDISA SIRRAHcSALLALLAHU ALAYHI WAAALIHEE WA-SALLAM
  cALAYHAA AS-SALAAMcTABAARAKA WA-TAAALAAcRAHIMAHUM ALLAAHcTEH&JEEM&MEEM[%eHAH&JEEM]%h[%gMEEM[%
  eKHAH&MEEM[%eMEEM&JEEM[%gHAH[%gKHAH[%cJEEM&MEEM&HAH]%h[%cHAH&MEEM&YEH]%gALEF MAKSURA]%
  cSEEN&HAH&JEEM[%eJEEM&HAH[%gALEF MAKSURA]%eMEEM&HAH]%h[%gJEEM[%gMEEM]%h[%cSAD&HAH&HAH]%h[%
  eMEEM&MEEM]%cSHEEN&HAH&MEEM]%h[%eJEEM&YEH]%eMEEM&KHAH]%h[%gMEEM]%h[%cDAD&HAH&ALEF MAKSURA]%
  eKHAH&MEEM]%h[%cTAH&MEEM&HAH]%h[%gMEEM[%gYEH]%cAIN&JEEM&MEEM]%eMEEM&MEEM]%h[%gALEF MAKSURA]%
  cGHAIN&MEEM&MEEM]%gYEH]%gALEF MAKSURA]%cFEH&KHAH&MEEM]%h[%cQAF&MEEM&HAH]%gMEEM]%cLAM&HAH&MEEM]%
  gYEH]%gALEF MAKSURA]%eJEEM&JEEM[%h]%eKHAH&MEEM]%h[%eMEEM&HAH]%h[%cMEEM&HAH&JEEM[%gMEEM[%gYEH]%
  eJEEM&HAH[%gMEEM[%eKHAH&JEEM[%gMEEM[%=FD92eJEEM&KHAH[%cHEH&MEEM&JEEM[%gMEEM[%cNOON&HAH&MEEM[%
  gALEF MAKSURA]%eJEEM&MEEM]%h[%gALEF MAKSURA]%eMEEM&YEH]%gALEF MAKSURA]%cYEH&MEEM&MEEM]%h[%
  cBEH&KHAH&YEH]%cTEH&JEEM&YEH]%gALEF MAKSURA]%eKHAH&YEH]%gALEF MAKSURA]%eMEEM&YEH]%gALEF MAKSURA]%
  cJEEM&MEEM&YEH]%eHAH&ALEF MAKSURA]%eMEEM&ALEF MAKSURA]%cSEEN&KHAH&ALEF MAKSURA]%cSAD&HAH&YEH]%
  cSHEEN&HAH&YEH]%cDAD&HAH&YEH]%cLAM&JEEM&YEH]%eMEEM&YEH]%cYEH&HAH&YEH]%eJEEM&YEH]%eMEEM&YEH]%
  cMEEM&MEEM&YEH]%cQAF&MEEM&YEH]%cNOON&HAH&YEH]%cQAF&MEEM&HAH[%cLAM&HAH&MEEM[%cAIN&MEEM&YEH]%
  cKAF&MEEM&YEH]%cNOON&JEEM&HAH[%cMEEM&KHAH&YEH]%cLAM&JEEM&MEEM[%cKAF&MEEM&MEEM]%cLAM&JEEM&MEEM]%
  cNOON&JEEM&HAH]%cJEEM&HAH&YEH]%cHAH&JEEM&YEH]%cMEEM&JEEM&YEH]%cFEH&MEEM&YEH]%cBEH&HAH&YEH]%
  cKAF&MEEM&MEEM[%cAIN&JEEM&MEEM[%cSAD&MEEM&MEEM[%cSEEN&KHAH&YEH]%cNOON&JEEM&YEH]%=FDCF
  cSALAAMUHU ALAYNAA=FDF0cSALLA USED AS KORANIC STOP$;%cQALA USED AS KORANIC STOP$;%cALLAH;%cAKBAR;%
  cMOHAMMAD;%cSALAM;%cRASOUL;%cALAYHE;%cWASALLAM;%cSALLA;%cSALLALLAHOU ALAYHE WASALLAM
  cJALLAJALALOUHOUaRI#$aARABIC LIGATURE BISMILLAH AR-RAHMAN AR-RAHEEMcSUBHAANAHU WA TAAALAA
  cAZZA WA JALLaVARIATION SELECTOR-1*15aPRESENTATION%FOR|COMMAeIDEOGRAPHIC COMMAfFULL STOPeCOLON
  eSEMICOLONeEXCLAMATION MARKeQUESTION MARKe<WHITE LENTICULAR BRACKETe>WHITE LENTICULAR BRAKCET
  eHORIZONT#ELLIPSIS=FE20aCOMBINING LIGATURE<HALFc>HALFb:TILDE<HALFd>HALFbMACRON<HALFc>HALF
  bCONJOINING MACRONbLIGATURE<HALF_c>HALF_bTILDE<HALF_c>HALF_bMACRON<HALF_c>HALF_bCONJOINING MACRON_
  bCYRILLIC TITLO<HALFd>HALFaPRESENTATION%FOR|TWO DOT LEADEReEM DASHeEN DASHeLOW LINEeWAVY LOW LINE
  e<PARENTHESISe>PARENTHESISe<CURLY BRACKETe>CURLY BRACKETe<TORTOISE SHELL BRACKET
  e>TORTOISE SHELL BRACKETe<BLACK LENTICULAR BRACKETe>BLACK LENTICULAR BRACKETe<:ANGLE BRACKET
  e>:ANGLE BRACKETe<ANGLE BRACKETe>ANGLE BRACKETe<CORNER BRACKETe>CORNER BRACKET
  e<WHITE CORNER BRACKETe>WHITE CORNER BRACKETaSESAME DOTaWHITE SESAME DOT
  aPRESENTATION%FOR|<SQUARE BRACKETe>SQUARE BRACKETaDASHED OVERLINEaCENTRELINE OVERLINE
  aWAVY OVERLINEa:WAVY OVERLINEaDASHED LOW LINEaCENTRELINE LOW LINEaWAVY LOW LINEa,COMMA
  bIDEOGRAPHIC COMMAbFULL STOP=FE54bSEMICOLONbCOLONbQUESTION MARKbEXCLAMATION MARKbEM DASH
  b<PARENTHESISb>PARENTHESISb<CURLY BRACKETb>CURLY BRACKETb<TORTOISE SHELL BRACKET
  b>TORTOISE SHELL BRACKETbNUMBER$bAMPERSANDbASTERISKbPLUS$bHYPHEN-MINUSbLESS-THAN$bGREATER-THAN$
  bEQUALS$=FE68bREVERSE SOLIDUSbDOLLAR$bPERCENT$bCOMMERCI#AT=FE70aARABIC FATHATAN;%
  bTATWEEL&FATHATAN^bDAMMATAN;%bTAIL FRAGMENTbKASRATAN;%=FE76bFATHA;%cMEDI#%bDAMMA;%cMEDI#%bKASRA;%
  cMEDI#%bSHADDA;%cMEDI#%bSUKUN;%cMEDI#%b.HAMZA;%cALEF&MADDA^;%g]%eHAMZA^;%g]%cWAW&HAMZA^;%g]%
  cALEF&HAMZA_;%g]%cYEH&HAMZA^;%g]%g[%gMEDI#%cALEF;%d]%cBEH;%d]%d[%dMEDI#%cTEH MARBUTA;%e]%d;%d]%d[%
  dMEDI#%cTHEH;%d]%d[%dMEDI#%cJEEM;%d]%d[%dMEDI#%cHAH;%d]%d[%dMEDI#%cKHAH;%d]%d[%dMEDI#%cD#;%d]%
  cTH#;%d]%cREH;%d]%cZAIN;%d]%cSEEN;%d]%d[%dMEDI#%cSHEEN;%d]%d[%dMEDI#%cSAD;%d]%d[%dMEDI#%cDAD;%d]%
  d[%dMEDI#%cTAH;%d]%d[%dMEDI#%cZAH;%d]%d[%dMEDI#%cAIN;%d]%d[%dMEDI#%cGHAIN;%d]%d[%dMEDI#%cFEH;%d]%
  d[%dMEDI#%cQAF;%d]%d[%dMEDI#%cKAF;%d]%d[%dMEDI#%cLAM;%d]%d[%dMEDI#%cMEEM;%d]%d[%dMEDI#%cNOON;%d]%
  d[%dMEDI#%cHEH;%d]%d[%dMEDI#%cWAW;%d]%cALEF MAKSURA;%e]%cYEH;%d]%d[%dMEDI#%
  bLIGATURE LAM&ALEF&MADDA^;%i]%gHAMZA^;%i]%h_;%i]%f;%f]%=FEFFaZERO WIDTH NO-BREAK SPACE=FF01
  aFULLWIDTH EXCLAMATION MARKbQUOTATION MARKbNUMBER$bDOLLAR$bPERCENT$bAMPERSANDbAPOSTROPHE
  b<PARENTHESISb>PARENTHESISbASTERISKbPLUS$bCOMMAbHYPHEN-MINUSbFULL STOPbSOLIDUSbDIGIT ZEROcONEcTWO
  cTHREEcFOURcFIVEcSIXcSEVENcEIGHTcNINEbCOLONbSEMICOLONbLESS-THAN$bEQUALS$bGREATER-THAN$
  bQUESTION MARKbCOMMERCI#ATbLATIN!.A*25b<SQUARE BRACKETbREVERSE SOLIDUSb>SQUARE BRACKET
  bCIRCUMFLEX ACCENTbLOW LINEbGRAVE ACCENTbLATIN,.A*25b<CURLY BRACKETb|LINEb>CURLY BRACKETbTILDE
  b<WHITE PARENTHESISb>WHITE PARENTHESISaHALFWIDTH IDEOGRAPHIC FULL STOPb<CORNER BRACKET
  b>CORNER BRACKETbIDEOGRAPHIC COMMAbKATAKANA MIDDLE DOTc.WOd,AeIeUeEeOeYAeYUeYOeTU
  bKATAKANA-HIRAGANA PROLONGED SOUND MARKbKATAKANA.AdIdUdEdOdKAdKIdKUdKEdKOdSAdSIdSUdSEdSOdTAdTIdTU
  dTEdTOdNAdNIdNUdNEdNOdHAdHIdHUdHEdHOdMAdMIdMUdMEdMOdYAdYUdYOdRAdRIdRUdREdROdWAdNcVOICED SOUND MARK
  cSEMI-VOICED SOUND MARKbHANGUL FILLERc.KIYEOKdSSANGKIYEOKdKIYEOK-SIOSdNIEUNdNIEUN-CIEUC
  dNIEUN-HIEUHdTIKEUTdSSANGTIKEUTdRIEULdRIEUL-KIYEOKdRIEUL-MIEUMdRIEUL-PIEUPdRIEUL-SIOS
  dRIEUL-THIEUTHdRIEUL-PHIEUPHdRIEUL-HIEUHdMIEUMdPIEUPdSSANGPIEUPdPIEUP-SIOSdSIOSdSSANGSIOSdIEUNG
  dCIEUCdSSANGCIEUCdCHIEUCHdKHIEUKHdTHIEUTHdPHIEUPHdHIEUH=FFC2dAdAEdYAdYAEdEOdE=FFCAdYEOdYEdOdWAdWAE
  dOE=FFD2dYOdUdWEOdWEdWIdYU=FFDAdEUdYIdI=FFE0aFULLWIDTH CENT$bPOUND$bNOT$bMACRONbBROKEN BARbYEN$
  bWON$=FFE8aHALFWIDTH FORMS LIGHT|b(~bUPWARDS~b)~bDOWNWARDS~bBLACK SQUAREbWHITE CIRCLE=FFF9
  aINTERLINEAR ANNOTATION ANCHORcSEPARATORcTERMINATORaOBJECT REPLACEMENT CHARACTER
  aREPLACEMENT CHARACTER"

end CaseDict.Text.CharacterName
