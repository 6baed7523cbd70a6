import CaseDict.Text.CharacterName.Listing
/-! # Names of characters of the Middle East -/

namespace CaseDict.Text.CharacterName

/-- Names of Hebrew, Arabic, Syriac and related characters, below U+0900. -/
def middleEastern : Listing :=
  "=591aHEBREW ACCENT ETNAHTAcSEGOLcSHALSHELETcZAQEF QATANdGADOLcTIPEHAcREVIAcZARQAcPASHTAcYETIV
  cTEVIRcGERESHdMUQDAMcGERSHAYIMcQARNEY PARAcTELISHA GEDOLAcPAZERcATNAH HAFUKHcMUNAHcMAHAPAKHcMERKHA
  dKEFULAcDARGAcQADMAcTELISHA QETANAcYERAH BEN YOMOcOLEcILUYcDEHIcZINORbMARK MASORA CIRCLE
  bPOINT SHEVAcHATAF SEGOLdPATAHdQAMATScHIRIQcTSEREcSEGOLcPATAHcQAMATScHOLAMdHASER FOR VAVcQUBUTS
  cDAGESH OR MAPIQcMETEGbPUNCTUATION MAQAFbPOINT RAFEbPUNCTUATION PASEQbPOINT SHIN DOTcSIN DOT
  bPUNCTUATION SOF PASUQbMARK UPPER DOTcLOWER DOTbPUNCTUATION NUN HAFUKHAbPOINT QAMATS QATAN=5D0
  b.ALEFcBETcGIMELcDALETcHEcVAVcZAYINcHETcTETcYODc]KAFcKAFcLAMEDc]MEMcMEMc]NUNcNUNcSAMEKHcAYINc]PE
  cPEc]TSADIcTSADIcQOFcRESHcSHINcTAV=5EFbYOD TRIANGLEbLIGATURE YIDDISH:VAVdVAV YODd:YOD
  bPUNCTUATION GERESHcGERSHAYIM=600aARABIC NUMBER$b$SANAHbFOOTNOTE MARKERb$SAFHAcSAMVATbNUMBER MARK^
  aARABIC-INDIC CUBE ROOTbFOURTH ROOTaARABIC RAYaARABIC-INDIC PER MILLE$cTEN THOUSAND$aAFGHANI$
  aARABIC COMMAbDATE SEPARATORbPOETIC VERSE$b$MISRAcSALLALLAHOU ALAYHE WASSALLAMcALAYHE ASSALLAM
  cRAHMATULLAH ALAYHEcRADI ALLAHOU ANHUcTAKHALLUSb,HIGH TAHdLIGATURE ALEF&LAM&YEHdZAINcFATHAcDAMMA
  cKASRAbSEMICOLONb.MARKbEND OF TEXT MARKbTRIPLE DOT PUNCTUATION MARKbQUESTION MARKb.KASHMIRI YEH
  cHAMZAcALEF&MADDA^eHAMZA^cWAW&HAMZA^cALEF&HAMZA_cYEH&HAMZA^cALEFcBEHcTEH MARBUTAcTEHcTHEHcJEEMcHAH
  cKHAHcD#cTH#cREHcZAINcSEENcSHEENcSADcDADcTAHcZAHcAINcGHAINcKEHEH&TWO DOTS^eTHREE DOTS_
  cFARSI YEH&INVERTED VfTWO DOTS^fTHREE DOTS^bTATWEELb.FEHcQAFcKAFcLAMcMEEMcNOONcHEHcWAW
  cALEF MAKSURAcYEHbFATHATANbDAMMATANbKASRATANbFATHAbDAMMAbKASRAbSHADDAbSUKUNbMADDAH^bHAMZA^c_
  bSUBSCRIPT ALEFbINVERTED DAMMAbMARK NOON GHUNNAbZWARAKAYbVOWEL$,V^dINVERTED,V^dDOT_bREVERSED DAMMA
  bFATHA&TWO DOTSbWAVY HAMZA_aARABIC-INDIC DIGIT ZEROcONEcTWOcTHREEcFOURcFIVEcSIXcSEVENcEIGHTcNINE
  aARABIC PERCENT$bDECIM#SEPARATORbTHOUSANDS SEPARATORbFIVE POINTED STARb.DOTLESS BEHdQAF
  cSUPERSCRIPT ALEFcALEF WASLAd&WAVY HAMZA^g_cHIGH HAMZAeALEFeWAWcU&HAMZA^cHIGH HAMZA YEHcTTEH
  cTTEHEHcBEEHcTEH&RINGeTHREE DOTS^DOWNWARDScPEHcTEHEHcBEHEHcHAH&HAMZA^eTWO DOTS|^cNYEHcDYEH
  cHAH&THREE DOTS^cTCHEHcTCHEHEHcDD#cD#&RINGeDOT_g+,TAHcDAH#cDDAH#cDULcD#&THREE DOTS^DOWNWARDS
  eFOUR DOTS^cRREHcREH&,VeRINGeDOT_e,V_eDOT_+DOT^eTWO DOTS^cJEHcREH&FOUR DOTS^cSEEN&DOT_+DOT^
  eTHREE DOTS_h+THREE DOTS^cSAD&TWO DOTS_eTHREE DOTS^cTAH&THREE DOTS^cAIN&THREE DOTS^cDOTLESS FEH
  cFEH&DOT MOVED_f_cVEHcFEH&THREE DOTS_cPEHEHcQAF&DOT^eTHREE DOTS^cKEHEHcSWASH KAFcKAF&RINGeDOT^cNG
  cKAF&THREE DOTS_cGAFd&RINGcNGOEHcGAF&TWO DOTS_cGUEHcGAF&THREE DOTS^cLAM&,VeDOT^eTHREE DOTS^g_
  cNOON&DOT_dGHUNNAcRNOONcNOON&RINGeTHREE DOTS^cHEH DOACHASHMEEcTCHEH&DOT^cHEH&YEH^dGO#e&HAMZA^
  cTEH MARBUTA GO#cWAW&RINGcKIRGHIZ OEcOEcUcYUcKIRGHIZ YUcWAW&TWO DOTS^cVEcFARSI YEHcYEH&TAILe,V
  cWAW&DOT^cEcYEH&THREE DOTS_dBARREEe&HAMZA^bFULL STOPb.AEb,HIGH LIGATURE SAD&LAM&ALEF MAKSURA
  eQAF&LAM&ALEF MAKSURAdMEEM[%dLAM ALEFdJEEMdTHREE DOTSdSEENbEND OF AYAHbSTART OF RUB EL HIZB
  b,HIGH ROUNDED ZEROdUPRIGHT RECTANGULAR ZEROdDOTLESS HEAD OF KHAHdMEEM;%cLOW SEENcHIGH MADDAcWAW
  cYEHcHIGH YEHdNOONbPLACE OF SAJDAHbEMPTY CENTRE LOW STOPdHIGH STOPbROUNDED HIGH STOP&FILLED CENTRE
  b,LOW MEEMb.D#&INVERTED VcREH&INVERTED VaEXTENDED ARABIC-INDIC DIGIT ZEROdONEdTWOdTHREEdFOURdFIVE
  dSIXdSEVENdEIGHTdNINEaARABIC.SHEEN&DOT_cDAD&DOT_cGHAIN&DOT_b$SINDHI AMPERSANDdPOSTPOSITION MEN
  b.HEH&INVERTED VaSYRIAC END OF PARAGRAPHbSUPRALINEAR FULL STOPbSUBLINEAR FULL STOP
  bSUPRALINEAR COLONbSUBLINEAR COLONbHORIZONT#COLONbCOLON SKEWED<d>bSUPRALINEAR COLON SKEWED<
  bSUBLINEAR COLON SKEWED>bCONTRACTIONbHARKLEAN OBELUScMETOBELUScASTERISCUS=70FbABBREVIATION MARK
  b.ALAPHcSUPERSCRIPT ALAPHcBETHcGAM#dGARSHUNIcDALATHcDOTLESS DALATH RISHcHEcWAWcZAINcHETHcTETH
  dGARSHUNIcYUDHdHEcKAPHcLAMADHcMIMcNUNcSEMKATHc]SEMKATHcEcPEcREVERSED PEcSADHEcQAPHcRISHcSHINcTAW
  cPERSIAN BHETHdGHAM#dDHALATHbPTHAHA^c_cDOTTEDbZQAPHA^c_cDOTTEDbRBASA^c_bDOTTED ZLAMA HORIZONT#
  dANGULARbHBASA^c_bHBASA-ESASA DOTTEDbESASA^c_bRWAHAbFEMININE DOTbQUSHSHAYAbRUKKAKHAbTWO|DOTS^e_
  bTHREE DOTS^d_bOBLIQUE LINE^d_bMUSICbBARREKH=74Db.SOGDIAN ZHAINdKHAPHdFE
  aARABIC.BEH&THREE DOTS HORIZONTALLY_eDOT_+THREE DOTS^eTHREE DOTS POINTING UPWARDS_j+TWO DOTS^
  eTWO DOTS_+DOT^eINVERTED,V_e,VcHAH&TWO DOTS^eTHREE DOTS POINTING UPWARDS_
  cD#&TWO DOTS VERTICALLY_+,TAHeINVERTED,V_cREH&STROKEcSEEN&FOUR DOTS^cAIN&TWO DOTS^
  eTHREE DOTS POINTING DOWNWARDS^eTWO DOTS VERTICALLY^cFEH&TWO DOTS_eTHREE DOTS POINTING UPWARDS_
  cKEHEH&DOT^eTHREE DOTS^gPOINTING UPWARDS_cMEEM&DOT^f_cNOON&TWO DOTS_e,TAHfVcLAM&BAR
  cREH&TWO DOTS VERTICALLY^eHAMZA^cSEEN&TWO DOTS VERTICALLY^cHAH&,ARABIC.TAH_i+TWO DOTS
  cSEEN&,ARABIC.TAH+TWO DOTScREH&,ARABIC.TAH+TWO DOTScHAH&,ARABIC.TAH^
  cALEF&EXTENDED ARABIC-INDIC DIGIT TWO^hTHREE^cFARSI YEH&EXTENDED ARABIC-INDIC DIGIT TWO^iTHREE^
  iFOUR_cWAW&EXTENDED ARABIC-INDIC DIGIT TWO^hTHREE^cYEH BARREE&EXTENDED ARABIC-INDIC DIGIT TWO^
  iTHREE^cHAH&EXTENDED ARABIC-INDIC DIGIT FOUR_cSEEN&EXTENDED ARABIC-INDIC DIGIT FOUR^eINVERTED V
  cKAF&TWO DOTS^aTHAANA.HAAcSHAVIYANIcNOONUcRAAcBAAcLHAVIYANIcKAAFUcALIFUcVAAVUcMEEMUcFAAFUcDHAALU
  cTHAAcLAAMUcGAAFUcGNAVIYANIcSEENUcDAVIYANIcZAVIYANIcTAVIYANIcYAAcPAVIYANIcJAVIYANIcCHAVIYANIcTTAA
  cHHAAcKHAAcTHAALUcZAAcSHEENUcSAADHUcDAADHUcTOcZOcAINUcGHAINUcQAAFUcWAAVUbABAFILIbAABAAFILIbIBIFILI
  bEEBEEFILIbUBUFILIbOOBOOFILIbEBEFILIbEYBEYFILIbOBOFILIbOABOAFILIbSUKUNb.NAA=7C0aNKO DIGIT ZEROcONE
  cTWOcTHREEcFOURcFIVEcSIXcSEVENcEIGHTcNINEb.AcEEcIcEcUcOOcOcDAGBASINNAcNcBAcPAcTAcJAcCHAcDAcRAcRRA
  cSAcGBAcFAcKAcLAcNA WOLOSOcMAcNYAcNAcHAcWAcYAcNYA WOLOSOcJONA JAdCHAdRAbCOMBINING SHORT HIGH TONE
  dLOW TONEdRISING TONEcLONG DESCENDING TONEdHIGH TONEdLOW TONEdRISING TONEcNASALIZATION MARKc:DOT^
  bHIGH TONE APOSTROPHEbLOW TONE APOSTROPHEb?OO DENNENcGBAKURUNENbCOMMAbEXCLAMATION MARKbLAJANYALAN
  =7FDbDANTAYALANbDOROME$bTAMAN$aSAMARITAN.ALAFcBITcGAMANcDALATcIYcBAAcZENcITcTITcYUTcKAAFcLABATcMIM
  cNUNcSINGAATcINcFIcTSAADIYcQUFcRISHcSHANcTAAFbMARK INcIN-ALAFcOCCLUSIONcDAGESH
  bMODIFIER.EPENTHETIC YUTbMARK EPENTHETIC YUTbVOWEL$LONG EdEdOVERLONG AAdLONG AAdAAdOVERLONG A
  dLONG AdAbMODIFIER.SHORT AbVOWEL$SHORT AdLONG UdUbMODIFIER.IbVOWEL$LONG IdIdOdSUKUNbMARK NEQUDAA
  =830bPUNCTUATION NEQUDAAcAFSAAQcANGEDcBAUcATMAAUcSHIYYAALAAbABBREVIATION MARK
  bPUNCTUATION MELODIC QITSAcZIQAAcQITSAcZAEFcTURUcARKAANUcSOF MASHFAATcANNAAU=840aMANDAIC.HALQAcAB
  cAGcADcAHcUSHENNAcAZcITcATTcAKSAcAK*3cAScINcAPcASZcAQ*1cASHcATcDUSHENNAcKADcAINbAFFRICATION MARK
  bVOCALIZATION MARKbGEMINATION MARK=85EbPUNCTUATION=860aSYRIAC.MALAYALAM NGAdJAdNYAdTTAdNNAdNNNA
  dBHAdRAdLLAdLLLAdSSA=870aARABIC.ALEF&ATTACHED FATHAfTOP>FATHAe>MIDDLE STROKEe<MIDDLE STROKE
  eATTACHED KASRAfBOTTOM>KASRAfROUND DOT^f>ROUND DOTf<ROUND DOTfROUND DOT_eDOT^
  eATTACHED TOP>FATHA+DOT^e>MIDDLE STROKE+DOT^eATTACHED BOTTOM>KASRA+DOT^fTOP>FATHA+<RING
  e>MIDDLE STROKE+<RINGeATTACHED BOTTOM>KASRA+<RINGf>HAMZAf<HAMZAbTATWEEL&OVERSTRUCK HAMZAeWAW
  dTWO DOTS_b.THIN YEHbBASELINE ROUND DOTbRAISED ROUND DOTb.NOON&INVERTED,VcHAH&INVERTED,V_cTAH&DOT_
  eTHREE DOTS_cKEHEH&TWO DOTS VERTICALLY_b|TAIL=890bPOUND MARK^bPIASTRE MARK^=898b,HIGH WORD AL-JUZ
  cLOW WORD ISHMAAMeIMAALAeTASHEELbMADDA WAAJIBbSUPERSCRIPT ALEF MOKHASSASbDOUBLED MADDA
  bHALF MADDA OVER MADDAb.BEH&,V_eHAMZA^cJEEM&TWO DOTS^cTAH&TWO DOTS^cFEH&DOT_+THREE DOTS^cQAF&DOT_
  cLAM&:BARcMEEM&THREE DOTS^cYEH&TWO DOTS_+HAMZA^iDOT^cREH&LOOPcWAW&DOT WITHINcROHINGYA YEHcLOW ALEF
  cD#&THREE DOTS_cSAD&THREE DOTS_cGAF&INVERTED STROKEcSTRAIGHT WAWcZAIN&INVERTED V^cAIN&THREE DOTS_
  cKAF&DOT_cQAF&DOT_+NO DOTS^cBEH&,MEEM^cPEH&,MEEM^cTEH&,TEH^cREH&,NOON^cYEH&TWO DOTS_+,NOON^
  cAFRICAN FEHdQAFdNOONcPEH&,VcTEH&,VcTTEH&,VcTCHEH&,VcKEHEH&,VcGHAIN&THREE DOTS^
  cAFRICAN QAF&THREE DOTS^cJEEM&THREE DOTS^g_cLAM&,ARABIC.TAH^cGRAFb,FARSI YEHcHIGH FARSI YEH
  dYEH BARREE&TWO DOTS_dWORD SAHdZAHbLARGE ROUND DOT^e_bSUKUN_bLARGE CIRCLE_
  cROUND DOT INSIDE CIRCLE_b,LOW WAWcHIGH WORD AR-RUBdSADdAINdQAFdNOON&KASRAcLOW NOON&KASRA
  cHIGH WORD ATH-THALATHAeAS-SAJDAeAN-NISFeSAKTAeQIFeWAQFAdFOOTNOTE MARKERd$SAFHA
  bDISPUTED END OF AYAHbTURNED DAMMA_bCURLY FATHAcDAMMAcKASRAcFATHATANcDAMMATANcKASRATAN
  bTONE ONE DOT^cTWO DOTS^cLOOP^cONE DOT_cTWO DOTS_cLOOP_bOPEN FATHATANcDAMMATANcKASRATANb,HIGH WAW
  bFATHA&RINGdDOT^bKASRA&DOT_b<ARROWHEAD^b>ARROWHEAD^b<ARROWHEAD_b>ARROWHEAD_b:>ARROWHEAD^f&DOT
  b>ARROWHEAD^&DOTbDAMMA&DOTbMARK SIDEWAYS NOON GHUNNA"

end CaseDict.Text.CharacterName
