import CaseDict.Text.CharacterName.Listing
/-! # Names of phonetic and accented characters -/

namespace CaseDict.Text.CharacterName

/-- Names of phonetic letters and of Latin and Greek letters with accents, below U+2000. -/
def phonetic : Listing :=
  "=1D00aLATIN.,!AeAEb,.TURNED AEb.,!BARRED BeC*1eETHeEb,.TURNED OPEN EeIb.,!J*1eL&STROKEeM
  eREVERSED NeOeOPEN Ob,.SIDEWAYS OeOPEN OeO&STROKEdTURNED OEb.,!OUb,.TOP HALF OdBOTTOM HALF Ob.,!P
  eREVERSED ReTURNED ReT*1b,.SIDEWAYS UeDIAERESIZED UeTURNED Mb.,!V*1eZeEZHcVOICED LARYNGE#SPIRANT
  cAINaGREEK.,!GAMMAeLAMDAePIeRHOePSIaCYRILLIC.,!ELaMODIFIER.!AdAEdBdBARRED BdD*1dREVERSED EdG*7
  dREVERSED NdOdOUdPdRdT*1dWc,AdTURNED AdALPHAdTURNED AEdBdD*1dSCHWAdOPEN EdTURNED OPEN EdGdTURNED I
  dKdMdENGdOdOPEN OdTOP HALF OdBOTTOM HALF OdPdT*1dSIDEWAYS UdTURNED MdVdAINdBETAdGREEK GAMMAdDELTA
  dGREEK PHIdCHIaLATIN SUBSCRIPT,.IeReU*1aGREEK SUBSCRIPT,.BETAeGAMMAeRHOePHIeCHIaLATIN,.UE
  dB&MIDDLE TILDEdD&MIDDLE TILDEdF&MIDDLE TILDEdM&MIDDLE TILDEdN&MIDDLE TILDEdP&MIDDLE TILDE
  dR&MIDDLE TILDEfFISHHOOK+MIDDLE TILDEdS&MIDDLE TILDEdT&MIDDLE TILDEdZ&MIDDLE TILDEdTURNED G
  aMODIFIER.CYRILLIC ENaLATIN,.INSULAR GdTH&STRIKETHROUGHc!.I&STROKEc.IOTA&STROKEdP&STROKE
  c!.U&STROKEc.UPSILON&STROKEdB&PALAT#HOOKdD&PALAT#HOOKdF&PALAT#HOOKdG&PALAT#HOOKdK&PALAT#HOOK
  dL&PALAT#HOOKdM&PALAT#HOOKdN&PALAT#HOOKdP&PALAT#HOOKdR&PALAT#HOOKdS&PALAT#HOOKdESH&PALAT#HOOK
  dV&PALAT#HOOKdX&PALAT#HOOKdZ&PALAT#HOOKdA&RETROFLEX HOOKdALPHA&RETROFLEX HOOKdD&HOOK+TAIL
  dE&RETROFLEX HOOKdOPEN E&RETROFLEX HOOKdREVERSED OPEN E&RETROFLEX HOOKdSCHWA&RETROFLEX HOOK
  dI&RETROFLEX HOOKdOPEN O&RETROFLEX HOOKdESH&RETROFLEX HOOKdU&RETROFLEX HOOKdEZH&RETROFLEX HOOK
  aMODIFIER.,TURNED ALPHAdCe&CURLdETHdREVERSED OPEN EdFdDOTLESS J&STROKEdSCRIPT GdTURNED HdI&STROKE
  dIOTAd!If&STROKEdJ&CROSSED-TAILdL&RETROFLEX HOOKfPALAT#HOOKd!LdM&HOOKdTURNED M&LONG LEGdN&<HOOK
  fRETROFLEX HOOKd!NdBARRED OdPHIdS&HOOKdESHdT&PALAT#HOOKdU BARdUPSILONd!UdV&HOOKdTURNED VdZ
  e&RETROFLEX HOOKfCURLdEZHdTHETAaCOMBINING DOTTED GRAVE ACCENTcACUTE ACCENTbSNAKE_bSUSPENSION MARK
  bMACRON-ACUTEbGRAVE-MACRONbMACRON-GRAVEbACUTE-MACRONbGRAVE-ACUTE-GRAVEbACUTE-GRAVE-ACUTEbLATIN,.R_
  bBREVE-MACRONbMACRON-BREVEb:CIRCUMFLEX^bOGONEK^bZIGZAG_bIS_bUR^bUS^bLATIN,.FLATTENED OPEN A^eAEeAO
  eAVeC CEDILLAeINSULAR DeETHeGc.,!Gc,.K*1c.,!L*1c,.Nc.,!NfRc,.R ROTUNDAeSeLONG SeZeALPHAeBeBETA
  eSCHWAeFeL&:MIDDLE TILDEeO&LIGHT CENTRALIZATION STROKEePeESHeU&LIGHT CENTRALIZATION STROKEeW
  eA&DIAERESISeO&DIAERESISeU&DIAERESISbUP TACK^bKAVYKA^>d<bDOT^<bWIDE INVERTED BRIDGE_bDOT_<
  bDELETION MARKb:INVERTED BREVE_bALMOST EQU#TO_b<ARROWHEAD^b>ARROWHEAD+DOWN ARROWHEAD_
  aLATIN!.A&RING_sdB&DOT^sg_sfLINE_sdC&CEDILLA+ACUTEsdD&DOT^sg_sfLINE_sfCEDILLAsfCIRCUMFLEX_s
  dE&MACRON+GRAVEshACUTEsfCIRCUMFLEX_sfTILDE_sfCEDILLA+BREVEsdF&DOT^sdG&MACRONsdH&DOT^sg_sfDIAERESIS
  sfCEDILLAsfBREVE_sdI&TILDE_sfDIAERESIS+ACUTEsdK&ACUTEsfDOT_sfLINE_sdL&DOT_sh+MACRONsfLINE_s
  fCIRCUMFLEX_sdM&ACUTEsfDOT^sg_sdN&DOT^sg_sfLINE_sfCIRCUMFLEX_sdO&TILDE+ACUTEshDIAERESISs
  fMACRON+GRAVEshACUTEsdP&ACUTEsfDOT^sdR&DOT^sg_sh+MACRONsfLINE_sdS&DOT^sg_sfACUTE+DOT^sfCARON+DOT^s
  fDOT_+DOT^sdT&DOT^sg_sfLINE_sfCIRCUMFLEX_sdU&DIAERESIS_sfTILDE_sfCIRCUMFLEX_sfTILDE+ACUTEs
  fMACRON+DIAERESISsdV&TILDEsfDOT_sdW&GRAVEsfACUTEsfDIAERESISsfDOT^sg_sdX&DOT^sfDIAERESISsdY&DOT^s
  dZ&CIRCUMFLEXsfDOT_sfLINE_sb,.H&LINE_dT&DIAERESISdW&RING^dY&RING^dA&>HALF RINGdLONG S&DOT^
  gDIAGON#STROKEgHIGH STROKEb!.SHARP Sb,.DELTAb!.A&DOT_sfHOOK^sfCIRCUMFLEX+ACUTEshGRAVEshHOOK^s
  hTILDEshDOT_sfBREVE+ACUTEshGRAVEshHOOK^shTILDEshDOT_sdE&DOT_sfHOOK^sfTILDEsfCIRCUMFLEX+ACUTEs
  hGRAVEshHOOK^shTILDEshDOT_sdI&HOOK^sfDOT_sdO&DOT_sfHOOK^sfCIRCUMFLEX+ACUTEshGRAVEshHOOK^shTILDEs
  hDOT_sfHORN+ACUTEshGRAVEshHOOK^shTILDEshDOT_sdU&DOT_sfHOOK^sfHORN+ACUTEshGRAVEshHOOK^shTILDEshDOT_
  sdY&GRAVEsfDOT_sfHOOK^sfTILDEsdMIDDLE-WELSH LLseVsdY&LOOPsaGREEK,.ALPHA&PSILIfDASIAfPSILI+VARIA
  fDASIA+VARIAfPSILI+OXIAfDASIA+OXIAfPSILI+PERISPOMENIfDASIA+PERISPOMENIb!.ALPHA&PSILIfDASIA
  fPSILI+VARIAfDASIA+VARIAfPSILI+OXIAfDASIA+OXIAfPSILI+PERISPOMENIfDASIA+PERISPOMENIb,.EPSILON&PSILI
  fDASIAfPSILI+VARIAfDASIA+VARIAfPSILI+OXIAfDASIA+OXIA=1F18b!.EPSILON&PSILIfDASIAfPSILI+VARIA
  fDASIA+VARIAfPSILI+OXIAfDASIA+OXIA=1F20b,.ETA&PSILIfDASIAfPSILI+VARIAfDASIA+VARIAfPSILI+OXIA
  fDASIA+OXIAfPSILI+PERISPOMENIfDASIA+PERISPOMENIb!.ETA&PSILIfDASIAfPSILI+VARIAfDASIA+VARIA
  fPSILI+OXIAfDASIA+OXIAfPSILI+PERISPOMENIfDASIA+PERISPOMENIb,.IOTA&PSILIfDASIAfPSILI+VARIA
  fDASIA+VARIAfPSILI+OXIAfDASIA+OXIAfPSILI+PERISPOMENIfDASIA+PERISPOMENIb!.IOTA&PSILIfDASIA
  fPSILI+VARIAfDASIA+VARIAfPSILI+OXIAfDASIA+OXIAfPSILI+PERISPOMENIfDASIA+PERISPOMENIb,.OMICRON&PSILI
  fDASIAfPSILI+VARIAfDASIA+VARIAfPSILI+OXIAfDASIA+OXIA=1F48b!.OMICRON&PSILIfDASIAfPSILI+VARIA
  fDASIA+VARIAfPSILI+OXIAfDASIA+OXIA=1F50b,.UPSILON&PSILIfDASIAfPSILI+VARIAfDASIA+VARIAfPSILI+OXIA
  fDASIA+OXIAfPSILI+PERISPOMENIfDASIA+PERISPOMENI=1F59b!.UPSILON&DASIA=1F5Bg+VARIA=1F5DhOXIA=1F5F
  hPERISPOMENIb,.OMEGA&PSILIfDASIAfPSILI+VARIAfDASIA+VARIAfPSILI+OXIAfDASIA+OXIAfPSILI+PERISPOMENI
  fDASIA+PERISPOMENIb!.OMEGA&PSILIfDASIAfPSILI+VARIAfDASIA+VARIAfPSILI+OXIAfDASIA+OXIA
  fPSILI+PERISPOMENIfDASIA+PERISPOMENIb,.ALPHA&VARIAfOXIAdEPSILON&VARIAfOXIAdETA&VARIAfOXIA
  dIOTA&VARIAfOXIAdOMICRON&VARIAfOXIAdUPSILON&VARIAfOXIAdOMEGA&VARIAfOXIA=1F80
  dALPHA&PSILI+YPOGEGRAMMENIfDASIA+YPOGEGRAMMENIfPSILI+VARIA+YPOGEGRAMMENIfDASIA+VARIA+YPOGEGRAMMENI
  fPSILI+OXIA+YPOGEGRAMMENIfDASIA+OXIA+YPOGEGRAMMENIfPSILI+PERISPOMENI+YPOGEGRAMMENI
  fDASIA+PERISPOMENI+YPOGEGRAMMENIb!.ALPHA&PSILI+PROSGEGRAMMENIfDASIA+PROSGEGRAMMENI
  fPSILI+VARIA+PROSGEGRAMMENIfDASIA+VARIA+PROSGEGRAMMENIfPSILI+OXIA+PROSGEGRAMMENI
  fDASIA+OXIA+PROSGEGRAMMENIfPSILI+PERISPOMENI+PROSGEGRAMMENIfDASIA+PERISPOMENI+PROSGEGRAMMENI
  b,.ETA&PSILI+YPOGEGRAMMENIfDASIA+YPOGEGRAMMENIfPSILI+VARIA+YPOGEGRAMMENIfDASIA+VARIA+YPOGEGRAMMENI
  fPSILI+OXIA+YPOGEGRAMMENIfDASIA+OXIA+YPOGEGRAMMENIfPSILI+PERISPOMENI+YPOGEGRAMMENI
  fDASIA+PERISPOMENI+YPOGEGRAMMENIb!.ETA&PSILI+PROSGEGRAMMENIfDASIA+PROSGEGRAMMENI
  fPSILI+VARIA+PROSGEGRAMMENIfDASIA+VARIA+PROSGEGRAMMENIfPSILI+OXIA+PROSGEGRAMMENI
  fDASIA+OXIA+PROSGEGRAMMENIfPSILI+PERISPOMENI+PROSGEGRAMMENIfDASIA+PERISPOMENI+PROSGEGRAMMENI
  b,.OMEGA&PSILI+YPOGEGRAMMENIfDASIA+YPOGEGRAMMENIfPSILI+VARIA+YPOGEGRAMMENI
  fDASIA+VARIA+YPOGEGRAMMENIfPSILI+OXIA+YPOGEGRAMMENIfDASIA+OXIA+YPOGEGRAMMENI
  fPSILI+PERISPOMENI+YPOGEGRAMMENIfDASIA+PERISPOMENI+YPOGEGRAMMENIb!.OMEGA&PSILI+PROSGEGRAMMENI
  fDASIA+PROSGEGRAMMENIfPSILI+VARIA+PROSGEGRAMMENIfDASIA+VARIA+PROSGEGRAMMENI
  fPSILI+OXIA+PROSGEGRAMMENIfDASIA+OXIA+PROSGEGRAMMENIfPSILI+PERISPOMENI+PROSGEGRAMMENI
  fDASIA+PERISPOMENI+PROSGEGRAMMENIb,.ALPHA&VRACHYfMACRONfVARIA+YPOGEGRAMMENIfYPOGEGRAMMENI
  fOXIA+YPOGEGRAMMENI=1FB6fPERISPOMENIg+YPOGEGRAMMENIb!.ALPHA&VRACHYfMACRONfVARIAfOXIA
  fPROSGEGRAMMENIbKORONISbPROSGEGRAMMENIbPSILIbPERISPOMENIbDIALYTIKA+PERISPOMENI
  b,.ETA&VARIA+YPOGEGRAMMENIfYPOGEGRAMMENIfOXIA+YPOGEGRAMMENI=1FC6fPERISPOMENIg+YPOGEGRAMMENI
  b!.EPSILON&VARIAfOXIAdETA&VARIAfOXIAfPROSGEGRAMMENIbPSILI+VARIAdOXIAdPERISPOMENIb,.IOTA&VRACHY
  fMACRONfDIALYTIKA+VARIAhOXIA=1FD6fPERISPOMENIfDIALYTIKA+PERISPOMENIb!.IOTA&VRACHYfMACRONfVARIA
  fOXIA=1FDDbDASIA+VARIAdOXIAdPERISPOMENIb,.UPSILON&VRACHYfMACRONfDIALYTIKA+VARIAhOXIAdRHO&PSILI
  fDASIAdUPSILON&PERISPOMENIfDIALYTIKA+PERISPOMENIb!.UPSILON&VRACHYfMACRONfVARIAfOXIAdRHO&DASIA
  bDIALYTIKA+VARIAdOXIAbVARIA=1FF2b,.OMEGA&VARIA+YPOGEGRAMMENIfYPOGEGRAMMENIfOXIA+YPOGEGRAMMENI=1FF6
  fPERISPOMENIg+YPOGEGRAMMENIb!.OMICRON&VARIAfOXIAdOMEGA&VARIAfOXIAfPROSGEGRAMMENIbOXIAbDASIA"

end CaseDict.Text.CharacterName
