import CaseDict.Text.CharacterName.Listing
/-! # Further names -/

namespace CaseDict.Text.CharacterName

/-- Further names of characters; the control characters have no others. -/
def aliases : Listing :=
  "aNUL=0aNULLaSOH=1aSTART OF HEADINGcTEXT=2aSTXaEND OF TEXT=3aETXaEND OF TRANSMISSION=4aEOTaENQ=5
  aENQUIRYaACK=6aACKNOWLEDGEaALERT=7aBELaBACKSPACE=8aBSaCHARACTER TABULATION=9aHORIZONT#TABULATION=9
  aHT=9aTABaEND OF LINE=AaEOL=AaLF=AaLINE FEED=AaNEW LINE=AaNLaLINE TABULATION=Ba|TABULATION=BaVTaFF
  =Ca%FEEDaCARRIAGE RETURN=DaCRaLOCKING-SHIFT ONE=EaSHIFT OUT=EaSOaLOCKING-SHIFT ZERO=FaSHIFT IN=F
  aSIaDATA LINK ESCAPE=10aDLEaDC1=11aDEVICE CONTROL ONEaDC2=12aDEVICE CONTROL TWOaDC3=13
  aDEVICE CONTROL THREEaDC4=14aDEVICE CONTROL FOURaNAK=15aNEGATIVE ACKNOWLEDGEaSYN=16
  aSYNCHRONOUS IDLEaEND OF TRANSMISSION BLOCK=17aETBaCAN=18aCANCELaEND OF MEDIUM=19aEOMaSUB=1A
  aSUBSTITUTEaESC=1BaESCAPEaFILE SEPARATOR=1CaFS=1CaINFORMATION SEPARATOR FOURaGROUP SEPARATOR=1DaGS
  =1DaINFORMATION SEPARATOR THREEcTWO=1EaRECORD SEPARATOR=1EaRSaINFORMATION SEPARATOR ONE=1F
  aUNIT SEPARATOR=1FaUSaSP=7FaDEL=7FaDELETEaPAD=80aPADDING CHARACTERaHIGH OCTET PRESET=81aHOPaBPH=82
  aBREAK PERMITTED HEREaNBH=83aNO BREAK HEREaIND=84aINDEXaNEL=85aNEXT LINEaSSA=86
  aSTART OF SELECTED AREAaEND OF SELECTED AREA=87aESAaCHARACTER TABULATION SET=88
  aHORIZONT#TABULATION SET=88aHTSaCHARACTER TABULATION&JUSTIFICATION=89
  aHORIZONT#TABULATION&JUSTIFICATION=89aHTJaLINE TABULATION SET=8Aa|TABULATION SET=8AaVTS
  aPARTI#LINE DOWN=8BcFORWARD=8BaPLDaPARTI#LINE BACKWARD=8CcUP=8CaPLUaREVERSE INDEX=8DbLINE FEED=8D
  aRIaSINGLE SHIFT TWO=8EaSINGLE-SHIFT-2=8EaSS2aSINGLE SHIFT THREE=8FaSINGLE-SHIFT-3=8FaSS3aDCS=90
  aDEVICE CONTROL STRINGaPRIVATE USE ONE=91bUSE-1=91aPU1aPRIVATE USE TWO=92bUSE-2=92aPU2
  aSET TRANSMIT STATE=93aSTSaCANCEL CHARACTER=94aCCHaMESSAGE WAITING=95aMWaSPA=96
  aSTART OF GUARDED AREA=96cPROTECTED AREAaEND OF GUARDED AREA=97cPROTECTED AREA=97aEPAaSOS=98
  aSTART OF STRINGaSGC=99aSINGLE GRAPHIC CHARACTER INTRODUCERaSCI=9AaSINGLE CHARACTER INTRODUCER
  aCONTROL SEQUENCE INTRODUCER=9BaCSIaST=9CaSTRING TERMINATORaOPERATING SYSTEM COMMAND=9DaOSCaPM=9E
  aPRIVACY MESSAGEaAPC=9FaAPPLICATION PROGRAM COMMANDaNBSP=ADaSHY=1A2aLATIN!.GHAs=34FaCGJ=61CaALM
  =709aSYRIAC SUBLINEAR COLON SKEWED<=CDEaKANNADA.LLLA=E9DaLAO.FO FON=E9FdFAY=EA3cRO=EA5cLO=FD0
  aTIBETAN MARK BKA- SHOG GI MGO RGYAN=11ECaHANGUL JONGSEONG YESIEUNG-KIYEOKcYESIEUNG-SSANGKIYEOK
  cSSANGYESIEUNGcYESIEUNG-KHIEUKH=180BaFVS1*2aMVSaFVS4=200BaZWSPaZWNJaZWJaLRMaRLM=202AaLREaRLEaPDF
  aLROaRLOaNNBSP=205FaMMSPaWJ=2066aLRIaRLIaFSIaPDI=2118aWEIERSTRASS ELLIPTIC FUNCTION=2448
  aMICR ON US?bDASH?=2B7Aa(TRIANGLE-HEADED~&:|STROKE=2B7Ca)TRIANGLE-HEADED~&:|STROKE=A015
  aYI SYLLABLE ITERATION MARK=AA6EaMYANMAR.KHAMTI LLA=FE00aVS1*15=FE18
  aPRESENTATION%FOR|>WHITE LENTICULAR BRACKET=FEFFaBOM=FEFFaBYTE ORDER MARK=FEFFaZWNBSP=122D4
  aCUNEIFORM$NU11 TENUdOVER NU11 BUR OVER BUR=16E56aMEDEFAIDRIN!.HdNG=16E76b,.HdNG=1B001
  aHENTAIGANA.E-1=1D0C5aBYZANTINE MUSIC#?FTHORA SKLIRON CHROMA VASIS=E0100aVS17*239"

end CaseDict.Text.CharacterName
