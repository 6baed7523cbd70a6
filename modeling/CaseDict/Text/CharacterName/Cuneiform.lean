import CaseDict.Text.CharacterName.Listing
/-! # Names of cuneiform signs and hieroglyphs -/

namespace CaseDict.Text.CharacterName

/-- Names of cuneiform signs and hieroglyphs and of African scripts, below U+17000. -/
def cuneiform : Listing :=
  "=12000aCUNEIFORM$AdTIMES AeBADeGAN2 TENUeHAeIGIeLAGAR GUNUeMUSHeSAGcA2cABdTIMES ASH2eDUN3 GUNUeG#
  eGAN2 TENUeHAeIGI GUNUeIMINeLAGABeSHESHeU PLUS U PLUS UdGUNUcAB2dTIMES BALAGeGAN2 TENUeME PLUS EN
  eSHA3eTAK4cADcAKdTIMES ERIN2eSHITA PLUS GISHcALdTIMES ALeDIM2eGISHeHAeKAD3eKIeSHEeUSHcALANcALEPH
  cAMARdTIMES SHEcANdOVER ANdTHREE TIMESdPLUS NAGA OPPOSING AN PLUS NAGAfSQUAREDcANSHEcAPINcARAD
  dTIMES KURcARKABcASAL2cASHdZIDA TENUdKABA TENUdOVER ASH TUG2 OVER TUG2 TUG2 OVER TUG2 PAPfOVER ASH
  hCROSSING ASH OVER ASH OVER ASHcASH2cASHGABcBAcBADcBAG3cBAHAR2cB#dOVER B#cBALAGcBARcBARA2cBI
  dTIMES AeGAReIGI GUNUcBUdOVER BU ABfUNdCROSSING BUcBULUGdOVER BULUGcBURcBUR2cDAcDAG
  dKISIM5 TIMES A PLUS MASHfAMARfBALAGfBIfGAgPLUS MASHfGIfGIR2fGUDfHAfIRgPLUS LUfKAKfLAfLU
  gPLUS MASH2fLUMfNEfPAP PLUS PAPfSIfTAK4fU2 PLUS GIR2fUSHcDAMcDARcDARA3*1cDIcDIBcDIMdTIMES SHEcDIM2
  cDINdKASK#U GUNU DISHcDISHcDUdOVER DUdGUNUdSHESHIGcDUBdTIMES ESH2cDUB2cDUGcDUGUDcDUHcDUNcDUN3dGUNU
  eGUNUcDUN4cDUR2cEdTIMES PAPdOVER E NUN OVER NUNcE2dTIMES A PLUS HA PLUS DAeGAReMIeS#eSHEeUcEDIN
  cEGIRcELcENdTIMES GAN2fTENUeMEdCROSSING ENdOPPOSING ENdSQUAREDcERENcERIN2cESH2cEZENdTIMES A
  fPLUS L#hTIMES L#eANeBADeDUN3 GUNUgGUNUeHAfGUNUeIGI GUNUeKASK#fSQUAREDeKU3eLAeL#TIMES L#eLIeLUeU2
  eUDcGAdGUNUcGA2dTIMES A PLUS DA PLUS HAgHAgIGIeAB2 TENU PLUS TABeANeASHeASH2 PLUS G#eBAD
  eBAR PLUS RAeBURfPLUS RAeDAeDIeDIM TIMES SHEeDUBeELfPLUS LAeENfTIMES GAN2 TENUeGAN2 TENUeGAReGI
  eGI4fPLUS AeGIR2 PLUS SUeHA PLUS LU PLUS ESH2eH#fPLUS LAeHI PLUS LIeHUB2eIGI GUNU
  eISH PLUS HU PLUS ASHeKAKeKASK#eKIDfPLUS L#eKU3 PLUS ANeLAeME PLUS ENeMIeNUNfOVER NUNePAeS#eSAR
  eSHEfPLUS TUReSHIDeSUMeTAK4eUeUDfPLUS DUdOVER GA2cGABAdCROSSING GABAcGADdOVER GAD GAR OVER GARcG#
  dGAD OVER GAD GAR OVER GARcGALAMcGAM*1cGAN2dTENUdOVER GAN2dCROSSING GAN2cGARcGAR3cGASHANcGESHTIN
  dTIMES KURcGIdTIMES EeUdCROSSING GIcGI4dOVER GI4dCROSSING GI4cGIDIMcGIR2dGUNUcGIR3
  dTIMES A PLUS IGIeGAN2 TENUeIGIeLU PLUS IGIePAcGIS#cGISHdCROSSING GISHdTIMES BADeTAK4dTENUcGU
  dCROSSING GUcGU2dTIMES KAKfTIMES IGI GUNUeNUNeS#PLUS TUG2dGUNUcGUDdTIMES A PLUS KUReKUR
  dOVER GUD LUG#cGUL*1dTIMES SHEcGURcGUR7cGURUNcGURUSHcHAdTENUdGUNUcH#cHIdTIMES ASHeASH2eBADeDISH
  eGADeKINeNUNeSHEeUcHUcHUB2dTIMES ANeH#eKASK#eLISHeUDcHUL2cIdAcIBcIDIMdOVER IDIM BURfSQUAREDcIGcIGI
  dDIBdRIdOVER IGI SHIR OVER SHIR UD OVER UDdGUNUcILdTIMES GAN2 TENUcIL2cIMdTIMES TAK4dCROSSING IM
  dOPPOSING IMdSQUAREDcIMINcINcIRcISHcKAdTIMES AeADfPLUS KU3eASH2eBADeBALAGeBAReBIeERIN2eESH2eGAeG#
  eGAN2 TENUeGARfPLUS SHA3 PLUS AeGIeGIR2eGISH PLUS SARfCROSSING GISHeGUeGUR7eIGIeIMeKAKeKIeKIDeLI
  eLUeMEfPLUS DUgGIgTEeMIfPLUS NUNUZeNEeNUNePIeRUeSAeSAReSHAeSHEeSHIDeSHUeSIGeSUHUReTAReUeU2eUD
  eUMUM TIMES PAeUSHeZIcKA2dCROSSING KA2cKABcKAD2*3dOVER KAD5cKAKdTIMES IGI GUNUcK#dTIMES BAD
  dCROSSING K#cKAM2cKAM4cKASK#dLAGAB TIMES U OVER LAGAB TIMES U
  dOVER KASK#LAGAB TIMES U OVER LAGAB TIMES UcKESH2cKIdTIMES BADeUeUDcKIDcKINcKIS#cKISHcKISIM5
  dOVER KISIM5cKUdOVER HI TIMES ASH2 KU OVER HI TIMES ASH2cKU3*1dVARIANT%cKU7cKULdGUNUcKUNcKUR
  dOPPOSING KURcKUSHU2cKWU318cLAcLAGABdTIMES AfPLUS DA PLUS HAgGARgL#eALeANeASH ZIDA TENUeBADeBIeDAR
  eENeGAeGAReGUDfPLUS GUDeHAeH#eHI TIMES NUNeIGI GUNUeIMfPLUS HAgLUeKIeKINeKU3eKULfPLUS HI PLUS A
  eLAGABeLISHeLUeLULeMEfPLUS ENeMUSHeNEeSHE PLUS SUMeSHITA PLUS GISH PLUS ERIN2hTENUeSHU2fPLUS SHU2
  eSUMeTAGeTAK4eTE PLUS A PLUS SU PLUS NAeUfPLUS AgU PLUS UeU2 PLUS ASHeUDeUSHdSQUAREDcLAGAR
  dTIMES SHEfPLUS SUMdGUNUeOVER LAGAR GUNU SHEcLAHSHUcL#dTIMES L#cLAMdTIMES KURfPLUS RUcLIcLIL
  cLIMMU2cLISHcLUdTIMES BADcLU2dTIMES ALeBADeESH2fTENUeGAN2 TENUeHI TIMES BADeIMeKAD2*1fPLUS ASHeKI
  eLA PLUS ASHeLAGABeME PLUS ENeNEeNUeSI PLUS ASHeSIK2 PLUS BUeTUG2dTENUdCROSSING LU2dOPPOSING LU2
  dSQUAREDdSHESHIGcLU3cLUG#dOVER LUG#dOPPOSING LUG#dSHESHIGcLUHcLUL*1dOVER LUMfGAR OVER GARcMA
  dTIMES TAK4dGUNUcMA2cMAHcMARcMASHcMASH2cMEcMEScMIcMINcMUdOVER MUcMUGdGUNUcMUNSUBcMURGU2cMUSH
  dTIMES AeKUReZAdOVER MUSHfTIMES A PLUS NAdCROSSING MUSHcMUSH3dTIMES AfPLUS DIeDIdGUNUcNAcNA2cNAGA
  dINVERTEDdTIMES SHU TENUdOPPOSING NAGAcNAGARcNAM NUTILLUcNAMcNAM2cNEdTIMES AeUDdSHESHIGcNIdTIMES E
  cNI2cNIMdTIMES GAN2 TENUeGAR PLUS GAN2 TENUcNINDA2dTIMES ANeASHfPLUS ASHeGUDeME PLUS GAN2 TENUeNE
  eNUNeSHEfPLUS A ANgASHhPLUS ASHeU2 PLUS ASHeUSHcNISAGcNUcNU11cNUNdLAGAR TIMES GARfMASHfS#
  gOVER NUN LAGAR TIMES S#fUSHdTENUdOVER NUNdCROSSING NUNfLAGAR OVER LAGARcNUNUZdAB2 TIMES ASHGABfBI
  fDUGfGUDfIGI GUNUfKAD3fLAfNEfSILA3fU2dKISIM5 TIMES BIgUcPAcPADcPANcPAPcPESH2cPIdTIMES AeABeBIeBUeE
  eIeIBeUeU2dCROSSING PIcPIRIGdTIMES K#eUDeZAdOPPOSING PIRIGcRAcRABcRIcRUcSAcSAG NUTILLUcSAGdTIMES A
  eDUeDUBeHAeKAKeKUReLUMeMIeNUNeS#eSHIDeTABeU2eUBeUMeUReUSHdOVER SAGdGUNUcS#dLAGAB TIMES ASH2cSANGA2
  cSARcSHAcSHA3dTIMES AeBADeGISHeNEeSHU2eTUReUfPLUS AcSHA6cSHAB6cSHAR2cSHEdHU
  dOVER SHE GAD OVER GAD GAR OVER GARfTAB OVER TAB GAR OVER GARcSHEG9cSHENcSHESHcSHESH2cSHESHLAM
  cSHIDdTIMES AeIMcSHIMdTIMES AeB#eBULUGeDINeGAReIGIfGUNUeKUSHU2eLULeMUGeS#cSHINIGcSHIRdTENU
  dOVER SHIR BUR OVER BURcSHITAcSHUdOVER INVERTED SHUcSHU2cSHUBURcSIdGUNUcSIGcSIG4dOVER SIG4 SHU2
  cSIK2cSILA3cSUdOVER SUcSUDcSUD2cSUHURcSUMcSUMASHcSURcSUR9cTAdASTERISKdTIMES HIeMIdGUNUcTAB
  dOVER TAB NI OVER NI DISH OVER DISHdSQUAREDcTAGdTIMES BIeGUDeSHEeSHUeTUG2eUDcTAK4cTARcTEdGUNUcTI
  dTENUcTILcTIRdTIMES TAK4dOVER TIRfGAD OVER GAD GAR OVER GARcTUcTUG2cTUKcTUMcTUR
  dOVER TUR ZA OVER ZAcUdGUDdU UdOVER U PA OVER PA GAR OVER GARfSUR OVER SUR
  fU REVERSED OVER U REVERSEDcU2cUBcUDdKUSHU2dTIMES BADeMIeU PLUS U PLUS UjGUNUdGUNUdSHESHIG
  eTIMES BADcUDUGcUMdTIMES LAGABeME PLUS DAeSHA3eUcUMBINcUMUMdTIMES KASK#ePAcUNdGUNUcURdCROSSING UR
  dSHESHIGcUR2dTIMES A PLUS HAgNAeALeHAeNUNeU2fPLUS ASHgBIcUR4cURIcURI3cURUdTIMES AeASHGABeBAReDUN
  eGAeG#eGAN2 TENUeGAReGUeHAeIGIeIMeISHeKIeLUMeMINePAeSHEeSIG4eTUeU PLUS GUDeUDeURUDAcURUDAdTIMES U
  cUSHdTIMES AeKUeKUReTAK4cUSHXcUSH2cUSHUMXcUTUKIcUZ3dTIMES KASK#cUZUcZAdTENUdSQUARED TIMES KURcZAG
  cZAMXcZE2cZIdOVER ZIcZI3cZIBdKABA TENUcZIGcZIZ2cZUcZU5dTIMES AcZUBURcZUMcKAP ELAMITEcAB TIMES NUN
  cAB2 TIMES AcAMAR TIMES KUGcDAG KISIM5 TIMES U2 PLUS MASHcDAG3cDISH PLUS SHUcDUB TIMES SHE
  cEZEN TIMES GUDeSHEcGA2 TIMES AN PLUS KAK PLUS AeASH2cGE22cGIGcHUSHcKA TIMES ANSHEeASH3eGISHeGUD
  eHI TIMES ASH2eLUMePAeSHULeTUeUR2cLAGAB TIMES GIcLU2 SHESHIG TIMES BADdTIMES ESH2 PLUS L#eSHUcMESH
  cMUSH3 TIMES ZAcNA4cNINcNIN9cNINDA2 TIMES B#eGIcNU11 ROTATED NINETY DEGREEScPESH2 ASTERISKcPIR2
  cSAG TIMES IGI GUNUcTI2cUM TIMES MEcU U=12400bNUMERIC$TWO ASHdTHREE ASHdFOUR ASHdFIVE ASHdSIX ASH
  dSEVEN ASHdEIGHT ASHdNINE ASHdTHREE DISHdFOUR DISHdFIVE DISHdSIX DISHdSEVEN DISHdEIGHT DISH
  dNINE DISHdFOUR UdFIVE UdSIX UdSEVEN UdEIGHT UdNINE UdONE GESH2dTWO GESH2dTHREE GESH2dFOUR GESH2
  dFIVE GESH2dSIX GESH2dSEVEN GESH2dEIGHT GESH2dNINE GESH2dONE GESHUdTWO GESHUdTHREE GESHU
  dFOUR GESHUdFIVE GESHUdTWO SHAR2dTHREE SHAR2fVARIANT%dFOUR SHAR2dFIVE SHAR2dSIX SHAR2dSEVEN SHAR2
  dEIGHT SHAR2dNINE SHAR2dONE SHARUdTWO SHARUdTHREE SHARUfVARIANT%dFOUR SHARUdFIVE SHARU
  dSHAR2 TIMES G#PLUS DISHhMINdONE BURUdTWO BURUdTHREE BURUfVARIANT%dFOUR BURUdFIVE BURU
  dTHREE VARIANT%ESH16gESH21dFOUR VARIANT%LIMMUgLIMMU4gLIMMU A*1dSIX VARIANT%ASH9
  dSEVEN VARIANT%IMIN3gIMIN A*1dEIGHT VARIANT%USSUgUSSU3dNINE VARIANT%ILIMMUgILIMMU3*1gILIMMU A
  dTWO ASH TENUdTHREE ASH TENUdFOUR ASH TENUdFIVE ASH TENUdSIX ASH TENUdONE BAN2dTWO BAN2dTHREE BAN2
  dFOUR BAN2fVARIANT%dFIVE BAN2fVARIANT%dNIGIDAMINdNIGIDAESHdONE ESHE3dTWO ESHE3dONE THIRD DISH
  dTWO THIRDS DISHdFIVE SIXTHS DISHdONE THIRD VARIANT%AdTWO THIRDS VARIANT%AdONE EIGHTH ASH
  eQUARTER ASHdOLD ASSYRIAN ONE SIXTHgQUARTERdONE QUARTER GUReHALF GURdELAMITE ONE THIRDeTWO THIRDS
  eFORTYeFIFTYdFOUR U VARIANT%dFIVE U VARIANT%dSIX U VARIANT%dSEVEN U VARIANT%dEIGHT U VARIANT%
  dNINE U VARIANT%=12470bPUNCTUATION$OLD ASSYRIAN WORD DIVIDERd|COLONdDIAGON#COLONeTRICOLON
  eQUADCOLON=12480b$AB TIMES NUN TENUeSHU2cAD TIMES ESH2cBAD TIMES DISH TENUcBAHAR2 TIMES AB2eNIeZA
  cBU OVER BU TIMES NA2cDA TIMES TAK4cDAG TIMES KURcDIM TIMES IGIeU U UcDIM2 TIMES UD
  cDUG TIMES ANSHEeASHfAT<eDINeDUNeERIN2eGAeGIeGIR2 GUNUeGISHeHAeHIeIGI GUNUeKASK#eKUReKUSHU2
  fPLUS KASK#eLAK-020eLAMfTIMES KUReLUH PLUS GISHeMASHeMESeMIeNIePIeSHEeSI GUNUcE2 TIMES KURePAP
  cERIN2 XcESH2 CROSSING ESH2cEZEN SHESHIG TIMES ASHfHIfIGI GUNUfLAfL#fMEfMESfSUdTIMES SU
  cGA2 TIMES BAHAR2eDIM GUNUeDUG TIMES IGI GUNUgKASK#eERENeGAeGAR PLUS DIgNEeHA PLUS A
  eKUSHU2 PLUS KASK#eLAMfTIMES KUReLUHeMUSHeNEfPLUS E2gGIeSHIMeZIZ2cGABA ROTATED NINETY DEGREES
  cGESHTIN TIMES UcGISH TIMES GISH CROSSING GISHcGU2 TIMES IGI GUNUcGUD PLUS GISH TIMES TAK4
  cHA TENU GUNUcHI TIMES ASH OVER HI TIMES ASHcKA TIMES BUeKAeU U UeURcLAGAB TIMES ZU OVER ZU
  cLAK-003cLAK-021cLAK-025cLAK-030cLAK-050*1cLAK-062cLAK-079 OVER LAK-079 GUNUcLAK-080
  cLAK-081 OVER LAK-081cLAK-092cLAK-130cLAK-142cLAK-210cLAK-219*1cLAK-225cLAK-228cLAK-238cLAK-265*1
  cLAK-343cLAK-347*1cLAK-383*1cLAK-390cLAK-441cLAK-449dTIMES GUeIGIePAP PLUS LU3gPAP PLUS LU3
  eU2 PLUS BAcLAK-450cLAK-457cLAK-470cLAK-483cLAK-490cLAK-492*1cLAK-495cLAK-550cLAK-608cLAK-617
  dTIMES ASHeBADeDUN3 GUNU GUNUeKU3eLAeTAReTEeU2eUDeURUDAcLAK-636cLAK-648dTIMES DUBeGAeIGIfGUNUeNI
  ePAP PLUS PAP PLUS LU3eSHESH PLUS KIeUDeURUDAcLAK-724cLAK-749cLU2 GUNU TIMES ASHdTIMES DISHeH#ePAP
  fPLUS PAP PLUS LU3eTAK4cMI PLUS ZA7cMUSH OVER MUSH TIMES GAgKAKcNINDA2 TIMES DIM GUNUeGISHeGULeHI
  eKESH2eLAK-050eMASHePAP PLUS PAPeUfPLUS UeURUDAcSAG GUNU TIMES HAdTIMES ENeSHE AT<eTAK4cSHA6 TENU
  cSHE OVER SHEdPLUS HUB2eNAM2eSARcSHU2 PLUS DUG TIMES NIeE2 TIMES ANcSI TIMES TAK4cTAK4 PLUS SAG
  cTUM TIMES GAN2 TENUeTHREE DISHcUR2 INVERTEDdTIMES UDcURU TIMES DARA3eLAK-668eLU3cZA7
  cZU OVER ZU PLUS SARcZU5 TIMES THREE DISH TENU=12F90aCYPRO-MINOAN$CM001*1cCM004*8cCM012BcCM013
  cCM015cCM017cCM019cCM021cCM023*7cCM033*8cCM044cCM046*1cCM049*7cCM058*6cCM066*9cCM075BcCM076cCM078
  *14cCM094*11cCM107*3cCM112cCM114cCM301*1=13000aEGYPTIAN HIEROGLYPH A001*4cA005AcA006cA006A*1cA007
  *7cA014AcA015*2cA017AcA018*14cA032AcA033*7cA040AcA041*1cA042AcA043cA043AcA044*1cA045AcA046*24cB001
  *4cB005AcB006*3cC001*1cC002A*2cC003*7cC010AcC011*13cD001*7cD008AcD009*18cD027AcD028*3cD031AcD032*2
  cD034AcD035*11cD046AcD047*1cD048AcD049*1cD050A*8cD051*1cD052AcD053*1cD054AcD055*12cD067A*7cE001*7
  cE008AcE009cE009AcE010*6cE016AcE017cE017AcE018*2cE020AcE021*7cE028AcE029*5cE034AcE036*2cF001cF001A
  cF002*11cF013AcF014*7cF021AcF022*9cF031AcF032*5cF037AcF038cF038AcF039*6cF045AcF046cF046AcF047
  cF047AcF048*3cF051A*2cF052*1cG001*5cG006AcG007cG007A*1cG008*3cG011AcG012*8cG020AcG021*5cG026AcG027
  *9cG036AcG037cG037AcG038*5cG043AcG044*1cG045AcG046*8cH001*5cH006AcH007*1cI001*4cI005AcI006*3cI009A
  cI010cI010AcI011cI011AcI012*3cK001*7cL001*1cL002AcL003*3cL006AcL007*1cM001cM001A*1cM002*1cM003A
  cM004*6cM010AcM011*1cM012A*7cM013*2cM015AcM016cM016AcM017cM017AcM018*4cM022AcM023*1cM024AcM025*3
  cM028AcM029*2cM031AcM032*1cM033A*1cM034*6cM040AcM041*3cN001*17cN018A*1cN019*6cN025AcN026*7cN033A
  cN034cN034AcN035cN035AcN036*1cN037AcN038*4cNL001*4cNL005AcNL006*11cNL017AcNL018*2cNU001*9cNU010A
  cNU011cNU011AcNU012*6cNU018AcNU019*3cNU022AcO001cO001AcO002*3cO005AcO006cO006A*5cO007*3cO010A*2
  cO011*8cO019AcO020cO020AcO021*3cO024AcO025cO025AcO026*3cO029AcO030cO030AcO031*2cO033AcO034*2cO036A
  *3cO037*13cO050A*1cO051cP001cP001AcP002*1cP003AcP004*7cQ001*6cR001*1cR002AcR003cR003A*1cR004*6
  cR010AcR011*5cR016AcR017*12cS001*1cS002AcS003*3cS006AcS007*7cS014A*1cS015*2cS017AcS018*8cS026A*1
  cS027*8cS035AcS036*10cT001*2cT003AcT004*3cT007AcT008cT008AcT009cT009AcT010*1cT011AcT012*4cT016A
  cT017*15cT032AcT033cT033AcT034*2cU001*5cU006A*1cU007*16cU023AcU024*5cU029AcU030*2cU032AcU033*9
  cV001cV001A*8cV002cV002AcV003*4cV007A*1cV008*3cV011A*2cV012cV012A*1cV013*7cV020A*11cV021*2cV023A
  cV024*4cV028AcV029cV029AcV030cV030AcV031cV031AcV032*1cV033AcV034*3cV037AcV038*2cV040AcW001*2cW003A
  cW004*5cW009AcW010cW010AcW011*3cW014AcW015*2cW017AcW018cW018AcW019*5cW024AcW025cX001*3cX004A*1
  cX005*1cX006AcX007*1cX008AcY001cY001AcY002*6cZ001*1cZ002A*3cZ003cZ003A*1cZ004cZ004AcZ005cZ005A
  cZ006*9cZ015A*8cZ016cZ016A*7cAA001*6cAA007A*1cAA008*24=13430c|JOINERcHORIZONT#JOINER
  cINSERT AT TOP STARTeBOTTOM STARTeTOP ENDeBOTTOM ENDcOVERLAY MIDDLEcBEGIN SEGMENTcEND SEGMENT
  =14400aANATOLIAN HIEROGLYPH A001*9cA010AcA011*15cA026AcA027*12cA039AcA040*1cA041AcA042*3cA045A
  cA046cA046A*1cA047*19cA066A*2cA067*30cA097AcA098cA098AcA099*1cA100AcA101cA101AcA102cA102AcA103*1
  cA104A*2cA105cA105A*1cA106*1cA107A*2cA108*2cA110A*1cA111*4cA115AcA116*9cA125AcA126*9cA135AcA136*66
  cA202A*1cA203*4cA207AcA208*1cA209AcA210*5cA215AcA216cA216AcA217*10cA227AcA228*39cA267AcA268*21
  cA289AcA290*4cA294AcA295*4cA299AcA300*9cA309AcA310*19cA329AcA330*1cA332A*2cA333*3cA336A*2cA337*22
  cA359AcA360*4cA364AcA365*3cA368AcA369*2cA371AcA372*9cA381AcA382cA383 RA OR RIcA383AcA384*2cA386A
  cA387*5cA393 EIGHTcA394*15cA410 BEGIN LOGOGRAM MARKcA410A END LOGOGRAM MARKcA411*39cA450AcA451*6
  cA457AcA458*39cA501*29=16800aBAMUM.PHASE-A NGKUE MFONdGBIEE FONdPON MFON PIPAEMGBIEEfPIPAEMBA
  dNAA MFONdSHUENSHUETdTITA MFONdNZA MFONdSHINDA PA NJIdPON PA NJI PIPAEMGBIEEgPIPAEMBAdMAEMBGBIEE
  dTU MAEMBAdNGANGUdMAEMVEUXdMANSUAEdMVEUAENGAMdSEUNYAMdNTOQPENdKEUKEUTNDAdNKINDIdSUUdNGKUENZEUM
  dLAPAQdLET KUTdNTAP MFAAdMAEKEUPdPASHAEdGHEUAERAEdPAMSHAEdMON NGGEUAETdNZUN MEUTdU YUQ NAE
  dGHEUAEGHEUAEdNTAP NTAAdSISAdMGBASAdMEUNJOMNDEUQdMOOMPUQdKAFAdPA LEERAEWAdNDA LEERAEWAdPET
  dMAEMKPENdNIKAdPUPdTUAEPdLUAEPdSONJAMdTEUTEUWENdMAENYIdKETdNDAANGGEUAETdKUOQdMOOMEUTdSHUMdLOMMAE
  dFIRIdROMdKPOQdSOQdMAP PIEETdSHIRAEdNTAPdSHOQ NSHUT YUMdNYIT MONGKEUAEQdPAARAEdNKAARAEdUNKNOWN
  dNGGENdMAESIdNJAMdMBANYIdNYETdTEUAENdSOTdPAAMdNSHIEEdMAEMdNYIdKAQdNSHAdVEEdLUdNENdNAQdMBAQ
  cPHASE-B NSHUETdTU MAEMGBIEEdSIEEdSET TUdLOM NTEUMdMBA MAELEEdKIEEMdYEURAEdMBAARAEdKAMdPEESHI
  dYAFU LEERAEWAdLAM NSHUT NYAMdNTIEE SHEUOQdNDU NJAAdGHEUGHEUAEMdPITdTU NSIEEdSHET NJAQdSHEUAEQTU
  dMFON TEUAEQdMBIT MBAAKETdNYI NTEUMdKEUPUQdGHEUGHENdKEUYEUXdLAANAEdPARUMdVEUMdNGKINDI MVOP
  dNGGEU MBUdWUAETdSAKEUAEdTAAMdMEUQdNGGUOQeLARGEdMFIYAQdSUEdMBEURIdMONTIEENdNYAEMAEdPUNGAAM
  dMEUT NGGEETdFEUXdMBUOQdFEEdKEUAEMdMA NJEUAENAeNJUQAdLETdNGGAAMdNSENdMAdKIQdNGOM
  cPHASE-C NGKUE MAEMBAdNZAdYUMdWANGKUOQdNGGENdNDEUAEREEdNGKAQdGHARAEdMBEEKEETdGBAYI
  dNYIR MKPARAQ MEUNdNTU MBITdMBEUMdPIRIEENdNDOMBUdMBAA CABBAGE-TREEdKEUSHEUAEPdGHAPdKEUKAQ
  dYU MUOMAEdNZEUMdMBUEdNSEUAENdMBITdYEUQdKPARAQdKAAdSEUXdNDIDAdTAASHAEdNJUEQdTITA YUEdSUAET
  dNGGUAEN NYAMdVEUXdNANSANAQdMA KEUAERIdNTAAdNGGUONdLAPdMBIRIEENdMGBASAQdNTEUNGBAdTEUTEUXdNGGUMdFUE
  dNDEUTdNSAdNSHAQdBUNGdVEUAEPENdMBERAEdRUdNJAEMdLAMdTITUAEPdNSUOT NGOMdNJEEEEdKETdNGGUdMAESIdMBUAEM
  dLUdKUTdNJAMdNGOMdWUPdNGGUEETdNSOMdNTENdKUOP NKAARAEdNSUNdNDAMdMA NSIEEdYAAdNDAPdSHUEQdSETFONdMBI
  dMAEMBAdMBANYIdKEUSEUXdMBEUXdKEUMdMBAA PICKETdYUWOQdNJEUXdMIEEdMUAEdSHIQdKEN LAWeFATIGUEdNGAQdNAQ
  dLIQdPINdPENdTETcPHASE-D MBUOdWAPdNJIdMFONdNJIEEdLIEEdNJEUTdNSHEEdNGGAAMAEdNYAMdWUAENdNGKUNdSHEE
  dNGKAPdKEUAETMEUNdTEUTdSHEUAEdNJAPdSUEdKETdYAEMMAEdKUOMdSAPdMFEUTdNDEUXdMALEERIdMEUTdSEUAEQdYEN
  dNJEUAEMdKEUOT MBUAEdNGKEURIdTUdGHAAdNGKYEEdFEUFEUAETdNDEEdMGBOFUMdLEUAEPdNDONdMONIdMGBEUNdPUUT
  dMGBIEEdMFOdLUMdNSIEEPdMBAAdKWAETdNYETdTEUAENdSOTdYUWOQdKEUMdRAEMdTEEEEdNGKEUAEQdMFEUAEdNSIEET
  dKEUPdPIPdPEUTAEdNYUEdLETdNGGAAMdMFIEEdNGGWAENdYUOMdPAPdYUOPdNDAMdNTEUMdSUAEdKUNdNGGEUXdNGKIEE
  dTUOTdMEUNdKUQdNSUMdTEUNdMAENJETdNGGAPdLEUMdNGGUOMdNSHUTdNJUEQdGHEUAEdKUdREN OLDdTAEdTOQdNYIdRII
  dLEEEEdMEEEEdMdSUUdMUdSHIIdSHEUXdKYEEdNUdSHUdNTEEdPEEdNIdSHOQdPUQdMVOPdLOQdREN MUCHdTIdNTUU
  dMBAA SEVENdSAQdFAAcPHASE-E NDAPdTOONdMBEUMdLAPdVOMdLOONdPAAdSOMdRAQdNSHUOPdNDUNdPUAEdTAMdNGKA
  dKPEUXdWUOdSEEdNGGEUAETdPAAMdTOOdKUOPdLOMdNSHIEEdNGOPdMAEMdNGKEUXdNGOQdNSHUEdRIMGBAdNJEUXdPEEMdSAA
  dNGGURAEdMGBAdGHEUXdNGKEUAEMdNJAEMLIdMAPdLOOTdNGGEEEEdNDIQdTAEN NTEUMdSETdPUMdNDAA SOFTNESS
  dNGGUAESHAE NYAMdYIEEdGHEUNdTUAEdYEUAEdPOdTUMAEdKEUAEdSUAENdTEUAEQdVEUAEdWEUXdLAAMdPUdTAAQdGHAAMAE
  dNGEUREUTdSHEUAEQdMGBENdMBEEdNZAQdNKOMdGBETdTUMdKUETdYAPdNYI CLEAVERdYITdMFEUQdNDIAQdPIEEQdYUEQ
  dLEUAEMdFUEdGBEUXdNGKUPdKETdMAEdNGKAAMIdGHETdFAdNTUMdPEUTdYEUMdNGGEUAEdNYI BETWEENdNZUQdPOONdMIEE
  dFUETdNAEdMUAEdGHEUAEdFU IdMVIdPUAQdNGKUMdKUTdPIETdNTAPdYEUAETdNGGUPdPA PEOPLEdFU CALLdFOMdNJEEdA
  dTOQdOdIdLAQdPA PLUR#dTAAdTAQdNDAA MY HOUSEdSHIQdYEUXdNGUAEdYUAENdYOQ SWIMMINGeCOVERdYUQdYUNdKEUX
  dPEUXdNJEE EPOCHdPUEdWUEdFEEdVEEdLUdMIdREUXdRAEdNGUAETdNGAdSHOdSHOQdFU REMEDYdNAdPIdLOQdKOdMENdMA
  dMAQdTEUdKIdMONdTENdFAQdGHOMcPHASE-F KAdUdKUdEEdREEdTAEdNYIdLAdRIIdRIEEdMEEEEdTAAdNDAAdNJAEMdMdSUU
  dSHIIdSIdSEUXdKYEEdKETdNUAEdNUdNJUAEdYOQdSHUdYAdNSHAdPEUXdNTEEdWUEdPEEdRUdNIdREUXdKENdNGKWAENdNGGA
  dSHOdPUAEdFOMdWAdLIdLOQdKOdMBENdRENdMAdMOdMBAAdTETdKPAdSAMBAdVUEQ=16A40aMRO.TAcNGIcYOcMIMcBAcDAcA
  cPHIcKHAIcHAOcDAIcCHUcKEAAEcOLcMAEMcNINcPAcOOcOcROcSHIcTHEAcEAcWAcEcKOcLANcLAcHAIcRIcTEK=16A60
  bDIGIT ZEROcONEcTWOcTHREEcFOURcFIVEcSIXcSEVENcEIGHTcNINE=16A6EbDANDAb:DANDAaTANGSA.OZcOCcOQcOXcAZ
  cACcAQcAXcVZcVCcVQcVXcEZcECcEQcEXcIZcICcIQcIXcUZcUCcUQcUXcAWZcAWCcAWQcAWXcUIZcUICcUIQcUIXc]NG
  cLONG UEXcSHORT UEZdAWXcUECcUEZcUEQcUEXcUIUZcUIUCcUIUQcUIUXcMZcMCcMQcMXcKAcKHAcGAcNGAcSAcYAcWAcPA
  cNYAcPHAcBAcMAcNAcHAcLAcHTAcTAcDAcRAcNHAcSHAcCAcTSAcGHAcHTTAcTHAcXAcFAcDHAcCHAcZA=16AC0bDIGIT ZERO
  cONEcTWOcTHREEcFOURcFIVEcSIXcSEVENcEIGHTcNINE=16AD0aBASSA VAH.ENNIdKAdSEdFAdMBEdYIEdGAHdDHIIdKPAH
  dJOdHWAHdWAdZOdGBUdDOdCEdUWUdTOdBAdVUdYEINdPAdWADDAdAdOdOOdUdEEdEdI=16AF0cCOMBINING HIGH TONE
  dLOW TONEdMID TONEdLOW-MID TONEdHIGH-LOW TONEcFULL STOP=16B00aPAHAWH HMONG VOWEL KEEBdKEEVdKIBdKIV
  dKAUBdKAUVdKUBdKUVdKEBdKEVdKAIBdKAIVdKOOBdKOOVdKAWBdKAWVdKUABdKUAVdKOBdKOVdKIABdKIAVdKABdKAVdKWB
  dKWVdKAABdKAAVcCONSONANT VAUdNTSAUdLAUdHAUdNLAUdRAUdNKAUdQHAUdYAUdHLAUdMAUdCHAUdNCHAUdHNAUdPLHAU
  dNTHAUdNAUdAUdXAUdCAUcMARK CIM TUBeSOeKESeKHAVeSUAMeHOMeTAUMc$VOS THOMeTSHAB CEEBdCIM CHEEM
  dVOS THIABeFEEMdXYEEM NTXIVeRHOeTOVeFAIBdVOS SEEVdMEEJ SUABdVOS NRUAdIB YAMdXAUSdCIM TSOV ROG
  =16B50cDIGIT ZEROdONEdTWOdTHREEdFOURdFIVEdSIXdSEVENdEIGHTdNINE=16B5BcNUMBER TENSdHUNDREDS
  dTEN THOUSANDSdMILLIONSdHUNDRED MILLIONSdTEN BILLIONSdTRILLIONS=16B63c$VOS LUBdXYOOdHLI
  dTHIRD-STAGE HLIdZWJ THAJdHNUBdNQIGdXIABdNTUJdAVdTXHEEJ CEEVdMEEJ TSEEBdTAUdLOSdMUS
  dCIM HAIS LUS NTOG NTOGeCUAM TSHOOJeTXWVfCHWVePUB DAWBeNRES TOS=16B7DcCLAN$TSHEEJeYEEGeLISeLAUJ
  eXYOOJeKOOeHAWJeMUASeTHOJeTSABePHABeKHABeHAMeVAJeFAJeYAJeTSWBeKWMeVWJ=16E40aMEDEFAIDRIN!.MdSdV*1
  dATIUdZdKPdPdTdGdFdIdKdAdJdEdB*1dUdYUdLdQdHPdNYdXdDdOEdNdRdOdAIdYb,.MdSdV*1dATIUdZdKPdPdTdGdFdIdK
  dAdJdEdB*1dUdYUdLdQdHPdNYdXdDdOEdNdRdOdAIdYbDIGIT ZEROcONEcTWOcTHREEcFOURcFIVEcSIXcSEVENcEIGHT
  cNINEbNUMBER TENcELEVENcTWELVEcTHIRTEENcFOURTEENcFIFTEENcSIXTEENcSEVENTEENcEIGHTEENcNINETEEN
  bDIGIT ONE ALTERNATE%cTWO ALTERNATE%cTHREE ALTERNATE%bCOMMAbFULL STOPb?AIVAbEXCLAMATION OH=16F00
  aMIAO.PAcBAcYI PAcPLAcMAcMHAcARCHAIC MAcFAcVAcVFAcTAcDAcYI TTAdTAcTTAcDDAcNAcNHAcYI NNAcARCHAIC NA
  cNNAcNNHAcLAcLYAcLHAcLHYAcTLHAcDLHAcTLHYAcDLHYAcKAcGAcYI KAcQAcQGAcNGAcNGHAcARCHAIC NGAcHAcXAcGHA
  cGHHAcTSSAcDZZAcNYAcNYHAcTSHAcDZHAcYI TSHAdDZHAcREFORMED TSHAcSHAcSSAcZHAcZSHAcTSAcDZAcYI TSAcSA
  cZAcZSAcZZAcZZSAcARCHAIC ZZAcZZYAcZZSYAcWAcAHcHHAcBRIcSYIcDZYIcTEcTSEcRTE=16F4F
  b$CONSONANT MODIFIER BARb.NASALIZATIONb$ASPIRATIONcREFORMED VOICINGdASPIRATIONbVOWEL$AdAAdAHHdAN
  dANGdOdOOdWOdWdEdENdENGdOEYdIdIAdIANdIANGdIOdIEdIIdIUdINGdUdUAdUANdUANGdUUdUEIdUNGdYdYIdAEdAEEdERR
  dROUNDED ERRdERdROUNDED ERdAIdEIdAUdOUdNdNGdUOGdYUIdOGdOERdVWdIGdEAdIONGdUI=16F8FbTONE>cTOP>c^c_
  b.TONE-2*6cREFORMED TONE-1*1dTONE-4*2dTONE-8=16FE0aTANGUT ITERATION MARKaNUSHU ITERATION MARK
  aOLD CHINESE HOOK MARKcITERATION MARKaKHITAN,SCRIPT FILLER=16FF0
  aVIETNAMESE ALTERNATE READING MARK CAeNHAY"

end CaseDict.Text.CharacterName
