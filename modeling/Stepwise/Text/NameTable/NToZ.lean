/-!
# Names of characters, N to Z

The part of the table of names whose first letter is between N and Z. How a
name is written is told where the table is searched.
-/

namespace Stepwise.Text.NameTable

/-- The names between N and Z. -/
def nToZ : List String :=
  ["aNABATAEANCRUCIFORMNUMBERFOURjLETTERALEPHqYINpBETHpDALETHpFINALALEPHuBETHuHEuKAPHuLAMEDH",
   "uMEMuNUNuSHINuYODHpGIMELpHErTHpKAPHpLAMEDHpMEMpNUNpPEpQOPHpRESHpSADHErMEKHqHINpTAWqETHpWAW",
   "pYODHpZAYINjNUMBERFIVEqOURpONEsHUNDREDpTENqHREEqWENTYrOdLAcGMUNDARIDIGITEIGHTpFIVEqOUR",
   "pNINEpONEpSEVENqIXpTHREEqWOpZEROkLETTERArBrHrJrNYqErGrLLrMrNsNrTTqIrDDrHrSrTqOrLrNGrPrYqU",
   "rCrDrKrRkSIGNIKIRoMUHORoOJODoSUTUHoTOYORcILPOLISHdRASIGNcKcMEBADGEcNDeINAGARIHEADSTROKE",
   "lLETTERAsAsIsUrBAsHArCAsHArDAsDAtHAsHArErGAsHArHArIsIrJAsHArKAsHArLAsLArMArNAsGAsNAsYArO",
   "rPAsHArRAsRArSAsHAsSArTAsHAsTAtHArUsUrVAsOCALICRzRrYAlSIGNANUSVARAqVAGRAHApSIDDHAMpVIRAMA",
   "rSARGAlVOWELSIGNAAvIvUuEuIvIuOuPRISHTHAMATRAEuUvUuVOCALICR+cRcRROWNOBREAKSPACE",
   "dYCIRCLEDDOTOPERATORlPLUSOPERATORlTIMESOPERATORfOPRODUCTeINTERSECTIONeLOGICALANDlOR",
   "ePRODUCTeSQUAREINTERSECTIONOPERATORkUNIONOPERATORfUMMATIONeTIMESOPERATOReUNION",
   "jOPERATORWITHDOTvPLUSeWHITEVERTICALBARcTIONALDIGITSHAPESiPARKcUSEATEDFACEcZARAMULETbBHcSP",
   "bECKTIEcGATEDDOUBLEVERTICALBARDOUBLERIGHTTURNSTILEfIVEACKNOWLEDGEiCIRCLEDDIGITZERO",
   "pLATINCAPITALLETTERA+hB+hC+hD+hE+hF+hG+hH+hI+hJ+hK+hL+hM+hN+hO+hP+hQ+hR+hS+hT+hU+hV+hW+hX",
   "+hY+hZpNUMBEREIGHTEENwLEVENvFIFTEENwOURTEENvNINETEENvSEVENTEENwIXTEENvTHIRTEENwWELVEyNTY",
   "pSQUAREpTRIANGLEiDIAGONALCROSSqDIAMONDqMIDDLERIGHTTOLOWERCENTREiSQUAREDABpCROSSMARK",
   "pDOWNWARDSARROWpICpLATINCAPITALLETTERA+hB+hC+hD+hE+hF+hG+hH+hI+hJ+hK+hL+hM+hN+hO+hP+hQ+hR",
   "+hS+hT+hU+hV+hW+hX+hY+hZqEFTWARDSARROWpPApQUESTIONMARKpRIGHTWARDSARROWpSApUPWARDSARROWpWC",
   "cITHERAPPROXIMATELYNORACTUALLYEQUALTOiSUBSETOFNOREQUALTOkPERSETOFNOREQUALTO",
   "hGREATERTHANNOREQUALTOyIVALENTTOvLESSTHANhLESSTHANNOREQUALTOvIVALENTTOsGREATERTHANcLcPTUNE",
   "hFORMTWOcRDFACEcSSUSdTINGDOLLSeWITHEGGScUTEReRALCHESSBISHOPsROTATEDNINETYDEGREES",
   "zTWOHUNDREDSEVENTYDEGREESmEQUIHOPPERwROTATEDNINETYDEGREESmKINGqROTATEDNINETYDEGREES",
   "xTWOHUNDREDSEVENTYDEGREESnNIGHTsROTATEDFORTYFIVEDEGREESzNINETYDEGREES",
   "zONEHUNDREDTHIRTYFIVEDEGREESzTHREEHUNDREDFIFTEENDEGREES+aWOHUNDREDSEVENTYDEGREES",
   "+jTWENTYFIVEDEGREESmPAWNqROTATEDNINETYDEGREESxTWOHUNDREDSEVENTYDEGREESmQUEEN",
   "rROTATEDNINETYDEGREESyTWOHUNDREDSEVENTYDEGREESmROOKqROTATEDNINETYDEGREES",
   "xTWOHUNDREDSEVENTYDEGREESmTURNEDBISHOPsKINGtNIGHTsPAWNsQUEENsROOKhFACEcWAABBREVIATIONSIGN",
   "eCOMMAeDANDAfIGITEIGHTjFIVEkOURjNINEjONEjSEVENkIXjTHREEkWOjZEROfOUBLECOMMAkDANDAeGAPFILLER",
   "eINSERTIONSIGNeLETTERAlAlIlUkBAlHAkCAlHAkDAlDAmHAlHAkEkGAlHAkHAkIlIkJAlHAkKAlHAkLAlHAkMA",
   "lHAkNAlGAmHAlHAlNAlYAmHAkOkPAlHAkRAlHAkSAlHAlSAkTAlHAlTAmHAkUlUkVEDICANUSVARAlOCALICLsLrR",
   "sRkWAkYAeOMePLACEHOLDERMARKeSANDHIMARKfIDDHIgGNANUSVARAjVAGRAHAiCANDRABINDUiFINALANUSVARA",
   "iJIHVAMULIYAiNUKTAiUPADHMANIYAiVIRAMAkSARGAeVOWELSIGNAAoIoUnEnIoInOnUoUnVOCALICLvLuRvR",
   "dLINEhLEFThRIGHTdMOONSYMBOLhWITHFACEdSHEQELSIGNePAPERdTAILUEDIGITEIGHToFIVEpOURoNINEoONE",
   "oSEVENpIXoTHREEpWOoZEROjLETTERFINALBuDuKuMuNvGuVpHIGHBAtDAtFAtHAtKAuVAtLAtMAtNAuGAtPAuHA",
   "tQAtSAuUAtTAuHAuSAtVAtXAuVAtYApLOWBAsDAsFAsHAsKAtVAsLAsMAsNAtGAsPAtHAsQAsSAtUAsTAtHAtSAsVA",
   "sXAtVAsYAjSIGNLAEqVjTHAMDIGITONEkONEMARK1r2jVOWELSIGNAAuYtEtYsEsIItYsOtAuYtYsUtEuYtUtY",
   "sVOWELSHORTENERcXTLINEePAGEbIGHTWITHSTARScNEPOINTEDWHITESTARdJAbKOCOMBININGDOUBLEDOTABOVE",
   "mLONGDESCENDINGTONEqHIGHTONEqLOWTONEqRISINGTONEmNASALIZATIONMARKmSHORTHIGHTONErLOWTONE",
   "rRISINGTONEgMAdDANTAYALANeIGITEIGHTiFIVEjOURiNINEiONEiSEVENjIXiTHREEjWOiZEROeOROMESIGN",
   "dEXCLAMATIONMARKdHIGHTONEAPOSTROPHEdLAJANYALANeETTERAjBAjCHAjDAlGBASINNAjEkEjFAjGBAjHAjI",
   "jJAkONACHAnJAnRAjKAjLAjMAjNkAlWOLOSOkYAmWOLOSOjOkOjPAjRAkRAjSAjTAjUjWAjYAeOWTONEAPOSTROPHE",
   "dSYMBOLGBAKURUNENjOODENNENdTAMANSIGNbLbNBSPbOBICYCLESdREAKHEREhSPACEcENTRYhSIGN",
   "cMINALDIGITSHAPESeSMASIGNdOBILEPHONEScNBREAKINGHYPHENdFORKINGdPOTABLEWATERSYMBOL",
   "cONEUNDEREIGHTEENSYMBOLcPEDESTRIANSdIRACYcRdDICMARKSIGNdMALSUBGROUPOFqOREQUALTO",
   "dTHEASTANDSOUTHWESTARROWkRROWoANDSOUTHEASTARROWoCROSSINGNORTHWESTARROWwSOUTHEASTARROW",
   "oFROMBARoWITHHOOKjBLACKARROWjDOUBLEARROWjPOINTINGAIRPLANErBUDrLEAFrVINELEAFjSANSSERIFARROW",
   "jTRIANGLEHEADEDARROW+cTOBARjWHITEARROWfINDICFRACTIONONEEIGHTHvHALFvQUARTERvSIXTEENTH",
   "sTHREEQUARTERSxSIXTEENTHSkPLACEHOLDERMARKkQUANTITYMARKnRTERMARKkRUPEEMARK",
   "fWESTANDSOUTHEASTARROWkRROWoANDNORTHEASTARROWoCROSSINGNORTHEASTARROWoFROMBARoTOCORNER",
   "qLONGBARoWITHHOOKjBLACKARROWjDOUBLEARROWjPOINTINGBUDrLEAFrVINELEAFjSANSSERIFARROW",
   "jTRIANGLEHEADEDARROW+cTOBARjWHITEARROWcSEeSYMBOLdMOKINGSYMBOLcTALMOSTEQUALTOeNELEMENTOF",
   "eSUBSETOFgPERSETOFfYMPTOTICALLYEQUALTOdCHECKMARKgDLEFTSEMICIRCLEWITHTHREEDOTS",
   "iOWERRIGHTSHADOWEDWHITERIGHTWARDSARROWhRIGHTSEMICIRCLEWITHTHREEDOTS",
   "hUPPERRIGHTSHADOWEDWHITERIGHTWARDSARROWdEeBOOKiWITHDECORATIVECOVERePADgGEeQUALTOgIVALENTTO",
   "dGREATERTHANdIDENTICALTOdLESSTHANdNORMALSUBGROUPOFtOREQUALTOdPARALLELTOdSIGN",
   "eQUAREIMAGEOFOREQUALTOjORIGINALOFOREQUALTOdTILDEeRUEbPNTRANSISTORbULdL",
   "cMBEREIGHTEENFULLSTOPhLEVENFULLSTOPgFIFTEENFULLSTOPhOURTEENFULLSTOPgNINETEENFULLSTOP",
   "gSEVENTEENFULLSTOPhIGNiXTEENFULLSTOPgTENFULLSTOPhHIRTEENFULLSTOPhWELVEFULLSTOPjNTYFULLSTOP",
   "dEROSIGNcSHUITERATIONMARKcTANDBOLTbYIAKENGPUACHUEHMONGCIRCLEDCAuDIGITEIGHTzFIVE+aOURzNINE",
   "zONEzSEVEN+aIXzTHREE+aWOzZEROuLETTERA+bA+aCA+aDA+bLA+aE+bE+aFA+aGA+aHA+cH+aI+aKA+aLA+aMA",
   "+bLA+aNA+bCA+bKA+bPA+cLA+bQA+bRA+bTA+cSA+cXA+bYA+aO+bO+aPA+bLA+aQA+aRA+bRA+aSA+aTA+bSA+bXA",
   "+aU+aVA+aW+aXA+bYA+aYA+aZAvOGOGRAMNYAJuSIGNFORANIMAL+bINVERTEBRATE+bLOCATION+bPERSON",
   "+bTHINGyXWXWvYLLABLELENGTHENERuTONEByDyGyJyMySyVaOBJECTREPLACEMENTCHARACTER",
   "cLIQUEANGLEOPENINGDOWNtUPhHYPHENcSERVEREYESYMBOLbCCULTATIONcRAMOUNTOFCHECKdBELTBUCKLE",
   "eOWTIEeRANCHBANKIDENTIFICATIONdCHAIReUSTOMERACCOUNTNUMBERdDASHeOUBLEBACKSLASHdFORKdHOOK",
   "dINVERTEDFORKcTAGONALSIGNdOPUSbDENbFFICEBUILDINGoSYMBOLbGHAMFEATHERMARKfLETTERAILMlBEITH",
   "lCEIRTmOLLlDAIRlEABHADHnDHADHnMHANCHOLLlFEARNlGORTlIFINmODHADHlLUISlMUINlNGEADALmIONlONNmR",
   "lPEITHlRUISlSAILmTRAIFlTINNElUATHmILLEANNmRfREVERSEDFEATHERMARKfSPACEMARKcONEKbHMSIGN",
   "bILDRUMbKHANDSIGNbLCHIKIAHADhDIGITEIGHTmFIVEnOURmNINEmONEmSEVENnIXmTHREEnWOmZERO",
   "hGAAHLAATTUDDAAGhLETTERAAJpKpMpWoGoLoNGoTnEDDoNoPoRRnIHoNYoRoSnLApAoEoIoOoUnOBoHoTToVnUCoD",
   "oNNoYhMUGAAHLAATTUDDAAGjTTUDDAGhPHAARKAAiUNCTUATIONDOUBLEMUCAADsMUCAADhRELAA",
   "cDCHINESEHOOKMARKkITERATIONMARKdERADULTfMANfWOMANdHUNGARIANCAPITALLETTERA+aA+aK+aMB+aND",
   "zCLOSEEzE+aB+aC+bH+bS+aD+aE+aF+aG+bY+aH+aJ+aK+aL+bY+aM+bP+aN+bC+bT+cSHAPEDSIGN+bY+aP+aR+aS",
   "+bZ+aT+bY+aV+aZ+bSzI+aIzNIKOLSBURGOE+jUEzO+aEE+aOzRUDIMENTAOE+iUEzSHORTERzU+aNK+aS+aU",
   "mNUMBERFIFTYuVEsONEvHUNDREDvTHOUSANDsTENmSMALLLETTERAyAyKyMByNDxCLOSEExEyByCzHzSyDyEyFyGzY",
   "yHyJyKyLzYyMzPyNzCzT+aSHAPEDSIGNzYyPyRySzZyTzYyVyZzSxIyIxNIKOLSBURGOE+hUExOyEEyO",
   "xRUDIMENTAOE+gUExSHORTERxUyNKySyUdITALICLETTERApBEpCHEpDEpEqFqKSqLqMqNqRrSqSrHrSpHEpIqIpKA",
   "qEqHEqUpNORTHERNTSEpOpPEqHEpSHEqOUTHERNTSEpTEqHEpUqUpVEpYEpZEjNUMERALFIFTYsVEqONEqTENdKEY",
   "dNORTHARABIANLETTERAINwLEFvBEHvDADxLvES1x2x3vFEHvGEEMwHAINvHAHwEHvKAFwHAHvLAMvMEEMvNOON",
   "vQAFvREHvSADvTAHwEHwHALxEHvWAWvYEHvZAHxINpNUMBERONEvTENwWENTYdPERMICLETTERANpBURpCHERYpDOI",
   "qZHOIrITApEqFpGAIpHApIqAqEpKOKEpLEIpMENOEpNENOEpOqOpPEEIpREIpSHCHOOIrOOIqIIpTAIqSIUpUpVER",
   "qOOIpYArTqERsIsUqRYqUpZATAqHOIgSIANNUMBERHUNDREDqONEqTENrWENTYsOkSIGNApURAMAZDAAy2yHAoBA",
   "qGApUUMISHoCAoDAqHYAAUSHx2pIpUoFAoGApUoHAoIoJApIoKApUoLAoMApIpUoNApUoPAoRApUoSApHApSAoTA",
   "pHApUoUoVApIoXApSHAAYATHIYAoYAoZAkWORDDIVIDERhONALCOMPUTER",
   "tWITHMONITORINPORTRAITORIENTATIONdSOGDIANFRACTIONONEHALFkLETTERALEPHsTERNATEAYINrYINqBETH",
   "qFINALALEPHvBETHvHEvNUNyWITHVERTICALTAILvSADHE+aWITHVERTICALTAILvTAWyWITHVERTICALTAIL",
   "qGIMELqHEsTHqKAPHqLAMEDHqMEMqNUNqPEqRESHAYINDALETHqSADHEsMEKHrHINqTAWqWAWqYODHqZAYIN",
   "lIGATUREAYINDALETHkNUMBERFIVErOURqONEtHUNDREDqTENrHIRTYsREErWENTYsOfUTHARABIANLETTERALEF",
   "wYNvBETHvDALETHwHADHEyLETHvFEvGHAYNwIMELvHExTHvKAPHwHETHvLAMEDHvMEMvNUNvQOPHvRESHvSADHE",
   "xMEKHxTwHINvTAWwETHwHAWxETHvWAWvYODHvZAYNpNUMBERFIFTYvONEsERICINDICATOR",
   "dTURKICLETTERORKHONAwBwDwEBxDxGxKxLxNxRxSxTxYwGwLwNwQwRwSxHwTwYvBASHvECwLTwMwNCxGxTxYwPwSH",
   "wZvIwCwQvOwExKwPwQwTpYENISEIAxBxDxEyByGyKyNzGyTyYxGxLxNGxQxRxSHxTxYwExCxNCyTyYxSHxZwIxQwOE",
   "yKxQdUYGHURCOMBININGDOTABOVEvBELOWsTWODOTSABOVEzBELOWjLETTERALEPHpBETHpFINALHETHpGIMELHETH",
   "pKAPHpLAMEDHqESHpMEMpNUNpPEpRESHpSADHErMEKHqHINpTAWpWAWpYODHpZAYINjPUNCTUATIONBARuFOURDOTS",
   "uTWOBARSxDOTScIVEcONALABBREVIATIONSIGNgDIGITEIGHTlFIVEmOURlNINElONElSEVENmIXlTHREEmWOlZERO",
   "gLETTERAnBnDnHnLnWmEnCnGnHnNNnSmInDnNnPnToTmOnMnNGnOnRRnYmUnDDnJnKnNYnRgSIGNHODDONDkIKIR",
   "kMUbMSYMBOLbNCOMINGAUTOMOBILEiBUSiFIREENGINEiPOLICECARiTAXIcEBUTTONMOUSEdDOTLEADER",
   "gOVERTWODOTSPUNCTUATIONdPIECESWIMSUITcIONcWITHEXCLAMATIONMARKWITHLEFTRIGHTARROWABOVE",
   "bPENBOOKgXeCENTREASTERISKkBLACKSTARkCROSSkTEARDROPSPOKEDASTERISKfIRCUITOUTPUTHTYPESYMBOL",
   "rLTYPESYMBOLeFILEFOLDERfOLDEReHANDSSIGNeLOCKeMAILBOXWITHLOWEREDFLAGpRAISEDFLAG",
   "eOUTLINEDRIGHTWARDSARROWeSUBSETgPERSETdRATINGSYSTEMCOMMANDcHIUCHUScPOSITIONcTICALDISClICON",
   "eONKEYbRANGEBOOKgHEARTfUTANcCAdUScIGINALOFdYAAILENGTHMARKgULENGTHMARKfDIGITEIGHTkFIVElOUR",
   "kNINEkONEkSEVENlIXkTHREElWOkZEROfFRACTIONONEEIGHTHqHALFqQUARTERqSIXTEENTHnTHREEQUARTERS",
   "sSIXTEENTHSfISSHARfLETTERAmAmImUlBAmHAlCAmHAlDAmDAnHAmHAlElGAmHAlHAlImIlJAmHAlKAmHAlLAmLA",
   "lMAlNAmGAmNAmYAlOlPAmHAlRAmHAmRAlSAmHAmSAlTAmHAmTAnHAlUmUlVAmOCALICLtLsRtRlWAlYAmYA",
   "fSIGNANUSVARAkVAGRAHAjCANDRABINDUjNUKTAjOVERLINEjVIRAMAlSARGAfVOWELSIGNAApIpUoEoIpIoOoUpU",
   "oVOCALICLwLvRwRcNATELEFTPARENTHESISgRIGHTPARENTHESIScTHODOXCROSSfGONALCROSSHATCHFILL",
   "cWITHDOTINSIDEbSAGECAPITALLETTERAtHtIuNsBRAsCHAsDHAsEtHCHAuKAuPAuTAvSAtINsGHAsHAtYAsIsKA",
   "tHAtYAsLAsMAsNAsOtINsPAsSAtHAsTAtSAuHAsUsWAsZAtHAfSMALLLETTERArHrIsNqBRAqCHAqDHAqErHCHAsKA",
   "sPAsTAtSArINqGHAqHArYAqIqKArHArYAqLAqMAqNAqOrINqPAqSArHAqTArSAsHAqUqWAqZArHAcC",
   "cMANYADIGITEIGHTmFIVEnOURmNINEmONEmSEVENnIXmTHREEnWOmZEROhLETTERAoAoLEFnBAnCAYNnDEELoHAnE",
   "oEnFAnGAnHAnInJAnKAAFoHAnLAANnMIINnNUUNnOoOnQAAFnRAnSAoHIINnTAnUnWAWnXAnYAbTTER",
   "dOMANSIYAQALTERNATENUMBEREIGHT+bFIVE+cOUR+fHUNDRED+bNINE+bSEVEN+cIX+eHUNDRED+bTEN",
   "+eTHOUSAND+cHREE+cWO+eTHOUSANDmFRACTIONONEHALFxSIXTHmMARRATANmNUMBEREIGHTxHUNDREDxTHOUSAND",
   "xYyTHOUSANDsFIFTYxTHOUSANDuVEwHUNDREDwTHOUSANDtORTYxTHOUSANDuURwHUNDREDwTHOUSANDsNINE",
   "wHUNDREDwTHOUSANDxYyTHOUSANDsONEvHUNDREDvTHOUSANDsSEVENxHUNDREDxTHOUSANDyYzTHOUSANDtIX",
   "vHUNDREDvTHOUSANDwYxTHOUSANDsTENvTHOUSANDtHIRTYyTHOUSANDuREExHUNDREDxTHOUSANDtWENTY",
   "yTHOUSANDuOvHUNDREDvTHOUSANDbUNCESIGNcTBOXTRAYdLINEDBLACKSTARiDIGITEIGHTnFIVEoOURnNINEnONE",
   "nSEVENoIXnTHREEoWOnZEROiGREEKCROSSiLATINCAPITALLETTERA+aB+aC+aD+aE+aF+aG+aH+aI+aJ+aK+aL+aM",
   "+aN+aO+aP+aQ+aR+aS+aT+aU+aV+aW+aX+aY+aZoROSSiWHITESTARbVERHEATEDFACEeLAPhPINGBLACKSQUARES",
   "lWHITEANDBLACKSQUARESqSQUARESfINEbWLbXbYSTERaPACKAGEcDdDINGCHARACTERcGEeFACINGUPeReS",
   "eWITHCIRCLEDTEXTjURLdODAcHAWHHMONGCLANSIGNFAJtHAMvWJtKHABuOOuWMtLAUJuIStMUAStPHABtTHOJuSAB",
   "vHEEJvWBtVAJuWJtXYOOJtYAJuEEGmONSONANTAUuCAUvHAUuHAUvLAUvNAUuLAUuMAUuNAUvCHAUvKAUvLAUvTHAU",
   "wSAUuPLHAUuQHAUuRAUuVAUuXAUuYAUlDIGITEIGHTqFIVErOURqNINEqONEqSEVENrIXqTHREErWOqZERO",
   "lMARKCIMHOMsKEStHAVsSOtUAMsTAUMtUBlNUMBERHUNDREDMILLIONSySrMILLIONSrTENBILLIONSuS",
   "uTHOUSANDSsRILLIONSlSIGNAVpCIMCHEEMtUAMTSHOOJsHAISLUSNTOGNTOGsNRESTOSsPUBDAWBsTSOVROGtXWV",
   "wCHWVpHLIqNUBpIBYAMpLOSpMEEJSUABtTSEEBqUSpNQIGqTUJpTAUqHIRDSTAGEHLIqXHEEJCEEVpVOSFEEMsLUB",
   "sNRUAsSEEVsTHIABuOMtSHABCEEBpXAUSqIABqYEEMFAIBuNTXIVuRHOuTOVrOOpZWJTHAJlVOWELKAABtVsBsIBtV",
   "sUBtVsVsWBtVrEBsEBtVsVrIABtVsBsVrOBsOBtVsVrUABtVsBsVrWBsVcLLASdMBRANCHeDOWNHAND",
   "eSUPTOGETHEReTREEeUPHANDeYRENELEFTPOINTINGFLEURONlTTERALEPHqYINpBETHpDALETHpFINALNUNpGIMEL",
   "pHErTHpKAPHpLAMEDHpMEMpNUNpPEpQOPHpRESHpSADHErMEKHqHINpTAWqETHpWAWpYODHpZAYINjNUMBERFIVE",
   "qOURpONEpTENqHREEqWENTYrOjRIGHTPOINTINGFLEURONcNCAKESdDAFACEcPERCLIPcRACHUTEeGRAPHOS",
   "jSEPARATORjUSMARKeLLELTOiWITHHORIZONTALSTROKEmTILDEOPERATORdENTHESIZEDDIGITEIGHTsFIVEtOUR",
   "sNINEsONEsSEVENtIXsTHREEtWOnHANGULCHIEUCH+aAuIEUCyAyUtHIEUHyAtIEUNGyAtKHIEUKH+aAuIYEOKzA",
   "tMIEUMyAtNIEUNyAtPHIEUPH+aAuIEUPyAtRIEULyAtSIOSxAtTHIEUTH+aAuIKEUTzAnIDEOGRAPHALLIANCE",
   "wCALLxONGRATULATIONwEARTHxIGHTxNTERPRISEwFESTIVALxINANCIALyREyVExOURwHAVEwLABORwMETALxOON",
   "wNAMExINEwONEwREACHyPRESENTySOURCEzTwSELFyVENxIXxOCIETYxPECIALxTOCKyUDYxUNyPERVISEwTEN",
   "xHREExWOwWATERxOODnKOREANCHARACTEROHU+dJEONnLATINCAPITALLETTERA+fB+fC+fD+fE+fF+fG+fH+fI+fJ",
   "+fK+fL+fM+fN+fO+fP+fQ+fR+fS+fT+fU+fV+fW+fX+fY+fZsSMALLLETTERA+dB+dC+dD+dE+dF+dG+dH+dI+dJ",
   "+dK+dL+dM+dN+dO+dP+dQ+dR+dS+dT+dU+dV+dW+dX+dY+dZnNUMBEREIGHTEENuLEVENtFIFTEENuOURTEEN",
   "tNINETEENtSEVENTEENuIXTEENtTENuHIRTEENuWELVEwNTYdROTdTALTERNATIONMARKeHENOPEkFORMTWO",
   "eIALDIFFERENTIALhLINEBACKWARDlDOWNlFORWARDlUPiYRECYCLEDPAPERSYMBOLeNERSHIPSIGNeYPOPPER",
   "cSSEDSYMBOLfNGERSHIPeIVEPULLDOWNOUTPUTSYMBOLlUPOUTPUTSYMBOLePORTCONTROLcUCINHAUGLOTTALSTOP",
   "uFINALuVARIANTjLETTERApBApCAqHApDApEpFAqINALKuLuMuNvGuPuTuWuYpGApHApIqApKAqHApLApMApNAqGA",
   "pOpPAqHApRApSApTAqHApUqApVApZAkOWFALLINGTONExFINALxLONG+bFINALjMIDLEVELTONEvFINAL",
   "vLONGFINALjRISINGTONEtFINALtLONGxFINALjSANDHIGLOTTALSTOP+aFINALpTONEtFINALtLONGxFINAL",
   "cWPRINTSbDFcIbEACESYMBOLeHeOCKdNUTSdPODdRcDESTRIANcNCILdGUINdOVERSTAMPEDENVELOPEdSIVEFACE",
   "dTAGRAMcOPLEHUGGINGcRCENTSIGNdFORMINGARTSdMANENTPAPERSIGNeILLESIGNdPENDICULARnWITHS",
   "dSEVERINGFACEeIGNeONALCOMPUTERgBOWINGDEEPLYgCLIMBINGgDOINGCARTWHEELgFROWNING",
   "gINLOTUSPOSITIONiSTEAMYROOMgRAISINGBOTHHANDSINCELEBRATIONgWITHBALLlLONDHAIRkCROWN",
   "kFOLDEDHANDSkHEADSCARFkPOUTINGFACEePECTIVEdTENTHOUSANDSIGNcSETASIGNdOSIGNcTRIDISH",
   "bHAGSPADOUBLEHEADMARKhLETTERAoLTERNATEYAoSPIRATEDFAnBAnCApNDRABINDUoHAnDAoDAoZAnEoEnFAnGA",
   "oGAnHAnInJAnKAoHAnLAnMAnNAoGAoNAoYAnOnPAoHAnQAnRAnSAoHAoMALLAnTAoHAoSApHAoTApHAnUnVOICEDHA",
   "sLESSSHAnWAnXAnYAnZAoHAhMARKDOUBLESHADlSHADhSINGLEHEADMARKiUBJOINEDLETTERRAwWAwYA",
   "jPERFIXEDLETTERRAdISTOSDISCSIGNARROWqBEEtHIVErOOMERANGsWrULLSLEGqCAPTIVEsRPENTRYPLANEsT",
   "rHILDrLUBrOLUMNsMBuININGOBLIQUESTROKEqDOLIUMsVEqEAGLEqFLUTEqGAUNTLETrRATERqHELMETrIDErORN",
   "qLIDsLYqMANACLESsTTOCKqOXBACKqPAPYRUSrEDESTRIANrLANETREEsUMEDHEADqRAMrOSETTEqSAWrHIELDtP",
   "rLINGrMALLAXErTRAINERqTATTOOEDHEADrIARArUNNYqVINEqWAVYBANDrOMANcILIPPINEDOUBLEPUNCTUATION",
   "kSINGLEPUNCTUATIONcOENICIANLETTERAINrLFqBETqDELTqGAMLqHEsTqKAFqLAMDqMEMqNUNqPEqQOFqROSH",
   "qSADErEMKrHINqTAUrETqWAUqYODqZAIkNUMBERONEtHUNDREDqTENrHREErWENTYsOkWORDSEPARATORdLUSbICK",
   "eUPTRUCKcEcGdFACEdNOSEcLCROWSIGNdEOFPOOdLcNATAdCHEDFINGERSfINGHANDdEAPPLEeDECORATION",
   "dKHEARTdWHEELSTARcSCESdTOLcTCHFORKjWITHTEETOPbLACARDeEOFINTERESTSIGNhWORSHIPdNCKCONSTANT",
   "oOVERTWOPIdYGROUNDSLIDEeINGCARDACEOFCLUBSqDIAMONDSqHEARTSqSPADESlBACKmLACKJOKER",
   "lEIGHTOFCLUBSsDIAMONDSsHEARTSsSPADESlFIVEOFCLUBSrDIAMONDSrHEARTSrSPADESmOOLnUROFCLUBS",
   "rDIAMONDSrHEARTSrSPADESlJACKOFCLUBSrDIAMONDSrHEARTSrSPADESlKINGOFCLUBSrDIAMONDSrHEARTS",
   "rSPADESmNIGHTOFCLUBStDIAMONDStHEARTStSPADESlNINEOFCLUBSrDIAMONDSrHEARTSrSPADES",
   "lQUEENOFCLUBSsDIAMONDSsHEARTSsSPADESlREDJOKERlSEVENOFCLUBSsDIAMONDSsHEARTSsSPADES",
   "mIXOFCLUBSqDIAMONDSqHEARTSqSPADESlTENOFCLUBSqDIAMONDSqHEARTSqSPADESmHREEOFCLUBSsDIAMONDS",
   "sHEARTSsSPADESmRUMP1r0r1r2r3r4r5r6r7r8r9q2r0r1q3q4q5q6q7q8q9mWOOFCLUBSqDIAMONDSqHEARTS",
   "qSPADESlWHITEJOKERcDcUdNGERdSMINUSSIGNeSIGNiABOVEEQUALSSIGNiINLEFTHALFCIRCLE",
   "kRIGHTHALFCIRCLEkTRIANGLEiWITHBLACKTRIANGLEmCIRCUMFLEXACCENTABOVEmDOTBELOW",
   "mSMALLCIRCLEABOVEnUBSCRIPTTWOmTILDEABOVErBELOWdTOfFORMFIVEkOURjTHREEkWObMbNPTRANSISTOR",
   "bOCKETCALCULATORcLICECARjSREVOLVINGLIGHTgOFFICERcODLEcPCORNdDIRECTIONALFORMATTINGoISOLATE",
   "cRTABLESTEREOcSEIDONdITIONINDICATORdTALHORNgMARKkFACEeBOXcTABLEWATERSYMBOLeTOdOFFOOD",
   "dTEDPLANTcUCHdLTRYLEGdNDSIGNdRINGLIQUIDdTINGCATFACEhFACEcWERONOFFSYMBOLhSYMBOLfSLEEPSYMBOL",
   "gYMBOLbRAYERBEADScECEDESiABOVEALMOSTEQUALTOnEQUALSSIGNnNOTALMOSTEQUALTOqEQUALTO",
   "nSINGLELINEEQUALSSIGNxNOTEQUALTOiBUTNOTEQUIVALENTTOiOREQUALTOnIVALENTTOiUNDERRELATION",
   "dGNANTMANiPERSONiWOMANdSCRIPTIONTAKEeENTATIONFORMFORVERTICALCOLON+dMMA+bEMDASH+cNDASH",
   "+cXCLAMATIONMARK+bHORIZONTALELLIPSIS+bIDEOGRAPHICCOMMA+mFULLSTOP+bLEFTANGLEBRACKET",
   "+fBLACKLENTICULARBRACKET+fCORNERBRACKET+gURLYBRACKET+fDOUBLEANGLEBRACKET+fPARENTHESIS",
   "+fSQUAREBRACKET+fTORTOISESHELLBRACKET+fWHITECORNERBRACKET+kLENTICULARBRACKET+cOWLINE",
   "+bQUESTIONMARK+bRIGHTANGLEBRACKET+gBLACKLENTICULARBRACKET+gCORNERBRACKET+hURLYBRACKET",
   "+gDOUBLEANGLEBRACKET+gPARENTHESIS+gSQUAREBRACKET+gTORTOISESHELLBRACKET+gWHITECORNERBRACKET",
   "+lLENTICULARBRACKET+yKCET+bSEMICOLON+bTWODOTLEADER+bWAVYLOWLINEdTZELdVIOUSPAGEcIMEdNCEgSS",
   "eTERhICONfSCREENSYMBOLdVACYMESSAGEfTEUSE1k2kONEkTWOcOBINGCANEdHIBITEDSIGNdJECTIVE",
   "dPERTYLINEeORTIONkALTOdSERPINAbSALTERPAHLAVIFOURDOTSWITHCROSS+aDOToLETTERALEPHuBETHuDALETH",
   "uGIMELuHEwTHuKAPHuLAMEDHuMEMQOPHuNUNuPEuSADHEwMEKHvHINuTAWuWAWAYINRESHuYODHuZAYIN",
   "oNUMBERFOURuONExHUNDREDuTENvHREEvWENTYwOoSECTIONMARKoTURNEDSECTIONMARKcYCHEbU1c2",
   "cBLICADDRESSLOUDSPEAKERcNCTUATIONSPACEgSELEVATUSMARKcRPLEHEARTdSEcSHPIN",
   "cTLITTERINITSPLACESYMBOLaQUADRANTLOWERLEFTnRIGHTiUPPERLEFTrANDLOWERLEFTANDLOWERRIGHTzRIGHT",
   "uUPPERRIGHTANDLOWERLEFT+mRIGHTnRIGHTsANDLOWERLEFT+eANDLOWERRIGHTfUPLEINTEGRALOPERATOR",
   "jPRIMEdOARdRTERNOTEdTERNIONINTEGRALOPERATORcESTIONEDEQUALTOjXCLAMATIONMARKiMARKcINCUNX",
   "cOTATIONMARKaRABBITgFACEcCCOONdINGCARgMOTORCYCLEcDICALSYMBOLBOTTOMeOfACTIVESIGNfBUTTON",
   "cILWAYCARhTRACKdNeBOWdSEDBACKOFHANDgCOMMAgDOTjTEDINTERPOLATIONMARKERgFISTgHAND",
   "kWITHFINGERSSPLAYEDoPARTBETWEENMIDDLEANDRINGFINGERSgINTERPOLATIONMARKERgMCSIGNhDSIGNhRSIGN",
   "gSMALLLEFTSQUAREBRACKEThQUAREcMcTdIOcZORbECEIPTePTACLEdORDSEPARATORdREATIONALVEHICLE",
   "dYCLEDPAPERSYMBOLgINGSYMBOLFORGENERICMATERIALSsTYPE1PLASTICSw2PLASTICSw3PLASTICSw4PLASTICS",
   "w5PLASTICSw6PLASTICSw7PLASTICScDAPPLEdGIFTENVELOPEcFERENCEMARK",
   "cGIONALINDICATORSYMBOLLETTERA+dB+dC+dD+dE+dF+dG+dH+dI+dJ+dK+dL+dM+dN+dO+dP+dQ+dR+dS+dT+dU",
   "+dV+dW+dX+dY+dZeSTEREDSIGNcJANGCONSONANTSIGNHtNuGtRgLETTERAmBAmCAmDAmGAmHAmJAmKAmLAmMAnBA",
   "mNAnDAnGAoGAnYAoJAmPAmRAmSAmTAmWAmYAgSECTIONMARKgVIRAMAhOWELSIGNAIqUpEqAqUpIpOpU",
   "cLIEVEDFACEcMINDERRIBBONcPLACEMENTCHARACTERcSPONSEdTRICTEDLEFTENTRY1t2fOOMcTURNLEFTgRIGHT",
   "gSYMBOLcVERSECHECKERBOARDhDANGLEnWITHUNDERBARiCOMMAiDOUBLEPRIMEtQUOTATIONMARK",
   "oSTROKENOTSIGNiEMPTYSETiFORKEDPARAGRAPHOSiHANDWITHMIDDLEFINGEREXTENDEDiNOTSIGNiPILCROWSIGN",
   "jRIMEiQUESTIONMARKiRAISEDHANDWITHFINGERSSPLAYEDjIGHTANGLEjOTATEDFLORALHEARTBULLET",
   "iSANSSERIFCAPITALLjEMICOLONiTHUMBSDOWNSIGNoUPSIGNjILDEnEQUALSjRIPLEPRIMEiVICTORYHANDhINDEX",
   "hLIGHTFOURPOINTEDPINWHEELSTARjNEFEEDhSOLIDUSoOPERATORoPRECEDINGSUBSEToWITHHORIZONTALSTROKE",
   "hTILDEOPERATORABOVELEFTWARDSARROWzRIGHTWARDSARROWdOLVINGHEARTSbHINOCEROSbIcALSIGNcBBON",
   "gARROWDOWNLEFTpRIGHTlLEFTDOWNpUPlRIGHTDOWNqUPlUPLEFTnRIGHTcCEBALLeCRACKERcFLE",
   "cGHTANDLOWERONEEIGHTHBLOCKiUPPERONEEIGHTHBLOCKhGERBUBBLEiLEkBRACKETrWITHDOT",
   "kDOTTEDSUBSTITUTIONMARKERkSUBSTITUTIONMARKERkVARIANTWITHSQUAREkWITHARC",
   "oDOWNWARDSZIGZAGARROWgRCGREATERTHANBRACKEThROWWITHCIRCLEDPLUSoSMALLCIRCLE",
   "fBLACKLENTICULARBRACKETkTORTOISESHELLBRACKETfCEILINGgORNERBRACKETgURLYBRACKETrLOWERHOOK",
   "rMIDDLEPIECErUPPERHOOKfDOTTEDSUBSTITUTIONBRACKEThUBLEANGLEBRACKETmRROWWITHROUNDEDHEAD",
   "lPARENTHESISlQUOTATIONMARKlWIGGLYFENCEfFACINGARMENIANETERNITYSIGNlBASSINETlFISH",
   "pWITHOPENMOUTHoTlSNAKEHEADWITHCLOSEDMOUTHyOPENMOUTHmVASTISIGNvWITHDOTSgISHTAIL",
   "hVEEIGHTHSBLOCKgLOORfHALFANDLEFTHALFWHITECIRCLEjBLACKCIRCLEoSTARlOCKjFLYINGSAUCERkOLDER",
   "jHORIZONTALLINEWITHTHREETICKMARKSjLOWERONEQUARTERBLOCKjMEDIUMSHADEjRUNNINGMAN",
   "jTRIPLEDASHHORIZONTALjUPPERONEQUARTERBLOCKjWHITEELLIPSEhNDEDINTERLACEDPENTAGRAM",
   "jINTERIORPRODUCTjTELEPHONERECEIVERfJUSTIFIEDLEFTHALFBLACKCIRCLEwWHITECIRCLE",
   "fLOWPARAPHRASEBRACKETfNORMALFACTORSEMIDIRECTPRODUCTfONEEIGHTHBLOCKiQUARTERBLOCK",
   "gPENSQUAREDDOTgUTERJOINfPARENTHESISqEXTENSIONqLOWERHOOKqUPPERHOOKgOINTINGANGLEBRACKET",
   "oTOMICBOMBnCURVEDANGLEBRACKETnDIODEoOUBLEANGLEQUOTATIONMARKnENERGYWAVEnGOKART",
   "nMAGNIFYINGGLASSnRACINGCARoIFLEoOCKETBOOSTERtSHIPpLLERCOASTERCARnSTICKFIGUREnTANK",
   "fRAISEDOMISSIONBRACKETfSEMIDIRECTPRODUCThVENEIGHTHSBLOCKgHADEDWHITERIGHTWARDSARROW",
   "gIDEARCCLOCKWISEARROWjWAYSUBRACKEThNGLEQUOTATIONMARKgPEAKERmWITHONESOUNDWAVE",
   "qTHREESOUNDWAVESiECHBUBBLEgQUAREBRACKETsEXTENSIONsLOWERCORNERsUPPERCORNERsWITHDOUBLESTROKE",
   "wQUILLwSTROKEwTICKINBOTTOMCORNER+cTOPCORNERwUNDERBARgSHAPEDBAGDELIMITERgUBSTITUTIONBRACKET",
   "fTACKgHIRDINDUCTORkWHITERIGHTPOINTINGINDEXhOUGHTBUBBLEhREEEIGHTHSBLOCKkQUARTERSBLOCK",
   "sLOWERONEQUARTERBLOCKsUPPERONEQUARTERBLOCKgOLEFTEMBEDDINGlISOLATElMARKlOVERRIDE",
   "hRTOISESHELLBRACKETgRANSPOSITIONBRACKEThIANGLEnABOVELEFTTRIANGLElULARONEQUARTERBLOCK",
   "fVERTICALBARWITHQUILLoOXLINEnRULERSEGMENTfWARDSARROWpABOVEALMOSTEQUALTO",
   "uREVERSEALMOSTEQUALTO+bTILDEOPERATORuSHORTLEFTWARDSARROWuTILDEOPERATOR",
   "qNDUPPERANDLOWERONEEIGHTHBLOCKpFROMBARwTOBLACKDIAMONDtDOWNWARDSARROWpOVERLEFTWARDSARROW",
   "pTAILqHROUGHGREATERTHANwSUPERSETwXqOBARsLACKDIAMONDpWITHCORNERDOWNWARDStDOTTEDSTEM",
   "vUBLEVERTICALSTROKEtEQUILATERALARROWHEADtHOOKtLARGETRIANGLEARROWHEADuOOPvWERHOOK",
   "tMEDIUMTRIANGLEARROWHEADtNOTCHEDTAILtPLUSBELOWtSMALLEQUILATERALARROWHEADyTRIANGLEARROWHEAD",
   "uTROKEtTAILxWITHDOUBLEVERTICALSTROKE+bVERTICALSTROKEuIPDOWNWARDSwUPWARDStVERTICALSTROKE",
   "kBACKTILTEDSHADOWEDWHITEARROWlLACKARROWpCIRCLEDWHITEARROWlOTTOMSHADEDWHITEARROW",
   "kCOMPRESSEDARROWkDASHEDARROWlOUBLEARROWvFROMBARvTAILvWITHSTROKEzVERTICALSTROKEqDASHARROW",
   "kFINGERPOSTARROWlRONTTILTEDSHADOWEDWHITEARROWkHANDmRPOONOVERLEFTWARDSHARPOON",
   "rWITHBARBDOWNABOVELEFTWARDSHARPOONWITHBARBDOWN+dBELOWLONGDASH+dFROMBAR+dTOBAR+dWARDS",
   "zUPABOVELEFTWARDSHARPOONWITHBARBUP+hONGDASH+gRIGHTWARDSHARPOONWITHBARBDOWN+bFROMBAR+bTOBAR",
   "+bWARDSlEAVYARROWpCOMPRESSEDARROWkLEFTSHADEDWHITEARROWkOPENHEADEDARROWkPAIREDARROWS",
   "lUSHINGHANDkQUADRUPLEARROWkRIGHTSHADEDWHITEARROWlOCKETkSANSSERIFARROWlQUAREDARROW",
   "nIGGLEARROWkTOPSHADEDWHITEARROWlRIANGLEARROWHEADsHEADEDARROW",
   "+dOVERLEFTWARDSTRIANGLEHEADEDARROW+dTOBAR+dWITHBOLDSHAFT+hDOUBLEHORIZONTALSTROKE",
   "+nVERTICALSTROKE+hHEAVYSHAFT+hLONGTIPDOWNWARDS+oUPWARDS+hMEDIUMSHAFT+hNARROWSHAFT",
   "+hVERYHEAVYSHAFTyDASHEDARROWyPAIREDARROWSnPLEARROWqDASHARROWlWOHEADEDARROWyFROMBAR",
   "yWITHDOUBLEVERTICALSTROKE+cTAIL+gWITHDOUBLEVERTICALSTROKE+kVERTICALSTROKE",
   "+dRIANGLEARROWHEADS+cVERTICALSTROKEtTRIPLEDASHARROWkWAVEARROWlHITEARROWuFROMWALL",
   "uWITHINTRIANGLEARROWHEADgHITECORNERBRACKETlURLYBRACKETkLENTICULARBRACKETkPARENTHESIS",
   "kSQUAREBRACKETkTORTOISESHELLBRACKETgIGGLYFENCEcNGeABOVEeBUOYeEDPLANETfQUALTOeINEQUALTO",
   "gGBELLeOPERATORePOINTcSINGDIAGONALCROSSINGFALLINGDIAGONALwSOUTHEASTARROWbLEcIcMcO",
   "bOASTEDSWEETPOTATOcBOTFACEcCKeETcLLEDUPNEWSPAPERfRCOASTERgSKATEeINGONTHEFLOORLAUGHING",
   "eOFPAPERcMANASSIGNfCENTURIALSIGNfDENARIUSSIGNgIMIDIASEXTULASIGNgUPONDIUSSIGNfNUMERALEIGHT",
   "nLEVENmFIFTYrEARLYFORMrTHOUSANDoVEqHUNDREDqTHOUSANDnOURmNINEmONEpHUNDREDwTHOUSANDpTHOUSAND",
   "xCDmREVERSEDONEHUNDREDmSEVENnIXpLATEFORMmTENpTHOUSANDnHREEnWELVEoOfQUINARIUSSIGN",
   "fSEMUNCIASIGNhSTERTIUSSIGNhXTANSSIGNjULASIGNgILIQUASIGNfUNCIASIGNcOSTERdTVEGETABLEcSEeTTE",
   "cTATEDCAPITALQhFLORALHEARTBULLEThHEAVYBLACKHEARTBULLEThLIGHTFOURPOINTEDBLACKCUSP",
   "hWHITEFOURPOINTEDCUSPcUNDEDSYMBOLFORCAIqFUqLUqSHOUsUANGXIqXIfPUSHPINfTARGETcWBOATbS",
   "bUBLESIGNcGBYFOOTBALLcLEDELAYEDcMIDIGITEIGHTjFIVEkOURjNINEjONEjSEVENkIXjTHREEkWO",
   "eFRACTIONONEHALFpQUARTERpTHIRDmTWOTHIRDSeNUMBEREIGHTHUNDREDpYkFIFTYmVEHUNDREDlORTY",
   "mURHUNDREDkNINEHUNDREDoTYkONEHUNDREDkSEVENHUNDREDpTYlIXHUNDREDnTYkTENlHIRTYmREEHUNDRED",
   "lWENTYmOHUNDREDcNICARLAUGSYMBOLfBELGTHORSYMBOLfCROSSPUNCTUATIONfLETTERACAmESCmLGIZEOLHX",
   "mNSUZAlBERKANANBEORCBJARKANBlCmALCmEALCnNmWEORTHlDmAGAZDAEGDmOTTEDLrNrPlEmARmHWAZEHEmNGmTH",
   "lFEHUFEOHFEFmRANKSCASKETACyESCxEHxISxOSlGmARmEBOGYFUGnRlHAEGLHnGLAZHlICELANDICYRmNGoWAZmOR",
   "mSAZISISSImWAZEOHlJERANJlKmAUNApKlLAUKAZLAGULOGRLmONGBRANCHARAEvHAGALLHvMADRMvOSSOvYR",
   "lMANNAZMANMlNAUDIZNYDNAUDNlOmEmNmOmPENPmSOmTHALANETHELOlPERTHOPEORTHPlQlRAIDORADREIDRlSH",
   "nORTTWIGARAuBJARKANBuHAGALLHuMADRMuNAUDNuOSSOuSOLSuTYRTuYRmIGELLONGBRANCHSOLSmOWILOSmTAN",
   "lTHURISAZTHURSTHORNmIWAZTIRTYRTlURUZURUlVlWmUNJOWYNNWlXlYmRlZfMULTIPLEPUNCTUATION",
   "fSINGLEPUNCTUATIONfTVIMADURSYMBOLdNEReINGSHIRTWITHSASHcPEESIGN",
   "cSSIANASTROLOGICALSYMBOLBINOVILEzNOVILEzQUINTILEzSENTAGONzTREDECILEzVIGINTILEaSAFETYPIN",
   "gVESTcGITTARIUScILBOATcKEBOTTLEANDCUPcLTIREeSHAKERdUTINGFACEcMARITANABBREVIATIONMARK",
   "jLETTERALAFpBAAqITpDALATpFIpGAMANpINqTqYpKAAFpLABATpMIMpNUNpQUFpRISHpSHANqINGAATpTAAFqIT",
   "qSAADIYpYUTpZENjMARKDAGESHnEPENTHETICYUTnINpALAFnNEQUDAAnOCCLUSION",
   "kODIFIERLETTEREPENTHETICYUTxIxSHORTAjPUNCTUATIONAFSAAQvNGEDwNAAUvRKAANUvTMAAUuBAU",
   "uMELODICQITSAuNEQUDAAuQITSAuSHIYYAALAAvOFMASHFAATuTURUuZAEFvIQAAjVOWELSIGNAtAsEsIsLONGAxA",
   "wEwIwUsOtVERLONGA+bAsSHORTAtUKUNsUcNDWICHdSSERIFHEAVYDOUBLECOMMAQUOTATIONMARKORNAMENT",
   "uTURNEDCOMMAQUOTATIONMARKORNAMENToLOWDOUBLECOMMAQUOTATIONMARKORNAMENTjINTERROBANGORNAMENT",
   "cRIcTELLITEjANTENNAdURNcUDIRIYALSIGNdRASHTRACONSONANTSIGNHAARUkDANDAlIGITEIGHTpFIVEqOUR",
   "pNINEpONEpSEVENqIXpTHREEqWOpZEROlOUBLEDANDAkLETTERArArIrUqBArHAqCArHAqDArDAsHArHAqErEqGA",
   "rHAqHAqIrIqJArHAqKArHAqLArLAqMAqNArGArNArYAqOrOqPArHAqRAqSArHArSAqTArHArTAsHAqUrUqVA",
   "rOCALICLyLxRyRqYAkSIGNANUSVARAoCANDRABINDUoVIRAMAqSARGAkVOWELSIGNAAuIuUtEuEtIuItOuOtUuU",
   "tVOCALICL+bL+aR+bReOPODcXOPHONEbCALESdRFcHOOLgSATCHELcIcOOTERdRPIONgUScREENeWDRIVER",
   "dIPTCAPITALBnEnFnHnInLnMnPnRgLIGATUREETORNAMENTgSMALLElGlLlOdOLLdUPLEbEALdTcCONDPLACEMEDAL",
   "dTIONSIGNeORcDNAcEDLINGdNOEVILMONKEYcGMENThEDDIGITEIGHToFIVEpOURoNINEoONEoSEVENpIXoTHREE",
   "pWOoZEROcLFIEcMICOLONeDIRECTPRODUCTWITHBOTTOMCLOSEDeSEXTILEcPARATEDBLOCKQUADRANT1x2y3z4y4",
   "x3y4x4w2x3y4x4w3x4w4oSEXTANT1w2x3y4z5+a6z6y5z6y6x4y5z6y6x5y6x6w3x4y5z6y6x5y6x6w4x5y6x6w5x6",
   "w6v2w3x4y5z6y6x5y6x6w4x5y6x6w5x6w6v3w4x5y6x6w5x6w6v4w5x6w6v5w6v6jSYMBOL",
   "cRIOUSFACEWITHSYMBOLSCOVERINGMOUTHdVICEMARKcSAMEDOTdQUIQUADRATEcTMINUSdTRANSMITSTATE",
   "cWINGNEEDLEcXTILEbGCbHADOWEDWHITECIRCLEnLATINCROSSnSTARdKINGFACEdLLOWPANOFFOODdMROCK",
   "dRADAABBREVIATIONSIGNhCONTINUATIONSIGNhDANDAiIGITEIGHTmFIVEnOURmNINEmONEmSEVENnIXmTHREEnWO",
   "mZEROiOUBLEDANDAhEKAMiXTRASHORTVOWELMARKhHEADSTROKEhLETTERAoAoIoUnBAoHAnCAoHAnDAoDApHAoHA",
   "nEnGAoHAnHAnIoInJAoHAnKAoHAnLAoLAnMAnNAoGAoNAoYAnOnPAoHAnRAnSAoHAoSAnTAoHAoTApHAnUoUnVA",
   "oOCALICLvLuRvRnYAhOMhSANDHIMARKiECTIONMARK1s2jPARATORiIGNANUSVARAmVAGRAHAlCANDRABINDU",
   "lINVERTEDCANDRABINDUlJIHVAMULIYAlNUKTAlSIDDHAMlUPADHMANIYAlVIRAMAnSARGAiUTRAMARK",
   "hVOWELMODIFIERMARKmSIGNAArIrUqCANDRAEwOqEqIrIqOrErOEqPRISHTHAMATRAEqSHORTEvOqUrErUsE",
   "qVOCALICLyLxRyReKdVEDICEeIANLETTERADOoGEoHoIRoREpRAYoSHoWEnBIBnCHURCHnDEADnEARpToGGoRRnFEE",
   "nGAGnHAHAoUNGnIANoCEoFnJUDGEnKICKnLOLLnMEASUREoIMEnNUNnOAKoILoNoOZEoRoUTnPEEPnROARnSOoURE",
   "nTHEYpIGHoOTnUPnVOWnWOEpOLnYEApWnZOOcEEPcIELDdFTINfOUTdNTOSHRINEdP",
   "cOCKEDFACEWITHEXPLODINGHEADdOTINGSTARdPPINGBAGSiTROLLEYdRTBACKSLANTEDSOUTHARROW",
   "gENTARROWPOINTINGDOWNWARDSTHENNORTHEASTfCAKEfDOWNTACKnWITHOVERBAR",
   "fHANDFORMATCONTINUINGOVERLAPpDOWNSTEPpLETTEROVERLAPpUPSTEPfLEFTTACK",
   "jWARDSHARPOONABOVELONGRIGHTWARDSHARPOONfRIGHTWARDSARROWABOVELEFTWARDSARROW",
   "pHARPOONABOVELONGLEFTWARDSHARPOONfSgLANTEDNORTHARROWfUPTACKlABOVESHORTDOWNTACK",
   "lWITHUNDERBARdULDEREDOPENBOXdVELdWERcRIMPdUGcUFFLEPRODUCTcYbIcDDHAMDANDAiOUBLEDANDA",
   "hENDOFTEXTMARKhLETTERAoAoIoLTERNATEUoUnBAoHAnCAoHAnDAoDApHAoHAnEnGAoHAnHAnIoInJAoHAnKAoHA",
   "nLAnMAnNAoGAoNAoYAnOnPAoHAnRAnSAoHAoSAnTAoHApREECIRCLEALTERNATEIoTApHAoWOCIRCLEALTERNATEI",
   "+gInUoUnVAoOCALICLvLuRvRnYAhREPETITIONMARK1v2v3hSECTIONMARKDOUBLERING+cWITHRAYS",
   "sWITHCIRCLESANDFOURENCLOSURES+gRAYS+gTWOENCLOSURESwDOUBLECRESCENTSwQUADRUPLECRESCENTS",
   "wRAYSANDDOTTEDCRESCENTS+jDOUBLECRESCENTS+jTRIPLECRESCENTSwSEPTUPLECRESCENTS",
   "wTRIDENTANDDOTTEDCRESCENTS+gUSHAPEDORNAMENTSzPLECRESCENTSjPARATORBARqDOTiIGNANUSVARA",
   "lCANDRABINDUlNUKTAlSIDDHAMlVIRAMAnSARGAhVOWELSIGNAArIrLTERNATEU+aUrUqEqIrIqOqUrUqVOCALICR",
   "yRdETICLETTERN01p2p3p4p5p6p7p8p9o10p1p2p3p4p5p6p7p8p9o20p1p2p3p4p5p6",
   "eWAYSBLACKDOWNPOINTINGINDEXnLEFTPOINTINGINDEXnRIGHTPOINTINGINDEXnUPPOINTINGINDEX",
   "iWHITEDOWNPOINTINGINDEXnLEFTPOINTINGINDEXnRIGHTPOINTINGINDEXnUPPOINTINGINDEXcGNOFTHEHORNS",
   "eWRITINGAIRBLOWINGOUTsSMALLROTATIONSoSUCKINGINsSMALLROTATIONSlBREATHEXHALErINHALE",
   "nUSHBETWEENqMULTIPLEqSINGLElCHEEKSNEUTRALrPUFFEDrSUCKEDmOLONnMMAlDREAMYEYEBROWSDOWNNEUTRAL",
   "zNEUTRALDOWN+gUPzUPNEUTRALmYNAMICARROWHEADLARGE+bSMALLsEVERYOTHERTIMEsFASTsGRADUALsRELAXED",
   "sSIMULTANEOUS+eALTERNATINGtLOWsTENSElEARSmXCITEMENTmYEBLINKMULTIPLEtSINGLE",
   "pROWSSTRAIGHTDOWN+bNEUTRAL+bUPoGAZEFLOORPLANECURVED+cSTRAIGHT+kALTERNATING+kDOUBLE",
   "sWALLPLANECIRCLING+cURVED+bSTRAIGHT+jALTERNATING+jDOUBLEoLASHESDOWNuFLUTTERINGuUPoSCLOSED",
   "pHALFCLOSEDtOPENpOPENpSQUEEZEDpWIDENINGMOVEMENTtOPENoWINK",
   "lFACEDIRECTIONPOSITIONNOSEFORWARDTILTING+kUPORDOWN+sTILTINGmILLMODIFIER2x3x4x5x6nNGER",
   "mLICKLARGEMULTIPLEvSINGLEqSEQUENTIALrMALLMULTIPLEvSINGLEnOORPLANESHOULDERHIPMOVE",
   "mOREHEADCONTACTtNEUTRALtWRINKLEDmULLSTOPlGRASPBETWEENqMULTIPLEqSINGLElHAIRnNDANGLEuINDEX",
   "zMIDDLELITTLE+fRINGzRINGLITTLE+jOUTzTHUMB+eIN+eOUTuLITTLEINDEX+fTHUMBINDEXTHUMB+uOUT+aUP",
   "uMIDDLERINGLITTLE+kIN+kOUTuRINGDOWNMIDDLETHUMBINDEXCROSSyLITTLEpCIRCLEvINDEX+aBENT+aHINGE",
   "+aMIDDLE+gCROSSED+lLITTLE+gLITTLE+gRING+gTHUMB+aRINGLITTLEvLITTLEINDEX+bUP",
   "vMIDDLERINGLITTLE+lBENT+bUPvRINGLITTLEqLAWtFOURFINGERSCONJOINEDtINDEXTHUMBCURVETHUMBINSIDE",
   "tMIDDLERINGLITTLECONJOINED+sSIDEtNOTHUMBtTHUMBFORWARDySIDEqUPsFIVEFINGERSSPREAD+jOPEN",
   "sINDEXxRINGLITTLExTHUMB+cOPENsMIDDLERINGLITTLEsNOTHUMBsOPENwNOTHUMBwTHUMBFORWARD+bSIDE",
   "sTHUMBFORWARDxSIDErRLICUExINDEXRINGLITTLEONxMIDDLERINGLITTLEONxOPENpFIST",
   "tFOURFINGERSCONJOINEDBENTtHEELtINDEXyBENT+cOVERMIDDLEyCUPPEDyHINGED+eLOW+eMIDDLEUP",
   "+mTHUMBSIDEyMIDDLE+eBENT+iTHUMBSTRAIGHT+eCONJOINED+nCUPPED+tTHUMBFORWARD+nHINGED",
   "+tTHUMBSIDE+nINDEXBENT+nMIDDLEBENT+nTHUMBFORWARD+sSIDE+wBENT+wCONJOINED+fROSSED+lTHUMBSIDE",
   "+jLITTLE+eHINGED+kSPREADTHUMBSIDE+eLITTLE+eRAISEDKNUCKLES+fING+iBENT+iCONJOINED",
   "+eSTRAIGHTTHUMBBENT+eTHUMB+jANGLED+pOUT+jBENT+jCIRCLED+kONJOINEDHINGED+kUPPED+jHINGED",
   "+kOOKED+eUPSPREADTHUMBFORWARDyRAISEDKNUCKLEzINGLITTLEyTHUMBANGLEDINMIDDLEUP+jOUTMIDDLEUP",
   "+dCIRCLE+jDMIDDLEUP+eUPPEDMIDDLEUP+fRLICUE+gVETHUMBINSIDE+nUNDER+dFORWARDINDEXBENT",
   "+pSTRAIGHT+dHOOK+hEDMIDDLEHINGED+pUP+dSIDE+hBOTHBENT+hINDEXBENT+mHINGE+hTHUMBBENT",
   "+mCONJOINED+mDIAGONALyUPMIDDLEHINGED+mTHUMBCONJOINED+rSIDEtLITTLEBENTzDOWN+dOTHERSCIRCLED",
   "+dRIPPLECURVED+jSTRAIGHTzINDEX+eTHUMBzRAISEDKNUCKLEzTHUMB+aOUCHESTHUMBzUP",
   "tMIDDLEBENTOVERINDEXzDOWNzLITTLEzRAISEDKNUCKLE+aINGLITTLEzTHUMBANGLEDINDEXUP",
   "+kOUTINDEXCROSSED+sUP+eCIRCLEDINDEXHINGED+qUP+fUPPEDINDEXUP+eHOOKEDINDEXUP+eLITTLEzUP",
   "+bTHUMBSIDEtRINGDOWNxINDEXxLITTLExMIDDLE+dCONJOINED+dRAISEDKNUCKLESxRAISEDKNUCKLExTHUMBxUP",
   "tTHUMByBETWEENINDEXMIDDLE+qSTRAIGHT+fMIDDLERING+fRINGLITTLEyFORWARDyHEEL",
   "yOVERFOURRAISEDKNUCKLES+cTWOFINGERSySIDEBENT+cCONJOINED+cDIAGONALyUNDERFOURFINGERS",
   "+dINDEXBENT+dLITTLEUP+dTHREEFINGERS+eWOFINGERSqLATtBETWEENPALMFACINGStFIVEFINGERSSPREAD",
   "+kBENT+kFOURBENT+kHINGED+qNOTHUMB+qTHUMBSIDE+kTHUMBFORWARDuOURFINGERS+eBENT+eCONJOINED",
   "+nSPLIT+eHINGEDtHEELxFIVEFINGERSSPREAD+oBENT+oFOURBENTxTHUMBSIDEtSPLITCENTRE+eTHUMBSIDE",
   "+nBENTyINDEXTHUMBSIDEyLITTLEtTHUMBBENTyFORWARDySIDEpHINGEuFIVEFINGERSSPREADOPEN",
   "vOURFINGERSCONJOINEDuINDEXzHINGEDzMIDDLELITTLE+fRING+jCONJOINEDzRINGLITTLEzTHUMB+eLARGE",
   "+eOPEN+eSIDE+fMALLuLITTLE+aINDEX+fTHUMB+aTHUMBuMIDDLE+aRINGLITTLEuNOTHUMBuOPENyNOTHUMB",
   "yTHUMBFORWARD+dSIDEuRINGyDOWNINDEXTHUMBHOOKMIDDLEuSMALLuTHUMBBETWEENMIDDLERINGzSIDE",
   "+dTOUCHINGINDEXqOOKtCURLICUEtINDEXRINGLITTLEIN+iOUT+iUNDERtMIDDLERINGLITTLECONJOINED+sIN",
   "+sOUTzTHUMBtRINGTHUMBpOVALtFIVEFINGERSSPREADtINDEXtLITTLEUPtNOTHUMBtRINGLITTLE",
   "tTHUMBFORWARDySIDEmEADpMOVEMENTCIRCLExFLOORPLANECURVE+hSTRAIGHTxWALLPLANECURVE+gSTRAIGHT",
   "+gTILTpRIMlLIMBCOMBINATIONpLENGTH1v2v3v4v5v6v7nPLOWEROVERUPPERoSPRESSEDTOGETHER",
   "oUPPEROVERLOWERmOCATIONDEPTHtFLOORPLANESPACEtHEADNECKvIGHTtLIMBSDIGITStTORSO",
   "tWALLPLANESPACEuIDTHlMOUTHCLOSEDCONTACTwFORWARDwNEUTRALrORNERSqFROWNvOPENvWRINKLEDqKISS",
   "uFORWARDuWRINKLEDqOPENCIRCLEuFORWARDuOVALyWRINKLEDyYAWNuRECTANGLE+dWRINKLED+dYAWNuWRINKLED",
   "qSMILEvOPENvWRINKLEDqTENSEvFORWARDvSUCKEDqWRINKLESDOUBLEySINGLEnVEMENTDIAGONALAWAYLARGE",
   "+kST+fMEDIUM+fSMALL+bBETWEENAWAYLARGE+rST+mMEDIUM+mSMALL+iTOWARDSLARGE+uST+pMEDIUM+pSMALL",
   "+bTOWARDSLARGE+nST+iMEDIUM+iSMALLtFLOORPLANEARMCIRCLEHITTINGWALLLARGEDOUBLE++cSINGLE",
   "+xMEDIUMDOUBLE++dSINGLE+xSMALLDOUBLE++cSINGLE+dBEND+eOXLARGE+gMEDIUM+gSMALL+dCHECK",
   "+eORNERLARGE+jMEDIUM+jSMALL+eROSS+eURVECOMBINED+iHITTINGCEILINGLARGE+wSMALL+pFLOORLARGE",
   "+uSMALL+iLARGE+nST+iMEDIUM+iSMALL+dDOUBLEALTERNATING+uWRISTFLEX+jSTRAIGHT+jWRISTFLEX",
   "+dFINGERCIRCLESHITTINGWALLDOUBLE++bSINGLE+kONTACT+dHUMPHITTINGCEILINGLARGEDOUBLE++aTRIPLE",
   "+vSMALLDOUBLE++aTRIPLE+oFLOORLARGEDOUBLE+tSMALLDOUBLE+tTRIPLELARGETRIPLE+zSMALLTRIPLE",
   "+hSMALL+dJAW+dLOOPHITTINGCEILINGLARGEDOUBLE++aSINGLE+vSMALLDOUBLE++aSINGLE",
   "+oFLOORLARGEDOUBLE+ySINGLE+tSMALLDOUBLE+ySINGLE+hSMALL+dPEAKSLARGE+iMEDIUM+iSMALL",
   "+dSHAKINGPARALLEL+eINGLESTRAIGHTLARGE+wST+rMEDIUM+rSMALL+jWRISTFLEX",
   "+dTRIPLEALTERNATINGMOVEMENT+uWRISTFLEX+jSTRAIGHTMOVEMENT+jWRISTFLEX",
   "+dWAVEHITTINGCEILINGLARGE+vSMALL+oFLOORLARGE+tSMALL+hLARGE+hSMALL+iNAKE",
   "+eRISTCIRCLEHITTINGWALLDOUBLE+zSINGLE+dZIGZAGLARGE+jMEDIUM+jSMALLtHINGEDOWNSEQUENTIAL",
   "ySIDETOSIDESCISSORSyUPDOWNALTERNATINGLARGE+pSMALL+eLARGE+eSMALL+aSEQUENTIAL",
   "tWALLPLANEARMCIRCLEMEDIUMDOUBLE+rSINGLE+lSMALLDOUBLE+qSINGLE+cBENDLARGE+gMEDIUM+gSMALL",
   "+dOXLARGE+fMEDIUM+fSMALL+cCHECKLARGE+hMEDIUM+hSMALL+dORNERLARGE+iMEDIUM+iROTATION+iSMALL",
   "+dROSS+dURVEDCROSSMEDIUM+nSMALL+hHALFCIRCLELARGE+wST+rMEDIUM+rSMALL+iITTINGCHEST",
   "+oFRONTWALL+hQUARTERLARGE+tST+oMEDIUM+oSMALL+hTHENSTRAIGHT+jREEQUARTERCIRCLEMEDIUM+zSMALL",
   "+cDOUBLEALTERNATING+tWRISTFLEX+iSTRAIGHT+iWRISTFLEX+cFINGERCIRCLESDOUBLE+pSINGLE+jONTACT",
   "+cHUMPHITTINGCHEST+nFRONTWALL+gLARGE+gMEDIUM+gSMALL+cJAW+cLOOPHITTINGCHEST+nFRONTWALL",
   "+gLARGE+gMEDIUM+gSMALL+lDOUBLE+cPEAKSLARGE+hMEDIUM+hSMALL+cSHAKING+dINGLESTRAIGHTLARGE+vST",
   "+qMEDIUM+qSMALL+iWRISTFLEX+cTRIPLEALTERNATING+tWRISTFLEX+iSTRAIGHTMOVEMENT+iWRISTFLEX",
   "+cWAVECURVEDOUBLELARGE+rMEDIUM+rSMALL+lTRIPLELARGE+rMEDIUM+rSMALL+gDIAGONALPATHLARGE",
   "+sMEDIUM+sSMALL+gHITTINGCHEST+nFRONTWALL+dRISTCIRCLEFRONTDOUBLE+sSINGLE+cZIGZAGLARGE",
   "+iMEDIUM+iSMALLlNECKmOSECONTACTpNEUTRALpWIGGLESqRINKLESlPARENTHESIS",
   "lROTATIONFLOORPLANEALTERNATING+oHITTINGCEILING+vFLOOR+dDOUBLE+jHITTINGCEILING+qFLOOR",
   "+dSINGLE+jHITTINGCEILING+qFLOORtMODIFIER10+c1+c2+c3+c4+c5+c6+b2+b3+b4+b5+b6+b7+b8+b9",
   "tWALLPLANEALTERNATE+kINGHITTINGCHEST+uFRONTWALL+cDOUBLE+iHITTINGCHEST+pFRONTWALL+cSINGLE",
   "+iHITTINGCHEST+pFRONTWALLmUBBETWEENoMULTIPLEoSINGLElSEMICOLONmHOULDERHIPPOSITIONSwSPINE",
   "tTILTINGFROMWAISTmQUEEZEFLICKALTERNATINGsLARGEMULTIPLExSINGLEsSEQUENTIALtMALLMULTIPLE",
   "xSINGLEmTRIKEBETWEENrMULTIPLErSINGLEmURFACEBETWEENsSYMBOLSlTEETHqBITELIPSqMOVEMENTqONLIPS",
   "wMOVEMENTsTONGUEyMOVEMENTnNSECHEEKSHIGHwLOWwMIDDLEmONGUECENTREINSIDEMOUTHxSTICKINGOUT",
   "rINSIDEMOUTHRELAXEDrLICKINGLIPSrMOVESAGAINSTCHEEKrSTICKINGOUTFARrTIPBETWEENLIPS",
   "uTOUCHINGINSIDEMOUTHnRSOFLOORPLANETWISTINGqWALLPLANECURVEDBENDzSTRAIGHTSTRETCHnUCHBETWEEN",
   "qMULTIPLEqSINGLEmRAVELFLOORPLANEROTATIONFLOORPLANEALTERNATING+tDOUBLE+tSINGLE",
   "+jWALLPLANEALTERNATING+sDOUBLE+sSINGLE+bSHAKINGrWALLPLANEARMSPIRALDOUBLE+jSINGLE+jTRIPLE",
   "+aROTATIONFLOORPLANEALTERNATING+sDOUBLE+sSINGLE+iWALLPLANEALTERNATING+rDOUBLE+rSINGLE",
   "+aSHAKINGlUPPERBODYTILTINGFROMHIPJOINTSlWALLPLANESHOULDERHIPMOVEcLHOUETTEOFJAPAN",
   "cMILARABOVEGREATERTHANABOVEEQUALSSIGNmLESSTHANABOVEEQUALSSIGNhMINUSSIMILARhORGREATERTHAN",
   "jLESSTHANcNEWAVEdGLECHARACTERINTRODUCERgGRAPHICCHARACTERINTRODUCER",
   "gHIGHREVERSED9QUOTATIONMARKgLEFTPOINTINGANGLEQUOTATIONMARKhOW9QUOTATIONMARK",
   "gRIGHTPOINTINGANGLEQUOTATIONMARKgSHIFT2l3lTHREEmWOdHALAARCHAICDIGITEIGHTtFIVEuOURtNINEtONE",
   "tSEVENuIXtTHREEuWOoNUMBEREIGHTYuFIFTYvORTYuNINETYuONEHUNDREDxTHOUSANDuSEVENTYvIXTYuTEN",
   "vHIRTYvWENTYhLETTERAAYANNAoEEYANNApYANNAoIYANNAoLPAPRAANABAYANNAxCAYANNAxDAYANNAyDAYANNA",
   "xGAYANNAxJAYANNAxKAYANNAxPAYANNAxTAYANNAyTAYANNAoMBABAYANNAoUYANNAoYANNAnDANTAJALAYANNA",
   "uNAYANNAuSAYANNAnEEYANNAoYANNAnFAYANNAnHAYANNAnIIYANNAoLUUYANNAqYANNAoRUUYANNAqYANNAoYANNA",
   "nKANTAJANAASIKYAYAnMAHAAPRAANABAYANNAyCAYANNAyDAYANNAzDAYANNAyGAYANNAyJAYANNAyKAYANNA",
   "yPAYANNAyTAYANNAzTAYANNApYANNAoUURDHAJALAYANNAwNAYANNAwSAYANNAnOOYANNAoYANNAnRAYANNA",
   "nSANYAKADAYANNAvDAYANNAuGAYANNAuJAYANNAnTAALUJANAASIKYAYAuSANYOOGANAAKSIKYAYAwYANNA",
   "nUUYANNAoYANNAnVAYANNAnYAYANNAiITHDIGITEIGHTqFIVErOURqNINEqONEqSEVENrIXqTHREErWOqZERO",
   "hPUNCTUATIONKUNDDALIYAhSIGNALLAKUNAmNUSVARAYAlCANDRABINDUlVISARGAYAhVOWELSIGNAELAPILLA",
   "qDIGAAEDAPILLAuGAETTAPILLAwYANUKITTAuISPILLAuKOMBUVAuPAAPILLAqGAETTAPILLAsYANUKITTA",
   "qKETTIAEDAPILLAvISPILLAvPAAPILLArOMBUDEKAvVAxHAAAELAPILLA+aDIGAAELAPILLA+aGAYANUKITTA",
   "dTRIANGLEcXPEREMSPACEfTALLEDBLACKANDWHITEFLORETTEeOINTEDBLACKSTARkPINWHEELSTAR",
   "kSTARWITHMIDDLEDOTdTEENPOINTEDASTERISKbKATEBOARDcIANDSKIBOOTdERcULLfANDCROSSBONESdNK",
   "bLANTEDEQUALTOORGREATERTHAN+bWITHDOTINSIDEqLESSTHANyWITHDOTINSIDEhNORTHARROWWITHHOOKEDHEAD",
   "xRIZONTALTAILdVONICASTERISKcEDdEPINGACCOMMODATIONiFACEiSYMBOLfYFACEdUTHORSPYcICEOFPIZZA",
   "dGHTLYFROWNINGFACEiSMILINGFACEcOPEeINGLARGEANDmORdTHeMACHINEbMALLAIRPLANEgMPERSANDgSTERISK",
   "fBLUEDIAMONDfCOLONhMMAjERCIALAThNTAINSASMEMBERnWITHOVERBAR",
   "rVERTICALBARATENDOFHORIZONTALSTROKEfDOLLARSIGNfELEMENTOFoWITHOVERBAR",
   "sVERTICALBARATENDOFHORIZONTALSTROKEgMDASHgQUALSSIGNgRTHANlOREQUALTOgXCLAMATIONMARK",
   "fFULLSTOPfGREATERTHANSIGNfHYPHENMINUSfIDEOGRAPHICCOMMAfLEFTCURLYBRACKETjPARENTHESIS",
   "jTORTOISESHELLBRACKEThSSTHANSIGNfNUMBERSIGNfORANGEDIAMONDfPERCENTSIGNgLUSSIGNfQUESTIONMARK",
   "fREVERSESOLIDUSgIGHTCURLYBRACKETkPARENTHESISkTORTOISESHELLBRACKETgOMANNUMERALEIGHTsLEVEN",
   "rFIFTYtVEvHUNDREDsOURrNINErONEuHUNDREDuTHOUSANDrSEVENsIXrTENsHREEsWELVEtOfSEMICOLONfTILDE",
   "gWODOTSOVERONEDOTPUNCTUATIONfUPPOINTINGAIRPLANEfVEEWITHUNDERBARdSHPRODUCTcILE",
   "eINGCATFACEWITHHEARTSHAPEDEYESsOPENMOUTHhFACEWITHHALOqEARTSHAPEDEYESqORNSpOPENMOUTH",
   "yANDCOLDSWEAT+bSMILINGEYES+bTIGHTLYCLOSEDEYESpSMILINGEYES+aANDHANDCOVERINGMOUTH",
   "+dTHREEHEARTSqUNGLASSESpTEARdRKINGFACEcOKINGSYMBOLbNAILdKEfSYMBOLcEEZINGFACEcOWBOARDER",
   "eCAPPEDMOUNTAINeFLAKEeMANhWITHOUTSNOWbOcCCERBALLdKScFTBALLeHYPHENeICECREAMeSHELLFLOPPYDISK",
   "eWAREFUNCTIONSYMBOLcGDIANCOMBININGCURVEABOVEvBELOWqDOTABOVEtBELOWqHOOKABOVEuBELOW",
   "qLONGHOOKBELOWqRESHBELOWqSTROKEBELOWqTWODOTSABOVExBELOWhINDEPENDENTSHINhLETTERALEPHoYIN",
   "nBETHnFETHnGIMELnHEpTHnKAPHnLAMEDHoESHnMEMnNUNnPEnRESHAYINnSADHEpMEKHoHINnTAWnWAWnYODH",
   "nZAYINhNUMBERONEqHUNDREDnTENoWENTYhPUNCTUATIONCIRCLEWITHDOTsHALFCIRCLEWITHDOT",
   "sTWOCIRCLESWITHDOTSvVERTICALBARS+hWITHDOTScHcLIDQUILTSQUAREORNAMENTyINBLACKSQUAREfUS",
   "hWITHOVERBARcMSIGNcONWITHRIGHTWARDSARROWABOVEcRASOMPENGDIGITEIGHTqFIVErOURqNINEqONEqSEVEN",
   "rIXqTHREErWOqZEROlLETTERAHrBAHrCAHrDAHrEEHsHrGAHrHAHrIHrJAHrKAHrLAHrMAEtHrNAHsGAHsYAHrOH",
   "rPAHrRAHrSAHrTAHrUHrVAHrYAHcScUNDRECORDINGCOPYRIGHTdTHEASTARROWoANDSOUTHWESTARROW",
   "oCROSSINGNORTHEASTARROWoFROMBARoTOCORNERoWITHHOOKjBLACKARROWjDOUBLEARROWjPOINTINGBUDrLEAF",
   "rVINELEAFjSANSSERIFARROWjTRIANGLEHEADEDARROW+cTOBARjWHITEARROWfWESTARROWoANDNORTHWESTARROW",
   "oFROMBARoWITHHOOKjBLACKARROWjDOUBLEARROWjPOINTINGBUDrLEAFrVINELEAFjSANSSERIFARROW",
   "jTRIANGLEHEADEDARROW+cTOBARjWHITEARROWcYOMBOCLUSTERINITIALLETTERLA+bRA+bSA+cHA",
   "hFINALCONSONANTSIGN-AzBzDzGzKzLzMzN+aGzRzS+aHhGEMINATIONMARKhHEADMARKWITHMOONANDSUN",
   "+dANDFLAME+gTRIPLEFLAMEhLETTER-AnAnBAoHAnCAoHAnDAoDApHAoHAoZAnGAoHAnHAnJAoHAnKAoHAoSSAnLA",
   "nMAnNAoGAoNAoYAnPAoHAnRAnSAoHAoSAnTAoHAoSApHAoTApHAnVAnYAnZAoHAhMARKDOUBLESHADlPLUTAlSHAD",
   "lTSHEGhSIGNANUSVARAlJIHVAMULIYAlUPADHMANIYAlVISARGAiUBJOINERhTERMINALMARK1t2",
   "hVOWELLENGTHMARKmSIGNAIrUqEqIqOrEqUrEqVOCALICLxRbPcAdCEdGHETTIdRKLEhSgINGHEART",
   "eSEHORIZONTALFILLgVERTICALFILLcEAKERhWITHCANCELLATIONSTROKElONESOUNDWAVElTHREESOUNDWAVES",
   "fINGHEADINSILHOUETTEfNOEVILMONKEYdCKLEFILLFRAME1q2dECHBALLOONeDBOATdSMILOSIGNcHERICALANGLE",
   "oOPENINGLEFTvUPcIDERgWEBdRALCALENDARPADgNOTEPADgSHELLcLASHINGSWEATSYMBOLeTTERcONGE",
   "dOLOFTHREADeNdRTSMEDALdUTINGWHALEbQUAREAARUhMhNPEAhOVERMhPAATOiERTUREhRUHUAhUgBAARERUiR",
   "hEETAhIRUhORUTOhQhUSSYERUgCALiPhChDhMiCUBEDiSQUAREDhOiRPORATIONiVERKGhUPgDAiASUiSTERISKhB",
   "hCJKUNIFIEDIDEOGRAPH4E00+d9+c2D+c8C+cA4+a518D+b21D+c4D+c72+b3CC+cF3+b408+c39+b5B6+b8F0",
   "+b91A+c29+bB57+bDE6+bF8C+a624B+c53+c95+b307+c55+b599+cB0+b620+b708+d9+bE80+bF14+a7121+b51F",
   "+c33+b981+bA7A+bD42+a89E3+bCA9+bD70+a904A+b14DiLiOOLhDOTOPERATORhEIGHTKiSI",
   "hFALLINGDIAGONALSLASHiIVEPOINTONEiOURDOTPUNCTUATIONlKiREEhHCiDRiIRESiVhIDhJhKATAKANADE",
   "pKOKOpSAiEYhLiATINCAPITALLETTERAzBzCzDzEzFzGzHzIzJzKzLzMzNzOzPzQzRzSzTzUzVzWzXzYzZ",
   "mSMALLLETTERDiOGICALANDoORjSSLESShMiCUBEDiINUSiSQUAREDiVhNEWiGhOKiNEHUNDREDTWENTYPiRUhPLUS",
   "iPVhRISINGDIAGONALSLASHhSALTIREiDiECONDSCREENjVENPOINTONEiHViIXTYPiMALLCIRCLEiOSiQUAREiS",
   "hTHREEDiIMESiWENTYTWOPOINTTWOjOKhUHDiPWITHEXCLAMATIONMARKhVODiShWCgEEKAAhRANAMEHEISEI",
   "nMEIZInREIWAnSYOUWAnTAISYOUiGhSUKUUDOhVgFMhOOTiURCORNERBLACKTRIANGLESqDIAGONALSqSrALTIRES",
   "gGALiNMAiRONhBhHZhIGAiNIIiRUDAAhPAhURAMUmTONhYgHAiITUhEKUTAARUiRUTUhGhIRAGANAHOKAhONiONjRU",
   "hPiAhUARADDOiIITOiRANhZgIMAGEOFnOREQUALTOpNOTEQUALTOhNiINGUiTIhUgKAiIRIiRATTOjORIIhBhCAL",
   "hEESUhGhHZhIROkGURAMUkMEETORUkWATTOhKhLhMiCAPITALjUBEDiSQUAREDhOHMiOPOiRUNAhPAhThUROONE",
   "jUZEIROhVhWhYURIIgLEFTOPENBOXOPERATORhMhNhOGiZENGEhXgMAiHHAiIKUROjRUiNSYONiRUKUhBiSMALL",
   "hCUBEDhEETORUiGAkTONhGhHZhIKURONiLiRIkBAARUhLhMiCUBEDiSQUAREDhOHMiLiVERSmSQUAREDhPAhS",
   "iQUAREDhUAiFiGiLiMiSiViWhViMEGAhWiMEGAgNAiNOhFhMhOTTOhShVhWgONSUhOMUhRIGINALOFqOREQUALTO",
   "sNOTEQUALTOhVgPAiAMPSjSENTOjTUhChEEZIiNIHIjSUiSOhFhHhIASUTORUiKOjURUhMhOINTOiNDO",
   "iSITIONINDICATORhPMhRhShVhWgRADjOVERSoSQUAREDhEMUiNTOGENhIGHTOPENBOXOPERATORiRAiTTORUhOOT",
   "hUPIIiUBURUgSAIKURUiNTIIMUhENTIkOhIRINGUhPIRALFROMBOTTOMLEFTwRIGHTqTOPLEFTtRIGHThRhV",
   "gTARGEThHZhONgUONgVOVERMgWATTOhBhITHBOTTOMHALFBLACKkCONTOUREDOUTLINE",
   "kDIAGONALCROSSHATCHFILLkHORIZONTALFILLkLEFTHALFBLACKlOWERLEFTDIAGONALHALFBLACK",
   "pRIGHTDIAGONALHALFBLACKkORTHOGONALCROSSHATCHFILLkRIGHTHALFBLACKkTOPHALFBLACK",
   "kUPPERLEFTDIAGONALHALFBLACKtTOLOWERRIGHTFILLpRIGHTDIAGONALHALFBLACKuTOLOWERLEFTFILL",
   "kVERTICALFILLgYAADOjRUhUANeTBLACKRIGHTWARDSARROWdIDbS2c3cAbTcADIUMdFFOFAESCULAPIUShHERMES",
   "dMPEDENVELOPEdNDINGPERSONdRANDCRESCENTeEQUALSeOFDAVIDfPERATOReTOFGUARDEDAREAhHEADING",
   "hPROTECTEDAREAhSELECTEDAREAiTRINGhTEXTeWITHLEFTHALFBLACKiRIGHTHALFBLACKdTIONeUEOFLIBERTY",
   "cEAMINGBOWLfLOCOMOTIVEdNOGRAPHICFULLSTOPdTHOSCOPEcICKFIGURElLEANINGLEFTsRIGHT",
   "lWITHARMSRAISEDpDRESScOCKCHARTdPWATCHcRAIGHTNESSiRULEReWBERRYkSYMBOLdESSOUTLINEDWHITESTAR",
   "dICTLYEQUIVALENTTOeNGTERMINATORePEDDOWNPOINTINGTRIANGLEhLEFTPOINTINGTRIANGLE",
   "hRIGHTPOINTINGTRIANGLEhUPPOINTINGTRIANGLEcScUDIOMICROPHONEdFFEDFLATBREADdPAcXbUB",
   "dSCRIPTEIGHTkQUALSSIGNjFIVEkOURjLEFTPARENTHESISjMINUSjNINEjONEjPLUSSIGNjRIGHTPARENTHESIS",
   "jSEVENkIXjTHREEkWOjZEROeETABOVERIGHTWARDSARROWlSUBSETnPERSETgOFiABOVEALMOSTEQUALTO",
   "nEQUALSSIGNnNOTEQUALTOnTILDEOPERATORiOREQUALTOrWITHDOTABOVEiWITHNOTEQUALTOgWITHDOT",
   "kMULTIPLICATIONSIGNBELOWkPLUSSIGNBELOWeTITUTEcCCEEDSiABOVEALMOSTEQUALTOnEQUALSSIGN",
   "nNOTALMOSTEQUALTOqEQUALTOnSINGLELINEEQUALSSIGNxNOTEQUALTOiBUTNOTEQUIVALENTTOiOREQUALTO",
   "nIVALENTTOiUNDERRELATIONcMMATIONBOTTOMjTOPjWITHINTEGRALcNdBEHINDCLOUDdDANESEAVAGRAHA",
   "jCONSONANTSIGNPAMINGKALyNYAKRA+aIKUySANGANMA+eWAjDIGITEIGHToFIVEpOURoNINEoONEoSEVENpIX",
   "oTHREEpWOoZEROjLETTERAqEqRCHAICIpBAqHApCApDApEqUpFAqINALKuMpGApHApIpJApKAqHApLAqEUpMApNA",
   "qGAqYApOpPApQApRAqEUpSAqYApTApUpVApWApXApYApZAjPUNCTUATIONBINDUBASATANGAzCAKRAzDASATANGA",
   "zKASATANGAzLEUSATANGAzPANGLONG+aURNAMAzSURYAjSIGNPAMAAEHpNGLAYARrWISADqYECEKnVIRAMA",
   "jVOWELSIGNPAMEPETuNAELAENGvEULEUNGvGHULUvOLONGvYUKUdFLOWERdRISEhOVERMOUNTAINS",
   "dSETOVERBUILDINGSdUWARDIGITEIGHTmFIVEnOURmNINEmONEmSEVENnIXmTHREEnWOmZEROhLETTERAALoPPHO",
   "oVAnBURnCARMIoHELAPnDEVIoONGAnEKOnGILnHAMSOnIMARnJYAHnKHAoIKoLOKOnLOACHAnMAnNAHoGARnOTTHI",
   "nPHARoIPnREUnSHYELErRnTASLAoENTUoHARIpELEnUTTHInVARCAnYAThSIGNPVOdWITHFACEcPERHERO",
   "fSCRIPTEIGHTmQUALSSIGNlFIVEmOURlLATINSMALLLETTERI+bNmEFTPARENTHESISlMINUSlNINElONE",
   "lPLUSSIGNlRIGHTPARENTHESISlSEVENmIXlTHREEmWOlZEROgETABOVELEFTWARDSARROWnSUBSETpPERSET",
   "iBESIDEANDJOINEDBYDASHWITHSUBSEToSUBSETiOFkABOVEALMOSTEQUALTOpEQUALSSIGNpNOTEQUALTO",
   "pTILDEOPERATORkOREQUALTOtWITHDOTABOVEkWITHNOTEQUALTOiPRECEDINGSOLIDUSiWITHDOT",
   "mMULTIPLICATIONSIGNBELOWmPLUSSIGNBELOWfVILLAINcRFACEINTEGRALeERcSHIdPENSIONRAILWAYbWAN",
   "dSHAMPERSANDORNAMENTcIMMERcUNGDASHbYLOTINAGRILETTERArBHOsOrCHOsOrDDHOtOsHOsOrErGHOsOrHOrI",
   "rJHOsOrKHOsOrLOrMOrNOrOrPHOsOrROsROrSOrTHOsOsTHOtOrUlPOETRYMARK1v2v3v4",
   "lSIGNALTERNATEHASANTAqNUSVARApDVISVARApHASANTAlVOWELSIGNAuEuIuOOuUcMBOLFORACKNOWLEDGE",
   "jBACKSPACEkELLjCANCELlRRIAGERETURNjDATALINKESCAPEkELETEpFORMTWOpMEDIUMSHADEFORM",
   "pRECTANGULARCHECKERBOARDFORMpSQUARECHECKERBOARDFORMlVICECONTROLFOURwONEwTHREExWO",
   "jENDOFMEDIUMoTEXTpRANSMISSION+aBLOCKlQUIRYkSCAPEjFILESEPARATORkORMFEEDjGROUPSEPARATOR",
   "jHORIZONTALTABULATIONjLINEFEEDjMARKSCHAPTERjNEGATIVEACKNOWLEDGElWLINEkULLjRECORDSEPARATOR",
   "jSAMARITANSOURCEkHIFTINoOUTkPACEkTARTOFHEADINGqTEXTkUBSTITUTEtFORMTWOkYNCHRONOUSIDLE",
   "jTYPEAELECTRONICSjUNITSEPARATORjVERTICALTABULATIONdMETRYcNdAGOGUEdCHRONOUSIDLE",
   "cRIACABBREVIATIONMARKgBARREKHgCOLONSKEWEDLEFTrRIGHTiNTRACTIONgDOTTEDZLAMAANGULAR",
   "rHORIZONTALgENDOFPARAGRAPHhSASAABOVElBELOWgFEMININEDOTgHARKLEANASTERISCUSoMETOBELUSoOBELUS",
   "hBASAABOVElBELOWlESASADOTTEDhORIZONTALCOLONgLETTERALAPHmBETHmDALATHnOTLESSDALATHRISHmE",
   "mFINALSEMKATHmGAMALrGARSHUNImHEoTHmKAPHmLAMADHmMALAYALAMBHAvJAvLLAxLAvNGAwNAxNAwYAvRAvSSA",
   "vTTAnIMmNUNmPEoRSIANBHETHtDHALATHtGHAMALmQAPHmREVERSEDPEnISHmSADHEnEMKATHnHINnOGDIANFE",
   "tKHAPHtZHAINnUPERSCRIPTALAPHmTAWnETHqGARSHUNImWAWmYUDHqHEmZAINgMUSICgOBLIQUELINEABOVE",
   "rBELOWgPTHAHAABOVEmBELOWmDOTTEDgQUSHSHAYAgRBASAABOVElBELOWhUKKAKHAhWAHAgSUBLINEARCOLON",
   "uSKEWEDLEFT+aRIGHTpFULLSTOPiPRALINEARCOLONwSKEWEDLEFTrFULLSTOPgTHREEDOTSABOVEpBELOW",
   "hWOVERTICALDOTSABOVEvBELOWgZQAPHAABOVEmBELOWmDOTTEDeNGEaTABdLETENNISPADDLEANDBALLcCO",
   "cGALOGLETTERAoRCHAICRAnBAnDAnGAnHAnInKAnLAnMAnNAoGAnPAnRAnSAnTAnUnWAnYAhSIGNPAMUDPOD",
   "lVIRAMAhVOWELSIGNIqUeMPERSANDePOSTROPHEeSTERISKdBANWALETTERAoBAoDAoGAoIoKAoLAoMAoNApGAoPA",
   "oSAoTAoUoWAoYAiVOWELSIGNIrUdCIRCUMFLEXACCENTeOLONfMMAhERCIALATdDIGITEIGHTiFIVEjOURiNINE",
   "iONEiSEVENjIXiTHREEjWOiZEROeOLLARSIGNdEQUALSSIGNeXCLAMATIONMARKdFULLSTOPdGRAVEACCENT",
   "fEATERTHANSIGNdHYPHENMINUSdLATINCAPITALLETTERAvBvCvDvEvFvGvHvIvJvKvLvMvNvOvPvQvRvSvTvUvVvW",
   "vXvYvZiSMALLLETTERAtBtCtDtEtFtGtHtItJtKtLtMtNtOtPtQtRtStTtUtVtWtXtYtZeEFTCURLYBRACKET",
   "hPARENTHESIShSQUAREBRACKETfSSTHANSIGNeOWLINEdNUMBERSIGNdPERCENTSIGNeLUSSIGNdQUESTIONMARK",
   "fOTATIONMARKdREVERSESOLIDUSeIGHTCURLYBRACKETiPARENTHESISiSQUAREBRACKETdSEMICOLONeOLIDUS",
   "ePACEdTILDEdVERTICALLINEcILELETTERAmImUElEmEmHlFAlHAlIlKAmHAlLAlMAlNAmGAlOmOlPAmHAlQAlSA",
   "lTAmHAmONE2p3p4p5p6mSAnHAlUmElVAlXAlYAdTHAMCOMBININGCRYPTOGRAMMICDOTjNSONANTSIGNBA",
   "uFINALNGAuHIGHRATHAORLOWPAuLATANGLAIvOWPAuMAvEDIALLA+aRAuSAhHORADIGITEIGHTqFIVErOURqNINE",
   "qONEqSEVENrIXqTHREErWOqZEROhLETTERAnBAnDAnEEnGREATSAnHIGHCAsHArFArHArKAsHAsXArPAsHArRATHA",
   "rSAsHAsSArTAsHArYAnIoInLApEoLAoOWCArHAqFAqHAqKArHArXAqPArHAqRATHAqSAqTArHAqYAoUEnMAnNAoGA",
   "oYAnOOnRApNApTAoUEnUoUnWAhSIGNCAANGlDOKMAIlHANGmOYlKAANpKUUmEOWmHUENLUEKARANqTONE3u4u5",
   "lMAIKANGsLAIoSAMoYAMOKlRAHAAMmEVERSEDROTATEDRANAlSAKOTnTKAANsKUUnWANlTONE1p2lWIANGqWAAK",
   "hTHAMDIGITEIGHTqFIVErOURqNINEqONEqSEVENrIXqTHREErWOqZEROhVOWELSIGNArArErIqEqIrIqMAISATqO",
   "rAABOVEsBELOWrOrYqTALLAArHAMAIqUrErUsEdVIETLETTERHIGHBOrCHOsOrDOrFOrGOrHOrKHHOtOsOrLOrMO",
   "rNGOsOsYOrOrPHOsOrROrSOrTHOsOrVOrYOnLOWBOqCHOrOqDOqFOqGOqHOqKHHOsOrOqLOqMOqNGOrOrYOqOqPHO",
   "rOqROqSOqTHOrOqVOqYOhMAIKANGlHIThSYMBOLHOHOInKOIKOIpNnNUENGnSAMhTONEMAIEKoNUENGoSONGoTHO",
   "hVOWELAAnMnNnUEnYmEmInAmOmUnAnEoAdYOLETTERAAmEmKmMmNmPmTmUElBOlCOlDOlElGOlHIGHFOpHOpKHOqO",
   "qVOpNYOpPOpTOpXOlImAlLOnWFOoHOoKHOpOpVOoNYOoPOoTOoXOlMOlNGOmOlOmOlPHOlQOlTHOlUmAmEnAlVOlYO",
   "fSIGNANGkUkYjOMjUEgYMBOLMUEANGfXAMLAIcKEOUTBOXdRIABBREVIATIONSIGNfDIGITEIGHTkFIVElOURkNINE",
   "kONEkSEVENlIXkTHREElWOkZEROfLETTERAmAmImRCHAICKHAmUlBAmHAlCAmHAlDAmDAnHAmHAlElGAmHAlHAlImI",
   "lJAmHAlKAmHAlLAlMAlNAmGAmNAmYAlOlPAmHAlRAmRAlSAmHAlTAmHAmTAnHAlUmUlVAlYAfSIGNANUSVARA",
   "jNUKTAjVIRAMAlSARGAfVOWELSIGNAApIpUoEoIpIoOoUpUcLLYMARKFIVEjONEcMALEdILANDODDSIGN",
   "gSABOVESIGNgULENGTHMARKfCREDITSIGNgURRENTSIGNfDAYSIGNgEBITSIGNgIGITEIGHTkFIVElOURkNINEkONE",
   "kSEVENlIXkTHREElWOkZEROgRYCULTIVATIONSIGNfFRACTIONDOWNSCALINGFACTORKIIZHnONEEIGHTHvIETH",
   "qFIFTHrORTIETHqHALF1u2qONEHUNDREDANDSIXTIETHqQUARTERqSIXTEENTH1z2uYFOURTHqTENTH",
   "rHIRTYSECONDsREEHUNDREDANDTWENTIETHrWENTIETHnTHREEEIGHTIETHSsQUARTERSsSIXTEENTHSwYFOURTHS",
   "sTWENTIETHSfINPOSSESSIONSIGNfLANDSIGNgETTERAmAmImUlCAlEmElHAlImIlJAlKAlLAmLAnLAlMAlNAmGA",
   "mNAnNAmYAlOmOlPAlRAmRAlSAmHAmSAlTAmTAlUmUlVAlYAfMONTHSIGNfNUMBERONEHUNDREDoTHOUSANDlSIGN",
   "lTENfOMfPUNCTUATIONENDOFTEXTfRUPEESIGNfSALTPANSIGNgIGNAAZHAAKKUkNUSVARAjCEVITUjKAACUkURUNI",
   "lZHIjMUKKURUNIlTHALIYAlUVUZHAKKUjNELjPAARAMlNAMlTHAKKUkONjUZHAKKUjVAKAIYARAAlRAAKANkELI",
   "kIRAMAlSARGAgPENTSIGNgTARTINGFROMSIGNfTOTALSIGNgRADITIONALCREDITSIGNqNUMBERSIGN",
   "fVOWELSIGNAApIpUoEpEoIpIoOpOoUpUfWETCULTIVATIONSIGNfYEARSIGNcNABATATREEdGERINE",
   "eSADIGITEIGHTlFIVEmOURlNINElONElSEVENmIXlTHREEmWOlZEROgLETTERACnQnWCoQoXoZnXnZmBAmCAnHAmDA",
   "nHAmECnQnXnZmFAnINALNGmGAnHAmHAnTAoTAmICnQnXnZmKAnHAmLAnONGUEXmMAnCnQnXnZmNAnGAnHAnYAmOCnQ",
   "nXnZmPAnHAmRAmSAnHAoORTAWXrUEZmTAnHAnSAmUCnECoQoXoZnICoQoUCpQpXpZoXoZnQnXnZmVCnQnXnZmWAmXA",
   "mYAmZAeUTCOMPONENT001r2r3r4r5r6r7r8r9q10r1r2r3r4r5r6r7r8r9q20r1r2r3r4r5r6r7r8r9q30r1r2r3r4",
   "r5r6r7r8r9q40r1r2r3r4r5r6r7r8r9q50r1r2r3r4r5r6r7r8r9q60r1r2r3r4r5r6r7r8r9q70r1r2r3r4r5r6r7",
   "r8r9q80r1r2r3r4r5r6r7r8r9q90r1r2r3r4r5r6r7r8r9p100r1r2r3r4r5r6r7r8r9q10r1r2r3r4r5r6r7r8r9",
   "q20r1r2r3r4r5r6r7r8r9q30r1r2r3r4r5r6r7r8r9q40r1r2r3r4r5r6r7r8r9q50r1r2r3r4r5r6r7r8r9q60r1",
   "r2r3r4r5r6r7r8r9q70r1r2r3r4r5r6r7r8r9q80r1r2r3r4r5r6r7r8r9q90r1r2r3r4r5r6r7r8r9p200r1r2r3",
   "r4r5r6r7r8r9q10r1r2r3r4r5r6r7r8r9q20r1r2r3r4r5r6r7r8r9q30r1r2r3r4r5r6r7r8r9q40r1r2r3r4r5r6",
   "r7r8r9q50r1r2r3r4r5r6r7r8r9q60r1r2r3r4r5r6r7r8r9q70r1r2r3r4r5r6r7r8r9q80r1r2r3r4r5r6r7r8r9",
   "q90r1r2r3r4r5r6r7r8r9p300r1r2r3r4r5r6r7r8r9q10r1r2r3r4r5r6r7r8r9q20r1r2r3r4r5r6r7r8r9q30r1",
   "r2r3r4r5r6r7r8r9q40r1r2r3r4r5r6r7r8r9q50r1r2r3r4r5r6r7r8r9q60r1r2r3r4r5r6r7r8r9q70r1r2r3r4",
   "r5r6r7r8r9q80r1r2r3r4r5r6r7r8r9q90r1r2r3r4r5r6r7r8r9p400r1r2r3r4r5r6r7r8r9q10r1r2r3r4r5r6",
   "r7r8r9q20r1r2r3r4r5r6r7r8r9q30r1r2r3r4r5r6r7r8r9q40r1r2r3r4r5r6r7r8r9q50r1r2r3r4r5r6r7r8r9",
   "q60r1r2r3r4r5r6r7r8r9q70r1r2r3r4r5r6r7r8r9q80r1r2r3r4r5r6r7r8r9q90r1r2r3r4r5r6r7r8r9p500r1",
   "r2r3r4r5r6r7r8r9q10r1r2r3r4r5r6r7r8r9q20r1r2r3r4r5r6r7r8r9q30r1r2r3r4r5r6r7r8r9q40r1r2r3r4",
   "r5r6r7r8r9q50r1r2r3r4r5r6r7r8r9q60r1r2r3r4r5r6r7r8r9q70r1r2r3r4r5r6r7r8r9q80r1r2r3r4r5r6r7",
   "r8r9q90r1r2r3r4r5r6r7r8r9p600r1r2r3r4r5r6r7r8r9q10r1r2r3r4r5r6r7r8r9q20r1r2r3r4r5r6r7r8r9",
   "q30r1r2r3r4r5r6r7r8r9q40r1r2r3r4r5r6r7r8r9q50r1r2r3r4r5r6r7r8r9q60r1r2r3r4r5r6r7r8r9q70r1",
   "r2r3r4r5r6r7r8r9q80r1r2r3r4r5r6r7r8r9q90r1r2r3r4r5r6r7r8r9p700r1r2r3r4r5r6r7r8r9q10r1r2r3",
   "r4r5r6r7r8r9q20r1r2r3r4r5r6r7r8r9q30r1r2r3r4r5r6r7r8r9q40r1r2r3r4r5r6r7r8r9q50r1r2r3r4r5r6",
   "r7r8r9q60r1r2r3r4r5r6r7r8r9q70r1r2r3r4r5r6r7r8r9q80r1r2r3r4r5r6r7r8r9q90r1r2r3r4r5r6r7r8r9",
   "p800r1r2r3r4r5r6r7r8r9q10r1r2r3r4r5r6r7r8r9q20r1r2r3r4r5r6r7r8r9q30r1r2r3r4r5r6r7r8r9q40r1",
   "r2r3r4r5r6r7r8r9q50r1r2r3r4r5r6r7r8r9q60r1r2r3r4r5r6r7r8r9q70r1r2r3r4r5r6r7r8r9q80r1r2r3",
   "gITERATIONMARKcPECARTRIDGEeDRIVEcURUScXIbEACUPWITHOUTHANDLEdPOTdRDROPBARBEDRIGHTWARDSARROW",
   "iSPOKEDASTERISKeOFFCALENDARcDDYBEARcLEPHONELOCATIONSIGNjONTOPOFMODEMjRECEIVERrWITHPAGE",
   "mORDERjSIGNeSCOPEeVISIONdUGUAILENGTHMARKhRCHAICSHRIIgDIGITEIGHTlFIVEmOURlNINElONElSEVENmIX",
   "lTHREEmWOlZEROgFRACTIONDIGITONEFOREVENPOWERSOFFOURzODDPOWERSOFFOUR",
   "tTHREEFOREVENPOWERSOFFOUR+bODDPOWERSOFFOURuWOFOREVENPOWERSOFFOURzODDPOWERSOFFOUR",
   "tZEROFORODDPOWERSOFFOURgLENGTHMARKiTTERAnAnInUmBAnHAmCAnHAmDAnDAoHAnHAnZAmEnEmGAnHAmHAmInI",
   "mJAnHAmKAnHAmLAnLAoLAmMAmNAoKAARAPOLLUnGAnNAnYAmOnOmPAnHAmRAnRAoRAmSAnHAnSAmTAnHAnSAnTAoHA",
   "mUnUmVAnOCALICLuLtRuRmYAgSIGNANUSVARAlVAGRAHAkCANDRABINDUlOMBININGANUSVARAABOVE",
   "tCANDRABINDUABOVEkNUKTAkSIDDHAMkTUUMUkVIRAMAmSARGAgVOWELSIGNAAqIqUpEqEpIqIpOqOpUqU",
   "pVOCALICLxLwRxRcNGESIGNdNISRACQUETANDBALLdTcSTTUBEcTRAGRAMFORACCUMULATIONnDVANCE",
   "nGGRAVATIONnSCENTmBARRIERnOLDRESOLUTIONnRANCHINGOUTmCENTREnHANGEnLOSEDMOUTHrNESSqURE",
   "nOMPLETIONrIANCEoNSTANCYpTACTqENTIONqRARIETYmDARKENINGnECISIVENESSoFECTIVENESSORDISTORTION",
   "oPARTUREnIFFICULTIESoMINISHMENTpMINGoVERGENCEnOUBTnUTIESmEASEnMBELLISHMENTnNCOUNTERS",
   "oDEAVOURoLARGEMENTnTERNITYnXHAUSTIONmFAILUREnLIGHTnOLLOWINGoSTERINGnULLCIRCLEqNESS",
   "mGATHERINGvINnOINGTOMEETnREATNESSnUARDEDNESSmHARDNESSnOLDINGBACKmINCREASEoNERmJOY",
   "mKEEPINGSMALLnINSHIPmLABOURINGoWORMODELnEGIONmMASSINGnEASUREnIREDmONTHEVERGEnPPOSITION",
   "mPACKINGoTTERNnENETRATIONnURITYmREACHoLEASEoSIDENCEqSTANCEpPONSEnITUALmSEVERANCEnINKING",
   "nTOPPAGEpVEoRENGTHmUNITYmVASTNESSORWASTINGmWAITINGoTCHmYOUTHFULNESSbHAANAAABAAFILIhBAFILI",
   "gEBEFILIhEBEEFILIhYBEYFILIgIBIFILIgLETTERAINUnLIFUmBAAmCHAVIYANImDAADHUoVIYANInHAALUmFAAFU",
   "mGAAFUnHAINUnNAVIYANImHAAnHAAmJAVIYANImKAAFUnHAAmLAAMUnHAVIYANImMEEMUmNAAnOONUmPAVIYANI",
   "mQAAFUmRAAmSAADHUnEENUnHAVIYANIoEENUmTAVIYANInHAAqLUnOnTAAmVAAVUmWAAVUmYAAmZAAoVIYANInO",
   "gOABOAFILIhBOFILIhOBOOFILIgSUKUNgUBUFILIdICHARACTERANGKHANKHUnBOBAIMAInCHOCHANuGsINGsOE",
   "nDOCHADApDEKnFOFArNpNGMANnHOHIPpNOKHUKnKHOKHAIsONsUATsWAIqMUTqRAKHANGoOKAInLAKKHANGYAO",
   "oOCHULApLINGoUnMAICHATTAWAqEKqHANAKATqTAIKHUrHOrRIqYAMOKoOMAnNGONGUoIKHAHIToONENqUnOANG",
   "nPAIYANNOIoHINTHUpOPHANsUNGqSAMPHAOoOPLAnRORUAoUnSARAAsAsEsIMAIMALAIxUANsMrErIsIrOrUsEtEsU",
   "oORUSIpSALAqOqUAnTHANTHAKHATpONANGMONTHOqPHUTHAOqTHAHANtNsONGsUNGoOPATAKpTAOnWOWAEN",
   "nYAMAKKANoOYAKqINGfURRENCYSYMBOLBAHTeDIGITEIGHTjFIVEkOURjNINEjONEjSEVENkIXjTHREEkWOjZERO",
   "cEREDOESNOTEXISTfEXISTSfFOREeMODYNAMICgMETERdTIScINGREEKCROSSeKINGFACEeSALTIREfPACE",
   "dRDPLACEMEDALcONGSANDALdUGHTBALLOONcREEBUTTONMOUSEfCONSECUTIVEEQUALSSIGNS",
   "fDBOTTOMLIGHTEDRIGHTWARDSARROWHEADgIMENSIONALANGLE",
   "gLEFTLIGHTEDDOWNWARDSEQUILATERALARROWHEADgOTPUNCTUATION",
   "gRIGHTLIGHTEDUPWARDSEQUILATERALARROWHEADgTOPLIGHTEDLEFTWARDSEQUILATERALARROWHEAD",
   "qRIGHTWARDSARROWHEAD+aEQUILATERALARROWHEADfEMDASHfLEFTWARDSARROWSgINESCONVERGINGLEFTuRIGHT",
   "fNETWORKEDCOMPUTERSfPEREMSPACEgOINTEDBLACKSTARfRAYSABOVEjBELOWjLEFTjRIGHTgIGHTWARDSARROWS",
   "fSPEECHBUBBLEScUMBSDOWNSIGNgUPSIGNdNDERCLOUDANDRAINhSTORMbIBETANASTROLOGICALSIGN-KHYUDPA",
   "xSDONGTSHUGSyGRAGCAN-CHARRTAGShCANTILLATIONSIGNCANGTEUxHEAVYBEATxLIGHTBEATxSBUB-CHAL",
   "hDIGITEIGHTmFIVEnOURmHALFEIGHTqFIVErOURqNINEqONEqSEVENrIXqTHREErWOqZEROmNINEmONEmSEVENnIX",
   "mTHREEnWOmZEROhKURUKHAoBZHIMIGCANhLETTER-AnAnBAoHAnCAoHAnDAoDApHAoHAoZApHAnFIXEDFORMRAnGA",
   "oHAnHAnJAnKAoHAoKAoSSAnLAnMAnNAoGAoNAoYAnPAoHAnRAoRAnSAoHAoSAnTAoHAoSApHAoTApHAnWAnYAnZA",
   "oHAiOGOTYPESIGNCHADRTAGStLHAGRTAGShMARKANGKHANGGYASvONlBKA-SHOGGIMGORGYANtYIGMGOmSDUSRTAGS",
   "nKA-SHOGGIMGORGYANoURYIGMGOlCARET-DZUDRTAGSBZHIMIGCAN+aMELONGCANqYIGMGOPHURSHADMAmHEMGO",
   "mLOSINGBRDARNYINGYIGMGOSGABMAsYIGMGOSGABMAlDELIMITERTSHEGBSTARlGTERTSHEG",
   "pYIGMGO-UMGTERTSHEGMAyRNAMBCADMAvTRUNCATEDAmUGRTAGSGYASvONlHALANTA",
   "lINITIALBRDARNYINGYIGMGOMDUNMAsYIGMGOMDUNMAnTERSYLLABICTSHEGlLEADINGMCHANRTAGS",
   "lMNYAMYIGGIMGORGYANlNGASBZUNGNYIZLAuSGORRTAGSmYISSHADpTSHEGuSHADlPALUTAlRGYAGRAMSHAD",
   "mINCHENSPUNGSSHADlSBRULSHADmHADlTRAILINGMCHANRTAGSmSA-PHRUnHEGSHADlYIGMGOTSHEGSHADMA",
   "hSIGNGRUCANRGYINGSoMEDRGYINGSlINVERTEDMCHUCANlLCETSACANnIRTAGSlMARTSHESmCHUCANlNYIZLANAADA",
   "lRDELDKARGCIGuNYISuSUMtRDELNAGpNAGGCIGtNYIStSUMsRDELDKARmJESSUNGAROmNAMBCADlSNALDAN",
   "lYANGRTAGSnRTSHESiUBJOINEDLETTER-AwAwBAxHAwCAxHAwDAxDAyHAxHAxZAyHAwFIXEDFORMRA+fWA+fYAwGA",
   "xHAwHAwJAwKAxHAxSSAwLAwMAwNAxGAxNAxYAwPAxHAwRAwSAxHAxSAwTAxHAxSAyHAxTAyHAwWAwYAwZAxHA",
   "qSIGNINVERTEDMCHUCANuLCETSACANuMCHUCANiYLLABLEOMjMBOLDRILBUnNORBUsBZHI-KHYILsGSUM-KHYIL",
   "sNYIS-KHYILnPADMAGDANoHURPAnRDORJEtRGYAGRAMhVOWELSIGNAAqErEqIrIqOrOqREVERSEDIzIqUrU",
   "qVOCALICLyLxRyRcCKETcEOVERINFINITYcFINAGHCONSONANTJOINERiLETTERAHAGGARYAZHpYERYAGH",
   "oBERBERACADEMYYAH+dJoTAWELLEMETYAZpUAREGYAGHxNwHwKxHwNGwQwZHoYAqAqBrHqCHqDrDsHrHqFqGrHsHqH",
   "rHqJqKrHsHqLqMqNqPqQqRrRqSrHrSqTrHrTqVqWqYqZrHrZpEqYpIpOpUiMODIFIERLETTERLABIALIZATIONMARK",
   "iSEPARATORMARKcGERfFACEdHTTRIFOLIATESNOWFLAKEcLDEfOPERATORnABOVELEFTWARDSARROW",
   "sRIGHTWARDSARROWnWITHDOTABOVErRISINGDOTSfWITHDOTABOVEmBELOWjRINGABOVEcMERCLOCK",
   "eSWITHLEFTHALFBLACKjRIGHTHALFBLACKcNYeTWODOTSOVERONEDOTPUNCTUATIONcREDFACE",
   "dHUTAABBREVIATIONSIGNiNJIhDIGITEIGHTmFIVEnOURmNINEmONEmSEVENnIXmTHREEnWOmZEROhGVANG",
   "hLETTERAoAoIoUnBAoHAnCAoHAnDAoDApHAoHAnEnGAoHAnHAnIoInJAoHAnKAoHAnLAnMAnNAoGAoNAoYAnOnPA",
   "oHAnRAnSAoHAoSAnTAoHAoTApHAnUoUnVAoOCALICLvLuRvRnYAhOMhSIGNANUSVARAmVAGRAHAlCANDRABINDU",
   "lNUKTAlVIRAMAnSARGAhVOWELSIGNAArIrUqEqIrIqOqSHORTEvOqUrUqVOCALICLyLxRyRdONIANSIGNCAPITALET",
   "mETbODHRILETTERAnSmBAmCAnHAmDAnHAmEnImFAmGAnHAnJAmHAnJAmImJAnYmKAnHAmLAnLAmMAnBAmNAnDAnGA",
   "oJAnJANnXAoHAmOnOmPAnSAmQAmRAnRAmSAnHAoTAnKANnTAmTAnHAmUmVAmXAnHAmYmZAnHAcILETcKYOTOWER",
   "cLONGSIKIDIGITEIGHTpFIVEqOURpNINEpONEpSEVENqIXpTHREEqWOpZEROkLETTERArAqBrHqCrHqDrDsHrHqEqG",
   "rHqHqIqJrHqKrHqLqMqNrGrNsYrYqOqPrHqRrRsHqSqTrHrTsHqUqVqXqYkSIGNHECAKAoSELAkUNGGAcMATOcNGUE",
   "cOLBOXdTHfBRUSHcPARCANTICLOCKWISEARROWyWITHPLUSgCLOCKWISEARROWWITHMINUSdCURLYBRACKET",
   "dHALFBLACKCIRCLEhFLAILINGROBOTFRAME1z2iORWARDFACINGROBOTvUNNERhINTEGRALhLEFTFACINGROBOT",
   "sUNNERFRAME1+c2lPARENTHESIShRIGHTFACINGROBOTtUNNERFRAME1+d2mPARENTHESIShSECTIONSIGN",
   "iTANDINGPERSONfTdJUSTIFIEDLOWERHALFBLACKCIRCLEvWHITECIRCLE",
   "dLEFTBLACKLEFTPOINTINGSMALLTRIANGLEhCORNERiROPhHALFBRACKET",
   "hJUSTIFIEDLOWERRIGHTQUARTERBLACKCIRCLEdPARENTHESISdRIGHTCORNERjROPiHALFBRACKET",
   "iJUSTIFIEDLOWERLEFTQUARTERBLACKCIRCLEdSQUAREBRACKETdTORTOISESHELLBRACKET",
   "dWITHUPWARDSARROWABOVEcRTOISESHELLBRACKETEDCJKUNIFIEDIDEOGRAPH4E09+r8C+p52DD+qB89+p6253",
   "+q557+q72C+p70B9+q6D7wLATINCAPITALLETTERScTALRUNOUTdOLETTERAlEkBAlREATHYAErEsOrIsUkCHAkDA",
   "kElOkGAkHAkIlUkJAkKAkLAkMAkNAlGAkOkPAkRAkSAkTAkUkWAkYAeSIGNRISINGTONEbRACKBALLeTOR",
   "dDEMARKSIGNdINdMeCARdNSPLUTOfVERSALINTERSECTIONcEASURECHESTdESYMBOLdX",
   "cIANGLEHEADEDRIGHTWARDSARROWiWITHDOTABOVEmROUNDEDCORNERSmSERIFSATBOTTOMmUNDERBAR",
   "gULARBULLETkFLAGONPOSTkRULERdCOLONdDENTEMBLEMdGRAMFOREARTHkFIREkHEAVENkLAKEkMOUNTAIN",
   "kTHUNDERkWATERlINDdPLECOLONOPERATORgDAGGERgHORIZONTALBARWITHDOUBLEVERTICALSTROKE",
   "xTRIPLEVERTICALSTROKEgINTEGRALgNESTEDGREATERTHANmLESSTHANgPLUShRIMEgSOLIDUSBINARYRELATION",
   "gTILDEgVERTICALBARBINARYRELATIONrDELIMITERrRIGHTTURNSTILErWITHHORIZONTALSTROKEcOLLfEYBUS",
   "dMBONEdPHYeICALDRINKiFISHcUEeLIGHTMOONARTAdMPETbSHIRTbUGRIKSIGNcLIPdUTIGALARIAULENGTHMARK",
   "mCONJOINERmDANDAnOUBLEDANDAmGEMINATIONMARKmLETTERAtAtItUsBAtHAsCAtHAsDAtDAuHAtHAsEEsGAtHA",
   "sHAsItIsJAtHAsKAtHAsLAtLAuLAsMAsNAtGAtNAtYAsOOsPAtHAsRAtRAsSAtHAtSAsTAtHAtTAuHAsUtUsVA",
   "tOCALICL+aLzR+aRsYAmREPHAmSIGNANUSVARArVAGRAHAqCANDRAANUNASIKAqLOOPEDVIRAMAqOMPUSHPIKA",
   "qPLUTAqSHRIIPUSHPIKAqVIRAMAsSARGAmVEDICTONEANUDATTAvSVARITAnOWELSIGNAAwIwUvEEvIwIvOOvUwU",
   "vVOCALICL+dL+cR+dRcMBLERGLASScRKEYeISHLIRASIGNdNEDAMPERSANDhNGLEgBLACKPENTAGONlSHOGIPIECE",
   "gCAPITALFhOMMAgDAGGERhIGITTHREEmWOgGREEKSMALLLETTERIOTAgNORTHEASTPOINTINGLEAF",
   "lWESTPOINTINGLEAFiTSIGNgOKHANDSIGNgSANSSERIFCAPITALGwLwYhEMICOLONhMALLF",
   "hOUTHEASTPOINTINGLEAFlWESTPOINTINGLEAFgWHITESHOGIPIECEdTLEbWELVEPOINTEDBLACKSTAR",
   "cISTEDRIGHTWARDSARROWScOASTERISKSALIGNEDVERTICALLYdBUTTONMOUSEdCONSECUTIVEEQUALSSIGNS",
   "dDOTLEADERgPUNCTUATIONgSOVERONEDOTPUNCTUATIONdEMDASHdHEARTSdINTERSECTINGLOGICALANDwOR",
   "dJOINEDSQUARESdLOGICALANDOPERATORkOROPERATORdMENHOLDINGHANDSdRINGSALIGNEDHORIZONTALLY",
   "dSPEECHBUBBLESdWOMENHOLDINGHANDSaUGARITICLETTERAINpLPAoBETAoDELTApHALoGAMLApHAINoHOqTAoI",
   "oKAFpHAoLAMDAoMEMoNUNoPUoQOPAoRASHAoSADEqMKApHINpSUoTETpHANNApOoUoWOoYODoZETApU",
   "iWORDDIVIDERbMBRELLAiONGROUNDiWITHRAINDROPSbNAMUSEDFACEcCERTAINTYSIGNcDERTIEdOSYMBOL",
   "cICORNFACEdONfABOVEBARABOVEINTERSECTIONkINTERSECTIONfBESIDEANDJOINEDWITHUNION",
   "fWITHLOGICALORjMINUSSIGNjOVERBARdTEDSYMBOLeSEPARATORdVERSALRECYCLINGSYMBOL",
   "cMARRIEDPARTNERSHIPSYMBOLbPARROWHEADlBETWEENTWOHORIZONTALBARSlINARECTANGLEBOX",
   "hTHROUGHCIRCLEcBARBLEFTDOWNBARBLEFTHARPOONsRIGHTHARPOONgRIGHTDOWNBARBLEFTHARPOON",
   "tRIGHTHARPOONcDOWNARROWlWITHBASEgBLACKARROWgDOUBLEARROWgSANSSERIFARROWgTRIANGLEHEADEDARROW",
   "gWHITEARROWcFACINGSNAKEHEADWITHCLOSEDMOUTHvOPENMOUTHdISHTAIL",
   "cPERANDLEFTANDLOWERTRIANGULARTHREEQUARTERSBLOCKjOWERONEEIGHTHBLOCKnTRIANGULARHALFBLOCK",
   "iRIGHTANDLOWERTRIANGULARTHREEQUARTERSBLOCKfBLADESCISSORSfCENTRELEFTONESIXTEENTHBLOCK",
   "pTWELFTHCIRCLElONEQUARTERBLOCKlRIGHTONESIXTEENTHBLOCKqTWELFTHCIRCLEfFIVEEIGHTHSBLOCK",
   "fHALFBLOCKoANDLOWERHALFINVERSEMEDIUMSHADEjCIRCLEjHEAVYWHITESQUARE",
   "jINVERSEMEDIUMSHADEANDLOWERHALFBLOCKqWHITECIRCLEjLEFTONEQUARTERBLOCKjMEDIUMSHADE",
   "jRIGHTONEQUARTERBLOCKjVERTICALLINEWITHTHREETICKMARKS",
   "fLEFTBLOCKDIAGONALLOWERCENTRETOLOWERMIDDLERIGHT+jUPPERMIDDLERIGHT+oRIGHT",
   "+bLEFTTOLOWERMIDDLERIGHT+hUPPERCENTRE+mMIDDLERIGHT+bMIDDLELEFTTOUPPERCENTRE+sMIDDLERIGHT",
   "+sRIGHTwUPPERMIDDLELEFTTOUPPERCENTRE+sRIGHTjCORNERWITHDOTjONESIXTEENTHBLOCK",
   "kRLOWERRIGHTCURLYBRACKETSECTIONjQUADRANTCHESSBISHOPwKINGxNIGHTwPAWNwQUEENwROOKsIRCULARARC",
   "rFACEWITHCLOSEDEYESzOPENEYESrMICROCOMPUTERrSTANDINGKNIGHTrTELEVISIONmRTERCIRCLE",
   "jTOLOWERRIGHTFILLkRIANGLEpULARMEDIUMSHADEkWELFTHCIRCLEfMIDDLECENTRELEFTONESIXTEENTHBLOCK",
   "rRIGHTONESIXTEENTHBLOCKlLEFTONESIXTEENTHBLOCKpTWELFTHCIRCLElRIGHTONESIXTEENTHBLOCK",
   "qTWELFTHCIRCLEfONEEIGHTHBLOCKiQUARTERBLOCKfRIGHTBLOCKDIAGONALLOWERMIDDLELEFTTOLOWERCENTRE",
   "+tRIGHTxUPPERCENTRETOLOWERMIDDLERIGHT+pRIGHT+kUPPERMIDDLERIGHT+cLEFTTOLOWERCENTRE",
   "+nMIDDLERIGHT+iUPPERMIDDLERIGHT+cMIDDLELEFTTOLOWERCENTRE+tMIDDLERIGHT+tRIGHT",
   "kDROPSHADOWEDWHITESQUAREkONESIXTEENTHBLOCKlRLOWERLEFTCURLYBRACKETSECTIONkPENCIL",
   "kQUADRANTCHESSBISHOPxKINGyNIGHTxPAWNxQUEENxROOKtIRCULARARCsFACEWITHCLOSEDEYES+aOPENEYES",
   "sMICROCOMPUTERsSTANDINGKNIGHTsTELEVISIONnRTERCIRCLEkSHADOWEDWHITECIRCLExSQUARE",
   "kTOLOWERLEFTFILLlRIANGLEqULARMEDIUMSHADElWELFTHCIRCLEfSEVENEIGHTHSBLOCKfTHREEEIGHTHSBLOCK",
   "kQUARTERSBLOCKsLEFTONEQUARTERBLOCKsRIGHTONEQUARTERBLOCKgRIANGULARONEQUARTERBLOCK",
   "dOINTINGAIRPLANElTOMICBOMBkENERGYWAVEkFROGkGOKARTkMILITARYAIRPLANEkRACINGCARlEDTRIANGLE",
   "lIFLElOCKETSHIPkSMALLAIRPLANEpREDTRIANGLEkTRIANGLEWITHLEFTHALFBLACKwRIGHTHALFBLACK",
   "cRIGHTDIAGONALELLIPSIScSIDEDOWNFACEcTACKgWITHCIRCLEABOVEcWARDSANCORAiRROW",
   "mANDRIGHTONEEIGHTHBLOCKmFROMBARmLEFTWARDSOFDOWNWARDSARROWmTOBARmWITHDOUBLESTROKE",
   "qEQUILATERALARROWHEADqHORIZONTALSTROKEqLARGETRIANGLEARROWHEADqMEDIUMTRIANGLEARROWHEAD",
   "qNOTCHEDTAILqSMALLEQUILATERALARROWHEADvTRIANGLEARROWHEADqTIPLEFTWARDStRIGHTWARDS",
   "hBLACKARROWmCIRCLEDWHITEARROWhCOMPRESSEDARROWhDASHEDARROWiOUBLEARROWhFINGERPOSTARROW",
   "hHARPOONWITHBARBLEFTBESIDEDOWNWARDSHARPOONWITHBARBRIGHT+gUPWARDSHARPOONWITHBARBRIGHT",
   "+aFROMBAR+aTOBAR+aWARDSwRIGHTFROMBAR+bTOBAR+bWARDSiEAVYARROWmCOMPRESSEDARROWhPAIREDARROWS",
   "hQUADRUPLEARROWhROCKEThSANSSERIFARROWiQUAREDARROWhTRIANGLEARROWHEADpHEADEDARROW",
   "+aLEFTWARDSOFDOWNWARDSTRIANGLEHEADEDARROW+aTOBAR+aWITHBOLDSHAFT+eDOUBLEHORIZONTALSTROKE",
   "+eHEAVYSHAFT+eLONGTIPLEFTWARDS+lRIGHTWARDS+eMEDIUMSHAFT+eNARROWSHAFT+eVERYHEAVYSHAFT",
   "vDASHEDARROWvPAIREDARROWSkPLEARROWiWOHEADEDARROWvFROMSMALLCIRCLEvWITHTRIANGLEARROWHEADS",
   "hWHITEARROWrFROMBARyWITHHORIZONTALBARrONPEDESTAL+bWITHHORIZONTALBAR+fVERTICALBAR",
   "rWITHINTRIANGLEARROWHEADmDOUBLEARROWxONPEDESTALbRANUSbSaVAICOMMAdDIGITEIGHTiFIVEjOURiNINE",
   "iONEiSEVENjIXiTHREEjWOiZEROdFULLSTOPdQUESTIONMARKdSYLLABLEAmNlBAmEnEmHAnEoEnInOoOnUmImOnO",
   "mUlCAmEnEmImOnOmUlDAmEnEmHAnEoEnHAoEpEoIoOpOoUnInOoOnUmImOnOmUlEmEnNmNlFAmEnEmImOnOmUlGA",
   "mBAnEoEoNnInOoNoOnUmEnEnNmImOnOmUlHAnNmEnEnNmInNmOnNnOmUnNlImNlJAmEnEmImOnOmUlKAnNmEnEmImO",
   "nOmPAoNnEoEoNnInOoOnUmUlLAmEnEnNGTHENERmImOnOmUlMAmBAnEoEnInOoOnUmEnEmGBAoEpEoIoOpOoUmImO",
   "nOmUlNAmDAnEoEnInOoLEDOqFAqKAqMAqSOOoOnUmEnEmGnANnENnGAoEpEpNoIoOpOoUnONmImJAnEoEnInOoOnU",
   "mOnOmUmYAnEoEnInOoOnUlOmNmOnNlPAmEnEmImOnOmUlRAmEnEmImOnOmUlSAmEnEmHAnEoEnInOoOnUmImOnOmU",
   "lTAmEnEmHAnEoEnInOoOnUmImOnOmUlUmNlVAmEnEmImOnOmUlWAnNmEnEoNnNmInNmOnNnOoNmUnNlYAmEnEmImO",
   "nOmUlZAmEnEmHAnEoEnInOoOnUmImOnOmUfMBOLBANGjDANGkOOmNGjFAAkEENGjJONGjKEENGkUNGjNIIjTAAkING",
   "kONGcMPIREcRIATIONSELECTOR1s0t0t1t2t3t4t5t6t7t8t9s1t0t1t2t3t4t5t6t7t8t9s2t0t1t2t3t4t5t6t7",
   "t8t9s3t0t1t2t3t4t5t6t7t8t9s4t0t1t2t3t4t5t6t7t8t9s5t0t1t2t3t4t5t6t7t8t9s6t0t1t2t3t4t5t6t7t8",
   "t9s7t0t1t2t3t4t5t6t7t8t9s8t0t1t2t3t4t5t6t7t8t9s9t0t1t2t3t4t5t6t7t8t9r2s0t0t1t2t3t4t5t6t7t8",
   "t9s1t0t1t2t3t4t5t6t7t8t9s2t0t1t2t3t4t5t6t7t8t9s3t0t1t2t3t4t5t6t7t8t9s4t0t1t2t3t4t5t6t7t8t9",
   "s5t0t1t2t3t4t5t6s6s7s8s9r3s0s1s2s3s4s5s6s7s8s9r4s0s1s2s3s4s5s6s7s8s9r5s0s1s2s3s4s5s6s7s8s9",
   "r6s0s1s2s3s4s5s6s7s8s9r7s0s1s2s3s4s5s6s7s8s9r8s0s1s2s3s4s5s6s7s8s9r9s0s1s2s3s4s5s6s7s8s9",
   "bECTORORCROSSPRODUCTcDICSIGNANUSVARAANTARGOMUKHArBAHIRGOMUKHArUBHAYATOMUKHArVAMAGOMUKHA",
   "+cWITHTAILkRDHAVISARGAkTIKRAMAjDOUBLEANUSVARAANTARGOMUKHAjHEXIFORMLONGANUSVARAjJIHVAMULIYA",
   "jLONGANUSVARAjNIHSHVASAjREVERSEDVISARGAANUDATTAyUDATTAkOTATEDARDHAVISARGA",
   "kTHANGLONGANUSVARAjTIRYAKjUPADHMANIYAjVISARGAANUDATTAyWITHTAILqSVARITAqUDATTAwWITHTAIL",
   "jYAJURVEDICMIDLINESVARITAfTONEATHARVAVEDICINDEPENDENTSVARITAjCANDRAABOVEpBELOWjDOTBELOW",
   "lUBLERINGABOVEpSVARITAjKARSHANAlTHAKAANUDATTAjPRENKHAjRIGVEDICKASHMIRIINDEPENDENTSVARITA",
   "lNGABOVEjSHARAjTHREEDOTSBELOWkRIPLESVARITAkWODOTSBELOW",
   "jYAJURVEDICAGGRAVATEDINDEPENDENTSVARITAtINDEPENDENTSVARITAtKATHAKAINDEPENDENTSVARITA",
   "+sSCHROEDERcRSICLEdTICALBARBESIDERIGHTTRIANGLElDOUBLELEFTTURNSTILElTRIPLERIGHTTURNSTILE",
   "lWITHHORIZONTALSTROKEiCAPACITORiELLIPSISiFOURDOTSiGOKARTiIDEOGRAPHICITERATIONMARK",
   "iKANAREPEATMARKwLOWERHALFwUPPERHALFsWITHVOICEDSOUNDMARK+lUPPERHALFiLADDERjINEmEXTENSION",
   "mWITHCIRCLEABOVEwBELOWqFOURTICKMARKSqMIDDLEDOTqTHREETICKMARKSiMALEWITHSTROKESIGN",
   "iONEEIGHTHBLOCK2w3w4w5w6w7iRACINGCARjESISTORSEGMENTiSIXDOTSiTABKEYlULATIONsSETjILDE",
   "jRAFFICLIGHTiZIGZAGLINEdYBOLDGREEKCROSSeHEAVYEIGHTPOINTEDBLACKSTARoSPOKEDASTERISK",
   "jFIVESPOKEDASTERISKjGREEKCROSSjREVERSESOLIDUSjSALTIREkIXSPOKEDASTERISKkOLIDUSjWHITECIRCLE",
   "oSQUAREeMUCHGREATERTHANiLESSTHANcSTAfFORMTWObIBRATIONMODEcCTORIAgYHANDcDEOCAMERAhSSETTE",
   "fGAMEcETNAMESEALTERNATEREADINGMARKCA+eNHAYdWDATASQUAREcOLINcRGOcTHKUQICAPITALLETTERAvBBEwE",
   "vCEwHEvDEwHEvEwIvFEvGAvHAwHAvIwJEvJEvKAvLAwLAvMEvNEwJEvOvPEvQAvREvSEwHEvTEwHEvUvVEvXEvYvZE",
   "iSMALLLETTERAtBBEuEtCEuHEtDEuHEtEuItFEtGAtHAuHAtIuJEtJEtKAtLAuLAtMEtNEuJEtOtPEtQAtREtSEuHE",
   "tTEuHEtUtVEtXEtYtZEbOIDEDGREEKCROSScLCANOdLEYBALLdUMEINTEGRALbS1d0e0e1e2e3e4e5e6e7e8e9d1e0",
   "e1e2e3e4e5e6e7e8e9d2e0e1e2e3e4e5e6e7e8e9d3e0e1e2e3e4e5e6e7e8e9d4e0e1e2e3e4e5e6e7e8e9d5e0e1",
   "e2e3e4e5e6e7e8e9d6e0e1e2e3e4e5e6e7e8e9d7e0e1e2e3e4e5e6e7e8e9d8e0e1e2e3e4e5e6e7e8e9d9e0e1e2",
   "e3e4e5e6e7e8e9c2d0e0e1e2e3e4e5e6e7e8e9d1e0e1e2e3e4e5e6e7e8e9d2e0e1e2e3e4e5e6e7e8e9d3e0e1e2",
   "e3e4e5e6e7e8e9d4e0e1e2e3e4e5e6e7e8e9d5e0e1e2e3e4e5e6d6d7d8d9c3d0d1d2d3d4d5d6d7d8d9c4d0d1d2",
   "d3d4d5d6d7d8d9c5d0d1d2d3d4d5d6d7d8d9c6d0d1d2d3d4d5d6d7d8d9c7d0d1d2d3d4d5d6d7d8d9c8d0d1d2d3",
   "d4d5d6d7d8d9c9d0d1d2d3d4d5d6d7d8d9bTcSbULCANUSdGARFRACTIONFIVEEIGHTHSsSIXTHSpOURFIFTHS",
   "oONEEIGHTHrFIFTHrHALFrNINTHrQUARTERrSEVENTHsIXTHrTENTHsHIRDoSEVENEIGHTHSoTHREEEIGHTHS",
   "tFIFTHStQUARTERSpWOFIFTHSrTHIRDSoZEROTHIRDSaWAFFLEcNCHODIGITEIGHTlFIVEmOURlNINElONElSEVEN",
   "mIXlTHREEmWOlZEROgLETTERAnAoNpGnNGnUmBAmCAmDAmEnNmFAmGAmHAmInNGmJAmKAnHAmLAnLHAmMAmNAnGA",
   "nYAmOnNoGmPAnHAmRAmSAnHAmTAnHAnRAnSAmUnENmVAmWAmYAnIHmZAgNGUNSIGNgTONEKOInNIkTUPnNI",
   "dINGCRESCENTMOONSYMBOLgGIBBOUSMOONSYMBOLcRANGCITICAPITALLETTERAyMyNGyTxBUxDAxEyNNzYxGAxHAR",
   "yIYOyOLOzRRxIIxKOxNGAAyUNGxOyDDxPUxSIIySUUxTTExUCyUxVIYOxWIxYAyOyUzJkDIGITEIGHTpFIVEqOUR",
   "pNINEpONEpSEVENqIXpTHREEqWOpZEROkNUMBEREIGHTYqFIFTYrORTYqNINETYqSEVENTYrIXTYqTENrHIRTY",
   "rWENTYkOMkSMALLLETTERAwMwNGwTvBUvDAvEwNNxYvGAvHARwIYOwOLOxRRvIIvKOvNGAAwUNGvOwDDvPUvSII",
   "wSUUvTTEvUCwUvVIYOvWIvYAwOwUxJdNINGSIGNcSTEBASKETcTCHdERBUFFALOfCLOSETfMELONfPOLOfWAVE",
   "cVEARROWPOINTINGDIRECTLYLEFTzRIGHTeDASHdINGBLACKFLAGgHANDSIGNgWHITEFLAGdYDASHeLINEfOWLINE",
   "eOVERLINEcXINGCRESCENTMOONSYMBOLgGIBBOUSMOONSYMBOLbEARYCATFACEfFACEcDDING",
   "dGETAILEDRIGHTWARDSARROWcIERSTRASSELLIPTICFUNCTIONdGHTLIFTERcSTSYRIACCROSSbHALEcEEL",
   "fCHAIRSYMBOLfOFDHARMAcITEARROWSHAFTWIDTHONEuTWOTHIRDSfBULLETfCHESSALFILkBISHOP",
   "qROTATEDNINETYDEGREESxTWOHUNDREDSEVENTYDEGREESkEQUIHOPPERuROTATEDNINETYDEGREESkFERZkKING",
   "oROTATEDNINETYDEGREESvTWOHUNDREDSEVENTYDEGREESlNIGHTqBISHOPqQUEENqROOK",
   "sTATEDFORTYFIVEDEGREESxNINETYDEGREESxONEHUNDREDTHIRTYFIVEDEGREES",
   "xTHREEHUNDREDFIFTEENDEGREESyWOHUNDREDSEVENTYDEGREES+hTWENTYFIVEDEGREESkPAWN",
   "oROTATEDNINETYDEGREESvTWOHUNDREDSEVENTYDEGREESkQUEENpROTATEDNINETYDEGREES",
   "wTWOHUNDREDSEVENTYDEGREESkROOKoROTATEDNINETYDEGREESvTWOHUNDREDSEVENTYDEGREESkTURNEDBISHOP",
   "qKINGrNIGHTqPAWNqQUEENqROOKgIRCLElCONTAININGBLACKSMALLCIRCLElWITHDOTRIGHTrWNARROW",
   "pLOWERLEFTQUADRANTuRIGHTQUADRANTpTWODOTSpUPPERLEFTQUADRANTuRIGHTQUADRANTgLUBSUIT",
   "gONCAVESIDEDDIAMONDyWITHLEFTWARDSTICK+cRIGHTWARDSTICKgROSSMARKfDIAMOND",
   "mCONTAININGBLACKMEDIUMDIAMOND+bSMALLDIAMOND+bVERYSMALLDIAMONDmINSQUAREmSUITmWITHCENTREDDOT",
   "gOWNPOINTINGBACKHANDINDEXrINDEXrLEFTHANDINDEXrSMALLTRIANGLErTRIANGLEgRAUGHTSKINGnMAN",
   "fEXCLAMATIONMARKORNAMENTfFEATHEREDRIGHTWARDSARROWgLAGjWITHHORIZONTALMIDDLEBLACKSTRIPE",
   "hORETTEiWERgOURPOINTEDCUSPqSTARgROWNINGFACEfHARDSHELLFLOPPYDISKgEARTkSUITiVYCHECKMARK",
   "kSALTIREWITHROUNDEDCORNERShXAGONgORIZONTALELLIPSEhURGLASSfLARGESQUAREhTINCROSS",
   "gEFTLANEMERGEjPOINTINGBACKHANDINDEXrINDEXrPOINTERrSMALLTRIANGLErTRIANGLEgOWERLEFTPOINTER",
   "kRIGHTPOINTERhZENGECONTAININGBLACKSMALLLOZENGEfMEDIUMDIAMONDlLOZENGElSMALLSQUAREmQUAREmTAR",
   "gOONSELENAfNIBfPARALLELOGRAMgENNANTiTAGONfQUESTIONMARKORNAMENTfRECTANGLE",
   "gIGHTPOINTINGBACKHANDINDEXsINDEXsPENTAGONtOINTERsSMALLTRIANGLEsTRIANGLEfSCISSORSgESAMEDOT",
   "gHOGIPIECEgMALLLOZENGEkSQUARElTARhILINGFACEgPADESUITgQUARElBUTTON",
   "lCONTAININGBLACKMEDIUMSQUARE+aSMALLSQUARE+aVERYSMALLSQUARElWITHCENTREVERTICALLINE",
   "pLEFTWARDSTICKqOWERLEFTQUADRANTuRIGHTQUADRANTpRIGHTWARDSTICKqOUNDEDCORNERS",
   "pUPPERLEFTQUADRANTuRIGHTQUADRANTpVERTICALBISECTINGLINEgTARgUNiBEHINDCLOUDtWITHRAIN",
   "iWITHRAYSmSMALLCLOUDfTELEPHONEgOUCHTONETELEPHONEgRAPEZIUM",
   "hIANGLECONTAININGSMALLWHITETRIANGLEgWOWAYLEFTWAYTRAFFICfUPPOINTINGBACKHANDINDEXpCHEVRON",
   "pINDEXpSMALLTRIANGLEpTRIANGLExWITHDOTfVERTICALBARnELLIPSEnRECTANGLEwWITHHORIZONTALBAR",
   "iYSMALLSQUAREbIDEHEADEDDOWNWARDSBARBARROWtHEAVYBARBARROWtLIGHTBARBARROWtMEDIUMBARBARROW",
   "tVERYHEAVYBARBARROWkLEFTWARDSBARBARROWtHEAVYBARBARROWtLIGHTBARBARROWtMEDIUMBARBARROW",
   "tVERYHEAVYBARBARROWkNORTHEASTBARBARROWtHEAVYBARBARROWtLIGHTBARBARROWtMEDIUMBARBARROW",
   "tVERYHEAVYBARBARROWpWESTBARBARROWtHEAVYBARBARROWtLIGHTBARBARROWtMEDIUMBARBARROW",
   "tVERYHEAVYBARBARROWkRIGHTWARDSBARBARROWuHEAVYBARBARROWuLIGHTBARBARROWuMEDIUMBARBARROW",
   "uVERYHEAVYBARBARROWkSOUTHEASTBARBARROWtHEAVYBARBARROWtLIGHTBARBARROWtMEDIUMBARBARROW",
   "tVERYHEAVYBARBARROWpWESTBARBARROWtHEAVYBARBARROWtLIGHTBARBARROWtMEDIUMBARBARROW",
   "tVERYHEAVYBARBARROWkUPWARDSBARBARROWrHEAVYBARBARROWrLIGHTBARBARROWrMEDIUMBARBARROW",
   "rVERYHEAVYBARBARROWcGGLYVERTICALLINEcLTEDFLOWERcNDBLOWINGFACEeCHIMEeOWdEGLASSdGdKINGFACE",
   "cREDKEYBOARDeLESSbJbOLFFACEcMANfSBOOTSgCLOTHESgHATgSANDALfWITHBUNNYEARSdENSSYMBOLcNSIGNcOD",
   "cRDJOINEReSEPARATORMIDDLEDOTdLDMAPdMdRIEDFACEbRAPPEDPRESENTcEATHPRODUCTdNCHdSTLERS",
   "cITINGHANDaXIANGQIBLACKCANNONnHARIOTmELEPHANTmGENERALmHORSEmMANDARINmSOLDIERhREDCANNON",
   "lHARIOTkELEPHANTkGENERALkHORSEkMANDARINkSOLDIERcNARECTANGLEBOXbORbRAY",
   "aYANGQINSIGNSLOWONEBEATpTHREEHALFBEATSqWOBEATScWNINGFACEbELLOWHEARTcNSIGN",
   "cZIDICOMBININGHAMZAMARKpMADDAMARKgHYPHENATIONMARKgLETTERBEmCHHIMoIMnIMmDADoLmELIFnTnWnYN",
   "mFAmGAFmHAYnHAmJAmKAFnHAFmLAMpWITHDOTABOVEmMIMmNUNmOWmPEnHEmQAFmRAnHAmSADnEnHINnINmTAnHE",
   "mUMmVAoALTERNATEFORMmWAWmXAnHEYNmYOTpWITHCIRCUMFLEXABOVEmZAoLnEbINYANGcRADICALBBUTkURjCHE",
   "kIPkUOPkYlPlTjDDURkUjGAkEPkGOPlUOkOTjHMOkXITlOPlUOjJJIElUTlYkOjKEkITjLIlEkYRjMIkOPjNBIE",
   "kYIPlOPkZUPjOPjPUTkYTjQOTjSHATlOPlURlYkSIjTATkUjVEPkURjWOjYITkOjZAkOTkUPlRkZIETcSYLLABLEA",
   "lPlTlXkBAmPmTmXlBAnPnTnXmEnPnXmInEoPoToXnPnTnXmOnPnTnXmUnOoPoXnPnRoXnTnXmYnPnTnXlEmPmXlImE",
   "nPnTnXmPmTmXlOmPmTmXlUmOnPnXmPmRnXmTmXlYmPmRnXmTmXkCAmPmTmXlEmPmXlHAnPnTnXmEnPnTnXmOnPnTnX",
   "mUnOoPoToXnPnRoXnXmYnPnRoXnTnXlImEnPnTnXmPmTmXlOmPmTmXlUmOnPnXmPmRnXmTmXlYmPmRnXmTmXkDAmP",
   "mTmXlDAnPnTnXmEnPnXmInEoPoXnPnTnXmOnPnTnXmUnOoPoXnPnRoXnTnXlEmPmXlImEnPnXmPmTmXlOmPmTmXlU",
   "mOnXmPmRnXmTmXkElXkFAmPmTmXlImPmTmXlOmPmXlUmPmRnXmTmXlYmPmTmXkGAmPmTmXlEmPmTmXlGAnPnTnXmE",
   "nPnTnXmInEoPoXnTnXmOnPnTnXmUnOoPoToXnPnRoXnTnXlImEnPnTnXmPmTmXlOmPmTmXlUmOnPnTnXmPmRnXmTmX",
   "kHAmPmTmXlEmPmXlIEnXmTlLAnPnTnXmEnPnXmInEoPoXnPnTnXmOnPnXmUnOoPoXnPnRoXnTnXmYnPnRoXnTnXlMA",
   "nPnTnXmInEoPoXnPnTnXmOnPnTnXmUnOoPoXnPnRoXnTnXmYnPnRoXnXlNAnPnTnXmEnPnXmInEoPoToXnPnTnXmOP",
   "nTnXmUOoXnTlOmPmTmXlUOnPnTnXlXAnPnTnXmEnPnXmInEoPoToXnPnTnXmOnPnTnXmUOoPoToXkIlEmPmTmXlPlT",
   "mERATIONMARKlXkJImEnPnTnXmPmTmXlJInEoPoToXnPnTnXmOnPnTnXmUnOoPoXnPnRoXnTnXmYnPnTnXlOmPmTmX",
   "lUmOnPnTnXmPmRnXmTmXlYmPmRnXmTmXkKAmPmTmXlEmPmTmXlImEnPnXmPmTmXlOmPmTmXlUmOnPnXmPmRnXmTmX",
   "kLAmPmTmXlEmPmXlImEnPnTnXmPmTmXlOmPmTmXlUmOnPnTnXmPmRnXmTmXlYmPmRnXmTmXkMAmPmTmXlEmXlGAnP",
   "nTnXmEnPnXmIEoXmOnPnTnXmUnOoPoXnPnRoXnTnXlImEnPnXmPmTmXlOmPmTmXlUmOnPnTnXmPmRnXmTmXlYmPmT",
   "mXkNAmPmXlBAnPnTnXmInEoPoXnPnTnXmOnPnTnXmUnPnRoXnTnXmYnPnRoXnTnXlDAnPnTnXmEnPnXmInEoXnPnT",
   "nXmOnPnTnXmUnPnRoXnTnXlEmPmXlGAnPnTnXmEnPnXmIEoPoXmOnPnTnXmUOoToXlImEnPnXmPmTmXlJInEoPoToX",
   "nPnTnXmOnPnTnXmUnOoXnPnRoXnXmYnPnRoXnTnXlOmPmTmXlRAnPnTnXmEnPnTnXmOnPnXmUnPnRoXnTnXmYnPnR",
   "oXnTnXlUmOnPnXmPmRnXmTmXlYInEoPoToXnPnTnXmOnPnTnXmUnOoPoXnPnTnXlZAnPnTnXmEnXmInEoPoXnPnTnX",
   "mOPnXmUnOoXnPnRoXnXmYnPnRoXnTnXkOlPlTlXkPAmPmTmXlImEnPnXmPmTmXlOmPmTmXlUmOnPnXmPmRnXmTmXlY",
   "mPmRnXmTmXkQImEnPnTnXmPmTmXlOmPmTmXlUmOnPnTnXmPmRnXmTmXlYmPmRnXmTmXkRAmPmTmXlEmPmXlOmPmTmX",
   "lRAnXmEnPnTnXmOnPnTnXmUnOoXnPnRoXnTnXmYnPnRoXnTnXlUmOnPnXmPmRnXmTmXlYmPmRnXmTmXkSAmPmTmXlE",
   "mPmXlHAnPnTnXmEnPnTnXmOnPnTnXmUnOoPoXnPnRoXnTnXmYnPnRoXnTnXlImEnPnXmPmTmXlOmPmTmXlSAnPnTnX",
   "mEnPnXmInEoPoXnPnTnXmOnPnTnXmUnPnTnXmYnPnRoXnTnXlUmOnPnXmPmRnXmTmXlYmPmRnXmTmXkTAmPmTmXlE",
   "mPmXlImEnPnXmPmTmXlOmPmTmXlUmOnPnTnXmPmRnXmTmXkUOmPmXkVAmPmTmXlEPmXlImEnPnTnXmPmTmXlOmPmT",
   "mXlUmPmRnXmTmXlYmPmRnXmTmXkWAmPmTmXlEmPmXlOmPmXlUmOnPnXkXImEnPnTnXmPmTmXlOmPmTmXlUOnXlYmP",
   "mRnXmTmXkYImEnPnTnXmPmTmXlOmPmTmXlUmOnPnTnXmPmRnXmTmXlYmPmRnXmTmXkZAmPmTmXlEmPmXlHAnPnTnX",
   "mEnPnTnXmOnPnTnXmUnOoPoXnPnRoXnTnXmYnPnRoXnTnXlImEnPnXmPmTmXlOmPmTmXlUmOnPnXmPmRnXmTmXlYmP",
   "mRnXmTmXlZAnPnTnXmEnPnXmInEoPoToXnPnTnXmOnPnXmUnPnRoXnXmYnPnRoXnTnXbOYO",
   "aZANABAZARSQUARECLOSINGDOUBLELINEDHEADMARKwHEADMARKrUSTERFINALLETTERLA+hRA+hVA+hYA",
   "wINITIALLETTERRApFINALCONSONANTMARKpINITIALDOUBLELINEDHEADMARKwHEADMARKpLETTER-AvAvBAwHA",
   "vCAwHAvDAwDAxHAwHAwZAxHAvGAwHAvHAvJAvKAwHAwSSAvLAvMAvNAwGAwNAwYAvPAwHAvRAvSAwHAwSAvTAwHA",
   "wSAxHAwTAxHAvVAvYAvZAwHApMARKDOUBLESHADtLONGTSHEGtSHADtTSHEGpSIGNANUSVARAtCANDRABINDU",
   "+eWITHORNAMENTzWITHORNAMENTtVIRAMAvSARGAqUBJOINERpVOWELLENGTHMARKuSIGNAIzUyEyIyOzE",
   "yREVERSEDIyUzEbEBRAFACEcROWIDTHJOINERjNOBREAKSPACElNJOINERjSPACEcUSbIPPERMOUTHFACE",
   "bNAMENNYCOMBININGATTACHINGVERTICALOMETrLOWERTONALRANGEINDICATORrMARKBORZAYAvCHASHKA",
   "+cPOLNAYAwURVEDOMETvDEMESTVENNYZADERZHKAwVOETOCHIEvGORAZDONIZKOONLEFT+jRIGHT",
   "+hSKRYZHEMONLEFT+rRIGHT+cVYSOKOvKACHKAwRYZH+aONLEFTwUPNAYAvLOMKAvMALOPOVYSHEONLEFT+iRIGHT",
   "+gSKHOKHLOMONLEFT+rRIGHT+iRYZHEM+hTRANNOvNIZKOONLEFT+cRIGHT+aSKRYZHEMONLEFT+kRIGHT",
   "vOBLACHKOwNwTSECHKAvPODCHASHIE+fWITHVERTICALSTROKEyVERTKAxVYSHEONLEFT+eRIGHT",
   "+cSKHOKHLOMONLEFT+nRIGHT+eRYZHEM+dTRANNOvRAVNOxZSEKAvSKOBAwOROCHYANOZHKAwREDNEONLEFT",
   "+dRIGHTwTRANNOMALOPOVYSHEvTIKHAYAwOCHKAwSATAONLEFT+cRIGHT+aSKRYZHEMvUDARKAvVYSOKOONLEFT",
   "+dRIGHT+bSKHOKHLOMONLEFT+mRIGHT+dRYZHEMvZADERZHKAwELOxVOKrTONALRANGEMARKMRACHNO+fSVETLO",
   "+fTRESVETLOiNEUMECHASHKApELYUSTKAnDEMESTVENNYKLYUCHpRBITSAoOUBLEZAPYATAYAoUDAoVAVCHELNU",
   "nFITAnGOLUBCHIKBORZYwMRACHNYwSVETLYwTIKHYxRESVETLYnKHAMILOoLYUCHoOBYLAoRYUKsTIKHYqZH",
   "oUFISMAnMECHIKtKLYUCHENEPOSTOYANNY+aPOVODNY+aVOYtPOVODNYnNEMKAnOBLAKOoSOKA",
   "sKLYUCHEVAYANEPOSTOYANNAYA+dSVETLAYAtRYUKOVAYASVETLAYAsSVETLAYAsTRESVETLAYAnPALKApRAKLIT",
   "pUKoEREVODKAwNEPOSTOYANNAYAoODCHASHIEpLKULIZMYnREVERSEDCHELYUSTKAoOG",
   "nSKAMEYTSADVOECHELNAYAKLYUCHEVAYA+iNEPOSTOYANNAYA+iPROSTAYA+iSVETLAYA",
   "wKLYUCHENEPOSTOYANNAYA+dVAYASVETLAYA+hTIKHAYAwMRACHNAYAwSVETLAYAwTIKHAYAxRESVETLAYA",
   "oLOZHITIEwSKRYZHEMxZAPYATOYwZAKRYTOEoTATYAtNEPOSTOYANNAYAtSDVUMYAZAPYATYMIuKRYZHEM",
   "+bIZAPYATOYuROGOMuZAPYATOY+cIKRYZHEM+dPODCHASHIEMtZAKRYTAYA+cSZAPYATOYpOPITSAvSOCHKOM",
   "vWITHSOROCHYANOZHKApRELADVOECHELNAYA+fKLYUCHEVAYA+cOKRYZHEVAYA+dPOVODNAYA+mKLYUCHEVAYA",
   "tGROMNAYA+bWITHSINGLEZAPYATAYAxOKRYZHEVAYA+iPOVODNAYAyPOVODNAYA+hWITHDOUBLEZAPYATAYA",
   "+lSINGLEZAPYATAYAtKLYUCHENEPOSTOYANNAYA+aPOVODNAYAuRYUKOVAYA+dGROMNAYA",
   "+lWITHSINGLEZAPYATAYA+hOKRYZHEVAYA+sPOVODNAYA+iPOVODNAYA+rWITHDOUBLEZAPYATAYA",
   "+vSINGLEZAPYATAYA+dPOVODNAYA+dTRYASKAwZHEVAYAtMRACHNOTIKHAYAtNEPOSTOYANNAYAtPOLUPOVODNAYA",
   "vVODNAYAuROSTAYAtTIKHAYAPUTNAYAuRYASOGLASNAYAzPOVODNAYAzSTRELNAYA",
   "nVRAKHIYAKLYUCHEVAYAMRACHNAYA+gPROSTAYA+gSVETLAYA+gTRESVETLAYAvMRACHNAYAvPROSTAYAvSVETLAYA",
   "vTRESVETLAYAnZANOZHEKpPYATAYAoMEYTSAiPRIZNAKMODIFIERDIRECTIONFLIPxKRYZHxLEVEL2+c3xROG",
   "cOTATIONBAGMEMBERSHIPjDOMAINANTIRESTRICTIONjLEFTBINDINGBRACKETnIMAGEBRACKET",
   "jRANGEANTIRESTRICTIONkELATIONALCOMPOSITIONkIGHTBINDINGBRACKEToIMAGEBRACKET",
   "jSCHEMACOMPOSITIONpPIPINGqROJECTIONkPOTjTYPECOLONbOMBIEbWJcNBSPdJcSP"]

end Stepwise.Text.NameTable
