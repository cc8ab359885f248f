/-!
# Names of characters, D to K

The part of the table of names whose first letter is between D and K. How a
name is written is told where the table is searched.
-/

namespace Stepwise.Text.NameTable

/-- The names between D and K. -/
def dToK : List String :=
  ["aDAGGERgKNIFEgWITHLEFTGUARDkRIGHTGUARDcLETSYMBOLcNCERdGOcRKSHADEfUNGLASSEScSHEDLOWLINE",
   "gOVERLINEgTRIANGLEHEADEDRIGHTWARDSARROWeSYMBOLeWITHLEFTUPTURNcTALINKESCAPEbC1c2c3c4cS",
   "bEAFPERSONcCIDUOUSTREEeMALEXPONENTSYMBOLhSEPARATORKEYSYMBOLdREASEFONTSIZESYMBOLcER",
   "cGREECELSIUSgFAHRENHEITgSIGNcLdETEdIVERYTRUCKdTAEQUALTOcNSEHORIZONTALFILLfVERTICALFILL",
   "dTISTRYSYMBOLLIGHTDOWNANDHORIZONTAL+lWITHCIRCLE+pTRIANGLE+pWAVEuUPANDHORIZONTAL",
   "+jWITHCIRCLE+nTRIANGLE+nWAVEuVERTICALANDBOTTOMLEFT+lRIGHT+fTOPLEFT+iRIGHT+fWAVE",
   "+cWITHCIRCLE+gTRIANGLEcPARTMENTSTOREcRELICTHOUSEBUILDINGcSCENDINGNODEdERETCAPITALLETTERAY",
   "uBEEuCHEEuDEEuEFvLvMvNwGvRvSwHvTHvWuGAYuHuJEEuKAYuLONGAzHyEyIyOzOuOIvWuPEEuSHORTA+aHzEzIzO",
   "+aOuTEEvHEEuVEEuWUuYEEuZEEvHEEhSMALLLETTERAYsBEEsCHEEsDEEsEFtLtMtNuGtRtSuHtTHtWsGAYsHsJEE",
   "sKAYsLONGAxHwEwIwOxOsOItWsPEEsSHORTAyHxExIxOyOsTEEtHEEsVEEsWUsYEEsZEEtHEEfTgISLAND",
   "dKTOPCOMPUTERhWINDOWcVANAGARIABBREVIATIONSIGNlCUTEACCENTkCARETkDANDAlIGITEIGHTpFIVEqOUR",
   "pNINEpONEpSEVENqIXpTHREEqWOpZEROlOUBLEDANDAkGAPFILLERlRAVEACCENTkHEADMARKsWITHHEADSTROKE",
   "oSTROKEkJAINOMkLETTERArArIrUrWrYqBArBArHAqCAsNDRAAwEwOrHAqDArDAsDAtHAsHArHAqEqFAqGArGArHA",
   "sHArLOTTALSTOPqHArEAVYYAqIrIqJArHArJAqKArHAsHAqLArLAsLAqMAsRWARIDDAqNArGArNAsNArYAqOrErOE",
   "qPArHAqQAqRArHArRAqSArHAsORTAvEvOrSAqTArHArTAsHAqUrErUsEqVArOCALICLyLxRyRqYArYAqZArHAkOM",
   "kSIGNANUSVARApVAGRAHAoBHALEtWITHHOOKoCANDRABINDUzAVAGRAHAzTHREE+aWOzVIRAMA",
   "oDOUBLECANDRABINDUVIRAMAoEXTENDEDBHALE+bWITHHOOKoHIGHSPACINGDOToINVERTEDCANDRABINDUoMINDU",
   "oNUKTAoPUSHPIKAoREVERSEDNINELIKEBHALEoSIDDHAMpPACINGCANDRABINDUoVIRAMAqSARGA",
   "oWESTERNFIVELIKEBHALEvNINELIKEBHALElTRESSSIGNANUDATTAuUDATTAkVOWELSIGNAAuIuUuWuYtCANDRAE",
   "zLONGEzOtEtIuItOuEuOEtPRISHTHAMATRAEtSHORTEyOtUuEuUvEtVOCALICL+bL+aR+bRdICECONTROLFOURnONE",
   "nSTRINGnTHREEoWObIAERESISdGONALCROSSHATCHFILLdMETERSIGNeONDOPERATORhSHAPEWITHADOTINSIDE",
   "hTARGEThWITHBOTTOMHALFBLACKlLEFTHALFBLACKlRIGHTHALFBLACKlTOPHALFBLACKcEFACE1h2h3h4h5h6",
   "dSELLOCOMOTIVEcFFERENCEBETWEENcGITEIGHTkCOMMAkFULLSTOPfFIVEjCOMMAjFULLSTOPgOURjCOMMA",
   "jFULLSTOPfNINEjCOMMAjFULLSTOPfONEiCOMMAiFULLSTOPfSEVENkCOMMAkFULLSTOPgIXiCOMMAiFULLSTOP",
   "fTHREEkCOMMAkFULLSTOPgWOiCOMMAiFULLSTOPfZEROjCOMMAjFULLSTOPdRAMFOREARTHoLYHEAVENrUMAN",
   "jGREATERYANGrINjHEAVENLYEARTHkUMANEARTHjLESSERYANGqINcMENSIONORIGIN",
   "cNGBATCIRCLEDSANSSERIFDIGITEIGHT+cFIVE+dOUR+cNINE+cONE+cSEVEN+dIX+cTHREE+dWO+cZERO",
   "xNUMBERTENhNEGATIVECIRCLEDDIGITEIGHT+bFIVE+cOUR+bNINE+bONE+bSEVEN+cIX+bTHREE+cWOwNUMBERTEN",
   "wSANSSERIFDIGITEIGHT+kFIVE+lOUR+kNINE+kONE+kSEVEN+lIX+kTHREE+lWO+kZERO+fNUMBERTEN",
   "cRECTCURRENTSYMBOLFORMTWOgHITcSABLEDCARePPOINTEDBUTRELIEVEDFACEmFACE",
   "dCONTINUOUSUNDERLINESYMBOLdGUISEDFACEdTORTEDFACEcTTOMARKcVESAKURUDIGITEIGHTpFIVEqOURpNINE",
   "pONEpSEVENqIXpTHREEqWOpZEROlOUBLEDANDAkENDOFTEXTMARKkGAPFILLERkINITIALRAkLETTERArAqBArHA",
   "qCArHAqDArDAsHArHAqEqGArHAqHAqIrIqJAqKArHAqLArLAqMAqNArGArNArYAqOqPArHAqRAqSArHArSAqTArHA",
   "rTAqUrUqVAqYArYAqZAkMEDIALRAqYAkPREFIXEDNASALSIGNkSIGNANUSVARAoCANDRABINDUoHALANTAoNUKTA",
   "kVIRAMAlOWELSIGNAAuItEtIuItOtUuUdIDESeNGMASKeSIONSIGNjLASHiTIMESdORCESYMBOLcYALAMPcZZYFACE",
   "fSYMBOLbLEbNADOUBLEHELIXbOCUMENTiWITHPICTUREmTEXTqANDPICTUREcDOcESNOTCONTAINASMEMBER",
   "qNORMALSUBGROUP+eOREQUALhDIVIDEnWITHREVERSEDNEGATIONSLASHhFORCEhPRECEDEoOREQUALjOVE",
   "hSUCCEEDoOREQUALcGdFACEdRAABBREVIATIONSIGNfLETTERAmAmImUlBAmHAlCAmHAlDAmDAnHAmHAlElGAmHA",
   "lHAlImIlJAmHAlKAmHAlLAlMAlNAmGAmNAmYAlOlPAmHAlRAmRAlSAmHAmSAlTAmHAmTAnHAlUmUlVAlYA",
   "fSIGNANUSVARAjNUKTAjVIRAMAlSARGAfVOWELSIGNAApIpUoEoIpIoOoUpUoVOCALICRwRcLLARSIGNdPHIN",
   "cMINOTILEHORIZONTAL0000x1x2x3x4x5x6v100x1x2x3x4x5x6v200x1x2x3x4x5x6v300x1x2x3x4x5x6v400x1",
   "x2x3x4x5x6v500x1x2x3x4x5x6v600x1x2x3x4x5x6uBACKkVERTICAL0000v1v2v3v4v5v6t100v1v2v3v4v5v6",
   "t200v1v2v3v4v5v6t300v1v2v3v4v5v6t400v1v2v3v4v5v6t500v1v2v3v4v5v6t600v1v2v3v4v5v6sBACK",
   "cNGSIGNdKEYdOTLITTERSYMBOLcORcTABOVEdMINUSdOPERATORdPLUSdTEDCIRCLEhROSSgFENCEgLINEFACE",
   "gOBELOSgRIGHTPOINTINGANGLEgSOLIDUShQUAREgTRANSPOSITIONMARKERcUBLEACUTEACCENT",
   "gCIRCLEDDIGITEIGHTsFIVEtOURsNINEsONEsSEVENtIXsTHREEtWOnNUMBERTENhOLONEQUALhURLYLOOPgDAGGER",
   "hFEMALESIGNhMALESIGNhOWNTACKhSYMBOLgENDEDMULTIMAPhXCLAMATIONMARK",
   "gHIGHREVERSED9QUOTATIONMARKhYPHENgINTEGRALkRSECTIONgLEFTARCGREATERTHANBRACKET",
   "hINEEQUALTOORGREATERTHANtLESSTHANkSLANTEDEQUALTOORGREATERTHAN+aLESSTHAN",
   "rGREATERTHANOREQUALTOrLESSTHANOREQUALTOhOGICALANDnORiW9QUOTATIONMARKjLINE",
   "jREVERSED9QUOTATIONMARKgNESTEDGREATERTHANmLESSTHANuWITHUNDERBARgOBLIQUEHYPHENgPLUShRECEDES",
   "iIMElQUOTATIONMARKgQUESTIONMARKgRIGHTARCLESSTHANBRACKETgSOLIDUSOPERATORhQUAREINTERSECTION",
   "mUNIONhTACKEDCOMMAiROKENOTSIGNjUCKCAPITALCtGAMMAtHtNtPuItQtRtZmITALICCAPITALDsSMALLDxExIxJ",
   "mNARYSUMMATIONmSMALLGAMMArPIhUBSETiCCEEDSiPERSETiSPENSIONMARKgUNIONhPTACKgVERTICALBAR",
   "rDOUBLELEFTTURNSTILExRIGHTTURNSTILErLEFTTURNSTILEoLINEgWAVYOVERLINEdGHNUTcVEOFPEACE",
   "cWNARROWHEADeFACINGSNAKEHEADWITHCLOSEDMOUTHxOPENMOUTHfISHTAILePOINTINGAIRPLANEnTOMICBOMB",
   "mENERGYWAVEmFROGmRACINGCARnEDTRIANGLEnIFLEnOCKETSHIPmSMALLREDTRIANGLEnTICKFIGURE",
   "mTRIANGLEWITHLEFTHALFBLACKyRIGHTHALFBLACKeRIGHTDIAGONALELLIPSISeTACKiWITHCIRCLEBELOW",
   "eWARDFACINGHOOKsWITHDOToNOTCHEDHOOKzWITHDOTiSANCORAkRROWoANDRIGHTONEEIGHTHBLOCKoFROMBAR",
   "oLEFTWARDSOFUPWARDSARROWoTOBARoWITHCORNERLEFTWARDSsDOUBLESTROKEsEQUILATERALARROWHEAD",
   "sHORIZONTALSTROKEsLARGETRIANGLEARROWHEADsMEDIUMTRIANGLEARROWHEADsNOTCHEDTAIL",
   "sSMALLEQUILATERALARROWHEADxTRIANGLEARROWHEADsTIPLEFTWARDSvRIGHTWARDSjBLACKARROWtTOBAR",
   "oCIRCLEDWHITEARROWjCOMPRESSEDARROWjDASHEDARROWkOUBLEARROWjFINGERPOSTARROW",
   "jHARPOONWITHBARBLEFTBESIDEDOWNWARDSHARPOONWITHBARBRIGHT+iUPWARDSHARPOONWITHBARBRIGHT",
   "+cFROMBAR+cTOBAR+cWARDSyRIGHTFROMBAR+dTOBAR+dWARDSkEAVYARROWoCOMPRESSEDARROWjPAIREDARROWS",
   "jQUADRUPLEARROWjROCKETjSANSSERIFARROWkQUAREDARROWjTRIANGLEARROWHEADrHEADEDARROW",
   "+cLEFTWARDSOFUPWARDSTRIANGLEHEADEDARROW+cTOBAR+cWITHBOLDSHAFT+gDOUBLEHORIZONTALSTROKE",
   "+gHEAVYSHAFT+gLONGTIPLEFTWARDS+nRIGHTWARDS+gMEDIUMSHAFT+gNARROWSHAFT+gVERYHEAVYSHAFT",
   "xDASHEDARROWxPAIREDARROWSxZIGZAGARROWmPLEARROWkWOHEADEDARROWxWITHTRIANGLEARROWHEADS",
   "jWHITEARROWtWITHINTRIANGLEARROWHEADjZIGZAGARROWbRACHMASIGNdFTINGPOINTRIGHTWARDSARROWdGON",
   "gFACEcESScIVESLOWSIGNcOMEDARYCAMELdOLINGFACEdPLETeOFBLOODcUMWITHDRUMSTICKSbUCKcMPLING",
   "cPLOYANAFFIXATTACHEDEHOOKvIHOOKvLEFTTORIGHTSECANTvSECANTvTAILxNGENT+cHOOKnHIGHACUTErCIRCLE",
   "rDOTrGRAVErLINEsONGGRAVErTIGHTACUTErVERTICALzSECANTrWAVEnLEFTHORIZONTALSECANToOWACUTErRROW",
   "qCIRCLEqDOTqGRAVEqLINErONGGRAVEqTIGHTACUTEqVERTICALySECANTqWAVEnMIDHORIZONTALSECANT",
   "qVERTICALSECANTnRIGHTHORIZONTALSECANTiDOUBLEMARKiLETTERApOUoBoDpHpSoEpEpUoFpNoGpRSoHpLoIpE",
   "oJpMqSpNqSpSqWITHDOTpWITHDOTwSINSIDEANDABOVEoKpKpMpRSoLpHpONGIsUoMpNqSpSpWITHDOToNpASALAtI",
   "tOtUpMqSpSpWITHDOToOpApOHpUpWoPpERNINAMvNpNoRpHpOMANIANIwUpSoSpHORTIpJqSpKqRpLOANANtDHtEE",
   "uHuNtJtONuWtUpMpNpPqRpSpTqRpWITHDOTwBELOWoTpHpRSpSoUpHpIpNoVpOCALICMoWpApEIpHpIpOqWpRoXpW",
   "oYEiPUNCTUATIONCHINOOKFULLSTOPiSIGNOWITHCROSSiTHICKLETTERSELECTORbVDaEAGLEcRdOFMAIZEfRICE",
   "dTHfGLOBEAMERICASlSIAAUSTRALIAkEUROPEAFRICAgROUNDdWITHHEARINGAIDcSTSYRIACCROSS",
   "bDITORIALCORONISbGERIAcGcYPTIANHIEROGLYPHA001v2v3v4v5wAv6wAwBv7v8v9u10v1v2v3v4wAv5v6v7wAv8",
   "v9u20v1v2v3v4v5v6v7v8v9u30v1v2wAv3v4v5v6v7v8v9u40wAv1v2wAv3wAv4v5wAv6v7v8v9u50v1v2v3v4v5v6",
   "v7v8v9u60v1v2v3v4v5v6v7v8v9u70tA001w2w3w4w5w6w7xAxBw8w9v10w1w2w3w4w5w6w7w8w9v20w1w2w3w4w5",
   "w6w7w8w9v30w1w2sB001v2v3v4v5wAv6v7v8v9tEGINENCLOSURExSEGMENTxWALLEDENCLOSUREsC001v2wAwBwC",
   "v3v4v5v6v7v8v9u10wAv1v2v3v4v5v6v7v8v9u20v1v2v3v4sD001v2v3v4v5v6v7v8wAv9u10v1v2v3v4v5v6v7v8",
   "v9u20v1v2v3v4v5v6v7wAv8v9u30v1wAv2v3v4wAv5v6v7v8v9u40v1v2v3v4v5v6wAv7v8wAv9u50wAwBwCwDwEwF",
   "wGwHwIv1v2wAv3v4wAv5v6v7v8v9u60v1v2v3v4v5v6v7wAwBwCwDwEwFwGwHsE001v2v3v4v5v6v7v8wAv9wAu10",
   "v1v2v3v4v5v6wAv7wAv8v9u20wAv1v2v3v4v5v6v7v8wAv9u30v1v2v3v4wAv6v7v8tNDENCLOSUREvSEGMENT",
   "vWALLEDENCLOSUREsF001wAv2v3v4v5v6v7v8v9u10v1v2v3wAv4v5v6v7v8v9u20v1wAv2v3v4v5v6v7v8v9u30v1",
   "wAv2v3v4v5v6v7wAv8wAv9u40v1v2v3v4v5wAv6wAv7wAv8v9u50v1wAwBwCv2v3tULLBLANKsG001v2v3v4v5v6wA",
   "v7wAwBv8v9u10v1wAv2v3v4v5v6v7v8v9u20wAv1v2v3v4v5v6wAv7v8v9u30v1v2v3v4v5v6wAv7wAv8v9u40v1v2",
   "v3wAv4v5wAv6v7v8v9u50v1v2v3v4sH001v2v3v4v5v6wAv7v8tALFBLANKwLOSTSIGNtORIZONTALJOINERsI001",
   "v2v3v4v5wAv6v7v8v9wAu10wAv1wAv2v3v4v5tNSERTATBOTTOM+gEND+gSTART+aMIDDLE+aTOP+dEND+dSTART",
   "sK001v2v3v4v5v6v7v8sL001v2wAv3v4v5v6wAv7v8tOSTSIGNsM001wAwBv2v3wAv4v5v6v7v8v9u10wAv1v2wAwB",
   "wCwDwEwFwGwHv3v4v5wAv6wAv7wAv8v9u20v1v2wAv3v4wAv5v6v7v8wAv9u30v1wAv2v3wAwBv4v5v6v7v8v9u40",
   "wAv1v2v3v4tIRRORHORIZONTALLYtODIFIERDAMAGED+hATBOTTOM+pANDEND+pEND+pSTART+uANDTOPEND+jEND",
   "+jSTART+oANDBOTTOM+rTOP+jTOP+mANDEND+mEND+mSTART+rANDBOTTOMENDsN001v2v3v4v5v6v7v8v9u10v1v2",
   "v3v4v5v6v7v8wAwBv9u20v1v2v3v4v5wAv6v7v8v9u30v1v2v3wAv4wAv5wAv6v7wAv8v9u40v1v2tL001w2w3w4w5",
   "xAw6w7w8w9v10w1w2w3w4w5w6w7xAw8w9v20tU001w2w3w4w5w6w7w8w9v10xAw1xAw2w3w4w5w6w7w8xAw9v20w1",
   "w2xAsO001wAv2v3v4v5wAv6wAwBwCwDwEwFv7v8v9u10wAwBwCv1v2v3v4v5v6v7v8v9wAu20wAv1v2v3v4wAv5wA",
   "v6v7v8v9wAu30wAv1v2v3wAv4v5v6wAwBwCwDv7v8v9u40v1v2v3v4v5v6v7v8v9u50wAwBv1tVERLAYMIDDLE",
   "sP001wAv2v3wAv4v5v6v7v8v9u10v1sQ001v2v3v4v5v6v7sR001v2wAv3wAwBv4v5v6v7v8v9u10wAv1v2v3v4v5",
   "v6wAv7v8v9u20v1v2v3v4v5v6v7v8v9sS001v2wAv3v4v5v6wAv7v8v9u10v1v2v3v4wAwBv5v6v7wAv8v9u20v1v2",
   "v3v4v5v6wAwBv7v8v9u30v1v2v3v4v5wAv6v7v8v9u40v1v2v3v4v5v6sT001v2v3wAv4v5v6v7wAv8wAv9wAu10v1",
   "wAv2v3v4v5v6wAv7v8v9u20v1v2v3v4v5v6v7v8v9u30v1v2wAv3wAv4v5v6tALLLOSTSIGNsU001v2v3v4v5v6wA",
   "wBv7v8v9u10v1v2v3v4v5v6v7v8v9u20v1v2v3wAv4v5v6v7v8v9wAu30v1v2wAv3v4v5v6v7v8v9u40v1v2sV001",
   "wAwBwCwDwEwFwGwHwIv2wAv3v4v5v6v7wAwBv8v9u10v1wAwBwCwDv2wAwBv3v4v5v6v7v8v9u20wAwBwCwDwEwFwG",
   "wHwIwJwKwLv1v2v3wAv4v5v6v7v8wAv9wAu30wAv1wAv2v3wAv4v5v6v7wAv8v9u40wAtERTICALJOINERsW001v2",
   "v3wAv4v5v6v7v8v9wAu10wAv1v2v3v4wAv5v6v7wAv8wAv9u20v1v2v3v4wAv5tIDELOSTSIGNsX001v2v3v4wAwB",
   "v5v6wAv7v8wAsY001wAv2v3v4v5v6v7v8sZ001v2wAwBwCwDv3wAwBv4wAv5wAv6v7v8v9u10v1v2v3v4v5wAwBwC",
   "wDwEwFwGwHwIv6wAwBwCwDwEwFwGwHbIGHTHNOTEfPETALLEDOUTLINEDBLACKFLORETTEgOINTEDBLACKSTAR",
   "mPINWHEELSTARmRECTILINEARBLACKSTARfRAYSINWARDjOUTWARDfSPOKEDASTERISK",
   "fTEARDROPSPOKEDPROPELLERASTERISKbJECTSYMBOLbLBASANLETTERAnBEnCEoHEnDEoHEnEoInFEnGEoHAMMApE",
   "oJEnHEnInJEnKEoHEnLEoLEnMEnNAoDEoEoJEnOnPEnQEnREoREnSEoHEnTEoHEnUnVEnXEnYnZEoHE",
   "cECTRICALINTERSECTIONjRROWiLIGHTBULBiPLUGiTORCHdMENTOFjOPENINGDOWNWARDSqUPWARDS",
   "jWITHDOTABOVEnLONGHORIZONTALSTROKEnOVERBARnTWOHORIZONTALSTROKESnUNDERBAR",
   "nVERTICALBARATENDOFHORIZONTALSTROKEdPHANTdVATORcFcYMAICLETTERALEPHoYINnBETHnDALETHnGIMEL",
   "nHEpTHnKAPHnLAMEDHnMEMnNUNnPEnQOPHnRESHnSADHEpMEKHoHINnTAWoETHnWAWnYODHnZAYIN",
   "iIGATUREZAYINYODHbMcAILSYMBOLcDASHcOJICOMPONENTBALDoCURLYHAIRoREDHAIRoWHITEHAIR",
   "fMODIFIERFITZPATRICKTYPE12+c3+c4+c5+c6cPHASISSYMBOLdTYDOCUMENTfNESTgOTEjPADlGEfPAGEjSfSET",
   "iWITHLEFTARROWABOVEmOVERBARmRIGHTARROWABOVEmSMALLCIRCLEABOVEcQUADcSPACEbNDASH",
   "dOFGUARDEDAREAfLINEfMEDIUMfPROOFiTECTEDAREAfSELECTEDAREAfTEXTgRANSMISSIONrBLOCK",
   "dWITHLEFTWARDSARROWABOVEcQdUADeIRYcSPACEcTERSYMBOLcVELOPEiWITHDOWNWARDSARROWABOVE",
   "mLIGHTNINGbOLcMcTbPAbQUALANDPARALLELTOfSCOLONgSIGNkABOVELEFTWARDSARROWpPLUSSIGN",
   "pRIGHTWARDSARROWpTILDEOPERATORlNDSLANTEDPARALLEL+cWITHTILDEABOVEkWITHBUMPYABOVEoDOTBELOW",
   "oINFINITYABOVEwBELOWoTWODOTSABOVEANDTWODOTSBELOWgWITHASTERISKfTOBYDEFINITIONhORGREATERTHAN",
   "jLESSTHANjPRECEDESjSUCCEEDSdIANGULARTOeVALENTTOkWITHFOURDOTSABOVEbRASETOTHELEFTkRIGHT",
   "cISFORMONEiTWOcRORBARREDBLACKCIRCLEqDIAMONDqSQUARElWHITECIRCLEqDIAMONDqSQUAREbSAcCdAPE",
   "cTIMATEDSYMBOLiSbTBcHIOPICCOLONkMBININGGEMINATIONANDVOWELLENGTHMARK+bMARKrVOWELLENGTHMARK",
   "lMAiDIGITEIGHTnFIVEoOURnNINEnONEnSEVENoIXnTHREEoWOiFULLSTOPiNUMBEREIGHTYoFIFTYpORTY",
   "oHUNDREDoNINETYoSEVENTYpIXTYoTENrTHOUSANDpHIRTYpWENTYiPARAGRAPHSEPARATORjREFACECOLON",
   "iQUESTIONMARKiSECTIONMARKkMICOLONjYLLABLEBAsArBAtAsEtEsIsOsUrEsErIrOsArUrWAsEtEsIqCAsArCA",
   "tAsEtEsHAuAtEuEtHAvAuEvEuIuOuUtItOtUsIsOsUrEsErHAtAsEtEsIsOtAsUsWArIrOsArUrWAqDAsArDAtAsE",
   "tEsHAAtEuEtItOtUsIsOtAsUsWArEsErIrOsArUrWArZAAsEtEsIsOsUqFAsArEsErIrOrUrWAsEtEsIrYAqGAsArE",
   "sErGAtAsEtEsIsOsUsWAuAtEuEtIrIrLOTTALAyAxEyExIxOyAxUxWArOsArUsRAGEBWEEyIwFWEEyIwGWEzEyI",
   "wHHWAwKWEzEyIwMWEEyIwPWEEyIwQWEzEyIrWAtAsEtEsIrYAtAsEtEsIsOsUqHAsArEsErHAtAsEtEsIsOsUsWAtE",
   "uEtIsYAuAtEuEtItOtUrIrOsArUqJAsArEsErIrOsArUrWAqKAsArEsErIrOsArUrWAtAsEtEsIrXAtAsEtEsIsOsU",
   "sWAuAtEuEtIrYAtAsEtEsIsOsUqLAsArEsErIrOsArUrWAqMAsArEsErIrOsArUrWAsEtEsIrYAqNAsArEsErIrOsA",
   "rUrWArYAtAsEtEsIsOtAsUsWAqPAsArEsErHAtAtRYNGEALA+bA+aE+bE+aI+aO+aUsEtEsIsOtAsUsWArIrOsArU",
   "rWAsEtEsIqQAsArEsErHAtAsEtEsIsOsUsWAuAtEuEtIrIrOsArUrWAtAsEtEsIrYAtAsEtEsIsOsUqRAsArEsErI",
   "rOsArUrWArYAqSAsArEsBATBEITBWAzFWAzMWAzPWAsErHAtAsEtEsIsOtAsUsWArIrOsArSAtAsEtEsIsOsUrUrWA",
   "rZAtAsEtEsIsOsUsWAqTAsArEsErHAtAsEtEsIsOtAsUsWArIrOsArSAtAsEtEsIsOsUsWArTHAAtEuEtItOtUrU",
   "rWArZAtAsEtEsIsOtAsUqVAsArEsErIrOrUrWAqWAsArEsErIrOsArUqXAsArEsErIrOsArUrWAtAsEtEsIrYAtAsE",
   "tEsIsOsUqYAsArEsErIrOsArUqZAsArEsErHAtAsEtEsIsOsUsWArIrOsArUrWArZAtAsEtEsIsOsU",
   "iTONALMARKCHIRETrDERETwHIDETsIFATrHIDETrKENATsURTrRIKRIKrSHORTRIKRIKrYIZETiWORDSPACEcX",
   "bULERCONSTANTcNOMIAcROCURRENCYSIGNePEANCASTLEiPOSTOFFICEeSIGNbVERGREENTREEbXCESS",
   "dLAMATIONMARKlQUESTIONMARKcPLOSIONATHORIZONjFRAME1o2o3dRESSIONLESSFACE",
   "cTENDEDARABICINDICDIGITEIGHTyFIVEzOURyNINEyONEySEVENzIXyTHREEzWOyZEROdRATERRESTRIALALIEN",
   "eEMELYHEAVYFIVESPOKEDASTERISKoGREEKCROSSoSALTIREpIXSPOKEDASTERISKoWHITECIRCLEtSQUAREbYE",
   "dGLASSESdSaFACEHOLDINGBACKTEARSeMASSAGEePALMeSAVOURINGDELICIOUSFOODfCREAMINGINFEAR",
   "eTHROWINGAKISSeWITHBAGSUNDEREYESiCOLDSWEATkWBOYHATiDIAGONALMOUTHiFINGERCOVERINGCLOSEDLIPS",
   "iHEADBANDAGEiLOOKOFTRIUMPHiMEDICALMASKjONOCLEiNOGOODGESTUREiOKGESTUREjNEEYEBROWRAISED",
   "jPENEYESANDHANDOVERMOUTHmMOUTHrANDCOLDSWEATrVOMITINGjUTMOUTHiPARTYHORNANDPARTYHAT",
   "jEEKINGEYEjLEADINGEYESiROLLINGEYESiSTUCKOUTTONGUEwANDTIGHTLYCLOSEDEYESzWINKINGEYE",
   "iTEARSOFJOYjHERMOMETERiUNEVENEYESANDWAVYMOUTHdSIMILESIGNdTORYcIRYcLAFELdLENLEAF",
   "eINGDIAGONALCROSSINGNORTHEASTARROWxRISINGDIAGONALpINWHITECIRCLEINBLACKSQUAREcMILY",
   "cRSISYMBOLcTHERCHRISTMAScXICONdMACHINEbEARFULFACEdTHERcMALESIGNdININEORDINALINDICATORcNCER",
   "cRRISWHEELeYbFbIELDHOCKEYSTICKANDBALLcGHTCLOUDdUREDASHgSPACEcLECABINETeFOLDEReSEPARATOR",
   "dMFRAMESePROJECTORcNGERPRINTdITEPARTINTEGRALcREeCRACKEReENGINEfXTINGUISHEReWORKSjPARKLER",
   "dSTPLACEMEDALfQUARTERMOONqSYMBOLqWITHFACEfSTRONGISOLATEcSHeCAKEWITHSWIRLDESIGNeEYE",
   "eINGPOLEANDFISHdTEDHANDSIGNcVEDOTMARKhPUNCTUATIONbLAGINHOLEdMINGOdPPINGBIRDdTBREADeNESS",
   "eSHOEcEURDELISdXEDBICEPScOPPYDISKdRAfLHEARTdWERgPLAYINGCARDShUNCTUATIONMARKcUSHEDFACEdTEcY",
   "dINGDISCgENVELOPEgSAUCERmSYMBOLmWITHBEAMSqOUTBEAMSbOGdGYcLDEReINGHANDFANcNDUEcOTePRINTS",
   "cRALLdCESdKANDKNIFEmWITHPLATEeEDPARAGRAPHOSeINGdMFEEDdTUNAgECOOKIEcUNTAIN",
   "dRBALLOONSPOKEDASTERISKeCLUBSPOKEDASTERISKfORNERARROWSCIRCLINGANTICLOCKWISEeDOTMARK",
   "hPUNCTUATIONeLEAFCLOVERePEREMSPACEfOINTEDBLACKSTAReTEARDROPSPOKEDASTERISKfHROOTcXFACE",
   "bRACTIONNUMERATORONEiSLASHdGILESYMBOLdMEWITHANXjPICTUREjTILEScEEZINGFACEdNCHFRANCSIGNiIES",
   "cIEDSHRIMPcOGFACEdNTFACINGBABYCHICKfTILTEDSHADOWEDWHITERIGHTWARDSARROWdWN",
   "fINGFACEWITHOPENMOUTHbScIbUELPUMPcLLBLOCKeMOONSYMBOLiWITHFACEeOUTERJOINeSTOP",
   "eWIDTHAMPERSANDkPOSTROPHEkSTERISKjBROKENBARjCENTSIGNkIRCUMFLEXACCENTkOLONlMMAnERCIALAT",
   "jDIGITEIGHToFIVEpOURoNINEoONEoSEVENpIXoTHREEpWOoZEROkOLLARSIGNjEQUALSSIGNkXCLAMATIONMARK",
   "jFULLSTOPjGRAVEACCENTlEATERTHANSIGNjHYPHENMINUSjLATINCAPITALLETTERA+bB+bC+bD+bE+bF+bG+bH",
   "+bI+bJ+bK+bL+bM+bN+bO+bP+bQ+bR+bS+bT+bU+bV+bW+bX+bY+bZoSMALLLETTERAzBzCzDzEzFzGzHzIzJzKzL",
   "zMzNzOzPzQzRzSzTzUzVzWzXzYzZkEFTCURLYBRACKETnPARENTHESISnSQUAREBRACKETnWHITEPARENTHESIS",
   "lSSTHANSIGNkOWLINEjMACRONjNOTSIGNkUMBERSIGNjPERCENTSIGNkLUSSIGNkOUNDSIGNjQUESTIONMARK",
   "lOTATIONMARKjREVERSESOLIDUSkIGHTCURLYBRACKEToPARENTHESISoSQUAREBRACKEToWHITEPARENTHESIS",
   "jSEMICOLONkOLIDUSjTILDEjVERTICALLINEjWONSIGNjYENSIGNcNCTIONAPPLICATIONdERALURNdNELcSEbVS1",
   "d2d3d4aGAMEDIEcRAYCAPITALLETTERAsBAsCAsDAsFAsGAsHAsJAsKAsLAsMAsNAtYAsOLDKAvNAsPAsRAsSAsTA",
   "sWAsXAsYAgOMBININGDOTABOVEqUBLEDOTABOVEhNSONANTGEMINATIONMARKoNASALIZATIONMARKfDIGITEIGHT",
   "kFIVElOURkNINEkONEkSEVENlIXkTHREElWOkZEROfHYPHENfMINUSSIGNfPLUSSIGNfREDUPLICATIONMARK",
   "fSMALLLETTERAqBAqCAqDAqFAqGAqHAqJAqKAqLAqMAqNArYAqOLDKAtNAqPAqRAqSAqTAqWAqXAqYAgUKUN",
   "fVOWELLENGTHMARKkSIGNAoEpEoIoOdLICbEAReWITHHANDLESiOUTHUBcMINIdSTONEcNIE",
   "cOMANTICFIGUREACQUISITIOqLBUSqMISSIOpCAPUTDRACONISrRCERrUDADRACONISqONJUNCTIOpFORTUNAMAJOR",
   "xINORpLAETITIApPOPULUSqUELLAsRpRUBEUSpTRISTITIApVIAeETRICALLYEQUALTOqIVALENTTOjPROPORTION",
   "dRGIANCAPITALLETTERAENwNvBANvCANwHARxINwILvDONvENvGANwHANvHAExRwEwIEwOEvINvJHANwILvKANwHAR",
   "vLASvMANvNARvONvPARwHARvQARvRAEvSANwHINvTANxRvUNvVINvWEvXANvYNvZENwHARiLETTERAENpINpNoBAN",
   "oCANpHARqINpILoDONoELIFIpNoFIoGANpHANoHAEqRrDSIGNpEpIEpOEoINoJHANpILoKANpHARoLABIALSIGNqS",
   "oMANoNARoONoPARpHARoQARoRAEoSANpHINoTANqRpURNEDGANoUNoVINoWEoXANoYNoZENpHAR",
   "iMTAVRULICAPITALLETTERAEN+eIN+eN+dBAN+dCAN+eHAR+fIN+eIL+dDON+dELIFI+eN+dFI+dGAN+eHAN+dHAE",
   "+fR+gDSIGN+eE+eIE+eOE+dIN+dJHAN+eIL+dKAN+eHAR+dLABIALSIGN+fS+dMAN+dNAR+dON+dPAR+eHAR+dQAR",
   "+dRAE+dSAN+eHIN+dTAN+fR+eURNEDGAN+dUN+dVIN+dWE+dXAN+dYN+dZEN+eHARiPARAGRAPHSEPARATOR",
   "iSMALLLETTERAENuNtBANtCANuHARvINuILtDONtENtGANuHANtHAEvRuEuIEuOEtINtJHANuILtKANuHARtLAS",
   "tMANtNARtONtPARuHARtQARtRAEtSANuHINtTANvRtUNtVINtWEtXANtYNtZENuHARcRMANPENNYSIGNcTAMARK",
   "bHOSTbIMELSYMBOLcNGERROOTcRAFFEFACEdLeSSYMBOLbLAGOLITICCAPITALLETTERAZUxBIGYUSyUKY",
   "xCAUDATECHRIVIyHRIVIxDJERVIyOBROyZELOxFITAyRITUxGLAGOLIxHERUxIyNITIALIZHEyOTATEDBIGYUS",
   "+eSMALLYUSyZHE+aITSAxKAKOxLATINATEMYSLITEyJUDIJExMYSLITExNASHIxONUyTUxPEyOKOJIxRITSIxSHA",
   "zTA+bPICyLOVOyMALLYUS+fWITHTAILyPIDERYHAxTROKUTASTIAySIyVRIDOxUKUxVEDExYATIyERI+aUzSTUyOyU",
   "xZEMLJAyHIVETEkSMALLLETTERAZUvBIGYUSwUKYvCAUDATECHRIVIwHRIVIvDJERVIwOBROwZELOvFITAwRITU",
   "vGLAGOLIvHERUvIwNITIALIZHEwOTATEDBIGYUS+cSMALLYUSwZHEyITSAvKAKOvLATINATEMYSLITEwJUDIJE",
   "vMYSLITEvNASHIvONUwTUvPEwOKOJIvRITSIvSHAxTAzPICwLOVOwMALLYUS+dWITHTAILwPIDERYHA",
   "vTROKUTASTIAwSIwVRIDOvUKUvVEDEvYATIwERIyUxSTUwOwUvZEMLJAwHIVETEdSSOFMILKcEICHSTARK",
   "cOBEWITHMERIDIANSdVESdWINGSTARbOALNETdTcGGLEScLFERcNGGONGcOSEcRILLAcTHICLETTERAHSAnIHVUS",
   "mBAIRKANmDAGSmEISmFAIHUmGIBAmHAGLnWAIRmIGGWSnUJAmJERmKUSMAmLAGUSmMANNAmNAUTHSnINEHUNDRED",
   "qTYmOTHALmPAIRTHRAmQAIRTHRAmRAIDAmSAUILmTEIWSnHIUTHmURUSmWINJAbRADUATIONCAP",
   "dNTHAAULENGTHMARKhLETTERAoAoIoUnBAoHAnCAoHAnDAoDApHAoHAnEEnGAoHAnHAnIoInJAoHAnKAoHAnLAoLA",
   "nMAnNAoGAoNAoYAnOOnPAoHAnRAnSAoHAoSAnTAoHAoTApHAnUoUnVAoEDICANUSVARAsDOUBLEANUSVARA",
   "oOCALICLvLuRvRnYAhOMhSIGNANUSVARAmVAGRAHAlCANDRABINDUmOMBININGANUSVARAABOVElNUKTAlPLUTA",
   "lVIRAMAnSARGAhVOWELSIGNAArIrUqEEqIrIqOOqUrUqVOCALICLyLxRyRdPESdVEACCENT",
   "cEATERTHANABOVEDOUBLELINEEQUALABOVELESSTHANqLESSTHANABOVEDOUBLELINEEQUALqRIGHTWARDSARROW",
   "qSIMILARABOVELESSTHANxOREQUALrLANTEDEQUALABOVELESSTHANABOVESLANTEDEQUALmNDNOTAPPROXIMATE",
   "oSINGLELINENOTEQUALTOlBESIDELESSTHANmUTNOTEQUALTOuIVALENTTOlCLOSEDBYCURVE",
   "yABOVESLANTEDEQUALlEQUALTOORLESSTHANlORAPPROXIMATEnEQUALTOqIVALENTTOnLESSTHAN",
   "nSLANTEDEQUALTO+bWITHDOTABOVE+nLEFT+iINSIDEmVEREQUALTOpLAPPINGLESSTHANlSIGN",
   "lWITHCIRCLEINSIDEpDOTpQUESTIONMARKABOVEdEKACROPHONICATTICFIFTYzSTATERSzTALENTS+aHOUSAND",
   "+hSTATERSwVEyHUNDRED+fSTATERS+fTALENTSySTATERSyTALENTSzHOUSAND+gTALENTSuONEDRACHMAxHALF",
   "yUNDREDSTATERS+eTALENTSxQUARTERxTHOUSANDSTATERS+fTALENTSuTENMNASxSTATERSxTALENTS",
   "yHOUSANDSTATERSpCARYSTIANFIVEHUNDREDqYRENAICTWODRACHMASpDELPHICFIVEMNAS",
   "pEPIDAUREANFIVEHUNDREDzTWO+cDRACHMASpHERAEUMONEPLETHRONsMIONIANFIFTYzONEzTENpMESSENIANTEN",
   "pNAXIANFIVEHUNDREDpSTRATIANFIFTYMNASpTHESPIANFIFTYzVEHUNDRED+bTHOUSANDxONE+aHUNDRED",
   "+aTHOUSANDxTENyHIRTYzREEHUNDREDyWOqROEZENIANFIFTY+eALTERNATEFORM+bVE+dHUNDREDzTEN",
   "+cALTERNATEFORMgNOTELEIAgROURASIGNhTABESIGNfBETASYMBOLfCAPITALDOTTEDLUNATESIGMASYMBOL",
   "mKAISYMBOLmLETTERALPHAxWITHDASIA+gANDOXIA+nANDPROSGEGRAMMENI+jPERISPOMENI",
   "+uANDPROSGEGRAMMENI+kROSGEGRAMMENI+jVARIA+oANDPROSGEGRAMMENI+bMACRON+bOXIA+bPROSGEGRAMMENI",
   "+cSILI+gANDOXIA+nANDPROSGEGRAMMENI+jPERISPOMENI+uANDPROSGEGRAMMENI+kROSGEGRAMMENI+jVARIA",
   "+oANDPROSGEGRAMMENI+bTONOS+bVARIA+cRACHYtRCHAICSAMPIsBETAsCHIsDELTAsEPSILONzWITHDASIA",
   "+iANDOXIA+lVARIA+dOXIA+dPSILI+iANDOXIA+lVARIA+dTONOS+dVARIAtTAvWITHDASIA+eANDOXIA",
   "+lANDPROSGEGRAMMENI+hPERISPOMENI+sANDPROSGEGRAMMENI+iROSGEGRAMMENI+hVARIA",
   "+mANDPROSGEGRAMMENIzOXIAzPROSGEGRAMMENI+aSILI+eANDOXIA+lANDPROSGEGRAMMENI+hPERISPOMENI",
   "+sANDPROSGEGRAMMENI+iROSGEGRAMMENI+hVARIA+mANDPROSGEGRAMMENIzTONOSzVARIAsGAMMAsHETAsIOTA",
   "wWITHDASIA+fANDOXIA+iPERISPOMENI+iVARIA+bIALYTIKA+aMACRON+aOXIA+aPSILI+fANDOXIA",
   "+iPERISPOMENI+iVARIA+aTONOS+aVARIA+bRACHYsKAPPAsLAMDAsMUsNUsOMEGAxWITHDASIA+gANDOXIA",
   "+nANDPROSGEGRAMMENI+jPERISPOMENI+uANDPROSGEGRAMMENI+kROSGEGRAMMENI+jVARIA",
   "+oANDPROSGEGRAMMENI+bOXIA+bPROSGEGRAMMENI+cSILI+gANDOXIA+nANDPROSGEGRAMMENI+jPERISPOMENI",
   "+uANDPROSGEGRAMMENI+kROSGEGRAMMENI+jVARIA+oANDPROSGEGRAMMENI+bTONOS+bVARIAuICRONzWITHDASIA",
   "+iANDOXIA+lVARIA+dOXIA+dPSILI+iANDOXIA+lVARIA+dTONOS+dVARIAsPAMPHYLIANDIGAMMAtHItItSIsRHO",
   "vWITHDASIAsSANtHOtIGMAsTAUtHETAsUPSILONzWITHDASIA+iANDOXIA+lPERISPOMENI+lVARIA+eIALYTIKA",
   "+dMACRON+dOXIA+dTONOS+dVARIA+eRACHYsXIsYOTsZETAnUNATESIGMASYMBOL",
   "mREVERSEDDOTTEDLUNATESIGMASYMBOLuLUNATESIGMASYMBOLmTHETASYMBOLfDASIAkANDOXIAnPERISPOMENI",
   "nVARIAgIALYTIKAANDOXIArPERISPOMENIrVARIAoTONOSgRACHMASIGNfFIVEOBOLSSIGNgOUROBOLSSIGN",
   "fGRAMMASIGNfINDICTIONSIGNhSTRUMENTALNOTATIONSYMBOL1+g1+g2+g3+g4+g7+g8+g9+f2+g3+g4+g5+g6+g7",
   "+g9+f30+g2+g6+g7+g8+g9+f4+g0+g2+g3+g5+g7+g8+g9+f5+g0+g1+g2+g3+g4+f7+f8fKAISYMBOLhPPASYMBOL",
   "gORONISgYATHOSBASESIGNfLETTERARCHAICKOPPAlDIGAMMAlKOPPAlSAMPImMALLCAPITALGAMMAxLAMDAxOMEGA",
   "xPIySIxRHOmTIGMAlYOTgITRASIGNgOWERNUMERALSIGNgUNATEEPSILONSYMBOLlSIGMASYMBOLfMETRETESSIGN",
   "gUSICALLEIMMAfNUMERALSIGNfOBOLSIGNgNEHALFSIGNqALTERNATEFORMiQUARTERSIGNgUNKIASIGNgXIA",
   "fPERISPOMENIgHISYMBOLgISYMBOLgROSGEGRAMMENIgSILIkANDOXIAnPERISPOMENInVARIAfQUESTIONMARK",
   "fREVERSEDLUNATEEPSILONSYMBOLgHOSYMBOLiWITHSTROKESYMBOLfSINUSOIDSIGN",
   "gMALLDOTTEDLUNATESIGMASYMBOLkLETTERALPHAvWITHDASIA+eANDOXIA+lANDYPOGEGRAMMENI+hPERISPOMENI",
   "+sANDYPOGEGRAMMENI+hVARIA+mANDYPOGEGRAMMENI+hYPOGEGRAMMENIzMACRONzOXIA+dANDYPOGEGRAMMENI",
   "zPERISPOMENI+kANDYPOGEGRAMMENI+aSILI+eANDOXIA+lANDYPOGEGRAMMENI+hPERISPOMENI",
   "+sANDYPOGEGRAMMENI+hVARIA+mANDYPOGEGRAMMENI+hYPOGEGRAMMENIzTONOSzVARIA+eANDYPOGEGRAMMENI",
   "+aRACHYzYPOGEGRAMMENIrRCHAICKOPPAxSAMPIqBETAqCHIqDELTArIGAMMAqEPSILONxWITHDASIA+gANDOXIA",
   "+jVARIA+bOXIA+bPSILI+gANDOXIA+jVARIA+bTONOS+bVARIArTAtWITHDASIA+cANDOXIA+jANDYPOGEGRAMMENI",
   "+fPERISPOMENI+qANDYPOGEGRAMMENI+fVARIA+kANDYPOGEGRAMMENI+fYPOGEGRAMMENIxOXIA",
   "+bANDYPOGEGRAMMENIxPERISPOMENI+iANDYPOGEGRAMMENIySILI+cANDOXIA+jANDYPOGEGRAMMENI",
   "+fPERISPOMENI+qANDYPOGEGRAMMENI+fVARIA+kANDYPOGEGRAMMENI+fYPOGEGRAMMENIxTONOSxVARIA",
   "+cANDYPOGEGRAMMENIxYPOGEGRAMMENIqFINALSIGMAqGAMMAqHETAqIOTAuWITHDASIA+dANDOXIA",
   "+gPERISPOMENI+gVARIAzIALYTIKA+hANDOXIA+kPERISPOMENI+kTONOS+kVARIAyMACRONyOXIAyPERISPOMENI",
   "zSILI+dANDOXIA+gPERISPOMENI+gVARIAyTONOSyVARIAzRACHYqKAPPArOPPAqLAMDAqMUqNUqOMEGA",
   "vWITHDASIA+eANDOXIA+lANDYPOGEGRAMMENI+hPERISPOMENI+sANDYPOGEGRAMMENI+hVARIA",
   "+mANDYPOGEGRAMMENI+hYPOGEGRAMMENIzOXIA+dANDYPOGEGRAMMENIzPERISPOMENI+kANDYPOGEGRAMMENI",
   "+aSILI+eANDOXIA+lANDYPOGEGRAMMENI+hPERISPOMENI+sANDYPOGEGRAMMENI+hVARIA+mANDYPOGEGRAMMENI",
   "+hYPOGEGRAMMENIzTONOSzVARIA+eANDYPOGEGRAMMENIzYPOGEGRAMMENIsICRONxWITHDASIA+gANDOXIA",
   "+jVARIA+bOXIA+bPSILI+gANDOXIA+jVARIA+bTONOS+bVARIAqPAMPHYLIANDIGAMMArHIrIrSIqRHOtWITHDASIA",
   "xPSILIqSAMPIsNrHOrIGMArTIGMAqTAUrHETAqUPSILONxWITHDASIA+gANDOXIA+jPERISPOMENI+jVARIA",
   "+cIALYTIKA+kANDOXIA+nPERISPOMENI+nTONOS+nVARIA+bMACRON+bOXIA+bPERISPOMENI+cSILI+gANDOXIA",
   "+jPERISPOMENI+jVARIA+bTONOS+bVARIA+cRACHYqXIqZETAkREVERSEDDOTTEDLUNATESIGMASYMBOL",
   "sLUNATESIGMASYMBOLgUBSCRIPTSMALLLETTERBETAzCHIzGAMMAzPHIzRHOgYMBOLTAURHOfTALENTSIGN",
   "gHETASYMBOLhREEOBOLSSIGNkQUARTERSSIGNgONOSgRYBLIONBASESIGNgWOOBOLSSIGNiTHIRDSSIGN",
   "fUPSILONWITHACUTEANDHOOKSYMBOLqDIAERESISANDHOOKSYMBOLqHOOKSYMBOLfVARIAgOCALNOTATIONSYMBOL1",
   "z0z1z2z3z4z5z6z7z8z9y2z0z1z2z3z4y3y4y5z0z1z2z3z4y6y7y8y9fXESTESSIGNfYEARSIGNgPOGEGRAMMENI",
   "fZEROSIGNeNAPPLEfBOOKfHEARTfSALADdYHEARTcIMACINGFACEdNNINGCATFACEWITHSMILINGEYESiFACE",
   "mWITHONELARGEANDONESMALLEYEqSMILINGEYESrTAREYEScOUPMARKfSEPARATORdWINGHEARTbSbUARANISIGN",
   "eDSMANcIDEDOGdTARcJARATIABBREVIATIONSIGNiDIGITEIGHTnFIVEoOURnNINEnONEnSEVENoIXnTHREEoWO",
   "nZEROiLETTERApApIpUoBApHAoCApHAoDApDAqHApHAoEoGApHAoHAoIpIoJApHAoKApHAoLApLAoMAoNApGApNA",
   "pYAoOoPApHAoRAoSApHApSAoTApHApTAqHAoUpUoVApOCALICLwLvRwRoYAoZHAiOMiRUPEESIGNiSIGNANUSVARA",
   "nVAGRAHAmCANDRABINDUnIRCLENUKTAABOVEmMADDAHmNUKTAmSHADDAnUKUNmTHREEDOTNUKTAABOVE",
   "nWOCIRCLENUKTAABOVEmVIRAMAoSARGAiVOWELCANDRAEtOnSIGNAAsIsUrCANDRAExOrErIsIrOrUsUrVOCALICL",
   "zLyRzRcNJALAGONDIDIGITEIGHTrFIVEsOURrNINErONErSEVENsIXrTHREEsWOrZEROmLETTERAtAtItUsBAtHA",
   "sCAtHAsDAtDAuHAtHAsEEsGAtHAsHAsItIsJAtHAsKAtHAsLAtLAsMAsNAtGAsOOsPAtHAsRAsSAsTAtHAtTAuHAsU",
   "tUsVAsYAmOMmSIGNANUSVARAqVISARGAmVIRAMAnOWELSIGNAAwIwUvEEvIwIvOOvUwU",
   "cRMUKHIABBREVIATIONSIGNjDDAKiDIGITEIGHTnFIVEoOURnNINEnONEnSEVENoIXnTHREEoWOnZEROiEKONKAR",
   "iIRIiLETTERApApIpUoBApHAoCApHAoDApDAqHApHAoEEoFAoGApHAqHAoHAoIpIoJApHAoKApHAqHAoLApLAoMA",
   "oNApGApNApYAoOOoPApHAoRApRAoSApHAoTApHApTAqHAoUpUoVAoYAoZAiSIGNADAKBINDImBINDImNUKTAmUDAAT",
   "mVIRAMAoSARGAmYAKASHiTIPPIiURAiVOWELSIGNAAsIsUrEErIsIrOOrUsUdUNGKHEMACONSONANTSIGNMEDIALHA",
   "+eRA+eVA+eYAlDIGITEIGHTqFIVErOURqNINEqONEqSEVENrIXqTHREErWOqZEROlLETTERArBAsHArCAsHArDAsDA",
   "tHAsHArGAsHArHArJAsHArKAsHArLArMArNAsGArPAsHArRArSArTAsHAsTAtHArVArYAlSIGNANUSVARA",
   "pTHOLHOMAlVOWELLENGTHMARKqSIGNAAvIvUuEvEuIvIuOvOuUvUaHADEScIRCUTePICKeSPACEeYCREATURE",
   "cLFWIDTHBLACKSQUAREjDOWNWARDSARROWjFORMSLIGHTVERTICALjHANGULFILLERpLETTERAwEvCHIEUCHwIEUC",
   "vEwOwUvHIEUHvIwEUNGvKHIEUKHwIYEOK+bSIOSvMIEUMvNIEUN+aCIEUC+aHIEUHvOwEvPHIEUPHwIEUP+aSIOS",
   "vRIEUL+aHIEUH+aKIYEOK+aMIEUM+aPHIEUPH+bIEUP+aSIOS+aTHIEUTHvSIOSwSANGCIEUC+aKIYEOK+aPIEUP",
   "+aSIOS+aTIKEUTvTHIEUTHwIKEUTvUvWAxEwExOwIvYAxEwExOwIwOwUjIDEOGRAPHICCOMMAuFULLSTOP",
   "jKATAKANAHIRAGANAPROLONGEDSOUNDMARKrLETTERAxExHAyEyIyOyUxIxKAyEyIyOyUxMAyEyIyOyUxNyAyEyIyO",
   "yUxOxRAyEyIyOyUxSAyEyIyMALLA+cE+cI+cO+cTU+cU+cYA+dO+dUyOyUxTAyEyIyOyUxUxWAyOxYAyOyU",
   "rMIDDLEDOTrSEMIVOICEDSOUNDMARKrVOICEDSOUNDMARKjLEFTCORNERBRACKETnWARDSARROW",
   "jRIGHTCORNERBRACKEToWARDSARROWjUPWARDSARROWjWHITECIRCLEcMBURGERdMERgANDPICKjSICKLEjWRENCH",
   "dSAeTERFACEcNDBAGgLLeSHAKEeWITHINDEXANDMIDDLEFINGERSCROSSEDnFINGERANDTHUMBCROSSED",
   "dGULCHOSEONGCEONGCHIEUMCHIEUCH+aIEUCzSIOS+aSANGCIEUC+eSIOSpHIEUCHvHIEUHvKHIEUKH",
   "rTUEUMCHIEUCHxIEUCwSIOSxSANGCIEUC+bSIOSpIEUCtIEUNGoFILLERoHIEUHtSIOSoIEUNGtCHIEUCHuIEUC",
   "tHIEUHtKIYEOKtMIEUMtPANSIOSuHIEUPHuIEUPtRIEULtSIOStTHIEUTHuIKEUToKAPYEOUNMIEUMwPHIEUPH",
   "xIEUPwRIEULwSSANGPIEUPpHIEUKHpIYEOKuTIKEUToMIEUMtKIYEOKtPIEUPtSIOStTIKEUToNIEUNtCIEUC",
   "tHIEUHtKIYEOKtPIEUPtSIOStTIKEUToPANSIOSpHIEUPHvHIEUHvPIEUPpIEUPtCHIEUCHuIEUCtHIEUHtKHIEUKH",
   "uIYEOKtNIEUNtPHIEUPHtSIOSxCIEUCxKIYEOKxPIEUPxTHIEUTHyIKEUTuSANGSIOStTHIEUTHuIKEUToRIEUL",
   "tCIEUCtHIEUHtKAPYEOUNPIEUPuHIEUKHuIYEOKtMIEUMtNIEUNtPIEUPtSIOSuSANGKIYEOKyPIEUPyTIKEUT",
   "tTIKEUToSIOSsCHIEUCHtIEUCsHIEUHsIEUNGsKHIEUKHtIYEOKsMIEUMsNIEUNsPHIEUPHtIEUPxKIYEOKsRIEUL",
   "sSSANGSIOSsTHIEUTHtIKEUTpSANGCIEUCyHIEUHtHIEUHtIEUNGtKIYEOKtNIEUNtPIEUPtRIEULtSIOSxPIEUP",
   "tTHIEUTHuIKEUTtYEORINHIEUHoTHIEUTHpIKEUTuCIEUCuKIYEOKuMIEUMuPIEUPuRIEULuSIOSoYEORINHIEUH",
   "qSIEUNGgDOUBLEDOTTONEMARKgFILLERgJONGSEONGCHIEUCHqIEUCuPIEUPuSSANGPIEUPpHIEUHuMIEUMuNIEUN",
   "uPIEUPuRIEULpIEUNGuKHIEUKHvIYEOKuSSANGKIYEOKpKAPYEOUNMIEUMxPHIEUPHyIEUPxRIEULqHIEUKHqIYEOK",
   "vCHIEUCHvHIEUHvKHIEUKHvNIEUNvPIEUPvRIEULvSIOSzKIYEOKpMIEUMuCHIEUCHvIEUCuHIEUHuKIYEOKuNIEUN",
   "uPANSIOSvIEUPzSIOSuRIEULuSIOSvSANGNIEUNzSIOSpNIEUNuCHIEUCHvIEUCuHIEUHuKIYEOKuPANSIOSuRIEUL",
   "uSIOSuTHIEUTHvIKEUTpPANSIOSwKAPYEOUNPIEUPwPIEUPqHIEUPHwPIEUPwSIOSwTHIEUTHqIEUPuCHIEUCH",
   "vIEUCuHIEUHuMIEUMuPHIEUPHuRIEULzPHIEUPHuSIOSyTIKEUTuTIKEUTpRIEULuHIEUHuKAPYEOUNPIEUP",
   "vHIEUKHvIYEOK+aHIEUH+aSIOSuMIEUMzHIEUHzKIYEOKzSIOSuNIEUNuPANSIOSvHIEUPHvIEUPzHIEUHzPHIEUPH",
   "zSIOSzTIKEUTuSIOSvSANGKIYEOKzSIOSuTHIEUTHvIKEUT+aHIEUHuYEORINHIEUH+fHIEUHwSIEUNGpSIOS",
   "tCHIEUCHuIEUCtHIEUHtKAPYEOUNPIEUPuIYEOKtMIEUMtPANSIOSuIEUPtRIEULtTHIEUTHuIKEUTqSANGCIEUC",
   "uIEUNGuKIYEOKuMIEUMuNIEUNuPIEUPuRIEULzKHIEUKHuSIOSyKIYEOKyTIKEUTuTIKEUT+aPIEUPuYESIEUNG",
   "pTHIEUTHqIKEUTvCHIEUCHwIEUCvKIYEOKvPIEUPvRIEULvSIOSzKIYEOKvTHIEUTHpYEORINHIEUHrSIEUNG",
   "xHIEUHxKHIEUKHyIYEOKxMIEUMxPANSIOSxSIOSySANGKIYEOKhUNGSEONGAqErUqOqRAEAuAuEvOuIuUqUpEqOrEU",
   "rOrUqUrArEsOsUrOrUpFILLERpIqArRAEAqEUqIqOrIqUqYAsEsOrEsOrOrUpOqErOqOrIqUqYAsErEsO",
   "pSSANGARAEApUqArEqEOEUqIIqUqYEsOpWArEqErOqIpYArErOrUrYOqErOsOsUsYAqIrUqOrAsErEOrIrOrYAtE",
   "sEOqUrAsErEsOrIrOrUrYEtOgLETTERAnEnRAEArEmCHIEUCHnIEUCmEnOnUmHIEUHmInEUNGmKAPYEOUNMIEUM",
   "uPHIEUPHvIEUPuSSANGPIEUPnHIEUKHnIYEOKsSIOSmMIEUMrPANSIOSsIEUPrSIOSmNIEUNrCIEUCrHIEUH",
   "rPANSIOSrSIOSrTIKEUTmOnEmPANSIOSnHIEUPHnIEUPrCIEUCrKIYEOKrSIOSvKIYEOKvTIKEUTrTHIEUTHsIKEUT",
   "mRIEULrHIEUHrKIYEOKxSIOSrMIEUMrPANSIOSsHIEUPHsIEUPwSIOSrSIOSrTHIEUTHsIKEUTrYEORINHIEUH",
   "mSIOSqCIEUCqKIYEOKqNIEUNqPIEUPqTIKEUTnSANGCIEUCrHIEUHrIEUNGrKIYEOKrNIEUNrPIEUPrSIOSrTIKEUT",
   "mTHIEUTHnIKEUTmUmWAoEnEoOnImYAoEnEoOpRINHIEUHoSIEUNGuPANSIOSuSIOSnInOoIoYAqEnUoIoYEqO",
   "gSINGLEDOTTONEMARKeZHOUNUMERALEIGHTpFIVEqOURpNINEpONEpSEVENqIXpTENqHIRTYrREEqWENTYrO",
   "dIFIROHINGYADIGITEIGHTtFIVEuOURtNINEtONEtSEVENuIXtTHREEuWOtZEROoLETTERAuBAuCAuDAvDAuFAuGA",
   "uHAuJAuKAvHAvINNAWAzYAuLAuMAuNAvGAvYAuPAuRAvRAuSAvHAuTAvTAuVAuWAuYAuZAoMARKNAKHONNAsSAKIN",
   "oSIGNHARBAHAYsTAHALAuNAuSSIoVOWELAtEtItOtUdUNOOLETTERAnBAnDAnGAnHAnInKAnLAnMAnNAoGAnPAnRA",
   "nSAnTAnUnWAnYAhSIGNPAMUDPODhVOWELSIGNIqUcPPYPERSONRAISINGONEHANDcRDDISKdPcTCHINGCHICK",
   "dRANLETTERALEPHnYNmBETHmDALETHRESHmGIMELmHEoTHmKAPHmLAMEDHmMEMmNUNmPEmQOPHmSADHEoMEKHnHIN",
   "mTAWnETHmWAWmYODHmZAYNgNUMBERFIVEmONEpHUNDREDmTENnWENTYcUMEAbEADPHONEeSTONE",
   "jGRAVEYARDSYMBOLdRNOEVILMONKEYeTDECORATIONfHANDSfWITHARROWjRIBBONjTIPONTHELEFT",
   "dVYAMPERSANDORNAMENTgRROWSHAFTWIDTHONExHALFxTHIRDuTWOTHIRDSgSTERISKfBALLOTX",
   "gLACKCURVEDDOWNWARDSANDRIGHTWARDSARROWqUPWARDSANDRIGHTWARDSARROWkFEATHEREDNORTHEASTARROW",
   "tRIGHTWARDSARROWtSOUTHEASTARROWkHEARTfCHECKMARKiVRONSNOWFLAKEgIRCLElDSALTIRE",
   "lWITHCIRCLEINSIDEpSTROKEANDTWODOTSABOVEgONCAVEPOINTEDBLACKRIGHTWARDSARROW",
   "fDASHEDTRIANGLEHEADEDRIGHTWARDSARROWgIVISIONSIGNgOLLARSIGNhUBLECOMMAQUOTATIONMARKORNAMENT",
   "lTURNEDCOMMAQUOTATIONMARKORNAMENThWNWARDSARROWWITHEQUILATERALARROWHEAD",
   "xLARGEEQUILATERALARROWHEADfEIGHTPOINTEDBLACKSTARrPINWHEELSTARrRECTILINEARBLACKSTAR",
   "kSPOKEDASTERISKkTEARDROPSPOKEDPROPELLERASTERISKgQUALSSIGNgXCLAMATIONMARKORNAMENTuSYMBOL",
   "fFIVEPOINTEDBLACKSTARjSPOKEDASTERISKgOURBALLOONSPOKEDASTERISKfGREEKCROSS",
   "fHEARTEXCLAMATIONMARKORNAMENTgORIZONTALFILLfINTERROBANGORNAMENTfLARGECIRCLEhTINCROSS",
   "gEFTPOINTINGANGLEBRACKETORNAMENTwQUOTATIONMARKORNAMENTjWARDSARROWWITHEQUILATERALARROWHEAD",
   "xLARGEEQUILATERALARROWHEADgIGATUREOPENETORNAMENTgOWDOUBLECOMMAQUOTATIONMARKORNAMENT",
   "iERRIGHTSHADOWEDWHITERIGHTWARDSARROWiSINGLECOMMAQUOTATIONMARKORNAMENTfMINUSSIGN",
   "gULTIPLICATIONXfNORTHEASTARROWoPOINTINGBUDwVINELEAFkWESTPOINTINGBUDwVINELEAF",
   "fOPENCENTRECROSSgUTLINEDBLACKSTARgVALWITHOVALINSIDEfPLUSSIGN",
   "fRIGHTPOINTINGANGLEBRACKETORNAMENTxQUOTATIONMARKORNAMENTkWARDSARROW",
   "uWITHEQUILATERALARROWHEADyLARGEEQUILATERALARROWHEADgOUNDTIPPEDRIGHTWARDSARROWfSALTIRE",
   "hNSSERIFINTERROBANGORNAMENTgCRIPTLIGATUREETORNAMENTgINGLECOMMAQUOTATIONMARKORNAMENT",
   "lTURNEDCOMMAQUOTATIONMARKORNAMENThXPOINTEDBLACKSTARiSPOKEDASTERISKgOUTHEASTARROW",
   "oPOINTINGBUDwVINELEAFkWESTPOINTINGBUDwVINELEAFgPARKLEfTEARDROPSHANKEDRIGHTWARDSARROW",
   "oPOKEDASTERISKtPINWHEELASTERISKgRIANGLEHEADEDRIGHTWARDSARROWgWELVEPOINTEDBLACKSTAR",
   "sPINWHEELSTARfUPPERRIGHTSHADOWEDWHITERIGHTWARDSARROWhWARDSARROWWITHEQUILATERALARROWHEAD",
   "vLARGEEQUILATERALARROWHEADfVERTICALBARfWEDGETAILEDRIGHTWARDSARROWgHITECIRCLE",
   "kDOWNPOINTINGTRIANGLEkSQUAREqCONTAININGBLACKVERYSMALLSQUAREgIDEHEADEDRIGHTWARDSARROWcBE",
   "dREWACCENTATNAHHAFUKHmDARGAnEHImETNAHTAmGERESHsMUQDAMpSHAYIMmILUYmMAHAPAKHnERKHAsKEFULA",
   "nUNAHmOLEmPASHTAoZERmQADMAoRNEYPARAmREVIAmSEGOLnHALSHELETmTELISHAGEDOLAtQETANAoVIRnIPEHA",
   "mYERAHBENYOMOoTIVmZAQEFGADOLrQATANoRQAnINORgLETTERALEFqWITHMAPIQuPATAHuQAMATS",
   "oTERNATIVEAYINxPLUSSIGNnYINmBETpWITHDAGESHtRAFEmDALETrWITHDAGESHmFINALKAFuWITHDAGESHrMEM",
   "rNUNrPEtWITHDAGESHrTSADImGIMELrWITHDAGESHmHEoToWITHMAPIQmKAFpWITHDAGESHtRAFEmLAMED",
   "rWITHDAGESHmMEMpWITHDAGESHmNUNpWITHDAGESHmPEoWITHDAGESHsRAFEmQOFpWITHDAGESHmRESH",
   "qWITHDAGESHmSAMEKHsWITHDAGESHnHINqWITHDAGESH+aANDSHINDOT+eINDOTuSHINDOTvINDOTmTAV",
   "pWITHDAGESHnETpWITHDAGESHnSADIrWITHDAGESHmVAVpWITHDAGESHtHOLAMmWIDEALEFqDALETqFINALMEMqHE",
   "qKAFqLAMEDqRESHqTAVmYODpWITHDAGESHtHIRIQmZAYINrWITHDAGESHhIGATUREALEFLAMED",
   "oYIDDISHDOUBLEVAV+bYODvVAVYODvYODYODPATAHgMARKLOWERDOTkMASORACIRCLEkUPPERDOT",
   "gPOINTDAGESHORMAPIQlHATAFPATAHqQAMATSqSEGOLmIRIQmOLAMqHASERFORVAVlJUDEOSPANISHVARIKAlMETEG",
   "lPATAHlQAMATSrQATANmUBUTSlRAFElSEGOLmHEVAnINDOTmINDOTlTSEREhUNCTUATIONGERESHuSHAYIMrMAQAF",
   "rNUNHAFUKHArPASEQrSOFPASUQgYODTRIANGLEcDGEHOGcLICOPTERdLSCHREIBERPAUSESYMBOL",
   "dMETWITHWHITECROSSeSYMBOLcNTAIGANALETTERA1r2r3rWOqE1r2r3r4r5r6qHA1t0t1s2s3s4s5s6s7s8s9rE1",
   "s2s3s4s5s6s7rI1s2s3s4s5s6s7rO1s2s3s4s5s6s7s8rU1s2s3qI1r2r3r4qKA1t0t1s2s3s4s5s6s7s8s9sKErE1",
   "s2s3s4s5s6rI1s2s3s4s5s6s7s8rO1s2s3sKIrU1s2s3s4s5s6s7qMA1s2s3s4s5s6s7rE1s2sMArI1s2s3s4s5s6",
   "s7rO1s2s3s4s5s6rU1s2s3s4qNA1s2s3s4s5s6s7s8s9rE1s2s3s4s5s6sKOrI1s2s3s4s5s6s7sTErMUMO1v2rO1",
   "s2s3s4s5rU1s2s3qO1r2r3qRA1s2s3s4rE1s2s3s4rI1s2s3s4s5s6s7rO1s2s3s4s5s6rU1s2s3s4s5s6qSA1s2s3",
   "s4s5s6s7s8rE1s2s3s4s5rI1s2s3s4s5s6rO1s2s3s4s5s6s7rU1s2s3s4s5s6s7s8qTA1s2s3s4rE1s2s3s4s5s6",
   "s7s8s9rI1s2s3s4s5s6s7rO1s2s3s4s5s6sRArU1s2s3s4sTOqU1r2r3r4r5qWA1s2s3s4s5rE1s2s3s4rI1s2s3s4",
   "s5rO1s2s3s4s5s6s7qYA1s2s3s4s5sYOrO1s2s3s4s5s6rU1s2s3s4cRBdMITIANCONJUGATEMATRIX",
   "cXAGRAMFORABUNDANCEmFTERCOMPLETIONmPPROACHlBEFORECOMPLETIONmITINGTHROUGHmREAKTHROUGH",
   "lCOMINGTOMEETnNFLICToTEMPLATIONlDARKENINGOFTHELIGHTmECREASEnLIVERANCEnVELOPMENT",
   "mIFFICULTYATTHEBEGINNINGnSPERSIONmURATIONlENTHUSIASMlFELLOWSHIPmOLLOWINGlGATHERINGTOGETHER",
   "mRACEnEATPOSSESSIONsWERrREPONDERANCEqTAMINGlHOLDINGTOGETHERlINCREASEnFLUENCEnNERTRUTH",
   "oOCENCElLIMITATIONlMODESTYnUTHCORNERSlOBSTRUCTIONmPPOSITIONoRESSIONlPEACEmROGRESS",
   "mUSHINGUPWARDlRETREAToURNnVOLUTIONlSMALLPREPONDERANCEqTAMINGmPLITTINGAPARTmTANDSTILL",
   "lTHEABYSMALWATERpRMYqOUSINGTHUNDERoCAULDRONpLINGINGFIREpREATIVEHEAVENoFAMILYoGENTLEWIND",
   "oJOYOUSLAKEoKEEPINGSTILLMOUNTAINoMARRYINGMAIDENoRECEPTIVEEARTHoWANDERERpELLmREADING",
   "lWAITINGmORKONTHEDECAYEDlYOUTHFULFOLLYbIBISCUScGHBRIGHTNESSSYMBOLeHEELEDSHOEeOCTETPRESET",
   "eSPEEDTRAINoWITHBULLETNOSEeVOLTAGESIGNcKINGBOOTcNDUTEMPLEcPPOPOTAMUScRAGANADIGRAPHYORI",
   "iITERATIONMARKiLETTERApRCHAICWUvYEoBApEpIpOpUoDApEpIpOpUoEoGApEpIpOpUoHApEpIpOpUoIoKApEpI",
   "pOpUoMApEpIpOpUoNpApEpIpOpUoOoPApEpIpOpUoRApEpIpOpUoSApEpIpMALLAtEtItKAuEuOtOtTUtUtWAuEuI",
   "uOtYAuOuUpOpUoTApEpIpOpUoUoVUoWApEpIpOoYApOpUoZApEpIpOpUiVOICEDITERATIONMARKcSTORICSITE",
   "bOCHOcLEdLOWQUILTSQUAREORNAMENTzINBLACKSQUAREcMOTHETICcNEYBEEfPOTcOKcPcRIZONTALBAR",
   "lLACKHEXAGONpOCTAGONkCAPACITORkELLIPSISkLADDERlINEEXTENSIONoWITHFOURTICKMARKS",
   "sTHREETICKMARKStICKMARKkMALEWITHSTROKESIGNkONEEIGHTHBLOCK1358y2y3y4y5y6y7kRACINGCAR",
   "lESISTORSEGMENTkSCANLINE1s3s7s9kTABKEYnULATIONuSETuWITHJUSTIFICATIONlRAFFICLIGHT",
   "kZIGZAGLINEdSEfFACEfRACINGcSPITALcTBEVERAGEdDOGdELdPEPPERdSPRINGScURGLASSjWITHFLOWINGSAND",
   "dSEfBUILDINGnSfWITHGARDENbRYVNIASIGNbTcJcSbUGGINGFACEcNDREDPOINTSSYMBOLcSHEDFACEcTbYACINTH",
   "cGIEAgFORMTWOcPHENgATIONPOINTgBULLETgMINUSgWITHDIAERESISdODIASTOLEcSTERESISSYMBOLaICECREAM",
   "eUBEdHOCKEYSTICKANDPUCKdSKATEbDENTICALTOlANDSLANTEDPARALLELjWITHDOTABOVEgFICATIONCARD",
   "dOGRAPHICANNOTATIONBOTTOMMARKvEARTHMARKvFIRSTMARKwOURMARKzTHMARKvHEAVENMARKvLINKINGMARK",
   "vMANMARKwIDDLEMARKvONEMARKvREVERSEMARKvSECONDMARKvTHIRDMARKxREEMARKwOPMARKwWOMARK",
   "lCLOSINGMARKmOMMAlDEPARTINGTONEMARKnSCRIPTIONCHARACTERABOVETOBELOW+mMIDDLEANDBELOW",
   "+fFULLSURROUND+fHORIZONTALREFLECTION+fLEFTTOMIDDLEANDRIGHT+lRIGHT+fOVERLAID+fROTATION",
   "+fSUBTRACTION+hRROUNDFROMABOVE+rBELOW+rLEFT+sOWERLEFT+wRIGHT+rRIGHT+rUPPERLEFT+wRIGHT",
   "lENTERINGTONEMARKlFULLSTOPlHALFFILLSPACElITERATIONMARKlLEVELTONEMARKlNUMBERZERO",
   "lRISINGTONEMARKlSPACElTALLYMARKFIVEvOURuONEuTHREEvWOmELEGRAPHLINEFEEDSEPARATORSYMBOL",
   "uSYMBOLFORAPRIL+eUGUST+dDAYEIGHT+lEEN+hLEVEN+gFIFTEEN+iVE+hOUR+kTEEN+gNINE+kTEEN+gONE",
   "+gSEVEN+lTEEN+hIX+jTEEN+gTEN+hHIRTEEN+lY+mONE+iREE+hWELVE+jNTY+mEIGHT+mFIVE+nOUR+mNINE",
   "+mONE+mSEVEN+nIX+mTHREE+nWO+iO+eECEMBER+dFEBRUARY+dHOUREIGHT+mEEN+iLEVEN+hFIFTEEN+jVE+iOUR",
   "+lTEEN+hNINE+lTEEN+hONE+hSEVEN+mTEEN+iIX+kTEEN+hTEN+iHIRTEEN+jREE+iWELVE+kNTY+nFOUR+nONE",
   "+nTHREE+oWO+jO+hZERO+dJANUARY+eULY+fNE+dMARCH+fY+dNOVEMBER+dOCTOBER+dSEPTEMBER",
   "lVARIATIONINDICATORbLOVEYOUHANDSIGNbMAGEOFhORAPPROXIMATELYEQUALTOcP",
   "dERIALARAMAICLETTERALEPHwYINvBETHvDALETHvGIMELvHExTHvKAPHvLAMEDHvMEMvNUNvPEvQOPHvRESH",
   "vSADHExMEKHwHINvTAWwETHvWAWvYODHvZAYINpNUMBERONEyHUNDREDyTHOUSANDvTENyTHOUSANDwHREEwWENTY",
   "xOpSECTIONSIGNbNBOXTRAYcCOMINGENVELOPEfPLETEINFINITYdREASEFONTSIZESYMBOLiSASfMENTcDdEX",
   "fPOINTINGATTHEVIEWERdIANRUPEESIGNeCSIYAQALTERNATELAKHMARKkFRACTIONONEHALFvQUARTER",
   "sTHREEQUARTERSkLAKHMARKkNUMBERALTERNATEONEzTENTHOUSAND+aWOqEIGHTvHUNDREDvTHOUSANDvY",
   "wTHOUSANDqFIFTYvTHOUSANDsVEuHUNDREDuTHOUSANDrORTYvTHOUSANDsURuHUNDREDuTHOUSANDqKARORvAN",
   "qLAKHuANqNINEuHUNDREDuTHOUSANDvYwTHOUSANDqONEtHUNDREDtTHOUSANDqPREFIXEDEIGHTyFIVEzOURyNINE",
   "yONEySEVENzIXyTHREEzWOqSEVENvHUNDREDvTHOUSANDwYxTHOUSANDrIXtHUNDREDtTHOUSANDuYvTHOUSAND",
   "qTENtTHOUSANDrHIRTYwTHOUSANDsREEvHUNDREDvTHOUSANDrWENTYwTHOUSANDsOtHUNDREDtTHOUSAND",
   "kPLACEHOLDERkRUPEEMARKcFINITYiNEGATEDWITHVERTICALBARdORMATIONDESKPERSONlSEPARATORFOURuONE",
   "uTHREEvWOmOURCEcHIBITARABICFORMSHAPINGhSYMMETRICSWAPPINGcPUTSYMBOLFORLATINCAPITALLETTERS",
   "tLETTERStSMALLLETTERSoNUMBERSoSYMBOLScSCRIPTIONALPAHLAVILETTERALEPH+aBETH+aDALETH+aGIMEL",
   "+aHE+cTH+aKAPH+aLAMEDH+aMEMQOPH+aNUN+aPE+aSADHE+cMEKH+bHIN+aTAW+bETH+aWAWAYINRESH+aYODH",
   "+aZAYINuNUMBERFOUR+aONE+dHUNDRED+dTHOUSAND+aTEN+bHREE+bWENTY+cOpRTHIANLETTERALEPH+cYIN",
   "+bBETH+bDALETH+bGIMEL+bHE+dTH+bKAPH+bLAMEDH+bMEM+bNUN+bPE+bQOPH+bRESH+bSADHE+dMEKH+cHIN",
   "+bTAW+cETH+bWAW+bYODH+bZAYINvNUMBERFOUR+bONE+eHUNDRED+eTHOUSAND+bTEN+cHREE+cWENTY+dO",
   "dERTIONSYMBOLcTEGRALiAROUNDAPOINTOPERATORjVERAGEWITHSLASHiEXTENSIONiWITHDOUBLESTROKE",
   "mINTERSECTIONmLEFTWARDSARROWWITHHOOKmOVERBARmTIMESSIGNmUNDERBARoIONeRCALATEfIORPRODUCT",
   "fLINEARANNOTATIONANCHORvSEPARATORvTERMINATORgOCKEDFEMALEANDMALESIGNfROBANGfSECTION",
   "mABOVEBARABOVEUNIONrUNIONmBESIDEANDJOINEDWITHINTERSECTIONmWITHDOTqLOGICALANDqOVERBAR",
   "cVERSEBLACKDIAMONDmSMALLSQUAREiULLEThCHECKERBOARDFILLmMARKhDOWNWARDSARROWWITHTIPLEFTWARDS",
   "hMEDIUMSHADEhWHITECIRCLEfTEDEXCLAMATIONMARKiINTERROBANGiLAZYSjOWKAVYKArWITHKAVYKAABOVE",
   "iOHMSIGNiPENTAGRAMiQUESTIONMARKiUNDERTIEdISIBLEPLUSjSEPARATORjTIMESbRENEcISbZAKAYALANTERN",
   "aJACKOLANTERNcPANESEBANKSYMBOLiCASTLEiDOLLSiGOBLINiINDUSTRIALSTANDARDSYMBOLiOGRE",
   "iPOSTOFFICEiSYMBOLFORBEGINNERcRcVANESECONSONANTSIGNCAKRAvKERETvPENGKALiDIGITEIGHTnFIVEoOUR",
   "nNINEnONEnSEVENoIXnTHREEoWOnZEROiLEFTRERENGGANkTTERApIoBAqMURDAoCAqMURDAoDAqMAHAPRANApDA",
   "rMAHAPRANAoEoGAqMURDAoHAoIpIpKAWIoJAqMAHAPRANAoKAqMURDAqSASAKoLAoMAoNAqMURDApGArLELET",
   "wRASWADIpYArMURDAoOoPAqCEREKqMURDAoRAqAGUNGoSAqMAHAPRANArURDAoTAqMURDApTArMAHAPRANAoUoWA",
   "oYAiPADAADEGqADEGnNDAPmISENISENmLINGSAnUHURoNGSImMADYAmPANGKATnISELEHmTIRTATUMETESmWINDU",
   "kNGKONmRANGKEPiRIGHTRERENGGANiSIGNCECAKrTELUmLAYARmPANYANGGAmWIGNYANiTURNEDPADAPISELEH",
   "iVOWELSIGNDIRGAMURErPEPETrSUKUvMENDUTrTALINGtRUNGsOLONGrWULUvMELIKbEANScLLYFISH",
   "bIGSAWPUZZLEPIECEbOINcYSTICKbUGGLINGcNOcPITERaKAABAcITHIABBREVIATIONSIGNgDANDAhOUBLEDANDA",
   "mSECTIONMARKgENUMERATIONSIGNgLETTERAnAnInUmBAnHAmCAnHAmDAnDAoDHAoHAnHAmEmGAnHAmHAmInImJA",
   "nHAmKAnHAmLAmMAmNAnGAnNAnYAmOmPAnHAmRAnHAmSAnHAnSAmTAnHAnTAoHAmUnUmVAmYAgNUMBERSIGNqABOVE",
   "gSECTIONMARKhIGNANUSVARAkCANDRABINDUkNUKTAkVIRAMAmSARGAgVOWELSIGNAAqIqUpEpIqIpOpUqU",
   "pVOCALICRcKTOVIKNUMERALEIGHTuEENqLEVENpFIFTEENrVEqOURtTEENpNINEtTEENpONEpSEVENuTEENqIX",
   "sTEENpTENqHIRTEENrREEqWELVErOpZEROcNGAROOeXIRADICALAGAINoNDoRRIVEqOWoXEnBADGERpMBOOoEANoIG",
   "pRDpTTERoLACKpOODpUEoOATpDYpLTOFCLOTHpNEpWoRANCHpISTLEpUSHnCARTpULDRONpVEoHILDoITYoLANqW",
   "pIFFpOTHESoOLORpMPAREpRPSEpVERpWnDEATHpERoIPPERpSHqTINGUISHpVINATIONoOGpNOTpORpTqTEDCLIFF",
   "tTENTpUBLEXpWNBOXoRAGONpUMpYnEARqTHpToIGHToMBROIDERYoNCLOSUREpTERoVENrINGoYEnFACEpNGpTHER",
   "oEATHERoIELDpGHTpREpSHoLUTEpYoOOToRAGRANTpOGoURnGATEoHOSToOpLDpSLOWLYoRAINqSSnHAIRpLBERD",
   "qFTREETRUNKpNDoEADqRTpMPoIDINGENCLOSUREoOOKpRNqSEnICEoNCHpSECTnJADEpRnKNIFEnLACKpMEoEAF",
   "qTHERpEKpGSoIDpFEpNEoONGrSTRIDEnMANoEATpLONoILLETpNISTERoOONpRNINGqTARpUNDrTAINqTHnNEToOSE",
   "pTnOLDoNEqSELFoPENBOXpPOSEnPIGoLOWoOWERoRIVATEpOFOUNDnRAINpPpToEDoICEpGHTOPENBOXpVERoOOF",
   "oUNnSACRIFICIALWINEpLTpYoCHOLARpRIPToEALpCONDpEpLFoHEEPqLLpOOTqRTTAILEDBIRDtHREADoICKNESS",
   "pLKoKINoLASHqVEpICEoMALLoNOUToOUNDoPEARqECHpIRITpOONpROUToQUAREoTANDpEAMqPpONEqPrPINGoUN",
   "oWEETnTABLEpLLpNNEDLEATHERoENoIGERpLEoONGUEpOTHoRACKpEEpIPODoURBANqTLEoWOqHANDSnUSEnVALLEY",
   "oILLAGEnWALKrENCLOSUREpTERoEAPONpSToHEATpITEoINDqEoOMANpRKoRAPpONGnYELLOWdNADAAILENGTHMARK",
   "iRCHAICSHRIIhDIGITEIGHTmFIVEnOURmNINEmONEmSEVENnIXmTHREEnWOmZEROhLENGTHMARKjTTERAoAoIoUnBA",
   "oHAnCAoHAnDAoDApHAoHAnEoEnFAnGAoHAnHAnIoInJAoHAnKAoHAnLAoLApLAnMAnNApKAARAPOLLUoGAoNAoYAnO",
   "oOnPAoHAnRAoRAnSAoHAoSAnTAoHAoTApHAnUoUnVAoOCALICLvLuRvRnYAhSIGNANUSVARAmVAGRAHA",
   "lCANDRABINDUmOMBININGANUSVARAABOVERIGHTlJIHVAMULIYAlNUKTAlSIDDHAMmPACINGCANDRABINDU",
   "lUPADHMANIYAlVIRAMAnSARGAhVOWELSIGNAArIrUqErEqIrIqOrOqUrUqVOCALICLyLxRyRcTAKANADIGRAPHKOTO",
   "iHIRAGANADOUBLEHYPHENqPROLONGEDSOUNDMARKqSEMIVOICEDSOUNDMARKqVOICEDSOUNDMARKiITERATIONMARK",
   "iLETTERApRCHAICEvWUvYEwIoBApEpIpOpUoDApEpIpOpUoEoGApEpIpOpUoHApEpIpOpUoIoKApEpIpOpUoMApEpI",
   "qNNANNASALIZEDTONE1+h2+h3+h4+h5+h7+h8uTONE2y3y4y5y7y8pOpUoNpApEpIpOpUoOoPApEpIpOpUoRApEpI",
   "pOpUoSApEpIpMALLAtEtHAuEuIuOuUtItKAuEuOuUtMUtNuUtOtRAuEuIuOuUtSIuUtTOuUtUtWAuEuIuOtYAuOuU",
   "pOpUoTApEpIpOpUoUoVApEpIpOpUoWApEpIpOoYApOpUoZApEpIpOpUiMIDDLEDOTiVOICEDITERATIONMARK",
   "cWICONJOINEReDANDAfIGITEIGHTjFIVEkOURjNINEjONEjSEVENkIXjTHREEkWOjZEROfOUBLEDANDAeLETTERAlA",
   "lIkBAlHAkCAlHAkDAlDAmHAlHAkEkGAlHAkHAkIlIkJAlHAlNYAkKAlHAkLAkMAkNAlGAlNAlYAkOkPAlHAkRAkSA",
   "lHAlSAkTAlHAlTAmHAkUlUkVOCALICLsLrRsRkWAkYAePUNCTUATIONALTERNATESECTIONMARKERpCIRCLE",
   "qLOSINGSPIRALpDOTrUBLEDOTpFILLEDCIRCLEqLOWERpSECTIONMARKERqPACEFILLERrIRALpTRIPLEDOT",
   "eSIGNANUSVARAiCANDRABINDUiKILLERiNUKTAiREPHAiVISARGAeVOWELSIGNAAoIoLTERNATEAAnEoUnIoInUoU",
   "nVOCALICRcYAHLIDIGITEIGHTmFIVEnOURmNINEmONEmSEVENnIXmTHREEnWOmZEROhLETTERAnBAnCAnDAnGAnHA",
   "oTAnInKAoHAnLAnMAnNAoGAoYAnOEoOnPAoHAnRAnSAoHAnTAoHAnVAnWAnYAnZAhSIGNCWIlSHYAhTONECALYA",
   "qPLOPHUlPLOPHUhVOWELEnEmOmUnEbELVINSIGNcYdBOARDiANDMOUSEdCAPTENdHOLEbHANDA",
   "dROSHTHIDIGITFOURpONEpTHREEqWOkFRACTIONONEHALFkLETTERAqBArHAqCArHAqDArDAsHArHAqGArHAqHAqJA",
   "qKArHArKAqLAqMAqNArNArYAqPArHAqRAqSArHArSAqTArHArTAsHAsTAtHAqVArHAqYAqZAkNUMBERONEHUNDRED",
   "tTHOUSANDqTENrWENTYkPUNCTUATIONCIRCLEwRESCENTBARvDANDAwOTxUBLEDANDAvLINESwOTUSvMANGALAM",
   "vSMALLCIRCLEkSIGNANUSVARAoBARABOVEoCAUDAoDOTBELOWqUBLERINGBELOWoVISARGAkVIRAMA",
   "lOWELLENGTHMARKpSIGNEtItOtUtVOCALICRcITANSMALLSCRIPTFILLERcMERCURRENCYSYMBOLRIEL",
   "fDIGITEIGHTkFIVElOURkNINEkONEkSEVENlIXkTHREElWOkZEROfINDEPENDENTVOWELLYxYvQAAxIxQxUwEwIxI",
   "wOOTYPEONE+cTWOwUxKxUyVvRYxYfLETTERBAlCAmHAnOmOlDAmOlHAlKAmHAnOmOlLAmOlMOlNGOmNOmOmYOlPHA",
   "nOmOlQAlROlSAmHAmSOlTAmHAnOmOmTHAoOlVOlYOfSIGNAHSDAkTTHACANkVAKRAHASANYAjBANTOClRIYOOSAN",
   "lTHAMASATkEYYALjCAMNUCPIIKUUHkOENGjKAKABATkHANkOOMUUTjLEKTOOjMUUSIKATOANjNIKAHIT",
   "jPHNAEKMUANjREAHMUKkOBATjSAMYOKSANNYAjTOANDAKHIATkRIISAPjVIRIAMjYUUKALEAPINTUgYMBOLBEIKOET",
   "oROCmUONKOETpROClDAPBEIKOETrROCpUONKOETsROCoKOEToMUOYKOETsROCoPIIKOETrROCpRAMKOETsROCoROC",
   "lLEKATTAKBEIuUONtMUOYtPIIuRAMxBEIyUONxMUOYxPIItSONlMUOYKOETpROClPATHAMASATmIIKOEToROC",
   "mRAMBEIKOETsROCqUONKOETtROCpKOETpMUOYKOETtROCpPIIKOETsROCpROClTUTEYASATfVOWELINHERENTAAtQ",
   "kSIGNAApEpIpUoEoIpEpIoOEpOoUpApUoYpApYcOJKIABBREVIATIONSIGNgDANDAhOUBLEDANDAmSECTIONMARK",
   "gLETTERAnAnInUmBAnBAnHAmCAnHAmDAnDAoDAoHAnHAmEmGAnGAnHAmHAmImJAnJAmKAnHAmLAnLAmMAmNAnGAnNA",
   "nYAmOmPAnHAmQAmRAmSAnHORTImTAnHAnTAoHAmUmVAmYAgSECTIONMARKhIGNANUSVARAkNUKTAkSHADDAlUKUN",
   "kVIRAMAgVOWELSIGNAAqIqUpEpIqIpOpUpVOCALICRgWORDSEPARATORcUDAWADIDIGITEIGHToFIVEpOURoNINE",
   "oONEoSEVENpIXoTHREEpWOoZEROjLETTERAqAqIqUpBAqBAqHApCAqHApDAqDArDArHAqHApEpGAqGAqHApHApIqI",
   "pJAqHAqJApKAqHApLApMApNAqGAqNAqYApOpPAqHApRAqRApSAqHApTAqHAqTArHApUqUpVApYAjSIGNANUSVARA",
   "nNUKTAnVIRAMAjVOWELSIGNAAtItUsEsItIsOsUtUbIMONOcPSIGNcRATRAIDANDAjIGITEIGHTnFIVEoOURnNINE",
   "nONEnSEVENoIXnTHREEoWOnZEROjOUBLEDANDAiLETTERAoBApHAoCApHAoDApDAqHApHAoGApHAoHAoJApHAoKA",
   "pHAoLAoMAoNApGApYAoPApHAoRAoSApHAoTApHApTAqHAoVAoYAiSIGNANUSVARAmSAATmTONPImVIRAMAoSARGA",
   "mYUPIiVOWELSIGNAAsIsUrErIrOrUsEcSSeINGCATFACEWITHCLOSEDEYEShFACElWITHCLOSEDEYES",
   "pSMILINGEYESeMARKcTEcWIFRUITbNEELINGPERSONcOTbOALAcREANSTANDARDSYMBOLbRONOS"]

end Stepwise.Text.NameTable
