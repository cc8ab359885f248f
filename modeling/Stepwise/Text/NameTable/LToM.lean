/-!
# Names of characters, L to M

The part of the table of names whose first letter is between L and M. How a
name is written is told where the table is searched.
-/

namespace Stepwise.Text.NameTable

/-- The names between L and M. -/
def lToM : List String :=
  ["aLABCOATdELcCROSSESTICKANDBALLcDDERdYBEETLEcNDSLIDEdGUAGETAGcOCANCELLATIONMARKdDIGITEIGHT",
   "iFIVEjOURiNINEiONEiSEVENjIXiTHREEjWOiZEROdELLIPSISdHOMOfNOdKOLAdLETTERBOjCOjDOjFOFAYmON",
   "lSUNGlTAMjHOSUNGlTAMjKHMUGOnNYOlOSUNGmTAMkOjLOlLINGmOOTjMOjNGOkOkYOjOjPALIBHAnCHAnDDApHA",
   "oHAnGHAnJHAnLLAnNNAoYAnTTApHAkHOSUNGmTAMkOjROjSANSKRITSHAsSAkOSUNGlTAMjTHOSUNGmTAMkOjWOjYO",
   "dNIGGAHITAdSEMIVOWELSIGNLOqNYOeIGNPALIVIRAMAdTONEMAICATAWAkEKkTHOlIdVOWELSIGNAnAnInMnYmEnI",
   "mInImMAIKANqONmOmUnUmYnYdYAMAKKANcRGEBLUECIRCLEjDIAMONDjSQUAREgROWNCIRCLEkSQUAREfCIRCLE",
   "fDOWNTACKfGREENCIRCLEkSQUAREfLEFTTRIANGLEOPERATORfONEDOTOVERTWODOTSPUNCTUATION",
   "iRINGOVERTWORINGSPUNCTUATIONgRANGECIRCLElDIAMONDlSQUAREfPURPLECIRCLElSQUAREfREDCIRCLE",
   "iSQUAREgTHANkOREQUALTOfTRIPLEVERTICALBAROPERATORgWODOTSOVERONEDOTPUNCTUATION",
   "iRINGSOVERONERINGPUNCTUATIONgYPEPIECECENTREOFKwXwYwZWITHCROSSBARpROSSBARwWITHLOWERSTEM",
   "+aUPPERSTEMoDIAGONALLOWERLEFT+bRIGHTwUPPERLEFT+fANDLOWERLEFT+bRIGHT+gANDLOWERRIGHToLEFTARM",
   "pOWERHALFVERTEXOFM+fWtLEFTANDUPPERLEFTARCyRCxCORNERyROTCHtRIGHTANDUPPERRIGHTARCzRC",
   "+bWITHTAILyCORNERzROTCHtTERMINALoRAISEDUPPERLEFTARCpIGHTARMoSHORTLOWERTERMINAL",
   "tUPPERTERMINALpTEMs12u34s2t3u4v5s3t4s4t5sWITHCROSSBARwLEFTCROSSBAR+aJOINTwRIGHTCROSSBAR",
   "oUPPERHALFVERTEXOFM+fWtLEFTARCxCORNERyROTCHtRIGHTARCyCORNERzROTCHtTERMINALoVERTEXOFV",
   "fUPTACKfYELLOWCIRCLElSQUAREdISIGNcSTQUARTERMOONpSYMBOLpWITHFACEcTINCAPITALLETTERAtAtE",
   "uWITHACUTEyMACRONtFRICANDtLPHAtNGLICANAWtOtUtVuWITHHORIZONTALBARtWITHACUTExBREVE+cANDACUTE",
   "+fDOTBELOW+fGRAVE+fHOOKABOVE+fTILDExCARONyIRCUMFLEX+hANDACUTE+kDOTBELOW+kGRAVE+kHOOKABOVE",
   "+kTILDExDIAERESIS+gANDMACRONyOTABOVE+fANDMACRON+aBELOWzUBLEGRAVExGRAVExHOOKABOVE",
   "xINVERTEDBREVExMACRONxOGONEKxRINGABOVE+gANDACUTE+bBELOWxSTROKExTILDEtYsBtETAtROKENL",
   "tWITHDOTABOVE+aBELOWxFLOURISHxHOOKxLINEBELOWxSTROKExTOPBARsCtHItLOSEDINSULARGtONtUATRILLO",
   "+bWITHCOMMAtWITHACUTExBARxCARONyEDILLA+eANDACUTEyIRCUMFLEXxDOTABOVExHOOKxPALATALHOOK",
   "xSTROKEsDtOUBLETHORNyWYNNtWITHCARONyEDILLAyIRCUMFLEXBELOWxDOTABOVE+aBELOWxHOOKxLINEBELOW",
   "xSHORTSTROKEOVERLAYyMALLLETTERZ+jWITHCARONyTROKExTOPBARtZuWITHCARONsEtGYPTOLOGICALAIN+gLEF",
   "tNGtSHtTuHtWITHACUTExBREVExCARONyEDILLA+eANDBREVEyIRCUMFLEX+hANDACUTE+kDOTBELOW+kGRAVE",
   "+kHOOKABOVE+kTILDE+hBELOWxDIAERESISyOTABOVE+aBELOWzUBLEGRAVExGRAVExHOOKABOVExINVERTEDBREVE",
   "xMACRON+dANDACUTE+gGRAVExOGONEKxSTROKExTILDE+cBELOWtZHvREVERSEDvWITHCARONsFtWITHDOTABOVE",
   "xHOOKxSTROKEsGtAMMAtHAtLOTTALAzIzSTOPzUtWITHACUTExBREVExCARONyEDILLAyIRCUMFLEXxDOTABOVE",
   "xHOOKxMACRONxOBLIQUESTROKExSTROKEsHtALFHtENGtWAIRuITHBREVEBELOWxCARONyEDILLAyIRCUMFLEX",
   "xDESCENDERyIAERESISyOTABOVE+aBELOWxHOOKxSTROKEsItNSULARDzFzGzRzSzTtOTAtStWITHACUTExBREVE",
   "xCARONyIRCUMFLEXxDIAERESIS+gANDACUTEyOTABOVE+aBELOWzUBLEGRAVExGRAVExHOOKABOVE",
   "xINVERTEDBREVExMACRONxOGONEKxSTROKExTILDE+cBELOWsJtWITHCIRCUMFLEXyROSSEDTAILxSTROKEsK",
   "tWITHACUTExCARONyEDILLAxDESCENDERyIAGONALSTROKEyOTBELOWxHOOKxLINEBELOWxOBLIQUESTROKE",
   "xSTROKE+dANDDIAGONALSTROKEsLtAMBDAyWITHSTROKEtJtWITHACUTExBARyELTxCARONyEDILLA",
   "yIRCUMFLEXBELOWxDOTBELOW+fANDMACRONzUBLEBARxHIGHSTROKExLINEBELOWxMIDDLEDOT+dTILDE",
   "xSMALLLETTERJyTROKEsMtIDDLESCOTSSyWELSHLL+dVtWITHACUTExDOTABOVE+aBELOWxHOOKsNtJtWITHACUTE",
   "xCARONyEDILLAyIRCUMFLEXBELOWxDESCENDERyOTABOVE+aBELOWxGRAVExLEFTHOOKyINEBELOWyONGRIGHTLEG",
   "xOBLIQUESTROKExSMALLLETTERJxTILDEsOtItLDPOLISHOtMEGAtOtPENEwOtUtWITHACUTExBREVExCARON",
   "yIRCUMFLEX+hANDACUTE+kDOTBELOW+kGRAVE+kHOOKABOVE+kTILDExDIAERESIS+gANDMACRONyOTABOVE",
   "+fANDMACRON+aBELOWzUBLEACUTE+dGRAVExGRAVExHOOKABOVEzRN+bANDACUTE+eDOTBELOW+eGRAVE",
   "+eHOOKABOVE+eTILDExINVERTEDBREVExLONGSTROKEOVERLAYzOPxMACRON+dANDACUTE+gGRAVEyIDDLETILDE",
   "xOGONEK+dANDMACRONxSTROKE+dANDACUTExTILDE+cANDACUTE+fDIAERESIS+fMACRONsP",
   "tHARYNGEALVOICEDFRICATIVEtWITHACUTExDOTABOVExFLOURISHxHOOKxSQUIRRELTAILyTROKE",
   "+dTHROUGHDESCENDERsQtWITHDIAGONALSTROKExSTROKETHROUGHDESCENDERsRtAMSHORNtEVERSEDCWITHDOT",
   "+aE+aHALFH+aOPENEtROTUNDAtUMROTUNDAtWITHACUTExCARONyEDILLAxDOTABOVE+aBELOW+fANDMACRON",
   "zUBLEGRAVExINVERTEDBREVExLINEBELOWxOBLIQUESTROKExSTROKExTAILsStALTILLOtCHWAuRIPTGtHARPS",
   "tIGMOIDStMALLCAPITALIxQWITHHOOKTAILtWITHACUTE+cANDDOTABOVExCARON+cANDDOTABOVEyEDILLA",
   "yIRCUMFLEXyOMMABELOWxDIAGONALSTROKEyOTABOVE+aBELOW+fANDDOTABOVExHOOKxOBLIQUESTROKE",
   "xSHORTSTROKEOVERLAYyWASHTAILsTtHORNxWITHSTROKE+hTHROUGHDESCENDERtONEFIVEwSIXwTWOtRESILLO",
   "tURNEDAzLPHAyHyINSULARGyKyLyMyTyVtWITHCARONyEDILLAyIRCUMFLEXBELOWyOMMABELOWxDIAGONALSTROKE",
   "yOTABOVE+aBELOWxHOOKxLINEBELOWxRETROFLEXHOOKxSTROKEtZsUtBARtPSILONtWITHACUTExBREVExCARON",
   "yIRCUMFLEX+hBELOWxDIAERESIS+gANDACUTE+jCARON+jGRAVE+jMACRON+gBELOWyOTBELOWzUBLEACUTE",
   "+dGRAVExGRAVExHOOKABOVEzRN+bANDACUTE+eDOTBELOW+eGRAVE+eHOOKABOVE+eTILDExINVERTEDBREVE",
   "xMACRON+dANDDIAERESISxOGONEKxRINGABOVExSTROKExTILDE+cANDACUTE+cBELOWsVtENDtISIGOTHICZ",
   "tOLAPUKAEzOEzUEtWITHDIAGONALSTROKEyOTBELOWxHOOKxTILDEtYsWtWITHACUTExCIRCUMFLEXxDIAERESIS",
   "yOTABOVE+aBELOWxGRAVExHOOKtYNNsXtWITHDIAERESISyOTABOVEsYtOGHtWITHACUTExCIRCUMFLEX",
   "xDIAERESISyOTABOVE+aBELOWxGRAVExHOOK+bABOVExLOOPxMACRONxSTROKExTILDEsZtWITHACUTExCARON",
   "yIRCUMFLEXxDESCENDERyOTABOVE+aBELOWxHOOKxLINEBELOWxPALATALHOOKxSTROKEyWASHTAILnIGATUREIJ",
   "uOEgROSSfEPIGRAPHICLETTERARCHAICMvILONGAwNVERTEDMvREVERSEDF+dPvSIDEWAYSIfLETTERAIN",
   "mLVEOLARCLICKlBIDENTALPERCUSSIVEnLABIALCLICKtPERCUSSIVElDENTALCLICKlGLOTTALSTOPwWITHSTROKE",
   "lINVERTEDGLOTTALSTOP+eWITHCURL+iSTROKElLATERALCLICKlPHARYNGEALVOICEDFRICATIVE",
   "lRETROFLEXCLICKzWITHRETROFLEXHOOKnVERSEDESHLOOPtGLOTTALSTOPWITHSTROKElSINOLOGICALDOT",
   "mMALLCAPITALAyExByARREDBxCxDxEyTHyZHxFxGyWITHHOOKxHxIyNVERTEDRxJxKxLyWITHBELT+cSTROKExMxN",
   "xOyEyPENOyUxPxQxRyEVERSEDN+fRyUMyWITHRIGHTLEGxSxTyURNEDE+dG+dK+dM+dRxUxVxWxYxZmTRETCHEDC",
   "vWITHCURLlTWOWITHSTROKElVOICEDLARYNGEALSPIRANTlWYNNlYRfSMALLCAPITALLETTERIWITHSTROKE",
   "xUWITHSTROKEkLETTERArArEsWITHACUTEwMACRONrLPHAvWITHRETROFLEXHOOKrNGLICANAWrOrREVERSEDSCHWA",
   "rUrVsWITHHORIZONTALBARrWITHACUTEvBREVE+aANDACUTE+dDOTBELOW+dGRAVE+dHOOKABOVE+dTILDEvCARON",
   "wIRCUMFLEX+fANDACUTE+iDOTBELOW+iGRAVE+iHOOKABOVE+iTILDEvDIAERESIS+eANDMACRONwOTABOVE",
   "+dANDMACRONyBELOWxUBLEGRAVEvGRAVEvHOOKABOVEvINVERTEDBREVEvMACRONvOGONEKvRETROFLEXHOOK",
   "wIGHTHALFRINGxNGABOVE+eANDACUTEzBELOWvSTROKEvTILDErYqBrARREDALPHAwEwOsSELINEESHrETA",
   "rLACKLETTERE+bO+cWITHSTROKErOTTOMHALFOrROKENLrWITHDOTABOVEyBELOWvFLOURISHvHOOKvLINEBELOW",
   "vMIDDLETILDEvPALATALHOOKvSTROKEvTOPBARqCrHItWITHLOWLEFTSERIF+aRIGHTRINGrLOSEDINSULARG",
   "wOMEGAxPENEwREVERSEDOPENErONrUATRILLOzWITHCOMMArWITHACUTEvBARvCARONwEDILLA+cANDACUTE",
   "wIRCUMFLEXwURLvDOTABOVEvHOOKvPALATALHOOKvRETROFLEXHOOKvSTROKEqDrBDIGRAPHrELTAsZHDIGRAPH",
   "+bWITHPALATALHOOK+fRETROFLEXHOOKrOTLESSIxJyWITHSTROKE+iANDHOOKsUBLERxWITHCROSSEDTAILwTHORN",
   "wWYNNrUMrWITHCARONwEDILLAwIRCUMFLEXBELOWwURLvDOTABOVEyBELOWvHOOKzANDTAILvLINEBELOW",
   "vMIDDLETILDEyHEIGHTLEFTHOOKvPALATALHOOKvSHORTSTROKEOVERLAYwTROKEvTAILwOPBARrZsDIGRAPH",
   "zWITHCURL+dRETROFLEXHOOKsWITHCARONqErGYPTOLOGICALAIN+eLEFrNGtWITHCROSSEDTAILxPALATALHOOK",
   "rSHtWITHCURLxDOUBLEBAR+gANDCURLxPALATALHOOKxRETROFLEXHOOKrTsHrWITHACUTEvBREVEvCARONwEDILLA",
   "+cANDBREVEwIRCUMFLEX+fANDACUTE+iDOTBELOW+iGRAVE+iHOOKABOVE+iTILDE+fBELOWvDIAERESISwOTABOVE",
   "yBELOWxUBLEGRAVEvFLOURISHvGRAVEvHOOKABOVEvINVERTEDBREVEvMACRON+bANDACUTE+eGRAVEvNOTCH",
   "vOGONEKvRETROFLEXHOOKvSTROKEvTILDE+aBELOWrZHtREVERSEDtWITHCARONyURLxPALATALHOOK",
   "xRETROFLEXHOOKxTAILqFrENGDIGRAPH+bWITHTRILLrWITHDOTABOVEvHOOKvMIDDLETILDEvPALATALHOOK",
   "vSTROKEqGrAMMArHArLOTTALAxIxSTOPxUrWITHACUTEvBREVEvCARONwEDILLAwIRCUMFLEXvDOTABOVEvHOOK",
   "vMACRONvOBLIQUESTROKEvPALATALHOOKvSTROKEqHrALFHrENGuWITHHOOKrVrWITHBREVEBELOWvCARONwEDILLA",
   "wIRCUMFLEXvDESCENDERwIAERESISwOTABOVEyBELOWvHOOKvLINEBELOWvPALATALHOOKvSTROKEqIrNSULARDxF",
   "xGxRxSxTsVERTEDALPHAyOErOTAuWITHSTROKEtIFIEDErSrWITHACUTEvBREVEvCARONwIRCUMFLEXvDIAERESIS",
   "+eANDACUTEwOTBELOWxUBLEGRAVEvGRAVEvHOOKABOVEvINVERTEDBREVEvMACRONvOGONEKvRETROFLEXHOOK",
   "vSTROKE+bANDRETROFLEXHOOKvTILDE+aBELOWqJrWITHCARONwIRCUMFLEXwROSSEDTAILvSTROKEqKrRA",
   "rWITHACUTEvCARONwEDILLAvDESCENDERwIAGONALSTROKEwOTBELOWvHOOKvLINEBELOWvOBLIQUESTROKE",
   "vPALATALHOOKvSTROKE+bANDDIAGONALSTROKEqLrAMBDAwWITHSTROKErENISFsZHuWITHRETROFLEXHOOKrJ",
   "rONGSvWITHDIAGONALSTROKE+aOTABOVEzHIGHSTROKErSDIGRAPHrUMrWITHACUTEvBARwELTzANDPALATALHOOK",
   "vCARONwEDILLAwIRCUMFLEXBELOWwURLvDOTBELOW+dANDMACRONxUBLEBAR+bMIDDLETILDEvFISHHOOK",
   "vHIGHSTROKEvINVERTEDLAZYSvLINEBELOWvMIDDLEDOT+bRING+bTILDEyHEIGHTLEFTHOOKvPALATALHOOK",
   "vRETROFLEXHOOK+iANDBELTvSTROKErZDIGRAPHqMrIDDLESCOTSSwWELSHLL+bVrUMrWITHACUTEvCROSSEDTAIL",
   "vDOTABOVEyBELOWvHOOKvMIDDLETILDEvPALATALHOOKqNrJrPRECEDEDBYAPOSTROPHErUMrWITHACUTEvCARON",
   "wEDILLAwIRCUMFLEXBELOWwROSSEDTAILwURLvDESCENDERwOTABOVEyBELOWvGRAVEvLEFTHOOKwINEBELOW",
   "wONGRIGHTLEGvMIDDLETILDEyHEIGHTLEFTHOOKvOBLIQUESTROKEvPALATALHOOKvRETROFLEXHOOKvTILDEqOrI",
   "rLDPOLISHOrMEGArOrPENEvWITHRETROFLEXHOOKuOvEvWITHRETROFLEXHOOKzSTROKErUrWITHACUTEvBREVE",
   "vCARONwIRCUMFLEX+fANDACUTE+iDOTBELOW+iGRAVE+iHOOKABOVE+iTILDEvDIAERESIS+eANDMACRONwOTABOVE",
   "+dANDMACRONyBELOWxUBLEACUTE+bGRAVEvGRAVEvHOOKABOVExRNzANDACUTE+cDOTBELOW+cGRAVE+cHOOKABOVE",
   "+cTILDEvINVERTEDBREVEvLONGSTROKEOVERLAYxOPxWRINGINSIDEvMACRON+bANDACUTE+eGRAVEvOGONEK",
   "+bANDMACRONvRETROFLEXHOOKvSTROKE+bANDACUTEvTILDE+aANDACUTE+dDIAERESIS+dMACRONqP",
   "rHARYNGEALVOICEDFRICATIVEsIrWITHACUTEvDOTABOVEvFLOURISHvHOOKvMIDDLETILDEvPALATALHOOK",
   "vSQUIRRELTAILwTROKE+bTHROUGHDESCENDERqQrPDIGRAPHrWITHDIAGONALSTROKEvHOOKzTAIL",
   "vSTROKETHROUGHDESCENDERqRrAMSHORNrEVERSEDCzWITHDOTyEzNGyHALFHyKyOPENE+dWITHHOOK",
   "+hRETROFLEXHOOKyRWITHFISHHOOKySCRIPTGrROTUNDArUMtROTUNDArWITHACUTEvCARONwEDILLAwROSSEDTAIL",
   "vDOTABOVEyBELOW+dANDMACRONxUBLEGRAVEvFISHHOOK+dANDMIDDLETILDE+gPALATALHOOKvINVERTEDBREVE",
   "vLINEBELOWwONGLEGvMIDDLETILDEyHEIGHTLEFTHOOKvOBLIQUESTROKEwUTHANDLEvPALATALHOOKvSTROKE",
   "vTAILqSrAKHAYATsLTILLOrCHWAvWITHHOOKzRETROFLEXHOOKsRIPTGxWITHCROSSEDTAILwRxWITHRINGrHARPS",
   "rIDEWAYSDIAERESIZEDUyOzPENOzWITHSTROKEyTURNEDMyUsGMOIDSrQUATREVERSEDESHrTIRRUPRrWITHACUTE",
   "+aANDDOTABOVEvCARON+aANDDOTABOVEwEDILLAwIRCUMFLEXwOMMABELOWwURLvDIAGONALSTROKEwOTABOVE",
   "yBELOW+dANDDOTABOVEvHOOKvMIDDLETILDEyHEIGHTLEFTHOOKvOBLIQUESTROKEvPALATALHOOK",
   "vSHORTSTROKEOVERLAYwWASHTAILqTrAILLESSPHIrCDIGRAPHWITHCURLrESHDIGRAPH+bWITHPALATALHOOK",
   "+fRETROFLEXHOOKrHORNvWITHSTROKE+fTHROUGHDESCENDERsWITHSTRIKETHROUGHrONEFIVEuSIXuTWOsPHALFO",
   "rRESILLOrSDIGRAPHzWITHRETROFLEXHOOKrUMsRNEDAxExLPHAwDELTAwEwGwHxWITHFISHHOOK+jANDTAILwI",
   "xNSULARGwKwLwMxWITHLONGLEGwOEyWITHHORIZONTALSTROKE+cSTROKExOPENO+cWITHSTROKExPENEwR",
   "xWITHHOOK+bLONGLEG+iANDRETROFLEXHOOK+bMIDDLETILDE+bPALATALHOOK+bTAILwTxWITHCURLwUIwVwWwY",
   "xWITHBELTrWITHCARONwEDILLAwIRCUMFLEXBELOWwOMMABELOWwURLvDIAERESISyGONALSTROKEwOTABOVE",
   "yBELOWvHOOKzANDRETROFLEXHOOKvLINEBELOWvMIDDLETILDEyHEIGHTLEFTHOOKvPALATALHOOK",
   "vRETROFLEXHOOKvSTROKErZqUrBARuWITHSHORTRIGHTLEGrErIrMrOrPSILONxWITHSTROKErWITHACUTEvBREVE",
   "vCARONwIRCUMFLEX+fBELOWvDIAERESIS+eANDACUTE+hCARON+hGRAVE+hMACRON+eBELOWwOTBELOWxUBLEACUTE",
   "+bGRAVEvGRAVEvHOOKABOVExRNzANDACUTE+cDOTBELOW+cGRAVE+cHOOKABOVE+cTILDEvINVERTEDBREVE",
   "vLEFTHOOKvMACRON+bANDDIAERESISvOGONEKvRETROFLEXHOOKwINGABOVEvSHORTRIGHTLEGwTROKEvTILDE",
   "+aANDACUTE+aBELOWqVrENDrISIGOTHICZrOLAPUKAExOExUErWITHCURLvDIAGONALSTROKEwOTBELOWvHOOK",
   "vPALATALHOOKvRIGHTHOOKvTILDErYqWrWITHACUTEvCIRCUMFLEXvDIAERESISwOTABOVEyBELOWvGRAVEvHOOK",
   "vRINGABOVEqXrWITHDIAERESISwOTABOVEvLONGLEFTLEG+gANDLOWRIGHTRING+gWITHSERIFxWRIGHTRING",
   "vPALATALHOOKqYrOGHrWITHACUTEvCIRCUMFLEXvDIAERESISwOTABOVEyBELOWvGRAVEvHOOKzABOVEvLOOP",
   "vMACRONvRINGABOVEvSHORTRIGHTLEGwTROKEvTILDEqZrWITHACUTEvCARONwIRCUMFLEXwURLvDESCENDER",
   "wOTABOVEyBELOWvHOOKvLINEBELOWvMIDDLETILDEvPALATALHOOKvRETROFLEXHOOKvSTROKEwWASHTAIL",
   "lIGATUREFFuIuLtItLsIJsLONGSTsOEsSTgUBSCRIPTSMALLLETTERAzEzHzIzJzKzLzMzNzOzPzRzS+aCHWAzTzU",
   "zVzXbBBARSYMBOLbEAFFLUTTERINGINWINDeLESSTREEeYGREENcDGER",
   "cFTANDLOWERANDRIGHTTRIANGULARTHREEQUARTERSBLOCKmONEEIGHTHBLOCKhRIGHTDOUBLETURNSTILEmTACK",
   "nRIANGULARHALFBLOCKhUPPERANDRIGHTTRIANGULARTHREEQUARTERSBLOCKmONEEIGHTHBLOCK",
   "+aCONTAININGBLACKSMALLSQUAREgGERBUBBLEhLEBRACKETqWITHDOTfRCLESSTHANBRACKET",
   "gROWWITHCIRCLEDPLUSnSMALLCIRCLEeBARBDOWNRIGHTBARBDOWNHARPOONvUPHARPOON",
   "iUPRIGHTBARBDOWNHARPOONtUPHARPOONfLACKLENTICULARBRACKETjTORTOISESHELLBRACKETeCEILING",
   "fLOSEDENTRYfORNERBRACKETfURLYBRACKETqLOWERHOOKqMIDDLEPIECEqUPPERHOOK",
   "eDOTTEDSUBSTITUTIONBRACKETgUBLEANGLEBRACKETkPARENTHESISkQUOTATIONMARKkWIGGLYFENCE",
   "eFACINGARMENIANETERNITYSIGNkBASSINETkFISHoWITHOPENMOUTHnTkSNAKEHEADWITHCLOSEDMOUTH",
   "xOPENMOUTHlVASTISIGNuWITHDOTSfISHTAILgVEEIGHTHSBLOCKfLOOReHALFBLACKCIRCLEnSTARkOCKiCIRCLE",
   "oWITHDOTsFOURDOTSsTHREEDOTStWODOTSiFLYINGSAUCERjOLDERiHORIZONTALLINEWITHTHREETICKMARKS",
   "iINVERSEMEDIUMSHADEANDRIGHTHALFBLOCKiLOWERONEQUARTERBLOCKiMEDIUMSHADEiRUNNINGMAN",
   "iTRIPLEDASHHORIZONTALiUPPERONEQUARTERBLOCKiWHITEELLIPSEgNDEDINTERLACEDPENTAGRAM",
   "iTELEPHONERECEIVEReJUSTIFIEDRIGHTHALFBLACKCIRCLEwWHITECIRCLEeLOWPARAPHRASEBRACKETfUGGAGE",
   "eMULTIMAPeNORMALFACTORSEMIDIRECTPRODUCTeONEEIGHTHBLOCKhQUARTERBLOCKhTHIRDBLOCKfUTERJOIN",
   "ePARENTHESISpEXTENSIONpLOWERHOOKpUPPERHOOKfOINTINGAIRPLANEnNGLEBRACKETnTOMICBOMB",
   "mCURVEDANGLEBRACKETmDIODEnOUBLEANGLEQUOTATIONMARKmENERGYWAVEmMAGNIFYINGGLASSmRACINGCAR",
   "nIFLEnOCKETBOOSTERsSHIPoLLERCOASTERCARmSTICKFIGUREmTANKeRAISEDOMISSIONBRACKETfIGHTARROW",
   "oTHROUGHSMALLCIRCLEoWITHDOUBLEVERTICALSTROKEsSTROKEsVERTICALSTROKEjBLACKARROWjDOUBLEARROW",
   "uWITHSTROKEyVERTICALSTROKEjOPENHEADEDARROWjSANSSERIFARROWjTRIANGLEHEADEDARROWjWAVEARROW",
   "kHITEARROWeSEMIDIRECTPRODUCTgVENEIGHTHSBLOCKfHADEDWHITERIGHTWARDSARROW",
   "fIDEARCANTICLOCKWISEARROWiWAYSUBRACKETgNGLEQUOTATIONMARKfPEECHBUBBLEfQUAREBRACKET",
   "rEXTENSIONrLOWERCORNERrUPPERCORNERrWITHDOUBLESTROKEvQUILLvSTROKEvTICKINBOTTOMCORNER",
   "+bTOPCORNERvUNDERBARfSHAPEDBAGDELIMITERfUBSTITUTIONBRACKETeTACKfHIRDINDUCTOR",
   "jWHITERIGHTPOINTINGINDEXgOUGHTBUBBLEgREEEIGHTHSBLOCKjQUARTERSBLOCKrLOWERONEQUARTERBLOCK",
   "rUPPERONEQUARTERBLOCKfORIGHTEMBEDDINGlISOLATElMARKlOVERRIDEhTOISESHELLBRACKET",
   "fRANSPOSITIONBRACKETgIANGLEBESIDEVERTICALBARkULARONEQUARTERBLOCKfWOTHIRDSBLOCK",
   "eVERTICALBARWITHQUILLnOXLINEeWARDSARROWoABOVEALMOSTEQUALTOtREVERSEALMOSTEQUALTO",
   "+aTILDEOPERATORtSHORTRIGHTWARDSARROWtTILDEOPERATORpNDUPPERANDLOWERONEEIGHTHBLOCKoFROMBAR",
   "vTOBLACKDIAMONDsDOWNWARDSARROWoOVERRIGHTWARDSARROWoTAILpHROUGHLESSTHANvSUBSETvXpOBAR",
   "tOVERRIGHTWARDSARROWTOBARrLACKDIAMONDoWITHDOTTEDSTEMuUBLEVERTICALSTROKE",
   "sEQUILATERALARROWHEADsHOOKsLARGETRIANGLEARROWHEADtOOPsMEDIUMTRIANGLEARROWHEADsNOTCHEDTAIL",
   "sPLUSBELOWsSMALLEQUILATERALARROWHEADxTRIANGLEARROWHEADtTROKEsTAILwWITHDOUBLEVERTICALSTROKE",
   "+aVERTICALSTROKEtIPDOWNWARDSvUPWARDSsVERTICALSTROKEjBACKTILTEDSHADOWEDWHITEARROWkLACKARROW",
   "oCIRCLEDWHITEARROWkOTTOMSHADEDWHITEARROWjCOMPRESSEDARROWjDASHEDARROWkOUBLEARROWuFROMBAR",
   "uTAILuWITHSTROKEyVERTICALSTROKEpDASHARROWjFINGERPOSTARROWkRONTTILTEDSHADOWEDWHITEARROW",
   "jHANDlRPOONOVERRIGHTWARDSHARPOONqWITHBARBDOWNABOVERIGHTWARDSHARPOONWITHBARBDOWN",
   "+cBELOWLONGDASH+cFROMBAR+cTOBAR+cWARDSyUPABOVELEFTWARDSHARPOONWITHBARBDOWN+gONGDASH",
   "+fRIGHTWARDSHARPOONWITHBARBUP+aFROMBAR+aTOBAR+aWARDSkEAVYARROWoCOMPRESSEDARROW",
   "jLEFTSHADEDWHITEARROWjOPENHEADEDARROWjPAIREDARROWSkUSHINGHANDjQUADRUPLEARROW",
   "jRIGHTSHADEDWHITEARROWkOCKETjSANSSERIFARROWkQUAREDARROWmIGGLEARROWjTOPSHADEDWHITEARROW",
   "kRIANGLEARROWHEADrHEADEDARROW+cOVERRIGHTWARDSTRIANGLEHEADEDARROW+cTOBAR+cWITHBOLDSHAFT",
   "+gDOUBLEHORIZONTALSTROKE+mVERTICALSTROKE+gHEAVYSHAFT+gLONGTIPDOWNWARDS+nUPWARDS",
   "+gMEDIUMSHAFT+gNARROWSHAFT+gVERYHEAVYSHAFTxDASHEDARROWxPAIREDARROWSmPLEARROWpDASHARROW",
   "kWOHEADEDARROWxFROMBARxWITHDOUBLEVERTICALSTROKE+bTAIL+fWITHDOUBLEVERTICALSTROKE",
   "+jVERTICALSTROKE+cRIANGLEARROWHEADS+bVERTICALSTROKEsTRIPLEDASHARROWjWAVEARROWkHITEARROW",
   "tWITHINTRIANGLEARROWHEADfHITECORNERBRACKETkURLYBRACKETjLENTICULARBRACKETjPARENTHESIS",
   "jSQUAREBRACKETjTORTOISESHELLBRACKETfIGGLYFENCEfRITINGHANDcGcMONcOdPARDcPCHACONSONANTSIGNK",
   "uANGtLtMtNuYINDOtPtRtTgDIGITEIGHTlFIVEmOURlNINElONElSEVENmIXlTHREEmWOlZEROgLETTERAmBAnLA",
   "mCAnHAmDAnDAnZAmFAnLAmGAnLAmHAnLAmJAmKAnHAnLAmLAmMAnLAmNAnGAnYAmPAnHAnLAmRAmSAnHAmTAnHAnSA",
   "oHAnTAoHAmVAmWAmYAgPUNCTUATIONCERWArNYETTHYOOMTAROLrTAROLsSHOOKxCERWAgSIGNNUKTAkRAN",
   "hUBJOINEDLETTERRAvYAgVOWELSIGNAApEpIpOqOpUqUcSSTHANABOVEDOUBLELINEEQUALABOVEGREATERTHAN",
   "nGREATERTHANABOVEDOUBLELINEEQUALnLEFTWARDSARROWnSIMILARABOVEGREATERTHANuOREQUAL",
   "oLANTEDEQUALABOVEGREATERTHANABOVESLANTEDEQUALjNDNOTAPPROXIMATElSINGLELINENOTEQUALTO",
   "iBUTNOTEQUALTOrIVALENTTOiCLOSEDBYCURVEvABOVESLANTEDEQUALiEQUALTOORGREATERTHAN",
   "iORAPPROXIMATEkEQUALTOnIVALENTTOkGREATERTHANkSLANTEDEQUALTOyWITHDOTABOVE+kRIGHT+fINSIDE",
   "jVEREQUALTOiSIGNiWITHCIRCLEINSIDEmDOTmQUESTIONMARKABOVEcUKOTHEAcVELSLIDERbFbIBRA",
   "cGATUREOPENETORNAMENTdHTBLUEHEARTfCHECKMARKfEIGHTSPOKEDASTERISKfFIVEPOINTEDBLACKSTAR",
   "jSPOKEDASTERISKgOURPOINTEDBLACKCUSPvSTARfGREEKCROSSfLEFTTORTOISESHELLBRACKETORNAMENTfNING",
   "jMOODnBUBBLEfRAILgIGHTTORTOISESHELLBRACKETORNAMENTfSALTIREgHADEgIXSPOKEDASTERISK",
   "fTHREEPOINTEDBLACKSTARgWELVEPOINTEDBLACKSTARfVERTICALBARfWHITESQUAREcMBUDIGITEIGHTkFIVE",
   "lOURkNINEkONEkSEVENlIXkTHREElWOkZEROfEXCLAMATIONMARKfLETTERBAmHAlCAmHAlDAmHAlGAmHAmYANlHA",
   "lJAmHAlKAmHAlLAlMAlNAmGAlPAmHAlRAlSAmHAmSAlTAmHAmRAlWAlYAnNfQUESTIONMARKfSIGNKEMPHRENGjLOO",
   "jMUKPHRENGjSAIgMALLLETTERANUSVARAqKAqLAqMAqNArGAqPAqRAqTAgUBJOINEDLETTERRAuWAuYA",
   "fVOWELCARRIERLETTERkSIGNApIpUoEpEoIoOpOoUdITEDLIABILITYSIGNcNEARASIGNA028Bm100102n20Bn31C",
   "m301o2o3o4o5o6o7o8o9ApBpCn10o1o2o3ApBpCo4o5o6o7o8o9n20o1o2o3o4o5o6o7o8o9n30o1o2o3o4o5o6o7",
   "o8o9n40o1o2o3o4o5o6o7o8o9n50o1o2o3o4o5o6o7o8o9n60o1o2o3o4o5o6o7o8o9n70o1m400VASo1VASo2VAS",
   "o3VASo4VASo5VASo6VASo7VASo8VASo9VASn10VASo1VASo2VASo3VASo4VASo5VASo6VASo7VASo8VASm501o2o3",
   "o4o5o6o8o9n10o1o2o3o5o6n20o1o3o4o5o6o7o8o9n30o1o2o4o5o6o7o8o9n40o1o2o5o7o8o9n50o1o2o3o4o5",
   "o6o7o9n63o4o5o6o8o9n70o1o2o3o4o5o6o7o8o9n80o1o2o3o4o5o6o7o8o9n91o2o4o5o6o8m600o1o2o3o4o6o8",
   "o9n10o1o2o3o4o5o6o7o8o9n20o1o2o3o4o6o7o8o9n34o7o8n40o2o3o4o5o6o8o9n51o2o3o4o5o6o7o8o9n60o1",
   "o2o3o4m701Ao2Bo3Do4Eo5Fo6Ho7Jo8Ko92L2p3L3p4L4p6L6pLn10Wo1Xo2Yo3OMEGAo4ABBo5BBo7DDn26EYYY",
   "n32JEm800o1o2o3o4o5o6o7mB001p2p3p4p5p6p7p8p9o10p1p3p6p7o20p1qFqMp2qFqMp3qMp4p6p7p8p9o30p1",
   "p4p7p8p9o40p1p4p5p6p7p8p9o50p1p3p4p5p6p7p8p9o60p1p5p6p7p9o70p3p4p6p7p8p9o80p1p2p5p6p7n118",
   "o20p2p3o31AqBo64o71o80p8o91gBIDEOGRAMB100MANs2WOMANs4DEERs5EQUIDtFMAREtMSTALLIONs6FEWE",
   "tMRAMs7FSHEGOATtMHEGOATs8FSOWtMBOARs9FCOWtMBULLr20WHEATs1BARLEYs2OLIVEs3SPICEs5CYPERUS",
   "r30OILs1WINEs2r40BRONZEs1GOLDs2s5WOOLs6r50s1HORNs2s3s4s7s8s9CLOTHr60s1s2GARMENTs3ARMOURs4",
   "s5s6s7s8s9r70s1s2s3MONTHs4s6TREEs7s8s9r80s1s2s3s4s5s9r90s1HELMETq220FOOTSTOOLs5BATHTUB",
   "r30SPEARs1ARROWs2s3SWORDs4s6r40WHEELEDCHARIOTs1CHARIOTs2CHARIOTFRAMEs3WHEELs5s6s8s9r51s2s3",
   "s4DARTs5s6s7s8s9pVESSELB155w200y1y2y3y4y5y6y7y8y9x10y1y2y3y4y5y6y7y8y9x21y2y6y7y8y9x50w305",
   "hMONOGRAMB127KAPOs8KANAKOr33AREPAs5MERIr56TURO2q247DIPTEhSYLLABLEB001DAs2ROs3PAs4TEs5TO",
   "s6NAs7DIs8As9SEr10Us1POs2SOs3MEs4DOs5MOs6QAs7ZAr20ZOs1QIs3MUs4NEs5A2s6RUs7REs8Is9PU2r30NI",
   "s1SAs2QOs3RA3s6JOs7TIs8Es9PIr40WIs1SIs2WOs3A3s4KEs5DEs6JEs8NWAr50PUs1DUs2NOs3RIs4WAs5NU",
   "s7JAs8SUs9TAr60RAs1Os2PTEs5JUs6TA2s7KIs8RO2s9TUr70KOs1DWEs2PEs3MIs4ZEs5WEs6RA2s7KAs8QE",
   "r80MAs1KUs5AUs7TWEr90DWOs1TWOjMBOLB018q9p22p34p47q9p56p63q4p79p82q3q6q9eFEED",
   "eINTEGRATIONNOTINCLUDINGTHEPOLEpWITHRECTANGULARPATHAROUNDPOLEtSEMICIRCULARPATHAROUNDPOLE",
   "eSEPARATOReTABULATIONoSETdKEDPAPERCLIPSeSYMBOLcONFACEcPSeTICKcRASIGNcSULETTERAlEkBAkCAlHA",
   "kDAlZAkElUkFAkGAlHAkHAlHAkIkJAkKAlHAkLAkMAkNAlGAkOlEkPAlHAkSAlHAkTAlHAlONEMYABOrCYArJEUrNA",
   "rTIoNAPOlSAmHAkUlElHkWAkXAkYAlHAkZAlHAePUNCTUATIONCOMMApFULLSTOPcVRETOURNOISSIGNcZARDbLAMA",
   "bOBSTERcCKeINGSHIFTONEmZEROeWITHINKPENcGICALANDkWITHDOTABOVEqUBLEOVERBARuUNDERBAR",
   "oHORIZONTALDASHoMIDDLESTEMoUNDERBARhORjOVERLAPPINGLOGICALANDjWITHDOTABOVEpUBLEOVERBAR",
   "tUNDERBARnHORIZONTALDASHnMIDDLESTEMfGATEANDjBUFFERpWITHINVERTEDINPUTjINVERTEDINPUTSrOUTPUT",
   "jORcLLIPOPcNGDASHFROMLEFTMEMBEROFDOUBLEVERTICALfIVISIONfRUMeLEFTRIGHTARROW",
   "sWITHDEPENDENTLOBEnDOUBLEARROWiTACKiWARDSARROWsFROMBARnDOUBLEARROWyFROMBAR",
   "nHARPOONABOVESHORTRIGHTWARDSHARPOONnSQUIGGLEARROWeRIGHTTACKjWARDSARROWtFROMBAR",
   "tOVERLONGLEFTWARDSARROWtTHROUGHXtWITHDOUBLESLASHoDOUBLEARROWzFROMBAR",
   "oHARPOONABOVESHORTLEFTWARDSHARPOONvOVERLONGLEFTWARDSHARPOONoSQUIGGLEARROWcTIONBOTTLE",
   "dOFFORTUNEdUScUDLYCRYINGFACEcVEHOTELeLETTERcWASTERISKdBATTERYeRIGHTNESSSYMBOL",
   "dDOUBLEPRIMEQUOTATIONMARKdERBLADESCISSORSfCENTRELEFTONESIXTEENTHBLOCKpTWELFTHCIRCLE",
   "lONEQUARTERBLOCKlRIGHTONESIXTEENTHBLOCKqTWELFTHCIRCLEfFIVEEIGHTHSBLOCK",
   "fHALFANDUPPERHALFWHITECIRCLEjBLOCKjCIRCLEjHEAVYWHITESQUAREjINVERSEWHITECIRCLE",
   "jLEFTONEQUARTERBLOCKjMEDIUMSHADEjRIGHTONEQUARTERBLOCKjVERTICALLINEWITHTHREETICKMARKS",
   "gORIZONTALRULERSEGMENTfLEFTBALLPOINTPENkLOCKDIAGONALLOWERMIDDLELEFTTOLOWERCENTRE+sRIGHT",
   "wUPPERCENTRETOLOWERMIDDLERIGHT+oRIGHT+jUPPERMIDDLERIGHT+bLEFTTOLOWERCENTRE+mMIDDLERIGHT",
   "+hUPPERMIDDLERIGHT+bMIDDLELEFTTOLOWERCENTRE+sMIDDLERIGHT+sRIGHTjCRAYONjFOUNTAINPEN",
   "jONESIXTEENTHBLOCKjPAINTBRUSHkENCILjQUADRANTCHESSBISHOPwKINGxNIGHTwPAWNwQUEENwROOK",
   "sIRCULARARCrFACEWITHOPENMOUTHsROWNINGFACErMICROCOMPUTERrNEUTRALFACErSMILINGFACE",
   "sTANDINGKNIGHTrTELEVISIONmRTERCIRCLEjSEMICIRCULARANTICLOCKWISEARROWjTRIANGLE",
   "pULARMEDIUMSHADEkWELFTHCIRCLEfMIDDLECENTRELEFTONESIXTEENTHBLOCKrRIGHTONESIXTEENTHBLOCK",
   "lLEFTONESIXTEENTHBLOCKpTWELFTHCIRCLElRIGHTONESIXTEENTHBLOCKqTWELFTHCIRCLEfONEEIGHTHBLOCK",
   "iQUARTERBLOCKfRIGHTBLOCKDIAGONALLOWERCENTRETOLOWERMIDDLERIGHT+kUPPERMIDDLERIGHT+pRIGHT",
   "+cLEFTTOLOWERMIDDLERIGHT+iUPPERCENTRE+nMIDDLERIGHT+cMIDDLELEFTTOUPPERCENTRE+tMIDDLERIGHT",
   "+tRIGHTxUPPERMIDDLELEFTTOUPPERCENTRE+tRIGHTkCORNERWITHDOTkDROPSHADOWEDWHITESQUARE",
   "kONESIXTEENTHBLOCKkPENCILkQUADRANTCHESSBISHOPxKINGyNIGHTxPAWNxQUEENxROOKtIRCULARARC",
   "sFACEWITHOPENMOUTHtROWNINGFACEsMICROCOMPUTERsNEUTRALFACEsSMILINGFACEtTANDINGKNIGHT",
   "sTELEVISIONnRTERCIRCLEkRULERSEGMENTkSEMICIRCULARCLOCKWISEARROWlHADOWEDWHITECIRCLExSQUARE",
   "kTRIANGLEqULARMEDIUMSHADElWELFTHCIRCLEfSEVENEIGHTHSBLOCKfTHREEEIGHTHSBLOCKkQUARTERSBLOCK",
   "sLEFTONEQUARTERBLOCKsRIGHTONEQUARTERBLOCKgRIANGULARONEQUARTERBLOCKdKAVYKAjWITHDOTdLINE",
   "cZENGEhDIVIDEDBYHORIZONTALRULEbREcIcMcObUGGAGEcNARECLIPSEdGSbYCIANLETTERAnNmBnHmDmEnNmGmH",
   "mImJmKnKmLmMnMmNnNmPmQmRmSmTnHnTmUmWmXmZcDIANLETTERAnNmBmCmDmEnNmFmGmImKmLnYmMmNnNmOmQmRmS",
   "nSmTnTmUmVmYgTRIANGULARMARKcINGFACEaMACRONcGEdICWANDdNETcHAJANIABBREVIATIONSIGNiLETTERAoBA",
   "pHAoCApHAoDApDAqHApHAoEoGApHAoHAoIoJApHAoKApHAoLAoMAoNApNApYAoOoPApHAoRApRAoSAoTApHApTAqHA",
   "oUoVAjIGATURESHRIiSECTIONMARKjIGNNUKTAdJONGTILEAUTUMNlBACKnMBOOlCHRYSANTHEMUMlEASTWIND",
   "mIGHTOFBAMBOOSsCHARACTERStIRCLESlFIVEOFBAMBOOSrCHARACTERSsIRCLESmOUROFBAMBOOSrCHARACTERS",
   "sIRCLESlGREENDRAGONlJOKERlNINEOFBAMBOOSrCHARACTERSsIRCLESmORTHWINDlONEOFBAMBOOSqCHARACTERS",
   "rIRCLESmRCHIDlPLUMlREDDRAGONlSEVENOFBAMBOOSsCHARACTERStIRCLESmIXOFBAMBOOSqCHARACTERS",
   "rIRCLESmOUTHWINDmPRINGmUMMERlTHREEOFBAMBOOSsCHARACTERStIRCLESmWOOFBAMBOOSqCHARACTERS",
   "rIRCLESlWESTWINDmHITEDRAGONmINTERcKASARANGKAhENDOFSECTIONhLETTERAnBAnCAnDAnGAnJAnKAnLAnMA",
   "nNAoGAoYAnPAnRAnSAnTAnVAnYAhPASSIMBANGhVOWELSIGNEqIqOqUdEMAKEcLAYALAMAULENGTHMARKjDATEMARK",
   "kIGITEIGHToFIVEpOURoNINEoONEoSEVENpIXoTHREEpWOoZEROjFRACTIONONEEIGHTHuFIFTHvORTIETHuHALF",
   "uONEHUNDREDANDSIXTIETHuQUARTERuSIXTEENTHuTENTHvWENTIETHrTHREEEIGHTIETHSwQUARTERS",
   "wSIXTEENTHSwTWENTIETHSjLETTERAqAqIqRCHAICIIqUpBAqHApCAqHArILLUKvLwLxLvMvNwNvRRvYpDAqDArHA",
   "qHAqOTREPHpEqEpGAqHApHApIqIpJAqHApKAqHApLAqLArLApMApNAqGAqNArNAqYApOqOpPAqHApRAqRApSAqHA",
   "qSApTAqHAqTArHArTApUqUpVAqEDICANUSVARAqOCALICLxLwRxRpYAjNUMBERONEHUNDREDsTHOUSANDpTEN",
   "jSIGNANUSVARAoVAGRAHAnCANDRABINDUoIRCULARVIRAMAoOMBININGANUSVARAABOVEnPARA",
   "nVERTICALBARVIRAMAoIRAMApSARGAjVOWELSIGNAAtItUsEtEsItIsOtOsUtUsVOCALICL+aLzR+aR",
   "dEANDFEMALESIGNeSIGNeWITHSTROKEANDMALEANDFEMALESIGNoSIGNdTESECROSScMMOTHcN",
   "dANDWOMANHOLDINGHANDSeTSIGNdDAICAFFRICATIONMARKhGEMINATIONMARKhLETTERABoDoGoHoINoKpSAoLoM",
   "oNoPoQoRoSpHpZoTpToZnDUSHENNAnHALQAnINoTnKADnUSHENNAhPUNCTUATIONhVOCALIZATIONMARKfNCINGdGO",
   "dICHAEANABBREVIATIONMARKABOVE+aBELOWkLETTERAAYINrLEPHrYINqBETHrHETHqDALETHrHAMEDHqFE",
   "qGHIMELrIMELqHEsTHqJAYINrHAYINqKAPHrHAPHqLAMEDHqMEMqNUNqPEqQHOPHrOPHqRESHqSADHEsMEKHrHIN",
   "rSHINqTAWrETHrHAMEDHqWAWqXAPHrOPHqYODHqZAYINrHAYINkNUMBERFIVEqONEtHUNDREDqTENrWENTY",
   "kPUNCTUATIONDOTyWITHINDOTxUBLEDOTWITHINDOTvFLEURONvLINEFILLERvSTARvTWODOTSkSIGNUD",
   "eNBUSINESSSUITLEVITATINGfTUXEDOdSSHOEdTELPIECECLOCKdUALWHEELCHAIRdWITHGUAPIMAOhTURBAN",
   "cPLELEAFdSYMBOLFORLIGHTHOUSEcRACASdCHENHEADMARKhLETTER-AnAnBAnCAoHAnDAoZAnGAnHAnJAnKAoHA",
   "nLAnMAnNAoGAoYAnPAoHAnRAnSAoHAnTAoHAoSApHAnWAnYAnZAoHAhMARKSHADhSIGNANUSVARAlCANDRABINDU",
   "iUBJOINEDLETTERAwBAwCAxHAwDAxZAwGAwHAwJAwKAxHAwLAwMAwNAxGAxYAwPAxHAwRAwSAxHAwTAxHAxSAyHA",
   "wWAwYAwZAxHAhVOWELSIGNAAqEqIqOqUdRIAGESYMBOLdTIALARTSUNIFORMcSARAMGONDIDIGITEIGHTrFIVEsOUR",
   "rNINErONErSEVENsIXrTHREEsWOrZEROmLETTERAtAtItUsBAtHAsCAtHAsDAtDAuHAtHAsEsGAtHAsHAsItIsJA",
   "tHAtNYAsKAtHAtSSAsLAtLAsMAsNAtGAtNAtYAsOsPAtHAsRAsSAtHAtSAsTAtHAtRAtTAuHAsUtUsVAsYAmRAKARA",
   "nEPHAmSIGNANUSVARAqCANDRAqHALANTAqNUKTAqVISARGAmVIRAMAnOWELSIGNAAwIwUvEvIwIvOvUwUvVOCALICR",
   "dCULINEORDINALINDICATORdKWORKSYMBOLdUMARKcTEDRINKdHEMATICALBOLDCAPITALAyLPHAxByETAxCyHIxD",
   "yELTAyIGAMMAxEyPSILONyTAxFxGyAMMAxHxIyOTAxJxKyAPPAxLyAMDAxMyUxNyUxOyMEGAzICRONxPyHIyIySIxQ",
   "xRyHOxSyIGMAxTyAUyHETA+cSYMBOLxUyPSILONxVxWxXyIxYxZyETAqDIGITEIGHTvFIVEwOURvNINEvONEvSEVEN",
   "wIXvTHREEwWOvZEROqEPSILONSYMBOLqFRAKTURCAPITALA+eB+eC+eD+eE+eF+eG+eH+eI+eJ+eK+eL+eM+eN+eO",
   "+eP+eQ+eR+eS+eT+eU+eV+eW+eX+eY+eZxSMALLA+cB+cC+cD+cE+cF+cG+cH+cI+cJ+cK+cL+cM+cN+cO+cP+cQ",
   "+cR+cS+cT+cU+cV+cW+cX+cY+cZqITALICCAPITALA+eLPHA+dB+eETA+dC+eHI+dD+eELTA+dE+ePSILON+eTA+dF",
   "+dG+eAMMA+dH+dI+eOTA+dJ+dK+eAPPA+dL+eAMDA+dM+eU+dN+eU+dO+eMEGA+fICRON+dP+eHI+eI+eSI+dQ+dR",
   "+eHO+dS+eIGMA+dT+eAU+eHETA+iSYMBOL+dU+ePSILON+dV+dW+dX+eI+dY+dZ+eETAwEPSILONSYMBOL",
   "wKAPPASYMBOLwNABLAwPARTIALDIFFERENTIALxHISYMBOLxISYMBOLwRHOSYMBOLwSMALLA+cLPHA+bB+cETA+bC",
   "+cHI+bD+cELTA+bE+cPSILON+cTA+bF+cINALSIGMA+bG+cAMMA+bH+bI+cOTA+bJ+bK+cAPPA+bL+cAMDA+bM+cU",
   "+bN+cU+bO+cMEGA+dICRON+bP+cHI+cI+cSI+bQ+bR+cHO+bS+cIGMA+bT+cAU+cHETA+bU+cPSILON+bV+bW+bX",
   "+cI+bY+bZ+cETAwTHETASYMBOLqKAPPASYMBOLqNABLAqPARTIALDIFFERENTIALrHISYMBOLrISYMBOL",
   "qRHOSYMBOLqSCRIPTCAPITALA+dB+dC+dD+dE+dF+dG+dH+dI+dJ+dK+dL+dM+dN+dO+dP+dQ+dR+dS+dT+dU+dV",
   "+dW+dX+dY+dZwSMALLA+bB+bC+bD+bE+bF+bG+bH+bI+bJ+bK+bL+bM+bN+bO+bP+bQ+bR+bS+bT+bU+bV+bW+bX",
   "+bY+bZrMALLAwLPHAvBwETAvCwHIvDwELTAwIGAMMAvEwPSILONwTAvFwINALSIGMAvGwAMMAvHvIwOTAvJvKwAPPA",
   "vLwAMDAvMwUvNwUvOwMEGAxICRONvPwHIwIwSIvQvRwHOvSwIGMAvTwAUwHETAvUwPSILONvVvWvXwIvYvZwETA",
   "qTHETASYMBOLmDOUBLESTRUCKCAPITALA+fB+fD+fE+fF+fG+fI+fJ+fK+fL+fM+fO+fS+fT+fU+fV+fW+fX+fY",
   "yDIGITEIGHT+dFIVE+eOUR+dNINE+dONE+dSEVEN+eIX+dTHREE+eWO+dZEROySMALLA+dB+dC+dD+dE+dF+dG+dH",
   "+dI+dJ+dK+dL+dM+dN+dO+dP+dQ+dR+dS+dT+dU+dV+dW+dX+dY+dZmFALLINGDIAGONALnRAKTURCAPITALA+aB",
   "+aD+aE+aF+aG+aJ+aK+aL+aM+aN+aO+aP+aQ+aS+aT+aU+aV+aW+aX+aYtSMALLAyByCyDyEyFyGyHyIyJyKyLyMyN",
   "yOyPyQyRySyTyUyVyWyXyYyZmITALICCAPITALA+aLPHAzB+aETAzC+aHIzD+aELTAzE+aPSILON+aTAzFzG+aAMMA",
   "zHzI+aOTAzJzK+aAPPAzL+aAMDAzM+aUzN+aUzO+aMEGA+bICRONzP+aHI+aI+aSIzQzR+aHOzS+aIGMAzT+aAU",
   "+aHETA+eSYMBOLzU+aPSILONzVzWzX+aIzYzZ+aETAsEPSILONSYMBOLsKAPPASYMBOLsNABLA",
   "sPARTIALDIFFERENTIALtHISYMBOLtISYMBOLsRHOSYMBOLsSMALLAyLPHAxByETAxCyHIxDyELTAyOTLESSI+eJxE",
   "yPSILONyTAxFyINALSIGMAxGyAMMAxIyOTAxJxKyAPPAxLyAMDAxMyUxNyUxOyMEGAzICRONxPyHIyIySIxQxRyHO",
   "xSyIGMAxTyAUyHETAxUyPSILONxVxWxXyIxYxZyETAsTHETASYMBOLmLEFTANGLEBRACKETqDOUBLEANGLEBRACKET",
   "qFLATTENEDPARENTHESISqWHITESQUAREBRACKETvTORTOISESHELLBRACKETmMONOSPACECAPITALA+cB+cC+cD",
   "+cE+cF+cG+cH+cI+cJ+cK+cL+cM+cN+cO+cP+cQ+cR+cS+cT+cU+cV+cW+cX+cY+cZvDIGITEIGHT+aFIVE+bOUR",
   "+aNINE+aONE+aSEVEN+bIX+aTHREE+bWO+aZEROvSMALLA+aB+aC+aD+aE+aF+aG+aH+aI+aJ+aK+aL+aM+aN+aO",
   "+aP+aQ+aR+aS+aT+aU+aV+aW+aX+aY+aZmRIGHTANGLEBRACKETrDOUBLEANGLEBRACKET",
   "rFLATTENEDPARENTHESISrWHITESQUAREBRACKETwTORTOISESHELLBRACKEToSINGDIAGONAL",
   "mSANSSERIFBOLDCAPITALA+hLPHA+gB+hETA+gC+hHI+gD+hELTA+gE+hPSILON+hTA+gF+gG+hAMMA+gH+gI+hOTA",
   "+gJ+gK+hAPPA+gL+hAMDA+gM+hU+gN+hU+gO+hMEGA+iICRON+gP+hHI+hI+hSI+gQ+gR+hHO+gS+hIGMA+gT+hAU",
   "+hHETA+lSYMBOL+gU+hPSILON+gV+gW+gX+hI+gY+gZ+hETAzDIGITEIGHT+eFIVE+fOUR+eNINE+eONE+eSEVEN",
   "+fIX+eTHREE+fWO+eZEROzEPSILONSYMBOLzITALICCAPITALA+nLPHA+mB+nETA+mC+nHI+mD+nELTA+mE",
   "+nPSILON+nTA+mF+mG+nAMMA+mH+mI+nOTA+mJ+mK+nAPPA+mL+nAMDA+mM+nU+mN+nU+mO+nMEGA+oICRON+mP",
   "+nHI+nI+nSI+mQ+mR+nHO+mS+nIGMA+mT+nAU+nHETA+rSYMBOL+mU+nPSILON+mV+mW+mX+nI+mY+mZ+nETA",
   "+fEPSILONSYMBOL+fKAPPASYMBOL+fNABLA+fPARTIALDIFFERENTIAL+gHISYMBOL+gISYMBOL+fRHOSYMBOL",
   "+fSMALLA+lLPHA+kB+lETA+kC+lHI+kD+lELTA+kE+lPSILON+lTA+kF+lINALSIGMA+kG+lAMMA+kH+kI+lOTA+kJ",
   "+kK+lAPPA+kL+lAMDA+kM+lU+kN+lU+kO+lMEGA+mICRON+kP+lHI+lI+lSI+kQ+kR+lHO+kS+lIGMA+kT+lAU",
   "+lHETA+kU+lPSILON+kV+kW+kX+lI+kY+kZ+lETA+fTHETASYMBOLzKAPPASYMBOLzNABLA",
   "zPARTIALDIFFERENTIAL+aHISYMBOL+aISYMBOLzRHOSYMBOLzSMALLA+fLPHA+eB+fETA+eC+fHI+eD+fELTA+eE",
   "+fPSILON+fTA+eF+fINALSIGMA+eG+fAMMA+eH+eI+fOTA+eJ+eK+fAPPA+eL+fAMDA+eM+fU+eN+fU+eO+fMEGA",
   "+gICRON+eP+fHI+fI+fSI+eQ+eR+fHO+eS+fIGMA+eT+fAU+fHETA+eU+fPSILON+eV+eW+eX+fI+eY+eZ+fETA",
   "zTHETASYMBOLvCAPITALA+cB+cC+cD+cE+cF+cG+cH+cI+cJ+cK+cL+cM+cN+cO+cP+cQ+cR+cS+cT+cU+cV+cW+cX",
   "+cY+cZvDIGITEIGHT+aFIVE+bOUR+aNINE+aONE+aSEVEN+bIX+aTHREE+bWO+aZEROvITALICCAPITALA+iB+iC",
   "+iD+iE+iF+iG+iH+iI+iJ+iK+iL+iM+iN+iO+iP+iQ+iR+iS+iT+iU+iV+iW+iX+iY+iZ+bSMALLA+gB+gC+gD+gE",
   "+gF+gG+gH+gI+gJ+gK+gL+gM+gN+gO+gP+gQ+gR+gS+gT+gU+gV+gW+gX+gY+gZvSMALLA+aB+aC+aD+aE+aF+aG",
   "+aH+aI+aJ+aK+aL+aM+aN+aO+aP+aQ+aR+aS+aT+aU+aV+aW+aX+aY+aZnCRIPTCAPITALAzCzDzGzJzKzNzOzPzQ",
   "zSzTzUzVzWzXzYzZsSMALLAxBxCxDxFxHxIxJxKxLxMxNxPxQxRxSxTxUxVxWxXxYxZcXIMIZEcYANNUMERALEIGHT",
   "rEENnLEVENmFIFTEENoVEnOURqTEENmNINEqTEENmONEmSEVENrTEENnIXpTEENmTENnHIRTEENoREEnWELVEoO",
   "mZERObEASUREDANGLEnOPENINGLEFTnWITHOPENARMENDINGINARROWPOINTINGDOWNANDLEFT++aRIGHT",
   "+tLEFTANDDOWN++aUP+tRIGHTANDDOWN++bUP+tUPANDLEFT+yRIGHTiBYiRIGHTANGLEWITHDOTdTONBONE",
   "cCHANICALARMkLEGcDEFAIDRINCAPITALLETTERAzIzTIUyByCyDyEyFyGyHzPyIyJyKzPyLyMyNzGzYyOzEyPyQyR",
   "ySyTyUyVyWyXyYzUyZmOMMAlDIGITEIGHTqFIVErOURqNINEqONEtALTERNATEFORMqSEVENrIXqTHREE",
   "vALTERNATEFORMrWOtALTERNATEFORMqZEROlEXCLAMATIONOHlFULLSTOPlNUMBEREIGHTEENsLEVENrFIFTEEN",
   "sOURTEENrNINETEENrSEVENTEENsIXTEENrTENsHIRTEENsWELVElSMALLLETTERAxIxTIUwBwCwDwEwFwGwHxPwI",
   "wJwKxPwLwMwNxGxYwOxEwPwQwRwSwTwUwVwWwXwYxUwZmYMBOLAIVAdIEVALCOMMAiEXCLAMATIONMARK",
   "iQUESTIONMARKeUMBLACKCIRCLEhOLDWHITECIRCLEgEIGHTPOINTEDBLACKSTARlSPOKEDASTERISK",
   "gFIVESPOKEDASTERISKhLATTENEDLEFTPARENTHESISORNAMENTpRIGHTPARENTHESISORNAMENT",
   "hOURPOINTEDBLACKSTARrPINWHEELSTARgGREEKCROSSgLEFTCURLYBRACKETORNAMENTkPARENTHESISORNAMENT",
   "lOINTINGANGLEBRACKETORNAMENTgMATHEMATICALSPACEgRIGHTCURLYBRACKETORNAMENT",
   "lPARENTHESISORNAMENTmOINTINGANGLEBRACKETORNAMENTgSALTIREhHADEhIXPOINTEDBLACKSTAR",
   "jSPOKEDASTERISKhMALLWHITECIRCLEwWITHHORIZONTALBARgTHREEPOINTEDBLACKSTARsPINWHEELSTAR",
   "gVERTICALBARgWHITECIRCLElSQUAREcETEIMAYEKAHANGKHUDAMmNJImPUNIYEKlCHEIKHANrEIlDIGITEIGHT",
   "qFIVErOURqNINEqONEqSEVENrIXqTHREErWOqZEROlLETTERATIYArBAsHAMrCHAtILrDDAtHAsHOUsILrErGHOU",
   "sOKrHUKrIsLONSUMrJHAMsILrKHOUsOKuLONSUMrLAIuLONSUMrMITuLONSUMrNAtLONSUMsGOUvLONSUMsNAsYArO",
   "rPAtLONSUMsHAMrRAIrSAMsHAsSArTHOUsILuLONSUMsTAtHArUNrWAIrYANGmUMIYEK",
   "lSYLLABLEREPETITIONMARKlVIRAMAmOWELSIGNAAIwUvNAPvUuCHEINAPuIIvNAPuNUNGuONAPuSOUNAPuUNAPvU",
   "uVISARGAuYENAPlWORDREPETITIONMARKcLONdPOMENEdTINGFACEcMOcNDEKIKAKUICOMBININGNUMBERHUNDREDS",
   "+iTHOUSANDS+bMILLIONS+bTEENS+dNS+eTHOUSANDS+cHOUSANDSmDIGITEIGHTrFIVEsOURrNINErONErSEVEN",
   "sIXrTHREEsWOmSYLLABLEM001KIx2KAx3KUx4WIx5WAx6WUx7MINx8MANx9MUNw10BIx1BAx2BUx3Ix4Ax5Ux6DI",
   "x7DAx8DUx9SIw20SAx1SUx2TIx3TAx4TUx5LIx6LAx7LUx8JIx9JAw30JUx1YIx2YAx3YUx4FIx5FAx6FUx7NIN",
   "x8NANx9NUNw40HEEx1HAx2HOOx3NGGAx4KPEEx5WOx6HUANx7MBEEx8KOx9WVAw50PUx1PEx2HENx3HINx4LOOx5TE",
   "x6GBAx7NGONx8NYANx9MENw60NYONx1WVIx2MBAx3JOx4NDOx5KEEx6POx7NDOOx8PIx9TOw70GBOx1GBOOx2MBE",
   "x3LEx4KPUx5FEx6KOOx7VOx8FEEx9SOw80YEx1PEEx2NGGUx3HEEIx4LEEx5VEx6LONGNGGEx7HUNx8FOx9DEE",
   "w90NGGIx1TEEx2KPAx3GBEEx4MONx5KEx6HEx7BEx8NYENx9PAv100Ex1FANx2POOx3BOOx4TOOx5LONGMBOO",
   "x6LONGNGGOOx7GBEx8KPEx9YEEw10LONGLEx1GAx2KPOOx3JEx4WOOx5NGGEEx6SEx7NENx8WEx9NDEw20NGGOx1YO",
   "x2MBUx3NDIx4GBIx5NDUx6WEEx7NGGUAx8HOOUx9NDAw30HANx1INx2KPIx3FOOx4NJOOx5INx6SOOx7EIx8BO",
   "x9WVEw40HOx1YOOx2LONGMBOx3WEIx4VOOx5MBIx6NGGEx7Ox8GBUx9NJEEw50BEEx1VUx2NJAx3LOx4MUANx5GI",
   "x6NGGOOx7JEEx8KPOx9NGGAAw60JOOx1LONGMBEx2SEEx3EEx4NYINx5OOx6GUEIx7GUANx8GUx9NONw70NYUNx1RA",
   "x2MBO+bOx3VEEx4MBO+bOx5LONGJOx6HIx7NGUANx8ENx9KUAw80DOOx1DOx2VIx3LONGNGGOx4NGENx5VAx6HU",
   "x7MBUUx8MBEEx9MUENw90GEEx1NDEEx2NJUx3HONx4WUIx5ANx6SIAx7FUAdORAHWITHNINEBRANCHESdSSYMBOL",
   "cRCURYdOITICCURSIVEFRACTIONEIGHTTWELFTHSyLEVENTWELFTHSxFIVETWELFTHSyOURTWELFTHS",
   "xNINETWELFTHSxONEHALF+aTWELFTHxSEVENTWELFTHSyIXTWELFTHSxTENTWELFTHSyHREETWELFTHS",
   "yWOTWELFTHSpLETTERAwRCHAICSAvBAvDAvEvHHAvIvKAwHAvLAvMAvNAwEvOvPAvQAvRAvSAwEvTAwEwOvWAvYA",
   "qOGOGRAMIMNxRMTpNUMBEREIGHT+aHUNDRED+hTHOUSAND+aTHOUSAND+aYTHOUSANDvFIFTY+aTHOUSANDxVE",
   "zHUNDRED+gTHOUSANDzTHOUSANDwORTY+aTHOUSANDxURzHUNDRED+gTHOUSANDzTHOUSANDvNINEzHUNDRED",
   "+gTHOUSANDzTHOUSAND+aYTHOUSANDvONEyHUNDRED+fTHOUSANDyTHOUSANDvSEVEN+aHUNDRED+hTHOUSAND",
   "+aTHOUSAND+bY+cTHOUSANDwIXyHUNDRED+fTHOUSANDyTHOUSANDzY+aTHOUSANDvTENyTHOUSANDwHIRTY",
   "+bTHOUSANDxREE+aHUNDRED+hTHOUSAND+aTHOUSANDwWENTY+bTHOUSANDxOyHUNDRED+fTHOUSANDyTHOUSAND",
   "iHIEROGLYPHICLETTERA+aBA+c2+aDA+aE+aHHA+aI+aKA+bHA+aLA+aMA+aNA+c2+bE+c2+aO+aPA+aQA+aRA+c2",
   "+aSA+c2+bE+aTA+c2+bE+c2+bO+aWA+aYAuSYMBOLVIDJ+e2dPERSONcSSAGEWAITINGcTISdRICALBREVE",
   "iLONGOVERSHORTqTWOSHORTSiPENTASEMEiSHORTOVERLONGiTETRASEMEjRISEMEjWOSHORTSJOINEDrOVERLONG",
   "eObIAOLETTERAHlRCHAICMArNAsGArZZAkBAlRIkDAlDAlLHAnYAlZAmHAmYImZAkFAkGAlHAmHAkHAlHAkKAkLA",
   "lHAmYAlYAkMAlHAkNAmSALIZATIONlGAmHAlHAlNAmHAlYAmHAkPAlLAkQAlGAkREFORMEDTONE1w2w4w5w6w8tSHA",
   "lTEkSAlHAlSAlYIkTAlElLHAnYAlONE2o3o4o5o6o7o8lSAmEmHAmSAlTAkVAlFAkWAkXAkYIDZHAmKAmNNAmPAmTA",
   "nSAoHAnTAkZAlHAlSAmHAlZAmSAnYAmYAeSIGNASPIRATIONiCONSONANTMODIFIERBARiREFORMEDASPIRATION",
   "qVOICINGeTONEABOVEiBELOWiRIGHTiTOPRIGHTeVOWELSIGNAoAoEpEoHHoIoNpGoUnEoAoIoNpGoRpRnIoApNqG",
   "oEoGoIoNGoOpNGoUnNoGnOoERpYoGoOoUnROUNDEDERwRnUoApNqGoEIoIoNGoOGoUnVWnWoOnYoIoUI",
   "cCRDASHSYMBOLeOBEfNUSSYMBOLfPHONEfSCOPEgIGNcDDLEDOTgLEFTONEQUARTERBLOCK",
   "gRIGHTONEQUARTERBLOCKgTHIRDINDUCTORlWHITERIGHTPOINTINGINDEXdLINEHORIZONTALELLIPSIS",
   "cLITARYHELMETiMEDALdKYWAYdLSIGNcNIBUSeDISCeMIZEdUSORPLUSSIGNfSIGNjINTRIANGLE",
   "jWITHCOMMAABOVEnDOTBELOWnFALLINGDOTSnRISINGDOTSfTILDEdYcRRORgBALLbMSPbOBILEPHONElOFF",
   "lWITHRIGHTWARDSARROWATLEFTcDELSeRNPENTATHLONdIABBREVIATIONSIGNeDANDAfIGITEIGHTjFIVEkOUR",
   "jNINEjONEjSEVENkIXjTHREEkWOjZEROfOUBLEDANDAeFIERBREVEWITHINVERTEDBREVEiLETTERACUTEACCENT",
   "pLVEOLARCLICKpPOSTROPHEoBEGINHIGHTONEtLOWTONEpILABIALCLICKoCAPITALAwEvBwARREDBvCvDvEvFvGvH",
   "wWITHSTROKEvIvJvKvLvMvNvOwUvPvQvRwEVERSEDE+dNvSvTvUvVvWpENTREDLEFTHALFRINGvRIGHTHALFRING",
   "pHINESETONEYANGPING+dQU+dRU+dSHANG+aINPING+cQU+cRU+cSHANGpIRCUMFLEXACCENTpOLONpROSSACCENT",
   "pYRILLICENwHARDSIGNwSMALLA+bBARREDO+cE+cYELORUSSIANUKRAINIANI+bCHE+bDE+cZZE+bE+cF+cL+cM+cR",
   "+cS+dWITHDESCENDER+bGHE+bHA+bI+cE+bJE+bKA+bO+bPALOCHKA+cE+bSCHWA+cHA+cTRAIGHTU+kWITHSTROKE",
   "+bTE+cSE+bU+bVE+bYERU+fWITHBACKYER+cU+bZE+cHExOFTSIGNoDENTALCLICKpOTHORIZONTALBARrSLASH",
   "rVERTICALBARqUBLEAPOSTROPHEuPRIMEqWNARROWHEADsTACKoENDHIGHTONErLOWTONE",
   "pXTRAHIGHDOTTEDLEFTSTEMTONEBAR+dTONEBARxLEFTSTEMTONEBARxTONEBARtLOWDOTTEDLEFTSTEMTONEBAR",
   "+cTONEBARwLEFTSTEMTONEBARwTONEBARoGEORGIANNARpLOTTALSTOPzWITHSTROKEpRAVEACCENT",
   "oHALFTRIANGULARCOLONpIGHDOTTEDLEFTSTEMTONEBARyTONEBARsLEFTSTEMTONEBARsTONEBARoLATERALCLICK",
   "pEFTARROWHEADsHALFRINGsTACKpOWACUTEACCENTrCIRCUMFLEXACCENTrDOTTEDLEFTSTEMTONEBARxTONEBAR",
   "tWNARROWHEADrERRIGHTCORNERANGLErGRAVEACCENTrINVERTEDEXCLAMATIONMARKrLEFTARROW+aHEAD",
   "vSTEMTONEBARrMACRONrRIGHTARROWHEADtNGrTILDEsONEBARrUPARROWHEADrVERTICALLINEoMACRON",
   "pIDDLEDOUBLEACUTEACCENT+aGRAVEACCENTuGRAVEACCENTsOTTEDLEFTSTEMTONEBARxTONEBAR",
   "rLEFTSTEMTONEBARrTONEBARqNUSSIGNoOPENSHELFoPLUSSIGNpRIMEoRAISEDCOLONuDOWNARROW",
   "uEXCLAMATIONMARKuINVERTEDEXCLAMATIONMARKuUPARROWpETROFLEXCLICKWITHRETROFLEXHOOK",
   "qVERSEDCOMMAwGLOTTALSTOP+hWITHSTROKEpHOTICHOOKpIGHTARROWHEADtHALFRINGtTACKoSHELF",
   "qORTEQUALSSIGNpMALLAuEuINuLPHAtBuARREDOuETAuOTTOMHALFOuWITHHOOKtCuAPITALAA+aB+aG+bWITHHOOK",
   "+aH+aI+bNVERTEDR+bWITHSTROKE+aL+bWITHBELT+aN+aOE+aR+aU+aYuHIuLOSEDOMEGAzREVERSEDOPENE",
   "uWITHCURLtDuELTAvZHDIGRAPHuOTLESSJWITHSTROKE+lANDHOOKuWITHHOOK+cANDTAILyTAILuZDIGRAPH",
   "+cWITHCURL+gRETROFLEXHOOKtEuNGuSHuTHuZHtFuENGDIGRAPHtGuAMMAuREEKGAMMAyPHIuWITHHOOKtHuENG",
   "xWITHHOOKuWITHHOOKySTROKEtIOTAuWITHSTROKEtJuWITHCROSSEDTAILtKtLuEZHxWITHRETROFLEXHOOK",
   "uIGATUREOEuSDIGRAPHuWITHBELTyINVERTEDLAZYSyMIDDLETILDEyPALATALHOOKyRETROFLEXHOOK+lANDBELT",
   "uZDIGRAPHtMuWITHHOOKtNWITHLEFTHOOKyRETROFLEXHOOKtOuPENExOuWITHSTROKEtPuHItQtRuAMSHORN",
   "uEVERSEDE+bGLOTTALSTOP+bOPENEuWITHFISHHOOKyTAILtSuCHWAvRIPTGuIDEWAYSUuWITHCURLyHOOKtT",
   "uCDIGRAPHWITHCURLuESHDIGRAPHuHETAuOPHALFOuSDIGRAPH+cWITHRETROFLEXHOOKuURNEDA+aE+aLPHAzHzI",
   "zM+aWITHLONGLEGzOPENEzR+aWITHHOOK+eLONGLEG+lANDRETROFLEXHOOKzVzWzY+aWITHBELT",
   "uWITHPALATALHOOKyRETROFLEXHOOKtUuBARuPSILONuWITHLEFTHOOKtVuWITHHOOKyRIGHTHOOKtWtXtYtZ",
   "uWITHCURLyRETROFLEXHOOKpTRESSANDHIGHTONExLOWTONEpUPERSCRIPTHALFTRIANGULARCOLON",
   "zTRIANGULARCOLONoTRIANGULARCOLONpURNEDCOMMAoUNASPIRATEDpPARROWHEADqTACKpSoVERTICALLINE",
   "pOICINGoYANGDEPARTINGTONEMARKpINDEPARTINGTONEMARKeLETTERAlAlIlUkBAlHAkCAlHAkDAlDAmHAlHAkE",
   "kGAlHAkHAkIlIkJAlHAkKAlHAkLAlLAkMAkNAlGAlNAlYAkOkPAlHAkRAkSAlHAlSAkTAlHAlTAmHAkUlUkVA",
   "lOCALICLsLrRsRkYAeSIGNANUSVARAjRDHACANDRAiHUVAiVIRAMAkSARGAeVOWELSIGNAAoIoUnEnIoInOnUoU",
   "nVOCALICLvLuRvRdULOTWOSUMcNEYBAGfMOUTHFACEfWITHWINGSdGOLIANBIRGAoWITHDOUBLEORNAMENT",
   "sORNAMENTjCOLONlMMAjDIGITEIGHToFIVEpOURoNINEoONEoSEVENpIXoTHREEpWOoZERO",
   "kOUBLEBIRGAWITHORNAMENTjELLIPSISjFOURDOTSkREEVARIATIONSELECTORFOUR+eONE+eTHREE+fWOkULLSTOP",
   "jINVERTEDBIRGAwWITHDOUBLEORNAMENTjLETTERAqLIGALIAxHxNUSVARAONEwBALUDAwCAwDAyGALGAyMARUxDA",
   "wHALFU+aYAwIxNVERTEDUBADAMAwKAwNGAxNAwPAxHAwSSAwTAxHREEBALUDAxTAyHAwUBADAMAwVISARGAONEwZA",
   "xHAqNGpBApCHAsWITHTWODOTSrIpDApEqEpFApGApHAApIpJApKAqHApLAqHApMArNCHUALIGALIBHA+cCA+dYA",
   "+cDDHA+dHA+cGHA+cJHA+cLHA+cNGA+cSSA+cTA+dTA+cZA+dHAvFAvIvKAvRAvZHApNApOqEpPApQApRApSAqHA",
   "qIBEANGtCHAtDAtEtFAtGAvAtHAvAtIuYtJAtKAtPAtRAAtSHAtTAuSAtUuEtZAuHApTAqODOALIGALITA+aZHAuNG",
   "tBAtCHAtDAuZAtEtGAvAtHAAtItJAuIAtKAtLONGVOWELSIGNtMAtNIAtOuEtPAtQAtTAuSAtUuEtWAtYAqSApUqE",
   "pWApYApZAqHIqRAjMANCHUCOMMApFULLSTOPjNIRUGUjROTATEDBIRGAvWITHDOUBLEORNAMENTzORNAMENT",
   "jSIBESYLLABLEBOUNDARYMARKERkWIRLBIRGAtWITHDOUBLEORNAMENTxORNAMENTjTODOSOFTHYPHEN",
   "kRIPLEBIRGAWITHORNAMENTkURNEDSWIRLBIRGAWITHDOUBLEORNAMENTjVOWELSEPARATORdKEYgFACE",
   "dOGRAMFOREARTHlYANGmINeRAILeSTABLESYMBOLcODBUBBLEdNCAKEeLANDEReVIEWINGCEREMONYdSEcSQUEfITO",
   "cTHERCHRISTMASdORBOATfIZEDWHEELCHAIRfSCOOTERfWAYcUNTAINiBICYCLISTiCABLEWAYiRAILWAYfFUJIdSE",
   "fFACEfTRAPdTHcVIECAMERAcYAIbRODANDAeIGITEIGHTiFIVEjOURiNINEiONEiSEVENjIXiTHREEjWOiZERO",
   "eOUBLEDANDAdLETTERAjBAjCHUjDAlIjEkAjHAIlOjKEAAEkHAIkOjLAlNjMAEMkIMjNGIkINjOkLkOjPAkHIjRIkO",
   "jSHIjTAkEKkHEAjWAjYObUCHGREATERTHANeLESSTHANcLTANILETTERAnBAoHAnCAoHAnDAoDApDApHAoHAnEnGA",
   "oHAnHAnInJAoJAnKAoHAnLAnMAnNAoNAoYAnPAoHAnRAoHAoRAnSAnTAoHAoTApHAnUnVAnYAhSECTIONMARKeIMAP",
   "fPLEMUSICALNOTEShICATIONSIGNsINDOUBLECIRCLEuLEFTHALFCIRCLEuRIGHTHALFCIRCLEuTRIANGLE",
   "sWITHDOTABOVEwUNDERBARoXfSETiMULTIPLICATIONiUNIONcSHROOMiCLOUDdICALKEYBOARDpWITHJACKShNOTE",
   "hSCOREiYMBOLARPEGGIATODOWNxUPnBEGINBEAMsPHRASEsSLURsTIEoRACErKETpEATHMARKqVErIStREST",
   "nCAESURAoCLEFoIRCLEXNOTEHEADoLIMACUSqVISpUSTERNOTEHEADBLACK+cWHITEoODApMBININGACCENT",
   "+cSTACCATOxUGMENTATIONDOTwBENDwDOITyUBLETONGUEyWNBOWwFLAG1+a2+a3+a4+a5yIPwHARMONICwLOURE",
   "wMARCATO+dSTACCATOwRIPwSMEARxNAPPIZZICATOxPRECHGESANGSTEMxTACCATISSIMO+dOyEMwTENUTO",
   "xREMOLO1+d2+d3yIPLETONGUEwUPBOWqMONTIMEoRESCENDOpOIXoUTTIMEnDACAPOpLSEGNOpMPrALL",
   "pSHEDBARLINEoECRESCENDOpGREESLASHoOUBLEBARLINEtFLATtSHARPoRUMCLEF1v2nEIGHTHNOTEtREST",
   "oNDBEAMqOFSTIMMEqPHRASEqSLURqTIEnFCLEFsOTTAVAALTAyBASSAoERMATAuBELOWoINALBARLINE",
   "qGEREDTREMOLO1+c2+c3pVELINESTAFFoLATDOWNrUPoORTEpURLINESTAFFrSTRINGFRETBOARDoUSABLACK",
   "rWHITEnGCLEFsOTTAVAALTAyBASSAoLISSANDODOWNwUPoRACENOTENOSLASHwSLASHpEGORIANCCLEFwFCLEF",
   "nHALFNOTErPEDALMARKrRESTpUPTSTIMMEnINVERTEDTURNnKIEVANCCLEFtEIGHTHNOTESTEMDOWN+hUP",
   "uNDOFPIECEtFINALNOTEuLATSIGNtHALFNOTEtQUARTERNOTESTEMDOWN+iUPtRECITATIVEMARKtWHOLENOTE",
   "oORONnLEFTREPEATSIGNoONGAsIMPERFECTARESTsPERFECTARESTnMAXIMAoEZZOoINIMAtBLACKtREST",
   "oOONNOTEHEADBLACKzWHITEoULTIPLEMEASURERESTsRESTnNATURALDOWNuUPoEBENSTIMMEoOTEHEADBLACK",
   "oULLNOTEHEADnONEHUNDREDTWENTYEIGHTHNOTE+jRESTqLINESTAFFoRNAMENTSTROKE1+c0+c1+b2+b3+b4+b5",
   "+b6+b7+b8+b9oTTAVAALTAtBASSAnPARENTHESISNOTEHEADoEDALMARKsUPMARKpSSUBPUNCTISoIANO",
   "oLUSNOTEHEADoODATUSpRRECTUSwFLEXUSnQUARTERNOTEuRESTuTONEFLATySHARPpINDICESIMAALTAzBASSA",
   "nREPEATDOTStEDFIGURE1+b2+b3pVERSEFINALBARLINEoIGHTREPEATSIGNpNFORZANDOnSCANDICUSwFLEXUS",
   "oEGNOpMIBREVISBLACKxRESTxWHITErMINIMABLACKxRESTxWHITEoHARPDOWNsUPpORTBARLINEoINGLEBARLINE",
   "pXLINESTAFFqSTRINGFRETBOARDqTEENTHNOTEwRESTrYFOURTHNOTEyRESToORIoQUAREBtNOTEHEADBLACK",
   "+bWHITEoUBITOnTEMPUSIMPERFECTUMCUMPROLATIONEIMPERFECTA++bDIMINUTION1++l2++l3+rPERFECTA",
   "tPERFECTUMCUMPROLATIONEIMPERFECTA+pPERFECTA+xDIMINUTION1oHIRTYSECONDNOTEzRESTpREELINESTAFF",
   "oORCULUSvRESUPINUSoRpIANGLENOTEHEADDOWNBLACK+hWHITE+dLEFTBLACK+hWHITE+dRIGHTBLACK+iWHITE",
   "+dUPBLACK+fRIGHTBLACK+kWHITE+fWHITEvROUNDNOTEHEADDOWNBLACK+mWHITEoURNrSLASHrUPoWOLINESTAFF",
   "nVIRGAoOIDNOTEHEADnWHOLENOTEsRESToITHFINGERNAILSnXNOTEHEADnZfFLATSIGNfNATURALSIGN",
   "fSHARPSIGNbVSbWbYANMARCONSONANTSIGNMEDIALHA+aRA+aWA+aYAvONMEDIALLA+dMA+dNAuSHANMEDIALWA",
   "hDIGITEIGHTmFIVEnOURmNINEmONEmSEVENnIXmTHREEnWOmZEROhEASTERNPWOKARENDIGITEIGHT+bFIVE+cOUR",
   "+bNINE+bONE+bSEVEN+cIX+bTHREE+cWO+bZEROhLETTERAoITONRAoUnBAoHAnCAoHAnDAoDApHAoHAnE",
   "oASTERNPWOKARENGHWA+cNNA+cYWAnGAoHAoREATSAnHAnIoInJAoHAnKAoHAqMTICAuHAtDDAvHAuHAtFAtGAtHA",
   "uHAtJAuHAtLLAtNAuYAtRAtSAtTTAvHAtXAtZAnLAoLAnMAoONBBAsEqEqJHAqNGAnNAoGAoNApYAoYAnOnPAoHA",
   "nRAoUMAIPALAUNGFAnSAoGAWKARENSHAoHAqNArBAsHArCAsHArDArFArGAsHArHArJHArKAsHArNAsNAsYArPHA",
   "rTHArZApWEPALAUNGCHAySHAoSAnTApILAINGBAwHAvDAwDAxHAwHAvFAvGAwHAvJAwHAvLLAvNNAwYAoHAoTApHA",
   "nUoUnVOCALICLvLuRvRnWAoESTERNPWOKARENPWA+cTHAnYAiOGOGRAMKHAMTIHMvOAYvQN",
   "hMODIFIERLETTERKHAMTIREDUPLICATIONvSHANREDUPLICATIONhPAODIGITEIGHTpFIVEqOURpNINEpONEpSEVEN",
   "qIXpTHREEqWOpZEROhSHANDIGITEIGHTqFIVErOURqNINEqONEqSEVENrIXqTHREErWOqZEROiIGNANUSVARAmSAT",
   "lDOTBELOWlKHAMTITONE1v3lLITTLESECTIONlPAOKARENTONElRUMAIPALAUNGTONE5lSECTION",
   "mHANCOUNCILEMPHATICTONEwTONE2+a3pSAWpTONE2t3t5t6lTAILAINGTONE2x5lVIRAMAnSARGA",
   "lWESTERNPWOKARENTONE1+e2+e3+e4+e5iYMBOLAFOREMENTIONEDoITONEXCLAMATIONsONEsTWOnCOMPLETED",
   "nGENITIVEnLOCATIVEnSHANEXCLAMATIONrONEhTAILAINGDIGITEIGHTuFIVEvOURuNINEuONEuSEVENvIXuTHREE",
   "vWOuZEROiONEMARKSGAWKARENHATHIyKEPHOhVOWELSIGNAArIsTONAwIqErABOVEqGEBAKARENIqIrIqKAYAHEE",
   "vOEvUqMONIItOqSGAWKARENEUrHANAAuEvABOVEuFINALYqTALLAAqUrUqVOCALICLyLxRyRqWESTERNPWOKARENEU",
   "+fUE"]

end Stepwise.Text.NameTable
