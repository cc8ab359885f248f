/-!
# Names of characters, A to C

The part of the table of names whose first letter is between A and C. How a
name is written is told where the table is searched.
-/

namespace Stepwise.Text.NameTable

/-- The names between A and C. -/
def aToC : List String :=
  ["aABACUSbCCORDIONeUNTOFdURRENTcKdNOWLEDGEcTIVATEARABICFORMSHAPINGiSYMMETRICSWAPPING",
   "cUTEACCENTgNGLEbDDRESSEDTOTHESUBJECTcHESIVEBANDAGEcISHAKTIcLAMALIFLENGTHENER",
   "fCAPITALLETTERALIFsBAtHEsCHIsDAALItHAsEsFAsGAtBEsHAsIsJIIMsKAFtHAtPOsLAAMsMIIMsNHAtUNtYAsO",
   "sPEsQAAFsRAsSHAtINNYIIYHEsTUsUsVAsWAWsYAtHEsZALgONSONANTMODIFIERfDIGITEIGHTkFIVElOURkNINE",
   "kONEkSEVENlIXkTHREElWOkZEROfGEMINATECONSONANTMODIFIERmIONMARKfHAMZAfINITIALEXCLAMATIONMARK",
   "mQUESTIONMARKfNASALIZATIONMARKgUKTAfSMALLLETTERALIFqBArHEqCHIqDAALIrHAqEqFAqGArBEqHAqI",
   "qJIIMqKAFrHArPOqLAAMqMIIMqNHArUNrYAqOqPEqQAAFqRAqSHArINNYIIYHEqTUqUqVAqWAWqYArHEqZAL",
   "fVOWELLENGTHENERcMETOSdISSIONTICKETScULTbEGEANCHECKMARKgDRYMEASUREFIRSTSUBUNIT",
   "gLIQUIDMEASUREFIRSTSUBUNITgMEASURESECONDSUBUNITnTHIRDSUBUNITgNUMBEREIGHTrHUNDREDrTHOUSAND",
   "rYsTHOUSANDmFIFTYrTHOUSANDoVEqHUNDREDqTHOUSANDnORTYrTHOUSANDoURqHUNDREDqTHOUSANDmNINE",
   "qHUNDREDqTHOUSANDrYsTHOUSANDmONEpHUNDREDpTHOUSANDmSEVENrHUNDREDrTHOUSANDsYtTHOUSANDnIX",
   "pHUNDREDpTHOUSANDqYrTHOUSANDmTENpTHOUSANDnHIRTYsTHOUSANDoREErHUNDREDrTHOUSANDnWENTY",
   "sTHOUSANDoOpHUNDREDpTHOUSANDgWEIGHTBASEUNITmFIRSTSUBUNITnOURTHSUBUNITmSECONDSUBUNIT",
   "mTHIRDSUBUNIThORDSEPARATORDOTtLINEcRIALTRAMWAYbFGHANISIGNbHOMCONSONANTSIGNMEDIALLA",
   "yIGATINGRAxRAeDIGITEIGHTjFIVEkOURjNINEjONEjSEVENkIXjTHREEkWOjZEROeLETTERAlLTERNATEBAtGAtTA",
   "kBAlHAkCAlHAkDAlDAmHAlHAkGAlHAkHAkJAlHAkKAlHAkLAlLAkMAkNAlGAlNAlYAkPAlHAkRAkSAkTAlHAlTAmHA",
   "eNUMBERTENlWENTYeSIGNKILLERiRULAIiSECTIONjMALLSECTIONfYMBOLVIeVOWELSIGNAoAoIoMoWnEnIoInOnU",
   "oUbIRPLANEiARRIVINGiDEPARTUREbKTIESELSKABbLARMBELLSYMBOLfCLOCKcCHEMICALSYMBOLFORAIRuLEMBIC",
   "vKALIz2vUMuMALGAMuNTIMONYOREuQUAFORTISxREGIA+c2xVITAE+c2uRSENICuSHESuURIPIGMENTtBATHOFMARY",
   "zVAPOURSuISMUTHOREuLACKSULFURuORAXy2y3uRICKtCADUCEUSvLXvPUTMORTUUMuINNABAR",
   "uOPPERANTIMONIATEzOREuROCUSOFCOPPER+h2+bIRONvUCIBLE+b2+b3+b4+b5tDAYNIGHTuISSOLVE+b2wTILL",
   "tEARTHtFIREtGOLDuUMtHALFDRAMxOUNCEuORSEDUNGvURtIRONCOPPERORExORE+a2tLEADOREuODESTONE",
   "tMARCASITEuERCURYSUBLIMATE+j2+j3uONTHtNIGHTvTREtOILtPHILOSOPHERSSULFURuOTASHESvWDER",
   "zEDBRICKuRECIPITATEuURIFYvTREFACTIONtQUICKLIMEwNTESSENCEtREALGAR+a2vGULUS+a2+a3+a4",
   "+aOFANTIMONY+k2+cIRONvTORTuOCKSALT+b2tSALAMMONIACwTxOFANTIMONYzCOPPERANTIMONIATE",
   "uCEPTEROFJOVEuILVERuOAPuPIRITuTARREDTRIDENTvRATUMSUPERSTRATUM+m2uUBLIMATEOFANTIMONY",
   "+eCOPPER+eSALTOFANTIMONY+kCOPPER+bIONvLFURtTARTARz2uINCTUREwOREuRIDENTuUTTYtURINE",
   "tVERDIGRISuINEGAR+a2+a3+aOFANTIMONYvTRIOL+a2tWATERvXcEFSYMBOLdMBICdRTcIENCRABSTEPPINGLEFT",
   "rRIGHTfMONSTERmCLOSEDJAWSmOPENJAWSmSTEP1q2fSPIDERCROUCHINGlSPREADgQUIDCLOSEDTENTACLES",
   "kOPENTENTACLEScLAROUNDPROFILEdEQUALTOcMdOSTEQUALOREQUALTOlTOnWITHCIRCUMFLEXACCENT",
   "cTERNATEONEWAYLEFTWAYTRAFFICiIVEKEYSYMBOLbMALGAMATIONORCOPRODUCTcBULANCEcERICANFOOTBALL",
   "cPERSANDdHITRITEeORAbNATOLIANHIEROGLYPHA001w2w3w4w5w6w7w8w9v10xAw1w2w3w4w5w6w7w8w9v20w1w2",
   "w3w4w5w6xAw7w8w9v30w1w2w3w4w5w6w7w8w9xAv40w1xAw2w3w4w5xAw6xAxBw7w8w9v50w1w2w3w4w5w6w7w8w9",
   "v60w1w2w3w4w5w6xAxBxCw7w8w9v70w1w2w3w4w5w6w7w8w9v80w1w2w3w4w5w6w7w8w9v90w1w2w3w4w5w6w7xAw8",
   "xAw9u100xAw1xAw2xAw3w4xAxBxCw5xAxBw6w7xAxBxCw8w9v10xAxBw1w2w3w4w5xAw6w7w8w9v20w1w2w3w4w5xA",
   "w6w7w8w9v30w1w2w3w4w5xAw6w7w8w9v40w1w2w3w4w5w6w7w8w9v50w1w2w3w4w5w6w7w8w9v60w1w2w3w4w5w6w7",
   "w8w9v70w1w2w3w4w5w6w7w8w9v80w1w2w3w4w5w6w7w8w9v90w1w2w3w4w5w6w7w8w9u200w1w2xAxBw3w4w5w6w7",
   "xAw8w9xAv10w1w2w3w4w5xAw6xAw7w8w9v20w1w2w3w4w5w6w7xAw8w9v30w1w2w3w4w5w6w7w8w9v40w1w2w3w4w5",
   "w6w7w8w9v50w1w2w3w4w5w6w7w8w9v60w1w2w3w4w5w6w7xAw8w9v70w1w2w3w4w5w6w7w8w9v80w1w2w3w4w5w6w7",
   "w8w9xAv90w1w2w3w4xAw5w6w7w8w9xAu300w1w2w3w4w5w6w7w8w9xAv10w1w2w3w4w5w6w7w8w9v20w1w2w3w4w5",
   "w6w7w8w9xAv30w1w2AxBxCw3w4w5w6xAxBxCw7w8w9v40w1w2w3w4w5w6w7w8w9v50w1w2w3w4w5w6w7w8w9xAv60",
   "w1w2w3w4xAw5w6w7w8xAw9v70w1xAw2w3w4w5w6w7w8w9v80w1xAw2w3AxRAORRIw4w5w6xAw7w8w9v90w1w2",
   "w3EIGHTw4w5w6w7w8w9u400w1w2w3w4w5w6w7w8w9v10AENDLOGOGRAMMARKxBEGINLOGOGRAMMARKw1w2w3w4w5w6",
   "w7w8w9v20w1w2w3w4w5w6w7w8w9v30w1w2w3w4w5w6w7w8w9v40w1w2w3w4w5w6w7w8w9v50xAw1w2w3w4w5w6w7xA",
   "w8w9v60w1w2w3w4w5w6w7w8w9v70w1w2w3w4w5w6w7w8w9v80w1w2w3w4w5w6w7w8w9v90w1w2w3w4w5w6w7u501w2",
   "w3w4w5w6w7w8w9v10w1w2w3w4w5w6w7w8w9v20w1w2w3w4w5w6w7w8w9v30fMICALHEARTcCHORcDWITHDOT",
   "cGERSYMBOLdLEfWITHSINSIDEjUNDERBARdRYFACEdSTROMSIGNdUISHEDFACEcKHcTdENNAhWITHBARS",
   "dICLOCKWISECLOSEDCIRCLEARROWoONTOURINTEGRALnDOWNWARDSANDUPWARDSOPENCIRCLEARROWS",
   "nGAPPEDCIRCLEARROWnINTEGRATIONnOPENCIRCLEARROWnTOPSEMICIRCLEARROW",
   "oRIANGLEHEADEDBOTTOMUSHAPEDARROW+bLEFTUSHAPEDARROW+bOPENCIRCLEARROW+bRIGHTUSHAPEDARROW",
   "+bTOPUSHAPEDARROWbPCcLFUNCTIONALSYMBOLALPHAyUNDERBARtBACKSLASHBARtCIRCLEBACKSLASH",
   "zDIAERESISzJOTzSTAR+bILEzUNDERBARuOMMABARtDELDIAERESISwSTILEwTASTILEyUNDERBARxILDE",
   "uIAMONDUNDERBARuOWNCARETTILDExSHOESTILExTACKJOT+bUNDERBARxWARDSVANEtEPSILONUNDERBAR",
   "tGREATERTHANDIAERESIStIBEAMuOTAxUNDERBARtJOTDIAERESISwUNDERBARtLEFTSHOESTILExWARDSVANE",
   "tOMEGAyUNDERBARtQUADxBACKSLASHxCIRCLEyOLONxDEL+aTAyIAMONDzVIDEyOWNCARET+bWARDSARROWxEQUAL",
   "xGREATERTHANxJOTxLEFTWARDSARROWzSSTHANxNOTEQUALxQUESTIONxRIGHTWARDSARROWxSLASHxUPCARET",
   "zWARDSARROWvOTEQUADyUNDERBARtRHOuIGHTWARDSVANEtSEMICOLONUNDERBARuLASHBARuQUISHQUAD",
   "uTARDIAERESISvILETILDEtTILDEDIAERESIStUPCARETTILDEvSHOEJOTvTACKDIAERESISzJOTzOVERBAR",
   "vWARDSVANEtZILDEcOLLONdSTROPHEcPLESYMBOLeICATIONPROGRAMCOMMANDdROACHESTHELIMIT",
   "fXIMATELYBUTNOTACTUALLYEQUALTOnEQUALOREQUALTOsTOuORTHEIMAGEOFbQUARIUS",
   "bRABICBASELINEROUNDDOThIBLICALENDOFVERSEgCOMBININGALEFOVERLAYjMAhURLYDAMMAqTANlFATHAqTAN",
   "lKASRAqTANgDAMMAlISOLATEDFORMlMEDIALFORMlTANoISOLATEDFORMlWITHDOTiTESEPARATOR",
   "hECIMALSEPARATORhISPUTEDENDOFAYAHhOUBLEDMADDAmRIGHTARROWHEADABOVE+fWITHDOT",
   "mVERTICALBARBELOWgEMPTYCENTREHIGHSTOPrLOWSTOPhNDOFAYAHlTEXTMARKgFATHAlISOLATEDFORM",
   "lMEDIALFORMlTANoISOLATEDFORMlWITHDOTABOVEpRINGpTWODOTShIVEPOINTEDSTARhOOTNOTEMARKER",
   "hULLSTOPgHALFMADDAOVERMADDAiMZAABOVElBELOWgINDICCUBEROOTlDIGITEIGHTqFIVErOURqNINEqONE",
   "qSEVENrIXqTHREErWOqZEROlFOURTHROOTlPERMILLESIGNoTENTHOUSANDSIGNiVERTEDDAMMAgKASRA",
   "lISOLATEDFORMlMEDIALFORMlTANoISOLATEDFORMlWITHDOTBELOWgLARGECIRCLEBELOWlROUNDDOTABOVE",
   "tBELOWtINSIDECIRCLEBELOWhEFTARROWHEADABOVEtBELOWiTTERAEnFRICANFEHtNOONtQAF",
   "wWITHTHREEDOTSABOVEnINpFINALFORMpINITIALFORMqSOLATEDFORMpMEDIALFORMpWITHTHREEDOTSABOVE",
   "+cBELOW+cPOINTINGDOWNWARDSABOVEuWODOTSABOVE+aVERTICALLYABOVEnLEFqFINALFORMqISOLATEDFORM",
   "qMAKSURAxFINALFORMxISOLATEDFORMqWASLAvFINALFORMvISOLATEDFORMrITHATTACHEDBOTTOMRIGHTKASRA",
   "+sANDDOTABOVE+vLEFTRING+cFATHA+cKASRA+cLEFTHAMZA+gROUNDDOT+cRIGHTHAMZA+hROUNDDOT",
   "+dOUNDDOTABOVE+kBELOW+cTOPRIGHTFATHA+pANDDOTABOVE+sLEFTRINGuDOTABOVE",
   "uEXTENDEDARABICINDICDIGITTHREEABOVE+tWOABOVEuHAMZAABOVE+eFINALFORM+eISOLATEDFORMzBELOW",
   "+eFINALFORM+eISOLATEDFORMuLEFTMIDDLESTROKEuMADDAABOVE+eFINALFORM+eISOLATEDFORM",
   "uRIGHTMIDDLESTROKE+lANDDOTABOVE+oLEFTRINGuWAVYHAMZAABOVE+dBELOWmBEEHqFINALFORMqINITIALFORM",
   "rSOLATEDFORMqMEDIALFORMoHpEHrFINALFORMrINITIALFORMsSOLATEDFORMrMEDIALFORMpFINALFORM",
   "pINITIALFORMqSOLATEDFORMpMEDIALFORMpWITHDOTBELOWANDTHREEDOTSABOVEtHAMZAABOVE",
   "tINVERTEDSMALLVBELOWtSMALLMEEMABOVEyVzBELOWtTHREEDOTSHORIZONTALLYBELOW",
   "+cPOINTINGUPWARDSBELOW+wANDTWODOTSABOVEuWODOTSBELOWANDDOTABOVEmDADpFINALFORMpINITIALFORM",
   "qSOLATEDFORMpMEDIALFORMpWITHDOTBELOWoHALrFINALFORMrISOLATEDFORMoLpFINALFORMpISOLATEDFORM",
   "pWITHDOTBELOW+bANDSMALLTAHtFOURDOTSABOVEtINVERTEDSMALLVBELOW+bVtRING",
   "tTHREEDOTSABOVEDOWNWARDS+cBELOWuWODOTSVERTICALLYBELOW+pANDSMALLTAHnDAHALsFINALFORM",
   "sISOLATEDFORMpLqFINALFORMqISOLATEDFORMnOTLESSBEHtFEHtQAFnULpFINALFORMpISOLATEDFORMnYEH",
   "qFINALFORMqINITIALFORMrSOLATEDFORMqMEDIALFORMmEnFINALFORMnINITIALFORMoSOLATEDFORM",
   "nMEDIALFORMmFARSIYEHuFINALFORMuINITIALFORMvSOLATEDFORMuMEDIALFORM",
   "uWITHEXTENDEDARABICINDICDIGITFOURBELOW+wTHREEABOVE+xWOABOVEyINVERTEDVyTHREEDOTSABOVE",
   "zWODOTSABOVEnEHpFINALFORMpINITIALFORMqSOLATEDFORMpMEDIALFORMpWITHDOTBELOW",
   "+bANDTHREEDOTSABOVEwMOVEDBELOWtTHREEDOTSBELOW+cPOINTINGUPWARDSBELOWuWODOTSBELOWmGAF",
   "pFINALFORMpINITIALFORMqSOLATEDFORMpMEDIALFORMpWITHINVERTEDSTROKEtRINGtTHREEDOTSABOVE",
   "uWODOTSBELOWnHAINrFINALFORMrINITIALFORMsSOLATEDFORMrMEDIALFORMrWITHDOTBELOWvTHREEDOTSABOVE",
   "nRAFnUEHqFINALFORMqINITIALFORMrSOLATEDFORMqMEDIALFORMmHAHpFINALFORMpINITIALFORM",
   "qSOLATEDFORMpMEDIALFORMpWITHEXTENDEDARABICINDICDIGITFOURBELOWtHAMZAABOVE",
   "tINVERTEDSMALLVBELOWtSMALLARABICLETTERTAHABOVE+oNDTWODOTS+nBELOWtTHREEDOTSABOVE",
   "+cPOINTINGUPWARDSBELOWuWODOTSABOVE+aVERTICALABOVEoMZArISOLATEDFORMnEHpDOACHASHMEE",
   "+aFINALFORM+aINITIALFORM+bSOLATEDFORM+aMEDIALFORMpFINALFORMpGOALtFINALFORMtINITIALFORM",
   "uSOLATEDFORMtMEDIALFORMtWITHHAMZAABOVEpINITIALFORMqSOLATEDFORMpMEDIALFORMpWITHINVERTEDV",
   "tYEHABOVE+bFINALFORM+bISOLATEDFORMnIGHHAMZAvALEFvWAWvYEHmJEEMqFINALFORMqINITIALFORM",
   "rSOLATEDFORMqMEDIALFORMqWITHTHREEDOTSABOVE+dBELOWvWODOTSABOVEoHpFINALFORMpISOLATEDFORMmKAF",
   "pFINALFORMpINITIALFORMqSOLATEDFORMpMEDIALFORMpWITHDOTABOVEwBELOWtRINGtTHREEDOTSBELOW",
   "uWODOTSABOVE+aVERTICALLYBELOWoSHMIRIYEHnEHEHrFINALFORMrINITIALFORMsSOLATEDFORMrMEDIALFORM",
   "rWITHDOTABOVEvSMALLVvTHREEDOTSABOVE+eBELOW+ePOINTINGUPWARDSBELOWwWODOTSABOVE",
   "+cVERTICALLYBELOWnHAHqFINALFORMqINITIALFORMrSOLATEDFORMqMEDIALFORMnIRGHIZOEvFINALFORM",
   "vISOLATEDFORMtYUvFINALFORMvISOLATEDFORMmLAMpFINALFORMpINITIALFORMqSOLATEDFORMpMEDIALFORM",
   "pWITHBARtDOTABOVEvUBLEBARtSMALLARABICLETTERTAHABOVEyVtTHREEDOTSABOVE+cBELOWnOWALEFmMARK",
   "nEEMqFINALFORMqINITIALFORMrSOLATEDFORMqMEDIALFORMqWITHDOTABOVExBELOWuTHREEDOTSABOVEmNG",
   "oFINALFORMoINITIALFORMpSOLATEDFORMoMEDIALFORMoOEHrFINALFORMrINITIALFORMsSOLATEDFORM",
   "rMEDIALFORMnOONqFINALFORMqGHUNNAwFINALFORMwISOLATEDFORMqINITIALFORMrSOLATEDFORMqMEDIALFORM",
   "qWITHDOTBELOWuINVERTEDSMALLVuRINGyABOVEuSMALLTAHzVuTHREEDOTSABOVEvWODOTSBELOWnYEH",
   "qFINALFORMqINITIALFORMrSOLATEDFORMqMEDIALFORMmOEoFINALFORMoISOLATEDFORMmPEHpEHrFINALFORM",
   "rINITIALFORMsSOLATEDFORMrMEDIALFORMpFINALFORMpINITIALFORMqSOLATEDFORMpMEDIALFORM",
   "pWITHSMALLMEEMABOVEyVmQAFpFINALFORMpINITIALFORMqSOLATEDFORMpMEDIALFORMpWITHDOTABOVEwBELOW",
   "+bANDNODOTSABOVEtTHREEDOTSABOVEmREHpFINALFORMpISOLATEDFORMpWITHDOTBELOW+bANDDOTABOVE",
   "tFOURDOTSABOVEtHAMZAABOVEtINVERTEDVtLOOPtRINGtSMALLARABICLETTERTAHANDTWODOTSyNOONABOVEyV",
   "zBELOWuTROKEtTWODOTSABOVE+aVERTICALLYABOVEnNOONrFINALFORMrINITIALFORMsSOLATEDFORM",
   "rMEDIALFORMnOHINGYAYEHnREHqFINALFORMqISOLATEDFORMmSADpFINALFORMpINITIALFORMqSOLATEDFORM",
   "pMEDIALFORMpWITHTHREEDOTSABOVE+cBELOWuWODOTSBELOWnEENqFINALFORMqINITIALFORMrSOLATEDFORM",
   "qMEDIALFORMqWITHDOTBELOWANDDOTABOVEuEXTENDEDARABICINDICDIGITFOURABOVEuFOURDOTSABOVE",
   "uINVERTEDVuSMALLARABICLETTERTAHANDTWODOTSuTHREEDOTSBELOW+iANDTHREEDOTSABOVE",
   "vWODOTSVERTICALLYABOVEnHEENrFINALFORMrINITIALFORMsSOLATEDFORMrMEDIALFORMrWITHDOTBELOW",
   "nTRAIGHTWAWnUPERSCRIPTALEFnWASHKAFmTAHpFINALFORMpINITIALFORMqSOLATEDFORMpMEDIALFORM",
   "pWITHDOTBELOWtTHREEDOTSABOVE+cBELOWuWODOTSABOVE+aVERTICALLYBELOWnCHEHrEHtFINALFORM",
   "tINITIALFORMuSOLATEDFORMtMEDIALFORMrFINALFORMrINITIALFORMsSOLATEDFORMrMEDIALFORM",
   "rWITHDOTABOVEvSMALLVnEHpEHrFINALFORMrINITIALFORMsSOLATEDFORMrMEDIALFORMpFINALFORM",
   "pINITIALFORMqSOLATEDFORMpMARBUTAwFINALFORMwGOALwISOLATEDFORMqEDIALFORMpWITHRING",
   "tSMALLTEHABOVEyVtTHREEDOTSABOVEDOWNWARDSnHALqFINALFORMqISOLATEDFORMoEHqFINALFORM",
   "qINITIALFORMrSOLATEDFORMqMEDIALFORMoINNOONqYEHnTEHqEHsFINALFORMsINITIALFORMtSOLATEDFORM",
   "sMEDIALFORMqFINALFORMqINITIALFORMrSOLATEDFORMqMEDIALFORMqWITHSMALLVmUnFINALFORM",
   "nIGHURKAZAKHKIRGHIZALEFMAKSURAINITIALFORM+qMEDIALFORMoSOLATEDFORMnWITHHAMZAABOVE",
   "+bISOLATEDFORMmVEoFINALFORMoHpFINALFORMpINITIALFORMqSOLATEDFORMpMEDIALFORMoISOLATEDFORM",
   "mWAWpFINALFORMpISOLATEDFORMpWITHDOTABOVEwWITHINtEXTENDEDARABICINDICDIGITTHREEABOVE",
   "+sWOABOVEtHAMZAABOVE+dFINALFORM+dISOLATEDFORMtRINGtTWODOTSABOVEmYEHpBARREEvFINALFORM",
   "vISOLATEDFORMvWITHEXTENDEDARABICINDICDIGITTHREEABOVE+yWOABOVEzHAMZAABOVE+jFINALFORM",
   "+jISOLATEDFORMpFINALFORMpINITIALFORMqSOLATEDFORMpMEDIALFORMpWITHFOURDOTSBELOWtHAMZAABOVE",
   "+dFINALFORM+dINITIALFORM+eSOLATEDFORM+dMEDIALFORMtSMALLVtTAILuHREEDOTSBELOW",
   "uWODOTSBELOWANDDOTABOVE+iHAMZAABOVE+iSMALLNOONABOVEnUoFINALFORMoISOLATEDFORMmZAHpFINALFORM",
   "pINITIALFORMqSOLATEDFORMpMEDIALFORMoINqFINALFORMqISOLATEDFORMqWITHINVERTEDVABOVE",
   "hIGATUREAINWITHALEFMAKSURAFINALFORM+gISOLATEDFORMvJEEMINITIALFORM+aSOLATEDFORM",
   "zWITHMEEMFINALFORM+hINITIALFORMvMEEMINITIALFORM+aSOLATEDFORMzWITHALEFMAKSURAFINALFORM",
   "+dMEEMFINALFORM+hINITIALFORM+dYEHFINALFORMvYEHFINALFORMyISOLATEDFORM",
   "pJJALALLAAHUFARAJAHUASHSHAREEF+aTAAALAAFARAJAHUASHSHAREEFpKBARISOLATEDFORMpLAYHAAASSALAAM",
   "+cTUWASSALAAMtEISOLATEDFORMtIARRAHMAHvSSALAAM+bTUWASSALAAMuMAAASSALAAM+eTUWASSALAAM",
   "wSSALAAM+cTUWASSALAAMqEFMAKSURAWITHSUPERSCRIPTALEFFINALFORM+sISOLATEDFORM",
   "sWITHFATHATANFINALFORM+eISOLATEDFORMqLAHISOLATEDFORMpZZAWAJALLoBEHWITHALEFMAKSURAFINALFORM",
   "+gISOLATEDFORMvHAHINITIALFORMzSOLATEDFORMyWITHYEHFINALFORMwEHINITIALFORMyMEDIALFORM",
   "vJEEMINITIALFORM+aSOLATEDFORMvKHAHINITIALFORM+aSOLATEDFORMzWITHYEHFINALFORMvMEEMFINALFORM",
   "zINITIALFORM+aSOLATEDFORMzMEDIALFORMvNOONFINALFORMvREHFINALFORMvYEHFINALFORMyISOLATEDFORM",
   "vZAINFINALFORMpISMILLAHARRAHMANARRAHEEMoDAAMATBARAKAATUHUMqDWITHALEFMAKSURAFINALFORM",
   "+gISOLATEDFORMvHAHINITIALFORMzSOLATEDFORMyWITHALEFMAKSURAFINALFORM+cYEHFINALFORM",
   "vJEEMINITIALFORM+aSOLATEDFORMvKHAHINITIALFORM+aSOLATEDFORMzWITHMEEMFINALFORM+hINITIALFORM",
   "vMEEMINITIALFORM+aSOLATEDFORMvREHFINALFORMyISOLATEDFORMvYEHFINALFORMyISOLATEDFORM",
   "oFEHWITHALEFMAKSURAFINALFORM+gISOLATEDFORMvHAHINITIALFORMzSOLATEDFORMvJEEMINITIALFORM",
   "+aSOLATEDFORMvKHAHINITIALFORM+aSOLATEDFORMzWITHMEEMFINALFORM+hINITIALFORMvMEEMINITIALFORM",
   "+aSOLATEDFORMzWITHYEHFINALFORMvYEHFINALFORMyISOLATEDFORMoGHAINWITHALEFMAKSURAFINALFORM",
   "+iISOLATEDFORMxJEEMINITIALFORM+cSOLATEDFORMxMEEMINITIALFORM+cSOLATEDFORM",
   "+bWITHALEFMAKSURAFINALFORM+fMEEMFINALFORM+fYEHFINALFORMxYEHFINALFORM+aISOLATEDFORM",
   "oHAFIZAHUALLAAH+cUTAAALAAwMAAALLAAHUTAAALAAyLLAAHUTAAALAAqHWITHALEFMAKSURAFINALFORM",
   "+gISOLATEDFORMvJEEMINITIALFORM+aSOLATEDFORMzWITHYEHFINALFORMvMEEMINITIALFORM+aSOLATEDFORM",
   "zWITHALEFMAKSURAFINALFORM+dYEHFINALFORMvYEHFINALFORMyISOLATEDFORM",
   "pEHWITHALEFMAKSURAISOLATEDFORMvJEEMINITIALFORM+aSOLATEDFORMvMEEMINITIALFORM+aSOLATEDFORM",
   "zWITHJEEMINITIALFORM+dMEEMINITIALFORMvSUPERSCRIPTALEFINITIALFORMvYEHISOLATEDFORM",
   "oJALLAJALALOUHOUtWAALAApEEMWITHALEFMAKSURAFINALFORM+hISOLATEDFORMwHAHINITIALFORM",
   "+aSOLATEDFORMzWITHALEFMAKSURAFINALFORM+dYEHFINALFORMwMEEMINITIALFORM+bSOLATEDFORM",
   "+aWITHALEFMAKSURAFINALFORM+eHAHFINALFORM+hINITIALFORM+eYEHFINALFORMwYEHFINALFORM",
   "zISOLATEDFORMoKAFWITHALEFFINALFORMzISOLATEDFORMzMAKSURAFINALFORM+gISOLATEDFORM",
   "vHAHINITIALFORMzSOLATEDFORMvJEEMINITIALFORM+aSOLATEDFORMvKHAHINITIALFORM+aSOLATEDFORM",
   "vLAMFINALFORMyINITIALFORMzSOLATEDFORMyMEDIALFORMvMEEMFINALFORMzINITIALFORM+aSOLATEDFORM",
   "zMEDIALFORMzWITHMEEMFINALFORM+hINITIALFORM+dYEHFINALFORMvYEHFINALFORMyISOLATEDFORM",
   "qRRAMAALLAAHUWAJHAHpHAHWITHALEFMAKSURAFINALFORM+hISOLATEDFORMwHAHISOLATEDFORM",
   "wJEEMINITIALFORM+bSOLATEDFORMwMEEMINITIALFORM+bSOLATEDFORMwYEHFINALFORMzISOLATEDFORM",
   "oLAMWITHALEFFINALFORMzISOLATEDFORMzMAKSURAFINALFORM+gISOLATEDFORMzWITHHAMZAABOVEFINALFORM",
   "+nISOLATEDFORM+iBELOWFINALFORM+nISOLATEDFORM+dMADDAABOVEFINALFORM+nISOLATEDFORM",
   "vHAHINITIALFORMzSOLATEDFORMyWITHALEFMAKSURAFINALFORM+cMEEMFINALFORM+gINITIALFORM",
   "+cYEHFINALFORMwEHINITIALFORMvJEEMINITIALFORM+aSOLATEDFORMzWITHJEEMFINALFORM+hINITIALFORM",
   "+dMEEMFINALFORM+hINITIALFORM+dYEHFINALFORMvKHAHINITIALFORM+aSOLATEDFORMzWITHMEEMFINALFORM",
   "+hINITIALFORMvMEEMFINALFORMzINITIALFORM+aSOLATEDFORMzMEDIALFORMzWITHHAHFINALFORM",
   "+gINITIALFORM+dYEHFINALFORMvYEHFINALFORMyISOLATEDFORMoMEEMWITHALEFFINALFORM",
   "+aMAKSURAISOLATEDFORMwHAHINITIALFORM+aSOLATEDFORMzWITHJEEMINITIALFORM+dMEEMINITIALFORM",
   "+dYEHFINALFORMwJEEMINITIALFORM+bSOLATEDFORM+aWITHHAHINITIALFORM+eKHAHINITIALFORM",
   "+eMEEMINITIALFORM+eYEHFINALFORMwKHAHINITIALFORM+bSOLATEDFORM+aWITHJEEMINITIALFORM",
   "+eMEEMINITIALFORM+eYEHFINALFORMwMEEMFINALFORM+aINITIALFORM+bSOLATEDFORM+aWITHYEHFINALFORM",
   "wYEHISOLATEDFORMpOHAMMADISOLATEDFORMoNAWWARAALLAAHUMARQADAHpOONWITHALEFMAKSURAFINALFORM",
   "+hISOLATEDFORMwHAHINITIALFORM+aSOLATEDFORMzWITHALEFMAKSURAFINALFORM+dMEEMINITIALFORM",
   "+dYEHFINALFORMxEHINITIALFORMzMEDIALFORMwJEEMINITIALFORM+bSOLATEDFORM",
   "+aWITHALEFMAKSURAFINALFORM+eHAHFINALFORM+hINITIALFORM+eMEEMFINALFORM+iINITIALFORM",
   "+eYEHFINALFORMwKHAHINITIALFORM+bSOLATEDFORMwMEEMFINALFORM+aINITIALFORM+bSOLATEDFORM",
   "+aMEDIALFORM+aWITHALEFMAKSURAFINALFORM+eYEHFINALFORMwNOONFINALFORMwREHFINALFORM",
   "wYEHFINALFORMzISOLATEDFORMwZAINFINALFORMoQADDASAALLAAHUSIRRAHqFWITHALEFMAKSURAFINALFORM",
   "+gISOLATEDFORMvHAHINITIALFORMzSOLATEDFORMvMEEMINITIALFORM+aSOLATEDFORMzWITHHAHFINALFORM",
   "+gINITIALFORM+dMEEMFINALFORM+dYEHFINALFORMvYEHFINALFORMyISOLATEDFORM",
   "qLAUSEDASKORANICSTOPSIGNISOLATEDFORMpUDDISASIRRAHzUHUM+dAAvTASRAARUHUMoRADIALLAAHUANH+cAA",
   "+cUM+eAA+dNNAzTAAALAAANH+jAA+jUM+lAAqHIMAHUALLAAH+cTAAALAAwMAAALLAAH+fUTAAALAAyLLAAH",
   "+dUTAAALAArMATUALLAAHIALAYH+hAA+hIM+jAA+cTAAALAAALAYHqSOULISOLATEDFORM",
   "pEHWITHSUPERSCRIPTALEFISOLATEDFORMoSADWITHALEFMAKSURAFINALFORM+gISOLATEDFORM",
   "vHAHINITIALFORMzSOLATEDFORMyWITHHAHFINALFORM+fINITIALFORM+cYEHFINALFORMvKHAHINITIALFORM",
   "vMEEMINITIALFORM+aSOLATEDFORMzWITHMEEMFINALFORM+hINITIALFORMvREHFINALFORMyISOLATEDFORM",
   "vYEHFINALFORMyISOLATEDFORMqLAAMUHUALAYNAAsMISOLATEDFORMrLAISOLATEDFORMtLLAAHUALAYHIWAAALIH",
   "zTAAALAAALAYHIWASALLAMwHOUALAYHEWASALLAMxUALAYHIWAAALIHEEWASALLAM+hLAAAALIHEEWASALLAM",
   "tUSEDASKORANICSTOPSIGNISOLATEDFORMpEENWITHALEFMAKSURAFINALFORM+hISOLATEDFORM",
   "wHAHINITIALFORM+aSOLATEDFORMzMEDIALFORMzWITHJEEMINITIALFORMxEHINITIALFORMzMEDIALFORM",
   "wJEEMINITIALFORM+bSOLATEDFORM+aMEDIALFORM+aWITHALEFMAKSURAFINALFORM+eHAHINITIALFORM",
   "wKHAHINITIALFORM+bSOLATEDFORM+aMEDIALFORM+aWITHALEFMAKSURAFINALFORM+eYEHFINALFORM",
   "wMEEMINITIALFORM+bSOLATEDFORM+aMEDIALFORM+aWITHHAHFINALFORM+hINITIALFORM+eJEEMINITIALFORM",
   "+eMEEMFINALFORM+iINITIALFORMwREHFINALFORMzISOLATEDFORMwYEHFINALFORMzISOLATEDFORM",
   "pHADDAWITHDAMMAISOLATEDFORM+dMEDIALFORM+dTANISOLATEDFORMyFATHAISOLATEDFORM+dMEDIALFORM",
   "yKASRAISOLATEDFORM+dMEDIALFORM+dTANISOLATEDFORMySUPERSCRIPTALEFISOLATEDFORM",
   "qEENWITHALEFMAKSURAFINALFORM+iISOLATEDFORMxHAHFINALFORM+aINITIALFORM+bSOLATEDFORM",
   "+aMEDIALFORM+aWITHMEEMFINALFORM+iINITIALFORM+eYEHFINALFORMyEHINITIALFORM+aMEDIALFORM",
   "xJEEMFINALFORM+bINITIALFORM+cSOLATEDFORM+bMEDIALFORM+bWITHYEHFINALFORMxKHAHFINALFORM",
   "+bINITIALFORM+cSOLATEDFORM+bMEDIALFORMxMEEMFINALFORM+bINITIALFORM+cSOLATEDFORM+bMEDIALFORM",
   "+bWITHKHAHFINALFORM+jINITIALFORM+fMEEMFINALFORM+jINITIALFORMxREHFINALFORM+aISOLATEDFORM",
   "xYEHFINALFORM+aISOLATEDFORMpUBHAANAHUWATAAALAAoTABAARAKAWATAAALAA",
   "qHWITHALEFMAKSURAFINALFORM+gISOLATEDFORMvHAHINITIALFORMzSOLATEDFORMvMEEMINITIALFORM",
   "+aSOLATEDFORMzMEDIALFORMzWITHHAHFINALFORM+gINITIALFORM+dMEEMINITIALFORM+dYEHFINALFORM",
   "vYEHFINALFORMyISOLATEDFORMpEHWITHALEFMAKSURAFINALFORM+gISOLATEDFORMvHAHINITIALFORM",
   "zSOLATEDFORMyWITHJEEMFINALFORM+gINITIALFORM+cMEEMINITIALFORMwEHINITIALFORMyMEDIALFORM",
   "vJEEMINITIALFORM+aSOLATEDFORMzWITHALEFMAKSURAFINALFORM+dMEEMINITIALFORM+dYEHFINALFORM",
   "vKHAHINITIALFORM+aSOLATEDFORMzWITHALEFMAKSURAFINALFORM+dMEEMINITIALFORM+dYEHFINALFORM",
   "vMEEMFINALFORMzINITIALFORM+aSOLATEDFORMzMEDIALFORMzWITHALEFMAKSURAFINALFORM",
   "+dHAHINITIALFORM+dJEEMINITIALFORM+dKHAHINITIALFORM+dYEHFINALFORMvNOONFINALFORM",
   "vREHFINALFORMvYEHFINALFORMyISOLATEDFORMvZAINFINALFORMpHALWITHSUPERSCRIPTALEFISOLATEDFORM",
   "qEHWITHALEFMAKSURAFINALFORM+hISOLATEDFORMwHEHMEDIALFORMwJEEMISOLATEDFORMwMEEMFINALFORM",
   "+aINITIALFORM+bSOLATEDFORM+aMEDIALFORMwNOONFINALFORMwREHFINALFORMwYEHFINALFORM",
   "zISOLATEDFORMwZAINFINALFORMoUIGHURKIRGHIZYEHWITHHAMZAABOVEWITHALEFMAKSURAFINALFORM",
   "++hINITIALFORM++iSOLATEDFORMoWASALLAMISOLATEDFORMoYEHWITHALEFMAKSURAFINALFORM",
   "+gISOLATEDFORMvHAHINITIALFORMzSOLATEDFORMyWITHYEHFINALFORMxMZAABOVEWITHAEFINALFORM",
   "+lISOLATEDFORM+kLEFFINALFORM+nISOLATEDFORM+nMAKSURAFINALFORM+uISOLATEDFORM+jEFINALFORM",
   "+kINITIALFORM+lSOLATEDFORM+jHAHINITIALFORM+nSOLATEDFORM+kEHINITIALFORM+mMEDIALFORM",
   "+jJEEMINITIALFORM+oSOLATEDFORM+jKHAHINITIALFORM+jMEEMFINALFORM+nINITIALFORM+oSOLATEDFORM",
   "+nMEDIALFORM+jNOONFINALFORM+jOEFINALFORM+lISOLATEDFORM+jREHFINALFORM+jUFINALFORM",
   "+kISOLATEDFORM+jWAWFINALFORM+mISOLATEDFORM+jYEHFINALFORM+mISOLATEDFORM+kUFINALFORM",
   "+lISOLATEDFORM+jZAINFINALFORMwEHINITIALFORMyMEDIALFORMvJEEMINITIALFORM+aSOLATEDFORM",
   "zWITHYEHFINALFORMvKHAHINITIALFORM+aSOLATEDFORMvMEEMFINALFORMzINITIALFORM+aSOLATEDFORM",
   "zMEDIALFORMzWITHMEEMFINALFORM+hINITIALFORM+dYEHFINALFORMvNOONFINALFORMvREHFINALFORM",
   "vYEHFINALFORMyISOLATEDFORMvZAINFINALFORMoZAHWITHMEEMINITIALFORM+aSOLATEDFORMzMEDIALFORM",
   "gMADDAHABOVElWAAJIBiRKNOONGHUNNAkSIDEWAYSNOONGHUNNAiTHEMATICALAINtLEFsBEHsDADuLtOTLESSBEH",
   "zFEHzNOONzQAFuUBLESTRUCKAIN+eBEH+eDAD+gL+eFEH+eGHAIN+eHAH+eJEEM+eKHAH+eLAM+eMEEM+eNOON",
   "+eQAF+eREH+eSAD+fEEN+fHEEN+eTAH+fEH+fHAL+gEH+eWAW+eYEH+eZAH+gINsFEHsGHAINsHAHsINITIALAIN",
   "zBEHzDADzFEHzGHAINzHAH+aEHzJEEMzKAF+aHAHzLAMzMEEMzNOONzQAFzSAD+aEEN+aHEENzTEH+aHEHzYEH",
   "sJEEMsKAFtHAHsLAMtOOPEDAINzLEFyBEHyDAD+aLyFEHyGHAINyHAHzEHyJEEMyKHAHyLAMyMEEMyNOONyQAFyREH",
   "ySADzEENzHEENyTAHzEHzHAL+aEHyWAWyYEHyZAH+aINsMEEMsNOONsOPERATORHAHWITHDAL",
   "+aMEEMWITHHAHWITHTATWEELsQAFsREHsSADtEENtHEENtTRETCHEDAIN+bBEH+bDAD+cOTLESSBEH+iFEH+bFEH",
   "+bGHAIN+bHAH+cEH+bJEEM+bKAF+cHAH+bMEEM+bNOON+bQAF+bSAD+cEEN+cHEEN+bTAH+cEH+cHEH+bYEH+bZAH",
   "sTAHuILEDAINyDADzOTLESSNOON+fQAFyGHAINyHAHyJEEMyKHAHyLAMyNOONyQAFySADzEENzHEENyYEHtEHtHAL",
   "uEHsWAWsYEHsZAHuINgNUMBERMARKABOVEmSIGNgOPENDAMMATANkFATHATANkKASRATANgPEPETiRCENTSIGN",
   "hIASTREMARKABOVEhLACEOFSAJDAHhOETICVERSESIGNiUNDMARKABOVEgQUESTIONMARKgRAISEDROUNDDOTiY",
   "hEVERSEDDAMMAhIGHTARROWHEADABOVEzWITHDOTuBELOWhOUNDEDHIGHSTOPWITHFILLEDCENTREgSEMICOLON",
   "hHADDAmISOLATEDFORMmMEDIALFORMhIGNALAYHEASSALLAMkMISRAkRADIALLAHOUANHUmHMATULLAHALAYHE",
   "kSAFHAmLLALLAHOUALAYHEWASSALLAMmMVATmNAHlINDHIAMPERSANDqPOSTPOSITIONMENkTAKHALLUS",
   "hMALLDAMMAlFARSIYEHnTHAlHIGHAINpDOTLESSHEADOFKHAHpFARSIYEHqOOTNOTEMARKERpJEEMpLAMALEF",
   "qIGATUREALEFWITHLAMWITHYEH+fYEHBARREExQAFWITHLAMWITHALEFMAKSURAxSADWITHLAMWITHALEFMAKSURA",
   "pMADDAqEEMINITIALFORMuSOLATEDFORMpNOONtWITHKASRApQAFpROUNDEDZEROpSADqEENqIGNSAFHApTAH",
   "qHREEDOTSpUPRIGHTRECTANGULARZEROpWAWqORDALJUZuNNISFuRRUBuSSAJDAuTHTHALATHAtQIFtSAHvKTA",
   "tWAQFApYEHsBARREEWITHTWODOTSBELOWpZAHrINlKASRAlLOWMEEMoNOONsWITHKASRAoSEENoWAWpORDIMAALA",
   "tSHMAAMsMADDAsQASRsSAKTAsTASHEELlWAWlYEHoBARREEWITHTWODOTSBELOWhTARTOFRUBELHIZB",
   "hUBSCRIPTALEFiKUNlBELOWlISOLATEDFORMlMEDIALFORMiPERSCRIPTALEFMOKHASSAShYMBOLDOTABOVEpBELOW",
   "oUBLEVERTICALBARBELOWmFOURDOTSABOVEuBELOWmRINGmSMALLTAHABOVEuBELOWmTHREEDOTSABOVEvBELOW",
   "vPOINTINGDOWNWARDSABOVE+mBELOWnWODOTSABOVEtBELOWtVERTICALLYABOVE+dBELOWmWASLAABOVE",
   "gTAILFRAGMENTiTWEELnWITHFATHATANABOVErOVERSTRUCKHAMZA+bWAWrTWODOTSBELOWhHOUSANDSSEPARATOR",
   "hONELOOPABOVEoBELOWkONEDOTABOVEqBELOWkTWODOTSABOVErBELOWhRIPLEDOTPUNCTUATIONMARK",
   "hURNEDDAMMABELOWgVERTICALTAILhOWELSIGNDOTBELOWpINVERTEDSMALLVABOVEpSMALLVABOVE",
   "gWAVYHAMZABELOWgZWARAKAYcCcIEScMENIANABBREVIATIONMARKjPOSTROPHEiCAPITALLETTERAYBvBENvCAwHA",
   "xEHwOvDAvECHwHwTvFEHvGHADwIMvHOvINIvJAwHEHvKEHxNvLIWNvMENvNOWvOHvPEHwIWRvRAwEHvSEHwHAvTIWN",
   "wOvVEWwOvXEHvYIxWNvZAwHEjOMMAiDRAMSIGNiEMPHASISMARKjXCLAMATIONMARKiFULLSTOPiHYPHEN",
   "iMODIFIERLETTERLEFTHALFRINGiQUESTIONMARKiSMALLLETTERAYBtBENtCAuHAvEHuOtDAtECHuHuTtFEHtGHAD",
   "uIMtHOtINItJAuHEHtKEHvNtLIWNtMENtNOWtOHtPEHuIWRtRAuEHtSEHuHAtTIWNuOuURNEDAYBtVEWuOtXEHtYI",
   "vWITHSTROKEwNtZAuHEoIGATUREECHYIWNvMENECHyINIyNOWyXEHvVEWNOWcROWHEADSHAPEDPOINTER",
   "fPOINTINGDOWNWARDSTHENCURVINGLEFTWARDS+hRIGHTWARDSnRIGHTWARDSTHENCURVINGDOWNWARDS",
   "+iSOUTHWEST+iUPWARDSnUPWARDSTHENNORTHWESTcTICULATEDLORRYeSTPALETTEbSCENDINGNODEdIASYMBOL",
   "cSERTIONcTERISKiOPERATORhMdONISHEDFACEdRAEAhFORMTWOeONOMICALSYMBOLFORASTEROIDPROSERPINA",
   "vURANUScYMPTOTICALLYEQUALTObTHLETICSHOEcOMSYMBOLbUBERGINEcSTRALSIGNcTOMATEDTELLERMACHINE",
   "fOBILEeRICKSHAWbVESTANABBREVIATIONMARKhLETTERAoApNpOoEpEoNoOnBEoHEnCEnDEoHEnEoEnFEnGEoGE",
   "oHEnHEoMEnIoInJEnKEnLEnMEnNEoGEpVEpYEoNEoYEnOoOnPEnREnSEoHEpYEoSHEnTEoHEoTEnUoUnVEnXEoVE",
   "oYEnYEoYEnZEoHEcOCADObXEaBABYeANGELeBOTTLEeCHICKeSYMBOLcCKOFENVELOPE",
   "eSLANTEDSOUTHARROWWITHHOOKEDTAIL+bRIZONTALTAILfPACEeTILTEDSHADOWEDWHITERIGHTWARDSARROW",
   "eWITHLEFTWARDSARROWABOVEdONdTRIANCAMELcDGERdMINTONRACQUETANDSHUTTLECOCKcGELdGAGECLAIM",
   "dUETTEBREADcLINESEADEGADEGiCARIKPAMUNGKAHpRERENnSIKIiDIGITEIGHTnFIVEoOURnNINEnONEnSEVENoIX",
   "nTHREEoWOnZEROiINVERTEDCARIKPARERENvSIKIiLETTERAIKARApKARAtTEDUNGpRCHAICJNYApSYURASASAKoBA",
   "qKEMBANGoCAqLACAoDAqMADUrURDAALPAPRANAvMAHAPRANAoEFSASAKpKARAoGAqGORAoHAoIKARAtTEDUNGoJA",
   "qJERAoKAqFSASAKqMAHAPRANApHOTSASAKoLAqLENGAvTEDUNGoMAoNAqRAMBATpGApYAoOKARAtTEDUNGoPA",
   "qKAPALoRAqREPAuTEDUNGoSAqSAGAsPAoTAqLATIKqMURDAMAHAPRANAqTAWApZIRSASAKoUKARAtTEDUNG",
   "oVESASAKoWAoYAoZALSASAKiMUSICALSYMBOLCOMBININGBENDE+eENDEP+eGONG+eJEGOGAN+eKEMPLI",
   "+kWITHJEGOGAN+iUL+kWITHJEGOGAN+eTEGEHvDAENGxINGxNGzGEDEzSURANGwENGxUNGwINGwONGwUNG",
   "vLEFTHANDCLOSEDPLAK+lUK+dOPENPANG+iING+iUNGvRIGHTHANDCLOSEDTAK+lUK+eOPENDAG+jUGiPAMADA",
   "oLANTANGlENENGkNTInBAWAKnLANTANGiSIGNBISAHmCECEKmREREKANmSURANGmULUCANDRApRICEM",
   "iVOWELSIGNLALENGAyTEDUNGrPEPETwTEDUNGrRAREPAxTEDUNGrSUKUvILUTrTALINGxREPA+bTEDUNGxTEDUNG",
   "sEDUNGrULUuSARIiWINDUdLETSHOESeOFYARNfONhSPOKEDASTERISKfTBOLDSCRIPTXiXjWITHBALLOToOLDCHECK",
   "rSCRIPTXnCHECKnLIGHTXnSCRIPTXnXgSCRIPTXgXcMUMCOLONhMBININGMARKKOQNDONsTUKWENTISiMA",
   "fFULLSTOPfLETTERAlEElFAAMAEmEEmOMmUlIlKAmENnTnUXmImOnGHOMnVUUmPAmUmYEElLAmEEEEmImOQmUlMmA",
   "mBAAnENmEEEEnNmImOmUlNAmDAAmGAnGAnKWAENmImJAEMnEEnUAEmSHAmTEEnUUmUnAEmYIlOlPAmEEnUX",
   "mHASEAFIRIrGBIEEFONsHEUAEGHEUAExRAErKAFAtQsETtUKEUTNDAsPOQsUOQrLAPAQsETKUTsOMMAEsUtAEP",
   "rMAEKEUPuMvBGBIEEvGBIEEvKPENvVEUXuNYIuSItNSUAEtPPIEETsBANYIuQsEUNJOMNDEUQsGBASAsONNGGEUAET",
   "tOMEUTvPUQsVEUAENGAMrNAAMFONtQsDAANGGEUAETuLEERAEWAsENsGANGUtGENtKUEMFONwNZEUMsIKAsJAM",
   "sKAARAEtINDIsSHAuIEEsTAPvMFAAvNTAAtOQPENsYETtIuTMONGKEUAEQsZAMFONtUNMEUTrPAAMuRAEtLEERAEWA",
   "tMSHAEtSHAEsETsONMFONPIPAEMBA+eGBIEEuPANJIPIPAEMBA+fGBIEEsUPrROMrSEUNYAMsHINDAPANJIuRAE",
   "tOQNSHUTYUMtUENSHUETuMsISAsONJAMtQtTsUUrTEUAENuTEUWENsITAMFONsUAEPtMAEMBArUNKNOWNsYUQNAE",
   "rVEEqBFEEtUXrGHEUGHENyUAEMrKAMsEUAEMuPUQuYEUXsIEEMtQrLAANAEtMNSHUTNYAMsETsOMNTEUMrMA",
   "tNJEUAENAvUQAsBAARAEuMAELEEtEURItITMBAAKETtUOQsEUQuTNGGEETsFIYAQtONTEUAEQsONTIEENrNDUNJAA",
   "sGGAAMuEUMBUuOMuUOQxLARGEtKINDIMVOPtOMsSENtHUETsTIEESHEUOQsYAEMAEtINTEUMrPARUMsEESHIsIT",
   "sUNGAAMvGAAMrSAKEUAEsETTUsHETNJAQuUAEQTUsIEEsUErTAAMsUMAEMGBIEEtNSIEErVEUMrWUAET",
   "rYAFULEERAEWAsEURAEqCBUNGrFUErGBAYIsHAPuRAErKAAsENFATIGUEuLAWtTtUKAQuMuSEUXvHEUAEPsPARAQ",
   "sUOPNKAARAEtTrLAMtPsIQsUrMAEMBAuSItKEUAERItNSIEEsBAACABBAGETREEvPICKETuNYItEEKEETuRAEuUMvX",
   "tIuRIEENuTtUAEMuEsGBASAQsIEEsUAErNANSANAQtQsDAMuPtEUAEREEvTtIDAtOMBUsGAQtGENuUvAENNYAMvEET",
   "vMvONtKAQuUEMAEMBAtOMsJAEMuMtEEEEuUXtUEQsSAtEUAENtHAQtOMtUNuOTNGOMsTAAtENuUNGBAtUMBIT",
   "sYIRMKPARAQMEUNsZAtEUMrPENsINtRIEENrRUrSETFONtUXsHETFONtIQtUEQsUAETrTAASHAEsETtUTEUX",
   "sITAYUEuUAEPrVEUAEPENuXrWANGKUOQsUPrYAAsEUQsUMuUOMAEtWOQqDFAAsEUFEUAETrGHAAtEUAErKET",
   "tUAETMEUNuMuOTMBUAEuPsUtNtOMtQsWAETsYEErLEEEEtTtUAEPuMsIEEsOQsUMrMsAENJETtLEERIsBAAvSEVEN",
   "tUOsEEEEtUNuTsFEUAEvTtIEEtOuNsGBEUNuIEEuOFUMsONIsUsVOPrNDAMtEEuUXtONsGGAAMxAEvPuEUXuUOM",
   "uWAENtKAPuEUAEQwRIuIEEuUNuYEEsIsJAPtEUAEMvTtIuEEtUEQsSHEEuUTtIEEPwTtUMsTEEuUMtUUsUsYAMtET",
   "tItUErPAPsEEtUTAEsIPsUQtUTrRAEMsENMUCHuOLDsIIrSAPtQsEUAEQsHEEuUAEvXtIItOQtUsOTsUAEtEtUrTAE",
   "sEEEEtUAENuNuTsIsOQsUtOTrWAPsUAENrYAEMMAEsENsUOMuPtWOQqEArFAtQsEEsOMsUCALLtEuTtItREMEDY",
   "rGBETuUXsHAAMAEtETuUAEvNvXtOMrIrKETtUAEuXsIsOsPEUXsUETtOPtTrLAAMtPtQsEUAEMsOMtONuTtQsUrMA",
   "tEuMtPtQsBEEuUMsENsFEUQsGBAuENsItEEsONsUAEsVIrNAtEsDAAMYHOUSEvSOFTNESSuPtIAQuQtUNsGA",
   "tEUREUTtGEEEEvUAEyTuOPuUAESHAENYAMvPvRAEtKAvAMIuEUAEMwXuUMvPtOPuQtUAEwTsJAEMLItEEvEPOCHuUX",
   "sKOMsSHIEEuUEvOPsTAPtUMsYIBETWEENuCLEAVERsZAQtUQrOrPAAuMtPEOPLEuLURALsEEMtUTuXsItEEQuTsO",
   "tONsUtAEuQtEtMrRAEtQsEUXsIMGBArSAAsEEtTsHEUAEQtIQtOuQsOMsUAENrTAAuQtENNTEUMtMtQsENtUuAEQ",
   "sOOuNtQsUAEtMuAErVEEtUAEsOMrWEUXsUEtOrYAPsEUAEwTuMuXsIEEtTsOQCOVERuSWIMMINGsUAENtEQtNtQ",
   "qFEErFOMrKAsENtTsOsPAsUsYEErLAsIsOQrMsAsBAAtENsEEEEsOrNDAAsGGAtKWAENsIsJAEMtUAEsSHAsTEEsU",
   "tAEsYIrPEEtUXsUAErREEtNtUXsIEEtIsUrSAMBAsEUXsHIItOtUsIsUUrTAAtEsETrUrVUEQrWAsUErYAsOQmI",
   "mUAEnElRAEmEEnNnUXmIEEnImUlSAMBAmEUXmHEUXnIInOnUmImUUlTAAnEmENnTmIlUlWAmUElYAmOQmUQ",
   "fNJAEMLIfQUESTIONMARKfSEMICOLONcNANAdJOdKeNOTEWITHDOLLARSIGNmEUROSIGNmPOUNDSIGNmYENSIGN",
   "cRBERPOLEdCHARTdOFSOAPcSEBALLdKETgBALLANDHOOPdSAVAHCOMBININGHIGHLOWTONEvTONErLOWMIDTONE",
   "uTONErMIDTONEiFULLSTOPiLETTERAoBAoCEoDHIIpOoEpEpNNIoFAoGAHpBUoHWAHoIoJOoKApPAHoMBEoOpOoPA",
   "oSEoTOoUpWUoVUoWAqDDAoYEINpIEoZOcTdAKCONSONANTSIGNHsNGfLETTERAlBAlCAlDAlGAlHAlIlJAlKAROBA",
   "lLAlMAnNDAILINGHAvNAvSAmBAlNAmDAmGAmORTHERNTAmYAlPAnKPAKWAlRAlSAmIMALUNGUNAvGAvHAvLAvMAvPA",
   "vRAvSAvWAvYAmOUTHERNTAlUlWAlYAfPANGOLATiONGONANfSIGNTOMPIgYMBOLBINDUJUDULqNAMETEKqPANGOLAT",
   "rINARBORASfVOWELSIGNEpEoIoKAROIsOoOoPAKPAKEoUpFORSIMALUNGUNSAdHeTUBdTERYbEACHWITHUMBRELLA",
   "dMEDASCENDINGMUSICALNOTESgDESCENDINGMUSICALNOTESgEIGHTHNOTESgSIXTEENTHNOTESdNSdRDEDPERSON",
   "eFACEdTINGHEARTdVERcCAUSEcDcERMUGdTLEcLdLeHOPBELLeONAePEPPEReSYMBOLeWITHCANCELLATIONSTROKE",
   "cNGALIABBREVIATIONSIGNiNJIiULENGTHMARKhCURRENCYDENOMINATORSIXTEENpNUMERATORFOURyONE",
   "+bLESSTHANTHEDENOMINATORyTHREEzWOhDIGITEIGHTmFIVEnOURmNINEmONEmSEVENnIXmTHREEnWOmZERO",
   "hGANDAMARKhISSHARhLETTERAoAoIoUnBAoHAnCAoHAnDAoDApHAoHAnEnGAoHAnHAnIoInJAoHAnKAoHAqNDATA",
   "nLAnMAnNAoGAoNAoYAnOnPAoHAnRApWITHLOWERDIAGONALtMIDDLEDIAGONALoHAoRAnSAoHAoSAnTAoHAoTApHA",
   "nUoUnVEDICANUSVARAoOCALICLvLuRvRnYAoYAhRUPEEMARKmSIGNhSANDHIMARKiIGNANUSVARAmVAGRAHA",
   "lCANDRABINDUlNUKTAlVIRAMAnSARGAhVOWELSIGNAArIrUqEqIrIqOqUrUqVOCALICLyLxRyR",
   "dTARROWPOINTINGDOWNWARDSTHENNORTHEASTeOBOXdZENERINGlWITHCIRCLEcRIAERFECAPITALLETTERARKABxY",
   "wBASIGNAwDARBAIxJAIwEHxRIGO+bTAMURAwFITKOwGNAxOWAYwHIRDEABOwIwKOBOwLAKKOwMERIwNGAYxINIwOI",
   "wPIwSERIxHEPwTATASOUEwUIwWASSEjSMALLLETTERARKABvYuBASIGNAuDARBAIvJAIuEHvRIGOzTAMURAuFITKO",
   "uGNAvOWAYuHIRDEABOuIuKOBOuLAKKOuMERIuNGAYvINIuOIuPIuSERIvHEPuTATASOUEuUIuWASSEcTSYMBOL",
   "dWEENcVERAGEBOXbHAIKSUKIDANDAkIGITEIGHToFIVEpOURoNINEoONEoSEVENpIXoTHREEpWOoZERO",
   "kOUBLEDANDAjGAPFILLER1s2jHUNDREDSUNITMARKjLETTERAqAqIqUpBAqHApCAqHApDAqDArHAqHApEpGAqHApHA",
   "pIqIpJAqHApKAqHApLApMApNAqGAqNAqYApOpPAqHApRApSAqHAqSApTAqHAqTArHApUqUpVAqOCALICLwRxRpYA",
   "jNUMBEREIGHTuYpFIFTYrVEqORTYrURpNINEtTYpONEpSEVENuTYqIXsTYpTENqHIRTYrREEqWENTYrO",
   "jSIGNANUSVARAoVAGRAHAnCANDRABINDUnVIRAMApSARGAjVOWELSIGNAAtItUsEsItIsOsUtUsVOCALICLzR+aR",
   "jWORDSEPARATORbICYCLEgISTcGREVERSESOLIDUSdSOLIDUScKINIcLLEDCAPeIARDScOHAZARDSIGNcRD",
   "dTHDAYCAKEcSONcTCOINSIGNdINGLIPbLACKBOWTIEfCENTREWHITESTARgHESSALFILkBISHOP",
   "qROTATEDNINETYDEGREESxTWOHUNDREDSEVENTYDEGREESkEQUIHOPPERuROTATEDNINETYDEGREESkFERZkKING",
   "oROTATEDNINETYDEGREESvTWOHUNDREDSEVENTYDEGREESlNIGHTqBISHOPqQUEENqROOK",
   "sTATEDFORTYFIVEDEGREESxNINETYDEGREESxONEHUNDREDTHIRTYFIVEDEGREES",
   "xTHREEHUNDREDFIFTEENDEGREESyWOHUNDREDSEVENTYDEGREES+hTWENTYFIVEDEGREESkPAWN",
   "oROTATEDNINETYDEGREESvTWOHUNDREDSEVENTYDEGREESkQUEENpROTATEDNINETYDEGREES",
   "wTWOHUNDREDSEVENTYDEGREESkROOKoROTATEDNINETYDEGREESvTWOHUNDREDSEVENTYDEGREESkTURNEDBISHOP",
   "qKINGrNIGHTqPAWNqQUEENqROOKgIRCLElFORRECORDlWITHDOWNARROWpTWOWHITEDOTSpWHITEDOTRIGHT",
   "gLUBSUITgROSSONSHIELDgURVEDDOWNWARDSANDLEFTWARDSARROWxRIGHTWARDSARROW",
   "lLEFTWARDSANDDOWNWARDSARROWxUPWARDSARROWlRIGHTWARDSANDDOWNWARDSARROWyUPWARDSARROW",
   "lUPWARDSANDLEFTWARDSARROWvRIGHTWARDSARROWfDIAMONDmCENTREDmMINUSWHITEXmONCROSSmSUIT",
   "mWITHDOWNARROWgOWNPOINTINGBACKHANDINDEXrDOUBLETRIANGLErISOSCELESRIGHTTRIANGLE",
   "rSMALLTRIANGLErTRIANGLEjWARDSEQUILATERALARROWHEADgRAUGHTSKINGnMANhOPLET",
   "fFEATHEREDNORTHEASTARROWoRIGHTWARDSARROWoSOUTHEASTARROWgLAGhORETTEgOLDERhURPOINTEDSTAR",
   "fHARDSHELLFLOPPYDISKgEARTkSUIThXAGONgORIZONTALELLIPSEhURGLASSfLARGECIRCLE",
   "qMINUSLEFTQUARTERSECTIONwOWERQUARTERSECTIONvRIGHTQUARTERSECTIONvUPPERQUARTERSECTIONkSQUARE",
   "gEFTLANEMERGEjPOINTINGBACKHANDINDEXrDOUBLETRIANGLE+fWITHVERTICALBARrINDEX",
   "sSOSCELESRIGHTTRIANGLErPOINTERrSMALLTRIANGLErTRIANGLEjWARDSBULLEToEQUILATERALARROWHEAD",
   "hTTERCAPITALCsHsIsRsZgOWERLEFTTRIANGLEkRIGHTTRIANGLEhZENGEfMEDIUMDIAMOND",
   "mOWNPOINTINGTRIANGLE+fCENTREDlLEFTPOINTINGTRIANGLE+fCENTREDmOZENGElRIGHTPOINTINGTRIANGLE",
   "+gCENTREDlSMALLDIAMONDqLOZENGEqSQUAREmQUARElUPPOINTINGTRIANGLE+dCENTREDgOONLILITH",
   "fNEUTRALFACEgIBfOCTAGONfPARALLELOGRAMgENNANTiTAGONgUSHPINfQUESTIONMARKORNAMENTfRECTANGLE",
   "gIGHTPOINTINGBACKHANDINDEXsDOUBLETRIANGLE+gWITHVERTICALBARsINDEXtSOSCELESRIGHTTRIANGLE",
   "sPENTAGONtOINTERsSMALLTRIANGLEsTRIANGLE+aWITHDOUBLEVERTICALBARkTRIANGLECARETkWARDSARROW",
   "uHEADpBULLETpEQUILATERALARROWHEADgOSETTEfSAFETYSCISSORSgCISSORSgHOGIPIECE",
   "gKULLANDCROSSBONESgLIGHTLYSMALLCIRCLEsSQUAREgMALLDIAMONDkLOZENGEkSQUARElTAR",
   "kUPPOINTINGCHEVRONhILINGFACEgNOWMANgPADESUITgQUARElBUTTONlCENTREDlFORSTOPgTARgUNWITHRAYS",
   "fTELEPHONEgINYDIAMONDjLOZENGEjSQUAREgOUCHTONETELEPHONEgRUCKgWOWAYLEFTWAYTRAFFIC",
   "fUNIVERSALRECYCLINGSYMBOLgPPERLEFTTRIANGLEkRIGHTTRIANGLEiOINTINGBACKHANDINDEX",
   "pDOUBLETRIANGLEpISOSCELESRIGHTTRIANGLEpSMALLTRIANGLEpTRIANGLEhWARDSEQUILATERALARROWHEAD",
   "fVERTICALELLIPSEnRECTANGLEiYSMALLDIAMONDoLOZENGEoSQUAREdNKSYMBOLcOCKOCTANT123o45q67r8q78q8",
   "p6q7r8p7q8p8o5p6q7r8q8p7q8p8o6p7q8p8o7p8o8n4o5p6q7r8q8p7q8p8o6p7q8p8o7p8o8n5o6p7q8p8o7p8o8",
   "n6o7p8o8n7o8n8m34o5p6q7r8q8p7q8p8o6p7q8p8o7p8o8n5o6p7p8o78o8n6o7p8n7o8n8m4n5o6p7q8p8o7p8o8",
   "n6o7p8o8n7o8n8m5n6o7p8o8n7o8n8m6n7o8n8m7n8m8l23n4o5p6q7r8q8p7q8p8o6p7q8p8o7p8o8n5o6p7q8p8",
   "o7p8o8n6o7p8o8n7o8n8m45o6p7p8o78o8n6o7p8n7o8n8m5n6o7p8o8n7o8n8m6n7o8n8m7n8m8l3m4n5o6p7p8o7",
   "p8o8n6o7p8o8n7o8n8m56o7p8o8n7o8n8m6n7o8n8m7n8m8l4m5n6o7p8o8n7o8n8m67o8n8m7n8m8l5m6n7n8m78",
   "m8l6m7n8fSEXTANT1n2o3p4q5q6p5q6p6o4p5q6p6o5p6o6n3o4p5q6p6o56o6n4o5p6o6n5o6n6m2n3o4p5q6p6o5",
   "p6o6n4o5p6n5o6n6m3n4o5p6o6n5o6n6m4n5o6n6m5n6m6dSSOMdWFISHcUEBERRIESfOOKeHEARTbOAR",
   "cLDEIGHTSPOKEDASTERISKeFIVESPOKEDASTERISKeGREEKCROSSeSALTIREfIXSPOKEDASTERISKeWHITECIRCLE",
   "jSQUAREcMdBcNEcOKeMARKiTABSeSdMERANGcPOMOFOFINALLETTERGtHtKtPtTiLETTERApHpIqNNpMpNqGqNpU",
   "qNNoBpUoCpHoDoEpEpHpIpNqGqNpRoFoGpHpNpUpWoHoIpHpMpNNrNpRpUoJpIoKpWoLpHoMoNpGqGpNoOpEpMpNG",
   "qNpOpUpWITHDOTABOVEoPoQoRoSpHoToUpNNoVoXoZpHpIpYcTTLEWITHPOPPINGCORK",
   "eOMARCANTICLOCKWISEARROWgCURLYBRACKETgHALFBLACKCIRCLEkFORWARDFACINGROBOTyUNNERFRAME1+i2+i3",
   "+i4kINTEGRALkLEFTFACINGROBOTvUNNERFRAME1+f2oPARENTHESISkRIGHTFACINGROBOTwUNNERFRAME1+g2",
   "pPARENTHESISkSTANDINGPERSONgJUSTIFIEDUPPERHALFBLACKCIRCLEyWHITECIRCLEgLEFTCORNERlROP",
   "kHALFBRACKETkJUSTIFIEDUPPERRIGHTQUARTERBLACKCIRCLEgPARENTHESISgRIGHTCORNERmROPlHALFBRACKET",
   "lJUSTIFIEDUPPERLEFTQUARTERBLACKCIRCLEgSQUAREBRACKETtOVERTOPSQUAREBRACKET",
   "gTORTOISESHELLBRACKETcUQUEThOFFLOWERScWANDARROWdLINGeOFHYGIEIAeWITHSPOONdTIE",
   "gWITHLEFTHALFBLACKkRIGHTHALFBLACK",
   "cXDRAWINGSDOUBLEDIAGONALLOWERLEFTTOMIDDLECENTRETOLOWERRIGHTzUPPERLEFTTOLOWERRIGHT",
   "+kMIDDLECENTRETOUPPERRIGHT+eRIGHTTOLOWERLEFTsOWNANDHORIZONTALyLEFTyRIGHTrHORIZONTAL",
   "rUPANDHORIZONTALwLEFTwRIGHTrVERTICALzANDHORIZONTAL+cLEFT+cRIGHT",
   "nWNDOUBLEANDHORIZONTALSINGLEyLEFTSINGLEyRIGHTSINGLEpHEAVYANDHORIZONTALLIGHTxLEFTLIGHT",
   "+bUPLIGHTxRIGHTLIGHT+cUPLIGHTxUPHORIZONTALLIGHTpLIGHTANDHORIZONTALHEAVYxLEFTHEAVY+bUPHEAVY",
   "xRIGHTHEAVY+cUPHEAVYxUPHORIZONTALHEAVYpSINGLEANDHORIZONTALDOUBLEyLEFTDOUBLEyRIGHTDOUBLE",
   "lHEAVYDOUBLEDASHHORIZONTAL+aVERTICALsWNuANDHORIZONTALxLEFTxRIGHTqHORIZONTALqLEFT",
   "uANDLIGHTRIGHTqQUADRUPLEDASHHORIZONTAL+dVERTICALqRIGHTqTRIPLEDASHHORIZONTAL+aVERTICALqUP",
   "sANDHORIZONTALvLEFTwIGHTDOWNvRIGHTqVERTICALyANDHORIZONTAL+bLEFT+bRIGHT",
   "lLEFTDOWNHEAVYANDRIGHTUPLIGHTpHEAVYANDRIGHTDOWNLIGHT+cUPLIGHT+cVERTICALLIGHT",
   "pLIGHTANDRIGHTDOWNHEAVY+cUPHEAVY+cVERTICALHEAVYpUPHEAVYANDRIGHTDOWNLIGHT",
   "mIGHTARCDOWNANDLEFT+aRIGHTtUPANDLEFTyRIGHTqBOTTOMANDLOWERLEFTqDIAGONALCROSSyDIAMOND",
   "yLOWERLEFTTOMIDDLECENTRETOLOWERRIGHT+jUPPERCENTRETOLOWERRIGHTyMIDDLELEFTTOLOWERCENTRE",
   "+vTOMIDDLERIGHT+pRIGHT+kUPPERCENTRETOMIDDLERIGHT++iTOLOWERCENTRE+eRIGHTTOLOWERCENTRE+qLEFT",
   "+lUPPERCENTRETOMIDDLELEFTTOLOWERCENTREyUPPERCENTRETOLOWERLEFT+qRIGHT+lMIDDLELEFT",
   "+vANDMIDDLERIGHTTOLOWERCENTRE+vTOLOWERCENTRE++iTOMIDDLERIGHT+rRIGHT",
   "+wANDMIDDLELEFTTOLOWERCENTRE+wTOLOWERCENTRE++jTOMIDDLELEFT+dLEFTTOLOWERCENTRE",
   "+uTOUPPERRIGHT+oRIGHT+jMIDDLECENTRETOLOWERLEFT+xUPPERRIGHT+pRIGHT+uTOLOWERLEFT",
   "+dRIGHTTOLOWERCENTRE+pLEFT+kMIDDLECENTRETOLOWERRIGHT+qLEFT+uTOLOWERRIGHT",
   "rOUBLEDASHHORIZONTAL+aVERTICALsWNuANDHORIZONTALxLEFTxRIGHTqHORIZONTAL+aANDLOWERRIGHT",
   "+dUPPERRIGHT+aWITHVERTICALSTROKEqLEFTuANDHEAVYRIGHTqQUADRUPLEDASHHORIZONTAL+dVERTICAL",
   "qRIGHTqTOPANDUPPERLEFTrRIPLEDASHHORIZONTAL+aVERTICALqUPsANDHEAVYDOWNwORIZONTALvLEFTvRIGHT",
   "qVERTICALyANDBOTTOMLEFT+hRIGHT+bHORIZONTAL+bLEFT+bRIGHT+bTOPLEFT+eRIGHT",
   "lRIGHTDOWNHEAVYANDLEFTUPLIGHTqHEAVYANDLEFTDOWNLIGHT+cUPLIGHT+cVERTICALLIGHT",
   "qLIGHTANDLEFTDOWNHEAVY+cUPHEAVY+cVERTICALHEAVYqUPHEAVYANDLEFTDOWNLIGHT",
   "lUPDOUBLEANDHORIZONTALSINGLEwLEFTSINGLEwRIGHTSINGLEnHEAVYANDDOWNHORIZONTALLIGHT",
   "vHORIZONTALLIGHTvLEFTDOWNLIGHTzLIGHTvRIGHTDOWNLIGHT+aLIGHTnLIGHTANDDOWNHORIZONTALHEAVY",
   "vHORIZONTALHEAVYvLEFTDOWNHEAVYzHEAVYvRIGHTDOWNHEAVY+aHEAVYnSINGLEANDHORIZONTALDOUBLE",
   "wLEFTDOUBLEwRIGHTDOUBLElVERTICALDOUBLEANDHORIZONTALSINGLE+cLEFTSINGLE+cRIGHTSINGLE",
   "tHEAVYANDHORIZONTALLIGHT+bLEFTLIGHT+bRIGHTLIGHTtLIGHTANDHORIZONTALHEAVY+bLEFTHEAVY",
   "+bRIGHTHEAVYtSINGLEANDHORIZONTALDOUBLE+cLEFTDOUBLE+cRIGHTDOUBLEdINGGLOVEcYdSSYMBOLbPH",
   "bRAHMIDANDAhIGITEIGHTlFIVEmOURlNINElONElSEVENmIXlTHREEmWOlZEROhOUBLEDANDAgLETTERAnAnInUmBA",
   "nHAmCAnHAmDAnDAoHAnHAmEmGAnHAmHAmInImJAnHAmKAnHAmLAnLAmMAmNAnGAnNAnYAmOnLDTAMILLLAwLAuNNNA",
   "uRRAuSHORTEzOmPAnHAmRAmSAnHAnSAmTAnHAnTAoHAmUnUmVAnOCALICLuLtRuRmYAgNUMBEREIGHTrYmFIFTYoVE",
   "nORTYoURmJOINERmNINEqTYmONEpHUNDREDpTHOUSANDmSEVENrTYnIXpTYmTENnHIRTYoREEnWENTYoO",
   "gPUNCTUATIONCRESCENTBARrDOTtUBLEDOTrLINEsOTUSgSIGNANUSVARAkCANDRABINDUkJIHVAMULIYA",
   "kOLDTAMILVIRAMAkUPADHMANIYAkVISARGAgVIRAMAhOWELSIGNAAqIqUpBHATTIPROLUAApEpIqIpO",
   "qLDTAMILSHORTE+cOpUqUpVOCALICLxLwRxRdILLEPATTERNBLANKoDOTS1t2u3v4w5x6y7z8y8x7y8x8w6x7y8x8",
   "w7x8w8v5w6x7y8x8w7x8w8v6w7x8w8v7w8v8u4v5w6x7y8x8w7x8w8v6w7x8w8v7w8v8u5v6w7x8w8v7w8v8u6v7w8",
   "v8u7v8u8t3u4v5w6x7y8x8w7x8w8v6w7x8w8v7w8v8u5v6w7x8w8v7w8v8u6v7w8v8u7v8u8t4u5v6w7x8w8v7w8v8",
   "u6v7w8v8u7v8u8t5u6v7w8v8u7v8u8t6u7v8u8t7u8t8s2t3u4v5w6x7y8x8w7x8w8v6w7x8w8v7w8v8u5v6w7x8w8",
   "v7w8v8u6v7w8v8u7v8u8t4u5v6w7x8w8v7w8v8u6v7w8v8u7v8u8t5u6v7w8v8u7v8u8t6u7v8u8t7u8t8s3t4u5v6",
   "w7x8w8v7w8v8u6v7w8v8u7v8u8t5u6v7w8v8u7v8u8t6u7v8u8t7u8t8s4t5u6v7w8v8u7v8u8t6u7v8u8t7u8t8s5",
   "t6u7v8u8t7u8t8s6t7u8t8s7t8s8eNcEADeKPERMITTEDHEREeSTFEEDINGdVEcICKdDEWITHVEILeGEATNIGHT",
   "dEFCASEfScOCCOLIdKENBARgCIRCLEWITHNORTHWESTARROWgHEARTdOMdWNHEARTbSbUBBLESgTEAcCKETcG",
   "dINESEENDOFSECTIONiLETTERAoBAoCAoDAoGAoHAoJAoKAoLAoMApPAoNApGAqKApRApYAqCAoPAoRAoSAoTAoVA",
   "oYAiPALLAWAiVOWELSIGNAErErIrOrUcHIDLETTERAlBAlDAlGAlHAlIlKAlLAlMAlNAmGAlPAlRAlSAlTAlUlWA",
   "lYAfVOWELSIGNIoUcILDINGCONSTRUCTIONcLLETgOPERATOReHORNiWITHSOUNDWAVESeSEYEcRRITOcSdSTOP",
   "dTINSILHOUETTEeSINSILHOUETTEcTTERgFLYbYTEORDERMARKcZANTINEMUSICALSYMBOLAGOGIARGI+eOTERI",
   "+bGORGI+fOTERI+bMESI+dTRIA+bPOLIARGI+fGORGIxNATRICHISMAyTIKENOKYLISMA+eMAxPESOEKFONITIKON",
   "+cXONEOyLIyODERMAARCHAION+eNEOzSTROFOISYNDESMOSNEO+gTELOUSICHIMATOS+fS+gDIPLI+gNEOzTHEMA",
   "xRGON+aSYNTHETONyKTIKODI+dGA+dKE+dNI+dPA+dVOU+dZOwCHAMILI+cONyOREVMAARCHAION+eNEO",
   "yROAKLITON+bSPATHI+bZYGOSwDASEIAxIARGONzSTOLIAPLIMEGALI+jIKRI+eDIPLI+eTHESEOS",
   "yESISAPLIDYODODEKATA+cDIGRAMMOSEXDODEKATA+cMONOGRAMMOSTESSERADODEKATA+cTETARTIMORION",
   "+dRIGRAMMOSOKTODODEKATA+fTIMORIONyFTOGGOSOUyGORGON+ePARESTIGMENONARISTERAANO+zKATO+rDEXIA",
   "zRAMMAGGyPLI+bARCHAIONxYOwEKSTREPTONxLAFRONxNARXISKAIFTHORAVOUyDOFONONxPEGERMA",
   "xTERONARGOSYNTHETON+cPARAKALESMAxXOEKFONITIKONwFANEROSISDIFONIAS+fMONOFONIAS+fTETRAFONIAS",
   "xHTORASKLIRONCHROMAVASISxTHORAARCHAION+kDEYTEROUICHOU+cDIATONIKIDI+lKE+lNANA+mIANO+nKATO",
   "+lPA+lZO+cENARMONIOSANTIFONIA+cIYFESISTETARTIMORION+cMALAKONCHROMADIFONIAS+pMONOFONIAS",
   "+cNAOSICHOS+dENANO+cSKLIRONCHROMASYNAFI+pVASIS+jDIATONONDIwGENIKIDIESIS+cYFESIS",
   "xORGONARCHAION+cNEOANO+fKATO+cPARESTIGMENONARISTERA+pDEXIA+bSYNTHETONzTHMIKONNAPLOUN",
   "+hDIPLOUNxRONTHISMATAwICHADINxMIDIARGONzFONON+aTHORA+eONxSAKIATELOUSICHIMATOSyONARCHAION",
   "+aNEOwKATAVASMA+cTROMIKONzHISTIxENTIMAARCHAION+dNEOANO+gKATO+gMESO+dTA+fARCHAION+fNEOANO",
   "+iKATO+iMESOxLASMA+cANO+cKATOxONTEVMA+eALLOyRONISyUFISMAxRATIMAALLO+eRCHAION+dNEO+dTA",
   "+cOKOUFISMA+dYPORROONyEMASTIxYLISMAwLEIMMADYOCHRONON+cENOSCHRONOU+cIMISEOSCHRONOU",
   "+cTESSARONCHRONON+dRIONCHRONONyMOIxYGISMAwMARTYRIAALLIDEYTEROSICHOS+iPROTOSICHOS",
   "+eDEYTEROSICHOS+eLEGETOSICHOS+ePLAGIOSICHOS+lTETARTOSICHOS+fROTOSICHOS+jVARYSICHOS",
   "+eTETARTOSICHOS+mLEGETOSICHOS+fRIFONIAS+hTOSICHOS+eVARYSICHOSxIKRONISONwNANA",
   "wOLIGONARCHAION+cNEOxMALONxXEIADIPLI+bEKFONITIKON+bIARCHAION+bNEOxYRANISMAARCHAION+fNEO",
   "wPARAKALESMAARCHAION+hNEO+bLITIKI+hARCHAION+hNEOzICHONxELASTON+eNEOyRISPOMENIyTASMA+bTI",
   "+cOKOUFISMAxIASMAARCHAION+cNEOxSIFISTOLYGISMA+eN+fNEO+ePARAKALESMA+eSYNAGMAzLI+aONwRAPISMA",
   "xEVMAwSAXIMATAxEISMA+cNEOxIMANSISARSEOS+kDISIMOU+kTETRASIMOU+lRISIMOU+eTHESEOS+lDISIMOU",
   "+lTETRASIMOU+mRISIMOUxTAVROS+dAPODEXIAyIGMAyRAGGISMATAxYNAGMAARCHAION+dMETASTAVROU+dNEO",
   "zEVMAyRMA+bTIKIwTELEIAySSERAyTRAPLIxHEMA+bAPLOUN+bTISMOSESO+iXOzSKAIAPOTHESyITAxINAGMAxRIA",
   "zGORGONzPLIyOMIKOLYGISMA+dNALLO+fRCHAION+eNEO+dPARAKALESMA+eSIFISTON+dSYNAGMAwVAREIADIPLI",
   "+cEKFONITIKON+cIARCHAION+cNEOyTHYwXIRONKLASMAwYFENANO+aKATOzSISAPLIDYODODEKATA",
   "+cDIGRAMMOSEXDODEKATA+cMONOGRAMMOSTESSERADODEKATA+cTRIGRAMMOSOKTODODEKATA+fTIMORION",
   "xPOKRISIS+fDIPLIzRROIySILIaCACTUScDAUNAdUCEUScLENDARdLMEHANDcMERAgWITHFLASHdPINGcN",
   "dADIANSYLLABICSAsAtItYsItVILIKBsNsTHAPASCANM+bSsYrBEAVERDENEL+bRsIBLECREEYsLACKFOOTA+aE+aI",
   "+aKA+bE+bI+bO+aNA+bE+bI+bO+aO+aS+aW+bA+bE+bI+bOrCsAtAuItRRIERCHA+aE+bE+aI+aO+aUyDEE+aNEGEE",
   "+bTALSzIzLA+aE+bE+aI+aO+aUzZA+aE+bE+aI+aO+aUyEEyGA+aAzE+aEzHA+aE+bE+aI+aO+aUzIzOzUzWA+aUyH",
   "zEEzIzWA+aE+bE+aI+aO+aUyIzNITIALZyJAzE+aEzIzJA+aE+bE+aI+aO+aUzOzUzWAyKHA+aE+bE+aI+aO+aUzK",
   "+aA+aE+bE+aI+aO+aUyLAzE+aEzHA+aE+bE+aI+aO+aUzIzOzUyMAzE+aEzIzOzUyNAzE+aEzGzIzOzUyPzAzE+aE",
   "zIzOzUyRAzE+aEzIzOzUySAzE+aEzH+aA+aE+bE+aI+aO+aUzIzOzUyTHA+aE+bE+aI+aO+aUzLA+aE+bE+aHA+bE",
   "+cE+bI+bO+bU+aI+aO+aUzSA+aE+bE+aI+aO+aUzTA+aE+bE+aI+aO+aSA+bE+cE+bI+bO+bU+aUyWAzE+aEzIzOzU",
   "yYAzE+aEzIzOzUyZzAzE+aEzIzOzUsEsHISIGNsItIsOtOsWAuAtEtIuItOuOrEsASTERNWsNrFsAtAuIsEsItI",
   "tNALACUTEwBOTTOMHALFRINGwDOUBLEACUTE+cSHORTVERTICALSTROKESyWNTACKwGRAVEwMIDDLEDOTwPLUS",
   "wRAISEDDOTxIGHTHALFRINGyNGwSHORTHORIZONTALSTROKExMALLRINGwTOPHALFRINGsOtOsULLSTOPsWAA",
   "rGLOTTALSTOPrHKsYPHENrIsIsNrKsAtAuItYsEsItIsOtOsWtAuAuYtEtIuItOuOrLsAtAuItYsEsHtAuAtIuItO",
   "uOsItIsOtOsWAuAtEtIuItOuOrMsAtAuItYsEtDIALLxRsHsItIsOtOuSECREESKsWAuAtEtIuItOuOrNsAtAuI",
   "tSKAPICWAAyKWAAyMWAAyNWAAySCWAzKW+bAzPWAzTWAzW+aAAyTWAAyWAAzOOyYWAAtTTILIKHA+bA+aI+bI+aO",
   "+bOzSHRA+dA+cI+dI+cO+dOtYsCREETHEyIzIsEsGtAuAvIuItIuItOuOsHsItIsNGuAvAuIvIuOvOsOtOtY",
   "sUNAVIKHzA+aAzEzI+aIzO+aOwUTHsWAuAtEtIuItOuOrOsJIBWAYCyKyMyNzWI+bI+aO+bOyPySzHyTsNsOsYrPsA",
   "tAuItYsEsItIsOtOtYsWAuAtEtIuItOuOuYrQsAtAuItIsItIsOtOrRsAtAuItYsCREERExWEsEsItIsOtOsWAuA",
   "tEEtIuItOuOrSsAtAuItYuISIHAyEyIyOzOxJIyUzUxMxSHAzEzIzO+aOzWExTHxYIsEsHtAuAuYtEtIuItOuOuY",
   "tWAvAuEuIvIuOvOvYsItIsOtOtUTHSLAVEYKAH+dEH+dIH+dOHtYsPAtEtItOsWtAuAtEtIuItOuOrTsAtAuItYsE",
   "sHtAuAtCREETHzA+aAzEzI+aIzO+aOtEtIuItOuOtWAvAuEsItIsLHAuEuIuOvOuWEsOtOsTAtEtHuAvAuEuIuOvO",
   "uWEtItOsWAuAtEtIuItOuOsYAtEtItOrWAtAtYsEtSTCREECWA+cA+bE+bI+cI+bO+cOzFWAAzKWA+cA+bE+bI+cI",
   "+bO+cOzL+aA+bA+aE+aO+bO+aWA+cA+bE+bI+cI+bO+cOzM+aWA+cA+bE+bI+cI+bO+cOzNWA+cA+bEzP+aWA+cA",
   "+bE+bI+cI+bO+cOzR+aA+aE+aI+aO+aWAAzSHWA+dA+cE+cI+dI+cO+dO+aWA+cA+bE+bI+cI+bO+cOzTHWAA+aWA",
   "+cA+bE+bI+cI+bO+cOzWA+bA+aE+aI+bI+aO+bOzY+aWA+cA+bE+bI+cI+bO+cOvERNWsItIsOtOuDSCREEFINALTH",
   "+aTH+cA+cE+cI+cO+cWA+eA+dEE+dI+eI+dO+eOrYsAtAuItYsCREECOOwKOOwLOOwMOOwNOOwOOwPOOxWAAwSOO",
   "wTOOwWwYOOsEsItIsOtOtYsWAuAtEtIuItOuOdCELgCHARACTERgLATIONXgTAGfRdDLEeYdNEDFOODdOEcPITULUM",
   "dRICORNcRDFILEBOXeINDEXjDIVIDERSdEOFeTfINSERTIONPOINTdIANLETTERAn2mBmC18n39mDn2mEn2mGn2mI",
   "nImKn2mLnDo2mMnBo2o3o4mNnDnGnNmOmPn2mQmRnRmSnHo2nSnTo2mTnTo2mUnUoUp2p3pUmXdONeUSELHORSE",
   "dPENTRYSAWeSTREAMERdRIAGERETURNeOTdSLIDINGcSTLEcTdFACEhWITHTEARSOFJOYlWRYSMILE",
   "cUCASIANALBANIANCITATIONMARKrLETTERALTyORxBETxCARzYNyHA+aTzIzOYyYAW+aYxDATyYANyZAYzYAYxEB",
   "yYNxFAMxGHEYSyIMxHEYTxINYAyRByWNxJAYNyHOXxKARyIWxLANyYITxMAQxNOWCxONxPENyIWRxQARzYxRAT",
   "xSEYKyHA+aKzOYxTASyIWRyYAYxVEYZxXEYNxYAYDyOWDxZARLyHAzILdTIONSIGNbCHbEDILLAeSIGNcLTICCROSS",
   "cNTRELINELOWLINEkOVERLINEkSYMBOLeSIGNcRESbGJbHAINSeRdKMAAUMARKgDANDAhIGITEIGHTlFIVEmOUR",
   "lNINElONElSEVENmIXlTHREEmWOlZEROhOUBLEDANDAgLETTERAAmBAAnHAAmCAAnHAAmDAAnDAAoHAAnHAAmEmGAA",
   "nHAAmHAAmImJAAnHAAmKAAnHAAmLAAnHAAmMAAmNAAnGAAnNAAnYAAmPAAnHAAmRAAmSAAmTAAnHAAnTAAoHAAmU",
   "mVAAmWAAmYAAnYAAgMAAYYAAgOMARKgQUESTIONMARKgSECTIONMARKhIGNANUSVARAkCANDRABINDUkVISARGA",
   "gVIRAMAhOWELSIGNAqAqIqUpEqIpIqIpOqIpUqUdMCONSONANTSIGNFINALHwMwNGrLArRArWArYAeDIGITEIGHT",
   "jFIVEkOURjNINEjONEjSEVENkIXjTHREEkWOjZEROeLETTERAlIkBAlBAlHAkCHAmHAkDAlDAlHAkEkFINALCHpGpK",
   "pLpNqGpPpRpSSpTpYkGAlHAkHAkIkJAlHAkKAlHAkLAkMAlUEkNAlGAmUElHAmJAmUElUEkOkPAlHAlPAkRAkSAlSA",
   "kTAlHAkUkVAkYAePUNCTUATIONDANDAqOUBLEDANDApSPIRALpTRIPLEDANDAeVOWELSIGNAAoIoUnEInIoInOoEnU",
   "oEdRACTERTABULATIONtSETtWITHJUSTIFICATIONkIEeTWITHDOWNWARDSTRENDjUPWARDSTRENDvANDYENSIGN",
   "cECKERBOARDmFILLfMARKdERINGMEGAPHONEeSEWEDGEdQUEREDFLAGdROKEELETTERAoDApEpIpLApOpUpVoEoGA",
   "pEpIpOpUpVoHApEpIpNApOpUpVoIoKAoLApEpIpOpUpVoMApEpIpOpUpVoNAqHpEpIpOpUpVoOoQUAqEqIqOqUqVoS",
   "pApEpIpOpUpVoTApEpIpLAqEqIqOqUqVpSAqEqIqOqUqVoUoVoWApEpIpOpUpVoYApEpIpOpUpViSMALLLETTERA",
   "tDAuEuIuLAuOuUuVtEtGAuEuIuOuUuVtHAuEuIuNAuOuUuVtItKAtLAuEuIuOuUuVtMAuEuIuOuUuVtNAvHuEuIuO",
   "uUuVtOtQUAvEvIvOvUvVtSuAuEuIuOuUuVtTAuEuIuLAvEvIvOvUvVuSAvEvIvOvUvVtUtVtWAuEuIuOuUuVtYAuE",
   "uIuOuUuVeRIESfYBLOSSOMgSYMBOLdSTNUTcICKENdLDfRENCROSSINGdNESESMALLSIMPLIFIEDER",
   "mTRADITIONALERdPMUNKdRHOeONcOCOLATEBARdPSTICKSdRASMIANLETTERALEPHrYINqBETHqCURLEDWAW",
   "qDALETHqGIMELqHEsTHqKAPHqLAMEDHqMEMqNUNqPEqRESHqSAMEKHrHINrMALLALEPHqTAWqWAWqYODHqZAYIN",
   "kNUMBERFOURqONEtHUNDREDqTENrHREErWENTYsOcRISTMASTREEcURCHbINEMAcRCLEDANTICLOCKWISEARROW",
   "uROTATEDDIVISIONSIGNiSTERISKOPERATORhBOLDXiULLEThCCiDiROSSFORMEEsWITHFOURDOTSwTWODOTS",
   "mINGLANESmPOMMEEiWITHOVERLAIDBACKSLASHhDASHiIGITEIGHTmFIVEnOURmNINEmONEmSEVENnIXmTHREEnWO",
   "mZEROjVISIONSIGNqLASHiOLLARSIGNWITHOVERLAIDBACKSLASHjTOPERATORhEQUALShGREATERTHAN",
   "hHANGULCHIEUCHuAoIEUCsAnHIEUHsAnIEUNGsAsUnKHIEUKHuAoIYEOKtAnMIEUMsAnNIEUNsAnPHIEUPHuAoIEUP",
   "sAnRIEULsAnSIOSrAnTHIEUTHuAoIKEUTtAiEAVYWHITERIGHTWARDSARROWiORIZONTALBARWITHNOTCH",
   "iUMANFIGUREhIDEOGRAPHACCEPTrDVANTAGErLLIANCErTTENTIONqCENTRErONGRATULATIONsPYsRRECTqEARTH",
   "rIGHTrNTERPRISErXCELLENTqFEMALErINANCIALsREsVErOURqHAVErIGHqITEMqKINDERGARTENrOTOqLABOR",
   "rEFTrOWqMALErEDICINEsTALrOONqNAMErIGHTsNEqONEqPRINTqQUESTIONqRELIGIONsSOURCEtTrIGHTqSCHOOL",
   "rECRETsVENrIXrOCIETYrPECIALrTOCKsUDYrUITABLEsNsPERVISEqTENrHREErWOqWATERrOOD",
   "iNFORMATIONSOURCEiTALICLATINCAPITALLETTERC+fR",
   "iVIDEDBYHORIZONTALBARANDTOPHALFDIVIDEDBYVERTICALBARhKATAKANAApEpHAqEqIqOqUpIpKAqEqIqOqUpMA",
   "qEqIqOqUpNAqEqIqOqUpOpRAqEqIqOqUpSAqEqIqOqUpTAqEqIqOqUpUpWAqEqIqOpYAqOqU",
   "iOREANCHARACTERCHAMKOwJUEUIhLATINCAPITALLETTERAzBzCzDzEzFzGzHzIzJzKzLzMzNzOzPzQzRzSzTzUzV",
   "zWzXzYzZmSMALLLETTERAxBxCxDxExFxGxHxIxJxKxLxMxNxOxPxQxRxSxTxUxVxWxXxYxZiESSTHANhMINUS",
   "iULTIPLICATIONSIGNWITHCIRCUMFLEXACCENThNUMBEREIGHTEENsYONBLACKSQUAREoLEVENnFIFTEENrY",
   "sONBLACKSQUAREoORTYsEIGHTsFIVEtOURsNINEsONBLACKSQUAREuEsSEVENtIXsTHREEtWOpURTEENnNINETEEN",
   "nSEVENTEENtYONBLACKSQUAREoIXTEENrYONBLACKSQUAREnTENqONBLACKSQUAREoHIRTEENsYtEIGHTtFIVEuOUR",
   "tNINEtONBLACKSQUAREvEtSEVENuIXtTHREEuWOoWELVEqNTYtEIGHTtFIVEuOURtNINEtONBLACKSQUAREvE",
   "tSEVENuIXtTHREEuWOhOPENCENTREEIGHTPOINTEDSTARhPARALLELiERPENDICULARiLUSiOSTALMARK",
   "hREVERSESOLIDUSiINGOPERATORhSQUAREhTIMESiRIANGLEpDOWNhVERTICALBARhWHITEBULLETmSTARiZhX",
   "hZEROWITHSLASHgWITHALLBUTUPPERLEFTQUADRANTBLACKkHORIZONTALBARkLEFTHALFBLACKlOWERHALFBLACK",
   "kRIGHTHALFBLACKkSMALLCIRCLETOTHERIGHTlUPERIMPOSEDXkTWOHORIZONTALSTROKESTOTHERIGHT",
   "kUPPERHALFBLACKpRIGHTQUADRANTBLACKkVERTICALFILLeULATIONFUNCTIONfMFLEXACCENTfSTENTcTYSCAPE",
   "jATDUSKbJKRADICALBAMBOOlLUElOLTOFCLOTHmNEmXlRUSHONEpTWOkCHOKElITYmVILIANlLIFFmOTHESlOW",
   "lSIMPLIFIEDBIRDvCARTvDRAGONvEATwVENvFISHwLYwROGvGATEwOLDvHORSEvLEAFwONGvSALTwEEwHELLwILK",
   "wPEECHvTANNEDLEATHERwOOTHwURTLEvWINDkDEATHlIVINATIONlOGkEATONEnTHREEoWOlWElYEkFIRElOOT",
   "kGHOSTlRASSONEpTHREEqWOkHANDlEADnRTONEpTWOlORNkJADElSIMPLIFIEDDRAGONvEVENvTOOTHwURTLE",
   "kKNIFEONEpTWOkLAMEFOURoONEoTHREEpWOlONGONEoTWOkMEATmSHlOONmRTARmTHERmUNDONEpTWOkNETFOUR",
   "nONEnTHREEoWOkOLDkPAWONEnTWOlERSONkRAINmMmPlEPEATkSEALmCONDONEqTHREErWOlHEEPlILK",
   "mMPLIFIEDHALFTREETRUNKvORNuWALKvHEATuYELLOWlMALLONEpTWOlNAKEmOUTONEpTWOlPIRITONEqTWOlUN",
   "kTABLElHREADlIGERlURTLEkWALKONEoTWOmTERONEpTWOlESTONEoTWOdSTROKEBXGjDjHkGkPlWGkXGlWGkZlGlT",
   "lWmGlZmPmZnGjNjPkDkGkZjQjSkGkPkTkWlGlZkZlPlWGlZjTkNjWGjXGbLAMSHELLMOBILEPHONEdPPERBOARD",
   "fINGHANDSSIGNdSSICALBUILDINGcEARSCREENSYMBOLcINKINGBEERMUGSiGLASSESdPBOARD",
   "cOCKFACEEIGHTOCLOCKoTHIRTYkLEVENOCLOCKpTHIRTYjFIVEOCLOCKnTHIRTYkOUROCLOCKnTHIRTY",
   "jNINEOCLOCKnTHIRTYjONEOCLOCKmTHIRTYjSEVENOCLOCKoTHIRTYkIXOCLOCKmTHIRTYjTENOCLOCKmTHIRTY",
   "kHREEOCLOCKoTHIRTYkWELVEOCLOCKpTHIRTYlOOCLOCKmTHIRTYfWISECLOSEDCIRCLEARROWkONTOURINTEGRAL",
   "jDOWNWARDSANDUPWARDSOPENCIRCLEARROWSjGAPPEDCIRCLEARROWjINTEGRALjOPENCIRCLEARROW",
   "jRIGHTANDLEFTSEMICIRCLEARROWSoWARDSANDLEFTWARDSOPENCIRCLEARROWS+vWITHCIRCLEDONEOVERLAY",
   "jTOPSEMICIRCLEARROWkRIANGLEHEADEDOPENCIRCLEARROWdSEDBOOKgINTERSECTIONWITHSERIFS",
   "gLOCKWITHKEYgMAILBOXWITHLOWEREDFLAGrRAISEDFLAGgSUBSETmOREQUALTOiPERSEToOREQUALTOgUMBRELLA",
   "hNIONWITHSERIFSvANDSMASHPRODUCTfUPdUDfWITHLIGHTNINGjRAINjSNOWjTORNADOdWNFACEbOATcCKROACH",
   "eTAILGLASSdONUTcFFINcINcLLISIONSYMBOLdONfEQUALSfSIGNcMBININGACUTEACCENTuBELOWoGRAVEACUTE",
   "oMACRONoTONEMARKoVERTICALLINEkLMOSTEQUALTOABOVEwBELOWkNNUITYSYMBOLlTICLOCKWISEARROWABOVE",
   "wRINGOVERLAYkSTERISKABOVErBELOWjBINDUBELOWkREVEoBELOWoMACRONlIDGEABOVEpBELOWjCANDRABINDU",
   "lRONoBELOWkEDILLAkIRCUMFLEXACCENTzBELOWkLOCKWISEARROWABOVEsRINGOVERLAYkOMMAABOVEtRIGHT",
   "oBELOWlNJOININGMACRONzBELOWkYRILLICDASIAPNEUMATArHUNDREDMILLIONSSIGNyTHOUSANDSSIGNrKAVYKA",
   "rLETTERAxBEyIGYUSxCHExDEyJERVxEFyLyMyNyRySzTExFITAxGHExHAzRDSIGNxIyEyOTIFIEDA+fBIGYUS+fE",
   "xKAxLITTLEYUSxMONOGRAPHUKxOyMEGAxPExSHAzCHAyOFTSIGNxTEySExUyKRAINIANIExVExYATyERUyIyUxZE",
   "yHErMILLIONSSIGNrPALATALIZATIONtYEROKsOKRYTIEsSILIPNEUMATA",
   "rSMALLLETTERBYELORUSSIANUKRAINIANIrTENMILLIONSSIGNsHOUSANDMILLIONSSIGNsITLOwLEFTHALF",
   "wRIGHTHALFrVZMETjDELETIONMARKlVANAGARIDIGITEIGHTyFIVEzOURyNINEyONEySEVENzIXyTHREEzWOyZERO",
   "tLETTERAzKAzNAzPAzRAzUzVItSIGNAVAGRAHAkIAERESISsBELOWsRINGsWITHRAISEDLEFTDOTkOTABOVErLEFT",
   "rRIGHTnNDRINGBELOWmBELOWrLEFTmTEDACUTEACCENTpGRAVEACCENTlUBLEACUTEACCENTqRCHABOVEtBELOW",
   "pBREVEuBELOWpCARONqIRCUMFLEXABOVEpDCIRCUMFLEXACCENTpGRAVEACCENTpINVERTEDBREVE+cBELOW",
   "pLOWLINEpMACRONvBELOWpOPENMARKBELOWqVERLINEpPARENTHESESABOVEqLUSSIGNABOVExBELOW",
   "pRIGHTWARDSARROWABOVE+eBELOWrNGBELOWpTILDEuLEFTHALFuRIGHTHALFpVERTICALLINEABOVE+bBELOW",
   "xSTROKEOVERLAYlWNTACKABOVErBELOWnWARDSARROWjENCLOSINGCIRCLEyBACKSLASHsDIAMONDsKEYCAP",
   "sSCREENtQUAREsUPWARDPOINTINGTRIANGLEkQUALSSIGNABOVEtBELOWjFERMATAkLATSIGNkOURDOTSABOVE",
   "jGLAGOLITICLETTERAZUzBIGYUS+aUKYzCHRIVIzDJERVI+aOBROzFITA+aRITUzGLAGOLIzHERUzI+aNITIALIZHE",
   "+aOTATEDBIGYUS+gSMALLYUS+aZHEzKAKOzLJUDIJEzMYSLITEzNASHIzONUzPOKOJIzRITSIzSHA+bTA+aLOVO",
   "+aMALLYUSzTSI+aVRIDOzUKUzVEDEzYATI+aERI+cU+bSTU+aO+aUzZEMLJA+aHIVETEkRANTHADIGITFIVEwOUR",
   "vONEvSIXvTHREEwWOvZEROqLETTERAwKAwNAwPAwVImPHEMEJOINERmVEACCENTuBELOWqUTEGRAVEoMACRON",
   "oTONEMARKoVERTICALLINElEEKDIALYTIKATONOSoKORONISoMUSICALPENTASEMEvTETRASEMEwRISEME",
   "oPERISPOMENIoYPOGEGRAMMENIjHOMOTHETICABOVElOKABOVElRNjINFINITYlVERTEDBREVEwBELOWtIDGEABOVE",
   "xBELOWrDOUBLEARCHABOVE+bBELOWkSBELOWjKATAKANAHIRAGANASEMIVOICEDSOUNDMARKzVOICEDSOUNDMARK",
   "lVYKAABOVELEFTuRIGHTjLATINLETTERSMALLCAPITALG+gL+gM+gN+gRoSMALLLETTERA+aE+aLPHA+aO+aV",
   "+aWITHDIAERESISzB+aETAzC+aCEDILLAzDzE+aSH+aTHzF+aLATTENEDOPENAABOVEzGzHzI+aNSULARD+gG+gR",
   "+gTzKzL+aONGS+aWITHDOUBLEMIDDLETILDEzMzNzO+aWITHDIAERESIS+eLIGHTCENTRALIZATIONSTROKEzPzR",
   "+aBELOW+aROTUNDAzS+aCHWAzT+aURNEDWBELOWzU+aWITHDIAERESIS+eLIGHTCENTRALIZATIONSTROKEzVzW",
   "+aBELOWzXzZkEFTANGLEABOVEsBELOWsCENTREDABOVEoRROWABOVEsBELOWsHEADABOVEwBELOWnHALFRINGABOVE",
   "vBELOWpRPOONABOVEnPARENTHESISABOVELEFTyBELOWLEFTnRIGHTARROWABOVExBELOWnTACKABOVErBELOW",
   "nWARDSARROWOVERLAYsHARPOONWITHBARBDOWNWARDSkIGATURELEFTHALFzBELOWrRIGHTHALF+aBELOW",
   "mHTCENTRALIZATIONSTROKEBELOWkONGDOUBLESOLIDUSOVERLAYnSOLIDUSOVERLAYoTROKEOVERLAY",
   "nVERTICALLINEOVERLAYlWLINEjMACRONpACUTEuGRAVEpBELOWqREVEpGRAVEpLEFTHALFxBELOWpRIGHTHALF",
   "yBELOWpVERTICALLINEkINUSSIGNABOVEsBELOWjNOTTILDEABOVEkUMBERSIGNABOVEjOGONEKpABOVE",
   "kLDPERMICLETTERANyDOIyNENOEySIIyZATAkPENMARKBELOWkVERLINEjPALATALIZEDHOOKBELOW",
   "lRENTHESESABOVEuBELOWuOVERLAYkLUSSIGNABOVErBELOWjRETROFLEXHOOKBELOWlVERSEDCOMMAABOVE",
   "qSOLIDUSOVERLAYkIGHTARROWABOVEtBELOWtHEADABOVEyNDDOWNARROWHEADBELOW+aUPARROWHEADBELOW",
   "xBELOWoHALFRINGABOVEwBELOWqRPOONABOVEoPARENTHESISABOVERIGHTzBELOWRIGHToTACKABOVEsBELOW",
   "oWARDSHARPOONWITHBARBDOWNWARDSlNGABOVEnBELOWnOVERLAYjSEAGULLABOVEqBELOWkHARPSIGN",
   "lORTSOLIDUSOVERLAYpTROKEOVERLAYoVERTICALLINEOVERLAYkNAKEBELOWkQUAREABOVEpBELOW",
   "qRACKETSABOVEkTRONGCENTRALIZATIONSTROKEBELOWkUSPENSIONMARKjTHREEDOTSABOVEkILDEoBELOW",
   "oLEFTHALFBELOWoOVERLAYoRIGHTHALFBELOWkRIPLEACUTEACCENTpDOTpUNDERDOTkURNEDCOMMAABOVE",
   "jUPTACKABOVEpBELOWlWARDSARROWABOVEvBELOWkRABOVEkSABOVEjVERTICALLINEABOVEwCUTE+aGRAVEvBELOW",
   "vGRAVE+aACUTEvMACRONrTILDEjWIDEBRIDGEABOVEnINVERTEDBRIDGEBELOWlGGLYLINEBELOWjXABOVEkBELOW",
   "kXBELOWjZIGZAGABOVEpBELOWdETdMAeERCIALATkMINUSSIGNdPASSeLEMENTeOSITIONSYMBOLeRESSION",
   "cNFETTIBALLeOUNDEDFACEeUSEDFACEdGRUENTWITHDOTABOVEdICALTAPERdJUNCTIONdSTRUCTIONSIGNmWORKER",
   "dTAINSASMEMBERkNORMALSUBGROUPyOREQUALTOiWITHLONGHORIZONTALSTROKEmOVERBAR",
   "mVERTICALBARATENDOFHORIZONTALSTROKEeINUOUSUNDERLINESYMBOLeOURINTEGRALeROLKNOBS",
   "hSEQUENCEINTRODUCERdVENIENCESTOREcOKEDRICEeIEfNGcPTICCAPITALLETTERAKHMIMICKHEIuLFA",
   "tBOHAIRICKHEItCROSSEDSHEIvYPTOGRAMMICEIE+gGANGIA+gNI+gSHEItDALDAuEIuIALECTPALEF+bHORI",
   "+bKAPA+bNItEIEtFEIuItGAMMAvNGIAtHATEuORItIAUDAtKAPAuHEIvIuSItLAULAuSHAPEDHAtMItNItO",
   "uLDCOPTICAIN+cDJA+cESH+cGANGIA+cHA+eT+dEI+dORI+cOOU+cSHEI+eIMAwNUBIANNGI+dYI+cSHIMA+cWAU",
   "uOUtPIuSItROtSAMPIuHEIvIMAuIMAuOUtTAUuHETHEtUAtVIDAtZATAhOMBININGNIABOVEpSPIRITUSASPER",
   "xLENISgEPACTDIGITEIGHTqFIVErOURqNINEqONEqSEVENrIXqTHREErWOlNUMBEREIGHTHUNDREDwYrFIFTY",
   "tVEHUNDREDsORTYtURHUNDREDrNINEHUNDREDvTYrONEHUNDREDrSEVENHUNDREDwTYsIXHUNDREDuTYrTENsHIRTY",
   "tREEHUNDREDsWENTYtOHUNDREDlTHOUSANDSMARKgFRACTIONONEHALFhULLSTOPgMORPHOLOGICALDIVIDER",
   "gOLDNUBIANDIRECTQUESTIONMARKpFULLSTOPpINDIRECTQUESTIONMARKpVERSEDIVIDER",
   "gSMALLLETTERAKHMIMICKHEIsLFArBOHAIRICKHEIrCROSSEDSHEItYPTOGRAMMICEIE+eGANGIA+eNI+eSHEI",
   "rDALDAsEIsIALECTPALEFzHORIzKAPAzNIrEIErFEIsIrGAMMAtNGIArHATEsORIrIAUDArKAPAsHEItIsSIrLAULA",
   "sSHAPEDHArMIrNIrOsLDCOPTICAIN+aDJA+aESH+aGANGIA+aHA+cT+bEI+bORI+aOOU+aSHEI+cIMAuNUBIANNGI",
   "+bYI+aSHIMA+aWAUsOUrPIsSIrROrSAMPIsHEItIMAsIMAsOUrTAUsHETHErUArVIDArZATAhYMBOLKAInHIRO",
   "mMIROmPIROmSHIMASIMAnTAUROSmTAUROdYLEFTSYMBOLeRIGHTSIGNcRALdNISHVERSEDIVIDERdRESPONDSTO",
   "cUCHANDLAMPdNTERBOREhSINKfINGRODTENSDIGITEIGHTuFIVEvOURuNINEuONEuSEVENvIXuTHREEvWO",
   "lUNITDIGITEIGHTuFIVEvOURuNINEuONEuSEVENvIXuTHREEvWOdPLEWITHHEARTcWdFACEbRcABcEDITCARD",
   "dSCENTMOONcICKEThBATANDBALLcOCODILEdISSANTdSSEDFLAGShNEGATIVESQUAREDLATINCAPITALLETTERP",
   "hSWORDSfINGLANESfMARKfOFJERUSALEMhLORRAINEfPATTYWITHLEFTCROSSBARoRIGHTCROSSBARgOMMEE",
   "lWITHHALFCIRCLEBELOWdWNcUTCHdZEIROSIGNcYINGCATFACEgFACEdSTALBALLbSIbUBEROOTcCUMBER",
   "cNEIFORMNUMERICSIGNEIGHTASHzDISHzGESH2zSHAR2zU+aVARIANTFORMzVARIANTFORMUSSU+o3vLAMITEFIFTY",
   "+cORTY+bONETHIRD+bTWOTHIRDSuFIVEASH+bTENUyBAN2+cVARIANTFORMzURUyDISHyGESH2+cUySHAR2+cU",
   "zIXTHSDISHyUzVARIANTFORMvOURASH+bTENUyBAN2+cVARIANTFORMzURUyDISHyGESH2+cUySHAR2+cUyU",
   "zVARIANTFORMyVARIANTFORMLIMMU+o4+oA+oBuNIGIDAESH+aMINwNEASHyDISHyGESH2ySHAR2yUzVARIANTFORM",
   "yVARIANTFORMILIMMU+p3+p4+pAuOLDASSYRIANONEQUARTER+iSIXTHvNEBAN2yURUxEIGHTHASHySHE3xGESH2",
   "+bUxHALFGURxQUARTERASH+eGURxSHARUxTHIRDDISH+cVARIANTFORMAuSEVENASHzDISHzGESH2zSHAR2zU",
   "+aVARIANTFORMzVARIANTFORMIMIN3+oA+oBvHAR2TIMESGALPLUSDISH+lMINvIXASH+aTENUxDISHxGESH2",
   "xSHAR2xUyVARIANTFORMxVARIANTFORMASH9uTHREEASH+cTENUzBAN2+aURU+dVARIANTFORMzDISHzGESH2+dU",
   "zSHAR2+eVARIANTFORM+dU+eVARIANTFORMzVARIANTFORMESH16+n21vWOASH+aTENUxBAN2yURUxESHE3xGESH2",
   "+bUxSHAR2+bUxTHIRDSDISH+dVARIANTFORMAjPUNCTUATIONSIGNDIAGONALCOLON+gQUADCOLON+gTRICOLON",
   "yOLDASSYRIANWORDDIVIDERyVERTICALCOLONjSIGNAo2oBp2qTIMESAvBALAGvGAN2TENUvMEPLUSENvSHA3vTAK4",
   "pGUNUpTIMESASH2uDUN3GUNUuGALwN2TENUuHAuIGIGUNUvMINuLAGABuNUNxTENUuSHESHwU2uUPLUSUPLUSUoD",
   "pTIMESESH2oKpTIMESERIN2uSHITAPLUSGISHoLpANpEPHpTIMESALuDIM2uGISHuHAuKAD3vIuSHEuUSHoMAR",
   "rTIMESKUGwSHEoNpOVERANpPLUSNAGAOPPOSINGANPLUSNAGAxSQUAREDpSHEpTHREETIMESoPINoRADrTIMESKUR",
   "pKABoSAL2pHq2qGABqKABATENUqOVERASHOVERASH+eCROSSINGASHOVERASHOVERASH",
   "xTUG2OVERTUG2TUG2OVERTUG2PAPqZIDATENUoTIMESAtBADtGAN2TENUtHAtIGItLAGARGUNUtMUSHtSAGnBApD",
   "qTIMESDISHTENUpG3pHAR2tTIMESAB2yNIyZApLqAGqOVERBALpRqA2oIpTIMESAuGARuIGIGUNUoUpCROSSINGBU",
   "pLUGsOVERBULUGpOVERBUABvTIMESNA2vUNpRq2nDApGq3qKISIM5TIMESAMAR+cPLUSMASH+bBALAG+cI+bGA",
   "+dPLUSMASH+cI+dR2+cUD+bHA+bIR+dPLUSLU+bKAK+bLA+cU+dM+dPLUSMASH2+bNE+bPAPPLUSPAP+bSI+bTAK4",
   "+bU2PLUSGIR2+hMASH+cSHqTIMESKURpMpRqA3r4pTIMESTAK4oIpBpMq2rTIMESUDqTIMESIGIvSHEvUUUpN",
   "qKASKALUGUNUDISHpSHrPLUSSHUoUpBq2qTIMESESH2vSHEpGqTIMESANSHEwSHyATLEFTvDINwUNvERIN2vGAwI",
   "xR2GUNUxSHvHAwIvIGIGUNUvKASKALwURxSHU2+bPLUSKASKALvLAK020xMyTIMESKURwUHPLUSGISHvMASHwESwI",
   "vNIvPIvSHEwIGUNUqUDrNUpHpNq3rGUNUvGUNUq4pOVERDUpR2pSHESHIGnEo2pTIMESAPLUSHAPLUSDAuGARuKUR",
   "uMIuPAPuSALvHEuUoDINoGIRoLoNpCROSSINGENpOPPOSINGENpSQUAREDpTIMESGAN2yTENUuME",
   "oOVERENUNOVERNUNoRENpIN2sXoSH2rCROSSINGESH2oTIMESPAPoZENrSHESHIGTIMESASH+dHI+dIGIGUNU+dLA",
   "+fL+dME+fS+dSUrTIMESAxNxPLUSLAL+eTIMESLALwBADwDUN3GUNU+eGUNUwGUDwHAyGUNUwIGIGUNUwKASKAL",
   "+cSQUAREDxU3wLAyLTIMESLALxIxUwSHExUwU2xDnGAp2qOVERGA2qTIMESAB2TENUPLUSTABwNxPLUSKAKPLUSA",
   "wPLUSDAPLUSHA+aHA+aIGIwSHy2zPLUSGALvBADxHAR2xRPLUSRAwURyPLUSRAvDAwIxMGUNUyTIMESSHEwUB",
   "xGTIMESIGIGUNU+dKASKALvELxPLUSLAwNxTIMESGAN2TENUwRENvGAxN2TENUxRyPLUSDI+cNEwIx4yPLUSA",
   "xR2PLUSSUvHALyPLUSLAxPLUSA+bLUPLUSESH2wIPLUSLIwUB2vIGIGUNUwSHPLUSHUPLUSASHvKAKxSKALwID",
   "yPLUSLALwU3PLUSANxSHU2PLUSKASKALvLAxMyTIMESKURwUHvMEPLUSENwIwUSHvNExPLUSE2+bGIwUNyOVERNUN",
   "vPAvSALxRwHEyPLUSTURxIDyMwUMvTAK4vUwDxPLUSDUvZIZ2pBArCROSSINGGABArROTATEDNINETYDEGREESpD",
   "qOVERGADGAROVERGARpGUNUpLqAMqGADOVERGADGAROVERGARpMpNq2rCROSSINGGAN2rOVERGAN2rTENUpRq3",
   "pSHANoE22pSHTINuTIMESKURzUoIp4qCROSSINGGI4qOVERGI4pCROSSINGGIpDIMpGpR2rGUNUq3",
   "rTIMESAPLUSIGIwGAN2TENUwIGIwLUPLUSIGIwPApSALqHrCROSSINGGISHrTENUsIMESBADwGISHCROSSINGGISH",
   "wTAK4pTIMESEuUoUp2qGUNUqTIMESIGIGUNUvKAKyTIMESIGIGUNUvNUNvSALPLUSTUG2pCROSSINGGUpD",
   "qOVERGUDLUGALqPLUSGISHTIMESTAK4qTIMESAPLUSKURvKURpLpMqTIMESSHEpRq7qUNrSHnHApGUNUpLpTENU",
   "tGUNUoIpTIMESASHx2xOVERHITIMESASHuBADuDISHuGADuKINuNUNuSHEuUoUpB2rTIMESANwHALwKASKALwLISH",
   "wUDpL2pSHnIoAoBoDIMrOVERIDIMBURzSQUAREDoGpIqDIBqGUNUqOVERIGISHIROVERSHIRUDOVERUDqRIoLp2",
   "pTIMESGAN2TENUoMpCROSSINGIMpINpOPPOSINGIMpSQUAREDpTIMESTAK4oNoRoSHnKAp2qCROSSINGKA2pBpD2q3",
   "q4q5rOVERKAD5pKqTIMESIGIGUNUpLqAMqCROSSINGKALqTIMESBADpM2q4pPELAMITEpSKAL",
   "tLAGABTIMESUOVERLAGABTIMESUtOVERKASKALLAGABTIMESUOVERLAGABTIMESUpTIMESAvDwPLUSKU3vNSHEvSH2",
   "x3uBADwLAGwRvIvUuERIN2vSH2uGAwLwN2TENUwRxPLUSSHA3PLUSAvIwR2wSHyCROSSINGGISHyPLUSSARvUwDwR7",
   "uHITIMESASH2uIGIvMuKAwKvIwDuLIvUwMuMEwPLUSDU+aGI+aTEvIwPLUSNUNUZuNEvUNuPAvIuRUuSAwRvHAwE",
   "wIDwUxLvIGvUHURuTARvUuUv2vDvMUMTIMESPAvRw2vSHvUUuZIoESH2oIpDpNpSALqHqIM5tOVERKISIM5",
   "pTIMESBADuUvDoUp3p4qVARIANTFORMp7pLqGUNUpNpOVERHITIMESASH2KUOVERHITIMESASH2pRqOPPOSINGKUR",
   "pSHU2oWU318nLApGABsSQUAREDsTIMESAyLyNyPLUSDAPLUSHA+cGAR+cLALySHZIDATENUxBADyIxDARxENxGAzR",
   "yIyUD+aPLUSGUDxHAzLyITIMESNUNxIGIGUNUyMzPLUSHA+dLUxKIzNyU3zL+aPLUSHIPLUSAxLAGAByISHyUzLxME",
   "zPLUSENyUSHxNExSHEPLUSSUMzITAPLUSGISHPLUSERIN2+kTENUzU2+bPLUSSHU2yUMxTAGzK4",
   "yEPLUSAPLUSSUPLUSNAxUy2PLUSASHyDyPLUSA+cUPLUSUySHxZUOVERZUrRsGUNUwOVERLAGARGUNUSHE",
   "sTIMESSHE+aPLUSSUMpHSHUpK003r21s5r30r50s1r62r79OVERLAK079GUNUr80s1OVERLAK081r92q130r42q210",
   "s9r20s5s8r38r65s6q343s7s8r83s4r90q441s9tTIMESGUyIGIyPAPPLUSLU3+fPAPPLUSLU3yU2PLUSBAr50s7",
   "r70r83r90s2s3s5q550q608r17tTIMESASHyBADyDUN3GUNUGUNUyKU3yLAyTARzEyU2zDzRUDAr36r48tTIMESDUB",
   "yGAyIGI+bGUNUyNIyPAPPLUSPAPPLUSLU3ySHESHPLUSKIyUDzRUDAq724r49pLqTIMESLALpMqTIMESKURyPLUSRU",
   "oIpLpMMU2pSHoUp2qCROSSINGLU2qGUNUTIMESASHqOPPOSINGLU2qSHESHIGxTIMESBADrQUAREDqTENUrIMESAL",
   "vBADvDISHvESH2zPLUSLALzTENUvGAN2TENUvHALwITIMESBADvIMvKAD2y3zPLUSASHwIvLAGABxPLUSASH",
   "vMEPLUSENvNEwUvPAPyPLUSPAPPLUSLU3vSHUwIK2PLUSBUxPLUSASHvTAK4wUG2p3pGALsOPPOSINGLUGAL",
   "tVERLUGALsSHESHIGpHpLpMqOVERLUMxGAROVERGARpTIMESBADnMAp2pGUNUpHpRpSHr2pTIMESTAK4oEpSqHoIpN",
   "pPLUSZA7oUpGqGUNUpNSUBpOVERMUpRGU2pSHr3sGUNUsTIMESAyPLUSDIxDIxZArCROSSINGMUSHrOVERMUSH",
   "zTIMESAPLUSNA+eGA+eKAKrTIMESAwKURwZAnNAp2p4pGArINVERTEDrOPPOSINGNAGArRrTIMESSHUTENUpMq2",
   "qNUTILLUoEpSHESHIGpTIMESAuUDoIp2pMqTIMESGAN2TENUxRPLUSGAN2TENUpNq9qDA2tTIMESANzSH+bPLUSASH",
   "yBALyDIMGUNUyGI+aSHzUD+aLyHIyKESH2yLAK050yMASHzEPLUSGAN2TENUyNEzUNyPAPPLUSPAPySHE+bPLUSAAN",
   "+gSH+iPLUSASHyUz2PLUSASHzPLUSUzRUDAzSHpSAGpTIMESEoUp11rOVERNU11BUROVERBUR",
   "rROTATEDNINETYDEGREESrTENUpNqCROSSINGNUN+bLAGAROVERLAGARqLAGARTIMESGAR+aMASH+aSAL",
   "+dOVERNUNLAGARTIMESSAL+aUSHqOVERNUNqTENUqUZsAB2TIMESASHGAB+aBI+aDUG+aGUD+aIGIGUNU+aKAD3",
   "+aLA+aNE+aSILA3+aU2sKISIM5TIMESBI+fUnPApDpNpPoESH2sASTERISKoIpCROSSINGPIpR2qIG",
   "sOPPOSINGPIRIGsTIMESKALxUDxZApTIMESAvBuBIvUuEuIvBuUv2nRApBoIoUnSApGqGUNUuTIMESHAqNUTILLU",
   "qOVERSAGqTIMESAvDUxBvENvHAvIGIGUNUvKAKwURvLUMvMIvNUNvSALwHEATLEFTxIDvTABxK4vU2wBwMwRwSHpL",
   "qLAGABTIMESASH2pNGA2pRoHAq3rTIMESAwBADwGISHwNEwSHU2wTURwUxPLUSAq6rTENUqB6qR2pEqG9qHUqN",
   "qOVERSHExGADOVERGADGAROVERGARxTABOVERTABGAROVERGARqPLUSHUB2uNAM2uSARqSHs2sLAMpIDrTIMESAwIM",
   "qMrTIMESAwBALxULUGwDINwGARwIGIzGUNUwKUSHU2wLULwMUGwSALqNIGqRrOVERSHIRBUROVERBURrTENUqTApU",
   "q2rPLUSDUGTIMESNIvE2TIMESANqBURqOVERINVERTEDSHUoIpGq4rOVERSIG4SHU2qUNUpK2pLA3pTIMESTAK4oU",
   "pDq2pHURpMqASHpOVERSUpRq9nTApASTERISKpBqOVERTABNIOVERNIDISHOVERDISHqSQUAREDpGqTIMESBIvGUD",
   "vSHExUvTUG2vUDqUNUpK4rPLUSSAGpRpTIMESHIuMIoEpGUNUoIp2pLpRqOVERTIRxGADOVERGADGAROVERGAR",
   "qTIMESTAK4pTENUoUpG2pKpMqTIMESGAN2TENUvTHREEDISHpRqOVERTURZAOVERZAnUo2oBoDpGUNUpKUSHU2",
   "pSHESHIGwTIMESBADpTIMESBADuMIuUPLUSUPLUSU+fGUNUpUGoGUDoMpBINpTIMESLAGABuMEwPLUSDAuSHA3uU",
   "pUMrTIMESKASKALwPAoNpGUNUoOVERUPAOVERPAGAROVERGARtSUROVERSURtUREVERSEDOVERUREVERSEDoRp2",
   "qINVERTEDqTIMESALwPLUSHA+aNAvHAvNUNvU2xPLUSASH+bBIwDp4pCROSSINGURpIq3pSHESHIGpUqDAsTIMESU",
   "qTIMESAwSHGABvBARvDARA3wUNvGAxLxN2TENUxRwUvHAvIGIwMwSHvKIvLAK668wU3xMvMINvPAvSHEwIG4vTUvUD",
   "wPLUSGUDwRUDAoSHq2qTIMESAvKUxRvTAK4qUMXqXoTUKIoUpUoZ3qTIMESKASKALpUnZAp7pGpMX",
   "pSQUAREDTIMESKURpTENUoE2oIp3pBqKABATENUpGpOVERZIpZ2oUp5qTIMESAvTHREEDISHTENUpBURpM",
   "pOVERZUPLUSSARcPCAKEdIDOdONBLACKSQUAREdWITHSTRAWcRLINGSTONEeYBRACKETEXTENSIONfLOGICALAND",
   "mORhOPdRENCYEXCHANGEiSIGNeYANDRICEdVEDSTEMPARAGRAPHSIGNORNAMENTcSTARDeOMScTOFMEATbYCLONE",
   "cLINDRICITYcPRIOTSYLLABLEApEpIpJAqOpKAqEqIqOqUpLAqEqIqOqUpMAqEqIqOqUpNAqEqIqOqUpOpPAqEqIqO",
   "qUpRAqEqIqOqUpSAqEqIqOqUpTAqEqIqOqUpUpWAqEqIqOpXAqEpZAqOeOMINOANSIGNCM001t2t4t5t6t7t8t9s10",
   "t1t2uBt3t5t7t9s21t3t4t5t6t7t8t9s30t3t4t5t6t7t8t9s40t1t4t6t7t9s50t1t2t3t4t5t6t8t9s60t1t2t3",
   "t4t6t7t8t9s70t1t2t3t4t5uBt6t8t9s80t1t2t3t4t5t6t7t8t9s90t1t2t4t5t6t7t8t9r100t1t2t3t4t5t7t8",
   "t9s10t2t4r301t2cRILLICCAPITALLETTERAwBKHASIANCHE+hWITHDESCENDER+eDZE+eHAwLEUTKAwWITHBREVE",
   "+aDIAERESISvBARREDO+cWITHDIAERESISxSHKIRKAwEwIGYUSxNOCULAROwLENDEDYUSwROADOMEGA",
   "wYELORUSSIANUKRAINIANIvCCHEwHEyWITHDESCENDER+dIAERESIS+cVERTICALSTROKEwLOSEDLITTLEYUS",
   "wROSSEDOvDCHEwEwJEyRVwOUBLEMONOCULARO+bOwWEwZEyLOxHExWExZEyHEvEwFwLxWITHDESCENDER+bHOOK",
   "+bMIDDLEHOOK+bTAILwMxWITHTAILwNxWITHDESCENDER+bHOOK+bLEFTHOOK+bMIDDLEHOOK+bTAILwRxWITHTICK",
   "wSxWITHDESCENDERwWITHDIAERESISvFITAvGHEyWITHDESCENDER+cMIDDLEHOOK+cSTROKE+iANDHOOK+cUPTURN",
   "wJEvHAxRDSIGNxWITHDESCENDER+bHOOK+bSTROKEwWEvIwExWITHBREVE+bGRAVEwOxTAyIFIEDA+dBIGYUS",
   "+dCLOSEDLITTLEYUS+dE+dLITTLEYUS+dYATwWITHDIAERESIS+aGRAVE+aMACRONwZHITSA",
   "+cWITHDOUBLEGRAVEACCENTvJEvKAxWITHDESCENDER+bHOOK+bSTROKE+bVERTICALSTROKEwHAKASSIANCHEwJE",
   "wOMIDE+aJE+aZJEzLJEzNJEzSJEzTJEzZJExPPAwSIvLHAwITTLEYUSwJEvMONOCULAROzGRAPHUKvNEUTRALYER",
   "wJEvOwMEGA+aWITHTITLOwTwWITHDIAERESISvPExWITHDESCENDER+bMIDDLEHOOKwSIvQAvREVERSEDDZE+dTSE",
   "+dYU+dZEwHAwOUNDOMEGAvSCHWA+aWITHDIAERESISwEMISOFTSIGNwHAxCHAxHAzWITHDESCENDERxORTI",
   "+bWITHTAIL+aUxWEwOFTDEzEL+aMzSIGNwTRAIGHTU+eWITHSTROKEvTCHEwExWITHDESCENDER+bMIDDLEHOOKwJE",
   "wSExHExSExWEwWEvUwKxRAINIANIEwWITHDIAERESIS+bOUBLEACUTE+aMACRONvVEvWEvYAxExTwERU",
   "zWITHBACKYER+dDIAERESISwIwNwUvZExMLYAxWITHDESCENDER+cIAERESISwHEyWITHBREVE+cDESCENDER",
   "+dIAERESISxWEqIGATUREAIExENGHExTETSEiKAVYKAiLETTERMULTIOCULAROoPALOCHKAoSMALLCAPITALEL",
   "iPAYEROKiSMALLLETTERAuBKHASIANCHE+fWITHDESCENDER+cDZE+cHAuLEUTKAuWITHBREVEyDIAERESIS",
   "tBARREDO+aWITHDIAERESISvSHKIRKAuEuIGYUSvNOCULAROuLENDEDYUSuROADOMEGAuYELORUSSIANUKRAINIANI",
   "tCCHEuHEwWITHDESCENDER+bIAERESIS+aVERTICALSTROKEuLOSEDLITTLEYUSuROSSEDOtDCHEuEuJEwRV",
   "uOUBLEMONOCULAROzOuWEuZEwLOvHEvWEvZEwHEtEuFuLvWITHDESCENDERzHOOKzMIDDLEHOOKzTAILuM",
   "vWITHTAILuNvWITHDESCENDERzHOOKzLEFTHOOKzMIDDLEHOOKzTAILuRvWITHTICKuSvWITHDESCENDER",
   "uWITHDIAERESIStFITAtGHEwWITHDESCENDER+aMIDDLEHOOK+aSTROKE+gANDHOOK+aUPTURNuJEtHAvRDSIGN",
   "vWITHDESCENDERzHOOKzSTROKEuWEtIuEvWITHBREVEzGRAVEuOvTAwIFIEDA+bBIGYUS+bCLOSEDLITTLEYUS+bE",
   "+bLITTLEYUS+bYATuWITHDIAERESISyGRAVEyMACRONuZHITSA+aWITHDOUBLEGRAVEACCENTtJEtKA",
   "vWITHDESCENDERzHOOKzSTROKEzVERTICALSTROKEuHAKASSIANCHEuJEuOMIDEyJEyZJExLJExNJExSJExTJExZJE",
   "vPPAuSItLHAuITTLEYUSuJEuONGLEGGEDDEtMONOCULAROxGRAPHUKtNARROWOuEUTRALYERuJEtOuMEGA",
   "yWITHTITLOuTuWITHDIAERESIStPALOCHKAuEvWITHDESCENDERzMIDDLEHOOKuSItQAtREVERSEDDZE+bTSE+bYU",
   "+bZEuHAuOUNDEDVEyOMEGAtSCHWAyWITHDIAERESISuEMISOFTSIGNuHAvCHAvHAxWITHDESCENDERvORTI",
   "zWITHTAILyUvWEuOFTDExELyMxSIGNuTRAIGHTU+cWITHSTROKEtTALLHARDSIGNxTExYATuCHEuE",
   "vWITHDESCENDERzMIDDLEHOOKuHREELEGGEDTEuJEuSEvHEvSEvWEuWEtUuKvRAINIANIEuNBLENDEDUK",
   "uWITHDIAERESISzOUBLEACUTEyMACRONtVEtWEuIDEEStYAvEvTuERUxWITHBACKYER+bDIAERESISuIuNuUtZE",
   "vMLYAvWITHDESCENDER+aIAERESISuHEwWITHBREVE+aDESCENDER+bIAERESISvWEoIGATUREAIEvENGHEvTETSE",
   "jUBSCRIPTSMALLLETTERA+cBE+dYELORUSSIANUKRAINIANI+cCHE+cDE+dZE+eHE+cEF+dL+dS+cGHE",
   "+fWITHUPTURN+cHA+eRDSIGN+cI+dE+cKA+cO+cPE+cSHA+cTSE+cU+cVE+cYERU+cZE+dHEiTHOUSANDSSIGN"]

end Stepwise.Text.NameTable
