/-!
Names of characters: pictographs and tags. A row is a code point and the names of the characters
from there on, written as the module on character names says.
-/
namespace SurveyDesk.Unicode

/-- Names from U+1F300 on. -/
def emblemNames : List (Nat × String) := [
  (0x1F300, "aCYCLONEaFOGGYaCLOSED UMBRELLAaNIGHT WITH STARSaSUNRISE OVER MOUNTAINSaSUNRISE"),
  (0x1F306, "aCITYSCAPE AT DUSKaSUNSET OVER BUILDINGSaRAINBOWaBRIDGE AT NIGHTaWATER WAVE"),
  (0x1F30B, "aVOLCANOaMILKY WAYaEARTH GLOBE EUROPE-AFRICAcAMERICAScASIA-AUSTRALIA"),
  (0x1F310, "aGLOBE WITH MERIDIANSaNEW MOON SYMBOLaWAXING CRESCENT MOON SYMBOL"),
  (0x1F313, "aFIRST QUARTER MOON SYMBOLaWAXING GIBBOUS MOON SYMBOLaFULL MOON SYMBOL"),
  (0x1F316, "aWANING GIBBOUS MOON SYMBOLaLAST QUARTER MOON SYMBOLaWANING CRESCENT MOON SYMBOL"),
  (0x1F319, "aCRESCENT MOONaNEW MOON WITH FACEaFIRST QUARTER MOON WITH FACE"),
  (0x1F31C, "aLAST QUARTER MOON WITH FACEaFULL MOON WITH FACEaSUN WITH FACEaGLOWING STAR"),
  (0x1F320, "aSHOOTING STARaTHERMOMETERaBLACK DROPLETaWHITE SUNbSUN WITH SMALL CLOUD"),
  (0x1F325, "cBEHIND CLOUDdCLOUD WITH RAINaCLOUD WITH RAINcSNOWcLIGHTNINGcTORNADOaFOG"),
  (0x1F32C, "aWIND BLOWING FACEaHOT DOGaTACOaBURRITOaCHESTNUTaSEEDLINGaEVERGREEN TREE"),
  (0x1F333, "aDECIDUOUS TREEaPALM TREEaCACTUSaHOT PEPPERaTULIPaCHERRY BLOSSOMaROSEaHIBISCUS"),
  (0x1F33B, "aSUNFLOWERaBLOSSOMaEAR OF MAIZEcRICEaHERBaFOUR LEAF CLOVERaMAPLE LEAFaFALLEN LEAF"),
  (0x1F343, "aLEAF FLUTTERING IN WINDaMUSHROOMaTOMATOaAUBERGINEaGRAPESaMELONaWATERMELON"),
  (0x1F34A, "aTANGERINEaLEMONaBANANAaPINEAPPLEaRED APPLEaGREEN APPLEaPEARaPEACHaCHERRIES"),
  (0x1F353, "aSTRAWBERRYaHAMBURGERaSLICE OF PIZZAaMEAT ON BONEaPOULTRY LEGaRICE CRACKERbBALL"),
  (0x1F35A, "aCOOKED RICEaCURRY AND RICEaSTEAMING BOWLaSPAGHETTIaBREADaFRENCH FRIES"),
  (0x1F360, "aROASTED SWEET POTATOaDANGOaODENaSUSHIaFRIED SHRIMPaFISH CAKE WITH SWIRL DESIGN"),
  (0x1F366, "aSOFT ICE CREAMaSHAVED ICEaICE CREAMaDOUGHNUTaCOOKIEaCHOCOLATE BARaCANDYaLOLLIPOP"),
  (0x1F36E, "aCUSTARDaHONEY POTaSHORTCAKEaBENTO BOXaPOT OF FOODaCOOKINGaFORK AND KNIFE"),
  (0x1F375, "aTEACUP WITHOUT HANDLEaSAKE BOTTLE AND CUPaWINE GLASSaCOCKTAIL GLASS"),
  (0x1F379, "aTROPICAL DRINKaBEER MUGaCLINKING BEER MUGSaBABY BOTTLEaFORK AND KNIFE WITH PLATE"),
  (0x1F37E, "aBOTTLE WITH POPPING CORKaPOPCORNaRIBBONaWRAPPED PRESENTaBIRTHDAY CAKE"),
  (0x1F383, "aJACK-O-LANTERNaCHRISTMAS TREEaFATHER CHRISTMASaFIREWORKSaFIREWORK SPARKLER"),
  (0x1F388, "aBALLOONaPARTY POPPERaCONFETTI BALLaTANABATA TREEaCROSSED FLAGSaPINE DECORATION"),
  (0x1F38E, "aJAPANESE DOLLSaCARP STREAMERaWIND CHIMEaMOON VIEWING CEREMONYaSCHOOL SATCHEL"),
  (0x1F393, "aGRADUATION CAPaHEART WITH TIP ON THE LEFTaBOUQUET OF FLOWERSaMILITARY MEDAL"),
  (0x1F397, "aREMINDER RIBBONaMUSICAL KEYBOARD WITH JACKSaSTUDIO MICROPHONEaLEVEL SLIDER"),
  (0x1F39B, "aCONTROL KNOBSaBEAMED ASCENDING MUSICAL NOTESbDESCENDING MUSICAL NOTESaFILM FRAMES"),
  (0x1F39F, "aADMISSION TICKETSaCAROUSEL HORSEaFERRIS WHEELaROLLER COASTER"),
  (0x1F3A3, "aFISHING POLE AND FISHaMICROPHONEaMOVIE CAMERAaCINEMAaHEADPHONEaARTIST PALETTE"),
  (0x1F3A9, "aTOP HATaCIRCUS TENTaTICKETaCLAPPER BOARDaPERFORMING ARTSaVIDEO GAMEaDIRECT HIT"),
  (0x1F3B0, "aSLOT MACHINEaBILLIARDSaGAME DIEaBOWLINGaFLOWER PLAYING CARDSaMUSICAL NOTE"),
  (0x1F3B6, "aMULTIPLE MUSICAL NOTESaSAXOPHONEaGUITARaMUSICAL KEYBOARDaTRUMPETaVIOLIN"),
  (0x1F3BC, "aMUSICAL SCOREaRUNNING SHIRT WITH SASHaTENNIS RACQUET AND BALLaSKI AND SKI BOOT"),
  (0x1F3C0, "aBASKETBALL AND HOOPaCHEQUERED FLAGaSNOWBOARDERaRUNNERaSURFERaSPORTS MEDALaTROPHY"),
  (0x1F3C7, "aHORSE RACINGaAMERICAN FOOTBALLaRUGBY FOOTBALLaSWIMMERaWEIGHT LIFTERaGOLFER"),
  (0x1F3CD, "aRACING MOTORCYCLEbCARaCRICKET BAT AND BALLaVOLLEYBALLaFIELD HOCKEY STICK AND BALL"),
  (0x1F3D2, "aICE HOCKEY STICK AND PUCKaTABLE TENNIS PADDLE AND BALLaSNOW CAPPED MOUNTAIN"),
  (0x1F3D5, "aCAMPINGaBEACH WITH UMBRELLAaBUILDING CONSTRUCTIONaHOUSE BUILDINGSaCITYSCAPE"),
  (0x1F3DA, "aDERELICT HOUSE BUILDINGaCLASSICAL BUILDINGaDESERTaDESERT ISLANDaNATIONAL PARK"),
  (0x1F3DF, "aSTADIUMaHOUSE BUILDINGbWITH GARDENaOFFICE BUILDINGaJAPANESE POST OFFICE"),
  (0x1F3E4, "aEUROPEAN POST OFFICEaHOSPITALaBANKaAUTOMATED TELLER MACHINEaHOTELaLOVE HOTEL"),
  (0x1F3EA, "aCONVENIENCE STOREaSCHOOLaDEPARTMENT STOREaFACTORYaIZAKAYA LANTERNaJAPANESE CASTLE"),
  (0x1F3F0, "aEUROPEAN CASTLEaWHITE PENNANTaBLACK PENNANTaWAVING WHITE FLAGbBLACK FLAGaROSETTE"),
  (0x1F3F6, "aBLACK ROSETTEaLABELaBADMINTON RACQUET AND SHUTTLECOCKaBOW AND ARROWaAMPHORA"),
  (0x1F3FB, "aEMOJI MODIFIER FITZPATRICK TYPE-1-2e3e4e5e6aRATaMOUSEaOXaWATER BUFFALOaCOWaTIGER"),
  (0x1F406, "aLEOPARDaRABBITaCATaDRAGONaCROCODILEaWHALEaSNAILaSNAKEaHORSEaRAMaGOATaSHEEPaMONKEY"),
  (0x1F413, "aROOSTERaCHICKENaDOGaPIGaBOARaELEPHANTaOCTOPUSaSPIRAL SHELLaBUGaANTaHONEYBEE"),
  (0x1F41E, "aLADY BEETLEaFISHaTROPICAL FISHaBLOWFISHaTURTLEaHATCHING CHICKaBABY CHICK"),
  (0x1F425, "aFRONT-FACING BABY CHICKaBIRDaPENGUINaKOALAaPOODLEaDROMEDARY CAMELaBACTRIAN CAMEL"),
  (0x1F42C, "aDOLPHINaMOUSE FACEaCOW FACEaTIGER FACEaRABBIT FACEaCAT FACEaDRAGON FACE"),
  (0x1F433, "aSPOUTING WHALEaHORSE FACEaMONKEY FACEaDOG FACEaPIG FACEaFROG FACEaHAMSTER FACE"),
  (0x1F43A, "aWOLF FACEaBEAR FACEaPANDA FACEaPIG NOSEaPAW PRINTSaCHIPMUNKaEYESaEYEaEARaNOSE"),
  (0x1F444, "aMOUTHaTONGUEaWHITE UP POINTING BACKHAND INDEXbDOWN POINTING BACKHAND INDEX"),
  (0x1F448, "bLEFT POINTING BACKHAND INDEXbRIGHT POINTING BACKHAND INDEXaFISTED HAND SIGN"),
  (0x1F44B, "aWAVING HAND SIGNaOK HAND SIGNaTHUMBS UP SIGNbDOWN SIGNaCLAPPING HANDS SIGN"),
  (0x1F450, "aOPEN HANDS SIGNaCROWNaWOMANS HATaEYEGLASSESaNECKTIEaT-SHIRTaJEANSaDRESSaKIMONO"),
  (0x1F459, "aBIKINIaWOMANS CLOTHESaPURSEaHANDBAGaPOUCHaMANS SHOEaATHLETIC SHOE"),
  (0x1F460, "aHIGH-HEELED SHOEaWOMANS SANDALbBOOTSaFOOTPRINTSaBUST IN SILHOUETTE"),
  (0x1F465, "aBUSTS IN SILHOUETTEaBOYaGIRLaMANaWOMANaFAMILYaMAN AND WOMAN HOLDING HANDS"),
  (0x1F46C, "aTWO MEN HOLDING HANDSbWOMEN HOLDING HANDSaPOLICE OFFICERaWOMAN WITH BUNNY EARS"),
  (0x1F470, "aBRIDE WITH VEILaPERSON WITH BLOND HAIRaMAN WITH GUA PI MAOcTURBANaOLDER MANbWOMAN"),
  (0x1F476, "aBABYaCONSTRUCTION WORKERaPRINCESSaJAPANESE OGREbGOBLINaGHOSTaBABY ANGEL"),
  (0x1F47D, "aEXTRATERRESTRIAL ALIENaALIEN MONSTERaIMPaSKULLaINFORMATION DESK PERSONaGUARDSMAN"),
  (0x1F483, "aDANCERaLIPSTICKaNAIL POLISHaFACE MASSAGEaHAIRCUTaBARBER POLEaSYRINGEaPILL"),
  (0x1F48B, "aKISS MARKaLOVE LETTERaRINGaGEM STONEaKISSaBOUQUETaCOUPLE WITH HEARTaWEDDING"),
  (0x1F493, "aBEATING HEARTaBROKEN HEARTaTWO HEARTSaSPARKLING HEARTaGROWING HEART"),
  (0x1F498, "aHEART WITH ARROWaBLUE HEARTaGREEN HEARTaYELLOW HEARTaPURPLE HEART"),
  (0x1F49D, "aHEART WITH RIBBONaREVOLVING HEARTSaHEART DECORATION"),
  (0x1F4A0, "aDIAMOND SHAPE WITH A DOT INSIDEaELECTRIC LIGHT BULBaANGER SYMBOLaBOMB"),
  (0x1F4A4, "aSLEEPING SYMBOLaCOLLISION SYMBOLaSPLASHING SWEAT SYMBOLaDROPLETaDASH SYMBOL"),
  (0x1F4A9, "aPILE OF POOaFLEXED BICEPSaDIZZY SYMBOLaSPEECH BALLOONaTHOUGHT BALLOON"),
  (0x1F4AE, "aWHITE FLOWERaHUNDRED POINTS SYMBOLaMONEY BAGaCURRENCY EXCHANGEaHEAVY DOLLAR SIGN"),
  (0x1F4B3, "aCREDIT CARDaBANKNOTE WITH YEN SIGNcDOLLAR SIGNcEURO SIGNcPOUND SIGN"),
  (0x1F4B8, "aMONEY WITH WINGSaCHART WITH UPWARDS TREND AND YEN SIGNaSEATaPERSONAL COMPUTER"),
  (0x1F4BC, "aBRIEFCASEaMINIDISCaFLOPPY DISKaOPTICAL DISCaDVDaFILE FOLDERaOPEN FILE FOLDER"),
  (0x1F4C3, "aPAGE WITH CURLbFACING UPaCALENDARaTEAR-OFF CALENDARaCARD INDEX"),
  (0x1F4C8, "aCHART WITH UPWARDS TRENDcDOWNWARDS TRENDaBAR CHARTaCLIPBOARDaPUSHPIN"),
  (0x1F4CD, "aROUND PUSHPINaPAPERCLIPaSTRAIGHT RULERaTRIANGULAR RULERaBOOKMARK TABSaLEDGER"),
  (0x1F4D3, "aNOTEBOOKaNOTEBOOK WITH DECORATIVE COVERaCLOSED BOOKaOPEN BOOKaGREEN BOOK"),
  (0x1F4D8, "aBLUE BOOKaORANGE BOOKaBOOKSaNAME BADGEaSCROLLaMEMOaTELEPHONE RECEIVERaPAGER"),
  (0x1F4E0, "aFAX MACHINEaSATELLITE ANTENNAaPUBLIC ADDRESS LOUDSPEAKERaCHEERING MEGAPHONE"),
  (0x1F4E4, "aOUTBOX TRAYaINBOX TRAYaPACKAGEaE-MAIL SYMBOLaINCOMING ENVELOPE"),
  (0x1F4E9, "aENVELOPE WITH DOWNWARDS ARROW ABOVEaCLOSED MAILBOX WITH LOWERED FLAGdRAISED FLAG"),
  (0x1F4EC, "aOPEN MAILBOX WITH RAISED FLAGdLOWERED FLAGaPOSTBOXaPOSTAL HORNaNEWSPAPER"),
  (0x1F4F1, "aMOBILE PHONEbPHONE WITH RIGHTWARDS ARROW AT LEFTaVIBRATION MODEaMOBILE PHONE OFF"),
  (0x1F4F5, "aNO MOBILE PHONESaANTENNA WITH BARSaCAMERAaCAMERA WITH FLASHaVIDEO CAMERA"),
  (0x1F4FA, "aTELEVISIONaRADIOaVIDEOCASSETTEaFILM PROJECTORaPORTABLE STEREOaPRAYER BEADS"),
  (0x1F500, "aTWISTED RIGHTWARDS ARROWSaCLOCKWISE RIGHTWARDS AND LEFTWARDS OPEN CIRCLE ARROWS"),
  (0x1F502, "gARROWS WITH CIRCLED ONE OVERLAYbDOWNWARDS AND UPWARDS OPEN CIRCLE ARROWS"),
  (0x1F504, "aANTICLOCKWISE DOWNWARDS AND UPWARDS OPEN CIRCLE ARROWSaLOW BRIGHTNESS SYMBOL"),
  (0x1F506, "aHIGH BRIGHTNESS SYMBOLaSPEAKER WITH CANCELLATION STROKEaSPEAKER"),
  (0x1F509, "aSPEAKER WITH ONE SOUND WAVEcTHREE SOUND WAVESaBATTERYaELECTRIC PLUG"),
  (0x1F50D, "aLEFT-POINTING MAGNIFYING GLASSaRIGHT-POINTING MAGNIFYING GLASSaLOCK WITH INK PEN"),
  (0x1F510, "aCLOSED LOCK WITH KEYaKEYaLOCKaOPEN LOCKaBELLaBELL WITH CANCELLATION STROKE"),
  (0x1F516, "aBOOKMARKaLINK SYMBOLaRADIO BUTTONaBACK WITH LEFTWARDS ARROW ABOVE"),
  (0x1F51A, "aEND WITH LEFTWARDS ARROW ABOVE"),
  (0x1F51B, "aON WITH EXCLAMATION MARK WITH LEFT RIGHT ARROW ABOVE"),
  (0x1F51C, "aSOON WITH RIGHTWARDS ARROW ABOVEaTOP WITH UPWARDS ARROW ABOVE"),
  (0x1F51E, "aNO ONE UNDER EIGHTEEN SYMBOLaKEYCAP TENaINPUT SYMBOL FOR LATIN CAPITAL LETTERS"),
  (0x1F521, "eSMALL LETTERSdNUMBERSdSYMBOLSdLATIN LETTERSaFIREaELECTRIC TORCHaWRENCHaHAMMER"),
  (0x1F529, "aNUT AND BOLTaHOCHOaPISTOLaMICROSCOPEaTELESCOPEaCRYSTAL BALL"),
  (0x1F52F, "aSIX POINTED STAR WITH MIDDLE DOTaJAPANESE SYMBOL FOR BEGINNERaTRIDENT EMBLEM"),
  (0x1F532, "aBLACK SQUARE BUTTONaWHITE SQUARE BUTTONaLARGE RED CIRCLEbBLUE CIRCLE"),
  (0x1F536, "bORANGE DIAMONDbBLUE DIAMONDaSMALL ORANGE DIAMONDbBLUE DIAMOND"),
  (0x1F53A, "aUP-POINTING RED TRIANGLEaDOWN-POINTING RED TRIANGLE"),
  (0x1F53C, "aUP-POINTING SMALL RED TRIANGLEaDOWN-POINTING SMALL RED TRIANGLE"),
  (0x1F53E, "aLOWER RIGHT SHADOWED WHITE CIRCLEaUPPER RIGHT SHADOWED WHITE CIRCLE"),
  (0x1F540, "aCIRCLED CROSS POMMEEaCROSS POMMEE WITH HALF-CIRCLE BELOWbPOMMEE"),
  (0x1F543, "aNOTCHED LEFT SEMICIRCLE WITH THREE DOTSbRIGHT SEMICIRCLE WITH THREE DOTS"),
  (0x1F545, "aSYMBOL FOR MARKS CHAPTERaWHITE LATIN CROSSaHEAVY LATIN CROSSaCELTIC CROSS"),
  (0x1F549, "aOM SYMBOLaDOVE OF PEACEaKAABAaMOSQUEaSYNAGOGUEaMENORAH WITH NINE BRANCHES"),
  (0x1F54F, "aBOWL OF HYGIEIAaCLOCK FACE ONE OCLOCKcTWO OCLOCKcTHREE OCLOCKcFOUR OCLOCK"),
  (0x1F554, "cFIVE OCLOCKcSIX OCLOCKcSEVEN OCLOCKcEIGHT OCLOCKcNINE OCLOCKcTEN OCLOCK"),
  (0x1F55A, "cELEVEN OCLOCKcTWELVE OCLOCKcONE-THIRTYcTWO-THIRTYcTHREE-THIRTYcFOUR-THIRTY"),
  (0x1F560, "cFIVE-THIRTYcSIX-THIRTYcSEVEN-THIRTYcEIGHT-THIRTYcNINE-THIRTYcTEN-THIRTY"),
  (0x1F566, "cELEVEN-THIRTYcTWELVE-THIRTYaRIGHT SPEAKERbSPEAKER WITH ONE SOUND WAVE"),
  (0x1F56A, "dTHREE SOUND WAVESaBULLHORNaBULLHORN WITH SOUND WAVESaRINGING BELLaBOOKaCANDLE"),
  (0x1F570, "aMANTELPIECE CLOCKaBLACK SKULL AND CROSSBONESaNO PIRACYaHOLE"),
  (0x1F574, "aMAN IN BUSINESS SUIT LEVITATINGaSLEUTH OR SPYaDARK SUNGLASSESaSPIDERaSPIDER WEB"),
  (0x1F579, "aJOYSTICKaMAN DANCINGaLEFT HAND TELEPHONE RECEIVERaTELEPHONE RECEIVER WITH PAGE"),
  (0x1F57D, "aRIGHT HAND TELEPHONE RECEIVERaWHITE TOUCHTONE TELEPHONEaBLACK TOUCHTONE TELEPHONE"),
  (0x1F580, "aTELEPHONE ON TOP OF MODEMaCLAMSHELL MOBILE PHONEaBACK OF ENVELOPE"),
  (0x1F583, "aSTAMPED ENVELOPEaENVELOPE WITH LIGHTNINGaFLYING ENVELOPE"),
  (0x1F586, "aPEN OVER STAMPED ENVELOPEaLINKED PAPERCLIPSaBLACK PUSHPINaLOWER LEFT PENCIL"),
  (0x1F58A, "cBALLPOINT PENcFOUNTAIN PENcPAINTBRUSHcCRAYONaLEFT WRITING HAND"),
  (0x1F58F, "aTURNED OK HAND SIGNaRAISED HAND WITH FINGERS SPLAYED"),
  (0x1F591, "aREVERSED RAISED HAND WITH FINGERS SPLAYEDbTHUMBS UP SIGNcDOWN SIGNbVICTORY HAND"),
  (0x1F595, "bHAND WITH MIDDLE FINGER EXTENDED"),
  (0x1F596, "aRAISED HAND WITH PART BETWEEN MIDDLE AND RING FINGERS"),
  (0x1F597, "aWHITE DOWN POINTING LEFT HAND INDEXaSIDEWAYS WHITE LEFT POINTING INDEX"),
  (0x1F599, "cRIGHT POINTING INDEXbBLACK LEFT POINTING INDEXcRIGHT POINTING INDEX"),
  (0x1F59C, "aBLACK LEFT POINTING BACKHAND INDEXbRIGHT POINTING BACKHAND INDEX"),
  (0x1F59E, "aSIDEWAYS WHITE UP POINTING INDEXcDOWN POINTING INDEXbBLACK UP POINTING INDEX"),
  (0x1F5A1, "cDOWN POINTING INDEXaBLACK UP POINTING BACKHAND INDEXbDOWN POINTING BACKHAND INDEX"),
  (0x1F5A4, "bHEARTaDESKTOP COMPUTERaKEYBOARD AND MOUSEaTHREE NETWORKED COMPUTERSaPRINTER"),
  (0x1F5A9, "aPOCKET CALCULATORaBLACK HARD SHELL FLOPPY DISKaWHITE HARD SHELL FLOPPY DISK"),
  (0x1F5AC, "aSOFT SHELL FLOPPY DISKaTAPE CARTRIDGEaWIRED KEYBOARDaONE BUTTON MOUSE"),
  (0x1F5B0, "aTWO BUTTON MOUSEaTHREE BUTTON MOUSEaTRACKBALLaOLD PERSONAL COMPUTERaHARD DISK"),
  (0x1F5B5, "aSCREENaPRINTER ICONaFAX ICONaOPTICAL DISC ICONaDOCUMENT WITH TEXT"),
  (0x1F5BA, "cTEXT AND PICTUREcPICTUREaFRAME WITH PICTUREcTILEScAN XaBLACK FOLDERaFOLDER"),
  (0x1F5C1, "aOPEN FOLDERaCARD INDEX DIVIDERSbFILE BOXaFILE CABINETaEMPTY NOTEbNOTE PAGEcPAD"),
  (0x1F5C8, "aNOTEaNOTE PAGEbPADaEMPTY DOCUMENTbPAGEbPAGESaDOCUMENTaPAGEaPAGESaWASTEBASKET"),
  (0x1F5D2, "aSPIRAL NOTE PADbCALENDAR PADaDESKTOP WINDOWaMINIMIZEaMAXIMIZEaOVERLAP"),
  (0x1F5D8, "aCLOCKWISE RIGHT AND LEFT SEMICIRCLE ARROWSaCANCELLATION X"),
  (0x1F5DA, "aINCREASE FONT SIZE SYMBOLaDECREASE FONT SIZE SYMBOLaCOMPRESSIONaOLD KEY"),
  (0x1F5DE, "aROLLED-UP NEWSPAPERaPAGE WITH CIRCLED TEXTaSTOCK CHARTaDAGGER KNIFEaLIPS"),
  (0x1F5E3, "aSPEAKING HEAD IN SILHOUETTEaTHREE RAYS ABOVEcBELOWcLEFTcRIGHTaLEFT SPEECH BUBBLE"),
  (0x1F5E9, "aRIGHT SPEECH BUBBLEaTWO SPEECH BUBBLESaTHREE SPEECH BUBBLESaLEFT THOUGHT BUBBLE"),
  (0x1F5ED, "aRIGHT THOUGHT BUBBLEaLEFT ANGER BUBBLEaRIGHT ANGER BUBBLEaMOOD BUBBLE"),
  (0x1F5F1, "aLIGHTNING MOOD BUBBLEbMOODaBALLOT BOX WITH BALLOTbSCRIPT XbBOX WITH SCRIPT X"),
  (0x1F5F6, "bBOLD SCRIPT XbBOX WITH BOLD SCRIPT XaLIGHT CHECK MARKaBALLOT BOX WITH BOLD CHECK"),
  (0x1F5FA, "aWORLD MAPaMOUNT FUJIaTOKYO TOWERaSTATUE OF LIBERTYaSILHOUETTE OF JAPANaMOYAI"),
  (0x1F600, "aGRINNING FACEbFACE WITH SMILING EYESaFACE WITH TEARS OF JOY"),
  (0x1F603, "aSMILING FACE WITH OPEN MOUTHeMOUTH AND SMILING EYESgCOLD SWEAT"),
  (0x1F606, "gTIGHTLY-CLOSED EYESdHALOdHORNSaWINKING FACEaSMILING FACE WITH SMILING EYES"),
  (0x1F60B, "aFACE SAVOURING DELICIOUS FOODaRELIEVED FACEaSMILING FACE WITH HEART-SHAPED EYES"),
  (0x1F60E, "dSUNGLASSESaSMIRKING FACEaNEUTRAL FACEaEXPRESSIONLESS FACEaUNAMUSED FACE"),
  (0x1F613, "aFACE WITH COLD SWEATaPENSIVE FACEaCONFUSED FACEaCONFOUNDED FACEaKISSING FACE"),
  (0x1F618, "aFACE THROWING A KISSaKISSING FACE WITH SMILING EYESdCLOSED EYES"),
  (0x1F61B, "aFACE WITH STUCK-OUT TONGUEeTONGUE AND WINKING EYEgTIGHTLY-CLOSED EYES"),
  (0x1F61E, "aDISAPPOINTED FACEaWORRIED FACEaANGRY FACEaPOUTING FACEaCRYING FACE"),
  (0x1F623, "aPERSEVERING FACEaFACE WITH LOOK OF TRIUMPHaDISAPPOINTED BUT RELIEVED FACE"),
  (0x1F626, "aFROWNING FACE WITH OPEN MOUTHaANGUISHED FACEaFEARFUL FACEaWEARY FACEaSLEEPY FACE"),
  (0x1F62B, "aTIRED FACEaGRIMACING FACEaLOUDLY CRYING FACEaFACE WITH OPEN MOUTHaHUSHED FACE"),
  (0x1F630, "aFACE WITH OPEN MOUTH AND COLD SWEATbSCREAMING IN FEARaASTONISHED FACE"),
  (0x1F633, "aFLUSHED FACEaSLEEPING FACEaDIZZY FACEaFACE WITHOUT MOUTHbWITH MEDICAL MASK"),
  (0x1F638, "aGRINNING CAT FACE WITH SMILING EYESaCAT FACE WITH TEARS OF JOY"),
  (0x1F63A, "aSMILING CAT FACE WITH OPEN MOUTHeHEART-SHAPED EYESaCAT FACE WITH WRY SMILE"),
  (0x1F63D, "aKISSING CAT FACE WITH CLOSED EYESaPOUTING CAT FACEaCRYING CAT FACEaWEARY CAT FACE"),
  (0x1F641, "aSLIGHTLY FROWNING FACEbSMILING FACEaUPSIDE-DOWN FACEaFACE WITH ROLLING EYES"),
  (0x1F645, "cNO GOOD GESTUREcOK GESTUREaPERSON BOWING DEEPLYaSEE-NO-EVIL MONKEY"),
  (0x1F649, "aHEAR-NO-EVIL MONKEYaSPEAK-NO-EVIL MONKEYaHAPPY PERSON RAISING ONE HAND"),
  (0x1F64C, "aPERSON RAISING BOTH HANDS IN CELEBRATIONbFROWNINGbWITH POUTING FACEcFOLDED HANDS"),
  (0x1F650, "aNORTH WEST POINTING LEAFaSOUTH WEST POINTING LEAFaNORTH EAST POINTING LEAF"),
  (0x1F653, "aSOUTH EAST POINTING LEAFaTURNED NORTH WEST POINTING LEAFbSOUTH WEST POINTING LEAF"),
  (0x1F656, "bNORTH EAST POINTING LEAFbSOUTH EAST POINTING LEAFaNORTH WEST POINTING VINE LEAF"),
  (0x1F659, "aSOUTH WEST POINTING VINE LEAFaNORTH EAST POINTING VINE LEAF"),
  (0x1F65B, "aSOUTH EAST POINTING VINE LEAFaHEAVY NORTH WEST POINTING VINE LEAF"),
  (0x1F65D, "bSOUTH WEST POINTING VINE LEAFbNORTH EAST POINTING VINE LEAF"),
  (0x1F65F, "bSOUTH EAST POINTING VINE LEAFaNORTH WEST POINTING BUDaSOUTH WEST POINTING BUD"),
  (0x1F662, "aNORTH EAST POINTING BUDaSOUTH EAST POINTING BUDaHEAVY NORTH WEST POINTING BUD"),
  (0x1F665, "bSOUTH WEST POINTING BUDbNORTH EAST POINTING BUDbSOUTH EAST POINTING BUD"),
  (0x1F668, "aHOLLOW QUILT SQUARE ORNAMENTdORNAMENT IN BLACK SQUAREaSOLID QUILT SQUARE ORNAMENT"),
  (0x1F66B, "dORNAMENT IN BLACK SQUAREaLEFTWARDS ROCKETaUPWARDS ROCKETaRIGHTWARDS ROCKET"),
  (0x1F66F, "aDOWNWARDS ROCKETaSCRIPT LIGATURE ET ORNAMENTaHEAVY SCRIPT LIGATURE ET ORNAMENT"),
  (0x1F672, "aLIGATURE OPEN ET ORNAMENTaHEAVY LIGATURE OPEN ET ORNAMENTbAMPERSAND ORNAMENT"),
  (0x1F675, "aSWASH AMPERSAND ORNAMENT"),
  (0x1F676, "aSANS-SERIF HEAVY DOUBLE TURNED COMMA QUOTATION MARK ORNAMENT"),
  (0x1F677, "eCOMMA QUOTATION MARK ORNAMENTdLOW DOUBLE COMMA QUOTATION MARK ORNAMENT"),
  (0x1F679, "aHEAVY INTERROBANG ORNAMENTaSANS-SERIF INTERROBANG ORNAMENT"),
  (0x1F67B, "aHEAVY SANS-SERIF INTERROBANG ORNAMENTaVERY HEAVY SOLIDUScREVERSE SOLIDUS"),
  (0x1F67E, "aCHECKER BOARDaREVERSE CHECKER BOARDaROCKETaHELICOPTERaSTEAM LOCOMOTIVE"),
  (0x1F683, "aRAILWAY CARaHIGH-SPEED TRAINcTRAIN WITH BULLET NOSEaTRAINaMETROaLIGHT RAIL"),
  (0x1F689, "aSTATIONaTRAMaTRAM CARaBUSaONCOMING BUSaTROLLEYBUSaBUS STOPaMINIBUSaAMBULANCE"),
  (0x1F692, "aFIRE ENGINEaPOLICE CARaONCOMING POLICE CARaTAXIaONCOMING TAXIaAUTOMOBILE"),
  (0x1F698, "aONCOMING AUTOMOBILEaRECREATIONAL VEHICLEaDELIVERY TRUCKaARTICULATED LORRYaTRACTOR"),
  (0x1F69D, "aMONORAILaMOUNTAIN RAILWAYaSUSPENSION RAILWAYaMOUNTAIN CABLEWAYaAERIAL TRAMWAY"),
  (0x1F6A2, "aSHIPaROWBOATaSPEEDBOATaHORIZONTAL TRAFFIC LIGHTaVERTICAL TRAFFIC LIGHT"),
  (0x1F6A7, "aCONSTRUCTION SIGNaPOLICE CARS REVOLVING LIGHTaTRIANGULAR FLAG ON POSTaDOOR"),
  (0x1F6AB, "aNO ENTRY SIGNaSMOKING SYMBOLaNO SMOKING SYMBOLaPUT LITTER IN ITS PLACE SYMBOL"),
  (0x1F6AF, "aDO NOT LITTER SYMBOLaPOTABLE WATER SYMBOLaNON-POTABLE WATER SYMBOLaBICYCLE"),
  (0x1F6B3, "aNO BICYCLESaBICYCLISTaMOUNTAIN BICYCLISTaPEDESTRIANaNO PEDESTRIANS"),
  (0x1F6B8, "aCHILDREN CROSSINGaMENS SYMBOLaWOMENS SYMBOLaRESTROOMaBABY SYMBOLaTOILET"),
  (0x1F6BE, "aWATER CLOSETaSHOWERaBATHaBATHTUBaPASSPORT CONTROLaCUSTOMSaBAGGAGE CLAIM"),
  (0x1F6C5, "aLEFT LUGGAGEaTRIANGLE WITH ROUNDED CORNERSaPROHIBITED SIGN"),
  (0x1F6C8, "aCIRCLED INFORMATION SOURCEaBOYS SYMBOLaGIRLS SYMBOLaCOUCH AND LAMP"),
  (0x1F6CC, "aSLEEPING ACCOMMODATIONaSHOPPING BAGSaBELLHOP BELLaBEDaPLACE OF WORSHIP"),
  (0x1F6D1, "aOCTAGONAL SIGNaSHOPPING TROLLEYaSTUPAaPAGODAaHINDU TEMPLEaHUTaELEVATOR"),
  (0x1F6DD, "aPLAYGROUND SLIDEaWHEELaRING BUOYaHAMMER AND WRENCHaSHIELDaOIL DRUMaMOTORWAY"),
  (0x1F6E4, "aRAILWAY TRACKaMOTOR BOATaUP-POINTING MILITARY AIRPLANEcAIRPLANEcSMALL AIRPLANE"),
  (0x1F6E9, "aSMALL AIRPLANEaNORTHEAST-POINTING AIRPLANEaAIRPLANE DEPARTUREbARRIVING"),
  (0x1F6F0, "aSATELLITEaONCOMING FIRE ENGINEaDIESEL LOCOMOTIVEaPASSENGER SHIPaSCOOTER"),
  (0x1F6F5, "aMOTOR SCOOTERaCANOEaSLEDaFLYING SAUCERaSKATEBOARDaAUTO RICKSHAWaPICKUP TRUCK"),
  (0x1F6FC, "aROLLER SKATE"),
  (0x1F700, "aALCHEMICAL SYMBOL FOR QUINTESSENCEdAIRdFIREdEARTHdWATERdAQUAFORTISdAQUA REGIA"),
  (0x1F707, "eREGIA-2eVITAEeVITAE-2dVINEGARdVINEGAR-2e3dSULFURdPHILOSOPHERS SULFURdBLACK SULFUR"),
  (0x1F710, "dMERCURY SUBLIMATEeSUBLIMATE-2f3dCINNABARdSALTdNITREdVITRIOLdVITRIOL-2dROCK SALT"),
  (0x1F719, "eSALT-2dGOLDdSILVERdIRON OREeORE-2dCROCUS OF IRONdREGULUS OF IRONdCOPPER ORE"),
  (0x1F721, "dIRON-COPPER OREdSUBLIMATE OF COPPERdCROCUS OF COPPERfCOPPER-2dCOPPER ANTIMONIATE"),
  (0x1F726, "dSALT OF COPPER ANTIMONIATEdSUBLIMATE OF SALT OF COPPERdVERDIGRISdTIN OREdLEAD ORE"),
  (0x1F72B, "dANTIMONY OREdSUBLIMATE OF ANTIMONYdSALT OF ANTIMONYdSUBLIMATE OF SALT OF ANTIMONY"),
  (0x1F72F, "dVINEGAR OF ANTIMONYdREGULUS OF ANTIMONYfANTIMONY-2dREGULUSdREGULUS-2e3e4dALKALI"),
  (0x1F737, "dALKALI-2dMARCASITEdSAL-AMMONIACdARSENICdREALGARdREALGAR-2dAURIPIGMENTdBISMUTH ORE"),
  (0x1F73F, "dTARTARdTARTAR-2dQUICK LIMEdBORAXdBORAX-2e3dALUMdOILdSPIRITdTINCTUREdGUMdWAX"),
  (0x1F74B, "dPOWDERdCALXdTUTTYdCAPUT MORTUUMdSCEPTER OF JOVEdCADUCEUSdTRIDENTdSTARRED TRIDENT"),
  (0x1F753, "dLODESTONEdSOAPdURINEdHORSE DUNGdASHESdPOT ASHESdBRICKdPOWDERED BRICKdAMALGAM"),
  (0x1F75C, "dSTRATUM SUPER STRATUMfSTRATUM-2dSUBLIMATIONdPRECIPITATEdDISTILLdDISSOLVE"),
  (0x1F762, "dDISSOLVE-2dPURIFYdPUTREFACTIONdCRUCIBLEdCRUCIBLE-2e3e4e5dALEMBICdBATH OF MARY"),
  (0x1F76C, "fVAPOURSdRETORTdHOURdNIGHTdDAY-NIGHTdMONTHdHALF DRAMeOUNCE"),
  (0x1F780, "aBLACK LEFT-POINTING ISOSCELES RIGHT TRIANGLEbUP-POINTING ISOSCELES RIGHT TRIANGLE"),
  (0x1F782, "bRIGHT-POINTING ISOSCELES RIGHT TRIANGLEbDOWN-POINTING ISOSCELES RIGHT TRIANGLE"),
  (0x1F784, "bSLIGHTLY SMALL CIRCLEaMEDIUM BOLD WHITE CIRCLEaBOLD WHITE CIRCLE"),
  (0x1F787, "aHEAVY WHITE CIRCLEaVERY HEAVY WHITE CIRCLEaEXTREMELY HEAVY WHITE CIRCLE"),
  (0x1F78A, "aWHITE CIRCLE CONTAINING BLACK SMALL CIRCLEaROUND TARGETaBLACK TINY SQUARE"),
  (0x1F78D, "bSLIGHTLY SMALL SQUAREaLIGHT WHITE SQUAREaMEDIUM WHITE SQUAREaBOLD WHITE SQUARE"),
  (0x1F791, "aHEAVY WHITE SQUAREaVERY HEAVY WHITE SQUAREaEXTREMELY HEAVY WHITE SQUARE"),
  (0x1F794, "aWHITE SQUARE CONTAINING BLACK VERY SMALL SQUAREeMEDIUM SQUAREaSQUARE TARGET"),
  (0x1F797, "aBLACK TINY DIAMONDbVERY SMALL DIAMONDbMEDIUM SMALL DIAMOND"),
  (0x1F79A, "aWHITE DIAMOND CONTAINING BLACK VERY SMALL DIAMONDeMEDIUM DIAMONDaDIAMOND TARGET"),
  (0x1F79D, "aBLACK TINY LOZENGEbVERY SMALL LOZENGEbMEDIUM SMALL LOZENGE"),
  (0x1F7A0, "aWHITE LOZENGE CONTAINING BLACK SMALL LOZENGEaTHIN GREEK CROSSaLIGHT GREEK CROSS"),
  (0x1F7A3, "aMEDIUM GREEK CROSSaBOLD GREEK CROSSaVERY BOLD GREEK CROSSbHEAVY GREEK CROSS"),
  (0x1F7A7, "aEXTREMELY HEAVY GREEK CROSSaTHIN SALTIREaLIGHT SALTIREaMEDIUM SALTIRE"),
  (0x1F7AB, "aBOLD SALTIREaHEAVY SALTIREaVERY HEAVY SALTIREaEXTREMELY HEAVY SALTIRE"),
  (0x1F7AF, "aLIGHT FIVE SPOKED ASTERISKaMEDIUM FIVE SPOKED ASTERISKaBOLD FIVE SPOKED ASTERISK"),
  (0x1F7B2, "aHEAVY FIVE SPOKED ASTERISKaVERY HEAVY FIVE SPOKED ASTERISK"),
  (0x1F7B4, "aEXTREMELY HEAVY FIVE SPOKED ASTERISKaLIGHT SIX SPOKED ASTERISK"),
  (0x1F7B6, "aMEDIUM SIX SPOKED ASTERISKaBOLD SIX SPOKED ASTERISKaHEAVY SIX SPOKED ASTERISK"),
  (0x1F7B9, "aVERY HEAVY SIX SPOKED ASTERISKaEXTREMELY HEAVY SIX SPOKED ASTERISK"),
  (0x1F7BB, "aLIGHT EIGHT SPOKED ASTERISKaMEDIUM EIGHT SPOKED ASTERISK"),
  (0x1F7BD, "aBOLD EIGHT SPOKED ASTERISKaHEAVY EIGHT SPOKED ASTERISK"),
  (0x1F7BF, "aVERY HEAVY EIGHT SPOKED ASTERISKaLIGHT THREE POINTED BLACK STAR"),
  (0x1F7C1, "aMEDIUM THREE POINTED BLACK STARaTHREE POINTED BLACK STAR"),
  (0x1F7C3, "aMEDIUM THREE POINTED PINWHEEL STARaLIGHT FOUR POINTED BLACK STAR"),
  (0x1F7C5, "aMEDIUM FOUR POINTED BLACK STARaFOUR POINTED BLACK STAR"),
  (0x1F7C7, "aMEDIUM FOUR POINTED PINWHEEL STARaREVERSE LIGHT FOUR POINTED PINWHEEL STAR"),
  (0x1F7C9, "aLIGHT FIVE POINTED BLACK STARaHEAVY FIVE POINTED BLACK STAR"),
  (0x1F7CB, "aMEDIUM SIX POINTED BLACK STARaHEAVY SIX POINTED BLACK STAR"),
  (0x1F7CD, "aSIX POINTED PINWHEEL STARaMEDIUM EIGHT POINTED BLACK STAR"),
  (0x1F7CF, "aHEAVY EIGHT POINTED BLACK STARaVERY HEAVY EIGHT POINTED BLACK STAR"),
  (0x1F7D1, "aHEAVY EIGHT POINTED PINWHEEL STARaLIGHT TWELVE POINTED BLACK STAR"),
  (0x1F7D3, "aHEAVY TWELVE POINTED BLACK STARdPINWHEEL STARaCIRCLED TRIANGLE"),
  (0x1F7D6, "aNEGATIVE CIRCLED TRIANGLEaCIRCLED SQUAREaNEGATIVE CIRCLED SQUARE"),
  (0x1F7E0, "aLARGE ORANGE CIRCLEbYELLOW CIRCLEbGREEN CIRCLEbPURPLE CIRCLEbBROWN CIRCLE"),
  (0x1F7E5, "bRED SQUAREbBLUE SQUAREbORANGE SQUAREbYELLOW SQUAREbGREEN SQUAREbPURPLE SQUARE"),
  (0x1F7EB, "bBROWN SQUARE"), (0x1F7F0, "aHEAVY EQUALS SIGN"),
  (0x1F800, "aLEFTWARDS ARROW WITH SMALL TRIANGLE ARROWHEAD"),
  (0x1F801, "aUPWARDS ARROW WITH SMALL TRIANGLE ARROWHEAD"),
  (0x1F802, "aRIGHTWARDS ARROW WITH SMALL TRIANGLE ARROWHEAD"),
  (0x1F803, "aDOWNWARDS ARROW WITH SMALL TRIANGLE ARROWHEAD"),
  (0x1F804, "aLEFTWARDS ARROW WITH MEDIUM TRIANGLE ARROWHEAD"),
  (0x1F805, "aUPWARDS ARROW WITH MEDIUM TRIANGLE ARROWHEAD"),
  (0x1F806, "aRIGHTWARDS ARROW WITH MEDIUM TRIANGLE ARROWHEAD"),
  (0x1F807, "aDOWNWARDS ARROW WITH MEDIUM TRIANGLE ARROWHEAD"),
  (0x1F808, "aLEFTWARDS ARROW WITH LARGE TRIANGLE ARROWHEAD"),
  (0x1F809, "aUPWARDS ARROW WITH LARGE TRIANGLE ARROWHEAD"),
  (0x1F80A, "aRIGHTWARDS ARROW WITH LARGE TRIANGLE ARROWHEAD"),
  (0x1F80B, "aDOWNWARDS ARROW WITH LARGE TRIANGLE ARROWHEAD"),
  (0x1F810, "aLEFTWARDS ARROW WITH SMALL EQUILATERAL ARROWHEAD"),
  (0x1F811, "aUPWARDS ARROW WITH SMALL EQUILATERAL ARROWHEAD"),
  (0x1F812, "aRIGHTWARDS ARROW WITH SMALL EQUILATERAL ARROWHEAD"),
  (0x1F813, "aDOWNWARDS ARROW WITH SMALL EQUILATERAL ARROWHEAD"),
  (0x1F814, "aLEFTWARDS ARROW WITH EQUILATERAL ARROWHEAD"),
  (0x1F815, "aUPWARDS ARROW WITH EQUILATERAL ARROWHEAD"),
  (0x1F816, "aRIGHTWARDS ARROW WITH EQUILATERAL ARROWHEAD"),
  (0x1F817, "aDOWNWARDS ARROW WITH EQUILATERAL ARROWHEAD"),
  (0x1F818, "aHEAVY LEFTWARDS ARROW WITH EQUILATERAL ARROWHEAD"),
  (0x1F819, "bUPWARDS ARROW WITH EQUILATERAL ARROWHEAD"),
  (0x1F81A, "bRIGHTWARDS ARROW WITH EQUILATERAL ARROWHEAD"),
  (0x1F81B, "bDOWNWARDS ARROW WITH EQUILATERAL ARROWHEAD"),
  (0x1F81C, "bLEFTWARDS ARROW WITH LARGE EQUILATERAL ARROWHEAD"),
  (0x1F81D, "bUPWARDS ARROW WITH LARGE EQUILATERAL ARROWHEAD"),
  (0x1F81E, "bRIGHTWARDS ARROW WITH LARGE EQUILATERAL ARROWHEAD"),
  (0x1F81F, "bDOWNWARDS ARROW WITH LARGE EQUILATERAL ARROWHEAD"),
  (0x1F820, "aLEFTWARDS TRIANGLE-HEADED ARROW WITH NARROW SHAFT"),
  (0x1F821, "aUPWARDS TRIANGLE-HEADED ARROW WITH NARROW SHAFT"),
  (0x1F822, "aRIGHTWARDS TRIANGLE-HEADED ARROW WITH NARROW SHAFT"),
  (0x1F823, "aDOWNWARDS TRIANGLE-HEADED ARROW WITH NARROW SHAFT"),
  (0x1F824, "aLEFTWARDS TRIANGLE-HEADED ARROW WITH MEDIUM SHAFT"),
  (0x1F825, "aUPWARDS TRIANGLE-HEADED ARROW WITH MEDIUM SHAFT"),
  (0x1F826, "aRIGHTWARDS TRIANGLE-HEADED ARROW WITH MEDIUM SHAFT"),
  (0x1F827, "aDOWNWARDS TRIANGLE-HEADED ARROW WITH MEDIUM SHAFT"),
  (0x1F828, "aLEFTWARDS TRIANGLE-HEADED ARROW WITH BOLD SHAFT"),
  (0x1F829, "aUPWARDS TRIANGLE-HEADED ARROW WITH BOLD SHAFT"),
  (0x1F82A, "aRIGHTWARDS TRIANGLE-HEADED ARROW WITH BOLD SHAFT"),
  (0x1F82B, "aDOWNWARDS TRIANGLE-HEADED ARROW WITH BOLD SHAFT"),
  (0x1F82C, "aLEFTWARDS TRIANGLE-HEADED ARROW WITH HEAVY SHAFT"),
  (0x1F82D, "aUPWARDS TRIANGLE-HEADED ARROW WITH HEAVY SHAFT"),
  (0x1F82E, "aRIGHTWARDS TRIANGLE-HEADED ARROW WITH HEAVY SHAFT"),
  (0x1F82F, "aDOWNWARDS TRIANGLE-HEADED ARROW WITH HEAVY SHAFT"),
  (0x1F830, "aLEFTWARDS TRIANGLE-HEADED ARROW WITH VERY HEAVY SHAFT"),
  (0x1F831, "aUPWARDS TRIANGLE-HEADED ARROW WITH VERY HEAVY SHAFT"),
  (0x1F832, "aRIGHTWARDS TRIANGLE-HEADED ARROW WITH VERY HEAVY SHAFT"),
  (0x1F833, "aDOWNWARDS TRIANGLE-HEADED ARROW WITH VERY HEAVY SHAFTaLEFTWARDS FINGER-POST ARROW"),
  (0x1F835, "aUPWARDS FINGER-POST ARROWaRIGHTWARDS FINGER-POST ARROW"),
  (0x1F837, "aDOWNWARDS FINGER-POST ARROWaLEFTWARDS SQUARED ARROWaUPWARDS SQUARED ARROW"),
  (0x1F83A, "aRIGHTWARDS SQUARED ARROWaDOWNWARDS SQUARED ARROWaLEFTWARDS COMPRESSED ARROW"),
  (0x1F83D, "aUPWARDS COMPRESSED ARROWaRIGHTWARDS COMPRESSED ARROWaDOWNWARDS COMPRESSED ARROW"),
  (0x1F840, "aLEFTWARDS HEAVY COMPRESSED ARROWaUPWARDS HEAVY COMPRESSED ARROW"),
  (0x1F842, "aRIGHTWARDS HEAVY COMPRESSED ARROWaDOWNWARDS HEAVY COMPRESSED ARROW"),
  (0x1F844, "aLEFTWARDS HEAVY ARROWaUPWARDS HEAVY ARROWaRIGHTWARDS HEAVY ARROW"),
  (0x1F847, "aDOWNWARDS HEAVY ARROW"),
  (0x1F850, "aLEFTWARDS SANS-SERIF ARROWaUPWARDS SANS-SERIF ARROWaRIGHTWARDS SANS-SERIF ARROW"),
  (0x1F853, "aDOWNWARDS SANS-SERIF ARROWaNORTH WEST SANS-SERIF ARROWbEAST SANS-SERIF ARROW"),
  (0x1F856, "aSOUTH EAST SANS-SERIF ARROWbWEST SANS-SERIF ARROWaLEFT RIGHT SANS-SERIF ARROW"),
  (0x1F859, "aUP DOWN SANS-SERIF ARROW"),
  (0x1F860, "aWIDE-HEADED LEFTWARDS LIGHT BARB ARROWcUPWARDS LIGHT BARB ARROW"),
  (0x1F862, "cRIGHTWARDS LIGHT BARB ARROWcDOWNWARDS LIGHT BARB ARROW"),
  (0x1F864, "cNORTH WEST LIGHT BARB ARROWdEAST LIGHT BARB ARROWcSOUTH EAST LIGHT BARB ARROW"),
  (0x1F867, "dWEST LIGHT BARB ARROWcLEFTWARDS BARB ARROWcUPWARDS BARB ARROW"),
  (0x1F86A, "cRIGHTWARDS BARB ARROWcDOWNWARDS BARB ARROWcNORTH WEST BARB ARROWdEAST BARB ARROW"),
  (0x1F86E, "cSOUTH EAST BARB ARROWdWEST BARB ARROWcLEFTWARDS MEDIUM BARB ARROW"),
  (0x1F871, "cUPWARDS MEDIUM BARB ARROWcRIGHTWARDS MEDIUM BARB ARROW"),
  (0x1F873, "cDOWNWARDS MEDIUM BARB ARROWcNORTH WEST MEDIUM BARB ARROWdEAST MEDIUM BARB ARROW"),
  (0x1F876, "cSOUTH EAST MEDIUM BARB ARROWdWEST MEDIUM BARB ARROWcLEFTWARDS HEAVY BARB ARROW"),
  (0x1F879, "cUPWARDS HEAVY BARB ARROWcRIGHTWARDS HEAVY BARB ARROWcDOWNWARDS HEAVY BARB ARROW"),
  (0x1F87C, "cNORTH WEST HEAVY BARB ARROWdEAST HEAVY BARB ARROWcSOUTH EAST HEAVY BARB ARROW"),
  (0x1F87F, "dWEST HEAVY BARB ARROWcLEFTWARDS VERY HEAVY BARB ARROW"),
  (0x1F881, "cUPWARDS VERY HEAVY BARB ARROWcRIGHTWARDS VERY HEAVY BARB ARROW"),
  (0x1F883, "cDOWNWARDS VERY HEAVY BARB ARROWcNORTH WEST VERY HEAVY BARB ARROW"),
  (0x1F885, "dEAST VERY HEAVY BARB ARROWcSOUTH EAST VERY HEAVY BARB ARROW"),
  (0x1F887, "dWEST VERY HEAVY BARB ARROW"),
  (0x1F890, "aLEFTWARDS TRIANGLE ARROWHEADaUPWARDS TRIANGLE ARROWHEAD"),
  (0x1F892, "aRIGHTWARDS TRIANGLE ARROWHEADaDOWNWARDS TRIANGLE ARROWHEAD"),
  (0x1F894, "aLEFTWARDS WHITE ARROW WITHIN TRIANGLE ARROWHEAD"),
  (0x1F895, "aUPWARDS WHITE ARROW WITHIN TRIANGLE ARROWHEAD"),
  (0x1F896, "aRIGHTWARDS WHITE ARROW WITHIN TRIANGLE ARROWHEAD"),
  (0x1F897, "aDOWNWARDS WHITE ARROW WITHIN TRIANGLE ARROWHEADaLEFTWARDS ARROW WITH NOTCHED TAIL"),
  (0x1F899, "aUPWARDS ARROW WITH NOTCHED TAILaRIGHTWARDS ARROW WITH NOTCHED TAIL"),
  (0x1F89B, "aDOWNWARDS ARROW WITH NOTCHED TAILaHEAVY ARROW SHAFT WIDTH ONEeTWO THIRDSeONE HALF"),
  (0x1F89F, "fTHIRDaLEFTWARDS BOTTOM-SHADED WHITE ARROWaRIGHTWARDS BOTTOM SHADED WHITE ARROW"),
  (0x1F8A2, "aLEFTWARDS TOP SHADED WHITE ARROWaRIGHTWARDS TOP SHADED WHITE ARROW"),
  (0x1F8A4, "aLEFTWARDS LEFT-SHADED WHITE ARROWaRIGHTWARDS RIGHT-SHADED WHITE ARROW"),
  (0x1F8A6, "aLEFTWARDS RIGHT-SHADED WHITE ARROWaRIGHTWARDS LEFT-SHADED WHITE ARROW"),
  (0x1F8A8, "aLEFTWARDS BACK-TILTED SHADOWED WHITE ARROW"),
  (0x1F8A9, "aRIGHTWARDS BACK-TILTED SHADOWED WHITE ARROW"),
  (0x1F8AA, "aLEFTWARDS FRONT-TILTED SHADOWED WHITE ARROW"),
  (0x1F8AB, "aRIGHTWARDS FRONT-TILTED SHADOWED WHITE ARROWaWHITE ARROW SHAFT WIDTH ONE"),
  (0x1F8AD, "eTWO THIRDS"),
  (0x1F8B0, "aARROW POINTING UPWARDS THEN NORTH WESTcRIGHTWARDS THEN CURVING SOUTH WEST"),
  (0x1F900, "aCIRCLED CROSS FORMEE WITH FOUR DOTSeTWO DOTScFORMEE"),
  (0x1F903, "aLEFT HALF CIRCLE WITH FOUR DOTSeTHREE DOTSeTWO DOTSeDOTcCIRCLE"),
  (0x1F908, "aDOWNWARD FACING HOOKcNOTCHED HOOKcHOOK WITH DOTcNOTCHED HOOK WITH DOT"),
  (0x1F90C, "aPINCHED FINGERSaWHITE HEARTaBROWN HEARTaPINCHING HANDaZIPPER-MOUTH FACE"),
  (0x1F911, "aMONEY-MOUTH FACEaFACE WITH THERMOMETERaNERD FACEaTHINKING FACE"),
  (0x1F915, "aFACE WITH HEAD-BANDAGEaROBOT FACEaHUGGING FACEaSIGN OF THE HORNSaCALL ME HAND"),
  (0x1F91A, "aRAISED BACK OF HANDaLEFT-FACING FISTaRIGHT-FACING FISTaHANDSHAKE"),
  (0x1F91E, "aHAND WITH INDEX AND MIDDLE FINGERS CROSSEDaI LOVE YOU HAND SIGN"),
  (0x1F920, "aFACE WITH COWBOY HATaCLOWN FACEaNAUSEATED FACEaROLLING ON THE FLOOR LAUGHING"),
  (0x1F924, "aDROOLING FACEaLYING FACEaFACE PALMaSNEEZING FACEaFACE WITH ONE EYEBROW RAISED"),
  (0x1F929, "aGRINNING FACE WITH STAR EYESdONE LARGE AND ONE SMALL EYE"),
  (0x1F92B, "aFACE WITH FINGER COVERING CLOSED LIPSaSERIOUS FACE WITH SYMBOLS COVERING MOUTH"),
  (0x1F92D, "aSMILING FACE WITH SMILING EYES AND HAND COVERING MOUTH"),
  (0x1F92E, "aFACE WITH OPEN MOUTH VOMITINGaSHOCKED FACE WITH EXPLODING HEADaPREGNANT WOMAN"),
  (0x1F931, "aBREAST-FEEDINGaPALMS UP TOGETHERaSELFIEaPRINCEaMAN IN TUXEDOaMOTHER CHRISTMAS"),
  (0x1F937, "aSHRUGaPERSON DOING CARTWHEELaJUGGLINGaFENCERaMODERN PENTATHLONaWRESTLERS"),
  (0x1F93D, "aWATER POLOaHANDBALLaDIVING MASKaWILTED FLOWERaDRUM WITH DRUMSTICKS"),
  (0x1F942, "aCLINKING GLASSESaTUMBLER GLASSaSPOONaGOAL NETaRIFLEaFIRST PLACE MEDAL"),
  (0x1F948, "aSECOND PLACE MEDALaTHIRD PLACE MEDALaBOXING GLOVEaMARTIAL ARTS UNIFORM"),
  (0x1F94C, "aCURLING STONEaLACROSSE STICK AND BALLaSOFTBALLaFLYING DISCaCROISSANTaAVOCADO"),
  (0x1F952, "aCUCUMBERaBACONaPOTATOaCARROTaBAGUETTE BREADaGREEN SALADaSHALLOW PAN OF FOOD"),
  (0x1F959, "aSTUFFED FLATBREADaEGGaGLASS OF MILKaPEANUTSaKIWIFRUITaPANCAKESaDUMPLING"),
  (0x1F960, "aFORTUNE COOKIEaTAKEOUT BOXaCHOPSTICKSaBOWL WITH SPOONaCUP WITH STRAWaCOCONUT"),
  (0x1F966, "aBROCCOLIaPIEaPRETZELaCUT OF MEATaSANDWICHaCANNED FOODaLEAFY GREENaMANGOaMOON CAKE"),
  (0x1F96F, "aBAGELaSMILING FACE WITH SMILING EYES AND THREE HEARTSaYAWNING FACE"),
  (0x1F972, "aSMILING FACE WITH TEARaFACE WITH PARTY HORN AND PARTY HAT"),
  (0x1F974, "cUNEVEN EYES AND WAVY MOUTHaOVERHEATED FACEaFREEZING FACEaNINJAaDISGUISED FACE"),
  (0x1F979, "aFACE HOLDING BACK TEARSbWITH PLEADING EYESaSARIaLAB COATaGOGGLESaHIKING BOOT"),
  (0x1F97F, "aFLAT SHOEaCRABaLION FACEaSCORPIONaTURKEYaUNICORN FACEaEAGLEaDUCKaBATaSHARKaOWL"),
  (0x1F98A, "aFOX FACEaBUTTERFLYaDEERaGORILLAaLIZARDaRHINOCEROSaSHRIMPaSQUIDaGIRAFFE FACE"),
  (0x1F993, "aZEBRA FACEaHEDGEHOGaSAUROPODaT-REXaCRICKETaKANGAROOaLLAMAaPEACOCKaHIPPOPOTAMUS"),
  (0x1F99C, "aPARROTaRACCOONaLOBSTERaMOSQUITOaMICROBEaBADGERaSWANaMAMMOTHaDODOaSLOTHaOTTER"),
  (0x1F9A7, "aORANGUTANaSKUNKaFLAMINGOaOYSTERaBEAVERaBISONaSEALaGUIDE DOGaPROBING CANE"),
  (0x1F9B0, "aEMOJI COMPONENT RED HAIRcCURLY HAIRcBALDcWHITE HAIRaBONEaLEGaFOOTaTOOTHaSUPERHERO"),
  (0x1F9B9, "aSUPERVILLAINaSAFETY VESTaEAR WITH HEARING AIDaMOTORIZED WHEELCHAIR"),
  (0x1F9BD, "aMANUAL WHEELCHAIRaMECHANICAL ARMbLEGaCHEESE WEDGEaCUPCAKEaSALT SHAKER"),
  (0x1F9C3, "aBEVERAGE BOXaGARLICaONIONaFALAFELaWAFFLEaBUTTERaMATE DRINKaICE CUBEaBUBBLE TEA"),
  (0x1F9CC, "aTROLLaSTANDING PERSONaKNEELING PERSONaDEAF PERSONaFACE WITH MONOCLEaADULTaCHILD"),
  (0x1F9D3, "aOLDER ADULTaBEARDED PERSONaPERSON WITH HEADSCARFbIN STEAMY ROOMbCLIMBING"),
  (0x1F9D8, "bIN LOTUS POSITIONaMAGEaFAIRYaVAMPIREaMERPERSONaELFaGENIEaZOMBIEaBRAIN"),
  (0x1F9E1, "aORANGE HEARTaBILLED CAPaSCARFaGLOVESaCOATaSOCKSaRED GIFT ENVELOPEaFIRECRACKER"),
  (0x1F9E9, "aJIGSAW PUZZLE PIECEaTEST TUBEaPETRI DISHaDNA DOUBLE HELIXaCOMPASSaABACUS"),
  (0x1F9EF, "aFIRE EXTINGUISHERaTOOLBOXaBRICKaMAGNETaLUGGAGEaLOTION BOTTLEaSPOOL OF THREAD"),
  (0x1F9F6, "aBALL OF YARNaSAFETY PINaTEDDY BEARaBROOMaBASKETaROLL OF PAPERaBAR OF SOAPaSPONGE"),
  (0x1F9FE, "aRECEIPTaNAZAR AMULETaNEUTRAL CHESS KINGcQUEENcROOKcBISHOPcKNIGHTcPAWN"),
  (0x1FA06, "aWHITE CHESS KNIGHT ROTATED FORTY-FIVE DEGREES"),
  (0x1FA07, "aBLACK CHESS KNIGHT ROTATED FORTY-FIVE DEGREES"),
  (0x1FA08, "aNEUTRAL CHESS KNIGHT ROTATED FORTY-FIVE DEGREES"),
  (0x1FA09, "aWHITE CHESS KING ROTATED NINETY DEGREEScQUEEN ROTATED NINETY DEGREES"),
  (0x1FA0B, "cROOK ROTATED NINETY DEGREEScBISHOP ROTATED NINETY DEGREES"),
  (0x1FA0D, "cKNIGHT ROTATED NINETY DEGREEScPAWN ROTATED NINETY DEGREES"),
  (0x1FA0F, "aBLACK CHESS KING ROTATED NINETY DEGREEScQUEEN ROTATED NINETY DEGREES"),
  (0x1FA11, "cROOK ROTATED NINETY DEGREEScBISHOP ROTATED NINETY DEGREES"),
  (0x1FA13, "cKNIGHT ROTATED NINETY DEGREEScPAWN ROTATED NINETY DEGREES"),
  (0x1FA15, "aNEUTRAL CHESS KING ROTATED NINETY DEGREEScQUEEN ROTATED NINETY DEGREES"),
  (0x1FA17, "cROOK ROTATED NINETY DEGREEScBISHOP ROTATED NINETY DEGREES"),
  (0x1FA19, "cKNIGHT ROTATED NINETY DEGREEScPAWN ROTATED NINETY DEGREES"),
  (0x1FA1B, "aWHITE CHESS KNIGHT ROTATED ONE HUNDRED THIRTY-FIVE DEGREES"),
  (0x1FA1C, "aBLACK CHESS KNIGHT ROTATED ONE HUNDRED THIRTY-FIVE DEGREES"),
  (0x1FA1D, "aNEUTRAL CHESS KNIGHT ROTATED ONE HUNDRED THIRTY-FIVE DEGREES"),
  (0x1FA1E, "aWHITE CHESS TURNED KINGdQUEENdROOKdBISHOPdKNIGHTdPAWNaBLACK CHESS TURNED KING"),
  (0x1FA25, "dQUEENdROOKdBISHOPdKNIGHTdPAWNaNEUTRAL CHESS TURNED KINGdQUEENdROOKdBISHOPdKNIGHT"),
  (0x1FA2F, "dPAWNaWHITE CHESS KNIGHT ROTATED TWO HUNDRED TWENTY-FIVE DEGREES"),
  (0x1FA31, "aBLACK CHESS KNIGHT ROTATED TWO HUNDRED TWENTY-FIVE DEGREES"),
  (0x1FA32, "aNEUTRAL CHESS KNIGHT ROTATED TWO HUNDRED TWENTY-FIVE DEGREES"),
  (0x1FA33, "aWHITE CHESS KING ROTATED TWO HUNDRED SEVENTY DEGREES"),
  (0x1FA34, "cQUEEN ROTATED TWO HUNDRED SEVENTY DEGREES"),
  (0x1FA35, "cROOK ROTATED TWO HUNDRED SEVENTY DEGREES"),
  (0x1FA36, "cBISHOP ROTATED TWO HUNDRED SEVENTY DEGREES"),
  (0x1FA37, "cKNIGHT ROTATED TWO HUNDRED SEVENTY DEGREES"),
  (0x1FA38, "cPAWN ROTATED TWO HUNDRED SEVENTY DEGREES"),
  (0x1FA39, "aBLACK CHESS KING ROTATED TWO HUNDRED SEVENTY DEGREES"),
  (0x1FA3A, "cQUEEN ROTATED TWO HUNDRED SEVENTY DEGREES"),
  (0x1FA3B, "cROOK ROTATED TWO HUNDRED SEVENTY DEGREES"),
  (0x1FA3C, "cBISHOP ROTATED TWO HUNDRED SEVENTY DEGREES"),
  (0x1FA3D, "cKNIGHT ROTATED TWO HUNDRED SEVENTY DEGREES"),
  (0x1FA3E, "cPAWN ROTATED TWO HUNDRED SEVENTY DEGREES"),
  (0x1FA3F, "aNEUTRAL CHESS KING ROTATED TWO HUNDRED SEVENTY DEGREES"),
  (0x1FA40, "cQUEEN ROTATED TWO HUNDRED SEVENTY DEGREES"),
  (0x1FA41, "cROOK ROTATED TWO HUNDRED SEVENTY DEGREES"),
  (0x1FA42, "cBISHOP ROTATED TWO HUNDRED SEVENTY DEGREES"),
  (0x1FA43, "cKNIGHT ROTATED TWO HUNDRED SEVENTY DEGREES"),
  (0x1FA44, "cPAWN ROTATED TWO HUNDRED SEVENTY DEGREES"),
  (0x1FA45, "aWHITE CHESS KNIGHT ROTATED THREE HUNDRED FIFTEEN DEGREES"),
  (0x1FA46, "aBLACK CHESS KNIGHT ROTATED THREE HUNDRED FIFTEEN DEGREES"),
  (0x1FA47, "aNEUTRAL CHESS KNIGHT ROTATED THREE HUNDRED FIFTEEN DEGREESaWHITE CHESS EQUIHOPPER"),
  (0x1FA49, "aBLACK CHESS EQUIHOPPERaNEUTRAL CHESS EQUIHOPPER"),
  (0x1FA4B, "aWHITE CHESS EQUIHOPPER ROTATED NINETY DEGREES"),
  (0x1FA4C, "aBLACK CHESS EQUIHOPPER ROTATED NINETY DEGREES"),
  (0x1FA4D, "aNEUTRAL CHESS EQUIHOPPER ROTATED NINETY DEGREESaWHITE CHESS KNIGHT-QUEENdROOK"),
  (0x1FA50, "dBISHOPaBLACK CHESS KNIGHT-QUEENdROOKdBISHOP"),
  (0x1FA60, "aXIANGQI RED GENERALcMANDARINcELEPHANTcHORSEcCHARIOTcCANNONcSOLDIERbBLACK GENERAL"),
  (0x1FA68, "cMANDARINcELEPHANTcHORSEcCHARIOTcCANNONcSOLDIER"),
  (0x1FA70, "aBALLET SHOESaONE-PIECE SWIMSUITaBRIEFSaSHORTSaTHONG SANDAL"),
  (0x1FA78, "aDROP OF BLOODaADHESIVE BANDAGEaSTETHOSCOPEaX-RAYaCRUTCH"),
  (0x1FA80, "aYO-YOaKITEaPARACHUTEaBOOMERANGaMAGIC WANDaPINATAaNESTING DOLLS"),
  (0x1FA90, "aRINGED PLANETaCHAIRaRAZORaAXEaDIYA LAMPaBANJOaMILITARY HELMETaACCORDIONaLONG DRUM"),
  (0x1FA99, "aCOINaCARPENTRY SAWaSCREWDRIVERaLADDERaHOOKaMIRRORaWINDOWaPLUNGERaSEWING NEEDLE"),
  (0x1FAA2, "aKNOTaBUCKETaMOUSE TRAPaTOOTHBRUSHaHEADSTONEaPLACARDaROCKaMIRROR BALL"),
  (0x1FAAA, "aIDENTIFICATION CARDaLOW BATTERYaHAMSA"),
  (0x1FAB0, "aFLYaWORMaBEETLEaCOCKROACHaPOTTED PLANTaWOODaFEATHERaLOTUSaCORALaEMPTY NEST"),
  (0x1FABA, "aNEST WITH EGGS"),
  (0x1FAC0, "aANATOMICAL HEARTaLUNGSaPEOPLE HUGGINGaPREGNANT MANbPERSONaPERSON WITH CROWN"),
  (0x1FAD0, "aBLUEBERRIESaBELL PEPPERaOLIVEaFLATBREADaTAMALEaFONDUEaTEAPOTaPOURING LIQUIDaBEANS"),
  (0x1FAD9, "aJAR"),
  (0x1FAE0, "aMELTING FACEaSALUTING FACEaFACE WITH OPEN EYES AND HAND OVER MOUTHcPEEKING EYE"),
  (0x1FAE4, "cDIAGONAL MOUTHaDOTTED LINE FACEaBITING LIPaBUBBLES"),
  (0x1FAF0, "aHAND WITH INDEX FINGER AND THUMB CROSSEDaRIGHTWARDS HANDaLEFTWARDS HAND"),
  (0x1FAF3, "aPALM DOWN HANDbUP HANDaINDEX POINTING AT THE VIEWERaHEART HANDS"),
  (0x1FB00, "aBLOCK SEXTANT-1c2c12c3c13c23c123c4c14c24c124c34c134c234c1234c5c15c25c125c35c235"),
  (0x1FB15, "c1235c45c145c245c1245c345c1345c2345c12345c6c16c26c126c36c136c236c1236c46c146c1246"),
  (0x1FB29, "c346c1346c2346c12346c56c156c256c1256c356c1356c2356c12356c456c1456c2456c12456c3456"),
  (0x1FB3A, "c13456c23456aLOWER LEFT BLOCK DIAGONAL LOWER MIDDLE LEFT TO LOWER CENTREjRIGHT"),
  (0x1FB3E, "eUPPER MIDDLE LEFT TO LOWER CENTREjRIGHTfLEFT TO LOWER CENTRE"),
  (0x1FB41, "bRIGHT BLOCK DIAGONAL UPPER MIDDLE LEFT TO UPPER CENTREjRIGHT"),
  (0x1FB43, "eLOWER MIDDLE LEFT TO UPPER CENTREjRIGHTfLEFT TO UPPER CENTRE"),
  (0x1FB46, "fMIDDLE LEFT TO UPPER MIDDLE RIGHTfCENTRE TO LOWER MIDDLE RIGHT"),
  (0x1FB48, "fLEFT TO LOWER MIDDLE RIGHTfCENTRE TO UPPER MIDDLE RIGHT"),
  (0x1FB4A, "fLEFT TO UPPER MIDDLE RIGHTfCENTRE TO UPPER RIGHT"),
  (0x1FB4C, "bLEFT BLOCK DIAGONAL UPPER CENTRE TO UPPER MIDDLE RIGHTfLEFT TO UPPER MIDDLE RIGHT"),
  (0x1FB4E, "fCENTRE TO LOWER MIDDLE RIGHTfLEFT TO LOWER MIDDLE RIGHTfCENTRE TO LOWER RIGHT"),
  (0x1FB51, "fMIDDLE LEFT TO LOWER MIDDLE RIGHT"),
  (0x1FB52, "aUPPER RIGHT BLOCK DIAGONAL LOWER MIDDLE LEFT TO LOWER CENTREjRIGHT"),
  (0x1FB54, "eUPPER MIDDLE LEFT TO LOWER CENTREjRIGHTfLEFT TO LOWER CENTRE"),
  (0x1FB57, "bLEFT BLOCK DIAGONAL UPPER MIDDLE LEFT TO UPPER CENTREjRIGHT"),
  (0x1FB59, "eLOWER MIDDLE LEFT TO UPPER CENTREjRIGHTfLEFT TO UPPER CENTRE"),
  (0x1FB5C, "fMIDDLE LEFT TO UPPER MIDDLE RIGHTfCENTRE TO LOWER MIDDLE RIGHT"),
  (0x1FB5E, "fLEFT TO LOWER MIDDLE RIGHTfCENTRE TO UPPER MIDDLE RIGHT"),
  (0x1FB60, "fLEFT TO UPPER MIDDLE RIGHTfCENTRE TO UPPER RIGHT"),
  (0x1FB62, "bRIGHT BLOCK DIAGONAL UPPER CENTRE TO UPPER MIDDLE RIGHT"),
  (0x1FB63, "fLEFT TO UPPER MIDDLE RIGHTfCENTRE TO LOWER MIDDLE RIGHT"),
  (0x1FB65, "fLEFT TO LOWER MIDDLE RIGHTfCENTRE TO LOWER RIGHT"),
  (0x1FB67, "fMIDDLE LEFT TO LOWER MIDDLE RIGHT"),
  (0x1FB68, "bAND RIGHT AND LOWER TRIANGULAR THREE QUARTERS BLOCK"),
  (0x1FB69, "aLEFT AND LOWER AND RIGHT TRIANGULAR THREE QUARTERS BLOCK"),
  (0x1FB6A, "aUPPER AND LEFT AND LOWER TRIANGULAR THREE QUARTERS BLOCK"),
  (0x1FB6B, "aLEFT AND UPPER AND RIGHT TRIANGULAR THREE QUARTERS BLOCK"),
  (0x1FB6C, "bTRIANGULAR ONE QUARTER BLOCKaUPPER TRIANGULAR ONE QUARTER BLOCK"),
  (0x1FB6E, "aRIGHT TRIANGULAR ONE QUARTER BLOCKaLOWER TRIANGULAR ONE QUARTER BLOCK"),
  (0x1FB70, "aVERTICAL ONE EIGHTH BLOCK-2e3e4e5e6e7aHORIZONTAL ONE EIGHTH BLOCK-2e3e4e5e6e7"),
  (0x1FB7C, "aLEFT AND LOWER ONE EIGHTH BLOCKcUPPER ONE EIGHTH BLOCK"),
  (0x1FB7E, "aRIGHT AND UPPER ONE EIGHTH BLOCKcLOWER ONE EIGHTH BLOCK"),
  (0x1FB80, "aUPPER AND LOWER ONE EIGHTH BLOCKaHORIZONTAL ONE EIGHTH BLOCK-1358"),
  (0x1FB82, "aUPPER ONE QUARTER BLOCKbTHREE EIGHTHS BLOCKbFIVE EIGHTHS BLOCK"),
  (0x1FB85, "bTHREE QUARTERS BLOCKbSEVEN EIGHTHS BLOCKaRIGHT ONE QUARTER BLOCK"),
  (0x1FB88, "bTHREE EIGHTHS BLOCKbFIVE EIGHTHS BLOCKbTHREE QUARTERS BLOCKbSEVEN EIGHTHS BLOCK"),
  (0x1FB8C, "aLEFT HALF MEDIUM SHADEaRIGHT HALF MEDIUM SHADEaUPPER HALF MEDIUM SHADE"),
  (0x1FB8F, "aLOWER HALF MEDIUM SHADEaINVERSE MEDIUM SHADE"),
  (0x1FB91, "aUPPER HALF BLOCK AND LOWER HALF INVERSE MEDIUM SHADE"),
  (0x1FB92, "cINVERSE MEDIUM SHADE AND LOWER HALF BLOCK"),
  (0x1FB94, "aLEFT HALF INVERSE MEDIUM SHADE AND RIGHT HALF BLOCKaCHECKER BOARD FILL"),
  (0x1FB96, "aINVERSE CHECKER BOARD FILLaHEAVY HORIZONTAL FILLaUPPER LEFT TO LOWER RIGHT FILL"),
  (0x1FB99, "bRIGHT TO LOWER LEFT FILLbAND LOWER TRIANGULAR HALF BLOCK"),
  (0x1FB9B, "aLEFT AND RIGHT TRIANGULAR HALF BLOCKaUPPER LEFT TRIANGULAR MEDIUM SHADE"),
  (0x1FB9D, "bRIGHT TRIANGULAR MEDIUM SHADEaLOWER RIGHT TRIANGULAR MEDIUM SHADE"),
  (0x1FB9F, "bLEFT TRIANGULAR MEDIUM SHADE"),
  (0x1FBA0, "aBOX DRAWINGS LIGHT DIAGONAL UPPER CENTRE TO MIDDLE LEFTiRIGHT"),
  (0x1FBA2, "eMIDDLE LEFT TO LOWER CENTREfRIGHT TO LOWER CENTRE"),
  (0x1FBA4, "eUPPER CENTRE TO MIDDLE LEFT TO LOWER CENTREiRIGHT TO LOWER CENTRE"),
  (0x1FBA6, "eMIDDLE LEFT TO LOWER CENTRE TO MIDDLE RIGHThUPPER CENTRE TO MIDDLE RIGHT"),
  (0x1FBA8, "eUPPER CENTRE TO MIDDLE LEFT AND MIDDLE RIGHT TO LOWER CENTRE"),
  (0x1FBA9, "iRIGHT AND MIDDLE LEFT TO LOWER CENTREjTO LOWER CENTRE TO MIDDLE LEFT"),
  (0x1FBAB, "iLEFT TO LOWER CENTRE TO MIDDLE RIGHT"),
  (0x1FBAC, "eMIDDLE LEFT TO UPPER CENTRE TO MIDDLE RIGHT TO LOWER CENTRE"),
  (0x1FBAD, "fRIGHT TO UPPER CENTRE TO MIDDLE LEFT TO LOWER CENTREeDIAMOND"),
  (0x1FBAF, "dHORIZONTAL WITH VERTICAL STROKEaARROWHEAD-SHAPED POINTERaINVERSE CHECK MARK"),
  (0x1FBB2, "aLEFT HALF RUNNING MANaRIGHT HALF RUNNING MAN"),
  (0x1FBB4, "aINVERSE DOWNWARDS ARROW WITH TIP LEFTWARDS"),
  (0x1FBB5, "aLEFTWARDS ARROW AND UPPER AND LOWER ONE EIGHTH BLOCK"),
  (0x1FBB6, "aRIGHTWARDS ARROW AND UPPER AND LOWER ONE EIGHTH BLOCK"),
  (0x1FBB7, "aDOWNWARDS ARROW AND RIGHT ONE EIGHTH BLOCK"),
  (0x1FBB8, "aUPWARDS ARROW AND RIGHT ONE EIGHTH BLOCKaLEFT HALF FOLDERaRIGHT HALF FOLDER"),
  (0x1FBBB, "aVOIDED GREEK CROSSaRIGHT OPEN SQUARED DOTaNEGATIVE DIAGONAL CROSS"),
  (0x1FBBE, "cMIDDLE RIGHT TO LOWER CENTREcDIAMONDaWHITE HEAVY SALTIRE WITH ROUNDED CORNERS"),
  (0x1FBC1, "aLEFT THIRD WHITE RIGHT POINTING INDEXaMIDDLE THIRD WHITE RIGHT POINTING INDEX"),
  (0x1FBC3, "aRIGHT THIRD WHITE RIGHT POINTING INDEXaNEGATIVE SQUARED QUESTION MARK"),
  (0x1FBC5, "aSTICK FIGUREbFIGURE WITH ARMS RAISEDcLEANING LEFTdRIGHTcWITH DRESS"),
  (0x1FBCA, "aWHITE UP-POINTING CHEVRON"),
  (0x1FBF0, "aSEGMENTED DIGIT ZEROcONEcTWOcTHREEcFOURcFIVEcSIXcSEVENcEIGHTcNINE"),
  (0xE0001, "aLANGUAGE TAG"),
  (0xE0020, "aTAG SPACEbEXCLAMATION MARKbQUOTATION MARKbNUMBER SIGNbDOLLAR SIGNbPERCENT SIGN"),
  (0xE0026, "bAMPERSANDbAPOSTROPHEbLEFT PARENTHESISbRIGHT PARENTHESISbASTERISKbPLUS SIGNbCOMMA"),
  (0xE002D, "bHYPHEN-MINUSbFULL STOPbSOLIDUSbDIGIT ZEROcONEcTWOcTHREEcFOURcFIVEcSIXcSEVENcEIGHT"),
  (0xE0039, "cNINEbCOLONbSEMICOLONbLESS-THAN SIGNbEQUALS SIGNbGREATER-THAN SIGNbQUESTION MARK"),
  (0xE0040, "bCOMMERCIAL ATbLATIN CAPITAL LETTER AeBeCeDeEeFeGeHeIeJeKeLeMeNeOePeQeReSeTeUeVeW"),
  (0xE0058, "eXeYeZbLEFT SQUARE BRACKETbREVERSE SOLIDUSbRIGHT SQUARE BRACKETbCIRCUMFLEX ACCENT"),
  (0xE005F, "bLOW LINEbGRAVE ACCENTbLATIN SMALL LETTER AeBeCeDeEeFeGeHeIeJeKeLeMeNeOePeQeReSeT"),
  (0xE0075, "eUeVeWeXeYeZbLEFT CURLY BRACKETbVERTICAL LINEbRIGHT CURLY BRACKETbTILDEaCANCEL TAG"),
  (0xE0100, "aVARIATION SELECTOR-17c18c19c20c21c22c23c24c25c26c27c28c29c30c31c32c33c34c35c36c37"),
  (0xE0115, "c38c39c40c41c42c43c44c45c46c47c48c49c50c51c52c53c54c55c56c57c58c59c60c61c62c63c64"),
  (0xE0130, "c65c66c67c68c69c70c71c72c73c74c75c76c77c78c79c80c81c82c83c84c85c86c87c88c89c90c91"),
  (0xE014B, "c92c93c94c95c96c97c98c99c100c101c102c103c104c105c106c107c108c109c110c111c112c113"),
  (0xE0161, "c114c115c116c117c118c119c120c121c122c123c124c125c126c127c128c129c130c131c132c133"),
  (0xE0175, "c134c135c136c137c138c139c140c141c142c143c144c145c146c147c148c149c150c151c152c153"),
  (0xE0189, "c154c155c156c157c158c159c160c161c162c163c164c165c166c167c168c169c170c171c172c173"),
  (0xE019D, "c174c175c176c177c178c179c180c181c182c183c184c185c186c187c188c189c190c191c192c193"),
  (0xE01B1, "c194c195c196c197c198c199c200c201c202c203c204c205c206c207c208c209c210c211c212c213"),
  (0xE01C5, "c214c215c216c217c218c219c220c221c222c223c224c225c226c227c228c229c230c231c232c233"),
  (0xE01D9, "c234c235c236c237c238c239c240c241c242c243c244c245c246c247c248c249c250c251c252c253"),
  (0xE01ED, "c254c255c256")]

end SurveyDesk.Unicode
