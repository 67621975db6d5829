/-!
Names of characters: letters from Mongolian on, and further Latin and Greek ones. A row is a code
point and the names of the characters from there on, written as the module on character names says.
-/
namespace SurveyDesk.Unicode

/-- Names from U+1800 on. -/
def furtherNames : List (Nat × String) := [
  (0x1800, "aMONGOLIAN BIRGAbELLIPSISbCOMMAbFULL STOPbCOLONbFOUR DOTSbTODO SOFT HYPHEN"),
  (0x1807, "bSIBE SYLLABLE BOUNDARY MARKERbMANCHU COMMAcFULL STOPbNIRUGU"),
  (0x180B, "bFREE VARIATION SELECTOR ONEeTWOeTHREEbVOWEL SEPARATORbFREE VARIATION SELECTOR FOUR"),
  (0x1810, "bDIGIT ZEROcONEcTWOcTHREEcFOURcFIVEcSIXcSEVENcEIGHTcNINE"),
  (0x1820, "bLETTER AcEcIcOcUcOEcUEcEEcNAcANGcBAcPAcQAcGAcMAcLAcSAcSHAcTAcDAcCHAcJAcYAcRAcWAcFA"),
  (0x183A, "cKAcKHAcTSAcZAcHAAcZRAcLHAcZHIcCHIcTODO LONG VOWEL SIGNdEdIdOdUdOEdUEdANGdBAdPAdQA"),
  (0x184E, "dGAdMAdTAdDAdCHAdJAdTSAdYAdWAdKAdGAAdHAAdJIAdNIAdDZAcSIBE EdIdIYdUEdUdANGdKAdGAdHA"),
  (0x1866, "dPAdSHAdTAdDAdJAdFAdGAAdHAAdTSAdZAdRAAdCHAdZHAcMANCHU IdKAdRAdFAdZHA"),
  (0x1878, "cCHA WITH TWO DOTS"),
  (0x1880, "cALI GALI ANUSVARA ONEeVISARGA ONEeDAMARUeUBADAMAeINVERTED UBADAMAeBALUDA"),
  (0x1886, "eTHREE BALUDAeAeIeKAeNGAeCAeTTAeTTHAeDDAeNNAeTAeDAePAePHAeSSAeZHAeZAeAH"),
  (0x1898, "cTODO ALI GALI TAfZHAcMANCHU ALI GALI GHAfNGAfCAfJHAfTTAfDDHAfTAfDHAfSSAfCYAfZHAfZA"),
  (0x18A6, "cALI GALI HALF UfYAcMANCHU ALI GALI BHAcALI GALI DAGALGAcMANCHU ALI GALI LHA"),
  (0x18B0, "aCANADIAN SYLLABICS OYcAYcAAYcWAYcPOYcPAYcPWOYcTAYcKAYcKWAYcMAYcNOYcNAYcLAYcSOYcSAY"),
  (0x18C0, "cSHOYcSHAYcSHWOYcYOYcYAYcRAYcNWIcOJIBWAY NWIcNWIIcOJIBWAY NWIIcNWOcOJIBWAY NWOcNWOO"),
  (0x18CD, "cOJIBWAY NWOOcRWEEcRWIcRWIIcRWOcRWOOcRWAcOJIBWAY PdTdKdCdMdNdSdSHcEASTERN W"),
  (0x18DD, "cWESTERN WcFINAL SMALL RINGdRAISED DOTcR-CREE RWEcWEST-CREE LOOeLAAcTHWEcTHWAcTTHWE"),
  (0x18E6, "cTTHOOcTTHAAcTLHWEcTLHOOcSAYISI SHWEdSHOOdHOOcCARRIER GWUdDENE GEEdGAAdGWA"),
  (0x18F1, "cSAYISI JUUcCARRIER JWAcBEAVER DENE LeRcCARRIER DENTAL S"),
  (0x1900, "aLIMBU VOWEL-CARRIER LETTERbLETTER KAcKHAcGAcGHAcNGAcCAcCHAcJAcJHAcYANcTAcTHAcDA"),
  (0x190E, "cDHAcNAcPAcPHAcBAcBHAcMAcYAcRAcLAcWAcSHAcSSAcSAcHAcGYANcTRA"),
  (0x1920, "bVOWEL SIGN AdIdUdEEdAIdOOdAUdEdObSUBJOINED LETTER YAdRAdWA"),
  (0x1930, "bSMALL LETTER KAdNGAdANUSVARAdTAdNAdPAdMAdRAdLAbSIGN MUKPHRENGcKEMPHRENGcSA-I"),
  (0x1940, "cLOO"),
  (0x1944, "bEXCLAMATION MARKbQUESTION MARKbDIGIT ZEROcONEcTWOcTHREEcFOURcFIVEcSIXcSEVENcEIGHT"),
  (0x194F, "cNINEaTAI LE LETTER KAdXAdNGAdTSAdSAdYAdTAdTHAdLAdPAdPHAdMAdFAdVAdHAdQAdKHAdTSHAdNA"),
  (0x1963, "dAdIdEEdEHdUdOOdOdUEdEdAUEdAI"), (0x1970, "dTONE-2e3e4e5e6"),
  (0x1980, "aNEW TAI LUE LETTER HIGH QAeLOW QAeHIGH KAfXAfNGAeLOW KAfXAfNGAeHIGH TSAfSAfYA"),
  (0x198B, "eLOW TSAfSAfYAeHIGH TAfTHAfNAeLOW TAfTHAfNAeHIGH PAfPHAfMAeLOW PAfPHAfMAeHIGH FAfVA"),
  (0x199C, "fLAeLOW FAfVAfLAeHIGH HAfDAfBAeLOW HAfDAfBAeHIGH KVAfXVAeLOW KVAfXVAeHIGH SUA"),
  (0x19AB, "eLOW SUA"),
  (0x19B0, "dVOWEL SIGN VOWEL SHORTENERfAAfIIfUfUUfEfAEfOfOAfUEfAYfAAYfUYfOYfOAYfUEYfIY"),
  (0x19C1, "dLETTER FINAL VfNGfNfMfKfDfBdTONE MARK-1f2"),
  (0x19D0, "dDIGIT ZEROeONEeTWOeTHREEeFOUReFIVEeSIXeSEVENeEIGHTeNINEdTHAM DIGIT ONE"),
  (0x19DE, "dSIGN LAEeLAEVaKHMER SYMBOL PATHAMASATcMUOY KOETcPII KOETcBEI KOETcBUON KOET"),
  (0x19E5, "cPRAM KOETcPRAM-MUOY KOETdPII KOETdBEI KOETdBUON KOETcDAP KOETcDAP-MUOY KOET"),
  (0x19EC, "dPII KOETdBEI KOETdBUON KOETdPRAM KOETcTUTEYASATcMUOY ROCcPII ROCcBEI ROCcBUON ROC"),
  (0x19F5, "cPRAM ROCcPRAM-MUOY ROCdPII ROCdBEI ROCdBUON ROCcDAP ROCcDAP-MUOY ROCdPII ROC"),
  (0x19FD, "dBEI ROCdBUON ROCdPRAM ROCaBUGINESE LETTER KAcGAcNGAcNGKAcPAcBAcMAcMPAcTAcDAcNAcNRA"),
  (0x1A0C, "cCAcJAcNYAcNYCAcYAcRAcLAcVAcSAcAcHAbVOWEL SIGN IdUdEdOdAE"),
  (0x1A1E, "bPALLAWAbEND OF SECTIONaTAI THAM LETTER HIGH KAeKHAeKXAdLOW KAeKXAeKHAdNGAdHIGH CA"),
  (0x1A28, "eCHAdLOW CAeSAeCHAdNYAdRATAdHIGH RATHAdDAdLOW RATHAdRANAdHIGH TAeTHAdLOW TAeTHAdNA"),
  (0x1A37, "dBAdHIGH PAePHAeFAdLOW PAeFAePHAdMAdLOW YAdHIGH YAdRAdRUEdLAdLUEdWAdHIGH SHAeSSAeSA"),
  (0x1A49, "eHAdLLAdAdLOW HAdIdIIdUdUUdEEdOOdLAEdGREAT SAcCONSONANT SIGN MEDIAL RAfLA"),
  (0x1A57, "eLA TANG LAIcSIGN MAI KANG LAIcCONSONANT SIGN FINAL NGAeLOW PAeHIGH RATHA OR LOW PA"),
  (0x1A5C, "eMAeBAeSA"),
  (0x1A60, "cSIGN SAKOTcVOWEL SIGN AeMAI SATeAAeTALL AAeIeIIeUEeUUEeUeUUeOeOA BELOWeOYeEeAEeOO"),
  (0x1A71, "eAIeTHAM AIeOA ABOVEcSIGN MAI KANGdTONE-1e2dKHUEN TONE-3f4f5dRA HAAMdMAI SAM"),
  (0x1A7C, "dKHUEN-LUE KARAN"),
  (0x1A7F, "cCOMBINING CRYPTOGRAMMIC DOTcHORA DIGIT ZEROeONEeTWOeTHREEeFOUReFIVEeSIXeSEVEN"),
  (0x1A88, "eEIGHTeNINE"),
  (0x1A90, "cTHAM DIGIT ZEROeONEeTWOeTHREEeFOUReFIVEeSIXeSEVENeEIGHTeNINE"),
  (0x1AA0, "cSIGN WIANGdWIANGWAAKdSAWANdKEOWdHOYdDOKMAIdREVERSED ROTATED RANAdMAI YAMOKdKAAN"),
  (0x1AA9, "dKAANKUUdSATKAANdSATKAANKUUdHANGdCAANG"),
  (0x1AB0, "aCOMBINING DOUBLED CIRCUMFLEX ACCENTbDIAERESIS-RINGbINFINITYbDOWNWARDS ARROW"),
  (0x1AB4, "bTRIPLE DOTbX-X BELOWbWIGGLY LINE BELOWbOPEN MARK BELOWbDOUBLE OPEN MARK BELOW"),
  (0x1AB9, "bLIGHT CENTRALIZATION STROKE BELOWbSTRONG CENTRALIZATION STROKE BELOW"),
  (0x1ABB, "bPARENTHESES ABOVEbDOUBLE PARENTHESES ABOVEbPARENTHESES BELOWcOVERLAY"),
  (0x1ABF, "bLATIN SMALL LETTER W BELOWeTURNED W BELOWbLEFT PARENTHESIS ABOVE LEFT"),
  (0x1AC2, "bRIGHT PARENTHESIS ABOVE RIGHTbLEFT PARENTHESIS BELOW LEFT"),
  (0x1AC4, "bRIGHT PARENTHESIS BELOW RIGHTbSQUARE BRACKETS ABOVEbNUMBER SIGN ABOVE"),
  (0x1AC7, "bINVERTED DOUBLE ARCH ABOVEbPLUS SIGN ABOVEbDOUBLE PLUS SIGN ABOVEeBELOW"),
  (0x1ACB, "bTRIPLE ACUTE ACCENTbLATIN SMALL LETTER INSULAR GfRfT"),
  (0x1B00, "aBALINESE SIGN ULU RICEMdCANDRAcCECEKcSURANGcBISAHbLETTER AKARAcAKARA TEDUNGcIKARA"),
  (0x1B08, "cIKARA TEDUNGcUKARAcUKARA TEDUNGcRA REPAdREPA TEDUNGcLA LENGAdLENGA TEDUNGcEKARA"),
  (0x1B10, "cAIKARAcOKARAcOKARA TEDUNGcKAcKA MAHAPRANAcGAcGA GORAcNGAcCAcCA LACAcJAcJA JERAcNYA"),
  (0x1B1D, "cTA LATIKdMURDA MAHAPRANAcDA MURDA ALPAPRANAeMAHAPRANAcNA RAMBATcTAcTA TAWAcDA"),
  (0x1B25, "cDA MADUcNAcPAcPA KAPALcBAcBA KEMBANGcMAcYAcRAcLAcWAcSA SAGAdSAPAcSAcHA"),
  (0x1B34, "bSIGN REREKANbVOWEL SIGN TEDUNGdULUdULU SARIdSUKUdSUKU ILUTdRA REPAeREPA TEDUNG"),
  (0x1B3C, "dLA LENGAeLENGA TEDUNGdTALINGdTALING REPAeTEDUNGeREPA TEDUNGdPEPETdPEPET TEDUNG"),
  (0x1B44, "bADEG ADEGbLETTER KAF SASAKcKHOT SASAKcTZIR SASAKcEF SASAKcVE SASAKcZAL SASAK"),
  (0x1B4B, "cASYURA SASAKcARCHAIC JNYA"),
  (0x1B50, "bDIGIT ZEROcONEcTWOcTHREEcFOURcFIVEcSIXcSEVENcEIGHTcNINEbPANTIbPAMADAbWINDU"),
  (0x1B5D, "bCARIK PAMUNGKAHcSIKIcPARERENbPAMENENGbMUSICAL SYMBOL DONGdDENGdDUNGdDANG"),
  (0x1B65, "dDANG SURANGdDINGdDAENGdDEUNGdDAINGdDANG GEDEdCOMBINING TEGEHeENDEPeKEMPULeKEMPLI"),
  (0x1B6F, "eJEGOGANeKEMPUL WITH JEGOGANeKEMPLI WITH JEGOGANeBENDEeGONGdRIGHT-HAND OPEN DUGgDAG"),
  (0x1B76, "fCLOSED TUKgTAKdLEFT-HAND OPEN PANGgPUNGfCLOSED PLAKgPLUKfOPEN PINGbPANTI LANTANG"),
  (0x1B7E, "bPAMADA LANTANG"),
  (0x1B80, "aSUNDANESE SIGN PANYECEKcPANGLAYARcPANGWISADbLETTER AcIcUcAEcOcEcEUcKAcQAcGAcNGAcCA"),
  (0x1B8F, "cJAcZAcNYAcTAcDAcNAcPAcFAcVAcBAcMAcYAcRAcLAcWAcSAcXAcHAbCONSONANT SIGN PAMINGKAL"),
  (0x1BA2, "dPANYAKRAdPANYIKUbVOWEL SIGN PANGHULUdPANYUKUdPANAELAENGdPANOLONGdPAMEPET"),
  (0x1BA9, "dPANEULEUNGbSIGN PAMAAEHcVIRAMAbCONSONANT SIGN PASANGAN MAeWAbLETTER KHAcSYA"),
  (0x1BB0, "bDIGIT ZEROcONEcTWOcTHREEcFOURcFIVEcSIXcSEVENcEIGHTcNINEbAVAGRAHAbLETTER REUcLEU"),
  (0x1BBD, "cBHAcFINAL KdMaBATAK LETTER AcSIMALUNGUN AcHAcSIMALUNGUN HAcMANDAILING HAcBA"),
  (0x1BC6, "cKARO BAcPAcSIMALUNGUN PAcNAcMANDAILING NAcWAcSIMALUNGUN WAcPAKPAK WAcGA"),
  (0x1BCF, "cSIMALUNGUN GAcJAcDAcRAcSIMALUNGUN RAcMAcSIMALUNGUN MAcSOUTHERN TAcNORTHERN TAcSA"),
  (0x1BD9, "cSIMALUNGUN SAcMANDAILING SAcYAcSIMALUNGUN YAcNGAcLAcSIMALUNGUN LAcNYAcCAcNDAcMBAcI"),
  (0x1BE5, "cUbSIGN TOMPIbVOWEL SIGN EdPAKPAK EdEEdIdKARO IdOdKARO OdUdU FOR SIMALUNGUN SA"),
  (0x1BF0, "bCONSONANT SIGN NGdHbPANGOLATbPANONGONAN"),
  (0x1BFC, "bSYMBOL BINDU NA METEKdPINARBORASdJUDULdPANGOLATaLEPCHA LETTER KAcKLAcKHAcGAcGLA"),
  (0x1C05, "cNGAcCAcCHAcJAcNYAcTAcTHAcDAcNAcPAcPLAcPHAcFAcFLAcBAcBLAcMAcMLAcTSAcTSHAcDZAcYAcRA"),
  (0x1C1C, "cLAcHAcHLAcVAcSAcSHAcWAcAbSUBJOINED LETTER YAdRAbVOWEL SIGN AAdIdOdOOdUdUUdE"),
  (0x1C2D, "bCONSONANT SIGN KdMdLdNdPdRdTdNYIN-DOdKANGbSIGN RANcNUKTA"),
  (0x1C3B, "bPUNCTUATION TA-ROLcNYET THYOOM TA-ROLcCER-WAcTSHOOK CER-WAcTSHOOKbDIGIT ZEROcONE"),
  (0x1C42, "cTWOcTHREEcFOURcFIVEcSIXcSEVENcEIGHTcNINE"),
  (0x1C4D, "bLETTER TTAcTTHAcDDAaOL CHIKI DIGIT ZEROdONEdTWOdTHREEdFOURdFIVEdSIXdSEVENdEIGHT"),
  (0x1C59, "dNINEcLETTER LAdATdAGdANGdALdLAAdAAKdAAJdAAMdAAWdLIdISdIHdINYdIRdLUdUCdUDdUNNdUYdLE"),
  (0x1C6F, "dEPdEDDdENdERRdLOdOTTdOBdOVdOHcMU TTUDDAGcGAAHLAA TTUDDAAGcMU-GAAHLAA TTUDDAAG"),
  (0x1C7B, "cRELAAcPHAARKAAcAHADcPUNCTUATION MUCAADdDOUBLE MUCAAD"),
  (0x1C80, "aCYRILLIC SMALL LETTER ROUNDED VEdLONG-LEGGED DEdNARROW OdWIDE ESdTALL TE"),
  (0x1C85, "dTHREE-LEGGED TEdTALL HARD SIGNeYATdUNBLENDED UK"),
  (0x1C90, "aGEORGIAN MTAVRULI CAPITAL LETTER ANeBANeGANeDONeENeVINeZENeTANeINeKANeLASeMANeNAR"),
  (0x1C9D, "eONePAReZHAReRAEeSANeTAReUNePHAReKHAReGHANeQAReSHINeCHINeCANeJILeCILeCHAReXANeJHAN"),
  (0x1CB0, "eHAEeHEeHIEeWEeHAReHOEeFIeYNeELIFIeTURNED GANeAIN"),
  (0x1CBD, "eAENeHARD SIGNeLABIAL SIGNaSUNDANESE PUNCTUATION BINDU SURYAdPANGLONGdPURNAMAdCAKRA"),
  (0x1CC4, "dLEU SATANGAdKA SATANGAdDA SATANGAdBA SATANGA"),
  (0x1CD0, "aVEDIC TONE KARSHANAcSHARAcPRENKHAbSIGN NIHSHVASAcYAJURVEDIC MIDLINE SVARITA"),
  (0x1CD5, "bTONE YAJURVEDIC AGGRAVATED INDEPENDENT SVARITAdINDEPENDENT SVARITA"),
  (0x1CD7, "dKATHAKA INDEPENDENT SVARITAcCANDRA BELOW"),
  (0x1CD9, "cYAJURVEDIC KATHAKA INDEPENDENT SVARITA SCHROEDERcDOUBLE SVARITAcTRIPLE SVARITA"),
  (0x1CDC, "cKATHAKA ANUDATTAcDOT BELOWcTWO DOTS BELOWcTHREE DOTS BELOW"),
  (0x1CE0, "cRIGVEDIC KASHMIRI INDEPENDENT SVARITAcATHARVAVEDIC INDEPENDENT SVARITA"),
  (0x1CE2, "bSIGN VISARGA SVARITAdUDATTAcREVERSED VISARGA UDATTAcVISARGA ANUDATTA"),
  (0x1CE6, "cREVERSED VISARGA ANUDATTAcVISARGA UDATTA WITH TAILdANUDATTA WITH TAIL"),
  (0x1CE9, "cANUSVARA ANTARGOMUKHAdBAHIRGOMUKHAdVAMAGOMUKHAdVAMAGOMUKHA WITH TAILcTIRYAK"),
  (0x1CEE, "cHEXIFORM LONG ANUSVARAcLONG ANUSVARAcRTHANG LONG ANUSVARAcANUSVARA UBHAYATO MUKHA"),
  (0x1CF2, "cARDHAVISARGAcROTATED ARDHAVISARGAbTONE CANDRA ABOVEbSIGN JIHVAMULIYAcUPADHMANIYA"),
  (0x1CF7, "cATIKRAMAbTONE RING ABOVEcDOUBLE RING ABOVEbSIGN DOUBLE ANUSVARA ANTARGOMUKHA"),
  (0x1D00, "aLATIN LETTER SMALL CAPITAL AeAEbSMALL LETTER TURNED AE"),
  (0x1D03, "bLETTER SMALL CAPITAL BARRED BeCeDeETHeEbSMALL LETTER TURNED OPEN EeI"),
  (0x1D0A, "bLETTER SMALL CAPITAL JeKeL WITH STROKEeMeREVERSED NeOeOPEN O"),
  (0x1D11, "bSMALL LETTER SIDEWAYS OeOPEN OeO WITH STROKEdTURNED OEbLETTER SMALL CAPITAL OU"),
  (0x1D16, "bSMALL LETTER TOP HALF OdBOTTOM HALF ObLETTER SMALL CAPITAL PeREVERSED ReTURNED ReT"),
  (0x1D1C, "eUbSMALL LETTER SIDEWAYS UeDIAERESIZED UeTURNED MbLETTER SMALL CAPITAL VeWeZeEZH"),
  (0x1D24, "cVOICED LARYNGEAL SPIRANTcAINaGREEK LETTER SMALL CAPITAL GAMMAeLAMDAePIeRHOePSI"),
  (0x1D2B, "aCYRILLIC LETTER SMALL CAPITAL ELaMODIFIER LETTER CAPITAL AdAEdBdBARRED BdDdE"),
  (0x1D32, "dREVERSED EdGdHdIdJdKdLdMdNdREVERSED NdOdOUdPdRdTdUdWcSMALL AdTURNED AdALPHA"),
  (0x1D46, "dTURNED AEdBdDdEdSCHWAdOPEN EdTURNED OPEN EdGdTURNED IdKdMdENGdOdOPEN OdTOP HALF O"),
  (0x1D55, "dBOTTOM HALF OdPdTdUdSIDEWAYS UdTURNED MdVdAINdBETAdGREEK GAMMAdDELTAdGREEK PHIdCHI"),
  (0x1D62, "aLATIN SUBSCRIPT SMALL LETTER IeReUeVaGREEK SUBSCRIPT SMALL LETTER BETAeGAMMAeRHO"),
  (0x1D69, "ePHIeCHIaLATIN SMALL LETTER UEdB WITH MIDDLE TILDEdD WITH MIDDLE TILDE"),
  (0x1D6E, "dF WITH MIDDLE TILDEdM WITH MIDDLE TILDEdN WITH MIDDLE TILDEdP WITH MIDDLE TILDE"),
  (0x1D72, "dR WITH MIDDLE TILDEfFISHHOOK AND MIDDLE TILDEdS WITH MIDDLE TILDE"),
  (0x1D75, "dT WITH MIDDLE TILDEdZ WITH MIDDLE TILDEdTURNED GaMODIFIER LETTER CYRILLIC EN"),
  (0x1D79, "aLATIN SMALL LETTER INSULAR GdTH WITH STRIKETHROUGHcCAPITAL LETTER I WITH STROKE"),
  (0x1D7C, "cLETTER IOTA WITH STROKEdP WITH STROKEcCAPITAL LETTER U WITH STROKE"),
  (0x1D7F, "cLETTER UPSILON WITH STROKEdB WITH PALATAL HOOKdD WITH PALATAL HOOK"),
  (0x1D82, "dF WITH PALATAL HOOKdG WITH PALATAL HOOKdK WITH PALATAL HOOKdL WITH PALATAL HOOK"),
  (0x1D86, "dM WITH PALATAL HOOKdN WITH PALATAL HOOKdP WITH PALATAL HOOKdR WITH PALATAL HOOK"),
  (0x1D8A, "dS WITH PALATAL HOOKdESH WITH PALATAL HOOKdV WITH PALATAL HOOKdX WITH PALATAL HOOK"),
  (0x1D8E, "dZ WITH PALATAL HOOKdA WITH RETROFLEX HOOKdALPHA WITH RETROFLEX HOOK"),
  (0x1D91, "dD WITH HOOK AND TAILdE WITH RETROFLEX HOOKdOPEN E WITH RETROFLEX HOOK"),
  (0x1D94, "dREVERSED OPEN E WITH RETROFLEX HOOKdSCHWA WITH RETROFLEX HOOK"),
  (0x1D96, "dI WITH RETROFLEX HOOKdOPEN O WITH RETROFLEX HOOKdESH WITH RETROFLEX HOOK"),
  (0x1D99, "dU WITH RETROFLEX HOOKdEZH WITH RETROFLEX HOOKaMODIFIER LETTER SMALL TURNED ALPHAdC"),
  (0x1D9D, "dC WITH CURLdETHdREVERSED OPEN EdFdDOTLESS J WITH STROKEdSCRIPT GdTURNED H"),
  (0x1DA4, "dI WITH STROKEdIOTAdCAPITAL IeI WITH STROKEdJ WITH CROSSED-TAIL"),
  (0x1DA9, "dL WITH RETROFLEX HOOKfPALATAL HOOKdCAPITAL LdM WITH HOOKdTURNED M WITH LONG LEG"),
  (0x1DAE, "dN WITH LEFT HOOKfRETROFLEX HOOKdCAPITAL NdBARRED OdPHIdS WITH HOOKdESH"),
  (0x1DB5, "dT WITH PALATAL HOOKdU BARdUPSILONdCAPITAL UdV WITH HOOKdTURNED VdZ"),
  (0x1DBC, "dZ WITH RETROFLEX HOOKfCURLdEZHdTHETAaCOMBINING DOTTED GRAVE ACCENTcACUTE ACCENT"),
  (0x1DC2, "bSNAKE BELOWbSUSPENSION MARKbMACRON-ACUTEbGRAVE-MACRONbMACRON-GRAVEbACUTE-MACRON"),
  (0x1DC8, "bGRAVE-ACUTE-GRAVEbACUTE-GRAVE-ACUTEbLATIN SMALL LETTER R BELOWbBREVE-MACRON"),
  (0x1DCC, "bMACRON-BREVEbDOUBLE CIRCUMFLEX ABOVEbOGONEK ABOVEbZIGZAG BELOWbIS BELOWbUR ABOVE"),
  (0x1DD2, "bUS ABOVEbLATIN SMALL LETTER FLATTENED OPEN A ABOVEeAEeAOeAVeC CEDILLAeINSULAR D"),
  (0x1DD9, "eETHeGcLETTER SMALL CAPITAL GcSMALL LETTER KeLcLETTER SMALL CAPITAL LfM"),
  (0x1DE0, "cSMALL LETTER NcLETTER SMALL CAPITAL NfRcSMALL LETTER R ROTUNDAeSeLONG SeZeALPHAeB"),
  (0x1DE9, "eBETAeSCHWAeFeL WITH DOUBLE MIDDLE TILDEeO WITH LIGHT CENTRALIZATION STROKEePeESH"),
  (0x1DF0, "eU WITH LIGHT CENTRALIZATION STROKEeWeA WITH DIAERESISeO WITH DIAERESIS"),
  (0x1DF4, "eU WITH DIAERESISbUP TACK ABOVEbKAVYKA ABOVE RIGHTdLEFTbDOT ABOVE LEFT"),
  (0x1DF9, "bWIDE INVERTED BRIDGE BELOWbDOT BELOW LEFTbDELETION MARK"),
  (0x1DFC, "bDOUBLE INVERTED BREVE BELOWbALMOST EQUAL TO BELOWbLEFT ARROWHEAD ABOVE"),
  (0x1DFF, "bRIGHT ARROWHEAD AND DOWN ARROWHEAD BELOWaLATIN CAPITAL LETTER A WITH RING BELOW"),
  (0x1E01, "bSMALL LETTER A WITH RING BELOWbCAPITAL LETTER B WITH DOT ABOVE"),
  (0x1E03, "bSMALL LETTER B WITH DOT ABOVEbCAPITAL LETTER B WITH DOT BELOW"),
  (0x1E05, "bSMALL LETTER B WITH DOT BELOWbCAPITAL LETTER B WITH LINE BELOW"),
  (0x1E07, "bSMALL LETTER B WITH LINE BELOWbCAPITAL LETTER C WITH CEDILLA AND ACUTE"),
  (0x1E09, "bSMALL LETTER C WITH CEDILLA AND ACUTEbCAPITAL LETTER D WITH DOT ABOVE"),
  (0x1E0B, "bSMALL LETTER D WITH DOT ABOVEbCAPITAL LETTER D WITH DOT BELOW"),
  (0x1E0D, "bSMALL LETTER D WITH DOT BELOWbCAPITAL LETTER D WITH LINE BELOW"),
  (0x1E0F, "bSMALL LETTER D WITH LINE BELOWbCAPITAL LETTER D WITH CEDILLA"),
  (0x1E11, "bSMALL LETTER D WITH CEDILLAbCAPITAL LETTER D WITH CIRCUMFLEX BELOW"),
  (0x1E13, "bSMALL LETTER D WITH CIRCUMFLEX BELOWbCAPITAL LETTER E WITH MACRON AND GRAVE"),
  (0x1E15, "bSMALL LETTER E WITH MACRON AND GRAVEbCAPITAL LETTER E WITH MACRON AND ACUTE"),
  (0x1E17, "bSMALL LETTER E WITH MACRON AND ACUTEbCAPITAL LETTER E WITH CIRCUMFLEX BELOW"),
  (0x1E19, "bSMALL LETTER E WITH CIRCUMFLEX BELOWbCAPITAL LETTER E WITH TILDE BELOW"),
  (0x1E1B, "bSMALL LETTER E WITH TILDE BELOWbCAPITAL LETTER E WITH CEDILLA AND BREVE"),
  (0x1E1D, "bSMALL LETTER E WITH CEDILLA AND BREVEbCAPITAL LETTER F WITH DOT ABOVE"),
  (0x1E1F, "bSMALL LETTER F WITH DOT ABOVEbCAPITAL LETTER G WITH MACRON"),
  (0x1E21, "bSMALL LETTER G WITH MACRONbCAPITAL LETTER H WITH DOT ABOVE"),
  (0x1E23, "bSMALL LETTER H WITH DOT ABOVEbCAPITAL LETTER H WITH DOT BELOW"),
  (0x1E25, "bSMALL LETTER H WITH DOT BELOWbCAPITAL LETTER H WITH DIAERESIS"),
  (0x1E27, "bSMALL LETTER H WITH DIAERESISbCAPITAL LETTER H WITH CEDILLA"),
  (0x1E29, "bSMALL LETTER H WITH CEDILLAbCAPITAL LETTER H WITH BREVE BELOW"),
  (0x1E2B, "bSMALL LETTER H WITH BREVE BELOWbCAPITAL LETTER I WITH TILDE BELOW"),
  (0x1E2D, "bSMALL LETTER I WITH TILDE BELOWbCAPITAL LETTER I WITH DIAERESIS AND ACUTE"),
  (0x1E2F, "bSMALL LETTER I WITH DIAERESIS AND ACUTEbCAPITAL LETTER K WITH ACUTE"),
  (0x1E31, "bSMALL LETTER K WITH ACUTEbCAPITAL LETTER K WITH DOT BELOW"),
  (0x1E33, "bSMALL LETTER K WITH DOT BELOWbCAPITAL LETTER K WITH LINE BELOW"),
  (0x1E35, "bSMALL LETTER K WITH LINE BELOWbCAPITAL LETTER L WITH DOT BELOW"),
  (0x1E37, "bSMALL LETTER L WITH DOT BELOWbCAPITAL LETTER L WITH DOT BELOW AND MACRON"),
  (0x1E39, "bSMALL LETTER L WITH DOT BELOW AND MACRONbCAPITAL LETTER L WITH LINE BELOW"),
  (0x1E3B, "bSMALL LETTER L WITH LINE BELOWbCAPITAL LETTER L WITH CIRCUMFLEX BELOW"),
  (0x1E3D, "bSMALL LETTER L WITH CIRCUMFLEX BELOWbCAPITAL LETTER M WITH ACUTE"),
  (0x1E3F, "bSMALL LETTER M WITH ACUTEbCAPITAL LETTER M WITH DOT ABOVE"),
  (0x1E41, "bSMALL LETTER M WITH DOT ABOVEbCAPITAL LETTER M WITH DOT BELOW"),
  (0x1E43, "bSMALL LETTER M WITH DOT BELOWbCAPITAL LETTER N WITH DOT ABOVE"),
  (0x1E45, "bSMALL LETTER N WITH DOT ABOVEbCAPITAL LETTER N WITH DOT BELOW"),
  (0x1E47, "bSMALL LETTER N WITH DOT BELOWbCAPITAL LETTER N WITH LINE BELOW"),
  (0x1E49, "bSMALL LETTER N WITH LINE BELOWbCAPITAL LETTER N WITH CIRCUMFLEX BELOW"),
  (0x1E4B, "bSMALL LETTER N WITH CIRCUMFLEX BELOWbCAPITAL LETTER O WITH TILDE AND ACUTE"),
  (0x1E4D, "bSMALL LETTER O WITH TILDE AND ACUTEbCAPITAL LETTER O WITH TILDE AND DIAERESIS"),
  (0x1E4F, "bSMALL LETTER O WITH TILDE AND DIAERESISbCAPITAL LETTER O WITH MACRON AND GRAVE"),
  (0x1E51, "bSMALL LETTER O WITH MACRON AND GRAVEbCAPITAL LETTER O WITH MACRON AND ACUTE"),
  (0x1E53, "bSMALL LETTER O WITH MACRON AND ACUTEbCAPITAL LETTER P WITH ACUTE"),
  (0x1E55, "bSMALL LETTER P WITH ACUTEbCAPITAL LETTER P WITH DOT ABOVE"),
  (0x1E57, "bSMALL LETTER P WITH DOT ABOVEbCAPITAL LETTER R WITH DOT ABOVE"),
  (0x1E59, "bSMALL LETTER R WITH DOT ABOVEbCAPITAL LETTER R WITH DOT BELOW"),
  (0x1E5B, "bSMALL LETTER R WITH DOT BELOWbCAPITAL LETTER R WITH DOT BELOW AND MACRON"),
  (0x1E5D, "bSMALL LETTER R WITH DOT BELOW AND MACRONbCAPITAL LETTER R WITH LINE BELOW"),
  (0x1E5F, "bSMALL LETTER R WITH LINE BELOWbCAPITAL LETTER S WITH DOT ABOVE"),
  (0x1E61, "bSMALL LETTER S WITH DOT ABOVEbCAPITAL LETTER S WITH DOT BELOW"),
  (0x1E63, "bSMALL LETTER S WITH DOT BELOWbCAPITAL LETTER S WITH ACUTE AND DOT ABOVE"),
  (0x1E65, "bSMALL LETTER S WITH ACUTE AND DOT ABOVEbCAPITAL LETTER S WITH CARON AND DOT ABOVE"),
  (0x1E67, "bSMALL LETTER S WITH CARON AND DOT ABOVE"),
  (0x1E68, "bCAPITAL LETTER S WITH DOT BELOW AND DOT ABOVE"),
  (0x1E69, "bSMALL LETTER S WITH DOT BELOW AND DOT ABOVEbCAPITAL LETTER T WITH DOT ABOVE"),
  (0x1E6B, "bSMALL LETTER T WITH DOT ABOVEbCAPITAL LETTER T WITH DOT BELOW"),
  (0x1E6D, "bSMALL LETTER T WITH DOT BELOWbCAPITAL LETTER T WITH LINE BELOW"),
  (0x1E6F, "bSMALL LETTER T WITH LINE BELOWbCAPITAL LETTER T WITH CIRCUMFLEX BELOW"),
  (0x1E71, "bSMALL LETTER T WITH CIRCUMFLEX BELOWbCAPITAL LETTER U WITH DIAERESIS BELOW"),
  (0x1E73, "bSMALL LETTER U WITH DIAERESIS BELOWbCAPITAL LETTER U WITH TILDE BELOW"),
  (0x1E75, "bSMALL LETTER U WITH TILDE BELOWbCAPITAL LETTER U WITH CIRCUMFLEX BELOW"),
  (0x1E77, "bSMALL LETTER U WITH CIRCUMFLEX BELOWbCAPITAL LETTER U WITH TILDE AND ACUTE"),
  (0x1E79, "bSMALL LETTER U WITH TILDE AND ACUTEbCAPITAL LETTER U WITH MACRON AND DIAERESIS"),
  (0x1E7B, "bSMALL LETTER U WITH MACRON AND DIAERESISbCAPITAL LETTER V WITH TILDE"),
  (0x1E7D, "bSMALL LETTER V WITH TILDEbCAPITAL LETTER V WITH DOT BELOW"),
  (0x1E7F, "bSMALL LETTER V WITH DOT BELOWbCAPITAL LETTER W WITH GRAVE"),
  (0x1E81, "bSMALL LETTER W WITH GRAVEbCAPITAL LETTER W WITH ACUTEbSMALL LETTER W WITH ACUTE"),
  (0x1E84, "bCAPITAL LETTER W WITH DIAERESISbSMALL LETTER W WITH DIAERESIS"),
  (0x1E86, "bCAPITAL LETTER W WITH DOT ABOVEbSMALL LETTER W WITH DOT ABOVE"),
  (0x1E88, "bCAPITAL LETTER W WITH DOT BELOWbSMALL LETTER W WITH DOT BELOW"),
  (0x1E8A, "bCAPITAL LETTER X WITH DOT ABOVEbSMALL LETTER X WITH DOT ABOVE"),
  (0x1E8C, "bCAPITAL LETTER X WITH DIAERESISbSMALL LETTER X WITH DIAERESIS"),
  (0x1E8E, "bCAPITAL LETTER Y WITH DOT ABOVEbSMALL LETTER Y WITH DOT ABOVE"),
  (0x1E90, "bCAPITAL LETTER Z WITH CIRCUMFLEXbSMALL LETTER Z WITH CIRCUMFLEX"),
  (0x1E92, "bCAPITAL LETTER Z WITH DOT BELOWbSMALL LETTER Z WITH DOT BELOW"),
  (0x1E94, "bCAPITAL LETTER Z WITH LINE BELOWbSMALL LETTER Z WITH LINE BELOWdH WITH LINE BELOW"),
  (0x1E97, "dT WITH DIAERESISdW WITH RING ABOVEdY WITH RING ABOVEdA WITH RIGHT HALF RING"),
  (0x1E9B, "dLONG S WITH DOT ABOVEgDIAGONAL STROKEgHIGH STROKEbCAPITAL LETTER SHARP S"),
  (0x1E9F, "bSMALL LETTER DELTAbCAPITAL LETTER A WITH DOT BELOWbSMALL LETTER A WITH DOT BELOW"),
  (0x1EA2, "bCAPITAL LETTER A WITH HOOK ABOVEbSMALL LETTER A WITH HOOK ABOVE"),
  (0x1EA4, "bCAPITAL LETTER A WITH CIRCUMFLEX AND ACUTE"),
  (0x1EA5, "bSMALL LETTER A WITH CIRCUMFLEX AND ACUTE"),
  (0x1EA6, "bCAPITAL LETTER A WITH CIRCUMFLEX AND GRAVE"),
  (0x1EA7, "bSMALL LETTER A WITH CIRCUMFLEX AND GRAVE"),
  (0x1EA8, "bCAPITAL LETTER A WITH CIRCUMFLEX AND HOOK ABOVE"),
  (0x1EA9, "bSMALL LETTER A WITH CIRCUMFLEX AND HOOK ABOVE"),
  (0x1EAA, "bCAPITAL LETTER A WITH CIRCUMFLEX AND TILDE"),
  (0x1EAB, "bSMALL LETTER A WITH CIRCUMFLEX AND TILDE"),
  (0x1EAC, "bCAPITAL LETTER A WITH CIRCUMFLEX AND DOT BELOW"),
  (0x1EAD, "bSMALL LETTER A WITH CIRCUMFLEX AND DOT BELOWbCAPITAL LETTER A WITH BREVE AND ACUTE"),
  (0x1EAF, "bSMALL LETTER A WITH BREVE AND ACUTEbCAPITAL LETTER A WITH BREVE AND GRAVE"),
  (0x1EB1, "bSMALL LETTER A WITH BREVE AND GRAVEbCAPITAL LETTER A WITH BREVE AND HOOK ABOVE"),
  (0x1EB3, "bSMALL LETTER A WITH BREVE AND HOOK ABOVEbCAPITAL LETTER A WITH BREVE AND TILDE"),
  (0x1EB5, "bSMALL LETTER A WITH BREVE AND TILDEbCAPITAL LETTER A WITH BREVE AND DOT BELOW"),
  (0x1EB7, "bSMALL LETTER A WITH BREVE AND DOT BELOWbCAPITAL LETTER E WITH DOT BELOW"),
  (0x1EB9, "bSMALL LETTER E WITH DOT BELOWbCAPITAL LETTER E WITH HOOK ABOVE"),
  (0x1EBB, "bSMALL LETTER E WITH HOOK ABOVEbCAPITAL LETTER E WITH TILDE"),
  (0x1EBD, "bSMALL LETTER E WITH TILDEbCAPITAL LETTER E WITH CIRCUMFLEX AND ACUTE"),
  (0x1EBF, "bSMALL LETTER E WITH CIRCUMFLEX AND ACUTE"),
  (0x1EC0, "bCAPITAL LETTER E WITH CIRCUMFLEX AND GRAVE"),
  (0x1EC1, "bSMALL LETTER E WITH CIRCUMFLEX AND GRAVE"),
  (0x1EC2, "bCAPITAL LETTER E WITH CIRCUMFLEX AND HOOK ABOVE"),
  (0x1EC3, "bSMALL LETTER E WITH CIRCUMFLEX AND HOOK ABOVE"),
  (0x1EC4, "bCAPITAL LETTER E WITH CIRCUMFLEX AND TILDE"),
  (0x1EC5, "bSMALL LETTER E WITH CIRCUMFLEX AND TILDE"),
  (0x1EC6, "bCAPITAL LETTER E WITH CIRCUMFLEX AND DOT BELOW"),
  (0x1EC7, "bSMALL LETTER E WITH CIRCUMFLEX AND DOT BELOWbCAPITAL LETTER I WITH HOOK ABOVE"),
  (0x1EC9, "bSMALL LETTER I WITH HOOK ABOVEbCAPITAL LETTER I WITH DOT BELOW"),
  (0x1ECB, "bSMALL LETTER I WITH DOT BELOWbCAPITAL LETTER O WITH DOT BELOW"),
  (0x1ECD, "bSMALL LETTER O WITH DOT BELOWbCAPITAL LETTER O WITH HOOK ABOVE"),
  (0x1ECF, "bSMALL LETTER O WITH HOOK ABOVEbCAPITAL LETTER O WITH CIRCUMFLEX AND ACUTE"),
  (0x1ED1, "bSMALL LETTER O WITH CIRCUMFLEX AND ACUTE"),
  (0x1ED2, "bCAPITAL LETTER O WITH CIRCUMFLEX AND GRAVE"),
  (0x1ED3, "bSMALL LETTER O WITH CIRCUMFLEX AND GRAVE"),
  (0x1ED4, "bCAPITAL LETTER O WITH CIRCUMFLEX AND HOOK ABOVE"),
  (0x1ED5, "bSMALL LETTER O WITH CIRCUMFLEX AND HOOK ABOVE"),
  (0x1ED6, "bCAPITAL LETTER O WITH CIRCUMFLEX AND TILDE"),
  (0x1ED7, "bSMALL LETTER O WITH CIRCUMFLEX AND TILDE"),
  (0x1ED8, "bCAPITAL LETTER O WITH CIRCUMFLEX AND DOT BELOW"),
  (0x1ED9, "bSMALL LETTER O WITH CIRCUMFLEX AND DOT BELOWbCAPITAL LETTER O WITH HORN AND ACUTE"),
  (0x1EDB, "bSMALL LETTER O WITH HORN AND ACUTEbCAPITAL LETTER O WITH HORN AND GRAVE"),
  (0x1EDD, "bSMALL LETTER O WITH HORN AND GRAVEbCAPITAL LETTER O WITH HORN AND HOOK ABOVE"),
  (0x1EDF, "bSMALL LETTER O WITH HORN AND HOOK ABOVEbCAPITAL LETTER O WITH HORN AND TILDE"),
  (0x1EE1, "bSMALL LETTER O WITH HORN AND TILDEbCAPITAL LETTER O WITH HORN AND DOT BELOW"),
  (0x1EE3, "bSMALL LETTER O WITH HORN AND DOT BELOWbCAPITAL LETTER U WITH DOT BELOW"),
  (0x1EE5, "bSMALL LETTER U WITH DOT BELOWbCAPITAL LETTER U WITH HOOK ABOVE"),
  (0x1EE7, "bSMALL LETTER U WITH HOOK ABOVEbCAPITAL LETTER U WITH HORN AND ACUTE"),
  (0x1EE9, "bSMALL LETTER U WITH HORN AND ACUTEbCAPITAL LETTER U WITH HORN AND GRAVE"),
  (0x1EEB, "bSMALL LETTER U WITH HORN AND GRAVEbCAPITAL LETTER U WITH HORN AND HOOK ABOVE"),
  (0x1EED, "bSMALL LETTER U WITH HORN AND HOOK ABOVEbCAPITAL LETTER U WITH HORN AND TILDE"),
  (0x1EEF, "bSMALL LETTER U WITH HORN AND TILDEbCAPITAL LETTER U WITH HORN AND DOT BELOW"),
  (0x1EF1, "bSMALL LETTER U WITH HORN AND DOT BELOWbCAPITAL LETTER Y WITH GRAVE"),
  (0x1EF3, "bSMALL LETTER Y WITH GRAVEbCAPITAL LETTER Y WITH DOT BELOW"),
  (0x1EF5, "bSMALL LETTER Y WITH DOT BELOWbCAPITAL LETTER Y WITH HOOK ABOVE"),
  (0x1EF7, "bSMALL LETTER Y WITH HOOK ABOVEbCAPITAL LETTER Y WITH TILDE"),
  (0x1EF9, "bSMALL LETTER Y WITH TILDEbCAPITAL LETTER MIDDLE-WELSH LL"),
  (0x1EFB, "bSMALL LETTER MIDDLE-WELSH LLbCAPITAL LETTER MIDDLE-WELSH V"),
  (0x1EFD, "bSMALL LETTER MIDDLE-WELSH VbCAPITAL LETTER Y WITH LOOPbSMALL LETTER Y WITH LOOP"),
  (0x1F00, "aGREEK SMALL LETTER ALPHA WITH PSILIfDASIAfPSILI AND VARIAfDASIA AND VARIA"),
  (0x1F04, "fPSILI AND OXIAfDASIA AND OXIAfPSILI AND PERISPOMENIfDASIA AND PERISPOMENI"),
  (0x1F08, "bCAPITAL LETTER ALPHA WITH PSILIfDASIAfPSILI AND VARIAfDASIA AND VARIA"),
  (0x1F0C, "fPSILI AND OXIAfDASIA AND OXIAfPSILI AND PERISPOMENIfDASIA AND PERISPOMENI"),
  (0x1F10, "bSMALL LETTER EPSILON WITH PSILIfDASIAfPSILI AND VARIAfDASIA AND VARIA"),
  (0x1F14, "fPSILI AND OXIAfDASIA AND OXIA"),
  (0x1F18, "bCAPITAL LETTER EPSILON WITH PSILIfDASIAfPSILI AND VARIAfDASIA AND VARIA"),
  (0x1F1C, "fPSILI AND OXIAfDASIA AND OXIA"),
  (0x1F20, "bSMALL LETTER ETA WITH PSILIfDASIAfPSILI AND VARIAfDASIA AND VARIAfPSILI AND OXIA"),
  (0x1F25, "fDASIA AND OXIAfPSILI AND PERISPOMENIfDASIA AND PERISPOMENI"),
  (0x1F28, "bCAPITAL LETTER ETA WITH PSILIfDASIAfPSILI AND VARIAfDASIA AND VARIAfPSILI AND OXIA"),
  (0x1F2D, "fDASIA AND OXIAfPSILI AND PERISPOMENIfDASIA AND PERISPOMENI"),
  (0x1F30, "bSMALL LETTER IOTA WITH PSILIfDASIAfPSILI AND VARIAfDASIA AND VARIAfPSILI AND OXIA"),
  (0x1F35, "fDASIA AND OXIAfPSILI AND PERISPOMENIfDASIA AND PERISPOMENI"),
  (0x1F38, "bCAPITAL LETTER IOTA WITH PSILIfDASIAfPSILI AND VARIAfDASIA AND VARIA"),
  (0x1F3C, "fPSILI AND OXIAfDASIA AND OXIAfPSILI AND PERISPOMENIfDASIA AND PERISPOMENI"),
  (0x1F40, "bSMALL LETTER OMICRON WITH PSILIfDASIAfPSILI AND VARIAfDASIA AND VARIA"),
  (0x1F44, "fPSILI AND OXIAfDASIA AND OXIA"),
  (0x1F48, "bCAPITAL LETTER OMICRON WITH PSILIfDASIAfPSILI AND VARIAfDASIA AND VARIA"),
  (0x1F4C, "fPSILI AND OXIAfDASIA AND OXIA"),
  (0x1F50, "bSMALL LETTER UPSILON WITH PSILIfDASIAfPSILI AND VARIAfDASIA AND VARIA"),
  (0x1F54, "fPSILI AND OXIAfDASIA AND OXIAfPSILI AND PERISPOMENIfDASIA AND PERISPOMENI"),
  (0x1F59, "bCAPITAL LETTER UPSILON WITH DASIA"), (0x1F5B, "fDASIA AND VARIA"), (0x1F5D, "hOXIA"),
  (0x1F5F, "hPERISPOMENIbSMALL LETTER OMEGA WITH PSILIfDASIAfPSILI AND VARIAfDASIA AND VARIA"),
  (0x1F64, "fPSILI AND OXIAfDASIA AND OXIAfPSILI AND PERISPOMENIfDASIA AND PERISPOMENI"),
  (0x1F68, "bCAPITAL LETTER OMEGA WITH PSILIfDASIAfPSILI AND VARIAfDASIA AND VARIA"),
  (0x1F6C, "fPSILI AND OXIAfDASIA AND OXIAfPSILI AND PERISPOMENIfDASIA AND PERISPOMENI"),
  (0x1F70, "bSMALL LETTER ALPHA WITH VARIAfOXIAdEPSILON WITH VARIAfOXIAdETA WITH VARIAfOXIA"),
  (0x1F76, "dIOTA WITH VARIAfOXIAdOMICRON WITH VARIAfOXIAdUPSILON WITH VARIAfOXIA"),
  (0x1F7C, "dOMEGA WITH VARIAfOXIA"),
  (0x1F80, "dALPHA WITH PSILI AND YPOGEGRAMMENIfDASIA AND YPOGEGRAMMENI"),
  (0x1F82, "fPSILI AND VARIA AND YPOGEGRAMMENIfDASIA AND VARIA AND YPOGEGRAMMENI"),
  (0x1F84, "fPSILI AND OXIA AND YPOGEGRAMMENIfDASIA AND OXIA AND YPOGEGRAMMENI"),
  (0x1F86, "fPSILI AND PERISPOMENI AND YPOGEGRAMMENIfDASIA AND PERISPOMENI AND YPOGEGRAMMENI"),
  (0x1F88, "bCAPITAL LETTER ALPHA WITH PSILI AND PROSGEGRAMMENIfDASIA AND PROSGEGRAMMENI"),
  (0x1F8A, "fPSILI AND VARIA AND PROSGEGRAMMENIfDASIA AND VARIA AND PROSGEGRAMMENI"),
  (0x1F8C, "fPSILI AND OXIA AND PROSGEGRAMMENIfDASIA AND OXIA AND PROSGEGRAMMENI"),
  (0x1F8E, "fPSILI AND PERISPOMENI AND PROSGEGRAMMENIfDASIA AND PERISPOMENI AND PROSGEGRAMMENI"),
  (0x1F90, "bSMALL LETTER ETA WITH PSILI AND YPOGEGRAMMENIfDASIA AND YPOGEGRAMMENI"),
  (0x1F92, "fPSILI AND VARIA AND YPOGEGRAMMENIfDASIA AND VARIA AND YPOGEGRAMMENI"),
  (0x1F94, "fPSILI AND OXIA AND YPOGEGRAMMENIfDASIA AND OXIA AND YPOGEGRAMMENI"),
  (0x1F96, "fPSILI AND PERISPOMENI AND YPOGEGRAMMENIfDASIA AND PERISPOMENI AND YPOGEGRAMMENI"),
  (0x1F98, "bCAPITAL LETTER ETA WITH PSILI AND PROSGEGRAMMENIfDASIA AND PROSGEGRAMMENI"),
  (0x1F9A, "fPSILI AND VARIA AND PROSGEGRAMMENIfDASIA AND VARIA AND PROSGEGRAMMENI"),
  (0x1F9C, "fPSILI AND OXIA AND PROSGEGRAMMENIfDASIA AND OXIA AND PROSGEGRAMMENI"),
  (0x1F9E, "fPSILI AND PERISPOMENI AND PROSGEGRAMMENIfDASIA AND PERISPOMENI AND PROSGEGRAMMENI"),
  (0x1FA0, "bSMALL LETTER OMEGA WITH PSILI AND YPOGEGRAMMENIfDASIA AND YPOGEGRAMMENI"),
  (0x1FA2, "fPSILI AND VARIA AND YPOGEGRAMMENIfDASIA AND VARIA AND YPOGEGRAMMENI"),
  (0x1FA4, "fPSILI AND OXIA AND YPOGEGRAMMENIfDASIA AND OXIA AND YPOGEGRAMMENI"),
  (0x1FA6, "fPSILI AND PERISPOMENI AND YPOGEGRAMMENIfDASIA AND PERISPOMENI AND YPOGEGRAMMENI"),
  (0x1FA8, "bCAPITAL LETTER OMEGA WITH PSILI AND PROSGEGRAMMENIfDASIA AND PROSGEGRAMMENI"),
  (0x1FAA, "fPSILI AND VARIA AND PROSGEGRAMMENIfDASIA AND VARIA AND PROSGEGRAMMENI"),
  (0x1FAC, "fPSILI AND OXIA AND PROSGEGRAMMENIfDASIA AND OXIA AND PROSGEGRAMMENI"),
  (0x1FAE, "fPSILI AND PERISPOMENI AND PROSGEGRAMMENIfDASIA AND PERISPOMENI AND PROSGEGRAMMENI"),
  (0x1FB0, "bSMALL LETTER ALPHA WITH VRACHYfMACRONfVARIA AND YPOGEGRAMMENIfYPOGEGRAMMENI"),
  (0x1FB4, "fOXIA AND YPOGEGRAMMENI"),
  (0x1FB6, "fPERISPOMENIfPERISPOMENI AND YPOGEGRAMMENIbCAPITAL LETTER ALPHA WITH VRACHYfMACRON"),
  (0x1FBA, "fVARIAfOXIAfPROSGEGRAMMENIbKORONISbPROSGEGRAMMENIbPSILIbPERISPOMENI"),
  (0x1FC1, "bDIALYTIKA AND PERISPOMENIbSMALL LETTER ETA WITH VARIA AND YPOGEGRAMMENI"),
  (0x1FC3, "fYPOGEGRAMMENIfOXIA AND YPOGEGRAMMENI"),
  (0x1FC6, "fPERISPOMENIfPERISPOMENI AND YPOGEGRAMMENIbCAPITAL LETTER EPSILON WITH VARIAfOXIA"),
  (0x1FCA, "dETA WITH VARIAfOXIAfPROSGEGRAMMENIbPSILI AND VARIAdOXIAdPERISPOMENI"),
  (0x1FD0, "bSMALL LETTER IOTA WITH VRACHYfMACRONfDIALYTIKA AND VARIAhOXIA"),
  (0x1FD6, "fPERISPOMENIfDIALYTIKA AND PERISPOMENIbCAPITAL LETTER IOTA WITH VRACHYfMACRONfVARIA"),
  (0x1FDB, "fOXIA"),
  (0x1FDD, "bDASIA AND VARIAdOXIAdPERISPOMENIbSMALL LETTER UPSILON WITH VRACHYfMACRON"),
  (0x1FE2, "fDIALYTIKA AND VARIAhOXIAdRHO WITH PSILIfDASIAdUPSILON WITH PERISPOMENI"),
  (0x1FE7, "fDIALYTIKA AND PERISPOMENIbCAPITAL LETTER UPSILON WITH VRACHYfMACRONfVARIAfOXIA"),
  (0x1FEC, "dRHO WITH DASIAbDIALYTIKA AND VARIAdOXIAbVARIA"),
  (0x1FF2, "bSMALL LETTER OMEGA WITH VARIA AND YPOGEGRAMMENIfYPOGEGRAMMENI"),
  (0x1FF4, "fOXIA AND YPOGEGRAMMENI"),
  (0x1FF6, "fPERISPOMENIfPERISPOMENI AND YPOGEGRAMMENIbCAPITAL LETTER OMICRON WITH VARIAfOXIA"),
  (0x1FFA, "dOMEGA WITH VARIAfOXIAfPROSGEGRAMMENIbOXIAbDASIA")]

end SurveyDesk.Unicode
