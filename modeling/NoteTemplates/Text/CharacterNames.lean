import NoteTemplates.Text.Basic

/-!
# Names of characters

Characters have names, which tell script, case, letter and marks. Those of syllables of Hangul
and of ideographs follow a rule; all others are in a table, in alphabetical order, other names
of the same characters among them. An entry of the table is written as the count of the
letters that it shares with the entry before it, and then the others. Small letters count: `a`
is nought and `z` is twenty-five, and all those of an entry are added up. Line ends do not
count.
-/

namespace NoteTemplates
namespace Text

/-- The table of names. -/
def nameRows : String := "
aABACUSbC CURRENTcCORDIONeUNT OFcKdNOWLEDGEcTIVATE ARABIC FORM SHAPINGjSYMMETRIC SWAPPINGcUTE ACCE
NThNGLEbDDRESSED TO THE SUBJECTcHESIVE BANDAGEcI SHAKTIcLAM ALIF LENGTHENERgCAPITAL LETTER ALIFvBA
wHEvCHIvDAALIwHAvEvFAvGAwBEvHAvIvJIIMvKAFwHAwPOvLAAMvMIIMvNHAwUNwYAvOvPEvQAAFvRAvSHAwINNYIIYHEvTUv
UvVAvWAWvYAwHEvZALhONSONANT MODIFIERgDIGIT EIGHTmFIVEnOURmNINEmONEmSEVENnIXmTHREEnWOmZEROgGEMINAT
E CONSONANT MODIFIERnION MARKgHAMZAgINITIAL EXCLAMATION MARKoQUESTION MARKgNASALIZATION MARKhUKTAg
SMALL LETTER ALIFtBAuHEtCHItDAALIuHAtEtFAtGAuBEtHAtItJIIMtKAFuHAuPOtLAAMtMIIMtNHAuUNuYAtOtPEtQAAFt
RAtSHAuINNYIIYHEtTUtUtVAtWAWtYAuHEtZALgVOWEL LENGTHENERcMETOSdISSION TICKETScULTbEGEAN CHECK MARKh
DRY MEASURE FIRST SUBUNIThLIQUID MEASURE FIRST SUBUNIThMEASURE SECOND SUBUNITpTHIRD SUBUNIThNUMBE
R EIGHTt HUNDREDuTHOUSANDtYu THOUSANDoFIFTYt THOUSANDqVEs HUNDREDtTHOUSANDpORTYt THOUSANDqURs HUND
REDtTHOUSANDoNINEs HUNDREDtTHOUSANDsTYu THOUSANDoONEr HUNDREDsTHOUSANDoSEVENt HUNDREDuTHOUSANDtTY
v THOUSANDpIXr HUNDREDsTHOUSANDrTYt THOUSANDoTENr THOUSANDpHIRTYu THOUSANDqREEt HUNDREDuTHOUSANDpW
ENTYu THOUSANDqOr HUNDREDsTHOUSANDhWEIGHT BASE UNIToFIRST SUBUNITpOURTH SUBUNIToSECOND SUBUNIToTHI
RD SUBUNITiORD SEPARATOR DOTwLINEcRIAL TRAMWAYbFGHANI SIGNbHOM CONSONANT SIGN MEDIAL LAzdIGATING R
AzcRAfDIGIT EIGHTlFIVEmOURlNINElONElSEVENmIXlTHREEmWOlZEROfLETTER AnLTERNATE BAwGAwTAmBAnHAmCAnHAm
DAnDAoHAnHAmGAnHAmHAmJAnHAmKAnHAmLAnLAmMAmNAnGAnNAnYAmPAnHAmRAmSAmTAnHAnTAoHAfNUMBER TENnWENTYfSIG
N KILLERkRULAIkSECTIONlMALL SECTIONgYMBOL VIfVOWEL SIGN ArArIrMrWqEqIrIqOqUrUbIRPLANEi ARRIVINGjDE
PARTUREbKTIESELSKABbLARM CLOCKcCHEMICAL SYMBOL FOR AIRxLEMBICyKALIzd-2yUMxMALGAMxNTIMONY ORExQUA R
EGIAzh-2zcVITAEzh-2zbFORTISxRSENICxSHESxURIPIGMENTwBATH OF MARYzfVAPOURSxISMUTH ORExLACK SULFURxOR
AXzc-2zd3xRICKwCADUCEUSyLXyPUT MORTUUMxINNABARxOPPER ANTIMONIATEzeORExROCUS OF COPPERzn-2zhIRONyUC
IBLEzf-2zg3zg4zg5wDAY-NIGHTxISSOLVEzf-2zaTILLwEARTHwFIREwGOLDxUMwHALF DRAMzcOUNCExORSE DUNGyURwIRO
N OREzf-2zb-COPPER OREwLEAD ORExODESTONEwMARCASITExERCURY SUBLIMATEzo-2zp3xONTHwNIGHTyTREwOILwPHIL
OSOPHERS SULFURxOT ASHESyWDERzdED BRICKxRECIPITATExURIFYyTREFACTIONwQUICK LIMEzaNTESSENCEwREALGARz
e-2yGULUSze OF ANTIMONYzq-2ziIRONze-2zf3zf4yTORTxOCK SALTzg-2wSAL-AMMONIACzaTzb OF ANTIMONYzfCOPPE
R ANTIMONIATExCEPTER OF JOVExILVERxOAPxPIRITxTARRED TRIDENTyRATUM SUPER STRATUMzs-2xUBLIMATE OF AN
TIMONYzkCOPPERzkSALT OF ANTIMONYzsCOPPERzfIONyLFURwTARTARzd-2xIN OREzaCTURExRIDENTxUTTYwURINEwVERD
IGRISxINEGARze OF ANTIMONYze-2zf3yTRIOLze-2wWATERyXcEF SYMBOLdMBICdRTcIEN MONSTERcL AROUND-PROFILE
eEQUAL TOcMdOST EQUAL OR EQUAL TOnTOp WITH CIRCUMFLEX ACCENTcTERNATE ONE-WAY LEFT WAY TRAFFICiIV
E KEY SYMBOLbMALGAMATION OR COPRODUCTcBULANCEcERICAN FOOTBALLcPERSANDdHORAbNATOLIAN HIEROGLYPH A00
1y2y3y4y5y6y7y8y9x10zaAy1y2y3y4y5y6y7y8y9x20y1y2y3y4y5y6zaAy7y8y9x30y1y2y3y4y5y6y7y8y9zaAx40y1zaAy
2y3y4y5zaAy6zaAzaBy7y8y9x50y1y2y3y4y5y6y7y8y9x60y1y2y3y4y5y6zaAzaBzaCy7y8y9x70y1y2y3y4y5y6y7y8y9x8
0y1y2y3y4y5y6y7y8y9x90y1y2y3y4y5y6y7zaAy8zaAy9w100zaAy1zaAy2zaAy3y4zaAzaBzaCy5zaAzaBy6y7zaAzaBzaCy
8y9x10zaAzaBy1y2y3y4y5zaAy6y7y8y9x20y1y2y3y4y5zaAy6y7y8y9x30y1y2y3y4y5zaAy6y7y8y9x40y1y2y3y4y5y6y7
y8y9x50y1y2y3y4y5y6y7y8y9x60y1y2y3y4y5y6y7y8y9x70y1y2y3y4y5y6y7y8y9x80y1y2y3y4y5y6y7y8y9x90y1y2y3y
4y5y6y7y8y9w200y1y2zaAzaBy3y4y5y6y7zaAy8y9zaAx10y1y2y3y4y5zaAy6zaAy7y8y9x20y1y2y3y4y5y6y7zaAy8y9x3
0y1y2y3y4y5y6y7y8y9x40y1y2y3y4y5y6y7y8y9x50y1y2y3y4y5y6y7y8y9x60y1y2y3y4y5y6y7zaAy8y9x70y1y2y3y4y5
y6y7y8y9x80y1y2y3y4y5y6y7y8y9zaAx90y1y2y3y4zaAy5y6y7y8y9zaAw300y1y2y3y4y5y6y7y8y9zaAx10y1y2y3y4y5y
6y7y8y9x20y1y2y3y4y5y6y7y8y9zaAx30y1y2AzaBzaCy3y4y5y6zaAzaBzaCy7y8y9x40y1y2y3y4y5y6y7y8y9x50y1y2y3
y4y5y6y7y8y9zaAx60y1y2y3y4zaAy5y6y7y8zaAy9x70y1zaAy2y3y4y5y6y7y8y9x80y1zaAy2y3 RA OR RIzaAy4y5y6za
Ay7y8y9x90y1y2y3 EIGHTy4y5y6y7y8y9w400y1y2y3y4y5y6y7y8y9x10 BEGIN LOGOGRAM MARKzaA END LOGOGRAM MA
RKy1y2y3y4y5y6y7y8y9x20y1y2y3y4y5y6y7y8y9x30y1y2y3y4y5y6y7y8y9x40y1y2y3y4y5y6y7y8y9x50zaAy1y2y3y4y
5y6y7zaAy8y9x60y1y2y3y4y5y6y7y8y9x70y1y2y3y4y5y6y7y8y9x80y1y2y3y4y5y6y7y8y9x90y1y2y3y4y5y6y7w501y2
y3y4y5y6y7y8y9x10y1y2y3y4y5y6y7y8y9x20y1y2y3y4y5y6y7y8y9x30fMICAL HEARTcCHORcD WITH DOTcGER SYMBOL
dLEf WITH S INSIDElUNDERBARdRY FACEdSTROM SIGNdUISHED FACEcKHcTdENNA WITH BARSdICLOCKWISE CLOSED C
IRCLE ARROWpONTOUR INTEGRALoDOWNWARDS AND UPWARDS OPEN CIRCLE ARROWSoGAPPED CIRCLE ARROWoINTEGRATI
ONoOPEN CIRCLE ARROWoTOP SEMICIRCLE ARROWpRIANGLE-HEADED BOTTOM U-SHAPED ARROWzfLEFT U-SHAPED ARRO
WzfOPEN CIRCLE ARROWzfRIGHT U-SHAPED ARROWzfTOP U-SHAPED ARROWbPCcL FUNCTIONAL SYMBOL ALPHAzc UNDE
RBARwBACKSLASH BARwCIRCLE BACKSLASHzeDIAERESISzeJOTzeSTARzgILEzeUNDERBARxOMMA BARwDEL DIAERESISzbS
TILEzbTILDEzaTA STILEzdUNDERBARxIAMOND UNDERBARxOWN CARET TILDEzcSHOE STILEzcTACK JOTzhUNDERBARzbW
ARDS VANEwEPSILON UNDERBARwGREATER-THAN DIAERESISwI-BEAMxOTAzb UNDERBARwJOT DIAERESISzbUNDERBARwLE
FT SHOE STILEzbWARDS VANEwOMEGAzc UNDERBARwQUADzb BACKSLASHzcCIRCLEzdOLONzcDELzfTAzdIAMONDzeVIDEzd
OWN CARETzgWARDS ARROWzcEQUALzcGREATER-THANzcJOTzcLEFTWARDS ARROWzeSS-THANzcNOT EQUALzcQUESTIONzcR
IGHTWARDS ARROWzcSLASHzcUP CARETzeWARDS ARROWyOTE QUADzdUNDERBARwRHOxIGHTWARDS VANEwSEMICOLON UNDE
RBARxLASH BARxQUISH QUADxTAR DIAERESISyILE TILDEwTILDE DIAERESISwUP CARET TILDEzaSHOE JOTzaTACK DI
AERESISzfJOTzfOVERBARyWARDS VANEwZILDEcOLLONdSTROPHEcPLICATION PROGRAM COMMANDdROACHES THE LIMITfX
IMATELY BUT NOT ACTUALLY EQUAL TOoEQUAL OR EQUAL TOuTOw OR THE IMAGE OFbQUARIUSbRABIC BASELINE ROU
ND DOThCOMMAiURLY DAMMAsTANnFATHAsTANnKASRAsTANhDAMMAm ISOLATED FORMnMEDIAL FORMnWITH DOTmTANp ISO
LATED FORMjTE SEPARATORiECIMAL SEPARATORiISPUTED END OF AYAHiOUBLE RIGHT ARROWHEAD ABOVEzk WITH DO
TnD MADDAhEMPTY CENTRE HIGH STOPuLOW STOPiND OF AYAHoTEXT MARKhFATHAm ISOLATED FORMnMEDIAL FORMnWI
TH DOT ABOVEsRINGsTWO DOTSmTANp ISOLATED FORMiIVE POINTED STARiOOTNOTE MARKERiULL STOPhHALF MADD
A OVER MADDAjMZA ABOVEnBELOWhINVERTED DAMMAhKASRAm ISOLATED FORMnMEDIAL FORMnWITH DOT BELOWmTANp I
SOLATED FORMhLARGE CIRCLE BELOWnROUND DOT ABOVExBELOWxINSIDE CIRCLE BELOWiEFT ARROWHEAD ABOVEwBELO
WjTTER AEpFRICAN FEHwNOONwQAFza WITH THREE DOTS ABOVEpINr FINAL FORMsINITIAL FORMtSOLATED FORMsMED
IAL FORMsWITH THREE DOTS ABOVEzjBELOWzjPOINTING DOWNWARDS ABOVEyWO DOTS ABOVEzhVERTICALLY ABOVEpLE
Fs FINAL FORMtISOLATED FORMtMAKSURAzb FINAL FORMzcISOLATED FORMtWASLAy FINAL FORMzaISOLATED FORMuI
TH ATTACHED BOTTOM RIGHT KASRAzzb AND DOT ABOVEzzgLEFT RINGziFATHAziKASRAziLEFT HAMZAznROUND DOTzi
RIGHT HAMZAzoROUND DOTzjOUND DOT ABOVEzsBELOWziTOP RIGHT FATHAzx AND DOT ABOVEzzdLEFT RINGyDOT ABO
VEyEXTENDED ARABIC-INDIC DIGIT THREE ABOVEzzdWO ABOVEyHAMZA ABOVEzk FINAL FORMzlISOLATED FORMzfBEL
OWzk FINAL FORMzlISOLATED FORMyLEFT MIDDLE STROKEyMADDA ABOVEzk FINAL FORMzlISOLATED FORMyRIGHT MI
DDLE STROKEzs AND DOT ABOVEzxLEFT RINGyWAVY HAMZA ABOVEzkBELOWoBEEHs FINAL FORMtINITIAL FORMuSOLAT
ED FORMtMEDIAL FORMqHr FINAL FORMsINITIAL FORMtSOLATED FORMsMEDIAL FORMsWITH DOT BELOW AND THREE D
OTS ABOVExHAMZA ABOVExINVERTED SMALL V BELOWxSMALL MEEM ABOVEzeVzf BELOWxTHREE DOTS HORIZONTALLY B
ELOWzjPOINTING UPWARDS BELOWzzg AND TWO DOTS ABOVEyWO DOTS BELOW AND DOT ABOVErEHt FINAL FORMuINIT
IAL FORMvSOLATED FORMuMEDIAL FORMoDADr FINAL FORMsINITIAL FORMtSOLATED FORMsMEDIAL FORMsWITH DOT B
ELOWqHALt FINAL FORMuISOLATED FORMqLr FINAL FORMsISOLATED FORMsWITH DOT BELOWzh AND SMALL TAHxFOU
R DOTS ABOVExINVERTED SMALL V BELOWzhVxRINGxTHREE DOTS ABOVE DOWNWARDSzjBELOWyWO DOTS VERTICALLY B
ELOW AND SMALL TAHpDAHALu FINAL FORMvISOLATED FORMrLs FINAL FORMtISOLATED FORMpOTLESS BEHwFEHwQAFp
ULr FINAL FORMsISOLATED FORMpYEHs FINAL FORMtINITIAL FORMuSOLATED FORMtMEDIAL FORMoEp FINAL FORMqI
NITIAL FORMrSOLATED FORMqMEDIAL FORMoFARSI YEHx FINAL FORMyINITIAL FORMzaSOLATED FORMyMEDIAL FORMy
WITH EXTENDED ARABIC-INDIC DIGIT FOUR BELOWzzhTHREE ABOVEzziWO ABOVEzeINVERTED VzeTHREE DOTS ABOVE
zfWO DOTS ABOVEpEHr FINAL FORMsINITIAL FORMtSOLATED FORMsMEDIAL FORMsWITH DOT BELOWzh AND THREE DO
TS ABOVEzcMOVED BELOWxTHREE DOTS BELOWzjPOINTING UPWARDS BELOWyWO DOTS BELOWoGAFr FINAL FORMsINITI
AL FORMtSOLATED FORMsMEDIAL FORMsWITH INVERTED STROKExRINGxTHREE DOTS ABOVEyWO DOTS BELOWpHAINt FI
NAL FORMuINITIAL FORMvSOLATED FORMuMEDIAL FORMuWITH DOT BELOWzaTHREE DOTS ABOVEpRAFpUEHs FINAL FOR
MtINITIAL FORMuSOLATED FORMtMEDIAL FORMoHAHr FINAL FORMsINITIAL FORMtSOLATED FORMsMEDIAL FORMsWIT
H EXTENDED ARABIC-INDIC DIGIT FOUR BELOWxHAMZA ABOVExINVERTED SMALL V BELOWxSMALL ARABIC LETTER TA
H ABOVEzxND TWO DOTSzwBELOWxTHREE DOTS ABOVEzjPOINTING UPWARDS BELOWyWO DOTS ABOVEzhVERTICAL ABOVE
qMZAt ISOLATED FORMpEHr DOACHASHMEEze FINAL FORMzfINITIAL FORMzgSOLATED FORMzfMEDIAL FORMsFINAL FO
RMsGOALw FINAL FORMxINITIAL FORMySOLATED FORMxMEDIAL FORMxWITH HAMZA ABOVEsINITIAL FORMtSOLATED FO
RMsMEDIAL FORMsWITH INVERTED VxYEH ABOVEzh FINAL FORMziISOLATED FORMpIGH HAMZAy ALEFzaWAWzaYEHoJEE
Ms FINAL FORMtINITIAL FORMuSOLATED FORMtMEDIAL FORMtWITH THREE DOTS ABOVEzkBELOWzaWO DOTS ABOVEqH
r FINAL FORMsISOLATED FORMoKAFr FINAL FORMsINITIAL FORMtSOLATED FORMsMEDIAL FORMsWITH DOT ABOVEzcB
ELOWxRINGxTHREE DOTS BELOWyWO DOTS ABOVEqSHMIRI YEHpEHEHt FINAL FORMuINITIAL FORMvSOLATED FORMuMED
IAL FORMuWITH DOT ABOVEzaSMALL VzaTHREE DOTS ABOVEzlBELOWzlPOINTING UPWARDS BELOWzbWO DOTS ABOVEzj
VERTICALLY BELOWpHAHs FINAL FORMtINITIAL FORMuSOLATED FORMtMEDIAL FORMpIRGHIZ OEy FINAL FORMzaISOL
ATED FORMwYUy FINAL FORMzaISOLATED FORMoLAMr FINAL FORMsINITIAL FORMtSOLATED FORMsMEDIAL FORMsWIT
H BARxDOT ABOVEzaUBLE BARxSMALL ARABIC LETTER TAH ABOVEzeVxTHREE DOTS ABOVEzjBELOWpOW ALEFoMARKpEE
Ms FINAL FORMtINITIAL FORMuSOLATED FORMtMEDIAL FORMtWITH DOT ABOVEzdBELOWyTHREE DOTS ABOVEoNGq FIN
AL FORMrINITIAL FORMsSOLATED FORMrMEDIAL FORMqOEHt FINAL FORMuINITIAL FORMvSOLATED FORMuMEDIAL FOR
MpOONs FINAL FORMtGHUNNAza FINAL FORMzbISOLATED FORMtINITIAL FORMuSOLATED FORMtMEDIAL FORMtWITH DO
T BELOWyINVERTED SMALL VyRINGySMALL TAHzfVyTHREE DOTS ABOVEzaWO DOTS BELOWpYEHs FINAL FORMtINITIA
L FORMuSOLATED FORMtMEDIAL FORMoOEq FINAL FORMrISOLATED FORMoPEHr FINAL FORMsINITIAL FORMtSOLATE
D FORMsMEDIAL FORMsWITH SMALL MEEM ABOVEzeVrEHt FINAL FORMuINITIAL FORMvSOLATED FORMuMEDIAL FORMoQ
AFr FINAL FORMsINITIAL FORMtSOLATED FORMsMEDIAL FORMsWITH DOT ABOVEzcBELOWzh AND NO DOTS ABOVExTHR
EE DOTS ABOVEoREHr FINAL FORMsISOLATED FORMsWITH DOT BELOWzh AND DOT ABOVExFOUR DOTS ABOVExHAMZA A
BOVExINVERTED VxLOOPxRINGxSMALL ARABIC LETTER TAH AND TWO DOTSzeNOON ABOVEzeVzf BELOWyTROKExTWO DO
TS ABOVEzhVERTICALLY ABOVEpNOONt FINAL FORMuINITIAL FORMvSOLATED FORMuMEDIAL FORMpOHINGYA YEHpREH
s FINAL FORMtISOLATED FORMoSADr FINAL FORMsINITIAL FORMtSOLATED FORMsMEDIAL FORMsWITH THREE DOTS A
BOVEzjBELOWyWO DOTS BELOWpEENs FINAL FORMtINITIAL FORMuSOLATED FORMtMEDIAL FORMtWITH DOT BELOW AN
D DOT ABOVEyEXTENDED ARABIC-INDIC DIGIT FOUR ABOVEyFOUR DOTS ABOVEyINVERTED VySMALL ARABIC LETTE
R TAH AND TWO DOTSyTHREE DOTS BELOWzp AND THREE DOTS ABOVEzaWO DOTS VERTICALLY ABOVEpHEENt FINAL F
ORMuINITIAL FORMvSOLATED FORMuMEDIAL FORMuWITH DOT BELOWpTRAIGHT WAWpUPERSCRIPT ALEFpWASH KAFoTAH
r FINAL FORMsINITIAL FORMtSOLATED FORMsMEDIAL FORMsWITH DOT BELOWxTHREE DOTS ABOVEzjBELOWyWO DOT
S ABOVEpCHEHt FINAL FORMuINITIAL FORMvSOLATED FORMuMEDIAL FORMuWITH DOT ABOVEzaSMALL VtEHv FINAL F
ORMwINITIAL FORMxSOLATED FORMwMEDIAL FORMpEHr FINAL FORMsINITIAL FORMtSOLATED FORMsMARBUTAza FINA
L FORMzbGOALzbISOLATED FORMtEDIAL FORMsWITH RINGxSMALL TEH ABOVEzeVxTHREE DOTS ABOVE DOWNWARDSrEH
t FINAL FORMuINITIAL FORMvSOLATED FORMuMEDIAL FORMpHALs FINAL FORMtISOLATED FORMqEHs FINAL FORMtIN
ITIAL FORMuSOLATED FORMtMEDIAL FORMqIN YEHpTEHs FINAL FORMtINITIAL FORMuSOLATED FORMtMEDIAL FORMtW
ITH SMALL VsEHu FINAL FORMvINITIAL FORMwSOLATED FORMvMEDIAL FORMoUp FINAL FORMqISOLATED FORMqWIT
H HAMZA ABOVEzh ISOLATED FORMpIGHUR KAZAKH KIRGHIZ ALEF MAKSURA INITIAL FORMzyMEDIAL FORMoVEq FINA
L FORMrISOLATED FORMqHr FINAL FORMsINITIAL FORMtSOLATED FORMsMEDIAL FORMoWAWr FINAL FORMsISOLATE
D FORMsWITH DOT ABOVEzcWITHINxEXTENDED ARABIC-INDIC DIGIT THREE ABOVEzzcWO ABOVExHAMZA ABOVEzj FIN
AL FORMzkISOLATED FORMxRINGxTWO DOTS ABOVEoYEHr BARREEy FINAL FORMzaISOLATED FORMzaWITH EXTENDED A
RABIC-INDIC DIGIT THREE ABOVEzzjWO ABOVEzfHAMZA ABOVEzq FINAL FORMzrISOLATED FORMsFINAL FORMsINITI
AL FORMtSOLATED FORMsMEDIAL FORMsWITH HAMZA ABOVEzj FINAL FORMzkINITIAL FORMzlSOLATED FORMzkMEDIA
L FORMxSMALL VxTAILyHREE DOTS BELOWyWO DOTS BELOW AND DOT ABOVEzrHAMZA ABOVEzrSMALL NOON ABOVEpU
q FINAL FORMrISOLATED FORMoZAHr FINAL FORMsINITIAL FORMtSOLATED FORMsMEDIAL FORMqINs FINAL FORMtIS
OLATED FORMtWITH INVERTED V ABOVEiIGATURE AIN WITH ALEF MAKSURA FINAL FORMznISOLATED FORMzaJEEM IN
ITIAL FORMzgSOLATED FORMzfWITH MEEM FINAL FORMzpINITIAL FORMzaMEEM INITIAL FORMzgSOLATED FORMzfWIT
H ALEF MAKSURA FINAL FORMzkMEEM FINAL FORMzpINITIAL FORMzkYEH FINAL FORMzaYEH FINAL FORMzeISOLATE
D FORMrKBAR ISOLATED FORMrLAYHAA AS-SALAAMvE ISOLATED FORMvI AS-SALAAMzgTU WAS-SALAAMwM AS-SALAAMx
AA AS-SALAAMsEF MAKSURA WITH SUPERSCRIPT ALEF FINAL FORMzzbISOLATED FORMvWITH FATHATAN FINAL FORMz
kISOLATED FORMsLAH ISOLATED FORMrZZA WA JALLqBEH WITH ALEF MAKSURA FINAL FORMznISOLATED FORMzaHA
H INITIAL FORMzfSOLATED FORMzeWITH YEH FINAL FORMzbEH INITIAL FORMzeMEDIAL FORMzaJEEM INITIAL FORM
zgSOLATED FORMzaKHAH INITIAL FORMzgSOLATED FORMzfWITH YEH FINAL FORMzaMEEM FINAL FORMzfINITIAL FOR
MzgSOLATED FORMzfMEDIAL FORMzaNOON FINAL FORMzaREH FINAL FORMzaYEH FINAL FORMzeISOLATED FORMzaZAI
N FINAL FORMrISMILLAH AR-RAHMAN AR-RAHEEMqDAD WITH ALEF MAKSURA FINAL FORMznISOLATED FORMzaHAH INI
TIAL FORMzfSOLATED FORMzeWITH ALEF MAKSURA FINAL FORMzjYEH FINAL FORMzaJEEM INITIAL FORMzgSOLATE
D FORMzaKHAH INITIAL FORMzgSOLATED FORMzfWITH MEEM FINAL FORMzpINITIAL FORMzaMEEM INITIAL FORMzgSO
LATED FORMzaREH FINAL FORMzeISOLATED FORMzaYEH FINAL FORMzeISOLATED FORMqFEH WITH ALEF MAKSURA FIN
AL FORMznISOLATED FORMzaHAH INITIAL FORMzfSOLATED FORMzaJEEM INITIAL FORMzgSOLATED FORMzaKHAH INIT
IAL FORMzgSOLATED FORMzfWITH MEEM FINAL FORMzpINITIAL FORMzaMEEM INITIAL FORMzgSOLATED FORMzfWIT
H YEH FINAL FORMzaYEH FINAL FORMzeISOLATED FORMqGHAIN WITH ALEF MAKSURA FINAL FORMzpISOLATED FORMz
cJEEM INITIAL FORMziSOLATED FORMzcMEEM INITIAL FORMziSOLATED FORMzhWITH ALEF MAKSURA FINAL FORMzmM
EEM FINAL FORMzmYEH FINAL FORMzcYEH FINAL FORMzgISOLATED FORMqHAH WITH ALEF MAKSURA FINAL FORMznIS
OLATED FORMzaJEEM INITIAL FORMzgSOLATED FORMzfWITH YEH FINAL FORMzaMEEM INITIAL FORMzgSOLATED FORM
zfWITH ALEF MAKSURA FINAL FORMzkYEH FINAL FORMzaYEH FINAL FORMzeISOLATED FORMrEH WITH ALEF MAKSUR
A ISOLATED FORMzaJEEM INITIAL FORMzgSOLATED FORMzaMEEM INITIAL FORMzgSOLATED FORMzfWITH JEEM INITI
AL FORMzkMEEM INITIAL FORMzaSUPERSCRIPT ALEF INITIAL FORMzaYEH ISOLATED FORMqJALLAJALALOUHOUrEEM W
ITH ALEF MAKSURA FINAL FORMzoISOLATED FORMzbHAH INITIAL FORMzgSOLATED FORMzfWITH ALEF MAKSURA FINA
L FORMzkYEH FINAL FORMzbMEEM INITIAL FORMzhSOLATED FORMzgWITH ALEF MAKSURA FINAL FORMzlHAH FINAL F
ORMzpINITIAL FORMzlYEH FINAL FORMzbYEH FINAL FORMzfISOLATED FORMqKAF WITH ALEF FINAL FORMzfISOLATE
D FORMzfMAKSURA FINAL FORMznISOLATED FORMzaHAH INITIAL FORMzfSOLATED FORMzaJEEM INITIAL FORMzgSOLA
TED FORMzaKHAH INITIAL FORMzgSOLATED FORMzaLAM FINAL FORMzeINITIAL FORMzfSOLATED FORMzeMEDIAL FORM
zaMEEM FINAL FORMzfINITIAL FORMzgSOLATED FORMzfMEDIAL FORMzfWITH MEEM FINAL FORMzpINITIAL FORMzkYE
H FINAL FORMzaYEH FINAL FORMzeISOLATED FORMrHAH WITH ALEF MAKSURA FINAL FORMzoISOLATED FORMzbHAH I
SOLATED FORMzbJEEM INITIAL FORMzhSOLATED FORMzbMEEM INITIAL FORMzhSOLATED FORMzbYEH FINAL FORMzfIS
OLATED FORMqLAM WITH ALEF FINAL FORMzfISOLATED FORMzfMAKSURA FINAL FORMznISOLATED FORMzfWITH HAMZ
A ABOVE FINAL FORMzwISOLATED FORMzqBELOW FINAL FORMzwISOLATED FORMzkMADDA ABOVE FINAL FORMzwISOLAT
ED FORMzaHAH INITIAL FORMzfSOLATED FORMzeWITH ALEF MAKSURA FINAL FORMzjMEEM FINAL FORMzoINITIAL FO
RMzjYEH FINAL FORMzbEH INITIAL FORMzaJEEM INITIAL FORMzgSOLATED FORMzfWITH JEEM FINAL FORMzpINITIA
L FORMzkMEEM FINAL FORMzpINITIAL FORMzkYEH FINAL FORMzaKHAH INITIAL FORMzgSOLATED FORMzfWITH MEE
M FINAL FORMzpINITIAL FORMzaMEEM FINAL FORMzfINITIAL FORMzgSOLATED FORMzfMEDIAL FORMzfWITH HAH FIN
AL FORMzoINITIAL FORMzkYEH FINAL FORMzaYEH FINAL FORMzeISOLATED FORMqMEEM WITH ALEF FINAL FORMzgMA
KSURA ISOLATED FORMzbHAH INITIAL FORMzgSOLATED FORMzfWITH JEEM INITIAL FORMzkMEEM INITIAL FORMzkYE
H FINAL FORMzbJEEM INITIAL FORMzhSOLATED FORMzgWITH HAH INITIAL FORMzlKHAH INITIAL FORMzlMEEM INIT
IAL FORMzlYEH FINAL FORMzbKHAH INITIAL FORMzhSOLATED FORMzgWITH JEEM INITIAL FORMzlMEEM INITIAL FO
RMzlYEH FINAL FORMzbMEEM FINAL FORMzgINITIAL FORMzhSOLATED FORMzgWITH YEH FINAL FORMzbYEH ISOLATE
D FORMrOHAMMAD ISOLATED FORMqNOON WITH ALEF MAKSURA FINAL FORMzoISOLATED FORMzbHAH INITIAL FORMzgS
OLATED FORMzfWITH ALEF MAKSURA FINAL FORMzkMEEM INITIAL FORMzkYEH FINAL FORMzcEH INITIAL FORMzfMED
IAL FORMzbJEEM INITIAL FORMzhSOLATED FORMzgWITH ALEF MAKSURA FINAL FORMzlHAH FINAL FORMzpINITIAL F
ORMzlMEEM FINAL FORMzqINITIAL FORMzlYEH FINAL FORMzbKHAH INITIAL FORMzhSOLATED FORMzbMEEM FINAL FO
RMzgINITIAL FORMzhSOLATED FORMzgMEDIAL FORMzgWITH ALEF MAKSURA FINAL FORMzlYEH FINAL FORMzbNOON FI
NAL FORMzbREH FINAL FORMzbYEH FINAL FORMzfISOLATED FORMzbZAIN FINAL FORMqQAF WITH ALEF MAKSURA FIN
AL FORMznISOLATED FORMzaHAH INITIAL FORMzfSOLATED FORMzaMEEM INITIAL FORMzgSOLATED FORMzfWITH HA
H FINAL FORMzoINITIAL FORMzkMEEM FINAL FORMzkYEH FINAL FORMzaYEH FINAL FORMzeISOLATED FORMsLA USE
D AS KORANIC STOP SIGN ISOLATED FORMrUDDISA SIRRAHqRADI ALLAAHU ANHzhAAzhUMzjAAziNNAsHIMAHU ALLAAH
yM ALLAAHsSOUL ISOLATED FORMrEH WITH SUPERSCRIPT ALEF ISOLATED FORMqSAD WITH ALEF MAKSURA FINAL FO
RMznISOLATED FORMzaHAH INITIAL FORMzfSOLATED FORMzeWITH HAH FINAL FORMznINITIAL FORMzjYEH FINAL FO
RMzaKHAH INITIAL FORMzaMEEM INITIAL FORMzgSOLATED FORMzfWITH MEEM FINAL FORMzpINITIAL FORMzaREH FI
NAL FORMzeISOLATED FORMzaYEH FINAL FORMzeISOLATED FORMsLAAMUHU ALAYNAAuM ISOLATED FORMtLA ISOLATE
D FORMwUSED AS KORANIC STOP SIGN ISOLATED FORMvLLAAHU ALAYHI WA-AALIHyHOU ALAYHE WASALLAMzaU ALAYH
I WAAALIHEE WA-SALLAMrEEN WITH ALEF MAKSURA FINAL FORMzoISOLATED FORMzbHAH INITIAL FORMzgSOLATED F
ORMzfMEDIAL FORMzfWITH JEEM INITIAL FORMzcEH INITIAL FORMzfMEDIAL FORMzbJEEM INITIAL FORMzhSOLATE
D FORMzgMEDIAL FORMzgWITH ALEF MAKSURA FINAL FORMzlHAH INITIAL FORMzbKHAH INITIAL FORMzhSOLATED FO
RMzgMEDIAL FORMzgWITH ALEF MAKSURA FINAL FORMzlYEH FINAL FORMzbMEEM INITIAL FORMzhSOLATED FORMzgME
DIAL FORMzgWITH HAH FINAL FORMzpINITIAL FORMzlJEEM INITIAL FORMzlMEEM FINAL FORMzqINITIAL FORMzbRE
H FINAL FORMzfISOLATED FORMzbYEH FINAL FORMzfISOLATED FORMrHADDA WITH DAMMA ISOLATED FORMzjMEDIA
L FORMziTAN ISOLATED FORMzdFATHA ISOLATED FORMzjMEDIAL FORMzdKASRA ISOLATED FORMzjMEDIAL FORMziTA
N ISOLATED FORMzdSUPERSCRIPT ALEF ISOLATED FORMsEEN WITH ALEF MAKSURA FINAL FORMzpISOLATED FORMzcH
AH FINAL FORMzgINITIAL FORMzhSOLATED FORMzgMEDIAL FORMzgWITH MEEM FINAL FORMzqINITIAL FORMzlYEH FI
NAL FORMzdEH INITIAL FORMzgMEDIAL FORMzcJEEM FINAL FORMzhINITIAL FORMziSOLATED FORMzhMEDIAL FORMzh
WITH YEH FINAL FORMzcKHAH FINAL FORMzhINITIAL FORMziSOLATED FORMzhMEDIAL FORMzcMEEM FINAL FORMzhIN
ITIAL FORMziSOLATED FORMzhMEDIAL FORMzhWITH KHAH FINAL FORMzrINITIAL FORMzmMEEM FINAL FORMzrINITIA
L FORMzcREH FINAL FORMzgISOLATED FORMzcYEH FINAL FORMzgISOLATED FORMrUBHAANAHU WA TAAALAAqTABAARAK
A WA-TAAALAAsH WITH ALEF MAKSURA FINAL FORMznISOLATED FORMzaHAH INITIAL FORMzfSOLATED FORMzaMEEM I
NITIAL FORMzgSOLATED FORMzfMEDIAL FORMzfWITH HAH FINAL FORMzoINITIAL FORMzkMEEM INITIAL FORMzkYE
H FINAL FORMzaYEH FINAL FORMzeISOLATED FORMrEH WITH ALEF MAKSURA FINAL FORMznISOLATED FORMzaHAH IN
ITIAL FORMzfSOLATED FORMzeWITH JEEM FINAL FORMzoINITIAL FORMzjMEEM INITIAL FORMzbEH INITIAL FORMze
MEDIAL FORMzaJEEM INITIAL FORMzgSOLATED FORMzfWITH ALEF MAKSURA FINAL FORMzkMEEM INITIAL FORMzkYE
H FINAL FORMzaKHAH INITIAL FORMzgSOLATED FORMzfWITH ALEF MAKSURA FINAL FORMzkMEEM INITIAL FORMzkYE
H FINAL FORMzaMEEM FINAL FORMzfINITIAL FORMzgSOLATED FORMzfMEDIAL FORMzfWITH ALEF MAKSURA FINAL FO
RMzkHAH INITIAL FORMzkJEEM INITIAL FORMzkKHAH INITIAL FORMzkYEH FINAL FORMzaNOON FINAL FORMzaREH F
INAL FORMzaYEH FINAL FORMzeISOLATED FORMzaZAIN FINAL FORMrHAL WITH SUPERSCRIPT ALEF ISOLATED FORMs
EH WITH ALEF MAKSURA FINAL FORMzoISOLATED FORMzbHEH MEDIAL FORMzbJEEM ISOLATED FORMzbMEEM FINAL FO
RMzgINITIAL FORMzhSOLATED FORMzgMEDIAL FORMzbNOON FINAL FORMzbREH FINAL FORMzbYEH FINAL FORMzfISOL
ATED FORMzbZAIN FINAL FORMqUIGHUR KIRGHIZ YEH WITH HAMZA ABOVE WITH ALEF MAKSURA FINAL FORMzzuINIT
IAL FORMzzvSOLATED FORMqWASALLAM ISOLATED FORMqYEH WITH ALEF MAKSURA FINAL FORMznISOLATED FORMzaHA
H INITIAL FORMzfSOLATED FORMzeWITH YEH FINAL FORMzcMZA ABOVE WITH AE FINAL FORMzuISOLATED FORMzsLE
F FINAL FORMzwISOLATED FORMzwMAKSURA FINAL FORMzzfISOLATED FORMzrE FINAL FORMztINITIAL FORMzuSOLAT
ED FORMzrHAH INITIAL FORMzwSOLATED FORMzsEH INITIAL FORMzvMEDIAL FORMzrJEEM INITIAL FORMzxSOLATE
D FORMzrKHAH INITIAL FORMzrMEEM FINAL FORMzwINITIAL FORMzxSOLATED FORMzwMEDIAL FORMzrNOON FINAL FO
RMzrOE FINAL FORMzuISOLATED FORMzrREH FINAL FORMzrU FINAL FORMztISOLATED FORMzrWAW FINAL FORMzvISO
LATED FORMzrYEH FINAL FORMzvISOLATED FORMzsU FINAL FORMzuISOLATED FORMzrZAIN FINAL FORMzbEH INITIA
L FORMzeMEDIAL FORMzaJEEM INITIAL FORMzgSOLATED FORMzfWITH YEH FINAL FORMzaKHAH INITIAL FORMzgSOLA
TED FORMzaMEEM FINAL FORMzfINITIAL FORMzgSOLATED FORMzfMEDIAL FORMzfWITH MEEM FINAL FORMzpINITIA
L FORMzkYEH FINAL FORMzaNOON FINAL FORMzaREH FINAL FORMzaYEH FINAL FORMzeISOLATED FORMzaZAIN FINA
L FORMqZAH WITH MEEM INITIAL FORMzgSOLATED FORMzfMEDIAL FORMhMADDA WAAJIBmH ABOVEjRK NOON GHUNNAmS
IDEWAYS NOON GHUNNAjTHEMATICAL AINvLEFuBEHuDADwLvOTLESS BEHzdFEHzdNOONzdQAFwUBLE-STRUCK AINzjBEHzj
DADzlLzjFEHzjGHAINzjHAHzjJEEMzjKHAHzjLAMzjMEEMzjNOONzjQAFzjREHzjSADzkEENzkHEENzjTAHzkEHzkHALzlEHzj
WAWzjYEHzjZAHzlINuFEHuGHAINuHAHuINITIAL AINzdBEHzdDADzdFEHzdGHAINzdHAHzeEHzdJEEMzdKAFzeHAHzdLAMzdM
EEMzdNOONzdQAFzdSADzeEENzeHEENzdTEHzeHEHzdYEHuJEEMuKAFvHAHuLAMvOOPED AINzdLEFzcBEHzcDADzeLzcFEHzcG
HAINzcHAHzdEHzcJEEMzcKHAHzcLAMzcMEEMzcNOONzcQAFzcREHzcSADzdEENzdHEENzcTAHzdEHzdHALzeEHzcWAWzcYEHzc
ZAHzeINuMEEMuNOONuOPERATOR HAH WITH DALzeMEEM WITH HAH WITH TATWEELuQAFuREHuSADvEENvHEENvTRETCHE
D AINzfBEHzfDADzgOTLESS BEHznFEHzfFEHzfGHAINzfHAHzgEHzfJEEMzfKAFzgHAHzfMEEMzfNOONzfQAFzfSADzgEENzg
HEENzfTAHzgEHzgHEHzfYEHzfZAHuTAHwILED AINzcDADzdOTLESS NOONzkQAFzcGHAINzcHAHzcJEEMzcKHAHzcLAMzcNOO
NzcQAFzcSADzdEENzdHEENzcYEHvEHvHALwEHuWAWuYEHuZAHwINhNUMBER MARK ABOVEoSIGNhOPEN DAMMATANmFATHATAN
mKASRATANhPERCENT SIGNiIASTRE MARK ABOVEiLACE OF SAJDAHiOETIC VERSE SIGNjUND MARK ABOVEhQUESTION M
ARKhRAISED ROUND DOTjYiEVERSED DAMMAiIGHT ARROWHEAD ABOVEzd WITH DOTxBELOWiOUNDED HIGH STOP WITH F
ILLED CENTREhSEMICOLONiHADDAn ISOLATED FORMoMEDIAL FORMiIGN ALAYHE ASSALLAMmMISRAmRADI ALLAHOU ANH
UoHMATULLAH ALAYHEmSAFHAoLLALLAHOU ALAYHE WASSALLAMoMVAToNAHnINDHI AMPERSANDtPOSTPOSITION MENmTAKH
ALLUSiMALL DAMMAnFARSI YEHpTHAnHIGH AINsDOTLESS HEAD OF KHAHsFARSI YEHtOOTNOTE MARKERsJEEMsLAM ALE
FtIGATURE ALEF WITH LAM WITH YEHzcQAF WITH LAM WITH ALEF MAKSURAzcSAD WITH LAM WITH ALEF MAKSURAsM
ADDAtEEM INITIAL FORMySOLATED FORMsNOONw WITH KASRAsQAFsROUNDED ZEROsSADtEENtIGN SAFHAsTAHtHREE DO
TSsUPRIGHT RECTANGULAR ZEROsWAWtORD AL-JUZyN-NISFyR-RUByS-SAJDAyTH-THALATHAxQIFxSAHzaKTAxWAQFAsYEH
v BARREE WITH TWO DOTS BELOWsZAHuINnKASRAnLOW MEEMrNOON WITH KASRArSEENrWAWsORD IMAALAxSHMAAMwTASH
EELnWAWnYEHiTART OF RUB EL HIZBiUBSCRIPT ALEFjKUNm BELOWnISOLATED FORMnMEDIAL FORMjPERSCRIPT ALE
F MOKHASSASiYMBOL DOT ABOVEsBELOWqUBLE VERTICAL BAR BELOWoFOUR DOTS ABOVEyBELOWoRINGoSMALL TAH ABO
VEyBELOWoTHREE DOTS ABOVEzaBELOWzaPOINTING DOWNWARDS ABOVEztBELOWpWO DOTS ABOVExBELOWxVERTICALLY A
BOVEzjBELOWoWASLA ABOVEhTAIL FRAGMENTjTWEELo WITH FATHATAN ABOVEuOVERSTRUCK HAMZAzgWAWuTWO DOTS BE
LOWiHOUSANDS SEPARATORiONE LOOP ABOVErBELOWmONE DOT ABOVEuBELOWmTWO DOTS ABOVEvBELOWiRIPLE DOT PUN
CTUATION MARKiURNED DAMMA BELOWhVERTICAL TAILiOWEL SIGN DOT BELOWsINVERTED SMALL V ABOVEsSMALL V A
BOVEhWAVY HAMZA BELOWhZWARAKAYg-INDIC CUBE ROOTnDIGIT EIGHTtFIVEuOURtNINEtONEtSEVENuIXtTHREEuWOtZE
ROnFOURTH ROOTnPER MILLE SIGNrTEN THOUSAND SIGNcCcIEScMENIAN ABBREVIATION MARKkPOSTROPHEjCAPITAL L
ETTER AYByBENyCAzaHAzbEHzaOyDAyECHzaHzaTyFEHyGHADzaIMyHOyINIyJAzaHEHyKEHzbNyLIWNyMENyNOWyOHyPEHzaI
WRyRAzaEHySEHzaHAyTIWNzaOyVEWzaOyXEHyYIzbWNyZAzaHEkOMMAjDRAM SIGNjEMPHASIS MARKkXCLAMATION MARKjFU
LL STOPjHYPHENjMODIFIER LETTER LEFT HALF RINGjQUESTION MARKjSMALL LETTER AYBwBENwCAxHAyEHxOwDAwECH
xHxTwFEHwGHADxIMwHOwINIwJAxHEHwKEHyNwLIWNwMENwNOWwOHwPEHxIWRwRAxEHwSEHxHAwTIWNxOxURNED AYBwVEWxOwX
EHwYIy WITH STROKEyWNwZAxHEqIGATURE ECH YIWNyMEN ECHzdINIzdNOWzdXEHyVEW NOWcROW POINTING DOWNWARD
S THEN CURVING LEFTWARDSznRIGHTWARDSpRIGHTWARDS THEN CURVING DOWNWARDSzoSOUTH WESTzoUPWARDSpUPWARD
S THEN NORTH WESTfHEAD-SHAPED POINTERcTICULATED LORRYeST PALETTEbSCENDING NODEdIA SYMBOLcSERTIONcT
ERISKi OPERATORhMdONISHED FACEdRAEAeONOMICAL SYMBOL FOR URANUScYMPTOTICALLY EQUAL TObTHLETIC SHOEc
OM SYMBOLbUBERGINEcSTRAL SIGNcTO RICKSHAWeMATED TELLER MACHINEfOBILEbVESTAN ABBREVIATION MARKiLETT
ER AqArNrOqErEqNqOpBEqHEpCEpDEqHEpEqEpFEpGEqGEqHEpHEqMEpIqIpJEpKEpLEpMEpNEqGErVErYEqNEqYEpOqOpPEpR
EpSEqHErYEqSHEpTEqHEqTEpUqUpVEpXEqVEqYEpYEqYEpZEqHEcOCADObXEaBABYe ANGELfBOTTLEfCHICKfSYMBOLcCK O
F ENVELOPEfWITH LEFTWARDS ARROW ABOVEe-TILTED SHADOWED WHITE RIGHTWARDS ARROWeSLANTED SOUTH ARRO
W WITH HOOKED TAILzgRIZONTAL TAILfPACEdONdTRIAN CAMELcDGERdMINTON RACQUET AND SHUTTLECOCKcGELdGAG
E CLAIMdUETTE BREADcLINESE ADEG ADEGjCARIK PAMUNGKAHrRERENpSIKIjDIGIT EIGHTpFIVEqOURpNINEpONEpSEVE
NqIXpTHREEqWOpZEROjLETTER AIKARArKARAv TEDUNGrRCHAIC JNYArSYURA SASAKqBAs KEMBANGqCAs LACAqDAs MAD
UuURDA ALPAPRANAzaMAHAPRANAqEF SASAKrKARAqGAs GORAqHAqIKARAv TEDUNGqJAs JERAqKAs MAHAPRANAsF SASAK
rHOT SASAKqLAs LENGAy TEDUNGqMAqNAs RAMBATrGArYAqOKARAv TEDUNGqPAs KAPALqRAs REPAx TEDUNGqSAs SAGA
vPAqTAs LATIKtMURDA MAHAPRANAtTAWArZIR SASAKqUKARAv TEDUNGqVE SASAKqWAqYAqZAL SASAKjMUSICAL SYMBO
L COMBINING BENDEzjENDEPzjGONGzjJEGOGANzjKEMPLIzp WITH JEGOGANznULzp WITH JEGOGANzjTEGEHyDAENGzbIN
GzbNGzd GEDEzeSURANGzaENGzbUNGzaINGzaONGzaUNGyLEFT-HAND CLOSED PLAKzsUKzjOPEN PANGzpINGzpUNGyRIGHT
-HAND CLOSED TAKzsUKzkOPEN DAGzqUGjPAMADAp LANTANGmENENGlNTIo LANTANGjSIGN BISAHoCECEKoREREKANoSUR
ANGoULU CANDRAsRICEMjVOWEL SIGN LA LENGAzd TEDUNGuPEPETza TEDUNGuRA REPAzc TEDUNGuSUKUy ILUTuTALIN
Gzb REPAzg TEDUNGzcTEDUNGvEDUNGuULUx SARIjWINDUdL OF YARNeET SHOESeOONh-SPOKED ASTERISKfT BOLD SCR
IPT XjXk WITH BALLOTrOLD CHECKvSCRIPT XqCHECKqLIGHT XqSCRIPT XqXhSCRIPT XhXcMUM COLONiMBINING MAR
K KOQNDONvTUKWENTISjMAgFULL STOPgLETTER AnEEnFAAMAEoEEoOMoUnInKAoENpTpUXoIoOpGHOMpVUUoPAoUoYEEnLAo
EEEEoIoOQoUnMoAoBAApENoEEEEpNoIoOoUnNAoDAAoGApGApKWAENoIoJAEMpEEpUAEoSHAoTEEpUUoUpAEoYInOnPAoEEpUX
oHASE-A FIRIvGBIEE FONwHEUAEGHEUAEzcRAEvKAFAxQwETxUKEUTNDAwPOQwUOQvLAPAQwET KUTwOMMAEwUxAEPvMAEKEU
PyMzaBGBIEEzaKPENzaVEUXyNYIySIxNSUAExP PIEETwBANYIyQwEUNJOMNDEUQwGBASAwON NGGEUAETxOMEUTzaPUQwVEUA
ENGAMvNAA MFONxQwDA LEERAEWAyANGGEUAETwENwGANGUxGENxKUE MFONzbNZEUMwIKAwJAMwKAARAExINDIwSHAyIEEwTA
Pza MFAAzbNTAAxOQPENwYETxIyT MONGKEUAEQwZA MFONxUN MEUTvPA LEERAEWAxAMyRAExMSHAExSHAEwETwON MFON P
IPAEMBAzlGBIEEzaPA NJI PIPAEMBAznGBIEEwUPvROMvSEUNYAMwHINDA PA NJIyRAExOQ NSHUT YUMxUENSHUETyMwISA
wONJAMxQxTwUUvTEUAENyTEUWENwITA MFONwU MAEMBAxAEPvU YUQ NAEwNKNOWNvVEEtB FEExUXvGHEUGHENzdUAEMvKAM
wEUAEMyPUQyYEUXwIEEMxQvLAANAExM NSHUT NYAMwETwOM NTEUMvMAx NJEUAENAzbUQAwBA MAELEEyARAExEURIxIT MB
AAKETxUOQwEUQyT NGGEETwFIYAQxON TEUAEQwONTIEENvNDU NJAAwGGAAMyEU MBUyUOQzc LARGExKINDI MVOPxOMwSEN
xHUETwTIEE SHEUOQwYAEMAExI NTEUMvPARUMwEESHIwITwUNGAAMvSAKEUAEwET TUwHET NJAQyUAEQTUwIEEwUEvTAAMw
U MAEMGBIEEyNSIEEvVEUMvWUAETvYAFU LEERAEWAwEURAEtC BUNGvFUEvGBAYIwHAPyRAEvKAAwEN FATIGUEzaLAWxTxUK
AQyMySEUXzaHEUAEPwPARAQwUOP NKAARAExTvLAMxPwIQwUvMA KEUAERIyNSIEExEMBAySIwBAA CABBAGE-TREEzbPICKET
yNYIxEEKEETyRAEyUMzaXxIyRIEENyTxUAEMyEwGBASAQwIEEwUAEvNANSANAQxQwDAMyPxEUAEREEzaTxIDAxOMBUwGAQxGEN
yUzaAEN NYAMzaEETzaMzaONxKAQyUE MAEMBAxOMwJAEMyMxEEEEyUXxUEQwSAxEUAENxHAQxOMxUNyOT NGOMwTAAxENyUNG
BAxU MBITwYIR MKPARAQ MEUNwZAxEUMvPENwINxRIEENvRUvSETFONxUXwHIQxUEQwUAETvTAASHAEwETxUTEUXwITA YUEy
UAEPvVEUAEPENyXvWANGKUOQwUPvYAAwEUQwU MUOMAExMxWOQtD FAAwEUFEUAETvGHAAxEUAEvKETxUAETMEUNyMyOT MBUA
EyPwUxNxOMxQwWAETwYEEvLEEEExTxUAEPyMwIEEwOQwUMvMwAENJETxLEERIwBAAza SEVENxUOwEEEExUNyTwFEUAEzaTxIE
ExOyNwGBEUNyIEEyOFUMwONIwUwVOPvNDAMxEEyUXxONwGGAAMzcAEzaPyEUXyUOMyWAENxKAPyEUAEQzbRIyIEEyUNyYEEwIw
JAPxEUAEMzaTxIyEExUEQwSHEEyUTxIEEPzbTxUMwTEEyUMxUUwUwYAMxETxIxUEvPAPwEExUTAEwIPwUQxUTvRAEMwEN MUCH
zaOLDwIIvSAPxQwEUAEQwHEEyUAEzaXxIIxOQxUwOTwUAExExUvTAEwEEEExUAENyNyTwIwOQwUxOTvWAPwUAENvYAEMMAEwEN
wUOMyPxWOQtE AvFAxQwEEwOMwU CALLyIyREMEDYxEyTvGBETyUXwHAAMAExETyUAEzaNzaXxOMvIvKETxUAEyXwIwOwPEUXw
UETxOPxTvLAAMxPxQwEUAEMwOMxONyTxQwUvMAxEyMxPxQwBEEyUMwENwFEUQwGBAyENwIxEEwONwUAEwVIvNAxEwDAA MY HO
USEzbSOFTNESSyPxIAQyQxUNwGAxEUREUTxGEEEEzaUAEzdTyUAESHAE NYAMzaPzaRAExKAzaAMIyEUAEMzbXyUMzaPxOPyQx
UAEzbTwJAEMLIxEEza EPOCHyUXwKOMwSHIEEyUEzaOPwTAPxUMwYI BETWEENzaCLEAVERwZAQxUQvOvPA PEOPLEzaLURALx
AyMwEEMxUTyXwIxEEQyTwOxONwUxAEyQxExMvRAExQwEUXwIMGBAvSAAwEExTwHEUAEQxIQxOyQwOMwUAENvTAAyQxEN NTEUM
xMxQwENxUyAEQwOOyNxQwUAExMyAEvVEExUAEwOMvWEUXwUExOvYAPwEUAEzbTyMyXwIEExTwOQ COVERzaSWIMMINGwUAENxE
QxNxQtF EEvFOMvKAwENxTwOwPAwUwYEEvLAwIwOQvMwAwBAAxENwEEEEwOvNDAAwGGAxKWAENwIwJAEMxUAEwSHAwTEEwUxAE
wYIvPEExUXwUAEvREExNxUXwIEExIwUvSAMBAwEUXwHIIxOxUwIwUUvTAAxEwETvUvVUEQvWAwUEvYAwOQoIoUAEpEnRAEoEEp
NpUXoIEEpIoUnSAMBAoEUXoHEUXpIIpOpUoIoUUnTAApEoENpToInUnWAoUEnYAoOQoUQgNJAEMLIgQUESTION MARKgSEMICO
LONcNANAdJOdKeNOTE WITH DOLLAR SIGNoEURO SIGNoPOUND SIGNoYEN SIGNcR CHARTeOF SOAPdBER POLEcSEBALLd
KETgBALL AND HOOPdSA VAH COMBINING HIGH TONEy-LOW TONEuLOW TONEx-MID TONEuMID TONEkFULL STOPkLETTE
R ArBArCErDHIIsOrEsEsNNIrFArGAHsBUrHWAHrIrJOrKAsPAHrMBErOsOrPArSErTOrUsWUrVUrWAtDDArYEINsIErZOcTdA
K CONSONANT SIGN HvNGgLETTER AnBAnCAnDAnGAnHAnInJAnKARO BAnLAnMApNDAILING HAyNAySAoBAnNAoDAoGAoORT
HERN TAoYAnPApKPAK WAnRAnSAoIMALUNGUN AyGAyHAyLAyMAyPAyRAySAyWAyYAoOUTHERN TAnUnWAnYAgPANGOLATjONG
ONANgSIGN TOMPIhYMBOL BINDU JUDULtNA METEKtPANGOLATuINARBORASgVOWEL SIGN EsErIrKARO IwOrOrPAKPAK E
rUs FOR SIMALUNGUN SAdHeTUBdTERYbEACH WITH UMBRELLAdMED ASCENDING MUSICAL NOTEShDESCENDING MUSICA
L NOTEShEIGHTH NOTEShSIXTEENTH NOTESdNSdR FACEeDED PERSONdTING HEARTdVERcCAUSEcDcER MUGdTLEcLdLe P
EPPERfSYMBOLfWITH CANCELLATION STROKEeHOP BELLcNGALI ABBREVIATION SIGNjNJIjU LENGTH MARKiCURRENC
Y DENOMINATOR SIXTEENrNUMERATOR FOURzcONEzf LESS THAN THE DENOMINATORzcTHREEzdWOiDIGIT EIGHToFIVEp
OURoNINEoONEoSEVENpIXoTHREEpWOoZEROiGANDA MARKiISSHARiLETTER AqAqIqUpBAqHApCAqHApDAqDArHAqHApEpGAq
HApHApIqIpJAqHApKAqHAsNDA TApLApMApNAqGAqNAqYApOpPAqHApRAr WITH LOWER DIAGONALxMIDDLE DIAGONALqHAq
RApSAqHAqSApTAqHAqTArHApUqUpVEDIC ANUSVARAqOCALIC LyLxRyRpYAqYAiRUPEE MARKoSIGNiSANDHI MARKjIGN AN
USVARAoVAGRAHAnCANDRABINDUnNUKTAnVIRAMApSARGAiVOWEL SIGN AAuIuUtEtIuItOtUuUtVOCALIC LzdLzcRzdRdT A
RROW POINTING DOWNWARDS THEN NORTH EASTeO BOXdZENE RINGm WITH CIRCLEcT SYMBOLdWEENcVERAGE BOXbHAIK
SUKI DANDAlIGIT EIGHTqFIVErOURqNINEqONEqSEVENrIXqTHREErWOqZEROlOUBLE DANDAkGAP FILLER-1v2kHUNDRED
S UNIT MARKkLETTER AsAsIsUrBAsHArCAsHArDAsDAtHAsHArErGAsHArHArIsIrJAsHArKAsHArLArMArNAsGAsNAsYArOr
PAsHArRArSAsHAsSArTAsHAsTAtHArUsUrVAsOCALIC LzaRzbRrYAkNUMBER EIGHTwYrFIFTYtVEsORTYtURrNINEvTYrONE
rSEVENwTYsIXuTYrTENsHIRTYtREEsWENTYtOkSIGN ANUSVARAqVAGRAHApCANDRABINDUpVIRAMArSARGAkVOWEL SIGN AA
wIwUvEvIwIvOvUwUvVOCALIC LzeRzfRkWORD SEPARATORbICYCLEgISTcG REVERSE SOLIDUSeSOLIDUScKINIcLLED CAP
eIARDScOHAZARD SIGNcRDdTHDAY CAKEcSONcTCOIN SIGNdING LIPbLACK BOWTIEgCENTRE WHITE STARhHESS BISHOP
s ROTATED NINETY DEGREESzcTWO HUNDRED SEVENTY DEGREESmEQUIHOPPERw ROTATED NINETY DEGREESmKINGq ROT
ATED NINETY DEGREESzaTWO HUNDRED SEVENTY DEGREESnNIGHTs ROTATED FORTY-FIVE DEGREESzcNINETY DEGREES
zcONE HUNDRED THIRTY-FIVE DEGREESzcTHREE HUNDRED FIFTEEN DEGREESzdWO HUNDRED SEVENTY DEGREESzoTWEN
TY-FIVE DEGREESs-BISHOPtQUEENtROOKmPAWNq ROTATED NINETY DEGREESzaTWO HUNDRED SEVENTY DEGREESmQUEEN
r ROTATED NINETY DEGREESzbTWO HUNDRED SEVENTY DEGREESmROOKq ROTATED NINETY DEGREESzaTWO HUNDRED SE
VENTY DEGREESmTURNED BISHOPtKINGuNIGHTtPAWNtQUEENtROOKhIRCLEm FOR RECORDnWITH DOWN ARROWsTWO WHIT
E DOTSsWHITE DOT RIGHThLUB SUIThROSS ON SHIELDhURVED DOWNWARDS AND LEFTWARDS ARROWzcRIGHTWARDS ARR
OWnLEFTWARDS AND DOWNWARDS ARROWzcUPWARDS ARROWnRIGHTWARDS AND DOWNWARDS ARROWzdUPWARDS ARROWnUPWA
RDS AND LEFTWARDS ARROWzaRIGHTWARDS ARROWgDIAMONDn CENTREDoMINUS WHITE XoON CROSSoSUIToWITH DOWN A
RROWhOWN POINTING BACKHAND INDEXk-POINTING DOUBLE TRIANGLEuISOSCELES RIGHT TRIANGLEuSMALL TRIANGLE
uTRIANGLEkWARDS EQUILATERAL ARROWHEADhRAUGHTS KINGpMANiOPLETgFLAGiORETTEhOLDERiUR POINTED STARgHAR
D SHELL FLOPPY DISKhEARTl SUITiXAGONhORIZONTAL ELLIPSEiURGLASSgLARGE CIRCLEmSQUAREhEFT LANE MERGEl
POINTING BACKHAND INDEXuINDEXk-POINTING DOUBLE TRIANGLEzk WITH VERTICAL BARuISOSCELES RIGHT TRIANG
LEuPOINTERuSMALL TRIANGLEuTRIANGLEkWARDS BULLETqEQUILATERAL ARROWHEADhOWER LEFT TRIANGLEmRIGHT TRI
ANGLEiZENGEgMEDIUM DIAMONDoOWN-POINTING TRIANGLEzk CENTREDnLEFT-POINTING TRIANGLEzk CENTREDoOZENGE
nRIGHT-POINTING TRIANGLEzl CENTREDnSMALL DIAMONDtLOZENGEtSQUAREoQUAREnUP-POINTING TRIANGLEzi CENTR
EDhOON LILITHgNIBgOCTAGONgPARALLELOGRAMhENNANTjTAGONhUSHPINgQUESTION MARK ORNAMENTgRECTANGLEhIGH
T POINTING BACKHAND INDEXvINDEXl-POINTING DOUBLE TRIANGLEzl WITH VERTICAL BARvISOSCELES RIGHT TRIA
NGLEvPENTAGONwOINTERvSMALL TRIANGLEvTRIANGLEze WITH DOUBLE VERTICAL BARlWARDS ARROWwHEADrBULLETrEQ
UILATERAL ARROWHEADhOSETTEgSAFETY SCISSORShCISSORShHOGI PIECEhKULL AND CROSSBONEShLIGHTLY SMALL CI
RCLEvSQUAREhMALL DIAMONDmLOZENGEmSQUAREnTARiILING FACEhNOWMANhPADE SUIThQUAREm BUTTONnCENTREDnFO
R STOPhTARhUN WITH RAYSgTELEPHONEhINY DIAMONDlLOZENGElSQUAREhOUCHTONE TELEPHONEhRUCKhWO-WAY LEFT W
AY TRAFFICgUNIVERSAL RECYCLING SYMBOLhP POINTING BACKHAND INDEXi-POINTING DOUBLE TRIANGLEsISOSCELE
S RIGHT TRIANGLEsSMALL TRIANGLEsTRIANGLEiPER LEFT TRIANGLEmRIGHT TRIANGLEiWARDS EQUILATERAL ARROWH
EADgVERTICAL ELLIPSEpRECTANGLEjY SMALL DIAMONDrLOZENGErSQUAREf-FEATHERED NORTH EAST ARROWqRIGHTWAR
DS ARROWqSOUTH EAST ARROWgLETTER CAPITAL CvHvIvRvZdNK SYMBOLcOCK SEXTANT-1p2q3r4s5s6r5s6r6q4r5s6r6
q5r6q6p3q4r5s6r6q56q6p4q5r6q6p5q6p6o2p3q4r5s6r6q5r6q6p4q5r6p5q6p6o3p4q5r6q6p5q6p6o4p5q6p6o5p6o6dSS
OMdWFISHcUE BOOKfHEARTeBERRIESbOARcLD EIGHT SPOKED ASTERISKfFIVE SPOKED ASTERISKfGREEK CROSSfSALTI
REgIX SPOKED ASTERISKfWHITE CIRCLElSQUAREcMdBcNEcOKeMARKi TABSeSdMERANGcPOMOFO FINAL LETTER GwHwKw
PwTjLETTER ArHrIsNNrMrNsGsNrUsNNqBrUqCrHqDqErErHrIrNsGsNrRqFqGrHrNrUrWqHqIrHrMrNNtNrRrUqJrIqKrWqLr
HqMqNrGsGrNqOr WITH DOT ABOVErErMrNGsNrOrUqPqQqRqSrHqTqUrNNqVqXqZrHrIrYcTTLE WITH POPPING CORKeO
M ARC ANTICLOCKWISE ARROWhCURLY BRACKEThHALF BLACK CIRCLEmINTEGRALmLEFT PARENTHESISmRIGHT PARENTHE
SIShLEFT CORNERnROPmHALF BRACKEThPARENTHESIShRIGHT CORNERoROPnHALF BRACKEThSQUARE BRACKETv OVER TO
P SQUARE BRACKEThTORTOISE SHELL BRACKETcUQUETh OF FLOWERScW AND ARROWdL OF HYGIEIAfWITH SPOONeINGd
TIEg WITH LEFT HALF BLACKmRIGHT HALF BLACKcX DRAWINGS DOUBLE DOWN AND HORIZONTALzeLEFTzeRIGHTuHORI
ZONTALuUP AND HORIZONTALzcLEFTzcRIGHTuVERTICALzd AND HORIZONTALziLEFTziRIGHTpWN DOUBLE AND HORIZON
TAL SINGLEzeLEFT SINGLEzeRIGHT SINGLEsHEAVY AND HORIZONTAL LIGHTzdLEFT LIGHTziUP LIGHTzdRIGHT LIGH
TzjUP LIGHTzdUP HORIZONTAL LIGHTsLIGHT AND HORIZONTAL HEAVYzdLEFT HEAVYziUP HEAVYzdRIGHT HEAVYzjU
P HEAVYzdUP HORIZONTAL HEAVYsSINGLE AND HORIZONTAL DOUBLEzeLEFT DOUBLEzeRIGHT DOUBLEnHEAVY DOUBL
E DASH HORIZONTALzgVERTICALvWNx AND HORIZONTALzdLEFTzdRIGHTtHORIZONTALtLEFTx AND LIGHT RIGHTtQUADR
UPLE DASH HORIZONTALzjVERTICALtRIGHTtTRIPLE DASH HORIZONTALzgVERTICALtUPv AND HORIZONTALzbLEFTzcIG
HT DOWNzbRIGHTtVERTICALzc AND HORIZONTALzhLEFTzhRIGHTnLEFT DOWN HEAVY AND RIGHT UP LIGHTsHEAVY AN
D RIGHT DOWN LIGHTzjUP LIGHTzjVERTICAL LIGHTsLIGHT AND RIGHT DOWN HEAVYzjUP HEAVYzjVERTICAL HEAVYs
UP HEAVY AND RIGHT DOWN LIGHToIGHT ARC DOWN AND LEFTzhRIGHTxUP AND LEFTzfRIGHTtDIAGONAL CROSSzdDIA
MONDzdMIDDLE LEFT TO LOWER CENTREzzf TO MIDDLE RIGHTzsUPPER CENTRE TO MIDDLE RIGHTzzv TO LOWER CEN
TREzkRIGHT TO LOWER CENTREztUPPER CENTRE TO MIDDLE LEFT TO LOWER CENTREzdUPPER CENTRE TO MIDDLE LE
FTzzf AND MIDDLE RIGHT TO LOWER CENTREzzgTO LOWER CENTREzzv TO MIDDLE RIGHTzzbRIGHTzzg AND MIDDL
E LEFT TO LOWER CENTREzzhTO LOWER CENTREzzw TO MIDDLE LEFTzjLEFT TO LOWER RIGHTzjRIGHT TO LOWER LE
FTuOUBLE DASH HORIZONTALzgVERTICALvWNx AND HORIZONTALzdLEFTzdRIGHTtHORIZONTALze WITH VERTICAL STRO
KEtLEFTx AND HEAVY RIGHTtQUADRUPLE DASH HORIZONTALzjVERTICALtRIGHTtTRIPLE DASH HORIZONTALzgVERTICA
LtUPv AND HEAVY DOWNzcORIZONTALzbLEFTzbRIGHTtVERTICALzc AND HORIZONTALzhLEFTzhRIGHTnRIGHT DOWN HEA
VY AND LEFT UP LIGHTtHEAVY AND LEFT DOWN LIGHTzjUP LIGHTzjVERTICAL LIGHTtLIGHT AND LEFT DOWN HEAVY
zjUP HEAVYzjVERTICAL HEAVYtUP HEAVY AND LEFT DOWN LIGHTnUP DOUBLE AND HORIZONTAL SINGLEzcLEFT SING
LEzcRIGHT SINGLEqHEAVY AND DOWN HORIZONTAL LIGHTzbHORIZONTAL LIGHTzbLEFT DOWN LIGHTzgLIGHTzbRIGH
T DOWN LIGHTzhLIGHTqLIGHT AND DOWN HORIZONTAL HEAVYzbHORIZONTAL HEAVYzbLEFT DOWN HEAVYzgHEAVYzbRIG
HT DOWN HEAVYzhHEAVYqSINGLE AND HORIZONTAL DOUBLEzcLEFT DOUBLEzcRIGHT DOUBLEnVERTICAL DOUBLE AND H
ORIZONTAL SINGLEziLEFT SINGLEziRIGHT SINGLEwHEAVY AND HORIZONTAL LIGHTzhLEFT LIGHTzhRIGHT LIGHTwLI
GHT AND HORIZONTAL HEAVYzhLEFT HEAVYzhRIGHT HEAVYwSINGLE AND HORIZONTAL DOUBLEziLEFT DOUBLEziRIGH
T DOUBLEdING GLOVEcYdS SYMBOLbPHbRAHMI DANDAiIGIT EIGHTnFIVEoOURnNINEnONEnSEVENoIXnTHREEoWOnZEROiO
UBLE DANDAhLETTER ApApIpUoBApHAoCApHAoDApDAqHApHAoEoGApHAoHAoIpIoJApHAoKApHAoLApLAoMAoNApGApNApYAo
OpLD TAMIL LLAzbLAyNNNAyRRAySHORT EzfOoPApHAoRAoSApHApSAoTApHApTAqHAoUpUoVApOCALIC LxLwRxRoYAhNUMB
ER EIGHTtYoFIFTYqVEpORTYqURoJOINERoNINEsTYoONEr HUNDREDsTHOUSANDoSEVENtTYpIXrTYoTENpHIRTYqREEpWENT
YqOhPUNCTUATION CRESCENT BARtDOTvUBLE DOTtLINEuOTUShSIGN ANUSVARAmCANDRABINDUmJIHVAMULIYAmOLD TAMI
L VIRAMAmUPADHMANIYAmVISARGAhVIRAMAiOWEL SIGN AAtItUsBHATTIPROLU AAsEsItIsOtLD TAMIL SHORT EzjOsUt
UsVOCALIC LzcLzbRzcRdILLE PATTERN BLANKqDOTS-1w2x3y4za5zb6zc7zd8zc8zb7zc8zb8za6zb7zc8zb8za7zb8za8y
5za6zb7zc8zb8za7zb8za8y6za7zb8za8y7za8y8x4y5za6zb7zc8zb8za7zb8za8y6za7zb8za8y7za8y8x5y6za7zb8za8y7
za8y8x6y7za8y8x7y8x8w3x4y5za6zb7zc8zb8za7zb8za8y6za7zb8za8y7za8y8x5y6za7zb8za8y7za8y8x6y7za8y8x7y8
x8w4x5y6za7zb8za8y7za8y8x6y7za8y8x7y8x8w5x6y7za8y8x7y8x8w6x7y8x8w7x8w8v2w3x4y5za6zb7zc8zb8za7zb8za
8y6za7zb8za8y7za8y8x5y6za7zb8za8y7za8y8x6y7za8y8x7y8x8w4x5y6za7zb8za8y7za8y8x6y7za8y8x7y8x8w5x6y7z
a8y8x7y8x8w6x7y8x8w7x8w8v3w4x5y6za7zb8za8y7za8y8x6y7za8y8x7y8x8w5x6y7za8y8x7y8x8w6x7y8x8w7x8w8v4w5
x6y7za8y8x7y8x8w6x7y8x8w7x8w8v5w6x7y8x8w7x8w8v6w7x8w8v7w8v8eNcEADeK PERMITTED HEREeST-FEEDINGdVEcI
CKdDE WITH VEILeGE AT NIGHTdEFCASEfScOCCOLIdKEN BARhCIRCLE WITH NORTHWEST ARROWhHEARTdOMdWN HEARTb
SbUBBLE TEAgScCKETcGdINESE END OF SECTIONjLETTER AqBAqCAqDAqGAqHAqJAqKAqLAqMArPAqNArGAsKArRArYAsCA
qPAqRAqSAqTAqVAqYAjPALLAWAjVOWEL SIGN AEuEuIuOuUcHID LETTER AnBAnDAnGAnHAnInKAnLAnMAnNAoGAnPAnRAnS
AnTAnUnWAnYAgVOWEL SIGN IrUcILDING CONSTRUCTIONcLLETg OPERATOReHORNi WITH SOUND WAVESeSEYEcRRITOcS
d STOPdT IN SILHOUETTEeS IN SILHOUETTEcTTERgFLYbYTE ORDER MARKcZANTINE MUSICAL SYMBOL AGOGI ARGIzj
OTERIzgGORGIzkOTERIzgMESIziTRIAzgPOLI ARGIzlGORGIzbNATRICHISMAzcTIKENOKYLISMAziMAzbPESO EKFONITIKO
NzhXO NEOzcLIzcODERMA ARCHAIONzjNEOzdSTROFOI SYNDESMOS NEOzlTELOUS ICHIMATOSzjSzk DIPLIzlNEOzdTHEM
AzbRGONzeSYNTHETONzcKTIKO DIziGAziKEziNIziPAziVOUziZOzaCHAMILIzgONzcOREVMA ARCHAIONzjNEOzcROA KLIT
ONzgSPATHIzgZYGOSzaDASEIAzbIARGONzdSTOLI APLI MEGALIzpIKRIzjDIPLIzjTHESEOSzcESIS APLI DYO DODEKATA
zhDIGRAMMOS EX DODEKATAzhMONOGRAMMOS TESSERA DODEKATAzhTETARTIMORIONziRIGRAMMOS OKTO DODEKATAzkTIM
ORIONzcFTOGGOS OUzcGORGONzi PARESTIGMENON ARISTERA ANOzzhKATOzxDEXIAzdRAMMA GGzcPLIzf ARCHAIONzbYO
zaEKSTREPTONzbLAFRONzbNARXIS KAI FTHORA VOUzcDOFONONzbPEGERMAzbTERON ARGOSYNTHETONzhPARAKALESMAzbX
O EKFONITIKONzaFANEROSIS DIFONIASzkMONOFONIASzkTETRAFONIASzbHTORA SKLIRON CHROMA VASISzbTHORA ARCH
AIONzp DEYTEROU ICHOUzhDIATONIKI DIzrKEzrNANAzsI ANOzuKATOzrPAzrZOzhENARMONIOS ANTIFONIAzhI YFESI
S TETARTIMORIONzhMALAKON CHROMA DIFONIASzwMONOFONIASzhNAOS ICHOSziENANOzhSKLIRON CHROMA SYNAFIzwVA
SISzpDIATONON DIzaGENIKI DIESISzhYFESISzbORGON ARCHAIONzhNEO ANOzlKATOzhPARESTIGMENON ARISTERAzvDE
XIAzfSYNTHETONzdTHMIKON N APLOUNznDIPLOUNzbRONTHISMATAzaICHADINzbMIDIARGONzdFONONzeTHORAziONzbSAKI
A TELOUS ICHIMATOSzcON ARCHAIONzfNEOzaKATAVA TROMIKONzgSMAzdHISTIzbENTIMA ARCHAIONziNEO ANOzmKATOz
mMESOzhTAzj ARCHAIONzkNEO ANOzoKATOzoMESOzbLASMAzg ANOzhKATOzbONTEVMAzi ALLOzcRONISzcUFISMAzbRATIM
A ALLOzjRCHAIONziNEOzhTAzgOKOUFISMAzhYPORROONzcEMASTIzbYLISMAzaLEIMMA DYO CHRONONzhENOS CHRONOUzhI
MISEOS CHRONOUzhTESSARON CHRONONziRION CHRONONzcMOIzbYGISMAzaMARTYRIA ALLI DEYTEROS ICHOSzoPROTO
S ICHOSzjDEYTEROS ICHOSzjLEGETOS ICHOSzjPLAGIOS ICHOSzrTETARTOS ICHOSzkROTOS ICHOSzoVARYS ICHOSzjT
ETARTOS ICHOSzsLEGETOS ICHOSzkRIFONIASzmTOS ICHOSzjVARYS ICHOSzbIKRON ISONzaNANAzaOLIGON ARCHAIONz
hNEOzbMALONzbXEIA DIPLIzgEKFONITIKONzgNEOzfI ARCHAIONzbYRANISMA ARCHAIONzkNEOzaPARAKALESMA ARCHAIO
NzmNEOzfLITIKIzl ARCHAIONzmNEOzdICHONzbELASTONzi NEOzcRISPOMENIzcTASMAzfTIzgOKOUFISMAzbIASMA ARCHA
IONzhNEOzbSIFISTOLYGISMAziNzj NEOziPARAKALESMAziSYNAGMAzdLIzeONzaRAPISMAzbEVMAzaSAXIMATAzbEISMAz
g NEOzbIMANSIS ARSEOSzp DISIMOUzqTETRASIMOUzrRISIMOUzjTHESEOSzq DISIMOUzrTETRASIMOUzsRISIMOUzbTAVR
OSzh APODEXIAzcIGMAzcRAGGISMATAzbYNAGMA ARCHAIONziMETA STAVROUziNEOzdEVMAzcRMAzfTIKIzaTELEIAzcSSER
AzcTRAPLIzbHEMAzf APLOUNzfTISMOS ESOznXOzdS KAI APOTHESzcITAzbINAGMAzbRIAzdGORGONzdPLIzcOMIKOLYGIS
MAzhN ALLOzkRCHAIONzjNEOzhPARAKALESMAziSIFISTONzhSYNAGMAzaVAREIA DIPLIzhEKFONITIKONzhNEOzgI ARCHAI
ONzcTHYzaXIRON KLASMAzaYFEN ANOzfKATOzdSIS APLI DYO DODEKATAzhDIGRAMMOS EX DODEKATAzhMONOGRAMMOS T
ESSERA DODEKATAzhTRIGRAMMOS OKTO DODEKATAzkTIMORIONzbPOKRISISzj DIPLIzdRROIzcSILIaCACTUScDA UNAdUC
EUScLENDARdL ME HANDcMERAg WITH FLASHdPINGcNdADIAN SYLLABICS AuAvIvYuIvVILIK BuNuTHAPASCAN MzfSuYt
BEAVER DENE LzgRuIBLE-CREE YuLACKFOOT AzeEzeIzeKAzfEzfIzfOzeNAzfEzfIzfOzeOzeSzeWzfAzfEzfIzfOtCuAvA
wIvRRIER CHAzeEzfEzeIzeOzeUzcDEEzeNE GEEzfTAL SzdIzdLAzeEzfEzeIzeOzeUzdZAzeEzfEzeIzeOzeUzcEEzcGAze
AzdEzeEzdHAzeEzfEzeIzeOzeUzdIzdOzdUzdWAzeUzcHzdEEzdIzdWAzeEzfEzeIzeOzeUzcIzdNITIAL ZzcJAzdEzeEzdIz
dJAzeEzfEzeIzeOzeUzdOzdUzdWAzcKHAzeEzfEzeIzeOzeUzdKzeAzeEzfEzeIzeOzeUzcLAzdEzeEzdHAzeEzfEzeIzeOzeU
zdIzdOzdUzcMAzdEzeEzdIzdOzdUzcNAzdEzeEzdGzdIzdOzdUzcPzdAzdEzeEzdIzdOzdUzcRAzdEzeEzdIzdOzdUzcSAzdEz
eEzdHzeAzeEzfEzeIzeOzeUzdIzdOzdUzcTHAzeEzfEzeIzeOzeUzdLAzeEzfEzeHAzfEzgEzfIzfOzfUzeIzeOzeUzdSAzeEz
fEzeIzeOzeUzdTAzeEzfEzeIzeOzeSAzfEzgEzfIzfOzfUzeUzcWAzdEzeEzdIzdOzdUzcYAzdEzeEzdIzdOzdUzcZzdAzdEze
EzdIzdOzdUuEuHI SIGNuIvIuOvOuWAwAvEvIwIvOwOtEuASTERN WuNtFuAvAwIuEuIvIvNAL ACUTEzaBOTTOM HALF RING
zaDOUBLE ACUTEzhSHORT VERTICAL STROKESzcWN TACKzaGRAVEzaMIDDLE DOTzaPLUSzaRAISED DOTzbIGHT HALF RI
NGzcNGzaSHORT HORIZONTAL STROKEzbMALL RINGzaTOP HALF RINGuOvOuULL STOPuWAAtGLOTTAL STOPtHKuYPHENtI
uIuNtKuAvAwIvYuEuIvIuOvOuWvAwAwYvEvIwIvOwOtLuAvAwIvYuEuHvAwAvIwIvOwOuIvIuOvOuWAwAvEvIwIvOwOtMuAvAw
IvYuEvDIAL LzbRuHuIvIuOvOwSE-CREE SKuWAwAvEvIwIvOwOtNu-CREE THEzdIzeIuAvAwIvSKAPI CWAAzcKWAAzcMWAA
zcNWAAzcS-WzdCWAzdKWzfAzdPWAzdTWAzdWAAzcTWAAzcWAAzdOOzcYWAAvTTILIK HAzfAzeIzfIzeOzfOzdSHRAzhAzgIzh
IzgOzhOvYuEuGvAwAxIwIvIwIvOwOuHuIvIuNGwAxAwIxIwOxOuOvOvYuUNAVIK HzdAzeAzdEzdIzeIzdOzeOyUT HuWAwAvE
vIwIvOwOtOuJIBWAY CzcKzcMzcNzdWIzfIzeOzfOzcPzcSzdHzcTuNuOuYtPuAvAwIvYuEuIvIuOvOvYuWAwAvEvIwIvOwOwY
tQuAvAwIvIuIvIuOvOtRu-CREE REzcWEuAvAwIvYuEuIvIuOvOuWAwAvEEvIwIvOwOtSuAvAwIvYwISI HAzcEzcIzcOzdOzb
JIzcUzdUzbMzbSHAzdEzdIzdOzeOzdWEzbTHzbYIuEuHvAwAwYvEvIwIvOwOwYvWAxAwEwIxIwOxOxYuIvIuOvOvUTH-SLAVE
Y KAHziEHziIHziOHvYuPAvEvIvOuWvAwAvEvIwIvOwOtTuAvAwIvYuEuHv-CREE THzeAzfAzeEzeIzfIzeOzfOvAwAvEvIwI
vOwOvWAxAwEuIvIuLHAwEwIwOxOwWEuOvOuTAvEvHwAxAwEwIwOxOwWEvIvOuWAwAvEvIwIvOwOuYAvEvIvOtWAvAvYuEvST-C
REE CWAzhAzgEzgIzhIzgOzhOzeFWAAzeKWAzhAzgEzgIzhIzgOzhOzeLzfAzgAzfEzfOzgOzfWAzhAzgEzgIzhIzgOzhOzeMz
fWAzhAzgEzgIzhIzgOzhOzeNWAzhAzgEzePzfWAzhAzgEzgIzhIzgOzhOzeRzfAzfEzfIzfOzfWAAzeSHWAziAzhEzhIziIzhO
ziOzfWAzhAzgEzgIzhIzgOzhOzeTHWAAzfWAzhAzgEzgIzhIzgOzhOzeWAzgAzfEzfIzgIzfOzgOzeYzfWAzhAzgEzgIzhIzgO
zhOxERN WuIvIuOvOwDS-CREE FINAL THzfTHzhAzhEzhIzhOzhWAzjAziEEziIzjIziOzjOtYu-CREE COOzbKOOzbLOOzbM
OOzbNOOzbOOzbPOOzcWAAzbSOOzbTOOzbWzbYOOuAvAwIvYuEuIvIuOvOvYuWAwAvEvIwIvOwOdCELg CHARACTERhTAGgLATI
ON XfRdDLEeYdNED FOODdOEcPITULUMdRICORNcR SLIDINGdD FILE BOXfINDEXk DIVIDERSdE OFeTf INSERTION POI
NTdIAN LETTER Ap2oBoC-18q39oDp2oEp2oGp2oIpIoKp2oLpDq2oMpBq2q3q4oNpDpGpNoOoPp2oQoRpRoSpHq2pSpTq2oTp
Tq2oUpUqUr2r3rUoXdONeUSEL HORSEdP STREAMEReENTRY SAWdRIAGE RETURNeOTcSTLEcTd FACEi WITH TEARS OF J
OYoWRY SMILEcUCASIAN ALBANIAN CITATION MARKtLETTER ALTzcORzbBETzbCARzdYNzcHAzeTzdIzdOYzcYAWzeYzbDA
TzcYANzcZAYzdYAYzbEBzcYNzbFAMzbGHEYSzcIMzbHEYTzbINYAzcRBzcWNzbJAYNzcHOXzbKARzcIWzbLANzcYITzbMAQzbN
OWCzbONzbPENzcIWRzbQARzdYzbRATzbSEYKzcHAzeKzdOYzbTASzcIWRzcYAYzbVEYZzbXEYNzbYAYDzcOWDzbZARLzcHAzdI
LdTION SIGNbCHbEDI SIGNeLLAcLTIC CROSScNT SIGNeRE LINE SYMBOLgLINE LOW LINElOVERLINEcRESbGJbHAINSe
RdKMA AU MARKhDANDAiIGIT EIGHTnFIVEoOURnNINEnONEnSEVENoIXnTHREEoWOnZEROiOUBLE DANDAhLETTER AAoBAAp
HAAoCAApHAAoDAApDAAqHAApHAAoEoGAApHAAoHAAoIoJAApHAAoKAApHAAoLAApHAAoMAAoNAApGAApNAApYAAoPAApHAAoRA
AoSAAoTAApHAApTAAqHAAoUoVAAoWAAoYAApYAAhMAAYYAAhO MARKhQUESTION MARKhSECTION MARKiIGN ANUSVARAmCAN
DRABINDUmVISARGAhVIRAMAiOWEL SIGN AtAtItUsEtIsItIsOtIsUtUdM CONSONANT SIGN FINAL HzbMzbNGuLAuRAuWA
uYAfDIGIT EIGHTlFIVEmOURlNINElONElSEVENmIXlTHREEmWOlZEROfLETTER AnImBAnBAnHAmCHAoHAmDAnDAnHAmEmFIN
AL CHsGsKsLsNtGsPsRsSSsTsYmGAnHAmHAmImJAnHAmKAnHAmLAmMAnUEmNAnGAoUEnHAoJAoUEnUEmOmPAnHAnPAmRAmSAnS
AmTAnHAmUmVAmYAfPUNCTUATION DANDAsOUBLE DANDArSPIRALrTRIPLE DANDAfVOWEL SIGN AArIrUqEIqIrIqOrEqUrE
dRACTER TABULATIONu SETvWITH JUSTIFICATIONlIEeT WITH DOWNWARDS TRENDlUPWARDS TRENDy AND YEN SIGNcE
CK MARKfER BOARDn FILLdERING MEGAPHONEeSE WEDGEdQUERED FLAGdROKEE LETTER AqDArErIrLArOrUrVqEqGArEr
IrOrUrVqHArErIrNArOrUrVqIqKAqLArErIrOrUrVqMArErIrOrUrVqNAsHrErIrOrUrVqOqQUAsEsIsOsUsVqSrArErIrOrUr
VqTArErIrLAsEsIsOsUsVrSAsEsIsOsUsVqUqVqWArErIrOrUrVqYArErIrOrUrVjSMALL LETTER AwDAxExIxLAxOxUxVwEw
GAxExIxOxUxVwHAxExIxNAxOxUxVwIwKAwLAxExIxOxUxVwMAxExIxOxUxVwNAyHxExIxOxUxVwOwQUAyEyIyOyUyVwSxAxExI
xOxUxVwTAxExIxLAyEyIyOyUyVxSAyEyIyOyUyVwUwVwWAxExIxOxUxVwYAxExIxOxUxVeRIESfY BLOSSOMdSTNUTcI RHOdC
KENdLDfREN CROSSINGdPMUNKdRONcOCOLATE BARdPSTICKSdRASMIAN LETTER ALEPHtYINsBETHsCURLED WAWsDALETHs
GIMELsHEuTHsKAPHsLAMEDHsMEMsNUNsPEsRESHsSAMEKHtHINtMALL ALEPHsTAWsWAWsYODHsZAYINlNUMBER FOURsONE
v HUNDREDsTENtHREEtWENTYuOcRISTMAS TREEcURCHbINEMAcRCLE DIVIDED BY HORIZONTAL BAR AND TOP HALF DIV
IDED BY VERTICAL BARhWITH ALL BUT UPPER LEFT QUADRANT BLACKmHORIZONTAL BARmLEFT HALF BLACKnOWER HA
LF BLACKmRIGHT HALF BLACKmSMALL CIRCLE TO THE RIGHTnUPERIMPOSED XmTWO HORIZONTAL STROKES TO THE RI
GHTmUPPER HALF BLACKsRIGHT QUADRANT BLACKmVERTICAL FILLgD ANTICLOCKWISE ARROWv-ROTATED DIVISION SI
GNjSTERISK OPERATORiBOLD XjULLETiC WITH OVERLAID BACKSLASHjCjDjROSS FORMEEu WITH FOUR DOTSzbTWO DO
TSoPOMMEEnING LANESiDASHjIGIT EIGHToFIVEpOURoNINEoONEoSEVENpIXoTHREEpWOoZEROkVISION SIGNsLASHjOLLA
R SIGN WITH OVERLAID BACKSLASHkT OPERATORiEQUALSiGREATER-THANiHANGUL CHIEUCHw AqIEUCu ApHIEUHu ApI
EUNGu AvUpKHIEUKHw AqIYEOKv ApMIEUMu ApNIEUNu ApPHIEUPHw AqIEUPu ApRIEULu ApSIOSt ApTHIEUTHw AqIKE
UTv AjEAVY WHITE RIGHTWARDS ARROWjORIZONTAL BAR WITH NOTCHjUMAN FIGUREiIDEOGRAPH ACCEPTtDVANTAGEtL
LIANCEtTTENTIONsCENTREtONGRATULATIONuPYuRRECTsEARTHtIGHTtNTERPRISEtXCELLENTsFEMALEtINANCIALuREuVEt
OURsHAVEtIGHsITEMsKINDERGARTENtOTOsLABORtEFTtOWsMALEtEDICINEuTALtOONsNAMEtIGHTuNEsONEsPRINTsQUESTI
ONsRELIGIONuSOURCEvTtIGHTsSCHOOLtECRETuVENtIXtOCIETYtPECIALtTOCKuUDYtUITABLEuNuPERVISEsTENtHREEtWO
sWATERtOODjNFORMATION SOURCEjTALIC LATIN CAPITAL LETTER CzlRiKATAKANA ArErHAsEsIsOsUrIrKAsEsIsOsUr
MAsEsIsOsUrNAsEsIsOsUrOrRAsEsIsOsUrSAsEsIsOsUrTAsEsIsOsUrUrWAsEsIsOrYAsOsUjOREAN CHARACTER CHAMKOz
aJUEUIiLATIN CAPITAL LETTER AzeBzeCzeDzeEzeFzeGzeHzeIzeJzeKzeLzeMzeNzeOzePzeQzeRzeSzeTzeUzeVzeWzeX
zeYzeZoSMALL LETTER AzcBzcCzcDzcEzcFzcGzcHzcIzcJzcKzcLzcMzcNzcOzcPzcQzcRzcSzcTzcUzcVzcWzcXzcYzcZjE
SS-THANiMINUSjULTIPLICATION SIGN WITH CIRCUMFLEX ACCENTiNUMBER EIGHTEENuY ON BLACK SQUAREqLEVENpFI
FTEENtYu ON BLACK SQUAREqORTYu EIGHTvFIVEwOURvNINEvON BLACK SQUARExEvSEVENwIXvTHREEwWOrURTEENpNINE
TEENpSEVENTEENvY ON BLACK SQUAREqIXTEENtY ON BLACK SQUAREpTENs ON BLACK SQUAREqHIRTEENuYv EIGHTwFI
VExOURwNINEwON BLACK SQUAREyEwSEVENxIXwTHREExWOqWELVEsNTYv EIGHTwFIVExOURwNINEwON BLACK SQUAREyEwS
EVENxIXwTHREExWOiOPEN CENTRE EIGHT POINTED STARiPARALLELjERPENDICULARjLUSjOSTAL MARKiREVERSE SOLID
USjING OPERATORiSQUAREiTIMESjRIANGLEq DOWNiVERTICAL BARiWHITE BULLEToSTARjZiXiZERO WITH SLASHeULAT
ION FUNCTIONfMFLEX ACCENTfS TENTcTYSCAPEj AT DUSKbJK COMPATIBILITY IDEOGRAPH-2F800zh1zh2zh3zh4zh5z
h6zh7zh8zh9zhAzhBzhCzhDzhEzhFzg10zh1zh2zh3zh4zh5zh6zh7zh8zh9zhAzhBzhCzhDzhEzhFzg20zh1zh2zh3zh4zh5z
h6zh7zh8zh9zhAzhBzhCzhDzhEzhFzg30zh1zh2zh3zh4zh5zh6zh7zh8zh9zhAzhBzhCzhDzhEzhFzg40zh1zh2zh3zh4zh5z
h6zh7zh8zh9zhAzhBzhCzhDzhEzhFzg50zh1zh2zh3zh4zh5zh6zh7zh8zh9zhAzhBzhCzhDzhEzhFzg60zh1zh2zh3zh4zh5z
h6zh7zh8zh9zhAzhBzhCzhDzhEzhFzg70zh1zh2zh3zh4zh5zh6zh7zh8zh9zhAzhBzhCzhDzhEzhFzg80zh1zh2zh3zh4zh5z
h6zh7zh8zh9zhAzhBzhCzhDzhEzhFzg90zh1zh2zh3zh4zh5zh6zh7zh8zh9zhAzhBzhCzhDzhEzhFzgA0zh1zh2zh3zh4zh5z
h6zh7zh8zh9zhAzhBzhCzhDzhEzhFzgB0zh1zh2zh3zh4zh5zh6zh7zh8zh9zhAzhBzhCzhDzhEzhFzgC0zh1zh2zh3zh4zh5z
h6zh7zh8zh9zhAzhBzhCzhDzhEzhFzgD0zh1zh2zh3zh4zh5zh6zh7zh8zh9zhAzhBzhCzhDzhEzhFzgE0zh1zh2zh3zh4zh5z
h6zh7zh8zh9zhAzhBzhCzhDzhEzhFzgF0zh1zh2zh3zh4zh5zh6zh7zh8zh9zhAzhBzhCzhDzhEzhFzf900zh1zh2zh3zh4zh5
zh6zh7zh8zh9zhAzhBzhCzhDzhEzhFzg10zh1zh2zh3zh4zh5zh6zh7zh8zh9zhAzhBzhCzhDzhEzhFzg20zh1zh2zh3zh4zh5
zh6zh7zh8zh9zhAzhBzhCzhDzhEzhFzg30zh1zh2zh3zh4zh5zh6zh7zh8zh9zhAzhBzhCzhDzhEzhFzg40zh1zh2zh3zh4zh5
zh6zh7zh8zh9zhAzhBzhCzhDzhEzhFzg50zh1zh2zh3zh4zh5zh6zh7zh8zh9zhAzhBzhCzhDzhEzhFzg60zh1zh2zh3zh4zh5
zh6zh7zh8zh9zhAzhBzhCzhDzhEzhFzg70zh1zh2zh3zh4zh5zh6zh7zh8zh9zhAzhBzhCzhDzhEzhFzg80zh1zh2zh3zh4zh5
zh6zh7zh8zh9zhAzhBzhCzhDzhEzhFzg90zh1zh2zh3zh4zh5zh6zh7zh8zh9zhAzhBzhCzhDzhEzhFzgA0zh1zh2zh3zh4zh5
zh6zh7zh8zh9zhAzhBzhCzhDzhEzhFzgB0zh1zh2zh3zh4zh5zh6zh7zh8zh9zhAzhBzhCzhDzhEzhFzgC0zh1zh2zh3zh4zh5
zh6zh7zh8zh9zhAzhBzhCzhDzhEzhFzgD0zh1zh2zh3zh4zh5zh6zh7zh8zh9zhAzhBzhCzhDzhEzhFzgE0zh1zh2zh3zh4zh5
zh6zh7zh8zh9zhAzhBzhCzhDzhEzhFzgF0zh1zh2zh3zh4zh5zh6zh7zh8zh9zhAzhBzhCzhDzhEzhFzfA00zh1zh2zh3zh4zh
5zh6zh7zh8zh9zhAzhBzhCzhDzhEzhFzg10zh1zh2zh3zh4zh5zh6zh7zh8zh9zhAzhBzhCzhDzdF900zg1zg2zg3zg4zg5zg6
zg7zg8zg9zgAzgBzgCzgDzgEzgFzf10zg1zg2zg3zg4zg5zg6zg7zg8zg9zgAzgBzgCzgDzgEzgFzf20zg1zg2zg3zg4zg5zg6
zg7zg8zg9zgAzgBzgCzgDzgEzgFzf30zg1zg2zg3zg4zg5zg6zg7zg8zg9zgAzgBzgCzgDzgEzgFzf40zg1zg2zg3zg4zg5zg6
zg7zg8zg9zgAzgBzgCzgDzgEzgFzf50zg1zg2zg3zg4zg5zg6zg7zg8zg9zgAzgBzgCzgDzgEzgFzf60zg1zg2zg3zg4zg5zg6
zg7zg8zg9zgAzgBzgCzgDzgEzgFzf70zg1zg2zg3zg4zg5zg6zg7zg8zg9zgAzgBzgCzgDzgEzgFzf80zg1zg2zg3zg4zg5zg6
zg7zg8zg9zgAzgBzgCzgDzgEzgFzf90zg1zg2zg3zg4zg5zg6zg7zg8zg9zgAzgBzgCzgDzgEzgFzfA0zg1zg2zg3zg4zg5zg6
zg7zg8zg9zgAzgBzgCzgDzgEzgFzfB0zg1zg2zg3zg4zg5zg6zg7zg8zg9zgAzgBzgCzgDzgEzgFzfC0zg1zg2zg3zg4zg5zg6
zg7zg8zg9zgAzgBzgCzgDzgEzgFzfD0zg1zg2zg3zg4zg5zg6zg7zg8zg9zgAzgBzgCzgDzgEzgFzfE0zg1zg2zg3zg4zg5zg6
zg7zg8zg9zgAzgBzgCzgDzgEzgFzfF0zg1zg2zg3zg4zg5zg6zg7zg8zg9zgAzgBzgCzgDzgEzgFzeA00zg1zg2zg3zg4zg5zg
6zg7zg8zg9zgAzgBzgCzgDzgEzgFzf10zg1zg2zg3zg4zg5zg6zg7zg8zg9zgAzgBzgCzgDzgEzgFzf20zg1zg2zg3zg4zg5zg
6zg7zg8zg9zgAzgBzgCzgDzgEzgFzf30zg1zg2zg3zg4zg5zg6zg7zg8zg9zgAzgBzgCzgDzgEzgFzf40zg1zg2zg3zg4zg5zg
6zg7zg8zg9zgAzgBzgCzgDzgEzgFzf50zg1zg2zg3zg4zg5zg6zg7zg8zg9zgAzgBzgCzgDzgEzgFzf60zg1zg2zg3zg4zg5zg
6zg7zg8zg9zgAzgBzgCzgDzf70zg1zg2zg3zg4zg5zg6zg7zg8zg9zgAzgBzgCzgDzgEzgFzf80zg1zg2zg3zg4zg5zg6zg7zg
8zg9zgAzgBzgCzgDzgEzgFzf90zg1zg2zg3zg4zg5zg6zg7zg8zg9zgAzgBzgCzgDzgEzgFzfA0zg1zg2zg3zg4zg5zg6zg7zg
8zg9zgAzgBzgCzgDzgEzgFzfB0zg1zg2zg3zg4zg5zg6zg7zg8zg9zgAzgBzgCzgDzgEzgFzfC0zg1zg2zg3zg4zg5zg6zg7zg
8zg9zgAzgBzgCzgDzgEzgFzfD0zg1zg2zg3zg4zg5zg6zg7zg8zg9eRADICAL BAMBOOnLUEnOLT OF CLOTHoNEoXnRUSH ON
EsTWOmC-SIMPLIFIED BIRDzaCARTzaDRAGONzaEATzbVENzaFISHzbLYzbROGzaGATEzbOLDzaHORSEzaLEAFzbONGzaSALTz
bEEzbHELLzbILKzbPEECHzaTANNED LEATHERzbOOTHzbURTLEzaWINDnHOKEnITYoVILIANnLIFFoOTHESnOWmDEATHnIVINA
TIONnOGmEAT ONEqTHREErWOnWEnYEmFIREnOOTmGHOSTnRASS ONEsTHREEtWOmHANDnEADpRT ONEsTWOnORNmJ-SIMPLIFI
ED DRAGONzaEVENzaTOOTHzbURTLEnADEmKNIFE ONEsTWOmLAME FOURrONErTHREEsWOnONG ONErTWOmMEAToSHnOONoRTA
RoTHERoUND ONEsTWOmNET FOURqONEqTHREErWOmOLDmPAW ONEqTWOnERSONmRAINoMoPnEPEATmSEALoCOND ONEtTHREEu
WOnHEEPnILKoMPLIFIED HALF TREE TRUNKyORNxWALKyHEATxYELLOWnMALL ONEsTWOnNAKEoOUT ONEsTWOnPIRIT ONEt
TWOnUNmTABLEnHREADnIGERnURTLEmWALK ONErTWOoTER ONEsTWOnEST ONErTWOeSTROKE BXGlDlHmGmPnWGmXWGmZnGnT
nWoGnZoPoZpGlNlPmDmGmZlQlSmGmPmTmWnGnZmZnWGnZlTmNlWGlXGbLAMSHELL MOBILE PHONEdPPER BOARDfING HAND
S SIGNdSSICAL BUILDINGcEAR SCREEN SYMBOLcINKING BEER MUGSjGLASSESdPBOARDcOCK FACE EIGHT OCLOCKq-TH
IRTYmLEVEN OCLOCKr-THIRTYlFIVE OCLOCKp-THIRTYmOUR OCLOCKp-THIRTYlNINE OCLOCKp-THIRTYlONE OCLOCKo-T
HIRTYlSEVEN OCLOCKq-THIRTYmIX OCLOCKo-THIRTYlTEN OCLOCKo-THIRTYmHREE OCLOCKq-THIRTYmWELVE OCLOCKr-
THIRTYnO OCLOCKo-THIRTYfWISE CLOSED CIRCLE ARROWlONTOUR INTEGRALkDOWNWARDS AND UPWARDS OPEN CIRCL
E ARROWSkGAPPED CIRCLE ARROWkINTEGRALkOPEN CIRCLE ARROWkRIGHT AND LEFT SEMICIRCLE ARROWSpWARDS AN
D LEFTWARDS OPEN CIRCLE ARROWSzzd WITH CIRCLED ONE OVERLAYkTOP SEMICIRCLE ARROWlRIANGLE-HEADED OPE
N CIRCLE ARROWdSE UPfD BOOKhINTERSECTION WITH SERIFShLOCK WITH KEYhMAILBOX WITH LOWERED FLAGuRAISE
D FLAGhSUBSETn OR EQUAL TOjPERSETp OR EQUAL TOhUMBRELLAiNION WITH SERIFSy AND SMASH PRODUCTdUDf WI
TH LIGHTNINGlRAINlSNOWlTORNADOdWN FACEbOATcCKROACHeTAIL GLASSdONUTcFFINcINcLLISION SYMBOLdONf EQUA
LSgSIGNcMBINING ACUTE ACCENTw BELOWqTONE MARKp-GRAVE-ACUTEqMACRONlLMOST EQUAL TO ABOVEzbBELOWlNNUI
TY SYMBOLmTICLOCKWISE ARROW ABOVEyRING OVERLAYlSTERISK ABOVEtBELOWkBINDU BELOWlREVEp BELOWp-MACRON
mIDGE ABOVErBELOWkCANDRABINDUmRONp BELOWlEDILLAlIRCUMFLEX ACCENTzc BELOWlLOCKWISE ARROW ABOVEuRIN
G OVERLAYlOMMA ABOVEv RIGHTqBELOWmNJOINING MACRONzc BELOWlYRILLIC DASIA PNEUMATAtHUNDRED MILLION
S SIGNzcTHOUSANDS SIGNtKAVYKAtLETTER AzbBEzcIG YUSzbCHEzbDEzcJERVzbEFzcLzcMzcNzcRzcSzd-TEzbFITAzbG
HEzbHAzdRD SIGNzbIzcEzcOTIFIED AzkBIG YUSzkEzbKAzbLITTLE YUSzbMONOGRAPH UKzbOzcMEGAzbPEzbSHAzdCHAz
cOFT SIGNzbTEzcSEzbUzcKRAINIAN IEzbVEzbYATzcERUzcIzcUzbZEzcHEtMILLIONS SIGNtPALATALIZATIONvYEROKuO
KRYTIEuSILI PNEUMATAtTEN MILLIONS SIGNuHOUSAND MILLIONS SIGNuITLOy LEFT HALFzaRIGHT HALFtVZMETkDEL
ETION MARKmVANAGARI DIGIT EIGHTzcFIVEzdOURzcNINEzcONEzcSEVENzdIXzcTHREEzdWOzcZEROvLETTER AzdKAzdNA
zdPAzdRAzdUzdVIvSIGN AVAGRAHAlIAERESISt BELOWt-RINGlOT ABOVEt LEFTuRIGHToBELOWt LEFTnTED ACUTE ACC
ENTrGRAVE ACCENTmUBLE ACUTE ACCENTrBREVEw BELOWrCIRCUMFLEX ABOVErGRAVE ACCENTrINVERTED BREVEzg BEL
OWrLOW LINErMACRONx BELOWrOPEN MARK BELOWsVERLINErPARENTHESES ABOVEsLUS SIGN ABOVEzcBELOWrRIGHTWAR
DS ARROW BELOWtNG BELOWrTILDEw LEFT HALFxRIGHT HALFrVERTICAL LINE ABOVEzgBELOWzbSTROKE OVERLAYqD C
IRCUMFLEX ACCENTmWN TACK BELOWoWARDS ARROWkENCLOSING CIRCLEzb BACKSLASHuDIAMONDuKEYCAPuSCREENvQUAR
EuUPWARD POINTING TRIANGLElQUALS SIGN BELOWkFERMATAlOUR DOTS ABOVEkGLAGOLITIC LETTER AZUzdBIG YUSz
eUKYzdCHRIVIzdDJERVIzeOBROzdFITAzeRITUzdGLAGOLIzdHERUzdIzeNITIAL IZHEzeOTATED BIG YUSzlSMALL YUSze
ZHEzdKAKOzdLJUDIJEzdMYSLITEzdNASHIzdONUzdPOKOJIzdRITSIzdSHAzfTAzeLOVOzeMALL YUSzdTSIzeVRIDOzdUKUzd
VEDEzdYATIzeERIzgUzfSTUzeOzeUzdZEMLJAzeHIVETElRANTHA DIGIT FIVEzaOURyONEySIXyTHREEzaWOyZEROsLETTE
R AzaKAzaNAzaPAzaVInPHEME JOINERnVE ACCENTw BELOWqTONE MARKp-ACUTE-GRAVEqMACRONmEEK DIALYTIKA TONO
SqKORONISqMUSICAL PENTASEMEyTETRASEMEzaRISEMEqPERISPOMENIqYPOGEGRAMMENIkHOMOTHETIC ABOVEmOK ABOVEm
RNkINFINITYmVERTED BREVEy BELOWvIDGE BELOWtDOUBLE ARCH ABOVEzgBELOWlS BELOWkKATAKANA-HIRAGANA SEMI
-VOICED SOUND MARKzdVOICED SOUND MARKmVYKA ABOVE LEFTxRIGHTkLATIN LETTER SMALL CAPITAL GzmLzmMzmNz
mRqSMALL LETTER Azf WITH DIAERESISzfEzfLPHAzfOzfVzeBzfETAzeCzf CEDILLAzeDzeEzfSHzfTHzeFzfLATTENE
D OPEN A ABOVEzeGzeHzeIzfNSULAR DzmGzmRzmTzeKzeLzf WITH DOUBLE MIDDLE TILDEzfONG SzeMzeNzeOzf WIT
H DIAERESISzlLIGHT CENTRALIZATION STROKEzePzeRzf BELOWzgROTUNDAzeSzfCHWAzeTzfURNED W BELOWzeUzf WI
TH DIAERESISzlLIGHT CENTRALIZATION STROKEzeVzeWzf BELOWzeXzeZlEFT ANGLE ABOVEvBELOWqRROW ABOVEvBEL
OWuHEAD ABOVEzaBELOWpHALF RING ABOVEzaBELOWrRPOON ABOVEpPARENTHESIS ABOVE LEFTzcBELOW LEFTpRIGHT A
RROW ABOVEzcBELOWpTACK BELOWoWARDS ARROW OVERLAYuHARPOON WITH BARB DOWNWARDSlIGATURE LEFT HALFzd B
ELOWtRIGHT HALFze BELOWnHT CENTRALIZATION STROKE BELOWlONG DOUBLE SOLIDUS OVERLAYpSOLIDUS OVERLAYq
TROKE OVERLAYpVERTICAL LINE OVERLAYmW LINEkMACRONq BELOWrLEFT HALFzb BELOWrRIGHT HALFzc BELOWq-ACU
TErBREVErGRAVElINUS SIGN BELOWkNOT TILDE ABOVElUMBER SIGN ABOVEkOGONEKq ABOVElLD PERMIC LETTER ANz
dDOIzdNENOEzdSIIzdZATAlPEN MARK BELOWlVERLINEkPALATALIZED HOOK BELOWmRENTHESES ABOVEwBELOWwOVERLAY
lLUS SIGN ABOVEuBELOWkRETROFLEX HOOK BELOWmVERSE SOLIDUS OVERLAYrD COMMA ABOVElIGHT ARROW ABOVEwBE
LOWvHEAD ABOVEzcND DOWN ARROWHEAD BELOWzfUP ARROWHEAD BELOWzbBELOWqHALF RING ABOVEzbBELOWsRPOON AB
OVEqPARENTHESIS ABOVE RIGHTzdBELOW RIGHTqTACK BELOWpWARDS HARPOON WITH BARB DOWNWARDSmNG ABOVEpBEL
OWpOVERLAYkSEAGULL BELOWlHORT SOLIDUS OVERLAYrTROKE OVERLAYqVERTICAL LINE OVERLAYlNAKE BELOWlQUAR
E BELOWsRACKETS ABOVElTRONG CENTRALIZATION STROKE BELOWlUSPENSION MARKkTHREE DOTS ABOVElILDEp BELO
WqLEFT HALF BELOWqOVERLAYqRIGHT HALF BELOWlRIPLE ACUTE ACCENTrDOTrUNDERDOTlURNED COMMA ABOVEkUP TA
CK ABOVEsBELOWmWARDS ARROW BELOWlR ABOVElS ABOVEkVERTICAL LINE ABOVEyBELOWtTILDEkWIDE BRIDGE ABOVE
pINVERTED BRIDGE BELOWmGGLY LINE BELOWkX ABOVEmBELOWl-X BELOWkZIGZAG ABOVErBELOWdETdMAeERCIAL ATlM
INUS SIGNdPASSeLEMENTeOSITION SYMBOLeRESSIONcNFETTI BALLeOUNDED FACEeUSED FACEdGRUENT WITH DOT ABO
VEdICAL TAPERdJUNCTIONdSTRUCTION SIGNnWORKERdTAINS AS MEMBERmNORMAL SUBGROUPzc OR EQUAL TOjWITH LO
NG HORIZONTAL STROKEoOVERBARoVERTICAL BAR AT END OF HORIZONTAL STROKEeINUOUS UNDERLINE SYMBOLeOU
R INTEGRALeROL KNOBSiSEQUENCE INTRODUCERdVENIENCE STOREcOKED RICEeIEfNGcPTIC CAPITAL LETTER AKHMIM
IC KHEIxLFAwBOHAIRIC KHEIwCROSSED SHEIyYPTOGRAMMIC EIEzlGANGIAzlNIzlSHEIwDALDAxEIxIALECT-P ALEFzhH
ORIzhKAPAzhNIwEIEwFEIxIwGAMMAyNGIAwHATExORIwIAUDAwKAPAxHEIyIxSIwL-SHAPED HAxAULAwMIwNIwOxLD COPTI
C AINziDJAziESHziGANGIAziHAzkTzjEIzjORIziOOUziSHEIzkIMAzbNUBIAN NGIzjYIziSHIMAziWAUxOUwPIxSIwROwSA
MPIxHEIyIMAxIMAxOUwTAUxHETHEwUAwVIDAwZATAiOMBINING NI ABOVErSPIRITUS ASPERzbLENIShEPACT DIGIT EIGH
TtFIVEuOURtNINEtONEtSEVENuIXtTHREEuWOnNUMBER EIGHT HUNDREDzaYuFIFTYwVE HUNDREDvORTYwUR HUNDREDuNIN
E HUNDREDyTYuONE HUNDREDuSEVEN HUNDREDzaTYvIX HUNDREDxTYuTENvHIRTYwREE HUNDREDvWENTYwO HUNDREDnTHO
USANDS MARKhFRACTION ONE HALFiULL STOPhMORPHOLOGICAL DIVIDERhOLD NUBIAN DIRECT QUESTION MARKsFUL
L STOPsINDIRECT QUESTION MARKsVERSE DIVIDERhSMALL LETTER AKHMIMIC KHEIvLFAuBOHAIRIC KHEIuCROSSED S
HEIwYPTOGRAMMIC EIEzjGANGIAzjNIzjSHEIuDALDAvEIvIALECT-P ALEFzfHORIzfKAPAzfNIuEIEuFEIvIuGAMMAwNGIAu
HATEvORIuIAUDAuKAPAvHEIwIvSIuL-SHAPED HAvAULAuMIuNIuOvLD COPTIC AINzgDJAzgESHzgGANGIAzgHAziTzhEIzh
ORIzgOOUzgSHEIziIMAyNUBIAN NGIzhYIzgSHIMAzgWAUvOUuPIvSIuROuSAMPIvHEIwIMAvIMAvOUuTAUvHETHEuUAuVIDAu
ZATAiYMBOL KAIpHI ROoMI ROoPI ROoSHIMA SIMApTAUROSoTAU ROdYLEFT SYMBOLeRIGHT SIGNcRALdNISH VERSE D
IVIDERdRESPONDS TOcUCH AND LAMPdNTERBOREhSINKfING ROD TENS DIGIT EIGHTyFIVEzaOURyNINEyONEySEVENzaI
XyTHREEzaWOnUNIT DIGIT EIGHTyFIVEzaOURyNINEyONEySEVENzaIXyTHREEzaWOdPLE WITH HEARTcWd FACEbRcABcED
IT CARDdSCENT MOONcICKETh BAT AND BALLcOCODILEdISSANTdSS MARKgOF JERUSALEMjLORRAINEgPATTY WITH LEF
T CROSSBARrRIGHT CROSSBARhOMMEEm WITH HALF-CIRCLE BELOWfED FLAGSiNEGATIVE SQUARED LATIN CAPITAL LE
TTER PiSWORDSfING LANESdWNcUTCHdZEIRO SIGNcYING CAT FACEhFACEdSTAL BALLbSIbUBE ROOTcCUMBERcNEIFOR
M NUMERIC SIGN EIGHT ASHzeDISHzeGESH2zeSHAR2zeUzf VARIANT FORMzeVARIANT FORM USSUzv3yLAMITE FIFTYz
hORTYzgONE THIRDzgTWO THIRDSxFIVE ASHzg TENUzdBAN2zh VARIANT FORMzeURUzdDISHzdGESH2zhUzdSHAR2zhUze
IXTHS DISHzdUze VARIANT FORMyOUR ASHzg TENUzdBAN2zh VARIANT FORMzeURUzdDISHzdGESH2zhUzdSHAR2zhUzdU
ze VARIANT FORMzdVARIANT FORM LIMMUzv AzwBzv4xNIGIDAESHzeMINzaNE ASHzdDISHzdGESH2zdSHAR2zdUze VARI
ANT FORMzdVARIANT FORM ILIMMUzw Azw3zw4xOLD ASSYRIAN ONE QUARTERzpSIXTHyNE BAN2zdURUzcEIGHTH ASHzd
SHE3zcGESH2zgUzcHALF GURzcQUARTER ASHzkGURzcSHARUzcTHIRD DISHziVARIANT FORM AxSEVEN ASHzeDISHzeGES
H2zeSHAR2zeUzf VARIANT FORMzeVARIANT FORM IMIN AzwBzv3yHAR2 TIMES GAL PLUS DISHztMINyIX ASHzf TENU
zcDISHzcGESH2zcSHAR2zcUzd VARIANT FORMzcVARIANT FORM ASH9xTHREE ASHzh TENUzeBAN2zfURUzi VARIANT FO
RMzeDISHzeGESH2ziUzeSHAR2zj VARIANT FORMziUzj VARIANT FORMzeVARIANT FORM ESH16zu21yWO ASHzf TENUzc
BAN2zdURUzcESHE3zcGESH2zgUzcSHAR2zgUzcTHIRDS DISHzjVARIANT FORM AkPUNCTUATION SIGN DIAGONAL COLONz
lQUADCOLONzlTRICOLONzcOLD ASSYRIAN WORD DIVIDERzcVERTICAL COLONkSIGN Aq TIMES AxBADxGAN2 TENUxHAxI
GIxLAGAR GUNUxMUSHxSAGq2qBr GUNUsTIMES ASH2yDUN3 GUNUyGALzbN2 TENUyHAyIGI GUNUzaMINyLAGAByNUNzc TE
NUySHESHzbU2yU PLUS U PLUS Ur2s TIMES AzaBALAGzaGAN2 TENUzaME PLUS ENzaSHA3zaTAK4qDr TIMES ESH2qK
r TIMES ERIN2ySHITA PLUS GISHqLr TIMES ALyDIM2yGISHyHAyKAD3zaIySHEyUSHrANrEPHqMARt TIMES KUGzbSHEq
Nr OVER ANsPLUS NAGA OPPOSING AN PLUS NAGAzdSQUAREDsTHREE TIMESrSHEqPINqRADt TIMES KURrKABqSAL2rH
s KABA TENUtOVER ASH OVER ASHzl CROSSING ASH OVER ASH OVER ASHzdTUG2 OVER TUG2 TUG2 OVER TUG2 PAPt
ZIDA TENUs2sGABpBArDs TIMES DISH TENUrG3rHAR2v TIMES AB2zdNIzdZArLs OVER BALsAGrRsA2qIr TIMES AyGA
RyIGI GUNUqUr CROSSING BUsOVER BU ABzbTIMES NA2zbUNrLUGu OVER BULUGrRs2pDAr TIMES TAK4rGs KISIM5 T
IMES A PLUS MASHziMARzhBALAGziIzhGAzj PLUS MASHziIzjR2ziUDzhHAzhIRzj PLUS LUzhKAKzhLAziUzj PLUS MA
SH2zjMzhNEzhPAP PLUS PAPzhSIzhTAK4zhU2 PLUS GIR2zpMASHziSHtTIMES KURs3rMrRsA3t4qIrBrMs TIMES IGIza
SHEzaU U Us2t TIMES UDrNs KASKAL U GUNU DISHrSHt PLUS SHUqUr GUNUsOVER DUsSHESHIGrBs TIMES ESH2zaS
HEs2rGs TIMES ANSHEzbSHzd AT LEFTzaDINzbUNzaERIN2zaGAzbIzcR2 GUNUzcSHzaHAzbIzaIGI GUNUzaKASKALzbUR
zcSHU2zg PLUS KASKALzaLAK-020zcMzd TIMES KURzbUH PLUS GISHzaMASHzbESzbIzaNIzaPIzaSHEzbI GUNUsUDrHr
Ns3t GUNUy GUNUs4rR2pEq OVER E NUN OVER NUNrTIMES PAPq2r TIMES A PLUS HA PLUS DAyGARyKURyMIyPAPySA
LzaHEyUqDINqGIRqLqNr CROSSING ENsOPPOSING ENsSQUAREDsTIMES GAN2zd TENUyMEqRENrIN2u XqSH2t CROSSIN
G ESH2qZENt SHESHIG TIMES ASHzjHIzjIGI GUNUzjLAzlLzjMEzlSzjSUuTIMES Azc PLUS LALzl TIMES LALzcNzbB
ADzbDUN3 GUNUzk GUNUzbGUDzbHAzd GUNUzbIGI GUNUzbKASKALzh SQUAREDzcU3zbLAzdL TIMES LALzcIzcUzbSHEzc
UzbU2zcDpGAr GUNUr2s OVER GA2tTIMES A PLUS DA PLUS HAzhHAzhIGIzbB2 TENU PLUS TABzbNzc PLUS KAK PLU
S AzbSHzd2ze PLUS GALzaBADzcHAR2zcR PLUS RAzbURzd PLUS RAzaDAzbIzcM GUNUzeTIMES SHEzbUBzcG TIMES I
GI GUNUzkKASKALzaELzc PLUS LAzbNzc TIMES GAN2 TENUzbRENzaGAzcN2 TENUzcRzd PLUS DIzjNEzbIzc4zd PLU
S AzcR2 PLUS SUzaHA PLUS AziLU PLUS ESH2zcLzd PLUS LAzbI PLUS LIzbUB2zaIGI GUNUzbSH PLUS HU PLUS A
SHzaKAKzcSKALzbIDzd PLUS LALzbU3 PLUS ANzcSHU2 PLUS KASKALzaLAzcMzd TIMES KURzbUHzaME PLUS ENzbIzb
USHzaNEzc PLUS E2ziGIzbUNzd OVER NUNzaPAzaSALzcRzbHEzd PLUS TURzcIDzdMzbUMzaTAK4zaUzbDzc PLUS DUza
ZIZ2rBAt CROSSING GABAuROTATED NINETY DEGREESrDs OVER GAD GAR OVER GARrLs GAD OVER GAD GAR OVER GA
RsAMrMrNs2t CROSSING GAN2uOVER GAN2uTENUrRs3rSHANqE22rSHTINw TIMES KURzeUqIr CROSSING GIsTIMES EyU
r4s CROSSING GI4tOVER GI4rDIMrGrR2t GUNUs3t TIMES A PLUS IGIzbGAN2 TENUzbIGIzbLU PLUS IGIzbPArSALs
Ht CROSSING GISHuTENUvIMES BADzbGISH CROSSING GISHzbTAK4qUr CROSSING GUr2s GUNUtTIMES IGI GUNUzaKA
Kzd TIMES IGI GUNUzaNUNzaSAL PLUS TUG2rDs OVER GUD LUGALtPLUS GISH TIMES TAK4tTIMES A PLUS KURzaKU
RrLrMs TIMES SHErRs7sUNtSHpHAr GUNUsTENUw GUNUrLqIr TIMES ASHzc OVER HI TIMES ASHzc2yBADyDISHyGADy
KINyNUNySHEyUqUrB2t TIMES ANzbHALzbKASKALzbLISHzbUDrL2rSHpIq AqBqDIMt OVER IDIM BURzfSQUAREDqGrI
s DIBtGUNUtOVER IGI SHIR OVER SHIR UD OVER UDtRIqLr TIMES GAN2 TENUr2qMr CROSSING IMsOPPOSING IMsS
QUAREDsTIMES TAK4rINqNqRqSHpKAr TIMES AzaDzb PLUS KU3zaNSHEzaSH2zc3yBADzbLAGzbRzaIzaUyERIN2zaSH2yG
AzbLzbN2 TENUzbRzc PLUS SHA3 PLUS AzaIzbR2zbSHzd CROSSING GISHzePLUS SARzaUzbDzbR7yHI TIMES ASH2yI
GIzaMyKAzbKzaIzbDyLIzaUzbMyMEzb PLUS DUzhGIzhTEzaIzb PLUS NUNUZyNEzaUNyPAzaIyRUySAzbRzaHAzbEzbIDzb
UzcLzaIGzaUHURyTARzaUyUza U Uza2zaDzaMUM TIMES PAzaRzb2zaSHyZIr2s CROSSING KA2rBrD2s3s4s5t OVER KA
D5rKs TIMES IGI GUNUrLs CROSSING KALtTIMES BADrM2s4rP ELAMITErSKALv LAGAB TIMES U OVER LAGAB TIME
S UwOVER KASKAL LAGAB TIMES U OVER LAGAB TIMES UqESH2qIr TIMES BADyUzaDrDrNrSALsHsIM5v OVER KISIM5
qUr OVER HI TIMES ASH2 KU OVER HI TIMES ASH2r3r4s VARIANT FORMr7rLs GUNUrNrRs OPPOSING KURrSHU2qWU
318pLArGABu SQUAREDvTIMES Azd PLUS DA PLUS HAzjGARzjLALzdLzdNzdSH ZIDA TENUzcBADzdIzcDARzcENzcGAze
RzdIzdUDzf PLUS GUDzcHAzeLzdI TIMES NUNzcIGI GUNUzdMze PLUS HAzkLUzcKIzeNzdU3zeLzf PLUS HI PLUS Az
cLAGABzdISHzdUzeLzcMEze PLUS ENzdUSHzcNEzcSHE PLUS SUMzeITA PLUS GISH PLUS ERIN2zsTENUzeU2zg PLU
S SHU2zdUMzcTAGzeK4zdE PLUS A PLUS SU PLUS NAzcUzd PLUS AzjU PLUS Uzd2 PLUS ASHzdDzdSHzcZU OVER ZU
tRu GUNUza OVER LAGAR GUNU SHEvTIMES SHEzf PLUS SUMrHSHUrK-003u21v5u30u50v1u62u79 OVER LAK-079 GUN
Uu80v1 OVER LAK-081u92t130u42t210v9u20v5v8u38u65v6t343v7v8u83v4u90t441v9w TIMES GUzeIGIzePAP PLU
S LU3znPAP PLUS LU3zeU2 PLUS BAu50v7u70u83u90v2v3v5t550t608u17w TIMES ASHzeBADzeDUN3 GUNU GUNUzeKU
3zeLAzeTARzfEzeU2zfDzfRUDAu36u48w TIMES DUBzeGAzeIGIzh GUNUzeNIzePAP PLUS PAP PLUS LU3zeSHESH PLU
S KIzeUDzfRUDAt724u49rLs TIMES LALrMs TIMES KURzd PLUS RUqIrLrMMU2rSHqUr TIMES BADr2s CROSSING LU2
tGUNU TIMES ASHtOPPOSING LU2tSHESHIGzb TIMES BADuQUAREDtTENUuIMES ALzaBADzaDISHzaESH2ze PLUS LALzf
TENUzaGAN2 TENUzaHALzbI TIMES BADzaIMzaKAD2zd3ze PLUS ASHzbIzaLA PLUS ASHzcGABzaME PLUS ENzaNEzbUz
aPAPzd PLUS PAP PLUS LU3zaSHUzbI PLUS ASHzcK2 PLUS BUzaTAK4zbUG2r3rGALu OPPOSING LUGALwVER LUGALvS
HESHIGrHrLrMs OVER LUMzc GAR OVER GARpMAr GUNUsTIMES TAK4r2rHrRrSHt2qErSsHqIr PLUS ZA7rNqUr OVER M
UrGs GUNUrNSUBrRGU2rSHt CROSSING MUSHuOVER MUSHze TIMES A PLUS NAzlGAzlKAKuTIMES AzbKURzbZAt3u GUN
UvTIMES Azd PLUS DIzcDIzcZApNAr2r4rGAt INVERTEDuOPPOSING NAGAuTIMES SHU TENUtRrMs NUTILLUs2qEr SHE
SHIGsTIMES AyUDqIr TIMES Er2rMs TIMES GAN2 TENUzcR PLUS GAN2 TENUrNs9sDA2v TIMES ANzeSHzg PLUS ASH
zdBALzdDIM GUNUzdGIzfSHzeUDzfLzdHIzdKESH2zdLAK-050zdMASHzeE PLUS GAN2 TENUzdNEzeUNzdPAP PLUS PAPzd
SHEzg PLUS A ANznSHzp PLUS ASHzdUze PLUS Uze2 PLUS ASHzeRUDAzeSHrSAGqUr11t OVER NU11 BUR OVER BURu
ROTATED NINETY DEGREESuTENUrNs CROSSING NUNzg LAGAR OVER LAGARtLAGAR TIMES GARzgMASHzgSALzj OVER N
UN LAGAR TIMES SALzgUSHtOVER NUNtTENUsUZu AB2 TIMES ASHGABzgBIzgDUGzgGUDzgIGI GUNUzgKAD3zgLAzgNEzg
SILA3zgU2vKISIM5 TIMES BIzl UpPArDrNrPqESH2u ASTERISKqIr CROSSING PIsTIMES AzaByBIzaUyEyIzaByUza2r
R2sIGu OPPOSING PIRIGvTIMES KALzcUDzcZApRArBqIqUpSArGs GUNUx TIMES HAtNUTILLUtOVER SAGtTIMES AzaDU
zcBzaENzaHAzaIGI GUNUzaKAKzbURzaLUMzaMIzaNUNzaSALzbHE AT LEFTzcIDzaTABzcK4zaU2zbBzbMzbRzbSHrLs LAG
AB TIMES ASH2rNGA2rRqHAs3t TIMES AzbBADzbGISHzbNEzbSHU2zbTURzbUzc PLUS As6t TENUsB6sR2rEs HUtOVE
R SHEzc GAD OVER GAD GAR OVER GARzdTAB OVER TAB GAR OVER GARtPLUS HUB2yNAM2ySARsG9sNsSHu2uLAMrID
t TIMES AzbIMsMt TIMES AzbBALzcULUGzbDINzbGARzbIGIze GUNUzbKUSHU2zbLULzbMUGzbSALsNIGsRt OVER SHI
R BUR OVER BURuTENUsTArUs OVER INVERTED SHUs2t PLUS DUG TIMES NIzaE2 TIMES ANsBURqIr GUNUsTIMES TA
K4rGs4t OVER SIG4 SHU2rK2rLA3qUr OVER SUrDs2rHURrMsASHrRs9pTAr ASTERISKsGUNUsTIMES HIyMIrBs OVER T
AB NI OVER NI DISH OVER DISHtSQUAREDrGs TIMES BIzaGUDzaSHEzcUzaTUG2zaUDrK4t PLUS SAGrRqEr GUNUqI
r TENUr2rLrRs OVER TIRzc GAD OVER GAD GAR OVER GARtTIMES TAK4qUrG2rKrMs TIMES GAN2 TENUzaTHREE DIS
HrRs OVER TUR ZA OVER ZApUq GUDrOVER U PA OVER PA GAR OVER GARySUR OVER SURyU REVERSED OVER U REVE
RSEDrUs Uq2qBqDr GUNUsKUSHU2sSHESHIGza TIMES BADsTIMES BADyMIyU PLUS U PLUS Uzo GUNUrUGqMr TIMES L
AGAByMEzb PLUS DAySHA3yUrBINrUMt TIMES KASKALzbPAqNr GUNUqRr CROSSING URsSHESHIGr2s INVERTEDtTIME
S A PLUS HAzhNAzbLzaHAzaNUNzaU2zc PLUS ASHziBIzbDr4rIs3rUs TIMES AzbSHGABzaBARzaDARA3zbUNzaGAzcLzc
N2 TENUzcRzbUzaHAzaIGIzbMzbSHzaKIzaLAK-668zbU3zcMzaMINzaPAzaSHEzbIG4zaTUzaU PLUS GUDzbDzbRUDAsDA
u TIMES UqSHs TIMES AzaKUzcRzaTAK4s2sUMXsXqTUKIqZ3s TIMES KASKALrUpZAr SQUARED TIMES KURsTENUr7rGr
MXqE2qIr OVER ZIr3rBs KABA TENUrGrZ2qUr OVER ZU PLUS SARr5s TIMES AzaTHREE DISH TENUrBURrMcP ON BL
ACK SQUAREeWITH STRAWdCAKEdIDOcRLING STONEeY BRACKET EXTENSIONgLOGICAL ANDoORiOPdRENCY EXCHANGEjSI
GNeY AND RICEdVED STEM PARAGRAPH SIGN ORNAMENTcSTARDeOMScT OF MEATbYCLONEcLINDRICITYcPRIOT SYLLABL
E ArErIrJAsOrKAsEsIsOsUrLAsEsIsOsUrMAsEsIsOsUrNAsEsIsOsUrOrPAsEsIsOsUrRAsEsIsOsUrSAsEsIsOsUrTAsEsI
sOsUrUrWAsEsIsOrXAsErZAsOeO-MINOAN SIGN CM001w2w4w5w6w7w8w9v10w1w2xBw3w5w7w9v21w3w4w5w6w7w8w9v30w3
w4w5w6w7w8w9v40w1w4w6w7w9v50w1w2w3w4w5w6w8w9v60w1w2w3w4w6w7w8w9v70w1w2w3w4w5xBw6w8w9v80w1w2w3w4w5w
6w7w8w9v90w1w2w4w5w6w7w8w9u100w1w2w3w4w5w7w8w9v10w2w4u301w2cRILLIC CAPITAL LETTER Aza WITH BREVEzg
DIAERESISzaBKHASIAN CHEzm WITH DESCENDERzjDZEzjHAzaLEUT KAyBARRED Ozh WITH DIAERESISzbSHKIR KAzaEz
aIG YUSzbNOCULAR OzaLENDED YUSzaROAD OMEGAzaYELORUSSIAN-UKRAINIAN IyCCHEzaHEzc WITH DESCENDERzjIAE
RESISziVERTICAL STROKEzaLOSED LITTLE YUSzaROSSED OyDCHEzaEzaJEzcRVzaOUBLE MONOCULAR OzgOzaWEzaZEzc
LOzbHEzbWEzbZEzcHEyEza WITH DIAERESISzaFzaLzb WITH DESCENDERzhHOOKzhMIDDLE HOOKzhTAILzaMzb WITH TA
ILzaNzb WITH DESCENDERzhHOOKzhLEFT HOOKzhMIDDLE HOOKzhTAILzaRzb WITH TICKzaSzb WITH DESCENDERyFITA
yGHEzc WITH DESCENDERziMIDDLE HOOKziSTROKEzo AND HOOKziUPTURNzaJEyHAzb WITH DESCENDERzhHOOKzhSTROK
EzbRD SIGNzaWEyIza WITH DIAERESISzgGRAVEzgMACRONzaEzb WITH BREVEzhGRAVEzaOzbTAzcIFIED AziBIG YUSzi
CLOSED LITTLE YUSziEziLITTLE YUSziYATzaZHITSAzg WITH DOUBLE GRAVE ACCENTyJEyKAzb WITH DESCENDERzhH
OOKzhSTROKEzhVERTICAL STROKEzaHAKASSIAN CHEzaJEzaOMI DEzfJEzfZJEzeLJEzeNJEzeSJEzeTJEzeZJEzbPPAzaSI
yLHAzaITTLE YUSzaJEyMONOCULAR OzdGRAPH UKyNEUTRAL YERzaJEyOza WITH DIAERESISzaMEGAze WITH TITLOzaT
yPEzb WITH DESCENDERzhMIDDLE HOOKzaSIyQAyREVERSED DZEziTSEziYUziZEzaHAzaOUND OMEGAySCHWAze WITH DI
AERESISzaEMISOFT SIGNzaHAzbCHAzbHAzd WITH DESCENDERzbORT Izg WITH TAILzfUzbWEzaOFT DEzeELzfMzeSIGN
zaTRAIGHT Uzj WITH STROKEyTCHEzaEzb WITH DESCENDERzhMIDDLE HOOKzaSEzbHEzbSEzbWEzaWEyUza WITH DIAER
ESISzhOUBLE ACUTEzgMACRONzaKzbRAINIAN IEyVEyWEyYAzbEzbTzaERUzd WITH BACK YERzjDIAERESISzaIzaNzaUyZ
Ezb WITH DESCENDERziIAERESISzbMLYAzaHEzc WITH BREVEziDESCENDERzjIAERESISzbWEsIGATURE A IEzbEN GHEz
bTE TSEjKAVYKAjLETTER MULTIOCULAR OqPALOCHKAqSMALL CAPITAL ELjPAYEROKjSMALL LETTER Ax WITH BREVEze
DIAERESISxBKHASIAN CHEzk WITH DESCENDERzhDZEzhHAxLEUT KAwBARRED Ozf WITH DIAERESISySHKIR KAxExIG Y
USyNOCULAR OxLENDED YUSxROAD OMEGAxYELORUSSIAN-UKRAINIAN IwCCHExHEza WITH DESCENDERzhIAERESISzgVER
TICAL STROKExLOSED LITTLE YUSxROSSED OwDCHExExJEzaRVxOUBLE MONOCULAR OzeOxWExZEzaLOyHEyWEyZEzaHEwE
x WITH DIAERESISxFxLy WITH DESCENDERzfHOOKzfMIDDLE HOOKzfTAILxMy WITH TAILxNy WITH DESCENDERzfHOOK
zfLEFT HOOKzfMIDDLE HOOKzfTAILxRy WITH TICKxSy WITH DESCENDERwFITAwGHEza WITH DESCENDERzgMIDDLE HO
OKzgSTROKEzm AND HOOKzgUPTURNxJEwHAy WITH DESCENDERzfHOOKzfSTROKEyRD SIGNxWEwIx WITH DIAERESISzeGR
AVEzeMACRONxEy WITH BREVEzfGRAVExOyTAzaIFIED AzgBIG YUSzgCLOSED LITTLE YUSzgEzgLITTLE YUSzgYATxZHI
TSAze WITH DOUBLE GRAVE ACCENTwJEwKAy WITH DESCENDERzfHOOKzfSTROKEzfVERTICAL STROKExHAKASSIAN CHEx
JExOMI DEzdJEzdZJEzcLJEzcNJEzcSJEzcTJEzcZJEyPPAxSIwLHAxITTLE YUSxJExONG-LEGGED DEwMONOCULAR OzbGRA
PH UKwNARROW OxEUTRAL YERxJEwOx WITH DIAERESISxMEGAzc WITH TITLOxTwPALOCHKAxEy WITH DESCENDERzfMID
DLE HOOKxSIwQAwREVERSED DZEzgTSEzgYUzgZExHAxOUND OMEGAzcED VEwSCHWAzc WITH DIAERESISxEMISOFT SIGNx
HAyCHAyHAzb WITH DESCENDERyORT Ize WITH TAILzdUyWExOFT DEzcELzdMzcSIGNxTRAIGHT Uzh WITH STROKEwTAL
L HARD SIGNzcTEzcYATxCHExEy WITH DESCENDERzfMIDDLE HOOKxHREE-LEGGED TExSEyHEySEyWExWEwUx WITH DIAE
RESISzfOUBLE ACUTEzeMACRONxKyRAINIAN IExNBLENDED UKwVEwWExIDE ESwYAyEyTxERUzb WITH BACK YERzhDIAER
ESISxIxNxUwZEy WITH DESCENDERzgIAERESISyMLYAxHEza WITH BREVEzgDESCENDERzhIAERESISyWEqIGATURE A IEy
EN GHEyTE TSEjTHOUSANDS SIGNaDAGGERg KNIFEhWITH LEFT GUARDmRIGHT GUARDcLET SYMBOLcNCERdGOcRK SHADE
gUNGLASSEScSH SYMBOLfWITH LEFT UPTURNeED LOW LINEhOVERLINEhTRIANGLE-HEADED RIGHTWARDS ARROWcTA LIN
K ESCAPEbC1c2c3c4cSbEAF PERSONcCIDUOUS TREEeMAL EXPONENT SYMBOLiSEPARATOR KEY SYMBOLdREASE FONT SI
ZE SYMBOLcERcGREE CELSIUShFAHRENHEIThSIGNcLdETEdIVERY TRUCKdTA EQUAL TOcNTISTRY SYMBOL LIGHT DOW
N AND HORIZONTALzr WITH CIRCLEzxTRIANGLEzxWAVExUP AND HORIZONTALzp WITH CIRCLEzvTRIANGLEzvWAVExVER
TICAL AND BOTTOM LEFTzsRIGHTzlTOP LEFTzpRIGHTzlWAVEzhWITH CIRCLEzmTRIANGLEcPARTMENT STOREcRELICT H
OUSE BUILDINGcSCENDING NODEdERET CAPITAL LETTER AYxBEExCHEExDEExEFyLyMyNzaGyRySzaHyTHyWxGAYxHxJEEx
KAYxLONG AzeHzdEzdIzdOzeOxOIyWxPEExSHORT AzfHzeEzeIzeOzfOxTEEyHEExVEExWUxYEExZEEyHEEiSMALL LETTE
R AYvBEEvCHEEvDEEvEFwLwMwNxGwRwSxHwTHwWvGAYvHvJEEvKAYvLONG AzcHzbEzbIzbOzcOvOIwWvPEEvSHORT AzdHzcE
zcIzcOzdOvTEEwHEEvVEEvWUvYEEvZEEwHEEfTg ISLANDdKTOP COMPUTERiWINDOWcVANAGARI ABBREVIATION SIGNmCUT
E ACCENTlCARETlDANDAmIGIT EIGHTrFIVEsOURrNINErONErSEVENsIXrTHREEsWOrZEROmOUBLE DANDAlGAP FILLERmRA
VE ACCENTlHEADSTROKElJAIN OMlLETTER AtAtItUtWtYsBAtBAtHAsCAuNDRA AzaEzaOtHAsDAtDAuDAvHAuHAtHAsEsFA
sGAtGAtHAuHAtLOTTAL STOPsHAtEAVY YAsItIsJAtHAtJAsKAtHAuHAsLAtLAuLAsMAuRWARI DDAsNAtGAtNAuNAtYAsOtE
tOEsPAtHAsQAsRAtHAtRAsSAtHAuORT AyEyOtSAsTAtHAtTAuHAsUtEtUuEsVAtOCALIC LzcLzbRzcRsYAtYAsZAtHAlOMlS
IGN ANUSVARArVAGRAHAqCANDRABINDUzc AVAGRAHAzdTHREEzeWOzdVIRAMAqDOUBLE CANDRABINDU VIRAMAqHIGH SPAC
ING DOTqINVERTED CANDRABINDUqNUKTAqPUSHPIKAqSIDDHAMrPACING CANDRABINDUqVIRAMAsSARGAmTRESS SIGN ANU
DATTAxUDATTAlVOWEL SIGN AAxIxUxWxYwCANDRA EzeLONG EzeOwEwIxIwOxExOEwPRISHTHAMATRA EwSHORT EzdOwUxE
xUyEwVOCALIC LzgLzfRzgRdICE CONTROL FOURpONEpSTRINGpTHREEqWObIAERESISdMETER SIGNeOND OPERATORiSHAP
E WITH A DOT INSIDEiTARGETiWITH BOTTOM HALF BLACKnLEFT HALF BLACKnRIGHT HALF BLACKnTOP HALF BLACKc
E FACE-1j2j3j4j5j6dSEL LOCOMOTIVEcFFERENCE BETWEENcGIT EIGHTl COMMAmFULL STOPgFIVEk COMMAlFULL STO
PhOURk COMMAlFULL STOPgNINEk COMMAlFULL STOPgONEj COMMAkFULL STOPgSEVENl COMMAmFULL STOPhIXj COMMA
kFULL STOPgTHREEl COMMAmFULL STOPhWOj COMMAkFULL STOPgZEROk COMMAlFULL STOPdRAM FOR EARTHqLY HEAVE
NuUMANlGREATER YANGuINlHEAVENLY EARTHmUMAN EARTHlLESSER YANGtINcMENSION ORIGINcNGBAT CIRCLED SANS-
SERIF DIGIT EIGHTziFIVEzjOURziNINEziONEziSEVENzjIXziTHREEzjWOziZEROzcNUMBER TENiNEGATIVE CIRCLED D
IGIT EIGHTzgFIVEzhOURzgNINEzgONEzgSEVENzhIXzgTHREEzhWOzaNUMBER TENzaSANS-SERIF DIGIT EIGHTzrFIVEzs
OURzrNINEzrONEzrSEVENzsIXzrTHREEzsWOzrZEROzlNUMBER TENcRECT CURRENT SYMBOL FORM TWOhHITcSABLED CAR
ePPOINTED BUT RELIEVED FACEnFACEdCONTINUOUS UNDERLINE SYMBOLdGUISED FACEcTTO MARKcVES AKURU DIGI
T EIGHTsFIVEtOURsNINEsONEsSEVENtIXsTHREEtWOsZEROnOUBLE DANDAmEND OF TEXT MARKmGAP FILLERmINITIAL R
AmLETTER AuAtBAuHAtCAuHAtDAuDAvHAuHAtEtGAuHAtHAtIuItJAtKAuHAtLAuLAtMAtNAuGAuNAuYAtOtPAuHAtRAtSAuHA
uSAtTAuHAuTAtUuUtVAtYAuYAtZAmMEDIAL RAtYAmPREFIXED NASAL SIGNmSIGN ANUSVARArCANDRABINDUrHALANTArNU
KTAmVIRAMAnOWEL SIGN AAyIxExIyIxOxUyUdIDESeNG MASKeSION SIGNkLASHjTIMESdORCE SYMBOLcYA LAMPcZZY FA
CEgSYMBOLbLEbNA DOUBLE HELIXbO NOT LITTER SYMBOLcCUMENTi WITH PICTUREoTEXTs AND PICTUREcDOcES NO
T CONTAIN AS MEMBERuNORMAL SUBGROUPzk OR EQUALjDIVIDEp WITH REVERSED NEGATION SLASHjFORCEjPRECEDE
q OR EQUALlOVEjSUCCEEDq OR EQUALcGd FACEdRA ABBREVIATION SIGNgLETTER AoAoIoUnBAoHAnCAoHAnDAoDApHAo
HAnEnGAoHAnHAnIoInJAoHAnKAoHAnLAnMAnNAoGAoNAoYAnOnPAoHAnRAoRAnSAoHAoSAnTAoHAoTApHAnUoUnVAnYAgSIG
N ANUSVARAlNUKTAlVIRAMAnSARGAgVOWEL SIGN AAsIsUrErIsIrOrUsUrVOCALIC RzbRcLLAR SIGNdPHINcMINO TIL
E HORIZONTAL BACKw-00-00zc1zc2zc3zc4zc5zc6y1-00zc1zc2zc3zc4zc5zc6y2-00zc1zc2zc3zc4zc5zc6y3-00zc1zc
2zc3zc4zc5zc6y4-00zc1zc2zc3zc4zc5zc6y5-00zc1zc2zc3zc4zc5zc6y6-00zc1zc2zc3zc4zc5zc6mVERTICAL BACKu-
00-00za1za2za3za4za5za6w1-00za1za2za3za4za5za6w2-00za1za2za3za4za5za6w3-00za1za2za3za4za5za6w4-00z
a1za2za3za4za5za6w5-00za1za2za3za4za5za6w6-00za1za2za3za4za5za6cNG SIGNcORcT ABOVEeMINUSeOPERATORe
PLUSdTED CIRCLEiROSShFENCEhLINE FACEhOBELOShRIGHT-POINTING ANGLEhSOLIDUSiQUAREhTRANSPOSITION MARKE
RcUBLE ACUTE ACCENThCIRCLED DIGIT EIGHTvFIVEwOURvNINEvONEvSEVENwIXvTHREEwWOpNUMBER TENiOLON EQUALi
URLY LOOPhDAGGERiOWN TACKhEXCLAMATION MARKhHIGH-REVERSED-9 QUOTATION MARKiYPHENhINTEGRALlRSECTIONh
LEFT ARC GREATER-THAN BRACKETiOGICAL ANDpORjW LINEk-9 QUOTATION MARKlREVERSED-9 QUOTATION MARKhNES
TED GREATER-THANoLESS-THANx WITH UNDERBARhOBLIQUE HYPHENhPLUSiRECEDESjIMEm QUOTATION MARKhQUESTIO
N MARKhRIGHT ARC LESS-THAN BRACKEThSOLIDUS OPERATORiQUARE INTERSECTIONoUNIONiTACKED COMMAjROKE NO
T SIGNiUBSETjCCEEDSjPERSETjSPENSION MARKhUNIONiP TACKhVERTICAL BARt DOUBLE LEFT TURNSTILEzcRIGHT T
URNSTILEuLEFT TURNSTILEqLINEhWAVY OVERLINEg-ENDED MULTIMAPhLINE EQUAL TO OR GREATER-THANyLESS-THAN
mSLANTED EQUAL TO OR GREATER-THANzhLESS-THANuGREATER-THAN OR EQUAL TOuLESS-THAN OR EQUAL TOhSTRUC
K CAPITAL CwGAMMAwHwNwPxIwQwRwZoITALIC CAPITAL DvSMALL DzcEzcIzcJoN-ARY SUMMATIONoSMALL GAMMAuPIg
D FEMALE SIGNiMALE SIGNiSYMBOLdGHNUTcVE OF PEACEcWN ARROWHEADfFISH TAILfRIGHT DIAGONAL ELLIPSISfTA
CKj WITH CIRCLE BELOWe-POINTING RED TRIANGLEoSMALL RED TRIANGLEoTRIANGLE WITH LEFT HALF BLACKzdRIG
HT HALF BLACKeWARD FACING HOOKu WITH DOTqNOTCHED HOOKzd WITH DOTiS ANCORAlRROWp AND RIGHT ONE EIGH
TH BLOCKqFROM BARqLEFTWARDS OF UPWARDS ARROWqTO BARqWITH CORNER LEFTWARDSvDOUBLE STROKEvEQUILATERA
L ARROWHEADvHORIZONTAL STROKEvLARGE TRIANGLE ARROWHEADvMEDIUM TRIANGLE ARROWHEADvNOTCHED TAILvSMAL
L EQUILATERAL ARROWHEADzcTRIANGLE ARROWHEADvTIP LEFTWARDSzaRIGHTWARDSkBLACK ARROWqCIRCLED WHITE AR
ROWkCOMPRESSED ARROWkDASHED ARROWlOUBLE ARROWkFINGER-POST ARROWkHARPOON WITH BARB LEFT BESIDE DOWN
WARDS HARPOON WITH BARB RIGHTzpUPWARDS HARPOON WITH BARB RIGHTziFROM BARziTO BARzhWARDSzdRIGHT FRO
M BARzjTO BARziWARDSlEAVY ARROWqCOMPRESSED ARROWkPAIRED ARROWSkQUADRUPLE ARROWkROCKETkSANS-SERIF A
RROWlQUARED ARROWkTRIANGLE ARROWHEADs-HEADED ARROWzg LEFTWARDS OF UPWARDS TRIANGLE-HEADED ARROWzhT
O BARzhWITH BOLD SHAFTzmDOUBLE HORIZONTAL STROKEzmHEAVY SHAFTzmLONG TIP LEFTWARDSzvRIGHTWARDSzmMED
IUM SHAFTzmNARROW SHAFTzmVERY HEAVY SHAFTzbDASHED ARROWzbPAIRED ARROWSzbZIGZAG ARROWnPLE ARROWlW
O HEADED ARROWn-HEADED ARROW WITH TRIANGLE ARROWHEADSkWHITE ARROWv WITHIN TRIANGLE ARROWHEADkZIGZA
G ARROWbRACHMA SIGNdFTING POINT RIGHTWARDS ARROWdGONg FACEcESScIVE SLOW SIGNcOMEDARY CAMELdOLING F
ACEdP OF BLOODeLETcUM WITH DRUMSTICKSbUCKcMPLINGcPLOYAN AFFIX ATTACHED E HOOKyI HOOKyLEFT-TO-RIGH
T SECANTySECANTyTAILzbNGENTzg HOOKpHIGH ACUTEuCIRCLEuDOTuGRAVEuLINEvONG GRAVEuTIGHT ACUTEuVERTICAL
zd SECANTuWAVEpLEFT HORIZONTAL SECANTqOW ACUTEuRROWtCIRCLEtDOTtGRAVEtLINEuONG GRAVEtTIGHT ACUTEtVE
RTICALzc SECANTtWAVEpMID HORIZONTAL SECANTtVERTICAL SECANTpRIGHT HORIZONTAL SECANTjDOUBLE MARKjLET
TER ArOUqBqDr SrHqErErUqFr NqGr R SqHrLqIrEqJr Mt SsNt SsSt WITH DOTsWITH DOTzbS INSIDE AND ABOVEq
Kr MsR SrKqLrHrONG IvUqMr Nt SsSsWITH DOTqNr Mt SsSsWITH DOTrASAL AwIwOwUqOrArOHrUrWqPr NrERNIN AM
yNqRr SrHrOMANIAN IzaUqSr Jt SsKt RsMsNsPt RsSsTt RsWITH DOTzb BELOWrHORT IrLOAN ANwDHwEExHxNwJwON
xWwUqTr R SsSrHqUr NrHrIqVrOCALIC MqWr RrArEIrHrIrOsWqXrWqYEjPUNCTUATION CHINOOK FULL STOPjSIG
N O WITH CROSSjTHICK LETTER SELECTORbVDaE-MAIL SYMBOLbAGLEcRd OF MAIZEhRICEeWITH HEARING AIDdTHf G
LOBE AMERICASnSIA-AUSTRALIAmEUROPE-AFRICAhROUNDcST SYRIAC CROSSbDITORIAL CORONISbGGcYPTIAN HIEROGL
YPH A001x2x3x4x5yAx6yAyBx7x8x9w10x1x2x3x4yAx5x6x7yAx8x9w20x1x2x3x4x5x6x7x8x9w30x1x2yAx3x4x5x6x7x8x
9w40yAx1x2yAx3yAx4x5yAx6x7x8x9w50x1x2x3x4x5x6x7x8x9w60x1x2x3x4x5x6x7x8x9w70vA001y2y3y4y5y6y7zaAzaB
y8y9x10y1y2y3y4y5y6y7y8y9x20y1y2y3y4y5y6y7y8y9x30y1y2uB001x2x3x4x5yAx6x7x8x9vEGIN SEGMENTuC001x2yA
yByCx3x4x5x6x7x8x9w10yAx1x2x3x4x5x6x7x8x9w20x1x2x3x4uD001x2x3x4x5x6x7x8yAx9w10x1x2x3x4x5x6x7x8x9w2
0x1x2x3x4x5x6x7yAx8x9w30x1yAx2x3x4yAx5x6x7x8x9w40x1x2x3x4x5x6yAx7x8yAx9w50yAyByCyDyEyFyGyHyIx1x2yA
x3x4yAx5x6x7x8x9w60x1x2x3x4x5x6x7yAyByCyDyEyFyGyHuE001x2x3x4x5x6x7x8yAx9yAw10x1x2x3x4x5x6yAx7yAx8x
9w20yAx1x2x3x4x5x6x7x8yAx9w30x1x2x3x4yAx6x7x8vND SEGMENTuF001yAx2x3x4x5x6x7x8x9w10x1x2x3yAx4x5x6x7
x8x9w20x1yAx2x3x4x5x6x7x8x9w30x1yAx2x3x4x5x6x7yAx8yAx9w40x1x2x3x4x5yAx6yAx7yAx8x9w50x1yAyByCx2x3uG
001x2x3x4x5x6yAx7yAyBx8x9w10x1yAx2x3x4x5x6x7x8x9w20yAx1x2x3x4x5x6yAx7x8x9w30x1x2x3x4x5x6yAx7yAx8x9
w40x1x2x3yAx4x5yAx6x7x8x9w50x1x2x3x4uH001x2x3x4x5x6yAx7x8vORIZONTAL JOINERuI001x2x3x4x5yAx6x7x8x9y
Aw10yAx1yAx2x3x4x5vNSERT AT BOTTOM ENDzmSTARTzfTOP ENDzjSTARTuK001x2x3x4x5x6x7x8uL001x2yAx3x4x5x6y
Ax7x8uM001yAyBx2x3yAx4x5x6x7x8x9w10yAx1x2yAyByCyDyEyFyGyHx3x4x5yAx6yAx7yAx8x9w20x1x2yAx3x4yAx5x6x7
x8yAx9w30x1yAx2x3yAyBx4x5x6x7x8x9w40yAx1x2x3x4uN001x2x3x4x5x6x7x8x9w10x1x2x3x4x5x6x7x8yAyBx9w20x1x
2x3x4x5yAx6x7x8x9w30x1x2x3yAx4yAx5yAx6x7yAx8x9w40x1x2vL001y2y3y4y5zaAy6y7y8y9x10y1y2y3y4y5y6y7zaAy
8y9x20vU001y2y3y4y5y6y7y8y9x10zaAy1zaAy2y3y4y5y6y7y8zaAy9x20y1y2zaAuO001yAx2x3x4x5yAx6yAyByCyDyEyF
x7x8x9w10yAyByCx1x2x3x4x5x6x7x8x9yAw20yAx1x2x3x4yAx5yAx6x7x8x9yAw30yAx1x2x3yAx4x5x6yAyByCyDx7x8x9w
40x1x2x3x4x5x6x7x8x9w50yAyBx1vVERLAY MIDDLEuP001yAx2x3yAx4x5x6x7x8x9w10x1uQ001x2x3x4x5x6x7uR001x2y
Ax3yAyBx4x5x6x7x8x9w10yAx1x2x3x4x5x6yAx7x8x9w20x1x2x3x4x5x6x7x8x9uS001x2yAx3x4x5x6yAx7x8x9w10x1x2x
3x4yAyBx5x6x7yAx8x9w20x1x2x3x4x5x6yAyBx7x8x9w30x1x2x3x4x5yAx6x7x8x9w40x1x2x3x4x5x6uT001x2x3yAx4x5x
6x7yAx8yAx9yAw10x1yAx2x3x4x5x6yAx7x8x9w20x1x2x3x4x5x6x7x8x9w30x1x2yAx3yAx4x5x6uU001x2x3x4x5x6yAyBx
7x8x9w10x1x2x3x4x5x6x7x8x9w20x1x2x3yAx4x5x6x7x8x9yAw30x1x2yAx3x4x5x6x7x8x9w40x1x2uV001yAyByCyDyEyF
yGyHyIx2yAx3x4x5x6x7yAyBx8x9w10x1yAyByCx2yAyBx3x4x5x6x7x8x9w20yAyByCyDyEyFyGyHyIyJyKyLx1x2x3yAx4x5
x6x7x8yAx9yAw30yAx1yAx2x3yAx4x5x6x7yAx8x9w40yAvERTICAL JOINERuW001x2x3yAx4x5x6x7x8x9yAw10yAx1x2x3x
4yAx5x6x7yAx8yAx9w20x1x2x3x4yAx5uX001x2x3x4yAyBx5x6yAx7x8yAuY001yAx2x3x4x5x6x7x8uZ001x2yAyByCyDx3y
AyBx4yAx5yAx6x7x8x9w10x1x2x3x4x5yAyByCyDyEyFyGyHyIx6yAyByCyDyEyFyGyHbIGHT PETALLED OUTLINED BLAC
K FLORETTEhOINTED BLACK STARoPINWHEEL STARoRECTILINEAR BLACK STARgSPOKED ASTERISKgTEARDROP-SPOKE
D PROPELLER ASTERISKfH NOTEbJECT SYMBOLbLBASAN LETTER ApBEpCEqHEpDEqHEpEqIpFEpGEqHAMMArEqJEpHEpIpJ
EpKEqHEpLEqLEpMEpNAqDEqEqJEpOpPEpQEpREqREpSEqHEpTEqHEpUpVEpXEpYpZEqHEcECTRIC ARROWjLIGHT BULBjPLUG
jTORCHiAL INTERSECTIONdMENT OFk OPENING DOWNWARDStUPWARDSlWITH DOT ABOVEqLONG HORIZONTAL STROKEqOV
ERBARqTWO HORIZONTAL STROKESqUNDERBARqVERTICAL BAR AT END OF HORIZONTAL STROKEdPHANTdVATORcFcYMAI
C LETTER ALEPHqYINpBETHpDALETHpGIMELpHErTHpKAPHpLAMEDHpMEMpNUNpPEpQOPHpRESHpSADHErMEKHqHINpTAWqETH
pWAWpYODHpZAYINjIGATURE ZAYIN-YODHbM DASHdQUADdSPACEcOJI COMPONENT BALDqCURLY HAIRqRED HAIRqWHIT
E HAIRgMODIFIER FITZPATRICK TYPE-1-2zh3zh4zh5zh6cPHASIS SYMBOLdTY DOCUMENTgNESThOTEk PADnGEgPAGEkS
gSETj WITH LEFT ARROW ABOVEpOVERBARpRIGHT ARROW ABOVEpSMALL CIRCLE ABOVEbN DASHdQUADdSPACEcD OF GU
ARDED AREAhLINEhMEDIUMhPROOFkTECTED AREAhSELECTED AREAhTEXTiRANSMISSIONt BLOCKeWITH LEFTWARDS ARRO
W ABOVEcQdUIRYcTER SYMBOLcVELOPEi WITH DOWNWARDS ARROW ABOVEoLIGHTNINGbOLcMcTbPAbQUAL AND PARALLE
L TOgTO BY DEFINITIONjOR GREATER-THANmLESS-THANmPRECEDESmSUCCEEDSfS COLONhSIGNl ABOVE LEFTWARDS AR
ROWsPLUS SIGNsRIGHTWARDS ARROWsTILDE OPERATORnND SLANTED PARALLELzh WITH TILDE ABOVEmWITH BUMPY AB
OVErDOT BELOWrINFINITY BELOWrTWO DOTS ABOVE AND TWO DOTS BELOWhWITH ASTERISKdIANGULAR TOeVALENT TO
lWITH FOUR DOTS ABOVEbRASE TO THE LEFTnRIGHTcIS FORM ONEkTWOcROR-BARRED BLACK CIRCLEtDIAMONDtSQUAR
EnWHITE CIRCLEtDIAMONDtSQUAREbSAcCdAPEcTIMATED SYMBOLiSbTBcHIOPIC COLONlMBINING GEMINATION AND VOW
EL LENGTH MARKzfMARKtVOWEL LENGTH MARKmMAjDIGIT EIGHTpFIVEqOURpNINEpONEpSEVENqIXpTHREEqWOjFULL STO
PjNUMBER EIGHTYqFIFTYrORTYqHUNDREDqNINETYqSEVENTYrIXTYqTENt THOUSANDrHIRTYrWENTYjPARAGRAPH SEPARAT
ORkREFACE COLONjQUESTION MARKjSECTION MARKlMICOLONkYLLABLE BAuAtBAvAuEvEuIuOuUtEuEtItOuAtUtWAuEvEu
IsCAuAtCAvAuEvEuHAwAvEwEvHAxAwExEwIwOwUvIvOvUuIuOuUtEuEtHAvAuEvEuIuOvAuUuWAtItOuAtUtWAsDAuAtDAvAuE
vEuHAAvEwEvIvOvUuIuOvAuUuWAtEuEtItOuAtUtWAtZAAuEvEuIuOuUsFAuAtEuEtItOtUtWAuEvEuItYAsGAuAtEuEtGAvAu
EvEuIuOuUuWAwAvEwEvItItLOTTAL AzcAzbEzcEzbIzbOzcAzbUzbWAtOuAtUuRAGE BWEEzcIzaFWEEzcIzaGWEzdEzcIzaH
HWAzaKWEzdEzcIzaMWEEzcIzaPWEEzcIzaQWEzdEzcItWAvAuEvEuItYAvAuEvEuIuOuUsHAuAtEuEtHAvAuEvEuIuOuUuWAvE
wEvIuYAwAvEwEvIvOvUtItOuAtUsJAuAtEuEtItOuAtUtWAsKAuAtEuEtItOuAtUtWAvAuEvEuItXAvAuEvEuIuOuUuWAwAvEw
EvItYAvAuEvEuIuOuUsLAuAtEuEtItOuAtUtWAsMAuAtEuEtItOuAtUtWAuEvEuItYAsNAuAtEuEtItOuAtUtWAtYAvAuEvEuI
uOvAuUuWAsPAuAtEuEtHAvAvRYNGEAL AzfAzeEzfEzeIzeOzeUuEvEuIuOvAuUuWAtItOuAtUtWAuEvEuIsQAuAtEuEtHAvAu
EvEuIuOuUuWAwAvEwEvItItOuAtUtWAvAuEvEuItYAvAuEvEuIuOuUsRAuAtEuEtItOuAtUtWAtYAsSAuAtEuBATBEIT BWAzd
FWAzdMWAzdPWAuEtHAvAuEvEuIuOvAuUuWAtItOuAtSAvAuEvEuIuOuUtUtWAtZAvAuEvEuIuOuUuWAsTAuAtEuEtHAvAuEvEu
IuOvAuUuWAtItOuAtSAvAuEvEuIuOuUuWAtTHAAvEwEvIvOvUtUtWAtZAvAuEvEuIuOvAuUsVAuAtEuEtItOtUtWAsWAuAtEuE
tItOuAtUsXAuAtEuEtItOuAtUtWAvAuEvEuItYAvAuEvEuIuOuUsYAuAtEuEtItOuAtUsZAuAtEuEtHAvAuEvEuIuOuUuWAtIt
OuAtUtWAtZAvAuEvEuIuOuUjTONAL MARK CHIRETuDERETza-HIDETvIFATuHIDETuKENATvURTuRIKRIKuSHORT RIKRIKuY
IZETjWORDSPACEcXbULER CONSTANTcRO SIGNe-CURRENCY SIGNePEAN CASTLEjPOST OFFICEbVERGREEN TREEbXCESSd
LAMATION MARKmQUESTION MARKcPRESSIONLESS FACEcTENDED ARABIC-INDIC DIGIT EIGHTzdFIVEzeOURzdNINEzdON
EzdSEVENzeIXzdTHREEzeWOzdZEROdRATERRESTRIAL ALIENeEMELY HEAVY FIVE SPOKED ASTERISKqGREEK CROSSqSAL
TIRErIX SPOKED ASTERISKqWHITE CIRCLEwSQUAREbYEdGLASSESdSaFACE HOLDING BACK TEARSfMASSAGEfPALMfSAVO
URING DELICIOUS FOODgCREAMING IN FEARfTHROWING A KISSfWITH COLD SWEATmWBOY HATkDIAGONAL MOUTHkFING
ER COVERING CLOSED LIPSkHEAD-BANDAGEkLOOK OF TRIUMPHkMEDICAL MASKlONOCLEkNO GOOD GESTUREkOK GESTUR
ElNE EYEBROW RAISEDlPEN EYES AND HAND OVER MOUTHpMOUTHu AND COLD SWEATvVOMITINGkPARTY HORN AND PAR
TY HATlEEKING EYElLEADING EYESkROLLING EYESkSTUCK-OUT TONGUEzb AND TIGHTLY-CLOSED EYESzgWINKING EY
EkTEARS OF JOYlHERMOMETERkUNEVEN EYES AND WAVY MOUTHjOUT MOUTHdSIMILE SIGNdTORYcIRYcLAFELdLEN LEAF
eING DIAGONAL CROSSING NORTH EAST ARROWzbRISING DIAGONALrIN WHITE CIRCLE IN BLACK SQUAREcMILYcRS
I SYMBOLcTHER CHRISTMAScX ICONeMACHINEbEARFUL FACEdTHERcMALE SIGNdININE ORDINAL INDICATORcNCERcRRI
S WHEELeYbFbIELD HOCKEY STICK AND BALLcGURE DASHhSPACEcLE CABINETfFOLDERfSEPARATORdM FRAMESfPROJEC
TORcNITE PART INTEGRALcREe ENGINEgXTINGUISHEReCRACKEReWORK SPARKLERiSdST PLACE MEDALgQUARTER MOON
s SYMBOLtWITH FACEgSTRONG ISOLATEcSHe CAKE WITH SWIRL DESIGNeEYEeING POLE AND FISHdTED HAND SIGNcV
E DOT MARKjPUNCTUATIONbLAG IN HOLEdMINGOdT SHOEeBREADeNESScEUR-DE-LISdXED BICEPScOPPY DISKdRAL HEA
RTdWERg PLAYING CARDSiUNCTUATION MARKcUSHED FACEcYdING DISChENVELOPEhSAUCERbOGdGYcLDERcNDUEcOTePRI
NTScR ALLdCESdK AND KNIFEo WITH PLATEeED PARAGRAPHOSeINGdM FEEDdTUNE COOKIEcUNTAINdR BALLOON-SPOKE
D ASTERISKfCLUB-SPOKED ASTERISKgORNER ARROWS CIRCLING ANTICLOCKWISEfDOT MARKjPUNCTUATIONfLEAF CLOV
ERfPOINTED BLACK STARfTEARDROP-SPOKED ASTERISKe-PER-EM SPACEeTH ROOTcX FACEbRACTION NUMERATOR ONEj
SLASHdME WITH AN XlPICTURElTILEScEEZING FACEdNCH FRANC SIGNjIEScIED SHRIMPcOG FACEdNT-FACING BAB
Y CHICKgTILTED SHADOWED WHITE RIGHTWARDS ARROWdWNfING FACE WITH OPEN MOUTHbScIbUEL PUMPcLL BLOCKfM
OON SYMBOLkWITH FACEfOUTER JOINfSTOPeWIDTH AMPERSANDlPOSTROPHElSTERISKkBROKEN BARkCENT SIGNlIRCUMF
LEX ACCENTlOLONmMMAoERCIAL ATkDIGIT EIGHTqFIVErOURqNINEqONEqSEVENrIXqTHREErWOqZEROlOLLAR SIGNkEQUA
LS SIGNlXCLAMATION MARKkFULL STOPkGRAVE ACCENTmEATER-THAN SIGNkHYPHEN-MINUSkLATIN CAPITAL LETTER A
zgBzgCzgDzgEzgFzgGzgHzgIzgJzgKzgLzgMzgNzgOzgPzgQzgRzgSzgTzgUzgVzgWzgXzgYzgZqSMALL LETTER AzeBzeCze
DzeEzeFzeGzeHzeIzeJzeKzeLzeMzeNzeOzePzeQzeRzeSzeTzeUzeVzeWzeXzeYzeZlEFT CURLY BRACKETpPARENTHESISp
SQUARE BRACKETpWHITE PARENTHESISmSS-THAN SIGNlOW LINEkMACRONkNOT SIGNlUMBER SIGNkPERCENT SIGNlLU
S SIGNlOUND SIGNkQUESTION MARKmOTATION MARKkREVERSE SOLIDUSlIGHT CURLY BRACKETqPARENTHESISqSQUAR
E BRACKETqWHITE PARENTHESISkSEMICOLONlOLIDUSkTILDEkVERTICAL LINEkWON SIGNkYEN SIGNcNCTION APPLICAT
IONdERAL URNcSEbVS1d2d3d4aGAME DIEcRLICbEARe WITH HANDLESjOUT HUBcM STONEdINIcNIEcOMETRIC PROPORTI
ONjALLY EQUAL TOrIVALENT TOdRGIAN CAPITAL LETTER AENzaNyBANyCANzaHARzbINzaILyDONyENyGANzaHANyHAEzb
RzaEzaIEzaOEyINyJHANzaILyKANzaHARyLASyMANyNARyONyPARzaHARyQARyRAEySANzaHINyTANzbRyUNyVINyWEyXANyYN
yZENzaHARjLETTER AENrINrNqBANqCANrHARsINrILqDONqELIFIrNqFIqGANrHANqHAEsRtD SIGNrErIErOEqINqJHANrIL
qKANrHARqLABIAL SIGNsSqMANqNARqONqPARrHARqQARqRAEqSANrHINqTANsRrURNED GANqUNqVINqWEqXANqYNqZENrHAR
jMTAVRULI CAPITAL LETTER AENzjINzjNziBANziCANzjHARzkINzjILziDONziELIFIzjNziFIziGANzjHANziHAEzkRzl
D SIGNzjEzjIEzjOEziINziJHANzjILziKANzjHARziLABIAL SIGNzkSziMANziNARziONziPARzjHARziQARziRAEziSANzj
HINziTANzkRzjURNED GANziUNziVINziWEziXANziYNziZENzjHARjPARAGRAPH SEPARATORjSMALL LETTER AENxNwBANw
CANxHARyINxILwDONwENwGANxHANwHAEyRxExIExOEwINwJHANxILwKANxHARwLASwMANwNARwONwPARxHARwQARwRAEwSANxH
INwTANyRwUNwVINwWEwXANwYNwZENxHARcRMAN PENNY SIGNcTA MARKbHOSTbIMEL SYMBOLcRAFFE FACEdLeS SYMBOLbL
AGOLITIC CAPITAL LETTER AZUzbBIG YUSzcUKYzbCAUDATE CHRIVIzcHRIVIzbDJERVIzcOBROzcZELOzbFITAzcRITUzb
GLAGOLIzbHERUzbIzcNITIAL IZHEzcOTATED BIG YUSzjSMALL YUSzcZHEzeITSAzbKAKOzbLATINATE MYSLITEzcJUDIJ
EzbMYSLITEzbNASHIzbONUzcTUzbPEzcOKOJIzbRITSIzbSHAzdTAzfPICzcLOVOzcMALL YUSzk WITH TAILzcPIDERY HAz
bTROKUTASTI AzcSIzcVRIDOzbUKUzbVEDEzbYATIzcERIzeUzdSTUzcOzcUzbZEMLJAzcHIVETElSMALL LETTER AZUyBI
G YUSzaUKYyCAUDATE CHRIVIzaHRIVIyDJERVIzaOBROzaZELOyFITAzaRITUyGLAGOLIyHERUyIzaNITIAL IZHEzaOTATE
D BIG YUSzhSMALL YUSzaZHEzcITSAyKAKOyLATINATE MYSLITEzaJUDIJEyMYSLITEyNASHIyONUzaTUyPEzaOKOJIyRITS
IySHAzbTAzdPICzaLOVOzaMALL YUSzi WITH TAILzaPIDERY HAyTROKUTASTI AzaSIzaVRIDOyUKUyVEDEyYATIzaERIzc
UzbSTUzaOzaUyZEMLJAzaHIVETEdSS OF MILKcEICH STARKcOBE WITH MERIDIANSdVESdWING STARbOAL NETdTcGGLES
cLFERcRILLAcTHIC LETTER AHSApIHVUSoBAIRKANoDAGSoEISoFAIHUoGIBAoHAGLpWAIRoIGGWSpUJAoJERoKUSMAoLAGUS
oMANNAoNAUTHSpINE HUNDREDsTYoOTHALoPAIRTHRAoQAIRTHRAoRAIDAoSAUILoTEIWSpHIUTHoURUSoWINJAbRADUATIO
N CAPdNTHA AU LENGTH MARKiLETTER AqAqIqUpBAqHApCAqHApDAqDArHAqHApEEpGAqHApHApIqIpJAqHApKAqHApLAqLA
pMApNAqGAqNAqYApOOpPAqHApRApSAqHAqSApTAqHAqTArHApUqUpVAqEDIC ANUSVARAvDOUBLE ANUSVARAqOCALIC LyLxR
yRpYAiOMiSIGN ANUSVARAoVAGRAHAnCANDRABINDUoOMBINING ANUSVARA ABOVEnNUKTAnPLUTAnVIRAMApSARGAiVOWE
L SIGN AAuIuUtEEtIuItOOtUuUtVOCALIC LzdLzcRzdRdPESdVE ACCENTcEATER-THAN ABOVE DOUBLE-LINE EQUAL AB
OVE LESS-THANtLESS-THAN ABOVE DOUBLE-LINE EQUALtRIGHTWARDS ARROWtSIMILAR ABOVE LESS-THANzcOR EQUAL
uLANTED EQUAL ABOVE LESS-THAN ABOVE SLANTED EQUALoND NOT APPROXIMATErSINGLE-LINE NOT EQUAL TOnBESI
DE LESS-THANoUT NOT EQUAL TOyIVALENT TOnCLOSED BY CURVEzd ABOVE SLANTED EQUALnEQUAL TO OR LESS-THA
NnOR APPROXIMATEqEQUAL TOtIVALENT TOqLESS-THANqSLANTED EQUAL TOzh WITH DOT ABOVEzw LEFTzrINSIDEoVE
R EQUAL TOrLAPPING LESS-THANnSIGNnWITH CIRCLE INSIDEsDOTsQUESTION MARK ABOVEdEK ACROPHONIC ATTIC F
IFTYzd STATERSzeTALENTSzfHOUSANDzm STATERSzaVEzc HUNDREDzk STATERSzlTALENTSzdSTATERSzdTALENTSzeHOU
SANDzl TALENTSxONE DRACHMAzcHALFzdUNDRED STATERSzkTALENTSzcQUARTERzcTHOUSAND STATERSzlTALENTSxTE
N MNASzcSTATERSzcTALENTSzdHOUSAND STATERSrCARYSTIAN FIVE HUNDREDsYRENAIC TWO DRACHMASrDELPHIC FIV
E MNASrEPIDAUREAN FIVE HUNDREDzdTWOzg DRACHMASrHERAEUM ONE PLETHRONuMIONIAN FIFTYzdONEzdTENrMESSEN
IAN TENrNAXIAN FIVE HUNDREDrSTRATIAN FIFTY MNASrTHESPIAN FIFTYzdVE HUNDREDzgTHOUSANDzbONEze HUNDRE
DzfTHOUSANDzbTENzcHIRTYzdREE HUNDREDzcWOsROEZENIAN FIFTYzi ALTERNATE FORMzfVEzh HUNDREDzdTENzg ALT
ERNATE FORMhNO TELEIAhROURA SIGNiTABE SIGNgBETA SYMBOLgCAPITAL DOTTED LUNATE SIGMA SYMBOLoKAI SYMB
OLoLETTER ALPHAzb WITH DASIAzm AND OXIAzv AND PROSGEGRAMMENIzrPERISPOMENIzzd AND PROSGEGRAMMENIzsR
OSGEGRAMMENIzrVARIAzw AND PROSGEGRAMMENIzhMACRONzhOXIAzhPROSGEGRAMMENIziSILIzm AND OXIAzv AND PROS
GEGRAMMENIzrPERISPOMENIzzd AND PROSGEGRAMMENIzsROSGEGRAMMENIzrVARIAzw AND PROSGEGRAMMENIzhTONOSzhV
ARIAziRACHYwRCHAIC SAMPIvBETAvCHIvDELTAvEPSILONzd WITH DASIAzo AND OXIAztVARIAzjOXIAzjPSILIzo AN
D OXIAztVARIAzjTONOSzjVARIAwTAy WITH DASIAzk AND OXIAzt AND PROSGEGRAMMENIzpPERISPOMENIzzb AND PRO
SGEGRAMMENIzqROSGEGRAMMENIzpVARIAzu AND PROSGEGRAMMENIzfOXIAzfPROSGEGRAMMENIzgSILIzk AND OXIAzt AN
D PROSGEGRAMMENIzpPERISPOMENIzzb AND PROSGEGRAMMENIzqROSGEGRAMMENIzpVARIAzu AND PROSGEGRAMMENIzfTO
NOSzfVARIAvGAMMAvHETAvIOTAza WITH DASIAzl AND OXIAzqPERISPOMENIzqVARIAzhIALYTIKAzgMACRONzgOXIAzgPS
ILIzl AND OXIAzqPERISPOMENIzqVARIAzgTONOSzgVARIAzhRACHYvKAPPAvLAMDAvMUvNUvOMEGAzb WITH DASIAzm AN
D OXIAzv AND PROSGEGRAMMENIzrPERISPOMENIzzd AND PROSGEGRAMMENIzsROSGEGRAMMENIzrVARIAzw AND PROSGEG
RAMMENIzhOXIAzhPROSGEGRAMMENIziSILIzm AND OXIAzv AND PROSGEGRAMMENIzrPERISPOMENIzzd AND PROSGEGRAM
MENIzsROSGEGRAMMENIzrVARIAzw AND PROSGEGRAMMENIzhTONOSzhVARIAxICRONzd WITH DASIAzo AND OXIAztVARIA
zjOXIAzjPSILIzo AND OXIAztVARIAzjTONOSzjVARIAvPAMPHYLIAN DIGAMMAwHIwIwSIvRHOy WITH DASIAvSANwHOwIG
MAvTAUwHETAvUPSILONzd WITH DASIAzo AND OXIAztPERISPOMENIztVARIAzkIALYTIKAzjMACRONzjOXIAzjTONOSzjVA
RIAzkRACHYvXIvYOTvZETApUNATE SIGMA SYMBOLoREVERSED DOTTED LUNATE SIGMA SYMBOLxLUNATE SIGMA SYMBOLo
THETA SYMBOLgDASIAl AND OXIAqPERISPOMENIqVARIAhIALYTIKA AND OXIAuPERISPOMENIuVARIAqTONOShRACHMA SI
GNgFIVE OBOLS SIGNhOUR OBOLS SIGNgGRAMMA SIGNgINDICTION SIGNiSTRUMENTAL NOTATION SYMBOL-1zl1zl2zl3
zl4zl7zl8zl9zk2zl3zl4zl5zl6zl7zl9zk30zl2zl6zl7zl8zl9zk4zl0zl2zl3zl5zl7zl8zl9zk5zl0zl1zl2zl3zl4zk7z
k8gKAI SYMBOLiPPA SYMBOLhORONIShYATHOS BASE SIGNgLETTER ARCHAIC KOPPAnDIGAMMAnKOPPAnSAMPIoMALL CAP
ITAL GAMMAzcLAMDAzcOMEGAzcPIzdSIzcRHOoTIGMAnYOThITRA SIGNhOWER NUMERAL SIGNhUNATE EPSILON SYMBOLnS
IGMA SYMBOLgMETRETES SIGNhUSICAL LEIMMAgNUMERAL SIGNgOBOL SIGNhNE HALF SIGNt ALTERNATE FORMkQUARTE
R SIGNhUNKIA SIGNhXIAgPERISPOMENIhHI SYMBOLhI SYMBOLhROSGEGRAMMENIhSILIl AND OXIAqPERISPOMENIqVARI
AgQUESTION MARKgREVERSED LUNATE EPSILON SYMBOLhHO SYMBOLkWITH STROKE SYMBOLgSINUSOID SIGNhMALL DOT
TED LUNATE SIGMA SYMBOLmLETTER ALPHAy WITH DASIAzk AND OXIAzt AND YPOGEGRAMMENIzpPERISPOMENIzzb AN
D YPOGEGRAMMENIzpVARIAzu AND YPOGEGRAMMENIzpYPOGEGRAMMENIzfMACRONzfOXIAzj AND YPOGEGRAMMENIzfPERIS
POMENIzq AND YPOGEGRAMMENIzgSILIzk AND OXIAzt AND YPOGEGRAMMENIzpPERISPOMENIzzb AND YPOGEGRAMMENIz
pVARIAzu AND YPOGEGRAMMENIzpYPOGEGRAMMENIzfTONOSzfVARIAzk AND YPOGEGRAMMENIzgRACHYzfYPOGEGRAMMENIu
RCHAIC KOPPAzcSAMPItBETAtCHItDELTAuIGAMMAtEPSILONzb WITH DASIAzm AND OXIAzrVARIAzhOXIAzhPSILIzm AN
D OXIAzrVARIAzhTONOSzhVARIAuTAw WITH DASIAzi AND OXIAzr AND YPOGEGRAMMENIznPERISPOMENIzy AND YPOGE
GRAMMENIznVARIAzs AND YPOGEGRAMMENIznYPOGEGRAMMENIzdOXIAzh AND YPOGEGRAMMENIzdPERISPOMENIzo AND YP
OGEGRAMMENIzeSILIzi AND OXIAzr AND YPOGEGRAMMENIznPERISPOMENIzy AND YPOGEGRAMMENIznVARIAzs AND YPO
GEGRAMMENIznYPOGEGRAMMENIzdTONOSzdVARIAzi AND YPOGEGRAMMENIzdYPOGEGRAMMENItFINAL SIGMAtGAMMAtHETAt
IOTAx WITH DASIAzj AND OXIAzoPERISPOMENIzoVARIAzfIALYTIKAzn AND OXIAzsPERISPOMENIzsTONOSzsVARIAzeM
ACRONzeOXIAzePERISPOMENIzfSILIzj AND OXIAzoPERISPOMENIzoVARIAzeTONOSzeVARIAzfRACHYtKAPPAuOPPAtLAMD
AtMUtNUtOMEGAy WITH DASIAzk AND OXIAzt AND YPOGEGRAMMENIzpPERISPOMENIzzb AND YPOGEGRAMMENIzpVARIAz
u AND YPOGEGRAMMENIzpYPOGEGRAMMENIzfOXIAzj AND YPOGEGRAMMENIzfPERISPOMENIzq AND YPOGEGRAMMENIzgSIL
Izk AND OXIAzt AND YPOGEGRAMMENIzpPERISPOMENIzzb AND YPOGEGRAMMENIzpVARIAzu AND YPOGEGRAMMENIzpYPO
GEGRAMMENIzfTONOSzfVARIAzk AND YPOGEGRAMMENIzfYPOGEGRAMMENIvICRONzb WITH DASIAzm AND OXIAzrVARIAzh
OXIAzhPSILIzm AND OXIAzrVARIAzhTONOSzhVARIAtPAMPHYLIAN DIGAMMAuHIuIuSItRHOw WITH DASIAzdPSILItSAMP
IvNuHOuIGMAuTIGMAtTAUuHETAtUPSILONzb WITH DASIAzm AND OXIAzrPERISPOMENIzrVARIAziIALYTIKAzq AND OXI
AzvPERISPOMENIzvTONOSzvVARIAzhMACRONzhOXIAzhPERISPOMENIziSILIzm AND OXIAzrPERISPOMENIzrVARIAzhTONO
SzhVARIAziRACHYtXItZETAmREVERSED DOTTED LUNATE SIGMA SYMBOLvLUNATE SIGMA SYMBOLhUBSCRIPT SMALL LET
TER BETAzeCHIzeGAMMAzePHIzeRHOhYMBOL TAU RHOgTALENT SIGNhHETA SYMBOLiREE OBOLS SIGNmQUARTERS SIGNh
ONOShRYBLION BASE SIGNhWO OBOLS SIGNkTHIRDS SIGNgUPSILON WITH ACUTE AND HOOK SYMBOLtDIAERESIS AN
D HOOK SYMBOLtHOOK SYMBOLgVARIAhOCAL NOTATION SYMBOL-1ze0ze1ze2ze3ze4ze5ze6ze7ze8ze9zd2ze0ze1ze2ze
3ze4zd3zd4zd5ze0ze1ze2ze3ze4zd6zd7zd8zd9gXESTES SIGNgYEAR SIGNhPOGEGRAMMENIgZERO SIGNeN APPLEgBOOK
gHEARTgSALADcIMACING FACEdNNING CAT FACE WITH SMILING EYESjFACEn WITH ONE LARGE AND ONE SMALL EYEt
SMILING EYESuTAR EYEScOUP MARKgSEPARATORdWING HEARTbSbUARANI SIGNeDSMANcIDE DOGdTARcJARATI ABBREVI
ATION SIGNjDIGIT EIGHTpFIVEqOURpNINEpONEpSEVENqIXpTHREEqWOpZEROjLETTER ArArIrUqBArHAqCArHAqDArDAsH
ArHAqEqGArHAqHAqIrIqJArHAqKArHAqLArLAqMAqNArGArNArYAqOqPArHAqRAqSArHArSAqTArHArTAsHAqUrUqVArOCALI
C LzaLyRzaRqYAqZHAjOMjRUPEE SIGNjSIGN ANUSVARApVAGRAHAoCANDRABINDUpIRCLE NUKTA ABOVEoMADDAHoNUKTAo
SHADDApUKUNoTHREE-DOT NUKTA ABOVEpWO-CIRCLE NUKTA ABOVEoVIRAMAqSARGAjVOWEL CANDRA EwOpSIGN AAvIvUu
CANDRA EzcOuEuIvIuOuUvUuVOCALIC LzeLzdRzeRcNJALA GONDI DIGIT EIGHTuFIVEvOURuNINEuONEuSEVENvIXuTHRE
EvWOuZEROoLETTER AwAwIwUvBAwHAvCAwHAvDAwDAxHAwHAvEEvGAwHAvHAvIwIvJAwHAvKAwHAvLAwLAvMAvNAwGAvOOvPAw
HAvRAvSAvTAwHAwTAxHAvUwUvVAvYAoOMoSIGN ANUSVARAtVISARGAoVIRAMApOWEL SIGN AAzbIzbUzaEEzaIzbIzaOOzaU
zbUcRMUKHI ABBREVIATION SIGNkDDAKjDIGIT EIGHTpFIVEqOURpNINEpONEpSEVENqIXpTHREEqWOpZEROjEK ONKARjIR
IjLETTER ArArIrUqBArHAqCArHAqDArDAsHArHAqEEqFAqGArHAsHAqHAqIrIqJArHAqKArHAsHAqLArLAqMAqNArGArNArYA
qOOqPArHAqRArRAqSArHAqTArHArTAsHAqUrUqVAqYAqZAjSIGN ADAK BINDIoBINDIoNUKTAoUDAAToVIRAMAqSARGAoYAKA
SHjTIPPIjURAjVOWEL SIGN AAvIvUuEEuIvIuOOuUvUaHADEScIR SPACEeCUTcLFWIDTH BLACK SQUAREkDOWNWARDS ARR
OWkFORMS LIGHT VERTICALkHANGUL FILLERrLETTER AzaEyCHIEUCHzaIEUCyEzaOzaUyHIEUHyIzaEUNGyKHIEUKHzaIYE
OKzf-SIOSyMIEUMyNIEUNze-CIEUCzfHIEUHyOzaEyPHIEUPHzaIEUPze-SIOSyRIEULze-HIEUHzfKIYEOKzfMIEUMzfPHIEU
PHzgIEUPzfSIOSzfTHIEUTHySIOSzaSANGCIEUCzeKIYEOKzePIEUPzeSIOSzeTIKEUTyTHIEUTHzaIKEUTyUyWAzbEzaEzbOz
aIyYAzbEzaEzbOzaIzaOzaUkIDEOGRAPHIC COMMAwFULL STOPkKATAKANA LETTER AzbEzbHAzcEzcIzcOzcUzbIzbKAzcE
zcIzcOzcUzbMAzcEzcIzcOzcUzbNzcAzcEzcIzcOzcUzbOzbRAzcEzcIzcOzcUzbSAzcEzcIzcMALL AzhEzhIzhOzhTUzhUzh
YAziOziUzcOzcUzbTAzcEzcIzcOzcUzbUzbWAzcOzbYAzcOzcUtMIDDLE DOTtSEMI-VOICED SOUND MARKtVOICED SOUN
D MARKs-HIRAGANA PROLONGED SOUND MARKkLEFT CORNER BRACKEToWARDS ARROWkRIGHT CORNER BRACKETpWARDS A
RROWkUPWARDS ARROWkWHITE CIRCLEcMBURGERdMERg AND PICKlSICKLElWRENCHdSAeTER FACEcND WITH INDEX AN
D MIDDLE FINGERS CROSSEDqFINGER AND THUMB CROSSEDeBAGgLLeSHAKEdGUL CHOSEONG CEONGCHIEUMCHIEUCHzdIE
UCzcSIOSzdSANGCIEUCzhSIOSrHIEUCHx-HIEUHyKHIEUKHtTUEUMCHIEUCHzaIEUCySIOSzaSANGCIEUCzeSIOSrIEUCv-IEU
NGqFILLERqHIEUHv-SIOSqIEUNGv-CHIEUCHxIEUCwHIEUHwKIYEOKwMIEUMwPANSIOSxHIEUPHxIEUPwRIEULwSIOSwTHIEUT
HxIKEUTqKAPYEOUNMIEUMyPHIEUPHzaIEUPyRIEULySSANGPIEUPrHIEUKHrIYEOKw-TIKEUTqMIEUMv-KIYEOKwPIEUPwSIOS
wTIKEUTqNIEUNv-CIEUCwHIEUHwKIYEOKwPIEUPwSIOSwTIKEUTqPANSIOSrHIEUPHx-HIEUHyPIEUPrIEUPv-CHIEUCHxIEUC
wHIEUHwKHIEUKHxIYEOKwNIEUNwPHIEUPHwSIOSzb-CIEUCzcKIYEOKzcPIEUPzcTHIEUTHzdIKEUTxSANGSIOSwTHIEUTHxIK
EUTqRIEULv-CIEUCwHIEUHwKAPYEOUNPIEUPxHIEUKHxIYEOKwMIEUMwNIEUNwPIEUPwSIOSxSANGKIYEOKzcPIEUPzcTIKEUT
wTIKEUTqSIOSu-CHIEUCHwIEUCvHIEUHvIEUNGvKHIEUKHwIYEOKvMIEUMvNIEUNvPHIEUPHwIEUPzb-KIYEOKvRIEULvSSANG
SIOSvTHIEUTHwIKEUTrSANGCIEUCzb-HIEUHvHIEUHvIEUNGvKIYEOKvNIEUNvPIEUPvRIEULvSIOSza-PIEUPvTHIEUTHwIKE
UTvYEORINHIEUHqTHIEUTHrIKEUTw-CIEUCxKIYEOKxMIEUMxPIEUPxRIEULxSIOSqYEORINHIEUHsSIEUNGhDOUBLE DOT TO
NE MARKhFILLERhJONGSEONG CHIEUCHsIEUCw-PIEUPxSSANGPIEUPrHIEUHw-MIEUMxNIEUNxPIEUPxRIEULrIEUNGw-KHIE
UKHyIYEOKxSSANGKIYEOKrKAPYEOUNMIEUMzaPHIEUPHzbIEUPzaRIEULsHIEUKHsIYEOKx-CHIEUCHyHIEUHyKHIEUKHyNIEU
NyPIEUPyRIEULySIOSzd-KIYEOKrMIEUMw-CHIEUCHyIEUCxHIEUHxKIYEOKxNIEUNxPANSIOSyIEUPzd-SIOSxRIEULxSIOSy
SANGNIEUNzdSIOSrNIEUNw-CHIEUCHyIEUCxHIEUHxKIYEOKxPANSIOSxRIEULxSIOSxTHIEUTHyIKEUTrPANSIOSy-KAPYEOU
NPIEUPzaPIEUPsHIEUPHy-PIEUPzaSIOSzaTHIEUTHsIEUPw-CHIEUCHyIEUCxHIEUHxMIEUMxPHIEUPHxRIEULzd-PHIEUPHx
SIOSzc-TIKEUTxTIKEUTrRIEULw-HIEUHxKAPYEOUNPIEUPyHIEUKHyIYEOKze-HIEUHzfSIOSxMIEUMzd-HIEUHzeKIYEOKze
SIOSxNIEUNxPANSIOSyHIEUPHyIEUPzd-HIEUHzePHIEUPHzeSIOSzeTIKEUTxSIOSySANGKIYEOKzdSIOSxTHIEUTHyIKEUTz
e-HIEUHxYEORINHIEUHzj-HIEUHzaSIEUNGrSIOSv-CHIEUCHxIEUCwHIEUHwKAPYEOUNPIEUPxIYEOKwMIEUMwPANSIOSxIEU
PwRIEULwTHIEUTHxIKEUTsSANGCIEUCwIEUNGwKIYEOKwMIEUMwNIEUNwPIEUPwRIEULzc-KHIEUKHwSIOSzb-KIYEOKzcTIKE
UTwTIKEUTzd-PIEUPwYESIEUNGrTHIEUTHsIKEUTx-CHIEUCHzaIEUCyKIYEOKyPIEUPyRIEULySIOSzd-KIYEOKyTHIEUTHrY
EORINHIEUHtSIEUNGza-HIEUHzbKHIEUKHzcIYEOKzbMIEUMzbPANSIOSzbSIOSzcSANGKIYEOKiUNGSEONG As-EUtOtUsEsR
AEAw-AxEyOxIxUrEsOt-EUuOuUsUt-AuEvOvUuOuUrFILLERrIs-AuRAEAtEUtItOu-ItUtYAv-OvEuEvOuOuUrOs-EuOtOu-I
tUtYAvEuEvOsErSSANGARAEArUs-AuEtEO-EUtI-ItUtYEvOrWAtEsEtOsIrYAt-OuUuYOtEsEtOu-OvUvYAsIt-UsOt-AvEuE
OuIuOuYAwEvEOsUt-AvEuEvOuIuOuUuYEwOhLETTER ApEpRAEAtEoCHIEUCHpIEUCoEpOpUoHIEUHoIpEUNGoKAPYEOUNMIEU
MwPHIEUPHxIEUPwSSANGPIEUPpHIEUKHpIYEOKu-SIOSoMIEUMt-PANSIOSvIEUPuSIOSoNIEUNt-CIEUCuHIEUHuPANSIOSuS
IOSuTIKEUToOpEoPANSIOSpHIEUPHpIEUPt-CIEUCuKIYEOKuSIOSy-KIYEOKzaTIKEUTuTHIEUTHvIKEUToRIEULt-HIEUHuK
IYEOKzb-SIOSuMIEUMuPANSIOSvHIEUPHvIEUPza-SIOSuSIOSuTHIEUTHvIKEUTuYEORINHIEUHoSIOSs-CIEUCtKIYEOKtNI
EUNtPIEUPtTIKEUTpSANGCIEUCtHIEUHtIEUNGtKIYEOKtNIEUNtPIEUPtSIOStTIKEUToTHIEUTHpIKEUToUoWAqEpEqOpIoY
AqEpEqOrRINHIEUHqSIEUNGw-PANSIOSxSIOSpIpOq-IrYAtEpUq-IrYEtOhSINGLE DOT TONE MARKeZHOU NUMERAL EIGH
TrFIVEsOURrNINErONErSEVENsIXrTENsHIRTYtREEsWENTYtOdIFI ROHINGYA DIGIT EIGHTwFIVExOURwNINEwONEwSEVE
NxIXwTHREExWOwZEROqLETTER AxBAxCAxDAyDAxFAxGAxHAxJAxKAyHAyINNA WAzeYAxLAxMAxNAyGAyYAxPAxRAyRAxSAyH
AxTAyTAxVAxWAxYAxZAqMARK NA KHONNAvSAKINqSIGN HARBAHAYvTAHALAxNAxSSIqVOWEL AwEwIwOwUdUNOO LETTER A
pBApDApGApHApIpKApLApMApNAqGApPApRApSApTApUpWApYAiSIGN PAMUDPODiVOWEL SIGN ItUcPPY PERSON RAISIN
G ONE HANDcRD DISKcTCHING CHICKdRAN LETTER ALEPHpYNoBETHoDALETH-RESHoGIMELoHEqTHoKAPHoLAMEDHoMEMoN
UNoPEoQOPHoSADHEqMEKHpHINoTAWpETHoWAWoYODHoZAYNhNUMBER FIVEoONEr HUNDREDoTENpWENTYbEADPHONEeSTONE
j GRAVEYARD SYMBOLdR-NO-EVIL MONKEYeT DECORATIONgHANDSgWITH ARROWlRIBBONlTIP ON THE LEFTdVY AMPERS
AND ORNAMENThRROW SHAFT WIDTH ONEzc HALFzdTHIRDyTWO THIRDShSTERISKgBALLOT XhLACK CURVED DOWNWARD
S AND RIGHTWARDS ARROWtUPWARDS AND RIGHTWARDS ARROWmHEARTl-FEATHERED NORTH EAST ARROWwRIGHTWARDS A
RROWwSOUTH EAST ARROWgCHECK MARKjVRON SNOWFLAKEhIRCLEm WITH CIRCLE INSIDEsSTROKE AND TWO DOTS ABOV
EmD SALTIREhONCAVE-POINTED BLACK RIGHTWARDS ARROWgDASHED TRIANGLE-HEADED RIGHTWARDS ARROWhIVISIO
N SIGNhOLLAR SIGNiUBLE COMMA QUOTATION MARK ORNAMENTnTURNED COMMA QUOTATION MARK ORNAMENTiWNWARD
S ARROW WITH EQUILATERAL ARROWHEADzcLARGE EQUILATERAL ARROWHEADgEIGHT POINTED BLACK STARuPINWHEE
L STARuRECTILINEAR BLACK STARmSPOKED ASTERISKmTEARDROP-SPOKED PROPELLER ASTERISKhQUALS SIGNhXCLAMA
TION MARK ORNAMENTxSYMBOLgFIVE POINTED BLACK STARlSPOKED ASTERISKhOUR BALLOON-SPOKED ASTERISKgGREE
K CROSSgHEART EXCLAMATION MARK ORNAMENThORIZONTAL FILLgINTERROBANG ORNAMENTgLARGE CIRCLEiTIN CROSS
hEFT-POINTING ANGLE BRACKET ORNAMENTzbQUOTATION MARK ORNAMENTkWARDS ARROW WITH EQUILATERAL ARROWHE
ADzcLARGE EQUILATERAL ARROWHEADhIGATURE OPEN ET ORNAMENThOW DOUBLE COMMA QUOTATION MARK ORNAMENTkS
INGLE COMMA QUOTATION MARK ORNAMENTjER RIGHT-SHADOWED WHITE RIGHTWARDS ARROWgMINUS SIGNhULTIPLICAT
ION XgNORTH EAST ARROWrPOINTING BUDzbVINE LEAFmWEST POINTING BUDzbVINE LEAFgOPEN CENTRE CROSShUTLI
NED BLACK STARhVAL WITH OVAL INSIDEgPLUS SIGNgRIGHT-POINTING ANGLE BRACKET ORNAMENTzcQUOTATION MAR
K ORNAMENTlWARDS ARROWw WITH EQUILATERAL ARROWHEADzdLARGE EQUILATERAL ARROWHEADhOUND-TIPPED RIGHTW
ARDS ARROWgSALTIREiNS-SERIF INTERROBANG ORNAMENThCRIPT LIGATURE ET ORNAMENThINGLE COMMA QUOTATIO
N MARK ORNAMENTnTURNED COMMA QUOTATION MARK ORNAMENTiX POINTED BLACK STARkSPOKED ASTERISKhOUTH EAS
T ARROWrPOINTING BUDzbVINE LEAFmWEST POINTING BUDzbVINE LEAFhPARKLEgTEARDROP-SHANKED RIGHTWARDS AR
ROWqPOKED ASTERISKwPINWHEEL ASTERISKhRIANGLE-HEADED RIGHTWARDS ARROWhWELVE POINTED BLACK STARvPINW
HEEL STARgUPPER RIGHT-SHADOWED WHITE RIGHTWARDS ARROWiWARDS ARROW WITH EQUILATERAL ARROWHEADzaLARG
E EQUILATERAL ARROWHEADgVERTICAL BARgWEDGE-TAILED RIGHTWARDS ARROWhHITE CIRCLEmDOWN-POINTING TRIAN
GLEmSQUAREhIDE-HEADED RIGHTWARDS ARROWcBREW ACCENT ATNAH HAFUKHoDARGApEHIoETNAHTAoGERESHu MUQDAMrS
HAYIMoILUYoMAHAPAKHpERKHAu KEFULApUNAHoOLEoPASHTAqZERoQADMAqRNEY PARAoREVIAoSEGOLpHALSHELEToTELISH
A GEDOLAwQETANAqVIRpIPEHAoYERAH BEN YOMOqTIVoZAQEF GADOLuQATANqRQApINORhLETTER ALEFs WITH MAPIQyPA
TAHyQAMATSqTERNATIVE AYINzbPLUS SIGNpYINoBETr WITH DAGESHxRAFEoDALETt WITH DAGESHoFINAL KAFx WIT
H DAGESHuMEMuNUNuPEw WITH DAGESHuTSADIoGIMELt WITH DAGESHoHEq WITH MAPIQqToKAFr WITH DAGESHxRAFEoL
AMEDt WITH DAGESHoMEMr WITH DAGESHoNUNr WITH DAGESHoPEq WITH DAGESHwRAFEoQOFr WITH DAGESHoRESHs WI
TH DAGESHoSAMEKHu WITH DAGESHpHINs WITH DAGESHzf AND SHIN DOTzlIN DOTySHIN DOTzaIN DOToTAVr WITH D
AGESHpETr WITH DAGESHpSADIt WITH DAGESHoVAVr WITH DAGESHxHOLAMoWIDE ALEFtDALETtFINAL MEMtHEtKAFtLA
MEDtRESHtTAVoYODr WITH DAGESHxHIRIQoZAYINt WITH DAGESHiIGATURE ALEF LAMEDqYIDDISH DOUBLE VAVzgYODy
VAV YODyYOD YOD PATAHhMARK LOWER DOTmMASORA CIRCLEmUPPER DOThPOINT DAGESH OR MAPIQnHATAF PATAHtQAM
ATStSEGOLoIRIQoOLAMs HASER FOR VAVnJUDEO-SPANISH VARIKAnMETEGnPATAHnQAMATSt QATANoUBUTSnRAFEnSEGOL
oHEVApIN DOToIN DOTnTSEREiUNCTUATION GERESHwSHAYIMtMAQAFtNUN HAFUKHAtPASEQtSOF PASUQhYOD TRIANGLEc
DGEHOGcLICOPTERdLSCHREIBER PAUSE SYMBOLdM SYMBOLeET WITH WHITE CROSScNTAIGANA LETTER A-1u2u3uWOsE-
1u2u3u4u5u6sHA-1w0w1v2v3v4v5v6v7v8v9tE-1v2v3v4v5v6v7tI-1v2v3v4v5v6v7tO-1v2v3v4v5v6v7v8tU-1v2v3sI-1
u2u3u4sKA-1w0w1v2v3v4v5v6v7v8v9vKEtE-1v2v3v4v5v6tI-1v2v3v4v5v6v7v8tO-1v2v3vKItU-1v2v3v4v5v6v7sMA-1
v2v3v4v5v6v7tE-1v2vMAtI-1v2v3v4v5v6v7tO-1v2v3v4v5v6tU-1v2v3v4sN-MU-MO-1zb2tA-1v2v3v4v5v6v7v8v9tE-1
v2v3v4v5v6vKOtI-1v2v3v4v5v6v7vTEtO-1v2v3v4v5tU-1v2v3sO-1u2u3sRA-1v2v3v4tE-1v2v3v4tI-1v2v3v4v5v6v7t
O-1v2v3v4v5v6tU-1v2v3v4v5v6sSA-1v2v3v4v5v6v7v8tE-1v2v3v4v5tI-1v2v3v4v5v6tO-1v2v3v4v5v6v7tU-1v2v3v4
v5v6v7v8sTA-1v2v3v4tE-1v2v3v4v5v6v7v8v9tI-1v2v3v4v5v6v7tO-1v2v3v4v5v6vRAtU-1v2v3v4vTOsU-1u2u3u4u5s
WA-1v2v3v4v5tE-1v2v3v4tI-1v2v3v4v5tO-1v2v3v4v5v6v7sYA-1v2v3v4v5vYOtO-1v2v3v4v5v6tU-1v2v3v4cRBdMITI
AN CONJUGATE MATRIXcXAGRAM FOR ABUNDANCEoFTER COMPLETIONoPPROACHnBEFORE COMPLETIONoITING THROUGHoR
EAKTHROUGHnCOMING TO MEETpNFLICTqTEMPLATIONnDARKENING OF THE LIGHToECREASEpLIVERANCEpVELOPMENToIFF
ICULTY AT THE BEGINNINGpSPERSIONoURATIONnENTHUSIASMnFELLOWSHIPoOLLOWINGnGATHERING TOGETHERoRACEpEA
T POSSESSIONvWERuREPONDERANCEtTAMINGnHOLDING TOGETHERnINCREASEpFLUENCEpNER TRUTHqOCENCEnLIMITATION
nMODESTYpUTH CORNERSnOBSTRUCTIONoPPOSITIONqRESSIONnPEACEoROGRESSoUSHING UPWARDnRETREATqURNpVOLUTIO
NnSMALL PREPONDERANCEtTAMINGoPLITTING APARToTANDSTILLnTHE ABYSMAL WATERsRMYtOUSING THUNDERrCAULDRO
NsLINGING FIREsREATIVE HEAVENrFAMILYrGENTLE WINDrJOYOUS LAKErKEEPING STILL MOUNTAINrMARRYING MAIDE
NrRECEPTIVE EARTHrWANDERERsELLoREADINGnWAITINGoORK ON THE DECAYEDnYOUTHFUL FOLLYbIBISCUScGH BRIGHT
NESS SYMBOLfOCTET PRESETfVOLTAGE SIGNe-HEELED SHOEfSPEED TRAINq WITH BULLET NOSEcKING BOOTcNDU TEM
PLEcPPOPOTAMUScRAGANA DIGRAPH YORIjITERATION MARKjLETTER ArRCHAIC WUyYEqBArErIrOrUqDArErIrOrUqEqGA
rErIrOrUqHArErIrOrUqIqKArErIrOrUqMArErIrOrUqNrArErIrOrUqOqPArErIrOrUqRArErIrOrUqSArErIrMALL AwEwIw
KAxEwOwTUwUwWAxExIxOwYAxOxUrOrUqTArErIrOrUqUqVUqWArErIrOqYArOrUqZArErIrOrUjVOICED ITERATION MARKcS
TORIC SITEbOCHOcLEdLOW QUILT SQUARE ORNAMENTzd IN BLACK SQUAREcMOTHETICcNEY POTfBEEcOKcPcRIZONTA
L BARmLACK HEXAGONrOCTAGONlELLIPSISlLINE EXTENSIONlMALE WITH STROKE SIGNlONE EIGHTH BLOCK-1358zd2z
d3zd4zd5zd6zd7lSCAN LINE-1v3v7v9lTAB KEYoULATIONv SETwWITH JUSTIFICATIONmRAFFIC LIGHTdSEf FACEgRAC
INGcSPITALcT BEVERAGEeDOGePEPPEReSPRINGSdELcURGLASSj WITH FLOWING SANDdSEf BUILDINGoSgWITH GARDENb
RYVNIA SIGNbTcJcSbUGGING FACEcNDRED POINTS SYMBOLcSHED FACEcTbYGIEAcPHENg BULLEThWITH DIAERESISg-M
INUSgATION POINTdODIASTOLEcSTERESIS SYMBOLaI LOVE YOU HAND SIGNbCE CREAMfUBEeHOCKEY STICK AND PUCK
eSKATEbDENTICAL TOm AND SLANTED PARALLELkWITH DOT ABOVEgFICATION CARDdOGRAPHIC ANNOTATION BOTTOM M
ARKxEARTH MARKxFIRST MARKyOUR MARKzcTH MARKxHEAVEN MARKxLINKING MARKxMAN MARKyIDDLE MARKxONE MARKx
REVERSE MARKxSECOND MARKxTHIRD MARKzaREE MARKyOP MARKyWO MARKmCLOSING MARKnOMMAmDEPARTING TONE MAR
KoSCRIPTION CHARACTER ABOVE TO BELOWzsMIDDLE AND BELOWzjFULL SURROUNDzjLEFT TO MIDDLE AND RIGHTzrR
IGHTzjOVERLAIDzjSURROUND FROM ABOVEzxBELOWzxLEFTzyOWER LEFTzxUPPER LEFTzzeRIGHTmENTERING TONE MARK
mFULL STOPmHALF FILL SPACEmITERATION MARKmLEVEL TONE MARKmNUMBER ZEROmRISING TONE MARKmSPACEmTALL
Y MARK FIVEyOURxONExTHREEyWOnELEGRAPH LINE FEED SEPARATOR SYMBOLwSYMBOL FOR APRILzjUGUSTziDAY EIGH
TzrEENznLEVENzmFIFTEENzoVEznOURzqTEENzmNINEzqTEENzmONEzmSEVENzrTEENznIXzpTEENzmTENznHIRTEENzrYzs-O
NEzoREEznWELVEzpNTYzs-EIGHTztFIVEzuOURztNINEztONEztSEVENzuIXztTHREEzuWOzoOzjECEMBERziFEBRUARYziHOU
R EIGHTzsEENzoLEVENznFIFTEENzpVEzoOURzrTEENznNINEzrTEENznONEznSEVENzsTEENzoIXzqTEENznTENzoHIRTEENz
pREEzoWELVEzqNTYzt-FOURzuONEzuTHREEzvWOzpOznZEROziJANUARYzjULYzkNEziMARCHzkYziNOVEMBERziOCTOBERziS
EPTEMBERmVARIATION INDICATORbMAGE OFi OR APPROXIMATELY EQUAL TOcPdERIAL ARAMAIC LETTER ALEPHzaYINy
BETHyDALETHyGIMELyHEzbTHyKAPHyLAMEDHyMEMyNUNyPEyQOPHyRESHySADHEzbMEKHzaHINyTAWzaETHyWAWyYODHyZAYIN
rNUMBER ONEzc HUNDREDzdTHOUSANDyTENzc THOUSANDzaHREEzaWENTYzbOrSECTION SIGNbNBOX TRAYcCOMING ENVEL
OPEfPLETE INFINITYdREASE FONT SIZE SYMBOLiS ASfMENTcDdEXf POINTING AT THE VIEWERdIAN RUPEE SIGNe
C SIYAQ ALTERNATE LAKH MARKmFRACTION ONE HALFzaQUARTERvTHREE QUARTERSmLAKH MARKmNUMBER ALTERNATE O
NEzeTEN THOUSANDzfWOtEIGHTy HUNDREDzaTHOUSANDyYza THOUSANDtFIFTYy THOUSANDvVEx HUNDREDyTHOUSANDuOR
TYy THOUSANDvURx HUNDREDyTHOUSANDtKARORyANtLAKHxANtNINEx HUNDREDyTHOUSANDxTYza THOUSANDtONEw HUNDR
EDxTHOUSANDtPREFIXED EIGHTzdFIVEzeOURzdNINEzdONEzdSEVENzeIXzdTHREEzeWOtSEVENy HUNDREDzaTHOUSANDyTY
zb THOUSANDuIXw HUNDREDxTHOUSANDwTYy THOUSANDtTENw THOUSANDuHIRTYza THOUSANDvREEy HUNDREDzaTHOUSAN
DuWENTYza THOUSANDvOw HUNDREDxTHOUSANDmPLACEHOLDERmRUPEE MARKcFINITYi NEGATED WITH VERTICAL BARdOR
MATION DESK PERSONmSEPARATOR FOURwONEwTHREExWOnOURCEcHIBIT ARABIC FORM SHAPINGiSYMMETRIC SWAPPINGc
PUT SYMBOL FOR LATIN CAPITAL LETTERSxLETTERSxSMALL LETTERSrNUMBERSrSYMBOLScSCRIPTIONAL PAHLAVI LET
TER ALEPHzeBETHzeDALETHzeGIMELzeHEzgTHzeKAPHzeLAMEDHzeMEM-QOPHzeNUNzePEzeSADHEzgMEKHzfHINzeTAWzfET
HzeWAW-AYIN-RESHzeYODHzeZAYINwNUMBER FOURzeONEzh HUNDREDziTHOUSANDzeTENzfHREEzfWENTYzgOqRTHIAN LET
TER ALEPHzgYINzfBETHzfDALETHzfGIMELzfHEzhTHzfKAPHzfLAMEDHzfMEMzfNUNzfPEzfQOPHzfRESHzfSADHEzhMEKHzg
HINzfTAWzgETHzfWAWzfYODHzfZAYINxNUMBER FOURzfONEzi HUNDREDzjTHOUSANDzfTENzgHREEzgWENTYzhOdERTION S
YMBOLcTEGRALi AROUND A POINT OPERATORkVERAGE WITH SLASHjEXTENSIONjWITH DOUBLE STROKEoINTERSECTIONo
LEFTWARDS ARROW WITH HOOKoOVERBARoTIMES SIGNoUNDERBARqIONeRCALATEfIOR PRODUCTfLINEAR ANNOTATION AN
CHORxSEPARATORxTERMINATORgOCKED FEMALE AND MALE SIGNfROBANGfSECTIONm ABOVE BAR ABOVE UNIONtUNIONnB
ESIDE AND JOINED WITH INTERSECTIONnWITH DOTsLOGICAL ANDsOVERBARcVERSE BULLETiCHECK MARKnER BOARD F
ILLiDOWNWARDS ARROW WITH TIP LEFTWARDSiMEDIUM SHADEiWHITE CIRCLEfTED EXCLAMATION MARKjINTERROBANGj
LAZY SkOW KAVYKAt WITH KAVYKA ABOVEjOHM SIGNjPENTAGRAMjQUESTION MARKjUNDERTIEdISIBLE PLUSkSEPARATO
RkTIMESbZAKAYA LANTERNaJACK-O-LANTERNcPANESE BANK SYMBOLjCASTLEjDOLLSjGOBLINjINDUSTRIAL STANDARD S
YMBOLjOGREjPOST OFFICEjSYMBOL FOR BEGINNERcRcVANESE CONSONANT SIGN CAKRAyKERETyPENGKALjDIGIT EIGHT
pFIVEqOURpNINEpONEpSEVENqIXpTHREEqWOpZEROjLEFT RERENGGANlTTER ArIqBAs MURDAqCAs MURDAqDAs MAHAPRAN
ArDAt MAHAPRANAqEqGAs MURDAqHAqIr KAWIrIqJAs MAHAPRANAqKAs MURDAtSASAKqLAqMAqNAs MURDArGAt LELETz
a RASWADIrYAt MURDAqOqPAs CEREKtMURDAqRAs AGUNGqSAs MAHAPRANAuURDAqTAs MURDArTAt MAHAPRANAqUqWAqYA
jPADA ADEGs ADEGpNDAPoISEN-ISENoLINGSApUHURqNGSIoMADYAoPANGKATpISELEHoTIRTA TUMETESoWINDUlNGKONnRA
NGKEPjRIGHT RERENGGANjSIGN CECAKt TELUoLAYARoPANYANGGAoWIGNYANjTURNED PADA PISELEHjVOWEL SIGN DIRG
A MUREuPEPETuSUKUy MENDUTuTALINGwRUNGvOLONGuWULUy MELIKbEANSbIGSAW PUZZLE PIECEbOINcYSTICKbUGGLING
cNOcPITERaKAABAcITHI ABBREVIATION SIGNhDANDAiOUBLE DANDAoSECTION MARKhENUMERATION SIGNhLETTER ApAp
IpUoBApHAoCApHAoDApDAqDHAqHApHAoEoGApHAoHAoIpIoJApHAoKApHAoLAoMAoNApGApNApYAoOoPApHAoRApHAoSApHApS
AoTApHApTAqHAoUpUoVAoYAhNUMBER SIGNs ABOVEhSECTION MARKiIGN ANUSVARAmCANDRABINDUmNUKTAmVIRAMAoSARG
AhVOWEL SIGN AAtItUsEsItIsOsUtUsVOCALIC RcNGAROOeXI RADICAL AGAINqNDqRRIVEsOWqXEpBADGERrMBOOqEANqI
GrRDrTTERqLACKrOODrUEqOATrDYrLT OF CLOTHrNErWqRANCHrISTLErUSHpCARTrULDRONrVEqHILDqITYqLANsWrIFFrOT
HESqOLORrMPARErRPSErVERrWpDEATHrERqIPPERrSHsTINGUISHrVINATIONqO NOTrGrORrTsTED CLIFFwTENTrUBLE XrW
N BOXqRAGONrUMrYpEARsTHrTqIGHTqMBROIDERYqNCLOSURErTERqVENtINGqYEpFACErNGrTHERqEATHERqIELDrGHTrRErS
HqLUTErYqOOTqRAGRANTrOGqURpGATEqHOSTqOr SLOWLYrLDqRAINsSSpHAIRrLBERDsF TREE TRUNKrNDqEADsRTrMPqIDI
NG ENCLOSUREqOOKrRNsSEpICEqNCHrSECTpJADErRpKNIFEpLACKrMEqEAFsTHERrEKrGSqIDrFErNEqONGt STRIDEpMANqE
ATrLONqILLETrNISTERqOONrRNINGsTARrUNDtTAINsTHpNETqOSErTpOLDqNEsSELFqPEN BOXrPOSEpPIGqLOWqOWERqRIVA
TErOFOUNDpRAINrPrTqEDqICErGHT OPEN BOXrVERqOOFqUNpSACRIFICIAL WINErLTrYqCHOLARrRIPTqEALrCONDrErLFq
HEEPsLLrOOTsRT TAILED BIRDwHREADqICKNESSrLKqKINqLASHsVErICEqMALLqNOUTqOUNDqPEARsECHrIRITrOONrROUTq
QUAREqTANDrEAMsPrONEsPtPINGqUNqWEETpTABLErLLrNNED LEATHERqENqIGERrLEqONGUErOTHqRACKrEErIPODqURBANs
TLEqWOs HANDSpUSEpVALLEYqILLAGEpWALKt ENCLOSURErTERqEAPONrSTqHEATrITEqINDsEqOMANrRKqRAPrONGpYELLOW
dNADA AI LENGTH MARKiDIGIT EIGHToFIVEpOURoNINEoONEoSEVENpIXoTHREEpWOoZEROiLENGTH MARKkTTER AqAqIqU
pBAqHApCAqHApDAqDArHAqHApEqEpFApGAqHApHApIqIpJAqHApKAqHApLAqLArLApMApNArKAARA POLLUqGAqNAqYApOqOpP
AqHApRAqRApSAqHAqSApTAqHAqTArHApUqUpVAqOCALIC LyLxRyRpYAiSIGN ANUSVARAoVAGRAHAnCANDRABINDUnJIHVAMU
LIYAnNUKTAnSIDDHAMoPACING CANDRABINDUnUPADHMANIYAnVIRAMApSARGAiVOWEL SIGN AAuIuUtEuEtIuItOuOtUuUtV
OCALIC LzdLzcRzdRcTAKANA DIGRAPH KOTOjITERATION MARKjLETTER ArRCHAIC EyWUyYEzaIqBArErIrOrUqDArErIr
OrUqEqGArErIrOrUqHArErIrOrUqIqKArErIrOrUqMArErIsNNAN NASALIZED TONE-1zn2zn3zn4zn5zn7zn8xTONE-2zd3z
d4zd5zd7zd8rOrUqNrArErIrOrUqOqPArErIrOrUqRArErIrOrUqSArErIrMALL AwEwHAxExIxOxUwIwKAxExUwMUwNxUwOwR
AxExIxOxUwSIxUwTOxUwUwWAxExIxOwYAxOxUrOrUqTArErIrOrUqUqVArErIrOrUqWArErIrOqYArOrUqZArErIrOrUjMIDDL
E DOTjVOICED ITERATION MARKi-HIRAGANA DOUBLE HYPHENsPROLONGED SOUND MARKsSEMI-VOICED SOUND MARKsVO
ICED SOUND MARKcYAH LI DIGIT EIGHTpFIVEqOURpNINEpONEpSEVENqIXpTHREEqWOpZEROjLETTER AqBAqCAqDAqGAqH
ArTAqIqKArHAqLAqMAqNArGArYAqOErOqPArHAqRAqSArHAqTArHAqVAqWAqYAqZAjSIGN CWIoSHYAjTONE CALYAt PLOPHU
oPLOPHUjVOWEL EqEpOpUqEbELVIN SIGNcYdBOARDi AND MOUSEdCAP TENbHAROSHTHI DIGIT FOURrONErTHREEsWOlFR
ACTION ONE HALFlLETTER AsBAtHAsCAtHAsDAtDAuHAtHAsGAtHAsHAsJAsKAtHAtKAsLAsMAsNAtNAtYAsPAtHAsRAsSAtH
AtSAsTAtHAtTAuHAuTAvHAsVAtHAsYAsZAlNUMBER ONE HUNDREDwTHOUSANDsTENtWENTYlPUNCTUATION CIRCLEyRESCEN
T BARxDANDAyOTzaUBLE DANDAxLINESyOTUSxMANGALAMxSMALL CIRCLElSIGN ANUSVARAqBAR ABOVEqCAUDAqDOT BELO
WsUBLE RING BELOWqVISARGAlVIRAMAmOWEL LENGTH MARKrSIGN EwIwOwUwVOCALIC RcITAN SMALL SCRIPT CHARACT
ER-18B00zj1zj2zj3zj4zj5zj6zj7zj8zj9zjAzjBzjCzjDzjEzjFzi10zj1zj2zj3zj4zj5zj6zj7zj8zj9zjAzjBzjCzjDzj
EzjFzi20zj1zj2zj3zj4zj5zj6zj7zj8zj9zjAzjBzjCzjDzjEzjFzi30zj1zj2zj3zj4zj5zj6zj7zj8zj9zjAzjBzjCzjDzj
EzjFzi40zj1zj2zj3zj4zj5zj6zj7zj8zj9zjAzjBzjCzjDzjEzjFzi50zj1zj2zj3zj4zj5zj6zj7zj8zj9zjAzjBzjCzjDzj
EzjFzi60zj1zj2zj3zj4zj5zj6zj7zj8zj9zjAzjBzjCzjDzjEzjFzi70zj1zj2zj3zj4zj5zj6zj7zj8zj9zjAzjBzjCzjDzj
EzjFzi80zj1zj2zj3zj4zj5zj6zj7zj8zj9zjAzjBzjCzjDzjEzjFzi90zj1zj2zj3zj4zj5zj6zj7zj8zj9zjAzjBzjCzjDzj
EzjFziA0zj1zj2zj3zj4zj5zj6zj7zj8zj9zjAzjBzjCzjDzjEzjFziB0zj1zj2zj3zj4zj5zj6zj7zj8zj9zjAzjBzjCzjDzj
EzjFziC0zj1zj2zj3zj4zj5zj6zj7zj8zj9zjAzjBzjCzjDzjEzjFziD0zj1zj2zj3zj4zj5zj6zj7zj8zj9zjAzjBzjCzjDzj
EzjFziE0zj1zj2zj3zj4zj5zj6zj7zj8zj9zjAzjBzjCzjDzjEzjFziF0zj1zj2zj3zj4zj5zj6zj7zj8zj9zjAzjBzjCzjDzj
EzjFzhC00zj1zj2zj3zj4zj5zj6zj7zj8zj9zjAzjBzjCzjDzjEzjFzi10zj1zj2zj3zj4zj5zj6zj7zj8zj9zjAzjBzjCzjDz
jEzjFzi20zj1zj2zj3zj4zj5zj6zj7zj8zj9zjAzjBzjCzjDzjEzjFzi30zj1zj2zj3zj4zj5zj6zj7zj8zj9zjAzjBzjCzjDz
jEzjFzi40zj1zj2zj3zj4zj5zj6zj7zj8zj9zjAzjBzjCzjDzjEzjFzi50zj1zj2zj3zj4zj5zj6zj7zj8zj9zjAzjBzjCzjDz
jEzjFzi60zj1zj2zj3zj4zj5zj6zj7zj8zj9zjAzjBzjCzjDzjEzjFzi70zj1zj2zj3zj4zj5zj6zj7zj8zj9zjAzjBzjCzjDz
jEzjFzi80zj1zj2zj3zj4zj5zj6zj7zj8zj9zjAzjBzjCzjDzjEzjFzi90zj1zj2zj3zj4zj5zj6zj7zj8zj9zjAzjBzjCzjDz
jEzjFziA0zj1zj2zj3zj4zj5zj6zj7zj8zj9zjAzjBzjCzjDzjEzjFziB0zj1zj2zj3zj4zj5zj6zj7zj8zj9zjAzjBzjCzjDz
jEzjFziC0zj1zj2zj3zj4zj5zj6zj7zj8zj9zjAzjBzjCzjDzjEzjFziD0zj1zj2zj3zj4zj5uFILLERcMER CURRENCY SYMB
OL RIELgDIGIT EIGHTmFIVEnOURmNINEmONEmSEVENnIXmTHREEnWOmZEROgINDEPENDENT VOWEL LYzbYyQAAzbIzbQzbUz
aEzaIzbIzaOO TYPE ONEziTWOzaUzbKzbUzcVyRYzbYgLETTER BAnCAoHApOoOnDAoOnHAnKAoHApOoOnLAoOnMOnNGOoNOo
OoYOnPHApOoOnQAnROnSAoHAoSOnTAoHApOoOoTHAqOnVOnYOgSIGN AHSDAmTTHACANmVAKRAHASANYAlBANTOCnRIYOOSANn
THAMASATmEYYALlCAMNUC PII KUUHmOENGlKAKABATmHANmOOMUUTlLEK TOOlMUUSIKATOANlNIKAHITlPHNAEK MUANlREA
HMUKmOBATlSAMYOK SANNYAlTOANDAKHIATmRIISAPlVIRIAMlYUUKALEAPINTUhYMBOL BEI KOETrROCoUON KOETsROCnDA
P KOETrROCq-BEI KOETvROCsUON KOETwROCrMUOY KOETwROCrPII KOETvROCsRAM KOETwROCnLEK ATTAK BEIyUONxMU
OYxPIIyRAMzc-BEIzeUONzdMUOYzdPIIxSONnMUOY KOETsROCnPATHAMASAToII KOETrROCoRAM KOETsROCr-BEI KOETwR
OCtUON KOETxROCsMUOY KOETxROCsPII KOETwROCnTUTEYASATgVOWEL INHERENT AAwQmSIGN AAsEsIsUrErIsEsIrOEs
OrUsAsUrYsAsYcOJKI ABBREVIATION SIGNhDANDAiOUBLE DANDAoSECTION MARKhLETTER ApApIpUoBApBApHAoCApHAo
DApDAqDAqHApHAoEoGApGApHAoHAoIoJApJAoKApHAoLApLAoMAoNApGApNApYAoOoPApHAoRAoSAoTApHApTAqHAoUoVAoYAh
SECTION MARKiIGN ANUSVARAmNUKTAmSHADDAnUKUNmVIRAMAhVOWEL SIGN AAtItUsEsItIsOsUhWORD SEPARATORcUDAW
ADI DIGIT EIGHTqFIVErOURqNINEqONEqSEVENrIXqTHREErWOqZEROkLETTER AsAsIsUrBAsBAsHArCAsHArDAsDAtDAtHA
sHArErGAsGAsHArHArIsIrJAsHAsJArKAsHArLArMArNAsGAsNAsYArOrPAsHArRAsRArSAsHArTAsHAsTAtHArUsUrVArYAkS
IGN ANUSVARApNUKTApVIRAMAkVOWEL SIGN AAwIwUvEvIwIvOvUwUbIMONOcP SIGNcSSe MARKeING CAT FACE WITH CL
OSED EYESiFACEm WITH CLOSED EYESsSMILING EYEScTEcWIFRUITbNEELING PERSONcOTbOALAcREAN STANDARD SYMB
OLbRONOSaL B BAR SYMBOLbAB COATdELcCROSSE STICK AND BALLcDDERdY BEETLEcNGUAGE TAGcO CANCELLATION M
ARKeDIGIT EIGHTkFIVElOURkNINEkONEkSEVENlIXkTHREElWOkZEROeELLIPSISeHO MOhNOeKO LAeLETTER BOlCOlDOlF
O FAYpONoSUNGoTAMlHO SUNGoTAMlKHMU GOqNYOnO SUNGpTAMmOlLOn LINGpOOTlMOlNGOmOmYOlOlPALI BHAqCHAqDDA
sHArHAqGHAqJHAqLLAqNNArYAqTTAsHAmHO SUNGpTAMmOlROlSANSKRIT SHAvSAmO SUNGoTAMlTHO SUNGpTAMmOlWOlYOe
NIGGAHITAeSEMIVOWEL SIGN LOtNYOfIGN PALI VIRAMAeTONE MAI CATAWAnEKnTHOoIeVOWEL SIGN AqAqIqMqYpEqIp
IqIpMAI KANuONpOpUqUpYqYcRGE BLUE CIRCLElDIAMONDlSQUAREhROWN CIRCLEmSQUAREgCIRCLEgDOWN TACKgGREE
N CIRCLEmSQUAREgLEFT TRIANGLE OPERATORgONE DOT OVER TWO DOTS PUNCTUATIONkRING OVER TWO RINGS PUNCT
UATIONhRANGE CIRCLEnDIAMONDnSQUAREgPURPLE CIRCLEnSQUAREgRED CIRCLEkSQUAREgTRIPLE VERTICAL BAR OPER
ATORhWO DOTS OVER ONE DOT PUNCTUATIONkRINGS OVER ONE RING PUNCTUATIONgUP TACKgYELLOW CIRCLEnSQUARE
fR THANl OR EQUAL TOdI SIGNcST QUARTER MOONr SYMBOLsWITH FACEcTIN CAPITAL LETTER Aw WITH ACUTEzdBR
EVEzi AND ACUTEznDOT BELOWznGRAVEznHOOK ABOVEznTILDEzdCARONzeIRCUMFLEXzn AND ACUTEzsDOT BELOWzsGRA
VEzsHOOK ABOVEzsTILDEzdDIAERESISzm AND MACRONzeOT ABOVEzm AND MACRONzhBELOWzfUBLE GRAVEzdGRAVEzdHO
OK ABOVEzdINVERTED BREVEzdMACRONzdOGONEKzdRING ABOVEzn AND ACUTEziBELOWzdSTROKEzdTILDEwAwEx WITH A
CUTEzeMACRONwFRICAN DwLPHAwNGLICANA WwOwUwVx WITH HORIZONTAL BARwYvBw WITH DOT ABOVEzhBELOWzdFLOUR
ISHzdHOOKzdLINE BELOWzdSTROKEzdTOPBARwETAwROKEN LvCw WITH ACUTEzdBARzdCARONzeEDILLAzk AND ACUTEzeI
RCUMFLEXzdDOT ABOVEzdHOOKzdPALATAL HOOKzdSTROKEwHIwLOSED INSULAR GwONwUATRILLOzf WITH COMMAvDw WIT
H CARONzeEDILLAzeIRCUMFLEX BELOWzdDOT ABOVEzhBELOWzdHOOKzdLINE BELOWzdSHORT STROKE OVERLAYzeMALL L
ETTER Zzr WITH CARONzeTROKEzdTOPBARwZx WITH CARONvEw WITH ACUTEzdBREVEzdCARONzeEDILLAzk AND BREVEz
eIRCUMFLEXzn AND ACUTEzsDOT BELOWzsGRAVEzsHOOK ABOVEzsTILDEzoBELOWzdDIAERESISzeOT ABOVEzhBELOWzfUB
LE GRAVEzdGRAVEzdHOOK ABOVEzdINVERTED BREVEzdMACRONzj AND ACUTEzoGRAVEzdOGONEKzdSTROKEzdTILDEzi BE
LOWwGYPTOLOGICAL AINzlLEFwNGwSHwTxHwZHy REVERSEDzaWITH CARONvFw WITH DOT ABOVEzdHOOKzdSTROKEvGw WI
TH ACUTEzdBREVEzdCARONzeEDILLAzeIRCUMFLEXzdDOT ABOVEzdHOOKzdMACRONzdOBLIQUE STROKEzdSTROKEwAMMAwHA
wLOTTAL AzeIzeSTOPzeUvHw WITH BREVE BELOWzdCARONzeEDILLAzeIRCUMFLEXzdDESCENDERzeIAERESISzeOT ABOVE
zhBELOWzdHOOKzdSTROKEwALF HwENGwWAIRvIw WITH ACUTEzdBREVEzdCARONzeIRCUMFLEXzdDIAERESISzm AND ACUTE
zeOT ABOVEzhBELOWzfUBLE GRAVEzdGRAVEzdHOOK ABOVEzdINVERTED BREVEzdMACRONzdOGONEKzdSTROKEzdTILDEz
i BELOWwNSULAR DzeFzeGzeRzeSzeTwOTAwSvJw WITH CIRCUMFLEXzeROSSED-TAILzdSTROKEvKw WITH ACUTEzdCARON
zeEDILLAzdDESCENDERzeIAGONAL STROKEzeOT BELOWzdHOOKzdLINE BELOWzdOBLIQUE STROKEzdSTROKEzj AND DIAG
ONAL STROKEvLw WITH ACUTEzdBARzeELTzdCARONzeEDILLAzeIRCUMFLEX BELOWzdDOT BELOWzm AND MACRONzfUBL
E BARzdHIGH STROKEzdLINE BELOWzdMIDDLE DOTzkTILDEzdSMALL LETTER JzeTROKEwJvMw WITH ACUTEzdDOT ABOV
EzhBELOWzdHOOKwIDDLE SCOTS Szc-WELSH LLzjVvNw WITH ACUTEzdCARONzeEDILLAzeIRCUMFLEX BELOWzdDESCENDE
RzeOT ABOVEzhBELOWzdGRAVEzdLEFT HOOKzeINE BELOWzeONG RIGHT LEGzdOBLIQUE STROKEzdSMALL LETTER JzdTI
LDEwJvOw WITH ACUTEzdBREVEzdCARONzeIRCUMFLEXzn AND ACUTEzsDOT BELOWzsGRAVEzsHOOK ABOVEzsTILDEzdDIA
ERESISzm AND MACRONzeOT ABOVEzm AND MACRONzhBELOWzfUBLE ACUTEzkGRAVEzdGRAVEzdHOOK ABOVEzfRNzh AN
D ACUTEzmDOT BELOWzmGRAVEzmHOOK ABOVEzmTILDEzdINVERTED BREVEzdLONG STROKE OVERLAYzfOPzdMACRONzj AN
D ACUTEzoGRAVEzeIDDLE TILDEzdOGONEKzj AND MACRONzdSTROKEzj AND ACUTEzdTILDEzi AND ACUTEznDIAERESIS
znMACRONwIwLD POLISH OwMEGAwOwPEN EzbOwUvPw WITH ACUTEzdDOT ABOVEzdFLOURISHzdHOOKzdSQUIRREL TAILze
TROKEzj THROUGH DESCENDERvQw WITH DIAGONAL STROKEzdSTROKE THROUGH DESCENDERvRw ROTUNDAxWITH ACUTEz
dCARONzeEDILLAzdDOT ABOVEzhBELOWzm AND MACRONzfUBLE GRAVEzdINVERTED BREVEzdLINE BELOWzdOBLIQUE STR
OKEzdSTROKEzdTAILwEVERSED C WITH DOTzfEzfHALF HzfOPEN EwUM ROTUNDAvSw WITH ACUTEzi AND DOT ABOVEzd
CARONzi AND DOT ABOVEzeEDILLAzeIRCUMFLEXzeOMMA BELOWzdDOT ABOVEzhBELOWzm AND DOT ABOVEzdHOOKzdOBLI
QUE STROKEzdSHORT STROKE OVERLAYzeWASH TAILwALTILLOwCHWAxRIPT GwHARP SwIGMOID SwMALL CAPITAL Izc
Q WITH HOOK TAILvTw WITH CARONzeEDILLAzeIRCUMFLEX BELOWzeOMMA BELOWzdDIAGONAL STROKEzeOT ABOVEzhBE
LOWzdHOOKzdLINE BELOWzdRETROFLEX HOOKzdSTROKEwHORNzb WITH STROKEzn THROUGH DESCENDERwONE FIVEzbSIX
zbTWOwRESILLOwURNED AzeLPHAzdHzdINSULAR GzdKzdLzdMzdTzdVwZvUw BARxWITH ACUTEzdBREVEzdCARONzeIRCUMF
LEXzn BELOWzdDIAERESISzm AND ACUTEzrCARONzrGRAVEzrMACRONznBELOWzeOT BELOWzfUBLE ACUTEzkGRAVEzdGRAV
EzdHOOK ABOVEzfRNzh AND ACUTEzmDOT BELOWzmGRAVEzmHOOK ABOVEzmTILDEzdINVERTED BREVEzdMACRONzj AND D
IAERESISzdOGONEKzdRING ABOVEzdSTROKEzdTILDEzi AND ACUTEzjBELOWwPSILONvVw WITH DIAGONAL STROKEzeO
T BELOWzdHOOKzdTILDEwENDwISIGOTHIC ZwOLAPUK AEzeOEzeUEwYvWw WITH ACUTEzdCIRCUMFLEXzdDIAERESISzeO
T ABOVEzhBELOWzdGRAVEzdHOOKwYNNvXw WITH DIAERESISzeOT ABOVEvYw WITH ACUTEzdCIRCUMFLEXzdDIAERESISze
OT ABOVEzhBELOWzdGRAVEzdHOOKzh ABOVEzdLOOPzdMACRONzdSTROKEzdTILDEwOGHvZw WITH ACUTEzdCARONzeIRCUMF
LEXzdDESCENDERzeOT ABOVEzhBELOWzdHOOKzdLINE BELOWzdPALATAL HOOKzdSTROKEzeWASH TAILpIGATURE IJxOEhR
OSSgEPIGRAPHIC LETTER ARCHAIC MyI LONGAzaNVERTED MyREVERSED FziPySIDEWAYS IgLETTER AINoLVEOLAR CLI
CKnBIDENTAL PERCUSSIVEpLABIAL CLICKwPERCUSSIVEnDENTAL CLICKnGLOTTAL STOPza WITH STROKEnINVERTED GL
OTTAL STOPzj WITH CURLzpSTROKEnLATERAL CLICKnPHARYNGEAL VOICED FRICATIVEnRETROFLEX CLICKzd WITH RE
TROFLEX HOOKpVERSED ESH LOOPwGLOTTAL STOP WITH STROKEnSINOLOGICAL DOToMALL CAPITAL AzdEzcBzdARRE
D BzcCzcDzcEzdTHzdZHzcFzcGzd WITH HOOKzcHzcIzdNVERTED RzcJzcKzcLzd WITH BELTzjSTROKEzcMzcNzcOzdEzd
PEN OzdUzcPzcQzcRzd WITH RIGHT LEGzdEVERSED NzlRzdUMzcSzcTzdURNED EzjGzjKzjMzjRzcUzcVzcWzcYzcZoTRE
TCHED Cy WITH CURLnTWO WITH STROKEnVOICED LARYNGEAL SPIRANTnWYNNnYRgSMALL CAPITAL LETTER I WITH ST
ROKEzcU WITH STROKEmLETTER Au REVERSED-SCHWAvWITH ACUTEzbBREVEzg AND ACUTEzlDOT BELOWzlGRAVEzlHOO
K ABOVEzlTILDEzbCARONzcIRCUMFLEXzl AND ACUTEzqDOT BELOWzqGRAVEzqHOOK ABOVEzqTILDEzbDIAERESISzk AN
D MACRONzcOT ABOVEzk AND MACRONzfBELOWzdUBLE GRAVEzbGRAVEzbHOOK ABOVEzbINVERTED BREVEzbMACRONzbOGO
NEKzbRETROFLEX HOOKzcIGHT HALF RINGzdNG ABOVEzl AND ACUTEzgBELOWzbSTROKEzbTILDEuAuEv WITH ACUTEzcM
ACRONuLPHAy WITH RETROFLEX HOOKuNGLICANA WuOuUuVv WITH HORIZONTAL BARuYtBu WITH DOT ABOVEzfBELOWzb
FLOURISHzbHOOKzbLINE BELOWzbMIDDLE TILDEzbPALATAL HOOKzbSTROKEzbTOPBARuARRED ALPHAzbEzbOvSELINE ES
HuETAuLACKLETTER EzgOzh WITH STROKEuOTTOM HALF OuROKEN LtCu WITH ACUTEzbBARzbCARONzcEDILLAzi AND A
CUTEzcIRCUMFLEXzcURLzbDOT ABOVEzbHOOKzbPALATAL HOOKzbRETROFLEX HOOKzbSTROKEuHIw WITH LOW LEFT SERI
FzhRIGHT RINGuLOSED INSULAR GzbOMEGAzcPEN EzbREVERSED OPEN EuONuUATRILLOzd WITH COMMAtDu WITH CARO
NzcEDILLAzcIRCUMFLEX BELOWzcURLzbDOT ABOVEzfBELOWzbHOOKzf AND TAILzbLINE BELOWzbMIDDLE TILDEzbPALA
TAL HOOKzbSHORT STROKE OVERLAYzcTROKEzbTAILzcOPBARuB DIGRAPHuELTAvZH DIGRAPHzg WITH PALATAL HOOKzm
RETROFLEX HOOKuOTLESS IzcJzd WITH STROKEzp AND HOOKvUBLE Rzc WITH CROSSED-TAILzbTHORNzbWYNNuUMuZ
v DIGRAPHze WITH CURLzkRETROFLEX HOOKwWITH CARONtEu WITH ACUTEzbBREVEzbCARONzcEDILLAzi AND BREVEzc
IRCUMFLEXzl AND ACUTEzqDOT BELOWzqGRAVEzqHOOK ABOVEzqTILDEzmBELOWzbDIAERESISzcOT ABOVEzfBELOWzdUBL
E GRAVEzbFLOURISHzbGRAVEzbHOOK ABOVEzbINVERTED BREVEzbMACRONzh AND ACUTEzmGRAVEzbNOTCHzbOGONEKzbRE
TROFLEX HOOKzbSTROKEzbTILDEzg BELOWuGYPTOLOGICAL AINzjLEFuNGw WITH CROSSED-TAILzdPALATAL HOOKuSH
w WITH CURLzdDOUBLE BARzn AND CURLzdPALATAL HOOKzdRETROFLEX HOOKuTvHuZHw REVERSEDxWITH CARONzeURLz
dPALATAL HOOKzdRETROFLEX HOOKzdTAILtFu WITH DOT ABOVEzbHOOKzbMIDDLE TILDEzbPALATAL HOOKzbSTROKEuEN
G DIGRAPHzg WITH TRILLtGu WITH ACUTEzbBREVEzbCARONzcEDILLAzcIRCUMFLEXzbDOT ABOVEzbHOOKzbMACRONzbOB
LIQUE STROKEzbPALATAL HOOKzbSTROKEuAMMAuHAuLOTTAL AzcIzcSTOPzcUtHu WITH BREVE BELOWzbCARONzcEDILLA
zcIRCUMFLEXzbDESCENDERzcIAERESISzcOT ABOVEzfBELOWzbHOOKzbLINE BELOWzbPALATAL HOOKzbSTROKEuALF HuEN
Gx WITH HOOKuVtIu WITH ACUTEzbBREVEzbCARONzcIRCUMFLEXzbDIAERESISzk AND ACUTEzcOT BELOWzdUBLE GRAVE
zbGRAVEzbHOOK ABOVEzbINVERTED BREVEzbMACRONzbOGONEKzbRETROFLEX HOOKzbSTROKEzh AND RETROFLEX HOOKzb
TILDEzg BELOWuNSULAR DzcFzcGzcRzcSzcTvVERTED ALPHAzdOEuOTAx WITH STROKEwIFIED EuStJu WITH CARONzcI
RCUMFLEXzcROSSED-TAILzbSTROKEtKu WITH ACUTEzbCARONzcEDILLAzbDESCENDERzcIAGONAL STROKEzcOT BELOWzbH
OOKzbLINE BELOWzbOBLIQUE STROKEzbPALATAL HOOKzbSTROKEzh AND DIAGONAL STROKEuRAtLu WITH ACUTEzbBARz
cELTzf AND PALATAL HOOKzbCARONzcEDILLAzcIRCUMFLEX BELOWzcURLzbDOT BELOWzk AND MACRONzdUBLE BARziMI
DDLE TILDEzbFISHHOOKzbHIGH STROKEzbINVERTED LAZY SzbLINE BELOWzbMIDDLE DOTziRINGziTILDEzbPALATAL H
OOKzbRETROFLEX HOOKzp AND BELTzbSTROKEuAMBDA WITH STROKEuENIS FvZHx WITH RETROFLEX HOOKuJuONG Sz
a WITH DIAGONAL STROKEzhOT ABOVEzgHIGH STROKEuS DIGRAPHuUMuZ DIGRAPHtMu WITH ACUTEzbCROSSED-TAILzb
DOT ABOVEzfBELOWzbHOOKzbMIDDLE TILDEzbPALATAL HOOKuIDDLE SCOTS Sza-WELSH LLzhVuUMtNu PRECEDED BY A
POSTROPHEvWITH ACUTEzbCARONzcEDILLAzcIRCUMFLEX BELOWzcROSSED-TAILzcURLzbDESCENDERzcOT ABOVEzfBELOW
zbGRAVEzbLEFT HOOKzcINE BELOWzcONG RIGHT LEGzbMIDDLE TILDEzbOBLIQUE STROKEzbPALATAL HOOKzbRETROFLE
X HOOKzbTILDEuJuUMtOu WITH ACUTEzbBREVEzbCARONzcIRCUMFLEXzl AND ACUTEzqDOT BELOWzqGRAVEzqHOOK ABOV
EzqTILDEzbDIAERESISzk AND MACRONzcOT ABOVEzk AND MACRONzfBELOWzdUBLE ACUTEziGRAVEzbGRAVEzbHOOK ABO
VEzdRNzf AND ACUTEzkDOT BELOWzkGRAVEzkHOOK ABOVEzkTILDEzbINVERTED BREVEzbLONG STROKE OVERLAYzdOPzd
W RING INSIDEzbMACRONzh AND ACUTEzmGRAVEzbOGONEKzh AND MACRONzbRETROFLEX HOOKzbSTROKEzh AND ACUTEz
bTILDEzg AND ACUTEzlDIAERESISzlMACRONuIuLD POLISH OuMEGAuOuPEN Eza WITH RETROFLEX HOOKyOza WITH RE
TROFLEX HOOKzgSTROKEzaEuUtPu WITH ACUTEzbDOT ABOVEzbFLOURISHzbHOOKzbMIDDLE TILDEzbPALATAL HOOKzbSQ
UIRREL TAILzcTROKEzh THROUGH DESCENDERuHItQu WITH DIAGONAL STROKEzbHOOKzf TAILzbSTROKE THROUGH DES
CENDERuP DIGRAPHtRu ROTUNDAvWITH ACUTEzbCARONzcEDILLAzcROSSED-TAILzbDOT ABOVEzfBELOWzk AND MACRONz
dUBLE GRAVEzbFISHHOOKzj AND MIDDLE TILDEzoPALATAL HOOKzbINVERTED BREVEzbLINE BELOWzcONG LEGzbMIDDL
E TILDEzbOBLIQUE STROKEzbPALATAL HOOKzbSTROKEzbTAILzaOUT HANDLEuAMS HORNuEVERSED Cze WITH DOTzdEze
NGzdHALF HzdKzdOPEN Ezj WITH HOOKzpRETROFLEX HOOKzdR WITH FISHHOOKzdSCRIPT GuUMw ROTUNDAtSu WITH A
CUTEzg AND DOT ABOVEzbCARONzg AND DOT ABOVEzcEDILLAzcIRCUMFLEXzcOMMA BELOWzcURLzbDOT ABOVEzfBELOWz
k AND DOT ABOVEzbHOOKzbMIDDLE TILDEzbOBLIQUE STROKEzbPALATAL HOOKzbSHORT STROKE OVERLAYzcWASH TAIL
uAKHA YATvLTILLOuCHWAy WITH HOOKzfRETROFLEX HOOKvRIPT Gzc WITH CROSSED-TAILzbRzc WITH RINGuHARP Su
IDEWAYS DIAERESIZED UzdOze WITH STROKEzePEN OzdTURNED MzdUvGMOID SuQUAT REVERSED ESHuTIRRUP RtTu W
ITH CARONzcEDILLAzcIRCUMFLEX BELOWzcOMMA BELOWzcURLzbDIAERESISzeGONAL STROKEzcOT ABOVEzfBELOWzbHOO
Kzf AND RETROFLEX HOOKzbLINE BELOWzbMIDDLE TILDEzbPALATAL HOOKzbRETROFLEX HOOKzbSTROKEuAILLESS PHI
uC DIGRAPH WITH CURLuESH DIGRAPHzg WITH PALATAL HOOKzmRETROFLEX HOOKuH WITH STRIKETHROUGHvORNy WIT
H STROKEzl THROUGH DESCENDERuONE FIVEySIXyTWOvP HALF OuRESILLOuS DIGRAPHze WITH RETROFLEX HOOKuUMv
RNED AzcEzcLPHAzbDELTAzbEzbGzbHzc WITH FISHHOOKzq AND TAILzbIzcNSULAR GzbKzbLzbMzc WITH LONG LEGzb
O OPEN-Ozj WITH STROKEzcEzd WITH HORIZONTAL STROKEzjSTROKEzcPEN EzbRzc WITH HOOKziLONG LEGzq AND R
ETROFLEX HOOKziMIDDLE TILDEziPALATAL HOOKziTAILzbTzc WITH CURLzbUIzbVzbWzbYzc WITH BELTuZtUu BAR
y WITH SHORT RIGHT LEGvWITH ACUTEzbBREVEzbCARONzcIRCUMFLEXzl BELOWzbDIAERESISzk AND ACUTEzpCARONzp
GRAVEzpMACRONzlBELOWzcOT BELOWzdUBLE ACUTEziGRAVEzbGRAVEzbHOOK ABOVEzdRNzf AND ACUTEzkDOT BELOWzkG
RAVEzkHOOK ABOVEzkTILDEzbINVERTED BREVEzbLEFT HOOKzbMACRONzh AND DIAERESISzbOGONEKzbRETROFLEX HOOK
zcING ABOVEzbSHORT RIGHT LEGzcTROKEzbTILDEzg AND ACUTEzhBELOWuEuIuMuOuPSILONzb WITH STROKEtVu WIT
H CURLzbDIAGONAL STROKEzcOT BELOWzbHOOKzbPALATAL HOOKzbRIGHT HOOKzbTILDEuENDuISIGOTHIC ZuOLAPUK AE
zcOEzcUEuYtWu WITH ACUTEzbCIRCUMFLEXzbDIAERESISzcOT ABOVEzfBELOWzbGRAVEzbHOOKzbRING ABOVEtXu WIT
H DIAERESISzcOT ABOVEzbLONG LEFT LEGzo AND LOW RIGHT RINGzpWITH SERIFzdW RIGHT RINGzbPALATAL HOOKt
Yu WITH ACUTEzbCIRCUMFLEXzbDIAERESISzcOT ABOVEzfBELOWzbGRAVEzbHOOKzf ABOVEzbLOOPzbMACRONzbRING ABO
VEzbSHORT RIGHT LEGzcTROKEzbTILDEuOGHtZu WITH ACUTEzbCARONzcIRCUMFLEXzcURLzbDESCENDERzcOT ABOVEzfB
ELOWzbHOOKzbLINE BELOWzbMIDDLE TILDEzbPALATAL HOOKzbRETROFLEX HOOKzbSTROKEzcWASH TAILnIGATURE FFxI
xLwIwLvIJvLONG S TvOEvSThUBSCRIPT SMALL LETTER AzeEzeHzeIzeJzeKzeLzeMzeNzeOzePzeRzeSzfCHWAzeTzeUze
VzeXbEAF FLUTTERING IN WINDeY GREENcDGERcFT AND LOWER AND RIGHT TRIANGULAR THREE QUARTERS BLOCKpON
E EIGHTH BLOCKjRIGHT DOUBLE TURNSTILEpTACKqRIANGULAR HALF BLOCKjUPPER AND RIGHT TRIANGULAR THREE Q
UARTERS BLOCKpONE EIGHTH BLOCKhGER BUBBLEiLE BRACKETs WITH DOTgRC LESS-THAN BRACKEThROW WITH CIRCL
ED PLUSqSMALL CIRCLEfBARB DOWN RIGHT BARB DOWN HARPOONzbUP HARPOONkUP RIGHT BARB DOWN HARPOONyUP H
ARPOONgLACK LENTICULAR BRACKETlTORTOISE SHELL BRACKETfCEILINGgLOSED ENTRYgORNER BRACKETgURLY BRACK
ETs LOWER HOOKtMIDDLE PIECEtUPPER HOOKfDOTTED SUBSTITUTION BRACKEThUBLE ANGLE BRACKETmPARENTHESISm
QUOTATION MARKmWIGGLY FENCEfFISH TAILhVE EIGHTHS BLOCKgLOORfHALF BLACK CIRCLEqSTARmOCKkCIRCLEq WIT
H DOTwFOUR DOTSwTHREE DOTSxWO DOTSkFOLDERkINVERSE MEDIUM SHADE AND RIGHT HALF BLOCKkMEDIUM SHADEkR
UNNING MANhND TELEPHONE RECEIVERfLOW PARAPHRASE BRACKETgUGGAGEfMULTIMAPfNORMAL FACTOR SEMIDIRECT P
RODUCTfONE EIGHTH BLOCKjQUARTER BLOCKgUTER JOINfPARENTHESISq EXTENSIONrLOWER HOOKrUPPER HOOKfRAISE
D OMISSION BRACKETgIGHT ARROWq THROUGH SMALL CIRCLErWITH DOUBLE VERTICAL STROKEwSTROKEwVERTICAL ST
ROKElBLACK ARROWlDOUBLE ARROWx WITH STROKEzeVERTICAL STROKElOPEN-HEADED ARROWlSANS-SERIF ARROWlTRI
ANGLE-HEADED ARROWlWAVE ARROWmHITE ARROWfS-SHAPED BAG DELIMITERgEMIDIRECT PRODUCThVEN EIGHTHS BLOC
KgIDEWAYS U BRACKEThNGLE QUOTATION MARKgPEECH BUBBLEgQUARE BRACKETt EXTENSIONuLOWER CORNERuUPPER C
ORNERuWITH DOUBLE STROKEzaQUILLzaSTROKEzaTICK IN BOTTOM CORNERziTOP CORNERzaUNDERBARgUBSTITUTION B
RACKETfTACKgHIRD WHITE RIGHT POINTING INDEXhOUGHT BUBBLEhREE EIGHTHS BLOCKlQUARTERS BLOCKgORTOIS
E SHELL BRACKETgRANSPOSITION BRACKEThIANGLE BESIDE VERTICAL BARlULAR ONE QUARTER BLOCKfVERTICAL BA
R WITH QUILLpOX LINEfWHITE CORNER BRACKETmURLY BRACKETlLENTICULAR BRACKETlPARENTHESISlSQUARE BRACK
ETlTORTOISE SHELL BRACKETgIGGLY FENCEgRITING HANDe-FACING ARMENIAN ETERNITY SIGNmFISTmSVASTI SIGN
x WITH DOTSfHANDED INTERLACED PENTAGRAMfPOINTING ANGLE BRACKEToCURVED ANGLE BRACKEToDOUBLE ANGLE Q
UOTATION MARKoMAGNIFYING GLASSfSHADED WHITE RIGHTWARDS ARROWgIDE ARC ANTICLOCKWISE ARROWfTO-RIGH
T EMBEDDINGoISOLATEoMARKoOVERRIDEeWARDS ARROWp ABOVE ALMOST EQUAL TOwREVERSE ALMOST EQUAL TOzfTILD
E OPERATORwSHORT RIGHTWARDS ARROWwTILDE OPERATORrND UPPER AND LOWER ONE EIGHTH BLOCKqFROM BARy T
O BLACK DIAMONDqOVER RIGHTWARDS ARROWqTHROUGH LESS-THANySUBSETyXrO BARw OVER RIGHTWARDS ARROW TO B
ARuLACK DIAMONDqWITH DOTTED STEMxUBLE VERTICAL STROKEvEQUILATERAL ARROWHEADvHOOKvLARGE TRIANGLE AR
ROWHEADwOOPvMEDIUM TRIANGLE ARROWHEADvNOTCHED TAILvPLUS BELOWvSMALL EQUILATERAL ARROWHEADzcTRIANGL
E ARROWHEADwTROKEvTAILza WITH DOUBLE VERTICAL STROKEzgVERTICAL STROKEwIP DOWNWARDSzaUPWARDSvVERTIC
AL STROKEp-TAILkBACK-TILTED SHADOWED WHITE ARROWlLACK ARROWqCIRCLED WHITE ARROWlOTTOM-SHADED WHIT
E ARROWkCOMPRESSED ARROWkDASHED ARROWlOUBLE ARROWw FROM BARxWITH STROKEzdVERTICAL STROKEw-TAILrDAS
H ARROWkFINGER-POST ARROWlRONT-TILTED SHADOWED WHITE ARROWkHANDmRPOON OVER RIGHTWARDS HARPOONsWIT
H BARB DOWN ABOVE RIGHTWARDS HARPOON WITH BARB DOWNziBELOW LONG DASHziFROM BARziTO BARzhWARDSzdU
P ABOVE LEFTWARDS HARPOON WITH BARB DOWNznONG DASHzmRIGHTWARDS HARPOON WITH BARB UPzgFROM BARzgT
O BARzfWARDSlEAVY ARROWqCOMPRESSED ARROWkLEFT-SHADED WHITE ARROWkOPEN-HEADED ARROWkPAIRED ARROWSkQ
UADRUPLE ARROWkRIGHT-SHADED WHITE ARROWlOCKETkSANS-SERIF ARROWlQUARED ARROWnIGGLE ARROWkTOP SHADE
D WHITE ARROWlRIANGLE ARROWHEADs-HEADED ARROWzg OVER RIGHTWARDS TRIANGLE-HEADED ARROWzhTO BARzhWIT
H BOLD SHAFTzmDOUBLE HORIZONTAL STROKEztVERTICAL STROKEzmHEAVY SHAFTzmLONG TIP DOWNWARDSzvUPWARDSz
mMEDIUM SHAFTzmNARROW SHAFTzmVERY HEAVY SHAFTzbDASHED ARROWzbPAIRED ARROWSnPLE ARROWrDASH ARROWlW
O HEADED ARROWn-HEADED ARROW FROM BARzcWITH DOUBLE VERTICAL STROKEzhTAILzl WITH DOUBLE VERTICAL ST
ROKEzrVERTICAL STROKEziRIANGLE ARROWHEADSzhVERTICAL STROKEvTRIPLE DASH ARROWkWAVE ARROWlHITE ARROW
v WITHIN TRIANGLE ARROWHEADcGcMONcOdPARDcPCHA CONSONANT SIGN KxANGwLwMwNxYIN-DOwPwRwThDIGIT EIGHTn
FIVEoOURnNINEnONEnSEVENoIXnTHREEoWOnZEROhLETTER AoBApLAoCApHAoDApDApZAoFApLAoGApLAoHApLAoJAoKApHAp
LAoLAoMApLAoNApGApYAoPApHApLAoRAoSApHAoTApHApSAqHApTAqHAoVAoWAoYAhPUNCTUATION CER-WAtNYET THYOOM T
A-ROLtTA-ROLuSHOOKza CER-WAhSIGN NUKTAmRANiUBJOINED LETTER RAyYAhVOWEL SIGN AAsEsIsOtOsUtUcSS-THA
N ABOVE DOUBLE-LINE EQUAL ABOVE GREATER-THANqGREATER-THAN ABOVE DOUBLE-LINE EQUALqLEFTWARDS ARROWq
SIMILAR ABOVE GREATER-THANyOR EQUALrLANTED EQUAL ABOVE GREATER-THAN ABOVE SLANTED EQUALlND NOT APP
ROXIMATEoSINGLE-LINE NOT EQUAL TOkBUT NOT EQUAL TOvIVALENT TOkCLOSED BY CURVEza ABOVE SLANTED EQUA
LkEQUAL TO OR GREATER-THANkOR APPROXIMATEnEQUAL TOqIVALENT TOnGREATER-THANnSLANTED EQUAL TOze WIT
H DOT ABOVEzt RIGHTzoINSIDElVER EQUAL TOkSIGNkWITH CIRCLE INSIDEpDOTpQUESTION MARK ABOVEcVEL SLIDE
RbFbIBRAcGATURE OPEN ET ORNAMENTdHT CHECK MARKgEIGHT SPOKED ASTERISKgFIVE POINTED BLACK STARlSPOKE
D ASTERISKhOUR POINTED BLACK CUSPzaSTARgGREEK CROSSgLEFT TORTOISE SHELL BRACKET ORNAMENTgRAILhIGH
T TORTOISE SHELL BRACKET ORNAMENTgSALTIREhHADEhIX SPOKED ASTERISKgTHREE POINTED BLACK STARhWELVE P
OINTED BLACK STARgVERTICAL BARgWHITE SQUAREfNINGj MOODo BUBBLEcMBU DIGIT EIGHTmFIVEnOURmNINEmONEmS
EVENnIXmTHREEnWOmZEROgEXCLAMATION MARKgLETTER BAoHAnCAoHAnDAoHAnGAoHAoYANnHAnJAoHAnKAoHAnLAnMAnNAo
GAnPAoHAnRAnSAoHAoSAnTAoHAoRAnWAnYApNgQUESTION MARKgSIGN KEMPHRENGlLOOlMUKPHRENGlSA-IhMALL LETTE
R ANUSVARAtKAtLAtMAtNAuGAtPAtRAtTAhUBJOINED LETTER RAxWAxYAgVOWEL SIGN AsIsUrEsErIrOsOrUl-CARRIE
R LETTERdITED LIABILITY SIGNcNE FEEDfINTEGRATION NOT INCLUDING THE POLErWITH RECTANGULAR PATH AROU
ND POLEwSEMICIRCULAR PATH AROUND POLEfSEPARATORfTABULATIONp SETeAR A SIGN A028Bp100-102q20Bq31Cp30
1r2r3r4r5r6r7r8r9AsBsCq10r1r2r3AsBsCr4r5r6r7r8r9q20r1r2r3r4r5r6r7r8r9q30r1r2r3r4r5r6r7r8r9q40r1r2r
3r4r5r6r7r8r9q50r1r2r3r4r5r6r7r8r9q60r1r2r3r4r5r6r7r8r9q70r1p400-VASr1-VASr2-VASr3-VASr4-VASr5-VAS
r6-VASr7-VASr8-VASr9-VASq10-VASr1-VASr2-VASr3-VASr4-VASr5-VASr6-VASr7-VASr8-VASp501r2r3r4r5r6r8r9q
10r1r2r3r5r6q20r1r3r4r5r6r7r8r9q30r1r2r4r5r6r7r8r9q40r1r2r5r7r8r9q50r1r2r3r4r5r6r7r9q63r4r5r6r8r9q
70r1r2r3r4r5r6r7r8r9q80r1r2r3r4r5r6r7r8r9q91r2r4r5r6r8p600r1r2r3r4r6r8r9q10r1r2r3r4r5r6r7r8r9q20r1
r2r3r4r6r7r8r9q34r7r8q40r2r3r4r5r6r8r9q51r2r3r4r5r6r7r8r9q60r1r2r3r4p701 Ar2 Br3 Dr4 Er5 Fr6 Hr7 J
r8 Kr9 Ls-2 L2t3 L3t4 L4t6 L6q10 Wr1 Xr2 Yr3 OMEGAr4 ABBr5 BBr7 DDq26 EYYYq32 JEp800r1r2r3r4r5r6r7
pB001s2s3s4s5s6s7s8s9r10s1s3s6s7r20s1tFtMs2tFtMs3tMs4s6s7s8s9r30s1s4s7s8s9r40s1s4s5s6s7s8s9r50s1s3
s4s5s6s7s8s9r60s1s5s6s7s9r70s3s4s6s7s8s9r80s1s2s5s6s7q118r20s2s3r31AtBr64r71r80s8r91hB IDEOGRAM B1
00 MANv2 WOMANv4 DEERv5 EQUIDwF MAREwM STALLIONv6F EWEwM RAMv7F SHE-GOATwM HE-GOATv8F SOWwM BOARv9
F COWwM BULLu20 WHEATv1 BARLEYv2 OLIVEv3 SPICEv5 CYPERUSu30 OILv1 WINEv2u40 BRONZEv1 GOLDv2v5 WOOL
v6u50v1 HORNv2v3v4v7v8v9 CLOTHu60v1v2 GARMENTv3 ARMOURv4v5v6v7v8v9u70v1v2v3 MONTHv4v6 TREEv7v8v9u8
0v1v2v3v4v5v9u90v1 HELMETt220 FOOTSTOOLv5 BATHTUBu30 SPEARv1 ARROWv2v3 SWORDv4v6u40 WHEELED CHARIO
Tv1 CHARIOTv2 CHARIOT FRAMEv3 WHEELv5v6v8v9u51v2v3v4 DARTv5v6v7v8v9sVESSEL B155zb200zd1zd2zd3zd4zd
5zd6zd7zd8zd9zc10zd1zd2zd3zd4zd5zd6zd7zd8zd9zc21zd2zd6zd7zd8zd9zc50zb305jMONOGRAM B127 KAPOv8 KANA
KOu33 AREPAv5 MERIu56 TURO2t247 DIPTEjSYLLABLE B001 DAv2 ROv3 PAv4 TEv5 TOv6 NAv7 DIv8 Av9 SEu10 U
v1 POv2 SOv3 MEv4 DOv5 MOv6 QAv7 ZAu20 ZOv1 QIv3 MUv4 NEv5 A2v6 RUv7 REv8 Iv9 PU2u30 NIv1 SAv2 QOv
3 RA3v6 JOv7 TIv8 Ev9 PIu40 WIv1 SIv2 WOv3 A3v4 KEv5 DEv6 JEv8 NWAu50 PUv1 DUv2 NOv3 RIv4 WAv5 NUv
7 JAv8 SUv9 TAu60 RAv1 Ov2 PTEv5 JUv6 TA2v7 KIv8 RO2v9 TUu70 KOv1 DWEv2 PEv3 MIv4 ZEv5 WEv6 RA2v
7 KAv8 QEu80 MAv1 KUv5 AUv7 TWEu90 DWOv1 TWOlMBOL B018t9s22s34s47t9s56s63t4s79s82t3t6t9dK SYMBOLeE
D PAPERCLIPScON FACEcPSeTICKcRA SIGNcSU LETTER AnEmBAmCAnHAmDAnZAmEnUmFAmGAnHAmHAnHAmImJAmKAnHAmLA
mMAmNAnGAmOnEmPAnHAmSAnHAmTAnHAnONE MYA BOvCYAvJEUvNAvTIrNA POnSAoHAmUnEnHmWAmXAmYAnHAmZAnHAfPUNCT
UATION COMMArFULL STOPcVRE TOURNOIS SIGNcZARDbLAMAbOBSTERcCKe WITH INK PENeING-SHIFT ONEoZEROcGICA
L ANDl WITH DOT ABOVEtUBLE OVERBARyUNDERBARrHORIZONTAL DASHrMIDDLE STEMrUNDERBARiORk OVERLAPPING L
OGICAL ANDlWITH DOT ABOVEsUBLE OVERBARxUNDERBARqHORIZONTAL DASHqMIDDLE STEMcLLIPOPcNG DASH FROM LE
FT MEMBER OF DOUBLE VERTICALgIVISIONgRUMfLEFT RIGHT ARROWqDOUBLE ARROWkTACKjWARDS ARROWu FROM BARp
DOUBLE ARROWzc FROM BARpSQUIGGLE ARROWfRIGHT TACKkWARDS ARROWv FROM BARqDOUBLE ARROWzd FROM BARqSQ
UIGGLE ARROWcTION BOTTLEdUScUDLY CRYING FACEcVE HOTELfLETTERcW ASTERISKeBATTERYfRIGHTNESS SYMBOLeD
OUBLE PRIME QUOTATION MARKeKAVYKAk WITH DOTeLINEdER BLADE SCISSORSgFIVE EIGHTHS BLOCKgHALF BLOCKlC
IRCLElINVERSE WHITE CIRCLElMEDIUM SHADEgLEFT BALLPOINT PENmLOCK DIAGONAL LOWER MIDDLE LEFT TO LOWE
R CENTREzzdRIGHTzbUPPER CENTRE TO LOWER MIDDLE RIGHTzxRIGHTzrUPPER MIDDLE RIGHTzhLEFT TO LOWER CEN
TREzvMIDDLE RIGHTzpUPPER MIDDLE RIGHTzhMIDDLE LEFT TO LOWER CENTREzzdMIDDLE RIGHTzzdRIGHTlCRAYONlF
OUNTAIN PENlPAINTBRUSHmENCILlQUADRANT CIRCULAR ARClSEMICIRCULAR ANTICLOCKWISE ARROWlTRIANGLErULA
R MEDIUM SHADEgONE EIGHTH BLOCKkQUARTER BLOCKgRIGHT BLOCK DIAGONAL LOWER CENTRE TO LOWER MIDDLE RI
GHTzsUPPER MIDDLE RIGHTzyRIGHTziLEFT TO LOWER MIDDLE RIGHTzqUPPER CENTREzwMIDDLE RIGHTziMIDDLE LEF
T TO UPPER CENTREzzeMIDDLE RIGHTzzeRIGHTzcUPPER MIDDLE LEFT TO UPPER CENTREzzeRIGHTmCORNER WITH DO
TmDROP-SHADOWED WHITE SQUAREmPENCILmQUADRANT CIRCULAR ARCmSEMICIRCULAR CLOCKWISE ARROWnHADOWED WHI
TE CIRCLEzcSQUAREmTRIANGLEsULAR MEDIUM SHADEgSEVEN EIGHTHS BLOCKgTHREE EIGHTHS BLOCKmQUARTERS BLOC
KhRIANGULAR ONE QUARTER BLOCKcZENGEh DIVIDED BY HORIZONTAL RULEbREcIcMcObUGGAGEcNGSbYCIAN LETTER A
pNoBpHoDoEpNoGoHoIoJoKpKoLoMpMoNpNoPoQoRoSoTpHpToUoWoXoZcDIAN LETTER ApNoBoCoDoEpNoFoGoIoKoLpYoMoN
pNoOoQoRoSpSoTpToUoVoYhTRIANGULAR MARKcING FACEaMACRONcGEdIC WANDdNETcHAJANI ABBREVIATION SIGNjLET
TER AqBArHAqCArHAqDArDAsHArHAqEqGArHAqHAqIqJArHAqKArHAqLAqMAqNArNArYAqOqPArHAqRArRAqSAqTArHArTAsHA
qUqVAkIGATURE SHRIjSECTION MARKkIGN NUKTAdJONG TILE AUTUMNnBACKpMBOOnCHRYSANTHEMUMnEAST WINDoIGH
T OF BAMBOOSwCHARACTERSxIRCLESnFIVE OF BAMBOOSvCHARACTERSwIRCLESoOUR OF BAMBOOSvCHARACTERSwIRCLESn
GREEN DRAGONnJOKERnNINE OF BAMBOOSvCHARACTERSwIRCLESoORTH WINDnONE OF BAMBOOSuCHARACTERSvIRCLESoRC
HIDnPLUMnRED DRAGONnSEVEN OF BAMBOOSwCHARACTERSxIRCLESoIX OF BAMBOOSuCHARACTERSvIRCLESoOUTH WINDoP
RINGoUMMERnTHREE OF BAMBOOSwCHARACTERSxIRCLESoWO OF BAMBOOSuCHARACTERSvIRCLESnWEST WINDoHITE DRAGO
NoINTERcKASAR ANGKAiEND OF SECTIONiLETTER ApBApCApDApGApJApKApLApMApNAqGAqYApPApRApSApTApVApYAiPAS
SIMBANGiVOWEL SIGN EtItOtUcLAYALAM AU LENGTH MARKkDATE MARKlIGIT EIGHTqFIVErOURqNINEqONEqSEVENrIXq
THREErWOqZEROkFRACTION ONE EIGHTHxFIFTHyORTIETHxHALFxONE-HUNDRED-AND-SIXTIETHxQUARTERxSIXTEENTHxTE
NTHyWENTIETHtTHREE EIGHTIETHSzaQUARTERSzaSIXTEENTHSzaTWENTIETHSkLETTER AsAsIsRCHAIC IIsUrBAsHArCAs
HAtILLU KyLzaLzbLyMyNzaNyRRyYrDAsDAtHAsHAsOT REPHrEsErGAsHArHArIsIrJAsHArKAsHArLAsLAtLArMArNAsGAsN
AtNAsYArOsOrPAsHArRAsRArSAsHAsSArTAsHAsTAtHAtTArUsUrVAsEDIC ANUSVARAsOCALIC LzbLzaRzbRrYAkNUMBER O
NE HUNDREDvTHOUSANDrTENkSIGN ANUSVARAqVAGRAHApCANDRABINDUqIRCULAR VIRAMAqOMBINING ANUSVARA ABOVEpP
ARApVERTICAL BAR VIRAMAqIRAMArSARGAkVOWEL SIGN AAwIwUvEwEvIwIvOwOvUwUvVOCALIC LzfLzeRzfRdE AND FEM
ALE SIGNfSIGNfWITH STROKE AND MALE AND FEMALE SIGNrSIGNdTESE CROSScMMOTHcNd AND WOMAN HOLDING HAND
SeDANCINGeIN BUSINESS SUIT LEVITATINGhTUXEDOeWITH GUA PI MAOjTURBANdAT SIGNdDAIC AFFRICATION MARKi
GEMINATION MARKiLETTER ABqDqGqHqINqKrSAqLqMqNqPqQqRqSrHrZqTrTqZpDUSHENNApHALQApINqTpKADpUSHENNAiPU
NCTUATIONiVOCALIZATION MARKdGOdICHAEAN ABBREVIATION MARK ABOVEzeBELOWlLETTER AAYINtLEPHtYINsBETHtH
ETHsDALETHtHAMEDHsFEsGHIMELtIMELsHEuTHsJAYINtHAYINsKAPHtHAPHsLAMEDHsMEMsNUNsPEsQHOPHtOPHsRESHsSADH
EuMEKHtHINtSHINsTAWtETHtHAMEDHsWAWsXAPHtOPHsYODHsZAYINtHAYINlNUMBER FIVEsONEv HUNDREDsTENtWENTYlPU
NCTUATION DOTzb WITHIN DOTzaUBLE DOT WITHIN DOTxFLEURONxLINE FILLERxSTARxTWO DOTSlSIGN UDdS SHOEdT
ELPIECE CLOCKdUAL WHEELCHAIRcP SYMBOL FOR LIGHTHOUSEdLE LEAFcRCHEN HEAD MARKiLETTER -ApApBApCAqHAp
DAqZApGApHApJApKAqHApLApMApNAqGAqYApPAqHApRApSAqHApTAqHAqSArHApWApYApZAqHAiMARK SHADiSIGN ANUSVARA
nCANDRABINDUjUBJOINED LETTER AzaBAzaCAzbHAzaDAzbZAzaGAzaHAzaJAzaKAzbHAzaLAzaMAzaNAzbGAzbYAzaPAzbHA
zaRAzaSAzbHAzaTAzbHAzbSAzcHAzaWAzaYAzaZAzbHAiVOWEL SIGN AAtEtItOtUdRIAGE SYMBOLdTIAL ARTS UNIFORMc
SARAM GONDI DIGIT EIGHTuFIVEvOURuNINEuONEuSEVENvIXuTHREEvWOuZEROoLETTER AwAwIwUvBAwHAvCAwHAvDAwDAx
HAwHAvEvGAwHAvHAvIwIvJAwHAwNYAvKAwHAwSSAvLAwLAvMAvNAwGAwNAwYAvOvPAwHAvRAvSAwHAwSAvTAwHAwRAwTAxHAvU
wUvVAvYAoRA-KARApEPHAoSIGN ANUSVARAtCANDRAtHALANTAtNUKTAtVISARGAoVIRAMApOWEL SIGN AAzbIzbUzaEzaIzb
IzaOzaUzbUzaVOCALIC RdCULINE ORDINAL INDICATORdK WORK SYMBOLdU MARKcTE DRINKdHEMATICAL BOLD CAPITA
L AzcLPHAzbBzcETAzbCzcHIzbDzcELTAzcIGAMMAzbEzcPSILONzcTAzbFzbGzcAMMAzbHzbIzcOTAzbJzbKzcAPPAzbLzcAM
DAzbMzcUzbNzcUzbOzcMEGAzdICRONzbPzcHIzcIzcSIzbQzbRzcHOzbSzcIGMAzbTzcAUzcHETAzg SYMBOLzbUzcPSILONzb
VzbWzbXzcIzbYzbZzcETAsDIGIT EIGHTyFIVEzaOURyNINEyONEySEVENzaIXyTHREEzaWOyZEROsEPSILON SYMBOLsFRAKT
UR CAPITAL AzjBzjCzjDzjEzjFzjGzjHzjIzjJzjKzjLzjMzjNzjOzjPzjQzjRzjSzjTzjUzjVzjWzjXzjYzjZzbSMALL Azh
BzhCzhDzhEzhFzhGzhHzhIzhJzhKzhLzhMzhNzhOzhPzhQzhRzhSzhTzhUzhVzhWzhXzhYzhZsITALIC CAPITAL AzjLPHAzi
BzjETAziCzjHIziDzjELTAziEzjPSILONzjTAziFziGzjAMMAziHziIzjOTAziJziKzjAPPAziLzjAMDAziMzjUziNzjUziOzj
MEGAzkICRONziPzjHIzjIzjSIziQziRzjHOziSzjIGMAziTzjAUzjHETAzn SYMBOLziUzjPSILONziVziWziXzjIziYziZzjE
TAzaEPSILON SYMBOLzaKAPPA SYMBOLzaNABLAzaPARTIAL DIFFERENTIALzbHI SYMBOLzbI SYMBOLzaRHO SYMBOLzaSM
ALL AzhLPHAzgBzhETAzgCzhHIzgDzhELTAzgEzhPSILONzhTAzgFzhINAL SIGMAzgGzhAMMAzgHzgIzhOTAzgJzgKzhAPPAz
gLzhAMDAzgMzhUzgNzhUzgOzhMEGAziICRONzgPzhHIzhIzhSIzgQzgRzhHOzgSzhIGMAzgTzhAUzhHETAzgUzhPSILONzgVzg
WzgXzhIzgYzgZzhETAzaTHETA SYMBOLsKAPPA SYMBOLsNABLAsPARTIAL DIFFERENTIALtHI SYMBOLtI SYMBOLsRHO SY
MBOLsSCRIPT CAPITAL AziBziCziDziEziFziGziHziIziJziKziLziMziNziOziPziQziRziSziTziUziVziWziXziYziZza
SMALL AzgBzgCzgDzgEzgFzgGzgHzgIzgJzgKzgLzgMzgNzgOzgPzgQzgRzgSzgTzgUzgVzgWzgXzgYzgZtMALL AzaLPHAyBz
aETAyCzaHIyDzaELTAzaIGAMMAyEzaPSILONzaTAyFzaINAL SIGMAyGzaAMMAyHyIzaOTAyJyKzaAPPAyLzaAMDAyMzaUyNza
UyOzaMEGAzbICRONyPzaHIzaIzaSIyQyRzaHOySzaIGMAyTzaAUzaHETAyUzaPSILONyVyWyXzaIyYyZzaETAsTHETA SYMBOL
nDOUBLE-STRUCK CAPITAL AzkBzkDzkEzkFzkGzkIzkJzkKzkLzkMzkOzkSzkTzkUzkVzkWzkXzkYzcDIGIT EIGHTziFIVEz
jOURziNINEziONEziSEVENzjIXziTHREEzjWOziZEROzcSMALL AziBziCziDziEziFziGziHziIziJziKziLziMziNziOziPz
iQziRziSziTziUziVziWziXziYziZnFALLING DIAGONALoRAKTUR CAPITAL AzeBzeDzeEzeFzeGzeJzeKzeLzeMzeNzeOze
PzeQzeSzeTzeUzeVzeWzeXzeYvSMALL AzcBzcCzcDzcEzcFzcGzcHzcIzcJzcKzcLzcMzcNzcOzcPzcQzcRzcSzcTzcUzcVzc
WzcXzcYzcZnITALIC CAPITAL AzeLPHAzdBzeETAzdCzeHIzdDzeELTAzdEzePSILONzeTAzdFzdGzeAMMAzdHzdIzeOTAzdJ
zdKzeAPPAzdLzeAMDAzdMzeUzdNzeUzdOzeMEGAzfICRONzdPzeHIzeIzeSIzdQzdRzeHOzdSzeIGMAzdTzeAUzeHETAzi SYM
BOLzdUzePSILONzdVzdWzdXzeIzdYzdZzeETAuEPSILON SYMBOLuKAPPA SYMBOLuNABLAuPARTIAL DIFFERENTIALvHI SY
MBOLvI SYMBOLuRHO SYMBOLuSMALL AzcLPHAzbBzcETAzbCzcHIzbDzcELTAzcOTLESS IzjJzbEzcPSILONzcTAzbFzcINA
L SIGMAzbGzcAMMAzbIzcOTAzbJzbKzcAPPAzbLzcAMDAzbMzcUzbNzcUzbOzcMEGAzdICRONzbPzcHIzcIzcSIzbQzbRzcHOz
bSzcIGMAzbTzcAUzcHETAzbUzcPSILONzbVzbWzbXzcIzbYzbZzcETAuTHETA SYMBOLnLEFT ANGLE BRACKETsDOUBLE ANG
LE BRACKETsFLATTENED PARENTHESISsWHITE SQUARE BRACKETyTORTOISE SHELL BRACKETnMONOSPACE CAPITAL Azg
BzgCzgDzgEzgFzgGzgHzgIzgJzgKzgLzgMzgNzgOzgPzgQzgRzgSzgTzgUzgVzgWzgXzgYzgZxDIGIT EIGHTzeFIVEzfOURze
NINEzeONEzeSEVENzfIXzeTHREEzfWOzeZEROxSMALL AzeBzeCzeDzeEzeFzeGzeHzeIzeJzeKzeLzeMzeNzeOzePzeQzeRze
SzeTzeUzeVzeWzeXzeYzeZnRIGHT ANGLE BRACKETtDOUBLE ANGLE BRACKETtFLATTENED PARENTHESIStWHITE SQUAR
E BRACKETzaTORTOISE SHELL BRACKETpSING DIAGONALnSANS-SERIF BOLD CAPITAL AznLPHAzmBznETAzmCznHIzmDz
nELTAzmEznPSILONznTAzmFzmGznAMMAzmHzmIznOTAzmJzmKznAPPAzmLznAMDAzmMznUzmNznUzmOznMEGAzoICRONzmPznH
IznIznSIzmQzmRznHOzmSznIGMAzmTznAUznHETAzr SYMBOLzmUznPSILONzmVzmWzmXznIzmYzmZznETAzeDIGIT EIGHTzk
FIVEzlOURzkNINEzkONEzkSEVENzlIXzkTHREEzlWOzkZEROzeEPSILON SYMBOLzeITALIC CAPITAL AzuLPHAztBzuETAzt
CzuHIztDzuELTAztEzuPSILONzuTAztFztGzuAMMAztHztIzuOTAztJztKzuAPPAztLzuAMDAztMzuUztNzuUztOzuMEGAzvIC
RONztPzuHIzuIzuSIztQztRzuHOztSzuIGMAztTzuAUzuHETAzy SYMBOLztUzuPSILONztVztWztXzuIztYztZzuETAzlEPSI
LON SYMBOLzlKAPPA SYMBOLzlNABLAzlPARTIAL DIFFERENTIALzmHI SYMBOLzmI SYMBOLzlRHO SYMBOLzlSMALL AzsL
PHAzrBzsETAzrCzsHIzrDzsELTAzrEzsPSILONzsTAzrFzsINAL SIGMAzrGzsAMMAzrHzrIzsOTAzrJzrKzsAPPAzrLzsAMDA
zrMzsUzrNzsUzrOzsMEGAztICRONzrPzsHIzsIzsSIzrQzrRzsHOzrSzsIGMAzrTzsAUzsHETAzrUzsPSILONzrVzrWzrXzsIz
rYzrZzsETAzlTHETA SYMBOLzeKAPPA SYMBOLzeNABLAzePARTIAL DIFFERENTIALzfHI SYMBOLzfI SYMBOLzeRHO SYMB
OLzeSMALL AzlLPHAzkBzlETAzkCzlHIzkDzlELTAzkEzlPSILONzlTAzkFzlINAL SIGMAzkGzlAMMAzkHzkIzlOTAzkJzkKz
lAPPAzkLzlAMDAzkMzlUzkNzlUzkOzlMEGAzmICRONzkPzlHIzlIzlSIzkQzkRzlHOzkSzlIGMAzkTzlAUzlHETAzkUzlPSILO
NzkVzkWzkXzlIzkYzkZzlETAzeTHETA SYMBOLyCAPITAL AzhBzhCzhDzhEzhFzhGzhHzhIzhJzhKzhLzhMzhNzhOzhPzhQzh
RzhSzhTzhUzhVzhWzhXzhYzhZyDIGIT EIGHTzfFIVEzgOURzfNINEzfONEzfSEVENzgIXzfTHREEzgWOzfZEROyITALIC CAP
ITAL AzoBzoCzoDzoEzoFzoGzoHzoIzoJzoKzoLzoMzoNzoOzoPzoQzoRzoSzoTzoUzoVzoWzoXzoYzoZzgSMALL AzmBzmCzm
DzmEzmFzmGzmHzmIzmJzmKzmLzmMzmNzmOzmPzmQzmRzmSzmTzmUzmVzmWzmXzmYzmZySMALL AzfBzfCzfDzfEzfFzfGzfHzf
IzfJzfKzfLzfMzfNzfOzfPzfQzfRzfSzfTzfUzfVzfWzfXzfYzfZoCRIPT CAPITAL AzdCzdDzdGzdJzdKzdNzdOzdPzdQzdS
zdTzdUzdVzdWzdXzdYzdZuSMALL AzbBzbCzbDzbFzbHzbIzbJzbKzbLzbMzbNzbPzbQzbRzbSzbTzbUzbVzbWzbXzbYzbZcXI
MIZEcYAN NUMERAL EIGHTtEENpLEVENoFIFTEENqVEpOURsTEENoNINEsTEENoONEoSEVENtTEENpIXrTEENoTENpHIRTEENq
REEpWELVEqOoZERObEASURED ANGLEo OPENING LEFTpWITH OPEN ARM ENDING IN ARROW POINTING DOWN AND LEFTz
znRIGHTzzeLEFT AND DOWNzznUPzzeRIGHT AND DOWNzzoUPzzeUP AND LEFTzzlRIGHTjBYjRIGHT ANGLE WITH DOTd
T ON BONEcCHANICAL ARMlLEGcDEFAIDRIN CAPITAL LETTER AzdIzdTIUzcBzcCzcDzcEzcFzcGzcHzdPzcIzcJzcKzdPz
cLzcMzcNzdGzdYzcOzdEzcPzcQzcRzcSzcTzcUzcVzcWzcXzcYzdUzcZnOMMAmDIGIT EIGHTsFIVEtOURsNINEsONEv ALTER
NATE FORMsSEVENtIXsTHREEx ALTERNATE FORMtWOv ALTERNATE FORMsZEROmEXCLAMATION OHmFULL STOPmNUMBER E
IGHTEENuLEVENtFIFTEENuOURTEENtNINETEENtSEVENTEENuIXTEENtTENuHIRTEENuWELVEmSMALL LETTER AzbIzbTIUza
BzaCzaDzaEzaFzaGzaHzbPzaIzaJzaKzbPzaLzaMzaNzbGzbYzaOzbEzaPzaQzaRzaSzaTzaUzaVzaWzaXzaYzbUzaZnYMBO
L AIVAdIEVAL COMMAjEXCLAMATION MARKjQUESTION MARKeUM BLACK CIRCLEiOLD WHITE CIRCLEhEIGHT POINTED B
LACK STARnSPOKED ASTERISKhFIVE SPOKED ASTERISKiLATTENED LEFT PARENTHESIS ORNAMENTrRIGHT PARENTHESI
S ORNAMENTiOUR POINTED BLACK STARuPINWHEEL STARhGREEK CROSShLEFT CURLY BRACKET ORNAMENTmPARENTHESI
S ORNAMENTl-POINTING ANGLE BRACKET ORNAMENThMATHEMATICAL SPACEhRIGHT CURLY BRACKET ORNAMENTnPARENT
HESIS ORNAMENTm-POINTING ANGLE BRACKET ORNAMENThSALTIREiHADEiIX POINTED BLACK STARlSPOKED ASTERISK
iMALL WHITE CIRCLEhTHREE POINTED BLACK STARvPINWHEEL STARhVERTICAL BARhWHITE CIRCLEnSQUAREcETEI MA
YEK AHANG KHUDAMoNJIoPUN IYEKnCHEIKHANtEInDIGIT EIGHTtFIVEuOURtNINEtONEtSEVENuIXtTHREEuWOtZEROnLET
TER ATIYAuBAvHAMuCHAwILuDDAwHAvHOUvILuEuGHOUvOKuHUKuIv LONSUMuJHAMvILuKHOUvOKx LONSUMuLAIx LONSUMu
MITx LONSUMuNAw LONSUMvGOUy LONSUMvNAvYAuOuPAw LONSUMvHAMuRAIuSAMvHAvSAuTHOUvILx LONSUMvTAwHAuUNuW
AIuYANGoUM IYEKnSYLLABLE REPETITION MARKnVIRAMAoOWEL SIGN AAIzbUzaNAPzaUyCHEINAPyIIzaNAPyNUNGyONAP
ySOUNAPyUNAPzaUyVISARGAyYENAPnWORD REPETITION MARKcLONdTING FACEcMOcNDE KIKAKUI COMBINING NUMBER H
UNDRED THOUSANDSznSzgMILLIONSzgTEENSziN THOUSANDSzjSzhHOUSANDSoDIGIT EIGHTuFIVEvOURuNINEuONEuSEVEN
vIXuTHREEvWOoSYLLABLE M001 KIzb2 KAzb3 KUzb4 WIzb5 WAzb6 WUzb7 MINzb8 MANzb9 MUNza10 BIzb1 BAzb2 B
Uzb3 Izb4 Azb5 Uzb6 DIzb7 DAzb8 DUzb9 SIza20 SAzb1 SUzb2 TIzb3 TAzb4 TUzb5 LIzb6 LAzb7 LUzb8 JIzb
9 JAza30 JUzb1 YIzb2 YAzb3 YUzb4 FIzb5 FAzb6 FUzb7 NINzb8 NANzb9 NUNza40 HEEzb1 HAzb2 HOOzb3 NGGAz
b4 KPEEzb5 WOzb6 HUANzb7 MBEEzb8 KOzb9 WVAza50 PUzb1 PEzb2 HENzb3 HINzb4 LOOzb5 TEzb6 GBAzb7 NGONz
b8 NYANzb9 MENza60 NYONzb1 WVIzb2 MBAzb3 JOzb4 NDOzb5 KEEzb6 POzb7 NDOOzb8 PIzb9 TOza70 GBOzb1 GBO
Ozb2 MBEzb3 LEzb4 KPUzb5 FEzb6 KOOzb7 VOzb8 FEEzb9 SOza80 YEzb1 PEEzb2 NGGUzb3 HEEIzb4 LEEzb5 VEzb
6 LONG NGGEzb7 HUNzb8 FOzb9 DEEza90 NGGIzb1 TEEzb2 KPAzb3 GBEEzb4 MONzb5 KEzb6 HEzb7 BEzb8 NYENzb
9 PAy100 Ezb1 FANzb2 POOzb3 BOOzb4 TOOzb5 LONG MBOOzb6 LONG NGGOOzb7 GBEzb8 KPEzb9 YEEza10 LONG LE
zb1 GAzb2 KPOOzb3 JEzb4 WOOzb5 NGGEEzb6 SEzb7 NENzb8 WEzb9 NDEza20 NGGOzb1 YOzb2 MBUzb3 NDIzb4 GBI
zb5 NDUzb6 WEEzb7 NGGUAzb8 HOOUzb9 NDAza30 HANzb1 INzb2 KPIzb3 FOOzb4 NJOOzb5 INzb6 SOOzb7 EIzb8 B
Ozb9 WVEza40 HOzb1 YOOzb2 LONG MBOzb3 WEIzb4 VOOzb5 MBIzb6 NGGEzb7 Ozb8 GBUzb9 NJEEza50 BEEzb1 VUz
b2 NJAzb3 LOzb4 MUANzb5 GIzb6 NGGOOzb7 JEEzb8 KPOzb9 NGGAAza60 JOOzb1 LONG MBEzb2 SEEzb3 EEzb4 NYI
Nzb5 OOzb6 GUEIzb7 GUANzb8 GUzb9 NONza70 NYUNzb1 RAzb2 MBOOzb3 VEEzb4 MBOzb5 LONG JOzb6 HIzb7 NGUA
Nzb8 ENzb9 KUAza80 DOOzb1 DOzb2 VIzb3 LONG NGGOzb4 NGENzb5 VAzb6 HUzb7 MBUUzb8 MBEEzb9 MUENza90 GE
Ezb1 NDEEzb2 NJUzb3 HONzb4 WUIzb5 ANzb6 SIAzb7 FUAdORAH WITH NINE BRANCHESdS SYMBOLcRCURYdOITIC CU
RSIVE FRACTION EIGHT TWELFTHSzcLEVEN TWELFTHSzbFIVE TWELFTHSzcOUR TWELFTHSzbNINE TWELFTHSzbONE HAL
FzfTWELFTHzbSEVEN TWELFTHSzcIX TWELFTHSzbTEN TWELFTHSzcHREE TWELFTHSzcWO TWELFTHSrLETTER AzaRCHAI
C SAyBAyDAyEyHHAyIyKAzaHAyLAyMAyNAzaEyOyPAyQAyRAySAzaEyTAzaEzaOyWAyYAsOGOGRAM IMNzbRMTrNUMBER EIGH
Tze HUNDREDzm THOUSANDzfTHOUSANDzeY THOUSANDyFIFTYze THOUSANDzbVEzd HUNDREDzl THOUSANDzeTHOUSANDza
ORTYze THOUSANDzbURzd HUNDREDzl THOUSANDzeTHOUSANDyNINEzd HUNDREDzl THOUSANDzeTHOUSANDzdTY THOUSAN
DyONEzc HUNDREDzk THOUSANDzdTHOUSANDySEVENze HUNDREDzm THOUSANDzfTHOUSANDzeTYzg THOUSANDzaIXzc HUN
DREDzk THOUSANDzdTHOUSANDzcTYze THOUSANDyTENzc THOUSANDzaHIRTYzf THOUSANDzbREEze HUNDREDzm THOUSAN
DzfTHOUSANDzaWENTYzf THOUSANDzbOzc HUNDREDzk THOUSANDzdTHOUSANDjHIEROGLYPHIC LETTER AzeBAzg-2zeDAz
eEzeHHAzeIzeKAzfHAzeLAzeMAzeNAzg-2zfEzg-2zeOzePAzeQAzeRAzg-2zeSAzg-2zfEzeTAzg-2zfEzg-2zfOzeWAzeYAw
SYMBOL VIDJzi-2dPERSONcSSAGE WAITINGcTRICAL BREVEjLONG OVER SHORTtTWO SHORTSjPENTASEMEjSHORT OVE
R LONGjTETRASEMEkRISEMEkWO SHORTS JOINEDuOVER LONGeObIAO LETTER AHnRCHAIC MAuNAvGAuZZAmBAnRImDAnDA
nLHApYAnZAoHAoYIoZAmFAmGAnHAoHAmHAnHAmKAmLAnHAoYAnYAmMAnHAmNAoSALIZATIONnGAoHAnHAnNAoHAnYAoHAmPAnL
AmQAnGAmREFORMED TONE-1zb2zb4zb5zb6zb8wSHAnTEmSAnHAnSAnYImTAnEnLHApYAnONE-2r3r4r5r6r7r8nSAoEoHAoSA
nTAmVAnFAmWAmXAmYI DZHApKApNNApPApTAqSArHAqTAmZAnHAnSAoHAnZAoSApYAoYAfSIGN ASPIRATIONkCONSONANT MO
DIFIER BARkREFORMED ASPIRATIONtVOICINGfTONE ABOVEkBELOWkRIGHTkTOP RIGHTfVOWEL SIGN ArArEsErHHrIrNs
GrUqErArIrNsGrRsRqIrAsNtGrErGrIrNGrOsNGrUqNrGqOrERsYrGrOrUqROUNDED ERzbRqUrAsNtGrEIrIrNGrOGrUqVWqW
rOqYrIrUIcCR DASH SYMBOLfON US SYMBOLeO SIGNfBEfPHONEfSCOPEcDDLE DOThTHIRD WHITE RIGHT POINTING IN
DEXdLINE HORIZONTAL ELLIPSIScLITARY HELMETjMEDALdKY WAYdL SIGNcNIBUSeDISCeMIZEdUS SIGNk IN TRIANGL
ElWITH COMMA ABOVEqDOT BELOWqFALLING DOTSqRISING DOTSgTILDEf-OR-PLUS SIGNdYcRRORg BALLbMSPbOBILE P
HONEm OFFnWITH RIGHTWARDS ARROW AT LEFTcDELSeRN PENTATHLONdI ABBREVIATION SIGNfDANDAgIGIT EIGHTlFI
VEmOURlNINElONElSEVENmIXlTHREEmWOlZEROgOUBLE DANDAfLETTER AnAnInUmBAnHAmCAnHAmDAnDAoHAnHAmEmGAnHAm
HAmInImJAnHAmKAnHAmLAnLAmMAmNAnGAnNAnYAmOmPAnHAmRAmSAnHAnSAmTAnHAnTAoHAmUnUmVAnOCALIC LvLuRvRmYAfS
IGN ANUSVARAlRDHACANDRAkHUVAkVIRAMAmSARGAfVOWEL SIGN AArIrUqEqIrIqOqUrUqVOCALIC LzaLyRzaReFIER BRE
VE WITH INVERTED BREVEjLETTER ACUTE ACCENTrLVEOLAR CLICKrPOSTROPHEqBEGIN HIGH TONEwLOW TONErILABIA
L CLICKqCAPITAL AzaEyBzaARRED ByCyDyEyFyGyHza WITH STROKEyIyJyKyLyMyNyOzaUyPyQyRzaEVERSED EziNyTyU
yVyWrENTRED LEFT HALF RINGyRIGHT HALF RINGrHINESE TONE YANG PINGzjQUzjRUzjSHANGzfIN PINGziQUziRUzi
SHANGrIRCUMFLEX ACCENTrOLONrROSS ACCENTrYRILLIC ENzaHARD SIGNzaSOFT SIGNqDENTAL CLICKrOT HORIZONTA
L BARuSLASHuVERTICAL BARsUBLE APOSTROPHExPRIMEsWN ARROWHEADvTACKqEND HIGH TONEuLOW TONErXTRA-HIG
H DOTTED LEFT-STEM TONE BARzjTONE BARzcLEFT-STEM TONE BARzcTONE BARwLOW DOTTED LEFT-STEM TONE BARz
iTONE BARzbLEFT-STEM TONE BARzbTONE BARqGEORGIAN NARrLOTTAL STOPzd WITH STROKErRAVE ACCENTqHALF TR
IANGULAR COLONrIGH DOTTED LEFT-STEM TONE BARzdTONE BARvLEFT-STEM TONE BARvTONE BARqLATERAL CLICKrE
FT ARROWHEADvHALF RINGvTACKrOW ACUTE ACCENTuCIRCUMFLEX ACCENTuDOTTED LEFT-STEM TONE BARzcTONE BARw
WN ARROWHEADuGRAVE ACCENTuINVERTED EXCLAMATION MARKuLEFT ARROWzfHEADy-STEM TONE BARuMACRONuRIGHT A
RROWHEADwNGuTILDEvONE BARuUP ARROWHEADuVERTICAL LINEtER RIGHT CORNER ANGLEqMACRONrID DOTTED LEFT-S
TEM TONE BARzcTONE BARuLEFT-STEM TONE BARuTONE BARtDLE DOUBLE ACUTE ACCENTzfGRAVE ACCENTxGRAVE ACC
ENTsNUS SIGNqOPEN SHELFqPLUS SIGNrRIMEqRAISED COLONxDOWN ARROWxEXCLAMATION MARKxINVERTED EXCLAMATI
ON MARKxUP ARROWrETROFLEX CLICK WITH RETROFLEX HOOKsVERSED COMMAzaGLOTTAL STOPzm WITH STROKErHOTI
C HOOKrIGHT ARROWHEADwHALF RINGwTACKqSHELFsORT EQUALS SIGNrMALL AxExINxLPHAwBx WITH HOOKxARRED OxE
TAxOTTOM HALF OwCx WITH CURLxAPITAL AAzfBzfGzg WITH HOOKzfHzfIzg WITH STROKEzgNVERTED RzfLzg WIT
H BELTzfNzfOEzfRzfUzfYxHIxLOSED OMEGAzeREVERSED OPEN EwDx WITH HOOKzi AND TAILzeTAILxELTAyZH DIGRA
PHxOTLESS J WITH STROKEzs AND HOOKxZ DIGRAPHzh WITH CURLznRETROFLEX HOOKwExNGxSHxTHxZHwFxENG DIGRA
PHwGx WITH HOOKxAMMAxREEK GAMMAzdPHIwHx WITH HOOKzeSTROKExENGzb WITH HOOKwI WITH STROKExOTAwJx WIT
H CROSSED-TAILwKwLx WITH BELTzeINVERTED LAZY SzeMIDDLE TILDEzePALATAL HOOKzeRETROFLEX HOOKzs AND B
ELTxEZHzb WITH RETROFLEX HOOKxIGATURE OExS DIGRAPHxZ DIGRAPHwMx WITH HOOKwN WITH LEFT HOOKzeRETROF
LEX HOOKwOx WITH STROKExPEN EzcOwPxHIwQwRx WITH FISHHOOKzeTAILxAMS HORNxEVERSED EzgGLOTTAL STOPzgO
PEN EwSx WITH CURLzeHOOKxCHWAyRIPT GxIDEWAYS UwTx WITH PALATAL HOOKzeRETROFLEX HOOKxC DIGRAPH WIT
H CURLxESH DIGRAPHxHETAxOP HALF OxS DIGRAPHzh WITH RETROFLEX HOOKxURNED AzfEzfLPHAzeHzeIzeMzf WIT
H LONG LEGzeOPEN EzeRzf WITH HOOKzlLONG LEGzt AND RETROFLEX HOOKzeVzeWzeYzf WITH BELTwUx BARyWIT
H LEFT HOOKxPSILONwVx WITH HOOKzeRIGHT HOOKwWwXwYwZx WITH CURLzeRETROFLEX HOOKrTRESS AND HIGH TONE
zcLOW TONErUPERSCRIPT HALF TRIANGULAR COLONzdTRIANGULAR COLONqTRIANGULAR COLONrURNED COMMAqUNASPIR
ATEDrP ARROWHEADtTACKrSqVERTICAL LINErOICINGqYANG DEPARTING TONE MARKrIN DEPARTING TONE MARKdULO T
WO SUMcNEY BAGgWITH WINGSf-MOUTH FACEdGOLIAN BIRGAp WITH DOUBLE ORNAMENTvORNAMENTkCOLONmMMAkDIGI
T EIGHTqFIVErOURqNINEqONEqSEVENrIXqTHREErWOqZEROlOUBLE BIRGA WITH ORNAMENTkELLIPSISkFOUR DOTSlRE
E VARIATION SELECTOR FOURzjONEzjTHREEzkWOlULL STOPkINVERTED BIRGAy WITH DOUBLE ORNAMENTkLETTER AsL
I GALI AzcHzcNUSVARA ONEzbBALUDAzbCAzbDAzdGALGAzdMARUzcDAzbHALF UzgYAzbIzcNVERTED UBADAMAzbKAzbNGA
zcNAzbPAzcHAzbSSAzbTAzcHREE BALUDAzcTAzdHAzbUBADAMAzbVISARGA ONEzbZAzcHAsNGrBArCHAu WITH TWO DOTSt
IrDArEsErFArGArHAArIrJArKAsHArLAsHArMAtNCHU ALI GALI BHAziCAzjYAziDDHAzjHAziGHAziJHAziLHAziNGAziSS
AziTAzjTAziZAzjHAyFAyIyKAyRAyZHArNArOsErPArQArRArSAsHAsIBE ANGwCHAwDAwEwFAwGAyAwHAyAwIxYwJAwKAwPAw
RAAwSHAwTAxSAwUxEwZAxHArTAsODO ALI GALI TAzgZHAxNGwBAwCHAwDAxZAwEwGAyAwHAAwIwJAxIAwKAwLONG VOWEL S
IGNwMAwNIAwOxEwPAwQAwTAxSAwUxEwWAwYAsSArUsErWArYArZAsHIsRAkMANCHU COMMArFULL STOPkNIRUGUkROTATED B
IRGAx WITH DOUBLE ORNAMENTzeORNAMENTkSIBE SYLLABLE BOUNDARY MARKERlWIRL BIRGAv WITH DOUBLE ORNAMEN
TzcORNAMENTkTODO SOFT HYPHENlRIPLE BIRGA WITH ORNAMENTlURNED SWIRL BIRGA WITH DOUBLE ORNAMENTkVOWE
L SEPARATORdKEYg FACEdOGRAM FOR EARTHnYANGoINeRAILeSTABLE SYMBOLcOD BUBBLEdN CAKEfVIEWING CEREMONY
cSQUEfITOcTHER CHRISTMASdOR BOATgSCOOTERfIZED WHEELCHAIRfWAYcUNT FUJIfAINi BICYCLISTjCABLEWAYjRAIL
WAYdSEf FACEgTRAPdTHcVIE CAMERAcYAIbRO DANDAfIGIT EIGHTkFIVElOURkNINEkONEkSEVENlIXkTHREElWOkZEROfO
UBLE DANDAeLETTER AlBAlCHUlDAnIlEmAlHAInOlKEAAEmHAImOlLAnNlMAEMmIMlNGImINlOmLmOlPAmHIlRImOlSHIlTAm
EKmHEAlWAlYObUCH GREATER-THANfLESS-THANcLTANI LETTER ApBAqHApCAqHApDAqDArDArHAqHApEpGAqHApHApIpJAq
JApKAqHApLApMApNAqNAqYApPAqHApRAqHAqRApSApTAqHAqTArHApUpVApYAiSECTION MARKeIMAPfPLE MUSICAL NOTESh
ICATION SIGNt IN DOUBLE CIRCLExLEFT HALF CIRCLExRIGHT HALF CIRCLExTRIANGLEuWITH DOT ABOVEzaUNDERBA
RpXfSETi MULTIPLICATIONjUNIONcSHROOMdIC FLAT SIGNgNATURAL SIGNgSHARP SIGNfAL KEYBOARDq WITH JACKSi
NOTEiSCOREjYMBOL ARPEGGIATO DOWNzbUPpBEGIN BEAMvPHRASEvSLURvTIEqRACEtKETrEATH MARKsVEtISv RESTpC C
LEFqAESURAqIRCLE X NOTEHEADqLIMACUSsVISrUSTER NOTEHEAD BLACKzhWHITEqODArMBINING ACCENTzg-STACCATOz
bUGMENTATION DOTzaBENDzaDOITzcUBLE TONGUEzcWN BOWzaFLAG-1zf2zf3zf4zf5zcIPzaHARMONICzaLOUREzaMARCAT
Ozh-STACCATOzaRIPzaSMEARzbNAP PIZZICATOzbPRECHGESANG STEMzbTACCATISSIMOzhOzcEMzaTENUTOzbREMOLO-1zi
2zi3zcIPLE TONGUEzaUP BOWsMON TIMEqRESCENDOrOIXqUT TIMEpDA CAPOrL SEGNOrMPt ALLrSHED BARLINEqECRES
CENDOrGREE SLASHqOUBLE BARLINEwFLATwSHARPqRUM CLEF-1za2pEIGHTH NOTEwRESTqND BEAMtOF STIMMEtPHRASEt
SLURtTIEpF CLEFv OTTAVA ALTAzeBASSAqERMATAw BELOWqINAL BARLINEsGERED TREMOLO-1zh2zh3rVE-LINE STAFF
qLAT DOWNuUPqORTErUR-LINE STAFFuSTRING FRETBOARDqUSA BLACKuWHITEpG CLEFv OTTAVA ALTAzeBASSAqLISSAN
DO DOWNzaUPqRACE NOTE NO SLASHzbSLASHrEGORIAN C CLEFzaF CLEFpHALF NOTEuPEDAL MARKuRESTrUPTSTIMMEpI
NVERTED TURNpKIEVAN C CLEFwEIGHTH NOTE STEM DOWNzoUPxND OF PIECEwFINAL NOTExLAT SIGNwHALF NOTEwQUA
RTER NOTE STEM DOWNzpUPwRECITATIVE MARKwWHOLE NOTEqORONpLEFT REPEAT SIGNqONGAu IMPERFECTA RESTvPER
FECTA RESTpMAXIMAqEZZOqINIMAv BLACKwRESTqOON NOTEHEAD BLACKzeWHITEqULTI RESTuPLE MEASURE RESTpNATU
RAL DOWNxUPqEBENSTIMMEqOTEHEAD BLACKqULL NOTEHEADpONE HUNDRED TWENTY-EIGHTH NOTEzqRESTs-LINE STAFF
qRNAMENT STROKE-1zh0zh1zg2zg3zg4zg5zg6zg7zg8zg9qTTAVA ALTAwBASSApPARENTHESIS NOTEHEADqEDAL MARKvU
P MARKrS SUBPUNCTISqIANOqLUS NOTEHEADqODATUSrRRECTUSy FLEXUSpQUARTER NOTExRESTxTONE FLATzdSHARPrIN
DICESIMA ALTAzdBASSApREPEAT DOTSvED FIGURE-1zg2zg3rVERSE FINAL BARLINEqIGHT REPEAT SIGNrNFORZANDOp
SCANDICUSy FLEXUSqEGNOrMIBREVIS BLACKzbRESTzbWHITEtMINIMA BLACKzbRESTzbWHITEqHARP DOWNvUPrORT BARL
INEqINGLE BARLINErX-LINE STAFFtSTRING FRETBOARDsTEENTH NOTEzaRESTtY-FOURTH NOTEzdRESTqORIqQUARE Bw
NOTEHEAD BLACKzgWHITEqUBITOpTEMPUS IMPERFECTUM CUM PROLATIONE IMPERFECTAzzj DIMINUTION-1zzv2zzv3zy
PERFECTAwPERFECTUM CUM PROLATIONE IMPERFECTAzwPERFECTAzzf DIMINUTION-1qHIRTY-SECOND NOTEzeRESTrREE
-LINE STAFFqORCULUSx RESUPINUSqRrIANGLE NOTEHEAD DOWN BLACKznWHITEziLEFT BLACKznWHITEziRIGHT BLACK
zoWHITEziUP BLACKzlRIGHT BLACKzrWHITEzlWHITEx-ROUND NOTEHEAD DOWN BLACKztWHITEqURNt SLASHuUPqWO-LI
NE STAFFpVIRGAqOID NOTEHEADpWHOLE NOTEvRESTqITH FINGERNAILSpX NOTEHEADpZbVSbWbYANMAR CONSONANT SIG
N MEDIAL HAzfRAzfWAzfYAyON MEDIAL LAzjMAzjNAxSHAN MEDIAL WAiDIGIT EIGHToFIVEpOURoNINEoONEoSEVENpIX
oTHREEpWOoZEROiLETTER AqITON RAqUpBAqHApCAqHApDAqDArHAqHApEqASTERN PWO KAREN GHWAziNNAziYWApGAqHAq
REAT SApHApIqIpJAqHApKAqHAsMTI CAxHAwDDAyHAxHAwFAwGAwHAxHAwJAxHAwLLAwNAxYAwRAwSAwTTAyHAwXAwZApLAqL
ApMAqON BBAvEtEtJHAtNGApNAqGAqNArYAqYApOpPAqHApRAqUMAI PALAUNG FApSAqGAW KAREN SHAqHAsN AuBAvHAuCA
vHAuDAuFAuGAvHAuHAuJHAuKAvHAuNAvNAvYAuPHAuTHAuZArWE PALAUNG CHAzdSHAqSApTArI LAING BAzbHAzaDAzbDAz
cHAzbHAzaFAzaGAzbHAzaJAzbHAzaLLAzaNNAzbYAqHAqTArHApUqUpVOCALIC LyLxRyRpWAqESTERN PWO KAREN PWAziTH
ApYAjOGOGRAM KHAMTI HMyOAYyQNiMODIFIER LETTER KHAMTI REDUPLICATIONySHAN REDUPLICATIONiSHAN DIGIT E
IGHTtFIVEuOURtNINEtONEtSEVENuIXtTHREEuWOtZEROjIGN ANUSVARAoSATnDOT BELOWnKHAMTI TONE-1za3nLITTLE S
ECTIONnPAO KAREN TONEnRUMAI PALAUNG TONE-5nSECTIONoHAN COUNCIL EMPHATIC TONEzbTONE-2zg3sSAWsTONE-2
x3x5x6nTAI LAING TONE-2zd5nVIRAMApSARGAnWESTERN PWO KAREN TONE-1zl2zl3zl4zl5jYMBOL AFOREMENTIONEDq
ITON EXCLAMATIONvONEvTWOpCOMPLETEDpGENITIVEpLOCATIVEpSHAN EXCLAMATIONuONEiTAI LAING DIGIT EIGHTyFI
VEzaOURyNINEyONEySEVENzaIXyTHREEzaWOyZEROjONE MARK SGAW KAREN HATHIzeKE PHOiVOWEL SIGN AAuIvTON Az
bItEu ABOVEtGEBA KAREN ItIuItKAYAH EEzaOEzaUtMON IIxOtSGAW KAREN EUuHAN AAyEza ABOVEyFINAL YtTAL
L AAtUuUtVOCALIC LzdLzcRzdRtWESTERN PWO KAREN EUzmUEaN-ARY CIRCLED DOT OPERATORoPLUS OPERATORoTIME
S OPERATORhOPRODUCTgINTERSECTIONgLOGICAL ANDoORgPRODUCTgSQUARE INTERSECTION OPERATORnUNION OPERATO
RhUMMATIONgTIMES OPERATORgUNIONl OPERATOR WITH DOTzbPLUSgWHITE VERTICAL BARbABATAEAN CRUCIFORM NUM
BER FOURkLETTER ALEPHsYINrBETHrDALETHrFINAL ALEPHxBETHxHExKAPHxLAMEDHxMEMxNUNxSHINxYODHrGIMELrHEtT
HrKAPHrLAMEDHrMEMrNUNrPErQOPHrRESHrSADHEtMEKHsHINrTAWsETHrWAWrYODHrZAYINkNUMBER FIVEsOURrONEu HUND
REDrTENsHREEsWENTYtOdLAcIL POLISHdRA SIGNcKcME BADGEcNDeINAGARI HEADSTROKEmLETTER AuAuIuUtBAuHAtCA
uHAtDAuDAvHAuHAtEtGAuHAtHAtIuItJAuHAtKAuHAtLAuLAtMAtNAuGAuNAuYAtOtPAuHAtRAuRAtSAuHAuSAtTAuHAuTAvHA
tUuUtVAuOCALIC RzdRtYAmSIGN ANUSVARAsVAGRAHArSIDDHAMrVIRAMAtSARGAmVOWEL SIGN AAyIyUxExIyIxOxPRISHT
HAMATRA ExUyUxVOCALIC RzhRcRROW NO-BREAK SPACEcTIONAL DIGIT SHAPESjPARKcUSEATED FACEcZAR AMULETbBH
cSPbECKTIEcGATED DOUBLE VERTICAL BAR DOUBLE RIGHT TURNSTILEfIVE ACKNOWLEDGEjCIRCLED DIGIT ZEROrLAT
IN CAPITAL LETTER AznBznCznDznEznFznGznHznIznJznKznLznMznNznOznPznQznRznSznTznUznVznWznXznYznZrNUM
BER EIGHTEENzaLEVENyFIFTEENzaOURTEENyNINETEENySEVENTEENzaIXTEENyTHIRTEENzaWELVEzcNTYrSQUARErTRIANG
LEjDIAGONAL CROSSsDIAMONDsMIDDLE RIGHT TO LOWER CENTREjSQUARED ABrCROSS MARKrICrLATIN CAPITAL LETT
ER AznBznCznDznEznFznGznHznIznJznKznLznMznNznOznPznQznRznSznTznUznVznWznXznYznZrPArQUESTION MARKrS
ArWCcITHER A SUBSET OF NOR EQUAL TOmPERSET OF NOR EQUAL TOjPPROXIMATELY NOR ACTUALLY EQUAL TOiGREA
TER-THAN NOR EQUAL TOzdIVALENT TOzaLESS-THANiLESS-THAN NOR EQUAL TOzaIVALENT TOwGREATER-THANcLcPTU
NEh FORM TWOcRD FACEcSSUSdT WITH EGGSeING DOLLScUTEReRAL CHESS BISHOPu ROTATED NINETY DEGREESzeTW
O HUNDRED SEVENTY DEGREESoEQUIHOPPERy ROTATED NINETY DEGREESoKINGs ROTATED NINETY DEGREESzcTWO HUN
DRED SEVENTY DEGREESpNIGHTu ROTATED FORTY-FIVE DEGREESzeNINETY DEGREESzeONE HUNDRED THIRTY-FIVE DE
GREESzeTHREE HUNDRED FIFTEEN DEGREESzfWO HUNDRED SEVENTY DEGREESzqTWENTY-FIVE DEGREESoPAWNs ROTATE
D NINETY DEGREESzcTWO HUNDRED SEVENTY DEGREESoQUEENt ROTATED NINETY DEGREESzdTWO HUNDRED SEVENTY D
EGREESoROOKs ROTATED NINETY DEGREESzcTWO HUNDRED SEVENTY DEGREESoTURNED BISHOPvKINGwNIGHTvPAWNvQUE
ENvROOKiFACEcW LINEeMOON SYMBOLjWITH FACEeSHEQEL SIGNeTAI LUE DIGIT EIGHTsFIVEtOURsNINEsONEsSEVENt
IXsTHREEtWOsZEROmLETTER FINAL BzaDzaKzaMzaNzbGzaVtHIGH BAyDAyFAyHAyKAzaVAyLAyMAyNAzaGAyPAzaHAyQAyS
AzaUAyTAzaHAzaSAyVAyXAzaVAyYAtLOW BAxDAxFAxHAxKAyVAxLAxMAxNAyGAxPAyHAxQAxSAyUAxTAyHAySAxVAxXAyVAxY
AmSIGN LAEuVmTHAM DIGIT ONEnONE MARK-1w2mVOWEL SIGN AAzaYyEyYxExIIyYxOyAzaYyYxUyEzaYyUyYxVOWEL SHO
RTENERdA ABBREVIATION SIGNfCOMMAfDANDAgIGIT EIGHTlFIVEmOURlNINElONElSEVENmIXlTHREEmWOlZEROgOUBLE C
OMMAmDANDAfGAP FILLERfINSERTION SIGNfLETTER AnAnInUmBAnHAmCAnHAmDAnDAoHAnHAmEmGAnHAmHAmInImJAnHAmK
AnHAmLAnHAmMAnHAmNAnGAoHAnHAnNAnYAoHAmOmPAnHAmRAnHAmSAnHAnSAmTAnHAnTAoHAmUnUmVEDIC ANUSVARAnOCALI
C LvLuRvRmWAmYAfOMfPLACEHOLDER MARKfSANDHI MARKgIDDHIhGN ANUSVARAlVAGRAHAkCANDRABINDUkFINAL ANUSVA
RAkJIHVAMULIYAkNUKTAkUPADHMANIYAkVIRAMAmSARGAfVOWEL SIGN AArIrUqEqIrIqOqUrUqVOCALIC LzaLyRzaRdLIN
E LEFTiRIGHTdSPAPERcXT LINEfPAGEbIGHT WITH STARScNJAbKO COMBINING DOUBLE DOT ABOVEoLONG DESCENDIN
G TONEtHIGH TONEtLOW TONEtRISING TONEoNASALIZATION MARKoSHORT HIGH TONEuLOW TONEuRISING TONEhMAeDA
NTAYALANfIGIT EIGHTkFIVElOURkNINEkONEkSEVENlIXkTHREElWOkZEROfOROME SIGNeEXCLAMATION MARKeHIGH TON
E APOSTROPHEeLAJANYALANfETTER AlBAlCHAlDAnGBASINNAlEmElFAlGBAlHAlIlJAmONA CHAqJAqRAlKAlLAlMAlNmA
n WOLOSOmYAo WOLOSOlOmOlPAlRAmRAlSAlTAlUlWAlYAfOW TONE APOSTROPHEeSYMBOL GBAKURUNENlOO DENNENeTAMA
N SIGNbLbNBSPbO BICYCLESeREAK HEREdENTRYi SIGNdMOBILE PHONESdONE UNDER EIGHTEEN SYMBOLdPEDESTRIANS
eIRACYdSMOKING SYMBOLc-BREAK SPACEcMINAL DIGIT SHAPESeSMA SIGNcN-BREAKING HYPHENePOTABLE WATER SYM
BOLdFORKINGcRdDIC MARK SIGNdMAL SUBGROUP OFs OR EQUAL TOdTH EAST AND SOUTH WEST ARROWmRROWq AND SO
UTH EAST ARROWrCROSSING NORTH WEST ARROWzbSOUTH EAST ARROWrWITH HOOKlBLACK ARROWlDOUBLE ARROWlPOIN
TING BUDuLEAFuVINE LEAFlSANS-SERIF ARROWlTRIANGLE-HEADED ARROWzh TO BARlWHITE ARROWgINDIC FRACTIO
N ONE EIGHTHzaHALFzaQUARTERzaSIXTEENTHvTHREE QUARTERSzcSIXTEENTHSmPLACEHOLDER MARKmQUANTITY MARKpR
TER MARKmRUPEE MARKgWEST AND SOUTH EAST ARROWmRROWq AND NORTH EAST ARROWrCROSSING NORTH EAST ARROW
rTO CORNERuLONG BARrWITH HOOKlBLACK ARROWlDOUBLE ARROWlPOINTING BUDuLEAFuVINE LEAFlSANS-SERIF ARRO
WlTRIANGLE-HEADED ARROWzh TO BARlWHITE ARROWfEAST-POINTING AIRPLANEcSEcT A SUBSET OFiPERSET OFfLMO
ST EQUAL TOfN ELEMENT OFfSYMPTOTICALLY EQUAL TOeCHECK MARKeEQUAL TOhIVALENT TOeGREATER-THANeIDENTI
CAL TOeLESS-THANeNORMAL SUBGROUP OFw OR EQUAL TOePARALLEL TOeSIGNfQUARE IMAGE OF OR EQUAL TOlORIGI
NAL OF OR EQUAL TOeTILDEfRUEdCHED LEFT SEMICIRCLE WITH THREE DOTSjOWER RIGHT-SHADOWED WHITE RIGHTW
ARDS ARROWiRIGHT SEMICIRCLE WITH THREE DOTSiUPPER RIGHT-SHADOWED WHITE RIGHTWARDS ARROWdEe PADhGEe
BOOKi WITH DECORATIVE COVERbULdLcMBER EIGHTEEN FULL STOPiLEVEN FULL STOPhFIFTEEN FULL STOPiOURTEE
N FULL STOPhNINETEEN FULL STOPhSEVENTEEN FULL STOPiIGNjXTEEN FULL STOPhTEN FULL STOPiHIRTEEN FUL
L STOPiWELVE FULL STOPkNTY FULL STOPdERO SIGNcSHU CHARACTER-1B170u1u2u3u4u5u6u7u8u9uAuBuCuDuEuFt80
u1u2u3u4u5u6u7u8u9uAuBuCuDuEuFt90u1u2u3u4u5u6u7u8u9uAuBuCuDuEuFtA0u1u2u3u4u5u6u7u8u9uAuBuCuDuEuFtB
0u1u2u3u4u5u6u7u8u9uAuBuCuDuEuFtC0u1u2u3u4u5u6u7u8u9uAuBuCuDuEuFtD0u1u2u3u4u5u6u7u8u9uAuBuCuDuEuFt
E0u1u2u3u4u5u6u7u8u9uAuBuCuDuEuFtF0u1u2u3u4u5u6u7u8u9uAuBuCuDuEuFs200u1u2u3u4u5u6u7u8u9uAuBuCuDuEu
Ft10u1u2u3u4u5u6u7u8u9uAuBuCuDuEuFt20u1u2u3u4u5u6u7u8u9uAuBuCuDuEuFt30u1u2u3u4u5u6u7u8u9uAuBuCuDuE
uFt40u1u2u3u4u5u6u7u8u9uAuBuCuDuEuFt50u1u2u3u4u5u6u7u8u9uAuBuCuDuEuFt60u1u2u3u4u5u6u7u8u9uAuBuCuDu
EuFt70u1u2u3u4u5u6u7u8u9uAuBuCuDuEuFt80u1u2u3u4u5u6u7u8u9uAuBuCuDuEuFt90u1u2u3u4u5u6u7u8u9uAuBuCuD
uEuFtA0u1u2u3u4u5u6u7u8u9uAuBuCuDuEuFtB0u1u2u3u4u5u6u7u8u9uAuBuCuDuEuFtC0u1u2u3u4u5u6u7u8u9uAuBuCu
DuEuFtD0u1u2u3u4u5u6u7u8u9uAuBuCuDuEuFtE0u1u2u3u4u5u6u7u8u9uAuBuCuDuEuFtF0u1u2u3u4u5u6u7u8u9uAuBgI
TERATION MARKcT AND BOLTbYIAKENG PUACHUE HMONG CIRCLED CAxDIGIT EIGHTzeFIVEzfOURzeNINEzeONEzeSEVEN
zfIXzeTHREEzfWOzeZEROxLETTER AzgAzfCAzfDAzgLAzfEzgEzfFAzfGAzfHAzhHzfIzfKAzfLAzfMAzgLAzfNAzgCAzgKAz
gPAzhLAzgQAzgRAzgTAzhSAzhXAzgYAzfOzgOzfPAzgLAzfQAzfRAzgRAzfSAzfTAzgSAzgXAzfUzfVAzfWzfXAzgYAzfYAzfZ
AyOGOGRAM NYAJxSIGN FOR ANIMALzhINVERTEBRATEzhLOCATIONzhPERSONzhTHINGzdXW XWyYLLABLE LENGTHENERxTO
NE-BzdDzdGzdJzdMzdSzdVaOBJECT REPLACEMENT CHARACTERcLIQUE ANGLE OPENING DOWNwUPiHYPHENcSERVER EY
E SYMBOLbCR AMOUNT OF CHECKeBELT BUCKLEfOW TIEfRANCH BANK IDENTIFICATIONeCHAIRfUSTOMER ACCOUNT NUM
BEReDASHfOUBLE BACKSLASHeFORKeHOOKeINVERTED FORKcTAGONAL SIGNdOPUSbDENbFFICE BUILDINGbGHAM FEATHE
R MARKgLETTER AILMnBEITHnCEIRToOLLnDAIRnEABHADHpDHADHpMHANCHOLLnFEARNnGORTnIFINoODHADHnLUISnMUINnN
GEADALoIONnONNoRnPEITHnRUISnSAILoTRAIFnTINNEnUATHoILLEANNoRgREVERSED FEATHER MARKgSPACE MARKcONEKb
HM SIGNbIL DRUMbK HAND SIGNbL CHIKI AHADjDIGIT EIGHTpFIVEqOURpNINEpONEpSEVENqIXpTHREEqWOpZEROjGAAH
LAA TTUDDAAGjLETTER AAJsKsMsWrGrLrNGrTqEDDrNrPrRRqIHrNYrRrSqLAsArErIrOrUqOBrHrTTrVqUCrDrNNrYjMU TT
UDDAGl-GAAHLAA TTUDDAAGjPHAARKAAkUNCTUATION DOUBLE MUCAADvMUCAADjRELAAcD CHINESE HOOK MARKmITERATI
ON MARKeHUNGARIAN CAPITAL LETTER AzfAzfKzfMBzfNDzeCLOSE EzeEzfBzfCzgHzgSzfDzfEzfFzfGzgYzfHzfJzfKzf
LzgYzfMzgPzfNzgCzgTzh-SHAPED SIGNzgYzfPzfRzfSzgZzfTzgYzfVzfZzgSzeIzfIzeNIKOLSBURG OEzpUEzeOzfEEzfO
zeRUDIMENTA OEzoUEzeSHORT ERzeUzfNKzfSzfUoNUMBER FIFTYxVEvONEy HUNDREDzaTHOUSANDvTENoSMALL LETTE
R AzdAzdKzdMBzdNDzcCLOSE EzcEzdBzdCzeHzeSzdDzdEzdFzdGzeYzdHzdJzdKzdLzeYzdMzePzdNzeCzeTzf-SHAPED SI
GNzeYzdPzdRzdSzeZzdTzeYzdVzdZzeSzcIzdIzcNIKOLSBURG OEznUEzcOzdEEzdOzcRUDIMENTA OEzmUEzcSHORT ERzcU
zdNKzdSzdUeITALIC LETTER AsBEsCHEsDEsEtFtKStLtMtNtRuStSuHuSsHEsItIsKAtEtHEtUsNORTHERN TSEsOsPEtHEs
SHEtOUTHERN TSEsTEtHEsUtUsVEsYEsZElNUMERAL FIFTYvVEtONEtTENeKEYeNORTH ARABIAN LETTER AINzbLEFzaBEH
zaDADzcLzaES-1zd2zd3zaFEHzaGEEMzbHAINzaHAHzbEHzaKAFzbHAHzaLAMzaMEEMzaNOONzaQAFzaREHzaSADzaTAHzbEHz
bHALzcEHzaWAWzaYEHzaZAHzcINsNUMBER ONEzaTENzbWENTYePERMIC LETTER ANsBURsCHERYsDOItZHOIuITAsEtFsGAI
sHAsItAtEsKOKEsLEIsMENOEsNENOEsOtOsPEEIsREIsSHCHOOIuOOItIIsTAItSIUsUsVERtOOIsYAuTtERvIvUtRYtUsZATA
tHOIhSIAN NUMBER HUNDREDtONEtTENuWENTYvOmSIGN AsURAMAZDAAzc-2zcHArBAtGAsUUMISHrCArDAtHYAAUSHzb-2sI
sUrFArGAsUrHArIrJAsIrKAsUrLArMAsIsUrNAsUrPArRAsUrSAsHAsSArTAsHAsUrUrVAsIrXAsSHAAYATHIYArYArZAmWOR
D DIVIDERiONAL COMPUTEReSOGDIAN FRACTION ONE HALFmLETTER ALEPHvTERNATE AYINuYINtBETHtFINAL ALEPHza
BETHzaHEzaNUNzd WITH VERTICAL TAILzaSADHEzf WITH VERTICAL TAILzaTAWzd WITH VERTICAL TAILtGIMELtHEv
THtKAPHtLAMEDHtMEMtNUNtPEtRESH-AYIN-DALETHtSADHEvMEKHuHINtTAWtWAWtYODHtZAYINnIGATURE AYIN-DALETHmN
UMBER FIVEuOURtONEw HUNDREDtTENuHIRTYvREEuWENTYvOgUTH ARABIAN LETTER ALEFzbYNzaBETHzaDALETHzbHADHE
zdLETHzaFEzaGHAYNzbIMELzaHEzcTHzaKAPHzbHETHzaLAMEDHzaMEMzaNUNzaQOPHzaRESHzaSADHEzcMEKHzcTzbHINzaTA
WzbETHzbHAWzcETHzaWAWzaYODHzaZAYNsNUMBER FIFTYzaONEvERIC INDICATOReTURKIC LETTER ORKHON AzbBzbDzbE
BzcDzcGzcKzcLzcNzcRzcSzcTzcYzbGzbLzbNzbQzbRzbSzcHzbTzbYzaBASHzaECzbLTzbMzbNCzcGzcTzcYzbPzbSHzbZzaI
zbCzbQzaOzbEzcKzbPzbQzbTsYENISEI AzcBzcDzcEzdBzdGzdKzdNzeGzdTzdYzcGzcLzcNGzcQzcRzcSHzcTzcYzbEzcCzc
NCzdTzdYzcSHzcZzbIzcQzbOEzdKzcQeUYGHUR COMBINING DOT ABOVEzaBELOWvTWO DOTS ABOVEzfBELOWlLETTER ALE
PHsBETHsFINAL HETHsGIMEL-HETHsKAPHsLAMEDHtESHsMEMsNUNsPEsRESHsSADHEuMEKHtHINsTAWsWAWsYODHsZAYINlPU
NCTUATION BARxFOUR DOTSxTWO BARSzcDOTSdER ADULTgMANgWOMANcIVEbM SYMBOLbN WITH EXCLAMATION MARK WIT
H LEFT RIGHT ARROW ABOVEcCOMING AUTOMOBILEjBUSjFIRE ENGINEjPOLICE CARjTAXIcE BUTTON MOUSEeDOT LEAD
ERiOVER TWO DOTS PUNCTUATIONd-PIECE SWIMSUITcIONbPEN BOOKhXfCENTRE ASTERISKmBLACK STARmCROSSmTEARD
ROP-SPOKED ASTERISKfFILE FOLDERgOLDERfHANDS SIGNfLOCKfMAILBOX WITH LOWERED FLAGsRAISED FLAGfSUBSET
hPERSETe-CIRCUIT-OUTPUT H-TYPE SYMBOLuL-TYPE SYMBOLfOUTLINED RIGHTWARDS ARROWdRATING SYSTEM COMMAN
DcHIUCHUScPOSITIONcTICAL DISCm ICONeON KEYbR WITH DOT INSIDEcANGE BOOKhHEARTfUTANcIGINAL OFdYA A
I LENGTH MARKhU LENGTH MARKgDIGIT EIGHTmFIVEnOURmNINEmONEmSEVENnIXmTHREEnWOmZEROgFRACTION ONE EIGH
THtHALFtQUARTERtSIXTEENTHpTHREE QUARTERSvSIXTEENTHSgISSHARgLETTER AoAoIoUnBAoHAnCAoHAnDAoDApHAoHAn
EnGAoHAnHAnIoInJAoHAnKAoHAnLAoLAnMAnNAoGAoNAoYAnOnPAoHAnRAoHAoRAnSAoHAoSAnTAoHAoTApHAnUoUnVAoOCALI
C LwLvRwRnWAnYAoYAgSIGN ANUSVARAmVAGRAHAlCANDRABINDUlNUKTAlOVERLINElVIRAMAnSARGAgVOWEL SIGN AAsIsU
rErIsIrOrUsUrVOCALIC LzbLzaRzbRcNATE LEFT PARENTHESIShRIGHT PARENTHESIScTHODOX CROSSbSAGE CAPITA
L LETTER AwHwIxNvBRAvCHAvDHAvEwHCHAxKAxPAxTAySAwINvGHAvHAwYAvIvKAwHAwYAvLAvMAvNAvOwINvPAvSAwHAvTAw
SAxHAvUvWAvZAwHAgSMALL LETTER AuHuIvNtBRAtCHAtDHAtEuHCHAvKAvPAvTAwSAuINtGHAtHAuYAtItKAuHAuYAtLAtMA
tNAtOuINtPAtSAuHAtTAuSAvHAtUtWAtZAuHAcCcMANYA DIGIT EIGHToFIVEpOURoNINEoONEoSEVENpIXoTHREEpWOoZERO
iLETTER AqAqLEFpBApCAYNpDEELqHApEqEpFApGApHApIpJApKAAFqHApLAANpMIINpNUUNpOqOpQAAFpRApSAqHIINpTApUp
WAWpXApYAbTTERdOMAN SIYAQ ALTERNATE NUMBER EIGHTzgFIVEzhOURzk HUNDREDzgNINEzgSEVENzhIXzj HUNDREDzg
TENzj THOUSANDzhHREEzhWOzj THOUSANDoFRACTION ONE HALFzcSIXTHoMARRATANoNUMBER EIGHTzb HUNDREDzcTHOU
SANDzbYzc THOUSANDvFIFTYzb THOUSANDxVEza HUNDREDzbTHOUSANDwORTYzb THOUSANDxURza HUNDREDzbTHOUSANDv
NINEza HUNDREDzbTHOUSANDzaTYzc THOUSANDvONEy HUNDREDzaTHOUSANDvSEVENzb HUNDREDzcTHOUSANDzbTYzd THO
USANDwIXy HUNDREDzaTHOUSANDyTYzb THOUSANDvTENy THOUSANDwHIRTYzc THOUSANDxREEzb HUNDREDzcTHOUSANDwW
ENTYzc THOUSANDxOy HUNDREDzaTHOUSANDbUNCE SIGNcTBOX TRAYdLINED BLACK STARjGREEK CROSSjLATIN CROSSj
WHITE STARbVERHEATED FACEeLAPhPING BLACK SQUARESmWHITE AND BLACK SQUARESsSQUARESfINEbWLbXbYSTERaPA
CKAGEcDdDING CHARACTERcGEe FACING UPfWITH CIRCLED TEXTlURLeReSdODAcHAWH HMONG CLAN SIGN FAJxHAMzaW
JxKHAByOOyWMxLAUJyISxMUASxPHABxTHOJySABzaHEEJzaWBxVAJyWJxXYOOJxYAJyEEGoONSONANT AUxCAUyHAUxHAUyLAU
yNAUxLAUxMAUxNAUyCHAUyKAUyLAUyTHAUzaSAUxPLHAUxQHAUxRAUxVAUxXAUxYAUnDIGIT EIGHTtFIVEuOURtNINEtONEtS
EVENuIXtTHREEuWOtZEROnMARK CIM HOMwKESxHAVwSOxUAMwTAUMxUBnNUMBER HUNDRED MILLIONSzcSuMILLIONSuTE
N BILLIONSyTHOUSANDSxSvRILLIONSnSIGN AVsCIM CHEEMxUAM TSHOOJwHAIS LUS NTOG NTOGwNRES TOSwPUB DAWBw
TSOV ROGxXWVzb CHWVsHLItNUBsIB YAMsLOSsMEEJ SUABxTSEEBtUSsNQIGtTUJsTAUtHIRD-STAGE HLItXHEEJ CEEVsV
OS FEEMwLUBwNRUAwSEEVwTHIAByOMxSHAB CEEBsXAUStIABtYEEM FAIByNTXIVyRHOyTOVuOOsZWJ THAJnVOWEL KAABwV
vBvIBwVvUBwVvVvWBwVuEBvEBwVvVuIABwVvBvVuOBvOBwVvVuUABwVvBvVuWBvVcLLASdM BRANCHfDOWN HANDfTREEfUP H
ANDeS UP TOGETHEReYRENE LEFT-POINTING FLEURONmTTER ALEPHsYINrBETHrDALETHrFINAL NUNrGIMELrHEtTHrKAP
HrLAMEDHrMEMrNUNrPErQOPHrRESHrSADHEtMEKHsHINrTAWsETHrWAWrYODHrZAYINkNUMBER FIVEsOURrONErTENsHREEsW
ENTYtOkRIGHT-POINTING FLEURONcNCAKESdDA FACEcPERCLIPcRACHUTEeGRAPH SEPARATORjOSjUS MARKeLLEL TOjWI
TH HORIZONTAL STROKEoTILDE OPERATORdENTHESIZED DIGIT EIGHTuFIVEvOURuNINEuONEuSEVENvIXuTHREEvWOoHAN
GUL CHIEUCHzd AwIEUCzb AzcUvHIEUHzb AvIEUNGzb AvKHIEUKHzd AwIYEOKzc AvMIEUMzb AvNIEUNzb AvPHIEUPHz
d AwIEUPzb AvRIEULzb AvSIOSza AvTHIEUTHzd AwIKEUTzc AoIDEOGRAPH ALLIANCEyCALLzaONGRATULATIONyEARTH
zaIGHTzaNTERPRISEyFESTIVALzaINANCIALzbREzbVEzaOURyHAVEyLABORyMETALzaOONyNAMEzaINEyONEyREACHzbPRESE
NTzbSOURCEzcTySELFzbVENzaIXzaOCIETYzaPECIALzaTOCKzbUDYzaUNzbPERVISEyTENzaHREEzaWOyWATERzaOODoKOREA
N CHARACTER O HUzhJEONoLATIN CAPITAL LETTER AzkBzkCzkDzkEzkFzkGzkHzkIzkJzkKzkLzkMzkNzkOzkPzkQzkRzk
SzkTzkUzkVzkWzkXzkYzkZuSMALL LETTER AziBziCziDziEziFziGziHziIziJziKziLziMziNziOziPziQziRziSziTziUz
iVziWziXziYziZoNUMBER EIGHTEENwLEVENvFIFTEENwOURTEENvNINETEENvSEVENTEENwIXTEENvTENwHIRTEENwWELVEyN
TYdROTdT ALTERNATION MARKeIAL DIFFERENTIALiLINE BACKWARDnDOWNnFORWARDnUPhLY-RECYCLED PAPER SYMBOLe
NERSHIP SIGNeY POPPERcSSED SYMBOLfNGER SHIPeIVE-PULL-DOWN-OUTPUT SYMBOLnUP-OUTPUT SYMBOLePORT CONT
ROLcU CIN HAU GLOTTAL STOPy FINALzaVARIANTmLETTER AtBAtCAuHAtDAtEtFAuINAL KzaLzaMzaNzbGzaPzaTzaWza
YtGAtHAtIuAtKAuHAtLAtMAtNAuGAtOtPAuHAtRAtSAtTAuHAtUuAtVAtZAnOW-FALLING TONEzd FINALzeLONGzi FINALm
MID-LEVEL TONEzb FINALzcLONG FINALmRISING TONEx FINALyLONGzd FINALmSANDHI GLOTTAL STOPzg FINALtTON
Ex FINALyLONGzd FINALcW PRINTSbDFcIbEACE SYMBOLeHeOCKdNUTSdRcDESTRIANcN OVER STAMPED ENVELOPEdCILd
GUINdSIVE FACEdTAGRAMcOPLE HUGGINGcR MILLE SIGNeSIGNeTEN THOUSAND SIGNdCENT SIGNdFORMING ARTSdMANE
NT PAPER SIGNdPENDICULARn WITH SdSEVERING FACEeON BOWING DEEPLYhCLIMBINGhDOING CARTWHEELhFROWNINGh
IN LOTUS POSITIONkSTEAMY ROOMhRAISING BOTH HANDS IN CELEBRATIONhWITH BALLnLOND HAIRmCROWNmFOLDED H
ANDSmHEADSCARFmPOUTING FACEgAL COMPUTERePECTIVEcSETA SIGNdO SIGNcTRI DISHbHAGS-PA DOUBLE HEAD MARK
jLETTER ArLTERNATE YArSPIRATED FAqBAqCAsNDRABINDUrHAqDArDArZAqErEqFAqGArGAqHAqIqJAqKArHAqLAqMAqNAr
GArNArYAqOqPArHAqQAqRAqSArHArMALL AqTArHArSAsHArTAsHAqUqVOICED HAvLESS SHAqWAqXAqYAqZArHAjMARK DOU
BLE SHADoSHADjSINGLE HEAD MARKkUBJOINED LETTER RAzbWAzbYAlPERFIXED LETTER RAdISTOS DISC SIGN ARROW
tBEEwHIVEuOOMERANGvWuULLS LEGtCAPTIVEvRPENTRY PLANEvTuHILDuLUBuOLUMNvMBxINING OBLIQUE STROKEtDOLIU
MvVEtEAGLEtFLUTEtGAUNTLETuRATERtHELMETuIDEuORNtLIDvLYtMANACLESvTTOCKtOX BACKtPAPYRUSuEDESTRIANuLAN
E TREEvUMED HEADtRAMuOSETTEtSAWuHIELDwPuLINGuMALL AXEuTRAINERtTATTOOED HEADuIARAuUNNYtVINEtWAVY BA
NDuOMANcILIPPINE DOUBLE PUNCTUATIONlSINGLE PUNCTUATIONcOENICIAN LETTER AINtLFsBETsDELTsGAMLsHEuTsK
AFsLAMDsMEMsNUNsPEsQOFsROSHsSADEtEMKtHINsTAUtETsWAUsYODsZAIlNUMBER ONEv HUNDREDsTENtHREEtWENTYuOlW
ORD SEPARATORdLUSbICKeUP TRUCKcEcGd FACEeNOSEcLCROW SIGNdE OF POOdLcNATAdCHED FINGERSfING HANDdE D
ECORATIONeAPPLEdWHEEL STARcSCESdTOLcTCHFORKj WITH TEE TOPbLACARDeE OF INTEREST SIGNjWORSHIPdNCK CO
NSTANTp OVER TWO PIdYGROUND SLIDEeING CARD ACE OF CLUBSuDIAMONDSuHEARTSuSPADESnBACKoLACK JOKERnEIG
HT OF CLUBSwDIAMONDSwHEARTSwSPADESnFIVE OF CLUBSvDIAMONDSvHEARTSvSPADESoOOLpUR OF CLUBSvDIAMONDSvH
EARTSvSPADESnJACK OF CLUBSvDIAMONDSvHEARTSvSPADESnKING OF CLUBSvDIAMONDSvHEARTSvSPADESoNIGHT OF CL
UBSxDIAMONDSxHEARTSxSPADESnNINE OF CLUBSvDIAMONDSvHEARTSvSPADESnQUEEN OF CLUBSwDIAMONDSwHEARTSwSPA
DESnRED JOKERnSEVEN OF CLUBSwDIAMONDSwHEARTSwSPADESoIX OF CLUBSuDIAMONDSuHEARTSuSPADESnTEN OF CLUB
SuDIAMONDSuHEARTSuSPADESoHREE OF CLUBSwDIAMONDSwHEARTSwSPADESoRUMP-1u0u1u2u3u4u5u6u7u8u9t2u0u1t3t4
t5t6t7t8t9oWO OF CLUBSuDIAMONDSuHEARTSuSPADESnWHITE JOKERcDcUdNGERdS SIGNj ABOVE EQUALS SIGNkIN LE
FT HALF CIRCLEnRIGHT HALF CIRCLEnTRIANGLEkWITH BLACK TRIANGLEpCIRCUMFLEX ACCENT ABOVEpDOT BELOWpSM
ALL CIRCLE ABOVEqUBSCRIPT TWOpTILDE ABOVEvBELOWe-MINUS SIGNdTOf FORM FIVEmOURlTHREEmWObMbOCKET CAL
CULATORcLICE CARkS REVOLVING LIGHThOFFICERcODLEcP DIRECTIONAL FORMATTINGqISOLATEdCORNcRTABLE STERE
OcSEIDONdITION INDICATORdTAL HORNhMARKl FACEeBOXcT OF FOODdABLE WATER SYMBOLeTOdTED PLANTcUCHdLTR
Y LEGdND SIGNdRING LIQUIDdTING CAT FACEiFACEcWER ON SYMBOLi-OFF SYMBOLgSLEEP SYMBOLhYMBOLbRAYER BE
ADScECEDESi ABOVE ALMOST EQUAL TOpEQUALS SIGNpNOT ALMOST EQUAL TOtEQUAL TOpSINGLE-LINE EQUALS SIGN
zcNOT EQUAL TOjBUT NOT EQUIVALENT TOjOR EQUAL TOpIVALENT TOjUNDER RELATIONdGNANT MANjPERSONjWOMANd
SCRIPTION TAKEeENTATION FORM FOR VERTICAL COLONziMMAzgEM DASHzhN DASHzhXCLAMATION MARKzgHORIZONTA
L ELLIPSISzgIDEOGRAPHIC COMMAzsFULL STOPzgLEFT ANGLE BRACKETzlBLACK LENTICULAR BRACKETzlCORNER BRA
CKETzmURLY BRACKETzlDOUBLE ANGLE BRACKETzlPARENTHESISzlSQUARE BRACKETzlTORTOISE SHELL BRACKETzlWHI
TE CORNER BRACKETzrLENTICULAR BRACKETzhOW LINEzgQUESTION MARKzgRIGHT ANGLE BRACKETzmBLACK LENTICUL
AR BRACKETzmCORNER BRACKETznURLY BRACKETzmDOUBLE ANGLE BRACKETzmPARENTHESISzmSQUARE BRACKETzmTORTO
ISE SHELL BRACKETzmWHITE CORNER BRACKETzsLENTICULAR BRACKETzzhKCETzgSEMICOLONzgTWO DOT LEADERzgWAV
Y LOW LINEdTZELdVIOUS PAGEcIMEdNCEgSSeT SCREEN SYMBOLfERh ICONdVACY MESSAGEfTE USE ONEmTWOl-1m2cOB
ING CANEdHIBITED SIGNdJECTIVEdPERTY LINEeORTIONkAL TOdSERPINAbSALTER PAHLAVI FOUR DOTS WITH CROSSz
gDOTqLETTER ALEPHxBETHxDALETHxGIMELxHEzaTHxKAPHxLAMEDHxMEM-QOPHxNUNxPExSADHEzaMEKHyHINxTAWxWAW-AYI
N-RESHxYODHxZAYINqNUMBER FOURxONEzb HUNDREDxTENyHREEyWENTYzaOqSECTION MARKqTURNED SECTION MARKbU1c
2cBLIC ADDRESS LOUDSPEAKERcNCTUATION SPACEgS ELEVATUS MARKcRPLE HEARTdSEcSHPINcT LITTER IN ITS PLA
CE SYMBOLaQUADRANT LOWER LEFTpRIGHTjUPPER LEFTt AND LOWER LEFT AND LOWER RIGHTzfRIGHTyUPPER RIGH
T AND LOWER LEFTzvRIGHTpRIGHTu AND LOWER LEFTzk AND LOWER RIGHTfUPLE INTEGRAL OPERATORkPRIMEdRTE
R NOTEdTERNION INTEGRAL OPERATORcESTION EXCLAMATION MARKjMARKiED EQUAL TOcINCUNXcOTATION MARKaRABB
ITg FACEcCCOONdING CARhMOTORCYCLEcDICAL SYMBOL BOTTOMeOf BUTTONfACTIVE SIGNcILWAY CARiTRACKdNeBOWd
SED BACK OF HANDhCOMMAhDOTkTED INTERPOLATION MARKERhFISThHANDl WITH FINGERS SPLAYEDrPART BETWEEN M
IDDLE AND RING FINGERShINTERPOLATION MARKERhMC SIGNiD SIGNiR SIGNhSQUAREcMcTdIOcZORbECEIPTdORD SEP
ARATORdREATIONAL VEHICLEdYCLED PAPER SYMBOLgING SYMBOL FOR GENERIC MATERIALSvTYPE-1 PLASTICSzb2 PL
ASTICSzb3 PLASTICSzb4 PLASTICSzb5 PLASTICSzb6 PLASTICSzb7 PLASTICScD APPLEeGIFT ENVELOPEcFERENCE M
ARKcGIONAL INDICATOR SYMBOL LETTER AziBziCziDziEziFziGziHziIziJziKziLziMziNziOziPziQziRziSziTziUzi
VziWziXziYziZeSTERED SIGNcJANG CONSONANT SIGN HwNxGwRhLETTER AoBAoCAoDAoGAoHAoJAoKAoLAoMApBAoNApDA
pGAqGApYAqJAoPAoRAoSAoTAoWAoYAhSECTION MARKhVIRAMAiOWEL SIGN AItUsEtAtUsIsOsUcLIEVED FACEcMINDER R
IBBONcPLACEMENT CHARACTERcSPONSEdTRICTED LEFT ENTRY-1w2fOOMcTURN LEFThRIGHThSYMBOLcVERSE CHECKER B
OARDiINDEXiLIGHT FOUR POINTED PINWHEEL STARkNE FEEDiSOLIDUSp OPERATORqPRECEDING SUBSETqWITH HORIZO
NTAL STROKEiTILDE OPERATOR ABOVE LEFTWARDS ARROWzeRIGHTWARDS ARROWhD ANGLEo WITH UNDERBARjCOMMAjDO
UBLE PRIMEv QUOTATION MARKqSTROKE NOT SIGNjEMPTY SETjFORKED PARAGRAPHOSjHAND WITH MIDDLE FINGER EX
TENDEDjNOT SIGNjPILCROW SIGNkRIMEjQUESTION MARKjRAISED HAND WITH FINGERS SPLAYEDkIGHT ANGLEkOTATE
D FLORAL HEART BULLETjSANS-SERIF CAPITAL LkEMICOLONjTHUMBS DOWN SIGNqUP SIGNkILDEo EQUALSkRIPLE PR
IMEjVICTORY HANDdOLVING HEARTSbHINOCEROSbIcAL SIGNcBBONg ARROW DOWN LEFTsRIGHTnLEFT DOWNsUPnRIGH
T DOWNtUPnUP LEFTqRIGHTcCE BALLfCRACKERcFLEcGHT AND LOWER ONE EIGHTH BLOCKkUPPER ONE EIGHTH BLOCKi
GER BUBBLEjLEl BRACKETt WITH DOTmDOTTED SUBSTITUTION MARKERmSUBSTITUTION MARKERmVARIANT WITH SQUAR
EmWITH ARCrDOWNWARDS ZIGZAG ARROWhRC GREATER-THAN BRACKETiROW WITH CIRCLED PLUSrSMALL CIRCLEgBLAC
K LENTICULAR BRACKETmTORTOISE SHELL BRACKETgCEILINGhORNER BRACKEThURLY BRACKETt LOWER HOOKuMIDDL
E PIECEuUPPER HOOKgDOTTED SUBSTITUTION BRACKETiUBLE ANGLE BRACKEToRROW WITH ROUNDED HEADnPARENTHES
ISnQUOTATION MARKnWIGGLY FENCEgFISH TAILiVE EIGHTHS BLOCKhLOORgHALF BLACK CIRCLErSTARnOCKlFOLDERlM
EDIUM SHADElRUNNING MANiND TELEPHONE RECEIVERgLOW PARAPHRASE BRACKETgNORMAL FACTOR SEMIDIRECT PROD
UCTgONE EIGHTH BLOCKkQUARTER BLOCKhPEN SQUARED DOThUTER JOINgPARENTHESISr EXTENSIONsLOWER HOOKsUPP
ER HOOKgRAISED OMISSION BRACKETgS-SHAPED BAG DELIMITERhEMIDIRECT PRODUCTiVEN EIGHTHS BLOCKhIDEWAY
S U BRACKETiNGLE QUOTATION MARKhPEAKERn WITH ONE SOUND WAVEtTHREE SOUND WAVESjECH BUBBLEhQUARE BRA
CKETu EXTENSIONvLOWER CORNERvUPPER CORNERvWITH DOUBLE STROKEzbQUILLzbSTROKEzbTICK IN BOTTOM CORNER
zjTOP CORNERzbUNDERBARhUBSTITUTION BRACKETgTACKhHIRD WHITE RIGHT POINTING INDEXiOUGHT BUBBLEiREE E
IGHTHS BLOCKmQUARTERS BLOCKhORTOISE SHELL BRACKEThRANSPOSITION BRACKETiIANGLEo ABOVE LEFT TRIANGLE
mULAR ONE QUARTER BLOCKgVERTICAL BAR WITH QUILLqOX LINEgWHITE CORNER BRACKETnURLY BRACKETmLENTICUL
AR BRACKETmPARENTHESISmSQUARE BRACKETmTORTOISE SHELL BRACKEThIGGLY FENCEf-FACING ARMENIAN ETERNIT
Y SIGNnFISTnSVASTI SIGNy WITH DOTSgHANDED INTERLACED PENTAGRAMgPOINTING ANGLE BRACKETpCURVED ANGL
E BRACKETpDOUBLE ANGLE QUOTATION MARKpMAGNIFYING GLASSgSHADED WHITE RIGHTWARDS ARROWhIDE ARC CLOCK
WISE ARROWgTO-LEFT EMBEDDINGoISOLATEoMARKoOVERRIDEfHAND INTERIOR PRODUCTfWARDS ARROWq ABOVE ALMOS
T EQUAL TOxREVERSE ALMOST EQUAL TOzgTILDE OPERATORxSHORT LEFTWARDS ARROWxTILDE OPERATORsND UPPER A
ND LOWER ONE EIGHTH BLOCKrFROM BARza TO BLACK DIAMONDrOVER LEFTWARDS ARROWrTHROUGH GREATER-THANzaS
UPERSETzaXsO BARvLACK DIAMONDrWITH CORNER DOWNWARDSwDOTTED STEMyUBLE VERTICAL STROKEwEQUILATERAL A
RROWHEADwHOOKwLARGE TRIANGLE ARROWHEADxOOPwMEDIUM TRIANGLE ARROWHEADwNOTCHED TAILwPLUS BELOWwSMAL
L EQUILATERAL ARROWHEADzdTRIANGLE ARROWHEADxTROKEwTAILzb WITH DOUBLE VERTICAL STROKEzhVERTICAL STR
OKExIP DOWNWARDSzbUPWARDSwVERTICAL STROKEq-TAILlBACK-TILTED SHADOWED WHITE ARROWmLACK ARROWrCIRCLE
D WHITE ARROWmOTTOM SHADED WHITE ARROWlCOMPRESSED ARROWlDASHED ARROWmOUBLE ARROWx FROM BARyWITH ST
ROKEzeVERTICAL STROKEx-TAILsDASH ARROWlFINGER-POST ARROWmRONT-TILTED SHADOWED WHITE ARROWlHANDnRPO
ON OVER LEFTWARDS HARPOONtWITH BARB DOWN ABOVE LEFTWARDS HARPOON WITH BARB DOWNzjBELOW LONG DASHzj
FROM BARzjTO BARziWARDSzeUP ABOVE LEFTWARDS HARPOON WITH BARB UPzoONG DASHznRIGHTWARDS HARPOON WIT
H BARB DOWNzhFROM BARzhTO BARzgWARDSmEAVY ARROWrCOMPRESSED ARROWlLEFT-SHADED WHITE ARROWlOPEN-HEAD
ED ARROWlPAIRED ARROWSlQUADRUPLE ARROWlRIGHT-SHADED WHITE ARROWmOCKETlSANS-SERIF ARROWmQUARED ARRO
WoIGGLE ARROWlTOP SHADED WHITE ARROWmRIANGLE ARROWHEADt-HEADED ARROWzh OVER LEFTWARDS TRIANGLE-HEA
DED ARROWziTO BARziWITH BOLD SHAFTznDOUBLE HORIZONTAL STROKEzuVERTICAL STROKEznHEAVY SHAFTznLONG T
IP DOWNWARDSzwUPWARDSznMEDIUM SHAFTznNARROW SHAFTznVERY HEAVY SHAFTzcDASHED ARROWzcPAIRED ARROWSoP
LE ARROWsDASH ARROWmWO HEADED ARROWo-HEADED ARROW FROM BARzdWITH DOUBLE VERTICAL STROKEziTAILzm WI
TH DOUBLE VERTICAL STROKEzsVERTICAL STROKEzjRIANGLE ARROWHEADSziVERTICAL STROKEwTRIPLE DASH ARROWl
WAVE ARROWmHITE ARROWw FROM WALLxWITHIN TRIANGLE ARROWHEADcNGe ABOVEfBUOYfEQUAL TOfIN EQUAL TOfOPE
RATORfPOINTeED PLANETeING BELLcSING DIAGONAL CROSSING FALLING DIAGONALzaSOUTH EAST ARROWbLEcIcMcOb
OASTED SWEET POTATOcBOT FACEcCKeETcLL OF PAPEReED-UP NEWSPAPERfR COASTERhSKATEeING ON THE FLOOR LA
UGHINGcMAN AS SIGNgCENTURIAL SIGNgDENARIUS SIGNhIMIDIA SEXTULA SIGNhUPONDIUS SIGNgNUMERAL EIGHTpLE
VENoFIFTYt EARLY FORMuTHOUSANDqVEs HUNDREDtTHOUSANDpOURoNINEoONEr HUNDREDza THOUSANDsTHOUSANDz
b C DoREVERSED ONE HUNDREDoSEVENpIXr LATE FORMoTENr THOUSANDpHREEpWELVEqOgQUINARIUS SIGNgSEMUNCI
A SIGNiSTERTIUS SIGNiXTANS SIGNkULA SIGNhILIQUA SIGNgUNCIA SIGNcOSTERcSEeTTEcTATED CAPITAL QiFLORA
L HEART BULLETiHEAVY BLACK HEART BULLETiLIGHT FOUR POINTED BLACK CUSPiWHITE FOUR POINTED CUSPcUN
D PUSHPINgTARGETfED SYMBOL FOR CAItFUtLUtSHOUvUANGXItXIcWBOATbSbUBLE SIGNcGBY FOOTBALLcLE-DELAYEDc
MI DIGIT EIGHTlFIVEmOURlNINElONElSEVENmIXlTHREEmWOfFRACTION ONE HALFsQUARTERsTHIRDoTWO THIRDSfNUMB
ER EIGHT HUNDREDrYmFIFTYoVE HUNDREDnORTYoUR HUNDREDmNINE HUNDREDqTYmONE HUNDREDmSEVEN HUNDREDrTYnI
X HUNDREDpTYmTENnHIRTYoREE HUNDREDnWENTYoO HUNDREDcNIC ARLAUG SYMBOLgBELGTHOR SYMBOLgCROSS PUNCTUA
TIONgLETTER AC AoESCoLGIZ EOLHXoNSUZ AnBERKANAN BEORC BJARKAN BnCoALCoEALCpNoWEORTHnDoAGAZ DAEG Do
OTTED-LuNuPnEoARoHWAZ EH EoNGoTHnFEHU FEOH FE FoRANKS CASKET ACzdESCzcEHzcISzcOSnGoARoEBO GYFU GpR
nHAEGL HpGLAZ HnICELANDIC-YRoNGqWAZoORoSAZ IS ISS IoWAZ EOHnJERAN JnKoAUN KrAnLAUKAZ LAGU LOGR LoO
NG-BRANCH-AR AEzaHAGALL HzaMADR MzaOSS OzaYRnMANNAZ MAN MnNAUDIZ NYD NAUD NnOoEoNoOoPEN-PoS OoTHAL
AN ETHEL OnPERTHO PEORTH PnQnRAIDO RAD REID RnSHpORT-TWIG-AR AyBJARKAN ByHAGALL HyMADR MyNAUD NyOS
S OySOL SyTYR TyYRoIGEL LONG-BRANCH-SOL SoOWILO SoTANnTHURISAZ THURS THORNoIWAZ TIR TYR TnURUZ U
R UnVnWoUNJO WYNN WnXnYoRnZgMULTIPLE PUNCTUATIONgSINGLE PUNCTUATIONgTVIMADUR SYMBOLdNEReING SHIR
T WITH SASHcPEE SIGNcSSIAN ASTROLOGICAL SYMBOL BINOVILEzdNOVILEzdQUINTILEzdSENTAGONzdTREDECILEzdVI
GINTILEaS IN TRIANGLEbAFETY PINhVESTcGITTARIUScILBOATcKE BOTTLE AND CUPcLT SHAKEReIREdUTING FACEcM
ARITAN ABBREVIATION MARKkLETTER ALAFrBAAsITrDALATrFIrGAMANrINsTsYrKAAFrLABATrMIMrNUNrQUFrRISHrSHAN
sINGAATrTAAFsITsSAADIYrYUTrZENkMARK DAGESHpEPENTHETIC YUTpINr-ALAFpNEQUDAApOCCLUSIONlODIFIER LETTE
R EPENTHETIC YUTzbIzbSHORT AkPUNCTUATION AFSAAQxNGEDyNAAUxRKAANUxTMAAUwBAUwMELODIC QITSAwNEQUDAAwQ
ITSAwSHIYYAALAAxOF MASHFAATwTURUwZAEFxIQAAkVOWEL SIGN AwAvEvIvLONG AzcAzbEzbIzbUvOwVERLONG AzgAvSH
ORT AwUKUNvUcNDWICHdS-SERIF HEAVY DOUBLE COMMA QUOTATION MARK ORNAMENTyTURNED COMMA QUOTATION MAR
K ORNAMENTrLOW DOUBLE COMMA QUOTATION MARK ORNAMENTlINTERROBANG ORNAMENTcRIcTELLITEj ANTENNAdURNcU
RASHTRA CONSONANT SIGN HAARUlDANDAmIGIT EIGHTrFIVEsOURrNINErONErSEVENsIXrTHREEsWOrZEROmOUBLE DANDA
lLETTER AtAtItUsBAtHAsCAtHAsDAtDAuHAtHAsEtEsGAtHAsHAsItIsJAtHAsKAtHAsLAtLAsMAsNAtGAtNAtYAsOtOsPAtH
AsRAsSAtHAtSAsTAtHAtTAuHAsUtUsVAtOCALIC LzcLzbRzcRsYAlSIGN ANUSVARAqCANDRABINDUqVIRAMAsSARGAlVOWE
L SIGN AAxIxUwExEwIxIwOxOwUxUwVOCALIC LzgLzfRzgReOPODcXOPHONEbCALESdRFcHOOLg SATCHELcIcOOTERdRPION
gUScREENeWDRIVERdIPT CAPITAL BpEpFpHpIpLpMpPpRhLIGATURE ET ORNAMENThSMALL EnGnLnOdOLLdUPLEbEALdTcC
OND PLACE MEDALdTION SIGNeORcDNAcE-NO-EVIL MONKEYdDLINGcGMENThED DIGIT EIGHTqFIVErOURqNINEqONEqSEV
ENrIXqTHREErWOqZEROcLFIEcMICOLONeDIRECT PRODUCT WITH BOTTOM CLOSEDeSEXTILEcPARATED SYMBOLcRIOUS FA
CE WITH SYMBOLS COVERING MOUTHdVICE MARKcSAME DOTdQUIQUADRATEcT MINUSeTRANSMIT STATEcWING NEEDLEcX
TILEbGCbHADOWED WHITE CIRCLEpLATIN CROSSpSTARdLLOW PAN OF FOODdMROCKdRADA ABBREVIATION SIGNiCONTIN
UATION SIGNiDANDAjIGIT EIGHToFIVEpOURoNINEoONEoSEVENpIXoTHREEpWOoZEROjOUBLE DANDAiEKAMjXTRA SHOR
T VOWEL MARKiHEADSTROKEiLETTER AqAqIqUpBAqHApCAqHApDAqDArHAqHApEpGAqHApHApIqIpJAqHApKAqHApLAqLApMA
pNAqGAqNAqYApOpPAqHApRApSAqHAqSApTAqHAqTArHApUqUpVAqOCALIC LyLxRyRpYAiOMiSANDHI MARKjECTION MARK-1
v2kPARATORjIGN ANUSVARAoVAGRAHAnCANDRABINDUnINVERTED CANDRABINDUnJIHVAMULIYAnNUKTAnSIDDHAMnUPADHMA
NIYAnVIRAMApSARGAjUTRA MARKiVOWEL MODIFIER MARKoSIGN AAuIuUtEtIuItOtPRISHTHAMATRA EtUuUtVOCALIC Lz
dLzcRzdReKdVED ICEeIAN LETTER ADOqGEqHqIRqRErRAYqSHqWEpBIBpCHURCHpDEADpEARrTqGGqRRpFEEpGAGpHA-HAqU
NGpIANqCEqFpJUDGEpKICKpLOLLpMEASUREqIMEpNUNpOAKqILqNqOZEqRqUTpPEEPpROARpSOqUREpTHEYrIGHqOTpUPpVOWp
WOErOLpYEArWpZOOcEEPcIELDdFT INgOUTdNTO SHRINEdPcOCKED FACE WITH EXPLODING HEADdOTING STARdPPING B
AGSjTROLLEYdRT BACKSLANTED SOUTH ARROWhENT ARROW POINTING DOWNWARDS THEN NORTH EASTgDOWN TACKp WIT
H OVERBARgLEFT TACKgRIGHTWARDS ARROW ABOVE LEFTWARDS ARROWgSLANTED NORTH ARROWgUP TACKn ABOVE SHOR
T DOWN TACKoWITH UNDERBARfCAKEfHAND FORMAT CONTINUING OVERLAPrDOWN STEPrLETTER OVERLAPrUP STEPfSdU
LDERED OPEN BOXdWERcRIMPdUGcUFFLE PRODUCTcYbIcDDHAM DANDAjOUBLE DANDAiEND OF TEXT MARKiLETTER AqAq
IqLTERNATE UqUpBAqHApCAqHApDAqDArHAqHApEpGAqHApHApIqIpJAqHApKAqHApLApMApNAqGAqNAqYApOpPAqHApRApSAq
HAqSApTAqHArREE-CIRCLE ALTERNATE IqTArHAqWO-CIRCLE ALTERNATE IzmIpUqUpVAqOCALIC LyLxRyRpYAiREPETIT
ION MARK-1y2y3iSECTION MARK DOUBLE RINGzh WITH RAYSvWITH CIRCLES AND FOUR ENCLOSURESznRAYSznTWO EN
CLOSURESzbDOUBLE CRESCENTSzbQUADRUPLE CRESCENTSzbRAYS AND DOTTED CRESCENTSzrDOUBLE CRESCENTSzrTRIP
LE CRESCENTSzbSEPTUPLE CRESCENTSzbTRIDENT AND DOTTED CRESCENTSznU-SHAPED ORNAMENTSzePLE CRESCENTSk
PARATOR BARsDOTjIGN ANUSVARAnCANDRABINDUnNUKTAnSIDDHAMnVIRAMApSARGAiVOWEL SIGN AAuIuLTERNATE UzfUu
UtEtIuItOtUuUtVOCALIC RzdRdEWAYS BLACK DOWN POINTING INDEXpLEFT POINTING INDEXpRIGHT POINTING INDE
XpUP POINTING INDEXjWHITE DOWN POINTING INDEXpLEFT POINTING INDEXpRIGHT POINTING INDEXpUP POINTIN
G INDEXcGN OF THE HORNSeWRITING AIR BLOW SMALL ROTATIONSuING OUTqSUCK SMALL ROTATIONSuING INmBREAT
H EXHALEtINHALEoUSH BETWEENsMULTIPLEsSINGLEmCHEEKS NEUTRALtPUFFEDtSUCKEDnOLONoMMAmDREAMY EYEBROW
S DOWN NEUTRALzdNEUTRAL DOWNzlUPzdUP NEUTRALnYNAMIC ARROWHEAD LARGEzfSMALLuEVERY OTHER TIMEuFASTuG
RADUALuRELAXEDuSIMULTANEOUSzh ALTERNATINGvLOWuTENSEmEARSnXCITEMENTnYE BLINK MULTIPLEwSINGLEqWINKpB
ROWS STRAIGHT DOWNzfNEUTRALzfUPpGAZE-FLOORPLANE CURVEDzgSTRAIGHTzo ALTERNATINGzpDOUBLEuWALLPLANE C
IRCLINGzgURVEDzfSTRAIGHTzn ALTERNATINGzoDOUBLEpLASHES DOWNwFLUTTERINGwUPpS CLOSEDrHALF CLOSEDwOPEN
rOPENrSQUEEZEDrWIDE OPENvNING MOVEMENTmFACE DIRECTION POSITION NOSE FORWARD TILTINGzqUP OR DOWNzz
b TILTINGnILL MODIFIER-2zb3zb4zb5zb6oNGERnLICK LARGE MULTIPLEySINGLEsSEQUENTIALtMALL MULTIPLEySING
LEoOORPLANE SHOULDER HIP MOVEnOREHEAD CONTACTvNEUTRALvWRINKLEDnULL STOPmGRASP BETWEENsMULTIPLEsSIN
GLEmHAIRoND-ANGLEw INDEXzd MIDDLE LITTLEzlRINGzeRING LITTLEzp OUTzeTHUMBzj INzkOUTxLITTLE INDEXz
k THUMB INDEX THUMBzzd OUTzfUPxMIDDLE RING LITTLEzq INzrOUTxRING DOWN MIDDLE THUMB INDEX CROSSzdLI
TTLErCIRCLEx INDEXze BENTzfHINGEzfMIDDLEzl CROSS LITTLEzrEDzmLITTLEzmRINGzmTHUMBzfRING LITTLEyLITT
LE INDEXzgUPyMIDDLE RING LITTLEzr BENTzgUPyRING LITTLEsLAWv FOUR FINGERS CONJOINEDwINDEX THUMB CUR
VE THUMB INSIDEwMIDDLE RING LITTLE CONJOINEDzza SIDEwNO THUMBwTHUMB FORWARDzdSIDEsUPu FIVE FINGER
S SPREADzp OPENvINDEXzb RING LITTLEzcTHUMBzh OPENvMIDDLE RING LITTLEvNO THUMBvOPENza NO THUMBzbTHU
MB FORWARDzhSIDEvTHUMB FORWARDzcSIDEtRLICUEza INDEX RING LITTLE ONzbMIDDLE RING LITTLE ONzbOPENrFI
STv FOUR FINGERS CONJOINED BENTwHEELwINDEXzc BENTzh OVER MIDDLEzdCUPPEDzdHINGEDzj LOWzkMIDDLE UPz
t THUMB SIDEzdMIDDLEzj BENTzo THUMB STRAIGHTzkCONJOINEDzt CUPPEDzzb THUMB FORWARDzuHINGEDzzb THUM
B SIDEzuINDEX BENTzuMIDDLE BENTzuTHUMB FORWARDzzbSIDEzzf BENTzzgCONJOINEDzlROSS LITTLEzpEDzr THUM
B SIDEzkHINGEDzq SPREAD THUMB SIDEzkLITTLEzkRAISED KNUCKLESzlINGzo BENTzpCONJOINEDzkSTRAIGHT THUM
B BENTzkTHUMBzp ANGLEDzw OUTzqBENTzqCIRCLEDzrONJOINED HINGEDzrUPPEDzqHINGEDzrOOKEDzkUP SPREAD THUM
B FORWARDzdRAISED KNUCKLEzeING LITTLEzdTHUMB ANGLED IN MIDDLE UPzqOUT MIDDLE UPzjCIRCLEzpD MIDDL
E UPzkUPPED MIDDLE UPzlRLICUEzmVE THUMB INSIDEzvUNDERzjFORWARD INDEX BENTzxSTRAIGHTzjHOOKznED MIDD
LE HINGEDzxUPzjSIDEzn BOTH BENTzoINDEX BENTzuHINGEzoTHUMB BENTzuCONJOINEDzuDIAGONALzdUP MIDDLE HIN
GEDzt THUMB CONJOINEDzzbSIDEwLITTLE BENTzeDOWNzi OTHERS CIRCLEDzjRIPPLE CURVEDzqSTRAIGHTzeINDEXz
j THUMBzeRAISED KNUCKLEzeTHUMBzfOUCHES THUMBzeUPwMIDDLE BENT OVER INDEXzeDOWNzeLITTLEzeRAISED KNUC
KLEzfING LITTLEzeTHUMB ANGLED INDEX UPzrOUT INDEX CROSSEDzzcUPzkCIRCLED INDEX HINGEDzyUPzlUPPED IN
DEX UPzkHOOKED INDEX UPzkLITTLEzeUPzg THUMB SIDEwRING DOWNzcINDEXzcLITTLEzcMIDDLEzi CONJOINEDzjRAI
SED KNUCKLESzcRAISED KNUCKLEzcTHUMBzcUPwTHUMBzc BETWEEN INDEX MIDDLEzx STRAIGHTzlMIDDLE RINGzlRIN
G LITTLEzdFORWARDzdHEELzdOVER FOUR RAISED KNUCKLESziTWO FINGERSzdSIDE BENTziCONJOINEDziDIAGONALzdU
NDER FOUR FINGERSzjINDEX BENTzjLITTLE UPzjTHREE FINGERSzkWO FINGERSsLATv BETWEEN PALM FACINGSwFIV
E FINGERS SPREADzq BENTzrFOUR BENTzrHINGEDzx NO THUMBzyTHUMB SIDEzrTHUMB FORWARDxOUR FINGERSzj BEN
TzkCONJOINEDzt SPLITzkHINGEDwHEELzb FIVE FINGERS SPREADzv BENTzwFOUR BENTzcTHUMB SIDEwSPLIT CENTRE
zj THUMB SIDEzu BENTzdINDEX THUMB SIDEzdLITTLEwTHUMB BENTzdFORWARDzdSIDErHINGEw FIVE FINGERS SPREA
D OPENyOUR FINGERS CONJOINEDxINDEXzd HINGEDzeMIDDLE LITTLEzlRINGzp CONJOINEDzeRING LITTLEzeTHUMBz
j LARGEzkOPENzkSIDEzlMALLxLITTLEze INDEXzk THUMBzfTHUMBxMIDDLEze RING LITTLExNO THUMBxOPENzc NO TH
UMBzdTHUMB FORWARDzjSIDExRINGzc DOWN INDEX THUMB HOOK MIDDLExSMALLxTHUMB BETWEEN MIDDLE RINGzeSIDE
zi TOUCHING INDEXsOOKv CURLICUEwINDEX RING LITTLE INzpOUTzpUNDERwMIDDLE RING LITTLE CONJOINEDzza I
NzzbOUTzeTHUMBwRING THUMBrOVALv FIVE FINGERS SPREADwINDEXwLITTLE UPwNO THUMBwRING LITTLEwTHUMB FOR
WARDzdSIDEnEADq MOVEMENT CIRCLEza-FLOORPLANE CURVEzmSTRAIGHTzbWALLPLANE CURVEzlSTRAIGHTzlTILTrRIMm
LIMB COMBINATIONrLENGTH-1y2y3y4y5y6y7oP LOWER OVER UPPERqUPPER OVER LOWERpS PRESSED TOGETHERnOCATI
ON DEPTHvHEAD NECKxIGHTvLIMBS DIGITSvTORSOvWIDTHu-FLOORPLANE SPACEvWALLPLANE SPACEmMOUTH CLOSED CO
NTACTzaFORWARDzaNEUTRALtORNERSsFROWNx OPENyWRINKLEDsKISSw FORWARDxWRINKLEDsOPEN CIRCLExFORWARDxOVA
Lzc WRINKLEDzdYAWNxRECTANGLEzh WRINKLEDziYAWNxWRINKLEDsSMILEx OPENyWRINKLEDsTENSEx FORWARDySUCKEDs
WRINKLES DOUBLEzcSINGLEoVEMENT-DIAGONAL AWAY LARGEzpSTzkMEDIUMzkSMALLzfBETWEEN AWAY LARGEzxSTzsMED
IUMzsSMALLznTOWARDS LARGEzzbSTzvMEDIUMzvSMALLzfTOWARDS LARGEzsSTznMEDIUMznSMALLvFLOORPLANE ARM CIR
CLE HITTING WALL LARGE DOUBLEzzmSINGLEzzgMEDIUM DOUBLEzznSINGLEzzgSMALL DOUBLEzzmSINGLEzhBENDziO
X LARGEzlMEDIUMzlSMALLzhCHECKziORNER LARGEzoMEDIUMzoSMALLziROSSziURVE COMBINEDznHITTING CEILING LA
RGEzzeSMALLzvFLOOR LARGEzzcSMALLznLARGEzsSTznMEDIUMznSMALLzhDOUBLE ALTERNATINGzza WRIST FLEXzoSTRA
IGHTzoWRIST FLEXzhFINGER CIRCLES HITTING WALL DOUBLEzzkSINGLEzpONTACTzhHUMP HITTING CEILING LARG
E DOUBLEzzjTRIPLEzzdSMALL DOUBLEzzjTRIPLEzuFLOOR LARGE DOUBLEzzbSMALL DOUBLEzzbTRIPLE LARGE TRIPLE
zziSMALL TRIPLEzmSMALLzhJAWzhLOOP HITTING CEILING LARGE DOUBLEzzjSINGLEzzdSMALL DOUBLEzzjSINGLEzuF
LOOR LARGE DOUBLEzzhSINGLEzzbSMALL DOUBLEzzhSINGLEzmSMALLzhPEAKS LARGEznMEDIUMznSMALLzhSHAKING PAR
ALLELziINGLE STRAIGHT LARGEzzdSTzxMEDIUMzxSMALLzoWRIST FLEXzhTRIPLE ALTERNATING MOVEMENTzzbWRIST F
LEXzoSTRAIGHT MOVEMENTzoWRIST FLEXzhWAVE HITTING CEILING LARGEzzdSMALLzuFLOOR LARGEzzbSMALLzmLARGE
zmSMALLznNAKEziRIST CIRCLE HITTING WALL DOUBLEzziSINGLEzhZIGZAG LARGEzoMEDIUMzoSMALLvHINGE DOWN SE
QUENTIALzcSIDE TO SIDE SCISSORSzcUP DOWN ALTERNATING LARGEzwSMALLzkLARGEzkSMALLzfSEQUENTIALvWALLPL
ANE ARM CIRCLE MEDIUM DOUBLEzySINGLEzrSMALL DOUBLEzxSINGLEzgBEND LARGEzlMEDIUMzlSMALLzhOX LARGEzkM
EDIUMzkSMALLzgCHECK LARGEzmMEDIUMzmSMALLzhORNER LARGEznMEDIUMznROTATIONznSMALLzhROSSzhURVE HALF-CI
RCLE LARGEzzeSTzyMEDIUMzySMALLznITTING CHESTzuFRONT WALLzmQUARTER LARGEzzaSTzuMEDIUMzuSMALLzmTHE
N STRAIGHTzoREE-QUARTER CIRCLE MEDIUMzziSMALLzlD CROSS MEDIUMztSMALLzgDOUBLE ALTERNATINGzy WRIST F
LEXznSTRAIGHTznWRIST FLEXzgFINGER CIRCLES DOUBLEzvSINGLEzoONTACTzgHUMP HITTING CHESTztFRONT WALLzl
LARGEzlMEDIUMzlSMALLzgJAWzgLOOP HITTING CHESTztFRONT WALLzlLARGEzlMEDIUMzlSMALLzq DOUBLEzgPEAKS LA
RGEzmMEDIUMzmSMALLzgSHAKINGzhINGLE STRAIGHT LARGEzzcSTzwMEDIUMzwSMALLznWRIST FLEXzgTRIPLE ALTERNAT
INGzy WRIST FLEXznSTRAIGHT MOVEMENTznWRIST FLEXzgWAVE CURVE DOUBLE LARGEzyMEDIUMzySMALLzrTRIPLE LA
RGEzyMEDIUMzySMALLzlDIAGONAL PATH LARGEzzaMEDIUMzzaSMALLzlHITTING CHESTztFRONT WALLzhRIST CIRCLE F
RONT DOUBLEzzaSINGLEzgZIGZAG LARGEznMEDIUMznSMALLmNECKnOSE CONTACTrNEUTRALrWIGGLESsRINKLESmPARENTH
ESISmROTATION MODIFIER-10zg1zg2zg3zg4zg5zg6zf2zf3zf4zf5zf6zf7zf8zf9u-FLOORPLANE ALTERNATINGzs HITT
ING CEILINGzzcFLOORzhDOUBLEzn HITTING CEILINGzwFLOORzhSINGLEzn HITTING CEILINGzwFLOORvWALLPLANE AL
TERNATEzoING HITTING CHESTzzbFRONT WALLzgDOUBLEzm HITTING CHESTzvFRONT WALLzgSINGLEzm HITTING CHES
TzvFRONT WALLnUB BETWEENqMULTIPLEqSINGLEmSEMICOLONnHOULDER HIP POSITIONSzaSPINEvTILTING FROM WAIST
nQUEEZE FLICK ALTERNATINGuLARGE MULTIPLEzbSINGLEuSEQUENTIALvMALL MULTIPLEzbSINGLEnTRIKE BETWEENtMU
LTIPLEtSINGLEnURFACE BETWEENuSYMBOLSmTEETHr BITE LIPSsMOVEMENTsON LIPSza MOVEMENTvTONGUEzc MOVEMEN
ToNSE CHEEKS HIGHzaLOWzaMIDDLEnONGUE CENTRE INSIDE MOUTHzbSTICKING OUTtINSIDE MOUTH RELAXEDtLICKIN
G LIPStMOVES AGAINST CHEEKtSTICKING OUT FARtTIP BETWEEN LIPSxTOUCHING INSIDE MOUTHoRSO-FLOORPLAN
E TWISTINGsWALLPLANE CURVED BENDzdSTRAIGHT STRETCHoUCH BETWEENsMULTIPLEsSINGLEnRAVEL-FLOORPLANE RO
TATION-FLOORPLANE ALTERNATINGzzaDOUBLEzzaSINGLEzoWALLPLANE ALTERNATINGzyDOUBLEzySINGLEzfSHAKINGtWA
LLPLANE ARM SPIRAL DOUBLEzpSINGLEzpTRIPLEzeROTATION-FLOORPLANE ALTERNATINGzyDOUBLEzySINGLEznWALLPL
ANE ALTERNATINGzxDOUBLEzxSINGLEzeSHAKINGmUPPER BODY TILTING FROM HIP JOINTSmWALLPLANE SHOULDER HI
P MOVEcLHOUETTE OF JAPANcMILAR ABOVE GREATER-THAN ABOVE EQUALS SIGNoLESS-THAN ABOVE EQUALS SIGNiMI
NUS SIMILARiOR GREATER-THANlLESS-THANcNE WAVEdGLE CHARACTER INTRODUCERhGRAPHIC CHARACTER INTRODUCE
RhHIGH-REVERSED-9 QUOTATION MARKhLEFT-POINTING ANGLE QUOTATION MARKiOW-9 QUOTATION MARKhRIGHT-POIN
TING ANGLE QUOTATION MARKhSHIFT THREEoWOg-SHIFT-2n3dHALA ARCHAIC DIGIT EIGHTwFIVExOURwNINEwONEwSEV
ENxIXwTHREExWOqNUMBER EIGHTYxFIFTYyORTYxNINETYxONE HUNDREDzcTHOUSANDxSEVENTYyIXTYxTENyHIRTYyWENTYi
LETTER AAYANNAqEEYANNArYANNAqIYANNAqLPAPRAANA BAYANNAzbCAYANNAzbDAYANNAzcDAYANNAzbGAYANNAzbJAYANNA
zbKAYANNAzbPAYANNAzbTAYANNAzcTAYANNAqMBA BAYANNAqUYANNAqYANNApDANTAJA LAYANNAxNAYANNAxSAYANNApEEYA
NNAqYANNApFAYANNApHAYANNApIIYANNAqLUUYANNAsYANNAqRUUYANNAsYANNAqYANNApKANTAJA NAASIKYAYApMAHAAPRAA
NA BAYANNAzcCAYANNAzcDAYANNAzdDAYANNAzcGAYANNAzcJAYANNAzcKAYANNAzcPAYANNAzcTAYANNAzdTAYANNArYANNAq
UURDHAJA LAYANNAzaNAYANNAzaSAYANNApOOYANNAqYANNApRAYANNApSANYAKA DAYANNAyDAYANNAxGAYANNAxJAYANNApT
AALUJA NAASIKYAYAxSANYOOGA NAAKSIKYAYAzaYANNApUUYANNAqYANNApVAYANNApYAYANNAjITH DIGIT EIGHTtFIVEuO
URtNINEtONEtSEVENuIXtTHREEuWOtZEROiPUNCTUATION KUNDDALIYAiSIGN AL-LAKUNAoNUSVARAYAnCANDRABINDUnVIS
ARGAYAiVOWEL SIGN AELA-PILLAtDIGA AEDA-PILLAyGAETTA-PILLAzbYANUKITTAyIS-PILLAyKOMBUVAyPAA-PILLAtGA
ETTA-PILLAvYANUKITTAtKETTI AEDA-PILLAzaIS-PILLAzaPAA-PILLAuOMBU DEKAyVAzb HAA AELA-PILLAzgDIGA AEL
A-PILLAzgGAYANUKITTAcX PETALLED BLACK AND WHITE FLORETTEfOINTED BLACK STARmPINWHEEL STARmSTAR WIT
H MIDDLE DOTd-PER-EM SPACEdTEEN POINTED ASTERISKbKATEBOARDcI AND SKI BOOTdERcULLf AND CROSSBONESdN
KbLANTED EQUAL TO OR GREATER-THANzh WITH DOT INSIDEuLESS-THANze WITH DOT INSIDEiNORTH ARROW WITH H
OOKED HEADzcRIZONTAL TAILdVONIC ASTERISKcEDdEPING ACCOMMODATIONjFACEjSYMBOLfY FACEdUTH OR SPYcIC
E OF PIZZAdGHTLY FROWNING FACEjSMILING FACEcOPEeING LARGE ANDoORdT MACHINEeHbMALL AIRPLANEhMPERSAN
DhSTERISKgBLUE DIAMONDgCOLONiMMAkERCIAL ATiNTAINS AS MEMBERpWITH OVERBARuVERTICAL BAR AT END OF HO
RIZONTAL STROKEgDOLLAR SIGNgELEMENT OFq WITH OVERBARwVERTICAL BAR AT END OF HORIZONTAL STROKEhM DA
SHhQUALS SIGNhXCLAMATION MARKgFULL STOPgGREATER-THAN SIGNgHYPHEN-MINUSgIDEOGRAPHIC COMMAgLEFT CURL
Y BRACKETlPARENTHESISlTORTOISE SHELL BRACKETiSS-THAN SIGNgNUMBER SIGNgORANGE DIAMONDgPERCENT SIGNh
LUS SIGNgQUESTION MARKgREVERSE SOLIDUShIGHT CURLY BRACKETmPARENTHESISmTORTOISE SHELL BRACKEThOMA
N NUMERAL EIGHTvLEVENuFIFTYwVEy HUNDREDvOURuNINEuONEx HUNDREDyTHOUSANDuSEVENvIXuTENvHREEvWELVEwOgS
EMICOLONgTILDEhWO DOTS OVER ONE DOT PUNCTUATIONgVEE WITH UNDERBARfER THANm OR EQUAL TOdSH PRODUCTc
ILEeING CAT FACE WITH HEART-SHAPED EYESwOPEN MOUTHiFACE WITH HALOtEART-SHAPED EYEStORNSsOPEN MOUTH
zd AND COLD SWEATziSMILING EYESziTIGHTLY-CLOSED EYESsSMILING EYESzf AND HAND COVERING MOUTHzkTHRE
E HEARTStUNGLASSESsTEARdRKING FACEcOKING SYMBOLbNAILdKEcEEZING FACEcOW CAPPED MOUNTAINeBOARDEReFLA
KEeMANh WITHOUT SNOWbOcCCER BALLdKScFT HYPHENfICE CREAMfSHELL FLOPPY DISKeBALLeWARE-FUNCTION SYMBO
LcGDIAN COMBINING CURVE ABOVEyBELOWsDOT ABOVEwBELOWsHOOK ABOVExBELOWsLONG HOOK BELOWsRESH BELOWsST
ROKE BELOWsTWO DOTS ABOVEzcBELOWiINDEPENDENT SHINiLETTER ALEPHqYINpBETHpFETHpGIMELpHErTHpKAPHpLAME
DHqESHpMEMpNUNpPEpRESH-AYINpSADHErMEKHqHINpTAWpWAWpYODHpZAYINiNUMBER ONEs HUNDREDpTENqWENTYiPUNCTU
ATION CIRCLE WITH DOTuHALF CIRCLE WITH DOTuTWO CIRCLES WITH DOTSyVERTICAL BARSzm WITH DOTScHcLID Q
UILT SQUARE ORNAMENTzc IN BLACK SQUAREfUSh WITH OVERBARcM SIGNcON WITH RIGHTWARDS ARROW ABOVEcRA S
OMPENG DIGIT EIGHTtFIVEuOURtNINEtONEtSEVENuIXtTHREEuWOtZEROnLETTER AHuBAHuCAHuDAHuEEHvHuGAHuHAHuIH
uJAHuKAHuLAHuMAEwHuNAHvGAHvYAHuOHuPAHuRAHuSAHuTAHuUHuVAHuYAHcScUND RECORDING COPYRIGHTdTH EAST ARR
OWq AND SOUTH WEST ARROWrCROSSING NORTH EAST ARROWrTO CORNERrWITH HOOKlBLACK ARROWlDOUBLE ARROWlPO
INTING BUDuLEAFuVINE LEAFlSANS-SERIF ARROWlTRIANGLE-HEADED ARROWzh TO BARlWHITE ARROWgWEST ARROW
q AND NORTH WEST ARROWrWITH HOOKlBLACK ARROWlDOUBLE ARROWlPOINTING BUDuLEAFuVINE LEAFlSANS-SERIF A
RROWlTRIANGLE-HEADED ARROWzh TO BARlWHITE ARROWcYOMBO CLUSTER-INITIAL LETTER LAzgRAzgSAzhHAiFINA
L CONSONANT SIGN -AzeBzeDzeGzeKzeLzeMzeNzfGzeRzeSzfHiGEMINATION MARKiHEAD MARK WITH MOON AND SUNz
k AND FLAMEzpTRIPLE FLAMEiLETTER -ApApBAqHApCAqHApDAqDArHAqHAqZApGAqHApHApJAqHApKAqHAqSSApLApMApNA
qGAqNAqYApPAqHApRApSAqHAqSApTAqHAqSArHAqTArHApVApYApZAqHAiMARK DOUBLE SHADnPLUTAnSHADnTSHEGiSIGN A
NUSVARAnJIHVAMULIYAnUPADHMANIYAnVISARGAjUBJOINERiTERMINAL MARK-1w2iVOWEL LENGTH MARKoSIGN AIuUtEtI
tOuEtUuEtVOCALIC LzcRbPcAdCEdGHETTIdRKLEhSgING HEARTcEAK-NO-EVIL MONKEYfERh WITH CANCELLATION STRO
KEnONE SOUND WAVEnTHREE SOUND WAVESfING HEAD IN SILHOUETTEdECH BALLOONeDBOATdSMILO SIGNcHERICAL AN
GLEp OPENING LEFTyUPcIDERg WEBdRAL CALENDAR PADhNOTE PADhSHELLcLASHING SWEAT SYMBOLcONGEdOL OF THR
EADeNdRTS MEDALdUTING WHALEbQUARE A OVER MiARUiMiNPEAiPAATOiRUHUAiUhBAARERUjRiEETAiIRUiORUTOiQiUSS
YERUhC OVER KGiALjPiCiDiMj CUBEDkSQUAREDiOjRPORATIONiUPhDAjASUiBiESIiJiLiMj CUBEDkSQUAREDiORUhEEKA
AiRA NAME HEISEIqMEIZIqREIWAqSYOUWAqTAISYOUjGiSUKUUDOiVhFMiOOTjUR CORNERShGALjNMAjRONiBiHZiIGAjNII
jRUDAAiPAiURAMUnTONiYhHAjITUiEKUTAARUjRUTUiGiIRAGANA HOKAiONjONkRUiPjAiUARADDOjIITOjRANiZhIMAGE OF
p OR EQUAL TOtNOT EQUAL TOiNjINGUjTIiUhK OHMiAjIRIjRATTOkORIIiBiCALiEESUiGiHZiIROlGURAMUlMEETORUlW
ATTOiKiLiMj CAPITALlUBEDkSQUAREDiOOPOjRUNAiPAiTiUROONEkUZEIROiViWiYURIIhLEFT OPEN BOX OPERATORiMiN
iOGjZENGEiXhM CUBEDjOHMkVER Sp SQUAREDjSQUAREDiAjHHAjIKUROkRUjNSYONjRUKUiBj SMALLiEETORUjGAlTONiGi
HZiIKURONjLjRIlBAARUiLiMj CUBEDkSQUAREDiOLiPAiSiU AkFkGkLkMkSkVkWiVj MEGAiWj MEGAhNAjNOiFiMiOTTOiS
iViWhONSUiOMUiRIGINAL OFs OR EQUAL TOwNOT EQUAL TOiVhPAj AMPSjASENTOkTUiCiEEZIjNIHIkSUjSOiFiHiIASU
TORUjKOkURUiMiOINTOjNDOjSITION INDICATORiPMiRiSiViWhRADk OVER Sr SQUAREDiEMUjNTOGENiIGHT OPEN BO
X OPERATORjRAjTTORUiOOTiUPIIjUBURUhSAIKURUjNTIIMUiENTIlOiIRINGUiRiVhTARGETiHZiONhUONhV OVER MhWATT
OiBiITH BOTTOM HALF BLACKmCONTOURED OUTLINEmDIAGONAL CROSSHATCH FILLmHORIZONTAL FILLmLEFT HALF BLA
CKnOWER LEFT DIAGONAL HALF BLACKsRIGHT DIAGONAL HALF BLACKmORTHOGONAL CROSSHATCH FILLmRIGHT HALF B
LACKmTOP HALF BLACKmUPPER LEFT DIAGONAL HALF BLACKxTO LOWER RIGHT FILLsRIGHT DIAGONAL HALF BLACKyT
O LOWER LEFT FILLmVERTICAL FILLhYAADOkRUiUANgD ASTERISKiCJK UNIFIED IDEOGRAPH-4E00zi9zh2Dzh8CzhA4z
f518Dzg21Dzh4Dzh72zg3CCzhF3zg408zh39zg5B6zg8F0zg91Azh29zgB57zgDE6zgF8Czf624Bzh53zh95zg307zh55zg599
zhB0zg620zg708zi9zgE80zgF14zf7121zg51Fzh33zg981zgA7AzgD42zf89E3zgCA9zgD70zf904Azg14DjLjOOLiDOT OPE
RATORiEIGHT KiFALLING DIAGONAL SLASHjIVE POINT ONEjOUR DOT PUNCTUATIONnKjREEiHCjDRjI-RESjViIDiKATA
KANA DErKOKOrSAjEYiLATIN CAPITAL LETTER AzeBzeCzeDzeEzeFzeGzeHzeIzeJzeKzeLzeMzeNzeOzePzeQzeRzeSzeT
zeUzeVzeWzeXzeYzeZoSMALL LETTER DjOGICAL ANDqORkSSLESSiMINUSjViNEWjGiOKjNE HUNDRED TWENTY PiPLUSjP
ViRISING DIAGONAL SLASHiSALTIREjDjECOND SCREENkVEN POINT ONEjHVjIXTY PjMALL CIRCLEjOSjQUAREjSiTHRE
E DjIMESjWENTY-TWO POINT TWOkO KiUHDjP WITH EXCLAMATION MARKiVODjSiWCeT BLACK RIGHTWARDS ARROWdIDb
S2c3cAbTcADIUMdFF OF AESCULAPIUSjHERMESdMPED ENVELOPEdNDING PERSONdR AND CRESCENTfEQUALSfOF DAVIDg
PERATORfWITH LEFT HALF BLACKkRIGHT HALF BLACKeT OF GUARDED AREAjHEADINGjPROTECTED AREAjSELECTED AR
EAkTRINGjTEXTdTIONeUE OF LIBERTYcEAM LOCOMOTIVEfING BOWLdNOGRAPHIC FULL STOPdTHOSCOPEcICK FIGURE
m LEANING LEFTvRIGHTnWITH ARMS RAISEDsDRESScOCK CHARTdPWATCHcRAIGHT RULERiNESSeWBERRYdESS OUTLINE
D WHITE STARdICTLY EQUIVALENT TOeNG TERMINATORcScUDIO MICROPHONEdFFED FLATBREADdPAcXbUBdSCRIPT EIG
HTlQUALS SIGNkFIVElOURkLEFT PARENTHESISkMINUSkNINEkONEkPLUS SIGNkRIGHT PARENTHESISkSEVENlIXkTHREEl
WOkZEROeET ABOVE RIGHTWARDS ARROWnSUBSETpPERSEThOFj ABOVE ALMOST EQUAL TOqEQUALS SIGNqNOT EQUAL TO
qTILDE OPERATORkOR EQUAL TOv WITH DOT ABOVEkWITH NOT EQUAL TOhWITH DOTmMULTIPLICATION SIGN BELOWmP
LUS SIGN BELOWeTITUTEcCCEEDSi ABOVE ALMOST EQUAL TOpEQUALS SIGNpNOT ALMOST EQUAL TOtEQUAL TOpSINGL
E-LINE EQUALS SIGNzcNOT EQUAL TOjBUT NOT EQUIVALENT TOjOR EQUAL TOpIVALENT TOjUNDER RELATIONcMMATI
ON BOTTOMkTOPkWITH INTEGRALcNd BEHIND CLOUDeWITH FACEdDANESE AVAGRAHAkCONSONANT SIGN PAMINGKALzcNY
AKRAzeIKUzcSANGAN MAzjWAkDIGIT EIGHTqFIVErOURqNINEqONEqSEVENrIXqTHREErWOqZEROkLETTER AsErBAsHArCAr
DArEsUrFAsINAL KxMrGArHArIrJArKAsHArLAsEUrMArNAsGAsYArOrPArQArRAsEUrSAsYArTArUrVArWArXArYArZAkPUNC
TUATION BINDU BA SATANGAzdCAKRAzdDA SATANGAzdKA SATANGAzdLEU SATANGAzdPANGLONGzeURNAMAzdSURYAkSIG
N PAMAAEHrNGLAYARtWISADsYECEKpVIRAMAkVOWEL SIGN PAMEPETxNAELAENGyEULEUNGyGHULUyOLONGyYUKUdFLOWERdR
ISEh OVER MOUNTAINSdSET OVER BUILDINGScPERHEROfSCRIPT EIGHTnQUALS SIGNmFIVEnOURmLATIN SMALL LETTE
R IzgNnEFT PARENTHESISmMINUSmNINEmONEmPLUS SIGNmRIGHT PARENTHESISmSEVENnIXmTHREEnWOmZEROgET ABOV
E LEFTWARDS ARROWpSUBSETrPERSETjBESIDE AND JOINED BY DASH WITH SUBSETqSUBSETjOFl ABOVE ALMOST EQUA
L TOsEQUALS SIGNsNOT EQUAL TOsTILDE OPERATORmOR EQUAL TOx WITH DOT ABOVEmWITH NOT EQUAL TOjPRECEDI
NG SOLIDUSjWITH DOToMULTIPLICATION SIGN BELOWoPLUS SIGN BELOWfVILLAINcRFACE INTEGRALeERcSHIdPENSIO
N RAILWAYbWANdSH AMPERSAND ORNAMENTcIMMERcUNG DASHbYLOTI NAGRI LETTER AuBHOvOuCHOvOuDDHOwOvHOvOuEu
GHOvOuHOuIuJHOvOuKHOvOuLOuMOuNOuOuPHOvOuROvROuSOuTHOvOvTHOwOuUnPOETRY MARK-1za2za3za4nSIGN ALTERNA
TE HASANTAtNUSVARAsDVISVARAsHASANTAnVOWEL SIGN AyEyIyOOyUcMBOL FOR ACKNOWLEDGElBACKSPACEmELLlCANCE
LnRRIAGE RETURNlDATA LINK ESCAPEmELETEr FORM TWOnVICE CONTROL FOURzbONEzbTHREEzcWOlEND OF MEDIUMsT
EXTtRANSMISSIONzf BLOCKnQUIRYmSCAPElFILE SEPARATORmORM FEEDlGROUP SEPARATORlHORIZONTAL TABULATIONl
LINE FEEDlMARKS CHAPTERlNEGATIVE ACKNOWLEDGEnWLINEmULLlRECORD SEPARATORlSAMARITAN SOURCEmHIFT INrO
UTmPACEmTART OF HEADINGuTEXTmUBSTITUTEv FORM TWOmYNCHRONOUS IDLElTYPE A ELECTRONICSlUNIT SEPARATOR
lVERTICAL TABULATIONdMETRYcNdAGOGUEdCHRONOUS IDLEcRIAC ABBREVIATION MARKhBARREKHhCOLON SKEWED LEFT
uRIGHTjNTRACTIONhDOTTED ZLAMA ANGULARuHORIZONTALhEND OF PARAGRAPHiSASA ABOVEnBELOWhFEMININE DOThHA
RKLEAN ASTERISCUSqMETOBELUSqOBELUSiBASA ABOVEnBELOWm-ESASA DOTTEDiORIZONTAL COLONhLETTER ALAPHoBET
HoDALATHpOTLESS DALATH RISHoEoFINAL SEMKATHoGAMALt GARSHUNIoHEqTHoKAPHoLAMADHoMALAYALAM BHAyJAyLLA
zbLAyNGAzaNAzbNAzaYAyRAySSAyTTApIMoNUNoPEqRSIAN BHETHwDHALATHwGHAMALoQAPHoREVERSED PEpISHoSADHEpEM
KATHpHINpOGDIAN FEwKHAPHwZHAINpUPERSCRIPT ALAPHoTAWpETHs GARSHUNIoWAWoYUDHs HEoZAINhMUSIChOBLIQU
E LINE ABOVEuBELOWhPTHAHA ABOVEoBELOWoDOTTEDhQUSHSHAYAhRBASA ABOVEnBELOWiUKKAKHAiWAHAhSUBLINEAR CO
LONw SKEWED LEFTzfRIGHTrFULL STOPjPRALINEAR COLONy SKEWED LEFTtFULL STOPhTHREE DOTS ABOVEsBELOWiW
O VERTICAL DOTS ABOVEzaBELOWhZQAPHA ABOVEoBELOWoDOTTEDeNGEaT-REXcSHIRTbABdLE TENNIS PADDLE AND BAL
LcCOcG AMPERSANDfPOSTROPHEfSTERISKeCIRCUMFLEX ACCENTfOLONgMMAiERCIAL ATeDIGIT EIGHTkFIVElOURkNINEk
ONEkSEVENlIXkTHREElWOkZEROfOLLAR SIGNeEQUALS SIGNfXCLAMATION MARKeFULL STOPeGRAVE ACCENTgEATER-THA
N SIGNeHYPHEN-MINUSeLATIN CAPITAL LETTER AzaBzaCzaDzaEzaFzaGzaHzaIzaJzaKzaLzaMzaNzaOzaPzaQzaRzaSza
TzaUzaVzaWzaXzaYzaZkSMALL LETTER AxBxCxDxExFxGxHxIxJxKxLxMxNxOxPxQxRxSxTxUxVxWxXxYxZfEFT CURLY BRA
CKETjPARENTHESISjSQUARE BRACKETgSS-THAN SIGNfOW LINEeNUMBER SIGNePERCENT SIGNfLUS SIGNeQUESTION MA
RKgOTATION MARKeREVERSE SOLIDUSfIGHT CURLY BRACKETkPARENTHESISkSQUARE BRACKETeSEMICOLONfOLIDUSfPAC
EeTILDEeVERTICAL LINEdALOG LETTER AqRCHAIC RApBApDApGApHApIpKApLApMApNAqGApPApRApSApTApUpWApYAiSIG
N PAMUDPODnVIRAMAiVOWEL SIGN ItUdBANWA LETTER AqBAqDAqGAqIqKAqLAqMAqNArGAqPAqSAqTAqUqWAqYAjVOWEL S
IGN IuUcI LE LETTER ApIpUEoEpEpHoFAoHAoIoKApHAoLAoMAoNApGAoOpOoPApHAoQAoSAoTApHApONE-2t3t4t5t6pSAq
HAoUpEoVAoXAoYAeTHAM COMBINING CRYPTOGRAMMIC DOTlNSONANT SIGN BAyFINAL NGAyHIGH RATHA OR LOW PAyL
A TANG LAIzaOW PAyMAzaEDIAL LAzgRAySAjHORA DIGIT EIGHTuFIVEvOURuNINEuONEuSEVENvIXuTHREEvWOuZEROjLE
TTER AqBAqDAqEEqGREAT SAqHIGH CAwHAvFAvHAvKAwHAwXAvPAwHAvRATHAvSAwHAwSAvTAwHAvYAqIrIqLAsErLArOW CA
vHAuFAuHAuKAvHAvXAuPAvHAuRATHAuSAuTAvHAuYArUEqMAqNArGArYAqOOqRAsNAsTArUEqUrUqWAjSIGN CAANGoDOKMAIo
HANGpOYoKAANsKUUpEOWpHUEN TONE-3za4za5t-LUE KARANoMAI KANGw LAIsSAMsYAMOKoRA HAAMpEVERSED ROTATE
D RANAoSAKOTqTKAANvKUUqWANoTONE-1t2oWIANGtWAAKjTHAM DIGIT EIGHTuFIVEvOURuNINEuONEuSEVENvIXuTHREEvW
OuZEROjVOWEL SIGN AvAvEvIuEuIvIuMAI SATuOvA ABOVExBELOWvOvYuTALL AAvHAM AIuUvEvUwEeVIET LETTER HIG
H BOvCHOwOvDOvFOvGOvHOvKHHOxOwOvLOvMOvNGOwOwYOvOvPHOwOvROvSOvTHOwOvVOvYOqLOW BOuCHOvOuDOuFOuGOuHOu
KHHOwOvOuLOuMOuNGOvOvYOuOuPHOvOuROuSOuTHOvOuVOuYOjMAI KANGoHITjSYMBOL HO HOIqKOI KOIsNqNUENGqSAMjT
ONE MAI EKsNUENGsSONGsTHOjVOWEL AAqMqNqUEqYpEpIqApOpUqAqErAcKEOUT BOXdRI ABBREVIATION SIGNgDIGIT E
IGHTmFIVEnOURmNINEmONEmSEVENnIXmTHREEnWOmZEROgLETTER AoAoIoRCHAIC KHAoUnBAoHAnCAoHAnDAoDApHAoHAnEn
GAoHAnHAnIoInJAoHAnKAoHAnLAnMAnNAoGAoNAoYAnOnPAoHAnRAoRAnSAoHAnTAoHAoTApHAnUoUnVAnYAgSIGN ANUSVARA
lNUKTAlVIRAMAnSARGAgVOWEL SIGN AAsIsUrErIsIrOrUsUcLLY MARK FIVElONEcMALEdIL AND ODD SIGNhS ABOVE S
IGNhU LENGTH MARKgCREDIT SIGNhURRENT SIGNgDAY SIGNhEBIT SIGNhIGIT EIGHTmFIVEnOURmNINEmONEmSEVENnIX
mTHREEnWOmZEROhRY CULTIVATION SIGNgFRACTION DOWNSCALING FACTOR KIIZHpONE EIGHTHyIETHtFIFTHuORTIETH
tHALF-1y2tONE-HUNDRED-AND-SIXTIETHtQUARTERtSIXTEENTH-1ze2xY-FOURTHtTENTHuHIRTY-SECONDvREE-HUNDRED-
AND-TWENTIETHuWENTIETHpTHREE EIGHTIETHSvQUARTERSvSIXTEENTHSzaY-FOURTHSvTWENTIETHSgIN POSSESSION SI
GNgLAND SIGNhETTER AoAoIoUnCAnEoEnHAnIoInJAnKAnLAoLApLAnMAnNAoGAoNApNAoYAnOoOnPAnRAoRAnSAoHAoSAnTA
oTAnUoUnVAnYAgMONTH SIGNgNUMBER ONE HUNDREDrTHOUSANDnSIGNnTENgOMgPUNCTUATION END OF TEXTgRUPEE SIG
NgSALT PAN SIGNhIGN AAZHAAKKUmNUSVARAlCEVITUlKAACUmURUNInZHIlMUKKURUNInTHALIYAnUVUZHAKKUlNELlPAARA
MnNAMnTHAKKUmONlUZHAKKUlVAKAIYARAAnRAAKANmELImIRAMAnSARGAhPENT SIGNhTARTING FROM SIGNgTOTAL SIGNhR
ADITIONAL CREDIT SIGNsNUMBER SIGNgVOWEL SIGN AAsIsUrEsErIsIrOsOrUsUgWET CULTIVATION SIGNgYEAR SIGN
cNABATA TREEdGERINEeSA DIGIT EIGHTnFIVEoOURnNINEnONEnSEVENoIXnTHREEoWOnZEROhLETTER ACpQpWCqQqXqZpX
pZoBAoCApHAoDApHAoECpQpXpZoFApINAL NGoGApHAoHApTAqTAoICpQpXpZoKApHAoLApONG UEXoMApCpQpXpZoNApGApHA
pYAoOCpQpXpZoPApHAoRAoSApHAqORT AWXuUEZoTApHApSAoUCpECqQqXqZpICqQqUCrQrXrZqXqZpQpXpZoVCpQpXpZoWAoX
AoYAoZAeUT COMPONENT-001t2t3t4t5t6t7t8t9s10t1t2t3t4t5t6t7t8t9s20t1t2t3t4t5t6t7t8t9s30t1t2t3t4t5t6t
7t8t9s40t1t2t3t4t5t6t7t8t9s50t1t2t3t4t5t6t7t8t9s60t1t2t3t4t5t6t7t8t9s70t1t2t3t4t5t6t7t8t9s80t1t2t3
t4t5t6t7t8t9s90t1t2t3t4t5t6t7t8t9r100t1t2t3t4t5t6t7t8t9s10t1t2t3t4t5t6t7t8t9s20t1t2t3t4t5t6t7t8t9s
30t1t2t3t4t5t6t7t8t9s40t1t2t3t4t5t6t7t8t9s50t1t2t3t4t5t6t7t8t9s60t1t2t3t4t5t6t7t8t9s70t1t2t3t4t5t6
t7t8t9s80t1t2t3t4t5t6t7t8t9s90t1t2t3t4t5t6t7t8t9r200t1t2t3t4t5t6t7t8t9s10t1t2t3t4t5t6t7t8t9s20t1t2
t3t4t5t6t7t8t9s30t1t2t3t4t5t6t7t8t9s40t1t2t3t4t5t6t7t8t9s50t1t2t3t4t5t6t7t8t9s60t1t2t3t4t5t6t7t8t9
s70t1t2t3t4t5t6t7t8t9s80t1t2t3t4t5t6t7t8t9s90t1t2t3t4t5t6t7t8t9r300t1t2t3t4t5t6t7t8t9s10t1t2t3t4t5
t6t7t8t9s20t1t2t3t4t5t6t7t8t9s30t1t2t3t4t5t6t7t8t9s40t1t2t3t4t5t6t7t8t9s50t1t2t3t4t5t6t7t8t9s60t1t
2t3t4t5t6t7t8t9s70t1t2t3t4t5t6t7t8t9s80t1t2t3t4t5t6t7t8t9s90t1t2t3t4t5t6t7t8t9r400t1t2t3t4t5t6t7t8
t9s10t1t2t3t4t5t6t7t8t9s20t1t2t3t4t5t6t7t8t9s30t1t2t3t4t5t6t7t8t9s40t1t2t3t4t5t6t7t8t9s50t1t2t3t4t
5t6t7t8t9s60t1t2t3t4t5t6t7t8t9s70t1t2t3t4t5t6t7t8t9s80t1t2t3t4t5t6t7t8t9s90t1t2t3t4t5t6t7t8t9r500t
1t2t3t4t5t6t7t8t9s10t1t2t3t4t5t6t7t8t9s20t1t2t3t4t5t6t7t8t9s30t1t2t3t4t5t6t7t8t9s40t1t2t3t4t5t6t7t
8t9s50t1t2t3t4t5t6t7t8t9s60t1t2t3t4t5t6t7t8t9s70t1t2t3t4t5t6t7t8t9s80t1t2t3t4t5t6t7t8t9s90t1t2t3t4
t5t6t7t8t9r600t1t2t3t4t5t6t7t8t9s10t1t2t3t4t5t6t7t8t9s20t1t2t3t4t5t6t7t8t9s30t1t2t3t4t5t6t7t8t9s40
t1t2t3t4t5t6t7t8t9s50t1t2t3t4t5t6t7t8t9s60t1t2t3t4t5t6t7t8t9s70t1t2t3t4t5t6t7t8t9s80t1t2t3t4t5t6t7
t8t9s90t1t2t3t4t5t6t7t8t9r700t1t2t3t4t5t6t7t8t9s10t1t2t3t4t5t6t7t8t9s20t1t2t3t4t5t6t7t8t9s30t1t2t3
t4t5t6t7t8t9s40t1t2t3t4t5t6t7t8t9s50t1t2t3t4t5t6t7t8t9s60t1t2t3t4t5t6t7t8hITERATION MARKcPE CARTRI
DGEfDRIVEcURUScXIbEACUP WITHOUT HANDLEdPOTdR-OFF CALENDAReDROP-BARBED RIGHTWARDS ARROWjSPOKED ASTE
RISKcDDY BEARcLEPHONE LOCATION SIGNkON TOP OF MODEMkRECEIVERs WITH PAGEnORDERkSIGNeSCOPEeVISIONdUG
U AI LENGTH MARKhDIGIT EIGHTnFIVEoOURnNINEnONEnSEVENoIXnTHREEoWOnZEROhFRACTION DIGIT ONE FOR EVE
N POWERS OF FOURzfODD POWERS OF FOURwTHREE FOR EVEN POWERS OF FOURzhODD POWERS OF FOURxWO FOR EVE
N POWERS OF FOURzfODD POWERS OF FOURwZERO FOR ODD POWERS OF FOURhLENGTH MARKjTTER ApApIpUoBApHAoCA
pHAoDApDAqHApHApZAoEpEoGApHAoHAoIpIoJApHAoKApHAoLApLAqLAoMAoNAqKAARA POLLUpGApNApYAoOpOoPApHAoRApR
AqRAoSApHApSAoTApHApSApTAqHAoUpUoVApOCALIC LxLwRxRoYAhSIGN ANUSVARAnVAGRAHAmCANDRABINDUnOMBINING A
NUSVARA ABOVEwCANDRABINDU ABOVEmNUKTAmSIDDHAMmTUUMUmVIRAMAoSARGAhVOWEL SIGN AAtItUsEtEsItIsOtOsUtU
sVOCALIC LzcLzbRzcRcNGE SIGNdNIS RACQUET AND BALLdTcST TUBEcTRAGRAM FOR ACCUMULATIONpDVANCEpGGRAVA
TIONpSCENToBARRIERpOLD RESOLUTIONpRANCHING OUToCENTREpHANGEpLOSED MOUTHtNESSsUREpOMPLETIONtIANCEqN
STANCYrTACTsENTIONsRARIETYoDARKENINGpECISIVENESSqFECTIVENESS OR DISTORTIONqPARTUREpIFFICULTIESqMIN
ISHMENTrMINGqVERGENCEpOUBTpUTIESoEASEpMBELLISHMENTpNCOUNTERSqDEAVOURqLARGEMENTpTERNITYpXHAUSTIONoF
AILUREpLIGHTpOLLOWINGqSTERINGpULL CIRCLEsNESSoGATHERINGx INpOING TO MEETpREATNESSpUARDEDNESSoHARDN
ESSpOLDING BACKoINCREASEqNERoJOYoKEEPING SMALLpINSHIPoLABOURINGqW OR MODELpEGIONoMASSINGpEASUREpIR
EDoON THE VERGEpPPOSITIONoPACKINGqTTERNpENETRATIONpURITYoREACHqLEASEqSIDENCEsSTANCErPONSEpITUALoSE
VERANCEpINKINGpTOPPAGErVEqRENGTHoUNITYoVASTNESS OR WASTINGoWAITINGqTCHoYOUTHFULNESSbHAANA AABAAFIL
IiBAFILIhEBEFILIiEBEEFILIiYBEYFILIhIBIFILIhLETTER AINUpLIFUoBAAoCHAVIYANIoDAADHUqVIYANIpHAALUoFAAF
UoGAAFUpHAINUpNAVIYANIoHAApHAAoJAVIYANIoKAAFUpHAAoLAAMUpHAVIYANIoMEEMUoNAApOONUoPAVIYANIoQAAFUoRAA
oSAADHUpEENUpHAVIYANIqEENUoTAVIYANIpHAAsLUpOpTAAoVAAVUoWAAVUoYAAoZAAqVIYANIpOhOABOAFILIiBOFILIiOBO
OFILIhSUKUNhUBUFILIdI CHARACTER ANGKHANKHUpBO BAIMAIpCHO CHANxGvINGvOEpDO CHADAsDEKpFO FAuNrNGMANp
HO HIPsNOKHUKpKHO KHAIvONvUATvWAItRAKHANGsMUTqO KAIpLAKKHANGYAOqO CHULAsLINGqUpMAI CHATTAWAtEKtHAN
-AKATtTHOuRIsTAIKHUsYAMOKqO MApNGO NGUqIKHAHITqO NENtUpO ANGpPAIYANNOIqHINTHUrO PHANvUNGtSAMPHAOq
O PLApRO RUAqUpSARA AvAvEvI MAIMALAIzcUANvMuEuIvIuOuUvEwEvUqO RUSIsSALAtOtUApTHANTHAKHATrO NANGMON
THOtPHUTHAOtTHAHANwNvONGvUNGqO PATAKsTAOpWO WAENpYAMAKKANqO YAKtINGgURRENCY SYMBOL BAHTfDIGIT EIGH
TlFIVEmOURlNINElONElSEVENmIXlTHREEmWOlZEROcERE DOES NOT EXISTgEXISTSfFOREeMODYNAMICgMETERcIN GREE
K CROSSfSALTIREgPACEeKING FACEdRD PLACE MEDALcONG SANDALdUGHT BALLOONcREE BUTTON MOUSEgCONSECUTIV
E EQUALS SIGNSgDIMENSIONAL ANGLEhOT PUNCTUATIONgLEFTWARDS ARROWShINES CONVERGING LEFTxRIGHTgNETWOR
KED COMPUTERSgPOINTED BLACK STARgRAYS ABOVElBELOWlLEFTlRIGHThIGHTWARDS ARROWSgSPEECH BUBBLESf-D BO
TTOM-LIGHTED RIGHTWARDS ARROWHEADiLEFT-LIGHTED DOWNWARDS EQUILATERAL ARROWHEADiRIGHT-LIGHTED UPWAR
DS EQUILATERAL ARROWHEADiTOP-LIGHTED LEFTWARDS EQUILATERAL ARROWHEADuRIGHTWARDS ARROWHEADzgEQUILAT
ERAL ARROWHEADgEM DASHgPER-EM SPACEcUMBS DOWN SIGNhUP SIGNdNDER CLOUD AND RAINhSTORMbIBETAN ASTROL
OGICAL SIGN -KHYUD PAzbSDONG TSHUGSzcGRA GCAN -CHAR RTAGSiCANTILLATION SIGN CANG TE-UzbHEAVY BEATz
bLIGHT BEATzbSBUB -CHALiDIGIT EIGHToFIVEpOURoHALF EIGHTtFIVEuOURtNINEtONEtSEVENuIXtTHREEuWOtZEROoN
INEoONEoSEVENpIXoTHREEpWOoZEROiKU RU KHAr BZHI MIG CANiLETTER -ApApBAqHApCAqHApDAqDArHAqHAqZArHApF
IXED-FORM RApGAqHApHApJApKAqHAqKAqSSApLApMApNAqGAqNAqYApPAqHApRAqRApSAqHAqSApTAqHAqSArHAqTArHApWAp
YApZAqHAjOGOTYPE SIGN CHAD RTAGSwLHAG RTAGSiMARK ANG KHANG GYASzaONnBKA- SHOG GI MGO RGYANxYIG MGO
oSDUS RTAGSpKA- SHOG GI MGO RGYANqUR YIG MGOnCARET -DZUD RTAGS BZHI MIG CANzgME LONG CANtYIG MGO P
HUR SHAD MAoHE MGOoLOSING BRDA RNYING YIG MGO SGAB MAvYIG MGO SGAB MAnDELIMITER TSHEG BSTARnGTER T
SHEGsYIG MGO -UM GTER TSHEG MAzfRNAM BCAD MAzbTRUNCATED AoUG RTAGS GYASzaONnHALANTAnINITIAL BRDA R
NYING YIG MGO MDUN MAvYIG MGO MDUN MApTERSYLLABIC TSHEGnLEADING MCHAN RTAGSnMNYAM YIG GI MGO RGYAN
nNGAS BZUNG NYI ZLAySGOR RTAGSoYIS SHADsTSHEGx SHADnPALUTAnRGYA GRAM SHADoIN CHEN SPUNGS SHADnSBRU
L SHADoHADnTRAILING MCHAN RTAGSoSA -PHRUpHEG SHADnYIG MGO TSHEG SHAD MAiSIGN GRU CAN RGYINGSrMED R
GYINGSnINVERTED MCHU CANnLCE TSA CANpI RTAGSnMAR TSHESoCHU CANnNYI ZLA NAA DAnRDEL DKAR GCIGyNYISy
SUMxRDEL NAGsNAG GCIGxNYISxSUMwRDEL DKARoJES SU NGA ROoNAM BCADnSNA LDANnYANG RTAGSpR TSHESjUBJOIN
ED LETTER -AzaAzaBAzbHAzaCAzbHAzaDAzbDAzcHAzbHAzbZAzcHAzaFIXED-FORM RAzlWAzlYAzaGAzbHAzaHAzaJAzaKA
zbHAzbSSAzaLAzaMAzaNAzbGAzbNAzbYAzaPAzbHAzaRAzaSAzbHAzbSAzaTAzbHAzbSAzcHAzbTAzcHAzaWAzaYAzaZAzbHAs
SIGN INVERTED MCHU CANxLCE TSA CANxMCHU CANjYLLABLE OMkMBOL DRIL BUpNOR BUv BZHI -KHYILwGSUM -KHYI
LwNYIS -KHYILpPADMA GDANqHUR PApRDO RJEw RGYA GRAMiVOWEL SIGN AAtEuEtIuItOuOtREVERSED IzeItUuUtVOC
ALIC LzdLzcRzdRcCKETcE OVER INFINITYcFINAGH CONSONANT JOINERjLETTER AHAGGAR YAZHrYER YAGHqBERBER A
CADEMY YAHziJqTAWELLEMET YAZrUAREG YAGHzbNzaHzaKzbHzaNGzaQzaZHqYAsAsBtHsCHsDtDuHtHsFsGtHuHsHtHsJsK
tHuHsLsMsNsPsQsRtRsStHtSsTtHtTsVsWsYsZtHtZrEsYrIrOrUjMODIFIER LETTER LABIALIZATION MARKjSEPARATO
R MARKcGERf FACEdHT TRIFOLIATE SNOWFLAKEcLDEf OPERATORo ABOVE LEFTWARDS ARROWvRIGHTWARDS ARROWpWIT
H DOT ABOVEuRISING DOTSgWITH DOT ABOVEpBELOWlRING ABOVEcMER CLOCKeS WITH LEFT HALF BLACKlRIGHT HAL
F BLACKcNYe TWO DOTS OVER ONE DOT PUNCTUATIONcRED FACEdHUTA ABBREVIATION SIGNjNJIiDIGIT EIGHToFIVE
pOURoNINEoONEoSEVENpIXoTHREEpWOoZEROiGVANGiLETTER AqAqIqUpBAqHApCAqHApDAqDArHAqHApEpGAqHApHApIqIpJ
AqHApKAqHApLApMApNAqGAqNAqYApOpPAqHApRApSAqHAqSApTAqHAqTArHApUqUpVAqOCALIC LyLxRyRpYAiOMiSIGN ANUS
VARAoVAGRAHAnCANDRABINDUnNUKTAnVIRAMApSARGAiVOWEL SIGN AAuIuUtEtIuItOtSHORT EzaOtUuUtVOCALIC LzdLz
cRzdRdONIAN SIGN CAPITAL EToETbOILETcKYO TOWERcMATOcNGUEcOLBOXdTHfBRUSHcP ARC ANTICLOCKWISE ARROWz
c WITH PLUSiCLOCKWISE ARROW WITH MINUSeCURLY BRACKETeHALF BLACK CIRCLEjINTEGRALjLEFT PARENTHESISjR
IGHT PARENTHESISjSECTION SIGNgTeLEFT CORNERkROPjHALF BRACKETePARENTHESISeRIGHT CORNERlROPkHALF BRA
CKETeSQUARE BRACKETeTORTOISE SHELL BRACKETeWITH UPWARDS ARROW ABOVEcRTOISE SHELL BRACKETED CJK UNI
FIED IDEOGRAPH-4E09zy8Czw52DDzxB89zw6253zx557zx72Czw70B9zx6D7zaLATIN CAPITAL LETTER ScTAL RUNOUTd
O LETTER AnEmBAnREATHY AEuEvOuIvUmCHAmDAmEnOmGAmHAmInUmJAmKAmLAmMAmNAnGAmOmPAmRAmSAmTAmUmWAmYAfSIG
N RISING TONEbRACKBALLeTORdDE MARK SIGNdINdMe CARdNSPLUTOfVERSAL INTERSECTIONcIANGLE WITH DOT ABOV
EoROUNDED CORNERSoSERIFS AT BOTTOMoUNDERBARi-HEADED RIGHTWARDS ARROWgULAR BULLETlFLAG ON POSTlRULE
RdCOLONdDENT EMBLEMdGRAM FOR EARTHmFIREmHEAVENmLAKEmMOUNTAINmTHUNDERmWATERnINDdPLE COLON OPERATORh
DAGGERhHORIZONTAL BAR WITH DOUBLE VERTICAL STROKEzcTRIPLE VERTICAL STROKEhINTEGRALhNESTED GREATER-
THANoLESS-THANhPLUSiRIMEhSOLIDUS BINARY RELATIONhTILDEhVERTICAL BAR BINARY RELATIONuDELIMITERuRIGH
T TURNSTILEuWITH HORIZONTAL STROKEcOLLfEYBUSdPHYeICAL DRINKjFISHcUEe LIGHT MOON ARTAdMPETbUGRIK SI
GNcLIPcMBLER GLASScRKEYeISH LIRA SIGNdNED AMPERSANDiNGLEhBLACK PENTAGONnSHOGI PIECEhCAPITAL FiOMMA
hDAGGERiIGIT THREEoWOhGREEK SMALL LETTER IOTAhNORTH EAST POINTING LEAFnWEST POINTING LEAFjT SIGNhO
K HAND SIGNhSANS-SERIF CAPITAL GzbLzbYiEMICOLONiMALL FiOUTH EAST POINTING LEAFnWEST POINTING LEAFh
WHITE SHOGI PIECEdTLEbWELVE POINTED BLACK STARcISTED RIGHTWARDS ARROWScO ASTERISKS ALIGNED VERTICA
LLYeBUTTON MOUSEeCONSECUTIVE EQUALS SIGNSeDOT LEADERiPUNCTUATIONhS OVER ONE DOT PUNCTUATIONeHEARTS
eINTERSECTING LOGICAL ANDzaOReJOINED SQUARESeLOGICAL AND OPERATORmOR OPERATOReMEN HOLDING HANDSeSP
EECH BUBBLESeWOMEN HOLDING HANDSd-EM DASHaUGARITIC LETTER AINrLPAqBETAqDELTArHALqGAMLArHAINqHOsTAq
IqKAFrHAqLAMDAqMEMqNUNqPUqQOPAqRASHAqSADEsMKArHINrSUqTETrHANNArOqUqWOqYODqZETArUjWORD DIVIDERbMBRE
LLAi ON GROUNDjWITH RAIN DROPSbNAMUSED FACEcCERTAINTY SIGNcDERTIEdO SYMBOLcICORN FACEdONf ABOVE BA
R ABOVE INTERSECTIONmINTERSECTIONgBESIDE AND JOINED WITH UNIONgWITH LOGICAL ORlMINUS SIGNlOVERBARd
T SEPARATOReED SYMBOLdVERSAL RECYCLING SYMBOLcMARRIED PARTNERSHIP SYMBOLbP ARROW THROUGH CIRCLEiHE
ADm BETWEEN TWO HORIZONTAL BARSnIN A RECTANGLE BOXdBARB LEFT DOWN BARB LEFT HARPOONxRIGHT HARPOONi
RIGHT DOWN BARB LEFT HARPOONyRIGHT HARPOONdDOWN ARROWn WITH BASEiBLACK ARROWiDOUBLE ARROWiSANS-SER
IF ARROWiTRIANGLE-HEADED ARROWiWHITE ARROWdFISH TAILdRIGHT DIAGONAL ELLIPSISdTACKh WITH CIRCLE ABO
VEc-POINTING AIRPLANEmMILITARY AIRPLANEmRED TRIANGLEmSMALL AIRPLANEsRED TRIANGLEmTRIANGLE WITH LEF
T HALF BLACKzbRIGHT HALF BLACKcPER AND LEFT AND LOWER TRIANGULAR THREE QUARTERS BLOCKlOWER ONE EIG
HTH BLOCKqTRIANGULAR HALF BLOCKkRIGHT AND LOWER TRIANGULAR THREE QUARTERS BLOCKgBLADE SCISSORSgFIV
E EIGHTHS BLOCKgHALF BLOCKq AND LOWER HALF INVERSE MEDIUM SHADElCIRCLElINVERSE MEDIUM SHADE AND LO
WER HALF BLOCKtWHITE CIRCLElMEDIUM SHADEgLEFT BLOCK DIAGONAL LOWER CENTRE TO LOWER MIDDLE RIGHTzrU
PPER MIDDLE RIGHTzxRIGHTzhLEFT TO LOWER MIDDLE RIGHTzpUPPER CENTREzvMIDDLE RIGHTzhMIDDLE LEFT TO U
PPER CENTREzzdMIDDLE RIGHTzzdRIGHTzbUPPER MIDDLE LEFT TO UPPER CENTREzzdRIGHTlCORNER WITH DOTlOR L
OWER RIGHT CURLY BRACKET SECTIONlQUADRANT CIRCULAR ARClTO LOWER RIGHT FILLmRIANGLErULAR MEDIUM SHA
DEgONE EIGHTH BLOCKkQUARTER BLOCKgRIGHT BLOCK DIAGONAL LOWER MIDDLE LEFT TO LOWER CENTREzzeRIGHTzc
UPPER CENTRE TO LOWER MIDDLE RIGHTzyRIGHTzsUPPER MIDDLE RIGHTziLEFT TO LOWER CENTREzwMIDDLE RIGHTz
qUPPER MIDDLE RIGHTziMIDDLE LEFT TO LOWER CENTREzzeMIDDLE RIGHTzzeRIGHTmDROP-SHADOWED WHITE SQUARE
mOR LOWER LEFT CURLY BRACKET SECTIONmPENCILmQUADRANT CIRCULAR ARCmSHADOWED WHITE CIRCLEzcSQUAREmT
O LOWER LEFT FILLnRIANGLEsULAR MEDIUM SHADEgSEVEN EIGHTHS BLOCKgTHREE EIGHTHS BLOCKmQUARTERS BLOCK
hRIANGULAR ONE QUARTER BLOCKcSIDE-DOWN FACEcWARDS ANCORAjRROWn AND RIGHT ONE EIGHTH BLOCKoFROM BAR
oLEFTWARDS OF DOWNWARDS ARROWoTO BARoWITH DOUBLE STROKEtEQUILATERAL ARROWHEADtHORIZONTAL STROKEtLA
RGE TRIANGLE ARROWHEADtMEDIUM TRIANGLE ARROWHEADtNOTCHED TAILtSMALL EQUILATERAL ARROWHEADzaTRIANGL
E ARROWHEADtTIP LEFTWARDSxRIGHTWARDSiBLACK ARROWoCIRCLED WHITE ARROWiCOMPRESSED ARROWiDASHED ARROW
jOUBLE ARROWiFINGER-POST ARROWiHARPOON WITH BARB LEFT BESIDE DOWNWARDS HARPOON WITH BARB RIGHTznUP
WARDS HARPOON WITH BARB RIGHTzgFROM BARzgTO BARzfWARDSzbRIGHT FROM BARzhTO BARzgWARDSjEAVY ARROWoC
OMPRESSED ARROWiPAIRED ARROWSiQUADRUPLE ARROWiROCKETiSANS-SERIF ARROWjQUARED ARROWiTRIANGLE ARROWH
EADq-HEADED ARROWze LEFTWARDS OF DOWNWARDS TRIANGLE-HEADED ARROWzfTO BARzfWITH BOLD SHAFTzkDOUBL
E HORIZONTAL STROKEzkHEAVY SHAFTzkLONG TIP LEFTWARDSztRIGHTWARDSzkMEDIUM SHAFTzkNARROW SHAFTzkVER
Y HEAVY SHAFTyDASHED ARROWyPAIRED ARROWSlPLE ARROWjWO HEADED ARROWl-HEADED ARROW FROM SMALL CIRCLE
zaWITH TRIANGLE ARROWHEADSiWHITE ARROWt FROM BARzd WITH HORIZONTAL BARuON PEDESTALzg WITH HORIZONT
AL BARzmVERTICAL BARuWITHIN TRIANGLE ARROWHEADoDOUBLE ARROWzb ON PEDESTALbRANUSbSaVAI COMMAeDIGI
T EIGHTkFIVElOURkNINEkONEkSEVENlIXkTHREElWOkZEROeFULL STOPeQUESTION MARKeSYLLABLE AoNnBAoEpEoHApEq
EpIpOqOpUoIoOpOoUnCAoEpEoIoOpOoUnDAoEpEoHApEqEpHAqErEqIqOrOqUpIpOqOpUoIoOpOoUnEoEpNoNnFAoEpEoIoOpO
oUnGAoBApEqEqNpIpOqNqOpUoEpEpNoIoOpOoUnHApNoEpEpNoIpNoOpNpOoUpNnIoNnJAoEpEoIoOpOoUnKApNoEpEoIoOpOo
PAqNpEqEqNpIpOqOpUoUnLAoEpEpNGTHENERoIoOpOoUnMAoBApEqEpIpOqOpUoEpEoGBAqErEqIqOrOqUoIoOpOoUnNAoDApE
qEpIpOqLE DOtFAtKAtMAtSOOqOpUoEpEoGpANpENpGAqErErNqIqOrOqUpONoIoJApEqEpIpOqOpUoOpOoUoYApEqEpIpOqOp
UnOoNoOpNnPAoEpEoIoOpOoUnRAoEpEoIoOpOoUnSAoEpEoHApEqEpIpOqOpUoIoOpOoUnTAoEpEoHApEqEpIpOqOpUoIoOpOo
UnUoNnVAoEpEoIoOpOoUnWApNoEpEqNpNoIpNoOpNpOqNoUpNnYAoEpEoIoOpOoUnZAoEpEoHApEqEpIpOqOpUoIoOpOoUgMBO
L BANGlDANGmO-OnONGlFAAmEENGlJONGlKEENGmUNGlNIIlTAAmINGmONGcMPIREcRIATION SELECTOR-1u0v0v1v2v3v4v5
v6v7v8v9u1v0v1v2v3v4v5v6v7v8v9u2v0v1v2v3v4v5v6v7v8v9u3v0v1v2v3v4v5v6v7v8v9u4v0v1v2v3v4v5v6v7v8v9u5
v0v1v2v3v4v5v6v7v8v9u6v0v1v2v3v4v5v6v7v8v9u7v0v1v2v3v4v5v6v7v8v9u8v0v1v2v3v4v5v6v7v8v9u9v0v1v2v3v4
v5v6v7v8v9t2u0v0v1v2v3v4v5v6v7v8v9u1v0v1v2v3v4v5v6v7v8v9u2v0v1v2v3v4v5v6v7v8v9u3v0v1v2v3v4v5v6v7v8
v9u4v0v1v2v3v4v5v6v7v8v9u5v0v1v2v3v4v5v6u6u7u8u9t3u0u1u2u3u4u5u6u7u8u9t4u0u1u2u3u4u5u6u7u8u9t5u0u1
u2u3u4u5u6u7u8u9t6u0u1u2u3u4u5u6u7u8u9t7u0u1u2u3u4u5u6u7u8u9t8u0u1u2u3u4u5u6u7u8u9t9u0u1u2u3u4u5u6
u7u8u9bECTOR OR CROSS PRODUCTcDIC SIGN ANUSVARA ANTARGOMUKHAuBAHIRGOMUKHAuUBHAYATO MUKHAuVAMAGOMUK
HAzg WITH TAILmRDHAVISARGAmTIKRAMAlDOUBLE ANUSVARA ANTARGOMUKHAlHEXIFORM LONG ANUSVARAlJIHVAMULIYA
lLONG ANUSVARAlNIHSHVASAlREVERSED VISARGA ANUDATTAzdUDATTAmOTATED ARDHAVISARGAmTHANG LONG ANUSVARA
lTIRYAKlUPADHMANIYAlVISARGA ANUDATTAzc WITH TAILtSVARITAtUDATTAza WITH TAILlYAJURVEDIC MIDLINE SVA
RITAgTONE ATHARVAVEDIC INDEPENDENT SVARITAlCANDRA ABOVEsBELOWlDOT BELOWnUBLE RING ABOVEsSVARITAlKA
RSHANAnTHAKA ANUDATTAlPRENKHAlRIGVEDIC KASHMIRI INDEPENDENT SVARITAnNG ABOVElSHARAlTHREE DOTS BELO
WmRIPLE SVARITAmWO DOTS BELOWlYAJURVEDIC AGGRAVATED INDEPENDENT SVARITAwINDEPENDENT SVARITAwKATHAK
A INDEPENDENT SVARITAzy SCHROEDERcRSICLEdTICAL BAR BESIDE RIGHT TRIANGLEnDOUBLE LEFT TURNSTILEnTRI
PLE RIGHT TURNSTILEnWITH HORIZONTAL STROKEjELLIPSISjFOUR DOTSjIDEOGRAPHIC ITERATION MARKjKANA REPE
AT MARKza LOWER HALFzbUPPER HALFvWITH VOICED SOUND MARKzs UPPER HALFjLINEn EXTENSIONoWITH CIRCLE A
BOVEzbBELOWtMIDDLE DOTjMALE WITH STROKE SIGNjONE EIGHTH BLOCK-2zb3zb4zb5zb6zb7jSIX DOTSjTAB KEYmUL
ATIONt SETkILDEkRAFFIC LIGHTjZIGZAG LINEdY BOLD GREEK CROSSfHEAVY EIGHT POINTED BLACK STARrSPOKE
D ASTERISKlFIVE SPOKED ASTERISKlGREEK CROSSlREVERSE SOLIDUSlSALTIREmIX SPOKED ASTERISKmOLIDUSlWHIT
E CIRCLErSQUAREfMUCH GREATER-THANkLESS-THANcSTAbIBRATION MODEcCTORY HANDcDEO CAMERAgGAMEfCASSETTEc
ETNAMESE ALTERNATE READING MARK CAzjNHAYdWDATA SQUAREcOLINcRGOcTHKUQI CAPITAL LETTER AyBBEzaEyCEza
HEyDEzaHEyEzaIyFEyGAyHAzaHAyIzaJEyJEyKAyLAzaLAyMEyNEzaJEyOyPEyQAyREySEzaHEyTEzaHEyUyVEyXEyYyZEjSMA
LL LETTER AwBBExEwCExHEwDExHEwExIwFEwGAwHAxHAwIxJEwJEwKAwLAxLAwMEwNExJEwOwPEwQAwREwSExHEwTExHEwUwV
EwXEwYwZEbOIDED GREEK CROSScLCANOdLEYBALLdUME INTEGRALbS1d0e0e1e2e3e4e5e6e7e8e9d1e0e1e2e3e4e5e6e7e
8e9d2e0e1e2e3e4e5e6e7e8e9d3e0e1e2e3e4e5e6e7e8e9d4e0e1e2e3e4e5e6e7e8e9d5e0e1e2e3e4e5e6e7e8e9d6e0e1e
2e3e4e5e6e7e8e9d7e0e1e2e3e4e5e6e7e8e9d8e0e1e2e3e4e5e6e7e8e9d9e0e1e2e3e4e5e6e7e8e9c2d0e0e1e2e3e4e5e
6e7e8e9d1e0e1e2e3e4e5e6e7e8e9d2e0e1e2e3e4e5e6e7e8e9d3e0e1e2e3e4e5e6e7e8e9d4e0e1e2e3e4e5e6e7e8e9d5e
0e1e2e3e4e5e6d6d7d8d9c3d0d1d2d3d4d5d6d7d8d9c4d0d1d2d3d4d5d6d7d8d9c5d0d1d2d3d4d5d6d7d8d9c6d0d1d2d3d
4d5d6d7d8d9c7d0d1d2d3d4d5d6d7d8d9c8d0d1d2d3d4d5d6d7d8d9c9d0d1d2d3d4d5d6d7d8d9bTcSbULCANUSdGAR FRAC
TION FIVE EIGHTHSvSIXTHSrOUR FIFTHSqONE EIGHTHuFIFTHuHALFuNINTHuQUARTERuSEVENTHvIXTHuTENTHvHIRDqSE
VEN EIGHTHSqTHREE EIGHTHSwFIFTHSwQUARTERSrWO FIFTHSuTHIRDSqZERO THIRDSaWAFFLEcNCHO DIGIT EIGHTnFIV
EoOURnNINEnONEnSEVENoIXnTHREEoWOnZEROhLETTER ApAqNrGpNGpUoBAoCAoDAoEpNoFAoGAoHAoIpNGoJAoKApHAoLApL
HAoMAoNApGApYAoOpNqGoPApHAoRAoSApHAoTApHApRApSAoUpENoVAoWAoYApIHoZAhNGUN SIGNhTONE KOIpNImTUPpNIdI
NG CRESCENT MOON SYMBOLhGIBBOUS MOON SYMBOLcRANG CITI CAPITAL LETTER AzdMzdNGzdTzcBUzcDAzcEzdNNzeY
zcGAzcHARzdIYOzdOLOzeRRzcIIzcKOzcNGAAzdUNGzcOzdDDzcPUzcSIIzdSUUzcTTEzcUCzdUzcVIYOzcWIzcYAzdOzdUzeJ
mDIGIT EIGHTsFIVEtOURsNINEsONEsSEVENtIXsTHREEtWOsZEROmNUMBER EIGHTYtFIFTYuORTYtNINETYtSEVENTYuIXTY
tTENuHIRTYuWENTYmOMmSMALL LETTER AzbMzbNGzbTzaBUzaDAzaEzbNNzcYzaGAzaHARzbIYOzbOLOzcRRzaIIzaKOzaNGA
AzbUNGzaOzbDDzaPUzaSIIzbSUUzaTTEzaUCzbUzaVIYOzaWIzaYAzbOzbUzcJdNING SIGNcSTEBASKETcTCHdER BUFFALOg
CLOSETgPOLOgWAVEfMELONcVE ARROW POINTING DIRECTLY LEFTzeRIGHTfDASHdING BLACK FLAGhHAND SIGNhWHIT
E FLAGdY DASHfLINEgOW LINEfOVERLINEcXING CRESCENT MOON SYMBOLhGIBBOUS MOON SYMBOLbEARY CAT FACEgFA
CEcDDINGdGE-TAILED RIGHTWARDS ARROWcIERSTRASS ELLIPTIC FUNCTIONdGHT LIFTERcST SYRIAC CROSSbHALEcEE
Lf OF DHARMAfCHAIR SYMBOLcITE ARROW SHAFT WIDTH ONEyTWO THIRDSgBULLETgCHESS BISHOPs ROTATED NINET
Y DEGREESzcTWO HUNDRED SEVENTY DEGREESmEQUIHOPPERw ROTATED NINETY DEGREESmKINGq ROTATED NINETY DEG
REESzaTWO HUNDRED SEVENTY DEGREESnNIGHTs ROTATED FORTY-FIVE DEGREESzcNINETY DEGREESzcONE HUNDRED T
HIRTY-FIVE DEGREESzcTHREE HUNDRED FIFTEEN DEGREESzdWO HUNDRED SEVENTY DEGREESzoTWENTY-FIVE DEGREES
s-BISHOPtQUEENtROOKmPAWNq ROTATED NINETY DEGREESzaTWO HUNDRED SEVENTY DEGREESmQUEENr ROTATED NINET
Y DEGREESzbTWO HUNDRED SEVENTY DEGREESmROOKq ROTATED NINETY DEGREESzaTWO HUNDRED SEVENTY DEGREESmT
URNED BISHOPtKINGuNIGHTtPAWNtQUEENtROOKhIRCLEm CONTAINING BLACK SMALL CIRCLEnWITH DOT RIGHTuWN ARR
OWsLOWER LEFT QUADRANTyRIGHT QUADRANTsTWO DOTSsUPPER LEFT QUADRANTyRIGHT QUADRANThLUB SUIThONCAVE-
SIDED DIAMONDzc WITH LEFTWARDS TICKziRIGHTWARDS TICKgDIAMONDn CONTAINING BLACK MEDIUM DIAMONDzgSMA
LL DIAMONDzgVERY SMALL DIAMONDoIN SQUAREoSUIToWITH CENTRED DOThOWN POINTING BACKHAND INDEXuINDEXuL
EFT HAND INDEXk-POINTING SMALL TRIANGLEuTRIANGLEhRAUGHTS KINGpMANgEXCLAMATION MARK ORNAMENTgFLAG
k WITH HORIZONTAL MIDDLE BLACK STRIPEiORETTEjWERhOUR POINTED CUSPtSTARhROWNING FACEgHARD SHELL FLO
PPY DISKhEARTl SUITjVY CHECK MARKmSALTIRE WITH ROUNDED CORNERSiXAGONhORIZONTAL ELLIPSEiURGLASSgLAR
GE SQUAREiTIN CROSShEFT LANE MERGElPOINTING BACKHAND INDEXuINDEXk-POINTING POINTERuSMALL TRIANGLEu
TRIANGLEhOZENGE CONTAINING BLACK SMALL LOZENGEgMEDIUM DIAMONDnLOZENGEnSMALL SQUAREoQUAREoTARhOON S
ELENAgNIBgPARALLELOGRAMhENNANTjTAGONgQUESTION MARK ORNAMENTgRECTANGLEhIGHT POINTING BACKHAND INDEX
vINDEXl-POINTING PENTAGONwOINTERvSMALL TRIANGLEvTRIANGLEgSCISSORShESAME DOThHOGI PIECEhMALL LOZENG
EmSQUAREnTARiILING FACEhPADE SUIThQUAREm BUTTONnCONTAINING BLACK MEDIUM SQUAREzfSMALL SQUAREzfVER
Y SMALL SQUAREnWITH CENTRE VERTICAL LINEsLEFTWARDS TICKtOWER LEFT QUADRANTyRIGHT QUADRANTsRIGHTWAR
DS TICKtOUNDED CORNERSsUPPER LEFT QUADRANTyRIGHT QUADRANTsVERTICAL BISECTING LINEhTARhUNj BEHIND C
LOUDw WITH RAINkWITH RAYSpSMALL CLOUDgTELEPHONEhOUCHTONE TELEPHONEhRAPEZIUMiIANGLE CONTAINING SMAL
L WHITE TRIANGLEhWO-WAY LEFT WAY TRAFFICgUP POINTING BACKHAND INDEXsINDEXi-POINTING CHEVRONsSMAL
L TRIANGLEsTRIANGLEzb WITH DOTgVERTICAL BARpELLIPSEpRECTANGLEjY SMALL SQUAREf-FEATHERED RIGHTWARD
S ARROWbIDE-HEADED DOWNWARDS BARB ARROWwHEAVY BARB ARROWwLIGHT BARB ARROWwMEDIUM BARB ARROWwVERY H
EAVY BARB ARROWmLEFTWARDS BARB ARROWwHEAVY BARB ARROWwLIGHT BARB ARROWwMEDIUM BARB ARROWwVERY HEAV
Y BARB ARROWmNORTH EAST BARB ARROWxHEAVY BARB ARROWxLIGHT BARB ARROWxMEDIUM BARB ARROWxVERY HEAV
Y BARB ARROWsWEST BARB ARROWxHEAVY BARB ARROWxLIGHT BARB ARROWxMEDIUM BARB ARROWxVERY HEAVY BARB A
RROWmRIGHTWARDS BARB ARROWxHEAVY BARB ARROWxLIGHT BARB ARROWxMEDIUM BARB ARROWxVERY HEAVY BARB ARR
OWmSOUTH EAST BARB ARROWxHEAVY BARB ARROWxLIGHT BARB ARROWxMEDIUM BARB ARROWxVERY HEAVY BARB ARROW
sWEST BARB ARROWxHEAVY BARB ARROWxLIGHT BARB ARROWxMEDIUM BARB ARROWxVERY HEAVY BARB ARROWmUPWARD
S BARB ARROWuHEAVY BARB ARROWuLIGHT BARB ARROWuMEDIUM BARB ARROWuVERY HEAVY BARB ARROWcGGLY VERTIC
AL LINEcLTED FLOWERcND BLOWING FACEfCHIMEeOWdE GLASSdKING FACEcRED KEYBOARDbJbOLF FACEcMANf WITH B
UNNY EARSfS BOOTShCLOTHEShHAThSANDALdENS SYMBOLcN SIGNcODcRD JOINERfSEPARATOR MIDDLE DOTdLD MAPdMd
RIED FACEbRAPPED PRESENTcEATH PRODUCTdNCHdSTLERScITING HANDaX IN A RECTANGLE BOXb-RAYbIANGQI BLAC
K CANNONpHARIOToELEPHANToGENERALoHORSEoMANDARINoSOLDIERiRED CANNONnHARIOTmELEPHANTmGENERALmHORSEmM
ANDARINmSOLDIERbORaYAWNING FACEbELLOW HEARTcN SIGNcZIDI COMBINING HAMZA MARKrMADDA MARKhHYPHENATIO
N MARKhLETTER BEoCHHIMqIMpIMoDADqLoELIFpTpWpYNoFAoGAFoHAYpHAoJAoKAFpHAFoLAMr WITH DOT ABOVEoMIMoNU
NoOWoPEpHEoQAFoRApHAoSADpEpHINpINoTApHEoUMoVAq ALTERNATE FORMoWAWoXApHEYNoYOTr WITH CIRCUMFLEX ABO
VEoZAqLpEbI RADICAL BBUTmURlCHEmIPmUOPmYnPnTlDDURmUlGAmEPmGOPnUOmOTlHMOmXITnOPnUOlJJIEnUTnYmOlKEmI
TlLInEmYRlMImOPlNBIEmYIPnOPmZUPlOPlPUTmYTlQOTlSHATnOPnURnYmSIlTATmUlVEPmURlWOlYITmOlZAmOTmUPnRmZIE
TdSYLLABLE AnPnTnXmBAoPoToXnBApPpTpXoEpPpXoIpEqPqTqXpPpTpXoOpPpTpXoUpOqPqXpPpRqXpTpXoYpPpTpXnEoPoX
nIoEpPpTpXoPoToXnOoPoToXnUoOpPpXoPoRpXoToXnYoPoRpXoToXmCAoPoToXnEoPoXnHApPpTpXoEpPpTpXoOpPpTpXoUpO
qPqTqXpPpRqXpXoYpPpRqXpTpXnIoEpPpTpXoPoToXnOoPoToXnUoOpPpXoPoRpXoToXnYoPoRpXoToXmDAoPoToXnDApPpTpX
oEpPpXoIpEqPqXpPpTpXoOpPpTpXoUpOqPqXpPpRqXpTpXnEoPoXnIoEpPpXoPoToXnOoPoToXnUoOpXoPoRpXoToXmEnXmFAo
PoToXnIoPoToXnOoPoXnUoPoRpXoToXnYoPoToXmGAoPoToXnEoPoToXnGApPpTpXoEpPpTpXoIpEqPqXpTpXoOpPpTpXoUpOq
PqTqXpPpRqXpTpXnIoEpPpTpXoPoToXnOoPoToXnUoOpPpTpXoPoRpXoToXmHAoPoToXnEoPoXnIEpXoTnLApPpTpXoEpPpXoI
pEqPqXpPpTpXoOpPpXoUpOqPqXpPpRqXpTpXoYpPpRqXpTpXnMApPpTpXoIpEqPqXpPpTpXoOpPpTpXoUpOqPqXpPpRqXpTpXo
YpPpRqXpXnNApPpTpXoEpPpXoIpEqPqTqXpPpTpXoOPpTpXoUOqXpTnOoPoToXnUOpPpTpXnXApPpTpXoEpPpXoIpEqPqTqXpP
pTpXoOpPpTpXoUOqPqTqXmInEoPoToXnPnToERATION MARKnXmJIoEpPpTpXoPoToXnJIpEqPqTqXpPpTpXoOpPpTpXoUpOqP
qXpPpRqXpTpXoYpPpTpXnOoPoToXnUoOpPpTpXoPoRpXoToXnYoPoRpXoToXmKAoPoToXnEoPoToXnIoEpPpXoPoToXnOoPoTo
XnUoOpPpXoPoRpXoToXmLAoPoToXnEoPoXnIoEpPpTpXoPoToXnOoPoToXnUoOpPpTpXoPoRpXoToXnYoPoRpXoToXmMAoPoTo
XnEoXnGApPpTpXoEpPpXoIEqXoOpPpTpXoUpOqPqXpPpRqXpTpXnIoEpPpXoPoToXnOoPoToXnUoOpPpTpXoPoRpXoToXnYoPo
ToXmNAoPoXnBApPpTpXoIpEqPqXpPpTpXoOpPpTpXoUpPpRqXpTpXoYpPpRqXpTpXnDApPpTpXoEpPpXoIpEqXpPpTpXoOpPpT
pXoUpPpRqXpTpXnEoPoXnGApPpTpXoEpPpXoIEqPqXoOpPpTpXoUOqTqXnIoEpPpXoPoToXnJIpEqPqTqXpPpTpXoOpPpTpXoU
pOqXpPpRqXpXoYpPpRqXpTpXnOoPoToXnRApPpTpXoEpPpTpXoOpPpXoUpPpRqXpTpXoYpPpRqXpTpXnUoOpPpXoPoRpXoToXn
YIpEqPqTqXpPpTpXoOpPpTpXoUpOqPqXpPpTpXnZApPpTpXoEpXoIpEqPqXpPpTpXoOPpXoUpOqXpPpRqXpXoYpPpRqXpTpXmO
nPnTnXmPAoPoToXnIoEpPpXoPoToXnOoPoToXnUoOpPpXoPoRpXoToXnYoPoRpXoToXmQIoEpPpTpXoPoToXnOoPoToXnUoOpP
pTpXoPoRpXoToXnYoPoRpXoToXmRAoPoToXnEoPoXnOoPoToXnRApXoEpPpTpXoOpPpTpXoUpOqXpPpRqXpTpXoYpPpRqXpTpX
nUoOpPpXoPoRpXoToXnYoPoRpXoToXmSAoPoToXnEoPoXnHApPpTpXoEpPpTpXoOpPpTpXoUpOqPqXpPpRqXpTpXoYpPpRqXpT
pXnIoEpPpXoPoToXnOoPoToXnSApPpTpXoEpPpXoIpEqPqXpPpTpXoOpPpTpXoUpPpTpXoYpPpRqXpTpXnUoOpPpXoPoRpXoTo
XnYoPoRpXoToXmTAoPoToXnEoPoXnIoEpPpXoPoToXnOoPoToXnUoOpPpTpXoPoRpXoToXmUOoPoXmVAoPoToXnEPoXnIoEpPp
TpXoPoToXnOoPoToXnUoPoRpXoToXnYoPoRpXoToXmWAoPoToXnEoPoXnOoPoXnUoOpPpXmXIoEpPpTpXoPoToXnOoPoToXnUO
pXnYoPoRpXoToXmYIoEpPpTpXoPoToXnOoPoToXnUoOpPpTpXoPoRpXoToXnYoPoRpXoToXmZAoPoToXnEoPoXnHApPpTpXoEp
PpTpXoOpPpTpXoUpOqPqXpPpRqXpTpXoYpPpRqXpTpXnIoEpPpXoPoToXnOoPoToXnUoOpPpXoPoRpXoToXnYoPoRpXoToXnZA
pPpTpXoEpPpXoIpEqPqTqXpPpTpXoOpPpXoUpPpRqXpXoYpPpRqXpTpXcN YANGbO-YOaZ NOTATION BAG MEMBERSHIPlDOM
AIN ANTIRESTRICTIONlLEFT BINDING BRACKETqIMAGE BRACKETlRANGE ANTIRESTRICTIONmELATIONAL COMPOSITION
mIGHT BINDING BRACKETrIMAGE BRACKETlSCHEMA COMPOSITIONsPIPINGtROJECTIONmPOTlTYPE COLONbANABAZAR SQ
UARE CLOSING DOUBLE-LINED HEAD MARKzaHEAD MARKtUSTER-FINAL LETTER LAznRAznVAznYAzaINITIAL LETTER R
ArFINAL CONSONANT MARKrINITIAL DOUBLE-LINED HEAD MARKzaHEAD MARKrLETTER -AyAyBAzaHAyCAzaHAyDAzaDAz
bHAzaHAzaZAzbHAyGAzaHAyHAyJAyKAzaHAzaSSAyLAyMAyNAzaGAzaNAzaYAyPAzaHAyRAySAzaHAzaSAyTAzaHAzaSAzbHAz
aTAzbHAyVAyYAyZAzaHArMARK DOUBLE SHADwLONG TSHEGwSHADwTSHEGrSIGN ANUSVARAwCANDRA WITH ORNAMENTzdBI
NDUzi WITH ORNAMENTwVIRAMAySARGAsUBJOINERrVOWEL LENGTH MARKxSIGN AIzeUzdEzdIzdOzeEzdREVERSED IzdUz
eEbEBRA FACEcRO WIDTH JOINERlNO-BREAK SPACEnN-JOINERlSPACEcUSbIPPER-MOUTH FACEbNAMENNY COMBINING A
TTACHING VERTICAL OMETtLOWER TONAL RANGE INDICATORtMARK BORZAYAyCHASHKAzg POLNAYAzaURVED OMETyDEME
STVENNY ZADERZHKAzaVOETOCHIEyGORAZDO NIZKO ON LEFTzqRIGHTznS KRYZHEM ON LEFTzzbRIGHTzhVYSOKOyKACHK
AzaRYZHze ON LEFTzaUPNAYAyLOMKAyMALO POVYSHE ON LEFTzpRIGHTzmS KHOKHLOM ON LEFTzzbRIGHTzpRYZHEMznT
RANNOyNIZKO ON LEFTziRIGHTzfS KRYZHEM ON LEFTzsRIGHTyOBLACHKOzaNzaTSECHKAyPODCHASHIEzj WITH VERTIC
AL STROKEzcVERTKAzbVYSHE ON LEFTzkRIGHTzhS KHOKHLOM ON LEFTzvRIGHTzkRYZHEMziTRANNOyRAVNOzbZSEKAySK
OBAzaOROCHYA NOZHKAzaREDNE ON LEFTzjRIGHTzaTRANNO MALO POVYSHEyTIKHAYAzaOCHKAzaSATA ON LEFTziRIGHT
zfS KRYZHEMyUDARKAyVYSOKO ON LEFTzjRIGHTzgS KHOKHLOM ON LEFTzuRIGHTzjRYZHEMyZADERZHKAzaELOzbVOKtTO
NAL RANGE MARK MRACHNOzlSVETLOzlTRESVETLOjNEUME CHASHKArELYUSTKApDEMESTVENNY KLYUCHrRBITSAqOUBLE Z
APYATAYAqUDAqVA V CHELNUpFITApGOLUBCHIK BORZYzaMRACHNYzaSVETLYzaTIKHYzbRESVETLYpKHAMILOqLYUCHqOBYL
AqRYUKu TIKHYsZHqUFISMApMECHIKv KLYUCHENEPOSTOYANNYzePOVODNYzeVOYwPOVODNYpNEMKApOBLAKOqSOKAu KLYUC
HEVAYA NEPOSTOYANNAYAziSVETLAYAwRYUKOVAYA SVETLAYAvSVETLAYAvTRESVETLAYApPALKArRAKLITrUKqEREVODKA
y NEPOSTOYANNAYAqODCHASHIErLKULIZMYpREVERSED CHELYUSTKAqOGpSKAMEYTSA DVOECHELNAYA KLYUCHEVAYAznNEP
OSTOYANNAYAznPROSTAYAznSVETLAYAzaKLYUCHENEPOSTOYANNAYAzhVAYA SVETLAYAzmTIKHAYAzaMRACHNAYAzaSVETLAY
AzaTIKHAYAzbRESVETLAYAqLOZHITIEy S KRYZHEMzcZAPYATOYzaZAKRYTOEqTATYAv NEPOSTOYANNAYAwS DVUMYA ZAPY
ATYMIyKRYZHEMzg I ZAPYATOYyROGOMyZAPYATOYzh I KRYZHEMzkPODCHASHIEMwZAKRYTAYAzg S ZAPYATOYrOPITSA
x S OCHKOMyWITH SOROCHYA NOZHKArRELA DVOECHELNAYAzj KLYUCHEVAYAzgOKRYZHEVAYAzhPOVODNAYAzq KLYUCHEV
AYAwGROMNAYAzf WITH SINGLE ZAPYATAYAzbOKRYZHEVAYAzm POVODNAYAzcPOVODNAYAzl WITH DOUBLE ZAPYATAYAzr
SINGLE ZAPYATAYAwKLYUCHENEPOSTOYANNAYAzePOVODNAYAxRYUKOVAYAzh GROMNAYAzq WITH SINGLE ZAPYATAYAzmOK
RYZHEVAYAzx POVODNAYAznPOVODNAYAzw WITH DOUBLE ZAPYATAYAzzdSINGLE ZAPYATAYAziPOVODNAYAziTRYASKAzaZ
HEVAYAwMRACHNOTIKHAYAwNEPOSTOYANNAYAwPOLUPOVODNAYAyVODNAYAxROSTAYAwTIKHAYA PUTNAYAxRYASOGLASNAYAzd
POVODNAYAzdSTRELNAYApVRAKHIYA KLYUCHEVAYA MRACHNAYAzlPROSTAYAzlSVETLAYAzlTRESVETLAYAyMRACHNAYAyPRO
STAYAySVETLAYAyTRESVETLAYApZANOZHEKrPYATAYAqMEYTSAjPRIZNAK MODIFIER DIRECTION FLIPzbKRYZHzbLEVEL-2
zh3zbROGbOMBIEbWJcNBSPdJcSP
"

/-- What a small letter counts. -/
def nameCount (c : Char) : Nat :=
  c.toNat - 'a'.toNat

/-- How many letters two texts begin with alike. -/
def sharedLength : Text → Text → Nat
  | c :: s, d :: t => if c = d then sharedLength s t + 1 else 0
  | _, _ => 0

/--
Whether a name is in a table that is written out, where the entry before agrees with it in so
many letters, and the entry at hand shares so many with the one before: fewer are shared only
once the order has gone past the name. At most so many characters are read.
-/
def isListed (name : Text) : Nat → Nat → Nat → Text → Bool
  | 0, _, _, _ => false
  | _ + 1, _, _, [] => false
  | budget + 1, agreed, shared, c :: s =>
    if c.isLower then isListed name budget agreed (shared + nameCount c) s
    else if c = '\n' then isListed name budget agreed shared s
    else
      let own := ((c :: s).takeWhile fun d => !d.isLower).filter (· ≠ '\n')
      let rest := (c :: s).dropWhile fun d => !d.isLower
      if shared > agreed then isListed name budget agreed 0 rest
      else if shared < agreed then false
      else
        let wanted := name.drop shared
        wanted = own || isListed name budget (shared + sharedLength wanted own) 0 rest

/-- The letters that begin, carry and end a syllable of Hangul. -/
def syllableParts : List (List Text) :=
  ([["G", "GG", "N", "D", "DD", "R", "M", "B", "BB", "S", "SS", "", "J", "JJ", "C", "K", "T", "P",
     "H"],
    ["A", "AE", "YA", "YAE", "EO", "E", "YEO", "YE", "O", "WA", "WAE", "OE", "YO", "U", "WEO",
     "WE", "WI", "YU", "EU", "YI", "I"],
    ["", "G", "GG", "GS", "N", "NJ", "NH", "D", "L", "LG", "LM", "LB", "LS", "LT", "LP", "LH", "M",
     "B", "BS", "S", "SS", "NG", "J", "C", "K", "T", "P", "H"]] : List (List String)).map
    fun part => part.map String.toList

/-- Whether a text is made of one text of each list, in order. -/
def isMadeOf : List (List Text) → Text → Bool
  | [], s => s.isEmpty
  | part :: parts, s => part.any fun own => (afterPrefix? own s).any (isMadeOf parts)

/-- The code points of ideographs that are named by them. -/
def ideographs : List (Nat × Nat) :=
  [(0x3400, 0x4DBF), (0x4E00, 0x9FFF), (0x20000, 0x2A6DF), (0x2A700, 0x2B738),
   (0x2B740, 0x2B81D), (0x2B820, 0x2CEA1), (0x2CEB0, 0x2EBE0), (0x30000, 0x3134A)]

/-- Whether a text is the code point of an ideograph, in four or five large digits. -/
def isIdeographNumber (s : Text) : Bool :=
  let value (c : Char) : Option Nat :=
    if c.isDigit then some (c.toNat - '0'.toNat)
    else if 'A' ≤ c && c ≤ 'F' then some (c.toNat - 'A'.toNat + 10)
    else none
  (s.length = 4 || s.length = 5) &&
    match s.mapM value with
    | none => false
    | some digits =>
      let n := digits.foldl (fun n d => 16 * n + d) 0
      ideographs.any fun (first, last) => first ≤ n && n ≤ last

/-- Whether a character has a name; capitals count only where the name follows a rule. -/
def isCharacterName (s : Text) : Bool :=
  match afterPrefix? "HANGUL SYLLABLE " s, afterPrefix? "CJK UNIFIED IDEOGRAPH-" s with
  | some rest, _ => isMadeOf syllableParts rest
  | _, some rest => isIdeographNumber rest
  | _, _ =>
    let rows := nameRows.toList
    isListed (s.map Char.toUpper) rows.length 0 0 rows

end Text
end NoteTemplates
