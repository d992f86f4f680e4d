import MemoryAtlas.Text.Characters

/-!
Names of the characters of historic scripts, from U+10000 to U+11FFF.
-/

namespace MemoryAtlas.Text.Name

def ancient : List Block :=
  [
    ⟨0x10000, "LINEAR B SYLLABLE ", "B008 A,B038 E,B028 I,B061 O,B010 U"⟩,
    ⟨0x10005, "LINEAR B SYLLABLE ", "B001 DA,B045 DE,B007 DI,B014 DO,B051 DU,B057 JA,B046 JE"⟩,
    ⟨0x1000D, "LINEAR B SYLLABLE ", "B036 JO,B065 JU,B077 KA,B044 KE,B067 KI"⟩,
    ⟨0x10012, "LINEAR B SYLLABLE ", "B070 KO,B081 KU,B080 MA,B013 ME,B073 MI,B015 MO,B023 MU"⟩,
    ⟨0x10019, "LINEAR B SYLLABLE ", "B006 NA,B024 NE,B030 NI,B052 NO,B055 NU,B003 PA,B072 PE"⟩,
    ⟨0x10020, "LINEAR B SYLLABLE ", "B039 PI,B011 PO,B050 PU,B016 QA,B078 QE,B021 QI,B032 QO"⟩,
    ⟨0x10028, "LINEAR B SYLLABLE ", "B060 RA,B027 RE,B053 RI,B002 RO,B026 RU"⟩,
    ⟨0x1002D, "LINEAR B SYLLABLE ", "B031 SA,B009 SE,B041 SI,B012 SO,B058 SU,B059 TA,B004 TE"⟩,
    ⟨0x10034, "LINEAR B SYLLABLE ", "B037 TI,B005 TO,B069 TU,B054 WA,B075 WE,B040 WI,B042 WO"⟩,
    ⟨0x1003C, "LINEAR B SYLLABLE ", "B017 ZA,B074 ZE"⟩,
    ⟨0x1003F, "LINEAR B SYLLABLE ", "B020 ZO,B025 A2"⟩,
    ⟨0x10041, "LINEAR B SYLLABLE ", "B043 A3,B085 AU,B071 DWE,B090 DWO,B048 NWA,B029 PU2,B062 PTE"⟩,
    ⟨0x10048, "LINEAR B SYLLABLE ", "B076 RA2,B033 RA3,B068 RO2,B066 TA2,B087 TWE,B091 TWO"⟩,
    ⟨0x10050, "LINEAR B SYMBOL ", "B018,B019"⟩,
    ⟨0x10052, "LINEAR B SYMBOL ", "B022,B034,B047,B049,B056,B063,B064,B079,B082,B083,B086,B089"⟩,
    ⟨0x10080, "LINEAR B IDEOGRAM ", "B100 MAN,B102 WOMAN,B104 DEER,B105 EQUID"⟩,
    ⟨0x10084, "LINEAR B IDEOGRAM ", "B105F MARE,B105M STALLION,B106F EWE,B106M RAM,B107F SHE-GOAT"⟩,
    ⟨0x10089, "LINEAR B IDEOGRAM ", "B107M HE-GOAT,B108F SOW,B108M BOAR,B109F COW,B109M BULL"⟩,
    ⟨0x1008E, "LINEAR B IDEOGRAM ", "B120 WHEAT,B121 BARLEY,B122 OLIVE,B123 SPICE,B125 CYPERUS"⟩,
    ⟨0x10093, "LINEAR B MONOGRAM ", "B127 KAPO,B128 KANAKO"⟩,
    ⟨0x10095, "LINEAR B IDEOGRAM ", "B130 OIL,B131 WINE,B132"⟩,
    ⟨0x10098, "LINEAR B ", "MONOGRAM B133 AREPA,MONOGRAM B135 MERI,IDEOGRAM B140 BRONZE"⟩,
    ⟨0x1009B, "LINEAR B IDEOGRAM ", "B141 GOLD,B142,B145 WOOL,B146,B150,B151 HORN,B152,B153,B154"⟩,
    ⟨0x100A4, "", "LINEAR B MONOGRAM B156 TURO2"⟩,
    ⟨0x100A5, "LINEAR B IDEOGRAM ", "B157,B158,B159 CLOTH,B160,B161,B162 GARMENT,B163 ARMOUR"⟩,
    ⟨0x100AC, "LINEAR B IDEOGRAM ", "B164,B165,B166,B167,B168,B169,B170,B171,B172,B173 MONTH"⟩,
    ⟨0x100B6, "LINEAR B IDEOGRAM ", "B174,B176 TREE,B177,B178,B179,B180,B181,B182,B183,B184,B185"⟩,
    ⟨0x100C1, "LINEAR B IDEOGRAM ", "B189,B190,B191 HELMET,B220 FOOTSTOOL,B225 BATHTUB,B230 SPEAR"⟩,
    ⟨0x100C7, "LINEAR B IDEOGRAM ", "B231 ARROW,B232,B233 SWORD,B234,B236,B240 WHEELED CHARIOT"⟩,
    ⟨0x100CD, "LINEAR B IDEOGRAM ", "B241 CHARIOT,B242 CHARIOT FRAME,B243 WHEEL,B245,B246"⟩,
    ⟨0x100D2, "", "LINEAR B MONOGRAM B247 DIPTE"⟩,
    ⟨0x100D3, "LINEAR B IDEOGRAM ", "B248,B249,B251,B252,B253,B254 DART,B255,B256,B257,B258,B259"⟩,
    ⟨0x100DE, "LINEAR B IDEOGRAM VESSEL ", "B155,B200,B201,B202,B203,B204,B205,B206,B207"⟩,
    ⟨0x100E7, "LINEAR B IDEOGRAM VESSEL ", "B208,B209,B210,B211,B212,B213,B214,B215,B216,B217"⟩,
    ⟨0x100F1, "LINEAR B IDEOGRAM VESSEL ", "B218,B219,B221,B222,B226,B227,B228,B229,B250,B305"⟩,
    ⟨0x10100, "AEGEAN ", "WORD SEPARATOR LINE,WORD SEPARATOR DOT,CHECK MARK"⟩,
    ⟨0x10107, "AEGEAN NUMBER ", "ONE,TWO,THREE,FOUR"⟩,
    ⟨0x1010B, "AEGEAN NUMBER ", "FIVE,SIX,SEVEN,EIGHT,NINE,TEN,TWENTY,THIRTY,FORTY,FIFTY,SIXTY"⟩,
    ⟨0x10116, "AEGEAN NUMBER ", "SEVENTY,EIGHTY,NINETY,ONE HUNDRED,TWO HUNDRED,THREE HUNDRED"⟩,
    ⟨0x1011C, "AEGEAN NUMBER ", "FOUR HUNDRED,FIVE HUNDRED,SIX HUNDRED,SEVEN HUNDRED"⟩,
    ⟨0x10120, "AEGEAN NUMBER ", "EIGHT HUNDRED,NINE HUNDRED,ONE THOUSAND,TWO THOUSAND"⟩,
    ⟨0x10124, "AEGEAN NUMBER ", "THREE THOUSAND,FOUR THOUSAND,FIVE THOUSAND,SIX THOUSAND"⟩,
    ⟨0x10128, "AEGEAN NUMBER ", "SEVEN THOUSAND,EIGHT THOUSAND,NINE THOUSAND,TEN THOUSAND"⟩,
    ⟨0x1012C, "AEGEAN NUMBER ", "TWENTY THOUSAND,THIRTY THOUSAND,FORTY THOUSAND,FIFTY THOUSAND"⟩,
    ⟨0x10130, "AEGEAN NUMBER ", "SIXTY THOUSAND,SEVENTY THOUSAND,EIGHTY THOUSAND,NINETY THOUSAND"⟩,
    ⟨0x10137, "AEGEAN WEIGHT ", "BASE UNIT,FIRST SUBUNIT,SECOND SUBUNIT,THIRD SUBUNIT"⟩,
    ⟨0x1013B, "AEGEAN ", "WEIGHT FOURTH SUBUNIT,DRY MEASURE FIRST SUBUNIT"⟩,
    ⟨0x1013D, "AEGEAN ", "LIQUID MEASURE FIRST SUBUNIT,MEASURE SECOND SUBUNIT"⟩,
    ⟨0x1013F, "", "AEGEAN MEASURE THIRD SUBUNIT,GREEK ACROPHONIC ATTIC ONE QUARTER"⟩,
    ⟨0x10141, "GREEK ACROPHONIC ATTIC ", "ONE HALF,ONE DRACHMA,FIVE,FIFTY,FIVE HUNDRED"⟩,
    ⟨0x10146, "GREEK ACROPHONIC ATTIC ", "FIVE THOUSAND,FIFTY THOUSAND,FIVE TALENTS,TEN TALENTS"⟩,
    ⟨0x1014A, "GREEK ACROPHONIC ATTIC ", "FIFTY TALENTS,ONE HUNDRED TALENTS,FIVE HUNDRED TALENTS"⟩,
    ⟨0x1014D, "GREEK ACROPHONIC ATTIC ", "ONE THOUSAND TALENTS,FIVE THOUSAND TALENTS,FIVE STATERS"⟩,
    ⟨0x10150, "GREEK ACROPHONIC ATTIC ", "TEN STATERS,FIFTY STATERS,ONE HUNDRED STATERS"⟩,
    ⟨0x10153, "GREEK ACROPHONIC ATTIC ", "FIVE HUNDRED STATERS,ONE THOUSAND STATERS"⟩,
    ⟨0x10155, "GREEK ACROPHONIC ATTIC ", "TEN THOUSAND STATERS,FIFTY THOUSAND STATERS,TEN MNAS"⟩,
    ⟨0x10158, "", "GREEK ACROPHONIC HERAEUM ONE PLETHRON"⟩,
    ⟨0x10159, "GREEK ACROPHONIC ", "THESPIAN ONE,HERMIONIAN ONE,EPIDAUREAN TWO,THESPIAN TWO"⟩,
    ⟨0x1015D, "GREEK ACROPHONIC ", "CYRENAIC TWO DRACHMAS,EPIDAUREAN TWO DRACHMAS,TROEZENIAN FIVE"⟩,
    ⟨0x10160, "GREEK ACROPHONIC ", "TROEZENIAN TEN,TROEZENIAN TEN ALTERNATE FORM,HERMIONIAN TEN"⟩,
    ⟨0x10163, "GREEK ACROPHONIC ", "MESSENIAN TEN,THESPIAN TEN,THESPIAN THIRTY,TROEZENIAN FIFTY"⟩,
    ⟨0x10167, "GREEK ACROPHONIC ", "TROEZENIAN FIFTY ALTERNATE FORM,HERMIONIAN FIFTY"⟩,
    ⟨0x10169, "GREEK ACROPHONIC THESPIAN ", "FIFTY,ONE HUNDRED,THREE HUNDRED"⟩,
    ⟨0x1016C, "GREEK ACROPHONIC ", "EPIDAUREAN FIVE HUNDRED,TROEZENIAN FIVE HUNDRED"⟩,
    ⟨0x1016E, "GREEK ACROPHONIC ", "THESPIAN FIVE HUNDRED,CARYSTIAN FIVE HUNDRED"⟩,
    ⟨0x10170, "GREEK ACROPHONIC ", "NAXIAN FIVE HUNDRED,THESPIAN ONE THOUSAND"⟩,
    ⟨0x10172, "GREEK ACROPHONIC ", "THESPIAN FIVE THOUSAND,DELPHIC FIVE MNAS,STRATIAN FIFTY MNAS"⟩,
    ⟨0x10175, "GREEK ", "ONE HALF SIGN,ONE HALF SIGN ALTERNATE FORM,TWO THIRDS SIGN"⟩,
    ⟨0x10178, "GREEK ", "THREE QUARTERS SIGN,YEAR SIGN,TALENT SIGN,DRACHMA SIGN,OBOL SIGN"⟩,
    ⟨0x1017D, "GREEK ", "TWO OBOLS SIGN,THREE OBOLS SIGN,FOUR OBOLS SIGN,FIVE OBOLS SIGN"⟩,
    ⟨0x10181, "GREEK ", "METRETES SIGN,KYATHOS BASE SIGN,LITRA SIGN,OUNKIA SIGN,XESTES SIGN"⟩,
    ⟨0x10186, "GREEK ", "ARTABE SIGN,AROURA SIGN,GRAMMA SIGN,TRYBLION BASE SIGN,ZERO SIGN"⟩,
    ⟨0x1018B, "", "GREEK ONE QUARTER SIGN,GREEK SINUSOID SIGN,GREEK INDICTION SIGN,NOMISMA SIGN"⟩,
    ⟨0x10190, "ROMAN ", "SEXTANS SIGN,UNCIA SIGN,SEMUNCIA SIGN,SEXTULA SIGN,DIMIDIA SEXTULA SIGN"⟩,
    ⟨0x10195, "ROMAN ", "SILIQUA SIGN,DENARIUS SIGN,QUINARIUS SIGN,SESTERTIUS SIGN,DUPONDIUS SIGN"⟩,
    ⟨0x1019A, "", "ROMAN AS SIGN,ROMAN CENTURIAL SIGN,ASCIA SYMBOL"⟩,
    ⟨0x101A0, "", "GREEK SYMBOL TAU RHO"⟩,
    ⟨0x101D0, "PHAISTOS DISC SIGN ", "PEDESTRIAN,PLUMED HEAD"⟩,
    ⟨0x101D2, "PHAISTOS DISC SIGN ", "TATTOOED HEAD,CAPTIVE,CHILD,WOMAN,HELMET,GAUNTLET"⟩,
    ⟨0x101D8, "PHAISTOS DISC SIGN ", "TIARA,ARROW,BOW,SHIELD,CLUB,MANACLES,MATTOCK,SAW,LID"⟩,
    ⟨0x101E1, "PHAISTOS DISC SIGN ", "BOOMERANG,CARPENTRY PLANE,DOLIUM,COMB,SLING,COLUMN,BEEHIVE"⟩,
    ⟨0x101E8, "PHAISTOS DISC SIGN ", "SHIP,HORN,HIDE,BULLS LEG,CAT,RAM,EAGLE,DOVE,TUNNY,BEE"⟩,
    ⟨0x101F2, "PHAISTOS DISC SIGN ", "PLANE TREE,VINE,PAPYRUS,ROSETTE,LILY,OX BACK,FLUTE,GRATER"⟩,
    ⟨0x101FA, "PHAISTOS DISC SIGN ", "STRAINER,SMALL AXE,WAVY BAND,COMBINING OBLIQUE STROKE"⟩,
    ⟨0x10280, "", "LYCIAN LETTER A"⟩,
    ⟨0x10281, "LYCIAN LETTER ", "E,B,BH,G,D,I,W,Z,TH,J,K,Q,L,M,N,MM,NN,U,P,KK,R,S,T,TT,AN,EN,H,X"⟩,
    ⟨0x102A0, "CARIAN LETTER ", "A,P2,D,L,UUU,R,LD"⟩,
    ⟨0x102A7, "CARIAN LETTER ", "A2,Q,B,M,O,D2,T,SH,SH2,S,C-18,U,NN,X,N,TT2,P,SS,I,E,UUUU,K,K2,ND"⟩,
    ⟨0x102BF, "CARIAN LETTER ", "UU,G,G2,ST,ST2,NG,II,C-39,TT,UUU2,RR,MB,MB2,MB3,MB4,LD2,E2,UUU3"⟩,
    ⟨0x102E0, "", "COPTIC EPACT THOUSANDS MARK"⟩,
    ⟨0x102E1, "COPTIC EPACT DIGIT ", "ONE,TWO,THREE,FOUR,FIVE,SIX,SEVEN,EIGHT,NINE"⟩,
    ⟨0x102EA, "COPTIC EPACT NUMBER ", "TEN,TWENTY"⟩,
    ⟨0x102EC, "COPTIC EPACT NUMBER ", "THIRTY,FORTY,FIFTY,SIXTY,SEVENTY,EIGHTY,NINETY,ONE HUNDRED"⟩,
    ⟨0x102F4, "COPTIC EPACT NUMBER ", "TWO HUNDRED,THREE HUNDRED,FOUR HUNDRED,FIVE HUNDRED"⟩,
    ⟨0x102F8, "COPTIC EPACT NUMBER ", "SIX HUNDRED,SEVEN HUNDRED,EIGHT HUNDRED,NINE HUNDRED"⟩,
    ⟨0x10300, "OLD ITALIC LETTER ", "A,BE,KE,DE,E,VE,ZE,HE,THE,I,KA,EL,EM,EN"⟩,
    ⟨0x1030E, "OLD ITALIC LETTER ", "ESH,O,PE,SHE,KU,ER,ES,TE,U,EKS,PHE,KHE,EF,ERS,CHE,II,UU,ESS"⟩,
    ⟨0x10320, "OLD ITALIC NUMERAL ", "ONE,FIVE,TEN,FIFTY"⟩,
    ⟨0x1032D, "OLD ITALIC LETTER ", "YE,NORTHERN TSE,SOUTHERN TSE"⟩,
    ⟨0x10330, "GOTHIC LETTER ", "AHSA,BAIRKAN,GIBA,DAGS,AIHVUS,QAIRTHRA,IUJA,HAGL"⟩,
    ⟨0x10338, "GOTHIC LETTER ", "THIUTH,EIS,KUSMA,LAGUS,MANNA,NAUTHS,JER,URUS,PAIRTHRA,NINETY"⟩,
    ⟨0x10342, "GOTHIC LETTER ", "RAIDA,SAUIL,TEIWS,WINJA,FAIHU,IGGWS,HWAIR,OTHAL,NINE HUNDRED"⟩,
    ⟨0x10350, "OLD PERMIC LETTER ", "AN,BUR,GAI,DOI,E,ZHOI,DZHOI,ZATA,DZITA,I,KOKE"⟩,
    ⟨0x1035B, "OLD PERMIC LETTER ", "LEI,MENOE,NENOE,VOOI,PEEI,REI,SII,TAI,U,CHERY,SHOOI,SHCHOOI"⟩,
    ⟨0x10367, "OLD PERMIC LETTER ", "YRY,YERU,O,OO,EF,HA,TSIU,VER,YER,YERI,YAT,IE,YU,YA,IA"⟩,
    ⟨0x10376, "COMBINING OLD PERMIC LETTER ", "AN,DOI,ZATA,NENOE,SII"⟩,
    ⟨0x10380, "UGARITIC LETTER ", "ALPA,BETA,GAMLA"⟩,
    ⟨0x10383, "UGARITIC LETTER ", "KHA,DELTA,HO,WO,ZETA,HOTA,TET,YOD,KAF,SHIN,LAMDA,MEM,DHAL"⟩,
    ⟨0x10390, "UGARITIC LETTER ", "NUN,ZU,SAMKA,AIN,PU,SADE,QOPA,RASHA,THANNA,GHAIN,TO,I,U,SSU"⟩,
    ⟨0x1039F, "", "UGARITIC WORD DIVIDER"⟩,
    ⟨0x103A0, "OLD PERSIAN SIGN ", "A,I,U,KA,KU,GA,GU,XA,CA,JA,JI,TA,TU,DA,DI,DU,THA"⟩,
    ⟨0x103B1, "OLD PERSIAN SIGN ", "PA,BA,FA,NA,NU,MA,MI,MU,YA,VA,VI,RA,RU,LA,SA,ZA,SHA,SSA,HA"⟩,
    ⟨0x103C8, "OLD PERSIAN SIGN ", "AURAMAZDAA,AURAMAZDAA-2,AURAMAZDAAHA,XSHAAYATHIYA,DAHYAAUSH"⟩,
    ⟨0x103CD, "OLD PERSIAN ", "SIGN DAHYAAUSH-2,SIGN BAGA,SIGN BUUMISH,WORD DIVIDER"⟩,
    ⟨0x103D1, "OLD PERSIAN NUMBER ", "ONE,TWO,TEN,TWENTY,HUNDRED"⟩,
    ⟨0x10400, "DESERET CAPITAL LETTER LONG ", "I,E,A,AH,O,OO"⟩,
    ⟨0x10406, "DESERET CAPITAL LETTER SHORT ", "I,E,A,AH,O,OO"⟩,
    ⟨0x1040C, "DESERET CAPITAL LETTER ", "AY,OW,WU,YEE,H,PEE,BEE,TEE,DEE,CHEE,JEE,KAY,GAY"⟩,
    ⟨0x10419, "DESERET CAPITAL LETTER ", "EF,VEE,ETH,THEE,ES,ZEE,ESH,ZHEE,ER,EL,EM,EN,ENG,OI,EW"⟩,
    ⟨0x10428, "DESERET SMALL LETTER LONG ", "I,E,A,AH,O,OO"⟩,
    ⟨0x1042E, "DESERET SMALL LETTER SHORT ", "I,E,A,AH,O,OO"⟩,
    ⟨0x10434, "DESERET SMALL LETTER ", "AY,OW,WU,YEE,H,PEE,BEE,TEE,DEE,CHEE,JEE,KAY"⟩,
    ⟨0x10440, "DESERET SMALL LETTER ", "GAY,EF,VEE,ETH,THEE,ES,ZEE,ESH,ZHEE,ER,EL,EM,EN,ENG,OI,EW"⟩,
    ⟨0x10450, "SHAVIAN LETTER ", "PEEP,TOT,KICK,FEE,THIGH"⟩,
    ⟨0x10455, "SHAVIAN LETTER ", "SO,SURE,CHURCH,YEA,HUNG,BIB,DEAD,GAG,VOW,THEY,ZOO,MEASURE,JUDGE"⟩,
    ⟨0x10462, "SHAVIAN LETTER ", "WOE,HA-HA,LOLL,MIME,IF,EGG,ASH,ADO,ON,WOOL,OUT,AH,ROAR,NUN,EAT"⟩,
    ⟨0x10471, "SHAVIAN LETTER ", "AGE,ICE,UP,OAK,OOZE,OIL,AWE,ARE,OR,AIR,ERR,ARRAY,EAR,IAN,YEW"⟩,
    ⟨0x10480, "OSMANYA LETTER ", "ALEF,BA,TA,JA,XA,KHA,DEEL,RA,SA,SHIIN,DHA,CAYN"⟩,
    ⟨0x1048C, "OSMANYA LETTER ", "GA,FA,QAAF,KAAF,LAAN,MIIN,NUUN,WAW,HA,YA,A,E,I,O,U,AA,EE,OO"⟩,
    ⟨0x104A0, "OSMANYA DIGIT ", "ZERO,ONE,TWO,THREE,FOUR,FIVE,SIX,SEVEN,EIGHT,NINE"⟩,
    ⟨0x104B0, "OSAGE CAPITAL LETTER ", "A,AI,AIN,AH,BRA,CHA"⟩,
    ⟨0x104B6, "OSAGE CAPITAL LETTER ", "EHCHA,E,EIN,HA,HYA,I,KA,EHKA,KYA,LA,MA,NA,O,OIN,PA,EHPA"⟩,
    ⟨0x104C6, "OSAGE CAPITAL LETTER ", "SA,SHA,TA,EHTA,TSA,EHTSA,TSHA,DHA,U,WA,KHA,GHA,ZA,ZHA"⟩,
    ⟨0x104D8, "OSAGE SMALL LETTER ", "A,AI,AIN,AH"⟩,
    ⟨0x104DC, "OSAGE SMALL LETTER ", "BRA,CHA,EHCHA,E,EIN,HA,HYA,I,KA,EHKA,KYA,LA,MA,NA,O,OIN,PA"⟩,
    ⟨0x104ED, "OSAGE SMALL LETTER ", "EHPA,SA,SHA,TA,EHTA,TSA,EHTSA,TSHA,DHA,U,WA,KHA,GHA,ZA,ZHA"⟩,
    ⟨0x10500, "ELBASAN LETTER ", "A,BE"⟩,
    ⟨0x10502, "ELBASAN LETTER ", "CE,CHE,DE,NDE,DHE,EI,E,FE,GE,GJE,HE,I,JE,KE,LE,LLE,ME,NE,NA,NJE"⟩,
    ⟨0x10516, "ELBASAN LETTER ", "O,PE,QE,RE,RRE,SE,SHE,TE,THE,U,VE,XE,Y,ZE,ZHE,GHE,GHAMMA,KHE"⟩,
    ⟨0x10530, "CAUCASIAN ALBANIAN LETTER ", "ALT,BET,GIM,DAT,EB,ZARL"⟩,
    ⟨0x10536, "CAUCASIAN ALBANIAN LETTER ", "EYN,ZHIL,TAS,CHA,YOWD,ZHA,IRB,SHA,LAN,INYA,XEYN,DYAN"⟩,
    ⟨0x10542, "CAUCASIAN ALBANIAN LETTER ", "CAR,JHOX,KAR,LYIT,HEYT,QAY,AOR,CHOY,CHI,CYAY,MAQ,QAR"⟩,
    ⟨0x1054E, "CAUCASIAN ALBANIAN LETTER ", "NOWC,DZYAY,SHAK,JAYN,ON,TYAY,FAM,DZAY,CHAT,PEN,GHEYS"⟩,
    ⟨0x10559, "CAUCASIAN ALBANIAN LETTER ", "RAT,SEYK,VEYZ,TIWR,SHOY,IWN,CYAW,CAYN,YAYD,PIWR,KIW"⟩,
    ⟨0x1056F, "", "CAUCASIAN ALBANIAN CITATION MARK"⟩,
    ⟨0x10570, "VITHKUQI CAPITAL LETTER ", "A,BBE,BE,CE,CHE,DE,DHE,EI,E,FE,GA"⟩,
    ⟨0x1057C, "VITHKUQI CAPITAL LETTER ", "HA,HHA,I,IJE,JE,KA,LA,LLA,ME,NE,NJE,O,PE,QA,RE"⟩,
    ⟨0x1058C, "VITHKUQI CAPITAL LETTER ", "SE,SHE,TE,THE,U,VE,XE"⟩,
    ⟨0x10594, "VITHKUQI CAPITAL LETTER ", "Y,ZE"⟩,
    ⟨0x10597, "VITHKUQI SMALL LETTER ", "A,BBE,BE,CE,CHE,DE,DHE,EI,E,FE,GA"⟩,
    ⟨0x105A3, "VITHKUQI SMALL LETTER ", "HA,HHA,I,IJE,JE,KA,LA,LLA,ME,NE,NJE,O,PE,QA,RE"⟩,
    ⟨0x105B3, "VITHKUQI SMALL LETTER ", "SE,SHE,TE,THE,U,VE,XE"⟩,
    ⟨0x105BB, "VITHKUQI SMALL LETTER ", "Y,ZE"⟩,
    ⟨0x10600, "LINEAR A SIGN ", "AB001,AB002"⟩,
    ⟨0x10602, "LINEAR A SIGN ", "AB003,AB004,AB005,AB006,AB007,AB008,AB009,AB010,AB011,AB013"⟩,
    ⟨0x1060C, "LINEAR A SIGN ", "AB016,AB017,AB020,AB021,AB021F,AB021M,AB022,AB022F,AB022M,AB023"⟩,
    ⟨0x10616, "LINEAR A SIGN ", "AB023M,AB024,AB026,AB027,AB028,A028B,AB029,AB030,AB031,AB034"⟩,
    ⟨0x10620, "LINEAR A SIGN ", "AB037,AB038,AB039,AB040,AB041,AB044,AB045,AB046,AB047,AB048"⟩,
    ⟨0x1062A, "LINEAR A SIGN ", "AB049,AB050,AB051,AB053,AB054,AB055,AB056,AB057,AB058,AB059"⟩,
    ⟨0x10634, "LINEAR A SIGN ", "AB060,AB061,AB065,AB066,AB067,AB069,AB070,AB073,AB074,AB076"⟩,
    ⟨0x1063E, "LINEAR A SIGN ", "AB077,AB078,AB079,AB080,AB081,AB082,AB085,AB086,AB087,A100-102"⟩,
    ⟨0x10648, "LINEAR A SIGN ", "AB118,AB120,A120B,AB122,AB123,AB131A,AB131B,A131C,AB164,AB171"⟩,
    ⟨0x10652, "LINEAR A SIGN ", "AB180,AB188,AB191,A301,A302,A303,A304,A305,A306,A307,A308,A309A"⟩,
    ⟨0x1065E, "LINEAR A SIGN ", "A309B,A309C,A310,A311,A312,A313A,A313B,A313C,A314,A315,A316,A317"⟩,
    ⟨0x1066A, "LINEAR A SIGN ", "A318,A319,A320,A321,A322,A323,A324,A325,A326,A327,A328,A329,A330"⟩,
    ⟨0x10677, "LINEAR A SIGN ", "A331,A332,A333,A334,A335,A336,A337,A338,A339,A340,A341,A342,A343"⟩,
    ⟨0x10684, "LINEAR A SIGN ", "A344,A345,A346,A347,A348,A349,A350,A351,A352,A353,A354,A355,A356"⟩,
    ⟨0x10691, "LINEAR A SIGN ", "A357,A358,A359,A360,A361,A362,A363,A364,A365,A366,A367,A368,A369"⟩,
    ⟨0x1069E, "LINEAR A SIGN ", "A370,A371,A400-VAS,A401-VAS,A402-VAS,A403-VAS,A404-VAS,A405-VAS"⟩,
    ⟨0x106A6, "LINEAR A SIGN ", "A406-VAS,A407-VAS,A408-VAS,A409-VAS,A410-VAS,A411-VAS,A412-VAS"⟩,
    ⟨0x106AD, "LINEAR A SIGN ", "A413-VAS,A414-VAS,A415-VAS,A416-VAS,A417-VAS,A418-VAS,A501,A502"⟩,
    ⟨0x106B5, "LINEAR A SIGN ", "A503,A504,A505,A506,A508,A509,A510,A511,A512,A513,A515,A516,A520"⟩,
    ⟨0x106C2, "LINEAR A SIGN ", "A521,A523,A524,A525,A526,A527,A528,A529,A530,A531,A532,A534,A535"⟩,
    ⟨0x106CF, "LINEAR A SIGN ", "A536,A537,A538,A539,A540,A541,A542,A545,A547,A548,A549,A550,A551"⟩,
    ⟨0x106DC, "LINEAR A SIGN ", "A552,A553,A554,A555,A556,A557,A559,A563,A564,A565,A566,A568,A569"⟩,
    ⟨0x106E9, "LINEAR A SIGN ", "A570,A571,A572,A573,A574,A575,A576,A577,A578,A579,A580,A581,A582"⟩,
    ⟨0x106F6, "LINEAR A SIGN ", "A583,A584,A585,A586,A587,A588,A589,A591,A592,A594,A595,A596,A598"⟩,
    ⟨0x10703, "LINEAR A SIGN ", "A600,A601,A602,A603,A604,A606,A608,A609,A610,A611,A612,A613,A614"⟩,
    ⟨0x10710, "LINEAR A SIGN ", "A615,A616,A617,A618,A619,A620,A621,A622,A623,A624,A626,A627,A628"⟩,
    ⟨0x1071D, "LINEAR A SIGN ", "A629,A634,A637,A638,A640,A642,A643,A644,A645,A646,A648,A649,A651"⟩,
    ⟨0x1072A, "LINEAR A SIGN ", "A652,A653,A654,A655,A656,A657,A658,A659,A660,A661,A662,A663,A664"⟩,
    ⟨0x10740, "LINEAR A SIGN ", "A701 A,A702 B,A703 D,A704 E,A705 F,A706 H,A707 J,A708 K"⟩,
    ⟨0x10748, "LINEAR A SIGN ", "A709 L,A709-2 L2,A709-3 L3,A709-4 L4,A709-6 L6,A710 W,A711 X"⟩,
    ⟨0x1074F, "LINEAR A SIGN ", "A712 Y,A713 OMEGA,A714 ABB,A715 BB,A717 DD,A726 EYYY,A732 JE"⟩,
    ⟨0x10760, "LINEAR A SIGN ", "A800,A801,A802,A803,A804,A805,A806,A807"⟩,
    ⟨0x10780, "", "MODIFIER LETTER SMALL CAPITAL AA"⟩,
    ⟨0x10781, "MODIFIER LETTER SUPERSCRIPT ", "TRIANGULAR COLON,HALF TRIANGULAR COLON"⟩,
    ⟨0x10783, "MODIFIER LETTER SMALL ", "AE,CAPITAL B,B WITH HOOK"⟩,
    ⟨0x10787, "MODIFIER LETTER SMALL DZ ", "DIGRAPH,DIGRAPH WITH RETROFLEX HOOK,DIGRAPH WITH CURL"⟩,
    ⟨0x1078A, "", "MODIFIER LETTER SMALL DEZH DIGRAPH"⟩,
    ⟨0x1078B, "MODIFIER LETTER SMALL D WITH ", "TAIL,HOOK,HOOK AND TAIL"⟩,
    ⟨0x1078E, "MODIFIER LETTER SMALL ", "REVERSED E,CLOSED REVERSED OPEN E,FENG DIGRAPH,RAMS HORN"⟩,
    ⟨0x10792, "MODIFIER LETTER SMALL ", "CAPITAL G,G WITH HOOK,CAPITAL G WITH HOOK,H WITH STROKE"⟩,
    ⟨0x10796, "MODIFIER LETTER SMALL ", "CAPITAL H,HENG WITH HOOK,DOTLESS J WITH STROKE AND HOOK"⟩,
    ⟨0x10799, "MODIFIER LETTER SMALL ", "LS DIGRAPH,LZ DIGRAPH,L WITH BELT"⟩,
    ⟨0x1079C, "MODIFIER LETTER SMALL ", "CAPITAL L WITH BELT,L WITH RETROFLEX HOOK AND BELT,LEZH"⟩,
    ⟨0x1079F, "MODIFIER LETTER SMALL ", "LEZH WITH RETROFLEX HOOK,TURNED Y,TURNED Y WITH BELT"⟩,
    ⟨0x107A2, "MODIFIER LETTER SMALL ", "O WITH STROKE,CAPITAL OE,CLOSED OMEGA,Q"⟩,
    ⟨0x107A6, "MODIFIER LETTER SMALL TURNED R WITH LONG ", "LEG,LEG AND RETROFLEX HOOK"⟩,
    ⟨0x107A8, "MODIFIER LETTER SMALL R WITH ", "TAIL,FISHHOOK"⟩,
    ⟨0x107AA, "MODIFIER LETTER SMALL ", "CAPITAL R,TC DIGRAPH WITH CURL"⟩,
    ⟨0x107AC, "MODIFIER LETTER SMALL TS ", "DIGRAPH,DIGRAPH WITH RETROFLEX HOOK"⟩,
    ⟨0x107AE, "MODIFIER LETTER SMALL ", "TESH DIGRAPH,T WITH RETROFLEX HOOK,V WITH RIGHT HOOK"⟩,
    ⟨0x107B2, "", "MODIFIER LETTER SMALL CAPITAL Y"⟩,
    ⟨0x107B3, "MODIFIER LETTER ", "GLOTTAL STOP WITH STROKE,REVERSED GLOTTAL STOP WITH STROKE"⟩,
    ⟨0x107B5, "MODIFIER LETTER ", "BILABIAL CLICK,DENTAL CLICK,LATERAL CLICK,ALVEOLAR CLICK"⟩,
    ⟨0x107B9, "MODIFIER LETTER ", "RETROFLEX CLICK WITH RETROFLEX HOOK,SMALL S WITH CURL"⟩,
    ⟨0x10800, "CYPRIOT SYLLABLE ", "A,E,I,O,U,JA"⟩,
    ⟨0x10808, "", "CYPRIOT SYLLABLE JO"⟩,
    ⟨0x1080A, "CYPRIOT SYLLABLE ", "KA,KE,KI,KO"⟩,
    ⟨0x1080E, "CYPRIOT SYLLABLE ", "KU,LA,LE,LI,LO,LU,MA,ME,MI,MO,MU,NA,NE,NI,NO,NU,PA,PE,PI,PO"⟩,
    ⟨0x10822, "CYPRIOT SYLLABLE ", "PU,RA,RE,RI,RO,RU,SA,SE,SI,SO,SU,TA,TE,TI,TO,TU,WA,WE,WI,WO"⟩,
    ⟨0x10837, "CYPRIOT SYLLABLE ", "XA,XE"⟩,
    ⟨0x1083C, "", "CYPRIOT SYLLABLE ZA"⟩,
    ⟨0x1083F, "", "CYPRIOT SYLLABLE ZO,IMPERIAL ARAMAIC LETTER ALEPH"⟩,
    ⟨0x10841, "IMPERIAL ARAMAIC LETTER ", "BETH,GIMEL,DALETH,HE,WAW,ZAYIN,HETH,TETH,YODH,KAPH"⟩,
    ⟨0x1084B, "IMPERIAL ARAMAIC LETTER ", "LAMEDH,MEM,NUN,SAMEKH,AYIN,PE,SADHE,QOPH,RESH,SHIN,TAW"⟩,
    ⟨0x10857, "IMPERIAL ARAMAIC ", "SECTION SIGN,NUMBER ONE,NUMBER TWO"⟩,
    ⟨0x1085A, "IMPERIAL ARAMAIC NUMBER ", "THREE,TEN,TWENTY,ONE HUNDRED,ONE THOUSAND,TEN THOUSAND"⟩,
    ⟨0x10860, "PALMYRENE LETTER ", "ALEPH,BETH,GIMEL,DALETH,HE,WAW,ZAYIN,HETH,TETH,YODH,KAPH"⟩,
    ⟨0x1086B, "PALMYRENE LETTER ", "LAMEDH,MEM,FINAL NUN,NUN,SAMEKH,AYIN,PE,SADHE,QOPH,RESH,SHIN"⟩,
    ⟨0x10876, "PALMYRENE ", "LETTER TAW,LEFT-POINTING FLEURON,RIGHT-POINTING FLEURON"⟩,
    ⟨0x10879, "PALMYRENE NUMBER ", "ONE,TWO,THREE,FOUR,FIVE,TEN,TWENTY"⟩,
    ⟨0x10880, "NABATAEAN LETTER ", "FINAL ALEPH,ALEPH,FINAL BETH,BETH"⟩,
    ⟨0x10884, "NABATAEAN LETTER ", "GIMEL,DALETH,FINAL HE,HE,WAW,ZAYIN,HETH,TETH,FINAL YODH,YODH"⟩,
    ⟨0x1088E, "NABATAEAN LETTER ", "FINAL KAPH,KAPH,FINAL LAMEDH,LAMEDH,FINAL MEM,MEM,FINAL NUN"⟩,
    ⟨0x10895, "NABATAEAN LETTER ", "NUN,SAMEKH,AYIN,PE,SADHE,QOPH,RESH,FINAL SHIN,SHIN,TAW"⟩,
    ⟨0x108A7, "NABATAEAN ", "NUMBER ONE,NUMBER TWO,NUMBER THREE,NUMBER FOUR,CRUCIFORM NUMBER FOUR"⟩,
    ⟨0x108AC, "NABATAEAN NUMBER ", "FIVE,TEN,TWENTY,ONE HUNDRED"⟩,
    ⟨0x108E0, "HATRAN LETTER ", "ALEPH,BETH,GIMEL,DALETH-RESH,HE,WAW"⟩,
    ⟨0x108E6, "HATRAN LETTER ", "ZAYN,HETH,TETH,YODH,KAPH,LAMEDH,MEM,NUN,SAMEKH,AYN,PE,SADHE,QOPH"⟩,
    ⟨0x108F4, "HATRAN LETTER ", "SHIN,TAW"⟩,
    ⟨0x108FB, "HATRAN NUMBER ", "ONE,FIVE,TEN,TWENTY,ONE HUNDRED"⟩,
    ⟨0x10900, "PHOENICIAN LETTER ", "ALF,BET,GAML,DELT,HE,WAU,ZAI,HET"⟩,
    ⟨0x10908, "PHOENICIAN LETTER ", "TET,YOD,KAF,LAMD,MEM,NUN,SEMK,AIN,PE,SADE,QOF,ROSH,SHIN,TAU"⟩,
    ⟨0x10916, "PHOENICIAN NUMBER ", "ONE,TEN,TWENTY,ONE HUNDRED,TWO,THREE"⟩,
    ⟨0x1091F, "", "PHOENICIAN WORD SEPARATOR"⟩,
    ⟨0x10920, "LYDIAN LETTER ", "A,B,G,D,E,V,I,Y,K,L,M,N,O,R,SS,T,U,F,Q,S,TT,AN,EN,LY,NN,C"⟩,
    ⟨0x1093F, "", "LYDIAN TRIANGULAR MARK"⟩,
    ⟨0x10980, "MEROITIC HIEROGLYPHIC LETTER ", "A,E,I,O,YA,WA,BA,BA-2,PA,MA,NA,NA-2,NE,NE-2,RA"⟩,
    ⟨0x1098F, "MEROITIC HIEROGLYPHIC LETTER ", "RA-2,LA,KHA,HHA,SA,SA-2,SE,KA,QA,TA,TA-2,TE,TE-2"⟩,
    ⟨0x1099C, "MEROITIC HIEROGLYPHIC ", "LETTER TO,LETTER DA,SYMBOL VIDJ,SYMBOL VIDJ-2"⟩,
    ⟨0x109A0, "MEROITIC CURSIVE LETTER ", "A,E,I,O,YA,WA,BA,PA,MA"⟩,
    ⟨0x109A9, "MEROITIC CURSIVE LETTER ", "NA,NE,RA,LA,KHA,HHA,SA,ARCHAIC SA,SE,KA,QA,TA,TE,TO,DA"⟩,
    ⟨0x109BC, "MEROITIC CURSIVE FRACTION ", "ELEVEN TWELFTHS,ONE HALF"⟩,
    ⟨0x109BE, "MEROITIC CURSIVE LOGOGRAM ", "RMT,IMN"⟩,
    ⟨0x109C0, "MEROITIC CURSIVE NUMBER ", "ONE,TWO,THREE,FOUR,FIVE,SIX,SEVEN"⟩,
    ⟨0x109C7, "MEROITIC CURSIVE NUMBER ", "EIGHT,NINE,TEN,TWENTY,THIRTY,FORTY,FIFTY,SIXTY,SEVENTY"⟩,
    ⟨0x109D2, "MEROITIC CURSIVE NUMBER ", "ONE HUNDRED,TWO HUNDRED,THREE HUNDRED,FOUR HUNDRED"⟩,
    ⟨0x109D6, "MEROITIC CURSIVE NUMBER ", "FIVE HUNDRED,SIX HUNDRED,SEVEN HUNDRED,EIGHT HUNDRED"⟩,
    ⟨0x109DA, "MEROITIC CURSIVE NUMBER ", "NINE HUNDRED,ONE THOUSAND,TWO THOUSAND,THREE THOUSAND"⟩,
    ⟨0x109DE, "MEROITIC CURSIVE NUMBER ", "FOUR THOUSAND,FIVE THOUSAND,SIX THOUSAND"⟩,
    ⟨0x109E1, "MEROITIC CURSIVE NUMBER ", "SEVEN THOUSAND,EIGHT THOUSAND,NINE THOUSAND"⟩,
    ⟨0x109E4, "MEROITIC CURSIVE NUMBER ", "TEN THOUSAND,TWENTY THOUSAND,THIRTY THOUSAND"⟩,
    ⟨0x109E7, "MEROITIC CURSIVE NUMBER ", "FORTY THOUSAND,FIFTY THOUSAND,SIXTY THOUSAND"⟩,
    ⟨0x109EA, "MEROITIC CURSIVE NUMBER ", "SEVENTY THOUSAND,EIGHTY THOUSAND,NINETY THOUSAND"⟩,
    ⟨0x109ED, "MEROITIC CURSIVE NUMBER ", "ONE HUNDRED THOUSAND,TWO HUNDRED THOUSAND"⟩,
    ⟨0x109EF, "MEROITIC CURSIVE NUMBER ", "THREE HUNDRED THOUSAND,FOUR HUNDRED THOUSAND"⟩,
    ⟨0x109F1, "MEROITIC CURSIVE NUMBER ", "FIVE HUNDRED THOUSAND,SIX HUNDRED THOUSAND"⟩,
    ⟨0x109F3, "MEROITIC CURSIVE NUMBER ", "SEVEN HUNDRED THOUSAND,EIGHT HUNDRED THOUSAND"⟩,
    ⟨0x109F5, "MEROITIC CURSIVE ", "NUMBER NINE HUNDRED THOUSAND,FRACTION ONE TWELFTH"⟩,
    ⟨0x109F7, "MEROITIC CURSIVE FRACTION ", "TWO TWELFTHS,THREE TWELFTHS,FOUR TWELFTHS"⟩,
    ⟨0x109FA, "MEROITIC CURSIVE FRACTION ", "FIVE TWELFTHS,SIX TWELFTHS,SEVEN TWELFTHS"⟩,
    ⟨0x109FD, "MEROITIC CURSIVE FRACTION ", "EIGHT TWELFTHS,NINE TWELFTHS,TEN TWELFTHS"⟩,
    ⟨0x10A00, "KHAROSHTHI ", "LETTER A,VOWEL SIGN I,VOWEL SIGN U,VOWEL SIGN VOCALIC R"⟩,
    ⟨0x10A05, "KHAROSHTHI VOWEL SIGN ", "E,O"⟩,
    ⟨0x10A0C, "KHAROSHTHI ", "VOWEL LENGTH MARK,SIGN DOUBLE RING BELOW,SIGN ANUSVARA,SIGN VISARGA"⟩,
    ⟨0x10A10, "KHAROSHTHI LETTER ", "KA,KHA,GA,GHA"⟩,
    ⟨0x10A15, "KHAROSHTHI LETTER ", "CA,CHA,JA"⟩,
    ⟨0x10A19, "KHAROSHTHI LETTER ", "NYA,TTA,TTHA,DDA,DDHA,NNA,TA,THA,DA,DHA,NA,PA,PHA"⟩,
    ⟨0x10A26, "KHAROSHTHI LETTER ", "BA,BHA,MA,YA,RA,LA,VA,SHA,SSA,SA,ZA,HA,KKA,TTTHA,TTTA,VHA"⟩,
    ⟨0x10A38, "KHAROSHTHI SIGN ", "BAR ABOVE,CAUDA,DOT BELOW"⟩,
    ⟨0x10A3F, "KHAROSHTHI ", "VIRAMA,DIGIT ONE,DIGIT TWO,DIGIT THREE,DIGIT FOUR"⟩,
    ⟨0x10A44, "KHAROSHTHI NUMBER ", "TEN,TWENTY,ONE HUNDRED,ONE THOUSAND"⟩,
    ⟨0x10A48, "", "KHAROSHTHI FRACTION ONE HALF"⟩,
    ⟨0x10A50, "KHAROSHTHI PUNCTUATION ", "DOT,SMALL CIRCLE,CIRCLE"⟩,
    ⟨0x10A53, "KHAROSHTHI PUNCTUATION ", "CRESCENT BAR,MANGALAM,LOTUS,DANDA,DOUBLE DANDA,LINES"⟩,
    ⟨0x10A60, "OLD SOUTH ARABIAN LETTER ", "HE,LAMEDH,HETH,MEM,QOPH,WAW,SHIN,RESH,BETH,TAW"⟩,
    ⟨0x10A6A, "OLD SOUTH ARABIAN LETTER ", "SAT,KAPH,NUN,KHETH,SADHE,SAMEKH,FE,ALEF,AYN,DHADHE"⟩,
    ⟨0x10A74, "OLD SOUTH ARABIAN LETTER ", "GIMEL,DALETH,GHAYN,TETH,ZAYN,DHALETH,YODH,THAW,THETH"⟩,
    ⟨0x10A7D, "OLD SOUTH ARABIAN ", "NUMBER ONE,NUMBER FIFTY,NUMERIC INDICATOR"⟩,
    ⟨0x10A80, "OLD NORTH ARABIAN LETTER ", "HEH,LAM,HAH,MEEM,QAF,WAW"⟩,
    ⟨0x10A86, "OLD NORTH ARABIAN LETTER ", "ES-2,REH,BEH,TEH,ES-1,KAF,NOON,KHAH,SAD,ES-3,FEH,ALEF"⟩,
    ⟨0x10A92, "OLD NORTH ARABIAN LETTER ", "AIN,DAD,GEEM,DAL,GHAIN,TAH,ZAIN,THAL,YEH,THEH,ZAH"⟩,
    ⟨0x10A9D, "OLD NORTH ARABIAN NUMBER ", "ONE,TEN,TWENTY"⟩,
    ⟨0x10AC0, "MANICHAEAN LETTER ", "ALEPH,BETH,BHETH,GIMEL,GHIMEL,DALETH,HE,WAW"⟩,
    ⟨0x10AC8, "", "MANICHAEAN SIGN UD"⟩,
    ⟨0x10AC9, "MANICHAEAN LETTER ", "ZAYIN,ZHAYIN,JAYIN,JHAYIN,HETH,TETH"⟩,
    ⟨0x10ACF, "MANICHAEAN LETTER ", "YODH,KAPH,XAPH,KHAPH,LAMEDH,DHAMEDH,THAMEDH,MEM,NUN,SAMEKH"⟩,
    ⟨0x10AD9, "MANICHAEAN LETTER ", "AYIN,AAYIN,PE,FE,SADHE,QOPH,XOPH,QHOPH,RESH,SHIN,SSHIN,TAW"⟩,
    ⟨0x10AE5, "MANICHAEAN ABBREVIATION MARK ", "ABOVE,BELOW"⟩,
    ⟨0x10AEB, "MANICHAEAN NUMBER ", "ONE,FIVE,TEN,TWENTY,ONE HUNDRED"⟩,
    ⟨0x10AF0, "MANICHAEAN PUNCTUATION ", "STAR,FLEURON,DOUBLE DOT WITHIN DOT"⟩,
    ⟨0x10AF3, "MANICHAEAN PUNCTUATION ", "DOT WITHIN DOT,DOT,TWO DOTS,LINE FILLER"⟩,
    ⟨0x10B00, "AVESTAN LETTER ", "A,AA,AO,AAO,AN,AAN,AE,AEE,E,EE,O,OO,I,II,U,UU,KE,XE,XYE,XVE"⟩,
    ⟨0x10B14, "AVESTAN LETTER ", "GE,GGE,GHE,CE,JE,TE,THE,DE,DHE,TTE,PE,FE,BE,BHE,NGE,NGYE,NGVE"⟩,
    ⟨0x10B25, "AVESTAN LETTER ", "NE,NYE,NNE,ME,HME,YYE,YE,VE,RE,LE,SE,ZE,SHE,ZHE,SHYE,SSHE,HE"⟩,
    ⟨0x10B39, "", "AVESTAN ABBREVIATION MARK"⟩,
    ⟨0x10B3A, "", "TINY TWO DOTS OVER ONE DOT PUNCTUATION,SMALL TWO DOTS OVER ONE DOT PUNCTUATION"⟩,
    ⟨0x10B3C, "LARGE ", "TWO DOTS OVER ONE DOT PUNCTUATION,ONE DOT OVER TWO DOTS PUNCTUATION"⟩,
    ⟨0x10B3E, "LARGE ", "TWO RINGS OVER ONE RING PUNCTUATION,ONE RING OVER TWO RINGS PUNCTUATION"⟩,
    ⟨0x10B40, "INSCRIPTIONAL PARTHIAN LETTER ", "ALEPH,BETH,GIMEL"⟩,
    ⟨0x10B43, "INSCRIPTIONAL PARTHIAN LETTER ", "DALETH,HE,WAW,ZAYIN,HETH,TETH,YODH,KAPH,LAMEDH"⟩,
    ⟨0x10B4C, "INSCRIPTIONAL PARTHIAN LETTER ", "MEM,NUN,SAMEKH,AYIN,PE,SADHE,QOPH,RESH,SHIN,TAW"⟩,
    ⟨0x10B58, "INSCRIPTIONAL PARTHIAN NUMBER ", "ONE,TWO,THREE,FOUR,TEN,TWENTY"⟩,
    ⟨0x10B5E, "INSCRIPTIONAL PARTHIAN NUMBER ONE ", "HUNDRED,THOUSAND"⟩,
    ⟨0x10B60, "INSCRIPTIONAL PAHLAVI LETTER ", "ALEPH,BETH,GIMEL"⟩,
    ⟨0x10B63, "INSCRIPTIONAL PAHLAVI LETTER ", "DALETH,HE,WAW-AYIN-RESH,ZAYIN,HETH,TETH,YODH"⟩,
    ⟨0x10B6A, "INSCRIPTIONAL PAHLAVI LETTER ", "KAPH,LAMEDH,MEM-QOPH,NUN,SAMEKH,PE,SADHE,SHIN,TAW"⟩,
    ⟨0x10B78, "INSCRIPTIONAL PAHLAVI NUMBER ", "ONE,TWO,THREE,FOUR,TEN,TWENTY"⟩,
    ⟨0x10B7E, "INSCRIPTIONAL PAHLAVI NUMBER ONE ", "HUNDRED,THOUSAND"⟩,
    ⟨0x10B80, "PSALTER PAHLAVI LETTER ", "ALEPH,BETH,GIMEL,DALETH,HE,WAW-AYIN-RESH,ZAYIN,HETH"⟩,
    ⟨0x10B88, "PSALTER PAHLAVI LETTER ", "YODH,KAPH,LAMEDH,MEM-QOPH,NUN,SAMEKH,PE,SADHE,SHIN,TAW"⟩,
    ⟨0x10B99, "PSALTER PAHLAVI ", "SECTION MARK,TURNED SECTION MARK"⟩,
    ⟨0x10B9B, "PSALTER PAHLAVI FOUR DOTS WITH ", "CROSS,DOT"⟩,
    ⟨0x10BA9, "PSALTER PAHLAVI NUMBER ", "ONE,TWO,THREE,FOUR,TEN,TWENTY,ONE HUNDRED"⟩,
    ⟨0x10C00, "OLD TURKIC LETTER ", "ORKHON A,YENISEI A,YENISEI AE,ORKHON I,YENISEI I,YENISEI E"⟩,
    ⟨0x10C06, "OLD TURKIC LETTER ORKHON ", "O,OE"⟩,
    ⟨0x10C08, "OLD TURKIC LETTER ", "YENISEI OE,ORKHON AB,YENISEI AB,ORKHON AEB"⟩,
    ⟨0x10C0C, "OLD TURKIC LETTER ", "YENISEI AEB,ORKHON AG,YENISEI AG,ORKHON AEG,YENISEI AEG"⟩,
    ⟨0x10C11, "OLD TURKIC LETTER ", "ORKHON AD,YENISEI AD,ORKHON AED,ORKHON EZ,YENISEI EZ"⟩,
    ⟨0x10C16, "OLD TURKIC LETTER ", "ORKHON AY,YENISEI AY,ORKHON AEY,YENISEI AEY,ORKHON AEK"⟩,
    ⟨0x10C1B, "OLD TURKIC LETTER ", "YENISEI AEK,ORKHON OEK,YENISEI OEK,ORKHON AL,YENISEI AL"⟩,
    ⟨0x10C20, "OLD TURKIC LETTER ORKHON ", "AEL,ELT,EM,AN,AEN"⟩,
    ⟨0x10C25, "OLD TURKIC LETTER ", "YENISEI AEN,ORKHON ENT,YENISEI ENT,ORKHON ENC,YENISEI ENC"⟩,
    ⟨0x10C2A, "OLD TURKIC LETTER ", "ORKHON ENY,YENISEI ENY,YENISEI ANG,ORKHON ENG,YENISEI AENG"⟩,
    ⟨0x10C2F, "OLD TURKIC LETTER ", "ORKHON EP,ORKHON OP,ORKHON IC,ORKHON EC,YENISEI EC,ORKHON AQ"⟩,
    ⟨0x10C35, "OLD TURKIC LETTER ", "YENISEI AQ,ORKHON IQ,YENISEI IQ,ORKHON OQ,YENISEI OQ"⟩,
    ⟨0x10C3A, "OLD TURKIC LETTER ", "ORKHON AR,YENISEI AR,ORKHON AER,ORKHON AS,ORKHON AES"⟩,
    ⟨0x10C3F, "OLD TURKIC LETTER ", "ORKHON ASH,YENISEI ASH,ORKHON ESH,YENISEI ESH,ORKHON AT"⟩,
    ⟨0x10C44, "OLD TURKIC LETTER ", "YENISEI AT,ORKHON AET,YENISEI AET,ORKHON OT,ORKHON BASH"⟩,
    ⟨0x10C80, "OLD HUNGARIAN CAPITAL LETTER ", "A,AA,EB,AMB,EC,ENC,ECS,ED,AND,E,CLOSE E"⟩,
    ⟨0x10C8B, "OLD HUNGARIAN CAPITAL LETTER ", "EE,EF,EG,EGY,EH,I,II,EJ,EK,AK,UNK,EL,ELY,EM,EN"⟩,
    ⟨0x10C9A, "OLD HUNGARIAN CAPITAL LETTER ", "ENY,O,OO,NIKOLSBURG OE,RUDIMENTA OE,OEE,EP,EMP,ER"⟩,
    ⟨0x10CA3, "OLD HUNGARIAN CAPITAL LETTER ", "SHORT ER,ES,ESZ,ET,ENT,ETY,ECH,U,UU,NIKOLSBURG UE"⟩,
    ⟨0x10CAD, "OLD HUNGARIAN CAPITAL LETTER ", "RUDIMENTA UE,EV,EZ,EZS,ENT-SHAPED SIGN,US"⟩,
    ⟨0x10CC0, "OLD HUNGARIAN SMALL LETTER ", "A,AA,EB,AMB,EC,ENC,ECS,ED,AND,E,CLOSE E"⟩,
    ⟨0x10CCB, "OLD HUNGARIAN SMALL LETTER ", "EE,EF,EG,EGY,EH,I,II,EJ,EK,AK,UNK,EL,ELY,EM,EN"⟩,
    ⟨0x10CDA, "OLD HUNGARIAN SMALL LETTER ", "ENY,O,OO,NIKOLSBURG OE,RUDIMENTA OE,OEE,EP,EMP,ER"⟩,
    ⟨0x10CE3, "OLD HUNGARIAN SMALL LETTER ", "SHORT ER,ES,ESZ,ET,ENT,ETY,ECH,U,UU,NIKOLSBURG UE"⟩,
    ⟨0x10CED, "OLD HUNGARIAN SMALL LETTER ", "RUDIMENTA UE,EV,EZ,EZS,ENT-SHAPED SIGN,US"⟩,
    ⟨0x10CFA, "OLD HUNGARIAN NUMBER ", "ONE,FIVE,TEN,FIFTY,ONE HUNDRED,ONE THOUSAND"⟩,
    ⟨0x10D00, "HANIFI ROHINGYA LETTER ", "A,BA,PA,TA,TTA,JA,CA,HA,KHA,FA,DA,DDA,RA,RRA,ZA,SA"⟩,
    ⟨0x10D10, "HANIFI ROHINGYA LETTER ", "SHA,KA,GA,LA,MA,NA,WA,KINNA WA,YA,KINNA YA,NGA,NYA,VA"⟩,
    ⟨0x10D1D, "HANIFI ROHINGYA ", "VOWEL A,VOWEL I,VOWEL U,VOWEL E,VOWEL O,MARK SAKIN"⟩,
    ⟨0x10D23, "HANIFI ROHINGYA ", "MARK NA KHONNA,SIGN HARBAHAY,SIGN TAHALA,SIGN TANA,SIGN TASSI"⟩,
    ⟨0x10D30, "HANIFI ROHINGYA DIGIT ", "ZERO,ONE,TWO,THREE,FOUR,FIVE,SIX,SEVEN,EIGHT,NINE"⟩,
    ⟨0x10E60, "RUMI DIGIT ", "ONE,TWO,THREE,FOUR,FIVE,SIX,SEVEN,EIGHT,NINE"⟩,
    ⟨0x10E69, "RUMI NUMBER ", "TEN,TWENTY,THIRTY,FORTY,FIFTY,SIXTY,SEVENTY"⟩,
    ⟨0x10E70, "RUMI NUMBER ", "EIGHTY,NINETY,ONE HUNDRED,TWO HUNDRED,THREE HUNDRED,FOUR HUNDRED"⟩,
    ⟨0x10E76, "RUMI NUMBER ", "FIVE HUNDRED,SIX HUNDRED,SEVEN HUNDRED,EIGHT HUNDRED,NINE HUNDRED"⟩,
    ⟨0x10E7B, "RUMI FRACTION ", "ONE HALF,ONE QUARTER,ONE THIRD,TWO THIRDS"⟩,
    ⟨0x10E80, "YEZIDI LETTER ", "ELIF,BE,PE,PHE,THE,SE,CIM,CHIM,CHHIM,HHA,XA,DAL,ZAL,RA,RHA"⟩,
    ⟨0x10E8F, "YEZIDI LETTER ", "ZA,JA,SIN,SHIN,SAD,DAD,TA,ZE,EYN,XHEYN,FA,VA,VA ALTERNATE FORM"⟩,
    ⟨0x10E9C, "YEZIDI LETTER ", "QAF,KAF,KHAF,GAF,LAM,MIM,NUN,UM,WAW,OW,EW,HAY,YOT,ET"⟩,
    ⟨0x10EAB, "YEZIDI ", "COMBINING HAMZA MARK,COMBINING MADDA MARK,HYPHENATION MARK"⟩,
    ⟨0x10EB0, "YEZIDI LETTER ", "LAM WITH DOT ABOVE,YOT WITH CIRCUMFLEX ABOVE"⟩,
    ⟨0x10F00, "OLD SOGDIAN LETTER ", "ALEPH,FINAL ALEPH,BETH,FINAL BETH"⟩,
    ⟨0x10F04, "OLD SOGDIAN LETTER ", "GIMEL,HE,FINAL HE,WAW,ZAYIN,HETH,YODH,KAPH,LAMEDH,MEM,NUN"⟩,
    ⟨0x10F0F, "OLD SOGDIAN LETTER FINAL ", "NUN,NUN WITH VERTICAL TAIL"⟩,
    ⟨0x10F11, "OLD SOGDIAN LETTER ", "SAMEKH,AYIN,ALTERNATE AYIN,PE,SADHE,FINAL SADHE"⟩,
    ⟨0x10F17, "OLD SOGDIAN LETTER ", "FINAL SADHE WITH VERTICAL TAIL,RESH-AYIN-DALETH,SHIN,TAW"⟩,
    ⟨0x10F1B, "OLD SOGDIAN LETTER FINAL ", "TAW,TAW WITH VERTICAL TAIL"⟩,
    ⟨0x10F1D, "OLD SOGDIAN NUMBER ", "ONE,TWO,THREE,FOUR,FIVE,TEN,TWENTY,THIRTY,ONE HUNDRED"⟩,
    ⟨0x10F26, "OLD SOGDIAN ", "FRACTION ONE HALF,LIGATURE AYIN-DALETH"⟩,
    ⟨0x10F30, "SOGDIAN LETTER ", "ALEPH,BETH,GIMEL,HE,WAW,ZAYIN,HETH,YODH,KAPH,LAMEDH"⟩,
    ⟨0x10F3A, "SOGDIAN LETTER ", "MEM,NUN,SAMEKH,AYIN,PE,SADHE,RESH-AYIN,SHIN,TAW,FETH,LESH"⟩,
    ⟨0x10F45, "SOGDIAN ", "INDEPENDENT SHIN,COMBINING DOT BELOW,COMBINING TWO DOTS BELOW"⟩,
    ⟨0x10F48, "SOGDIAN COMBINING ", "DOT ABOVE,TWO DOTS ABOVE,CURVE ABOVE,CURVE BELOW,HOOK ABOVE"⟩,
    ⟨0x10F4D, "SOGDIAN COMBINING ", "HOOK BELOW,LONG HOOK BELOW,RESH BELOW,STROKE BELOW"⟩,
    ⟨0x10F51, "SOGDIAN NUMBER ", "ONE,TEN,TWENTY,ONE HUNDRED"⟩,
    ⟨0x10F55, "SOGDIAN PUNCTUATION TWO VERTICAL ", "BARS,BARS WITH DOTS"⟩,
    ⟨0x10F57, "SOGDIAN PUNCTUATION ", "CIRCLE WITH DOT,TWO CIRCLES WITH DOTS,HALF CIRCLE WITH DOT"⟩,
    ⟨0x10F70, "OLD UYGHUR LETTER ", "ALEPH,BETH,GIMEL-HETH,WAW,ZAYIN,FINAL HETH"⟩,
    ⟨0x10F76, "OLD UYGHUR LETTER ", "YODH,KAPH,LAMEDH,MEM,NUN,SAMEKH,PE,SADHE,RESH,SHIN,TAW,LESH"⟩,
    ⟨0x10F82, "OLD UYGHUR COMBINING ", "DOT ABOVE,DOT BELOW,TWO DOTS ABOVE,TWO DOTS BELOW"⟩,
    ⟨0x10F86, "OLD UYGHUR PUNCTUATION ", "BAR,TWO BARS,TWO DOTS,FOUR DOTS"⟩,
    ⟨0x10FB0, "CHORASMIAN LETTER ", "ALEPH,SMALL ALEPH,BETH,GIMEL,DALETH,HE,WAW,CURLED WAW,ZAYIN"⟩,
    ⟨0x10FB9, "CHORASMIAN LETTER ", "HETH,YODH,KAPH,LAMEDH,MEM,NUN,SAMEKH,AYIN,PE,RESH,SHIN,TAW"⟩,
    ⟨0x10FC5, "CHORASMIAN NUMBER ", "ONE,TWO,THREE,FOUR,TEN,TWENTY,ONE HUNDRED"⟩,
    ⟨0x10FE0, "ELYMAIC LETTER ", "ALEPH,BETH,GIMEL,DALETH,HE,WAW,ZAYIN,HETH,TETH,YODH"⟩,
    ⟨0x10FEA, "ELYMAIC LETTER ", "KAPH,LAMEDH,MEM,NUN,SAMEKH,AYIN,PE,SADHE,QOPH,RESH,SHIN,TAW"⟩,
    ⟨0x10FF6, "", "ELYMAIC LIGATURE ZAYIN-YODH"⟩,
    ⟨0x11000, "BRAHMI SIGN ", "CANDRABINDU,ANUSVARA,VISARGA,JIHVAMULIYA,UPADHMANIYA"⟩,
    ⟨0x11005, "BRAHMI LETTER ", "A,AA,I,II,U,UU,VOCALIC R,VOCALIC RR,VOCALIC L,VOCALIC LL,E,AI"⟩,
    ⟨0x11011, "BRAHMI LETTER ", "O,AU,KA,KHA,GA,GHA,NGA,CA,CHA,JA,JHA,NYA,TTA,TTHA,DDA,DDHA,NNA"⟩,
    ⟨0x11022, "BRAHMI LETTER ", "TA,THA,DA,DHA,NA,PA,PHA,BA,BHA,MA,YA,RA,LA,VA,SHA,SSA,SA,HA,LLA"⟩,
    ⟨0x11035, "BRAHMI LETTER OLD TAMIL ", "LLLA,RRA,NNNA"⟩,
    ⟨0x11038, "BRAHMI VOWEL SIGN ", "AA,BHATTIPROLU AA,I"⟩,
    ⟨0x1103B, "BRAHMI VOWEL SIGN ", "II,U,UU,VOCALIC R,VOCALIC RR,VOCALIC L,VOCALIC LL,E,AI,O,AU"⟩,
    ⟨0x11046, "BRAHMI ", "VIRAMA,DANDA,DOUBLE DANDA"⟩,
    ⟨0x11049, "BRAHMI PUNCTUATION ", "DOT,DOUBLE DOT,LINE,CRESCENT BAR,LOTUS"⟩,
    ⟨0x11052, "BRAHMI NUMBER ", "ONE,TWO,THREE,FOUR,FIVE,SIX,SEVEN,EIGHT,NINE,TEN,TWENTY,THIRTY"⟩,
    ⟨0x1105E, "BRAHMI NUMBER ", "FORTY,FIFTY,SIXTY,SEVENTY,EIGHTY,NINETY,ONE HUNDRED,ONE THOUSAND"⟩,
    ⟨0x11066, "BRAHMI DIGIT ", "ZERO,ONE,TWO,THREE,FOUR,FIVE,SIX,SEVEN,EIGHT,NINE"⟩,
    ⟨0x11070, "BRAHMI ", "SIGN OLD TAMIL VIRAMA,LETTER OLD TAMIL SHORT E,LETTER OLD TAMIL SHORT O"⟩,
    ⟨0x11073, "BRAHMI VOWEL SIGN OLD TAMIL SHORT ", "E,O"⟩,
    ⟨0x11075, "", "BRAHMI LETTER OLD TAMIL LLA"⟩,
    ⟨0x1107F, "", "BRAHMI NUMBER JOINER"⟩,
    ⟨0x11080, "KAITHI SIGN ", "CANDRABINDU,ANUSVARA,VISARGA"⟩,
    ⟨0x11083, "KAITHI LETTER ", "A,AA,I,II,U,UU,E,AI,O,AU"⟩,
    ⟨0x1108D, "KAITHI LETTER ", "KA,KHA,GA,GHA,NGA,CA,CHA,JA,JHA,NYA,TTA,TTHA,DDA,DDDHA,DDHA,RHA"⟩,
    ⟨0x1109D, "KAITHI LETTER ", "NNA,TA,THA,DA,DHA,NA,PA,PHA,BA,BHA,MA,YA,RA,LA,VA,SHA,SSA,SA,HA"⟩,
    ⟨0x110B0, "KAITHI VOWEL SIGN ", "AA,I,II,U,UU,E,AI,O,AU"⟩,
    ⟨0x110B9, "KAITHI SIGN ", "VIRAMA,NUKTA"⟩,
    ⟨0x110BB, "KAITHI ", "ABBREVIATION SIGN,ENUMERATION SIGN,NUMBER SIGN,SECTION MARK"⟩,
    ⟨0x110BF, "KAITHI ", "DOUBLE SECTION MARK,DANDA,DOUBLE DANDA,VOWEL SIGN VOCALIC R"⟩,
    ⟨0x110CD, "", "KAITHI NUMBER SIGN ABOVE"⟩,
    ⟨0x110D0, "SORA SOMPENG LETTER ", "SAH,TAH,BAH,CAH,DAH,GAH,MAH,NGAH,LAH,NAH"⟩,
    ⟨0x110DA, "SORA SOMPENG LETTER ", "VAH,PAH,YAH,RAH,HAH,KAH,JAH,NYAH,AH,EEH,IH,UH,OH,EH,MAE"⟩,
    ⟨0x110F0, "SORA SOMPENG DIGIT ", "ZERO,ONE,TWO,THREE,FOUR,FIVE,SIX,SEVEN,EIGHT,NINE"⟩,
    ⟨0x11100, "CHAKMA SIGN ", "CANDRABINDU,ANUSVARA,VISARGA"⟩,
    ⟨0x11103, "CHAKMA LETTER ", "AA,I,U,E,KAA,KHAA,GAA,GHAA"⟩,
    ⟨0x1110B, "CHAKMA LETTER ", "NGAA,CAA,CHAA,JAA,JHAA,NYAA,TTAA,TTHAA,DDAA,DDHAA,NNAA,TAA,THAA"⟩,
    ⟨0x11118, "CHAKMA LETTER ", "DAA,DHAA,NAA,PAA,PHAA,BAA,BHAA,MAA,YYAA,YAA,RAA,LAA,WAA,SAA,HAA"⟩,
    ⟨0x11127, "CHAKMA VOWEL SIGN ", "A,I,II,U,UU,E,AI,O,AU,OI"⟩,
    ⟨0x11131, "CHAKMA ", "O MARK,AU MARK,VIRAMA,MAAYYAA"⟩,
    ⟨0x11136, "CHAKMA DIGIT ", "ZERO,ONE,TWO,THREE,FOUR,FIVE,SIX,SEVEN,EIGHT,NINE"⟩,
    ⟨0x11140, "CHAKMA ", "SECTION MARK,DANDA,DOUBLE DANDA"⟩,
    ⟨0x11143, "CHAKMA ", "QUESTION MARK,LETTER LHAA,VOWEL SIGN AA,VOWEL SIGN EI,LETTER VAA"⟩,
    ⟨0x11150, "MAHAJANI LETTER ", "A,I,U,E,O,KA,KHA,GA,GHA,CA,CHA,JA,JHA,NYA,TTA,TTHA,DDA"⟩,
    ⟨0x11161, "MAHAJANI LETTER ", "DDHA,NNA,TA,THA,DA,DHA,NA,PA,PHA,BA,BHA,MA,RA,LA,VA,SA,HA,RRA"⟩,
    ⟨0x11173, "MAHAJANI ", "SIGN NUKTA,ABBREVIATION SIGN,SECTION MARK,LIGATURE SHRI"⟩,
    ⟨0x11180, "SHARADA SIGN ", "CANDRABINDU,ANUSVARA,VISARGA"⟩,
    ⟨0x11183, "SHARADA LETTER ", "A,AA,I,II,U,UU,VOCALIC R,VOCALIC RR,VOCALIC L,VOCALIC LL,E,AI"⟩,
    ⟨0x1118F, "SHARADA LETTER ", "O,AU,KA,KHA,GA,GHA,NGA,CA,CHA,JA,JHA,NYA,TTA,TTHA,DDA,DDHA,NNA"⟩,
    ⟨0x111A0, "SHARADA LETTER ", "TA,THA,DA,DHA,NA,PA,PHA,BA,BHA,MA,YA,RA,LA,LLA,VA,SHA,SSA,SA,HA"⟩,
    ⟨0x111B3, "SHARADA VOWEL SIGN ", "AA,I,II,U,UU,VOCALIC R,VOCALIC RR,VOCALIC L,VOCALIC LL,E,AI"⟩,
    ⟨0x111BE, "SHARADA ", "VOWEL SIGN O,VOWEL SIGN AU,SIGN VIRAMA,SIGN AVAGRAHA,SIGN JIHVAMULIYA"⟩,
    ⟨0x111C3, "SHARADA ", "SIGN UPADHMANIYA,OM,DANDA,DOUBLE DANDA,ABBREVIATION SIGN,SEPARATOR"⟩,
    ⟨0x111C9, "SHARADA ", "SANDHI MARK,SIGN NUKTA,VOWEL MODIFIER MARK,EXTRA SHORT VOWEL MARK"⟩,
    ⟨0x111CD, "SHARADA ", "SUTRA MARK,VOWEL SIGN PRISHTHAMATRA E,SIGN INVERTED CANDRABINDU"⟩,
    ⟨0x111D0, "SHARADA DIGIT ", "ZERO,ONE,TWO,THREE,FOUR,FIVE,SIX,SEVEN,EIGHT,NINE"⟩,
    ⟨0x111DA, "SHARADA ", "EKAM,SIGN SIDDHAM,HEADSTROKE,CONTINUATION SIGN"⟩,
    ⟨0x111DE, "SHARADA SECTION MARK-", "1,2"⟩,
    ⟨0x111E1, "SINHALA ARCHAIC DIGIT ", "ONE,TWO,THREE,FOUR,FIVE,SIX,SEVEN,EIGHT,NINE"⟩,
    ⟨0x111EA, "SINHALA ARCHAIC NUMBER ", "TEN,TWENTY,THIRTY,FORTY,FIFTY"⟩,
    ⟨0x111EF, "SINHALA ARCHAIC NUMBER ", "SIXTY,SEVENTY,EIGHTY,NINETY,ONE HUNDRED,ONE THOUSAND"⟩,
    ⟨0x11200, "KHOJKI LETTER ", "A,AA,I,U,E,AI,O,AU,KA,KHA,GA,GGA,GHA,NGA,CA,CHA,JA,JJA"⟩,
    ⟨0x11213, "KHOJKI LETTER ", "NYA,TTA,TTHA,DDA,DDHA,NNA"⟩,
    ⟨0x11219, "KHOJKI LETTER ", "TA,THA,DA,DDDA,DHA,NA,PA,PHA,BA,BBA,BHA,MA,YA,RA,LA,VA,SA,HA,LLA"⟩,
    ⟨0x1122C, "KHOJKI VOWEL SIGN ", "AA,I,II,U,E,AI,O,AU"⟩,
    ⟨0x11234, "KHOJKI SIGN ", "ANUSVARA,VIRAMA,NUKTA,SHADDA"⟩,
    ⟨0x11238, "KHOJKI ", "DANDA,DOUBLE DANDA,WORD SEPARATOR"⟩,
    ⟨0x1123B, "KHOJKI ", "SECTION MARK,DOUBLE SECTION MARK,ABBREVIATION SIGN,SIGN SUKUN"⟩,
    ⟨0x11280, "MULTANI LETTER ", "A,I,U,E,KA,KHA,GA"⟩,
    ⟨0x11288, "", "MULTANI LETTER GHA"⟩,
    ⟨0x1128A, "MULTANI LETTER ", "CA,CHA,JA,JJA"⟩,
    ⟨0x1128F, "MULTANI LETTER ", "NYA,TTA,TTHA,DDA,DDDA,DDHA,NNA,TA,THA,DA,DHA,NA,PA,PHA,BA"⟩,
    ⟨0x1129F, "MULTANI LETTER ", "BHA,MA,YA,RA,LA,VA,SA,HA,RRA,RHA"⟩,
    ⟨0x112A9, "", "MULTANI SECTION MARK"⟩,
    ⟨0x112B0, "KHUDAWADI LETTER ", "A,AA,I,II,U,UU,E,AI,O,AU,KA,KHA,GA,GGA"⟩,
    ⟨0x112BE, "KHUDAWADI LETTER ", "GHA,NGA,CA,CHA,JA,JJA,JHA,NYA,TTA,TTHA,DDA,DDDA,RRA,DDHA,NNA"⟩,
    ⟨0x112CD, "KHUDAWADI LETTER ", "TA,THA,DA,DHA,NA,PA,PHA,BA,BBA,BHA,MA,YA,RA,LA,VA,SHA,SA,HA"⟩,
    ⟨0x112DF, "", "KHUDAWADI SIGN ANUSVARA"⟩,
    ⟨0x112E0, "KHUDAWADI VOWEL SIGN ", "AA,I,II,U,UU,E,AI,O,AU"⟩,
    ⟨0x112E9, "KHUDAWADI SIGN ", "NUKTA,VIRAMA"⟩,
    ⟨0x112F0, "KHUDAWADI DIGIT ", "ZERO,ONE,TWO,THREE,FOUR,FIVE,SIX,SEVEN,EIGHT,NINE"⟩,
    ⟨0x11300, "GRANTHA SIGN ", "COMBINING ANUSVARA ABOVE,CANDRABINDU,ANUSVARA,VISARGA"⟩,
    ⟨0x11305, "GRANTHA LETTER ", "A,AA,I,II,U,UU,VOCALIC R,VOCALIC L"⟩,
    ⟨0x1130F, "GRANTHA LETTER ", "EE,AI"⟩,
    ⟨0x11313, "GRANTHA LETTER ", "OO,AU,KA,KHA,GA,GHA"⟩,
    ⟨0x11319, "GRANTHA LETTER ", "NGA,CA,CHA,JA,JHA,NYA,TTA,TTHA,DDA,DDHA,NNA,TA,THA,DA,DHA,NA"⟩,
    ⟨0x1132A, "GRANTHA LETTER ", "PA,PHA,BA,BHA,MA,YA,RA"⟩,
    ⟨0x11332, "GRANTHA LETTER ", "LA,LLA"⟩,
    ⟨0x11335, "GRANTHA LETTER ", "VA,SHA,SSA,SA,HA"⟩,
    ⟨0x1133B, "", "COMBINING BINDU BELOW,GRANTHA SIGN NUKTA,GRANTHA SIGN AVAGRAHA"⟩,
    ⟨0x1133E, "GRANTHA VOWEL SIGN ", "AA,I,II,U,UU,VOCALIC R,VOCALIC RR"⟩,
    ⟨0x11347, "GRANTHA VOWEL SIGN ", "EE,AI"⟩,
    ⟨0x1134B, "GRANTHA ", "VOWEL SIGN OO,VOWEL SIGN AU,SIGN VIRAMA"⟩,
    ⟨0x11350, "", "GRANTHA OM"⟩,
    ⟨0x11357, "", "GRANTHA AU LENGTH MARK"⟩,
    ⟨0x1135D, "", "GRANTHA SIGN PLUTA"⟩,
    ⟨0x1135E, "GRANTHA LETTER ", "VEDIC ANUSVARA,VEDIC DOUBLE ANUSVARA,VOCALIC RR,VOCALIC LL"⟩,
    ⟨0x11362, "GRANTHA VOWEL SIGN VOCALIC ", "L,LL"⟩,
    ⟨0x11366, "COMBINING GRANTHA DIGIT ", "ZERO,ONE,TWO,THREE,FOUR,FIVE,SIX"⟩,
    ⟨0x11370, "COMBINING GRANTHA LETTER ", "A,KA,NA,VI,PA"⟩,
    ⟨0x11400, "NEWA LETTER ", "A,AA,I,II,U,UU,VOCALIC R,VOCALIC RR,VOCALIC L,VOCALIC LL,E,AI,O"⟩,
    ⟨0x1140D, "NEWA LETTER ", "AU,KA,KHA,GA,GHA,NGA,NGHA,CA,CHA,JA,JHA,NYA,NYHA,TTA,TTHA,DDA,DDHA"⟩,
    ⟨0x1141E, "NEWA LETTER ", "NNA,TA,THA,DA,DHA,NA,NHA,PA,PHA,BA,BHA,MA,MHA,YA,RA,RHA,LA,LHA,WA"⟩,
    ⟨0x11431, "NEWA ", "LETTER SHA,LETTER SSA,LETTER SA,LETTER HA,VOWEL SIGN AA"⟩,
    ⟨0x11436, "NEWA VOWEL SIGN ", "I,II,U,UU,VOCALIC R,VOCALIC RR,VOCALIC L,VOCALIC LL,E,AI,O,AU"⟩,
    ⟨0x11442, "NEWA SIGN ", "VIRAMA,CANDRABINDU,ANUSVARA,VISARGA,NUKTA,AVAGRAHA,FINAL ANUSVARA"⟩,
    ⟨0x11449, "NEWA ", "OM,SIDDHI,DANDA,DOUBLE DANDA,COMMA,GAP FILLER,ABBREVIATION SIGN"⟩,
    ⟨0x11450, "NEWA DIGIT ", "ZERO,ONE,TWO,THREE,FOUR,FIVE,SIX,SEVEN,EIGHT,NINE"⟩,
    ⟨0x1145A, "NEWA ", "DOUBLE COMMA,PLACEHOLDER MARK"⟩,
    ⟨0x1145D, "NEWA ", "INSERTION SIGN,SANDHI MARK,LETTER VEDIC ANUSVARA"⟩,
    ⟨0x11460, "NEWA SIGN ", "JIHVAMULIYA,UPADHMANIYA"⟩,
    ⟨0x11480, "", "TIRHUTA ANJI"⟩,
    ⟨0x11481, "TIRHUTA LETTER ", "A,AA,I,II,U,UU,VOCALIC R,VOCALIC RR,VOCALIC L,VOCALIC LL"⟩,
    ⟨0x1148B, "TIRHUTA LETTER ", "E,AI,O,AU,KA,KHA,GA,GHA,NGA,CA,CHA,JA,JHA,NYA,TTA,TTHA,DDA,DDHA"⟩,
    ⟨0x1149D, "TIRHUTA LETTER ", "NNA,TA,THA,DA,DHA,NA,PA,PHA,BA,BHA,MA,YA,RA,LA,VA,SHA,SSA,SA,HA"⟩,
    ⟨0x114B0, "TIRHUTA VOWEL SIGN ", "AA,I,II,U,UU,VOCALIC R"⟩,
    ⟨0x114B6, "TIRHUTA VOWEL SIGN ", "VOCALIC RR,VOCALIC L,VOCALIC LL,E,SHORT E,AI,O,SHORT O,AU"⟩,
    ⟨0x114BF, "TIRHUTA SIGN ", "CANDRABINDU,ANUSVARA,VISARGA,VIRAMA,NUKTA,AVAGRAHA"⟩,
    ⟨0x114C5, "TIRHUTA ", "GVANG,ABBREVIATION SIGN,OM"⟩,
    ⟨0x114D0, "TIRHUTA DIGIT ", "ZERO,ONE,TWO,THREE,FOUR,FIVE,SIX,SEVEN,EIGHT,NINE"⟩,
    ⟨0x11580, "SIDDHAM LETTER ", "A,AA,I,II,U,UU,VOCALIC R,VOCALIC RR,VOCALIC L,VOCALIC LL"⟩,
    ⟨0x1158A, "SIDDHAM LETTER ", "E,AI,O,AU,KA,KHA,GA,GHA,NGA,CA,CHA,JA,JHA,NYA,TTA,TTHA,DDA,DDHA"⟩,
    ⟨0x1159C, "SIDDHAM LETTER ", "NNA,TA,THA,DA,DHA,NA,PA,PHA,BA,BHA,MA,YA,RA,LA,VA,SHA,SSA,SA,HA"⟩,
    ⟨0x115AF, "SIDDHAM VOWEL SIGN ", "AA,I,II,U,UU,VOCALIC R,VOCALIC RR"⟩,
    ⟨0x115B8, "SIDDHAM VOWEL SIGN ", "E,AI,O,AU"⟩,
    ⟨0x115BC, "SIDDHAM SIGN ", "CANDRABINDU,ANUSVARA,VISARGA,VIRAMA,NUKTA,SIDDHAM"⟩,
    ⟨0x115C2, "SIDDHAM ", "DANDA,DOUBLE DANDA,SEPARATOR DOT,SEPARATOR BAR"⟩,
    ⟨0x115C6, "SIDDHAM ", "REPETITION MARK-1,REPETITION MARK-2,REPETITION MARK-3,END OF TEXT MARK"⟩,
    ⟨0x115CA, "SIDDHAM SECTION MARK WITH TRIDENT AND ", "U-SHAPED ORNAMENTS,DOTTED CRESCENTS"⟩,
    ⟨0x115CC, "", "SIDDHAM SECTION MARK WITH RAYS AND DOTTED CRESCENTS"⟩,
    ⟨0x115CD, "SIDDHAM SECTION MARK WITH RAYS AND DOTTED ", "DOUBLE CRESCENTS,TRIPLE CRESCENTS"⟩,
    ⟨0x115CF, "SIDDHAM SECTION MARK DOUBLE ", "RING,RING WITH RAYS"⟩,
    ⟨0x115D1, "SIDDHAM SECTION MARK WITH ", "DOUBLE CRESCENTS,TRIPLE CRESCENTS"⟩,
    ⟨0x115D3, "SIDDHAM SECTION MARK WITH ", "QUADRUPLE CRESCENTS,SEPTUPLE CRESCENTS"⟩,
    ⟨0x115D5, "SIDDHAM SECTION MARK WITH CIRCLES AND ", "RAYS,TWO ENCLOSURES,FOUR ENCLOSURES"⟩,
    ⟨0x115D8, "", "SIDDHAM LETTER THREE-CIRCLE ALTERNATE I"⟩,
    ⟨0x115D9, "SIDDHAM LETTER ", "TWO-CIRCLE ALTERNATE I,TWO-CIRCLE ALTERNATE II,ALTERNATE U"⟩,
    ⟨0x115DC, "SIDDHAM VOWEL SIGN ALTERNATE ", "U,UU"⟩,
    ⟨0x11600, "MODI LETTER ", "A,AA,I,II,U,UU,VOCALIC R,VOCALIC RR,VOCALIC L,VOCALIC LL,E"⟩,
    ⟨0x1160B, "MODI LETTER ", "AI,O,AU,KA,KHA,GA,GHA,NGA,CA,CHA,JA,JHA,NYA,TTA,TTHA,DDA,DDHA,NNA"⟩,
    ⟨0x1161D, "MODI LETTER ", "TA,THA,DA,DHA,NA,PA,PHA,BA,BHA,MA,YA,RA,LA,VA,SHA,SSA,SA,HA,LLA"⟩,
    ⟨0x11630, "MODI VOWEL SIGN ", "AA,I,II,U,UU,VOCALIC R,VOCALIC RR,VOCALIC L,VOCALIC LL,E,AI,O"⟩,
    ⟨0x1163C, "MODI ", "VOWEL SIGN AU,SIGN ANUSVARA,SIGN VISARGA,SIGN VIRAMA"⟩,
    ⟨0x11640, "MODI ", "SIGN ARDHACANDRA,DANDA,DOUBLE DANDA,ABBREVIATION SIGN,SIGN HUVA"⟩,
    ⟨0x11650, "MODI DIGIT ", "ZERO,ONE,TWO,THREE,FOUR,FIVE,SIX,SEVEN,EIGHT,NINE"⟩,
    ⟨0x11660, "MONGOLIAN ", "BIRGA WITH ORNAMENT,ROTATED BIRGA,DOUBLE BIRGA WITH ORNAMENT"⟩,
    ⟨0x11663, "MONGOLIAN ", "TRIPLE BIRGA WITH ORNAMENT,BIRGA WITH DOUBLE ORNAMENT"⟩,
    ⟨0x11665, "MONGOLIAN ROTATED BIRGA WITH ", "ORNAMENT,DOUBLE ORNAMENT"⟩,
    ⟨0x11667, "MONGOLIAN INVERTED ", "BIRGA,BIRGA WITH DOUBLE ORNAMENT"⟩,
    ⟨0x11669, "MONGOLIAN SWIRL ", "BIRGA,BIRGA WITH ORNAMENT,BIRGA WITH DOUBLE ORNAMENT"⟩,
    ⟨0x1166C, "", "MONGOLIAN TURNED SWIRL BIRGA WITH DOUBLE ORNAMENT"⟩,
    ⟨0x11680, "TAKRI LETTER ", "A,AA,I,II,U,UU,E,AI,O,AU,KA,KHA,GA,GHA,NGA,CA,CHA,JA,JHA,NYA,TTA"⟩,
    ⟨0x11695, "TAKRI LETTER ", "TTHA,DDA,DDHA,NNA,TA,THA,DA,DHA,NA,PA,PHA,BA,BHA,MA,YA,RA,LA,VA"⟩,
    ⟨0x116A7, "TAKRI ", "LETTER SHA,LETTER SA,LETTER HA,LETTER RRA,SIGN ANUSVARA,SIGN VISARGA"⟩,
    ⟨0x116AD, "TAKRI VOWEL SIGN ", "AA,I,II,U,UU,E,AI,O,AU"⟩,
    ⟨0x116B6, "TAKRI ", "SIGN VIRAMA,SIGN NUKTA,LETTER ARCHAIC KHA,ABBREVIATION SIGN"⟩,
    ⟨0x116C0, "TAKRI DIGIT ", "ZERO,ONE,TWO,THREE,FOUR,FIVE,SIX,SEVEN,EIGHT,NINE"⟩,
    ⟨0x11700, "AHOM LETTER ", "KA,KHA,NGA,NA,TA,ALTERNATE TA,PA,PHA,BA,MA,JA,CHA,THA"⟩,
    ⟨0x1170D, "AHOM LETTER ", "RA,LA,SA,NYA,HA,A,DA,DHA,GA,ALTERNATE GA,GHA,BHA,JHA,ALTERNATE BA"⟩,
    ⟨0x1171D, "AHOM CONSONANT SIGN MEDIAL ", "LA,RA,LIGATING RA"⟩,
    ⟨0x11720, "AHOM VOWEL SIGN ", "A,AA,I,II,U,UU,E,AW,O,AI,AM"⟩,
    ⟨0x1172B, "", "AHOM SIGN KILLER"⟩,
    ⟨0x11730, "AHOM DIGIT ", "ZERO,ONE,TWO,THREE,FOUR,FIVE,SIX,SEVEN,EIGHT,NINE"⟩,
    ⟨0x1173A, "AHOM NUMBER ", "TEN,TWENTY"⟩,
    ⟨0x1173C, "AHOM ", "SIGN SMALL SECTION,SIGN SECTION,SIGN RULAI,SYMBOL VI"⟩,
    ⟨0x11740, "AHOM LETTER ", "CA,TTA,TTHA,DDA,DDHA,NNA,LLA"⟩,
    ⟨0x11800, "DOGRA LETTER ", "A,AA,I,II,U,UU,E"⟩,
    ⟨0x11807, "DOGRA LETTER ", "AI,O,AU,KA,KHA,GA,GHA,NGA,CA,CHA,JA,JHA,NYA,TTA,TTHA,DDA,DDHA,NNA"⟩,
    ⟨0x11819, "DOGRA LETTER ", "TA,THA,DA,DHA,NA,PA,PHA,BA,BHA,MA,YA,RA,LA,VA,SHA,SSA,SA,HA,RRA"⟩,
    ⟨0x1182C, "DOGRA VOWEL SIGN ", "AA,I,II,U,UU,VOCALIC R,VOCALIC RR,E,AI,O,AU"⟩,
    ⟨0x11837, "DOGRA ", "SIGN ANUSVARA,SIGN VISARGA,SIGN VIRAMA,SIGN NUKTA,ABBREVIATION SIGN"⟩,
    ⟨0x118A0, "WARANG CITI CAPITAL LETTER ", "NGAA,A,WI,YU,YA"⟩,
    ⟨0x118A5, "WARANG CITI CAPITAL LETTER ", "YO,II,UU,E,O,ANG,GA,KO,ENY,YUJ,UC,ENN,ODD,TTE,NUNG"⟩,
    ⟨0x118B4, "WARANG CITI CAPITAL LETTER ", "DA,AT,AM,BU,PU,HIYO,HOLO,HORR,HAR,SSUU,SII,VIYO"⟩,
    ⟨0x118C0, "WARANG CITI SMALL LETTER ", "NGAA,A,WI"⟩,
    ⟨0x118C3, "WARANG CITI SMALL LETTER ", "YU,YA,YO,II,UU,E,O,ANG,GA,KO,ENY,YUJ,UC,ENN,ODD,TTE"⟩,
    ⟨0x118D3, "WARANG CITI SMALL LETTER ", "NUNG,DA,AT,AM,BU,PU,HIYO,HOLO,HORR,HAR,SSUU,SII,VIYO"⟩,
    ⟨0x118E0, "WARANG CITI DIGIT ", "ZERO,ONE,TWO,THREE,FOUR,FIVE,SIX,SEVEN,EIGHT,NINE"⟩,
    ⟨0x118EA, "WARANG CITI NUMBER ", "TEN,TWENTY,THIRTY,FORTY,FIFTY,SIXTY,SEVENTY,EIGHTY,NINETY"⟩,
    ⟨0x118FF, "", "WARANG CITI OM"⟩,
    ⟨0x11900, "DIVES AKURU LETTER ", "A,AA,I,II,U,UU,E"⟩,
    ⟨0x11909, "", "DIVES AKURU LETTER O"⟩,
    ⟨0x1190C, "DIVES AKURU LETTER ", "KA,KHA,GA,GHA,NGA,CA,CHA,JA"⟩,
    ⟨0x11915, "DIVES AKURU LETTER ", "NYA,TTA"⟩,
    ⟨0x11918, "DIVES AKURU LETTER ", "DDA,DDHA,NNA,TA,THA,DA,DHA"⟩,
    ⟨0x1191F, "DIVES AKURU LETTER ", "NA,PA,PHA,BA,BHA,MA,YA,YYA,RA,LA,VA,SHA,SSA,SA,HA,LLA,ZA"⟩,
    ⟨0x11930, "DIVES AKURU VOWEL SIGN ", "AA,I,II,U,UU,E"⟩,
    ⟨0x11937, "DIVES AKURU VOWEL SIGN ", "AI,O"⟩,
    ⟨0x1193B, "DIVES AKURU SIGN ", "ANUSVARA,CANDRABINDU,HALANTA"⟩,
    ⟨0x1193E, "DIVES AKURU ", "VIRAMA,PREFIXED NASAL SIGN,MEDIAL YA,INITIAL RA"⟩,
    ⟨0x11942, "DIVES AKURU ", "MEDIAL RA,SIGN NUKTA,DOUBLE DANDA,GAP FILLER,END OF TEXT MARK"⟩,
    ⟨0x11950, "DIVES AKURU DIGIT ", "ZERO,ONE,TWO,THREE,FOUR,FIVE,SIX,SEVEN,EIGHT,NINE"⟩,
    ⟨0x119A0, "NANDINAGARI LETTER ", "A,AA,I,II,U,UU,VOCALIC R,VOCALIC RR"⟩,
    ⟨0x119AA, "NANDINAGARI LETTER ", "E,AI,O,AU,KA,KHA,GA"⟩,
    ⟨0x119B1, "NANDINAGARI LETTER ", "GHA,NGA,CA,CHA,JA,JHA,NYA,TTA,TTHA,DDA,DDHA,NNA,TA,THA,DA"⟩,
    ⟨0x119C0, "NANDINAGARI LETTER ", "DHA,NA,PA,PHA,BA,BHA,MA,YA,RA,LA,VA,SHA,SSA,SA,HA,LLA,RRA"⟩,
    ⟨0x119D1, "NANDINAGARI VOWEL SIGN ", "AA,I,II,U,UU,VOCALIC R,VOCALIC RR"⟩,
    ⟨0x119DA, "NANDINAGARI VOWEL SIGN ", "E,AI,O,AU"⟩,
    ⟨0x119DE, "NANDINAGARI SIGN ", "ANUSVARA,VISARGA,VIRAMA,AVAGRAHA,SIDDHAM"⟩,
    ⟨0x119E3, "NANDINAGARI ", "HEADSTROKE,VOWEL SIGN PRISHTHAMATRA E"⟩,
    ⟨0x11A00, "", "ZANABAZAR SQUARE LETTER A"⟩,
    ⟨0x11A01, "ZANABAZAR SQUARE VOWEL SIGN ", "I,UE,U,E,OE,O,AI,AU,REVERSED I"⟩,
    ⟨0x11A0A, "", "ZANABAZAR SQUARE VOWEL LENGTH MARK"⟩,
    ⟨0x11A0B, "ZANABAZAR SQUARE LETTER ", "KA,KHA,GA,GHA,NGA,CA,CHA,JA,NYA,TTA,TTHA"⟩,
    ⟨0x11A16, "ZANABAZAR SQUARE LETTER ", "DDA,DDHA,NNA,TA,THA,DA,DHA,NA,PA,PHA,BA,BHA,MA,TSA"⟩,
    ⟨0x11A24, "ZANABAZAR SQUARE LETTER ", "TSHA,DZA,DZHA,ZHA,ZA,-A,YA,RA,LA,VA,SHA,SSA,SA,HA,KSSA"⟩,
    ⟨0x11A33, "ZANABAZAR SQUARE ", "FINAL CONSONANT MARK,SIGN VIRAMA,SIGN CANDRABINDU"⟩,
    ⟨0x11A36, "ZANABAZAR SQUARE SIGN ", "CANDRABINDU WITH ORNAMENT,CANDRA WITH ORNAMENT,ANUSVARA"⟩,
    ⟨0x11A39, "ZANABAZAR SQUARE ", "SIGN VISARGA,CLUSTER-INITIAL LETTER RA"⟩,
    ⟨0x11A3B, "ZANABAZAR SQUARE CLUSTER-FINAL LETTER ", "YA,RA,LA,VA"⟩,
    ⟨0x11A3F, "ZANABAZAR SQUARE ", "INITIAL HEAD MARK,CLOSING HEAD MARK"⟩,
    ⟨0x11A41, "ZANABAZAR SQUARE MARK ", "TSHEG,SHAD,DOUBLE SHAD,LONG TSHEG"⟩,
    ⟨0x11A45, "", "ZANABAZAR SQUARE INITIAL DOUBLE-LINED HEAD MARK"⟩,
    ⟨0x11A46, "ZANABAZAR SQUARE ", "CLOSING DOUBLE-LINED HEAD MARK,SUBJOINER"⟩,
    ⟨0x11A50, "", "SOYOMBO LETTER A"⟩,
    ⟨0x11A51, "SOYOMBO VOWEL SIGN ", "I,UE,U,E,O,OE,AI,AU,VOCALIC R,VOCALIC L"⟩,
    ⟨0x11A5B, "SOYOMBO ", "VOWEL LENGTH MARK,LETTER KA,LETTER KHA,LETTER GA,LETTER GHA,LETTER NGA"⟩,
    ⟨0x11A61, "SOYOMBO LETTER ", "CA,CHA,JA,JHA,NYA,TTA,TTHA,DDA,DDHA,NNA,TA,THA,DA,DHA,NA,PA,PHA"⟩,
    ⟨0x11A72, "SOYOMBO LETTER ", "BA,BHA,MA,TSA,TSHA,DZA,ZHA,ZA,-A,YA,RA,LA,VA,SHA,SSA,SA,HA,KSSA"⟩,
    ⟨0x11A84, "SOYOMBO SIGN ", "JIHVAMULIYA,UPADHMANIYA"⟩,
    ⟨0x11A86, "SOYOMBO CLUSTER-INITIAL LETTER ", "RA,LA,SHA,SA"⟩,
    ⟨0x11A8A, "SOYOMBO FINAL CONSONANT SIGN ", "G,K,NG,D,N,B,M,R,L,SH,S,-A"⟩,
    ⟨0x11A96, "SOYOMBO ", "SIGN ANUSVARA,SIGN VISARGA,GEMINATION MARK,SUBJOINER"⟩,
    ⟨0x11A9A, "SOYOMBO MARK ", "TSHEG,SHAD,DOUBLE SHAD,PLUTA"⟩,
    ⟨0x11A9E, "SOYOMBO HEAD MARK WITH MOON AND ", "SUN AND TRIPLE FLAME,SUN AND FLAME,SUN"⟩,
    ⟨0x11AA1, "SOYOMBO TERMINAL MARK-", "1,2"⟩,
    ⟨0x11AB0, "CANADIAN SYLLABICS NATTILIK ", "HI,HII,HO,HOO,HA,HAA,SHRI,SHRII,SHRO,SHROO,SHRA"⟩,
    ⟨0x11ABB, "CANADIAN SYLLABICS ", "NATTILIK SHRAA,SPE,SPI,SPO,SPA"⟩,
    ⟨0x11AC0, "PAU CIN HAU LETTER ", "PA,KA,LA,MA,DA,ZA,VA,NGA"⟩,
    ⟨0x11AC8, "PAU CIN HAU LETTER ", "HA,GA,KHA,SA,BA,CA,TA,THA,NA,PHA,RA,FA,CHA,A,E,I,O,U,UA,IA"⟩,
    ⟨0x11ADC, "PAU CIN HAU LETTER FINAL ", "P,K,T,M,N,L,W,NG,Y"⟩,
    ⟨0x11AE5, "PAU CIN HAU ", "RISING TONE LONG,RISING TONE,SANDHI GLOTTAL STOP"⟩,
    ⟨0x11AE8, "PAU CIN HAU ", "RISING TONE LONG FINAL,RISING TONE FINAL,SANDHI GLOTTAL STOP FINAL"⟩,
    ⟨0x11AEB, "PAU CIN HAU SANDHI ", "TONE LONG,TONE,TONE LONG FINAL,TONE FINAL"⟩,
    ⟨0x11AEF, "PAU CIN HAU ", "MID-LEVEL TONE,GLOTTAL STOP VARIANT,MID-LEVEL TONE LONG FINAL"⟩,
    ⟨0x11AF2, "PAU CIN HAU ", "MID-LEVEL TONE FINAL,LOW-FALLING TONE LONG"⟩,
    ⟨0x11AF4, "PAU CIN HAU ", "LOW-FALLING TONE,GLOTTAL STOP,LOW-FALLING TONE LONG FINAL"⟩,
    ⟨0x11AF7, "PAU CIN HAU ", "LOW-FALLING TONE FINAL,GLOTTAL STOP FINAL"⟩,
    ⟨0x11C00, "BHAIKSUKI LETTER ", "A,AA,I,II,U,UU,VOCALIC R,VOCALIC RR,VOCALIC L"⟩,
    ⟨0x11C0A, "BHAIKSUKI LETTER ", "E,AI,O"⟩,
    ⟨0x11C0D, "BHAIKSUKI LETTER ", "AU,KA,KHA,GA,GHA,NGA,CA,CHA,JA,JHA,NYA,TTA,TTHA,DDA,DDHA,NNA"⟩,
    ⟨0x11C1D, "BHAIKSUKI LETTER ", "TA,THA,DA,DHA,NA,PA,PHA,BA,BHA,MA,YA,RA,LA,VA,SHA,SSA,SA,HA"⟩,
    ⟨0x11C2F, "BHAIKSUKI VOWEL SIGN ", "AA,I,II,U,UU,VOCALIC R,VOCALIC RR,VOCALIC L"⟩,
    ⟨0x11C38, "BHAIKSUKI VOWEL SIGN ", "E,AI,O,AU"⟩,
    ⟨0x11C3C, "BHAIKSUKI SIGN ", "CANDRABINDU,ANUSVARA,VISARGA,VIRAMA,AVAGRAHA"⟩,
    ⟨0x11C41, "BHAIKSUKI ", "DANDA,DOUBLE DANDA,WORD SEPARATOR,GAP FILLER-1,GAP FILLER-2"⟩,
    ⟨0x11C50, "BHAIKSUKI DIGIT ", "ZERO,ONE,TWO,THREE,FOUR,FIVE,SIX,SEVEN,EIGHT,NINE"⟩,
    ⟨0x11C5A, "BHAIKSUKI NUMBER ", "ONE,TWO,THREE,FOUR,FIVE,SIX,SEVEN,EIGHT,NINE"⟩,
    ⟨0x11C63, "BHAIKSUKI NUMBER ", "TEN,TWENTY,THIRTY,FORTY,FIFTY,SIXTY,SEVENTY,EIGHTY,NINETY"⟩,
    ⟨0x11C6C, "", "BHAIKSUKI HUNDREDS UNIT MARK"⟩,
    ⟨0x11C70, "MARCHEN ", "HEAD MARK,MARK SHAD"⟩,
    ⟨0x11C72, "MARCHEN LETTER ", "KA,KHA,GA,NGA,CA,CHA,JA,NYA,TA,THA,DA"⟩,
    ⟨0x11C7D, "MARCHEN LETTER ", "NA,PA,PHA,BA,MA,TSA,TSHA,DZA,WA,ZHA,ZA,-A,YA,RA,LA,SHA,SA,HA,A"⟩,
    ⟨0x11C92, "MARCHEN SUBJOINED LETTER ", "KA,KHA,GA,NGA,CA,CHA,JA"⟩,
    ⟨0x11C99, "MARCHEN SUBJOINED LETTER ", "NYA,TA,THA,DA,NA,PA,PHA,BA,MA,TSA,TSHA,DZA,WA,ZHA,ZA"⟩,
    ⟨0x11CA9, "MARCHEN SUBJOINED LETTER ", "YA,RA,LA,SHA,SA,HA,A"⟩,
    ⟨0x11CB0, "MARCHEN VOWEL SIGN ", "AA,I,U,E,O"⟩,
    ⟨0x11CB5, "MARCHEN SIGN ", "ANUSVARA,CANDRABINDU"⟩,
    ⟨0x11D00, "MASARAM GONDI LETTER ", "A,AA,I,II,U,UU,E"⟩,
    ⟨0x11D08, "MASARAM GONDI LETTER ", "AI,O"⟩,
    ⟨0x11D0B, "MASARAM GONDI LETTER ", "AU,KA,KHA,GA,GHA,NGA,CA"⟩,
    ⟨0x11D12, "MASARAM GONDI LETTER ", "CHA,JA,JHA,NYA,TTA,TTHA,DDA,DDHA,NNA,TA,THA,DA,DHA,NA,PA"⟩,
    ⟨0x11D21, "MASARAM GONDI LETTER ", "PHA,BA,BHA,MA,YA,RA,LA,VA,SHA,SSA,SA,HA,LLA,KSSA,JNYA,TRA"⟩,
    ⟨0x11D31, "MASARAM GONDI VOWEL SIGN ", "AA,I,II,U,UU,VOCALIC R"⟩,
    ⟨0x11D3A, "", "MASARAM GONDI VOWEL SIGN E"⟩,
    ⟨0x11D3C, "MASARAM GONDI VOWEL SIGN ", "AI,O"⟩,
    ⟨0x11D3F, "MASARAM GONDI ", "VOWEL SIGN AU,SIGN ANUSVARA,SIGN VISARGA"⟩,
    ⟨0x11D42, "MASARAM GONDI ", "SIGN NUKTA,SIGN CANDRA,SIGN HALANTA,VIRAMA,REPHA,RA-KARA"⟩,
    ⟨0x11D50, "MASARAM GONDI DIGIT ", "ZERO,ONE,TWO,THREE,FOUR,FIVE,SIX,SEVEN,EIGHT,NINE"⟩,
    ⟨0x11D60, "GUNJALA GONDI LETTER ", "A,AA,I,II,U,UU"⟩,
    ⟨0x11D67, "GUNJALA GONDI LETTER ", "EE,AI"⟩,
    ⟨0x11D6A, "GUNJALA GONDI LETTER ", "OO,AU,YA,VA,BA,BHA,MA,KA,KHA,TA,THA,LA,GA,GHA,DA,DHA,NA"⟩,
    ⟨0x11D7B, "GUNJALA GONDI LETTER ", "CA,CHA,TTA,TTHA,LLA,JA,JHA,DDA,DDHA,NGA,PA,PHA,HA,RA,SA"⟩,
    ⟨0x11D8A, "GUNJALA GONDI VOWEL SIGN ", "AA,I,II,U,UU"⟩,
    ⟨0x11D90, "GUNJALA GONDI VOWEL SIGN ", "EE,AI"⟩,
    ⟨0x11D93, "GUNJALA GONDI ", "VOWEL SIGN OO,VOWEL SIGN AU,SIGN ANUSVARA,SIGN VISARGA,VIRAMA,OM"⟩,
    ⟨0x11DA0, "GUNJALA GONDI DIGIT ", "ZERO,ONE,TWO,THREE,FOUR,FIVE,SIX,SEVEN,EIGHT,NINE"⟩,
    ⟨0x11EE0, "MAKASAR LETTER ", "KA,GA,NGA,PA,BA,MA,TA,DA,NA,CA,JA,NYA,YA,RA,LA,VA,SA,A"⟩,
    ⟨0x11EF2, "MAKASAR ", "ANGKA,VOWEL SIGN I"⟩,
    ⟨0x11EF4, "MAKASAR ", "VOWEL SIGN U,VOWEL SIGN E,VOWEL SIGN O,PASSIMBANG,END OF SECTION"⟩,
    ⟨0x11FB0, "", "LISU LETTER YHA"⟩,
    ⟨0x11FC0, "TAMIL FRACTION ONE ", "THREE-HUNDRED-AND-TWENTIETH,ONE-HUNDRED-AND-SIXTIETH"⟩,
    ⟨0x11FC2, "TAMIL FRACTION ONE ", "EIGHTIETH,SIXTY-FOURTH,FORTIETH,THIRTY-SECOND"⟩,
    ⟨0x11FC6, "TAMIL FRACTION THREE ", "EIGHTIETHS,SIXTY-FOURTHS"⟩,
    ⟨0x11FC8, "TAMIL FRACTION ONE ", "TWENTIETH,SIXTEENTH-1,SIXTEENTH-2,TENTH,EIGHTH"⟩,
    ⟨0x11FCD, "TAMIL FRACTION ", "THREE TWENTIETHS,THREE SIXTEENTHS,ONE FIFTH,ONE QUARTER"⟩,
    ⟨0x11FD1, "TAMIL FRACTION ", "ONE HALF-1,ONE HALF-2,THREE QUARTERS,DOWNSCALING FACTOR KIIZH"⟩,
    ⟨0x11FD5, "TAMIL SIGN ", "NEL,CEVITU,AAZHAAKKU,UZHAKKU,MUUVUZHAKKU,KURUNI"⟩,
    ⟨0x11FDB, "TAMIL SIGN ", "PATHAKKU,MUKKURUNI,KAACU,PANAM,PON,VARAAKAN,PAARAM,KUZHI,VELI"⟩,
    ⟨0x11FE4, "TAMIL ", "WET CULTIVATION SIGN,DRY CULTIVATION SIGN,LAND SIGN,SALT PAN SIGN"⟩,
    ⟨0x11FE8, "TAMIL TRADITIONAL ", "CREDIT SIGN,NUMBER SIGN"⟩,
    ⟨0x11FEA, "TAMIL ", "CURRENT SIGN,AND ODD SIGN,SPENT SIGN,TOTAL SIGN"⟩,
    ⟨0x11FEE, "TAMIL ", "IN POSSESSION SIGN,STARTING FROM SIGN,SIGN MUTHALIYA,SIGN VAKAIYARAA"⟩,
    ⟨0x11FFF, "", "TAMIL PUNCTUATION END OF TEXT"⟩
  ]

end MemoryAtlas.Text.Name
