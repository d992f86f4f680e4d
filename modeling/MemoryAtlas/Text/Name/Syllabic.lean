import MemoryAtlas.Text.Characters

/-!
Names of characters from U+1200 to U+1FFF: Ethiopic, Cherokee, Khmer and further scripts.
-/

namespace MemoryAtlas.Text.Name

def syllabic : List Block :=
  [
    ⟨0x1200, "ETHIOPIC SYLLABLE ", "HA,HU,HI,HAA,HEE,HE,HO,HOA"⟩,
    ⟨0x1208, "ETHIOPIC SYLLABLE ", "LA,LU,LI,LAA,LEE,LE,LO,LWA,HHA,HHU,HHI,HHAA,HHEE,HHE,HHO,HHWA"⟩,
    ⟨0x1218, "ETHIOPIC SYLLABLE ", "MA,MU,MI,MAA,MEE,ME,MO,MWA,SZA,SZU,SZI,SZAA,SZEE,SZE,SZO,SZWA"⟩,
    ⟨0x1228, "ETHIOPIC SYLLABLE ", "RA,RU,RI,RAA,REE,RE,RO,RWA,SA,SU,SI,SAA,SEE,SE,SO,SWA,SHA"⟩,
    ⟨0x1239, "ETHIOPIC SYLLABLE ", "SHU,SHI,SHAA,SHEE,SHE,SHO,SHWA,QA,QU,QI,QAA,QEE,QE,QO,QOA,QWA"⟩,
    ⟨0x124A, "ETHIOPIC SYLLABLE ", "QWI,QWAA,QWEE,QWE"⟩,
    ⟨0x1250, "ETHIOPIC SYLLABLE ", "QHA,QHU,QHI,QHAA,QHEE,QHE,QHO"⟩,
    ⟨0x1258, "", "ETHIOPIC SYLLABLE QHWA"⟩,
    ⟨0x125A, "ETHIOPIC SYLLABLE ", "QHWI,QHWAA,QHWEE,QHWE"⟩,
    ⟨0x1260, "ETHIOPIC SYLLABLE ", "BA,BU,BI,BAA,BEE"⟩,
    ⟨0x1265, "ETHIOPIC SYLLABLE ", "BE,BO,BWA,VA,VU,VI,VAA,VEE,VE,VO,VWA,TA,TU,TI,TAA,TEE,TE,TO"⟩,
    ⟨0x1277, "ETHIOPIC SYLLABLE ", "TWA,CA,CU,CI,CAA,CEE,CE,CO,CWA,XA,XU,XI,XAA,XEE,XE,XO,XOA,XWA"⟩,
    ⟨0x128A, "ETHIOPIC SYLLABLE ", "XWI,XWAA,XWEE,XWE"⟩,
    ⟨0x1290, "ETHIOPIC SYLLABLE ", "NA,NU,NI,NAA,NEE,NE,NO,NWA,NYA,NYU,NYI,NYAA,NYEE,NYE,NYO,NYWA"⟩,
    ⟨0x12A0, "ETHIOPIC SYLLABLE GLOTTAL ", "A,U,I,AA,EE,E,O,WA"⟩,
    ⟨0x12A8, "ETHIOPIC SYLLABLE ", "KA,KU,KI,KAA,KEE,KE,KO,KOA,KWA"⟩,
    ⟨0x12B2, "ETHIOPIC SYLLABLE ", "KWI,KWAA,KWEE,KWE"⟩,
    ⟨0x12B8, "ETHIOPIC SYLLABLE ", "KXA,KXU,KXI,KXAA,KXEE,KXE,KXO"⟩,
    ⟨0x12C0, "", "ETHIOPIC SYLLABLE KXWA"⟩,
    ⟨0x12C2, "ETHIOPIC SYLLABLE ", "KXWI,KXWAA,KXWEE,KXWE"⟩,
    ⟨0x12C8, "ETHIOPIC SYLLABLE ", "WA,WU,WI,WAA,WEE,WE,WO,WOA"⟩,
    ⟨0x12D0, "ETHIOPIC SYLLABLE PHARYNGEAL ", "A,U,I,AA,EE,E,O"⟩,
    ⟨0x12D8, "ETHIOPIC SYLLABLE ", "ZA,ZU,ZI,ZAA,ZEE,ZE,ZO,ZWA"⟩,
    ⟨0x12E0, "ETHIOPIC SYLLABLE ", "ZHA,ZHU,ZHI,ZHAA,ZHEE,ZHE,ZHO,ZHWA,YA,YU,YI,YAA,YEE,YE,YO,YOA"⟩,
    ⟨0x12F0, "ETHIOPIC SYLLABLE ", "DA,DU,DI,DAA,DEE,DE,DO,DWA,DDA,DDU,DDI,DDAA,DDEE,DDE,DDO,DDWA"⟩,
    ⟨0x1300, "ETHIOPIC SYLLABLE ", "JA,JU,JI,JAA,JEE,JE,JO,JWA,GA,GU,GI,GAA,GEE,GE,GO,GOA,GWA"⟩,
    ⟨0x1312, "ETHIOPIC SYLLABLE ", "GWI,GWAA,GWEE,GWE"⟩,
    ⟨0x1318, "ETHIOPIC SYLLABLE ", "GGA,GGU,GGI,GGAA,GGEE,GGE,GGO,GGWAA"⟩,
    ⟨0x1320, "ETHIOPIC SYLLABLE ", "THA,THU,THI,THAA,THEE,THE,THO,THWA,CHA,CHU,CHI,CHAA,CHEE,CHE"⟩,
    ⟨0x132E, "ETHIOPIC SYLLABLE ", "CHO,CHWA,PHA,PHU,PHI,PHAA,PHEE,PHE,PHO,PHWA,TSA,TSU,TSI,TSAA"⟩,
    ⟨0x133C, "ETHIOPIC SYLLABLE ", "TSEE,TSE,TSO,TSWA,TZA,TZU,TZI,TZAA,TZEE,TZE,TZO,TZOA,FA,FU"⟩,
    ⟨0x134A, "ETHIOPIC SYLLABLE ", "FI,FAA,FEE,FE,FO,FWA,PA,PU,PI,PAA,PEE,PE,PO,PWA,RYA,MYA,FYA"⟩,
    ⟨0x135D, "ETHIOPIC COMBINING ", "GEMINATION AND VOWEL LENGTH MARK,VOWEL LENGTH MARK"⟩,
    ⟨0x135F, "ETHIOPIC ", "COMBINING GEMINATION MARK,SECTION MARK,WORDSPACE,FULL STOP"⟩,
    ⟨0x1363, "ETHIOPIC ", "COMMA,SEMICOLON,COLON,PREFACE COLON,QUESTION MARK,PARAGRAPH SEPARATOR"⟩,
    ⟨0x1369, "ETHIOPIC DIGIT ", "ONE,TWO,THREE,FOUR,FIVE,SIX,SEVEN,EIGHT,NINE"⟩,
    ⟨0x1372, "ETHIOPIC NUMBER ", "TEN,TWENTY,THIRTY"⟩,
    ⟨0x1375, "ETHIOPIC NUMBER ", "FORTY,FIFTY,SIXTY,SEVENTY,EIGHTY,NINETY,HUNDRED,TEN THOUSAND"⟩,
    ⟨0x1380, "ETHIOPIC SYLLABLE ", "SEBATBEIT MWA,MWI,MWEE,MWE,SEBATBEIT BWA,BWI,BWEE"⟩,
    ⟨0x1387, "ETHIOPIC SYLLABLE ", "BWE,SEBATBEIT FWA,FWI,FWEE,FWE,SEBATBEIT PWA,PWI,PWEE,PWE"⟩,
    ⟨0x1390, "ETHIOPIC TONAL MARK ", "YIZET,DERET,RIKRIK"⟩,
    ⟨0x1393, "ETHIOPIC TONAL MARK ", "SHORT RIKRIK,DIFAT,KENAT,CHIRET,HIDET,DERET-HIDET,KURT"⟩,
    ⟨0x13A0, "CHEROKEE LETTER ", "A,E,I,O,U,V,GA,KA"⟩,
    ⟨0x13A8, "CHEROKEE LETTER ", "GE,GI,GO,GU,GV,HA,HE,HI,HO,HU,HV,LA,LE,LI,LO,LU,LV,MA,ME,MI,MO"⟩,
    ⟨0x13BD, "CHEROKEE LETTER ", "MU,NA,HNA,NAH,NE,NI,NO,NU,NV,QUA,QUE,QUI,QUO,QUU,QUV,SA,S,SE,SI"⟩,
    ⟨0x13D0, "CHEROKEE LETTER ", "SO,SU,SV,DA,TA,DE,TE,DI,TI,DO,DU,DV,DLA,TLA,TLE,TLI,TLO,TLU,TLV"⟩,
    ⟨0x13E3, "CHEROKEE LETTER ", "TSA,TSE,TSI,TSO,TSU,TSV,WA,WE,WI,WO,WU,WV,YA,YE,YI,YO,YU,YV,MV"⟩,
    ⟨0x13F8, "CHEROKEE SMALL LETTER ", "YE,YI,YO,YU,YV,MV"⟩,
    ⟨0x1400, "CANADIAN SYLLABICS ", "HYPHEN,E,AAI,I,II,O,OO,Y-CREE OO,CARRIER EE,CARRIER I"⟩,
    ⟨0x140A, "CANADIAN SYLLABICS ", "A,AA,WE,WEST-CREE WE,WI,WEST-CREE WI,WII,WEST-CREE WII,WO"⟩,
    ⟨0x1413, "CANADIAN SYLLABICS ", "WEST-CREE WO,WOO,WEST-CREE WOO,NASKAPI WOO,WA,WEST-CREE WA"⟩,
    ⟨0x1419, "CANADIAN SYLLABICS ", "WAA,WEST-CREE WAA,NASKAPI WAA,AI,Y-CREE W,GLOTTAL STOP"⟩,
    ⟨0x141F, "CANADIAN SYLLABICS FINAL ", "ACUTE,GRAVE"⟩,
    ⟨0x1421, "CANADIAN SYLLABICS FINAL ", "BOTTOM HALF RING,TOP HALF RING,RIGHT HALF RING,RING"⟩,
    ⟨0x1425, "CANADIAN SYLLABICS FINAL DOUBLE ", "ACUTE,SHORT VERTICAL STROKES"⟩,
    ⟨0x1427, "CANADIAN SYLLABICS FINAL ", "MIDDLE DOT,SHORT HORIZONTAL STROKE,PLUS,DOWN TACK"⟩,
    ⟨0x142B, "CANADIAN SYLLABICS ", "EN,IN,ON,AN"⟩,
    ⟨0x142F, "CANADIAN SYLLABICS ", "PE,PAAI,PI,PII,PO,POO,Y-CREE POO,CARRIER HEE,CARRIER HI,PA"⟩,
    ⟨0x1439, "CANADIAN SYLLABICS ", "PAA,PWE,WEST-CREE PWE,PWI,WEST-CREE PWI,PWII,WEST-CREE PWII"⟩,
    ⟨0x1440, "CANADIAN SYLLABICS ", "PWO,WEST-CREE PWO,PWOO,WEST-CREE PWOO,PWA,WEST-CREE PWA"⟩,
    ⟨0x1446, "CANADIAN SYLLABICS ", "PWAA,WEST-CREE PWAA,Y-CREE PWAA,P,WEST-CREE P,CARRIER H"⟩,
    ⟨0x144C, "CANADIAN SYLLABICS ", "TE,TAAI,TI,TII,TO,TOO,Y-CREE TOO,CARRIER DEE,CARRIER DI,TA"⟩,
    ⟨0x1456, "CANADIAN SYLLABICS ", "TAA,TWE,WEST-CREE TWE,TWI,WEST-CREE TWI,TWII,WEST-CREE TWII"⟩,
    ⟨0x145D, "CANADIAN SYLLABICS ", "TWO,WEST-CREE TWO,TWOO,WEST-CREE TWOO,TWA,WEST-CREE TWA,TWAA"⟩,
    ⟨0x1464, "CANADIAN SYLLABICS ", "WEST-CREE TWAA,NASKAPI TWAA,T,TTE,TTI,TTO,TTA,KE,KAAI,KI,KII"⟩,
    ⟨0x146F, "CANADIAN SYLLABICS ", "KO,KOO,Y-CREE KOO,KA,KAA,KWE,WEST-CREE KWE,KWI,WEST-CREE KWI"⟩,
    ⟨0x1478, "CANADIAN SYLLABICS ", "KWII,WEST-CREE KWII,KWO,WEST-CREE KWO,KWOO,WEST-CREE KWOO"⟩,
    ⟨0x147E, "CANADIAN SYLLABICS ", "KWA,WEST-CREE KWA,KWAA,WEST-CREE KWAA,NASKAPI KWAA,K,KW"⟩,
    ⟨0x1485, "CANADIAN SYLLABICS SOUTH-SLAVEY ", "KEH,KIH,KOH,KAH"⟩,
    ⟨0x1489, "CANADIAN SYLLABICS ", "CE,CAAI,CI,CII,CO,COO,Y-CREE COO,CA"⟩,
    ⟨0x1491, "CANADIAN SYLLABICS ", "CAA,CWE,WEST-CREE CWE,CWI,WEST-CREE CWI,CWII,WEST-CREE CWII"⟩,
    ⟨0x1498, "CANADIAN SYLLABICS ", "CWO,WEST-CREE CWO,CWOO,WEST-CREE CWOO,CWA,WEST-CREE CWA"⟩,
    ⟨0x149E, "CANADIAN SYLLABICS ", "CWAA,WEST-CREE CWAA,NASKAPI CWAA,C,SAYISI TH,ME,MAAI,MI,MII"⟩,
    ⟨0x14A7, "CANADIAN SYLLABICS ", "MO,MOO,Y-CREE MOO,MA,MAA,MWE,WEST-CREE MWE,MWI,WEST-CREE MWI"⟩,
    ⟨0x14B0, "CANADIAN SYLLABICS ", "MWII,WEST-CREE MWII,MWO,WEST-CREE MWO,MWOO,WEST-CREE MWOO"⟩,
    ⟨0x14B6, "CANADIAN SYLLABICS ", "MWA,WEST-CREE MWA,MWAA,WEST-CREE MWAA,NASKAPI MWAA"⟩,
    ⟨0x14BB, "CANADIAN SYLLABICS ", "M,WEST-CREE M,MH,ATHAPASCAN M,SAYISI M,NE,NAAI,NI,NII,NO,NOO"⟩,
    ⟨0x14C6, "CANADIAN SYLLABICS ", "Y-CREE NOO,NA,NAA,NWE,WEST-CREE NWE,NWA,WEST-CREE NWA,NWAA"⟩,
    ⟨0x14CE, "CANADIAN SYLLABICS ", "WEST-CREE NWAA,NASKAPI NWAA,N,CARRIER NG,NH,LE,LAAI,LI,LII"⟩,
    ⟨0x14D7, "CANADIAN SYLLABICS ", "LO,LOO,Y-CREE LOO,LA,LAA,LWE,WEST-CREE LWE,LWI,WEST-CREE LWI"⟩,
    ⟨0x14E0, "CANADIAN SYLLABICS ", "LWII,WEST-CREE LWII,LWO,WEST-CREE LWO,LWOO,WEST-CREE LWOO"⟩,
    ⟨0x14E6, "CANADIAN SYLLABICS ", "LWA,WEST-CREE LWA,LWAA,WEST-CREE LWAA,L,WEST-CREE L,MEDIAL L"⟩,
    ⟨0x14ED, "CANADIAN SYLLABICS ", "SE,SAAI,SI,SII,SO,SOO,Y-CREE SOO,SA,SAA,SWE,WEST-CREE SWE"⟩,
    ⟨0x14F8, "CANADIAN SYLLABICS ", "SWI,WEST-CREE SWI,SWII,WEST-CREE SWII,SWO,WEST-CREE SWO"⟩,
    ⟨0x14FE, "CANADIAN SYLLABICS ", "SWOO,WEST-CREE SWOO,SWA,WEST-CREE SWA,SWAA,WEST-CREE SWAA"⟩,
    ⟨0x1504, "CANADIAN SYLLABICS ", "NASKAPI SWAA,S,ATHAPASCAN S,SW,BLACKFOOT S,MOOSE-CREE SK"⟩,
    ⟨0x150A, "CANADIAN SYLLABICS NASKAPI ", "SKW,S-W,SPWA,STWA,SKWA,SCWA"⟩,
    ⟨0x1510, "CANADIAN SYLLABICS ", "SHE,SHI,SHII,SHO"⟩,
    ⟨0x1514, "CANADIAN SYLLABICS ", "SHOO,SHA,SHAA,SHWE,WEST-CREE SHWE,SHWI,WEST-CREE SHWI,SHWII"⟩,
    ⟨0x151C, "CANADIAN SYLLABICS ", "WEST-CREE SHWII,SHWO,WEST-CREE SHWO,SHWOO,WEST-CREE SHWOO"⟩,
    ⟨0x1521, "CANADIAN SYLLABICS ", "SHWA,WEST-CREE SHWA,SHWAA,WEST-CREE SHWAA,SH,YE,YAAI,YI,YII"⟩,
    ⟨0x152A, "CANADIAN SYLLABICS ", "YO,YOO,Y-CREE YOO,YA,YAA,YWE,WEST-CREE YWE,YWI,WEST-CREE YWI"⟩,
    ⟨0x1533, "CANADIAN SYLLABICS ", "YWII,WEST-CREE YWII,YWO,WEST-CREE YWO,YWOO,WEST-CREE YWOO"⟩,
    ⟨0x1539, "CANADIAN SYLLABICS ", "YWA,WEST-CREE YWA,YWAA,WEST-CREE YWAA,NASKAPI YWAA,Y"⟩,
    ⟨0x153F, "CANADIAN SYLLABICS ", "BIBLE-CREE Y,WEST-CREE Y,SAYISI YI,RE,R-CREE RE,WEST-CREE LE"⟩,
    ⟨0x1545, "CANADIAN SYLLABICS ", "RAAI,RI,RII,RO,ROO,WEST-CREE LO,RA,RAA,WEST-CREE LA"⟩,
    ⟨0x154E, "CANADIAN SYLLABICS ", "RWAA,WEST-CREE RWAA,R,WEST-CREE R,MEDIAL R,FE,FAAI"⟩,
    ⟨0x1555, "CANADIAN SYLLABICS ", "FI,FII,FO,FOO,FA,FAA,FWAA,WEST-CREE FWAA,F,THE,N-CREE THE"⟩,
    ⟨0x1560, "CANADIAN SYLLABICS ", "THI,N-CREE THI,THII,N-CREE THII,THO,THOO,THA,THAA,THWAA"⟩,
    ⟨0x1569, "CANADIAN SYLLABICS ", "WEST-CREE THWAA,TH,TTHE,TTHI,TTHO,TTHA,TTH,TYE,TYI,TYO,TYA"⟩,
    ⟨0x1574, "CANADIAN SYLLABICS NUNAVIK ", "HE,HI,HII,HO,HOO,HA,HAA,H"⟩,
    ⟨0x157C, "CANADIAN SYLLABICS ", "NUNAVUT H,HK,QAAI,QI,QII,QO,QOO,QA,QAA,Q,TLHE,TLHI,TLHO,TLHA"⟩,
    ⟨0x158A, "CANADIAN SYLLABICS WEST-CREE ", "RE,RI,RO,RA"⟩,
    ⟨0x158E, "CANADIAN SYLLABICS ", "NGAAI,NGI,NGII,NGO,NGOO,NGA,NGAA,NG,NNG"⟩,
    ⟨0x1597, "CANADIAN SYLLABICS SAYISI ", "SHE,SHI,SHO,SHA"⟩,
    ⟨0x159B, "CANADIAN SYLLABICS WOODS-CREE ", "THE,THI,THO,THA,TH"⟩,
    ⟨0x15A0, "CANADIAN SYLLABICS ", "LHI,LHII,LHO,LHOO,LHA,LHAA,LH"⟩,
    ⟨0x15A7, "CANADIAN SYLLABICS TH-CREE ", "THE,THI,THII,THO,THOO,THA,THAA,TH"⟩,
    ⟨0x15AF, "", "CANADIAN SYLLABICS AIVILIK B"⟩,
    ⟨0x15B0, "CANADIAN SYLLABICS BLACKFOOT ", "E,I,O,A,WE,WI,WO,WA,NE,NI,NO,NA,KE,KI,KO,KA"⟩,
    ⟨0x15C0, "CANADIAN SYLLABICS SAYISI ", "HE,HI,HO,HA"⟩,
    ⟨0x15C4, "CANADIAN SYLLABICS CARRIER ", "GHU,GHO,GHE,GHEE,GHI,GHA,RU,RO,RE,REE"⟩,
    ⟨0x15CE, "CANADIAN SYLLABICS CARRIER ", "RI,RA,WU,WO,WE,WEE,WI,WA,HWU,HWO,HWE,HWEE,HWI,HWA"⟩,
    ⟨0x15DC, "CANADIAN SYLLABICS CARRIER ", "THU,THO,THE,THEE,THI,THA,TTU,TTO,TTE,TTEE,TTI,TTA"⟩,
    ⟨0x15E8, "CANADIAN SYLLABICS CARRIER ", "PU,PO,PE,PEE,PI,PA,P,GU,GO,GE,GEE,GI,GA,KHU,KHO,KHE"⟩,
    ⟨0x15F8, "CANADIAN SYLLABICS CARRIER ", "KHEE,KHI,KHA,KKU,KKO,KKE,KKEE,KKI,KKA,KK,NU,NO,NE"⟩,
    ⟨0x1605, "CANADIAN SYLLABICS CARRIER ", "NEE,NI,NA,MU,MO,ME,MEE,MI,MA,YU,YO,YE,YEE,YI,YA,JU"⟩,
    ⟨0x1615, "", "CANADIAN SYLLABICS SAYISI JU"⟩,
    ⟨0x1616, "CANADIAN SYLLABICS ", "CARRIER JO,CARRIER JE,CARRIER JEE,CARRIER JI,SAYISI JI"⟩,
    ⟨0x161B, "CANADIAN SYLLABICS CARRIER ", "JA,JJU,JJO,JJE,JJEE,JJI,JJA"⟩,
    ⟨0x1622, "CANADIAN SYLLABICS CARRIER ", "LU,LO,LE,LEE,LI,LA,DLU,DLO,DLE,DLEE,DLI,DLA,LHU,LHO"⟩,
    ⟨0x1630, "CANADIAN SYLLABICS CARRIER ", "LHE,LHEE,LHI,LHA,TLHU,TLHO,TLHE,TLHEE,TLHI,TLHA,TLU"⟩,
    ⟨0x163B, "CANADIAN SYLLABICS CARRIER ", "TLO,TLE,TLEE,TLI,TLA,ZU,ZO,ZE,ZEE,ZI,ZA,Z,INITIAL Z"⟩,
    ⟨0x1648, "CANADIAN SYLLABICS CARRIER ", "DZU,DZO,DZE,DZEE,DZI,DZA,SU,SO,SE,SEE,SI,SA,SHU"⟩,
    ⟨0x1655, "CANADIAN SYLLABICS CARRIER ", "SHO,SHE,SHEE,SHI,SHA,SH,TSU,TSO,TSE,TSEE,TSI,TSA,CHU"⟩,
    ⟨0x1662, "CANADIAN SYLLABICS CARRIER ", "CHO,CHE,CHEE,CHI,CHA,TTSU,TTSO,TTSE,TTSEE,TTSI,TTSA"⟩,
    ⟨0x166D, "CANADIAN SYLLABICS ", "CHI SIGN,FULL STOP,QAI,NGAI,NNGI,NNGII,NNGO,NNGOO,NNGA,NNGAA"⟩,
    ⟨0x1677, "CANADIAN SYLLABICS WOODS-CREE ", "THWEE,THWI,THWII,THWO,THWOO,THWA,THWAA,FINAL TH"⟩,
    ⟨0x167F, "", "CANADIAN SYLLABICS BLACKFOOT W,OGHAM SPACE MARK,OGHAM LETTER BEITH"⟩,
    ⟨0x1682, "OGHAM LETTER ", "LUIS,FEARN,SAIL,NION,UATH,DAIR,TINNE,COLL,CEIRT,MUIN,GORT,NGEADAL"⟩,
    ⟨0x168E, "OGHAM LETTER ", "STRAIF,RUIS,AILM,ONN,UR,EADHADH,IODHADH,EABHADH,OR,UILLEANN,IFIN"⟩,
    ⟨0x1699, "OGHAM ", "LETTER EAMHANCHOLL,LETTER PEITH,FEATHER MARK,REVERSED FEATHER MARK"⟩,
    ⟨0x16A0, "", "RUNIC LETTER FEHU FEOH FE F"⟩,
    ⟨0x16A1, "RUNIC LETTER ", "V,URUZ UR U,YR,Y,W,THURISAZ THURS THORN,ETH,ANSUZ A,OS O,AC A"⟩,
    ⟨0x16AB, "RUNIC LETTER ", "AESC,LONG-BRANCH-OSS O,SHORT-TWIG-OSS O,O,OE,ON,RAIDO RAD REID R"⟩,
    ⟨0x16B2, "RUNIC LETTER ", "KAUNA,CEN,KAUN K,G,ENG,GEBO GYFU G,GAR,WUNJO WYNN W,HAGLAZ H"⟩,
    ⟨0x16BB, "RUNIC LETTER ", "HAEGL H,LONG-BRANCH-HAGALL H,SHORT-TWIG-HAGALL H,NAUDIZ NYD NAUD N"⟩,
    ⟨0x16BF, "RUNIC LETTER ", "SHORT-TWIG-NAUD N,DOTTED-N,ISAZ IS ISS I,E,JERAN J"⟩,
    ⟨0x16C4, "RUNIC LETTER ", "GER,LONG-BRANCH-AR AE,SHORT-TWIG-AR A,IWAZ EOH,PERTHO PEORTH P"⟩,
    ⟨0x16C9, "RUNIC LETTER ", "ALGIZ EOLHX,SOWILO S,SIGEL LONG-BRANCH-SOL S,SHORT-TWIG-SOL S"⟩,
    ⟨0x16CD, "RUNIC LETTER ", "C,Z,TIWAZ TIR TYR T,SHORT-TWIG-TYR T,D,BERKANAN BEORC BJARKAN B"⟩,
    ⟨0x16D3, "RUNIC LETTER ", "SHORT-TWIG-BJARKAN B,DOTTED-P,OPEN-P,EHWAZ EH E,MANNAZ MAN M"⟩,
    ⟨0x16D8, "RUNIC LETTER ", "LONG-BRANCH-MADR M,SHORT-TWIG-MADR M,LAUKAZ LAGU LOGR L"⟩,
    ⟨0x16DB, "RUNIC LETTER ", "DOTTED-L,INGWAZ,ING,DAGAZ DAEG D,OTHALAN ETHEL O,EAR,IOR,CWEORTH"⟩,
    ⟨0x16E3, "RUNIC LETTER ", "CALC,CEALC,STAN,LONG-BRANCH-YR,SHORT-TWIG-YR,ICELANDIC-YR,Q,X"⟩,
    ⟨0x16EB, "RUNIC ", "SINGLE PUNCTUATION,MULTIPLE PUNCTUATION,CROSS PUNCTUATION,ARLAUG SYMBOL"⟩,
    ⟨0x16EF, "RUNIC ", "TVIMADUR SYMBOL,BELGTHOR SYMBOL,LETTER K,LETTER SH,LETTER OO"⟩,
    ⟨0x16F4, "RUNIC LETTER FRANKS CASKET ", "OS,IS,EH,AC,AESC"⟩,
    ⟨0x1700, "TAGALOG LETTER ", "A,I,U,KA,GA,NGA,TA,DA,NA,PA,BA,MA,YA,RA,LA,WA,SA,HA"⟩,
    ⟨0x1712, "TAGALOG ", "VOWEL SIGN I,VOWEL SIGN U,SIGN VIRAMA,SIGN PAMUDPOD"⟩,
    ⟨0x171F, "", "TAGALOG LETTER ARCHAIC RA"⟩,
    ⟨0x1720, "HANUNOO LETTER ", "A,I,U,KA,GA,NGA,TA,DA,NA,PA,BA,MA,YA,RA,LA,WA,SA,HA"⟩,
    ⟨0x1732, "HANUNOO ", "VOWEL SIGN I,VOWEL SIGN U,SIGN PAMUDPOD"⟩,
    ⟨0x1735, "PHILIPPINE ", "SINGLE PUNCTUATION,DOUBLE PUNCTUATION"⟩,
    ⟨0x1740, "BUHID LETTER ", "A,I,U,KA,GA,NGA,TA,DA,NA,PA,BA,MA,YA,RA,LA,WA,SA,HA"⟩,
    ⟨0x1752, "BUHID VOWEL SIGN ", "I,U"⟩,
    ⟨0x1760, "TAGBANWA LETTER ", "A,I,U,KA,GA,NGA,TA,DA,NA,PA,BA,MA,YA"⟩,
    ⟨0x176E, "TAGBANWA LETTER ", "LA,WA,SA"⟩,
    ⟨0x1772, "TAGBANWA VOWEL SIGN ", "I,U"⟩,
    ⟨0x1780, "KHMER LETTER ", "KA,KHA,KO,KHO,NGO,CA,CHA,CO,CHO,NYO,DA,TTHA,DO,TTHO,NNO"⟩,
    ⟨0x178F, "KHMER LETTER ", "TA,THA,TO,THO,NO,BA,PHA,PO,PHO,MO,YO,RO,LO,VO,SHA,SSO,SA,HA,LA,QA"⟩,
    ⟨0x17A3, "KHMER INDEPENDENT VOWEL ", "QAQ,QAA,QI,QII,QU,QUK,QUU"⟩,
    ⟨0x17AA, "KHMER INDEPENDENT VOWEL ", "QUUV,RY,RYY,LY,LYY,QE,QAI,QOO TYPE ONE,QOO TYPE TWO,QAU"⟩,
    ⟨0x17B4, "KHMER VOWEL INHERENT ", "AQ,AA"⟩,
    ⟨0x17B6, "KHMER VOWEL SIGN ", "AA,I,II,Y,YY,U,UU,UA,OE,YA,IE,E,AE,AI,OO,AU"⟩,
    ⟨0x17C6, "KHMER SIGN ", "NIKAHIT,REAHMUK,YUUKALEAPINTU,MUUSIKATOAN,TRIISAP,BANTOC,ROBAT"⟩,
    ⟨0x17CD, "KHMER SIGN ", "TOANDAKHIAT,KAKABAT,AHSDA,SAMYOK SANNYA,VIRIAM,COENG,BATHAMASAT"⟩,
    ⟨0x17D4, "KHMER SIGN ", "KHAN,BARIYOOSAN,CAMNUC PII KUUH,LEK TOO,BEYYAL,PHNAEK MUAN,KOOMUUT"⟩,
    ⟨0x17DB, "KHMER ", "CURRENCY SYMBOL RIEL,SIGN AVAKRAHASANYA,SIGN ATTHACAN"⟩,
    ⟨0x17E0, "KHMER DIGIT ", "ZERO,ONE,TWO,THREE,FOUR,FIVE,SIX,SEVEN,EIGHT,NINE"⟩,
    ⟨0x17F0, "KHMER SYMBOL LEK ATTAK ", "SON,MUOY,PII,BEI,BUON,PRAM"⟩,
    ⟨0x17F6, "KHMER SYMBOL LEK ATTAK PRAM-", "MUOY,PII,BEI,BUON"⟩,
    ⟨0x1800, "MONGOLIAN ", "BIRGA,ELLIPSIS,COMMA,FULL STOP,COLON,FOUR DOTS,TODO SOFT HYPHEN"⟩,
    ⟨0x1807, "MONGOLIAN ", "SIBE SYLLABLE BOUNDARY MARKER,MANCHU COMMA,MANCHU FULL STOP,NIRUGU"⟩,
    ⟨0x180B, "MONGOLIAN FREE VARIATION SELECTOR ", "ONE,TWO,THREE"⟩,
    ⟨0x180E, "MONGOLIAN ", "VOWEL SEPARATOR,FREE VARIATION SELECTOR FOUR"⟩,
    ⟨0x1810, "MONGOLIAN DIGIT ", "ZERO,ONE,TWO,THREE,FOUR,FIVE,SIX,SEVEN,EIGHT,NINE"⟩,
    ⟨0x1820, "MONGOLIAN LETTER ", "A,E,I,O,U,OE,UE,EE,NA,ANG,BA,PA,QA,GA,MA,LA,SA"⟩,
    ⟨0x1831, "MONGOLIAN LETTER ", "SHA,TA,DA,CHA,JA,YA,RA,WA,FA,KA,KHA,TSA,ZA,HAA,ZRA,LHA,ZHI,CHI"⟩,
    ⟨0x1843, "MONGOLIAN LETTER TODO ", "LONG VOWEL SIGN,E,I,O,U,OE,UE,ANG,BA"⟩,
    ⟨0x184C, "MONGOLIAN LETTER TODO ", "PA,QA,GA,MA,TA,DA,CHA,JA,TSA,YA,WA,KA,GAA,HAA,JIA,NIA,DZA"⟩,
    ⟨0x185D, "MONGOLIAN LETTER SIBE ", "E,I,IY,UE,U,ANG,KA,GA,HA,PA,SHA,TA,DA,JA,FA,GAA,HAA,TSA"⟩,
    ⟨0x186F, "MONGOLIAN LETTER ", "SIBE ZA,SIBE RAA,SIBE CHA,SIBE ZHA,MANCHU I"⟩,
    ⟨0x1874, "MONGOLIAN LETTER ", "MANCHU KA,MANCHU RA,MANCHU FA,MANCHU ZHA,CHA WITH TWO DOTS"⟩,
    ⟨0x1880, "MONGOLIAN LETTER ALI GALI ", "ANUSVARA ONE,VISARGA ONE,DAMARU"⟩,
    ⟨0x1883, "MONGOLIAN LETTER ALI GALI ", "UBADAMA,INVERTED UBADAMA,BALUDA,THREE BALUDA,A,I"⟩,
    ⟨0x1889, "MONGOLIAN LETTER ALI GALI ", "KA,NGA,CA,TTA,TTHA,DDA,NNA,TA,DA,PA,PHA,SSA,ZHA,ZA,AH"⟩,
    ⟨0x1898, "MONGOLIAN LETTER TODO ALI GALI ", "TA,ZHA"⟩,
    ⟨0x189A, "MONGOLIAN LETTER MANCHU ALI GALI ", "GHA,NGA,CA,JHA,TTA,DDHA,TA,DHA,SSA,CYA,ZHA,ZA"⟩,
    ⟨0x18A6, "MONGOLIAN LETTER ALI GALI HALF ", "U,YA"⟩,
    ⟨0x18A8, "MONGOLIAN LETTER ", "MANCHU ALI GALI BHA,ALI GALI DAGALGA,MANCHU ALI GALI LHA"⟩,
    ⟨0x18B0, "CANADIAN SYLLABICS ", "OY,AY,AAY"⟩,
    ⟨0x18B3, "CANADIAN SYLLABICS ", "WAY,POY,PAY,PWOY,TAY,KAY,KWAY,MAY,NOY,NAY,LAY,SOY,SAY,SHOY"⟩,
    ⟨0x18C1, "CANADIAN SYLLABICS ", "SHAY,SHWOY,YOY,YAY,RAY,NWI,OJIBWAY NWI,NWII,OJIBWAY NWII"⟩,
    ⟨0x18CA, "CANADIAN SYLLABICS ", "NWO,OJIBWAY NWO,NWOO,OJIBWAY NWOO,RWEE,RWI,RWII,RWO,RWOO,RWA"⟩,
    ⟨0x18D4, "CANADIAN SYLLABICS OJIBWAY ", "P,T,K,C,M,N,S,SH"⟩,
    ⟨0x18DC, "CANADIAN SYLLABICS ", "EASTERN W,WESTERN W,FINAL SMALL RING,FINAL RAISED DOT"⟩,
    ⟨0x18E0, "CANADIAN SYLLABICS ", "R-CREE RWE,WEST-CREE LOO,WEST-CREE LAA,THWE,THWA,TTHWE"⟩,
    ⟨0x18E6, "CANADIAN SYLLABICS ", "TTHOO,TTHAA,TLHWE,TLHOO,SAYISI SHWE,SAYISI SHOO,SAYISI HOO"⟩,
    ⟨0x18ED, "CANADIAN SYLLABICS CARRIER ", "GWU,DENE GEE,GAA,GWA"⟩,
    ⟨0x18F1, "", "CANADIAN SYLLABICS SAYISI JUU"⟩,
    ⟨0x18F2, "CANADIAN SYLLABICS ", "CARRIER JWA,BEAVER DENE L,BEAVER DENE R,CARRIER DENTAL S"⟩,
    ⟨0x1900, "", "LIMBU VOWEL-CARRIER LETTER"⟩,
    ⟨0x1901, "LIMBU LETTER ", "KA,KHA,GA,GHA,NGA,CA,CHA,JA,JHA,YAN,TA"⟩,
    ⟨0x190C, "LIMBU LETTER ", "THA,DA,DHA,NA,PA,PHA,BA,BHA,MA,YA,RA,LA,WA,SHA,SSA,SA,HA,GYAN,TRA"⟩,
    ⟨0x1920, "LIMBU VOWEL SIGN ", "A,I,U,EE,AI,OO,AU,E,O"⟩,
    ⟨0x1929, "LIMBU SUBJOINED LETTER ", "YA,RA,WA"⟩,
    ⟨0x1930, "LIMBU SMALL LETTER ", "KA,NGA,ANUSVARA,TA,NA,PA,MA,RA,LA"⟩,
    ⟨0x1939, "LIMBU SIGN ", "MUKPHRENG,KEMPHRENG,SA-I"⟩,
    ⟨0x1940, "", "LIMBU SIGN LOO"⟩,
    ⟨0x1944, "LIMBU ", "EXCLAMATION MARK,QUESTION MARK"⟩,
    ⟨0x1946, "LIMBU DIGIT ", "ZERO,ONE,TWO,THREE,FOUR,FIVE,SIX,SEVEN,EIGHT,NINE"⟩,
    ⟨0x1950, "TAI LE LETTER ", "KA,XA,NGA,TSA,SA,YA,TA,THA"⟩,
    ⟨0x1958, "TAI LE LETTER ", "LA,PA,PHA,MA,FA,VA,HA,QA,KHA,TSHA,NA,A,I,EE,EH,U,OO,O,UE,E,AUE,AI"⟩,
    ⟨0x1970, "TAI LE LETTER TONE-", "2,3,4,5,6"⟩,
    ⟨0x1980, "NEW TAI LUE LETTER ", "HIGH QA,LOW QA,HIGH KA,HIGH XA,HIGH NGA,LOW KA,LOW XA"⟩,
    ⟨0x1987, "NEW TAI LUE LETTER ", "LOW NGA,HIGH TSA,HIGH SA,HIGH YA,LOW TSA,LOW SA,LOW YA"⟩,
    ⟨0x198E, "NEW TAI LUE LETTER HIGH ", "TA,THA,NA"⟩,
    ⟨0x1991, "NEW TAI LUE LETTER ", "LOW TA,LOW THA,LOW NA,HIGH PA,HIGH PHA"⟩,
    ⟨0x1996, "NEW TAI LUE LETTER ", "HIGH MA,LOW PA,LOW PHA,LOW MA,HIGH FA,HIGH VA,HIGH LA"⟩,
    ⟨0x199D, "NEW TAI LUE LETTER ", "LOW FA,LOW VA,LOW LA,HIGH HA,HIGH DA,HIGH BA,LOW HA,LOW DA"⟩,
    ⟨0x19A5, "NEW TAI LUE LETTER ", "LOW BA,HIGH KVA,HIGH XVA,LOW KVA,LOW XVA,HIGH SUA,LOW SUA"⟩,
    ⟨0x19B0, "", "NEW TAI LUE VOWEL SIGN VOWEL SHORTENER"⟩,
    ⟨0x19B1, "NEW TAI LUE VOWEL SIGN ", "AA,II,U,UU,E,AE,O,OA,UE,AY,AAY,UY,OY,OAY,UEY,IY"⟩,
    ⟨0x19C1, "NEW TAI LUE LETTER FINAL ", "V,NG,N,M,K,D,B"⟩,
    ⟨0x19C8, "NEW TAI LUE TONE MARK-", "1,2"⟩,
    ⟨0x19D0, "NEW TAI LUE DIGIT ", "ZERO,ONE,TWO,THREE,FOUR,FIVE,SIX,SEVEN,EIGHT,NINE"⟩,
    ⟨0x19DA, "", "NEW TAI LUE THAM DIGIT ONE"⟩,
    ⟨0x19DE, "NEW TAI LUE SIGN ", "LAE,LAEV"⟩,
    ⟨0x19E0, "KHMER SYMBOL ", "PATHAMASAT,MUOY KOET,PII KOET,BEI KOET,BUON KOET,PRAM KOET"⟩,
    ⟨0x19E6, "KHMER SYMBOL ", "PRAM-MUOY KOET,PRAM-PII KOET,PRAM-BEI KOET,PRAM-BUON KOET,DAP KOET"⟩,
    ⟨0x19EB, "KHMER SYMBOL DAP-", "MUOY KOET,PII KOET,BEI KOET,BUON KOET,PRAM KOET"⟩,
    ⟨0x19F0, "KHMER SYMBOL ", "TUTEYASAT,MUOY ROC,PII ROC,BEI ROC,BUON ROC,PRAM ROC"⟩,
    ⟨0x19F6, "KHMER SYMBOL ", "PRAM-MUOY ROC,PRAM-PII ROC,PRAM-BEI ROC,PRAM-BUON ROC,DAP ROC"⟩,
    ⟨0x19FB, "KHMER SYMBOL DAP-", "MUOY ROC,PII ROC,BEI ROC,BUON ROC,PRAM ROC"⟩,
    ⟨0x1A00, "BUGINESE LETTER ", "KA,GA,NGA,NGKA"⟩,
    ⟨0x1A04, "BUGINESE LETTER ", "PA,BA,MA,MPA,TA,DA,NA,NRA,CA,JA,NYA,NYCA,YA,RA,LA,VA,SA,A,HA"⟩,
    ⟨0x1A17, "BUGINESE VOWEL SIGN ", "I,U,E,O,AE"⟩,
    ⟨0x1A1E, "BUGINESE ", "PALLAWA,END OF SECTION"⟩,
    ⟨0x1A20, "TAI THAM LETTER HIGH ", "KA,KHA,KXA"⟩,
    ⟨0x1A23, "TAI THAM LETTER ", "LOW KA,LOW KXA,LOW KHA,NGA,HIGH CA,HIGH CHA,LOW CA,LOW SA"⟩,
    ⟨0x1A2B, "TAI THAM LETTER ", "LOW CHA,NYA,RATA,HIGH RATHA,DA,LOW RATHA,RANA,HIGH TA,HIGH THA"⟩,
    ⟨0x1A34, "TAI THAM LETTER ", "LOW TA,LOW THA,NA,BA,HIGH PA,HIGH PHA,HIGH FA,LOW PA,LOW FA"⟩,
    ⟨0x1A3D, "TAI THAM LETTER ", "LOW PHA,MA,LOW YA,HIGH YA,RA,RUE,LA,LUE,WA,HIGH SHA,HIGH SSA"⟩,
    ⟨0x1A48, "TAI THAM LETTER ", "HIGH SA,HIGH HA,LLA,A,LOW HA,I,II,U,UU,EE,OO,LAE,GREAT SA"⟩,
    ⟨0x1A55, "TAI THAM CONSONANT SIGN ", "MEDIAL RA,MEDIAL LA,LA TANG LAI"⟩,
    ⟨0x1A58, "", "TAI THAM SIGN MAI KANG LAI"⟩,
    ⟨0x1A59, "TAI THAM CONSONANT SIGN ", "FINAL NGA,LOW PA,HIGH RATHA OR LOW PA,MA,BA,SA"⟩,
    ⟨0x1A60, "", "TAI THAM SIGN SAKOT"⟩,
    ⟨0x1A61, "TAI THAM VOWEL SIGN ", "A,MAI SAT,AA,TALL AA"⟩,
    ⟨0x1A65, "TAI THAM VOWEL SIGN ", "I,II,UE,UUE,U,UU,O,OA BELOW,OY,E,AE,OO,AI,THAM AI,OA ABOVE"⟩,
    ⟨0x1A74, "TAI THAM SIGN ", "MAI KANG,TONE-1,TONE-2,KHUEN TONE-3"⟩,
    ⟨0x1A78, "TAI THAM SIGN ", "KHUEN TONE-4,KHUEN TONE-5,RA HAAM,MAI SAM,KHUEN-LUE KARAN"⟩,
    ⟨0x1A7F, "", "TAI THAM COMBINING CRYPTOGRAMMIC DOT"⟩,
    ⟨0x1A80, "TAI THAM HORA DIGIT ", "ZERO,ONE,TWO,THREE,FOUR,FIVE,SIX,SEVEN,EIGHT,NINE"⟩,
    ⟨0x1A90, "TAI THAM THAM DIGIT ", "ZERO,ONE,TWO,THREE,FOUR,FIVE,SIX,SEVEN,EIGHT,NINE"⟩,
    ⟨0x1AA0, "TAI THAM SIGN ", "WIANG,WIANGWAAK,SAWAN,KEOW,HOY,DOKMAI,REVERSED ROTATED RANA"⟩,
    ⟨0x1AA7, "TAI THAM SIGN ", "MAI YAMOK,KAAN,KAANKUU,SATKAAN,SATKAANKUU,HANG,CAANG"⟩,
    ⟨0x1AB0, "COMBINING ", "DOUBLED CIRCUMFLEX ACCENT,DIAERESIS-RING,INFINITY,DOWNWARDS ARROW"⟩,
    ⟨0x1AB4, "COMBINING ", "TRIPLE DOT,X-X BELOW,WIGGLY LINE BELOW,OPEN MARK BELOW"⟩,
    ⟨0x1AB8, "COMBINING ", "DOUBLE OPEN MARK BELOW,LIGHT CENTRALIZATION STROKE BELOW"⟩,
    ⟨0x1ABA, "COMBINING ", "STRONG CENTRALIZATION STROKE BELOW,PARENTHESES ABOVE"⟩,
    ⟨0x1ABC, "COMBINING ", "DOUBLE PARENTHESES ABOVE,PARENTHESES BELOW,PARENTHESES OVERLAY"⟩,
    ⟨0x1ABF, "COMBINING LATIN SMALL LETTER ", "W BELOW,TURNED W BELOW"⟩,
    ⟨0x1AC1, "", "COMBINING LEFT PARENTHESIS ABOVE LEFT"⟩,
    ⟨0x1AC2, "COMBINING ", "RIGHT PARENTHESIS ABOVE RIGHT,LEFT PARENTHESIS BELOW LEFT"⟩,
    ⟨0x1AC4, "COMBINING ", "RIGHT PARENTHESIS BELOW RIGHT,SQUARE BRACKETS ABOVE"⟩,
    ⟨0x1AC6, "COMBINING ", "NUMBER SIGN ABOVE,INVERTED DOUBLE ARCH ABOVE,PLUS SIGN ABOVE"⟩,
    ⟨0x1AC9, "COMBINING ", "DOUBLE PLUS SIGN ABOVE,DOUBLE PLUS SIGN BELOW,TRIPLE ACUTE ACCENT"⟩,
    ⟨0x1ACC, "COMBINING LATIN SMALL LETTER INSULAR ", "G,R,T"⟩,
    ⟨0x1B00, "BALINESE SIGN ", "ULU RICEM,ULU CANDRA,CECEK,SURANG,BISAH"⟩,
    ⟨0x1B05, "BALINESE LETTER ", "AKARA,AKARA TEDUNG,IKARA,IKARA TEDUNG,UKARA,UKARA TEDUNG"⟩,
    ⟨0x1B0B, "BALINESE LETTER ", "RA REPA,RA REPA TEDUNG,LA LENGA,LA LENGA TEDUNG,EKARA,AIKARA"⟩,
    ⟨0x1B11, "BALINESE LETTER ", "OKARA,OKARA TEDUNG,KA,KA MAHAPRANA,GA,GA GORA,NGA,CA,CA LACA"⟩,
    ⟨0x1B1A, "BALINESE LETTER ", "JA,JA JERA,NYA,TA LATIK,TA MURDA MAHAPRANA,DA MURDA ALPAPRANA"⟩,
    ⟨0x1B20, "BALINESE LETTER ", "DA MURDA MAHAPRANA,NA RAMBAT,TA,TA TAWA,DA,DA MADU,NA"⟩,
    ⟨0x1B27, "BALINESE LETTER ", "PA,PA KAPAL,BA,BA KEMBANG,MA,YA,RA,LA,WA,SA SAGA,SA SAPA,SA,HA"⟩,
    ⟨0x1B34, "", "BALINESE SIGN REREKAN"⟩,
    ⟨0x1B35, "BALINESE VOWEL SIGN ", "TEDUNG,ULU,ULU SARI,SUKU,SUKU ILUT,RA REPA"⟩,
    ⟨0x1B3B, "BALINESE VOWEL SIGN ", "RA REPA TEDUNG,LA LENGA,LA LENGA TEDUNG,TALING,TALING REPA"⟩,
    ⟨0x1B40, "BALINESE VOWEL SIGN ", "TALING TEDUNG,TALING REPA TEDUNG,PEPET,PEPET TEDUNG"⟩,
    ⟨0x1B44, "BALINESE ", "ADEG ADEG,LETTER KAF SASAK,LETTER KHOT SASAK,LETTER TZIR SASAK"⟩,
    ⟨0x1B48, "BALINESE LETTER ", "EF SASAK,VE SASAK,ZAL SASAK,ASYURA SASAK,ARCHAIC JNYA"⟩,
    ⟨0x1B50, "BALINESE DIGIT ", "ZERO,ONE,TWO,THREE,FOUR,FIVE,SIX,SEVEN,EIGHT,NINE"⟩,
    ⟨0x1B5A, "BALINESE ", "PANTI,PAMADA,WINDU,CARIK PAMUNGKAH,CARIK SIKI,CARIK PAREREN,PAMENENG"⟩,
    ⟨0x1B61, "BALINESE MUSICAL SYMBOL ", "DONG,DENG,DUNG,DANG,DANG SURANG,DING,DAENG"⟩,
    ⟨0x1B68, "BALINESE MUSICAL SYMBOL ", "DEUNG,DAING,DANG GEDE,COMBINING TEGEH,COMBINING ENDEP"⟩,
    ⟨0x1B6D, "BALINESE MUSICAL SYMBOL COMBINING ", "KEMPUL,KEMPLI,JEGOGAN,KEMPUL WITH JEGOGAN"⟩,
    ⟨0x1B71, "BALINESE MUSICAL SYMBOL COMBINING ", "KEMPLI WITH JEGOGAN,BENDE,GONG"⟩,
    ⟨0x1B74, "BALINESE MUSICAL SYMBOL RIGHT-HAND ", "OPEN DUG,OPEN DAG,CLOSED TUK,CLOSED TAK"⟩,
    ⟨0x1B78, "BALINESE MUSICAL SYMBOL LEFT-HAND ", "OPEN PANG,OPEN PUNG,CLOSED PLAK,CLOSED PLUK"⟩,
    ⟨0x1B7C, "BALINESE ", "MUSICAL SYMBOL LEFT-HAND OPEN PING,PANTI LANTANG,PAMADA LANTANG"⟩,
    ⟨0x1B80, "SUNDANESE SIGN ", "PANYECEK,PANGLAYAR,PANGWISAD"⟩,
    ⟨0x1B83, "SUNDANESE LETTER ", "A,I,U,AE,O,E,EU,KA,QA,GA"⟩,
    ⟨0x1B8D, "SUNDANESE LETTER ", "NGA,CA,JA,ZA,NYA,TA,DA,NA,PA,FA,VA,BA,MA,YA,RA,LA,WA,SA,XA,HA"⟩,
    ⟨0x1BA1, "SUNDANESE CONSONANT SIGN ", "PAMINGKAL,PANYAKRA,PANYIKU"⟩,
    ⟨0x1BA4, "SUNDANESE VOWEL SIGN ", "PANGHULU,PANYUKU,PANAELAENG,PANOLONG,PAMEPET,PANEULEUNG"⟩,
    ⟨0x1BAA, "SUNDANESE ", "SIGN PAMAAEH,SIGN VIRAMA,CONSONANT SIGN PASANGAN MA"⟩,
    ⟨0x1BAD, "SUNDANESE ", "CONSONANT SIGN PASANGAN WA,LETTER KHA,LETTER SYA"⟩,
    ⟨0x1BB0, "SUNDANESE DIGIT ", "ZERO,ONE,TWO,THREE,FOUR,FIVE,SIX,SEVEN,EIGHT,NINE"⟩,
    ⟨0x1BBA, "", "SUNDANESE AVAGRAHA"⟩,
    ⟨0x1BBB, "SUNDANESE LETTER ", "REU,LEU,BHA,FINAL K,FINAL M"⟩,
    ⟨0x1BC0, "BATAK LETTER ", "A,SIMALUNGUN A,HA,SIMALUNGUN HA,MANDAILING HA"⟩,
    ⟨0x1BC5, "BATAK LETTER ", "BA,KARO BA,PA,SIMALUNGUN PA,NA,MANDAILING NA,WA,SIMALUNGUN WA"⟩,
    ⟨0x1BCD, "BATAK LETTER ", "PAKPAK WA,GA,SIMALUNGUN GA,JA,DA,RA,SIMALUNGUN RA,MA,SIMALUNGUN MA"⟩,
    ⟨0x1BD6, "BATAK LETTER ", "SOUTHERN TA,NORTHERN TA,SA,SIMALUNGUN SA,MANDAILING SA"⟩,
    ⟨0x1BDB, "BATAK LETTER ", "YA,SIMALUNGUN YA,NGA,LA,SIMALUNGUN LA,NYA,CA,NDA,MBA,I,U"⟩,
    ⟨0x1BE6, "", "BATAK SIGN TOMPI"⟩,
    ⟨0x1BE7, "BATAK VOWEL SIGN ", "E,PAKPAK E,EE,I,KARO I,O,KARO O,U,U FOR SIMALUNGUN SA"⟩,
    ⟨0x1BF0, "BATAK ", "CONSONANT SIGN NG,CONSONANT SIGN H,PANGOLAT,PANONGONAN"⟩,
    ⟨0x1BFC, "BATAK SYMBOL BINDU ", "NA METEK,PINARBORAS,JUDUL,PANGOLAT"⟩,
    ⟨0x1C00, "LEPCHA LETTER ", "KA,KLA,KHA,GA,GLA,NGA,CA,CHA,JA,NYA,TA,THA,DA,NA,PA,PLA,PHA"⟩,
    ⟨0x1C11, "LEPCHA LETTER ", "FA,FLA,BA,BLA,MA,MLA,TSA,TSHA,DZA,YA,RA,LA,HA,HLA,VA,SA,SHA,WA,A"⟩,
    ⟨0x1C24, "LEPCHA SUBJOINED LETTER ", "YA,RA"⟩,
    ⟨0x1C26, "LEPCHA VOWEL SIGN ", "AA,I,O,OO,U,UU,E"⟩,
    ⟨0x1C2D, "LEPCHA CONSONANT SIGN ", "K,M,L,N,P,R,T,NYIN-DO,KANG"⟩,
    ⟨0x1C36, "LEPCHA SIGN ", "RAN,NUKTA"⟩,
    ⟨0x1C3B, "LEPCHA PUNCTUATION ", "TA-ROL,NYET THYOOM TA-ROL,CER-WA,TSHOOK CER-WA,TSHOOK"⟩,
    ⟨0x1C40, "LEPCHA DIGIT ", "ZERO,ONE,TWO,THREE,FOUR,FIVE,SIX,SEVEN,EIGHT,NINE"⟩,
    ⟨0x1C4D, "LEPCHA LETTER ", "TTA,TTHA,DDA"⟩,
    ⟨0x1C50, "OL CHIKI DIGIT ", "ZERO,ONE,TWO,THREE,FOUR,FIVE,SIX,SEVEN,EIGHT,NINE"⟩,
    ⟨0x1C5A, "OL CHIKI LETTER ", "LA,AT,AG,ANG,AL,LAA,AAK,AAJ,AAM,AAW,LI"⟩,
    ⟨0x1C65, "OL CHIKI LETTER ", "IS,IH,INY,IR,LU,UC,UD,UNN,UY,LE,EP,EDD,EN,ERR,LO,OTT,OB,OV,OH"⟩,
    ⟨0x1C78, "OL CHIKI ", "MU TTUDDAG,GAAHLAA TTUDDAAG,MU-GAAHLAA TTUDDAAG,RELAA,PHAARKAA,AHAD"⟩,
    ⟨0x1C7E, "OL CHIKI PUNCTUATION ", "MUCAAD,DOUBLE MUCAAD"⟩,
    ⟨0x1C80, "CYRILLIC SMALL LETTER ", "ROUNDED VE,LONG-LEGGED DE,NARROW O,WIDE ES,TALL TE"⟩,
    ⟨0x1C85, "CYRILLIC SMALL LETTER ", "THREE-LEGGED TE,TALL HARD SIGN,TALL YAT,UNBLENDED UK"⟩,
    ⟨0x1C90, "GEORGIAN MTAVRULI CAPITAL LETTER ", "AN,BAN,GAN,DON,EN,VIN,ZEN,TAN,IN,KAN,LAS,MAN"⟩,
    ⟨0x1C9C, "GEORGIAN MTAVRULI CAPITAL LETTER ", "NAR,ON,PAR,ZHAR,RAE,SAN,TAR,UN,PHAR,KHAR,GHAN"⟩,
    ⟨0x1CA7, "GEORGIAN MTAVRULI CAPITAL LETTER ", "QAR,SHIN,CHIN,CAN,JIL,CIL,CHAR,XAN,JHAN,HAE"⟩,
    ⟨0x1CB1, "GEORGIAN MTAVRULI CAPITAL LETTER ", "HE,HIE,WE,HAR,HOE,FI,YN,ELIFI,TURNED GAN,AIN"⟩,
    ⟨0x1CBD, "GEORGIAN MTAVRULI CAPITAL LETTER ", "AEN,HARD SIGN,LABIAL SIGN"⟩,
    ⟨0x1CC0, "SUNDANESE PUNCTUATION BINDU ", "SURYA,PANGLONG,PURNAMA"⟩,
    ⟨0x1CC3, "SUNDANESE PUNCTUATION BINDU ", "CAKRA,LEU SATANGA,KA SATANGA,DA SATANGA,BA SATANGA"⟩,
    ⟨0x1CD0, "VEDIC TONE ", "KARSHANA,SHARA,PRENKHA"⟩,
    ⟨0x1CD3, "VEDIC SIGN ", "NIHSHVASA,YAJURVEDIC MIDLINE SVARITA"⟩,
    ⟨0x1CD5, "VEDIC TONE YAJURVEDIC ", "AGGRAVATED INDEPENDENT SVARITA,INDEPENDENT SVARITA"⟩,
    ⟨0x1CD7, "VEDIC TONE ", "YAJURVEDIC KATHAKA INDEPENDENT SVARITA,CANDRA BELOW"⟩,
    ⟨0x1CD9, "VEDIC TONE ", "YAJURVEDIC KATHAKA INDEPENDENT SVARITA SCHROEDER,DOUBLE SVARITA"⟩,
    ⟨0x1CDB, "VEDIC TONE ", "TRIPLE SVARITA,KATHAKA ANUDATTA,DOT BELOW,TWO DOTS BELOW"⟩,
    ⟨0x1CDF, "VEDIC TONE ", "THREE DOTS BELOW,RIGVEDIC KASHMIRI INDEPENDENT SVARITA"⟩,
    ⟨0x1CE1, "", "VEDIC TONE ATHARVAVEDIC INDEPENDENT SVARITA"⟩,
    ⟨0x1CE2, "VEDIC SIGN VISARGA ", "SVARITA,UDATTA"⟩,
    ⟨0x1CE4, "VEDIC SIGN ", "REVERSED VISARGA UDATTA,VISARGA ANUDATTA,REVERSED VISARGA ANUDATTA"⟩,
    ⟨0x1CE7, "VEDIC SIGN VISARGA ", "UDATTA WITH TAIL,ANUDATTA WITH TAIL"⟩,
    ⟨0x1CE9, "VEDIC SIGN ANUSVARA ", "ANTARGOMUKHA,BAHIRGOMUKHA,VAMAGOMUKHA,VAMAGOMUKHA WITH TAIL"⟩,
    ⟨0x1CED, "VEDIC SIGN ", "TIRYAK,HEXIFORM LONG ANUSVARA,LONG ANUSVARA,RTHANG LONG ANUSVARA"⟩,
    ⟨0x1CF1, "VEDIC SIGN ", "ANUSVARA UBHAYATO MUKHA,ARDHAVISARGA,ROTATED ARDHAVISARGA"⟩,
    ⟨0x1CF4, "VEDIC ", "TONE CANDRA ABOVE,SIGN JIHVAMULIYA,SIGN UPADHMANIYA,SIGN ATIKRAMA"⟩,
    ⟨0x1CF8, "VEDIC ", "TONE RING ABOVE,TONE DOUBLE RING ABOVE,SIGN DOUBLE ANUSVARA ANTARGOMUKHA"⟩,
    ⟨0x1D00, "LATIN ", "LETTER SMALL CAPITAL A,LETTER SMALL CAPITAL AE,SMALL LETTER TURNED AE"⟩,
    ⟨0x1D03, "LATIN LETTER SMALL CAPITAL ", "BARRED B,C,D,ETH,E"⟩,
    ⟨0x1D08, "LATIN SMALL LETTER TURNED ", "OPEN E,I"⟩,
    ⟨0x1D0A, "LATIN LETTER SMALL CAPITAL ", "J,K,L WITH STROKE,M,REVERSED N,O,OPEN O"⟩,
    ⟨0x1D11, "LATIN SMALL LETTER SIDEWAYS ", "O,OPEN O,O WITH STROKE"⟩,
    ⟨0x1D14, "LATIN ", "SMALL LETTER TURNED OE,LETTER SMALL CAPITAL OU"⟩,
    ⟨0x1D16, "LATIN SMALL LETTER ", "TOP HALF O,BOTTOM HALF O"⟩,
    ⟨0x1D18, "LATIN LETTER SMALL CAPITAL ", "P,REVERSED R,TURNED R,T,U"⟩,
    ⟨0x1D1D, "LATIN SMALL LETTER SIDEWAYS ", "U,DIAERESIZED U,TURNED M"⟩,
    ⟨0x1D20, "LATIN LETTER SMALL CAPITAL ", "V,W,Z,EZH"⟩,
    ⟨0x1D24, "LATIN LETTER ", "VOICED LARYNGEAL SPIRANT,AIN"⟩,
    ⟨0x1D26, "GREEK LETTER SMALL CAPITAL ", "GAMMA,LAMDA,PI,RHO,PSI"⟩,
    ⟨0x1D2B, "", "CYRILLIC LETTER SMALL CAPITAL EL"⟩,
    ⟨0x1D2C, "MODIFIER LETTER CAPITAL ", "A,AE,B,BARRED B,D"⟩,
    ⟨0x1D31, "MODIFIER LETTER CAPITAL ", "E,REVERSED E,G,H,I,J,K,L,M,N,REVERSED N,O,OU,P,R,T,U,W"⟩,
    ⟨0x1D43, "MODIFIER LETTER SMALL ", "A,TURNED A,ALPHA"⟩,
    ⟨0x1D46, "MODIFIER LETTER SMALL ", "TURNED AE,B,D,E,SCHWA,OPEN E,TURNED OPEN E,G,TURNED I,K"⟩,
    ⟨0x1D50, "MODIFIER LETTER SMALL ", "M,ENG,O,OPEN O,TOP HALF O,BOTTOM HALF O,P,T,U,SIDEWAYS U"⟩,
    ⟨0x1D5A, "MODIFIER LETTER SMALL ", "TURNED M,V,AIN,BETA,GREEK GAMMA,DELTA,GREEK PHI,CHI"⟩,
    ⟨0x1D62, "LATIN SUBSCRIPT SMALL LETTER ", "I,R,U,V"⟩,
    ⟨0x1D66, "GREEK SUBSCRIPT SMALL LETTER ", "BETA,GAMMA,RHO,PHI,CHI"⟩,
    ⟨0x1D6B, "LATIN SMALL LETTER ", "UE,B WITH MIDDLE TILDE"⟩,
    ⟨0x1D6D, "LATIN SMALL LETTER ", "D WITH MIDDLE TILDE,F WITH MIDDLE TILDE,M WITH MIDDLE TILDE"⟩,
    ⟨0x1D70, "LATIN SMALL LETTER ", "N WITH MIDDLE TILDE,P WITH MIDDLE TILDE,R WITH MIDDLE TILDE"⟩,
    ⟨0x1D73, "LATIN SMALL LETTER ", "R WITH FISHHOOK AND MIDDLE TILDE,S WITH MIDDLE TILDE"⟩,
    ⟨0x1D75, "LATIN SMALL LETTER ", "T WITH MIDDLE TILDE,Z WITH MIDDLE TILDE,TURNED G"⟩,
    ⟨0x1D78, "", "MODIFIER LETTER CYRILLIC EN"⟩,
    ⟨0x1D79, "LATIN SMALL LETTER ", "INSULAR G,TH WITH STRIKETHROUGH"⟩,
    ⟨0x1D7B, "LATIN SMALL ", "CAPITAL LETTER I WITH STROKE,LETTER IOTA WITH STROKE"⟩,
    ⟨0x1D7D, "LATIN SMALL ", "LETTER P WITH STROKE,CAPITAL LETTER U WITH STROKE"⟩,
    ⟨0x1D7F, "LATIN SMALL LETTER ", "UPSILON WITH STROKE,B WITH PALATAL HOOK"⟩,
    ⟨0x1D81, "LATIN SMALL LETTER ", "D WITH PALATAL HOOK,F WITH PALATAL HOOK,G WITH PALATAL HOOK"⟩,
    ⟨0x1D84, "LATIN SMALL LETTER ", "K WITH PALATAL HOOK,L WITH PALATAL HOOK,M WITH PALATAL HOOK"⟩,
    ⟨0x1D87, "LATIN SMALL LETTER ", "N WITH PALATAL HOOK,P WITH PALATAL HOOK,R WITH PALATAL HOOK"⟩,
    ⟨0x1D8A, "LATIN SMALL LETTER ", "S WITH PALATAL HOOK,ESH WITH PALATAL HOOK"⟩,
    ⟨0x1D8C, "LATIN SMALL LETTER ", "V WITH PALATAL HOOK,X WITH PALATAL HOOK"⟩,
    ⟨0x1D8E, "LATIN SMALL LETTER ", "Z WITH PALATAL HOOK,A WITH RETROFLEX HOOK"⟩,
    ⟨0x1D90, "LATIN SMALL LETTER ", "ALPHA WITH RETROFLEX HOOK,D WITH HOOK AND TAIL"⟩,
    ⟨0x1D92, "LATIN SMALL LETTER ", "E WITH RETROFLEX HOOK,OPEN E WITH RETROFLEX HOOK"⟩,
    ⟨0x1D94, "", "LATIN SMALL LETTER REVERSED OPEN E WITH RETROFLEX HOOK"⟩,
    ⟨0x1D95, "LATIN SMALL LETTER ", "SCHWA WITH RETROFLEX HOOK,I WITH RETROFLEX HOOK"⟩,
    ⟨0x1D97, "LATIN SMALL LETTER ", "OPEN O WITH RETROFLEX HOOK,ESH WITH RETROFLEX HOOK"⟩,
    ⟨0x1D99, "LATIN SMALL LETTER ", "U WITH RETROFLEX HOOK,EZH WITH RETROFLEX HOOK"⟩,
    ⟨0x1D9B, "MODIFIER LETTER SMALL ", "TURNED ALPHA,C,C WITH CURL,ETH,REVERSED OPEN E"⟩,
    ⟨0x1DA0, "MODIFIER LETTER SMALL ", "F,DOTLESS J WITH STROKE,SCRIPT G,TURNED H,I WITH STROKE"⟩,
    ⟨0x1DA5, "MODIFIER LETTER SMALL ", "IOTA,CAPITAL I,CAPITAL I WITH STROKE,J WITH CROSSED-TAIL"⟩,
    ⟨0x1DA9, "MODIFIER LETTER SMALL L WITH ", "RETROFLEX HOOK,PALATAL HOOK"⟩,
    ⟨0x1DAB, "MODIFIER LETTER SMALL ", "CAPITAL L,M WITH HOOK,TURNED M WITH LONG LEG"⟩,
    ⟨0x1DAE, "MODIFIER LETTER SMALL N WITH ", "LEFT HOOK,RETROFLEX HOOK"⟩,
    ⟨0x1DB0, "MODIFIER LETTER SMALL ", "CAPITAL N,BARRED O,PHI,S WITH HOOK,ESH"⟩,
    ⟨0x1DB5, "MODIFIER LETTER SMALL ", "T WITH PALATAL HOOK,U BAR,UPSILON,CAPITAL U,V WITH HOOK"⟩,
    ⟨0x1DBA, "MODIFIER LETTER SMALL ", "TURNED V,Z,Z WITH RETROFLEX HOOK,Z WITH CURL,EZH,THETA"⟩,
    ⟨0x1DC0, "COMBINING ", "DOTTED GRAVE ACCENT,DOTTED ACUTE ACCENT,SNAKE BELOW,SUSPENSION MARK"⟩,
    ⟨0x1DC4, "COMBINING ", "MACRON-ACUTE,GRAVE-MACRON,MACRON-GRAVE,ACUTE-MACRON,GRAVE-ACUTE-GRAVE"⟩,
    ⟨0x1DC9, "COMBINING ", "ACUTE-GRAVE-ACUTE,LATIN SMALL LETTER R BELOW,BREVE-MACRON"⟩,
    ⟨0x1DCC, "COMBINING ", "MACRON-BREVE,DOUBLE CIRCUMFLEX ABOVE,OGONEK ABOVE,ZIGZAG BELOW"⟩,
    ⟨0x1DD0, "COMBINING ", "IS BELOW,UR ABOVE,US ABOVE,LATIN SMALL LETTER FLATTENED OPEN A ABOVE"⟩,
    ⟨0x1DD4, "COMBINING LATIN SMALL LETTER ", "AE,AO,AV,C CEDILLA,INSULAR D,ETH,G"⟩,
    ⟨0x1DDB, "COMBINING LATIN ", "LETTER SMALL CAPITAL G,SMALL LETTER K,SMALL LETTER L"⟩,
    ⟨0x1DDE, "COMBINING LATIN LETTER SMALL CAPITAL ", "L,M"⟩,
    ⟨0x1DE0, "COMBINING LATIN ", "SMALL LETTER N,LETTER SMALL CAPITAL N,LETTER SMALL CAPITAL R"⟩,
    ⟨0x1DE3, "COMBINING LATIN SMALL LETTER ", "R ROTUNDA,S,LONG S"⟩,
    ⟨0x1DE6, "COMBINING LATIN SMALL LETTER ", "Z,ALPHA,B,BETA,SCHWA,F,L WITH DOUBLE MIDDLE TILDE"⟩,
    ⟨0x1DED, "", "COMBINING LATIN SMALL LETTER O WITH LIGHT CENTRALIZATION STROKE"⟩,
    ⟨0x1DEE, "COMBINING LATIN SMALL LETTER ", "P,ESH,U WITH LIGHT CENTRALIZATION STROKE,W"⟩,
    ⟨0x1DF2, "COMBINING LATIN SMALL LETTER ", "A WITH DIAERESIS,O WITH DIAERESIS,U WITH DIAERESIS"⟩,
    ⟨0x1DF5, "COMBINING ", "UP TACK ABOVE,KAVYKA ABOVE RIGHT,KAVYKA ABOVE LEFT"⟩,
    ⟨0x1DF8, "COMBINING ", "DOT ABOVE LEFT,WIDE INVERTED BRIDGE BELOW,DOT BELOW LEFT"⟩,
    ⟨0x1DFB, "COMBINING ", "DELETION MARK,DOUBLE INVERTED BREVE BELOW,ALMOST EQUAL TO BELOW"⟩,
    ⟨0x1DFE, "COMBINING ", "LEFT ARROWHEAD ABOVE,RIGHT ARROWHEAD AND DOWN ARROWHEAD BELOW"⟩,
    ⟨0x1E00, "", "LATIN CAPITAL LETTER A WITH RING BELOW"⟩,
    ⟨0x1E01, "LATIN ", "SMALL LETTER A WITH RING BELOW,CAPITAL LETTER B WITH DOT ABOVE"⟩,
    ⟨0x1E03, "LATIN ", "SMALL LETTER B WITH DOT ABOVE,CAPITAL LETTER B WITH DOT BELOW"⟩,
    ⟨0x1E05, "LATIN ", "SMALL LETTER B WITH DOT BELOW,CAPITAL LETTER B WITH LINE BELOW"⟩,
    ⟨0x1E07, "LATIN ", "SMALL LETTER B WITH LINE BELOW,CAPITAL LETTER C WITH CEDILLA AND ACUTE"⟩,
    ⟨0x1E09, "LATIN ", "SMALL LETTER C WITH CEDILLA AND ACUTE,CAPITAL LETTER D WITH DOT ABOVE"⟩,
    ⟨0x1E0B, "LATIN ", "SMALL LETTER D WITH DOT ABOVE,CAPITAL LETTER D WITH DOT BELOW"⟩,
    ⟨0x1E0D, "LATIN ", "SMALL LETTER D WITH DOT BELOW,CAPITAL LETTER D WITH LINE BELOW"⟩,
    ⟨0x1E0F, "LATIN ", "SMALL LETTER D WITH LINE BELOW,CAPITAL LETTER D WITH CEDILLA"⟩,
    ⟨0x1E11, "LATIN ", "SMALL LETTER D WITH CEDILLA,CAPITAL LETTER D WITH CIRCUMFLEX BELOW"⟩,
    ⟨0x1E13, "", "LATIN SMALL LETTER D WITH CIRCUMFLEX BELOW"⟩,
    ⟨0x1E14, "", "LATIN CAPITAL LETTER E WITH MACRON AND GRAVE"⟩,
    ⟨0x1E15, "", "LATIN SMALL LETTER E WITH MACRON AND GRAVE"⟩,
    ⟨0x1E16, "", "LATIN CAPITAL LETTER E WITH MACRON AND ACUTE"⟩,
    ⟨0x1E17, "", "LATIN SMALL LETTER E WITH MACRON AND ACUTE"⟩,
    ⟨0x1E18, "", "LATIN CAPITAL LETTER E WITH CIRCUMFLEX BELOW"⟩,
    ⟨0x1E19, "LATIN ", "SMALL LETTER E WITH CIRCUMFLEX BELOW,CAPITAL LETTER E WITH TILDE BELOW"⟩,
    ⟨0x1E1B, "LATIN ", "SMALL LETTER E WITH TILDE BELOW,CAPITAL LETTER E WITH CEDILLA AND BREVE"⟩,
    ⟨0x1E1D, "LATIN ", "SMALL LETTER E WITH CEDILLA AND BREVE,CAPITAL LETTER F WITH DOT ABOVE"⟩,
    ⟨0x1E1F, "LATIN ", "SMALL LETTER F WITH DOT ABOVE,CAPITAL LETTER G WITH MACRON"⟩,
    ⟨0x1E21, "LATIN ", "SMALL LETTER G WITH MACRON,CAPITAL LETTER H WITH DOT ABOVE"⟩,
    ⟨0x1E23, "LATIN ", "SMALL LETTER H WITH DOT ABOVE,CAPITAL LETTER H WITH DOT BELOW"⟩,
    ⟨0x1E25, "LATIN ", "SMALL LETTER H WITH DOT BELOW,CAPITAL LETTER H WITH DIAERESIS"⟩,
    ⟨0x1E27, "LATIN ", "SMALL LETTER H WITH DIAERESIS,CAPITAL LETTER H WITH CEDILLA"⟩,
    ⟨0x1E29, "LATIN ", "SMALL LETTER H WITH CEDILLA,CAPITAL LETTER H WITH BREVE BELOW"⟩,
    ⟨0x1E2B, "LATIN ", "SMALL LETTER H WITH BREVE BELOW,CAPITAL LETTER I WITH TILDE BELOW"⟩,
    ⟨0x1E2D, "LATIN ", "SMALL LETTER I WITH TILDE BELOW,CAPITAL LETTER I WITH DIAERESIS AND ACUTE"⟩,
    ⟨0x1E2F, "LATIN ", "SMALL LETTER I WITH DIAERESIS AND ACUTE,CAPITAL LETTER K WITH ACUTE"⟩,
    ⟨0x1E31, "LATIN ", "SMALL LETTER K WITH ACUTE,CAPITAL LETTER K WITH DOT BELOW"⟩,
    ⟨0x1E33, "LATIN ", "SMALL LETTER K WITH DOT BELOW,CAPITAL LETTER K WITH LINE BELOW"⟩,
    ⟨0x1E35, "LATIN ", "SMALL LETTER K WITH LINE BELOW,CAPITAL LETTER L WITH DOT BELOW"⟩,
    ⟨0x1E37, "LATIN ", "SMALL LETTER L WITH DOT BELOW,CAPITAL LETTER L WITH DOT BELOW AND MACRON"⟩,
    ⟨0x1E39, "LATIN ", "SMALL LETTER L WITH DOT BELOW AND MACRON,CAPITAL LETTER L WITH LINE BELOW"⟩,
    ⟨0x1E3B, "LATIN ", "SMALL LETTER L WITH LINE BELOW,CAPITAL LETTER L WITH CIRCUMFLEX BELOW"⟩,
    ⟨0x1E3D, "LATIN ", "SMALL LETTER L WITH CIRCUMFLEX BELOW,CAPITAL LETTER M WITH ACUTE"⟩,
    ⟨0x1E3F, "LATIN ", "SMALL LETTER M WITH ACUTE,CAPITAL LETTER M WITH DOT ABOVE"⟩,
    ⟨0x1E41, "LATIN ", "SMALL LETTER M WITH DOT ABOVE,CAPITAL LETTER M WITH DOT BELOW"⟩,
    ⟨0x1E43, "LATIN ", "SMALL LETTER M WITH DOT BELOW,CAPITAL LETTER N WITH DOT ABOVE"⟩,
    ⟨0x1E45, "LATIN ", "SMALL LETTER N WITH DOT ABOVE,CAPITAL LETTER N WITH DOT BELOW"⟩,
    ⟨0x1E47, "LATIN ", "SMALL LETTER N WITH DOT BELOW,CAPITAL LETTER N WITH LINE BELOW"⟩,
    ⟨0x1E49, "LATIN ", "SMALL LETTER N WITH LINE BELOW,CAPITAL LETTER N WITH CIRCUMFLEX BELOW"⟩,
    ⟨0x1E4B, "", "LATIN SMALL LETTER N WITH CIRCUMFLEX BELOW"⟩,
    ⟨0x1E4C, "LATIN ", "CAPITAL LETTER O WITH TILDE AND ACUTE,SMALL LETTER O WITH TILDE AND ACUTE"⟩,
    ⟨0x1E4E, "", "LATIN CAPITAL LETTER O WITH TILDE AND DIAERESIS"⟩,
    ⟨0x1E4F, "", "LATIN SMALL LETTER O WITH TILDE AND DIAERESIS"⟩,
    ⟨0x1E50, "", "LATIN CAPITAL LETTER O WITH MACRON AND GRAVE"⟩,
    ⟨0x1E51, "", "LATIN SMALL LETTER O WITH MACRON AND GRAVE"⟩,
    ⟨0x1E52, "", "LATIN CAPITAL LETTER O WITH MACRON AND ACUTE"⟩,
    ⟨0x1E53, "LATIN ", "SMALL LETTER O WITH MACRON AND ACUTE,CAPITAL LETTER P WITH ACUTE"⟩,
    ⟨0x1E55, "LATIN ", "SMALL LETTER P WITH ACUTE,CAPITAL LETTER P WITH DOT ABOVE"⟩,
    ⟨0x1E57, "LATIN ", "SMALL LETTER P WITH DOT ABOVE,CAPITAL LETTER R WITH DOT ABOVE"⟩,
    ⟨0x1E59, "LATIN ", "SMALL LETTER R WITH DOT ABOVE,CAPITAL LETTER R WITH DOT BELOW"⟩,
    ⟨0x1E5B, "LATIN ", "SMALL LETTER R WITH DOT BELOW,CAPITAL LETTER R WITH DOT BELOW AND MACRON"⟩,
    ⟨0x1E5D, "LATIN ", "SMALL LETTER R WITH DOT BELOW AND MACRON,CAPITAL LETTER R WITH LINE BELOW"⟩,
    ⟨0x1E5F, "LATIN ", "SMALL LETTER R WITH LINE BELOW,CAPITAL LETTER S WITH DOT ABOVE"⟩,
    ⟨0x1E61, "LATIN ", "SMALL LETTER S WITH DOT ABOVE,CAPITAL LETTER S WITH DOT BELOW"⟩,
    ⟨0x1E63, "LATIN ", "SMALL LETTER S WITH DOT BELOW,CAPITAL LETTER S WITH ACUTE AND DOT ABOVE"⟩,
    ⟨0x1E65, "", "LATIN SMALL LETTER S WITH ACUTE AND DOT ABOVE"⟩,
    ⟨0x1E66, "", "LATIN CAPITAL LETTER S WITH CARON AND DOT ABOVE"⟩,
    ⟨0x1E67, "", "LATIN SMALL LETTER S WITH CARON AND DOT ABOVE"⟩,
    ⟨0x1E68, "", "LATIN CAPITAL LETTER S WITH DOT BELOW AND DOT ABOVE"⟩,
    ⟨0x1E69, "", "LATIN SMALL LETTER S WITH DOT BELOW AND DOT ABOVE"⟩,
    ⟨0x1E6A, "", "LATIN CAPITAL LETTER T WITH DOT ABOVE"⟩,
    ⟨0x1E6B, "LATIN ", "SMALL LETTER T WITH DOT ABOVE,CAPITAL LETTER T WITH DOT BELOW"⟩,
    ⟨0x1E6D, "LATIN ", "SMALL LETTER T WITH DOT BELOW,CAPITAL LETTER T WITH LINE BELOW"⟩,
    ⟨0x1E6F, "LATIN ", "SMALL LETTER T WITH LINE BELOW,CAPITAL LETTER T WITH CIRCUMFLEX BELOW"⟩,
    ⟨0x1E71, "", "LATIN SMALL LETTER T WITH CIRCUMFLEX BELOW"⟩,
    ⟨0x1E72, "", "LATIN CAPITAL LETTER U WITH DIAERESIS BELOW"⟩,
    ⟨0x1E73, "LATIN ", "SMALL LETTER U WITH DIAERESIS BELOW,CAPITAL LETTER U WITH TILDE BELOW"⟩,
    ⟨0x1E75, "LATIN ", "SMALL LETTER U WITH TILDE BELOW,CAPITAL LETTER U WITH CIRCUMFLEX BELOW"⟩,
    ⟨0x1E77, "", "LATIN SMALL LETTER U WITH CIRCUMFLEX BELOW"⟩,
    ⟨0x1E78, "LATIN ", "CAPITAL LETTER U WITH TILDE AND ACUTE,SMALL LETTER U WITH TILDE AND ACUTE"⟩,
    ⟨0x1E7A, "", "LATIN CAPITAL LETTER U WITH MACRON AND DIAERESIS"⟩,
    ⟨0x1E7B, "LATIN ", "SMALL LETTER U WITH MACRON AND DIAERESIS,CAPITAL LETTER V WITH TILDE"⟩,
    ⟨0x1E7D, "LATIN ", "SMALL LETTER V WITH TILDE,CAPITAL LETTER V WITH DOT BELOW"⟩,
    ⟨0x1E7F, "LATIN ", "SMALL LETTER V WITH DOT BELOW,CAPITAL LETTER W WITH GRAVE"⟩,
    ⟨0x1E81, "LATIN ", "SMALL LETTER W WITH GRAVE,CAPITAL LETTER W WITH ACUTE"⟩,
    ⟨0x1E83, "LATIN ", "SMALL LETTER W WITH ACUTE,CAPITAL LETTER W WITH DIAERESIS"⟩,
    ⟨0x1E85, "LATIN ", "SMALL LETTER W WITH DIAERESIS,CAPITAL LETTER W WITH DOT ABOVE"⟩,
    ⟨0x1E87, "LATIN ", "SMALL LETTER W WITH DOT ABOVE,CAPITAL LETTER W WITH DOT BELOW"⟩,
    ⟨0x1E89, "LATIN ", "SMALL LETTER W WITH DOT BELOW,CAPITAL LETTER X WITH DOT ABOVE"⟩,
    ⟨0x1E8B, "LATIN ", "SMALL LETTER X WITH DOT ABOVE,CAPITAL LETTER X WITH DIAERESIS"⟩,
    ⟨0x1E8D, "LATIN ", "SMALL LETTER X WITH DIAERESIS,CAPITAL LETTER Y WITH DOT ABOVE"⟩,
    ⟨0x1E8F, "LATIN ", "SMALL LETTER Y WITH DOT ABOVE,CAPITAL LETTER Z WITH CIRCUMFLEX"⟩,
    ⟨0x1E91, "LATIN ", "SMALL LETTER Z WITH CIRCUMFLEX,CAPITAL LETTER Z WITH DOT BELOW"⟩,
    ⟨0x1E93, "LATIN ", "SMALL LETTER Z WITH DOT BELOW,CAPITAL LETTER Z WITH LINE BELOW"⟩,
    ⟨0x1E95, "LATIN SMALL LETTER ", "Z WITH LINE BELOW,H WITH LINE BELOW,T WITH DIAERESIS"⟩,
    ⟨0x1E98, "LATIN SMALL LETTER ", "W WITH RING ABOVE,Y WITH RING ABOVE,A WITH RIGHT HALF RING"⟩,
    ⟨0x1E9B, "LATIN SMALL LETTER LONG S WITH ", "DOT ABOVE,DIAGONAL STROKE,HIGH STROKE"⟩,
    ⟨0x1E9E, "LATIN ", "CAPITAL LETTER SHARP S,SMALL LETTER DELTA,CAPITAL LETTER A WITH DOT BELOW"⟩,
    ⟨0x1EA1, "LATIN ", "SMALL LETTER A WITH DOT BELOW,CAPITAL LETTER A WITH HOOK ABOVE"⟩,
    ⟨0x1EA3, "LATIN ", "SMALL LETTER A WITH HOOK ABOVE,CAPITAL LETTER A WITH CIRCUMFLEX AND ACUTE"⟩,
    ⟨0x1EA5, "", "LATIN SMALL LETTER A WITH CIRCUMFLEX AND ACUTE"⟩,
    ⟨0x1EA6, "", "LATIN CAPITAL LETTER A WITH CIRCUMFLEX AND GRAVE"⟩,
    ⟨0x1EA7, "", "LATIN SMALL LETTER A WITH CIRCUMFLEX AND GRAVE"⟩,
    ⟨0x1EA8, "", "LATIN CAPITAL LETTER A WITH CIRCUMFLEX AND HOOK ABOVE"⟩,
    ⟨0x1EA9, "", "LATIN SMALL LETTER A WITH CIRCUMFLEX AND HOOK ABOVE"⟩,
    ⟨0x1EAA, "", "LATIN CAPITAL LETTER A WITH CIRCUMFLEX AND TILDE"⟩,
    ⟨0x1EAB, "", "LATIN SMALL LETTER A WITH CIRCUMFLEX AND TILDE"⟩,
    ⟨0x1EAC, "", "LATIN CAPITAL LETTER A WITH CIRCUMFLEX AND DOT BELOW"⟩,
    ⟨0x1EAD, "", "LATIN SMALL LETTER A WITH CIRCUMFLEX AND DOT BELOW"⟩,
    ⟨0x1EAE, "LATIN ", "CAPITAL LETTER A WITH BREVE AND ACUTE,SMALL LETTER A WITH BREVE AND ACUTE"⟩,
    ⟨0x1EB0, "LATIN ", "CAPITAL LETTER A WITH BREVE AND GRAVE,SMALL LETTER A WITH BREVE AND GRAVE"⟩,
    ⟨0x1EB2, "", "LATIN CAPITAL LETTER A WITH BREVE AND HOOK ABOVE"⟩,
    ⟨0x1EB3, "", "LATIN SMALL LETTER A WITH BREVE AND HOOK ABOVE"⟩,
    ⟨0x1EB4, "LATIN ", "CAPITAL LETTER A WITH BREVE AND TILDE,SMALL LETTER A WITH BREVE AND TILDE"⟩,
    ⟨0x1EB6, "", "LATIN CAPITAL LETTER A WITH BREVE AND DOT BELOW"⟩,
    ⟨0x1EB7, "LATIN ", "SMALL LETTER A WITH BREVE AND DOT BELOW,CAPITAL LETTER E WITH DOT BELOW"⟩,
    ⟨0x1EB9, "LATIN ", "SMALL LETTER E WITH DOT BELOW,CAPITAL LETTER E WITH HOOK ABOVE"⟩,
    ⟨0x1EBB, "LATIN ", "SMALL LETTER E WITH HOOK ABOVE,CAPITAL LETTER E WITH TILDE"⟩,
    ⟨0x1EBD, "LATIN ", "SMALL LETTER E WITH TILDE,CAPITAL LETTER E WITH CIRCUMFLEX AND ACUTE"⟩,
    ⟨0x1EBF, "", "LATIN SMALL LETTER E WITH CIRCUMFLEX AND ACUTE"⟩,
    ⟨0x1EC0, "", "LATIN CAPITAL LETTER E WITH CIRCUMFLEX AND GRAVE"⟩,
    ⟨0x1EC1, "", "LATIN SMALL LETTER E WITH CIRCUMFLEX AND GRAVE"⟩,
    ⟨0x1EC2, "", "LATIN CAPITAL LETTER E WITH CIRCUMFLEX AND HOOK ABOVE"⟩,
    ⟨0x1EC3, "", "LATIN SMALL LETTER E WITH CIRCUMFLEX AND HOOK ABOVE"⟩,
    ⟨0x1EC4, "", "LATIN CAPITAL LETTER E WITH CIRCUMFLEX AND TILDE"⟩,
    ⟨0x1EC5, "", "LATIN SMALL LETTER E WITH CIRCUMFLEX AND TILDE"⟩,
    ⟨0x1EC6, "", "LATIN CAPITAL LETTER E WITH CIRCUMFLEX AND DOT BELOW"⟩,
    ⟨0x1EC7, "", "LATIN SMALL LETTER E WITH CIRCUMFLEX AND DOT BELOW"⟩,
    ⟨0x1EC8, "", "LATIN CAPITAL LETTER I WITH HOOK ABOVE"⟩,
    ⟨0x1EC9, "LATIN ", "SMALL LETTER I WITH HOOK ABOVE,CAPITAL LETTER I WITH DOT BELOW"⟩,
    ⟨0x1ECB, "LATIN ", "SMALL LETTER I WITH DOT BELOW,CAPITAL LETTER O WITH DOT BELOW"⟩,
    ⟨0x1ECD, "LATIN ", "SMALL LETTER O WITH DOT BELOW,CAPITAL LETTER O WITH HOOK ABOVE"⟩,
    ⟨0x1ECF, "LATIN ", "SMALL LETTER O WITH HOOK ABOVE,CAPITAL LETTER O WITH CIRCUMFLEX AND ACUTE"⟩,
    ⟨0x1ED1, "", "LATIN SMALL LETTER O WITH CIRCUMFLEX AND ACUTE"⟩,
    ⟨0x1ED2, "", "LATIN CAPITAL LETTER O WITH CIRCUMFLEX AND GRAVE"⟩,
    ⟨0x1ED3, "", "LATIN SMALL LETTER O WITH CIRCUMFLEX AND GRAVE"⟩,
    ⟨0x1ED4, "", "LATIN CAPITAL LETTER O WITH CIRCUMFLEX AND HOOK ABOVE"⟩,
    ⟨0x1ED5, "", "LATIN SMALL LETTER O WITH CIRCUMFLEX AND HOOK ABOVE"⟩,
    ⟨0x1ED6, "", "LATIN CAPITAL LETTER O WITH CIRCUMFLEX AND TILDE"⟩,
    ⟨0x1ED7, "", "LATIN SMALL LETTER O WITH CIRCUMFLEX AND TILDE"⟩,
    ⟨0x1ED8, "", "LATIN CAPITAL LETTER O WITH CIRCUMFLEX AND DOT BELOW"⟩,
    ⟨0x1ED9, "", "LATIN SMALL LETTER O WITH CIRCUMFLEX AND DOT BELOW"⟩,
    ⟨0x1EDA, "LATIN ", "CAPITAL LETTER O WITH HORN AND ACUTE,SMALL LETTER O WITH HORN AND ACUTE"⟩,
    ⟨0x1EDC, "LATIN ", "CAPITAL LETTER O WITH HORN AND GRAVE,SMALL LETTER O WITH HORN AND GRAVE"⟩,
    ⟨0x1EDE, "", "LATIN CAPITAL LETTER O WITH HORN AND HOOK ABOVE"⟩,
    ⟨0x1EDF, "", "LATIN SMALL LETTER O WITH HORN AND HOOK ABOVE"⟩,
    ⟨0x1EE0, "LATIN ", "CAPITAL LETTER O WITH HORN AND TILDE,SMALL LETTER O WITH HORN AND TILDE"⟩,
    ⟨0x1EE2, "", "LATIN CAPITAL LETTER O WITH HORN AND DOT BELOW"⟩,
    ⟨0x1EE3, "", "LATIN SMALL LETTER O WITH HORN AND DOT BELOW"⟩,
    ⟨0x1EE4, "LATIN ", "CAPITAL LETTER U WITH DOT BELOW,SMALL LETTER U WITH DOT BELOW"⟩,
    ⟨0x1EE6, "LATIN ", "CAPITAL LETTER U WITH HOOK ABOVE,SMALL LETTER U WITH HOOK ABOVE"⟩,
    ⟨0x1EE8, "LATIN ", "CAPITAL LETTER U WITH HORN AND ACUTE,SMALL LETTER U WITH HORN AND ACUTE"⟩,
    ⟨0x1EEA, "LATIN ", "CAPITAL LETTER U WITH HORN AND GRAVE,SMALL LETTER U WITH HORN AND GRAVE"⟩,
    ⟨0x1EEC, "", "LATIN CAPITAL LETTER U WITH HORN AND HOOK ABOVE"⟩,
    ⟨0x1EED, "", "LATIN SMALL LETTER U WITH HORN AND HOOK ABOVE"⟩,
    ⟨0x1EEE, "LATIN ", "CAPITAL LETTER U WITH HORN AND TILDE,SMALL LETTER U WITH HORN AND TILDE"⟩,
    ⟨0x1EF0, "", "LATIN CAPITAL LETTER U WITH HORN AND DOT BELOW"⟩,
    ⟨0x1EF1, "", "LATIN SMALL LETTER U WITH HORN AND DOT BELOW"⟩,
    ⟨0x1EF2, "LATIN ", "CAPITAL LETTER Y WITH GRAVE,SMALL LETTER Y WITH GRAVE"⟩,
    ⟨0x1EF4, "LATIN ", "CAPITAL LETTER Y WITH DOT BELOW,SMALL LETTER Y WITH DOT BELOW"⟩,
    ⟨0x1EF6, "LATIN ", "CAPITAL LETTER Y WITH HOOK ABOVE,SMALL LETTER Y WITH HOOK ABOVE"⟩,
    ⟨0x1EF8, "LATIN ", "CAPITAL LETTER Y WITH TILDE,SMALL LETTER Y WITH TILDE"⟩,
    ⟨0x1EFA, "LATIN ", "CAPITAL LETTER MIDDLE-WELSH LL,SMALL LETTER MIDDLE-WELSH LL"⟩,
    ⟨0x1EFC, "LATIN ", "CAPITAL LETTER MIDDLE-WELSH V,SMALL LETTER MIDDLE-WELSH V"⟩,
    ⟨0x1EFE, "LATIN ", "CAPITAL LETTER Y WITH LOOP,SMALL LETTER Y WITH LOOP"⟩,
    ⟨0x1F00, "GREEK SMALL LETTER ALPHA WITH ", "PSILI,DASIA,PSILI AND VARIA"⟩,
    ⟨0x1F03, "GREEK SMALL LETTER ALPHA WITH ", "DASIA AND VARIA,PSILI AND OXIA,DASIA AND OXIA"⟩,
    ⟨0x1F06, "GREEK SMALL LETTER ALPHA WITH ", "PSILI AND PERISPOMENI,DASIA AND PERISPOMENI"⟩,
    ⟨0x1F08, "GREEK CAPITAL LETTER ALPHA WITH ", "PSILI,DASIA,PSILI AND VARIA"⟩,
    ⟨0x1F0B, "GREEK CAPITAL LETTER ALPHA WITH ", "DASIA AND VARIA,PSILI AND OXIA,DASIA AND OXIA"⟩,
    ⟨0x1F0E, "GREEK CAPITAL LETTER ALPHA WITH ", "PSILI AND PERISPOMENI,DASIA AND PERISPOMENI"⟩,
    ⟨0x1F10, "GREEK SMALL LETTER EPSILON WITH ", "PSILI,DASIA,PSILI AND VARIA"⟩,
    ⟨0x1F13, "GREEK SMALL LETTER EPSILON WITH ", "DASIA AND VARIA,PSILI AND OXIA,DASIA AND OXIA"⟩,
    ⟨0x1F18, "GREEK CAPITAL LETTER EPSILON WITH ", "PSILI,DASIA,PSILI AND VARIA"⟩,
    ⟨0x1F1B, "GREEK CAPITAL LETTER EPSILON WITH ", "DASIA AND VARIA,PSILI AND OXIA,DASIA AND OXIA"⟩,
    ⟨0x1F20, "GREEK SMALL LETTER ETA WITH ", "PSILI,DASIA,PSILI AND VARIA"⟩,
    ⟨0x1F23, "GREEK SMALL LETTER ETA WITH ", "DASIA AND VARIA,PSILI AND OXIA,DASIA AND OXIA"⟩,
    ⟨0x1F26, "GREEK SMALL LETTER ETA WITH ", "PSILI AND PERISPOMENI,DASIA AND PERISPOMENI"⟩,
    ⟨0x1F28, "GREEK CAPITAL LETTER ETA WITH ", "PSILI,DASIA,PSILI AND VARIA"⟩,
    ⟨0x1F2B, "GREEK CAPITAL LETTER ETA WITH ", "DASIA AND VARIA,PSILI AND OXIA,DASIA AND OXIA"⟩,
    ⟨0x1F2E, "GREEK CAPITAL LETTER ETA WITH ", "PSILI AND PERISPOMENI,DASIA AND PERISPOMENI"⟩,
    ⟨0x1F30, "GREEK SMALL LETTER IOTA WITH ", "PSILI,DASIA,PSILI AND VARIA"⟩,
    ⟨0x1F33, "GREEK SMALL LETTER IOTA WITH ", "DASIA AND VARIA,PSILI AND OXIA,DASIA AND OXIA"⟩,
    ⟨0x1F36, "GREEK SMALL LETTER IOTA WITH ", "PSILI AND PERISPOMENI,DASIA AND PERISPOMENI"⟩,
    ⟨0x1F38, "GREEK CAPITAL LETTER IOTA WITH ", "PSILI,DASIA,PSILI AND VARIA"⟩,
    ⟨0x1F3B, "GREEK CAPITAL LETTER IOTA WITH ", "DASIA AND VARIA,PSILI AND OXIA,DASIA AND OXIA"⟩,
    ⟨0x1F3E, "GREEK CAPITAL LETTER IOTA WITH ", "PSILI AND PERISPOMENI,DASIA AND PERISPOMENI"⟩,
    ⟨0x1F40, "GREEK SMALL LETTER OMICRON WITH ", "PSILI,DASIA,PSILI AND VARIA"⟩,
    ⟨0x1F43, "GREEK SMALL LETTER OMICRON WITH ", "DASIA AND VARIA,PSILI AND OXIA,DASIA AND OXIA"⟩,
    ⟨0x1F48, "GREEK CAPITAL LETTER OMICRON WITH ", "PSILI,DASIA,PSILI AND VARIA"⟩,
    ⟨0x1F4B, "GREEK CAPITAL LETTER OMICRON WITH ", "DASIA AND VARIA,PSILI AND OXIA,DASIA AND OXIA"⟩,
    ⟨0x1F50, "GREEK SMALL LETTER UPSILON WITH ", "PSILI,DASIA,PSILI AND VARIA"⟩,
    ⟨0x1F53, "GREEK SMALL LETTER UPSILON WITH ", "DASIA AND VARIA,PSILI AND OXIA,DASIA AND OXIA"⟩,
    ⟨0x1F56, "GREEK SMALL LETTER UPSILON WITH ", "PSILI AND PERISPOMENI,DASIA AND PERISPOMENI"⟩,
    ⟨0x1F59, "", "GREEK CAPITAL LETTER UPSILON WITH DASIA"⟩,
    ⟨0x1F5B, "", "GREEK CAPITAL LETTER UPSILON WITH DASIA AND VARIA"⟩,
    ⟨0x1F5D, "", "GREEK CAPITAL LETTER UPSILON WITH DASIA AND OXIA"⟩,
    ⟨0x1F5F, "", "GREEK CAPITAL LETTER UPSILON WITH DASIA AND PERISPOMENI"⟩,
    ⟨0x1F60, "GREEK SMALL LETTER OMEGA WITH ", "PSILI,DASIA,PSILI AND VARIA"⟩,
    ⟨0x1F63, "GREEK SMALL LETTER OMEGA WITH ", "DASIA AND VARIA,PSILI AND OXIA,DASIA AND OXIA"⟩,
    ⟨0x1F66, "GREEK SMALL LETTER OMEGA WITH ", "PSILI AND PERISPOMENI,DASIA AND PERISPOMENI"⟩,
    ⟨0x1F68, "GREEK CAPITAL LETTER OMEGA WITH ", "PSILI,DASIA,PSILI AND VARIA"⟩,
    ⟨0x1F6B, "GREEK CAPITAL LETTER OMEGA WITH ", "DASIA AND VARIA,PSILI AND OXIA,DASIA AND OXIA"⟩,
    ⟨0x1F6E, "GREEK CAPITAL LETTER OMEGA WITH ", "PSILI AND PERISPOMENI,DASIA AND PERISPOMENI"⟩,
    ⟨0x1F70, "GREEK SMALL LETTER ALPHA WITH ", "VARIA,OXIA"⟩,
    ⟨0x1F72, "GREEK SMALL LETTER EPSILON WITH ", "VARIA,OXIA"⟩,
    ⟨0x1F74, "GREEK SMALL LETTER ", "ETA WITH VARIA,ETA WITH OXIA,IOTA WITH VARIA,IOTA WITH OXIA"⟩,
    ⟨0x1F78, "GREEK SMALL LETTER ", "OMICRON WITH VARIA,OMICRON WITH OXIA,UPSILON WITH VARIA"⟩,
    ⟨0x1F7B, "GREEK SMALL LETTER ", "UPSILON WITH OXIA,OMEGA WITH VARIA,OMEGA WITH OXIA"⟩,
    ⟨0x1F80, "GREEK SMALL LETTER ALPHA WITH ", "PSILI AND YPOGEGRAMMENI,DASIA AND YPOGEGRAMMENI"⟩,
    ⟨0x1F82, "", "GREEK SMALL LETTER ALPHA WITH PSILI AND VARIA AND YPOGEGRAMMENI"⟩,
    ⟨0x1F83, "", "GREEK SMALL LETTER ALPHA WITH DASIA AND VARIA AND YPOGEGRAMMENI"⟩,
    ⟨0x1F84, "", "GREEK SMALL LETTER ALPHA WITH PSILI AND OXIA AND YPOGEGRAMMENI"⟩,
    ⟨0x1F85, "", "GREEK SMALL LETTER ALPHA WITH DASIA AND OXIA AND YPOGEGRAMMENI"⟩,
    ⟨0x1F86, "", "GREEK SMALL LETTER ALPHA WITH PSILI AND PERISPOMENI AND YPOGEGRAMMENI"⟩,
    ⟨0x1F87, "", "GREEK SMALL LETTER ALPHA WITH DASIA AND PERISPOMENI AND YPOGEGRAMMENI"⟩,
    ⟨0x1F88, "", "GREEK CAPITAL LETTER ALPHA WITH PSILI AND PROSGEGRAMMENI"⟩,
    ⟨0x1F89, "", "GREEK CAPITAL LETTER ALPHA WITH DASIA AND PROSGEGRAMMENI"⟩,
    ⟨0x1F8A, "", "GREEK CAPITAL LETTER ALPHA WITH PSILI AND VARIA AND PROSGEGRAMMENI"⟩,
    ⟨0x1F8B, "", "GREEK CAPITAL LETTER ALPHA WITH DASIA AND VARIA AND PROSGEGRAMMENI"⟩,
    ⟨0x1F8C, "", "GREEK CAPITAL LETTER ALPHA WITH PSILI AND OXIA AND PROSGEGRAMMENI"⟩,
    ⟨0x1F8D, "", "GREEK CAPITAL LETTER ALPHA WITH DASIA AND OXIA AND PROSGEGRAMMENI"⟩,
    ⟨0x1F8E, "", "GREEK CAPITAL LETTER ALPHA WITH PSILI AND PERISPOMENI AND PROSGEGRAMMENI"⟩,
    ⟨0x1F8F, "", "GREEK CAPITAL LETTER ALPHA WITH DASIA AND PERISPOMENI AND PROSGEGRAMMENI"⟩,
    ⟨0x1F90, "GREEK SMALL LETTER ETA WITH ", "PSILI AND YPOGEGRAMMENI,DASIA AND YPOGEGRAMMENI"⟩,
    ⟨0x1F92, "", "GREEK SMALL LETTER ETA WITH PSILI AND VARIA AND YPOGEGRAMMENI"⟩,
    ⟨0x1F93, "", "GREEK SMALL LETTER ETA WITH DASIA AND VARIA AND YPOGEGRAMMENI"⟩,
    ⟨0x1F94, "", "GREEK SMALL LETTER ETA WITH PSILI AND OXIA AND YPOGEGRAMMENI"⟩,
    ⟨0x1F95, "", "GREEK SMALL LETTER ETA WITH DASIA AND OXIA AND YPOGEGRAMMENI"⟩,
    ⟨0x1F96, "", "GREEK SMALL LETTER ETA WITH PSILI AND PERISPOMENI AND YPOGEGRAMMENI"⟩,
    ⟨0x1F97, "", "GREEK SMALL LETTER ETA WITH DASIA AND PERISPOMENI AND YPOGEGRAMMENI"⟩,
    ⟨0x1F98, "GREEK CAPITAL LETTER ETA WITH ", "PSILI AND PROSGEGRAMMENI,DASIA AND PROSGEGRAMMENI"⟩,
    ⟨0x1F9A, "", "GREEK CAPITAL LETTER ETA WITH PSILI AND VARIA AND PROSGEGRAMMENI"⟩,
    ⟨0x1F9B, "", "GREEK CAPITAL LETTER ETA WITH DASIA AND VARIA AND PROSGEGRAMMENI"⟩,
    ⟨0x1F9C, "", "GREEK CAPITAL LETTER ETA WITH PSILI AND OXIA AND PROSGEGRAMMENI"⟩,
    ⟨0x1F9D, "", "GREEK CAPITAL LETTER ETA WITH DASIA AND OXIA AND PROSGEGRAMMENI"⟩,
    ⟨0x1F9E, "", "GREEK CAPITAL LETTER ETA WITH PSILI AND PERISPOMENI AND PROSGEGRAMMENI"⟩,
    ⟨0x1F9F, "", "GREEK CAPITAL LETTER ETA WITH DASIA AND PERISPOMENI AND PROSGEGRAMMENI"⟩,
    ⟨0x1FA0, "GREEK SMALL LETTER OMEGA WITH ", "PSILI AND YPOGEGRAMMENI,DASIA AND YPOGEGRAMMENI"⟩,
    ⟨0x1FA2, "", "GREEK SMALL LETTER OMEGA WITH PSILI AND VARIA AND YPOGEGRAMMENI"⟩,
    ⟨0x1FA3, "", "GREEK SMALL LETTER OMEGA WITH DASIA AND VARIA AND YPOGEGRAMMENI"⟩,
    ⟨0x1FA4, "", "GREEK SMALL LETTER OMEGA WITH PSILI AND OXIA AND YPOGEGRAMMENI"⟩,
    ⟨0x1FA5, "", "GREEK SMALL LETTER OMEGA WITH DASIA AND OXIA AND YPOGEGRAMMENI"⟩,
    ⟨0x1FA6, "", "GREEK SMALL LETTER OMEGA WITH PSILI AND PERISPOMENI AND YPOGEGRAMMENI"⟩,
    ⟨0x1FA7, "", "GREEK SMALL LETTER OMEGA WITH DASIA AND PERISPOMENI AND YPOGEGRAMMENI"⟩,
    ⟨0x1FA8, "", "GREEK CAPITAL LETTER OMEGA WITH PSILI AND PROSGEGRAMMENI"⟩,
    ⟨0x1FA9, "", "GREEK CAPITAL LETTER OMEGA WITH DASIA AND PROSGEGRAMMENI"⟩,
    ⟨0x1FAA, "", "GREEK CAPITAL LETTER OMEGA WITH PSILI AND VARIA AND PROSGEGRAMMENI"⟩,
    ⟨0x1FAB, "", "GREEK CAPITAL LETTER OMEGA WITH DASIA AND VARIA AND PROSGEGRAMMENI"⟩,
    ⟨0x1FAC, "", "GREEK CAPITAL LETTER OMEGA WITH PSILI AND OXIA AND PROSGEGRAMMENI"⟩,
    ⟨0x1FAD, "", "GREEK CAPITAL LETTER OMEGA WITH DASIA AND OXIA AND PROSGEGRAMMENI"⟩,
    ⟨0x1FAE, "", "GREEK CAPITAL LETTER OMEGA WITH PSILI AND PERISPOMENI AND PROSGEGRAMMENI"⟩,
    ⟨0x1FAF, "", "GREEK CAPITAL LETTER OMEGA WITH DASIA AND PERISPOMENI AND PROSGEGRAMMENI"⟩,
    ⟨0x1FB0, "GREEK SMALL LETTER ALPHA WITH ", "VRACHY,MACRON,VARIA AND YPOGEGRAMMENI"⟩,
    ⟨0x1FB3, "GREEK SMALL LETTER ALPHA WITH ", "YPOGEGRAMMENI,OXIA AND YPOGEGRAMMENI"⟩,
    ⟨0x1FB6, "GREEK SMALL LETTER ALPHA WITH ", "PERISPOMENI,PERISPOMENI AND YPOGEGRAMMENI"⟩,
    ⟨0x1FB8, "GREEK CAPITAL LETTER ALPHA WITH ", "VRACHY,MACRON,VARIA,OXIA,PROSGEGRAMMENI"⟩,
    ⟨0x1FBD, "GREEK ", "KORONIS,PROSGEGRAMMENI,PSILI,PERISPOMENI"⟩,
    ⟨0x1FC1, "GREEK ", "DIALYTIKA AND PERISPOMENI,SMALL LETTER ETA WITH VARIA AND YPOGEGRAMMENI"⟩,
    ⟨0x1FC3, "GREEK SMALL LETTER ETA WITH ", "YPOGEGRAMMENI,OXIA AND YPOGEGRAMMENI"⟩,
    ⟨0x1FC6, "GREEK SMALL LETTER ETA WITH ", "PERISPOMENI,PERISPOMENI AND YPOGEGRAMMENI"⟩,
    ⟨0x1FC8, "GREEK CAPITAL LETTER EPSILON WITH ", "VARIA,OXIA"⟩,
    ⟨0x1FCA, "GREEK CAPITAL LETTER ETA WITH ", "VARIA,OXIA,PROSGEGRAMMENI"⟩,
    ⟨0x1FCD, "GREEK PSILI AND ", "VARIA,OXIA,PERISPOMENI"⟩,
    ⟨0x1FD0, "GREEK SMALL LETTER IOTA WITH ", "VRACHY,MACRON"⟩,
    ⟨0x1FD2, "GREEK SMALL LETTER IOTA WITH DIALYTIKA AND ", "VARIA,OXIA"⟩,
    ⟨0x1FD6, "GREEK SMALL LETTER IOTA WITH ", "PERISPOMENI,DIALYTIKA AND PERISPOMENI"⟩,
    ⟨0x1FD8, "GREEK CAPITAL LETTER IOTA WITH ", "VRACHY,MACRON,VARIA,OXIA"⟩,
    ⟨0x1FDD, "GREEK DASIA AND ", "VARIA,OXIA,PERISPOMENI"⟩,
    ⟨0x1FE0, "GREEK SMALL LETTER UPSILON WITH ", "VRACHY,MACRON"⟩,
    ⟨0x1FE2, "GREEK SMALL LETTER UPSILON WITH DIALYTIKA AND ", "VARIA,OXIA"⟩,
    ⟨0x1FE4, "GREEK SMALL LETTER RHO WITH ", "PSILI,DASIA"⟩,
    ⟨0x1FE6, "GREEK SMALL LETTER UPSILON WITH ", "PERISPOMENI,DIALYTIKA AND PERISPOMENI"⟩,
    ⟨0x1FE8, "GREEK CAPITAL LETTER UPSILON WITH ", "VRACHY,MACRON,VARIA,OXIA"⟩,
    ⟨0x1FEC, "", "GREEK CAPITAL LETTER RHO WITH DASIA"⟩,
    ⟨0x1FED, "GREEK ", "DIALYTIKA AND VARIA,DIALYTIKA AND OXIA,VARIA"⟩,
    ⟨0x1FF2, "", "GREEK SMALL LETTER OMEGA WITH VARIA AND YPOGEGRAMMENI"⟩,
    ⟨0x1FF3, "GREEK SMALL LETTER OMEGA WITH ", "YPOGEGRAMMENI,OXIA AND YPOGEGRAMMENI"⟩,
    ⟨0x1FF6, "GREEK SMALL LETTER OMEGA WITH ", "PERISPOMENI,PERISPOMENI AND YPOGEGRAMMENI"⟩,
    ⟨0x1FF8, "GREEK CAPITAL LETTER OMICRON WITH ", "VARIA,OXIA"⟩,
    ⟨0x1FFA, "GREEK CAPITAL LETTER OMEGA WITH ", "VARIA,OXIA,PROSGEGRAMMENI"⟩,
    ⟨0x1FFD, "GREEK ", "OXIA,DASIA"⟩
  ]

end MemoryAtlas.Text.Name
