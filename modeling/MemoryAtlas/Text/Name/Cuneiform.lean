import MemoryAtlas.Text.Characters

/-!
Names of characters from U+12000 to U+18FFF: cuneiform, hieroglyphs and further scripts.
-/

namespace MemoryAtlas.Text.Name

def cuneiform : List Block :=
  [
    ⟨0x12000, "", "CUNEIFORM SIGN A"⟩,
    ⟨0x12001, "CUNEIFORM SIGN A TIMES ", "A,BAD,GAN2 TENU,HA,IGI,LAGAR GUNU,MUSH,SAG"⟩,
    ⟨0x12009, "CUNEIFORM SIGN ", "A2,AB"⟩,
    ⟨0x1200B, "CUNEIFORM SIGN AB TIMES ", "ASH2,DUN3 GUNU,GAL,GAN2 TENU,HA,IGI GUNU,IMIN,LAGAB"⟩,
    ⟨0x12013, "CUNEIFORM SIGN ", "AB TIMES SHESH,AB TIMES U PLUS U PLUS U,AB GUNU,AB2"⟩,
    ⟨0x12017, "CUNEIFORM SIGN AB2 TIMES ", "BALAG,GAN2 TENU,ME PLUS EN,SHA3,TAK4"⟩,
    ⟨0x1201C, "CUNEIFORM SIGN ", "AD,AK,AK TIMES ERIN2,AK TIMES SHITA PLUS GISH,AL"⟩,
    ⟨0x12021, "CUNEIFORM SIGN AL TIMES ", "AL,DIM2,GISH,HA,KAD3,KI,SHE,USH"⟩,
    ⟨0x12029, "CUNEIFORM SIGN ", "ALAN,ALEPH,AMAR,AMAR TIMES SHE,AN,AN OVER AN,AN THREE TIMES"⟩,
    ⟨0x12030, "CUNEIFORM SIGN AN PLUS NAGA ", "OPPOSING AN PLUS NAGA,SQUARED"⟩,
    ⟨0x12032, "CUNEIFORM SIGN ", "ANSHE,APIN,ARAD,ARAD TIMES KUR,ARKAB,ASAL2,ASH,ASH ZIDA TENU"⟩,
    ⟨0x1203A, "CUNEIFORM SIGN ASH ", "KABA TENU,OVER ASH TUG2 OVER TUG2 TUG2 OVER TUG2 PAP"⟩,
    ⟨0x1203C, "CUNEIFORM SIGN ASH OVER ASH OVER ", "ASH,ASH CROSSING ASH OVER ASH OVER ASH"⟩,
    ⟨0x1203E, "CUNEIFORM SIGN ", "ASH2,ASHGAB,BA,BAD,BAG3,BAHAR2,BAL,BAL OVER BAL"⟩,
    ⟨0x12046, "CUNEIFORM SIGN ", "BALAG,BAR,BARA2,BI,BI TIMES A,BI TIMES GAR,BI TIMES IGI GUNU"⟩,
    ⟨0x1204D, "CUNEIFORM SIGN ", "BU,BU OVER BU AB,BU OVER BU UN,BU CROSSING BU,BULUG"⟩,
    ⟨0x12052, "CUNEIFORM SIGN ", "BULUG OVER BULUG,BUR,BUR2,DA,DAG,DAG KISIM5 TIMES A PLUS MASH"⟩,
    ⟨0x12058, "CUNEIFORM SIGN DAG KISIM5 TIMES ", "AMAR,BALAG,BI,GA,GA PLUS MASH,GI,GIR2"⟩,
    ⟨0x1205F, "CUNEIFORM SIGN DAG KISIM5 TIMES ", "GUD,HA,IR,IR PLUS LU,KAK,LA,LU,LU PLUS MASH2"⟩,
    ⟨0x12067, "CUNEIFORM SIGN DAG KISIM5 TIMES ", "LUM,NE,PAP PLUS PAP,SI,TAK4,U2 PLUS GIR2,USH"⟩,
    ⟨0x1206E, "CUNEIFORM SIGN ", "DAM,DAR,DARA3,DARA4,DI,DIB,DIM,DIM TIMES SHE,DIM2,DIN"⟩,
    ⟨0x12078, "CUNEIFORM SIGN ", "DIN KASKAL U GUNU DISH,DISH,DU,DU OVER DU,DU GUNU,DU SHESHIG"⟩,
    ⟨0x1207E, "CUNEIFORM SIGN ", "DUB,DUB TIMES ESH2,DUB2,DUG,DUGUD,DUH,DUN,DUN3,DUN3 GUNU"⟩,
    ⟨0x12087, "CUNEIFORM SIGN ", "DUN3 GUNU GUNU,DUN4,DUR2,E,E TIMES PAP,E OVER E NUN OVER NUN,E2"⟩,
    ⟨0x1208E, "CUNEIFORM SIGN E2 TIMES ", "A PLUS HA PLUS DA,GAR,MI,SAL,SHE,U"⟩,
    ⟨0x12094, "CUNEIFORM SIGN ", "EDIN,EGIR,EL,EN,EN TIMES GAN2,EN TIMES GAN2 TENU,EN TIMES ME"⟩,
    ⟨0x1209B, "CUNEIFORM SIGN ", "EN CROSSING EN,EN OPPOSING EN,EN SQUARED,EREN,ERIN2,ESH2,EZEN"⟩,
    ⟨0x120A2, "CUNEIFORM SIGN EZEN TIMES ", "A,A PLUS LAL,A PLUS LAL TIMES LAL,AN,BAD"⟩,
    ⟨0x120A7, "CUNEIFORM SIGN EZEN TIMES ", "DUN3 GUNU,DUN3 GUNU GUNU,HA,HA GUNU,IGI GUNU,KASKAL"⟩,
    ⟨0x120AD, "CUNEIFORM SIGN EZEN TIMES ", "KASKAL SQUARED,KU3,LA,LAL TIMES LAL,LI,LU,U2,UD"⟩,
    ⟨0x120B5, "CUNEIFORM SIGN ", "GA,GA GUNU,GA2,GA2 TIMES A PLUS DA PLUS HA,GA2 TIMES A PLUS HA"⟩,
    ⟨0x120BA, "CUNEIFORM SIGN GA2 TIMES ", "A PLUS IGI,AB2 TENU PLUS TAB,AN,ASH,ASH2 PLUS GAL"⟩,
    ⟨0x120BF, "CUNEIFORM SIGN GA2 TIMES ", "BAD,BAR PLUS RA,BUR,BUR PLUS RA,DA,DI,DIM TIMES SHE"⟩,
    ⟨0x120C6, "CUNEIFORM SIGN GA2 TIMES ", "DUB,EL,EL PLUS LA,EN,EN TIMES GAN2 TENU,GAN2 TENU,GAR"⟩,
    ⟨0x120CD, "CUNEIFORM SIGN GA2 TIMES ", "GI,GI4,GI4 PLUS A,GIR2 PLUS SU,HA PLUS LU PLUS ESH2"⟩,
    ⟨0x120D2, "CUNEIFORM SIGN GA2 TIMES ", "HAL,HAL PLUS LA,HI PLUS LI,HUB2,IGI GUNU"⟩,
    ⟨0x120D7, "CUNEIFORM SIGN GA2 TIMES ", "ISH PLUS HU PLUS ASH,KAK,KASKAL,KID,KID PLUS LAL"⟩,
    ⟨0x120DC, "CUNEIFORM SIGN GA2 TIMES ", "KU3 PLUS AN,LA,ME PLUS EN,MI,NUN,NUN OVER NUN,PA,SAL"⟩,
    ⟨0x120E4, "CUNEIFORM SIGN GA2 TIMES ", "SAR,SHE,SHE PLUS TUR,SHID,SUM,TAK4,U,UD,UD PLUS DU"⟩,
    ⟨0x120ED, "CUNEIFORM SIGN ", "GA2 OVER GA2,GABA,GABA CROSSING GABA"⟩,
    ⟨0x120F0, "CUNEIFORM SIGN ", "GAD,GAD OVER GAD GAR OVER GAR,GAL,GAL GAD OVER GAD GAR OVER GAR"⟩,
    ⟨0x120F4, "CUNEIFORM SIGN ", "GALAM,GAM,GAN,GAN2,GAN2 TENU,GAN2 OVER GAN2"⟩,
    ⟨0x120FA, "CUNEIFORM SIGN ", "GAN2 CROSSING GAN2,GAR,GAR3,GASHAN,GESHTIN,GESHTIN TIMES KUR,GI"⟩,
    ⟨0x12101, "CUNEIFORM SIGN GI ", "TIMES E,TIMES U,CROSSING GI"⟩,
    ⟨0x12104, "CUNEIFORM SIGN ", "GI4,GI4 OVER GI4,GI4 CROSSING GI4,GIDIM,GIR2,GIR2 GUNU,GIR3"⟩,
    ⟨0x1210B, "CUNEIFORM SIGN GIR3 TIMES ", "A PLUS IGI,GAN2 TENU,IGI,LU PLUS IGI,PA"⟩,
    ⟨0x12110, "CUNEIFORM SIGN ", "GISAL,GISH,GISH CROSSING GISH"⟩,
    ⟨0x12113, "CUNEIFORM SIGN ", "GISH TIMES BAD,GISH TIMES TAK4,GISH TENU,GU,GU CROSSING GU,GU2"⟩,
    ⟨0x12119, "CUNEIFORM SIGN GU2 TIMES ", "KAK,KAK TIMES IGI GUNU,NUN,SAL PLUS TUG2"⟩,
    ⟨0x1211D, "CUNEIFORM SIGN ", "GU2 GUNU,GUD"⟩,
    ⟨0x1211F, "CUNEIFORM SIGN ", "GUD TIMES A PLUS KUR,GUD TIMES KUR,GUD OVER GUD LUGAL,GUL,GUM"⟩,
    ⟨0x12124, "CUNEIFORM SIGN ", "GUM TIMES SHE,GUR,GUR7,GURUN,GURUSH,HA,HA TENU,HA GUNU,HAL,HI"⟩,
    ⟨0x1212E, "CUNEIFORM SIGN HI TIMES ", "ASH,ASH2,BAD,DISH,GAD,KIN,NUN,SHE,U"⟩,
    ⟨0x12137, "CUNEIFORM SIGN ", "HU,HUB2"⟩,
    ⟨0x12139, "CUNEIFORM SIGN HUB2 TIMES ", "AN,HAL,KASKAL,LISH,UD"⟩,
    ⟨0x1213E, "CUNEIFORM SIGN ", "HUL2,I,I A,IB,IDIM,IDIM OVER IDIM BUR,IDIM OVER IDIM SQUARED"⟩,
    ⟨0x12145, "CUNEIFORM SIGN ", "IG,IGI,IGI DIB,IGI RI,IGI OVER IGI SHIR OVER SHIR UD OVER UD"⟩,
    ⟨0x1214A, "CUNEIFORM SIGN ", "IGI GUNU,IL,IL TIMES GAN2 TENU,IL2,IM,IM TIMES TAK4"⟩,
    ⟨0x12150, "CUNEIFORM SIGN ", "IM CROSSING IM,IM OPPOSING IM,IM SQUARED,IMIN,IN,IR,ISH,KA"⟩,
    ⟨0x12158, "CUNEIFORM SIGN KA TIMES ", "A,AD,AD PLUS KU3,ASH2,BAD,BALAG,BAR,BI,ERIN2"⟩,
    ⟨0x12161, "CUNEIFORM SIGN KA TIMES ", "ESH2,GA,GAL,GAN2 TENU,GAR,GAR PLUS SHA3 PLUS A,GI"⟩,
    ⟨0x12168, "CUNEIFORM SIGN KA TIMES ", "GIR2,GISH PLUS SAR,GISH CROSSING GISH,GU,GUR7,IGI,IM"⟩,
    ⟨0x1216F, "CUNEIFORM SIGN KA TIMES ", "KAK,KI,KID,LI,LU,ME,ME PLUS DU,ME PLUS GI,ME PLUS TE"⟩,
    ⟨0x12178, "CUNEIFORM SIGN KA TIMES ", "MI,MI PLUS NUNUZ,NE,NUN,PI,RU,SA,SAR,SHA,SHE"⟩,
    ⟨0x12182, "CUNEIFORM SIGN KA TIMES ", "SHID,SHU,SIG,SUHUR,TAR,U,U2,UD,UMUM TIMES PA,USH,ZI"⟩,
    ⟨0x1218D, "CUNEIFORM SIGN ", "KA2,KA2 CROSSING KA2,KAB,KAD2,KAD3,KAD4,KAD5,KAD5 OVER KAD5"⟩,
    ⟨0x12195, "CUNEIFORM SIGN ", "KAK,KAK TIMES IGI GUNU,KAL,KAL TIMES BAD,KAL CROSSING KAL"⟩,
    ⟨0x1219A, "CUNEIFORM SIGN ", "KAM2,KAM4,KASKAL,KASKAL LAGAB TIMES U OVER LAGAB TIMES U"⟩,
    ⟨0x1219E, "CUNEIFORM SIGN ", "KASKAL OVER KASKAL LAGAB TIMES U OVER LAGAB TIMES U,KESH2,KI"⟩,
    ⟨0x121A1, "CUNEIFORM SIGN KI TIMES ", "BAD,U,UD"⟩,
    ⟨0x121A4, "CUNEIFORM SIGN ", "KID,KIN,KISAL,KISH,KISIM5,KISIM5 OVER KISIM5"⟩,
    ⟨0x121AA, "CUNEIFORM SIGN ", "KU,KU OVER HI TIMES ASH2 KU OVER HI TIMES ASH2"⟩,
    ⟨0x121AC, "CUNEIFORM SIGN ", "KU3,KU4,KU4 VARIANT FORM,KU7"⟩,
    ⟨0x121B0, "CUNEIFORM SIGN ", "KUL,KUL GUNU,KUN,KUR,KUR OPPOSING KUR,KUSHU2,KWU318,LA,LAGAB"⟩,
    ⟨0x121B9, "CUNEIFORM SIGN LAGAB TIMES ", "A,A PLUS DA PLUS HA,A PLUS GAR,A PLUS LAL,AL,AN"⟩,
    ⟨0x121BF, "CUNEIFORM SIGN LAGAB TIMES ", "ASH ZIDA TENU,BAD,BI,DAR,EN,GA,GAR,GUD,GUD PLUS GUD"⟩,
    ⟨0x121C8, "CUNEIFORM SIGN LAGAB TIMES ", "HA,HAL,HI TIMES NUN,IGI GUNU,IM,IM PLUS HA"⟩,
    ⟨0x121CE, "CUNEIFORM SIGN LAGAB TIMES ", "IM PLUS LU,KI,KIN,KU3,KUL,KUL PLUS HI PLUS A,LAGAB"⟩,
    ⟨0x121D5, "CUNEIFORM SIGN LAGAB TIMES ", "LISH,LU,LUL,ME,ME PLUS EN,MUSH,NE,SHE PLUS SUM"⟩,
    ⟨0x121DD, "CUNEIFORM SIGN LAGAB TIMES SHITA PLUS GISH ", "PLUS ERIN2,TENU"⟩,
    ⟨0x121DF, "CUNEIFORM SIGN LAGAB TIMES ", "SHU2,SHU2 PLUS SHU2"⟩,
    ⟨0x121E1, "CUNEIFORM SIGN LAGAB TIMES ", "SUM,TAG,TAK4,TE PLUS A PLUS SU PLUS NA"⟩,
    ⟨0x121E5, "CUNEIFORM SIGN LAGAB TIMES ", "U,U PLUS A,U PLUS U PLUS U,U2 PLUS ASH,UD,USH"⟩,
    ⟨0x121EB, "CUNEIFORM SIGN ", "LAGAB SQUARED,LAGAR,LAGAR TIMES SHE"⟩,
    ⟨0x121EE, "CUNEIFORM SIGN LAGAR ", "TIMES SHE PLUS SUM,GUNU,GUNU OVER LAGAR GUNU SHE"⟩,
    ⟨0x121F1, "CUNEIFORM SIGN ", "LAHSHU,LAL,LAL TIMES LAL,LAM,LAM TIMES KUR"⟩,
    ⟨0x121F6, "CUNEIFORM SIGN ", "LAM TIMES KUR PLUS RU,LI,LIL,LIMMU2,LISH,LU,LU TIMES BAD,LU2"⟩,
    ⟨0x121FE, "CUNEIFORM SIGN LU2 TIMES ", "AL,BAD,ESH2,ESH2 TENU,GAN2 TENU,HI TIMES BAD"⟩,
    ⟨0x12204, "CUNEIFORM SIGN LU2 TIMES ", "IM,KAD2,KAD3,KAD3 PLUS ASH,KI,LA PLUS ASH"⟩,
    ⟨0x1220A, "CUNEIFORM SIGN LU2 TIMES ", "LAGAB,ME PLUS EN,NE,NU,SI PLUS ASH,SIK2 PLUS BU,TUG2"⟩,
    ⟨0x12211, "CUNEIFORM SIGN LU2 ", "TENU,CROSSING LU2,OPPOSING LU2,SQUARED,SHESHIG"⟩,
    ⟨0x12216, "CUNEIFORM SIGN ", "LU3,LUGAL,LUGAL OVER LUGAL,LUGAL OPPOSING LUGAL,LUGAL SHESHIG"⟩,
    ⟨0x1221B, "CUNEIFORM SIGN ", "LUH,LUL,LUM,LUM OVER LUM,LUM OVER LUM GAR OVER GAR"⟩,
    ⟨0x12220, "CUNEIFORM SIGN ", "MA,MA TIMES TAK4,MA GUNU,MA2,MAH,MAR,MASH,MASH2,ME,MES,MI"⟩,
    ⟨0x1222B, "CUNEIFORM SIGN ", "MIN,MU,MU OVER MU,MUG,MUG GUNU,MUNSUB,MURGU2,MUSH,MUSH TIMES A"⟩,
    ⟨0x12234, "CUNEIFORM SIGN MUSH ", "TIMES KUR,TIMES ZA,OVER MUSH,OVER MUSH TIMES A PLUS NA"⟩,
    ⟨0x12238, "CUNEIFORM SIGN ", "MUSH CROSSING MUSH,MUSH3,MUSH3 TIMES A"⟩,
    ⟨0x1223B, "CUNEIFORM SIGN ", "MUSH3 TIMES A PLUS DI,MUSH3 TIMES DI,MUSH3 GUNU,NA,NA2,NAGA"⟩,
    ⟨0x12241, "CUNEIFORM SIGN NAGA ", "INVERTED,TIMES SHU TENU,OPPOSING NAGA"⟩,
    ⟨0x12244, "CUNEIFORM SIGN ", "NAGAR,NAM NUTILLU,NAM,NAM2,NE,NE TIMES A,NE TIMES UD"⟩,
    ⟨0x1224B, "CUNEIFORM SIGN ", "NE SHESHIG,NI,NI TIMES E,NI2,NIM,NIM TIMES GAN2 TENU"⟩,
    ⟨0x12251, "CUNEIFORM SIGN ", "NIM TIMES GAR PLUS GAN2 TENU,NINDA2,NINDA2 TIMES AN"⟩,
    ⟨0x12254, "CUNEIFORM SIGN NINDA2 TIMES ", "ASH,ASH PLUS ASH,GUD,ME PLUS GAN2 TENU,NE,NUN,SHE"⟩,
    ⟨0x1225B, "CUNEIFORM SIGN NINDA2 TIMES SHE PLUS ", "A AN,ASH,ASH PLUS ASH"⟩,
    ⟨0x1225E, "CUNEIFORM SIGN ", "NINDA2 TIMES U2 PLUS ASH,NINDA2 TIMES USH,NISAG,NU,NU11,NUN"⟩,
    ⟨0x12264, "CUNEIFORM SIGN NUN LAGAR TIMES ", "GAR,MASH,SAL,SAL OVER NUN LAGAR TIMES SAL,USH"⟩,
    ⟨0x12269, "CUNEIFORM SIGN NUN ", "TENU,OVER NUN,CROSSING NUN,CROSSING NUN LAGAR OVER LAGAR"⟩,
    ⟨0x1226D, "", "CUNEIFORM SIGN NUNUZ"⟩,
    ⟨0x1226E, "CUNEIFORM SIGN NUNUZ AB2 TIMES ", "ASHGAB,BI,DUG,GUD,IGI GUNU,KAD3,LA,NE,SILA3,U2"⟩,
    ⟨0x12278, "CUNEIFORM SIGN NUNUZ KISIM5 TIMES ", "BI,BI U"⟩,
    ⟨0x1227A, "CUNEIFORM SIGN ", "PA,PAD,PAN,PAP,PESH2,PI"⟩,
    ⟨0x12280, "CUNEIFORM SIGN PI TIMES ", "A,AB,BI,BU,E,I,IB,U,U2"⟩,
    ⟨0x12289, "CUNEIFORM SIGN ", "PI CROSSING PI,PIRIG"⟩,
    ⟨0x1228B, "CUNEIFORM SIGN PIRIG TIMES ", "KAL,UD,ZA"⟩,
    ⟨0x1228E, "CUNEIFORM SIGN ", "PIRIG OPPOSING PIRIG,RA,RAB,RI,RU,SA,SAG NUTILLU,SAG"⟩,
    ⟨0x12296, "CUNEIFORM SIGN SAG TIMES ", "A,DU,DUB,HA,KAK,KUR,LUM,MI,NUN,SAL,SHID,TAB,U2,UB,UM"⟩,
    ⟨0x122A5, "CUNEIFORM SIGN SAG ", "TIMES UR,TIMES USH,OVER SAG,GUNU"⟩,
    ⟨0x122A9, "CUNEIFORM SIGN ", "SAL,SAL LAGAB TIMES ASH2,SANGA2,SAR,SHA,SHA3"⟩,
    ⟨0x122AF, "CUNEIFORM SIGN SHA3 TIMES ", "A,BAD,GISH,NE,SHU2,TUR,U,U PLUS A"⟩,
    ⟨0x122B7, "CUNEIFORM SIGN ", "SHA6,SHAB6,SHAR2,SHE"⟩,
    ⟨0x122BB, "CUNEIFORM SIGN SHE ", "HU,OVER SHE GAD OVER GAD GAR OVER GAR"⟩,
    ⟨0x122BD, "CUNEIFORM SIGN ", "SHE OVER SHE TAB OVER TAB GAR OVER GAR,SHEG9"⟩,
    ⟨0x122BF, "CUNEIFORM SIGN ", "SHEN,SHESH,SHESH2,SHESHLAM,SHID,SHID TIMES A,SHID TIMES IM,SHIM"⟩,
    ⟨0x122C7, "CUNEIFORM SIGN SHIM TIMES ", "A,BAL,BULUG,DIN,GAR,IGI,IGI GUNU,KUSHU2,LUL,MUG,SAL"⟩,
    ⟨0x122D2, "CUNEIFORM SIGN ", "SHINIG,SHIR,SHIR TENU,SHIR OVER SHIR BUR OVER BUR"⟩,
    ⟨0x122D6, "CUNEIFORM SIGN ", "SHITA,SHU,SHU OVER INVERTED SHU,SHU2,SHUBUR,SI,SI GUNU,SIG,SIG4"⟩,
    ⟨0x122DF, "CUNEIFORM SIGN ", "SIG4 OVER SIG4 SHU2,SIK2,SILA3,SU,SU OVER SU,SUD,SUD2,SUHUR,SUM"⟩,
    ⟨0x122E8, "CUNEIFORM SIGN ", "SUMASH,SUR,SUR9,TA,TA ASTERISK,TA TIMES HI,TA TIMES MI,TA GUNU"⟩,
    ⟨0x122F0, "CUNEIFORM SIGN ", "TAB,TAB OVER TAB NI OVER NI DISH OVER DISH,TAB SQUARED,TAG"⟩,
    ⟨0x122F4, "CUNEIFORM SIGN TAG TIMES ", "BI,GUD,SHE,SHU,TUG2,UD"⟩,
    ⟨0x122FA, "CUNEIFORM SIGN ", "TAK4,TAR,TE,TE GUNU,TI,TI TENU,TIL,TIR,TIR TIMES TAK4"⟩,
    ⟨0x12303, "CUNEIFORM SIGN TIR OVER ", "TIR,TIR GAD OVER GAD GAR OVER GAR"⟩,
    ⟨0x12305, "CUNEIFORM SIGN ", "TU,TUG2,TUK,TUM,TUR,TUR OVER TUR ZA OVER ZA,U,U GUD,U U U"⟩,
    ⟨0x1230E, "CUNEIFORM SIGN U OVER U ", "PA OVER PA GAR OVER GAR,SUR OVER SUR"⟩,
    ⟨0x12310, "CUNEIFORM SIGN ", "U OVER U U REVERSED OVER U REVERSED,U2,UB,UD,UD KUSHU2"⟩,
    ⟨0x12315, "CUNEIFORM SIGN UD TIMES ", "BAD,MI,U PLUS U PLUS U,U PLUS U PLUS U GUNU"⟩,
    ⟨0x12319, "CUNEIFORM SIGN ", "UD GUNU,UD SHESHIG,UD SHESHIG TIMES BAD,UDUG,UM"⟩,
    ⟨0x1231E, "CUNEIFORM SIGN UM TIMES ", "LAGAB,ME PLUS DA,SHA3,U"⟩,
    ⟨0x12322, "CUNEIFORM SIGN ", "UMBIN,UMUM,UMUM TIMES KASKAL"⟩,
    ⟨0x12325, "CUNEIFORM SIGN ", "UMUM TIMES PA,UN,UN GUNU,UR,UR CROSSING UR,UR SHESHIG,UR2"⟩,
    ⟨0x1232C, "CUNEIFORM SIGN UR2 TIMES ", "A PLUS HA,A PLUS NA,AL,HA,NUN,U2,U2 PLUS ASH"⟩,
    ⟨0x12333, "CUNEIFORM SIGN ", "UR2 TIMES U2 PLUS BI,UR4,URI,URI3,URU"⟩,
    ⟨0x12338, "CUNEIFORM SIGN URU TIMES ", "A,ASHGAB,BAR,DUN,GA,GAL,GAN2 TENU,GAR,GU,HA,IGI"⟩,
    ⟨0x12343, "CUNEIFORM SIGN URU TIMES ", "IM,ISH,KI,LUM,MIN,PA,SHE,SIG4,TU,U PLUS GUD,UD,URUDA"⟩,
    ⟨0x1234F, "CUNEIFORM SIGN ", "URUDA,URUDA TIMES U,USH,USH TIMES A,USH TIMES KU,USH TIMES KUR"⟩,
    ⟨0x12355, "CUNEIFORM SIGN ", "USH TIMES TAK4,USHX,USH2,USHUMX,UTUKI,UZ3,UZ3 TIMES KASKAL"⟩,
    ⟨0x1235C, "CUNEIFORM SIGN ", "UZU,ZA,ZA TENU,ZA SQUARED TIMES KUR,ZAG,ZAMX,ZE2"⟩,
    ⟨0x12363, "CUNEIFORM SIGN ", "ZI,ZI OVER ZI,ZI3,ZIB,ZIB KABA TENU,ZIG,ZIZ2,ZU,ZU5,ZU5 TIMES A"⟩,
    ⟨0x1236D, "CUNEIFORM SIGN ", "ZUBUR,ZUM,KAP ELAMITE,AB TIMES NUN,AB2 TIMES A,AMAR TIMES KUG"⟩,
    ⟨0x12373, "CUNEIFORM SIGN ", "DAG KISIM5 TIMES U2 PLUS MASH,DAG3,DISH PLUS SHU,DUB TIMES SHE"⟩,
    ⟨0x12377, "CUNEIFORM SIGN EZEN TIMES ", "GUD,SHE"⟩,
    ⟨0x12379, "CUNEIFORM SIGN ", "GA2 TIMES AN PLUS KAK PLUS A,GA2 TIMES ASH2,GE22,GIG,HUSH"⟩,
    ⟨0x1237E, "CUNEIFORM SIGN KA TIMES ", "ANSHE,ASH3,GISH,GUD,HI TIMES ASH2,LUM,PA,SHUL,TU,UR2"⟩,
    ⟨0x12388, "CUNEIFORM SIGN ", "LAGAB TIMES GI,LU2 SHESHIG TIMES BAD,LU2 TIMES ESH2 PLUS LAL"⟩,
    ⟨0x1238B, "CUNEIFORM SIGN ", "LU2 TIMES SHU,MESH,MUSH3 TIMES ZA,NA4,NIN,NIN9"⟩,
    ⟨0x12391, "CUNEIFORM SIGN ", "NINDA2 TIMES BAL,NINDA2 TIMES GI,NU11 ROTATED NINETY DEGREES"⟩,
    ⟨0x12394, "CUNEIFORM SIGN ", "PESH2 ASTERISK,PIR2,SAG TIMES IGI GUNU,TI2,UM TIMES ME,U U"⟩,
    ⟨0x12400, "CUNEIFORM NUMERIC SIGN ", "TWO ASH,THREE ASH,FOUR ASH,FIVE ASH,SIX ASH"⟩,
    ⟨0x12405, "CUNEIFORM NUMERIC SIGN ", "SEVEN ASH,EIGHT ASH,NINE ASH,THREE DISH,FOUR DISH"⟩,
    ⟨0x1240A, "CUNEIFORM NUMERIC SIGN ", "FIVE DISH,SIX DISH,SEVEN DISH,EIGHT DISH,NINE DISH"⟩,
    ⟨0x1240F, "CUNEIFORM NUMERIC SIGN ", "FOUR U,FIVE U,SIX U,SEVEN U,EIGHT U,NINE U,ONE GESH2"⟩,
    ⟨0x12416, "CUNEIFORM NUMERIC SIGN ", "TWO GESH2,THREE GESH2,FOUR GESH2,FIVE GESH2,SIX GESH2"⟩,
    ⟨0x1241B, "CUNEIFORM NUMERIC SIGN ", "SEVEN GESH2,EIGHT GESH2,NINE GESH2,ONE GESHU,TWO GESHU"⟩,
    ⟨0x12420, "CUNEIFORM NUMERIC SIGN ", "THREE GESHU,FOUR GESHU,FIVE GESHU,TWO SHAR2,THREE SHAR2"⟩,
    ⟨0x12425, "CUNEIFORM NUMERIC SIGN ", "THREE SHAR2 VARIANT FORM,FOUR SHAR2,FIVE SHAR2"⟩,
    ⟨0x12428, "CUNEIFORM NUMERIC SIGN ", "SIX SHAR2,SEVEN SHAR2,EIGHT SHAR2,NINE SHAR2,ONE SHARU"⟩,
    ⟨0x1242D, "CUNEIFORM NUMERIC SIGN ", "TWO SHARU,THREE SHARU,THREE SHARU VARIANT FORM"⟩,
    ⟨0x12430, "CUNEIFORM NUMERIC SIGN ", "FOUR SHARU,FIVE SHARU,SHAR2 TIMES GAL PLUS DISH"⟩,
    ⟨0x12433, "CUNEIFORM NUMERIC SIGN ", "SHAR2 TIMES GAL PLUS MIN,ONE BURU,TWO BURU"⟩,
    ⟨0x12436, "CUNEIFORM NUMERIC SIGN ", "THREE BURU,THREE BURU VARIANT FORM,FOUR BURU,FIVE BURU"⟩,
    ⟨0x1243A, "CUNEIFORM NUMERIC SIGN THREE VARIANT FORM ", "ESH16,ESH21"⟩,
    ⟨0x1243C, "CUNEIFORM NUMERIC SIGN FOUR VARIANT FORM ", "LIMMU,LIMMU4,LIMMU A,LIMMU B"⟩,
    ⟨0x12440, "", "CUNEIFORM NUMERIC SIGN SIX VARIANT FORM ASH9"⟩,
    ⟨0x12441, "CUNEIFORM NUMERIC SIGN SEVEN VARIANT FORM ", "IMIN3,IMIN A,IMIN B"⟩,
    ⟨0x12444, "CUNEIFORM NUMERIC SIGN EIGHT VARIANT FORM ", "USSU,USSU3"⟩,
    ⟨0x12446, "CUNEIFORM NUMERIC SIGN NINE VARIANT FORM ", "ILIMMU,ILIMMU3,ILIMMU4,ILIMMU A"⟩,
    ⟨0x1244A, "CUNEIFORM NUMERIC SIGN ", "TWO ASH TENU,THREE ASH TENU,FOUR ASH TENU,FIVE ASH TENU"⟩,
    ⟨0x1244E, "CUNEIFORM NUMERIC SIGN ", "SIX ASH TENU,ONE BAN2,TWO BAN2,THREE BAN2,FOUR BAN2"⟩,
    ⟨0x12453, "CUNEIFORM NUMERIC SIGN ", "FOUR BAN2 VARIANT FORM,FIVE BAN2,FIVE BAN2 VARIANT FORM"⟩,
    ⟨0x12456, "CUNEIFORM NUMERIC SIGN ", "NIGIDAMIN,NIGIDAESH,ONE ESHE3,TWO ESHE3"⟩,
    ⟨0x1245A, "CUNEIFORM NUMERIC SIGN ", "ONE THIRD DISH,TWO THIRDS DISH,FIVE SIXTHS DISH"⟩,
    ⟨0x1245D, "CUNEIFORM NUMERIC SIGN ", "ONE THIRD VARIANT FORM A,TWO THIRDS VARIANT FORM A"⟩,
    ⟨0x1245F, "CUNEIFORM NUMERIC SIGN ", "ONE EIGHTH ASH,ONE QUARTER ASH,OLD ASSYRIAN ONE SIXTH"⟩,
    ⟨0x12462, "CUNEIFORM NUMERIC SIGN ", "OLD ASSYRIAN ONE QUARTER,ONE QUARTER GUR,ONE HALF GUR"⟩,
    ⟨0x12465, "CUNEIFORM NUMERIC SIGN ELAMITE ", "ONE THIRD,TWO THIRDS,FORTY,FIFTY"⟩,
    ⟨0x12469, "CUNEIFORM NUMERIC SIGN ", "FOUR U VARIANT FORM,FIVE U VARIANT FORM"⟩,
    ⟨0x1246B, "CUNEIFORM NUMERIC SIGN ", "SIX U VARIANT FORM,SEVEN U VARIANT FORM"⟩,
    ⟨0x1246D, "CUNEIFORM NUMERIC SIGN ", "EIGHT U VARIANT FORM,NINE U VARIANT FORM"⟩,
    ⟨0x12470, "CUNEIFORM PUNCTUATION SIGN ", "OLD ASSYRIAN WORD DIVIDER,VERTICAL COLON"⟩,
    ⟨0x12472, "CUNEIFORM PUNCTUATION SIGN DIAGONAL ", "COLON,TRICOLON,QUADCOLON"⟩,
    ⟨0x12480, "CUNEIFORM SIGN ", "AB TIMES NUN TENU,AB TIMES SHU2,AD TIMES ESH2"⟩,
    ⟨0x12483, "CUNEIFORM SIGN ", "BAD TIMES DISH TENU,BAHAR2 TIMES AB2,BAHAR2 TIMES NI"⟩,
    ⟨0x12486, "CUNEIFORM SIGN ", "BAHAR2 TIMES ZA,BU OVER BU TIMES NA2,DA TIMES TAK4"⟩,
    ⟨0x12489, "CUNEIFORM SIGN ", "DAG TIMES KUR,DIM TIMES IGI,DIM TIMES U U U,DIM2 TIMES UD"⟩,
    ⟨0x1248D, "CUNEIFORM SIGN DUG TIMES ", "ANSHE,ASH,ASH AT LEFT,DIN,DUN"⟩,
    ⟨0x12492, "CUNEIFORM SIGN DUG TIMES ", "ERIN2,GA,GI,GIR2 GUNU,GISH,HA,HI,IGI GUNU,KASKAL,KUR"⟩,
    ⟨0x1249C, "CUNEIFORM SIGN DUG TIMES ", "KUSHU2,KUSHU2 PLUS KASKAL,LAK-020,LAM,LAM TIMES KUR"⟩,
    ⟨0x124A1, "CUNEIFORM SIGN DUG TIMES ", "LUH PLUS GISH,MASH,MES,MI,NI,PI,SHE,SI GUNU"⟩,
    ⟨0x124A9, "CUNEIFORM SIGN ", "E2 TIMES KUR,E2 TIMES PAP,ERIN2 X,ESH2 CROSSING ESH2"⟩,
    ⟨0x124AD, "CUNEIFORM SIGN EZEN SHESHIG TIMES ", "ASH,HI,IGI GUNU,LA,LAL,ME,MES,SU"⟩,
    ⟨0x124B5, "CUNEIFORM SIGN ", "EZEN TIMES SU,GA2 TIMES BAHAR2"⟩,
    ⟨0x124B7, "CUNEIFORM SIGN GA2 TIMES ", "DIM GUNU,DUG TIMES IGI GUNU,DUG TIMES KASKAL,EREN,GA"⟩,
    ⟨0x124BC, "CUNEIFORM SIGN GA2 TIMES ", "GAR PLUS DI,GAR PLUS NE,HA PLUS A,KUSHU2 PLUS KASKAL"⟩,
    ⟨0x124C0, "CUNEIFORM SIGN GA2 TIMES ", "LAM,LAM TIMES KUR,LUH,MUSH,NE,NE PLUS E2,NE PLUS GI"⟩,
    ⟨0x124C7, "CUNEIFORM SIGN ", "GA2 TIMES SHIM,GA2 TIMES ZIZ2,GABA ROTATED NINETY DEGREES"⟩,
    ⟨0x124CA, "CUNEIFORM SIGN ", "GESHTIN TIMES U,GISH TIMES GISH CROSSING GISH"⟩,
    ⟨0x124CC, "CUNEIFORM SIGN ", "GU2 TIMES IGI GUNU,GUD PLUS GISH TIMES TAK4"⟩,
    ⟨0x124CE, "CUNEIFORM SIGN ", "HA TENU GUNU,HI TIMES ASH OVER HI TIMES ASH,KA TIMES BU"⟩,
    ⟨0x124D1, "CUNEIFORM SIGN ", "KA TIMES KA,KA TIMES U U U,KA TIMES UR,LAGAB TIMES ZU OVER ZU"⟩,
    ⟨0x124D5, "CUNEIFORM SIGN LAK-", "003,021,025,030,050,051,062,079 OVER LAK-079 GUNU"⟩,
    ⟨0x124DD, "CUNEIFORM SIGN LAK-", "080,081 OVER LAK-081,092,130,142,210,219,220,225,228"⟩,
    ⟨0x124E7, "CUNEIFORM SIGN LAK-", "238,265,266,343,347,348,383,384,390,441,449,449 TIMES GU"⟩,
    ⟨0x124F3, "CUNEIFORM SIGN LAK-449 TIMES ", "IGI,PAP PLUS LU3,PAP PLUS PAP PLUS LU3,U2 PLUS BA"⟩,
    ⟨0x124F7, "CUNEIFORM SIGN LAK-", "450,457,470,483,490,492,493,495,550,608,617"⟩,
    ⟨0x12502, "CUNEIFORM SIGN LAK-617 TIMES ", "ASH,BAD,DUN3 GUNU GUNU,KU3,LA,TAR,TE,U2,UD,URUDA"⟩,
    ⟨0x1250C, "CUNEIFORM SIGN LAK-", "636,648"⟩,
    ⟨0x1250E, "CUNEIFORM SIGN LAK-648 TIMES ", "DUB,GA,IGI,IGI GUNU"⟩,
    ⟨0x12512, "CUNEIFORM SIGN LAK-648 TIMES ", "NI,PAP PLUS PAP PLUS LU3,SHESH PLUS KI,UD,URUDA"⟩,
    ⟨0x12517, "CUNEIFORM SIGN ", "LAK-724,LAK-749,LU2 GUNU TIMES ASH"⟩,
    ⟨0x1251A, "CUNEIFORM SIGN LU2 TIMES ", "DISH,HAL,PAP,PAP PLUS PAP PLUS LU3,TAK4"⟩,
    ⟨0x1251F, "CUNEIFORM SIGN ", "MI PLUS ZA7,MUSH OVER MUSH TIMES GA,MUSH OVER MUSH TIMES KAK"⟩,
    ⟨0x12522, "CUNEIFORM SIGN NINDA2 TIMES ", "DIM GUNU,GISH,GUL,HI"⟩,
    ⟨0x12526, "CUNEIFORM SIGN NINDA2 TIMES ", "KESH2,LAK-050,MASH,PAP PLUS PAP,U,U PLUS U,URUDA"⟩,
    ⟨0x1252D, "CUNEIFORM SIGN SAG ", "GUNU TIMES HA,TIMES EN,TIMES SHE AT LEFT,TIMES TAK4"⟩,
    ⟨0x12531, "CUNEIFORM SIGN ", "SHA6 TENU,SHE OVER SHE,SHE PLUS HUB2,SHE PLUS NAM2,SHE PLUS SAR"⟩,
    ⟨0x12536, "CUNEIFORM SIGN ", "SHU2 PLUS DUG TIMES NI,SHU2 PLUS E2 TIMES AN,SI TIMES TAK4"⟩,
    ⟨0x12539, "CUNEIFORM SIGN ", "TAK4 PLUS SAG,TUM TIMES GAN2 TENU,TUM TIMES THREE DISH"⟩,
    ⟨0x1253C, "CUNEIFORM SIGN ", "UR2 INVERTED,UR2 TIMES UD,URU TIMES DARA3,URU TIMES LAK-668"⟩,
    ⟨0x12540, "CUNEIFORM SIGN ", "URU TIMES LU3,ZA7,ZU OVER ZU PLUS SAR,ZU5 TIMES THREE DISH TENU"⟩,
    ⟨0x12F90, "CYPRO-MINOAN SIGN ", "CM001,CM002,CM004,CM005,CM006,CM007,CM008,CM009,CM010"⟩,
    ⟨0x12F99, "CYPRO-MINOAN SIGN ", "CM011,CM012,CM012B,CM013,CM015,CM017,CM019,CM021,CM023,CM024"⟩,
    ⟨0x12FA3, "CYPRO-MINOAN SIGN ", "CM025,CM026,CM027,CM028,CM029,CM030,CM033,CM034,CM035,CM036"⟩,
    ⟨0x12FAD, "CYPRO-MINOAN SIGN ", "CM037,CM038,CM039,CM040,CM041,CM044,CM046,CM047,CM049,CM050"⟩,
    ⟨0x12FB7, "CYPRO-MINOAN SIGN ", "CM051,CM052,CM053,CM054,CM055,CM056,CM058,CM059,CM060,CM061"⟩,
    ⟨0x12FC1, "CYPRO-MINOAN SIGN ", "CM062,CM063,CM064,CM066,CM067,CM068,CM069,CM070,CM071,CM072"⟩,
    ⟨0x12FCB, "CYPRO-MINOAN SIGN ", "CM073,CM074,CM075,CM075B,CM076,CM078,CM079,CM080,CM081,CM082"⟩,
    ⟨0x12FD5, "CYPRO-MINOAN SIGN ", "CM083,CM084,CM085,CM086,CM087,CM088,CM089,CM090,CM091,CM092"⟩,
    ⟨0x12FDF, "CYPRO-MINOAN SIGN ", "CM094,CM095,CM096,CM097,CM098,CM099,CM100,CM101,CM102,CM103"⟩,
    ⟨0x12FE9, "CYPRO-MINOAN SIGN ", "CM104,CM105,CM107,CM108,CM109,CM110,CM112,CM114,CM301,CM302"⟩,
    ⟨0x13000, "EGYPTIAN HIEROGLYPH ", "A001,A002,A003"⟩,
    ⟨0x13003, "EGYPTIAN HIEROGLYPH ", "A004,A005,A005A,A006,A006A,A006B,A007,A008,A009,A010,A011"⟩,
    ⟨0x1300E, "EGYPTIAN HIEROGLYPH ", "A012,A013,A014,A014A,A015,A016,A017,A017A,A018,A019,A020"⟩,
    ⟨0x13019, "EGYPTIAN HIEROGLYPH ", "A021,A022,A023,A024,A025,A026,A027,A028,A029,A030,A031"⟩,
    ⟨0x13024, "EGYPTIAN HIEROGLYPH ", "A032,A032A,A033,A034,A035,A036,A037,A038,A039,A040,A040A"⟩,
    ⟨0x1302F, "EGYPTIAN HIEROGLYPH ", "A041,A042,A042A,A043,A043A,A044,A045,A045A,A046,A047,A048"⟩,
    ⟨0x1303A, "EGYPTIAN HIEROGLYPH ", "A049,A050,A051,A052,A053,A054,A055,A056,A057,A058,A059"⟩,
    ⟨0x13045, "EGYPTIAN HIEROGLYPH ", "A060,A061,A062,A063,A064,A065,A066,A067,A068,A069,A070"⟩,
    ⟨0x13050, "EGYPTIAN HIEROGLYPH ", "B001,B002,B003,B004,B005,B005A,B006,B007,B008,B009,C001"⟩,
    ⟨0x1305B, "EGYPTIAN HIEROGLYPH ", "C002,C002A,C002B,C002C,C003,C004,C005,C006,C007,C008,C009"⟩,
    ⟨0x13066, "EGYPTIAN HIEROGLYPH ", "C010,C010A,C011,C012,C013,C014,C015,C016,C017,C018,C019"⟩,
    ⟨0x13071, "EGYPTIAN HIEROGLYPH ", "C020,C021,C022,C023,C024,D001,D002,D003,D004,D005,D006"⟩,
    ⟨0x1307C, "EGYPTIAN HIEROGLYPH ", "D007,D008,D008A,D009,D010,D011,D012,D013,D014,D015,D016"⟩,
    ⟨0x13087, "EGYPTIAN HIEROGLYPH ", "D017,D018,D019,D020,D021,D022,D023,D024,D025,D026,D027"⟩,
    ⟨0x13092, "EGYPTIAN HIEROGLYPH ", "D027A,D028,D029,D030,D031,D031A,D032,D033,D034,D034A,D035"⟩,
    ⟨0x1309D, "EGYPTIAN HIEROGLYPH ", "D036,D037,D038,D039,D040,D041,D042,D043,D044,D045,D046"⟩,
    ⟨0x130A8, "EGYPTIAN HIEROGLYPH ", "D046A,D047,D048,D048A,D049,D050,D050A,D050B,D050C,D050D"⟩,
    ⟨0x130B2, "EGYPTIAN HIEROGLYPH ", "D050E,D050F,D050G,D050H,D050I,D051,D052,D052A,D053,D054"⟩,
    ⟨0x130BC, "EGYPTIAN HIEROGLYPH ", "D054A,D055,D056,D057,D058,D059,D060,D061,D062,D063,D064"⟩,
    ⟨0x130C7, "EGYPTIAN HIEROGLYPH ", "D065,D066,D067,D067A,D067B,D067C,D067D,D067E,D067F,D067G"⟩,
    ⟨0x130D1, "EGYPTIAN HIEROGLYPH ", "D067H,E001,E002,E003,E004,E005,E006,E007,E008,E008A,E009"⟩,
    ⟨0x130DC, "EGYPTIAN HIEROGLYPH ", "E009A,E010,E011,E012,E013,E014,E015,E016,E016A,E017,E017A"⟩,
    ⟨0x130E7, "EGYPTIAN HIEROGLYPH ", "E018,E019,E020,E020A,E021,E022,E023,E024,E025,E026,E027"⟩,
    ⟨0x130F2, "EGYPTIAN HIEROGLYPH ", "E028,E028A,E029,E030,E031,E032,E033,E034,E034A,E036,E037"⟩,
    ⟨0x130FD, "EGYPTIAN HIEROGLYPH ", "E038,F001,F001A,F002,F003,F004,F005,F006,F007,F008,F009"⟩,
    ⟨0x13108, "EGYPTIAN HIEROGLYPH ", "F010,F011,F012,F013,F013A,F014,F015,F016,F017,F018,F019"⟩,
    ⟨0x13113, "EGYPTIAN HIEROGLYPH ", "F020,F021,F021A,F022,F023,F024,F025,F026,F027,F028,F029"⟩,
    ⟨0x1311E, "EGYPTIAN HIEROGLYPH ", "F030,F031,F031A,F032,F033,F034,F035,F036,F037,F037A,F038"⟩,
    ⟨0x13129, "EGYPTIAN HIEROGLYPH ", "F038A,F039,F040,F041,F042,F043,F044,F045,F045A,F046,F046A"⟩,
    ⟨0x13134, "EGYPTIAN HIEROGLYPH ", "F047,F047A,F048,F049,F050,F051,F051A,F051B,F051C,F052"⟩,
    ⟨0x1313E, "EGYPTIAN HIEROGLYPH ", "F053,G001,G002,G003,G004,G005,G006,G006A,G007,G007A,G007B"⟩,
    ⟨0x13149, "EGYPTIAN HIEROGLYPH ", "G008,G009,G010,G011,G011A,G012,G013,G014,G015,G016,G017"⟩,
    ⟨0x13154, "EGYPTIAN HIEROGLYPH ", "G018,G019,G020,G020A,G021,G022,G023,G024,G025,G026,G026A"⟩,
    ⟨0x1315F, "EGYPTIAN HIEROGLYPH ", "G027,G028,G029,G030,G031,G032,G033,G034,G035,G036,G036A"⟩,
    ⟨0x1316A, "EGYPTIAN HIEROGLYPH ", "G037,G037A,G038,G039,G040,G041,G042,G043,G043A,G044,G045"⟩,
    ⟨0x13175, "EGYPTIAN HIEROGLYPH ", "G045A,G046,G047,G048,G049,G050,G051,G052,G053,G054,H001"⟩,
    ⟨0x13180, "EGYPTIAN HIEROGLYPH ", "H002,H003,H004,H005,H006,H006A,H007,H008,I001,I002,I003"⟩,
    ⟨0x1318B, "EGYPTIAN HIEROGLYPH ", "I004,I005,I005A,I006,I007,I008,I009,I009A,I010,I010A,I011"⟩,
    ⟨0x13196, "EGYPTIAN HIEROGLYPH ", "I011A,I012,I013,I014,I015,K001,K002,K003,K004,K005,K006"⟩,
    ⟨0x131A1, "EGYPTIAN HIEROGLYPH ", "K007,K008,L001,L002,L002A,L003,L004,L005,L006,L006A,L007"⟩,
    ⟨0x131AC, "EGYPTIAN HIEROGLYPH ", "L008,M001,M001A,M001B,M002,M003,M003A,M004,M005,M006,M007"⟩,
    ⟨0x131B7, "EGYPTIAN HIEROGLYPH ", "M008,M009,M010,M010A,M011,M012,M012A,M012B,M012C,M012D"⟩,
    ⟨0x131C1, "EGYPTIAN HIEROGLYPH ", "M012E,M012F,M012G,M012H,M013,M014,M015,M015A,M016,M016A"⟩,
    ⟨0x131CB, "EGYPTIAN HIEROGLYPH ", "M017,M017A,M018,M019,M020,M021,M022,M022A,M023,M024,M024A"⟩,
    ⟨0x131D6, "EGYPTIAN HIEROGLYPH ", "M025,M026,M027,M028,M028A,M029,M030,M031,M031A,M032,M033"⟩,
    ⟨0x131E1, "EGYPTIAN HIEROGLYPH ", "M033A,M033B,M034,M035,M036,M037,M038,M039,M040,M040A,M041"⟩,
    ⟨0x131EC, "EGYPTIAN HIEROGLYPH ", "M042,M043,M044,N001,N002,N003,N004,N005,N006,N007,N008"⟩,
    ⟨0x131F7, "EGYPTIAN HIEROGLYPH ", "N009,N010,N011,N012,N013,N014,N015,N016,N017,N018,N018A"⟩,
    ⟨0x13202, "EGYPTIAN HIEROGLYPH ", "N018B,N019,N020,N021,N022,N023,N024,N025,N025A,N026,N027"⟩,
    ⟨0x1320D, "EGYPTIAN HIEROGLYPH ", "N028,N029,N030,N031,N032,N033,N033A,N034,N034A,N035,N035A"⟩,
    ⟨0x13218, "EGYPTIAN HIEROGLYPH ", "N036,N037,N037A,N038,N039,N040,N041,N042,NL001,NL002,NL003"⟩,
    ⟨0x13223, "EGYPTIAN HIEROGLYPH ", "NL004,NL005,NL005A,NL006,NL007,NL008,NL009,NL010,NL011"⟩,
    ⟨0x1322C, "EGYPTIAN HIEROGLYPH ", "NL012,NL013,NL014,NL015,NL016,NL017,NL017A,NL018,NL019"⟩,
    ⟨0x13235, "EGYPTIAN HIEROGLYPH ", "NL020,NU001,NU002,NU003,NU004,NU005,NU006,NU007,NU008"⟩,
    ⟨0x1323E, "EGYPTIAN HIEROGLYPH ", "NU009,NU010,NU010A,NU011,NU011A,NU012,NU013,NU014,NU015"⟩,
    ⟨0x13247, "EGYPTIAN HIEROGLYPH ", "NU016,NU017,NU018,NU018A,NU019,NU020,NU021,NU022,NU022A"⟩,
    ⟨0x13250, "EGYPTIAN HIEROGLYPH ", "O001,O001A,O002,O003,O004,O005,O005A,O006,O006A,O006B"⟩,
    ⟨0x1325A, "EGYPTIAN HIEROGLYPH ", "O006C,O006D,O006E,O006F,O007,O008,O009,O010,O010A,O010B"⟩,
    ⟨0x13264, "EGYPTIAN HIEROGLYPH ", "O010C,O011,O012,O013,O014,O015,O016,O017,O018,O019,O019A"⟩,
    ⟨0x1326F, "EGYPTIAN HIEROGLYPH ", "O020,O020A,O021,O022,O023,O024,O024A,O025,O025A,O026,O027"⟩,
    ⟨0x1327A, "EGYPTIAN HIEROGLYPH ", "O028,O029,O029A,O030,O030A,O031,O032,O033,O033A,O034,O035"⟩,
    ⟨0x13285, "EGYPTIAN HIEROGLYPH ", "O036,O036A,O036B,O036C,O036D,O037,O038,O039,O040,O041,O042"⟩,
    ⟨0x13290, "EGYPTIAN HIEROGLYPH ", "O043,O044,O045,O046,O047,O048,O049,O050,O050A,O050B,O051"⟩,
    ⟨0x1329B, "EGYPTIAN HIEROGLYPH ", "P001,P001A,P002,P003,P003A,P004,P005,P006,P007,P008,P009"⟩,
    ⟨0x132A6, "EGYPTIAN HIEROGLYPH ", "P010,P011,Q001,Q002,Q003,Q004,Q005,Q006,Q007,R001,R002"⟩,
    ⟨0x132B1, "EGYPTIAN HIEROGLYPH ", "R002A,R003,R003A,R003B,R004,R005,R006,R007,R008,R009,R010"⟩,
    ⟨0x132BC, "EGYPTIAN HIEROGLYPH ", "R010A,R011,R012,R013,R014,R015,R016,R016A,R017,R018,R019"⟩,
    ⟨0x132C7, "EGYPTIAN HIEROGLYPH ", "R020,R021,R022,R023,R024,R025,R026,R027,R028,R029,S001"⟩,
    ⟨0x132D2, "EGYPTIAN HIEROGLYPH ", "S002,S002A,S003,S004,S005,S006,S006A,S007,S008,S009,S010"⟩,
    ⟨0x132DD, "EGYPTIAN HIEROGLYPH ", "S011,S012,S013,S014,S014A,S014B,S015,S016,S017,S017A,S018"⟩,
    ⟨0x132E8, "EGYPTIAN HIEROGLYPH ", "S019,S020,S021,S022,S023,S024,S025,S026,S026A,S026B,S027"⟩,
    ⟨0x132F3, "EGYPTIAN HIEROGLYPH ", "S028,S029,S030,S031,S032,S033,S034,S035,S035A,S036,S037"⟩,
    ⟨0x132FE, "EGYPTIAN HIEROGLYPH ", "S038,S039,S040,S041,S042,S043,S044,S045,S046,T001,T002"⟩,
    ⟨0x13309, "EGYPTIAN HIEROGLYPH ", "T003,T003A,T004,T005,T006,T007,T007A,T008,T008A,T009,T009A"⟩,
    ⟨0x13314, "EGYPTIAN HIEROGLYPH ", "T010,T011,T011A,T012,T013,T014,T015,T016,T016A,T017,T018"⟩,
    ⟨0x1331F, "EGYPTIAN HIEROGLYPH ", "T019,T020,T021,T022,T023,T024,T025,T026,T027,T028,T029"⟩,
    ⟨0x1332A, "EGYPTIAN HIEROGLYPH ", "T030,T031,T032,T032A,T033,T033A,T034,T035,T036,U001,U002"⟩,
    ⟨0x13335, "EGYPTIAN HIEROGLYPH ", "U003,U004,U005,U006,U006A,U006B,U007,U008,U009,U010,U011"⟩,
    ⟨0x13340, "EGYPTIAN HIEROGLYPH ", "U012,U013,U014,U015,U016,U017,U018,U019,U020,U021,U022"⟩,
    ⟨0x1334B, "EGYPTIAN HIEROGLYPH ", "U023,U023A,U024,U025,U026,U027,U028,U029,U029A,U030,U031"⟩,
    ⟨0x13356, "EGYPTIAN HIEROGLYPH ", "U032,U032A,U033,U034,U035,U036,U037,U038,U039,U040,U041"⟩,
    ⟨0x13361, "EGYPTIAN HIEROGLYPH ", "U042,V001,V001A,V001B,V001C,V001D,V001E,V001F,V001G,V001H"⟩,
    ⟨0x1336B, "EGYPTIAN HIEROGLYPH ", "V001I,V002,V002A,V003,V004,V005,V006,V007,V007A,V007B,V008"⟩,
    ⟨0x13376, "EGYPTIAN HIEROGLYPH ", "V009,V010,V011,V011A,V011B,V011C,V012,V012A,V012B,V013"⟩,
    ⟨0x13380, "EGYPTIAN HIEROGLYPH ", "V014,V015,V016,V017,V018,V019,V020,V020A,V020B,V020C,V020D"⟩,
    ⟨0x1338B, "EGYPTIAN HIEROGLYPH ", "V020E,V020F,V020G,V020H,V020I,V020J,V020K,V020L,V021,V022"⟩,
    ⟨0x13395, "EGYPTIAN HIEROGLYPH ", "V023,V023A,V024,V025,V026,V027,V028,V028A,V029,V029A,V030"⟩,
    ⟨0x133A0, "EGYPTIAN HIEROGLYPH ", "V030A,V031,V031A,V032,V033,V033A,V034,V035,V036,V037,V037A"⟩,
    ⟨0x133AB, "EGYPTIAN HIEROGLYPH ", "V038,V039,V040,V040A,W001,W002,W003,W003A,W004,W005,W006"⟩,
    ⟨0x133B6, "EGYPTIAN HIEROGLYPH ", "W007,W008,W009,W009A,W010,W010A,W011,W012,W013,W014,W014A"⟩,
    ⟨0x133C1, "EGYPTIAN HIEROGLYPH ", "W015,W016,W017,W017A,W018,W018A,W019,W020,W021,W022,W023"⟩,
    ⟨0x133CC, "EGYPTIAN HIEROGLYPH ", "W024,W024A,W025,X001,X002,X003,X004,X004A,X004B,X005,X006"⟩,
    ⟨0x133D7, "EGYPTIAN HIEROGLYPH ", "X006A,X007,X008,X008A,Y001,Y001A,Y002,Y003,Y004,Y005,Y006"⟩,
    ⟨0x133E2, "EGYPTIAN HIEROGLYPH ", "Y007,Y008,Z001,Z002,Z002A,Z002B,Z002C,Z002D,Z003,Z003A"⟩,
    ⟨0x133EC, "EGYPTIAN HIEROGLYPH ", "Z003B,Z004,Z004A,Z005,Z005A,Z006,Z007,Z008,Z009,Z010,Z011"⟩,
    ⟨0x133F7, "EGYPTIAN HIEROGLYPH ", "Z012,Z013,Z014,Z015,Z015A,Z015B,Z015C,Z015D,Z015E,Z015F"⟩,
    ⟨0x13401, "EGYPTIAN HIEROGLYPH ", "Z015G,Z015H,Z015I,Z016,Z016A,Z016B,Z016C,Z016D,Z016E,Z016F"⟩,
    ⟨0x1340B, "EGYPTIAN HIEROGLYPH ", "Z016G,Z016H,AA001,AA002,AA003,AA004,AA005,AA006,AA007"⟩,
    ⟨0x13414, "EGYPTIAN HIEROGLYPH ", "AA007A,AA007B,AA008,AA009,AA010,AA011,AA012,AA013,AA014"⟩,
    ⟨0x1341D, "EGYPTIAN HIEROGLYPH ", "AA015,AA016,AA017,AA018,AA019,AA020,AA021,AA022,AA023"⟩,
    ⟨0x13426, "EGYPTIAN HIEROGLYPH ", "AA024,AA025,AA026,AA027,AA028,AA029,AA030,AA031,AA032"⟩,
    ⟨0x13430, "EGYPTIAN HIEROGLYPH ", "VERTICAL JOINER,HORIZONTAL JOINER"⟩,
    ⟨0x13432, "EGYPTIAN HIEROGLYPH INSERT AT ", "TOP START,BOTTOM START,TOP END,BOTTOM END"⟩,
    ⟨0x13436, "EGYPTIAN HIEROGLYPH ", "OVERLAY MIDDLE,BEGIN SEGMENT,END SEGMENT"⟩,
    ⟨0x14400, "ANATOLIAN HIEROGLYPH ", "A001,A002,A003,A004,A005,A006"⟩,
    ⟨0x14406, "ANATOLIAN HIEROGLYPH ", "A007,A008,A009,A010,A010A,A011,A012,A013,A014,A015,A016"⟩,
    ⟨0x14411, "ANATOLIAN HIEROGLYPH ", "A017,A018,A019,A020,A021,A022,A023,A024,A025,A026,A026A"⟩,
    ⟨0x1441C, "ANATOLIAN HIEROGLYPH ", "A027,A028,A029,A030,A031,A032,A033,A034,A035,A036,A037"⟩,
    ⟨0x14427, "ANATOLIAN HIEROGLYPH ", "A038,A039,A039A,A040,A041,A041A,A042,A043,A044,A045,A045A"⟩,
    ⟨0x14432, "ANATOLIAN HIEROGLYPH ", "A046,A046A,A046B,A047,A048,A049,A050,A051,A052,A053,A054"⟩,
    ⟨0x1443D, "ANATOLIAN HIEROGLYPH ", "A055,A056,A057,A058,A059,A060,A061,A062,A063,A064,A065"⟩,
    ⟨0x14448, "ANATOLIAN HIEROGLYPH ", "A066,A066A,A066B,A066C,A067,A068,A069,A070,A071,A072,A073"⟩,
    ⟨0x14453, "ANATOLIAN HIEROGLYPH ", "A074,A075,A076,A077,A078,A079,A080,A081,A082,A083,A084"⟩,
    ⟨0x1445E, "ANATOLIAN HIEROGLYPH ", "A085,A086,A087,A088,A089,A090,A091,A092,A093,A094,A095"⟩,
    ⟨0x14469, "ANATOLIAN HIEROGLYPH ", "A096,A097,A097A,A098,A098A,A099,A100,A100A,A101,A101A"⟩,
    ⟨0x14473, "ANATOLIAN HIEROGLYPH ", "A102,A102A,A103,A104,A104A,A104B,A104C,A105,A105A,A105B"⟩,
    ⟨0x1447D, "ANATOLIAN HIEROGLYPH ", "A106,A107,A107A,A107B,A107C,A108,A109,A110,A110A,A110B"⟩,
    ⟨0x14487, "ANATOLIAN HIEROGLYPH ", "A111,A112,A113,A114,A115,A115A,A116,A117,A118,A119,A120"⟩,
    ⟨0x14492, "ANATOLIAN HIEROGLYPH ", "A121,A122,A123,A124,A125,A125A,A126,A127,A128,A129,A130"⟩,
    ⟨0x1449D, "ANATOLIAN HIEROGLYPH ", "A131,A132,A133,A134,A135,A135A,A136,A137,A138,A139,A140"⟩,
    ⟨0x144A8, "ANATOLIAN HIEROGLYPH ", "A141,A142,A143,A144,A145,A146,A147,A148,A149,A150,A151"⟩,
    ⟨0x144B3, "ANATOLIAN HIEROGLYPH ", "A152,A153,A154,A155,A156,A157,A158,A159,A160,A161,A162"⟩,
    ⟨0x144BE, "ANATOLIAN HIEROGLYPH ", "A163,A164,A165,A166,A167,A168,A169,A170,A171,A172,A173"⟩,
    ⟨0x144C9, "ANATOLIAN HIEROGLYPH ", "A174,A175,A176,A177,A178,A179,A180,A181,A182,A183,A184"⟩,
    ⟨0x144D4, "ANATOLIAN HIEROGLYPH ", "A185,A186,A187,A188,A189,A190,A191,A192,A193,A194,A195"⟩,
    ⟨0x144DF, "ANATOLIAN HIEROGLYPH ", "A196,A197,A198,A199,A200,A201,A202,A202A,A202B,A203,A204"⟩,
    ⟨0x144EA, "ANATOLIAN HIEROGLYPH ", "A205,A206,A207,A207A,A208,A209,A209A,A210,A211,A212,A213"⟩,
    ⟨0x144F5, "ANATOLIAN HIEROGLYPH ", "A214,A215,A215A,A216,A216A,A217,A218,A219,A220,A221,A222"⟩,
    ⟨0x14500, "ANATOLIAN HIEROGLYPH ", "A223,A224,A225,A226,A227,A227A,A228,A229,A230,A231,A232"⟩,
    ⟨0x1450B, "ANATOLIAN HIEROGLYPH ", "A233,A234,A235,A236,A237,A238,A239,A240,A241,A242,A243"⟩,
    ⟨0x14516, "ANATOLIAN HIEROGLYPH ", "A244,A245,A246,A247,A248,A249,A250,A251,A252,A253,A254"⟩,
    ⟨0x14521, "ANATOLIAN HIEROGLYPH ", "A255,A256,A257,A258,A259,A260,A261,A262,A263,A264,A265"⟩,
    ⟨0x1452C, "ANATOLIAN HIEROGLYPH ", "A266,A267,A267A,A268,A269,A270,A271,A272,A273,A274,A275"⟩,
    ⟨0x14537, "ANATOLIAN HIEROGLYPH ", "A276,A277,A278,A279,A280,A281,A282,A283,A284,A285,A286"⟩,
    ⟨0x14542, "ANATOLIAN HIEROGLYPH ", "A287,A288,A289,A289A,A290,A291,A292,A293,A294,A294A,A295"⟩,
    ⟨0x1454D, "ANATOLIAN HIEROGLYPH ", "A296,A297,A298,A299,A299A,A300,A301,A302,A303,A304,A305"⟩,
    ⟨0x14558, "ANATOLIAN HIEROGLYPH ", "A306,A307,A308,A309,A309A,A310,A311,A312,A313,A314,A315"⟩,
    ⟨0x14563, "ANATOLIAN HIEROGLYPH ", "A316,A317,A318,A319,A320,A321,A322,A323,A324,A325,A326"⟩,
    ⟨0x1456E, "ANATOLIAN HIEROGLYPH ", "A327,A328,A329,A329A,A330,A331,A332A,A332B,A332C,A333"⟩,
    ⟨0x14578, "ANATOLIAN HIEROGLYPH ", "A334,A335,A336,A336A,A336B,A336C,A337,A338,A339,A340,A341"⟩,
    ⟨0x14583, "ANATOLIAN HIEROGLYPH ", "A342,A343,A344,A345,A346,A347,A348,A349,A350,A351,A352"⟩,
    ⟨0x1458E, "ANATOLIAN HIEROGLYPH ", "A353,A354,A355,A356,A357,A358,A359,A359A,A360,A361,A362"⟩,
    ⟨0x14599, "ANATOLIAN HIEROGLYPH ", "A363,A364,A364A,A365,A366,A367,A368,A368A,A369,A370,A371"⟩,
    ⟨0x145A4, "ANATOLIAN HIEROGLYPH ", "A371A,A372,A373,A374,A375,A376,A377,A378,A379,A380,A381"⟩,
    ⟨0x145AF, "ANATOLIAN HIEROGLYPH ", "A381A,A382,A383 RA OR RI,A383A,A384,A385,A386,A386A,A387"⟩,
    ⟨0x145B8, "ANATOLIAN HIEROGLYPH ", "A388,A389,A390,A391,A392,A393 EIGHT,A394,A395,A396,A397"⟩,
    ⟨0x145C2, "ANATOLIAN HIEROGLYPH ", "A398,A399,A400,A401,A402,A403,A404,A405,A406,A407,A408"⟩,
    ⟨0x145CD, "ANATOLIAN HIEROGLYPH ", "A409,A410 BEGIN LOGOGRAM MARK,A410A END LOGOGRAM MARK"⟩,
    ⟨0x145D0, "ANATOLIAN HIEROGLYPH ", "A411,A412,A413,A414,A415,A416,A417,A418,A419"⟩,
    ⟨0x145D9, "ANATOLIAN HIEROGLYPH ", "A420,A421,A422,A423,A424,A425,A426,A427,A428,A429,A430"⟩,
    ⟨0x145E4, "ANATOLIAN HIEROGLYPH ", "A431,A432,A433,A434,A435,A436,A437,A438,A439,A440,A441"⟩,
    ⟨0x145EF, "ANATOLIAN HIEROGLYPH ", "A442,A443,A444,A445,A446,A447,A448,A449,A450,A450A,A451"⟩,
    ⟨0x145FA, "ANATOLIAN HIEROGLYPH ", "A452,A453,A454,A455,A456,A457,A457A,A458,A459,A460,A461"⟩,
    ⟨0x14605, "ANATOLIAN HIEROGLYPH ", "A462,A463,A464,A465,A466,A467,A468,A469,A470,A471,A472"⟩,
    ⟨0x14610, "ANATOLIAN HIEROGLYPH ", "A473,A474,A475,A476,A477,A478,A479,A480,A481,A482,A483"⟩,
    ⟨0x1461B, "ANATOLIAN HIEROGLYPH ", "A484,A485,A486,A487,A488,A489,A490,A491,A492,A493,A494"⟩,
    ⟨0x14626, "ANATOLIAN HIEROGLYPH ", "A495,A496,A497,A501,A502,A503,A504,A505,A506,A507,A508"⟩,
    ⟨0x14631, "ANATOLIAN HIEROGLYPH ", "A509,A510,A511,A512,A513,A514,A515,A516,A517,A518,A519"⟩,
    ⟨0x1463C, "ANATOLIAN HIEROGLYPH ", "A520,A521,A522,A523,A524,A525,A526,A527,A528,A529,A530"⟩,
    ⟨0x16800, "BAMUM LETTER PHASE-A ", "NGKUE MFON,GBIEE FON,PON MFON PIPAEMGBIEE"⟩,
    ⟨0x16803, "BAMUM LETTER PHASE-A ", "PON MFON PIPAEMBA,NAA MFON,SHUENSHUET"⟩,
    ⟨0x16806, "BAMUM LETTER PHASE-A ", "TITA MFON,NZA MFON,SHINDA PA NJI,PON PA NJI PIPAEMGBIEE"⟩,
    ⟨0x1680A, "BAMUM LETTER PHASE-A ", "PON PA NJI PIPAEMBA,MAEMBGBIEE,TU MAEMBA"⟩,
    ⟨0x1680D, "BAMUM LETTER PHASE-A ", "NGANGU,MAEMVEUX,MANSUAE,MVEUAENGAM,SEUNYAM,NTOQPEN"⟩,
    ⟨0x16813, "BAMUM LETTER PHASE-A ", "KEUKEUTNDA,NKINDI,SUU,NGKUENZEUM,LAPAQ,LET KUT,NTAP MFAA"⟩,
    ⟨0x1681A, "BAMUM LETTER PHASE-A ", "MAEKEUP,PASHAE,GHEUAERAE,PAMSHAE,MON NGGEUAET,NZUN MEUT"⟩,
    ⟨0x16820, "BAMUM LETTER PHASE-A ", "U YUQ NAE,GHEUAEGHEUAE,NTAP NTAA,SISA,MGBASA,MEUNJOMNDEUQ"⟩,
    ⟨0x16826, "BAMUM LETTER PHASE-A ", "MOOMPUQ,KAFA,PA LEERAEWA,NDA LEERAEWA,PET,MAEMKPEN,NIKA"⟩,
    ⟨0x1682D, "BAMUM LETTER PHASE-A ", "PUP,TUAEP,LUAEP,SONJAM,TEUTEUWEN,MAENYI,KET,NDAANGGEUAET"⟩,
    ⟨0x16835, "BAMUM LETTER PHASE-A ", "KUOQ,MOOMEUT,SHUM,LOMMAE,FIRI,ROM,KPOQ,SOQ,MAP PIEET"⟩,
    ⟨0x1683E, "BAMUM LETTER PHASE-A ", "SHIRAE,NTAP,SHOQ NSHUT YUM,NYIT MONGKEUAEQ,PAARAE"⟩,
    ⟨0x16843, "BAMUM LETTER PHASE-A ", "NKAARAE,UNKNOWN,NGGEN,MAESI,NJAM,MBANYI,NYET,TEUAEN"⟩,
    ⟨0x1684B, "BAMUM LETTER PHASE-A ", "SOT,PAAM,NSHIEE,MAEM,NYI,KAQ,NSHA,VEE,LU,NEN,NAQ,MBAQ"⟩,
    ⟨0x16857, "BAMUM LETTER PHASE-B ", "NSHUET,TU MAEMGBIEE,SIEE,SET TU,LOM NTEUM"⟩,
    ⟨0x1685C, "BAMUM LETTER PHASE-B ", "MBA MAELEE,KIEEM,YEURAE,MBAARAE,KAM,PEESHI,YAFU LEERAEWA"⟩,
    ⟨0x16863, "BAMUM LETTER PHASE-B ", "LAM NSHUT NYAM,NTIEE SHEUOQ,NDU NJAA,GHEUGHEUAEM"⟩,
    ⟨0x16867, "BAMUM LETTER PHASE-B ", "PIT,TU NSIEE,SHET NJAQ,SHEUAEQTU,MFON TEUAEQ,MBIT MBAAKET"⟩,
    ⟨0x1686D, "BAMUM LETTER PHASE-B ", "NYI NTEUM,KEUPUQ,GHEUGHEN,KEUYEUX,LAANAE,PARUM,VEUM"⟩,
    ⟨0x16874, "BAMUM LETTER PHASE-B ", "NGKINDI MVOP,NGGEU MBU,WUAET,SAKEUAE,TAAM,MEUQ,NGGUOQ"⟩,
    ⟨0x1687B, "BAMUM LETTER PHASE-B ", "NGGUOQ LARGE,MFIYAQ,SUE,MBEURI,MONTIEEN,NYAEMAE,PUNGAAM"⟩,
    ⟨0x16882, "BAMUM LETTER PHASE-B ", "MEUT NGGEET,FEUX,MBUOQ,FEE,KEUAEM,MA NJEUAENA,MA NJUQA"⟩,
    ⟨0x16889, "BAMUM LETTER PHASE-", "B LET,B NGGAAM,B NSEN,B MA,B KIQ,B NGOM,C NGKUE MAEMBA"⟩,
    ⟨0x16890, "BAMUM LETTER PHASE-C ", "NZA,YUM,WANGKUOQ,NGGEN,NDEUAEREE,NGKAQ,GHARAE"⟩,
    ⟨0x16897, "BAMUM LETTER PHASE-C ", "MBEEKEET,GBAYI,NYIR MKPARAQ MEUN,NTU MBIT,MBEUM,PIRIEEN"⟩,
    ⟨0x1689D, "BAMUM LETTER PHASE-C ", "NDOMBU,MBAA CABBAGE-TREE,KEUSHEUAEP,GHAP,KEUKAQ,YU MUOMAE"⟩,
    ⟨0x168A3, "BAMUM LETTER PHASE-C ", "NZEUM,MBUE,NSEUAEN,MBIT,YEUQ,KPARAQ,KAA,SEUX,NDIDA"⟩,
    ⟨0x168AC, "BAMUM LETTER PHASE-C ", "TAASHAE,NJUEQ,TITA YUE,SUAET,NGGUAEN NYAM,VEUX,NANSANAQ"⟩,
    ⟨0x168B3, "BAMUM LETTER PHASE-C ", "MA KEUAERI,NTAA,NGGUON,LAP,MBIRIEEN,MGBASAQ,NTEUNGBA"⟩,
    ⟨0x168BA, "BAMUM LETTER PHASE-C ", "TEUTEUX,NGGUM,FUE,NDEUT,NSA,NSHAQ,BUNG,VEUAEPEN,MBERAE,RU"⟩,
    ⟨0x168C4, "BAMUM LETTER PHASE-C ", "NJAEM,LAM,TITUAEP,NSUOT NGOM,NJEEEE,KET,NGGU,MAESI,MBUAEM"⟩,
    ⟨0x168CD, "BAMUM LETTER PHASE-C ", "LU,KUT,NJAM,NGOM,WUP,NGGUEET,NSOM,NTEN,KUOP NKAARAE"⟩,
    ⟨0x168D6, "BAMUM LETTER PHASE-C ", "NSUN,NDAM,MA NSIEE,YAA,NDAP,SHUEQ,SETFON,MBI,MAEMBA"⟩,
    ⟨0x168DF, "BAMUM LETTER PHASE-C ", "MBANYI,KEUSEUX,MBEUX,KEUM,MBAA PICKET,YUWOQ,NJEUX,MIEE"⟩,
    ⟨0x168E7, "BAMUM LETTER PHASE-C ", "MUAE,SHIQ,KEN LAW,KEN FATIGUE,NGAQ,NAQ,LIQ,PIN,PEN,TET"⟩,
    ⟨0x168F1, "BAMUM LETTER PHASE-D ", "MBUO,WAP,NJI,MFON,NJIEE,LIEE,NJEUT,NSHEE,NGGAAMAE"⟩,
    ⟨0x168FA, "BAMUM LETTER PHASE-D ", "NYAM,WUAEN,NGKUN,SHEE,NGKAP,KEUAETMEUN,TEUT,SHEUAE,NJAP"⟩,
    ⟨0x16903, "BAMUM LETTER PHASE-D ", "SUE,KET,YAEMMAE,KUOM,SAP,MFEUT,NDEUX,MALEERI,MEUT,SEUAEQ"⟩,
    ⟨0x1690D, "BAMUM LETTER PHASE-D ", "YEN,NJEUAEM,KEUOT MBUAE,NGKEURI,TU,GHAA,NGKYEE,FEUFEUAET"⟩,
    ⟨0x16915, "BAMUM LETTER PHASE-D ", "NDEE,MGBOFUM,LEUAEP,NDON,MONI,MGBEUN,PUUT,MGBIEE"⟩,
    ⟨0x1691D, "BAMUM LETTER PHASE-D ", "MFO,LUM,NSIEEP,MBAA,KWAET,NYET,TEUAEN,SOT,YUWOQ,KEUM"⟩,
    ⟨0x16927, "BAMUM LETTER PHASE-D ", "RAEM,TEEEE,NGKEUAEQ,MFEUAE,NSIEET,KEUP,PIP,PEUTAE,NYUE"⟩,
    ⟨0x16930, "BAMUM LETTER PHASE-D ", "LET,NGGAAM,MFIEE,NGGWAEN,YUOM,PAP,YUOP,NDAM,NTEUM,SUAE"⟩,
    ⟨0x1693A, "BAMUM LETTER PHASE-D ", "KUN,NGGEUX,NGKIEE,TUOT,MEUN,KUQ,NSUM,TEUN,MAENJET,NGGAP"⟩,
    ⟨0x16944, "BAMUM LETTER PHASE-D ", "LEUM,NGGUOM,NSHUT,NJUEQ,GHEUAE,KU,REN OLD,TAE,TOQ,NYI"⟩,
    ⟨0x1694E, "BAMUM LETTER PHASE-D ", "RII,LEEEE,MEEEE,M,SUU,MU,SHII,SHEUX,KYEE,NU,SHU,NTEE,PEE"⟩,
    ⟨0x1695B, "BAMUM LETTER PHASE-D ", "NI,SHOQ,PUQ,MVOP,LOQ,REN MUCH,TI,NTUU,MBAA SEVEN,SAQ,FAA"⟩,
    ⟨0x16966, "BAMUM LETTER PHASE-E ", "NDAP,TOON,MBEUM,LAP,VOM,LOON,PAA,SOM,RAQ,NSHUOP"⟩,
    ⟨0x16970, "BAMUM LETTER PHASE-E ", "NDUN,PUAE,TAM,NGKA,KPEUX,WUO,SEE,NGGEUAET,PAAM,TOO,KUOP"⟩,
    ⟨0x1697B, "BAMUM LETTER PHASE-E ", "LOM,NSHIEE,NGOP,MAEM,NGKEUX,NGOQ,NSHUE,RIMGBA,NJEUX,PEEM"⟩,
    ⟨0x16985, "BAMUM LETTER PHASE-E ", "SAA,NGGURAE,MGBA,GHEUX,NGKEUAEM,NJAEMLI,MAP,LOOT,NGGEEEE"⟩,
    ⟨0x1698E, "BAMUM LETTER PHASE-E ", "NDIQ,TAEN NTEUM,SET,PUM,NDAA SOFTNESS,NGGUAESHAE NYAM"⟩,
    ⟨0x16994, "BAMUM LETTER PHASE-E ", "YIEE,GHEUN,TUAE,YEUAE,PO,TUMAE,KEUAE,SUAEN"⟩,
    ⟨0x1699C, "BAMUM LETTER PHASE-E ", "TEUAEQ,VEUAE,WEUX,LAAM,PU,TAAQ,GHAAMAE,NGEUREUT,SHEUAEQ"⟩,
    ⟨0x169A5, "BAMUM LETTER PHASE-E ", "MGBEN,MBEE,NZAQ,NKOM,GBET,TUM,KUET,YAP,NYI CLEAVER"⟩,
    ⟨0x169AE, "BAMUM LETTER PHASE-E ", "YIT,MFEUQ,NDIAQ,PIEEQ,YUEQ,LEUAEM,FUE,GBEUX,NGKUP,KET,MAE"⟩,
    ⟨0x169B9, "BAMUM LETTER PHASE-E ", "NGKAAMI,GHET,FA,NTUM,PEUT,YEUM,NGGEUAE,NYI BETWEEN,NZUQ"⟩,
    ⟨0x169C2, "BAMUM LETTER PHASE-E ", "POON,MIEE,FUET,NAE,MUAE,GHEUAE,FU I,MVI,PUAQ,NGKUM,KUT"⟩,
    ⟨0x169CD, "BAMUM LETTER PHASE-E ", "PIET,NTAP,YEUAET,NGGUP,PA PEOPLE,FU CALL,FOM,NJEE,A,TOQ"⟩,
    ⟨0x169D7, "BAMUM LETTER PHASE-E ", "O,I,LAQ,PA PLURAL,TAA,TAQ,NDAA MY HOUSE,SHIQ,YEUX,NGUAE"⟩,
    ⟨0x169E1, "BAMUM LETTER PHASE-E ", "YUAEN,YOQ SWIMMING,YOQ COVER,YUQ,YUN,KEUX,PEUX,NJEE EPOCH"⟩,
    ⟨0x169E9, "BAMUM LETTER PHASE-E ", "PUE,WUE,FEE,VEE,LU,MI,REUX,RAE,NGUAET,NGA,SHO,SHOQ"⟩,
    ⟨0x169F5, "BAMUM LETTER PHASE-E ", "FU REMEDY,NA,PI,LOQ,KO,MEN,MA,MAQ,TEU,KI,MON,TEN,FAQ,GHOM"⟩,
    ⟨0x16A03, "BAMUM LETTER PHASE-F ", "KA,U,KU,EE,REE,TAE,NYI,LA,RII,RIEE,MEEEE,TAA,NDAA,NJAEM"⟩,
    ⟨0x16A11, "BAMUM LETTER PHASE-F ", "M,SUU,SHII,SI,SEUX,KYEE,KET,NUAE,NU,NJUAE,YOQ,SHU,YA,NSHA"⟩,
    ⟨0x16A1F, "BAMUM LETTER PHASE-F ", "PEUX,NTEE,WUE,PEE,RU,NI,REUX,KEN,NGKWAEN,NGGA,SHO,PUAE"⟩,
    ⟨0x16A2B, "BAMUM LETTER PHASE-F ", "FOM,WA,LI,LOQ,KO,MBEN,REN,MA,MO,MBAA,TET,KPA,SAMBA,VUEQ"⟩,
    ⟨0x16A40, "MRO LETTER ", "TA,NGI,YO,MIM,BA,DA,A,PHI,KHAI,HAO,DAI,CHU"⟩,
    ⟨0x16A4C, "MRO LETTER ", "KEAAE,OL,MAEM,NIN,PA,OO,O,RO,SHI,THEA,EA,WA,E,KO,LAN,LA,HAI,RI,TEK"⟩,
    ⟨0x16A60, "MRO DIGIT ", "ZERO,ONE,TWO,THREE,FOUR,FIVE,SIX,SEVEN,EIGHT,NINE"⟩,
    ⟨0x16A6E, "MRO ", "DANDA,DOUBLE DANDA"⟩,
    ⟨0x16A70, "TANGSA LETTER ", "OZ,OC,OQ,OX,AZ,AC,AQ,AX,VZ,VC,VQ,VX,EZ"⟩,
    ⟨0x16A7D, "TANGSA LETTER ", "EC,EQ,EX,IZ,IC,IQ,IX,UZ,UC,UQ,UX,AWZ,AWC,AWQ,AWX,UIZ,UIC,UIQ,UIX"⟩,
    ⟨0x16A90, "TANGSA LETTER ", "FINAL NG,LONG UEX,SHORT UEZ,SHORT AWX,UEC,UEZ,UEQ,UEX,UIUZ,UIUC"⟩,
    ⟨0x16A9A, "TANGSA LETTER ", "UIUQ,UIUX,MZ,MC,MQ,MX,KA,KHA,GA,NGA,SA,YA,WA,PA,NYA,PHA,BA,MA,NA"⟩,
    ⟨0x16AAD, "TANGSA LETTER ", "HA,LA,HTA,TA,DA,RA,NHA,SHA,CA,TSA,GHA,HTTA,THA,XA,FA,DHA,CHA,ZA"⟩,
    ⟨0x16AC0, "TANGSA DIGIT ", "ZERO,ONE,TWO,THREE,FOUR,FIVE,SIX,SEVEN,EIGHT,NINE"⟩,
    ⟨0x16AD0, "BASSA VAH LETTER ", "ENNI,KA,SE,FA,MBE,YIE,GAH,DHII,KPAH,JO,HWAH"⟩,
    ⟨0x16ADB, "BASSA VAH LETTER ", "WA,ZO,GBU,DO,CE,UWU,TO,BA,VU,YEIN,PA,WADDA,A,O,OO,U,EE,E,I"⟩,
    ⟨0x16AF0, "BASSA VAH COMBINING ", "HIGH TONE,LOW TONE,MID TONE,LOW-MID TONE,HIGH-LOW TONE"⟩,
    ⟨0x16AF5, "", "BASSA VAH FULL STOP"⟩,
    ⟨0x16B00, "PAHAWH HMONG VOWEL ", "KEEB,KEEV"⟩,
    ⟨0x16B02, "PAHAWH HMONG VOWEL ", "KIB,KIV,KAUB,KAUV,KUB,KUV,KEB,KEV,KAIB,KAIV,KOOB,KOOV,KAWB"⟩,
    ⟨0x16B0F, "PAHAWH HMONG VOWEL ", "KAWV,KUAB,KUAV,KOB,KOV,KIAB,KIAV,KAB,KAV,KWB,KWV,KAAB,KAAV"⟩,
    ⟨0x16B1C, "PAHAWH HMONG CONSONANT ", "VAU,NTSAU,LAU,HAU,NLAU,RAU,NKAU,QHAU"⟩,
    ⟨0x16B24, "PAHAWH HMONG CONSONANT ", "YAU,HLAU,MAU,CHAU,NCHAU,HNAU,PLHAU,NTHAU,NAU,AU,XAU,CAU"⟩,
    ⟨0x16B30, "PAHAWH HMONG MARK CIM ", "TUB,SO,KES,KHAV,SUAM,HOM,TAUM"⟩,
    ⟨0x16B37, "PAHAWH HMONG SIGN ", "VOS THOM,VOS TSHAB CEEB,CIM CHEEM,VOS THIAB,VOS FEEM"⟩,
    ⟨0x16B3C, "PAHAWH HMONG SIGN XYEEM ", "NTXIV,RHO,TOV,FAIB"⟩,
    ⟨0x16B40, "PAHAWH HMONG SIGN ", "VOS SEEV,MEEJ SUAB,VOS NRUA,IB YAM,XAUS,CIM TSOV ROG"⟩,
    ⟨0x16B50, "PAHAWH HMONG DIGIT ", "ZERO,ONE,TWO,THREE,FOUR,FIVE,SIX,SEVEN,EIGHT,NINE"⟩,
    ⟨0x16B5B, "PAHAWH HMONG NUMBER ", "TENS,HUNDREDS,TEN THOUSANDS"⟩,
    ⟨0x16B5E, "PAHAWH HMONG NUMBER ", "MILLIONS,HUNDRED MILLIONS,TEN BILLIONS,TRILLIONS"⟩,
    ⟨0x16B63, "", "PAHAWH HMONG SIGN VOS LUB"⟩,
    ⟨0x16B64, "PAHAWH HMONG SIGN ", "XYOO,HLI,THIRD-STAGE HLI,ZWJ THAJ,HNUB,NQIG,XIAB,NTUJ"⟩,
    ⟨0x16B6C, "PAHAWH HMONG SIGN ", "AV,TXHEEJ CEEV,MEEJ TSEEB,TAU,LOS,MUS,CIM HAIS LUS NTOG NTOG"⟩,
    ⟨0x16B73, "PAHAWH HMONG SIGN CIM ", "CUAM TSHOOJ,TXWV,TXWV CHWV,PUB DAWB,NRES TOS"⟩,
    ⟨0x16B7D, "PAHAWH HMONG CLAN SIGN ", "TSHEEJ,YEEG,LIS,LAUJ,XYOOJ,KOO,HAWJ"⟩,
    ⟨0x16B84, "PAHAWH HMONG CLAN SIGN ", "MUAS,THOJ,TSAB,PHAB,KHAB,HAM,VAJ,FAJ,YAJ,TSWB,KWM,VWJ"⟩,
    ⟨0x16E40, "MEDEFAIDRIN CAPITAL LETTER ", "M,S,V,W,ATIU,Z,KP,P,T"⟩,
    ⟨0x16E49, "MEDEFAIDRIN CAPITAL LETTER ", "G,F,I,K,A,J,E,B,C,U,YU,L,Q,HP,NY,X,D,OE,N,R,O,AI,Y"⟩,
    ⟨0x16E60, "MEDEFAIDRIN SMALL LETTER ", "M,S,V,W,ATIU,Z,KP,P"⟩,
    ⟨0x16E68, "MEDEFAIDRIN SMALL LETTER ", "T,G,F,I,K,A,J,E,B,C,U,YU,L,Q,HP,NY,X,D,OE,N,R,O,AI,Y"⟩,
    ⟨0x16E80, "MEDEFAIDRIN DIGIT ", "ZERO,ONE,TWO,THREE,FOUR,FIVE,SIX,SEVEN,EIGHT,NINE"⟩,
    ⟨0x16E8A, "MEDEFAIDRIN NUMBER ", "TEN,ELEVEN,TWELVE,THIRTEEN"⟩,
    ⟨0x16E8E, "MEDEFAIDRIN NUMBER ", "FOURTEEN,FIFTEEN,SIXTEEN,SEVENTEEN,EIGHTEEN,NINETEEN"⟩,
    ⟨0x16E94, "MEDEFAIDRIN DIGIT ", "ONE ALTERNATE FORM,TWO ALTERNATE FORM,THREE ALTERNATE FORM"⟩,
    ⟨0x16E97, "MEDEFAIDRIN ", "COMMA,FULL STOP,SYMBOL AIVA,EXCLAMATION OH"⟩,
    ⟨0x16F00, "MIAO LETTER ", "PA,BA,YI PA,PLA,MA,MHA,ARCHAIC MA,FA,VA"⟩,
    ⟨0x16F09, "MIAO LETTER ", "VFA,TA,DA,YI TTA,YI TA,TTA,DDA,NA,NHA,YI NNA,ARCHAIC NA,NNA,NNHA"⟩,
    ⟨0x16F16, "MIAO LETTER ", "LA,LYA,LHA,LHYA,TLHA,DLHA,TLHYA,DLHYA,KA,GA,YI KA,QA,QGA,NGA,NGHA"⟩,
    ⟨0x16F25, "MIAO LETTER ", "ARCHAIC NGA,HA,XA,GHA,GHHA,TSSA,DZZA,NYA,NYHA,TSHA,DZHA,YI TSHA"⟩,
    ⟨0x16F31, "MIAO LETTER ", "YI DZHA,REFORMED TSHA,SHA,SSA,ZHA,ZSHA,TSA,DZA,YI TSA,SA,ZA,ZSA"⟩,
    ⟨0x16F3D, "MIAO LETTER ", "ZZA,ZZSA,ARCHAIC ZZA,ZZYA,ZZSYA,WA,AH,HHA,BRI,SYI,DZYI,TE,TSE,RTE"⟩,
    ⟨0x16F4F, "MIAO ", "SIGN CONSONANT MODIFIER BAR,LETTER NASALIZATION,SIGN ASPIRATION"⟩,
    ⟨0x16F52, "MIAO SIGN REFORMED ", "VOICING,ASPIRATION"⟩,
    ⟨0x16F54, "MIAO VOWEL SIGN ", "A,AA,AHH,AN,ANG,O,OO,WO,W,E,EN,ENG,OEY,I,IA,IAN,IANG,IO,IE"⟩,
    ⟨0x16F67, "MIAO VOWEL SIGN ", "II,IU,ING,U,UA,UAN,UANG,UU,UEI,UNG,Y,YI,AE,AEE,ERR,ROUNDED ERR"⟩,
    ⟨0x16F77, "MIAO VOWEL SIGN ", "ER,ROUNDED ER,AI,EI,AU,OU,N,NG,UOG,YUI,OG,OER,VW,IG,EA,IONG,UI"⟩,
    ⟨0x16F8F, "MIAO TONE ", "RIGHT,TOP RIGHT,ABOVE,BELOW"⟩,
    ⟨0x16F93, "MIAO LETTER TONE-", "2,3,4,5,6,7,8"⟩,
    ⟨0x16F9A, "MIAO LETTER REFORMED TONE-", "1,2,4,5,6,8"⟩,
    ⟨0x16FE0, "", "TANGUT ITERATION MARK,NUSHU ITERATION MARK"⟩,
    ⟨0x16FE2, "", "OLD CHINESE HOOK MARK,OLD CHINESE ITERATION MARK,KHITAN SMALL SCRIPT FILLER"⟩,
    ⟨0x16FF0, "VIETNAMESE ALTERNATE READING MARK ", "CA,NHAY"⟩,
    ⟨0x18800, "TANGUT COMPONENT-", "001,002,003"⟩,
    ⟨0x18803, "TANGUT COMPONENT-", "004,005,006,007,008,009,010,011,012,013,014,015,016,017,018"⟩,
    ⟨0x18812, "TANGUT COMPONENT-", "019,020,021,022,023,024,025,026,027,028,029,030,031,032,033"⟩,
    ⟨0x18821, "TANGUT COMPONENT-", "034,035,036,037,038,039,040,041,042,043,044,045,046,047,048"⟩,
    ⟨0x18830, "TANGUT COMPONENT-", "049,050,051,052,053,054,055,056,057,058,059,060,061,062,063"⟩,
    ⟨0x1883F, "TANGUT COMPONENT-", "064,065,066,067,068,069,070,071,072,073,074,075,076,077,078"⟩,
    ⟨0x1884E, "TANGUT COMPONENT-", "079,080,081,082,083,084,085,086,087,088,089,090,091,092,093"⟩,
    ⟨0x1885D, "TANGUT COMPONENT-", "094,095,096,097,098,099,100,101,102,103,104,105,106,107,108"⟩,
    ⟨0x1886C, "TANGUT COMPONENT-", "109,110,111,112,113,114,115,116,117,118,119,120,121,122,123"⟩,
    ⟨0x1887B, "TANGUT COMPONENT-", "124,125,126,127,128,129,130,131,132,133,134,135,136,137,138"⟩,
    ⟨0x1888A, "TANGUT COMPONENT-", "139,140,141,142,143,144,145,146,147,148,149,150,151,152,153"⟩,
    ⟨0x18899, "TANGUT COMPONENT-", "154,155,156,157,158,159,160,161,162,163,164,165,166,167,168"⟩,
    ⟨0x188A8, "TANGUT COMPONENT-", "169,170,171,172,173,174,175,176,177,178,179,180,181,182,183"⟩,
    ⟨0x188B7, "TANGUT COMPONENT-", "184,185,186,187,188,189,190,191,192,193,194,195,196,197,198"⟩,
    ⟨0x188C6, "TANGUT COMPONENT-", "199,200,201,202,203,204,205,206,207,208,209,210,211,212,213"⟩,
    ⟨0x188D5, "TANGUT COMPONENT-", "214,215,216,217,218,219,220,221,222,223,224,225,226,227,228"⟩,
    ⟨0x188E4, "TANGUT COMPONENT-", "229,230,231,232,233,234,235,236,237,238,239,240,241,242,243"⟩,
    ⟨0x188F3, "TANGUT COMPONENT-", "244,245,246,247,248,249,250,251,252,253,254,255,256,257,258"⟩,
    ⟨0x18902, "TANGUT COMPONENT-", "259,260,261,262,263,264,265,266,267,268,269,270,271,272,273"⟩,
    ⟨0x18911, "TANGUT COMPONENT-", "274,275,276,277,278,279,280,281,282,283,284,285,286,287,288"⟩,
    ⟨0x18920, "TANGUT COMPONENT-", "289,290,291,292,293,294,295,296,297,298,299,300,301,302,303"⟩,
    ⟨0x1892F, "TANGUT COMPONENT-", "304,305,306,307,308,309,310,311,312,313,314,315,316,317,318"⟩,
    ⟨0x1893E, "TANGUT COMPONENT-", "319,320,321,322,323,324,325,326,327,328,329,330,331,332,333"⟩,
    ⟨0x1894D, "TANGUT COMPONENT-", "334,335,336,337,338,339,340,341,342,343,344,345,346,347,348"⟩,
    ⟨0x1895C, "TANGUT COMPONENT-", "349,350,351,352,353,354,355,356,357,358,359,360,361,362,363"⟩,
    ⟨0x1896B, "TANGUT COMPONENT-", "364,365,366,367,368,369,370,371,372,373,374,375,376,377,378"⟩,
    ⟨0x1897A, "TANGUT COMPONENT-", "379,380,381,382,383,384,385,386,387,388,389,390,391,392,393"⟩,
    ⟨0x18989, "TANGUT COMPONENT-", "394,395,396,397,398,399,400,401,402,403,404,405,406,407,408"⟩,
    ⟨0x18998, "TANGUT COMPONENT-", "409,410,411,412,413,414,415,416,417,418,419,420,421,422,423"⟩,
    ⟨0x189A7, "TANGUT COMPONENT-", "424,425,426,427,428,429,430,431,432,433,434,435,436,437,438"⟩,
    ⟨0x189B6, "TANGUT COMPONENT-", "439,440,441,442,443,444,445,446,447,448,449,450,451,452,453"⟩,
    ⟨0x189C5, "TANGUT COMPONENT-", "454,455,456,457,458,459,460,461,462,463,464,465,466,467,468"⟩,
    ⟨0x189D4, "TANGUT COMPONENT-", "469,470,471,472,473,474,475,476,477,478,479,480,481,482,483"⟩,
    ⟨0x189E3, "TANGUT COMPONENT-", "484,485,486,487,488,489,490,491,492,493,494,495,496,497,498"⟩,
    ⟨0x189F2, "TANGUT COMPONENT-", "499,500,501,502,503,504,505,506,507,508,509,510,511,512,513"⟩,
    ⟨0x18A01, "TANGUT COMPONENT-", "514,515,516,517,518,519,520,521,522,523,524,525,526,527,528"⟩,
    ⟨0x18A10, "TANGUT COMPONENT-", "529,530,531,532,533,534,535,536,537,538,539,540,541,542,543"⟩,
    ⟨0x18A1F, "TANGUT COMPONENT-", "544,545,546,547,548,549,550,551,552,553,554,555,556,557,558"⟩,
    ⟨0x18A2E, "TANGUT COMPONENT-", "559,560,561,562,563,564,565,566,567,568,569,570,571,572,573"⟩,
    ⟨0x18A3D, "TANGUT COMPONENT-", "574,575,576,577,578,579,580,581,582,583,584,585,586,587,588"⟩,
    ⟨0x18A4C, "TANGUT COMPONENT-", "589,590,591,592,593,594,595,596,597,598,599,600,601,602,603"⟩,
    ⟨0x18A5B, "TANGUT COMPONENT-", "604,605,606,607,608,609,610,611,612,613,614,615,616,617,618"⟩,
    ⟨0x18A6A, "TANGUT COMPONENT-", "619,620,621,622,623,624,625,626,627,628,629,630,631,632,633"⟩,
    ⟨0x18A79, "TANGUT COMPONENT-", "634,635,636,637,638,639,640,641,642,643,644,645,646,647,648"⟩,
    ⟨0x18A88, "TANGUT COMPONENT-", "649,650,651,652,653,654,655,656,657,658,659,660,661,662,663"⟩,
    ⟨0x18A97, "TANGUT COMPONENT-", "664,665,666,667,668,669,670,671,672,673,674,675,676,677,678"⟩,
    ⟨0x18AA6, "TANGUT COMPONENT-", "679,680,681,682,683,684,685,686,687,688,689,690,691,692,693"⟩,
    ⟨0x18AB5, "TANGUT COMPONENT-", "694,695,696,697,698,699,700,701,702,703,704,705,706,707,708"⟩,
    ⟨0x18AC4, "TANGUT COMPONENT-", "709,710,711,712,713,714,715,716,717,718,719,720,721,722,723"⟩,
    ⟨0x18AD3, "TANGUT COMPONENT-", "724,725,726,727,728,729,730,731,732,733,734,735,736,737,738"⟩,
    ⟨0x18AE2, "TANGUT COMPONENT-", "739,740,741,742,743,744,745,746,747,748,749,750,751,752,753"⟩,
    ⟨0x18AF1, "TANGUT COMPONENT-", "754,755,756,757,758,759,760,761,762,763,764,765,766,767,768"⟩,
    ⟨0x18B00, "KHITAN SMALL SCRIPT CHARACTER-", "18B00,18B01,18B02,18B03,18B04,18B05"⟩,
    ⟨0x18B06, "KHITAN SMALL SCRIPT CHARACTER-", "18B06,18B07,18B08,18B09,18B0A,18B0B,18B0C,18B0D"⟩,
    ⟨0x18B0E, "KHITAN SMALL SCRIPT CHARACTER-", "18B0E,18B0F,18B10,18B11,18B12,18B13,18B14,18B15"⟩,
    ⟨0x18B16, "KHITAN SMALL SCRIPT CHARACTER-", "18B16,18B17,18B18,18B19,18B1A,18B1B,18B1C,18B1D"⟩,
    ⟨0x18B1E, "KHITAN SMALL SCRIPT CHARACTER-", "18B1E,18B1F,18B20,18B21,18B22,18B23,18B24,18B25"⟩,
    ⟨0x18B26, "KHITAN SMALL SCRIPT CHARACTER-", "18B26,18B27,18B28,18B29,18B2A,18B2B,18B2C,18B2D"⟩,
    ⟨0x18B2E, "KHITAN SMALL SCRIPT CHARACTER-", "18B2E,18B2F,18B30,18B31,18B32,18B33,18B34,18B35"⟩,
    ⟨0x18B36, "KHITAN SMALL SCRIPT CHARACTER-", "18B36,18B37,18B38,18B39,18B3A,18B3B,18B3C,18B3D"⟩,
    ⟨0x18B3E, "KHITAN SMALL SCRIPT CHARACTER-", "18B3E,18B3F,18B40,18B41,18B42,18B43,18B44,18B45"⟩,
    ⟨0x18B46, "KHITAN SMALL SCRIPT CHARACTER-", "18B46,18B47,18B48,18B49,18B4A,18B4B,18B4C,18B4D"⟩,
    ⟨0x18B4E, "KHITAN SMALL SCRIPT CHARACTER-", "18B4E,18B4F,18B50,18B51,18B52,18B53,18B54,18B55"⟩,
    ⟨0x18B56, "KHITAN SMALL SCRIPT CHARACTER-", "18B56,18B57,18B58,18B59,18B5A,18B5B,18B5C,18B5D"⟩,
    ⟨0x18B5E, "KHITAN SMALL SCRIPT CHARACTER-", "18B5E,18B5F,18B60,18B61,18B62,18B63,18B64,18B65"⟩,
    ⟨0x18B66, "KHITAN SMALL SCRIPT CHARACTER-", "18B66,18B67,18B68,18B69,18B6A,18B6B,18B6C,18B6D"⟩,
    ⟨0x18B6E, "KHITAN SMALL SCRIPT CHARACTER-", "18B6E,18B6F,18B70,18B71,18B72,18B73,18B74,18B75"⟩,
    ⟨0x18B76, "KHITAN SMALL SCRIPT CHARACTER-", "18B76,18B77,18B78,18B79,18B7A,18B7B,18B7C,18B7D"⟩,
    ⟨0x18B7E, "KHITAN SMALL SCRIPT CHARACTER-", "18B7E,18B7F,18B80,18B81,18B82,18B83,18B84,18B85"⟩,
    ⟨0x18B86, "KHITAN SMALL SCRIPT CHARACTER-", "18B86,18B87,18B88,18B89,18B8A,18B8B,18B8C,18B8D"⟩,
    ⟨0x18B8E, "KHITAN SMALL SCRIPT CHARACTER-", "18B8E,18B8F,18B90,18B91,18B92,18B93,18B94,18B95"⟩,
    ⟨0x18B96, "KHITAN SMALL SCRIPT CHARACTER-", "18B96,18B97,18B98,18B99,18B9A,18B9B,18B9C,18B9D"⟩,
    ⟨0x18B9E, "KHITAN SMALL SCRIPT CHARACTER-", "18B9E,18B9F,18BA0,18BA1,18BA2,18BA3,18BA4,18BA5"⟩,
    ⟨0x18BA6, "KHITAN SMALL SCRIPT CHARACTER-", "18BA6,18BA7,18BA8,18BA9,18BAA,18BAB,18BAC,18BAD"⟩,
    ⟨0x18BAE, "KHITAN SMALL SCRIPT CHARACTER-", "18BAE,18BAF,18BB0,18BB1,18BB2,18BB3,18BB4,18BB5"⟩,
    ⟨0x18BB6, "KHITAN SMALL SCRIPT CHARACTER-", "18BB6,18BB7,18BB8,18BB9,18BBA,18BBB,18BBC,18BBD"⟩,
    ⟨0x18BBE, "KHITAN SMALL SCRIPT CHARACTER-", "18BBE,18BBF,18BC0,18BC1,18BC2,18BC3,18BC4,18BC5"⟩,
    ⟨0x18BC6, "KHITAN SMALL SCRIPT CHARACTER-", "18BC6,18BC7,18BC8,18BC9,18BCA,18BCB,18BCC,18BCD"⟩,
    ⟨0x18BCE, "KHITAN SMALL SCRIPT CHARACTER-", "18BCE,18BCF,18BD0,18BD1,18BD2,18BD3,18BD4,18BD5"⟩,
    ⟨0x18BD6, "KHITAN SMALL SCRIPT CHARACTER-", "18BD6,18BD7,18BD8,18BD9,18BDA,18BDB,18BDC,18BDD"⟩,
    ⟨0x18BDE, "KHITAN SMALL SCRIPT CHARACTER-", "18BDE,18BDF,18BE0,18BE1,18BE2,18BE3,18BE4,18BE5"⟩,
    ⟨0x18BE6, "KHITAN SMALL SCRIPT CHARACTER-", "18BE6,18BE7,18BE8,18BE9,18BEA,18BEB,18BEC,18BED"⟩,
    ⟨0x18BEE, "KHITAN SMALL SCRIPT CHARACTER-", "18BEE,18BEF,18BF0,18BF1,18BF2,18BF3,18BF4,18BF5"⟩,
    ⟨0x18BF6, "KHITAN SMALL SCRIPT CHARACTER-", "18BF6,18BF7,18BF8,18BF9,18BFA,18BFB,18BFC,18BFD"⟩,
    ⟨0x18BFE, "KHITAN SMALL SCRIPT CHARACTER-", "18BFE,18BFF,18C00,18C01,18C02,18C03,18C04,18C05"⟩,
    ⟨0x18C06, "KHITAN SMALL SCRIPT CHARACTER-", "18C06,18C07,18C08,18C09,18C0A,18C0B,18C0C,18C0D"⟩,
    ⟨0x18C0E, "KHITAN SMALL SCRIPT CHARACTER-", "18C0E,18C0F,18C10,18C11,18C12,18C13,18C14,18C15"⟩,
    ⟨0x18C16, "KHITAN SMALL SCRIPT CHARACTER-", "18C16,18C17,18C18,18C19,18C1A,18C1B,18C1C,18C1D"⟩,
    ⟨0x18C1E, "KHITAN SMALL SCRIPT CHARACTER-", "18C1E,18C1F,18C20,18C21,18C22,18C23,18C24,18C25"⟩,
    ⟨0x18C26, "KHITAN SMALL SCRIPT CHARACTER-", "18C26,18C27,18C28,18C29,18C2A,18C2B,18C2C,18C2D"⟩,
    ⟨0x18C2E, "KHITAN SMALL SCRIPT CHARACTER-", "18C2E,18C2F,18C30,18C31,18C32,18C33,18C34,18C35"⟩,
    ⟨0x18C36, "KHITAN SMALL SCRIPT CHARACTER-", "18C36,18C37,18C38,18C39,18C3A,18C3B,18C3C,18C3D"⟩,
    ⟨0x18C3E, "KHITAN SMALL SCRIPT CHARACTER-", "18C3E,18C3F,18C40,18C41,18C42,18C43,18C44,18C45"⟩,
    ⟨0x18C46, "KHITAN SMALL SCRIPT CHARACTER-", "18C46,18C47,18C48,18C49,18C4A,18C4B,18C4C,18C4D"⟩,
    ⟨0x18C4E, "KHITAN SMALL SCRIPT CHARACTER-", "18C4E,18C4F,18C50,18C51,18C52,18C53,18C54,18C55"⟩,
    ⟨0x18C56, "KHITAN SMALL SCRIPT CHARACTER-", "18C56,18C57,18C58,18C59,18C5A,18C5B,18C5C,18C5D"⟩,
    ⟨0x18C5E, "KHITAN SMALL SCRIPT CHARACTER-", "18C5E,18C5F,18C60,18C61,18C62,18C63,18C64,18C65"⟩,
    ⟨0x18C66, "KHITAN SMALL SCRIPT CHARACTER-", "18C66,18C67,18C68,18C69,18C6A,18C6B,18C6C,18C6D"⟩,
    ⟨0x18C6E, "KHITAN SMALL SCRIPT CHARACTER-", "18C6E,18C6F,18C70,18C71,18C72,18C73,18C74,18C75"⟩,
    ⟨0x18C76, "KHITAN SMALL SCRIPT CHARACTER-", "18C76,18C77,18C78,18C79,18C7A,18C7B,18C7C,18C7D"⟩,
    ⟨0x18C7E, "KHITAN SMALL SCRIPT CHARACTER-", "18C7E,18C7F,18C80,18C81,18C82,18C83,18C84,18C85"⟩,
    ⟨0x18C86, "KHITAN SMALL SCRIPT CHARACTER-", "18C86,18C87,18C88,18C89,18C8A,18C8B,18C8C,18C8D"⟩,
    ⟨0x18C8E, "KHITAN SMALL SCRIPT CHARACTER-", "18C8E,18C8F,18C90,18C91,18C92,18C93,18C94,18C95"⟩,
    ⟨0x18C96, "KHITAN SMALL SCRIPT CHARACTER-", "18C96,18C97,18C98,18C99,18C9A,18C9B,18C9C,18C9D"⟩,
    ⟨0x18C9E, "KHITAN SMALL SCRIPT CHARACTER-", "18C9E,18C9F,18CA0,18CA1,18CA2,18CA3,18CA4,18CA5"⟩,
    ⟨0x18CA6, "KHITAN SMALL SCRIPT CHARACTER-", "18CA6,18CA7,18CA8,18CA9,18CAA,18CAB,18CAC,18CAD"⟩,
    ⟨0x18CAE, "KHITAN SMALL SCRIPT CHARACTER-", "18CAE,18CAF,18CB0,18CB1,18CB2,18CB3,18CB4,18CB5"⟩,
    ⟨0x18CB6, "KHITAN SMALL SCRIPT CHARACTER-", "18CB6,18CB7,18CB8,18CB9,18CBA,18CBB,18CBC,18CBD"⟩,
    ⟨0x18CBE, "KHITAN SMALL SCRIPT CHARACTER-", "18CBE,18CBF,18CC0,18CC1,18CC2,18CC3,18CC4,18CC5"⟩,
    ⟨0x18CC6, "KHITAN SMALL SCRIPT CHARACTER-", "18CC6,18CC7,18CC8,18CC9,18CCA,18CCB,18CCC,18CCD"⟩,
    ⟨0x18CCE, "KHITAN SMALL SCRIPT CHARACTER-", "18CCE,18CCF,18CD0,18CD1,18CD2,18CD3,18CD4,18CD5"⟩
  ]

end MemoryAtlas.Text.Name
