import MemoryAtlas.Text.Characters

/-!
Names of characters from U+19000 to U+1E7FF: kana, music and mathematical letters.
-/

namespace MemoryAtlas.Text.Name

def musical : List Block :=
  [
    ⟨0x1AFF0, "KATAKANA LETTER MINNAN TONE-", "2,3,4,5"⟩,
    ⟨0x1AFF5, "KATAKANA LETTER MINNAN TONE-", "7,8"⟩,
    ⟨0x1AFF7, "KATAKANA LETTER MINNAN NASALIZED TONE-", "1,2,3,4,5"⟩,
    ⟨0x1AFFD, "KATAKANA LETTER MINNAN NASALIZED TONE-", "7,8"⟩,
    ⟨0x1B000, "", "KATAKANA LETTER ARCHAIC E,HIRAGANA LETTER ARCHAIC YE"⟩,
    ⟨0x1B002, "HENTAIGANA LETTER ", "A-1,A-2,A-3,A-WO,I-1,I-2"⟩,
    ⟨0x1B008, "HENTAIGANA LETTER ", "I-3,I-4,U-1,U-2,U-3,U-4,U-5,E-2,E-3,E-4,E-5,E-6,O-1,O-2,O-3"⟩,
    ⟨0x1B017, "HENTAIGANA LETTER KA-", "1,2,3,4,5,6,7,8,9,10,11,KE"⟩,
    ⟨0x1B023, "HENTAIGANA LETTER KI-", "1,2,3,4,5,6,7,8"⟩,
    ⟨0x1B02B, "HENTAIGANA LETTER KU-", "1,2,3,4,5,6,7"⟩,
    ⟨0x1B032, "HENTAIGANA LETTER ", "KE-1,KE-2,KE-3,KE-4,KE-5,KE-6,KO-1,KO-2,KO-3,KO-KI,SA-1,SA-2"⟩,
    ⟨0x1B03E, "HENTAIGANA LETTER ", "SA-3,SA-4,SA-5,SA-6,SA-7,SA-8,SI-1,SI-2,SI-3,SI-4,SI-5,SI-6"⟩,
    ⟨0x1B04A, "HENTAIGANA LETTER ", "SU-1,SU-2,SU-3,SU-4,SU-5,SU-6,SU-7,SU-8,SE-1,SE-2,SE-3,SE-4"⟩,
    ⟨0x1B056, "HENTAIGANA LETTER ", "SE-5,SO-1,SO-2,SO-3,SO-4,SO-5,SO-6,SO-7,TA-1,TA-2,TA-3,TA-4"⟩,
    ⟨0x1B062, "HENTAIGANA LETTER ", "TI-1,TI-2,TI-3,TI-4,TI-5,TI-6,TI-7,TU-1,TU-2,TU-3,TU-4,TU-TO"⟩,
    ⟨0x1B06E, "HENTAIGANA LETTER TE-", "1,2,3,4,5,6,7,8,9"⟩,
    ⟨0x1B077, "HENTAIGANA LETTER TO-", "1,2,3,4,5,6,RA"⟩,
    ⟨0x1B07E, "HENTAIGANA LETTER NA-", "1,2,3,4,5,6,7,8,9"⟩,
    ⟨0x1B087, "HENTAIGANA LETTER ", "NI-1,NI-2,NI-3,NI-4,NI-5,NI-6,NI-7,NI-TE,NU-1,NU-2,NU-3"⟩,
    ⟨0x1B092, "HENTAIGANA LETTER ", "NE-1,NE-2,NE-3,NE-4,NE-5,NE-6,NE-KO,NO-1,NO-2,NO-3,NO-4,NO-5"⟩,
    ⟨0x1B09E, "HENTAIGANA LETTER HA-", "1,2,3,4,5,6,7,8,9,10,11"⟩,
    ⟨0x1B0A9, "HENTAIGANA LETTER ", "HI-1,HI-2,HI-3,HI-4,HI-5,HI-6,HI-7,HU-1,HU-2,HU-3,HE-1,HE-2"⟩,
    ⟨0x1B0B5, "HENTAIGANA LETTER ", "HE-3,HE-4,HE-5,HE-6,HE-7,HO-1,HO-2,HO-3,HO-4,HO-5,HO-6,HO-7"⟩,
    ⟨0x1B0C1, "HENTAIGANA LETTER ", "HO-8,MA-1,MA-2,MA-3,MA-4,MA-5,MA-6,MA-7,MI-1,MI-2,MI-3,MI-4"⟩,
    ⟨0x1B0CD, "HENTAIGANA LETTER ", "MI-5,MI-6,MI-7,MU-1,MU-2,MU-3,MU-4,ME-1,ME-2,ME-MA,MO-1,MO-2"⟩,
    ⟨0x1B0D9, "HENTAIGANA LETTER ", "MO-3,MO-4,MO-5,MO-6,YA-1,YA-2,YA-3,YA-4,YA-5,YA-YO,YU-1,YU-2"⟩,
    ⟨0x1B0E5, "HENTAIGANA LETTER ", "YU-3,YU-4,YO-1,YO-2,YO-3,YO-4,YO-5,YO-6,RA-1,RA-2,RA-3,RA-4"⟩,
    ⟨0x1B0F1, "HENTAIGANA LETTER ", "RI-1,RI-2,RI-3,RI-4,RI-5,RI-6,RI-7,RU-1,RU-2,RU-3,RU-4,RU-5"⟩,
    ⟨0x1B0FD, "HENTAIGANA LETTER ", "RU-6,RE-1,RE-2,RE-3,RE-4,RO-1,RO-2,RO-3,RO-4,RO-5,RO-6,WA-1"⟩,
    ⟨0x1B109, "HENTAIGANA LETTER ", "WA-2,WA-3,WA-4,WA-5,WI-1,WI-2,WI-3,WI-4,WI-5,WE-1,WE-2,WE-3"⟩,
    ⟨0x1B115, "HENTAIGANA LETTER ", "WE-4,WO-1,WO-2,WO-3,WO-4,WO-5,WO-6,WO-7,N-MU-MO-1,N-MU-MO-2"⟩,
    ⟨0x1B11F, "", "HIRAGANA LETTER ARCHAIC WU"⟩,
    ⟨0x1B120, "KATAKANA LETTER ARCHAIC ", "YI,YE,WU"⟩,
    ⟨0x1B150, "HIRAGANA LETTER SMALL ", "WI,WE,WO"⟩,
    ⟨0x1B164, "KATAKANA LETTER SMALL ", "WI,WE,WO,N"⟩,
    ⟨0x1B170, "NUSHU CHARACTER-", "1B170,1B171,1B172,1B173,1B174,1B175"⟩,
    ⟨0x1B176, "NUSHU CHARACTER-", "1B176,1B177,1B178,1B179,1B17A,1B17B,1B17C,1B17D,1B17E,1B17F"⟩,
    ⟨0x1B180, "NUSHU CHARACTER-", "1B180,1B181,1B182,1B183,1B184,1B185,1B186,1B187,1B188,1B189"⟩,
    ⟨0x1B18A, "NUSHU CHARACTER-", "1B18A,1B18B,1B18C,1B18D,1B18E,1B18F,1B190,1B191,1B192,1B193"⟩,
    ⟨0x1B194, "NUSHU CHARACTER-", "1B194,1B195,1B196,1B197,1B198,1B199,1B19A,1B19B,1B19C,1B19D"⟩,
    ⟨0x1B19E, "NUSHU CHARACTER-", "1B19E,1B19F,1B1A0,1B1A1,1B1A2,1B1A3,1B1A4,1B1A5,1B1A6,1B1A7"⟩,
    ⟨0x1B1A8, "NUSHU CHARACTER-", "1B1A8,1B1A9,1B1AA,1B1AB,1B1AC,1B1AD,1B1AE,1B1AF,1B1B0,1B1B1"⟩,
    ⟨0x1B1B2, "NUSHU CHARACTER-", "1B1B2,1B1B3,1B1B4,1B1B5,1B1B6,1B1B7,1B1B8,1B1B9,1B1BA,1B1BB"⟩,
    ⟨0x1B1BC, "NUSHU CHARACTER-", "1B1BC,1B1BD,1B1BE,1B1BF,1B1C0,1B1C1,1B1C2,1B1C3,1B1C4,1B1C5"⟩,
    ⟨0x1B1C6, "NUSHU CHARACTER-", "1B1C6,1B1C7,1B1C8,1B1C9,1B1CA,1B1CB,1B1CC,1B1CD,1B1CE,1B1CF"⟩,
    ⟨0x1B1D0, "NUSHU CHARACTER-", "1B1D0,1B1D1,1B1D2,1B1D3,1B1D4,1B1D5,1B1D6,1B1D7,1B1D8,1B1D9"⟩,
    ⟨0x1B1DA, "NUSHU CHARACTER-", "1B1DA,1B1DB,1B1DC,1B1DD,1B1DE,1B1DF,1B1E0,1B1E1,1B1E2,1B1E3"⟩,
    ⟨0x1B1E4, "NUSHU CHARACTER-", "1B1E4,1B1E5,1B1E6,1B1E7,1B1E8,1B1E9,1B1EA,1B1EB,1B1EC,1B1ED"⟩,
    ⟨0x1B1EE, "NUSHU CHARACTER-", "1B1EE,1B1EF,1B1F0,1B1F1,1B1F2,1B1F3,1B1F4,1B1F5,1B1F6,1B1F7"⟩,
    ⟨0x1B1F8, "NUSHU CHARACTER-", "1B1F8,1B1F9,1B1FA,1B1FB,1B1FC,1B1FD,1B1FE,1B1FF,1B200,1B201"⟩,
    ⟨0x1B202, "NUSHU CHARACTER-", "1B202,1B203,1B204,1B205,1B206,1B207,1B208,1B209,1B20A,1B20B"⟩,
    ⟨0x1B20C, "NUSHU CHARACTER-", "1B20C,1B20D,1B20E,1B20F,1B210,1B211,1B212,1B213,1B214,1B215"⟩,
    ⟨0x1B216, "NUSHU CHARACTER-", "1B216,1B217,1B218,1B219,1B21A,1B21B,1B21C,1B21D,1B21E,1B21F"⟩,
    ⟨0x1B220, "NUSHU CHARACTER-", "1B220,1B221,1B222,1B223,1B224,1B225,1B226,1B227,1B228,1B229"⟩,
    ⟨0x1B22A, "NUSHU CHARACTER-", "1B22A,1B22B,1B22C,1B22D,1B22E,1B22F,1B230,1B231,1B232,1B233"⟩,
    ⟨0x1B234, "NUSHU CHARACTER-", "1B234,1B235,1B236,1B237,1B238,1B239,1B23A,1B23B,1B23C,1B23D"⟩,
    ⟨0x1B23E, "NUSHU CHARACTER-", "1B23E,1B23F,1B240,1B241,1B242,1B243,1B244,1B245,1B246,1B247"⟩,
    ⟨0x1B248, "NUSHU CHARACTER-", "1B248,1B249,1B24A,1B24B,1B24C,1B24D,1B24E,1B24F,1B250,1B251"⟩,
    ⟨0x1B252, "NUSHU CHARACTER-", "1B252,1B253,1B254,1B255,1B256,1B257,1B258,1B259,1B25A,1B25B"⟩,
    ⟨0x1B25C, "NUSHU CHARACTER-", "1B25C,1B25D,1B25E,1B25F,1B260,1B261,1B262,1B263,1B264,1B265"⟩,
    ⟨0x1B266, "NUSHU CHARACTER-", "1B266,1B267,1B268,1B269,1B26A,1B26B,1B26C,1B26D,1B26E,1B26F"⟩,
    ⟨0x1B270, "NUSHU CHARACTER-", "1B270,1B271,1B272,1B273,1B274,1B275,1B276,1B277,1B278,1B279"⟩,
    ⟨0x1B27A, "NUSHU CHARACTER-", "1B27A,1B27B,1B27C,1B27D,1B27E,1B27F,1B280,1B281,1B282,1B283"⟩,
    ⟨0x1B284, "NUSHU CHARACTER-", "1B284,1B285,1B286,1B287,1B288,1B289,1B28A,1B28B,1B28C,1B28D"⟩,
    ⟨0x1B28E, "NUSHU CHARACTER-", "1B28E,1B28F,1B290,1B291,1B292,1B293,1B294,1B295,1B296,1B297"⟩,
    ⟨0x1B298, "NUSHU CHARACTER-", "1B298,1B299,1B29A,1B29B,1B29C,1B29D,1B29E,1B29F,1B2A0,1B2A1"⟩,
    ⟨0x1B2A2, "NUSHU CHARACTER-", "1B2A2,1B2A3,1B2A4,1B2A5,1B2A6,1B2A7,1B2A8,1B2A9,1B2AA,1B2AB"⟩,
    ⟨0x1B2AC, "NUSHU CHARACTER-", "1B2AC,1B2AD,1B2AE,1B2AF,1B2B0,1B2B1,1B2B2,1B2B3,1B2B4,1B2B5"⟩,
    ⟨0x1B2B6, "NUSHU CHARACTER-", "1B2B6,1B2B7,1B2B8,1B2B9,1B2BA,1B2BB,1B2BC,1B2BD,1B2BE,1B2BF"⟩,
    ⟨0x1B2C0, "NUSHU CHARACTER-", "1B2C0,1B2C1,1B2C2,1B2C3,1B2C4,1B2C5,1B2C6,1B2C7,1B2C8,1B2C9"⟩,
    ⟨0x1B2CA, "NUSHU CHARACTER-", "1B2CA,1B2CB,1B2CC,1B2CD,1B2CE,1B2CF,1B2D0,1B2D1,1B2D2,1B2D3"⟩,
    ⟨0x1B2D4, "NUSHU CHARACTER-", "1B2D4,1B2D5,1B2D6,1B2D7,1B2D8,1B2D9,1B2DA,1B2DB,1B2DC,1B2DD"⟩,
    ⟨0x1B2DE, "NUSHU CHARACTER-", "1B2DE,1B2DF,1B2E0,1B2E1,1B2E2,1B2E3,1B2E4,1B2E5,1B2E6,1B2E7"⟩,
    ⟨0x1B2E8, "NUSHU CHARACTER-", "1B2E8,1B2E9,1B2EA,1B2EB,1B2EC,1B2ED,1B2EE,1B2EF,1B2F0,1B2F1"⟩,
    ⟨0x1B2F2, "NUSHU CHARACTER-", "1B2F2,1B2F3,1B2F4,1B2F5,1B2F6,1B2F7,1B2F8,1B2F9,1B2FA,1B2FB"⟩,
    ⟨0x1BC00, "DUPLOYAN LETTER ", "H,X,P,T,F,K,L,B,D,V,G,R,P N,D S,F N,K M,R S,TH,SLOAN DH,DH,KK"⟩,
    ⟨0x1BC15, "DUPLOYAN LETTER ", "SLOAN J,HL,LH,RH,M,N,J,S,M N,N M,J M,S J,M WITH DOT,N WITH DOT"⟩,
    ⟨0x1BC23, "DUPLOYAN LETTER J WITH ", "DOT,DOTS INSIDE AND ABOVE"⟩,
    ⟨0x1BC25, "DUPLOYAN LETTER ", "S WITH DOT,S WITH DOT BELOW,M S,N S,J S,S S,M N S,N M S,J M S"⟩,
    ⟨0x1BC2E, "DUPLOYAN LETTER ", "S J S,J S WITH DOT,J N,J N S,S T,S T R,S P,S P R,T S,T R S"⟩,
    ⟨0x1BC38, "DUPLOYAN LETTER ", "W,WH,W R,S N,S M,K R S,G R S,S K,S K R,A,SLOAN OW,OA,O,AOU,I"⟩,
    ⟨0x1BC47, "DUPLOYAN LETTER ", "E,IE,SHORT I,UI,EE,SLOAN EH,ROMANIAN I,SLOAN EE,LONG I,YE,U,EU"⟩,
    ⟨0x1BC53, "DUPLOYAN LETTER ", "XW,U N,LONG U,ROMANIAN U,UH,SLOAN U,OOH,OW,OU,WA,WO,WI,WEI,WOW"⟩,
    ⟨0x1BC61, "DUPLOYAN LETTER NASAL ", "U,O,I,A"⟩,
    ⟨0x1BC65, "DUPLOYAN LETTER ", "PERNIN AN,PERNIN AM,SLOAN EN,SLOAN AN,SLOAN ON,VOCALIC M"⟩,
    ⟨0x1BC70, "", "DUPLOYAN AFFIX LEFT HORIZONTAL SECANT"⟩,
    ⟨0x1BC71, "DUPLOYAN AFFIX ", "MID HORIZONTAL SECANT,RIGHT HORIZONTAL SECANT"⟩,
    ⟨0x1BC73, "DUPLOYAN AFFIX ", "LOW VERTICAL SECANT,MID VERTICAL SECANT,HIGH VERTICAL SECANT"⟩,
    ⟨0x1BC76, "DUPLOYAN AFFIX ATTACHED ", "SECANT,LEFT-TO-RIGHT SECANT"⟩,
    ⟨0x1BC78, "DUPLOYAN AFFIX ATTACHED ", "TANGENT,TAIL,E HOOK,I HOOK,TANGENT HOOK"⟩,
    ⟨0x1BC80, "", "DUPLOYAN AFFIX HIGH ACUTE"⟩,
    ⟨0x1BC81, "DUPLOYAN AFFIX HIGH ", "TIGHT ACUTE,GRAVE,LONG GRAVE,DOT,CIRCLE,LINE,WAVE,VERTICAL"⟩,
    ⟨0x1BC90, "DUPLOYAN AFFIX LOW ", "ACUTE,TIGHT ACUTE"⟩,
    ⟨0x1BC92, "DUPLOYAN AFFIX LOW ", "GRAVE,LONG GRAVE,DOT,CIRCLE,LINE,WAVE,VERTICAL,ARROW"⟩,
    ⟨0x1BC9C, "", "DUPLOYAN SIGN O WITH CROSS"⟩,
    ⟨0x1BC9D, "DUPLOYAN ", "THICK LETTER SELECTOR,DOUBLE MARK,PUNCTUATION CHINOOK FULL STOP"⟩,
    ⟨0x1BCA0, "SHORTHAND FORMAT ", "LETTER OVERLAP,CONTINUING OVERLAP,DOWN STEP,UP STEP"⟩,
    ⟨0x1CF00, "", "ZNAMENNY COMBINING MARK GORAZDO NIZKO S KRYZHEM ON LEFT"⟩,
    ⟨0x1CF01, "", "ZNAMENNY COMBINING MARK NIZKO S KRYZHEM ON LEFT"⟩,
    ⟨0x1CF02, "ZNAMENNY COMBINING MARK ", "TSATA ON LEFT,GORAZDO NIZKO ON LEFT,NIZKO ON LEFT"⟩,
    ⟨0x1CF05, "ZNAMENNY COMBINING MARK ", "SREDNE ON LEFT,MALO POVYSHE ON LEFT,POVYSHE ON LEFT"⟩,
    ⟨0x1CF08, "ZNAMENNY COMBINING MARK ", "VYSOKO ON LEFT,MALO POVYSHE S KHOKHLOM ON LEFT"⟩,
    ⟨0x1CF0A, "ZNAMENNY COMBINING MARK ", "POVYSHE S KHOKHLOM ON LEFT,VYSOKO S KHOKHLOM ON LEFT"⟩,
    ⟨0x1CF0C, "", "ZNAMENNY COMBINING MARK GORAZDO NIZKO S KRYZHEM ON RIGHT"⟩,
    ⟨0x1CF0D, "", "ZNAMENNY COMBINING MARK NIZKO S KRYZHEM ON RIGHT"⟩,
    ⟨0x1CF0E, "ZNAMENNY COMBINING MARK ", "TSATA ON RIGHT,GORAZDO NIZKO ON RIGHT,NIZKO ON RIGHT"⟩,
    ⟨0x1CF11, "ZNAMENNY COMBINING MARK ", "SREDNE ON RIGHT,MALO POVYSHE ON RIGHT,POVYSHE ON RIGHT"⟩,
    ⟨0x1CF14, "ZNAMENNY COMBINING MARK ", "VYSOKO ON RIGHT,MALO POVYSHE S KHOKHLOM ON RIGHT"⟩,
    ⟨0x1CF16, "ZNAMENNY COMBINING MARK ", "POVYSHE S KHOKHLOM ON RIGHT,VYSOKO S KHOKHLOM ON RIGHT"⟩,
    ⟨0x1CF18, "ZNAMENNY COMBINING MARK ", "TSATA S KRYZHEM,MALO POVYSHE S KRYZHEM"⟩,
    ⟨0x1CF1A, "ZNAMENNY COMBINING MARK ", "STRANNO MALO POVYSHE,POVYSHE S KRYZHEM,POVYSHE STRANNO"⟩,
    ⟨0x1CF1D, "ZNAMENNY COMBINING MARK ", "VYSOKO S KRYZHEM,MALO POVYSHE STRANNO,GORAZDO VYSOKO"⟩,
    ⟨0x1CF20, "ZNAMENNY COMBINING MARK ", "ZELO,ON,RAVNO,TIKHAYA,BORZAYA,UDARKA,PODVERTKA"⟩,
    ⟨0x1CF27, "ZNAMENNY COMBINING MARK ", "LOMKA,KUPNAYA,KACHKA,ZEVOK,SKOBA,RAZSEKA,KRYZH ON LEFT"⟩,
    ⟨0x1CF30, "ZNAMENNY COMBINING TONAL RANGE MARK ", "MRACHNO,SVETLO,TRESVETLO"⟩,
    ⟨0x1CF33, "ZNAMENNY COMBINING MARK ", "ZADERZHKA,DEMESTVENNY ZADERZHKA,OTSECHKA"⟩,
    ⟨0x1CF36, "ZNAMENNY COMBINING MARK ", "PODCHASHIE,PODCHASHIE WITH VERTICAL STROKE,CHASHKA"⟩,
    ⟨0x1CF39, "ZNAMENNY COMBINING MARK ", "CHASHKA POLNAYA,OBLACHKO,SOROCHYA NOZHKA,TOCHKA"⟩,
    ⟨0x1CF3D, "ZNAMENNY COMBINING ", "MARK DVOETOCHIE,ATTACHING VERTICAL OMET"⟩,
    ⟨0x1CF3F, "ZNAMENNY COMBINING ", "MARK CURVED OMET,MARK KRYZH,LOWER TONAL RANGE INDICATOR"⟩,
    ⟨0x1CF42, "ZNAMENNY PRIZNAK MODIFIER ", "LEVEL-2,LEVEL-3,DIRECTION FLIP,KRYZH,ROG"⟩,
    ⟨0x1CF50, "ZNAMENNY NEUME ", "KRYUK,KRYUK TIKHY,PARAKLIT,DVA V CHELNU,KLYUCH,ZANOZHEK"⟩,
    ⟨0x1CF56, "ZNAMENNY NEUME ", "STOPITSA,STOPITSA S OCHKOM,PEREVODKA,PEREVODKA NEPOSTOYANNAYA"⟩,
    ⟨0x1CF5A, "ZNAMENNY NEUME ", "STOPITSA WITH SOROCHYA NOZHKA,CHELYUSTKA,PALKA,ZAPYATAYA"⟩,
    ⟨0x1CF5E, "ZNAMENNY NEUME GOLUBCHIK ", "BORZY,TIKHY,MRACHNY,SVETLY,TRESVETLY"⟩,
    ⟨0x1CF63, "ZNAMENNY NEUME VRAKHIYA ", "PROSTAYA,MRACHNAYA,SVETLAYA,TRESVETLAYA"⟩,
    ⟨0x1CF67, "ZNAMENNY NEUME VRAKHIYA KLYUCHEVAYA ", "PROSTAYA,MRACHNAYA,SVETLAYA,TRESVETLAYA"⟩,
    ⟨0x1CF6B, "ZNAMENNY NEUME ", "DOUBLE ZAPYATAYA,REVERSED CHELYUSTKA,DERBITSA,KHAMILO"⟩,
    ⟨0x1CF6F, "ZNAMENNY NEUME ", "CHASHKA,PODCHASHIE,SKAMEYTSA MRACHNAYA,SKAMEYTSA SVETLAYA"⟩,
    ⟨0x1CF73, "ZNAMENNY NEUME ", "SKAMEYTSA TRESVETLAYA,SKAMEYTSA TIKHAYA,DEMESTVENNY KLYUCH"⟩,
    ⟨0x1CF76, "ZNAMENNY NEUME SKAMEYTSA ", "KLYUCHEVAYA SVETLAYA,KLYUCHENEPOSTOYANNAYA"⟩,
    ⟨0x1CF78, "ZNAMENNY NEUME SKAMEYTSA ", "KLYUCHEVAYA TIKHAYA,DVOECHELNAYA PROSTAYA"⟩,
    ⟨0x1CF7A, "ZNAMENNY NEUME SKAMEYTSA DVOECHELNAYA ", "SVETLAYA,NEPOSTOYANNAYA,KLYUCHEVAYA"⟩,
    ⟨0x1CF7D, "ZNAMENNY NEUME ", "SLOZHITIE,SLOZHITIE S ZAPYATOY,SLOZHITIE ZAKRYTOE"⟩,
    ⟨0x1CF80, "ZNAMENNY NEUME ", "SLOZHITIE S KRYZHEM,KRYZH,ROG,FITA,KOBYLA,ZMEYTSA,STATYA"⟩,
    ⟨0x1CF87, "ZNAMENNY NEUME STATYA S ", "ZAPYATOY,KRYZHEM,ZAPYATOY I KRYZHEM,KRYZHEM I ZAPYATOY"⟩,
    ⟨0x1CF8B, "ZNAMENNY NEUME STATYA ", "ZAKRYTAYA,ZAKRYTAYA S ZAPYATOY"⟩,
    ⟨0x1CF8D, "ZNAMENNY NEUME STATYA S ", "ROGOM,DVUMYA ZAPYATYMI,ZAPYATOY I PODCHASHIEM"⟩,
    ⟨0x1CF90, "ZNAMENNY NEUME ", "POLKULIZMY,STATYA NEPOSTOYANNAYA"⟩,
    ⟨0x1CF92, "ZNAMENNY NEUME STRELA ", "PROSTAYA,MRACHNOTIKHAYA"⟩,
    ⟨0x1CF94, "ZNAMENNY NEUME STRELA ", "KRYZHEVAYA,POLUPOVODNAYA,POVODNAYA,NEPOSTOYANNAYA"⟩,
    ⟨0x1CF98, "ZNAMENNY NEUME STRELA ", "KLYUCHEPOVODNAYA,KLYUCHENEPOSTOYANNAYA,TIKHAYA PUTNAYA"⟩,
    ⟨0x1CF9B, "ZNAMENNY NEUME STRELA ", "DVOECHELNAYA,DVOECHELNOKRYZHEVAYA,DVOECHELNOPOVODNAYA"⟩,
    ⟨0x1CF9E, "ZNAMENNY NEUME STRELA ", "DVOECHELNAYA KLYUCHEVAYA,DVOECHELNOPOVODNAYA KLYUCHEVAYA"⟩,
    ⟨0x1CFA0, "", "ZNAMENNY NEUME STRELA GROMNAYA WITH SINGLE ZAPYATAYA"⟩,
    ⟨0x1CFA1, "ZNAMENNY NEUME STRELA ", "GROMOPOVODNAYA WITH SINGLE ZAPYATAYA,GROMNAYA"⟩,
    ⟨0x1CFA3, "ZNAMENNY NEUME STRELA ", "GROMOPOVODNAYA,GROMOPOVODNAYA WITH DOUBLE ZAPYATAYA"⟩,
    ⟨0x1CFA5, "ZNAMENNY NEUME ", "STRELA GROMOKRYZHEVAYA,STRELA GROMOKRYZHEVAYA POVODNAYA,MECHIK"⟩,
    ⟨0x1CFA8, "ZNAMENNY NEUME MECHIK ", "POVODNY,KLYUCHEVOY,KLYUCHEPOVODNY,KLYUCHENEPOSTOYANNY"⟩,
    ⟨0x1CFAC, "ZNAMENNY NEUME STRELA ", "TRYASOGLASNAYA,TRYASOPOVODNAYA,TRYASOSTRELNAYA"⟩,
    ⟨0x1CFAF, "ZNAMENNY NEUME ", "OSOKA,OSOKA SVETLAYA"⟩,
    ⟨0x1CFB1, "ZNAMENNY NEUME OSOKA ", "TRESVETLAYA,KRYUKOVAYA SVETLAYA,KLYUCHEVAYA SVETLAYA"⟩,
    ⟨0x1CFB4, "ZNAMENNY NEUME ", "OSOKA KLYUCHEVAYA NEPOSTOYANNAYA,STRELA KRYUKOVAYA"⟩,
    ⟨0x1CFB6, "ZNAMENNY NEUME STRELA KRYUKOVAYA ", "POVODNAYA,GROMNAYA WITH SINGLE ZAPYATAYA"⟩,
    ⟨0x1CFB8, "", "ZNAMENNY NEUME STRELA KRYUKOVAYA GROMOPOVODNAYA WITH SINGLE ZAPYATAYA"⟩,
    ⟨0x1CFB9, "ZNAMENNY NEUME STRELA KRYUKOVAYA ", "GROMNAYA,GROMOPOVODNAYA"⟩,
    ⟨0x1CFBB, "", "ZNAMENNY NEUME STRELA KRYUKOVAYA GROMOPOVODNAYA WITH DOUBLE ZAPYATAYA"⟩,
    ⟨0x1CFBC, "ZNAMENNY NEUME STRELA KRYUKOVAYA ", "GROMOKRYZHEVAYA,GROMOKRYZHEVAYA POVODNAYA"⟩,
    ⟨0x1CFBE, "ZNAMENNY NEUME ", "STRELA KRYUKOVAYA TRYASKA,KUFISMA,OBLAKO,DUDA,NEMKA,PAUK"⟩,
    ⟨0x1D000, "BYZANTINE MUSICAL SYMBOL ", "PSILI,DASEIA,PERISPOMENI,OXEIA EKFONITIKON"⟩,
    ⟨0x1D004, "BYZANTINE MUSICAL SYMBOL ", "OXEIA DIPLI,VAREIA EKFONITIKON,VAREIA DIPLI,KATHISTI"⟩,
    ⟨0x1D008, "BYZANTINE MUSICAL SYMBOL ", "SYRMATIKI,PARAKLITIKI,YPOKRISIS,YPOKRISIS DIPLI"⟩,
    ⟨0x1D00C, "BYZANTINE MUSICAL SYMBOL ", "KREMASTI,APESO EKFONITIKON,EXO EKFONITIKON,TELEIA"⟩,
    ⟨0x1D010, "BYZANTINE MUSICAL SYMBOL ", "KENTIMATA,APOSTROFOS,APOSTROFOS DIPLI,SYNEVMA,THITA"⟩,
    ⟨0x1D015, "BYZANTINE MUSICAL SYMBOL ", "OLIGON ARCHAION,GORGON ARCHAION,PSILON,CHAMILON,VATHY"⟩,
    ⟨0x1D01A, "BYZANTINE MUSICAL SYMBOL ", "ISON ARCHAION,KENTIMA ARCHAION,KENTIMATA ARCHAION"⟩,
    ⟨0x1D01D, "BYZANTINE MUSICAL SYMBOL ", "SAXIMATA,PARICHON,STAVROS APODEXIA,OXEIAI ARCHAION"⟩,
    ⟨0x1D021, "BYZANTINE MUSICAL SYMBOL ", "VAREIAI ARCHAION,APODERMA ARCHAION,APOTHEMA,KLASMA"⟩,
    ⟨0x1D025, "BYZANTINE MUSICAL SYMBOL ", "REVMA,PIASMA ARCHAION,TINAGMA,ANATRICHISMA,SEISMA"⟩,
    ⟨0x1D02A, "BYZANTINE MUSICAL SYMBOL SYNAGMA ", "ARCHAION,META STAVROU"⟩,
    ⟨0x1D02C, "BYZANTINE MUSICAL SYMBOL ", "OYRANISMA ARCHAION,THEMA,LEMOI,DYO"⟩,
    ⟨0x1D030, "BYZANTINE MUSICAL SYMBOL ", "TRIA,TESSERA,KRATIMATA,APESO EXO NEO,FTHORA ARCHAION"⟩,
    ⟨0x1D035, "BYZANTINE MUSICAL SYMBOL ", "IMIFTHORA,TROMIKON ARCHAION,KATAVA TROMIKON"⟩,
    ⟨0x1D038, "BYZANTINE MUSICAL SYMBOL ", "PELASTON,PSIFISTON,KONTEVMA,CHOREVMA ARCHAION,RAPISMA"⟩,
    ⟨0x1D03D, "BYZANTINE MUSICAL SYMBOL ", "PARAKALESMA ARCHAION,PARAKLITIKI ARCHAION,ICHADIN"⟩,
    ⟨0x1D040, "BYZANTINE MUSICAL SYMBOL ", "NANA,PETASMA,KONTEVMA ALLO,TROMIKON ALLO,STRAGGISMATA"⟩,
    ⟨0x1D045, "BYZANTINE MUSICAL SYMBOL ", "GRONTHISMATA,ISON NEO,OLIGON NEO,OXEIA NEO"⟩,
    ⟨0x1D049, "BYZANTINE MUSICAL SYMBOL ", "PETASTI,KOUFISMA,PETASTOKOUFISMA,KRATIMOKOUFISMA"⟩,
    ⟨0x1D04D, "BYZANTINE MUSICAL SYMBOL ", "PELASTON NEO,KENTIMATA NEO ANO,KENTIMA NEO ANO"⟩,
    ⟨0x1D050, "BYZANTINE MUSICAL SYMBOL ", "YPSILI,APOSTROFOS NEO,APOSTROFOI SYNDESMOS NEO"⟩,
    ⟨0x1D053, "BYZANTINE MUSICAL SYMBOL ", "YPORROI,KRATIMOYPORROON,ELAFRON,CHAMILI"⟩,
    ⟨0x1D057, "BYZANTINE MUSICAL SYMBOL ", "MIKRON ISON,VAREIA NEO,PIASMA NEO,PSIFISTON NEO"⟩,
    ⟨0x1D05B, "BYZANTINE MUSICAL SYMBOL ", "OMALON,ANTIKENOMA,LYGISMA,PARAKLITIKI NEO"⟩,
    ⟨0x1D05F, "BYZANTINE MUSICAL SYMBOL ", "PARAKALESMA NEO,ETERON PARAKALESMA,KYLISMA"⟩,
    ⟨0x1D062, "BYZANTINE MUSICAL SYMBOL ", "ANTIKENOKYLISMA,TROMIKON NEO,EKSTREPTON,SYNAGMA NEO"⟩,
    ⟨0x1D066, "BYZANTINE MUSICAL SYMBOL ", "SYRMA,CHOREVMA NEO,EPEGERMA,SEISMA NEO,XIRON KLASMA"⟩,
    ⟨0x1D06B, "BYZANTINE MUSICAL SYMBOL ", "TROMIKOPSIFISTON,PSIFISTOLYGISMA,TROMIKOLYGISMA"⟩,
    ⟨0x1D06E, "BYZANTINE MUSICAL SYMBOL ", "TROMIKOPARAKALESMA,PSIFISTOPARAKALESMA,TROMIKOSYNAGMA"⟩,
    ⟨0x1D071, "BYZANTINE MUSICAL SYMBOL ", "PSIFISTOSYNAGMA,GORGOSYNTHETON,ARGOSYNTHETON"⟩,
    ⟨0x1D074, "BYZANTINE MUSICAL SYMBOL ", "ETERON ARGOSYNTHETON,OYRANISMA NEO,THEMATISMOS ESO"⟩,
    ⟨0x1D077, "BYZANTINE MUSICAL SYMBOL ", "THEMATISMOS EXO,THEMA APLOUN,THES KAI APOTHES"⟩,
    ⟨0x1D07A, "BYZANTINE MUSICAL SYMBOL ", "KATAVASMA,ENDOFONON,YFEN KATO,YFEN ANO"⟩,
    ⟨0x1D07E, "BYZANTINE MUSICAL SYMBOL ", "STAVROS,KLASMA ANO,DIPLI ARCHAION,KRATIMA ARCHAION"⟩,
    ⟨0x1D082, "BYZANTINE MUSICAL SYMBOL ", "KRATIMA ALLO,KRATIMA NEO,APODERMA NEO,APLI"⟩,
    ⟨0x1D086, "BYZANTINE MUSICAL SYMBOL ", "DIPLI,TRIPLI,TETRAPLI,KORONIS,LEIMMA ENOS CHRONOU"⟩,
    ⟨0x1D08B, "BYZANTINE MUSICAL SYMBOL LEIMMA ", "DYO CHRONON,TRION CHRONON,TESSARON CHRONON"⟩,
    ⟨0x1D08E, "BYZANTINE MUSICAL SYMBOL ", "LEIMMA IMISEOS CHRONOU,GORGON NEO ANO"⟩,
    ⟨0x1D090, "BYZANTINE MUSICAL SYMBOL GORGON PARESTIGMENON ", "ARISTERA,DEXIA"⟩,
    ⟨0x1D092, "BYZANTINE MUSICAL SYMBOL ", "DIGORGON,DIGORGON PARESTIGMENON ARISTERA KATO"⟩,
    ⟨0x1D094, "BYZANTINE MUSICAL SYMBOL DIGORGON PARESTIGMENON ", "ARISTERA ANO,DEXIA"⟩,
    ⟨0x1D096, "BYZANTINE MUSICAL SYMBOL ", "TRIGORGON,ARGON,IMIDIARGON,DIARGON,AGOGI POLI ARGI"⟩,
    ⟨0x1D09B, "BYZANTINE MUSICAL SYMBOL AGOGI ", "ARGOTERI,ARGI,METRIA,MESI,GORGI,GORGOTERI"⟩,
    ⟨0x1D0A1, "BYZANTINE MUSICAL SYMBOL ", "AGOGI POLI GORGI,MARTYRIA PROTOS ICHOS"⟩,
    ⟨0x1D0A3, "BYZANTINE MUSICAL SYMBOL MARTYRIA ", "ALLI PROTOS ICHOS,DEYTEROS ICHOS"⟩,
    ⟨0x1D0A5, "BYZANTINE MUSICAL SYMBOL MARTYRIA ", "ALLI DEYTEROS ICHOS,TRITOS ICHOS,TRIFONIAS"⟩,
    ⟨0x1D0A8, "BYZANTINE MUSICAL SYMBOL MARTYRIA TETARTOS ", "ICHOS,LEGETOS ICHOS"⟩,
    ⟨0x1D0AA, "BYZANTINE MUSICAL SYMBOL MARTYRIA ", "LEGETOS ICHOS,PLAGIOS ICHOS"⟩,
    ⟨0x1D0AC, "BYZANTINE MUSICAL SYMBOL ", "ISAKIA TELOUS ICHIMATOS,APOSTROFOI TELOUS ICHIMATOS"⟩,
    ⟨0x1D0AE, "BYZANTINE MUSICAL SYMBOL FANEROSIS ", "TETRAFONIAS,MONOFONIAS,DIFONIAS"⟩,
    ⟨0x1D0B1, "BYZANTINE MUSICAL SYMBOL MARTYRIA ", "VARYS ICHOS,PROTOVARYS ICHOS"⟩,
    ⟨0x1D0B3, "BYZANTINE MUSICAL SYMBOL ", "MARTYRIA PLAGIOS TETARTOS ICHOS,GORTHMIKON N APLOUN"⟩,
    ⟨0x1D0B5, "BYZANTINE MUSICAL SYMBOL ", "GORTHMIKON N DIPLOUN,ENARXIS KAI FTHORA VOU"⟩,
    ⟨0x1D0B7, "BYZANTINE MUSICAL SYMBOL ", "IMIFONON,IMIFTHORON,FTHORA ARCHAION DEYTEROU ICHOU"⟩,
    ⟨0x1D0BA, "BYZANTINE MUSICAL SYMBOL FTHORA DIATONIKI ", "PA,NANA"⟩,
    ⟨0x1D0BC, "BYZANTINE MUSICAL SYMBOL FTHORA ", "NAOS ICHOS,DIATONIKI DI,SKLIRON DIATONON DI"⟩,
    ⟨0x1D0BF, "BYZANTINE MUSICAL SYMBOL FTHORA DIATONIKI ", "KE,ZO,NI KATO,NI ANO"⟩,
    ⟨0x1D0C3, "BYZANTINE MUSICAL SYMBOL FTHORA MALAKON CHROMA ", "DIFONIAS,MONOFONIAS"⟩,
    ⟨0x1D0C5, "", "BYZANTINE MUSICAL SYMBOL FHTORA SKLIRON CHROMA VASIS"⟩,
    ⟨0x1D0C6, "BYZANTINE MUSICAL SYMBOL FTHORA ", "SKLIRON CHROMA SYNAFI,NENANO"⟩,
    ⟨0x1D0C8, "BYZANTINE MUSICAL SYMBOL CHROA ", "ZYGOS,KLITON,SPATHI"⟩,
    ⟨0x1D0CB, "BYZANTINE MUSICAL SYMBOL FTHORA ", "I YFESIS TETARTIMORION,ENARMONIOS ANTIFONIA"⟩,
    ⟨0x1D0CD, "", "BYZANTINE MUSICAL SYMBOL YFESIS TRITIMORION"⟩,
    ⟨0x1D0CE, "BYZANTINE MUSICAL SYMBOL DIESIS ", "TRITIMORION,TETARTIMORION"⟩,
    ⟨0x1D0D0, "BYZANTINE MUSICAL SYMBOL DIESIS ", "APLI DYO DODEKATA,MONOGRAMMOS TESSERA DODEKATA"⟩,
    ⟨0x1D0D2, "BYZANTINE MUSICAL SYMBOL DIESIS ", "DIGRAMMOS EX DODEKATA,TRIGRAMMOS OKTO DODEKATA"⟩,
    ⟨0x1D0D4, "BYZANTINE MUSICAL SYMBOL YFESIS ", "APLI DYO DODEKATA,MONOGRAMMOS TESSERA DODEKATA"⟩,
    ⟨0x1D0D6, "BYZANTINE MUSICAL SYMBOL YFESIS ", "DIGRAMMOS EX DODEKATA,TRIGRAMMOS OKTO DODEKATA"⟩,
    ⟨0x1D0D8, "BYZANTINE MUSICAL SYMBOL GENIKI ", "DIESIS,YFESIS"⟩,
    ⟨0x1D0DA, "BYZANTINE MUSICAL SYMBOL DIASTOLI ", "APLI MIKRI,APLI MEGALI,DIPLI,THESEOS"⟩,
    ⟨0x1D0DE, "BYZANTINE MUSICAL SYMBOL SIMANSIS ", "THESEOS,THESEOS DISIMOU"⟩,
    ⟨0x1D0E0, "BYZANTINE MUSICAL SYMBOL SIMANSIS ", "THESEOS TRISIMOU,THESEOS TETRASIMOU,ARSEOS"⟩,
    ⟨0x1D0E3, "BYZANTINE MUSICAL SYMBOL SIMANSIS ARSEOS ", "DISIMOU,TRISIMOU,TETRASIMOU"⟩,
    ⟨0x1D0E6, "BYZANTINE MUSICAL SYMBOL ", "DIGRAMMA GG,DIFTOGGOS OU,STIGMA"⟩,
    ⟨0x1D0E9, "BYZANTINE MUSICAL SYMBOL ARKTIKO ", "PA,VOU,GA,DI,KE,ZO,NI"⟩,
    ⟨0x1D0F0, "", "BYZANTINE MUSICAL SYMBOL KENTIMATA NEO MESO"⟩,
    ⟨0x1D0F1, "BYZANTINE MUSICAL SYMBOL ", "KENTIMA NEO MESO,KENTIMATA NEO KATO"⟩,
    ⟨0x1D0F3, "BYZANTINE MUSICAL SYMBOL ", "KENTIMA NEO KATO,KLASMA KATO,GORGON NEO KATO"⟩,
    ⟨0x1D100, "", "MUSICAL SYMBOL SINGLE BARLINE"⟩,
    ⟨0x1D101, "MUSICAL SYMBOL ", "DOUBLE BARLINE,FINAL BARLINE,REVERSE FINAL BARLINE"⟩,
    ⟨0x1D104, "MUSICAL SYMBOL ", "DASHED BARLINE,SHORT BARLINE,LEFT REPEAT SIGN"⟩,
    ⟨0x1D107, "MUSICAL SYMBOL ", "RIGHT REPEAT SIGN,REPEAT DOTS,DAL SEGNO,DA CAPO,SEGNO,CODA"⟩,
    ⟨0x1D10D, "MUSICAL SYMBOL ", "REPEATED FIGURE-1,REPEATED FIGURE-2,REPEATED FIGURE-3,FERMATA"⟩,
    ⟨0x1D111, "MUSICAL SYMBOL ", "FERMATA BELOW,BREATH MARK,CAESURA,BRACE,BRACKET,ONE-LINE STAFF"⟩,
    ⟨0x1D117, "MUSICAL SYMBOL ", "TWO-LINE STAFF,THREE-LINE STAFF,FOUR-LINE STAFF,FIVE-LINE STAFF"⟩,
    ⟨0x1D11B, "MUSICAL SYMBOL ", "SIX-LINE STAFF,SIX-STRING FRETBOARD,FOUR-STRING FRETBOARD"⟩,
    ⟨0x1D11E, "MUSICAL SYMBOL ", "G CLEF,G CLEF OTTAVA ALTA,G CLEF OTTAVA BASSA,C CLEF,F CLEF"⟩,
    ⟨0x1D123, "MUSICAL SYMBOL ", "F CLEF OTTAVA ALTA,F CLEF OTTAVA BASSA,DRUM CLEF-1,DRUM CLEF-2"⟩,
    ⟨0x1D129, "MUSICAL SYMBOL ", "MULTIPLE MEASURE REST,DOUBLE SHARP,DOUBLE FLAT"⟩,
    ⟨0x1D12C, "MUSICAL SYMBOL ", "FLAT UP,FLAT DOWN,NATURAL UP,NATURAL DOWN,SHARP UP,SHARP DOWN"⟩,
    ⟨0x1D132, "MUSICAL SYMBOL QUARTER TONE ", "SHARP,FLAT"⟩,
    ⟨0x1D134, "MUSICAL SYMBOL ", "COMMON TIME,CUT TIME,OTTAVA ALTA,OTTAVA BASSA,QUINDICESIMA ALTA"⟩,
    ⟨0x1D139, "MUSICAL SYMBOL ", "QUINDICESIMA BASSA,MULTI REST,WHOLE REST,HALF REST,QUARTER REST"⟩,
    ⟨0x1D13E, "MUSICAL SYMBOL ", "EIGHTH REST,SIXTEENTH REST,THIRTY-SECOND REST,SIXTY-FOURTH REST"⟩,
    ⟨0x1D142, "MUSICAL SYMBOL ", "ONE HUNDRED TWENTY-EIGHTH REST,X NOTEHEAD,PLUS NOTEHEAD"⟩,
    ⟨0x1D145, "MUSICAL SYMBOL ", "CIRCLE X NOTEHEAD,SQUARE NOTEHEAD WHITE,SQUARE NOTEHEAD BLACK"⟩,
    ⟨0x1D148, "MUSICAL SYMBOL TRIANGLE NOTEHEAD ", "UP WHITE,UP BLACK,LEFT WHITE,LEFT BLACK"⟩,
    ⟨0x1D14C, "MUSICAL SYMBOL TRIANGLE NOTEHEAD ", "RIGHT WHITE,RIGHT BLACK,DOWN WHITE,DOWN BLACK"⟩,
    ⟨0x1D150, "MUSICAL SYMBOL TRIANGLE NOTEHEAD UP RIGHT ", "WHITE,BLACK"⟩,
    ⟨0x1D152, "MUSICAL SYMBOL MOON NOTEHEAD ", "WHITE,BLACK"⟩,
    ⟨0x1D154, "MUSICAL SYMBOL TRIANGLE-ROUND NOTEHEAD DOWN ", "WHITE,BLACK"⟩,
    ⟨0x1D156, "MUSICAL SYMBOL ", "PARENTHESIS NOTEHEAD,VOID NOTEHEAD,NOTEHEAD BLACK,NULL NOTEHEAD"⟩,
    ⟨0x1D15A, "MUSICAL SYMBOL CLUSTER NOTEHEAD ", "WHITE,BLACK"⟩,
    ⟨0x1D15C, "MUSICAL SYMBOL ", "BREVE,WHOLE NOTE,HALF NOTE"⟩,
    ⟨0x1D15F, "MUSICAL SYMBOL ", "QUARTER NOTE,EIGHTH NOTE,SIXTEENTH NOTE,THIRTY-SECOND NOTE"⟩,
    ⟨0x1D163, "MUSICAL SYMBOL ", "SIXTY-FOURTH NOTE,ONE HUNDRED TWENTY-EIGHTH NOTE"⟩,
    ⟨0x1D165, "MUSICAL SYMBOL COMBINING ", "STEM,SPRECHGESANG STEM,TREMOLO-1,TREMOLO-2,TREMOLO-3"⟩,
    ⟨0x1D16A, "MUSICAL SYMBOL FINGERED TREMOLO-", "1,2,3"⟩,
    ⟨0x1D16D, "MUSICAL SYMBOL COMBINING ", "AUGMENTATION DOT,FLAG-1,FLAG-2,FLAG-3,FLAG-4,FLAG-5"⟩,
    ⟨0x1D173, "MUSICAL SYMBOL ", "BEGIN BEAM,END BEAM"⟩,
    ⟨0x1D175, "MUSICAL SYMBOL ", "BEGIN TIE,END TIE,BEGIN SLUR,END SLUR,BEGIN PHRASE,END PHRASE"⟩,
    ⟨0x1D17B, "MUSICAL SYMBOL COMBINING ", "ACCENT,STACCATO,TENUTO,STACCATISSIMO"⟩,
    ⟨0x1D17F, "MUSICAL SYMBOL COMBINING ", "MARCATO,MARCATO-STACCATO,ACCENT-STACCATO,LOURE"⟩,
    ⟨0x1D183, "MUSICAL SYMBOL ARPEGGIATO ", "UP,DOWN"⟩,
    ⟨0x1D185, "MUSICAL SYMBOL COMBINING ", "DOIT,RIP,FLIP,SMEAR,BEND,DOUBLE TONGUE,TRIPLE TONGUE"⟩,
    ⟨0x1D18C, "MUSICAL SYMBOL ", "RINFORZANDO,SUBITO,Z,PIANO,MEZZO,FORTE,CRESCENDO,DECRESCENDO"⟩,
    ⟨0x1D194, "MUSICAL SYMBOL GRACE NOTE ", "SLASH,NO SLASH"⟩,
    ⟨0x1D196, "MUSICAL SYMBOL ", "TR,TURN,INVERTED TURN,TURN SLASH,TURN UP"⟩,
    ⟨0x1D19B, "MUSICAL SYMBOL ORNAMENT STROKE-", "1,2,3,4,5,6,7,8,9,10,11"⟩,
    ⟨0x1D1A6, "MUSICAL SYMBOL ", "HAUPTSTIMME,NEBENSTIMME,END OF STIMME,DEGREE SLASH"⟩,
    ⟨0x1D1AA, "MUSICAL SYMBOL COMBINING ", "DOWN BOW,UP BOW,HARMONIC,SNAP PIZZICATO"⟩,
    ⟨0x1D1AE, "MUSICAL SYMBOL ", "PEDAL MARK,PEDAL UP MARK,HALF PEDAL MARK,GLISSANDO UP"⟩,
    ⟨0x1D1B2, "MUSICAL SYMBOL ", "GLISSANDO DOWN,WITH FINGERNAILS,DAMP,DAMP ALL,MAXIMA,LONGA"⟩,
    ⟨0x1D1B8, "MUSICAL SYMBOL ", "BREVIS,SEMIBREVIS WHITE,SEMIBREVIS BLACK,MINIMA,MINIMA BLACK"⟩,
    ⟨0x1D1BD, "MUSICAL SYMBOL SEMIMINIMA ", "WHITE,BLACK"⟩,
    ⟨0x1D1BF, "MUSICAL SYMBOL ", "FUSA WHITE,FUSA BLACK,LONGA PERFECTA REST,LONGA IMPERFECTA REST"⟩,
    ⟨0x1D1C3, "MUSICAL SYMBOL ", "BREVIS REST,SEMIBREVIS REST,MINIMA REST,SEMIMINIMA REST"⟩,
    ⟨0x1D1C7, "MUSICAL SYMBOL TEMPUS PERFECTUM CUM PROLATIONE ", "PERFECTA,IMPERFECTA"⟩,
    ⟨0x1D1C9, "", "MUSICAL SYMBOL TEMPUS PERFECTUM CUM PROLATIONE PERFECTA DIMINUTION-1"⟩,
    ⟨0x1D1CA, "MUSICAL SYMBOL TEMPUS IMPERFECTUM CUM PROLATIONE ", "PERFECTA,IMPERFECTA"⟩,
    ⟨0x1D1CC, "MUSICAL SYMBOL TEMPUS IMPERFECTUM CUM PROLATIONE IMPERFECTA DIMINUTION-", "1,2,3"⟩,
    ⟨0x1D1CF, "MUSICAL SYMBOL ", "CROIX,GREGORIAN C CLEF,GREGORIAN F CLEF,SQUARE B,VIRGA,PODATUS"⟩,
    ⟨0x1D1D5, "MUSICAL SYMBOL ", "CLIVIS,SCANDICUS,CLIMACUS,TORCULUS,PORRECTUS,PORRECTUS FLEXUS"⟩,
    ⟨0x1D1DB, "MUSICAL SYMBOL ", "SCANDICUS FLEXUS,TORCULUS RESUPINUS,PES SUBPUNCTIS"⟩,
    ⟨0x1D1DE, "MUSICAL SYMBOL KIEVAN ", "C CLEF,END OF PIECE,FINAL NOTE,RECITATIVE MARK"⟩,
    ⟨0x1D1E2, "MUSICAL SYMBOL KIEVAN ", "WHOLE NOTE,HALF NOTE,QUARTER NOTE STEM DOWN"⟩,
    ⟨0x1D1E5, "MUSICAL SYMBOL KIEVAN ", "QUARTER NOTE STEM UP,EIGHTH NOTE STEM DOWN"⟩,
    ⟨0x1D1E7, "MUSICAL SYMBOL ", "KIEVAN EIGHTH NOTE STEM UP,KIEVAN FLAT SIGN,SORI,KORON"⟩,
    ⟨0x1D200, "GREEK VOCAL NOTATION SYMBOL-", "1,2,3,4,5,6,7,8,9,10,11,12"⟩,
    ⟨0x1D20C, "GREEK VOCAL NOTATION SYMBOL-", "13,14,15,16,17,18,19,20,21,22,23,24,50,51,52,53,54"⟩,
    ⟨0x1D21D, "GREEK INSTRUMENTAL NOTATION SYMBOL-", "1,2,4,5,7,8,11,12,13"⟩,
    ⟨0x1D226, "GREEK INSTRUMENTAL NOTATION SYMBOL-", "14,17,18,19,23,24,25,26,27,29,30,32,36,37"⟩,
    ⟨0x1D234, "GREEK INSTRUMENTAL NOTATION SYMBOL-", "38,39,40,42,43,45,47,48,49,50,51,52,53,54"⟩,
    ⟨0x1D242, "COMBINING GREEK MUSICAL ", "TRISEME,TETRASEME,PENTASEME"⟩,
    ⟨0x1D245, "", "GREEK MUSICAL LEIMMA"⟩,
    ⟨0x1D2E0, "", "MAYAN NUMERAL ZERO"⟩,
    ⟨0x1D2E1, "MAYAN NUMERAL ", "ONE,TWO,THREE,FOUR,FIVE,SIX,SEVEN,EIGHT,NINE,TEN,ELEVEN,TWELVE"⟩,
    ⟨0x1D2ED, "MAYAN NUMERAL ", "THIRTEEN,FOURTEEN,FIFTEEN,SIXTEEN,SEVENTEEN,EIGHTEEN,NINETEEN"⟩,
    ⟨0x1D300, "", "MONOGRAM FOR EARTH"⟩,
    ⟨0x1D301, "DIGRAM FOR ", "HEAVENLY EARTH,HUMAN EARTH,EARTHLY HEAVEN,EARTHLY HUMAN,EARTH"⟩,
    ⟨0x1D306, "TETRAGRAM FOR ", "CENTRE,FULL CIRCLE,MIRED,BARRIER"⟩,
    ⟨0x1D30A, "TETRAGRAM FOR ", "KEEPING SMALL,CONTRARIETY,ASCENT,OPPOSITION,BRANCHING OUT"⟩,
    ⟨0x1D30F, "TETRAGRAM FOR ", "DEFECTIVENESS OR DISTORTION,DIVERGENCE,YOUTHFULNESS,INCREASE"⟩,
    ⟨0x1D313, "TETRAGRAM FOR ", "PENETRATION,REACH,CONTACT,HOLDING BACK,WAITING,FOLLOWING"⟩,
    ⟨0x1D319, "TETRAGRAM FOR ", "ADVANCE,RELEASE,RESISTANCE,EASE,JOY,CONTENTION,ENDEAVOUR"⟩,
    ⟨0x1D320, "TETRAGRAM FOR ", "DUTIES,CHANGE,DECISIVENESS,BOLD RESOLUTION,PACKING,LEGION"⟩,
    ⟨0x1D326, "TETRAGRAM FOR ", "CLOSENESS,KINSHIP,GATHERING,STRENGTH,PURITY,FULLNESS,RESIDENCE"⟩,
    ⟨0x1D32D, "TETRAGRAM FOR ", "LAW OR MODEL,RESPONSE,GOING TO MEET,ENCOUNTERS,STOVE,GREATNESS"⟩,
    ⟨0x1D333, "TETRAGRAM FOR ", "ENLARGEMENT,PATTERN,RITUAL,FLIGHT,VASTNESS OR WASTING,CONSTANCY"⟩,
    ⟨0x1D339, "TETRAGRAM FOR ", "MEASURE,ETERNITY,UNITY,DIMINISHMENT,CLOSED MOUTH,GUARDEDNESS"⟩,
    ⟨0x1D33F, "TETRAGRAM FOR ", "GATHERING IN,MASSING,ACCUMULATION,EMBELLISHMENT,DOUBT,WATCH"⟩,
    ⟨0x1D345, "TETRAGRAM FOR ", "SINKING,INNER,DEPARTURE,DARKENING,DIMMING,EXHAUSTION,SEVERANCE"⟩,
    ⟨0x1D34C, "TETRAGRAM FOR ", "STOPPAGE,HARDNESS,COMPLETION,CLOSURE,FAILURE,AGGRAVATION"⟩,
    ⟨0x1D352, "TETRAGRAM FOR ", "COMPLIANCE,ON THE VERGE,DIFFICULTIES,LABOURING,FOSTERING"⟩,
    ⟨0x1D360, "COUNTING ROD UNIT DIGIT ", "ONE,TWO,THREE,FOUR,FIVE,SIX,SEVEN,EIGHT,NINE"⟩,
    ⟨0x1D369, "COUNTING ROD TENS DIGIT ", "ONE,TWO,THREE,FOUR,FIVE,SIX,SEVEN,EIGHT,NINE"⟩,
    ⟨0x1D372, "IDEOGRAPHIC TALLY MARK ", "ONE,TWO,THREE,FOUR,FIVE"⟩,
    ⟨0x1D377, "TALLY MARK ", "ONE,FIVE"⟩,
    ⟨0x1D400, "MATHEMATICAL BOLD CAPITAL ", "A,B,C,D,E,F,G,H,I,J,K,L,M,N,O,P,Q,R,S,T,U,V,W,X,Y,Z"⟩,
    ⟨0x1D41A, "MATHEMATICAL BOLD SMALL ", "A,B,C,D,E,F,G,H,I,J,K,L,M,N,O,P,Q,R,S,T,U,V,W,X,Y,Z"⟩,
    ⟨0x1D434, "", "MATHEMATICAL ITALIC CAPITAL A"⟩,
    ⟨0x1D435, "MATHEMATICAL ITALIC CAPITAL ", "B,C,D,E,F,G,H,I,J,K,L,M,N,O,P,Q,R,S,T,U,V,W,X,Y,Z"⟩,
    ⟨0x1D44E, "MATHEMATICAL ITALIC SMALL ", "A,B,C,D,E,F,G"⟩,
    ⟨0x1D456, "MATHEMATICAL ITALIC SMALL ", "I,J,K,L,M,N,O,P,Q,R,S,T,U,V,W,X,Y,Z"⟩,
    ⟨0x1D468, "MATHEMATICAL BOLD ITALIC CAPITAL ", "A,B,C,D,E,F,G,H,I,J,K,L,M,N,O,P,Q,R,S,T,U,V,W"⟩,
    ⟨0x1D47F, "MATHEMATICAL BOLD ITALIC ", "CAPITAL X,CAPITAL Y,CAPITAL Z,SMALL A,SMALL B"⟩,
    ⟨0x1D484, "MATHEMATICAL BOLD ITALIC SMALL ", "C,D,E,F,G,H,I,J,K,L,M,N,O,P,Q,R,S,T,U,V,W,X,Y,Z"⟩,
    ⟨0x1D49C, "", "MATHEMATICAL SCRIPT CAPITAL A"⟩,
    ⟨0x1D49E, "MATHEMATICAL SCRIPT CAPITAL ", "C,D"⟩,
    ⟨0x1D4A2, "", "MATHEMATICAL SCRIPT CAPITAL G"⟩,
    ⟨0x1D4A5, "MATHEMATICAL SCRIPT CAPITAL ", "J,K"⟩,
    ⟨0x1D4A9, "MATHEMATICAL SCRIPT CAPITAL ", "N,O,P,Q"⟩,
    ⟨0x1D4AE, "MATHEMATICAL SCRIPT CAPITAL ", "S,T,U,V,W,X,Y,Z"⟩,
    ⟨0x1D4B6, "MATHEMATICAL SCRIPT SMALL ", "A,B,C,D"⟩,
    ⟨0x1D4BB, "", "MATHEMATICAL SCRIPT SMALL F"⟩,
    ⟨0x1D4BD, "MATHEMATICAL SCRIPT SMALL ", "H,I,J,K,L,M,N"⟩,
    ⟨0x1D4C5, "MATHEMATICAL SCRIPT SMALL ", "P,Q,R,S,T,U,V,W,X,Y,Z"⟩,
    ⟨0x1D4D0, "MATHEMATICAL BOLD SCRIPT CAPITAL ", "A,B,C,D,E,F,G,H,I,J,K,L,M,N,O,P,Q,R,S,T,U,V,W"⟩,
    ⟨0x1D4E7, "MATHEMATICAL BOLD SCRIPT ", "CAPITAL X,CAPITAL Y,CAPITAL Z,SMALL A,SMALL B"⟩,
    ⟨0x1D4EC, "MATHEMATICAL BOLD SCRIPT SMALL ", "C,D,E,F,G,H,I,J,K,L,M,N,O,P,Q,R,S,T,U,V,W,X,Y,Z"⟩,
    ⟨0x1D504, "MATHEMATICAL FRAKTUR CAPITAL ", "A,B"⟩,
    ⟨0x1D507, "MATHEMATICAL FRAKTUR CAPITAL ", "D,E,F,G"⟩,
    ⟨0x1D50D, "MATHEMATICAL FRAKTUR CAPITAL ", "J,K,L,M,N,O,P,Q"⟩,
    ⟨0x1D516, "MATHEMATICAL FRAKTUR CAPITAL ", "S,T,U,V,W,X,Y"⟩,
    ⟨0x1D51E, "MATHEMATICAL FRAKTUR SMALL ", "A,B,C,D,E,F,G,H,I,J,K,L,M,N,O,P,Q,R,S,T,U,V,W,X,Y,Z"⟩,
    ⟨0x1D538, "MATHEMATICAL DOUBLE-STRUCK CAPITAL ", "A,B"⟩,
    ⟨0x1D53B, "MATHEMATICAL DOUBLE-STRUCK CAPITAL ", "D,E,F,G"⟩,
    ⟨0x1D540, "MATHEMATICAL DOUBLE-STRUCK CAPITAL ", "I,J,K,L,M"⟩,
    ⟨0x1D546, "", "MATHEMATICAL DOUBLE-STRUCK CAPITAL O"⟩,
    ⟨0x1D54A, "MATHEMATICAL DOUBLE-STRUCK CAPITAL ", "S,T,U,V,W,X,Y"⟩,
    ⟨0x1D552, "MATHEMATICAL DOUBLE-STRUCK SMALL ", "A,B,C"⟩,
    ⟨0x1D555, "MATHEMATICAL DOUBLE-STRUCK SMALL ", "D,E,F,G,H,I,J,K,L,M,N,O,P,Q,R,S,T,U,V,W,X,Y,Z"⟩,
    ⟨0x1D56C, "MATHEMATICAL BOLD FRAKTUR CAPITAL ", "A,B,C,D"⟩,
    ⟨0x1D570, "MATHEMATICAL BOLD FRAKTUR CAPITAL ", "E,F,G,H,I,J,K,L,M,N,O,P,Q,R,S,T,U,V,W,X,Y,Z"⟩,
    ⟨0x1D586, "MATHEMATICAL BOLD FRAKTUR SMALL ", "A,B,C"⟩,
    ⟨0x1D589, "MATHEMATICAL BOLD FRAKTUR SMALL ", "D,E,F,G,H,I,J,K,L,M,N,O,P,Q,R,S,T,U,V,W,X,Y,Z"⟩,
    ⟨0x1D5A0, "MATHEMATICAL SANS-SERIF CAPITAL ", "A,B,C,D,E,F,G,H,I,J,K,L,M,N,O,P,Q,R,S,T,U,V,W"⟩,
    ⟨0x1D5B7, "MATHEMATICAL SANS-SERIF ", "CAPITAL X,CAPITAL Y,CAPITAL Z,SMALL A,SMALL B"⟩,
    ⟨0x1D5BC, "MATHEMATICAL SANS-SERIF SMALL ", "C,D,E,F,G,H,I,J,K,L,M,N,O,P,Q,R,S,T,U,V,W,X,Y,Z"⟩,
    ⟨0x1D5D4, "MATHEMATICAL SANS-SERIF BOLD CAPITAL ", "A,B,C,D,E"⟩,
    ⟨0x1D5D9, "MATHEMATICAL SANS-SERIF BOLD CAPITAL ", "F,G,H,I,J,K,L,M,N,O,P,Q,R,S,T,U,V,W,X,Y,Z"⟩,
    ⟨0x1D5EE, "MATHEMATICAL SANS-SERIF BOLD SMALL ", "A,B,C,D"⟩,
    ⟨0x1D5F2, "MATHEMATICAL SANS-SERIF BOLD SMALL ", "E,F,G,H,I,J,K,L,M,N,O,P,Q,R,S,T,U,V,W,X,Y,Z"⟩,
    ⟨0x1D608, "MATHEMATICAL SANS-SERIF ITALIC CAPITAL ", "A,B,C,D,E,F"⟩,
    ⟨0x1D60E, "MATHEMATICAL SANS-SERIF ITALIC CAPITAL ", "G,H,I,J,K,L,M,N,O,P,Q,R,S,T,U,V,W,X,Y,Z"⟩,
    ⟨0x1D622, "MATHEMATICAL SANS-SERIF ITALIC SMALL ", "A,B,C,D,E"⟩,
    ⟨0x1D627, "MATHEMATICAL SANS-SERIF ITALIC SMALL ", "F,G,H,I,J,K,L,M,N,O,P,Q,R,S,T,U,V,W,X,Y,Z"⟩,
    ⟨0x1D63C, "MATHEMATICAL SANS-SERIF BOLD ITALIC CAPITAL ", "A,B,C,D,E,F,G,H,I"⟩,
    ⟨0x1D645, "MATHEMATICAL SANS-SERIF BOLD ITALIC CAPITAL ", "J,K,L,M,N,O,P,Q,R,S,T,U,V,W,X,Y,Z"⟩,
    ⟨0x1D656, "MATHEMATICAL SANS-SERIF BOLD ITALIC SMALL ", "A,B,C,D,E,F,G,H"⟩,
    ⟨0x1D65E, "MATHEMATICAL SANS-SERIF BOLD ITALIC SMALL ", "I,J,K,L,M,N,O,P,Q,R,S,T,U,V,W,X,Y,Z"⟩,
    ⟨0x1D670, "MATHEMATICAL MONOSPACE CAPITAL ", "A,B,C,D,E,F,G,H,I,J,K,L,M,N,O,P,Q,R,S,T,U,V,W,X"⟩,
    ⟨0x1D688, "MATHEMATICAL MONOSPACE ", "CAPITAL Y,CAPITAL Z,SMALL A"⟩,
    ⟨0x1D68B, "MATHEMATICAL MONOSPACE SMALL ", "B,C,D,E,F,G,H,I,J,K,L,M,N,O,P,Q,R,S,T,U,V,W,X,Y,Z"⟩,
    ⟨0x1D6A4, "MATHEMATICAL ITALIC SMALL DOTLESS ", "I,J"⟩,
    ⟨0x1D6A8, "MATHEMATICAL BOLD CAPITAL ", "ALPHA,BETA,GAMMA,DELTA,EPSILON"⟩,
    ⟨0x1D6AD, "MATHEMATICAL BOLD CAPITAL ", "ZETA,ETA,THETA,IOTA,KAPPA,LAMDA,MU,NU,XI,OMICRON,PI"⟩,
    ⟨0x1D6B8, "MATHEMATICAL BOLD CAPITAL ", "RHO,THETA SYMBOL,SIGMA,TAU,UPSILON,PHI,CHI,PSI,OMEGA"⟩,
    ⟨0x1D6C1, "MATHEMATICAL BOLD ", "NABLA,SMALL ALPHA,SMALL BETA,SMALL GAMMA"⟩,
    ⟨0x1D6C5, "MATHEMATICAL BOLD SMALL ", "DELTA,EPSILON,ZETA,ETA,THETA,IOTA,KAPPA,LAMDA,MU,NU,XI"⟩,
    ⟨0x1D6D0, "MATHEMATICAL BOLD SMALL ", "OMICRON,PI,RHO,FINAL SIGMA,SIGMA,TAU,UPSILON,PHI,CHI"⟩,
    ⟨0x1D6D9, "MATHEMATICAL BOLD ", "SMALL PSI,SMALL OMEGA,PARTIAL DIFFERENTIAL,EPSILON SYMBOL"⟩,
    ⟨0x1D6DD, "MATHEMATICAL BOLD ", "THETA SYMBOL,KAPPA SYMBOL,PHI SYMBOL,RHO SYMBOL,PI SYMBOL"⟩,
    ⟨0x1D6E2, "MATHEMATICAL ITALIC CAPITAL ", "ALPHA,BETA,GAMMA,DELTA,EPSILON,ZETA"⟩,
    ⟨0x1D6E8, "MATHEMATICAL ITALIC CAPITAL ", "ETA,THETA,IOTA,KAPPA,LAMDA,MU,NU,XI,OMICRON,PI,RHO"⟩,
    ⟨0x1D6F3, "MATHEMATICAL ITALIC CAPITAL ", "THETA SYMBOL,SIGMA,TAU,UPSILON,PHI,CHI,PSI,OMEGA"⟩,
    ⟨0x1D6FB, "MATHEMATICAL ITALIC ", "NABLA,SMALL ALPHA,SMALL BETA,SMALL GAMMA,SMALL DELTA"⟩,
    ⟨0x1D700, "MATHEMATICAL ITALIC SMALL ", "EPSILON,ZETA,ETA,THETA,IOTA,KAPPA,LAMDA,MU,NU,XI"⟩,
    ⟨0x1D70A, "MATHEMATICAL ITALIC SMALL ", "OMICRON,PI,RHO,FINAL SIGMA,SIGMA,TAU,UPSILON,PHI,CHI"⟩,
    ⟨0x1D713, "MATHEMATICAL ITALIC ", "SMALL PSI,SMALL OMEGA,PARTIAL DIFFERENTIAL,EPSILON SYMBOL"⟩,
    ⟨0x1D717, "MATHEMATICAL ITALIC ", "THETA SYMBOL,KAPPA SYMBOL,PHI SYMBOL,RHO SYMBOL,PI SYMBOL"⟩,
    ⟨0x1D71C, "MATHEMATICAL BOLD ITALIC CAPITAL ", "ALPHA,BETA,GAMMA,DELTA,EPSILON,ZETA,ETA,THETA"⟩,
    ⟨0x1D724, "MATHEMATICAL BOLD ITALIC CAPITAL ", "IOTA,KAPPA,LAMDA,MU,NU,XI,OMICRON,PI,RHO"⟩,
    ⟨0x1D72D, "MATHEMATICAL BOLD ITALIC CAPITAL ", "THETA SYMBOL,SIGMA,TAU,UPSILON,PHI,CHI,PSI"⟩,
    ⟨0x1D734, "MATHEMATICAL BOLD ITALIC ", "CAPITAL OMEGA,NABLA"⟩,
    ⟨0x1D736, "MATHEMATICAL BOLD ITALIC SMALL ", "ALPHA,BETA,GAMMA,DELTA,EPSILON,ZETA,ETA"⟩,
    ⟨0x1D73D, "MATHEMATICAL BOLD ITALIC SMALL ", "THETA,IOTA,KAPPA,LAMDA,MU,NU,XI,OMICRON,PI,RHO"⟩,
    ⟨0x1D747, "MATHEMATICAL BOLD ITALIC SMALL ", "FINAL SIGMA,SIGMA,TAU,UPSILON,PHI,CHI,PSI,OMEGA"⟩,
    ⟨0x1D74F, "MATHEMATICAL BOLD ITALIC ", "PARTIAL DIFFERENTIAL,EPSILON SYMBOL,THETA SYMBOL"⟩,
    ⟨0x1D752, "MATHEMATICAL BOLD ITALIC ", "KAPPA SYMBOL,PHI SYMBOL,RHO SYMBOL,PI SYMBOL"⟩,
    ⟨0x1D756, "MATHEMATICAL SANS-SERIF BOLD CAPITAL ", "ALPHA,BETA,GAMMA,DELTA"⟩,
    ⟨0x1D75A, "MATHEMATICAL SANS-SERIF BOLD CAPITAL ", "EPSILON,ZETA,ETA,THETA,IOTA,KAPPA,LAMDA"⟩,
    ⟨0x1D761, "MATHEMATICAL SANS-SERIF BOLD CAPITAL ", "MU,NU,XI,OMICRON,PI,RHO,THETA SYMBOL"⟩,
    ⟨0x1D768, "MATHEMATICAL SANS-SERIF BOLD CAPITAL ", "SIGMA,TAU,UPSILON,PHI,CHI,PSI,OMEGA"⟩,
    ⟨0x1D76F, "MATHEMATICAL SANS-SERIF BOLD ", "NABLA,SMALL ALPHA,SMALL BETA,SMALL GAMMA"⟩,
    ⟨0x1D773, "MATHEMATICAL SANS-SERIF BOLD SMALL ", "DELTA,EPSILON,ZETA,ETA,THETA,IOTA,KAPPA"⟩,
    ⟨0x1D77A, "MATHEMATICAL SANS-SERIF BOLD SMALL ", "LAMDA,MU,NU,XI,OMICRON,PI,RHO,FINAL SIGMA"⟩,
    ⟨0x1D782, "MATHEMATICAL SANS-SERIF BOLD SMALL ", "SIGMA,TAU,UPSILON,PHI,CHI,PSI,OMEGA"⟩,
    ⟨0x1D789, "MATHEMATICAL SANS-SERIF BOLD ", "PARTIAL DIFFERENTIAL,EPSILON SYMBOL,THETA SYMBOL"⟩,
    ⟨0x1D78C, "MATHEMATICAL SANS-SERIF BOLD ", "KAPPA SYMBOL,PHI SYMBOL,RHO SYMBOL,PI SYMBOL"⟩,
    ⟨0x1D790, "MATHEMATICAL SANS-SERIF BOLD ITALIC CAPITAL ", "ALPHA,BETA,GAMMA,DELTA,EPSILON"⟩,
    ⟨0x1D795, "MATHEMATICAL SANS-SERIF BOLD ITALIC CAPITAL ", "ZETA,ETA,THETA,IOTA,KAPPA,LAMDA,MU"⟩,
    ⟨0x1D79C, "MATHEMATICAL SANS-SERIF BOLD ITALIC CAPITAL ", "NU,XI,OMICRON,PI,RHO,THETA SYMBOL"⟩,
    ⟨0x1D7A2, "MATHEMATICAL SANS-SERIF BOLD ITALIC CAPITAL ", "SIGMA,TAU,UPSILON,PHI,CHI,PSI"⟩,
    ⟨0x1D7A8, "MATHEMATICAL SANS-SERIF BOLD ITALIC ", "CAPITAL OMEGA,NABLA"⟩,
    ⟨0x1D7AA, "MATHEMATICAL SANS-SERIF BOLD ITALIC SMALL ", "ALPHA,BETA,GAMMA,DELTA,EPSILON"⟩,
    ⟨0x1D7AF, "MATHEMATICAL SANS-SERIF BOLD ITALIC SMALL ", "ZETA,ETA,THETA,IOTA,KAPPA,LAMDA"⟩,
    ⟨0x1D7B5, "MATHEMATICAL SANS-SERIF BOLD ITALIC SMALL ", "MU,NU,XI,OMICRON,PI,RHO,FINAL SIGMA"⟩,
    ⟨0x1D7BC, "MATHEMATICAL SANS-SERIF BOLD ITALIC SMALL ", "SIGMA,TAU,UPSILON,PHI,CHI,PSI,OMEGA"⟩,
    ⟨0x1D7C3, "", "MATHEMATICAL SANS-SERIF BOLD ITALIC PARTIAL DIFFERENTIAL"⟩,
    ⟨0x1D7C4, "MATHEMATICAL SANS-SERIF BOLD ITALIC ", "EPSILON SYMBOL,THETA SYMBOL,KAPPA SYMBOL"⟩,
    ⟨0x1D7C7, "MATHEMATICAL SANS-SERIF BOLD ITALIC ", "PHI SYMBOL,RHO SYMBOL,PI SYMBOL"⟩,
    ⟨0x1D7CA, "MATHEMATICAL BOLD ", "CAPITAL DIGAMMA,SMALL DIGAMMA"⟩,
    ⟨0x1D7CE, "MATHEMATICAL BOLD DIGIT ", "ZERO,ONE,TWO,THREE,FOUR,FIVE,SIX,SEVEN,EIGHT,NINE"⟩,
    ⟨0x1D7D8, "", "MATHEMATICAL DOUBLE-STRUCK DIGIT ZERO"⟩,
    ⟨0x1D7D9, "MATHEMATICAL DOUBLE-STRUCK DIGIT ", "ONE,TWO,THREE,FOUR,FIVE,SIX,SEVEN,EIGHT,NINE"⟩,
    ⟨0x1D7E2, "MATHEMATICAL SANS-SERIF DIGIT ", "ZERO,ONE,TWO,THREE,FOUR,FIVE,SIX,SEVEN,EIGHT"⟩,
    ⟨0x1D7EB, "MATHEMATICAL SANS-SERIF ", "DIGIT NINE,BOLD DIGIT ZERO,BOLD DIGIT ONE"⟩,
    ⟨0x1D7EE, "MATHEMATICAL SANS-SERIF BOLD DIGIT ", "TWO,THREE,FOUR,FIVE,SIX,SEVEN,EIGHT,NINE"⟩,
    ⟨0x1D7F6, "MATHEMATICAL MONOSPACE DIGIT ", "ZERO,ONE,TWO,THREE,FOUR,FIVE,SIX,SEVEN,EIGHT,NINE"⟩,
    ⟨0x1D800, "", "SIGNWRITING HAND-FIST INDEX"⟩,
    ⟨0x1D801, "SIGNWRITING HAND-", "CIRCLE INDEX,CUP INDEX,OVAL INDEX,HINGE INDEX,ANGLE INDEX"⟩,
    ⟨0x1D806, "SIGNWRITING HAND-", "FIST INDEX BENT,CIRCLE INDEX BENT,FIST THUMB UNDER INDEX BENT"⟩,
    ⟨0x1D809, "SIGNWRITING HAND-FIST INDEX ", "RAISED KNUCKLE,CUPPED,HINGED,HINGED LOW"⟩,
    ⟨0x1D80D, "SIGNWRITING HAND-", "CIRCLE INDEX HINGE,FIST INDEX MIDDLE,CIRCLE INDEX MIDDLE"⟩,
    ⟨0x1D810, "SIGNWRITING HAND-FIST INDEX MIDDLE ", "BENT,RAISED KNUCKLES,HINGED"⟩,
    ⟨0x1D813, "SIGNWRITING HAND-FIST INDEX ", "UP MIDDLE HINGED,HINGED MIDDLE UP,MIDDLE CONJOINED"⟩,
    ⟨0x1D816, "SIGNWRITING HAND-FIST INDEX MIDDLE CONJOINED ", "INDEX BENT,MIDDLE BENT,CUPPED"⟩,
    ⟨0x1D819, "SIGNWRITING HAND-FIST INDEX MIDDLE ", "CONJOINED HINGED,CROSSED"⟩,
    ⟨0x1D81B, "SIGNWRITING HAND-", "CIRCLE INDEX MIDDLE CROSSED,FIST MIDDLE BENT OVER INDEX"⟩,
    ⟨0x1D81D, "SIGNWRITING HAND-FIST INDEX ", "BENT OVER MIDDLE,MIDDLE THUMB"⟩,
    ⟨0x1D81F, "", "SIGNWRITING HAND-CIRCLE INDEX MIDDLE THUMB"⟩,
    ⟨0x1D820, "SIGNWRITING HAND-FIST INDEX MIDDLE ", "STRAIGHT THUMB BENT,BENT THUMB STRAIGHT"⟩,
    ⟨0x1D822, "SIGNWRITING HAND-FIST INDEX MIDDLE ", "THUMB BENT,HINGED SPREAD THUMB SIDE"⟩,
    ⟨0x1D824, "SIGNWRITING HAND-FIST INDEX UP MIDDLE HINGED THUMB ", "SIDE,CONJOINED"⟩,
    ⟨0x1D826, "", "SIGNWRITING HAND-FIST INDEX HINGED MIDDLE UP THUMB SIDE"⟩,
    ⟨0x1D827, "", "SIGNWRITING HAND-FIST INDEX MIDDLE UP SPREAD THUMB FORWARD"⟩,
    ⟨0x1D828, "SIGNWRITING HAND-FIST INDEX MIDDLE THUMB ", "CUPPED,CIRCLED,HOOKED,HINGED"⟩,
    ⟨0x1D82C, "", "SIGNWRITING HAND-FIST THUMB BETWEEN INDEX MIDDLE STRAIGHT"⟩,
    ⟨0x1D82D, "", "SIGNWRITING HAND-FIST INDEX MIDDLE CONJOINED THUMB SIDE"⟩,
    ⟨0x1D82E, "SIGNWRITING HAND-FIST INDEX MIDDLE CONJOINED THUMB SIDE ", "CONJOINED,BENT"⟩,
    ⟨0x1D830, "", "SIGNWRITING HAND-FIST MIDDLE THUMB HOOKED INDEX UP"⟩,
    ⟨0x1D831, "", "SIGNWRITING HAND-FIST INDEX THUMB HOOKED MIDDLE UP"⟩,
    ⟨0x1D832, "", "SIGNWRITING HAND-FIST INDEX MIDDLE CONJOINED HINGED THUMB SIDE"⟩,
    ⟨0x1D833, "SIGNWRITING HAND-FIST INDEX MIDDLE ", "CROSSED THUMB SIDE,CONJOINED THUMB FORWARD"⟩,
    ⟨0x1D835, "", "SIGNWRITING HAND-FIST INDEX MIDDLE CONJOINED CUPPED THUMB FORWARD"⟩,
    ⟨0x1D836, "", "SIGNWRITING HAND-FIST MIDDLE THUMB CUPPED INDEX UP"⟩,
    ⟨0x1D837, "", "SIGNWRITING HAND-FIST INDEX THUMB CUPPED MIDDLE UP"⟩,
    ⟨0x1D838, "SIGNWRITING HAND-FIST MIDDLE THUMB CIRCLED INDEX ", "UP,HINGED"⟩,
    ⟨0x1D83A, "SIGNWRITING HAND-FIST INDEX THUMB ANGLED ", "OUT MIDDLE UP,IN MIDDLE UP"⟩,
    ⟨0x1D83C, "", "SIGNWRITING HAND-FIST INDEX THUMB CIRCLED MIDDLE UP"⟩,
    ⟨0x1D83D, "SIGNWRITING HAND-FIST INDEX MIDDLE THUMB ", "CONJOINED HINGED,ANGLED OUT,ANGLED"⟩,
    ⟨0x1D840, "SIGNWRITING HAND-FIST MIDDLE THUMB ANGLED OUT INDEX ", "UP,CROSSED"⟩,
    ⟨0x1D842, "", "SIGNWRITING HAND-FIST MIDDLE THUMB ANGLED INDEX UP"⟩,
    ⟨0x1D843, "SIGNWRITING HAND-", "FIST INDEX THUMB HOOKED MIDDLE HINGED,FLAT FOUR FINGERS"⟩,
    ⟨0x1D845, "SIGNWRITING HAND-FLAT FOUR FINGERS ", "BENT,HINGED,CONJOINED,CONJOINED SPLIT"⟩,
    ⟨0x1D849, "SIGNWRITING HAND-", "CLAW FOUR FINGERS CONJOINED,FIST FOUR FINGERS CONJOINED BENT"⟩,
    ⟨0x1D84B, "SIGNWRITING HAND-", "HINGE FOUR FINGERS CONJOINED,FLAT FIVE FINGERS SPREAD"⟩,
    ⟨0x1D84D, "SIGNWRITING HAND-FLAT ", "HEEL FIVE FINGERS SPREAD,FIVE FINGERS SPREAD FOUR BENT"⟩,
    ⟨0x1D84F, "", "SIGNWRITING HAND-FLAT HEEL FIVE FINGERS SPREAD FOUR BENT"⟩,
    ⟨0x1D850, "SIGNWRITING HAND-FLAT ", "FIVE FINGERS SPREAD BENT,HEEL FIVE FINGERS SPREAD BENT"⟩,
    ⟨0x1D852, "", "SIGNWRITING HAND-FLAT FIVE FINGERS SPREAD THUMB FORWARD"⟩,
    ⟨0x1D853, "SIGNWRITING HAND-CUP FIVE FINGERS ", "SPREAD,SPREAD OPEN"⟩,
    ⟨0x1D855, "SIGNWRITING HAND-", "HINGE FIVE FINGERS SPREAD OPEN,OVAL FIVE FINGERS SPREAD"⟩,
    ⟨0x1D857, "SIGNWRITING HAND-FLAT FIVE FINGERS SPREAD ", "HINGED,HINGED THUMB SIDE"⟩,
    ⟨0x1D859, "SIGNWRITING HAND-", "FLAT FIVE FINGERS SPREAD HINGED NO THUMB,FLAT"⟩,
    ⟨0x1D85B, "SIGNWRITING HAND-FLAT ", "BETWEEN PALM FACINGS,HEEL,THUMB SIDE,HEEL THUMB SIDE"⟩,
    ⟨0x1D85F, "SIGNWRITING HAND-FLAT ", "THUMB BENT,THUMB FORWARD,SPLIT INDEX THUMB SIDE"⟩,
    ⟨0x1D862, "SIGNWRITING HAND-FLAT SPLIT ", "CENTRE,CENTRE THUMB SIDE,CENTRE THUMB SIDE BENT"⟩,
    ⟨0x1D865, "SIGNWRITING HAND-", "FLAT SPLIT LITTLE,CLAW,CLAW THUMB SIDE,CLAW NO THUMB"⟩,
    ⟨0x1D869, "SIGNWRITING HAND-", "CLAW THUMB FORWARD,HOOK CURLICUE,HOOK,CUP OPEN,CUP"⟩,
    ⟨0x1D86E, "SIGNWRITING HAND-CUP ", "OPEN THUMB SIDE,THUMB SIDE,OPEN NO THUMB,NO THUMB"⟩,
    ⟨0x1D872, "SIGNWRITING HAND-", "CUP OPEN THUMB FORWARD,CUP THUMB FORWARD,CURLICUE OPEN"⟩,
    ⟨0x1D875, "SIGNWRITING HAND-", "CURLICUE,CIRCLE,OVAL,OVAL THUMB SIDE,OVAL NO THUMB"⟩,
    ⟨0x1D87A, "SIGNWRITING HAND-", "OVAL THUMB FORWARD,HINGE OPEN,HINGE OPEN THUMB FORWARD,HINGE"⟩,
    ⟨0x1D87E, "SIGNWRITING HAND-HINGE ", "SMALL,OPEN THUMB SIDE,THUMB SIDE,OPEN NO THUMB,NO THUMB"⟩,
    ⟨0x1D883, "SIGNWRITING HAND-HINGE THUMB ", "SIDE TOUCHING INDEX,BETWEEN MIDDLE RING"⟩,
    ⟨0x1D885, "SIGNWRITING HAND-", "ANGLE,FIST INDEX MIDDLE RING,CIRCLE INDEX MIDDLE RING"⟩,
    ⟨0x1D888, "SIGNWRITING HAND-", "HINGE INDEX MIDDLE RING,ANGLE INDEX MIDDLE RING,HINGE LITTLE"⟩,
    ⟨0x1D88B, "SIGNWRITING HAND-FIST INDEX MIDDLE RING ", "BENT,CONJOINED"⟩,
    ⟨0x1D88D, "SIGNWRITING HAND-", "HINGE INDEX MIDDLE RING CONJOINED,FIST LITTLE DOWN"⟩,
    ⟨0x1D88F, "SIGNWRITING HAND-FIST LITTLE DOWN ", "RIPPLE STRAIGHT,RIPPLE CURVED,OTHERS CIRCLED"⟩,
    ⟨0x1D892, "SIGNWRITING HAND-FIST ", "LITTLE UP,THUMB UNDER LITTLE UP"⟩,
    ⟨0x1D894, "SIGNWRITING HAND-", "CIRCLE LITTLE UP,OVAL LITTLE UP,ANGLE LITTLE UP"⟩,
    ⟨0x1D897, "SIGNWRITING HAND-FIST LITTLE ", "RAISED KNUCKLE,BENT,TOUCHES THUMB,THUMB"⟩,
    ⟨0x1D89B, "", "SIGNWRITING HAND-HINGE LITTLE THUMB"⟩,
    ⟨0x1D89C, "SIGNWRITING HAND-", "FIST LITTLE INDEX THUMB,HINGE LITTLE INDEX THUMB"⟩,
    ⟨0x1D89E, "SIGNWRITING HAND-ANGLE LITTLE INDEX THUMB INDEX ", "THUMB OUT,THUMB"⟩,
    ⟨0x1D8A0, "", "SIGNWRITING HAND-FIST LITTLE INDEX"⟩,
    ⟨0x1D8A1, "SIGNWRITING HAND-", "CIRCLE LITTLE INDEX,HINGE LITTLE INDEX,ANGLE LITTLE INDEX"⟩,
    ⟨0x1D8A4, "SIGNWRITING HAND-", "FIST INDEX MIDDLE LITTLE,CIRCLE INDEX MIDDLE LITTLE"⟩,
    ⟨0x1D8A6, "SIGNWRITING HAND-HINGE ", "INDEX MIDDLE LITTLE,RING"⟩,
    ⟨0x1D8A8, "SIGNWRITING HAND-", "ANGLE INDEX MIDDLE LITTLE,FIST INDEX MIDDLE CROSS LITTLE"⟩,
    ⟨0x1D8AA, "", "SIGNWRITING HAND-CIRCLE INDEX MIDDLE CROSS LITTLE"⟩,
    ⟨0x1D8AB, "SIGNWRITING HAND-", "FIST RING DOWN,HINGE RING DOWN INDEX THUMB HOOK MIDDLE"⟩,
    ⟨0x1D8AD, "SIGNWRITING HAND-", "ANGLE RING DOWN MIDDLE THUMB INDEX CROSS,FIST RING UP"⟩,
    ⟨0x1D8AF, "SIGNWRITING HAND-", "FIST RING RAISED KNUCKLE,FIST RING LITTLE,CIRCLE RING LITTLE"⟩,
    ⟨0x1D8B2, "SIGNWRITING HAND-", "OVAL RING LITTLE,ANGLE RING LITTLE,FIST RING MIDDLE"⟩,
    ⟨0x1D8B5, "SIGNWRITING HAND-FIST RING ", "MIDDLE CONJOINED,MIDDLE RAISED KNUCKLES,INDEX,THUMB"⟩,
    ⟨0x1D8B9, "SIGNWRITING HAND-", "HOOK RING THUMB,FIST INDEX RING LITTLE"⟩,
    ⟨0x1D8BB, "SIGNWRITING HAND-", "CIRCLE INDEX RING LITTLE,CURLICUE INDEX RING LITTLE ON"⟩,
    ⟨0x1D8BD, "SIGNWRITING HAND-HOOK INDEX RING LITTLE ", "OUT,IN,UNDER"⟩,
    ⟨0x1D8C0, "SIGNWRITING HAND-", "CUP INDEX RING LITTLE,HINGE INDEX RING LITTLE"⟩,
    ⟨0x1D8C2, "SIGNWRITING HAND-ANGLE INDEX RING ", "LITTLE OUT,LITTLE"⟩,
    ⟨0x1D8C4, "SIGNWRITING HAND-", "FIST MIDDLE DOWN,HINGE MIDDLE,FIST MIDDLE UP,CIRCLE MIDDLE UP"⟩,
    ⟨0x1D8C8, "SIGNWRITING HAND-FIST MIDDLE ", "RAISED KNUCKLE,UP THUMB SIDE"⟩,
    ⟨0x1D8CA, "", "SIGNWRITING HAND-HOOK MIDDLE THUMB"⟩,
    ⟨0x1D8CB, "SIGNWRITING HAND-FIST MIDDLE ", "THUMB LITTLE,LITTLE,RING LITTLE"⟩,
    ⟨0x1D8CE, "SIGNWRITING HAND-", "CIRCLE MIDDLE RING LITTLE,CURLICUE MIDDLE RING LITTLE ON"⟩,
    ⟨0x1D8D0, "SIGNWRITING HAND-", "CUP MIDDLE RING LITTLE,HINGE MIDDLE RING LITTLE"⟩,
    ⟨0x1D8D2, "SIGNWRITING HAND-ANGLE MIDDLE RING ", "LITTLE OUT,LITTLE IN,LITTLE"⟩,
    ⟨0x1D8D5, "", "SIGNWRITING HAND-CIRCLE MIDDLE RING LITTLE BENT"⟩,
    ⟨0x1D8D6, "SIGNWRITING HAND-CLAW MIDDLE RING LITTLE ", "CONJOINED,CONJOINED SIDE"⟩,
    ⟨0x1D8D8, "SIGNWRITING HAND-HOOK MIDDLE RING LITTLE ", "CONJOINED OUT,CONJOINED IN,CONJOINED"⟩,
    ⟨0x1D8DB, "", "SIGNWRITING HAND-HINGE INDEX HINGED"⟩,
    ⟨0x1D8DC, "SIGNWRITING HAND-", "FIST INDEX THUMB SIDE,HINGE INDEX THUMB SIDE"⟩,
    ⟨0x1D8DE, "SIGNWRITING HAND-FIST INDEX THUMB SIDE THUMB ", "DIAGONAL,CONJOINED,BENT"⟩,
    ⟨0x1D8E1, "SIGNWRITING HAND-FIST INDEX THUMB SIDE ", "INDEX BENT,BOTH BENT,INDEX HINGE"⟩,
    ⟨0x1D8E4, "SIGNWRITING HAND-FIST INDEX THUMB FORWARD INDEX ", "STRAIGHT,BENT"⟩,
    ⟨0x1D8E6, "SIGNWRITING HAND-FIST INDEX THUMB ", "HOOK,CURLICUE,CURVE THUMB INSIDE"⟩,
    ⟨0x1D8E9, "", "SIGNWRITING HAND-CLAW INDEX THUMB CURVE THUMB INSIDE"⟩,
    ⟨0x1D8EA, "SIGNWRITING HAND-FIST INDEX THUMB ", "CURVE THUMB UNDER,CIRCLE"⟩,
    ⟨0x1D8EC, "SIGNWRITING HAND-CUP INDEX ", "THUMB,THUMB OPEN"⟩,
    ⟨0x1D8EE, "SIGNWRITING HAND-HINGE INDEX ", "THUMB OPEN,THUMB LARGE,THUMB,THUMB SMALL"⟩,
    ⟨0x1D8F2, "SIGNWRITING HAND-ANGLE INDEX ", "THUMB OUT,THUMB IN,THUMB"⟩,
    ⟨0x1D8F5, "SIGNWRITING HAND-FIST ", "THUMB,THUMB HEEL"⟩,
    ⟨0x1D8F7, "SIGNWRITING HAND-FIST THUMB ", "SIDE DIAGONAL,SIDE CONJOINED,SIDE BENT,FORWARD"⟩,
    ⟨0x1D8FB, "SIGNWRITING HAND-FIST THUMB BETWEEN ", "INDEX MIDDLE,MIDDLE RING,RING LITTLE"⟩,
    ⟨0x1D8FE, "SIGNWRITING HAND-FIST THUMB ", "UNDER TWO FINGERS,OVER TWO FINGERS"⟩,
    ⟨0x1D900, "SIGNWRITING HAND-FIST THUMB UNDER ", "THREE FINGERS,FOUR FINGERS"⟩,
    ⟨0x1D902, "SIGNWRITING HAND-", "FIST THUMB OVER FOUR RAISED KNUCKLES,FIST,FIST HEEL"⟩,
    ⟨0x1D905, "SIGNWRITING TOUCH ", "SINGLE,MULTIPLE,BETWEEN"⟩,
    ⟨0x1D908, "SIGNWRITING GRASP ", "SINGLE,MULTIPLE,BETWEEN"⟩,
    ⟨0x1D90B, "SIGNWRITING STRIKE ", "SINGLE,MULTIPLE,BETWEEN"⟩,
    ⟨0x1D90E, "SIGNWRITING ", "BRUSH SINGLE,BRUSH MULTIPLE,BRUSH BETWEEN,RUB SINGLE,RUB MULTIPLE"⟩,
    ⟨0x1D913, "SIGNWRITING ", "RUB BETWEEN,SURFACE SYMBOLS,SURFACE BETWEEN,SQUEEZE LARGE SINGLE"⟩,
    ⟨0x1D917, "SIGNWRITING SQUEEZE ", "SMALL SINGLE,LARGE MULTIPLE,SMALL MULTIPLE,SEQUENTIAL"⟩,
    ⟨0x1D91B, "SIGNWRITING FLICK ", "LARGE SINGLE,SMALL SINGLE,LARGE MULTIPLE,SMALL MULTIPLE"⟩,
    ⟨0x1D91F, "SIGNWRITING ", "FLICK SEQUENTIAL,SQUEEZE FLICK ALTERNATING"⟩,
    ⟨0x1D921, "SIGNWRITING MOVEMENT-HINGE UP ", "DOWN LARGE,DOWN SMALL,SEQUENTIAL"⟩,
    ⟨0x1D924, "SIGNWRITING MOVEMENT-HINGE ", "DOWN SEQUENTIAL,UP DOWN ALTERNATING LARGE"⟩,
    ⟨0x1D926, "SIGNWRITING MOVEMENT-HINGE ", "UP DOWN ALTERNATING SMALL,SIDE TO SIDE SCISSORS"⟩,
    ⟨0x1D928, "SIGNWRITING MOVEMENT-", "WALLPLANE FINGER CONTACT,FLOORPLANE FINGER CONTACT"⟩,
    ⟨0x1D92A, "SIGNWRITING MOVEMENT-WALLPLANE SINGLE STRAIGHT ", "SMALL,MEDIUM,LARGE,LARGEST"⟩,
    ⟨0x1D92E, "", "SIGNWRITING MOVEMENT-WALLPLANE SINGLE WRIST FLEX"⟩,
    ⟨0x1D92F, "SIGNWRITING MOVEMENT-WALLPLANE DOUBLE ", "STRAIGHT,WRIST FLEX,ALTERNATING"⟩,
    ⟨0x1D932, "SIGNWRITING MOVEMENT-WALLPLANE ", "DOUBLE ALTERNATING WRIST FLEX,CROSS"⟩,
    ⟨0x1D934, "SIGNWRITING MOVEMENT-WALLPLANE TRIPLE ", "STRAIGHT MOVEMENT,WRIST FLEX"⟩,
    ⟨0x1D936, "SIGNWRITING MOVEMENT-WALLPLANE TRIPLE ", "ALTERNATING,ALTERNATING WRIST FLEX"⟩,
    ⟨0x1D938, "SIGNWRITING MOVEMENT-WALLPLANE BEND ", "SMALL,MEDIUM,LARGE"⟩,
    ⟨0x1D93B, "SIGNWRITING MOVEMENT-WALLPLANE CORNER ", "SMALL,MEDIUM,LARGE,ROTATION"⟩,
    ⟨0x1D93F, "SIGNWRITING MOVEMENT-WALLPLANE CHECK ", "SMALL,MEDIUM,LARGE"⟩,
    ⟨0x1D942, "SIGNWRITING MOVEMENT-WALLPLANE BOX ", "SMALL,MEDIUM,LARGE"⟩,
    ⟨0x1D945, "SIGNWRITING MOVEMENT-WALLPLANE ZIGZAG ", "SMALL,MEDIUM,LARGE"⟩,
    ⟨0x1D948, "SIGNWRITING MOVEMENT-WALLPLANE PEAKS ", "SMALL,MEDIUM,LARGE"⟩,
    ⟨0x1D94B, "SIGNWRITING TRAVEL-WALLPLANE ROTATION-WALLPLANE ", "SINGLE,DOUBLE,ALTERNATING"⟩,
    ⟨0x1D94E, "SIGNWRITING TRAVEL-WALLPLANE ROTATION-FLOORPLANE ", "SINGLE,DOUBLE,ALTERNATING"⟩,
    ⟨0x1D951, "", "SIGNWRITING TRAVEL-WALLPLANE SHAKING"⟩,
    ⟨0x1D952, "SIGNWRITING TRAVEL-WALLPLANE ARM SPIRAL ", "SINGLE,DOUBLE,TRIPLE"⟩,
    ⟨0x1D955, "SIGNWRITING MOVEMENT-DIAGONAL AWAY ", "SMALL,MEDIUM,LARGE,LARGEST"⟩,
    ⟨0x1D959, "SIGNWRITING MOVEMENT-DIAGONAL TOWARDS ", "SMALL,MEDIUM,LARGE,LARGEST"⟩,
    ⟨0x1D95D, "SIGNWRITING MOVEMENT-DIAGONAL BETWEEN AWAY ", "SMALL,MEDIUM,LARGE,LARGEST"⟩,
    ⟨0x1D961, "SIGNWRITING MOVEMENT-DIAGONAL BETWEEN TOWARDS ", "SMALL,MEDIUM,LARGE,LARGEST"⟩,
    ⟨0x1D965, "SIGNWRITING MOVEMENT-FLOORPLANE SINGLE STRAIGHT ", "SMALL,MEDIUM,LARGE,LARGEST"⟩,
    ⟨0x1D969, "", "SIGNWRITING MOVEMENT-FLOORPLANE SINGLE WRIST FLEX"⟩,
    ⟨0x1D96A, "SIGNWRITING MOVEMENT-FLOORPLANE DOUBLE ", "STRAIGHT,WRIST FLEX,ALTERNATING"⟩,
    ⟨0x1D96D, "SIGNWRITING MOVEMENT-FLOORPLANE ", "DOUBLE ALTERNATING WRIST FLEX,CROSS"⟩,
    ⟨0x1D96F, "SIGNWRITING MOVEMENT-FLOORPLANE TRIPLE ", "STRAIGHT MOVEMENT,WRIST FLEX"⟩,
    ⟨0x1D971, "SIGNWRITING MOVEMENT-FLOORPLANE TRIPLE ALTERNATING ", "MOVEMENT,WRIST FLEX"⟩,
    ⟨0x1D973, "SIGNWRITING MOVEMENT-FLOORPLANE ", "BEND,CORNER SMALL,CORNER MEDIUM,CORNER LARGE"⟩,
    ⟨0x1D977, "SIGNWRITING MOVEMENT-FLOORPLANE ", "CHECK,BOX SMALL,BOX MEDIUM,BOX LARGE"⟩,
    ⟨0x1D97B, "SIGNWRITING MOVEMENT-FLOORPLANE ZIGZAG ", "SMALL,MEDIUM,LARGE"⟩,
    ⟨0x1D97E, "SIGNWRITING MOVEMENT-FLOORPLANE PEAKS ", "SMALL,MEDIUM,LARGE"⟩,
    ⟨0x1D981, "SIGNWRITING TRAVEL-FLOORPLANE ROTATION-FLOORPLANE ", "SINGLE,DOUBLE,ALTERNATING"⟩,
    ⟨0x1D984, "SIGNWRITING TRAVEL-FLOORPLANE ROTATION-WALLPLANE ", "SINGLE,DOUBLE,ALTERNATING"⟩,
    ⟨0x1D987, "", "SIGNWRITING TRAVEL-FLOORPLANE SHAKING"⟩,
    ⟨0x1D988, "SIGNWRITING MOVEMENT-WALLPLANE CURVE QUARTER ", "SMALL,MEDIUM,LARGE,LARGEST"⟩,
    ⟨0x1D98C, "SIGNWRITING MOVEMENT-WALLPLANE CURVE HALF-CIRCLE ", "SMALL,MEDIUM,LARGE,LARGEST"⟩,
    ⟨0x1D990, "SIGNWRITING MOVEMENT-WALLPLANE CURVE THREE-QUARTER CIRCLE ", "SMALL,MEDIUM"⟩,
    ⟨0x1D992, "SIGNWRITING MOVEMENT-WALLPLANE HUMP ", "SMALL,MEDIUM,LARGE"⟩,
    ⟨0x1D995, "SIGNWRITING MOVEMENT-WALLPLANE LOOP ", "SMALL,MEDIUM,LARGE,SMALL DOUBLE"⟩,
    ⟨0x1D999, "SIGNWRITING MOVEMENT-WALLPLANE WAVE CURVE DOUBLE ", "SMALL,MEDIUM,LARGE"⟩,
    ⟨0x1D99C, "SIGNWRITING MOVEMENT-WALLPLANE WAVE CURVE TRIPLE ", "SMALL,MEDIUM,LARGE"⟩,
    ⟨0x1D99F, "", "SIGNWRITING MOVEMENT-WALLPLANE CURVE THEN STRAIGHT"⟩,
    ⟨0x1D9A0, "SIGNWRITING MOVEMENT-WALLPLANE CURVED CROSS ", "SMALL,MEDIUM"⟩,
    ⟨0x1D9A2, "SIGNWRITING ROTATION-WALLPLANE ", "SINGLE,DOUBLE,ALTERNATE"⟩,
    ⟨0x1D9A5, "SIGNWRITING MOVEMENT-WALLPLANE ", "SHAKING,CURVE HITTING FRONT WALL"⟩,
    ⟨0x1D9A7, "", "SIGNWRITING MOVEMENT-WALLPLANE HUMP HITTING FRONT WALL"⟩,
    ⟨0x1D9A8, "SIGNWRITING MOVEMENT-WALLPLANE ", "LOOP HITTING FRONT WALL,WAVE HITTING FRONT WALL"⟩,
    ⟨0x1D9AA, "", "SIGNWRITING ROTATION-WALLPLANE SINGLE HITTING FRONT WALL"⟩,
    ⟨0x1D9AB, "", "SIGNWRITING ROTATION-WALLPLANE DOUBLE HITTING FRONT WALL"⟩,
    ⟨0x1D9AC, "", "SIGNWRITING ROTATION-WALLPLANE ALTERNATING HITTING FRONT WALL"⟩,
    ⟨0x1D9AD, "SIGNWRITING MOVEMENT-WALLPLANE ", "CURVE HITTING CHEST,HUMP HITTING CHEST"⟩,
    ⟨0x1D9AF, "SIGNWRITING MOVEMENT-WALLPLANE ", "LOOP HITTING CHEST,WAVE HITTING CHEST"⟩,
    ⟨0x1D9B1, "", "SIGNWRITING ROTATION-WALLPLANE SINGLE HITTING CHEST"⟩,
    ⟨0x1D9B2, "SIGNWRITING ROTATION-WALLPLANE ", "DOUBLE HITTING CHEST,ALTERNATING HITTING CHEST"⟩,
    ⟨0x1D9B4, "SIGNWRITING MOVEMENT-WALLPLANE WAVE DIAGONAL PATH ", "SMALL,MEDIUM,LARGE"⟩,
    ⟨0x1D9B7, "SIGNWRITING MOVEMENT-FLOORPLANE CURVE HITTING CEILING ", "SMALL,LARGE"⟩,
    ⟨0x1D9B9, "SIGNWRITING MOVEMENT-FLOORPLANE HUMP HITTING CEILING ", "SMALL DOUBLE,LARGE DOUBLE"⟩,
    ⟨0x1D9BB, "SIGNWRITING MOVEMENT-FLOORPLANE HUMP HITTING CEILING ", "SMALL TRIPLE,LARGE TRIPLE"⟩,
    ⟨0x1D9BD, "SIGNWRITING MOVEMENT-FLOORPLANE LOOP HITTING CEILING ", "SMALL SINGLE,LARGE SINGLE"⟩,
    ⟨0x1D9BF, "SIGNWRITING MOVEMENT-FLOORPLANE LOOP HITTING CEILING ", "SMALL DOUBLE,LARGE DOUBLE"⟩,
    ⟨0x1D9C1, "SIGNWRITING MOVEMENT-FLOORPLANE WAVE HITTING CEILING ", "SMALL,LARGE"⟩,
    ⟨0x1D9C3, "SIGNWRITING ROTATION-FLOORPLANE ", "SINGLE HITTING CEILING,DOUBLE HITTING CEILING"⟩,
    ⟨0x1D9C5, "", "SIGNWRITING ROTATION-FLOORPLANE ALTERNATING HITTING CEILING"⟩,
    ⟨0x1D9C6, "SIGNWRITING MOVEMENT-FLOORPLANE CURVE HITTING FLOOR ", "SMALL,LARGE"⟩,
    ⟨0x1D9C8, "SIGNWRITING MOVEMENT-FLOORPLANE HUMP HITTING FLOOR ", "SMALL DOUBLE,LARGE DOUBLE"⟩,
    ⟨0x1D9CA, "", "SIGNWRITING MOVEMENT-FLOORPLANE HUMP HITTING FLOOR TRIPLE SMALL TRIPLE"⟩,
    ⟨0x1D9CB, "", "SIGNWRITING MOVEMENT-FLOORPLANE HUMP HITTING FLOOR TRIPLE LARGE TRIPLE"⟩,
    ⟨0x1D9CC, "SIGNWRITING MOVEMENT-FLOORPLANE LOOP HITTING FLOOR ", "SMALL SINGLE,LARGE SINGLE"⟩,
    ⟨0x1D9CE, "SIGNWRITING MOVEMENT-FLOORPLANE LOOP HITTING FLOOR ", "SMALL DOUBLE,LARGE DOUBLE"⟩,
    ⟨0x1D9D0, "SIGNWRITING MOVEMENT-FLOORPLANE WAVE HITTING FLOOR ", "SMALL,LARGE"⟩,
    ⟨0x1D9D2, "", "SIGNWRITING ROTATION-FLOORPLANE SINGLE HITTING FLOOR"⟩,
    ⟨0x1D9D3, "SIGNWRITING ROTATION-FLOORPLANE ", "DOUBLE HITTING FLOOR,ALTERNATING HITTING FLOOR"⟩,
    ⟨0x1D9D5, "SIGNWRITING MOVEMENT-FLOORPLANE CURVE ", "SMALL,MEDIUM,LARGE,LARGEST,COMBINED"⟩,
    ⟨0x1D9DA, "SIGNWRITING MOVEMENT-FLOORPLANE ", "HUMP SMALL,LOOP SMALL"⟩,
    ⟨0x1D9DC, "SIGNWRITING MOVEMENT-FLOORPLANE WAVE ", "SNAKE,SMALL,LARGE"⟩,
    ⟨0x1D9DF, "SIGNWRITING ROTATION-FLOORPLANE ", "SINGLE,DOUBLE,ALTERNATING"⟩,
    ⟨0x1D9E2, "", "SIGNWRITING MOVEMENT-FLOORPLANE SHAKING PARALLEL"⟩,
    ⟨0x1D9E3, "SIGNWRITING MOVEMENT-WALLPLANE ARM CIRCLE ", "SMALL SINGLE,MEDIUM SINGLE"⟩,
    ⟨0x1D9E5, "SIGNWRITING MOVEMENT-WALLPLANE ARM CIRCLE ", "SMALL DOUBLE,MEDIUM DOUBLE"⟩,
    ⟨0x1D9E7, "", "SIGNWRITING MOVEMENT-FLOORPLANE ARM CIRCLE HITTING WALL SMALL SINGLE"⟩,
    ⟨0x1D9E8, "", "SIGNWRITING MOVEMENT-FLOORPLANE ARM CIRCLE HITTING WALL MEDIUM SINGLE"⟩,
    ⟨0x1D9E9, "", "SIGNWRITING MOVEMENT-FLOORPLANE ARM CIRCLE HITTING WALL LARGE SINGLE"⟩,
    ⟨0x1D9EA, "", "SIGNWRITING MOVEMENT-FLOORPLANE ARM CIRCLE HITTING WALL SMALL DOUBLE"⟩,
    ⟨0x1D9EB, "", "SIGNWRITING MOVEMENT-FLOORPLANE ARM CIRCLE HITTING WALL MEDIUM DOUBLE"⟩,
    ⟨0x1D9EC, "", "SIGNWRITING MOVEMENT-FLOORPLANE ARM CIRCLE HITTING WALL LARGE DOUBLE"⟩,
    ⟨0x1D9ED, "SIGNWRITING MOVEMENT-WALLPLANE WRIST CIRCLE FRONT ", "SINGLE,DOUBLE"⟩,
    ⟨0x1D9EF, "SIGNWRITING MOVEMENT-FLOORPLANE WRIST CIRCLE HITTING WALL ", "SINGLE,DOUBLE"⟩,
    ⟨0x1D9F1, "SIGNWRITING MOVEMENT-WALLPLANE FINGER CIRCLES ", "SINGLE,DOUBLE"⟩,
    ⟨0x1D9F3, "SIGNWRITING MOVEMENT-FLOORPLANE FINGER CIRCLES HITTING WALL ", "SINGLE,DOUBLE"⟩,
    ⟨0x1D9F5, "SIGNWRITING DYNAMIC ", "ARROWHEAD SMALL,ARROWHEAD LARGE,FAST,SLOW,TENSE,RELAXED"⟩,
    ⟨0x1D9FB, "SIGNWRITING DYNAMIC ", "SIMULTANEOUS,SIMULTANEOUS ALTERNATING,EVERY OTHER TIME"⟩,
    ⟨0x1D9FE, "SIGNWRITING ", "DYNAMIC GRADUAL,HEAD,HEAD RIM"⟩,
    ⟨0x1DA01, "SIGNWRITING HEAD MOVEMENT-WALLPLANE ", "STRAIGHT,TILT"⟩,
    ⟨0x1DA03, "SIGNWRITING HEAD MOVEMENT-", "FLOORPLANE STRAIGHT,WALLPLANE CURVE,FLOORPLANE CURVE"⟩,
    ⟨0x1DA06, "SIGNWRITING ", "HEAD MOVEMENT CIRCLE,FACE DIRECTION POSITION NOSE FORWARD TILTING"⟩,
    ⟨0x1DA08, "SIGNWRITING FACE DIRECTION POSITION NOSE UP OR ", "DOWN,DOWN TILTING"⟩,
    ⟨0x1DA0A, "SIGNWRITING EYEBROWS STRAIGHT ", "UP,NEUTRAL,DOWN"⟩,
    ⟨0x1DA0D, "SIGNWRITING DREAMY EYEBROWS ", "NEUTRAL DOWN,DOWN NEUTRAL,UP NEUTRAL,NEUTRAL UP"⟩,
    ⟨0x1DA11, "SIGNWRITING ", "FOREHEAD NEUTRAL,FOREHEAD CONTACT,FOREHEAD WRINKLED,EYES OPEN"⟩,
    ⟨0x1DA15, "SIGNWRITING ", "EYES SQUEEZED,EYES CLOSED,EYE BLINK SINGLE,EYE BLINK MULTIPLE"⟩,
    ⟨0x1DA19, "SIGNWRITING EYES ", "HALF OPEN,WIDE OPEN,HALF CLOSED,WIDENING MOVEMENT"⟩,
    ⟨0x1DA1D, "SIGNWRITING ", "EYE WINK,EYELASHES UP,EYELASHES DOWN,EYELASHES FLUTTERING"⟩,
    ⟨0x1DA21, "SIGNWRITING EYEGAZE-WALLPLANE ", "STRAIGHT,STRAIGHT DOUBLE,STRAIGHT ALTERNATING"⟩,
    ⟨0x1DA24, "SIGNWRITING EYEGAZE-FLOORPLANE ", "STRAIGHT,STRAIGHT DOUBLE,STRAIGHT ALTERNATING"⟩,
    ⟨0x1DA27, "SIGNWRITING EYEGAZE-", "WALLPLANE CURVED,FLOORPLANE CURVED,WALLPLANE CIRCLING"⟩,
    ⟨0x1DA2A, "SIGNWRITING CHEEKS ", "PUFFED,NEUTRAL,SUCKED"⟩,
    ⟨0x1DA2D, "SIGNWRITING TENSE CHEEKS ", "HIGH,MIDDLE,LOW"⟩,
    ⟨0x1DA30, "SIGNWRITING ", "EARS,NOSE NEUTRAL,NOSE CONTACT,NOSE WRINKLES,NOSE WIGGLES"⟩,
    ⟨0x1DA35, "SIGNWRITING AIR ", "BLOWING OUT,SUCKING IN,BLOW SMALL ROTATIONS"⟩,
    ⟨0x1DA38, "SIGNWRITING ", "AIR SUCK SMALL ROTATIONS,BREATH INHALE,BREATH EXHALE"⟩,
    ⟨0x1DA3B, "SIGNWRITING MOUTH ", "CLOSED NEUTRAL,CLOSED FORWARD,CLOSED CONTACT,SMILE"⟩,
    ⟨0x1DA3F, "SIGNWRITING MOUTH ", "SMILE WRINKLED,SMILE OPEN,FROWN,FROWN WRINKLED,FROWN OPEN"⟩,
    ⟨0x1DA44, "SIGNWRITING MOUTH OPEN ", "CIRCLE,FORWARD,WRINKLED,OVAL,OVAL WRINKLED"⟩,
    ⟨0x1DA49, "SIGNWRITING MOUTH OPEN ", "OVAL YAWN,RECTANGLE,RECTANGLE WRINKLED,RECTANGLE YAWN"⟩,
    ⟨0x1DA4D, "SIGNWRITING MOUTH ", "KISS,KISS FORWARD,KISS WRINKLED,TENSE"⟩,
    ⟨0x1DA51, "SIGNWRITING MOUTH TENSE ", "FORWARD,SUCKED"⟩,
    ⟨0x1DA53, "SIGNWRITING ", "LIPS PRESSED TOGETHER,LIP LOWER OVER UPPER,LIP UPPER OVER LOWER"⟩,
    ⟨0x1DA56, "SIGNWRITING MOUTH ", "CORNERS,WRINKLES SINGLE,WRINKLES DOUBLE"⟩,
    ⟨0x1DA59, "SIGNWRITING TONGUE ", "STICKING OUT FAR,LICKING LIPS,TIP BETWEEN LIPS"⟩,
    ⟨0x1DA5C, "SIGNWRITING TONGUE ", "TIP TOUCHING INSIDE MOUTH,INSIDE MOUTH RELAXED"⟩,
    ⟨0x1DA5E, "SIGNWRITING TONGUE ", "MOVES AGAINST CHEEK,CENTRE STICKING OUT,CENTRE INSIDE MOUTH"⟩,
    ⟨0x1DA61, "SIGNWRITING ", "TEETH,TEETH MOVEMENT"⟩,
    ⟨0x1DA63, "SIGNWRITING TEETH ON ", "TONGUE,TONGUE MOVEMENT,LIPS,LIPS MOVEMENT"⟩,
    ⟨0x1DA67, "SIGNWRITING ", "TEETH BITE LIPS,MOVEMENT-WALLPLANE JAW,MOVEMENT-FLOORPLANE JAW"⟩,
    ⟨0x1DA6A, "SIGNWRITING ", "NECK,HAIR,EXCITEMENT,SHOULDER HIP SPINE,SHOULDER HIP POSITIONS"⟩,
    ⟨0x1DA6F, "SIGNWRITING ", "WALLPLANE SHOULDER HIP MOVE,FLOORPLANE SHOULDER HIP MOVE"⟩,
    ⟨0x1DA71, "SIGNWRITING ", "SHOULDER TILTING FROM WAIST,TORSO-WALLPLANE STRAIGHT STRETCH"⟩,
    ⟨0x1DA73, "SIGNWRITING TORSO-", "WALLPLANE CURVED BEND,FLOORPLANE TWISTING"⟩,
    ⟨0x1DA75, "SIGNWRITING ", "UPPER BODY TILTING FROM HIP JOINTS,LIMB COMBINATION"⟩,
    ⟨0x1DA77, "SIGNWRITING LIMB LENGTH-", "1,2,3,4,5,6,7"⟩,
    ⟨0x1DA7E, "SIGNWRITING ", "FINGER,LOCATION-WALLPLANE SPACE,LOCATION-FLOORPLANE SPACE"⟩,
    ⟨0x1DA81, "SIGNWRITING LOCATION ", "HEIGHT,WIDTH,DEPTH,HEAD NECK,TORSO,LIMBS DIGITS"⟩,
    ⟨0x1DA87, "SIGNWRITING ", "COMMA,FULL STOP,SEMICOLON,COLON,PARENTHESIS"⟩,
    ⟨0x1DA9B, "SIGNWRITING FILL MODIFIER-", "2,3,4,5,6"⟩,
    ⟨0x1DAA1, "SIGNWRITING ROTATION MODIFIER-", "2,3,4,5,6,7,8,9,10,11,12,13,14,15,16"⟩,
    ⟨0x1DF00, "LATIN SMALL LETTER ", "FENG DIGRAPH WITH TRILL,REVERSED SCRIPT G"⟩,
    ⟨0x1DF02, "", "LATIN LETTER SMALL CAPITAL TURNED G"⟩,
    ⟨0x1DF03, "LATIN ", "SMALL LETTER REVERSED K,LETTER SMALL CAPITAL L WITH BELT"⟩,
    ⟨0x1DF05, "LATIN SMALL LETTER ", "LEZH WITH RETROFLEX HOOK,TURNED Y WITH BELT"⟩,
    ⟨0x1DF07, "LATIN SMALL LETTER ", "REVERSED ENG,TURNED R WITH LONG LEG AND RETROFLEX HOOK"⟩,
    ⟨0x1DF09, "", "LATIN SMALL LETTER T WITH HOOK AND RETROFLEX HOOK"⟩,
    ⟨0x1DF0A, "", "LATIN LETTER RETROFLEX CLICK WITH RETROFLEX HOOK"⟩,
    ⟨0x1DF0B, "LATIN SMALL LETTER ESH WITH DOUBLE ", "BAR,BAR AND CURL"⟩,
    ⟨0x1DF0D, "LATIN ", "SMALL LETTER TURNED T WITH CURL,LETTER INVERTED GLOTTAL STOP WITH CURL"⟩,
    ⟨0x1DF0F, "LATIN LETTER ", "STRETCHED C WITH CURL,SMALL CAPITAL TURNED K"⟩,
    ⟨0x1DF11, "LATIN SMALL LETTER ", "L WITH FISHHOOK,DEZH DIGRAPH WITH PALATAL HOOK"⟩,
    ⟨0x1DF13, "LATIN SMALL LETTER ", "L WITH BELT AND PALATAL HOOK,ENG WITH PALATAL HOOK"⟩,
    ⟨0x1DF15, "LATIN SMALL LETTER ", "TURNED R WITH PALATAL HOOK,R WITH FISHHOOK AND PALATAL HOOK"⟩,
    ⟨0x1DF17, "", "LATIN SMALL LETTER TESH DIGRAPH WITH PALATAL HOOK"⟩,
    ⟨0x1DF18, "LATIN SMALL LETTER ", "EZH WITH PALATAL HOOK,DEZH DIGRAPH WITH RETROFLEX HOOK"⟩,
    ⟨0x1DF1A, "", "LATIN SMALL LETTER I WITH STROKE AND RETROFLEX HOOK"⟩,
    ⟨0x1DF1B, "LATIN SMALL LETTER ", "O WITH RETROFLEX HOOK,TESH DIGRAPH WITH RETROFLEX HOOK"⟩,
    ⟨0x1DF1D, "LATIN SMALL LETTER ", "C WITH RETROFLEX HOOK,S WITH CURL"⟩,
    ⟨0x1E000, "COMBINING GLAGOLITIC LETTER ", "AZU,BUKY,VEDE,GLAGOLI,DOBRO,YESTU,ZHIVETE"⟩,
    ⟨0x1E008, "", "COMBINING GLAGOLITIC LETTER ZEMLJA"⟩,
    ⟨0x1E009, "COMBINING GLAGOLITIC LETTER ", "IZHE,INITIAL IZHE,I,DJERVI,KAKO,LJUDIJE,MYSLITE"⟩,
    ⟨0x1E010, "COMBINING GLAGOLITIC LETTER ", "NASHI,ONU,POKOJI,RITSI,SLOVO,TVRIDO,UKU,FRITU,HERU"⟩,
    ⟨0x1E01B, "COMBINING GLAGOLITIC LETTER ", "SHTA,TSI,CHRIVI,SHA,YERU,YERI,YATI"⟩,
    ⟨0x1E023, "COMBINING GLAGOLITIC LETTER ", "YU,SMALL YUS"⟩,
    ⟨0x1E026, "COMBINING GLAGOLITIC LETTER ", "YO,IOTATED SMALL YUS,BIG YUS,IOTATED BIG YUS,FITA"⟩,
    ⟨0x1E100, "NYIAKENG PUACHUE HMONG LETTER ", "MA,TSA"⟩,
    ⟨0x1E102, "NYIAKENG PUACHUE HMONG LETTER ", "NTA,TA,HA,NA,XA,NKA,CA,LA,SA,ZA,NCA,NTSA,KA,DA"⟩,
    ⟨0x1E110, "NYIAKENG PUACHUE HMONG LETTER ", "NYA,NRA,VA,NTXA,TXA,FA,RA,QA,YA,NQA,PA,XYA,NPA"⟩,
    ⟨0x1E11D, "NYIAKENG PUACHUE HMONG LETTER ", "DLA,NPLA,HAH,MLA,PLA,GA,RRA,A,AA,I,U,O,OO,E,EE,W"⟩,
    ⟨0x1E130, "NYIAKENG PUACHUE HMONG TONE-", "B,M,J,V,S,G,D"⟩,
    ⟨0x1E137, "NYIAKENG PUACHUE HMONG SIGN FOR ", "PERSON,THING,LOCATION,ANIMAL,INVERTEBRATE"⟩,
    ⟨0x1E13C, "NYIAKENG PUACHUE HMONG ", "SIGN XW XW,SYLLABLE LENGTHENER"⟩,
    ⟨0x1E140, "NYIAKENG PUACHUE HMONG DIGIT ", "ZERO,ONE,TWO,THREE,FOUR,FIVE,SIX,SEVEN,EIGHT,NINE"⟩,
    ⟨0x1E14E, "NYIAKENG PUACHUE HMONG ", "LOGOGRAM NYAJ,CIRCLED CA"⟩,
    ⟨0x1E290, "TOTO LETTER ", "PA,BA,TA,DA,KA,GA,MA,NA,NGA,SA,CHA,YA,WA,JA,HA,RA,LA,I,BREATHY I"⟩,
    ⟨0x1E2A3, "TOTO LETTER ", "IU,BREATHY IU,U,E,BREATHY E,EO,BREATHY EO,O,AE,BREATHY AE,A"⟩,
    ⟨0x1E2AE, "", "TOTO SIGN RISING TONE"⟩,
    ⟨0x1E2C0, "WANCHO LETTER ", "AA,A,BA,CA,DA,GA"⟩,
    ⟨0x1E2C6, "WANCHO LETTER ", "YA,PHA,LA,NA,PA,TA,THA,FA,SA,SHA,JA,ZA,WA,VA,KA,O,AU,RA,MA,KHA"⟩,
    ⟨0x1E2DA, "WANCHO LETTER ", "HA,E,I,NGA,U,LLHA,TSA,TRA,ONG,AANG,ANG,ING,ON,EN,AAN,NYA,UEN,YIH"⟩,
    ⟨0x1E2EC, "WANCHO TONE ", "TUP,TUPNI,KOI,KOINI"⟩,
    ⟨0x1E2F0, "WANCHO DIGIT ", "ZERO,ONE,TWO,THREE,FOUR,FIVE,SIX,SEVEN,EIGHT,NINE"⟩,
    ⟨0x1E2FF, "", "WANCHO NGUN SIGN"⟩,
    ⟨0x1E7E0, "ETHIOPIC SYLLABLE ", "HHYA,HHYU,HHYI,HHYAA,HHYEE,HHYE,HHYO"⟩,
    ⟨0x1E7E8, "ETHIOPIC SYLLABLE ", "GURAGE HHWA,HHWI,HHWEE,HHWE"⟩,
    ⟨0x1E7ED, "ETHIOPIC SYLLABLE GURAGE ", "MWI,MWEE"⟩,
    ⟨0x1E7F0, "ETHIOPIC SYLLABLE GURAGE ", "QWI,QWEE,QWE"⟩,
    ⟨0x1E7F3, "ETHIOPIC SYLLABLE GURAGE ", "BWI,BWEE,KWI,KWEE,KWE,GWI,GWEE,GWE,FWI,FWEE,PWI,PWEE"⟩
  ]

end MemoryAtlas.Text.Name
