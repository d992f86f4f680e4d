import MemoryAtlas.Text.Characters

/-!
Names of pictures, tags and further characters, from U+1E800 on.
-/

namespace MemoryAtlas.Text.Name

def pictures : List Block :=
  [
    ⟨0x1E800, "MENDE KIKAKUI SYLLABLE ", "M001 KI,M002 KA,M003 KU,M065 KEE,M095 KE,M076 KOO"⟩,
    ⟨0x1E806, "MENDE KIKAKUI SYLLABLE ", "M048 KO,M179 KUA,M004 WI,M005 WA,M006 WU,M126 WEE"⟩,
    ⟨0x1E80C, "MENDE KIKAKUI SYLLABLE ", "M118 WE,M114 WOO,M045 WO,M194 WUI,M143 WEI,M061 WVI"⟩,
    ⟨0x1E812, "MENDE KIKAKUI SYLLABLE ", "M049 WVA,M139 WVE,M007 MIN,M008 MAN,M009 MUN,M059 MEN"⟩,
    ⟨0x1E818, "MENDE KIKAKUI SYLLABLE ", "M094 MON,M154 MUAN,M189 MUEN,M010 BI,M011 BA,M012 BU"⟩,
    ⟨0x1E81E, "MENDE KIKAKUI SYLLABLE ", "M150 BEE,M097 BE,M103 BOO,M138 BO,M013 I,M014 A,M015 U"⟩,
    ⟨0x1E825, "MENDE KIKAKUI SYLLABLE ", "M163 EE,M100 E,M165 OO,M147 O,M137 EI,M131 IN,M135 IN"⟩,
    ⟨0x1E82C, "MENDE KIKAKUI SYLLABLE ", "M195 AN,M178 EN,M019 SI,M020 SA,M021 SU,M162 SEE"⟩,
    ⟨0x1E832, "MENDE KIKAKUI SYLLABLE ", "M116 SE,M136 SOO,M079 SO,M196 SIA,M025 LI,M026 LA"⟩,
    ⟨0x1E838, "MENDE KIKAKUI SYLLABLE ", "M027 LU,M084 LEE,M073 LE,M054 LOO,M153 LO,M110 LONG LE"⟩,
    ⟨0x1E83E, "MENDE KIKAKUI SYLLABLE ", "M016 DI,M017 DA,M018 DU,M089 DEE,M180 DOO,M181 DO"⟩,
    ⟨0x1E844, "MENDE KIKAKUI SYLLABLE ", "M022 TI,M023 TA,M024 TU,M091 TEE,M055 TE,M104 TOO"⟩,
    ⟨0x1E84A, "MENDE KIKAKUI SYLLABLE ", "M069 TO,M028 JI,M029 JA,M030 JU,M157 JEE,M113 JE"⟩,
    ⟨0x1E850, "MENDE KIKAKUI SYLLABLE ", "M160 JOO,M063 JO,M175 LONG JO,M031 YI,M032 YA,M033 YU"⟩,
    ⟨0x1E856, "MENDE KIKAKUI SYLLABLE ", "M109 YEE,M080 YE,M141 YOO,M121 YO,M034 FI,M035 FA"⟩,
    ⟨0x1E85C, "MENDE KIKAKUI SYLLABLE ", "M036 FU,M078 FEE,M075 FE,M133 FOO,M088 FO,M197 FUA"⟩,
    ⟨0x1E862, "MENDE KIKAKUI SYLLABLE ", "M101 FAN,M037 NIN,M038 NAN,M039 NUN,M117 NEN,M169 NON"⟩,
    ⟨0x1E868, "MENDE KIKAKUI SYLLABLE ", "M176 HI,M041 HA,M186 HU,M040 HEE,M096 HE,M042 HOO"⟩,
    ⟨0x1E86E, "MENDE KIKAKUI SYLLABLE ", "M140 HO,M083 HEEI,M128 HOOU,M053 HIN,M130 HAN,M087 HUN"⟩,
    ⟨0x1E874, "MENDE KIKAKUI SYLLABLE ", "M052 HEN,M193 HON,M046 HUAN,M090 NGGI,M043 NGGA"⟩,
    ⟨0x1E879, "MENDE KIKAKUI SYLLABLE ", "M082 NGGU,M115 NGGEE,M146 NGGE,M156 NGGOO,M120 NGGO"⟩,
    ⟨0x1E87E, "MENDE KIKAKUI SYLLABLE ", "M159 NGGAA,M127 NGGUA,M086 LONG NGGE,M106 LONG NGGOO"⟩,
    ⟨0x1E882, "MENDE KIKAKUI SYLLABLE ", "M183 LONG NGGO,M155 GI,M111 GA,M168 GU,M190 GEE"⟩,
    ⟨0x1E887, "MENDE KIKAKUI SYLLABLE ", "M166 GUEI,M167 GUAN,M184 NGEN,M057 NGON,M177 NGUAN"⟩,
    ⟨0x1E88C, "MENDE KIKAKUI SYLLABLE ", "M068 PI,M099 PA,M050 PU,M081 PEE,M051 PE,M102 POO"⟩,
    ⟨0x1E892, "MENDE KIKAKUI SYLLABLE ", "M066 PO,M145 MBI,M062 MBA,M122 MBU,M047 MBEE,M188 MBEE"⟩,
    ⟨0x1E898, "MENDE KIKAKUI SYLLABLE ", "M072 MBE,M172 MBOO,M174 MBO,M187 MBUU,M161 LONG MBE"⟩,
    ⟨0x1E89D, "MENDE KIKAKUI SYLLABLE ", "M105 LONG MBOO,M142 LONG MBO,M132 KPI,M092 KPA,M074 KPU"⟩,
    ⟨0x1E8A2, "MENDE KIKAKUI SYLLABLE ", "M044 KPEE,M108 KPE,M112 KPOO,M158 KPO,M124 GBI,M056 GBA"⟩,
    ⟨0x1E8A8, "MENDE KIKAKUI SYLLABLE ", "M148 GBU,M093 GBEE,M107 GBE,M071 GBOO,M070 GBO,M171 RA"⟩,
    ⟨0x1E8AE, "MENDE KIKAKUI SYLLABLE ", "M123 NDI,M129 NDA,M125 NDU,M191 NDEE,M119 NDE,M067 NDOO"⟩,
    ⟨0x1E8B4, "MENDE KIKAKUI SYLLABLE ", "M064 NDO,M152 NJA,M192 NJU,M149 NJEE,M134 NJOO,M182 VI"⟩,
    ⟨0x1E8BA, "MENDE KIKAKUI SYLLABLE ", "M185 VA,M151 VU,M173 VEE,M085 VE,M144 VOO,M077 VO"⟩,
    ⟨0x1E8C0, "MENDE KIKAKUI SYLLABLE ", "M164 NYIN,M058 NYAN,M170 NYUN,M098 NYEN,M060 NYON"⟩,
    ⟨0x1E8C7, "MENDE KIKAKUI DIGIT ", "ONE,TWO,THREE,FOUR,FIVE,SIX,SEVEN,EIGHT,NINE"⟩,
    ⟨0x1E8D0, "MENDE KIKAKUI COMBINING NUMBER ", "TEENS,TENS,HUNDREDS,THOUSANDS"⟩,
    ⟨0x1E8D4, "MENDE KIKAKUI COMBINING NUMBER ", "TEN THOUSANDS,HUNDRED THOUSANDS,MILLIONS"⟩,
    ⟨0x1E900, "ADLAM CAPITAL LETTER ", "ALIF,DAALI,LAAM,MIIM"⟩,
    ⟨0x1E904, "ADLAM CAPITAL LETTER ", "BA,SINNYIIYHE,PE,BHE,RA,E,FA,I,O,DHA,YHE,WAW,NUN,KAF,YA"⟩,
    ⟨0x1E913, "ADLAM CAPITAL LETTER ", "U,JIIM,CHI,HA,QAAF,GA,NYA,TU,NHA,VA,KHA,GBE,ZAL,KPO,SHA"⟩,
    ⟨0x1E922, "ADLAM SMALL LETTER ", "ALIF,DAALI,LAAM"⟩,
    ⟨0x1E925, "ADLAM SMALL LETTER ", "MIIM,BA,SINNYIIYHE,PE,BHE,RA,E,FA,I,O,DHA,YHE,WAW,NUN,KAF"⟩,
    ⟨0x1E934, "ADLAM SMALL LETTER ", "YA,U,JIIM,CHI,HA,QAAF,GA,NYA,TU,NHA,VA,KHA,GBE,ZAL,KPO,SHA"⟩,
    ⟨0x1E944, "ADLAM ", "ALIF LENGTHENER,VOWEL LENGTHENER,GEMINATION MARK,HAMZA"⟩,
    ⟨0x1E948, "ADLAM ", "CONSONANT MODIFIER,GEMINATE CONSONANT MODIFIER,NUKTA,NASALIZATION MARK"⟩,
    ⟨0x1E950, "ADLAM DIGIT ", "ZERO,ONE,TWO,THREE,FOUR,FIVE,SIX,SEVEN,EIGHT,NINE"⟩,
    ⟨0x1E95E, "ADLAM INITIAL ", "EXCLAMATION MARK,QUESTION MARK"⟩,
    ⟨0x1EC71, "INDIC SIYAQ NUMBER ", "ONE,TWO,THREE,FOUR,FIVE,SIX,SEVEN,EIGHT,NINE,TEN,TWENTY"⟩,
    ⟨0x1EC7C, "INDIC SIYAQ NUMBER ", "THIRTY,FORTY,FIFTY,SIXTY,SEVENTY,EIGHTY,NINETY,ONE HUNDRED"⟩,
    ⟨0x1EC84, "INDIC SIYAQ NUMBER ", "TWO HUNDRED,THREE HUNDRED,FOUR HUNDRED,FIVE HUNDRED"⟩,
    ⟨0x1EC88, "INDIC SIYAQ NUMBER ", "SIX HUNDRED,SEVEN HUNDRED,EIGHT HUNDRED,NINE HUNDRED"⟩,
    ⟨0x1EC8C, "INDIC SIYAQ NUMBER ", "ONE THOUSAND,TWO THOUSAND,THREE THOUSAND,FOUR THOUSAND"⟩,
    ⟨0x1EC90, "INDIC SIYAQ NUMBER ", "FIVE THOUSAND,SIX THOUSAND,SEVEN THOUSAND,EIGHT THOUSAND"⟩,
    ⟨0x1EC94, "INDIC SIYAQ NUMBER ", "NINE THOUSAND,TEN THOUSAND,TWENTY THOUSAND,THIRTY THOUSAND"⟩,
    ⟨0x1EC98, "INDIC SIYAQ NUMBER ", "FORTY THOUSAND,FIFTY THOUSAND,SIXTY THOUSAND"⟩,
    ⟨0x1EC9B, "INDIC SIYAQ NUMBER ", "SEVENTY THOUSAND,EIGHTY THOUSAND,NINETY THOUSAND,LAKH"⟩,
    ⟨0x1EC9F, "INDIC SIYAQ ", "NUMBER LAKHAN,LAKH MARK,NUMBER KAROR,NUMBER KARORAN"⟩,
    ⟨0x1ECA3, "INDIC SIYAQ NUMBER PREFIXED ", "ONE,TWO,THREE,FOUR,FIVE,SIX,SEVEN,EIGHT,NINE"⟩,
    ⟨0x1ECAC, "INDIC SIYAQ ", "PLACEHOLDER,FRACTION ONE QUARTER"⟩,
    ⟨0x1ECAE, "INDIC SIYAQ ", "FRACTION ONE HALF,FRACTION THREE QUARTERS,RUPEE MARK"⟩,
    ⟨0x1ECB1, "INDIC SIYAQ NUMBER ALTERNATE ", "ONE,TWO,TEN THOUSAND"⟩,
    ⟨0x1ECB4, "", "INDIC SIYAQ ALTERNATE LAKH MARK"⟩,
    ⟨0x1ED01, "OTTOMAN SIYAQ NUMBER ", "ONE,TWO,THREE,FOUR,FIVE,SIX,SEVEN,EIGHT"⟩,
    ⟨0x1ED09, "OTTOMAN SIYAQ NUMBER ", "NINE,TEN,TWENTY,THIRTY,FORTY,FIFTY,SIXTY,SEVENTY,EIGHTY"⟩,
    ⟨0x1ED12, "OTTOMAN SIYAQ NUMBER ", "NINETY,ONE HUNDRED,TWO HUNDRED,THREE HUNDRED,FOUR HUNDRED"⟩,
    ⟨0x1ED17, "OTTOMAN SIYAQ NUMBER ", "FIVE HUNDRED,SIX HUNDRED,SEVEN HUNDRED,EIGHT HUNDRED"⟩,
    ⟨0x1ED1B, "OTTOMAN SIYAQ NUMBER ", "NINE HUNDRED,ONE THOUSAND,TWO THOUSAND,THREE THOUSAND"⟩,
    ⟨0x1ED1F, "OTTOMAN SIYAQ NUMBER ", "FOUR THOUSAND,FIVE THOUSAND,SIX THOUSAND,SEVEN THOUSAND"⟩,
    ⟨0x1ED23, "OTTOMAN SIYAQ NUMBER ", "EIGHT THOUSAND,NINE THOUSAND,TEN THOUSAND,TWENTY THOUSAND"⟩,
    ⟨0x1ED27, "OTTOMAN SIYAQ NUMBER ", "THIRTY THOUSAND,FORTY THOUSAND,FIFTY THOUSAND"⟩,
    ⟨0x1ED2A, "OTTOMAN SIYAQ NUMBER ", "SIXTY THOUSAND,SEVENTY THOUSAND,EIGHTY THOUSAND"⟩,
    ⟨0x1ED2D, "OTTOMAN SIYAQ ", "NUMBER NINETY THOUSAND,MARRATAN"⟩,
    ⟨0x1ED2F, "OTTOMAN SIYAQ ALTERNATE NUMBER ", "TWO,THREE"⟩,
    ⟨0x1ED31, "OTTOMAN SIYAQ ALTERNATE NUMBER ", "FOUR,FIVE,SIX,SEVEN,EIGHT,NINE,TEN,FOUR HUNDRED"⟩,
    ⟨0x1ED39, "OTTOMAN SIYAQ ALTERNATE NUMBER ", "SIX HUNDRED,TWO THOUSAND,TEN THOUSAND"⟩,
    ⟨0x1ED3C, "OTTOMAN SIYAQ FRACTION ONE ", "HALF,SIXTH"⟩,
    ⟨0x1EE00, "ARABIC MATHEMATICAL ", "ALEF,BEH,JEEM,DAL"⟩,
    ⟨0x1EE05, "ARABIC MATHEMATICAL ", "WAW,ZAIN,HAH,TAH,YEH,KAF,LAM,MEEM,NOON,SEEN"⟩,
    ⟨0x1EE0F, "ARABIC MATHEMATICAL ", "AIN,FEH,SAD,QAF,REH,SHEEN,TEH,THEH,KHAH,THAL,DAD,ZAH,GHAIN"⟩,
    ⟨0x1EE1C, "ARABIC MATHEMATICAL DOTLESS ", "BEH,NOON,FEH,QAF"⟩,
    ⟨0x1EE21, "ARABIC MATHEMATICAL INITIAL ", "BEH,JEEM"⟩,
    ⟨0x1EE24, "", "ARABIC MATHEMATICAL INITIAL HEH"⟩,
    ⟨0x1EE27, "", "ARABIC MATHEMATICAL INITIAL HAH"⟩,
    ⟨0x1EE29, "ARABIC MATHEMATICAL INITIAL ", "YEH,KAF,LAM,MEEM,NOON,SEEN,AIN,FEH,SAD,QAF"⟩,
    ⟨0x1EE34, "ARABIC MATHEMATICAL INITIAL ", "SHEEN,TEH,THEH,KHAH"⟩,
    ⟨0x1EE39, "", "ARABIC MATHEMATICAL INITIAL DAD"⟩,
    ⟨0x1EE3B, "", "ARABIC MATHEMATICAL INITIAL GHAIN"⟩,
    ⟨0x1EE42, "", "ARABIC MATHEMATICAL TAILED JEEM"⟩,
    ⟨0x1EE47, "", "ARABIC MATHEMATICAL TAILED HAH"⟩,
    ⟨0x1EE49, "", "ARABIC MATHEMATICAL TAILED YEH"⟩,
    ⟨0x1EE4B, "", "ARABIC MATHEMATICAL TAILED LAM"⟩,
    ⟨0x1EE4D, "ARABIC MATHEMATICAL TAILED ", "NOON,SEEN,AIN"⟩,
    ⟨0x1EE51, "ARABIC MATHEMATICAL TAILED ", "SAD,QAF"⟩,
    ⟨0x1EE54, "", "ARABIC MATHEMATICAL TAILED SHEEN"⟩,
    ⟨0x1EE57, "", "ARABIC MATHEMATICAL TAILED KHAH"⟩,
    ⟨0x1EE59, "", "ARABIC MATHEMATICAL TAILED DAD"⟩,
    ⟨0x1EE5B, "", "ARABIC MATHEMATICAL TAILED GHAIN"⟩,
    ⟨0x1EE5D, "", "ARABIC MATHEMATICAL TAILED DOTLESS NOON"⟩,
    ⟨0x1EE5F, "", "ARABIC MATHEMATICAL TAILED DOTLESS QAF"⟩,
    ⟨0x1EE61, "ARABIC MATHEMATICAL STRETCHED ", "BEH,JEEM"⟩,
    ⟨0x1EE64, "", "ARABIC MATHEMATICAL STRETCHED HEH"⟩,
    ⟨0x1EE67, "ARABIC MATHEMATICAL STRETCHED ", "HAH,TAH,YEH,KAF"⟩,
    ⟨0x1EE6C, "ARABIC MATHEMATICAL STRETCHED ", "MEEM,NOON,SEEN,AIN,FEH,SAD,QAF"⟩,
    ⟨0x1EE74, "ARABIC MATHEMATICAL STRETCHED ", "SHEEN,TEH,THEH,KHAH"⟩,
    ⟨0x1EE79, "ARABIC MATHEMATICAL STRETCHED ", "DAD,ZAH,GHAIN,DOTLESS BEH"⟩,
    ⟨0x1EE7E, "", "ARABIC MATHEMATICAL STRETCHED DOTLESS FEH"⟩,
    ⟨0x1EE80, "ARABIC MATHEMATICAL LOOPED ", "ALEF,BEH,JEEM,DAL,HEH,WAW,ZAIN,HAH,TAH,YEH"⟩,
    ⟨0x1EE8B, "ARABIC MATHEMATICAL LOOPED ", "LAM,MEEM,NOON,SEEN,AIN,FEH"⟩,
    ⟨0x1EE91, "ARABIC MATHEMATICAL LOOPED ", "SAD,QAF,REH,SHEEN,TEH,THEH,KHAH,THAL,DAD,ZAH,GHAIN"⟩,
    ⟨0x1EEA1, "ARABIC MATHEMATICAL DOUBLE-STRUCK ", "BEH,JEEM,DAL"⟩,
    ⟨0x1EEA5, "ARABIC MATHEMATICAL DOUBLE-STRUCK ", "WAW,ZAIN,HAH,TAH,YEH"⟩,
    ⟨0x1EEAB, "ARABIC MATHEMATICAL DOUBLE-STRUCK ", "LAM,MEEM,NOON,SEEN,AIN,FEH,SAD,QAF"⟩,
    ⟨0x1EEB3, "ARABIC MATHEMATICAL DOUBLE-STRUCK ", "REH,SHEEN,TEH,THEH,KHAH,THAL,DAD,ZAH,GHAIN"⟩,
    ⟨0x1EEF0, "ARABIC MATHEMATICAL OPERATOR ", "MEEM WITH HAH WITH TATWEEL,HAH WITH DAL"⟩,
    ⟨0x1F000, "MAHJONG TILE ", "EAST WIND,SOUTH WIND,WEST WIND,NORTH WIND,RED DRAGON"⟩,
    ⟨0x1F005, "MAHJONG TILE ", "GREEN DRAGON,WHITE DRAGON,ONE OF CHARACTERS,TWO OF CHARACTERS"⟩,
    ⟨0x1F009, "MAHJONG TILE ", "THREE OF CHARACTERS,FOUR OF CHARACTERS,FIVE OF CHARACTERS"⟩,
    ⟨0x1F00C, "MAHJONG TILE ", "SIX OF CHARACTERS,SEVEN OF CHARACTERS,EIGHT OF CHARACTERS"⟩,
    ⟨0x1F00F, "MAHJONG TILE ", "NINE OF CHARACTERS,ONE OF BAMBOOS,TWO OF BAMBOOS,THREE OF BAMBOOS"⟩,
    ⟨0x1F013, "MAHJONG TILE ", "FOUR OF BAMBOOS,FIVE OF BAMBOOS,SIX OF BAMBOOS,SEVEN OF BAMBOOS"⟩,
    ⟨0x1F017, "MAHJONG TILE ", "EIGHT OF BAMBOOS,NINE OF BAMBOOS,ONE OF CIRCLES,TWO OF CIRCLES"⟩,
    ⟨0x1F01B, "MAHJONG TILE ", "THREE OF CIRCLES,FOUR OF CIRCLES,FIVE OF CIRCLES,SIX OF CIRCLES"⟩,
    ⟨0x1F01F, "MAHJONG TILE ", "SEVEN OF CIRCLES,EIGHT OF CIRCLES,NINE OF CIRCLES,PLUM,ORCHID"⟩,
    ⟨0x1F024, "MAHJONG TILE ", "BAMBOO,CHRYSANTHEMUM,SPRING,SUMMER,AUTUMN,WINTER,JOKER,BACK"⟩,
    ⟨0x1F030, "", "DOMINO TILE HORIZONTAL BACK"⟩,
    ⟨0x1F031, "DOMINO TILE HORIZONTAL-00-", "00,01,02,03,04,05,06"⟩,
    ⟨0x1F038, "DOMINO TILE HORIZONTAL-01-", "00,01,02,03,04,05,06"⟩,
    ⟨0x1F03F, "DOMINO TILE HORIZONTAL-02-", "00,01,02,03,04,05,06"⟩,
    ⟨0x1F046, "DOMINO TILE HORIZONTAL-03-", "00,01,02,03,04,05,06"⟩,
    ⟨0x1F04D, "DOMINO TILE HORIZONTAL-04-", "00,01,02,03,04,05,06"⟩,
    ⟨0x1F054, "DOMINO TILE HORIZONTAL-05-", "00,01,02,03,04,05,06"⟩,
    ⟨0x1F05B, "DOMINO TILE HORIZONTAL-06-", "00,01,02,03,04,05,06"⟩,
    ⟨0x1F062, "", "DOMINO TILE VERTICAL BACK"⟩,
    ⟨0x1F063, "DOMINO TILE VERTICAL-00-", "00,01,02,03,04,05,06"⟩,
    ⟨0x1F06A, "DOMINO TILE VERTICAL-01-", "00,01,02,03,04,05,06"⟩,
    ⟨0x1F071, "DOMINO TILE VERTICAL-02-", "00,01,02,03,04,05,06"⟩,
    ⟨0x1F078, "DOMINO TILE VERTICAL-03-", "00,01,02,03,04,05,06"⟩,
    ⟨0x1F07F, "DOMINO TILE VERTICAL-04-", "00,01,02,03,04,05,06"⟩,
    ⟨0x1F086, "DOMINO TILE VERTICAL-05-", "00,01,02,03,04,05,06"⟩,
    ⟨0x1F08D, "DOMINO TILE VERTICAL-06-", "00,01,02,03,04,05,06"⟩,
    ⟨0x1F0A0, "PLAYING CARD ", "BACK,ACE OF SPADES,TWO OF SPADES"⟩,
    ⟨0x1F0A3, "PLAYING CARD ", "THREE OF SPADES,FOUR OF SPADES,FIVE OF SPADES,SIX OF SPADES"⟩,
    ⟨0x1F0A7, "PLAYING CARD ", "SEVEN OF SPADES,EIGHT OF SPADES,NINE OF SPADES,TEN OF SPADES"⟩,
    ⟨0x1F0AB, "PLAYING CARD ", "JACK OF SPADES,KNIGHT OF SPADES,QUEEN OF SPADES,KING OF SPADES"⟩,
    ⟨0x1F0B1, "PLAYING CARD ", "ACE OF HEARTS,TWO OF HEARTS,THREE OF HEARTS"⟩,
    ⟨0x1F0B4, "PLAYING CARD ", "FOUR OF HEARTS,FIVE OF HEARTS,SIX OF HEARTS,SEVEN OF HEARTS"⟩,
    ⟨0x1F0B8, "PLAYING CARD ", "EIGHT OF HEARTS,NINE OF HEARTS,TEN OF HEARTS,JACK OF HEARTS"⟩,
    ⟨0x1F0BC, "PLAYING CARD ", "KNIGHT OF HEARTS,QUEEN OF HEARTS,KING OF HEARTS,RED JOKER"⟩,
    ⟨0x1F0C1, "PLAYING CARD ", "ACE OF DIAMONDS,TWO OF DIAMONDS"⟩,
    ⟨0x1F0C3, "PLAYING CARD ", "THREE OF DIAMONDS,FOUR OF DIAMONDS,FIVE OF DIAMONDS"⟩,
    ⟨0x1F0C6, "PLAYING CARD ", "SIX OF DIAMONDS,SEVEN OF DIAMONDS,EIGHT OF DIAMONDS"⟩,
    ⟨0x1F0C9, "PLAYING CARD ", "NINE OF DIAMONDS,TEN OF DIAMONDS,JACK OF DIAMONDS"⟩,
    ⟨0x1F0CC, "PLAYING CARD ", "KNIGHT OF DIAMONDS,QUEEN OF DIAMONDS,KING OF DIAMONDS,BLACK JOKER"⟩,
    ⟨0x1F0D1, "PLAYING CARD ", "ACE OF CLUBS,TWO OF CLUBS,THREE OF CLUBS"⟩,
    ⟨0x1F0D4, "PLAYING CARD ", "FOUR OF CLUBS,FIVE OF CLUBS,SIX OF CLUBS,SEVEN OF CLUBS"⟩,
    ⟨0x1F0D8, "PLAYING CARD ", "EIGHT OF CLUBS,NINE OF CLUBS,TEN OF CLUBS,JACK OF CLUBS"⟩,
    ⟨0x1F0DC, "PLAYING CARD ", "KNIGHT OF CLUBS,QUEEN OF CLUBS,KING OF CLUBS,WHITE JOKER,FOOL"⟩,
    ⟨0x1F0E1, "PLAYING CARD TRUMP-", "1,2,3,4,5,6,7,8,9,10,11,12,13,14,15,16,17,18,19,20,21"⟩,
    ⟨0x1F100, "DIGIT ", "ZERO FULL STOP,ZERO COMMA,ONE COMMA,TWO COMMA,THREE COMMA"⟩,
    ⟨0x1F105, "DIGIT ", "FOUR COMMA,FIVE COMMA,SIX COMMA,SEVEN COMMA,EIGHT COMMA,NINE COMMA"⟩,
    ⟨0x1F10B, "DINGBAT ", "CIRCLED SANS-SERIF DIGIT ZERO,NEGATIVE CIRCLED SANS-SERIF DIGIT ZERO"⟩,
    ⟨0x1F10D, "", "CIRCLED ZERO WITH SLASH"⟩,
    ⟨0x1F10E, "CIRCLED ", "ANTICLOCKWISE ARROW,DOLLAR SIGN WITH OVERLAID BACKSLASH"⟩,
    ⟨0x1F110, "PARENTHESIZED LATIN CAPITAL LETTER ", "A,B,C,D"⟩,
    ⟨0x1F114, "PARENTHESIZED LATIN CAPITAL LETTER ", "E,F,G,H,I,J,K,L,M,N,O,P,Q,R,S,T,U,V,W,X,Y,Z"⟩,
    ⟨0x1F12A, "", "TORTOISE SHELL BRACKETED LATIN CAPITAL LETTER S"⟩,
    ⟨0x1F12B, "CIRCLED ITALIC LATIN CAPITAL LETTER ", "C,R"⟩,
    ⟨0x1F12D, "", "CIRCLED CD,CIRCLED WZ,COPYLEFT SYMBOL"⟩,
    ⟨0x1F130, "SQUARED LATIN CAPITAL LETTER ", "A,B,C,D,E,F,G,H,I,J,K,L,M,N,O,P,Q,R,S,T,U,V,W,X,Y"⟩,
    ⟨0x1F149, "SQUARED ", "LATIN CAPITAL LETTER Z,HV,MV,SD,SS,PPV,WC"⟩,
    ⟨0x1F150, "NEGATIVE CIRCLED LATIN CAPITAL LETTER ", "A,B,C,D,E,F"⟩,
    ⟨0x1F156, "NEGATIVE CIRCLED LATIN CAPITAL LETTER ", "G,H,I,J,K,L,M,N,O,P,Q,R,S,T,U,V,W,X,Y,Z"⟩,
    ⟨0x1F16A, "RAISED ", "MC SIGN,MD SIGN,MR SIGN"⟩,
    ⟨0x1F16D, "CIRCLED ", "CC,C WITH OVERLAID BACKSLASH,HUMAN FIGURE"⟩,
    ⟨0x1F170, "NEGATIVE SQUARED LATIN CAPITAL LETTER ", "A,B,C,D,E,F"⟩,
    ⟨0x1F176, "NEGATIVE SQUARED LATIN CAPITAL LETTER ", "G,H,I,J,K,L,M,N,O,P,Q,R,S,T,U,V,W,X,Y,Z"⟩,
    ⟨0x1F18A, "", "CROSSED NEGATIVE SQUARED LATIN CAPITAL LETTER P"⟩,
    ⟨0x1F18B, "NEGATIVE SQUARED ", "IC,PA,SA,AB,WC"⟩,
    ⟨0x1F190, "", "SQUARE DJ"⟩,
    ⟨0x1F191, "SQUARED ", "CL,COOL,FREE,ID,NEW,NG,OK,SOS,UP WITH EXCLAMATION MARK"⟩,
    ⟨0x1F19A, "SQUARED ", "VS,THREE D,SECOND SCREEN,TWO K,FOUR K,EIGHT K,FIVE POINT ONE"⟩,
    ⟨0x1F1A1, "SQUARED ", "SEVEN POINT ONE,TWENTY-TWO POINT TWO,SIXTY P,ONE HUNDRED TWENTY P"⟩,
    ⟨0x1F1A5, "SQUARED ", "LATIN SMALL LETTER D,HC,HDR,HI-RES,LOSSLESS,SHV,UHD,VOD"⟩,
    ⟨0x1F1AD, "", "MASK WORK SYMBOL"⟩,
    ⟨0x1F1E6, "REGIONAL INDICATOR SYMBOL LETTER ", "A,B,C"⟩,
    ⟨0x1F1E9, "REGIONAL INDICATOR SYMBOL LETTER ", "D,E,F,G,H,I,J,K,L,M,N,O,P,Q,R,S,T,U,V,W,X,Y,Z"⟩,
    ⟨0x1F200, "", "SQUARE HIRAGANA HOKA,SQUARED KATAKANA KOKO,SQUARED KATAKANA SA"⟩,
    ⟨0x1F210, "SQUARED CJK UNIFIED IDEOGRAPH-", "624B,5B57,53CC"⟩,
    ⟨0x1F213, "", "SQUARED KATAKANA DE"⟩,
    ⟨0x1F214, "SQUARED CJK UNIFIED IDEOGRAPH-", "4E8C,591A,89E3,5929"⟩,
    ⟨0x1F218, "SQUARED CJK UNIFIED IDEOGRAPH-", "4EA4,6620,7121,6599,524D,5F8C,518D,65B0,521D"⟩,
    ⟨0x1F221, "SQUARED CJK UNIFIED IDEOGRAPH-", "7D42,751F,8CA9,58F0,5439,6F14,6295,6355,4E00"⟩,
    ⟨0x1F22A, "SQUARED CJK UNIFIED IDEOGRAPH-", "4E09,904A,5DE6,4E2D,53F3,6307,8D70,6253,7981"⟩,
    ⟨0x1F233, "SQUARED CJK UNIFIED IDEOGRAPH-", "7A7A,5408,6E80,6709,6708,7533,5272,55B6,914D"⟩,
    ⟨0x1F240, "TORTOISE SHELL BRACKETED CJK UNIFIED IDEOGRAPH-", "672C,4E09,4E8C"⟩,
    ⟨0x1F243, "TORTOISE SHELL BRACKETED CJK UNIFIED IDEOGRAPH-", "5B89,70B9,6253,76D7,52DD,6557"⟩,
    ⟨0x1F250, "CIRCLED IDEOGRAPH ", "ADVANTAGE,ACCEPT"⟩,
    ⟨0x1F260, "ROUNDED SYMBOL FOR ", "FU,LU,SHOU,XI,SHUANGXI,CAI"⟩,
    ⟨0x1F300, "", "CYCLONE,FOGGY,CLOSED UMBRELLA"⟩,
    ⟨0x1F303, "", "NIGHT WITH STARS,SUNRISE OVER MOUNTAINS,SUNRISE,CITYSCAPE AT DUSK"⟩,
    ⟨0x1F307, "", "SUNSET OVER BUILDINGS,RAINBOW,BRIDGE AT NIGHT,WATER WAVE,VOLCANO,MILKY WAY"⟩,
    ⟨0x1F30D, "EARTH GLOBE ", "EUROPE-AFRICA,AMERICAS,ASIA-AUSTRALIA"⟩,
    ⟨0x1F310, "", "GLOBE WITH MERIDIANS,NEW MOON SYMBOL,WAXING CRESCENT MOON SYMBOL"⟩,
    ⟨0x1F313, "", "FIRST QUARTER MOON SYMBOL,WAXING GIBBOUS MOON SYMBOL"⟩,
    ⟨0x1F315, "", "FULL MOON SYMBOL,WANING GIBBOUS MOON SYMBOL,LAST QUARTER MOON SYMBOL"⟩,
    ⟨0x1F318, "", "WANING CRESCENT MOON SYMBOL,CRESCENT MOON,NEW MOON WITH FACE"⟩,
    ⟨0x1F31B, "", "FIRST QUARTER MOON WITH FACE,LAST QUARTER MOON WITH FACE,FULL MOON WITH FACE"⟩,
    ⟨0x1F31E, "", "SUN WITH FACE,GLOWING STAR,SHOOTING STAR,THERMOMETER,BLACK DROPLET,WHITE SUN"⟩,
    ⟨0x1F324, "WHITE SUN ", "WITH SMALL CLOUD,BEHIND CLOUD,BEHIND CLOUD WITH RAIN"⟩,
    ⟨0x1F327, "CLOUD WITH ", "RAIN,SNOW,LIGHTNING,TORNADO"⟩,
    ⟨0x1F32B, "", "FOG,WIND BLOWING FACE,HOT DOG,TACO,BURRITO,CHESTNUT,SEEDLING,EVERGREEN TREE"⟩,
    ⟨0x1F333, "", "DECIDUOUS TREE,PALM TREE,CACTUS,HOT PEPPER,TULIP,CHERRY BLOSSOM,ROSE,HIBISCUS"⟩,
    ⟨0x1F33B, "", "SUNFLOWER,BLOSSOM,EAR OF MAIZE,EAR OF RICE,HERB,FOUR LEAF CLOVER,MAPLE LEAF"⟩,
    ⟨0x1F342, "", "FALLEN LEAF,LEAF FLUTTERING IN WIND,MUSHROOM,TOMATO,AUBERGINE,GRAPES"⟩,
    ⟨0x1F348, "", "MELON,WATERMELON,TANGERINE,LEMON,BANANA,PINEAPPLE,RED APPLE,GREEN APPLE,PEAR"⟩,
    ⟨0x1F351, "", "PEACH,CHERRIES,STRAWBERRY,HAMBURGER,SLICE OF PIZZA,MEAT ON BONE,POULTRY LEG"⟩,
    ⟨0x1F358, "", "RICE CRACKER,RICE BALL,COOKED RICE,CURRY AND RICE,STEAMING BOWL,SPAGHETTI"⟩,
    ⟨0x1F35E, "", "BREAD,FRENCH FRIES,ROASTED SWEET POTATO,DANGO,ODEN,SUSHI,FRIED SHRIMP"⟩,
    ⟨0x1F365, "", "FISH CAKE WITH SWIRL DESIGN,SOFT ICE CREAM,SHAVED ICE,ICE CREAM,DOUGHNUT"⟩,
    ⟨0x1F36A, "", "COOKIE,CHOCOLATE BAR,CANDY,LOLLIPOP,CUSTARD,HONEY POT,SHORTCAKE,BENTO BOX"⟩,
    ⟨0x1F372, "", "POT OF FOOD,COOKING,FORK AND KNIFE,TEACUP WITHOUT HANDLE,SAKE BOTTLE AND CUP"⟩,
    ⟨0x1F377, "", "WINE GLASS,COCKTAIL GLASS,TROPICAL DRINK,BEER MUG,CLINKING BEER MUGS"⟩,
    ⟨0x1F37C, "", "BABY BOTTLE,FORK AND KNIFE WITH PLATE,BOTTLE WITH POPPING CORK,POPCORN,RIBBON"⟩,
    ⟨0x1F381, "", "WRAPPED PRESENT,BIRTHDAY CAKE,JACK-O-LANTERN,CHRISTMAS TREE,FATHER CHRISTMAS"⟩,
    ⟨0x1F386, "", "FIREWORKS,FIREWORK SPARKLER,BALLOON,PARTY POPPER,CONFETTI BALL,TANABATA TREE"⟩,
    ⟨0x1F38C, "", "CROSSED FLAGS,PINE DECORATION,JAPANESE DOLLS,CARP STREAMER,WIND CHIME"⟩,
    ⟨0x1F391, "", "MOON VIEWING CEREMONY,SCHOOL SATCHEL,GRADUATION CAP,HEART WITH TIP ON THE LEFT"⟩,
    ⟨0x1F395, "", "BOUQUET OF FLOWERS,MILITARY MEDAL,REMINDER RIBBON,MUSICAL KEYBOARD WITH JACKS"⟩,
    ⟨0x1F399, "", "STUDIO MICROPHONE,LEVEL SLIDER,CONTROL KNOBS,BEAMED ASCENDING MUSICAL NOTES"⟩,
    ⟨0x1F39D, "", "BEAMED DESCENDING MUSICAL NOTES,FILM FRAMES,ADMISSION TICKETS,CAROUSEL HORSE"⟩,
    ⟨0x1F3A1, "", "FERRIS WHEEL,ROLLER COASTER,FISHING POLE AND FISH,MICROPHONE,MOVIE CAMERA"⟩,
    ⟨0x1F3A6, "", "CINEMA,HEADPHONE,ARTIST PALETTE,TOP HAT,CIRCUS TENT,TICKET,CLAPPER BOARD"⟩,
    ⟨0x1F3AD, "", "PERFORMING ARTS,VIDEO GAME,DIRECT HIT,SLOT MACHINE,BILLIARDS,GAME DIE"⟩,
    ⟨0x1F3B3, "", "BOWLING,FLOWER PLAYING CARDS,MUSICAL NOTE,MULTIPLE MUSICAL NOTES,SAXOPHONE"⟩,
    ⟨0x1F3B8, "", "GUITAR,MUSICAL KEYBOARD,TRUMPET,VIOLIN,MUSICAL SCORE,RUNNING SHIRT WITH SASH"⟩,
    ⟨0x1F3BE, "", "TENNIS RACQUET AND BALL,SKI AND SKI BOOT,BASKETBALL AND HOOP,CHEQUERED FLAG"⟩,
    ⟨0x1F3C2, "", "SNOWBOARDER,RUNNER,SURFER,SPORTS MEDAL,TROPHY,HORSE RACING,AMERICAN FOOTBALL"⟩,
    ⟨0x1F3C9, "", "RUGBY FOOTBALL,SWIMMER,WEIGHT LIFTER,GOLFER,RACING MOTORCYCLE"⟩,
    ⟨0x1F3CE, "", "RACING CAR,CRICKET BAT AND BALL,VOLLEYBALL,FIELD HOCKEY STICK AND BALL"⟩,
    ⟨0x1F3D2, "", "ICE HOCKEY STICK AND PUCK,TABLE TENNIS PADDLE AND BALL"⟩,
    ⟨0x1F3D4, "", "SNOW CAPPED MOUNTAIN,CAMPING,BEACH WITH UMBRELLA,BUILDING CONSTRUCTION"⟩,
    ⟨0x1F3D8, "", "HOUSE BUILDINGS,CITYSCAPE,DERELICT HOUSE BUILDING,CLASSICAL BUILDING"⟩,
    ⟨0x1F3DC, "", "DESERT,DESERT ISLAND,NATIONAL PARK,STADIUM,HOUSE BUILDING,HOUSE WITH GARDEN"⟩,
    ⟨0x1F3E2, "", "OFFICE BUILDING,JAPANESE POST OFFICE,EUROPEAN POST OFFICE,HOSPITAL"⟩,
    ⟨0x1F3E6, "", "BANK,AUTOMATED TELLER MACHINE,HOTEL,LOVE HOTEL,CONVENIENCE STORE,SCHOOL"⟩,
    ⟨0x1F3EC, "", "DEPARTMENT STORE,FACTORY,IZAKAYA LANTERN,JAPANESE CASTLE,EUROPEAN CASTLE"⟩,
    ⟨0x1F3F1, "", "WHITE PENNANT,BLACK PENNANT,WAVING WHITE FLAG,WAVING BLACK FLAG,ROSETTE"⟩,
    ⟨0x1F3F6, "", "BLACK ROSETTE,LABEL,BADMINTON RACQUET AND SHUTTLECOCK,BOW AND ARROW,AMPHORA"⟩,
    ⟨0x1F3FB, "EMOJI MODIFIER FITZPATRICK TYPE-", "1-2,3,4,5,6"⟩,
    ⟨0x1F400, "", "RAT,MOUSE,OX,WATER BUFFALO,COW,TIGER,LEOPARD,RABBIT,CAT,DRAGON,CROCODILE"⟩,
    ⟨0x1F40B, "", "WHALE,SNAIL,SNAKE,HORSE,RAM,GOAT,SHEEP,MONKEY,ROOSTER,CHICKEN,DOG,PIG,BOAR"⟩,
    ⟨0x1F418, "", "ELEPHANT,OCTOPUS,SPIRAL SHELL,BUG,ANT,HONEYBEE,LADY BEETLE,FISH,TROPICAL FISH"⟩,
    ⟨0x1F421, "", "BLOWFISH,TURTLE,HATCHING CHICK,BABY CHICK,FRONT-FACING BABY CHICK"⟩,
    ⟨0x1F426, "", "BIRD,PENGUIN,KOALA,POODLE,DROMEDARY CAMEL,BACTRIAN CAMEL,DOLPHIN,MOUSE FACE"⟩,
    ⟨0x1F42E, "", "COW FACE,TIGER FACE,RABBIT FACE,CAT FACE,DRAGON FACE,SPOUTING WHALE,HORSE FACE"⟩,
    ⟨0x1F435, "", "MONKEY FACE,DOG FACE,PIG FACE,FROG FACE,HAMSTER FACE,WOLF FACE,BEAR FACE"⟩,
    ⟨0x1F43C, "", "PANDA FACE,PIG NOSE,PAW PRINTS,CHIPMUNK,EYES,EYE,EAR,NOSE,MOUTH,TONGUE"⟩,
    ⟨0x1F446, "WHITE ", "UP POINTING BACKHAND INDEX,DOWN POINTING BACKHAND INDEX"⟩,
    ⟨0x1F448, "WHITE ", "LEFT POINTING BACKHAND INDEX,RIGHT POINTING BACKHAND INDEX"⟩,
    ⟨0x1F44A, "", "FISTED HAND SIGN,WAVING HAND SIGN,OK HAND SIGN,THUMBS UP SIGN,THUMBS DOWN SIGN"⟩,
    ⟨0x1F44F, "", "CLAPPING HANDS SIGN,OPEN HANDS SIGN,CROWN,WOMANS HAT,EYEGLASSES"⟩,
    ⟨0x1F454, "", "NECKTIE,T-SHIRT,JEANS,DRESS,KIMONO,BIKINI,WOMANS CLOTHES,PURSE,HANDBAG"⟩,
    ⟨0x1F45D, "", "POUCH,MANS SHOE,ATHLETIC SHOE,HIGH-HEELED SHOE,WOMANS SANDAL,WOMANS BOOTS"⟩,
    ⟨0x1F463, "", "FOOTPRINTS,BUST IN SILHOUETTE,BUSTS IN SILHOUETTE,BOY,GIRL,MAN,WOMAN,FAMILY"⟩,
    ⟨0x1F46B, "", "MAN AND WOMAN HOLDING HANDS,TWO MEN HOLDING HANDS,TWO WOMEN HOLDING HANDS"⟩,
    ⟨0x1F46E, "", "POLICE OFFICER,WOMAN WITH BUNNY EARS,BRIDE WITH VEIL,PERSON WITH BLOND HAIR"⟩,
    ⟨0x1F472, "MAN WITH ", "GUA PI MAO,TURBAN"⟩,
    ⟨0x1F474, "", "OLDER MAN,OLDER WOMAN,BABY,CONSTRUCTION WORKER,PRINCESS,JAPANESE OGRE"⟩,
    ⟨0x1F47A, "", "JAPANESE GOBLIN,GHOST,BABY ANGEL,EXTRATERRESTRIAL ALIEN,ALIEN MONSTER"⟩,
    ⟨0x1F47F, "", "IMP,SKULL,INFORMATION DESK PERSON,GUARDSMAN,DANCER,LIPSTICK,NAIL POLISH"⟩,
    ⟨0x1F486, "", "FACE MASSAGE,HAIRCUT,BARBER POLE,SYRINGE,PILL,KISS MARK,LOVE LETTER"⟩,
    ⟨0x1F48D, "", "RING,GEM STONE,KISS,BOUQUET,COUPLE WITH HEART,WEDDING,BEATING HEART"⟩,
    ⟨0x1F494, "", "BROKEN HEART,TWO HEARTS,SPARKLING HEART,GROWING HEART,HEART WITH ARROW"⟩,
    ⟨0x1F499, "", "BLUE HEART,GREEN HEART,YELLOW HEART,PURPLE HEART,HEART WITH RIBBON"⟩,
    ⟨0x1F49E, "", "REVOLVING HEARTS,HEART DECORATION,DIAMOND SHAPE WITH A DOT INSIDE"⟩,
    ⟨0x1F4A1, "", "ELECTRIC LIGHT BULB,ANGER SYMBOL,BOMB,SLEEPING SYMBOL,COLLISION SYMBOL"⟩,
    ⟨0x1F4A6, "", "SPLASHING SWEAT SYMBOL,DROPLET,DASH SYMBOL,PILE OF POO,FLEXED BICEPS"⟩,
    ⟨0x1F4AB, "", "DIZZY SYMBOL,SPEECH BALLOON,THOUGHT BALLOON,WHITE FLOWER,HUNDRED POINTS SYMBOL"⟩,
    ⟨0x1F4B0, "", "MONEY BAG,CURRENCY EXCHANGE,HEAVY DOLLAR SIGN,CREDIT CARD"⟩,
    ⟨0x1F4B4, "BANKNOTE WITH ", "YEN SIGN,DOLLAR SIGN,EURO SIGN,POUND SIGN"⟩,
    ⟨0x1F4B8, "", "MONEY WITH WINGS,CHART WITH UPWARDS TREND AND YEN SIGN,SEAT,PERSONAL COMPUTER"⟩,
    ⟨0x1F4BC, "", "BRIEFCASE,MINIDISC,FLOPPY DISK,OPTICAL DISC,DVD,FILE FOLDER,OPEN FILE FOLDER"⟩,
    ⟨0x1F4C3, "", "PAGE WITH CURL,PAGE FACING UP,CALENDAR,TEAR-OFF CALENDAR,CARD INDEX"⟩,
    ⟨0x1F4C8, "CHART WITH ", "UPWARDS TREND,DOWNWARDS TREND"⟩,
    ⟨0x1F4CA, "", "BAR CHART,CLIPBOARD,PUSHPIN,ROUND PUSHPIN,PAPERCLIP,STRAIGHT RULER"⟩,
    ⟨0x1F4D0, "", "TRIANGULAR RULER,BOOKMARK TABS,LEDGER,NOTEBOOK,NOTEBOOK WITH DECORATIVE COVER"⟩,
    ⟨0x1F4D5, "", "CLOSED BOOK,OPEN BOOK,GREEN BOOK,BLUE BOOK,ORANGE BOOK,BOOKS"⟩,
    ⟨0x1F4DB, "", "NAME BADGE,SCROLL,MEMO,TELEPHONE RECEIVER,PAGER,FAX MACHINE,SATELLITE ANTENNA"⟩,
    ⟨0x1F4E2, "", "PUBLIC ADDRESS LOUDSPEAKER,CHEERING MEGAPHONE,OUTBOX TRAY,INBOX TRAY"⟩,
    ⟨0x1F4E6, "", "PACKAGE,E-MAIL SYMBOL,INCOMING ENVELOPE,ENVELOPE WITH DOWNWARDS ARROW ABOVE"⟩,
    ⟨0x1F4EA, "CLOSED MAILBOX WITH ", "LOWERED FLAG,RAISED FLAG"⟩,
    ⟨0x1F4EC, "", "OPEN MAILBOX WITH RAISED FLAG,OPEN MAILBOX WITH LOWERED FLAG,POSTBOX"⟩,
    ⟨0x1F4EF, "", "POSTAL HORN,NEWSPAPER,MOBILE PHONE,MOBILE PHONE WITH RIGHTWARDS ARROW AT LEFT"⟩,
    ⟨0x1F4F3, "", "VIBRATION MODE,MOBILE PHONE OFF,NO MOBILE PHONES,ANTENNA WITH BARS"⟩,
    ⟨0x1F4F7, "", "CAMERA,CAMERA WITH FLASH,VIDEO CAMERA,TELEVISION,RADIO,VIDEOCASSETTE"⟩,
    ⟨0x1F4FD, "", "FILM PROJECTOR,PORTABLE STEREO,PRAYER BEADS,TWISTED RIGHTWARDS ARROWS"⟩,
    ⟨0x1F501, "", "CLOCKWISE RIGHTWARDS AND LEFTWARDS OPEN CIRCLE ARROWS"⟩,
    ⟨0x1F502, "", "CLOCKWISE RIGHTWARDS AND LEFTWARDS OPEN CIRCLE ARROWS WITH CIRCLED ONE OVERLAY"⟩,
    ⟨0x1F503, "", "CLOCKWISE DOWNWARDS AND UPWARDS OPEN CIRCLE ARROWS"⟩,
    ⟨0x1F504, "", "ANTICLOCKWISE DOWNWARDS AND UPWARDS OPEN CIRCLE ARROWS,LOW BRIGHTNESS SYMBOL"⟩,
    ⟨0x1F506, "", "HIGH BRIGHTNESS SYMBOL,SPEAKER WITH CANCELLATION STROKE,SPEAKER"⟩,
    ⟨0x1F509, "SPEAKER WITH ", "ONE SOUND WAVE,THREE SOUND WAVES"⟩,
    ⟨0x1F50B, "", "BATTERY,ELECTRIC PLUG,LEFT-POINTING MAGNIFYING GLASS"⟩,
    ⟨0x1F50E, "", "RIGHT-POINTING MAGNIFYING GLASS,LOCK WITH INK PEN,CLOSED LOCK WITH KEY"⟩,
    ⟨0x1F511, "", "KEY,LOCK,OPEN LOCK,BELL,BELL WITH CANCELLATION STROKE,BOOKMARK,LINK SYMBOL"⟩,
    ⟨0x1F518, "", "RADIO BUTTON,BACK WITH LEFTWARDS ARROW ABOVE,END WITH LEFTWARDS ARROW ABOVE"⟩,
    ⟨0x1F51B, "", "ON WITH EXCLAMATION MARK WITH LEFT RIGHT ARROW ABOVE"⟩,
    ⟨0x1F51C, "", "SOON WITH RIGHTWARDS ARROW ABOVE"⟩,
    ⟨0x1F51D, "", "TOP WITH UPWARDS ARROW ABOVE,NO ONE UNDER EIGHTEEN SYMBOL,KEYCAP TEN"⟩,
    ⟨0x1F520, "INPUT SYMBOL FOR ", "LATIN CAPITAL LETTERS,LATIN SMALL LETTERS,NUMBERS,SYMBOLS"⟩,
    ⟨0x1F524, "", "INPUT SYMBOL FOR LATIN LETTERS,FIRE"⟩,
    ⟨0x1F526, "", "ELECTRIC TORCH,WRENCH,HAMMER,NUT AND BOLT,HOCHO,PISTOL,MICROSCOPE,TELESCOPE"⟩,
    ⟨0x1F52E, "", "CRYSTAL BALL,SIX POINTED STAR WITH MIDDLE DOT,JAPANESE SYMBOL FOR BEGINNER"⟩,
    ⟨0x1F531, "", "TRIDENT EMBLEM,BLACK SQUARE BUTTON,WHITE SQUARE BUTTON,LARGE RED CIRCLE"⟩,
    ⟨0x1F535, "", "LARGE BLUE CIRCLE,LARGE ORANGE DIAMOND,LARGE BLUE DIAMOND,SMALL ORANGE DIAMOND"⟩,
    ⟨0x1F539, "", "SMALL BLUE DIAMOND,UP-POINTING RED TRIANGLE,DOWN-POINTING RED TRIANGLE"⟩,
    ⟨0x1F53C, "", "UP-POINTING SMALL RED TRIANGLE,DOWN-POINTING SMALL RED TRIANGLE"⟩,
    ⟨0x1F53E, "", "LOWER RIGHT SHADOWED WHITE CIRCLE,UPPER RIGHT SHADOWED WHITE CIRCLE"⟩,
    ⟨0x1F540, "", "CIRCLED CROSS POMMEE,CROSS POMMEE WITH HALF-CIRCLE BELOW,CROSS POMMEE"⟩,
    ⟨0x1F543, "NOTCHED ", "LEFT SEMICIRCLE WITH THREE DOTS,RIGHT SEMICIRCLE WITH THREE DOTS"⟩,
    ⟨0x1F545, "", "SYMBOL FOR MARKS CHAPTER"⟩,
    ⟨0x1F546, "", "WHITE LATIN CROSS,HEAVY LATIN CROSS,CELTIC CROSS,OM SYMBOL,DOVE OF PEACE"⟩,
    ⟨0x1F54B, "", "KAABA,MOSQUE,SYNAGOGUE,MENORAH WITH NINE BRANCHES,BOWL OF HYGIEIA"⟩,
    ⟨0x1F550, "CLOCK FACE ", "ONE OCLOCK,TWO OCLOCK,THREE OCLOCK,FOUR OCLOCK"⟩,
    ⟨0x1F554, "CLOCK FACE ", "FIVE OCLOCK,SIX OCLOCK,SEVEN OCLOCK,EIGHT OCLOCK,NINE OCLOCK"⟩,
    ⟨0x1F559, "CLOCK FACE ", "TEN OCLOCK,ELEVEN OCLOCK,TWELVE OCLOCK,ONE-THIRTY,TWO-THIRTY"⟩,
    ⟨0x1F55E, "CLOCK FACE ", "THREE-THIRTY,FOUR-THIRTY,FIVE-THIRTY,SIX-THIRTY,SEVEN-THIRTY"⟩,
    ⟨0x1F563, "CLOCK FACE ", "EIGHT-THIRTY,NINE-THIRTY,TEN-THIRTY,ELEVEN-THIRTY,TWELVE-THIRTY"⟩,
    ⟨0x1F568, "RIGHT ", "SPEAKER,SPEAKER WITH ONE SOUND WAVE,SPEAKER WITH THREE SOUND WAVES"⟩,
    ⟨0x1F56B, "", "BULLHORN,BULLHORN WITH SOUND WAVES,RINGING BELL,BOOK,CANDLE,MANTELPIECE CLOCK"⟩,
    ⟨0x1F571, "", "BLACK SKULL AND CROSSBONES,NO PIRACY,HOLE,MAN IN BUSINESS SUIT LEVITATING"⟩,
    ⟨0x1F575, "", "SLEUTH OR SPY,DARK SUNGLASSES,SPIDER,SPIDER WEB"⟩,
    ⟨0x1F579, "", "JOYSTICK,MAN DANCING,LEFT HAND TELEPHONE RECEIVER,TELEPHONE RECEIVER WITH PAGE"⟩,
    ⟨0x1F57D, "", "RIGHT HAND TELEPHONE RECEIVER,WHITE TOUCHTONE TELEPHONE"⟩,
    ⟨0x1F57F, "", "BLACK TOUCHTONE TELEPHONE,TELEPHONE ON TOP OF MODEM,CLAMSHELL MOBILE PHONE"⟩,
    ⟨0x1F582, "", "BACK OF ENVELOPE,STAMPED ENVELOPE,ENVELOPE WITH LIGHTNING"⟩,
    ⟨0x1F585, "", "FLYING ENVELOPE,PEN OVER STAMPED ENVELOPE,LINKED PAPERCLIPS,BLACK PUSHPIN"⟩,
    ⟨0x1F589, "LOWER LEFT ", "PENCIL,BALLPOINT PEN,FOUNTAIN PEN,PAINTBRUSH,CRAYON"⟩,
    ⟨0x1F58E, "", "LEFT WRITING HAND,TURNED OK HAND SIGN,RAISED HAND WITH FINGERS SPLAYED"⟩,
    ⟨0x1F591, "REVERSED ", "RAISED HAND WITH FINGERS SPLAYED,THUMBS UP SIGN"⟩,
    ⟨0x1F593, "REVERSED ", "THUMBS DOWN SIGN,VICTORY HAND,HAND WITH MIDDLE FINGER EXTENDED"⟩,
    ⟨0x1F596, "", "RAISED HAND WITH PART BETWEEN MIDDLE AND RING FINGERS"⟩,
    ⟨0x1F597, "", "WHITE DOWN POINTING LEFT HAND INDEX"⟩,
    ⟨0x1F598, "SIDEWAYS WHITE ", "LEFT POINTING INDEX,RIGHT POINTING INDEX"⟩,
    ⟨0x1F59A, "SIDEWAYS BLACK ", "LEFT POINTING INDEX,RIGHT POINTING INDEX"⟩,
    ⟨0x1F59C, "BLACK ", "LEFT POINTING BACKHAND INDEX,RIGHT POINTING BACKHAND INDEX"⟩,
    ⟨0x1F59E, "SIDEWAYS WHITE ", "UP POINTING INDEX,DOWN POINTING INDEX"⟩,
    ⟨0x1F5A0, "SIDEWAYS BLACK ", "UP POINTING INDEX,DOWN POINTING INDEX"⟩,
    ⟨0x1F5A2, "BLACK ", "UP POINTING BACKHAND INDEX,DOWN POINTING BACKHAND INDEX,HEART"⟩,
    ⟨0x1F5A5, "", "DESKTOP COMPUTER,KEYBOARD AND MOUSE,THREE NETWORKED COMPUTERS"⟩,
    ⟨0x1F5A8, "", "PRINTER,POCKET CALCULATOR,BLACK HARD SHELL FLOPPY DISK"⟩,
    ⟨0x1F5AB, "", "WHITE HARD SHELL FLOPPY DISK,SOFT SHELL FLOPPY DISK,TAPE CARTRIDGE"⟩,
    ⟨0x1F5AE, "", "WIRED KEYBOARD,ONE BUTTON MOUSE,TWO BUTTON MOUSE,THREE BUTTON MOUSE,TRACKBALL"⟩,
    ⟨0x1F5B3, "", "OLD PERSONAL COMPUTER,HARD DISK,SCREEN,PRINTER ICON,FAX ICON,OPTICAL DISC ICON"⟩,
    ⟨0x1F5B9, "DOCUMENT WITH ", "TEXT,TEXT AND PICTURE,PICTURE"⟩,
    ⟨0x1F5BC, "FRAME WITH ", "PICTURE,TILES,AN X"⟩,
    ⟨0x1F5BF, "", "BLACK FOLDER,FOLDER,OPEN FOLDER,CARD INDEX DIVIDERS,CARD FILE BOX,FILE CABINET"⟩,
    ⟨0x1F5C5, "EMPTY ", "NOTE,NOTE PAGE,NOTE PAD"⟩,
    ⟨0x1F5C8, "", "NOTE,NOTE PAGE,NOTE PAD,EMPTY DOCUMENT,EMPTY PAGE,EMPTY PAGES,DOCUMENT"⟩,
    ⟨0x1F5CF, "", "PAGE,PAGES,WASTEBASKET,SPIRAL NOTE PAD,SPIRAL CALENDAR PAD,DESKTOP WINDOW"⟩,
    ⟨0x1F5D5, "", "MINIMIZE,MAXIMIZE,OVERLAP,CLOCKWISE RIGHT AND LEFT SEMICIRCLE ARROWS"⟩,
    ⟨0x1F5D9, "", "CANCELLATION X,INCREASE FONT SIZE SYMBOL,DECREASE FONT SIZE SYMBOL"⟩,
    ⟨0x1F5DC, "", "COMPRESSION,OLD KEY,ROLLED-UP NEWSPAPER,PAGE WITH CIRCLED TEXT"⟩,
    ⟨0x1F5E0, "", "STOCK CHART,DAGGER KNIFE,LIPS,SPEAKING HEAD IN SILHOUETTE"⟩,
    ⟨0x1F5E4, "THREE RAYS ", "ABOVE,BELOW,LEFT,RIGHT"⟩,
    ⟨0x1F5E8, "", "LEFT SPEECH BUBBLE,RIGHT SPEECH BUBBLE,TWO SPEECH BUBBLES,THREE SPEECH BUBBLES"⟩,
    ⟨0x1F5EC, "", "LEFT THOUGHT BUBBLE,RIGHT THOUGHT BUBBLE,LEFT ANGER BUBBLE"⟩,
    ⟨0x1F5EF, "", "RIGHT ANGER BUBBLE,MOOD BUBBLE,LIGHTNING MOOD BUBBLE,LIGHTNING MOOD"⟩,
    ⟨0x1F5F3, "BALLOT ", "BOX WITH BALLOT,SCRIPT X,BOX WITH SCRIPT X,BOLD SCRIPT X"⟩,
    ⟨0x1F5F7, "", "BALLOT BOX WITH BOLD SCRIPT X,LIGHT CHECK MARK,BALLOT BOX WITH BOLD CHECK"⟩,
    ⟨0x1F5FA, "", "WORLD MAP,MOUNT FUJI,TOKYO TOWER,STATUE OF LIBERTY,SILHOUETTE OF JAPAN"⟩,
    ⟨0x1F5FF, "", "MOYAI,GRINNING FACE,GRINNING FACE WITH SMILING EYES,FACE WITH TEARS OF JOY"⟩,
    ⟨0x1F603, "SMILING FACE WITH OPEN ", "MOUTH,MOUTH AND SMILING EYES,MOUTH AND COLD SWEAT"⟩,
    ⟨0x1F606, "SMILING FACE WITH ", "OPEN MOUTH AND TIGHTLY-CLOSED EYES,HALO,HORNS"⟩,
    ⟨0x1F609, "", "WINKING FACE,SMILING FACE WITH SMILING EYES,FACE SAVOURING DELICIOUS FOOD"⟩,
    ⟨0x1F60C, "", "RELIEVED FACE,SMILING FACE WITH HEART-SHAPED EYES"⟩,
    ⟨0x1F60E, "", "SMILING FACE WITH SUNGLASSES,SMIRKING FACE,NEUTRAL FACE,EXPRESSIONLESS FACE"⟩,
    ⟨0x1F612, "", "UNAMUSED FACE,FACE WITH COLD SWEAT,PENSIVE FACE,CONFUSED FACE,CONFOUNDED FACE"⟩,
    ⟨0x1F617, "", "KISSING FACE,FACE THROWING A KISS,KISSING FACE WITH SMILING EYES"⟩,
    ⟨0x1F61A, "", "KISSING FACE WITH CLOSED EYES,FACE WITH STUCK-OUT TONGUE"⟩,
    ⟨0x1F61C, "FACE WITH STUCK-OUT TONGUE AND ", "WINKING EYE,TIGHTLY-CLOSED EYES"⟩,
    ⟨0x1F61E, "", "DISAPPOINTED FACE,WORRIED FACE,ANGRY FACE,POUTING FACE,CRYING FACE"⟩,
    ⟨0x1F623, "", "PERSEVERING FACE,FACE WITH LOOK OF TRIUMPH,DISAPPOINTED BUT RELIEVED FACE"⟩,
    ⟨0x1F626, "", "FROWNING FACE WITH OPEN MOUTH,ANGUISHED FACE,FEARFUL FACE"⟩,
    ⟨0x1F629, "", "WEARY FACE,SLEEPY FACE,TIRED FACE,GRIMACING FACE,LOUDLY CRYING FACE"⟩,
    ⟨0x1F62E, "", "FACE WITH OPEN MOUTH,HUSHED FACE,FACE WITH OPEN MOUTH AND COLD SWEAT"⟩,
    ⟨0x1F631, "", "FACE SCREAMING IN FEAR,ASTONISHED FACE,FLUSHED FACE,SLEEPING FACE,DIZZY FACE"⟩,
    ⟨0x1F636, "FACE ", "WITHOUT MOUTH,WITH MEDICAL MASK"⟩,
    ⟨0x1F638, "", "GRINNING CAT FACE WITH SMILING EYES,CAT FACE WITH TEARS OF JOY"⟩,
    ⟨0x1F63A, "SMILING CAT FACE WITH ", "OPEN MOUTH,HEART-SHAPED EYES"⟩,
    ⟨0x1F63C, "", "CAT FACE WITH WRY SMILE,KISSING CAT FACE WITH CLOSED EYES,POUTING CAT FACE"⟩,
    ⟨0x1F63F, "", "CRYING CAT FACE,WEARY CAT FACE,SLIGHTLY FROWNING FACE,SLIGHTLY SMILING FACE"⟩,
    ⟨0x1F643, "", "UPSIDE-DOWN FACE,FACE WITH ROLLING EYES,FACE WITH NO GOOD GESTURE"⟩,
    ⟨0x1F646, "", "FACE WITH OK GESTURE,PERSON BOWING DEEPLY,SEE-NO-EVIL MONKEY"⟩,
    ⟨0x1F649, "", "HEAR-NO-EVIL MONKEY,SPEAK-NO-EVIL MONKEY,HAPPY PERSON RAISING ONE HAND"⟩,
    ⟨0x1F64C, "PERSON ", "RAISING BOTH HANDS IN CELEBRATION,FROWNING,WITH POUTING FACE"⟩,
    ⟨0x1F64F, "", "PERSON WITH FOLDED HANDS,NORTH WEST POINTING LEAF"⟩,
    ⟨0x1F651, "", "SOUTH WEST POINTING LEAF,NORTH EAST POINTING LEAF,SOUTH EAST POINTING LEAF"⟩,
    ⟨0x1F654, "TURNED ", "NORTH WEST POINTING LEAF,SOUTH WEST POINTING LEAF"⟩,
    ⟨0x1F656, "TURNED ", "NORTH EAST POINTING LEAF,SOUTH EAST POINTING LEAF"⟩,
    ⟨0x1F658, "", "NORTH WEST POINTING VINE LEAF,SOUTH WEST POINTING VINE LEAF"⟩,
    ⟨0x1F65A, "", "NORTH EAST POINTING VINE LEAF,SOUTH EAST POINTING VINE LEAF"⟩,
    ⟨0x1F65C, "HEAVY ", "NORTH WEST POINTING VINE LEAF,SOUTH WEST POINTING VINE LEAF"⟩,
    ⟨0x1F65E, "HEAVY ", "NORTH EAST POINTING VINE LEAF,SOUTH EAST POINTING VINE LEAF"⟩,
    ⟨0x1F660, "", "NORTH WEST POINTING BUD,SOUTH WEST POINTING BUD"⟩,
    ⟨0x1F662, "", "NORTH EAST POINTING BUD,SOUTH EAST POINTING BUD,HEAVY NORTH WEST POINTING BUD"⟩,
    ⟨0x1F665, "HEAVY ", "SOUTH WEST POINTING BUD,NORTH EAST POINTING BUD,SOUTH EAST POINTING BUD"⟩,
    ⟨0x1F668, "HOLLOW QUILT SQUARE ", "ORNAMENT,ORNAMENT IN BLACK SQUARE"⟩,
    ⟨0x1F66A, "SOLID QUILT SQUARE ", "ORNAMENT,ORNAMENT IN BLACK SQUARE"⟩,
    ⟨0x1F66C, "", "LEFTWARDS ROCKET,UPWARDS ROCKET,RIGHTWARDS ROCKET"⟩,
    ⟨0x1F66F, "", "DOWNWARDS ROCKET,SCRIPT LIGATURE ET ORNAMENT,HEAVY SCRIPT LIGATURE ET ORNAMENT"⟩,
    ⟨0x1F672, "", "LIGATURE OPEN ET ORNAMENT,HEAVY LIGATURE OPEN ET ORNAMENT"⟩,
    ⟨0x1F674, "", "HEAVY AMPERSAND ORNAMENT,SWASH AMPERSAND ORNAMENT"⟩,
    ⟨0x1F676, "", "SANS-SERIF HEAVY DOUBLE TURNED COMMA QUOTATION MARK ORNAMENT"⟩,
    ⟨0x1F677, "", "SANS-SERIF HEAVY DOUBLE COMMA QUOTATION MARK ORNAMENT"⟩,
    ⟨0x1F678, "", "SANS-SERIF HEAVY LOW DOUBLE COMMA QUOTATION MARK ORNAMENT"⟩,
    ⟨0x1F679, "", "HEAVY INTERROBANG ORNAMENT"⟩,
    ⟨0x1F67A, "", "SANS-SERIF INTERROBANG ORNAMENT,HEAVY SANS-SERIF INTERROBANG ORNAMENT"⟩,
    ⟨0x1F67C, "", "VERY HEAVY SOLIDUS,VERY HEAVY REVERSE SOLIDUS,CHECKER BOARD"⟩,
    ⟨0x1F67F, "", "REVERSE CHECKER BOARD,ROCKET,HELICOPTER,STEAM LOCOMOTIVE,RAILWAY CAR"⟩,
    ⟨0x1F684, "", "HIGH-SPEED TRAIN,HIGH-SPEED TRAIN WITH BULLET NOSE,TRAIN,METRO,LIGHT RAIL"⟩,
    ⟨0x1F689, "", "STATION,TRAM,TRAM CAR,BUS,ONCOMING BUS,TROLLEYBUS,BUS STOP,MINIBUS,AMBULANCE"⟩,
    ⟨0x1F692, "", "FIRE ENGINE,POLICE CAR,ONCOMING POLICE CAR,TAXI,ONCOMING TAXI,AUTOMOBILE"⟩,
    ⟨0x1F698, "", "ONCOMING AUTOMOBILE,RECREATIONAL VEHICLE,DELIVERY TRUCK,ARTICULATED LORRY"⟩,
    ⟨0x1F69C, "", "TRACTOR,MONORAIL,MOUNTAIN RAILWAY,SUSPENSION RAILWAY,MOUNTAIN CABLEWAY"⟩,
    ⟨0x1F6A1, "", "AERIAL TRAMWAY,SHIP,ROWBOAT,SPEEDBOAT,HORIZONTAL TRAFFIC LIGHT"⟩,
    ⟨0x1F6A6, "", "VERTICAL TRAFFIC LIGHT,CONSTRUCTION SIGN,POLICE CARS REVOLVING LIGHT"⟩,
    ⟨0x1F6A9, "", "TRIANGULAR FLAG ON POST,DOOR,NO ENTRY SIGN,SMOKING SYMBOL,NO SMOKING SYMBOL"⟩,
    ⟨0x1F6AE, "", "PUT LITTER IN ITS PLACE SYMBOL,DO NOT LITTER SYMBOL,POTABLE WATER SYMBOL"⟩,
    ⟨0x1F6B1, "", "NON-POTABLE WATER SYMBOL,BICYCLE,NO BICYCLES,BICYCLIST,MOUNTAIN BICYCLIST"⟩,
    ⟨0x1F6B6, "", "PEDESTRIAN,NO PEDESTRIANS,CHILDREN CROSSING,MENS SYMBOL,WOMENS SYMBOL,RESTROOM"⟩,
    ⟨0x1F6BC, "", "BABY SYMBOL,TOILET,WATER CLOSET,SHOWER,BATH,BATHTUB,PASSPORT CONTROL,CUSTOMS"⟩,
    ⟨0x1F6C4, "", "BAGGAGE CLAIM,LEFT LUGGAGE,TRIANGLE WITH ROUNDED CORNERS,PROHIBITED SIGN"⟩,
    ⟨0x1F6C8, "", "CIRCLED INFORMATION SOURCE,BOYS SYMBOL,GIRLS SYMBOL,COUCH AND LAMP"⟩,
    ⟨0x1F6CC, "", "SLEEPING ACCOMMODATION,SHOPPING BAGS,BELLHOP BELL,BED,PLACE OF WORSHIP"⟩,
    ⟨0x1F6D1, "", "OCTAGONAL SIGN,SHOPPING TROLLEY,STUPA,PAGODA,HINDU TEMPLE,HUT,ELEVATOR"⟩,
    ⟨0x1F6DD, "", "PLAYGROUND SLIDE,WHEEL,RING BUOY,HAMMER AND WRENCH,SHIELD,OIL DRUM,MOTORWAY"⟩,
    ⟨0x1F6E4, "", "RAILWAY TRACK,MOTOR BOAT,UP-POINTING MILITARY AIRPLANE,UP-POINTING AIRPLANE"⟩,
    ⟨0x1F6E8, "", "UP-POINTING SMALL AIRPLANE,SMALL AIRPLANE,NORTHEAST-POINTING AIRPLANE"⟩,
    ⟨0x1F6EB, "AIRPLANE ", "DEPARTURE,ARRIVING"⟩,
    ⟨0x1F6F0, "", "SATELLITE"⟩,
    ⟨0x1F6F1, "", "ONCOMING FIRE ENGINE,DIESEL LOCOMOTIVE,PASSENGER SHIP,SCOOTER,MOTOR SCOOTER"⟩,
    ⟨0x1F6F6, "", "CANOE,SLED,FLYING SAUCER,SKATEBOARD,AUTO RICKSHAW,PICKUP TRUCK,ROLLER SKATE"⟩,
    ⟨0x1F700, "ALCHEMICAL SYMBOL FOR ", "QUINTESSENCE,AIR,FIRE,EARTH,WATER,AQUAFORTIS,AQUA REGIA"⟩,
    ⟨0x1F707, "ALCHEMICAL SYMBOL FOR ", "AQUA REGIA-2,AQUA VITAE,AQUA VITAE-2,VINEGAR,VINEGAR-2"⟩,
    ⟨0x1F70C, "ALCHEMICAL SYMBOL FOR ", "VINEGAR-3,SULFUR,PHILOSOPHERS SULFUR,BLACK SULFUR"⟩,
    ⟨0x1F710, "ALCHEMICAL SYMBOL FOR MERCURY ", "SUBLIMATE,SUBLIMATE-2,SUBLIMATE-3"⟩,
    ⟨0x1F713, "ALCHEMICAL SYMBOL FOR ", "CINNABAR,SALT,NITRE"⟩,
    ⟨0x1F716, "ALCHEMICAL SYMBOL FOR ", "VITRIOL,VITRIOL-2,ROCK SALT,ROCK SALT-2,GOLD,SILVER"⟩,
    ⟨0x1F71C, "ALCHEMICAL SYMBOL FOR ", "IRON ORE,IRON ORE-2,CROCUS OF IRON,REGULUS OF IRON"⟩,
    ⟨0x1F720, "ALCHEMICAL SYMBOL FOR ", "COPPER ORE,IRON-COPPER ORE,SUBLIMATE OF COPPER"⟩,
    ⟨0x1F723, "ALCHEMICAL SYMBOL FOR CROCUS OF ", "COPPER,COPPER-2"⟩,
    ⟨0x1F725, "ALCHEMICAL SYMBOL FOR ", "COPPER ANTIMONIATE,SALT OF COPPER ANTIMONIATE"⟩,
    ⟨0x1F727, "ALCHEMICAL SYMBOL FOR ", "SUBLIMATE OF SALT OF COPPER,VERDIGRIS,TIN ORE,LEAD ORE"⟩,
    ⟨0x1F72B, "ALCHEMICAL SYMBOL FOR ", "ANTIMONY ORE,SUBLIMATE OF ANTIMONY,SALT OF ANTIMONY"⟩,
    ⟨0x1F72E, "ALCHEMICAL SYMBOL FOR ", "SUBLIMATE OF SALT OF ANTIMONY,VINEGAR OF ANTIMONY"⟩,
    ⟨0x1F730, "ALCHEMICAL SYMBOL FOR REGULUS OF ", "ANTIMONY,ANTIMONY-2"⟩,
    ⟨0x1F732, "ALCHEMICAL SYMBOL FOR ", "REGULUS,REGULUS-2,REGULUS-3,REGULUS-4,ALKALI,ALKALI-2"⟩,
    ⟨0x1F738, "ALCHEMICAL SYMBOL FOR ", "MARCASITE,SAL-AMMONIAC,ARSENIC,REALGAR,REALGAR-2"⟩,
    ⟨0x1F73D, "ALCHEMICAL SYMBOL FOR ", "AURIPIGMENT,BISMUTH ORE,TARTAR,TARTAR-2,QUICK LIME"⟩,
    ⟨0x1F742, "ALCHEMICAL SYMBOL FOR ", "BORAX,BORAX-2,BORAX-3,ALUM,OIL,SPIRIT,TINCTURE"⟩,
    ⟨0x1F749, "ALCHEMICAL SYMBOL FOR ", "GUM,WAX,POWDER,CALX,TUTTY,CAPUT MORTUUM,SCEPTER OF JOVE"⟩,
    ⟨0x1F750, "ALCHEMICAL SYMBOL FOR ", "CADUCEUS,TRIDENT,STARRED TRIDENT,LODESTONE,SOAP,URINE"⟩,
    ⟨0x1F756, "ALCHEMICAL SYMBOL FOR ", "HORSE DUNG,ASHES,POT ASHES,BRICK,POWDERED BRICK,AMALGAM"⟩,
    ⟨0x1F75C, "ALCHEMICAL SYMBOL FOR STRATUM SUPER ", "STRATUM,STRATUM-2"⟩,
    ⟨0x1F75E, "ALCHEMICAL SYMBOL FOR ", "SUBLIMATION,PRECIPITATE"⟩,
    ⟨0x1F760, "ALCHEMICAL SYMBOL FOR ", "DISTILL,DISSOLVE,DISSOLVE-2,PURIFY,PUTREFACTION,CRUCIBLE"⟩,
    ⟨0x1F766, "ALCHEMICAL SYMBOL FOR CRUCIBLE-", "2,3,4,5"⟩,
    ⟨0x1F76A, "ALCHEMICAL SYMBOL FOR ", "ALEMBIC,BATH OF MARY,BATH OF VAPOURS"⟩,
    ⟨0x1F76D, "ALCHEMICAL SYMBOL FOR ", "RETORT,HOUR,NIGHT,DAY-NIGHT,MONTH,HALF DRAM,HALF OUNCE"⟩,
    ⟨0x1F780, "", "BLACK LEFT-POINTING ISOSCELES RIGHT TRIANGLE"⟩,
    ⟨0x1F781, "", "BLACK UP-POINTING ISOSCELES RIGHT TRIANGLE"⟩,
    ⟨0x1F782, "", "BLACK RIGHT-POINTING ISOSCELES RIGHT TRIANGLE"⟩,
    ⟨0x1F783, "BLACK ", "DOWN-POINTING ISOSCELES RIGHT TRIANGLE,SLIGHTLY SMALL CIRCLE"⟩,
    ⟨0x1F785, "", "MEDIUM BOLD WHITE CIRCLE,BOLD WHITE CIRCLE"⟩,
    ⟨0x1F787, "", "HEAVY WHITE CIRCLE,VERY HEAVY WHITE CIRCLE,EXTREMELY HEAVY WHITE CIRCLE"⟩,
    ⟨0x1F78A, "", "WHITE CIRCLE CONTAINING BLACK SMALL CIRCLE,ROUND TARGET,BLACK TINY SQUARE"⟩,
    ⟨0x1F78D, "", "BLACK SLIGHTLY SMALL SQUARE,LIGHT WHITE SQUARE,MEDIUM WHITE SQUARE"⟩,
    ⟨0x1F790, "", "BOLD WHITE SQUARE,HEAVY WHITE SQUARE,VERY HEAVY WHITE SQUARE"⟩,
    ⟨0x1F793, "", "EXTREMELY HEAVY WHITE SQUARE,WHITE SQUARE CONTAINING BLACK VERY SMALL SQUARE"⟩,
    ⟨0x1F795, "", "WHITE SQUARE CONTAINING BLACK MEDIUM SQUARE,SQUARE TARGET"⟩,
    ⟨0x1F797, "BLACK ", "TINY DIAMOND,VERY SMALL DIAMOND,MEDIUM SMALL DIAMOND"⟩,
    ⟨0x1F79A, "WHITE DIAMOND CONTAINING BLACK ", "VERY SMALL DIAMOND,MEDIUM DIAMOND"⟩,
    ⟨0x1F79C, "", "DIAMOND TARGET,BLACK TINY LOZENGE,BLACK VERY SMALL LOZENGE"⟩,
    ⟨0x1F79F, "", "BLACK MEDIUM SMALL LOZENGE,WHITE LOZENGE CONTAINING BLACK SMALL LOZENGE"⟩,
    ⟨0x1F7A1, "", "THIN GREEK CROSS,LIGHT GREEK CROSS,MEDIUM GREEK CROSS,BOLD GREEK CROSS"⟩,
    ⟨0x1F7A5, "", "VERY BOLD GREEK CROSS,VERY HEAVY GREEK CROSS,EXTREMELY HEAVY GREEK CROSS"⟩,
    ⟨0x1F7A8, "", "THIN SALTIRE,LIGHT SALTIRE,MEDIUM SALTIRE,BOLD SALTIRE,HEAVY SALTIRE"⟩,
    ⟨0x1F7AD, "", "VERY HEAVY SALTIRE,EXTREMELY HEAVY SALTIRE,LIGHT FIVE SPOKED ASTERISK"⟩,
    ⟨0x1F7B0, "", "MEDIUM FIVE SPOKED ASTERISK,BOLD FIVE SPOKED ASTERISK"⟩,
    ⟨0x1F7B2, "", "HEAVY FIVE SPOKED ASTERISK,VERY HEAVY FIVE SPOKED ASTERISK"⟩,
    ⟨0x1F7B4, "", "EXTREMELY HEAVY FIVE SPOKED ASTERISK,LIGHT SIX SPOKED ASTERISK"⟩,
    ⟨0x1F7B6, "", "MEDIUM SIX SPOKED ASTERISK,BOLD SIX SPOKED ASTERISK,HEAVY SIX SPOKED ASTERISK"⟩,
    ⟨0x1F7B9, "", "VERY HEAVY SIX SPOKED ASTERISK,EXTREMELY HEAVY SIX SPOKED ASTERISK"⟩,
    ⟨0x1F7BB, "", "LIGHT EIGHT SPOKED ASTERISK,MEDIUM EIGHT SPOKED ASTERISK"⟩,
    ⟨0x1F7BD, "", "BOLD EIGHT SPOKED ASTERISK,HEAVY EIGHT SPOKED ASTERISK"⟩,
    ⟨0x1F7BF, "", "VERY HEAVY EIGHT SPOKED ASTERISK,LIGHT THREE POINTED BLACK STAR"⟩,
    ⟨0x1F7C1, "", "MEDIUM THREE POINTED BLACK STAR,THREE POINTED BLACK STAR"⟩,
    ⟨0x1F7C3, "", "MEDIUM THREE POINTED PINWHEEL STAR,LIGHT FOUR POINTED BLACK STAR"⟩,
    ⟨0x1F7C5, "", "MEDIUM FOUR POINTED BLACK STAR,FOUR POINTED BLACK STAR"⟩,
    ⟨0x1F7C7, "", "MEDIUM FOUR POINTED PINWHEEL STAR,REVERSE LIGHT FOUR POINTED PINWHEEL STAR"⟩,
    ⟨0x1F7C9, "", "LIGHT FIVE POINTED BLACK STAR,HEAVY FIVE POINTED BLACK STAR"⟩,
    ⟨0x1F7CB, "", "MEDIUM SIX POINTED BLACK STAR,HEAVY SIX POINTED BLACK STAR"⟩,
    ⟨0x1F7CD, "", "SIX POINTED PINWHEEL STAR,MEDIUM EIGHT POINTED BLACK STAR"⟩,
    ⟨0x1F7CF, "", "HEAVY EIGHT POINTED BLACK STAR,VERY HEAVY EIGHT POINTED BLACK STAR"⟩,
    ⟨0x1F7D1, "", "HEAVY EIGHT POINTED PINWHEEL STAR,LIGHT TWELVE POINTED BLACK STAR"⟩,
    ⟨0x1F7D3, "HEAVY TWELVE POINTED ", "BLACK STAR,PINWHEEL STAR"⟩,
    ⟨0x1F7D5, "", "CIRCLED TRIANGLE"⟩,
    ⟨0x1F7D6, "", "NEGATIVE CIRCLED TRIANGLE,CIRCLED SQUARE,NEGATIVE CIRCLED SQUARE"⟩,
    ⟨0x1F7E0, "LARGE ", "ORANGE CIRCLE,YELLOW CIRCLE"⟩,
    ⟨0x1F7E2, "LARGE ", "GREEN CIRCLE,PURPLE CIRCLE,BROWN CIRCLE,RED SQUARE,BLUE SQUARE"⟩,
    ⟨0x1F7E7, "LARGE ", "ORANGE SQUARE,YELLOW SQUARE,GREEN SQUARE,PURPLE SQUARE,BROWN SQUARE"⟩,
    ⟨0x1F7F0, "", "HEAVY EQUALS SIGN"⟩,
    ⟨0x1F800, "", "LEFTWARDS ARROW WITH SMALL TRIANGLE ARROWHEAD"⟩,
    ⟨0x1F801, "", "UPWARDS ARROW WITH SMALL TRIANGLE ARROWHEAD"⟩,
    ⟨0x1F802, "", "RIGHTWARDS ARROW WITH SMALL TRIANGLE ARROWHEAD"⟩,
    ⟨0x1F803, "", "DOWNWARDS ARROW WITH SMALL TRIANGLE ARROWHEAD"⟩,
    ⟨0x1F804, "", "LEFTWARDS ARROW WITH MEDIUM TRIANGLE ARROWHEAD"⟩,
    ⟨0x1F805, "", "UPWARDS ARROW WITH MEDIUM TRIANGLE ARROWHEAD"⟩,
    ⟨0x1F806, "", "RIGHTWARDS ARROW WITH MEDIUM TRIANGLE ARROWHEAD"⟩,
    ⟨0x1F807, "", "DOWNWARDS ARROW WITH MEDIUM TRIANGLE ARROWHEAD"⟩,
    ⟨0x1F808, "", "LEFTWARDS ARROW WITH LARGE TRIANGLE ARROWHEAD"⟩,
    ⟨0x1F809, "", "UPWARDS ARROW WITH LARGE TRIANGLE ARROWHEAD"⟩,
    ⟨0x1F80A, "", "RIGHTWARDS ARROW WITH LARGE TRIANGLE ARROWHEAD"⟩,
    ⟨0x1F80B, "", "DOWNWARDS ARROW WITH LARGE TRIANGLE ARROWHEAD"⟩,
    ⟨0x1F810, "", "LEFTWARDS ARROW WITH SMALL EQUILATERAL ARROWHEAD"⟩,
    ⟨0x1F811, "", "UPWARDS ARROW WITH SMALL EQUILATERAL ARROWHEAD"⟩,
    ⟨0x1F812, "", "RIGHTWARDS ARROW WITH SMALL EQUILATERAL ARROWHEAD"⟩,
    ⟨0x1F813, "", "DOWNWARDS ARROW WITH SMALL EQUILATERAL ARROWHEAD"⟩,
    ⟨0x1F814, "", "LEFTWARDS ARROW WITH EQUILATERAL ARROWHEAD"⟩,
    ⟨0x1F815, "", "UPWARDS ARROW WITH EQUILATERAL ARROWHEAD"⟩,
    ⟨0x1F816, "", "RIGHTWARDS ARROW WITH EQUILATERAL ARROWHEAD"⟩,
    ⟨0x1F817, "", "DOWNWARDS ARROW WITH EQUILATERAL ARROWHEAD"⟩,
    ⟨0x1F818, "", "HEAVY LEFTWARDS ARROW WITH EQUILATERAL ARROWHEAD"⟩,
    ⟨0x1F819, "", "HEAVY UPWARDS ARROW WITH EQUILATERAL ARROWHEAD"⟩,
    ⟨0x1F81A, "", "HEAVY RIGHTWARDS ARROW WITH EQUILATERAL ARROWHEAD"⟩,
    ⟨0x1F81B, "", "HEAVY DOWNWARDS ARROW WITH EQUILATERAL ARROWHEAD"⟩,
    ⟨0x1F81C, "", "HEAVY LEFTWARDS ARROW WITH LARGE EQUILATERAL ARROWHEAD"⟩,
    ⟨0x1F81D, "", "HEAVY UPWARDS ARROW WITH LARGE EQUILATERAL ARROWHEAD"⟩,
    ⟨0x1F81E, "", "HEAVY RIGHTWARDS ARROW WITH LARGE EQUILATERAL ARROWHEAD"⟩,
    ⟨0x1F81F, "", "HEAVY DOWNWARDS ARROW WITH LARGE EQUILATERAL ARROWHEAD"⟩,
    ⟨0x1F820, "", "LEFTWARDS TRIANGLE-HEADED ARROW WITH NARROW SHAFT"⟩,
    ⟨0x1F821, "", "UPWARDS TRIANGLE-HEADED ARROW WITH NARROW SHAFT"⟩,
    ⟨0x1F822, "", "RIGHTWARDS TRIANGLE-HEADED ARROW WITH NARROW SHAFT"⟩,
    ⟨0x1F823, "", "DOWNWARDS TRIANGLE-HEADED ARROW WITH NARROW SHAFT"⟩,
    ⟨0x1F824, "", "LEFTWARDS TRIANGLE-HEADED ARROW WITH MEDIUM SHAFT"⟩,
    ⟨0x1F825, "", "UPWARDS TRIANGLE-HEADED ARROW WITH MEDIUM SHAFT"⟩,
    ⟨0x1F826, "", "RIGHTWARDS TRIANGLE-HEADED ARROW WITH MEDIUM SHAFT"⟩,
    ⟨0x1F827, "", "DOWNWARDS TRIANGLE-HEADED ARROW WITH MEDIUM SHAFT"⟩,
    ⟨0x1F828, "", "LEFTWARDS TRIANGLE-HEADED ARROW WITH BOLD SHAFT"⟩,
    ⟨0x1F829, "", "UPWARDS TRIANGLE-HEADED ARROW WITH BOLD SHAFT"⟩,
    ⟨0x1F82A, "", "RIGHTWARDS TRIANGLE-HEADED ARROW WITH BOLD SHAFT"⟩,
    ⟨0x1F82B, "", "DOWNWARDS TRIANGLE-HEADED ARROW WITH BOLD SHAFT"⟩,
    ⟨0x1F82C, "", "LEFTWARDS TRIANGLE-HEADED ARROW WITH HEAVY SHAFT"⟩,
    ⟨0x1F82D, "", "UPWARDS TRIANGLE-HEADED ARROW WITH HEAVY SHAFT"⟩,
    ⟨0x1F82E, "", "RIGHTWARDS TRIANGLE-HEADED ARROW WITH HEAVY SHAFT"⟩,
    ⟨0x1F82F, "", "DOWNWARDS TRIANGLE-HEADED ARROW WITH HEAVY SHAFT"⟩,
    ⟨0x1F830, "", "LEFTWARDS TRIANGLE-HEADED ARROW WITH VERY HEAVY SHAFT"⟩,
    ⟨0x1F831, "", "UPWARDS TRIANGLE-HEADED ARROW WITH VERY HEAVY SHAFT"⟩,
    ⟨0x1F832, "", "RIGHTWARDS TRIANGLE-HEADED ARROW WITH VERY HEAVY SHAFT"⟩,
    ⟨0x1F833, "", "DOWNWARDS TRIANGLE-HEADED ARROW WITH VERY HEAVY SHAFT"⟩,
    ⟨0x1F834, "", "LEFTWARDS FINGER-POST ARROW"⟩,
    ⟨0x1F835, "", "UPWARDS FINGER-POST ARROW,RIGHTWARDS FINGER-POST ARROW"⟩,
    ⟨0x1F837, "", "DOWNWARDS FINGER-POST ARROW,LEFTWARDS SQUARED ARROW,UPWARDS SQUARED ARROW"⟩,
    ⟨0x1F83A, "", "RIGHTWARDS SQUARED ARROW,DOWNWARDS SQUARED ARROW,LEFTWARDS COMPRESSED ARROW"⟩,
    ⟨0x1F83D, "", "UPWARDS COMPRESSED ARROW,RIGHTWARDS COMPRESSED ARROW"⟩,
    ⟨0x1F83F, "", "DOWNWARDS COMPRESSED ARROW,LEFTWARDS HEAVY COMPRESSED ARROW"⟩,
    ⟨0x1F841, "", "UPWARDS HEAVY COMPRESSED ARROW,RIGHTWARDS HEAVY COMPRESSED ARROW"⟩,
    ⟨0x1F843, "", "DOWNWARDS HEAVY COMPRESSED ARROW,LEFTWARDS HEAVY ARROW"⟩,
    ⟨0x1F845, "", "UPWARDS HEAVY ARROW,RIGHTWARDS HEAVY ARROW,DOWNWARDS HEAVY ARROW"⟩,
    ⟨0x1F850, "", "LEFTWARDS SANS-SERIF ARROW,UPWARDS SANS-SERIF ARROW"⟩,
    ⟨0x1F852, "", "RIGHTWARDS SANS-SERIF ARROW,DOWNWARDS SANS-SERIF ARROW"⟩,
    ⟨0x1F854, "NORTH ", "WEST SANS-SERIF ARROW,EAST SANS-SERIF ARROW"⟩,
    ⟨0x1F856, "SOUTH ", "EAST SANS-SERIF ARROW,WEST SANS-SERIF ARROW"⟩,
    ⟨0x1F858, "", "LEFT RIGHT SANS-SERIF ARROW,UP DOWN SANS-SERIF ARROW"⟩,
    ⟨0x1F860, "WIDE-HEADED ", "LEFTWARDS LIGHT BARB ARROW,UPWARDS LIGHT BARB ARROW"⟩,
    ⟨0x1F862, "WIDE-HEADED ", "RIGHTWARDS LIGHT BARB ARROW,DOWNWARDS LIGHT BARB ARROW"⟩,
    ⟨0x1F864, "WIDE-HEADED NORTH ", "WEST LIGHT BARB ARROW,EAST LIGHT BARB ARROW"⟩,
    ⟨0x1F866, "WIDE-HEADED SOUTH ", "EAST LIGHT BARB ARROW,WEST LIGHT BARB ARROW"⟩,
    ⟨0x1F868, "WIDE-HEADED ", "LEFTWARDS BARB ARROW,UPWARDS BARB ARROW,RIGHTWARDS BARB ARROW"⟩,
    ⟨0x1F86B, "WIDE-HEADED ", "DOWNWARDS BARB ARROW,NORTH WEST BARB ARROW,NORTH EAST BARB ARROW"⟩,
    ⟨0x1F86E, "WIDE-HEADED SOUTH ", "EAST BARB ARROW,WEST BARB ARROW"⟩,
    ⟨0x1F870, "WIDE-HEADED ", "LEFTWARDS MEDIUM BARB ARROW,UPWARDS MEDIUM BARB ARROW"⟩,
    ⟨0x1F872, "WIDE-HEADED ", "RIGHTWARDS MEDIUM BARB ARROW,DOWNWARDS MEDIUM BARB ARROW"⟩,
    ⟨0x1F874, "WIDE-HEADED NORTH ", "WEST MEDIUM BARB ARROW,EAST MEDIUM BARB ARROW"⟩,
    ⟨0x1F876, "WIDE-HEADED SOUTH ", "EAST MEDIUM BARB ARROW,WEST MEDIUM BARB ARROW"⟩,
    ⟨0x1F878, "WIDE-HEADED ", "LEFTWARDS HEAVY BARB ARROW,UPWARDS HEAVY BARB ARROW"⟩,
    ⟨0x1F87A, "WIDE-HEADED ", "RIGHTWARDS HEAVY BARB ARROW,DOWNWARDS HEAVY BARB ARROW"⟩,
    ⟨0x1F87C, "WIDE-HEADED NORTH ", "WEST HEAVY BARB ARROW,EAST HEAVY BARB ARROW"⟩,
    ⟨0x1F87E, "WIDE-HEADED SOUTH ", "EAST HEAVY BARB ARROW,WEST HEAVY BARB ARROW"⟩,
    ⟨0x1F880, "WIDE-HEADED ", "LEFTWARDS VERY HEAVY BARB ARROW,UPWARDS VERY HEAVY BARB ARROW"⟩,
    ⟨0x1F882, "WIDE-HEADED ", "RIGHTWARDS VERY HEAVY BARB ARROW,DOWNWARDS VERY HEAVY BARB ARROW"⟩,
    ⟨0x1F884, "WIDE-HEADED NORTH ", "WEST VERY HEAVY BARB ARROW,EAST VERY HEAVY BARB ARROW"⟩,
    ⟨0x1F886, "WIDE-HEADED SOUTH ", "EAST VERY HEAVY BARB ARROW,WEST VERY HEAVY BARB ARROW"⟩,
    ⟨0x1F890, "", "LEFTWARDS TRIANGLE ARROWHEAD"⟩,
    ⟨0x1F891, "", "UPWARDS TRIANGLE ARROWHEAD,RIGHTWARDS TRIANGLE ARROWHEAD"⟩,
    ⟨0x1F893, "", "DOWNWARDS TRIANGLE ARROWHEAD,LEFTWARDS WHITE ARROW WITHIN TRIANGLE ARROWHEAD"⟩,
    ⟨0x1F895, "", "UPWARDS WHITE ARROW WITHIN TRIANGLE ARROWHEAD"⟩,
    ⟨0x1F896, "", "RIGHTWARDS WHITE ARROW WITHIN TRIANGLE ARROWHEAD"⟩,
    ⟨0x1F897, "", "DOWNWARDS WHITE ARROW WITHIN TRIANGLE ARROWHEAD"⟩,
    ⟨0x1F898, "", "LEFTWARDS ARROW WITH NOTCHED TAIL,UPWARDS ARROW WITH NOTCHED TAIL"⟩,
    ⟨0x1F89A, "", "RIGHTWARDS ARROW WITH NOTCHED TAIL,DOWNWARDS ARROW WITH NOTCHED TAIL"⟩,
    ⟨0x1F89C, "HEAVY ARROW SHAFT WIDTH ", "ONE,TWO THIRDS,ONE HALF,ONE THIRD"⟩,
    ⟨0x1F8A0, "", "LEFTWARDS BOTTOM-SHADED WHITE ARROW"⟩,
    ⟨0x1F8A1, "", "RIGHTWARDS BOTTOM SHADED WHITE ARROW,LEFTWARDS TOP SHADED WHITE ARROW"⟩,
    ⟨0x1F8A3, "", "RIGHTWARDS TOP SHADED WHITE ARROW,LEFTWARDS LEFT-SHADED WHITE ARROW"⟩,
    ⟨0x1F8A5, "", "RIGHTWARDS RIGHT-SHADED WHITE ARROW,LEFTWARDS RIGHT-SHADED WHITE ARROW"⟩,
    ⟨0x1F8A7, "", "RIGHTWARDS LEFT-SHADED WHITE ARROW,LEFTWARDS BACK-TILTED SHADOWED WHITE ARROW"⟩,
    ⟨0x1F8A9, "", "RIGHTWARDS BACK-TILTED SHADOWED WHITE ARROW"⟩,
    ⟨0x1F8AA, "", "LEFTWARDS FRONT-TILTED SHADOWED WHITE ARROW"⟩,
    ⟨0x1F8AB, "", "RIGHTWARDS FRONT-TILTED SHADOWED WHITE ARROW"⟩,
    ⟨0x1F8AC, "WHITE ARROW SHAFT WIDTH ", "ONE,TWO THIRDS"⟩,
    ⟨0x1F8B0, "ARROW POINTING ", "UPWARDS THEN NORTH WEST,RIGHTWARDS THEN CURVING SOUTH WEST"⟩,
    ⟨0x1F900, "CIRCLED CROSS ", "FORMEE WITH FOUR DOTS,FORMEE WITH TWO DOTS,FORMEE"⟩,
    ⟨0x1F903, "LEFT HALF CIRCLE WITH ", "FOUR DOTS,THREE DOTS,TWO DOTS,DOT"⟩,
    ⟨0x1F907, "", "LEFT HALF CIRCLE"⟩,
    ⟨0x1F908, "DOWNWARD FACING ", "HOOK,NOTCHED HOOK,HOOK WITH DOT,NOTCHED HOOK WITH DOT"⟩,
    ⟨0x1F90C, "", "PINCHED FINGERS,WHITE HEART,BROWN HEART,PINCHING HAND"⟩,
    ⟨0x1F910, "", "ZIPPER-MOUTH FACE,MONEY-MOUTH FACE,FACE WITH THERMOMETER,NERD FACE"⟩,
    ⟨0x1F914, "", "THINKING FACE,FACE WITH HEAD-BANDAGE,ROBOT FACE,HUGGING FACE,SIGN OF THE HORNS"⟩,
    ⟨0x1F919, "", "CALL ME HAND,RAISED BACK OF HAND,LEFT-FACING FIST,RIGHT-FACING FIST"⟩,
    ⟨0x1F91D, "", "HANDSHAKE,HAND WITH INDEX AND MIDDLE FINGERS CROSSED,I LOVE YOU HAND SIGN"⟩,
    ⟨0x1F920, "", "FACE WITH COWBOY HAT,CLOWN FACE,NAUSEATED FACE,ROLLING ON THE FLOOR LAUGHING"⟩,
    ⟨0x1F924, "", "DROOLING FACE,LYING FACE,FACE PALM,SNEEZING FACE,FACE WITH ONE EYEBROW RAISED"⟩,
    ⟨0x1F929, "GRINNING FACE WITH ", "STAR EYES,ONE LARGE AND ONE SMALL EYE"⟩,
    ⟨0x1F92B, "", "FACE WITH FINGER COVERING CLOSED LIPS,SERIOUS FACE WITH SYMBOLS COVERING MOUTH"⟩,
    ⟨0x1F92D, "", "SMILING FACE WITH SMILING EYES AND HAND COVERING MOUTH"⟩,
    ⟨0x1F92E, "", "FACE WITH OPEN MOUTH VOMITING,SHOCKED FACE WITH EXPLODING HEAD,PREGNANT WOMAN"⟩,
    ⟨0x1F931, "", "BREAST-FEEDING,PALMS UP TOGETHER,SELFIE,PRINCE,MAN IN TUXEDO,MOTHER CHRISTMAS"⟩,
    ⟨0x1F937, "", "SHRUG,PERSON DOING CARTWHEEL,JUGGLING,FENCER,MODERN PENTATHLON"⟩,
    ⟨0x1F93C, "", "WRESTLERS,WATER POLO,HANDBALL,DIVING MASK,WILTED FLOWER,DRUM WITH DRUMSTICKS"⟩,
    ⟨0x1F942, "", "CLINKING GLASSES,TUMBLER GLASS,SPOON,GOAL NET,RIFLE,FIRST PLACE MEDAL"⟩,
    ⟨0x1F948, "", "SECOND PLACE MEDAL,THIRD PLACE MEDAL,BOXING GLOVE,MARTIAL ARTS UNIFORM"⟩,
    ⟨0x1F94C, "", "CURLING STONE,LACROSSE STICK AND BALL,SOFTBALL,FLYING DISC,CROISSANT,AVOCADO"⟩,
    ⟨0x1F952, "", "CUCUMBER,BACON,POTATO,CARROT,BAGUETTE BREAD,GREEN SALAD,SHALLOW PAN OF FOOD"⟩,
    ⟨0x1F959, "", "STUFFED FLATBREAD,EGG,GLASS OF MILK,PEANUTS,KIWIFRUIT,PANCAKES"⟩,
    ⟨0x1F95F, "", "DUMPLING,FORTUNE COOKIE,TAKEOUT BOX,CHOPSTICKS,BOWL WITH SPOON,CUP WITH STRAW"⟩,
    ⟨0x1F965, "", "COCONUT,BROCCOLI,PIE,PRETZEL,CUT OF MEAT,SANDWICH,CANNED FOOD,LEAFY GREEN"⟩,
    ⟨0x1F96D, "", "MANGO,MOON CAKE,BAGEL,SMILING FACE WITH SMILING EYES AND THREE HEARTS"⟩,
    ⟨0x1F971, "", "YAWNING FACE,SMILING FACE WITH TEAR"⟩,
    ⟨0x1F973, "FACE WITH ", "PARTY HORN AND PARTY HAT,UNEVEN EYES AND WAVY MOUTH"⟩,
    ⟨0x1F975, "", "OVERHEATED FACE,FREEZING FACE,NINJA,DISGUISED FACE,FACE HOLDING BACK TEARS"⟩,
    ⟨0x1F97A, "", "FACE WITH PLEADING EYES,SARI,LAB COAT,GOGGLES,HIKING BOOT"⟩,
    ⟨0x1F97F, "", "FLAT SHOE,CRAB,LION FACE,SCORPION,TURKEY,UNICORN FACE,EAGLE,DUCK,BAT,SHARK,OWL"⟩,
    ⟨0x1F98A, "", "FOX FACE,BUTTERFLY,DEER,GORILLA,LIZARD,RHINOCEROS,SHRIMP,SQUID,GIRAFFE FACE"⟩,
    ⟨0x1F993, "", "ZEBRA FACE,HEDGEHOG,SAUROPOD,T-REX,CRICKET,KANGAROO,LLAMA,PEACOCK,HIPPOPOTAMUS"⟩,
    ⟨0x1F99C, "", "PARROT,RACCOON,LOBSTER,MOSQUITO,MICROBE,BADGER,SWAN,MAMMOTH,DODO,SLOTH"⟩,
    ⟨0x1F9A6, "", "OTTER,ORANGUTAN,SKUNK,FLAMINGO,OYSTER,BEAVER,BISON,SEAL,GUIDE DOG,PROBING CANE"⟩,
    ⟨0x1F9B0, "EMOJI COMPONENT ", "RED HAIR,CURLY HAIR,BALD,WHITE HAIR"⟩,
    ⟨0x1F9B4, "", "BONE,LEG,FOOT,TOOTH,SUPERHERO,SUPERVILLAIN,SAFETY VEST,EAR WITH HEARING AID"⟩,
    ⟨0x1F9BC, "", "MOTORIZED WHEELCHAIR,MANUAL WHEELCHAIR,MECHANICAL ARM,MECHANICAL LEG"⟩,
    ⟨0x1F9C0, "", "CHEESE WEDGE,CUPCAKE,SALT SHAKER,BEVERAGE BOX,GARLIC,ONION,FALAFEL,WAFFLE"⟩,
    ⟨0x1F9C8, "", "BUTTER,MATE DRINK,ICE CUBE,BUBBLE TEA,TROLL,STANDING PERSON,KNEELING PERSON"⟩,
    ⟨0x1F9CF, "", "DEAF PERSON,FACE WITH MONOCLE,ADULT,CHILD,OLDER ADULT,BEARDED PERSON"⟩,
    ⟨0x1F9D5, "PERSON ", "WITH HEADSCARF,IN STEAMY ROOM,CLIMBING,IN LOTUS POSITION"⟩,
    ⟨0x1F9D9, "", "MAGE,FAIRY,VAMPIRE,MERPERSON,ELF,GENIE,ZOMBIE,BRAIN,ORANGE HEART,BILLED CAP"⟩,
    ⟨0x1F9E3, "", "SCARF,GLOVES,COAT,SOCKS,RED GIFT ENVELOPE,FIRECRACKER,JIGSAW PUZZLE PIECE"⟩,
    ⟨0x1F9EA, "", "TEST TUBE,PETRI DISH,DNA DOUBLE HELIX,COMPASS,ABACUS,FIRE EXTINGUISHER,TOOLBOX"⟩,
    ⟨0x1F9F1, "", "BRICK,MAGNET,LUGGAGE,LOTION BOTTLE,SPOOL OF THREAD,BALL OF YARN,SAFETY PIN"⟩,
    ⟨0x1F9F8, "", "TEDDY BEAR,BROOM,BASKET,ROLL OF PAPER,BAR OF SOAP,SPONGE,RECEIPT,NAZAR AMULET"⟩,
    ⟨0x1FA00, "NEUTRAL CHESS ", "KING,QUEEN,ROOK,BISHOP,KNIGHT,PAWN"⟩,
    ⟨0x1FA06, "", "WHITE CHESS KNIGHT ROTATED FORTY-FIVE DEGREES"⟩,
    ⟨0x1FA07, "", "BLACK CHESS KNIGHT ROTATED FORTY-FIVE DEGREES"⟩,
    ⟨0x1FA08, "", "NEUTRAL CHESS KNIGHT ROTATED FORTY-FIVE DEGREES"⟩,
    ⟨0x1FA09, "WHITE CHESS ", "KING ROTATED NINETY DEGREES,QUEEN ROTATED NINETY DEGREES"⟩,
    ⟨0x1FA0B, "WHITE CHESS ", "ROOK ROTATED NINETY DEGREES,BISHOP ROTATED NINETY DEGREES"⟩,
    ⟨0x1FA0D, "WHITE CHESS ", "KNIGHT ROTATED NINETY DEGREES,PAWN ROTATED NINETY DEGREES"⟩,
    ⟨0x1FA0F, "BLACK CHESS ", "KING ROTATED NINETY DEGREES,QUEEN ROTATED NINETY DEGREES"⟩,
    ⟨0x1FA11, "BLACK CHESS ", "ROOK ROTATED NINETY DEGREES,BISHOP ROTATED NINETY DEGREES"⟩,
    ⟨0x1FA13, "BLACK CHESS ", "KNIGHT ROTATED NINETY DEGREES,PAWN ROTATED NINETY DEGREES"⟩,
    ⟨0x1FA15, "NEUTRAL CHESS ", "KING ROTATED NINETY DEGREES,QUEEN ROTATED NINETY DEGREES"⟩,
    ⟨0x1FA17, "NEUTRAL CHESS ", "ROOK ROTATED NINETY DEGREES,BISHOP ROTATED NINETY DEGREES"⟩,
    ⟨0x1FA19, "NEUTRAL CHESS ", "KNIGHT ROTATED NINETY DEGREES,PAWN ROTATED NINETY DEGREES"⟩,
    ⟨0x1FA1B, "", "WHITE CHESS KNIGHT ROTATED ONE HUNDRED THIRTY-FIVE DEGREES"⟩,
    ⟨0x1FA1C, "", "BLACK CHESS KNIGHT ROTATED ONE HUNDRED THIRTY-FIVE DEGREES"⟩,
    ⟨0x1FA1D, "", "NEUTRAL CHESS KNIGHT ROTATED ONE HUNDRED THIRTY-FIVE DEGREES"⟩,
    ⟨0x1FA1E, "WHITE CHESS TURNED ", "KING,QUEEN,ROOK,BISHOP,KNIGHT,PAWN"⟩,
    ⟨0x1FA24, "BLACK CHESS TURNED ", "KING,QUEEN,ROOK,BISHOP,KNIGHT,PAWN"⟩,
    ⟨0x1FA2A, "NEUTRAL CHESS TURNED ", "KING,QUEEN,ROOK,BISHOP,KNIGHT,PAWN"⟩,
    ⟨0x1FA30, "", "WHITE CHESS KNIGHT ROTATED TWO HUNDRED TWENTY-FIVE DEGREES"⟩,
    ⟨0x1FA31, "", "BLACK CHESS KNIGHT ROTATED TWO HUNDRED TWENTY-FIVE DEGREES"⟩,
    ⟨0x1FA32, "", "NEUTRAL CHESS KNIGHT ROTATED TWO HUNDRED TWENTY-FIVE DEGREES"⟩,
    ⟨0x1FA33, "", "WHITE CHESS KING ROTATED TWO HUNDRED SEVENTY DEGREES"⟩,
    ⟨0x1FA34, "", "WHITE CHESS QUEEN ROTATED TWO HUNDRED SEVENTY DEGREES"⟩,
    ⟨0x1FA35, "", "WHITE CHESS ROOK ROTATED TWO HUNDRED SEVENTY DEGREES"⟩,
    ⟨0x1FA36, "", "WHITE CHESS BISHOP ROTATED TWO HUNDRED SEVENTY DEGREES"⟩,
    ⟨0x1FA37, "", "WHITE CHESS KNIGHT ROTATED TWO HUNDRED SEVENTY DEGREES"⟩,
    ⟨0x1FA38, "", "WHITE CHESS PAWN ROTATED TWO HUNDRED SEVENTY DEGREES"⟩,
    ⟨0x1FA39, "", "BLACK CHESS KING ROTATED TWO HUNDRED SEVENTY DEGREES"⟩,
    ⟨0x1FA3A, "", "BLACK CHESS QUEEN ROTATED TWO HUNDRED SEVENTY DEGREES"⟩,
    ⟨0x1FA3B, "", "BLACK CHESS ROOK ROTATED TWO HUNDRED SEVENTY DEGREES"⟩,
    ⟨0x1FA3C, "", "BLACK CHESS BISHOP ROTATED TWO HUNDRED SEVENTY DEGREES"⟩,
    ⟨0x1FA3D, "", "BLACK CHESS KNIGHT ROTATED TWO HUNDRED SEVENTY DEGREES"⟩,
    ⟨0x1FA3E, "", "BLACK CHESS PAWN ROTATED TWO HUNDRED SEVENTY DEGREES"⟩,
    ⟨0x1FA3F, "", "NEUTRAL CHESS KING ROTATED TWO HUNDRED SEVENTY DEGREES"⟩,
    ⟨0x1FA40, "", "NEUTRAL CHESS QUEEN ROTATED TWO HUNDRED SEVENTY DEGREES"⟩,
    ⟨0x1FA41, "", "NEUTRAL CHESS ROOK ROTATED TWO HUNDRED SEVENTY DEGREES"⟩,
    ⟨0x1FA42, "", "NEUTRAL CHESS BISHOP ROTATED TWO HUNDRED SEVENTY DEGREES"⟩,
    ⟨0x1FA43, "", "NEUTRAL CHESS KNIGHT ROTATED TWO HUNDRED SEVENTY DEGREES"⟩,
    ⟨0x1FA44, "", "NEUTRAL CHESS PAWN ROTATED TWO HUNDRED SEVENTY DEGREES"⟩,
    ⟨0x1FA45, "", "WHITE CHESS KNIGHT ROTATED THREE HUNDRED FIFTEEN DEGREES"⟩,
    ⟨0x1FA46, "", "BLACK CHESS KNIGHT ROTATED THREE HUNDRED FIFTEEN DEGREES"⟩,
    ⟨0x1FA47, "", "NEUTRAL CHESS KNIGHT ROTATED THREE HUNDRED FIFTEEN DEGREES"⟩,
    ⟨0x1FA48, "", "WHITE CHESS EQUIHOPPER,BLACK CHESS EQUIHOPPER"⟩,
    ⟨0x1FA4A, "", "NEUTRAL CHESS EQUIHOPPER,WHITE CHESS EQUIHOPPER ROTATED NINETY DEGREES"⟩,
    ⟨0x1FA4C, "", "BLACK CHESS EQUIHOPPER ROTATED NINETY DEGREES"⟩,
    ⟨0x1FA4D, "", "NEUTRAL CHESS EQUIHOPPER ROTATED NINETY DEGREES"⟩,
    ⟨0x1FA4E, "WHITE CHESS KNIGHT-", "QUEEN,ROOK,BISHOP"⟩,
    ⟨0x1FA51, "BLACK CHESS KNIGHT-", "QUEEN,ROOK,BISHOP"⟩,
    ⟨0x1FA60, "XIANGQI RED ", "GENERAL,MANDARIN,ELEPHANT,HORSE,CHARIOT,CANNON,SOLDIER"⟩,
    ⟨0x1FA67, "XIANGQI BLACK ", "GENERAL,MANDARIN,ELEPHANT,HORSE,CHARIOT,CANNON,SOLDIER"⟩,
    ⟨0x1FA70, "", "BALLET SHOES,ONE-PIECE SWIMSUIT,BRIEFS,SHORTS,THONG SANDAL"⟩,
    ⟨0x1FA78, "", "DROP OF BLOOD,ADHESIVE BANDAGE,STETHOSCOPE,X-RAY,CRUTCH"⟩,
    ⟨0x1FA80, "", "YO-YO,KITE,PARACHUTE,BOOMERANG,MAGIC WAND,PINATA,NESTING DOLLS"⟩,
    ⟨0x1FA90, "", "RINGED PLANET,CHAIR,RAZOR,AXE,DIYA LAMP,BANJO"⟩,
    ⟨0x1FA96, "", "MILITARY HELMET,ACCORDION,LONG DRUM,COIN,CARPENTRY SAW,SCREWDRIVER,LADDER"⟩,
    ⟨0x1FA9D, "", "HOOK,MIRROR,WINDOW,PLUNGER,SEWING NEEDLE,KNOT,BUCKET,MOUSE TRAP,TOOTHBRUSH"⟩,
    ⟨0x1FAA6, "", "HEADSTONE,PLACARD,ROCK,MIRROR BALL,IDENTIFICATION CARD,LOW BATTERY,HAMSA"⟩,
    ⟨0x1FAB0, "", "FLY,WORM,BEETLE"⟩,
    ⟨0x1FAB3, "", "COCKROACH,POTTED PLANT,WOOD,FEATHER,LOTUS,CORAL,EMPTY NEST,NEST WITH EGGS"⟩,
    ⟨0x1FAC0, "", "ANATOMICAL HEART"⟩,
    ⟨0x1FAC1, "", "LUNGS,PEOPLE HUGGING,PREGNANT MAN,PREGNANT PERSON,PERSON WITH CROWN"⟩,
    ⟨0x1FAD0, "", "BLUEBERRIES"⟩,
    ⟨0x1FAD1, "", "BELL PEPPER,OLIVE,FLATBREAD,TAMALE,FONDUE,TEAPOT,POURING LIQUID,BEANS,JAR"⟩,
    ⟨0x1FAE0, "", "MELTING FACE,SALUTING FACE"⟩,
    ⟨0x1FAE2, "FACE WITH ", "OPEN EYES AND HAND OVER MOUTH,PEEKING EYE,DIAGONAL MOUTH"⟩,
    ⟨0x1FAE5, "", "DOTTED LINE FACE,BITING LIP,BUBBLES"⟩,
    ⟨0x1FAF0, "", "HAND WITH INDEX FINGER AND THUMB CROSSED,RIGHTWARDS HAND,LEFTWARDS HAND"⟩,
    ⟨0x1FAF3, "", "PALM DOWN HAND,PALM UP HAND,INDEX POINTING AT THE VIEWER,HEART HANDS"⟩,
    ⟨0x1FB00, "BLOCK SEXTANT-", "1,2,12,3,13,23,123,4,14,24,124,34,134,234,1234,5,15"⟩,
    ⟨0x1FB11, "BLOCK SEXTANT-", "25,125,35,235,1235,45,145,245,1245,345,1345,2345,12345,6,16,26"⟩,
    ⟨0x1FB21, "BLOCK SEXTANT-", "126,36,136,236,1236,46,146,1246,346,1346,2346,12346,56,156,256"⟩,
    ⟨0x1FB30, "BLOCK SEXTANT-", "1256,356,1356,2356,12356,456,1456,2456,12456,3456,13456,23456"⟩,
    ⟨0x1FB3C, "LOWER LEFT BLOCK DIAGONAL LOWER MIDDLE LEFT TO LOWER ", "CENTRE,RIGHT"⟩,
    ⟨0x1FB3E, "LOWER LEFT BLOCK DIAGONAL UPPER MIDDLE LEFT TO LOWER ", "CENTRE,RIGHT"⟩,
    ⟨0x1FB40, "", "LOWER LEFT BLOCK DIAGONAL UPPER LEFT TO LOWER CENTRE"⟩,
    ⟨0x1FB41, "LOWER RIGHT BLOCK DIAGONAL UPPER MIDDLE LEFT TO UPPER ", "CENTRE,RIGHT"⟩,
    ⟨0x1FB43, "LOWER RIGHT BLOCK DIAGONAL LOWER MIDDLE LEFT TO UPPER ", "CENTRE,RIGHT"⟩,
    ⟨0x1FB45, "", "LOWER RIGHT BLOCK DIAGONAL LOWER LEFT TO UPPER CENTRE"⟩,
    ⟨0x1FB46, "", "LOWER RIGHT BLOCK DIAGONAL LOWER MIDDLE LEFT TO UPPER MIDDLE RIGHT"⟩,
    ⟨0x1FB47, "", "LOWER RIGHT BLOCK DIAGONAL LOWER CENTRE TO LOWER MIDDLE RIGHT"⟩,
    ⟨0x1FB48, "", "LOWER RIGHT BLOCK DIAGONAL LOWER LEFT TO LOWER MIDDLE RIGHT"⟩,
    ⟨0x1FB49, "", "LOWER RIGHT BLOCK DIAGONAL LOWER CENTRE TO UPPER MIDDLE RIGHT"⟩,
    ⟨0x1FB4A, "", "LOWER RIGHT BLOCK DIAGONAL LOWER LEFT TO UPPER MIDDLE RIGHT"⟩,
    ⟨0x1FB4B, "", "LOWER RIGHT BLOCK DIAGONAL LOWER CENTRE TO UPPER RIGHT"⟩,
    ⟨0x1FB4C, "", "LOWER LEFT BLOCK DIAGONAL UPPER CENTRE TO UPPER MIDDLE RIGHT"⟩,
    ⟨0x1FB4D, "", "LOWER LEFT BLOCK DIAGONAL UPPER LEFT TO UPPER MIDDLE RIGHT"⟩,
    ⟨0x1FB4E, "", "LOWER LEFT BLOCK DIAGONAL UPPER CENTRE TO LOWER MIDDLE RIGHT"⟩,
    ⟨0x1FB4F, "", "LOWER LEFT BLOCK DIAGONAL UPPER LEFT TO LOWER MIDDLE RIGHT"⟩,
    ⟨0x1FB50, "", "LOWER LEFT BLOCK DIAGONAL UPPER CENTRE TO LOWER RIGHT"⟩,
    ⟨0x1FB51, "", "LOWER LEFT BLOCK DIAGONAL UPPER MIDDLE LEFT TO LOWER MIDDLE RIGHT"⟩,
    ⟨0x1FB52, "UPPER RIGHT BLOCK DIAGONAL LOWER MIDDLE LEFT TO LOWER ", "CENTRE,RIGHT"⟩,
    ⟨0x1FB54, "UPPER RIGHT BLOCK DIAGONAL UPPER MIDDLE LEFT TO LOWER ", "CENTRE,RIGHT"⟩,
    ⟨0x1FB56, "", "UPPER RIGHT BLOCK DIAGONAL UPPER LEFT TO LOWER CENTRE"⟩,
    ⟨0x1FB57, "UPPER LEFT BLOCK DIAGONAL UPPER MIDDLE LEFT TO UPPER ", "CENTRE,RIGHT"⟩,
    ⟨0x1FB59, "UPPER LEFT BLOCK DIAGONAL LOWER MIDDLE LEFT TO UPPER ", "CENTRE,RIGHT"⟩,
    ⟨0x1FB5B, "", "UPPER LEFT BLOCK DIAGONAL LOWER LEFT TO UPPER CENTRE"⟩,
    ⟨0x1FB5C, "", "UPPER LEFT BLOCK DIAGONAL LOWER MIDDLE LEFT TO UPPER MIDDLE RIGHT"⟩,
    ⟨0x1FB5D, "", "UPPER LEFT BLOCK DIAGONAL LOWER CENTRE TO LOWER MIDDLE RIGHT"⟩,
    ⟨0x1FB5E, "", "UPPER LEFT BLOCK DIAGONAL LOWER LEFT TO LOWER MIDDLE RIGHT"⟩,
    ⟨0x1FB5F, "", "UPPER LEFT BLOCK DIAGONAL LOWER CENTRE TO UPPER MIDDLE RIGHT"⟩,
    ⟨0x1FB60, "", "UPPER LEFT BLOCK DIAGONAL LOWER LEFT TO UPPER MIDDLE RIGHT"⟩,
    ⟨0x1FB61, "", "UPPER LEFT BLOCK DIAGONAL LOWER CENTRE TO UPPER RIGHT"⟩,
    ⟨0x1FB62, "", "UPPER RIGHT BLOCK DIAGONAL UPPER CENTRE TO UPPER MIDDLE RIGHT"⟩,
    ⟨0x1FB63, "", "UPPER RIGHT BLOCK DIAGONAL UPPER LEFT TO UPPER MIDDLE RIGHT"⟩,
    ⟨0x1FB64, "", "UPPER RIGHT BLOCK DIAGONAL UPPER CENTRE TO LOWER MIDDLE RIGHT"⟩,
    ⟨0x1FB65, "", "UPPER RIGHT BLOCK DIAGONAL UPPER LEFT TO LOWER MIDDLE RIGHT"⟩,
    ⟨0x1FB66, "", "UPPER RIGHT BLOCK DIAGONAL UPPER CENTRE TO LOWER RIGHT"⟩,
    ⟨0x1FB67, "", "UPPER RIGHT BLOCK DIAGONAL UPPER MIDDLE LEFT TO LOWER MIDDLE RIGHT"⟩,
    ⟨0x1FB68, "", "UPPER AND RIGHT AND LOWER TRIANGULAR THREE QUARTERS BLOCK"⟩,
    ⟨0x1FB69, "", "LEFT AND LOWER AND RIGHT TRIANGULAR THREE QUARTERS BLOCK"⟩,
    ⟨0x1FB6A, "", "UPPER AND LEFT AND LOWER TRIANGULAR THREE QUARTERS BLOCK"⟩,
    ⟨0x1FB6B, "", "LEFT AND UPPER AND RIGHT TRIANGULAR THREE QUARTERS BLOCK"⟩,
    ⟨0x1FB6C, "", "LEFT TRIANGULAR ONE QUARTER BLOCK,UPPER TRIANGULAR ONE QUARTER BLOCK"⟩,
    ⟨0x1FB6E, "", "RIGHT TRIANGULAR ONE QUARTER BLOCK,LOWER TRIANGULAR ONE QUARTER BLOCK"⟩,
    ⟨0x1FB70, "VERTICAL ONE EIGHTH BLOCK-", "2,3,4,5,6,7"⟩,
    ⟨0x1FB76, "HORIZONTAL ONE EIGHTH BLOCK-", "2,3,4,5,6,7"⟩,
    ⟨0x1FB7C, "LEFT AND ", "LOWER ONE EIGHTH BLOCK,UPPER ONE EIGHTH BLOCK"⟩,
    ⟨0x1FB7E, "RIGHT AND ", "UPPER ONE EIGHTH BLOCK,LOWER ONE EIGHTH BLOCK"⟩,
    ⟨0x1FB80, "", "UPPER AND LOWER ONE EIGHTH BLOCK,HORIZONTAL ONE EIGHTH BLOCK-1358"⟩,
    ⟨0x1FB82, "UPPER ", "ONE QUARTER BLOCK,THREE EIGHTHS BLOCK"⟩,
    ⟨0x1FB84, "UPPER ", "FIVE EIGHTHS BLOCK,THREE QUARTERS BLOCK,SEVEN EIGHTHS BLOCK"⟩,
    ⟨0x1FB87, "RIGHT ", "ONE QUARTER BLOCK,THREE EIGHTHS BLOCK,FIVE EIGHTHS BLOCK"⟩,
    ⟨0x1FB8A, "", "RIGHT THREE QUARTERS BLOCK,RIGHT SEVEN EIGHTHS BLOCK,LEFT HALF MEDIUM SHADE"⟩,
    ⟨0x1FB8D, "", "RIGHT HALF MEDIUM SHADE,UPPER HALF MEDIUM SHADE,LOWER HALF MEDIUM SHADE"⟩,
    ⟨0x1FB90, "", "INVERSE MEDIUM SHADE,UPPER HALF BLOCK AND LOWER HALF INVERSE MEDIUM SHADE"⟩,
    ⟨0x1FB92, "", "UPPER HALF INVERSE MEDIUM SHADE AND LOWER HALF BLOCK"⟩,
    ⟨0x1FB94, "", "LEFT HALF INVERSE MEDIUM SHADE AND RIGHT HALF BLOCK"⟩,
    ⟨0x1FB95, "", "CHECKER BOARD FILL,INVERSE CHECKER BOARD FILL,HEAVY HORIZONTAL FILL"⟩,
    ⟨0x1FB98, "UPPER ", "LEFT TO LOWER RIGHT FILL,RIGHT TO LOWER LEFT FILL"⟩,
    ⟨0x1FB9A, "", "UPPER AND LOWER TRIANGULAR HALF BLOCK,LEFT AND RIGHT TRIANGULAR HALF BLOCK"⟩,
    ⟨0x1FB9C, "UPPER ", "LEFT TRIANGULAR MEDIUM SHADE,RIGHT TRIANGULAR MEDIUM SHADE"⟩,
    ⟨0x1FB9E, "LOWER ", "RIGHT TRIANGULAR MEDIUM SHADE,LEFT TRIANGULAR MEDIUM SHADE"⟩,
    ⟨0x1FBA0, "BOX DRAWINGS LIGHT DIAGONAL UPPER CENTRE TO MIDDLE ", "LEFT,RIGHT"⟩,
    ⟨0x1FBA2, "BOX DRAWINGS LIGHT DIAGONAL MIDDLE ", "LEFT TO LOWER CENTRE,RIGHT TO LOWER CENTRE"⟩,
    ⟨0x1FBA4, "", "BOX DRAWINGS LIGHT DIAGONAL UPPER CENTRE TO MIDDLE LEFT TO LOWER CENTRE"⟩,
    ⟨0x1FBA5, "", "BOX DRAWINGS LIGHT DIAGONAL UPPER CENTRE TO MIDDLE RIGHT TO LOWER CENTRE"⟩,
    ⟨0x1FBA6, "", "BOX DRAWINGS LIGHT DIAGONAL MIDDLE LEFT TO LOWER CENTRE TO MIDDLE RIGHT"⟩,
    ⟨0x1FBA7, "", "BOX DRAWINGS LIGHT DIAGONAL MIDDLE LEFT TO UPPER CENTRE TO MIDDLE RIGHT"⟩,
    ⟨0x1FBA8, "",
      "BOX DRAWINGS LIGHT DIAGONAL UPPER CENTRE TO MIDDLE LEFT AND MIDDLE RIGHT TO LOWER CENTRE"⟩,
    ⟨0x1FBA9, "",
      "BOX DRAWINGS LIGHT DIAGONAL UPPER CENTRE TO MIDDLE RIGHT AND MIDDLE LEFT TO LOWER CENTRE"⟩,
    ⟨0x1FBAA, "",
      "BOX DRAWINGS LIGHT DIAGONAL UPPER CENTRE TO MIDDLE RIGHT TO LOWER CENTRE TO MIDDLE LEFT"⟩,
    ⟨0x1FBAB, "",
      "BOX DRAWINGS LIGHT DIAGONAL UPPER CENTRE TO MIDDLE LEFT TO LOWER CENTRE TO MIDDLE RIGHT"⟩,
    ⟨0x1FBAC, "",
      "BOX DRAWINGS LIGHT DIAGONAL MIDDLE LEFT TO UPPER CENTRE TO MIDDLE RIGHT TO LOWER CENTRE"⟩,
    ⟨0x1FBAD, "",
      "BOX DRAWINGS LIGHT DIAGONAL MIDDLE RIGHT TO UPPER CENTRE TO MIDDLE LEFT TO LOWER CENTRE"⟩,
    ⟨0x1FBAE, "BOX DRAWINGS LIGHT ", "DIAGONAL DIAMOND,HORIZONTAL WITH VERTICAL STROKE"⟩,
    ⟨0x1FBB0, "", "ARROWHEAD-SHAPED POINTER,INVERSE CHECK MARK,LEFT HALF RUNNING MAN"⟩,
    ⟨0x1FBB3, "", "RIGHT HALF RUNNING MAN,INVERSE DOWNWARDS ARROW WITH TIP LEFTWARDS"⟩,
    ⟨0x1FBB5, "", "LEFTWARDS ARROW AND UPPER AND LOWER ONE EIGHTH BLOCK"⟩,
    ⟨0x1FBB6, "", "RIGHTWARDS ARROW AND UPPER AND LOWER ONE EIGHTH BLOCK"⟩,
    ⟨0x1FBB7, "", "DOWNWARDS ARROW AND RIGHT ONE EIGHTH BLOCK"⟩,
    ⟨0x1FBB8, "", "UPWARDS ARROW AND RIGHT ONE EIGHTH BLOCK"⟩,
    ⟨0x1FBB9, "", "LEFT HALF FOLDER,RIGHT HALF FOLDER,VOIDED GREEK CROSS,RIGHT OPEN SQUARED DOT"⟩,
    ⟨0x1FBBD, "NEGATIVE DIAGONAL ", "CROSS,MIDDLE RIGHT TO LOWER CENTRE,DIAMOND"⟩,
    ⟨0x1FBC0, "", "WHITE HEAVY SALTIRE WITH ROUNDED CORNERS,LEFT THIRD WHITE RIGHT POINTING INDEX"⟩,
    ⟨0x1FBC2, "", "MIDDLE THIRD WHITE RIGHT POINTING INDEX,RIGHT THIRD WHITE RIGHT POINTING INDEX"⟩,
    ⟨0x1FBC4, "", "NEGATIVE SQUARED QUESTION MARK,STICK FIGURE"⟩,
    ⟨0x1FBC6, "STICK FIGURE ", "WITH ARMS RAISED,LEANING LEFT,LEANING RIGHT,WITH DRESS"⟩,
    ⟨0x1FBCA, "", "WHITE UP-POINTING CHEVRON"⟩,
    ⟨0x1FBF0, "SEGMENTED DIGIT ", "ZERO,ONE,TWO,THREE,FOUR,FIVE,SIX,SEVEN,EIGHT,NINE"⟩,
    ⟨0x2F800, "CJK COMPATIBILITY IDEOGRAPH-", "2F800,2F801,2F802,2F803,2F804,2F805"⟩,
    ⟨0x2F806, "CJK COMPATIBILITY IDEOGRAPH-", "2F806,2F807,2F808,2F809,2F80A,2F80B,2F80C,2F80D"⟩,
    ⟨0x2F80E, "CJK COMPATIBILITY IDEOGRAPH-", "2F80E,2F80F,2F810,2F811,2F812,2F813,2F814,2F815"⟩,
    ⟨0x2F816, "CJK COMPATIBILITY IDEOGRAPH-", "2F816,2F817,2F818,2F819,2F81A,2F81B,2F81C,2F81D"⟩,
    ⟨0x2F81E, "CJK COMPATIBILITY IDEOGRAPH-", "2F81E,2F81F,2F820,2F821,2F822,2F823,2F824,2F825"⟩,
    ⟨0x2F826, "CJK COMPATIBILITY IDEOGRAPH-", "2F826,2F827,2F828,2F829,2F82A,2F82B,2F82C,2F82D"⟩,
    ⟨0x2F82E, "CJK COMPATIBILITY IDEOGRAPH-", "2F82E,2F82F,2F830,2F831,2F832,2F833,2F834,2F835"⟩,
    ⟨0x2F836, "CJK COMPATIBILITY IDEOGRAPH-", "2F836,2F837,2F838,2F839,2F83A,2F83B,2F83C,2F83D"⟩,
    ⟨0x2F83E, "CJK COMPATIBILITY IDEOGRAPH-", "2F83E,2F83F,2F840,2F841,2F842,2F843,2F844,2F845"⟩,
    ⟨0x2F846, "CJK COMPATIBILITY IDEOGRAPH-", "2F846,2F847,2F848,2F849,2F84A,2F84B,2F84C,2F84D"⟩,
    ⟨0x2F84E, "CJK COMPATIBILITY IDEOGRAPH-", "2F84E,2F84F,2F850,2F851,2F852,2F853,2F854,2F855"⟩,
    ⟨0x2F856, "CJK COMPATIBILITY IDEOGRAPH-", "2F856,2F857,2F858,2F859,2F85A,2F85B,2F85C,2F85D"⟩,
    ⟨0x2F85E, "CJK COMPATIBILITY IDEOGRAPH-", "2F85E,2F85F,2F860,2F861,2F862,2F863,2F864,2F865"⟩,
    ⟨0x2F866, "CJK COMPATIBILITY IDEOGRAPH-", "2F866,2F867,2F868,2F869,2F86A,2F86B,2F86C,2F86D"⟩,
    ⟨0x2F86E, "CJK COMPATIBILITY IDEOGRAPH-", "2F86E,2F86F,2F870,2F871,2F872,2F873,2F874,2F875"⟩,
    ⟨0x2F876, "CJK COMPATIBILITY IDEOGRAPH-", "2F876,2F877,2F878,2F879,2F87A,2F87B,2F87C,2F87D"⟩,
    ⟨0x2F87E, "CJK COMPATIBILITY IDEOGRAPH-", "2F87E,2F87F,2F880,2F881,2F882,2F883,2F884,2F885"⟩,
    ⟨0x2F886, "CJK COMPATIBILITY IDEOGRAPH-", "2F886,2F887,2F888,2F889,2F88A,2F88B,2F88C,2F88D"⟩,
    ⟨0x2F88E, "CJK COMPATIBILITY IDEOGRAPH-", "2F88E,2F88F,2F890,2F891,2F892,2F893,2F894,2F895"⟩,
    ⟨0x2F896, "CJK COMPATIBILITY IDEOGRAPH-", "2F896,2F897,2F898,2F899,2F89A,2F89B,2F89C,2F89D"⟩,
    ⟨0x2F89E, "CJK COMPATIBILITY IDEOGRAPH-", "2F89E,2F89F,2F8A0,2F8A1,2F8A2,2F8A3,2F8A4,2F8A5"⟩,
    ⟨0x2F8A6, "CJK COMPATIBILITY IDEOGRAPH-", "2F8A6,2F8A7,2F8A8,2F8A9,2F8AA,2F8AB,2F8AC,2F8AD"⟩,
    ⟨0x2F8AE, "CJK COMPATIBILITY IDEOGRAPH-", "2F8AE,2F8AF,2F8B0,2F8B1,2F8B2,2F8B3,2F8B4,2F8B5"⟩,
    ⟨0x2F8B6, "CJK COMPATIBILITY IDEOGRAPH-", "2F8B6,2F8B7,2F8B8,2F8B9,2F8BA,2F8BB,2F8BC,2F8BD"⟩,
    ⟨0x2F8BE, "CJK COMPATIBILITY IDEOGRAPH-", "2F8BE,2F8BF,2F8C0,2F8C1,2F8C2,2F8C3,2F8C4,2F8C5"⟩,
    ⟨0x2F8C6, "CJK COMPATIBILITY IDEOGRAPH-", "2F8C6,2F8C7,2F8C8,2F8C9,2F8CA,2F8CB,2F8CC,2F8CD"⟩,
    ⟨0x2F8CE, "CJK COMPATIBILITY IDEOGRAPH-", "2F8CE,2F8CF,2F8D0,2F8D1,2F8D2,2F8D3,2F8D4,2F8D5"⟩,
    ⟨0x2F8D6, "CJK COMPATIBILITY IDEOGRAPH-", "2F8D6,2F8D7,2F8D8,2F8D9,2F8DA,2F8DB,2F8DC,2F8DD"⟩,
    ⟨0x2F8DE, "CJK COMPATIBILITY IDEOGRAPH-", "2F8DE,2F8DF,2F8E0,2F8E1,2F8E2,2F8E3,2F8E4,2F8E5"⟩,
    ⟨0x2F8E6, "CJK COMPATIBILITY IDEOGRAPH-", "2F8E6,2F8E7,2F8E8,2F8E9,2F8EA,2F8EB,2F8EC,2F8ED"⟩,
    ⟨0x2F8EE, "CJK COMPATIBILITY IDEOGRAPH-", "2F8EE,2F8EF,2F8F0,2F8F1,2F8F2,2F8F3,2F8F4,2F8F5"⟩,
    ⟨0x2F8F6, "CJK COMPATIBILITY IDEOGRAPH-", "2F8F6,2F8F7,2F8F8,2F8F9,2F8FA,2F8FB,2F8FC,2F8FD"⟩,
    ⟨0x2F8FE, "CJK COMPATIBILITY IDEOGRAPH-", "2F8FE,2F8FF,2F900,2F901,2F902,2F903,2F904,2F905"⟩,
    ⟨0x2F906, "CJK COMPATIBILITY IDEOGRAPH-", "2F906,2F907,2F908,2F909,2F90A,2F90B,2F90C,2F90D"⟩,
    ⟨0x2F90E, "CJK COMPATIBILITY IDEOGRAPH-", "2F90E,2F90F,2F910,2F911,2F912,2F913,2F914,2F915"⟩,
    ⟨0x2F916, "CJK COMPATIBILITY IDEOGRAPH-", "2F916,2F917,2F918,2F919,2F91A,2F91B,2F91C,2F91D"⟩,
    ⟨0x2F91E, "CJK COMPATIBILITY IDEOGRAPH-", "2F91E,2F91F,2F920,2F921,2F922,2F923,2F924,2F925"⟩,
    ⟨0x2F926, "CJK COMPATIBILITY IDEOGRAPH-", "2F926,2F927,2F928,2F929,2F92A,2F92B,2F92C,2F92D"⟩,
    ⟨0x2F92E, "CJK COMPATIBILITY IDEOGRAPH-", "2F92E,2F92F,2F930,2F931,2F932,2F933,2F934,2F935"⟩,
    ⟨0x2F936, "CJK COMPATIBILITY IDEOGRAPH-", "2F936,2F937,2F938,2F939,2F93A,2F93B,2F93C,2F93D"⟩,
    ⟨0x2F93E, "CJK COMPATIBILITY IDEOGRAPH-", "2F93E,2F93F,2F940,2F941,2F942,2F943,2F944,2F945"⟩,
    ⟨0x2F946, "CJK COMPATIBILITY IDEOGRAPH-", "2F946,2F947,2F948,2F949,2F94A,2F94B,2F94C,2F94D"⟩,
    ⟨0x2F94E, "CJK COMPATIBILITY IDEOGRAPH-", "2F94E,2F94F,2F950,2F951,2F952,2F953,2F954,2F955"⟩,
    ⟨0x2F956, "CJK COMPATIBILITY IDEOGRAPH-", "2F956,2F957,2F958,2F959,2F95A,2F95B,2F95C,2F95D"⟩,
    ⟨0x2F95E, "CJK COMPATIBILITY IDEOGRAPH-", "2F95E,2F95F,2F960,2F961,2F962,2F963,2F964,2F965"⟩,
    ⟨0x2F966, "CJK COMPATIBILITY IDEOGRAPH-", "2F966,2F967,2F968,2F969,2F96A,2F96B,2F96C,2F96D"⟩,
    ⟨0x2F96E, "CJK COMPATIBILITY IDEOGRAPH-", "2F96E,2F96F,2F970,2F971,2F972,2F973,2F974,2F975"⟩,
    ⟨0x2F976, "CJK COMPATIBILITY IDEOGRAPH-", "2F976,2F977,2F978,2F979,2F97A,2F97B,2F97C,2F97D"⟩,
    ⟨0x2F97E, "CJK COMPATIBILITY IDEOGRAPH-", "2F97E,2F97F,2F980,2F981,2F982,2F983,2F984,2F985"⟩,
    ⟨0x2F986, "CJK COMPATIBILITY IDEOGRAPH-", "2F986,2F987,2F988,2F989,2F98A,2F98B,2F98C,2F98D"⟩,
    ⟨0x2F98E, "CJK COMPATIBILITY IDEOGRAPH-", "2F98E,2F98F,2F990,2F991,2F992,2F993,2F994,2F995"⟩,
    ⟨0x2F996, "CJK COMPATIBILITY IDEOGRAPH-", "2F996,2F997,2F998,2F999,2F99A,2F99B,2F99C,2F99D"⟩,
    ⟨0x2F99E, "CJK COMPATIBILITY IDEOGRAPH-", "2F99E,2F99F,2F9A0,2F9A1,2F9A2,2F9A3,2F9A4,2F9A5"⟩,
    ⟨0x2F9A6, "CJK COMPATIBILITY IDEOGRAPH-", "2F9A6,2F9A7,2F9A8,2F9A9,2F9AA,2F9AB,2F9AC,2F9AD"⟩,
    ⟨0x2F9AE, "CJK COMPATIBILITY IDEOGRAPH-", "2F9AE,2F9AF,2F9B0,2F9B1,2F9B2,2F9B3,2F9B4,2F9B5"⟩,
    ⟨0x2F9B6, "CJK COMPATIBILITY IDEOGRAPH-", "2F9B6,2F9B7,2F9B8,2F9B9,2F9BA,2F9BB,2F9BC,2F9BD"⟩,
    ⟨0x2F9BE, "CJK COMPATIBILITY IDEOGRAPH-", "2F9BE,2F9BF,2F9C0,2F9C1,2F9C2,2F9C3,2F9C4,2F9C5"⟩,
    ⟨0x2F9C6, "CJK COMPATIBILITY IDEOGRAPH-", "2F9C6,2F9C7,2F9C8,2F9C9,2F9CA,2F9CB,2F9CC,2F9CD"⟩,
    ⟨0x2F9CE, "CJK COMPATIBILITY IDEOGRAPH-", "2F9CE,2F9CF,2F9D0,2F9D1,2F9D2,2F9D3,2F9D4,2F9D5"⟩,
    ⟨0x2F9D6, "CJK COMPATIBILITY IDEOGRAPH-", "2F9D6,2F9D7,2F9D8,2F9D9,2F9DA,2F9DB,2F9DC,2F9DD"⟩,
    ⟨0x2F9DE, "CJK COMPATIBILITY IDEOGRAPH-", "2F9DE,2F9DF,2F9E0,2F9E1,2F9E2,2F9E3,2F9E4,2F9E5"⟩,
    ⟨0x2F9E6, "CJK COMPATIBILITY IDEOGRAPH-", "2F9E6,2F9E7,2F9E8,2F9E9,2F9EA,2F9EB,2F9EC,2F9ED"⟩,
    ⟨0x2F9EE, "CJK COMPATIBILITY IDEOGRAPH-", "2F9EE,2F9EF,2F9F0,2F9F1,2F9F2,2F9F3,2F9F4,2F9F5"⟩,
    ⟨0x2F9F6, "CJK COMPATIBILITY IDEOGRAPH-", "2F9F6,2F9F7,2F9F8,2F9F9,2F9FA,2F9FB,2F9FC,2F9FD"⟩,
    ⟨0x2F9FE, "CJK COMPATIBILITY IDEOGRAPH-", "2F9FE,2F9FF,2FA00,2FA01,2FA02,2FA03,2FA04,2FA05"⟩,
    ⟨0x2FA06, "CJK COMPATIBILITY IDEOGRAPH-", "2FA06,2FA07,2FA08,2FA09,2FA0A,2FA0B,2FA0C,2FA0D"⟩,
    ⟨0x2FA0E, "CJK COMPATIBILITY IDEOGRAPH-", "2FA0E,2FA0F,2FA10,2FA11,2FA12,2FA13,2FA14,2FA15"⟩,
    ⟨0x2FA16, "CJK COMPATIBILITY IDEOGRAPH-", "2FA16,2FA17,2FA18,2FA19,2FA1A,2FA1B,2FA1C,2FA1D"⟩,
    ⟨0xE0001, "", "LANGUAGE TAG"⟩,
    ⟨0xE0020, "TAG ", "SPACE,EXCLAMATION MARK,QUOTATION MARK"⟩,
    ⟨0xE0023, "TAG ", "NUMBER SIGN,DOLLAR SIGN,PERCENT SIGN,AMPERSAND,APOSTROPHE,LEFT PARENTHESIS"⟩,
    ⟨0xE0029, "TAG ", "RIGHT PARENTHESIS,ASTERISK,PLUS SIGN,COMMA,HYPHEN-MINUS,FULL STOP,SOLIDUS"⟩,
    ⟨0xE0030, "TAG DIGIT ", "ZERO,ONE,TWO,THREE,FOUR,FIVE,SIX,SEVEN,EIGHT,NINE"⟩,
    ⟨0xE003A, "TAG ", "COLON,SEMICOLON"⟩,
    ⟨0xE003C, "TAG ", "LESS-THAN SIGN,EQUALS SIGN,GREATER-THAN SIGN,QUESTION MARK,COMMERCIAL AT"⟩,
    ⟨0xE0041, "TAG LATIN CAPITAL LETTER ", "A,B,C,D,E,F,G,H,I,J,K,L,M,N,O,P,Q,R,S,T,U,V,W,X,Y,Z"⟩,
    ⟨0xE005B, "TAG ", "LEFT SQUARE BRACKET,REVERSE SOLIDUS"⟩,
    ⟨0xE005D, "TAG ", "RIGHT SQUARE BRACKET,CIRCUMFLEX ACCENT,LOW LINE,GRAVE ACCENT"⟩,
    ⟨0xE0061, "TAG LATIN SMALL LETTER ", "A,B,C,D,E,F,G,H,I,J,K,L,M,N,O,P,Q,R,S,T,U,V,W,X,Y,Z"⟩,
    ⟨0xE007B, "TAG ", "LEFT CURLY BRACKET,VERTICAL LINE,RIGHT CURLY BRACKET,TILDE"⟩,
    ⟨0xE007F, "", "CANCEL TAG"⟩,
    ⟨0xE0100, "VARIATION SELECTOR-", "17,18,19,20,21,22,23,24,25,26,27,28,29"⟩,
    ⟨0xE010D, "VARIATION SELECTOR-", "30,31,32,33,34,35,36,37,38,39,40,41,42,43,44,45,46,47,48,49"⟩,
    ⟨0xE0121, "VARIATION SELECTOR-", "50,51,52,53,54,55,56,57,58,59,60,61,62,63,64,65,66,67,68,69"⟩,
    ⟨0xE0135, "VARIATION SELECTOR-", "70,71,72,73,74,75,76,77,78,79,80,81,82,83,84,85,86,87,88,89"⟩,
    ⟨0xE0149, "VARIATION SELECTOR-", "90,91,92,93,94,95,96,97,98,99,100,101,102,103,104,105,106"⟩,
    ⟨0xE015A, "VARIATION SELECTOR-", "107,108,109,110,111,112,113,114,115,116,117,118,119,120,121"⟩,
    ⟨0xE0169, "VARIATION SELECTOR-", "122,123,124,125,126,127,128,129,130,131,132,133,134,135,136"⟩,
    ⟨0xE0178, "VARIATION SELECTOR-", "137,138,139,140,141,142,143,144,145,146,147,148,149,150,151"⟩,
    ⟨0xE0187, "VARIATION SELECTOR-", "152,153,154,155,156,157,158,159,160,161,162,163,164,165,166"⟩,
    ⟨0xE0196, "VARIATION SELECTOR-", "167,168,169,170,171,172,173,174,175,176,177,178,179,180,181"⟩,
    ⟨0xE01A5, "VARIATION SELECTOR-", "182,183,184,185,186,187,188,189,190,191,192,193,194,195,196"⟩,
    ⟨0xE01B4, "VARIATION SELECTOR-", "197,198,199,200,201,202,203,204,205,206,207,208,209,210,211"⟩,
    ⟨0xE01C3, "VARIATION SELECTOR-", "212,213,214,215,216,217,218,219,220,221,222,223,224,225,226"⟩,
    ⟨0xE01D2, "VARIATION SELECTOR-", "227,228,229,230,231,232,233,234,235,236,237,238,239,240,241"⟩,
    ⟨0xE01E1, "VARIATION SELECTOR-", "242,243,244,245,246,247,248,249,250,251,252,253,254,255,256"⟩
  ]

end MemoryAtlas.Text.Name
