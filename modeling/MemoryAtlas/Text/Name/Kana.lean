import MemoryAtlas.Text.Characters

/-!
Names of characters from U+3000 to U+ABFF: kana, enclosed letters, Yi, Vai and further scripts.
-/

namespace MemoryAtlas.Text.Name

def kana : List Block :=
  [
    ⟨0x3000, "IDEOGRAPHIC ", "SPACE,COMMA,FULL STOP"⟩,
    ⟨0x3003, "", "DITTO MARK,JAPANESE INDUSTRIAL STANDARD SYMBOL"⟩,
    ⟨0x3005, "IDEOGRAPHIC ", "ITERATION MARK,CLOSING MARK,NUMBER ZERO"⟩,
    ⟨0x3008, "", "LEFT ANGLE BRACKET,RIGHT ANGLE BRACKET"⟩,
    ⟨0x300A, "", "LEFT DOUBLE ANGLE BRACKET,RIGHT DOUBLE ANGLE BRACKET,LEFT CORNER BRACKET"⟩,
    ⟨0x300D, "", "RIGHT CORNER BRACKET,LEFT WHITE CORNER BRACKET,RIGHT WHITE CORNER BRACKET"⟩,
    ⟨0x3010, "", "LEFT BLACK LENTICULAR BRACKET,RIGHT BLACK LENTICULAR BRACKET"⟩,
    ⟨0x3012, "", "POSTAL MARK,GETA MARK,LEFT TORTOISE SHELL BRACKET"⟩,
    ⟨0x3015, "", "RIGHT TORTOISE SHELL BRACKET,LEFT WHITE LENTICULAR BRACKET"⟩,
    ⟨0x3017, "", "RIGHT WHITE LENTICULAR BRACKET,LEFT WHITE TORTOISE SHELL BRACKET"⟩,
    ⟨0x3019, "", "RIGHT WHITE TORTOISE SHELL BRACKET,LEFT WHITE SQUARE BRACKET"⟩,
    ⟨0x301B, "", "RIGHT WHITE SQUARE BRACKET,WAVE DASH,REVERSED DOUBLE PRIME QUOTATION MARK"⟩,
    ⟨0x301E, "", "DOUBLE PRIME QUOTATION MARK,LOW DOUBLE PRIME QUOTATION MARK,POSTAL MARK FACE"⟩,
    ⟨0x3021, "HANGZHOU NUMERAL ", "ONE,TWO,THREE,FOUR,FIVE,SIX,SEVEN,EIGHT,NINE"⟩,
    ⟨0x302A, "", "IDEOGRAPHIC LEVEL TONE MARK"⟩,
    ⟨0x302B, "IDEOGRAPHIC ", "RISING TONE MARK,DEPARTING TONE MARK,ENTERING TONE MARK"⟩,
    ⟨0x302E, "", "HANGUL SINGLE DOT TONE MARK,HANGUL DOUBLE DOT TONE MARK,WAVY DASH"⟩,
    ⟨0x3031, "VERTICAL KANA REPEAT ", "MARK,WITH VOICED SOUND MARK,MARK UPPER HALF"⟩,
    ⟨0x3034, "VERTICAL KANA REPEAT ", "WITH VOICED SOUND MARK UPPER HALF,MARK LOWER HALF"⟩,
    ⟨0x3036, "", "CIRCLED POSTAL MARK,IDEOGRAPHIC TELEGRAPH LINE FEED SEPARATOR SYMBOL"⟩,
    ⟨0x3038, "HANGZHOU NUMERAL ", "TEN,TWENTY,THIRTY"⟩,
    ⟨0x303B, "", "VERTICAL IDEOGRAPHIC ITERATION MARK,MASU MARK,PART ALTERNATION MARK"⟩,
    ⟨0x303E, "IDEOGRAPHIC ", "VARIATION INDICATOR,HALF FILL SPACE"⟩,
    ⟨0x3041, "HIRAGANA LETTER ", "SMALL A,A,SMALL I,I,SMALL U,U,SMALL E,E,SMALL O,O,KA,GA"⟩,
    ⟨0x304D, "HIRAGANA LETTER ", "KI,GI,KU,GU,KE,GE,KO,GO,SA,ZA,SI,ZI,SU,ZU,SE,ZE,SO,ZO,TA,DA,TI"⟩,
    ⟨0x3062, "HIRAGANA LETTER ", "DI,SMALL TU,TU,DU,TE,DE,TO,DO,NA,NI,NU,NE,NO,HA,BA,PA,HI,BI,PI"⟩,
    ⟨0x3075, "HIRAGANA LETTER ", "HU,BU,PU,HE,BE,PE,HO,BO,PO,MA,MI,MU,ME,MO,SMALL YA,YA,SMALL YU"⟩,
    ⟨0x3086, "HIRAGANA LETTER ", "YU,SMALL YO,YO,RA,RI,RU,RE,RO,SMALL WA,WA,WI,WE,WO,N,VU"⟩,
    ⟨0x3095, "HIRAGANA LETTER SMALL ", "KA,KE"⟩,
    ⟨0x3099, "COMBINING KATAKANA-HIRAGANA ", "VOICED SOUND MARK,SEMI-VOICED SOUND MARK"⟩,
    ⟨0x309B, "KATAKANA-HIRAGANA ", "VOICED SOUND MARK,SEMI-VOICED SOUND MARK"⟩,
    ⟨0x309D, "HIRAGANA ", "ITERATION MARK,VOICED ITERATION MARK,DIGRAPH YORI"⟩,
    ⟨0x30A0, "", "KATAKANA-HIRAGANA DOUBLE HYPHEN"⟩,
    ⟨0x30A1, "KATAKANA LETTER ", "SMALL A,A,SMALL I"⟩,
    ⟨0x30A4, "KATAKANA LETTER ", "I,SMALL U,U,SMALL E,E,SMALL O,O,KA,GA,KI,GI,KU,GU,KE,GE,KO,GO"⟩,
    ⟨0x30B5, "KATAKANA LETTER ", "SA,ZA,SI,ZI,SU,ZU,SE,ZE,SO,ZO,TA,DA,TI,DI,SMALL TU,TU,DU,TE,DE"⟩,
    ⟨0x30C8, "KATAKANA LETTER ", "TO,DO,NA,NI,NU,NE,NO,HA,BA,PA,HI,BI,PI,HU,BU,PU,HE,BE,PE,HO,BO"⟩,
    ⟨0x30DD, "KATAKANA LETTER ", "PO,MA,MI,MU,ME,MO,SMALL YA,YA,SMALL YU,YU,SMALL YO,YO,RA,RI,RU"⟩,
    ⟨0x30EC, "KATAKANA LETTER ", "RE,RO,SMALL WA,WA,WI,WE,WO,N,VU,SMALL KA,SMALL KE,VA,VI,VE,VO"⟩,
    ⟨0x30FB, "", "KATAKANA MIDDLE DOT,KATAKANA-HIRAGANA PROLONGED SOUND MARK"⟩,
    ⟨0x30FD, "KATAKANA ", "ITERATION MARK,VOICED ITERATION MARK,DIGRAPH KOTO"⟩,
    ⟨0x3105, "BOPOMOFO LETTER ", "B,P,M,F,D,T,N,L,G,K,H,J,Q,X,ZH,CH,SH,R,Z,C,S,A,O,E,EH,AI"⟩,
    ⟨0x311F, "BOPOMOFO LETTER ", "EI,AU,OU,AN,EN,ANG,ENG,ER,I,U,IU,V,NG,GN,IH,O WITH DOT ABOVE,NN"⟩,
    ⟨0x3131, "HANGUL LETTER ", "KIYEOK,SSANGKIYEOK,KIYEOK-SIOS"⟩,
    ⟨0x3134, "HANGUL LETTER ", "NIEUN,NIEUN-CIEUC,NIEUN-HIEUH,TIKEUT,SSANGTIKEUT,RIEUL"⟩,
    ⟨0x313A, "HANGUL LETTER RIEUL-", "KIYEOK,MIEUM,PIEUP,SIOS,THIEUTH,PHIEUPH,HIEUH"⟩,
    ⟨0x3141, "HANGUL LETTER ", "MIEUM,PIEUP,SSANGPIEUP,PIEUP-SIOS,SIOS,SSANGSIOS"⟩,
    ⟨0x3147, "HANGUL LETTER ", "IEUNG,CIEUC,SSANGCIEUC,CHIEUCH,KHIEUKH,THIEUTH,PHIEUPH,HIEUH"⟩,
    ⟨0x314F, "HANGUL LETTER ", "A,AE,YA,YAE,EO,E,YEO,YE,O,WA,WAE,OE,YO,U,WEO,WE,WI,YU,EU,YI,I"⟩,
    ⟨0x3164, "HANGUL ", "FILLER,LETTER SSANGNIEUN"⟩,
    ⟨0x3166, "HANGUL LETTER NIEUN-", "TIKEUT,SIOS,PANSIOS"⟩,
    ⟨0x3169, "HANGUL LETTER RIEUL-", "KIYEOK-SIOS,TIKEUT,PIEUP-SIOS,PANSIOS,YEORINHIEUH"⟩,
    ⟨0x316E, "HANGUL LETTER ", "MIEUM-PIEUP,MIEUM-SIOS,MIEUM-PANSIOS,KAPYEOUNMIEUM"⟩,
    ⟨0x3172, "HANGUL LETTER PIEUP-", "KIYEOK,TIKEUT,SIOS-KIYEOK,SIOS-TIKEUT,CIEUC,THIEUTH"⟩,
    ⟨0x3178, "HANGUL LETTER ", "KAPYEOUNPIEUP,KAPYEOUNSSANGPIEUP,SIOS-KIYEOK,SIOS-NIEUN"⟩,
    ⟨0x317C, "HANGUL LETTER ", "SIOS-TIKEUT,SIOS-PIEUP,SIOS-CIEUC,PANSIOS,SSANGIEUNG,YESIEUNG"⟩,
    ⟨0x3182, "HANGUL LETTER ", "YESIEUNG-SIOS,YESIEUNG-PANSIOS,KAPYEOUNPHIEUPH,SSANGHIEUH"⟩,
    ⟨0x3186, "HANGUL LETTER ", "YEORINHIEUH,YO-YA,YO-YAE,YO-I,YU-YEO,YU-YE,YU-I,ARAEA,ARAEAE"⟩,
    ⟨0x3190, "", "IDEOGRAPHIC ANNOTATION LINKING MARK"⟩,
    ⟨0x3191, "IDEOGRAPHIC ANNOTATION ", "REVERSE MARK,ONE MARK,TWO MARK,THREE MARK,FOUR MARK"⟩,
    ⟨0x3196, "IDEOGRAPHIC ANNOTATION ", "TOP MARK,MIDDLE MARK,BOTTOM MARK,FIRST MARK,SECOND MARK"⟩,
    ⟨0x319B, "IDEOGRAPHIC ANNOTATION ", "THIRD MARK,FOURTH MARK,HEAVEN MARK,EARTH MARK,MAN MARK"⟩,
    ⟨0x31A0, "BOPOMOFO LETTER ", "BU,ZI,JI"⟩,
    ⟨0x31A3, "BOPOMOFO LETTER ", "GU,EE,ENN,OO,ONN,IR,ANN,INN,UNN,IM,NGG,AINN,AUNN,AM,OM,ONG,INNN"⟩,
    ⟨0x31B4, "BOPOMOFO FINAL LETTER ", "P,T,K,H"⟩,
    ⟨0x31B8, "BOPOMOFO ", "LETTER GH,LETTER LH,LETTER ZY,FINAL LETTER G"⟩,
    ⟨0x31BC, "BOPOMOFO LETTER ", "GW,KW,OE,AH"⟩,
    ⟨0x31C0, "CJK STROKE ", "T,WG,XG,BXG,SW,HZZ,HZG,HP,HZWG,SZWG,HZT,HZZP,HPWG,HZW,HZZZ"⟩,
    ⟨0x31CF, "CJK STROKE ", "N,H,S,P,SP,D,HZ,HG,SZ,SWZ,ST,SG,PD,PZ,TN,SZZ,SWG,HXWG,HZZZG,PG,Q"⟩,
    ⟨0x31F0, "KATAKANA LETTER SMALL ", "KU,SI,SU,TO,NU,HA,HI,HU,HE,HO,MU,RA,RI,RU,RE,RO"⟩,
    ⟨0x3200, "PARENTHESIZED HANGUL ", "KIYEOK,NIEUN,TIKEUT,RIEUL,MIEUM,PIEUP,SIOS,IEUNG,CIEUC"⟩,
    ⟨0x3209, "PARENTHESIZED HANGUL ", "CHIEUCH,KHIEUKH,THIEUTH,PHIEUPH,HIEUH,KIYEOK A,NIEUN A"⟩,
    ⟨0x3210, "PARENTHESIZED HANGUL ", "TIKEUT A,RIEUL A,MIEUM A,PIEUP A,SIOS A,IEUNG A,CIEUC A"⟩,
    ⟨0x3217, "PARENTHESIZED HANGUL ", "CHIEUCH A,KHIEUKH A,THIEUTH A,PHIEUPH A,HIEUH A,CIEUC U"⟩,
    ⟨0x321D, "PARENTHESIZED KOREAN CHARACTER ", "OJEON,O HU"⟩,
    ⟨0x3220, "PARENTHESIZED IDEOGRAPH ", "ONE,TWO,THREE,FOUR,FIVE"⟩,
    ⟨0x3225, "PARENTHESIZED IDEOGRAPH ", "SIX,SEVEN,EIGHT,NINE,TEN,MOON,FIRE,WATER,WOOD,METAL"⟩,
    ⟨0x322F, "PARENTHESIZED IDEOGRAPH ", "EARTH,SUN,STOCK,HAVE,SOCIETY,NAME,SPECIAL,FINANCIAL"⟩,
    ⟨0x3237, "PARENTHESIZED IDEOGRAPH ", "CONGRATULATION,LABOR,REPRESENT,CALL,STUDY,SUPERVISE"⟩,
    ⟨0x323D, "PARENTHESIZED IDEOGRAPH ", "ENTERPRISE,RESOURCE,ALLIANCE,FESTIVAL,REST,SELF,REACH"⟩,
    ⟨0x3244, "CIRCLED IDEOGRAPH ", "QUESTION,KINDERGARTEN,SCHOOL,KOTO"⟩,
    ⟨0x3248, "CIRCLED NUMBER ", "TEN ON BLACK SQUARE,TWENTY ON BLACK SQUARE"⟩,
    ⟨0x324A, "CIRCLED NUMBER ", "THIRTY ON BLACK SQUARE,FORTY ON BLACK SQUARE"⟩,
    ⟨0x324C, "CIRCLED NUMBER ", "FIFTY ON BLACK SQUARE,SIXTY ON BLACK SQUARE"⟩,
    ⟨0x324E, "CIRCLED NUMBER ", "SEVENTY ON BLACK SQUARE,EIGHTY ON BLACK SQUARE"⟩,
    ⟨0x3250, "", "PARTNERSHIP SIGN"⟩,
    ⟨0x3251, "CIRCLED NUMBER TWENTY ", "ONE,TWO,THREE,FOUR,FIVE,SIX,SEVEN,EIGHT,NINE"⟩,
    ⟨0x325A, "", "CIRCLED NUMBER THIRTY"⟩,
    ⟨0x325B, "CIRCLED NUMBER THIRTY ", "ONE,TWO,THREE,FOUR,FIVE"⟩,
    ⟨0x3260, "CIRCLED HANGUL ", "KIYEOK,NIEUN,TIKEUT,RIEUL"⟩,
    ⟨0x3264, "CIRCLED HANGUL ", "MIEUM,PIEUP,SIOS,IEUNG,CIEUC,CHIEUCH,KHIEUKH,THIEUTH,PHIEUPH"⟩,
    ⟨0x326D, "CIRCLED HANGUL ", "HIEUH,KIYEOK A,NIEUN A,TIKEUT A,RIEUL A,MIEUM A,PIEUP A,SIOS A"⟩,
    ⟨0x3275, "CIRCLED HANGUL ", "IEUNG A,CIEUC A,CHIEUCH A,KHIEUKH A,THIEUTH A,PHIEUPH A,HIEUH A"⟩,
    ⟨0x327C, "CIRCLED KOREAN CHARACTER ", "CHAMKO,JUEUI"⟩,
    ⟨0x327E, "", "CIRCLED HANGUL IEUNG U,KOREAN STANDARD SYMBOL"⟩,
    ⟨0x3280, "CIRCLED IDEOGRAPH ", "ONE,TWO,THREE,FOUR,FIVE"⟩,
    ⟨0x3285, "CIRCLED IDEOGRAPH ", "SIX,SEVEN,EIGHT,NINE,TEN,MOON,FIRE,WATER,WOOD,METAL,EARTH"⟩,
    ⟨0x3290, "CIRCLED IDEOGRAPH ", "SUN,STOCK,HAVE,SOCIETY,NAME,SPECIAL,FINANCIAL,CONGRATULATION"⟩,
    ⟨0x3298, "CIRCLED IDEOGRAPH ", "LABOR,SECRET,MALE,FEMALE,SUITABLE,EXCELLENT,PRINT,ATTENTION"⟩,
    ⟨0x32A0, "CIRCLED IDEOGRAPH ", "ITEM,REST,COPY,CORRECT,HIGH,CENTRE,LOW,LEFT,RIGHT,MEDICINE"⟩,
    ⟨0x32AA, "CIRCLED IDEOGRAPH ", "RELIGION,STUDY,SUPERVISE,ENTERPRISE,RESOURCE,ALLIANCE,NIGHT"⟩,
    ⟨0x32B1, "CIRCLED NUMBER ", "THIRTY SIX,THIRTY SEVEN,THIRTY EIGHT,THIRTY NINE,FORTY"⟩,
    ⟨0x32B6, "CIRCLED NUMBER FORTY ", "ONE,TWO,THREE,FOUR,FIVE,SIX,SEVEN,EIGHT,NINE"⟩,
    ⟨0x32BF, "", "CIRCLED NUMBER FIFTY"⟩,
    ⟨0x32C0, "IDEOGRAPHIC TELEGRAPH SYMBOL FOR ", "JANUARY,FEBRUARY,MARCH,APRIL,MAY,JUNE,JULY"⟩,
    ⟨0x32C7, "IDEOGRAPHIC TELEGRAPH SYMBOL FOR ", "AUGUST,SEPTEMBER,OCTOBER,NOVEMBER,DECEMBER"⟩,
    ⟨0x32CC, "", "SQUARE HG,SQUARE ERG,SQUARE EV,LIMITED LIABILITY SIGN"⟩,
    ⟨0x32D0, "CIRCLED KATAKANA ", "A,I,U,E,O"⟩,
    ⟨0x32D5, "CIRCLED KATAKANA ", "KA,KI,KU,KE,KO,SA,SI,SU,SE,SO,TA,TI,TU,TE,TO,NA,NI,NU,NE,NO,HA"⟩,
    ⟨0x32EA, "CIRCLED KATAKANA ", "HI,HU,HE,HO,MA,MI,MU,ME,MO,YA,YU,YO,RA,RI,RU,RE,RO,WA,WI,WE,WO"⟩,
    ⟨0x32FF, "SQUARE ", "ERA NAME REIWA,APAATO,ARUHUA,ANPEA,AARU,ININGU"⟩,
    ⟨0x3305, "SQUARE ", "INTI,UON,ESUKUUDO,EEKAA,ONSU,OOMU,KAIRI,KARATTO,KARORII,GARON,GANMA"⟩,
    ⟨0x3310, "SQUARE ", "GIGA,GINII,KYURII,GIRUDAA,KIRO,KIROGURAMU,KIROMEETORU,KIROWATTO,GURAMU"⟩,
    ⟨0x3319, "SQUARE ", "GURAMUTON,KURUZEIRO,KUROONE,KEESU,KORUNA,KOOPO,SAIKURU,SANTIIMU,SIRINGU"⟩,
    ⟨0x3322, "SQUARE ", "SENTI,SENTO,DAASU,DESI,DORU,TON,NANO,NOTTO,HAITU,PAASENTO,PAATU,BAARERU"⟩,
    ⟨0x332E, "SQUARE ", "PIASUTORU,PIKURU,PIKO,BIRU,HUARADDO,HUIITO,BUSSYERU,HURAN,HEKUTAARU"⟩,
    ⟨0x3337, "SQUARE ", "PESO,PENIHI,HERUTU,PENSU,PEEZI,BEETA,POINTO,BORUTO,HON,PONDO,HOORU,HOON"⟩,
    ⟨0x3343, "SQUARE ", "MAIKURO,MAIRU,MAHHA,MARUKU,MANSYON,MIKURON,MIRI,MIRIBAARU,MEGA,MEGATON"⟩,
    ⟨0x334D, "SQUARE ", "MEETORU,YAADO,YAARU,YUAN,RITTORU,RIRA,RUPII,RUUBURU,REMU,RENTOGEN,WATTO"⟩,
    ⟨0x3358, "IDEOGRAPHIC TELEGRAPH SYMBOL FOR HOUR ", "ZERO,ONE,TWO,THREE"⟩,
    ⟨0x335C, "IDEOGRAPHIC TELEGRAPH SYMBOL FOR HOUR ", "FOUR,FIVE,SIX,SEVEN,EIGHT,NINE,TEN,ELEVEN"⟩,
    ⟨0x3364, "IDEOGRAPHIC TELEGRAPH SYMBOL FOR HOUR ", "TWELVE,THIRTEEN,FOURTEEN,FIFTEEN,SIXTEEN"⟩,
    ⟨0x3369, "IDEOGRAPHIC TELEGRAPH SYMBOL FOR HOUR ", "SEVENTEEN,EIGHTEEN,NINETEEN,TWENTY"⟩,
    ⟨0x336D, "IDEOGRAPHIC TELEGRAPH SYMBOL FOR HOUR TWENTY-", "ONE,TWO,THREE,FOUR"⟩,
    ⟨0x3371, "SQUARE ", "HPA,DA,AU,BAR,OV,PC,DM,DM SQUARED,DM CUBED,IU,ERA NAME HEISEI"⟩,
    ⟨0x337C, "SQUARE ", "ERA NAME SYOUWA,ERA NAME TAISYOU,ERA NAME MEIZI,CORPORATION"⟩,
    ⟨0x3380, "SQUARE ", "PA AMPS,NA,MU A,MA,KA,KB,MB,GB,CAL,KCAL,PF,NF,MU F,MU G,MG,KG,HZ"⟩,
    ⟨0x3391, "SQUARE ", "KHZ,MHZ,GHZ,THZ,MU L,ML,DL,KL,FM,NM,MU M,MM,CM,KM,MM SQUARED,CM SQUARED"⟩,
    ⟨0x33A1, "SQUARE ", "M SQUARED,KM SQUARED,MM CUBED,CM CUBED,M CUBED,KM CUBED,M OVER S"⟩,
    ⟨0x33A8, "SQUARE ", "M OVER S SQUARED,PA,KPA,MPA,GPA,RAD,RAD OVER S,RAD OVER S SQUARED"⟩,
    ⟨0x33B0, "SQUARE ", "PS,NS,MU S,MS,PV,NV,MU V,MV,KV,MV MEGA,PW,NW,MU W,MW,KW,MW MEGA"⟩,
    ⟨0x33C0, "SQUARE ", "K OHM,M OHM,AM,BQ,CC,CD,C OVER KG,CO,DB,GY,HA,HP,IN,KK,KM CAPITAL"⟩,
    ⟨0x33CF, "SQUARE ", "KT,LM,LN,LOG,LX,MB SMALL,MIL,MOL,PH,PM,PPM,PR,SR,SV,WB,V OVER M,A OVER M"⟩,
    ⟨0x33E0, "IDEOGRAPHIC TELEGRAPH SYMBOL FOR DAY ", "ONE,TWO"⟩,
    ⟨0x33E2, "IDEOGRAPHIC TELEGRAPH SYMBOL FOR DAY ", "THREE,FOUR,FIVE,SIX,SEVEN,EIGHT,NINE,TEN"⟩,
    ⟨0x33EA, "IDEOGRAPHIC TELEGRAPH SYMBOL FOR DAY ", "ELEVEN,TWELVE,THIRTEEN,FOURTEEN,FIFTEEN"⟩,
    ⟨0x33EF, "IDEOGRAPHIC TELEGRAPH SYMBOL FOR DAY ", "SIXTEEN,SEVENTEEN,EIGHTEEN,NINETEEN,TWENTY"⟩,
    ⟨0x33F4, "IDEOGRAPHIC TELEGRAPH SYMBOL FOR DAY TWENTY-", "ONE,TWO,THREE,FOUR,FIVE,SIX,SEVEN"⟩,
    ⟨0x33FB, "IDEOGRAPHIC TELEGRAPH SYMBOL FOR DAY ", "TWENTY-EIGHT,TWENTY-NINE,THIRTY,THIRTY-ONE"⟩,
    ⟨0x33FF, "", "SQUARE GAL"⟩,
    ⟨0x4DC0, "HEXAGRAM FOR THE ", "CREATIVE HEAVEN,RECEPTIVE EARTH"⟩,
    ⟨0x4DC2, "HEXAGRAM FOR ", "DIFFICULTY AT THE BEGINNING,YOUTHFUL FOLLY"⟩,
    ⟨0x4DC4, "HEXAGRAM FOR ", "WAITING,CONFLICT,THE ARMY,HOLDING TOGETHER,SMALL TAMING"⟩,
    ⟨0x4DC9, "HEXAGRAM FOR ", "TREADING,PEACE,STANDSTILL,FELLOWSHIP,GREAT POSSESSION,MODESTY"⟩,
    ⟨0x4DCF, "HEXAGRAM FOR ", "ENTHUSIASM,FOLLOWING,WORK ON THE DECAYED,APPROACH,CONTEMPLATION"⟩,
    ⟨0x4DD4, "HEXAGRAM FOR ", "BITING THROUGH,GRACE,SPLITTING APART,RETURN,INNOCENCE"⟩,
    ⟨0x4DD9, "HEXAGRAM FOR ", "GREAT TAMING,MOUTH CORNERS,GREAT PREPONDERANCE,THE ABYSMAL WATER"⟩,
    ⟨0x4DDD, "HEXAGRAM FOR ", "THE CLINGING FIRE,INFLUENCE,DURATION,RETREAT,GREAT POWER"⟩,
    ⟨0x4DE2, "HEXAGRAM FOR ", "PROGRESS,DARKENING OF THE LIGHT,THE FAMILY,OPPOSITION,OBSTRUCTION"⟩,
    ⟨0x4DE7, "HEXAGRAM FOR ", "DELIVERANCE,DECREASE,INCREASE,BREAKTHROUGH,COMING TO MEET"⟩,
    ⟨0x4DEC, "HEXAGRAM FOR ", "GATHERING TOGETHER,PUSHING UPWARD,OPPRESSION,THE WELL,REVOLUTION"⟩,
    ⟨0x4DF1, "HEXAGRAM FOR THE ", "CAULDRON,AROUSING THUNDER,KEEPING STILL MOUNTAIN"⟩,
    ⟨0x4DF4, "HEXAGRAM FOR ", "DEVELOPMENT,THE MARRYING MAIDEN,ABUNDANCE"⟩,
    ⟨0x4DF7, "HEXAGRAM FOR ", "THE WANDERER,THE GENTLE WIND,THE JOYOUS LAKE,DISPERSION,LIMITATION"⟩,
    ⟨0x4DFC, "HEXAGRAM FOR ", "INNER TRUTH,SMALL PREPONDERANCE,AFTER COMPLETION,BEFORE COMPLETION"⟩,
    ⟨0xA000, "YI SYLLABLE ", "IT,IX,I,IP,IET,IEX,IE,IEP,AT,AX,A,AP"⟩,
    ⟨0xA00C, "YI SYLLABLE ", "UOX,UO,UOP,OT,OX,O,OP,EX,E,WU,BIT,BIX,BI,BIP,BIET,BIEX,BIE,BIEP,BAT"⟩,
    ⟨0xA01F, "YI SYLLABLE ", "BAX,BA,BAP,BUOX,BUO,BUOP,BOT,BOX,BO,BOP,BEX,BE,BEP,BUT,BUX,BU,BUP"⟩,
    ⟨0xA030, "YI SYLLABLE ", "BURX,BUR,BYT,BYX,BY,BYP,BYRX,BYR,PIT,PIX,PI,PIP,PIEX,PIE,PIEP,PAT"⟩,
    ⟨0xA040, "YI SYLLABLE ", "PAX,PA,PAP,PUOX,PUO,PUOP,POT,POX,PO,POP,PUT,PUX,PU,PUP,PURX,PUR,PYT"⟩,
    ⟨0xA051, "YI SYLLABLE ", "PYX,PY,PYP,PYRX,PYR,BBIT,BBIX,BBI,BBIP,BBIET,BBIEX,BBIE,BBIEP,BBAT"⟩,
    ⟨0xA05F, "YI SYLLABLE ", "BBAX,BBA,BBAP,BBUOX,BBUO,BBUOP,BBOT,BBOX,BBO,BBOP,BBEX,BBE,BBEP"⟩,
    ⟨0xA06C, "YI SYLLABLE ", "BBUT,BBUX,BBU,BBUP,BBURX,BBUR,BBYT,BBYX,BBY,BBYP,NBIT,NBIX,NBI,NBIP"⟩,
    ⟨0xA07A, "YI SYLLABLE ", "NBIEX,NBIE,NBIEP,NBAT,NBAX,NBA,NBAP,NBOT,NBOX,NBO,NBOP,NBUT,NBUX"⟩,
    ⟨0xA087, "YI SYLLABLE ", "NBU,NBUP,NBURX,NBUR,NBYT,NBYX,NBY,NBYP,NBYRX,NBYR,HMIT,HMIX,HMI"⟩,
    ⟨0xA094, "YI SYLLABLE ", "HMIP,HMIEX,HMIE,HMIEP,HMAT,HMAX,HMA,HMAP,HMUOX,HMUO,HMUOP,HMOT,HMOX"⟩,
    ⟨0xA0A1, "YI SYLLABLE ", "HMO,HMOP,HMUT,HMUX,HMU,HMUP,HMURX,HMUR,HMYX,HMY,HMYP,HMYRX,HMYR"⟩,
    ⟨0xA0AE, "YI SYLLABLE ", "MIT,MIX,MI,MIP,MIEX,MIE,MIEP,MAT,MAX,MA,MAP,MUOT,MUOX,MUO,MUOP,MOT"⟩,
    ⟨0xA0BE, "YI SYLLABLE ", "MOX,MO,MOP,MEX,ME,MUT,MUX,MU,MUP,MURX,MUR,MYT,MYX,MY,MYP,FIT,FIX"⟩,
    ⟨0xA0CF, "YI SYLLABLE ", "FI,FIP,FAT,FAX,FA,FAP,FOX,FO,FOP,FUT,FUX,FU,FUP,FURX,FUR,FYT,FYX,FY"⟩,
    ⟨0xA0E1, "YI SYLLABLE ", "FYP,VIT,VIX,VI,VIP,VIET,VIEX,VIE,VIEP,VAT,VAX,VA,VAP,VOT,VOX,VO,VOP"⟩,
    ⟨0xA0F2, "YI SYLLABLE ", "VEX,VEP,VUT,VUX,VU,VUP,VURX,VUR,VYT,VYX,VY,VYP,VYRX,VYR,DIT,DIX,DI"⟩,
    ⟨0xA103, "YI SYLLABLE ", "DIP,DIEX,DIE,DIEP,DAT,DAX,DA,DAP,DUOX,DUO,DOT,DOX,DO,DOP,DEX,DE,DEP"⟩,
    ⟨0xA114, "YI SYLLABLE ", "DUT,DUX,DU,DUP,DURX,DUR,TIT,TIX,TI,TIP,TIEX,TIE,TIEP,TAT,TAX,TA,TAP"⟩,
    ⟨0xA125, "YI SYLLABLE ", "TUOT,TUOX,TUO,TUOP,TOT,TOX,TO,TOP,TEX,TE,TEP,TUT,TUX,TU,TUP,TURX"⟩,
    ⟨0xA135, "YI SYLLABLE ", "TUR,DDIT,DDIX,DDI,DDIP,DDIEX,DDIE,DDIEP,DDAT,DDAX,DDA,DDAP,DDUOX"⟩,
    ⟨0xA142, "YI SYLLABLE ", "DDUO,DDUOP,DDOT,DDOX,DDO,DDOP,DDEX,DDE,DDEP,DDUT,DDUX,DDU,DDUP"⟩,
    ⟨0xA14F, "YI SYLLABLE ", "DDURX,DDUR,NDIT,NDIX,NDI,NDIP,NDIEX,NDIE,NDAT,NDAX,NDA,NDAP,NDOT"⟩,
    ⟨0xA15C, "YI SYLLABLE ", "NDOX,NDO,NDOP,NDEX,NDE,NDEP,NDUT,NDUX,NDU,NDUP,NDURX,NDUR,HNIT,HNIX"⟩,
    ⟨0xA16A, "YI SYLLABLE ", "HNI,HNIP,HNIET,HNIEX,HNIE,HNIEP,HNAT,HNAX,HNA,HNAP,HNUOX,HNUO,HNOT"⟩,
    ⟨0xA177, "YI SYLLABLE ", "HNOX,HNOP,HNEX,HNE,HNEP,HNUT,NIT,NIX,NI,NIP,NIEX,NIE,NIEP,NAX,NA"⟩,
    ⟨0xA186, "YI SYLLABLE ", "NAP,NUOX,NUO,NUOP,NOT,NOX,NO,NOP,NEX,NE,NEP,NUT,NUX,NU,NUP,NURX,NUR"⟩,
    ⟨0xA197, "YI SYLLABLE ", "HLIT,HLIX,HLI,HLIP,HLIEX,HLIE,HLIEP,HLAT,HLAX,HLA,HLAP,HLUOX,HLUO"⟩,
    ⟨0xA1A4, "YI SYLLABLE ", "HLUOP,HLOX,HLO,HLOP,HLEX,HLE,HLEP,HLUT,HLUX,HLU,HLUP,HLURX,HLUR"⟩,
    ⟨0xA1B1, "YI SYLLABLE ", "HLYT,HLYX,HLY,HLYP,HLYRX,HLYR,LIT,LIX,LI,LIP,LIET,LIEX,LIE,LIEP,LAT"⟩,
    ⟨0xA1C0, "YI SYLLABLE ", "LAX,LA,LAP,LUOT,LUOX,LUO,LUOP,LOT,LOX,LO,LOP,LEX,LE,LEP,LUT,LUX,LU"⟩,
    ⟨0xA1D1, "YI SYLLABLE ", "LUP,LURX,LUR,LYT,LYX,LY,LYP,LYRX,LYR,GIT,GIX,GI,GIP,GIET,GIEX,GIE"⟩,
    ⟨0xA1E1, "YI SYLLABLE ", "GIEP,GAT,GAX,GA,GAP,GUOT,GUOX,GUO,GUOP,GOT,GOX,GO,GOP,GET,GEX,GE"⟩,
    ⟨0xA1F1, "YI SYLLABLE ", "GEP,GUT,GUX,GU,GUP,GURX,GUR,KIT,KIX,KI,KIP,KIEX,KIE,KIEP,KAT,KAX,KA"⟩,
    ⟨0xA202, "YI SYLLABLE ", "KAP,KUOX,KUO,KUOP,KOT,KOX,KO,KOP,KET,KEX,KE,KEP,KUT,KUX,KU,KUP,KURX"⟩,
    ⟨0xA213, "YI SYLLABLE ", "KUR,GGIT,GGIX,GGI,GGIEX,GGIE,GGIEP,GGAT,GGAX,GGA,GGAP,GGUOT,GGUOX"⟩,
    ⟨0xA220, "YI SYLLABLE ", "GGUO,GGUOP,GGOT,GGOX,GGO,GGOP,GGET,GGEX,GGE,GGEP,GGUT,GGUX,GGU"⟩,
    ⟨0xA22D, "YI SYLLABLE ", "GGUP,GGURX,GGUR,MGIEX,MGIE,MGAT,MGAX,MGA,MGAP,MGUOX,MGUO,MGUOP,MGOT"⟩,
    ⟨0xA23A, "YI SYLLABLE ", "MGOX,MGO,MGOP,MGEX,MGE,MGEP,MGUT,MGUX,MGU,MGUP,MGURX,MGUR,HXIT,HXIX"⟩,
    ⟨0xA248, "YI SYLLABLE ", "HXI,HXIP,HXIET,HXIEX,HXIE,HXIEP,HXAT,HXAX,HXA,HXAP,HXUOT,HXUOX,HXUO"⟩,
    ⟨0xA255, "YI SYLLABLE ", "HXUOP,HXOT,HXOX,HXO,HXOP,HXEX,HXE,HXEP,NGIEX,NGIE,NGIEP,NGAT,NGAX"⟩,
    ⟨0xA262, "YI SYLLABLE ", "NGA,NGAP,NGUOT,NGUOX,NGUO,NGOT,NGOX,NGO,NGOP,NGEX,NGE,NGEP,HIT,HIEX"⟩,
    ⟨0xA270, "YI SYLLABLE ", "HIE,HAT,HAX,HA,HAP,HUOT,HUOX,HUO,HUOP,HOT,HOX,HO,HOP,HEX,HE,HEP"⟩,
    ⟨0xA280, "YI SYLLABLE ", "WAT,WAX,WA,WAP,WUOX,WUO,WUOP,WOX,WO,WOP,WEX,WE,WEP,ZIT,ZIX,ZI,ZIP"⟩,
    ⟨0xA291, "YI SYLLABLE ", "ZIEX,ZIE,ZIEP,ZAT,ZAX,ZA,ZAP,ZUOX,ZUO,ZUOP,ZOT,ZOX,ZO,ZOP,ZEX,ZE"⟩,
    ⟨0xA2A1, "YI SYLLABLE ", "ZEP,ZUT,ZUX,ZU,ZUP,ZURX,ZUR,ZYT,ZYX,ZY,ZYP,ZYRX,ZYR,CIT,CIX,CI,CIP"⟩,
    ⟨0xA2B2, "YI SYLLABLE ", "CIET,CIEX,CIE,CIEP,CAT,CAX,CA,CAP,CUOX,CUO,CUOP,COT,COX,CO,COP,CEX"⟩,
    ⟨0xA2C2, "YI SYLLABLE ", "CE,CEP,CUT,CUX,CU,CUP,CURX,CUR,CYT,CYX,CY,CYP,CYRX,CYR,ZZIT,ZZIX"⟩,
    ⟨0xA2D2, "YI SYLLABLE ", "ZZI,ZZIP,ZZIET,ZZIEX,ZZIE,ZZIEP,ZZAT,ZZAX,ZZA,ZZAP,ZZOX,ZZO,ZZOP"⟩,
    ⟨0xA2DF, "YI SYLLABLE ", "ZZEX,ZZE,ZZEP,ZZUX,ZZU,ZZUP,ZZURX,ZZUR,ZZYT,ZZYX,ZZY,ZZYP,ZZYRX"⟩,
    ⟨0xA2EC, "YI SYLLABLE ", "ZZYR,NZIT,NZIX,NZI,NZIP,NZIEX,NZIE,NZIEP,NZAT,NZAX,NZA,NZAP,NZUOX"⟩,
    ⟨0xA2F9, "YI SYLLABLE ", "NZUO,NZOX,NZOP,NZEX,NZE,NZUX,NZU,NZUP,NZURX,NZUR,NZYT,NZYX,NZY,NZYP"⟩,
    ⟨0xA307, "YI SYLLABLE ", "NZYRX,NZYR,SIT,SIX,SI,SIP,SIEX,SIE,SIEP,SAT,SAX,SA,SAP,SUOX,SUO"⟩,
    ⟨0xA316, "YI SYLLABLE ", "SUOP,SOT,SOX,SO,SOP,SEX,SE,SEP,SUT,SUX,SU,SUP,SURX,SUR,SYT,SYX,SY"⟩,
    ⟨0xA327, "YI SYLLABLE ", "SYP,SYRX,SYR,SSIT,SSIX,SSI,SSIP,SSIEX,SSIE,SSIEP,SSAT,SSAX,SSA,SSAP"⟩,
    ⟨0xA335, "YI SYLLABLE ", "SSOT,SSOX,SSO,SSOP,SSEX,SSE,SSEP,SSUT,SSUX,SSU,SSUP,SSYT,SSYX,SSY"⟩,
    ⟨0xA343, "YI SYLLABLE ", "SSYP,SSYRX,SSYR,ZHAT,ZHAX,ZHA,ZHAP,ZHUOX,ZHUO,ZHUOP,ZHOT,ZHOX,ZHO"⟩,
    ⟨0xA350, "YI SYLLABLE ", "ZHOP,ZHET,ZHEX,ZHE,ZHEP,ZHUT,ZHUX,ZHU,ZHUP,ZHURX,ZHUR,ZHYT,ZHYX,ZHY"⟩,
    ⟨0xA35E, "YI SYLLABLE ", "ZHYP,ZHYRX,ZHYR,CHAT,CHAX,CHA,CHAP,CHUOT,CHUOX,CHUO,CHUOP,CHOT,CHOX"⟩,
    ⟨0xA36B, "YI SYLLABLE ", "CHO,CHOP,CHET,CHEX,CHE,CHEP,CHUX,CHU,CHUP,CHURX,CHUR,CHYT,CHYX,CHY"⟩,
    ⟨0xA379, "YI SYLLABLE ", "CHYP,CHYRX,CHYR,RRAX,RRA,RRUOX,RRUO,RROT,RROX,RRO,RROP,RRET,RREX"⟩,
    ⟨0xA386, "YI SYLLABLE ", "RRE,RREP,RRUT,RRUX,RRU,RRUP,RRURX,RRUR,RRYT,RRYX,RRY,RRYP,RRYRX"⟩,
    ⟨0xA393, "YI SYLLABLE ", "RRYR,NRAT,NRAX,NRA,NRAP,NROX,NRO,NROP,NRET,NREX,NRE,NREP,NRUT,NRUX"⟩,
    ⟨0xA3A1, "YI SYLLABLE ", "NRU,NRUP,NRURX,NRUR,NRYT,NRYX,NRY,NRYP,NRYRX,NRYR,SHAT,SHAX,SHA"⟩,
    ⟨0xA3AE, "YI SYLLABLE ", "SHAP,SHUOX,SHUO,SHUOP,SHOT,SHOX,SHO,SHOP,SHET,SHEX,SHE,SHEP,SHUT"⟩,
    ⟨0xA3BB, "YI SYLLABLE ", "SHUX,SHU,SHUP,SHURX,SHUR,SHYT,SHYX,SHY,SHYP,SHYRX,SHYR,RAT,RAX,RA"⟩,
    ⟨0xA3C9, "YI SYLLABLE ", "RAP,RUOX,RUO,RUOP,ROT,ROX,RO,ROP,REX,RE,REP,RUT,RUX,RU,RUP,RURX,RUR"⟩,
    ⟨0xA3DA, "YI SYLLABLE ", "RYT,RYX,RY,RYP,RYRX,RYR,JIT,JIX,JI,JIP,JIET,JIEX,JIE,JIEP,JUOT,JUOX"⟩,
    ⟨0xA3EA, "YI SYLLABLE ", "JUO,JUOP,JOT,JOX,JO,JOP,JUT,JUX,JU,JUP,JURX,JUR,JYT,JYX,JY,JYP,JYRX"⟩,
    ⟨0xA3FB, "YI SYLLABLE ", "JYR,QIT,QIX,QI,QIP,QIET,QIEX,QIE,QIEP,QUOT,QUOX,QUO,QUOP,QOT,QOX"⟩,
    ⟨0xA40A, "YI SYLLABLE ", "QO,QOP,QUT,QUX,QU,QUP,QURX,QUR,QYT,QYX,QY,QYP,QYRX,QYR,JJIT,JJIX"⟩,
    ⟨0xA41A, "YI SYLLABLE ", "JJI,JJIP,JJIET,JJIEX,JJIE,JJIEP,JJUOX,JJUO,JJUOP,JJOT,JJOX,JJO,JJOP"⟩,
    ⟨0xA427, "YI SYLLABLE ", "JJUT,JJUX,JJU,JJUP,JJURX,JJUR,JJYT,JJYX,JJY,JJYP,NJIT,NJIX,NJI,NJIP"⟩,
    ⟨0xA435, "YI SYLLABLE ", "NJIET,NJIEX,NJIE,NJIEP,NJUOX,NJUO,NJOT,NJOX,NJO,NJOP,NJUX,NJU,NJUP"⟩,
    ⟨0xA442, "YI SYLLABLE ", "NJURX,NJUR,NJYT,NJYX,NJY,NJYP,NJYRX,NJYR,NYIT,NYIX,NYI,NYIP,NYIET"⟩,
    ⟨0xA44F, "YI SYLLABLE ", "NYIEX,NYIE,NYIEP,NYUOX,NYUO,NYUOP,NYOT,NYOX,NYO,NYOP,NYUT,NYUX,NYU"⟩,
    ⟨0xA45C, "YI SYLLABLE ", "NYUP,XIT,XIX,XI,XIP,XIET,XIEX,XIE,XIEP,XUOX,XUO,XOT,XOX,XO,XOP,XYT"⟩,
    ⟨0xA46C, "YI SYLLABLE ", "XYX,XY,XYP,XYRX,XYR,YIT,YIX,YI,YIP,YIET,YIEX,YIE,YIEP,YUOT,YUOX,YUO"⟩,
    ⟨0xA47C, "YI SYLLABLE ", "YUOP,YOT,YOX,YO,YOP,YUT,YUX,YU,YUP,YURX,YUR,YYT,YYX,YY,YYP,YYRX,YYR"⟩,
    ⟨0xA490, "YI RADICAL ", "QOT,LI,KIT,NYIP,CYP,SSI"⟩,
    ⟨0xA496, "YI RADICAL ", "GGOP,GEP,MI,HXIT,LYR,BBUT,MOP,YO,PUT,HXUO,TAT,GA,ZUP,CYT,DDUR,BUR"⟩,
    ⟨0xA4A6, "YI RADICAL ", "GGUO,NYOP,TU,OP,JJUT,ZOT,PYT,HMO,YIT,VUR,SHY,VEP,ZA,JO,NZUP,JJY,GOT"⟩,
    ⟨0xA4B7, "YI RADICAL ", "JJIE,WO,DU,SHUR,LIE,CY,CUOP,CIP,HXOP,SHAT,ZUR,SHOP,CHE,ZZIET,NBIE,KE"⟩,
    ⟨0xA4D0, "LISU LETTER ", "BA,PA,PHA,DA,TA,THA,GA,KA,KHA,JA,CA,CHA,DZA,TSA,TSHA,MA,NA,LA"⟩,
    ⟨0xA4E2, "LISU LETTER ", "SA,ZHA,ZA,NGA,HA,XA,HHA,FA,WA,SHA,YA,GHA,A,AE,E,EU,I,O,U,UE,UH,OE"⟩,
    ⟨0xA4F8, "LISU LETTER TONE ", "MYA TI,NA PO,MYA CYA,MYA BO,MYA NA,MYA JEU"⟩,
    ⟨0xA4FE, "LISU PUNCTUATION ", "COMMA,FULL STOP"⟩,
    ⟨0xA500, "VAI SYLLABLE ", "EE,EEN,HEE,WEE,WEEN,PEE,BHEE,BEE,MBEE,KPEE,MGBEE,GBEE"⟩,
    ⟨0xA50C, "VAI SYLLABLE ", "FEE,VEE,TEE,THEE,DHEE,DHHEE,LEE,REE,DEE,NDEE,SEE,SHEE,ZEE,ZHEE"⟩,
    ⟨0xA51A, "VAI SYLLABLE ", "CEE,JEE,NJEE,YEE,KEE,NGGEE,GEE,MEE,NEE,NYEE,I,IN,HI,HIN,WI,WIN,PI"⟩,
    ⟨0xA52B, "VAI SYLLABLE ", "BHI,BI,MBI,KPI,MGBI,GBI,FI,VI,TI,THI,DHI,DHHI,LI,RI,DI,NDI,SI,SHI"⟩,
    ⟨0xA53D, "VAI SYLLABLE ", "ZI,ZHI,CI,JI,NJI,YI,KI,NGGI,GI,MI,NI,NYI,A,AN,NGAN,HA,HAN,WA,WAN"⟩,
    ⟨0xA550, "VAI SYLLABLE ", "PA,BHA,BA,MBA,KPA,KPAN,MGBA,GBA,FA,VA,TA,THA,DHA,DHHA,LA,RA,DA,NDA"⟩,
    ⟨0xA562, "VAI SYLLABLE ", "SA,SHA,ZA,ZHA,CA,JA,NJA,YA,KA,KAN,NGGA,GA,MA,NA,NYA,OO,OON,HOO,WOO"⟩,
    ⟨0xA575, "VAI SYLLABLE ", "WOON,POO,BHOO,BOO,MBOO,KPOO,MGBOO,GBOO,FOO,VOO,TOO,THOO,DHOO,DHHOO"⟩,
    ⟨0xA583, "VAI SYLLABLE ", "LOO,ROO,DOO,NDOO,SOO,SHOO,ZOO,ZHOO,COO,JOO,NJOO,YOO,KOO,NGGOO"⟩,
    ⟨0xA591, "VAI SYLLABLE ", "GOO,MOO,NOO,NYOO,U,UN,HU,HUN,WU,WUN,PU,BHU,BU,MBU,KPU,MGBU,GBU"⟩,
    ⟨0xA5A2, "VAI SYLLABLE ", "FU,VU,TU,THU,DHU,DHHU,LU,RU,DU,NDU,SU,SHU,ZU,ZHU,CU,JU,NJU,YU,KU"⟩,
    ⟨0xA5B5, "VAI SYLLABLE ", "NGGU,GU,MU,NU,NYU,O,ON,NGON,HO,HON,WO,WON,PO,BHO,BO,MBO,KPO,MGBO"⟩,
    ⟨0xA5C7, "VAI SYLLABLE ", "GBO,GBON,FO,VO,TO,THO,DHO,DHHO,LO,RO,DO,NDO,SO,SHO,ZO,ZHO,CO,JO"⟩,
    ⟨0xA5D9, "VAI SYLLABLE ", "NJO,YO,KO,NGGO,GO,MO,NO,NYO,E,EN,NGEN,HE,HEN,WE,WEN,PE,BHE,BE,MBE"⟩,
    ⟨0xA5EC, "VAI SYLLABLE ", "KPE,KPEN,MGBE,GBE,GBEN,FE,VE,TE,THE,DHE,DHHE,LE,RE,DE,NDE,SE,SHE"⟩,
    ⟨0xA5FD, "VAI SYLLABLE ", "ZE,ZHE,CE,JE,NJE,YE,KE,NGGE,NGGEN,GE,GEN,ME,NE,NYE,NG,LENGTHENER"⟩,
    ⟨0xA60D, "VAI ", "COMMA,FULL STOP,QUESTION MARK"⟩,
    ⟨0xA610, "VAI SYLLABLE NDOLE ", "FA,KA,SOO"⟩,
    ⟨0xA613, "VAI SYMBOL ", "FEENG,KEENG,TING,NII,BANG,FAA,TAA,DANG,DOONG,KUNG,TONG,DO-O,JONG"⟩,
    ⟨0xA620, "VAI DIGIT ", "ZERO,ONE,TWO,THREE,FOUR,FIVE,SIX,SEVEN,EIGHT,NINE"⟩,
    ⟨0xA62A, "VAI SYLLABLE NDOLE ", "MA,DO"⟩,
    ⟨0xA640, "CYRILLIC ", "CAPITAL LETTER ZEMLYA,SMALL LETTER ZEMLYA"⟩,
    ⟨0xA642, "CYRILLIC ", "CAPITAL LETTER DZELO,SMALL LETTER DZELO,CAPITAL LETTER REVERSED DZE"⟩,
    ⟨0xA645, "CYRILLIC ", "SMALL LETTER REVERSED DZE,CAPITAL LETTER IOTA,SMALL LETTER IOTA"⟩,
    ⟨0xA648, "CYRILLIC ", "CAPITAL LETTER DJERV,SMALL LETTER DJERV,CAPITAL LETTER MONOGRAPH UK"⟩,
    ⟨0xA64B, "CYRILLIC ", "SMALL LETTER MONOGRAPH UK,CAPITAL LETTER BROAD OMEGA"⟩,
    ⟨0xA64D, "CYRILLIC ", "SMALL LETTER BROAD OMEGA,CAPITAL LETTER NEUTRAL YER"⟩,
    ⟨0xA64F, "CYRILLIC ", "SMALL LETTER NEUTRAL YER,CAPITAL LETTER YERU WITH BACK YER"⟩,
    ⟨0xA651, "CYRILLIC ", "SMALL LETTER YERU WITH BACK YER,CAPITAL LETTER IOTIFIED YAT"⟩,
    ⟨0xA653, "CYRILLIC ", "SMALL LETTER IOTIFIED YAT,CAPITAL LETTER REVERSED YU"⟩,
    ⟨0xA655, "CYRILLIC ", "SMALL LETTER REVERSED YU,CAPITAL LETTER IOTIFIED A"⟩,
    ⟨0xA657, "CYRILLIC ", "SMALL LETTER IOTIFIED A,CAPITAL LETTER CLOSED LITTLE YUS"⟩,
    ⟨0xA659, "CYRILLIC ", "SMALL LETTER CLOSED LITTLE YUS,CAPITAL LETTER BLENDED YUS"⟩,
    ⟨0xA65B, "CYRILLIC ", "SMALL LETTER BLENDED YUS,CAPITAL LETTER IOTIFIED CLOSED LITTLE YUS"⟩,
    ⟨0xA65D, "", "CYRILLIC SMALL LETTER IOTIFIED CLOSED LITTLE YUS"⟩,
    ⟨0xA65E, "CYRILLIC ", "CAPITAL LETTER YN,SMALL LETTER YN,CAPITAL LETTER REVERSED TSE"⟩,
    ⟨0xA661, "CYRILLIC ", "SMALL LETTER REVERSED TSE,CAPITAL LETTER SOFT DE"⟩,
    ⟨0xA663, "CYRILLIC ", "SMALL LETTER SOFT DE,CAPITAL LETTER SOFT EL,SMALL LETTER SOFT EL"⟩,
    ⟨0xA666, "CYRILLIC ", "CAPITAL LETTER SOFT EM,SMALL LETTER SOFT EM,CAPITAL LETTER MONOCULAR O"⟩,
    ⟨0xA669, "CYRILLIC ", "SMALL LETTER MONOCULAR O,CAPITAL LETTER BINOCULAR O"⟩,
    ⟨0xA66B, "CYRILLIC ", "SMALL LETTER BINOCULAR O,CAPITAL LETTER DOUBLE MONOCULAR O"⟩,
    ⟨0xA66D, "CYRILLIC ", "SMALL LETTER DOUBLE MONOCULAR O,LETTER MULTIOCULAR O"⟩,
    ⟨0xA66F, "COMBINING CYRILLIC ", "VZMET,TEN MILLIONS SIGN,HUNDRED MILLIONS SIGN"⟩,
    ⟨0xA672, "", "COMBINING CYRILLIC THOUSAND MILLIONS SIGN,SLAVONIC ASTERISK"⟩,
    ⟨0xA674, "COMBINING CYRILLIC LETTER ", "UKRAINIAN IE,I,YI,U,HARD SIGN,YERU,SOFT SIGN,OMEGA"⟩,
    ⟨0xA67C, "COMBINING CYRILLIC ", "KAVYKA,PAYEROK"⟩,
    ⟨0xA67E, "CYRILLIC ", "KAVYKA,PAYEROK,CAPITAL LETTER DWE,SMALL LETTER DWE,CAPITAL LETTER DZWE"⟩,
    ⟨0xA683, "CYRILLIC ", "SMALL LETTER DZWE,CAPITAL LETTER ZHWE,SMALL LETTER ZHWE"⟩,
    ⟨0xA686, "CYRILLIC ", "CAPITAL LETTER CCHE,SMALL LETTER CCHE,CAPITAL LETTER DZZE"⟩,
    ⟨0xA689, "CYRILLIC ", "SMALL LETTER DZZE,CAPITAL LETTER TE WITH MIDDLE HOOK"⟩,
    ⟨0xA68B, "CYRILLIC ", "SMALL LETTER TE WITH MIDDLE HOOK,CAPITAL LETTER TWE"⟩,
    ⟨0xA68D, "CYRILLIC ", "SMALL LETTER TWE,CAPITAL LETTER TSWE,SMALL LETTER TSWE"⟩,
    ⟨0xA690, "CYRILLIC ", "CAPITAL LETTER TSSE,SMALL LETTER TSSE,CAPITAL LETTER TCHE"⟩,
    ⟨0xA693, "CYRILLIC ", "SMALL LETTER TCHE,CAPITAL LETTER HWE,SMALL LETTER HWE"⟩,
    ⟨0xA696, "CYRILLIC ", "CAPITAL LETTER SHWE,SMALL LETTER SHWE,CAPITAL LETTER DOUBLE O"⟩,
    ⟨0xA699, "CYRILLIC ", "SMALL LETTER DOUBLE O,CAPITAL LETTER CROSSED O,SMALL LETTER CROSSED O"⟩,
    ⟨0xA69C, "MODIFIER LETTER CYRILLIC ", "HARD SIGN,SOFT SIGN"⟩,
    ⟨0xA69E, "COMBINING CYRILLIC LETTER ", "EF,IOTIFIED E"⟩,
    ⟨0xA6A0, "BAMUM LETTER ", "A,KA,U,KU,EE,REE,TAE,O,NYI,I,LA,PA,RII,RIEE,LEEEE,MEEEE,TAA"⟩,
    ⟨0xA6B1, "BAMUM LETTER ", "NDAA,NJAEM,M,SUU,MU,SHII,SI,SHEUX,SEUX,KYEE,KET,NUAE,NU,NJUAE,YOQ"⟩,
    ⟨0xA6C0, "BAMUM LETTER ", "SHU,YUQ,YA,NSHA,KEUX,PEUX,NJEE,NTEE,PUE,WUE,PEE,FEE,RU,LU,MI,NI"⟩,
    ⟨0xA6D0, "BAMUM LETTER ", "REUX,RAE,KEN,NGKWAEN,NGGA,NGA,SHO,PUAE,FU,FOM,WA,NA,LI,PI,LOQ,KO"⟩,
    ⟨0xA6E0, "BAMUM LETTER ", "MBEN,REN,MEN,MA,TI,KI,MO,MBAA,TET,KPA,TEN,NTUU,SAMBA,FAAMAE,KOVUU"⟩,
    ⟨0xA6EF, "BAMUM ", "LETTER KOGHOM,COMBINING MARK KOQNDON,COMBINING MARK TUKWENTIS"⟩,
    ⟨0xA6F2, "BAMUM ", "NJAEMLI,FULL STOP,COLON,COMMA,SEMICOLON,QUESTION MARK"⟩,
    ⟨0xA700, "MODIFIER LETTER CHINESE TONE ", "YIN PING,YANG PING"⟩,
    ⟨0xA702, "MODIFIER LETTER CHINESE TONE ", "YIN SHANG,YANG SHANG,YIN QU,YANG QU,YIN RU,YANG RU"⟩,
    ⟨0xA708, "", "MODIFIER LETTER EXTRA-HIGH DOTTED TONE BAR"⟩,
    ⟨0xA709, "MODIFIER LETTER ", "HIGH DOTTED TONE BAR,MID DOTTED TONE BAR,LOW DOTTED TONE BAR"⟩,
    ⟨0xA70C, "MODIFIER LETTER EXTRA-", "LOW DOTTED TONE BAR,HIGH DOTTED LEFT-STEM TONE BAR"⟩,
    ⟨0xA70E, "", "MODIFIER LETTER HIGH DOTTED LEFT-STEM TONE BAR"⟩,
    ⟨0xA70F, "MODIFIER LETTER ", "MID DOTTED LEFT-STEM TONE BAR,LOW DOTTED LEFT-STEM TONE BAR"⟩,
    ⟨0xA711, "MODIFIER LETTER EXTRA-", "LOW DOTTED LEFT-STEM TONE BAR,HIGH LEFT-STEM TONE BAR"⟩,
    ⟨0xA713, "MODIFIER LETTER ", "HIGH LEFT-STEM TONE BAR,MID LEFT-STEM TONE BAR"⟩,
    ⟨0xA715, "MODIFIER LETTER ", "LOW LEFT-STEM TONE BAR,EXTRA-LOW LEFT-STEM TONE BAR"⟩,
    ⟨0xA717, "MODIFIER LETTER DOT ", "VERTICAL BAR,SLASH,HORIZONTAL BAR"⟩,
    ⟨0xA71A, "MODIFIER LETTER ", "LOWER RIGHT CORNER ANGLE,RAISED UP ARROW"⟩,
    ⟨0xA71C, "MODIFIER LETTER RAISED ", "DOWN ARROW,EXCLAMATION MARK,INVERTED EXCLAMATION MARK"⟩,
    ⟨0xA71F, "MODIFIER LETTER ", "LOW INVERTED EXCLAMATION MARK,STRESS AND HIGH TONE"⟩,
    ⟨0xA721, "", "MODIFIER LETTER STRESS AND LOW TONE,LATIN CAPITAL LETTER EGYPTOLOGICAL ALEF"⟩,
    ⟨0xA723, "LATIN ", "SMALL LETTER EGYPTOLOGICAL ALEF,CAPITAL LETTER EGYPTOLOGICAL AIN"⟩,
    ⟨0xA725, "LATIN ", "SMALL LETTER EGYPTOLOGICAL AIN,CAPITAL LETTER HENG,SMALL LETTER HENG"⟩,
    ⟨0xA728, "LATIN ", "CAPITAL LETTER TZ,SMALL LETTER TZ,CAPITAL LETTER TRESILLO"⟩,
    ⟨0xA72B, "LATIN ", "SMALL LETTER TRESILLO,CAPITAL LETTER CUATRILLO,SMALL LETTER CUATRILLO"⟩,
    ⟨0xA72E, "LATIN ", "CAPITAL LETTER CUATRILLO WITH COMMA,SMALL LETTER CUATRILLO WITH COMMA"⟩,
    ⟨0xA730, "LATIN LETTER SMALL CAPITAL ", "F,S"⟩,
    ⟨0xA732, "LATIN ", "CAPITAL LETTER AA,SMALL LETTER AA"⟩,
    ⟨0xA734, "LATIN ", "CAPITAL LETTER AO,SMALL LETTER AO,CAPITAL LETTER AU,SMALL LETTER AU"⟩,
    ⟨0xA738, "LATIN ", "CAPITAL LETTER AV,SMALL LETTER AV,CAPITAL LETTER AV WITH HORIZONTAL BAR"⟩,
    ⟨0xA73B, "LATIN ", "SMALL LETTER AV WITH HORIZONTAL BAR,CAPITAL LETTER AY,SMALL LETTER AY"⟩,
    ⟨0xA73E, "LATIN ", "CAPITAL LETTER REVERSED C WITH DOT,SMALL LETTER REVERSED C WITH DOT"⟩,
    ⟨0xA740, "LATIN ", "CAPITAL LETTER K WITH STROKE,SMALL LETTER K WITH STROKE"⟩,
    ⟨0xA742, "LATIN ", "CAPITAL LETTER K WITH DIAGONAL STROKE,SMALL LETTER K WITH DIAGONAL STROKE"⟩,
    ⟨0xA744, "", "LATIN CAPITAL LETTER K WITH STROKE AND DIAGONAL STROKE"⟩,
    ⟨0xA745, "LATIN ", "SMALL LETTER K WITH STROKE AND DIAGONAL STROKE,CAPITAL LETTER BROKEN L"⟩,
    ⟨0xA747, "LATIN ", "SMALL LETTER BROKEN L,CAPITAL LETTER L WITH HIGH STROKE"⟩,
    ⟨0xA749, "LATIN ", "SMALL LETTER L WITH HIGH STROKE,CAPITAL LETTER O WITH LONG STROKE OVERLAY"⟩,
    ⟨0xA74B, "", "LATIN SMALL LETTER O WITH LONG STROKE OVERLAY"⟩,
    ⟨0xA74C, "LATIN ", "CAPITAL LETTER O WITH LOOP,SMALL LETTER O WITH LOOP,CAPITAL LETTER OO"⟩,
    ⟨0xA74F, "LATIN ", "SMALL LETTER OO,CAPITAL LETTER P WITH STROKE THROUGH DESCENDER"⟩,
    ⟨0xA751, "", "LATIN SMALL LETTER P WITH STROKE THROUGH DESCENDER"⟩,
    ⟨0xA752, "LATIN ", "CAPITAL LETTER P WITH FLOURISH,SMALL LETTER P WITH FLOURISH"⟩,
    ⟨0xA754, "LATIN ", "CAPITAL LETTER P WITH SQUIRREL TAIL,SMALL LETTER P WITH SQUIRREL TAIL"⟩,
    ⟨0xA756, "", "LATIN CAPITAL LETTER Q WITH STROKE THROUGH DESCENDER"⟩,
    ⟨0xA757, "", "LATIN SMALL LETTER Q WITH STROKE THROUGH DESCENDER"⟩,
    ⟨0xA758, "", "LATIN CAPITAL LETTER Q WITH DIAGONAL STROKE"⟩,
    ⟨0xA759, "LATIN ", "SMALL LETTER Q WITH DIAGONAL STROKE,CAPITAL LETTER R ROTUNDA"⟩,
    ⟨0xA75B, "LATIN ", "SMALL LETTER R ROTUNDA,CAPITAL LETTER RUM ROTUNDA"⟩,
    ⟨0xA75D, "LATIN ", "SMALL LETTER RUM ROTUNDA,CAPITAL LETTER V WITH DIAGONAL STROKE"⟩,
    ⟨0xA75F, "LATIN ", "SMALL LETTER V WITH DIAGONAL STROKE,CAPITAL LETTER VY"⟩,
    ⟨0xA761, "LATIN ", "SMALL LETTER VY,CAPITAL LETTER VISIGOTHIC Z,SMALL LETTER VISIGOTHIC Z"⟩,
    ⟨0xA764, "LATIN ", "CAPITAL LETTER THORN WITH STROKE,SMALL LETTER THORN WITH STROKE"⟩,
    ⟨0xA766, "", "LATIN CAPITAL LETTER THORN WITH STROKE THROUGH DESCENDER"⟩,
    ⟨0xA767, "", "LATIN SMALL LETTER THORN WITH STROKE THROUGH DESCENDER"⟩,
    ⟨0xA768, "LATIN ", "CAPITAL LETTER VEND,SMALL LETTER VEND,CAPITAL LETTER ET,SMALL LETTER ET"⟩,
    ⟨0xA76C, "LATIN ", "CAPITAL LETTER IS,SMALL LETTER IS,CAPITAL LETTER CON,SMALL LETTER CON"⟩,
    ⟨0xA770, "", "MODIFIER LETTER US"⟩,
    ⟨0xA771, "LATIN SMALL LETTER ", "DUM,LUM,MUM,NUM,RUM"⟩,
    ⟨0xA776, "LATIN ", "LETTER SMALL CAPITAL RUM,SMALL LETTER TUM"⟩,
    ⟨0xA778, "LATIN ", "SMALL LETTER UM,CAPITAL LETTER INSULAR D,SMALL LETTER INSULAR D"⟩,
    ⟨0xA77B, "LATIN ", "CAPITAL LETTER INSULAR F,SMALL LETTER INSULAR F,CAPITAL LETTER INSULAR G"⟩,
    ⟨0xA77E, "LATIN ", "CAPITAL LETTER TURNED INSULAR G,SMALL LETTER TURNED INSULAR G"⟩,
    ⟨0xA780, "LATIN ", "CAPITAL LETTER TURNED L,SMALL LETTER TURNED L"⟩,
    ⟨0xA782, "LATIN ", "CAPITAL LETTER INSULAR R,SMALL LETTER INSULAR R,CAPITAL LETTER INSULAR S"⟩,
    ⟨0xA785, "LATIN ", "SMALL LETTER INSULAR S,CAPITAL LETTER INSULAR T,SMALL LETTER INSULAR T"⟩,
    ⟨0xA788, "MODIFIER LETTER ", "LOW CIRCUMFLEX ACCENT,COLON,SHORT EQUALS SIGN"⟩,
    ⟨0xA78B, "LATIN ", "CAPITAL LETTER SALTILLO,SMALL LETTER SALTILLO"⟩,
    ⟨0xA78D, "LATIN ", "CAPITAL LETTER TURNED H,SMALL LETTER L WITH RETROFLEX HOOK AND BELT"⟩,
    ⟨0xA78F, "LATIN ", "LETTER SINOLOGICAL DOT,CAPITAL LETTER N WITH DESCENDER"⟩,
    ⟨0xA791, "LATIN ", "SMALL LETTER N WITH DESCENDER,CAPITAL LETTER C WITH BAR"⟩,
    ⟨0xA793, "LATIN SMALL LETTER ", "C WITH BAR,C WITH PALATAL HOOK,H WITH PALATAL HOOK"⟩,
    ⟨0xA796, "", "LATIN CAPITAL LETTER B WITH FLOURISH"⟩,
    ⟨0xA797, "LATIN ", "SMALL LETTER B WITH FLOURISH,CAPITAL LETTER F WITH STROKE"⟩,
    ⟨0xA799, "LATIN ", "SMALL LETTER F WITH STROKE,CAPITAL LETTER VOLAPUK AE"⟩,
    ⟨0xA79B, "LATIN ", "SMALL LETTER VOLAPUK AE,CAPITAL LETTER VOLAPUK OE"⟩,
    ⟨0xA79D, "LATIN ", "SMALL LETTER VOLAPUK OE,CAPITAL LETTER VOLAPUK UE,SMALL LETTER VOLAPUK UE"⟩,
    ⟨0xA7A0, "LATIN ", "CAPITAL LETTER G WITH OBLIQUE STROKE,SMALL LETTER G WITH OBLIQUE STROKE"⟩,
    ⟨0xA7A2, "LATIN ", "CAPITAL LETTER K WITH OBLIQUE STROKE,SMALL LETTER K WITH OBLIQUE STROKE"⟩,
    ⟨0xA7A4, "LATIN ", "CAPITAL LETTER N WITH OBLIQUE STROKE,SMALL LETTER N WITH OBLIQUE STROKE"⟩,
    ⟨0xA7A6, "LATIN ", "CAPITAL LETTER R WITH OBLIQUE STROKE,SMALL LETTER R WITH OBLIQUE STROKE"⟩,
    ⟨0xA7A8, "LATIN ", "CAPITAL LETTER S WITH OBLIQUE STROKE,SMALL LETTER S WITH OBLIQUE STROKE"⟩,
    ⟨0xA7AA, "LATIN CAPITAL LETTER ", "H WITH HOOK,REVERSED OPEN E,SCRIPT G,L WITH BELT"⟩,
    ⟨0xA7AE, "LATIN ", "CAPITAL LETTER SMALL CAPITAL I,LETTER SMALL CAPITAL Q"⟩,
    ⟨0xA7B0, "LATIN CAPITAL LETTER ", "TURNED K,TURNED T,J WITH CROSSED-TAIL,CHI,BETA"⟩,
    ⟨0xA7B5, "LATIN ", "SMALL LETTER BETA,CAPITAL LETTER OMEGA,SMALL LETTER OMEGA"⟩,
    ⟨0xA7B8, "LATIN ", "CAPITAL LETTER U WITH STROKE,SMALL LETTER U WITH STROKE"⟩,
    ⟨0xA7BA, "LATIN ", "CAPITAL LETTER GLOTTAL A,SMALL LETTER GLOTTAL A,CAPITAL LETTER GLOTTAL I"⟩,
    ⟨0xA7BD, "LATIN ", "SMALL LETTER GLOTTAL I,CAPITAL LETTER GLOTTAL U,SMALL LETTER GLOTTAL U"⟩,
    ⟨0xA7C0, "LATIN ", "CAPITAL LETTER OLD POLISH O,SMALL LETTER OLD POLISH O"⟩,
    ⟨0xA7C2, "LATIN ", "CAPITAL LETTER ANGLICANA W,SMALL LETTER ANGLICANA W"⟩,
    ⟨0xA7C4, "LATIN CAPITAL LETTER ", "C WITH PALATAL HOOK,S WITH HOOK"⟩,
    ⟨0xA7C6, "LATIN CAPITAL LETTER ", "Z WITH PALATAL HOOK,D WITH SHORT STROKE OVERLAY"⟩,
    ⟨0xA7C8, "", "LATIN SMALL LETTER D WITH SHORT STROKE OVERLAY"⟩,
    ⟨0xA7C9, "", "LATIN CAPITAL LETTER S WITH SHORT STROKE OVERLAY"⟩,
    ⟨0xA7CA, "", "LATIN SMALL LETTER S WITH SHORT STROKE OVERLAY"⟩,
    ⟨0xA7D0, "LATIN ", "CAPITAL LETTER CLOSED INSULAR G,SMALL LETTER CLOSED INSULAR G"⟩,
    ⟨0xA7D3, "", "LATIN SMALL LETTER DOUBLE THORN"⟩,
    ⟨0xA7D5, "", "LATIN SMALL LETTER DOUBLE WYNN"⟩,
    ⟨0xA7D6, "LATIN ", "CAPITAL LETTER MIDDLE SCOTS S,SMALL LETTER MIDDLE SCOTS S"⟩,
    ⟨0xA7D8, "LATIN ", "CAPITAL LETTER SIGMOID S,SMALL LETTER SIGMOID S"⟩,
    ⟨0xA7F2, "MODIFIER LETTER CAPITAL ", "C,F,Q"⟩,
    ⟨0xA7F5, "LATIN ", "CAPITAL LETTER REVERSED HALF H,SMALL LETTER REVERSED HALF H"⟩,
    ⟨0xA7F7, "", "LATIN EPIGRAPHIC LETTER SIDEWAYS I,MODIFIER LETTER CAPITAL H WITH STROKE"⟩,
    ⟨0xA7F9, "", "MODIFIER LETTER SMALL LIGATURE OE,LATIN LETTER SMALL CAPITAL TURNED M"⟩,
    ⟨0xA7FB, "LATIN EPIGRAPHIC LETTER ", "REVERSED F,REVERSED P,INVERTED M,I LONGA,ARCHAIC M"⟩,
    ⟨0xA800, "SYLOTI NAGRI LETTER ", "A,I"⟩,
    ⟨0xA802, "SYLOTI NAGRI ", "SIGN DVISVARA,LETTER U,LETTER E,LETTER O,SIGN HASANTA"⟩,
    ⟨0xA807, "SYLOTI NAGRI ", "LETTER KO,LETTER KHO,LETTER GO,LETTER GHO,SIGN ANUSVARA"⟩,
    ⟨0xA80C, "SYLOTI NAGRI LETTER ", "CO,CHO,JO,JHO,TTO,TTHO"⟩,
    ⟨0xA812, "SYLOTI NAGRI LETTER ", "DDO,DDHO,TO,THO,DO,DHO,NO,PO,PHO,BO,BHO,MO,RO,LO,RRO,SO,HO"⟩,
    ⟨0xA823, "SYLOTI NAGRI VOWEL SIGN ", "A,I,U,E,OO"⟩,
    ⟨0xA828, "SYLOTI NAGRI POETRY MARK-", "1,2,3,4"⟩,
    ⟨0xA82C, "", "SYLOTI NAGRI SIGN ALTERNATE HASANTA"⟩,
    ⟨0xA830, "NORTH INDIC FRACTION ONE ", "QUARTER,HALF"⟩,
    ⟨0xA832, "NORTH INDIC FRACTION ", "THREE QUARTERS,ONE SIXTEENTH,ONE EIGHTH,THREE SIXTEENTHS"⟩,
    ⟨0xA836, "NORTH INDIC ", "QUARTER MARK,PLACEHOLDER MARK,RUPEE MARK,QUANTITY MARK"⟩,
    ⟨0xA840, "PHAGS-PA LETTER ", "KA,KHA,GA,NGA,CA,CHA,JA,NYA,TA,THA,DA,NA,PA,PHA,BA,MA,TSA,TSHA"⟩,
    ⟨0xA852, "PHAGS-PA LETTER ", "DZA,WA,ZHA,ZA,SMALL A,YA,RA,LA,SHA,SA,HA,A,I,U,E,O,QA,XA,FA,GGA"⟩,
    ⟨0xA866, "PHAGS-PA ", "LETTER EE,SUBJOINED LETTER WA,SUBJOINED LETTER YA,LETTER TTA"⟩,
    ⟨0xA86A, "PHAGS-PA LETTER ", "TTHA,DDA,NNA,ALTERNATE YA,VOICELESS SHA,VOICED HA,ASPIRATED FA"⟩,
    ⟨0xA871, "PHAGS-PA ", "SUBJOINED LETTER RA,SUPERFIXED LETTER RA,LETTER CANDRABINDU"⟩,
    ⟨0xA874, "PHAGS-PA ", "SINGLE HEAD MARK,DOUBLE HEAD MARK,MARK SHAD,MARK DOUBLE SHAD"⟩,
    ⟨0xA880, "SAURASHTRA SIGN ", "ANUSVARA,VISARGA"⟩,
    ⟨0xA882, "SAURASHTRA LETTER ", "A,AA,I,II,U,UU,VOCALIC R,VOCALIC RR,VOCALIC L,VOCALIC LL,E,EE"⟩,
    ⟨0xA88E, "SAURASHTRA LETTER ", "AI,O,OO,AU,KA,KHA,GA,GHA,NGA,CA,CHA,JA,JHA,NYA,TTA,TTHA,DDA"⟩,
    ⟨0xA89F, "SAURASHTRA LETTER ", "DDHA,NNA,TA,THA,DA,DHA,NA,PA,PHA,BA,BHA,MA,YA,RA,LA,VA,SHA"⟩,
    ⟨0xA8B0, "SAURASHTRA ", "LETTER SSA,LETTER SA,LETTER HA,LETTER LLA,CONSONANT SIGN HAARU"⟩,
    ⟨0xA8B5, "SAURASHTRA VOWEL SIGN ", "AA,I,II,U,UU"⟩,
    ⟨0xA8BA, "SAURASHTRA VOWEL SIGN ", "VOCALIC R,VOCALIC RR,VOCALIC L,VOCALIC LL,E,EE,AI,O,OO,AU"⟩,
    ⟨0xA8C4, "SAURASHTRA SIGN ", "VIRAMA,CANDRABINDU"⟩,
    ⟨0xA8CE, "SAURASHTRA ", "DANDA,DOUBLE DANDA"⟩,
    ⟨0xA8D0, "SAURASHTRA DIGIT ", "ZERO,ONE,TWO,THREE,FOUR,FIVE,SIX,SEVEN,EIGHT,NINE"⟩,
    ⟨0xA8E0, "COMBINING DEVANAGARI DIGIT ", "ZERO,ONE,TWO,THREE,FOUR,FIVE,SIX,SEVEN,EIGHT,NINE"⟩,
    ⟨0xA8EA, "COMBINING DEVANAGARI LETTER ", "A,U,KA,NA,PA,RA,VI"⟩,
    ⟨0xA8F1, "", "COMBINING DEVANAGARI SIGN AVAGRAHA,DEVANAGARI SIGN SPACING CANDRABINDU"⟩,
    ⟨0xA8F3, "DEVANAGARI SIGN ", "CANDRABINDU VIRAMA,DOUBLE CANDRABINDU VIRAMA"⟩,
    ⟨0xA8F5, "DEVANAGARI SIGN CANDRABINDU ", "TWO,THREE,AVAGRAHA"⟩,
    ⟨0xA8F8, "DEVANAGARI ", "SIGN PUSHPIKA,GAP FILLER"⟩,
    ⟨0xA8FA, "DEVANAGARI ", "CARET,HEADSTROKE,SIGN SIDDHAM,JAIN OM,LETTER AY,VOWEL SIGN AY"⟩,
    ⟨0xA900, "KAYAH LI DIGIT ", "ZERO,ONE,TWO,THREE,FOUR,FIVE,SIX,SEVEN,EIGHT,NINE"⟩,
    ⟨0xA90A, "KAYAH LI LETTER ", "KA,KHA,GA,NGA,SA,SHA,ZA,NYA"⟩,
    ⟨0xA912, "KAYAH LI LETTER ", "TA,HTA,NA,PA,PHA,MA,DA,BA,RA,YA,LA,WA,THA,HA,VA,CA,A,OE,I,OO"⟩,
    ⟨0xA926, "KAYAH LI VOWEL ", "UE,E,U,EE,O"⟩,
    ⟨0xA92B, "KAYAH LI ", "TONE PLOPHU,TONE CALYA,TONE CALYA PLOPHU,SIGN CWI,SIGN SHYA"⟩,
    ⟨0xA930, "REJANG LETTER ", "KA,GA,NGA"⟩,
    ⟨0xA933, "REJANG LETTER ", "TA,DA,NA,PA,BA,MA,CA,JA,NYA,SA,RA,LA,YA,WA,HA,MBA,NGGA,NDA,NYJA,A"⟩,
    ⟨0xA947, "REJANG VOWEL SIGN ", "I,U,E,AI,O,AU,EU,EA"⟩,
    ⟨0xA94F, "REJANG CONSONANT SIGN ", "NG,N,R,H"⟩,
    ⟨0xA953, "", "REJANG VIRAMA"⟩,
    ⟨0xA95F, "", "REJANG SECTION MARK"⟩,
    ⟨0xA960, "HANGUL CHOSEONG TIKEUT-", "MIEUM,PIEUP,SIOS,CIEUC"⟩,
    ⟨0xA964, "HANGUL CHOSEONG RIEUL-", "KIYEOK,SSANGKIYEOK,TIKEUT,SSANGTIKEUT"⟩,
    ⟨0xA968, "HANGUL CHOSEONG RIEUL-", "MIEUM,PIEUP,SSANGPIEUP,KAPYEOUNPIEUP,SIOS,CIEUC,KHIEUKH"⟩,
    ⟨0xA96F, "HANGUL CHOSEONG MIEUM-", "KIYEOK,TIKEUT,SIOS"⟩,
    ⟨0xA972, "HANGUL CHOSEONG PIEUP-", "SIOS-THIEUTH,KHIEUKH,HIEUH"⟩,
    ⟨0xA975, "HANGUL CHOSEONG ", "SSANGSIOS-PIEUP,IEUNG-RIEUL,IEUNG-HIEUH,SSANGCIEUC-HIEUH"⟩,
    ⟨0xA979, "HANGUL CHOSEONG ", "SSANGTHIEUTH,PHIEUPH-HIEUH,HIEUH-SIOS,SSANGYEORINHIEUH"⟩,
    ⟨0xA980, "JAVANESE SIGN ", "PANYANGGA,CECAK,LAYAR,WIGNYAN"⟩,
    ⟨0xA984, "JAVANESE LETTER ", "A,I KAWI,I,II,U,PA CEREK,NGA LELET,NGA LELET RASWADI"⟩,
    ⟨0xA98C, "JAVANESE LETTER ", "E,AI,O,KA,KA SASAK,KA MURDA,GA,GA MURDA,NGA,CA,CA MURDA,JA"⟩,
    ⟨0xA998, "JAVANESE LETTER ", "NYA MURDA,JA MAHAPRANA,NYA,TTA,TTA MAHAPRANA,DDA,DDA MAHAPRANA"⟩,
    ⟨0xA99F, "JAVANESE LETTER ", "NA MURDA,TA,TA MURDA,DA,DA MAHAPRANA,NA,PA,PA MURDA"⟩,
    ⟨0xA9A7, "JAVANESE LETTER ", "BA,BA MURDA,MA,YA,RA,RA AGUNG,LA,WA,SA MURDA,SA MAHAPRANA,SA,HA"⟩,
    ⟨0xA9B3, "JAVANESE ", "SIGN CECAK TELU,VOWEL SIGN TARUNG,VOWEL SIGN TOLONG"⟩,
    ⟨0xA9B6, "JAVANESE VOWEL SIGN ", "WULU,WULU MELIK,SUKU,SUKU MENDUT,TALING,DIRGA MURE,PEPET"⟩,
    ⟨0xA9BD, "JAVANESE CONSONANT SIGN ", "KERET,PENGKAL,CAKRA"⟩,
    ⟨0xA9C0, "JAVANESE ", "PANGKON,LEFT RERENGGAN,RIGHT RERENGGAN"⟩,
    ⟨0xA9C3, "JAVANESE PADA ", "ANDAP,MADYA,LUHUR,WINDU,PANGKAT,LINGSA,LUNGSI,ADEG,ADEG ADEG"⟩,
    ⟨0xA9CC, "JAVANESE ", "PADA PISELEH,TURNED PADA PISELEH"⟩,
    ⟨0xA9CF, "", "JAVANESE PANGRANGKEP"⟩,
    ⟨0xA9D0, "JAVANESE DIGIT ", "ZERO,ONE,TWO,THREE,FOUR,FIVE,SIX,SEVEN,EIGHT,NINE"⟩,
    ⟨0xA9DE, "JAVANESE PADA ", "TIRTA TUMETES,ISEN-ISEN"⟩,
    ⟨0xA9E0, "MYANMAR LETTER SHAN ", "GHA,CHA,JHA,NNA,BHA"⟩,
    ⟨0xA9E5, "MYANMAR ", "SIGN SHAN SAW,MODIFIER LETTER SHAN REDUPLICATION"⟩,
    ⟨0xA9E7, "MYANMAR LETTER TAI LAING ", "NYA,FA,GA,GHA,JA,JHA,DDA,DDHA,NNA"⟩,
    ⟨0xA9F0, "MYANMAR TAI LAING DIGIT ", "ZERO,ONE,TWO,THREE,FOUR,FIVE,SIX,SEVEN,EIGHT,NINE"⟩,
    ⟨0xA9FA, "MYANMAR LETTER TAI LAING ", "LLA,DA,DHA,BA,BHA"⟩,
    ⟨0xAA00, "CHAM LETTER ", "A,I,U,E"⟩,
    ⟨0xAA04, "CHAM LETTER ", "AI,O,KA,KHA,GA,GHA,NGUE,NGA,CHA,CHHA,JA,JHA,NHUE,NHA,NHJA,TA,THA,DA"⟩,
    ⟨0xAA16, "CHAM LETTER ", "DHA,NUE,NA,DDA,PA,PPA,PHA,BA,BHA,MUE,MA,BBA,YA,RA,LA,VA,SSA,SA,HA"⟩,
    ⟨0xAA29, "CHAM VOWEL SIGN ", "AA,I,II,EI,U,OE,O,AI,AU,UE"⟩,
    ⟨0xAA33, "CHAM CONSONANT SIGN ", "YA,RA,LA,WA"⟩,
    ⟨0xAA40, "CHAM ", "LETTER FINAL K,LETTER FINAL G,LETTER FINAL NG,CONSONANT SIGN FINAL NG"⟩,
    ⟨0xAA44, "CHAM LETTER FINAL ", "CH,T,N,P,Y,R,L,SS"⟩,
    ⟨0xAA4C, "CHAM CONSONANT SIGN FINAL ", "M,H"⟩,
    ⟨0xAA50, "CHAM DIGIT ", "ZERO,ONE,TWO,THREE,FOUR,FIVE,SIX,SEVEN,EIGHT,NINE"⟩,
    ⟨0xAA5C, "CHAM PUNCTUATION ", "SPIRAL,DANDA,DOUBLE DANDA,TRIPLE DANDA"⟩,
    ⟨0xAA60, "MYANMAR LETTER KHAMTI ", "GA,CA,CHA,JA,JHA,NYA,TTA,TTHA,DDA,DDHA,DHA,NA,SA,HA,HHA"⟩,
    ⟨0xAA6F, "MYANMAR ", "LETTER KHAMTI FA,MODIFIER LETTER KHAMTI REDUPLICATION"⟩,
    ⟨0xAA71, "MYANMAR LETTER KHAMTI ", "XA,ZA,RA"⟩,
    ⟨0xAA74, "MYANMAR LOGOGRAM KHAMTI ", "OAY,QN,HM"⟩,
    ⟨0xAA77, "MYANMAR SYMBOL AITON ", "EXCLAMATION,ONE,TWO"⟩,
    ⟨0xAA7A, "MYANMAR ", "LETTER AITON RA,SIGN PAO KAREN TONE,SIGN TAI LAING TONE-2"⟩,
    ⟨0xAA7D, "MYANMAR ", "SIGN TAI LAING TONE-5,LETTER SHWE PALAUNG CHA,LETTER SHWE PALAUNG SHA"⟩,
    ⟨0xAA80, "", "TAI VIET LETTER LOW KO"⟩,
    ⟨0xAA81, "TAI VIET LETTER ", "HIGH KO,LOW KHO,HIGH KHO,LOW KHHO,HIGH KHHO,LOW GO,HIGH GO"⟩,
    ⟨0xAA88, "TAI VIET LETTER ", "LOW NGO,HIGH NGO,LOW CO,HIGH CO,LOW CHO,HIGH CHO,LOW SO,HIGH SO"⟩,
    ⟨0xAA90, "TAI VIET LETTER ", "LOW NYO,HIGH NYO,LOW DO,HIGH DO,LOW TO,HIGH TO,LOW THO,HIGH THO"⟩,
    ⟨0xAA98, "TAI VIET LETTER ", "LOW NO,HIGH NO,LOW BO,HIGH BO,LOW PO,HIGH PO,LOW PHO,HIGH PHO"⟩,
    ⟨0xAAA0, "TAI VIET LETTER ", "LOW FO,HIGH FO,LOW MO,HIGH MO,LOW YO,HIGH YO,LOW RO,HIGH RO"⟩,
    ⟨0xAAA8, "TAI VIET LETTER ", "LOW LO,HIGH LO,LOW VO,HIGH VO,LOW HO,HIGH HO,LOW O,HIGH O"⟩,
    ⟨0xAAB0, "TAI VIET ", "MAI KANG,VOWEL AA,VOWEL I,VOWEL UE,VOWEL U,VOWEL E,VOWEL O,MAI KHIT"⟩,
    ⟨0xAAB8, "TAI VIET VOWEL ", "IA,UEA,UA,AUE,AY,AN,AM"⟩,
    ⟨0xAABF, "TAI VIET TONE MAI ", "EK,NUENG,THO,SONG"⟩,
    ⟨0xAADB, "TAI VIET SYMBOL ", "KON,NUENG,SAM,HO HOI,KOI KOI"⟩,
    ⟨0xAAE0, "MEETEI MAYEK LETTER ", "E,O,CHA,NYA,TTA,TTHA,DDA,DDHA,NNA,SHA,SSA"⟩,
    ⟨0xAAEB, "MEETEI MAYEK VOWEL SIGN ", "II,UU,AAI,AU,AAU"⟩,
    ⟨0xAAF0, "MEETEI MAYEK ", "CHEIKHAN,AHANG KHUDAM,ANJI,SYLLABLE REPETITION MARK"⟩,
    ⟨0xAAF4, "MEETEI MAYEK ", "WORD REPETITION MARK,VOWEL SIGN VISARGA,VIRAMA"⟩,
    ⟨0xAB01, "ETHIOPIC SYLLABLE ", "TTHU,TTHI,TTHAA,TTHEE,TTHE,TTHO"⟩,
    ⟨0xAB09, "ETHIOPIC SYLLABLE ", "DDHU,DDHI,DDHAA,DDHEE,DDHE,DDHO"⟩,
    ⟨0xAB11, "ETHIOPIC SYLLABLE ", "DZU,DZI,DZAA,DZEE,DZE,DZO"⟩,
    ⟨0xAB20, "ETHIOPIC SYLLABLE ", "CCHHA,CCHHU,CCHHI,CCHHAA,CCHHEE,CCHHE,CCHHO"⟩,
    ⟨0xAB28, "ETHIOPIC SYLLABLE ", "BBA,BBU,BBI,BBAA,BBEE,BBE,BBO"⟩,
    ⟨0xAB30, "LATIN SMALL LETTER ", "BARRED ALPHA,A REVERSED-SCHWA,BLACKLETTER E"⟩,
    ⟨0xAB33, "LATIN SMALL LETTER ", "BARRED E,E WITH FLOURISH,LENIS F,SCRIPT G WITH CROSSED-TAIL"⟩,
    ⟨0xAB37, "LATIN SMALL LETTER L WITH ", "INVERTED LAZY S,DOUBLE MIDDLE TILDE,MIDDLE RING"⟩,
    ⟨0xAB3A, "", "LATIN SMALL LETTER M WITH CROSSED-TAIL"⟩,
    ⟨0xAB3B, "LATIN SMALL LETTER ", "N WITH CROSSED-TAIL,ENG WITH CROSSED-TAIL,BLACKLETTER O"⟩,
    ⟨0xAB3E, "LATIN SMALL LETTER ", "BLACKLETTER O WITH STROKE,OPEN O WITH STROKE,INVERTED OE"⟩,
    ⟨0xAB41, "LATIN SMALL LETTER TURNED OE WITH ", "STROKE,HORIZONTAL STROKE"⟩,
    ⟨0xAB43, "LATIN SMALL LETTER ", "TURNED O OPEN-O,TURNED O OPEN-O WITH STROKE,STIRRUP R"⟩,
    ⟨0xAB46, "LATIN ", "LETTER SMALL CAPITAL R WITH RIGHT LEG,SMALL LETTER R WITHOUT HANDLE"⟩,
    ⟨0xAB48, "LATIN SMALL LETTER ", "DOUBLE R,R WITH CROSSED-TAIL,DOUBLE R WITH CROSSED-TAIL"⟩,
    ⟨0xAB4B, "LATIN SMALL LETTER ", "SCRIPT R,SCRIPT R WITH RING,BASELINE ESH"⟩,
    ⟨0xAB4E, "LATIN SMALL LETTER U ", "WITH SHORT RIGHT LEG,BAR WITH SHORT RIGHT LEG"⟩,
    ⟨0xAB50, "LATIN SMALL LETTER ", "UI,TURNED UI,U WITH LEFT HOOK,CHI,CHI WITH LOW RIGHT RING"⟩,
    ⟨0xAB55, "LATIN SMALL LETTER ", "CHI WITH LOW LEFT SERIF,X WITH LOW RIGHT RING"⟩,
    ⟨0xAB57, "LATIN SMALL LETTER X WITH LONG LEFT ", "LEG,LEG AND LOW RIGHT RING,LEG WITH SERIF"⟩,
    ⟨0xAB5A, "", "LATIN SMALL LETTER Y WITH SHORT RIGHT LEG,MODIFIER BREVE WITH INVERTED BREVE"⟩,
    ⟨0xAB5C, "MODIFIER LETTER SMALL ", "HENG,L WITH INVERTED LAZY S"⟩,
    ⟨0xAB5E, "MODIFIER LETTER SMALL ", "L WITH MIDDLE TILDE,U WITH LEFT HOOK"⟩,
    ⟨0xAB60, "LATIN SMALL LETTER ", "SAKHA YAT,IOTIFIED E,OPEN OE,UO,INVERTED ALPHA"⟩,
    ⟨0xAB65, "", "GREEK LETTER SMALL CAPITAL OMEGA"⟩,
    ⟨0xAB66, "", "LATIN SMALL LETTER DZ DIGRAPH WITH RETROFLEX HOOK"⟩,
    ⟨0xAB67, "LATIN SMALL LETTER ", "TS DIGRAPH WITH RETROFLEX HOOK,TURNED R WITH MIDDLE TILDE"⟩,
    ⟨0xAB69, "MODIFIER LETTER ", "SMALL TURNED W,LEFT TACK,RIGHT TACK"⟩,
    ⟨0xAB70, "CHEROKEE SMALL LETTER ", "A,E,I,O,U,V,GA,KA,GE,GI"⟩,
    ⟨0xAB7A, "CHEROKEE SMALL LETTER ", "GO,GU,GV,HA,HE,HI,HO,HU,HV,LA,LE,LI,LO,LU,LV,MA,ME,MI,MO"⟩,
    ⟨0xAB8D, "CHEROKEE SMALL LETTER ", "MU,NA,HNA,NAH,NE,NI,NO,NU,NV,QUA,QUE,QUI,QUO,QUU,QUV,SA,S"⟩,
    ⟨0xAB9E, "CHEROKEE SMALL LETTER ", "SE,SI,SO,SU,SV,DA,TA,DE,TE,DI,TI,DO,DU,DV,DLA,TLA,TLE,TLI"⟩,
    ⟨0xABB0, "CHEROKEE SMALL LETTER ", "TLO,TLU,TLV,TSA,TSE,TSI,TSO,TSU,TSV,WA,WE,WI,WO,WU,WV,YA"⟩,
    ⟨0xABC0, "MEETEI MAYEK LETTER ", "KOK,SAM,LAI,MIT,PA,NA,CHIL,TIL"⟩,
    ⟨0xABC8, "MEETEI MAYEK LETTER ", "KHOU,NGOU,THOU,WAI,YANG,HUK,UN,I,PHAM,ATIYA,GOK,JHAM,RAI"⟩,
    ⟨0xABD5, "MEETEI MAYEK LETTER ", "BA,JIL,DIL,GHOU,DHOU,BHAM,KOK LONSUM,LAI LONSUM,MIT LONSUM"⟩,
    ⟨0xABDE, "MEETEI MAYEK LETTER ", "PA LONSUM,NA LONSUM,TIL LONSUM,NGOU LONSUM,I LONSUM"⟩,
    ⟨0xABE3, "MEETEI MAYEK VOWEL SIGN ", "ONAP,INAP,ANAP,YENAP,SOUNAP,UNAP,CHEINAP,NUNG"⟩,
    ⟨0xABEB, "MEETEI MAYEK ", "CHEIKHEI,LUM IYEK,APUN IYEK"⟩,
    ⟨0xABF0, "MEETEI MAYEK DIGIT ", "ZERO,ONE,TWO,THREE,FOUR,FIVE,SIX,SEVEN,EIGHT,NINE"⟩
  ]

end MemoryAtlas.Text.Name
