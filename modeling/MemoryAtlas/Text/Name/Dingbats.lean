import MemoryAtlas.Text.Characters

/-!
Names of pictures, arrows, further letters and radicals, from U+2600 to U+2FFF.
-/

namespace MemoryAtlas.Text.Name

def dingbats : List Block :=
  [
    ⟨0x2600, "", "BLACK SUN WITH RAYS,CLOUD,UMBRELLA,SNOWMAN,COMET"⟩,
    ⟨0x2605, "", "BLACK STAR,WHITE STAR,LIGHTNING,THUNDERSTORM,SUN,ASCENDING NODE,DESCENDING NODE"⟩,
    ⟨0x260C, "", "CONJUNCTION,OPPOSITION,BLACK TELEPHONE,WHITE TELEPHONE,BALLOT BOX"⟩,
    ⟨0x2611, "BALLOT BOX WITH ", "CHECK,X"⟩,
    ⟨0x2613, "", "SALTIRE,UMBRELLA WITH RAIN DROPS,HOT BEVERAGE,WHITE SHOGI PIECE"⟩,
    ⟨0x2617, "", "BLACK SHOGI PIECE,SHAMROCK,REVERSED ROTATED FLORAL HEART BULLET"⟩,
    ⟨0x261A, "", "BLACK LEFT POINTING INDEX,BLACK RIGHT POINTING INDEX,WHITE LEFT POINTING INDEX"⟩,
    ⟨0x261D, "WHITE ", "UP POINTING INDEX,RIGHT POINTING INDEX,DOWN POINTING INDEX"⟩,
    ⟨0x2620, "", "SKULL AND CROSSBONES,CAUTION SIGN,RADIOACTIVE SIGN,BIOHAZARD SIGN,CADUCEUS,ANKH"⟩,
    ⟨0x2626, "", "ORTHODOX CROSS,CHI RHO,CROSS OF LORRAINE,CROSS OF JERUSALEM,STAR AND CRESCENT"⟩,
    ⟨0x262B, "", "FARSI SYMBOL,ADI SHAKTI,HAMMER AND SICKLE,PEACE SYMBOL,YIN YANG"⟩,
    ⟨0x2630, "TRIGRAM FOR ", "HEAVEN,LAKE,FIRE,THUNDER,WIND,WATER,MOUNTAIN,EARTH"⟩,
    ⟨0x2638, "", "WHEEL OF DHARMA,WHITE FROWNING FACE,WHITE SMILING FACE,BLACK SMILING FACE"⟩,
    ⟨0x263C, "", "WHITE SUN WITH RAYS,FIRST QUARTER MOON,LAST QUARTER MOON,MERCURY"⟩,
    ⟨0x2640, "", "FEMALE SIGN,EARTH,MALE SIGN,JUPITER,SATURN,URANUS,NEPTUNE,PLUTO,ARIES,TAURUS"⟩,
    ⟨0x264A, "", "GEMINI,CANCER,LEO,VIRGO,LIBRA,SCORPIUS,SAGITTARIUS,CAPRICORN,AQUARIUS,PISCES"⟩,
    ⟨0x2654, "WHITE CHESS ", "KING,QUEEN,ROOK,BISHOP,KNIGHT,PAWN"⟩,
    ⟨0x265A, "BLACK CHESS ", "KING,QUEEN,ROOK,BISHOP,KNIGHT,PAWN"⟩,
    ⟨0x2660, "", "BLACK SPADE SUIT,WHITE HEART SUIT,WHITE DIAMOND SUIT,BLACK CLUB SUIT"⟩,
    ⟨0x2664, "", "WHITE SPADE SUIT,BLACK HEART SUIT,BLACK DIAMOND SUIT,WHITE CLUB SUIT"⟩,
    ⟨0x2668, "", "HOT SPRINGS,QUARTER NOTE,EIGHTH NOTE,BEAMED EIGHTH NOTES,BEAMED SIXTEENTH NOTES"⟩,
    ⟨0x266D, "MUSIC ", "FLAT SIGN,NATURAL SIGN,SHARP SIGN"⟩,
    ⟨0x2670, "", "WEST SYRIAC CROSS,EAST SYRIAC CROSS,UNIVERSAL RECYCLING SYMBOL"⟩,
    ⟨0x2673, "RECYCLING SYMBOL FOR TYPE-", "1 PLASTICS,2 PLASTICS,3 PLASTICS"⟩,
    ⟨0x2676, "RECYCLING SYMBOL FOR TYPE-", "4 PLASTICS,5 PLASTICS,6 PLASTICS,7 PLASTICS"⟩,
    ⟨0x267A, "", "RECYCLING SYMBOL FOR GENERIC MATERIALS"⟩,
    ⟨0x267B, "", "BLACK UNIVERSAL RECYCLING SYMBOL,RECYCLED PAPER SYMBOL"⟩,
    ⟨0x267D, "", "PARTIALLY-RECYCLED PAPER SYMBOL,PERMANENT PAPER SIGN,WHEELCHAIR SYMBOL"⟩,
    ⟨0x2680, "DIE FACE-", "1,2,3,4,5,6"⟩,
    ⟨0x2686, "WHITE CIRCLE WITH ", "DOT RIGHT,TWO DOTS"⟩,
    ⟨0x2688, "BLACK CIRCLE WITH ", "WHITE DOT RIGHT,TWO WHITE DOTS"⟩,
    ⟨0x268A, "MONOGRAM FOR ", "YANG,YIN"⟩,
    ⟨0x268C, "DIGRAM FOR ", "GREATER YANG,LESSER YIN,LESSER YANG,GREATER YIN"⟩,
    ⟨0x2690, "", "WHITE FLAG,BLACK FLAG,HAMMER AND PICK,ANCHOR"⟩,
    ⟨0x2694, "", "CROSSED SWORDS,STAFF OF AESCULAPIUS,SCALES,ALEMBIC,FLOWER,GEAR,STAFF OF HERMES"⟩,
    ⟨0x269B, "", "ATOM SYMBOL,FLEUR-DE-LIS,OUTLINED WHITE STAR,THREE LINES CONVERGING RIGHT"⟩,
    ⟨0x269F, "", "THREE LINES CONVERGING LEFT,WARNING SIGN,HIGH VOLTAGE SIGN,DOUBLED FEMALE SIGN"⟩,
    ⟨0x26A3, "", "DOUBLED MALE SIGN,INTERLOCKED FEMALE AND MALE SIGN,MALE AND FEMALE SIGN"⟩,
    ⟨0x26A6, "MALE WITH STROKE ", "SIGN,AND MALE AND FEMALE SIGN"⟩,
    ⟨0x26A8, "", "VERTICAL MALE WITH STROKE SIGN,HORIZONTAL MALE WITH STROKE SIGN"⟩,
    ⟨0x26AA, "MEDIUM ", "WHITE CIRCLE,BLACK CIRCLE,SMALL WHITE CIRCLE"⟩,
    ⟨0x26AD, "", "MARRIAGE SYMBOL,DIVORCE SYMBOL,UNMARRIED PARTNERSHIP SYMBOL"⟩,
    ⟨0x26B0, "", "COFFIN,FUNERAL URN,NEUTER,CERES,PALLAS,JUNO,VESTA,CHIRON,BLACK MOON LILITH"⟩,
    ⟨0x26B9, "", "SEXTILE,SEMISEXTILE,QUINCUNX,SESQUIQUADRATE,SOCCER BALL,BASEBALL,SQUARED KEY"⟩,
    ⟨0x26C0, "", "WHITE DRAUGHTS MAN,WHITE DRAUGHTS KING,BLACK DRAUGHTS MAN,BLACK DRAUGHTS KING"⟩,
    ⟨0x26C4, "", "SNOWMAN WITHOUT SNOW,SUN BEHIND CLOUD,RAIN,BLACK SNOWMAN,THUNDER CLOUD AND RAIN"⟩,
    ⟨0x26C9, "TURNED ", "WHITE SHOGI PIECE,BLACK SHOGI PIECE"⟩,
    ⟨0x26CB, "", "WHITE DIAMOND IN SQUARE,CROSSING LANES,DISABLED CAR,OPHIUCHUS"⟩,
    ⟨0x26CF, "", "PICK,CAR SLIDING,HELMET WITH WHITE CROSS,CIRCLED CROSSING LANES,CHAINS"⟩,
    ⟨0x26D4, "", "NO ENTRY,ALTERNATE ONE-WAY LEFT WAY TRAFFIC,BLACK TWO-WAY LEFT WAY TRAFFIC"⟩,
    ⟨0x26D7, "", "WHITE TWO-WAY LEFT WAY TRAFFIC,BLACK LEFT LANE MERGE,WHITE LEFT LANE MERGE"⟩,
    ⟨0x26DA, "", "DRIVE SLOW SIGN,HEAVY WHITE DOWN-POINTING TRIANGLE,LEFT CLOSED ENTRY"⟩,
    ⟨0x26DD, "", "SQUARED SALTIRE,FALLING DIAGONAL IN WHITE CIRCLE IN BLACK SQUARE,BLACK TRUCK"⟩,
    ⟨0x26E0, "RESTRICTED LEFT ENTRY-", "1,2"⟩,
    ⟨0x26E2, "", "ASTRONOMICAL SYMBOL FOR URANUS,HEAVY CIRCLE WITH STROKE AND TWO DOTS ABOVE"⟩,
    ⟨0x26E4, "", "PENTAGRAM,RIGHT-HANDED INTERLACED PENTAGRAM"⟩,
    ⟨0x26E6, "", "LEFT-HANDED INTERLACED PENTAGRAM,INVERTED PENTAGRAM,BLACK CROSS ON SHIELD"⟩,
    ⟨0x26E9, "", "SHINTO SHRINE,CHURCH,CASTLE,HISTORIC SITE,GEAR WITHOUT HUB"⟩,
    ⟨0x26EE, "", "GEAR WITH HANDLES,MAP SYMBOL FOR LIGHTHOUSE,MOUNTAIN,UMBRELLA ON GROUND"⟩,
    ⟨0x26F2, "", "FOUNTAIN,FLAG IN HOLE,FERRY,SAILBOAT,SQUARE FOUR CORNERS,SKIER"⟩,
    ⟨0x26F8, "", "ICE SKATE,PERSON WITH BALL,TENT,JAPANESE BANK SYMBOL,HEADSTONE GRAVEYARD SYMBOL"⟩,
    ⟨0x26FD, "", "FUEL PUMP,CUP ON BLACK SQUARE,WHITE FLAG WITH HORIZONTAL MIDDLE BLACK STRIPE"⟩,
    ⟨0x2700, "", "BLACK SAFETY SCISSORS,UPPER BLADE SCISSORS,BLACK SCISSORS,LOWER BLADE SCISSORS"⟩,
    ⟨0x2704, "", "WHITE SCISSORS,WHITE HEAVY CHECK MARK,TELEPHONE LOCATION SIGN"⟩,
    ⟨0x2707, "", "TAPE DRIVE,AIRPLANE,ENVELOPE,RAISED FIST,RAISED HAND,VICTORY HAND"⟩,
    ⟨0x270D, "", "WRITING HAND,LOWER RIGHT PENCIL,PENCIL,UPPER RIGHT PENCIL,WHITE NIB,BLACK NIB"⟩,
    ⟨0x2713, "", "CHECK MARK,HEAVY CHECK MARK,MULTIPLICATION X,HEAVY MULTIPLICATION X,BALLOT X"⟩,
    ⟨0x2718, "", "HEAVY BALLOT X,OUTLINED GREEK CROSS,HEAVY GREEK CROSS,OPEN CENTRE CROSS"⟩,
    ⟨0x271C, "", "HEAVY OPEN CENTRE CROSS,LATIN CROSS,SHADOWED WHITE LATIN CROSS"⟩,
    ⟨0x271F, "", "OUTLINED LATIN CROSS,MALTESE CROSS,STAR OF DAVID,FOUR TEARDROP-SPOKED ASTERISK"⟩,
    ⟨0x2723, "", "FOUR BALLOON-SPOKED ASTERISK,HEAVY FOUR BALLOON-SPOKED ASTERISK"⟩,
    ⟨0x2725, "", "FOUR CLUB-SPOKED ASTERISK,BLACK FOUR POINTED STAR,WHITE FOUR POINTED STAR"⟩,
    ⟨0x2728, "", "SPARKLES,STRESS OUTLINED WHITE STAR,CIRCLED WHITE STAR,OPEN CENTRE BLACK STAR"⟩,
    ⟨0x272C, "", "BLACK CENTRE WHITE STAR,OUTLINED BLACK STAR,HEAVY OUTLINED BLACK STAR"⟩,
    ⟨0x272F, "", "PINWHEEL STAR,SHADOWED WHITE STAR,HEAVY ASTERISK,OPEN CENTRE ASTERISK"⟩,
    ⟨0x2733, "EIGHT ", "SPOKED ASTERISK,POINTED BLACK STAR,POINTED PINWHEEL STAR"⟩,
    ⟨0x2736, "", "SIX POINTED BLACK STAR"⟩,
    ⟨0x2737, "", "EIGHT POINTED RECTILINEAR BLACK STAR,HEAVY EIGHT POINTED RECTILINEAR BLACK STAR"⟩,
    ⟨0x2739, "", "TWELVE POINTED BLACK STAR,SIXTEEN POINTED ASTERISK"⟩,
    ⟨0x273B, "", "TEARDROP-SPOKED ASTERISK,OPEN CENTRE TEARDROP-SPOKED ASTERISK"⟩,
    ⟨0x273D, "", "HEAVY TEARDROP-SPOKED ASTERISK,SIX PETALLED BLACK AND WHITE FLORETTE"⟩,
    ⟨0x273F, "", "BLACK FLORETTE,WHITE FLORETTE,EIGHT PETALLED OUTLINED BLACK FLORETTE"⟩,
    ⟨0x2742, "", "CIRCLED OPEN CENTRE EIGHT POINTED STAR,HEAVY TEARDROP-SPOKED PINWHEEL ASTERISK"⟩,
    ⟨0x2744, "", "SNOWFLAKE,TIGHT TRIFOLIATE SNOWFLAKE,HEAVY CHEVRON SNOWFLAKE,SPARKLE"⟩,
    ⟨0x2748, "", "HEAVY SPARKLE,BALLOON-SPOKED ASTERISK,EIGHT TEARDROP-SPOKED PROPELLER ASTERISK"⟩,
    ⟨0x274B, "", "HEAVY EIGHT TEARDROP-SPOKED PROPELLER ASTERISK,CROSS MARK,SHADOWED WHITE CIRCLE"⟩,
    ⟨0x274E, "", "NEGATIVE SQUARED CROSS MARK,LOWER RIGHT DROP-SHADOWED WHITE SQUARE"⟩,
    ⟨0x2750, "", "UPPER RIGHT DROP-SHADOWED WHITE SQUARE,LOWER RIGHT SHADOWED WHITE SQUARE"⟩,
    ⟨0x2752, "", "UPPER RIGHT SHADOWED WHITE SQUARE,BLACK QUESTION MARK ORNAMENT"⟩,
    ⟨0x2754, "WHITE ", "QUESTION MARK ORNAMENT,EXCLAMATION MARK ORNAMENT"⟩,
    ⟨0x2756, "", "BLACK DIAMOND MINUS WHITE X,HEAVY EXCLAMATION MARK SYMBOL"⟩,
    ⟨0x2758, "", "LIGHT VERTICAL BAR,MEDIUM VERTICAL BAR,HEAVY VERTICAL BAR"⟩,
    ⟨0x275B, "HEAVY SINGLE ", "TURNED COMMA QUOTATION MARK ORNAMENT,COMMA QUOTATION MARK ORNAMENT"⟩,
    ⟨0x275D, "HEAVY DOUBLE ", "TURNED COMMA QUOTATION MARK ORNAMENT,COMMA QUOTATION MARK ORNAMENT"⟩,
    ⟨0x275F, "", "HEAVY LOW SINGLE COMMA QUOTATION MARK ORNAMENT"⟩,
    ⟨0x2760, "", "HEAVY LOW DOUBLE COMMA QUOTATION MARK ORNAMENT"⟩,
    ⟨0x2761, "", "CURVED STEM PARAGRAPH SIGN ORNAMENT"⟩,
    ⟨0x2762, "HEAVY ", "EXCLAMATION MARK ORNAMENT,HEART EXCLAMATION MARK ORNAMENT,BLACK HEART"⟩,
    ⟨0x2765, "", "ROTATED HEAVY BLACK HEART BULLET,FLORAL HEART,ROTATED FLORAL HEART BULLET"⟩,
    ⟨0x2768, "MEDIUM ", "LEFT PARENTHESIS ORNAMENT,RIGHT PARENTHESIS ORNAMENT"⟩,
    ⟨0x276A, "MEDIUM FLATTENED ", "LEFT PARENTHESIS ORNAMENT,RIGHT PARENTHESIS ORNAMENT"⟩,
    ⟨0x276C, "", "MEDIUM LEFT-POINTING ANGLE BRACKET ORNAMENT"⟩,
    ⟨0x276D, "", "MEDIUM RIGHT-POINTING ANGLE BRACKET ORNAMENT"⟩,
    ⟨0x276E, "", "HEAVY LEFT-POINTING ANGLE QUOTATION MARK ORNAMENT"⟩,
    ⟨0x276F, "", "HEAVY RIGHT-POINTING ANGLE QUOTATION MARK ORNAMENT"⟩,
    ⟨0x2770, "", "HEAVY LEFT-POINTING ANGLE BRACKET ORNAMENT"⟩,
    ⟨0x2771, "", "HEAVY RIGHT-POINTING ANGLE BRACKET ORNAMENT"⟩,
    ⟨0x2772, "", "LIGHT LEFT TORTOISE SHELL BRACKET ORNAMENT"⟩,
    ⟨0x2773, "", "LIGHT RIGHT TORTOISE SHELL BRACKET ORNAMENT"⟩,
    ⟨0x2774, "MEDIUM ", "LEFT CURLY BRACKET ORNAMENT,RIGHT CURLY BRACKET ORNAMENT"⟩,
    ⟨0x2776, "DINGBAT NEGATIVE CIRCLED DIGIT ", "ONE,TWO,THREE,FOUR,FIVE,SIX,SEVEN,EIGHT,NINE"⟩,
    ⟨0x277F, "", "DINGBAT NEGATIVE CIRCLED NUMBER TEN"⟩,
    ⟨0x2780, "DINGBAT CIRCLED SANS-SERIF DIGIT ", "ONE,TWO,THREE,FOUR,FIVE,SIX,SEVEN,EIGHT,NINE"⟩,
    ⟨0x2789, "", "DINGBAT CIRCLED SANS-SERIF NUMBER TEN"⟩,
    ⟨0x278A, "DINGBAT NEGATIVE CIRCLED SANS-SERIF DIGIT ", "ONE,TWO,THREE,FOUR,FIVE,SIX,SEVEN"⟩,
    ⟨0x2791, "DINGBAT NEGATIVE CIRCLED SANS-SERIF ", "DIGIT EIGHT,DIGIT NINE,NUMBER TEN"⟩,
    ⟨0x2794, "HEAVY ", "WIDE-HEADED RIGHTWARDS ARROW,PLUS SIGN,MINUS SIGN"⟩,
    ⟨0x2797, "HEAVY ", "DIVISION SIGN,SOUTH EAST ARROW,RIGHTWARDS ARROW,NORTH EAST ARROW"⟩,
    ⟨0x279B, "", "DRAFTING POINT RIGHTWARDS ARROW"⟩,
    ⟨0x279C, "", "HEAVY ROUND-TIPPED RIGHTWARDS ARROW,TRIANGLE-HEADED RIGHTWARDS ARROW"⟩,
    ⟨0x279E, "", "HEAVY TRIANGLE-HEADED RIGHTWARDS ARROW,DASHED TRIANGLE-HEADED RIGHTWARDS ARROW"⟩,
    ⟨0x27A0, "", "HEAVY DASHED TRIANGLE-HEADED RIGHTWARDS ARROW,BLACK RIGHTWARDS ARROW"⟩,
    ⟨0x27A2, "THREE-D ", "TOP-LIGHTED RIGHTWARDS ARROWHEAD,BOTTOM-LIGHTED RIGHTWARDS ARROWHEAD"⟩,
    ⟨0x27A4, "", "BLACK RIGHTWARDS ARROWHEAD"⟩,
    ⟨0x27A5, "HEAVY BLACK CURVED ", "DOWNWARDS AND RIGHTWARDS ARROW,UPWARDS AND RIGHTWARDS ARROW"⟩,
    ⟨0x27A7, "", "SQUAT BLACK RIGHTWARDS ARROW,HEAVY CONCAVE-POINTED BLACK RIGHTWARDS ARROW"⟩,
    ⟨0x27A9, "", "RIGHT-SHADED WHITE RIGHTWARDS ARROW"⟩,
    ⟨0x27AA, "", "LEFT-SHADED WHITE RIGHTWARDS ARROW,BACK-TILTED SHADOWED WHITE RIGHTWARDS ARROW"⟩,
    ⟨0x27AC, "", "FRONT-TILTED SHADOWED WHITE RIGHTWARDS ARROW"⟩,
    ⟨0x27AD, "", "HEAVY LOWER RIGHT-SHADOWED WHITE RIGHTWARDS ARROW"⟩,
    ⟨0x27AE, "", "HEAVY UPPER RIGHT-SHADOWED WHITE RIGHTWARDS ARROW"⟩,
    ⟨0x27AF, "", "NOTCHED LOWER RIGHT-SHADOWED WHITE RIGHTWARDS ARROW"⟩,
    ⟨0x27B0, "", "CURLY LOOP,NOTCHED UPPER RIGHT-SHADOWED WHITE RIGHTWARDS ARROW"⟩,
    ⟨0x27B2, "", "CIRCLED HEAVY WHITE RIGHTWARDS ARROW,WHITE-FEATHERED RIGHTWARDS ARROW"⟩,
    ⟨0x27B4, "BLACK-FEATHERED ", "SOUTH EAST ARROW,RIGHTWARDS ARROW,NORTH EAST ARROW"⟩,
    ⟨0x27B7, "HEAVY BLACK-FEATHERED ", "SOUTH EAST ARROW,RIGHTWARDS ARROW,NORTH EAST ARROW"⟩,
    ⟨0x27BA, "", "TEARDROP-BARBED RIGHTWARDS ARROW,HEAVY TEARDROP-SHANKED RIGHTWARDS ARROW"⟩,
    ⟨0x27BC, "", "WEDGE-TAILED RIGHTWARDS ARROW,HEAVY WEDGE-TAILED RIGHTWARDS ARROW"⟩,
    ⟨0x27BE, "", "OPEN-OUTLINED RIGHTWARDS ARROW,DOUBLE CURLY LOOP,THREE DIMENSIONAL ANGLE"⟩,
    ⟨0x27C1, "", "WHITE TRIANGLE CONTAINING SMALL WHITE TRIANGLE,PERPENDICULAR,OPEN SUBSET"⟩,
    ⟨0x27C4, "", "OPEN SUPERSET,LEFT S-SHAPED BAG DELIMITER,RIGHT S-SHAPED BAG DELIMITER"⟩,
    ⟨0x27C7, "", "OR WITH DOT INSIDE,REVERSE SOLIDUS PRECEDING SUBSET,SUPERSET PRECEDING SOLIDUS"⟩,
    ⟨0x27CA, "", "VERTICAL BAR WITH HORIZONTAL STROKE,MATHEMATICAL RISING DIAGONAL,LONG DIVISION"⟩,
    ⟨0x27CD, "", "MATHEMATICAL FALLING DIAGONAL,SQUARED LOGICAL AND,SQUARED LOGICAL OR"⟩,
    ⟨0x27D0, "", "WHITE DIAMOND WITH CENTRED DOT,AND WITH DOT,ELEMENT OF OPENING UPWARDS"⟩,
    ⟨0x27D3, "", "LOWER RIGHT CORNER WITH DOT,UPPER LEFT CORNER WITH DOT"⟩,
    ⟨0x27D5, "", "LEFT OUTER JOIN,RIGHT OUTER JOIN,FULL OUTER JOIN,LARGE UP TACK,LARGE DOWN TACK"⟩,
    ⟨0x27DA, "LEFT AND RIGHT ", "DOUBLE TURNSTILE,TACK"⟩,
    ⟨0x27DC, "", "LEFT MULTIMAP,LONG RIGHT TACK,LONG LEFT TACK,UP TACK WITH CIRCLE ABOVE"⟩,
    ⟨0x27E0, "", "LOZENGE DIVIDED BY HORIZONTAL RULE,WHITE CONCAVE-SIDED DIAMOND"⟩,
    ⟨0x27E2, "WHITE CONCAVE-SIDED DIAMOND WITH ", "LEFTWARDS TICK,RIGHTWARDS TICK"⟩,
    ⟨0x27E4, "WHITE SQUARE WITH ", "LEFTWARDS TICK,RIGHTWARDS TICK"⟩,
    ⟨0x27E6, "MATHEMATICAL ", "LEFT WHITE SQUARE BRACKET,RIGHT WHITE SQUARE BRACKET"⟩,
    ⟨0x27E8, "MATHEMATICAL ", "LEFT ANGLE BRACKET,RIGHT ANGLE BRACKET,LEFT DOUBLE ANGLE BRACKET"⟩,
    ⟨0x27EB, "MATHEMATICAL ", "RIGHT DOUBLE ANGLE BRACKET,LEFT WHITE TORTOISE SHELL BRACKET"⟩,
    ⟨0x27ED, "MATHEMATICAL ", "RIGHT WHITE TORTOISE SHELL BRACKET,LEFT FLATTENED PARENTHESIS"⟩,
    ⟨0x27EF, "", "MATHEMATICAL RIGHT FLATTENED PARENTHESIS,UPWARDS QUADRUPLE ARROW"⟩,
    ⟨0x27F1, "", "DOWNWARDS QUADRUPLE ARROW,ANTICLOCKWISE GAPPED CIRCLE ARROW"⟩,
    ⟨0x27F3, "", "CLOCKWISE GAPPED CIRCLE ARROW,RIGHT ARROW WITH CIRCLED PLUS"⟩,
    ⟨0x27F5, "LONG ", "LEFTWARDS ARROW,RIGHTWARDS ARROW,LEFT RIGHT ARROW,LEFTWARDS DOUBLE ARROW"⟩,
    ⟨0x27F9, "LONG ", "RIGHTWARDS DOUBLE ARROW,LEFT RIGHT DOUBLE ARROW,LEFTWARDS ARROW FROM BAR"⟩,
    ⟨0x27FC, "LONG ", "RIGHTWARDS ARROW FROM BAR,LEFTWARDS DOUBLE ARROW FROM BAR"⟩,
    ⟨0x27FE, "LONG RIGHTWARDS ", "DOUBLE ARROW FROM BAR,SQUIGGLE ARROW"⟩,
    ⟨0x2800, "", "BRAILLE PATTERN BLANK"⟩,
    ⟨0x2801, "BRAILLE PATTERN DOTS-", "1,2,12,3,13,23,123,4,14,24,124,34"⟩,
    ⟨0x280D, "BRAILLE PATTERN DOTS-", "134,234,1234,5,15,25,125,35,135,235,1235,45,145,245,1245"⟩,
    ⟨0x281C, "BRAILLE PATTERN DOTS-", "345,1345,2345,12345,6,16,26,126,36,136,236,1236,46,146"⟩,
    ⟨0x282A, "BRAILLE PATTERN DOTS-", "246,1246,346,1346,2346,12346,56,156,256,1256,356,1356,2356"⟩,
    ⟨0x2837, "BRAILLE PATTERN DOTS-", "12356,456,1456,2456,12456,3456,13456,23456,123456,7,17"⟩,
    ⟨0x2842, "BRAILLE PATTERN DOTS-", "27,127,37,137,237,1237,47,147,247,1247,347,1347,2347,12347"⟩,
    ⟨0x2850, "BRAILLE PATTERN DOTS-", "57,157,257,1257,357,1357,2357,12357,457,1457,2457,12457"⟩,
    ⟨0x285C, "BRAILLE PATTERN DOTS-", "3457,13457,23457,123457,67,167,267,1267,367,1367,2367"⟩,
    ⟨0x2867, "BRAILLE PATTERN DOTS-", "12367,467,1467,2467,12467,3467,13467,23467,123467,567,1567"⟩,
    ⟨0x2872, "BRAILLE PATTERN DOTS-", "2567,12567,3567,13567,23567,123567,4567,14567,24567,124567"⟩,
    ⟨0x287C, "BRAILLE PATTERN DOTS-", "34567,134567,234567,1234567,8,18,28,128,38,138,238,1238,48"⟩,
    ⟨0x2889, "BRAILLE PATTERN DOTS-", "148,248,1248,348,1348,2348,12348,58,158,258,1258,358,1358"⟩,
    ⟨0x2896, "BRAILLE PATTERN DOTS-", "2358,12358,458,1458,2458,12458,3458,13458,23458,123458"⟩,
    ⟨0x28A0, "BRAILLE PATTERN DOTS-", "68,168,268,1268,368,1368,2368,12368,468,1468,2468,12468"⟩,
    ⟨0x28AC, "BRAILLE PATTERN DOTS-", "3468,13468,23468,123468,568,1568,2568,12568,3568,13568"⟩,
    ⟨0x28B6, "BRAILLE PATTERN DOTS-", "23568,123568,4568,14568,24568,124568,34568,134568,234568"⟩,
    ⟨0x28BF, "BRAILLE PATTERN DOTS-", "1234568,78,178,278,1278,378,1378,2378,12378,478,1478"⟩,
    ⟨0x28CA, "BRAILLE PATTERN DOTS-", "2478,12478,3478,13478,23478,123478,578,1578,2578,12578"⟩,
    ⟨0x28D4, "BRAILLE PATTERN DOTS-", "3578,13578,23578,123578,4578,14578,24578,124578,34578"⟩,
    ⟨0x28DD, "BRAILLE PATTERN DOTS-", "134578,234578,1234578,678,1678,2678,12678,3678,13678,23678"⟩,
    ⟨0x28E7, "BRAILLE PATTERN DOTS-", "123678,4678,14678,24678,124678,34678,134678,234678,1234678"⟩,
    ⟨0x28F0, "BRAILLE PATTERN DOTS-", "5678,15678,25678,125678,35678,135678,235678,1235678,45678"⟩,
    ⟨0x28F9, "BRAILLE PATTERN DOTS-", "145678,245678,1245678,345678,1345678,2345678,12345678"⟩,
    ⟨0x2900, "RIGHTWARDS TWO-HEADED ARROW WITH ", "VERTICAL STROKE,DOUBLE VERTICAL STROKE"⟩,
    ⟨0x2902, "", "LEFTWARDS DOUBLE ARROW WITH VERTICAL STROKE"⟩,
    ⟨0x2903, "", "RIGHTWARDS DOUBLE ARROW WITH VERTICAL STROKE"⟩,
    ⟨0x2904, "", "LEFT RIGHT DOUBLE ARROW WITH VERTICAL STROKE"⟩,
    ⟨0x2905, "", "RIGHTWARDS TWO-HEADED ARROW FROM BAR,LEFTWARDS DOUBLE ARROW FROM BAR"⟩,
    ⟨0x2907, "", "RIGHTWARDS DOUBLE ARROW FROM BAR,DOWNWARDS ARROW WITH HORIZONTAL STROKE"⟩,
    ⟨0x2909, "UPWARDS ", "ARROW WITH HORIZONTAL STROKE,TRIPLE ARROW"⟩,
    ⟨0x290B, "", "DOWNWARDS TRIPLE ARROW,LEFTWARDS DOUBLE DASH ARROW"⟩,
    ⟨0x290D, "", "RIGHTWARDS DOUBLE DASH ARROW,LEFTWARDS TRIPLE DASH ARROW"⟩,
    ⟨0x290F, "RIGHTWARDS ", "TRIPLE DASH ARROW,TWO-HEADED TRIPLE DASH ARROW"⟩,
    ⟨0x2911, "", "RIGHTWARDS ARROW WITH DOTTED STEM,UPWARDS ARROW TO BAR,DOWNWARDS ARROW TO BAR"⟩,
    ⟨0x2914, "RIGHTWARDS ARROW WITH TAIL WITH ", "VERTICAL STROKE,DOUBLE VERTICAL STROKE"⟩,
    ⟨0x2916, "RIGHTWARDS TWO-HEADED ARROW WITH ", "TAIL,TAIL WITH VERTICAL STROKE"⟩,
    ⟨0x2918, "", "RIGHTWARDS TWO-HEADED ARROW WITH TAIL WITH DOUBLE VERTICAL STROKE"⟩,
    ⟨0x2919, "", "LEFTWARDS ARROW-TAIL,RIGHTWARDS ARROW-TAIL,LEFTWARDS DOUBLE ARROW-TAIL"⟩,
    ⟨0x291C, "", "RIGHTWARDS DOUBLE ARROW-TAIL,LEFTWARDS ARROW TO BLACK DIAMOND"⟩,
    ⟨0x291E, "", "RIGHTWARDS ARROW TO BLACK DIAMOND,LEFTWARDS ARROW FROM BAR TO BLACK DIAMOND"⟩,
    ⟨0x2920, "", "RIGHTWARDS ARROW FROM BAR TO BLACK DIAMOND,NORTH WEST AND SOUTH EAST ARROW"⟩,
    ⟨0x2922, "NORTH ", "EAST AND SOUTH WEST ARROW,WEST ARROW WITH HOOK,EAST ARROW WITH HOOK"⟩,
    ⟨0x2925, "SOUTH ", "EAST ARROW WITH HOOK,WEST ARROW WITH HOOK"⟩,
    ⟨0x2927, "NORTH ", "WEST ARROW AND NORTH EAST ARROW,EAST ARROW AND SOUTH EAST ARROW"⟩,
    ⟨0x2929, "SOUTH ", "EAST ARROW AND SOUTH WEST ARROW,WEST ARROW AND NORTH WEST ARROW"⟩,
    ⟨0x292B, "", "RISING DIAGONAL CROSSING FALLING DIAGONAL"⟩,
    ⟨0x292C, "", "FALLING DIAGONAL CROSSING RISING DIAGONAL"⟩,
    ⟨0x292D, "", "SOUTH EAST ARROW CROSSING NORTH EAST ARROW"⟩,
    ⟨0x292E, "", "NORTH EAST ARROW CROSSING SOUTH EAST ARROW"⟩,
    ⟨0x292F, "", "FALLING DIAGONAL CROSSING NORTH EAST ARROW"⟩,
    ⟨0x2930, "", "RISING DIAGONAL CROSSING SOUTH EAST ARROW"⟩,
    ⟨0x2931, "NORTH ", "EAST ARROW CROSSING NORTH WEST ARROW,WEST ARROW CROSSING NORTH EAST ARROW"⟩,
    ⟨0x2933, "", "WAVE ARROW POINTING DIRECTLY RIGHT"⟩,
    ⟨0x2934, "ARROW POINTING RIGHTWARDS THEN CURVING ", "UPWARDS,DOWNWARDS"⟩,
    ⟨0x2936, "ARROW POINTING DOWNWARDS THEN CURVING ", "LEFTWARDS,RIGHTWARDS"⟩,
    ⟨0x2938, "", "RIGHT-SIDE ARC CLOCKWISE ARROW,LEFT-SIDE ARC ANTICLOCKWISE ARROW"⟩,
    ⟨0x293A, "", "TOP ARC ANTICLOCKWISE ARROW,BOTTOM ARC ANTICLOCKWISE ARROW"⟩,
    ⟨0x293C, "TOP ARC ", "CLOCKWISE ARROW WITH MINUS,ANTICLOCKWISE ARROW WITH PLUS"⟩,
    ⟨0x293E, "LOWER ", "RIGHT SEMICIRCULAR CLOCKWISE ARROW,LEFT SEMICIRCULAR ANTICLOCKWISE ARROW"⟩,
    ⟨0x2940, "", "ANTICLOCKWISE CLOSED CIRCLE ARROW"⟩,
    ⟨0x2941, "", "CLOCKWISE CLOSED CIRCLE ARROW,RIGHTWARDS ARROW ABOVE SHORT LEFTWARDS ARROW"⟩,
    ⟨0x2943, "", "LEFTWARDS ARROW ABOVE SHORT RIGHTWARDS ARROW"⟩,
    ⟨0x2944, "", "SHORT RIGHTWARDS ARROW ABOVE LEFTWARDS ARROW"⟩,
    ⟨0x2945, "", "RIGHTWARDS ARROW WITH PLUS BELOW,LEFTWARDS ARROW WITH PLUS BELOW"⟩,
    ⟨0x2947, "", "RIGHTWARDS ARROW THROUGH X,LEFT RIGHT ARROW THROUGH SMALL CIRCLE"⟩,
    ⟨0x2949, "", "UPWARDS TWO-HEADED ARROW FROM SMALL CIRCLE"⟩,
    ⟨0x294A, "LEFT BARB ", "UP RIGHT BARB DOWN HARPOON,DOWN RIGHT BARB UP HARPOON"⟩,
    ⟨0x294C, "UP BARB ", "RIGHT DOWN BARB LEFT HARPOON,LEFT DOWN BARB RIGHT HARPOON"⟩,
    ⟨0x294E, "", "LEFT BARB UP RIGHT BARB UP HARPOON,UP BARB RIGHT DOWN BARB RIGHT HARPOON"⟩,
    ⟨0x2950, "", "LEFT BARB DOWN RIGHT BARB DOWN HARPOON,UP BARB LEFT DOWN BARB LEFT HARPOON"⟩,
    ⟨0x2952, "", "LEFTWARDS HARPOON WITH BARB UP TO BAR,RIGHTWARDS HARPOON WITH BARB UP TO BAR"⟩,
    ⟨0x2954, "", "UPWARDS HARPOON WITH BARB RIGHT TO BAR,DOWNWARDS HARPOON WITH BARB RIGHT TO BAR"⟩,
    ⟨0x2956, "", "LEFTWARDS HARPOON WITH BARB DOWN TO BAR"⟩,
    ⟨0x2957, "", "RIGHTWARDS HARPOON WITH BARB DOWN TO BAR,UPWARDS HARPOON WITH BARB LEFT TO BAR"⟩,
    ⟨0x2959, "", "DOWNWARDS HARPOON WITH BARB LEFT TO BAR,LEFTWARDS HARPOON WITH BARB UP FROM BAR"⟩,
    ⟨0x295B, "", "RIGHTWARDS HARPOON WITH BARB UP FROM BAR"⟩,
    ⟨0x295C, "", "UPWARDS HARPOON WITH BARB RIGHT FROM BAR"⟩,
    ⟨0x295D, "", "DOWNWARDS HARPOON WITH BARB RIGHT FROM BAR"⟩,
    ⟨0x295E, "", "LEFTWARDS HARPOON WITH BARB DOWN FROM BAR"⟩,
    ⟨0x295F, "", "RIGHTWARDS HARPOON WITH BARB DOWN FROM BAR"⟩,
    ⟨0x2960, "", "UPWARDS HARPOON WITH BARB LEFT FROM BAR"⟩,
    ⟨0x2961, "", "DOWNWARDS HARPOON WITH BARB LEFT FROM BAR"⟩,
    ⟨0x2962, "", "LEFTWARDS HARPOON WITH BARB UP ABOVE LEFTWARDS HARPOON WITH BARB DOWN"⟩,
    ⟨0x2963, "", "UPWARDS HARPOON WITH BARB LEFT BESIDE UPWARDS HARPOON WITH BARB RIGHT"⟩,
    ⟨0x2964, "", "RIGHTWARDS HARPOON WITH BARB UP ABOVE RIGHTWARDS HARPOON WITH BARB DOWN"⟩,
    ⟨0x2965, "", "DOWNWARDS HARPOON WITH BARB LEFT BESIDE DOWNWARDS HARPOON WITH BARB RIGHT"⟩,
    ⟨0x2966, "", "LEFTWARDS HARPOON WITH BARB UP ABOVE RIGHTWARDS HARPOON WITH BARB UP"⟩,
    ⟨0x2967, "", "LEFTWARDS HARPOON WITH BARB DOWN ABOVE RIGHTWARDS HARPOON WITH BARB DOWN"⟩,
    ⟨0x2968, "", "RIGHTWARDS HARPOON WITH BARB UP ABOVE LEFTWARDS HARPOON WITH BARB UP"⟩,
    ⟨0x2969, "", "RIGHTWARDS HARPOON WITH BARB DOWN ABOVE LEFTWARDS HARPOON WITH BARB DOWN"⟩,
    ⟨0x296A, "LEFTWARDS HARPOON WITH BARB ", "UP ABOVE LONG DASH,DOWN BELOW LONG DASH"⟩,
    ⟨0x296C, "RIGHTWARDS HARPOON WITH BARB ", "UP ABOVE LONG DASH,DOWN BELOW LONG DASH"⟩,
    ⟨0x296E, "", "UPWARDS HARPOON WITH BARB LEFT BESIDE DOWNWARDS HARPOON WITH BARB RIGHT"⟩,
    ⟨0x296F, "", "DOWNWARDS HARPOON WITH BARB LEFT BESIDE UPWARDS HARPOON WITH BARB RIGHT"⟩,
    ⟨0x2970, "", "RIGHT DOUBLE ARROW WITH ROUNDED HEAD,EQUALS SIGN ABOVE RIGHTWARDS ARROW"⟩,
    ⟨0x2972, "", "TILDE OPERATOR ABOVE RIGHTWARDS ARROW,LEFTWARDS ARROW ABOVE TILDE OPERATOR"⟩,
    ⟨0x2974, "RIGHTWARDS ARROW ABOVE ", "TILDE OPERATOR,ALMOST EQUAL TO"⟩,
    ⟨0x2976, "", "LESS-THAN ABOVE LEFTWARDS ARROW,LEFTWARDS ARROW THROUGH LESS-THAN"⟩,
    ⟨0x2978, "", "GREATER-THAN ABOVE RIGHTWARDS ARROW,SUBSET ABOVE RIGHTWARDS ARROW"⟩,
    ⟨0x297A, "", "LEFTWARDS ARROW THROUGH SUBSET,SUPERSET ABOVE LEFTWARDS ARROW,LEFT FISH TAIL"⟩,
    ⟨0x297D, "", "RIGHT FISH TAIL,UP FISH TAIL,DOWN FISH TAIL,TRIPLE VERTICAL BAR DELIMITER"⟩,
    ⟨0x2981, "", "Z NOTATION SPOT,Z NOTATION TYPE COLON,LEFT WHITE CURLY BRACKET"⟩,
    ⟨0x2984, "", "RIGHT WHITE CURLY BRACKET,LEFT WHITE PARENTHESIS,RIGHT WHITE PARENTHESIS"⟩,
    ⟨0x2987, "Z NOTATION ", "LEFT IMAGE BRACKET,RIGHT IMAGE BRACKET,LEFT BINDING BRACKET"⟩,
    ⟨0x298A, "", "Z NOTATION RIGHT BINDING BRACKET,LEFT SQUARE BRACKET WITH UNDERBAR"⟩,
    ⟨0x298C, "", "RIGHT SQUARE BRACKET WITH UNDERBAR,LEFT SQUARE BRACKET WITH TICK IN TOP CORNER"⟩,
    ⟨0x298E, "", "RIGHT SQUARE BRACKET WITH TICK IN BOTTOM CORNER"⟩,
    ⟨0x298F, "", "LEFT SQUARE BRACKET WITH TICK IN BOTTOM CORNER"⟩,
    ⟨0x2990, "", "RIGHT SQUARE BRACKET WITH TICK IN TOP CORNER,LEFT ANGLE BRACKET WITH DOT"⟩,
    ⟨0x2992, "", "RIGHT ANGLE BRACKET WITH DOT,LEFT ARC LESS-THAN BRACKET"⟩,
    ⟨0x2994, "", "RIGHT ARC GREATER-THAN BRACKET,DOUBLE LEFT ARC GREATER-THAN BRACKET"⟩,
    ⟨0x2996, "", "DOUBLE RIGHT ARC LESS-THAN BRACKET,LEFT BLACK TORTOISE SHELL BRACKET"⟩,
    ⟨0x2998, "", "RIGHT BLACK TORTOISE SHELL BRACKET,DOTTED FENCE,VERTICAL ZIGZAG LINE"⟩,
    ⟨0x299B, "", "MEASURED ANGLE OPENING LEFT,RIGHT ANGLE VARIANT WITH SQUARE"⟩,
    ⟨0x299D, "", "MEASURED RIGHT ANGLE WITH DOT,ANGLE WITH S INSIDE,ACUTE ANGLE"⟩,
    ⟨0x29A0, "SPHERICAL ANGLE OPENING ", "LEFT,UP"⟩,
    ⟨0x29A2, "", "TURNED ANGLE,REVERSED ANGLE,ANGLE WITH UNDERBAR,REVERSED ANGLE WITH UNDERBAR"⟩,
    ⟨0x29A6, "OBLIQUE ANGLE OPENING ", "UP,DOWN"⟩,
    ⟨0x29A8, "MEASURED ANGLE WITH OPEN ARM ENDING IN ARROW POINTING UP AND ", "RIGHT,LEFT"⟩,
    ⟨0x29AA, "MEASURED ANGLE WITH OPEN ARM ENDING IN ARROW POINTING DOWN AND ", "RIGHT,LEFT"⟩,
    ⟨0x29AC, "MEASURED ANGLE WITH OPEN ARM ENDING IN ARROW POINTING ", "RIGHT AND UP,LEFT AND UP"⟩,
    ⟨0x29AE, "", "MEASURED ANGLE WITH OPEN ARM ENDING IN ARROW POINTING RIGHT AND DOWN"⟩,
    ⟨0x29AF, "", "MEASURED ANGLE WITH OPEN ARM ENDING IN ARROW POINTING LEFT AND DOWN"⟩,
    ⟨0x29B0, "", "REVERSED EMPTY SET"⟩,
    ⟨0x29B1, "EMPTY SET WITH ", "OVERBAR,SMALL CIRCLE ABOVE,RIGHT ARROW ABOVE,LEFT ARROW ABOVE"⟩,
    ⟨0x29B5, "", "CIRCLE WITH HORIZONTAL BAR"⟩,
    ⟨0x29B6, "CIRCLED ", "VERTICAL BAR,PARALLEL,REVERSE SOLIDUS,PERPENDICULAR"⟩,
    ⟨0x29BA, "", "CIRCLE DIVIDED BY HORIZONTAL BAR AND TOP HALF DIVIDED BY VERTICAL BAR"⟩,
    ⟨0x29BB, "", "CIRCLE WITH SUPERIMPOSED X"⟩,
    ⟨0x29BC, "", "CIRCLED ANTICLOCKWISE-ROTATED DIVISION SIGN,UP ARROW THROUGH CIRCLE"⟩,
    ⟨0x29BE, "CIRCLED ", "WHITE BULLET,BULLET,LESS-THAN,GREATER-THAN"⟩,
    ⟨0x29C2, "CIRCLE WITH ", "SMALL CIRCLE TO THE RIGHT,TWO HORIZONTAL STROKES TO THE RIGHT"⟩,
    ⟨0x29C4, "SQUARED ", "RISING DIAGONAL SLASH,FALLING DIAGONAL SLASH,ASTERISK,SMALL CIRCLE"⟩,
    ⟨0x29C8, "", "SQUARED SQUARE,TWO JOINED SQUARES"⟩,
    ⟨0x29CA, "TRIANGLE WITH ", "DOT ABOVE,UNDERBAR"⟩,
    ⟨0x29CC, "", "S IN TRIANGLE,TRIANGLE WITH SERIFS AT BOTTOM,RIGHT TRIANGLE ABOVE LEFT TRIANGLE"⟩,
    ⟨0x29CF, "", "LEFT TRIANGLE BESIDE VERTICAL BAR,VERTICAL BAR BESIDE RIGHT TRIANGLE"⟩,
    ⟨0x29D1, "BOWTIE WITH ", "LEFT HALF BLACK,RIGHT HALF BLACK"⟩,
    ⟨0x29D3, "", "BLACK BOWTIE,TIMES WITH LEFT HALF BLACK,TIMES WITH RIGHT HALF BLACK"⟩,
    ⟨0x29D6, "", "WHITE HOURGLASS,BLACK HOURGLASS,LEFT WIGGLY FENCE,RIGHT WIGGLY FENCE"⟩,
    ⟨0x29DA, "", "LEFT DOUBLE WIGGLY FENCE,RIGHT DOUBLE WIGGLY FENCE,INCOMPLETE INFINITY"⟩,
    ⟨0x29DD, "", "TIE OVER INFINITY,INFINITY NEGATED WITH VERTICAL BAR,DOUBLE-ENDED MULTIMAP"⟩,
    ⟨0x29E0, "", "SQUARE WITH CONTOURED OUTLINE,INCREASES AS,SHUFFLE PRODUCT"⟩,
    ⟨0x29E3, "EQUALS SIGN AND SLANTED ", "PARALLEL,PARALLEL WITH TILDE ABOVE"⟩,
    ⟨0x29E5, "", "IDENTICAL TO AND SLANTED PARALLEL,GLEICH STARK,THERMODYNAMIC"⟩,
    ⟨0x29E8, "DOWN-POINTING TRIANGLE WITH ", "LEFT HALF BLACK,RIGHT HALF BLACK"⟩,
    ⟨0x29EA, "BLACK ", "DIAMOND WITH DOWN ARROW,LOZENGE"⟩,
    ⟨0x29EC, "", "WHITE CIRCLE WITH DOWN ARROW,BLACK CIRCLE WITH DOWN ARROW"⟩,
    ⟨0x29EE, "ERROR-BARRED ", "WHITE SQUARE,BLACK SQUARE,WHITE DIAMOND,BLACK DIAMOND,WHITE CIRCLE"⟩,
    ⟨0x29F3, "", "ERROR-BARRED BLACK CIRCLE,RULE-DELAYED,REVERSE SOLIDUS OPERATOR"⟩,
    ⟨0x29F6, "", "SOLIDUS WITH OVERBAR,REVERSE SOLIDUS WITH HORIZONTAL STROKE,BIG SOLIDUS"⟩,
    ⟨0x29F9, "", "BIG REVERSE SOLIDUS,DOUBLE PLUS,TRIPLE PLUS,LEFT-POINTING CURVED ANGLE BRACKET"⟩,
    ⟨0x29FD, "", "RIGHT-POINTING CURVED ANGLE BRACKET,TINY,MINY"⟩,
    ⟨0x2A00, "N-ARY CIRCLED ", "DOT OPERATOR,PLUS OPERATOR,TIMES OPERATOR"⟩,
    ⟨0x2A03, "N-ARY UNION OPERATOR WITH ", "DOT,PLUS"⟩,
    ⟨0x2A05, "N-ARY SQUARE ", "INTERSECTION OPERATOR,UNION OPERATOR"⟩,
    ⟨0x2A07, "TWO LOGICAL ", "AND OPERATOR,OR OPERATOR"⟩,
    ⟨0x2A09, "", "N-ARY TIMES OPERATOR,MODULO TWO SUM"⟩,
    ⟨0x2A0B, "", "SUMMATION WITH INTEGRAL,QUADRUPLE INTEGRAL OPERATOR,FINITE PART INTEGRAL"⟩,
    ⟨0x2A0E, "", "INTEGRAL WITH DOUBLE STROKE,INTEGRAL AVERAGE WITH SLASH,CIRCULATION FUNCTION"⟩,
    ⟨0x2A11, "", "ANTICLOCKWISE INTEGRATION,LINE INTEGRATION WITH RECTANGULAR PATH AROUND POLE"⟩,
    ⟨0x2A13, "LINE INTEGRATION ", "WITH SEMICIRCULAR PATH AROUND POLE,NOT INCLUDING THE POLE"⟩,
    ⟨0x2A15, "", "INTEGRAL AROUND A POINT OPERATOR,QUATERNION INTEGRAL OPERATOR"⟩,
    ⟨0x2A17, "INTEGRAL WITH ", "LEFTWARDS ARROW WITH HOOK,TIMES SIGN,INTERSECTION,UNION,OVERBAR"⟩,
    ⟨0x2A1C, "", "INTEGRAL WITH UNDERBAR,JOIN,LARGE LEFT TRIANGLE OPERATOR"⟩,
    ⟨0x2A1F, "Z NOTATION SCHEMA ", "COMPOSITION,PIPING,PROJECTION"⟩,
    ⟨0x2A22, "PLUS SIGN WITH ", "SMALL CIRCLE ABOVE,CIRCUMFLEX ACCENT ABOVE"⟩,
    ⟨0x2A24, "PLUS SIGN WITH ", "TILDE ABOVE,DOT BELOW,TILDE BELOW,SUBSCRIPT TWO,BLACK TRIANGLE"⟩,
    ⟨0x2A29, "MINUS SIGN WITH ", "COMMA ABOVE,DOT BELOW,FALLING DOTS,RISING DOTS"⟩,
    ⟨0x2A2D, "PLUS SIGN IN ", "LEFT HALF CIRCLE,RIGHT HALF CIRCLE"⟩,
    ⟨0x2A2F, "", "VECTOR OR CROSS PRODUCT"⟩,
    ⟨0x2A30, "MULTIPLICATION SIGN WITH ", "DOT ABOVE,UNDERBAR"⟩,
    ⟨0x2A32, "", "SEMIDIRECT PRODUCT WITH BOTTOM CLOSED,SMASH PRODUCT"⟩,
    ⟨0x2A34, "MULTIPLICATION SIGN IN ", "LEFT HALF CIRCLE,RIGHT HALF CIRCLE"⟩,
    ⟨0x2A36, "", "CIRCLED MULTIPLICATION SIGN WITH CIRCUMFLEX ACCENT"⟩,
    ⟨0x2A37, "", "MULTIPLICATION SIGN IN DOUBLE CIRCLE,CIRCLED DIVISION SIGN"⟩,
    ⟨0x2A39, "", "PLUS SIGN IN TRIANGLE,MINUS SIGN IN TRIANGLE,MULTIPLICATION SIGN IN TRIANGLE"⟩,
    ⟨0x2A3C, "", "INTERIOR PRODUCT,RIGHTHAND INTERIOR PRODUCT,Z NOTATION RELATIONAL COMPOSITION"⟩,
    ⟨0x2A3F, "", "AMALGAMATION OR COPRODUCT,INTERSECTION WITH DOT,UNION WITH MINUS SIGN"⟩,
    ⟨0x2A42, "", "UNION WITH OVERBAR,INTERSECTION WITH OVERBAR,INTERSECTION WITH LOGICAL AND"⟩,
    ⟨0x2A45, "UNION ", "WITH LOGICAL OR,ABOVE INTERSECTION"⟩,
    ⟨0x2A47, "", "INTERSECTION ABOVE UNION,UNION ABOVE BAR ABOVE INTERSECTION"⟩,
    ⟨0x2A49, "", "INTERSECTION ABOVE BAR ABOVE UNION,UNION BESIDE AND JOINED WITH UNION"⟩,
    ⟨0x2A4B, "", "INTERSECTION BESIDE AND JOINED WITH INTERSECTION,CLOSED UNION WITH SERIFS"⟩,
    ⟨0x2A4D, "", "CLOSED INTERSECTION WITH SERIFS,DOUBLE SQUARE INTERSECTION,DOUBLE SQUARE UNION"⟩,
    ⟨0x2A50, "", "CLOSED UNION WITH SERIFS AND SMASH PRODUCT,LOGICAL AND WITH DOT ABOVE"⟩,
    ⟨0x2A52, "", "LOGICAL OR WITH DOT ABOVE,DOUBLE LOGICAL AND,DOUBLE LOGICAL OR"⟩,
    ⟨0x2A55, "TWO INTERSECTING LOGICAL ", "AND,OR"⟩,
    ⟨0x2A57, "SLOPING LARGE ", "OR,AND"⟩,
    ⟨0x2A59, "LOGICAL ", "OR OVERLAPPING LOGICAL AND,AND WITH MIDDLE STEM"⟩,
    ⟨0x2A5B, "LOGICAL ", "OR WITH MIDDLE STEM,AND WITH HORIZONTAL DASH,OR WITH HORIZONTAL DASH"⟩,
    ⟨0x2A5E, "LOGICAL AND WITH ", "DOUBLE OVERBAR,UNDERBAR,DOUBLE UNDERBAR"⟩,
    ⟨0x2A61, "", "SMALL VEE WITH UNDERBAR"⟩,
    ⟨0x2A62, "LOGICAL OR WITH DOUBLE ", "OVERBAR,UNDERBAR"⟩,
    ⟨0x2A64, "Z NOTATION ", "DOMAIN ANTIRESTRICTION,RANGE ANTIRESTRICTION"⟩,
    ⟨0x2A66, "", "EQUALS SIGN WITH DOT BELOW,IDENTICAL WITH DOT ABOVE"⟩,
    ⟨0x2A68, "TRIPLE HORIZONTAL BAR WITH ", "DOUBLE VERTICAL STROKE,TRIPLE VERTICAL STROKE"⟩,
    ⟨0x2A6A, "TILDE OPERATOR WITH ", "DOT ABOVE,RISING DOTS"⟩,
    ⟨0x2A6C, "", "SIMILAR MINUS SIMILAR,CONGRUENT WITH DOT ABOVE"⟩,
    ⟨0x2A6E, "", "EQUALS WITH ASTERISK,ALMOST EQUAL TO WITH CIRCUMFLEX ACCENT"⟩,
    ⟨0x2A70, "", "APPROXIMATELY EQUAL OR EQUAL TO,EQUALS SIGN ABOVE PLUS SIGN"⟩,
    ⟨0x2A72, "", "PLUS SIGN ABOVE EQUALS SIGN,EQUALS SIGN ABOVE TILDE OPERATOR"⟩,
    ⟨0x2A74, "", "DOUBLE COLON EQUAL,TWO CONSECUTIVE EQUALS SIGNS,THREE CONSECUTIVE EQUALS SIGNS"⟩,
    ⟨0x2A77, "", "EQUALS SIGN WITH TWO DOTS ABOVE AND TWO DOTS BELOW"⟩,
    ⟨0x2A78, "", "EQUIVALENT WITH FOUR DOTS ABOVE,LESS-THAN WITH CIRCLE INSIDE"⟩,
    ⟨0x2A7A, "", "GREATER-THAN WITH CIRCLE INSIDE,LESS-THAN WITH QUESTION MARK ABOVE"⟩,
    ⟨0x2A7C, "", "GREATER-THAN WITH QUESTION MARK ABOVE,LESS-THAN OR SLANTED EQUAL TO"⟩,
    ⟨0x2A7E, "", "GREATER-THAN OR SLANTED EQUAL TO,LESS-THAN OR SLANTED EQUAL TO WITH DOT INSIDE"⟩,
    ⟨0x2A80, "", "GREATER-THAN OR SLANTED EQUAL TO WITH DOT INSIDE"⟩,
    ⟨0x2A81, "", "LESS-THAN OR SLANTED EQUAL TO WITH DOT ABOVE"⟩,
    ⟨0x2A82, "", "GREATER-THAN OR SLANTED EQUAL TO WITH DOT ABOVE"⟩,
    ⟨0x2A83, "", "LESS-THAN OR SLANTED EQUAL TO WITH DOT ABOVE RIGHT"⟩,
    ⟨0x2A84, "", "GREATER-THAN OR SLANTED EQUAL TO WITH DOT ABOVE LEFT,LESS-THAN OR APPROXIMATE"⟩,
    ⟨0x2A86, "", "GREATER-THAN OR APPROXIMATE,LESS-THAN AND SINGLE-LINE NOT EQUAL TO"⟩,
    ⟨0x2A88, "", "GREATER-THAN AND SINGLE-LINE NOT EQUAL TO"⟩,
    ⟨0x2A89, "", "LESS-THAN AND NOT APPROXIMATE,GREATER-THAN AND NOT APPROXIMATE"⟩,
    ⟨0x2A8B, "", "LESS-THAN ABOVE DOUBLE-LINE EQUAL ABOVE GREATER-THAN"⟩,
    ⟨0x2A8C, "", "GREATER-THAN ABOVE DOUBLE-LINE EQUAL ABOVE LESS-THAN"⟩,
    ⟨0x2A8D, "", "LESS-THAN ABOVE SIMILAR OR EQUAL"⟩,
    ⟨0x2A8E, "", "GREATER-THAN ABOVE SIMILAR OR EQUAL,LESS-THAN ABOVE SIMILAR ABOVE GREATER-THAN"⟩,
    ⟨0x2A90, "", "GREATER-THAN ABOVE SIMILAR ABOVE LESS-THAN"⟩,
    ⟨0x2A91, "", "LESS-THAN ABOVE GREATER-THAN ABOVE DOUBLE-LINE EQUAL"⟩,
    ⟨0x2A92, "", "GREATER-THAN ABOVE LESS-THAN ABOVE DOUBLE-LINE EQUAL"⟩,
    ⟨0x2A93, "", "LESS-THAN ABOVE SLANTED EQUAL ABOVE GREATER-THAN ABOVE SLANTED EQUAL"⟩,
    ⟨0x2A94, "", "GREATER-THAN ABOVE SLANTED EQUAL ABOVE LESS-THAN ABOVE SLANTED EQUAL"⟩,
    ⟨0x2A95, "SLANTED EQUAL TO OR ", "LESS-THAN,GREATER-THAN"⟩,
    ⟨0x2A97, "SLANTED EQUAL TO OR ", "LESS-THAN WITH DOT INSIDE,GREATER-THAN WITH DOT INSIDE"⟩,
    ⟨0x2A99, "DOUBLE-LINE EQUAL TO OR ", "LESS-THAN,GREATER-THAN"⟩,
    ⟨0x2A9B, "DOUBLE-LINE SLANTED EQUAL TO OR ", "LESS-THAN,GREATER-THAN"⟩,
    ⟨0x2A9D, "SIMILAR OR ", "LESS-THAN,GREATER-THAN"⟩,
    ⟨0x2A9F, "SIMILAR ABOVE ", "LESS-THAN ABOVE EQUALS SIGN,GREATER-THAN ABOVE EQUALS SIGN"⟩,
    ⟨0x2AA1, "DOUBLE NESTED ", "LESS-THAN,GREATER-THAN,LESS-THAN WITH UNDERBAR"⟩,
    ⟨0x2AA4, "GREATER-THAN ", "OVERLAPPING LESS-THAN,BESIDE LESS-THAN"⟩,
    ⟨0x2AA6, "", "LESS-THAN CLOSED BY CURVE"⟩,
    ⟨0x2AA7, "", "GREATER-THAN CLOSED BY CURVE,LESS-THAN CLOSED BY CURVE ABOVE SLANTED EQUAL"⟩,
    ⟨0x2AA9, "", "GREATER-THAN CLOSED BY CURVE ABOVE SLANTED EQUAL,SMALLER THAN,LARGER THAN"⟩,
    ⟨0x2AAC, "", "SMALLER THAN OR EQUAL TO,LARGER THAN OR EQUAL TO,EQUALS SIGN WITH BUMPY ABOVE"⟩,
    ⟨0x2AAF, "", "PRECEDES ABOVE SINGLE-LINE EQUALS SIGN,SUCCEEDS ABOVE SINGLE-LINE EQUALS SIGN"⟩,
    ⟨0x2AB1, "", "PRECEDES ABOVE SINGLE-LINE NOT EQUAL TO,SUCCEEDS ABOVE SINGLE-LINE NOT EQUAL TO"⟩,
    ⟨0x2AB3, "", "PRECEDES ABOVE EQUALS SIGN,SUCCEEDS ABOVE EQUALS SIGN"⟩,
    ⟨0x2AB5, "", "PRECEDES ABOVE NOT EQUAL TO,SUCCEEDS ABOVE NOT EQUAL TO"⟩,
    ⟨0x2AB7, "", "PRECEDES ABOVE ALMOST EQUAL TO,SUCCEEDS ABOVE ALMOST EQUAL TO"⟩,
    ⟨0x2AB9, "", "PRECEDES ABOVE NOT ALMOST EQUAL TO,SUCCEEDS ABOVE NOT ALMOST EQUAL TO"⟩,
    ⟨0x2ABB, "", "DOUBLE PRECEDES,DOUBLE SUCCEEDS,SUBSET WITH DOT"⟩,
    ⟨0x2ABE, "", "SUPERSET WITH DOT,SUBSET WITH PLUS SIGN BELOW,SUPERSET WITH PLUS SIGN BELOW"⟩,
    ⟨0x2AC1, "", "SUBSET WITH MULTIPLICATION SIGN BELOW,SUPERSET WITH MULTIPLICATION SIGN BELOW"⟩,
    ⟨0x2AC3, "", "SUBSET OF OR EQUAL TO WITH DOT ABOVE,SUPERSET OF OR EQUAL TO WITH DOT ABOVE"⟩,
    ⟨0x2AC5, "", "SUBSET OF ABOVE EQUALS SIGN,SUPERSET OF ABOVE EQUALS SIGN"⟩,
    ⟨0x2AC7, "", "SUBSET OF ABOVE TILDE OPERATOR,SUPERSET OF ABOVE TILDE OPERATOR"⟩,
    ⟨0x2AC9, "", "SUBSET OF ABOVE ALMOST EQUAL TO,SUPERSET OF ABOVE ALMOST EQUAL TO"⟩,
    ⟨0x2ACB, "", "SUBSET OF ABOVE NOT EQUAL TO,SUPERSET OF ABOVE NOT EQUAL TO"⟩,
    ⟨0x2ACD, "SQUARE ", "LEFT OPEN BOX OPERATOR,RIGHT OPEN BOX OPERATOR"⟩,
    ⟨0x2ACF, "CLOSED ", "SUBSET,SUPERSET,SUBSET OR EQUAL TO,SUPERSET OR EQUAL TO"⟩,
    ⟨0x2AD3, "", "SUBSET ABOVE SUPERSET,SUPERSET ABOVE SUBSET,SUBSET ABOVE SUBSET"⟩,
    ⟨0x2AD6, "SUPERSET ", "ABOVE SUPERSET,BESIDE SUBSET,BESIDE AND JOINED BY DASH WITH SUBSET"⟩,
    ⟨0x2AD9, "", "ELEMENT OF OPENING DOWNWARDS"⟩,
    ⟨0x2ADA, "", "PITCHFORK WITH TEE TOP,TRANSVERSAL INTERSECTION,FORKING"⟩,
    ⟨0x2ADD, "", "NONFORKING,SHORT LEFT TACK,SHORT DOWN TACK,SHORT UP TACK,PERPENDICULAR WITH S"⟩,
    ⟨0x2AE2, "", "VERTICAL BAR TRIPLE RIGHT TURNSTILE,DOUBLE VERTICAL BAR LEFT TURNSTILE"⟩,
    ⟨0x2AE4, "", "VERTICAL BAR DOUBLE LEFT TURNSTILE,DOUBLE VERTICAL BAR DOUBLE LEFT TURNSTILE"⟩,
    ⟨0x2AE6, "", "LONG DASH FROM LEFT MEMBER OF DOUBLE VERTICAL,SHORT DOWN TACK WITH OVERBAR"⟩,
    ⟨0x2AE8, "SHORT UP TACK ", "WITH UNDERBAR,ABOVE SHORT DOWN TACK"⟩,
    ⟨0x2AEA, "DOUBLE ", "DOWN TACK,UP TACK,STROKE NOT SIGN"⟩,
    ⟨0x2AED, "", "REVERSED DOUBLE STROKE NOT SIGN,DOES NOT DIVIDE WITH REVERSED NEGATION SLASH"⟩,
    ⟨0x2AEF, "VERTICAL LINE WITH CIRCLE ", "ABOVE,BELOW"⟩,
    ⟨0x2AF1, "", "DOWN TACK WITH CIRCLE BELOW"⟩,
    ⟨0x2AF2, "PARALLEL WITH ", "HORIZONTAL STROKE,TILDE OPERATOR"⟩,
    ⟨0x2AF4, "TRIPLE VERTICAL BAR ", "BINARY RELATION,WITH HORIZONTAL STROKE"⟩,
    ⟨0x2AF6, "TRIPLE ", "COLON OPERATOR,NESTED LESS-THAN,NESTED GREATER-THAN"⟩,
    ⟨0x2AF9, "DOUBLE-LINE SLANTED ", "LESS-THAN OR EQUAL TO,GREATER-THAN OR EQUAL TO"⟩,
    ⟨0x2AFB, "", "TRIPLE SOLIDUS BINARY RELATION,LARGE TRIPLE VERTICAL BAR OPERATOR"⟩,
    ⟨0x2AFD, "", "DOUBLE SOLIDUS OPERATOR,WHITE VERTICAL BAR,N-ARY WHITE VERTICAL BAR"⟩,
    ⟨0x2B00, "NORTH ", "EAST WHITE ARROW,WEST WHITE ARROW"⟩,
    ⟨0x2B02, "", "SOUTH EAST WHITE ARROW,SOUTH WEST WHITE ARROW,LEFT RIGHT WHITE ARROW"⟩,
    ⟨0x2B05, "", "LEFTWARDS BLACK ARROW,UPWARDS BLACK ARROW,DOWNWARDS BLACK ARROW"⟩,
    ⟨0x2B08, "", "NORTH EAST BLACK ARROW,NORTH WEST BLACK ARROW,SOUTH EAST BLACK ARROW"⟩,
    ⟨0x2B0B, "", "SOUTH WEST BLACK ARROW,LEFT RIGHT BLACK ARROW,UP DOWN BLACK ARROW"⟩,
    ⟨0x2B0E, "RIGHTWARDS ARROW WITH TIP ", "DOWNWARDS,UPWARDS"⟩,
    ⟨0x2B10, "LEFTWARDS ARROW WITH TIP ", "DOWNWARDS,UPWARDS"⟩,
    ⟨0x2B12, "SQUARE WITH ", "TOP HALF BLACK,BOTTOM HALF BLACK"⟩,
    ⟨0x2B14, "SQUARE WITH ", "UPPER RIGHT DIAGONAL HALF BLACK,LOWER LEFT DIAGONAL HALF BLACK"⟩,
    ⟨0x2B16, "DIAMOND WITH ", "LEFT HALF BLACK,RIGHT HALF BLACK,TOP HALF BLACK,BOTTOM HALF BLACK"⟩,
    ⟨0x2B1A, "", "DOTTED SQUARE,BLACK LARGE SQUARE,WHITE LARGE SQUARE,BLACK VERY SMALL SQUARE"⟩,
    ⟨0x2B1E, "", "WHITE VERY SMALL SQUARE,BLACK PENTAGON,WHITE PENTAGON,WHITE HEXAGON"⟩,
    ⟨0x2B22, "", "BLACK HEXAGON,HORIZONTAL BLACK HEXAGON,BLACK LARGE CIRCLE,BLACK MEDIUM DIAMOND"⟩,
    ⟨0x2B26, "", "WHITE MEDIUM DIAMOND,BLACK MEDIUM LOZENGE,WHITE MEDIUM LOZENGE"⟩,
    ⟨0x2B29, "", "BLACK SMALL DIAMOND,BLACK SMALL LOZENGE,WHITE SMALL LOZENGE"⟩,
    ⟨0x2B2C, "", "BLACK HORIZONTAL ELLIPSE,WHITE HORIZONTAL ELLIPSE,BLACK VERTICAL ELLIPSE"⟩,
    ⟨0x2B2F, "", "WHITE VERTICAL ELLIPSE,LEFT ARROW WITH SMALL CIRCLE,THREE LEFTWARDS ARROWS"⟩,
    ⟨0x2B32, "", "LEFT ARROW WITH CIRCLED PLUS,LONG LEFTWARDS SQUIGGLE ARROW"⟩,
    ⟨0x2B34, "LEFTWARDS TWO-HEADED ARROW WITH ", "VERTICAL STROKE,DOUBLE VERTICAL STROKE"⟩,
    ⟨0x2B36, "LEFTWARDS TWO-HEADED ", "ARROW FROM BAR,TRIPLE DASH ARROW"⟩,
    ⟨0x2B38, "", "LEFTWARDS ARROW WITH DOTTED STEM"⟩,
    ⟨0x2B39, "LEFTWARDS ARROW WITH TAIL WITH ", "VERTICAL STROKE,DOUBLE VERTICAL STROKE"⟩,
    ⟨0x2B3B, "LEFTWARDS TWO-HEADED ARROW WITH ", "TAIL,TAIL WITH VERTICAL STROKE"⟩,
    ⟨0x2B3D, "", "LEFTWARDS TWO-HEADED ARROW WITH TAIL WITH DOUBLE VERTICAL STROKE"⟩,
    ⟨0x2B3E, "", "LEFTWARDS ARROW THROUGH X,WAVE ARROW POINTING DIRECTLY LEFT"⟩,
    ⟨0x2B40, "", "EQUALS SIGN ABOVE LEFTWARDS ARROW,REVERSE TILDE OPERATOR ABOVE LEFTWARDS ARROW"⟩,
    ⟨0x2B42, "", "LEFTWARDS ARROW ABOVE REVERSE ALMOST EQUAL TO"⟩,
    ⟨0x2B43, "RIGHTWARDS ARROW THROUGH ", "GREATER-THAN,SUPERSET"⟩,
    ⟨0x2B45, "", "LEFTWARDS QUADRUPLE ARROW"⟩,
    ⟨0x2B46, "", "RIGHTWARDS QUADRUPLE ARROW,REVERSE TILDE OPERATOR ABOVE RIGHTWARDS ARROW"⟩,
    ⟨0x2B48, "", "RIGHTWARDS ARROW ABOVE REVERSE ALMOST EQUAL TO"⟩,
    ⟨0x2B49, "", "TILDE OPERATOR ABOVE LEFTWARDS ARROW"⟩,
    ⟨0x2B4A, "LEFTWARDS ARROW ABOVE ", "ALMOST EQUAL TO,REVERSE TILDE OPERATOR"⟩,
    ⟨0x2B4C, "", "RIGHTWARDS ARROW ABOVE REVERSE TILDE OPERATOR"⟩,
    ⟨0x2B4D, "", "DOWNWARDS TRIANGLE-HEADED ZIGZAG ARROW"⟩,
    ⟨0x2B4E, "SHORT ", "SLANTED NORTH ARROW,BACKSLANTED SOUTH ARROW"⟩,
    ⟨0x2B50, "", "WHITE MEDIUM STAR,BLACK SMALL STAR,WHITE SMALL STAR"⟩,
    ⟨0x2B53, "", "BLACK RIGHT-POINTING PENTAGON,WHITE RIGHT-POINTING PENTAGON,HEAVY LARGE CIRCLE"⟩,
    ⟨0x2B56, "HEAVY ", "OVAL WITH OVAL INSIDE,CIRCLE WITH CIRCLE INSIDE,CIRCLE,CIRCLED SALTIRE"⟩,
    ⟨0x2B5A, "", "SLANTED NORTH ARROW WITH HOOKED HEAD,BACKSLANTED SOUTH ARROW WITH HOOKED TAIL"⟩,
    ⟨0x2B5C, "", "SLANTED NORTH ARROW WITH HORIZONTAL TAIL"⟩,
    ⟨0x2B5D, "", "BACKSLANTED SOUTH ARROW WITH HORIZONTAL TAIL"⟩,
    ⟨0x2B5E, "", "BENT ARROW POINTING DOWNWARDS THEN NORTH EAST"⟩,
    ⟨0x2B5F, "", "SHORT BENT ARROW POINTING DOWNWARDS THEN NORTH EAST"⟩,
    ⟨0x2B60, "", "LEFTWARDS TRIANGLE-HEADED ARROW,UPWARDS TRIANGLE-HEADED ARROW"⟩,
    ⟨0x2B62, "", "RIGHTWARDS TRIANGLE-HEADED ARROW,DOWNWARDS TRIANGLE-HEADED ARROW"⟩,
    ⟨0x2B64, "", "LEFT RIGHT TRIANGLE-HEADED ARROW,UP DOWN TRIANGLE-HEADED ARROW"⟩,
    ⟨0x2B66, "NORTH ", "WEST TRIANGLE-HEADED ARROW,EAST TRIANGLE-HEADED ARROW"⟩,
    ⟨0x2B68, "SOUTH ", "EAST TRIANGLE-HEADED ARROW,WEST TRIANGLE-HEADED ARROW"⟩,
    ⟨0x2B6A, "", "LEFTWARDS TRIANGLE-HEADED DASHED ARROW,UPWARDS TRIANGLE-HEADED DASHED ARROW"⟩,
    ⟨0x2B6C, "", "RIGHTWARDS TRIANGLE-HEADED DASHED ARROW,DOWNWARDS TRIANGLE-HEADED DASHED ARROW"⟩,
    ⟨0x2B6E, "", "CLOCKWISE TRIANGLE-HEADED OPEN CIRCLE ARROW"⟩,
    ⟨0x2B6F, "", "ANTICLOCKWISE TRIANGLE-HEADED OPEN CIRCLE ARROW"⟩,
    ⟨0x2B70, "", "LEFTWARDS TRIANGLE-HEADED ARROW TO BAR,UPWARDS TRIANGLE-HEADED ARROW TO BAR"⟩,
    ⟨0x2B72, "", "RIGHTWARDS TRIANGLE-HEADED ARROW TO BAR,DOWNWARDS TRIANGLE-HEADED ARROW TO BAR"⟩,
    ⟨0x2B76, "NORTH ", "WEST TRIANGLE-HEADED ARROW TO BAR,EAST TRIANGLE-HEADED ARROW TO BAR"⟩,
    ⟨0x2B78, "SOUTH ", "EAST TRIANGLE-HEADED ARROW TO BAR,WEST TRIANGLE-HEADED ARROW TO BAR"⟩,
    ⟨0x2B7A, "", "LEFTWARDS TRIANGLE-HEADED ARROW WITH DOUBLE HORIZONTAL STROKE"⟩,
    ⟨0x2B7B, "", "UPWARDS TRIANGLE-HEADED ARROW WITH DOUBLE HORIZONTAL STROKE"⟩,
    ⟨0x2B7C, "", "RIGHTWARDS TRIANGLE-HEADED ARROW WITH DOUBLE HORIZONTAL STROKE"⟩,
    ⟨0x2B7D, "", "DOWNWARDS TRIANGLE-HEADED ARROW WITH DOUBLE HORIZONTAL STROKE"⟩,
    ⟨0x2B7E, "", "HORIZONTAL TAB KEY,VERTICAL TAB KEY"⟩,
    ⟨0x2B80, "", "LEFTWARDS TRIANGLE-HEADED ARROW OVER RIGHTWARDS TRIANGLE-HEADED ARROW"⟩,
    ⟨0x2B81, "", "UPWARDS TRIANGLE-HEADED ARROW LEFTWARDS OF DOWNWARDS TRIANGLE-HEADED ARROW"⟩,
    ⟨0x2B82, "", "RIGHTWARDS TRIANGLE-HEADED ARROW OVER LEFTWARDS TRIANGLE-HEADED ARROW"⟩,
    ⟨0x2B83, "", "DOWNWARDS TRIANGLE-HEADED ARROW LEFTWARDS OF UPWARDS TRIANGLE-HEADED ARROW"⟩,
    ⟨0x2B84, "", "LEFTWARDS TRIANGLE-HEADED PAIRED ARROWS"⟩,
    ⟨0x2B85, "", "UPWARDS TRIANGLE-HEADED PAIRED ARROWS,RIGHTWARDS TRIANGLE-HEADED PAIRED ARROWS"⟩,
    ⟨0x2B87, "", "DOWNWARDS TRIANGLE-HEADED PAIRED ARROWS"⟩,
    ⟨0x2B88, "", "LEFTWARDS BLACK CIRCLED WHITE ARROW,UPWARDS BLACK CIRCLED WHITE ARROW"⟩,
    ⟨0x2B8A, "", "RIGHTWARDS BLACK CIRCLED WHITE ARROW,DOWNWARDS BLACK CIRCLED WHITE ARROW"⟩,
    ⟨0x2B8C, "ANTICLOCKWISE TRIANGLE-HEADED ", "RIGHT U-SHAPED ARROW,BOTTOM U-SHAPED ARROW"⟩,
    ⟨0x2B8E, "ANTICLOCKWISE TRIANGLE-HEADED ", "LEFT U-SHAPED ARROW,TOP U-SHAPED ARROW"⟩,
    ⟨0x2B90, "", "RETURN LEFT,RETURN RIGHT,NEWLINE LEFT"⟩,
    ⟨0x2B93, "", "NEWLINE RIGHT,FOUR CORNER ARROWS CIRCLING ANTICLOCKWISE,RIGHTWARDS BLACK ARROW"⟩,
    ⟨0x2B97, "", "SYMBOL FOR TYPE A ELECTRONICS"⟩,
    ⟨0x2B98, "", "THREE-D TOP-LIGHTED LEFTWARDS EQUILATERAL ARROWHEAD"⟩,
    ⟨0x2B99, "", "THREE-D RIGHT-LIGHTED UPWARDS EQUILATERAL ARROWHEAD"⟩,
    ⟨0x2B9A, "", "THREE-D TOP-LIGHTED RIGHTWARDS EQUILATERAL ARROWHEAD"⟩,
    ⟨0x2B9B, "", "THREE-D LEFT-LIGHTED DOWNWARDS EQUILATERAL ARROWHEAD"⟩,
    ⟨0x2B9C, "BLACK ", "LEFTWARDS EQUILATERAL ARROWHEAD,UPWARDS EQUILATERAL ARROWHEAD"⟩,
    ⟨0x2B9E, "BLACK ", "RIGHTWARDS EQUILATERAL ARROWHEAD,DOWNWARDS EQUILATERAL ARROWHEAD"⟩,
    ⟨0x2BA0, "DOWNWARDS TRIANGLE-HEADED ARROW WITH LONG TIP ", "LEFTWARDS,RIGHTWARDS"⟩,
    ⟨0x2BA2, "UPWARDS TRIANGLE-HEADED ARROW WITH LONG TIP ", "LEFTWARDS,RIGHTWARDS"⟩,
    ⟨0x2BA4, "", "LEFTWARDS TRIANGLE-HEADED ARROW WITH LONG TIP UPWARDS"⟩,
    ⟨0x2BA5, "", "RIGHTWARDS TRIANGLE-HEADED ARROW WITH LONG TIP UPWARDS"⟩,
    ⟨0x2BA6, "", "LEFTWARDS TRIANGLE-HEADED ARROW WITH LONG TIP DOWNWARDS"⟩,
    ⟨0x2BA7, "", "RIGHTWARDS TRIANGLE-HEADED ARROW WITH LONG TIP DOWNWARDS"⟩,
    ⟨0x2BA8, "BLACK CURVED DOWNWARDS AND ", "LEFTWARDS ARROW,RIGHTWARDS ARROW"⟩,
    ⟨0x2BAA, "BLACK CURVED UPWARDS AND ", "LEFTWARDS ARROW,RIGHTWARDS ARROW"⟩,
    ⟨0x2BAC, "BLACK CURVED ", "LEFTWARDS AND UPWARDS ARROW,RIGHTWARDS AND UPWARDS ARROW"⟩,
    ⟨0x2BAE, "BLACK CURVED ", "LEFTWARDS AND DOWNWARDS ARROW,RIGHTWARDS AND DOWNWARDS ARROW"⟩,
    ⟨0x2BB0, "RIBBON ARROW ", "DOWN LEFT,DOWN RIGHT,UP LEFT,UP RIGHT,LEFT UP,RIGHT UP,LEFT DOWN"⟩,
    ⟨0x2BB7, "", "RIBBON ARROW RIGHT DOWN,UPWARDS WHITE ARROW FROM BAR WITH HORIZONTAL BAR"⟩,
    ⟨0x2BB9, "", "UP ARROWHEAD IN A RECTANGLE BOX"⟩,
    ⟨0x2BBA, "OVERLAPPING ", "WHITE SQUARES,WHITE AND BLACK SQUARES,BLACK SQUARES"⟩,
    ⟨0x2BBD, "", "BALLOT BOX WITH LIGHT X,CIRCLED X,CIRCLED BOLD X"⟩,
    ⟨0x2BC0, "BLACK ", "SQUARE CENTRED,DIAMOND CENTRED"⟩,
    ⟨0x2BC2, "", "TURNED BLACK PENTAGON,HORIZONTAL BLACK OCTAGON,BLACK OCTAGON"⟩,
    ⟨0x2BC5, "BLACK MEDIUM ", "UP-POINTING TRIANGLE CENTRED,DOWN-POINTING TRIANGLE CENTRED"⟩,
    ⟨0x2BC7, "BLACK MEDIUM ", "LEFT-POINTING TRIANGLE CENTRED,RIGHT-POINTING TRIANGLE CENTRED"⟩,
    ⟨0x2BC9, "", "NEPTUNE FORM TWO,TOP HALF BLACK CIRCLE,BOTTOM HALF BLACK CIRCLE"⟩,
    ⟨0x2BCC, "", "LIGHT FOUR POINTED BLACK CUSP,ROTATED LIGHT FOUR POINTED BLACK CUSP"⟩,
    ⟨0x2BCE, "", "WHITE FOUR POINTED CUSP,ROTATED WHITE FOUR POINTED CUSP"⟩,
    ⟨0x2BD0, "", "SQUARE POSITION INDICATOR,UNCERTAINTY SIGN,GROUP MARK"⟩,
    ⟨0x2BD3, "PLUTO FORM ", "TWO,THREE,FOUR,FIVE"⟩,
    ⟨0x2BD7, "", "TRANSPLUTO,PROSERPINA,ASTRAEA,HYGIEA,PHOLUS,NESSUS,WHITE MOON SELENA"⟩,
    ⟨0x2BDE, "", "BLACK DIAMOND ON CROSS,TRUE LIGHT MOON ARTA,CUPIDO,HADES,ZEUS,KRONOS"⟩,
    ⟨0x2BE4, "", "APOLLON,ADMETOS,VULCANUS,POSEIDON,LEFT HALF BLACK STAR,RIGHT HALF BLACK STAR"⟩,
    ⟨0x2BEA, "STAR WITH ", "LEFT HALF BLACK,RIGHT HALF BLACK"⟩,
    ⟨0x2BEC, "", "LEFTWARDS TWO-HEADED ARROW WITH TRIANGLE ARROWHEADS"⟩,
    ⟨0x2BED, "", "UPWARDS TWO-HEADED ARROW WITH TRIANGLE ARROWHEADS"⟩,
    ⟨0x2BEE, "", "RIGHTWARDS TWO-HEADED ARROW WITH TRIANGLE ARROWHEADS"⟩,
    ⟨0x2BEF, "", "DOWNWARDS TWO-HEADED ARROW WITH TRIANGLE ARROWHEADS"⟩,
    ⟨0x2BF0, "", "ERIS FORM ONE,ERIS FORM TWO,SEDNA"⟩,
    ⟨0x2BF3, "RUSSIAN ASTROLOGICAL SYMBOL ", "VIGINTILE,NOVILE,QUINTILE,BINOVILE,SENTAGON"⟩,
    ⟨0x2BF8, "", "RUSSIAN ASTROLOGICAL SYMBOL TREDECILE,EQUALS SIGN WITH INFINITY BELOW"⟩,
    ⟨0x2BFA, "", "UNITED SYMBOL,SEPARATED SYMBOL,DOUBLED SYMBOL,PASSED SYMBOL"⟩,
    ⟨0x2BFE, "", "REVERSED RIGHT ANGLE,HELLSCHREIBER PAUSE SYMBOL,GLAGOLITIC CAPITAL LETTER AZU"⟩,
    ⟨0x2C01, "GLAGOLITIC CAPITAL LETTER ", "BUKY,VEDE,GLAGOLI,DOBRO,YESTU,ZHIVETE,DZELO,ZEMLJA"⟩,
    ⟨0x2C09, "GLAGOLITIC CAPITAL LETTER ", "IZHE,INITIAL IZHE,I,DJERVI,KAKO,LJUDIJE,MYSLITE"⟩,
    ⟨0x2C10, "GLAGOLITIC CAPITAL LETTER ", "NASHI,ONU,POKOJI,RITSI,SLOVO,TVRIDO,UKU,FRITU,HERU"⟩,
    ⟨0x2C19, "GLAGOLITIC CAPITAL LETTER ", "OTU,PE,SHTA,TSI,CHRIVI,SHA,YERU,YERI,YATI,SPIDERY HA"⟩,
    ⟨0x2C23, "GLAGOLITIC CAPITAL LETTER ", "YU,SMALL YUS,SMALL YUS WITH TAIL,YO,IOTATED SMALL YUS"⟩,
    ⟨0x2C28, "GLAGOLITIC CAPITAL LETTER ", "BIG YUS,IOTATED BIG YUS,FITA,IZHITSA"⟩,
    ⟨0x2C2C, "GLAGOLITIC CAPITAL LETTER ", "SHTAPIC,TROKUTASTI A,LATINATE MYSLITE,CAUDATE CHRIVI"⟩,
    ⟨0x2C30, "GLAGOLITIC SMALL LETTER ", "AZU,BUKY,VEDE,GLAGOLI,DOBRO,YESTU"⟩,
    ⟨0x2C36, "GLAGOLITIC SMALL LETTER ", "ZHIVETE,DZELO,ZEMLJA,IZHE,INITIAL IZHE,I,DJERVI,KAKO"⟩,
    ⟨0x2C3E, "GLAGOLITIC SMALL LETTER ", "LJUDIJE,MYSLITE,NASHI,ONU,POKOJI,RITSI,SLOVO,TVRIDO"⟩,
    ⟨0x2C46, "GLAGOLITIC SMALL LETTER ", "UKU,FRITU,HERU,OTU,PE,SHTA,TSI,CHRIVI,SHA,YERU,YERI"⟩,
    ⟨0x2C51, "GLAGOLITIC SMALL LETTER ", "YATI,SPIDERY HA,YU,SMALL YUS,SMALL YUS WITH TAIL,YO"⟩,
    ⟨0x2C57, "GLAGOLITIC SMALL LETTER ", "IOTATED SMALL YUS,BIG YUS,IOTATED BIG YUS,FITA,IZHITSA"⟩,
    ⟨0x2C5C, "GLAGOLITIC SMALL LETTER ", "SHTAPIC,TROKUTASTI A,LATINATE MYSLITE,CAUDATE CHRIVI"⟩,
    ⟨0x2C60, "LATIN ", "CAPITAL LETTER L WITH DOUBLE BAR,SMALL LETTER L WITH DOUBLE BAR"⟩,
    ⟨0x2C62, "LATIN CAPITAL LETTER ", "L WITH MIDDLE TILDE,P WITH STROKE,R WITH TAIL"⟩,
    ⟨0x2C65, "LATIN SMALL LETTER ", "A WITH STROKE,T WITH DIAGONAL STROKE"⟩,
    ⟨0x2C67, "LATIN ", "CAPITAL LETTER H WITH DESCENDER,SMALL LETTER H WITH DESCENDER"⟩,
    ⟨0x2C69, "LATIN ", "CAPITAL LETTER K WITH DESCENDER,SMALL LETTER K WITH DESCENDER"⟩,
    ⟨0x2C6B, "LATIN ", "CAPITAL LETTER Z WITH DESCENDER,SMALL LETTER Z WITH DESCENDER"⟩,
    ⟨0x2C6D, "LATIN CAPITAL LETTER ", "ALPHA,M WITH HOOK,TURNED A,TURNED ALPHA"⟩,
    ⟨0x2C71, "LATIN ", "SMALL LETTER V WITH RIGHT HOOK,CAPITAL LETTER W WITH HOOK"⟩,
    ⟨0x2C73, "LATIN ", "SMALL LETTER W WITH HOOK,SMALL LETTER V WITH CURL,CAPITAL LETTER HALF H"⟩,
    ⟨0x2C76, "LATIN SMALL LETTER ", "HALF H,TAILLESS PHI,E WITH NOTCH,TURNED R WITH TAIL"⟩,
    ⟨0x2C7A, "LATIN ", "SMALL LETTER O WITH LOW RING INSIDE,LETTER SMALL CAPITAL TURNED E"⟩,
    ⟨0x2C7C, "", "LATIN SUBSCRIPT SMALL LETTER J,MODIFIER LETTER CAPITAL V"⟩,
    ⟨0x2C7E, "LATIN CAPITAL LETTER ", "S WITH SWASH TAIL,Z WITH SWASH TAIL"⟩,
    ⟨0x2C80, "COPTIC ", "CAPITAL LETTER ALFA,SMALL LETTER ALFA,CAPITAL LETTER VIDA"⟩,
    ⟨0x2C83, "COPTIC ", "SMALL LETTER VIDA,CAPITAL LETTER GAMMA,SMALL LETTER GAMMA"⟩,
    ⟨0x2C86, "COPTIC ", "CAPITAL LETTER DALDA,SMALL LETTER DALDA,CAPITAL LETTER EIE"⟩,
    ⟨0x2C89, "COPTIC ", "SMALL LETTER EIE,CAPITAL LETTER SOU,SMALL LETTER SOU,CAPITAL LETTER ZATA"⟩,
    ⟨0x2C8D, "COPTIC ", "SMALL LETTER ZATA,CAPITAL LETTER HATE,SMALL LETTER HATE"⟩,
    ⟨0x2C90, "COPTIC ", "CAPITAL LETTER THETHE,SMALL LETTER THETHE,CAPITAL LETTER IAUDA"⟩,
    ⟨0x2C93, "COPTIC ", "SMALL LETTER IAUDA,CAPITAL LETTER KAPA,SMALL LETTER KAPA"⟩,
    ⟨0x2C96, "COPTIC ", "CAPITAL LETTER LAULA,SMALL LETTER LAULA,CAPITAL LETTER MI"⟩,
    ⟨0x2C99, "COPTIC ", "SMALL LETTER MI,CAPITAL LETTER NI,SMALL LETTER NI,CAPITAL LETTER KSI"⟩,
    ⟨0x2C9D, "COPTIC ", "SMALL LETTER KSI,CAPITAL LETTER O,SMALL LETTER O,CAPITAL LETTER PI"⟩,
    ⟨0x2CA1, "COPTIC ", "SMALL LETTER PI,CAPITAL LETTER RO,SMALL LETTER RO,CAPITAL LETTER SIMA"⟩,
    ⟨0x2CA5, "COPTIC ", "SMALL LETTER SIMA,CAPITAL LETTER TAU,SMALL LETTER TAU"⟩,
    ⟨0x2CA8, "COPTIC ", "CAPITAL LETTER UA,SMALL LETTER UA,CAPITAL LETTER FI,SMALL LETTER FI"⟩,
    ⟨0x2CAC, "COPTIC ", "CAPITAL LETTER KHI,SMALL LETTER KHI,CAPITAL LETTER PSI,SMALL LETTER PSI"⟩,
    ⟨0x2CB0, "COPTIC ", "CAPITAL LETTER OOU,SMALL LETTER OOU,CAPITAL LETTER DIALECT-P ALEF"⟩,
    ⟨0x2CB3, "COPTIC ", "SMALL LETTER DIALECT-P ALEF,CAPITAL LETTER OLD COPTIC AIN"⟩,
    ⟨0x2CB5, "COPTIC ", "SMALL LETTER OLD COPTIC AIN,CAPITAL LETTER CRYPTOGRAMMIC EIE"⟩,
    ⟨0x2CB7, "COPTIC ", "SMALL LETTER CRYPTOGRAMMIC EIE,CAPITAL LETTER DIALECT-P KAPA"⟩,
    ⟨0x2CB9, "COPTIC ", "SMALL LETTER DIALECT-P KAPA,CAPITAL LETTER DIALECT-P NI"⟩,
    ⟨0x2CBB, "COPTIC ", "SMALL LETTER DIALECT-P NI,CAPITAL LETTER CRYPTOGRAMMIC NI"⟩,
    ⟨0x2CBD, "COPTIC ", "SMALL LETTER CRYPTOGRAMMIC NI,CAPITAL LETTER OLD COPTIC OOU"⟩,
    ⟨0x2CBF, "COPTIC ", "SMALL LETTER OLD COPTIC OOU,CAPITAL LETTER SAMPI"⟩,
    ⟨0x2CC1, "COPTIC ", "SMALL LETTER SAMPI,CAPITAL LETTER CROSSED SHEI,SMALL LETTER CROSSED SHEI"⟩,
    ⟨0x2CC4, "COPTIC ", "CAPITAL LETTER OLD COPTIC SHEI,SMALL LETTER OLD COPTIC SHEI"⟩,
    ⟨0x2CC6, "COPTIC ", "CAPITAL LETTER OLD COPTIC ESH,SMALL LETTER OLD COPTIC ESH"⟩,
    ⟨0x2CC8, "COPTIC ", "CAPITAL LETTER AKHMIMIC KHEI,SMALL LETTER AKHMIMIC KHEI"⟩,
    ⟨0x2CCA, "COPTIC ", "CAPITAL LETTER DIALECT-P HORI,SMALL LETTER DIALECT-P HORI"⟩,
    ⟨0x2CCC, "COPTIC ", "CAPITAL LETTER OLD COPTIC HORI,SMALL LETTER OLD COPTIC HORI"⟩,
    ⟨0x2CCE, "COPTIC ", "CAPITAL LETTER OLD COPTIC HA,SMALL LETTER OLD COPTIC HA"⟩,
    ⟨0x2CD0, "COPTIC ", "CAPITAL LETTER L-SHAPED HA,SMALL LETTER L-SHAPED HA"⟩,
    ⟨0x2CD2, "COPTIC ", "CAPITAL LETTER OLD COPTIC HEI,SMALL LETTER OLD COPTIC HEI"⟩,
    ⟨0x2CD4, "COPTIC ", "CAPITAL LETTER OLD COPTIC HAT,SMALL LETTER OLD COPTIC HAT"⟩,
    ⟨0x2CD6, "COPTIC ", "CAPITAL LETTER OLD COPTIC GANGIA,SMALL LETTER OLD COPTIC GANGIA"⟩,
    ⟨0x2CD8, "COPTIC ", "CAPITAL LETTER OLD COPTIC DJA,SMALL LETTER OLD COPTIC DJA"⟩,
    ⟨0x2CDA, "COPTIC ", "CAPITAL LETTER OLD COPTIC SHIMA,SMALL LETTER OLD COPTIC SHIMA"⟩,
    ⟨0x2CDC, "COPTIC ", "CAPITAL LETTER OLD NUBIAN SHIMA,SMALL LETTER OLD NUBIAN SHIMA"⟩,
    ⟨0x2CDE, "COPTIC ", "CAPITAL LETTER OLD NUBIAN NGI,SMALL LETTER OLD NUBIAN NGI"⟩,
    ⟨0x2CE0, "COPTIC ", "CAPITAL LETTER OLD NUBIAN NYI,SMALL LETTER OLD NUBIAN NYI"⟩,
    ⟨0x2CE2, "COPTIC ", "CAPITAL LETTER OLD NUBIAN WAU,SMALL LETTER OLD NUBIAN WAU"⟩,
    ⟨0x2CE4, "COPTIC SYMBOL ", "KAI,MI RO,PI RO,STAUROS,TAU RO,KHI RO,SHIMA SIMA"⟩,
    ⟨0x2CEB, "COPTIC ", "CAPITAL LETTER CRYPTOGRAMMIC SHEI,SMALL LETTER CRYPTOGRAMMIC SHEI"⟩,
    ⟨0x2CED, "COPTIC ", "CAPITAL LETTER CRYPTOGRAMMIC GANGIA,SMALL LETTER CRYPTOGRAMMIC GANGIA"⟩,
    ⟨0x2CEF, "COPTIC COMBINING ", "NI ABOVE,SPIRITUS ASPER,SPIRITUS LENIS"⟩,
    ⟨0x2CF2, "COPTIC ", "CAPITAL LETTER BOHAIRIC KHEI,SMALL LETTER BOHAIRIC KHEI"⟩,
    ⟨0x2CF9, "", "COPTIC OLD NUBIAN FULL STOP"⟩,
    ⟨0x2CFA, "COPTIC OLD NUBIAN ", "DIRECT QUESTION MARK,INDIRECT QUESTION MARK,VERSE DIVIDER"⟩,
    ⟨0x2CFD, "COPTIC ", "FRACTION ONE HALF,FULL STOP,MORPHOLOGICAL DIVIDER"⟩,
    ⟨0x2D00, "GEORGIAN SMALL LETTER ", "AN,BAN,GAN,DON,EN,VIN,ZEN,TAN,IN,KAN"⟩,
    ⟨0x2D0A, "GEORGIAN SMALL LETTER ", "LAS,MAN,NAR,ON,PAR,ZHAR,RAE,SAN,TAR,UN,PHAR,KHAR,GHAN,QAR"⟩,
    ⟨0x2D18, "GEORGIAN SMALL LETTER ", "SHIN,CHIN,CAN,JIL,CIL,CHAR,XAN,JHAN,HAE,HE,HIE,WE,HAR,HOE"⟩,
    ⟨0x2D27, "", "GEORGIAN SMALL LETTER YN"⟩,
    ⟨0x2D2D, "", "GEORGIAN SMALL LETTER AEN"⟩,
    ⟨0x2D30, "TIFINAGH LETTER ", "YA,YAB,YABH,YAG,YAGHH,BERBER ACADEMY YAJ,YAJ,YAD,YADH"⟩,
    ⟨0x2D39, "TIFINAGH LETTER ", "YADD,YADDH,YEY,YAF,YAK,TUAREG YAK,YAKHH,YAH,BERBER ACADEMY YAH"⟩,
    ⟨0x2D42, "TIFINAGH LETTER ", "TUAREG YAH,YAHH,YAA,YAKH,TUAREG YAKH,YAQ,TUAREG YAQ,YI,YAZH"⟩,
    ⟨0x2D4B, "TIFINAGH LETTER ", "AHAGGAR YAZH,TUAREG YAZH,YAL,YAM,YAN,TUAREG YAGN,TUAREG YANG"⟩,
    ⟨0x2D52, "TIFINAGH LETTER ", "YAP,YU,YAR,YARR,YAGH,TUAREG YAGH,AYER YAGH,YAS,YASS,YASH"⟩,
    ⟨0x2D5C, "TIFINAGH LETTER ", "YAT,YATH,YACH,YATT,YAV,YAW,YAY,YAZ,TAWELLEMET YAZ,YAZZ,YE,YO"⟩,
    ⟨0x2D6F, "TIFINAGH ", "MODIFIER LETTER LABIALIZATION MARK,SEPARATOR MARK"⟩,
    ⟨0x2D7F, "", "TIFINAGH CONSONANT JOINER"⟩,
    ⟨0x2D80, "ETHIOPIC SYLLABLE ", "LOA,MOA,ROA,SOA,SHOA,BOA,TOA,COA,NOA,NYOA,GLOTTAL OA"⟩,
    ⟨0x2D8B, "ETHIOPIC SYLLABLE ", "ZOA,DOA,DDOA,JOA,THOA,CHOA,PHOA,POA,GGWA,GGWI,GGWEE,GGWE"⟩,
    ⟨0x2DA0, "ETHIOPIC SYLLABLE ", "SSA,SSU,SSI,SSAA,SSEE,SSE,SSO"⟩,
    ⟨0x2DA8, "ETHIOPIC SYLLABLE ", "CCA,CCU,CCI,CCAA,CCEE,CCE,CCO"⟩,
    ⟨0x2DB0, "ETHIOPIC SYLLABLE ", "ZZA,ZZU,ZZI,ZZAA,ZZEE,ZZE,ZZO"⟩,
    ⟨0x2DB8, "ETHIOPIC SYLLABLE ", "CCHA,CCHU,CCHI,CCHAA,CCHEE,CCHE,CCHO"⟩,
    ⟨0x2DC0, "ETHIOPIC SYLLABLE ", "QYA,QYU,QYI,QYAA,QYEE,QYE,QYO"⟩,
    ⟨0x2DC8, "ETHIOPIC SYLLABLE ", "KYA,KYU,KYI,KYAA,KYEE,KYE,KYO"⟩,
    ⟨0x2DD0, "ETHIOPIC SYLLABLE ", "XYA,XYU,XYI,XYAA,XYEE,XYE,XYO"⟩,
    ⟨0x2DD8, "ETHIOPIC SYLLABLE ", "GYA,GYU,GYI,GYAA,GYEE,GYE,GYO"⟩,
    ⟨0x2DE0, "COMBINING CYRILLIC LETTER ", "BE,VE,GHE,DE,ZHE,ZE,KA,EL,EM,EN,O,PE,ER,ES,TE,HA"⟩,
    ⟨0x2DF0, "COMBINING CYRILLIC LETTER ", "TSE,CHE,SHA,SHCHA,FITA,ES-TE,A,IE,DJERV,MONOGRAPH UK"⟩,
    ⟨0x2DFA, "COMBINING CYRILLIC LETTER ", "YAT,YU,IOTIFIED A,LITTLE YUS,BIG YUS,IOTIFIED BIG YUS"⟩,
    ⟨0x2E00, "RIGHT ANGLE ", "SUBSTITUTION MARKER,DOTTED SUBSTITUTION MARKER"⟩,
    ⟨0x2E02, "", "LEFT SUBSTITUTION BRACKET,RIGHT SUBSTITUTION BRACKET"⟩,
    ⟨0x2E04, "", "LEFT DOTTED SUBSTITUTION BRACKET,RIGHT DOTTED SUBSTITUTION BRACKET"⟩,
    ⟨0x2E06, "RAISED ", "INTERPOLATION MARKER,DOTTED INTERPOLATION MARKER"⟩,
    ⟨0x2E08, "", "DOTTED TRANSPOSITION MARKER,LEFT TRANSPOSITION BRACKET"⟩,
    ⟨0x2E0A, "", "RIGHT TRANSPOSITION BRACKET,RAISED SQUARE,LEFT RAISED OMISSION BRACKET"⟩,
    ⟨0x2E0D, "", "RIGHT RAISED OMISSION BRACKET,EDITORIAL CORONIS,PARAGRAPHOS,FORKED PARAGRAPHOS"⟩,
    ⟨0x2E11, "", "REVERSED FORKED PARAGRAPHOS,HYPODIASTOLE,DOTTED OBELOS,DOWNWARDS ANCORA"⟩,
    ⟨0x2E15, "", "UPWARDS ANCORA,DOTTED RIGHT-POINTING ANGLE,DOUBLE OBLIQUE HYPHEN"⟩,
    ⟨0x2E18, "", "INVERTED INTERROBANG,PALM BRANCH,HYPHEN WITH DIAERESIS,TILDE WITH RING ABOVE"⟩,
    ⟨0x2E1C, "", "LEFT LOW PARAPHRASE BRACKET,RIGHT LOW PARAPHRASE BRACKET,TILDE WITH DOT ABOVE"⟩,
    ⟨0x2E1F, "", "TILDE WITH DOT BELOW,LEFT VERTICAL BAR WITH QUILL,RIGHT VERTICAL BAR WITH QUILL"⟩,
    ⟨0x2E22, "TOP ", "LEFT HALF BRACKET,RIGHT HALF BRACKET"⟩,
    ⟨0x2E24, "BOTTOM ", "LEFT HALF BRACKET,RIGHT HALF BRACKET"⟩,
    ⟨0x2E26, "", "LEFT SIDEWAYS U BRACKET,RIGHT SIDEWAYS U BRACKET,LEFT DOUBLE PARENTHESIS"⟩,
    ⟨0x2E29, "", "RIGHT DOUBLE PARENTHESIS,TWO DOTS OVER ONE DOT PUNCTUATION"⟩,
    ⟨0x2E2B, "", "ONE DOT OVER TWO DOTS PUNCTUATION,SQUARED FOUR DOT PUNCTUATION,FIVE DOT MARK"⟩,
    ⟨0x2E2E, "", "REVERSED QUESTION MARK,VERTICAL TILDE,RING POINT,WORD SEPARATOR MIDDLE DOT"⟩,
    ⟨0x2E32, "", "TURNED COMMA,RAISED DOT,RAISED COMMA,TURNED SEMICOLON,DAGGER WITH LEFT GUARD"⟩,
    ⟨0x2E37, "", "DAGGER WITH RIGHT GUARD,TURNED DAGGER,TOP HALF SECTION SIGN,TWO-EM DASH"⟩,
    ⟨0x2E3B, "", "THREE-EM DASH,STENOGRAPHIC FULL STOP,VERTICAL SIX DOTS,WIGGLY VERTICAL LINE"⟩,
    ⟨0x2E3F, "", "CAPITULUM,DOUBLE HYPHEN,REVERSED COMMA,DOUBLE LOW-REVERSED-9 QUOTATION MARK"⟩,
    ⟨0x2E43, "", "DASH WITH LEFT UPTURN,DOUBLE SUSPENSION MARK"⟩,
    ⟨0x2E45, "", "INVERTED LOW KAVYKA,INVERTED LOW KAVYKA WITH KAVYKA ABOVE,LOW KAVYKA"⟩,
    ⟨0x2E48, "", "LOW KAVYKA WITH DOT,DOUBLE STACKED COMMA,DOTTED SOLIDUS,TRIPLE DAGGER"⟩,
    ⟨0x2E4C, "", "MEDIEVAL COMMA,PARAGRAPHUS MARK,PUNCTUS ELEVATUS MARK,CORNISH VERSE DIVIDER"⟩,
    ⟨0x2E50, "CROSS PATTY WITH ", "RIGHT CROSSBAR,LEFT CROSSBAR"⟩,
    ⟨0x2E52, "", "TIRONIAN SIGN CAPITAL ET,MEDIEVAL EXCLAMATION MARK,MEDIEVAL QUESTION MARK"⟩,
    ⟨0x2E55, "", "LEFT SQUARE BRACKET WITH STROKE,RIGHT SQUARE BRACKET WITH STROKE"⟩,
    ⟨0x2E57, "", "LEFT SQUARE BRACKET WITH DOUBLE STROKE,RIGHT SQUARE BRACKET WITH DOUBLE STROKE"⟩,
    ⟨0x2E59, "TOP HALF ", "LEFT PARENTHESIS,RIGHT PARENTHESIS"⟩,
    ⟨0x2E5B, "", "BOTTOM HALF LEFT PARENTHESIS,BOTTOM HALF RIGHT PARENTHESIS,OBLIQUE HYPHEN"⟩,
    ⟨0x2E80, "CJK RADICAL ", "REPEAT,CLIFF,SECOND ONE,SECOND TWO,SECOND THREE,PERSON"⟩,
    ⟨0x2E86, "CJK RADICAL ", "BOX,TABLE,KNIFE ONE,KNIFE TWO,DIVINATION,SEAL,SMALL ONE,SMALL TWO"⟩,
    ⟨0x2E8E, "CJK RADICAL LAME ", "ONE,TWO,THREE,FOUR"⟩,
    ⟨0x2E92, "CJK RADICAL ", "SNAKE,THREAD,SNOUT ONE,SNOUT TWO,HEART ONE,HEART TWO,HAND,RAP"⟩,
    ⟨0x2E9B, "CJK RADICAL ", "CHOKE,SUN,MOON,DEATH,MOTHER,CIVILIAN,WATER ONE,WATER TWO,FIRE"⟩,
    ⟨0x2EA4, "CJK RADICAL PAW ", "ONE,TWO"⟩,
    ⟨0x2EA6, "CJK RADICAL ", "SIMPLIFIED HALF TREE TRUNK,COW,DOG,JADE,BOLT OF CLOTH,EYE"⟩,
    ⟨0x2EAC, "CJK RADICAL ", "SPIRIT ONE,SPIRIT TWO,BAMBOO,SILK,C-SIMPLIFIED SILK,NET ONE,NET TWO"⟩,
    ⟨0x2EB3, "CJK RADICAL ", "NET THREE,NET FOUR,MESH,SHEEP,RAM,EWE,OLD,BRUSH ONE,BRUSH TWO"⟩,
    ⟨0x2EBC, "CJK RADICAL ", "MEAT,MORTAR,GRASS ONE,GRASS TWO,GRASS THREE,TIGER,CLOTHES,WEST ONE"⟩,
    ⟨0x2EC4, "CJK RADICAL ", "WEST TWO,C-SIMPLIFIED SEE,SIMPLIFIED HORN,HORN,C-SIMPLIFIED SPEECH"⟩,
    ⟨0x2EC9, "CJK RADICAL ", "C-SIMPLIFIED SHELL,FOOT,C-SIMPLIFIED CART,SIMPLIFIED WALK"⟩,
    ⟨0x2ECD, "CJK RADICAL ", "WALK ONE,WALK TWO,CITY,C-SIMPLIFIED GOLD,LONG ONE,LONG TWO"⟩,
    ⟨0x2ED3, "CJK RADICAL ", "C-SIMPLIFIED LONG,C-SIMPLIFIED GATE,MOUND ONE,MOUND TWO,RAIN,BLUE"⟩,
    ⟨0x2ED9, "CJK RADICAL C-SIMPLIFIED ", "TANNED LEATHER,LEAF,WIND,FLY"⟩,
    ⟨0x2EDD, "CJK RADICAL ", "EAT ONE,EAT TWO,EAT THREE,C-SIMPLIFIED EAT,HEAD,C-SIMPLIFIED HORSE"⟩,
    ⟨0x2EE3, "CJK RADICAL ", "BONE,GHOST,C-SIMPLIFIED FISH,C-SIMPLIFIED BIRD,C-SIMPLIFIED SALT"⟩,
    ⟨0x2EE8, "CJK RADICAL SIMPLIFIED ", "WHEAT,YELLOW"⟩,
    ⟨0x2EEA, "CJK RADICAL ", "C-SIMPLIFIED FROG,J-SIMPLIFIED EVEN,C-SIMPLIFIED EVEN"⟩,
    ⟨0x2EED, "CJK RADICAL ", "J-SIMPLIFIED TOOTH,C-SIMPLIFIED TOOTH,J-SIMPLIFIED DRAGON"⟩,
    ⟨0x2EF0, "CJK RADICAL ", "C-SIMPLIFIED DRAGON,TURTLE,J-SIMPLIFIED TURTLE,C-SIMPLIFIED TURTLE"⟩,
    ⟨0x2F00, "", "KANGXI RADICAL ONE"⟩,
    ⟨0x2F01, "KANGXI RADICAL ", "LINE,DOT,SLASH,SECOND,HOOK,TWO,LID,MAN,LEGS,ENTER,EIGHT,DOWN BOX"⟩,
    ⟨0x2F0D, "KANGXI RADICAL ", "COVER,ICE,TABLE,OPEN BOX,KNIFE,POWER,WRAP,SPOON,RIGHT OPEN BOX"⟩,
    ⟨0x2F16, "KANGXI RADICAL ", "HIDING ENCLOSURE,TEN,DIVINATION,SEAL,CLIFF,PRIVATE,AGAIN,MOUTH"⟩,
    ⟨0x2F1E, "KANGXI RADICAL ", "ENCLOSURE,EARTH,SCHOLAR,GO,GO SLOWLY,EVENING,BIG,WOMAN,CHILD"⟩,
    ⟨0x2F27, "KANGXI RADICAL ", "ROOF,INCH,SMALL,LAME,CORPSE,SPROUT,MOUNTAIN,RIVER,WORK,ONESELF"⟩,
    ⟨0x2F31, "KANGXI RADICAL ", "TURBAN,DRY,SHORT THREAD,DOTTED CLIFF,LONG STRIDE,TWO HANDS,SHOOT"⟩,
    ⟨0x2F38, "KANGXI RADICAL ", "BOW,SNOUT,BRISTLE,STEP,HEART,HALBERD,DOOR,HAND,BRANCH,RAP,SCRIPT"⟩,
    ⟨0x2F43, "KANGXI RADICAL ", "DIPPER,AXE,SQUARE,NOT,SUN,SAY,MOON,TREE,LACK,STOP,DEATH,WEAPON"⟩,
    ⟨0x2F4F, "KANGXI RADICAL ", "DO NOT,COMPARE,FUR,CLAN,STEAM,WATER,FIRE,CLAW,FATHER,DOUBLE X"⟩,
    ⟨0x2F59, "KANGXI RADICAL ", "HALF TREE TRUNK,SLICE,FANG,COW,DOG,PROFOUND,JADE,MELON,TILE"⟩,
    ⟨0x2F62, "KANGXI RADICAL ", "SWEET,LIFE,USE,FIELD,BOLT OF CLOTH,SICKNESS,DOTTED TENT,WHITE"⟩,
    ⟨0x2F6A, "KANGXI RADICAL ", "SKIN,DISH,EYE,SPEAR,ARROW,STONE,SPIRIT,TRACK,GRAIN,CAVE,STAND"⟩,
    ⟨0x2F75, "KANGXI RADICAL ", "BAMBOO,RICE,SILK,JAR,NET,SHEEP,FEATHER,OLD,AND,PLOW,EAR,BRUSH"⟩,
    ⟨0x2F81, "KANGXI RADICAL ", "MEAT,MINISTER,SELF,ARRIVE,MORTAR,TONGUE,OPPOSE,BOAT,STOPPING"⟩,
    ⟨0x2F8A, "KANGXI RADICAL ", "COLOR,GRASS,TIGER,INSECT,BLOOD,WALK ENCLOSURE,CLOTHES,WEST"⟩,
    ⟨0x2F92, "KANGXI RADICAL ", "SEE,HORN,SPEECH,VALLEY,BEAN,PIG,BADGER,SHELL,RED,RUN,FOOT,BODY"⟩,
    ⟨0x2F9E, "KANGXI RADICAL ", "CART,BITTER,MORNING,WALK,CITY,WINE,DISTINGUISH,VILLAGE,GOLD,LONG"⟩,
    ⟨0x2FA8, "KANGXI RADICAL ", "GATE,MOUND,SLAVE,SHORT TAILED BIRD,RAIN,BLUE,WRONG,FACE,LEATHER"⟩,
    ⟨0x2FB1, "KANGXI RADICAL ", "TANNED LEATHER,LEEK,SOUND,LEAF,WIND,FLY,EAT,HEAD,FRAGRANT"⟩,
    ⟨0x2FBA, "KANGXI RADICAL ", "HORSE,BONE,TALL,HAIR,FIGHT,SACRIFICIAL WINE,CAULDRON,GHOST"⟩,
    ⟨0x2FC2, "KANGXI RADICAL ", "FISH,BIRD,SALT,DEER,WHEAT,HEMP,YELLOW,MILLET,BLACK,EMBROIDERY"⟩,
    ⟨0x2FCC, "KANGXI RADICAL ", "FROG,TRIPOD,DRUM,RAT,NOSE,EVEN,TOOTH,DRAGON,TURTLE,FLUTE"⟩,
    ⟨0x2FF0, "", "IDEOGRAPHIC DESCRIPTION CHARACTER LEFT TO RIGHT"⟩,
    ⟨0x2FF1, "IDEOGRAPHIC DESCRIPTION CHARACTER ", "ABOVE TO BELOW,LEFT TO MIDDLE AND RIGHT"⟩,
    ⟨0x2FF3, "IDEOGRAPHIC DESCRIPTION CHARACTER ", "ABOVE TO MIDDLE AND BELOW,FULL SURROUND"⟩,
    ⟨0x2FF5, "IDEOGRAPHIC DESCRIPTION CHARACTER SURROUND FROM ", "ABOVE,BELOW,LEFT,UPPER LEFT"⟩,
    ⟨0x2FF9, "IDEOGRAPHIC DESCRIPTION CHARACTER SURROUND FROM ", "UPPER RIGHT,LOWER LEFT"⟩,
    ⟨0x2FFB, "", "IDEOGRAPHIC DESCRIPTION CHARACTER OVERLAID"⟩
  ]

end MemoryAtlas.Text.Name
