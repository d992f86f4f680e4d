import MemoryAtlas.Text.Characters

/-!
Names of punctuation and symbols, from U+2000 to U+25FF.
-/

namespace MemoryAtlas.Text.Name

def symbols : List Block :=
  [
    ⟨0x2000, "", "EN QUAD,EM QUAD,EN SPACE,EM SPACE,THREE-PER-EM SPACE,FOUR-PER-EM SPACE"⟩,
    ⟨0x2006, "", "SIX-PER-EM SPACE,FIGURE SPACE,PUNCTUATION SPACE,THIN SPACE,HAIR SPACE"⟩,
    ⟨0x200B, "ZERO WIDTH ", "SPACE,NON-JOINER,JOINER"⟩,
    ⟨0x200E, "", "LEFT-TO-RIGHT MARK,RIGHT-TO-LEFT MARK,HYPHEN,NON-BREAKING HYPHEN"⟩,
    ⟨0x2012, "", "FIGURE DASH,EN DASH,EM DASH,HORIZONTAL BAR,DOUBLE VERTICAL LINE"⟩,
    ⟨0x2017, "", "DOUBLE LOW LINE,LEFT SINGLE QUOTATION MARK,RIGHT SINGLE QUOTATION MARK"⟩,
    ⟨0x201A, "SINGLE ", "LOW-9 QUOTATION MARK,HIGH-REVERSED-9 QUOTATION MARK"⟩,
    ⟨0x201C, "", "LEFT DOUBLE QUOTATION MARK,RIGHT DOUBLE QUOTATION MARK"⟩,
    ⟨0x201E, "DOUBLE ", "LOW-9 QUOTATION MARK,HIGH-REVERSED-9 QUOTATION MARK"⟩,
    ⟨0x2020, "", "DAGGER,DOUBLE DAGGER,BULLET,TRIANGULAR BULLET,ONE DOT LEADER"⟩,
    ⟨0x2025, "", "TWO DOT LEADER,HORIZONTAL ELLIPSIS,HYPHENATION POINT,LINE SEPARATOR"⟩,
    ⟨0x2029, "", "PARAGRAPH SEPARATOR,LEFT-TO-RIGHT EMBEDDING,RIGHT-TO-LEFT EMBEDDING"⟩,
    ⟨0x202C, "", "POP DIRECTIONAL FORMATTING,LEFT-TO-RIGHT OVERRIDE,RIGHT-TO-LEFT OVERRIDE"⟩,
    ⟨0x202F, "", "NARROW NO-BREAK SPACE,PER MILLE SIGN,PER TEN THOUSAND SIGN,PRIME,DOUBLE PRIME"⟩,
    ⟨0x2034, "", "TRIPLE PRIME,REVERSED PRIME,REVERSED DOUBLE PRIME,REVERSED TRIPLE PRIME,CARET"⟩,
    ⟨0x2039, "SINGLE ", "LEFT-POINTING ANGLE QUOTATION MARK,RIGHT-POINTING ANGLE QUOTATION MARK"⟩,
    ⟨0x203B, "", "REFERENCE MARK,DOUBLE EXCLAMATION MARK"⟩,
    ⟨0x203D, "", "INTERROBANG,OVERLINE,UNDERTIE,CHARACTER TIE,CARET INSERTION POINT"⟩,
    ⟨0x2042, "", "ASTERISM,HYPHEN BULLET,FRACTION SLASH,LEFT SQUARE BRACKET WITH QUILL"⟩,
    ⟨0x2046, "", "RIGHT SQUARE BRACKET WITH QUILL,DOUBLE QUESTION MARK,QUESTION EXCLAMATION MARK"⟩,
    ⟨0x2049, "", "EXCLAMATION QUESTION MARK,TIRONIAN SIGN ET,REVERSED PILCROW SIGN"⟩,
    ⟨0x204C, "", "BLACK LEFTWARDS BULLET,BLACK RIGHTWARDS BULLET,LOW ASTERISK,REVERSED SEMICOLON"⟩,
    ⟨0x2050, "", "CLOSE UP,TWO ASTERISKS ALIGNED VERTICALLY,COMMERCIAL MINUS SIGN,SWUNG DASH"⟩,
    ⟨0x2054, "", "INVERTED UNDERTIE,FLOWER PUNCTUATION MARK,THREE DOT PUNCTUATION,QUADRUPLE PRIME"⟩,
    ⟨0x2058, "", "FOUR DOT PUNCTUATION,FIVE DOT PUNCTUATION,TWO DOT PUNCTUATION,FOUR DOT MARK"⟩,
    ⟨0x205C, "", "DOTTED CROSS,TRICOLON,VERTICAL FOUR DOTS,MEDIUM MATHEMATICAL SPACE,WORD JOINER"⟩,
    ⟨0x2061, "", "FUNCTION APPLICATION,INVISIBLE TIMES,INVISIBLE SEPARATOR,INVISIBLE PLUS"⟩,
    ⟨0x2066, "", "LEFT-TO-RIGHT ISOLATE,RIGHT-TO-LEFT ISOLATE,FIRST STRONG ISOLATE"⟩,
    ⟨0x2069, "", "POP DIRECTIONAL ISOLATE,INHIBIT SYMMETRIC SWAPPING,ACTIVATE SYMMETRIC SWAPPING"⟩,
    ⟨0x206C, "", "INHIBIT ARABIC FORM SHAPING,ACTIVATE ARABIC FORM SHAPING,NATIONAL DIGIT SHAPES"⟩,
    ⟨0x206F, "", "NOMINAL DIGIT SHAPES,SUPERSCRIPT ZERO,SUPERSCRIPT LATIN SMALL LETTER I"⟩,
    ⟨0x2074, "SUPERSCRIPT ", "FOUR,FIVE,SIX,SEVEN,EIGHT,NINE,PLUS SIGN,MINUS"⟩,
    ⟨0x207C, "SUPERSCRIPT ", "EQUALS SIGN,LEFT PARENTHESIS,RIGHT PARENTHESIS,LATIN SMALL LETTER N"⟩,
    ⟨0x2080, "SUBSCRIPT ", "ZERO,ONE,TWO,THREE,FOUR,FIVE,SIX,SEVEN,EIGHT"⟩,
    ⟨0x2089, "SUBSCRIPT ", "NINE,PLUS SIGN,MINUS,EQUALS SIGN,LEFT PARENTHESIS,RIGHT PARENTHESIS"⟩,
    ⟨0x2090, "LATIN SUBSCRIPT SMALL LETTER ", "A,E,O,X,SCHWA,H,K,L,M,N,P,S,T"⟩,
    ⟨0x20A0, "", "EURO-CURRENCY SIGN,COLON SIGN,CRUZEIRO SIGN,FRENCH FRANC SIGN"⟩,
    ⟨0x20A4, "", "LIRA SIGN,MILL SIGN,NAIRA SIGN,PESETA SIGN,RUPEE SIGN,WON SIGN,NEW SHEQEL SIGN"⟩,
    ⟨0x20AB, "", "DONG SIGN,EURO SIGN,KIP SIGN,TUGRIK SIGN,DRACHMA SIGN,GERMAN PENNY SIGN"⟩,
    ⟨0x20B1, "", "PESO SIGN,GUARANI SIGN,AUSTRAL SIGN,HRYVNIA SIGN,CEDI SIGN,LIVRE TOURNOIS SIGN"⟩,
    ⟨0x20B7, "", "SPESMILO SIGN,TENGE SIGN,INDIAN RUPEE SIGN,TURKISH LIRA SIGN"⟩,
    ⟨0x20BB, "", "NORDIC MARK SIGN,MANAT SIGN,RUBLE SIGN,LARI SIGN,BITCOIN SIGN,SOM SIGN"⟩,
    ⟨0x20D0, "COMBINING ", "LEFT HARPOON ABOVE,RIGHT HARPOON ABOVE,LONG VERTICAL LINE OVERLAY"⟩,
    ⟨0x20D3, "COMBINING ", "SHORT VERTICAL LINE OVERLAY,ANTICLOCKWISE ARROW ABOVE"⟩,
    ⟨0x20D5, "COMBINING ", "CLOCKWISE ARROW ABOVE,LEFT ARROW ABOVE,RIGHT ARROW ABOVE"⟩,
    ⟨0x20D8, "COMBINING ", "RING OVERLAY,CLOCKWISE RING OVERLAY,ANTICLOCKWISE RING OVERLAY"⟩,
    ⟨0x20DB, "COMBINING ", "THREE DOTS ABOVE,FOUR DOTS ABOVE,ENCLOSING CIRCLE,ENCLOSING SQUARE"⟩,
    ⟨0x20DF, "COMBINING ", "ENCLOSING DIAMOND,ENCLOSING CIRCLE BACKSLASH,LEFT RIGHT ARROW ABOVE"⟩,
    ⟨0x20E2, "COMBINING ENCLOSING ", "SCREEN,KEYCAP,UPWARD POINTING TRIANGLE"⟩,
    ⟨0x20E5, "COMBINING ", "REVERSE SOLIDUS OVERLAY,DOUBLE VERTICAL STROKE OVERLAY,ANNUITY SYMBOL"⟩,
    ⟨0x20E8, "COMBINING ", "TRIPLE UNDERDOT,WIDE BRIDGE ABOVE,LEFTWARDS ARROW OVERLAY"⟩,
    ⟨0x20EB, "COMBINING ", "LONG DOUBLE SOLIDUS OVERLAY,RIGHTWARDS HARPOON WITH BARB DOWNWARDS"⟩,
    ⟨0x20ED, "", "COMBINING LEFTWARDS HARPOON WITH BARB DOWNWARDS"⟩,
    ⟨0x20EE, "COMBINING ", "LEFT ARROW BELOW,RIGHT ARROW BELOW,ASTERISK ABOVE"⟩,
    ⟨0x2100, "", "ACCOUNT OF,ADDRESSED TO THE SUBJECT,DOUBLE-STRUCK CAPITAL C,DEGREE CELSIUS"⟩,
    ⟨0x2104, "", "CENTRE LINE SYMBOL,CARE OF,CADA UNA,EULER CONSTANT,SCRUPLE,DEGREE FAHRENHEIT"⟩,
    ⟨0x210A, "", "SCRIPT SMALL G,SCRIPT CAPITAL H,BLACK-LETTER CAPITAL H,DOUBLE-STRUCK CAPITAL H"⟩,
    ⟨0x210E, "PLANCK ", "CONSTANT,CONSTANT OVER TWO PI"⟩,
    ⟨0x2110, "", "SCRIPT CAPITAL I,BLACK-LETTER CAPITAL I,SCRIPT CAPITAL L"⟩,
    ⟨0x2113, "", "SCRIPT SMALL L,L B BAR SYMBOL,DOUBLE-STRUCK CAPITAL N,NUMERO SIGN"⟩,
    ⟨0x2117, "SOUND RECORDING COPY", "RIGHT"⟩,
    ⟨0x2118, "", "SCRIPT CAPITAL P,DOUBLE-STRUCK CAPITAL P,DOUBLE-STRUCK CAPITAL Q"⟩,
    ⟨0x211B, "", "SCRIPT CAPITAL R,BLACK-LETTER CAPITAL R,DOUBLE-STRUCK CAPITAL R"⟩,
    ⟨0x211E, "", "PRESCRIPTION TAKE,RESPONSE,SERVICE MARK,TELEPHONE SIGN,TRADE MARK SIGN"⟩,
    ⟨0x2123, "", "VERSICLE,DOUBLE-STRUCK CAPITAL Z,OUNCE SIGN,OHM SIGN,INVERTED OHM SIGN"⟩,
    ⟨0x2128, "", "BLACK-LETTER CAPITAL Z,TURNED GREEK SMALL LETTER IOTA,KELVIN SIGN,ANGSTROM SIGN"⟩,
    ⟨0x212C, "", "SCRIPT CAPITAL B,BLACK-LETTER CAPITAL C,ESTIMATED SYMBOL,SCRIPT SMALL E"⟩,
    ⟨0x2130, "SCRIPT CAPITAL ", "E,F"⟩,
    ⟨0x2132, "", "TURNED CAPITAL F,SCRIPT CAPITAL M,SCRIPT SMALL O,ALEF SYMBOL,BET SYMBOL"⟩,
    ⟨0x2137, "", "GIMEL SYMBOL,DALET SYMBOL,INFORMATION SOURCE,ROTATED CAPITAL Q,FACSIMILE SIGN"⟩,
    ⟨0x213C, "DOUBLE-STRUCK ", "SMALL PI,SMALL GAMMA,CAPITAL GAMMA,CAPITAL PI,N-ARY SUMMATION"⟩,
    ⟨0x2141, "TURNED SANS-SERIF CAPITAL ", "G,L"⟩,
    ⟨0x2143, "", "REVERSED SANS-SERIF CAPITAL L,TURNED SANS-SERIF CAPITAL Y"⟩,
    ⟨0x2145, "DOUBLE-STRUCK ITALIC ", "CAPITAL D,SMALL D,SMALL E,SMALL I,SMALL J"⟩,
    ⟨0x214A, "", "PROPERTY LINE,TURNED AMPERSAND"⟩,
    ⟨0x214C, "", "PER SIGN,AKTIESELSKAB,TURNED SMALL F,SYMBOL FOR SAMARITAN SOURCE"⟩,
    ⟨0x2150, "VULGAR FRACTION ", "ONE SEVENTH,ONE NINTH,ONE TENTH,ONE THIRD,TWO THIRDS"⟩,
    ⟨0x2155, "VULGAR FRACTION ", "ONE FIFTH,TWO FIFTHS,THREE FIFTHS,FOUR FIFTHS,ONE SIXTH"⟩,
    ⟨0x215A, "VULGAR FRACTION ", "FIVE SIXTHS,ONE EIGHTH,THREE EIGHTHS,FIVE EIGHTHS,SEVEN EIGHTHS"⟩,
    ⟨0x215F, "", "FRACTION NUMERATOR ONE"⟩,
    ⟨0x2160, "ROMAN NUMERAL ", "ONE,TWO,THREE,FOUR,FIVE,SIX,SEVEN,EIGHT,NINE"⟩,
    ⟨0x2169, "ROMAN NUMERAL ", "TEN,ELEVEN,TWELVE,FIFTY,ONE HUNDRED,FIVE HUNDRED,ONE THOUSAND"⟩,
    ⟨0x2170, "SMALL ROMAN NUMERAL ", "ONE,TWO,THREE,FOUR,FIVE,SIX,SEVEN,EIGHT,NINE,TEN"⟩,
    ⟨0x217A, "SMALL ROMAN NUMERAL ", "ELEVEN,TWELVE,FIFTY,ONE HUNDRED,FIVE HUNDRED,ONE THOUSAND"⟩,
    ⟨0x2180, "ROMAN NUMERAL ", "ONE THOUSAND C D,FIVE THOUSAND,TEN THOUSAND,REVERSED ONE HUNDRED"⟩,
    ⟨0x2184, "", "LATIN SMALL LETTER REVERSED C,ROMAN NUMERAL SIX LATE FORM"⟩,
    ⟨0x2186, "ROMAN NUMERAL ", "FIFTY EARLY FORM,FIFTY THOUSAND,ONE HUNDRED THOUSAND"⟩,
    ⟨0x2189, "", "VULGAR FRACTION ZERO THIRDS,TURNED DIGIT TWO,TURNED DIGIT THREE"⟩,
    ⟨0x2190, "", "LEFTWARDS ARROW,UPWARDS ARROW,RIGHTWARDS ARROW"⟩,
    ⟨0x2193, "", "DOWNWARDS ARROW,LEFT RIGHT ARROW,UP DOWN ARROW,NORTH WEST ARROW"⟩,
    ⟨0x2197, "", "NORTH EAST ARROW,SOUTH EAST ARROW,SOUTH WEST ARROW,LEFTWARDS ARROW WITH STROKE"⟩,
    ⟨0x219B, "", "RIGHTWARDS ARROW WITH STROKE,LEFTWARDS WAVE ARROW,RIGHTWARDS WAVE ARROW"⟩,
    ⟨0x219E, "", "LEFTWARDS TWO HEADED ARROW,UPWARDS TWO HEADED ARROW,RIGHTWARDS TWO HEADED ARROW"⟩,
    ⟨0x21A1, "", "DOWNWARDS TWO HEADED ARROW,LEFTWARDS ARROW WITH TAIL,RIGHTWARDS ARROW WITH TAIL"⟩,
    ⟨0x21A4, "", "LEFTWARDS ARROW FROM BAR,UPWARDS ARROW FROM BAR,RIGHTWARDS ARROW FROM BAR"⟩,
    ⟨0x21A7, "", "DOWNWARDS ARROW FROM BAR,UP DOWN ARROW WITH BASE,LEFTWARDS ARROW WITH HOOK"⟩,
    ⟨0x21AA, "", "RIGHTWARDS ARROW WITH HOOK,LEFTWARDS ARROW WITH LOOP,RIGHTWARDS ARROW WITH LOOP"⟩,
    ⟨0x21AD, "", "LEFT RIGHT WAVE ARROW,LEFT RIGHT ARROW WITH STROKE,DOWNWARDS ZIGZAG ARROW"⟩,
    ⟨0x21B0, "UPWARDS ARROW WITH TIP ", "LEFTWARDS,RIGHTWARDS"⟩,
    ⟨0x21B2, "DOWNWARDS ARROW WITH TIP ", "LEFTWARDS,RIGHTWARDS"⟩,
    ⟨0x21B4, "", "RIGHTWARDS ARROW WITH CORNER DOWNWARDS"⟩,
    ⟨0x21B5, "", "DOWNWARDS ARROW WITH CORNER LEFTWARDS,ANTICLOCKWISE TOP SEMICIRCLE ARROW"⟩,
    ⟨0x21B7, "", "CLOCKWISE TOP SEMICIRCLE ARROW,NORTH WEST ARROW TO LONG BAR"⟩,
    ⟨0x21B9, "", "LEFTWARDS ARROW TO BAR OVER RIGHTWARDS ARROW TO BAR"⟩,
    ⟨0x21BA, "", "ANTICLOCKWISE OPEN CIRCLE ARROW,CLOCKWISE OPEN CIRCLE ARROW"⟩,
    ⟨0x21BC, "LEFTWARDS HARPOON WITH BARB ", "UPWARDS,DOWNWARDS"⟩,
    ⟨0x21BE, "UPWARDS HARPOON WITH BARB ", "RIGHTWARDS,LEFTWARDS"⟩,
    ⟨0x21C0, "RIGHTWARDS HARPOON WITH BARB ", "UPWARDS,DOWNWARDS"⟩,
    ⟨0x21C2, "DOWNWARDS HARPOON WITH BARB ", "RIGHTWARDS,LEFTWARDS"⟩,
    ⟨0x21C4, "", "RIGHTWARDS ARROW OVER LEFTWARDS ARROW"⟩,
    ⟨0x21C5, "", "UPWARDS ARROW LEFTWARDS OF DOWNWARDS ARROW"⟩,
    ⟨0x21C6, "LEFTWARDS ", "ARROW OVER RIGHTWARDS ARROW,PAIRED ARROWS"⟩,
    ⟨0x21C8, "", "UPWARDS PAIRED ARROWS,RIGHTWARDS PAIRED ARROWS"⟩,
    ⟨0x21CA, "", "DOWNWARDS PAIRED ARROWS,LEFTWARDS HARPOON OVER RIGHTWARDS HARPOON"⟩,
    ⟨0x21CC, "", "RIGHTWARDS HARPOON OVER LEFTWARDS HARPOON,LEFTWARDS DOUBLE ARROW WITH STROKE"⟩,
    ⟨0x21CE, "", "LEFT RIGHT DOUBLE ARROW WITH STROKE,RIGHTWARDS DOUBLE ARROW WITH STROKE"⟩,
    ⟨0x21D0, "", "LEFTWARDS DOUBLE ARROW,UPWARDS DOUBLE ARROW,RIGHTWARDS DOUBLE ARROW"⟩,
    ⟨0x21D3, "", "DOWNWARDS DOUBLE ARROW,LEFT RIGHT DOUBLE ARROW,UP DOWN DOUBLE ARROW"⟩,
    ⟨0x21D6, "NORTH ", "WEST DOUBLE ARROW,EAST DOUBLE ARROW"⟩,
    ⟨0x21D8, "SOUTH ", "EAST DOUBLE ARROW,WEST DOUBLE ARROW"⟩,
    ⟨0x21DA, "", "LEFTWARDS TRIPLE ARROW,RIGHTWARDS TRIPLE ARROW,LEFTWARDS SQUIGGLE ARROW"⟩,
    ⟨0x21DD, "", "RIGHTWARDS SQUIGGLE ARROW,UPWARDS ARROW WITH DOUBLE STROKE"⟩,
    ⟨0x21DF, "", "DOWNWARDS ARROW WITH DOUBLE STROKE,LEFTWARDS DASHED ARROW"⟩,
    ⟨0x21E1, "", "UPWARDS DASHED ARROW,RIGHTWARDS DASHED ARROW,DOWNWARDS DASHED ARROW"⟩,
    ⟨0x21E4, "", "LEFTWARDS ARROW TO BAR,RIGHTWARDS ARROW TO BAR,LEFTWARDS WHITE ARROW"⟩,
    ⟨0x21E7, "", "UPWARDS WHITE ARROW,RIGHTWARDS WHITE ARROW,DOWNWARDS WHITE ARROW"⟩,
    ⟨0x21EA, "UPWARDS WHITE ARROW ", "FROM BAR,ON PEDESTAL,ON PEDESTAL WITH HORIZONTAL BAR"⟩,
    ⟨0x21ED, "UPWARDS WHITE ", "ARROW ON PEDESTAL WITH VERTICAL BAR,DOUBLE ARROW"⟩,
    ⟨0x21EF, "", "UPWARDS WHITE DOUBLE ARROW ON PEDESTAL,RIGHTWARDS WHITE ARROW FROM WALL"⟩,
    ⟨0x21F1, "", "NORTH WEST ARROW TO CORNER,SOUTH EAST ARROW TO CORNER,UP DOWN WHITE ARROW"⟩,
    ⟨0x21F4, "", "RIGHT ARROW WITH SMALL CIRCLE,DOWNWARDS ARROW LEFTWARDS OF UPWARDS ARROW"⟩,
    ⟨0x21F6, "", "THREE RIGHTWARDS ARROWS,LEFTWARDS ARROW WITH VERTICAL STROKE"⟩,
    ⟨0x21F8, "", "RIGHTWARDS ARROW WITH VERTICAL STROKE,LEFT RIGHT ARROW WITH VERTICAL STROKE"⟩,
    ⟨0x21FA, "", "LEFTWARDS ARROW WITH DOUBLE VERTICAL STROKE"⟩,
    ⟨0x21FB, "", "RIGHTWARDS ARROW WITH DOUBLE VERTICAL STROKE"⟩,
    ⟨0x21FC, "", "LEFT RIGHT ARROW WITH DOUBLE VERTICAL STROKE,LEFTWARDS OPEN-HEADED ARROW"⟩,
    ⟨0x21FE, "", "RIGHTWARDS OPEN-HEADED ARROW,LEFT RIGHT OPEN-HEADED ARROW,FOR ALL,COMPLEMENT"⟩,
    ⟨0x2202, "", "PARTIAL DIFFERENTIAL,THERE EXISTS,THERE DOES NOT EXIST,EMPTY SET,INCREMENT"⟩,
    ⟨0x2207, "", "NABLA,ELEMENT OF,NOT AN ELEMENT OF,SMALL ELEMENT OF,CONTAINS AS MEMBER"⟩,
    ⟨0x220C, "", "DOES NOT CONTAIN AS MEMBER,SMALL CONTAINS AS MEMBER,END OF PROOF"⟩,
    ⟨0x220F, "N-ARY ", "PRODUCT,COPRODUCT,SUMMATION"⟩,
    ⟨0x2212, "", "MINUS SIGN,MINUS-OR-PLUS SIGN,DOT PLUS,DIVISION SLASH"⟩,
    ⟨0x2216, "", "SET MINUS,ASTERISK OPERATOR,RING OPERATOR,BULLET OPERATOR,SQUARE ROOT"⟩,
    ⟨0x221B, "", "CUBE ROOT,FOURTH ROOT,PROPORTIONAL TO,INFINITY,RIGHT ANGLE,ANGLE,MEASURED ANGLE"⟩,
    ⟨0x2222, "", "SPHERICAL ANGLE,DIVIDES,DOES NOT DIVIDE,PARALLEL TO,NOT PARALLEL TO,LOGICAL AND"⟩,
    ⟨0x2228, "", "LOGICAL OR,INTERSECTION,UNION,INTEGRAL,DOUBLE INTEGRAL,TRIPLE INTEGRAL"⟩,
    ⟨0x222E, "", "CONTOUR INTEGRAL,SURFACE INTEGRAL,VOLUME INTEGRAL,CLOCKWISE INTEGRAL"⟩,
    ⟨0x2232, "", "CLOCKWISE CONTOUR INTEGRAL,ANTICLOCKWISE CONTOUR INTEGRAL,THEREFORE"⟩,
    ⟨0x2235, "", "BECAUSE,RATIO,PROPORTION,DOT MINUS,EXCESS,GEOMETRIC PROPORTION,HOMOTHETIC"⟩,
    ⟨0x223C, "", "TILDE OPERATOR,REVERSED TILDE,INVERTED LAZY S,SINE WAVE,WREATH PRODUCT"⟩,
    ⟨0x2241, "", "NOT TILDE,MINUS TILDE,ASYMPTOTICALLY EQUAL TO,NOT ASYMPTOTICALLY EQUAL TO"⟩,
    ⟨0x2245, "APPROXIMATELY ", "EQUAL TO,BUT NOT ACTUALLY EQUAL TO"⟩,
    ⟨0x2247, "", "NEITHER APPROXIMATELY NOR ACTUALLY EQUAL TO"⟩,
    ⟨0x2248, "", "ALMOST EQUAL TO,NOT ALMOST EQUAL TO,ALMOST EQUAL OR EQUAL TO"⟩,
    ⟨0x224B, "", "TRIPLE TILDE,ALL EQUAL TO,EQUIVALENT TO,GEOMETRICALLY EQUIVALENT TO"⟩,
    ⟨0x224F, "", "DIFFERENCE BETWEEN,APPROACHES THE LIMIT,GEOMETRICALLY EQUAL TO"⟩,
    ⟨0x2252, "", "APPROXIMATELY EQUAL TO OR THE IMAGE OF,IMAGE OF OR APPROXIMATELY EQUAL TO"⟩,
    ⟨0x2254, "", "COLON EQUALS,EQUALS COLON,RING IN EQUAL TO,RING EQUAL TO,CORRESPONDS TO"⟩,
    ⟨0x2259, "", "ESTIMATES,EQUIANGULAR TO,STAR EQUALS,DELTA EQUAL TO,EQUAL TO BY DEFINITION"⟩,
    ⟨0x225E, "", "MEASURED BY,QUESTIONED EQUAL TO,NOT EQUAL TO,IDENTICAL TO,NOT IDENTICAL TO"⟩,
    ⟨0x2263, "", "STRICTLY EQUIVALENT TO,LESS-THAN OR EQUAL TO,GREATER-THAN OR EQUAL TO"⟩,
    ⟨0x2266, "", "LESS-THAN OVER EQUAL TO,GREATER-THAN OVER EQUAL TO,LESS-THAN BUT NOT EQUAL TO"⟩,
    ⟨0x2269, "", "GREATER-THAN BUT NOT EQUAL TO,MUCH LESS-THAN,MUCH GREATER-THAN,BETWEEN"⟩,
    ⟨0x226D, "", "NOT EQUIVALENT TO,NOT LESS-THAN,NOT GREATER-THAN,NEITHER LESS-THAN NOR EQUAL TO"⟩,
    ⟨0x2271, "", "NEITHER GREATER-THAN NOR EQUAL TO,LESS-THAN OR EQUIVALENT TO"⟩,
    ⟨0x2273, "", "GREATER-THAN OR EQUIVALENT TO,NEITHER LESS-THAN NOR EQUIVALENT TO"⟩,
    ⟨0x2275, "", "NEITHER GREATER-THAN NOR EQUIVALENT TO,LESS-THAN OR GREATER-THAN"⟩,
    ⟨0x2277, "", "GREATER-THAN OR LESS-THAN,NEITHER LESS-THAN NOR GREATER-THAN"⟩,
    ⟨0x2279, "", "NEITHER GREATER-THAN NOR LESS-THAN,PRECEDES,SUCCEEDS,PRECEDES OR EQUAL TO"⟩,
    ⟨0x227D, "", "SUCCEEDS OR EQUAL TO,PRECEDES OR EQUIVALENT TO,SUCCEEDS OR EQUIVALENT TO"⟩,
    ⟨0x2280, "", "DOES NOT PRECEDE,DOES NOT SUCCEED,SUBSET OF,SUPERSET OF"⟩,
    ⟨0x2284, "", "NOT A SUBSET OF,NOT A SUPERSET OF,SUBSET OF OR EQUAL TO,SUPERSET OF OR EQUAL TO"⟩,
    ⟨0x2288, "NEITHER A ", "SUBSET OF NOR EQUAL TO,SUPERSET OF NOR EQUAL TO"⟩,
    ⟨0x228A, "", "SUBSET OF WITH NOT EQUAL TO,SUPERSET OF WITH NOT EQUAL TO"⟩,
    ⟨0x228C, "", "MULTISET,MULTISET MULTIPLICATION,MULTISET UNION,SQUARE IMAGE OF"⟩,
    ⟨0x2290, "SQUARE ORIG", "INAL OF"⟩,
    ⟨0x2291, "", "SQUARE IMAGE OF OR EQUAL TO"⟩,
    ⟨0x2292, "SQUARE ORIG", "INAL OF OR EQUAL TO"⟩,
    ⟨0x2293, "", "SQUARE CAP,SQUARE CUP,CIRCLED PLUS,CIRCLED MINUS,CIRCLED TIMES"⟩,
    ⟨0x2298, "CIRCLED ", "DIVISION SLASH,DOT OPERATOR,RING OPERATOR,ASTERISK OPERATOR,EQUALS,DASH"⟩,
    ⟨0x229E, "SQUARED ", "PLUS,MINUS,TIMES,DOT OPERATOR"⟩,
    ⟨0x22A2, "", "RIGHT TACK,LEFT TACK,DOWN TACK,UP TACK,ASSERTION,MODELS,TRUE,FORCES"⟩,
    ⟨0x22AA, "", "TRIPLE VERTICAL BAR RIGHT TURNSTILE,DOUBLE VERTICAL BAR DOUBLE RIGHT TURNSTILE"⟩,
    ⟨0x22AC, "", "DOES NOT PROVE,NOT TRUE,DOES NOT FORCE"⟩,
    ⟨0x22AF, "", "NEGATED DOUBLE VERTICAL BAR DOUBLE RIGHT TURNSTILE,PRECEDES UNDER RELATION"⟩,
    ⟨0x22B1, "", "SUCCEEDS UNDER RELATION,NORMAL SUBGROUP OF,CONTAINS AS NORMAL SUBGROUP"⟩,
    ⟨0x22B4, "", "NORMAL SUBGROUP OF OR EQUAL TO,CONTAINS AS NORMAL SUBGROUP OR EQUAL TO"⟩,
    ⟨0x22B6, "ORIG", "INAL OF"⟩,
    ⟨0x22B7, "", "IMAGE OF,MULTIMAP,HERMITIAN CONJUGATE MATRIX,INTERCALATE,XOR,NAND,NOR"⟩,
    ⟨0x22BE, "RIGHT ", "ANGLE WITH ARC,TRIANGLE"⟩,
    ⟨0x22C0, "N-ARY ", "LOGICAL AND,LOGICAL OR,INTERSECTION,UNION"⟩,
    ⟨0x22C4, "", "DIAMOND OPERATOR,DOT OPERATOR,STAR OPERATOR,DIVISION TIMES,BOWTIE"⟩,
    ⟨0x22C9, "", "LEFT NORMAL FACTOR SEMIDIRECT PRODUCT,RIGHT NORMAL FACTOR SEMIDIRECT PRODUCT"⟩,
    ⟨0x22CB, "", "LEFT SEMIDIRECT PRODUCT,RIGHT SEMIDIRECT PRODUCT,REVERSED TILDE EQUALS"⟩,
    ⟨0x22CE, "CURLY LOGICAL ", "OR,AND"⟩,
    ⟨0x22D0, "DOUBLE ", "SUBSET,SUPERSET,INTERSECTION,UNION"⟩,
    ⟨0x22D4, "", "PITCHFORK,EQUAL AND PARALLEL TO,LESS-THAN WITH DOT,GREATER-THAN WITH DOT"⟩,
    ⟨0x22D8, "VERY MUCH ", "LESS-THAN,GREATER-THAN"⟩,
    ⟨0x22DA, "", "LESS-THAN EQUAL TO OR GREATER-THAN,GREATER-THAN EQUAL TO OR LESS-THAN"⟩,
    ⟨0x22DC, "EQUAL TO OR ", "LESS-THAN,GREATER-THAN,PRECEDES,SUCCEEDS"⟩,
    ⟨0x22E0, "DOES NOT ", "PRECEDE OR EQUAL,SUCCEED OR EQUAL"⟩,
    ⟨0x22E2, "", "NOT SQUARE IMAGE OF OR EQUAL TO"⟩,
    ⟨0x22E3, "NOT SQUARE ORIG", "INAL OF OR EQUAL TO"⟩,
    ⟨0x22E4, "", "SQUARE IMAGE OF OR NOT EQUAL TO"⟩,
    ⟨0x22E5, "SQUARE ORIG", "INAL OF OR NOT EQUAL TO"⟩,
    ⟨0x22E6, "", "LESS-THAN BUT NOT EQUIVALENT TO,GREATER-THAN BUT NOT EQUIVALENT TO"⟩,
    ⟨0x22E8, "", "PRECEDES BUT NOT EQUIVALENT TO,SUCCEEDS BUT NOT EQUIVALENT TO"⟩,
    ⟨0x22EA, "", "NOT NORMAL SUBGROUP OF,DOES NOT CONTAIN AS NORMAL SUBGROUP"⟩,
    ⟨0x22EC, "", "NOT NORMAL SUBGROUP OF OR EQUAL TO,DOES NOT CONTAIN AS NORMAL SUBGROUP OR EQUAL"⟩,
    ⟨0x22EE, "", "VERTICAL ELLIPSIS,MIDLINE HORIZONTAL ELLIPSIS"⟩,
    ⟨0x22F0, "", "UP RIGHT DIAGONAL ELLIPSIS,DOWN RIGHT DIAGONAL ELLIPSIS"⟩,
    ⟨0x22F2, "ELEMENT OF WITH ", "LONG HORIZONTAL STROKE,VERTICAL BAR AT END OF HORIZONTAL STROKE"⟩,
    ⟨0x22F4, "", "SMALL ELEMENT OF WITH VERTICAL BAR AT END OF HORIZONTAL STROKE"⟩,
    ⟨0x22F5, "", "ELEMENT OF WITH DOT ABOVE,ELEMENT OF WITH OVERBAR,SMALL ELEMENT OF WITH OVERBAR"⟩,
    ⟨0x22F8, "ELEMENT OF WITH ", "UNDERBAR,TWO HORIZONTAL STROKES"⟩,
    ⟨0x22FA, "CONTAINS WITH ", "LONG HORIZONTAL STROKE,VERTICAL BAR AT END OF HORIZONTAL STROKE"⟩,
    ⟨0x22FC, "", "SMALL CONTAINS WITH VERTICAL BAR AT END OF HORIZONTAL STROKE"⟩,
    ⟨0x22FD, "", "CONTAINS WITH OVERBAR,SMALL CONTAINS WITH OVERBAR,Z NOTATION BAG MEMBERSHIP"⟩,
    ⟨0x2300, "", "DIAMETER SIGN,ELECTRIC ARROW,HOUSE,UP ARROWHEAD,DOWN ARROWHEAD,PROJECTIVE"⟩,
    ⟨0x2306, "", "PERSPECTIVE,WAVY LINE,LEFT CEILING,RIGHT CEILING,LEFT FLOOR,RIGHT FLOOR"⟩,
    ⟨0x230C, "BOTTOM ", "RIGHT CROP,LEFT CROP"⟩,
    ⟨0x230E, "", "TOP RIGHT CROP,TOP LEFT CROP,REVERSED NOT SIGN,SQUARE LOZENGE"⟩,
    ⟨0x2312, "", "ARC,SEGMENT,SECTOR,TELEPHONE RECORDER,POSITION INDICATOR,VIEWDATA SQUARE"⟩,
    ⟨0x2318, "", "PLACE OF INTEREST SIGN,TURNED NOT SIGN,WATCH,HOURGLASS,TOP LEFT CORNER"⟩,
    ⟨0x231D, "", "TOP RIGHT CORNER,BOTTOM LEFT CORNER,BOTTOM RIGHT CORNER,TOP HALF INTEGRAL"⟩,
    ⟨0x2321, "", "BOTTOM HALF INTEGRAL,FROWN,SMILE,UP ARROWHEAD BETWEEN TWO HORIZONTAL BARS"⟩,
    ⟨0x2325, "", "OPTION KEY,ERASE TO THE RIGHT,X IN A RECTANGLE BOX"⟩,
    ⟨0x2328, "", "KEYBOARD,LEFT-POINTING ANGLE BRACKET,RIGHT-POINTING ANGLE BRACKET"⟩,
    ⟨0x232B, "", "ERASE TO THE LEFT,BENZENE RING,CYLINDRICITY,ALL AROUND-PROFILE,SYMMETRY"⟩,
    ⟨0x2330, "", "TOTAL RUNOUT,DIMENSION ORIGIN,CONICAL TAPER,SLOPE,COUNTERBORE,COUNTERSINK"⟩,
    ⟨0x2336, "APL FUNCTIONAL SYMBOL ", "I-BEAM,SQUISH QUAD"⟩,
    ⟨0x2338, "APL FUNCTIONAL SYMBOL QUAD ", "EQUAL,DIVIDE,DIAMOND,JOT,CIRCLE"⟩,
    ⟨0x233D, "APL FUNCTIONAL SYMBOL ", "CIRCLE STILE,CIRCLE JOT,SLASH BAR,BACKSLASH BAR"⟩,
    ⟨0x2341, "APL FUNCTIONAL SYMBOL QUAD ", "SLASH,BACKSLASH,LESS-THAN,GREATER-THAN"⟩,
    ⟨0x2345, "APL FUNCTIONAL SYMBOL ", "LEFTWARDS VANE,RIGHTWARDS VANE,QUAD LEFTWARDS ARROW"⟩,
    ⟨0x2348, "APL FUNCTIONAL SYMBOL ", "QUAD RIGHTWARDS ARROW,CIRCLE BACKSLASH,DOWN TACK UNDERBAR"⟩,
    ⟨0x234B, "APL FUNCTIONAL SYMBOL ", "DELTA STILE,QUAD DOWN CARET,QUAD DELTA,DOWN TACK JOT"⟩,
    ⟨0x234F, "APL FUNCTIONAL SYMBOL ", "UPWARDS VANE,QUAD UPWARDS ARROW,UP TACK OVERBAR"⟩,
    ⟨0x2352, "APL FUNCTIONAL SYMBOL ", "DEL STILE,QUAD UP CARET,QUAD DEL,UP TACK JOT"⟩,
    ⟨0x2356, "APL FUNCTIONAL SYMBOL ", "DOWNWARDS VANE,QUAD DOWNWARDS ARROW,QUOTE UNDERBAR"⟩,
    ⟨0x2359, "APL FUNCTIONAL SYMBOL ", "DELTA UNDERBAR,DIAMOND UNDERBAR,JOT UNDERBAR"⟩,
    ⟨0x235C, "APL FUNCTIONAL SYMBOL ", "CIRCLE UNDERBAR,UP SHOE JOT,QUOTE QUAD,CIRCLE STAR"⟩,
    ⟨0x2360, "APL FUNCTIONAL SYMBOL ", "QUAD COLON,UP TACK DIAERESIS,DEL DIAERESIS,STAR DIAERESIS"⟩,
    ⟨0x2364, "APL FUNCTIONAL SYMBOL ", "JOT DIAERESIS,CIRCLE DIAERESIS,DOWN SHOE STILE"⟩,
    ⟨0x2367, "APL FUNCTIONAL SYMBOL ", "LEFT SHOE STILE,TILDE DIAERESIS,GREATER-THAN DIAERESIS"⟩,
    ⟨0x236A, "APL FUNCTIONAL SYMBOL ", "COMMA BAR,DEL TILDE,ZILDE,STILE TILDE,SEMICOLON UNDERBAR"⟩,
    ⟨0x236F, "APL FUNCTIONAL SYMBOL ", "QUAD NOT EQUAL,QUAD QUESTION,DOWN CARET TILDE"⟩,
    ⟨0x2372, "APL FUNCTIONAL SYMBOL ", "UP CARET TILDE,IOTA,RHO,OMEGA,ALPHA UNDERBAR"⟩,
    ⟨0x2377, "APL FUNCTIONAL SYMBOL ", "EPSILON UNDERBAR,IOTA UNDERBAR,OMEGA UNDERBAR,ALPHA"⟩,
    ⟨0x237B, "", "NOT CHECK MARK,RIGHT ANGLE WITH DOWNWARDS ZIGZAG ARROW"⟩,
    ⟨0x237D, "", "SHOULDERED OPEN BOX,BELL SYMBOL,VERTICAL LINE WITH MIDDLE DOT,INSERTION SYMBOL"⟩,
    ⟨0x2381, "", "CONTINUOUS UNDERLINE SYMBOL,DISCONTINUOUS UNDERLINE SYMBOL,EMPHASIS SYMBOL"⟩,
    ⟨0x2384, "", "COMPOSITION SYMBOL,WHITE SQUARE WITH CENTRE VERTICAL LINE,ENTER SYMBOL"⟩,
    ⟨0x2387, "", "ALTERNATIVE KEY SYMBOL,HELM SYMBOL,CIRCLED HORIZONTAL BAR WITH NOTCH"⟩,
    ⟨0x238A, "", "CIRCLED TRIANGLE DOWN,BROKEN CIRCLE WITH NORTHWEST ARROW"⟩,
    ⟨0x238C, "", "UNDO SYMBOL,MONOSTABLE SYMBOL,HYSTERESIS SYMBOL"⟩,
    ⟨0x238F, "OPEN-CIRCUIT-OUTPUT ", "H-TYPE SYMBOL,L-TYPE SYMBOL"⟩,
    ⟨0x2391, "PASSIVE-PULL-", "DOWN-OUTPUT SYMBOL,UP-OUTPUT SYMBOL"⟩,
    ⟨0x2393, "", "DIRECT CURRENT SYMBOL FORM TWO,SOFTWARE-FUNCTION SYMBOL"⟩,
    ⟨0x2395, "", "APL FUNCTIONAL SYMBOL QUAD,DECIMAL SEPARATOR KEY SYMBOL"⟩,
    ⟨0x2397, "", "PREVIOUS PAGE,NEXT PAGE,PRINT SCREEN SYMBOL,CLEAR SCREEN SYMBOL"⟩,
    ⟨0x239B, "LEFT PARENTHESIS ", "UPPER HOOK,EXTENSION,LOWER HOOK"⟩,
    ⟨0x239E, "RIGHT PARENTHESIS ", "UPPER HOOK,EXTENSION,LOWER HOOK"⟩,
    ⟨0x23A1, "LEFT SQUARE BRACKET ", "UPPER CORNER,EXTENSION,LOWER CORNER"⟩,
    ⟨0x23A4, "RIGHT SQUARE BRACKET ", "UPPER CORNER,EXTENSION,LOWER CORNER"⟩,
    ⟨0x23A7, "LEFT CURLY BRACKET ", "UPPER HOOK,MIDDLE PIECE,LOWER HOOK"⟩,
    ⟨0x23AA, "", "CURLY BRACKET EXTENSION"⟩,
    ⟨0x23AB, "RIGHT CURLY BRACKET ", "UPPER HOOK,MIDDLE PIECE,LOWER HOOK"⟩,
    ⟨0x23AE, "", "INTEGRAL EXTENSION"⟩,
    ⟨0x23AF, "", "HORIZONTAL LINE EXTENSION,UPPER LEFT OR LOWER RIGHT CURLY BRACKET SECTION"⟩,
    ⟨0x23B1, "", "UPPER RIGHT OR LOWER LEFT CURLY BRACKET SECTION"⟩,
    ⟨0x23B2, "", "SUMMATION TOP,SUMMATION BOTTOM,TOP SQUARE BRACKET"⟩,
    ⟨0x23B5, "BOTTOM SQUARE ", "BRACKET,BRACKET OVER TOP SQUARE BRACKET"⟩,
    ⟨0x23B7, "", "RADICAL SYMBOL BOTTOM,LEFT VERTICAL BOX LINE,RIGHT VERTICAL BOX LINE"⟩,
    ⟨0x23BA, "HORIZONTAL SCAN LINE-", "1,3,7,9"⟩,
    ⟨0x23BE, "DENTISTRY SYMBOL LIGHT VERTICAL ", "AND TOP RIGHT,AND BOTTOM RIGHT,WITH CIRCLE"⟩,
    ⟨0x23C1, "", "DENTISTRY SYMBOL LIGHT DOWN AND HORIZONTAL WITH CIRCLE"⟩,
    ⟨0x23C2, "", "DENTISTRY SYMBOL LIGHT UP AND HORIZONTAL WITH CIRCLE"⟩,
    ⟨0x23C3, "DENTISTRY SYMBOL LIGHT ", "VERTICAL WITH TRIANGLE,DOWN AND HORIZONTAL WITH TRIANGLE"⟩,
    ⟨0x23C5, "", "DENTISTRY SYMBOL LIGHT UP AND HORIZONTAL WITH TRIANGLE"⟩,
    ⟨0x23C6, "DENTISTRY SYMBOL LIGHT ", "VERTICAL AND WAVE,DOWN AND HORIZONTAL WITH WAVE"⟩,
    ⟨0x23C8, "", "DENTISTRY SYMBOL LIGHT UP AND HORIZONTAL WITH WAVE"⟩,
    ⟨0x23C9, "DENTISTRY SYMBOL LIGHT ", "DOWN AND HORIZONTAL,UP AND HORIZONTAL"⟩,
    ⟨0x23CB, "DENTISTRY SYMBOL LIGHT VERTICAL AND ", "TOP LEFT,BOTTOM LEFT"⟩,
    ⟨0x23CD, "", "SQUARE FOOT,RETURN SYMBOL,EJECT SYMBOL,VERTICAL LINE EXTENSION"⟩,
    ⟨0x23D1, "METRICAL ", "BREVE,LONG OVER SHORT,SHORT OVER LONG,LONG OVER TWO SHORTS"⟩,
    ⟨0x23D5, "METRICAL ", "TWO SHORTS OVER LONG,TWO SHORTS JOINED,TRISEME,TETRASEME,PENTASEME"⟩,
    ⟨0x23DA, "", "EARTH GROUND,FUSE,TOP PARENTHESIS,BOTTOM PARENTHESIS,TOP CURLY BRACKET"⟩,
    ⟨0x23DF, "", "BOTTOM CURLY BRACKET,TOP TORTOISE SHELL BRACKET,BOTTOM TORTOISE SHELL BRACKET"⟩,
    ⟨0x23E2, "", "WHITE TRAPEZIUM,BENZENE RING WITH CIRCLE,STRAIGHTNESS"⟩,
    ⟨0x23E5, "", "FLATNESS,AC CURRENT,ELECTRICAL INTERSECTION,DECIMAL EXPONENT SYMBOL"⟩,
    ⟨0x23E9, "BLACK ", "RIGHT-POINTING DOUBLE TRIANGLE,LEFT-POINTING DOUBLE TRIANGLE"⟩,
    ⟨0x23EB, "BLACK ", "UP-POINTING DOUBLE TRIANGLE,DOWN-POINTING DOUBLE TRIANGLE"⟩,
    ⟨0x23ED, "", "BLACK RIGHT-POINTING DOUBLE TRIANGLE WITH VERTICAL BAR"⟩,
    ⟨0x23EE, "", "BLACK LEFT-POINTING DOUBLE TRIANGLE WITH VERTICAL BAR"⟩,
    ⟨0x23EF, "", "BLACK RIGHT-POINTING TRIANGLE WITH DOUBLE VERTICAL BAR"⟩,
    ⟨0x23F0, "", "ALARM CLOCK,STOPWATCH,TIMER CLOCK,HOURGLASS WITH FLOWING SAND"⟩,
    ⟨0x23F4, "BLACK MEDIUM ", "LEFT-POINTING TRIANGLE,RIGHT-POINTING TRIANGLE"⟩,
    ⟨0x23F6, "BLACK MEDIUM ", "UP-POINTING TRIANGLE,DOWN-POINTING TRIANGLE"⟩,
    ⟨0x23F8, "", "DOUBLE VERTICAL BAR,BLACK SQUARE FOR STOP,BLACK CIRCLE FOR RECORD"⟩,
    ⟨0x23FB, "POWER ", "SYMBOL,ON-OFF SYMBOL,ON SYMBOL,SLEEP SYMBOL"⟩,
    ⟨0x23FF, "", "OBSERVER EYE SYMBOL,SYMBOL FOR NULL,SYMBOL FOR START OF HEADING"⟩,
    ⟨0x2402, "SYMBOL FOR ", "START OF TEXT,END OF TEXT,END OF TRANSMISSION,ENQUIRY,ACKNOWLEDGE"⟩,
    ⟨0x2407, "SYMBOL FOR ", "BELL,BACKSPACE,HORIZONTAL TABULATION,LINE FEED,VERTICAL TABULATION"⟩,
    ⟨0x240C, "SYMBOL FOR ", "FORM FEED,CARRIAGE RETURN,SHIFT OUT,SHIFT IN,DATA LINK ESCAPE"⟩,
    ⟨0x2411, "SYMBOL FOR DEVICE CONTROL ", "ONE,TWO,THREE,FOUR"⟩,
    ⟨0x2415, "SYMBOL FOR ", "NEGATIVE ACKNOWLEDGE,SYNCHRONOUS IDLE,END OF TRANSMISSION BLOCK"⟩,
    ⟨0x2418, "SYMBOL FOR ", "CANCEL,END OF MEDIUM,SUBSTITUTE,ESCAPE,FILE SEPARATOR"⟩,
    ⟨0x241D, "SYMBOL FOR ", "GROUP SEPARATOR,RECORD SEPARATOR,UNIT SEPARATOR,SPACE,DELETE"⟩,
    ⟨0x2422, "", "BLANK SYMBOL,OPEN BOX"⟩,
    ⟨0x2424, "SYMBOL FOR ", "NEWLINE,DELETE FORM TWO,SUBSTITUTE FORM TWO"⟩,
    ⟨0x2440, "", "OCR HOOK"⟩,
    ⟨0x2441, "OCR ", "CHAIR,FORK,INVERTED FORK,BELT BUCKLE,BOW TIE,BRANCH BANK IDENTIFICATION"⟩,
    ⟨0x2447, "OCR ", "AMOUNT OF CHECK,DASH,CUSTOMER ACCOUNT NUMBER,DOUBLE BACKSLASH"⟩,
    ⟨0x2460, "CIRCLED DIGIT ", "ONE,TWO,THREE,FOUR,FIVE,SIX,SEVEN,EIGHT,NINE"⟩,
    ⟨0x2469, "CIRCLED NUMBER ", "TEN,ELEVEN,TWELVE,THIRTEEN"⟩,
    ⟨0x246D, "CIRCLED NUMBER ", "FOURTEEN,FIFTEEN,SIXTEEN,SEVENTEEN,EIGHTEEN,NINETEEN,TWENTY"⟩,
    ⟨0x2474, "PARENTHESIZED DIGIT ", "ONE,TWO,THREE,FOUR,FIVE,SIX,SEVEN,EIGHT,NINE"⟩,
    ⟨0x247D, "PARENTHESIZED NUMBER ", "TEN,ELEVEN,TWELVE,THIRTEEN,FOURTEEN"⟩,
    ⟨0x2482, "PARENTHESIZED NUMBER ", "FIFTEEN,SIXTEEN,SEVENTEEN,EIGHTEEN,NINETEEN,TWENTY"⟩,
    ⟨0x2488, "DIGIT ", "ONE FULL STOP,TWO FULL STOP,THREE FULL STOP,FOUR FULL STOP,FIVE FULL STOP"⟩,
    ⟨0x248D, "DIGIT ", "SIX FULL STOP,SEVEN FULL STOP,EIGHT FULL STOP,NINE FULL STOP"⟩,
    ⟨0x2491, "", "NUMBER TEN FULL STOP"⟩,
    ⟨0x2492, "NUMBER ", "ELEVEN FULL STOP,TWELVE FULL STOP,THIRTEEN FULL STOP,FOURTEEN FULL STOP"⟩,
    ⟨0x2496, "NUMBER ", "FIFTEEN FULL STOP,SIXTEEN FULL STOP,SEVENTEEN FULL STOP"⟩,
    ⟨0x2499, "NUMBER ", "EIGHTEEN FULL STOP,NINETEEN FULL STOP,TWENTY FULL STOP"⟩,
    ⟨0x249C, "PARENTHESIZED LATIN SMALL LETTER ", "A,B,C"⟩,
    ⟨0x249F, "PARENTHESIZED LATIN SMALL LETTER ", "D,E,F,G,H,I,J,K,L,M,N,O,P,Q,R,S,T,U,V,W,X,Y,Z"⟩,
    ⟨0x24B6, "", "CIRCLED LATIN CAPITAL LETTER A"⟩,
    ⟨0x24B7, "CIRCLED LATIN CAPITAL LETTER ", "B,C,D,E,F,G,H,I,J,K,L,M,N,O,P,Q,R,S,T,U,V,W,X,Y,Z"⟩,
    ⟨0x24D0, "CIRCLED LATIN SMALL LETTER ", "A,B,C,D,E,F,G,H,I,J,K,L,M,N,O,P,Q,R,S,T,U,V,W,X,Y,Z"⟩,
    ⟨0x24EA, "", "CIRCLED DIGIT ZERO"⟩,
    ⟨0x24EB, "NEGATIVE CIRCLED NUMBER ", "ELEVEN,TWELVE,THIRTEEN,FOURTEEN"⟩,
    ⟨0x24EF, "NEGATIVE CIRCLED NUMBER ", "FIFTEEN,SIXTEEN,SEVENTEEN,EIGHTEEN,NINETEEN,TWENTY"⟩,
    ⟨0x24F5, "DOUBLE CIRCLED DIGIT ", "ONE,TWO,THREE,FOUR,FIVE,SIX,SEVEN,EIGHT,NINE"⟩,
    ⟨0x24FE, "", "DOUBLE CIRCLED NUMBER TEN,NEGATIVE CIRCLED DIGIT ZERO"⟩,
    ⟨0x2500, "BOX DRAWINGS ", "LIGHT HORIZONTAL,HEAVY HORIZONTAL"⟩,
    ⟨0x2502, "BOX DRAWINGS ", "LIGHT VERTICAL,HEAVY VERTICAL,LIGHT TRIPLE DASH HORIZONTAL"⟩,
    ⟨0x2505, "BOX DRAWINGS ", "HEAVY TRIPLE DASH HORIZONTAL,LIGHT TRIPLE DASH VERTICAL"⟩,
    ⟨0x2507, "BOX DRAWINGS ", "HEAVY TRIPLE DASH VERTICAL,LIGHT QUADRUPLE DASH HORIZONTAL"⟩,
    ⟨0x2509, "BOX DRAWINGS ", "HEAVY QUADRUPLE DASH HORIZONTAL,LIGHT QUADRUPLE DASH VERTICAL"⟩,
    ⟨0x250B, "BOX DRAWINGS ", "HEAVY QUADRUPLE DASH VERTICAL,LIGHT DOWN AND RIGHT"⟩,
    ⟨0x250D, "BOX DRAWINGS DOWN ", "LIGHT AND RIGHT HEAVY,HEAVY AND RIGHT LIGHT"⟩,
    ⟨0x250F, "BOX DRAWINGS ", "HEAVY DOWN AND RIGHT,LIGHT DOWN AND LEFT,DOWN LIGHT AND LEFT HEAVY"⟩,
    ⟨0x2512, "BOX DRAWINGS ", "DOWN HEAVY AND LEFT LIGHT,HEAVY DOWN AND LEFT,LIGHT UP AND RIGHT"⟩,
    ⟨0x2515, "BOX DRAWINGS UP ", "LIGHT AND RIGHT HEAVY,HEAVY AND RIGHT LIGHT"⟩,
    ⟨0x2517, "BOX DRAWINGS ", "HEAVY UP AND RIGHT,LIGHT UP AND LEFT,UP LIGHT AND LEFT HEAVY"⟩,
    ⟨0x251A, "BOX DRAWINGS ", "UP HEAVY AND LEFT LIGHT,HEAVY UP AND LEFT,LIGHT VERTICAL AND RIGHT"⟩,
    ⟨0x251D, "BOX DRAWINGS ", "VERTICAL LIGHT AND RIGHT HEAVY,UP HEAVY AND RIGHT DOWN LIGHT"⟩,
    ⟨0x251F, "BOX DRAWINGS ", "DOWN HEAVY AND RIGHT UP LIGHT,VERTICAL HEAVY AND RIGHT LIGHT"⟩,
    ⟨0x2521, "BOX DRAWINGS ", "DOWN LIGHT AND RIGHT UP HEAVY,UP LIGHT AND RIGHT DOWN HEAVY"⟩,
    ⟨0x2523, "BOX DRAWINGS ", "HEAVY VERTICAL AND RIGHT,LIGHT VERTICAL AND LEFT"⟩,
    ⟨0x2525, "BOX DRAWINGS ", "VERTICAL LIGHT AND LEFT HEAVY,UP HEAVY AND LEFT DOWN LIGHT"⟩,
    ⟨0x2527, "BOX DRAWINGS ", "DOWN HEAVY AND LEFT UP LIGHT,VERTICAL HEAVY AND LEFT LIGHT"⟩,
    ⟨0x2529, "BOX DRAWINGS ", "DOWN LIGHT AND LEFT UP HEAVY,UP LIGHT AND LEFT DOWN HEAVY"⟩,
    ⟨0x252B, "BOX DRAWINGS ", "HEAVY VERTICAL AND LEFT,LIGHT DOWN AND HORIZONTAL"⟩,
    ⟨0x252D, "BOX DRAWINGS ", "LEFT HEAVY AND RIGHT DOWN LIGHT,RIGHT HEAVY AND LEFT DOWN LIGHT"⟩,
    ⟨0x252F, "BOX DRAWINGS DOWN ", "LIGHT AND HORIZONTAL HEAVY,HEAVY AND HORIZONTAL LIGHT"⟩,
    ⟨0x2531, "BOX DRAWINGS ", "RIGHT LIGHT AND LEFT DOWN HEAVY,LEFT LIGHT AND RIGHT DOWN HEAVY"⟩,
    ⟨0x2533, "BOX DRAWINGS ", "HEAVY DOWN AND HORIZONTAL,LIGHT UP AND HORIZONTAL"⟩,
    ⟨0x2535, "BOX DRAWINGS ", "LEFT HEAVY AND RIGHT UP LIGHT,RIGHT HEAVY AND LEFT UP LIGHT"⟩,
    ⟨0x2537, "BOX DRAWINGS UP ", "LIGHT AND HORIZONTAL HEAVY,HEAVY AND HORIZONTAL LIGHT"⟩,
    ⟨0x2539, "", "BOX DRAWINGS RIGHT LIGHT AND LEFT UP HEAVY"⟩,
    ⟨0x253A, "BOX DRAWINGS ", "LEFT LIGHT AND RIGHT UP HEAVY,HEAVY UP AND HORIZONTAL"⟩,
    ⟨0x253C, "BOX DRAWINGS ", "LIGHT VERTICAL AND HORIZONTAL,LEFT HEAVY AND RIGHT VERTICAL LIGHT"⟩,
    ⟨0x253E, "", "BOX DRAWINGS RIGHT HEAVY AND LEFT VERTICAL LIGHT"⟩,
    ⟨0x253F, "", "BOX DRAWINGS VERTICAL LIGHT AND HORIZONTAL HEAVY"⟩,
    ⟨0x2540, "", "BOX DRAWINGS UP HEAVY AND DOWN HORIZONTAL LIGHT"⟩,
    ⟨0x2541, "", "BOX DRAWINGS DOWN HEAVY AND UP HORIZONTAL LIGHT"⟩,
    ⟨0x2542, "", "BOX DRAWINGS VERTICAL HEAVY AND HORIZONTAL LIGHT"⟩,
    ⟨0x2543, "", "BOX DRAWINGS LEFT UP HEAVY AND RIGHT DOWN LIGHT"⟩,
    ⟨0x2544, "", "BOX DRAWINGS RIGHT UP HEAVY AND LEFT DOWN LIGHT"⟩,
    ⟨0x2545, "", "BOX DRAWINGS LEFT DOWN HEAVY AND RIGHT UP LIGHT"⟩,
    ⟨0x2546, "", "BOX DRAWINGS RIGHT DOWN HEAVY AND LEFT UP LIGHT"⟩,
    ⟨0x2547, "", "BOX DRAWINGS DOWN LIGHT AND UP HORIZONTAL HEAVY"⟩,
    ⟨0x2548, "", "BOX DRAWINGS UP LIGHT AND DOWN HORIZONTAL HEAVY"⟩,
    ⟨0x2549, "", "BOX DRAWINGS RIGHT LIGHT AND LEFT VERTICAL HEAVY"⟩,
    ⟨0x254A, "BOX DRAWINGS ", "LEFT LIGHT AND RIGHT VERTICAL HEAVY,HEAVY VERTICAL AND HORIZONTAL"⟩,
    ⟨0x254C, "BOX DRAWINGS ", "LIGHT DOUBLE DASH HORIZONTAL,HEAVY DOUBLE DASH HORIZONTAL"⟩,
    ⟨0x254E, "BOX DRAWINGS ", "LIGHT DOUBLE DASH VERTICAL,HEAVY DOUBLE DASH VERTICAL"⟩,
    ⟨0x2550, "BOX DRAWINGS DOUBLE ", "HORIZONTAL,VERTICAL"⟩,
    ⟨0x2552, "BOX DRAWINGS DOWN ", "SINGLE AND RIGHT DOUBLE,DOUBLE AND RIGHT SINGLE"⟩,
    ⟨0x2554, "BOX DRAWINGS ", "DOUBLE DOWN AND RIGHT,DOWN SINGLE AND LEFT DOUBLE"⟩,
    ⟨0x2556, "BOX DRAWINGS ", "DOWN DOUBLE AND LEFT SINGLE,DOUBLE DOWN AND LEFT"⟩,
    ⟨0x2558, "BOX DRAWINGS UP ", "SINGLE AND RIGHT DOUBLE,DOUBLE AND RIGHT SINGLE"⟩,
    ⟨0x255A, "BOX DRAWINGS ", "DOUBLE UP AND RIGHT,UP SINGLE AND LEFT DOUBLE"⟩,
    ⟨0x255C, "BOX DRAWINGS ", "UP DOUBLE AND LEFT SINGLE,DOUBLE UP AND LEFT"⟩,
    ⟨0x255E, "BOX DRAWINGS VERTICAL ", "SINGLE AND RIGHT DOUBLE,DOUBLE AND RIGHT SINGLE"⟩,
    ⟨0x2560, "BOX DRAWINGS ", "DOUBLE VERTICAL AND RIGHT,VERTICAL SINGLE AND LEFT DOUBLE"⟩,
    ⟨0x2562, "BOX DRAWINGS ", "VERTICAL DOUBLE AND LEFT SINGLE,DOUBLE VERTICAL AND LEFT"⟩,
    ⟨0x2564, "BOX DRAWINGS DOWN ", "SINGLE AND HORIZONTAL DOUBLE,DOUBLE AND HORIZONTAL SINGLE"⟩,
    ⟨0x2566, "BOX DRAWINGS ", "DOUBLE DOWN AND HORIZONTAL,UP SINGLE AND HORIZONTAL DOUBLE"⟩,
    ⟨0x2568, "BOX DRAWINGS ", "UP DOUBLE AND HORIZONTAL SINGLE,DOUBLE UP AND HORIZONTAL"⟩,
    ⟨0x256A, "BOX DRAWINGS VERTICAL ", "SINGLE AND HORIZONTAL DOUBLE,DOUBLE AND HORIZONTAL SINGLE"⟩,
    ⟨0x256C, "", "BOX DRAWINGS DOUBLE VERTICAL AND HORIZONTAL"⟩,
    ⟨0x256D, "BOX DRAWINGS LIGHT ARC ", "DOWN AND RIGHT,DOWN AND LEFT,UP AND LEFT,UP AND RIGHT"⟩,
    ⟨0x2571, "BOX DRAWINGS LIGHT DIAGONAL UPPER ", "RIGHT TO LOWER LEFT,LEFT TO LOWER RIGHT"⟩,
    ⟨0x2573, "BOX DRAWINGS LIGHT ", "DIAGONAL CROSS,LEFT,UP,RIGHT,DOWN"⟩,
    ⟨0x2578, "BOX DRAWINGS HEAVY ", "LEFT,UP,RIGHT,DOWN"⟩,
    ⟨0x257C, "BOX DRAWINGS LIGHT ", "LEFT AND HEAVY RIGHT,UP AND HEAVY DOWN"⟩,
    ⟨0x257E, "BOX DRAWINGS HEAVY ", "LEFT AND LIGHT RIGHT,UP AND LIGHT DOWN"⟩,
    ⟨0x2580, "", "UPPER HALF BLOCK,LOWER ONE EIGHTH BLOCK,LOWER ONE QUARTER BLOCK"⟩,
    ⟨0x2583, "LOWER ", "THREE EIGHTHS BLOCK,HALF BLOCK,FIVE EIGHTHS BLOCK,THREE QUARTERS BLOCK"⟩,
    ⟨0x2587, "", "LOWER SEVEN EIGHTHS BLOCK,FULL BLOCK,LEFT SEVEN EIGHTHS BLOCK"⟩,
    ⟨0x258A, "LEFT ", "THREE QUARTERS BLOCK,FIVE EIGHTHS BLOCK,HALF BLOCK,THREE EIGHTHS BLOCK"⟩,
    ⟨0x258E, "", "LEFT ONE QUARTER BLOCK,LEFT ONE EIGHTH BLOCK,RIGHT HALF BLOCK,LIGHT SHADE"⟩,
    ⟨0x2592, "", "MEDIUM SHADE,DARK SHADE,UPPER ONE EIGHTH BLOCK,RIGHT ONE EIGHTH BLOCK"⟩,
    ⟨0x2596, "QUADRANT ", "LOWER LEFT,LOWER RIGHT,UPPER LEFT"⟩,
    ⟨0x2599, "QUADRANT UPPER LEFT AND LOWER ", "LEFT AND LOWER RIGHT,RIGHT"⟩,
    ⟨0x259B, "QUADRANT UPPER LEFT AND UPPER RIGHT AND LOWER ", "LEFT,RIGHT"⟩,
    ⟨0x259D, "QUADRANT UPPER ", "RIGHT,RIGHT AND LOWER LEFT,RIGHT AND LOWER LEFT AND LOWER RIGHT"⟩,
    ⟨0x25A0, "", "BLACK SQUARE,WHITE SQUARE"⟩,
    ⟨0x25A2, "WHITE SQUARE ", "WITH ROUNDED CORNERS,CONTAINING BLACK SMALL SQUARE"⟩,
    ⟨0x25A4, "SQUARE WITH ", "HORIZONTAL FILL,VERTICAL FILL,ORTHOGONAL CROSSHATCH FILL"⟩,
    ⟨0x25A7, "SQUARE WITH UPPER ", "LEFT TO LOWER RIGHT FILL,RIGHT TO LOWER LEFT FILL"⟩,
    ⟨0x25A9, "", "SQUARE WITH DIAGONAL CROSSHATCH FILL"⟩,
    ⟨0x25AA, "", "BLACK SMALL SQUARE,WHITE SMALL SQUARE,BLACK RECTANGLE,WHITE RECTANGLE"⟩,
    ⟨0x25AE, "", "BLACK VERTICAL RECTANGLE,WHITE VERTICAL RECTANGLE,BLACK PARALLELOGRAM"⟩,
    ⟨0x25B1, "", "WHITE PARALLELOGRAM,BLACK UP-POINTING TRIANGLE,WHITE UP-POINTING TRIANGLE"⟩,
    ⟨0x25B4, "", "BLACK UP-POINTING SMALL TRIANGLE,WHITE UP-POINTING SMALL TRIANGLE"⟩,
    ⟨0x25B6, "", "BLACK RIGHT-POINTING TRIANGLE,WHITE RIGHT-POINTING TRIANGLE"⟩,
    ⟨0x25B8, "", "BLACK RIGHT-POINTING SMALL TRIANGLE,WHITE RIGHT-POINTING SMALL TRIANGLE"⟩,
    ⟨0x25BA, "", "BLACK RIGHT-POINTING POINTER,WHITE RIGHT-POINTING POINTER"⟩,
    ⟨0x25BC, "", "BLACK DOWN-POINTING TRIANGLE,WHITE DOWN-POINTING TRIANGLE"⟩,
    ⟨0x25BE, "", "BLACK DOWN-POINTING SMALL TRIANGLE,WHITE DOWN-POINTING SMALL TRIANGLE"⟩,
    ⟨0x25C0, "", "BLACK LEFT-POINTING TRIANGLE,WHITE LEFT-POINTING TRIANGLE"⟩,
    ⟨0x25C2, "", "BLACK LEFT-POINTING SMALL TRIANGLE,WHITE LEFT-POINTING SMALL TRIANGLE"⟩,
    ⟨0x25C4, "", "BLACK LEFT-POINTING POINTER,WHITE LEFT-POINTING POINTER,BLACK DIAMOND"⟩,
    ⟨0x25C7, "", "WHITE DIAMOND,WHITE DIAMOND CONTAINING BLACK SMALL DIAMOND,FISHEYE,LOZENGE"⟩,
    ⟨0x25CB, "", "WHITE CIRCLE,DOTTED CIRCLE,CIRCLE WITH VERTICAL FILL,BULLSEYE,BLACK CIRCLE"⟩,
    ⟨0x25D0, "CIRCLE WITH ", "LEFT HALF BLACK,RIGHT HALF BLACK,LOWER HALF BLACK,UPPER HALF BLACK"⟩,
    ⟨0x25D4, "CIRCLE WITH ", "UPPER RIGHT QUADRANT BLACK,ALL BUT UPPER LEFT QUADRANT BLACK"⟩,
    ⟨0x25D6, "", "LEFT HALF BLACK CIRCLE,RIGHT HALF BLACK CIRCLE"⟩,
    ⟨0x25D8, "INVERSE ", "BULLET,WHITE CIRCLE"⟩,
    ⟨0x25DA, "", "UPPER HALF INVERSE WHITE CIRCLE,LOWER HALF INVERSE WHITE CIRCLE"⟩,
    ⟨0x25DC, "UPPER ", "LEFT QUADRANT CIRCULAR ARC,RIGHT QUADRANT CIRCULAR ARC"⟩,
    ⟨0x25DE, "LOWER ", "RIGHT QUADRANT CIRCULAR ARC,LEFT QUADRANT CIRCULAR ARC"⟩,
    ⟨0x25E0, "", "UPPER HALF CIRCLE,LOWER HALF CIRCLE,BLACK LOWER RIGHT TRIANGLE"⟩,
    ⟨0x25E3, "BLACK ", "LOWER LEFT TRIANGLE,UPPER LEFT TRIANGLE,UPPER RIGHT TRIANGLE"⟩,
    ⟨0x25E6, "", "WHITE BULLET,SQUARE WITH LEFT HALF BLACK,SQUARE WITH RIGHT HALF BLACK"⟩,
    ⟨0x25E9, "SQUARE WITH ", "UPPER LEFT DIAGONAL HALF BLACK,LOWER RIGHT DIAGONAL HALF BLACK"⟩,
    ⟨0x25EB, "WHITE ", "SQUARE WITH VERTICAL BISECTING LINE,UP-POINTING TRIANGLE WITH DOT"⟩,
    ⟨0x25ED, "UP-POINTING TRIANGLE WITH ", "LEFT HALF BLACK,RIGHT HALF BLACK"⟩,
    ⟨0x25EF, "", "LARGE CIRCLE,WHITE SQUARE WITH UPPER LEFT QUADRANT"⟩,
    ⟨0x25F1, "WHITE SQUARE WITH ", "LOWER LEFT QUADRANT,LOWER RIGHT QUADRANT,UPPER RIGHT QUADRANT"⟩,
    ⟨0x25F4, "WHITE CIRCLE WITH ", "UPPER LEFT QUADRANT,LOWER LEFT QUADRANT,LOWER RIGHT QUADRANT"⟩,
    ⟨0x25F7, "", "WHITE CIRCLE WITH UPPER RIGHT QUADRANT,UPPER LEFT TRIANGLE,UPPER RIGHT TRIANGLE"⟩,
    ⟨0x25FA, "", "LOWER LEFT TRIANGLE,WHITE MEDIUM SQUARE,BLACK MEDIUM SQUARE"⟩,
    ⟨0x25FD, "", "WHITE MEDIUM SMALL SQUARE,BLACK MEDIUM SMALL SQUARE,LOWER RIGHT TRIANGLE"⟩
  ]

end MemoryAtlas.Text.Name
