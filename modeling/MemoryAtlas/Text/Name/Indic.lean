import MemoryAtlas.Text.Characters

/-!
Names of characters from U+0590 to U+11FF: the scripts from Hebrew to Ethiopic and Hangul.
-/

namespace MemoryAtlas.Text.Name

def indic : List Block :=
  [
    ⟨0x591, "HEBREW ACCENT ", "ETNAHTA,SEGOL,SHALSHELET,ZAQEF QATAN,ZAQEF GADOL,TIPEHA"⟩,
    ⟨0x597, "HEBREW ACCENT ", "REVIA,ZARQA,PASHTA,YETIV,TEVIR,GERESH,GERESH MUQDAM,GERSHAYIM"⟩,
    ⟨0x59F, "HEBREW ACCENT ", "QARNEY PARA,TELISHA GEDOLA,PAZER,ATNAH HAFUKH,MUNAH,MAHAPAKH"⟩,
    ⟨0x5A5, "HEBREW ACCENT ", "MERKHA,MERKHA KEFULA,DARGA,QADMA,TELISHA QETANA,YERAH BEN YOMO,OLE"⟩,
    ⟨0x5AC, "HEBREW ", "ACCENT ILUY,ACCENT DEHI,ACCENT ZINOR,MARK MASORA CIRCLE"⟩,
    ⟨0x5B0, "HEBREW POINT ", "SHEVA,HATAF SEGOL,HATAF PATAH,HATAF QAMATS,HIRIQ,TSERE,SEGOL"⟩,
    ⟨0x5B7, "HEBREW POINT ", "PATAH,QAMATS,HOLAM,HOLAM HASER FOR VAV,QUBUTS,DAGESH OR MAPIQ,METEG"⟩,
    ⟨0x5BE, "HEBREW ", "PUNCTUATION MAQAF,POINT RAFE"⟩,
    ⟨0x5C0, "HEBREW ", "PUNCTUATION PASEQ,POINT SHIN DOT,POINT SIN DOT,PUNCTUATION SOF PASUQ"⟩,
    ⟨0x5C4, "HEBREW ", "MARK UPPER DOT,MARK LOWER DOT,PUNCTUATION NUN HAFUKHA,POINT QAMATS QATAN"⟩,
    ⟨0x5D0, "HEBREW LETTER ", "ALEF,BET,GIMEL,DALET,HE"⟩,
    ⟨0x5D5, "HEBREW LETTER ", "VAV,ZAYIN,HET,TET,YOD,FINAL KAF,KAF,LAMED,FINAL MEM,MEM,FINAL NUN"⟩,
    ⟨0x5E0, "HEBREW LETTER ", "NUN,SAMEKH,AYIN,FINAL PE,PE,FINAL TSADI,TSADI,QOF,RESH,SHIN,TAV"⟩,
    ⟨0x5EF, "", "HEBREW YOD TRIANGLE"⟩,
    ⟨0x5F0, "HEBREW LIGATURE YIDDISH ", "DOUBLE VAV,VAV YOD,DOUBLE YOD"⟩,
    ⟨0x5F3, "HEBREW PUNCTUATION ", "GERESH,GERSHAYIM"⟩,
    ⟨0x600, "ARABIC ", "NUMBER SIGN,SIGN SANAH,FOOTNOTE MARKER,SIGN SAFHA,SIGN SAMVAT"⟩,
    ⟨0x605, "", "ARABIC NUMBER MARK ABOVE,ARABIC-INDIC CUBE ROOT,ARABIC-INDIC FOURTH ROOT"⟩,
    ⟨0x608, "", "ARABIC RAY,ARABIC-INDIC PER MILLE SIGN,ARABIC-INDIC PER TEN THOUSAND SIGN"⟩,
    ⟨0x60B, "", "AFGHANI SIGN,ARABIC COMMA,ARABIC DATE SEPARATOR"⟩,
    ⟨0x60E, "ARABIC ", "POETIC VERSE SIGN,SIGN MISRA,SIGN SALLALLAHOU ALAYHE WASSALLAM"⟩,
    ⟨0x611, "ARABIC SIGN ", "ALAYHE ASSALLAM,RAHMATULLAH ALAYHE,RADI ALLAHOU ANHU,TAKHALLUS"⟩,
    ⟨0x615, "ARABIC SMALL ", "HIGH TAH,HIGH LIGATURE ALEF WITH LAM WITH YEH,HIGH ZAIN,FATHA,DAMMA"⟩,
    ⟨0x61A, "ARABIC ", "SMALL KASRA,SEMICOLON"⟩,
    ⟨0x61C, "ARABIC ", "LETTER MARK,END OF TEXT MARK,TRIPLE DOT PUNCTUATION MARK,QUESTION MARK"⟩,
    ⟨0x620, "ARABIC LETTER ", "KASHMIRI YEH,HAMZA,ALEF WITH MADDA ABOVE"⟩,
    ⟨0x623, "ARABIC LETTER ", "ALEF WITH HAMZA ABOVE,WAW WITH HAMZA ABOVE,ALEF WITH HAMZA BELOW"⟩,
    ⟨0x626, "ARABIC LETTER ", "YEH WITH HAMZA ABOVE,ALEF,BEH,TEH MARBUTA,TEH,THEH,JEEM"⟩,
    ⟨0x62D, "ARABIC LETTER ", "HAH,KHAH,DAL,THAL,REH,ZAIN,SEEN,SHEEN,SAD,DAD,TAH,ZAH,AIN,GHAIN"⟩,
    ⟨0x63B, "ARABIC LETTER KEHEH WITH ", "TWO DOTS ABOVE,THREE DOTS BELOW"⟩,
    ⟨0x63D, "ARABIC LETTER FARSI YEH WITH ", "INVERTED V,TWO DOTS ABOVE,THREE DOTS ABOVE"⟩,
    ⟨0x640, "", "ARABIC TATWEEL"⟩,
    ⟨0x641, "ARABIC LETTER ", "FEH,QAF,KAF,LAM,MEEM,NOON,HEH,WAW,ALEF MAKSURA,YEH"⟩,
    ⟨0x64B, "ARABIC ", "FATHATAN,DAMMATAN,KASRATAN,FATHA,DAMMA,KASRA,SHADDA,SUKUN,MADDAH ABOVE"⟩,
    ⟨0x654, "ARABIC ", "HAMZA ABOVE,HAMZA BELOW,SUBSCRIPT ALEF,INVERTED DAMMA,MARK NOON GHUNNA"⟩,
    ⟨0x659, "ARABIC ", "ZWARAKAY,VOWEL SIGN SMALL V ABOVE,VOWEL SIGN INVERTED SMALL V ABOVE"⟩,
    ⟨0x65C, "ARABIC ", "VOWEL SIGN DOT BELOW,REVERSED DAMMA,FATHA WITH TWO DOTS,WAVY HAMZA BELOW"⟩,
    ⟨0x660, "ARABIC-INDIC DIGIT ", "ZERO,ONE,TWO,THREE,FOUR,FIVE,SIX,SEVEN,EIGHT,NINE"⟩,
    ⟨0x66A, "ARABIC ", "PERCENT SIGN,DECIMAL SEPARATOR,THOUSANDS SEPARATOR,FIVE POINTED STAR"⟩,
    ⟨0x66E, "ARABIC LETTER ", "DOTLESS BEH,DOTLESS QAF,SUPERSCRIPT ALEF,ALEF WASLA"⟩,
    ⟨0x672, "ARABIC LETTER ALEF WITH WAVY HAMZA ", "ABOVE,BELOW"⟩,
    ⟨0x674, "ARABIC LETTER HIGH ", "HAMZA,HAMZA ALEF,HAMZA WAW"⟩,
    ⟨0x677, "ARABIC LETTER ", "U WITH HAMZA ABOVE,HIGH HAMZA YEH,TTEH,TTEHEH"⟩,
    ⟨0x67B, "ARABIC LETTER ", "BEEH,TEH WITH RING,TEH WITH THREE DOTS ABOVE DOWNWARDS,PEH,TEHEH"⟩,
    ⟨0x680, "ARABIC LETTER ", "BEHEH,HAH WITH HAMZA ABOVE,HAH WITH TWO DOTS VERTICAL ABOVE,NYEH"⟩,
    ⟨0x684, "ARABIC LETTER ", "DYEH,HAH WITH THREE DOTS ABOVE,TCHEH,TCHEHEH,DDAL,DAL WITH RING"⟩,
    ⟨0x68A, "ARABIC LETTER ", "DAL WITH DOT BELOW,DAL WITH DOT BELOW AND SMALL TAH,DAHAL,DDAHAL"⟩,
    ⟨0x68E, "ARABIC LETTER ", "DUL,DAL WITH THREE DOTS ABOVE DOWNWARDS,DAL WITH FOUR DOTS ABOVE"⟩,
    ⟨0x691, "ARABIC LETTER ", "RREH,REH WITH SMALL V,REH WITH RING,REH WITH DOT BELOW"⟩,
    ⟨0x695, "ARABIC LETTER REH WITH ", "SMALL V BELOW,DOT BELOW AND DOT ABOVE,TWO DOTS ABOVE"⟩,
    ⟨0x698, "ARABIC LETTER ", "JEH,REH WITH FOUR DOTS ABOVE,SEEN WITH DOT BELOW AND DOT ABOVE"⟩,
    ⟨0x69B, "ARABIC LETTER SEEN WITH THREE DOTS ", "BELOW,BELOW AND THREE DOTS ABOVE"⟩,
    ⟨0x69D, "ARABIC LETTER SAD WITH ", "TWO DOTS BELOW,THREE DOTS ABOVE"⟩,
    ⟨0x69F, "ARABIC LETTER ", "TAH WITH THREE DOTS ABOVE,AIN WITH THREE DOTS ABOVE,DOTLESS FEH"⟩,
    ⟨0x6A2, "ARABIC LETTER FEH WITH DOT ", "MOVED BELOW,BELOW"⟩,
    ⟨0x6A4, "ARABIC LETTER ", "VEH,FEH WITH THREE DOTS BELOW,PEHEH,QAF WITH DOT ABOVE"⟩,
    ⟨0x6A8, "ARABIC LETTER ", "QAF WITH THREE DOTS ABOVE,KEHEH,SWASH KAF,KAF WITH RING"⟩,
    ⟨0x6AC, "ARABIC LETTER ", "KAF WITH DOT ABOVE,NG,KAF WITH THREE DOTS BELOW,GAF,GAF WITH RING"⟩,
    ⟨0x6B1, "ARABIC LETTER ", "NGOEH,GAF WITH TWO DOTS BELOW,GUEH,GAF WITH THREE DOTS ABOVE"⟩,
    ⟨0x6B5, "ARABIC LETTER LAM WITH ", "SMALL V,DOT ABOVE,THREE DOTS ABOVE,THREE DOTS BELOW"⟩,
    ⟨0x6B9, "ARABIC LETTER ", "NOON WITH DOT BELOW,NOON GHUNNA,RNOON"⟩,
    ⟨0x6BC, "ARABIC LETTER NOON WITH ", "RING,THREE DOTS ABOVE"⟩,
    ⟨0x6BE, "ARABIC LETTER ", "HEH DOACHASHMEE,TCHEH WITH DOT ABOVE,HEH WITH YEH ABOVE"⟩,
    ⟨0x6C1, "ARABIC LETTER ", "HEH GOAL,HEH GOAL WITH HAMZA ABOVE,TEH MARBUTA GOAL,WAW WITH RING"⟩,
    ⟨0x6C5, "ARABIC LETTER ", "KIRGHIZ OE,OE,U,YU,KIRGHIZ YU,WAW WITH TWO DOTS ABOVE"⟩,
    ⟨0x6CB, "ARABIC LETTER ", "VE,FARSI YEH,YEH WITH TAIL,YEH WITH SMALL V,WAW WITH DOT ABOVE,E"⟩,
    ⟨0x6D1, "ARABIC LETTER YEH ", "WITH THREE DOTS BELOW,BARREE,BARREE WITH HAMZA ABOVE"⟩,
    ⟨0x6D4, "ARABIC ", "FULL STOP,LETTER AE,SMALL HIGH LIGATURE SAD WITH LAM WITH ALEF MAKSURA"⟩,
    ⟨0x6D7, "", "ARABIC SMALL HIGH LIGATURE QAF WITH LAM WITH ALEF MAKSURA"⟩,
    ⟨0x6D8, "ARABIC SMALL HIGH ", "MEEM INITIAL FORM,LAM ALEF,JEEM,THREE DOTS,SEEN"⟩,
    ⟨0x6DD, "ARABIC ", "END OF AYAH,START OF RUB EL HIZB"⟩,
    ⟨0x6DF, "ARABIC SMALL HIGH ", "ROUNDED ZERO,UPRIGHT RECTANGULAR ZERO,DOTLESS HEAD OF KHAH"⟩,
    ⟨0x6E2, "ARABIC SMALL ", "HIGH MEEM ISOLATED FORM,LOW SEEN,HIGH MADDA,WAW,YEH,HIGH YEH"⟩,
    ⟨0x6E8, "ARABIC ", "SMALL HIGH NOON,PLACE OF SAJDAH,EMPTY CENTRE LOW STOP"⟩,
    ⟨0x6EB, "ARABIC ", "EMPTY CENTRE HIGH STOP,ROUNDED HIGH STOP WITH FILLED CENTRE"⟩,
    ⟨0x6ED, "ARABIC ", "SMALL LOW MEEM,LETTER DAL WITH INVERTED V,LETTER REH WITH INVERTED V"⟩,
    ⟨0x6F0, "EXTENDED ARABIC-INDIC DIGIT ", "ZERO,ONE,TWO,THREE,FOUR,FIVE,SIX,SEVEN,EIGHT,NINE"⟩,
    ⟨0x6FA, "ARABIC LETTER ", "SHEEN WITH DOT BELOW,DAD WITH DOT BELOW,GHAIN WITH DOT BELOW"⟩,
    ⟨0x6FD, "ARABIC SIGN SINDHI ", "AMPERSAND,POSTPOSITION MEN"⟩,
    ⟨0x6FF, "", "ARABIC LETTER HEH WITH INVERTED V,SYRIAC END OF PARAGRAPH"⟩,
    ⟨0x701, "SYRIAC ", "SUPRALINEAR FULL STOP,SUBLINEAR FULL STOP,SUPRALINEAR COLON"⟩,
    ⟨0x704, "SYRIAC ", "SUBLINEAR COLON,HORIZONTAL COLON,COLON SKEWED LEFT,COLON SKEWED RIGHT"⟩,
    ⟨0x708, "SYRIAC ", "SUPRALINEAR COLON SKEWED LEFT,SUBLINEAR COLON SKEWED RIGHT,CONTRACTION"⟩,
    ⟨0x70B, "SYRIAC HARKLEAN ", "OBELUS,METOBELUS,ASTERISCUS"⟩,
    ⟨0x70F, "SYRIAC ", "ABBREVIATION MARK,LETTER ALAPH,LETTER SUPERSCRIPT ALAPH"⟩,
    ⟨0x712, "SYRIAC LETTER ", "BETH,GAMAL,GAMAL GARSHUNI,DALATH,DOTLESS DALATH RISH,HE"⟩,
    ⟨0x718, "SYRIAC LETTER ", "WAW,ZAIN,HETH,TETH,TETH GARSHUNI,YUDH,YUDH HE,KAPH,LAMADH,MIM,NUN"⟩,
    ⟨0x723, "SYRIAC LETTER ", "SEMKATH,FINAL SEMKATH,E,PE,REVERSED PE,SADHE,QAPH,RISH,SHIN,TAW"⟩,
    ⟨0x72D, "SYRIAC LETTER PERSIAN ", "BHETH,GHAMAL,DHALATH"⟩,
    ⟨0x730, "SYRIAC PTHAHA ", "ABOVE,BELOW,DOTTED"⟩,
    ⟨0x733, "SYRIAC ", "ZQAPHA ABOVE,ZQAPHA BELOW,ZQAPHA DOTTED,RBASA ABOVE,RBASA BELOW"⟩,
    ⟨0x738, "SYRIAC ", "DOTTED ZLAMA HORIZONTAL,DOTTED ZLAMA ANGULAR,HBASA ABOVE,HBASA BELOW"⟩,
    ⟨0x73C, "SYRIAC ", "HBASA-ESASA DOTTED,ESASA ABOVE,ESASA BELOW,RWAHA,FEMININE DOT,QUSHSHAYA"⟩,
    ⟨0x742, "SYRIAC ", "RUKKAKHA,TWO VERTICAL DOTS ABOVE,TWO VERTICAL DOTS BELOW,THREE DOTS ABOVE"⟩,
    ⟨0x746, "SYRIAC ", "THREE DOTS BELOW,OBLIQUE LINE ABOVE,OBLIQUE LINE BELOW,MUSIC,BARREKH"⟩,
    ⟨0x74D, "SYRIAC LETTER SOGDIAN ", "ZHAIN,KHAPH,FE"⟩,
    ⟨0x750, "", "ARABIC LETTER BEH WITH THREE DOTS HORIZONTALLY BELOW"⟩,
    ⟨0x751, "", "ARABIC LETTER BEH WITH DOT BELOW AND THREE DOTS ABOVE"⟩,
    ⟨0x752, "", "ARABIC LETTER BEH WITH THREE DOTS POINTING UPWARDS BELOW"⟩,
    ⟨0x753, "", "ARABIC LETTER BEH WITH THREE DOTS POINTING UPWARDS BELOW AND TWO DOTS ABOVE"⟩,
    ⟨0x754, "", "ARABIC LETTER BEH WITH TWO DOTS BELOW AND DOT ABOVE"⟩,
    ⟨0x755, "ARABIC LETTER BEH WITH ", "INVERTED SMALL V BELOW,SMALL V"⟩,
    ⟨0x757, "ARABIC LETTER HAH WITH ", "TWO DOTS ABOVE,THREE DOTS POINTING UPWARDS BELOW"⟩,
    ⟨0x759, "", "ARABIC LETTER DAL WITH TWO DOTS VERTICALLY BELOW AND SMALL TAH"⟩,
    ⟨0x75A, "", "ARABIC LETTER DAL WITH INVERTED SMALL V BELOW"⟩,
    ⟨0x75B, "ARABIC LETTER ", "REH WITH STROKE,SEEN WITH FOUR DOTS ABOVE"⟩,
    ⟨0x75D, "ARABIC LETTER AIN WITH ", "TWO DOTS ABOVE,THREE DOTS POINTING DOWNWARDS ABOVE"⟩,
    ⟨0x75F, "ARABIC LETTER ", "AIN WITH TWO DOTS VERTICALLY ABOVE,FEH WITH TWO DOTS BELOW"⟩,
    ⟨0x761, "ARABIC LETTER ", "FEH WITH THREE DOTS POINTING UPWARDS BELOW,KEHEH WITH DOT ABOVE"⟩,
    ⟨0x763, "ARABIC LETTER KEHEH WITH THREE DOTS ", "ABOVE,POINTING UPWARDS BELOW"⟩,
    ⟨0x765, "ARABIC LETTER MEEM WITH DOT ", "ABOVE,BELOW"⟩,
    ⟨0x767, "ARABIC LETTER NOON WITH ", "TWO DOTS BELOW,SMALL TAH,SMALL V"⟩,
    ⟨0x76A, "ARABIC LETTER ", "LAM WITH BAR,REH WITH TWO DOTS VERTICALLY ABOVE"⟩,
    ⟨0x76C, "ARABIC LETTER ", "REH WITH HAMZA ABOVE,SEEN WITH TWO DOTS VERTICALLY ABOVE"⟩,
    ⟨0x76E, "ARABIC LETTER HAH WITH SMALL ARABIC LETTER TAH ", "BELOW,AND TWO DOTS"⟩,
    ⟨0x770, "", "ARABIC LETTER SEEN WITH SMALL ARABIC LETTER TAH AND TWO DOTS"⟩,
    ⟨0x771, "", "ARABIC LETTER REH WITH SMALL ARABIC LETTER TAH AND TWO DOTS"⟩,
    ⟨0x772, "", "ARABIC LETTER HAH WITH SMALL ARABIC LETTER TAH ABOVE"⟩,
    ⟨0x773, "ARABIC LETTER ALEF WITH EXTENDED ARABIC-INDIC DIGIT ", "TWO ABOVE,THREE ABOVE"⟩,
    ⟨0x775, "", "ARABIC LETTER FARSI YEH WITH EXTENDED ARABIC-INDIC DIGIT TWO ABOVE"⟩,
    ⟨0x776, "ARABIC LETTER FARSI YEH WITH EXTENDED ARABIC-INDIC DIGIT ", "THREE ABOVE,FOUR BELOW"⟩,
    ⟨0x778, "ARABIC LETTER WAW WITH EXTENDED ARABIC-INDIC DIGIT ", "TWO ABOVE,THREE ABOVE"⟩,
    ⟨0x77A, "ARABIC LETTER YEH BARREE WITH EXTENDED ARABIC-INDIC DIGIT ", "TWO ABOVE,THREE ABOVE"⟩,
    ⟨0x77C, "", "ARABIC LETTER HAH WITH EXTENDED ARABIC-INDIC DIGIT FOUR BELOW"⟩,
    ⟨0x77D, "ARABIC LETTER SEEN WITH ", "EXTENDED ARABIC-INDIC DIGIT FOUR ABOVE,INVERTED V"⟩,
    ⟨0x77F, "", "ARABIC LETTER KAF WITH TWO DOTS ABOVE"⟩,
    ⟨0x780, "THAANA LETTER ", "HAA,SHAVIYANI,NOONU,RAA,BAA,LHAVIYANI,KAAFU,ALIFU"⟩,
    ⟨0x788, "THAANA LETTER ", "VAAVU,MEEMU,FAAFU,DHAALU,THAA,LAAMU,GAAFU,GNAVIYANI,SEENU,DAVIYANI"⟩,
    ⟨0x792, "THAANA LETTER ", "ZAVIYANI,TAVIYANI,YAA,PAVIYANI,JAVIYANI,CHAVIYANI,TTAA,HHAA"⟩,
    ⟨0x79A, "THAANA LETTER ", "KHAA,THAALU,ZAA,SHEENU,SAADHU,DAADHU,TO,ZO,AINU,GHAINU,QAAFU,WAAVU"⟩,
    ⟨0x7A6, "THAANA ", "ABAFILI,AABAAFILI,IBIFILI,EEBEEFILI"⟩,
    ⟨0x7AA, "THAANA ", "UBUFILI,OOBOOFILI,EBEFILI,EYBEYFILI,OBOFILI,OABOAFILI,SUKUN,LETTER NAA"⟩,
    ⟨0x7C0, "NKO DIGIT ", "ZERO,ONE,TWO,THREE,FOUR,FIVE,SIX,SEVEN,EIGHT,NINE"⟩,
    ⟨0x7CA, "NKO LETTER ", "A,EE,I,E,U,OO,O,DAGBASINNA,N,BA,PA,TA,JA,CHA,DA,RA,RRA,SA,GBA,FA,KA"⟩,
    ⟨0x7DF, "NKO LETTER ", "LA,NA WOLOSO,MA,NYA,NA,HA,WA,YA,NYA WOLOSO,JONA JA,JONA CHA,JONA RA"⟩,
    ⟨0x7EB, "NKO COMBINING SHORT ", "HIGH TONE,LOW TONE,RISING TONE"⟩,
    ⟨0x7EE, "NKO COMBINING LONG ", "DESCENDING TONE,HIGH TONE,LOW TONE,RISING TONE"⟩,
    ⟨0x7F2, "NKO COMBINING ", "NASALIZATION MARK,DOUBLE DOT ABOVE"⟩,
    ⟨0x7F4, "NKO ", "HIGH TONE APOSTROPHE,LOW TONE APOSTROPHE"⟩,
    ⟨0x7F6, "NKO ", "SYMBOL OO DENNEN,SYMBOL GBAKURUNEN,COMMA,EXCLAMATION MARK,LAJANYALAN"⟩,
    ⟨0x7FD, "NKO ", "DANTAYALAN,DOROME SIGN,TAMAN SIGN"⟩,
    ⟨0x800, "SAMARITAN LETTER ", "ALAF,BIT,GAMAN,DALAT,IY,BAA,ZEN,IT,TIT"⟩,
    ⟨0x809, "SAMARITAN LETTER ", "YUT,KAAF,LABAT,MIM,NUN,SINGAAT,IN,FI,TSAADIY,QUF,RISH,SHAN,TAAF"⟩,
    ⟨0x816, "SAMARITAN MARK ", "IN,IN-ALAF,OCCLUSION,DAGESH"⟩,
    ⟨0x81A, "SAMARITAN ", "MODIFIER LETTER EPENTHETIC YUT,MARK EPENTHETIC YUT"⟩,
    ⟨0x81C, "SAMARITAN VOWEL SIGN ", "LONG E,E,OVERLONG AA,LONG AA,AA,OVERLONG A,LONG A,A"⟩,
    ⟨0x824, "SAMARITAN ", "MODIFIER LETTER SHORT A,VOWEL SIGN SHORT A"⟩,
    ⟨0x826, "SAMARITAN ", "VOWEL SIGN LONG U,VOWEL SIGN U,MODIFIER LETTER I,VOWEL SIGN LONG I"⟩,
    ⟨0x82A, "SAMARITAN ", "VOWEL SIGN I,VOWEL SIGN O,VOWEL SIGN SUKUN,MARK NEQUDAA"⟩,
    ⟨0x830, "SAMARITAN PUNCTUATION ", "NEQUDAA,AFSAAQ,ANGED,BAU,ATMAAU,SHIYYAALAA"⟩,
    ⟨0x836, "SAMARITAN ", "ABBREVIATION MARK,PUNCTUATION MELODIC QITSA"⟩,
    ⟨0x838, "SAMARITAN PUNCTUATION ", "ZIQAA,QITSA,ZAEF,TURU,ARKAANU,SOF MASHFAAT,ANNAAU"⟩,
    ⟨0x840, "MANDAIC LETTER ", "HALQA,AB,AG,AD,AH,USHENNA,AZ,IT"⟩,
    ⟨0x848, "MANDAIC LETTER ", "ATT,AKSA,AK,AL,AM,AN,AS,IN,AP,ASZ,AQ,AR,ASH,AT,DUSHENNA,KAD,AIN"⟩,
    ⟨0x859, "MANDAIC ", "AFFRICATION MARK,VOCALIZATION MARK,GEMINATION MARK"⟩,
    ⟨0x85E, "", "MANDAIC PUNCTUATION"⟩,
    ⟨0x860, "SYRIAC LETTER MALAYALAM ", "NGA,JA,NYA,TTA,NNA,NNNA,BHA,RA,LLA,LLLA,SSA"⟩,
    ⟨0x870, "ARABIC LETTER ALEF WITH ATTACHED ", "FATHA,TOP RIGHT FATHA"⟩,
    ⟨0x872, "ARABIC LETTER ALEF WITH ", "RIGHT MIDDLE STROKE,LEFT MIDDLE STROKE"⟩,
    ⟨0x874, "ARABIC LETTER ALEF WITH ATTACHED ", "KASRA,BOTTOM RIGHT KASRA,ROUND DOT ABOVE"⟩,
    ⟨0x877, "ARABIC LETTER ALEF WITH ATTACHED ", "RIGHT ROUND DOT,LEFT ROUND DOT,ROUND DOT BELOW"⟩,
    ⟨0x87A, "ARABIC LETTER ALEF WITH ", "DOT ABOVE,ATTACHED TOP RIGHT FATHA AND DOT ABOVE"⟩,
    ⟨0x87C, "", "ARABIC LETTER ALEF WITH RIGHT MIDDLE STROKE AND DOT ABOVE"⟩,
    ⟨0x87D, "", "ARABIC LETTER ALEF WITH ATTACHED BOTTOM RIGHT KASRA AND DOT ABOVE"⟩,
    ⟨0x87E, "", "ARABIC LETTER ALEF WITH ATTACHED TOP RIGHT FATHA AND LEFT RING"⟩,
    ⟨0x87F, "", "ARABIC LETTER ALEF WITH RIGHT MIDDLE STROKE AND LEFT RING"⟩,
    ⟨0x880, "", "ARABIC LETTER ALEF WITH ATTACHED BOTTOM RIGHT KASRA AND LEFT RING"⟩,
    ⟨0x881, "ARABIC LETTER ALEF WITH ATTACHED ", "RIGHT HAMZA,LEFT HAMZA"⟩,
    ⟨0x883, "ARABIC TATWEEL WITH ", "OVERSTRUCK HAMZA,OVERSTRUCK WAW,TWO DOTS BELOW"⟩,
    ⟨0x886, "ARABIC ", "LETTER THIN YEH,BASELINE ROUND DOT,RAISED ROUND DOT"⟩,
    ⟨0x889, "ARABIC LETTER ", "NOON WITH INVERTED SMALL V,HAH WITH INVERTED SMALL V BELOW"⟩,
    ⟨0x88B, "ARABIC LETTER TAH WITH ", "DOT BELOW,THREE DOTS BELOW"⟩,
    ⟨0x88D, "ARABIC ", "LETTER KEHEH WITH TWO DOTS VERTICALLY BELOW,VERTICAL TAIL"⟩,
    ⟨0x890, "ARABIC ", "POUND MARK ABOVE,PIASTRE MARK ABOVE"⟩,
    ⟨0x898, "ARABIC SMALL ", "HIGH WORD AL-JUZ,LOW WORD ISHMAAM,LOW WORD IMAALA,LOW WORD TASHEEL"⟩,
    ⟨0x89C, "ARABIC ", "MADDA WAAJIB,SUPERSCRIPT ALEF MOKHASSAS"⟩,
    ⟨0x89E, "ARABIC ", "DOUBLED MADDA,HALF MADDA OVER MADDA,LETTER BEH WITH SMALL V BELOW"⟩,
    ⟨0x8A1, "ARABIC LETTER ", "BEH WITH HAMZA ABOVE,JEEM WITH TWO DOTS ABOVE"⟩,
    ⟨0x8A3, "ARABIC LETTER ", "TAH WITH TWO DOTS ABOVE,FEH WITH DOT BELOW AND THREE DOTS ABOVE"⟩,
    ⟨0x8A5, "ARABIC LETTER ", "QAF WITH DOT BELOW,LAM WITH DOUBLE BAR,MEEM WITH THREE DOTS ABOVE"⟩,
    ⟨0x8A8, "ARABIC LETTER YEH WITH TWO DOTS BELOW AND ", "HAMZA ABOVE,DOT ABOVE"⟩,
    ⟨0x8AA, "ARABIC LETTER ", "REH WITH LOOP,WAW WITH DOT WITHIN"⟩,
    ⟨0x8AC, "ARABIC LETTER ", "ROHINGYA YEH,LOW ALEF,DAL WITH THREE DOTS BELOW"⟩,
    ⟨0x8AF, "ARABIC LETTER ", "SAD WITH THREE DOTS BELOW,GAF WITH INVERTED STROKE"⟩,
    ⟨0x8B1, "ARABIC LETTER ", "STRAIGHT WAW,ZAIN WITH INVERTED V ABOVE,AIN WITH THREE DOTS BELOW"⟩,
    ⟨0x8B4, "ARABIC LETTER ", "KAF WITH DOT BELOW,QAF WITH DOT BELOW AND NO DOTS ABOVE"⟩,
    ⟨0x8B6, "ARABIC LETTER ", "BEH WITH SMALL MEEM ABOVE,PEH WITH SMALL MEEM ABOVE"⟩,
    ⟨0x8B8, "ARABIC LETTER ", "TEH WITH SMALL TEH ABOVE,REH WITH SMALL NOON ABOVE"⟩,
    ⟨0x8BA, "ARABIC LETTER ", "YEH WITH TWO DOTS BELOW AND SMALL NOON ABOVE,AFRICAN FEH"⟩,
    ⟨0x8BC, "ARABIC LETTER ", "AFRICAN QAF,AFRICAN NOON,PEH WITH SMALL V,TEH WITH SMALL V"⟩,
    ⟨0x8C0, "ARABIC LETTER ", "TTEH WITH SMALL V,TCHEH WITH SMALL V,KEHEH WITH SMALL V"⟩,
    ⟨0x8C3, "ARABIC LETTER ", "GHAIN WITH THREE DOTS ABOVE,AFRICAN QAF WITH THREE DOTS ABOVE"⟩,
    ⟨0x8C5, "ARABIC LETTER JEEM WITH THREE DOTS ", "ABOVE,BELOW"⟩,
    ⟨0x8C7, "ARABIC ", "LETTER LAM WITH SMALL ARABIC LETTER TAH ABOVE,LETTER GRAF,SMALL FARSI YEH"⟩,
    ⟨0x8CA, "ARABIC SMALL HIGH ", "FARSI YEH,YEH BARREE WITH TWO DOTS BELOW,WORD SAH,ZAH"⟩,
    ⟨0x8CE, "ARABIC ", "LARGE ROUND DOT ABOVE,LARGE ROUND DOT BELOW,SUKUN BELOW"⟩,
    ⟨0x8D1, "ARABIC ", "LARGE CIRCLE BELOW,LARGE ROUND DOT INSIDE CIRCLE BELOW,SMALL LOW WAW"⟩,
    ⟨0x8D4, "ARABIC SMALL HIGH ", "WORD AR-RUB,SAD,AIN,QAF,NOON WITH KASRA"⟩,
    ⟨0x8D9, "ARABIC SMALL ", "LOW NOON WITH KASRA,HIGH WORD ATH-THALATHA,HIGH WORD AS-SAJDA"⟩,
    ⟨0x8DC, "ARABIC SMALL HIGH ", "WORD AN-NISF,WORD SAKTA,WORD QIF,WORD WAQFA,FOOTNOTE MARKER"⟩,
    ⟨0x8E1, "ARABIC ", "SMALL HIGH SIGN SAFHA,DISPUTED END OF AYAH,TURNED DAMMA BELOW"⟩,
    ⟨0x8E4, "ARABIC CURLY ", "FATHA,DAMMA,KASRA,FATHATAN,DAMMATAN,KASRATAN"⟩,
    ⟨0x8EA, "ARABIC TONE ", "ONE DOT ABOVE,TWO DOTS ABOVE,LOOP ABOVE,ONE DOT BELOW,TWO DOTS BELOW"⟩,
    ⟨0x8EF, "ARABIC ", "TONE LOOP BELOW,OPEN FATHATAN,OPEN DAMMATAN,OPEN KASRATAN,SMALL HIGH WAW"⟩,
    ⟨0x8F4, "ARABIC FATHA WITH ", "RING,DOT ABOVE"⟩,
    ⟨0x8F6, "ARABIC ", "KASRA WITH DOT BELOW,LEFT ARROWHEAD ABOVE"⟩,
    ⟨0x8F8, "ARABIC ", "RIGHT ARROWHEAD ABOVE,LEFT ARROWHEAD BELOW,RIGHT ARROWHEAD BELOW"⟩,
    ⟨0x8FB, "ARABIC DOUBLE RIGHT ARROWHEAD ", "ABOVE,ABOVE WITH DOT"⟩,
    ⟨0x8FD, "ARABIC ", "RIGHT ARROWHEAD ABOVE WITH DOT,DAMMA WITH DOT,MARK SIDEWAYS NOON GHUNNA"⟩,
    ⟨0x900, "DEVANAGARI SIGN ", "INVERTED CANDRABINDU,CANDRABINDU,ANUSVARA,VISARGA"⟩,
    ⟨0x904, "DEVANAGARI LETTER ", "SHORT A,A,AA,I,II,U,UU,VOCALIC R,VOCALIC L"⟩,
    ⟨0x90D, "DEVANAGARI LETTER ", "CANDRA E,SHORT E,E,AI,CANDRA O,SHORT O,O,AU,KA,KHA,GA,GHA"⟩,
    ⟨0x919, "DEVANAGARI LETTER ", "NGA,CA,CHA,JA,JHA,NYA,TTA,TTHA,DDA,DDHA,NNA,TA,THA,DA,DHA,NA"⟩,
    ⟨0x929, "DEVANAGARI LETTER ", "NNNA,PA,PHA,BA,BHA,MA,YA,RA,RRA,LA,LLA,LLLA,VA,SHA,SSA,SA,HA"⟩,
    ⟨0x93A, "DEVANAGARI ", "VOWEL SIGN OE,VOWEL SIGN OOE,SIGN NUKTA,SIGN AVAGRAHA"⟩,
    ⟨0x93E, "DEVANAGARI VOWEL SIGN ", "AA,I,II,U,UU,VOCALIC R"⟩,
    ⟨0x944, "DEVANAGARI VOWEL SIGN ", "VOCALIC RR,CANDRA E,SHORT E,E,AI,CANDRA O,SHORT O,O,AU"⟩,
    ⟨0x94D, "DEVANAGARI ", "SIGN VIRAMA,VOWEL SIGN PRISHTHAMATRA E,VOWEL SIGN AW"⟩,
    ⟨0x950, "DEVANAGARI ", "OM,STRESS SIGN UDATTA,STRESS SIGN ANUDATTA,GRAVE ACCENT,ACUTE ACCENT"⟩,
    ⟨0x955, "DEVANAGARI VOWEL SIGN ", "CANDRA LONG E,UE,UUE"⟩,
    ⟨0x958, "DEVANAGARI LETTER ", "QA,KHHA,GHHA,ZA,DDDHA,RHA,FA,YYA,VOCALIC RR,VOCALIC LL"⟩,
    ⟨0x962, "DEVANAGARI ", "VOWEL SIGN VOCALIC L,VOWEL SIGN VOCALIC LL,DANDA,DOUBLE DANDA"⟩,
    ⟨0x966, "DEVANAGARI DIGIT ", "ZERO,ONE,TWO,THREE,FOUR,FIVE,SIX,SEVEN,EIGHT,NINE"⟩,
    ⟨0x970, "DEVANAGARI ", "ABBREVIATION SIGN,SIGN HIGH SPACING DOT"⟩,
    ⟨0x972, "DEVANAGARI LETTER ", "CANDRA A,OE,OOE,AW"⟩,
    ⟨0x976, "DEVANAGARI LETTER ", "UE,UUE,MARWARI DDA,ZHA,HEAVY YA,GGA,JJA,GLOTTAL STOP,DDDA,BBA"⟩,
    ⟨0x980, "BENGALI ", "ANJI,SIGN CANDRABINDU,SIGN ANUSVARA,SIGN VISARGA"⟩,
    ⟨0x985, "BENGALI LETTER ", "A,AA,I,II,U,UU,VOCALIC R,VOCALIC L"⟩,
    ⟨0x98F, "BENGALI LETTER ", "E,AI"⟩,
    ⟨0x993, "BENGALI LETTER ", "O,AU,KA,KHA,GA"⟩,
    ⟨0x998, "BENGALI LETTER ", "GHA,NGA,CA,CHA,JA,JHA,NYA,TTA,TTHA,DDA,DDHA,NNA,TA,THA,DA,DHA,NA"⟩,
    ⟨0x9AA, "BENGALI LETTER ", "PA,PHA,BA,BHA,MA,YA,RA"⟩,
    ⟨0x9B2, "", "BENGALI LETTER LA"⟩,
    ⟨0x9B6, "BENGALI LETTER ", "SHA,SSA,SA,HA"⟩,
    ⟨0x9BC, "BENGALI SIGN ", "NUKTA,AVAGRAHA"⟩,
    ⟨0x9BE, "BENGALI VOWEL SIGN ", "AA,I,II,U,UU,VOCALIC R,VOCALIC RR"⟩,
    ⟨0x9C7, "BENGALI VOWEL SIGN ", "E,AI"⟩,
    ⟨0x9CB, "BENGALI ", "VOWEL SIGN O,VOWEL SIGN AU,SIGN VIRAMA,LETTER KHANDA TA"⟩,
    ⟨0x9D7, "", "BENGALI AU LENGTH MARK"⟩,
    ⟨0x9DC, "BENGALI LETTER ", "RRA,RHA"⟩,
    ⟨0x9DF, "BENGALI LETTER ", "YYA,VOCALIC RR,VOCALIC LL"⟩,
    ⟨0x9E2, "BENGALI VOWEL SIGN VOCALIC ", "L,LL"⟩,
    ⟨0x9E6, "BENGALI DIGIT ", "ZERO,ONE,TWO,THREE,FOUR,FIVE,SIX,SEVEN,EIGHT,NINE"⟩,
    ⟨0x9F0, "BENGALI LETTER RA WITH ", "MIDDLE DIAGONAL,LOWER DIAGONAL"⟩,
    ⟨0x9F2, "BENGALI RUPEE ", "MARK,SIGN"⟩,
    ⟨0x9F4, "BENGALI CURRENCY NUMERATOR ", "ONE,TWO,THREE,FOUR,ONE LESS THAN THE DENOMINATOR"⟩,
    ⟨0x9F9, "", "BENGALI CURRENCY DENOMINATOR SIXTEEN"⟩,
    ⟨0x9FA, "BENGALI ", "ISSHAR,GANDA MARK,LETTER VEDIC ANUSVARA,ABBREVIATION SIGN,SANDHI MARK"⟩,
    ⟨0xA01, "GURMUKHI SIGN ", "ADAK BINDI,BINDI,VISARGA"⟩,
    ⟨0xA05, "GURMUKHI LETTER ", "A,AA,I,II,U,UU"⟩,
    ⟨0xA0F, "GURMUKHI LETTER ", "EE,AI"⟩,
    ⟨0xA13, "GURMUKHI LETTER ", "OO,AU,KA,KHA,GA"⟩,
    ⟨0xA18, "GURMUKHI LETTER ", "GHA,NGA,CA,CHA,JA,JHA,NYA,TTA,TTHA,DDA,DDHA,NNA,TA,THA,DA,DHA,NA"⟩,
    ⟨0xA2A, "GURMUKHI LETTER ", "PA,PHA,BA,BHA,MA,YA,RA"⟩,
    ⟨0xA32, "GURMUKHI LETTER ", "LA,LLA"⟩,
    ⟨0xA35, "GURMUKHI LETTER ", "VA,SHA"⟩,
    ⟨0xA38, "GURMUKHI LETTER ", "SA,HA"⟩,
    ⟨0xA3C, "", "GURMUKHI SIGN NUKTA"⟩,
    ⟨0xA3E, "GURMUKHI VOWEL SIGN ", "AA,I,II,U,UU"⟩,
    ⟨0xA47, "GURMUKHI VOWEL SIGN ", "EE,AI"⟩,
    ⟨0xA4B, "GURMUKHI ", "VOWEL SIGN OO,VOWEL SIGN AU,SIGN VIRAMA"⟩,
    ⟨0xA51, "", "GURMUKHI SIGN UDAAT"⟩,
    ⟨0xA59, "GURMUKHI LETTER ", "KHHA,GHHA,ZA,RRA"⟩,
    ⟨0xA5E, "", "GURMUKHI LETTER FA"⟩,
    ⟨0xA66, "GURMUKHI DIGIT ", "ZERO,ONE,TWO,THREE,FOUR,FIVE,SIX,SEVEN,EIGHT,NINE"⟩,
    ⟨0xA70, "GURMUKHI ", "TIPPI,ADDAK,IRI,URA,EK ONKAR,SIGN YAKASH,ABBREVIATION SIGN"⟩,
    ⟨0xA81, "GUJARATI SIGN ", "CANDRABINDU,ANUSVARA,VISARGA"⟩,
    ⟨0xA85, "GUJARATI LETTER ", "A,AA,I,II,U,UU,VOCALIC R,VOCALIC L"⟩,
    ⟨0xA8D, "", "GUJARATI VOWEL CANDRA E"⟩,
    ⟨0xA8F, "GUJARATI ", "LETTER E,LETTER AI,VOWEL CANDRA O"⟩,
    ⟨0xA93, "GUJARATI LETTER ", "O,AU,KA,KHA,GA"⟩,
    ⟨0xA98, "GUJARATI LETTER ", "GHA,NGA,CA,CHA,JA,JHA,NYA,TTA,TTHA,DDA,DDHA,NNA,TA,THA,DA,DHA,NA"⟩,
    ⟨0xAAA, "GUJARATI LETTER ", "PA,PHA,BA,BHA,MA,YA,RA"⟩,
    ⟨0xAB2, "GUJARATI LETTER ", "LA,LLA"⟩,
    ⟨0xAB5, "GUJARATI LETTER ", "VA,SHA,SSA,SA,HA"⟩,
    ⟨0xABC, "GUJARATI SIGN ", "NUKTA,AVAGRAHA"⟩,
    ⟨0xABE, "GUJARATI VOWEL SIGN ", "AA,I,II,U,UU,VOCALIC R,VOCALIC RR,CANDRA E"⟩,
    ⟨0xAC7, "GUJARATI VOWEL SIGN ", "E,AI,CANDRA O"⟩,
    ⟨0xACB, "GUJARATI ", "VOWEL SIGN O,VOWEL SIGN AU,SIGN VIRAMA"⟩,
    ⟨0xAD0, "", "GUJARATI OM"⟩,
    ⟨0xAE0, "GUJARATI LETTER VOCALIC ", "RR,LL"⟩,
    ⟨0xAE2, "GUJARATI VOWEL SIGN VOCALIC ", "L,LL"⟩,
    ⟨0xAE6, "GUJARATI DIGIT ", "ZERO,ONE,TWO,THREE,FOUR,FIVE,SIX,SEVEN,EIGHT,NINE"⟩,
    ⟨0xAF0, "GUJARATI ", "ABBREVIATION SIGN,RUPEE SIGN"⟩,
    ⟨0xAF9, "GUJARATI ", "LETTER ZHA,SIGN SUKUN,SIGN SHADDA,SIGN MADDAH"⟩,
    ⟨0xAFD, "GUJARATI SIGN ", "THREE-DOT NUKTA ABOVE,CIRCLE NUKTA ABOVE,TWO-CIRCLE NUKTA ABOVE"⟩,
    ⟨0xB01, "ORIYA SIGN ", "CANDRABINDU,ANUSVARA,VISARGA"⟩,
    ⟨0xB05, "ORIYA LETTER ", "A,AA,I,II,U,UU,VOCALIC R,VOCALIC L"⟩,
    ⟨0xB0F, "ORIYA LETTER ", "E,AI"⟩,
    ⟨0xB13, "ORIYA LETTER ", "O,AU,KA,KHA"⟩,
    ⟨0xB17, "ORIYA LETTER ", "GA,GHA,NGA,CA,CHA,JA,JHA,NYA,TTA,TTHA,DDA,DDHA,NNA,TA,THA,DA,DHA,NA"⟩,
    ⟨0xB2A, "ORIYA LETTER ", "PA,PHA,BA,BHA,MA,YA,RA"⟩,
    ⟨0xB32, "ORIYA LETTER ", "LA,LLA"⟩,
    ⟨0xB35, "ORIYA LETTER ", "VA,SHA,SSA,SA,HA"⟩,
    ⟨0xB3C, "ORIYA SIGN ", "NUKTA,AVAGRAHA"⟩,
    ⟨0xB3E, "ORIYA VOWEL SIGN ", "AA,I,II,U,UU,VOCALIC R,VOCALIC RR"⟩,
    ⟨0xB47, "ORIYA VOWEL SIGN ", "E,AI"⟩,
    ⟨0xB4B, "ORIYA ", "VOWEL SIGN O,VOWEL SIGN AU,SIGN VIRAMA"⟩,
    ⟨0xB55, "ORIYA ", "SIGN OVERLINE,AI LENGTH MARK,AU LENGTH MARK"⟩,
    ⟨0xB5C, "ORIYA LETTER ", "RRA,RHA"⟩,
    ⟨0xB5F, "ORIYA LETTER ", "YYA,VOCALIC RR,VOCALIC LL"⟩,
    ⟨0xB62, "ORIYA VOWEL SIGN VOCALIC ", "L,LL"⟩,
    ⟨0xB66, "ORIYA DIGIT ", "ZERO,ONE,TWO,THREE,FOUR,FIVE,SIX,SEVEN,EIGHT,NINE"⟩,
    ⟨0xB70, "ORIYA ", "ISSHAR,LETTER WA,FRACTION ONE QUARTER"⟩,
    ⟨0xB73, "ORIYA FRACTION ", "ONE HALF,THREE QUARTERS,ONE SIXTEENTH,ONE EIGHTH,THREE SIXTEENTHS"⟩,
    ⟨0xB82, "TAMIL SIGN ", "ANUSVARA,VISARGA"⟩,
    ⟨0xB85, "TAMIL LETTER ", "A,AA,I,II,U,UU"⟩,
    ⟨0xB8E, "TAMIL LETTER ", "E,EE,AI"⟩,
    ⟨0xB92, "TAMIL LETTER ", "O,OO,AU,KA"⟩,
    ⟨0xB99, "TAMIL LETTER ", "NGA,CA"⟩,
    ⟨0xB9C, "", "TAMIL LETTER JA"⟩,
    ⟨0xB9E, "TAMIL LETTER ", "NYA,TTA"⟩,
    ⟨0xBA3, "TAMIL LETTER ", "NNA,TA"⟩,
    ⟨0xBA8, "TAMIL LETTER ", "NA,NNNA,PA"⟩,
    ⟨0xBAE, "TAMIL LETTER ", "MA,YA,RA,RRA,LA,LLA,LLLA,VA,SHA,SSA,SA,HA"⟩,
    ⟨0xBBE, "TAMIL VOWEL SIGN ", "AA,I,II,U,UU"⟩,
    ⟨0xBC6, "TAMIL VOWEL SIGN ", "E,EE,AI"⟩,
    ⟨0xBCA, "TAMIL ", "VOWEL SIGN O,VOWEL SIGN OO,VOWEL SIGN AU,SIGN VIRAMA"⟩,
    ⟨0xBD0, "", "TAMIL OM"⟩,
    ⟨0xBD7, "", "TAMIL AU LENGTH MARK"⟩,
    ⟨0xBE6, "TAMIL DIGIT ", "ZERO,ONE,TWO,THREE,FOUR,FIVE,SIX,SEVEN,EIGHT,NINE"⟩,
    ⟨0xBF0, "TAMIL ", "NUMBER TEN,NUMBER ONE HUNDRED,NUMBER ONE THOUSAND,DAY SIGN,MONTH SIGN"⟩,
    ⟨0xBF5, "TAMIL ", "YEAR SIGN,DEBIT SIGN,CREDIT SIGN,AS ABOVE SIGN,RUPEE SIGN,NUMBER SIGN"⟩,
    ⟨0xC00, "", "TELUGU SIGN COMBINING CANDRABINDU ABOVE"⟩,
    ⟨0xC01, "TELUGU SIGN ", "CANDRABINDU,ANUSVARA,VISARGA,COMBINING ANUSVARA ABOVE"⟩,
    ⟨0xC05, "TELUGU LETTER ", "A,AA,I,II,U,UU,VOCALIC R,VOCALIC L"⟩,
    ⟨0xC0E, "TELUGU LETTER ", "E,EE,AI"⟩,
    ⟨0xC12, "TELUGU LETTER ", "O,OO,AU,KA,KHA,GA"⟩,
    ⟨0xC18, "TELUGU LETTER ", "GHA,NGA,CA,CHA,JA,JHA,NYA,TTA,TTHA,DDA,DDHA,NNA,TA,THA,DA,DHA,NA"⟩,
    ⟨0xC2A, "TELUGU LETTER ", "PA,PHA,BA,BHA,MA,YA,RA,RRA,LA,LLA,LLLA,VA,SHA,SSA,SA,HA"⟩,
    ⟨0xC3C, "TELUGU SIGN ", "NUKTA,AVAGRAHA"⟩,
    ⟨0xC3E, "TELUGU VOWEL SIGN ", "AA,I,II,U,UU,VOCALIC R,VOCALIC RR"⟩,
    ⟨0xC46, "TELUGU VOWEL SIGN ", "E,EE,AI"⟩,
    ⟨0xC4A, "TELUGU ", "VOWEL SIGN O,VOWEL SIGN OO,VOWEL SIGN AU,SIGN VIRAMA"⟩,
    ⟨0xC55, "TELUGU ", "LENGTH MARK,AI LENGTH MARK"⟩,
    ⟨0xC58, "TELUGU LETTER ", "TSA,DZA,RRRA"⟩,
    ⟨0xC5D, "", "TELUGU LETTER NAKAARA POLLU"⟩,
    ⟨0xC60, "TELUGU LETTER VOCALIC ", "RR,LL"⟩,
    ⟨0xC62, "TELUGU VOWEL SIGN VOCALIC ", "L,LL"⟩,
    ⟨0xC66, "TELUGU DIGIT ", "ZERO,ONE,TWO,THREE,FOUR,FIVE,SIX,SEVEN,EIGHT,NINE"⟩,
    ⟨0xC77, "", "TELUGU SIGN SIDDHAM"⟩,
    ⟨0xC78, "TELUGU FRACTION DIGIT ", "ZERO FOR ODD POWERS OF FOUR,ONE FOR ODD POWERS OF FOUR"⟩,
    ⟨0xC7A, "TELUGU FRACTION DIGIT ", "TWO FOR ODD POWERS OF FOUR,THREE FOR ODD POWERS OF FOUR"⟩,
    ⟨0xC7C, "TELUGU FRACTION DIGIT ", "ONE FOR EVEN POWERS OF FOUR,TWO FOR EVEN POWERS OF FOUR"⟩,
    ⟨0xC7E, "TELUGU ", "FRACTION DIGIT THREE FOR EVEN POWERS OF FOUR,SIGN TUUMU"⟩,
    ⟨0xC80, "KANNADA SIGN ", "SPACING CANDRABINDU,CANDRABINDU,ANUSVARA,VISARGA,SIDDHAM"⟩,
    ⟨0xC85, "KANNADA LETTER ", "A,AA,I,II,U,UU,VOCALIC R,VOCALIC L"⟩,
    ⟨0xC8E, "KANNADA LETTER ", "E,EE,AI"⟩,
    ⟨0xC92, "KANNADA LETTER ", "O,OO,AU,KA,KHA,GA"⟩,
    ⟨0xC98, "KANNADA LETTER ", "GHA,NGA,CA,CHA,JA,JHA,NYA,TTA,TTHA,DDA,DDHA,NNA,TA,THA,DA,DHA,NA"⟩,
    ⟨0xCAA, "KANNADA LETTER ", "PA,PHA,BA,BHA,MA,YA,RA,RRA,LA,LLA"⟩,
    ⟨0xCB5, "KANNADA LETTER ", "VA,SHA,SSA,SA,HA"⟩,
    ⟨0xCBC, "KANNADA SIGN ", "NUKTA,AVAGRAHA"⟩,
    ⟨0xCBE, "KANNADA VOWEL SIGN ", "AA,I,II,U,UU,VOCALIC R,VOCALIC RR"⟩,
    ⟨0xCC6, "KANNADA VOWEL SIGN ", "E,EE,AI"⟩,
    ⟨0xCCA, "KANNADA ", "VOWEL SIGN O,VOWEL SIGN OO,VOWEL SIGN AU,SIGN VIRAMA"⟩,
    ⟨0xCD5, "KANNADA ", "LENGTH MARK,AI LENGTH MARK"⟩,
    ⟨0xCDD, "KANNADA LETTER ", "NAKAARA POLLU,FA"⟩,
    ⟨0xCE0, "KANNADA LETTER VOCALIC ", "RR,LL"⟩,
    ⟨0xCE2, "KANNADA VOWEL SIGN VOCALIC ", "L,LL"⟩,
    ⟨0xCE6, "KANNADA DIGIT ", "ZERO,ONE,TWO,THREE,FOUR,FIVE,SIX,SEVEN,EIGHT,NINE"⟩,
    ⟨0xCF1, "KANNADA SIGN ", "JIHVAMULIYA,UPADHMANIYA"⟩,
    ⟨0xD00, "MALAYALAM SIGN ", "COMBINING ANUSVARA ABOVE,CANDRABINDU,ANUSVARA,VISARGA"⟩,
    ⟨0xD04, "MALAYALAM LETTER ", "VEDIC ANUSVARA,A,AA,I,II,U,UU,VOCALIC R,VOCALIC L"⟩,
    ⟨0xD0E, "MALAYALAM LETTER ", "E,EE,AI"⟩,
    ⟨0xD12, "MALAYALAM LETTER ", "O,OO,AU,KA,KHA,GA,GHA,NGA"⟩,
    ⟨0xD1A, "MALAYALAM LETTER ", "CA,CHA,JA,JHA,NYA,TTA,TTHA,DDA,DDHA,NNA,TA,THA,DA,DHA,NA,NNNA"⟩,
    ⟨0xD2A, "MALAYALAM LETTER ", "PA,PHA,BA,BHA,MA,YA,RA,RRA,LA,LLA,LLLA,VA,SHA,SSA,SA,HA,TTTA"⟩,
    ⟨0xD3B, "MALAYALAM SIGN ", "VERTICAL BAR VIRAMA,CIRCULAR VIRAMA,AVAGRAHA"⟩,
    ⟨0xD3E, "MALAYALAM VOWEL SIGN ", "AA,I,II,U,UU,VOCALIC R,VOCALIC RR"⟩,
    ⟨0xD46, "MALAYALAM VOWEL SIGN ", "E,EE,AI"⟩,
    ⟨0xD4A, "MALAYALAM VOWEL SIGN ", "O,OO,AU"⟩,
    ⟨0xD4D, "MALAYALAM ", "SIGN VIRAMA,LETTER DOT REPH,SIGN PARA"⟩,
    ⟨0xD54, "MALAYALAM ", "LETTER CHILLU M,LETTER CHILLU Y,LETTER CHILLU LLL,AU LENGTH MARK"⟩,
    ⟨0xD58, "MALAYALAM FRACTION ", "ONE ONE-HUNDRED-AND-SIXTIETH,ONE FORTIETH,THREE EIGHTIETHS"⟩,
    ⟨0xD5B, "MALAYALAM FRACTION ", "ONE TWENTIETH,ONE TENTH,THREE TWENTIETHS,ONE FIFTH"⟩,
    ⟨0xD5F, "MALAYALAM LETTER ", "ARCHAIC II,VOCALIC RR,VOCALIC LL"⟩,
    ⟨0xD62, "MALAYALAM VOWEL SIGN VOCALIC ", "L,LL"⟩,
    ⟨0xD66, "MALAYALAM DIGIT ", "ZERO,ONE,TWO,THREE,FOUR,FIVE,SIX,SEVEN,EIGHT,NINE"⟩,
    ⟨0xD70, "MALAYALAM NUMBER ", "TEN,ONE HUNDRED,ONE THOUSAND"⟩,
    ⟨0xD73, "MALAYALAM FRACTION ", "ONE QUARTER,ONE HALF,THREE QUARTERS,ONE SIXTEENTH,ONE EIGHTH"⟩,
    ⟨0xD78, "MALAYALAM ", "FRACTION THREE SIXTEENTHS,DATE MARK"⟩,
    ⟨0xD7A, "MALAYALAM LETTER CHILLU ", "NN,N,RR,L,LL,K"⟩,
    ⟨0xD81, "SINHALA SIGN ", "CANDRABINDU,ANUSVARAYA,VISARGAYA"⟩,
    ⟨0xD85, "SINHALA LETTER ", "AYANNA,AAYANNA"⟩,
    ⟨0xD87, "SINHALA LETTER ", "AEYANNA,AEEYANNA,IYANNA,IIYANNA,UYANNA,UUYANNA,IRUYANNA,IRUUYANNA"⟩,
    ⟨0xD8F, "SINHALA LETTER ", "ILUYANNA,ILUUYANNA,EYANNA,EEYANNA,AIYANNA,OYANNA,OOYANNA,AUYANNA"⟩,
    ⟨0xD9A, "", "SINHALA LETTER ALPAPRAANA KAYANNA"⟩,
    ⟨0xD9B, "SINHALA LETTER ", "MAHAAPRAANA KAYANNA,ALPAPRAANA GAYANNA,MAHAAPRAANA GAYANNA"⟩,
    ⟨0xD9E, "SINHALA LETTER ", "KANTAJA NAASIKYAYA,SANYAKA GAYANNA,ALPAPRAANA CAYANNA"⟩,
    ⟨0xDA1, "SINHALA LETTER ", "MAHAAPRAANA CAYANNA,ALPAPRAANA JAYANNA,MAHAAPRAANA JAYANNA"⟩,
    ⟨0xDA4, "SINHALA LETTER TAALUJA ", "NAASIKYAYA,SANYOOGA NAAKSIKYAYA"⟩,
    ⟨0xDA6, "SINHALA LETTER ", "SANYAKA JAYANNA,ALPAPRAANA TTAYANNA,MAHAAPRAANA TTAYANNA"⟩,
    ⟨0xDA9, "SINHALA LETTER ", "ALPAPRAANA DDAYANNA,MAHAAPRAANA DDAYANNA,MUURDHAJA NAYANNA"⟩,
    ⟨0xDAC, "SINHALA LETTER ", "SANYAKA DDAYANNA,ALPAPRAANA TAYANNA,MAHAAPRAANA TAYANNA"⟩,
    ⟨0xDAF, "SINHALA LETTER ", "ALPAPRAANA DAYANNA,MAHAAPRAANA DAYANNA,DANTAJA NAYANNA"⟩,
    ⟨0xDB3, "", "SINHALA LETTER SANYAKA DAYANNA"⟩,
    ⟨0xDB4, "SINHALA LETTER ", "ALPAPRAANA PAYANNA,MAHAAPRAANA PAYANNA,ALPAPRAANA BAYANNA"⟩,
    ⟨0xDB7, "SINHALA LETTER ", "MAHAAPRAANA BAYANNA,MAYANNA,AMBA BAYANNA,YAYANNA,RAYANNA"⟩,
    ⟨0xDBD, "", "SINHALA LETTER DANTAJA LAYANNA"⟩,
    ⟨0xDC0, "SINHALA LETTER ", "VAYANNA,TAALUJA SAYANNA,MUURDHAJA SAYANNA"⟩,
    ⟨0xDC3, "SINHALA LETTER ", "DANTAJA SAYANNA,HAYANNA,MUURDHAJA LAYANNA,FAYANNA"⟩,
    ⟨0xDCA, "", "SINHALA SIGN AL-LAKUNA"⟩,
    ⟨0xDCF, "SINHALA VOWEL SIGN ", "AELA-PILLA,KETTI AEDA-PILLA"⟩,
    ⟨0xDD1, "SINHALA VOWEL SIGN ", "DIGA AEDA-PILLA,KETTI IS-PILLA,DIGA IS-PILLA,KETTI PAA-PILLA"⟩,
    ⟨0xDD6, "", "SINHALA VOWEL SIGN DIGA PAA-PILLA"⟩,
    ⟨0xDD8, "SINHALA VOWEL SIGN ", "GAETTA-PILLA,KOMBUVA,DIGA KOMBUVA,KOMBU DEKA"⟩,
    ⟨0xDDC, "SINHALA VOWEL SIGN KOMBUVA HAA ", "AELA-PILLA,DIGA AELA-PILLA,GAYANUKITTA"⟩,
    ⟨0xDDF, "", "SINHALA VOWEL SIGN GAYANUKITTA"⟩,
    ⟨0xDE6, "SINHALA LITH DIGIT ", "ZERO,ONE,TWO,THREE,FOUR,FIVE,SIX,SEVEN,EIGHT,NINE"⟩,
    ⟨0xDF2, "SINHALA VOWEL SIGN DIGA ", "GAETTA-PILLA,GAYANUKITTA"⟩,
    ⟨0xDF4, "", "SINHALA PUNCTUATION KUNDDALIYA"⟩,
    ⟨0xE01, "THAI CHARACTER ", "KO KAI,KHO KHAI,KHO KHUAT,KHO KHWAI,KHO KHON,KHO RAKHANG"⟩,
    ⟨0xE07, "THAI CHARACTER ", "NGO NGU,CHO CHAN,CHO CHING,CHO CHANG,SO SO,CHO CHOE,YO YING"⟩,
    ⟨0xE0E, "THAI CHARACTER ", "DO CHADA,TO PATAK,THO THAN,THO NANGMONTHO,THO PHUTHAO,NO NEN"⟩,
    ⟨0xE14, "THAI CHARACTER ", "DO DEK,TO TAO,THO THUNG,THO THAHAN,THO THONG,NO NU,BO BAIMAI"⟩,
    ⟨0xE1B, "THAI CHARACTER ", "PO PLA,PHO PHUNG,FO FA,PHO PHAN,FO FAN,PHO SAMPHAO,MO MA"⟩,
    ⟨0xE22, "THAI CHARACTER ", "YO YAK,RO RUA,RU,LO LING,LU,WO WAEN,SO SALA,SO RUSI,SO SUA,HO HIP"⟩,
    ⟨0xE2C, "THAI CHARACTER ", "LO CHULA,O ANG,HO NOKHUK,PAIYANNOI,SARA A,MAI HAN-AKAT,SARA AA"⟩,
    ⟨0xE33, "THAI CHARACTER ", "SARA AM,SARA I,SARA II,SARA UE,SARA UEE,SARA U,SARA UU,PHINTHU"⟩,
    ⟨0xE3F, "", "THAI CURRENCY SYMBOL BAHT"⟩,
    ⟨0xE40, "THAI CHARACTER SARA ", "E,AE,O,AI MAIMUAN,AI MAIMALAI"⟩,
    ⟨0xE45, "THAI CHARACTER ", "LAKKHANGYAO,MAIYAMOK,MAITAIKHU,MAI EK,MAI THO"⟩,
    ⟨0xE4A, "THAI CHARACTER ", "MAI TRI,MAI CHATTAWA,THANTHAKHAT,NIKHAHIT,YAMAKKAN,FONGMAN"⟩,
    ⟨0xE50, "THAI DIGIT ", "ZERO,ONE,TWO,THREE,FOUR,FIVE,SIX,SEVEN,EIGHT,NINE"⟩,
    ⟨0xE5A, "THAI CHARACTER ", "ANGKHANKHU,KHOMUT"⟩,
    ⟨0xE81, "LAO LETTER ", "KO,KHO SUNG"⟩,
    ⟨0xE84, "", "LAO LETTER KHO TAM"⟩,
    ⟨0xE86, "LAO LETTER ", "PALI GHA,NGO,CO,PALI CHA,SO TAM"⟩,
    ⟨0xE8C, "LAO LETTER ", "PALI JHA,NYO,PALI NYA,PALI TTA"⟩,
    ⟨0xE90, "LAO LETTER ", "PALI TTHA,PALI DDA,PALI DDHA,PALI NNA,DO,TO,THO SUNG,THO TAM,PALI DHA"⟩,
    ⟨0xE99, "LAO LETTER ", "NO,BO,PO,PHO SUNG,FO TAM,PHO TAM,FO SUNG,PALI BHA,MO,YO,LO LING"⟩,
    ⟨0xEA5, "", "LAO LETTER LO LOOT"⟩,
    ⟨0xEA7, "LAO LETTER ", "WO,SANSKRIT SHA,SANSKRIT SSA,SO SUNG,HO SUNG,PALI LLA,O,HO TAM"⟩,
    ⟨0xEAF, "", "LAO ELLIPSIS"⟩,
    ⟨0xEB0, "LAO VOWEL SIGN ", "A,MAI KAN,AA,AM,I,II,Y,YY,U,UU"⟩,
    ⟨0xEBA, "LAO ", "SIGN PALI VIRAMA,VOWEL SIGN MAI KON,SEMIVOWEL SIGN LO,SEMIVOWEL SIGN NYO"⟩,
    ⟨0xEC0, "LAO VOWEL SIGN ", "E,EI,O,AY,AI"⟩,
    ⟨0xEC6, "", "LAO KO LA"⟩,
    ⟨0xEC8, "LAO TONE MAI ", "EK,THO,TI,CATAWA"⟩,
    ⟨0xECC, "LAO ", "CANCELLATION MARK,NIGGAHITA"⟩,
    ⟨0xED0, "LAO DIGIT ", "ZERO,ONE,TWO,THREE,FOUR,FIVE,SIX,SEVEN,EIGHT,NINE"⟩,
    ⟨0xEDC, "LAO ", "HO NO,HO MO,LETTER KHMU GO,LETTER KHMU NYO"⟩,
    ⟨0xF00, "", "TIBETAN SYLLABLE OM"⟩,
    ⟨0xF01, "TIBETAN MARK GTER YIG MGO ", "TRUNCATED A,-UM RNAM BCAD MA,-UM GTER TSHEG MA"⟩,
    ⟨0xF04, "TIBETAN MARK ", "INITIAL YIG MGO MDUN MA,CLOSING YIG MGO SGAB MA"⟩,
    ⟨0xF06, "TIBETAN MARK ", "CARET YIG MGO PHUR SHAD MA,YIG MGO TSHEG SHAD MA"⟩,
    ⟨0xF08, "TIBETAN MARK ", "SBRUL SHAD,BSKUR YIG MGO,BKA- SHOG YIG MGO,INTERSYLLABIC TSHEG"⟩,
    ⟨0xF0C, "TIBETAN MARK ", "DELIMITER TSHEG BSTAR,SHAD,NYIS SHAD,TSHEG SHAD,NYIS TSHEG SHAD"⟩,
    ⟨0xF11, "TIBETAN MARK ", "RIN CHEN SPUNGS SHAD,RGYA GRAM SHAD,CARET -DZUD RTAGS ME LONG CAN"⟩,
    ⟨0xF14, "TIBETAN ", "MARK GTER TSHEG,LOGOTYPE SIGN CHAD RTAGS,LOGOTYPE SIGN LHAG RTAGS"⟩,
    ⟨0xF17, "TIBETAN ASTROLOGICAL SIGN ", "SGRA GCAN -CHAR RTAGS,-KHYUD PA,SDONG TSHUGS"⟩,
    ⟨0xF1A, "TIBETAN SIGN RDEL DKAR ", "GCIG,GNYIS,GSUM"⟩,
    ⟨0xF1D, "TIBETAN SIGN RDEL ", "NAG GCIG,NAG GNYIS,DKAR RDEL NAG"⟩,
    ⟨0xF20, "TIBETAN DIGIT ", "ZERO,ONE,TWO,THREE,FOUR,FIVE,SIX,SEVEN,EIGHT,NINE"⟩,
    ⟨0xF2A, "TIBETAN DIGIT HALF ", "ONE,TWO,THREE,FOUR,FIVE,SIX,SEVEN,EIGHT,NINE,ZERO"⟩,
    ⟨0xF34, "TIBETAN MARK ", "BSDUS RTAGS,NGAS BZUNG NYI ZLA,CARET -DZUD RTAGS BZHI MIG CAN"⟩,
    ⟨0xF37, "TIBETAN MARK ", "NGAS BZUNG SGOR RTAGS,CHE MGO,TSA -PHRU"⟩,
    ⟨0xF3A, "TIBETAN MARK ", "GUG RTAGS GYON,GUG RTAGS GYAS,ANG KHANG GYON,ANG KHANG GYAS"⟩,
    ⟨0xF3E, "TIBETAN SIGN ", "YAR TSHES,MAR TSHES"⟩,
    ⟨0xF40, "TIBETAN LETTER ", "KA,KHA,GA,GHA,NGA,CA,CHA,JA"⟩,
    ⟨0xF49, "TIBETAN LETTER ", "NYA,TTA,TTHA"⟩,
    ⟨0xF4C, "TIBETAN LETTER ", "DDA,DDHA,NNA,TA,THA,DA,DHA,NA,PA,PHA,BA,BHA,MA,TSA,TSHA,DZA,DZHA"⟩,
    ⟨0xF5D, "TIBETAN LETTER ", "WA,ZHA,ZA,-A,YA,RA,LA,SHA,SSA,SA,HA,A,KSSA,FIXED-FORM RA,KKA,RRA"⟩,
    ⟨0xF71, "TIBETAN VOWEL SIGN ", "AA,I,II,U,UU,VOCALIC R,VOCALIC RR,VOCALIC L,VOCALIC LL,E,EE,O"⟩,
    ⟨0xF7D, "TIBETAN ", "VOWEL SIGN OO,SIGN RJES SU NGA RO,SIGN RNAM BCAD,VOWEL SIGN REVERSED I"⟩,
    ⟨0xF81, "TIBETAN ", "VOWEL SIGN REVERSED II,SIGN NYI ZLA NAA DA,SIGN SNA LDAN"⟩,
    ⟨0xF84, "TIBETAN ", "MARK HALANTA,MARK PALUTA,SIGN LCI RTAGS,SIGN YANG RTAGS,SIGN LCE TSA CAN"⟩,
    ⟨0xF89, "TIBETAN SIGN ", "MCHU CAN,GRU CAN RGYINGS,GRU MED RGYINGS,INVERTED MCHU CAN"⟩,
    ⟨0xF8D, "TIBETAN SUBJOINED SIGN ", "LCE TSA CAN,MCHU CAN,INVERTED MCHU CAN"⟩,
    ⟨0xF90, "TIBETAN SUBJOINED LETTER ", "KA,KHA,GA,GHA,NGA,CA,CHA,JA"⟩,
    ⟨0xF99, "TIBETAN SUBJOINED LETTER ", "NYA,TTA,TTHA,DDA,DDHA,NNA,TA,THA,DA,DHA,NA,PA,PHA,BA"⟩,
    ⟨0xFA7, "TIBETAN SUBJOINED LETTER ", "BHA,MA,TSA,TSHA,DZA,DZHA,WA,ZHA,ZA,-A,YA,RA,LA,SHA,SSA"⟩,
    ⟨0xFB6, "TIBETAN SUBJOINED LETTER ", "SA,HA,A,KSSA,FIXED-FORM WA,FIXED-FORM YA,FIXED-FORM RA"⟩,
    ⟨0xFBE, "TIBETAN KU RU ", "KHA,KHA BZHI MIG CAN"⟩,
    ⟨0xFC0, "TIBETAN CANTILLATION SIGN ", "HEAVY BEAT,LIGHT BEAT,CANG TE-U,SBUB -CHAL"⟩,
    ⟨0xFC4, "TIBETAN SYMBOL ", "DRIL BU,RDO RJE,PADMA GDAN,RDO RJE RGYA GRAM,PHUR PA,NOR BU"⟩,
    ⟨0xFCA, "TIBETAN SYMBOL NOR BU ", "NYIS -KHYIL,GSUM -KHYIL,BZHI -KHYIL"⟩,
    ⟨0xFCE, "TIBETAN SIGN RDEL NAG ", "RDEL DKAR,GSUM"⟩,
    ⟨0xFD0, "TIBETAN MARK ", "BSKA- SHOG GI MGO RGYAN,MNYAM YIG GI MGO RGYAN"⟩,
    ⟨0xFD2, "TIBETAN MARK ", "NYIS TSHEG,INITIAL BRDA RNYING YIG MGO MDUN MA"⟩,
    ⟨0xFD4, "", "TIBETAN MARK CLOSING BRDA RNYING YIG MGO SGAB MA"⟩,
    ⟨0xFD5, "", "RIGHT-FACING SVASTI SIGN,LEFT-FACING SVASTI SIGN"⟩,
    ⟨0xFD7, "", "RIGHT-FACING SVASTI SIGN WITH DOTS,LEFT-FACING SVASTI SIGN WITH DOTS"⟩,
    ⟨0xFD9, "TIBETAN MARK ", "LEADING MCHAN RTAGS,TRAILING MCHAN RTAGS"⟩,
    ⟨0x1000, "MYANMAR LETTER ", "KA,KHA,GA,GHA,NGA,CA,CHA"⟩,
    ⟨0x1007, "MYANMAR LETTER ", "JA,JHA,NYA,NNYA,TTA,TTHA,DDA,DDHA,NNA,TA,THA,DA,DHA,NA,PA,PHA"⟩,
    ⟨0x1017, "MYANMAR LETTER ", "BA,BHA,MA,YA,RA,LA,WA,SA,HA,LLA,A,SHAN A,I,II,U,UU,E,MON E,O,AU"⟩,
    ⟨0x102B, "MYANMAR VOWEL SIGN ", "TALL AA,AA,I,II,U,UU,E,AI,MON II,MON O,E ABOVE"⟩,
    ⟨0x1036, "MYANMAR SIGN ", "ANUSVARA,DOT BELOW,VISARGA,VIRAMA,ASAT"⟩,
    ⟨0x103B, "MYANMAR CONSONANT SIGN MEDIAL ", "YA,RA,WA,HA"⟩,
    ⟨0x103F, "", "MYANMAR LETTER GREAT SA"⟩,
    ⟨0x1040, "MYANMAR DIGIT ", "ZERO,ONE,TWO,THREE,FOUR,FIVE,SIX,SEVEN,EIGHT,NINE"⟩,
    ⟨0x104A, "MYANMAR SIGN ", "LITTLE SECTION,SECTION"⟩,
    ⟨0x104C, "MYANMAR SYMBOL ", "LOCATIVE,COMPLETED,AFOREMENTIONED,GENITIVE"⟩,
    ⟨0x1050, "MYANMAR LETTER ", "SHA,SSA,VOCALIC R,VOCALIC RR,VOCALIC L,VOCALIC LL"⟩,
    ⟨0x1056, "MYANMAR VOWEL SIGN VOCALIC ", "R,RR,L,LL"⟩,
    ⟨0x105A, "MYANMAR LETTER MON ", "NGA,JHA,BBA,BBE"⟩,
    ⟨0x105E, "MYANMAR CONSONANT SIGN MON MEDIAL ", "NA,MA,LA"⟩,
    ⟨0x1061, "MYANMAR ", "LETTER SGAW KAREN SHA,VOWEL SIGN SGAW KAREN EU"⟩,
    ⟨0x1063, "MYANMAR TONE MARK SGAW KAREN ", "HATHI,KE PHO"⟩,
    ⟨0x1065, "MYANMAR LETTER WESTERN PWO KAREN ", "THA,PWA"⟩,
    ⟨0x1067, "MYANMAR VOWEL SIGN WESTERN PWO KAREN ", "EU,UE"⟩,
    ⟨0x1069, "MYANMAR SIGN WESTERN PWO KAREN TONE-", "1,2,3,4,5"⟩,
    ⟨0x106E, "MYANMAR LETTER EASTERN PWO KAREN ", "NNA,YWA,GHWA"⟩,
    ⟨0x1071, "MYANMAR VOWEL SIGN ", "GEBA KAREN I,KAYAH OE,KAYAH U,KAYAH EE"⟩,
    ⟨0x1075, "MYANMAR LETTER SHAN ", "KA,KHA,GA,CA,ZA,NYA,DA,NA,PHA,FA,BA,THA,HA"⟩,
    ⟨0x1082, "", "MYANMAR CONSONANT SIGN SHAN MEDIAL WA"⟩,
    ⟨0x1083, "MYANMAR VOWEL SIGN SHAN ", "AA,E,E ABOVE,FINAL Y"⟩,
    ⟨0x1087, "MYANMAR SIGN SHAN TONE-", "2,3,5,6"⟩,
    ⟨0x108B, "MYANMAR SIGN SHAN COUNCIL ", "TONE-2,TONE-3,EMPHATIC TONE"⟩,
    ⟨0x108E, "MYANMAR ", "LETTER RUMAI PALAUNG FA,SIGN RUMAI PALAUNG TONE-5"⟩,
    ⟨0x1090, "MYANMAR SHAN DIGIT ", "ZERO,ONE,TWO,THREE,FOUR,FIVE,SIX,SEVEN,EIGHT,NINE"⟩,
    ⟨0x109A, "MYANMAR SIGN KHAMTI TONE-", "1,3"⟩,
    ⟨0x109C, "MYANMAR VOWEL SIGN AITON ", "A,AI"⟩,
    ⟨0x109E, "MYANMAR SYMBOL SHAN ", "ONE,EXCLAMATION"⟩,
    ⟨0x10A0, "GEORGIAN CAPITAL LETTER ", "AN,BAN,GAN,DON,EN,VIN,ZEN,TAN,IN,KAN,LAS,MAN"⟩,
    ⟨0x10AC, "GEORGIAN CAPITAL LETTER ", "NAR,ON,PAR,ZHAR,RAE,SAN,TAR,UN,PHAR,KHAR,GHAN,QAR,SHIN"⟩,
    ⟨0x10B9, "GEORGIAN CAPITAL LETTER ", "CHIN,CAN,JIL,CIL,CHAR,XAN,JHAN,HAE,HE,HIE,WE,HAR,HOE"⟩,
    ⟨0x10C7, "", "GEORGIAN CAPITAL LETTER YN"⟩,
    ⟨0x10CD, "", "GEORGIAN CAPITAL LETTER AEN"⟩,
    ⟨0x10D0, "GEORGIAN LETTER ", "AN,BAN,GAN,DON,EN,VIN,ZEN,TAN,IN,KAN,LAS,MAN,NAR,ON,PAR"⟩,
    ⟨0x10DF, "GEORGIAN LETTER ", "ZHAR,RAE,SAN,TAR,UN,PHAR,KHAR,GHAN,QAR,SHIN,CHIN,CAN,JIL,CIL"⟩,
    ⟨0x10ED, "GEORGIAN LETTER ", "CHAR,XAN,JHAN,HAE,HE,HIE,WE,HAR,HOE,FI,YN,ELIFI,TURNED GAN,AIN"⟩,
    ⟨0x10FB, "", "GEORGIAN PARAGRAPH SEPARATOR,MODIFIER LETTER GEORGIAN NAR"⟩,
    ⟨0x10FD, "GEORGIAN LETTER ", "AEN,HARD SIGN,LABIAL SIGN"⟩,
    ⟨0x1100, "HANGUL CHOSEONG ", "KIYEOK,SSANGKIYEOK,NIEUN,TIKEUT,SSANGTIKEUT"⟩,
    ⟨0x1105, "HANGUL CHOSEONG ", "RIEUL,MIEUM,PIEUP,SSANGPIEUP,SIOS,SSANGSIOS,IEUNG,CIEUC"⟩,
    ⟨0x110D, "HANGUL CHOSEONG ", "SSANGCIEUC,CHIEUCH,KHIEUKH,THIEUTH,PHIEUPH,HIEUH,NIEUN-KIYEOK"⟩,
    ⟨0x1114, "HANGUL CHOSEONG ", "SSANGNIEUN,NIEUN-TIKEUT,NIEUN-PIEUP,TIKEUT-KIYEOK,RIEUL-NIEUN"⟩,
    ⟨0x1119, "HANGUL CHOSEONG ", "SSANGRIEUL,RIEUL-HIEUH,KAPYEOUNRIEUL,MIEUM-PIEUP,KAPYEOUNMIEUM"⟩,
    ⟨0x111E, "HANGUL CHOSEONG PIEUP-", "KIYEOK,NIEUN,TIKEUT,SIOS,SIOS-KIYEOK,SIOS-TIKEUT"⟩,
    ⟨0x1124, "HANGUL CHOSEONG PIEUP-", "SIOS-PIEUP,SSANGSIOS,SIOS-CIEUC,CIEUC,CHIEUCH,THIEUTH"⟩,
    ⟨0x112A, "HANGUL CHOSEONG ", "PIEUP-PHIEUPH,KAPYEOUNPIEUP,KAPYEOUNSSANGPIEUP"⟩,
    ⟨0x112D, "HANGUL CHOSEONG SIOS-", "KIYEOK,NIEUN,TIKEUT,RIEUL,MIEUM,PIEUP,PIEUP-KIYEOK"⟩,
    ⟨0x1134, "HANGUL CHOSEONG SIOS-", "SSANGSIOS,IEUNG,CIEUC,CHIEUCH,KHIEUKH,THIEUTH,PHIEUPH"⟩,
    ⟨0x113B, "HANGUL CHOSEONG ", "SIOS-HIEUH,CHITUEUMSIOS,CHITUEUMSSANGSIOS,CEONGCHIEUMSIOS"⟩,
    ⟨0x113F, "HANGUL CHOSEONG ", "CEONGCHIEUMSSANGSIOS,PANSIOS,IEUNG-KIYEOK,IEUNG-TIKEUT"⟩,
    ⟨0x1143, "HANGUL CHOSEONG ", "IEUNG-MIEUM,IEUNG-PIEUP,IEUNG-SIOS,IEUNG-PANSIOS,SSANGIEUNG"⟩,
    ⟨0x1148, "HANGUL CHOSEONG IEUNG-", "CIEUC,CHIEUCH,THIEUTH,PHIEUPH"⟩,
    ⟨0x114C, "HANGUL CHOSEONG ", "YESIEUNG,CIEUC-IEUNG,CHITUEUMCIEUC,CHITUEUMSSANGCIEUC"⟩,
    ⟨0x1150, "HANGUL CHOSEONG ", "CEONGCHIEUMCIEUC,CEONGCHIEUMSSANGCIEUC,CHIEUCH-KHIEUKH"⟩,
    ⟨0x1153, "HANGUL CHOSEONG ", "CHIEUCH-HIEUH,CHITUEUMCHIEUCH,CEONGCHIEUMCHIEUCH,PHIEUPH-PIEUP"⟩,
    ⟨0x1157, "HANGUL CHOSEONG ", "KAPYEOUNPHIEUPH,SSANGHIEUH,YEORINHIEUH,KIYEOK-TIKEUT"⟩,
    ⟨0x115B, "HANGUL CHOSEONG ", "NIEUN-SIOS,NIEUN-CIEUC,NIEUN-HIEUH,TIKEUT-RIEUL,FILLER"⟩,
    ⟨0x1160, "HANGUL JUNGSEONG ", "FILLER,A,AE,YA,YAE,EO,E,YEO,YE,O,WA,WAE,OE,YO,U"⟩,
    ⟨0x116F, "HANGUL JUNGSEONG ", "WEO,WE,WI,YU,EU,YI,I,A-O,A-U,YA-O,YA-YO,EO-O,EO-U,EO-EU,YEO-O"⟩,
    ⟨0x117E, "HANGUL JUNGSEONG ", "YEO-U,O-EO,O-E,O-YE,O-O,O-U,YO-YA,YO-YAE,YO-YEO,YO-O,YO-I,U-A"⟩,
    ⟨0x118A, "HANGUL JUNGSEONG ", "U-AE,U-EO-EU,U-YE,U-U,YU-A,YU-EO,YU-E,YU-YEO,YU-YE,YU-U,YU-I"⟩,
    ⟨0x1195, "HANGUL JUNGSEONG ", "EU-U,EU-EU,YI-U,I-A,I-YA,I-O,I-U,I-EU,I-ARAEA,ARAEA,ARAEA-EO"⟩,
    ⟨0x11A0, "HANGUL JUNGSEONG ", "ARAEA-U,ARAEA-I,SSANGARAEA,A-EU,YA-U,YEO-YA,O-YA,O-YAE"⟩,
    ⟨0x11A8, "HANGUL JONGSEONG ", "KIYEOK,SSANGKIYEOK"⟩,
    ⟨0x11AA, "HANGUL JONGSEONG ", "KIYEOK-SIOS,NIEUN,NIEUN-CIEUC,NIEUN-HIEUH,TIKEUT,RIEUL"⟩,
    ⟨0x11B0, "HANGUL JONGSEONG RIEUL-", "KIYEOK,MIEUM,PIEUP,SIOS,THIEUTH,PHIEUPH,HIEUH"⟩,
    ⟨0x11B7, "HANGUL JONGSEONG ", "MIEUM,PIEUP,PIEUP-SIOS,SIOS,SSANGSIOS,IEUNG,CIEUC,CHIEUCH"⟩,
    ⟨0x11BF, "HANGUL JONGSEONG ", "KHIEUKH,THIEUTH,PHIEUPH,HIEUH,KIYEOK-RIEUL,KIYEOK-SIOS-KIYEOK"⟩,
    ⟨0x11C5, "HANGUL JONGSEONG NIEUN-", "KIYEOK,TIKEUT,SIOS,PANSIOS,THIEUTH"⟩,
    ⟨0x11CA, "HANGUL JONGSEONG ", "TIKEUT-KIYEOK,TIKEUT-RIEUL,RIEUL-KIYEOK-SIOS"⟩,
    ⟨0x11CD, "HANGUL JONGSEONG ", "RIEUL-NIEUN,RIEUL-TIKEUT,RIEUL-TIKEUT-HIEUH,SSANGRIEUL"⟩,
    ⟨0x11D1, "HANGUL JONGSEONG RIEUL-", "MIEUM-KIYEOK,MIEUM-SIOS,PIEUP-SIOS,PIEUP-HIEUH"⟩,
    ⟨0x11D5, "HANGUL JONGSEONG RIEUL-", "KAPYEOUNPIEUP,SSANGSIOS,PANSIOS,KHIEUKH,YEORINHIEUH"⟩,
    ⟨0x11DA, "HANGUL JONGSEONG MIEUM-", "KIYEOK,RIEUL,PIEUP,SIOS,SSANGSIOS,PANSIOS,CHIEUCH,HIEUH"⟩,
    ⟨0x11E2, "HANGUL JONGSEONG ", "KAPYEOUNMIEUM,PIEUP-RIEUL,PIEUP-PHIEUPH"⟩,
    ⟨0x11E5, "HANGUL JONGSEONG ", "PIEUP-HIEUH,KAPYEOUNPIEUP,SIOS-KIYEOK,SIOS-TIKEUT,SIOS-RIEUL"⟩,
    ⟨0x11EA, "HANGUL JONGSEONG ", "SIOS-PIEUP,PANSIOS,IEUNG-KIYEOK,IEUNG-SSANGKIYEOK,SSANGIEUNG"⟩,
    ⟨0x11EF, "HANGUL JONGSEONG ", "IEUNG-KHIEUKH,YESIEUNG,YESIEUNG-SIOS,YESIEUNG-PANSIOS"⟩,
    ⟨0x11F3, "HANGUL JONGSEONG ", "PHIEUPH-PIEUP,KAPYEOUNPHIEUPH,HIEUH-NIEUN,HIEUH-RIEUL"⟩,
    ⟨0x11F7, "HANGUL JONGSEONG ", "HIEUH-MIEUM,HIEUH-PIEUP,YEORINHIEUH,KIYEOK-NIEUN,KIYEOK-PIEUP"⟩,
    ⟨0x11FC, "HANGUL JONGSEONG ", "KIYEOK-CHIEUCH,KIYEOK-KHIEUKH,KIYEOK-HIEUH,SSANGNIEUN"⟩
  ]

end MemoryAtlas.Text.Name
