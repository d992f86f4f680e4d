import MemoryAtlas.Text.Characters

/-!
Names of compatibility ideographs, presentation forms and full widths, from U+AC00 to U+FFFF.
-/

namespace MemoryAtlas.Text.Name

def presentation : List Block :=
  [
    ⟨0xD7B0, "HANGUL JUNGSEONG ", "O-YEO,O-O-I,YO-A,YO-AE,YO-EO,U-YEO,U-I-I,YU-AE,YU-O"⟩,
    ⟨0xD7B9, "HANGUL JUNGSEONG EU-", "A,EO,E,O"⟩,
    ⟨0xD7BD, "HANGUL JUNGSEONG ", "I-YA-O,I-YAE,I-YEO,I-YE,I-O-I,I-YO,I-YU,I-I,ARAEA-A,ARAEA-E"⟩,
    ⟨0xD7CB, "HANGUL JONGSEONG ", "NIEUN-RIEUL,NIEUN-CHIEUCH,SSANGTIKEUT,SSANGTIKEUT-PIEUP"⟩,
    ⟨0xD7CF, "HANGUL JONGSEONG TIKEUT-", "PIEUP,SIOS,SIOS-KIYEOK,CIEUC,CHIEUCH,THIEUTH"⟩,
    ⟨0xD7D5, "HANGUL JONGSEONG ", "RIEUL-SSANGKIYEOK,RIEUL-KIYEOK-HIEUH,SSANGRIEUL-KHIEUKH"⟩,
    ⟨0xD7D8, "HANGUL JONGSEONG RIEUL-", "MIEUM-HIEUH,PIEUP-TIKEUT,PIEUP-PHIEUPH,YESIEUNG"⟩,
    ⟨0xD7DC, "HANGUL JONGSEONG ", "RIEUL-YEORINHIEUH-HIEUH,KAPYEOUNRIEUL,MIEUM-NIEUN"⟩,
    ⟨0xD7DF, "HANGUL JONGSEONG ", "MIEUM-SSANGNIEUN,SSANGMIEUM,MIEUM-PIEUP-SIOS,MIEUM-CIEUC"⟩,
    ⟨0xD7E3, "HANGUL JONGSEONG ", "PIEUP-TIKEUT,PIEUP-RIEUL-PHIEUPH,PIEUP-MIEUM,SSANGPIEUP"⟩,
    ⟨0xD7E7, "HANGUL JONGSEONG ", "PIEUP-SIOS-TIKEUT,PIEUP-CIEUC,PIEUP-CHIEUCH,SIOS-MIEUM"⟩,
    ⟨0xD7EB, "HANGUL JONGSEONG ", "SIOS-KAPYEOUNPIEUP,SSANGSIOS-KIYEOK,SSANGSIOS-TIKEUT"⟩,
    ⟨0xD7EE, "HANGUL JONGSEONG SIOS-", "PANSIOS,CIEUC,CHIEUCH,THIEUTH,HIEUH"⟩,
    ⟨0xD7F3, "HANGUL JONGSEONG PANSIOS-", "PIEUP,KAPYEOUNPIEUP"⟩,
    ⟨0xD7F5, "HANGUL JONGSEONG ", "YESIEUNG-MIEUM,YESIEUNG-HIEUH,CIEUC-PIEUP"⟩,
    ⟨0xD7F8, "HANGUL JONGSEONG ", "CIEUC-SSANGPIEUP,SSANGCIEUC,PHIEUPH-SIOS,PHIEUPH-THIEUTH"⟩,
    ⟨0xF900, "CJK COMPATIBILITY IDEOGRAPH-", "F900,F901,F902,F903,F904,F905"⟩,
    ⟨0xF906, "CJK COMPATIBILITY IDEOGRAPH-", "F906,F907,F908,F909,F90A,F90B,F90C,F90D,F90E,F90F"⟩,
    ⟨0xF910, "CJK COMPATIBILITY IDEOGRAPH-", "F910,F911,F912,F913,F914,F915,F916,F917,F918,F919"⟩,
    ⟨0xF91A, "CJK COMPATIBILITY IDEOGRAPH-", "F91A,F91B,F91C,F91D,F91E,F91F,F920,F921,F922,F923"⟩,
    ⟨0xF924, "CJK COMPATIBILITY IDEOGRAPH-", "F924,F925,F926,F927,F928,F929,F92A,F92B,F92C,F92D"⟩,
    ⟨0xF92E, "CJK COMPATIBILITY IDEOGRAPH-", "F92E,F92F,F930,F931,F932,F933,F934,F935,F936,F937"⟩,
    ⟨0xF938, "CJK COMPATIBILITY IDEOGRAPH-", "F938,F939,F93A,F93B,F93C,F93D,F93E,F93F,F940,F941"⟩,
    ⟨0xF942, "CJK COMPATIBILITY IDEOGRAPH-", "F942,F943,F944,F945,F946,F947,F948,F949,F94A,F94B"⟩,
    ⟨0xF94C, "CJK COMPATIBILITY IDEOGRAPH-", "F94C,F94D,F94E,F94F,F950,F951,F952,F953,F954,F955"⟩,
    ⟨0xF956, "CJK COMPATIBILITY IDEOGRAPH-", "F956,F957,F958,F959,F95A,F95B,F95C,F95D,F95E,F95F"⟩,
    ⟨0xF960, "CJK COMPATIBILITY IDEOGRAPH-", "F960,F961,F962,F963,F964,F965,F966,F967,F968,F969"⟩,
    ⟨0xF96A, "CJK COMPATIBILITY IDEOGRAPH-", "F96A,F96B,F96C,F96D,F96E,F96F,F970,F971,F972,F973"⟩,
    ⟨0xF974, "CJK COMPATIBILITY IDEOGRAPH-", "F974,F975,F976,F977,F978,F979,F97A,F97B,F97C,F97D"⟩,
    ⟨0xF97E, "CJK COMPATIBILITY IDEOGRAPH-", "F97E,F97F,F980,F981,F982,F983,F984,F985,F986,F987"⟩,
    ⟨0xF988, "CJK COMPATIBILITY IDEOGRAPH-", "F988,F989,F98A,F98B,F98C,F98D,F98E,F98F,F990,F991"⟩,
    ⟨0xF992, "CJK COMPATIBILITY IDEOGRAPH-", "F992,F993,F994,F995,F996,F997,F998,F999,F99A,F99B"⟩,
    ⟨0xF99C, "CJK COMPATIBILITY IDEOGRAPH-", "F99C,F99D,F99E,F99F,F9A0,F9A1,F9A2,F9A3,F9A4,F9A5"⟩,
    ⟨0xF9A6, "CJK COMPATIBILITY IDEOGRAPH-", "F9A6,F9A7,F9A8,F9A9,F9AA,F9AB,F9AC,F9AD,F9AE,F9AF"⟩,
    ⟨0xF9B0, "CJK COMPATIBILITY IDEOGRAPH-", "F9B0,F9B1,F9B2,F9B3,F9B4,F9B5,F9B6,F9B7,F9B8,F9B9"⟩,
    ⟨0xF9BA, "CJK COMPATIBILITY IDEOGRAPH-", "F9BA,F9BB,F9BC,F9BD,F9BE,F9BF,F9C0,F9C1,F9C2,F9C3"⟩,
    ⟨0xF9C4, "CJK COMPATIBILITY IDEOGRAPH-", "F9C4,F9C5,F9C6,F9C7,F9C8,F9C9,F9CA,F9CB,F9CC,F9CD"⟩,
    ⟨0xF9CE, "CJK COMPATIBILITY IDEOGRAPH-", "F9CE,F9CF,F9D0,F9D1,F9D2,F9D3,F9D4,F9D5,F9D6,F9D7"⟩,
    ⟨0xF9D8, "CJK COMPATIBILITY IDEOGRAPH-", "F9D8,F9D9,F9DA,F9DB,F9DC,F9DD,F9DE,F9DF,F9E0,F9E1"⟩,
    ⟨0xF9E2, "CJK COMPATIBILITY IDEOGRAPH-", "F9E2,F9E3,F9E4,F9E5,F9E6,F9E7,F9E8,F9E9,F9EA,F9EB"⟩,
    ⟨0xF9EC, "CJK COMPATIBILITY IDEOGRAPH-", "F9EC,F9ED,F9EE,F9EF,F9F0,F9F1,F9F2,F9F3,F9F4,F9F5"⟩,
    ⟨0xF9F6, "CJK COMPATIBILITY IDEOGRAPH-", "F9F6,F9F7,F9F8,F9F9,F9FA,F9FB,F9FC,F9FD,F9FE,F9FF"⟩,
    ⟨0xFA00, "CJK COMPATIBILITY IDEOGRAPH-", "FA00,FA01,FA02,FA03,FA04,FA05,FA06,FA07,FA08,FA09"⟩,
    ⟨0xFA0A, "CJK COMPATIBILITY IDEOGRAPH-", "FA0A,FA0B,FA0C,FA0D,FA0E,FA0F,FA10,FA11,FA12,FA13"⟩,
    ⟨0xFA14, "CJK COMPATIBILITY IDEOGRAPH-", "FA14,FA15,FA16,FA17,FA18,FA19,FA1A,FA1B,FA1C,FA1D"⟩,
    ⟨0xFA1E, "CJK COMPATIBILITY IDEOGRAPH-", "FA1E,FA1F,FA20,FA21,FA22,FA23,FA24,FA25,FA26,FA27"⟩,
    ⟨0xFA28, "CJK COMPATIBILITY IDEOGRAPH-", "FA28,FA29,FA2A,FA2B,FA2C,FA2D,FA2E,FA2F,FA30,FA31"⟩,
    ⟨0xFA32, "CJK COMPATIBILITY IDEOGRAPH-", "FA32,FA33,FA34,FA35,FA36,FA37,FA38,FA39,FA3A,FA3B"⟩,
    ⟨0xFA3C, "CJK COMPATIBILITY IDEOGRAPH-", "FA3C,FA3D,FA3E,FA3F,FA40,FA41,FA42,FA43,FA44,FA45"⟩,
    ⟨0xFA46, "CJK COMPATIBILITY IDEOGRAPH-", "FA46,FA47,FA48,FA49,FA4A,FA4B,FA4C,FA4D,FA4E,FA4F"⟩,
    ⟨0xFA50, "CJK COMPATIBILITY IDEOGRAPH-", "FA50,FA51,FA52,FA53,FA54,FA55,FA56,FA57,FA58,FA59"⟩,
    ⟨0xFA5A, "CJK COMPATIBILITY IDEOGRAPH-", "FA5A,FA5B,FA5C,FA5D,FA5E,FA5F,FA60,FA61,FA62,FA63"⟩,
    ⟨0xFA64, "CJK COMPATIBILITY IDEOGRAPH-", "FA64,FA65,FA66,FA67,FA68,FA69,FA6A,FA6B,FA6C,FA6D"⟩,
    ⟨0xFA70, "CJK COMPATIBILITY IDEOGRAPH-", "FA70,FA71,FA72,FA73,FA74,FA75"⟩,
    ⟨0xFA76, "CJK COMPATIBILITY IDEOGRAPH-", "FA76,FA77,FA78,FA79,FA7A,FA7B,FA7C,FA7D,FA7E,FA7F"⟩,
    ⟨0xFA80, "CJK COMPATIBILITY IDEOGRAPH-", "FA80,FA81,FA82,FA83,FA84,FA85,FA86,FA87,FA88,FA89"⟩,
    ⟨0xFA8A, "CJK COMPATIBILITY IDEOGRAPH-", "FA8A,FA8B,FA8C,FA8D,FA8E,FA8F,FA90,FA91,FA92,FA93"⟩,
    ⟨0xFA94, "CJK COMPATIBILITY IDEOGRAPH-", "FA94,FA95,FA96,FA97,FA98,FA99,FA9A,FA9B,FA9C,FA9D"⟩,
    ⟨0xFA9E, "CJK COMPATIBILITY IDEOGRAPH-", "FA9E,FA9F,FAA0,FAA1,FAA2,FAA3,FAA4,FAA5,FAA6,FAA7"⟩,
    ⟨0xFAA8, "CJK COMPATIBILITY IDEOGRAPH-", "FAA8,FAA9,FAAA,FAAB,FAAC,FAAD,FAAE,FAAF,FAB0,FAB1"⟩,
    ⟨0xFAB2, "CJK COMPATIBILITY IDEOGRAPH-", "FAB2,FAB3,FAB4,FAB5,FAB6,FAB7,FAB8,FAB9,FABA,FABB"⟩,
    ⟨0xFABC, "CJK COMPATIBILITY IDEOGRAPH-", "FABC,FABD,FABE,FABF,FAC0,FAC1,FAC2,FAC3,FAC4,FAC5"⟩,
    ⟨0xFAC6, "CJK COMPATIBILITY IDEOGRAPH-", "FAC6,FAC7,FAC8,FAC9,FACA,FACB,FACC,FACD,FACE,FACF"⟩,
    ⟨0xFAD0, "CJK COMPATIBILITY IDEOGRAPH-", "FAD0,FAD1,FAD2,FAD3,FAD4,FAD5,FAD6,FAD7,FAD8,FAD9"⟩,
    ⟨0xFB00, "LATIN SMALL LIGATURE ", "FF,FI,FL,FFI,FFL,LONG S T,ST"⟩,
    ⟨0xFB13, "ARMENIAN SMALL LIGATURE ", "MEN NOW,MEN ECH,MEN INI,VEW NOW,MEN XEH"⟩,
    ⟨0xFB1D, "HEBREW ", "LETTER YOD WITH HIRIQ,POINT JUDEO-SPANISH VARIKA"⟩,
    ⟨0xFB1F, "HEBREW ", "LIGATURE YIDDISH YOD YOD PATAH,LETTER ALTERNATIVE AYIN"⟩,
    ⟨0xFB21, "HEBREW LETTER WIDE ", "ALEF,DALET,HE,KAF,LAMED,FINAL MEM,RESH,TAV"⟩,
    ⟨0xFB29, "", "HEBREW LETTER ALTERNATIVE PLUS SIGN"⟩,
    ⟨0xFB2A, "HEBREW LETTER SHIN WITH ", "SHIN DOT,SIN DOT,DAGESH AND SHIN DOT,DAGESH AND SIN DOT"⟩,
    ⟨0xFB2E, "HEBREW LETTER ALEF WITH ", "PATAH,QAMATS,MAPIQ"⟩,
    ⟨0xFB31, "HEBREW LETTER ", "BET WITH DAGESH,GIMEL WITH DAGESH"⟩,
    ⟨0xFB33, "HEBREW LETTER ", "DALET WITH DAGESH,HE WITH MAPIQ,VAV WITH DAGESH,ZAYIN WITH DAGESH"⟩,
    ⟨0xFB38, "HEBREW LETTER ", "TET WITH DAGESH,YOD WITH DAGESH"⟩,
    ⟨0xFB3A, "HEBREW LETTER ", "FINAL KAF WITH DAGESH,KAF WITH DAGESH,LAMED WITH DAGESH"⟩,
    ⟨0xFB3E, "", "HEBREW LETTER MEM WITH DAGESH"⟩,
    ⟨0xFB40, "HEBREW LETTER ", "NUN WITH DAGESH,SAMEKH WITH DAGESH"⟩,
    ⟨0xFB43, "HEBREW LETTER ", "FINAL PE WITH DAGESH,PE WITH DAGESH"⟩,
    ⟨0xFB46, "HEBREW LETTER ", "TSADI WITH DAGESH,QOF WITH DAGESH,RESH WITH DAGESH"⟩,
    ⟨0xFB49, "HEBREW LETTER ", "SHIN WITH DAGESH,TAV WITH DAGESH,VAV WITH HOLAM,BET WITH RAFE"⟩,
    ⟨0xFB4D, "HEBREW ", "LETTER KAF WITH RAFE,LETTER PE WITH RAFE,LIGATURE ALEF LAMED"⟩,
    ⟨0xFB50, "ARABIC LETTER ALEF WASLA ", "ISOLATED FORM,FINAL FORM"⟩,
    ⟨0xFB52, "ARABIC LETTER BEEH ", "ISOLATED FORM,FINAL FORM,INITIAL FORM,MEDIAL FORM"⟩,
    ⟨0xFB56, "ARABIC LETTER PEH ", "ISOLATED FORM,FINAL FORM,INITIAL FORM,MEDIAL FORM"⟩,
    ⟨0xFB5A, "ARABIC LETTER BEHEH ", "ISOLATED FORM,FINAL FORM,INITIAL FORM,MEDIAL FORM"⟩,
    ⟨0xFB5E, "ARABIC LETTER TTEHEH ", "ISOLATED FORM,FINAL FORM,INITIAL FORM,MEDIAL FORM"⟩,
    ⟨0xFB62, "ARABIC LETTER TEHEH ", "ISOLATED FORM,FINAL FORM,INITIAL FORM,MEDIAL FORM"⟩,
    ⟨0xFB66, "ARABIC LETTER TTEH ", "ISOLATED FORM,FINAL FORM,INITIAL FORM,MEDIAL FORM"⟩,
    ⟨0xFB6A, "ARABIC LETTER VEH ", "ISOLATED FORM,FINAL FORM,INITIAL FORM,MEDIAL FORM"⟩,
    ⟨0xFB6E, "ARABIC LETTER PEHEH ", "ISOLATED FORM,FINAL FORM,INITIAL FORM,MEDIAL FORM"⟩,
    ⟨0xFB72, "ARABIC LETTER DYEH ", "ISOLATED FORM,FINAL FORM,INITIAL FORM,MEDIAL FORM"⟩,
    ⟨0xFB76, "ARABIC LETTER NYEH ", "ISOLATED FORM,FINAL FORM,INITIAL FORM,MEDIAL FORM"⟩,
    ⟨0xFB7A, "ARABIC LETTER TCHEH ", "ISOLATED FORM,FINAL FORM,INITIAL FORM,MEDIAL FORM"⟩,
    ⟨0xFB7E, "ARABIC LETTER TCHEHEH ", "ISOLATED FORM,FINAL FORM,INITIAL FORM,MEDIAL FORM"⟩,
    ⟨0xFB82, "ARABIC LETTER ", "DDAHAL ISOLATED FORM,DDAHAL FINAL FORM,DAHAL ISOLATED FORM"⟩,
    ⟨0xFB85, "ARABIC LETTER ", "DAHAL FINAL FORM,DUL ISOLATED FORM,DUL FINAL FORM"⟩,
    ⟨0xFB88, "ARABIC LETTER ", "DDAL ISOLATED FORM,DDAL FINAL FORM,JEH ISOLATED FORM"⟩,
    ⟨0xFB8B, "ARABIC LETTER ", "JEH FINAL FORM,RREH ISOLATED FORM,RREH FINAL FORM"⟩,
    ⟨0xFB8E, "ARABIC LETTER KEHEH ", "ISOLATED FORM,FINAL FORM,INITIAL FORM,MEDIAL FORM"⟩,
    ⟨0xFB92, "ARABIC LETTER GAF ", "ISOLATED FORM,FINAL FORM,INITIAL FORM,MEDIAL FORM"⟩,
    ⟨0xFB96, "ARABIC LETTER GUEH ", "ISOLATED FORM,FINAL FORM,INITIAL FORM,MEDIAL FORM"⟩,
    ⟨0xFB9A, "ARABIC LETTER NGOEH ", "ISOLATED FORM,FINAL FORM,INITIAL FORM,MEDIAL FORM"⟩,
    ⟨0xFB9E, "ARABIC LETTER NOON GHUNNA ", "ISOLATED FORM,FINAL FORM"⟩,
    ⟨0xFBA0, "ARABIC LETTER RNOON ", "ISOLATED FORM,FINAL FORM,INITIAL FORM,MEDIAL FORM"⟩,
    ⟨0xFBA4, "ARABIC LETTER HEH WITH YEH ABOVE ", "ISOLATED FORM,FINAL FORM"⟩,
    ⟨0xFBA6, "ARABIC LETTER HEH GOAL ", "ISOLATED FORM,FINAL FORM,INITIAL FORM,MEDIAL FORM"⟩,
    ⟨0xFBAA, "ARABIC LETTER HEH DOACHASHMEE ", "ISOLATED FORM,FINAL FORM,INITIAL FORM,MEDIAL FORM"⟩,
    ⟨0xFBAE, "ARABIC LETTER YEH BARREE ", "ISOLATED FORM,FINAL FORM"⟩,
    ⟨0xFBB0, "ARABIC LETTER YEH BARREE WITH HAMZA ABOVE ", "ISOLATED FORM,FINAL FORM"⟩,
    ⟨0xFBB2, "ARABIC SYMBOL ", "DOT ABOVE,DOT BELOW,TWO DOTS ABOVE,TWO DOTS BELOW"⟩,
    ⟨0xFBB6, "ARABIC SYMBOL THREE DOTS ", "ABOVE,BELOW"⟩,
    ⟨0xFBB8, "ARABIC SYMBOL THREE DOTS POINTING DOWNWARDS ", "ABOVE,BELOW"⟩,
    ⟨0xFBBA, "ARABIC SYMBOL ", "FOUR DOTS ABOVE,FOUR DOTS BELOW,DOUBLE VERTICAL BAR BELOW"⟩,
    ⟨0xFBBD, "ARABIC SYMBOL TWO DOTS VERTICALLY ", "ABOVE,BELOW"⟩,
    ⟨0xFBBF, "ARABIC SYMBOL ", "RING,SMALL TAH ABOVE,SMALL TAH BELOW,WASLA ABOVE"⟩,
    ⟨0xFBD3, "ARABIC LETTER NG ", "ISOLATED FORM,FINAL FORM,INITIAL FORM,MEDIAL FORM"⟩,
    ⟨0xFBD7, "ARABIC LETTER ", "U ISOLATED FORM,U FINAL FORM,OE ISOLATED FORM,OE FINAL FORM"⟩,
    ⟨0xFBDB, "ARABIC LETTER ", "YU ISOLATED FORM,YU FINAL FORM,U WITH HAMZA ABOVE ISOLATED FORM"⟩,
    ⟨0xFBDE, "ARABIC LETTER ", "VE ISOLATED FORM,VE FINAL FORM,KIRGHIZ OE ISOLATED FORM"⟩,
    ⟨0xFBE1, "ARABIC LETTER KIRGHIZ ", "OE FINAL FORM,YU ISOLATED FORM,YU FINAL FORM"⟩,
    ⟨0xFBE4, "ARABIC LETTER E ", "ISOLATED FORM,FINAL FORM,INITIAL FORM,MEDIAL FORM"⟩,
    ⟨0xFBE8, "ARABIC LETTER UIGHUR KAZAKH KIRGHIZ ALEF MAKSURA ", "INITIAL FORM,MEDIAL FORM"⟩,
    ⟨0xFBEA, "ARABIC LIGATURE YEH WITH HAMZA ABOVE WITH ALEF ", "ISOLATED FORM,FINAL FORM"⟩,
    ⟨0xFBEC, "ARABIC LIGATURE YEH WITH HAMZA ABOVE WITH AE ", "ISOLATED FORM,FINAL FORM"⟩,
    ⟨0xFBEE, "ARABIC LIGATURE YEH WITH HAMZA ABOVE WITH WAW ", "ISOLATED FORM,FINAL FORM"⟩,
    ⟨0xFBF0, "ARABIC LIGATURE YEH WITH HAMZA ABOVE WITH U ", "ISOLATED FORM,FINAL FORM"⟩,
    ⟨0xFBF2, "ARABIC LIGATURE YEH WITH HAMZA ABOVE WITH OE ", "ISOLATED FORM,FINAL FORM"⟩,
    ⟨0xFBF4, "ARABIC LIGATURE YEH WITH HAMZA ABOVE WITH YU ", "ISOLATED FORM,FINAL FORM"⟩,
    ⟨0xFBF6, "", "ARABIC LIGATURE YEH WITH HAMZA ABOVE WITH E ISOLATED FORM"⟩,
    ⟨0xFBF7, "ARABIC LIGATURE YEH WITH HAMZA ABOVE WITH E ", "FINAL FORM,INITIAL FORM"⟩,
    ⟨0xFBF9, "",
      "ARABIC LIGATURE UIGHUR KIRGHIZ YEH WITH HAMZA ABOVE WITH ALEF MAKSURA ISOLATED FORM"⟩,
    ⟨0xFBFA, "",
      "ARABIC LIGATURE UIGHUR KIRGHIZ YEH WITH HAMZA ABOVE WITH ALEF MAKSURA FINAL FORM"⟩,
    ⟨0xFBFB, "",
      "ARABIC LIGATURE UIGHUR KIRGHIZ YEH WITH HAMZA ABOVE WITH ALEF MAKSURA INITIAL FORM"⟩,
    ⟨0xFBFC, "ARABIC LETTER FARSI YEH ", "ISOLATED FORM,FINAL FORM,INITIAL FORM,MEDIAL FORM"⟩,
    ⟨0xFC00, "", "ARABIC LIGATURE YEH WITH HAMZA ABOVE WITH JEEM ISOLATED FORM"⟩,
    ⟨0xFC01, "ARABIC LIGATURE YEH WITH HAMZA ABOVE WITH ", "HAH ISOLATED FORM,MEEM ISOLATED FORM"⟩,
    ⟨0xFC03, "", "ARABIC LIGATURE YEH WITH HAMZA ABOVE WITH ALEF MAKSURA ISOLATED FORM"⟩,
    ⟨0xFC04, "", "ARABIC LIGATURE YEH WITH HAMZA ABOVE WITH YEH ISOLATED FORM"⟩,
    ⟨0xFC05, "ARABIC LIGATURE BEH WITH ", "JEEM ISOLATED FORM,HAH ISOLATED FORM"⟩,
    ⟨0xFC07, "ARABIC LIGATURE BEH WITH ", "KHAH ISOLATED FORM,MEEM ISOLATED FORM"⟩,
    ⟨0xFC09, "ARABIC LIGATURE BEH WITH ", "ALEF MAKSURA ISOLATED FORM,YEH ISOLATED FORM"⟩,
    ⟨0xFC0B, "ARABIC LIGATURE TEH WITH ", "JEEM ISOLATED FORM,HAH ISOLATED FORM"⟩,
    ⟨0xFC0D, "ARABIC LIGATURE TEH WITH ", "KHAH ISOLATED FORM,MEEM ISOLATED FORM"⟩,
    ⟨0xFC0F, "ARABIC LIGATURE TEH WITH ", "ALEF MAKSURA ISOLATED FORM,YEH ISOLATED FORM"⟩,
    ⟨0xFC11, "ARABIC LIGATURE THEH WITH ", "JEEM ISOLATED FORM,MEEM ISOLATED FORM"⟩,
    ⟨0xFC13, "ARABIC LIGATURE THEH WITH ", "ALEF MAKSURA ISOLATED FORM,YEH ISOLATED FORM"⟩,
    ⟨0xFC15, "ARABIC LIGATURE JEEM WITH ", "HAH ISOLATED FORM,MEEM ISOLATED FORM"⟩,
    ⟨0xFC17, "ARABIC LIGATURE HAH WITH ", "JEEM ISOLATED FORM,MEEM ISOLATED FORM"⟩,
    ⟨0xFC19, "ARABIC LIGATURE KHAH WITH ", "JEEM ISOLATED FORM,HAH ISOLATED FORM"⟩,
    ⟨0xFC1B, "ARABIC LIGATURE ", "KHAH WITH MEEM ISOLATED FORM,SEEN WITH JEEM ISOLATED FORM"⟩,
    ⟨0xFC1D, "ARABIC LIGATURE SEEN WITH ", "HAH ISOLATED FORM,KHAH ISOLATED FORM"⟩,
    ⟨0xFC1F, "ARABIC LIGATURE ", "SEEN WITH MEEM ISOLATED FORM,SAD WITH HAH ISOLATED FORM"⟩,
    ⟨0xFC21, "ARABIC LIGATURE ", "SAD WITH MEEM ISOLATED FORM,DAD WITH JEEM ISOLATED FORM"⟩,
    ⟨0xFC23, "ARABIC LIGATURE DAD WITH ", "HAH ISOLATED FORM,KHAH ISOLATED FORM"⟩,
    ⟨0xFC25, "ARABIC LIGATURE ", "DAD WITH MEEM ISOLATED FORM,TAH WITH HAH ISOLATED FORM"⟩,
    ⟨0xFC27, "ARABIC LIGATURE ", "TAH WITH MEEM ISOLATED FORM,ZAH WITH MEEM ISOLATED FORM"⟩,
    ⟨0xFC29, "ARABIC LIGATURE AIN WITH ", "JEEM ISOLATED FORM,MEEM ISOLATED FORM"⟩,
    ⟨0xFC2B, "ARABIC LIGATURE GHAIN WITH ", "JEEM ISOLATED FORM,MEEM ISOLATED FORM"⟩,
    ⟨0xFC2D, "ARABIC LIGATURE FEH WITH ", "JEEM ISOLATED FORM,HAH ISOLATED FORM"⟩,
    ⟨0xFC2F, "ARABIC LIGATURE FEH WITH ", "KHAH ISOLATED FORM,MEEM ISOLATED FORM"⟩,
    ⟨0xFC31, "ARABIC LIGATURE FEH WITH ", "ALEF MAKSURA ISOLATED FORM,YEH ISOLATED FORM"⟩,
    ⟨0xFC33, "ARABIC LIGATURE QAF WITH ", "HAH ISOLATED FORM,MEEM ISOLATED FORM"⟩,
    ⟨0xFC35, "ARABIC LIGATURE QAF WITH ", "ALEF MAKSURA ISOLATED FORM,YEH ISOLATED FORM"⟩,
    ⟨0xFC37, "ARABIC LIGATURE KAF WITH ", "ALEF ISOLATED FORM,JEEM ISOLATED FORM"⟩,
    ⟨0xFC39, "ARABIC LIGATURE KAF WITH ", "HAH ISOLATED FORM,KHAH ISOLATED FORM"⟩,
    ⟨0xFC3B, "ARABIC LIGATURE KAF WITH ", "LAM ISOLATED FORM,MEEM ISOLATED FORM"⟩,
    ⟨0xFC3D, "ARABIC LIGATURE KAF WITH ", "ALEF MAKSURA ISOLATED FORM,YEH ISOLATED FORM"⟩,
    ⟨0xFC3F, "ARABIC LIGATURE LAM WITH ", "JEEM ISOLATED FORM,HAH ISOLATED FORM"⟩,
    ⟨0xFC41, "ARABIC LIGATURE LAM WITH ", "KHAH ISOLATED FORM,MEEM ISOLATED FORM"⟩,
    ⟨0xFC43, "ARABIC LIGATURE LAM WITH ", "ALEF MAKSURA ISOLATED FORM,YEH ISOLATED FORM"⟩,
    ⟨0xFC45, "ARABIC LIGATURE MEEM WITH ", "JEEM ISOLATED FORM,HAH ISOLATED FORM"⟩,
    ⟨0xFC47, "ARABIC LIGATURE MEEM WITH ", "KHAH ISOLATED FORM,MEEM ISOLATED FORM"⟩,
    ⟨0xFC49, "ARABIC LIGATURE MEEM WITH ", "ALEF MAKSURA ISOLATED FORM,YEH ISOLATED FORM"⟩,
    ⟨0xFC4B, "ARABIC LIGATURE NOON WITH ", "JEEM ISOLATED FORM,HAH ISOLATED FORM"⟩,
    ⟨0xFC4D, "ARABIC LIGATURE NOON WITH ", "KHAH ISOLATED FORM,MEEM ISOLATED FORM"⟩,
    ⟨0xFC4F, "ARABIC LIGATURE NOON WITH ", "ALEF MAKSURA ISOLATED FORM,YEH ISOLATED FORM"⟩,
    ⟨0xFC51, "ARABIC LIGATURE HEH WITH ", "JEEM ISOLATED FORM,MEEM ISOLATED FORM"⟩,
    ⟨0xFC53, "ARABIC LIGATURE HEH WITH ", "ALEF MAKSURA ISOLATED FORM,YEH ISOLATED FORM"⟩,
    ⟨0xFC55, "ARABIC LIGATURE YEH WITH ", "JEEM ISOLATED FORM,HAH ISOLATED FORM"⟩,
    ⟨0xFC57, "ARABIC LIGATURE YEH WITH ", "KHAH ISOLATED FORM,MEEM ISOLATED FORM"⟩,
    ⟨0xFC59, "ARABIC LIGATURE YEH WITH ", "ALEF MAKSURA ISOLATED FORM,YEH ISOLATED FORM"⟩,
    ⟨0xFC5B, "", "ARABIC LIGATURE THAL WITH SUPERSCRIPT ALEF ISOLATED FORM"⟩,
    ⟨0xFC5C, "", "ARABIC LIGATURE REH WITH SUPERSCRIPT ALEF ISOLATED FORM"⟩,
    ⟨0xFC5D, "", "ARABIC LIGATURE ALEF MAKSURA WITH SUPERSCRIPT ALEF ISOLATED FORM"⟩,
    ⟨0xFC5E, "ARABIC LIGATURE SHADDA WITH ", "DAMMATAN ISOLATED FORM,KASRATAN ISOLATED FORM"⟩,
    ⟨0xFC60, "ARABIC LIGATURE SHADDA WITH ", "FATHA ISOLATED FORM,DAMMA ISOLATED FORM"⟩,
    ⟨0xFC62, "ARABIC LIGATURE SHADDA WITH ", "KASRA ISOLATED FORM,SUPERSCRIPT ALEF ISOLATED FORM"⟩,
    ⟨0xFC64, "ARABIC LIGATURE YEH WITH HAMZA ABOVE WITH ", "REH FINAL FORM,ZAIN FINAL FORM"⟩,
    ⟨0xFC66, "ARABIC LIGATURE YEH WITH HAMZA ABOVE WITH ", "MEEM FINAL FORM,NOON FINAL FORM"⟩,
    ⟨0xFC68, "", "ARABIC LIGATURE YEH WITH HAMZA ABOVE WITH ALEF MAKSURA FINAL FORM"⟩,
    ⟨0xFC69, "", "ARABIC LIGATURE YEH WITH HAMZA ABOVE WITH YEH FINAL FORM"⟩,
    ⟨0xFC6A, "ARABIC LIGATURE BEH WITH ", "REH FINAL FORM,ZAIN FINAL FORM,MEEM FINAL FORM"⟩,
    ⟨0xFC6D, "ARABIC LIGATURE BEH WITH ", "NOON FINAL FORM,ALEF MAKSURA FINAL FORM,YEH FINAL FORM"⟩,
    ⟨0xFC70, "ARABIC LIGATURE TEH WITH ", "REH FINAL FORM,ZAIN FINAL FORM,MEEM FINAL FORM"⟩,
    ⟨0xFC73, "ARABIC LIGATURE TEH WITH ", "NOON FINAL FORM,ALEF MAKSURA FINAL FORM,YEH FINAL FORM"⟩,
    ⟨0xFC76, "", "ARABIC LIGATURE THEH WITH REH FINAL FORM"⟩,
    ⟨0xFC77, "ARABIC LIGATURE THEH WITH ", "ZAIN FINAL FORM,MEEM FINAL FORM,NOON FINAL FORM"⟩,
    ⟨0xFC7A, "ARABIC LIGATURE THEH WITH ", "ALEF MAKSURA FINAL FORM,YEH FINAL FORM"⟩,
    ⟨0xFC7C, "ARABIC LIGATURE FEH WITH ", "ALEF MAKSURA FINAL FORM,YEH FINAL FORM"⟩,
    ⟨0xFC7E, "ARABIC LIGATURE QAF WITH ", "ALEF MAKSURA FINAL FORM,YEH FINAL FORM"⟩,
    ⟨0xFC80, "ARABIC LIGATURE KAF WITH ", "ALEF FINAL FORM,LAM FINAL FORM"⟩,
    ⟨0xFC82, "ARABIC LIGATURE KAF WITH ", "MEEM FINAL FORM,ALEF MAKSURA FINAL FORM,YEH FINAL FORM"⟩,
    ⟨0xFC85, "ARABIC LIGATURE LAM WITH ", "MEEM FINAL FORM,ALEF MAKSURA FINAL FORM,YEH FINAL FORM"⟩,
    ⟨0xFC88, "ARABIC LIGATURE MEEM WITH ", "ALEF FINAL FORM,MEEM FINAL FORM"⟩,
    ⟨0xFC8A, "", "ARABIC LIGATURE NOON WITH REH FINAL FORM"⟩,
    ⟨0xFC8B, "ARABIC LIGATURE NOON WITH ", "ZAIN FINAL FORM,MEEM FINAL FORM,NOON FINAL FORM"⟩,
    ⟨0xFC8E, "ARABIC LIGATURE NOON WITH ", "ALEF MAKSURA FINAL FORM,YEH FINAL FORM"⟩,
    ⟨0xFC90, "", "ARABIC LIGATURE ALEF MAKSURA WITH SUPERSCRIPT ALEF FINAL FORM"⟩,
    ⟨0xFC91, "ARABIC LIGATURE YEH WITH ", "REH FINAL FORM,ZAIN FINAL FORM,MEEM FINAL FORM"⟩,
    ⟨0xFC94, "ARABIC LIGATURE YEH WITH ", "NOON FINAL FORM,ALEF MAKSURA FINAL FORM"⟩,
    ⟨0xFC96, "ARABIC LIGATURE YEH WITH ", "YEH FINAL FORM,HAMZA ABOVE WITH JEEM INITIAL FORM"⟩,
    ⟨0xFC98, "ARABIC LIGATURE YEH WITH HAMZA ABOVE WITH ", "HAH INITIAL FORM,KHAH INITIAL FORM"⟩,
    ⟨0xFC9A, "ARABIC LIGATURE YEH WITH HAMZA ABOVE WITH ", "MEEM INITIAL FORM,HEH INITIAL FORM"⟩,
    ⟨0xFC9C, "ARABIC LIGATURE BEH WITH ", "JEEM INITIAL FORM,HAH INITIAL FORM"⟩,
    ⟨0xFC9E, "ARABIC LIGATURE BEH WITH ", "KHAH INITIAL FORM,MEEM INITIAL FORM,HEH INITIAL FORM"⟩,
    ⟨0xFCA1, "ARABIC LIGATURE TEH WITH ", "JEEM INITIAL FORM,HAH INITIAL FORM"⟩,
    ⟨0xFCA3, "ARABIC LIGATURE TEH WITH ", "KHAH INITIAL FORM,MEEM INITIAL FORM,HEH INITIAL FORM"⟩,
    ⟨0xFCA6, "ARABIC LIGATURE ", "THEH WITH MEEM INITIAL FORM,JEEM WITH HAH INITIAL FORM"⟩,
    ⟨0xFCA8, "ARABIC LIGATURE ", "JEEM WITH MEEM INITIAL FORM,HAH WITH JEEM INITIAL FORM"⟩,
    ⟨0xFCAA, "ARABIC LIGATURE ", "HAH WITH MEEM INITIAL FORM,KHAH WITH JEEM INITIAL FORM"⟩,
    ⟨0xFCAC, "ARABIC LIGATURE ", "KHAH WITH MEEM INITIAL FORM,SEEN WITH JEEM INITIAL FORM"⟩,
    ⟨0xFCAE, "ARABIC LIGATURE SEEN WITH ", "HAH INITIAL FORM,KHAH INITIAL FORM,MEEM INITIAL FORM"⟩,
    ⟨0xFCB1, "ARABIC LIGATURE SAD WITH ", "HAH INITIAL FORM,KHAH INITIAL FORM,MEEM INITIAL FORM"⟩,
    ⟨0xFCB4, "ARABIC LIGATURE DAD WITH ", "JEEM INITIAL FORM,HAH INITIAL FORM,KHAH INITIAL FORM"⟩,
    ⟨0xFCB7, "ARABIC LIGATURE ", "DAD WITH MEEM INITIAL FORM,TAH WITH HAH INITIAL FORM"⟩,
    ⟨0xFCB9, "ARABIC LIGATURE ", "ZAH WITH MEEM INITIAL FORM,AIN WITH JEEM INITIAL FORM"⟩,
    ⟨0xFCBB, "ARABIC LIGATURE ", "AIN WITH MEEM INITIAL FORM,GHAIN WITH JEEM INITIAL FORM"⟩,
    ⟨0xFCBD, "ARABIC LIGATURE ", "GHAIN WITH MEEM INITIAL FORM,FEH WITH JEEM INITIAL FORM"⟩,
    ⟨0xFCBF, "ARABIC LIGATURE FEH WITH ", "HAH INITIAL FORM,KHAH INITIAL FORM,MEEM INITIAL FORM"⟩,
    ⟨0xFCC2, "ARABIC LIGATURE QAF WITH ", "HAH INITIAL FORM,MEEM INITIAL FORM"⟩,
    ⟨0xFCC4, "ARABIC LIGATURE KAF WITH ", "JEEM INITIAL FORM,HAH INITIAL FORM"⟩,
    ⟨0xFCC6, "ARABIC LIGATURE KAF WITH ", "KHAH INITIAL FORM,LAM INITIAL FORM,MEEM INITIAL FORM"⟩,
    ⟨0xFCC9, "ARABIC LIGATURE LAM WITH ", "JEEM INITIAL FORM,HAH INITIAL FORM"⟩,
    ⟨0xFCCB, "ARABIC LIGATURE LAM WITH ", "KHAH INITIAL FORM,MEEM INITIAL FORM,HEH INITIAL FORM"⟩,
    ⟨0xFCCE, "ARABIC LIGATURE MEEM WITH ", "JEEM INITIAL FORM,HAH INITIAL FORM,KHAH INITIAL FORM"⟩,
    ⟨0xFCD1, "ARABIC LIGATURE ", "MEEM WITH MEEM INITIAL FORM,NOON WITH JEEM INITIAL FORM"⟩,
    ⟨0xFCD3, "ARABIC LIGATURE NOON WITH ", "HAH INITIAL FORM,KHAH INITIAL FORM,MEEM INITIAL FORM"⟩,
    ⟨0xFCD6, "ARABIC LIGATURE ", "NOON WITH HEH INITIAL FORM,HEH WITH JEEM INITIAL FORM"⟩,
    ⟨0xFCD8, "ARABIC LIGATURE HEH WITH ", "MEEM INITIAL FORM,SUPERSCRIPT ALEF INITIAL FORM"⟩,
    ⟨0xFCDA, "ARABIC LIGATURE YEH WITH ", "JEEM INITIAL FORM,HAH INITIAL FORM"⟩,
    ⟨0xFCDC, "ARABIC LIGATURE YEH WITH ", "KHAH INITIAL FORM,MEEM INITIAL FORM,HEH INITIAL FORM"⟩,
    ⟨0xFCDF, "ARABIC LIGATURE YEH WITH HAMZA ABOVE WITH ", "MEEM MEDIAL FORM,HEH MEDIAL FORM"⟩,
    ⟨0xFCE1, "ARABIC LIGATURE BEH WITH ", "MEEM MEDIAL FORM,HEH MEDIAL FORM"⟩,
    ⟨0xFCE3, "ARABIC LIGATURE TEH WITH ", "MEEM MEDIAL FORM,HEH MEDIAL FORM"⟩,
    ⟨0xFCE5, "ARABIC LIGATURE THEH WITH ", "MEEM MEDIAL FORM,HEH MEDIAL FORM"⟩,
    ⟨0xFCE7, "ARABIC LIGATURE SEEN WITH ", "MEEM MEDIAL FORM,HEH MEDIAL FORM"⟩,
    ⟨0xFCE9, "ARABIC LIGATURE SHEEN WITH ", "MEEM MEDIAL FORM,HEH MEDIAL FORM"⟩,
    ⟨0xFCEB, "ARABIC LIGATURE KAF WITH ", "LAM MEDIAL FORM,MEEM MEDIAL FORM"⟩,
    ⟨0xFCED, "ARABIC LIGATURE ", "LAM WITH MEEM MEDIAL FORM,NOON WITH MEEM MEDIAL FORM"⟩,
    ⟨0xFCEF, "ARABIC LIGATURE ", "NOON WITH HEH MEDIAL FORM,YEH WITH MEEM MEDIAL FORM"⟩,
    ⟨0xFCF1, "ARABIC LIGATURE ", "YEH WITH HEH MEDIAL FORM,SHADDA WITH FATHA MEDIAL FORM"⟩,
    ⟨0xFCF3, "ARABIC LIGATURE SHADDA WITH ", "DAMMA MEDIAL FORM,KASRA MEDIAL FORM"⟩,
    ⟨0xFCF5, "ARABIC LIGATURE TAH WITH ", "ALEF MAKSURA ISOLATED FORM,YEH ISOLATED FORM"⟩,
    ⟨0xFCF7, "ARABIC LIGATURE AIN WITH ", "ALEF MAKSURA ISOLATED FORM,YEH ISOLATED FORM"⟩,
    ⟨0xFCF9, "ARABIC LIGATURE GHAIN WITH ", "ALEF MAKSURA ISOLATED FORM,YEH ISOLATED FORM"⟩,
    ⟨0xFCFB, "ARABIC LIGATURE SEEN WITH ", "ALEF MAKSURA ISOLATED FORM,YEH ISOLATED FORM"⟩,
    ⟨0xFCFD, "ARABIC LIGATURE SHEEN WITH ", "ALEF MAKSURA ISOLATED FORM,YEH ISOLATED FORM"⟩,
    ⟨0xFCFF, "ARABIC LIGATURE HAH WITH ", "ALEF MAKSURA ISOLATED FORM,YEH ISOLATED FORM"⟩,
    ⟨0xFD01, "ARABIC LIGATURE JEEM WITH ", "ALEF MAKSURA ISOLATED FORM,YEH ISOLATED FORM"⟩,
    ⟨0xFD03, "ARABIC LIGATURE KHAH WITH ", "ALEF MAKSURA ISOLATED FORM,YEH ISOLATED FORM"⟩,
    ⟨0xFD05, "ARABIC LIGATURE SAD WITH ", "ALEF MAKSURA ISOLATED FORM,YEH ISOLATED FORM"⟩,
    ⟨0xFD07, "ARABIC LIGATURE DAD WITH ", "ALEF MAKSURA ISOLATED FORM,YEH ISOLATED FORM"⟩,
    ⟨0xFD09, "ARABIC LIGATURE SHEEN WITH ", "JEEM ISOLATED FORM,HAH ISOLATED FORM"⟩,
    ⟨0xFD0B, "ARABIC LIGATURE SHEEN WITH ", "KHAH ISOLATED FORM,MEEM ISOLATED FORM"⟩,
    ⟨0xFD0D, "ARABIC LIGATURE ", "SHEEN WITH REH ISOLATED FORM,SEEN WITH REH ISOLATED FORM"⟩,
    ⟨0xFD0F, "ARABIC LIGATURE ", "SAD WITH REH ISOLATED FORM,DAD WITH REH ISOLATED FORM"⟩,
    ⟨0xFD11, "ARABIC LIGATURE TAH WITH ", "ALEF MAKSURA FINAL FORM,YEH FINAL FORM"⟩,
    ⟨0xFD13, "ARABIC LIGATURE AIN WITH ", "ALEF MAKSURA FINAL FORM,YEH FINAL FORM"⟩,
    ⟨0xFD15, "ARABIC LIGATURE GHAIN WITH ", "ALEF MAKSURA FINAL FORM,YEH FINAL FORM"⟩,
    ⟨0xFD17, "ARABIC LIGATURE SEEN WITH ", "ALEF MAKSURA FINAL FORM,YEH FINAL FORM"⟩,
    ⟨0xFD19, "ARABIC LIGATURE SHEEN WITH ", "ALEF MAKSURA FINAL FORM,YEH FINAL FORM"⟩,
    ⟨0xFD1B, "ARABIC LIGATURE HAH WITH ", "ALEF MAKSURA FINAL FORM,YEH FINAL FORM"⟩,
    ⟨0xFD1D, "ARABIC LIGATURE JEEM WITH ", "ALEF MAKSURA FINAL FORM,YEH FINAL FORM"⟩,
    ⟨0xFD1F, "ARABIC LIGATURE KHAH WITH ", "ALEF MAKSURA FINAL FORM,YEH FINAL FORM"⟩,
    ⟨0xFD21, "ARABIC LIGATURE SAD WITH ", "ALEF MAKSURA FINAL FORM,YEH FINAL FORM"⟩,
    ⟨0xFD23, "ARABIC LIGATURE DAD WITH ", "ALEF MAKSURA FINAL FORM,YEH FINAL FORM"⟩,
    ⟨0xFD25, "ARABIC LIGATURE SHEEN WITH ", "JEEM FINAL FORM,HAH FINAL FORM"⟩,
    ⟨0xFD27, "ARABIC LIGATURE SHEEN WITH ", "KHAH FINAL FORM,MEEM FINAL FORM,REH FINAL FORM"⟩,
    ⟨0xFD2A, "", "ARABIC LIGATURE SEEN WITH REH FINAL FORM"⟩,
    ⟨0xFD2B, "ARABIC LIGATURE ", "SAD WITH REH FINAL FORM,DAD WITH REH FINAL FORM"⟩,
    ⟨0xFD2D, "ARABIC LIGATURE SHEEN WITH ", "JEEM INITIAL FORM,HAH INITIAL FORM,KHAH INITIAL FORM"⟩,
    ⟨0xFD30, "ARABIC LIGATURE ", "SHEEN WITH MEEM INITIAL FORM,SEEN WITH HEH INITIAL FORM"⟩,
    ⟨0xFD32, "ARABIC LIGATURE ", "SHEEN WITH HEH INITIAL FORM,TAH WITH MEEM INITIAL FORM"⟩,
    ⟨0xFD34, "ARABIC LIGATURE SEEN WITH ", "JEEM MEDIAL FORM,HAH MEDIAL FORM,KHAH MEDIAL FORM"⟩,
    ⟨0xFD37, "ARABIC LIGATURE SHEEN WITH ", "JEEM MEDIAL FORM,HAH MEDIAL FORM,KHAH MEDIAL FORM"⟩,
    ⟨0xFD3A, "ARABIC LIGATURE ", "TAH WITH MEEM MEDIAL FORM,ZAH WITH MEEM MEDIAL FORM"⟩,
    ⟨0xFD3C, "ARABIC LIGATURE ALEF WITH FATHATAN ", "FINAL FORM,ISOLATED FORM"⟩,
    ⟨0xFD3E, "ORNATE ", "LEFT PARENTHESIS,RIGHT PARENTHESIS"⟩,
    ⟨0xFD40, "", "ARABIC LIGATURE RAHIMAHU ALLAAH"⟩,
    ⟨0xFD41, "ARABIC LIGATURE RADI ALLAAHU ", "ANH,ANHAA,ANHUM,ANHUMAA,ANHUNNA"⟩,
    ⟨0xFD46, "ARABIC LIGATURE ", "SALLALLAAHU ALAYHI WA-AALIH,ALAYHI AS-SALAAM,ALAYHIM AS-SALAAM"⟩,
    ⟨0xFD49, "ARABIC LIGATURE ", "ALAYHIMAA AS-SALAAM,ALAYHI AS-SALAATU WAS-SALAAM"⟩,
    ⟨0xFD4B, "ARABIC LIGATURE ", "QUDDISA SIRRAH,SALLALLAHU ALAYHI WAAALIHEE WA-SALLAM"⟩,
    ⟨0xFD4D, "ARABIC LIGATURE ", "ALAYHAA AS-SALAAM,TABAARAKA WA-TAAALAA"⟩,
    ⟨0xFD4F, "ARABIC LIGATURE ", "RAHIMAHUM ALLAAH,TEH WITH JEEM WITH MEEM INITIAL FORM"⟩,
    ⟨0xFD51, "ARABIC LIGATURE TEH WITH HAH WITH JEEM ", "FINAL FORM,INITIAL FORM"⟩,
    ⟨0xFD53, "ARABIC LIGATURE TEH WITH ", "HAH WITH MEEM INITIAL FORM,KHAH WITH MEEM INITIAL FORM"⟩,
    ⟨0xFD55, "", "ARABIC LIGATURE TEH WITH MEEM WITH JEEM INITIAL FORM"⟩,
    ⟨0xFD56, "ARABIC LIGATURE TEH WITH MEEM WITH ", "HAH INITIAL FORM,KHAH INITIAL FORM"⟩,
    ⟨0xFD58, "ARABIC LIGATURE JEEM WITH MEEM WITH HAH ", "FINAL FORM,INITIAL FORM"⟩,
    ⟨0xFD5A, "ARABIC LIGATURE HAH WITH MEEM WITH ", "YEH FINAL FORM,ALEF MAKSURA FINAL FORM"⟩,
    ⟨0xFD5C, "", "ARABIC LIGATURE SEEN WITH HAH WITH JEEM INITIAL FORM"⟩,
    ⟨0xFD5D, "ARABIC LIGATURE SEEN WITH JEEM WITH ", "HAH INITIAL FORM,ALEF MAKSURA FINAL FORM"⟩,
    ⟨0xFD5F, "ARABIC LIGATURE SEEN WITH MEEM WITH HAH ", "FINAL FORM,INITIAL FORM"⟩,
    ⟨0xFD61, "", "ARABIC LIGATURE SEEN WITH MEEM WITH JEEM INITIAL FORM"⟩,
    ⟨0xFD62, "ARABIC LIGATURE SEEN WITH MEEM WITH MEEM ", "FINAL FORM,INITIAL FORM"⟩,
    ⟨0xFD64, "ARABIC LIGATURE SAD WITH HAH WITH HAH ", "FINAL FORM,INITIAL FORM"⟩,
    ⟨0xFD66, "", "ARABIC LIGATURE SAD WITH MEEM WITH MEEM FINAL FORM"⟩,
    ⟨0xFD67, "ARABIC LIGATURE SHEEN WITH HAH WITH MEEM ", "FINAL FORM,INITIAL FORM"⟩,
    ⟨0xFD69, "", "ARABIC LIGATURE SHEEN WITH JEEM WITH YEH FINAL FORM"⟩,
    ⟨0xFD6A, "ARABIC LIGATURE SHEEN WITH MEEM WITH KHAH ", "FINAL FORM,INITIAL FORM"⟩,
    ⟨0xFD6C, "ARABIC LIGATURE SHEEN WITH MEEM WITH MEEM ", "FINAL FORM,INITIAL FORM"⟩,
    ⟨0xFD6E, "", "ARABIC LIGATURE DAD WITH HAH WITH ALEF MAKSURA FINAL FORM"⟩,
    ⟨0xFD6F, "ARABIC LIGATURE DAD WITH KHAH WITH MEEM ", "FINAL FORM,INITIAL FORM"⟩,
    ⟨0xFD71, "ARABIC LIGATURE TAH WITH MEEM WITH HAH ", "FINAL FORM,INITIAL FORM"⟩,
    ⟨0xFD73, "ARABIC LIGATURE TAH WITH MEEM WITH ", "MEEM INITIAL FORM,YEH FINAL FORM"⟩,
    ⟨0xFD75, "ARABIC LIGATURE AIN WITH ", "JEEM WITH MEEM FINAL FORM,MEEM WITH MEEM FINAL FORM"⟩,
    ⟨0xFD77, "ARABIC LIGATURE AIN WITH MEEM WITH ", "MEEM INITIAL FORM,ALEF MAKSURA FINAL FORM"⟩,
    ⟨0xFD79, "", "ARABIC LIGATURE GHAIN WITH MEEM WITH MEEM FINAL FORM"⟩,
    ⟨0xFD7A, "ARABIC LIGATURE GHAIN WITH MEEM WITH ", "YEH FINAL FORM,ALEF MAKSURA FINAL FORM"⟩,
    ⟨0xFD7C, "ARABIC LIGATURE FEH WITH KHAH WITH MEEM ", "FINAL FORM,INITIAL FORM"⟩,
    ⟨0xFD7E, "ARABIC LIGATURE QAF WITH MEEM WITH ", "HAH FINAL FORM,MEEM FINAL FORM"⟩,
    ⟨0xFD80, "", "ARABIC LIGATURE LAM WITH HAH WITH MEEM FINAL FORM"⟩,
    ⟨0xFD81, "ARABIC LIGATURE LAM WITH HAH WITH ", "YEH FINAL FORM,ALEF MAKSURA FINAL FORM"⟩,
    ⟨0xFD83, "ARABIC LIGATURE LAM WITH JEEM WITH JEEM ", "INITIAL FORM,FINAL FORM"⟩,
    ⟨0xFD85, "ARABIC LIGATURE LAM WITH KHAH WITH MEEM ", "FINAL FORM,INITIAL FORM"⟩,
    ⟨0xFD87, "ARABIC LIGATURE LAM WITH MEEM WITH HAH ", "FINAL FORM,INITIAL FORM"⟩,
    ⟨0xFD89, "", "ARABIC LIGATURE MEEM WITH HAH WITH JEEM INITIAL FORM"⟩,
    ⟨0xFD8A, "ARABIC LIGATURE MEEM WITH HAH WITH ", "MEEM INITIAL FORM,YEH FINAL FORM"⟩,
    ⟨0xFD8C, "ARABIC LIGATURE MEEM WITH JEEM WITH ", "HAH INITIAL FORM,MEEM INITIAL FORM"⟩,
    ⟨0xFD8E, "ARABIC LIGATURE MEEM WITH KHAH WITH ", "JEEM INITIAL FORM,MEEM INITIAL FORM"⟩,
    ⟨0xFD92, "", "ARABIC LIGATURE MEEM WITH JEEM WITH KHAH INITIAL FORM"⟩,
    ⟨0xFD93, "ARABIC LIGATURE HEH WITH MEEM WITH ", "JEEM INITIAL FORM,MEEM INITIAL FORM"⟩,
    ⟨0xFD95, "ARABIC LIGATURE NOON WITH HAH WITH ", "MEEM INITIAL FORM,ALEF MAKSURA FINAL FORM"⟩,
    ⟨0xFD97, "ARABIC LIGATURE NOON WITH JEEM WITH MEEM ", "FINAL FORM,INITIAL FORM"⟩,
    ⟨0xFD99, "", "ARABIC LIGATURE NOON WITH JEEM WITH ALEF MAKSURA FINAL FORM"⟩,
    ⟨0xFD9A, "ARABIC LIGATURE NOON WITH MEEM WITH ", "YEH FINAL FORM,ALEF MAKSURA FINAL FORM"⟩,
    ⟨0xFD9C, "ARABIC LIGATURE YEH WITH MEEM WITH MEEM ", "FINAL FORM,INITIAL FORM"⟩,
    ⟨0xFD9E, "", "ARABIC LIGATURE BEH WITH KHAH WITH YEH FINAL FORM"⟩,
    ⟨0xFD9F, "ARABIC LIGATURE TEH WITH JEEM WITH ", "YEH FINAL FORM,ALEF MAKSURA FINAL FORM"⟩,
    ⟨0xFDA1, "ARABIC LIGATURE TEH WITH KHAH WITH ", "YEH FINAL FORM,ALEF MAKSURA FINAL FORM"⟩,
    ⟨0xFDA3, "ARABIC LIGATURE TEH WITH MEEM WITH ", "YEH FINAL FORM,ALEF MAKSURA FINAL FORM"⟩,
    ⟨0xFDA5, "", "ARABIC LIGATURE JEEM WITH MEEM WITH YEH FINAL FORM"⟩,
    ⟨0xFDA6, "", "ARABIC LIGATURE JEEM WITH HAH WITH ALEF MAKSURA FINAL FORM"⟩,
    ⟨0xFDA7, "", "ARABIC LIGATURE JEEM WITH MEEM WITH ALEF MAKSURA FINAL FORM"⟩,
    ⟨0xFDA8, "", "ARABIC LIGATURE SEEN WITH KHAH WITH ALEF MAKSURA FINAL FORM"⟩,
    ⟨0xFDA9, "", "ARABIC LIGATURE SAD WITH HAH WITH YEH FINAL FORM"⟩,
    ⟨0xFDAA, "", "ARABIC LIGATURE SHEEN WITH HAH WITH YEH FINAL FORM"⟩,
    ⟨0xFDAB, "", "ARABIC LIGATURE DAD WITH HAH WITH YEH FINAL FORM"⟩,
    ⟨0xFDAC, "ARABIC LIGATURE LAM WITH ", "JEEM WITH YEH FINAL FORM,MEEM WITH YEH FINAL FORM"⟩,
    ⟨0xFDAE, "", "ARABIC LIGATURE YEH WITH HAH WITH YEH FINAL FORM"⟩,
    ⟨0xFDAF, "ARABIC LIGATURE YEH WITH ", "JEEM WITH YEH FINAL FORM,MEEM WITH YEH FINAL FORM"⟩,
    ⟨0xFDB1, "", "ARABIC LIGATURE MEEM WITH MEEM WITH YEH FINAL FORM"⟩,
    ⟨0xFDB2, "", "ARABIC LIGATURE QAF WITH MEEM WITH YEH FINAL FORM"⟩,
    ⟨0xFDB3, "", "ARABIC LIGATURE NOON WITH HAH WITH YEH FINAL FORM"⟩,
    ⟨0xFDB4, "", "ARABIC LIGATURE QAF WITH MEEM WITH HAH INITIAL FORM"⟩,
    ⟨0xFDB5, "", "ARABIC LIGATURE LAM WITH HAH WITH MEEM INITIAL FORM"⟩,
    ⟨0xFDB6, "", "ARABIC LIGATURE AIN WITH MEEM WITH YEH FINAL FORM"⟩,
    ⟨0xFDB7, "", "ARABIC LIGATURE KAF WITH MEEM WITH YEH FINAL FORM"⟩,
    ⟨0xFDB8, "", "ARABIC LIGATURE NOON WITH JEEM WITH HAH INITIAL FORM"⟩,
    ⟨0xFDB9, "", "ARABIC LIGATURE MEEM WITH KHAH WITH YEH FINAL FORM"⟩,
    ⟨0xFDBA, "", "ARABIC LIGATURE LAM WITH JEEM WITH MEEM INITIAL FORM"⟩,
    ⟨0xFDBB, "", "ARABIC LIGATURE KAF WITH MEEM WITH MEEM FINAL FORM"⟩,
    ⟨0xFDBC, "", "ARABIC LIGATURE LAM WITH JEEM WITH MEEM FINAL FORM"⟩,
    ⟨0xFDBD, "", "ARABIC LIGATURE NOON WITH JEEM WITH HAH FINAL FORM"⟩,
    ⟨0xFDBE, "", "ARABIC LIGATURE JEEM WITH HAH WITH YEH FINAL FORM"⟩,
    ⟨0xFDBF, "", "ARABIC LIGATURE HAH WITH JEEM WITH YEH FINAL FORM"⟩,
    ⟨0xFDC0, "", "ARABIC LIGATURE MEEM WITH JEEM WITH YEH FINAL FORM"⟩,
    ⟨0xFDC1, "", "ARABIC LIGATURE FEH WITH MEEM WITH YEH FINAL FORM"⟩,
    ⟨0xFDC2, "", "ARABIC LIGATURE BEH WITH HAH WITH YEH FINAL FORM"⟩,
    ⟨0xFDC3, "", "ARABIC LIGATURE KAF WITH MEEM WITH MEEM INITIAL FORM"⟩,
    ⟨0xFDC4, "", "ARABIC LIGATURE AIN WITH JEEM WITH MEEM INITIAL FORM"⟩,
    ⟨0xFDC5, "", "ARABIC LIGATURE SAD WITH MEEM WITH MEEM INITIAL FORM"⟩,
    ⟨0xFDC6, "", "ARABIC LIGATURE SEEN WITH KHAH WITH YEH FINAL FORM"⟩,
    ⟨0xFDC7, "", "ARABIC LIGATURE NOON WITH JEEM WITH YEH FINAL FORM"⟩,
    ⟨0xFDCF, "", "ARABIC LIGATURE SALAAMUHU ALAYNAA"⟩,
    ⟨0xFDF0, "", "ARABIC LIGATURE SALLA USED AS KORANIC STOP SIGN ISOLATED FORM"⟩,
    ⟨0xFDF1, "", "ARABIC LIGATURE QALA USED AS KORANIC STOP SIGN ISOLATED FORM"⟩,
    ⟨0xFDF2, "ARABIC LIGATURE ", "ALLAH ISOLATED FORM,AKBAR ISOLATED FORM"⟩,
    ⟨0xFDF4, "ARABIC LIGATURE ", "MOHAMMAD ISOLATED FORM,SALAM ISOLATED FORM,RASOUL ISOLATED FORM"⟩,
    ⟨0xFDF7, "ARABIC LIGATURE ", "ALAYHE ISOLATED FORM,WASALLAM ISOLATED FORM"⟩,
    ⟨0xFDF9, "ARABIC LIGATURE ", "SALLA ISOLATED FORM,SALLALLAHOU ALAYHE WASALLAM,JALLAJALALOUHOU"⟩,
    ⟨0xFDFC, "", "RIAL SIGN,ARABIC LIGATURE BISMILLAH AR-RAHMAN AR-RAHEEM"⟩,
    ⟨0xFDFE, "ARABIC LIGATURE ", "SUBHAANAHU WA TAAALAA,AZZA WA JALL"⟩,
    ⟨0xFE00, "VARIATION SELECTOR-", "1,2,3,4,5,6,7,8,9,10,11,12,13,14,15,16"⟩,
    ⟨0xFE10, "PRESENTATION FORM FOR VERTICAL ", "COMMA,IDEOGRAPHIC COMMA,IDEOGRAPHIC FULL STOP"⟩,
    ⟨0xFE13, "PRESENTATION FORM FOR VERTICAL ", "COLON,SEMICOLON,EXCLAMATION MARK"⟩,
    ⟨0xFE16, "PRESENTATION FORM FOR VERTICAL ", "QUESTION MARK,LEFT WHITE LENTICULAR BRACKET"⟩,
    ⟨0xFE18, "", "PRESENTATION FORM FOR VERTICAL RIGHT WHITE LENTICULAR BRAKCET"⟩,
    ⟨0xFE19, "", "PRESENTATION FORM FOR VERTICAL HORIZONTAL ELLIPSIS"⟩,
    ⟨0xFE20, "COMBINING ", "LIGATURE LEFT HALF,LIGATURE RIGHT HALF,DOUBLE TILDE LEFT HALF"⟩,
    ⟨0xFE23, "COMBINING ", "DOUBLE TILDE RIGHT HALF,MACRON LEFT HALF,MACRON RIGHT HALF"⟩,
    ⟨0xFE26, "COMBINING ", "CONJOINING MACRON,LIGATURE LEFT HALF BELOW,LIGATURE RIGHT HALF BELOW"⟩,
    ⟨0xFE29, "COMBINING ", "TILDE LEFT HALF BELOW,TILDE RIGHT HALF BELOW,MACRON LEFT HALF BELOW"⟩,
    ⟨0xFE2C, "COMBINING ", "MACRON RIGHT HALF BELOW,CONJOINING MACRON BELOW"⟩,
    ⟨0xFE2E, "COMBINING CYRILLIC TITLO ", "LEFT HALF,RIGHT HALF"⟩,
    ⟨0xFE30, "PRESENTATION FORM FOR VERTICAL ", "TWO DOT LEADER,EM DASH"⟩,
    ⟨0xFE32, "PRESENTATION FORM FOR VERTICAL ", "EN DASH,LOW LINE,WAVY LOW LINE,LEFT PARENTHESIS"⟩,
    ⟨0xFE36, "PRESENTATION FORM FOR VERTICAL ", "RIGHT PARENTHESIS,LEFT CURLY BRACKET"⟩,
    ⟨0xFE38, "PRESENTATION FORM FOR VERTICAL ", "RIGHT CURLY BRACKET,LEFT TORTOISE SHELL BRACKET"⟩,
    ⟨0xFE3A, "", "PRESENTATION FORM FOR VERTICAL RIGHT TORTOISE SHELL BRACKET"⟩,
    ⟨0xFE3B, "", "PRESENTATION FORM FOR VERTICAL LEFT BLACK LENTICULAR BRACKET"⟩,
    ⟨0xFE3C, "", "PRESENTATION FORM FOR VERTICAL RIGHT BLACK LENTICULAR BRACKET"⟩,
    ⟨0xFE3D, "", "PRESENTATION FORM FOR VERTICAL LEFT DOUBLE ANGLE BRACKET"⟩,
    ⟨0xFE3E, "PRESENTATION FORM FOR VERTICAL ", "RIGHT DOUBLE ANGLE BRACKET,LEFT ANGLE BRACKET"⟩,
    ⟨0xFE40, "PRESENTATION FORM FOR VERTICAL ", "RIGHT ANGLE BRACKET,LEFT CORNER BRACKET"⟩,
    ⟨0xFE42, "PRESENTATION FORM FOR VERTICAL ", "RIGHT CORNER BRACKET,LEFT WHITE CORNER BRACKET"⟩,
    ⟨0xFE44, "", "PRESENTATION FORM FOR VERTICAL RIGHT WHITE CORNER BRACKET"⟩,
    ⟨0xFE45, "", "SESAME DOT,WHITE SESAME DOT"⟩,
    ⟨0xFE47, "PRESENTATION FORM FOR VERTICAL ", "LEFT SQUARE BRACKET,RIGHT SQUARE BRACKET"⟩,
    ⟨0xFE49, "", "DASHED OVERLINE,CENTRELINE OVERLINE,WAVY OVERLINE"⟩,
    ⟨0xFE4C, "", "DOUBLE WAVY OVERLINE,DASHED LOW LINE,CENTRELINE LOW LINE,WAVY LOW LINE"⟩,
    ⟨0xFE50, "SMALL ", "COMMA,IDEOGRAPHIC COMMA,FULL STOP"⟩,
    ⟨0xFE54, "SMALL ", "SEMICOLON,COLON"⟩,
    ⟨0xFE56, "SMALL ", "QUESTION MARK,EXCLAMATION MARK,EM DASH,LEFT PARENTHESIS,RIGHT PARENTHESIS"⟩,
    ⟨0xFE5B, "SMALL ", "LEFT CURLY BRACKET,RIGHT CURLY BRACKET,LEFT TORTOISE SHELL BRACKET"⟩,
    ⟨0xFE5E, "SMALL ", "RIGHT TORTOISE SHELL BRACKET,NUMBER SIGN,AMPERSAND,ASTERISK"⟩,
    ⟨0xFE62, "SMALL ", "PLUS SIGN,HYPHEN-MINUS,LESS-THAN SIGN,GREATER-THAN SIGN,EQUALS SIGN"⟩,
    ⟨0xFE68, "SMALL ", "REVERSE SOLIDUS,DOLLAR SIGN,PERCENT SIGN,COMMERCIAL AT"⟩,
    ⟨0xFE70, "ARABIC ", "FATHATAN ISOLATED FORM,TATWEEL WITH FATHATAN ABOVE"⟩,
    ⟨0xFE72, "ARABIC ", "DAMMATAN ISOLATED FORM,TAIL FRAGMENT,KASRATAN ISOLATED FORM"⟩,
    ⟨0xFE76, "ARABIC ", "FATHA ISOLATED FORM,FATHA MEDIAL FORM,DAMMA ISOLATED FORM"⟩,
    ⟨0xFE79, "ARABIC ", "DAMMA MEDIAL FORM,KASRA ISOLATED FORM,KASRA MEDIAL FORM"⟩,
    ⟨0xFE7C, "ARABIC SHADDA ", "ISOLATED FORM,MEDIAL FORM"⟩,
    ⟨0xFE7E, "ARABIC ", "SUKUN ISOLATED FORM,SUKUN MEDIAL FORM,LETTER HAMZA ISOLATED FORM"⟩,
    ⟨0xFE81, "ARABIC LETTER ALEF WITH MADDA ABOVE ", "ISOLATED FORM,FINAL FORM"⟩,
    ⟨0xFE83, "ARABIC LETTER ALEF WITH HAMZA ABOVE ", "ISOLATED FORM,FINAL FORM"⟩,
    ⟨0xFE85, "ARABIC LETTER WAW WITH HAMZA ABOVE ", "ISOLATED FORM,FINAL FORM"⟩,
    ⟨0xFE87, "ARABIC LETTER ALEF WITH HAMZA BELOW ", "ISOLATED FORM,FINAL FORM"⟩,
    ⟨0xFE89, "ARABIC LETTER YEH WITH HAMZA ABOVE ", "ISOLATED FORM,FINAL FORM,INITIAL FORM"⟩,
    ⟨0xFE8C, "ARABIC LETTER ", "YEH WITH HAMZA ABOVE MEDIAL FORM,ALEF ISOLATED FORM"⟩,
    ⟨0xFE8E, "ARABIC LETTER ", "ALEF FINAL FORM,BEH ISOLATED FORM,BEH FINAL FORM,BEH INITIAL FORM"⟩,
    ⟨0xFE92, "ARABIC LETTER ", "BEH MEDIAL FORM,TEH MARBUTA ISOLATED FORM,TEH MARBUTA FINAL FORM"⟩,
    ⟨0xFE95, "ARABIC LETTER TEH ", "ISOLATED FORM,FINAL FORM,INITIAL FORM,MEDIAL FORM"⟩,
    ⟨0xFE99, "ARABIC LETTER THEH ", "ISOLATED FORM,FINAL FORM,INITIAL FORM,MEDIAL FORM"⟩,
    ⟨0xFE9D, "ARABIC LETTER JEEM ", "ISOLATED FORM,FINAL FORM,INITIAL FORM,MEDIAL FORM"⟩,
    ⟨0xFEA1, "ARABIC LETTER HAH ", "ISOLATED FORM,FINAL FORM,INITIAL FORM,MEDIAL FORM"⟩,
    ⟨0xFEA5, "ARABIC LETTER KHAH ", "ISOLATED FORM,FINAL FORM,INITIAL FORM,MEDIAL FORM"⟩,
    ⟨0xFEA9, "ARABIC LETTER ", "DAL ISOLATED FORM,DAL FINAL FORM,THAL ISOLATED FORM"⟩,
    ⟨0xFEAC, "ARABIC LETTER ", "THAL FINAL FORM,REH ISOLATED FORM,REH FINAL FORM"⟩,
    ⟨0xFEAF, "ARABIC LETTER ZAIN ", "ISOLATED FORM,FINAL FORM"⟩,
    ⟨0xFEB1, "ARABIC LETTER SEEN ", "ISOLATED FORM,FINAL FORM,INITIAL FORM,MEDIAL FORM"⟩,
    ⟨0xFEB5, "ARABIC LETTER SHEEN ", "ISOLATED FORM,FINAL FORM,INITIAL FORM,MEDIAL FORM"⟩,
    ⟨0xFEB9, "ARABIC LETTER SAD ", "ISOLATED FORM,FINAL FORM,INITIAL FORM,MEDIAL FORM"⟩,
    ⟨0xFEBD, "ARABIC LETTER DAD ", "ISOLATED FORM,FINAL FORM,INITIAL FORM,MEDIAL FORM"⟩,
    ⟨0xFEC1, "ARABIC LETTER TAH ", "ISOLATED FORM,FINAL FORM,INITIAL FORM,MEDIAL FORM"⟩,
    ⟨0xFEC5, "ARABIC LETTER ZAH ", "ISOLATED FORM,FINAL FORM,INITIAL FORM,MEDIAL FORM"⟩,
    ⟨0xFEC9, "ARABIC LETTER AIN ", "ISOLATED FORM,FINAL FORM,INITIAL FORM,MEDIAL FORM"⟩,
    ⟨0xFECD, "ARABIC LETTER GHAIN ", "ISOLATED FORM,FINAL FORM,INITIAL FORM,MEDIAL FORM"⟩,
    ⟨0xFED1, "ARABIC LETTER FEH ", "ISOLATED FORM,FINAL FORM,INITIAL FORM,MEDIAL FORM"⟩,
    ⟨0xFED5, "ARABIC LETTER QAF ", "ISOLATED FORM,FINAL FORM,INITIAL FORM,MEDIAL FORM"⟩,
    ⟨0xFED9, "ARABIC LETTER KAF ", "ISOLATED FORM,FINAL FORM,INITIAL FORM,MEDIAL FORM"⟩,
    ⟨0xFEDD, "ARABIC LETTER LAM ", "ISOLATED FORM,FINAL FORM,INITIAL FORM,MEDIAL FORM"⟩,
    ⟨0xFEE1, "ARABIC LETTER MEEM ", "ISOLATED FORM,FINAL FORM,INITIAL FORM,MEDIAL FORM"⟩,
    ⟨0xFEE5, "ARABIC LETTER NOON ", "ISOLATED FORM,FINAL FORM,INITIAL FORM,MEDIAL FORM"⟩,
    ⟨0xFEE9, "ARABIC LETTER HEH ", "ISOLATED FORM,FINAL FORM,INITIAL FORM,MEDIAL FORM"⟩,
    ⟨0xFEED, "ARABIC LETTER WAW ", "ISOLATED FORM,FINAL FORM"⟩,
    ⟨0xFEEF, "ARABIC LETTER ALEF MAKSURA ", "ISOLATED FORM,FINAL FORM"⟩,
    ⟨0xFEF1, "ARABIC LETTER YEH ", "ISOLATED FORM,FINAL FORM,INITIAL FORM,MEDIAL FORM"⟩,
    ⟨0xFEF5, "ARABIC LIGATURE LAM WITH ALEF WITH MADDA ABOVE ", "ISOLATED FORM,FINAL FORM"⟩,
    ⟨0xFEF7, "ARABIC LIGATURE LAM WITH ALEF WITH HAMZA ABOVE ", "ISOLATED FORM,FINAL FORM"⟩,
    ⟨0xFEF9, "ARABIC LIGATURE LAM WITH ALEF WITH HAMZA BELOW ", "ISOLATED FORM,FINAL FORM"⟩,
    ⟨0xFEFB, "ARABIC LIGATURE LAM WITH ALEF ", "ISOLATED FORM,FINAL FORM"⟩,
    ⟨0xFEFF, "", "ZERO WIDTH NO-BREAK SPACE"⟩,
    ⟨0xFF01, "FULLWIDTH ", "EXCLAMATION MARK,QUOTATION MARK,NUMBER SIGN,DOLLAR SIGN"⟩,
    ⟨0xFF05, "FULLWIDTH ", "PERCENT SIGN,AMPERSAND,APOSTROPHE,LEFT PARENTHESIS,RIGHT PARENTHESIS"⟩,
    ⟨0xFF0A, "FULLWIDTH ", "ASTERISK,PLUS SIGN,COMMA,HYPHEN-MINUS,FULL STOP,SOLIDUS"⟩,
    ⟨0xFF10, "FULLWIDTH DIGIT ", "ZERO,ONE,TWO,THREE,FOUR,FIVE,SIX,SEVEN,EIGHT,NINE"⟩,
    ⟨0xFF1A, "FULLWIDTH ", "COLON,SEMICOLON,LESS-THAN SIGN"⟩,
    ⟨0xFF1D, "FULLWIDTH ", "EQUALS SIGN,GREATER-THAN SIGN,QUESTION MARK,COMMERCIAL AT"⟩,
    ⟨0xFF21, "FULLWIDTH LATIN CAPITAL LETTER ", "A,B"⟩,
    ⟨0xFF23, "FULLWIDTH LATIN CAPITAL LETTER ", "C,D,E,F,G,H,I,J,K,L,M,N,O,P,Q,R,S,T,U,V,W,X,Y,Z"⟩,
    ⟨0xFF3B, "FULLWIDTH ", "LEFT SQUARE BRACKET,REVERSE SOLIDUS,RIGHT SQUARE BRACKET"⟩,
    ⟨0xFF3E, "FULLWIDTH ", "CIRCUMFLEX ACCENT,LOW LINE,GRAVE ACCENT,LATIN SMALL LETTER A"⟩,
    ⟨0xFF42, "FULLWIDTH LATIN SMALL LETTER ", "B,C,D,E,F,G,H,I,J,K,L,M,N,O,P,Q,R,S,T,U,V,W,X,Y,Z"⟩,
    ⟨0xFF5B, "FULLWIDTH ", "LEFT CURLY BRACKET,VERTICAL LINE,RIGHT CURLY BRACKET"⟩,
    ⟨0xFF5E, "FULLWIDTH ", "TILDE,LEFT WHITE PARENTHESIS,RIGHT WHITE PARENTHESIS"⟩,
    ⟨0xFF61, "HALFWIDTH ", "IDEOGRAPHIC FULL STOP,LEFT CORNER BRACKET,RIGHT CORNER BRACKET"⟩,
    ⟨0xFF64, "HALFWIDTH ", "IDEOGRAPHIC COMMA,KATAKANA MIDDLE DOT,KATAKANA LETTER WO"⟩,
    ⟨0xFF67, "HALFWIDTH KATAKANA LETTER SMALL ", "A,I,U,E,O,YA,YU,YO,TU"⟩,
    ⟨0xFF70, "", "HALFWIDTH KATAKANA-HIRAGANA PROLONGED SOUND MARK"⟩,
    ⟨0xFF71, "HALFWIDTH KATAKANA LETTER ", "A,I,U,E,O,KA,KI,KU,KE"⟩,
    ⟨0xFF7A, "HALFWIDTH KATAKANA LETTER ", "KO,SA,SI,SU,SE,SO,TA,TI,TU,TE,TO,NA,NI,NU,NE,NO,HA,HI"⟩,
    ⟨0xFF8C, "HALFWIDTH KATAKANA LETTER ", "HU,HE,HO,MA,MI,MU,ME,MO,YA,YU,YO,RA,RI,RU,RE,RO,WA,N"⟩,
    ⟨0xFF9E, "HALFWIDTH KATAKANA ", "VOICED SOUND MARK,SEMI-VOICED SOUND MARK"⟩,
    ⟨0xFFA0, "HALFWIDTH HANGUL ", "FILLER,LETTER KIYEOK,LETTER SSANGKIYEOK,LETTER KIYEOK-SIOS"⟩,
    ⟨0xFFA4, "HALFWIDTH HANGUL LETTER ", "NIEUN,NIEUN-CIEUC,NIEUN-HIEUH,TIKEUT,SSANGTIKEUT,RIEUL"⟩,
    ⟨0xFFAA, "HALFWIDTH HANGUL LETTER RIEUL-", "KIYEOK,MIEUM,PIEUP,SIOS,THIEUTH,PHIEUPH,HIEUH"⟩,
    ⟨0xFFB1, "HALFWIDTH HANGUL LETTER ", "MIEUM,PIEUP,SSANGPIEUP,PIEUP-SIOS,SIOS,SSANGSIOS,IEUNG"⟩,
    ⟨0xFFB8, "HALFWIDTH HANGUL LETTER ", "CIEUC,SSANGCIEUC,CHIEUCH,KHIEUKH,THIEUTH,PHIEUPH,HIEUH"⟩,
    ⟨0xFFC2, "HALFWIDTH HANGUL LETTER ", "A,AE,YA,YAE,EO,E"⟩,
    ⟨0xFFCA, "HALFWIDTH HANGUL LETTER ", "YEO,YE,O,WA,WAE,OE"⟩,
    ⟨0xFFD2, "HALFWIDTH HANGUL LETTER ", "YO,U,WEO,WE,WI,YU"⟩,
    ⟨0xFFDA, "HALFWIDTH HANGUL LETTER ", "EU,YI,I"⟩,
    ⟨0xFFE0, "FULLWIDTH ", "CENT SIGN,POUND SIGN,NOT SIGN,MACRON,BROKEN BAR,YEN SIGN,WON SIGN"⟩,
    ⟨0xFFE8, "HALFWIDTH ", "FORMS LIGHT VERTICAL,LEFTWARDS ARROW,UPWARDS ARROW"⟩,
    ⟨0xFFEB, "HALFWIDTH ", "RIGHTWARDS ARROW,DOWNWARDS ARROW,BLACK SQUARE,WHITE CIRCLE"⟩,
    ⟨0xFFF9, "INTERLINEAR ANNOTATION ", "ANCHOR,SEPARATOR,TERMINATOR"⟩,
    ⟨0xFFFC, "", "OBJECT REPLACEMENT CHARACTER,REPLACEMENT CHARACTER"⟩
  ]

end MemoryAtlas.Text.Name
