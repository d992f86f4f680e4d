import MemoryAtlas.Numeral.Hex
import MemoryAtlas.Text.Characters
import MemoryAtlas.Text.Name.Ancient
import MemoryAtlas.Text.Name.Cuneiform
import MemoryAtlas.Text.Name.Dingbats
import MemoryAtlas.Text.Name.European
import MemoryAtlas.Text.Name.Further
import MemoryAtlas.Text.Name.Indic
import MemoryAtlas.Text.Name.Kana
import MemoryAtlas.Text.Name.Musical
import MemoryAtlas.Text.Name.Pictures
import MemoryAtlas.Text.Name.Presentation
import MemoryAtlas.Text.Name.Syllabic
import MemoryAtlas.Text.Name.Symbols

/-!
Characters by name, as of Unicode 14. Most names stand in tables; syllables of Hangul are named by
their sounds and ideographs by their code points.
-/

namespace MemoryAtlas.Text.Name

def tables : List (List Block) :=
  [european, indic, syllabic, symbols, dingbats, kana, presentation, ancient, cuneiform, musical,
    pictures, further]

def listed? (name : String) : Option Nat :=
  tables.findSome? fun table => table.findSome? (·.code? name)

def leads : List String :=
  ["G", "GG", "N", "D", "DD", "R", "M", "B", "BB", "S", "SS", "", "J", "JJ", "C", "K", "T", "P", "H"]

def vowels : List String :=
  ["A", "AE", "YA", "YAE", "EO", "E", "YEO", "YE", "O", "WA", "WAE", "OE", "YO", "U", "WEO", "WE", "WI",
    "YU", "EU", "YI", "I"]

def tails : List String :=
  ["", "G", "GG", "GS", "N", "NJ", "NH", "D", "L", "LG", "LM", "LB", "LS", "LT", "LP", "LH", "M", "B",
    "BS", "S", "SS", "NG", "J", "C", "K", "T", "P", "H"]

/-- The place of the longest sound that stands in front, and what follows it. -/
def sound? (sounds : List String) (s : List Char) : Option (Nat × List Char) :=
  let longestFirst := sounds.zipIdx.mergeSort fun a b => b.1.length ≤ a.1.length
  (longestFirst.find? fun (sound, _) => sound.toList.isPrefixOf s).map fun (sound, place) =>
    (place, s.drop sound.length)

def syllable? (s : List Char) : Option Nat := do
  let (lead, s) ← sound? leads s
  let (vowel, s) ← sound? vowels s
  let (tail, s) ← sound? tails s
  if s.isEmpty then some (0xAC00 + (lead * vowels.length + vowel) * tails.length + tail) else none

def ideographs : List (Nat × Nat) :=
  [(0x3400, 0x4DBF), (0x4E00, 0x9FFF), (0x20000, 0x2A6DF), (0x2A700, 0x2B738), (0x2B740, 0x2B81D),
    (0x2B820, 0x2CEA1), (0x2CEB0, 0x2EBE0), (0x30000, 0x3134A)]

/-- Four or five digits, the letters among them in capitals. -/
def ideograph? (s : List Char) : Option Nat :=
  if (s.length = 4 || s.length = 5) && !s.any (fun c => 'a' ≤ c && c ≤ 'f') then
    ((s.mapM Hex.digit?).map Hex.value).filter (CharSet.within ideographs)
  else none

def after? (start : String) (s : List Char) : Option (List Char) :=
  if start.toList.isPrefixOf s then some (s.drop start.length) else none

/-- Capitals and small letters are told apart only in names by rule. -/
def code? (name : List Char) : Option Nat :=
  match after? "HANGUL SYLLABLE " name, after? "CJK UNIFIED IDEOGRAPH-" name with
  | some s, _ => syllable? s
  | none, some s => ideograph? s
  | none, none => listed? (String.ofList (name.map Char.toUpper))

end MemoryAtlas.Text.Name
