/-!
Characters and pieces of texts: sets of characters, white space and decimal digits, the runs of characters of one class,
characters from code units, and characters by name.
-/

namespace MemoryAtlas

/-! Sets of characters -/

/-- Closed ranges of code points, ascending and apart. -/
structure CharSet where
  ranges : List (Nat × Nat)

namespace CharSet

/-- Looks no further than the first range that starts beyond the code point. -/
def within : List (Nat × Nat) → Nat → Bool
  | [], _ => false
  | (first, last) :: rest, n => if n < first then false else n ≤ last || within rest n

def has (s : CharSet) (c : Char) : Bool := within s.ranges c.toNat

end CharSet

namespace Text

/-! Pieces of a text -/

/-- The longest runs of characters that satisfy `p`, in order; all else only separates them. -/
def runs (p : Char → Bool) (s : List Char) : List (List Char) :=
  (s.splitOnP fun c => !p c).filter fun run => !run.isEmpty

/-- Some contiguous piece of the text is `piece`. -/
def occurs (piece : List Char) : List Char → Bool
  | [] => piece.isEmpty
  | c :: rest => piece.isPrefixOf (c :: rest) || occurs piece rest

/-! White space -/

/-- The Unicode white-space characters together with the four separators U+001C to U+001F. -/
def blanks : CharSet where
  ranges := [
    (0x9, 0xD), (0x1C, 0x20), (0x85, 0x85), (0xA0, 0xA0), (0x1680, 0x1680), (0x2000, 0x200A),
    (0x2028, 0x2029), (0x202F, 0x202F), (0x205F, 0x205F), (0x3000, 0x3000)]

def isBlank (c : Char) : Bool := blanks.has c

/-- The text without the white space at its two ends. -/
def strip (s : List Char) : List Char :=
  ((s.dropWhile isBlank).reverse.dropWhile isBlank).reverse

/-- The longest runs of characters that are no white space. -/
def words (s : List Char) : List (List Char) := runs (fun c => !isBlank c) s

/-! Decimal digits of all scripts, as of Unicode 14 -/

/-- The digit zero of each script; the nine other digits follow it in order. -/
def zeroDigits : List Nat :=
  [
    0x30, 0x660, 0x6F0, 0x7C0, 0x966, 0x9E6, 0xA66, 0xAE6, 0xB66, 0xBE6, 0xC66, 0xCE6, 0xD66,
    0xDE6, 0xE50, 0xED0, 0xF20, 0x1040, 0x1090, 0x17E0, 0x1810, 0x1946, 0x19D0, 0x1A80, 0x1A90,
    0x1B50, 0x1BB0, 0x1C40, 0x1C50, 0xA620, 0xA8D0, 0xA900, 0xA9D0, 0xA9F0, 0xAA50, 0xABF0,
    0xFF10, 0x104A0, 0x10D30, 0x11066, 0x110F0, 0x11136, 0x111D0, 0x112F0, 0x11450, 0x114D0,
    0x11650, 0x116C0, 0x11730, 0x118E0, 0x11950, 0x11C50, 0x11D50, 0x11DA0, 0x16A60, 0x16AC0,
    0x16B50, 0x1D7CE, 0x1D7D8, 0x1D7E2, 0x1D7EC, 0x1D7F6, 0x1E140, 0x1E2F0, 0x1E950, 0x1FBF0]

def digitOver : List Nat → Nat → Option Nat
  | [], _ => none
  | first :: rest, n =>
    if n < first then none else if n ≤ first + 9 then some (n - first) else digitOver rest n

/-- The value of a decimal digit. -/
def digitValue? (c : Char) : Option Nat := digitOver zeroDigits c.toNat

def isDigit (c : Char) : Bool := (digitValue? c).isSome

/-! Characters from code units: one beyond the first 65536 may come as two halves -/

def isHighHalf (n : Nat) : Bool := 0xD800 ≤ n && n < 0xDC00

def isLowHalf (n : Nat) : Bool := 0xDC00 ≤ n && n < 0xE000

def charOf (n : Nat) : Char := if isHighHalf n || isLowHalf n then '\ufffd' else Char.ofNat n

/-- Two halves in a row are one character; a half that stands alone is replaced. -/
def joinHalves : List Nat → List Char
  | high :: low :: rest =>
    if isHighHalf high && isLowHalf low then
      Char.ofNat (0x10000 + (high - 0xD800) * 0x400 + (low - 0xDC00)) :: joinHalves rest
    else charOf high :: joinHalves (low :: rest)
  | [n] => [charOf n]
  | [] => []

/-! Characters by name -/

namespace Name

/-- A row of a table of names, for code points that follow one another. The names begin with the stem; their endings
stand in the order of the code points, with commas between them. -/
structure Block where
  first : Nat
  stem : String
  endings : String

def Block.names (b : Block) : List String := (b.endings.splitOn ",").map (b.stem ++ ·)

def Block.code? (b : Block) (name : String) : Option Nat :=
  if b.stem.toList.isPrefixOf name.toList then (b.names.findIdx? (· == name)).map (b.first + ·) else none

end Name

end Text

end MemoryAtlas
