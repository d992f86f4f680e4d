import MemoryAtlas.Text.Printable

/-!
Quoted texts, as they stand in messages: between apostrophes, or between quotation marks if that
saves an escape, with every character that cannot be printed written by its number.
-/

namespace MemoryAtlas.Text

def apostrophe : Char := '\x27'
def quotationMark : Char := '\x22'
def backslash : Char := '\x5c'

/-- Apostrophes, unless the text holds one and no quotation mark. -/
def quoteMark (s : List Char) : Char :=
  if s.contains apostrophe && !s.contains quotationMark then quotationMark else apostrophe

/-- `width` hexadecimal digits in lower case. -/
def paddedHex (width n : Nat) : List Char :=
  let digits := Nat.toDigits 16 n
  List.replicate (width - digits.length) '0' ++ digits

/-- Two digits below 256, four below 65536, and eight above. -/
def numberEscape (n : Nat) : List Char :=
  if n < 0x100 then backslash :: 'x' :: paddedHex 2 n
  else if n < 0x10000 then backslash :: 'u' :: paddedHex 4 n
  else backslash :: 'U' :: paddedHex 8 n

def escape (mark c : Char) : List Char :=
  if c = mark || c = backslash then [backslash, c]
  else if c = '\n' then [backslash, 'n']
  else if c = '\r' then [backslash, 'r']
  else if c = '\t' then [backslash, 't']
  else if isPrintable c then [c]
  else numberEscape c.toNat

def quoted (s : List Char) : List Char :=
  quoteMark s :: s.flatMap (escape (quoteMark s)) ++ [quoteMark s]

def quote (s : String) : String := String.ofList (quoted s.toList)

end MemoryAtlas.Text
