/-!
Hexadecimal numerals. They are written in capitals without a mark in front, and read in either
case with or without one.
-/

namespace MemoryAtlas.Hex

def chars (n : Nat) : List Char := (Nat.toDigits 16 n).map Char.toUpper

/-- A negative number has its sign in front of the digits. -/
def write : Int → String
  | .ofNat n => String.ofList (chars n)
  | .negSucc n => String.ofList ('-' :: chars (n + 1))

/-- Only the letters and digits of ASCII are hexadecimal digits. -/
def digit? (c : Char) : Option Nat :=
  if '0' ≤ c ∧ c ≤ '9' then some (c.toNat - 48)
  else if 'a' ≤ c ∧ c ≤ 'f' then some (c.toNat - 87)
  else if 'A' ≤ c ∧ c ≤ 'F' then some (c.toNat - 55)
  else none

/-- The text after a leading `0x`, in either case. -/
def unmarked : List Char → List Char
  | '0' :: 'x' :: rest => rest
  | '0' :: 'X' :: rest => rest
  | s => s

def value (digits : List Nat) : Nat := digits.foldl (fun n d => 16 * n + d) 0

def readChars (s : List Char) : Option Nat :=
  match unmarked s with
  | [] => none
  | digits => (digits.mapM digit?).map value

/-- An optional mark and at least one digit, and nothing else. -/
def read (s : String) : Option Nat := readChars s.toList

def isNumeral (s : String) : Bool := (read s).isSome

end MemoryAtlas.Hex
