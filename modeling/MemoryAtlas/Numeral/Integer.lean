import MemoryAtlas.Numeral.Hex
import MemoryAtlas.Text.Characters
import MemoryAtlas.Text.Quoted

/-!
Integers spelled as texts: decimal digits of any script with an optional sign, or hexadecimal
digits after `0x`. Single low lines may stand between digits. Decimal numerals are limited in length,
those that are read and those that are written.
-/

namespace MemoryAtlas.Integer

/-- Why a text spells no integer. -/
inductive Misspelling where
  | badDigits (base : Nat) (text : List Char)
  | tooLong (count : Nat)

/-- Digits with at most one low line between two of them. -/
def grouped (digit? : Char → Option Nat) : List Char → Option (List Nat)
  | [] => none
  | [c] => (digit? c).map fun d => [d]
  | c :: '_' :: rest => do return (← digit? c) :: (← grouped digit? rest)
  | c :: rest => do return (← digit? c) :: (← grouped digit? rest)

def value (base : Nat) (digits : List Nat) : Nat := digits.foldl (fun n d => base * n + d) 0

/-- No decimal numeral has more digits than this. -/
def longest : Nat := 4300

/-- The least number that is too long to be written. -/
def bound : Nat := Nat.pow 10 longest

def isWritable (n : Int) : Bool := n.natAbs < bound

/-- The sign as a factor, and the rest of the text. -/
def splitSign : List Char → Int × List Char
  | '-' :: rest => (-1, rest)
  | '+' :: rest => (1, rest)
  | s => (1, s)

def isDecimal (c : Char) : Bool := Text.isDigit c || c == '_'

/-- The digits at the start are judged first: they may be too many, whatever stands behind them. -/
def readDecimal (s : List Char) : Except Misspelling Int :=
  let (sign, rest) := splitSign s
  match grouped Text.digitValue? (rest.takeWhile isDecimal) with
  | none => .error (.badDigits 10 s)
  | some ds =>
    if longest < ds.length then .error (.tooLong ds.length)
    else if rest.all isDecimal then .ok (sign * value 10 ds)
    else .error (.badDigits 10 s)

/-- White space that hexadecimal numerals may stand in; the separators U+001C to U+001F are not part of it. -/
def isPadding (c : Char) : Bool := Text.isBlank c && !(0x1C ≤ c.toNat && c.toNat ≤ 0x1F)

def unpadded (s : List Char) : List Char :=
  ((s.dropWhile isPadding).reverse.dropWhile isPadding).reverse

/-- The digit of ASCII for a digit of any script. -/
def plain (c : Char) : Char := ((Text.digitValue? c).map Nat.digitChar).getD c

/-- The digits after the mark may begin with a low line. -/
def unmarked : List Char → List Char
  | '0' :: 'x' :: '_' :: rest => rest
  | '0' :: 'X' :: '_' :: rest => rest
  | s => Hex.unmarked s

/-- Hexadecimal digits of any script, with or without a sign and a mark. -/
def readHexadecimal (s : List Char) : Except Misspelling Int :=
  let (sign, rest) := splitSign ((unpadded s).map plain)
  match grouped Hex.digit? (unmarked rest) with
  | some ds => .ok (sign * value 16 ds)
  | none => .error (.badDigits 16 s)

def readTrimmed (s : List Char) : Except Misspelling Int :=
  match s with
  | '0' :: 'x' :: _ => readHexadecimal s
  | '0' :: 'X' :: _ => readHexadecimal s
  | _ => readDecimal s

/-- White space around the numeral does not count. -/
def read (s : String) : Except Misspelling Int := readTrimmed (Text.strip s.toList)

/-- An integer has too many digits to be written. -/
structure Unwritable
deriving DecidableEq

def limitText (found : String) : String :=
  "Exceeds the limit (" ++ toString longest ++ " digits) for integer string conversion" ++ found
    ++ "; use sys.set_int_max_str_digits() to increase the limit"

def Unwritable.message (_ : Unwritable) : String := limitText ""

def Misspelling.message : Misspelling → String
  | .badDigits base text =>
    "invalid literal for int() with base " ++ toString base ++ ": "
      ++ String.ofList ((Text.quoted text).take 200)
  | .tooLong count => limitText (": value has " ++ toString count ++ " digits")

end MemoryAtlas.Integer
