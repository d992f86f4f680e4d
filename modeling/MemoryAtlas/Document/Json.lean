import MemoryAtlas.Document
import MemoryAtlas.Numeral.Integer
import MemoryAtlas.Text.Characters

/-!
Documents read from JSON. Numbers without fraction and exponent are integers, as long as they may be;
`NaN` and the infinities are read as numbers; a byte-order mark is no blank.
-/

namespace MemoryAtlas.Json

def isBlank (c : Char) : Bool := c == ' ' || c == '\t' || c == '\n' || c == '\r'

def skipBlank (s : List Char) : List Char := s.dropWhile isBlank

def isDigit (c : Char) : Bool := '0' ≤ c && c ≤ '9'

/-- The character that a letter after a backslash stands for. -/
def escaped? : Char → Option Char
  | '"' => some '"'
  | '\\' => some '\\'
  | '/' => some '/'
  | 'b' => some '\x08'
  | 'f' => some '\x0c'
  | 'n' => some '\n'
  | 'r' => some '\r'
  | 't' => some '\t'
  | _ => none

/-- The code units up to the closing quote, and the text after it. -/
def units : List Char → Option (List Nat × List Char)
  | [] => none
  | '"' :: rest => some ([], rest)
  | '\\' :: 'u' :: a :: b :: c :: d :: rest => do
    let digits ← [a, b, c, d].mapM Hex.digit?
    let (codes, rest) ← units rest
    return (Hex.value digits :: codes, rest)
  | '\\' :: c :: rest => do
    let e ← escaped? c
    let (codes, rest) ← units rest
    return (e.toNat :: codes, rest)
  | c :: rest => do
    if c.toNat < 0x20 then none
    let (codes, rest) ← units rest
    return (c.toNat :: codes, rest)

/-- A text, from behind its opening quote. -/
def text (s : List Char) : Option (String × List Char) :=
  (units s).map fun (codes, rest) => (String.ofList (Text.joinHalves codes), rest)

def digitsValue (digits : List Char) : Nat := digits.foldl (fun n c => 10 * n + (c.toNat - 48)) 0

/-- A zero, or digits that do not begin with one. -/
def whole? (s : List Char) : Option (List Char × List Char) :=
  match s with
  | '0' :: rest => some (['0'], rest)
  | c :: _ => if isDigit c then some (s.takeWhile isDigit, s.dropWhile isDigit) else none
  | [] => none

/-- The digits behind a point; nothing is taken if there are none. -/
def fraction (s : List Char) : List Char × List Char :=
  match s with
  | '.' :: rest =>
    if (rest.takeWhile isDigit).isEmpty then ([], s) else (rest.takeWhile isDigit, rest.dropWhile isDigit)
  | _ => ([], s)

/-- The power of ten behind an `e`; nothing is taken if it has no digits. -/
def power (s : List Char) : Option Int × List Char :=
  match s with
  | e :: rest =>
    if e == 'e' || e == 'E' then
      let (sign, digits) : Int × List Char := match rest with
        | '-' :: r => (-1, r)
        | '+' :: r => (1, r)
        | r => (1, r)
      if (digits.takeWhile isDigit).isEmpty then (none, s)
      else (some (sign * digitsValue (digits.takeWhile isDigit)), digits.dropWhile isDigit)
    else (none, s)
  | [] => (none, s)

/-- Why a text is no document. -/
inductive Fault where
  | malformed
  | tooLong (digits : Nat)
  | tooDeep
deriving DecidableEq

def orMalformed {α : Type} (a : Option α) : Except Fault α := a.elim (.error .malformed) .ok

def number (negative : Bool) (s : List Char) : Except Fault (Document × List Char) := do
  let (whole, rest) ← orMalformed (whole? s)
  let (frac, rest) := fraction rest
  let (pow, rest) := power rest
  if frac.isEmpty && pow.isNone then
    if Integer.longest < whole.length then throw (.tooLong whole.length)
    let n : Int := digitsValue whole
    return (.int (if negative then -n else n), rest)
  else
    let exponent := pow.getD 0 - frac.length
    return (.float (Binary64.ofDecimal negative (digitsValue (whole ++ frac)) exponent), rest)

/-- Values that hold no other value. -/
def leaf : List Char → Except Fault (Document × List Char)
  | '"' :: rest => orMalformed ((text rest).map fun (s, rest) => (.text s, rest))
  | 'n' :: 'u' :: 'l' :: 'l' :: rest => .ok (.null, rest)
  | 't' :: 'r' :: 'u' :: 'e' :: rest => .ok (.bool true, rest)
  | 'f' :: 'a' :: 'l' :: 's' :: 'e' :: rest => .ok (.bool false, rest)
  | 'N' :: 'a' :: 'N' :: rest => .ok (.float .notANumber, rest)
  | 'I' :: 'n' :: 'f' :: 'i' :: 'n' :: 'i' :: 't' :: 'y' :: rest => .ok (.float (.infinity false), rest)
  | '-' :: 'I' :: 'n' :: 'f' :: 'i' :: 'n' :: 'i' :: 't' :: 'y' :: rest =>
    .ok (.float (.infinity true), rest)
  | '-' :: rest => number true rest
  | s => number false s

/-- No collection is nested deeper than this. -/
def deepest : Nat := 985

mutual

/-- `fuel` bounds the number of steps; no text needs more than twice its length. `room` is how many
more levels there may be. -/
def value (room : Nat) : Nat → List Char → Except Fault (Document × List Char)
  | 0, _ => .error .malformed
  | fuel + 1, '[' :: rest =>
    match room, skipBlank rest with
    | 0, _ => .error .tooDeep
    | _, ']' :: rest => .ok (.list [], rest)
    | room + 1, rest => (items room fuel rest).map fun (found, rest) => (.list found, rest)
  | fuel + 1, '{' :: rest =>
    match room, skipBlank rest with
    | 0, _ => .error .tooDeep
    | _, '}' :: rest => .ok (.record [], rest)
    | room + 1, rest => (fields room fuel rest).map fun (found, rest) => (.ofFields found, rest)
  | _ + 1, s => leaf s

def items (room : Nat) : Nat → List Char → Except Fault (List Document × List Char)
  | 0, _ => .error .malformed
  | fuel + 1, s => do
    let (item, rest) ← value room fuel s
    match skipBlank rest with
    | ']' :: rest => return ([item], rest)
    | ',' :: rest =>
      let (others, rest) ← items room fuel (skipBlank rest)
      return (item :: others, rest)
    | _ => throw .malformed

def fields (room : Nat) : Nat → List Char → Except Fault (List (Scalar × Document) × List Char)
  | 0, _ => .error .malformed
  | fuel + 1, '"' :: rest => do
    let (key, rest) ← orMalformed (text rest)
    let ':' :: rest := skipBlank rest | throw .malformed
    let (item, rest) ← value room fuel (skipBlank rest)
    match skipBlank rest with
    | '}' :: rest => return ([(.text key, item)], rest)
    | ',' :: rest =>
      let (others, rest) ← fields room fuel (skipBlank rest)
      return ((.text key, item) :: others, rest)
    | _ => throw .malformed
  | _ + 1, _ => .error .malformed

end

/-- One value with nothing but blanks around it. -/
def read (s : String) : Except Fault Document := do
  let (document, rest) ← value deepest (2 * s.length + 2) (skipBlank s.toList)
  if (skipBlank rest).isEmpty then return document else throw .malformed

end MemoryAtlas.Json
