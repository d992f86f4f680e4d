import MemoryAtlas.Pattern.Syntax
import MemoryAtlas.Pattern.Token
import MemoryAtlas.Text.Name

/-!
What a character behind a backslash stands for, inside a set and outside.
-/

namespace MemoryAtlas.Pattern

/-- The settings of a part of an expression. -/
structure Flags where
  ignoreCase : Bool := false
  multiLine : Bool := false
  dotAll : Bool := false
  verbose : Bool := false
  ascii : Bool := false
  once : Bool := false
deriving DecidableEq

def Flags.folding (f : Flags) : Folding :=
  if f.ignoreCase then (if f.ascii then .ascii else .full) else .none

def Flags.word (f : Flags) : Kind := if f.ascii then .asciiWord else .word

/-- Control characters written by a letter. -/
def control? : Char → Option Nat
  | 'a' => some 7
  | 'b' => some 8
  | 'f' => some 12
  | 'n' => some 10
  | 'r' => some 13
  | 't' => some 9
  | 'v' => some 11
  | '\\' => some 92
  | _ => none

def kind? (f : Flags) (c : Char) : Option Member :=
  match c with
  | 'd' => some (.kind (if f.ascii then .asciiDigit else .digit) false)
  | 'D' => some (.kind (if f.ascii then .asciiDigit else .digit) true)
  | 's' => some (.kind (if f.ascii then .asciiBlank else .blank) false)
  | 'S' => some (.kind (if f.ascii then .asciiBlank else .blank) true)
  | 'w' => some (.kind f.word false)
  | 'W' => some (.kind f.word true)
  | _ => none

def isLetter (c : Char) : Bool := 'a' ≤ c && c ≤ 'z' || 'A' ≤ c && c ≤ 'Z'

/-- A name in curly brackets. -/
def namedCode : List Token → Option (Nat × List Token)
  | .plain '{' :: rest =>
    match takeUntil '}' rest with
    | some (some name, left) => (Text.Name.code? name).map fun n => (n, left)
    | _ => none
  | _ => none

/-- A code point given by number or by name: two digits after `x`, four after `u`, eight after `U`, a
name after `N`. -/
def codePoint? (c : Char) (rest : List Token) : Option (Option (Nat × List Token)) :=
  match c with
  | 'x' => some (hexCode 2 rest)
  | 'u' => some (hexCode 4 rest)
  | 'U' => some ((hexCode 8 rest).filter fun (n, _) => n < 0x110000)
  | 'N' => some (namedCode rest)
  | _ => none

/-- A member of a set. Digits are an octal number of at most three digits and at most 0o377; other
letters mean nothing. -/
def setEscape (f : Flags) (c : Char) (rest : List Token) : Option (Member × List Token) :=
  match control? c with
  | some n => some (.code n, rest)
  | none =>
    match kind? f c with
    | some m => some (m, rest)
    | none =>
      match codePoint? c rest with
      | some found => found.map fun (n, left) => (.code n, left)
      | none =>
        if isOctal c then
          let (more, left) := takePlain isOctal 2 rest
          let n := octalValue (c :: more)
          if n ≤ 0o377 then some (.code n, left) else none
        else if isDecimal c || isLetter c then none
        else some (.code c.toNat, rest)

/-- What stands for one place or character outside a set. -/
inductive Single where
  | anchor (a : Anchor)
  | member (m : Member)
  | reference (group : Nat)

def anchor? (f : Flags) : Char → Option Anchor
  | 'A' => some .start
  | 'Z' => some .absoluteFinish
  | 'b' => some (.boundary f.word)
  | 'B' => some (.noBoundary f.word)
  | _ => none

/-- A zero begins an octal number, and so do three octal digits; other digits refer to a group. -/
def numeral (c : Char) (rest : List Token) : Option (Single × List Token) :=
  if c = '0' then
    let (more, left) := takePlain isOctal 2 rest
    some (.member (.code (octalValue (c :: more))), left)
  else
    match takePlain isDecimal 1 rest with
    | ([d], left) =>
      match takePlain isOctal 1 left with
      | ([e], beyond) =>
        if isOctal c && isOctal d then
          let n := octalValue [c, d, e]
          if n ≤ 0o377 then some (.member (.code n), beyond) else none
        else some (.reference (decimalValue [c, d]), left)
      | _ => some (.reference (decimalValue [c, d]), left)
    | _ => some (.reference (decimalValue [c]), rest)

def escape (f : Flags) (c : Char) (rest : List Token) : Option (Single × List Token) :=
  match anchor? f c with
  | some a => some (.anchor a, rest)
  | none =>
    match kind? f c, control? c with
    | some m, _ => some (.member m, rest)
    | none, some n => some (.member (.code n), rest)
    | none, none =>
      match codePoint? c rest with
      | some found => found.map fun (n, left) => (.member (.code n), left)
      | none =>
        if isDecimal c then numeral c rest
        else if isLetter c then none
        else some (.member (.code c.toNat), rest)

end MemoryAtlas.Pattern
