import MemoryAtlas.Numeral.Hex

/-!
The tokens of a written regular expression: characters, and characters behind a backslash.
-/

namespace MemoryAtlas.Pattern

/-- A backslash with nothing behind it is only wrong once it is reached. -/
inductive Token where
  | plain (c : Char)
  | escaped (c : Char)
  | dangling
deriving DecidableEq

def tokens : List Char → List Token
  | [] => []
  | ['\\'] => [.dangling]
  | '\\' :: c :: rest => .escaped c :: tokens rest
  | c :: rest => .plain c :: tokens rest

def Token.length : Token → Nat
  | .escaped _ => 2
  | _ => 1

/-- How many characters the tokens were read from. -/
def span (tokens : List Token) : Nat := tokens.foldr (fun token n => token.length + n) 0

def isDecimal (c : Char) : Bool := '0' ≤ c && c ≤ '9'

def isOctal (c : Char) : Bool := '0' ≤ c && c ≤ '7'

/-- Up to `most` plain characters of a class, and what follows them. -/
def takePlain (p : Char → Bool) : Nat → List Token → List Char × List Token
  | most + 1, .plain c :: rest =>
    if p c then
      let (taken, left) := takePlain p most rest
      (c :: taken, left)
    else ([], .plain c :: rest)
  | _, s => ([], s)

/-- Everything up to a closing character: the characters in front of it, if all of them are plain, and
what follows it. -/
def takeUntil (closing : Char) : List Token → Option (Option (List Char) × List Token)
  | [] => none
  | .plain c :: rest =>
    if c = closing then some (some [], rest)
    else (takeUntil closing rest).map fun (name, left) => (name.map (c :: ·), left)
  | .escaped _ :: rest => (takeUntil closing rest).map fun (_, left) => (none, left)
  | .dangling :: _ => none

def octalValue (digits : List Char) : Nat := digits.foldl (fun n c => 8 * n + (c.toNat - 48)) 0

def decimalValue (digits : List Char) : Nat := digits.foldl (fun n c => 10 * n + (c.toNat - 48)) 0

/-- Exactly `count` hexadecimal digits. -/
def hexCode (count : Nat) (s : List Token) : Option (Nat × List Token) :=
  let (digits, rest) := takePlain (fun c => (Hex.digit? c).isSome) count s
  if digits.length = count then (digits.mapM Hex.digit?).map fun ds => (Hex.value ds, rest) else none

end MemoryAtlas.Pattern
