import MemoryAtlas.Text.Case.Tables

/-!
Lower and upper case of texts. A character may become a sequence, and a capital sigma becomes the
final form at the end of a word.
-/

namespace MemoryAtlas.Text

namespace Case

/-- A code point outside every run is mapped to itself. -/
def mapped : List Run → Nat → Nat
  | [], n => n
  | run :: rest, n =>
    if n < run.first then n
    else if n ≤ run.last then
      if (n - run.first) % run.stride = 0 then (n + run.shift).toNat else n
    else mapped rest n

def expand (sequences : List (Nat × List Nat)) (runs : List Run) (c : Char) : List Char :=
  match sequences.lookup c.toNat with
  | some codes => codes.map Char.ofNat
  | none => [Char.ofNat (mapped runs c.toNat)]

/-- The lower case of one character, read alone. -/
def lowerOf (c : Char) : List Char := expand lowerSequences lowerRuns c

def upperOf (c : Char) : List Char := expand upperSequences upperRuns c

/-- The one character that stands for `c` where case is ignored. -/
def fold (c : Char) : Char := (lowerOf c).headD c

/-- The first character of the upper case. -/
def unfold (c : Char) : Char := (upperOf c).headD c

/-- The nearest character that is not passed over has case. -/
def letterNext (s : List Char) : Bool :=
  match s.dropWhile ignorable.has with
  | [] => false
  | c :: _ => cased.has c

def capitalSigma : Char := 'Σ'
def sigma : Char := 'σ'
def finalSigma : Char := 'ς'

end Case

open Case

/-- `before` is the part already read, nearest character first. -/
def lowerFrom (before : List Char) : List Char → List Char
  | [] => []
  | c :: rest =>
    (if c = capitalSigma then
      [if letterNext before && !letterNext rest then finalSigma else sigma]
    else lowerOf c) ++ lowerFrom (c :: before) rest

def lower (s : List Char) : List Char := lowerFrom [] s

def upper (s : List Char) : List Char := s.flatMap upperOf

end MemoryAtlas.Text
