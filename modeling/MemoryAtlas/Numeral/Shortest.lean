/-!
Floating-point numbers of 64 bits, written with the fewest decimal digits that read back.
-/

namespace MemoryAtlas

structure Binary64 where
  bits : UInt64
deriving DecidableEq

namespace Binary64

def infinity (negative : Bool) : Binary64 := ⟨if negative then 0xFFF0000000000000 else 0x7FF0000000000000⟩

def zero (negative : Bool) : Binary64 := ⟨if negative then 0x8000000000000000 else 0⟩

/-- The number nearest to `digits * 10 ^ exponent`. Beyond 10 ^ 400 that is an infinity, and below
10 ^ -400 it is zero, so that no larger power is ever computed. -/
def ofDecimal (negative : Bool) (digits : Nat) (exponent : Int) : Binary64 :=
  let point := (Nat.toDigits 10 digits).length + exponent
  if digits = 0 ∨ point < -400 then zero negative
  else if 400 < point then infinity negative
  else
    let x := Float.ofScientific digits (exponent < 0) exponent.natAbs
    ⟨(if negative then -x else x).toBits⟩

def notANumber : Binary64 := ⟨0x7FF8000000000000⟩

def add (x y : Binary64) : Binary64 := ⟨(Float.ofBits x.bits + Float.ofBits y.bits).toBits⟩

def times (x : Binary64) (n : Nat) : Binary64 := ⟨(Float.ofBits x.bits * Float.ofNat n).toBits⟩

def negate (x : Binary64) : Binary64 := ⟨(-Float.ofBits x.bits).toBits⟩

def isNegative (x : Binary64) : Bool := x.bits.toNat / Nat.pow 2 63 = 1

def exponentBits (x : Binary64) : Nat := x.bits.toNat / Nat.pow 2 52 % Nat.pow 2 11

def fractionBits (x : Binary64) : Nat := x.bits.toNat % Nat.pow 2 52

def isFinite (x : Binary64) : Bool := x.exponentBits != Nat.pow 2 11 - 1

def isZero (x : Binary64) : Bool := x.exponentBits = 0 && x.fractionBits = 0

/-- A finite number is `significand * 2 ^ scale`, up to its sign. -/
def significand (x : Binary64) : Nat :=
  if x.exponentBits = 0 then x.fractionBits else Nat.pow 2 52 + x.fractionBits

def scale (x : Binary64) : Int := (max x.exponentBits 1 : Nat) - 1075

/-- How often the smallest positive number fits into a finite one. -/
def units (x : Binary64) : Int :=
  let n : Int := x.significand * Nat.pow 2 (x.scale + 1074).toNat
  if x.isNegative then -n else n

/-- The integer that the number is, if it is one. -/
def whole? (x : Binary64) : Option Int :=
  if x.isFinite && x.units % Nat.pow 2 1074 = 0 then some (x.units / Nat.pow 2 1074) else none

/-- The gap to the next smaller number is half the gap to the next larger one. -/
def isLopsided (x : Binary64) : Bool := x.fractionBits = 0 && 1 < x.exponentBits

/-- Compares `a * 10 ^ i` with `b * 2 ^ j`. -/
def compareScaled (a : Nat) (i : Int) (b : Nat) (j : Int) : Ordering :=
  compare (a * Nat.pow 10 i.toNat * Nat.pow 2 (-j).toNat) (b * Nat.pow 2 j.toNat * Nat.pow 10 (-i).toNat)

/-- `digits * 10 ^ exponent` is among the reals that are nearest to `x`; the ends of their interval
belong to it if the significand is even. -/
def readsBack (x : Binary64) (digits : Nat) (exponent : Int) : Bool :=
  let below := 4 * x.significand - (if x.isLopsided then 1 else 2)
  let above := 4 * x.significand + 2
  let even := x.significand % 2 = 0
  let low := compareScaled digits exponent below (x.scale - 2)
  let high := compareScaled digits exponent above (x.scale - 2)
  (low == .gt || even && low == .eq) && (high == .lt || even && high == .eq)

/-- The least `k` for which the number is below `10 ^ k`. -/
def magnitude (x : Binary64) : Int :=
  let num := x.significand * Nat.pow 2 x.scale.toNat
  let den := Nat.pow 2 (-x.scale).toNat
  if den ≤ num then (Nat.toDigits 10 (num / den)).length
  else -(((List.range 400).find? fun j => den ≤ num * Nat.pow 10 (j + 1)).getD 400 : Nat)

/-- The multiples of `10 ^ exponent` next to the number that read back, the nearer one first and,
at equal distance, the even one. -/
def neighbours (x : Binary64) (exponent : Int) : List Nat :=
  let num := x.significand * Nat.pow 2 x.scale.toNat * Nat.pow 10 (-exponent).toNat
  let den := Nat.pow 2 (-x.scale).toNat * Nat.pow 10 exponent.toNat
  let floor := num / den
  let twice := 2 * (num % den)
  let lowFirst := twice < den || twice = den && floor % 2 = 0
  (if lowFirst then [floor, floor + 1] else [floor + 1, floor]).filter fun d => x.readsBack d exponent

/-- The fewest digits that read back, and the power of ten of the last one. -/
def shortest (x : Binary64) : Nat × Int :=
  let found := (List.range 17).findSome? fun n =>
    let exponent := x.magnitude - (n + 1 : Nat)
    (x.neighbours exponent).head?.map fun d => (d, exponent)
  found.getD (x.significand, 0)

/-- Digits in front of the point for magnitudes from -3 to 16, otherwise an exponent with a sign and
at least two digits. `digits` follow the point if it is moved left by `point` places. -/
def layout (digits : List Char) (point : Int) : List Char :=
  if -4 < point ∧ point ≤ 0 then
    '0' :: '.' :: List.replicate (-point).toNat '0' ++ digits
  else if 0 < point ∧ point ≤ 16 then
    let whole := digits.take point.toNat
    let rest := digits.drop point.toNat
    whole ++ List.replicate (point.toNat - whole.length) '0' ++ '.' :: (if rest.isEmpty then ['0'] else rest)
  else
    let power := Nat.toDigits 10 (point - 1).natAbs
    let rest := digits.drop 1
    digits.take 1 ++ (if rest.isEmpty then [] else '.' :: rest) ++ 'e' :: (if point < 1 then '-' else '+')
      :: List.replicate (2 - power.length) '0' ++ power

def write (x : Binary64) : String :=
  let sign := if x.isNegative then ['-'] else []
  if x.isFinite then
    if x.isZero then String.ofList (sign ++ ['0', '.', '0'])
    else
      let (n, exponent) := x.shortest
      let digits := Nat.toDigits 10 n
      let trimmed := (digits.reverse.dropWhile (· == '0')).reverse
      String.ofList (sign ++ layout trimmed (digits.length + exponent))
  else if x.fractionBits = 0 then String.ofList (sign ++ ['i', 'n', 'f'])
  else "nan"

end Binary64

end MemoryAtlas
