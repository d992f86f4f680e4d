import MemoryAtlas.Moment
import MemoryAtlas.Numeral.Shortest

/-!
Scalars: values that hold no other values. They are what records and tables have for keys.
-/

namespace MemoryAtlas

inductive Scalar where
  | null
  | bool (b : Bool)
  | int (n : Int)
  | float (x : Binary64)
  | text (s : String)
  | moment (m : Moment)
deriving DecidableEq

namespace Scalar

/-- Truth values count as zero and one. -/
def whole? : Scalar → Option Int
  | .bool b => some (if b then 1 else 0)
  | .int n => some n
  | .float x => x.whole?
  | _ => none

/-- What a scalar is as a key. -/
def index (s : Scalar) : Scalar :=
  match s.whole? with
  | some n => .int n
  | none => s

/-- Numbers are one key if they are equal, however they are written: `1`, `true` and `1.0` are the same. -/
instance : BEq Scalar := ⟨fun a b => decide (a.index = b.index)⟩

theorem beq_iff {a b : Scalar} : (a == b) = true ↔ a.index = b.index := decide_eq_true_iff

instance : EquivBEq Scalar where
  rfl := beq_iff.mpr rfl
  symm h := beq_iff.mpr (beq_iff.mp h).symm
  trans h₁ h₂ := beq_iff.mpr ((beq_iff.mp h₁).trans (beq_iff.mp h₂))

theorem text_beq_text (s t : String) : (Scalar.text s == Scalar.text t) = (s == t) := by
  rw [Bool.eq_iff_iff, beq_iff]
  simp [index, whole?]

def asText? : Scalar → Option String
  | .text s => some s
  | _ => none

/-- What an optional value amounts to: nothing, no, zero and the empty text count as absent. -/
def isPresent : Scalar → Bool
  | .null => false
  | .bool b => b
  | .int n => n != 0
  | .float x => !x.isZero
  | .text s => s != ""
  | .moment _ => true

/-- A number in units of the smallest positive one. Infinities are beyond all numbers that are read. -/
def magnitude? : Scalar → Option Int
  | .float x =>
    if x.isFinite then some x.units
    else some (if x.isNegative then -Nat.pow 10 5000 else Nat.pow 10 5000)
  | s => s.whole?.map (· * Nat.pow 2 1074)

/-- Two numbers or two texts have an order; texts go by their code points. -/
def le? (a b : Scalar) : Option Bool :=
  match a.magnitude?, b.magnitude? with
  | some m, some n => some (m ≤ n)
  | _, _ => do return (← a.asText?) ≤ (← b.asText?)

end Scalar

end MemoryAtlas
