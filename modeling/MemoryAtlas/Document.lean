import MemoryAtlas.Assoc
import MemoryAtlas.Scalar

/-!
Documents: the values that data files and settings files hold.
-/

namespace MemoryAtlas

/-- The fields of a record are in order of their first appearance and have different keys. -/
inductive Document where
  | scalar (value : Scalar)
  | list (items : List Document)
  | record (fields : List (Scalar × Document))

namespace Document

@[match_pattern] abbrev null : Document := .scalar .null

@[match_pattern] abbrev bool (b : Bool) : Document := .scalar (.bool b)

@[match_pattern] abbrev int (n : Int) : Document := .scalar (.int n)

@[match_pattern] abbrev float (x : Binary64) : Document := .scalar (.float x)

@[match_pattern] abbrev text (s : String) : Document := .scalar (.text s)

/-- Of fields with one key the first gives the place and the last the value. -/
def ofFields (fields : List (Scalar × Document)) : Document := .record (Assoc.ofList fields)

def scalar? : Document → Option Scalar
  | .scalar s => some s
  | _ => none

def asText? (d : Document) : Option String := d.scalar?.bind Scalar.asText?

/-- What can be gone through one by one: the items of a list, the characters of a text, the keys of a
record. -/
def items? : Document → Option (List Document)
  | .list items => some items
  | .text s => some (s.toList.map fun c => .text (String.singleton c))
  | .record fields => some (fields.map fun field => .scalar field.1)
  | _ => none

/-- What an optional value amounts to: nothing, no, zero and everything empty count as absent. -/
def isPresent : Document → Bool
  | .scalar s => s.isPresent
  | .list items => !items.isEmpty
  | .record fields => !fields.isEmpty

/-- What is absent in this sense is replaced. -/
def presentOr (d fallback : Document) : Document := if d.isPresent then d else fallback

mutual

def decEq : (a b : Document) → Decidable (a = b)
  | .scalar s, .scalar t => decidable_of_iff (s = t) (by simp)
  | .list xs, .list ys =>
    match decEqItems xs ys with
    | isTrue h => isTrue (by rw [h])
    | isFalse h => isFalse (by simpa using h)
  | .record xs, .record ys =>
    match decEqFields xs ys with
    | isTrue h => isTrue (by rw [h])
    | isFalse h => isFalse (by simpa using h)
  | .scalar _, .list _ | .scalar _, .record _ | .list _, .scalar _ | .list _, .record _
  | .record _, .scalar _ | .record _, .list _ => isFalse (by simp)

def decEqItems : (xs ys : List Document) → Decidable (xs = ys)
  | [], [] => isTrue rfl
  | [], _ :: _ | _ :: _, [] => isFalse (by simp)
  | x :: xs, y :: ys =>
    match decEq x y with
    | isFalse h => isFalse fun e => h (List.cons.inj e).1
    | isTrue h =>
      match decEqItems xs ys with
      | isTrue t => isTrue (by rw [h, t])
      | isFalse t => isFalse fun e => t (List.cons.inj e).2

def decEqFields : (xs ys : List (Scalar × Document)) → Decidable (xs = ys)
  | [], [] => isTrue rfl
  | [], _ :: _ | _ :: _, [] => isFalse (by simp)
  | (k, x) :: xs, (l, y) :: ys =>
    if hk : k = l then
      match decEq x y with
      | isFalse h => isFalse fun e => h (Prod.mk.inj (List.cons.inj e).1).2
      | isTrue h =>
        match decEqFields xs ys with
        | isTrue t => isTrue (by rw [hk, h, t])
        | isFalse t => isFalse fun e => t (List.cons.inj e).2
    else isFalse fun e => hk (Prod.mk.inj (List.cons.inj e).1).1

end

instance : DecidableEq Document := decEq

end Document

end MemoryAtlas
