import MemoryAtlas.Document.Display
import MemoryAtlas.Entry

/-!
Sizes of types and lengths of variables, as far as the struct table and the declarators tell them.
-/

namespace MemoryAtlas

/-- A struct that is not in the table was asked for. -/
structure UnknownStruct where
  name : Scalar
deriving DecidableEq

def UnknownStruct.message (fault : UnknownStruct) : String := "Invalid struct name " ++ fault.name.display

namespace Layout

def pointerSize : Int := 4

def specSize (structs : StructTable) : Spec → Except UnknownStruct Int
  | .prim p => .ok p.size
  | .struct name =>
    match structs.find? (.text name) with
    | some s => .ok s.size
    | none => .error ⟨.text name⟩

/-- Every dimension of the inner declarator counts. Without readable dimensions there is no size, and
then nothing else is asked. -/
def itemSize (structs : StructTable) (t : TypeDecl) : Except UnknownStruct (Option Int) :=
  match t.dims with
  | none => .ok none
  | some dims => do
    let base ← if t.isPointer then .ok pointerSize else specSize structs t.spec
    return some (dims.foldl (fun size (dim : Nat) => size * dim) base)

def itemCount (v : Var) : Int := v.count.getD 1

def totalLength (structs : StructTable) (v : Var) : Except UnknownStruct (Option Int) := do
  let size ← itemSize structs v.type
  return size.map (· * itemCount v)

def sizeText : Option Int → String
  | some n => Hex.write n
  | none => "?"

/-- The size of one item and the number of items, unless that is one. -/
def lengthTooltip (structs : StructTable) (v : Var) : Except UnknownStruct String :=
  if itemCount v = 1 then .ok ""
  else do
    let size ← itemSize structs v.type
    return "Size: " ++ sizeText size ++ "\nCount: " ++ Hex.write (itemCount v)

end Layout

end MemoryAtlas
