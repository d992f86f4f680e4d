import MemoryAtlas.Checked
import MemoryAtlas.Layout

/-!
Checking that what entries refer to is defined. A struct that is not defined is a fault, an enum that
is not defined only gives a warning.
-/

namespace MemoryAtlas

/-- A variable refers to an enum that is not in the table. -/
structure UnknownEnum where
  name : Scalar
  label : Document
deriving DecidableEq

def UnknownEnum.message (w : UnknownEnum) : String :=
  "Unknown enum '" ++ w.name.display ++ "' referenced by '" ++ w.label.display ++ "'"

namespace References

/-- A reference that leads nowhere, or one to an enum that can be no name. -/
inductive Fault where
  | struct (fault : UnknownStruct)
  | noName
deriving DecidableEq

def Fault.message : Fault → String
  | .struct fault => fault.message
  | .noName => "The name of an enum can be no key"

/-- An entry that is a variable itself, or the parameters of a function and what it returns. -/
def typedVars : Entry → List Var
  | .code c => c.params ++ c.ret.toList
  | e => e.var?.toList

/-- The variables of the entries, and then the fields of all structs, used or not. -/
def all (entries : List Entry) (structs : StructTable) : List Var :=
  entries.flatMap typedVars ++ structs.definitions.flatMap fun s => s.fields.map fun f => f.toVar

def undefinedStruct? (structs : StructTable) (v : Var) : Option Scalar :=
  (v.type.spec.structName?.map Scalar.text).filter fun name => !structs.has name

def undefinedEnum? (enums : EnumTable) (v : Var) : Option UnknownEnum :=
  (v.enum.name?.filter fun name => !enums.has name).map fun name => ⟨name, v.label⟩

/-- Lists and records are no names, unless they are empty. -/
def hasName (v : Var) : Bool := !v.enum.isPresent || v.enum.scalar?.isSome

/-- The first variable with an undefined struct ends the check. -/
def check (structs : StructTable) (enums : EnumTable) : List Var → Checked UnknownEnum Fault Unit
  | [] => .ok ()
  | v :: rest =>
    match undefinedStruct? structs v with
    | some name => .error (.struct ⟨name⟩)
    | none =>
      if hasName v then (check structs enums rest).warn (undefinedEnum? enums v).toList
      else .error .noName

end References

end MemoryAtlas
