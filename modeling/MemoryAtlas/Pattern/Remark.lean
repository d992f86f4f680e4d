import MemoryAtlas.Text.Quoted

/-!
What is noted about an expression that can be read and may yet mean something else than it seems to.
Places count its characters from the front.
-/

namespace MemoryAtlas.Pattern

/-- Operations on sets, for which doubled characters are kept. -/
inductive SetOperation where
  | difference | intersection | symmetricDifference | union
deriving DecidableEq

namespace SetOperation

def ofChar? : Char → Option SetOperation
  | '-' => some .difference
  | '&' => some .intersection
  | '~' => some .symmetricDifference
  | '|' => some .union
  | _ => none

def name : SetOperation → String
  | .difference => "difference"
  | .intersection => "intersection"
  | .symmetricDifference => "symmetric difference"
  | .union => "union"

end SetOperation

/-- A set that begins with a bracket, a doubled character inside a set, and the number of a group that is
not written with plain digits alone. -/
inductive Remark where
  | nestedSet (place : Nat)
  | setOperation (operation : SetOperation) (place : Nat)
  | groupNumber (numeral : List Char) (place : Nat)
deriving DecidableEq

def Remark.message : Remark → String
  | .nestedSet place => "Possible nested set at position " ++ toString place
  | .setOperation operation place => "Possible set " ++ operation.name ++ " at position " ++ toString place
  | .groupNumber numeral place =>
    "bad character in group name " ++ String.ofList (Text.quoted numeral) ++ " at position " ++
      toString place

end MemoryAtlas.Pattern
