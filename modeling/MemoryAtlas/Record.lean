import MemoryAtlas.Document.Integer

/-!
Records of data files and what can be wrong with them.
-/

namespace MemoryAtlas

/-- What a record holds, by key. -/
abbrev Record := List (Scalar × Document)

/-- What is wrong with the content of a record. -/
inductive Defect where
  | notPair (index length : Nat)
  | missing (key : String)
  | notInteger (why : NotInteger)
  | noVariant (key region : String)
  | notCategory (value : Document)
  | notMode (value : Document)

def Defect.message : Defect → String
  | .notPair index length =>
    "dictionary update sequence element #" ++ toString index ++ " has length " ++ toString length
      ++ "; 2 is required"
  | .missing key => Text.quote key
  | .notInteger why => why.message
  | .noVariant key region => "No " ++ key ++ " defined for region " ++ region
  | .notCategory value => value.inner ++ " is not a valid Category"
  | .notMode value => value.inner ++ " is not a valid CodeMode"

/-- Something that has the wrong shape: no record where one must be, nothing to go through, no text, no
key, or a label that has no place among others. -/
inductive Misshape where
  | entry | struct | field | enum | enumValue | var | items | type | key | label
deriving DecidableEq

inductive RecordFault where
  | defect (d : Defect)
  | misshape (m : Misshape)

namespace Record

def required (r : Record) (key : String) : Except RecordFault Document :=
  match r.lookup (.text key) with
  | some d => .ok d
  | none => .error (.defect (.missing key))

/-- A field that is left out counts as null. -/
def optional (r : Record) (key : String) : Document := (r.lookup (.text key)).getD .null

end Record

namespace Document

def toInt (d : Document) : Except RecordFault Int := d.integer.mapError fun why => .defect (.notInteger why)

def toRecord (m : Misshape) : Document → Except RecordFault Record
  | .record fields => .ok fields
  | _ => .error (.misshape m)

def toItems (d : Document) : Except RecordFault (List Document) :=
  match d.items? with
  | some items => .ok items
  | none => .error (.misshape .items)

/-- A key and a value: the two items of a list, characters of a text, or keys of a record. -/
def toPair (index : Nat) (d : Document) : Except RecordFault (Scalar × Document) :=
  match d.items? with
  | some [key, value] =>
    match key.scalar? with
    | some key => .ok (key, value)
    | none => .error (.misshape .key)
  | some items => .error (.defect (.notPair index items.length))
  | none => .error (.misshape .entry)

def toPairs : (index : Nat) → List Document → Except RecordFault (List (Scalar × Document))
  | _, [] => .ok []
  | index, d :: rest => do return (← d.toPair index) :: (← toPairs (index + 1) rest)

/-- Anything that holds pairs, one by one, can stand for a record. -/
def toFields : Document → Except RecordFault Record
  | .record fields => .ok fields
  | d =>
    match d.items? with
    | some items => do return Assoc.ofList (← toPairs 0 items)
    | none => .error (.misshape .entry)

end Document

end MemoryAtlas
