import MemoryAtlas.Assoc
import MemoryAtlas.Scalar

/-!
Tables of definitions by label, in the order in which the labels first came.
-/

namespace MemoryAtlas

structure Table (α : Type) where
  entries : List (Scalar × α)
  distinct : Assoc.Distinct entries

namespace Table

variable {α : Type}

def empty : Table α := ⟨[], Assoc.distinct_nil⟩

def put (t : Table α) (label : Scalar) (definition : α) : Table α :=
  ⟨Assoc.put label definition t.entries, Assoc.distinct_put label definition t.distinct⟩

/-- Later definitions of one label take the place of earlier ones; those without a label have no place. -/
def ofList (label? : α → Option Scalar) (definitions : List α) : Table α :=
  definitions.foldl (fun t d => ((label? d).map fun label => t.put label d).getD t) empty

def labels (t : Table α) : List Scalar := Assoc.keys t.entries

def definitions (t : Table α) : List α := t.entries.map Prod.snd

def find? (t : Table α) (name : Scalar) : Option α := t.entries.lookup name

def has (t : Table α) (name : Scalar) : Bool := (t.find? name).isSome

end Table

end MemoryAtlas
