import MemoryAtlas.Text.Quoted

/-!
The columns that tables are made of.
-/

namespace MemoryAtlas

inductive Column where
  | addr | cat | desc | label | length | notes | offset | params | ret | size | type | val | vals | vars
deriving DecidableEq

namespace Column

def all : List Column :=
  [.addr, .cat, .desc, .label, .length, .notes, .offset, .params, .ret, .size, .type, .val, .vals, .vars]

def key : Column → String
  | .addr => "addr"
  | .cat => "cat"
  | .desc => "desc"
  | .label => "label"
  | .length => "length"
  | .notes => "notes"
  | .offset => "offset"
  | .params => "params"
  | .ret => "return"
  | .size => "size"
  | .type => "type"
  | .val => "val"
  | .vals => "vals"
  | .vars => "vars"

def heading : Column → String
  | .addr => "Address"
  | .cat => "Category"
  | .desc => "Description"
  | .label => "Label"
  | .length => "Length"
  | .notes => "Notes"
  | .offset => "Offset"
  | .params => "Arguments"
  | .ret => "Returns"
  | .size => "Size"
  | .type => "Type"
  | .val => "Value"
  | .vals => "Values"
  | .vars => "Variables"

/-- No column has the key. -/
structure Unknown where
  key : String
deriving DecidableEq

def Unknown.message (fault : Unknown) : String := Text.quote fault.key

def ofKey (key : String) : Except Unknown Column :=
  match all.find? fun c => c.key == key with
  | some c => .ok c
  | none => .error ⟨key⟩

theorem ofKey_key (c : Column) : ofKey c.key = .ok c := by
  cases c <;> rfl

end Column

end MemoryAtlas
