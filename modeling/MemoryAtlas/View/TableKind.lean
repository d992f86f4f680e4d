import MemoryAtlas.MapKind
import MemoryAtlas.View.Column

/-!
The kinds of tables: one for each map, one for the members of a struct and one for the values of an
enum.
-/

namespace MemoryAtlas

inductive TableKind where
  | nothing | ram | code | data | structs | enums | members | values
deriving DecidableEq

namespace TableKind

def all : List TableKind := [.nothing, .ram, .code, .data, .structs, .enums, .members, .values]

def ofMap : MapKind → TableKind
  | .ram => .ram
  | .code => .code
  | .data => .data
  | .structs => .structs
  | .enums => .enums

/-- There is nothing to show of a map that does not exist. -/
def ofMapKey (key : String) : TableKind := ((MapKind.ofKey? key).map ofMap).getD .nothing

def columns : TableKind → List Column
  | .nothing => []
  | .ram | .data => [.addr, .length, .desc, .cat, .type, .label, .notes]
  | .code => [.addr, .length, .desc, .label, .params, .ret, .notes]
  | .structs => [.desc, .label, .size, .notes]
  | .enums => [.desc, .label, .notes]
  | .members => [.offset, .length, .desc, .cat, .type, .label, .notes]
  | .values => [.val, .desc, .label, .notes]

/-- The columns that a user may hide. -/
def hideable : TableKind → List Column
  | .ram | .data => [.length, .cat, .type, .label, .notes]
  | .code => [.length, .label, .params, .ret, .notes]
  | .structs => [.label, .size, .notes]
  | .enums => [.label, .notes]
  | .nothing | .members | .values => []

end TableKind

end MemoryAtlas
