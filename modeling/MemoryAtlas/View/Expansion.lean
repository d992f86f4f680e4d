import MemoryAtlas.View.TableKind
import MemoryAtlas.Entry

/-!
The tables behind rows, and ways through them. A row that refers to an enum or a struct opens into the values or
members, and members carry the address that their offsets count from as far as it is known; a row of that table may open
again, and so on.
-/

namespace MemoryAtlas

structure Expansion where
  kind : TableKind
  entries : List Entry
  parent : Option Int
deriving DecidableEq

namespace Expansion

def ofStruct (s : StructDef) (parent : Option Int) : Expansion :=
  ⟨.members, s.fields.map .field, parent⟩

def ofEnum (e : EnumDef) (parent : Option Int) : Expansion := ⟨.values, e.vals.map .enumValue, parent⟩

/-- An enum goes before the struct, even one that is not defined. -/
def ofVar (structs : StructTable) (enums : EnumTable) (v : Var) (parent : Option Int) : Option Expansion :=
  match v.enum with
  | .null => (v.type.structRef.bind structs.find?).map fun s => ofStruct s parent
  | d => (d.scalar?.bind enums.find?).map fun e => ofEnum e parent

end Expansion

/-- Where the first byte of a row lies, if its table tells. -/
def Entry.start (parent : Option Int) : Entry → Option Int
  | .data d => some d.addr
  | .field f => parent.map (· + f.offset)
  | _ => none

/-- The table behind the row of an entry in a table with the parent address. -/
def Entry.expansion (structs : StructTable) (enums : EnumTable) (parent : Option Int) (e : Entry) :
    Option Expansion :=
  match e with
  | .struct s => some (.ofStruct s none)
  | .enum d => some (.ofEnum d none)
  | .data d => Expansion.ofVar structs enums d.toVar (e.start parent)
  | .field f => Expansion.ofVar structs enums f.toVar (e.start parent)
  | _ => none

/-- Opening the row of an entry in a table with the parent address, and then the rows of the path one after
the other, each in the table that has just been opened, leads to the last table. -/
inductive Entry.Opens (structs : StructTable) (enums : EnumTable) :
    Option Int → Entry → List Entry → Expansion → Prop
  | here {parent : Option Int} {e : Entry} {x : Expansion} (hx : e.expansion structs enums parent = some x) :
      Opens structs enums parent e [] x
  | further {parent : Option Int} {e inner : Entry} {x y : Expansion} {path : List Entry}
      (hx : e.expansion structs enums parent = some x) (hinner : inner ∈ x.entries)
      (hpath : Opens structs enums x.parent inner path y) : Opens structs enums parent e (inner :: path) y

end MemoryAtlas
