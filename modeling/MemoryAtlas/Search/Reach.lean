import MemoryAtlas.Search.Scope

/-!
What a search for text can reach, without regard to the order in which it looks. It starts from the names that an entry
has itself, and goes on to the names that the fields of defined structs have.
-/

namespace MemoryAtlas

/-- The document is a name. What amounts to nothing, like null or the empty text, is none. -/
def Document.Names (d : Document) (name : Scalar) : Prop := d = .scalar name ∧ name.isPresent = true

/-- The type is a struct of that name, however it is declared. -/
def TypeDecl.NamesStruct (t : TypeDecl) (name : Scalar) : Prop :=
  ∃ s, t.spec = .struct s ∧ s ≠ "" ∧ name = .text s

/-- A variable has the struct of its type, and the definition of a struct has its own label. -/
inductive Entry.NamesStruct : Entry → Scalar → Prop
  | var {v : Var} {name : Scalar} (h : v.type.NamesStruct name) : NamesStruct (.var v) name
  | data {d : Data} {name : Scalar} (h : d.type.NamesStruct name) : NamesStruct (.data d) name
  | field {f : Field} {name : Scalar} (h : f.type.NamesStruct name) : NamesStruct (.field f) name
  | struct {s : StructDef} {name : Scalar} (h : s.label.Names name) : NamesStruct (.struct s) name

/-- A variable has the enum of its values, and the definition of an enum has its own label. -/
inductive Entry.NamesEnum : Entry → Scalar → Prop
  | var {v : Var} {name : Scalar} (h : v.enum.Names name) : NamesEnum (.var v) name
  | data {d : Data} {name : Scalar} (h : d.enum.Names name) : NamesEnum (.data d) name
  | field {f : Field} {name : Scalar} (h : f.enum.Names name) : NamesEnum (.field f) name
  | enum {e : EnumDef} {name : Scalar} (h : e.label.Names name) : NamesEnum (.enum e) name

namespace Scope

/-- The struct names that an entry leads to by way of the fields of defined structs. -/
inductive ReachesStruct (scope : Scope) (e : Entry) : Scalar → Prop
  | own {name : Scalar} (hopt : scope.options.structs = true) (h : e.NamesStruct name) : ReachesStruct scope e name
  | field {owner name : Scalar} {s : StructDef} {f : Field} (ho : ReachesStruct scope e owner)
      (hs : scope.structs.find? owner = some s) (hf : f ∈ s.fields) (h : f.type.NamesStruct name) :
      ReachesStruct scope e name

/-- The enum names that an entry or a field of a struct in its reach has. -/
inductive ReachesEnum (scope : Scope) (e : Entry) : Scalar → Prop
  | own {name : Scalar} (hopt : scope.options.enums = true) (h : e.NamesEnum name) : ReachesEnum scope e name
  | field {owner name : Scalar} {s : StructDef} {f : Field} (hopt : scope.options.enums = true)
      (ho : scope.ReachesStruct e owner) (hs : scope.structs.find? owner = some s) (hf : f ∈ s.fields)
      (h : f.enum.Names name) : ReachesEnum scope e name

/-- A description that a search for an entry may look at. -/
inductive ReachesDesc (scope : Scope) (e : Entry) : Document → Prop
  | own : ReachesDesc scope e e.desc
  | field {owner : Scalar} {s : StructDef} {f : Field} (ho : scope.ReachesStruct e owner)
      (hs : scope.structs.find? owner = some s) (h : f ∈ s.fields) : ReachesDesc scope e f.desc
  | value {name : Scalar} {d : EnumDef} {v : EnumValue} (hn : scope.ReachesEnum e name)
      (hd : scope.enums.find? name = some d) (h : v ∈ d.vals) : ReachesDesc scope e v.desc

end Scope

end MemoryAtlas
