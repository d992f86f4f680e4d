import MemoryAtlas.Layout
import MemoryAtlas.View.Column

/-!
The cells of an entry and the tooltips on them. A row can always be shown: a length that cannot be told
is a question mark.
-/

namespace MemoryAtlas

def categoryTitle (v : Var) : String := (v.category.map Category.title).getD ""

def Layout.lengthText (structs : StructTable) (v : Var) : String :=
  match totalLength structs v with
  | .ok length => sizeText length
  | .error _ => sizeText none

def Var.cells (structs : StructTable) (v : Var) : List (Column × String) :=
  [(.length, Layout.lengthText structs v), (.type, v.typeText), (.cat, categoryTitle v)]

namespace Entry

/-- The cells that entries of one kind have in addition to description, label and notes. -/
def ownCells (structs : StructTable) : Entry → List (Column × String)
  | .var v => v.cells structs
  | .data d => (.addr, Hex.write d.addr) :: d.toVar.cells structs
  | .field f => (.offset, Hex.write f.offset) :: f.toVar.cells structs
  | .code c =>
    [(.addr, Hex.write c.addr), (.length, Hex.write c.size),
     (.params, String.intercalate ", " (c.params.map Var.typeText)),
     (.ret, (c.ret.map Var.typeText).getD "")]
  | .enumValue v => [(.val, Hex.write v.val)]
  | .struct s => [(.size, Hex.write s.size)]
  | .enum _ => []

/-- Description and label are shown as they are, even if they are null. -/
def row (structs : StructTable) (e : Entry) : List (Column × Document) :=
  [(.desc, e.desc), (.label, e.label), (.notes, e.caption.notes.presentOr (.text ""))]
    ++ (e.ownCells structs).map fun cell => (cell.1, .text cell.2)

def cell? (structs : StructTable) (e : Entry) (c : Column) : Option Document := (e.row structs).lookup c

end Entry

/-- The address of the last byte. -/
def Code.endTooltip (c : Code) : String := "Ends at " ++ Hex.write (c.addr + c.size - 1)

/-- Where a member of the struct at the address lies; nothing if that is not known. -/
def Field.offsetTooltip (f : Field) : Option Int → String
  | some parent => "Address: " ++ Hex.write (parent + f.offset)
  | none => ""

/-- The length has no tooltip if its struct is unknown. -/
def Var.tooltips (structs : StructTable) (v : Var) : List (Column × String) :=
  (match Layout.lengthTooltip structs v with
    | .ok tip => [(.length, tip)]
    | .error _ => [])
  ++ [(.type, Spec.description v.type.spec.name)]

namespace Entry

def allTooltips (structs : StructTable) (parent : Option Int) : Entry → List (Column × String)
  | .code c => [(.addr, c.endTooltip)]
  | .data d => d.toVar.tooltips structs
  | .field f => f.toVar.tooltips structs ++ [(.offset, f.offsetTooltip parent)]
  | _ => []

/-- Empty tooltips are left out. -/
def tooltips (structs : StructTable) (parent : Option Int) (e : Entry) : List (Column × String) :=
  (e.allTooltips structs parent).filter fun tip => tip.2 != ""

end Entry

end MemoryAtlas
