/-!
The maps that there are of each game.
-/

namespace MemoryAtlas

inductive MapKind where
  | ram | code | data | structs | enums
deriving DecidableEq

namespace MapKind

def all : List MapKind := [.ram, .code, .data, .structs, .enums]

def key : MapKind → String
  | .ram => "ram"
  | .code => "code"
  | .data => "data"
  | .structs => "structs"
  | .enums => "enums"

def ofKey? (key : String) : Option MapKind := all.find? fun m => m.key == key

theorem ofKey?_key (m : MapKind) : ofKey? m.key = some m := by
  cases m <;> decide

theorem key_of_ofKey? {key : String} {m : MapKind} (h : ofKey? key = some m) : m.key = key := by
  unfold ofKey? at h
  exact eq_of_beq (List.find?_some h :)

end MapKind

end MemoryAtlas
