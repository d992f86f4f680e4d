import MemoryAtlas.Record

/-!
Records with variants: address, count and size may differ from region to region.
-/

namespace MemoryAtlas

/-- A value that is the same everywhere, or the variant for a region. -/
def Document.variant (region : String) : Document → Option Document
  | .record variants => variants.lookup (.text region)
  | d => some d

namespace Record

/-- Puts the variant for the region in the place of all variants. -/
def settle (region key : String) (r : Record) : Option Record :=
  match r.lookup (.text key) with
  | some d => (d.variant region).map fun value => Assoc.put (.text key) value r
  | none => some r

def settleOrFail (region key : String) (r : Record) : Except Defect Record :=
  match r.settle region key with
  | some r => .ok r
  | none => .error (.noVariant key region)

/-- The record as it is in a region. Without an address there it is left out, whatever else it holds. -/
def inRegion (region : String) (r : Record) : Except Defect (Option Record) :=
  match r.settle region "addr" with
  | none => .ok none
  | some r => do return some (← (← r.settleOrFail region "count").settleOrFail region "size")

end Record

end MemoryAtlas
