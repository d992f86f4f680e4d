import MemoryAtlas.Proofs.Atlas.Reading
import MemoryAtlas.Proofs.Record.Region

/-!
Regions are kept apart: the entries of a map in one region, and the fault if there are none, do not depend on
what its records hold for other regions.
-/

namespace MemoryAtlas.Atlas

variable {files others : Archive} {path map region : String} {r s : Record}

theorem convert_congr (h : ∀ key : String, r.lookup (.text key) = s.lookup (.text key)) :
    convert map r = convert map s := by
  rw [convert, convert, Record.code_congr h, Record.data_congr h]

theorem readEntry_record (map region : String) (r : Record) :
    readEntry map region (.record r) = (do
      match ← (r.inRegion region).mapError .defect with
      | some settled => some <$> convert map settled
      | none => return none) := rfl

theorem readEntry_congr (h : Record.SameIn region Record.varyingKeys r s) :
    readEntry map region (.record r) = readEntry map region (.record s) := by
  rw [readEntry_record, readEntry_record]
  rcases h.inRegion with ⟨defect, hr, hs⟩ | ⟨hr, hs⟩ | ⟨r', s', hr, hs, hsame⟩
  · rw [hr, hs]
  · rw [hr, hs]
  · rw [hr, hs]
    have hconvert : convert map r' = convert map s' :=
      convert_congr fun key => hsame.fixed key List.not_mem_nil
    change some <$> convert map r' = some <$> convert map s'
    rw [hconvert]

/-- Records are counted whether they have an entry or not, so a fault is in the same place. -/
theorem readAll_congr {rs ss : List Record} (h : List.Forall₂ (Record.SameIn region Record.varyingKeys) rs ss)
    (path map : String) (index : Nat) :
    readAll path map region index (rs.map .record) = readAll path map region index (ss.map .record) := by
  induction h generalizing index with
  | nil => rfl
  | cons hsame _ ih => rw [List.map_cons, List.map_cons, readAll, readAll, readEntry_congr hsame, ih]

theorem readEntries_of_records {items : List Document} (h : records files path = .ok items)
    (map region : String) : readEntries files path map region =
      (fun read => read.mergeSort ascending) <$> readAll path map region 0 items := by
  rw [readEntries, h]
  rfl

/-- If two files list records that are the same in a region, one by one, then the same entries are read from
both of them there, in the same order, or both have the same fault in the same record. -/
theorem readEntries_eq_of_sameIn {rs ss : List Record} (hrs : records files path = .ok (rs.map .record))
    (hss : records others path = .ok (ss.map .record))
    (h : List.Forall₂ (Record.SameIn region Record.varyingKeys) rs ss) :
    readEntries files path map region = readEntries others path map region := by
  rw [readEntries_of_records hrs, readEntries_of_records hss, readAll_congr h]

/-- The first record has an address in the western region, the second one does not, and the third has no count
there. -/
def western : List Record :=
  [[(.text "addr", .record [(.text "U", .int 32), (.text "E", .text "0x10")]), (.text "type", .text "u8"),
      (.text "count", .int 2)],
    [(.text "addr", .record [(.text "E", .int 64)]), (.text "type", .int 5)],
    [(.text "addr", .int 16), (.text "type", .text "u16"), (.text "count", .record [(.text "E", .int 4)])]]

/-- The records with other values for the other regions. -/
def westernRevised : List Record :=
  [[(.text "addr", .record [(.text "J", .null), (.text "U", .int 32)]), (.text "type", .text "u8"),
      (.text "count", .int 2)],
    [(.text "addr", .record []), (.text "type", .int 5)],
    [(.text "addr", .int 16), (.text "type", .text "u16"), (.text "count", .record [(.text "J", .text "many")])]]

/-- The records with a count in the western region for the third one. -/
def westernCounted : List Record :=
  western.take 2 ++ [[(.text "addr", .int 16), (.text "type", .text "u16"),
    (.text "count", .record [(.text "U", .int 3), (.text "E", .int 4)])]]

/-- The records with other values for the other regions and the count. -/
def westernRecounted : List Record :=
  westernRevised.take 2 ++ [[(.text "addr", .int 16), (.text "type", .text "u16"),
    (.text "count", .record [(.text "J", .text "many"), (.text "U", .int 3)])]]

def westernEntry (addr count : Int) (type : Prim) : Entry :=
  .data {
    label := .text "", desc := .text "", notes := .null, type := ⟨.prim type, none⟩, count, category := none,
    enum := .null, addr }

theorem sameIn_western_take :
    List.Forall₂ (Record.SameIn "U" Record.varyingKeys) (western.take 2) (westernRevised.take 2) := by
  have hnil := Record.sameIn_nil "U" Record.varyingKeys
  have haddr : "addr" ∈ Record.varyingKeys := by decide
  refine .cons ?_ (.cons ?_ .nil)
  · exact .cons (.cons (.cons hnil (.inl rfl)) (.inl rfl)) (.inr ⟨haddr, .variants rfl⟩)
  · exact .cons (.cons hnil (.inl rfl)) (.inr ⟨haddr, .variants rfl⟩)

/-- Without a count in the region the same fault is found in both files, and with one the same two entries are read
from both of them. -/
theorem readEntries_eq_of_sameIn_western :
    let files : Archive := [("ram.json", .document (.list (western.map .record)))]
    let others : Archive := [("ram.json", .document (.list (westernRevised.map .record)))]
    let counted : Archive := [("ram.json", .document (.list (westernCounted.map .record)))]
    let recounted : Archive := [("ram.json", .document (.list (westernRecounted.map .record)))]
    (records files "ram.json" = .ok (western.map .record) ∧
      records others "ram.json" = .ok (westernRevised.map .record) ∧
      List.Forall₂ (Record.SameIn "U" Record.varyingKeys) western westernRevised ∧
      readEntries files "ram.json" "ram" "U" = .error (.record 2 "ram.json" (.noVariant "count" "U")) ∧
      readEntries others "ram.json" "ram" "U" = .error (.record 2 "ram.json" (.noVariant "count" "U"))) ∧
    records counted "ram.json" = .ok (westernCounted.map .record) ∧
      records recounted "ram.json" = .ok (westernRecounted.map .record) ∧
      List.Forall₂ (Record.SameIn "U" Record.varyingKeys) westernCounted westernRecounted ∧
      readEntries counted "ram.json" "ram" "U" = .ok [westernEntry 16 3 .u16, westernEntry 32 2 .u8] ∧
      readEntries recounted "ram.json" "ram" "U" = .ok [westernEntry 16 3 .u16, westernEntry 32 2 .u8] := by
  intro files others counted recounted
  have hcount : "count" ∈ Record.varyingKeys := by decide
  have hsame (count other : Document) (h : count.SameIn "U" other) :
      List.Forall₂ (Record.SameIn "U" Record.varyingKeys)
        (western.take 2 ++ [[(.text "addr", .int 16), (.text "type", .text "u16"), (.text "count", count)]])
        (westernRevised.take 2 ++
          [[(.text "addr", .int 16), (.text "type", .text "u16"), (.text "count", other)]]) := by
    refine List.rel_append sameIn_western_take (.cons ?_ .nil)
    refine .cons (.cons (.cons (Record.sameIn_nil _ _) ?_) (.inl rfl)) (.inl rfl)
    exact .inr ⟨hcount, h⟩
  constructor
  · have hfiles : records files "ram.json" = .ok (western.map .record) := rfl
    have hothers : records others "ram.json" = .ok (westernRevised.map .record) := rfl
    have hwestern : List.Forall₂ (Record.SameIn "U" Record.varyingKeys) western westernRevised :=
      hsame _ _ (.variants rfl)
    have hfault : readEntries files "ram.json" "ram" "U" = .error (.record 2 "ram.json" (.noVariant "count" "U")) := rfl
    refine ⟨hfiles, hothers, hwestern, hfault, ?_⟩
    rw [← readEntries_eq_of_sameIn hfiles hothers hwestern, hfault]
  · have hfiles : records counted "ram.json" = .ok (westernCounted.map .record) := rfl
    have hothers : records recounted "ram.json" = .ok (westernRecounted.map .record) := rfl
    have hwestern : List.Forall₂ (Record.SameIn "U" Record.varyingKeys) westernCounted westernRecounted :=
      hsame _ _ (.variants rfl)
    have hread : readAll "ram.json" "ram" "U" 0 (westernCounted.map .record) =
        .ok [westernEntry 32 2 .u8, westernEntry 16 3 .u16] := rfl
    have hsort : [westernEntry 32 2 .u8, westernEntry 16 3 .u16].mergeSort ascending =
        [westernEntry 16 3 .u16, westernEntry 32 2 .u8] :=
      mergeSort_eq_of_perm (by decide +kernel) (by decide +kernel)
    have hentries : readEntries counted "ram.json" "ram" "U" =
        .ok [westernEntry 16 3 .u16, westernEntry 32 2 .u8] := by
      rw [readEntries_of_records hfiles, hread, ← hsort]
      rfl
    refine ⟨hfiles, hothers, hwestern, hentries, ?_⟩
    rw [← readEntries_eq_of_sameIn hfiles hothers hwestern, hentries]

end MemoryAtlas.Atlas
