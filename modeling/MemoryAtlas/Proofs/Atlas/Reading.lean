import MemoryAtlas.Atlas
import MemoryAtlas.Proofs.Record
import MemoryAtlas.Proofs.References
import MemoryAtlas.Proofs.Search.Window
import Mathlib.Data.List.Nodup

/-!
What is known of an atlas that has been loaded. Its entries come from the records of one file, or are the
definitions of one table; they are in order, and what they and all members refer to is defined (`Sound`).
-/

namespace MemoryAtlas

namespace Archive

variable {files : Archive} {path : String}

/-- The documents in the files. -/
def Holds (files : Archive) (d : Document) : Prop :=
  ∃ file ∈ files, file.2 = .document d ∨ ∃ s, file.2 = .text s ∧ Json.read s = .ok d

theorem exists_of_content {c : Content} (h : files.content path = .ok c) : ∃ file ∈ files, file.2 = c := by
  unfold content at h
  by_cases hnul : path.toList.contains '\x00' = true
  · rw [if_pos hnul] at h
    cases h
  · rw [if_neg hnul] at h
    by_cases hlong : longestPath < path.utf8ByteSize
    · rw [if_pos hlong] at h
      cases h
    · rw [if_neg hlong] at h
      obtain ⟨place, -, h⟩ := Fallible.bind_eq_ok.mp h
      split at h
      · next file hfile =>
        cases h
        have hmem := List.mem_of_find?_eq_some hfile
        split at hmem
        · exact absurd hmem List.not_mem_nil
        · exact ⟨file, hmem, rfl⟩
      · cases h

theorem holds_of_document {d : Document} (h : files.document path = .ok d) : files.Holds d := by
  obtain ⟨c, hc, h⟩ := Fallible.bind_eq_ok.mp h
  obtain ⟨file, hfile, rfl⟩ := exists_of_content hc
  refine ⟨file, hfile, ?_⟩
  split at h
  · next hd =>
    cases h
    exact .inl hd
  · next s hs => exact .inr ⟨s, hs, Fallible.mapError_eq_ok.mp h⟩

end Archive

namespace Atlas

variable {files : Archive} {root path map region : String} {s : Selection} {atlas : Atlas}
  {entries : List Entry} {e : Entry} {items : List Document} {d : Document}

theorem holds_of_records (h : records files path = .ok items) : files.Holds (.list items) := by
  unfold records at h
  split at h
  · next hd =>
    cases h
    exact Archive.holds_of_document hd
  · cases h
  · cases h

/-! Definitions -/

theorem eq_of_keyed {α : Type} {caption : α → Caption} {a b : α} (h : keyed caption a = .ok b) : a = b := by
  unfold keyed at h
  split at h <;> cases h
  rfl

theorem readStruct_eq_ok {defn : StructDef} (h : readStruct d = .ok defn) :
    ∃ r : Record, d = .record r ∧ r.struct = .ok defn := by
  obtain ⟨r, hr, h⟩ := Fallible.bind_eq_ok.mp h
  obtain ⟨a, ha, h⟩ := Fallible.bind_eq_ok.mp h
  obtain rfl := eq_of_keyed h
  exact ⟨r, Record.toRecord_eq_ok (Fallible.mapError_eq_ok.mp hr), Fallible.mapError_eq_ok.mp ha⟩

theorem readEnum_eq_ok {defn : EnumDef} (h : readEnum d = .ok defn) :
    ∃ r : Record, d = .record r ∧ r.enum = .ok defn := by
  obtain ⟨r, hr, h⟩ := Fallible.bind_eq_ok.mp h
  obtain ⟨a, ha, h⟩ := Fallible.bind_eq_ok.mp h
  obtain rfl := eq_of_keyed h
  exact ⟨r, Record.toRecord_eq_ok (Fallible.mapError_eq_ok.mp hr), Fallible.mapError_eq_ok.mp ha⟩

/-- Each definition of a table that is read from a file comes from a document there, and it is found by its
label. -/
theorem table_eq_ok {α : Type} {label? : α → Option Scalar} {readOne : Document → Except Fault α} {t : Table α}
    (h : (do return Table.ofList label? (← (← records files path).mapM readOne)) = Except.ok t) :
    ∃ items, files.Holds (.list items) ∧ ∀ defn ∈ t.definitions,
      (∃ d ∈ items, readOne d = .ok defn) ∧ ∃ label, label? defn = some label ∧ t.has label = true := by
  obtain ⟨items, hitems, h⟩ := Fallible.bind_eq_ok.mp h
  obtain ⟨found, hfound, h⟩ := Fallible.bind_eq_ok.mp h
  cases h
  refine ⟨items, holds_of_records hitems, fun defn hdef => ⟨?_, Table.has_of_mem_definitions hdef⟩⟩
  exact Traversal.exists_of_mem_mapM hfound defn (Table.mem_of_mem_definitions hdef)

theorem readStructs_eq_ok {structs : StructTable} (h : readStructs files path = .ok structs) :
    ∃ items, files.Holds (.list items) ∧ ∀ defn ∈ structs.definitions,
      (∃ r : Record, .record r ∈ items ∧ r.struct = .ok defn) ∧
        ∃ label, defn.label.scalar? = some label ∧ structs.has label = true := by
  obtain ⟨items, hholds, hdefs⟩ := table_eq_ok h
  refine ⟨items, hholds, fun defn hdef => ?_⟩
  obtain ⟨⟨d, hd, hread⟩, hlabel⟩ := hdefs defn hdef
  obtain ⟨r, rfl, hr⟩ := readStruct_eq_ok hread
  exact ⟨⟨r, hd, hr⟩, hlabel⟩

theorem readEnums_eq_ok {enums : EnumTable} (h : readEnums files path = .ok enums) :
    ∃ items, files.Holds (.list items) ∧ ∀ defn ∈ enums.definitions,
      (∃ r : Record, .record r ∈ items ∧ r.enum = .ok defn) ∧
        ∃ label, defn.label.scalar? = some label ∧ enums.has label = true := by
  obtain ⟨items, hholds, hdefs⟩ := table_eq_ok h
  refine ⟨items, hholds, fun defn hdef => ?_⟩
  obtain ⟨⟨d, hd, hread⟩, hlabel⟩ := hdefs defn hdef
  obtain ⟨r, rfl, hr⟩ := readEnum_eq_ok hread
  exact ⟨⟨r, hd, hr⟩, hlabel⟩

/-! Entries of a file -/

/-- Functions are what the code map has, and nothing else. -/
theorem convert_eq_ok {r : Record} (h : convert map r = .ok e) :
    e.caption = r.caption ∧
      ((map = MapKind.code.key ∧ ∃ c, e = .code c) ∨ (map ≠ MapKind.code.key ∧ ∃ d, e = .data d)) := by
  unfold convert at h
  split at h
  · next hmap =>
    obtain ⟨c, hc, rfl⟩ := Fallible.map_eq_ok.mp h
    exact ⟨Record.caption_of_code hc, .inl ⟨hmap, c, rfl⟩⟩
  · next hmap =>
    obtain ⟨d, hd, rfl⟩ := Fallible.map_eq_ok.mp h
    exact ⟨Record.caption_of_data hd, .inr ⟨hmap, d, rfl⟩⟩

theorem readEntry_eq_ok (h : readEntry map region d = .ok (some e)) :
    ∃ r settled, d.toFields = .ok r ∧ r.inRegion region = .ok (some settled) ∧ convert map settled = .ok e := by
  obtain ⟨r, hr, h⟩ := Fallible.bind_eq_ok.mp h
  obtain ⟨settled?, hsettled, h⟩ := Fallible.bind_eq_ok.mp h
  split at h
  · next settled =>
    obtain ⟨a, ha, he⟩ := Fallible.map_eq_ok.mp h
    cases he
    exact ⟨r, settled, hr, Fallible.mapError_eq_ok.mp hsettled, ha⟩
  · cases h

theorem exists_of_mem_readAll {index : Nat} (h : readAll path map region index items = .ok entries) :
    ∀ e ∈ entries, ∃ d ∈ items, readEntry map region d = .ok (some e) := by
  induction items generalizing index entries with
  | nil =>
    cases h
    exact fun e he => absurd he List.not_mem_nil
  | cons d items ih =>
    obtain ⟨entry, hentry, h⟩ := Fallible.bind_eq_ok.mp h
    obtain ⟨others, hothers, h⟩ := Fallible.bind_eq_ok.mp h
    cases h
    intro e he
    rcases List.mem_append.mp he with he | he
    · rw [Option.mem_toList.mp he] at hentry
      exact ⟨d, List.mem_cons_self, Fallible.mapError_eq_ok.mp hentry⟩
    · obtain ⟨a, ha, hread⟩ := ih hothers e he
      exact ⟨a, List.mem_cons_of_mem d ha, hread⟩

theorem readEntries_eq_ok (h : readEntries files path map region = .ok entries) :
    ∃ items read, files.Holds (.list items) ∧ readAll path map region 0 items = .ok read ∧
      entries = read.mergeSort ascending := by
  obtain ⟨items, hitems, h⟩ := Fallible.bind_eq_ok.mp h
  obtain ⟨read, hread, h⟩ := Fallible.bind_eq_ok.mp h
  cases h
  exact ⟨items, read, holds_of_records hitems, hread, rfl⟩

theorem exists_of_mem_readEntries (h : readEntries files path map region = .ok entries) :
    ∀ e ∈ entries, ∃ r, convert map r = .ok e := by
  intro e he
  obtain ⟨items, read, -, hread, rfl⟩ := readEntries_eq_ok h
  obtain ⟨d, -, hentry⟩ := exists_of_mem_readAll hread e (List.mem_mergeSort.mp he)
  obtain ⟨r, settled, -, -, hconvert⟩ := readEntry_eq_ok hentry
  exact ⟨settled, hconvert⟩

theorem perm_of_listed {listing : List Entry} (h : listed listing = .ok entries) : entries.Perm listing := by
  cases listing with
  | nil =>
    cases h
    exact List.Perm.refl _
  | cons e rest =>
    simp only [listed] at h
    split at h
    · cases h
      exact List.mergeSort_perm _ _
    · cases h

theorem entriesOf_eq_ok {structs : StructTable} {enums : EnumTable}
    (h : entriesOf files root s structs enums = .ok entries) :
    entries.Perm (structs.definitions.map .struct) ∨ entries.Perm (enums.definitions.map .enum) ∨
      readEntries files (file root s s.map) s.map s.region = .ok entries := by
  unfold entriesOf at h
  split at h
  · exact .inl (perm_of_listed h)
  · exact .inr (.inl (perm_of_listed h))
  · exact .inr (.inr h)
  · cases h

/-- Where entries come from: they are definitions in a table, or made of a record. -/
inductive Origin (structs : StructTable) (enums : EnumTable) : Entry → Prop
  | struct {defn : StructDef} (h : defn ∈ structs.definitions) : Origin structs enums (.struct defn)
  | enum {d : EnumDef} (h : d ∈ enums.definitions) : Origin structs enums (.enum d)
  | data {r : Record} {d : Data} (h : r.data = .ok d) : Origin structs enums (.data d)
  | code {r : Record} {c : Code} (h : r.code = .ok c) : Origin structs enums (.code c)

theorem origin_of_convert {r : Record} (h : convert map r = .ok e) (structs : StructTable) (enums : EnumTable) :
    Origin structs enums e := by
  unfold convert at h
  split at h
  · obtain ⟨c, hc, rfl⟩ := Fallible.map_eq_ok.mp h
    exact .code hc
  · obtain ⟨d, hd, rfl⟩ := Fallible.map_eq_ok.mp h
    exact .data hd

theorem origin_of_entriesOf {structs : StructTable} {enums : EnumTable}
    (h : entriesOf files root s structs enums = .ok entries) : ∀ e ∈ entries, Origin structs enums e := by
  intro e he
  rcases entriesOf_eq_ok h with hperm | hperm | hfile
  · obtain ⟨defn, hdef, rfl⟩ := List.mem_map.mp (hperm.mem_iff.mp he)
    exact .struct hdef
  · obtain ⟨d, hd, rfl⟩ := List.mem_map.mp (hperm.mem_iff.mp he)
    exact .enum hd
  · obtain ⟨r, hconvert⟩ := exists_of_mem_readEntries hfile e he
    exact origin_of_convert hconvert structs enums

/-! The whole atlas -/

theorem ascending_trans (a b c : Entry) (hab : ascending a b = true) (hbc : ascending b c = true) :
    ascending a c = true := by
  simp only [ascending, decide_eq_true_eq] at hab hbc ⊢
  omega

theorem ascending_total (a b : Entry) : (ascending a b || ascending b a) = true := by
  simp only [ascending, Bool.or_eq_true, decide_eq_true_eq]
  omega

theorem ascending_mergeSort (read : List Entry) : Search.Ascending (read.mergeSort ascending) := by
  have hsorted := List.pairwise_mergeSort ascending_trans ascending_total read
  refine List.Pairwise.filterMap Entry.sortValue (fun a b hab x hx y hy => ?_) hsorted
  have hle : a.rank ≤ b.rank := of_decide_eq_true hab
  simpa only [Entry.rank, hx, hy, Option.getD_some] using hle

/-- Entries with different numbers have only one order. -/
theorem mergeSort_eq_of_perm {read sorted : List Entry} (hperm : sorted.Perm read)
    (hless : sorted.Pairwise fun a b => a.rank < b.rank) : read.mergeSort ascending = sorted := by
  have hnodup : (sorted.map Entry.rank).Nodup := List.pairwise_map.mpr (hless.imp fun h => Int.ne_of_lt h)
  have hsorted : sorted.Pairwise fun a b => ascending a b = true :=
    hless.imp fun h => decide_eq_true (Int.le_of_lt h)
  have hsame := (List.mergeSort_perm read ascending).trans hperm.symm
  refine hsame.eq_of_pairwise (fun a b ha hb hab hba => ?_)
    (List.pairwise_mergeSort ascending_trans ascending_total read) hsorted
  have hrank : a.rank = b.rank := Int.le_antisymm (of_decide_eq_true hab) (of_decide_eq_true hba)
  exact List.inj_on_of_nodup_map hnodup (hsame.mem_iff.mp ha) hb hrank

theorem read_eq_ok (h : read files root s = .ok atlas) :
    readEnums files (file root s "enums") = .ok atlas.enums ∧
      readStructs files (file root s "structs") = .ok atlas.structs ∧
      entriesOf files root s atlas.structs atlas.enums = .ok atlas.entries := by
  obtain ⟨enums, henums, h⟩ := Fallible.bind_eq_ok.mp h
  obtain ⟨structs, hstructs, h⟩ := Fallible.bind_eq_ok.mp h
  obtain ⟨entries, hentries, h⟩ := Fallible.bind_eq_ok.mp h
  cases h
  exact ⟨henums, hstructs, hentries⟩

theorem load_eq_ok (h : (load files root s).result = .ok atlas) :
    read files root s = .ok atlas ∧
      (∀ v ∈ References.all atlas.entries atlas.structs,
        References.undefinedStruct? atlas.structs v = none ∧ References.hasName v = true) ∧
      (load files root s).warnings =
        (References.all atlas.entries atlas.structs).filterMap (References.undefinedEnum? atlas.enums) := by
  unfold load at h ⊢
  split at h
  · cases h
  · next read hread =>
    cases hcheck : (References.check read.structs read.enums (References.all read.entries read.structs)).result with
    | error fault =>
      simp only [hcheck] at h
      cases h
    | ok checked =>
      simp only [hcheck] at h
      cases h
      rw [hread]
      exact ⟨rfl, References.check_eq_ok hcheck⟩

theorem load_of_read (h : read files root s = .ok atlas)
    (hpasses : ∀ v ∈ References.all atlas.entries atlas.structs, References.passes atlas.structs v = true) :
    (load files root s).result = .ok atlas := by
  have hcheck : (References.check atlas.structs atlas.enums
      (References.all atlas.entries atlas.structs)).result = .ok () := References.check_result_eq_ok_iff.mpr hpasses
  unfold load
  rw [h]
  dsimp only
  rw [hcheck]
  rfl

/-- Without numbers there is nothing to be out of order. -/
theorem ascending_of_sortValue_none (h : ∀ e ∈ entries, e.sortValue = none) : Search.Ascending entries := by
  rw [Search.Ascending, List.filterMap_eq_nil_iff.mpr h]
  exact List.Pairwise.nil

theorem ascending_of_entriesOf {structs : StructTable} {enums : EnumTable}
    (h : entriesOf files root s structs enums = .ok entries) : Search.Ascending entries := by
  rcases entriesOf_eq_ok h with hperm | hperm | hfile
  · refine ascending_of_sortValue_none fun e he => ?_
    obtain ⟨defn, -, rfl⟩ := List.mem_map.mp (hperm.mem_iff.mp he)
    rfl
  · refine ascending_of_sortValue_none fun e he => ?_
    obtain ⟨d, -, rfl⟩ := List.mem_map.mp (hperm.mem_iff.mp he)
    rfl
  · obtain ⟨items, read, -, -, rfl⟩ := readEntries_eq_ok hfile
    exact ascending_mergeSort read

/-- The entries are in order, all variables are of defined types, and structs on view are in the table, where
each definition has its own label. -/
structure Sound (atlas : Atlas) : Prop where
  ascending : Search.Ascending atlas.entries
  defined : ∀ v ∈ References.all atlas.entries atlas.structs,
    References.undefinedStruct? atlas.structs v = none
  listed : ∀ defn, .struct defn ∈ atlas.entries → defn ∈ atlas.structs.definitions
  labelled : ∀ defn ∈ atlas.structs.definitions,
    ∃ label, defn.label.scalar? = some label ∧ atlas.structs.has label = true

theorem sound_of_load (h : (load files root s).result = .ok atlas) : atlas.Sound := by
  obtain ⟨hread, hchecked, -⟩ := load_eq_ok h
  obtain ⟨-, hstructs, hentries⟩ := read_eq_ok hread
  obtain ⟨items, -, hdefs⟩ := readStructs_eq_ok hstructs
  refine ⟨ascending_of_entriesOf hentries, fun v hv => (hchecked v hv).1, fun defn hdef => ?_,
    fun defn hdef => (hdefs defn hdef).2⟩
  cases origin_of_entriesOf hentries _ hdef with
  | struct hmem => exact hmem

end Atlas

end MemoryAtlas
