import MemoryAtlas.Proofs.Atlas.Sorting

/-!
Which record of a file is to blame. A record that has no address in the region fails for nothing else that it holds;
each other one gives an entry or fails for a single cause. The first cause in the file is the fault of the whole, and
it is told with the place of its record among all records of the file.
-/

namespace MemoryAtlas

namespace Record

variable {region key : String} {r s : Record} {defect : Defect}

/-- There are variants, but none for the region. -/
def Lacks (region key : String) (r : Record) : Prop :=
  ∃ variants, r.lookup (.text key) = some (.record variants) ∧ variants.lookup (.text region) = none

theorem settle_eq_none_iff : r.settle region key = none ↔ r.Lacks region key := by
  unfold settle Lacks
  cases r.lookup (.text key) with
  | none => simp
  | some d => cases d <;> simp [Document.variant]

theorem lacksAddress_iff : r.lacksAddress region = true ↔ r.Lacks region "addr" := by
  rw [← settle_address_eq_none_iff, settle_eq_none_iff]

theorem settleOrFail_eq_error_iff :
    r.settleOrFail region key = .error defect ↔ r.Lacks region key ∧ defect = .noVariant key region := by
  rw [← settle_eq_none_iff, settleOrFail]
  cases r.settle region key with
  | none => simp [eq_comm]
  | some settled => simp

/-- Only what the record holds under the key is looked at. -/
theorem lacks_congr (h : s.lookup (.text key) = r.lookup (.text key)) : s.Lacks region key ↔ r.Lacks region key := by
  rw [Lacks, h, Lacks]

/-- The region has an address, and then no count, or a count and no size. -/
inductive Unsettled (region : String) (r : Record) : Defect → Prop
  | count (haddr : ¬ r.Lacks region "addr") (h : r.Lacks region "count") :
    Unsettled region r (.noVariant "count" region)
  | size (haddr : ¬ r.Lacks region "addr") (hcount : ¬ r.Lacks region "count") (h : r.Lacks region "size") :
    Unsettled region r (.noVariant "size" region)

theorem inRegion_eq_error_iff : r.inRegion region = .error defect ↔ r.Unsettled region defect := by
  unfold inRegion
  cases hplaced : r.settle region "addr" with
  | none =>
    have haddr := settle_eq_none_iff.mp hplaced
    constructor
    · intro h
      cases h
    · intro h
      cases h with
      | count hhas => exact absurd haddr hhas
      | size hhas => exact absurd haddr hhas
  | some placed =>
    have haddr : ¬ r.Lacks region "addr" := by simp [← settle_eq_none_iff, hplaced]
    have hcount : placed.Lacks region "count" ↔ r.Lacks region "count" :=
      lacks_congr (lookup_of_settle hplaced (by decide))
    have hsize : ∀ {counted : Record}, placed.settle region "count" = some counted →
        (counted.Lacks region "size" ↔ r.Lacks region "size") := fun hcounted =>
      lacks_congr ((lookup_of_settle hcounted (by decide)).trans (lookup_of_settle hplaced (by decide)))
    constructor
    · intro h
      rcases Fallible.bind_eq_error.mp h with h | ⟨counted, hcounted, h⟩
      · obtain ⟨hlacks, rfl⟩ := settleOrFail_eq_error_iff.mp h
        exact .count haddr (hcount.mp hlacks)
      · rw [settleOrFail_eq_ok_iff] at hcounted
        rcases Fallible.bind_eq_error.mp h with h | ⟨sized, -, h⟩
        · obtain ⟨hlacks, rfl⟩ := settleOrFail_eq_error_iff.mp h
          refine .size haddr (fun hnone => ?_) ((hsize hcounted).mp hlacks)
          rw [settle_eq_none_iff.mpr (hcount.mpr hnone)] at hcounted
          cases hcounted
        · cases h
    · intro h
      refine Fallible.bind_eq_error.mpr ?_
      cases h with
      | count _ hlacks => exact .inl (settleOrFail_eq_error_iff.mpr ⟨hcount.mpr hlacks, rfl⟩)
      | size _ hhas hlacks =>
        have hsome : placed.settle region "count" ≠ none := by rwa [ne_eq, settle_eq_none_iff, hcount]
        obtain ⟨counted, hcounted⟩ := Option.ne_none_iff_exists'.mp hsome
        refine .inr ⟨counted, settleOrFail_eq_ok_iff.mpr hcounted, Fallible.bind_eq_error.mpr (.inl ?_)⟩
        exact settleOrFail_eq_error_iff.mpr ⟨(hsize hcounted).mpr hlacks, rfl⟩

end Record

namespace Atlas

variable {files : Archive} {path map region : String} {r : Record} {rs : List Record} {fault : Fault}
  {cause : RecordFault}

/-! One record -/

/-- What is wrong with a record that the region has an address for. -/
inductive Fails (map region : String) (r : Record) : RecordFault → Prop
  | unsettled {defect : Defect} (h : r.Unsettled region defect) : Fails map region r (.defect defect)
  | unconverted {cause : RecordFault} (hcomplete : r.Complete region)
    (h : convert map (r.seenFrom region) = .error cause) : Fails map region r cause

theorem readEntry_eq_error_iff : readEntry map region (.record r) = .error cause ↔ Fails map region r cause := by
  rw [readEntry_record]
  constructor
  · intro h
    rcases Fallible.bind_eq_error.mp h with h | ⟨settled?, hsettled, h⟩
    · obtain ⟨defect, hdefect, rfl⟩ := Fallible.mapError_eq_error.mp h
      exact .unsettled (Record.inRegion_eq_error_iff.mp hdefect)
    · rw [Fallible.mapError_eq_ok] at hsettled
      cases settled? with
      | none => cases h
      | some settled =>
        have hconvert : convert map settled = .error cause := Fallible.map_eq_error.mp h
        rw [convert_congr (Record.lookup_inRegion hsettled)] at hconvert
        exact .unconverted (Record.complete_of_inRegion hsettled) hconvert
  · intro h
    refine Fallible.bind_eq_error.mpr ?_
    cases h with
    | unsettled h => exact .inl (Fallible.mapError_eq_error.mpr ⟨_, Record.inRegion_eq_error_iff.mpr h, rfl⟩)
    | unconverted hcomplete h =>
      obtain ⟨settled, hsettled⟩ := hcomplete.exists_inRegion
      refine .inr ⟨some settled, Fallible.mapError_eq_ok.mpr hsettled, Fallible.map_eq_error.mpr ?_⟩
      rw [convert_congr (Record.lookup_inRegion hsettled), h]

theorem readEntry_eq_none_iff_lacks : readEntry map region (.record r) = .ok none ↔ r.Lacks region "addr" := by
  rw [readEntry_eq_none_iff, Record.lacksAddress_iff]

theorem Fails.has_address (h : Fails map region r cause) : ¬ r.Lacks region "addr" := by
  intro hlacks
  rw [← readEntry_eq_error_iff, readEntry_eq_none_iff_lacks.mpr hlacks] at h
  cases h

/-- If the region has an address for the record, then it has an entry, too. -/
def Readable (map region : String) (r : Record) : Prop :=
  ¬ r.Lacks region "addr" → ∃ e, Yields map region r e

theorem readable_iff : Readable map region r ↔ ∃ entry, readEntry map region (.record r) = .ok entry := by
  constructor
  · intro h
    by_cases hlacks : r.Lacks region "addr"
    · exact ⟨none, readEntry_eq_none_iff_lacks.mpr hlacks⟩
    · obtain ⟨e, he⟩ := h hlacks
      exact ⟨some e, readEntry_eq_some_iff.mpr he⟩
  · rintro ⟨entry, hentry⟩ haddr
    cases entry with
    | none => exact absurd (readEntry_eq_none_iff_lacks.mp hentry) haddr
    | some e => exact ⟨e, readEntry_eq_some_iff.mp hentry⟩

/-! All records -/

/-- The fault is that of the first record that fails, told with its place. -/
theorem readAll_eq_error_iff {index : Nat} : readAll path map region index (rs.map .record) = .error fault ↔
    ∃ before r after cause, rs = before ++ r :: after ∧ (∀ b ∈ before, Readable map region b) ∧
      Fails map region r cause ∧ fault = .within (.record (index + before.length) path) cause := by
  induction rs generalizing index with
  | nil => simp [readAll]
  | cons r rs ih =>
    rw [List.map_cons, readAll]
    constructor
    · intro h
      rcases Fallible.bind_eq_error.mp h with h | ⟨entry, hentry, h⟩
      · obtain ⟨cause, hcause, rfl⟩ := Fallible.mapError_eq_error.mp h
        exact ⟨[], r, rs, cause, rfl, fun b hb => absurd hb List.not_mem_nil, readEntry_eq_error_iff.mp hcause, rfl⟩
      · rcases Fallible.bind_eq_error.mp h with h | ⟨rest, -, h⟩
        · obtain ⟨before, s, after, cause, rfl, hbefore, hfails, rfl⟩ := ih.mp h
          have hreadable := readable_iff.mpr ⟨entry, Fallible.mapError_eq_ok.mp hentry⟩
          refine ⟨r :: before, s, after, cause, rfl, List.forall_mem_cons.mpr ⟨hreadable, hbefore⟩, hfails, ?_⟩
          rw [List.length_cons, Nat.add_assoc, Nat.add_comm 1]
        · cases h
    · rintro ⟨before, s, after, cause, hsplit, hbefore, hfails, rfl⟩
      refine Fallible.bind_eq_error.mpr ?_
      cases before with
      | nil =>
        cases hsplit
        exact .inl (Fallible.mapError_eq_error.mpr ⟨cause, readEntry_eq_error_iff.mpr hfails, rfl⟩)
      | cons b before =>
        cases hsplit
        obtain ⟨hreadable, hbefore⟩ := List.forall_mem_cons.mp hbefore
        obtain ⟨entry, hentry⟩ := readable_iff.mp hreadable
        refine .inr ⟨entry, Fallible.mapError_eq_ok.mpr hentry, Fallible.bind_eq_error.mpr (.inl ?_)⟩
        refine ih.mpr ⟨before, s, after, cause, rfl, hbefore, hfails, ?_⟩
        rw [List.length_cons, Nat.add_assoc, Nat.add_comm 1]

theorem exists_readAll_iff (path map region : String) (rs : List Record) (index : Nat) :
    (∃ read, readAll path map region index (rs.map .record) = .ok read) ↔ ∀ r ∈ rs, Readable map region r := by
  induction rs generalizing index with
  | nil => exact ⟨fun _ r hr => absurd hr List.not_mem_nil, fun _ => ⟨[], rfl⟩⟩
  | cons r rs ih =>
    rw [List.forall_mem_cons, ← ih (index + 1), readable_iff, List.map_cons, readAll]
    constructor
    · rintro ⟨read, h⟩
      obtain ⟨entry, hentry, h⟩ := Fallible.bind_eq_ok.mp h
      obtain ⟨rest, hrest, -⟩ := Fallible.bind_eq_ok.mp h
      exact ⟨⟨entry, Fallible.mapError_eq_ok.mp hentry⟩, rest, hrest⟩
    · rintro ⟨⟨entry, hentry⟩, rest, hrest⟩
      rw [hentry, hrest]
      exact ⟨entry.toList ++ rest, rfl⟩

/-- A file is read if and only if each of its records gives an entry, unless the region has no address for it.
Otherwise there is a first record that does not, and the fault is what is wrong with that one: a defect is told with
the number of all records before it, those without an address among them. -/
theorem readEntries_eq_error_iff (h : records files path = .ok (rs.map .record)) (map region : String) :
    ((∃ entries, readEntries files path map region = .ok entries) ↔ ∀ r ∈ rs, Readable map region r) ∧
      ∀ fault, readEntries files path map region = .error fault ↔
        ∃ before r after cause, rs = before ++ r :: after ∧ (∀ b ∈ before, Readable map region b) ∧
          ¬ r.Lacks region "addr" ∧ Fails map region r cause ∧
          (∀ d, cause = .defect d → fault = .record before.length path d ∧ fault.message =
            "Error parsing record " ++ toString before.length ++ " in " ++ path ++ ": " ++ d.message) ∧
          ∀ m, cause = .misshape m → fault = .misshape m := by
  rw [readEntries_of_records h]
  constructor
  · rw [← exists_readAll_iff path map region rs 0]
    simp only [Fallible.map_eq_ok]
    exact ⟨fun ⟨_, read, hread, _⟩ => ⟨read, hread⟩, fun ⟨read, hread⟩ => ⟨_, read, hread, rfl⟩⟩
  · intro fault
    rw [Fallible.map_eq_error, readAll_eq_error_iff]
    constructor
    · rintro ⟨before, r, after, cause, hsplit, hbefore, hfails, rfl⟩
      rw [Nat.zero_add]
      refine ⟨before, r, after, cause, hsplit, hbefore, hfails.has_address, hfails, ?_, ?_⟩
      · rintro d rfl
        exact ⟨rfl, rfl⟩
      · rintro m rfl
        rfl
    · rintro ⟨before, r, after, cause, hsplit, hbefore, -, hfails, hdefect, hmisshape⟩
      refine ⟨before, r, after, cause, hsplit, hbefore, hfails, ?_⟩
      rw [Nat.zero_add]
      cases cause with
      | defect d => exact (hdefect d rfl).1
      | misshape m => exact hmisshape m rfl

/-- The second record has no address there and is counted, though its type is none. -/
theorem readEntries_eq_error_iff_western :
    let files : Archive := [("ram.json", .document (.list (western.map .record)))]
    records files "ram.json" = .ok (western.map .record) ∧
      ∃ fault, readEntries files "ram.json" "ram" "U" = .error fault ∧
        fault.message = "Error parsing record 2 in ram.json: No count defined for region U" := by
  intro files
  have hfiles : records files "ram.json" = .ok (western.map .record) := rfl
  obtain ⟨-, herror⟩ := readEntries_eq_error_iff hfiles "ram" "U"
  have hbefore : ∀ b ∈ western.take 2, Readable "ram" "U" b := by
    refine List.forall_mem_cons.mpr ⟨?_, List.forall_mem_singleton.mpr ?_⟩
    · exact readable_iff.mpr ⟨some _, rfl⟩
    · exact readable_iff.mpr ⟨none, rfl⟩
  have hfails : Fails "ram" "U" (western[2]) (.defect (.noVariant "count" "U")) := readEntry_eq_error_iff.mp rfl
  refine ⟨hfiles, .record 2 "ram.json" (.noVariant "count" "U"), (herror _).mpr ?_, rfl⟩
  refine ⟨western.take 2, _, [], _, rfl, hbefore, hfails.has_address, hfails, ?_, ?_⟩
  · intro d hd
    cases hd
    exact ⟨rfl, rfl⟩
  · intro m hm
    cases hm

end Atlas

end MemoryAtlas
