import MemoryAtlas.Proofs.Record.Region

/-!
What a region makes of a record: the values for the region stand in the place of all variants, unless the region has
no address, or no value for something else that varies.
-/

namespace MemoryAtlas

/-- The value for the region, where there are variants with one. -/
def Document.seenFrom (region : String) (d : Document) : Document := (d.variant region).getD d

namespace Record

variable {region key : String} {r s : Record}

/-- Address, count and size as they are in the region, and everything else as it is. -/
def seenFrom (region : String) (r : Record) : Record :=
  r.map fun field =>
    (field.1, if varyingKeys.any (fun key => .text key == field.1) then field.2.seenFrom region else field.2)

/-- The address varies, and the region has none. -/
def lacksAddress (region : String) (r : Record) : Bool :=
  match r.lookup (.text "addr") with
  | some (.record variants) => (variants.lookup (.text region)).isNone
  | _ => false

/-- Whatever varies has a value for the region. -/
def Complete (region : String) (r : Record) : Prop :=
  ∀ key ∈ varyingKeys, ∀ d, r.lookup (.text key) = some d → (d.variant region).isSome

theorem lookup_seenFrom (region key : String) (r : Record) :
    (r.seenFrom region).lookup (.text key) =
      (r.lookup (.text key)).map fun d => if key ∈ varyingKeys then d.seenFrom region else d := by
  induction r with
  | nil => rfl
  | cons field r ih =>
    obtain ⟨k, d⟩ := field
    rw [seenFrom, List.map_cons, List.lookup_cons, List.lookup_cons]
    cases hk : (Scalar.text key == k) with
    | false => exact ih
    | true =>
      have hany : varyingKeys.any (fun other => .text other == k) = decide (key ∈ varyingKeys) := by
        rw [Bool.eq_iff_iff, List.any_eq_true, decide_eq_true_iff]
        have hsame : ∀ other : String, (Scalar.text other == k) = true ↔ other = key := fun other => by
          rw [← BEq.congr_right hk, Scalar.text_beq_text, beq_iff_eq]
        simp [hsame]
      simp [hany]

/-! One key -/

theorem settle_isSome_iff : (r.settle region key).isSome ↔
    ∀ d, r.lookup (.text key) = some d → (d.variant region).isSome := by
  unfold settle
  cases r.lookup (.text key) <;> simp

theorem lookup_settle (h : r.settle region key = some s) (other : String) :
    s.lookup (.text other) = (r.lookup (.text other)).map fun d => if other = key then d.seenFrom region else d := by
  by_cases heq : other = key
  · subst heq
    unfold settle at h
    cases hr : r.lookup (.text other) with
    | none =>
      rw [hr] at h
      cases h
      exact hr
    | some d =>
      rw [hr] at h
      obtain ⟨value, hvalue, rfl⟩ := Option.map_eq_some_iff.mp h
      rw [Assoc.lookup_put]
      simp [Document.seenFrom, hvalue]
  · rw [lookup_of_settle h heq]
    simp [heq]

theorem settleOrFail_eq_ok_iff : r.settleOrFail region key = .ok s ↔ r.settle region key = some s := by
  unfold settleOrFail
  cases r.settle region key with
  | none => simp
  | some settled => simp

/-! The whole record -/

theorem settle_address_eq_none_iff : r.settle region "addr" = none ↔ r.lacksAddress region = true := by
  unfold settle lacksAddress
  cases hr : r.lookup (.text "addr") with
  | none => simp
  | some d =>
    cases d with
    | record variants => simp [Document.variant]
    | scalar value => simp [Document.variant]
    | list items => simp [Document.variant]

theorem inRegion_eq_none_iff : r.inRegion region = .ok none ↔ r.lacksAddress region = true := by
  rw [← settle_address_eq_none_iff]
  unfold inRegion
  cases r.settle region "addr" with
  | none => simp
  | some placed =>
    constructor
    · intro h
      obtain ⟨counted, -, h⟩ := Fallible.bind_eq_ok.mp h
      obtain ⟨sized, -, h⟩ := Fallible.bind_eq_ok.mp h
      cases h
    · intro h
      cases h

theorem inRegion_eq_some_iff : r.inRegion region = .ok (some s) ↔
    ∃ placed counted, r.settle region "addr" = some placed ∧ placed.settle region "count" = some counted ∧
      counted.settle region "size" = some s := by
  unfold inRegion
  cases r.settle region "addr" with
  | none => simp
  | some placed =>
    constructor
    · intro h
      obtain ⟨counted, hcounted, h⟩ := Fallible.bind_eq_ok.mp h
      obtain ⟨sized, hsized, h⟩ := Fallible.bind_eq_ok.mp h
      cases h
      exact ⟨placed, counted, rfl, settleOrFail_eq_ok_iff.mp hcounted, settleOrFail_eq_ok_iff.mp hsized⟩
    · rintro ⟨placed, counted, hplaced, hcounted, hsized⟩
      cases hplaced
      exact Fallible.bind_eq_ok.mpr ⟨counted, settleOrFail_eq_ok_iff.mpr hcounted,
        Fallible.bind_eq_ok.mpr ⟨s, settleOrFail_eq_ok_iff.mpr hsized, rfl⟩⟩

/-- What is read by its keys from the record in a region can be read from the record as it is seen from there. -/
theorem lookup_inRegion (h : r.inRegion region = .ok (some s)) (key : String) :
    s.lookup (.text key) = (r.seenFrom region).lookup (.text key) := by
  obtain ⟨placed, counted, hplaced, hcounted, hsized⟩ := inRegion_eq_some_iff.mp h
  rw [lookup_settle hsized, lookup_settle hcounted, lookup_settle hplaced, lookup_seenFrom, Option.map_map,
    Option.map_map]
  congr 1
  funext d
  by_cases haddr : key = "addr"
  · subst haddr
    simp [varyingKeys]
  · by_cases hcount : key = "count"
    · subst hcount
      simp [varyingKeys]
    · simp [varyingKeys, haddr, hcount]

theorem complete_of_inRegion (h : r.inRegion region = .ok (some s)) : r.Complete region := by
  obtain ⟨placed, counted, hplaced, hcounted, hsized⟩ := inRegion_eq_some_iff.mp h
  have haddr := settle_isSome_iff.mp (Option.isSome_of_eq_some hplaced)
  have hcount := settle_isSome_iff.mp (Option.isSome_of_eq_some hcounted)
  have hsize := settle_isSome_iff.mp (Option.isSome_of_eq_some hsized)
  rw [lookup_of_settle hplaced (by decide)] at hcount
  rw [lookup_of_settle hcounted (by decide), lookup_of_settle hplaced (by decide)] at hsize
  simp only [Complete, varyingKeys, List.forall_mem_cons, List.not_mem_nil, false_imp_iff, implies_true, and_true]
  exact ⟨haddr, hcount, hsize⟩

theorem Complete.exists_inRegion (h : r.Complete region) : ∃ s, r.inRegion region = .ok (some s) := by
  have hkey : ∀ key ∈ varyingKeys, ∀ s : Record, s.lookup (.text key) = r.lookup (.text key) →
      ∃ settled, s.settle region key = some settled := by
    intro key hmem s hs
    apply Option.isSome_iff_exists.mp
    rw [settle_isSome_iff, hs]
    exact h key hmem
  obtain ⟨placed, hplaced⟩ := hkey "addr" (by decide) r rfl
  obtain ⟨counted, hcounted⟩ := hkey "count" (by decide) placed (lookup_of_settle hplaced (by decide))
  obtain ⟨sized, hsized⟩ := hkey "size" (by decide) counted
    ((lookup_of_settle hcounted (by decide)).trans (lookup_of_settle hplaced (by decide)))
  exact ⟨sized, inRegion_eq_some_iff.mpr ⟨placed, counted, hplaced, hcounted, hsized⟩⟩

end Record

end MemoryAtlas
