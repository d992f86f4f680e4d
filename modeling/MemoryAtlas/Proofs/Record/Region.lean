import MemoryAtlas.Proofs.Record

/-!
Records seen from one region. Two of them are the same there if they differ only in what they hold for other
regions. Putting the variants for the region in place keeps that, key by key, until nothing is left that could
be different; and what is read from a record is read by its keys.
-/

namespace MemoryAtlas

/-- One value, or variants that hold the same for the region, which may be nothing. -/
inductive Document.SameIn (region : String) : Document → Document → Prop
  | same (d : Document) : SameIn region d d
  | variants {v w : List (Scalar × Document)} (h : v.lookup (.text region) = w.lookup (.text region)) :
      SameIn region (.record v) (.record w)

theorem Document.SameIn.variant_eq {region : String} {d e : Document} (h : d.SameIn region e) :
    d.variant region = e.variant region := by
  cases h with
  | same d => rfl
  | variants h => exact h

namespace Record

variable {region key : String} {keys : List String} {r s : Record}

/-- Under the given keys the records hold values that are the same in the region, and under all others the
same values. -/
structure SameIn (region : String) (keys : List String) (r s : Record) : Prop where
  varying : ∀ key ∈ keys,
    Option.Rel (Document.SameIn region) (r.lookup (.text key)) (s.lookup (.text key))
  fixed : ∀ key ∉ keys, r.lookup (.text key) = s.lookup (.text key)

/-- What may be different from region to region. -/
def varyingKeys : List String := ["addr", "count", "size"]

theorem sameIn_nil (region : String) (keys : List String) : SameIn region keys [] [] :=
  ⟨fun _ _ => .none, fun _ _ => rfl⟩

theorem SameIn.cons (h : SameIn region keys r s) {d e : Document}
    (hfield : d = e ∨ key ∈ keys ∧ d.SameIn region e) :
    SameIn region keys ((.text key, d) :: r) ((.text key, e) :: s) where
  varying other hother := by
    rw [List.lookup_cons, List.lookup_cons]
    split
    · rcases hfield with rfl | ⟨-, hsame⟩
      · exact .some (.same d)
      · exact .some hsame
    · exact h.varying other hother
  fixed other hother := by
    rw [List.lookup_cons, List.lookup_cons]
    split
    · next heq =>
      rcases hfield with rfl | ⟨hkey, -⟩
      · rfl
      · rw [Scalar.text_beq_text, beq_iff_eq] at heq
        exact absurd (heq ▸ hkey) hother
    · exact h.fixed other hother

/-! One key at a time -/

/-- Once the records hold the same under a key, it is no longer among those that may vary. -/
theorem SameIn.of_settled (h : SameIn region (key :: keys) r s) {r' s' : Record}
    (hr : ∀ other ≠ key, r'.lookup (.text other) = r.lookup (.text other))
    (hs : ∀ other ≠ key, s'.lookup (.text other) = s.lookup (.text other))
    (hkey : r'.lookup (.text key) = s'.lookup (.text key)) : SameIn region keys r' s' where
  varying other hother := by
    by_cases heq : other = key
    · rw [heq, hkey]
      cases s'.lookup (.text key) with
      | none => exact .none
      | some d => exact .some (.same d)
    · rw [hr other heq, hs other heq]
      exact h.varying other (List.mem_cons_of_mem key hother)
  fixed other hother := by
    by_cases heq : other = key
    · rw [heq, hkey]
    · rw [hr other heq, hs other heq]
      exact h.fixed other (by simp [heq, hother])

theorem SameIn.settle (h : SameIn region (key :: keys) r s) :
    Option.Rel (SameIn region keys) (r.settle region key) (s.settle region key) := by
  have hkey := h.varying key List.mem_cons_self
  unfold Record.settle
  cases hr : r.lookup (.text key) with
  | none =>
    cases hs : s.lookup (.text key) with
    | none => exact .some (h.of_settled (fun _ _ => rfl) (fun _ _ => rfl) (hr.trans hs.symm))
    | some e =>
      rw [hr, hs] at hkey
      cases hkey
  | some d =>
    cases hs : s.lookup (.text key) with
    | none =>
      rw [hr, hs] at hkey
      cases hkey
    | some e =>
      rw [hr, hs] at hkey
      cases hkey with
      | some hsame =>
        dsimp only
        rw [hsame.variant_eq]
        cases e.variant region with
        | none => exact .none
        | some value =>
          refine .some (h.of_settled (fun _ hne => lookup_put_of_ne hne value r)
            (fun _ hne => lookup_put_of_ne hne value s) ?_)
          rw [Assoc.lookup_put, Assoc.lookup_put]

theorem SameIn.settleOrFail (h : SameIn region (key :: keys) r s) :
    (∃ defect, r.settleOrFail region key = .error defect ∧ s.settleOrFail region key = .error defect) ∨
      ∃ r' s', r.settleOrFail region key = .ok r' ∧ s.settleOrFail region key = .ok s' ∧
        SameIn region keys r' s' := by
  have hsettle := h.settle
  unfold Record.settleOrFail
  generalize r.settle region key = left at hsettle ⊢
  generalize s.settle region key = right at hsettle ⊢
  cases hsettle with
  | none => exact .inl ⟨_, rfl, rfl⟩
  | some hsame => exact .inr ⟨_, _, rfl, rfl, hsame⟩

/-- Both records have one defect, both are left out, or nothing is left that could be different. -/
theorem SameIn.inRegion (h : SameIn region varyingKeys r s) :
    (∃ defect, r.inRegion region = .error defect ∧ s.inRegion region = .error defect) ∨
      (r.inRegion region = .ok none ∧ s.inRegion region = .ok none) ∨
      ∃ r' s', r.inRegion region = .ok (some r') ∧ s.inRegion region = .ok (some s') ∧
        SameIn region [] r' s' := by
  have hsettle := h.settle
  unfold Record.inRegion
  generalize r.settle region "addr" = left at hsettle ⊢
  generalize s.settle region "addr" = right at hsettle ⊢
  cases hsettle with
  | none => exact .inr (.inl ⟨rfl, rfl⟩)
  | some hplaced =>
    rcases hplaced.settleOrFail with ⟨defect, hr, hs⟩ | ⟨counted, counted', hr, hs, hcounted⟩
    · exact .inl ⟨defect, Fallible.bind_eq_error.mpr (.inl hr), Fallible.bind_eq_error.mpr (.inl hs)⟩
    · rcases hcounted.settleOrFail with ⟨defect, hr', hs'⟩ | ⟨sized, sized', hr', hs', hsized⟩
      · refine .inl ⟨defect, ?_, ?_⟩
        · exact Fallible.bind_eq_error.mpr (.inr ⟨counted, hr, Fallible.bind_eq_error.mpr (.inl hr')⟩)
        · exact Fallible.bind_eq_error.mpr (.inr ⟨counted', hs, Fallible.bind_eq_error.mpr (.inl hs')⟩)
      · refine .inr (.inr ⟨sized, sized', ?_, ?_, hsized⟩)
        · exact Fallible.bind_eq_ok.mpr ⟨counted, hr, Fallible.bind_eq_ok.mpr ⟨sized, hr', rfl⟩⟩
        · exact Fallible.bind_eq_ok.mpr ⟨counted', hs, Fallible.bind_eq_ok.mpr ⟨sized', hs', rfl⟩⟩

/-! Reading by keys -/

section

variable (h : ∀ key : String, r.lookup (.text key) = s.lookup (.text key))

include h

theorem required_congr (key : String) : r.required key = s.required key := by
  rw [required, required, h]

theorem optional_congr (key : String) : r.optional key = s.optional key := by
  rw [optional, optional, h]

theorem caption_congr : r.caption = s.caption := by
  simp only [caption, h, optional_congr h]

theorem int_congr (key : String) : r.int key = s.int key := by
  rw [int, int, required_congr h]

theorem var_congr : r.var = s.var := by
  have htype : r.type = s.type := by rw [type, type, required_congr h]
  have hcount : r.count = s.count := by rw [count, count, optional_congr h]
  have hcategory : r.category = s.category := by simp only [category, optional_congr h]
  rw [var, var, htype, hcount, hcategory, caption_congr h, optional_congr h]

theorem data_congr : r.data = s.data := by
  rw [data, data, int_congr h, var_congr h]

theorem code_congr : r.code = s.code := by
  have hmode : r.mode = s.mode := by simp only [mode, optional_congr h]
  rw [code, code, int_congr h, int_congr h, hmode, caption_congr h, optional_congr h, optional_congr h]

end

end Record

end MemoryAtlas
