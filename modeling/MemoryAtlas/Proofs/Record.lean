import MemoryAtlas.Proofs.Table
import MemoryAtlas.Proofs.Traversal
import MemoryAtlas.Record.Convert
import MemoryAtlas.Record.Region

/-!
What is kept of a record. An entry has the caption of its record, members have those of theirs, and a region
changes nothing but addresses, counts and sizes.
-/

namespace MemoryAtlas

theorem Document.scalar?_eq_some_iff {d : Document} {name : Scalar} : d.scalar? = some name ↔ d = .scalar name := by
  cases d <;> simp [Document.scalar?]

namespace Record

variable {r : Record}

theorem toRecord_eq_ok {m : Misshape} {d : Document} (h : d.toRecord m = .ok r) : d = .record r := by
  cases d with
  | record fields =>
    cases h
    rfl
  | scalar value => cases h
  | list items => cases h

theorem caption_of_var {v : Var} (h : r.var = .ok v) : v.toCaption = r.caption := by
  obtain ⟨type, -, h⟩ := Fallible.bind_eq_ok.mp h
  obtain ⟨count, -, h⟩ := Fallible.bind_eq_ok.mp h
  obtain ⟨category, -, h⟩ := Fallible.bind_eq_ok.mp h
  cases h
  rfl

/-- An enum that amounts to nothing is null in the variable. -/
theorem enum_of_var {v : Var} (h : r.var = .ok v) : v.enum = .null ∨ v.enum.isPresent = true := by
  obtain ⟨type, -, h⟩ := Fallible.bind_eq_ok.mp h
  obtain ⟨count, -, h⟩ := Fallible.bind_eq_ok.mp h
  obtain ⟨category, -, h⟩ := Fallible.bind_eq_ok.mp h
  cases h
  dsimp only [Document.presentOr]
  split
  · next hpresent => exact .inr hpresent
  · exact .inl rfl

theorem var_of_data {d : Data} (h : r.data = .ok d) : r.var = .ok d.toVar := by
  obtain ⟨addr, -, h⟩ := Fallible.bind_eq_ok.mp h
  obtain ⟨v, hv, h⟩ := Fallible.bind_eq_ok.mp h
  cases h
  exact hv

theorem var_of_field {f : Field} (h : r.field = .ok f) : r.var = .ok f.toVar := by
  obtain ⟨offset, -, h⟩ := Fallible.bind_eq_ok.mp h
  obtain ⟨v, hv, h⟩ := Fallible.bind_eq_ok.mp h
  cases h
  exact hv

theorem caption_of_data {d : Data} (h : r.data = .ok d) : d.toCaption = r.caption :=
  caption_of_var (var_of_data h)

theorem caption_of_field {f : Field} (h : r.field = .ok f) : f.toCaption = r.caption :=
  caption_of_var (var_of_field h)

theorem caption_of_enumValue {v : EnumValue} (h : r.enumValue = .ok v) : v.toCaption = r.caption := by
  obtain ⟨val, -, h⟩ := Fallible.bind_eq_ok.mp h
  cases h
  rfl

theorem caption_of_code {c : Code} (h : r.code = .ok c) : c.toCaption = r.caption := by
  obtain ⟨addr, -, h⟩ := Fallible.bind_eq_ok.mp h
  obtain ⟨size, -, h⟩ := Fallible.bind_eq_ok.mp h
  obtain ⟨mode, -, h⟩ := Fallible.bind_eq_ok.mp h
  -- the parameters and the return value are either read or left out
  split at h
  all_goals
    obtain ⟨items, -, h⟩ := Fallible.bind_eq_ok.mp h
    obtain ⟨params, -, h⟩ := Fallible.bind_eq_ok.mp h
    dsimp only at h
    split at h
    all_goals
      obtain ⟨ret, -, h⟩ := Fallible.bind_eq_ok.mp h
      cases h
      rfl

theorem struct_eq_ok {s : StructDef} (h : r.struct = .ok s) :
    s.toCaption = r.caption ∧ ∃ items, r.members "vars" = .ok items ∧
      ∀ f ∈ s.fields, ∃ member, .record member ∈ items ∧ field member = .ok f := by
  obtain ⟨label, -, h⟩ := Fallible.bind_eq_ok.mp h
  obtain ⟨size, -, h⟩ := Fallible.bind_eq_ok.mp h
  obtain ⟨items, hitems, h⟩ := Fallible.bind_eq_ok.mp h
  obtain ⟨fields, hfields, h⟩ := Fallible.bind_eq_ok.mp h
  cases h
  refine ⟨rfl, items, hitems, fun f hf => ?_⟩
  obtain ⟨d, hd, h⟩ := Traversal.exists_of_mem_mapM hfields f hf
  obtain ⟨member, hmember, h⟩ := Fallible.bind_eq_ok.mp h
  exact ⟨member, toRecord_eq_ok hmember ▸ hd, h⟩

theorem enum_eq_ok {e : EnumDef} (h : r.enum = .ok e) :
    e.toCaption = r.caption ∧ ∃ items, r.members "vals" = .ok items ∧
      ∀ v ∈ e.vals, ∃ member, .record member ∈ items ∧ enumValue member = .ok v := by
  obtain ⟨items, hitems, h⟩ := Fallible.bind_eq_ok.mp h
  obtain ⟨vals, hvals, h⟩ := Fallible.bind_eq_ok.mp h
  obtain ⟨label, -, h⟩ := Fallible.bind_eq_ok.mp h
  cases h
  refine ⟨rfl, items, hitems, fun v hv => ?_⟩
  obtain ⟨d, hd, h⟩ := Traversal.exists_of_mem_mapM hvals v hv
  obtain ⟨member, hmember, h⟩ := Fallible.bind_eq_ok.mp h
  exact ⟨member, toRecord_eq_ok hmember ▸ hd, h⟩

/-! The record as it is in a region -/

theorem lookup_put_of_ne {key other : String} (hne : other ≠ key) (value : Document) (r : Record) :
    (Assoc.put (.text key) value r).lookup (.text other) = r.lookup (.text other) := by
  apply Assoc.lookup_put_of_ne
  rw [Scalar.text_beq_text]
  exact beq_eq_false_iff_ne.mpr hne

theorem lookup_of_settle {region key : String} {settled : Record} (h : r.settle region key = some settled)
    {other : String} (hne : other ≠ key) : settled.lookup (.text other) = r.lookup (.text other) := by
  unfold settle at h
  split at h
  · obtain ⟨value, -, rfl⟩ := Option.map_eq_some_iff.mp h
    exact lookup_put_of_ne hne value r
  · cases h
    rfl

theorem lookup_of_settleOrFail {region key : String} {settled : Record}
    (h : r.settleOrFail region key = .ok settled) {other : String} (hne : other ≠ key) :
    settled.lookup (.text other) = r.lookup (.text other) := by
  unfold settleOrFail at h
  split at h
  · next hsettle =>
    cases h
    exact lookup_of_settle hsettle hne
  · cases h

/-- Only what may have variants is different in a region. -/
theorem lookup_of_inRegion {region : String} {settled : Record} (h : r.inRegion region = .ok (some settled))
    {key : String} (hkey : key ∉ ["addr", "count", "size"]) :
    settled.lookup (.text key) = r.lookup (.text key) := by
  simp only [List.mem_cons, List.not_mem_nil, or_false, not_or] at hkey
  obtain ⟨haddr, hcount, hsize⟩ := hkey
  unfold inRegion at h
  split at h
  · cases h
  · next placed hplaced =>
    obtain ⟨counted, hcounted, h⟩ := Fallible.bind_eq_ok.mp h
    obtain ⟨sized, hsized, h⟩ := Fallible.bind_eq_ok.mp h
    cases h
    rw [lookup_of_settleOrFail hsized hsize, lookup_of_settleOrFail hcounted hcount, lookup_of_settle hplaced haddr]

end Record

end MemoryAtlas
