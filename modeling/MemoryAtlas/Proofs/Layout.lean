import MemoryAtlas.Proofs.Fallible
import MemoryAtlas.Proofs.Numeral.Hex
import MemoryAtlas.Proofs.References
import Mathlib.Algebra.Order.Ring.Int

/-!
Sizes can be asked for wherever the reference check has found no fault. They are then unknown only because of
a dimension that is no numeral. A known size is a product, in which a struct has its part unless the variable is
a pointer.
-/

namespace MemoryAtlas.Layout

variable {structs : StructTable} {v : Var}

theorem exists_specSize (h : References.undefinedStruct? structs v = none) :
    ∃ size, specSize structs v.type.spec = .ok size := by
  cases hs : v.type.spec with
  | prim p => exact ⟨p.size, rfl⟩
  | struct name =>
    have hhas : structs.has (.text name) = true := References.has_of_structName? h (by rw [hs]; rfl)
    obtain ⟨s, hfind⟩ := Option.isSome_iff_exists.mp hhas
    exact ⟨s.size, by simp [specSize, hfind]⟩

theorem exists_itemSize (h : References.undefinedStruct? structs v = none) :
    ∃ size, itemSize structs v.type = .ok size := by
  obtain ⟨base, hbase⟩ := exists_specSize h
  unfold itemSize
  split
  · exact ⟨none, rfl⟩
  · split
    · exact ⟨_, rfl⟩
    · rw [hbase]
      exact ⟨_, rfl⟩

theorem exists_totalLength (h : References.undefinedStruct? structs v = none) :
    ∃ length, totalLength structs v = .ok length := by
  obtain ⟨size, hsize⟩ := exists_itemSize h
  exact ⟨_, by rw [totalLength, hsize]; rfl⟩

theorem exists_lengthTooltip (h : References.undefinedStruct? structs v = none) :
    ∃ tip, lengthTooltip structs v = .ok tip := by
  obtain ⟨size, hsize⟩ := exists_itemSize h
  unfold lengthTooltip
  split
  · exact ⟨"", rfl⟩
  · rw [hsize]
    exact ⟨_, rfl⟩

theorem dims_eq_none_iff (t : TypeDecl) :
    t.dims = none ↔ ∃ word ∈ Text.wordRuns t.inner, ¬ Hex.IsNumeral word := by
  rw [TypeDecl.dims, ← Option.not_isSome_iff_eq_none, Traversal.isSome_mapM_iff]
  simp only [Hex.readChars_isSome_iff, Classical.not_forall, exists_prop]

/-! Sizes as products -/

theorem foldl_mul (dims : List Nat) (base : Int) :
    dims.foldl (fun (size : Int) (dim : Nat) => size * dim) base = base * (dims.prod : Nat) := by
  induction dims generalizing base with
  | nil => simp
  | cons dim dims ih => rw [List.foldl_cons, ih, List.prod_cons, Nat.cast_mul, Int.mul_assoc]

/-- What the dimensions multiply. -/
def baseSize (structs : StructTable) (t : TypeDecl) : Except UnknownStruct Int :=
  if t.isPointer then .ok pointerSize else specSize structs t.spec

theorem itemSize_of_dims {t : TypeDecl} {dims : List Nat} (h : t.dims = some dims) :
    itemSize structs t = (fun base : Int => some (base * (dims.prod : Nat))) <$> baseSize structs t := by
  rw [itemSize, h, baseSize]
  simp only [foldl_mul]
  split <;> rfl

theorem itemSize_of_dims_eq_none {t : TypeDecl} (h : t.dims = none) : itemSize structs t = .ok none := by
  rw [itemSize, h]

theorem itemSize_eq_none_iff (structs : StructTable) (t : TypeDecl) :
    itemSize structs t = .ok none ↔ t.dims = none := by
  cases hdims : t.dims with
  | none => simp [itemSize_of_dims_eq_none hdims]
  | some dims =>
    rw [itemSize_of_dims hdims, Fallible.map_eq_ok]
    simp

theorem specSize_eq_error_iff {spec : Spec} {fault : UnknownStruct} :
    specSize structs spec = .error fault ↔
      ∃ name, spec = .struct name ∧ structs.find? (.text name) = none ∧ fault = ⟨.text name⟩ := by
  cases spec with
  | prim p => simp [specSize]
  | struct name =>
    rw [specSize]
    split
    · next s hfind => simp [hfind]
    · next hfind => simp [hfind, eq_comm]

theorem baseSize_eq_error_iff {t : TypeDecl} {fault : UnknownStruct} :
    baseSize structs t = .error fault ↔ t.isPointer = false ∧ specSize structs t.spec = .error fault := by
  rw [baseSize]
  split
  · next h => simp [h]
  · next h => simp [h]

/-- Whether the struct is known is not asked of pointers and of declarators that cannot be read. -/
theorem itemSize_eq_error_iff {t : TypeDecl} {fault : UnknownStruct} :
    itemSize structs t = .error fault ↔ t.dims ≠ none ∧ baseSize structs t = .error fault := by
  cases hdims : t.dims with
  | none => simp [itemSize_of_dims_eq_none hdims]
  | some dims =>
    rw [itemSize_of_dims hdims, Fallible.map_eq_error]
    simp

theorem totalLength_eq_map (structs : StructTable) (v : Var) :
    totalLength structs v = Option.map (· * itemCount v) <$> itemSize structs v.type := by
  rw [totalLength, bind_pure_comp]

theorem totalLength_eq_none_iff (structs : StructTable) (v : Var) :
    totalLength structs v = .ok none ↔ v.type.dims = none := by
  rw [← itemSize_eq_none_iff structs]
  simp only [totalLength_eq_map, Fallible.map_eq_ok, Option.map_eq_none_iff, exists_eq_right]

theorem itemSize_eq_some {t : TypeDecl} {size : Int} (ht : t.isPointer = false)
    (h : itemSize structs t = .ok (some size)) :
    ∃ base dims, specSize structs t.spec = .ok base ∧ t.dims = some dims ∧ size = base * (dims.prod : Nat) := by
  cases hdims : t.dims with
  | none =>
    rw [itemSize_of_dims_eq_none hdims] at h
    cases h
  | some dims =>
    rw [itemSize_of_dims hdims, Fallible.map_eq_ok, baseSize, ht] at h
    obtain ⟨base, hbase, h⟩ := h
    cases h
    exact ⟨base, dims, hbase, rfl, rfl⟩

theorem totalLength_eq_some {length : Int} (h : totalLength structs v = .ok (some length)) :
    ∃ size, itemSize structs v.type = .ok (some size) ∧ length = size * itemCount v := by
  rw [totalLength_eq_map, Fallible.map_eq_ok] at h
  obtain ⟨size, hsize, h⟩ := h
  obtain ⟨size, rfl, rfl⟩ := Option.map_eq_some_iff.mp h
  exact ⟨size, hsize, rfl⟩

/-- A variable that is no pointer and takes up any room at all has room for one of what its type names. -/
theorem specSize_le_totalLength {size length : Int} (hv : v.type.isPointer = false)
    (hsize : specSize structs v.type.spec = .ok size) (hpos : 0 < size)
    (hlength : totalLength structs v = .ok (some length)) (hroom : 0 < length) : size ≤ length := by
  obtain ⟨item, hitem, rfl⟩ := totalLength_eq_some hlength
  obtain ⟨base, dims, hbase, -, rfl⟩ := itemSize_eq_some hv hitem
  obtain rfl : base = size := Except.ok.inj (hbase.symm.trans hsize)
  rw [Int.mul_assoc] at hroom ⊢
  have htimes : 0 < (dims.prod : Nat) * itemCount v := (mul_pos_iff_of_pos_left hpos).mp hroom
  exact le_mul_of_one_le_right (Int.le_of_lt hpos) htimes

end MemoryAtlas.Layout
