import MemoryAtlas.Proofs.Declarator
import MemoryAtlas.Proofs.View.Preference

/-!
The length of a variable in its row, which stands in the cell as a whole and in the tooltip on it as a size and a
count. The cell is made from the total length and the tooltip from the size of one item. A word that is no numeral is
no fault for either, while an unknown struct is one for both, which the cell shows and for which the tooltip is left
out.
-/

namespace MemoryAtlas

open Text (IsRun isWordChar)

/-- A word of the inner declarator is no numeral. -/
def TypeDecl.Unreadable (t : TypeDecl) : Prop := ∃ word, IsRun isWordChar word t.inner ∧ ¬ Hex.IsNumeral word

/-- The dimensions can be read, but they multiply the size of a struct that is not in the table. -/
structure TypeDecl.Unfounded (structs : StructTable) (t : TypeDecl) : Prop where
  numerals : ∀ word, IsRun isWordChar word t.inner → Hex.IsNumeral word
  item : t.isPointer = false
  struct : ∃ name, t.spec = .struct name ∧ structs.find? (.text name) = none

/-- What a tooltip says of items of the size. A single one is not worth a tooltip. -/
def Var.countTip? (v : Var) (size : String) : Option String :=
  v.count.bind fun c => if c = 1 then none else some ("Size: " ++ size ++ "\nCount: " ++ Hex.write c)

def Entry.tooltip? (structs : StructTable) (parent : Option Int) (e : Entry) (c : Column) : Option String :=
  (e.tooltips structs parent).lookup c

section

variable {structs : StructTable} {t : TypeDecl} {v : Var} {e : Entry}

/-! The ways in which asking for the size of an item ends -/

theorem Layout.itemSize_eq_none_iff_unreadable (structs : StructTable) (t : TypeDecl) :
    itemSize structs t = .ok none ↔ t.Unreadable := by
  rw [itemSize_eq_none_iff, dims_eq_none_iff_isRun, TypeDecl.Unreadable]

theorem Layout.exists_itemSize_eq_error_iff : (∃ fault, itemSize structs t = .error fault) ↔ t.Unfounded structs := by
  constructor
  · rintro ⟨fault, h⟩
    obtain ⟨hdims, hbase⟩ := itemSize_eq_error_iff.mp h
    obtain ⟨hitem, hspec⟩ := baseSize_eq_error_iff.mp hbase
    obtain ⟨name, hname, hfind, -⟩ := specSize_eq_error_iff.mp hspec
    exact ⟨(dims_ne_none_iff_isRun t).mp hdims, hitem, name, hname, hfind⟩
  · rintro ⟨hnumerals, hitem, name, hname, hfind⟩
    have hspec := specSize_eq_error_iff.mpr ⟨name, hname, hfind, rfl⟩
    have hbase := baseSize_eq_error_iff.mpr ⟨hitem, hspec⟩
    exact ⟨_, itemSize_eq_error_iff.mpr ⟨(dims_ne_none_iff_isRun t).mpr hnumerals, hbase⟩⟩

theorem Layout.exists_totalLength_eq_some_iff (structs : StructTable) (v : Var) :
    (∃ n, totalLength structs v = .ok (some n)) ↔ ¬ (v.type.Unreadable ∨ v.type.Unfounded structs) := by
  rw [← itemSize_eq_none_iff_unreadable structs, ← exists_itemSize_eq_error_iff, totalLength_eq_map]
  cases itemSize structs v.type with
  | error fault => simp
  | ok size => cases size <;> simp

theorem Layout.lengthText_ne_questionMark_iff (structs : StructTable) (v : Var) :
    lengthText structs v ≠ "?" ↔ ∃ n, totalLength structs v = .ok (some n) := by
  rw [lengthText]
  cases totalLength structs v with
  | error fault => simp [sizeText]
  | ok length => cases length <;> simp [sizeText, Hex.write_ne_questionMark]

/-! What is shown -/

theorem Layout.lengthTooltip_eq_map (structs : StructTable) (v : Var) :
    lengthTooltip structs v =
      if itemCount v = 1 then .ok ""
      else (fun size => "Size: " ++ sizeText size ++ "\nCount: " ++ Hex.write (itemCount v)) <$>
        itemSize structs v.type := by
  rw [lengthTooltip, bind_pure_comp]

/-- The other tooltips of the row are on other columns. -/
theorem Entry.Placed.exists_allTooltips (h : e.Placed v) (structs : StructTable) (parent : Option Int) :
    ∃ others : List (Column × String), others.lookup .length = none ∧
      e.allTooltips structs parent =
        (match Layout.lengthTooltip structs v with
          | .ok tip => [(.length, tip)]
          | .error _ => []) ++ others := by
  cases h with
  | data d => exact ⟨[(.type, _)], rfl, rfl⟩
  | field f => exact ⟨[(.type, _), (.offset, _)], rfl, List.append_assoc _ _ _⟩

theorem Entry.Placed.tooltip?_length (h : e.Placed v) (structs : StructTable) (parent : Option Int) :
    e.tooltip? structs parent .length =
      match Layout.lengthTooltip structs v with
      | .ok tip => if tip = "" then none else some tip
      | .error _ => none := by
  obtain ⟨others, hothers, hall⟩ := h.exists_allTooltips structs parent
  rw [tooltip?, tooltips, hall, List.filter_append, List.lookup_append, lookup_filter_eq_none hothers, Option.or_none]
  cases Layout.lengthTooltip structs v with
  | error fault => rfl
  | ok tip => by_cases htip : tip = "" <;> simp [htip]

theorem Entry.Placed.cell?_length (h : e.Placed v) (structs : StructTable) :
    e.cell? structs .length = some (.text (Layout.lengthText structs v)) := by
  cases h <;> exact Entry.cell?_length structs _

theorem Var.countTip?_eq (v : Var) (size : String) :
    v.countTip? size =
      if Layout.itemCount v = 1 then none
      else some ("Size: " ++ size ++ "\nCount: " ++ Hex.write (Layout.itemCount v)) := by
  unfold countTip? Layout.itemCount
  cases v.count <;> simp

/-- A size that is not known has a tooltip like any other. -/
theorem Entry.Placed.tooltip?_of_itemSize (h : e.Placed v) (parent : Option Int) {size : Option Int}
    (hsize : Layout.itemSize structs v.type = .ok size) :
    e.tooltip? structs parent .length = v.countTip? (Layout.sizeText size) := by
  rw [h.tooltip?_length, Layout.lengthTooltip_eq_map, hsize, v.countTip?_eq]
  by_cases hcount : Layout.itemCount v = 1
  · simp [hcount]
  · simp [hcount, String.append_assoc]

theorem Entry.Placed.tooltip?_of_unfounded (h : e.Placed v) (parent : Option Int) (ht : v.type.Unfounded structs) :
    e.tooltip? structs parent .length = none := by
  obtain ⟨fault, hfault⟩ := Layout.exists_itemSize_eq_error_iff.mpr ht
  rw [h.tooltip?_length, Layout.lengthTooltip_eq_map, hfault]
  by_cases hcount : Layout.itemCount v = 1
  · simp [hcount]
  · simp [hcount]

/-- The cell has the total length. The tooltip has its factors, unless one of them is a single item. The cell has a
question mark if and only if the length cannot be told: because of a word that is no numeral, which the tooltip has as
a question mark too, or else because of a struct that is not known, and then there is no tooltip. -/
theorem length_agrees (h : e.Placed v) (structs : StructTable) (parent : Option Int) :
    ∃ shown, e.cell? structs .length = some (.text shown) ∧
      (∀ n, Layout.totalLength structs v = .ok (some n) → shown = Hex.write n ∧
        ∃ a, Layout.itemSize structs v.type = .ok (some a) ∧ a * v.count.getD 1 = n ∧
          e.tooltip? structs parent .length = v.countTip? (Hex.write a)) ∧
      ((∃ n, Layout.totalLength structs v = .ok (some n)) ↔ shown ≠ "?") ∧
      (shown = "?" ↔ v.type.Unreadable ∨ v.type.Unfounded structs) ∧
      (v.type.Unreadable → e.tooltip? structs parent .length = v.countTip? "?") ∧
      (v.type.Unfounded structs → e.tooltip? structs parent .length = none) := by
  have hknown := Layout.lengthText_ne_questionMark_iff structs v
  refine ⟨Layout.lengthText structs v, h.cell?_length structs, fun n hn => ?_, hknown.symm, ?_, fun ht => ?_,
    h.tooltip?_of_unfounded parent⟩
  · obtain ⟨a, ha, rfl⟩ := Layout.totalLength_eq_some hn
    have htip := h.tooltip?_of_itemSize parent ha
    rw [Layout.sizeText] at htip
    refine ⟨?_, a, ha, rfl, htip⟩
    simp only [Layout.lengthText, hn, Layout.sizeText]
  · exact not_iff_not.mp (hknown.trans (Layout.exists_totalLength_eq_some_iff structs v))
  · have htip := h.tooltip?_of_itemSize parent ((Layout.itemSize_eq_none_iff_unreadable structs v.type).mpr ht)
    rwa [Layout.sizeText] at htip

end

/-- Three of the type. -/
def three (type : String) : Data where
  label := .null
  desc := .null
  notes := .null
  type := TypeDecl.parse type
  count := some 3
  category := none
  enum := .null
  addr := 16

/-- A struct that is not known is no matter for a pointer, and none where a word is no numeral. -/
theorem length_agrees_three :
    ((Entry.data (three "Row *[2]")).cell? Layout.cells .length = some (.text "18") ∧
      (Entry.data (three "Row *[2]")).tooltip? Layout.cells none .length = some "Size: 8\nCount: 3") ∧
    ((Entry.data (three "Row [wide]")).cell? Layout.cells .length = some (.text "?") ∧
      (Entry.data (three "Row [wide]")).tooltip? Layout.cells none .length = some "Size: ?\nCount: 3") ∧
    (Entry.data (three "Row [2]")).cell? Layout.cells .length = some (.text "?") ∧
      (Entry.data (three "Row [2]")).tooltip? Layout.cells none .length = none := by
  refine ⟨?_, ?_, ?_⟩
  · obtain ⟨shown, hcell, hknown, -⟩ := length_agrees (.data (three "Row *[2]")) Layout.cells none
    obtain ⟨rfl, a, ha, -, htip⟩ := hknown 24 (by rfl)
    obtain rfl : 8 = a := by
      have h8 : Layout.itemSize Layout.cells (three "Row *[2]").type = .ok (some 8) := by rfl
      exact Option.some.inj (Except.ok.inj (h8.symm.trans ha))
    exact ⟨hcell.trans (by decide +kernel), htip.trans (by decide +kernel)⟩
  · obtain ⟨shown, hcell, -, -, hmark, hunreadable, -⟩ := length_agrees (.data (three "Row [wide]")) Layout.cells none
    have ht : (three "Row [wide]").type.Unreadable :=
      ⟨"wide".toList, (Text.mem_runs_iff _ _ _).mp (by decide +kernel), by decide⟩
    obtain rfl := hmark.mpr (.inl ht)
    exact ⟨hcell, (hunreadable ht).trans (by decide +kernel)⟩
  · obtain ⟨shown, hcell, -, -, hmark, -, hunfounded⟩ := length_agrees (.data (three "Row [2]")) Layout.cells none
    have ht : (three "Row [2]").type.Unfounded Layout.cells :=
      ⟨(Layout.dims_ne_none_iff_isRun _).mp (by decide +kernel), rfl, "Row", rfl, rfl⟩
    obtain rfl := hmark.mpr (.inr ht)
    exact ⟨hcell, hunfounded ht⟩

end MemoryAtlas
