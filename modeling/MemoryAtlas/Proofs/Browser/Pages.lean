import MemoryAtlas.Proofs.Browser.Visits
import Mathlib.Order.MinMax

/-!
The pages of a browser. Put together they are what is shown, and there is always one on view, because
whatever shows other entries shows them from the first page on.
-/

namespace MemoryAtlas.Browser

variable {files : Archive} {b : Browser} {action : Action} {i : Nat}

theorem pageSize_pos (b : Browser) : 0 < b.pageSize := b.settings.pageSize_pos

theorem pageCount_pos (b : Browser) : 0 < b.pageCount := Nat.le_max_right _ _

theorem lt_rowPages_iff (b : Browser) (i : Nat) :
    i < (b.shown.length + (b.pageSize - 1)) / b.pageSize ↔ i * b.pageSize < b.shown.length := by
  have hsize := b.pageSize_pos
  rw [← Nat.succ_le_iff, Nat.le_div_iff_mul_le hsize, Nat.succ_mul]
  omega

/-- Pages other than the first begin with an entry. -/
theorem mul_lt_of_lt_pageCount (hi : i < b.pageCount) (h : 0 < i ∨ 0 < b.shown.length) :
    i * b.pageSize < b.shown.length := by
  rcases lt_max_iff.mp hi with hi | hi
  · exact (b.lt_rowPages_iff i).mp hi
  · obtain rfl : i = 0 := by omega
    rw [Nat.zero_mul]
    omega

theorem length_le_pages (b : Browser) : b.shown.length ≤ b.pageCount * b.pageSize := by
  apply Nat.le_of_not_lt
  intro hlt
  have hbeyond := (b.lt_rowPages_iff b.pageCount).mpr hlt
  exact absurd (Nat.le_max_left _ 1) (Nat.not_le_of_lt hbeyond)

theorem length_pageAt (b : Browser) (i : Nat) :
    (b.pageAt i).length = min b.pageSize (b.shown.length - i * b.pageSize) := by
  rw [pageAt, List.length_take, List.length_drop]

/-- The first pages hold the first entries. -/
theorem flatMap_pageAt_range (b : Browser) (count : Nat) :
    (List.range count).flatMap b.pageAt = b.shown.take (count * b.pageSize) := by
  induction count with
  | zero => rw [Nat.zero_mul, List.take_zero, List.range_zero, List.flatMap_nil]
  | succ count ih =>
    rw [List.range_succ, List.flatMap_append, ih, List.flatMap_singleton, pageAt, Nat.succ_mul, List.take_add]

/-- Nothing is lost or shown twice when the pages are turned. -/
theorem flatMap_pageAt (b : Browser) : (List.range b.pageCount).flatMap b.pageAt = b.shown := by
  rw [flatMap_pageAt_range, List.take_of_length_le b.length_le_pages]

theorem length_pageAt_of_lt (h : i + 1 < b.pageCount) : (b.pageAt i).length = b.pageSize := by
  have hnext := mul_lt_of_lt_pageCount h (.inl (Nat.succ_pos i))
  rw [Nat.succ_mul] at hnext
  rw [length_pageAt]
  omega

theorem shown_eq_nil_of_pageAt (hi : i < b.pageCount) (h : b.pageAt i = []) : b.shown = [] := by
  apply Classical.byContradiction
  intro hshown
  have hpos := List.length_pos_iff.mpr hshown
  have hstart := mul_lt_of_lt_pageCount hi (.inr hpos)
  have hlength := b.length_pageAt i
  have hsize := b.pageSize_pos
  rw [h, List.length_nil] at hlength
  omega

/-! The text that counts rows -/

theorem rowsText_of_nil (h : b.shown = []) : b.rowsText = "No results" := by
  rw [rowsText, h]
  rfl

theorem rowsText_of_ne_nil (h : b.shown ≠ []) (hpage : b.page < b.pageCount) :
    ∃ first last, first = b.page * b.pageSize + 1 ∧ last + 1 = first + b.pageEntries.length ∧
      b.rowsText = toString first ++ "-" ++ toString last ++ " of " ++ toString b.shown.length := by
  have hpos := List.length_pos_iff.mpr h
  have hstart := mul_lt_of_lt_pageCount hpage (.inr hpos)
  refine ⟨_, min (b.page * b.pageSize + 1 + b.pageSize - 1) b.shown.length, rfl, ?_, ?_⟩
  · rw [pageEntries, length_pageAt]
    omega
  · rw [rowsText, if_neg (Nat.ne_of_gt hpos)]

theorem rowsText_eq_noResults_iff (hpage : b.page < b.pageCount) : b.rowsText = "No results" ↔ b.shown = [] := by
  constructor
  · intro htext
    apply Classical.byContradiction
    intro hshown
    obtain ⟨first, last, -, -, hrows⟩ := rowsText_of_ne_nil hshown hpage
    have hdash : '-' ∈ b.rowsText.toList := by simp [hrows]
    rw [htext] at hdash
    revert hdash
    decide
  · exact rowsText_of_nil

/-! A page on view -/

theorem pageEntries_setPage (hi : i < b.pageCount) :
    (b.setPage i).result = .ok () ∧ (b.setPage i).after.pageEntries = b.pageAt i := by
  have hindex : (0 : Int) ≤ i ∧ (i : Int) < b.pageCount := by omega
  rw [setPage, if_pos hindex]
  split
  · next heq =>
    obtain rfl : i = b.page := by omega
    exact ⟨rfl, rfl⟩
  · exact ⟨rfl, rfl⟩

theorem page_showing (b : Browser) (entries : List Entry) :
    (b.showing entries).page < (b.showing entries).pageCount := pageCount_pos _

theorem Effect.pageSize_eq {outcome : Outcome} (he : Effect files b action outcome) :
    outcome.after.pageSize = b.pageSize := by
  cases he with
  | quiet settings hsize hnone => exact hsize
  | stocked settings entries hsize hatlas => exact hsize
  | filtered settings entries hsize => exact hsize
  | turned page hpage => rfl
  | arranged hidden => rfl

/-- An action leaves the page where it was, goes back to the first one, or turns to one that there is. -/
theorem Effect.page_lt {outcome : Outcome} (he : Effect files b action outcome) (h : b.page < b.pageCount) :
    outcome.after.page < outcome.after.pageCount := by
  cases he with
  | quiet settings hsize hnone =>
    rw [pageCount, pageSize, hsize]
    exact h
  | stocked settings entries hsize hatlas => exact page_showing _ _
  | filtered settings entries hsize => exact page_showing _ _
  | turned page hpage => exact hpage
  | arranged hidden => exact h

/-- The pages of this size, one of which is on view, are what is shown, and the text says which part of it
is on view. -/
structure Paged (size : Nat) (b : Browser) : Prop where
  onView : b.page < b.pageCount
  entries : b.pageEntries = b.pageAt b.page
  turned : ∀ i : Nat, i < b.pageCount →
    (b.setPage i).result = .ok () ∧ (b.setPage i).after.pageEntries = b.pageAt i
  complete : (List.range b.pageCount).flatMap b.pageAt = b.shown
  full : ∀ i, i + 1 < b.pageCount → (b.pageAt i).length = size
  filled : ∀ i < b.pageCount, b.pageAt i = [] → b.shown = []
  noResults : b.rowsText = "No results" ↔ b.shown = []
  rows : b.shown ≠ [] → ∃ first last, first = b.page * size + 1 ∧ last + 1 = first + b.pageEntries.length ∧
    b.rowsText = toString first ++ "-" ++ toString last ++ " of " ++ toString b.shown.length

theorem paged_of_lt (h : b.page < b.pageCount) : Paged b.pageSize b where
  onView := h
  entries := rfl
  turned _ hi := pageEntries_setPage hi
  complete := b.flatMap_pageAt
  full _ hi := length_pageAt_of_lt hi
  filled _ hi hpage := shown_eq_nil_of_pageAt hi hpage
  noResults := rowsText_eq_noResults_iff h
  rows hshown := rowsText_of_ne_nil hshown h

theorem pageSize_follow (b : Browser) (steps : List Step) : (b.follow steps).pageSize = b.pageSize :=
  follow_of_act (P := fun c => c.pageSize = b.pageSize)
    (fun step _ c h => (effect_act step.files c step.action).pageSize_eq.trans h) rfl

theorem page_follow (h : b.page < b.pageCount) (steps : List Step) :
    (b.follow steps).page < (b.follow steps).pageCount :=
  follow_of_act (P := fun c => c.page < c.pageCount)
    (fun step _ c h => (effect_act step.files c step.action).page_lt h) h

/-- With any settings, whatever is done with whatever files, the pages have the size that is set, and one of
them is on view. -/
theorem paged_follow (settings : Settings) (steps : List Step) :
    Paged settings.pageSize ((start settings).follow steps) := by
  have hpage : (start settings).page < (start settings).pageCount := pageCount_pos _
  have hsize : ((start settings).follow steps).pageSize = settings.pageSize := pageSize_follow _ steps
  exact hsize ▸ paged_of_lt (page_follow hpage steps)

end MemoryAtlas.Browser
