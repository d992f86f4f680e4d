import MemoryAtlas.Text.Characters
import Mathlib.Data.List.TakeWhile

/-!
Texts without white space at their ends, which trimming leaves alone.
-/

namespace MemoryAtlas.Text

variable {s : List Char} {c : Char}

def Trimmed (s : List Char) : Prop :=
  (∀ c ∈ s.head?, isBlank c = false) ∧ (∀ c ∈ s.getLast?, isBlank c = false)

theorem trimmed_of_forall (h : ∀ c ∈ s, isBlank c = false) : Trimmed s :=
  ⟨fun c hc => h c (List.mem_of_mem_head? hc), fun c hc => h c (List.mem_of_getLast? hc)⟩

theorem dropWhile_isBlank_of_head (h : ∀ c ∈ s.head?, isBlank c = false) : s.dropWhile isBlank = s := by
  cases s with
  | nil => rfl
  | cons c s =>
    have hc := h c (by simp)
    rw [List.dropWhile_cons_of_neg (by simp [hc])]

theorem strip_of_trimmed (h : Trimmed s) : strip s = s := by
  have hlast : ∀ c ∈ s.reverse.head?, isBlank c = false := by
    rw [List.head?_reverse]
    exact h.2
  rw [strip, dropWhile_isBlank_of_head h.1, dropWhile_isBlank_of_head hlast, List.reverse_reverse]

theorem strip_cons_of_isBlank (hc : isBlank c = true) (s : List Char) : strip (c :: s) = strip s := by
  rw [strip, List.dropWhile_cons_of_pos hc, strip]

theorem strip_append_singleton (hc : isBlank c = true) (s : List Char) : strip (s ++ [c]) = strip s := by
  rw [strip, List.dropWhile_append]
  split
  · next hempty =>
    rw [List.isEmpty_iff] at hempty
    rw [List.dropWhile_cons_of_pos hc, strip, hempty]
    rfl
  · rw [List.reverse_concat, List.dropWhile_cons_of_pos hc, strip]

theorem strip_append_of_forall {gap : List Char} (h : ∀ c ∈ gap, isBlank c = true) (s : List Char) :
    strip (gap ++ s) = strip s := by
  rw [strip, List.dropWhile_append_of_pos h, strip]

theorem strip_append_right {gap : List Char} (h : ∀ c ∈ gap, isBlank c = true) (s : List Char) :
    strip (s ++ gap) = strip s := by
  induction gap generalizing s with
  | nil => rw [List.append_nil]
  | cons c gap ih =>
    obtain ⟨hc, hgap⟩ := List.forall_mem_cons.mp h
    rw [List.append_cons, ih hgap, strip_append_singleton hc]

theorem head?_dropWhile_isBlank (s : List Char) : ∀ c ∈ (s.dropWhile isBlank).head?, isBlank c = false := by
  intro c hc
  have h := List.head?_dropWhile_not isBlank s
  rw [Option.mem_def.mp hc] at h
  simpa using h

/-- White space in front of a text that does not end in white space. -/
theorem exists_leading_blanks (hsome : s ≠ []) (hlast : ∀ c ∈ s.getLast?, isBlank c = false) :
    ∃ gap rest, s = gap ++ rest ∧ (∀ c ∈ gap, isBlank c = true) ∧ Trimmed rest ∧ rest ≠ [] := by
  have hcut := List.takeWhile_append_dropWhile (p := isBlank) (l := s)
  refine ⟨_, _, hcut.symm, fun c hc => List.mem_takeWhile_imp hc, ⟨head?_dropWhile_isBlank s, fun c hc => ?_⟩, ?_⟩
  · apply hlast
    rw [← hcut, List.getLast?_append, Option.mem_def.mp hc]
    rfl
  · intro hnil
    have hnot := hlast _ (List.getLast?_eq_some_getLast hsome)
    rw [List.dropWhile_eq_nil_iff.mp hnil _ (List.getLast_mem hsome)] at hnot
    cases hnot

/-- What trimming leaves of a text without white space in front is the beginning of the text. -/
theorem trimmed_strip (s : List Char) : Trimmed (strip s) := by
  constructor
  · intro c hc
    have hprefix : strip s <+: s.dropWhile isBlank := by
      have hsuffix := List.dropWhile_suffix isBlank (l := (s.dropWhile isBlank).reverse)
      simpa [strip] using List.reverse_prefix.mpr hsuffix
    obtain ⟨rest, hrest⟩ := hprefix
    refine head?_dropWhile_isBlank s c ?_
    rw [← hrest, List.head?_append, Option.mem_def.mp hc]
    rfl
  · rw [strip, List.getLast?_reverse]
    exact head?_dropWhile_isBlank _

theorem isBlank_of_strip_eq_nil (h : strip s = []) : ∀ c ∈ s, isBlank c = true := by
  rw [strip, List.reverse_eq_nil_iff, List.dropWhile_eq_nil_iff] at h
  have hdrop : s.dropWhile isBlank = [] := by
    rw [← List.head?_eq_none_iff, Option.eq_none_iff_forall_not_mem]
    intro c hc
    have hblank := h c (List.mem_reverse.mpr (List.mem_of_mem_head? hc))
    rw [head?_dropWhile_isBlank s c hc] at hblank
    cases hblank
  exact List.dropWhile_eq_nil_iff.mp hdrop

end MemoryAtlas.Text
