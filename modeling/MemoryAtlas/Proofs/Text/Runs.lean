import MemoryAtlas.Text.Characters
import Mathlib.Data.List.Induction

/-!
The runs of a text are its longest non-empty pieces of one class. A character of another class splits a text
into two whose runs are found apart. A text occurs in another if it is any piece of it.
-/

namespace MemoryAtlas.Text

variable {p : Char → Bool} {run x y s : List Char} {c : Char}

theorem forall_bne_of_notMem (h : c ∉ s) : ∀ d ∈ s, (d != c) = true := by
  intro d hd
  rw [bne_iff_ne]
  rintro rfl
  exact h hd

def IsRun (p : Char → Bool) (run s : List Char) : Prop :=
  ∃ front behind, s = front ++ (run ++ behind) ∧ run ≠ [] ∧ (∀ c ∈ run, p c = true) ∧
    (∀ c ∈ front.getLast?, p c = false) ∧ (∀ c ∈ behind.head?, p c = false)

@[simp] theorem runs_nil (p : Char → Bool) : runs p [] = [] := by
  simp [runs]

theorem runs_append_cons (hc : p c = false) (x y : List Char) : runs p (x ++ c :: y) = runs p x ++ runs p y := by
  rw [runs, List.splitOnP_append_cons x y (by simp [hc]), List.filter_append]
  rfl

theorem runs_cons (hc : p c = false) (s : List Char) : runs p (c :: s) = runs p s := by
  simpa using runs_append_cons hc [] s

theorem runs_of_forall (hs : s ≠ []) (h : ∀ c ∈ s, p c = true) : runs p s = [s] := by
  rw [runs, List.splitOnP_eq_singleton fun c hc => by simp [h c hc]]
  simp [hs]

theorem exists_gap (p : Char → Bool) (s : List Char) :
    (∀ c ∈ s, p c = true) ∨ ∃ x c y, s = x ++ c :: y ∧ p c = false := by
  by_cases h : ∀ c ∈ s, p c = true
  · exact .inl h
  · simp only [Classical.not_forall, Bool.not_eq_true, exists_prop] at h
    obtain ⟨c, hmem, hc⟩ := h
    obtain ⟨x, y, rfl⟩ := List.append_of_mem hmem
    exact .inr ⟨x, c, y, rfl, hc⟩

theorem isRun_of_forall (h : ∀ c ∈ s, p c = true) : IsRun p run s ↔ run = s ∧ s ≠ [] := by
  constructor
  · rintro ⟨front, behind, rfl, hne, -, hfront, hbehind⟩
    have hnofront : front = [] := by
      cases hlast : front.getLast? with
      | none => exact List.getLast?_eq_none_iff.mp hlast
      | some c =>
        have hc := h c (List.mem_append_left _ (List.mem_of_getLast? hlast))
        simp [hfront c hlast] at hc
    have hnobehind : behind = [] := by
      cases hhead : behind.head? with
      | none => exact List.head?_eq_none_iff.mp hhead
      | some c =>
        have hc := h c (List.mem_append_right _ (List.mem_append_right _ (List.mem_of_mem_head? hhead)))
        simp [hbehind c hhead] at hc
    subst hnofront hnobehind
    simp [hne]
  · rintro ⟨rfl, hne⟩
    exact ⟨[], [], by simp, hne, h, by simp, by simp⟩

theorem IsRun.left (hc : p c = false) (h : IsRun p run x) : IsRun p run (x ++ c :: y) := by
  obtain ⟨front, behind, rfl, hne, hrun, hfront, hbehind⟩ := h
  refine ⟨front, behind ++ c :: y, by simp, hne, hrun, hfront, ?_⟩
  cases behind with
  | nil => simpa using hc
  | cons d behind => simpa using hbehind

theorem IsRun.right (hc : p c = false) (h : IsRun p run y) : IsRun p run (x ++ c :: y) := by
  obtain ⟨front, behind, rfl, hne, hrun, hfront, hbehind⟩ := h
  refine ⟨x ++ c :: front, behind, by simp, hne, hrun, ?_, hbehind⟩
  cases front using List.reverseRecOn with
  | nil => simpa using hc
  | append_singleton front d => simpa [List.getLast?_append, List.getLast?_cons] using hfront

/-- No run goes over a character of another class. -/
theorem isRun_append_cons (hc : p c = false) : IsRun p run (x ++ c :: y) ↔ IsRun p run x ∨ IsRun p run y := by
  constructor
  · rintro ⟨front, behind, heq, hne, hrun, hfront, hbehind⟩
    have hnotMem : c ∉ run := fun hmem => by simp [hrun c hmem] at hc
    rcases List.append_eq_append_iff.mp heq with ⟨between, rfl, hy⟩ | ⟨rest, rfl, hrest⟩
    · -- The run starts at or behind the character.
      cases between with
      | nil =>
        cases run with
        | nil => exact absurd rfl hne
        | cons d run => exact absurd (List.cons.inj hy).1 (List.ne_of_not_mem_cons hnotMem)
      | cons d between =>
        obtain ⟨rfl, rfl⟩ := List.cons.inj hy
        refine .inr ⟨between, behind, rfl, hne, hrun, fun d hd => hfront d ?_, hbehind⟩
        simp [List.getLast?_append, List.getLast?_cons, Option.mem_def.mp hd]
    · rcases List.append_eq_append_iff.mp hrest with ⟨between, rfl, rfl⟩ | ⟨beyond, rfl, hbeyond⟩
      · refine .inl ⟨front, between, rfl, hne, hrun, hfront, fun d hd => hbehind d ?_⟩
        simp [List.head?_append, Option.mem_def.mp hd]
      · cases beyond with
        | nil => exact .inl ⟨front, [], by simp, by simpa using hne, by simpa using hrun, hfront, by simp⟩
        | cons d beyond =>
          obtain ⟨rfl, -⟩ := List.cons.inj hbeyond
          exact absurd (by simp) hnotMem
  · rintro (h | h)
    · exact h.left hc
    · exact h.right hc

theorem mem_runs_iff (p : Char → Bool) (run s : List Char) : run ∈ runs p s ↔ IsRun p run s := by
  generalize hn : s.length = n
  induction n using Nat.strongRecOn generalizing s with
  | _ n ih =>
    rcases exists_gap p s with h | ⟨x, c, y, rfl, hc⟩
    · rw [isRun_of_forall h]
      by_cases hs : s = []
      · simp [hs]
      · simp [runs_of_forall hs h, hs]
    · rw [List.length_append, List.length_cons] at hn
      rw [runs_append_cons hc, List.mem_append, ih x.length (by omega) x rfl, ih y.length (by omega) y rfl,
        isRun_append_cons hc]

theorem occurs_iff (piece s : List Char) : occurs piece s = true ↔ piece <:+: s := by
  induction s with
  | nil => rw [occurs, List.isEmpty_iff, List.infix_nil]
  | cons c s ih => rw [occurs, Bool.or_eq_true, List.isPrefixOf_iff_prefix, ih, List.infix_cons_iff]

end MemoryAtlas.Text
