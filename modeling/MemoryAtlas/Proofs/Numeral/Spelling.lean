import MemoryAtlas.Proofs.Numeral.Hex
import Mathlib.Data.List.Forall2
import Mathlib.Data.List.Induction

/-!
The spellings of a number: a mark or none, any number of zeros in front, and digits that may each be in either
case. Every spelling is read as its number.
-/

namespace MemoryAtlas.Hex

def SameDigit (c d : Char) : Prop := c = d ∨ c = d.toUpper

instance (c d : Char) : Decidable (SameDigit c d) := inferInstanceAs (Decidable (_ ∨ _))

def Spells (s : List Char) (n : Nat) : Prop :=
  ∃ mark ∈ marks, ∃ zeros digits, s = mark ++ (List.replicate zeros '0' ++ digits) ∧
    List.Forall₂ SameDigit digits (Nat.toDigits 16 n)

structure Numeral where
  text : List Char
  value : Nat
  spells : Spells text value

/-! Digits and what they stand for -/

theorem digit?_of_sameDigit {c : Char} {d : Nat} (hd : d < 16) (h : SameDigit c (Nat.digitChar d)) :
    digit? c = some d := by
  have hdigits : ∀ d < 16, digit? (Nat.digitChar d) = some d ∧ digit? (Nat.digitChar d).toUpper = some d := by
    decide +kernel
  rcases h with rfl | rfl
  · exact (hdigits d hd).1
  · exact (hdigits d hd).2

theorem forall_isDigit_of_mapM {s : List Char} {digits : List Nat} (h : s.mapM digit? = some digits) :
    ∀ c ∈ s, IsDigit c := by
  simp only [← digit?_isSome_iff, ← Traversal.isSome_mapM_iff, h, Option.isSome_some]

theorem value_append_singleton (digits : List Nat) (d : Nat) : value (digits ++ [d]) = 16 * value digits + d := by
  rw [value, List.foldl_append]
  rfl

theorem exists_toDigits_eq_map (n : Nat) :
    ∃ digits, Nat.toDigits 16 n = digits.map Nat.digitChar ∧ (∀ d ∈ digits, d < 16) ∧ value digits = n := by
  induction n using Nat.strongRecOn with
  | _ n ih =>
    rw [Nat.toDigits_eq_if (by omega)]
    split
    · next hlt => exact ⟨[n], rfl, by simpa using hlt, by simp [value]⟩
    · obtain ⟨digits, heq, hlt, hvalue⟩ := ih (n / 16) (Nat.div_lt_self (by omega) (by omega))
      refine ⟨digits ++ [n % 16], by simp [heq], ?_, ?_⟩
      · intro d hd
        rcases List.mem_append.mp hd with hd | hd
        · exact hlt d hd
        · rw [List.mem_singleton.mp hd]
          exact Nat.mod_lt n (by omega)
      · rw [value_append_singleton, hvalue, Nat.div_add_mod]

theorem mapM_digit? {s : List Char} {digits : List Nat} (hlt : ∀ d ∈ digits, d < 16)
    (h : List.Forall₂ SameDigit s (digits.map Nat.digitChar)) : s.mapM digit? = some digits := by
  induction digits generalizing s with
  | nil =>
    obtain rfl := List.forall₂_nil_right_iff.mp h
    rfl
  | cons d digits ih =>
    obtain ⟨hd, hdigits⟩ := List.forall_mem_cons.mp hlt
    obtain ⟨c, rest, hc, hrest, rfl⟩ := List.forall₂_cons_right_iff.mp h
    rw [List.mapM_cons, digit?_of_sameDigit hd hc, ih hdigits hrest]
    rfl

/-! Zeros in front -/

theorem mapM_digit?_replicate_append {s : List Char} {digits : List Nat} (zeros : Nat)
    (h : s.mapM digit? = some digits) :
    (List.replicate zeros '0' ++ s).mapM digit? = some (List.replicate zeros 0 ++ digits) := by
  induction zeros with
  | zero => exact h
  | succ zeros ih =>
    rw [List.replicate_succ, List.cons_append, List.mapM_cons, ih]
    rfl

theorem value_replicate_append (zeros : Nat) (digits : List Nat) :
    value (List.replicate zeros 0 ++ digits) = value digits := by
  induction zeros with
  | zero => rfl
  | succ zeros ih => exact ih

/-! Reading a spelling -/

theorem readChars_append {mark s : List Char} {digits : List Nat} (hm : mark ∈ marks) (hs : s ≠ [])
    (h : s.mapM digit? = some digits) : readChars (mark ++ s) = some (value digits) := by
  rw [readChars, unmarked_append hm (forall_isDigit_of_mapM h)]
  cases s with
  | nil => exact absurd rfl hs
  | cons c s =>
    dsimp only
    rw [h]
    rfl

theorem readChars_of_spells {s : List Char} {n : Nat} (h : Spells s n) : readChars s = some n := by
  obtain ⟨mark, hm, zeros, written, rfl, hwritten⟩ := h
  obtain ⟨digits, heq, hlt, hvalue⟩ := exists_toDigits_eq_map n
  have hne : written ≠ [] := by
    rintro rfl
    rw [List.forall₂_nil_left_iff] at hwritten
    exact Nat.toDigits_ne_nil hwritten
  have hread := mapM_digit?_replicate_append zeros (mapM_digit? hlt (heq ▸ hwritten))
  rw [readChars_append hm (by simp [hne]) hread, value_replicate_append, hvalue]

theorem Numeral.readChars_text (n : Numeral) : readChars n.text = some n.value :=
  readChars_of_spells n.spells

theorem Numeral.isNumeral_text (n : Numeral) : IsNumeral n.text :=
  isNumeral_of_readChars n.readChars_text

theorem Numeral.text_ne_nil (n : Numeral) : n.text ≠ [] := by
  intro h
  have hread := n.readChars_text
  rw [h] at hread
  cases hread

/-! Every numeral spells a number -/

theorem exists_sameDigit {c : Char} (h : IsDigit c) : ∃ d < 16, SameDigit c (Nat.digitChar d) := by
  have hdigits : "0123456789abcdefABCDEF".toList.all (fun c =>
      (List.range 16).any fun d => SameDigit c (Nat.digitChar d)) = true := by
    decide +kernel
  obtain ⟨d, hd, hsame⟩ := List.any_eq_true.mp (List.all_eq_true.mp hdigits c h)
  exact ⟨d, List.mem_range.mp hd, of_decide_eq_true hsame⟩

theorem toDigits_append_digit {n d : Nat} (hn : 0 < n) (hd : d < 16) :
    Nat.toDigits 16 (16 * n + d) = Nat.toDigits 16 n ++ [Nat.digitChar d] := by
  rw [← Nat.toDigits_append_toDigits (by omega) hn hd, Nat.toDigits_of_lt_base hd]

/-- Only zero is written with a zero in front, so digits behind others belong to the number unless these are
all zeros. -/
theorem exists_zeros_append {s : List Char} (hs : s ≠ []) (h : ∀ c ∈ s, IsDigit c) :
    ∃ zeros digits n, s = List.replicate zeros '0' ++ digits ∧
      List.Forall₂ SameDigit digits (Nat.toDigits 16 n) := by
  induction s using List.reverseRecOn with
  | nil => exact absurd rfl hs
  | append_singleton front c ih =>
    obtain ⟨d, hd, hc⟩ := exists_sameDigit (h c (by simp))
    have hlast : List.Forall₂ SameDigit [c] (Nat.toDigits 16 d) := by
      rw [Nat.toDigits_of_lt_base hd]
      exact .cons hc .nil
    by_cases hfront : front = []
    · exact ⟨0, [c], d, by simp [hfront], hlast⟩
    · obtain ⟨zeros, digits, n, rfl, hdigits⟩ := ih hfront fun b hb => h b (List.mem_append_left _ hb)
      rcases Nat.eq_zero_or_pos n with rfl | hn
      · obtain ⟨b, rest, hb, hrest, rfl⟩ := List.forall₂_cons_right_iff.mp hdigits
        obtain rfl := List.forall₂_nil_right_iff.mp hrest
        have hzero : b = '0' := by rcases hb with rfl | rfl <;> rfl
        exact ⟨zeros + 1, [c], d, by simp [hzero, List.replicate_succ'], hlast⟩
      · refine ⟨zeros, digits ++ [c], 16 * n + d, by simp, ?_⟩
        rw [toDigits_append_digit hn hd]
        exact List.rel_append hdigits (.cons hc .nil)

theorem isNumeral_iff_exists_spells (s : List Char) : IsNumeral s ↔ ∃ n, Spells s n := by
  constructor
  · rintro ⟨mark, hm, s, rfl, hs, hd⟩
    obtain ⟨zeros, digits, n, rfl, hdigits⟩ := exists_zeros_append hs hd
    exact ⟨n, mark, hm, zeros, digits, rfl, hdigits⟩
  · rintro ⟨n, h⟩
    exact Numeral.isNumeral_text ⟨s, n, h⟩

theorem readChars_eq_some_iff {s : List Char} {n : Nat} : readChars s = some n ↔ Spells s n := by
  constructor
  · intro h
    obtain ⟨m, hm⟩ := (isNumeral_iff_exists_spells s).mp (isNumeral_of_readChars h)
    obtain rfl := Option.some.inj (h.symm.trans (readChars_of_spells hm))
    exact hm
  · exact readChars_of_spells

theorem spells_append_chars {mark : List Char} (hm : mark ∈ marks) (n : Nat) : Spells (mark ++ chars n) n := by
  refine ⟨mark, hm, 0, chars n, by simp, ?_⟩
  rw [chars, List.forall₂_map_left_iff, List.forall₂_same]
  exact fun c _ => .inr rfl

/-! The characters of numerals -/

def alphabet : List Char := "0123456789abcdefABCDEF".toList ++ ['x', 'X']

theorem mem_alphabet_of_isNumeral {s : List Char} (h : IsNumeral s) {c : Char} (hc : c ∈ s) : c ∈ alphabet := by
  have hmarks : ['0', 'x', 'X'].all (fun c => c ∈ alphabet) = true := by decide +kernel
  by_contra hout
  have hdigit : ¬ IsDigit c := fun hd => hout (List.mem_append_left _ hd)
  exact notMem_of_isNumeral h hdigit (fun hx => hout (by simpa using List.all_eq_true.mp hmarks c hx)) hc

theorem Numeral.mem_alphabet (n : Numeral) {c : Char} (hc : c ∈ n.text) : c ∈ alphabet :=
  mem_alphabet_of_isNumeral n.isNumeral_text hc

end MemoryAtlas.Hex
