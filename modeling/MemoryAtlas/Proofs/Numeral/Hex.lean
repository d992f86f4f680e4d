import MemoryAtlas.Numeral.Hex
import MemoryAtlas.Proofs.Traversal

/-!
Which texts are hexadecimal numerals: an optional mark and at least one digit of ASCII, and nothing else.
-/

namespace MemoryAtlas.Hex

def IsDigit (c : Char) : Prop := c ∈ "0123456789abcdefABCDEF".toList

instance (c : Char) : Decidable (IsDigit c) := inferInstanceAs (Decidable (c ∈ _))

def marks : List (List Char) := [[], ['0', 'x'], ['0', 'X']]

def IsNumeral (s : List Char) : Prop :=
  ∃ mark ∈ marks, ∃ digits, s = mark ++ digits ∧ digits ≠ [] ∧ ∀ c ∈ digits, IsDigit c

theorem le_iff_toNat_le (a b : Char) : a ≤ b ↔ a.toNat ≤ b.toNat := Iff.rfl

theorem isDigit_iff_toNat (c : Char) :
    IsDigit c ↔ c.toNat ∈ "0123456789abcdefABCDEF".toList.map Char.toNat := by
  rw [List.mem_map]
  constructor
  · intro h
    exact ⟨c, h, rfl⟩
  · rintro ⟨d, hd, heq⟩
    rwa [← Char.toNat_inj.mp heq]

theorem digit?_isSome_iff (c : Char) : (digit? c).isSome ↔ IsDigit c := by
  have hranges : (digit? c).isSome ↔ (48 ≤ c.toNat ∧ c.toNat ≤ 57) ∨ (97 ≤ c.toNat ∧ c.toNat ≤ 102) ∨
      (65 ≤ c.toNat ∧ c.toNat ≤ 70) := by
    simp only [digit?, le_iff_toNat_le, Char.reduceToNat]
    split
    · simp_all
    · split
      · simp_all
      · split <;> simp_all
  rw [hranges, isDigit_iff_toNat]
  simp only [String.reduceToList, List.map_cons, List.map_nil, Char.reduceToNat, List.mem_cons,
    List.not_mem_nil, or_false]
  omega

theorem unmarked_of_isDigit {s : List Char} (h : ∀ c ∈ s, IsDigit c) : unmarked s = s := by
  have hx : ¬ IsDigit 'x' ∧ ¬ IsDigit 'X' := by decide +kernel
  unfold unmarked
  split
  · exact absurd (h 'x' (by simp)) hx.1
  · exact absurd (h 'X' (by simp)) hx.2
  · rfl

theorem exists_mark_append_unmarked (s : List Char) : ∃ mark ∈ marks, s = mark ++ unmarked s := by
  unfold unmarked
  split
  · exact ⟨['0', 'x'], by simp [marks], rfl⟩
  · exact ⟨['0', 'X'], by simp [marks], rfl⟩
  · exact ⟨[], by simp [marks], rfl⟩

theorem unmarked_append {mark s : List Char} (hm : mark ∈ marks) (h : ∀ c ∈ s, IsDigit c) :
    unmarked (mark ++ s) = s := by
  simp only [marks, List.mem_cons, List.not_mem_nil, or_false] at hm
  rcases hm with rfl | rfl | rfl
  · exact unmarked_of_isDigit h
  · rfl
  · rfl

theorem readChars_isSome_iff_unmarked (s : List Char) :
    (readChars s).isSome ↔ unmarked s ≠ [] ∧ ∀ c ∈ unmarked s, IsDigit c := by
  unfold readChars
  split
  · next h => simp [h]
  · next h =>
    rw [Option.isSome_map, Traversal.isSome_mapM_iff]
    simp only [digit?_isSome_iff]
    exact ⟨fun hd => ⟨h, hd⟩, fun hd => hd.2⟩

theorem readChars_isSome_iff (s : List Char) : (readChars s).isSome ↔ IsNumeral s := by
  rw [readChars_isSome_iff_unmarked]
  constructor
  · rintro ⟨hne, hd⟩
    obtain ⟨mark, hm, hs⟩ := exists_mark_append_unmarked s
    exact ⟨mark, hm, unmarked s, hs, hne, hd⟩
  · rintro ⟨mark, hm, digits, rfl, hne, hd⟩
    rw [unmarked_append hm hd]
    exact ⟨hne, hd⟩

theorem isNumeral_of_readChars {s : List Char} {n : Nat} (h : readChars s = some n) : IsNumeral s :=
  (readChars_isSome_iff s).mp (by rw [h]; rfl)

theorem exists_readChars {s : List Char} (h : IsNumeral s) : ∃ n, readChars s = some n :=
  Option.isSome_iff_exists.mp ((readChars_isSome_iff s).mpr h)

theorem readChars_eq_none_iff (s : List Char) : readChars s = none ↔ ¬ IsNumeral s := by
  rw [← readChars_isSome_iff, Bool.not_eq_true, Option.isSome_eq_false_iff, Option.isNone_iff_eq_none]

theorem exists_cons_of_isNumeral {s : List Char} (h : IsNumeral s) : ∃ d rest, s = d :: rest ∧ IsDigit d := by
  obtain ⟨mark, hm, digits, rfl, hne, hd⟩ := h
  simp only [marks, List.mem_cons, List.not_mem_nil, or_false] at hm
  rcases hm with rfl | rfl | rfl
  · cases digits with
    | nil => exact absurd rfl hne
    | cons d digits => exact ⟨d, digits, rfl, hd d List.mem_cons_self⟩
  · exact ⟨'0', _, rfl, by decide +kernel⟩
  · exact ⟨'0', _, rfl, by decide +kernel⟩

theorem notMem_of_isNumeral {s : List Char} (h : IsNumeral s) {c : Char} (hc : ¬ IsDigit c)
    (hx : c ∉ ['0', 'x', 'X']) : c ∉ s := by
  obtain ⟨mark, hm, digits, rfl, -, hd⟩ := h
  rw [List.mem_append, not_or]
  refine ⟨fun hmem => hx ?_, fun hmem => hc (hd c hmem)⟩
  simp only [marks, List.mem_cons, List.not_mem_nil, or_false] at hm
  rcases hm with rfl | rfl | rfl <;> simp_all

/-! Numerals that are written -/

theorem toList_write (n : Nat) : (write n).toList = chars n := String.toList_ofList

theorem exists_digitChar_of_mem_toDigits {b n : Nat} (hb : 1 < b) {c : Char} (h : c ∈ Nat.toDigits b n) :
    ∃ d < b, c = Nat.digitChar d := by
  induction n using Nat.strongRecOn with
  | _ n ih =>
    rw [Nat.toDigits_eq_if hb] at h
    split at h
    · next hlt => exact ⟨n, hlt, List.mem_singleton.mp h⟩
    · next hge =>
      rcases List.mem_append.mp h with h | h
      · exact ih (n / b) (Nat.div_lt_self (by omega) hb) h
      · exact ⟨n % b, Nat.mod_lt n (by omega), List.mem_singleton.mp h⟩

theorem isDigit_of_mem_chars {n : Nat} {c : Char} (h : c ∈ chars n) : IsDigit c := by
  have hdigits : ∀ d < 16, IsDigit (Nat.digitChar d).toUpper := by decide +kernel
  obtain ⟨c, hc, rfl⟩ := List.mem_map.mp h
  obtain ⟨d, hd, rfl⟩ := exists_digitChar_of_mem_toDigits (by omega) hc
  exact hdigits d hd

theorem write_ne_questionMark (n : Int) : write n ≠ "?" := by
  intro h
  have hlist := congrArg String.toList h
  cases n with
  | ofNat n =>
    rw [write, String.toList_ofList] at hlist
    have hmem : '?' ∈ chars n := by simp [hlist]
    exact absurd (isDigit_of_mem_chars hmem) (by decide +kernel)
  | negSucc n =>
    rw [write, String.toList_ofList] at hlist
    exact absurd (List.cons.inj hlist).1 (by decide)

instance (s : List Char) : Decidable (IsNumeral s) := decidable_of_iff _ (readChars_isSome_iff s)

end MemoryAtlas.Hex
