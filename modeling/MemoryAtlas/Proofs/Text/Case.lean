import MemoryAtlas.Text.Case

/-!
A text in lower case stays as it is in lower case (`lower_lower`), and lower case brings in no character of a
set that all runs avoid. Runs are compared as intervals of code points and not point by point.
-/

namespace MemoryAtlas.Text

namespace Case

def dotAbove : Char := '\u0307'

namespace Run

def Covers (r : Run) (n : Nat) : Prop := r.first ≤ n ∧ n ≤ r.last ∧ (n - r.first) % r.stride = 0

/-- The code points that a run leads to lie between `low` and `high`. -/
def low (r : Run) : Nat := (r.first + r.shift).toNat

def high (r : Run) : Nat := (r.last + r.shift).toNat

/-- The code points of the run are an even distance apart. -/
def sparse (r : Run) : Bool := r.stride % 2 == 0 || r.first == r.last

/-- What the run leads to is in none of the ranges. -/
def avoids (ranges : List (Nat × Nat)) (r : Run) : Bool :=
  ranges.all fun range => Nat.blt r.high range.1 || Nat.blt range.2 r.low

end Run

theorem mapped_cases (runs : List Run) (n : Nat) :
    mapped runs n = n ∨ ∃ r ∈ runs, r.Covers n ∧ mapped runs n = (n + r.shift).toNat := by
  induction runs with
  | nil => exact .inl rfl
  | cons r runs ih =>
    simp only [mapped]
    by_cases hfirst : n < r.first
    · rw [if_pos hfirst]
      exact .inl rfl
    · rw [if_neg hfirst]
      by_cases hlast : n ≤ r.last
      · rw [if_pos hlast]
        by_cases hstride : (n - r.first) % r.stride = 0
        · rw [if_pos hstride]
          exact .inr ⟨r, List.mem_cons_self, ⟨Nat.le_of_not_lt hfirst, hlast, hstride⟩, rfl⟩
        · rw [if_neg hstride]
          exact .inl rfl
      · rw [if_neg hlast]
        rcases ih with h | ⟨s, hs, hcovers, h⟩
        · exact .inl h
        · exact .inr ⟨s, List.mem_cons_of_mem r hs, hcovers, h⟩

/-- The runs leave the code points between `low` and `high` as they are; if `sparse`, this is asked only of
those an even distance from `low`. -/
def leaves (low high : Nat) (sparse : Bool) : List Run → Bool
  | [] => true
  | r :: runs =>
    Nat.blt high r.first ||
      (Nat.blt r.last low || (sparse && r.stride % 2 == 0 && (low + r.first) % 2 == 1)) &&
        leaves low high sparse runs

theorem mapped_of_leaves {low high n : Nat} {sparse : Bool} {runs : List Run}
    (h : leaves low high sparse runs = true) (hlow : low ≤ n) (hhigh : n ≤ high)
    (hsparse : sparse = true → (n - low) % 2 = 0) : mapped runs n = n := by
  induction runs with
  | nil => rfl
  | cons r runs ih =>
    simp only [leaves, Bool.or_eq_true, Bool.and_eq_true, Nat.blt_eq, beq_iff_eq] at h
    simp only [mapped]
    split
    · rfl
    · next hfirst =>
      rcases h with h | ⟨h, hrest⟩
      · omega
      · split
        · next hlast =>
          rcases h with h | ⟨⟨hs, heven⟩, hodd⟩
          · omega
          · -- the distances from `low` and from the start of the run differ in parity
            have hn := hsparse hs
            rw [if_neg]
            intro hstride
            have hdvd : 2 ∣ n - r.first :=
              Nat.dvd_trans (Nat.dvd_of_mod_eq_zero heven) (Nat.dvd_of_mod_eq_zero hstride)
            omega
        · exact ih hrest

/-- What the run leads to is a character that all runs leave as it is. -/
def Run.isSettled (r : Run) : Bool :=
  Nat.blt 0 r.low && (Nat.blt r.high 0xD800 || Nat.blt 0xDFFF r.low && Nat.blt r.high 0x110000) &&
    r.avoids (lowerSequences.map fun e => (e.1, e.1)) && leaves r.low r.high r.sparse lowerRuns

theorem lowerRuns_settled : lowerRuns.all Run.isSettled = true := by
  decide +kernel

namespace Run

variable {r : Run} {n : Nat}

theorem shifted_between (h : r.Covers n) : r.low ≤ (n + r.shift).toNat ∧ (n + r.shift).toNat ≤ r.high := by
  obtain ⟨hfirst, hlast, -⟩ := h
  simp only [low, high]
  omega

theorem even_of_sparse (h : r.Covers n) (hlow : 0 < r.low) (hs : r.sparse = true) :
    ((n + r.shift).toNat - r.low) % 2 = 0 := by
  obtain ⟨hfirst, hlast, hstride⟩ := h
  have hn : (n - r.first) % 2 = 0 := by
    simp only [sparse, Bool.or_eq_true, beq_iff_eq] at hs
    rcases hs with heven | hone
    · have hdvd : 2 ∣ n - r.first :=
        Nat.dvd_trans (Nat.dvd_of_mod_eq_zero heven) (Nat.dvd_of_mod_eq_zero hstride)
      omega
    · omega
  simp only [low] at hlow ⊢
  omega

theorem isSettled_iff : r.isSettled = true ↔
    0 < r.low ∧ (r.high < 0xD800 ∨ 0xDFFF < r.low ∧ r.high < 0x110000) ∧
      r.avoids (lowerSequences.map fun e => (e.1, e.1)) = true ∧
      leaves r.low r.high r.sparse lowerRuns = true := by
  simp only [isSettled, Bool.and_eq_true, Bool.or_eq_true, Nat.blt_eq, and_assoc]

theorem mapped_shifted (h : r.Covers n) (hs : r.isSettled = true) :
    mapped lowerRuns (n + r.shift).toNat = (n + r.shift).toNat := by
  obtain ⟨hlow, -, -, hleaves⟩ := isSettled_iff.mp hs
  have hbetween := shifted_between h
  exact mapped_of_leaves hleaves hbetween.1 hbetween.2 (even_of_sparse h hlow)

theorem isValidChar_shifted (h : r.Covers n) (hs : r.isSettled = true) :
    (n + r.shift).toNat.isValidChar := by
  obtain ⟨hlow, hbounds, -, -⟩ := isSettled_iff.mp hs
  have hbetween := shifted_between h
  simp only [Nat.isValidChar]
  omega

/-- A run that avoids some ranges leads to no code point within them. -/
theorem within_shifted {ranges : List (Nat × Nat)} (h : r.Covers n) (ha : r.avoids ranges = true) :
    CharSet.within ranges (n + r.shift).toNat = false := by
  have hbetween := shifted_between h
  induction ranges with
  | nil => rfl
  | cons range ranges ih =>
    simp only [avoids, List.all_cons, Bool.and_eq_true, Bool.or_eq_true, Nat.blt_eq] at ha
    simp only [CharSet.within]
    split
    · rfl
    · rw [Bool.or_eq_false_iff, decide_eq_false_iff_not]
      exact ⟨by omega, ih ha.2⟩

end Run

/-- A character is its own lower case, or the dotted capital I, or a run leads from it to another one. -/
theorem lowerOf_cases (c : Char) :
    lowerOf c = [c] ∨ lowerOf c = ['i', dotAbove] ∨
      ∃ r ∈ lowerRuns, r.Covers c.toNat ∧ lowerOf c = [Char.ofNat (c.toNat + r.shift).toNat] := by
  unfold lowerOf expand
  cases hl : lowerSequences.lookup c.toNat with
  | some codes =>
    have hcodes : codes = [0x69, 0x307] := by
      simp only [lowerSequences, List.lookup_cons, List.lookup_nil] at hl
      split at hl
      · exact (Option.some.inj hl).symm
      · cases hl
    rw [hcodes]
    exact .inr (.inl rfl)
  | none =>
    rcases mapped_cases lowerRuns c.toNat with h | ⟨r, hr, hcovers, h⟩
    · left
      simp [h]
    · exact .inr (.inr ⟨r, hr, hcovers, by simp [h]⟩)

theorem toNat_ofNat {n : Nat} (h : n.isValidChar) : (Char.ofNat n).toNat = n := by
  rw [Char.ofNat, dif_pos h]
  rfl

theorem lowerOf_of_mapped {n : Nat} (hvalid : n.isValidChar) (hone : lowerSequences.lookup n = none)
    (hmapped : mapped lowerRuns n = n) : lowerOf (Char.ofNat n) = [Char.ofNat n] := by
  rw [lowerOf, expand, toNat_ofNat hvalid, hone, hmapped]

theorem lowerOf_of_shifted {r : Run} {n : Nat} (hr : r ∈ lowerRuns) (h : r.Covers n) :
    lowerOf (Char.ofNat (n + r.shift).toNat) = [Char.ofNat (n + r.shift).toNat] := by
  have hs : r.isSettled = true := List.all_eq_true.mp lowerRuns_settled r hr
  obtain ⟨-, -, havoids, -⟩ := Run.isSettled_iff.mp hs
  have hne : (n + r.shift).toNat ≠ 0x130 := by
    intro heq
    have hout := Run.within_shifted h havoids
    rw [heq] at hout
    exact absurd hout (by decide)
  have hone : lowerSequences.lookup (n + r.shift).toNat = none := by
    simp [lowerSequences, List.lookup_cons, beq_eq_false_iff_ne.mpr hne]
  exact lowerOf_of_mapped (Run.isValidChar_shifted h hs) hone (Run.mapped_shifted h hs)

/-- What the characters outside of the runs may become. -/
def loose : List Char := ['i', dotAbove, sigma, finalSigma]

theorem lowerOf_of_mem_loose {c : Char} (h : c ∈ loose) : lowerOf c = [c] := by
  simp only [loose, List.mem_cons, List.not_mem_nil, or_false] at h
  rcases h with rfl | rfl | rfl | rfl <;> decide +kernel

/-- A character that comes out of lower case is its own lower case. -/
theorem lowerOf_of_mem {c d : Char} (h : d ∈ lowerOf c) : lowerOf d = [d] := by
  rcases lowerOf_cases c with hself | hdotted | ⟨r, hr, hcovers, hrun⟩
  · rw [hself, List.mem_singleton] at h
    rw [h, hself]
  · rw [hdotted, List.mem_cons, List.mem_singleton] at h
    rcases h with rfl | rfl <;> rfl
  · rw [hrun, List.mem_singleton] at h
    rw [h]
    exact lowerOf_of_shifted hr hcovers
/-- What may stand for a character in lower case. -/
def Becomes (c d : Char) : Prop := d ∈ lowerOf c ∨ d = sigma ∨ d = finalSigma

theorem lowerOf_of_becomes {c d : Char} (h : Becomes c d) : lowerOf d = [d] := by
  rcases h with h | rfl | rfl
  · exact lowerOf_of_mem h
  · exact lowerOf_of_mem_loose (by simp [loose])
  · exact lowerOf_of_mem_loose (by simp [loose])

/-- In lower case no character but itself becomes one of the set. -/
def uncased (set : CharSet) : Bool :=
  lowerRuns.all (Run.avoids set.ranges) && loose.all fun c => !set.has c

theorem eq_of_becomes {set : CharSet} (hset : uncased set = true) {c d : Char} (h : Becomes c d)
    (hd : set.has d = true) : d = c := by
  simp only [uncased, Bool.and_eq_true, List.all_eq_true, Bool.not_eq_true'] at hset
  have hloose : d ∉ loose := by
    intro hmem
    rw [hset.2 d hmem] at hd
    cases hd
  rcases h with h | h | h
  · rcases lowerOf_cases c with hself | hdotted | ⟨r, hr, hcovers, hrun⟩
    · rwa [hself, List.mem_singleton] at h
    · rw [hdotted] at h
      exact absurd (List.mem_append_left [sigma, finalSigma] h) hloose
    · rw [hrun, List.mem_singleton] at h
      have hvalid := Run.isValidChar_shifted hcovers (List.all_eq_true.mp lowerRuns_settled r hr)
      have hout := Run.within_shifted hcovers (hset.1 r hr)
      rw [h, CharSet.has, toNat_ofNat hvalid, hout] at hd
      cases hd
  · exact absurd (by simp [h, loose]) hloose
  · exact absurd (by simp [h, loose]) hloose

end Case

open Case

theorem upper_cons (c : Char) (s : List Char) : upper (c :: s) = upperOf c ++ upper s := List.flatMap_cons

theorem lowerFrom_cons (before : List Char) (c : Char) (s : List Char) :
    ∃ d ds, lowerFrom before (c :: s) = d :: ds ++ lowerFrom (c :: before) s ∧ ∀ x ∈ d :: ds, Becomes c x := by
  rw [lowerFrom]
  split
  · refine ⟨_, [], rfl, fun x hx => ?_⟩
    rw [List.mem_singleton] at hx
    rw [hx]
    split
    · exact .inr (.inr rfl)
    · exact .inr (.inl rfl)
  · cases hc : lowerOf c with
    | nil => rcases lowerOf_cases c with h | h | ⟨r, -, -, h⟩ <;> rw [hc] at h <;> cases h
    | cons d ds =>
      refine ⟨d, ds, rfl, fun x hx => .inl ?_⟩
      rwa [hc]

theorem exists_becomes_of_mem_lowerFrom {before s : List Char} {d : Char} (h : d ∈ lowerFrom before s) :
    ∃ c ∈ s, Becomes c d := by
  induction s generalizing before with
  | nil => cases h
  | cons c s ih =>
    obtain ⟨e, es, heq, hall⟩ := lowerFrom_cons before c s
    rw [heq, List.mem_append] at h
    rcases h with h | h
    · exact ⟨c, List.mem_cons_self, hall d h⟩
    · obtain ⟨b, hb, h⟩ := ih h
      exact ⟨b, List.mem_cons_of_mem c hb, h⟩

theorem lowerFrom_eq_self {s : List Char} (h : ∀ c ∈ s, lowerOf c = [c]) (before : List Char) :
    lowerFrom before s = s := by
  induction s generalizing before with
  | nil => rfl
  | cons c s ih =>
    obtain ⟨hc, hs⟩ := List.forall_mem_cons.mp h
    have hne : c ≠ capitalSigma := by
      rintro rfl
      exact absurd hc (by decide +kernel)
    rw [lowerFrom, if_neg hne, hc, ih hs]
    rfl

theorem lower_lower (s : List Char) : lower (lower s) = lower s := by
  apply lowerFrom_eq_self
  intro d hd
  obtain ⟨c, -, hc⟩ := exists_becomes_of_mem_lowerFrom hd
  exact lowerOf_of_becomes hc

theorem mem_of_mem_lower {set : CharSet} (hset : uncased set = true) {s : List Char} {d : Char}
    (h : d ∈ lower s) (hd : set.has d = true) : d ∈ s := by
  obtain ⟨c, hc, hbecomes⟩ := exists_becomes_of_mem_lowerFrom h
  rwa [eq_of_becomes hset hbecomes hd]

theorem exists_lower_cons (c : Char) (s : List Char) :
    ∃ d tail, lower (c :: s) = d :: tail ∧ Becomes c d := by
  obtain ⟨d, ds, heq, hall⟩ := lowerFrom_cons [] c s
  exact ⟨d, _, heq, hall d List.mem_cons_self⟩

end MemoryAtlas.Text
