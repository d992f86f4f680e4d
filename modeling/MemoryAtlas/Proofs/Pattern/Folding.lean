import MemoryAtlas.Pattern.Syntax
import MemoryAtlas.Proofs.Text.Case

/-!
Where case is ignored, a character counts as its lower case. The digits of hexadecimal numerals and the `x` in their
mark come from no characters but the letters of ASCII in either case (`eq_or_eq_toUpper_of_fold`). A range of code points
that lower case leaves alone, and that are variants of no other letters, is met by no code points but its own
(`meets_full_iff`).
-/

namespace MemoryAtlas

namespace Text.Case

/-! Characters that become digits -/

/-- The code points of the digits, of the letters that are digits, and of the letter in the mark. -/
def numeralRanges : List (Nat × Nat) := [(0x30, 0x39), (0x61, 0x66), (0x78, 0x78)]

def latinCapitals : Run := ⟨0x41, 0x5A, 1, 32⟩

def otherRuns : List Run := lowerRuns.tail

theorem lowerRuns_eq_cons : lowerRuns = latinCapitals :: otherRuns := rfl

theorem otherRuns_avoid_numerals : otherRuns.all (Run.avoids numeralRanges) = true := by
  decide

theorem fold_cases (c : Char) :
    fold c = c ∨ fold c = 'i' ∨ ∃ r ∈ lowerRuns, r.Covers c.toNat ∧ fold c = Char.ofNat (c.toNat + r.shift).toNat := by
  rcases lowerOf_cases c with hself | hdotted | ⟨r, hr, hcovers, hrun⟩
  · exact .inl (by simp [fold, hself])
  · exact .inr (.inl (by simp [fold, hdotted]))
  · exact .inr (.inr ⟨r, hr, hcovers, by simp [fold, hrun]⟩)

theorem toNat_toUpper {d : Char} (hlow : 0x61 ≤ d.toNat) (hhigh : d.toNat ≤ 0x7A) :
    d.toUpper.toNat + 32 = d.toNat := by
  have hlower : 'a'.val ≤ d.val ∧ d.val ≤ 'z'.val := ⟨hlow, hhigh⟩
  have hupper : d.toUpper.val = d.val + ('A'.val - 'a'.val) := by
    delta Char.toUpper
    rw [dif_pos (by simpa using hlower)]
  have hval : d.val.toNat = d.toNat := rfl
  have hshift : ('A'.val - 'a'.val).toNat = 2 ^ 32 - 32 := rfl
  rw [Char.toNat, hupper, UInt32.toNat_add, hval, hshift]
  omega

/-- Some letters of other scripts become letters of ASCII, but none becomes a digit. -/
theorem eq_or_eq_toUpper_of_fold {c : Char} (h : CharSet.within numeralRanges (fold c).toNat = true) :
    c = fold c ∨ c = (fold c).toUpper := by
  rcases fold_cases c with hself | hdotted | ⟨r, hr, hcovers, hrun⟩
  · exact .inl hself.symm
  · rw [hdotted] at h
    exact absurd h (by decide)
  · have hvalid := Run.isValidChar_shifted hcovers (List.all_eq_true.mp lowerRuns_settled r hr)
    have htoNat : (fold c).toNat = (c.toNat + r.shift).toNat := by
      rw [hrun, toNat_ofNat hvalid]
    rw [lowerRuns_eq_cons, List.mem_cons] at hr
    rcases hr with rfl | hother
    · right
      obtain ⟨hfirst, hlast, -⟩ := hcovers
      simp only [latinCapitals] at hfirst hlast htoNat
      have hupper := toNat_toUpper (d := fold c) (by omega) (by omega)
      apply Char.toNat_inj.mp
      omega
    · have hout := Run.within_shifted hcovers (List.all_eq_true.mp otherRuns_avoid_numerals r hother)
      rw [← htoNat, h] at hout
      cases hout

end Text.Case

namespace Pattern

open Text.Case

/-! Ranges that ignoring case leaves as they are -/

/-- Lower case takes no code point of the range elsewhere, and none is a variant of another letter. -/
def isCaseless (low high : Nat) : Bool :=
  (lowerRuns.all fun r => Nat.blt r.last low || Nat.blt high r.first) &&
    (lowerSequences.all fun e => Nat.blt e.1 low || Nat.blt high e.1) &&
      kinGroups.all fun group => group.all fun m => Nat.blt m low || Nat.blt high m

variable {low high m n : Nat}

theorem mem_kin_self (n : Nat) : n ∈ kin n := by
  unfold kin
  cases hfind : kinGroups.find? fun group => group.contains n with
  | none => simp
  | some group => simpa using List.find?_some hfind

theorem eq_of_mem_kin (h : isCaseless low high = true) (hlow : low ≤ m) (hhigh : m ≤ high) (hm : m ∈ kin n) :
    m = n := by
  simp only [isCaseless, Bool.and_eq_true, List.all_eq_true, Bool.or_eq_true, Nat.blt_eq] at h
  unfold kin at hm
  cases hfind : kinGroups.find? fun group => group.contains n with
  | none =>
    rw [hfind] at hm
    exact List.mem_singleton.mp hm
  | some group =>
    rw [hfind] at hm
    have hout := h.2 group (List.mem_of_find?_eq_some hfind) m hm
    omega

theorem eq_of_mem_preimages (h : isCaseless low high = true) (hlow : low ≤ m) (hhigh : m ≤ high)
    (hm : m ∈ preimages n) : m = n := by
  simp only [isCaseless, Bool.and_eq_true, List.all_eq_true, Bool.or_eq_true, Nat.blt_eq] at h
  obtain ⟨⟨hruns, hsequences⟩, -⟩ := h
  simp only [preimages, List.mem_append, List.mem_cons, List.mem_filterMap] at hm
  rcases hm with (hself | ⟨r, hr, hshifted⟩) | ⟨e, he, hsequence⟩
  · exact hself
  · have hout := hruns r hr
    split at hshifted
    · next hcovers =>
      obtain rfl := Option.some.inj hshifted
      omega
    · cases hshifted
  · have hout := hsequences e he
    split at hsequence
    · obtain rfl := Option.some.inj hsequence
      omega
    · cases hsequence

theorem meets_full_iff (h : isCaseless low high = true) (n : Nat) :
    Folding.full.meets low high n = true ↔ low ≤ n ∧ n ≤ high := by
  simp only [Folding.meets, List.any_eq_true, List.mem_flatMap, Bool.and_eq_true, decide_eq_true_iff]
  constructor
  · rintro ⟨m, ⟨k, hk, hm⟩, hlow, hhigh⟩
    obtain rfl := eq_of_mem_preimages h hlow hhigh hm
    obtain rfl := eq_of_mem_kin h hlow hhigh hk
    exact ⟨hlow, hhigh⟩
  · rintro ⟨hlow, hhigh⟩
    exact ⟨n, ⟨n, mem_kin_self n, by simp [preimages]⟩, hlow, hhigh⟩

end Pattern

end MemoryAtlas
