import MemoryAtlas.Proofs.Text.Case
import MemoryAtlas.Proofs.Text.Runs
import MemoryAtlas.Text.Characters

/-!
Lower case within a text. What becomes of a piece depends on what is around it only by the form of sigma, and that only
by whether a letter is next to the piece on either side. White space is no letter and stays as it is, so the words of
a text in lower case are the words of the text, each in lower case.
-/

namespace MemoryAtlas

namespace CharSet

/-- The code points of a set, one by one. -/
def points (s : CharSet) : List Nat := s.ranges.flatMap fun range => List.range' range.1 (range.2 + 1 - range.1)

theorem exists_range_of_within {ranges : List (Nat × Nat)} {n : Nat} (h : within ranges n = true) :
    ∃ range ∈ ranges, range.1 ≤ n ∧ n ≤ range.2 := by
  induction ranges with
  | nil => cases h
  | cons range ranges ih =>
    rw [within] at h
    split at h
    · cases h
    · next hfirst =>
      rcases Bool.or_eq_true_iff.mp h with hlast | h
      · exact ⟨range, List.mem_cons_self, Nat.le_of_not_lt hfirst, of_decide_eq_true hlast⟩
      · obtain ⟨other, hother, hn⟩ := ih h
        exact ⟨other, List.mem_cons_of_mem range hother, hn⟩

theorem mem_points {s : CharSet} {c : Char} (h : s.has c = true) : c.toNat ∈ s.points := by
  obtain ⟨range, hrange, hfirst, hlast⟩ := exists_range_of_within h
  refine List.mem_flatMap.mpr ⟨range, hrange, List.mem_range'_1.mpr ⟨hfirst, ?_⟩⟩
  omega

end CharSet

namespace Text

variable {before behind before' behind' x y s : List Char} {c : Char}

namespace Case

/-- A capital sigma is at the end of a word between the two texts, the first of which is read backwards. -/
def endsWord (before behind : List Char) : Bool := letterNext before && !letterNext behind

theorem letterNext_cons (c : Char) (s : List Char) :
    letterNext (c :: s) = if ignorable.has c then letterNext s else cased.has c := by
  unfold letterNext
  cases hc : ignorable.has c <;> simp [hc]

theorem letterNext_append (x y : List Char) :
    letterNext (x ++ y) = if x.all ignorable.has then letterNext y else letterNext x := by
  induction x with
  | nil => rfl
  | cons c x ih =>
    rw [List.cons_append, letterNext_cons, letterNext_cons, ih, List.all_cons]
    cases ignorable.has c <;> simp

theorem letterNext_append_congr (h : letterNext x = letterNext y) (s : List Char) :
    letterNext (s ++ x) = letterNext (s ++ y) := by
  rw [letterNext_append, letterNext_append, h]

end Case

open Case

/-- The lower case of a text between two others, the first of which is read backwards. -/
def lowerWithin (before behind : List Char) : List Char → List Char
  | [] => []
  | c :: rest =>
    (if c = capitalSigma then [if endsWord before (rest ++ behind) then finalSigma else sigma] else lowerOf c) ++
      lowerWithin (c :: before) behind rest

theorem lowerWithin_nil (before s : List Char) : lowerWithin before [] s = lowerFrom before s := by
  induction s generalizing before with
  | nil => rfl
  | cons c s ih => rw [lowerWithin, lowerFrom, ih, List.append_nil, endsWord]

theorem lowerWithin_append (before behind x y : List Char) :
    lowerWithin before behind (x ++ y) =
      lowerWithin before (y ++ behind) x ++ lowerWithin (x.reverse ++ before) behind y := by
  induction x generalizing before with
  | nil => rfl
  | cons c x ih => simp [lowerWithin, ih]

/-- It makes no difference what a text stands between if it is none to its capital sigmas. -/
theorem lowerWithin_congr
    (h : ∀ a b, s = a ++ capitalSigma :: b →
      endsWord (a.reverse ++ before) (b ++ behind) = endsWord (a.reverse ++ before') (b ++ behind')) :
    lowerWithin before behind s = lowerWithin before' behind' s := by
  induction s generalizing before before' with
  | nil => rfl
  | cons c s ih =>
    have hrest : lowerWithin (c :: before) behind s = lowerWithin (c :: before') behind' s := by
      refine ih fun a b hs => ?_
      simpa using h (c :: a) b (by rw [hs]; rfl)
    rw [lowerWithin, lowerWithin, hrest]
    split
    · next hc => 
      have hforms := h [] s (by rw [hc]; rfl)
      simp only [List.reverse_nil, List.nil_append] at hforms
      rw [hforms]
    · rfl

theorem lowerWithin_eq_lower (hbefore : letterNext before = false) (hbehind : letterNext behind = false)
    (s : List Char) : lowerWithin before behind s = lower s := by
  rw [lower, ← lowerWithin_nil]
  refine lowerWithin_congr fun a b _ => ?_
  have hfront : letterNext (a.reverse ++ before) = letterNext (a.reverse ++ []) := letterNext_append_congr hbefore _
  have hback : letterNext (b ++ behind) = letterNext (b ++ []) := letterNext_append_congr hbehind _
  rw [endsWord, endsWord, hfront, hback]

theorem lowerWithin_isInfix (x s y : List Char) : lowerWithin x.reverse y s <:+: lower (x ++ s ++ y) := by
  rw [lower, ← lowerWithin_nil, lowerWithin_append, lowerWithin_append, List.append_nil, List.append_nil]
  exact ⟨_, _, rfl⟩

/-! White space -/

/-- White space is passed over in no search for a letter and found in none, and lower case leaves it alone. -/
def isGap (n : Nat) : Bool :=
  !CharSet.within ignorable.ranges n && !CharSet.within cased.ranges n && n != capitalSigma.toNat &&
    (lowerSequences.lookup n).isNone && mapped lowerRuns n == n

theorem isGap_of_isBlank (hc : isBlank c = true) : isGap c.toNat = true := by
  have hall : blanks.points.all isGap = true := by decide +kernel
  exact List.all_eq_true.mp hall _ (CharSet.mem_points hc)

theorem letterNext_cons_of_isBlank (hc : isBlank c = true) (s : List Char) : letterNext (c :: s) = false := by
  have hgap := isGap_of_isBlank hc
  simp only [isGap, Bool.and_eq_true, Bool.not_eq_true'] at hgap
  obtain ⟨⟨⟨⟨hignorable, hcased⟩, -⟩, -⟩, -⟩ := hgap
  rw [letterNext_cons, CharSet.has, CharSet.has, hignorable, hcased]
  rfl

theorem lowerWithin_cons_of_isBlank (hc : isBlank c = true) (before behind s : List Char) :
    lowerWithin before behind (c :: s) = c :: lowerWithin (c :: before) behind s := by
  have hgap := isGap_of_isBlank hc
  simp only [isGap, Bool.and_eq_true, Bool.not_eq_true', bne_iff_ne, beq_iff_eq, Option.isNone_iff_eq_none] at hgap
  obtain ⟨⟨⟨-, hsigma⟩, hone⟩, hmapped⟩ := hgap
  have hself : lowerOf c = [c] := by rw [lowerOf, expand, hone, hmapped, Char.ofNat_toNat]
  rw [lowerWithin, if_neg fun h => hsigma (congrArg Char.toNat h), hself]
  rfl

/-- White space cuts a text in lower case into two texts in lower case. -/
theorem lower_append_cons (hc : isBlank c = true) (x y : List Char) :
    lower (x ++ c :: y) = lower x ++ c :: lower y := by
  have hfront : lowerWithin [] (c :: y) x = lower x := lowerWithin_eq_lower rfl (letterNext_cons_of_isBlank hc y) x
  have hback : lowerWithin (c :: x.reverse) [] y = lower y :=
    lowerWithin_eq_lower (letterNext_cons_of_isBlank hc x.reverse) rfl y
  rw [lower, ← lowerWithin_nil, lowerWithin_append, List.append_nil, List.append_nil, hfront,
    lowerWithin_cons_of_isBlank hc, hback]

theorem not_isBlank_of_mem_lower (h : ∀ c ∈ s, isBlank c = false) : ∀ d ∈ lower s, isBlank d = false := by
  have hblanks : uncased blanks = true := by decide +kernel
  intro d hd
  refine Bool.eq_false_iff.mpr fun hblank => ?_
  have hfalse := h d (mem_of_mem_lower hblanks hd hblank)
  rw [hblank] at hfalse
  cases hfalse

theorem lower_ne_nil (h : s ≠ []) : lower s ≠ [] := by
  obtain ⟨c, s, rfl⟩ := List.exists_cons_of_ne_nil h
  obtain ⟨d, tail, hcons, -⟩ := exists_lower_cons c s
  rw [hcons]
  exact List.cons_ne_nil d tail

theorem words_lower (s : List Char) : words (lower s) = (words s).map lower := by
  generalize hn : s.length = n
  induction n using Nat.strongRecOn generalizing s with
  | _ n ih =>
    rcases exists_gap (fun c => !isBlank c) s with h | ⟨x, c, y, rfl, hc⟩
    · by_cases hs : s = []
      · subst hs
        rfl
      · have hlower := not_isBlank_of_mem_lower (s := s) (by simpa using h)
        rw [words, words, runs_of_forall hs h, runs_of_forall (lower_ne_nil hs) (by simpa using hlower)]
        rfl
    · rw [List.length_append, List.length_cons] at hn
      have hblank : isBlank c = true := by simpa using hc
      rw [lower_append_cons hblank, words, words, runs_append_cons hc, runs_append_cons hc, List.map_append]
      exact congrArg₂ (· ++ ·) (ih x.length (by omega) x rfl) (ih y.length (by omega) y rfl)

end Text

end MemoryAtlas
