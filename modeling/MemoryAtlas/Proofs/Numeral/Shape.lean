import MemoryAtlas.Pattern.Reader
import MemoryAtlas.Pattern.Search
import MemoryAtlas.Proofs.Numeral.Hex
import MemoryAtlas.Proofs.Pattern.Folding

/-!
The shape of a hexadecimal numeral as a regular expression, which ignores case. A text matches it as a whole exactly
if it is a numeral (`accepts_iff`): the mark is taken before the digits are looked for, and given back where none follow.
-/

namespace MemoryAtlas

namespace Pattern

/-- The end of the text, and no other place. -/
def atEnd (p : Place) : Option Place := if p.after.isEmpty then some p else none

/-- The text from its start to its end is a match, with whatever greed gives back. -/
def matchesWhole (pattern : Pattern) (s : List Char) : Bool := (run pattern (Place.start s) atEnd).isSome

section

variable {test : CharTest} {body : Pattern} {p : Place} {k : Place → Option Place}
variable {fuel least : Nat} {last : Option Nat} {before s : List Char} {c : Char} {groups : List (Nat × List Char)}

theorem run_char_nil : run (.char test) ⟨before, [], groups⟩ k = none := rfl

theorem run_char_cons : run (.char test) ⟨before, c :: s, groups⟩ k =
    if test.accepts c then k ⟨c :: before, s, groups⟩ else none := rfl

theorem iterate_succ {step : Matcher} : iterate step .greedy (fuel + 1) (least + 1) none last p k =
    step p fun q => iterate step .greedy fuel least none last q k := rfl

/-- A step that went further than the one before it may be taken again. -/
theorem iterate_zero {step : Matcher} (hlast : last ≠ some p.before.length) :
    iterate step .greedy (fuel + 1) 0 none last p k =
      (step p fun q => iterate step .greedy fuel 0 none (some p.before.length) q k).or (k p) := by
  simp [iterate, hlast]

/-- Characters are taken up to the end of the text if they all pass the test. -/
theorem isSome_iterate_char_iff (hfuel : s.length < fuel) (hlast : ∀ n ∈ last, n < before.length) :
    (iterate (run (.char test)) .greedy fuel least none last ⟨before, s, groups⟩ atEnd).isSome = true ↔
      least ≤ s.length ∧ ∀ c ∈ s, test.accepts c = true := by
  have hne (last : Option Nat) (before : List Char) (h : ∀ n ∈ last, n < before.length) :
      last ≠ some before.length := fun heq => Nat.lt_irrefl _ (h _ heq)
  -- The fuel outlasts the text, and each step goes further than the one before, so only the text ends the steps.
  induction s generalizing fuel least last before with
  | nil =>
    obtain ⟨fuel, rfl⟩ := Nat.exists_eq_add_one_of_ne_zero (Nat.ne_of_gt hfuel)
    cases least with
    | zero =>
      rw [iterate_zero (hne last before hlast), run_char_nil]
      simp [atEnd]
    | succ least =>
      rw [iterate_succ, run_char_nil]
      simp
  | cons c s ih =>
    obtain ⟨fuel, rfl⟩ := Nat.exists_eq_add_one_of_ne_zero (Nat.ne_of_gt (Nat.zero_lt_of_lt hfuel))
    have hless : s.length < fuel := Nat.lt_of_succ_lt_succ hfuel
    have hbehind : atEnd ⟨before, c :: s, groups⟩ = none := rfl
    by_cases hc : test.accepts c = true
    · cases least with
      | zero =>
        rw [iterate_zero (hne last before hlast), run_char_cons, if_pos hc, hbehind, Option.or_none]
        refine (ih hless (by simp)).trans ?_
        simp [hc]
      | succ least =>
        have hlonger : ∀ n ∈ last, n < (c :: before).length := fun n hn => Nat.lt_succ_of_lt (hlast n hn)
        rw [iterate_succ, run_char_cons, if_pos hc]
        refine (ih hless hlonger).trans ?_
        simp [hc]
    · cases least with
      | zero =>
        rw [iterate_zero (hne last before hlast), run_char_cons, if_neg hc, hbehind]
        simp [hc]
      | succ least =>
        rw [iterate_succ, run_char_cons, if_neg hc]
        simp [hc]

theorem isSome_run_repeated_char_iff :
    (run (.repeated least none .greedy (.char test)) p atEnd).isSome = true ↔
      least ≤ p.after.length ∧ ∀ c ∈ p.after, test.accepts c = true :=
  isSome_iterate_char_iff (by omega) (by simp)

/-- What may be left out is tried first. -/
theorem isSome_run_optional_iff :
    (run (.repeated 0 (some 1) .greedy body) p k).isSome = true ↔
      (run body p k).isSome = true ∨ (k p).isSome = true := by
  have honce : run (.repeated 0 (some 1) .greedy body) p k = (run body p k).or (k p) := by
    simp [run, iterate]
  rw [honce, Option.isSome_or, Bool.or_eq_true]

end

/-- One character where case is ignored. -/
def letter (c : Char) : CharTest := ⟨.full, false, [.code c.toNat]⟩

theorem accepts_letter_iff {c d : Char} (hd : isCaseless d.toNat d.toNat = true) :
    (letter d).accepts c = true ↔ Text.Case.fold c = d := by
  have hmeets := meets_full_iff hd (Text.Case.fold c).toNat
  simp only [letter, CharTest.accepts, List.any_cons, List.any_nil, Member.has, Folding.apply, Bool.or_false,
    Bool.bne_false, hmeets]
  rw [← Char.toNat_inj]
  omega

end Pattern

namespace Hex

open Pattern

def digitTest : CharTest := ⟨.full, false, [.range 0x30 0x39, .range 0x61 0x66]⟩

def markShape : Pattern := .group 1 (.seq (.char (letter '0')) (.char (letter 'x')))

def digitsShape : Pattern := .repeated 1 none .greedy (.char digitTest)

def shape : Pattern := .seq (.repeated 0 (some 1) .greedy markShape) digitsShape

/-- What the shape is written as. -/
def expression : String := "(0x)?[0-9a-f]+"

theorem read_expression : Pattern.read expression.toList = .ok shape := by
  decide +kernel

theorem isDigit_of_fold {c d : Char} (hd : IsDigit d) (h : c = d ∨ c = d.toUpper) : IsDigit c := by
  have hupper : "0123456789abcdefABCDEF".toList.all (fun d => decide (IsDigit d.toUpper)) = true := by
    decide
  rcases h with rfl | rfl
  · exact hd
  · exact of_decide_eq_true (List.all_eq_true.mp hupper d hd)

theorem accepts_digitTest_iff (c : Char) : digitTest.accepts c = true ↔ IsDigit c := by
  have hdecimal : isCaseless 0x30 0x39 = true := by decide
  have hletters : isCaseless 0x61 0x66 = true := by decide
  simp only [digitTest, CharTest.accepts, List.any_cons, List.any_nil, Member.has, Folding.apply, Bool.or_false,
    Bool.bne_false, Bool.or_eq_true, meets_full_iff hdecimal, meets_full_iff hletters]
  constructor
  · intro h
    have hfold : IsDigit (Text.Case.fold c) := by
      rw [isDigit_iff_toNat]
      simp only [String.reduceToList, List.map_cons, List.map_nil, Char.reduceToNat, List.mem_cons,
        List.not_mem_nil, or_false]
      omega
    refine isDigit_of_fold hfold (Text.Case.eq_or_eq_toUpper_of_fold ?_)
    simp only [Text.Case.numeralRanges, CharSet.within]
    grind
  · intro h
    have hranges : "0123456789abcdefABCDEF".toList.all (fun c =>
        let n := (Text.Case.fold c).toNat
        decide (0x30 ≤ n ∧ n ≤ 0x39 ∨ 0x61 ≤ n ∧ n ≤ 0x66)) = true := by
      decide
    exact of_decide_eq_true (List.all_eq_true.mp hranges c h)

theorem fold_eq_zero_iff (c : Char) : Text.Case.fold c = '0' ↔ c = '0' := by
  constructor
  · intro h
    have hcases := Text.Case.eq_or_eq_toUpper_of_fold (c := c) (by rw [h]; decide)
    rw [h] at hcases
    rcases hcases with rfl | rfl <;> rfl
  · rintro rfl
    decide

theorem fold_eq_x_iff (c : Char) : Text.Case.fold c = 'x' ↔ c = 'x' ∨ c = 'X' := by
  constructor
  · intro h
    have hcases := Text.Case.eq_or_eq_toUpper_of_fold (c := c) (by rw [h]; decide)
    rwa [h] at hcases
  · rintro (rfl | rfl) <;> decide

theorem accepts_zero_iff (c : Char) : (letter '0').accepts c = true ↔ c = '0' := by
  rw [accepts_letter_iff (by decide), fold_eq_zero_iff]

theorem accepts_x_iff (c : Char) : (letter 'x').accepts c = true ↔ c = 'x' ∨ c = 'X' := by
  rw [accepts_letter_iff (by decide), fold_eq_x_iff]

/-- What comes behind the mark is asked only of a text with a mark in front, and of its rest. -/
theorem isSome_run_mark_iff {before s : List Char} {groups : List (Nat × List Char)} {k : Place → Option Place}
    {good : List Char → Prop} (hk : ∀ p, (k p).isSome = true ↔ good p.after) :
    (run markShape ⟨before, s, groups⟩ k).isSome = true ↔
      ∃ mark ∈ marks.tail, ∃ rest, s = mark ++ rest ∧ good rest := by
  rw [markShape, run, run]
  match s with
  | [] => simp [run_char_nil, marks]
  | [a] => simp [run_char_cons, run_char_nil, marks]
  | a :: b :: rest =>
    simp only [run_char_cons, accepts_zero_iff, accepts_x_iff]
    by_cases ha : a = '0'
    · by_cases hb : b = 'x' ∨ b = 'X'
      · simp only [ha, hb, if_true, hk]
        rcases hb with rfl | rfl <;> simp [marks]
      · simp_all [marks]
    · simp [ha, marks]

theorem isSome_run_digits_iff (p : Place) :
    (run digitsShape p atEnd).isSome = true ↔ p.after ≠ [] ∧ ∀ c ∈ p.after, IsDigit c := by
  simp only [digitsShape, isSome_run_repeated_char_iff, accepts_digitTest_iff, Nat.one_le_iff_ne_zero, ne_eq,
    List.length_eq_zero_iff]

theorem matchesWhole_shape_iff (s : List Char) : matchesWhole shape s = true ↔ IsNumeral s := by
  have hmark : (run markShape (Place.start s) fun q => run digitsShape q atEnd).isSome = true ↔
      ∃ mark ∈ marks.tail, ∃ rest, s = mark ++ rest ∧ (rest ≠ [] ∧ ∀ c ∈ rest, IsDigit c) :=
    isSome_run_mark_iff isSome_run_digits_iff
  rw [matchesWhole, shape, run, isSome_run_optional_iff, hmark, isSome_run_digits_iff]
  constructor
  · rintro (⟨mark, hm, rest, hs, hrest⟩ | hs)
    · exact ⟨mark, List.mem_of_mem_tail hm, rest, hs, hrest⟩
    · exact ⟨[], List.mem_cons_self, s, rfl, hs⟩
  · rintro ⟨mark, hm, rest, hs, hrest⟩
    rcases List.mem_cons.mp hm with rfl | hm
    · exact .inr (hs ▸ hrest)
    · exact .inl ⟨mark, hm, rest, hs, hrest⟩

/-- The text has the shape that the expression describes. -/
def accepts (s : List Char) : Bool :=
  match Pattern.read expression.toList with
  | .ok pattern => pattern.matchesWhole s
  | .error _ => false

theorem accepts_iff (s : List Char) : accepts s = true ↔ IsNumeral s := by
  rw [accepts, read_expression]
  exact matchesWhole_shape_iff s

end Hex

end MemoryAtlas
