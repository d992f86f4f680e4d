import MemoryAtlas.Document.Integer
import MemoryAtlas.Proofs.Numeral.Shape
import MemoryAtlas.Proofs.Numeral.Spelling
import MemoryAtlas.Proofs.Text.Blank

/-!
Hexadecimal numerals, written and read. What is read need not be what is written, for digits may be in either case and
stand behind a mark and zeros; but the number that is read is written as the digits in capitals, without the zeros that
do not count. A text is known as a numeral by its shape and then converted by rules that let many others pass, with
signs, low lines, white space and digits of all scripts in them. No text of the right shape is refused by these rules.
-/

namespace MemoryAtlas

namespace Hex

/-- Characters that may be in numerals of other kinds. -/
def Foreign (c : Char) : Prop :=
  c ∈ ['+', '-', '_'] ∨ Text.isBlank c = true ∨ Text.isDigit c = true ∧ 0x7F < c.toNat

instance (c : Char) : Decidable (Foreign c) := inferInstanceAs (Decidable (_ ∨ _))

theorem not_foreign_of_mem_alphabet {c : Char} (h : c ∈ alphabet) : ¬ Foreign c := by
  have hall : alphabet.all (fun c => !decide (Foreign c)) = true := by decide
  simpa using List.all_eq_true.mp hall c h

theorem isBlank_of_mem_alphabet {c : Char} (h : c ∈ alphabet) : Text.isBlank c = false := by
  have hforeign := not_foreign_of_mem_alphabet h
  simp only [Foreign, not_or, Bool.not_eq_true] at hforeign
  exact hforeign.2.1

end Hex

namespace Integer

open Hex (marks alphabet IsDigit)

variable {s : List Char} {n : Nat}

/-! Converting a numeral -/

theorem grouped_eq_mapM {digit? : Char → Option Nat} (hs : s ≠ []) (h : '_' ∉ s) :
    grouped digit? s = s.mapM digit? := by
  induction s with
  | nil => exact absurd rfl hs
  | cons c s ih =>
    cases s with
    | nil => cases hc : digit? c <;> simp [grouped, hc]
    | cons d s =>
      have hd : d ≠ '_' := by
        rintro rfl
        simp at h
      rw [List.mapM_cons, ← ih (by simp) (fun hmem => h (List.mem_cons_of_mem c hmem))]
      simp [grouped, hd]

theorem unpadded_of_forall (h : ∀ c ∈ s, isPadding c = false) : unpadded s = s := by
  have hnone {l : List Char} (hl : ∀ c ∈ l, isPadding c = false) : l.dropWhile isPadding = l := by
    cases l with
    | nil => rfl
    | cons c l => simp [hl c List.mem_cons_self]
  rw [unpadded, hnone h, hnone fun c hc => h c (List.mem_reverse.mp hc), List.reverse_reverse]

theorem splitSign_of_not_mem (hplus : '+' ∉ s) (hminus : '-' ∉ s) : splitSign s = (1, s) := by
  unfold splitSign
  split
  · exact absurd List.mem_cons_self hminus
  · exact absurd List.mem_cons_self hplus
  · rfl

theorem unmarked_append {mark : List Char} (hm : mark ∈ marks) (h : ∀ c ∈ s, IsDigit c) :
    unmarked (mark ++ s) = s := by
  have hline : '_' ∉ mark ++ s := by
    have hmark : marks.all (fun mark => '_' ∉ mark) = true := by decide
    have hdigit : ¬ IsDigit '_' := by decide
    rw [List.mem_append, not_or]
    exact ⟨of_decide_eq_true (List.all_eq_true.mp hmark mark hm), fun hmem => hdigit (h _ hmem)⟩
  unfold unmarked
  split
  · next heq => simp [heq] at hline
  · next heq => simp [heq] at hline
  · exact Hex.unmarked_append hm h

theorem plain_of_mem_alphabet {c : Char} (h : c ∈ alphabet) : plain c = c := by
  have hall : alphabet.all (fun c => plain c == c) = true := by decide
  simpa using List.all_eq_true.mp hall c h

/-- The conversion goes over all that numerals of other kinds may have, and finds nothing of it. -/
theorem readHexadecimal_of_readChars (h : Hex.readChars s = some n) : readHexadecimal s = .ok (n : Int) := by
  have hnumeral := Hex.isNumeral_of_readChars h
  have halphabet (c : Char) (hc : c ∈ s) : c ∈ alphabet := Hex.mem_alphabet_of_isNumeral hnumeral hc
  have hout (c : Char) (hc : Hex.Foreign c) : c ∉ s := fun hmem =>
    Hex.not_foreign_of_mem_alphabet (halphabet c hmem) hc
  -- Each step of the conversion takes out or replaces characters of its own, and the text has none of them.
  have hpadding : unpadded s = s := unpadded_of_forall fun c hc => by
    simp [isPadding, Hex.isBlank_of_mem_alphabet (halphabet c hc)]
  have hplain : s.map plain = s := by
    rw [List.map_congr_left fun c hc => plain_of_mem_alphabet (halphabet c hc), List.map_id']
  have hsign := splitSign_of_not_mem (hout '+' (by decide)) (hout '-' (by decide))
  obtain ⟨mark, hm, digits, rfl, hne, hd⟩ := hnumeral
  obtain ⟨ds, hds⟩ : ∃ ds, digits.mapM Hex.digit? = some ds := by
    rw [← Option.isSome_iff_exists, Traversal.isSome_mapM_iff]
    simpa only [Hex.digit?_isSome_iff] using hd
  have hgrouped : grouped Hex.digit? digits = some ds := by
    rw [grouped_eq_mapM hne fun hmem => hout '_' (by decide) (List.mem_append_right _ hmem), hds]
  have hvalue : n = Hex.value ds := Option.some.inj (h.symm.trans (Hex.readChars_append hm hne hds))
  rw [readHexadecimal, hpadding, hplain, hsign]
  dsimp only
  rw [unmarked_append hm hd, hgrouped, hvalue]
  simp [value, Hex.value]

/-! Numerals with a mark among other integers -/

theorem readTrimmed_of_mark {mark : List Char} (hm : mark ∈ marks.tail) (s : List Char) :
    readTrimmed (mark ++ s) = readHexadecimal (mark ++ s) := by
  simp only [marks, List.tail_cons, List.mem_cons, List.not_mem_nil, or_false] at hm
  rcases hm with rfl | rfl <;> rfl

theorem read_of_readChars {mark front behind : List Char} (hm : mark ∈ marks.tail)
    (hfront : ∀ c ∈ front, Text.isBlank c = true) (hbehind : ∀ c ∈ behind, Text.isBlank c = true)
    (h : Hex.readChars (mark ++ s) = some n) :
    read (String.ofList (front ++ ((mark ++ s) ++ behind))) = .ok (n : Int) := by
  have hnumeral := Hex.isNumeral_of_readChars h
  have htrimmed : Text.Trimmed (mark ++ s) := Text.trimmed_of_forall fun c hc =>
    Hex.isBlank_of_mem_alphabet (Hex.mem_alphabet_of_isNumeral hnumeral hc)
  rw [read, String.toList_ofList, Text.strip_append_of_forall hfront, Text.strip_append_right hbehind,
    Text.strip_of_trimmed htrimmed, readTrimmed_of_mark hm, readHexadecimal_of_readChars h]

end Integer

namespace Hex

variable {s t : List Char} {n m : Nat}

/-! Numerals as they are written, in any case -/

/-- The same text where case is ignored. -/
def Recased (s t : List Char) : Prop := List.Forall₂ (fun c d => Text.Case.fold c = Text.Case.fold d) s t

instance (s t : List Char) : Decidable (Recased s t) := inferInstanceAs (Decidable (List.Forall₂ _ s t))

/-- The number is written behind a mark or none. -/
def Presents (s : List Char) (n : Nat) : Prop := ∃ mark ∈ marks, Recased s (mark ++ (write n).toList)

/-- The number is written behind a mark, with white space around it. -/
def PresentsWithin (s : List Char) (n : Nat) : Prop :=
  ∃ front numeral behind, s = front ++ (numeral ++ behind) ∧ (∀ c ∈ front, Text.isBlank c = true) ∧
    (∀ c ∈ behind, Text.isBlank c = true) ∧ Recased numeral ("0x".toList ++ (write n).toList)

theorem fold_digit {d : Nat} (hd : d < 16) :
    Text.Case.fold (Nat.digitChar d).toUpper = Nat.digitChar d ∧
      CharSet.within Text.Case.numeralRanges (Nat.digitChar d).toNat = true := by
  have hall : ∀ d < 16, Text.Case.fold (Nat.digitChar d).toUpper = Nat.digitChar d ∧
      CharSet.within Text.Case.numeralRanges (Nat.digitChar d).toNat = true := by
    decide
  exact hall d hd

theorem sameDigit_of_fold {c : Char} {d : Nat} (hd : d < 16)
    (h : Text.Case.fold c = Text.Case.fold (Nat.digitChar d).toUpper) : SameDigit c (Nat.digitChar d) := by
  obtain ⟨hupper, hwithin⟩ := fold_digit hd
  rw [hupper] at h
  have hcases := Text.Case.eq_or_eq_toUpper_of_fold (c := c) (by rw [h, hwithin])
  rwa [h] at hcases

theorem sameDigits_of_recased {digits : List Nat} (hlt : ∀ d ∈ digits, d < 16)
    (h : Recased s ((digits.map Nat.digitChar).map Char.toUpper)) :
    List.Forall₂ SameDigit s (digits.map Nat.digitChar) := by
  induction digits generalizing s with
  | nil =>
    obtain rfl := List.forall₂_nil_right_iff.mp h
    exact .nil
  | cons d digits ih =>
    obtain ⟨hd, hdigits⟩ := List.forall_mem_cons.mp hlt
    obtain ⟨c, rest, hc, hrest, rfl⟩ := List.forall₂_cons_right_iff.mp h
    exact .cons (sameDigit_of_fold hd hc) (ih hdigits hrest)

theorem mem_marks_tail_of_recased {mark : List Char} (hm : mark ∈ marks.tail) (h : Recased s mark) :
    s ∈ marks.tail := by
  obtain ⟨x, hx, rfl⟩ : ∃ x, (x = 'x' ∨ x = 'X') ∧ mark = ['0', x] := by
    simp only [marks, List.tail_cons, List.mem_cons, List.not_mem_nil, or_false] at hm
    rcases hm with rfl | rfl
    · exact ⟨'x', .inl rfl, rfl⟩
    · exact ⟨'X', .inr rfl, rfl⟩
  obtain ⟨a, rest, ha, hrest, rfl⟩ := List.forall₂_cons_right_iff.mp h
  obtain ⟨b, rest, hb, hnil, rfl⟩ := List.forall₂_cons_right_iff.mp hrest
  obtain rfl := List.forall₂_nil_right_iff.mp hnil
  rw [(fold_eq_zero_iff '0').mpr rfl, fold_eq_zero_iff] at ha
  rw [(fold_eq_x_iff x).mpr hx, fold_eq_x_iff] at hb
  rcases hb with rfl | rfl <;> simp [marks, ha]

theorem exists_of_recased {mark : List Char} (h : Recased s (mark ++ (write n).toList)) :
    ∃ front digits, s = front ++ digits ∧ Recased front mark ∧
      List.Forall₂ SameDigit digits (Nat.toDigits 16 n) := by
  obtain ⟨digits, heq, hlt, -⟩ := exists_toDigits_eq_map n
  rw [toList_write, chars] at h
  refine ⟨_, _, (List.take_append_drop mark.length s).symm, List.forall₂_take_append _ _ _ h, ?_⟩
  have hdigits := List.forall₂_drop_append _ _ _ h
  rw [heq] at hdigits ⊢
  exact sameDigits_of_recased hlt hdigits

theorem readChars_of_sameDigits {mark digits : List Char} (hm : mark ∈ marks)
    (h : List.Forall₂ SameDigit digits (Nat.toDigits 16 n)) : readChars (mark ++ digits) = some n :=
  readChars_of_spells ⟨mark, hm, 0, digits, rfl, h⟩

theorem readChars_of_presents (h : Presents s n) : readChars s = some n := by
  obtain ⟨mark, hm, hrecased⟩ := h
  obtain ⟨front, digits, rfl, hfront, hdigits⟩ := exists_of_recased hrecased
  refine readChars_of_sameDigits ?_ hdigits
  rcases List.mem_cons.mp hm with rfl | hm
  · rw [List.forall₂_nil_right_iff.mp hfront]
    exact List.mem_cons_self
  · exact List.mem_of_mem_tail (mem_marks_tail_of_recased hm hfront)

theorem read_of_presentsWithin (h : PresentsWithin s n) : Integer.read (String.ofList s) = .ok (n : Int) := by
  obtain ⟨front, numeral, behind, rfl, hfront, hbehind, hrecased⟩ := h
  obtain ⟨mark, digits, rfl, hmark, hdigits⟩ := exists_of_recased hrecased
  have hm := mem_marks_tail_of_recased (by decide) hmark
  exact Integer.read_of_readChars hm hfront hbehind (readChars_of_sameDigits (List.mem_of_mem_tail hm) hdigits)

/-! How a numeral that was read is written -/

/-- The text without zeros in front that do not count. -/
def significant (s : List Char) : List Char :=
  match s.dropWhile (· == '0') with
  | [] => ['0']
  | rest => rest

theorem upper_of_sameDigits {digits : List Nat} (hlt : ∀ d ∈ digits, d < 16)
    (h : List.Forall₂ SameDigit s (digits.map Nat.digitChar)) :
    Text.upper s = (digits.map Nat.digitChar).map Char.toUpper := by
  have hall : ∀ d < 16, Text.Case.upperOf (Nat.digitChar d) = [(Nat.digitChar d).toUpper] ∧
      Text.Case.upperOf (Nat.digitChar d).toUpper = [(Nat.digitChar d).toUpper] := by
    decide
  induction digits generalizing s with
  | nil =>
    obtain rfl := List.forall₂_nil_right_iff.mp h
    rfl
  | cons d digits ih =>
    obtain ⟨hd, hdigits⟩ := List.forall_mem_cons.mp hlt
    obtain ⟨c, rest, hc, hrest, rfl⟩ := List.forall₂_cons_right_iff.mp h
    have hupper : Text.Case.upperOf c = [(Nat.digitChar d).toUpper] := by
      rcases hc with rfl | rfl
      · exact (hall d hd).1
      · exact (hall d hd).2
    rw [Text.upper_cons, hupper, ih hdigits hrest]
    rfl

theorem upper_replicate_append (zeros : Nat) (s : List Char) :
    Text.upper (List.replicate zeros '0' ++ s) = List.replicate zeros '0' ++ Text.upper s := by
  have hzero : Text.Case.upperOf '0' = ['0'] := by decide
  induction zeros with
  | zero => rfl
  | succ zeros ih =>
    rw [List.replicate_succ, List.cons_append, Text.upper_cons, hzero, ih]
    rfl

/-- Only zero begins with a zero. -/
theorem exists_chars_eq_cons (hn : 0 < n) : ∃ c rest, chars n = c :: rest ∧ c ≠ '0' := by
  have hdigit : ∀ d < 16, 0 < d → (Nat.digitChar d).toUpper ≠ '0' := by decide
  induction n using Nat.strongRecOn with
  | _ n ih =>
    rw [chars, Nat.toDigits_eq_if (by omega)]
    split
    · next hlt => exact ⟨_, [], rfl, hdigit n hlt hn⟩
    · next hge =>
      -- The digit in front is that of the number without its last digit.
      obtain ⟨c, rest, heq, hc⟩ := ih (n / 16) (Nat.div_lt_self hn (by omega)) (by omega)
      rw [chars] at heq
      rw [List.map_append, heq]
      exact ⟨c, _, rfl, hc⟩

theorem significant_replicate_append (zeros n : Nat) :
    significant (List.replicate zeros '0' ++ chars n) = chars n := by
  have hzeros : ∀ c ∈ List.replicate zeros '0', (c == '0') = true := fun c hc => by
    rw [List.eq_of_mem_replicate hc]
    rfl
  rw [significant, List.dropWhile_append_of_pos hzeros]
  rcases Nat.eq_zero_or_pos n with rfl | hn
  · rfl
  · obtain ⟨c, rest, heq, hc⟩ := exists_chars_eq_cons hn
    rw [heq, List.dropWhile_cons_of_neg (by simpa using hc)]

theorem chars_of_readChars (h : readChars t = some m) : chars m = significant (Text.upper (unmarked t)) := by
  obtain ⟨mark, hm, zeros, written, rfl, hwritten⟩ := readChars_eq_some_iff.mp h
  obtain ⟨digits, heq, hlt, -⟩ := exists_toDigits_eq_map m
  rw [heq] at hwritten
  have hd := forall_isDigit_of_mapM (mapM_digit?_replicate_append zeros (mapM_digit? hlt hwritten))
  rw [unmarked_append hm hd, upper_replicate_append, upper_of_sameDigits hlt hwritten, ← heq]
  exact (significant_replicate_append zeros m).symm

/-! Numerals are read as they are written -/

/-- A text of the right shape is converted, and any other is no numeral. -/
def convert (s : List Char) : Except Integer.Misspelling (Option Int) :=
  if accepts s then some <$> Integer.readHexadecimal s else .ok none

theorem convert_eq (s : List Char) : convert s = .ok ((readChars s).map Int.ofNat) := by
  rw [convert]
  split
  · next h =>
    obtain ⟨n, hn⟩ := exists_readChars ((accepts_iff s).mp h)
    rw [hn, Integer.readHexadecimal_of_readChars hn]
    rfl
  · next h =>
    rw [(readChars_eq_none_iff s).mpr (mt (accepts_iff s).mpr h)]
    rfl

theorem isNumeral_eq_accepts (t : String) : isNumeral t = accepts t.toList := by
  rw [Bool.eq_iff_iff, isNumeral, read, readChars_isSome_iff, accepts_iff]

theorem readChars_of_foreign {c : Char} (hc : c ∈ s) (h : Foreign c) : readChars s = none :=
  (readChars_eq_none_iff s).mpr fun hnumeral => not_foreign_of_mem_alphabet (mem_alphabet_of_isNumeral hnumeral hc) h

/-- A number is read from all that it may be written as. Of any text, either a number is read, and it is written as the
digits that count, in capitals, or the text is no mark and digits of ASCII. What has the right shape is always converted,
and to the number that is read. -/
theorem read_agrees_with_write :
    (∀ s n, Presents s n → read (String.ofList s) = some n) ∧
      (∀ s n, PresentsWithin s n → (Document.text (String.ofList s)).integer = .ok (n : Int)) ∧
      ∀ t : String,
        (read t = none ↔ ¬ IsNumeral t.toList) ∧
          (∀ n, read t = some n → (write n).toList = significant (Text.upper (unmarked t.toList))) ∧
          ((∃ c ∈ t.toList, Foreign c) → read t = none) ∧
          isNumeral t = accepts t.toList ∧ convert t.toList = .ok ((read t).map Int.ofNat) := by
  refine ⟨fun s n h => ?_, fun s n h => ?_, fun t => ⟨?_, fun n h => ?_, ?_, ?_, ?_⟩⟩
  · rw [read, String.toList_ofList, readChars_of_presents h]
  · rw [Document.integer, read_of_presentsWithin h]
    rfl
  · exact readChars_eq_none_iff t.toList
  · rw [toList_write]
    exact chars_of_readChars h
  · rintro ⟨c, hc, h⟩
    exact readChars_of_foreign hc h
  · exact isNumeral_eq_accepts t
  · exact convert_eq t.toList

/-- An address in the cartridge in several spellings, and two texts that are no numerals. -/
theorem read_agrees_with_write_mixed_case :
    Presents "0X8000aBc".toList 0x8000ABC ∧ read "0X8000aBc" = some 0x8000ABC ∧
      PresentsWithin "\t0x8000aBC\u3000".toList 0x8000ABC ∧
      (Document.text "\t0x8000aBC\u3000").integer = .ok 0x8000ABC ∧
      read "0x008000aBc" = some 0x8000ABC ∧
      (write 0x8000ABC).toList = significant (Text.upper "008000aBc".toList) ∧
      convert "0x008000aBc".toList = .ok (some 0x8000ABC) ∧
      ¬ IsNumeral "0x".toList ∧ read "0x" = none ∧ Foreign '_' ∧ read "8_0" = none := by
  obtain ⟨hpresents, hwithin, hread⟩ := read_agrees_with_write
  have hmixed : Presents "0X8000aBc".toList 0x8000ABC := ⟨['0', 'X'], by decide, by decide⟩
  have hpadded : PresentsWithin "\t0x8000aBC\u3000".toList 0x8000ABC :=
    ⟨['\t'], "0x8000aBC".toList, ['\u3000'], by decide, List.forall_mem_singleton.mpr (by decide),
      List.forall_mem_singleton.mpr (by decide), by decide⟩
  have hzeros : read "0x008000aBc" = some 0x8000ABC := by decide
  have hempty : ¬ IsNumeral "0x".toList := by decide
  have hline : Foreign '_' := by decide
  obtain ⟨hnone, -, -, -, -⟩ := hread "0x"
  obtain ⟨-, hdigits, -, -, hconvert⟩ := hread "0x008000aBc"
  obtain ⟨-, -, hforeign, -, -⟩ := hread "8_0"
  rw [hzeros] at hconvert
  refine ⟨hmixed, ?_, hpadded, ?_, hzeros, hdigits _ hzeros, hconvert, hempty, hnone.mpr hempty, hline,
    hforeign ⟨'_', by decide, hline⟩⟩
  · simpa using hpresents _ _ hmixed
  · simpa using hwithin _ _ hpadded

end Hex

end MemoryAtlas
