import MemoryAtlas.Proofs.Query.Joining
import Mathlib.Data.List.Induction
import Mathlib.Logic.Relation

/-!
The states that a scan goes through. In each of them the latest item is of the kind that the phase asks for, so every
character that belongs to an item finds one, and a literal that is still open at the end is the last item. It is given
up, and the items that are left are those of the text in front of it.
-/

namespace MemoryAtlas.Query

/-- The text ends with a backslash that is no second half of a pair: with an odd number of backslashes. -/
def Unpaired (text : List Char) : Prop := (text.reverse.takeWhile (· == '\\')).length % 2 = 1

instance (text : List Char) : Decidable (Unpaired text) := inferInstanceAs (Decidable (_ = _))

section

variable {text : List Char} {c : Char}

theorem not_unpaired_nil : ¬ Unpaired [] := by decide

theorem unpaired_append_singleton : Unpaired (text ++ [c]) ↔ c = '\\' ∧ ¬ Unpaired text := by
  unfold Unpaired
  rw [List.reverse_concat, List.takeWhile_cons]
  by_cases hc : c = '\\'
  · simp only [hc, beq_self_eq_true, if_true, List.length_cons, true_and]
    omega
  · simp [hc]

theorem unpaired_cons (hc : c ≠ '\\') : Unpaired (c :: text) ↔ Unpaired text := by
  induction text using List.reverseRecOn with
  | nil => simpa [not_unpaired_nil, hc] using @unpaired_append_singleton [] c
  | append_singleton text d ih => rw [← List.cons_append, unpaired_append_singleton, unpaired_append_singleton, ih]

theorem unpaired_pair : Unpaired ('\\' :: c :: text) ↔ Unpaired text := by
  induction text using List.reverseRecOn with
  | nil =>
    have hpair := @unpaired_append_singleton ['\\'] c
    have hone := @unpaired_append_singleton [] '\\'
    simp only [List.nil_append, List.cons_append, not_unpaired_nil] at hpair hone ⊢
    tauto
  | append_singleton text d ih =>
    rw [← List.cons_append, ← List.cons_append, unpaired_append_singleton, unpaired_append_singleton, ih]

/-- Only a slash behind an even number of backslashes closes an expression. -/
theorem Grammar.untilSlash_append_singleton (h : untilSlash text = none) (hc : c = '/' → Unpaired text) :
    untilSlash (text ++ [c]) = none := by
  fun_induction untilSlash text with
  | case1 =>
    have hslash : c ≠ '/' := fun he => not_unpaired_nil (hc he)
    simp [untilSlash]
  | case2 => cases h
  | case3 d text ih =>
    rw [Option.map_eq_none_iff] at h
    simp only [List.cons_append, untilSlash, ih h fun he => unpaired_pair.mp (hc he), Option.map_none]
  | case4 d text hslash hpair ih =>
    rw [Option.map_eq_none_iff] at h
    by_cases hback : d = '\\'
    · subst hback
      cases text with
      | nil => simp [untilSlash]
      | cons e text => exact absurd rfl (hpair e text rfl)
    · rw [List.cons_append, untilSlash.eq_4 _ _ hslash fun _ _ hd => absurd hd hback,
        ih h fun he => (unpaired_cons hback).mp (hc he)]
      rfl

end

namespace Scan

/-- A scan that has read on. -/
def Steps (s t : Scan) : Prop := s.step = some t

/-- A state that the scan of the text comes to. -/
def Reached (input : List Char) (s : Scan) : Prop := Relation.ReflTransGen Steps (start input) s

variable {input : List Char} {s t : Scan}

theorem Steps.exists_read (h : s.Steps t) : ∃ c rest, s.rest = c :: rest ∧ t = { s with rest }.read c := by
  unfold Steps step at h
  split at h
  · cases h
  · next c rest hr => exact ⟨c, rest, hr, (Option.some.inj h).symm⟩

theorem reached_advance_of (h : Reached input s) (n : Nat) : Reached input (s.advance n) := by
  induction n generalizing s with
  | zero => exact h
  | succ n ih =>
    rw [advance]
    cases hs : s.step with
    | none => exact h
    | some t => exact ih (h.tail hs)

theorem reached_advance (input : List Char) (n : Nat) : Reached input ((start input).advance n) :=
  reached_advance_of .refl n

/-- What is remembered in each phase. A literal goes back to the state at a boundary in which its mark came next, and
nothing that it has taken since closes it. -/
inductive Stands (input : List Char) : Scan → Prop
  | boundary {rest : List Char} {exclude : Bool} {items : List Item} :
      Stands input ⟨rest, .boundary, exclude, false, items⟩
  | word {rest : List Char} {item : Item} {items : List Item}
      (h : item.kind = .term ∨ ∃ op, item.kind = .address op) :
      Stands input ⟨rest, .word, false, false, item :: items⟩
  | quote {rest text : List Char} {exclude : Bool} {items : List Item}
      (hopened : Reached input ⟨'"' :: (text ++ rest), .boundary, exclude, false, items⟩) (hopen : '"' ∉ text) :
      Stands input ⟨rest, .quote, false, false, ⟨.quote, exclude, text⟩ :: items⟩
  | regex {rest text : List Char} {exclude escaped : Bool} {items : List Item}
      (hopened : Reached input ⟨'/' :: (text ++ rest), .boundary, exclude, false, items⟩)
      (hopen : Grammar.untilSlash text = none) (hescaped : escaped = true ↔ Unpaired text) :
      Stands input ⟨rest, .regex, false, escaped, ⟨.regex, exclude, text⟩ :: items⟩

section

variable {rest text : List Char} {exclude escaped : Bool} {item : Item} {items : List Item} {c : Char}

theorem stands_begin (h : Reached input ⟨c :: rest, .boundary, exclude, false, items⟩) :
    Stands input (begin ⟨rest, .boundary, exclude, false, items⟩ c) := by
  by_cases hs : c = ' '
  · subst hs
    exact .boundary
  · cases ho : operator? (c :: rest) with
    | some found =>
      rw [begin_operator _ _ _ _ _ hs ho]
      exact .word (.inr ⟨found.1, rfl⟩)
    | none =>
      by_cases hq : c = '"'
      · subst hq
        rw [begin_quote]
        exact .quote h List.not_mem_nil
      · by_cases hr : c = '/'
        · subst hr
          rw [begin_slash]
          exact .regex h rfl (by simp [not_unpaired_nil])
        · by_cases hd : c = '-' ∧ exclude = false
          · obtain ⟨rfl, rfl⟩ := hd
            have hread : begin ⟨rest, .boundary, false, false, items⟩ '-' = ⟨rest, .boundary, true, false, items⟩ :=
              read_dash rest false items
            rw [hread]
            exact .boundary
          · rw [begin_term _ _ _ _ _ hs hq hr (by simpa using hd) ho]
            exact .word (.inl rfl)

theorem stands_word (h : item.kind = .term ∨ ∃ op, item.kind = .address op) (c : Char) :
    Stands input (read ⟨rest, .word, false, false, item :: items⟩ c) := by
  by_cases hc : c = ' '
  · simp only [read, hc, if_true]
    exact .boundary
  · simp only [read, append, hc, if_false]
    exact .word h

theorem stands_quote (hopened : Reached input ⟨'"' :: (text ++ c :: rest), .boundary, exclude, false, items⟩)
    (hopen : '"' ∉ text) : Stands input (read ⟨rest, .quote, false, false, ⟨.quote, exclude, text⟩ :: items⟩ c) := by
  by_cases hc : c = '"'
  · simp only [read, hc, if_true]
    exact .boundary
  · simp only [read, append, hc, if_false]
    refine .quote (by simpa using hopened) ?_
    simp [hopen, Ne.symm hc]

/-- A slash closes the expression where no backslash is open, and is taken otherwise. -/
theorem stands_regex (hopened : Reached input ⟨'/' :: (text ++ c :: rest), .boundary, exclude, false, items⟩)
    (hopen : Grammar.untilSlash text = none) (hescaped : escaped = true ↔ Unpaired text) :
    Stands input (read ⟨rest, .regex, false, escaped, ⟨.regex, exclude, text⟩ :: items⟩ c) := by
  by_cases hc : c = '/' ∧ escaped = false
  · obtain ⟨rfl, rfl⟩ := hc
    exact .boundary
  · have hslash : c = '/' → Unpaired text := fun he => hescaped.mp (by simpa [he] using hc)
    simp only [read, inRegex, append, hc, if_false]
    refine .regex (by simpa using hopened) (Grammar.untilSlash_append_singleton hopen hslash) ?_
    rw [unpaired_append_singleton, ← hescaped]
    simp [and_comm]

end

theorem stands_step (h : Reached input s) (hs : Stands input s) (hstep : s.Steps t) : Stands input t := by
  obtain ⟨c, rest, hr, rfl⟩ := hstep.exists_read
  cases hs with
  | boundary =>
    subst hr
    exact stands_begin h
  | word hkind => exact stands_word hkind c
  | quote hopened hopen =>
    subst hr
    exact stands_quote hopened hopen
  | regex hopened hopen hescaped =>
    subst hr
    exact stands_regex hopened hopen hescaped

theorem stands_of_reached (h : Reached input s) : Stands input s := by
  induction h with
  | refl => exact .boundary
  | tail h hstep ih => exact stands_step h ih hstep

/-! The text that has been read, and the text to come -/

theorem suffix_of_operator? {c : Char} {rest left : List Char} {op : AddressOp}
    (h : operator? (c :: rest) = some (op, left)) : left <:+ rest := by
  cases rest with
  | nil => cases h
  | cons d rest =>
    have hleft : left = rest ∨ left = d :: rest := by
      rw [operator?_cons_cons] at h
      by_cases hd : d = '=' <;> by_cases h₁ : c = '=' <;> by_cases h₂ : c = '>' <;>
        by_cases h₃ : c = '<' <;> by_cases h₄ : c = '~' <;> simp_all
    rcases hleft with rfl | rfl
    · exact List.suffix_cons d left
    · exact List.suffix_rfl

theorem rest_begin_suffix (s : Scan) (c : Char) : (s.begin c).rest <:+ s.rest := by
  unfold begin
  split
  · exact List.suffix_rfl
  · split
    · next op rest h => exact suffix_of_operator? h
    · split
      · exact List.suffix_rfl
      · split
        · exact List.suffix_rfl
        · split <;> exact List.suffix_rfl

theorem rest_read_suffix (s : Scan) (c : Char) : (s.read c).rest <:+ s.rest := by
  unfold read
  cases s.phase with
  | boundary => exact rest_begin_suffix s c
  | quote =>
    dsimp only
    split
    · exact List.suffix_rfl
    · simp only [rest_append, List.suffix_rfl]
  | regex =>
    simp only [inRegex]
    split
    · exact List.suffix_rfl
    · simp only [rest_append, List.suffix_rfl]
  | word =>
    dsimp only
    split
    · exact List.suffix_rfl
    · simp only [rest_append, List.suffix_rfl]

theorem Steps.suffix (h : s.Steps t) : t.rest <:+ s.rest.tail := by
  obtain ⟨c, rest, hr, rfl⟩ := h.exists_read
  rw [hr]
  exact rest_read_suffix { s with rest } c

theorem Reached.suffix (h : Reached input s) : s.rest <:+ input := by
  induction h with
  | refl => exact List.suffix_rfl
  | tail _ hstep ih => exact (hstep.suffix.trans (List.tail_suffix _)).trans ih

theorem eq_or_length_lt (h : Relation.ReflTransGen Steps s t) : s = t ∨ t.rest.length < s.rest.length := by
  induction h with
  | refl => exact .inl rfl
  | tail _ hstep ih =>
    have hlt := length_rest_step_lt hstep
    rcases ih with rfl | ih
    · exact .inr hlt
    · exact .inr (hlt.trans ih)

theorem phase_begin_of_mem_operatorMarks {c : Char} (hc : c ∈ operatorMarks) (s : Scan) :
    (s.begin c).phase = .word := by
  have hne : c ≠ ' ' ∧ c ≠ '"' ∧ c ≠ '/' ∧ c ≠ '-' := by
    rcases mem_operatorMarks.mp hc with rfl | rfl | rfl | rfl <;> decide
  unfold begin
  rw [if_neg hne.1]
  split
  · rfl
  · rw [if_neg fun h => hne.2.2.2 h.1, if_neg hne.2.1, if_neg hne.2.2.1]
    rfl

/-- A scan that has come to a boundary has the items of what it has read: no operator has looked ahead, or a word would
have begun. -/
theorem result_of_boundary (h : Relation.ReflTransGen Steps s t) (ht : t.phase = .boundary) {front : List Char}
    (hfront : s.rest = front ++ t.rest) : result { s with rest := front } = t.items.reverse := by
  induction h using Relation.ReflTransGen.head_induction_on generalizing front with
  | refl =>
    have hnil : front = [] := by simpa using hfront
    subst hnil
    rw [result_of_rest_nil rfl]
    simp [closed, ht]
  | @head s next hstep hrun ih =>
    obtain ⟨c, rest, hr, rfl⟩ := hstep.exists_read
    have hlength := length_rest_read_le { s with rest } c
    have hrest : t.rest.length ≤ rest.length := by
      rcases eq_or_length_lt hrun with h | h
      · exact h ▸ hlength
      · exact (h.trans_le hlength).le
    have hmark : s.phase = .boundary → rest.length ≤ t.rest.length → c ∉ operatorMarks := by
      intro hp hle hc
      have hword : (read { s with rest } c).phase = .word := by
        simp only [read, hp]
        exact phase_begin_of_mem_operatorMarks hc _
      rcases eq_or_length_lt hrun with h | h
      · rw [h, ht] at hword
        cases hword
      · exact absurd (h.trans_le hlength) hle.not_gt
    cases front with
    | nil =>
      have hlong := congrArg List.length (hr.symm.trans hfront)
      simp only [List.length_cons, List.nil_append] at hlong
      omega
    | cons d front =>
      obtain ⟨rfl, hcut⟩ : c = d ∧ rest = front ++ t.rest := List.cons.inj (hr.symm.trans hfront)
      subst hcut
      have hguard : s.phase = .boundary → front = [] → c ∉ operatorMarks := fun hp hnil => hmark hp (by simp [hnil])
      have hread : read { s with rest := front ++ t.rest } c = (read { s with rest := front } c).extend t.rest :=
        read_extend (s := { s with rest := front }) hguard t.rest
      have hnext := ih (congrArg Scan.rest hread)
      rw [hread] at hnext
      exact (result_of_step rfl).trans hnext

/-- What has been read up to a boundary has the items that are there. -/
theorem scan_of_boundary {front : List Char} (h : Reached (front ++ s.rest) s) (hs : s.phase = .boundary) :
    scan front = s.items.reverse := result_of_boundary h hs rfl

/-! All of it together -/

/-- The phase adds characters to items of the kind. -/
inductive Takes : Phase → ItemKind → Prop
  | quote : Takes .quote .quote
  | regex : Takes .regex .regex
  | term : Takes .word .term
  | address {op : AddressOp} : Takes .word (.address op)

/-- The mark of a literal and the text behind it, which does not close it. -/
inductive Unclosed : ItemKind → Char → List Char → Prop
  | quote {text : List Char} (h : '"' ∉ text) : Unclosed .quote '"' text
  | regex {text : List Char} (h : Grammar.untilSlash text = none) : Unclosed .regex '/' text

/-- What is true of the scan after any number of steps. Each step takes at least the next character. -/
structure Standing (input : List Char) (s : Scan) : Prop where
  suffix : s.rest <:+ input
  stops : s.step = none ↔ s.rest = []
  advances : ∀ t, s.step = some t → t.rest <:+ s.rest.tail ∧ t.rest.length < s.rest.length
  latest : s.phase ≠ .boundary → s.exclude = false ∧ ∃ item others, s.items = item :: others ∧ Takes s.phase item.kind ∧
    ∀ c, (s.append c).items = { item with text := item.text ++ [c] } :: others
  escaped : s.escaped = true ↔ s.phase = .regex ∧ ∃ item others, s.items = item :: others ∧ Unpaired item.text
  unclosed : s.phase = .quote ∨ s.phase = .regex → ∃ front mark item others, s.items = item :: others ∧
    Unclosed item.kind mark item.text ∧ input = front ++ mark :: (item.text ++ s.rest) ∧
    s.closed = others.reverse ∧ scan front = others.reverse

theorem step_eq_none_iff (s : Scan) : s.step = none ↔ s.rest = [] := by
  unfold step
  split
  · next h => simp [h]
  · next h => simp [h]

theorem Stands.latest (h : Stands input s) (hp : s.phase ≠ .boundary) :
    s.exclude = false ∧ ∃ item others, s.items = item :: others ∧ Takes s.phase item.kind ∧
      ∀ c, (s.append c).items = { item with text := item.text ++ [c] } :: others := by
  cases h with
  | boundary => exact absurd rfl hp
  | @word rest item items hkind =>
    refine ⟨rfl, item, items, rfl, ?_, fun c => rfl⟩
    obtain ⟨kind, exclude, text⟩ := item
    rcases hkind with hkind | ⟨op, hkind⟩
    · cases hkind
      exact .term
    · cases hkind
      exact .address
  | quote => exact ⟨rfl, _, _, rfl, .quote, fun c => rfl⟩
  | regex => exact ⟨rfl, _, _, rfl, .regex, fun c => rfl⟩

theorem Stands.escaped_iff (h : Stands input s) :
    s.escaped = true ↔ s.phase = .regex ∧ ∃ item others, s.items = item :: others ∧ Unpaired item.text := by
  cases h with
  | boundary => simp
  | word => simp
  | quote => simp
  | regex hopened hopen hescaped => simp [hescaped]

/-- The literal that the scan is in began where the scan was at a boundary. -/
theorem Stands.unclosed (h : Stands input s) (hp : s.phase = .quote ∨ s.phase = .regex) :
    ∃ front mark item others, s.items = item :: others ∧ Unclosed item.kind mark item.text ∧
      input = front ++ mark :: (item.text ++ s.rest) ∧ s.closed = others.reverse ∧ scan front = others.reverse := by
  have hfront : ∀ {mark : Char} {rest : List Char} {exclude : Bool} {items : List Item},
      Reached input ⟨mark :: rest, .boundary, exclude, false, items⟩ →
        ∃ front, input = front ++ mark :: rest ∧ scan front = items.reverse := by
    intro mark rest exclude items hopened
    obtain ⟨front, rfl⟩ := hopened.suffix
    exact ⟨front, rfl, scan_of_boundary hopened rfl⟩
  cases h with
  | boundary => simp at hp
  | word => simp at hp
  | quote hopened hopen =>
    obtain ⟨front, hinput, hscan⟩ := hfront hopened
    exact ⟨front, '"', _, _, rfl, .quote hopen, hinput, rfl, hscan⟩
  | regex hopened hopen hescaped =>
    obtain ⟨front, hinput, hscan⟩ := hfront hopened
    exact ⟨front, '/', _, _, rfl, .regex hopen, hinput, rfl, hscan⟩

/-- After any number of steps the latest item is one that the phase adds characters to, and the exclusion mark has been
used; a backslash is open exactly at the end of an expression that ends with an odd number of them. A literal that is
not closed is the latest item and is the only one that is given up: what is left is the scan of the text in front of
it. -/
theorem standing_advance (input : List Char) (n : Nat) : Standing input ((start input).advance n) := by
  have hreached := reached_advance input n
  have hstands := stands_of_reached hreached
  exact {
    suffix := hreached.suffix
    stops := step_eq_none_iff _
    advances := fun t ht => ⟨Steps.suffix ht, length_rest_step_lt ht⟩
    latest := hstands.latest
    escaped := hstands.escaped_iff
    unclosed := hstands.unclosed }

/-- The third backslash is open, so the slash behind it closes nothing. -/
example : (((start "a -/x\\\\\\/".toList).advance 8).escaped, scan "a -/x\\\\\\/".toList, scan "a -".toList) =
    (true, [⟨.term, false, ['a']⟩], [⟨.term, false, ['a']⟩]) := by
  decide +kernel

end Scan

end MemoryAtlas.Query
