import MemoryAtlas.Query.Grammar

/-!
What the scanner makes of a text as a whole, phase by phase: a word runs to the next space, a quote to
its closing mark, an expression to the slash that closes it.
-/

namespace MemoryAtlas.Query

/-- The operators as they are told by their first two characters. -/
theorem operator?_cons_cons (c d : Char) (rest : List Char) :
    operator? (c :: d :: rest) =
      if c = '=' then some (.compare .eq, if d = '=' then rest else d :: rest)
      else if c = '>' then some (if d = '=' then (.compare .ge, rest) else (.compare .gt, d :: rest))
      else if c = '<' then some (if d = '=' then (.compare .le, rest) else (.compare .lt, d :: rest))
      else if c = '~' then some (.near, d :: rest)
      else none := by
  by_cases hd : d = '=' <;> by_cases h₁ : c = '=' <;> by_cases h₂ : c = '>' <;>
    by_cases h₃ : c = '<' <;> by_cases h₄ : c = '~' <;> simp_all [operator?]

theorem Grammar.leading?_eq_operator? (s : List Char) : leading? s = operator? s := by
  match s with
  | [] => rfl
  | [c] => simp [leading?, operator?]
  | c :: d :: rest =>
    rw [operator?_cons_cons]
    by_cases hd : d = '=' <;> by_cases h₁ : c = '=' <;> by_cases h₂ : c = '>' <;>
      by_cases h₃ : c = '<' <;> by_cases h₄ : c = '~' <;>
      simp_all [leading?, spellings, eq_comm (b := c), eq_comm (b := d)]

namespace Scan

theorem rest_append (s : Scan) (c : Char) : (s.append c).rest = s.rest := by
  unfold append
  split <;> rfl

theorem length_rest_begin_le (s : Scan) (c : Char) : (s.begin c).rest.length ≤ s.rest.length := by
  unfold begin
  split
  · exact Nat.le_refl _
  · split
    · next op rest h =>
      rw [← Grammar.leading?_eq_operator?] at h
      exact Grammar.length_leading_le h
    · split
      · exact Nat.le_refl _
      · split
        · exact Nat.le_refl _
        · split <;> exact Nat.le_refl _

theorem length_rest_read_le (s : Scan) (c : Char) : (s.read c).rest.length ≤ s.rest.length := by
  unfold read
  cases s.phase with
  | boundary => exact length_rest_begin_le s c
  | quote =>
    dsimp only
    split
    · exact Nat.le_refl _
    · exact Nat.le_of_eq (congrArg List.length (rest_append s c))
  | regex =>
    simp only [inRegex]
    split
    · exact Nat.le_refl _
    · exact Nat.le_of_eq (congrArg List.length (rest_append _ c))
  | word =>
    dsimp only
    split
    · exact Nat.le_refl _
    · exact Nat.le_of_eq (congrArg List.length (rest_append s c))

theorem length_rest_step_lt {s t : Scan} (h : s.step = some t) : t.rest.length < s.rest.length := by
  unfold step at h
  split at h
  · cases h
  · next c rest hr =>
    cases h
    have hle := length_rest_read_le { s with rest } c
    rw [hr, List.length_cons]
    exact Nat.lt_succ_of_le hle

/-- Steps beyond the last character change nothing. -/
theorem advance_eq_advance {m n : Nat} {s : Scan} (hm : s.rest.length ≤ m) (hn : s.rest.length ≤ n) :
    s.advance m = s.advance n := by
  induction m generalizing n s with
  | zero =>
    have hr : s.rest = [] := List.eq_nil_of_length_eq_zero (Nat.le_zero.mp hm)
    cases n <;> simp [advance, step, hr]
  | succ m ih =>
    cases n with
    | zero =>
      have hr : s.rest = [] := List.eq_nil_of_length_eq_zero (Nat.le_zero.mp hn)
      simp [advance, step, hr]
    | succ n =>
      simp only [advance]
      cases hs : s.step with
      | none => rfl
      | some t =>
        have hlt := length_rest_step_lt hs
        exact ih (by omega) (by omega)

/-- The scan when all of its text has been read. -/
def ending (s : Scan) : Scan := s.advance s.rest.length

theorem ending_of_step {s t : Scan} (h : s.step = some t) : s.ending = t.ending := by
  have hlt := length_rest_step_lt h
  have hs : s.ending = t.advance (s.rest.length - 1) := by
    obtain ⟨n, hn⟩ : ∃ n, s.rest.length = n + 1 := ⟨s.rest.length - 1, by omega⟩
    rw [ending, hn]
    simp [advance, h]
  rw [hs, ending]
  exact advance_eq_advance (by omega) (Nat.le_refl _)

/-- The items when all of the text has been read. -/
def result (s : Scan) : List Item := (s.advance s.rest.length).closed

theorem result_of_rest_nil {s : Scan} (h : s.rest = []) : s.result = s.closed := by
  simp [result, h, advance]

theorem result_of_step {s t : Scan} (h : s.step = some t) : s.result = t.result :=
  congrArg closed (ending_of_step h)

variable (rest : List Char) (phase : Phase) (exclude escaped : Bool) (item : Item) (items : List Item)

theorem result_nil :
    result ⟨[], phase, exclude, escaped, items⟩ = closed ⟨[], phase, exclude, escaped, items⟩ :=
  result_of_rest_nil rfl

theorem result_cons (c : Char) :
    result ⟨c :: rest, phase, exclude, escaped, items⟩ =
      result (read ⟨rest, phase, exclude, escaped, items⟩ c) :=
  result_of_step rfl

theorem result_word :
    result ⟨rest, .word, false, escaped, item :: items⟩ =
      result ⟨rest.dropWhile (· != ' '), .boundary, false, escaped,
        { item with text := item.text ++ rest.takeWhile (· != ' ') } :: items⟩ := by
  induction rest generalizing item with
  | nil => simp [result_nil, closed]
  | cons c rest ih =>
    by_cases hc : c = ' '
    · simp [result_cons, read, begin, hc]
    · simp [result_cons, read, append, hc, ih]

/-- A quote without a closing mark is given up. -/
theorem result_quote :
    result ⟨rest, .quote, false, escaped, item :: items⟩ =
      match Grammar.untilMark '"' rest with
      | some (text, left) =>
        result ⟨left, .boundary, false, escaped, { item with text := item.text ++ text } :: items⟩
      | none => items.reverse := by
  induction rest generalizing item with
  | nil => simp [result_nil, closed, Grammar.untilMark]
  | cons c rest ih =>
    by_cases hc : c = '"'
    · simp [result_cons, read, hc, Grammar.untilMark]
    · have hd : (c :: rest).dropWhile (· != '"') = rest.dropWhile (· != '"') := by simp [hc]
      have ht : (c :: rest).takeWhile (· != '"') = c :: rest.takeWhile (· != '"') := by simp [hc]
      simp only [result_cons, read, append, hc, if_false, ih, Grammar.untilMark, hd, ht]
      cases rest.dropWhile (· != '"') with
      | nil => rfl
      | cons d left => simp

theorem read_slash :
    read ⟨rest, .regex, exclude, false, items⟩ '/' = ⟨rest, .boundary, exclude, false, items⟩ := rfl

theorem read_backslash :
    read ⟨rest, .regex, exclude, false, item :: items⟩ '\\' =
      ⟨rest, .regex, exclude, true, { item with text := item.text ++ ['\\'] } :: items⟩ := rfl

theorem read_escaped (c : Char) :
    read ⟨rest, .regex, exclude, true, item :: items⟩ c =
      ⟨rest, .regex, exclude, false, { item with text := item.text ++ [c] } :: items⟩ := by
  simp [read, inRegex, append]

theorem read_plain {c : Char} (hs : c ≠ '/') (hb : c ≠ '\\') :
    read ⟨rest, .regex, exclude, false, item :: items⟩ c =
      ⟨rest, .regex, exclude, false, { item with text := item.text ++ [c] } :: items⟩ := by
  simp [read, inRegex, append, hs, hb]

/-- Behind a backslash one character is taken as it is, so the two are read together. -/
theorem result_regex :
    result ⟨rest, .regex, false, false, item :: items⟩ =
      match Grammar.untilSlash rest with
      | some (text, left) =>
        result ⟨left, .boundary, false, false, { item with text := item.text ++ text } :: items⟩
      | none => items.reverse := by
  fun_induction Grammar.untilSlash rest generalizing item with
  | case1 => simp [result_nil, closed]
  | case2 rest => simp [result_cons, read_slash]
  | case3 c rest ih =>
    rw [result_cons, read_backslash, result_cons, read_escaped, ih]
    cases Grammar.untilSlash rest with
    | none => rfl
    | some found => simp
  | case4 c rest hslash hpair ih =>
    by_cases hb : c = '\\'
    · subst hb
      cases rest with
      | nil => simp [result_cons, result_nil, read_backslash, closed, Grammar.untilSlash]
      | cons d rest => exact absurd rfl (hpair d rest rfl)
    · rw [result_cons, read_plain _ _ _ _ hslash hb, ih]
      cases Grammar.untilSlash rest with
      | none => rfl
      | some found => simp

/-- In front of anything but a space, one dash marks the item to come. -/
theorem read_dash :
    read ⟨rest, .boundary, false, escaped, items⟩ '-' = ⟨rest, .boundary, true, escaped, items⟩ := by
  cases rest <;> simp [read, begin, operator?]

theorem begin_quote :
    begin ⟨rest, phase, exclude, escaped, items⟩ '"' =
      ⟨rest, .quote, false, escaped, ⟨.quote, exclude, []⟩ :: items⟩ := by
  cases rest <;> simp [begin, push, operator?]

theorem begin_slash :
    begin ⟨rest, phase, exclude, escaped, items⟩ '/' =
      ⟨rest, .regex, false, false, ⟨.regex, exclude, []⟩ :: items⟩ := by
  cases rest <;> simp [begin, push, operator?]

theorem begin_operator {c : Char} {op : AddressOp} {left : List Char} (hs : c ≠ ' ')
    (ho : operator? (c :: rest) = some (op, left)) :
    begin ⟨rest, phase, exclude, escaped, items⟩ c =
      ⟨left, .word, false, escaped, ⟨.address op, exclude, []⟩ :: items⟩ := by
  simp [begin, push, hs, ho]

theorem begin_term {c : Char} (hs : c ≠ ' ') (hq : c ≠ '"') (hr : c ≠ '/')
    (hd : c = '-' → exclude = true) (ho : operator? (c :: rest) = none) :
    begin ⟨rest, phase, exclude, escaped, items⟩ c =
      ⟨rest, .word, false, escaped, ⟨.term, exclude, [c]⟩ :: items⟩ := by
  have hm : ¬ (c = '-' ∧ exclude = false) := by
    rintro ⟨hc, he⟩
    rw [hd hc] at he
    cases he
  simp [begin, push, hs, hq, hr, hm, ho]

/-- An item read at its first character, behind its exclusion mark if there is one. -/
theorem result_item {c : Char} (hs : c ≠ ' ') (hd : c = '-' → exclude = true) :
    result ⟨c :: rest, .boundary, exclude, escaped, items⟩ =
      match Grammar.body c rest with
      | some (kind, text, left) =>
        result ⟨left, .boundary, false, escaped && decide (kind ≠ .regex), ⟨kind, exclude, text⟩ :: items⟩
      | none => items.reverse := by
  rw [result_cons, show ∀ s c, read ⟨s, .boundary, exclude, escaped, items⟩ c =
    begin ⟨s, .boundary, exclude, escaped, items⟩ c from fun _ _ => rfl, Grammar.body]
  by_cases hq : c = '"'
  · subst hq
    rw [begin_quote, result_quote]
    cases Grammar.untilMark '"' rest <;> simp
  · by_cases hr : c = '/'
    · subst hr
      rw [begin_slash, result_regex]
      cases Grammar.untilSlash rest <;> simp
    · rw [if_neg hq, if_neg hr, Grammar.leading?_eq_operator?]
      cases ho : operator? (c :: rest) with
      | none =>
        rw [begin_term _ _ _ _ _ hs hq hr hd ho, result_word]
        simp [Grammar.untilSpace]
      | some found =>
        rw [begin_operator _ _ _ _ _ hs ho, result_word]
        simp [Grammar.untilSpace]

end Scan

end MemoryAtlas.Query
