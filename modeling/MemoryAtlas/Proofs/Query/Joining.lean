import MemoryAtlas.Proofs.Query.Reading
import MemoryAtlas.Proofs.Search.Narrowing

/-!
Queries put together with a space between them. The scanner looks one character ahead only behind an
operator, so a space keeps two queries apart unless the first one ends in an operator or inside a quote or
an expression (`scan_append_space`). Their clauses then follow each other, and so do the searches.
-/

namespace MemoryAtlas

namespace Query

/-- The characters that an operator begins with. -/
def operatorMarks : List Char := ['=', '<', '>', '~']

/-- A term that is no more than the first character of an operator. -/
def Item.IsLoneOperator (item : Item) : Prop := item.kind = .term ∧ ∃ c ∈ operatorMarks, item.text = [c]

instance (item : Item) : Decidable item.IsLoneOperator :=
  decidable_of_iff (item.kind = .term ∧ item.text ∈ operatorMarks.map fun c => [c])
    (by simp [Item.IsLoneOperator, eq_comm])

theorem mem_operatorMarks {c : Char} : c ∈ operatorMarks ↔ c = '=' ∨ c = '<' ∨ c = '>' ∨ c = '~' := by
  simp [operatorMarks]

theorem operator?_eq_none {c : Char} (h : c ∉ operatorMarks) (rest : List Char) :
    operator? (c :: rest) = none := by
  simp only [mem_operatorMarks, not_or] at h
  cases rest with
  | nil => simp [operator?]
  | cons d rest => simp [operator?_cons_cons, h]

/-- Text behind the character that comes next does not change an operator. -/
theorem operator?_append (c d : Char) (rest tail : List Char) :
    operator? (c :: d :: rest ++ tail) =
      (operator? (c :: d :: rest)).map fun found => (found.1, found.2 ++ tail) := by
  simp only [List.cons_append, operator?_cons_cons]
  by_cases hd : d = '=' <;> by_cases h₁ : c = '=' <;> by_cases h₂ : c = '>' <;>
    by_cases h₃ : c = '<' <;> by_cases h₄ : c = '~' <;> simp_all

namespace Scan

/-- The scan with more text to come. -/
def extend (s : Scan) (tail : List Char) : Scan := { s with rest := s.rest ++ tail }

theorem append_extend (s : Scan) (c : Char) (tail : List Char) :
    (s.extend tail).append c = (s.append c).extend tail := by
  obtain ⟨rest, phase, exclude, escaped, items⟩ := s
  cases items <;> rfl

theorem begin_extend {s : Scan} {c : Char} (h : s.rest = [] → c ∉ operatorMarks) (tail : List Char) :
    (s.extend tail).begin c = (s.begin c).extend tail := by
  obtain ⟨rest, phase, exclude, escaped, items⟩ := s
  have ho : operator? (c :: (rest ++ tail)) =
      (operator? (c :: rest)).map fun found => (found.1, found.2 ++ tail) := by
    cases rest with
    | nil =>
      rw [operator?_eq_none (h rfl), operator?_eq_none (h rfl)]
      rfl
    | cons d rest => exact operator?_append c d rest tail
  change begin ⟨rest ++ tail, phase, exclude, escaped, items⟩ c = _
  by_cases hs : c = ' '
  · simp [begin, extend, hs]
  · cases hop : operator? (c :: rest) with
    | some found =>
      rw [hop, Option.map_some] at ho
      rw [begin_operator _ _ _ _ _ hs hop, begin_operator _ _ _ _ _ hs ho]
      rfl
    | none =>
      rw [hop, Option.map_none] at ho
      by_cases hq : c = '"'
      · subst hq
        rw [begin_quote, begin_quote]
        rfl
      · by_cases hr : c = '/'
        · subst hr
          rw [begin_slash, begin_slash]
          rfl
        · by_cases hd : c = '-' ∧ exclude = false
          · obtain ⟨rfl, rfl⟩ := hd
            simp [begin, extend, hop, ho]
          · have hmark : c = '-' → exclude = true := by simpa using hd
            rw [begin_term _ _ _ _ _ hs hq hr hmark hop, begin_term _ _ _ _ _ hs hq hr hmark ho]
            rfl

theorem inRegex_extend (s : Scan) (c : Char) (tail : List Char) :
    (s.extend tail).inRegex c = (s.inRegex c).extend tail := by
  by_cases h : c = '/' ∧ s.escaped = false
  · simp [inRegex, extend, h]
  · have hc := append_extend { s with escaped := !s.escaped && c == '\\' } c tail
    simpa [inRegex, extend, h] using hc

/-- A character is read alike whatever text is still to come, unless it is the last of the text so far and
an operator may begin with it. -/
theorem read_extend {s : Scan} {c : Char} (h : s.phase = .boundary → s.rest = [] → c ∉ operatorMarks)
    (tail : List Char) : (s.extend tail).read c = (s.read c).extend tail := by
  have hphase : (s.extend tail).phase = s.phase := rfl
  unfold read
  rw [hphase]
  cases hp : s.phase with
  | boundary => exact begin_extend (h hp) tail
  | quote =>
    dsimp only
    split
    · rfl
    · exact append_extend s c tail
  | regex => exact inRegex_extend s c tail
  | word =>
    dsimp only
    split
    · rfl
    · exact append_extend s c tail

/-- The exclusion mark has gone into the item that it is for. -/
def MarkUsed (s : Scan) : Prop := s.phase ≠ .boundary → s.exclude = false

theorem markUsed_append {s : Scan} (h : s.MarkUsed) (c : Char) : (s.append c).MarkUsed := by
  unfold append
  split <;> exact h

theorem markUsed_begin {s : Scan} (hp : s.phase = .boundary) (c : Char) : (s.begin c).MarkUsed := by
  unfold begin
  split
  · exact fun _ => rfl
  · split
    · exact fun _ => rfl
    · split
      · exact fun hne => absurd hp hne
      · split
        · exact fun _ => rfl
        · split <;> exact fun _ => rfl

theorem markUsed_read {s : Scan} (h : s.MarkUsed) (c : Char) : (s.read c).MarkUsed := by
  unfold read
  cases hp : s.phase with
  | boundary => exact markUsed_begin hp c
  | quote =>
    dsimp only
    split
    · exact fun hne => absurd rfl hne
    · exact markUsed_append h c
  | regex =>
    simp only [inRegex]
    split
    · exact fun hne => absurd rfl hne
    · have hs : MarkUsed { s with escaped := !s.escaped && c == '\\' } := h
      exact markUsed_append hs c
  | word =>
    dsimp only
    split
    · exact fun hne => absurd rfl hne
    · exact markUsed_append h c

/-- The last character of a text is a lone operator where an operator may begin with it. -/
theorem isLoneOperator_getLast? {c : Char} {exclude escaped : Bool} {items : List Item}
    (hc : c ∈ operatorMarks) :
    ∃ item ∈ (result ⟨[c], .boundary, exclude, escaped, items⟩).getLast?, item.IsLoneOperator := by
  have hne : c ≠ ' ' ∧ c ≠ '"' ∧ c ≠ '/' ∧ c ≠ '-' := by
    rcases mem_operatorMarks.mp hc with rfl | rfl | rfl | rfl <;> decide
  refine ⟨⟨.term, exclude, [c]⟩, ?_, rfl, c, hc, rfl⟩
  rw [result_cons]
  change _ ∈ (result (begin ⟨[], .boundary, exclude, escaped, items⟩ c)).getLast?
  rw [begin_term _ _ _ _ _ hne.1 hne.2.1 hne.2.2.1 (fun hd => absurd hd hne.2.2.2) rfl, result_nil]
  simp [closed]

/-- Outside quotes and expressions, a space behind the text separates its items from those of the tail. -/
theorem result_extend {s : Scan} (t : List Char) (hmark : s.MarkUsed)
    (hout : s.ending.phase = .boundary ∨ s.ending.phase = .word)
    (hlast : ∀ item ∈ s.result.getLast?, ¬ item.IsLoneOperator) :
    (s.extend (' ' :: t)).result = s.result ++ scan t := by
  induction hn : s.rest.length using Nat.strongRecOn generalizing s with
  | _ n ih =>
    obtain ⟨rest, phase, exclude, escaped, items⟩ := s
    cases rest with
    | nil =>
      rw [scan_eq_items, result_nil]
      rcases hout with hp | hp
      · change phase = .boundary at hp
        subst hp
        exact (result_cons ..).trans (result_boundary t escaped items)
      · change phase = .word at hp
        subst hp
        have he : exclude = false := hmark (by simp)
        subst he
        exact (result_cons ..).trans (result_boundary t escaped items)
    | cons c rest =>
      have hguard : phase = .boundary → rest = [] → c ∉ operatorMarks := by
        rintro rfl rfl hc
        obtain ⟨item, hitem, hlone⟩ := @isLoneOperator_getLast? c exclude escaped items hc
        exact hlast item hitem hlone
      have hstep : step ⟨c :: rest, phase, exclude, escaped, items⟩ =
          some (read ⟨rest, phase, exclude, escaped, items⟩ c) := rfl
      have hread := read_extend (s := ⟨rest, phase, exclude, escaped, items⟩) hguard (' ' :: t)
      have hextend : (extend ⟨c :: rest, phase, exclude, escaped, items⟩ (' ' :: t)).step =
          some ((read ⟨rest, phase, exclude, escaped, items⟩ c).extend (' ' :: t)) := congrArg some hread
      have hlength := length_rest_step_lt hstep
      rw [ending_of_step hstep] at hout
      rw [result_of_step hstep] at hlast
      rw [result_of_step hstep, result_of_step hextend]
      have hrest : MarkUsed ⟨rest, phase, exclude, escaped, items⟩ := hmark
      exact ih _ (hn ▸ hlength) (markUsed_read hrest c) hout hlast rfl

end Scan

/-- The scan of a text ends outside of quotes and expressions. -/
def EndsOutside (s : List Char) : Prop :=
  (Scan.start s).ending.phase = .boundary ∨ (Scan.start s).ending.phase = .word

instance (s : List Char) : Decidable (EndsOutside s) := inferInstanceAs (Decidable (_ ∨ _))

theorem scan_append_space {s : List Char} (hout : EndsOutside s)
    (hlast : ∀ item ∈ (scan s).getLast?, ¬ item.IsLoneOperator) (t : List Char) :
    scan (s ++ ' ' :: t) = scan s ++ scan t :=
  Scan.result_extend t (fun _ => rfl) hout hlast

theorem ofItems_append (first second : List Item) :
    ofItems (first ++ second) = do
      let a ← ofItems first
      let b ← ofItems second
      return a ++ b := by
  induction first with
  | nil =>
    cases h : ofItems second with
    | error fault => simpa [ofItems] using h
    | ok clauses => simpa [ofItems] using h
  | cons item first ih =>
    rw [List.cons_append, ofItems_cons, ofItems_cons, ih]
    cases item.clause? with
    | error fault => rfl
    | ok clause =>
      cases ofItems first with
      | error fault => rfl
      | ok a => cases ofItems second <;> simp [bind, Except.bind, pure, Except.pure]

end Query

namespace Search

theorem apply_append (scope : Scope) (first second : List Query.Clause) (entries : List Entry) :
    apply scope (first ++ second) entries = apply scope first entries >>= apply scope second :=
  List.foldlM_append

end Search

namespace Query

/-- A space between two queries puts their clauses one behind the other, if scanning the first one ends
outside of quotes and expressions and with no lone operator. The first fault counts, and entries are
searched by the one query and what it keeps by the other. -/
theorem parse_append_space {s t : String} (hout : EndsOutside s.toList)
    (hlast : ∀ item ∈ (scan s.toList).getLast?, ¬ item.IsLoneOperator) :
    (parse (s ++ " " ++ t) = do
      let first ← parse s
      let second ← parse t
      return first ++ second) ∧
    ∀ first second, parse s = .ok first → parse t = .ok second →
      ∃ clauses, parse (s ++ " " ++ t) = .ok clauses ∧ ∀ scope entries,
        Search.apply scope clauses entries = Search.apply scope first entries >>= Search.apply scope second := by
  have hparse : parse (s ++ " " ++ t) = do
      let first ← parse s
      let second ← parse t
      return first ++ second := by
    have htext : (s ++ " " ++ t).toList = s.toList ++ ' ' :: t.toList := by simp
    rw [parse, htext, scan_append_space hout hlast, ofItems_append]
    rfl
  refine ⟨hparse, fun first second hfirst hsecond => ⟨first ++ second, ?_, fun scope entries => ?_⟩⟩
  · rw [hparse, hfirst, hsecond]
    rfl
  · exact Search.apply_append scope first second entries

/-- A dash at the end of the first query excludes nothing in the second one, and a search near an address
goes first. -/
theorem parse_append_space_ring :
    EndsOutside "~9 -".toList ∧ (∀ item ∈ (scan "~9 -".toList).getLast?, ¬ item.IsLoneOperator) ∧
      ∃ clauses, parse ("~9 -" ++ " " ++ "ball -<8") = .ok clauses ∧
        Search.apply Scope.ring clauses Search.ringEntries = .ok [Scope.ringEntry 8, Scope.ringEntry 16] := by
  have hout : EndsOutside "~9 -".toList := by decide +kernel
  have hlast : ∀ item ∈ (scan "~9 -".toList).getLast?, ¬ item.IsLoneOperator := by decide +kernel
  have hfirst : parse "~9 -" = .ok [⟨false, .address .near "9" 9⟩] := rfl
  have hsecond : parse "ball -<8" = .ok [⟨false, .term "ball"⟩, ⟨true, .address (.compare .lt) "8" 8⟩] := rfl
  obtain ⟨clauses, hparse, hsearch⟩ := (parse_append_space hout hlast).2 _ _ hfirst hsecond
  refine ⟨hout, hlast, clauses, hparse, ?_⟩
  rw [hsearch]
  decide +kernel

/-- Behind a lone operator the space makes a difference. -/
example : scan "a = b".toList ≠ scan "a =".toList ++ scan "b".toList := by
  decide +kernel

end Query

end MemoryAtlas
