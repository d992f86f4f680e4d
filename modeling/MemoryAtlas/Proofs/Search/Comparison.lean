import MemoryAtlas.Proofs.Numeral.Spelling
import MemoryAtlas.Proofs.Query.Printing
import Mathlib.Data.List.Perm.Lattice

/-!
Queries that compare with an address. An operator and a numeral are one clause, which asks every entry for itself,
so what such a query finds can be told without reading it: the entries whose numbers compare, in their order.
-/

namespace MemoryAtlas

namespace Query

/-- The text of an address behind an operator, which may be excluded. -/
def addressText (exclude : Bool) (symbol numeral : String) : String :=
  (if exclude then "-" else "") ++ symbol ++ numeral

theorem items_addressText {symbol numeral : String} {op : AddressOp}
    (h : (symbol.toList, op) ∈ Grammar.spellings) (hnumeral : Hex.IsNumeral numeral.toList) (exclude : Bool) :
    Grammar.items (addressText exclude symbol numeral).toList = [⟨.address op, exclude, numeral.toList⟩] := by
  obtain ⟨c, rest, hcons, hspace, hdash, hbody⟩ := Grammar.body_operator h hnumeral (.inl rfl)
  rw [List.append_nil] at hcons
  obtain ⟨hmarked, hunmarked⟩ := Grammar.items_of_body hspace hdash hbody
  cases exclude with
  | true =>
    have htext : (addressText true symbol numeral).toList = '-' :: c :: rest := by simp [addressText, hcons]
    rw [htext, hmarked]
  | false =>
    have htext : (addressText false symbol numeral).toList = c :: rest := by simp [addressText, hcons]
    rw [htext, hunmarked]

theorem parse_addressText {symbol numeral : String} {op : AddressOp} {value : Nat}
    (h : (symbol.toList, op) ∈ Grammar.spellings) (hnumeral : Hex.Spells numeral.toList value) (exclude : Bool) :
    parse (addressText exclude symbol numeral) = .ok [⟨exclude, .address op numeral (normalize value)⟩] := by
  have his := (Hex.isNumeral_iff_exists_spells _).mpr ⟨value, hnumeral⟩
  have hreads := Grammar.reads_address hnumeral op exclude
  rw [String.ofList_toList] at hreads
  exact parse_of_items (items_addressText h his exclude) hreads

end Query

namespace Search

variable {scope : Scope} {entries kept : List Entry} {e : Entry}

/-- Searching the entries with the text of a query leaves the list. -/
def Finds (scope : Scope) (text : String) (entries kept : List Entry) : Prop :=
  ∃ clauses, Query.parse text = .ok clauses ∧ apply scope clauses entries = .ok kept

/-- How comparisons are written, and what each of them tells of the number of an entry and an address. -/
inductive Relates : String → (Int → Int → Bool) → Prop
  | equal : Relates "=" fun v n => v = n
  | doubled : Relates "==" fun v n => v = n
  | less : Relates "<" fun v n => v < n
  | atMost : Relates "<=" fun v n => v ≤ n
  | greater : Relates ">" fun v n => n < v
  | atLeast : Relates ">=" fun v n => n ≤ v

theorem Relates.exists_comparison {symbol : String} {related : Int → Int → Bool} (h : Relates symbol related) :
    ∃ c : Comparison, (symbol.toList, .compare c) ∈ Query.Grammar.spellings ∧ c.holds = related := by
  cases h with
  | equal => exact ⟨.eq, by decide, rfl⟩
  | doubled => exact ⟨.eq, by decide, rfl⟩
  | less => exact ⟨.lt, by decide, rfl⟩
  | atMost => exact ⟨.le, by decide, rfl⟩
  | greater => exact ⟨.gt, by decide, rfl⟩
  | atLeast => exact ⟨.ge, by decide, rfl⟩

/-- The entry has a number and the answer for it is the one that is asked for. -/
def answers (related : Int → Int → Bool) (n : Int) (exclude : Bool) (e : Entry) : Bool :=
  e.sortValue.any fun v => related v n != exclude

theorem compares_eq_answers (c : Comparison) (n : Int) (exclude : Bool) :
    compares c n exclude = answers c.holds n exclude := by
  funext e
  unfold compares answers
  cases e.sortValue <;> rfl

/-- What the query finds is what its clauses keep. -/
theorem finds_iff_of_parse {text : String} {clauses : List Query.Clause} {found : List Entry}
    (hparse : Query.parse text = .ok clauses) (happly : apply scope clauses entries = .ok found) :
    Finds scope text entries kept ↔ kept = found := by
  constructor
  · rintro ⟨others, hothers, hkept⟩
    obtain rfl := Except.ok.inj (hparse.symm.trans hothers)
    exact Except.ok.inj (hkept.symm.trans happly)
  · rintro rfl
    exact ⟨clauses, hparse, happly⟩

theorem Relates.finds_iff {symbol : String} {related : Int → Int → Bool} (h : Relates symbol related)
    {numeral : String} {value : Nat} (hnumeral : Hex.Spells numeral.toList value) (exclude : Bool) :
    Finds scope (Query.addressText exclude symbol numeral) entries kept ↔
      kept = entries.filter (answers related (Query.normalize value) exclude) := by
  obtain ⟨c, hspelling, rfl⟩ := h.exists_comparison
  rw [← compares_eq_answers]
  exact finds_iff_of_parse (Query.parse_addressText hspelling hnumeral exclude) rfl

theorem normalize_eq (value : Nat) :
    (Query.normalize value : Int) = if 0x8000000 ≤ value then (value : Int) - 0x8000000 else value := by
  unfold Query.normalize Query.romBase
  split <;> omega

/-! Lists split by a question -/

theorem filter_append_perm_filter {α : Type} {p q s : α → Bool} (hs : ∀ a, s a = (p a || q a))
    (hpq : ∀ a, p a = true → q a = false) (l : List α) : (l.filter p ++ l.filter q).Perm (l.filter s) := by
  have hp : (l.filter s).filter p = l.filter p := by
    rw [List.filter_filter]
    exact List.filter_congr fun a _ => by rw [hs]; cases p a <;> simp
  have hq : (l.filter s).filter (fun a => !p a) = l.filter q := by
    rw [List.filter_filter]
    exact List.filter_congr fun a _ => by rw [hs]; cases h : p a <;> simp [hpq a, h]
  have hperm := List.filter_append_perm p (l.filter s)
  rwa [hp, hq] at hperm

theorem disjoint_filter {α : Type} {p q : α → Bool} (hpq : ∀ a, p a = true → q a = false) (l : List α) :
    (l.filter p).Disjoint (l.filter q) := by
  intro a hp hq
  have hno := hpq a (List.mem_filter.mp hp).2
  rw [(List.mem_filter.mp hq).2] at hno
  cases hno

/-! Answers that depend on each other -/

theorem answers_congr {first second : Int → Int → Bool} {n : Int} {exclude other : Bool}
    (h : ∀ v, (first v n != exclude) = (second v n != other)) :
    answers first n exclude = answers second n other := by
  funext e
  exact congrArg (Option.any · e.sortValue) (funext h)

theorem answers_not_less (n : Int) :
    answers (fun v n => v < n) n true = answers (fun v n => n ≤ v) n false :=
  answers_congr fun v => by grind

theorem answers_not_greater (n : Int) :
    answers (fun v n => n < v) n true = answers (fun v n => v ≤ n) n false :=
  answers_congr fun v => by grind

theorem isSome_of_answers {related : Int → Int → Bool} {n : Int} {exclude : Bool}
    (h : answers related n exclude e = true) : e.sortValue.isSome = true := by
  unfold answers at h
  cases hv : e.sortValue with
  | none => simp [hv] at h
  | some v => rfl

theorem answers_or {first second both : Int → Int → Bool} {n : Int}
    (h : ∀ v, both v n = (first v n || second v n)) (e : Entry) :
    answers both n false e = (answers first n false e || answers second n false e) := by
  unfold answers
  cases e.sortValue with
  | none => rfl
  | some v => simp [h]

theorem answers_eq_false {first second : Int → Int → Bool} {n : Int}
    (h : ∀ v, first v n = true → second v n = false) (e : Entry) (he : answers first n false e = true) :
    answers second n false e = false := by
  unfold answers at *
  cases hv : e.sortValue with
  | none => rfl
  | some v =>
    rw [hv] at he
    simpa using h v (by simpa using he)

theorem split_perm (n : Int) (entries : List Entry) :
    (entries.filter (answers (fun v n => v < n) n false) ++ entries.filter (answers (fun v n => v = n) n false) ++
      entries.filter (answers (fun v n => n < v) n false)).Perm (entries.filter fun e => e.sortValue.isSome) := by
  have hupTo : (entries.filter (answers (fun v n => v < n) n false) ++
      entries.filter (answers (fun v n => v = n) n false)).Perm
        (entries.filter (answers (fun v n => v ≤ n) n false)) := by
    refine filter_append_perm_filter (answers_or fun v => ?_) (answers_eq_false fun v h => ?_) entries
    · grind
    · grind
  have hall : (entries.filter (answers (fun v n => v ≤ n) n false) ++
      entries.filter (answers (fun v n => n < v) n false)).Perm (entries.filter fun e => e.sortValue.isSome) := by
    refine filter_append_perm_filter (fun e => ?_) (answers_eq_false fun v h => ?_) entries
    · unfold answers
      cases e.sortValue with
      | none => rfl
      | some v => grind
    · grind
  exact (hupTo.append_right _).trans hall

/-- A comparison with a numeral finds the entries whose numbers compare with its address, or those whose numbers do
not if it is excluded, and never an entry without a number. So excluding one comparison is asking for the opposite
one, and the three that exclude each other split the entries with numbers. -/
theorem finds_comparison (scope : Scope) (entries : List Entry) {numeral : String}
    (hnumeral : Hex.IsNumeral numeral.toList) :
    ∃ value : Nat, Hex.Spells numeral.toList value ∧
    ∃ n : Int, n = (if 0x8000000 ≤ value then (value : Int) - 0x8000000 else value) ∧
      (∀ symbol related, Relates symbol related → ∀ exclude kept,
        (Finds scope (Query.addressText exclude symbol numeral) entries kept ↔
          kept = entries.filter fun e => e.sortValue.any fun v => related v n != exclude) ∧
        (Finds scope (Query.addressText exclude symbol numeral) entries kept →
          ∀ e ∈ kept, (∀ s, e ≠ .struct s) ∧ (∀ d, e ≠ .enum d) ∧ ∀ v, e ≠ .var v)) ∧
      (∀ kept, Finds scope (Query.addressText true "<" numeral) entries kept ↔
        Finds scope (Query.addressText false ">=" numeral) entries kept) ∧
      (∀ kept, Finds scope (Query.addressText true ">" numeral) entries kept ↔
        Finds scope (Query.addressText false "<=" numeral) entries kept) ∧
      ∀ less equal greater, Finds scope (Query.addressText false "<" numeral) entries less →
        Finds scope (Query.addressText false "=" numeral) entries equal →
        Finds scope (Query.addressText false ">" numeral) entries greater →
        (less ++ equal ++ greater).Perm (entries.filter fun e => e.sortValue.isSome) ∧
          less.Disjoint equal ∧ less.Disjoint greater ∧ equal.Disjoint greater := by
  obtain ⟨value, hspells⟩ := (Hex.isNumeral_iff_exists_spells _).mp hnumeral
  refine ⟨value, hspells, Query.normalize value, normalize_eq value, ?_, fun kept => ?_, fun kept => ?_, ?_⟩
  · refine fun symbol related h exclude kept => ⟨h.finds_iff hspells exclude, fun hfinds e he => ?_⟩
    rw [(h.finds_iff hspells exclude).mp hfinds] at he
    have hsome := isSome_of_answers (List.mem_filter.mp he).2
    refine ⟨?_, ?_, ?_⟩ <;> rintro _ rfl <;> cases hsome
  · rw [Relates.less.finds_iff hspells, Relates.atLeast.finds_iff hspells, answers_not_less]
  · rw [Relates.greater.finds_iff hspells, Relates.atMost.finds_iff hspells, answers_not_greater]
  · intro less equal greater hless hequal hgreater
    obtain rfl := (Relates.less.finds_iff hspells false).mp hless
    obtain rfl := (Relates.equal.finds_iff hspells false).mp hequal
    obtain rfl := (Relates.greater.finds_iff hspells false).mp hgreater
    refine ⟨split_perm _ entries, ?_, ?_, ?_⟩ <;>
      exact disjoint_filter (answers_eq_false fun v h => by grind) entries

def named (label : String) : Caption := ⟨.text label, .text "", .null⟩

/-- A function that lies in the cartridge, a definition, and data in front of the cartridge. -/
def routine : Entry := .code { named "Update" with addr := 0x8000100, size := 16, mode := none, params := [], ret := none }

def slot : Entry := .struct { named "Slot" with size := 4, fields := [] }

def table : Entry :=
  .data { named "table" with type := TypeDecl.parse "u8", count := none, category := none, enum := .null, addr := 0x100 }

/-- The numeral stands for an address in the cartridge, which is counted from the start of the cartridge. -/
theorem finds_comparison_cartridge :
    Hex.IsNumeral "0x08000100".toList ∧
      Finds Scope.ring "-<0x08000100" [routine, slot, table] [routine, table] ∧
      Finds Scope.ring ">=0x08000100" [routine, slot, table] [routine, table] ∧
      Finds Scope.ring "==0x08000100" [routine, slot, table] [table] := by
  have hnumeral : Hex.IsNumeral "0x08000100".toList := by decide +kernel
  obtain ⟨value, hspells, n, hn, hfinds, hnot, -⟩ := finds_comparison Scope.ring [routine, slot, table] hnumeral
  have hvalue : Hex.readChars "0x08000100".toList = some 0x8000100 := by decide +kernel
  obtain rfl : value = 0x8000100 := Option.some.inj ((Hex.readChars_of_spells hspells).symm.trans hvalue)
  obtain rfl : n = 0x100 := hn
  have hless : Finds Scope.ring "-<0x08000100" [routine, slot, table] [routine, table] :=
    (hfinds "<" _ .less true _).1.mpr (by decide +kernel)
  have hequal : Finds Scope.ring "==0x08000100" [routine, slot, table] [table] :=
    (hfinds "==" _ .doubled false _).1.mpr (by decide +kernel)
  exact ⟨hnumeral, hless, (hnot _).mp hless, hequal⟩

end Search

end MemoryAtlas
