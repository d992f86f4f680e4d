import MemoryAtlas.Proofs.Fallible
import MemoryAtlas.Proofs.Numeral.Spelling
import MemoryAtlas.Proofs.Query.Scanning
import MemoryAtlas.Query.Parse

/-!
Scanning a query character by character and reading it by its grammar come to the same: first item by
item (`scan_eq_items`), then as the clauses that these are read as, or as the fault of the first expression that cannot
be read (`ofItems_eq_iff`).
-/

namespace MemoryAtlas.Query

namespace Scan

/-- Between two items the scanner remembers nothing but the items that it has. -/
theorem result_boundary (rest : List Char) (escaped : Bool) (items : List Item) :
    result ⟨rest, .boundary, false, escaped, items⟩ = items.reverse ++ Grammar.items rest := by
  fun_induction Grammar.items rest generalizing escaped items with
  | case1 => simp [result_nil, closed]
  | case2 rest ih =>
    rw [result_cons]
    exact ih escaped items
  | case3 => simp [result_cons, result_nil, read, begin, operator?, closed]
  | case4 rest ih =>
    rw [result_cons, read_dash, result_cons]
    exact ih escaped items
  | case5 c rest hspace kind text left h ih =>
    rw [result_cons, read_dash, result_item _ _ _ _ hspace fun _ => rfl, h]
    simpa using ih _ (⟨kind, true, text⟩ :: items)
  | case6 c rest hspace h =>
    rw [result_cons, read_dash, result_item _ _ _ _ hspace fun _ => rfl, h]
    simp
  | case7 c rest hspace hlone hdash hmark kind text left h ih =>
    have hd : c ≠ '-' := by
      rintro rfl
      cases rest with
      | nil => exact hlone rfl rfl
      | cons d rest => exact hmark d rest rfl rfl
    rw [result_item _ _ _ _ hspace fun hc => absurd hc hd, h]
    simpa using ih _ (⟨kind, false, text⟩ :: items)
  | case8 c rest hspace hlone hdash hmark h =>
    have hd : c ≠ '-' := by
      rintro rfl
      cases rest with
      | nil => exact hlone rfl rfl
      | cons d rest => exact hmark d rest rfl rfl
    rw [result_item _ _ _ _ hspace fun hc => absurd hc hd, h]
    simp

end Scan

theorem scan_eq_items (s : List Char) : scan s = Grammar.items s := Scan.result_boundary s false []

example : scan "--x >=0x8 \"a b\"/c\\/d/".toList =
    [⟨.term, true, "-x".toList⟩, ⟨.address (.compare .ge), false, "0x8".toList⟩,
      ⟨.quote, false, "a b".toList⟩, ⟨.regex, false, "c\\/d".toList⟩] := by
  decide +kernel

theorem normalize_of_lt {n : Nat} (h : n < 0x8000000) : normalize n = n := if_neg (Nat.not_le_of_lt h)

theorem normalize_add (offset : Nat) : normalize (0x8000000 + offset) = offset := by
  simp [normalize, romBase]

namespace Grammar

/-- An address says something only if it is a numeral; all other items do. -/
def Says (item : Item) : Prop := ∀ op, item.kind = .address op → Hex.IsNumeral item.text

instance (item : Item) : Decidable (Says item) :=
  match h : item.kind with
  | .address _ => decidable_of_iff (Hex.IsNumeral item.text) ⟨fun hn _ _ => hn, fun hs => hs _ h⟩
  | .term | .quote | .regex => isTrue fun _ ho => by rw [h] at ho; cases ho

/-- The clause that an item is read as. Texts are in lower case, expressions are not, and an address from 0x8000000 on
is counted from there. -/
inductive Reads : Item → Clause → Prop
  | term {exclude : Bool} {text : List Char} :
      Reads ⟨.term, exclude, text⟩ ⟨exclude, .term (String.ofList (Text.lower text))⟩
  | quote {exclude : Bool} {text : List Char} :
      Reads ⟨.quote, exclude, text⟩ ⟨exclude, .quote (String.ofList (Text.lower text))⟩
  | regex {exclude : Bool} {text : List Char} {pattern : Pattern} (h : Pattern.read text = .ok pattern) :
      Reads ⟨.regex, exclude, text⟩ ⟨exclude, .regex (String.ofList text) pattern⟩
  | below {op : AddressOp} {exclude : Bool} {text : List Char} {value : Nat} (h : Hex.Spells text value)
      (hbelow : value < 0x8000000) :
      Reads ⟨.address op, exclude, text⟩ ⟨exclude, .address op (String.ofList text) value⟩
  | cartridge {op : AddressOp} {exclude : Bool} {text : List Char} {offset : Nat}
      (h : Hex.Spells text (0x8000000 + offset)) :
      Reads ⟨.address op, exclude, text⟩ ⟨exclude, .address op (String.ofList text) offset⟩

/-- The item is an expression that cannot be read. -/
inductive Fails : Item → BadPattern → Prop
  | regex {exclude : Bool} {text : List Char} {flaw : Pattern.Flaw} (h : Pattern.read text = .error flaw) :
      Fails ⟨.regex, exclude, text⟩ ⟨String.ofList text, flaw⟩

/-- What items come to: the clauses that those of them which say something are read as, in their order, or the fault of
the first one that has a fault. -/
inductive Reading (items : List Item) : Except BadPattern (List Clause) → Prop
  | clauses {clauses : List Clause} (h : List.Forall₂ Reads (items.filter fun item => Says item) clauses) :
      Reading items (.ok clauses)
  | fault {before after : List Item} {item : Item} {fault : BadPattern} (hitems : items = before ++ item :: after)
      (hbefore : ∀ i ∈ before, ∀ other, ¬ Fails i other) (h : Fails item fault) : Reading items (.error fault)

theorem reads_address {text : List Char} {value : Nat} (h : Hex.Spells text value) (op : AddressOp) (exclude : Bool) :
    Reads ⟨.address op, exclude, text⟩ ⟨exclude, .address op (String.ofList text) (normalize value)⟩ := by
  rcases Nat.lt_or_ge value 0x8000000 with hlt | hle
  · rw [normalize_of_lt hlt]
    exact .below h hlt
  · obtain ⟨offset, rfl⟩ := Nat.exists_eq_add_of_le hle
    rw [normalize_add]
    exact .cartridge h

end Grammar

/-! One item -/

theorem clause?_eq_some_iff {item : Item} {c : Clause} : item.clause? = .ok (some c) ↔ Grammar.Reads item c := by
  constructor
  · intro h
    obtain ⟨kind, exclude, text⟩ := item
    cases kind with
    | term =>
      cases h
      exact .term
    | quote =>
      cases h
      exact .quote
    | regex =>
      simp only [Item.clause?] at h
      split at h
      · next hread =>
        cases h
        exact .regex hread
      · cases h
    | address op =>
      obtain ⟨n, hn, rfl⟩ := Option.map_eq_some_iff.mp (Except.ok.inj h)
      exact Grammar.reads_address (Hex.readChars_eq_some_iff.mp hn) op exclude
  · intro h
    cases h with
    | term => rfl
    | quote => rfl
    | regex h => simp [Item.clause?, h]
    | below h hbelow => simp [Item.clause?, Hex.readChars_of_spells h, normalize_of_lt hbelow]
    | cartridge h => simp [Item.clause?, Hex.readChars_of_spells h, normalize_add]

theorem clause?_eq_none_iff {item : Item} : item.clause? = .ok none ↔ ¬ Grammar.Says item := by
  obtain ⟨kind, exclude, text⟩ := item
  cases kind with
  | term => simp [Item.clause?, Grammar.Says]
  | quote => simp [Item.clause?, Grammar.Says]
  | regex =>
    simp only [Item.clause?, Grammar.Says]
    cases Pattern.read text <;> simp
  | address op => simp [Item.clause?, Grammar.Says, Hex.readChars_eq_none_iff]

theorem clause?_eq_error_iff {item : Item} {fault : BadPattern} :
    item.clause? = .error fault ↔ Grammar.Fails item fault := by
  constructor
  · intro h
    obtain ⟨kind, exclude, text⟩ := item
    cases kind with
    | term => cases h
    | quote => cases h
    | regex =>
      simp only [Item.clause?] at h
      split at h
      · cases h
      · next hread =>
        cases h
        exact .regex hread
    | address op => cases h
  · rintro ⟨h⟩
    simp [Item.clause?, h]

/-! Items one after the other -/

theorem ofItems_cons (item : Item) (items : List Item) :
    ofItems (item :: items) = do
      let clause ← item.clause?
      let clauses ← ofItems items
      return clause.toList ++ clauses := by
  simp only [ofItems, List.mapM_cons]
  cases item.clause? with
  | error fault => rfl
  | ok clause =>
    cases items.mapM Item.clause? with
    | error fault => rfl
    | ok found => cases clause <;> rfl

theorem ofItems_eq_ok_iff {items : List Item} {clauses : List Clause} :
    ofItems items = .ok clauses ↔ List.Forall₂ Grammar.Reads (items.filter fun item => Grammar.Says item) clauses := by
  induction items generalizing clauses with
  | nil =>
    rw [List.filter_nil, List.forall₂_nil_left_iff]
    constructor
    · intro h
      cases h
      rfl
    · rintro rfl
      rfl
  | cons item items ih =>
    rw [ofItems_cons]
    by_cases hsays : Grammar.Says item
    · rw [List.filter_cons_of_pos (by simpa using hsays)]
      constructor
      · intro h
        obtain ⟨clause, hclause, h⟩ := Fallible.bind_eq_ok.mp h
        obtain ⟨rest, hrest, h⟩ := Fallible.bind_eq_ok.mp h
        cases h
        cases clause with
        | none => exact absurd hsays (clause?_eq_none_iff.mp hclause)
        | some c => exact .cons (clause?_eq_some_iff.mp hclause) (ih.mp hrest)
      · rintro (_ | ⟨hfirst, hrest⟩)
        rw [clause?_eq_some_iff.mpr hfirst, ih.mpr hrest]
        rfl
    · rw [List.filter_cons_of_neg (by simpa using hsays), clause?_eq_none_iff.mpr hsays, ← ih]
      cases ofItems items <;> rfl

theorem ofItems_eq_error_iff {items : List Item} {fault : BadPattern} :
    ofItems items = .error fault ↔ ∃ before item after, items = before ++ item :: after ∧
      (∀ i ∈ before, ∀ other, ¬ Grammar.Fails i other) ∧ Grammar.Fails item fault := by
  induction items with
  | nil =>
    constructor
    · intro h
      cases h
    · rintro ⟨before, item, after, hitems, -⟩
      simp at hitems
  | cons first items ih =>
    rw [ofItems_cons]
    constructor
    · intro h
      rcases Fallible.bind_eq_error.mp h with hfails | ⟨clause, hclause, h⟩
      · exact ⟨[], first, items, rfl, fun i hi => absurd hi List.not_mem_nil, clause?_eq_error_iff.mp hfails⟩
      · rcases Fallible.bind_eq_error.mp h with hrest | ⟨rest, -, h⟩
        · obtain ⟨before, item, after, rfl, hbefore, hfails⟩ := ih.mp hrest
          refine ⟨first :: before, item, after, rfl, List.forall_mem_cons.mpr ⟨fun other h => ?_, hbefore⟩, hfails⟩
          rw [clause?_eq_error_iff.mpr h] at hclause
          cases hclause
        · cases h
    · rintro ⟨before, item, after, hitems, hbefore, hfails⟩
      cases before with
      | nil =>
        cases hitems
        rw [clause?_eq_error_iff.mpr hfails]
        rfl
      | cons _ before =>
        cases hitems
        obtain ⟨hfirst, hbefore⟩ := List.forall_mem_cons.mp hbefore
        have hrest := ih.mpr ⟨before, item, after, rfl, hbefore, hfails⟩
        cases hclause : first.clause? with
        | error other => exact absurd (clause?_eq_error_iff.mp hclause) (hfirst other)
        | ok clause =>
          rw [hrest]
          rfl

theorem ofItems_eq_iff (items : List Item) (outcome : Except BadPattern (List Clause)) :
    ofItems items = outcome ↔ Grammar.Reading items outcome := by
  constructor
  · intro h
    cases outcome with
    | ok clauses => exact .clauses (ofItems_eq_ok_iff.mp h)
    | error fault =>
      obtain ⟨before, item, after, hitems, hbefore, hfails⟩ := ofItems_eq_error_iff.mp h
      exact .fault hitems hbefore hfails
  · intro h
    cases h with
    | clauses h => exact ofItems_eq_ok_iff.mpr h
    | fault hitems hbefore hfails => exact ofItems_eq_error_iff.mpr ⟨_, _, _, hitems, hbefore, hfails⟩

/-! Queries -/

theorem parse_eq_ok_iff {s : String} {clauses : List Clause} : parse s = .ok clauses ↔
    List.Forall₂ Grammar.Reads ((Grammar.items s.toList).filter fun item => Grammar.Says item) clauses := by
  rw [parse, scan_eq_items, ofItems_eq_ok_iff]

theorem parse_of_items {s : String} {item : Item} {c : Clause} (h : Grammar.items s.toList = [item])
    (hreads : Grammar.Reads item c) : parse s = .ok [c] := by
  rw [parse, scan_eq_items, h, ofItems_cons, clause?_eq_some_iff.mpr hreads]
  rfl

theorem isFinal_of_reads {item : Item} {c : Clause} (h : Grammar.Reads item c) : c.IsFinal := by
  intro gap
  cases h <;> simp

theorem isFinal_of_forall₂ {items : List Item} {clauses : List Clause} (h : List.Forall₂ Grammar.Reads items clauses) :
    ∀ c ∈ clauses, c.IsFinal := by
  induction h with
  | nil => exact fun c hc => absurd hc List.not_mem_nil
  | cons hfirst _ ih => exact List.forall_mem_cons.mpr ⟨isFinal_of_reads hfirst, ih⟩

/-- No clause that is read from a text lacks what it compares with. -/
theorem isFinal_of_parse {s : String} {clauses : List Clause} (h : parse s = .ok clauses) :
    ∀ c ∈ clauses, c.IsFinal :=
  isFinal_of_forall₂ (parse_eq_ok_iff.mp h)

/-- Every query is read as its grammar says: the same items, and of these the same clauses or the same fault, and
nothing but these. -/
theorem parse_eq_iff_reading (s : String) :
    scan s.toList = Grammar.items s.toList ∧
      ∀ outcome, parse s = outcome ↔ Grammar.Reading (Grammar.items s.toList) outcome := by
  refine ⟨scan_eq_items s.toList, fun outcome => ?_⟩
  rw [parse, scan_eq_items, ofItems_eq_iff]

end MemoryAtlas.Query
