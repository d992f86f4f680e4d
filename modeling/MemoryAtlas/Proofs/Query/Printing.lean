import MemoryAtlas.Proofs.Query.Joining
import MemoryAtlas.Proofs.Text.Case
import MemoryAtlas.Proofs.Text.Runs
import MemoryAtlas.Query.Printer

/-!
Queries printed and read again. The items of a text are `Written`, and stay so where some are left out and
their letters become small. Written items that say something are read back item by item, with a space or
nothing behind each (`items_write`), so the clauses of a query are those of their own printed form.
-/

namespace MemoryAtlas.Query

/-- The text of an item begins and ends where the text is read anew. -/
inductive Item.Sound : Item → Prop
  | term {exclude : Bool} {c : Char} {rest : List Char} (hspace : ' ' ∉ c :: rest) (hquote : c ≠ '"')
      (hslash : c ≠ '/') (hdash : c = '-' → exclude = true) (hmark : c ∈ operatorMarks → rest = []) :
      Sound ⟨.term, exclude, c :: rest⟩
  | quote {exclude : Bool} {text : List Char} (h : '"' ∉ text) : Sound ⟨.quote, exclude, text⟩
  | regex {exclude : Bool} {text : List Char}
      (h : ∀ rest, Grammar.untilSlash (text ++ '/' :: rest) = some (text, rest)) :
      Sound ⟨.regex, exclude, text⟩
  | address {op : AddressOp} {exclude : Bool} {text : List Char} : Sound ⟨.address op, exclude, text⟩

/-- Sound items, a lone operator only at the end. -/
inductive Written : List Item → Prop
  | nil : Written []
  | cons {item : Item} {items : List Item} (hsound : item.Sound) (hlone : item.IsLoneOperator → items = [])
      (h : Written items) : Written (item :: items)

namespace Grammar

theorem untilSpace_append {s rest : List Char} (hs : ' ' ∉ s) (hrest : rest = [] ∨ ∃ r, rest = ' ' :: r) :
    untilSpace (s ++ rest) = (s, rest) := by
  have hall := Text.forall_bne_of_notMem hs
  rw [untilSpace, List.takeWhile_append_of_pos hall, List.dropWhile_append_of_pos hall]
  rcases hrest with rfl | ⟨r, rfl⟩ <;> simp

theorem untilMark_append {mark : Char} {s : List Char} (hs : mark ∉ s) (rest : List Char) :
    untilMark mark (s ++ mark :: rest) = some (s, rest) := by
  have hall := Text.forall_bne_of_notMem hs
  rw [untilMark, List.takeWhile_append_of_pos hall, List.dropWhile_append_of_pos hall]
  simp

theorem notMem_takeWhile_bne (mark : Char) (s : List Char) : mark ∉ s.takeWhile (· != mark) := by
  intro h
  have hall := List.all_eq_true.mp (List.all_takeWhile (p := (· != mark)) (l := s)) mark h
  simp at hall

theorem notMem_of_untilMark {mark : Char} {s t r : List Char} (h : untilMark mark s = some (t, r)) :
    mark ∉ t := by
  unfold untilMark at h
  split at h
  · cases h
  · cases h
    exact notMem_takeWhile_bne mark s

/-- Text that has been read up to a slash is read up to the same slash whatever is behind it. -/
theorem untilSlash_append_slash {s t r : List Char} (h : untilSlash s = some (t, r)) (rest : List Char) :
    untilSlash (t ++ '/' :: rest) = some (t, rest) := by
  fun_induction untilSlash s generalizing t r with
  | case1 => cases h
  | case2 => cases h; rfl
  | case3 c s ih =>
    obtain ⟨⟨a, b⟩, hb, he⟩ := Option.map_eq_some_iff.1 h
    cases he
    simp [untilSlash, ih hb]
  | case4 c s hslash hpair ih =>
    obtain ⟨⟨a, b⟩, hb, he⟩ := Option.map_eq_some_iff.1 h
    cases he
    have hback : c ≠ '\\' := by
      rintro rfl
      cases s with
      | nil => cases hb
      | cons d s => exact hpair d s rfl rfl
    rw [List.cons_append, untilSlash.eq_4 _ _ hslash fun _ _ hc => absurd hc hback, ih hb]
    rfl

theorem leading?_eq_none_iff (c : Char) (rest : List Char) :
    leading? (c :: rest) = none ↔ (c ∈ operatorMarks → rest = []) := by
  rw [leading?_eq_operator?]
  cases rest with
  | nil => simp [operator?]
  | cons d rest =>
    constructor
    · intro h hc
      rcases mem_operatorMarks.mp hc with rfl | rfl | rfl | rfl <;> simp [operator?_cons_cons] at h
    · intro h
      exact operator?_eq_none (fun hc => absurd (h hc) (List.cons_ne_nil d rest)) _

theorem sound_of_body {c : Char} {rest text left : List Char} {kind : ItemKind} {exclude : Bool}
    (h : body c rest = some (kind, text, left)) (hspace : c ≠ ' ') (hdash : c = '-' → exclude = true) :
    Item.Sound ⟨kind, exclude, text⟩ := by
  unfold body at h
  split at h
  · obtain ⟨⟨t, r⟩, hmark, heq⟩ := Option.map_eq_some_iff.mp h
    cases heq
    exact .quote (notMem_of_untilMark hmark)
  · next hquote =>
    split at h
    · obtain ⟨⟨t, r⟩, hslash, heq⟩ := Option.map_eq_some_iff.mp h
      cases heq
      exact .regex (untilSlash_append_slash hslash)
    · next hslash =>
      split at h
      · cases h
        exact .address
      · next hnone =>
        cases h
        have hmark := (leading?_eq_none_iff c rest).mp hnone
        refine .term ?_ hquote hslash hdash fun hc => by rw [hmark hc]; rfl
        rw [List.mem_cons, not_or]
        exact ⟨hspace.symm, notMem_takeWhile_bne ' ' rest⟩

theorem left_of_lone {c d : Char} {rest left : List Char} (h : body c rest = some (.term, [d], left))
    (hd : d ∈ operatorMarks) : left = [] := by
  unfold body at h
  split at h
  · obtain ⟨⟨t, r⟩, -, heq⟩ := Option.map_eq_some_iff.mp h
    cases heq
  · split at h
    · obtain ⟨⟨t, r⟩, -, heq⟩ := Option.map_eq_some_iff.mp h
      cases heq
    · split at h
      · cases h
      · next hnone =>
        simp only [Option.some.injEq, Prod.mk.injEq, List.cons.injEq] at h
        obtain ⟨-, ⟨rfl, -⟩, rfl⟩ := h
        rw [(leading?_eq_none_iff c rest).mp hnone hd]
        rfl

theorem written_items (s : List Char) : Written (items s) := by
  have hcons : ∀ {c : Char} {rest text left : List Char} {kind : ItemKind} {exclude : Bool},
      body c rest = some (kind, text, left) → c ≠ ' ' → (c = '-' → exclude = true) →
      Written (items left) → Written (⟨kind, exclude, text⟩ :: items left) := by
    intro c rest text left kind exclude h hspace hdash ih
    refine .cons (sound_of_body h hspace hdash) (fun hlone => ?_) ih
    obtain ⟨hkind, d, hd, htext⟩ := hlone
    dsimp only at hkind htext
    subst hkind htext
    rw [left_of_lone h hd]
    exact items.eq_1
  fun_induction items s with
  | case1 => exact .nil
  | case2 rest ih => exact ih
  | case3 => exact .nil
  | case4 rest ih => exact ih
  | case5 c rest hspace kind text left h ih => exact hcons h hspace (fun _ => rfl) ih
  | case6 => exact .nil
  | case7 c rest hspace hlone hdash hmark kind text left h ih =>
    refine hcons h hspace (fun hc => ?_) ih
    subst hc
    cases rest with
    | nil => exact absurd rfl (hlone rfl)
    | cons d rest => exact absurd rfl (hmark d rest rfl)
  | case8 => exact .nil

end Grammar

theorem Written.filter {items : List Item} (h : Written items) (p : Item → Bool) :
    Written (items.filter p) := by
  induction h with
  | nil => exact .nil
  | cons hsound hlone h ih =>
    rw [List.filter_cons]
    split
    · refine .cons hsound (fun hl => ?_) ih
      rw [hlone hl]
      rfl
    · exact ih

/-- The characters that items begin or end with. -/
def delimiters : CharSet where
  ranges := [(0x20, 0x20), (0x22, 0x22), (0x2D, 0x2D), (0x2F, 0x2F), (0x3C, 0x3E), (0x7E, 0x7E)]

theorem uncased_delimiters : Text.Case.uncased delimiters = true := by
  decide +kernel

theorem has_of_mem_operatorMarks {c : Char} (h : c ∈ operatorMarks) : delimiters.has c = true := by
  rcases mem_operatorMarks.mp h with rfl | rfl | rfl | rfl <;> rfl

theorem lower_of_mem_operatorMarks {c : Char} (h : c ∈ operatorMarks) : Text.lower [c] = [c] := by
  rcases mem_operatorMarks.mp h with rfl | rfl | rfl | rfl <;> decide +kernel

namespace Item

/-- The item with its text as it is kept in its clause. -/
def kept (item : Item) : Item :=
  match item.kind with
  | .term | .quote => { item with text := Text.lower item.text }
  | .regex | .address _ => item

theorem sound_kept {item : Item} (h : item.Sound) : item.kept.Sound := by
  cases h with
  | @term exclude c rest hspace hquote hslash hdash hmark =>
    obtain ⟨d, tail, hlower, hbecomes⟩ := Text.exists_lower_cons c rest
    have heq : ∀ b, delimiters.has b = true → d = b → c = b := by
      rintro b hb rfl
      exact (Text.Case.eq_of_becomes uncased_delimiters hbecomes hb).symm
    have hterm : kept ⟨.term, exclude, c :: rest⟩ = ⟨.term, exclude, d :: tail⟩ := by
      simp only [kept, hlower]
    rw [hterm]
    refine .term ?_ (fun hd => hquote (heq _ rfl hd)) (fun hd => hslash (heq _ rfl hd))
      (fun hd => hdash (heq _ rfl hd)) fun hd => ?_
    · rw [← hlower]
      exact fun hmem => hspace (Text.mem_of_mem_lower uncased_delimiters hmem rfl)
    · have hc : c = d := heq d (has_of_mem_operatorMarks hd) rfl
      subst hc
      rw [hmark hd, lower_of_mem_operatorMarks hd] at hlower
      exact (List.cons.inj hlower).2.symm
  | quote hquote => exact .quote fun hmem => hquote (Text.mem_of_mem_lower uncased_delimiters hmem rfl)
  | regex hslash => exact .regex hslash
  | address => exact .address

/-- Letters of either case are no operators. -/
theorem isLoneOperator_of_kept {item : Item} (h : item.Sound) (hlone : item.kept.IsLoneOperator) :
    item.IsLoneOperator := by
  cases h with
  | @term exclude c rest hspace hquote hslash hdash hmark =>
    obtain ⟨-, d, hd, htext⟩ := hlone
    obtain ⟨e, tail, hlower, hbecomes⟩ := Text.exists_lower_cons c rest
    have hed : e = d := (List.cons.inj (hlower.symm.trans htext)).1
    subst hed
    have hc := Text.Case.eq_of_becomes uncased_delimiters hbecomes (has_of_mem_operatorMarks hd)
    subst hc
    exact ⟨rfl, e, hd, by rw [hmark hd]⟩
  | quote => exact absurd hlone.1 (by simp [kept])
  | regex => exact hlone
  | address => exact hlone

theorem says_kept {item : Item} (h : Grammar.Says item) : Grammar.Says item.kept := by
  obtain ⟨kind, exclude, text⟩ := item
  cases kind with
  | term => exact fun op hop => absurd hop (by simp [kept])
  | quote => exact fun op hop => absurd hop (by simp [kept])
  | regex => exact h
  | address op => exact h

/-- A clause comes out of its own text as well as out of the text that it was read from. -/
theorem reads_kept {item : Item} {c : Clause} (h : Grammar.Reads item c) : Grammar.Reads item.kept c := by
  cases h with
  | @term exclude text =>
    have hterm : Grammar.Reads ⟨.term, exclude, Text.lower text⟩ _ := .term
    rwa [Text.lower_lower] at hterm
  | @quote exclude text =>
    have hquote : Grammar.Reads ⟨.quote, exclude, Text.lower text⟩ _ := .quote
    rwa [Text.lower_lower] at hquote
  | regex h => exact .regex h
  | below h hbelow => exact .below h hbelow
  | cartridge h => exact .cartridge h

/-- The item without its exclusion mark. -/
def bare (item : Item) : List Char :=
  match item.kind with
  | .term => item.text
  | .quote => '"' :: item.text ++ ['"']
  | .regex => '/' :: item.text ++ ['/']
  | .address op => op.symbol.toList ++ item.text

def write (item : Item) : List Char := if item.exclude then '-' :: item.bare else item.bare

theorem write_eq {item : Item} {c : Clause} (h : Grammar.Reads item c) : c.write.toList = item.kept.write := by
  cases h with
  | @term exclude | @quote exclude | @regex exclude | @below _ exclude | @cartridge _ exclude =>
    cases exclude <;> simp [Clause.write, Test.write, write, bare, kept]

end Item

namespace Grammar

theorem mem_spellings_symbol (op : AddressOp) : (op.symbol.toList, op) ∈ spellings := by
  cases op with
  | near => decide
  | compare c => cases c <;> decide

/-- Behind an operator comes what is neither part of it nor the beginning of another item. -/
theorem leading?_spelling {symbol : List Char} {op : AddressOp} (h : (symbol, op) ∈ spellings) {d : Char}
    (hd : d ≠ '=') (rest : List Char) : leading? (symbol ++ d :: rest) = some (op, d :: rest) := by
  rw [leading?_eq_operator?]
  simp only [spellings, List.mem_cons, Prod.mk.injEq, List.not_mem_nil, or_false] at h
  rcases h with ⟨rfl, rfl⟩ | ⟨rfl, rfl⟩ | ⟨rfl, rfl⟩ | ⟨rfl, rfl⟩ | ⟨rfl, rfl⟩ | ⟨rfl, rfl⟩ | ⟨rfl, rfl⟩ <;>
    simp [operator?_cons_cons, hd]

theorem exists_cons_of_spelling {symbol : List Char} {op : AddressOp} (h : (symbol, op) ∈ spellings) :
    ∃ c rest, symbol = c :: rest ∧ c ≠ ' ' ∧ c ≠ '-' ∧ c ≠ '"' ∧ c ≠ '/' := by
  simp only [spellings, List.mem_cons, Prod.mk.injEq, List.not_mem_nil, or_false] at h
  rcases h with ⟨rfl, rfl⟩ | ⟨rfl, rfl⟩ | ⟨rfl, rfl⟩ | ⟨rfl, rfl⟩ | ⟨rfl, rfl⟩ | ⟨rfl, rfl⟩ | ⟨rfl, rfl⟩ <;>
    exact ⟨_, _, rfl, by decide, by decide, by decide, by decide⟩

/-- A numeral behind an operator, up to a space or the end. -/
theorem body_operator {symbol numeral tail : List Char} {op : AddressOp} (h : (symbol, op) ∈ spellings)
    (hnumeral : Hex.IsNumeral numeral) (htail : tail = [] ∨ ∃ r, tail = ' ' :: r) :
    ∃ c rest, symbol ++ (numeral ++ tail) = c :: rest ∧ c ≠ ' ' ∧ c ≠ '-' ∧
      body c rest = some (.address op, numeral, tail) := by
  obtain ⟨d, digits, hcons, hd⟩ := Hex.exists_cons_of_isNumeral hnumeral
  have heq : d ≠ '=' := by
    rintro rfl
    exact absurd hd (by decide +kernel)
  have hspace : ' ' ∉ numeral := Hex.notMem_of_isNumeral hnumeral (by decide +kernel) (by decide)
  have hlead : leading? (symbol ++ (numeral ++ tail)) = some (op, numeral ++ tail) := by
    rw [hcons]
    exact leading?_spelling h heq (digits ++ tail)
  obtain ⟨c, rest, rfl, hs, hm, hq, hr⟩ := exists_cons_of_spelling h
  refine ⟨c, rest ++ (numeral ++ tail), rfl, hs, hm, ?_⟩
  rw [List.cons_append] at hlead
  rw [body, if_neg hq, if_neg hr, hlead]
  dsimp only
  rw [untilSpace_append hspace htail]

/-- An item that is written down is read back, and what is behind it is left. -/
theorem body_bare {item : Item} (hsound : item.Sound) (hsaid : Says item) {tail : List Char}
    (htail : tail = [] ∨ ∃ r, tail = ' ' :: r) (hlone : item.IsLoneOperator → tail = []) :
    ∃ c rest, item.bare ++ tail = c :: rest ∧ c ≠ ' ' ∧ (c = '-' → item.exclude = true) ∧
      body c rest = some (item.kind, item.text, tail) := by
  cases hsound with
  | @term exclude c rest hspace hquote hslash hdash hmark =>
    have hnone : leading? (c :: (rest ++ tail)) = none := by
      rw [leading?_eq_none_iff]
      intro hc
      have hrest := hmark hc
      rw [hrest, hlone ⟨rfl, c, hc, by rw [hrest]⟩]
      rfl
    rw [List.mem_cons, not_or] at hspace
    refine ⟨c, rest ++ tail, rfl, Ne.symm hspace.1, hdash, ?_⟩
    rw [body, if_neg hquote, if_neg hslash, hnone, untilSpace_append hspace.2 htail]
  | @quote exclude text h =>
    refine ⟨'"', text ++ '"' :: tail, by simp [Item.bare], by decide, by simp, ?_⟩
    rw [body, if_pos rfl, untilMark_append h]
    rfl
  | @regex exclude text h =>
    refine ⟨'/', text ++ '/' :: tail, by simp [Item.bare], by decide, by simp, ?_⟩
    rw [body, if_neg (by decide), if_pos rfl, h]
    rfl
  | @address op exclude text =>
    obtain ⟨c, rest, hcons, hs, hm, hbody⟩ := body_operator (mem_spellings_symbol op) (hsaid op rfl) htail
    exact ⟨c, rest, by simpa [Item.bare] using hcons, hs, fun hc => absurd hc hm, hbody⟩

theorem items_marked {c : Char} {rest text left : List Char} {kind : ItemKind} (hs : c ≠ ' ')
    (h : body c rest = some (kind, text, left)) :
    items ('-' :: c :: rest) = ⟨kind, true, text⟩ :: items left := by
  rw [items.eq_5 _ _ hs]
  split
  · next hb =>
    rw [h] at hb
    cases hb
    rfl
  · next hb =>
    rw [h] at hb
    cases hb

theorem items_unmarked {c : Char} {rest text left : List Char} {kind : ItemKind} (hs : c ≠ ' ')
    (hd : c ≠ '-') (h : body c rest = some (kind, text, left)) :
    items (c :: rest) = ⟨kind, false, text⟩ :: items left := by
  rw [items.eq_6 _ _ hs (fun hc => absurd hc hd) (fun _ hc => absurd hc hd) fun _ _ hc => absurd hc hd]
  split
  · next hb =>
    rw [h] at hb
    cases hb
    rfl
  · next hb =>
    rw [h] at hb
    cases hb

/-- A text that is one item to its end, with and without the exclusion mark. -/
theorem items_of_body {c : Char} {rest text : List Char} {kind : ItemKind} (hs : c ≠ ' ') (hd : c ≠ '-')
    (h : body c rest = some (kind, text, [])) :
    items ('-' :: c :: rest) = [⟨kind, true, text⟩] ∧ items (c :: rest) = [⟨kind, false, text⟩] := by
  rw [items_marked hs h, items_unmarked hs hd h, items.eq_1]
  exact ⟨rfl, rfl⟩

theorem items_write {item : Item} (hsound : item.Sound) (hsaid : Says item) {tail : List Char}
    (htail : tail = [] ∨ ∃ r, tail = ' ' :: r) (hlone : item.IsLoneOperator → tail = []) :
    items (item.write ++ tail) = item :: items tail := by
  obtain ⟨c, rest, hbare, hs, hd, hbody⟩ := body_bare hsound hsaid htail hlone
  obtain ⟨kind, exclude, text⟩ := item
  cases exclude with
  | true => exact (congrArg (fun s => items ('-' :: s)) hbare).trans (items_marked hs hbody)
  | false =>
    have hne : c ≠ '-' := fun hc => absurd (hd hc) (by simp)
    exact (congrArg items hbare).trans (items_unmarked hs hne hbody)

/-- A space between written items keeps them apart. -/
theorem items_intercalate {written : List Item} (h : Written written) (hsaid : ∀ item ∈ written, Says item) :
    items (List.intercalate [' '] (written.map Item.write)) = written := by
  induction h with
  | nil => exact items.eq_1
  | @cons item rest hsound hlone h ih =>
    obtain ⟨hitem, hrest⟩ := List.forall_mem_cons.mp hsaid
    cases rest with
    | nil =>
      have hone : items (item.write ++ []) = item :: items [] :=
        items_write hsound hitem (.inl rfl) fun _ => rfl
      rw [List.append_nil, items.eq_1] at hone
      rw [List.map_singleton, List.intercalate_singleton]
      exact hone
    | cons next rest =>
      have hne : ¬ item.IsLoneOperator := fun hl => absurd (hlone hl) (List.cons_ne_nil next rest)
      rw [List.map_cons, List.map_cons, List.intercalate_cons_cons, List.append_assoc, List.singleton_append,
        items_write hsound hitem (.inr ⟨_, rfl⟩) fun hl => absurd hl hne, items.eq_2]
      exact congrArg (item :: ·) (ih hrest)

end Grammar

theorem map_write_eq {items : List Item} {clauses : List Clause} (h : List.Forall₂ Grammar.Reads items clauses) :
    clauses.map (fun c => c.write.toList) = (items.map Item.kept).map Item.write := by
  induction h with
  | nil => rfl
  | cons hfirst _ ih => rw [List.map_cons, List.map_cons, List.map_cons, Item.write_eq hfirst, ih]

theorem toList_write (clauses : List Clause) :
    (write clauses).toList = List.intercalate [' '] (clauses.map fun c => c.write.toList) := by
  rw [write, String.toList_intercalate, List.map_map]
  rfl

theorem Written.kept {items : List Item} (h : Written items) : Written (items.map Item.kept) := by
  induction h with
  | nil => exact .nil
  | cons hsound hlone h ih =>
    refine .cons (Item.sound_kept hsound) (fun hl => ?_) ih
    rw [hlone (Item.isLoneOperator_of_kept hsound hl)]
    rfl

/-- The clauses of a query, written one behind the other with spaces between them, are a query with the
same clauses. -/
theorem parse_write {s : String} {clauses : List Clause} (h : parse s = .ok clauses) :
    parse (write clauses) = .ok clauses := by
  have hreads := parse_eq_ok_iff.mp h
  have hwritten := (Grammar.written_items s.toList).filter fun item => Grammar.Says item
  have hsaid : ∀ item ∈ (Grammar.items s.toList).filter fun item => Grammar.Says item, Grammar.Says item :=
    fun item hitem => of_decide_eq_true (List.mem_filter.mp hitem).2
  generalize (Grammar.items s.toList).filter (fun item => Grammar.Says item) = said at hreads hwritten hsaid
  have hkept : ∀ item ∈ said.map Item.kept, Grammar.Says item := by
    intro item hitem
    obtain ⟨i, hi, rfl⟩ := List.mem_map.mp hitem
    exact Item.says_kept (hsaid i hi)
  have hitems : Grammar.items (write clauses).toList = said.map Item.kept := by
    rw [toList_write, map_write_eq hreads]
    exact Grammar.items_intercalate hwritten.kept hkept
  have hfilter : (said.map Item.kept).filter (fun item => Grammar.Says item) = said.map Item.kept :=
    List.filter_eq_self.mpr fun item hitem => decide_eq_true (hkept item hitem)
  rw [parse_eq_ok_iff, hitems, hfilter, List.forall₂_map_left_iff]
  exact hreads.imp fun _ _ => Item.reads_kept

/-- A dash that belongs to a term, two items with no space between them, a slash within an expression, an
address in the cartridge, one that is no numeral, and an operator at the end. -/
theorem parse_write_mixture :
    ∃ clauses, parse "--X -\"A b\"/c\\/D/ >=8000010 ~zz  <" = .ok clauses ∧
      write clauses = "--x -\"a b\" /c\\/D/ >=8000010 <" ∧ parse (write clauses) = .ok clauses := by
  have hwrite : (parse "--X -\"A b\"/c\\/D/ >=8000010 ~zz  <").toOption.map write =
      some "--x -\"a b\" /c\\/D/ >=8000010 <" := by decide +kernel
  cases hparse : parse "--X -\"A b\"/c\\/D/ >=8000010 ~zz  <" with
  | error fault =>
    rw [hparse] at hwrite
    cases hwrite
  | ok clauses =>
    rw [hparse] at hwrite
    exact ⟨clauses, rfl, Option.some.inj hwrite, parse_write hparse⟩

end MemoryAtlas.Query
