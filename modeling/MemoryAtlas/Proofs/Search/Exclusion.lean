import MemoryAtlas.Proofs.Search.Comparison
import MemoryAtlas.Proofs.Search.Conjunction
import MemoryAtlas.Proofs.Search.Neighbours

/-!
A query of one item and the same query with the item excluded. They split the entries that have a number between
them, except that a search near an address does not heed the mark and finds the same entries again.
-/

namespace MemoryAtlas

namespace Query

/-- A text that is one item, with no exclusion mark and no space in front. The expression, if it is one, can be
read. -/
inductive Single : ItemKind → String → Prop
  | term {c : Char} {rest : List Char} (hspace : ' ' ∉ c :: rest) (hdash : c ≠ '-') (hquote : c ≠ '"')
      (hslash : c ≠ '/') (hmark : c ∈ operatorMarks → rest = []) : Single .term (String.ofList (c :: rest))
  | quote {text : String} (h : '"' ∉ text.toList) : Single .quote ("\"" ++ text ++ "\"")
  | regex {text : String} {pattern : Pattern}
      (h : Grammar.untilSlash (text.toList ++ ['/']) = some (text.toList, []))
      (hread : Pattern.read text.toList = .ok pattern) : Single .regex ("/" ++ text ++ "/")
  | address {symbol numeral : String} {op : AddressOp} (h : (symbol.toList, op) ∈ Grammar.spellings)
      (hnumeral : Hex.IsNumeral numeral.toList) : Single (.address op) (symbol ++ numeral)

theorem exists_body_of_bare {item : Item} (hsound : item.Sound) (hsaid : Grammar.Says item)
    (hexclude : item.exclude = false) :
    ∃ c rest, item.bare = c :: rest ∧ c ≠ ' ' ∧ c ≠ '-' ∧
      Grammar.body c rest = some (item.kind, item.text, []) := by
  obtain ⟨c, rest, hbare, hs, hd, hbody⟩ := Grammar.body_bare hsound hsaid (.inl rfl) fun _ => rfl
  rw [List.append_nil] at hbare
  refine ⟨c, rest, hbare, hs, fun hc => ?_, hbody⟩
  rw [hd hc] at hexclude
  cases hexclude

theorem parse_of_body {i : String} {c : Char} {rest text : List Char} {kind : ItemKind} {test : Test}
    (hi : i.toList = c :: rest) (hs : c ≠ ' ') (hd : c ≠ '-') (hbody : Grammar.body c rest = some (kind, text, []))
    (hreads : ∀ exclude, Grammar.Reads ⟨kind, exclude, text⟩ ⟨exclude, test⟩) :
    parse i = .ok [⟨false, test⟩] ∧ parse ("-" ++ i) = .ok [⟨true, test⟩] := by
  obtain ⟨hmarked, hunmarked⟩ := Grammar.items_of_body hs hd hbody
  have htext : ("-" ++ i).toList = '-' :: c :: rest := by simp [hi]
  exact ⟨parse_of_items (hi ▸ hunmarked) (hreads false), parse_of_items (htext ▸ hmarked) (hreads true)⟩

theorem parse_term {c : Char} {rest : List Char} (hspace : ' ' ∉ c :: rest) (hdash : c ≠ '-') (hquote : c ≠ '"')
    (hslash : c ≠ '/') (hmark : c ∈ operatorMarks → rest = []) :
    parse (String.ofList (c :: rest)) = .ok [⟨false, .term (lowered (c :: rest))⟩] ∧
      parse ("-" ++ String.ofList (c :: rest)) = .ok [⟨true, .term (lowered (c :: rest))⟩] := by
  have hsound : Item.Sound ⟨.term, false, c :: rest⟩ :=
    .term hspace hquote hslash (fun hc => absurd hc hdash) hmark
  obtain ⟨d, tail, hbare, hs, hd, hbody⟩ := exists_body_of_bare hsound (fun op hop => by cases hop) rfl
  have hi : (String.ofList (c :: rest)).toList = d :: tail := String.toList_ofList.trans hbare
  exact parse_of_body hi hs hd hbody fun _ => .term

theorem parse_quote {text : String} (h : '"' ∉ text.toList) :
    parse ("\"" ++ text ++ "\"") = .ok [⟨false, .quote (lowered text.toList)⟩] ∧
      parse ("-" ++ ("\"" ++ text ++ "\"")) = .ok [⟨true, .quote (lowered text.toList)⟩] := by
  have hsound : Item.Sound ⟨.quote, false, text.toList⟩ := .quote h
  obtain ⟨d, tail, hbare, hs, hd, hbody⟩ := exists_body_of_bare hsound (fun op hop => by cases hop) rfl
  have hi : ("\"" ++ text ++ "\"").toList = d :: tail := by simpa [Item.bare] using hbare
  exact parse_of_body hi hs hd hbody fun _ => .quote

/-- A single item is one clause, and the mark in front of it makes no difference but to exclude. -/
theorem Single.exists_test {kind : ItemKind} {i : String} (h : Single kind i) :
    ∃ test : Test, parse i = .ok [⟨false, test⟩] ∧ parse ("-" ++ i) = .ok [⟨true, test⟩] ∧
      ((∃ numeral target, test = .address .near numeral target) ↔ kind = .address .near) := by
  cases h with
  | term hspace hdash hquote hslash hmark =>
    obtain ⟨hplain, hmarked⟩ := parse_term hspace hdash hquote hslash hmark
    exact ⟨_, hplain, hmarked, by simp⟩
  | quote htext =>
    obtain ⟨hplain, hmarked⟩ := parse_quote htext
    exact ⟨_, hplain, hmarked, by simp⟩
  | @regex text pattern hclosed hread =>
    have hsound : Item.Sound ⟨.regex, false, text.toList⟩ := .regex (Grammar.untilSlash_append_slash hclosed)
    obtain ⟨d, tail, hbare, hs, hd, hbody⟩ := exists_body_of_bare hsound (fun op hop => by cases hop) rfl
    have hi : ("/" ++ text ++ "/").toList = d :: tail := by simpa [Item.bare] using hbare
    obtain ⟨hplain, hmarked⟩ := parse_of_body hi hs hd hbody fun _ => .regex hread
    exact ⟨_, hplain, hmarked, by simp⟩
  | @address symbol numeral op hsymbol hnumeral =>
    obtain ⟨value, hspells⟩ := (Hex.isNumeral_iff_exists_spells _).mp hnumeral
    obtain ⟨d, tail, hcons, hs, hd, hbody⟩ := Grammar.body_operator hsymbol hnumeral (.inl rfl)
    have hi : (symbol ++ numeral).toList = d :: tail := by simpa using hcons
    obtain ⟨hplain, hmarked⟩ := parse_of_body hi hs hd hbody (Grammar.reads_address hspells op)
    exact ⟨_, hplain, hmarked, by simp⟩

end Query

namespace Search

variable {scope : Scope} {entries kept : List Entry} {e : Entry} {test : Query.Test}

/-- Each item of the first list stands in one of the two others, which keep its order. -/
inductive Splits {α : Type} : List α → List α → List α → Prop
  | nil : Splits [] [] []
  | left {a : α} {l kept rest : List α} (h : Splits l kept rest) : Splits (a :: l) (a :: kept) rest
  | right {a : α} {l kept rest : List α} (h : Splits l kept rest) : Splits (a :: l) kept (a :: rest)

theorem splits_filter {α : Type} (p : α → Bool) (l : List α) :
    Splits l (l.filter p) (l.filter fun a => !p a) := by
  induction l with
  | nil => exact .nil
  | cons a l ih =>
    cases hp : p a with
    | true => simpa [hp] using ih.left
    | false => simpa [hp] using ih.right

theorem Splits.length_eq {α : Type} {l kept rest : List α} (h : Splits l kept rest) :
    l.length = kept.length + rest.length := by
  induction h with
  | nil => rfl
  | left _ ih =>
    rw [List.length_cons, List.length_cons]
    omega
  | right _ ih =>
    rw [List.length_cons, List.length_cons]
    omega

/-- There is one answer to a test for an entry with a number, whether the test is excluded or not. -/
theorem exists_answer (hplaced : e.sortValue.isSome) (htext : ∀ d, scope.ReachesDesc e d → d.descText?.isSome)
    (hdefined : ∀ name, scope.ReachesStruct e name → scope.structs.has name = true) (test : Query.Test) :
    ∃ answer, ∀ exclude, asks scope ⟨exclude, test⟩ e = .ok (answer != exclude) := by
  obtain ⟨value, hvalue⟩ := Option.isSome_iff_exists.mp hplaced
  obtain ⟨found, hfound⟩ := Scope.exists_hits (t := test) htext hdefined
  cases test with
  | term text | quote text | regex text pattern | unfinished gap =>
    refine ⟨found, fun exclude => ?_⟩
    simp only [asks, hfound]
    rfl
  | address op numeral addr =>
    cases op with
    | near =>
      refine ⟨found, fun exclude => ?_⟩
      simp only [asks, hfound]
      rfl
    | compare c =>
      refine ⟨c.holds value addr, fun exclude => ?_⟩
      simp only [asks, compares, hvalue]

theorem passes_excluded (hplaced : e.sortValue.isSome) (htext : ∀ d, scope.ReachesDesc e d → d.descText?.isSome)
    (hdefined : ∀ name, scope.ReachesStruct e name → scope.structs.has name = true) :
    passes scope ⟨true, test⟩ e = !passes scope ⟨false, test⟩ e := by
  obtain ⟨answer, hanswer⟩ := exists_answer hplaced htext hdefined test
  rw [passes, passes, hanswer, hanswer]
  cases answer <;> rfl

/-- A single item and the same item excluded split the entries, if these all have numbers and all structs in reach are
defined; only a search near an address finds the same entries whether it is excluded or not. -/
theorem splits_of_single {kind : Query.ItemKind} {i : String} (h : Query.Single kind i)
    (hplaced : ∀ e ∈ entries, e.sortValue.isSome)
    (htext : ∀ e ∈ entries, ∀ d, scope.ReachesDesc e d → d.descText?.isSome)
    (hdefined : ∀ e ∈ entries, ∀ name, scope.ReachesStruct e name → scope.structs.has name = true) :
    (kind ≠ .address .near →
      ∃ kept rest, (∀ found, Finds scope i entries found ↔ found = kept) ∧
        (∀ found, Finds scope ("-" ++ i) entries found ↔ found = rest) ∧ Splits entries kept rest) ∧
    (kind = .address .near → ∀ found, Finds scope ("-" ++ i) entries found ↔ Finds scope i entries found) := by
  obtain ⟨test, hplain, hmarked, hkind⟩ := h.exists_test
  constructor
  · intro hne
    have hfilter : ∀ {text exclude}, Query.parse text = .ok [⟨exclude, test⟩] →
        apply scope [⟨exclude, test⟩] entries = .ok (entries.filter (passes scope ⟨exclude, test⟩)) := by
      intro text exclude hparse
      rw [apply_singleton]
      exact keep_of_defined (Query.isFinal_of_parse hparse _ List.mem_cons_self) (fun hnear => hne (hkind.mp hnear))
        htext hdefined
    have hrest : entries.filter (passes scope ⟨true, test⟩) =
        entries.filter fun e => !passes scope ⟨false, test⟩ e :=
      List.filter_congr fun e he => passes_excluded (hplaced e he) (htext e he) (hdefined e he)
    refine ⟨_, _, fun found => finds_iff_of_parse hplain (hfilter hplain),
      fun found => finds_iff_of_parse hmarked (hfilter hmarked), ?_⟩
    rw [hrest]
    exact splits_filter _ entries
  · intro heq found
    obtain ⟨numeral, target, rfl⟩ := hkind.mpr heq
    have hsame : apply scope [⟨true, .address .near numeral target⟩] entries =
        apply scope [⟨false, .address .near numeral target⟩] entries := rfl
    simp only [Finds, hplain, hmarked, Except.ok.injEq, exists_eq_left', hsame]

/-- A node, whose structs lead to an enum with a ball, and a byte. -/
def nodeAndByte : List Entry := [Scope.ringEntry 0, byteAt "timer" 8]

theorem splits_of_single_ball :
    Finds Scope.ring "ball" nodeAndByte [Scope.ringEntry 0] ∧ Finds Scope.ring "-ball" nodeAndByte [byteAt "timer" 8] ∧
      Splits nodeAndByte [Scope.ringEntry 0] [byteAt "timer" 8] := by
  have hsingle : Query.Single .term "ball" :=
    @Query.Single.term 'b' ['a', 'l', 'l'] (by decide) (by decide) (by decide) (by decide) fun h => absurd h (by decide)
  have hplaced : ∀ e ∈ nodeAndByte, e.sortValue.isSome := by decide +kernel
  have hown : ∀ e ∈ nodeAndByte, e.desc.descText?.isSome := by decide +kernel
  have hadmits : ∀ e ∈ nodeAndByte, Scope.ring.Admits e := by
    refine List.forall_mem_cons.mpr ⟨Scope.ring_admits 0, List.forall_mem_singleton.mpr ⟨?_, ?_⟩⟩
    · intro v hv
      cases hv
      rfl
    · intro name hname
      cases hname
  obtain ⟨kept, rest, hkept, hrest, hsplits⟩ := (splits_of_single hsingle hplaced
    (fun e he d => Scope.ring_legible.text_of_reaches (hown e he))
    fun e he name => Scope.ring_closed.has_of_reaches (hadmits e he)).1 (by decide)
  have hball : Finds Scope.ring "ball" nodeAndByte [Scope.ringEntry 0] := ⟨_, rfl, by decide +kernel⟩
  have hothers : Finds Scope.ring "-ball" nodeAndByte [byteAt "timer" 8] := ⟨_, rfl, by decide +kernel⟩
  obtain rfl := (hkept _).mp hball
  obtain rfl := (hrest _).mp hothers
  exact ⟨hball, hothers, hsplits⟩

/-- A search near an address and the same search excluded both find all three entries. -/
theorem not_forall_splits :
    ¬ ∀ (scope : Scope) (entries : List Entry) (kind : Query.ItemKind) (i : String), Query.Single kind i →
      Ascending entries → (∀ e ∈ entries, e.sortValue.isSome) → scope.Closed → scope.Legible →
        (∀ e ∈ entries, scope.Admits e) → (∀ e ∈ entries, e.desc.descText?.isSome) →
          ∀ kept rest, Finds scope i entries kept → Finds scope ("-" ++ i) entries rest → Splits entries kept rest := by
  intro hall
  have hsingle : Query.Single (.address .near) ("~" ++ "9") := .address (by decide) (by decide +kernel)
  have hasc : Ascending ringEntries := by
    unfold Ascending
    decide +kernel
  have hadmits : ∀ e ∈ ringEntries, Scope.ring.Admits e := by
    simp [ringEntries, Scope.ring_admits]
  have hsplits := hall Scope.ring ringEntries _ _ hsingle hasc (by decide +kernel) Scope.ring_closed Scope.ring_legible
    hadmits (by decide +kernel) ringEntries ringEntries ⟨_, rfl, by decide +kernel⟩ ⟨_, rfl, by decide +kernel⟩
  exact absurd hsplits.length_eq (by decide)

end Search

end MemoryAtlas
