import MemoryAtlas.Proofs.Search.Exclusion
import MemoryAtlas.Proofs.Text.Context

/-!
Queries taken from the description of an entry. A word of the description finds the entry again. So does a phrase,
unless a capital sigma at one of its ends has lost its neighbour: the phrase is put in lower case alone and the
description as a whole, and only one of the two may end a word there.
-/

namespace MemoryAtlas

namespace Query

/-! What the texts of a description are as queries -/

theorem parse_word {word : String} (hne : word.toList ≠ []) (hrun : ∀ c ∈ word.toList, (!Text.isBlank c) = true)
    (hfirst : ∀ c ∈ word.toList.head?, c ∉ ['-', '"', '/', '=', '<', '>', '~']) :
    parse word = .ok [⟨false, .term (lowered word.toList)⟩] := by
  obtain ⟨c, rest, hcons⟩ := List.exists_cons_of_ne_nil hne
  have hspace : ' ' ∉ c :: rest := fun hmem => absurd (hrun ' ' (hcons ▸ hmem)) (by decide)
  have hc : c ∉ ['-', '"', '/', '=', '<', '>', '~'] := hfirst c (by rw [hcons]; rfl)
  simp only [List.mem_cons, List.not_mem_nil, or_false, not_or] at hc
  obtain ⟨hdash, hquote, hslash, hmarks⟩ := hc
  have hmark : c ∈ operatorMarks → rest = [] := by
    rw [mem_operatorMarks]
    rintro (h | h | h | h) <;> simp [h] at hmarks
  have hparse := (parse_term hspace hdash hquote hslash hmark).1
  rwa [← hcons, String.ofList_toList] at hparse

/-- The words of the description in lower case are its words, each in lower case. -/
theorem holds_term_of_isRun {desc : String} {word : List Char} (h : Text.IsRun (fun c => !Text.isBlank c) word desc.toList) :
    (Test.term (lowered word)).holds desc = true := by
  have hmem : word ∈ Text.words desc.toList := (Text.mem_runs_iff _ _ _).mpr h
  simp only [Test.holds, lowered, String.toList_ofList, Text.words_lower, List.contains_iff_mem]
  exact List.mem_map_of_mem hmem

theorem holds_quote_iff {desc : String} {phrase : List Char} :
    (Test.quote (lowered phrase)).holds desc = true ↔ Text.lower phrase <:+: Text.lower desc.toList := by
  simp only [Test.holds, lowered, String.toList_ofList, Text.occurs_iff]

end Query

/-- Nothing is defined, and no search goes beyond the entries. -/
def Scope.plain : Scope := ⟨.empty, .empty, ⟨false, false⟩⟩

theorem Scope.hits_plain (test : Query.Test) (e : Entry) : plain.hits test e = hit test e.desc := by
  have hvisit : visit plain.structs (hit test) plain.structs.entries [] (plain.structSeeds e) = .ok (some []) := by
    have hseeds : plain.structSeeds e = [] := rfl
    rw [hseeds, visit]
  rw [hits, hvisit]
  cases hit test e.desc with
  | error fault => rfl
  | ok answer => cases answer <;> rfl

namespace Search

variable {scope : Scope} {entries kept : List Entry} {e : Entry} {test : Query.Test} {query desc : String}

/-- The query leaves the entry, alone or among others, whatever is defined and however far the search goes. -/
structure Retains (query : String) (e : Entry) : Prop where
  alone : ∀ scope, Finds scope query [e] [e]
  among : ∀ scope entries kept, e ∈ entries → Finds scope query entries kept → e ∈ kept

/-- Tests for addresses hold of no description. -/
theorem not_isNear_of_holds (h : test.holds desc = true) : ¬ Query.Clause.IsNear ⟨false, test⟩ := by
  rintro ⟨numeral, target, rfl⟩
  cases h

/-- The description of the entry itself is asked first, so what is in the tables makes no difference. -/
theorem asks_of_holds (hd : e.desc.descText? = some desc) (h : test.holds desc = true) (scope : Scope) :
    asks scope ⟨false, test⟩ e = .ok true := by
  have hhits : scope.hits test e = .ok true := by
    have hhit : Scope.hit test e.desc = .ok true := by simp only [Scope.hit, hd, h]
    rw [Scope.hits, hhit]
    rfl
  have hasks : asks scope ⟨false, test⟩ e = (do return (← scope.hits test e) != false) := by
    cases test with
    | term text | quote text | regex text pattern => rfl
    | address op numeral addr | unfinished gap => cases h
  rw [hasks, hhits]
  rfl

theorem retains_of_holds (hparse : Query.parse query = .ok [⟨false, test⟩]) (hd : e.desc.descText? = some desc)
    (h : test.holds desc = true) : Retains query e := by
  have hfinal : Query.Clause.IsFinal ⟨false, test⟩ := Query.isFinal_of_parse hparse _ List.mem_cons_self
  have hnear := not_isNear_of_holds h
  constructor
  · intro scope
    refine ⟨_, hparse, ?_⟩
    rw [apply_singleton, keep_eq_filterM hfinal hnear]
    exact Traversal.filterM_eq_filter (p := fun _ => true) (List.forall_mem_singleton.mpr (asks_of_holds hd h scope))
  · rintro scope entries kept he ⟨clauses, hclauses, happly⟩
    obtain rfl := Except.ok.inj (hparse.symm.trans hclauses)
    rw [apply_singleton] at happly
    rw [keep_eq_filter hfinal hnear happly]
    refine List.mem_filter.mpr ⟨he, ?_⟩
    rw [passes, asks_of_holds hd h]
    rfl

/-! Words -/

/-- A word of the description of an entry that begins with no mark of the language is one term, and the query leaves
the entry. -/
theorem retains_word {word : String} (hd : e.desc.descText? = some desc)
    (hword : Text.IsRun (fun c => !Text.isBlank c) word.toList desc.toList)
    (hfirst : ∀ c ∈ word.toList.head?, c ∉ ['-', '"', '/', '=', '<', '>', '~']) :
    Query.parse word = .ok [⟨false, .term (Query.lowered word.toList)⟩] ∧ Retains word e := by
  obtain ⟨-, -, -, hne, hrun, -⟩ := id hword
  have hparse := Query.parse_word hne hrun hfirst
  exact ⟨hparse, retains_of_holds hparse hd (Query.holds_term_of_isRun hword)⟩

/-- A byte that has nothing but a description. -/
def describedAs (desc : String) : Entry :=
  .data {
    label := .null, desc := .text desc, notes := .null, type := ⟨.prim .u8, none⟩, count := none,
    category := none, enum := .null, addr := 16 }

/-- The last letter of the word takes the form for the end of a word in both texts. -/
theorem retains_word_sigma :
    Query.parse "ΟΔΟΣ" = .ok [⟨false, .term "οδος"⟩] ∧ Retains "ΟΔΟΣ" (describedAs "ΟΔΟΣ (1)") := by
  have hword : Text.IsRun (fun c => !Text.isBlank c) "ΟΔΟΣ".toList "ΟΔΟΣ (1)".toList :=
    (Text.mem_runs_iff _ _ _).mp (by decide +kernel)
  obtain ⟨hparse, hretains⟩ := retains_word (e := describedAs "ΟΔΟΣ (1)") rfl hword (by simp)
  have hlowered : Query.lowered "ΟΔΟΣ".toList = "οδος" := by decide +kernel
  exact ⟨hlowered ▸ hparse, hretains⟩

/-! Phrases -/

theorem asks_plain_quote (text : String) (e : Entry) :
    asks Scope.plain ⟨false, .quote text⟩ e = Scope.hit (.quote text) e.desc := by
  have hasks : asks Scope.plain ⟨false, .quote text⟩ e = (do return (← Scope.plain.hits (.quote text) e) != false) := rfl
  rw [hasks, Scope.hits_plain]
  cases Scope.hit (.quote text) e.desc with
  | error fault => rfl
  | ok answer => cases answer <;> rfl

theorem holds_of_retains {text : String} (hparse : Query.parse query = .ok [⟨false, .quote text⟩])
    (hd : e.desc.descText? = some desc) (h : Retains query e) : (Query.Test.quote text).holds desc = true := by
  obtain ⟨clauses, hclauses, happly⟩ := h.alone Scope.plain
  obtain rfl := Except.ok.inj (hparse.symm.trans hclauses)
  rw [apply_singleton] at happly
  have hkept := keep_eq_filter (Query.isFinal_of_parse hparse _ List.mem_cons_self) (by rintro ⟨_, _, h⟩; cases h) happly
  have hpasses : passes Scope.plain ⟨false, .quote text⟩ e = true :=
    (List.mem_filter.mp (hkept ▸ List.mem_singleton_self e)).2
  rw [passes, asks_plain_quote, Scope.hit, hd] at hpasses
  exact hpasses

theorem retains_quote_iff {phrase : String} (hmark : '"' ∉ phrase.toList) (hd : e.desc.descText? = some desc) :
    Retains ("\"" ++ phrase ++ "\"") e ↔ Text.lower phrase.toList <:+: Text.lower desc.toList := by
  have hparse := (Query.parse_quote hmark).1
  rw [← Query.holds_quote_iff]
  exact ⟨holds_of_retains hparse hd, retains_of_holds hparse hd⟩

/-- A piece of the description of an entry is one quote if it has no quotation mark. The query leaves the entry if and
only if the piece in lower case is a piece of the description in lower case, and so it is if no capital sigma in it is
at the end of a word in one of the two texts and not in the other. -/
theorem retains_phrase {phrase : String} {x y : List Char} (hd : e.desc.descText? = some desc)
    (hcut : desc.toList = x ++ phrase.toList ++ y) (hmark : '"' ∉ phrase.toList) :
    Query.parse ("\"" ++ phrase ++ "\"") = .ok [⟨false, .quote (Query.lowered phrase.toList)⟩] ∧
      (Retains ("\"" ++ phrase ++ "\"") e ↔ Text.lower phrase.toList <:+: Text.lower desc.toList) ∧
      ((∀ a b, phrase.toList = a ++ 'Σ' :: b →
          Text.Case.endsWord (a.reverse ++ x.reverse) (b ++ y) = Text.Case.endsWord a.reverse b) →
        Retains ("\"" ++ phrase ++ "\"") e) := by
  have hiff := retains_quote_iff hmark hd
  refine ⟨(Query.parse_quote hmark).1, hiff, fun hsigma => hiff.mpr ?_⟩
  have hsame : Text.lowerWithin x.reverse y phrase.toList = Text.lower phrase.toList := by
    rw [Text.lower, ← Text.lowerWithin_nil]
    refine Text.lowerWithin_congr fun a b hsplit => ?_
    rw [List.append_nil, List.append_nil]
    exact hsigma a b hsplit
  rw [← hsame, hcut]
  exact Text.lowerWithin_isInfix x phrase.toList y

/-- The sigma keeps its neighbours, while the last letter has lost one. -/
theorem retains_phrase_sigma :
    Query.parse "\"ΑΣ Α\"" = .ok [⟨false, .quote "ας α"⟩] ∧ Retains "\"ΑΣ Α\"" (describedAs "ΑΣΑΣ ΑΒ") := by
  have hcut : "ΑΣΑΣ ΑΒ".toList = ['Α', 'Σ'] ++ "ΑΣ Α".toList ++ ['Β'] := by decide
  obtain ⟨hparse, -, hretains⟩ := retains_phrase (e := describedAs "ΑΣΑΣ ΑΒ") rfl hcut (by decide)
  have hlowered : Query.lowered "ΑΣ Α".toList = "ας α" := by decide +kernel
  refine ⟨hlowered ▸ hparse, hretains fun a b hsplit => ?_⟩
  have hone : a = ['Α'] ∧ b = [' ', 'Α'] := by simpa [List.cons_eq_append_iff] using hsplit
  rw [hone.1, hone.2]
  decide +kernel

/-- At the end of the phrase, but not of the word, sigma takes another form than it has in the description. -/
theorem not_forall_retains_phrase :
    ¬ ∀ (e : Entry) (desc phrase : String), e.desc.descText? = some desc → phrase.toList <:+: desc.toList →
      '"' ∉ phrase.toList → Retains ("\"" ++ phrase ++ "\"") e := by
  intro hall
  have hmark : '"' ∉ "ΑΣ".toList := by decide
  have hretains := hall (describedAs "ΑΣΑ") "ΑΣΑ" "ΑΣ" rfl ⟨[], ['Α'], rfl⟩ hmark
  exact absurd ((retains_quote_iff hmark rfl).mp hretains) (by decide +kernel)

end Search

end MemoryAtlas
