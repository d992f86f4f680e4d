import MemoryAtlas.Proofs.Search.Conjunction

/-!
Searches that may look further. All that a search reaches it reaches with wider options too, so an entry that is kept
for a text is kept again, and an entry that a text excludes is excluded again.
-/

namespace MemoryAtlas

/-- Whatever the search may look into, it may look into with the wider options. -/
structure SearchOptions.Within (options wide : SearchOptions) : Prop where
  structs : options.structs = true → wide.structs = true
  enums : options.enums = true → wide.enums = true

namespace Query

/-- The test asks for a text, and has what it asks for. -/
def Test.IsText : Test → Prop
  | .term _ | .quote _ | .regex .. => True
  | .address .. | .unfinished _ => False

/-- A clause that keeps what matches a text, or one that compares addresses in either sense. -/
inductive Clause.Affirms : Clause → Prop
  | text {test : Test} (h : test.IsText) : Affirms ⟨false, test⟩
  | comparison {exclude : Bool} {c : Comparison} {numeral : String} {addr : Int} :
      Affirms ⟨exclude, .address (.compare c) numeral addr⟩

variable {test : Test} {clause : Clause}

theorem Test.IsText.isFinal (h : test.IsText) (exclude : Bool) : Clause.IsFinal ⟨exclude, test⟩ := by
  rintro gap rfl
  exact h

theorem Test.IsText.not_isNear (h : test.IsText) (exclude : Bool) : ¬ Clause.IsNear ⟨exclude, test⟩ := by
  rintro ⟨numeral, target, rfl⟩
  exact h

theorem Clause.Affirms.isFinal (h : clause.Affirms) : clause.IsFinal := by
  cases h with
  | text htext => exact htext.isFinal false
  | comparison => exact fun gap hgap => by cases hgap

theorem Clause.Affirms.not_isNear (h : clause.Affirms) : ¬ clause.IsNear := by
  cases h with
  | text htext => exact htext.not_isNear false
  | comparison =>
    rintro ⟨numeral, target, h⟩
    cases h

end Query

namespace Scope

variable {scope : Scope} {wide : SearchOptions} {e : Entry} {t : Query.Test} {name : Scalar} {d : Document}

/-- The same definitions, searched with other options. -/
def withOptions (scope : Scope) (options : SearchOptions) : Scope := { scope with options }

/-! What is reached -/

section

variable (hwide : scope.options.Within wide)
include hwide

theorem ReachesStruct.widen (h : scope.ReachesStruct e name) : (scope.withOptions wide).ReachesStruct e name := by
  induction h with
  | own hopt hname => exact .own (hwide.structs hopt) hname
  | field _ hs hf hname ih => exact .field ih hs hf hname

theorem ReachesEnum.widen (h : scope.ReachesEnum e name) : (scope.withOptions wide).ReachesEnum e name := by
  cases h with
  | own hopt hname => exact .own (hwide.enums hopt) hname
  | field hopt ho hs hf hname => exact .field (hwide.enums hopt) (ho.widen hwide) hs hf hname

theorem ReachesDesc.widen (h : scope.ReachesDesc e d) : (scope.withOptions wide).ReachesDesc e d := by
  cases h with
  | own => exact .own
  | field ho hs hf => exact .field (ho.widen hwide) hs hf
  | value hn hd hv => exact .value (hn.widen hwide) hd hv

/-- The description that has matched is reached again, whatever the wider search comes across first. -/
theorem hits_widen {answer : Bool} (h : scope.hits t e = .ok true)
    (hagain : (scope.withOptions wide).hits t e = .ok answer) : answer = true := by
  cases answer with
  | true => rfl
  | false =>
    obtain ⟨d, hd, hmatches⟩ := exists_matches_of_hits h
    have hspec := hits_spec (scope.withOptions wide) t e
    rw [hagain] at hspec
    have hmiss := hspec.1 d (hd.widen hwide)
    rw [hit_eq_true_iff.mpr hmatches] at hmiss
    cases hmiss

end

end Scope

namespace Search

variable {scope : Scope} {wide : SearchOptions} {clause : Query.Clause} {clauses : List Query.Clause}
  {test : Query.Test} {entries others kept more : List Entry} {e : Entry}

/-! One clause -/

theorem asks_text (h : test.IsText) (exclude : Bool) :
    asks scope ⟨exclude, test⟩ e = (· != exclude) <$> scope.hits test e := by
  cases test with
  | term text | quote text | regex text pattern =>
    simp only [asks]
    cases scope.hits _ e <;> rfl
  | address op numeral addr => exact absurd h id
  | unfinished gap => exact absurd h id

section

variable (hwide : scope.options.Within wide)
include hwide

theorem asks_widen {answer : Bool} (hclause : clause.Affirms) (h : asks scope clause e = .ok true)
    (hagain : asks (scope.withOptions wide) clause e = .ok answer) : answer = true := by
  cases hclause with
  | text htext =>
    rw [asks_text htext] at h hagain
    obtain ⟨found, hfound, hyes⟩ := Fallible.map_eq_ok.mp h
    obtain ⟨again, hfoundAgain, rfl⟩ := Fallible.map_eq_ok.mp hagain
    rw [Bool.bne_false] at hyes ⊢
    subst hyes
    exact Scope.hits_widen hwide hfound hfoundAgain
  | comparison =>
    have hsame := h.symm.trans hagain
    exact (Except.ok.inj hsame).symm

/-- What an excluded text lets through with wider options has no match with the narrower ones either. -/
theorem asks_narrow {answer : Bool} (htext : test.IsText)
    (h : asks (scope.withOptions wide) ⟨true, test⟩ e = .ok true) (hagain : asks scope ⟨true, test⟩ e = .ok answer) :
    answer = true := by
  rw [asks_text htext] at h hagain
  obtain ⟨found, hfound, hno⟩ := Fallible.map_eq_ok.mp h
  obtain ⟨again, hfoundAgain, rfl⟩ := Fallible.map_eq_ok.mp hagain
  cases again with
  | false => rfl
  | true =>
    rw [Scope.hits_widen hwide hfoundAgain hfound] at hno
    cases hno

theorem keep_widen (hclause : clause.Affirms) (hs : entries.Sublist others) (h : keep scope clause entries = .ok kept)
    (hmore : keep (scope.withOptions wide) clause others = .ok more) : kept.Sublist more := by
  rw [keep_eq_filterM hclause.isFinal hclause.not_isNear] at h hmore
  exact Traversal.sublist_of_filterM_of_filterM hs h hmore fun e _ _ => asks_widen hwide hclause

/-! Series of clauses -/

/-- Each clause is asked about at least as many entries with the wider options as without them. -/
theorem apply_widen (hclauses : ∀ c ∈ clauses, c.Affirms) (hs : entries.Sublist others)
    (h : apply scope clauses entries = .ok kept) (hmore : apply (scope.withOptions wide) clauses others = .ok more) :
    kept.Sublist more := by
  induction clauses generalizing entries others with
  | nil =>
    cases h
    cases hmore
    exact hs
  | cons clause clauses ih =>
    obtain ⟨hfirst, hrest⟩ := List.forall_mem_cons.mp hclauses
    obtain ⟨between, hk, h⟩ := keep_of_apply_cons h
    obtain ⟨beyond, hb, hmore⟩ := keep_of_apply_cons hmore
    exact ih hrest (keep_widen hwide hfirst hs hk hb) h hmore

theorem apply_narrow (htext : test.IsText) (h : apply scope [⟨true, test⟩] entries = .ok kept)
    (hmore : apply (scope.withOptions wide) [⟨true, test⟩] entries = .ok more) : more.Sublist kept := by
  rw [apply_singleton, keep_eq_filterM (htext.isFinal true) (htext.not_isNear true)] at h hmore
  exact Traversal.sublist_of_filterM_of_filterM (.refl entries) hmore h fun e _ _ => asks_narrow hwide htext

/-- What is in reach with the wider options decides for both searches. -/
theorem exists_apply_both (hfinal : ∀ c ∈ clauses, c.IsFinal) (hnear : ∀ c ∈ clauses, ¬ c.IsNear)
    (htext : ∀ e ∈ entries, ∀ d, (scope.withOptions wide).ReachesDesc e d → d.descText?.isSome)
    (hdefined : ∀ e ∈ entries, ∀ name, (scope.withOptions wide).ReachesStruct e name → scope.structs.has name = true) :
    ∃ kept more, apply scope clauses entries = .ok kept ∧ apply (scope.withOptions wide) clauses entries = .ok more :=
  ⟨_, _, apply_of_defined hfinal hnear (fun e he d hd => htext e he d (hd.widen hwide))
    fun e he name hname => hdefined e he name (hname.widen hwide), apply_of_defined hfinal hnear htext hdefined⟩

end

/-- Wider options keep all that narrower ones keep, in the same order, if the clauses ask for texts and compare
addresses; with a text that is excluded it is the other way round. If the descriptions in reach of the wider search are
texts and the structs are defined, both searches have results. -/
theorem apply_with_wider_options (hwide : scope.options.Within wide) (entries : List Entry) :
    (∀ clauses, (∀ c ∈ clauses, Query.Clause.Affirms c) → ∀ kept more, apply scope clauses entries = .ok kept →
      apply (scope.withOptions wide) clauses entries = .ok more → kept.Sublist more) ∧
    (∀ test, Query.Test.IsText test → ∀ kept fewer, apply scope [⟨true, test⟩] entries = .ok kept →
      apply (scope.withOptions wide) [⟨true, test⟩] entries = .ok fewer → fewer.Sublist kept) ∧
    ((∀ e ∈ entries, ∀ d, (scope.withOptions wide).ReachesDesc e d → d.descText?.isSome) →
      (∀ e ∈ entries, ∀ name, (scope.withOptions wide).ReachesStruct e name → scope.structs.has name = true) →
      (∀ clauses, (∀ c ∈ clauses, Query.Clause.Affirms c) → ∃ kept more, apply scope clauses entries = .ok kept ∧
        apply (scope.withOptions wide) clauses entries = .ok more) ∧
      ∀ test, Query.Test.IsText test → ∃ kept fewer, apply scope [⟨true, test⟩] entries = .ok kept ∧
        apply (scope.withOptions wide) [⟨true, test⟩] entries = .ok fewer) := by
  refine ⟨fun clauses hclauses kept more h hmore => ?_, fun test htest kept fewer h hfewer => ?_,
    fun htext hdefined => ⟨fun clauses hclauses => ?_, fun test htest => ?_⟩⟩
  · exact apply_widen hwide hclauses (.refl entries) h hmore
  · exact apply_narrow hwide htest h hfewer
  · exact exists_apply_both hwide (fun c hc => (hclauses c hc).isFinal) (fun c hc => (hclauses c hc).not_isNear) htext
      hdefined
  · have hfinal : ∀ c ∈ [⟨true, test⟩], Query.Clause.IsFinal c := List.forall_mem_singleton.mpr (htest.isFinal true)
    have hnear : ∀ c ∈ [⟨true, test⟩], ¬ Query.Clause.IsNear c := List.forall_mem_singleton.mpr (htest.not_isNear true)
    exact exists_apply_both hwide hfinal hnear htext hdefined

def ballByte : Entry :=
  .data {
    label := .text "", desc := .text "Morph ball", notes := .null, type := ⟨.prim .u8, none⟩, count := none,
    category := none, enum := .null, addr := 16 }

/-- A node, whose structs lead to an enum with a ball, and a byte that is described as one. -/
def nodeAndBall : List Entry := [Scope.ringEntry 8, ballByte]

/-- The ring, searched without its enums. -/
def structsOnly : Scope := Scope.ring.withOptions ⟨true, false⟩

/-- The node is found by its enum only. -/
theorem apply_with_wider_options_ring :
    (∃ kept more, apply structsOnly [ballClause, belowClause] nodeAndBall = .ok kept ∧
      apply Scope.ring [ballClause, belowClause] nodeAndBall = .ok more ∧ kept.Sublist more ∧
      kept = [ballByte] ∧ more = nodeAndBall) ∧
    ∃ kept fewer, apply structsOnly [⟨true, .term "ball"⟩] nodeAndBall = .ok kept ∧
      apply Scope.ring [⟨true, .term "ball"⟩] nodeAndBall = .ok fewer ∧ fewer.Sublist kept ∧
      kept = [Scope.ringEntry 8] ∧ fewer = [] := by
  have hwide : structsOnly.options.Within ⟨true, true⟩ := ⟨fun _ => rfl, fun _ => rfl⟩
  have haffirms : ∀ c ∈ [ballClause, belowClause], Query.Clause.Affirms c :=
    List.forall_mem_cons.mpr ⟨.text trivial, List.forall_mem_singleton.mpr .comparison⟩
  have hadmits : ∀ e ∈ nodeAndBall, Scope.ring.Admits e := by
    refine List.forall_mem_cons.mpr ⟨Scope.ring_admits 8, List.forall_mem_singleton.mpr ⟨?_, ?_⟩⟩
    · intro v hv
      cases hv
      rfl
    · intro name hname
      cases hname
  have hown : ∀ e ∈ nodeAndBall, e.desc.descText?.isSome := by decide +kernel
  obtain ⟨hwiden, hnarrow, hboth⟩ := apply_with_wider_options hwide nodeAndBall
  obtain ⟨haffirmed, hexcluded⟩ := hboth (fun e he d => Scope.ring_legible.text_of_reaches (hown e he))
    fun e he name => Scope.ring_closed.has_of_reaches (hadmits e he)
  constructor
  · obtain ⟨kept, more, hkept, hmore⟩ := haffirmed _ haffirms
    refine ⟨kept, more, hkept, hmore, hwiden _ haffirms kept more hkept hmore, ?_, ?_⟩
    · have hvalue : apply structsOnly [ballClause, belowClause] nodeAndBall = .ok [ballByte] := by decide +kernel
      exact Except.ok.inj (hkept.symm.trans hvalue)
    · have hvalue : apply Scope.ring [ballClause, belowClause] nodeAndBall = .ok nodeAndBall := by decide +kernel
      exact Except.ok.inj (hmore.symm.trans hvalue)
  · obtain ⟨kept, fewer, hkept, hfewer⟩ := hexcluded (.term "ball") trivial
    refine ⟨kept, fewer, hkept, hfewer, hnarrow (.term "ball") trivial kept fewer hkept hfewer, ?_, ?_⟩
    · have hvalue : apply structsOnly [⟨true, .term "ball"⟩] nodeAndBall = .ok [Scope.ringEntry 8] := by
        decide +kernel
      exact Except.ok.inj (hkept.symm.trans hvalue)
    · have hvalue : apply Scope.ring [⟨true, .term "ball"⟩] nodeAndBall = .ok [] := by decide +kernel
      exact Except.ok.inj (hfewer.symm.trans hvalue)

end Search

end MemoryAtlas
