import MemoryAtlas.Proofs.Search.Narrowing

/-!
Clauses that ask every entry for itself. Together they keep what each of them keeps alone, so it makes no difference
in which order they come or whether one comes twice. Only where a struct is not defined can the order decide whether
there is a result at all, as a clause is not asked about entries that are gone.
-/

namespace MemoryAtlas.Search

variable {scope : Scope} {clause : Query.Clause} {clauses others : List Query.Clause}
  {entries kept : List Entry} {e : Entry}

/-- The answer of a clause for an entry; no answer is no. -/
def passes (scope : Scope) (clause : Query.Clause) (e : Entry) : Bool :=
  (asks scope clause e).toOption.getD false

theorem asks_eq_passes (htext : ∀ d, scope.ReachesDesc e d → d.descText?.isSome)
    (hdefined : ∀ name, scope.ReachesStruct e name → scope.structs.has name = true) :
    asks scope clause e = .ok (passes scope clause e) := by
  obtain ⟨answer, hanswer⟩ : ∃ answer, asks scope clause e = .ok answer := exists_asks htext hdefined
  rw [passes, hanswer]
  rfl

/-- Nothing else can go wrong with a clause than that the search for it reaches a struct that is not defined. -/
theorem undefined_of_asks {fault : Scope.Fault} (htext : ∀ d, scope.ReachesDesc e d → d.descText?.isSome)
    (h : asks scope clause e = .error fault) :
    ∃ name, fault = .struct ⟨name⟩ ∧ scope.ReachesStruct e name ∧ scope.structs.has name = false := by
  unfold asks at h
  split at h
  · cases h
  · rcases Fallible.bind_eq_error.mp h with h | ⟨answer, -, h⟩
    · exact Scope.undefined_of_hits htext h
    · cases h

/-! One clause -/

theorem keep_eq_filter (hfinal : clause.IsFinal) (hnear : ¬ clause.IsNear)
    (h : keep scope clause entries = .ok kept) : kept = entries.filter (passes scope clause) := by
  rw [keep_eq_filterM hfinal hnear] at h
  obtain ⟨p, hp, rfl⟩ := Traversal.eq_filter_of_filterM h
  apply List.filter_congr
  intro e he
  rw [passes, hp e he]
  rfl

theorem keep_of_defined (hfinal : clause.IsFinal) (hnear : ¬ clause.IsNear)
    (htext : ∀ e ∈ entries, ∀ d, scope.ReachesDesc e d → d.descText?.isSome)
    (hdefined : ∀ e ∈ entries, ∀ name, scope.ReachesStruct e name → scope.structs.has name = true) :
    keep scope clause entries = .ok (entries.filter (passes scope clause)) := by
  rw [keep_eq_filterM hfinal hnear]
  exact Traversal.filterM_eq_filter fun e he => asks_eq_passes (htext e he) (hdefined e he)

theorem apply_singleton (scope : Scope) (clause : Query.Clause) (entries : List Entry) :
    apply scope [clause] entries = keep scope clause entries := by
  rw [apply_cons]
  exact bind_pure _

/-! Series of clauses -/

theorem filter_passes_cons (scope : Scope) (clause : Query.Clause) (clauses : List Query.Clause)
    (entries : List Entry) :
    (entries.filter fun e => (clause :: clauses).all fun c => passes scope c e) =
      (entries.filter (passes scope clause)).filter fun e => clauses.all fun c => passes scope c e := by
  rw [List.filter_filter]
  apply List.filter_congr
  intro e _
  rw [List.all_cons, Bool.and_comm]

theorem apply_eq_filter (hfinal : ∀ c ∈ clauses, c.IsFinal) (hnear : ∀ c ∈ clauses, ¬ c.IsNear)
    (h : apply scope clauses entries = .ok kept) :
    kept = entries.filter fun e => clauses.all fun c => passes scope c e := by
  induction clauses generalizing entries with
  | nil =>
    cases h
    exact (List.filter_eq_self.mpr fun e _ => rfl).symm
  | cons clause clauses ih =>
    obtain ⟨hfirst, hothers⟩ := List.forall_mem_cons.mp hfinal
    obtain ⟨hfirst', hothers'⟩ := List.forall_mem_cons.mp hnear
    obtain ⟨between, hk, hrest⟩ := keep_of_apply_cons h
    rw [filter_passes_cons, ← keep_eq_filter hfirst hfirst' hk]
    exact ih hothers hothers' hrest

theorem apply_of_defined (hfinal : ∀ c ∈ clauses, c.IsFinal) (hnear : ∀ c ∈ clauses, ¬ c.IsNear)
    (htext : ∀ e ∈ entries, ∀ d, scope.ReachesDesc e d → d.descText?.isSome)
    (hdefined : ∀ e ∈ entries, ∀ name, scope.ReachesStruct e name → scope.structs.has name = true) :
    apply scope clauses entries = .ok (entries.filter fun e => clauses.all fun c => passes scope c e) := by
  induction clauses generalizing entries with
  | nil => exact congrArg Except.ok (List.filter_eq_self.mpr fun e _ => rfl).symm
  | cons clause clauses ih =>
    obtain ⟨hfirst, hothers⟩ := List.forall_mem_cons.mp hfinal
    obtain ⟨hfirst', hothers'⟩ := List.forall_mem_cons.mp hnear
    have hmem : ∀ e ∈ entries.filter (passes scope clause), e ∈ entries := fun e he => (List.mem_filter.mp he).1
    rw [apply_cons, keep_of_defined hfirst hfirst' htext hdefined, filter_passes_cons]
    exact ih hothers hothers' (fun e he => htext e (hmem e he)) fun e he => hdefined e (hmem e he)

/-- Only entries that are still there are asked about, and all of them were there at the start. -/
theorem exists_of_apply_eq_error {fault : Scope.Fault} (hfinal : ∀ c ∈ clauses, c.IsFinal)
    (hnear : ∀ c ∈ clauses, ¬ c.IsNear) (h : apply scope clauses entries = .error fault) :
    ∃ c ∈ clauses, ∃ e ∈ entries, asks scope c e = .error fault := by
  induction clauses generalizing entries with
  | nil => cases h
  | cons clause clauses ih =>
    obtain ⟨hfirst, hothers⟩ := List.forall_mem_cons.mp hfinal
    obtain ⟨hfirst', hothers'⟩ := List.forall_mem_cons.mp hnear
    rw [apply_cons] at h
    rcases Fallible.bind_eq_error.mp h with h | ⟨between, hk, hrest⟩
    · rw [keep_eq_filterM hfirst hfirst'] at h
      exact ⟨clause, List.mem_cons_self, Traversal.exists_of_filterM_eq_error h⟩
    · obtain ⟨c, hc, e, he, hask⟩ := ih hothers hothers' hrest
      rw [keep_eq_filter hfirst hfirst' hk] at he
      exact ⟨c, List.mem_cons_of_mem clause hc, e, (List.mem_filter.mp he).1, hask⟩

/-- What all clauses pass depends on which ones there are, not on their order and number. -/
theorem all_passes_congr (h : ∀ c, c ∈ others ↔ c ∈ clauses) (e : Entry) :
    (others.all fun c => passes scope c e) = clauses.all fun c => passes scope c e := by
  rw [Bool.eq_iff_iff, List.all_eq_true, List.all_eq_true]
  simp only [h]

/-- Clauses that look near no address keep the entries that each of them keeps alone, and any list of the same clauses
keeps the same entries, if all structs in reach are defined. Wherever two such lists both have a result, it is one
result, and where there is none a struct in reach of an entry is not defined. -/
theorem apply_eq_filter_alone (hfinal : ∀ c ∈ clauses, c.IsFinal) (hnear : ∀ c ∈ clauses, ¬ c.IsNear)
    (htext : ∀ e ∈ entries, ∀ d, scope.ReachesDesc e d → d.descText?.isSome) :
    ((∀ e ∈ entries, ∀ name, scope.ReachesStruct e name → scope.structs.has name = true) →
      ∃ alone : Query.Clause → List Entry, (∀ c ∈ clauses, apply scope [c] entries = .ok (alone c)) ∧
        ∀ others : List Query.Clause, (∀ c, c ∈ others ↔ c ∈ clauses) →
          apply scope others entries = .ok (entries.filter fun e => decide (∀ c ∈ clauses, e ∈ alone c))) ∧
    ∀ others : List Query.Clause, (∀ c, c ∈ others ↔ c ∈ clauses) →
      (∀ kept left, apply scope clauses entries = .ok kept → apply scope others entries = .ok left → left = kept) ∧
      ∀ fault, apply scope others entries = .error fault →
        ∃ name, fault = .struct ⟨name⟩ ∧ (∃ e ∈ entries, scope.ReachesStruct e name) ∧
          scope.structs.has name = false := by
  have hfinal' : ∀ others : List Query.Clause, (∀ c, c ∈ others ↔ c ∈ clauses) → ∀ c ∈ others, c.IsFinal :=
    fun others h c hc => hfinal c ((h c).mp hc)
  have hnear' : ∀ others : List Query.Clause, (∀ c, c ∈ others ↔ c ∈ clauses) → ∀ c ∈ others, ¬ c.IsNear :=
    fun others h c hc => hnear c ((h c).mp hc)
  constructor
  · intro hdefined
    refine ⟨fun c => entries.filter (passes scope c), fun c hc => ?_, fun others h => ?_⟩
    · rw [apply_singleton]
      exact keep_of_defined (hfinal c hc) (hnear c hc) htext hdefined
    · rw [apply_of_defined (hfinal' others h) (hnear' others h) htext hdefined]
      refine congrArg Except.ok (List.filter_congr fun e he => ?_)
      rw [all_passes_congr h, Bool.eq_iff_iff, List.all_eq_true, decide_eq_true_eq]
      simp only [List.mem_filter, he, true_and]
  · intro others h
    constructor
    · intro kept left hkept hleft
      rw [apply_eq_filter hfinal hnear hkept, apply_eq_filter (hfinal' others h) (hnear' others h) hleft]
      exact List.filter_congr fun e _ => all_passes_congr h e
    · intro fault hfault
      obtain ⟨c, -, e, he, hask⟩ := exists_of_apply_eq_error (hfinal' others h) (hnear' others h) hfault
      obtain ⟨name, hname, hreach, hundefined⟩ := undefined_of_asks (htext e he) hask
      exact ⟨name, hname, ⟨e, he, hreach⟩, hundefined⟩

def ballClause : Query.Clause := ⟨false, .term "ball"⟩

def belowClause : Query.Clause := ⟨true, .address (.compare .lt) "8" 8⟩

/-- The two clauses the other way round, with one of them said twice. -/
theorem apply_eq_filter_alone_ring :
    apply Scope.ring [belowClause, ballClause, belowClause] ringEntries =
      .ok [Scope.ringEntry 8, Scope.ringEntry 16] := by
  have hfinal : ∀ c ∈ [ballClause, belowClause], c.IsFinal := by
    simp [ballClause, belowClause, Query.Clause.IsFinal]
  have hnear : ∀ c ∈ [ballClause, belowClause], ¬ c.IsNear := by
    simp [ballClause, belowClause, Query.Clause.IsNear]
  have hadmits : ∀ e ∈ ringEntries, Scope.ring.Admits e := by
    simp [ringEntries, Scope.ring_admits]
  have hown : ∀ e ∈ ringEntries, e.desc.descText?.isSome := by decide +kernel
  have htext : ∀ e ∈ ringEntries, ∀ d, Scope.ring.ReachesDesc e d → d.descText?.isSome :=
    fun e he d => Scope.ring_legible.text_of_reaches (hown e he)
  have hsame : ∀ c, c ∈ [belowClause, ballClause, belowClause] ↔ c ∈ [ballClause, belowClause] := by
    intro c
    simp only [List.mem_cons, List.not_mem_nil, or_false]
    grind
  obtain ⟨hall, hothers⟩ := apply_eq_filter_alone hfinal hnear htext
  obtain ⟨alone, -, hresult⟩ := hall fun e he name => Scope.ring_closed.has_of_reaches (hadmits e he)
  have hinOrder : apply Scope.ring [ballClause, belowClause] ringEntries =
      .ok [Scope.ringEntry 8, Scope.ringEntry 16] := by
    decide +kernel
  rw [hresult _ hsame, (hothers _ hsame).1 _ _ hinOrder (hresult _ hsame)]

/-- A struct that is not defined is only looked for while there is an entry that leads to it. -/
example :
    apply ⟨.empty, .empty, ⟨true, false⟩⟩ [belowClause, ballClause] [Scope.ringEntry 0] = .ok [] ∧
      apply ⟨.empty, .empty, ⟨true, false⟩⟩ [ballClause, belowClause] [Scope.ringEntry 0] =
        .error (.struct ⟨.text "Node"⟩) := by
  decide +kernel

end MemoryAtlas.Search
