import MemoryAtlas.Proofs.Fallible
import MemoryAtlas.Proofs.Layout
import MemoryAtlas.Proofs.Search.Reach
import MemoryAtlas.Proofs.Search.Window

/-!
Clauses narrow a list of entries, and the same clauses leave the result as it is. A clause keeps all of
any list that is left of what it has kept before, which carries this over to series of clauses.
-/

namespace MemoryAtlas

/-- The clause looks near an address. -/
def Query.Clause.IsNear (c : Query.Clause) : Prop := ∃ numeral target, c.test = .address .near numeral target

namespace Search

variable {scope : Scope} {clause : Query.Clause} {clauses : List Query.Clause}
  {entries kept left : List Entry}

theorem exists_entryLength {e : Entry} (h : scope.Admits e) :
    ∃ length, entryLength scope.structs e = .ok length := by
  unfold entryLength
  split
  · exact ⟨_, rfl⟩
  · split
    · next v hv =>
      obtain ⟨length, hl⟩ := Layout.exists_totalLength (h.typed v hv)
      rw [hl]
      exact ⟨_, rfl⟩
    · exact ⟨_, rfl⟩

/-- What a clause asks of one entry, if it does not depend on the others. -/
def asks (scope : Scope) (clause : Query.Clause) (e : Entry) : Except Scope.Fault Bool :=
  match clause.test with
  | .address (.compare c) _ addr => .ok (compares c addr clause.exclude e)
  | test => do return (← scope.hits test e) != clause.exclude

/-- A clause that looks near no address asks every entry for itself. -/
theorem keep_eq_filterM (hfinal : clause.IsFinal) (hnear : ¬ clause.IsNear) (scope : Scope) (entries : List Entry) :
    keep scope clause entries = entries.filterM (asks scope clause) := by
  obtain ⟨exclude, test⟩ := clause
  cases test with
  | term text => rfl
  | quote text => rfl
  | regex text pattern => rfl
  | address op numeral addr =>
    cases op with
    | near => exact absurd ⟨numeral, addr, rfl⟩ hnear
    | compare c => exact (Traversal.filterM_eq_filter fun e _ => rfl).symm
  | unfinished gap => exact absurd rfl (hfinal gap)

/-- A clause looks near an address or asks the same of every entry. -/
theorem keep_cases (scope : Scope) (hfinal : clause.IsFinal) :
    (∃ target, ∀ entries, keep scope clause entries = (near scope.structs target entries).mapError .struct) ∨
      ∀ entries, keep scope clause entries = entries.filterM (asks scope clause) := by
  by_cases hnear : clause.IsNear
  · obtain ⟨exclude, test⟩ := clause
    obtain ⟨numeral, target, rfl⟩ := hnear
    exact .inl ⟨target, fun entries => rfl⟩
  · exact .inr (keep_eq_filterM hfinal hnear scope)

theorem keep_sublist (hfinal : clause.IsFinal) (hasc : Ascending entries)
    (h : keep scope clause entries = .ok kept) : kept.Sublist entries := by
  rcases keep_cases scope hfinal with ⟨target, hk⟩ | hk
  · rw [hk] at h
    exact near_sublist hasc (Fallible.mapError_eq_ok.mp h)
  · rw [hk] at h
    exact Traversal.sublist_of_filterM h

/-- A clause keeps all of any list that is left of what it has kept. -/
theorem keep_of_sublist (hfinal : clause.IsFinal) (hasc : Ascending entries)
    (hadmits : ∀ e ∈ entries, scope.Admits e) (h : keep scope clause entries = .ok kept)
    (hs : left.Sublist kept) : keep scope clause left = .ok left := by
  have hkept := keep_sublist hfinal hasc h
  rcases keep_cases scope hfinal with ⟨target, hk⟩ | hk
  · rw [hk] at h
    rw [hk, near_of_sublist hasc (Fallible.mapError_eq_ok.mp h) hs]
    · rfl
    · exact fun e he => exists_entryLength (hadmits e (hkept.mem he))
  · rw [hk] at h ⊢
    exact Traversal.filterM_of_sublist h hs

theorem exists_covers {e : Entry} (h : scope.Admits e) (target start : Int) :
    ∃ covered, covers scope.structs target e start = .ok covered := by
  obtain ⟨length, hl⟩ := exists_entryLength h
  unfold covers
  rw [hl]
  exact ⟨_, rfl⟩

theorem exists_near (hasc : Ascending entries) (hadmits : ∀ e ∈ entries, scope.Admits e) (target : Int) :
    ∃ kept, near scope.structs target entries = .ok kept := by
  rw [near_eq hasc]
  unfold window
  split
  · exact ⟨_, rfl⟩
  · next e start others hlast =>
    have hmem : (e, start) ∈ (valued entries).takeWhile fun e => e.2 ≤ target :=
      List.mem_reverse.mp (hlast ▸ List.mem_cons_self)
    have he := (sortValue_of_mem_valued ((List.takeWhile_sublist _).mem hmem)).1
    obtain ⟨covered, hcovers⟩ := exists_covers (hadmits e he) target start
    rw [hcovers]
    cases covered <;> exact ⟨_, rfl⟩

/-- A clause has an answer for an entry if all that a search can reach from there is defined and a text. -/
theorem exists_asks {e : Entry} (htext : ∀ d, scope.ReachesDesc e d → d.descText?.isSome)
    (hdefined : ∀ name, scope.ReachesStruct e name → scope.structs.has name = true) :
    ∃ answer, asks scope clause e = .ok answer := by
  unfold asks
  split
  · exact ⟨_, rfl⟩
  · obtain ⟨answer, hh⟩ := Scope.exists_hits (t := clause.test) htext hdefined
    rw [hh]
    exact ⟨_, rfl⟩

theorem exists_keep (hfinal : clause.IsFinal) (hasc : Ascending entries) (hc : scope.Closed)
    (hl : scope.Legible) (hadmits : ∀ e ∈ entries, scope.Admits e)
    (hown : ∀ e ∈ entries, e.desc.descText?.isSome) : ∃ kept, keep scope clause entries = .ok kept := by
  rcases keep_cases scope hfinal with ⟨target, hk⟩ | hk
  · obtain ⟨kept, hn⟩ := exists_near hasc hadmits target
    exact ⟨kept, by rw [hk, hn]; rfl⟩
  · rw [hk]
    exact Traversal.exists_filterM fun e he =>
      exists_asks (fun d => hl.text_of_reaches (hown e he)) fun name => hc.has_of_reaches (hadmits e he)

/-! Series of clauses -/

theorem apply_cons (scope : Scope) (clause : Query.Clause) (clauses : List Query.Clause)
    (entries : List Entry) :
    apply scope (clause :: clauses) entries = keep scope clause entries >>= apply scope clauses := rfl

theorem keep_of_apply_cons (h : apply scope (clause :: clauses) entries = .ok kept) :
    ∃ between, keep scope clause entries = .ok between ∧ apply scope clauses between = .ok kept := by
  rw [apply_cons] at h
  exact Fallible.bind_eq_ok.mp h

theorem apply_sublist (hfinal : ∀ c ∈ clauses, c.IsFinal) (hasc : Ascending entries)
    (h : apply scope clauses entries = .ok kept) : kept.Sublist entries := by
  induction clauses generalizing entries with
  | nil =>
    cases h
    exact List.Sublist.refl _
  | cons clause clauses ih =>
    obtain ⟨between, hk, hrest⟩ := keep_of_apply_cons h
    have hbetween := keep_sublist (hfinal clause List.mem_cons_self) hasc hk
    have hkept := ih (fun c hmem => hfinal c (List.mem_cons_of_mem clause hmem)) (hasc.sublist hbetween) hrest
    exact hkept.trans hbetween

/-- Whatever is left of what the clauses have kept, they keep all of it. -/
theorem apply_of_sublist (hfinal : ∀ c ∈ clauses, c.IsFinal) (hasc : Ascending entries)
    (hadmits : ∀ e ∈ entries, scope.Admits e) (h : apply scope clauses entries = .ok kept)
    (hs : left.Sublist kept) : apply scope clauses left = .ok left := by
  induction clauses generalizing entries with
  | nil => rfl
  | cons clause clauses ih =>
    obtain ⟨between, hk, hrest⟩ := keep_of_apply_cons h
    have hfirst := hfinal clause List.mem_cons_self
    have hothers : ∀ c ∈ clauses, c.IsFinal := fun c hmem => hfinal c (List.mem_cons_of_mem clause hmem)
    have hbetween := keep_sublist hfirst hasc hk
    have hkept := apply_sublist hothers (hasc.sublist hbetween) hrest
    have hagain := keep_of_sublist hfirst hasc hadmits hk (hs.trans hkept)
    rw [apply_cons, hagain]
    exact ih hothers (hasc.sublist hbetween) (fun e he => hadmits e (hbetween.mem he)) hrest

theorem exists_apply (hfinal : ∀ c ∈ clauses, c.IsFinal) (hasc : Ascending entries) (hc : scope.Closed)
    (hl : scope.Legible) (hadmits : ∀ e ∈ entries, scope.Admits e)
    (hown : ∀ e ∈ entries, e.desc.descText?.isSome) : ∃ kept, apply scope clauses entries = .ok kept := by
  induction clauses generalizing entries with
  | nil => exact ⟨entries, rfl⟩
  | cons clause clauses ih =>
    have hfirst := hfinal clause List.mem_cons_self
    obtain ⟨between, hk⟩ := exists_keep hfirst hasc hc hl hadmits hown
    have hbetween := keep_sublist hfirst hasc hk
    rw [apply_cons, hk]
    exact ih (fun c hmem => hfinal c (List.mem_cons_of_mem clause hmem)) (hasc.sublist hbetween)
      (fun e he => hadmits e (hbetween.mem he)) fun e he => hown e (hbetween.mem he)

/-- Clauses that are applied to entries in ascending order keep some of them in the same order, and the
same clauses keep all of the result. They have a result where all descriptions are texts. -/
theorem apply_idempotent (hfinal : ∀ c ∈ clauses, c.IsFinal) (hasc : Ascending entries)
    (hc : scope.Closed) (hadmits : ∀ e ∈ entries, scope.Admits e) :
    (∀ kept, apply scope clauses entries = .ok kept →
      kept.Sublist entries ∧ apply scope clauses kept = .ok kept) ∧
    (scope.Legible → (∀ e ∈ entries, e.desc.descText?.isSome) →
      ∃ kept, apply scope clauses entries = .ok kept) := by
  constructor
  · intro kept h
    have hsublist := apply_sublist hfinal hasc h
    exact ⟨hsublist, apply_of_sublist hfinal hasc hadmits h (List.Sublist.refl kept)⟩
  · intro hl hown
    exact exists_apply hfinal hasc hc hl hadmits hown

def ringEntries : List Entry := [Scope.ringEntry 0, Scope.ringEntry 8, Scope.ringEntry 16]

/-- Near an address inside the second entry, matching by an enum value, and not below an address. -/
def ringClauses : List Query.Clause :=
  [⟨false, .address .near "9" 9⟩, ⟨false, .term "ball"⟩, ⟨true, .address (.compare .lt) "8" 8⟩]

theorem apply_ring : ∃ kept, apply Scope.ring ringClauses ringEntries = .ok kept ∧
    kept = [Scope.ringEntry 8, Scope.ringEntry 16] ∧ kept.Sublist ringEntries ∧
    apply Scope.ring ringClauses kept = .ok kept := by
  have hfinal : ∀ c ∈ ringClauses, c.IsFinal := by simp [ringClauses, Query.Clause.IsFinal]
  have hasc : Ascending ringEntries := by
    unfold Ascending
    decide +kernel
  have hadmits : ∀ e ∈ ringEntries, Scope.ring.Admits e := by
    simp [ringEntries, Scope.ring_admits]
  obtain ⟨hagain, hsome⟩ := apply_idempotent hfinal hasc Scope.ring_closed hadmits
  obtain ⟨kept, h⟩ := hsome Scope.ring_legible (by decide +kernel)
  have hvalue : apply Scope.ring ringClauses ringEntries = .ok [Scope.ringEntry 8, Scope.ringEntry 16] := by
    decide +kernel
  exact ⟨kept, h, Except.ok.inj (h.symm.trans hvalue), hagain kept h⟩

end Search

end MemoryAtlas
