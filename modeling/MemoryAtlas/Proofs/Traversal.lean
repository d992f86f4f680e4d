import MemoryAtlas.Proofs.Fallible
import Mathlib.Data.List.Forall2

/-!
Lists gone through with a question that may fail: what the outcome tells of the items.
-/

namespace MemoryAtlas.Traversal

variable {α ε : Type} {ask : α → Except ε Bool} {l : List α}

theorem anyM_cons (ask : α → Except ε Bool) (a : α) (l : List α) :
    (a :: l).anyM ask =
      match ask a with
      | .ok true => .ok true
      | .ok false => l.anyM ask
      | .error fault => .error fault := by
  simp only [List.anyM]
  cases ask a with
  | error fault => rfl
  | ok answer => cases answer <;> rfl

theorem exists_of_anyM_eq_true (h : l.anyM ask = .ok true) : ∃ a ∈ l, ask a = .ok true := by
  induction l with
  | nil => cases h
  | cons a l ih =>
    rw [anyM_cons] at h
    split at h
    · next ha => exact ⟨a, List.mem_cons_self, ha⟩
    · obtain ⟨b, hb, hask⟩ := ih h
      exact ⟨b, List.mem_cons_of_mem a hb, hask⟩
    · cases h

theorem forall_of_anyM_eq_false (h : l.anyM ask = .ok false) : ∀ a ∈ l, ask a = .ok false := by
  induction l with
  | nil => exact fun a ha => absurd ha List.not_mem_nil
  | cons a l ih =>
    rw [anyM_cons] at h
    split at h
    · cases h
    · next ha => exact List.forall_mem_cons.mpr ⟨ha, ih h⟩
    · cases h

theorem exists_of_anyM_eq_error {fault : ε} (h : l.anyM ask = .error fault) :
    ∃ a ∈ l, ask a = .error fault := by
  induction l with
  | nil => cases h
  | cons a l ih =>
    rw [anyM_cons] at h
    split at h
    · cases h
    · obtain ⟨b, hb, hask⟩ := ih h
      exact ⟨b, List.mem_cons_of_mem a hb, hask⟩
    · next ha =>
      cases h
      exact ⟨a, List.mem_cons_self, ha⟩

theorem filterAuxM_eq {p : α → Bool} (h : ∀ a ∈ l, ask a = .ok (p a)) (done : List α) :
    l.filterAuxM ask done = .ok ((l.filter p).reverse ++ done) := by
  induction l generalizing done with
  | nil => rfl
  | cons a l ih =>
    have ha := h a List.mem_cons_self
    have hl := ih fun b hb => h b (List.mem_cons_of_mem a hb)
    simp only [List.filterAuxM, ha]
    change l.filterAuxM ask (bif p a then a :: done else done) = _
    cases hp : p a with
    | true => simpa [hp] using hl (a :: done)
    | false => simpa [hp] using hl done

theorem filterM_eq_filter {p : α → Bool} (h : ∀ a ∈ l, ask a = .ok (p a)) :
    l.filterM ask = .ok (l.filter p) := by
  simp only [List.filterM, filterAuxM_eq h []]
  exact congrArg Except.ok (by simp)

theorem filterM_eq_self (h : ∀ a ∈ l, ask a = .ok true) : l.filterM ask = .ok l := by
  rw [filterM_eq_filter h, List.filter_eq_self.mpr fun _ _ => rfl]

theorem exists_answer_of_filterAuxM {done k : List α} (h : l.filterAuxM ask done = .ok k) :
    ∀ a ∈ l, ∃ answer, ask a = .ok answer := by
  induction l generalizing done with
  | nil => exact fun a ha => absurd ha List.not_mem_nil
  | cons a l ih =>
    simp only [List.filterAuxM] at h
    obtain ⟨answer, ha, h⟩ := Fallible.bind_eq_ok.mp h
    exact List.forall_mem_cons.mpr ⟨⟨answer, ha⟩, ih h⟩

/-- A list that has been filtered holds the items with the answer yes. -/
theorem eq_filter_of_filterM {k : List α} (h : l.filterM ask = .ok k) :
    ∃ p : α → Bool, (∀ a ∈ l, ask a = .ok (p a)) ∧ k = l.filter p := by
  obtain ⟨done, hf, -⟩ := Fallible.bind_eq_ok.mp h
  have hp : ∀ a ∈ l, ask a = .ok ((ask a).toOption.getD false) := by
    intro a ha
    obtain ⟨answer, hanswer⟩ := exists_answer_of_filterAuxM hf a ha
    rw [hanswer]
    rfl
  refine ⟨fun a => (ask a).toOption.getD false, hp, ?_⟩
  rw [filterM_eq_filter hp] at h
  exact (Except.ok.inj h).symm

theorem sublist_of_filterM {k : List α} (h : l.filterM ask = .ok k) : k.Sublist l := by
  obtain ⟨p, -, rfl⟩ := eq_filter_of_filterM h
  exact List.filter_sublist

/-- A list and a longer one, each filtered with a question of its own: the longer one keeps more if its question never
says no where that of the shorter one says yes. -/
theorem sublist_of_filterM_of_filterM {other : α → Except ε Bool} {more k kept : List α} (hs : l.Sublist more)
    (h : l.filterM ask = .ok k) (hmore : more.filterM other = .ok kept)
    (hyes : ∀ a ∈ l, ∀ answer, ask a = .ok true → other a = .ok answer → answer = true) : k.Sublist kept := by
  obtain ⟨p, hp, rfl⟩ := eq_filter_of_filterM h
  obtain ⟨q, hq, rfl⟩ := eq_filter_of_filterM hmore
  have hpq : l.filter p = (l.filter q).filter p := by
    rw [List.filter_filter]
    refine List.filter_congr fun a ha => ?_
    cases hpa : p a with
    | false => rfl
    | true => rw [hyes a ha (q a) (hpa ▸ hp a ha) (hq a (hs.mem ha)), Bool.and_true]
  rw [hpq]
  exact List.filter_sublist.trans (hs.filter q)

/-- Whatever is left of a list that has been filtered passes the filter again. -/
theorem filterM_of_sublist {k left : List α} (h : l.filterM ask = .ok k) (hs : left.Sublist k) :
    left.filterM ask = .ok left := by
  obtain ⟨p, hp, rfl⟩ := eq_filter_of_filterM h
  apply filterM_eq_self
  intro a ha
  obtain ⟨hmem, hyes⟩ := List.mem_filter.mp (hs.mem ha)
  rw [hp a hmem, hyes]

theorem exists_filterM (h : ∀ a ∈ l, ∃ answer, ask a = .ok answer) : ∃ k, l.filterM ask = .ok k := by
  have hp : ∀ a ∈ l, ask a = .ok ((ask a).toOption.getD false) := by
    intro a ha
    obtain ⟨answer, hanswer⟩ := h a ha
    rw [hanswer]
    rfl
  exact ⟨_, filterM_eq_filter hp⟩

theorem exists_of_filterAuxM_eq_error {fault : ε} {done : List α} (h : l.filterAuxM ask done = .error fault) :
    ∃ a ∈ l, ask a = .error fault := by
  induction l generalizing done with
  | nil => cases h
  | cons a l ih =>
    simp only [List.filterAuxM] at h
    rcases Fallible.bind_eq_error.mp h with ha | ⟨answer, -, h⟩
    · exact ⟨a, List.mem_cons_self, ha⟩
    · obtain ⟨b, hb, hask⟩ := ih h
      exact ⟨b, List.mem_cons_of_mem a hb, hask⟩

theorem exists_of_filterM_eq_error {fault : ε} (h : l.filterM ask = .error fault) :
    ∃ a ∈ l, ask a = .error fault := by
  rcases Fallible.bind_eq_error.mp h with h | ⟨done, -, h⟩
  · exact exists_of_filterAuxM_eq_error h
  · cases h

/-! Lists turned into others item by item -/

section

variable {β : Type}

theorem exists_of_mem_mapM {f : α → Except ε β} {l : List α} {made : List β} (h : l.mapM f = .ok made) :
    ∀ b ∈ made, ∃ a ∈ l, f a = .ok b := by
  induction l generalizing made with
  | nil =>
    cases h
    exact fun b hb => absurd hb List.not_mem_nil
  | cons a l ih =>
    rw [List.mapM_cons] at h
    obtain ⟨first, hfirst, h⟩ := Fallible.bind_eq_ok.mp h
    obtain ⟨rest, hrest, h⟩ := Fallible.bind_eq_ok.mp h
    cases h
    refine List.forall_mem_cons.mpr ⟨⟨a, List.mem_cons_self, hfirst⟩, fun b hb => ?_⟩
    obtain ⟨c, hc, hb⟩ := ih hrest b hb
    exact ⟨c, List.mem_cons_of_mem a hc, hb⟩

theorem mapM_of_forall₂ {f : α → Except ε β} {l : List α} {made : List β}
    (h : List.Forall₂ (fun a b => f a = .ok b) l made) : l.mapM f = .ok made := by
  induction h with
  | nil => rfl
  | cons hfirst _ ih =>
    rw [List.mapM_cons, hfirst, ih]
    rfl

theorem isSome_mapM_iff (f : α → Option β) (l : List α) : (l.mapM f).isSome ↔ ∀ a ∈ l, (f a).isSome := by
  induction l with
  | nil => simp
  | cons a l ih =>
    rw [List.mapM_cons, List.forall_mem_cons, ← ih]
    cases f a with
    | none => simp
    | some b => cases l.mapM f <;> simp

end

end MemoryAtlas.Traversal
