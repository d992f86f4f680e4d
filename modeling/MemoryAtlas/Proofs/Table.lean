import MemoryAtlas.Table

/-!
Finding definitions: names that count as equal find the same one, and every definition in a table is found
by its own label. The table of a list of definitions has the labels in the order in which they first come, each
with the last definition that has it.
-/

namespace MemoryAtlas

theorem Assoc.lookup_put_of_ne {α : Type} {key k : Scalar} (hk : (k == key) = false) (value : α)
    (l : List (Scalar × α)) : (put key value l).lookup k = l.lookup k := by
  induction l with
  | nil => rw [put, List.lookup_cons, hk]
  | cons entry l ih =>
    obtain ⟨label, a⟩ := entry
    rw [put]
    split
    · next hlabel =>
      have hne : (k == label) = false := (BEq.congr_right hlabel).trans hk
      rw [List.lookup_cons, List.lookup_cons, hne]
    · rw [List.lookup_cons, List.lookup_cons, ih]

theorem Assoc.lookup_put {α : Type} (key : Scalar) (value : α) (l : List (Scalar × α)) :
    (put key value l).lookup key = some value := by
  induction l with
  | nil => simp [put]
  | cons entry l ih =>
    obtain ⟨label, a⟩ := entry
    rw [put]
    split
    · next hlabel => rw [List.lookup_cons, BEq.symm hlabel]
    · next hlabel =>
      have hne : (key == label) = false := by
        rw [BEq.comm]
        exact Bool.eq_false_iff.mpr hlabel
      rw [List.lookup_cons, hne, ih]

theorem Assoc.keys_put {α : Type} (key : Scalar) (value : α) (l : List (Scalar × α)) :
    keys (put key value l) = if (keys l).any (· == key) then keys l else keys l ++ [key] := by
  induction l with
  | nil => rfl
  | cons entry l ih =>
    obtain ⟨label, a⟩ := entry
    rw [put]
    cases hlabel : label == key with
    | true => simp [keys, hlabel]
    | false =>
      have hcons : ∀ others : List (Scalar × α), keys ((label, a) :: others) = label :: keys others := fun _ => rfl
      rw [if_neg (by simp), hcons, hcons, ih, List.any_cons, hlabel, Bool.false_or]
      split <;> rfl

namespace Table

variable {α : Type}

theorem lookup_congr {n m : Scalar} (h : (n == m) = true) (l : List (Scalar × α)) :
    l.lookup n = l.lookup m := by
  induction l with
  | nil => rfl
  | cons entry l ih =>
    obtain ⟨label, a⟩ := entry
    have he : (n == label) = (m == label) := BEq.congr_left h
    rw [List.lookup_cons, List.lookup_cons, he, ih]

theorem find?_congr {t : Table α} {n m : Scalar} (h : (n == m) = true) : t.find? n = t.find? m :=
  lookup_congr h t.entries

theorem find?_put (t : Table α) (label n : Scalar) (a : α) :
    (t.put label a).find? n = if n == label then some a else t.find? n := by
  cases h : n == label with
  | true => exact (find?_congr h).trans (Assoc.lookup_put label a t.entries)
  | false => exact Assoc.lookup_put_of_ne h a t.entries

theorem has_of_find? {t : Table α} {n : Scalar} {a : α} (h : t.find? n = some a) : t.has n = true := by
  simp [has, h]

theorem mem_of_lookup {n : Scalar} {a : α} {l : List (Scalar × α)} (h : l.lookup n = some a) :
    a ∈ l.map Prod.snd := by
  induction l with
  | nil => cases h
  | cons entry l ih =>
    obtain ⟨label, d⟩ := entry
    rw [List.lookup_cons] at h
    split at h
    · cases h
      exact List.mem_cons_self
    · exact List.mem_cons_of_mem _ (ih h)

theorem mem_definitions_of_find? {t : Table α} {n : Scalar} {a : α} (h : t.find? n = some a) :
    a ∈ t.definitions := mem_of_lookup h

theorem find?_of_mem_entries {t : Table α} {n k : Scalar} {a : α} (h : (k, a) ∈ t.entries)
    (hn : (n == k) = true) : t.find? n = some a := by
  obtain ⟨entries, distinct⟩ := t
  simp only [find?] at h ⊢
  induction entries with
  | nil => cases h
  | cons entry entries ih =>
    obtain ⟨label, d⟩ := entry
    obtain ⟨hapart, hrest⟩ := List.pairwise_cons.mp distinct
    rw [List.lookup_cons]
    rcases List.mem_cons.mp h with heq | hmem
    · cases heq
      rw [hn]
    · have hne : (n == label) = false := by
        rw [BEq.congr_left hn, BEq.comm]
        exact hapart k (List.mem_map_of_mem hmem)
      rw [hne]
      exact ih hrest hmem

theorem has_of_mem_entries {t : Table α} {n k : Scalar} {a : α} (h : (k, a) ∈ t.entries)
    (hn : (n == k) = true) : t.has n = true := has_of_find? (find?_of_mem_entries h hn)

theorem mem_put {key k : Scalar} {value a : α} {l : List (Scalar × α)} (h : (k, a) ∈ Assoc.put key value l) :
    (k, a) ∈ l ∨ a = value ∧ (k == key) = true := by
  induction l with
  | nil =>
    rw [Assoc.put, List.mem_singleton] at h
    cases h
    exact .inr ⟨rfl, BEq.rfl⟩
  | cons entry l ih =>
    obtain ⟨label, d⟩ := entry
    rw [Assoc.put] at h
    split at h
    · next hlabel =>
      rcases List.mem_cons.mp h with heq | hmem
      · cases heq
        exact .inr ⟨rfl, hlabel⟩
      · exact .inl (List.mem_cons_of_mem _ hmem)
    · rcases List.mem_cons.mp h with heq | hmem
      · exact .inl (heq ▸ List.mem_cons_self)
      · exact (ih hmem).imp_left (List.mem_cons_of_mem _)

/-- The definitions of the table are some of the given ones, each under its own label. -/
def Files (label? : α → Option Scalar) (definitions : List α) (t : Table α) : Prop :=
  ∀ entry ∈ t.entries, entry.2 ∈ definitions ∧ ∃ label, label? entry.2 = some label ∧ (entry.1 == label) = true

variable {label? : α → Option Scalar} {definitions : List α}

theorem files_put {t : Table α} (h : t.Files label? definitions) {d : α} {label : Scalar}
    (hd : d ∈ definitions) (hlabel : label? d = some label) : (t.put label d).Files label? definitions := by
  rintro ⟨k, a⟩ hmem
  rcases mem_put hmem with hold | ⟨rfl, hk⟩
  · exact h (k, a) hold
  · exact ⟨hd, label, hlabel, hk⟩

theorem files_foldl {t : Table α} (h : t.Files label? definitions) {more : List α}
    (hmore : ∀ d ∈ more, d ∈ definitions) :
    (more.foldl (fun t d => ((label? d).map fun label => t.put label d).getD t) t).Files label? definitions := by
  induction more generalizing t with
  | nil => exact h
  | cons d more ih =>
    obtain ⟨hd, hothers⟩ := List.forall_mem_cons.mp hmore
    refine ih ?_ hothers
    dsimp only
    cases hlabel : label? d with
    | none => exact h
    | some label => exact files_put h hd hlabel

theorem files_ofList (label? : α → Option Scalar) (definitions : List α) :
    (ofList label? definitions).Files label? definitions :=
  files_foldl (fun _ hmem => absurd hmem List.not_mem_nil) fun _ hd => hd

theorem mem_of_mem_definitions {d : α} (h : d ∈ (ofList label? definitions).definitions) :
    d ∈ definitions := by
  obtain ⟨entry, hentry, rfl⟩ := List.mem_map.mp h
  exact (files_ofList label? definitions entry hentry).1

theorem has_of_mem_definitions {d : α} (h : d ∈ (ofList label? definitions).definitions) :
    ∃ label, label? d = some label ∧ (ofList label? definitions).has label = true := by
  obtain ⟨entry, hentry, rfl⟩ := List.mem_map.mp h
  obtain ⟨-, label, hlabel, hk⟩ := files_ofList label? definitions entry hentry
  exact ⟨label, hlabel, has_of_mem_entries hentry (BEq.symm hk)⟩

/-! What is in the table of a list of definitions, and where -/

theorem labels_foldl (label? : α → Option Scalar) (definitions : List α) (t : Table α) :
    (definitions.foldl (fun t d => ((label? d).map fun label => t.put label d).getD t) t).labels =
      t.labels ++ ((definitions.filterMap label?).filter fun k => !t.labels.any (· == k)).eraseDups := by
  induction definitions generalizing t with
  | nil => simp
  | cons d definitions ih =>
    rw [List.foldl_cons, ih, List.filterMap_cons]
    cases hlabel : label? d with
    | none => rfl
    | some label =>
      have hput : (t.put label d).labels =
          if t.labels.any (· == label) then t.labels else t.labels ++ [label] := Assoc.keys_put label d t.entries
      dsimp only [Option.map_some, Option.getD_some]
      rw [hput, List.filter_cons]
      cases hhas : t.labels.any (· == label) with
      | true => rfl
      | false =>
        have hmore : ∀ k, (!(t.labels ++ [label]).any (· == k)) = (!k == label && !t.labels.any (· == k)) := by
          intro k
          rw [List.any_append, Bool.not_or, Bool.and_comm, BEq.comm (a := k)]
          simp
        rw [if_neg (by simp), if_pos (by simp), List.eraseDups_cons, List.filter_filter, List.append_assoc]
        simp only [hmore, List.singleton_append]

theorem find?_foldl (label? : α → Option Scalar) (definitions : List α) (t : Table α) (n : Scalar) :
    (definitions.foldl (fun t d => ((label? d).map fun label => t.put label d).getD t) t).find? n =
      (definitions.reverse.find? fun d => (label? d).any (n == ·)).or (t.find? n) := by
  induction definitions generalizing t with
  | nil => rfl
  | cons d definitions ih =>
    rw [List.foldl_cons, ih, List.reverse_cons, List.find?_append, Option.or_assoc]
    cases hlabel : label? d with
    | none => simp [hlabel]
    | some label =>
      rw [Option.map_some, Option.getD_some, find?_put]
      cases hn : n == label <;> simp [hlabel, hn]

/-- Every definition has a label. The labels stand in the table in the order in which they first come, each of them
once, and each with the last definition that has it. -/
structure Gathers (label? : α → Option Scalar) (definitions : List α) (t : Table α) : Prop where
  labelled : ∀ d ∈ definitions, (label? d).isSome
  labels : t.labels = (definitions.filterMap label?).eraseDups
  last : ∀ entry ∈ t.entries, ∃ front behind, definitions = front ++ entry.2 :: behind ∧
    (∃ label, label? entry.2 = some label ∧ (entry.1 == label) = true) ∧
    ∀ d ∈ behind, ∀ label, label? d = some label → (entry.1 == label) = false

theorem gathers_ofList (h : ∀ d ∈ definitions, (label? d).isSome) :
    (ofList label? definitions).Gathers label? definitions where
  labelled := h
  labels := by
    have hall := labels_foldl label? definitions empty
    have hnew : (definitions.filterMap label?).filter (fun k => !(empty : Table α).labels.any (· == k)) =
        definitions.filterMap label? := List.filter_eq_self.mpr fun _ _ => rfl
    rwa [hnew] at hall
  last entry hentry := by
    have hfind := (find?_of_mem_entries hentry BEq.rfl).symm.trans (find?_foldl label? definitions empty entry.1)
    have hlast : definitions.reverse.find? (fun d => (label? d).any (entry.1 == ·)) = some entry.2 :=
      (hfind.trans Option.or_none).symm
    obtain ⟨hlabel, behind, front, hsplit, hbehind⟩ := List.find?_eq_some_iff_append.mp hlast
    refine ⟨front.reverse, behind.reverse, ?_, ?_, fun d hd label hd' => ?_⟩
    · have hreverse := congrArg List.reverse hsplit
      simpa using hreverse
    · obtain ⟨label, hown, hkey⟩ := (Option.any_eq_true _ _).mp hlabel
      exact ⟨label, hown, hkey⟩
    · have hother := hbehind d (List.mem_reverse.mp hd)
      simpa [hd'] using hother

/-- No two definitions of the table have the same label. -/
theorem pairwise_definitions {t : Table α} (h : t.Files label? definitions) :
    t.definitions.Pairwise fun a b => ∀ n m, label? a = some n → label? b = some m → (n == m) = false := by
  refine List.pairwise_map.mpr ((List.pairwise_map.mp t.distinct).imp_of_mem fun {a b} ha hb hapart n m hn hm => ?_)
  obtain ⟨-, n', hn', hna⟩ := h a ha
  obtain ⟨-, m', hm', hmb⟩ := h b hb
  obtain rfl : n' = n := Option.some.inj (hn'.symm.trans hn)
  obtain rfl : m' = m := Option.some.inj (hm'.symm.trans hm)
  rw [← BEq.congr_left hna, ← BEq.congr_right hmb]
  exact hapart

theorem find?_of_mem_definitions {t : Table α} (h : t.Files label? definitions) {d : α} (hd : d ∈ t.definitions)
    {n : Scalar} (hn : label? d = some n) : t.find? n = some d := by
  obtain ⟨entry, hentry, rfl⟩ := List.mem_map.mp hd
  obtain ⟨-, label, hlabel, hkey⟩ := h entry hentry
  obtain rfl : label = n := Option.some.inj (hlabel.symm.trans hn)
  exact find?_of_mem_entries hentry (BEq.symm hkey)

end Table

end MemoryAtlas
