/-!
Lists of keyed values in the order in which the keys first came.
-/

namespace MemoryAtlas.Assoc

variable {κ α : Type} [BEq κ]

def keys (l : List (κ × α)) : List κ := l.map Prod.fst

/-- No key counts as the same as another one. -/
def Distinct (l : List (κ × α)) : Prop := (keys l).Pairwise fun a b => (a == b) = false

/-- A key that is there stays as it is and takes the new value; a new one goes to the end. -/
def put (key : κ) (value : α) : List (κ × α) → List (κ × α)
  | [] => [(key, value)]
  | (k, v) :: rest => if k == key then (k, value) :: rest else (k, v) :: put key value rest

def ofList (l : List (κ × α)) : List (κ × α) := l.foldl (fun done e => put e.1 e.2 done) []

theorem mem_keys_put {key k : κ} {value : α} {l : List (κ × α)} (h : k ∈ keys (put key value l)) :
    k = key ∨ k ∈ keys l := by
  induction l with
  | nil => simpa [put, keys] using h
  | cons entry rest ih =>
    simp only [put] at h
    split at h
    · exact .inr (by simpa [keys] using h)
    · simp only [keys, List.map_cons, List.mem_cons] at ih h ⊢
      rcases h with h | h
      · exact .inr (.inl h)
      · exact (ih h).imp_right .inr

theorem distinct_nil : Distinct ([] : List (κ × α)) := List.Pairwise.nil

theorem distinct_put (key : κ) (value : α) {l : List (κ × α)} (h : Distinct l) :
    Distinct (put key value l) := by
  induction l with
  | nil => simp [put, Distinct, keys]
  | cons entry rest ih =>
    have hk : (∀ k ∈ keys rest, (entry.1 == k) = false) ∧ Distinct rest := List.pairwise_cons.mp h
    simp only [put]
    split
    · exact List.pairwise_cons.mpr hk
    · next hne =>
      refine List.pairwise_cons.mpr ⟨fun k hm => ?_, ih hk.2⟩
      rcases mem_keys_put hm with he | hm
      · simpa [he] using hne
      · exact hk.1 k hm

end MemoryAtlas.Assoc
