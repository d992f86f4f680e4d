import MemoryAtlas.Proofs.Fallible
import MemoryAtlas.Search
import Mathlib.Data.List.GetD
import Mathlib.Data.List.TakeWhile

/-!
The window around an address. Bisection finds the place where entries in ascending order pass the target,
so a window is made of what lies next to that place on both sides.
-/

namespace MemoryAtlas.Search

/-- The entries that have a sort value are in the order of these values. -/
def Ascending (entries : List Entry) : Prop := (entries.filterMap Entry.sortValue).Pairwise (· ≤ ·)

theorem Ascending.sublist {kept entries : List Entry} (h : Ascending entries)
    (hs : kept.Sublist entries) : Ascending kept :=
  List.Pairwise.sublist (hs.filterMap _) h

/-! Bisection -/

/-- If the values pass the target at a place between `low` and `high`, bisection finds the place. -/
theorem bisect_eq {values : List Int} {target : Int} {place low high : Nat}
    (hupTo : ∀ i (hi : i < values.length), i < place → values[i] ≤ target)
    (hbeyond : ∀ i (hi : i < values.length), place ≤ i → target < values[i])
    (hlow : low ≤ place) (hhigh : place ≤ high) (hlength : high ≤ values.length) :
    bisect values target low high = place := by
  fun_induction bisect values target low high with
  | case1 low high hlt middle hgt ih =>
    have hm : middle < values.length := by omega
    rw [List.getD_eq_getElem _ _ hm] at hgt
    have hplace : place ≤ middle := by
      apply Nat.le_of_not_lt
      intro hmiddle
      have := hupTo middle hm hmiddle
      omega
    exact ih hlow hplace (by omega)
  | case2 low high hlt middle hle ih =>
    have hm : middle < values.length := by omega
    rw [List.getD_eq_getElem _ _ hm] at hle
    have hplace : middle < place := by
      apply Nat.lt_of_not_le
      intro hmiddle
      have := hbeyond middle hm hmiddle
      omega
    exact ih hplace hhigh hlength
  | case3 low high hge => omega

theorem bisect_append {target : Int} {upTo beyond : List Int} (hupTo : ∀ v ∈ upTo, v ≤ target)
    (hbeyond : ∀ v ∈ beyond, target < v) :
    bisect (upTo ++ beyond) target 0 (upTo ++ beyond).length = upTo.length := by
  apply bisect_eq
  · intro i hi hlt
    rw [List.getElem_append_left hlt]
    exact hupTo _ (List.getElem_mem hlt)
  · intro i hi hle
    rw [List.getElem_append_right hle]
    exact hbeyond _ (List.getElem_mem _)
  · exact Nat.zero_le _
  · simp
  · exact Nat.le_refl _

/-- Wherever the entries pass the target, the window is taken from there. -/
theorem near_of_valued {structs : StructTable} {target : Int} {entries : List Entry}
    {upTo beyond : List (Entry × Int)} (hv : valued entries = upTo ++ beyond)
    (hupTo : ∀ e ∈ upTo, e.2 ≤ target) (hbeyond : ∀ e ∈ beyond, target < e.2) :
    near structs target entries = window structs target upTo beyond := by
  have hcut : bisect ((valued entries).map Prod.snd) target 0 (valued entries).length = upTo.length := by
    have h := bisect_append (List.forall_mem_map.mpr hupTo) (List.forall_mem_map.mpr hbeyond)
    simpa [hv] using h
  simp only [near, hcut]
  rw [hv, List.take_left, List.drop_left]

theorem valued_map_snd (entries : List Entry) :
    (valued entries).map Prod.snd = entries.filterMap Entry.sortValue := by
  simp only [valued, List.map_filterMap]
  congr 1
  funext e
  cases e.sortValue <;> rfl

/-- Entries in ascending order pass a target once. -/
theorem passes_once {entries : List Entry} (h : Ascending entries) (target : Int) :
    (∀ e ∈ (valued entries).takeWhile fun e => e.2 ≤ target, e.2 ≤ target) ∧
      ∀ e ∈ (valued entries).dropWhile fun e => e.2 ≤ target, target < e.2 := by
  have hp : (valued entries).Pairwise fun a b => a.2 ≤ b.2 := by
    rw [Ascending, ← valued_map_snd, List.pairwise_map] at h
    exact h
  constructor
  · intro e he
    simpa using List.mem_takeWhile_imp he
  · intro e he
    have hd := hp.sublist (List.dropWhile_sublist fun e => decide (e.2 ≤ target))
    cases hl : (valued entries).dropWhile fun e => decide (e.2 ≤ target) with
    | nil =>
      rw [hl] at he
      exact absurd he List.not_mem_nil
    | cons first rest =>
      have hfirst : target < first.2 := by
        have := List.head?_dropWhile_not (fun e => decide (e.2 ≤ target)) (valued entries)
        simpa [hl] using this
      rw [hl] at he hd
      rcases List.mem_cons.mp he with rfl | hmem
      · exact hfirst
      · have hle := List.rel_of_pairwise_cons hd hmem
        omega

theorem near_eq {structs : StructTable} {target : Int} {entries : List Entry} (h : Ascending entries) :
    near structs target entries =
      window structs target ((valued entries).takeWhile fun e => e.2 ≤ target)
        ((valued entries).dropWhile fun e => e.2 ≤ target) :=
  near_of_valued List.takeWhile_append_dropWhile.symm (passes_once h target).1 (passes_once h target).2

/-! The entries of a window -/

theorem valued_map_fst {pairs : List (Entry × Int)} (h : ∀ e ∈ pairs, e.1.sortValue = some e.2) :
    valued (pairs.map Prod.fst) = pairs := by
  induction pairs with
  | nil => rfl
  | cons e pairs ih =>
    have he := h e List.mem_cons_self
    have hrest := ih fun d hd => h d (List.mem_cons_of_mem e hd)
    simp only [valued, List.map_cons, List.filterMap_cons, he, Option.map_some] at hrest ⊢
    rw [hrest]

theorem sortValue_of_mem_valued {entries : List Entry} {e : Entry × Int} (h : e ∈ valued entries) :
    e.1 ∈ entries ∧ e.1.sortValue = some e.2 := by
  obtain ⟨d, hd, hvalue⟩ := List.mem_filterMap.mp h
  obtain ⟨value, hsort, rfl⟩ := Option.map_eq_some_iff.mp hvalue
  exact ⟨hd, hsort⟩

theorem map_fst_valued {entries : List Entry} (h : ∀ e ∈ entries, e.sortValue.isSome) :
    (valued entries).map Prod.fst = entries := by
  induction entries with
  | nil => rfl
  | cons e entries ih =>
    obtain ⟨value, hvalue⟩ := Option.isSome_iff_exists.mp (h e List.mem_cons_self)
    have hrest := ih fun d hd => h d (List.mem_cons_of_mem e hd)
    simp only [valued, List.filterMap_cons, hvalue, Option.map_some, List.map_cons] at hrest ⊢
    rw [hrest]

theorem map_fst_valued_sublist (entries : List Entry) :
    ((valued entries).map Prod.fst).Sublist entries := by
  induction entries with
  | nil => exact List.Sublist.refl _
  | cons e entries ih =>
    simp only [valued, List.filterMap_cons] at ih ⊢
    cases e.sortValue with
    | none => exact ih.cons e
    | some value => exact ih.cons_cons e

/-- Two entries at most up to the target, the first of them only if the second covers the target, and
one entry at most beyond. -/
structure IsWindow (structs : StructTable) (target : Int) (upTo beyond : List (Entry × Int)) : Prop where
  le : ∀ e ∈ upTo, e.2 ≤ target
  lt : ∀ e ∈ beyond, target < e.2
  length_upTo : upTo.length ≤ 2
  length_beyond : beyond.length ≤ 1
  covered : ∀ first last, upTo = [first, last] → covers structs target last.1 last.2 = .ok true

namespace IsWindow

variable {structs : StructTable} {target : Int} {upTo beyond : List (Entry × Int)}

/-- A window without some of its entries is a window still. -/
theorem sublist {left right : List (Entry × Int)} (h : IsWindow structs target upTo beyond)
    (hleft : left.Sublist upTo) (hright : right.Sublist beyond) :
    IsWindow structs target left right where
  le e he := h.le e (hleft.mem he)
  lt e he := h.lt e (hright.mem he)
  length_upTo := hleft.length_le.trans h.length_upTo
  length_beyond := hright.length_le.trans h.length_beyond
  covered first last heq := by
    have hlength : upTo.length ≤ left.length := by
      rw [heq]
      exact h.length_upTo
    exact h.covered first last ((hleft.eq_of_length_le hlength).symm.trans heq)

/-- The window of a window is all of it. -/
theorem window_eq (h : IsWindow structs target upTo beyond)
    (hlengths : ∀ e ∈ upTo, ∃ length, entryLength structs e.1 = .ok length) :
    window structs target upTo beyond = .ok ((upTo ++ beyond).map Prod.fst) := by
  have hbeyond : beyond.take 1 = beyond := List.take_of_length_le h.length_beyond
  match upTo, h, hlengths with
  | [], h, _ => simp [window, hbeyond, pure, Except.pure, bind, Except.bind]
  | [e], h, hlengths =>
    obtain ⟨length, hl⟩ := hlengths e List.mem_cons_self
    simp [window, covers, hl, hbeyond, pure, Except.pure, bind, Except.bind]
  | [first, last], h, _ =>
    have hcovers := h.covered first last rfl
    simp [window, hcovers, hbeyond, pure, Except.pure, bind, Except.bind]
  | _ :: _ :: _ :: _, h, _ =>
    have hlength := h.length_upTo
    simp at hlength

theorem single {e : Entry × Int} (h : e.2 ≤ target) : IsWindow structs target [e] [] where
  le d hd := by
    rw [List.mem_singleton.mp hd]
    exact h
  lt d hd := absurd hd List.not_mem_nil
  length_upTo := by simp
  length_beyond := by simp
  covered first last heq := by cases heq

theorem pair {first last : Entry × Int} (hfirst : first.2 ≤ target) (hlast : last.2 ≤ target)
    (hcovers : covers structs target last.1 last.2 = .ok true) :
    IsWindow structs target [first, last] [] where
  le d hd := by
    rcases List.mem_cons.mp hd with rfl | hd
    · exact hfirst
    · rw [List.mem_singleton.mp hd]
      exact hlast
  lt d hd := absurd hd List.not_mem_nil
  length_upTo := Nat.le_refl 2
  length_beyond := by simp
  covered d e heq := by
    cases heq
    exact hcovers

/-- What stands at the end of the entries up to the target: the last of them, or the last two. -/
theorem exists_left {kept : List Entry} (h : window structs target upTo beyond = .ok kept)
    (hle : ∀ e ∈ upTo, e.2 ≤ target) :
    ∃ left, left.Sublist upTo ∧ IsWindow structs target left [] ∧
      kept = (left ++ beyond.take 1).map Prod.fst := by
  rw [window] at h
  cases hreverse : upTo.reverse with
  | nil =>
    rw [hreverse] at h
    cases h
    exact ⟨[], List.nil_sublist upTo, ⟨by simp, by simp, by simp, by simp, by simp⟩, rfl⟩
  | cons last others =>
    obtain ⟨e, start⟩ := last
    have hupTo : upTo = others.reverse ++ [(e, start)] := by
      rw [← List.reverse_reverse upTo, hreverse, List.reverse_cons]
    have hstart : start ≤ target := hle (e, start) (by simp [hupTo])
    rw [hreverse] at h
    obtain ⟨covered, hcovers, h⟩ := Fallible.bind_eq_ok.mp h
    cases covered with
    | false =>
      cases h
      exact ⟨[(e, start)], by simp [hupTo], single hstart, by simp⟩
    | true =>
      cases others with
      | nil =>
        cases h
        exact ⟨[(e, start)], by simp [hupTo], single hstart, by simp⟩
      | cons previous others =>
        cases h
        have hprevious : previous.2 ≤ target := hle previous (by simp [hupTo])
        exact ⟨[previous, (e, start)], by simp [hupTo], pair hprevious hstart hcovers, by simp⟩

end IsWindow

variable {structs : StructTable} {target : Int} {entries kept : List Entry}

/-- The entries near a target are a window of those that have a sort value. -/
theorem exists_isWindow (hasc : Ascending entries) (h : near structs target entries = .ok kept) :
    ∃ upTo beyond, IsWindow structs target upTo beyond ∧ (upTo ++ beyond).Sublist (valued entries) ∧
      kept = (upTo ++ beyond).map Prod.fst := by
  obtain ⟨hle, hlt⟩ := passes_once hasc target
  rw [near_eq hasc] at h
  obtain ⟨left, hleft, hwindow, hkept⟩ := IsWindow.exists_left h hle
  have hright := List.take_sublist 1 ((valued entries).dropWhile fun e => e.2 ≤ target)
  refine ⟨left, _, ⟨hwindow.le, ?_, hwindow.length_upTo, List.length_take_le 1 _, hwindow.covered⟩, ?_, hkept⟩
  · exact fun e he => hlt e (hright.mem he)
  · have hs := hleft.append hright
    rwa [List.takeWhile_append_dropWhile] at hs

theorem near_sublist (hasc : Ascending entries) (h : near structs target entries = .ok kept) :
    kept.Sublist entries := by
  obtain ⟨upTo, beyond, -, hs, rfl⟩ := exists_isWindow hasc h
  exact (hs.map Prod.fst).trans (map_fst_valued_sublist entries)

/-- Whatever is left of a window, the search near its target keeps all of it. -/
theorem near_of_sublist {left : List Entry} (hasc : Ascending entries)
    (h : near structs target entries = .ok kept) (hs : left.Sublist kept)
    (hlengths : ∀ e ∈ kept, ∃ length, entryLength structs e = .ok length) :
    near structs target left = .ok left := by
  obtain ⟨upTo, beyond, hwindow, hvalued, rfl⟩ := exists_isWindow hasc h
  have hpairs : ∀ e ∈ upTo ++ beyond, e.1.sortValue = some e.2 := fun e he =>
    (sortValue_of_mem_valued (hvalued.mem he)).2
  have hleft : (valued left).Sublist (upTo ++ beyond) := by
    have := hs.filterMap fun e => e.sortValue.map fun value => (e, value)
    rwa [← valued_map_fst hpairs]
  obtain ⟨ups, beyonds, hsplit, hups, hbeyonds⟩ := List.sublist_append_iff.mp hleft
  have hnow := hwindow.sublist hups hbeyonds
  rw [near_of_valued hsplit hnow.le hnow.lt, hnow.window_eq, ← hsplit, map_fst_valued]
  · intro e he
    obtain ⟨pair, hpair, rfl⟩ := List.mem_map.mp (hs.mem he)
    simp [hpairs pair hpair]
  · intro e he
    exact hlengths e.1 (List.mem_map_of_mem (List.mem_append_left _ (hups.mem he)))

end MemoryAtlas.Search
