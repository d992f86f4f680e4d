import MemoryAtlas.Proofs.Search.Narrowing
import MemoryAtlas.Proofs.Search.Neighbours

/-!
Entries that have an address in their reach. A search near the address keeps the last of them: an entry behind which
another one starts is kept only if there is no third and the other one has the address in its reach too. Entries at
the address itself are all kept as long as they are no more than two.
-/

namespace MemoryAtlas.Search

variable {structs : StructTable} {target value length : Int} {entries front behind : List Entry} {e p : Entry}

/-- Of the entries behind, none starts up to the target, or just one, which has the target in its reach. -/
def AmongLast (structs : StructTable) (target : Int) (behind : List Entry) : Prop :=
  (behind.filter fun e => !e.isBeyond target) = [] ∨
    ∃ last, (behind.filter fun e => !e.isBeyond target) = [last] ∧ ReachesOver structs target last

theorem ReachesOver.isBeyond_eq_false (h : ReachesOver structs target e) : e.isBeyond target = false := by
  obtain ⟨value, length, hvalue, -, hle, -⟩ := h
  rw [isBeyond_of_sortValue hvalue]
  exact decide_eq_false (Int.not_lt.mpr hle)

namespace LastUpTo

theorem filter_behind (h : LastUpTo target entries front p value behind) :
    (behind.filter fun e => !e.isBeyond target) = [] := by
  rw [List.filter_eq_nil_iff]
  intro e he
  simp [h.beyond e he]

theorem isBeyond_eq_false (h : LastUpTo target entries front p value behind) : p.isBeyond target = false := by
  rw [isBeyond_of_sortValue h.sortValue_eq]
  exact decide_eq_false (Int.not_lt.mpr h.le)

/-- An entry that does not start beyond the target is the last one up to the target or stands in front of it. -/
theorem eq_or_front (h : LastUpTo target entries front p value behind) {before after : List Entry}
    (hplaced : placed entries = before ++ e :: after) (he : e.isBeyond target = false) :
    (before = front ∧ e = p ∧ after = behind) ∨
      ∃ between, front = before ++ e :: between ∧ after = between ++ p :: behind := by
  have heq : before ++ e :: after = front ++ p :: behind := hplaced.symm.trans h.placed_eq
  rcases List.append_eq_append_iff.mp heq with ⟨between, hfront, hafter⟩ | ⟨between, hbefore, hbehind⟩
  · cases between with
    | nil =>
      cases hafter
      exact .inl ⟨by simpa using hfront.symm, rfl, rfl⟩
    | cons d between =>
      cases hafter
      exact .inr ⟨between, hfront, rfl⟩
  · cases between with
    | nil =>
      cases hbehind
      exact .inl ⟨by simpa using hbefore, rfl, rfl⟩
    | cons d between =>
      cases hbehind
      have hbeyond := h.beyond e (by simp)
      rw [he] at hbeyond
      cases hbeyond

/-- In front of the last entry up to the target, the nearest one alone is among the last, if that one reaches over. -/
theorem amongLast_iff (h : LastUpTo target entries front p value behind) (hasc : Ascending entries)
    {before between : List Entry} (hfront : front = before ++ e :: between) :
    AmongLast structs target (between ++ p :: behind) ↔ between = [] ∧ ReachesOver structs target p := by
  have hbetween : (between.filter fun e => !e.isBeyond target) = between := by
    rw [List.filter_eq_self]
    intro d hd
    have hmem : d ∈ front := by simp [hfront, hd]
    have hplaced : d ∈ placed entries := h.placed_eq ▸ List.mem_append_left _ hmem
    obtain ⟨start, hstart⟩ := Option.isSome_iff_exists.mp (isSome_of_mem_placed hplaced)
    have hle := h.le_of_mem_front hasc hmem hstart
    simpa [isBeyond_of_sortValue hstart] using hle
  have hfilter : ((between ++ p :: behind).filter fun e => !e.isBeyond target) = between ++ [p] := by
    rw [List.filter_append, hbetween, List.filter_cons, h.isBeyond_eq_false, h.filter_behind]
    rfl
  rw [AmongLast, hfilter]
  constructor
  · rintro (hnil | ⟨last, hlast, hover⟩)
    · simp at hnil
    · cases between with
      | nil =>
        cases hlast
        exact ⟨rfl, hover⟩
      | cons d between => simp at hlast
  · rintro ⟨rfl, hover⟩
    exact .inr ⟨p, rfl, hover⟩

end LastUpTo

/-- Where the entries are in ascending order, a search near a target keeps a run of them, and of those that have the
target in their reach it keeps the ones among the last and none in front. -/
theorem kept_of_reachesOver (hasc : Ascending entries) (hspans : ∀ e ∈ entries, ∃ length, Spans structs e length)
    (target : Int) :
    ∃ skipped kept rest, near structs target entries = .ok kept ∧ placed entries = skipped ++ kept ++ rest ∧
      ∀ before e after, placed entries = before ++ e :: after → ReachesOver structs target e →
        (AmongLast structs target after → e ∈ kept) ∧
          (¬ AmongLast structs target after → before.length < skipped.length) := by
  rcases beyond_or_exists_lastUpTo hasc target with h | ⟨front, p, value, behind, h⟩
  · refine ⟨[], (placed entries).head?.toList, (placed entries).tail, near_of_beyond h, ?_, ?_⟩
    · cases placed entries <;> rfl
    · intro before e after hplaced hover
      have hbeyond := h e (by simp [hplaced])
      rw [hover.isBeyond_eq_false] at hbeyond
      cases hbeyond
  · have hmem : p ∈ placed entries := by simp [h.placed_eq]
    obtain ⟨length, hlength⟩ := hspans p ((List.mem_filter.mp hmem).1)
    refine ⟨_, _, _, h.near_of_spans hasc hlength, h.placed_eq_run _, ?_⟩
    intro before e after hplaced hover
    rcases h.eq_or_front hplaced hover.isBeyond_eq_false with ⟨-, rfl, rfl⟩ | ⟨between, hfront, rfl⟩
    · exact ⟨fun _ => by simp, fun hlast => absurd (.inl h.filter_behind) hlast⟩
    · rw [h.amongLast_iff hasc hfront, reachesOver_iff h.sortValue_eq h.le hlength]
      constructor
      · rintro ⟨rfl, hlt⟩
        simp [hfront, hlt]
      · intro hnot
        split
        · next hlt =>
          have hne : between ≠ [] := fun hnil => hnot ⟨hnil, hlt⟩
          have hpos := List.length_pos_iff.mpr hne
          rw [hfront, List.length_dropLast, List.length_append, List.length_cons]
          omega
        · rw [hfront, List.length_append, List.length_cons]
          omega

theorem reachesOver_of_sortValue (hvalue : e.sortValue = some target) (hspans : Spans structs e length) :
    ReachesOver structs target e :=
  ⟨target, length, hvalue, hspans, Int.le_refl target, by omega⟩

/-- Behind an entry at the target, what does not start beyond it is at the target too. -/
theorem filter_after (hasc : Ascending entries) {before after : List Entry}
    (hplaced : placed entries = before ++ e :: after) (hvalue : e.sortValue = some target) :
    (after.filter fun e => !e.isBeyond target) = after.filter fun e => e.sortValue = some target := by
  have hpairs := hasc.pairwise_placed
  rw [hplaced] at hpairs
  have hafter := (List.pairwise_cons.mp (List.pairwise_append.mp hpairs).2.1).1
  apply List.filter_congr
  intro d hd
  have hmem : d ∈ placed entries := by simp [hplaced, hd]
  obtain ⟨start, hstart⟩ := Option.isSome_iff_exists.mp (isSome_of_mem_placed hmem)
  have hle := hafter d hd target hvalue start hstart
  rw [isBeyond_of_sortValue hstart, hstart, Bool.eq_iff_iff]
  simp only [Bool.not_eq_true', decide_eq_false_iff_not, decide_eq_true_eq, Option.some.injEq]
  omega

/-- Of two entries at the target each is among the last. -/
theorem amongLast_of_length_le (hasc : Ascending entries)
    (hspans : ∀ e ∈ entries, ∃ length, Spans structs e length) {before after : List Entry}
    (hplaced : placed entries = before ++ e :: after) (hvalue : e.sortValue = some target)
    (htwo : (entries.filter fun e => e.sortValue = some target).length ≤ 2) : AmongLast structs target after := by
  have hcount : (after.filter fun e => e.sortValue = some target).length ≤ 1 := by
    have hall : ((placed entries).filter fun e => e.sortValue = some target) =
        entries.filter fun e => e.sortValue = some target := by
      rw [placed, List.filter_filter]
      apply List.filter_congr
      intro d _
      cases d.sortValue <;> simp
    rw [← hall, hplaced, List.filter_append, List.filter_cons_of_pos (by simpa using hvalue), List.length_append,
      List.length_cons] at htwo
    omega
  rw [AmongLast, filter_after hasc hplaced hvalue]
  cases hlater : after.filter fun e => e.sortValue = some target with
  | nil => exact .inl rfl
  | cons last rest =>
    rw [hlater, List.length_cons] at hcount
    have hrest : rest = [] := List.eq_nil_of_length_eq_zero (by omega)
    have hlast : last ∈ after.filter fun e => e.sortValue = some target := hlater ▸ List.mem_cons_self
    obtain ⟨hmem, hstart⟩ := List.mem_filter.mp hlast
    have hentry : last ∈ placed entries := by simp [hplaced, hmem]
    obtain ⟨length, hlength⟩ := hspans last (List.mem_filter.mp hentry).1
    exact .inr ⟨last, by rw [hrest], reachesOver_of_sortValue (of_decide_eq_true hstart) hlength⟩

/-- A clause near a target keeps a run of ascending entries. Of those that have the target in their reach it keeps
the ones among the last, and the others stand in front of the run; if no more than two entries are at the target
itself, it keeps them all. -/
theorem apply_near_reachesOver {scope : Scope} (hasc : Ascending entries)
    (hspans : ∀ e ∈ entries, ∃ length, Spans scope.structs e length) (exclude : Bool) (numeral : String)
    (target : Int) :
    ∃ skipped kept rest, apply scope [⟨exclude, .address .near numeral target⟩] entries = .ok kept ∧
      placed entries = skipped ++ kept ++ rest ∧
      (∀ before e after, placed entries = before ++ e :: after → ReachesOver scope.structs target e →
        (AmongLast scope.structs target after → e ∈ kept) ∧
          (¬ AmongLast scope.structs target after → before.length < skipped.length)) ∧
      ((entries.filter fun e => e.sortValue = some target).length ≤ 2 →
        ∀ e ∈ entries, e.sortValue = some target → e ∈ kept) := by
  obtain ⟨skipped, kept, rest, hnear, hrun, hover⟩ := kept_of_reachesOver hasc hspans target
  refine ⟨skipped, kept, rest, ?_, hrun, hover, ?_⟩
  · have hkeep : keep scope ⟨exclude, .address .near numeral target⟩ entries =
        (near scope.structs target entries).mapError .struct := rfl
    rw [apply_cons, hkeep, hnear]
    rfl
  · intro htwo e he hvalue
    have hmem : e ∈ placed entries := List.mem_filter.mpr ⟨he, by rw [hvalue]; rfl⟩
    obtain ⟨before, after, hplaced⟩ := List.append_of_mem hmem
    obtain ⟨length, hlength⟩ := hspans e he
    have hlast := amongLast_of_length_le hasc hspans hplaced hvalue htwo
    exact (hover before e after hplaced (reachesOver_of_sortValue hvalue hlength)).1 hlast

theorem spans_aliases (structs : StructTable) : ∀ e ∈ aliases, ∃ length, Spans structs e length := by
  intro e he
  simp only [aliases, List.mem_cons, List.not_mem_nil, or_false] at he
  rcases he with rfl | rfl | rfl | rfl <;> exact ⟨1, spans_byteAt structs _ _⟩

def bareScope : Scope := ⟨.empty, .empty, ⟨false, false⟩⟩

/-- Of the three names of the byte the last two are kept. -/
theorem apply_near_reachesOver_aliases :
    ∃ kept, apply bareScope [⟨false, .address .near "10" 16⟩] aliases = .ok kept ∧ byteAt "mode" 16 ∈ kept ∧
      byteAt "phase" 16 ∈ kept := by
  obtain ⟨skipped, kept, rest, h, -, hover, -⟩ :=
    apply_near_reachesOver ascending_aliases (spans_aliases bareScope.structs) false "10" 16
  have hreaches : ∀ label, ReachesOver bareScope.structs 16 (byteAt label 16) := fun label =>
    reachesOver_of_sortValue rfl (spans_byteAt bareScope.structs label 16)
  have hmode := (hover [byteAt "state" 16] _ _ rfl (hreaches "mode")).1
    (.inr ⟨byteAt "phase" 16, by decide +kernel, hreaches "phase"⟩)
  have hphase := (hover [byteAt "state" 16, byteAt "mode" 16] _ _ rfl (hreaches "phase")).1 (.inl (by decide +kernel))
  exact ⟨kept, h, hmode, hphase⟩

/-- The first of three entries at the target itself is left out. -/
theorem not_forall_reachesOver_kept :
    ¬ ∀ (scope : Scope) (entries : List Entry) (numeral : String) (target : Int), Ascending entries →
      (∀ e ∈ entries, ∃ length, Spans scope.structs e length) →
        ∀ kept, apply scope [⟨false, .address .near numeral target⟩] entries = .ok kept →
          ∀ e ∈ entries, ReachesOver scope.structs target e → e ∈ kept := by
  intro hall
  have happly : apply bareScope [⟨false, .address .near "10" 16⟩] aliases =
      .ok [byteAt "mode" 16, byteAt "phase" 16, byteAt "timer" 24] := by
    decide +kernel
  have hmem := hall bareScope aliases "10" 16 ascending_aliases (spans_aliases .empty) _ happly (byteAt "state" 16)
    List.mem_cons_self (reachesOver_of_sortValue rfl (spans_byteAt .empty "state" 16))
  exact absurd hmem (by decide +kernel)

end MemoryAtlas.Search
