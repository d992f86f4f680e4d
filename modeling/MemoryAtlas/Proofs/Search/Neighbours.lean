import MemoryAtlas.Proofs.Search.Window

/-!
What stands around an address. The window near a target is a run of the entries that have a sort value: the last
one up to the target, the first one beyond it and, if the former reaches over the target, the one in front of it.
-/

namespace MemoryAtlas

/-- The entry starts beyond the target. -/
def Entry.isBeyond (target : Int) (e : Entry) : Bool := e.sortValue.any (target < ·)

namespace Search

variable {structs : StructTable} {target value length : Int} {entries front behind kept : List Entry} {e p : Entry}

/-- How far an entry reaches: a function as far as its size, a variable as far as its total length or nowhere if
that cannot be told, and a value of an enum one number far. -/
inductive Spans (structs : StructTable) : Entry → Int → Prop
  | code (c : Code) : Spans structs (.code c) c.size
  | known {e : Entry} {v : Var} {length : Int} (hv : e.var? = some v)
      (htotal : Layout.totalLength structs v = .ok (some length)) : Spans structs e length
  | unknown {e : Entry} {v : Var} (hv : e.var? = some v)
      (htotal : Layout.totalLength structs v = .ok none) : Spans structs e 0
  | other {e : Entry} (hcode : ∀ c, e ≠ .code c) (hvar : e.var? = none) : Spans structs e 1

theorem entryLength_of_var? {v : Var} (hv : e.var? = some v) :
    entryLength structs e = (do return (← Layout.totalLength structs v).getD 0) := by
  cases e <;> cases hv <;> rfl

theorem entryLength_eq_ok_iff : entryLength structs e = .ok length ↔ Spans structs e length := by
  constructor
  · intro h
    unfold entryLength at h
    split at h
    · cases h
      exact .code _
    · next hcode =>
      split at h
      · next v hv =>
        obtain ⟨total, htotal, h⟩ := Fallible.bind_eq_ok.mp h
        cases h
        cases total with
        | none => exact .unknown hv htotal
        | some n => exact .known hv htotal
      · next hv =>
        cases h
        exact .other hcode hv
  · intro h
    cases h with
    | code c => rfl
    | known hv htotal =>
      rw [entryLength_of_var? hv, htotal]
      rfl
    | unknown hv htotal =>
      rw [entryLength_of_var? hv, htotal]
      rfl
    | other hcode hv =>
      cases e with
      | code c => exact absurd rfl (hcode c)
      | var v | data d | field f => cases hv
      | enumValue v | struct s | enum d => rfl

/-! The entries that have a sort value -/

def placed (entries : List Entry) : List Entry := entries.filter fun e => e.sortValue.isSome

theorem map_fst_valued_eq_placed (entries : List Entry) : (valued entries).map Prod.fst = placed entries := by
  induction entries with
  | nil => rfl
  | cons e entries ih =>
    simp only [valued, placed, List.filterMap_cons, List.filter_cons] at ih ⊢
    cases e.sortValue <;> simp [ih]

theorem valued_placed (entries : List Entry) : valued (placed entries) = valued entries := by
  rw [← map_fst_valued_eq_placed]
  exact valued_map_fst fun e he => (sortValue_of_mem_valued he).2

/-- The last of the entries up to the target, with those that have a sort value in front of it and behind. -/
structure LastUpTo (target : Int) (entries front : List Entry) (p : Entry) (value : Int) (behind : List Entry) :
    Prop where
  placed_eq : placed entries = front ++ p :: behind
  sortValue_eq : p.sortValue = some value
  le : value ≤ target
  beyond : ∀ e ∈ behind, e.isBeyond target = true

theorem isBeyond_of_sortValue (h : e.sortValue = some value) : e.isBeyond target = decide (target < value) := by
  rw [Entry.isBeyond, h, Option.any_some]

theorem lt_of_mem_valued {d : Entry × Int} (h : ∀ e ∈ entries, e.isBeyond target = true) (hd : d ∈ valued entries) :
    target < d.2 := by
  obtain ⟨hmem, hvalue⟩ := sortValue_of_mem_valued hd
  exact of_decide_eq_true ((isBeyond_of_sortValue hvalue).symm.trans (h d.1 hmem))

theorem isSome_of_mem_placed (h : e ∈ placed entries) : e.sortValue.isSome = true := (List.mem_filter.mp h).2

theorem Ascending.pairwise_placed (h : Ascending entries) :
    (placed entries).Pairwise fun a b => ∀ x, a.sortValue = some x → ∀ y, b.sortValue = some y → x ≤ y :=
  (List.pairwise_filterMap.mp h).sublist List.filter_sublist

namespace LastUpTo

theorem le_of_mem_front (h : LastUpTo target entries front p value behind) (hasc : Ascending entries)
    (he : e ∈ front) {start : Int} (hstart : e.sortValue = some start) : start ≤ target := by
  have hpairs := hasc.pairwise_placed
  rw [h.placed_eq] at hpairs
  have hle := (List.pairwise_append.mp hpairs).2.2 e he p List.mem_cons_self start hstart value h.sortValue_eq
  exact Int.le_trans hle h.le

theorem valued_eq (h : LastUpTo target entries front p value behind) :
    valued entries = (valued front ++ [(p, value)]) ++ valued behind := by
  rw [← valued_placed, h.placed_eq]
  simp [valued, h.sortValue_eq]

theorem map_fst_front (h : LastUpTo target entries front p value behind) : (valued front).map Prod.fst = front := by
  apply map_fst_valued
  intro e he
  exact isSome_of_mem_placed (h.placed_eq ▸ List.mem_append_left _ he)

theorem map_fst_behind (h : LastUpTo target entries front p value behind) :
    (valued behind).map Prod.fst = behind := by
  apply map_fst_valued
  intro e he
  exact isSome_of_mem_placed (h.placed_eq ▸ List.mem_append_right _ (List.mem_cons_of_mem p he))

/-- The first entry beyond the target comes next. -/
theorem find?_isBeyond (h : LastUpTo target entries front p value behind) (hasc : Ascending entries) :
    (placed entries).find? (Entry.isBeyond target) = behind.head? := by
  have hfront : front.find? (Entry.isBeyond target) = none := by
    rw [List.find?_eq_none]
    intro e he
    have hmem : e ∈ placed entries := h.placed_eq ▸ List.mem_append_left _ he
    obtain ⟨start, hstart⟩ := Option.isSome_iff_exists.mp (isSome_of_mem_placed hmem)
    have hle := h.le_of_mem_front hasc he hstart
    simpa [isBeyond_of_sortValue hstart] using hle
  have hp : p.isBeyond target = false := by simpa [isBeyond_of_sortValue h.sortValue_eq] using h.le
  rw [h.placed_eq, List.find?_append, hfront, Option.none_or, List.find?_cons, hp]
  cases hbehind : behind with
  | nil => rfl
  | cons next rest =>
    exact List.find?_cons_of_pos (h.beyond next (hbehind ▸ List.mem_cons_self))

/-- The search near the target fails only if it is not known how far the last entry up to the target reaches. -/
theorem near_eq (h : LastUpTo target entries front p value behind) (hasc : Ascending entries) :
    near structs target entries = (do
      let covered ← covers structs target p value
      return (if covered then front.getLast?.toList else []) ++ p :: behind.head?.toList) := by
  have hle : ∀ d ∈ valued front ++ [(p, value)], d.2 ≤ target := by
    intro d hd
    rcases List.mem_append.mp hd with hd | hd
    · obtain ⟨hmem, hvalue⟩ := sortValue_of_mem_valued hd
      exact h.le_of_mem_front hasc hmem hvalue
    · rw [List.mem_singleton.mp hd]
      exact h.le
  have hprevious : ((valued front).reverse.take 1).map Prod.fst = front.getLast?.toList := by
    rw [List.map_take, List.map_reverse, h.map_fst_front, List.take_one, List.head?_reverse]
  have hnext : ((valued behind).take 1).map Prod.fst = behind.head?.toList := by
    rw [List.map_take, h.map_fst_behind, List.take_one]
  rw [near_of_valued h.valued_eq hle fun d hd => lt_of_mem_valued h.beyond hd, window, List.reverse_append,
    List.reverse_singleton, List.singleton_append]
  dsimp only
  cases covers structs target p value with
  | error fault => rfl
  | ok covered =>
    cases covered with
    | false => exact congrArg Except.ok (by rw [hnext]; rfl)
    | true => exact congrArg Except.ok (by rw [hnext, hprevious]; simp)

end LastUpTo

/-- Without an entry up to the target the first of all is next. -/
theorem near_of_beyond (h : ∀ e ∈ placed entries, e.isBeyond target = true) :
    near structs target entries = .ok (placed entries).head?.toList := by
  have hlt : ∀ d ∈ valued entries, target < d.2 := fun d hd =>
    lt_of_mem_valued h (valued_placed entries ▸ hd)
  rw [near_of_valued (List.nil_append _).symm (by simp) hlt, ← map_fst_valued_eq_placed, ← List.take_one,
    ← List.map_take]
  rfl

theorem beyond_or_exists_lastUpTo (hasc : Ascending entries) (target : Int) :
    (∀ e ∈ placed entries, e.isBeyond target = true) ∨
      ∃ front p value behind, LastUpTo target entries front p value behind := by
  obtain ⟨hle, hlt⟩ := passes_once hasc target
  have hsplit := List.takeWhile_append_dropWhile (p := fun e => decide (e.2 ≤ target)) (l := valued entries)
  generalize (valued entries).takeWhile (fun e => decide (e.2 ≤ target)) = upTo at hle hsplit
  generalize (valued entries).dropWhile (fun e => decide (e.2 ≤ target)) = beyond at hlt hsplit
  have hbeyond : ∀ e ∈ beyond.map Prod.fst, e.isBeyond target = true := by
    intro e he
    obtain ⟨d, hd, rfl⟩ := List.mem_map.mp he
    have hvalue := (sortValue_of_mem_valued (hsplit ▸ List.mem_append_right upTo hd)).2
    rw [isBeyond_of_sortValue hvalue]
    exact decide_eq_true (hlt d hd)
  rcases List.eq_nil_or_concat upTo with rfl | ⟨others, last, rfl⟩
  · left
    rwa [← map_fst_valued_eq_placed, ← hsplit]
  · right
    refine ⟨others.map Prod.fst, last.1, last.2, beyond.map Prod.fst, ?_, ?_, hle last (by simp), hbeyond⟩
    · rw [← map_fst_valued_eq_placed, ← hsplit]
      simp
    · have hlast : last ∈ valued entries := by
        rw [← hsplit]
        simp
      exact (sortValue_of_mem_valued hlast).2

/-! The window as a run -/

/-- The entry has the target in its reach; an entry of no length has its own start in it. -/
def ReachesOver (structs : StructTable) (target : Int) (e : Entry) : Prop :=
  ∃ value length, e.sortValue = some value ∧ Spans structs e length ∧ value ≤ target ∧ target < value + max length 1

theorem covers_eq (hle : value ≤ target) (hspans : Spans structs e length) :
    covers structs target e value = .ok (decide (target < value + max length 1)) := by
  rw [covers, entryLength_eq_ok_iff.mpr hspans]
  change Except.ok _ = _
  rw [decide_eq_true hle, Bool.true_and]

theorem exists_spans_of_covers {covered : Bool} (h : covers structs target e value = .ok covered) :
    ∃ length, Spans structs e length := by
  obtain ⟨length, hlength, -⟩ := Fallible.bind_eq_ok.mp h
  exact ⟨length, entryLength_eq_ok_iff.mp hlength⟩

theorem Spans.unique {other : Int} (h : Spans structs e length) (ho : Spans structs e other) : length = other :=
  Except.ok.inj ((entryLength_eq_ok_iff.mpr h).symm.trans (entryLength_eq_ok_iff.mpr ho))

theorem reachesOver_iff (hvalue : e.sortValue = some value) (hle : value ≤ target) (hspans : Spans structs e length) :
    ReachesOver structs target e ↔ target < value + max length 1 := by
  constructor
  · rintro ⟨start, other, hstart, hother, -, hlt⟩
    obtain rfl : value = start := Option.some.inj (hvalue.symm.trans hstart)
    obtain rfl := hspans.unique hother
    exact hlt
  · intro hlt
    exact ⟨value, length, hvalue, hspans, hle, hlt⟩

namespace LastUpTo

theorem near_of_spans (h : LastUpTo target entries front p value behind) (hasc : Ascending entries)
    (hspans : Spans structs p length) :
    near structs target entries = .ok
      ((if target < value + max length 1 then front.getLast?.toList else []) ++ p :: behind.head?.toList) := by
  rw [h.near_eq hasc, covers_eq h.le hspans]
  change Except.ok _ = _
  simp only [decide_eq_true_eq]

/-- What is left out stands in front of the window and behind it. -/
theorem placed_eq_run (h : LastUpTo target entries front p value behind) (covered : Prop) [Decidable covered] :
    placed entries = (if covered then front.dropLast else front) ++
      ((if covered then front.getLast?.toList else []) ++ p :: behind.head?.toList) ++ behind.tail := by
  have hfront : front = (if covered then front.dropLast else front) ++
      (if covered then front.getLast?.toList else []) := by
    split
    · rcases List.eq_nil_or_concat front with rfl | ⟨others, last, rfl⟩ <;> simp
    · simp
  have hbehind : behind = behind.head?.toList ++ behind.tail := by
    cases behind <;> rfl
  calc
    placed entries = front ++ p :: behind := h.placed_eq
    _ = ((if covered then front.dropLast else front) ++ (if covered then front.getLast?.toList else [])) ++
        p :: (behind.head?.toList ++ behind.tail) := by rw [← hfront, ← hbehind]
    _ = _ := by simp only [List.append_assoc, List.cons_append]

end LastUpTo

/-- Of entries in ascending order a search near a target keeps a run: the last one up to the target, the first one
beyond it, and the one in front of the former if that reaches over the target. It keeps nothing only if no entry has
a sort value. -/
theorem near_eq_run (hasc : Ascending entries) (structs : StructTable) (target : Int) :
    (∀ front p value behind length, LastUpTo target entries front p value behind → Spans structs p length →
      near structs target entries = .ok
        ((if target < value + max length 1 then front.getLast?.toList else []) ++
          p :: ((placed entries).find? (Entry.isBeyond target)).toList)) ∧
    ((∀ e ∈ placed entries, e.isBeyond target = true) →
      near structs target entries = .ok ((placed entries).find? (Entry.isBeyond target)).toList) ∧
    ∀ kept, near structs target entries = .ok kept → kept <:+: placed entries ∧ (kept = [] ↔ placed entries = []) := by
  refine ⟨?_, ?_, ?_⟩
  · intro front p value behind length h hspans
    rw [h.find?_isBeyond hasc]
    exact h.near_of_spans hasc hspans
  · intro h
    have hnext : (placed entries).find? (Entry.isBeyond target) = (placed entries).head? := by
      rw [← List.head?_filter, List.filter_eq_self.mpr h]
    rw [hnext, near_of_beyond h]
  · intro kept hkept
    rcases beyond_or_exists_lastUpTo hasc target with h | ⟨front, p, value, behind, h⟩
    · rw [near_of_beyond h] at hkept
      cases hkept
      cases placed entries with
      | nil => simp
      | cons first rest => exact ⟨⟨[], rest, rfl⟩, by simp⟩
    · have hcovers := hkept
      rw [h.near_eq hasc] at hcovers
      obtain ⟨covered, hcovers, -⟩ := Fallible.bind_eq_ok.mp hcovers
      obtain ⟨length, hspans⟩ := exists_spans_of_covers hcovers
      rw [h.near_of_spans hasc hspans] at hkept
      cases hkept
      refine ⟨⟨_, _, (h.placed_eq_run _).symm⟩, ?_⟩
      rw [h.placed_eq]
      simp

/-- A byte with a name. -/
def byteAt (label : String) (addr : Int) : Entry :=
  .data {
    label := .text label, desc := .text "", notes := .null, type := ⟨.prim .u8, none⟩, count := none,
    category := none, enum := .null, addr }

/-- Three names of one byte, and another byte behind. -/
def aliases : List Entry := [byteAt "state" 16, byteAt "mode" 16, byteAt "phase" 16, byteAt "timer" 24]

theorem ascending_aliases : Ascending aliases := by
  unfold Ascending
  decide +kernel

theorem spans_byteAt (structs : StructTable) (label : String) (addr : Int) : Spans structs (byteAt label addr) 1 :=
  .known rfl rfl

theorem lastUpTo_aliases : LastUpTo 16 aliases [byteAt "state" 16, byteAt "mode" 16] (byteAt "phase" 16) 16
    [byteAt "timer" 24] where
  placed_eq := rfl
  sortValue_eq := rfl
  le := by decide
  beyond := by decide +kernel

theorem near_eq_run_aliases :
    near .empty 16 aliases = .ok [byteAt "mode" 16, byteAt "phase" 16, byteAt "timer" 24] :=
  (near_eq_run ascending_aliases .empty 16).1 _ _ _ _ _ lastUpTo_aliases (spans_byteAt .empty "phase" 16)

end Search

end MemoryAtlas
