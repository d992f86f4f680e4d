import MemoryAtlas.Proofs.Atlas.Regions
import MemoryAtlas.Proofs.Record.Variants
import Mathlib.Data.List.Forall2

/-!
The entries of a file in a region. They are the records that have an address there, converted one by one, in the
order of these addresses; entries at one address stay in the order of the file, and none is lost or doubled.
-/

namespace MemoryAtlas.Atlas

variable {files : Archive} {path map region : String} {r : Record} {rs : List Record} {e : Entry}
  {read entries others : List Entry}

/-! Order -/

/-- The entries of a list in ascending order, those at one address as they come in the list. -/
structure Sorts (read entries : List Entry) : Prop where
  perm : entries.Perm read
  addressed : ∀ e ∈ entries, e.sortValue.isSome
  ascending : Search.Ascending entries
  stable : ∀ addr : Int,
    (entries.filter fun e => e.sortValue = some addr) = read.filter fun e => e.sortValue = some addr

theorem sorts_mergeSort (h : ∀ e ∈ read, e.sortValue.isSome) : Sorts read (read.mergeSort ascending) where
  perm := List.mergeSort_perm read ascending
  addressed e he := h e (List.mem_mergeSort.mp he)
  ascending := ascending_mergeSort read
  stable addr := by
    have hat : ∀ e ∈ read.filter fun e => e.sortValue = some addr, e.rank = addr := by
      intro e he
      have hvalue := of_decide_eq_true (List.mem_filter.mp he).2
      rw [Entry.rank, hvalue, Option.getD_some]
    have hpairs : (read.filter fun e => e.sortValue = some addr).Pairwise fun a b => ascending a b = true := by
      apply List.pairwise_of_forall_mem_list
      intro a ha b hb
      exact decide_eq_true (Int.le_of_eq ((hat a ha).trans (hat b hb).symm))
    have hsublist := (List.sublist_mergeSort ascending_trans ascending_total hpairs List.filter_sublist).filter
      fun e => decide (e.sortValue = some addr)
    rw [List.filter_filter] at hsublist
    simp only [Bool.and_self] at hsublist
    exact (hsublist.eq_of_length ((List.mergeSort_perm read ascending).filter _).length_eq.symm).symm

theorem head_le (hasc : Search.Ascending (e :: entries)) {x y : Int} (hx : e.sortValue = some x) {d : Entry}
    (hd : d ∈ e :: entries) (hy : d.sortValue = some y) : x ≤ y := by
  rcases List.mem_cons.mp hd with rfl | hd
  · exact Int.le_of_eq (Option.some.inj (hx.symm.trans hy))
  · exact (List.pairwise_cons.mp (List.pairwise_filterMap.mp hasc)).1 d hd x hx y hy

theorem mem_of_stable {addr : Int}
    (hstable : (entries.filter fun e => e.sortValue = some addr) = others.filter fun e => e.sortValue = some addr)
    (he : e ∈ entries) (hvalue : e.sortValue = some addr) : e ∈ others := by
  have hmem : e ∈ entries.filter fun e => e.sortValue = some addr :=
    List.mem_filter.mpr ⟨he, decide_eq_true hvalue⟩
  rw [hstable] at hmem
  exact (List.mem_filter.mp hmem).1

/-- The order is told by the addresses and, at each address, by the order of the list. -/
theorem eq_of_stable (hentries : ∀ e ∈ entries, e.sortValue.isSome) (hothers : ∀ e ∈ others, e.sortValue.isSome)
    (hasc : Search.Ascending entries) (hasc' : Search.Ascending others)
    (hstable : ∀ addr : Int,
      (entries.filter fun e => e.sortValue = some addr) = others.filter fun e => e.sortValue = some addr) :
    entries = others := by
  induction entries generalizing others with
  | nil =>
    cases others with
    | nil => rfl
    | cons d others =>
      obtain ⟨y, hy⟩ := Option.isSome_iff_exists.mp (hothers d List.mem_cons_self)
      exact absurd (mem_of_stable (hstable y).symm List.mem_cons_self hy) List.not_mem_nil
  | cons e entries ih =>
    obtain ⟨x, hx⟩ := Option.isSome_iff_exists.mp (hentries e List.mem_cons_self)
    have he : e ∈ others := mem_of_stable (hstable x) List.mem_cons_self hx
    cases others with
    | nil => exact absurd he List.not_mem_nil
    | cons d others =>
      obtain ⟨y, hy⟩ := Option.isSome_iff_exists.mp (hothers d List.mem_cons_self)
      have hd : d ∈ e :: entries := mem_of_stable (hstable y).symm List.mem_cons_self hy
      have hxy : x = y := Int.le_antisymm (head_le hasc hx hd hy) (head_le hasc' hy he hx)
      subst hxy
      -- at the lowest address both lists begin with the same entry
      have hhead := hstable x
      simp only [List.filter_cons, hx, hy, decide_true, if_true] at hhead
      obtain rfl : e = d := (List.cons.inj hhead).1
      have hrest : ∀ addr : Int,
          (entries.filter fun e => e.sortValue = some addr) = others.filter fun e => e.sortValue = some addr := by
        intro addr
        have haddr := hstable addr
        rw [List.filter_cons, List.filter_cons] at haddr
        split at haddr
        · exact (List.cons.inj haddr).2
        · exact haddr
      rw [ih (fun a ha => hentries a (List.mem_cons_of_mem e ha)) (fun a ha => hothers a (List.mem_cons_of_mem e ha))
        (hasc.sublist (List.sublist_cons_self e entries)) (hasc'.sublist (List.sublist_cons_self e others)) hrest]

theorem Sorts.eq_mergeSort (h : Sorts read entries) : entries = read.mergeSort Atlas.ascending := by
  have hread := sorts_mergeSort fun e he => h.addressed e (h.perm.mem_iff.mpr he)
  exact eq_of_stable h.addressed hread.addressed h.ascending hread.ascending fun addr =>
    (h.stable addr).trans (hread.stable addr).symm

/-! Records one by one -/

/-- The record gives the entry in the region. -/
structure Yields (map region : String) (r : Record) (e : Entry) : Prop where
  complete : r.Complete region
  converts : convert map (r.seenFrom region) = .ok e

theorem readEntry_eq_some_iff : readEntry map region (.record r) = .ok (some e) ↔ Yields map region r e := by
  rw [readEntry_record]
  constructor
  · intro h
    obtain ⟨settled?, hsettled, h⟩ := Fallible.bind_eq_ok.mp h
    rw [Fallible.mapError_eq_ok] at hsettled
    cases settled? with
    | none => cases h
    | some settled =>
      obtain ⟨a, ha, heq⟩ := Fallible.map_eq_ok.mp h
      cases heq
      exact ⟨Record.complete_of_inRegion hsettled, convert_congr (Record.lookup_inRegion hsettled) ▸ ha⟩
  · intro h
    obtain ⟨settled, hsettled⟩ := h.complete.exists_inRegion
    rw [hsettled]
    change some <$> convert map settled = _
    rw [convert_congr (Record.lookup_inRegion hsettled), h.converts]
    rfl

theorem readEntry_eq_none_iff : readEntry map region (.record r) = .ok none ↔ r.lacksAddress region = true := by
  rw [readEntry_record, ← Record.inRegion_eq_none_iff]
  constructor
  · intro h
    obtain ⟨settled?, hsettled, h⟩ := Fallible.bind_eq_ok.mp h
    rw [Fallible.mapError_eq_ok] at hsettled
    cases settled? with
    | none => exact hsettled
    | some settled =>
      obtain ⟨a, -, heq⟩ := Fallible.map_eq_ok.mp h
      cases heq
  · intro h
    rw [h]
    rfl

/-- Reading goes through the records that have an address in the region. -/
theorem readAll_eq_ok_iff {index : Nat} : readAll path map region index (rs.map .record) = .ok read ↔
    List.Forall₂ (Yields map region) (rs.filter fun r => !r.lacksAddress region) read := by
  induction rs generalizing index read with
  | nil =>
    rw [List.map_nil, readAll, List.filter_nil, List.forall₂_nil_left_iff]
    exact ⟨fun h => (Except.ok.inj h).symm, fun h => congrArg Except.ok h.symm⟩
  | cons r rs ih =>
    rw [List.map_cons, readAll, List.filter_cons]
    cases hlacks : r.lacksAddress region with
    | true =>
      have hrest : readAll path map region (index + 1) (rs.map .record) = .ok read ↔ _ := ih
      rw [readEntry_eq_none_iff.mpr hlacks, if_neg (by simp), ← hrest]
      change (do return [] ++ (← readAll path map region (index + 1) (rs.map .record))) = _ ↔ _
      simp only [List.nil_append, bind_pure]
    | false =>
      rw [if_pos (by simp)]
      constructor
      · intro h
        obtain ⟨entry, hentry, h⟩ := Fallible.bind_eq_ok.mp h
        obtain ⟨rest, hrest, h⟩ := Fallible.bind_eq_ok.mp h
        cases h
        rw [Fallible.mapError_eq_ok] at hentry
        cases entry with
        | none =>
          rw [readEntry_eq_none_iff, hlacks] at hentry
          cases hentry
        | some e => exact .cons (readEntry_eq_some_iff.mp hentry) (ih.mp hrest)
      · intro h
        cases h with
        | cons hyields hrest =>
          rw [readEntry_eq_some_iff.mpr hyields]
          exact Fallible.bind_eq_ok.mpr ⟨_, rfl, Fallible.bind_eq_ok.mpr ⟨_, ih.mpr hrest, rfl⟩⟩

theorem Yields.addressed (h : Yields map region r e) : e.sortValue.isSome := by
  rcases (convert_eq_ok h.converts).2 with ⟨-, c, rfl⟩ | ⟨-, d, rfl⟩
  · rfl
  · rfl

theorem addressed_of_yields (h : List.Forall₂ (Yields map region) rs read) : ∀ e ∈ read, e.sortValue.isSome := by
  induction h with
  | nil => exact fun e he => absurd he List.not_mem_nil
  | cons hyields _ ih => exact List.forall_mem_cons.mpr ⟨hyields.addressed, ih⟩

/-- What is read from a list of records is the stable sort by address of the entries that the records with an address
in the region yield there, in the order of the file. -/
theorem readEntries_eq_ok_iff_sorts (h : records files path = .ok (rs.map .record)) (map region : String)
    (entries : List Entry) : readEntries files path map region = .ok entries ↔
      ∃ read, List.Forall₂ (Yields map region) (rs.filter fun r => !r.lacksAddress region) read ∧
        Sorts read entries := by
  rw [readEntries_of_records h, Fallible.map_eq_ok]
  constructor
  · rintro ⟨read, hread, rfl⟩
    rw [readAll_eq_ok_iff] at hread
    exact ⟨read, hread, sorts_mergeSort (addressed_of_yields hread)⟩
  · rintro ⟨read, hread, hsorts⟩
    exact ⟨read, readAll_eq_ok_iff.mpr hread, hsorts.eq_mergeSort.symm⟩

/-- Two records at each of two addresses, and one without an address in the western region. -/
def shared : List Record :=
  [[(.text "label", .text "timer"), (.text "addr", .record [(.text "U", .int 32), (.text "E", .int 8)]),
      (.text "type", .text "u8")],
    [(.text "addr", .record [(.text "E", .int 64)]), (.text "type", .int 5)],
    [(.text "label", .text "pos"), (.text "addr", .text "0x10"), (.text "type", .text "u16"),
      (.text "count", .record [(.text "U", .int 2)])],
    [(.text "label", .text "frame"), (.text "addr", .int 32), (.text "type", .text "u8")],
    [(.text "label", .text "speed"), (.text "addr", .record [(.text "U", .int 16)]), (.text "type", .text "s8")]]

def sharedEntry (label : String) (addr : Int) (type : Prim) (count : Option Int) : Entry :=
  .data {
    label := .text label, desc := .text "", notes := .null, type := ⟨.prim type, none⟩, count, category := none,
    enum := .null, addr }

/-- In the order of the file. -/
def sharedRead : List Entry :=
  [sharedEntry "timer" 32 .u8 none, sharedEntry "pos" 16 .u16 (some 2), sharedEntry "frame" 32 .u8 none,
    sharedEntry "speed" 16 .s8 none]

def sharedEntries : List Entry :=
  [sharedEntry "pos" 16 .u16 (some 2), sharedEntry "speed" 16 .s8 none, sharedEntry "timer" 32 .u8 none,
    sharedEntry "frame" 32 .u8 none]

theorem sorts_shared : Sorts sharedRead sharedEntries where
  perm := by decide +kernel
  addressed := by decide +kernel
  ascending := by
    unfold Search.Ascending
    decide +kernel
  stable addr := by
    have hvalue : ∀ label start type count, (sharedEntry label start type count).sortValue = some start :=
      fun _ _ _ _ => rfl
    simp only [sharedEntries, sharedRead, List.filter_cons, List.filter_nil, hvalue, Option.some.injEq]
    by_cases hlow : 16 = addr
    · simp [← hlow]
    · simp [hlow]

theorem readEntries_eq_ok_iff_sorts_shared :
    let files : Archive := [("ram.json", .document (.list (shared.map .record)))]
    records files "ram.json" = .ok (shared.map .record) ∧
      readEntries files "ram.json" "ram" "U" = .ok sharedEntries := by
  intro files
  have hfiles : records files "ram.json" = .ok (shared.map .record) := rfl
  have hread : readAll "ram.json" "ram" "U" 0 (shared.map .record) = .ok sharedRead := rfl
  exact ⟨hfiles, (readEntries_eq_ok_iff_sorts hfiles "ram" "U" sharedEntries).mpr
    ⟨sharedRead, readAll_eq_ok_iff.mp hread, sorts_shared⟩⟩

end MemoryAtlas.Atlas
