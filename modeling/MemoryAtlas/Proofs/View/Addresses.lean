import MemoryAtlas.Proofs.Search.Comparison
import MemoryAtlas.View.Row

/-!
The address that a row shows, as a query. Entries are compared by their addresses as they are, but the address in a
query is counted from the start of the cartridge if it lies there. So a row in front of the cartridge is found by
what its cell shows, with all others at its address; a row in the cartridge is not.
-/

namespace MemoryAtlas

/-- Data and functions lie at an address. -/
inductive Entry.LiesAt : Entry → Int → Prop
  | data (d : Data) : LiesAt (.data d) d.addr
  | code (c : Code) : LiesAt (.code c) c.addr

namespace Entry.LiesAt

variable {e : Entry} {a : Int}

theorem sortValue_eq (h : e.LiesAt a) : e.sortValue = some a := by
  cases h <;> rfl

theorem cell?_addr (h : e.LiesAt a) (structs : StructTable) : e.cell? structs .addr = some (.text (Hex.write a)) := by
  cases h <;> rfl

end Entry.LiesAt

theorem Hex.spells_write (n : Nat) : Spells (write n).toList n := by
  rw [toList_write, ← List.nil_append (chars n)]
  exact spells_append_chars (by decide) n

namespace Search

variable {scope : Scope} {entries kept : List Entry} {e : Entry} {a : Int}

theorem finds_write_iff (n : Nat) :
    Finds scope ("=" ++ Hex.write n) entries kept ↔
      kept = entries.filter fun x => x.sortValue = some (Query.normalize n : Int) := by
  have hanswers : answers (fun v n => v = n) (Query.normalize n) false =
      fun x => decide (x.sortValue = some (Query.normalize n : Int)) := by
    funext x
    unfold answers
    cases x.sortValue <;> simp
  rw [← hanswers]
  exact Relates.equal.finds_iff (Hex.spells_write n) false

/-- What the address cell of an entry shows finds the entries at its address, the entry among them, if this is in
front of the cartridge. An address in the cartridge finds the entries where it would be without the cartridge in
front, and never the entry itself. -/
theorem finds_shown_address (scope : Scope) (structs : StructTable) (h : e.LiesAt a) (ha : 0 ≤ a) (he : e ∈ entries) :
    ∃ shown kept, e.cell? structs .addr = some (.text shown) ∧
      (∀ found, Finds scope ("=" ++ shown) entries found ↔ found = kept) ∧
      (a < 0x8000000 → e ∈ kept ∧ kept = entries.filter fun x => x.sortValue = some a) ∧
      (0x8000000 ≤ a → e ∉ kept ∧ kept = entries.filter fun x => x.sortValue = some (a - 0x8000000)) := by
  obtain ⟨n, rfl⟩ := Int.eq_ofNat_of_zero_le ha
  have hvalue := normalize_eq n
  refine ⟨Hex.write n, entries.filter fun x => x.sortValue = some (Query.normalize n : Int), h.cell?_addr structs,
    fun found => finds_write_iff n, fun hlt => ?_, fun hle => ?_⟩
  · rw [if_neg (by omega)] at hvalue
    rw [hvalue]
    exact ⟨List.mem_filter.mpr ⟨he, by simp [h.sortValue_eq]⟩, rfl⟩
  · rw [if_pos (by omega)] at hvalue
    rw [hvalue]
    refine ⟨fun hmem => ?_, rfl⟩
    have hsame : e.sortValue = some ((n : Int) - 0x8000000) := by simpa using (List.mem_filter.mp hmem).2
    rw [h.sortValue_eq, Option.some.injEq] at hsame
    omega

/-- The address of the function leads to the data as well. -/
theorem finds_shown_address_cartridge :
    Finds Scope.ring "=100" [routine, slot, table] [table] ∧
      Finds Scope.ring "=8000100" [routine, slot, table] [table] := by
  have hroutine : routine.LiesAt 0x8000100 := .code _
  have htable : table.LiesAt 0x100 := .data _
  have hfirst : routine ∈ [routine, slot, table] := List.mem_cons_self
  have hlast : table ∈ [routine, slot, table] := List.mem_of_getLast? rfl
  constructor
  · obtain ⟨shown, kept, hcell, hfinds, hfront, -⟩ :=
      finds_shown_address Scope.ring .empty htable (by decide) hlast
    cases hcell
    refine (hfinds _).mpr ?_
    rw [(hfront (by decide)).2]
    decide +kernel
  · obtain ⟨shown, kept, hcell, hfinds, -, hinside⟩ :=
      finds_shown_address Scope.ring .empty hroutine (by decide) hfirst
    cases hcell
    refine (hfinds _).mpr ?_
    rw [(hinside (by decide)).2]
    decide +kernel

/-- A function in the cartridge is not found by the address that its row shows. -/
theorem not_forall_finds_shown_address :
    ¬ ∀ (scope : Scope) (structs : StructTable) (entries : List Entry) (e : Entry) (a : Int), e.LiesAt a → 0 ≤ a →
      e ∈ entries → ∀ shown, e.cell? structs .addr = some (.text shown) →
        ∃ kept, Finds scope ("=" ++ shown) entries kept ∧ e ∈ kept ∧
          kept = entries.filter fun x => x.sortValue = some a := by
  intro hall
  have hat : routine.LiesAt 0x8000100 := .code _
  obtain ⟨kept, hfinds, hmem, -⟩ := hall Scope.ring .empty [routine] routine 0x8000100 hat (by decide)
    List.mem_cons_self (Hex.write 0x8000100) (hat.cell?_addr .empty)
  rw [(finds_write_iff 0x8000100).mp hfinds] at hmem
  exact absurd hmem (by decide +kernel)

end Search

end MemoryAtlas
