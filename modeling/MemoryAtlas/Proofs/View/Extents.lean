import MemoryAtlas.Proofs.Layout
import MemoryAtlas.Proofs.Table
import MemoryAtlas.Proofs.View.Paths

/-!
Where members lie. If all structs are large enough for their fields, the addresses that are shown behind data are
addresses in the data, on every way that opens no pointer. A pointer opens into the members of what it points to,
but their offsets count from the pointer itself, which is not where they are.
-/

namespace MemoryAtlas

namespace Layout

variable {structs : StructTable} {v : Var} {length size : Int} {f : Field}

/-- The field has a length and lies inside a struct of the size. -/
def FitsIn (structs : StructTable) (size : Int) (f : Field) : Prop :=
  ∃ length, totalLength structs f.toVar = .ok (some length) ∧ 1 ≤ length ∧ 0 ≤ f.offset ∧ f.offset + length ≤ size

instance : Decidable (FitsIn structs size f) :=
  match h : totalLength structs f.toVar with
  | .ok (some length) =>
    decidable_of_iff (1 ≤ length ∧ 0 ≤ f.offset ∧ f.offset + length ≤ size) (by simp [FitsIn, h])
  | .ok none => isFalse (by simp [FitsIn, h])
  | .error _ => isFalse (by simp [FitsIn, h])

/-- All fields of all structs fit in. -/
def Fitting (structs : StructTable) : Prop := ∀ s ∈ structs.definitions, ∀ f ∈ s.fields, FitsIn structs s.size f

instance : Decidable (Fitting structs) :=
  inferInstanceAs (Decidable (∀ s ∈ structs.definitions, ∀ f ∈ s.fields, FitsIn structs s.size f))

/-- The variable is no pointer and takes up so many bytes, at least one. -/
structure Occupies (structs : StructTable) (v : Var) (length : Int) : Prop where
  holds : v.type.isPointer = false
  total : totalLength structs v = .ok (some length)
  room : 0 < length

theorem specSize_of_structRef {t : TypeDecl} {name : Scalar} {s : StructDef} (hname : t.structRef = some name)
    (hfind : structs.find? name = some s) : specSize structs t.spec = .ok s.size := by
  obtain ⟨text, htext, rfl⟩ := Option.map_eq_some_iff.mp hname
  obtain ⟨hspec, -⟩ := Option.filter_eq_some_iff.mp htext
  cases hs : t.spec with
  | prim p =>
    rw [hs] at hspec
    cases hspec
  | struct other =>
    rw [hs] at hspec
    cases hspec
    rw [specSize, hfind]

/-- What holds a struct holds its fields. -/
theorem Fitting.fitsIn (h : Fitting structs) (hv : Occupies structs v length) {name : Scalar} {s : StructDef}
    (hname : v.type.structRef = some name) (hfind : structs.find? name = some s) (hf : f ∈ s.fields) :
    FitsIn structs length f := by
  obtain ⟨n, hn, hone, hoffset, hend⟩ := h s (Table.mem_definitions_of_find? hfind) f hf
  have hsize : specSize structs v.type.spec = .ok s.size := specSize_of_structRef hname hfind
  have hpos : 0 < s.size := by omega
  have hle : s.size ≤ length := specSize_le_totalLength hv.holds hsize hpos hv.total hv.room
  exact ⟨n, hn, hone, hoffset, by omega⟩

end Layout

namespace Entry

open Layout

variable {structs : StructTable} {enums : EnumTable} {parent : Option Int} {e : Entry} {v : Var} {a length : Int}
  {x : Expansion}

theorem fitsIn_of_expansion (h : Fitting structs) (he : e.var? = some v) (hv : Occupies structs v length)
    (hx : e.expansion structs enums parent = some x) {f : Field} (hf : .field f ∈ x.entries) :
    FitsIn structs length f := by
  rcases expansion_cases hx with ⟨s, rfl, hs⟩ | ⟨d, rfl, -⟩
  · obtain ⟨f, hmem, heq⟩ := List.mem_map.mp hf
    cases heq
    rcases hs with rfl | ⟨w, name, hw, hname, hfind⟩
    · cases he
    · obtain rfl : v = w := Option.some.inj (he.symm.trans hw)
      exact h.fitsIn hv hname hfind hmem
  · obtain ⟨value, -, heq⟩ := List.mem_map.mp hf
    cases heq

theorem start_of_expansion (hstart : e.start parent = some a) (hx : e.expansion structs enums parent = some x)
    (f : Field) : (field f).start x.parent = some (a + f.offset) := by
  rw [start, parent_of_expansion hx, hstart]
  rfl

/-- Each member that is opened on the way is the owner of those behind it. -/
theorem inside_of_fields (h : Fitting structs) {fields : List Field} (he : e.var? = some v)
    (hstart : e.start parent = some a) (hv : Occupies structs v length)
    (hfields : ∀ f ∈ fields, f.type.isPointer = false)
    (hopens : Opens structs enums parent e (fields.map .field) x) {g : Field} (hg : .field g ∈ x.entries) :
    ∃ b, (field g).start x.parent = some b ∧ a ≤ b ∧ b < a + length := by
  induction fields generalizing parent e v a length with
  | nil =>
    cases hopens with
    | here hx =>
      obtain ⟨n, -, hone, hoffset, hend⟩ := fitsIn_of_expansion h he hv hx hg
      exact ⟨a + g.offset, start_of_expansion hstart hx g, by omega, by omega⟩
  | cons f fields ih =>
    obtain ⟨hf, hrest⟩ := List.forall_mem_cons.mp hfields
    cases hopens with
    | further hx hinner hpath =>
      obtain ⟨n, hn, hone, hoffset, hend⟩ := fitsIn_of_expansion h he hv hx hinner
      have hoccupies : Occupies structs f.toVar n := ⟨hf, hn, by omega⟩
      obtain ⟨b, hb, hle, hlt⟩ := ih rfl (start_of_expansion hstart hx f) hoccupies hrest hpath
      exact ⟨b, hb, by omega, by omega⟩

/-- As long as no pointer is opened, every address that is shown behind data lies in the data. -/
theorem inside_of_opens (h : Fitting structs) {d : Data} (hlength : totalLength structs d.toVar = .ok (some length))
    (hroom : 0 < length) {path : List Entry} (hopens : Opens structs enums parent (.data d) path x)
    (hd : d.type.isPointer = false) (hpath : ∀ f, .field f ∈ path → f.type.isPointer = false) :
    ∀ g, .field g ∈ x.entries → ∃ b, (field g).start x.parent = some b ∧
      g.offsetTooltip x.parent = "Address: " ++ Hex.write b ∧ d.addr ≤ b ∧ b < d.addr + length := by
  intro g hg
  obtain ⟨fields, rfl⟩ := exists_fields_of_opens hopens
  have hfields : ∀ f ∈ fields, f.type.isPointer = false := fun f hf => hpath f (List.mem_map_of_mem hf)
  obtain ⟨b, hb, hle, hlt⟩ := inside_of_fields h rfl rfl ⟨hd, hlength, hroom⟩ hfields hopens hg
  obtain ⟨start, hstart, rfl⟩ := Option.map_eq_some_iff.mp hb
  exact ⟨_, hb, by rw [hstart]; rfl, hle, hlt⟩

theorem fitting_sprites : Fitting sprites := by
  decide +kernel

/-- The second coordinate of the first of three sprites. -/
theorem inside_of_opens_sprite :
    ∃ b, (field (member "y" "u16" 2)).start (some 0x3000108) = some b ∧ slots.addr ≤ b ∧ b < slots.addr + 48 := by
  have hpath : ∀ f, .field f ∈ [field (member "pos" "Point [2]" 8)] → f.type.isPointer = false := by
    intro f hf
    cases List.mem_singleton.mp hf
    rfl
  have hlength : totalLength sprites slots.toVar = .ok (some 48) := rfl
  obtain ⟨b, hb, -, hle, hlt⟩ := inside_of_opens fitting_sprites hlength (by decide) opens_slots rfl hpath
    (member "y" "u16" 2) (by decide +kernel)
  exact ⟨b, hb, hle, hlt⟩

/-- A pointer to a sprite. -/
def owner : Data := { (member "owner" "Sprite *" 0).toVar with addr := 0x3000100 }

/-- A pointer has four bytes, but the members behind it are shown with the addresses that they would have in a
sprite at its place. -/
theorem not_forall_inside :
    ¬ ∀ (structs : StructTable) (enums : EnumTable), Fitting structs →
      ∀ (d : Data) (length : Int), totalLength structs d.toVar = .ok (some length) → 0 < length →
        ∀ (path : List Entry) (x : Expansion), Opens structs enums none (.data d) path x →
          ∀ g, .field g ∈ x.entries → ∀ b, (field g).start x.parent = some b →
            d.addr ≤ b ∧ b < d.addr + length := by
  intro hall
  have hopens : Opens sprites .empty none (.data owner) [] (.ofStruct sprite (some 0x3000100)) :=
    .here (by decide +kernel)
  have hlength : totalLength sprites owner.toVar = .ok (some 4) := rfl
  have hlt := (hall sprites .empty fitting_sprites owner 4 hlength (by decide) [] _ hopens
    (member "pos" "Point [2]" 8) (by decide +kernel) 0x3000108 rfl).2
  exact absurd hlt (by decide)

end Entry

end MemoryAtlas
