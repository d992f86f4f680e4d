import Mathlib.Algebra.Order.Ring.Int
import MemoryAtlas.Browser

/-!
Ways through tables. They are what a browser can drill down, and all rows on the way are members. The offsets of
these are added to the address of the data that is opened first; where there is no address, none is made up.
Where a way leads has nothing to do with addresses.
-/

namespace MemoryAtlas

variable {structs : StructTable} {enums : EnumTable} {parent : Option Int} {e : Entry} {x : Expansion}

theorem Expansion.ofVar_cases {v : Var} (h : ofVar structs enums v parent = some x) :
    (∃ name s, v.type.structRef = some name ∧ structs.find? name = some s ∧ x = ofStruct s parent) ∨
      ∃ name d, v.enum.scalar? = some name ∧ enums.find? name = some d ∧ x = ofEnum d parent := by
  unfold ofVar at h
  split at h
  · obtain ⟨s, hs, rfl⟩ := Option.map_eq_some_iff.mp h
    obtain ⟨name, hname, hfind⟩ := Option.bind_eq_some_iff.mp hs
    exact .inl ⟨name, s, hname, hfind, rfl⟩
  · obtain ⟨d, hd, rfl⟩ := Option.map_eq_some_iff.mp h
    obtain ⟨name, hname, hfind⟩ := Option.bind_eq_some_iff.mp hd
    exact .inr ⟨name, d, hname, hfind, rfl⟩

namespace Entry

/-- What opens is a struct or an enum, or a variable that refers to one of them; and the offsets in the table
behind it count from where it starts. -/
theorem expansion_cases (h : e.expansion structs enums parent = some x) :
    (∃ s, x = .ofStruct s (e.start parent) ∧
      (e = .struct s ∨
        ∃ v name, e.var? = some v ∧ v.type.structRef = some name ∧ structs.find? name = some s)) ∨
    ∃ d, x = .ofEnum d (e.start parent) ∧
      (e = .enum d ∨ ∃ v name, e.var? = some v ∧ v.enum.scalar? = some name ∧ enums.find? name = some d) := by
  cases e with
  | struct s =>
    cases h
    exact .inl ⟨s, rfl, .inl rfl⟩
  | enum d =>
    cases h
    exact .inr ⟨d, rfl, .inl rfl⟩
  | data d =>
    rcases Expansion.ofVar_cases h with ⟨name, s, hname, hfind, hx⟩ | ⟨name, en, hname, hfind, hx⟩
    · exact .inl ⟨s, hx, .inr ⟨d.toVar, name, rfl, hname, hfind⟩⟩
    · exact .inr ⟨en, hx, .inr ⟨d.toVar, name, rfl, hname, hfind⟩⟩
  | field f =>
    rcases Expansion.ofVar_cases h with ⟨name, s, hname, hfind, hx⟩ | ⟨name, en, hname, hfind, hx⟩
    · exact .inl ⟨s, hx, .inr ⟨f.toVar, name, rfl, hname, hfind⟩⟩
    · exact .inr ⟨en, hx, .inr ⟨f.toVar, name, rfl, hname, hfind⟩⟩
  | var v => cases h
  | code c => cases h
  | enumValue v => cases h

theorem parent_of_expansion (h : e.expansion structs enums parent = some x) : x.parent = e.start parent := by
  rcases expansion_cases h with ⟨s, rfl, -⟩ | ⟨d, rfl, -⟩ <;> rfl

/-- Only members open any further. -/
theorem exists_field_of_opens {inner : Entry} {path : List Entry} {y : Expansion}
    (h : e.expansion structs enums parent = some x) (hinner : inner ∈ x.entries)
    (hpath : Opens structs enums x.parent inner path y) : ∃ f, inner = .field f := by
  rcases expansion_cases h with ⟨s, rfl, -⟩ | ⟨d, rfl, -⟩
  · obtain ⟨f, -, rfl⟩ := List.mem_map.mp hinner
    exact ⟨f, rfl⟩
  · obtain ⟨value, -, rfl⟩ := List.mem_map.mp hinner
    cases hpath with
    | here hx => cases hx
    | further hx _ _ => cases hx

theorem exists_fields_of_opens {path : List Entry} (h : Opens structs enums parent e path x) :
    ∃ fields : List Field, path = fields.map .field := by
  induction h with
  | here hx => exact ⟨[], rfl⟩
  | further hx hinner hpath ih =>
    obtain ⟨f, rfl⟩ := exists_field_of_opens hx hinner hpath
    obtain ⟨fields, rfl⟩ := ih
    exact ⟨f :: fields, rfl⟩

/-! Addresses -/

theorem parent_of_opens {fields : List Field} (h : Opens structs enums parent e (fields.map .field) x) :
    x.parent = (e.start parent).map fun a => a + (fields.map Field.offset).sum := by
  induction fields generalizing parent e with
  | nil =>
    cases h with
    | here hx =>
      rw [parent_of_expansion hx]
      cases e.start parent <;> simp
  | cons f fields ih =>
    cases h with
    | further hx hinner hpath =>
      have hnext : (field f).start _ = (e.start parent).map (· + f.offset) :=
        congrArg (Option.map (· + f.offset)) (parent_of_expansion hx)
      rw [ih hpath, hnext, List.map_cons, List.sum_cons]
      cases e.start parent with
      | none => rfl
      | some a =>
        have hsum : a + f.offset + (fields.map Field.offset).sum =
            a + (f.offset + (fields.map Field.offset).sum) := by omega
        simp [hsum]

theorem lookup_filter_eq_none {tips : List (Column × String)} {c : Column} (h : tips.lookup c = none)
    (p : Column × String → Bool) : (tips.filter p).lookup c = none := by
  rw [List.lookup_eq_none_iff] at h ⊢
  exact fun tip htip => h tip (List.mem_filter.mp htip).1

theorem lookup_tooltips_offset (structs : StructTable) (parent : Option Int) (f : Field) :
    ((field f).tooltips structs parent).lookup .offset =
      parent.map fun a => "Address: " ++ Hex.write (a + f.offset) := by
  have hall : (f.toVar.tooltips structs).lookup .offset = none := by
    unfold Var.tooltips
    split <;> rfl
  rw [tooltips, allTooltips, List.filter_append, List.lookup_append, lookup_filter_eq_none hall, Option.none_or]
  cases parent with
  | none => rfl
  | some a => simp [Field.offsetTooltip]

theorem expansion_apart (structs : StructTable) (enums : EnumTable) (e : Entry) (parent other : Option Int) :
    (e.expansion structs enums parent).map (fun x => (x.kind, x.entries)) =
      (e.expansion structs enums other).map fun x => (x.kind, x.entries) := by
  have hvar : ∀ (v : Var) (a b : Option Int),
      (Expansion.ofVar structs enums v a).map (fun x => (x.kind, x.entries)) =
        (Expansion.ofVar structs enums v b).map fun x => (x.kind, x.entries) := by
    intro v a b
    unfold Expansion.ofVar
    split
    all_goals
      rw [Option.map_map, Option.map_map]
      rfl
  cases e with
  | data d => exact hvar d.toVar _ _
  | field f => exact hvar f.toVar _ _
  | struct s => rfl
  | enum d => rfl
  | var v => rfl
  | code c => rfl
  | enumValue v => rfl

/-- Behind data, the tables tell addresses: the offsets of the members that have been opened are added to the
address of the data. Behind a struct that stands for itself there are no addresses. Whether a row opens, and into
which rows of which kind, is the same for every address. -/
theorem addresses_of_opens (structs : StructTable) (enums : EnumTable) :
    (∀ (parent : Option Int) (d : Data) (fields : List Field) (x : Expansion),
      Opens structs enums parent (.data d) (fields.map .field) x →
        x.parent = some (d.addr + (fields.map Field.offset).sum) ∧
        ∀ g, .field g ∈ x.entries → ((field g).tooltips structs x.parent).lookup .offset =
          some ("Address: " ++ Hex.write (d.addr + (fields.map Field.offset).sum + g.offset))) ∧
    (∀ (parent : Option Int) (s : StructDef) (fields : List Field) (x : Expansion),
      Opens structs enums parent (.struct s) (fields.map .field) x →
        x.parent = none ∧
        ∀ g, .field g ∈ x.entries → ((field g).tooltips structs x.parent).lookup .offset = none) ∧
    ∀ (e : Entry) (parent other : Option Int),
      (e.expansion structs enums parent).map (fun x => (x.kind, x.entries)) =
        (e.expansion structs enums other).map fun x => (x.kind, x.entries) := by
  refine ⟨fun parent d fields x h => ?_, fun parent s fields x h => ?_, expansion_apart structs enums⟩
  · have hparent : x.parent = some (d.addr + (fields.map Field.offset).sum) := parent_of_opens h
    refine ⟨hparent, fun g _ => ?_⟩
    rw [lookup_tooltips_offset, hparent]
    rfl
  · have hparent : x.parent = none := parent_of_opens h
    refine ⟨hparent, fun g _ => ?_⟩
    rw [lookup_tooltips_offset, hparent]
    rfl

def member (label type : String) (offset : Int) : Field where
  label := .text label
  desc := .text ""
  notes := .null
  type := TypeDecl.parse type
  count := none
  category := none
  enum := .null
  offset := offset

def point : StructDef := ⟨⟨.text "Point", .text "", .null⟩, 4, [member "x" "u16" 0, member "y" "u16" 2]⟩

def sprite : StructDef :=
  ⟨⟨.text "Sprite", .text "", .null⟩, 16, [member "next" "Sprite *" 0, member "pos" "Point [2]" 8]⟩

def sprites : StructTable := Table.ofList (fun s => s.label.scalar?) [sprite, point]

/-- Three sprites in a row. -/
def slots : Data := { (member "slots" "Sprite" 0).toVar with count := some 3, addr := 0x3000100 }

/-- Into the positions of the first sprite. -/
theorem opens_slots : Opens sprites .empty none (.data slots) [.field (member "pos" "Point [2]" 8)]
    (.ofStruct point (some 0x3000108)) :=
  .further (x := .ofStruct sprite (some 0x3000100)) (by decide +kernel) (by decide +kernel)
    (.here (by decide +kernel))

theorem addresses_of_opens_sprite :
    Opens sprites .empty none (.data slots) [.field (member "pos" "Point [2]" 8)] (.ofStruct point (some 0x3000108)) ∧
      ((field (member "y" "u16" 2)).tooltips sprites (some 0x3000108)).lookup .offset =
        some "Address: 300010A" ∧
      Opens sprites .empty none (.struct sprite) [.field (member "pos" "Point [2]" 8)] (.ofStruct point none) ∧
      ((field (member "y" "u16" 2)).tooltips sprites none).lookup .offset = none := by
  obtain ⟨hdata, hstruct, -⟩ := addresses_of_opens sprites .empty
  have hsprite : Opens sprites .empty none (.struct sprite) ([member "pos" "Point [2]" 8].map .field)
      (.ofStruct point none) :=
    .further rfl (by decide +kernel) (.here (by decide +kernel))
  have hy : .field (member "y" "u16" 2) ∈ (Expansion.ofStruct point none).entries := by decide +kernel
  exact ⟨opens_slots, (hdata none slots [_] _ opens_slots).2 _ hy, hsprite, (hstruct _ _ _ _ hsprite).2 _ hy⟩

end Entry

namespace Browser

variable {b : Browser} {entries : List Entry}

theorem exists_rowAt? (h : e ∈ entries) : ∃ index, rowAt? entries index = some e := by
  obtain ⟨i, hi⟩ := List.mem_iff_getElem?.mp h
  exact ⟨i, by simpa [rowAt?] using hi⟩

theorem mem_of_rowAt? {index : Int} (h : rowAt? entries index = some e) : e ∈ entries := by
  unfold rowAt? at h
  split at h
  · cases h
  · exact List.mem_of_getElem? h

theorem exists_opens_of_mem_drill {indexes : List Int} (h : some x ∈ b.drill entries parent indexes) :
    ∃ e ∈ entries, ∃ path, Entry.Opens b.atlas.structs b.atlas.enums parent e path x := by
  induction indexes generalizing entries parent with
  | nil => cases h
  | cons index indexes ih =>
    unfold drill at h
    split at h
    · cases h
    · next e he =>
      have hmem := mem_of_rowAt? he
      split at h
      · cases h with
        | tail _ h => cases h
      · next first hfirst =>
        rcases List.mem_cons.mp h with heq | hbehind
        · cases heq
          exact ⟨e, hmem, [], .here hfirst⟩
        · obtain ⟨inner, hinner, path, hpath⟩ := ih hbehind
          exact ⟨e, hmem, inner :: path, .further hfirst hinner hpath⟩

theorem exists_mem_drill_of_opens {path : List Entry}
    (h : Entry.Opens b.atlas.structs b.atlas.enums parent e path x) (he : e ∈ entries) :
    ∃ indexes, some x ∈ b.drill entries parent indexes := by
  induction h generalizing entries with
  | here hx =>
    obtain ⟨index, hindex⟩ := exists_rowAt? he
    exact ⟨[index], by simp [drill, hindex, expansion, hx]⟩
  | further hx hinner _ ih =>
    obtain ⟨index, hindex⟩ := exists_rowAt? he
    obtain ⟨indexes, hmem⟩ := ih hinner
    exact ⟨index :: indexes, by simp [drill, hindex, expansion, hx, hmem]⟩

/-- A browser can drill down to the tables that the rows lead to, and to no others. -/
theorem exists_mem_drill_iff :
    (∃ indexes, some x ∈ b.drill entries parent indexes) ↔
      ∃ e ∈ entries, ∃ path, Entry.Opens b.atlas.structs b.atlas.enums parent e path x := by
  constructor
  · rintro ⟨indexes, h⟩
    exact exists_opens_of_mem_drill h
  · rintro ⟨e, he, path, h⟩
    exact exists_mem_drill_of_opens h he

end Browser

end MemoryAtlas
