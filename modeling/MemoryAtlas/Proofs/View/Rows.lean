import MemoryAtlas.Proofs.Atlas.Descriptions
import MemoryAtlas.Proofs.Layout
import MemoryAtlas.Proofs.Query.Reading
import MemoryAtlas.Proofs.View.Paths

/-!
The rows that can come on view of an atlas. What a row needs for its cells is there for the entries, and
opening rows leads to rows of which the same is true; so an atlas that has been loaded can be shown as well
as searched.
-/

namespace MemoryAtlas

namespace Layout

variable {structs : StructTable} {v : Var}

theorem lengthText_eq_questionMark_iff (h : References.undefinedStruct? structs v = none) :
    lengthText structs v = "?" ↔ ∃ word ∈ Text.wordRuns v.type.inner, ¬ Hex.IsNumeral word := by
  obtain ⟨length, hlength⟩ := exists_totalLength h
  rw [← dims_eq_none_iff, ← totalLength_eq_none_iff structs, lengthText, hlength]
  cases length with
  | none => simp [sizeText]
  | some n => simp [sizeText, Hex.write_ne_questionMark]

end Layout

theorem Entry.cell?_length (structs : StructTable) (e : Entry) :
    e.cell? structs .length =
      match e with
      | .code c => some (.text (Hex.write c.size))
      | e => e.var?.map fun v => .text (Layout.lengthText structs v) := by
  cases e <;> rfl

namespace Atlas

variable {files : Archive} {root : String} {s : Selection} {atlas : Atlas} {parent : Option Int} {e : Entry}

/-- The rows that can come on view, with the address that offsets in their table count from: the entries, and
what rows open into. -/
inductive Shows (atlas : Atlas) : Option Int → Entry → Prop
  | entry {e : Entry} (h : e ∈ atlas.entries) : Shows atlas none e
  | opened {parent : Option Int} {e inner : Entry} {x : Expansion} (h : Shows atlas parent e)
      (hx : e.expansion atlas.structs atlas.enums parent = some x) (hinner : inner ∈ x.entries) :
      Shows atlas x.parent inner

/-- The atlas has what the row refers to, and the row itself if it is a struct. -/
structure Supports (atlas : Atlas) (e : Entry) : Prop where
  typed : ∀ v ∈ References.typedVars e, References.undefinedStruct? atlas.structs v = none
  listed : ∀ defn, e = .struct defn → defn ∈ atlas.structs.definitions

theorem Sound.supports_entry (h : atlas.Sound) (he : e ∈ atlas.entries) : atlas.Supports e where
  typed _ hv := h.defined_entry he hv
  listed defn hdef := h.listed defn (hdef ▸ he)

theorem Sound.supports_field (h : atlas.Sound) {defn : StructDef} (hdef : defn ∈ atlas.structs.definitions)
    {f : Field} (hf : f ∈ defn.fields) : atlas.Supports (.field f) where
  typed v hv := by
    obtain rfl : v = f.toVar := List.mem_singleton.mp hv
    exact h.defined_field hdef hf
  listed _ hs := by cases hs

theorem supports_enumValue (atlas : Atlas) (v : EnumValue) : atlas.Supports (.enumValue v) where
  typed _ hv := absurd hv List.not_mem_nil
  listed _ hs := by cases hs

theorem Sound.supports_ofStruct (h : atlas.Sound) {defn : StructDef}
    (hdef : defn ∈ atlas.structs.definitions) (parent : Option Int) :
    ∀ inner ∈ (Expansion.ofStruct defn parent).entries, atlas.Supports inner := by
  intro inner hinner
  obtain ⟨f, hf, rfl⟩ := List.mem_map.mp hinner
  exact h.supports_field hdef hf

theorem supports_ofEnum (atlas : Atlas) (d : EnumDef) (parent : Option Int) :
    ∀ inner ∈ (Expansion.ofEnum d parent).entries, atlas.Supports inner := by
  intro inner hinner
  obtain ⟨v, -, rfl⟩ := List.mem_map.mp hinner
  exact supports_enumValue atlas v

theorem Supports.mem_definitions (h : atlas.Supports e) {defn : StructDef}
    (hown : e = .struct defn ∨
      ∃ v name, e.var? = some v ∧ v.type.structRef = some name ∧ atlas.structs.find? name = some defn) :
    defn ∈ atlas.structs.definitions := by
  rcases hown with rfl | ⟨v, name, -, -, hfind⟩
  · exact h.listed defn rfl
  · exact Table.mem_definitions_of_find? hfind

theorem Sound.supports_expansion (h : atlas.Sound) (he : atlas.Supports e) {x : Expansion}
    (hx : e.expansion atlas.structs atlas.enums parent = some x) : ∀ inner ∈ x.entries, atlas.Supports inner := by
  rcases Entry.expansion_cases hx with ⟨defn, rfl, hown⟩ | ⟨d, rfl, -⟩
  · exact h.supports_ofStruct (he.mem_definitions hown) (e.start parent)
  · exact supports_ofEnum atlas d (e.start parent)

theorem Sound.supports_of_shows (h : atlas.Sound) (hshows : atlas.Shows parent e) : atlas.Supports e := by
  induction hshows with
  | entry he => exact h.supports_entry he
  | opened _ hx hinner ih => exact h.supports_expansion ih hx _ hinner

theorem Supports.length_eq_questionMark_iff (h : atlas.Supports e) :
    e.cell? atlas.structs .length = some (.text "?") ↔
      ∃ v, e.var? = some v ∧ ∃ word ∈ Text.wordRuns v.type.inner, ¬ Hex.IsNumeral word := by
  have hvar : ∀ v, e.var? = some v → (Layout.lengthText atlas.structs v = "?" ↔
      ∃ word ∈ Text.wordRuns v.type.inner, ¬ Hex.IsNumeral word) :=
    fun v hv => Layout.lengthText_eq_questionMark_iff (h.typed v (mem_typedVars_of_var? hv))
  rw [Entry.cell?_length]
  cases e with
  | code c => simp [Entry.var?, Hex.write_ne_questionMark]
  | var v => simpa [Entry.var?] using hvar v rfl
  | data d => simpa [Entry.var?] using hvar d.toVar rfl
  | field f => simpa [Entry.var?] using hvar f.toVar rfl
  | enumValue v => simp [Entry.var?]
  | struct defn => simp [Entry.var?]
  | enum d => simp [Entry.var?]

/-- An atlas that has been loaded from files that describe things by texts can be searched with every query
that can be read. All sizes that its rows ask for are defined, of the rows behind rows too, and a length is
unknown only if there is a dimension that is no numeral. -/
theorem usable_of_load (hfiles : files.isDescribed = true) (h : (load files root s).result = .ok atlas) :
    (∀ text clauses options, Query.parse text = .ok clauses →
      ∃ kept, Search.apply (atlas.scope options) clauses atlas.entries = .ok kept) ∧
    ∀ parent e, atlas.Shows parent e →
      (∀ v ∈ References.typedVars e,
        (∃ size, Layout.specSize atlas.structs v.type.spec = .ok size) ∧
        (∃ size, Layout.itemSize atlas.structs v.type = .ok size) ∧
        (∃ length, Layout.totalLength atlas.structs v = .ok length) ∧
        ∃ tip, Layout.lengthTooltip atlas.structs v = .ok tip) ∧
      (e.cell? atlas.structs .length = some (.text "?") ↔
        ∃ v, e.var? = some v ∧ ∃ word ∈ Text.wordRuns v.type.inner, ¬ Hex.IsNumeral word) := by
  have hsound := sound_of_load h
  refine ⟨fun text clauses options hparse => ?_, fun parent e hshows => ?_⟩
  · exact exists_apply hsound (legible_of_load hfiles h) options (Query.isFinal_of_parse hparse)
  · have hsupports := hsound.supports_of_shows hshows
    refine ⟨fun v hv => ?_, hsupports.length_eq_questionMark_iff⟩
    have hdefined := hsupports.typed v hv
    exact ⟨Layout.exists_specSize hdefined, Layout.exists_itemSize hdefined, Layout.exists_totalLength hdefined,
      Layout.exists_lengthTooltip hdefined⟩

/-- A struct that refers to itself, with a member of unknown length that has an enum. -/
def chain : Archive :=
  [("maps/mf/enums.json", .document (.list [.record [
      (.text "label", .text "Mode"), (.text "vals", .list [.record [
        (.text "val", .int 1), (.text "desc", .text "Morph ball")]])]])),
    ("maps/mf/structs.json", .document (.list [.record [
      (.text "label", .text "Node"), (.text "size", .int 8), (.text "vars", .list [
        .record [(.text "offset", .int 4), (.text "type", .text "Node *"), (.text "desc", .null)],
        .record [(.text "offset", .int 0), (.text "type", .text "u8 [size]"), (.text "enum", .text "Mode")]])]])),
    ("maps/mf/ram.json", .document (.list [.record [
      (.text "addr", .record [(.text "U", .int 16), (.text "E", .int 32)]), (.text "type", .text "Node")]]))]

/-- The member is reached by way of the other one, and found by way of its enum. -/
theorem usable_of_load_chain :
    ∃ atlas, chain.isDescribed = true ∧ (load chain "maps" ⟨"mf", "ram", "U"⟩).result = .ok atlas ∧
      (∃ clauses kept, Query.parse "~14 ball" = .ok clauses ∧
        Search.apply (atlas.scope ⟨true, true⟩) clauses atlas.entries = .ok kept) ∧
      ∃ inner v, atlas.Shows (some 20) inner ∧ inner.var? = some v ∧
        ∃ word ∈ Text.wordRuns v.type.inner, ¬ Hex.IsNumeral word := by
  have hpath : ((load chain "maps" ⟨"mf", "ram", "U"⟩).result.toOption.bind fun atlas =>
      atlas.entries.head?.bind fun e => (e.expansion atlas.structs atlas.enums none).bind fun x =>
        x.entries.head?.bind fun next => (next.expansion atlas.structs atlas.enums x.parent).bind fun y =>
          y.entries.getLast?.map fun inner => (y.parent, inner.cell? atlas.structs .length)) =
      some (some 20, some (.text "?")) := by
    decide +kernel
  cases hload : (load chain "maps" ⟨"mf", "ram", "U"⟩).result with
  | error fault =>
    rw [hload] at hpath
    cases hpath
  | ok atlas =>
    rw [hload] at hpath
    simp only [Except.toOption, Option.bind_some, Option.bind_eq_some_iff, Option.map_eq_some_iff] at hpath
    obtain ⟨e, he, x, hx, next, hnext, y, hy, inner, hinner, heq⟩ := hpath
    obtain ⟨hparent, hlength⟩ := Prod.mk.inj heq
    have hfiles : chain.isDescribed = true := by decide +kernel
    obtain ⟨hsearch, hrows⟩ := usable_of_load hfiles hload
    have hparse : Query.parse "~14 ball" = .ok [⟨false, .address .near "14" 20⟩, ⟨false, .term "ball"⟩] := rfl
    obtain ⟨kept, hkept⟩ := hsearch _ _ ⟨true, true⟩ hparse
    have hshows : atlas.Shows y.parent inner :=
      .opened (.opened (.entry (List.mem_of_head? he)) hx (List.mem_of_head? hnext)) hy
        (List.mem_of_getLast? hinner)
    obtain ⟨v, hv, hword⟩ := (hrows _ _ hshows).2.mp hlength
    exact ⟨atlas, hfiles, rfl, ⟨_, kept, hparse, hkept⟩, inner, v, hparent ▸ hshows, hv, hword⟩

end Atlas

end MemoryAtlas
