import MemoryAtlas.Proofs.View.Rows

/-!
What a row should open into: the enum that it refers to if there is one, or else the struct that its type names. An
enum that is named but not defined hides the struct. On view such a row has been warned of when the files were
loaded.
-/

namespace MemoryAtlas

/-- Data and members, with the variable that each of them is. -/
inductive Entry.Placed : Entry → Var → Prop
  | data (d : Data) : Placed (.data d) d.toVar
  | field (f : Field) : Placed (.field f) f.toVar

namespace Var

def RefersToEnum (enums : EnumTable) (v : Var) (d : EnumDef) : Prop :=
  ∃ name, name ≠ .null ∧ v.enum = .scalar name ∧ enums.find? name = some d

def RefersToStruct (structs : StructTable) (v : Var) (s : StructDef) : Prop :=
  ∃ name, v.type.spec = .struct name ∧ structs.find? (.text name) = some s

/-- The struct is known but stands back behind an enum that is not, or its name is empty. -/
structure Hides (structs : StructTable) (enums : EnumTable) (v : Var) : Prop where
  struct : ∃ s, v.RefersToStruct structs s
  enum : ∀ d, ¬ v.RefersToEnum enums d
  behind : v.enum ≠ .null ∨ v.type.spec = .struct ""

end Var

/-- The enum goes before the struct if it is known, and if neither is there is nothing to open. -/
inductive Expansion.Preferred (structs : StructTable) (enums : EnumTable) (v : Var) (parent : Option Int) :
    Option Expansion → Prop
  | enum {d : EnumDef} (h : v.RefersToEnum enums d) : Preferred structs enums v parent (some (.ofEnum d parent))
  | struct {s : StructDef} (henum : ∀ d, ¬ v.RefersToEnum enums d) (h : v.RefersToStruct structs s) :
      Preferred structs enums v parent (some (.ofStruct s parent))
  | nothing (henum : ∀ d, ¬ v.RefersToEnum enums d) (hstruct : ∀ s, ¬ v.RefersToStruct structs s) :
      Preferred structs enums v parent none

section

variable {structs : StructTable} {enums : EnumTable} {parent : Option Int} {v : Var} {e : Entry}

namespace Var

theorem refersToEnum_iff (h : v.enum ≠ .null) {d : EnumDef} :
    v.RefersToEnum enums d ↔ v.enum.scalar?.bind enums.find? = some d := by
  simp only [RefersToEnum, Option.bind_eq_some_iff, Document.scalar?_eq_some_iff]
  constructor
  · rintro ⟨name, -, henum, hfind⟩
    exact ⟨name, henum, hfind⟩
  · rintro ⟨name, henum, hfind⟩
    refine ⟨name, ?_, henum, hfind⟩
    rintro rfl
    exact h henum

theorem not_refersToEnum (h : v.enum = .null) (d : EnumDef) : ¬ v.RefersToEnum enums d := by
  rintro ⟨name, hname, henum, -⟩
  rw [h] at henum
  cases henum
  exact hname rfl

theorem refersToStruct_iff (h : v.type.spec ≠ .struct "") {s : StructDef} :
    v.RefersToStruct structs s ↔ v.type.structRef.bind structs.find? = some s := by
  unfold RefersToStruct TypeDecl.structRef
  cases hspec : v.type.spec with
  | prim p => simp [Spec.structName?]
  | struct name =>
    have hname : name ≠ "" := fun heq => h (heq ▸ hspec)
    simp [Spec.structName?, Option.filter_some, hname]

theorem structRef_of_empty (h : v.type.spec = .struct "") : v.type.structRef = none := by
  rw [TypeDecl.structRef, h]
  rfl

end Var

namespace Expansion

theorem ofVar_of_null (h : v.enum = .null) :
    ofVar structs enums v parent = (v.type.structRef.bind structs.find?).map fun s => ofStruct s parent := by
  rw [ofVar, h]

theorem ofVar_of_named (h : v.enum ≠ .null) :
    ofVar structs enums v parent = (v.enum.scalar?.bind enums.find?).map fun d => ofEnum d parent := by
  unfold ofVar
  split
  · next hnull => exact absurd hnull h
  · rfl

theorem ofVar_of_behind (henum : ∀ d, ¬ v.RefersToEnum enums d) (hbehind : v.enum ≠ .null ∨ v.type.spec = .struct "") :
    ofVar structs enums v parent = none := by
  by_cases hnull : v.enum = .null
  · have hname : v.type.spec = .struct "" := hbehind.resolve_left fun hne => hne hnull
    rw [ofVar_of_null hnull, Var.structRef_of_empty hname]
    rfl
  · have hfind : v.enum.scalar?.bind enums.find? = none :=
      Option.eq_none_iff_forall_ne_some.mpr fun d hd => henum d ((Var.refersToEnum_iff hnull).mpr hd)
    rw [ofVar_of_named hnull, hfind]
    rfl

theorem preferred_of_null (hnull : v.enum = .null) (hname : v.type.spec ≠ .struct "") :
    Preferred structs enums v parent (ofVar structs enums v parent) := by
  have henum : ∀ d, ¬ v.RefersToEnum enums d := Var.not_refersToEnum hnull
  rw [ofVar_of_null hnull]
  cases hfind : v.type.structRef.bind structs.find? with
  | some s => exact .struct henum ((Var.refersToStruct_iff hname).mpr hfind)
  | none =>
    refine .nothing henum fun s hs => ?_
    rw [(Var.refersToStruct_iff hname).mp hs] at hfind
    cases hfind

theorem preferred_iff :
    Preferred structs enums v parent (ofVar structs enums v parent) ↔ ¬ v.Hides structs enums := by
  constructor
  · rintro h ⟨⟨s, hs⟩, henum, hbehind⟩
    rw [ofVar_of_behind henum hbehind] at h
    cases h with
    | nothing _ hstruct => exact hstruct s hs
  · intro h
    by_cases henum : ∃ d, v.RefersToEnum enums d
    · obtain ⟨d, hd⟩ := henum
      have hnull : v.enum ≠ .null := fun hnull => Var.not_refersToEnum hnull d hd
      rw [ofVar_of_named hnull, (Var.refersToEnum_iff hnull).mp hd]
      exact .enum hd
    · rw [not_exists] at henum
      by_cases hbehind : v.enum ≠ .null ∨ v.type.spec = .struct ""
      · rw [ofVar_of_behind henum hbehind]
        exact .nothing henum fun s hs => h ⟨⟨s, hs⟩, henum, hbehind⟩
      · obtain ⟨hnull, hname⟩ := not_or.mp hbehind
        exact preferred_of_null (not_not.mp hnull) hname

end Expansion

theorem Entry.Placed.expansion_eq (h : e.Placed v) (structs : StructTable) (enums : EnumTable) (parent : Option Int) :
    e.expansion structs enums parent = Expansion.ofVar structs enums v (e.start parent) := by
  cases h <;> rfl

end

namespace Atlas

variable {files : Archive} {root : String} {s : Selection} {atlas : Atlas} {parent : Option Int} {e : Entry} {v : Var}

theorem enum_of_mem_entries (h : (load files root s).result = .ok atlas) (he : e ∈ atlas.entries) (hv : e.Placed v) :
    v.enum = .null ∨ v.enum.isPresent = true := by
  obtain ⟨-, -, hentries⟩ := read_eq_ok (load_eq_ok h).1
  have horigin := origin_of_entriesOf hentries e he
  cases hv with
  | data d =>
    cases horigin with
    | data hd => exact Record.enum_of_var (Record.var_of_data hd)
  | field f => cases horigin

theorem enum_of_mem_fields (h : (load files root s).result = .ok atlas) {defn : StructDef}
    (hdef : defn ∈ atlas.structs.definitions) {f : Field} (hf : f ∈ defn.fields) :
    f.enum = .null ∨ f.enum.isPresent = true := by
  obtain ⟨-, hstructs, -⟩ := read_eq_ok (load_eq_ok h).1
  obtain ⟨items, -, hdefs⟩ := readStructs_eq_ok hstructs
  obtain ⟨⟨r, -, hr⟩, -⟩ := hdefs defn hdef
  obtain ⟨-, members, -, hfields⟩ := Record.struct_eq_ok hr
  obtain ⟨member, -, hmember⟩ := hfields f hf
  exact Record.enum_of_var (Record.var_of_field hmember)

/-- Rows on view have been checked when the files were loaded. -/
theorem checked_of_shows (h : (load files root s).result = .ok atlas) (hshows : atlas.Shows parent e)
    (hv : e.Placed v) :
    v ∈ References.all atlas.entries atlas.structs ∧ (v.enum = .null ∨ v.enum.isPresent = true) := by
  cases hshows with
  | entry he =>
    have htyped : v ∈ References.typedVars e := by cases hv <;> exact List.mem_singleton_self _
    exact ⟨List.mem_append_left _ (List.mem_flatMap_of_mem he htyped), enum_of_mem_entries h he hv⟩
  | opened hshows hx hinner =>
    rcases Entry.expansion_cases hx with ⟨defn, rfl, hown⟩ | ⟨d, rfl, -⟩
    · have hsupports := (sound_of_load h).supports_of_shows hshows
      have hdef := hsupports.mem_definitions hown
      obtain ⟨f, hf, rfl⟩ := List.mem_map.mp hinner
      cases hv
      exact ⟨List.mem_append_right _ (List.mem_flatMap_of_mem hdef (List.mem_map_of_mem hf)),
        enum_of_mem_fields h hdef hf⟩
    · obtain ⟨value, -, rfl⟩ := List.mem_map.mp hinner
      cases hv

theorem warned_of_unknown (h : (load files root s).result = .ok atlas) (hshows : atlas.Shows parent e)
    (hv : e.Placed v) (hnamed : v.enum ≠ .null) (hunknown : ∀ d, ¬ v.RefersToEnum atlas.enums d) :
    ∃ name, v.enum = .scalar name ∧ atlas.enums.find? name = none ∧
      ⟨name, v.label⟩ ∈ (load files root s).warnings := by
  obtain ⟨hmem, henum⟩ := checked_of_shows h hshows hv
  obtain ⟨-, hchecked, hwarnings⟩ := load_eq_ok h
  have hpresent := henum.resolve_left hnamed
  have hname := (hchecked v hmem).2
  rw [References.hasName, hpresent, Bool.not_true, Bool.false_or] at hname
  obtain ⟨name, hname⟩ := Option.isSome_iff_exists.mp hname
  have hfind : atlas.enums.find? name = none := by
    refine Option.eq_none_iff_forall_ne_some.mpr fun d hd => hunknown d ((Var.refersToEnum_iff hnamed).mpr ?_)
    rw [hname]
    exact hd
  refine ⟨name, Document.scalar?_eq_some_iff.mp hname, hfind, ?_⟩
  rw [hwarnings, List.mem_filterMap]
  refine ⟨v, hmem, ?_⟩
  rw [References.undefinedEnum?, Document.name?, if_pos hpresent, hname]
  simp [Table.has, hfind]

/-- Data and members open as they should, unless they hide their struct; then they do not open. If that is on view,
loading has warned of the enum, or it is a struct without a name. -/
theorem preferred_or_warned (hv : e.Placed v) :
    (∀ structs enums parent,
      (Expansion.Preferred structs enums v (e.start parent) (e.expansion structs enums parent) ↔
        ¬ v.Hides structs enums) ∧
      (v.Hides structs enums → e.expansion structs enums parent = none)) ∧
    ∀ files root s atlas parent, (load files root s).result = .ok atlas → atlas.Shows parent e →
      v.Hides atlas.structs atlas.enums →
        v.type.spec = .struct "" ∨
          ∃ name, v.enum = .scalar name ∧ atlas.enums.find? name = none ∧
            ⟨name, v.label⟩ ∈ (load files root s).warnings := by
  constructor
  · intro structs enums parent
    rw [hv.expansion_eq]
    exact ⟨Expansion.preferred_iff, fun h => Expansion.ofVar_of_behind h.enum h.behind⟩
  · intro files root s atlas parent hload hshows h
    rcases h.behind with hnamed | hname
    · exact .inr (warned_of_unknown hload hshows hv hnamed h.enum)
    · exact .inl hname

/-- Data of a known struct, with an enum that is not defined. -/
def dangling : Archive :=
  [("maps/mf/enums.json", .document (.list [])),
    ("maps/mf/structs.json", .document (.list [.record [
      (.text "label", .text "Node"), (.text "size", .int 4), (.text "vars", .list [
        .record [(.text "offset", .int 0), (.text "type", .text "Node *")]])]])),
    ("maps/mf/ram.json", .document (.list [.record [
      (.text "label", .text "head"), (.text "addr", .int 16), (.text "type", .text "Node"),
      (.text "enum", .text "Nope")]]))]

def head : Data where
  label := .text "head"
  desc := .text ""
  notes := .null
  type := TypeDecl.parse "Node"
  count := none
  category := none
  enum := .text "Nope"
  addr := 16

/-- The data does not open, and there is a warning of its enum. -/
theorem preferred_or_warned_dangling :
    ∃ atlas, (load dangling "maps" ⟨"mf", "ram", "U"⟩).result = .ok atlas ∧ .data head ∈ atlas.entries ∧
      head.Hides atlas.structs atlas.enums ∧
      (Entry.data head).expansion atlas.structs atlas.enums none = none ∧
      ⟨.text "Nope", .text "head"⟩ ∈ (load dangling "maps" ⟨"mf", "ram", "U"⟩).warnings := by
  have hread : ((load dangling "maps" ⟨"mf", "ram", "U"⟩).result.toOption.map fun atlas =>
      (atlas.entries, (atlas.structs.find? (.text "Node")).isSome, atlas.enums.find? (.text "Nope"))) =
      some ([.data head], true, none) := by
    decide +kernel
  cases hload : (load dangling "maps" ⟨"mf", "ram", "U"⟩).result with
  | error fault =>
    rw [hload] at hread
    cases hread
  | ok atlas =>
    rw [hload] at hread
    simp only [Except.toOption, Option.map_some, Option.some.injEq, Prod.mk.injEq] at hread
    obtain ⟨hentries, hstruct, henum⟩ := hread
    obtain ⟨s, hs⟩ := Option.isSome_iff_exists.mp hstruct
    have hmem : .data head ∈ atlas.entries := hentries ▸ List.mem_cons_self
    have hhides : head.Hides atlas.structs atlas.enums := by
      refine ⟨⟨s, "Node", by decide +kernel, hs⟩, ?_, .inl (by decide +kernel)⟩
      rintro d ⟨name, -, hname, hfind⟩
      cases hname
      rw [henum] at hfind
      cases hfind
    obtain ⟨hopens, hwarned⟩ := preferred_or_warned (.data head)
    have hnone := (hopens atlas.structs atlas.enums none).2 hhides
    rcases hwarned _ _ _ atlas none hload (.entry hmem) hhides with hname | ⟨name, hname, -, hwarn⟩
    · exact absurd hname (by decide +kernel)
    · cases hname
      exact ⟨atlas, rfl, hmem, hhides, hnone, hwarn⟩

end Atlas

/-- Three sprites with an enum that is not defined: they are not opened into their members. -/
theorem Entry.not_forall_expansion_preferred :
    ¬ ∀ (structs : StructTable) (enums : EnumTable) (parent : Option Int) (e : Entry) (v : Var), e.Placed v →
      Expansion.Preferred structs enums v (e.start parent) (e.expansion structs enums parent) := by
  intro hall
  have h := hall sprites .empty none (.data { slots with enum := .text "Nope" }) _ (.data _)
  have hnone : (Entry.data { slots with enum := .text "Nope" }).expansion sprites .empty none = none := rfl
  rw [hnone] at h
  cases h with
  | nothing _ hstruct => exact hstruct sprite ⟨"Sprite", by decide +kernel, by decide +kernel⟩

end MemoryAtlas
