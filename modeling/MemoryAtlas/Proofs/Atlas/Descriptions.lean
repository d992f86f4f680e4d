import MemoryAtlas.Proofs.Atlas.Reading
import MemoryAtlas.Proofs.Search.Narrowing

/-!
Searches of an atlas that has been loaded. If the files describe things by texts only, or not at all, every
description that a search comes across is a text; the structs are all there, so every search has a result.
-/

namespace MemoryAtlas

namespace Document

/-- A text, or nothing. -/
def isPlain : Document → Bool
  | .null | .text _ => true
  | _ => false

/-- If the document stands for a record, then for one with a plain description. -/
def isDescribed (d : Document) : Bool :=
  match d.toFields with
  | .ok r => (r.optional "desc").isPlain
  | .error _ => true

/-- The members that the document has under the key, if any, are described. -/
def membersDescribed (key : String) (d : Document) : Bool :=
  match d.toFields with
  | .ok r =>
    match Record.members r key with
    | .ok items => items.all isDescribed
    | .error _ => true
  | .error _ => true

/-- The items of a list, with their fields or values, are described. -/
def allDescribed : Document → Bool
  | .list items => items.all fun d => d.isDescribed && d.membersDescribed "vars" && d.membersDescribed "vals"
  | _ => true

theorem described_of_mem {items : List Document} (h : (list items).allDescribed = true) {d : Document}
    (hd : d ∈ items) :
    d.isDescribed = true ∧ d.membersDescribed "vars" = true ∧ d.membersDescribed "vals" = true := by
  have hall := List.all_eq_true.mp h d hd
  simp only [Bool.and_eq_true] at hall
  exact ⟨hall.1.1, hall.1.2, hall.2⟩

theorem described_of_members {r : Record} {key : String} (h : (record r).membersDescribed key = true)
    {items : List Document} (hitems : r.members key = .ok items) {d : Document} (hd : d ∈ items) :
    d.isDescribed = true := by
  simp only [membersDescribed, toFields, hitems] at h
  exact List.all_eq_true.mp h d hd

end Document

def Content.isDescribed : Content → Bool
  | .document d => d.allDescribed
  | .text s =>
    match Json.read s with
    | .ok d => d.allDescribed
    | .error _ => true

/-- What the files describe, they describe by texts. -/
def Archive.isDescribed (files : Archive) : Bool := files.all fun file => file.2.isDescribed

theorem Archive.allDescribed_of_holds {files : Archive} (h : files.isDescribed = true) {d : Document}
    (hd : files.Holds d) : d.allDescribed = true := by
  obtain ⟨file, hfile, hcontent⟩ := hd
  have hdescribed := List.all_eq_true.mp h file hfile
  rcases hcontent with hc | ⟨s, hc, hread⟩
  · simpa only [hc, Content.isDescribed] using hdescribed
  · simpa only [hc, Content.isDescribed, hread] using hdescribed

/-- The description can be searched. -/
def Caption.Legible (c : Caption) : Prop := c.desc.descText?.isSome

namespace Record

variable {r : Record}

theorem legible_caption (h : (r.optional "desc").isPlain = true) : r.caption.Legible := by
  unfold Document.isPlain at h
  split at h
  · next hd =>
    simp only [Caption.Legible, caption, hd]
    rfl
  · next text hd =>
    simp only [Caption.Legible, caption, hd, Document.presentOr]
    split
    · next hpresent =>
      rw [Document.descText?, if_pos hpresent]
      rfl
    · rfl
  · cases h

theorem legible_struct {s : StructDef} (h : r.struct = .ok s) (hown : (Document.record r).isDescribed = true)
    (hmembers : (Document.record r).membersDescribed "vars" = true) :
    s.toCaption.Legible ∧ ∀ f ∈ s.fields, f.toCaption.Legible := by
  obtain ⟨hcaption, items, hitems, hfields⟩ := struct_eq_ok h
  rw [hcaption]
  refine ⟨legible_caption hown, fun f hf => ?_⟩
  obtain ⟨member, hmember, hfield⟩ := hfields f hf
  rw [caption_of_field hfield]
  exact legible_caption (Document.described_of_members hmembers hitems hmember)

theorem legible_enum {e : EnumDef} (h : r.enum = .ok e) (hown : (Document.record r).isDescribed = true)
    (hmembers : (Document.record r).membersDescribed "vals" = true) :
    e.toCaption.Legible ∧ ∀ v ∈ e.vals, v.toCaption.Legible := by
  obtain ⟨hcaption, items, hitems, hvals⟩ := enum_eq_ok h
  rw [hcaption]
  refine ⟨legible_caption hown, fun v hv => ?_⟩
  obtain ⟨member, hmember, hval⟩ := hvals v hv
  rw [caption_of_enumValue hval]
  exact legible_caption (Document.described_of_members hmembers hitems hmember)

end Record

namespace Atlas

variable {files : Archive} {root path map region : String} {s : Selection} {atlas : Atlas} {e : Entry}
  {d : Document}

/-- A region changes nothing about the description. -/
theorem legible_of_readEntry (h : readEntry map region d = .ok (some e)) (hd : d.isDescribed = true) :
    e.caption.Legible := by
  obtain ⟨r, settled, hr, hsettled, hconvert⟩ := readEntry_eq_ok h
  have hdesc : settled.optional "desc" = r.optional "desc" :=
    congrArg (·.getD .null) (Record.lookup_of_inRegion hsettled (by decide))
  simp only [Document.isDescribed, hr] at hd
  rw [(convert_eq_ok hconvert).1]
  exact Record.legible_caption (hdesc ▸ hd)

/-- All descriptions are texts: those on view, and those of the definitions and their members. -/
structure Legible (atlas : Atlas) : Prop where
  entries : ∀ e ∈ atlas.entries, e.caption.Legible
  fields : ∀ defn ∈ atlas.structs.definitions, ∀ f ∈ defn.fields, f.toCaption.Legible
  values : ∀ defn ∈ atlas.enums.definitions, ∀ v ∈ defn.vals, v.toCaption.Legible

theorem legible_of_load (hfiles : files.isDescribed = true) (h : (load files root s).result = .ok atlas) :
    atlas.Legible := by
  obtain ⟨henums, hstructs, hentries⟩ := read_eq_ok (load_eq_ok h).1
  obtain ⟨structItems, hholds, hdefs⟩ := readStructs_eq_ok hstructs
  have hstruct : ∀ defn ∈ atlas.structs.definitions, defn.toCaption.Legible ∧ ∀ f ∈ defn.fields, f.toCaption.Legible := by
    intro defn hdef
    obtain ⟨⟨r, hr, hread⟩, -⟩ := hdefs defn hdef
    obtain ⟨hown, hvars, -⟩ := Document.described_of_mem (Archive.allDescribed_of_holds hfiles hholds) hr
    exact Record.legible_struct hread hown hvars
  obtain ⟨enumItems, hholds, hdefs⟩ := readEnums_eq_ok henums
  have henum : ∀ defn ∈ atlas.enums.definitions, defn.toCaption.Legible ∧ ∀ v ∈ defn.vals, v.toCaption.Legible := by
    intro defn hdef
    obtain ⟨⟨r, hr, hread⟩, -⟩ := hdefs defn hdef
    obtain ⟨hown, -, hvals⟩ := Document.described_of_mem (Archive.allDescribed_of_holds hfiles hholds) hr
    exact Record.legible_enum hread hown hvals
  refine ⟨?_, fun defn hdef => (hstruct defn hdef).2, fun defn hdef => (henum defn hdef).2⟩
  intro e he
  rcases entriesOf_eq_ok hentries with hperm | hperm | hfile
  · obtain ⟨defn, hdef, rfl⟩ := List.mem_map.mp (hperm.mem_iff.mp he)
    exact (hstruct defn hdef).1
  · obtain ⟨defn, hdef, rfl⟩ := List.mem_map.mp (hperm.mem_iff.mp he)
    exact (henum defn hdef).1
  · obtain ⟨items, read, hholds, hall, hsorted⟩ := readEntries_eq_ok hfile
    have hread : e ∈ read := List.mem_mergeSort.mp (hsorted ▸ he)
    obtain ⟨d, hd, hentry⟩ := exists_of_mem_readAll hall e hread
    exact legible_of_readEntry hentry
      (Document.described_of_mem (Archive.allDescribed_of_holds hfiles hholds) hd).1

/-! Searching -/

def scope (atlas : Atlas) (options : SearchOptions) : Scope := ⟨atlas.structs, atlas.enums, options⟩

theorem Sound.defined_field (h : atlas.Sound) {defn : StructDef} (hdef : defn ∈ atlas.structs.definitions)
    {f : Field} (hf : f ∈ defn.fields) : References.undefinedStruct? atlas.structs f.toVar = none :=
  h.defined f.toVar (List.mem_append_right _ (List.mem_flatMap_of_mem hdef (List.mem_map_of_mem hf)))

theorem Sound.defined_entry (h : atlas.Sound) (he : e ∈ atlas.entries) {v : Var}
    (hv : v ∈ References.typedVars e) : References.undefinedStruct? atlas.structs v = none :=
  h.defined v (List.mem_append_left _ (List.mem_flatMap_of_mem he hv))

theorem mem_typedVars_of_var? {v : Var} (h : e.var? = some v) : v ∈ References.typedVars e := by
  cases e <;> simp_all [References.typedVars, Entry.var?]

theorem Sound.admits (h : atlas.Sound) (options : SearchOptions) (he : e ∈ atlas.entries) :
    (atlas.scope options).Admits e where
  typed v hv := h.defined_entry he (mem_typedVars_of_var? hv)
  referred name hname := by
    have hvar : ∀ v, e.var? = some v → v.type.structRef = some name → atlas.structs.has name = true :=
      fun v hv href => Scope.has_of_structRef (h.defined_entry he (mem_typedVars_of_var? hv)) href
    cases e with
    | struct defn =>
      obtain ⟨label, hlabel, hhas⟩ := h.labelled defn (h.listed defn he)
      rw [Entry.structRef, Document.name?] at hname
      split at hname
      · rw [hlabel, Option.mem_some_iff] at hname
        exact hname ▸ hhas
      · cases hname
    | var v => exact hvar v rfl hname
    | data d => exact hvar d.toVar rfl hname
    | field f => exact hvar f.toVar rfl hname
    | code c => cases hname
    | enumValue v => cases hname
    | enum e => cases hname

/-- Clauses that lack nothing have a result, with any search options. -/
theorem exists_apply (hs : atlas.Sound) (hl : atlas.Legible) (options : SearchOptions)
    {clauses : List Query.Clause} (hfinal : ∀ c ∈ clauses, c.IsFinal) :
    ∃ kept, Search.apply (atlas.scope options) clauses atlas.entries = .ok kept :=
  Search.exists_apply hfinal hs.ascending (fun _ hdef _ hf => hs.defined_field hdef hf)
    ⟨hl.fields, hl.values⟩ (fun _ he => hs.admits options he) hl.entries

end Atlas

end MemoryAtlas
