import MemoryAtlas.Proofs.Atlas.Descriptions
import MemoryAtlas.Search.Reach

/-!
Definitions from their file to their listing. The table of a file has each label once, where it comes first, with
the definition that comes last. The maps of the definitions list their table by the labels, and what a listed struct
is searched by is that very struct.
-/

namespace MemoryAtlas

/-! Texts in the order of scalars -/

namespace Scalar

theorem text_le? (x : String) (s : Scalar) : (text x).le? s = s.asText?.map fun y => decide (x ≤ y) := by
  unfold le?
  split
  · next h _ => cases h
  · cases s.asText? <;> rfl

theorem le?_text (s : Scalar) (y : String) : s.le? (text y) = s.asText?.map fun x => decide (x ≤ y) := by
  unfold le?
  split
  · next h => cases h
  · cases s.asText? <;> rfl

end Scalar

namespace Atlas

variable {files : Archive} {root path : String} {s : Selection} {a b e : Entry} {l entries : List Entry}

/-- The label of the entry, if it is a text. -/
def labelText? (e : Entry) : Option String := e.label.asText?

theorem labelText?_eq_some_iff {x : String} : labelText? e = some x ↔ e.label = .text x := by
  unfold labelText? Document.asText?
  cases e.label with
  | scalar value => cases value <;> simp [Document.scalar?, Scalar.asText?]
  | list items => simp [Document.scalar?]
  | record fields => simp [Document.scalar?]

theorem labelsLe?_of_text {x : String} (h : a.label = .text x) :
    labelsLe? a b = (labelText? b).map fun y => decide (x ≤ y) := by
  unfold labelsLe? labelText? Document.asText?
  rw [h]
  cases b.label.scalar? with
  | none => rfl
  | some value => exact Scalar.text_le? x value

theorem labelsLe?_text {y : String} (h : b.label = .text y) :
    labelsLe? a b = (labelText? a).map fun x => decide (x ≤ y) := by
  unfold labelsLe? labelText? Document.asText?
  rw [h]
  cases a.label.scalar? with
  | none => rfl
  | some value => exact Scalar.le?_text value y

/-- What is listed has texts for labels throughout, or nowhere. -/
theorem listed_eq_ok (h : listed l = .ok entries) :
    entries = l.mergeSort (fun a b => (labelsLe? a b).getD false) ∧
      ((∀ e ∈ l, (labelText? e).isSome) ∨ ∀ e ∈ l, labelText? e = none) := by
  cases l with
  | nil =>
    cases h
    exact ⟨List.mergeSort_nil.symm, .inl fun e he => absurd he List.not_mem_nil⟩
  | cons first rest =>
    simp only [listed] at h
    split at h
    · next hall =>
      cases h
      refine ⟨rfl, ?_⟩
      simp only [List.all_eq_true] at hall
      cases hfirst : labelText? first with
      | some x =>
        refine .inl (List.forall_mem_cons.mpr ⟨by rw [hfirst]; rfl, fun e he => ?_⟩)
        have hle := hall e he
        rwa [labelsLe?_of_text (labelText?_eq_some_iff.mp hfirst), Option.isSome_map] at hle
      | none =>
        refine .inr (List.forall_mem_cons.mpr ⟨hfirst, fun e he => ?_⟩)
        cases htext : labelText? e with
        | none => rfl
        | some y =>
          have hle := hall e he
          rw [labelsLe?_text (labelText?_eq_some_iff.mp htext), hfirst] at hle
          cases hle
    · cases h

theorem exists_listed (h : ∀ e ∈ l, (labelText? e).isSome) : ∃ entries, listed l = .ok entries := by
  cases l with
  | nil => exact ⟨[], rfl⟩
  | cons first rest =>
    obtain ⟨hfirst, hrest⟩ := List.forall_mem_cons.mp h
    obtain ⟨x, hx⟩ := Option.isSome_iff_exists.mp hfirst
    have hall : rest.all (fun other => (labelsLe? first other).isSome) = true := by
      refine List.all_eq_true.mpr fun other hother => ?_
      rw [labelsLe?_of_text (labelText?_eq_some_iff.mp hx), Option.isSome_map]
      exact hrest other hother
    exact ⟨_, by rw [listed, if_pos hall]⟩

/-- Among texts the order is that of their code points. -/
theorem pairwise_listed (h : listed l = .ok entries) :
    entries.Pairwise fun a b => ∀ x y, a.label = .text x → b.label = .text y → x ≤ y := by
  obtain ⟨rfl, htext | hnone⟩ := listed_eq_ok h
  · let le (a b : Entry) : Bool := decide ((labelText? a).getD "" ≤ (labelText? b).getD "")
    have hsame : l.mergeSort (fun a b => (labelsLe? a b).getD false) = l.mergeSort le := by
      have hmap := List.map_mergeSort (r := fun a b => (labelsLe? a b).getD false) (s := le) (f := id) (l := l) ?_
      · simpa using hmap
      · intro a ha b hb
        obtain ⟨x, hx⟩ := Option.isSome_iff_exists.mp (htext a ha)
        obtain ⟨y, hy⟩ := Option.isSome_iff_exists.mp (htext b hb)
        simp [le, labelsLe?_of_text (labelText?_eq_some_iff.mp hx), hx, hy]
    rw [hsame]
    have htrans : ∀ a b c, le a b = true → le b c = true → le a c = true := fun a b c hab hbc =>
      decide_eq_true (String.le_trans (of_decide_eq_true hab) (of_decide_eq_true hbc))
    have htotal : ∀ a b, (le a b || le b a) = true := fun a b => by simpa [le] using String.le_total _ _
    have hsorted := List.pairwise_mergeSort htrans htotal l
    refine hsorted.imp fun {a b} hab x y hx hy => ?_
    have hle := of_decide_eq_true hab
    rwa [labelText?_eq_some_iff.mpr hx, labelText?_eq_some_iff.mpr hy] at hle
  · refine List.pairwise_of_forall_mem_list fun a ha b hb x y hx => ?_
    have hfirst := hnone a (List.mem_mergeSort.mp ha)
    rw [labelText?_eq_some_iff.mpr hx] at hfirst
    cases hfirst

/-! Listings of tables -/

/-- Each definition of the table once, those with texts as labels in the order of these, and each found in the table by
its own label. -/
structure Lists {α : Type} (entry : α → Entry) (t : Table α) (entries : List Entry) : Prop where
  perm : entries.Perm (t.definitions.map entry)
  once : entries.Nodup
  labelled : ∀ e ∈ entries, ∃ label, e.label = .scalar label
  ascending : entries.Pairwise fun a b => ∀ x y, a.label = .text x → b.label = .text y → x < y
  found : ∀ d, entry d ∈ entries → ∀ label, (entry d).label = .scalar label → t.find? label = some d

theorem lists_of_listed {α : Type} {entry : α → Entry} {definitions : List α} {t : Table α}
    (hentry : Function.Injective entry) (hfiles : t.Files (fun d => (entry d).label.scalar?) definitions)
    (h : listed (t.definitions.map entry) = .ok entries) : Lists entry t entries := by
  have hperm := perm_of_listed h
  have hapart : entries.Pairwise fun a b => ∀ n m, a.label = .scalar n → b.label = .scalar m → ¬ (n == m) = true := by
    refine (hperm.pairwise_iff fun hab n m hn hm heq => hab m n hm hn (BEq.symm heq)).mpr (List.pairwise_map.mpr ?_)
    refine (Table.pairwise_definitions hfiles).imp fun hab n m hn hm => ?_
    simp [hab n m (Document.scalar?_eq_some_iff.mpr hn) (Document.scalar?_eq_some_iff.mpr hm)]
  have hlabelled : ∀ e ∈ entries, ∃ label, e.label = .scalar label := by
    intro e he
    obtain ⟨d, hd, rfl⟩ := List.mem_map.mp (hperm.mem_iff.mp he)
    obtain ⟨pair, hpair, rfl⟩ := List.mem_map.mp hd
    obtain ⟨-, label, hlabel, -⟩ := hfiles pair hpair
    exact ⟨label, Document.scalar?_eq_some_iff.mp hlabel⟩
  refine ⟨hperm, hapart.imp_of_mem fun {a b} ha _ hab heq => ?_, hlabelled, ?_, fun d hd label hlabel => ?_⟩
  · obtain ⟨label, hlabel⟩ := hlabelled a ha
    exact hab label label hlabel (heq ▸ hlabel) BEq.rfl
  · refine (pairwise_listed h).imp₂ (fun a b hle hne x y hx hy => Std.lt_of_le_of_ne (hle x y hx hy) ?_) hapart
    rintro rfl
    exact hne (.text x) (.text x) hx hy BEq.rfl
  · obtain ⟨d', hd', heq⟩ := List.mem_map.mp (hperm.mem_iff.mp hd)
    obtain rfl := hentry heq
    exact Table.find?_of_mem_definitions hfiles hd' (Document.scalar?_eq_some_iff.mpr hlabel)

/-! Reading and loading -/

theorem isSome_of_keyed {α : Type} {caption : α → Caption} {a b : α} (h : keyed caption a = .ok b) :
    (caption b).label.scalar?.isSome := by
  unfold keyed at h
  split at h
  · next hlabel =>
    cases h
    exact hlabel
  · cases h

theorem labelled_of_readStruct {d : Document} {defn : StructDef} (h : readStruct d = .ok defn) :
    defn.label.scalar?.isSome := by
  obtain ⟨r, -, h⟩ := Fallible.bind_eq_ok.mp h
  obtain ⟨read, -, h⟩ := Fallible.bind_eq_ok.mp h
  exact isSome_of_keyed h

theorem labelled_of_readEnum {d : Document} {defn : EnumDef} (h : readEnum d = .ok defn) :
    defn.label.scalar?.isSome := by
  obtain ⟨r, -, h⟩ := Fallible.bind_eq_ok.mp h
  obtain ⟨read, -, h⟩ := Fallible.bind_eq_ok.mp h
  exact isSome_of_keyed h

section

variable {α : Type} {label? : α → Option Scalar} {readOne : Document → Except Fault α} {items : List Document}
  {definitions : List α} {t : Table α}

theorem exists_table (hlabel : ∀ {d a}, readOne d = .ok a → (label? a).isSome)
    (hitems : records files path = .ok items) (h : List.Forall₂ (fun d a => readOne d = .ok a) items definitions) :
    ∃ t, (do return Table.ofList label? (← (← records files path).mapM readOne)) = Except.ok t ∧
      t.Gathers label? definitions := by
  refine ⟨Table.ofList label? definitions, ?_, Table.gathers_ofList fun a ha => ?_⟩
  · rw [hitems]
    change (do return Table.ofList label? (← items.mapM readOne)) = _
    rw [Traversal.mapM_of_forall₂ h]
    rfl
  · obtain ⟨d, -, hread⟩ := Traversal.exists_of_mem_mapM (Traversal.mapM_of_forall₂ h) a ha
    exact hlabel hread

theorem exists_files (h : (do return Table.ofList label? (← (← records files path).mapM readOne)) = Except.ok t) :
    ∃ definitions, t.Files label? definitions := by
  obtain ⟨items, -, h⟩ := Fallible.bind_eq_ok.mp h
  obtain ⟨found, -, h⟩ := Fallible.bind_eq_ok.mp h
  cases h
  exact ⟨found, Table.files_ofList label? found⟩

end

section

variable {structs : StructTable} {enums : EnumTable}

theorem read_of_tables (hstructs : readStructs files (file root s "structs") = .ok structs)
    (henums : readEnums files (file root s "enums") = .ok enums) :
    read files root s = Atlas.mk structs enums <$> entriesOf files root s structs enums := by
  rw [read, henums, hstructs]
  rfl

/-- All that the fields of the structs refer to is there, and enums have names. -/
def Resolved (structs : StructTable) : Prop :=
  ∀ defn ∈ structs.definitions, ∀ f ∈ defn.fields,
    References.undefinedStruct? structs f.toVar = none ∧ References.hasName f.toVar = true

theorem Resolved.passes (h : Resolved structs) (hvars : ∀ e ∈ entries, References.typedVars e = []) :
    ∀ v ∈ References.all entries structs, References.passes structs v = true := by
  intro v hv
  rcases List.mem_append.mp hv with hv | hv
  · obtain ⟨e, he, hv⟩ := List.mem_flatMap.mp hv
    rw [hvars e he] at hv
    cases hv
  · obtain ⟨defn, hdefn, hv⟩ := List.mem_flatMap.mp hv
    obtain ⟨f, hf, rfl⟩ := List.mem_map.mp hv
    obtain ⟨hdefined, hname⟩ := h defn hdefn f hf
    exact Bool.and_eq_true_iff.mpr ⟨References.undefinedStruct?_eq_none_iff.mp hdefined, hname⟩

/-- What comes of loading a map that lists a table of the game. If all its labels are texts, only a reference can be in
the way. -/
structure LoadsListing (files : Archive) (root : String) (s : Selection) (structs : StructTable) (enums : EnumTable)
    {α : Type} (entry : α → Entry) (t : Table α) : Prop where
  listing : ∀ atlas, (load files root s).result = .ok atlas →
    atlas.structs = structs ∧ atlas.enums = enums ∧ Lists entry t atlas.entries
  succeeds : (∀ d ∈ t.definitions, ∃ x, (entry d).label = .text x) → Resolved structs →
    ∃ atlas, (load files root s).result = .ok atlas

theorem loadsListing_of_listed {α : Type} {entry : α → Entry} {t : Table α} {definitions : List α}
    (hstructs : readStructs files (file root s "structs") = .ok structs)
    (henums : readEnums files (file root s "enums") = .ok enums)
    (hlisted : entriesOf files root s structs enums = listed (t.definitions.map entry))
    (hentry : Function.Injective entry) (hvars : ∀ d, References.typedVars (entry d) = [])
    (hfiles : t.Files (fun d => (entry d).label.scalar?) definitions) :
    LoadsListing files root s structs enums entry t where
  listing atlas hload := by
    obtain ⟨hread, -, -⟩ := load_eq_ok hload
    rw [read_of_tables hstructs henums, hlisted, Fallible.map_eq_ok] at hread
    obtain ⟨entries, hentries, rfl⟩ := hread
    exact ⟨rfl, rfl, lists_of_listed hentry hfiles hentries⟩
  succeeds htext hresolved := by
    obtain ⟨entries, hentries⟩ := exists_listed (l := t.definitions.map entry) fun e he => by
      obtain ⟨d, hd, rfl⟩ := List.mem_map.mp he
      obtain ⟨x, hx⟩ := htext d hd
      rw [labelText?_eq_some_iff.mpr hx]
      rfl
    have hread : read files root s = .ok ⟨structs, enums, entries⟩ := by
      rw [read_of_tables hstructs henums, hlisted, hentries]
      rfl
    refine ⟨_, load_of_read hread (hresolved.passes fun e he => ?_)⟩
    obtain ⟨d, -, rfl⟩ := List.mem_map.mp ((perm_of_listed hentries).mem_iff.mp he)
    exact hvars d

theorem loadsListing_structs (hstructs : readStructs files (file root s "structs") = .ok structs)
    (henums : readEnums files (file root s "enums") = .ok enums) (hmap : s.map = "structs") :
    LoadsListing files root s structs enums .struct structs := by
  obtain ⟨definitions, hfiles⟩ := exists_files hstructs
  have hkind : MapKind.ofKey? s.map = some .structs := hmap ▸ MapKind.ofKey?_key .structs
  have hlisted : entriesOf files root s structs enums = listed (structs.definitions.map .struct) := by
    rw [entriesOf, hkind]
  exact loadsListing_of_listed hstructs henums hlisted (fun _ _ h => Entry.struct.inj h) (fun _ => rfl) hfiles

theorem loadsListing_enums (hstructs : readStructs files (file root s "structs") = .ok structs)
    (henums : readEnums files (file root s "enums") = .ok enums) (hmap : s.map = "enums") :
    LoadsListing files root s structs enums .enum enums := by
  obtain ⟨definitions, hfiles⟩ := exists_files henums
  have hkind : MapKind.ofKey? s.map = some .enums := hmap ▸ MapKind.ofKey?_key .enums
  have hlisted : entriesOf files root s structs enums = listed (enums.definitions.map .enum) := by
    rw [entriesOf, hkind]
  exact loadsListing_of_listed hstructs henums hlisted (fun _ _ h => Entry.enum.inj h) (fun _ => rfl) hfiles

end

/-! Searching a listing -/

/-- What a search in structs goes to from a struct on view is that struct. -/
structure SearchesOwn (scope : Scope) (defn : StructDef) : Prop where
  seeds : ∀ name ∈ scope.structSeeds (.struct defn), scope.structs.find? name = some defn
  reaches : scope.options.structs = true → defn.label.isPresent = true →
    ∀ f ∈ defn.fields, scope.ReachesDesc (.struct defn) f.desc

theorem searchesOwn_of_find? {scope : Scope} {defn : StructDef} {label : Scalar} (hlabel : defn.label = .scalar label)
    (hfind : scope.structs.find? label = some defn) : SearchesOwn scope defn := by
  have href : (Entry.struct defn).structRef = if defn.label.isPresent then some label else none := by
    rw [Entry.structRef, Document.name?, hlabel]
    rfl
  constructor
  · intro name hname
    rw [Scope.structSeeds, href] at hname
    split at hname
    · split at hname
      · rwa [List.mem_singleton.mp hname]
      · cases hname
    · cases hname
  · intro hoption hpresent f hf
    rw [hlabel] at hpresent
    have hname : (Entry.struct defn).NamesStruct label := .struct ⟨hlabel, hpresent⟩
    exact .field (.own hoption hname) hfind hf

/-- The tables that are read from files hold the labels of their definitions in the order in which they first come,
each with the last definition that has it. The map of the structs and the map of the enums list them, each definition
once and in the order of the labels, and from a struct in the list a search goes on to the fields of that struct. -/
theorem definitions_coherent (files : Archive) :
    (∀ path items definitions, records files path = .ok items →
      List.Forall₂ (fun d defn => readStruct d = .ok defn) items definitions →
        ∃ structs, readStructs files path = .ok structs ∧
          structs.Gathers (fun defn => defn.label.scalar?) definitions) ∧
    (∀ path items definitions, records files path = .ok items →
      List.Forall₂ (fun d defn => readEnum d = .ok defn) items definitions →
        ∃ enums, readEnums files path = .ok enums ∧ enums.Gathers (fun defn => defn.label.scalar?) definitions) ∧
    ∀ root s structs enums, readStructs files (file root s "structs") = .ok structs →
      readEnums files (file root s "enums") = .ok enums →
        (s.map = "structs" → LoadsListing files root s structs enums .struct structs ∧
          ∀ atlas, (load files root s).result = .ok atlas → ∀ defn, .struct defn ∈ atlas.entries →
            ∀ options, SearchesOwn (atlas.scope options) defn) ∧
        (s.map = "enums" → LoadsListing files root s structs enums .enum enums) := by
  refine ⟨fun path items definitions hitems h => exists_table labelled_of_readStruct hitems h,
    fun path items definitions hitems h => exists_table labelled_of_readEnum hitems h,
    fun root s structs enums hstructs henums => ⟨fun hmap => ?_, loadsListing_enums hstructs henums⟩⟩
  have hloads := loadsListing_structs hstructs henums hmap
  refine ⟨hloads, fun atlas hatlas defn hdefn options => ?_⟩
  obtain ⟨rfl, -, hlists⟩ := hloads.listing atlas hatlas
  obtain ⟨label, hlabel⟩ := hlists.labelled _ hdefn
  exact searchesOwn_of_find? hlabel (hlists.found defn hdefn label hlabel)

/-- A record of a struct, and what is read from it. -/
def sized (label : String) (size : Int) : Document :=
  .record [(.text "label", .text label), (.text "size", .int size)]

def sizedDef (label : String) (size : Int) : StructDef := ⟨⟨.text label, .text "", .null⟩, size, []⟩

/-- Two structs, the first of which is defined anew behind the second. -/
def twice : Archive :=
  [("maps/mf/structs.json", .document (.list [sized "b" 1, sized "a" 2, sized "b" 3])),
    ("maps/mf/enums.json", .document (.list []))]

theorem definitions_coherent_twice :
    ∃ structs atlas, structs.labels = [.text "b", .text "a"] ∧
      structs.Gathers (fun defn => defn.label.scalar?) [sizedDef "b" 1, sizedDef "a" 2, sizedDef "b" 3] ∧
      (load twice "maps" ⟨"mf", "structs", "U"⟩).result = .ok atlas ∧ Lists .struct structs atlas.entries ∧
      .struct (sizedDef "b" 3) ∈ atlas.entries ∧
      ∀ options, SearchesOwn (atlas.scope options) (sizedDef "b" 3) := by
  obtain ⟨hstructs, henums, hmaps⟩ := definitions_coherent twice
  obtain ⟨structs, hread, hgathers⟩ := hstructs "maps/mf/structs.json" [sized "b" 1, sized "a" 2, sized "b" 3]
    [sizedDef "b" 1, sizedDef "a" 2, sizedDef "b" 3] (by rfl) (.cons rfl (.cons rfl (.cons rfl .nil)))
  obtain ⟨enums, hreadEnums, -⟩ := henums "maps/mf/enums.json" [] [] (by rfl) .nil
  have hlabels : structs.labels = [.text "b", .text "a"] := hgathers.labels.trans (by decide)
  obtain rfl := Except.ok.inj (hread.symm.trans rfl)
  obtain ⟨⟨hlisting, hsucceeds⟩, hsearches⟩ := (hmaps "maps" ⟨"mf", "structs", "U"⟩ _ enums hread hreadEnums).1 rfl
  have hresolved : Resolved (Table.ofList (fun defn => defn.label.scalar?)
      [sizedDef "b" 1, sizedDef "a" 2, sizedDef "b" 3]) := by
    intro defn hdefn f hf
    rcases List.mem_pair.mp hdefn with rfl | rfl <;> cases hf
  obtain ⟨atlas, hatlas⟩ := hsucceeds (fun defn hdefn => by
    rcases List.mem_pair.mp hdefn with rfl | rfl
    · exact ⟨"b", rfl⟩
    · exact ⟨"a", rfl⟩) hresolved
  obtain ⟨-, -, hlists⟩ := hlisting atlas hatlas
  have hmem : .struct (sizedDef "b" 3) ∈ atlas.entries := hlists.perm.mem_iff.mpr (.head _)
  exact ⟨_, atlas, hlabels, hgathers, hatlas, hlists, hmem, hsearches atlas hatlas _ hmem⟩

end Atlas

end MemoryAtlas
