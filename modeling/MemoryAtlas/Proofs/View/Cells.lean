import MemoryAtlas.Proofs.View.Rows

/-!
Rows and the columns of their tables. Each kind of table has entries of one kind: the main table because of what
is read for its map, and the tables behind rows because of what rows open into. So no cell is missing on view, and
none is there without a column.
-/

namespace MemoryAtlas

/-- The kinds of tables that entries are shown in. -/
inductive TableKind.Holds : TableKind → Entry → Prop
  | ram (d : Data) : Holds .ram (.data d)
  | data (d : Data) : Holds .data (.data d)
  | code (c : Code) : Holds .code (.code c)
  | structs (s : StructDef) : Holds .structs (.struct s)
  | enums (d : EnumDef) : Holds .enums (.enum d)
  | members (f : Field) : Holds .members (.field f)
  | values (v : EnumValue) : Holds .values (.enumValue v)

/-- The keys of the cells are the keys of the columns, each of them once. -/
def Entry.Fills (structs : StructTable) (e : Entry) (kind : TableKind) : Prop :=
  (kind.columns.map Column.key).Nodup ∧
    ((e.row structs).map fun cell => cell.1.key).Perm (kind.columns.map Column.key)

theorem TableKind.Holds.fills {kind : TableKind} {e : Entry} (h : kind.Holds e) (structs : StructTable) :
    e.Fills structs kind := by
  have hcolumns : ((e.row structs).map Prod.fst).Perm kind.columns := by
    cases h <;> exact List.isPerm_iff.mp rfl
  have hkeys := hcolumns.map Column.key
  rw [List.map_map] at hkeys
  exact ⟨by cases h <;> decide, hkeys⟩

namespace Entry

variable {structs : StructTable} {enums : EnumTable} {parent : Option Int} {e : Entry} {x : Expansion}

theorem holds_of_expansion (h : e.expansion structs enums parent = some x) : ∀ inner ∈ x.entries, x.kind.Holds inner := by
  intro inner hinner
  rcases expansion_cases h with ⟨s, rfl, -⟩ | ⟨d, rfl, -⟩
  · obtain ⟨f, -, rfl⟩ := List.mem_map.mp hinner
    exact .members f
  · obtain ⟨value, -, rfl⟩ := List.mem_map.mp hinner
    exact .values value

/-- However long the way is, the rows of its last table are those of the row opened last. -/
theorem holds_of_opens {path : List Entry} (h : Opens structs enums parent e path x) :
    ∀ inner ∈ x.entries, x.kind.Holds inner := by
  induction h with
  | here hx => exact holds_of_expansion hx
  | further _ _ _ ih => exact ih

end Entry

namespace Atlas

variable {files : Archive} {root : String} {s : Selection} {atlas : Atlas} {entries : List Entry} {e : Entry}

theorem holds_of_entriesOf {structs : StructTable} {enums : EnumTable}
    (h : entriesOf files root s structs enums = .ok entries) :
    ∀ e ∈ entries, (TableKind.ofMapKey s.map).Holds e := by
  intro e he
  unfold entriesOf at h
  unfold TableKind.ofMapKey
  cases hkind : MapKind.ofKey? s.map with
  | none =>
    rw [hkind] at h
    cases h
  | some m =>
    rw [hkind] at h
    have hmap : m.key = s.map := MapKind.key_of_ofKey? hkind
    cases m with
    | structs =>
      obtain ⟨d, -, rfl⟩ := List.mem_map.mp ((perm_of_listed h).mem_iff.mp he)
      exact .structs d
    | enums =>
      obtain ⟨d, -, rfl⟩ := List.mem_map.mp ((perm_of_listed h).mem_iff.mp he)
      exact .enums d
    | code =>
      obtain ⟨r, hr⟩ := exists_of_mem_readEntries h e he
      rcases (convert_eq_ok hr).2 with ⟨-, c, rfl⟩ | ⟨hne, -⟩
      · exact .code c
      · exact absurd hmap.symm hne
    | ram =>
      obtain ⟨r, hr⟩ := exists_of_mem_readEntries h e he
      rcases (convert_eq_ok hr).2 with ⟨heq, -⟩ | ⟨-, d, rfl⟩
      · exact absurd (hmap.trans heq) (by decide)
      · exact .ram d
    | data =>
      obtain ⟨r, hr⟩ := exists_of_mem_readEntries h e he
      rcases (convert_eq_ok hr).2 with ⟨heq, -⟩ | ⟨-, d, rfl⟩
      · exact absurd (hmap.trans heq) (by decide)
      · exact .data d

/-- In the main table of a map that has been loaded, and in all tables that its rows lead to, every row has a cell
for each column and for nothing else. -/
theorem fills_of_load (h : (load files root s).result = .ok atlas) :
    ∀ e ∈ atlas.entries, e.Fills atlas.structs (.ofMapKey s.map) ∧
      ∀ parent path x, Entry.Opens atlas.structs atlas.enums parent e path x →
        ∀ inner ∈ x.entries, inner.Fills atlas.structs x.kind := by
  intro e he
  obtain ⟨hread, -⟩ := load_eq_ok h
  obtain ⟨enums, -, hread⟩ := Fallible.bind_eq_ok.mp hread
  obtain ⟨structs, -, hread⟩ := Fallible.bind_eq_ok.mp hread
  obtain ⟨entries, hentries, hread⟩ := Fallible.bind_eq_ok.mp hread
  cases hread
  refine ⟨(holds_of_entriesOf hentries e he).fills structs, fun parent path x hopens inner hinner => ?_⟩
  exact (Entry.holds_of_opens hopens inner hinner).fills structs

/-- Down to the values of the enum that a member refers to. -/
theorem fills_of_load_chain :
    ∃ atlas e next x y inner, (load chain "maps" ⟨"mf", "ram", "U"⟩).result = .ok atlas ∧ e ∈ atlas.entries ∧
      e.Fills atlas.structs .ram ∧ e.expansion atlas.structs atlas.enums none = some x ∧
      Entry.Opens atlas.structs atlas.enums none e [next] y ∧ y.kind = .values ∧
      inner ∈ y.entries ∧ inner.Fills atlas.structs y.kind := by
  have hpath : ((load chain "maps" ⟨"mf", "ram", "U"⟩).result.toOption.bind fun atlas =>
      atlas.entries.head?.bind fun e => (e.expansion atlas.structs atlas.enums none).bind fun x =>
        x.entries.getLast?.bind fun next => (next.expansion atlas.structs atlas.enums x.parent).bind fun y =>
          y.entries.head?.map fun _ => y.kind) = some .values := by
    decide +kernel
  cases hload : (load chain "maps" ⟨"mf", "ram", "U"⟩).result with
  | error fault =>
    rw [hload] at hpath
    cases hpath
  | ok atlas =>
    rw [hload] at hpath
    simp only [Except.toOption, Option.bind_some, Option.bind_eq_some_iff, Option.map_eq_some_iff] at hpath
    obtain ⟨e, he, x, hx, next, hnext, y, hy, inner, hinner, hkind⟩ := hpath
    have hentry := List.mem_of_head? he
    have hopens : Entry.Opens atlas.structs atlas.enums none e [next] y :=
      .further hx (List.mem_of_getLast? hnext) (.here hy)
    obtain ⟨hfills, hbehind⟩ := fills_of_load hload e hentry
    exact ⟨atlas, e, next, x, y, inner, rfl, hentry, hfills, hx, hopens, hkind, List.mem_of_head? hinner,
      hbehind none [next] y hopens inner (List.mem_of_head? hinner)⟩

end Atlas

end MemoryAtlas
