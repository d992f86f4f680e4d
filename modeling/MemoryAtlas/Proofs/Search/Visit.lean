import MemoryAtlas.Proofs.Table
import MemoryAtlas.Proofs.Traversal
import MemoryAtlas.Search.Reach

/-!
The visit of the structs that a search can reach. The names that it starts from, and those that it adds to the pending
ones, are the names that entries and fields have (`mem_structSeeds_iff`, `mem_structRefs_iff`). It keeps an invariant
(`Visiting`) that ties the names seen and the names pending to reachability; when nothing is pending, the names seen are
all in reach.
-/

namespace MemoryAtlas

/-! Names that are found are names that are there -/

theorem Document.name?_eq_some_iff {d : Document} {name : Scalar} : d.name? = some name ↔ d.Names name := by
  unfold Document.name? Document.Names
  cases d with
  | scalar s =>
    constructor
    · intro h
      obtain ⟨hpresent, hname⟩ := Option.ite_none_right_eq_some.mp h
      obtain rfl := Option.some.inj hname
      exact ⟨rfl, hpresent⟩
    · rintro ⟨h, hpresent⟩
      obtain rfl := Document.scalar.inj h
      exact if_pos hpresent
  | list items => simp [Document.scalar?]
  | record fields => simp [Document.scalar?]

theorem TypeDecl.structRef_eq_some_iff {t : TypeDecl} {name : Scalar} :
    t.structRef = some name ↔ t.NamesStruct name := by
  unfold TypeDecl.structRef TypeDecl.NamesStruct
  cases t.spec with
  | prim p => simp [Spec.structName?]
  | struct s =>
    simp only [Spec.structName?, Option.map_eq_some_iff, Option.filter_eq_some_iff, Option.some.injEq, bne_iff_ne,
      Spec.struct.injEq]
    constructor
    · rintro ⟨s, ⟨rfl, hne⟩, rfl⟩
      exact ⟨s, rfl, hne, rfl⟩
    · rintro ⟨s, rfl, hne, rfl⟩
      exact ⟨s, ⟨rfl, hne⟩, rfl⟩

theorem Entry.structRef_eq_some_iff {e : Entry} {name : Scalar} : e.structRef = some name ↔ e.NamesStruct name := by
  constructor
  · intro h
    cases e with
    | var v => exact .var (TypeDecl.structRef_eq_some_iff.mp h)
    | data d => exact .data (TypeDecl.structRef_eq_some_iff.mp h)
    | field f => exact .field (TypeDecl.structRef_eq_some_iff.mp h)
    | struct s => exact .struct (Document.name?_eq_some_iff.mp h)
    | code c => cases h
    | enumValue v => cases h
    | enum e => cases h
  · intro h
    cases h with
    | var h | data h | field h => exact TypeDecl.structRef_eq_some_iff.mpr h
    | struct h => exact Document.name?_eq_some_iff.mpr h

theorem Entry.enumRef_eq_some_iff {e : Entry} {name : Scalar} : e.enumRef = some name ↔ e.NamesEnum name := by
  constructor
  · intro h
    cases e with
    | var v => exact .var (Document.name?_eq_some_iff.mp h)
    | data d => exact .data (Document.name?_eq_some_iff.mp h)
    | field f => exact .field (Document.name?_eq_some_iff.mp h)
    | enum e => exact .enum (Document.name?_eq_some_iff.mp h)
    | code c => cases h
    | enumValue v => cases h
    | struct s => cases h
  · intro h
    cases h with
    | var h | data h | field h | enum h => exact Document.name?_eq_some_iff.mpr h

theorem StructDef.mem_structRefs_iff {s : StructDef} {name : Scalar} :
    name ∈ s.structRefs ↔ ∃ f ∈ s.fields, f.type.NamesStruct name := by
  simp only [StructDef.structRefs, List.mem_reverse, List.mem_filterMap, TypeDecl.structRef_eq_some_iff]

theorem StructDef.mem_enumRefs_iff {s : StructDef} {name : Scalar} :
    name ∈ s.enumRefs ↔ ∃ f ∈ s.fields, f.enum.Names name := by
  simp only [StructDef.enumRefs, List.mem_filterMap, Document.name?_eq_some_iff]

namespace Scope

theorem mem_structSeeds_iff {scope : Scope} {e : Entry} {name : Scalar} :
    name ∈ scope.structSeeds e ↔ scope.options.structs = true ∧ e.NamesStruct name := by
  rw [← Entry.structRef_eq_some_iff, structSeeds]
  split
  · next hopt => simp [hopt]
  · next hopt => simp [hopt]

theorem mem_enumSeeds_iff {scope : Scope} {e : Entry} {name : Scalar} :
    name ∈ scope.enumSeeds e ↔ scope.options.enums = true ∧ e.NamesEnum name := by
  rw [← Entry.enumRef_eq_some_iff, enumSeeds]
  split
  · next hopt => simp [hopt]
  · next hopt => simp [hopt]

/-! The visit -/

theorem lookup_without (name n : Scalar) (l : List (Scalar × StructDef)) :
    (without name l).lookup n = if name == n then none else l.lookup n := by
  induction l with
  | nil => simp [without]
  | cons entry l ih =>
    obtain ⟨label, d⟩ := entry
    have hw : without name ((label, d) :: l) =
        if name == label then without name l else (label, d) :: without name l := by
      simp only [without, List.filter_cons]
      cases name == label <;> rfl
    rw [hw]
    by_cases hn : (n == label) = true
    · have he : (name == label) = (name == n) := BEq.congr_right (BEq.symm hn)
      rw [he]
      cases hm : name == n with
      | true => simp [ih, hm]
      | false => simp [List.lookup_cons, hn]
    · have hl : ∀ rest : List (Scalar × StructDef), ((label, d) :: rest).lookup n = rest.lookup n := by
        simp [List.lookup_cons, hn]
      rw [hl]
      cases name == label with
      | true => exact ih
      | false => simpa [hl] using ih

variable {scope : Scope} {t : Query.Test} {e : Entry}

/-- A defined struct that is no longer among the unseen ones. -/
def Seen (scope : Scope) (unseen : List (Scalar × StructDef)) (name : Scalar) : Prop :=
  scope.structs.has name = true ∧ unseen.lookup name = none

/-- What holds between two visits: only structs in reach are pending or seen, no field of a struct that is
seen matches, and what it refers to is noted. -/
structure Visiting (scope : Scope) (t : Query.Test) (e : Entry) (unseen : List (Scalar × StructDef))
    (enums pending : List Scalar) : Prop where
  known : ∀ {name s}, unseen.lookup name = some s → scope.structs.find? name = some s
  reached : ∀ name ∈ pending, scope.ReachesStruct e name
  named : ∀ name ∈ enums, ∃ owner s, scope.ReachesStruct e owner ∧
    scope.structs.find? owner = some s ∧ name ∈ s.enumRefs
  seeded : ∀ name ∈ scope.structSeeds e, Seen scope unseen name ∨ name ∈ pending
  missed : ∀ {name s}, scope.structs.find? name = some s → unseen.lookup name = none →
    ∀ f ∈ s.fields, hit t f.desc = .ok false
  followed : ∀ {name s}, scope.structs.find? name = some s → unseen.lookup name = none →
    ∀ ref ∈ s.structRefs, Seen scope unseen ref ∨ ref ∈ pending
  collected : ∀ {name s}, scope.structs.find? name = some s → unseen.lookup name = none →
    ∀ ref ∈ s.enumRefs, ref ∈ enums

theorem Seen.without {unseen : List (Scalar × StructDef)} {n : Scalar} (h : Seen scope unseen n)
    (name : Scalar) : Seen scope (without name unseen) n := by
  refine ⟨h.1, ?_⟩
  rw [lookup_without, h.2, ite_self]

namespace Visiting

variable {unseen : List (Scalar × StructDef)} {enums pending : List Scalar} {name : Scalar}

theorem start (scope : Scope) (t : Query.Test) (e : Entry) :
    Visiting scope t e scope.structs.entries [] (scope.structSeeds e) where
  known h := h
  reached _ h := by
    obtain ⟨hopt, hname⟩ := mem_structSeeds_iff.mp h
    exact .own hopt hname
  named _ h := absurd h List.not_mem_nil
  seeded _ h := .inr h
  missed hs hn := absurd (hs.symm.trans hn) (by simp)
  followed hs hn := absurd (hs.symm.trans hn) (by simp)
  collected hs hn := absurd (hs.symm.trans hn) (by simp)

/-- A name that has been seen already is dropped. -/
theorem skip (h : Visiting scope t e unseen enums (name :: pending)) (hseen : Seen scope unseen name) :
    Visiting scope t e unseen enums pending where
  known := h.known
  reached n hn := h.reached n (List.mem_cons_of_mem name hn)
  named := h.named
  seeded n hn := (h.seeded n hn).elim .inl fun hm => by
    rcases List.mem_cons.mp hm with rfl | hm
    · exact .inl hseen
    · exact .inr hm
  missed := h.missed
  followed hs hn ref hr := (h.followed hs hn ref hr).elim .inl fun hm => by
    rcases List.mem_cons.mp hm with rfl | hm
    · exact .inl hseen
    · exact .inr hm
  collected := h.collected

/-- What is known of a name that is not unseen behind the visit of a struct. -/
theorem find?_eq_or {s d : StructDef} {n : Scalar} (h : Visiting scope t e unseen enums (name :: pending))
    (hs : unseen.lookup name = some s) (hd : scope.structs.find? n = some d)
    (hn : (without name unseen).lookup n = none) : d = s ∨ unseen.lookup n = none := by
  rw [lookup_without] at hn
  split at hn
  · next he =>
    rw [← Table.find?_congr he, h.known hs] at hd
    exact .inl (Option.some.inj hd).symm
  · exact .inr hn

/-- The first pending name moves to the seen ones. -/
theorem seen_or_mem {s : StructDef} {n : Scalar} (h : Visiting scope t e unseen enums (name :: pending))
    (hs : unseen.lookup name = some s) (hn : Seen scope unseen n ∨ n ∈ name :: pending) :
    Seen scope (without name unseen) n ∨ n ∈ s.structRefs ++ pending := by
  rcases hn with hn | hn
  · exact .inl (hn.without name)
  · rcases List.mem_cons.mp hn with rfl | hn
    · exact .inl ⟨Table.has_of_find? (h.known hs), by simp [lookup_without]⟩
    · exact .inr (List.mem_append_right _ hn)

/-- The struct that comes next is searched in vain, and what it refers to is pending. -/
theorem visit {s : StructDef} (h : Visiting scope t e unseen enums (name :: pending))
    (hs : unseen.lookup name = some s) (hm : ∀ f ∈ s.fields, hit t f.desc = .ok false) :
    Visiting scope t e (without name unseen) (enums ++ s.enumRefs) (s.structRefs ++ pending) where
  known {n d} hn := by
    rw [lookup_without] at hn
    split at hn
    · cases hn
    · exact h.known hn
  reached n hn := by
    rcases List.mem_append.mp hn with hn | hn
    · obtain ⟨f, hf, hname⟩ := StructDef.mem_structRefs_iff.mp hn
      exact .field (h.reached name List.mem_cons_self) (h.known hs) hf hname
    · exact h.reached n (List.mem_cons_of_mem name hn)
  named n hn := by
    rcases List.mem_append.mp hn with hn | hn
    · exact h.named n hn
    · exact ⟨name, s, h.reached name List.mem_cons_self, h.known hs, hn⟩
  seeded n hn := h.seen_or_mem hs (h.seeded n hn)
  missed hd hn := by
    rcases h.find?_eq_or hs hd hn with rfl | hn
    · exact hm
    · exact h.missed hd hn
  followed hd hn ref hr := by
    rcases h.find?_eq_or hs hd hn with rfl | hn
    · exact .inr (List.mem_append_left _ hr)
    · exact h.seen_or_mem hs (h.followed hd hn ref hr)
  collected hd hn ref hr := by
    rcases h.find?_eq_or hs hd hn with rfl | hn
    · exact List.mem_append_right _ hr
    · exact List.mem_append_left _ (h.collected hd hn ref hr)

/-- When nothing is pending, everything in reach has been seen. -/
theorem seen_of_reaches {n : Scalar} (h : Visiting scope t e unseen enums [])
    (hn : scope.ReachesStruct e n) : Seen scope unseen n := by
  induction hn with
  | own hopt hname => exact (h.seeded _ (mem_structSeeds_iff.mpr ⟨hopt, hname⟩)).resolve_right List.not_mem_nil
  | field _ hs hf hname ih =>
    have href := StructDef.mem_structRefs_iff.mpr ⟨_, hf, hname⟩
    exact (h.followed hs ih.2 _ href).resolve_right List.not_mem_nil

end Visiting

/-- How a visit ends: with a field that matches, with everything in reach seen, or with a fault that lies
in reach. -/
theorem visit_spec {unseen : List (Scalar × StructDef)} {enums pending : List Scalar}
    (h : Visiting scope t e unseen enums pending) :
    match visit scope.structs (hit t) unseen enums pending with
    | .ok none => ∃ d, scope.ReachesDesc e d ∧ hit t d = .ok true
    | .ok (some found) => ∃ rest, Visiting scope t e rest found []
    | .error fault => (∃ name, fault = .struct ⟨name⟩ ∧ scope.ReachesStruct e name ∧
          scope.structs.has name = false) ∨
        ∃ d, scope.ReachesDesc e d ∧ hit t d = .error fault := by
  fun_induction visit scope.structs (hit t) unseen enums pending with
  | case1 unseen enums => exact ⟨unseen, h⟩
  | case2 unseen enums name pending s hs fault hf =>
    obtain ⟨f, hmem, hfault⟩ := Traversal.exists_of_anyM_eq_error hf
    exact .inr ⟨f.desc, .field (h.reached name List.mem_cons_self) (h.known hs) hmem, hfault⟩
  | case3 unseen enums name pending s hs hf =>
    obtain ⟨f, hmem, hhit⟩ := Traversal.exists_of_anyM_eq_true hf
    exact ⟨f.desc, .field (h.reached name List.mem_cons_self) (h.known hs) hmem, hhit⟩
  | case4 unseen enums name pending s hs hf ih =>
    exact ih (h.visit hs (Traversal.forall_of_anyM_eq_false hf))
  | case5 unseen enums name pending hs hhas ih => exact ih (h.skip ⟨hhas, hs⟩)
  | case6 unseen enums name pending hs hhas =>
    exact .inl ⟨name, rfl, h.reached name List.mem_cons_self, by simpa using hhas⟩

end Scope

end MemoryAtlas
