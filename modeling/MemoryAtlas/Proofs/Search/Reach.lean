import MemoryAtlas.Proofs.References
import MemoryAtlas.Proofs.Search.Visit

/-!
A search for text is decided by what it can reach: by the descriptions that match and by the structs that
are not defined.
-/

namespace MemoryAtlas

namespace Scope

variable {scope : Scope} {t : Query.Test} {e : Entry}

/-- The enums that a visit has come across are the ones in reach. -/
theorem mem_enumNames_iff {rest : List (Scalar × StructDef)} {found : List Scalar}
    (h : Visiting scope t e rest found []) (name : Scalar) :
    name ∈ scope.enumSeeds e ++ (if scope.options.enums then found else []) ↔
      scope.ReachesEnum e name := by
  rw [List.mem_append]
  constructor
  · rintro (hn | hn)
    · obtain ⟨hopt, hname⟩ := mem_enumSeeds_iff.mp hn
      exact .own hopt hname
    · split at hn
      · next hopt =>
        obtain ⟨owner, s, ho, hs, href⟩ := h.named name hn
        obtain ⟨f, hf, hname⟩ := StructDef.mem_enumRefs_iff.mp href
        exact .field hopt ho hs hf hname
      · exact absurd hn List.not_mem_nil
  · intro hn
    cases hn with
    | own hopt hname => exact .inl (mem_enumSeeds_iff.mpr ⟨hopt, hname⟩)
    | field hopt ho hs hf hname =>
      rw [if_pos hopt]
      exact .inr (h.collected hs (h.seen_of_reaches ho).2 _ (StructDef.mem_enumRefs_iff.mpr ⟨_, hf, hname⟩))

theorem of_enumHit_eq_true {name : Scalar} (h : scope.enumHit (hit t) name = .ok true)
    (hn : scope.ReachesEnum e name) : ∃ d, scope.ReachesDesc e d ∧ hit t d = .ok true := by
  unfold enumHit at h
  split at h
  · next def? hd =>
    obtain ⟨v, hv, hhit⟩ := Traversal.exists_of_anyM_eq_true h
    exact ⟨v.desc, .value hn hd hv, hhit⟩
  · cases h

theorem of_enumHit_eq_error {name : Scalar} {fault : Fault}
    (h : scope.enumHit (hit t) name = .error fault) (hn : scope.ReachesEnum e name) :
    ∃ d, scope.ReachesDesc e d ∧ hit t d = .error fault := by
  unfold enumHit at h
  split at h
  · next def? hd =>
    obtain ⟨v, hv, hhit⟩ := Traversal.exists_of_anyM_eq_error h
    exact ⟨v.desc, .value hn hd hv, hhit⟩
  · cases h

theorem of_enumHit_eq_false {name : Scalar} {d : EnumDef} {v : EnumValue}
    (h : scope.enumHit (hit t) name = .ok false) (hd : scope.enums.find? name = some d)
    (hv : v ∈ d.vals) : hit t v.desc = .ok false := by
  simp only [enumHit, hd] at h
  exact Traversal.forall_of_anyM_eq_false h v hv

/-- Nothing else can go wrong with a description than that it is no text. -/
theorem hit_eq_error {d : Document} {fault : Fault} (h : hit t d = .error fault) :
    fault = .noText ∧ d.descText? = none := by
  unfold hit at h
  split at h
  · cases h
  · next hd =>
    cases h
    exact ⟨rfl, hd⟩

/-- A fault with a struct or a description that the search can reach. -/
def Reached (scope : Scope) (e : Entry) (fault : Fault) : Prop :=
  (∃ name, fault = .struct ⟨name⟩ ∧ scope.ReachesStruct e name ∧ scope.structs.has name = false) ∨
    (fault = .noText ∧ ∃ d, scope.ReachesDesc e d ∧ d.descText? = none)

theorem reached_of_hit_eq_error {d : Document} {fault : Fault} (hd : scope.ReachesDesc e d)
    (h : hit t d = .error fault) : Reached scope e fault := by
  obtain ⟨hf, hnone⟩ := hit_eq_error h
  exact .inr ⟨hf, d, hd, hnone⟩

/-- What the enums decide when no struct in reach has a match. -/
theorem enums_spec {rest : List (Scalar × StructDef)} {found : List Scalar}
    (h : Visiting scope t e rest found []) (hown : hit t e.desc = .ok false) :
    match (scope.enumSeeds e ++ (if scope.options.enums then found else [])).reverse.anyM
        (scope.enumHit (hit t)) with
    | .ok true => ∃ d, scope.ReachesDesc e d ∧ hit t d = .ok true
    | .ok false => (∀ d, scope.ReachesDesc e d → hit t d = .ok false) ∧
        ∀ name, scope.ReachesStruct e name → scope.structs.has name = true
    | .error fault => Reached scope e fault := by
  have hreach : ∀ name, name ∈ (scope.enumSeeds e ++ (if scope.options.enums then found else [])).reverse ↔
      scope.ReachesEnum e name := fun name => List.mem_reverse.trans (mem_enumNames_iff h name)
  split
  · next ha =>
    obtain ⟨name, hn, hhit⟩ := Traversal.exists_of_anyM_eq_true ha
    exact of_enumHit_eq_true hhit ((hreach name).mp hn)
  · next ha =>
    refine ⟨fun d hd => ?_, fun name hn => (h.seen_of_reaches hn).1⟩
    cases hd with
    | own => exact hown
    | field ho hs hf => exact h.missed hs (h.seen_of_reaches ho).2 _ hf
    | value hn hd hv =>
      exact of_enumHit_eq_false (Traversal.forall_of_anyM_eq_false ha _ ((hreach _).mpr hn)) hd hv
  · next ha =>
    obtain ⟨name, hn, hfault⟩ := Traversal.exists_of_anyM_eq_error ha
    obtain ⟨d, hd, hdesc⟩ := of_enumHit_eq_error hfault ((hreach name).mp hn)
    exact reached_of_hit_eq_error hd hdesc

/-- Each outcome of a search for text is accounted for by what is in reach. -/
theorem hits_spec (scope : Scope) (t : Query.Test) (e : Entry) :
    match scope.hits t e with
    | .ok true => ∃ d, scope.ReachesDesc e d ∧ hit t d = .ok true
    | .ok false => (∀ d, scope.ReachesDesc e d → hit t d = .ok false) ∧
        ∀ name, scope.ReachesStruct e name → scope.structs.has name = true
    | .error fault => Reached scope e fault := by
  have hvisit := visit_spec (Visiting.start scope t e)
  cases hown : hit t e.desc with
  | error fault =>
    simp only [hits, hown]
    exact reached_of_hit_eq_error .own hown
  | ok matched =>
    cases matched with
    | true =>
      simp only [hits, hown]
      exact ⟨e.desc, .own, hown⟩
    | false =>
      cases hv : visit scope.structs (hit t) scope.structs.entries [] (scope.structSeeds e) with
      | error fault =>
        simp only [hits, hown, hv] at hvisit ⊢
        rcases hvisit with hname | ⟨d, hd, hfault⟩
        · exact .inl hname
        · exact reached_of_hit_eq_error hd hfault
      | ok outcome =>
        cases outcome with
        | none =>
          simp only [hits, hown, hv] at hvisit ⊢
          exact hvisit
        | some found =>
          simp only [hits, hown, hv] at hvisit ⊢
          obtain ⟨rest, h⟩ := hvisit
          exact enums_spec h hown

/-- The test holds of the text that a description is searched as. -/
def Matches (t : Query.Test) (d : Document) : Prop := ∃ text, d.descText? = some text ∧ t.holds text = true

theorem hit_eq_true_iff {d : Document} : hit t d = .ok true ↔ Matches t d := by
  unfold hit Matches
  cases d.descText? <;> simp

theorem hit_eq_false_iff {d : Document} (hd : d.descText?.isSome) :
    hit t d = .ok false ↔ ¬ Matches t d := by
  obtain ⟨text, htext⟩ := Option.isSome_iff_exists.mp hd
  simp [hit, Matches, htext]

theorem exists_matches_of_hits (h : scope.hits t e = .ok true) :
    ∃ d, scope.ReachesDesc e d ∧ Matches t d := by
  have hspec := hits_spec scope t e
  rw [h] at hspec
  obtain ⟨d, hd, hhit⟩ := hspec
  exact ⟨d, hd, hit_eq_true_iff.mp hhit⟩

section

variable (htext : ∀ d, scope.ReachesDesc e d → d.descText?.isSome)
include htext

theorem not_matches_of_hits (h : scope.hits t e = .ok false) :
    (∀ d, scope.ReachesDesc e d → ¬ Matches t d) ∧
      ∀ name, scope.ReachesStruct e name → scope.structs.has name = true := by
  have hspec := hits_spec scope t e
  rw [h] at hspec
  exact ⟨fun d hd => (hit_eq_false_iff (htext d hd)).mp (hspec.1 d hd), hspec.2⟩

theorem undefined_of_hits {fault : Fault} (h : scope.hits t e = .error fault) :
    ∃ name, fault = .struct ⟨name⟩ ∧ scope.ReachesStruct e name ∧ scope.structs.has name = false := by
  have hspec := hits_spec scope t e
  rw [h] at hspec
  rcases hspec with hname | ⟨-, d, hd, hnone⟩
  · exact hname
  · have hsome := htext d hd
    rw [hnone] at hsome
    cases hsome

theorem exists_hits (hdef : ∀ name, scope.ReachesStruct e name → scope.structs.has name = true) :
    ∃ answer, scope.hits t e = .ok answer := by
  cases h : scope.hits t e with
  | ok answer => exact ⟨answer, rfl⟩
  | error fault =>
    obtain ⟨name, -, hreach, hundef⟩ := undefined_of_hits htext h
    rw [hdef name hreach] at hundef
    cases hundef

end

/-- The fields of all structs refer to defined structs only. -/
def Closed (scope : Scope) : Prop :=
  ∀ s ∈ scope.structs.definitions, ∀ f ∈ s.fields, References.undefinedStruct? scope.structs f.toVar = none

/-- The entry refers to defined structs only; if it is a struct itself, it is one of them. -/
structure Admits (scope : Scope) (e : Entry) : Prop where
  typed : ∀ v ∈ e.var?, References.undefinedStruct? scope.structs v = none
  referred : ∀ name ∈ e.structRef, scope.structs.has name = true

/-- The descriptions of all fields and of all values of enums are texts. -/
structure Legible (scope : Scope) : Prop where
  fields : ∀ s ∈ scope.structs.definitions, ∀ f ∈ s.fields, f.desc.descText?.isSome
  values : ∀ d ∈ scope.enums.definitions, ∀ v ∈ d.vals, v.desc.descText?.isSome

theorem has_of_structRef {structs : StructTable} {v : Var} {name : Scalar}
    (h : References.undefinedStruct? structs v = none) (hn : v.type.structRef = some name) :
    structs.has name = true := by
  obtain ⟨s, hs, rfl⟩ := Option.map_eq_some_iff.mp hn
  exact References.has_of_structName? h (Option.filter_eq_some_iff.mp hs).1

theorem Closed.has_of_reaches (hc : scope.Closed) (he : scope.Admits e) {name : Scalar}
    (h : scope.ReachesStruct e name) : scope.structs.has name = true := by
  cases h with
  | own hopt hname => exact he.referred _ (Entry.structRef_eq_some_iff.mpr hname)
  | field _ hs hf hname =>
    exact has_of_structRef (hc _ (Table.mem_definitions_of_find? hs) _ hf) (TypeDecl.structRef_eq_some_iff.mpr hname)

theorem Legible.text_of_reaches (hl : scope.Legible) (hown : e.desc.descText?.isSome) {d : Document}
    (h : scope.ReachesDesc e d) : d.descText?.isSome := by
  cases h with
  | own => exact hown
  | field _ hs hf => exact hl.fields _ (Table.mem_definitions_of_find? hs) _ hf
  | value _ hd hv => exact hl.values _ (Table.mem_definitions_of_find? hd) _ hv

/-- A search for text says yes only if a description in reach matches. If all descriptions in reach are
texts, it says yes when one of them matches and all structs in reach are defined, and no when none
matches; an undefined struct in reach makes a search without a match fail with such a struct. -/
theorem hits_decided_by_reach (scope : Scope) (t : Query.Test) (e : Entry) :
    (scope.hits t e = .ok true → ∃ d, scope.ReachesDesc e d ∧ Matches t d) ∧
    ((∀ d, scope.ReachesDesc e d → d.descText?.isSome) →
      ((¬ ∃ d, scope.ReachesDesc e d ∧ Matches t d) →
        (∀ name, scope.ReachesStruct e name → scope.structs.has name = true) →
        scope.hits t e = .ok false) ∧
      ((¬ ∃ d, scope.ReachesDesc e d ∧ Matches t d) →
        (∃ name, scope.ReachesStruct e name ∧ scope.structs.has name = false) →
        ∃ name, scope.ReachesStruct e name ∧ scope.structs.has name = false ∧
          scope.hits t e = .error (.struct ⟨name⟩)) ∧
      ((∃ d, scope.ReachesDesc e d ∧ Matches t d) →
        (∀ name, scope.ReachesStruct e name → scope.structs.has name = true) →
        scope.hits t e = .ok true)) := by
  refine ⟨exists_matches_of_hits, fun htext => ⟨fun hnone hdef => ?_, fun hnone hundef => ?_,
    fun hsome hdef => ?_⟩⟩
  · obtain ⟨answer, h⟩ := exists_hits (t := t) htext hdef
    cases answer with
    | true => exact absurd (exists_matches_of_hits h) hnone
    | false => exact h
  · cases h : scope.hits t e with
    | ok answer =>
      cases answer with
      | true => exact absurd (exists_matches_of_hits h) hnone
      | false =>
        obtain ⟨name, hreach, hn⟩ := hundef
        rw [(not_matches_of_hits htext h).2 name hreach] at hn
        cases hn
    | error fault =>
      obtain ⟨name, rfl, hreach, hn⟩ := undefined_of_hits htext h
      exact ⟨name, hreach, hn, rfl⟩
  · obtain ⟨answer, h⟩ := exists_hits (t := t) htext hdef
    cases answer with
    | true => exact h
    | false =>
      obtain ⟨d, hd, hm⟩ := hsome
      exact absurd hm ((not_matches_of_hits htext h).1 d hd)

def nodeDef : StructDef where
  label := .text "Node"
  desc := .text ""
  notes := .null
  size := 8
  fields := [
    { label := .text "", desc := .text "Next link", notes := .null, type := ⟨.struct "Link", some "*"⟩,
      count := none, category := none, enum := .null, offset := 4 }]

def linkDef : StructDef where
  label := .text "Link"
  desc := .text ""
  notes := .null
  size := 8
  fields := [
    { label := .text "", desc := .null, notes := .null, type := ⟨.struct "Node", some "*"⟩,
      count := none, category := none, enum := .text "Mode", offset := 0 }]

def modeDef : EnumDef where
  label := .text "Mode"
  desc := .text ""
  notes := .null
  vals := [{ label := .text "", desc := .text "Morph ball", notes := .null, val := 1 }]

/-- Two structs that refer to each other, and an enum that the second one refers to. -/
def ring : Scope where
  structs := Table.ofList (fun s => s.label.scalar?) [nodeDef, linkDef]
  enums := Table.ofList (fun e => e.label.scalar?) [modeDef]
  options := ⟨true, true⟩

def ringEntry (addr : Int) : Entry :=
  .data {
    label := .text "", desc := .text "A node", notes := .null, type := ⟨.struct "Node", none⟩,
    count := none, category := none, enum := .null, addr }

/-- A byte with the values of the enum. -/
def modeByte : Entry :=
  .data {
    label := .text "", desc := .null, notes := .null, type := ⟨.prim .u8, none⟩, count := none, category := none,
    enum := .text "Mode", addr := 16 }

/-- Data of a struct that is not defined. -/
def lostEntry : Entry :=
  .data {
    label := .text "", desc := .text "Lost", notes := .null, type := ⟨.struct "Lost", none⟩, count := none,
    category := none, enum := .null, addr := 16 }

theorem ring_closed : ring.Closed := by
  unfold Closed
  decide +kernel

theorem ring_admits (addr : Int) : ring.Admits (ringEntry addr) where
  typed v hv := by
    cases hv
    rfl
  referred name hname := by
    cases hname
    rfl

theorem ring_admits_node : ring.Admits (.struct nodeDef) where
  typed v hv := by cases hv
  referred name hname := by
    cases hname
    rfl

theorem ring_admits_byte : ring.Admits modeByte where
  typed v hv := by
    cases hv
    rfl
  referred name hname := by cases hname

theorem ring_admits_mode : ring.Admits (.enum modeDef) where
  typed v hv := by cases hv
  referred name hname := by cases hname

theorem ring_legible : ring.Legible where
  fields := by decide +kernel
  values := by decide +kernel

/-- The second struct is reached from the first one, and the enum from the second. -/
theorem reachesEnum_mode {e : Entry} (h : ring.ReachesStruct e (.text "Node")) : ring.ReachesEnum e (.text "Mode") := by
  have hlink : ring.ReachesStruct e (.text "Link") := .field h rfl List.mem_cons_self ⟨"Link", rfl, by decide, rfl⟩
  exact .field rfl hlink rfl List.mem_cons_self ⟨rfl, by decide⟩

theorem eq_of_reachesStruct_lost {name : Scalar} (h : ring.ReachesStruct lostEntry name) : name = .text "Lost" := by
  induction h with
  | own hopt hname =>
    cases hname with
    | data htype =>
      obtain ⟨s, hs, -, rfl⟩ := htype
      exact congrArg Scalar.text (Spec.struct.inj hs).symm
  | field ho hs hf hname ih =>
    subst ih
    cases hs

theorem eq_of_reachesDesc_lost {d : Document} (h : ring.ReachesDesc lostEntry d) : d = .text "Lost" := by
  cases h with
  | own => rfl
  | field ho hs hf =>
    obtain rfl := eq_of_reachesStruct_lost ho
    cases hs
  | value hn hd hv =>
    cases hn with
    | own hopt hname =>
      cases hname with
      | data henum =>
        obtain ⟨hnull, hpresent⟩ := henum
        obtain rfl := Document.scalar.inj hnull
        cases hpresent
    | field hopt ho hs hf hname =>
      obtain rfl := eq_of_reachesStruct_lost ho
      cases hs

/-- A value of the enum is found by way of both structs, from data or from the definition of the first one, and from
what has the enum itself, be it data or the definition. A struct that is not defined makes the search fail. -/
theorem hits_ring :
    ring.hits (.term "ball") (ringEntry 0) = .ok true ∧ ring.hits (.term "ball") (.struct nodeDef) = .ok true ∧
      ring.hits (.term "ball") modeByte = .ok true ∧ ring.hits (.term "ball") (.enum modeDef) = .ok true ∧
      ring.hits (.term "ball") lostEntry = .error (.struct ⟨.text "Lost"⟩) := by
  have hball (e : Entry) (hdesc : e.desc.descText?.isSome) (hadmits : ring.Admits e)
      (hmode : ring.ReachesEnum e (.text "Mode")) : ring.hits (.term "ball") e = .ok true := by
    refine ((hits_decided_by_reach ring (.term "ball") e).2 fun d => ring_legible.text_of_reaches hdesc).2.2 ?_
      fun name => ring_closed.has_of_reaches hadmits
    exact ⟨.text "Morph ball", .value hmode rfl List.mem_cons_self, "Morph ball", by decide +kernel, by decide +kernel⟩
  refine ⟨?_, ?_, ?_, ?_, ?_⟩
  · exact hball _ rfl (ring_admits 0) (reachesEnum_mode (.own rfl (.data ⟨"Node", rfl, by decide, rfl⟩)))
  · exact hball _ rfl ring_admits_node (reachesEnum_mode (.own rfl (.struct ⟨rfl, by decide⟩)))
  · exact hball _ rfl ring_admits_byte (.own rfl (.data ⟨rfl, by decide⟩))
  · exact hball _ rfl ring_admits_mode (.own rfl (.enum ⟨rfl, by decide⟩))
  · have htext : ∀ d, ring.ReachesDesc lostEntry d → d.descText?.isSome := fun d hd => by
      rw [eq_of_reachesDesc_lost hd]
      rfl
    have hnone : ¬ ∃ d, ring.ReachesDesc lostEntry d ∧ Matches (.term "ball") d := by
      rintro ⟨d, hd, text, hdesc, hholds⟩
      rw [eq_of_reachesDesc_lost hd] at hdesc
      obtain rfl := Option.some.inj hdesc
      exact absurd hholds (by decide +kernel)
    have hlost : ring.ReachesStruct lostEntry (.text "Lost") := .own rfl (.data ⟨"Lost", rfl, by decide, rfl⟩)
    obtain ⟨name, hname, -, hfails⟩ :=
      ((hits_decided_by_reach ring (.term "ball") lostEntry).2 htext).2.1 hnone ⟨_, hlost, rfl⟩
    rwa [eq_of_reachesStruct_lost hname] at hfails

end Scope

end MemoryAtlas
