import MemoryAtlas.Layout
import MemoryAtlas.Pattern.Search
import MemoryAtlas.Query.Clause
import MemoryAtlas.Text.Characters

/-!
Which entries a text clause matches. An entry matches by its own description or by that of a struct
member or enum value it refers to, as far as the search options let the search go. Structs that refer
to each other are visited once.
-/

namespace MemoryAtlas

/-- The test holds of a description, in lower case. -/
def Query.Test.holds (t : Query.Test) (desc : String) : Bool :=
  let s := Text.lower desc.toList
  match t with
  | .term text => (Text.words s).contains text.toList
  | .quote text => Text.occurs text.toList s
  | .regex _ pattern => pattern.foundIn s
  | .address .. | .unfinished _ => false

/-- The text that a description is searched as; one that amounts to nothing is the empty text. -/
def Document.descText? (d : Document) : Option String := if d.isPresent then d.asText? else some ""

namespace Entry

/-- The struct that an entry refers to, or is. -/
def structRef : Entry → Option Scalar
  | .struct s => s.label.name?
  | e => e.var?.bind fun v => v.type.structRef

/-- The enum that an entry refers to, or is. -/
def enumRef : Entry → Option Scalar
  | .enum e => e.label.name?
  | e => e.var?.bind fun v => v.enum.name?

end Entry

namespace StructDef

/-- The structs that the fields refer to, the last field first. -/
def structRefs (s : StructDef) : List Scalar := (s.fields.filterMap fun f => f.type.structRef).reverse

def enumRefs (s : StructDef) : List Scalar := s.fields.filterMap fun f => f.enum.name?

end StructDef

/-- How far searches for text go beyond the entries. -/
structure SearchOptions where
  structs : Bool
  enums : Bool
deriving DecidableEq

/-- The definitions that a search may look into. -/
structure Scope where
  structs : StructTable
  enums : EnumTable
  options : SearchOptions

namespace Scope

/-- Why a search fails: a struct is not defined, a description is no text, or a clause has nothing to
compare with. -/
inductive Fault where
  | struct (fault : UnknownStruct)
  | noText
  | unfinished (gap : Query.Gap)
deriving DecidableEq

def Fault.message : Fault → String
  | .struct fault => fault.message
  | .noText => "A description is no text"
  | .unfinished _ => "A clause has nothing to compare with"

/-- The test holds of a description. -/
def hit (t : Query.Test) (desc : Document) : Except Fault Bool :=
  match desc.descText? with
  | some text => .ok (t.holds text)
  | none => .error .noText

def fieldCount : List (Scalar × StructDef) → Nat
  | [] => 0
  | e :: rest => e.2.fields.length + fieldCount rest

def without (name : Scalar) (entries : List (Scalar × StructDef)) : List (Scalar × StructDef) :=
  entries.filter fun e => !(name == e.1)

theorem fieldCount_without_le (name : Scalar) (entries : List (Scalar × StructDef)) :
    fieldCount (without name entries) ≤ fieldCount entries := by
  induction entries with
  | nil => simp [without]
  | cons e rest ih =>
    simp only [without, List.filter_cons] at ih ⊢
    split
    · simp only [fieldCount]
      omega
    · simp only [fieldCount]
      omega

theorem fieldCount_without_add (name : Scalar) {entries : List (Scalar × StructDef)}
    {s : StructDef} (h : entries.lookup name = some s) :
    fieldCount (without name entries) + s.fields.length ≤ fieldCount entries := by
  induction entries with
  | nil => simp at h
  | cons e rest ih =>
    obtain ⟨label, d⟩ := e
    by_cases hl : (name == label) = true
    · have hs : d = s := by simpa [List.lookup_cons, hl] using h
      have := fieldCount_without_le name rest
      simp [fieldCount, without, hs, hl] at this ⊢
      omega
    · have hn : (name == label) = false := by simpa using hl
      have := ih (by simpa [List.lookup_cons, hn] using h)
      simp [fieldCount, without, hn] at this ⊢
      omega

theorem structRefs_length_le (s : StructDef) : s.structRefs.length ≤ s.fields.length := by
  simpa [StructDef.structRefs] using List.length_filterMap_le _ s.fields

/-- Visits the pending structs and those they lead to, the latest found first. The answer is nothing
as soon as a field matches, and otherwise the enums found on the way. -/
def visit (structs : StructTable) (hit : Document → Except Fault Bool)
    (unseen : List (Scalar × StructDef)) (enums : List Scalar) :
    (pending : List Scalar) → Except Fault (Option (List Scalar))
  | [] => .ok (some enums)
  | name :: pending =>
    match _h : unseen.lookup name with
    | some s =>
      match s.fields.anyM fun f => hit f.desc with
      | .error fault => .error fault
      | .ok true => .ok none
      | .ok false => visit structs hit (without name unseen) (enums ++ s.enumRefs) (s.structRefs ++ pending)
    | none =>
      if structs.has name then visit structs hit unseen enums pending else .error (.struct ⟨name⟩)
termination_by pending => pending.length + fieldCount unseen
decreasing_by
  · have h₁ := fieldCount_without_add name _h
    have h₂ := structRefs_length_le s
    simp only [List.length_append, List.length_cons]
    omega
  · simp only [List.length_cons]
    omega

/-- Enums that are not defined are passed over. -/
def enumHit (scope : Scope) (hit : Document → Except Fault Bool) (name : Scalar) : Except Fault Bool :=
  match scope.enums.find? name with
  | some e => e.vals.anyM fun v => hit v.desc
  | none => .ok false

def structSeeds (scope : Scope) (e : Entry) : List Scalar :=
  if scope.options.structs then e.structRef.toList else []

def enumSeeds (scope : Scope) (e : Entry) : List Scalar :=
  if scope.options.enums then e.enumRef.toList else []

/-- The entry, or something it refers to, matches the test. The enums come last, the latest found first. -/
def hits (scope : Scope) (t : Query.Test) (e : Entry) : Except Fault Bool := do
  if ← hit t e.desc then return true
  match ← visit scope.structs (hit t) scope.structs.entries [] (scope.structSeeds e) with
  | none => return true
  | some found =>
    let names := scope.enumSeeds e ++ (if scope.options.enums then found else [])
    names.reverse.anyM (scope.enumHit (hit t))

end Scope

end MemoryAtlas
