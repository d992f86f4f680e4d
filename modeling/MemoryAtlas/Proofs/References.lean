import MemoryAtlas.References
import Mathlib.Data.List.TakeWhile

/-!
What a check of references comes to. The variables are gone through in one order, those of the entries and then
the fields of all structs, and the first one with a struct that is not in the table ends the check. All before it,
and only these, have given the warnings.
-/

namespace MemoryAtlas.References

variable {structs : StructTable} {enums : EnumTable} {vars : List Var} {v : Var}

/-! One variable -/

/-- Only what the table has is referred to. -/
def defined (structs : StructTable) (v : Var) : Bool :=
  v.type.spec.structName?.all fun name => structs.has (.text name)

theorem undefinedStruct?_eq_none_iff : undefinedStruct? structs v = none ↔ defined structs v = true := by
  rw [undefinedStruct?, defined]
  cases v.type.spec.structName? with
  | none => exact ⟨fun _ => rfl, fun _ => rfl⟩
  | some name => simp

theorem has_of_structName? {name : String} (h : undefinedStruct? structs v = none)
    (hname : v.type.spec.structName? = some name) : structs.has (.text name) = true := by
  have hdefined := undefinedStruct?_eq_none_iff.mp h
  rwa [defined, hname] at hdefined

theorem undefinedStruct?_eq_some_iff {name : Scalar} : undefinedStruct? structs v = some name ↔
    ∃ s, v.type.spec = .struct s ∧ structs.has (.text s) = false ∧ name = .text s := by
  rw [undefinedStruct?]
  cases v.type.spec with
  | prim p => simp [Spec.structName?]
  | struct s =>
    simp only [Spec.structName?, Option.map_some, Option.filter_eq_some_iff, Option.some.injEq,
      Spec.struct.injEq, Bool.not_eq_true']
    constructor
    · rintro ⟨rfl, h⟩
      exact ⟨s, rfl, h, rfl⟩
    · rintro ⟨t, rfl, h, rfl⟩
      exact ⟨rfl, h⟩

/-- The check goes on behind such a variable. -/
def passes (structs : StructTable) (v : Var) : Bool := defined structs v && hasName v

theorem defined_of_passes (h : passes structs v = true) : defined structs v = true :=
  (Bool.and_eq_true_iff.mp h).1

theorem passes_of_undefinedStruct? {name : Scalar} (h : undefinedStruct? structs v = some name) :
    passes structs v = false := by
  refine Bool.eq_false_iff.mpr fun hpasses => ?_
  rw [undefinedStruct?_eq_none_iff.mpr (defined_of_passes hpasses)] at h
  cases h

/-- What a variable is to blame for, if the check ends with it. -/
def faultOf (structs : StructTable) (v : Var) : Fault :=
  match undefinedStruct? structs v with
  | some name => .struct ⟨name⟩
  | none => .noName

theorem check_cons_of_passes (h : passes structs v = true) :
    check structs enums (v :: vars) = (check structs enums vars).warn (undefinedEnum? enums v).toList := by
  obtain ⟨hdefined, hname⟩ := Bool.and_eq_true_iff.mp h
  rw [check, undefinedStruct?_eq_none_iff.mpr hdefined]
  exact if_pos hname

theorem check_cons_of_not_passes (h : passes structs v = false) :
    check structs enums (v :: vars) = .error (faultOf structs v) := by
  rw [check, faultOf]
  cases hstruct : undefinedStruct? structs v with
  | some name => rfl
  | none =>
    have hname : hasName v = false := by
      rwa [passes, undefinedStruct?_eq_none_iff.mp hstruct, Bool.true_and] at h
    exact if_neg (Bool.eq_false_iff.mp hname)

/-! All variables -/

/-- The first variable that the check cannot go behind has the fault, those before it have the warnings. -/
theorem check_eq (structs : StructTable) (enums : EnumTable) (vars : List Var) :
    check structs enums vars =
      ⟨(vars.takeWhile (passes structs)).filterMap (undefinedEnum? enums),
        match vars.find? fun v => !passes structs v with
        | none => .ok ()
        | some v => .error (faultOf structs v)⟩ := by
  induction vars with
  | nil => rfl
  | cons v vars ih =>
    cases h : passes structs v with
    | true =>
      rw [check_cons_of_passes h, ih, List.takeWhile_cons_of_pos h, List.find?_cons_of_neg (by simp [h]),
        List.filterMap_cons, Checked.warn]
      cases undefinedEnum? enums v <;> rfl
    | false =>
      rw [check_cons_of_not_passes h, List.takeWhile_cons_of_neg (by simp [h]),
        List.find?_cons_of_pos (by simp [h])]
      rfl

theorem check_result_eq_ok_iff :
    (check structs enums vars).result = .ok () ↔ ∀ v ∈ vars, passes structs v = true := by
  rw [check_eq]
  cases h : vars.find? fun v => !passes structs v with
  | none => simpa using h
  | some v =>
    obtain ⟨hfalse, hv⟩ := And.intro (List.find?_some h) (List.mem_of_find?_eq_some h)
    constructor
    · intro h
      cases h
    · intro hall
      rw [hall v hv] at hfalse
      cases hfalse

theorem check_result_eq_error_iff {fault : Fault} :
    (check structs enums vars).result = .error fault ↔
      ∃ before v after, vars = before ++ v :: after ∧ (∀ b ∈ before, passes structs b = true) ∧
        passes structs v = false ∧ faultOf structs v = fault := by
  rw [check_eq]
  constructor
  · intro h
    dsimp only at h
    split at h
    · cases h
    · next v hfind =>
      obtain ⟨hv, before, after, hsplit, hbefore⟩ := List.find?_eq_some_iff_append.mp hfind
      exact ⟨before, v, after, hsplit, fun b hb => by simpa using hbefore b hb, by simpa using hv,
        Except.error.inj h⟩
  · rintro ⟨before, v, after, hsplit, hbefore, hv, rfl⟩
    rw [List.find?_eq_some_iff_append.mpr ⟨by simp [hv], before, after, hsplit, fun b hb => by simp [hbefore b hb]⟩]

/-- A check that finds no fault has seen all variables, and has warned of each enum that is not defined. -/
theorem check_eq_ok (h : (check structs enums vars).result = .ok ()) :
    (∀ v ∈ vars, undefinedStruct? structs v = none ∧ hasName v = true) ∧
      (check structs enums vars).warnings = vars.filterMap (undefinedEnum? enums) := by
  have hall := check_result_eq_ok_iff.mp h
  refine ⟨fun v hv => ?_, ?_⟩
  · obtain ⟨hdefined, hname⟩ := Bool.and_eq_true_iff.mp (hall v hv)
    exact ⟨undefinedStruct?_eq_none_iff.mpr hdefined, hname⟩
  · rw [check_eq, List.takeWhile_eq_self_iff.mpr hall]

/-! Entries and tables -/

/-- The variables that come with an entry, in the order in which they are looked at. -/
def varsOf : Entry → List Var
  | .data d => [d.toVar]
  | .field f => [f.toVar]
  | .var v => [v]
  | .code c => c.params ++ c.ret.toList
  | .enumValue _ | .struct _ | .enum _ => []

def listing (entries : List Entry) (structs : StructTable) : List Var :=
  entries.flatMap varsOf ++ (structs.definitions.flatMap StructDef.fields).map Field.toVar

theorem all_eq_listing (entries : List Entry) (structs : StructTable) :
    all entries structs = listing entries structs := by
  have htyped : typedVars = varsOf := by
    funext e
    cases e <;> rfl
  rw [all, listing, htyped, List.map_flatMap]

/-- The defined variables up to the first one that is not. -/
def front (structs : StructTable) (vars : List Var) : List Var := vars.takeWhile (defined structs)

theorem front_append {before after : List Var} (h : ∀ b ∈ before, defined structs b = true) :
    front structs (before ++ after) = before ++ front structs after :=
  List.takeWhile_append_of_pos h

/-! Names of enums as they should be: each one up to the first struct that is not defined can be a name. -/

section Named

variable (hnames : ∀ v ∈ front structs vars, hasName v = true)

include hnames

theorem passes_of_mem_front (hv : v ∈ front structs vars) : passes structs v = true :=
  Bool.and_eq_true_iff.mpr ⟨List.mem_takeWhile_imp hv, hnames v hv⟩

theorem takeWhile_passes : vars.takeWhile (passes structs) = front structs vars := by
  induction vars with
  | nil => rfl
  | cons v vars ih =>
    cases h : defined structs v with
    | false =>
      have hpasses : ¬ passes structs v = true := fun hpasses => by simp [defined_of_passes hpasses] at h
      rw [List.takeWhile_cons_of_neg hpasses, front, List.takeWhile_cons_of_neg (by simp [h])]
    | true =>
      rw [front, List.takeWhile_cons_of_pos h] at hnames ⊢
      obtain ⟨hname, hnames⟩ := List.forall_mem_cons.mp hnames
      rw [List.takeWhile_cons_of_pos (by rw [passes, h, hname]; rfl), ih hnames, front]

theorem ends_well_iff :
    (check structs enums vars).result = .ok () ↔ ∀ v ∈ vars, defined structs v = true := by
  rw [check_result_eq_ok_iff]
  constructor
  · exact fun h v hv => defined_of_passes (h v hv)
  · intro h v hv
    refine passes_of_mem_front hnames ?_
    rwa [front, List.takeWhile_eq_self_iff.mpr h]

/-- Only structs are to blame, the first one that is not defined. -/
theorem ends_with_iff {fault : Fault} : (check structs enums vars).result = .error fault ↔
    ∃ before v after name, vars = before ++ v :: after ∧ (∀ b ∈ before, defined structs b = true) ∧
      v.type.spec = .struct name ∧ structs.has (.text name) = false ∧ fault = .struct ⟨.text name⟩ := by
  rw [check_result_eq_error_iff]
  constructor
  · rintro ⟨before, v, after, rfl, hbefore, hv, rfl⟩
    have hdefined : ∀ b ∈ before, defined structs b = true := fun b hb => defined_of_passes (hbefore b hb)
    cases hstruct : undefinedStruct? structs v with
    | none =>
      have hfront : v ∈ front structs (before ++ v :: after) := by
        rw [front_append hdefined, front, List.takeWhile_cons_of_pos (undefinedStruct?_eq_none_iff.mp hstruct)]
        exact List.mem_append_right before List.mem_cons_self
      rw [passes_of_mem_front hnames hfront] at hv
      cases hv
    | some name =>
      obtain ⟨s, hspec, hhas, rfl⟩ := undefinedStruct?_eq_some_iff.mp hstruct
      exact ⟨before, v, after, s, rfl, hdefined, hspec, hhas, by rw [faultOf, hstruct]⟩
  · rintro ⟨before, v, after, name, rfl, hdefined, hspec, hhas, rfl⟩
    have hstruct := undefinedStruct?_eq_some_iff.mpr ⟨name, hspec, hhas, rfl⟩
    have hfront : ∀ b ∈ before, b ∈ front structs (before ++ v :: after) := fun b hb => by
      rw [front_append hdefined]
      exact List.mem_append_left _ hb
    exact ⟨before, v, after, rfl, fun b hb => passes_of_mem_front hnames (hfront b hb),
      passes_of_undefinedStruct? hstruct, by rw [faultOf, hstruct]⟩

end Named

/-- The check ends well if and only if all structs are in the table, and otherwise with the first one that is not, if
up to there no list or record stands for the name of an enum. Each enum that is not in its table is warned of until
then, in the order of the variables. -/
theorem check_all (entries : List Entry) (structs : StructTable) (enums : EnumTable)
    (hnames : ∀ v ∈ front structs (listing entries structs), hasName v = true) :
    let outcome := check structs enums (all entries structs)
    (outcome.result = .ok () ↔ ∀ v ∈ listing entries structs, defined structs v = true) ∧
      (∀ fault, outcome.result = .error fault ↔
        ∃ before v after name, listing entries structs = before ++ v :: after ∧
          (∀ b ∈ before, defined structs b = true) ∧ v.type.spec = .struct name ∧
          structs.has (.text name) = false ∧ fault = .struct ⟨.text name⟩) ∧
      outcome.warnings = (front structs (listing entries structs)).filterMap fun v =>
        (v.enum.name?.filter fun name => !enums.has name).map fun name => ⟨name, v.label⟩ := by
  rw [all_eq_listing]
  refine ⟨ends_well_iff hnames, fun fault => ends_with_iff hnames, ?_⟩
  rw [check_eq, takeWhile_passes hnames]
  rfl

/-- A function with a parameter of an enum that is not defined, and with a result of a struct that is not. -/
def spawn : Code where
  label := .text "spawn"
  desc := .text "Makes a new enemy"
  notes := .null
  addr := 0x8001000
  size := 0x44
  mode := some .thumb
  params := [
    { label := .text "pose", desc := .text "", notes := .null, type := ⟨.prim .u8, none⟩, count := none,
      category := none, enum := .text "Pose" }]
  ret := some
    { label := .text "", desc := .text "", notes := .null, type := ⟨.struct "Enemy", some "*"⟩, count := none,
      category := none, enum := .null }

/-- A struct with a field of the same enum. -/
def bodies : StructTable := Table.ofList (fun s => s.label.scalar?) [
  { label := .text "Body", desc := .text "", notes := .null, size := 4, fields := [
      { label := .text "pose", desc := .text "", notes := .null, type := ⟨.prim .u8, none⟩, count := none,
        category := none, enum := .text "Pose", offset := 0 }] }]

/-- The field is never looked at, so its enum gives no second warning. -/
theorem check_all_spawn :
    check bodies .empty (all [.code spawn] bodies) =
      ⟨[⟨.text "Pose", .text "pose"⟩], .error (.struct ⟨.text "Enemy"⟩)⟩ := by
  have hnames : ∀ v ∈ front bodies (listing [.code spawn] bodies), hasName v = true := by decide +kernel
  obtain ⟨-, herror, hwarnings⟩ := check_all [.code spawn] bodies .empty hnames
  have hfirst := (herror _).mpr ⟨spawn.params, _, _, "Enemy", rfl, by decide +kernel, rfl, rfl, rfl⟩
  have hwarned : (check bodies .empty (all [.code spawn] bodies)).warnings = [⟨.text "Pose", .text "pose"⟩] := by
    rw [hwarnings]
    decide +kernel
  cases hcheck : check bodies .empty (all [.code spawn] bodies) with
  | mk warnings result =>
    rw [hcheck] at hfirst hwarned
    exact congrArg₂ Checked.mk hwarned hfirst

end MemoryAtlas.References
