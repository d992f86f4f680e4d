import MemoryAtlas.Proofs.Layout
import MemoryAtlas.Proofs.Numeral.Spelling
import MemoryAtlas.Proofs.Text.Runs
import MemoryAtlas.Proofs.TypeDecl

/-!
Declarators with a structure: stars and dimensions, which may stand in brackets with more dimensions behind.
What is searched in their text is what they are made of, so their sizes can be told without the text.
-/

namespace MemoryAtlas

open Hex (Numeral)

inductive Declarator where
  | plain (stars : Nat) (dims : List Numeral)
  | grouped (stars : Nat) (dims outer : List Numeral) (pos : 0 < stars)

namespace Declarator

def stars : Declarator → Nat
  | plain stars _ => stars
  | grouped stars _ _ _ => stars

def dims : Declarator → List Numeral
  | plain _ dims => dims
  | grouped _ dims _ _ => dims

def brackets (dims : List Numeral) : List Char := dims.flatMap fun dim => '[' :: (dim.text ++ [']'])

def inner (d : Declarator) : List Char := List.replicate d.stars '*' ++ brackets d.dims

def chars (d : Declarator) : List Char :=
  match d with
  | plain _ _ => d.inner
  | grouped _ _ outer _ => '(' :: (d.inner ++ ')' :: brackets outer)

def text (d : Declarator) : String := String.ofList d.chars

/-- The product of the dimensions; those outside do not count. -/
def items (d : Declarator) : Nat := (d.dims.map Numeral.value).prod

/-! The characters of a declarator -/

def alphabet : List Char := ['*', '[', ']'] ++ Hex.alphabet

theorem mem_alphabet_of_mem_brackets {dims : List Numeral} {c : Char} (h : c ∈ brackets dims) : c ∈ alphabet := by
  obtain ⟨dim, -, hc⟩ := List.mem_flatMap.mp h
  rw [List.mem_cons, List.mem_append, List.mem_singleton] at hc
  rcases hc with rfl | hc | rfl
  · simp [alphabet]
  · exact List.mem_append_right _ (dim.mem_alphabet hc)
  · simp [alphabet]

theorem mem_alphabet_of_mem_inner {d : Declarator} {c : Char} (h : c ∈ d.inner) : c ∈ alphabet := by
  rcases List.mem_append.mp h with h | h
  · rw [(List.mem_replicate.mp h).2]
    simp [alphabet]
  · exact mem_alphabet_of_mem_brackets h

theorem opening_notMem_alphabet : '(' ∉ alphabet := by decide +kernel

theorem closing_notMem_alphabet : ')' ∉ alphabet := by decide +kernel

theorem not_isBlank_of_mem_alphabet : ∀ c ∈ alphabet, Text.isBlank c = false := by
  have hall : alphabet.all (fun c => !Text.isBlank c) = true := by decide +kernel
  simpa using hall

theorem not_isBlank_of_mem_chars (d : Declarator) : ∀ c ∈ d.chars, Text.isBlank c = false := by
  intro c hc
  cases d with
  | plain stars dims => exact not_isBlank_of_mem_alphabet c (mem_alphabet_of_mem_inner hc)
  | grouped stars dims outer pos =>
    rw [chars, List.mem_cons, List.mem_append, List.mem_cons] at hc
    rcases hc with rfl | hc | rfl | hc
    · decide
    · exact not_isBlank_of_mem_alphabet c (mem_alphabet_of_mem_inner hc)
    · decide
    · exact not_isBlank_of_mem_alphabet c (mem_alphabet_of_mem_brackets hc)

/-! What is searched in the text -/

theorem innermost_chars (d : Declarator) : TypeDecl.innermost d.chars = d.inner := by
  have hopening : '(' ∉ d.inner := fun h => opening_notMem_alphabet (mem_alphabet_of_mem_inner h)
  cases d with
  | plain stars dims => exact TypeDecl.innermost_of_notMem hopening
  | grouped stars dims outer pos =>
    have hbehind : '(' ∉ (grouped stars dims outer pos).inner ++ ')' :: brackets outer := by
      rw [List.mem_append, List.mem_cons]
      rintro (h | h | h)
      · exact hopening h
      · cases h
      · exact opening_notMem_alphabet (mem_alphabet_of_mem_brackets h)
    have hclosing : ')' ∉ (grouped stars dims outer pos).inner :=
      fun h => closing_notMem_alphabet (mem_alphabet_of_mem_inner h)
    rw [chars, ← List.nil_append ('(' :: _), TypeDecl.innermost_append [] hbehind,
      List.takeWhile_append_of_pos (Text.forall_bne_of_notMem hclosing), List.takeWhile_cons_of_neg (by simp), List.append_nil]

theorem head?_inner (d : Declarator) : d.inner.head? = some '*' ↔ 0 < d.stars := by
  rw [inner]
  cases d.stars with
  | succ stars => simp [List.replicate_succ]
  | zero =>
    cases d.dims with
    | nil => simp [brackets]
    | cons dim dims => simp [brackets]

theorem isWordChar_of_mem_alphabet : ∀ c ∈ Hex.alphabet, Text.isWordChar c = true :=
  List.all_eq_true.mp (by decide +kernel)

theorem wordRuns_brackets (dims : List Numeral) : Text.wordRuns (brackets dims) = dims.map Numeral.text := by
  have hopening : Text.isWordChar '[' = false := by decide +kernel
  have hclosing : Text.isWordChar ']' = false := by decide +kernel
  induction dims with
  | nil => exact Text.runs_nil _
  | cons dim dims ih =>
    have hword : ∀ c ∈ dim.text, Text.isWordChar c = true :=
      fun c hc => isWordChar_of_mem_alphabet c (dim.mem_alphabet hc)
    have hchars : brackets (dim :: dims) = '[' :: (dim.text ++ ']' :: brackets dims) := by simp [brackets]
    rw [hchars, Text.wordRuns, Text.runs_cons hopening, Text.runs_append_cons hclosing,
      Text.runs_of_forall dim.text_ne_nil hword, List.map_cons]
    exact congrArg _ ih

theorem wordRuns_inner (d : Declarator) : Text.wordRuns d.inner = d.dims.map Numeral.text := by
  have hstar : Text.isWordChar '*' = false := by decide +kernel
  rw [inner, ← wordRuns_brackets d.dims]
  induction d.stars with
  | zero => rfl
  | succ stars ih =>
    rw [List.replicate_succ, List.cons_append, Text.wordRuns, Text.runs_cons hstar]
    exact ih

/-! A type with the declarator -/

variable {t : TypeDecl} {d : Declarator}

theorem inner_of_chars (h : t.declaratorChars = d.chars) : t.inner = d.inner := by
  rw [TypeDecl.inner, h, innermost_chars]

theorem isPointer_of_chars (h : t.declaratorChars = d.chars) : t.isPointer = true ↔ 0 < d.stars := by
  rw [TypeDecl.isPointer, inner_of_chars h, beq_iff_eq, head?_inner]

theorem dims_of_chars (h : t.declaratorChars = d.chars) : t.dims = some (d.dims.map Numeral.value) := by
  rw [TypeDecl.dims, inner_of_chars h, wordRuns_inner]
  induction d.dims with
  | nil => rfl
  | cons dim dims ih =>
    rw [List.map_cons, List.mapM_cons, dim.readChars_text, ih]
    rfl

theorem trimmed_chars (d : Declarator) : Text.Trimmed d.chars :=
  Text.trimmed_of_forall d.not_isBlank_of_mem_chars

theorem parse_text {name : String} (hname : TypeDecl.IsSpecifier name) (d : Declarator) :
    TypeDecl.parse (name ++ " " ++ d.text) = ⟨Spec.ofName name, if d.text = "" then none else some d.text⟩ := by
  apply TypeDecl.parse_append hname
  rw [text, String.toList_ofList]
  exact d.trimmed_chars

theorem declaratorChars_parse_text {name : String} (hname : TypeDecl.IsSpecifier name) (d : Declarator) :
    (TypeDecl.parse (name ++ " " ++ d.text)).declaratorChars = d.chars := by
  rw [parse_text hname, TypeDecl.declaratorChars, ← String.toList_ofList (l := d.chars), ← text]
  split
  · next hempty => rw [hempty, Option.getD_none]
  · rfl

end Declarator

namespace Layout

variable {structs : StructTable} {t : TypeDecl} {d : Declarator}

theorem itemSize_of_chars (h : t.declaratorChars = d.chars) :
    itemSize structs t =
      (fun base : Int => some (base * d.items)) <$> if 0 < d.stars then .ok 4 else specSize structs t.spec := by
  rw [itemSize_of_dims (Declarator.dims_of_chars h)]
  simp only [baseSize, Declarator.isPointer_of_chars h, pointerSize]
  rfl

theorem itemSize_of_chars_eq_error_iff (h : t.declaratorChars = d.chars) (fault : UnknownStruct) :
    itemSize structs t = .error fault ↔
      d.stars = 0 ∧ ∃ name, t.spec = .struct name ∧ structs.find? (.text name) = none ∧ fault = ⟨.text name⟩ := by
  rw [itemSize_of_chars h, Fallible.map_eq_error]
  split
  · next hstars => simp [Nat.ne_of_gt hstars]
  · next hstars => simp [specSize_eq_error_iff, Nat.eq_zero_of_not_pos hstars]

theorem itemSize_parse_text {name : String} (hname : TypeDecl.IsSpecifier name) (d : Declarator) :
    itemSize structs (TypeDecl.parse (name ++ " " ++ d.text)) =
      (fun base : Int => some (base * d.items)) <$>
        if 0 < d.stars then .ok 4 else specSize structs (Spec.ofName name) := by
  rw [itemSize_of_chars (d.declaratorChars_parse_text hname), d.parse_text hname]

theorem ofName_eq_struct_iff {name struct : String} :
    Spec.ofName name = .struct struct ↔ Prim.ofName? name = none ∧ struct = name := by
  rw [Spec.ofName]
  split
  · next p h => simp [h]
  · next h => simp [h, eq_comm]

theorem itemSize_parse_text_eq_error_iff {name : String} (hname : TypeDecl.IsSpecifier name) (d : Declarator)
    (fault : UnknownStruct) :
    itemSize structs (TypeDecl.parse (name ++ " " ++ d.text)) = .error fault ↔
      d.stars = 0 ∧ Prim.ofName? name = none ∧ structs.find? (.text name) = none ∧ fault = ⟨.text name⟩ := by
  rw [itemSize_of_chars_eq_error_iff (d.declaratorChars_parse_text hname), d.parse_text hname]
  simp only [ofName_eq_struct_iff]
  constructor
  · rintro ⟨hstars, struct, ⟨hprim, rfl⟩, hfind, rfl⟩
    exact ⟨hstars, hprim, hfind, rfl⟩
  · rintro ⟨hstars, hprim, hfind, rfl⟩
    exact ⟨hstars, name, ⟨hprim, rfl⟩, hfind, rfl⟩

theorem dims_eq_none_iff_isRun (t : TypeDecl) :
    t.dims = none ↔ ∃ word, Text.IsRun Text.isWordChar word t.inner ∧ ¬ Hex.IsNumeral word := by
  simp only [dims_eq_none_iff, Text.wordRuns, Text.mem_runs_iff]

theorem dims_ne_none_iff_isRun (t : TypeDecl) :
    t.dims ≠ none ↔ ∀ word, Text.IsRun Text.isWordChar word t.inner → Hex.IsNumeral word := by
  rw [ne_eq, dims_eq_none_iff_isRun]
  simp only [not_exists, not_and, Classical.not_not]

/-- A declarator with a structure has the size that its structure says. Any other has a size unless some run of
word characters in it is no numeral, and without a size it is not asked whether the struct is known. -/
theorem itemSize_of_declarators (structs : StructTable) :
    (∀ (name : String) (d : Declarator), TypeDecl.IsSpecifier name →
      itemSize structs (TypeDecl.parse (name ++ " " ++ d.text)) =
        (fun base : Int => some (base * d.items)) <$>
          (if 0 < d.stars then .ok 4 else specSize structs (Spec.ofName name)) ∧
      ∀ fault, itemSize structs (TypeDecl.parse (name ++ " " ++ d.text)) = .error fault ↔
        d.stars = 0 ∧ Prim.ofName? name = none ∧ structs.find? (.text name) = none ∧ fault = ⟨.text name⟩) ∧
    (∀ v, totalLength structs v = Option.map (· * v.count.getD 1) <$> itemSize structs v.type) ∧
    (∀ t, itemSize structs t = .ok none ↔
      ∃ word, Text.IsRun Text.isWordChar word t.inner ∧ ¬ Hex.IsNumeral word) ∧
    ∀ t fault, itemSize structs t = .error fault ↔
      (∀ word, Text.IsRun Text.isWordChar word t.inner → Hex.IsNumeral word) ∧ t.isPointer = false ∧
        ∃ name, t.spec = .struct name ∧ structs.find? (.text name) = none ∧ fault = ⟨.text name⟩ := by
  refine ⟨fun name d hname => ⟨itemSize_parse_text hname d, itemSize_parse_text_eq_error_iff hname d⟩,
    totalLength_eq_map structs, fun t => ?_, fun t fault => ?_⟩
  · rw [itemSize_eq_none_iff, dims_eq_none_iff_isRun]
  · rw [itemSize_eq_error_iff, dims_ne_none_iff_isRun, baseSize_eq_error_iff, specSize_eq_error_iff]

/-- One struct of twelve bytes. -/
def cells : StructTable := Table.ofList (fun s => s.label.scalar?) [⟨⟨.text "Cell", .text "", .null⟩, 12, []⟩]

/-- A number with a zero in front and digits in both cases. -/
def mixedCase : Numeral where
  text := "0X0aB".toList
  value := 0xAB
  spells := ⟨['0', 'X'], by decide, 1, ['a', 'B'], by decide, .cons (by decide) (.cons (by decide) .nil)⟩

/-- The number outside the brackets has no part in the size. -/
def pointers : Declarator := .grouped 2 [mixedCase] [mixedCase] (by decide)

theorem itemSize_of_declarators_cells :
    itemSize cells (TypeDecl.parse ("Cell" ++ " " ++ pointers.text)) = .ok (some (4 * 0xAB)) ∧
      itemSize cells (TypeDecl.parse ("Cell" ++ " " ++ (Declarator.plain 0 [mixedCase]).text)) =
        .ok (some (12 * 0xAB)) ∧
      itemSize cells (TypeDecl.parse ("Row" ++ " " ++ (Declarator.plain 0 [mixedCase]).text)) =
        .error ⟨.text "Row"⟩ ∧
      itemSize cells (TypeDecl.parse "Row [8][width]") = .ok none := by
  obtain ⟨hsize, -, hnone, -⟩ := itemSize_of_declarators cells
  have hcell : TypeDecl.IsSpecifier "Cell" := by decide +kernel
  have hrow : TypeDecl.IsSpecifier "Row" := by decide +kernel
  have hwidth : Text.IsRun Text.isWordChar "width".toList (TypeDecl.parse "Row [8][width]").inner :=
    (Text.mem_runs_iff _ _ _).mp (by decide +kernel)
  refine ⟨(hsize "Cell" pointers hcell).1, (hsize "Cell" _ hcell).1, ?_, (hnone _).mpr ⟨_, hwidth, by decide⟩⟩
  exact ((hsize "Row" _ hrow).2 _).mpr ⟨rfl, rfl, rfl, rfl⟩

end Layout

end MemoryAtlas
