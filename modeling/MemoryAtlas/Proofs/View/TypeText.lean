import MemoryAtlas.Proofs.Declarator
import MemoryAtlas.View.Row

/-!
Types as they are shown. The count of a variable is written as one more dimension, behind the last star, which is
where the dimensions that multiply begin. So the text that is shown is a type of the length of the whole variable.
-/

namespace MemoryAtlas

namespace Hex

/-- A number as counts are written. -/
def Numeral.marked (n : Nat) : Numeral where
  text := '0' :: 'x' :: chars n
  value := n
  spells := by
    have hmark : ['0', 'x'] ∈ marks := by simp [marks]
    exact spells_append_chars hmark n

theorem star_notMem_text (n : Numeral) : '*' ∉ n.text :=
  fun hmem => absurd (n.mem_alphabet hmem) (by decide +kernel)

end Hex

namespace TypeDecl

theorem withCount_append {front behind : List Char} (hfront : ∀ c ∈ front.getLast?, c = '*') (hbehind : '*' ∉ behind)
    (count : Int) :
    withCount (front ++ behind) count = front ++ '[' :: '0' :: 'x' :: ((Hex.write count).toList ++ ']' :: behind) := by
  have hall := Text.forall_bne_of_notMem (mt List.mem_reverse.mp hbehind)
  have hnone : front.reverse.takeWhile (· != '*') = [] := by
    cases hlast : front.getLast? with
    | none => simp [List.getLast?_eq_none_iff.mp hlast]
    | some c =>
      obtain ⟨rest, rfl⟩ := List.getLast?_eq_some_iff.mp hlast
      simp [hfront c hlast]
  have hfound : (front ++ behind).reverse.takeWhile (· != '*') = behind.reverse := by
    rw [List.reverse_append, List.takeWhile_append_of_pos hall, hnone, List.append_nil]
  unfold withCount
  dsimp only
  rw [hfound, List.reverse_reverse]
  simp

end TypeDecl

namespace Declarator

open Hex (Numeral)

/-- The declarator with one more dimension in front of its own. -/
def withDim (n : Numeral) : Declarator → Declarator
  | plain stars dims => plain stars (n :: dims)
  | grouped stars dims outer pos => grouped stars (n :: dims) outer pos

variable {d : Declarator} {n : Numeral}

@[simp] theorem stars_withDim (n : Numeral) (d : Declarator) : (d.withDim n).stars = d.stars := by
  cases d <;> rfl

@[simp] theorem items_withDim (n : Numeral) (d : Declarator) : (d.withDim n).items = n.value * d.items := by
  cases d <;> simp [withDim, items, dims]

theorem star_notMem_brackets (dims : List Numeral) : '*' ∉ brackets dims := by
  intro hmem
  obtain ⟨dim, -, hdim⟩ := List.mem_flatMap.mp hmem
  simp [Hex.star_notMem_text] at hdim

/-- In brackets too, the last star stands right in front of the dimensions. -/
theorem withCount_chars (d : Declarator) (n : Nat) :
    TypeDecl.withCount d.chars n = (d.withDim (.marked n)).chars := by
  cases d with
  | plain stars dims =>
    have hchars : (plain stars dims).chars = List.replicate stars '*' ++ brackets dims := rfl
    rw [hchars, TypeDecl.withCount_append ?_ (star_notMem_brackets dims), Hex.toList_write]
    · simp [withDim, chars, inner, Declarator.stars, Declarator.dims, brackets, Numeral.marked]
    · intro c hc
      exact (List.mem_replicate.mp (List.mem_of_getLast? hc)).2
  | grouped stars dims outer pos =>
    have hbehind : '*' ∉ brackets dims ++ ')' :: brackets outer := by
      simp [star_notMem_brackets]
    have hchars : (grouped stars dims outer pos).chars =
        ('(' :: List.replicate stars '*') ++ (brackets dims ++ ')' :: brackets outer) := by
      simp [chars, inner, Declarator.stars, Declarator.dims]
    rw [hchars, TypeDecl.withCount_append ?_ hbehind, Hex.toList_write]
    · simp [withDim, chars, inner, Declarator.stars, Declarator.dims, brackets, Numeral.marked]
    · obtain ⟨stars, rfl⟩ := Nat.exists_eq_succ_of_ne_zero (Nat.ne_of_gt pos)
      simp [List.getLast?_cons, List.replicate_succ']

end Declarator

/-! Variables with a type that has been read -/

/-- The type has been read from a text that names something, and its declarator is the given one. -/
def TypeDecl.ReadWith (t : TypeDecl) (d : Declarator) : Prop :=
  (∃ text, t = TypeDecl.parse text) ∧ t.spec.name ≠ "" ∧ t.declaratorChars = d.chars

theorem TypeDecl.readWith_join {name : String} (hname : IsSpecifier name) (d : Declarator) :
    (parse (join name d.chars)).ReadWith d := by
  have hparse := parse_join hname.leads d.trimmed_chars fun _ => Text.trimmed_of_forall hname.2
  refine ⟨⟨_, rfl⟩, ?_, ?_⟩
  · rw [hparse, name_ofName]
    exact hname.1
  · rw [hparse]
    by_cases hempty : d.chars = [] <;> simp [declaratorChars, hempty]

theorem TypeDecl.declaratorChars_parse_join {t : TypeDecl} {d shown : Declarator} (ht : t.ReadWith d)
    (halone : shown.chars = [] → d.chars = []) :
    (parse (join t.spec.name shown.chars)).spec = t.spec ∧
      (parse (join t.spec.name shown.chars)).declaratorChars = shown.chars := by
  obtain ⟨⟨text, rfl⟩, hname, hd⟩ := ht
  rw [parse_join_parse hname shown.trimmed_chars fun hempty => hd.trans (halone hempty)]
  refine ⟨rfl, ?_⟩
  by_cases hempty : shown.chars = [] <;> simp [declaratorChars, hempty]

variable {structs : StructTable} {v : Var} {d : Declarator}

/-- What is shown is a declarator too, with the count among its dimensions. -/
theorem Var.exists_typeText_eq (htype : v.type.declaratorChars = d.chars) (hcount : ∀ n ∈ v.count, 0 < n) :
    ∃ shown : Declarator, v.typeText = TypeDecl.join v.type.spec.name shown.chars ∧ shown.stars = d.stars ∧
      (shown.items : Int) = d.items * Layout.itemCount v ∧ (shown.chars = [] → d.chars = []) := by
  unfold typeText Layout.itemCount
  rw [htype]
  cases hv : v.count with
  | none => exact ⟨d, rfl, rfl, by simp, id⟩
  | some n =>
    have hpos := hcount n hv
    obtain ⟨m, rfl⟩ := Int.eq_ofNat_of_zero_le (Int.le_of_lt hpos)
    obtain ⟨m, rfl⟩ := Nat.exists_eq_succ_of_ne_zero (show m ≠ 0 by omega)
    refine ⟨d.withDim (.marked (m + 1)), ?_, d.stars_withDim _, ?_, fun h => ?_⟩
    · rw [← d.withCount_chars]
      rfl
    · simp [Hex.Numeral.marked, Int.mul_comm]
    · rw [← d.withCount_chars, TypeDecl.withCount] at h
      simp at h

theorem Entry.cell?_type (structs : StructTable) {e : Entry} (he : e.var? = some v) :
    e.cell? structs .type = some (.text v.typeText) := by
  cases e <;> cases he <;> rfl

namespace Layout

theorem itemSize_parse_typeText (htype : v.type.ReadWith d) (hcount : ∀ n ∈ v.count, 0 < n) :
    itemSize structs (TypeDecl.parse v.typeText) =
      (fun base : Int => some (base * (d.items * itemCount v))) <$>
        if 0 < d.stars then .ok 4 else specSize structs v.type.spec := by
  obtain ⟨shown, htext, hstars, hitems, halone⟩ := Var.exists_typeText_eq htype.2.2 hcount
  obtain ⟨hspec, hchars⟩ := TypeDecl.declaratorChars_parse_join htype halone
  rw [htext, itemSize_of_chars hchars, hspec, hstars, hitems]

theorem totalLength_of_chars (htype : v.type.declaratorChars = d.chars) :
    totalLength structs v =
      (fun base : Int => some (base * (d.items * itemCount v))) <$>
        if 0 < d.stars then .ok 4 else specSize structs v.type.spec := by
  rw [totalLength_eq_map, itemSize_of_chars htype, ← comp_map]
  simp [Function.comp_def, Int.mul_assoc]

theorem totalLength_eq_error_iff (htype : v.type.declaratorChars = d.chars) (fault : UnknownStruct) :
    totalLength structs v = .error fault ↔
      d.stars = 0 ∧ ∃ name, v.type.spec = .struct name ∧ structs.find? (.text name) = none ∧ fault = ⟨.text name⟩ := by
  rw [totalLength_eq_map, Fallible.map_eq_error, itemSize_of_chars_eq_error_iff htype]

/-- A variable whose type has been read from a specifier and a declarator with a structure has the length of what
is shown as its type, or both ask for the same unknown struct: reading the count back multiplies by it. -/
theorem itemSize_typeText_eq_totalLength (structs : StructTable) :
    (∀ (name : String) (d : Declarator), TypeDecl.IsSpecifier name →
      (TypeDecl.parse (TypeDecl.join name d.chars)).ReadWith d) ∧
    ∀ (e : Entry) (v : Var) (d : Declarator), e.var? = some v → v.type.ReadWith d → (∀ n ∈ v.count, 0 < n) →
      e.cell? structs .type = some (.text v.typeText) ∧
      itemSize structs (TypeDecl.parse v.typeText) = totalLength structs v ∧
      totalLength structs v =
        (fun base : Int => some (base * (d.items * v.count.getD 1))) <$>
          (if 0 < d.stars then .ok 4 else specSize structs v.type.spec) ∧
      ∀ fault, totalLength structs v = .error fault ↔
        d.stars = 0 ∧ ∃ name, v.type.spec = .struct name ∧ structs.find? (.text name) = none ∧
          fault = ⟨.text name⟩ := by
  refine ⟨fun name d hname => TypeDecl.readWith_join hname d, fun e v d he htype hcount => ?_⟩
  have hlength : totalLength structs v = _ := totalLength_of_chars htype.2.2
  exact ⟨Entry.cell?_type structs he, (itemSize_parse_typeText htype hcount).trans hlength.symm, hlength,
    totalLength_eq_error_iff htype.2.2⟩

/-- A variable of which nothing is known but its type and its count. -/
def counted (name : String) (d : Declarator) (count : Int) : Var where
  label := .null
  desc := .null
  notes := .null
  type := TypeDecl.parse (TypeDecl.join name d.chars)
  count := some count
  category := none
  enum := .null

/-- The count goes inside of the brackets, behind the stars. -/
theorem itemSize_typeText_eq_totalLength_pointers :
    (counted "Cell" pointers 24).typeText = "Cell (**[0x18][0X0aB])[0X0aB]" ∧
      itemSize cells (TypeDecl.parse "Cell (**[0x18][0X0aB])[0X0aB]") = .ok (some (4 * 0xAB * 24)) ∧
      totalLength cells (counted "Cell" pointers 24) = .ok (some (4 * 0xAB * 24)) ∧
      itemSize cells (TypeDecl.parse "Row [0x2][0X0aB]") = .error ⟨.text "Row"⟩ := by
  obtain ⟨hread, hlength⟩ := itemSize_typeText_eq_totalLength cells
  have hcell := hread "Cell" pointers (by decide +kernel)
  have hrow := hread "Row" (.plain 0 [mixedCase]) (by decide +kernel)
  have hpos : ∀ n ∈ (counted "Cell" pointers 24).count, 0 < n := by simp [counted]
  have htwo : ∀ n ∈ (counted "Row" (.plain 0 [mixedCase]) 2).count, 0 < n := by simp [counted]
  obtain ⟨-, hsame, hvalue, -⟩ := hlength (.var (counted "Cell" pointers 24)) _ _ rfl hcell hpos
  obtain ⟨-, hfails, -, hfault⟩ := hlength (.var (counted "Row" (.plain 0 [mixedCase]) 2)) _ _ rfl hrow htwo
  have htext : (counted "Cell" pointers 24).typeText = "Cell (**[0x18][0X0aB])[0X0aB]" := by decide +kernel
  have hrowText : (counted "Row" (.plain 0 [mixedCase]) 2).typeText = "Row [0x2][0X0aB]" := by decide +kernel
  refine ⟨htext, ?_, hvalue, ?_⟩
  · rw [← htext, hsame, hvalue]
    rfl
  · rw [← hrowText, hfails]
    exact (hfault _).mpr ⟨rfl, "Row", by decide +kernel, rfl, rfl⟩

end Layout

end MemoryAtlas
