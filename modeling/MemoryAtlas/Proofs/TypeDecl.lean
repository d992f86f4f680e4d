import MemoryAtlas.Proofs.Text.Blank
import MemoryAtlas.Proofs.Text.Runs
import MemoryAtlas.TypeDecl
import Mathlib.Data.List.TakeWhile

/-!
A specifier without white space and a trimmed declarator are found again in the text they are put together to.
The inner declarator lies behind the last opening bracket.
-/

namespace MemoryAtlas.TypeDecl

def IsSpecifier (name : String) : Prop := name ≠ "" ∧ ∀ c ∈ name.toList, Text.isBlank c = false

instance (name : String) : Decidable (IsSpecifier name) :=
  decidable_of_iff (name ≠ "" ∧ name.toList.all fun c => !Text.isBlank c) (by simp [IsSpecifier])

theorem isBlank_space : Text.isBlank ' ' = true := by decide

theorem IsSpecifier.space_notMem {name : String} (h : IsSpecifier name) : ' ' ∉ name.toList := by
  intro hmem
  have hspace := h.2 ' ' hmem
  rw [isBlank_space] at hspace
  cases hspace

/-- Text that a declarator can stand behind, with a space between the two. -/
structure Leads (name : List Char) : Prop where
  ne_nil : name ≠ []
  space : ' ' ∉ name
  head : ∀ c ∈ name.head?, Text.isBlank c = false

theorem IsSpecifier.leads {name : String} (h : IsSpecifier name) : Leads name.toList where
  ne_nil hnil := h.1 (String.toList_eq_nil_iff.mp hnil)
  space := h.space_notMem
  head c hc := h.2 c (List.mem_of_mem_head? hc)

theorem trimmed_append_space {name declarator : List Char} (hname : Leads name) (hd : Text.Trimmed declarator)
    (hsome : declarator ≠ []) : Text.Trimmed (name ++ ' ' :: declarator) := by
  constructor
  · cases name with
    | nil => exact absurd rfl hname.ne_nil
    | cons first name => exact hname.head
  · cases declarator with
    | nil => exact absurd rfl hsome
    | cons first declarator => simpa [List.getLast?_append, List.getLast?_cons] using hd.2

/-! The specifier and the declarator that are read from a text -/

theorem parse_of_trimmed {name : String} (hspace : ' ' ∉ name.toList) (hname : Text.Trimmed name.toList) :
    parse name = ⟨Spec.ofName name, none⟩ := by
  have hall := Text.forall_bne_of_notMem hspace
  simp only [parse, Text.strip_of_trimmed hname]
  rw [List.takeWhile_eq_self_iff.mpr hall, List.dropWhile_eq_nil_iff.mpr hall]
  simp [Text.strip]

theorem parse_append_of_ne {name declarator : String} (hname : Leads name.toList)
    (hd : Text.Trimmed declarator.toList) (hsome : declarator ≠ "") :
    parse (name ++ " " ++ declarator) = ⟨Spec.ofName name, some declarator⟩ := by
  have hall := Text.forall_bne_of_notMem hname.space
  have hne : declarator.toList ≠ [] := fun hnil => hsome (String.toList_eq_nil_iff.mp hnil)
  have htext : (name ++ " " ++ declarator).toList = name.toList ++ ' ' :: declarator.toList := by simp
  simp only [parse, htext, Text.strip_of_trimmed (trimmed_append_space hname hd hne)]
  rw [List.takeWhile_append_of_pos hall, List.dropWhile_append_of_pos hall, List.dropWhile_cons_of_neg (by simp),
    Text.strip_cons_of_isBlank isBlank_space, Text.strip_of_trimmed hd]
  simp [hsome]

theorem parse_append {name declarator : String} (hname : IsSpecifier name) (hd : Text.Trimmed declarator.toList) :
    parse (name ++ " " ++ declarator) =
      ⟨Spec.ofName name, if declarator = "" then none else some declarator⟩ := by
  split
  · next hempty =>
    have htrimmed := Text.trimmed_of_forall hname.2
    have hstrip : Text.strip (name ++ " " ++ declarator).toList = Text.strip name.toList := by
      simpa [hempty] using Text.strip_append_singleton isBlank_space name.toList
    rw [← parse_of_trimmed hname.space_notMem htrimmed, parse, hstrip, parse]
  · next hsome => exact parse_append_of_ne hname.leads hd hsome

/-- Without a declarator there is no space that would keep white space at the end of the name. -/
theorem parse_join {name : String} {declarator : List Char} (hname : Leads name.toList)
    (hd : Text.Trimmed declarator) (halone : declarator = [] → Text.Trimmed name.toList) :
    parse (join name declarator) =
      ⟨Spec.ofName name, if declarator = [] then none else some (String.ofList declarator)⟩ := by
  cases declarator with
  | nil => exact parse_of_trimmed hname.space (halone rfl)
  | cons c rest =>
    refine parse_append_of_ne hname (by rwa [String.toList_ofList]) fun hempty => ?_
    have hlist := congrArg String.toList hempty
    rw [String.toList_ofList] at hlist
    cases hlist

theorem name_ofName (name : String) : (Spec.ofName name).name = name := by
  unfold Spec.ofName
  split
  · next p h =>
    have hp := List.find?_some h
    exact beq_iff_eq.mp hp
  · rfl

variable {s : String}

theorem name_parse (s : String) :
    (parse s).spec.name = String.ofList ((Text.strip s.toList).takeWhile (· != ' ')) := name_ofName _

theorem ofName_name_parse (s : String) : Spec.ofName (parse s).spec.name = (parse s).spec := by
  rw [name_parse]
  rfl

theorem leads_parse (h : (parse s).spec.name ≠ "") : Leads (parse s).spec.name.toList where
  ne_nil hnil := h (String.toList_eq_nil_iff.mp hnil)
  space hmem := by
    rw [name_parse, String.toList_ofList] at hmem
    simpa using List.mem_takeWhile_imp hmem
  head c hc := by
    rw [name_parse, String.toList_ofList] at hc
    apply (Text.trimmed_strip s.toList).1
    obtain ⟨rest, hrest⟩ := List.takeWhile_prefix (· != ' ') (l := Text.strip s.toList)
    rw [← hrest, List.head?_append, Option.mem_def.mp hc]
    rfl

/-- If nothing but white space stood behind the name, trimming has taken it away. -/
theorem trimmed_name_parse (h : (parse s).declarator = none) : Text.Trimmed (parse s).spec.name.toList := by
  have htrimmed := Text.trimmed_strip s.toList
  have hblank : Text.strip ((Text.strip s.toList).dropWhile (· != ' ')) = [] := by
    unfold parse at h
    simpa using h
  have hnone : (Text.strip s.toList).dropWhile (· != ' ') = [] := by
    rw [← List.getLast?_eq_none_iff, Option.eq_none_iff_forall_not_mem]
    intro c hc
    have hlast : c ∈ (Text.strip s.toList).getLast? := by
      rw [← List.takeWhile_append_dropWhile (p := (· != ' ')) (l := Text.strip s.toList), List.getLast?_append,
        Option.mem_def.mp hc]
      rfl
    have hnot := Text.isBlank_of_strip_eq_nil hblank c (List.mem_of_getLast? hc)
    rw [htrimmed.2 c hlast] at hnot
    cases hnot
  rw [name_parse, String.toList_ofList, List.takeWhile_eq_self_iff.mpr (List.dropWhile_eq_nil_iff.mp hnone)]
  exact htrimmed

theorem declarator_eq_none_of_parse (h : (parse s).declaratorChars = []) : (parse s).declarator = none := by
  unfold parse declaratorChars at *
  dsimp only at *
  split
  · rfl
  · next hne =>
    rw [if_neg hne, Option.getD_some, String.toList_ofList] at h
    rw [h] at hne
    exact absurd rfl hne

/-- A type that has been read and is written with another declarator is read with that one. -/
theorem parse_join_parse {declarator : List Char} (hname : (parse s).spec.name ≠ "") (hd : Text.Trimmed declarator)
    (halone : declarator = [] → (parse s).declaratorChars = []) :
    parse (join (parse s).spec.name declarator) =
      ⟨(parse s).spec, if declarator = [] then none else some (String.ofList declarator)⟩ := by
  rw [parse_join (leads_parse hname) hd fun hempty =>
    trimmed_name_parse (declarator_eq_none_of_parse (halone hempty)), ofName_name_parse]

/-! What a text consists of -/

/-- The name runs up to the first space, and there is white space of any kind between it and the declarator. -/
inductive Consists : List Char → TypeDecl → Prop
  | alone {name : String} (hspace : ' ' ∉ name.toList) : Consists name.toList ⟨Spec.ofName name, none⟩
  | followed {name declarator : String} {gap : List Char} (hspace : ' ' ∉ name.toList)
      (hgap : ∀ c ∈ gap, Text.isBlank c = true) (hd : Text.Trimmed declarator.toList) (hsome : declarator ≠ "") :
      Consists (name.toList ++ ' ' :: (gap ++ declarator.toList)) ⟨Spec.ofName name, some declarator⟩

theorem parse_of_consists {t : TypeDecl} (h : Consists (Text.strip s.toList) t) : parse s = t := by
  generalize hs : Text.strip s.toList = trimmed at h
  cases h with
  | @alone name hspace =>
    have hall := Text.forall_bne_of_notMem hspace
    simp only [parse, hs, List.takeWhile_eq_self_iff.mpr hall, List.dropWhile_eq_nil_iff.mpr hall]
    simp [Text.strip]
  | @followed name declarator gap hspace hgap hd hsome =>
    have hall := Text.forall_bne_of_notMem hspace
    simp only [parse, hs]
    rw [List.takeWhile_append_of_pos hall, List.dropWhile_append_of_pos hall, List.dropWhile_cons_of_neg (by simp),
      Text.strip_cons_of_isBlank isBlank_space, Text.strip_append_of_forall hgap, Text.strip_of_trimmed hd]
    simp [hsome]

/-- Behind a space there is more than white space, as none is left at the end. -/
theorem rest_of_trimmed {front rest : List Char} (h : Text.Trimmed (front ++ ' ' :: rest)) :
    rest ≠ [] ∧ ∀ d ∈ rest.getLast?, Text.isBlank d = false := by
  have hend : ∀ d ∈ (' ' :: rest).getLast?, Text.isBlank d = false := by
    intro d hd
    apply h.2
    rw [List.getLast?_append, Option.mem_def.mp hd]
    rfl
  constructor
  · rintro rfl
    cases hend ' ' rfl
  · intro d hd
    apply hend
    rw [List.getLast?_cons, Option.mem_def.mp hd]
    rfl

theorem exists_consists {u : List Char} (h : Text.Trimmed u) : ∃ t, Consists u t := by
  obtain ⟨name, hname⟩ : ∃ name : String, name.toList = u.takeWhile (· != ' ') :=
    ⟨String.ofList _, String.toList_ofList⟩
  have hspace : ' ' ∉ name.toList := by
    rw [hname]
    intro hmem
    simpa using List.mem_takeWhile_imp hmem
  have hcut := List.takeWhile_append_dropWhile (p := (· != ' ')) (l := u)
  rw [← hname] at hcut
  cases hbehind : u.dropWhile (· != ' ') with
  | nil =>
    rw [hbehind, List.append_nil] at hcut
    rw [← hcut]
    exact ⟨_, .alone hspace⟩
  | cons c rest =>
    have hc : c = ' ' := by
      have hnot := List.head?_dropWhile_not (· != ' ') u
      simpa [hbehind] using hnot
    subst hc
    rw [hbehind] at hcut
    obtain ⟨hrest, hlast⟩ := rest_of_trimmed (hcut ▸ h)
    obtain ⟨gap, declarator, rfl, hgap, htrimmed, hsome⟩ := Text.exists_leading_blanks hrest hlast
    rw [← hcut, ← String.toList_ofList (l := declarator)]
    rw [← String.toList_ofList (l := declarator)] at htrimmed
    exact ⟨_, .followed hspace hgap htrimmed (mt String.toList_eq_nil_iff.mpr (by rwa [String.toList_ofList]))⟩

theorem consists_parse (s : String) : Consists (Text.strip s.toList) (parse s) := by
  obtain ⟨t, ht⟩ := exists_consists (Text.trimmed_strip s.toList)
  rwa [parse_of_consists ht]

/-- The text that a type is written as has one space, so that nothing else is read from it. -/
theorem consists_text {u : List Char} {t : TypeDecl} (hu : Text.Trimmed u) (h : Consists u t) :
    Text.Trimmed t.text.toList ∧ Consists t.text.toList t := by
  cases h with
  | @alone name hspace =>
    have htext : text ⟨Spec.ofName name, none⟩ = name := name_ofName name
    rw [htext]
    exact ⟨hu, .alone hspace⟩
  | @followed name declarator gap hspace hgap hd hsome =>
    have htext : (text ⟨Spec.ofName name, some declarator⟩).toList =
        name.toList ++ ' ' :: ([] ++ declarator.toList) := by
      simp [text, join, declaratorChars, name_ofName, hsome]
    have hname : Leads name.toList := by
      refine ⟨fun hnil => ?_, hspace, fun c hc => hu.1 c ?_⟩
      · have hfirst := hu.1 ' ' (by rw [hnil]; rfl)
        rw [isBlank_space] at hfirst
        cases hfirst
      · rw [List.head?_append, Option.mem_def.mp hc]
        rfl
    rw [htext]
    exact ⟨trimmed_append_space hname hd (mt String.toList_eq_nil_iff.mp hsome),
      .followed hspace (fun c hc => absurd hc List.not_mem_nil) hd hsome⟩

theorem ofParts?_ofName (name : String) :
    Spec.ofParts? (Prim.ofName? name) (Spec.ofName name).structName? = some (Spec.ofName name) := by
  unfold Spec.ofName
  cases Prim.ofName? name <;> rfl

theorem isSome_structName?_ofName (name : String) :
    (Spec.ofName name).structName?.isSome ↔ Prim.ofName? name = none := by
  unfold Spec.ofName
  cases Prim.ofName? name <;> simp [Spec.structName?]

/-- Every text is read as a type, and as one type only: trimming takes white space of every kind, but the specifier ends
at a space. It is a struct if no primitive has its name, which is what the parts of a specifier have to agree on. The
text that the type is written as is read as the same type. -/
theorem parse_text_parse (s : String) :
    (∀ t, Consists (Text.strip s.toList) t ↔ t = parse s) ∧
    Spec.ofParts? (Prim.ofName? (parse s).spec.name) (parse s).spec.structName? = some (parse s).spec ∧
    ((parse s).spec.structName?.isSome ↔ Prim.ofName? (parse s).spec.name = none) ∧
    parse (parse s).text = parse s := by
  have hread := consists_parse s
  refine ⟨fun t => ⟨fun h => (parse_of_consists h).symm, fun h => h ▸ hread⟩, ?_, ?_, ?_⟩
  · have hparts := ofParts?_ofName (parse s).spec.name
    rwa [ofName_name_parse] at hparts
  · have hstruct := isSome_structName?_ofName (parse s).spec.name
    rwa [ofName_name_parse] at hstruct
  · obtain ⟨htrimmed, hagain⟩ := consists_text (Text.trimmed_strip s.toList) hread
    exact parse_of_consists (by rwa [Text.strip_of_trimmed htrimmed])

/-- A tab stays in the name, a no-break space at the end goes, and the declarator keeps its own spaces. -/
example : parse "\tu8\t* (*) [ 4 ]\u00a0" = ⟨.struct "u8\t*", some "(*) [ 4 ]"⟩ := by decide +kernel

/-! The inner declarator -/

theorem innermost_of_notMem {s : List Char} (h : '(' ∉ s) : innermost s = s := by
  rw [innermost, if_neg (by simpa using h)]

theorem innermost_append {behind : List Char} (front : List Char) (h : '(' ∉ behind) :
    innermost (front ++ '(' :: behind) = behind.takeWhile (· != ')') := by
  have hall := Text.forall_bne_of_notMem (mt List.mem_reverse.mp h)
  rw [innermost, if_pos (by simp), List.reverse_append, List.reverse_cons, List.append_assoc,
    List.takeWhile_append_of_pos hall]
  simp

end MemoryAtlas.TypeDecl
