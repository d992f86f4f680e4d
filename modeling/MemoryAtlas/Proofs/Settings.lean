import MemoryAtlas.Proofs.Fallible
import MemoryAtlas.Proofs.Traversal
import MemoryAtlas.Settings

/-!
What becomes of a record of settings. A setting looks at its own field only, so settings are read apart from each other
(`Read`). A choice that does not exist gives one warning and the default; what else can go wrong is a value that spells
nothing, a value that is too long to be written, and hidden columns that cannot be gone through.
-/

namespace MemoryAtlas

namespace Checked

variable {ω ε α β : Type}

theorem result_bind (c : Checked ω ε α) (next : α → Checked ω ε β) :
    (c >>= next).result = c.result >>= fun a => (next a).result := by
  obtain ⟨warnings, result⟩ := c
  cases result <;> rfl

theorem mk_ok_bind (warnings : List ω) (a : α) (next : α → Checked ω ε β) :
    (mk warnings (.ok a) >>= next) = (next a).warn warnings := rfl

theorem ofExcept_ok_bind (a : α) (next : α → Checked ω ε β) : (ofExcept (.ok a) >>= next) = next a := rfl

theorem warnings_warn (warnings : List ω) (c : Checked ω ε α) : (c.warn warnings).warnings = warnings ++ c.warnings :=
  rfl

/-- Where nothing warns, nothing is warned of. -/
theorem warnings_ofExcept_bind {x : Except ε α} {next : α → Checked ω ε β} (h : ∀ a, (next a).warnings = []) :
    (ofExcept x >>= next).warnings = [] := by
  cases x with
  | error fault => rfl
  | ok a => exact h a

end Checked

namespace Settings

variable {r other : Record} {s : Settings} {d : Document} {fault : Fault}

/-- The setting has a value that is not allowed or cannot be written. -/
def Fault.IsValue : Fault → Prop
  | .notBoolean _ | .notInteger _ | .notPositive _ | .unwritable _ => True
  | .noRecord _ | .noFields _ | .noItems _ => False

/-- The reading succeeds if the condition holds, and blames the value otherwise. -/
def Settles {α : Type} (x : Except Fault α) (condition : Prop) : Prop :=
  match x with
  | .ok _ => condition
  | .error fault => fault.IsValue ∧ ¬ condition

section

variable {α β : Type} {x : Except Fault α} {condition later : Prop}

theorem Settles.of_ok {a : α} (h : Settles x condition) (hx : x = .ok a) : condition := by
  rwa [hx] at h

theorem Settles.of_error (h : Settles x condition) (hx : x = .error fault) : fault.IsValue ∧ ¬ condition := by
  rwa [hx] at h

theorem Settles.exists_ok (h : Settles x condition) (hc : condition) : ∃ a, x = .ok a := by
  cases x with
  | ok a => exact ⟨a, rfl⟩
  | error fault => exact absurd hc h.2

theorem settles_pure (a : α) : Settles (.ok a) True := trivial

theorem Settles.congr (h : Settles x condition) (hc : condition ↔ later) : Settles x later := by
  cases x with
  | ok a => exact hc.mp h
  | error fault => exact ⟨h.1, mt hc.mpr h.2⟩

/-- What follows a reading may ask for more of the value. -/
theorem Settles.bind {f : α → Except Fault β} (h : Settles x condition) (hf : ∀ a, Settles (f a) later) :
    Settles (x >>= f) (condition ∧ later) := by
  cases x with
  | error fault => exact ⟨h.1, fun hc => h.2 hc.1⟩
  | ok a =>
    have hc : condition := h
    change Settles (f a) _
    exact (hf a).congr (by simp [hc])

end

/-! One value -/

theorem settles_written (d : Document) : Settles (written d) (d.isWritable = true) := by
  unfold written Document.write
  split
  · next h => exact h
  · next h => exact ⟨trivial, h⟩

theorem written_of_isWritable (h : d.isWritable = true) : written d = pure d.display := by
  rw [written, Document.write, if_pos h]
  rfl

theorem written_of_not_isWritable (h : d.isWritable = false) : written d = .error (.unwritable ⟨⟩) := by
  rw [written, Document.write, h]
  rfl

/-- Null, a truth value, or a word for one in either case and with white space around it. -/
def IsFlag (d : Document) : Prop :=
  d = .null ∨ (∃ b, d = .bool b) ∨
    ∃ text, d.write = .ok text ∧ String.ofList (Text.lower (Text.strip text.toList)) ∈ trueWords ++ falseWords

/-- The number as it is, or a text that spells it. -/
def Spells (d : Document) (n : Int) : Prop := d = .int n ∨ ∃ s, d = .text s ∧ Integer.read s = .ok n

/-- Null, or a positive number. -/
def IsSize (d : Document) : Prop := d = .null ∨ ∃ n, 0 < n ∧ Spells d n

theorem isFlag_iff (hnull : d ≠ .null) (hbool : ∀ b, d ≠ .bool b) :
    IsFlag d ↔ d.isWritable = true ∧
      String.ofList (Text.lower (Text.strip d.display.toList)) ∈ trueWords ++ falseWords := by
  simp only [IsFlag, hnull, hbool, Document.write]
  split <;> simp_all

theorem settles_word (d : Document) (word : String) :
    Settles (if trueWords.contains word then pure (some true)
      else if falseWords.contains word then pure (some false) else throw (.notBoolean d))
      (word ∈ trueWords ++ falseWords) := by
  rw [List.mem_append]
  split
  · next h => exact .inl (List.contains_iff_mem.mp h)
  · next htrue =>
    split
    · next h => exact .inr (List.contains_iff_mem.mp h)
    · next hfalse =>
      refine ⟨trivial, ?_⟩
      rw [List.contains_iff_mem] at htrue hfalse
      exact not_or.mpr ⟨htrue, hfalse⟩

theorem settles_flag (d : Document) : Settles (flag d) (IsFlag d) := by
  unfold flag
  split
  · exact .inl rfl
  · next b => exact .inr (.inl ⟨b, rfl⟩)
  · next hnull hbool =>
    have hn : d ≠ .null := fun h => hnull h
    have hb : ∀ b, d ≠ .bool b := fun b h => hbool b h
    cases hw : d.isWritable with
    | false =>
      rw [written_of_not_isWritable hw]
      exact ⟨trivial, by simp [isFlag_iff hn hb, hw]⟩
    | true =>
      rw [written_of_isWritable hw, pure_bind]
      exact (settles_word d _).congr (by simp only [isFlag_iff hn hb, hw, true_and])

theorem integer_eq_ok_iff {n : Int} : d.integer = .ok n ↔ Spells d n := by
  unfold Document.integer Spells
  split
  · simp
  · simp [Fallible.mapError_eq_ok]
  · next hint htext =>
    have hi : d ≠ .int n := hint n
    have ht : ∀ s, d ≠ .text s := htext
    simp [hi, ht]

theorem settles_positive (n : Int) : Settles (positive n) (0 < n) := by
  unfold positive
  split
  · next h => exact h
  · next h => exact ⟨trivial, h⟩

theorem settles_pageSizeOf (d : Document) : Settles (pageSizeOf d) (IsSize d) := by
  unfold pageSizeOf
  split
  · exact .inl rfl
  · next hnull =>
    have hn : d ≠ .null := fun h => hnull h
    have hsize : IsSize d ↔ ∃ n, 0 < n ∧ d.integer = .ok n := by
      simp only [IsSize, hn, false_or, integer_eq_ok_iff]
    cases hd : d.integer with
    | error why => exact ⟨trivial, by simp [hsize, hd]⟩
    | ok n => exact (settles_positive n).congr (by simp [hsize, hd])

/-- A page holds as much as is asked for, and else as much as it does by default. -/
theorem pageSizeOf_eq_ok {size : { n : Nat // 0 < n }} (h : pageSizeOf d = .ok size) :
    d = .null ∧ size.val = default.pageSize ∨ Spells d size.val := by
  unfold pageSizeOf at h
  split at h
  · cases h
    exact .inl ⟨rfl, rfl⟩
  · obtain ⟨n, hn, h⟩ := Fallible.bind_eq_ok.mp h
    unfold positive at h
    split at h
    · next hpos =>
      cases h
      refine .inr (integer_eq_ok_iff.mp ?_)
      rw [Fallible.mapError_eq_ok.mp hn, Int.toNat_of_nonneg (Int.le_of_lt hpos)]
    · cases h

theorem settles_filterOf (d : Document) : Settles (filterOf d) (d.isPresent = true → d.isWritable = true) := by
  unfold filterOf
  split
  · next h => exact (settles_written d).congr (by simp [h])
  · next h => exact fun hp => absurd hp h

theorem settles_options (d : Document) : Settles (options d) (d.isPresent = true → d.isWritable = true) := by
  unfold options
  split
  · next h =>
    refine ((settles_written d).bind fun text => settles_pure _).congr (by simp [h])
  · next h => exact fun hp => absurd hp h

theorem settles_mapsDirOf (r : Record) :
    Settles (mapsDirOf r) (∀ d, r.lookup (.text "maps_dir") = some d → d.isWritable = true) := by
  unfold mapsDirOf
  split
  · next d h => exact (settles_written d).congr (by simp [h])
  · next h =>
    intro d hd
    rw [h] at hd
    cases hd

theorem settles_mapM_written (items : List Document) :
    Settles (items.mapM written) (∀ item ∈ items, item.isWritable = true) := by
  induction items with
  | nil => exact fun item hitem => absurd hitem List.not_mem_nil
  | cons item items ih =>
    rw [List.mapM_cons]
    refine ((settles_written item).bind fun text => ih.bind fun texts => settles_pure _).congr ?_
    rw [and_true, List.forall_mem_cons]

theorem settles_columns (h : d ≠ .null → d.items?.isSome) :
    Settles (columns d) (∀ items, d.items? = some items → ∀ item ∈ items, item.isWritable = true) := by
  unfold columns
  split
  · intro items hitems
    cases hitems
  · next hnull =>
    obtain ⟨items, hitems⟩ := Option.isSome_iff_exists.mp (h fun hn => hnull hn)
    rw [hitems]
    exact (settles_mapM_written items).congr (by simp)

theorem columns_of_items?_eq_none (hnull : d ≠ .null) (h : d.items? = none) : columns d = .error (.noItems d) := by
  unfold columns
  split
  · exact absurd rfl hnull
  · rw [h]

/-! One choice -/

/-- The choice is made, and is none of those that there are. -/
def Unknown (choices : List String) (d : Document) : Prop := d ≠ .null ∧ ∀ choice ∈ choices, d ≠ .text choice

instance (choices : List String) (d : Document) : Decidable (Unknown choices d) := inferInstanceAs (Decidable (_ ∧ _))

/-- What a choice comes to: itself if it is one of those that there are, and else the default. -/
def Chooses (choices : List String) (fallback : String) (d : Document) (choice : String) : Prop :=
  d = .text choice ∧ choice ∈ choices ∨ (d = .null ∨ Unknown choices d) ∧ choice = fallback

/-- The choice that is made, if it is one of those that there are. -/
def chosen (choices : List String) (fallback : String) (d : Document) : String :=
  (d.asText?.filter choices.contains).getD fallback

/-- A choice that does not exist is warned of once. -/
def complaints (warning : String → Warning) (choices : List String) (d : Document) : List Warning :=
  if Unknown choices d then [warning d.display] else []

section

variable {warning : String → Warning} {choices : List String} {fallback choice : String}

theorem asText?_eq_some_iff : d.asText? = some choice ↔ d = .text choice := by
  cases d with
  | scalar value => cases value <;> simp [Document.asText?, Document.scalar?, Scalar.asText?]
  | list items => simp [Document.asText?, Document.scalar?]
  | record fields => simp [Document.asText?, Document.scalar?]

theorem filter_contains_eq_some_iff :
    d.asText?.filter choices.contains = some choice ↔ d = .text choice ∧ choice ∈ choices := by
  rw [Option.filter_eq_some_iff, asText?_eq_some_iff, List.contains_iff_mem]

theorem filter_contains_eq_none_iff :
    d.asText?.filter choices.contains = none ↔ d = .null ∨ Unknown choices d := by
  rw [Option.eq_none_iff_forall_ne_some]
  simp only [ne_eq, filter_contains_eq_some_iff, Unknown, not_and]
  constructor
  · intro h
    by_cases hnull : d = .null
    · exact .inl hnull
    · exact .inr ⟨hnull, fun choice hmem heq => h choice heq hmem⟩
  · rintro (rfl | ⟨-, h⟩) choice heq hmem
    · cases heq
    · exact h choice hmem heq

theorem chooses_chosen (choices : List String) (fallback : String) (d : Document) :
    Chooses choices fallback d (chosen choices fallback d) := by
  unfold chosen
  cases hc : d.asText?.filter choices.contains with
  | none => exact .inr ⟨filter_contains_eq_none_iff.mp hc, rfl⟩
  | some choice => exact .inl (filter_contains_eq_some_iff.mp hc)

theorem Chooses.mem (h : Chooses choices fallback d choice) (hf : fallback ∈ choices) : choice ∈ choices := by
  obtain ⟨-, hmem⟩ | ⟨-, rfl⟩ := h
  · exact hmem
  · exact hf

theorem Chooses.of_unknown (h : Chooses choices fallback d choice) (hd : Unknown choices d) : choice = fallback := by
  obtain ⟨rfl, hmem⟩ | ⟨-, rfl⟩ := h
  · exact absurd rfl (hd.2 choice hmem)
  · rfl

theorem chosen_of_unknown (h : Unknown choices d) : chosen choices fallback d = fallback :=
  (chooses_chosen choices fallback d).of_unknown h

theorem made_of_ne_null (h : d ≠ .null) : made d = some d := by
  unfold made
  split
  · exact absurd rfl h
  · rfl

/-- A choice that does not exist has to be written for the warning. -/
theorem choose_eq (warning : String → Warning) (choices : List String) (fallback : String) (d : Document) :
    choose warning choices fallback d =
      if Unknown choices d ∧ d.isWritable = false then .error (.unwritable ⟨⟩)
      else ⟨complaints warning choices d, .ok (chosen choices fallback d)⟩ := by
  by_cases hnull : d = .null
  · subst hnull
    have hknown : ¬ Unknown choices .null := fun h => h.1 rfl
    rw [if_neg fun h => hknown h.1, complaints, if_neg hknown]
    rfl
  · simp only [choose, made_of_ne_null hnull]
    cases hc : d.asText?.filter choices.contains with
    | some choice =>
      obtain ⟨hd, hmem⟩ := filter_contains_eq_some_iff.mp hc
      have hknown : ¬ Unknown choices d := fun h => h.2 choice hmem hd
      rw [if_neg fun h => hknown h.1, complaints, if_neg hknown, chosen, hc]
      rfl
    | none =>
      have hunknown : Unknown choices d := (filter_contains_eq_none_iff.mp hc).resolve_left hnull
      rw [complaints, if_pos hunknown, chosen_of_unknown hunknown]
      cases hw : d.isWritable with
      | true =>
        rw [written_of_isWritable hw, if_neg (by simp)]
        rfl
      | false =>
        rw [written_of_not_isWritable hw, if_pos ⟨hunknown, rfl⟩]
        rfl

theorem choose_of_isWritable (h : d.isWritable = true) :
    choose warning choices fallback d = ⟨complaints warning choices d, .ok (chosen choices fallback d)⟩ := by
  rw [choose_eq, if_neg (by simp [h])]

theorem eq_chosen_of_choose (h : (choose warning choices fallback d).result = .ok choice) :
    choice = chosen choices fallback d := by
  rw [choose_eq] at h
  split at h
  · cases h
  · exact (Except.ok.inj h).symm

end

/-- The name of a region as it is looked up, in capitals. -/
def shownRegion (d : Document) : Document :=
  if d = .null then .null else .text (String.ofList (Text.upper d.display.toList))

theorem regionName_of_isWritable (h : d.isWritable = true) : regionName d = .ok (shownRegion d) := by
  unfold regionName shownRegion
  by_cases hnull : d = .null
  · subst hnull
    rfl
  · rw [made_of_ne_null hnull, if_neg hnull]
    simp only [written_of_isWritable h]
    rfl

theorem isWritable_shownRegion (d : Document) : (shownRegion d).isWritable = true := by
  unfold shownRegion
  split <;> rfl

theorem eq_shownRegion_of_regionName {name : Document} (h : regionName d = .ok name) : name = shownRegion d := by
  have hw : d.isWritable = true := by
    by_cases hnull : d = .null
    · subst hnull
      rfl
    · unfold regionName at h
      rw [made_of_ne_null hnull] at h
      obtain ⟨text, htext, -⟩ := Fallible.bind_eq_ok.mp h
      exact (settles_written d).of_ok htext
  exact Except.ok.inj (h.symm.trans (regionName_of_isWritable hw))

/-! All settings -/

/-- A search flag or the page size has a value that spells none. -/
def Misspelled (r : Record) : Prop :=
  ¬ IsFlag (r.optional "search_structs") ∨ ¬ IsFlag (r.optional "search_enums") ∨ ¬ IsSize (r.optional "page_size")

/-- The values that become texts of the settings: the maps directory if it is there at all, the filter and the search
letters if they are present, and every item of the hidden columns. -/
def texts (r : Record) : List Document :=
  (r.lookup (.text "maps_dir")).toList ++ [r.optional "filter", r.optional "options"].filter Document.isPresent
    ++ ((r.optional "hidden_columns").items?).getD []

/-- A value that has to become a text cannot be written. -/
def Unwritable (r : Record) : Prop := ∃ d ∈ texts r, d.isWritable = false

/-- The game, region and map that are asked for can be written. -/
def Legible (r : Record) : Prop := ∀ key ∈ ["game", "region", "map"], (r.optional key).isWritable = true

theorem Legible.game (h : Legible r) : (r.optional "game").isWritable = true := h _ (by decide)

theorem Legible.region (h : Legible r) : (r.optional "region").isWritable = true := h _ (by decide)

theorem Legible.map (h : Legible r) : (r.optional "map").isWritable = true := h _ (by decide)

/-- All settings but the hidden columns. -/
def front (r : Record) : Except Fault (List String → Settings) := do
  let mapsDir ← mapsDirOf r
  let game ← (choose .game games default.game (r.optional "game")).result
  let name ← regionName (r.optional "region")
  let region ← (choose .region regions default.region name).result
  let map ← (choose .map maps default.map (r.optional "map")).result
  let filter ← filterOf (r.optional "filter")
  let letters ← options (r.optional "options")
  let searchStructs ← flag (r.optional "search_structs")
  let searchEnums ← flag (r.optional "search_enums")
  let ⟨pageSize, pageSize_pos⟩ ← pageSizeOf (r.optional "page_size")
  return fun hiddenColumns => {
    mapsDir, game, region, map, filter
    searchStructs := searchStructs.getD (letters.contains ['s'])
    searchEnums := searchEnums.getD (letters.contains ['e'])
    pageSize, pageSize_pos, hiddenColumns }

theorem result_parse (r : Record) :
    (parse r).result = front r >>= fun make => make <$> columns (r.optional "hidden_columns") := by
  simp only [parse, front, Checked.result_bind, bind_assoc, pure_bind]
  rfl

/-- Each value fits its setting, those of the hidden columns left aside. -/
def Fits (r : Record) : Prop :=
  (∀ d, r.lookup (.text "maps_dir") = some d → d.isWritable = true) ∧
  ((r.optional "filter").isPresent = true → (r.optional "filter").isWritable = true) ∧
  ((r.optional "options").isPresent = true → (r.optional "options").isWritable = true) ∧
  IsFlag (r.optional "search_structs") ∧ IsFlag (r.optional "search_enums") ∧ IsSize (r.optional "page_size")

theorem settles_front (h : Legible r) : Settles (front r) (Fits r) := by
  unfold front Fits
  rw [choose_of_isWritable h.game, regionName_of_isWritable h.region, choose_of_isWritable h.map]
  refine (settles_mapsDirOf r).bind fun mapsDir => ?_
  change Settles ((choose .region regions default.region (shownRegion (r.optional "region"))).result >>= _) _
  rw [choose_of_isWritable (isWritable_shownRegion _)]
  refine (settles_filterOf _).bind fun filter => ?_
  refine (settles_options _).bind fun letters => ?_
  refine (settles_flag _).bind fun searchStructs => ?_
  refine (settles_flag _).bind fun searchEnums => ?_
  refine ((settles_pageSizeOf _).bind fun size => settles_pure _).congr ?_
  rw [and_true]

/-- Hidden columns are asked for that cannot be gone through. -/
def NoItems (d : Document) : Prop := d ≠ .null ∧ d.items? = none

theorem not_misspelled_or_unwritable_iff : ¬ (Misspelled r ∨ Unwritable r) ↔
    Fits r ∧ ∀ items, (r.optional "hidden_columns").items? = some items → ∀ item ∈ items, item.isWritable = true := by
  have hitems : (∀ d ∈ ((r.optional "hidden_columns").items?).getD [], d.isWritable = true) ↔
      ∀ items, (r.optional "hidden_columns").items? = some items → ∀ item ∈ items, item.isWritable = true := by
    cases (r.optional "hidden_columns").items? <;> simp
  have htexts : ¬ Unwritable r ↔ ∀ d ∈ texts r, d.isWritable = true := by simp [Unwritable]
  have hspelled : ¬ Misspelled r ↔
      IsFlag (r.optional "search_structs") ∧ IsFlag (r.optional "search_enums") ∧ IsSize (r.optional "page_size") := by
    simp [Misspelled, not_or]
  rw [not_or, htexts, hspelled, ← hitems]
  simp only [texts, Fits, List.forall_mem_append, List.mem_filter, and_imp, List.forall_mem_cons, Option.mem_toList,
    List.not_mem_nil, IsEmpty.forall_iff, implies_true, and_true]
  constructor
  · rintro ⟨⟨hstructs, henums, hsize⟩, ⟨hdir, hfilter, hoptions⟩, hhidden⟩
    exact ⟨⟨hdir, hfilter, hoptions, hstructs, henums, hsize⟩, hhidden⟩
  · rintro ⟨⟨hdir, hfilter, hoptions, hstructs, henums, hsize⟩, hhidden⟩
    exact ⟨⟨hstructs, henums, hsize⟩, ⟨hdir, hfilter, hoptions⟩, hhidden⟩

theorem settles_parse (h : Legible r) (hitems : ¬ NoItems (r.optional "hidden_columns")) :
    Settles (parse r).result (¬ (Misspelled r ∨ Unwritable r)) := by
  have hsome : r.optional "hidden_columns" ≠ .null → (r.optional "hidden_columns").items?.isSome := by
    intro hnull
    rw [Option.isSome_iff_ne_none]
    exact fun hnone => hitems ⟨hnull, hnone⟩
  rw [result_parse]
  refine ((settles_front h).bind fun make => ?_).congr not_misspelled_or_unwritable_iff.symm
  exact ((settles_columns hsome).bind fun _ => settles_pure _).congr (by rw [and_true])

/-- Hidden columns that cannot be gone through are only found out when all else fits. -/
theorem result_parse_of_noItems (hitems : NoItems (r.optional "hidden_columns")) :
    (parse r).result = front r >>= fun _ => .error (.noItems (r.optional "hidden_columns")) := by
  rw [result_parse, columns_of_items?_eq_none hitems.1 hitems.2]
  rfl

theorem not_misspelled_or_unwritable_of_noItems (hitems : NoItems (r.optional "hidden_columns")) :
    ¬ (Misspelled r ∨ Unwritable r) ↔ Fits r := by
  rw [not_misspelled_or_unwritable_iff, hitems.2]
  simp

/-- What becomes of a record whose choices can be written. -/
theorem parse_outcome (h : Legible r) :
    (Misspelled r ∨ Unwritable r) ∧ (∃ fault, (parse r).result = .error fault ∧ fault.IsValue) ∨
    ¬ (Misspelled r ∨ Unwritable r) ∧ NoItems (r.optional "hidden_columns") ∧
      (parse r).result = .error (.noItems (r.optional "hidden_columns")) ∨
    ¬ (Misspelled r ∨ Unwritable r) ∧ ¬ NoItems (r.optional "hidden_columns") ∧ ∃ s, (parse r).result = .ok s := by
  -- the hidden columns are read last, so a value that is at fault comes first
  by_cases hitems : NoItems (r.optional "hidden_columns")
  · have hfront := settles_front h
    have hfits := not_misspelled_or_unwritable_of_noItems hitems
    rw [result_parse_of_noItems hitems]
    cases hr : front r with
    | error fault =>
      obtain ⟨hvalue, hnot⟩ := hfront.of_error hr
      exact .inl ⟨not_not.mp (mt hfits.mp hnot), fault, rfl, hvalue⟩
    | ok make => exact .inr (.inl ⟨hfits.mpr (hfront.of_ok hr), hitems, rfl⟩)
  · have hsettles := settles_parse h hitems
    cases hr : (parse r).result with
    | error fault =>
      obtain ⟨hvalue, hnot⟩ := hsettles.of_error hr
      exact .inl ⟨not_not.mp hnot, fault, rfl, hvalue⟩
    | ok s => exact .inr (.inr ⟨hsettles.of_ok hr, hitems, s, rfl⟩)

theorem blamed_iff (h : Legible r) :
    (∃ fault, (parse r).result = .error fault ∧ fault.IsValue) ↔ Misspelled r ∨ Unwritable r := by
  constructor
  · rintro ⟨fault, hfault, hvalue⟩
    obtain ⟨hbad, -⟩ | ⟨-, -, hr⟩ | ⟨-, -, s, hr⟩ := parse_outcome h
    · exact hbad
    · cases hfault.symm.trans hr
      exact hvalue.elim
    · cases hfault.symm.trans hr
  · intro hbad
    obtain ⟨-, hfault⟩ | ⟨hfits, -⟩ | ⟨hfits, -⟩ := parse_outcome h
    · exact hfault
    · exact absurd hbad hfits
    · exact absurd hbad hfits

theorem error_not_isValue_iff (h : Legible r) :
    (parse r).result = .error fault ∧ ¬ fault.IsValue ↔
      fault = .noItems (r.optional "hidden_columns") ∧ NoItems (r.optional "hidden_columns") ∧
        ¬ (Misspelled r ∨ Unwritable r) := by
  constructor
  · rintro ⟨hfault, hvalue⟩
    obtain ⟨-, other, hr, hother⟩ | ⟨hfits, hitems, hr⟩ | ⟨-, -, s, hr⟩ := parse_outcome h
    · cases hfault.symm.trans hr
      exact absurd hother hvalue
    · cases hfault.symm.trans hr
      exact ⟨rfl, hitems, hfits⟩
    · cases hfault.symm.trans hr
  · rintro ⟨rfl, hitems, hfits⟩
    obtain ⟨hbad, -⟩ | ⟨-, -, hr⟩ | ⟨-, hnot, -⟩ := parse_outcome h
    · exact absurd hbad hfits
    · exact ⟨hr, id⟩
    · exact absurd hitems hnot

/-! Settings apart from each other -/

/-- The search flag is the one that is given or else, whether its letter is among the options. -/
def Searches (r : Record) (key : String) (letter : Char) (on : Bool) : Prop :=
  ∃ letters own, options (r.optional "options") = .ok letters ∧ flag (r.optional key) = .ok own ∧
    on = own.getD (letters.contains [letter])

/-- Where each setting comes from. -/
structure Read (r : Record) (s : Settings) : Prop where
  mapsDir : mapsDirOf r = .ok s.mapsDir
  game : s.game = chosen games default.game (r.optional "game")
  region : s.region = chosen regions default.region (shownRegion (r.optional "region"))
  map : s.map = chosen maps default.map (r.optional "map")
  filter : filterOf (r.optional "filter") = .ok s.filter
  searchStructs : Searches r "search_structs" 's' s.searchStructs
  searchEnums : Searches r "search_enums" 'e' s.searchEnums
  pageSize : ∃ size, pageSizeOf (r.optional "page_size") = .ok size ∧ s.pageSize = size.val
  hiddenColumns : columns (r.optional "hidden_columns") = .ok s.hiddenColumns

theorem read_of_parse (h : (parse r).result = .ok s) : Read r s := by
  rw [result_parse] at h
  obtain ⟨make, hfront, h⟩ := Fallible.bind_eq_ok.mp h
  obtain ⟨hidden, hhidden, rfl⟩ := Fallible.map_eq_ok.mp h
  obtain ⟨mapsDir, hdir, hfront⟩ := Fallible.bind_eq_ok.mp hfront
  obtain ⟨game, hgame, hfront⟩ := Fallible.bind_eq_ok.mp hfront
  obtain ⟨name, hname, hfront⟩ := Fallible.bind_eq_ok.mp hfront
  obtain ⟨region, hregion, hfront⟩ := Fallible.bind_eq_ok.mp hfront
  obtain ⟨map, hmap, hfront⟩ := Fallible.bind_eq_ok.mp hfront
  obtain ⟨filter, hfilter, hfront⟩ := Fallible.bind_eq_ok.mp hfront
  obtain ⟨letters, hletters, hfront⟩ := Fallible.bind_eq_ok.mp hfront
  obtain ⟨searchStructs, hstructs, hfront⟩ := Fallible.bind_eq_ok.mp hfront
  obtain ⟨searchEnums, henums, hfront⟩ := Fallible.bind_eq_ok.mp hfront
  obtain ⟨size, hsize, hfront⟩ := Fallible.bind_eq_ok.mp hfront
  cases hfront
  rw [eq_shownRegion_of_regionName hname] at hregion
  exact {
    mapsDir := hdir
    game := eq_chosen_of_choose hgame
    region := eq_chosen_of_choose hregion
    map := eq_chosen_of_choose hmap
    filter := hfilter
    searchStructs := ⟨letters, searchStructs, hletters, hstructs, rfl⟩
    searchEnums := ⟨letters, searchEnums, hletters, henums, rfl⟩
    pageSize := ⟨size, hsize, rfl⟩
    hiddenColumns := hhidden }

/-- The choices are among those there are, and a page holds something. -/
structure Valid (s : Settings) : Prop where
  game : s.game ∈ games
  region : s.region ∈ regions
  map : s.map ∈ maps
  pageSize : 1 ≤ s.pageSize

/-- What becomes of the choices and of the page size that are asked for. -/
structure Follows (r : Record) (s : Settings) : Prop where
  game : Chooses games default.game (r.optional "game") s.game
  region : Chooses regions default.region (shownRegion (r.optional "region")) s.region
  map : Chooses maps default.map (r.optional "map") s.map
  pageSize : r.optional "page_size" = .null ∧ s.pageSize = default.pageSize ∨ Spells (r.optional "page_size") s.pageSize

theorem Read.follows (h : Read r s) : Follows r s where
  game := h.game ▸ chooses_chosen _ _ _
  region := h.region ▸ chooses_chosen _ _ _
  map := h.map ▸ chooses_chosen _ _ _
  pageSize := by
    obtain ⟨size, hsize, hs⟩ := h.pageSize
    rw [hs]
    exact pageSizeOf_eq_ok hsize

theorem Follows.valid (h : Follows r s) : Valid s where
  game := h.game.mem (by decide)
  region := h.region.mem (by decide)
  map := h.map.mem (by decide)
  pageSize := s.pageSize_pos

/-- The records hold the same under the key, or both nothing. -/
def Agree (r other : Record) (key : String) : Prop := r.lookup (.text key) = other.lookup (.text key)

theorem Agree.optional_eq {key : String} (h : Agree r other key) : r.optional key = other.optional key := by
  rw [Record.optional, Record.optional, show r.lookup (.text key) = other.lookup (.text key) from h]

/-- Each setting is the same where the records agree on the keys that are its own. -/
structure Apart (r other : Record) (s t : Settings) : Prop where
  mapsDir : Agree r other "maps_dir" → s.mapsDir = t.mapsDir
  game : Agree r other "game" → s.game = t.game
  region : Agree r other "region" → s.region = t.region
  map : Agree r other "map" → s.map = t.map
  filter : Agree r other "filter" → s.filter = t.filter
  searchStructs : Agree r other "options" → Agree r other "search_structs" → s.searchStructs = t.searchStructs
  searchEnums : Agree r other "options" → Agree r other "search_enums" → s.searchEnums = t.searchEnums
  pageSize : Agree r other "page_size" → s.pageSize = t.pageSize
  hiddenColumns : Agree r other "hidden_columns" → s.hiddenColumns = t.hiddenColumns

theorem Searches.congr {key : String} {letter : Char} {on off : Bool} (h : Searches r key letter on)
    (hother : Searches other key letter off) (hoptions : Agree r other "options") (hkey : Agree r other key) :
    on = off := by
  obtain ⟨letters, own, hletters, hown, rfl⟩ := h
  obtain ⟨letters', own', hletters', hown', rfl⟩ := hother
  rw [hoptions.optional_eq] at hletters
  rw [hkey.optional_eq] at hown
  cases hletters.symm.trans hletters'
  cases hown.symm.trans hown'
  rfl

theorem Read.apart {t : Settings} (hs : Read r s) (ht : Read other t) : Apart r other s t where
  mapsDir h := by
    have hdir : mapsDirOf r = mapsDirOf other := by
      rw [mapsDirOf, mapsDirOf, show r.lookup (.text "maps_dir") = other.lookup (.text "maps_dir") from h]
    exact Except.ok.inj (hs.mapsDir.symm.trans (hdir.trans ht.mapsDir))
  game h := by rw [hs.game, ht.game, h.optional_eq]
  region h := by rw [hs.region, ht.region, h.optional_eq]
  map h := by rw [hs.map, ht.map, h.optional_eq]
  filter h := Except.ok.inj (hs.filter.symm.trans (h.optional_eq ▸ ht.filter))
  searchStructs hoptions h := hs.searchStructs.congr ht.searchStructs hoptions h
  searchEnums hoptions h := hs.searchEnums.congr ht.searchEnums hoptions h
  pageSize h := by
    obtain ⟨size, hsize, hs⟩ := hs.pageSize
    obtain ⟨size', hsize', ht⟩ := ht.pageSize
    rw [h.optional_eq] at hsize
    cases hsize.symm.trans hsize'
    rw [hs, ht]
  hiddenColumns h := Except.ok.inj (hs.hiddenColumns.symm.trans (h.optional_eq ▸ ht.hiddenColumns))

/-! Warnings -/

/-- Choices are warned of even where a later setting is at fault. -/
theorem warnings_parse (h : Legible r) (hdir : ∀ d, r.lookup (.text "maps_dir") = some d → d.isWritable = true) :
    (parse r).warnings =
      complaints .game games (r.optional "game") ++
        (complaints .region regions (shownRegion (r.optional "region")) ++
          complaints .map maps (r.optional "map")) := by
  obtain ⟨mapsDir, hmaps⟩ := (settles_mapsDirOf r).exists_ok hdir
  unfold parse
  rw [hmaps, Checked.ofExcept_ok_bind, choose_of_isWritable h.game, Checked.mk_ok_bind,
    regionName_of_isWritable h.region, Checked.ofExcept_ok_bind, choose_of_isWritable (isWritable_shownRegion _),
    Checked.mk_ok_bind, choose_of_isWritable h.map, Checked.mk_ok_bind]
  simp only [Checked.warnings_warn, List.append_cancel_left_eq]
  -- nothing after the choices warns
  refine List.append_right_eq_self.mpr ?_
  refine Checked.warnings_ofExcept_bind fun filter => ?_
  refine Checked.warnings_ofExcept_bind fun letters => ?_
  refine Checked.warnings_ofExcept_bind fun searchStructs => ?_
  refine Checked.warnings_ofExcept_bind fun searchEnums => ?_
  refine Checked.warnings_ofExcept_bind fun size => ?_
  exact Checked.warnings_ofExcept_bind fun columns => rfl

/-- Settings that are read are valid and read apart from each other, and instead of choices that do not exist they hold
the default. If the choices that are asked for can be written, a value is blamed just where one is misspelled or cannot
become a text, and nothing else is except hidden columns that cannot be gone through; and choices that do not exist give
one warning each, and nothing else gives one, unless the maps directory already fails. -/
theorem parse_valid_and_apart (r : Record) :
    (∀ s, (parse r).result = .ok s →
      Valid s ∧ Follows r s ∧ ∀ other t, (parse other).result = .ok t → Apart r other s t) ∧
    (Legible r →
      ((∃ fault, (parse r).result = .error fault ∧ fault.IsValue) ↔ Misspelled r ∨ Unwritable r) ∧
      (∀ fault, (parse r).result = .error fault ∧ ¬ fault.IsValue ↔
        fault = .noItems (r.optional "hidden_columns") ∧ NoItems (r.optional "hidden_columns") ∧
          ¬ (Misspelled r ∨ Unwritable r)) ∧
      ((∀ d, r.lookup (.text "maps_dir") = some d → d.isWritable = true) →
        (parse r).warnings =
          complaints .game games (r.optional "game") ++
            (complaints .region regions (shownRegion (r.optional "region")) ++
              complaints .map maps (r.optional "map")))) := by
  refine ⟨fun s hs => ?_, fun h => ⟨blamed_iff h, fun fault => error_not_isValue_iff h, warnings_parse h⟩⟩
  have hread := read_of_parse hs
  exact ⟨hread.follows.valid, hread.follows, fun other t ht => hread.apart (read_of_parse ht)⟩

/-- A game that there is not, a region in small letters and a page size in hexadecimal. -/
theorem parse_valid_and_apart_stray_game :
    let r : Record := [(.text "game", .text "sm"), (.text "region", .text "j"), (.text "page_size", .text "0x10")]
    Legible r ∧ (∀ d, r.lookup (.text "maps_dir") = some d → d.isWritable = true) ∧
      (parse r).warnings = [.game "sm"] ∧ ∃ s, (parse r).result = .ok s ∧ Valid s ∧ s.game = "mf" ∧ s.region = "J" := by
  intro r
  have hlegible : Legible r := by
    unfold Legible
    decide
  have hdir : ∀ d, r.lookup (.text "maps_dir") = some d → d.isWritable = true := by
    rintro d ⟨⟩
  have hall := parse_valid_and_apart r
  have hwarnings := (hall.2 hlegible).2.2 hdir
  obtain ⟨s, hs, hregion⟩ : ∃ s, (parse r).result = .ok s ∧ s.region = "J" := ⟨_, rfl, by decide⟩
  obtain ⟨hvalid, hfollows, -⟩ := hall.1 s hs
  have hgame : s.game = "mf" := hfollows.game.of_unknown (by decide)
  exact ⟨hlegible, hdir, hwarnings.trans (by decide), s, hs, hvalid, hgame, hregion⟩

theorem isWritable_bound : (Document.int Integer.bound).isWritable = false := by
  change decide ((Integer.bound : Int).natAbs < Integer.bound) = false
  rw [Int.natAbs_natCast, decide_eq_false_iff_not]
  exact Nat.lt_irrefl _

theorem unknown_int (choices : List String) (n : Int) : Unknown choices (.int n) := ⟨nofun, fun _ _ => nofun⟩

/-- A number that is too long to be written is blamed as the maps directory, which spells nothing, and as the game,
which would only be warned of. -/
theorem unwritable_is_blamed :
    let far : Document := .int Integer.bound
    let elsewhere : Record := [(.text "maps_dir", far)]
    let strange : Record := [(.text "game", far)]
    ¬ ((∃ fault, (parse elsewhere).result = .error fault ∧ fault.IsValue) ↔ Misspelled elsewhere) ∧
      Unknown games (strange.optional "game") ∧ (parse strange).warnings = [] ∧
      ∃ fault, (parse strange).result = .error fault ∧ fault.IsValue := by
  intro far elsewhere strange
  have hunknown : Unknown games far := unknown_int games _
  have hdir : mapsDirOf elsewhere = .error (.unwritable ⟨⟩) := written_of_not_isWritable isWritable_bound
  have helsewhere : (parse elsewhere).result = .error (.unwritable ⟨⟩) := by
    unfold parse
    rw [hdir]
    rfl
  have hgame : choose .game games default.game (strange.optional "game") = .error (.unwritable ⟨⟩) := by
    change choose .game games default.game far = _
    rw [choose_eq, if_pos ⟨hunknown, isWritable_bound⟩]
  have hstrange : parse strange = .error (.unwritable ⟨⟩) := by
    unfold parse
    rw [hgame]
    rfl
  refine ⟨fun hiff => ?_, hunknown, congrArg Checked.warnings hstrange, .unwritable ⟨⟩,
    congrArg Checked.result hstrange, trivial⟩
  obtain hstructs | henums | hsize := hiff.mp ⟨_, helsewhere, trivial⟩
  · exact hstructs (.inl rfl)
  · exact henums (.inl rfl)
  · exact hsize (.inl rfl)

end Settings

end MemoryAtlas
