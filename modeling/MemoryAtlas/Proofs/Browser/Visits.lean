import MemoryAtlas.Proofs.Browser.History

/-!
What actions do to a browser whose files may change between them. An action leaves what is on view alone and
tells nobody, or it changes it in one of four ways and tells of the state behind it (`Effect`); whatever all
five ways keep, a series of actions keeps.
-/

namespace MemoryAtlas.Browser

variable {files : Archive} {b : Browser} {action : Action}

/-- An action, and the files as they are when it is taken. -/
structure Step where
  files : Archive
  action : Action

/-- The state behind a series of steps, failed ones included. -/
def follow (b : Browser) (steps : List Step) : Browser :=
  steps.foldl (fun b step => (b.act step.files step.action).after) b

theorem follow_of_act {P : Browser → Prop} {steps : List Step}
    (hact : ∀ step ∈ steps, ∀ b, P b → P (b.act step.files step.action).after) (h : P b) :
    P (b.follow steps) := by
  induction steps generalizing b with
  | nil => exact h
  | cons step steps ih =>
    obtain ⟨hfirst, hothers⟩ := List.forall_mem_cons.mp hact
    exact ih hothers (hfirst b h)

/-- What the steps give one after the other, each of them in the state that it comes to. -/
def along {α : Type} (give : Browser → Step → List α) (b : Browser) : List Step → List α
  | [] => []
  | step :: steps => give b step ++ along give (b.act step.files step.action).after steps

theorem forall_mem_along {α : Type} {give : Browser → Step → List α} {P : Browser → Prop} {Q : α → Prop}
    {steps : List Step} (hact : ∀ (step : Step) b, P b → P (b.act step.files step.action).after)
    (hgive : ∀ step b, P b → ∀ a ∈ give b step, Q a) (h : P b) : ∀ a ∈ along give b steps, Q a := by
  induction steps generalizing b with
  | nil => exact fun a ha => absurd ha List.not_mem_nil
  | cons step steps ih =>
    intro a ha
    rcases List.mem_append.mp ha with ha | ha
    · exact hgive step b h a ha
    · exact ih (hact step b h) a ha

/-! One action -/

/-- All that there is to see of a browser: everything but its settings. -/
structure View where
  atlas : Atlas
  all : List Entry
  shown : List Entry
  page : Nat
  hidden : List String

def view (b : Browser) : View := ⟨b.atlas, b.all, b.shown, b.page, b.hidden⟩

/-- What an action puts in the place of what is loaded. -/
def supply? (files : Archive) (b : Browser) (action : Action) : Option Atlas :=
  if action.loads then
    (Atlas.load files (b.choosing action).settings.mapsDir (b.choosing action).settings.selection).result.toOption
  else none

theorem supply?_eq_some {atlas : Atlas} : b.supply? files action = some atlas ↔ action.loads = true ∧
    (Atlas.load files (b.choosing action).settings.mapsDir (b.choosing action).settings.selection).result =
      .ok atlas := by
  unfold supply?
  split
  · next hl =>
    cases (Atlas.load files (b.choosing action).settings.mapsDir (b.choosing action).settings.selection).result
      <;> simp [hl, Except.toOption]
  · next hl => simp [hl]

/-- Everything that has just been loaded is on view. -/
def stock (b : Browser) (atlas : Atlas) : Browser := { b with atlas, all := atlas.entries }.showing atlas.entries

/-- How an action can turn out. No action changes how much fits on a page. -/
inductive Effect (files : Archive) (b : Browser) (action : Action) : Outcome → Prop
  | quiet (settings : Settings) {warnings : List UnknownEnum} {result : Except Fault Unit}
      (hsize : settings.pageSize = b.pageSize) (hnone : b.supply? files action = none) :
      Effect files b action ⟨{ b with settings }, [], warnings, result⟩
  | stocked (settings : Settings) {atlas : Atlas} (entries : List Entry) {warnings : List UnknownEnum}
      {result : Except Fault Unit} (hsize : settings.pageSize = b.pageSize)
      (hatlas : b.supply? files action = some atlas) :
      Effect files b action
        { Outcome.changed (({ b with settings }.stock atlas).showing entries) with warnings, result }
  | filtered (settings : Settings) (entries : List Entry) (hsize : settings.pageSize = b.pageSize) :
      Effect files b action (.changed ({ b with settings }.showing entries))
  | turned (page : Nat) (hpage : page < b.pageCount) : Effect files b action (.changed { b with page })
  | arranged (hidden : List String) : Effect files b action (.changed { b with hidden })

theorem load_of_fault {fault : Atlas.Fault}
    (h : (Atlas.load files b.settings.mapsDir b.settings.selection).result = .error fault) :
    ∃ warnings, b.load files = ⟨b, [], warnings, .error (.load fault)⟩ := by
  unfold load
  simp only [h]
  exact ⟨_, rfl⟩

theorem load_of_ok {atlas : Atlas} (h : (Atlas.load files b.settings.mapsDir b.settings.selection).result = .ok atlas) :
    ∃ warnings, b.load files = { (b.stock atlas).refilter with warnings } := by
  unfold load
  simp only [h]
  exact ⟨_, rfl⟩

theorem after_of_supply {atlas : Atlas} (h : b.supply? files action = some atlas) :
    (b.act files action).after = ((b.choosing action).stock atlas).refilter.after := by
  obtain ⟨hl, hatlas⟩ := supply?_eq_some.mp h
  obtain ⟨warnings, hload⟩ := load_of_ok hatlas
  rw [act_eq_load hl, hload]

/-- Without a filter, or with one that fails, everything stays on view. -/
theorem refilter_cases (b : Browser) :
    (b.settings.filter = "" ∧ b.refilter = .changed b) ∨
      (∃ entries, b.narrow b.settings.filter = .ok (b.showing entries) ∧
        b.refilter = .changed (b.showing entries)) ∨
      ∃ fault, b.narrow b.settings.filter = .error fault ∧
        b.refilter = { Outcome.changed b with result := .error fault } := by
  unfold refilter
  split
  · next htext => exact .inl ⟨htext, rfl⟩
  · cases hn : b.narrow b.settings.filter with
    | ok filtered =>
      obtain ⟨clauses, entries, -, -, rfl⟩ := narrow_eq_ok hn
      exact .inr (.inl ⟨entries, rfl, rfl⟩)
    | error fault => exact .inr (.inr ⟨fault, rfl, rfl⟩)

theorem result_refilter (b : Browser) : b.refilter.result = (fun _ => ()) <$> b.narrow b.settings.filter := by
  rcases b.refilter_cases with ⟨htext, hr⟩ | ⟨entries, hn, hr⟩ | ⟨fault, hn, hr⟩
  · rw [hr, htext]
    rfl
  · rw [hr, hn]
    rfl
  · rw [hr, hn]
    rfl

theorem shown_refilter {filtered : Browser} (hall : b.shown = b.all) (h : b.narrow b.settings.filter = .ok filtered) :
    b.refilter.after.shown = filtered.shown := by
  rcases b.refilter_cases with ⟨htext, hr⟩ | ⟨entries, hn, hr⟩ | ⟨fault, hn, hr⟩
  · rw [htext] at h
    cases h
    rw [hr]
    exact hall
  · rw [hr, ← Except.ok.inj (hn.symm.trans h)]
    rfl
  · cases hn.symm.trans h

theorem result_applyFilter (b : Browser) (text : String) :
    (b.applyFilter text).result = (fun _ => ()) <$> b.narrow text := by
  unfold applyFilter
  split
  · next htext =>
    rw [htext]
    rfl
  · cases b.narrow text <;> rfl

theorem shown_applyFilter {filtered : Browser} {text : String} (h : b.narrow text = .ok filtered) :
    (b.applyFilter text).after.shown = filtered.shown := by
  unfold applyFilter
  split
  · next htext =>
    rw [htext] at h
    cases h
    rfl
  · rw [h]
    rfl

/-- The text is all that a filter changes in the settings. -/
theorem settings_applyFilter (b : Browser) (text : String) :
    ∃ filter, (b.applyFilter text).after.settings = { b.settings with filter } := by
  unfold applyFilter
  split
  · exact ⟨"", rfl⟩
  · cases hn : b.narrow text with
    | ok filtered =>
      obtain ⟨clauses, entries, -, -, rfl⟩ := narrow_eq_ok hn
      exact ⟨text, rfl⟩
    | error fault => exact ⟨b.settings.filter, rfl⟩

theorem pageSize_choosing (b : Browser) (action : Action) : (b.choosing action).pageSize = b.pageSize := by
  cases action <;> rfl

theorem effect_of_loads (hl : action.loads = true) : Effect files b action (b.act files action) := by
  have hsize := pageSize_choosing b action
  rw [act_eq_load hl]
  cases hload : (Atlas.load files (b.choosing action).settings.mapsDir
      (b.choosing action).settings.selection).result with
  | error fault =>
    have hnone : b.supply? files action = none := by
      rw [supply?, if_pos hl, hload]
      rfl
    obtain ⟨warnings, h⟩ := load_of_fault hload
    rw [h]
    exact .quiet _ hsize hnone
  | ok atlas =>
    have hatlas := supply?_eq_some.mpr ⟨hl, hload⟩
    obtain ⟨warnings, h⟩ := load_of_ok hload
    rw [h]
    rcases refilter_cases ((b.choosing action).stock atlas) with ⟨-, hr⟩ | ⟨entries, -, hr⟩ | ⟨fault, -, hr⟩
    · rw [hr]
      exact .stocked _ atlas.entries hsize hatlas
    · rw [hr]
      exact .stocked _ entries hsize hatlas
    · rw [hr]
      exact .stocked _ atlas.entries hsize hatlas

theorem supply?_of_not_loads (hl : action.loads = false) : b.supply? files action = none := by
  rw [supply?, hl, if_neg Bool.false_ne_true]

theorem effect_applyFilter (text : String) :
    Effect files b (.applyFilter text) (b.applyFilter text) := by
  unfold applyFilter
  split
  · exact .filtered { b.settings with filter := "" } b.all rfl
  · cases hn : b.narrow text with
    | ok filtered =>
      obtain ⟨clauses, entries, -, -, rfl⟩ := narrow_eq_ok hn
      exact .filtered { b.settings with filter := text } entries rfl
    | error fault => exact .quiet b.settings rfl (supply?_of_not_loads rfl)

theorem effect_setPage (index : Int) : Effect files b (.setPage index) (b.setPage index) := by
  unfold setPage
  split
  · next hindex =>
    split
    · exact .quiet b.settings rfl (supply?_of_not_loads rfl)
    · exact .turned _ (by omega)
  · exact .quiet b.settings rfl (supply?_of_not_loads rfl)

theorem effect_toggleColumn (key : String) (visible : Bool) :
    Effect files b (.toggleColumn key visible) (b.act files (.toggleColumn key visible)) := by
  cases visible with
  | true => exact .arranged _
  | false =>
    change Effect files b _ (.changed (b.hide key))
    unfold hide
    split
    · exact .arranged b.hidden
    · exact .arranged _

theorem effect_act (files : Archive) (b : Browser) (action : Action) :
    Effect files b action (b.act files action) := by
  cases action with
  | setSearchOptions structs enums => exact .quiet _ rfl (supply?_of_not_loads rfl)
  | applyFilter text => exact effect_applyFilter text
  | resetFilter => exact .filtered { b.settings with filter := "" } b.all rfl
  | setPage index => exact effect_setPage index
  | toggleColumn key visible => exact effect_toggleColumn key visible
  | _ => exact effect_of_loads rfl

end MemoryAtlas.Browser
