import MemoryAtlas.Browser.Action
import MemoryAtlas.Proofs.Fallible

/-!
What is on view in a browser with a history. As long as every load succeeds, the entries shown are those
that the stored filter leaves of the map that the settings select, whatever else is done or fails.
-/

namespace MemoryAtlas.Browser

variable {files : Archive} {options : SearchOptions} {b filtered : Browser} {action : Action}

namespace Action

/-- The action reads the files. -/
def loads : Action → Bool
  | .load _ | .setGame _ | .setRegion _ | .setMap _ => true
  | _ => false

/-- The settings that an action reads the files with; only a change of the region, and a load that is asked
to, keeps the filter. -/
def select (settings : Settings) : Action → Settings
  | .load keepFilter => { settings with filter := if keepFilter then settings.filter else "" }
  | .setGame game => { settings with game, filter := "" }
  | .setRegion region => { settings with region }
  | .setMap map => { settings with map, filter := "" }
  | _ => settings

/-- The action applies a filter, or none. -/
def filters : Action → Bool
  | .applyFilter _ | .resetFilter => true
  | action => action.loads

end Action

/-- No load fails in a series of actions. -/
def LoadsSucceed (files : Archive) (b : Browser) : List Action → Prop
  | [] => True
  | action :: actions =>
    (action.loads = true → (b.act files action).result.isOk = true) ∧
      LoadsSucceed files (b.act files action).after actions

/-- The search options of the last filter behind an action, if those before it are known. An action that
fails leaves the filter as it is. -/
def optionsBehind (b : Browser) (files : Archive) (options : SearchOptions) (action : Action) :
    SearchOptions :=
  let outcome := b.act files action
  if action.filters && outcome.result.isOk then outcome.after.settings.searchOptions else options

/-- The search options of the last filter behind a series of actions. -/
def lastOptions (b : Browser) (files : Archive) (options : SearchOptions) : List Action → SearchOptions
  | [] => options
  | action :: actions =>
    (b.act files action).after.lastOptions files (b.optionsBehind files options action) actions

/-- The settings select what is loaded, and what is shown is what their filter leaves of it with these
search options. -/
structure Consistent (files : Archive) (options : SearchOptions) (b : Browser) : Prop where
  loaded : (Atlas.load files b.settings.mapsDir b.settings.selection).result = .ok b.atlas
  all : b.all = b.atlas.entries
  filtered : ∃ clauses, Query.parse b.settings.filter = .ok clauses ∧
    Search.apply ⟨b.atlas.structs, b.atlas.enums, options⟩ clauses b.all = .ok b.shown

theorem narrow_eq_ok {text : String} (h : b.narrow text = .ok filtered) :
    ∃ clauses entries, Query.parse text = .ok clauses ∧ Search.apply b.scope clauses b.all = .ok entries ∧
      filtered = b.showing entries := by
  unfold narrow at h
  obtain ⟨clauses, hparse, h⟩ := Fallible.bind_eq_ok.mp h
  obtain ⟨entries, happly, h⟩ := Fallible.bind_eq_ok.mp h
  cases h
  exact ⟨clauses, entries, Fallible.mapError_eq_ok.mp hparse, Fallible.mapError_eq_ok.mp happly, rfl⟩

/-- No filter leaves all entries, with any search options. -/
theorem filtered_empty (scope : Scope) (entries : List Entry) :
    ∃ clauses, Query.parse "" = .ok clauses ∧ Search.apply scope clauses entries = .ok entries :=
  ⟨[], rfl, rfl⟩

theorem consistent_reset (h : Consistent files options b) :
    Consistent files b.reset.after.settings.searchOptions b.reset.after where
  loaded := h.loaded
  all := h.all
  filtered := filtered_empty _ _

/-- A browser that shows everything filters as its settings say, or fails. -/
theorem consistent_refilter
    (hloaded : (Atlas.load files b.settings.mapsDir b.settings.selection).result = .ok b.atlas)
    (hall : b.all = b.atlas.entries) (hshown : b.shown = b.all) (hok : b.refilter.result.isOk = true) :
    Consistent files b.refilter.after.settings.searchOptions b.refilter.after := by
  unfold refilter at hok ⊢
  by_cases htext : b.settings.filter = ""
  · rw [if_pos htext]
    refine ⟨hloaded, hall, ?_⟩
    change ∃ clauses, Query.parse b.settings.filter = .ok clauses ∧
      Search.apply b.scope clauses b.all = .ok b.shown
    rw [htext, hshown]
    exact filtered_empty _ _
  · rw [if_neg htext] at hok ⊢
    cases hn : b.narrow b.settings.filter with
    | error fault =>
      rw [hn] at hok
      cases hok
    | ok filtered =>
      obtain ⟨clauses, entries, hparse, happly, rfl⟩ := narrow_eq_ok hn
      exact ⟨hloaded, hall, clauses, hparse, happly⟩

theorem consistent_load (h : (b.load files).result.isOk = true) :
    Consistent files (b.load files).after.settings.searchOptions (b.load files).after := by
  unfold load at h ⊢
  cases hl : (Atlas.load files b.settings.mapsDir b.settings.selection).result with
  | error fault =>
    simp only [hl] at h
    cases h
  | ok atlas =>
    simp only [hl] at h ⊢
    exact consistent_refilter hl rfl rfl h

def choosing (b : Browser) (action : Action) : Browser := { b with settings := action.select b.settings }

/-- Actions that read the files differ in the settings they load with. -/
theorem act_eq_load (hl : action.loads = true) (files : Archive) (b : Browser) :
    b.act files action = (b.choosing action).load files := by
  cases action with
  | load keepFilter => cases keepFilter <;> rfl
  | setGame game => rfl
  | setRegion region => rfl
  | setMap map => rfl
  | _ => cases hl

/-- Whatever the browser was before, it is consistent behind a load that succeeds. -/
theorem consistent_of_loads (hl : action.loads = true) (hok : (b.act files action).result.isOk = true) :
    Consistent files (b.act files action).after.settings.searchOptions (b.act files action).after := by
  rw [act_eq_load hl] at hok ⊢
  exact consistent_load hok

theorem consistent_applyFilter (h : Consistent files options b) (text : String) :
    Consistent files (b.optionsBehind files options (.applyFilter text)) (b.applyFilter text).after := by
  change Consistent files (if (b.applyFilter text).result.isOk
    then (b.applyFilter text).after.settings.searchOptions else options) _
  by_cases htext : text = ""
  · rw [applyFilter, if_pos htext]
    exact consistent_reset h
  · rw [applyFilter, if_neg htext]
    cases hn : b.narrow text with
    | error fault => exact h
    | ok filtered =>
      obtain ⟨clauses, entries, hparse, happly, rfl⟩ := narrow_eq_ok hn
      exact ⟨h.loaded, h.all, clauses, hparse, happly⟩

theorem consistent_setPage (h : Consistent files options b) (index : Int) :
    Consistent files options (b.setPage index).after := by
  unfold setPage
  split
  · split
    · exact h
    · exact ⟨h.loaded, h.all, h.filtered⟩
  · exact h

theorem consistent_toggleColumn (h : Consistent files options b) (key : String) (visible : Bool) :
    Consistent files options (if visible then b.unhide key else b.hide key) := by
  cases visible with
  | true => exact ⟨h.loaded, h.all, h.filtered⟩
  | false =>
    by_cases hhidden : b.hidden.contains key = true
    · rw [if_neg Bool.false_ne_true, hide, if_pos hhidden]
      exact h
    · rw [if_neg Bool.false_ne_true, hide, if_neg hhidden]
      exact ⟨h.loaded, h.all, h.filtered⟩

/-- No action makes a consistent browser inconsistent, unless it is a load that fails. -/
theorem consistent_act (h : Consistent files options b)
    (hok : action.loads = true → (b.act files action).result.isOk = true) :
    Consistent files (b.optionsBehind files options action) (b.act files action).after := by
  by_cases hl : action.loads = true
  · have hfilters : action.filters = true := by cases action <;> first | rfl | cases hl
    have hresult := hok hl
    simp only [optionsBehind, hfilters, hresult, Bool.and_self, if_pos]
    exact consistent_of_loads hl hresult
  · cases action with
    | setSearchOptions structs enums => exact ⟨h.loaded, h.all, h.filtered⟩
    | applyFilter text => exact consistent_applyFilter h text
    | resetFilter => exact consistent_reset h
    | setPage index => exact consistent_setPage h index
    | toggleColumn key visible => exact consistent_toggleColumn h key visible
    | _ => exact absurd rfl hl

theorem consistent_run {actions : List Action} (h : Consistent files options b)
    (hok : LoadsSucceed files b actions) :
    Consistent files (b.lastOptions files options actions) (b.run files actions) := by
  induction actions generalizing b options with
  | nil => exact h
  | cons action actions ih =>
    obtain ⟨hfirst, hothers⟩ := hok
    exact ih (consistent_act h hfirst) hothers

/-- Behind a load that succeeds, and any further actions of which no load fails, the settings select what
is loaded, and their filter, which can be read, leaves what is shown. -/
theorem consistent_behind_load {actions : List Action} (hl : action.loads = true)
    (hok : (b.act files action).result.isOk = true)
    (hothers : LoadsSucceed files (b.act files action).after actions) :
    Consistent files
      ((b.act files action).after.lastOptions files (b.act files action).after.settings.searchOptions actions)
      (b.run files (action :: actions)) :=
  consistent_run (consistent_of_loads hl hok) hothers

/-- One variable, with nothing defined. -/
def shelf : Archive :=
  [("maps/json/mf/enums.json", .document (.list [])),
    ("maps/json/mf/structs.json", .document (.list [])),
    ("maps/json/mf/ram.json", .document (.list [.record [
      (.text "desc", .text "Morph ball"), (.text "type", .text "u8"), (.text "addr", .int 16)]]))]

/-- Another region with the filter kept, then options that no filter has been applied with, a page that
does not exist and an expression that cannot be read. -/
def visit : List Action :=
  [.applyFilter "morph", .setRegion "E", .setSearchOptions true false, .setPage 3, .applyFilter "/(/",
    .toggleColumn "notes" true]

theorem consistent_visit :
    Consistent shelf ⟨false, false⟩ ((start Settings.default).run shelf (.load true :: visit)) := by
  have hload : ((start Settings.default).act shelf (.load true)).result.isOk = true := by decide +kernel
  have hothers : LoadsSucceed shelf ((start Settings.default).act shelf (.load true)).after visit := by
    simp only [LoadsSucceed, visit]
    decide +kernel
  have hoptions : ((start Settings.default).act shelf (.load true)).after.lastOptions shelf
      ((start Settings.default).act shelf (.load true)).after.settings.searchOptions visit =
        ⟨false, false⟩ := by
    decide +kernel
  have h := consistent_behind_load rfl hload hothers
  rwa [hoptions] at h

end MemoryAtlas.Browser
