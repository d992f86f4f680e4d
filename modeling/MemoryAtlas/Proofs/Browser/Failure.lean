import MemoryAtlas.Proofs.Browser.History

/-!
Loads that fail. The selection is written before the files are read, and so is the filter where it is
cleared: a load that fails leaves these settings changed. It leaves all else as it was and tells nobody.
-/

namespace MemoryAtlas.Browser

variable {files : Archive} {b : Browser} {action : Action} {fault : Atlas.Fault}

/-- A filter that fails is no failure of a load. -/
theorem narrow_ne_load (b : Browser) (text : String) (fault : Atlas.Fault) :
    b.narrow text ≠ .error (.load fault) := by
  intro h
  rcases Fallible.bind_eq_error.mp h with h | ⟨clauses, -, h⟩
  · obtain ⟨bad, -, h⟩ := Fallible.mapError_eq_error.mp h
    cases h
  · rcases Fallible.bind_eq_error.mp h with h | ⟨entries, -, h⟩
    · obtain ⟨why, -, h⟩ := Fallible.mapError_eq_error.mp h
      cases h
    · cases h

theorem refilter_ne_load (b : Browser) (fault : Atlas.Fault) : b.refilter.result ≠ .error (.load fault) := by
  unfold refilter
  split
  · intro h
    cases h
  · cases hn : b.narrow b.settings.filter with
    | ok filtered =>
      intro h
      cases h
    | error why =>
      intro h
      cases h
      exact narrow_ne_load b _ fault hn

theorem applyFilter_ne_load (b : Browser) (text : String) (fault : Atlas.Fault) :
    (b.applyFilter text).result ≠ .error (.load fault) := by
  unfold applyFilter
  split
  · intro h
    cases h
  · cases hn : b.narrow text with
    | ok filtered =>
      intro h
      cases h
    | error why =>
      intro h
      cases h
      exact narrow_ne_load b text fault hn

theorem setPage_ne_load (b : Browser) (index : Int) (fault : Atlas.Fault) :
    (b.setPage index).result ≠ .error (.load fault) := by
  unfold setPage
  split
  · split <;> intro h <;> cases h
  · intro h
    cases h

/-- Only actions that read the files fail to load. -/
theorem loads_of_load_fault (h : (b.act files action).result = .error (.load fault)) :
    action.loads = true := by
  cases action with
  | applyFilter text => exact absurd h (applyFilter_ne_load b text fault)
  | setPage index => exact absurd h (setPage_ne_load b index fault)
  | setSearchOptions structs enums => cases h
  | resetFilter => cases h
  | toggleColumn key visible => cases h
  | _ => rfl

theorem load_of_load_fault (h : (b.load files).result = .error (.load fault)) :
    (b.load files).after = b ∧ (b.load files).notices = [] := by
  unfold load at h ⊢
  cases hl : (Atlas.load files b.settings.mapsDir b.settings.selection).result with
  | error why =>
    simp only [hl]
    exact ⟨rfl, rfl⟩
  | ok atlas =>
    simp only [hl] at h
    exact absurd h (refilter_ne_load _ fault)

theorem result_load (h : (Atlas.load files b.settings.mapsDir b.settings.selection).result = .error fault) :
    (b.load files).result = .error (.load fault) := by
  unfold load
  simp only [h, Outcome.rejected]

/-- A load that fails leaves the settings that it was asked for, and all else as it was; nobody is told. The
state is the one before only if these settings are those before. -/
theorem act_of_load_fault (h : (b.act files action).result = .error (.load fault)) :
    (b.act files action).after = b.choosing action ∧ (b.act files action).notices = [] ∧
      ((b.act files action).after = b ↔ action.select b.settings = b.settings) := by
  have hl := loads_of_load_fault h
  rw [act_eq_load hl] at h ⊢
  obtain ⟨hafter, hnotices⟩ := load_of_load_fault h
  refine ⟨hafter, hnotices, ?_⟩
  rw [hafter]
  constructor
  · intro he
    exact congrArg settings he
  · intro he
    rw [choosing, he]

/-- A browser on a map that is there, with a filter. -/
def browsing : Browser := (start Settings.default).run shelf [.load true, .applyFilter "morph"]

/-- There is no file with functions. -/
theorem functions_missing : ∃ fault, (browsing.act shelf (.setMap "code")).result = .error (.load fault) := by
  have hfails : (Atlas.load shelf (browsing.choosing (.setMap "code")).settings.mapsDir
      (browsing.choosing (.setMap "code")).settings.selection).result.isOk = false := by
    decide +kernel
  rw [act_eq_load rfl]
  cases h : (Atlas.load shelf (browsing.choosing (.setMap "code")).settings.mapsDir
      (browsing.choosing (.setMap "code")).settings.selection).result with
  | ok atlas =>
    rw [h] at hfails
    cases hfails
  | error fault => exact ⟨fault, result_load h⟩

/-- The variables stay on view, as a table of functions and without the filter that has chosen them. -/
theorem act_of_load_fault_functions :
    (browsing.act shelf (.setMap "code")).after = browsing.choosing (.setMap "code") ∧
      (browsing.act shelf (.setMap "code")).after ≠ browsing := by
  obtain ⟨fault, h⟩ := functions_missing
  obtain ⟨hafter, -, hsame⟩ := act_of_load_fault h
  refine ⟨hafter, fun he => ?_⟩
  have hfilter := congrArg Settings.filter (hsame.mp he)
  revert hfilter
  decide +kernel

/-- A load that fails need not leave the browser as it was, whatever has been done before. -/
theorem not_forall_load_fault_unchanged :
    ¬ ∀ (files : Archive) (settings : Settings) (actions : List Action) (action : Action) (fault : Atlas.Fault),
      (((start settings).run files actions).act files action).result = .error (.load fault) →
        (((start settings).run files actions).act files action).after = (start settings).run files actions := by
  intro hall
  obtain ⟨fault, h⟩ := functions_missing
  have hfilter := congrArg (fun b => b.settings.filter)
    (hall shelf Settings.default [.load true, .applyFilter "morph"] (.setMap "code") fault h)
  revert hfilter
  decide +kernel

end MemoryAtlas.Browser
