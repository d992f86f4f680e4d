import MemoryAtlas.Proofs.Browser.Contents
import MemoryAtlas.Proofs.Query.Reading

/-!
Filters and pages that are refused. A filter is refused if its text cannot be read, and for no other reason,
because what it searches has been checked when it was loaded; a page is refused if there is no such page.
Either way nothing changes.
-/

namespace MemoryAtlas.Browser

variable {files : Archive} {b : Browser} {text : String} {index : Int} {fault : Fault}

theorem narrow_of_parse_error {bad : Query.BadPattern} (h : Query.parse text = .error bad) :
    b.narrow text = .error (.pattern bad) := by
  rw [narrow, h]
  rfl

/-- A filter that can be read has a result. -/
theorem exists_narrow (hs : b.atlas.Sound) (hl : b.atlas.Legible) (hall : b.all = b.atlas.entries)
    {clauses : List Query.Clause} (h : Query.parse text = .ok clauses) :
    ∃ entries, b.narrow text = .ok (b.showing entries) := by
  obtain ⟨kept, hkept⟩ := Atlas.exists_apply hs hl b.settings.searchOptions (Query.isFinal_of_parse h)
  have happly : Search.apply b.scope clauses b.all = .ok kept := by
    rw [hall]
    exact hkept
  refine ⟨kept, Fallible.bind_eq_ok.mpr ⟨clauses, Fallible.mapError_eq_ok.mpr h, ?_⟩⟩
  exact Fallible.bind_eq_ok.mpr ⟨kept, Fallible.mapError_eq_ok.mpr happly, rfl⟩

theorem narrow_eq_error_iff (hs : b.atlas.Sound) (hl : b.atlas.Legible) (hall : b.all = b.atlas.entries) :
    b.narrow text = .error fault ↔ ∃ bad, Query.parse text = .error bad ∧ fault = .pattern bad := by
  constructor
  · intro h
    cases hparse : Query.parse text with
    | ok clauses =>
      obtain ⟨entries, hok⟩ := exists_narrow hs hl hall hparse
      rw [hok] at h
      cases h
    | error bad =>
      rw [narrow_of_parse_error hparse] at h
      cases h
      exact ⟨bad, rfl, rfl⟩
  · rintro ⟨bad, hparse, rfl⟩
    exact narrow_of_parse_error hparse

theorem applyFilter_of_narrow_error (h : b.narrow text = .error fault) :
    b.applyFilter text = .rejected b fault := by
  unfold applyFilter
  split
  · next htext =>
    rw [htext] at h
    cases h
  · rw [h]

theorem applyFilter_of_error (h : (b.applyFilter text).result = .error fault) :
    b.applyFilter text = .rejected b fault := by
  rw [result_applyFilter] at h
  exact applyFilter_of_narrow_error (Fallible.map_eq_error.mp h)

theorem applyFilter_eq_error_iff (hs : b.atlas.Sound) (hl : b.atlas.Legible) (hall : b.all = b.atlas.entries) :
    (b.applyFilter text).result = .error fault ↔ ∃ bad, Query.parse text = .error bad ∧ fault = .pattern bad := by
  rw [result_applyFilter, Fallible.map_eq_error, narrow_eq_error_iff hs hl hall]

theorem setPage_eq_error_iff :
    (b.setPage index).result = .error fault ↔ ¬ (0 ≤ index ∧ index < b.pageCount) ∧ fault = .page index := by
  unfold setPage
  split
  · next hindex =>
    constructor
    · split <;> intro h <;> cases h
    · rintro ⟨hno, -⟩
      exact absurd hindex hno
  · next hindex =>
    constructor
    · intro h
      cases h
      exact ⟨hindex, rfl⟩
    · rintro ⟨-, rfl⟩
      rfl

theorem setPage_of_error (h : (b.setPage index).result = .error fault) : b.setPage index = .rejected b fault := by
  obtain ⟨hindex, rfl⟩ := setPage_eq_error_iff.mp h
  rw [setPage, if_neg hindex]

/-- Whatever has been done with files that describe things by texts, a filter is refused with what reading its
text is refused with, and a page if there is none of that number; what is refused changes nothing, and nobody
is told. -/
theorem refused_iff (settings : Settings) {steps : List Step}
    (hfiles : ∀ step ∈ steps, step.files.isDescribed = true) (files : Archive) :
    (∀ text fault, (((start settings).follow steps).act files (.applyFilter text)).result = .error fault ↔
      ∃ bad, Query.parse text = .error bad ∧ fault = .pattern bad) ∧
    (∀ index fault, (((start settings).follow steps).act files (.setPage index)).result = .error fault ↔
      ¬ (0 ≤ index ∧ index < ((start settings).follow steps).pageCount) ∧ fault = .page index) ∧
    ∀ action, (∃ text, action = .applyFilter text) ∨ (∃ index, action = .setPage index) →
      ∀ fault, (((start settings).follow steps).act files action).result = .error fault →
        (((start settings).follow steps).act files action).after = (start settings).follow steps ∧
          (((start settings).follow steps).act files action).notices = [] := by
  have hall := all_follow settings steps
  refine ⟨fun text fault => ?_, fun index fault => setPage_eq_error_iff, ?_⟩
  · exact applyFilter_eq_error_iff (sound_follow settings steps) (legible_follow settings hfiles) hall
  · rintro action (⟨text, rfl⟩ | ⟨index, rfl⟩) fault h
    · have hrejected : ((start settings).follow steps).act files (.applyFilter text) =
          .rejected ((start settings).follow steps) fault := applyFilter_of_error h
      rw [hrejected]
      exact ⟨rfl, rfl⟩
    · have hrejected : ((start settings).follow steps).act files (.setPage index) =
          .rejected ((start settings).follow steps) fault := setPage_of_error h
      rw [hrejected]
      exact ⟨rfl, rfl⟩

/-- More repetitions than can be counted. -/
theorem parse_repeated : Query.parse "/a{4294967295}/" = .error ⟨"a{4294967295}", .overflow⟩ := by
  with_unfolding_all rfl

/-- A filter is in use on one page. -/
def filtering : List Step := [⟨shelf, .load true⟩, ⟨shelf, .applyFilter "morph"⟩]

theorem described_filtering : ∀ step ∈ filtering, step.files.isDescribed = true := by
  have hshelf : shelf.isDescribed = true := by decide +kernel
  simp [filtering, hshelf]

theorem refused_iff_filtering :
    (((start Settings.default).follow filtering).act shelf (.applyFilter "/a{4294967295}/")).after =
        (start Settings.default).follow filtering ∧
      ((start Settings.default).follow filtering).settings.filter = "morph" ∧
      (((start Settings.default).follow filtering).act shelf (.setPage 1)).result = .error (.page 1) := by
  obtain ⟨hfilter, hpage, hsame⟩ := refused_iff Settings.default described_filtering shelf
  have hrefused := (hfilter _ _).mpr ⟨_, parse_repeated, rfl⟩
  have hone : ¬ ((0 : Int) ≤ 1 ∧ (1 : Int) < ((start Settings.default).follow filtering).pageCount) := by
    decide +kernel
  exact ⟨(hsame _ (.inl ⟨_, rfl⟩) _ hrefused).1, by decide +kernel, (hpage 1 _).mpr ⟨hone, rfl⟩⟩

/-- An expression that is well formed can be too large to be read, so not every filter is refused because of a
malformed expression. -/
theorem not_forall_refused_malformed :
    ¬ ∀ (settings : Settings) (steps : List Step), (∀ step ∈ steps, step.files.isDescribed = true) →
      ∀ (files : Archive) (text : String) (fault : Fault),
        (((start settings).follow steps).act files (.applyFilter text)).result = .error fault →
          ∃ pattern, fault = .pattern ⟨pattern, .malformed⟩ := by
  intro hall
  have hrefused : ((((start Settings.default).follow filtering).act shelf
      (.applyFilter "/a{4294967295}/"))).result = .error (.pattern ⟨"a{4294967295}", .overflow⟩) :=
    congrArg Outcome.result (applyFilter_of_narrow_error (narrow_of_parse_error parse_repeated))
  obtain ⟨pattern, hfault⟩ := hall Settings.default filtering described_filtering shelf _ _ hrefused
  cases hfault

end MemoryAtlas.Browser
