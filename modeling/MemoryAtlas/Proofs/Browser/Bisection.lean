import MemoryAtlas.Proofs.Browser.Contents
import MemoryAtlas.Proofs.Query.Reading
import MemoryAtlas.Proofs.Search.Neighbours

/-!
The values that windows are bisected by. Bisection asks for ascending values, and whatever a browser comes to
bisect is ascending: entries are put in order when they are loaded, and clauses only leave some of them out. What an
action filters, and so bisects, is also what its outcome comes from (`filters_act`), and if it filters nothing, nothing
new is on view (`shown_of_filtering?_eq_none`).
-/

namespace MemoryAtlas

namespace Search

variable {scope : Scope} {clause : Query.Clause} {clauses : List Query.Clause} {entries : List Entry}
  {values : List Int}

/-- What is bisected for one clause. -/
def bisects (clause : Query.Clause) (entries : List Entry) : List (List Int) :=
  match clause.test with
  | .address .near _ _ => [(valued entries).map Prod.snd]
  | _ => []

/-- What is bisected for the clauses one after the other, up to the first one that fails. -/
def bisected (scope : Scope) : List Query.Clause → List Entry → List (List Int)
  | [], _ => []
  | clause :: clauses, entries =>
    bisects clause entries ++
      match keep scope clause entries with
      | .ok kept => bisected scope clauses kept
      | .error _ => []

theorem mem_bisects_iff : values ∈ bisects clause entries ↔
    (∃ numeral target, clause.test = .address .near numeral target) ∧ values = (valued entries).map Prod.snd := by
  unfold bisects
  split
  · next numeral target htest => simp [htest]
  · next htest =>
    constructor
    · intro h
      cases h
    · rintro ⟨⟨numeral, target, hnear⟩, -⟩
      exact absurd hnear (htest numeral target)

/-- A list is bisected for each clause near an address that is come to, and it is what the clauses in front
of that one have kept. -/
theorem mem_bisected_iff : values ∈ bisected scope clauses entries ↔
    ∃ before clause after given, clauses = before ++ clause :: after ∧
      (∃ numeral target, clause.test = .address .near numeral target) ∧
      apply scope before entries = .ok given ∧ values = (valued given).map Prod.snd := by
  induction clauses generalizing entries with
  | nil => simp [bisected]
  | cons first clauses ih =>
    rw [bisected, List.mem_append, mem_bisects_iff]
    constructor
    · rintro (⟨hnear, hvalues⟩ | hlater)
      · exact ⟨[], first, clauses, entries, rfl, hnear, rfl, hvalues⟩
      · cases hk : keep scope first entries with
        | error fault =>
          rw [hk] at hlater
          cases hlater
        | ok kept =>
          rw [hk] at hlater
          obtain ⟨before, clause, after, given, rfl, hnear, happly, hvalues⟩ := ih.mp hlater
          refine ⟨first :: before, clause, after, given, rfl, hnear, ?_, hvalues⟩
          rw [apply_cons, hk]
          exact happly
    · rintro ⟨before, clause, after, given, hclauses, hnear, happly, hvalues⟩
      cases before with
      | nil =>
        cases hclauses
        cases happly
        exact .inl ⟨hnear, hvalues⟩
      | cons _ before =>
        cases hclauses
        obtain ⟨kept, hk, happly⟩ := keep_of_apply_cons happly
        rw [hk]
        exact .inr (ih.mpr ⟨before, clause, after, given, rfl, hnear, happly, hvalues⟩)

/-- Whatever clauses have kept of ascending entries is ascending. -/
theorem pairwise_of_mem_bisected (hfinal : ∀ c ∈ clauses, c.IsFinal) (hasc : Ascending entries)
    (h : values ∈ bisected scope clauses entries) : values.Pairwise (· ≤ ·) := by
  obtain ⟨before, clause, after, given, rfl, -, happly, rfl⟩ := mem_bisected_iff.mp h
  rw [valued_map_snd]
  have hbefore : ∀ c ∈ before, c.IsFinal := fun c hc => hfinal c (List.mem_append_left _ hc)
  exact hasc.sublist (apply_sublist hbefore hasc happly)

end Search

namespace Browser

variable {files : Archive} {b c : Browser} {action : Action} {text : String}

/-- What an action filters, with the text that it filters by: all that is loaded by a text that is given, and
what has just been loaded by the text that is stored. -/
def filtering? (files : Archive) (b : Browser) (action : Action) : Option (Browser × String) :=
  match b.supply? files action with
  | some atlas => some ((b.choosing action).stock atlas, (action.select b.settings).filter)
  | none =>
    match action with
    | .applyFilter text => some (b, text)
    | _ => none

theorem filtering?_of_supply {atlas : Atlas} (h : b.supply? files action = some atlas) :
    b.filtering? files action = some ((b.choosing action).stock atlas, (action.select b.settings).filter) := by
  unfold filtering?
  rw [h]

theorem filtering?_eq_some (h : b.filtering? files action = some (c, text)) :
    (∃ atlas, b.supply? files action = some atlas ∧ c = (b.choosing action).stock atlas ∧
      text = (action.select b.settings).filter) ∨ c = b ∧ action = .applyFilter text := by
  unfold filtering? at h
  split at h
  · next atlas hatlas =>
    cases h
    exact .inl ⟨atlas, hatlas, rfl, rfl⟩
  · split at h
    · cases h
      exact .inr ⟨rfl, rfl⟩
    · cases h

/-- The action has turned out as filtering the browser by the text does, and what that leaves is on view. -/
structure Outcome.Filters (outcome : Outcome) (c : Browser) (text : String) : Prop where
  result : outcome.result = (fun _ => ()) <$> c.narrow text
  shown : ∀ filtered, c.narrow text = .ok filtered → outcome.after.shown = filtered.shown

theorem filters_act (h : b.filtering? files action = some (c, text)) : (b.act files action).Filters c text := by
  rcases filtering?_eq_some h with ⟨atlas, hatlas, rfl, rfl⟩ | ⟨rfl, rfl⟩
  · obtain ⟨hl, hatlas⟩ := supply?_eq_some.mp hatlas
    obtain ⟨warnings, hload⟩ := load_of_ok hatlas
    rw [act_eq_load hl, hload]
    exact ⟨result_refilter _, fun _ hn => shown_refilter rfl hn⟩
  · exact ⟨result_applyFilter c text, fun _ hn => shown_applyFilter hn⟩

theorem shown_of_supply?_eq_none (hl : action.loads = true) (h : b.supply? files action = none) :
    (b.act files action).after.shown = b.shown := by
  cases hload : (Atlas.load files (b.choosing action).settings.mapsDir
      (b.choosing action).settings.selection).result with
  | ok atlas => cases (supply?_eq_some.mpr ⟨hl, hload⟩).symm.trans h
  | error fault =>
    obtain ⟨warnings, houtcome⟩ := load_of_fault hload
    rw [act_eq_load hl, houtcome]
    rfl

theorem shown_setPage (b : Browser) (index : Int) : (b.setPage index).after.shown = b.shown := by
  unfold setPage
  split
  · split <;> rfl
  · rfl

theorem shown_hide (b : Browser) (key : String) : (b.hide key).shown = b.shown := by
  unfold hide
  split <;> rfl

/-- An action that filters nothing leaves on view what was, unless it takes the filter off. -/
theorem shown_of_filtering?_eq_none (h : b.filtering? files action = none) :
    (b.act files action).after.shown = if action = .resetFilter then b.all else b.shown := by
  have hsupply : b.supply? files action = none := by
    cases hs : b.supply? files action with
    | none => rfl
    | some atlas => cases (filtering?_of_supply hs).symm.trans h
  cases action with
  | setSearchOptions structs enums => rfl
  | applyFilter text => cases h
  | resetFilter => rfl
  | setPage index => exact shown_setPage b index
  | toggleColumn key visible =>
    cases visible with
    | true => rfl
    | false => exact shown_hide b key
  | _ => exact shown_of_supply?_eq_none rfl hsupply

/-! What is filtered is in order -/

/-- What is bisected in the course of one step. -/
def bisected (b : Browser) (step : Step) : List (List Int) :=
  match b.filtering? step.files step.action with
  | some (c, text) =>
    match Query.parse text with
    | .ok clauses => Search.bisected c.scope clauses c.all
    | .error _ => []
  | none => []

theorem mem_bisected {step : Step} {values : List Int} (h : values ∈ b.bisected step) :
    ∃ c text clauses, b.filtering? step.files step.action = some (c, text) ∧ Query.parse text = .ok clauses ∧
      values ∈ Search.bisected c.scope clauses c.all := by
  unfold bisected at h
  split at h
  · next c text hfiltering =>
    split at h
    · next clauses hparse => exact ⟨c, text, clauses, hfiltering, hparse, h⟩
    · cases h
  · cases h

theorem ascending_of_filtering (hs : b.atlas.Sound) (hall : b.all = b.atlas.entries)
    (h : b.filtering? files action = some (c, text)) : Search.Ascending c.all := by
  rcases filtering?_eq_some h with ⟨atlas, hatlas, rfl, rfl⟩ | ⟨rfl, rfl⟩
  · obtain ⟨-, hload⟩ := supply?_eq_some.mp hatlas
    exact (Atlas.sound_of_load hload).ascending
  · rw [hall]
    exact hs.ascending

/-- Whatever is done with whatever files, bisection is given ascending values. It is the filter that these belong to by
which an action that filters turns out; no other action brings anything new on view. -/
theorem ascending_of_mem_bisected (settings : Settings) (steps : List Step) :
    (∀ values ∈ (start settings).along bisected steps, values.Pairwise (· ≤ ·)) ∧
      (∀ (b c : Browser) (step : Step) (text : String), b.filtering? step.files step.action = some (c, text) →
        (b.act step.files step.action).Filters c text) ∧
      ∀ (b : Browser) (step : Step), b.filtering? step.files step.action = none →
        (b.act step.files step.action).after.shown = if step.action = .resetFilter then b.all else b.shown := by
  refine ⟨?_, fun b c step text => filters_act, fun b step => shown_of_filtering?_eq_none⟩
  refine forall_mem_along (P := fun b => b.atlas.Sound ∧ b.all = b.atlas.entries) ?_ ?_ ⟨Atlas.sound_bare, rfl⟩
  · rintro step b ⟨hs, hall⟩
    have he := effect_act step.files b step.action
    exact ⟨he.atlas_of_load hs fun _ _ _ => Atlas.sound_of_load, he.all_eq hall⟩
  · rintro step b ⟨hs, hall⟩ values hvalues
    obtain ⟨c, text, clauses, hfiltering, hparse, hmem⟩ := mem_bisected hvalues
    have hasc := ascending_of_filtering hs hall hfiltering
    exact Search.pairwise_of_mem_bisected (Query.isFinal_of_parse hparse) hasc hmem

/-- A byte with an address in the western region and one in the eastern. -/
def byteRecord (west east : Int) : Document :=
  .record [(.text "type", .text "u8"), (.text "addr", .record [(.text "U", .int west), (.text "E", .int east)])]

/-- Four bytes, out of order in either region. -/
def scattered : Archive :=
  [("maps/json/mf/enums.json", .document (.list [])),
    ("maps/json/mf/structs.json", .document (.list [])),
    ("maps/json/mf/ram.json", .document (.list [
      byteRecord 64 20, byteRecord 16 48, byteRecord 48 32, byteRecord 32 16]))]

def bytes (addrs : List Int) : Atlas := ⟨.empty, .empty, addrs.map (Search.byteAt "")⟩

theorem load_scattered :
    (Atlas.load scattered "maps/json" ⟨"mf", "ram", "U"⟩).result = .ok (bytes [16, 32, 48, 64]) ∧
      (Atlas.load scattered "maps/json" ⟨"mf", "ram", "E"⟩).result = .ok (bytes [16, 20, 32, 48]) := by
  have hwest : Atlas.read scattered "maps/json" ⟨"mf", "ram", "U"⟩ =
      .ok ⟨.empty, .empty, ([64, 16, 48, 32].map (Search.byteAt "")).mergeSort Atlas.ascending⟩ := rfl
  have heast : Atlas.read scattered "maps/json" ⟨"mf", "ram", "E"⟩ =
      .ok ⟨.empty, .empty, ([20, 48, 32, 16].map (Search.byteAt "")).mergeSort Atlas.ascending⟩ := rfl
  have hwestSorted : ([64, 16, 48, 32].map (Search.byteAt "")).mergeSort Atlas.ascending =
      [16, 32, 48, 64].map (Search.byteAt "") :=
    Atlas.mergeSort_eq_of_perm (by decide +kernel) (by decide +kernel)
  have heastSorted : ([20, 48, 32, 16].map (Search.byteAt "")).mergeSort Atlas.ascending =
      [16, 20, 32, 48].map (Search.byteAt "") :=
    Atlas.mergeSort_eq_of_perm (by decide +kernel) (by decide +kernel)
  rw [hwestSorted] at hwest
  rw [heastSorted] at heast
  exact ⟨Atlas.load_of_read hwest (by decide +kernel), Atlas.load_of_read heast (by decide +kernel)⟩

/-- Two windows one after the other, and both of them again when the other region is loaded. -/
def searching : List Step :=
  [⟨scattered, .load true⟩, ⟨scattered, .applyFilter "~30 ~20"⟩, ⟨scattered, .setRegion "E"⟩]

/-- The browser in front of the two windows. -/
def loaded : Browser := (start Settings.default).stock (bytes [16, 32, 48, 64])

theorem ascending_of_mem_bisected_searching :
    (start Settings.default).along bisected searching =
        [[16, 32, 48, 64], [32, 48, 64], [16, 20, 32, 48], [32, 48]] ∧
      (∀ values ∈ [[16, 32, 48, 64], [32, 48, 64], [16, 20, 32, 48], [(32 : Int), 48]], values.Pairwise (· ≤ ·)) ∧
      loaded.filtering? scattered (.applyFilter "~30 ~20") = some (loaded, "~30 ~20") ∧
      (loaded.act scattered (.applyFilter "~30 ~20")).Filters loaded "~30 ~20" ∧
      (loaded.act scattered (.applyFilter "~30 ~20")).after.shown.map Entry.sortValue = [some 32, some 48] ∧
      loaded.filtering? scattered (.setPage 1) = none ∧
      (loaded.act scattered (.setPage 1)).after.shown = loaded.shown := by
  have hfirst : (start Settings.default).supply? scattered (.load true) = some (bytes [16, 32, 48, 64]) :=
    supply?_eq_some.mpr ⟨rfl, load_scattered.1⟩
  have hloaded : ((start Settings.default).act scattered (.load true)).after = loaded := by
    rw [after_of_supply hfirst]
    rfl
  have hlast : (loaded.act scattered (.applyFilter "~30 ~20")).after.supply? scattered (.setRegion "E") =
      some (bytes [16, 20, 32, 48]) := by
    obtain ⟨filter, hsettings⟩ := settings_applyFilter loaded "~30 ~20"
    refine supply?_eq_some.mpr ⟨rfl, ?_⟩
    simp only [act, choosing, Action.select, Settings.selection, hsettings]
    exact load_scattered.2
  have hbisected : (start Settings.default).along bisected searching =
      [[16, 32, 48, 64], [32, 48, 64], [16, 20, 32, 48], [32, 48]] := by
    simp only [along, searching, hloaded, bisected, filtering?_of_supply hfirst, filtering?_of_supply hlast]
    decide +kernel
  obtain ⟨hascending, hfilters, hothers⟩ := ascending_of_mem_bisected Settings.default searching
  rw [hbisected] at hascending
  have hfiltering : loaded.filtering? scattered (.applyFilter "~30 ~20") = some (loaded, "~30 ~20") := rfl
  have hturning : loaded.filtering? scattered (.setPage 1) = none := rfl
  exact ⟨hbisected, hascending, hfiltering, hfilters loaded loaded ⟨scattered, _⟩ _ hfiltering, by decide +kernel,
    hturning, hothers loaded ⟨scattered, _⟩ hturning⟩

end Browser

end MemoryAtlas
