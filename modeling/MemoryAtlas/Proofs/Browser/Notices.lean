import MemoryAtlas.Proofs.Browser.Visits

/-!
What a listener is told. It is told once of every change, when the change is complete, so that what it was
told last is always what there is to see.
-/

namespace MemoryAtlas.Browser

variable {files : Archive} {b : Browser} {action : Action} {outcome : Outcome}

/-- Nobody is told and nothing is different to see, or the listener is told of the state behind the action. -/
theorem Effect.quiet_or_told (he : Effect files b action outcome) :
    (outcome.notices = [] ∧ outcome.after.view = b.view ∧ b.supply? files action = none) ∨
      outcome.notices = [outcome.after] := by
  cases he with
  | quiet settings hsize hnone => exact .inl ⟨rfl, rfl, hnone⟩
  | stocked settings entries hsize hatlas => exact .inr rfl
  | filtered settings entries hsize => exact .inr rfl
  | turned page hpage => exact .inr rfl
  | arranged hidden => exact .inr rfl

/-- Other than by what it has loaded, an action that fails makes no difference. -/
theorem Effect.notices_of_error {fault : Fault} (he : Effect files b action outcome)
    (hfault : outcome.result = .error fault) (hnone : b.supply? files action = none) : outcome.notices = [] := by
  cases he with
  | quiet settings hsize hnone => rfl
  | stocked settings entries hsize hatlas =>
    rw [hnone] at hatlas
    cases hatlas
  | filtered settings entries hsize => cases hfault
  | turned page hpage => cases hfault
  | arranged hidden => cases hfault

theorem notices_setPage_page (b : Browser) : (b.setPage b.page).notices = [] := by
  unfold setPage
  split
  · rw [if_pos rfl]
    rfl
  · rfl

/-- The listener is told once at most, and only of what the action leaves; it is told if there is anything
else to see, or anything has been loaded, and not of failures or of what stays as it was. -/
structure Tells (files : Archive) (b : Browser) (action : Action) (outcome : Outcome) : Prop where
  once : outcome.notices.length ≤ 1
  complete : ∀ notice ∈ outcome.notices, notice = outcome.after
  changed : outcome.after.view ≠ b.view → outcome.notices = [outcome.after]
  supplied : b.supply? files action ≠ none → outcome.notices = [outcome.after]
  failed : ∀ fault, outcome.result = .error fault → b.supply? files action = none → outcome.notices = []
  samePage : action = .setPage b.page → outcome.notices = []
  options : ∀ structs enums, action = .setSearchOptions structs enums → outcome.notices = []

theorem tells_act (files : Archive) (b : Browser) (action : Action) :
    Tells files b action (b.act files action) where
  once := by
    rcases (effect_act files b action).quiet_or_told with ⟨hn, -, -⟩ | hn <;> simp [hn]
  complete := by
    rcases (effect_act files b action).quiet_or_told with ⟨hn, -, -⟩ | hn <;> simp [hn]
  changed hview := by
    rcases (effect_act files b action).quiet_or_told with ⟨-, hsame, -⟩ | hn
    · exact absurd hsame hview
    · exact hn
  supplied hsome := by
    rcases (effect_act files b action).quiet_or_told with ⟨-, -, hnone⟩ | hn
    · exact absurd hnone hsome
    · exact hn
  failed fault hfault hnone := (effect_act files b action).notices_of_error hfault hnone
  samePage haction := by
    rw [haction]
    exact notices_setPage_page b
  options structs enums haction := by
    rw [haction]
    rfl

/-- The states that a listener is told of in the course of these steps. -/
def told (b : Browser) (steps : List Step) : List Browser :=
  b.along (fun c step => (c.act step.files step.action).notices) steps

/-- A listener that shows what it was told last shows what there is to see. -/
theorem view_getLast?_told (b : Browser) (steps : List Step) :
    ((b.told steps).getLast?.getD b).view = (b.follow steps).view := by
  induction steps generalizing b with
  | nil => rfl
  | cons step steps ih =>
    have hrest := ih (b.act step.files step.action).after
    change (((b.act step.files step.action).notices ++
      (b.act step.files step.action).after.told steps).getLast?.getD b).view = _
    rw [List.getLast?_append]
    cases hlast : ((b.act step.files step.action).after.told steps).getLast? with
    | some last =>
      rw [hlast] at hrest
      exact hrest
    | none =>
      rw [hlast] at hrest
      rcases (effect_act step.files b step.action).quiet_or_told with ⟨hn, hview, -⟩ | hn
      · rw [hn]
        exact hview.symm.trans hrest
      · rw [hn]
        exact hrest

end MemoryAtlas.Browser
