import MemoryAtlas.Proofs.Atlas.Descriptions
import MemoryAtlas.Proofs.Browser.Visits

/-!
What a browser has loaded. Entries and definitions come from one load that has succeeded, or there are none;
loads that fail later on make no difference to that.
-/

namespace MemoryAtlas

namespace Atlas

/-- The atlas of a browser that has loaded nothing. -/
def bare : Atlas := ⟨.empty, .empty, []⟩

theorem sound_bare : bare.Sound where
  ascending := List.Pairwise.nil
  defined _ hv := absurd hv List.not_mem_nil
  listed _ hdef := absurd hdef List.not_mem_nil
  labelled _ hdef := absurd hdef List.not_mem_nil

theorem legible_bare : bare.Legible where
  entries _ he := absurd he List.not_mem_nil
  fields _ hdef := absurd hdef List.not_mem_nil
  values _ hdef := absurd hdef List.not_mem_nil

end Atlas

namespace Browser

variable {files : Archive} {b : Browser} {action : Action} {outcome : Outcome}

/-- What every atlas has that can be loaded, the browser keeps. -/
theorem Effect.atlas_of_load {P : Atlas → Prop} (he : Effect files b action outcome) (h : P b.atlas)
    (hload : ∀ atlas root s, (Atlas.load files root s).result = .ok atlas → P atlas) : P outcome.after.atlas := by
  cases he with
  | quiet settings hsize hnone => exact h
  | stocked settings entries hsize hatlas =>
    obtain ⟨-, hl⟩ := supply?_eq_some.mp hatlas
    exact hload _ _ _ hl
  | filtered settings entries hsize => exact h
  | turned page hpage => exact h
  | arranged hidden => exact h

theorem Effect.all_eq (he : Effect files b action outcome) (h : b.all = b.atlas.entries) :
    outcome.after.all = outcome.after.atlas.entries := by
  cases he with
  | quiet settings hsize hnone => exact h
  | stocked settings entries hsize hatlas => rfl
  | filtered settings entries hsize => exact h
  | turned page hpage => exact h
  | arranged hidden => exact h

theorem sound_follow (settings : Settings) (steps : List Step) : ((start settings).follow steps).atlas.Sound :=
  follow_of_act (P := fun b => b.atlas.Sound)
    (fun step _ b h => (effect_act step.files b step.action).atlas_of_load h fun _ _ _ => Atlas.sound_of_load)
    Atlas.sound_bare

theorem legible_follow (settings : Settings) {steps : List Step}
    (hfiles : ∀ step ∈ steps, step.files.isDescribed = true) : ((start settings).follow steps).atlas.Legible :=
  follow_of_act (P := fun b => b.atlas.Legible)
    (fun step hstep b h => (effect_act step.files b step.action).atlas_of_load h fun _ _ _ =>
      Atlas.legible_of_load (hfiles step hstep))
    Atlas.legible_bare

theorem all_follow (settings : Settings) (steps : List Step) :
    ((start settings).follow steps).all = ((start settings).follow steps).atlas.entries :=
  follow_of_act (P := fun b => b.all = b.atlas.entries)
    (fun step _ b h => (effect_act step.files b step.action).all_eq h) rfl

end Browser

end MemoryAtlas
