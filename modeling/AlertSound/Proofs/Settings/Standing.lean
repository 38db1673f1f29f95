import AlertSound.Proofs.Resolution
import AlertSound.Proofs.Settings.Contents

/-!
What a locator stands for beside given settings. A default stands for the sound that its
setting names, unless that is a default too, and every other locator stands for itself.
-/
namespace AlertSound.Contents

open Program

def default? (held : Contents) (kind : DefaultKind) : Option Locator :=
  (held kind.settingKey).bind fun raw => (Locator.parse raw).toOption

def actual? (held : Contents) (r : Locator) : Option Locator :=
  if r.origin = .settingsDefault then
    (r.defaultKind?.bind held.default?).filter fun actual => actual.origin ≠ .settingsDefault
  else some r

theorem default?_of_read {held : Contents} {kind : DefaultKind} {raw : String} {r : Locator}
    (holds : held kind.settingKey = some raw) (read : Locator.parse raw = .ok r) :
    held.default? kind = some r := by
  rw [default?, holds, Option.bind_some, read]
  rfl

theorem defaultLocator?_told (kind : DefaultKind) : (defaultLocator? kind).Ensures fun t found =>
    ∀ ⦃held held'⦄, conduct.Path t held held' → found = held.default? kind := by
  simp only [defaultLocator?, Resource.setting, ensures_bind, ensures_call, ensures_done]
  intro answer
  refine Ensures.mono
    (Q := fun _ found => found = answer.bind fun raw => (Locator.parse raw).toOption) ?_
    fun t found same held held' path => ?_
  · cases answer with
    | none => exact ensures_pure.mpr rfl
    | some raw =>
        simp only
        split
        · rename_i read
          exact ensures_pure.mpr (by rw [Option.bind_some, read]; rfl)
        · rename_i unread
          simp [Resource.log, unread, Except.toOption]
  · obtain ⟨_, ⟨rfl, -⟩, -⟩ := path
    exact same

theorem resolveActual_told (r : Locator) : (resolveActual r).Ensures fun t found =>
    ∀ ⦃held held'⦄, conduct.Path t held held' → found = held.actual? r := by
  unfold actual?
  by_cases default : r.origin = .settingsDefault
  · simp only [resolveActual, default, if_true]
    cases named : r.defaultKind? with
    | none => simp [Resource.log]
    | some kind =>
        refine (defaultLocator?_told kind).bind fun t named told => ?_
        refine Ensures.mono (Q := fun _ found => found =
          named.filter fun actual => actual.origin ≠ .settingsDefault) ?_
          fun u found same held held' path => ?_
        · cases named with
          | none => exact ensures_pure.mpr rfl
          | some actual =>
              simp only
              split
              · rename_i indirect
                simp [Resource.log, Option.filter, indirect]
              · rename_i direct
                exact ensures_pure.mpr (by simp [Option.filter, direct])
        · obtain ⟨_, here, -⟩ := Conduct.path_append.mp path
          rw [same, told here, Option.bind_some]
  · rw [resolveActual_of_ne default]
    exact ensures_pure.mpr fun _ _ _ => by rw [if_neg default]

end AlertSound.Contents
