import AlertSound.Proofs.Locator.Entry
import AlertSound.Proofs.Session.Opening
import AlertSound.Proofs.Settings.Refusal

/-!
Entries of the indexes between locators, texts and settings. An entry is read back from its
text, whatever its id, and a setting that was given the text names the entry as the default of
its kinds, in every store that answers with what it was given.
-/
namespace AlertSound

open Program Host

/-- A setting that was made is the default that is found. -/
theorem Host.Machine.defaultLocator?_put {m m' : Machine} {kind : DefaultKind} {r : Locator}
    {raw : String} (put : m.putSetting kind.settingKey raw = (.ok (), m'))
    (read : Locator.parse raw = .ok r) :
    ((defaultLocator? kind).run Machine.handler m').1 = some r := by
  obtain rfl : m' = (m.putSetting kind.settingKey raw).2 := by rw [put]
  have unlocked : m.lockedKeys.contains kind.settingKey = false := by
    rw [← Bool.not_eq_true]
    intro locked
    simp only [putSetting, if_pos locked] at put
    cases congrArg Prod.fst put
  have set : (m.putSetting kind.settingKey raw).2.settings =
      m.settings.withValue kind.settingKey raw := by
    rw [← SettingsStore.put_store m.settings m.tree]
    simp only [putSetting, unlocked]
    rfl
  rw [SettingsStore.defaultLocator?_run, set, SettingsStore.default?_withValue, if_pos rfl, read]
  rfl

/-- Every entry of the media index and of the protected one, whatever its id, is read back from
its text, with its id and, in the media index, its volume. No two of them are written the same.
Once a setting was given the text of an entry of the media index, this entry is found as the
default of the setting's kinds: in the store of a host, and in every store that holds what was
put in it. -/
theorem entries_survive_texts :
    (∀ e : Locator.Entry, Locator.parse e.locator.text = .ok e.locator ∧
      e.locator.id? = some e.id ∧ e.locator.storage? = e.storage?) ∧
    (∀ e e' : Locator.Entry, e ≠ e' → e.locator.text ≠ e'.locator.text) ∧
    (∀ (m m' : Machine) kind storage id,
      m.putSetting kind.settingKey (Locator.media storage id).text = (.ok (), m') →
        ((defaultLocator? kind).run Machine.handler m').1 = some (.media storage id)) ∧
    ∀ kind storage id (held held' held'' : Contents) t found,
      Contents.conduct ⟨.putSetting kind.settingKey (Locator.media storage id).text, .ok ()⟩
        held held' →
      (defaultLocator? kind).Runs t found → Contents.conduct.Path t held' held'' →
        found = some (.media storage id) := by
  refine ⟨fun e => ⟨e.parse_text, e.id?_locator, e.storage?_locator⟩,
    fun e e' other same => other (Locator.Entry.text_injective same), ?_, ?_⟩
  · intro m m' kind storage id put
    exact Machine.defaultLocator?_put put (Locator.parse_text_media storage id)
  · intro kind storage id held held' held'' t found put runs path
    have holds : held' kind.settingKey = some (Locator.media storage id).text := by
      have same : held' = Function.update held _ _ := put
      rw [same, Function.update_self]
    exact Session.defaultLocator?_of_path runs path holds (Locator.parse_text_media storage id)

def least : Locator.Entry := .media .outside Int64.minValue

def leastText : String := "content://media/external/audio/media/-9223372036854775808"

def alarmed : Contents := Function.update (fun _ => none) "alarm_alert" (some leastText)

theorem entries_survive_texts_least :
    least.locator.text = leastText ∧ Locator.parse leastText = .ok least.locator ∧
      least.locator.id? = some Int64.minValue ∧ least.locator.storage? = some .outside ∧
      (Locator.media .inside 5).text ≠ (Locator.drm 5).text ∧
      ((defaultLocator? (.ringtone 7)).run Machine.handler
        (Locator.oneSound.putSetting "ringtone_3" leastText).2).1 = some least.locator ∧
      ∃ t found, (defaultLocator? .alarm).Runs t found ∧
        Contents.conduct.Path t alarmed alarmed ∧ found = some least.locator := by
  obtain ⟨told, apart, put, holds⟩ := entries_survive_texts
  have text : least.locator.text = leastText := by decide +kernel
  obtain ⟨read, id, storage⟩ := told least
  have path : Contents.conduct.Path [⟨.setting "alarm_alert", some leastText⟩] alarmed alarmed :=
    ⟨alarmed, ⟨rfl, rfl⟩, rfl⟩
  have runs : (defaultLocator? .alarm).Runs [⟨.setting "alarm_alert", some leastText⟩]
    (Locator.parse leastText).toOption := ⟨_, rfl, rfl⟩
  refine ⟨text, text ▸ read, id, storage, ?_, ?_, _, _, runs, path, ?_⟩
  · exact apart (.media .inside 5) (.drm 5) nofun
  · rw [← text]
    exact put Locator.oneSound _ (.ringtone 7) .outside Int64.minValue rfl
  · refine holds .alarm .outside Int64.minValue (fun _ => none) _ _ _ _ ?_ runs path
    exact congrArg (fun raw => Function.update (fun _ => none) "alarm_alert" (some raw)) text.symm

end AlertSound
