import AlertSound.Proofs.Settings.Reload
import AlertSound.Proofs.Settings.Restoring

/-!
What a setting leaves that is refused. The files are as they were, but the store holds the
value all the same: a key is set in memory before the file is written, and it is not taken
back. So a slot whose restoring fails for that reason resolves to the sound that it could
not be pointed to.
-/
namespace AlertSound

open Program Host

namespace SettingsStore

variable {store store' : SettingsStore} {tree tree' : FileTree} {key value : String}

def default? (store : SettingsStore) (kind : DefaultKind) : Option Locator :=
  (store.get? kind.settingKey).bind fun raw => (Locator.parse raw).toOption

theorem default?_withValue (store : SettingsStore) (key value : String) (kind : DefaultKind) :
    (store.withValue key value).default? kind =
      if kind.settingKey = key then (Locator.parse value).toOption else store.default? kind := by
  rw [default?, get?_withValue]
  split <;> rfl

/-- A machine answers for its store. -/
theorem defaultLocator?_run (kind : DefaultKind) (m : Machine) :
    ((defaultLocator? kind).run Machine.handler m).1 = m.settings.default? kind := by
  simp only [defaultLocator?, run_bind, Machine.run_setting, default?]
  cases m.settings.get? kind.settingKey with
  | none => rfl
  | some raw =>
      simp only [Option.bind_some]
      cases Locator.parse raw with
      | ok r => rfl
      | error e => rfl

theorem put_tree_of_error {e : SettingsError} (h : (store.put tree key value).1 = .error e) :
    (store.put tree key value).2.2 = tree := by
  simp only [put] at h ⊢
  split
  · rename_i persisted
    simp [persisted] at h
  · rfl

/-- Setting a value is without effect if and only if the value was there. -/
theorem withValue_same_iff (store : SettingsStore) (key value : String) :
    ((∀ key', (store.withValue key value).get? key' = store.get? key') ∧
      ∀ kind, (store.withValue key value).default? kind = store.default? kind) ↔
      store.get? key = some value := by
  constructor
  · intro same
    rw [← same.1 key, get?_withValue, if_pos rfl]
  · intro there
    have same (key' : String) : (store.withValue key value).get? key' = store.get? key' := by
      rw [get?_withValue]
      split
      · rename_i here
        rw [here, there]
      · rfl
    exact ⟨same, fun kind => by simp only [default?, same]⟩

end SettingsStore

/-- A machine leaves the store alone if the key is locked; else the refused value counts. -/
theorem Host.Machine.putSetting_refused {m : Machine} {key value : String} {e : SettingsError}
    (refused : (m.putSetting key value).1 = .error e) :
    (m.putSetting key value).2.tree = m.tree ∧ (m.putSetting key value).2.settings =
      if m.lockedKeys.contains key then m.settings else m.settings.withValue key value := by
  by_cases locked : m.lockedKeys.contains key = true
  · simp only [putSetting, if_pos locked]
    exact ⟨rfl, rfl⟩
  · simp only [putSetting, if_neg locked] at refused ⊢
    exact ⟨SettingsStore.put_tree_of_error refused, SettingsStore.put_store ..⟩

namespace Restore

/-- The setting could not be written, and not for being locked. -/
def Refused (kind : DefaultKind) (m : Machine) (result : Except Error Bool) : Prop :=
  kind.settingKey ∉ m.lockedKeys ∧ ∃ e, result = .error (.settings e)

def Unwritten (config : RestoreConfig) (kind : DefaultKind) (m m' : Machine) : Prop :=
  ∃ name id, config.fileNames.get? kind = some name ∧ Found m name id ∧
    m'.settings = m.settings.withValue kind.settingKey (Locator.media .inside id).text

/-- What is left by a restoring that restored nothing. -/
theorem Restored.unrestored {config : RestoreConfig} {kind : DefaultKind} {m m' : Machine}
    {result : Except Error Bool} (h : Restored config kind m result m')
    (unrestored : result ≠ .ok true) :
    m'.tree = m.tree ∧ (Refused kind m result → Unwritten config kind m m') ∧
      (¬Refused kind m result → m'.settings = m.settings) := by
  cases h with
  | spared same idle =>
      refine ⟨same.tree, fun refused => ?_, fun _ => same.settings⟩
      obtain ⟨-, e, rfl⟩ := refused
      cases idle
  | repointed => exact absurd rfl unrestored
  | refused _ shipped found put same =>
      obtain ⟨tree, settings⟩ := Machine.putSetting_refused put
      refine ⟨same.tree.trans tree, fun refused => ?_, fun spared => ?_⟩
      · refine ⟨_, _, shipped, found, same.settings.trans ?_⟩
        rw [settings, if_neg (by simpa using refused.1)]
      · have locked : m.lockedKeys.contains kind.settingKey = true :=
          Decidable.byContradiction fun unlocked => spared ⟨by simpa using unlocked, _, rfl⟩
        rw [same.settings, settings, if_pos locked]

end Restore

/-- A setting that fails is not written, but it counts. The files are as they were, and so is
every key but the one that was set, which from then on has the new value and names its sound
as the default of its kinds; so nothing has changed if and only if the key had that value
before. The same holds of restoring: a slot that is not restored leaves the files as they
were, and the settings too unless it was the writing that failed, for a key that is not
locked. Then the slot resolves to the shipped sound that it is reported not to be restored to. -/
theorem failed_setting_counts (store : SettingsStore) (tree : FileTree) (key value : String)
    (config : RestoreConfig) (kind : DefaultKind) (m : Machine) :
    (∀ e store' tree', store.put tree key value = (.error e, store', tree') → tree' = tree ∧
      (∀ key', store'.get? key' = if key' = key then some value else store.get? key') ∧
      (∀ kind, store'.default? kind = if kind.settingKey = key then
        (Locator.parse value).toOption else store.default? kind) ∧
      (((∀ key', store'.get? key' = store.get? key') ∧
        ∀ kind, store'.default? kind = store.default? kind) ↔ store.get? key = some value)) ∧
    ∀ result m', (Restore.one config kind).run Machine.handler m = (result, m') →
      result ≠ .ok true → m'.tree = m.tree ∧
        (Restore.Refused kind m result → Restore.Unwritten config kind m m') ∧
        (¬Restore.Refused kind m result → m'.settings = m.settings) := by
  constructor
  · intro e store' tree' put
    have failed : (store.put tree key value).1 = .error e := by rw [put]
    have same := SettingsStore.put_tree_of_error failed
    have set := store.put_store tree key value
    rw [put] at same set
    subst same set
    exact ⟨rfl, store.get?_withValue key value, store.default?_withValue key value,
      store.withValue_same_iff key value⟩
  · intro result m' run unrestored
    have restored := Restore.one_restored config kind m
    rw [Leads, run] at restored
    exact restored.unrestored unrestored

def goneFile : File.Path := File.ofText "/gone/settings.json"

/-- The directory of the settings is gone, and so is the sound of the first slot. -/
def gone : Machine where
  tree := .empty
  settings := ⟨⟨[("ringtone", "content://media/external/audio/media/99")]⟩, some goneFile⟩
  lockedKeys := []
  index := .script { IndexScript.empty with found := [("Ring1.ogg", [[some "12"]])] }
  volume := .uniform 7
  assets := .absent
  cursors := #[]
  journal := []

def firstSlot : RestoreConfig := ⟨true, ⟨1⟩, [(.ringtone 0, "Ring1.ogg")]⟩

theorem failed_setting_counts_gone :
    (∀ key, (gone.settings.put gone.tree "alarm_alert" "ringing").2.1.get? key =
      if key = "alarm_alert" then some "ringing" else gone.settings.get? key) ∧
    Restore.Unwritten firstSlot (.ringtone 0) gone
      ((Restore.one firstSlot (.ringtone 0)).run Machine.handler gone).2 := by
  obtain ⟨puts, restores⟩ := failed_setting_counts gone.settings gone.tree "alarm_alert" "ringing"
    firstSlot (.ringtone 0) gone
  constructor
  · exact (puts (.io .notFound) _ _ rfl).2.1
  · exact (restores (.error (.settings (.io .notFound))) _ rfl nofun).2.1 ⟨nofun, _, rfl⟩

/-- A setting that fails may well change what a kind resolves to, and so may a restoring. -/
theorem failed_setting_resolves :
    (¬∀ store tree key value e store' tree',
      SettingsStore.put store tree key value = (.error e, store', tree') →
        (∀ key', store'.get? key' = store.get? key') ∧
        ∀ kind, store'.default? kind = store.default? kind) ∧
    ¬∀ config kind m result m', (Restore.one config kind).run Machine.handler m = (result, m') →
      result ≠ .ok true → m'.settings.default? kind = m.settings.default? kind := by
  constructor
  · intro unchanged
    obtain ⟨same, -⟩ := unchanged gone.settings gone.tree "alarm_alert" "ringing" (.io .notFound)
      _ _ rfl
    exact absurd (same "alarm_alert") (by decide +kernel)
  · intro unchanged
    have same := unchanged firstSlot (.ringtone 0) gone (.error (.settings (.io .notFound))) _
      rfl nofun
    exact absurd same (by decide +kernel)

end AlertSound
