import AlertSound.Proofs.Index.Directory
import AlertSound.Proofs.Locator.Entry
import AlertSound.Proofs.Settings.Reload
import AlertSound.Proofs.Settings.Restoring

/-!
What restoring does to a settings file, over all the slots. The store and the file differ
from what was loaded in slots only that are to be restored, each of which names a sound of
the directory under the shipped name. Besides the content of that file no file changes, so
that the sounds of the directory keep their ids from one slot to the next.
-/
namespace AlertSound

theorem RestoreSlots.mem_kinds {slots : RestoreSlots} {kind : DefaultKind}
    (h : kind ∈ slots.kinds) : ∃ slot, kind = .ringtone slot ∧ slot < slots.count := by
  obtain ⟨n, range, made⟩ := List.mem_filterMap.mp h
  unfold DefaultKind.ringtone? at made
  split at made
  · cases made
    have small := slots.count.toNat_lt
    have first := List.mem_range.mp range
    refine ⟨_, rfl, UInt8.lt_iff_toNat_lt.mpr ?_⟩
    rw [UInt8.toNat_ofNat_of_lt' (Nat.lt_trans first small)]
    exact first
  · cases made

namespace Restore

open Program Host SettingsStore

variable {config : RestoreConfig} {tree : FileTree} {directory : File.Path}
  {before after : SettingsStore}

def Shipped (config : RestoreConfig) (tree : FileTree) (directory : File.Path)
    (key value : String) : Prop :=
  ∃ slot name entries, slot < config.slots.count ∧ key = (DefaultKind.ringtone slot).settingKey ∧
    config.fileNames.get? (.ringtone slot) = some name ∧
    SoundDirectories.scan tree directory = .ok entries ∧
    ∃ e ∈ entries, e.displayName = name ∧
      value = "content://media/internal/audio/media/" ++ toString e.id

/-- Nothing but slots that were set is changed, and these are restored. -/
def Amends (config : RestoreConfig) (tree : FileTree) (directory : File.Path)
    (before after : SettingsStore) : Prop :=
  ∀ key, after.get? key = before.get? key ∨ ∃ old new, before.get? key = some old ∧
    after.get? key = some new ∧ Shipped config tree directory key new

theorem Amends.withValue (h : Amends config tree directory before after) {key current value : String}
    (set : after.get? key = some current) (shipped : Shipped config tree directory key value) :
    Amends config tree directory before (after.withValue key value) := by
  intro key'
  rw [get?_withValue]
  split
  · rename_i same
    subst same
    refine .inr ?_
    cases h key' with
    | inl kept => exact ⟨current, value, kept.symm.trans set, rfl, shipped⟩
    | inr changed =>
        obtain ⟨old, new, was, -, -⟩ := changed
        exact ⟨old, value, was, rfl, shipped⟩
  · exact h key'

/-- The files are as they were, or the file of the store alone is written and holds an
amended store. -/
inductive Written (config : RestoreConfig) (tree : FileTree) (directory : File.Path)
    (before : SettingsStore) : FileTree → Prop where
  | kept : Written config tree directory before tree
  | rewritten {file location old content saved} : before.file = some file →
      tree.locate file = .ok location → tree.node? location = some (.file old) →
      load (tree.set location (.file content)) file = .ok saved →
      Amends config tree directory before saved →
      Written config tree directory before (tree.set location (.file content))

theorem Written.scan {tree' : FileTree} (h : Written config tree directory before tree')
    (distinct : tree.Distinct) :
    SoundDirectories.scan tree' directory = SoundDirectories.scan tree directory := by
  cases h with
  | kept => rfl
  | rewritten _ _ found _ _ => exact SoundDirectories.scan_overwrite distinct found _ _

/-- A setting is written to the file that was loaded, over and over. -/
theorem Written.put {tree' : FileTree} {store : SettingsStore} {key value : String}
    (h : Written config tree directory before tree') (file : store.file = before.file)
    (ascending : store.values.Ascending)
    (read : ∀ file, before.file = some file → ∃ old, tree.read file = .ok old)
    (amends : Amends config tree directory before (store.withValue key value)) :
    Written config tree directory before (store.put tree' key value).2.2 := by
  cases source : before.file with
  | none =>
      rw [put_inMemory (file.trans source)]
      exact h
  | some file' =>
      have opened : Open file' store := ⟨file.trans source, ascending⟩
      obtain ⟨old, readable⟩ := read file' source
      obtain ⟨location, leads, found⟩ := FileTree.locate_of_read readable
      generalize put : store.put tree' key value = left
      obtain ⟨result, store', tree''⟩ := left
      obtain ⟨rfl, outcome⟩ := put_writes opened put
      cases outcome with
      | inr refused => exact refused.2 ▸ h
      | inl written =>
          have wrote := written.2
          have loads (unprotected : tree'.read file' ≠ .error .permissionDenied) :=
            load_of_readText (opened.withValue key value)
              (FileTree.readText_write wrote unprotected)
          cases h with
          | kept =>
              specialize loads (by simp [readable])
              cases FileTree.write_of_locate leads wrote
              exact .rewritten source leads found loads amends
          | rewritten source' leads' found' saved _ =>
              cases source.symm.trans source'
              specialize loads (unprotected_of_load saved)
              cases FileTree.write_of_locate
                ((FileTree.locate_overwrite found' _).trans leads') wrote
              rw [FileTree.set_set] at loads ⊢
              exact .rewritten source leads' found' loads amends

structure Mended (config : RestoreConfig) (tree : FileTree) (directory : File.Path)
    (before : SettingsStore) (m : Machine) : Prop where
  index : ∃ outside, m.index = .directories ⟨directory, outside⟩
  file : m.settings.file = before.file
  ascending : m.settings.values.Ascending
  amends : Amends config tree directory before m.settings
  written : Written config tree directory before m.tree

namespace Mended

variable {m m' : Machine} {key current value : String}

theorem of_same (h : Mended config tree directory before m) (same : SameStore m m') :
    Mended config tree directory before m' where
  index := same.index ▸ h.index
  file := same.settings ▸ h.file
  ascending := same.settings ▸ h.ascending
  amends := same.settings ▸ h.amends
  written := same.tree ▸ h.written

theorem lasting : Lasting (Mended config tree directory before) := fun _ _ same h => h.of_same same

/-- One more slot is restored, or at least in memory. -/
theorem put (h : Mended config tree directory before m)
    (source : ∀ file, before.file = some file → load tree file = .ok before)
    (set : m.settings.get? key = some current) (shipped : Shipped config tree directory key value) :
    Mended config tree directory before (m.putSetting key value).2 := by
  by_cases locked : m.lockedKeys.contains key = true
  · refine h.of_same ?_
    simp only [Machine.putSetting, if_pos locked]
    exact (SameStore.refl m).noteCall _
  · have read (file : File.Path) (named : before.file = some file) :
        ∃ old, tree.read file = .ok old := by
      cases h.amends key with
      | inl kept => exact read_of_load (source file named) (kept.symm.trans set)
      | inr changed =>
          obtain ⟨old, new, was, -⟩ := changed
          exact read_of_load (source file named) was
    have amends := h.amends.withValue set shipped
    have store := m.settings.put_store m.tree key value
    simp only [Machine.putSetting, if_neg locked]
    exact {
      index := h.index
      file := store ▸ h.file
      ascending := store ▸ h.ascending.insert key value
      amends := store ▸ amends
      written := h.written.put h.file h.ascending read amends }

/-- What the index finds for a slot is what the slot is restored to. -/
theorem shipped (h : Mended config tree directory before m) (distinct : tree.Distinct)
    {slot : UInt8} {name : String} {id : Int64} (first : slot < config.slots.count)
    (named : config.fileNames.get? (.ringtone slot) = some name) (found : Found m name id) :
    Shipped config tree directory (DefaultKind.ringtone slot).settingKey
      (Locator.media .inside id).text := by
  obtain ⟨rows, stuck, answer, read⟩ := found
  obtain ⟨outside, index⟩ := h.index
  rw [index, IndexSource.find] at answer
  cases asked : SoundDirectories.find ⟨directory, outside⟩ m.tree name with
  | error e =>
      rw [asked] at answer
      cases answer
  | ok rows' =>
      rw [asked] at answer
      cases answer
      obtain ⟨entries, scanned, e, member, same, told⟩ := SoundDirectories.find_id asked read
      rw [h.written.scan distinct] at scanned
      refine ⟨slot, name, entries, first, rfl, named, scanned, e, member, same, ?_⟩
      rw [Locator.text_media, told]
      rfl

section Slots

variable (distinct : tree.Distinct)
  (source : ∀ file, before.file = some file → load tree file = .ok before)

include distinct source

theorem one (h : Mended config tree directory before m) {kind : DefaultKind}
    (member : kind ∈ config.slots.kinds) :
    (one config kind).Leads Machine.handler m fun _ => Mended config tree directory before := by
  obtain ⟨slot, rfl, first⟩ := RestoreSlots.mem_kinds member
  have restored := one_restored config (.ringtone slot) m
  unfold Leads at restored ⊢
  generalize (Restore.one config (.ringtone slot)).run Machine.handler m = left at restored ⊢
  obtain ⟨result, m'⟩ := left
  cases restored with
  | spared same => exact h.of_same same
  | repointed set named found _ same | refused set named found _ same =>
      exact (h.put source set (h.shipped distinct first named found)).of_same same

/-- Slot after slot. -/
theorem each (h : Mended config tree directory before m) {kinds : List DefaultKind}
    (slots : ∀ kind ∈ kinds, kind ∈ config.slots.kinds) :
    (each config kinds).Leads Machine.handler m fun _ => Mended config tree directory before := by
  induction kinds generalizing m with
  | nil => exact h
  | cons kind kinds ih =>
      obtain ⟨slot, rest⟩ := List.forall_mem_cons.mp slots
      have mended := one distinct source h slot
      simp only [Restore.each, leads_bind]
      unfold Leads at mended
      split
      · simp only [leads_bind, leads_pure]
        exact ih mended rest
      · rw [leads_bind]
        exact ih (mended.of_same ((SameStore.refl _).note _)) rest

theorem all : (all config).Preserves Machine.handler (Mended config tree directory before) := by
  intro m h
  unfold Restore.all
  split
  · exact each distinct source h fun _ => id
  · exact h

end Slots

end Mended

end Restore
end AlertSound
