import AlertSound.Proofs.Host.Store

/-!
Restoring a slot on a machine. Either the settings are left as they are, or one setting is
written: that of the slot, which was set before, and what is written names the first sound
that the index has under the slot's file name.
-/
namespace AlertSound.Restore

open Program Host

def Found (m : Machine) (name : String) (id : Int64) : Prop :=
  ∃ rows stuck, m.index.find m.tree name = .ok (rows, stuck) ∧
    Cursor.cellNumber? (rows.head?.bind fun row => (row[0]?).join) = some id

/-- The restoring came to nothing before there was anything to write. -/
inductive Idle : Except Error Bool → Prop where
  | left : Idle (.ok false)
  | unasked (cause : QueryError) : Idle (.error (.query cause))
  | unnumbered (fileName : String) : Idle (.error (.missingId fileName))

inductive Restored (config : RestoreConfig) (kind : DefaultKind) (m : Machine) :
    Except Error Bool → Machine → Prop where
  | spared {result m'} : SameStore m m' → Idle result → Restored config kind m result m'
  | repointed {current name id m'} : m.settings.get? kind.settingKey = some current →
      config.fileNames.get? kind = some name → Found m name id →
      (m.putSetting kind.settingKey (Locator.media .inside id).text).1 = .ok () →
      SameStore (m.putSetting kind.settingKey (Locator.media .inside id).text).2 m' →
      Restored config kind m (.ok true) m'
  | refused {current name id e m'} : m.settings.get? kind.settingKey = some current →
      config.fileNames.get? kind = some name → Found m name id →
      (m.putSetting kind.settingKey (Locator.media .inside id).text).1 = .error e →
      SameStore (m.putSetting kind.settingKey (Locator.media .inside id).text).2 m' →
      Restored config kind m (.error (.settings e)) m'

inductive Pointed (key : String) (rows : List Row) (m : Machine) :
    Except Error Bool → Machine → Prop where
  | spared {result m'} : SameStore m m' → Idle result → Pointed key rows m result m'
  | written {id m'} : Cursor.cellNumber? (rows.head?.bind fun row => (row[0]?).join) = some id →
      (m.putSetting key (Locator.media .inside id).text).1 = .ok () →
      SameStore (m.putSetting key (Locator.media .inside id).text).2 m' →
      Pointed key rows m (.ok true) m'
  | refused {id e m'} : Cursor.cellNumber? (rows.head?.bind fun row => (row[0]?).join) = some id →
      (m.putSetting key (Locator.media .inside id).text).1 = .error e →
      SameStore (m.putSetting key (Locator.media .inside id).text).2 m' →
      Pointed key rows m (.error (.settings e)) m'

theorem moveToFirst_ofRows {m : Machine} {c : CursorId} {row : Row} {rest : List Row}
    {stuck : Bool} (found : m.cursors[c]? = some ⟨.ofRows (row :: rest), stuck⟩)
    (moves : (m.moveToFirst c).1 = true) (column : Nat) :
    ((m.moveToFirst c).2.cursor c).text? column = (row[column]?).join := by
  obtain ⟨bound, -⟩ := Array.getElem?_eq_some_iff.mp found
  cases stuck with
  | true => simp [Machine.moveToFirst, found] at moves
  | false =>
      simp only [Machine.moveToFirst, found, Bool.false_eq_true, if_false]
      simp [Cursor.moveToFirst, Cursor.ofRows, Machine.cursor, bound, Cursor.text?]

theorem repoint_pointed (key current name : String) {m : Machine} {c : CursorId} {rows : List Row}
    {stuck : Bool} (found : m.cursors[c]? = some ⟨.ofRows rows, stuck⟩) :
    (repoint key current name c).Leads Machine.handler m (Pointed key rows m) := by
  have count : (m.cursor c).count = rows.length := by
    simp [Machine.cursor, found, Cursor.count, Cursor.ofRows]
  have same := m.moveToFirst_store c
  simp only [repoint, leads_bind, Machine.run_count, count]
  split
  · exact .spared ((SameStore.refl m).note _) .left
  · rename_i some
    obtain ⟨row, rest, rfl⟩ := List.exists_cons_of_length_pos (Nat.pos_of_ne_zero some)
    rw [leads_bind]
    split
    · exact .spared (same.note _) .left
    · rename_i moved
      have cell := moveToFirst_ofRows found (by simpa using moved) 0
      simp only [leads_bind, Machine.run_moveToFirst, Machine.run_cell, cell]
      split
      · exact .spared same (.unnumbered _)
      · rename_i id read
        have put := same.putSetting key (Locator.media .inside id).text
        simp only [leads_bind, Machine.run_putSetting]
        split
        · rename_i e refused
          exact .refused read (put.1 ▸ refused) put.2
        · rename_i written
          exact .written read (put.1 ▸ written) (put.2.note _)

theorem stillExists_ensures (raw : String) :
    (stillExists raw).Ensures fun _ result => ∀ e, result = .error e → Idle (.error e) := by
  unfold stillExists
  split
  · simp [Resource.log]
  · simp only [ensures_bind]
    refine .of_forall fun t opened => ?_
    split
    · rename_i cause
      simpa using Idle.unasked cause
    · simp [Resource.withCursor, Resource.count, Resource.close]

/-- What comes of the found rows when the index was asked by the machine itself. -/
theorem Pointed.restored {config : RestoreConfig} {kind : DefaultKind} {m m₁ m' : Machine}
    {current name : String} {rows : List Row} {stuck : Bool} {result : Except Error Bool}
    (h : Pointed kind.settingKey rows m₁ result m') (same : SameStore m m₁)
    (set : m.settings.get? kind.settingKey = some current)
    (shipped : config.fileNames.get? kind = some name)
    (found : m.index.find m.tree name = .ok (rows, stuck)) :
    Restored config kind m result m' := by
  cases h with
  | spared kept idle => exact .spared (same.trans kept) idle
  | written read put stored =>
      obtain ⟨answer, left⟩ := same.putSetting kind.settingKey _
      exact .repointed set shipped ⟨rows, stuck, found, read⟩ (answer ▸ put) (left.trans stored)
  | refused read put stored =>
      obtain ⟨answer, left⟩ := same.putSetting kind.settingKey _
      exact .refused set shipped ⟨rows, stuck, found, read⟩ (answer ▸ put) (left.trans stored)

theorem Restored.close {config : RestoreConfig} {kind : DefaultKind} {m m' : Machine}
    {result : Except Error Bool} (h : Restored config kind m result m') (cursor : CursorId) :
    Restored config kind m result (m'.close cursor) := by
  cases h with
  | spared kept idle => exact .spared (kept.close cursor) idle
  | repointed set shipped found put stored => exact .repointed set shipped found put (stored.close _)
  | refused set shipped found put stored => exact .refused set shipped found put (stored.close _)

/-- Asking the index for a name fails, or opens a cursor over what the index has. -/
theorem find_cases (m : Machine) (name : String) :
    (∃ e m', (Resource.find name).run Machine.handler m = (.error e, m') ∧ SameStore m m') ∨
      ∃ rows stuck cursor m', m.index.find m.tree name = .ok (rows, stuck) ∧
        (Resource.find name).run Machine.handler m = (.ok cursor, m') ∧ SameStore m m' ∧
        m'.cursors[cursor]? = some ⟨.ofRows rows, stuck⟩ := by
  rw [Machine.run_find]
  cases found : m.index.find m.tree name with
  | error e => exact .inl ⟨_, _, rfl, rfl, rfl, rfl, rfl⟩
  | ok answer =>
      obtain ⟨rows, stuck⟩ := answer
      exact .inr ⟨rows, stuck, _, _, rfl, rfl, ⟨rfl, rfl, rfl, rfl⟩, Array.getElem?_push_size ..⟩

theorem one_restored (config : RestoreConfig) (kind : DefaultKind) (m : Machine) :
    (one config kind).Leads Machine.handler m (Restored config kind m) := by
  obtain ⟨m₁, same₁, asked⟩ : ∃ m₁, SameStore m m₁ ∧
      (Resource.setting kind.settingKey).run Machine.handler m =
        (m.settings.get? kind.settingKey, m₁) := ⟨_, (SameStore.refl m).noteCall _, rfl⟩
  simp only [one, leads_bind, asked]
  split
  · exact .spared same₁ .left
  · rename_i current set
    have known := stillExists_ensures current (runs_record Machine.handler _ m₁)
    have same := same₁.trans (Machine.run_store_of_finds (stillExists_finds current) m₁)
    simp only [leads_bind]
    generalize (stillExists current).run Machine.handler m₁ = checked at known same ⊢
    obtain ⟨result, m₂⟩ := checked
    split
    · rename_i e failed
      exact .spared same (known e failed)
    · exact .spared same .left
    · split
      · exact .spared (same.note _) .left
      · rename_i name shipped
        simp only [leads_bind]
        cases find_cases m₂ name with
        | inl failed =>
            obtain ⟨e, m₃, asked, same₃⟩ := failed
            rw [asked]
            exact .spared (same.trans same₃) (.unasked e)
        | inr answered =>
            obtain ⟨rows, stuck, cursor, m₃, found, asked, same₃, opened⟩ := answered
            rw [asked]
            simp only [Resource.withCursor, leads_bind, leads_pure, Machine.run_close]
            have pointed := repoint_pointed kind.settingKey current name opened
            rw [same.index, same.tree] at found
            exact (pointed.restored (same.trans same₃) set shipped found).close cursor

end AlertSound.Restore
