import AlertSound.Proofs.Index.Finding
import AlertSound.Proofs.Session.Opening

/-!
Restoring beside sound directories. The text of a sound that is found there leads to the sound
again, so a second pass finds nothing to restore, and a slot that could be restored names a
sound that the directories have. A session that is bound to the slot opens this sound.
-/
namespace AlertSound

open Function Program

namespace SoundDirectories

/-- Sound directories over files that stay as they are, and other collaborators. -/
def library (index : SoundDirectories) (tree : FileTree) (others : Library Cursor) :
    Library Cursor :=
  { others with
    query := fun r columns => (index.query tree r columns).map Cursor.ofRows
    find := fun name => (index.find tree name).map Cursor.ofRows
    count := Cursor.count
    moveToFirst := Cursor.moveToFirst
    cell := Cursor.text?
    close := Cursor.close }

variable {index : SoundDirectories} {tree : FileTree} {others : Library Cursor} {r : Locator}

@[simp] theorem library_query (r : Locator) (columns : List Column) :
    (index.library tree others).query r columns =
      (index.query tree r columns).map Cursor.ofRows := rfl

@[simp] theorem library_find (name : String) :
    (index.library tree others).find name = (index.find tree name).map Cursor.ofRows := rfl

@[simp] theorem library_count (rows : List Row) :
    (index.library tree others).count (.ofRows rows) = rows.length := rfl

theorem firstId?_ofRows (rows : List Row) :
    Restore.firstId? (index.library tree others) (.ofRows rows) =
      Cursor.cellNumber? (rows.head?.bind fun row => (row[0]?).join) := by
  cases rows with
  | nil => rfl
  | cons row rows =>
      simp [Restore.firstId?, library, Cursor.count, Cursor.moveToFirst, Cursor.ofRows,
        Cursor.text?]

variable {config : RestoreConfig} {kind : DefaultKind} {id : Int64} {raw : String}

theorem shipped?_eq_some :
    Restore.shipped? (index.library tree others) config kind = some id ↔
      ∃ name rows, config.fileNames.get? kind = some name ∧ index.find tree name = .ok rows ∧
        Cursor.cellNumber? (rows.head?.bind fun row => (row[0]?).join) = some id := by
  simp only [Restore.shipped?, Option.bind_eq_some_iff, library_find]
  refine exists_congr fun name => ?_
  cases index.find tree name with
  | error e => simp [Except.map, Except.toOption]
  | ok rows => simp [Except.map, Except.toOption, firstId?_ofRows]

/-- A sound that is indexed is not gone. -/
theorem Indexes.isGone_eq (h : index.Indexes tree r) (read : Locator.parse raw = .ok r) :
    Restore.isGone (index.library tree others) raw = false := by
  obtain ⟨rows, asked, some⟩ := h [.title]
  simpa [Restore.isGone, read, asked, Except.map] using some

/-- A sound that is not gone is indexed, if it could be asked for. -/
theorem indexes_of_there (there : Restore.isGone (index.library tree others) raw = false)
    (asked : ∀ r e, Locator.parse raw = .ok r → index.query tree r [.title] ≠ .error e) :
    ∃ r, Locator.parse raw = .ok r ∧ index.Indexes tree r := by
  cases read : Locator.parse raw with
  | error e => simp [Restore.isGone, read] at there
  | ok r =>
      cases answer : index.query tree r [.title] with
      | error e => exact absurd answer (asked r e read)
      | ok rows =>
          refine ⟨r, rfl, .of_query answer ?_⟩
          simpa [Restore.isGone, read, answer, Except.map] using there

end SoundDirectories

namespace Restore

variable {config : RestoreConfig} {kind : DefaultKind} {t : Trace Resources} {n : Nat}
  {raw : String}

variable {index : SoundDirectories} {tree : FileTree} {others : Library Cursor}
  {s s' : Contents × Table Cursor}

/-- What was written is there. -/
theorem written?_settled (current : Option String) :
    written? (index.library tree others) config kind
      (settled (index.library tree others) config kind current) = none := by
  cases written : written? (index.library tree others) config kind current with
  | none => rwa [settled_of_unwritten written]
  | some value =>
      rw [settled_of_written written]
      obtain ⟨id, due, rfl, -⟩ := written?_eq_some.mp written
      obtain ⟨-, -, -, shipped⟩ := due?_eq_some.mp due
      obtain ⟨name, rows, -, found, read⟩ := SoundDirectories.shipped?_eq_some.mp shipped
      exact written?_of_there ((SoundDirectories.indexes_of_find found read).isGone_eq
        (Locator.parse_text_media _ _))

/-- A slot that was checked without fault, and written without fault if it was, names a sound
of the directories, if the sound that is shipped for it is one. -/
theorem slot_indexed (runs : (all config).Runs t n)
    (path : (index.library tree others).serves.Path t s s') (slot : kind ∈ config.slots.kinds)
    (checked : (⟨.setting kind.settingKey, some raw⟩ : Event Resources) ∈ t)
    (asked : ∀ r e, Locator.parse raw = .ok r →
      (⟨.query r [.title], .error e⟩ : Event Resources) ∉ t)
    (unrefused : ∀ value e, (⟨.putSetting kind.settingKey value, .error e⟩ : Event Resources) ∉ t)
    {id : Int64} (shipped : shipped? (index.library tree others) config kind = some id) :
    ∃ raw' r, s'.1 kind.settingKey = some raw' ∧ Locator.parse raw' = .ok r ∧
      index.Indexes tree r := by
  obtain ⟨enabled, holds, events, result, course, u, v, rfl⟩ :=
    share_of_setting runs (Library.contents_path path) slot checked
  have left := (all_settles enabled runs path).1 kind slot
  obtain ⟨_, front, -⟩ := Conduct.path_append.mp path
  obtain ⟨_, -, here⟩ := Conduct.path_append.mp front
  rw [holds] at left
  have within : ∀ e ∈ events, e ∈ u ++ events ++ v :=
    fun e member => List.mem_append_left v (List.mem_append_right u member)
  cases gone : isGone (index.library tree others) raw with
  | true =>
      have due : due? (index.library tree others) config kind (some raw) = some id :=
        due?_eq_some.mpr ⟨raw, rfl, gone, shipped⟩
      obtain ⟨answer, tried⟩ := (course.tries_iff _).mpr
        ⟨id, (course.due?_eq_some_iff here id).mp due, rfl⟩
      have put := Library.putSetting_of_mem here tried
      obtain ⟨name, rows, -, found, read⟩ := SoundDirectories.shipped?_eq_some.mp shipped
      cases answer with
      | error e => exact absurd (within _ tried) (unrefused _ e)
      | ok _ =>
          rw [settled_of_written (written?_eq_some.mpr ⟨id, due, rfl, put.symm⟩)] at left
          exact ⟨_, _, left, Locator.parse_text_media _ _,
            SoundDirectories.indexes_of_find found read⟩
  | false =>
      have answered : ∀ r e, Locator.parse raw = .ok r →
          index.query tree r [.title] ≠ .error e := by
        intro r e read failed
        obtain ⟨answer, member⟩ := course.query_mem read
        cases answer with
        | error e => exact asked r e read (within _ member)
        | ok cursor =>
            obtain ⟨_, _, step⟩ := here.mem member
            obtain ⟨k, made, -⟩ := Library.serves_opened step.1
            simp [failed, Except.map] at made
      obtain ⟨r, read, indexed⟩ := SoundDirectories.indexes_of_there gone answered
      rw [settled_of_unwritten (written?_of_there gone)] at left
      exact ⟨raw, r, left, read, indexed⟩

/-- Nothing hindered a pass at a slot. Its setting was there and could be checked, no write of
it failed, and what is shipped for it is the name that one of these sounds is shown for. -/
structure Unhindered (config : RestoreConfig) (names : List File.Path) (t : Trace Resources)
    (kind : DefaultKind) : Prop where
  slot : kind ∈ config.slots.kinds
  checked : ∃ raw, (⟨.setting kind.settingKey, some raw⟩ : Event Resources) ∈ t ∧
    ∀ r e, Locator.parse raw = .ok r → (⟨.query r [.title], .error e⟩ : Event Resources) ∉ t
  unrefused : ∀ value e, (⟨.putSetting kind.settingKey value, .error e⟩ : Event Resources) ∉ t
  shipped : ∃ name ∈ names, config.fileNames.get? kind = some (File.display name)

/-- Restoring settles. Beside an index that answers the same question in the same way, and a
store that takes or refuses a value by its key and does not keep what it refuses, a second pass
leaves the settings as the first has left them. If the index is that of sound directories
whose files stay as they are, the second pass writes nothing at all. An enabled pass checks
every slot of its count. A slot at which nothing hindered it has a default afterwards, as long
as there are ids for all the sounds: the default is a sound that the directories have, with a
row or more whatever is asked of it, and not a default in its turn. A session that is bound to
the default of the slot then hands this sound to its engine, and no other, whatever the session
restores itself. -/
theorem pass_settles {K : Type} (library : Library K) (index : SoundDirectories) (tree : FileTree)
    (others : Library Cursor) (config : RestoreConfig) :
    (∀ t n s s', (all config).Runs t n → library.serves.Path t s s' →
      ∀ u n' s₁ s₂, (all config).Runs u n' → library.serves.Path u s₁ s₂ →
        s₁.1 = s'.1 → s₂.1 = s'.1) ∧
    ∀ t n s s', (all config).Runs t n → (index.library tree others).serves.Path t s s' →
      (∀ u n' s₁ s₂, (all config).Runs u n' →
        (index.library tree others).serves.Path u s₁ s₂ → s₁.1 = s'.1 → n' = 0) ∧
      (config.enabled = true → ∀ kind ∈ config.slots.kinds,
        (⟨.setting kind.settingKey, s.1 kind.settingKey⟩ : Event Resources) ∈ t) ∧
      ∀ place names, tree.Proper → SoundDirectories.Sounds tree index.inside place names →
        (names.length : Int) ≤ Int64.maxValue.toInt → ∀ kind, Unhindered config names t kind →
        ∃ r, r.origin ≠ .settingsDefault ∧ index.Indexes tree r ∧
          (∀ v found s₁ s₂, (defaultLocator? kind).Runs v found →
            (index.library tree others).serves.Path v s₁ s₂ → s₁.1 = s'.1 → found = some r) ∧
          ∀ session : Session, session.reference = some (.settingsDefault kind) →
            ∀ v session' s₁ s₂, session.bind.Runs v session' →
              (index.library tree others).serves.inStudio.Path v s₁ s₂ → s₁.1 = s'.1 →
              Session.OpensOnly v r session.attributes := by
  refine ⟨fun t n s s' runs path u n' s₁ s₂ runs' path' same =>
      all_twice runs path runs' path' same,
    fun t n s s' runs path => ⟨fun u n' s₁ s₂ runs' path' same => ?_, fun enabled => ?_, ?_⟩⟩
  · by_cases enabled : config.enabled = true
    · rw [(all_settles enabled runs' path').2, List.countP_eq_zero]
      intro kind slot
      rw [same, (all_settles enabled runs path).1 kind slot, written?_settled]
      exact Bool.false_ne_true
    · exact (all_disabled enabled runs').2
  · exact fun kind => setting_mem enabled runs (Library.contents_path path)
  · intro place names proper sounds few kind unhindered
    obtain ⟨raw, checked, asked⟩ := unhindered.checked
    obtain ⟨name, member, named⟩ := unhindered.shipped
    obtain ⟨rows, id, found, read⟩ := SoundDirectories.exists_id proper sounds few member
    obtain ⟨raw', r, holds, read, indexed⟩ := slot_indexed runs path unhindered.slot checked asked
      unhindered.unrefused (SoundDirectories.shipped?_eq_some.mpr ⟨_, rows, named, found, read⟩)
    refine ⟨r, indexed.origin_ne, indexed, fun v found s₁ s₂ runs path same => ?_,
      fun session sound v session' s₁ s₂ runs path same => ?_⟩
    · exact Session.defaultLocator?_of_path runs (Library.contents_path path)
        (by rw [same, holds]) read
    · exact session.bind_opens (RestoreSlots.defaultKind?_eq unhindered.slot) read
        indexed.origin_ne sound runs path (by rw [same, holds]) (indexed.isGone_eq read)

def willing : Library Cursor where
  volume _ := 5
  setting _ := none
  putSetting _ _ := .ok ()
  query _ _ := .ok (.ofRows [])
  find _ := .ok (.ofRows [])
  count := Cursor.count
  moveToFirst := Cursor.moveToFirst
  cell := Cursor.text?
  close := Cursor.close
  asset := .error (.notFound "")
  duplicate := .ok

open SoundDirectories in
def mixedLibrary : Library Cursor := mixedSounds.library mixedTree willing

def mixedSlots : RestoreConfig :=
  ⟨true, .ordinary, [(.ringtone 0, "Low.MP3"), (.ringtone 1, "\ufffd.ogg")]⟩

def firstPass : Nat × Contents × Register Cursor :=
  (all mixedSlots).run mixedLibrary.keeper (twoGone, .empty)

def secondPass : Nat × Contents × Register Cursor :=
  (all mixedSlots).run mixedLibrary.keeper firstPass.2

def secondSlot : Session :=
  { Session.new ⟨true, .ordinary, mixedSlots⟩ none with
    reference := some (.settingsDefault (.ringtone 1)) }

open SoundDirectories in
/-- A slot is restored to a sound whose name is not UTF-8, and a second pass leaves it there. -/
theorem pass_settles_mixed :
    firstPass.2.1 "ringtone_2" = some "content://media/internal/audio/media/2" ∧
      secondPass.1 = 0 ∧ secondPass.2.1 = firstPass.2.1 ∧
      ∃ r, r.origin ≠ .settingsDefault ∧ mixedSounds.Indexes mixedTree r ∧
        ((defaultLocator? (.ringtone 1)).run mixedLibrary.keeper firstPass.2).1 = some r ∧
        Session.OpensOnly (secondSlot.bind.record (Session.beside mixedLibrary.keeper)
          (firstPass.2, 0)) r secondSlot.attributes := by
  have path {α : Type} (p : Program Resources α) (state : Contents × Register Cursor) :=
    Conduct.path_record Library.kept mixedLibrary.keeper_serves p state
  have runs := runs_record mixedLibrary.keeper (all mixedSlots) (twoGone, .empty)
  have again := runs_record mixedLibrary.keeper (all mixedSlots) firstPass.2
  obtain ⟨twice, directories⟩ := pass_settles mixedLibrary mixedSounds mixedTree willing mixedSlots
  obtain ⟨zero, checked, slots⟩ := directories _ _ _ _ runs (path _ _)
  have unreadable : ∀ r, Locator.parse "another sound" ≠ .ok r := by
    intro r read
    have failed : (Locator.parse "another sound").toOption = none := by decide +kernel
    simp [read, Except.toOption] at failed
  have unhindered : Unhindered mixedSlots [File.ofText "Low.MP3", 0xff :: File.ofText ".ogg"]
      ((all mixedSlots).record mixedLibrary.keeper (twoGone, .empty)) (.ringtone 1) := by
    refine ⟨by decide, ⟨_, checked rfl (.ringtone 1) (by decide), ?_⟩, fun value e member => ?_,
      _, List.mem_cons_of_mem _ List.mem_cons_self, by decide +kernel⟩
    · exact fun r _ read => (unreadable r read).elim
    · cases Library.putSetting_of_mem (path _ _) member
  obtain ⟨r, direct, indexed, default, opens⟩ :=
    slots _ _ proper_mixedTree sounds_mixedTree (by decide) _ unhindered
  have restored : firstPass.2.1 "ringtone_2" = some "content://media/internal/audio/media/2" := by
    have found := @Sounds.find_eq mixedTree [File.ofText "sounds"] _ proper_mixedTree mixedSounds
      sounds_mixedTree "\ufffd.ogg"
    have shipped : shipped? mixedLibrary mixedSlots (.ringtone 1) = some 2 :=
      shipped?_eq_some.mpr ⟨_, _, rfl, found, by decide +kernel⟩
    have left := (all_settles rfl runs (path _ _)).1 (.ringtone 1) (by decide)
    refine left.trans (settled_of_written (written?_eq_some.mpr ⟨2, ?_, ?_, rfl⟩))
    · exact due?_eq_some.mpr ⟨"another sound", rfl, by decide +kernel, shipped⟩
    · decide +kernel
  exact ⟨restored, zero _ _ _ _ again (path _ _) rfl,
    twice _ _ _ _ runs (path _ _) _ _ _ _ again (path _ _) rfl, r, direct, indexed,
    default _ _ _ _ (runs_record mixedLibrary.keeper _ firstPass.2) (path _ _) rfl,
    opens secondSlot rfl _ _ _ _ (runs_record _ _ _)
      (Conduct.path_record (fun state => Library.kept state.1)
        (Session.beside_inStudio Library.kept mixedLibrary.keeper_serves) _ _) rfl⟩

end Restore
end AlertSound
