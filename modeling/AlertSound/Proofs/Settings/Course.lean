import AlertSound.Proofs.Settings.Contents
import AlertSound.Restore

/-!
Restoring one slot, call by call. A slot is rewritten in one of all the ways that its
restoring can take; in every other the setting is left alone, and the reason can be told:
the slot is not set, its sound is there or cannot be asked for, nothing is shipped for it,
what is shipped cannot be asked for, is not indexed or has no id, or the write fails.
-/
namespace AlertSound.Restore

open Function Program

inductive Checked (raw : String) : Trace Resources → Except Error Bool → Prop where
  | unreadable {e entry} : Locator.parse raw = .error e → Checked raw [⟨.log entry, ()⟩] (.ok false)
  | unasked {r e} : Locator.parse raw = .ok r →
      Checked raw [⟨.query r [.title], .error e⟩] (.error (.query e))
  | counted {r cursor} {rows : Nat} : Locator.parse raw = .ok r →
      Checked raw [⟨.query r [.title], .ok cursor⟩, ⟨.count cursor, rows⟩, ⟨.close cursor, ()⟩]
        (.ok (decide (0 < rows)))

inductive Pointing (key fileName : String) (cursor : CursorId) :
    Trace Resources → Except Error Bool → Prop where
  | empty {entry} :
      Pointing key fileName cursor [⟨.count cursor, (0 : Nat)⟩, ⟨.log entry, ()⟩] (.ok false)
  | stuck {rows : Nat} {entry} : rows ≠ 0 →
      Pointing key fileName cursor
        [⟨.count cursor, rows⟩, ⟨.moveToFirst cursor, false⟩, ⟨.log entry, ()⟩] (.ok false)
  | unnumbered {rows : Nat} {cell} : rows ≠ 0 → Cursor.cellNumber? cell = none →
      Pointing key fileName cursor
        [⟨.count cursor, rows⟩, ⟨.moveToFirst cursor, true⟩, ⟨.cell cursor 0, cell⟩]
        (.error (.missingId fileName))
  | refused {rows : Nat} {cell id e} : rows ≠ 0 → Cursor.cellNumber? cell = some id →
      Pointing key fileName cursor
        [⟨.count cursor, rows⟩, ⟨.moveToFirst cursor, true⟩, ⟨.cell cursor 0, cell⟩,
          ⟨.putSetting key (Locator.media .inside id).text, .error e⟩]
        (.error (.settings e))
  | written {rows : Nat} {cell id entry} : rows ≠ 0 → Cursor.cellNumber? cell = some id →
      Pointing key fileName cursor
        [⟨.count cursor, rows⟩, ⟨.moveToFirst cursor, true⟩, ⟨.cell cursor 0, cell⟩,
          ⟨.putSetting key (Locator.media .inside id).text, .ok ()⟩, ⟨.log entry, ()⟩]
        (.ok true)

inductive Course (config : RestoreConfig) (kind : DefaultKind) :
    Option String → Trace Resources → Except Error Bool → Prop where
  | unset : Course config kind none [⟨.setting kind.settingKey, none⟩] (.ok false)
  | unchecked {raw t e} : Checked raw t (.error e) →
      Course config kind (some raw) (⟨.setting kind.settingKey, some raw⟩ :: t) (.error e)
  | there {raw t} : Checked raw t (.ok true) →
      Course config kind (some raw) (⟨.setting kind.settingKey, some raw⟩ :: t) (.ok false)
  | unnamed {raw t entry} : Checked raw t (.ok false) → config.fileNames.get? kind = none →
      Course config kind (some raw)
        (⟨.setting kind.settingKey, some raw⟩ :: t ++ [⟨.log entry, ()⟩]) (.ok false)
  | unasked {raw t name e} : Checked raw t (.ok false) → config.fileNames.get? kind = some name →
      Course config kind (some raw)
        (⟨.setting kind.settingKey, some raw⟩ :: t ++ [⟨.find name, .error e⟩]) (.error (.query e))
  | asked {raw t name cursor u result} : Checked raw t (.ok false) →
      config.fileNames.get? kind = some name → Pointing kind.settingKey name cursor u result →
      Course config kind (some raw) (⟨.setting kind.settingKey, some raw⟩ :: t ++
        ⟨.find name, .ok cursor⟩ :: u ++ [⟨.close cursor, ()⟩]) result

theorem ensures_log (level : Log.Level) (target message : String)
    (fields : List (String × Log.FieldValue)) {Q : Trace Resources → Unit → Prop}
    (h : Q [⟨.log { level, target, message, fields }, ()⟩] ()) :
    (Resource.log level target message fields).Ensures Q :=
  ensures_call.mpr fun _ => ensures_done.mpr h

theorem stillExists_checked (raw : String) : (stillExists raw).Ensures (Checked raw) := by
  unfold stillExists
  split
  · rename_i e unreadable
    exact ensures_bind.mpr (ensures_log _ _ _ _ (ensures_pure.mpr (.unreadable unreadable)))
  · rename_i r read
    simp only [Resource.query, ensures_bind, ensures_call, ensures_done]
    intro answer
    cases answer with
    | error e => simpa using Checked.unasked read
    | ok cursor =>
        simp only [Resource.withCursor, Resource.count, Resource.close, ensures_bind, ensures_call,
          ensures_done, ensures_pure]
        exact fun rows _ => .counted read

theorem repoint_pointing (key current fileName : String) (cursor : CursorId) :
    (repoint key current fileName cursor).Ensures (Pointing key fileName cursor) := by
  simp only [repoint, Resource.count, ensures_bind, ensures_call, ensures_done]
  intro rows
  split
  · rename_i empty
    subst empty
    exact ensures_bind.mpr (ensures_log _ _ _ _ (ensures_pure.mpr .empty))
  · rename_i some
    simp only [Resource.moveToFirst, ensures_bind, ensures_call, ensures_done]
    intro moved
    cases moved with
    | false =>
        exact ensures_bind.mpr (ensures_log _ _ _ _ (ensures_pure.mpr (.stuck some)))
    | true =>
        simp only [Resource.cell, Bool.not_true, Bool.false_eq_true, if_false, ensures_bind,
          ensures_call, ensures_done]
        intro cell
        split
        · rename_i unnumbered
          exact ensures_pure.mpr (.unnumbered some unnumbered)
        · rename_i id numbered
          simp only [Resource.putSetting, ensures_bind, ensures_call, ensures_done]
          intro answer
          cases answer with
          | error e => exact ensures_pure.mpr (.refused some numbered)
          | ok _ =>
              refine ensures_bind.mpr (ensures_log _ _ _ _ (ensures_pure.mpr ?_))
              exact .written some numbered

theorem one_course (config : RestoreConfig) (kind : DefaultKind) :
    (one config kind).Ensures fun t result => ∃ current, Course config kind current t result := by
  simp only [one, Resource.setting, ensures_bind, ensures_call, ensures_done]
  intro current
  cases current with
  | none => exact ensures_pure.mpr ⟨none, .unset⟩
  | some raw =>
      refine (stillExists_checked raw).bind fun t result checked => ?_
      split
      · exact ensures_pure.mpr ⟨some raw, by simpa using .unchecked checked⟩
      · exact ensures_pure.mpr ⟨some raw, by simpa using .there checked⟩
      · split
        · rename_i unnamed
          refine ensures_bind.mpr (ensures_log _ _ _ _ (ensures_pure.mpr ⟨some raw, ?_⟩))
          simpa using Course.unnamed checked unnamed
        · rename_i name named
          simp only [Resource.find, ensures_bind, ensures_call, ensures_done]
          intro answer
          cases answer with
          | error e => exact ensures_pure.mpr ⟨some raw, .unasked checked named⟩
          | ok cursor =>
              refine (repoint_pointing _ raw name cursor).bind fun u result pointing => ?_
              refine ensures_bind.mpr (ensures_call.mpr fun _ => ensures_done.mpr
                (ensures_pure.mpr ⟨some raw, ?_⟩))
              simpa using Course.asked checked named pointing

/-- A value is missing: it is no locator, or its query has no rows. -/
def Missing (raw : String) (t : Trace Resources) : Prop :=
  (∃ e, Locator.parse raw = .error e) ∨ ∃ r cursor, Locator.parse raw = .ok r ∧
    (⟨.query r [.title], .ok cursor⟩ : Event Resources) ∈ t ∧
    (⟨.count cursor, (0 : Nat)⟩ : Event Resources) ∈ t

def Numbered (cursor : CursorId) (t : Trace Resources) (id : Int64) : Prop :=
  ∃ cell, (⟨.moveToFirst cursor, true⟩ : Event Resources) ∈ t ∧
    (⟨.cell cursor 0, cell⟩ : Event Resources) ∈ t ∧ Cursor.cellNumber? cell = some id

/-- A slot is to be pointed at the sound with this id: the setting is there, its value is
missing, a name is shipped for the slot, and the first row that is found for it has the id. -/
def Due (config : RestoreConfig) (kind : DefaultKind) (current : Option String)
    (t : Trace Resources) (id : Int64) : Prop :=
  ∃ raw name cursor, current = some raw ∧ Missing raw t ∧ config.fileNames.get? kind = some name ∧
    (⟨.find name, .ok cursor⟩ : Event Resources) ∈ t ∧ Numbered cursor t id

variable {config : RestoreConfig} {kind : DefaultKind} {current : Option String}
  {t : Trace Resources} {result : Except Error Bool} {raw key name : String} {cursor : CursorId}

def Checks : Resource.Call → Prop
  | .query _ _ | .count _ | .close _ | .log _ => True
  | _ => False

theorem Checked.checks (h : Checked raw t result) : ∀ e ∈ t, Checks e.call := by
  cases h with
  | unreadable _ | unasked _ | counted _ => simp [Checks]

theorem Checked.spares (h : Checked raw t result) : ∀ e ∈ t, e.call.Spares := by
  cases h with
  | unreadable _ | unasked _ | counted _ => simp [Resource.Call.Spares]

theorem Checked.missing (h : Checked raw t (.ok false)) : Missing raw t := by
  generalize gone : (Except.ok false : Except Error Bool) = result at h
  cases h with
  | unreadable read => exact .inl ⟨_, read⟩
  | unasked _ => cases gone
  | @counted r cursor rows read =>
      obtain rfl : rows = 0 := by simpa [eq_comm] using Except.ok.inj gone
      exact .inr ⟨r, cursor, read, by simp, by simp⟩

theorem Checked.find_not_mem (h : Checked raw t result) (answer : Except QueryError CursorId) :
    (⟨.find name, answer⟩ : Event Resources) ∉ t := fun member => h.checks _ member

theorem Pointing.find_not_mem (h : Pointing key name cursor t result) {name' : String}
    (answer : Except QueryError CursorId) : (⟨.find name', answer⟩ : Event Resources) ∉ t := by
  cases h with
  | empty | stuck _ | unnumbered _ _ | refused _ _ | written _ _ => simp

/-- The setting is read, and no other. -/
theorem Course.setting_mem_iff (h : Course config kind current t result) {answer : Option String} :
    (⟨.setting key, answer⟩ : Event Resources) ∈ t ↔ key = kind.settingKey ∧ answer = current := by
  have unread {raw : String} {t : Trace Resources} {result : Except Error Bool}
      (checked : Checked raw t result) : (⟨.setting key, answer⟩ : Event Resources) ∉ t :=
    fun member => checked.checks _ member
  have unread' {name : String} {cursor : CursorId} {t : Trace Resources}
      {result : Except Error Bool} (pointing : Pointing kind.settingKey name cursor t result) :
      (⟨.setting key, answer⟩ : Event Resources) ∉ t := by
    cases pointing with
    | empty | stuck _ | unnumbered _ _ | refused _ _ | written _ _ => simp
  cases h with
  | unset => simp
  | unchecked checked | there checked => simp [unread checked]
  | unnamed checked _ | unasked checked _ => simp [unread checked]
  | asked checked _ pointing => simp [unread checked, unread' pointing]

/-- A locator is asked for. -/
theorem Course.query_mem {r : Locator} (h : Course config kind (some raw) t result)
    (read : Locator.parse raw = .ok r) :
    ∃ answer, (⟨.query r [.title], answer⟩ : Event Resources) ∈ t := by
  have asked {t : Trace Resources} {result : Except Error Bool} (checked : Checked raw t result) :
      ∃ answer, (⟨.query r [.title], answer⟩ : Event Resources) ∈ t := by
    cases checked with
    | unreadable unreadable => cases read.symm.trans unreadable
    | unasked read' | counted read' => cases read.symm.trans read'; exact ⟨_, List.mem_cons_self⟩
  cases h with
  | unchecked checked | there checked | unnamed checked _ | unasked checked _ | asked checked _ _ =>
      obtain ⟨answer, member⟩ := asked checked
      exact ⟨answer, by simp [member]⟩

/-- What comes of a run that may write a setting: it does so once, with the one id that is
given, and succeeds if the write does, or it fails without. -/
def Settles (key : String) (t : Trace Resources) (given : Int64 → Prop)
    (result : Except Error Bool) : Prop :=
  (∃ id answer, (∀ id', given id' ↔ id' = id) ∧
    Contents.WritesOnce t key (Locator.media .inside id).text answer ∧
    (result = .ok true ↔ answer = .ok ())) ∨
  (∀ e ∈ t, e.call.Spares) ∧ result ≠ .ok true ∧ ∀ id, ¬given id

theorem Pointing.settles (h : Pointing key name cursor t result) :
    Settles key t (Numbered cursor t) result := by
  cases h with
  | empty => exact .inr ⟨by simp [Resource.Call.Spares], by simp, by simp [Numbered]⟩
  | stuck some => exact .inr ⟨by simp [Resource.Call.Spares], by simp, by simp [Numbered]⟩
  | unnumbered some none =>
      exact .inr ⟨by simp [Resource.Call.Spares], by simp, by simp [Numbered, none]⟩
  | @refused rows cell id e some read =>
      refine .inl ⟨id, .error e, fun id' => by simp [Numbered, read, eq_comm],
        ⟨[⟨.count cursor, rows⟩, ⟨.moveToFirst cursor, true⟩, ⟨.cell cursor 0, cell⟩], [], rfl, ?_,
          by simp⟩, by simp⟩
      simp [Resource.Call.Spares]
  | @written rows cell id entry some read =>
      refine .inl ⟨id, .ok (), fun id' => by simp [Numbered, read, eq_comm],
        ⟨[⟨.count cursor, rows⟩, ⟨.moveToFirst cursor, true⟩, ⟨.cell cursor 0, cell⟩],
          [⟨.log entry, ()⟩], rfl, ?_, ?_⟩, by simp⟩
      · simp [Resource.Call.Spares]
      · simp [Resource.Call.Spares]

theorem Settles.congr {given given' : Int64 → Prop} (h : Settles key t given result)
    (same : ∀ id, given' id ↔ given id) {front back : Trace Resources}
    (spares : ∀ e ∈ front, e.call.Spares) (spares' : ∀ e ∈ back, e.call.Spares) :
    Settles key (front ++ t ++ back) given' result := by
  cases h with
  | inl tried =>
      obtain ⟨id, answer, one, once, result⟩ := tried
      exact .inl ⟨id, answer, fun id' => (same id').trans (one id'), once.extend spares spares',
        result⟩
  | inr left =>
      obtain ⟨spares'', result, none⟩ := left
      refine .inr ⟨?_, result, fun id given => none id ((same id).mp given)⟩
      exact List.forall_mem_append.mpr ⟨List.forall_mem_append.mpr ⟨spares, spares''⟩, spares'⟩

/-- After a check has found the value missing, the slot is due for what the cursor over the
found rows says. -/
theorem due_iff {u : Trace Resources} (checked : Checked raw t (.ok false))
    (named : config.fileNames.get? kind = some name)
    (pointing : Pointing kind.settingKey name cursor u result) (id : Int64) :
    Due config kind (some raw) (⟨.setting kind.settingKey, some raw⟩ :: t ++
      ⟨.find name, .ok cursor⟩ :: u ++ [⟨.close cursor, ()⟩]) id ↔ Numbered cursor u id := by
  have move (cursor' : CursorId) (moved : Bool) :
      (⟨.moveToFirst cursor', moved⟩ : Event Resources) ∉ t := fun member => checked.checks _ member
  have cell (cursor' : CursorId) (cell : Option String) :
      (⟨.cell cursor' 0, cell⟩ : Event Resources) ∉ t := fun member => checked.checks _ member
  have found (cursor' : CursorId) : (⟨.find name, .ok cursor'⟩ : Event Resources) ∈
      (⟨.setting kind.settingKey, some raw⟩ :: t ++ ⟨.find name, .ok cursor⟩ :: u ++
        [⟨.close cursor, ()⟩] : Trace Resources) ↔ cursor' = cursor := by
    simp [checked.find_not_mem, pointing.find_not_mem]
  have numbered : Numbered cursor (⟨.setting kind.settingKey, some raw⟩ :: t ++
      ⟨.find name, .ok cursor⟩ :: u ++ [⟨.close cursor, ()⟩]) id ↔ Numbered cursor u id := by
    simp [Numbered, move, cell]
  constructor
  · intro due
    obtain ⟨raw', name', cursor', same, -, named', here, first⟩ := due
    cases same
    cases named.symm.trans named'
    cases (found cursor').mp here
    exact numbered.mp first
  · intro first
    have missing : Missing raw (⟨.setting kind.settingKey, some raw⟩ :: t ++
        ⟨.find name, .ok cursor⟩ :: u ++ [⟨.close cursor, ()⟩]) := by
      refine checked.missing.imp_right fun given => ?_
      obtain ⟨r, cursor', read, asked, none⟩ := given
      exact ⟨r, cursor', read, by simp [asked], by simp [none]⟩
    exact ⟨raw, name, cursor, rfl, missing, named, (found cursor).mpr rfl, numbered.mpr first⟩

theorem Course.settles (h : Course config kind current t result) :
    Settles kind.settingKey t (Due config kind current t) result := by
  cases h with
  | unset => exact .inr ⟨by simp [Resource.Call.Spares], by simp, by simp [Due]⟩
  | unchecked checked | there checked =>
      refine .inr ⟨?_, by simp, by simp [Due, checked.find_not_mem]⟩
      simpa [Resource.Call.Spares] using checked.spares
  | unnamed checked unnamed =>
      refine .inr ⟨?_, by simp, by simp [Due, unnamed]⟩
      simpa [Resource.Call.Spares, or_imp, forall_and] using checked.spares
  | unasked checked named =>
      refine .inr ⟨?_, by simp, by simp [Due, checked.find_not_mem]⟩
      simpa [Resource.Call.Spares, or_imp, forall_and] using checked.spares
  | @asked raw t name cursor u result checked named pointing =>
      have spares : ∀ e ∈ (⟨.setting kind.settingKey, some raw⟩ :: t ++
          [⟨.find name, .ok cursor⟩] : Trace Resources), e.call.Spares := by
        simpa [Resource.Call.Spares, or_imp, forall_and] using checked.spares
      have spares' : ∀ e ∈ ([⟨.close cursor, ()⟩] : Trace Resources), e.call.Spares := by
        simp [Resource.Call.Spares]
      have settles := pointing.settles.congr (due_iff checked named pointing) spares spares'
      simpa using settles

end AlertSound.Restore
