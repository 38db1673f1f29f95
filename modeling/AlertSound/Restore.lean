import AlertSound.Config
import AlertSound.Collaborators

/-!
Restoring defaults. A ringtone setting whose sound is gone is pointed back at the
shipped file of its slot, if that file is indexed. Slots are restored one by one;
a slot that fails is logged and left as it is.
-/
namespace AlertSound.Restore

inductive Error where
  | query (cause : QueryError)
  | settings (cause : SettingsError)
  | missingId (fileName : String)

def Error.message : Error → String
  | .query cause => cause.message
  | .settings cause => cause.message
  | .missingId fileName => "ringtone row for " ++ Text.quoted fileName ++ " has no id"

/-- A value that is no locator counts as a sound that is gone. -/
def stillExists (raw : String) : Program Resources (Except Error Bool) := do
  match Locator.parse raw with
  | .error e =>
    Resource.log .debug "restore" "unparsable setting counts as missing"
      [("value", .text raw), ("error", .shown e.message)]
    return .ok false
  | .ok r =>
    match ← Resource.query r [.title] with
    | .error e => return .error (.query e)
    | .ok cursor =>
      Resource.withCursor cursor do
        return .ok (decide (0 < (← Resource.count cursor)))

/-- Points the setting at the entry the cursor was opened for. -/
def repoint (key current fileName : String) (cursor : CursorId) :
    Program Resources (Except Error Bool) := do
  let notIndexed : Program Resources (Except Error Bool) := do
    Resource.log .debug "restore" "shipped default not indexed"
      [("key", .text key), ("file_name", .text fileName)]
    return .ok false
  if (← Resource.count cursor) = 0 then notIndexed
  else if !(← Resource.moveToFirst cursor) then notIndexed
  else
    match Cursor.cellNumber? (← Resource.cell cursor 0) with
    | none => return .error (.missingId fileName)
    | some id =>
      let restored := Locator.media .inside id
      match ← Resource.putSetting key restored.text with
      | .error e => return .error (.settings e)
      | .ok () =>
        Resource.log .info "restore" "restored default sound"
          [("key", .text key), ("missing", .shown current), ("restored", .shown restored.text)]
        return .ok true

/-- Whether the setting of the kind was restored. -/
def one (config : RestoreConfig) (kind : DefaultKind) : Program Resources (Except Error Bool) := do
  let key := kind.settingKey
  match ← Resource.setting key with
  | none => return .ok false
  | some current =>
    match ← stillExists current with
    | .error e => return .error e
    | .ok true => return .ok false
    | .ok false =>
      match config.fileNames.get? kind with
      | none =>
        Resource.log .debug "restore" "no shipped default to restore" [("key", .text key)]
        return .ok false
      | some fileName =>
        match ← Resource.find fileName with
        | .error e => return .error (.query e)
        | .ok cursor => Resource.withCursor cursor (repoint key current fileName cursor)

/-- How many of the kinds were restored. -/
def each (config : RestoreConfig) : List DefaultKind → Program Resources Nat
  | [] => return 0
  | kind :: kinds => do
    match ← one config kind with
    | .ok restored => return (← each config kinds) + (if restored then 1 else 0)
    | .error e =>
      Resource.log .error "restore" "default sound restore failed"
        [("key", .text kind.settingKey), ("error", .shown e.message)]
      each config kinds

def all (config : RestoreConfig) : Program Resources Nat :=
  if config.enabled then each config config.slots.kinds else return 0

end AlertSound.Restore
