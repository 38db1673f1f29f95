import AlertSound.Collaborators

/-!
The file behind a locator. Indexed sounds are looked up; an entry that is not
alone, or has no path, is no file.
-/
namespace AlertSound

def dataPath (r : Locator) : Program Resources (Except QueryError (Option File.Path)) := do
  match r.origin with
  | .localFile => return .ok r.filePath?
  | .settingsDefault => return .ok none
  | .mediaIndex | .drmIndex =>
    match ← Resource.query r [.data] with
    | .error e => return .error e
    | .ok cursor =>
      Resource.withCursor cursor do
        if (← Resource.count cursor) != 1 then return .ok none
        else if !(← Resource.moveToFirst cursor) then return .ok none
        else return .ok ((← Resource.cell cursor 0).map File.ofText)

end AlertSound
