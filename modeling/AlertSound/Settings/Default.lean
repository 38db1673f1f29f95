import AlertSound.Collaborators

/-!
The sound a setting names as the default of a kind. A setting that holds no
locator counts as unset.
-/
namespace AlertSound

def defaultLocator? (kind : DefaultKind) : Program Resources (Option Locator) := do
  match ← Resource.setting kind.settingKey with
  | none => return none
  | some raw =>
    match Locator.parse raw with
    | .ok r => return some r
    | .error e =>
      Resource.log .warn "settings" "ignoring malformed default sound setting"
        [("key", .text kind.settingKey), ("error", .shown e.message)]
      return none

end AlertSound
