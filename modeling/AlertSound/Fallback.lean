import AlertSound.Playback.Player
import AlertSound.Resolution

/-!
The bundled sound. It is played only in place of a default ringtone that is
configured, and only if its stream can be heard.
-/
namespace AlertSound.Fallback

inductive Error where
  | silent
  | notDefaultRingtone
  | asset (cause : AssetError)
  | engine (cause : EngineError)

def Error.message : Error → String
  | .silent => "stream volume is zero"
  | .notDefaultRingtone => "not a default ringtone with a configured target"
  | .asset cause => cause.message
  | .engine cause => "fallback playback failed: " ++ cause.message

def replacesDefaultRingtone (reference : Option Locator) : Program Resources Bool := do
  match reference with
  | none => return false
  | some r =>
    if r.defaultKind?.any DefaultKind.isRingtone then return (← resolveActual r).isSome
    else return false

def openAsset : Program Resources (Except AssetError Source) := do
  match ← Resource.openAsset with
  | .error e => return .error e
  | .ok asset =>
    match ← Resource.duplicate asset.file with
    | .error e => return .error (.io e)
    | .ok file => return .ok (.descriptor file asset.offset asset.length)

def tryPlay (reference : Option Locator) (attributes : Attributes) :
    Program Stage (Except Error Player) := do
  if (← Resource.volume attributes.stream) = 0 then return .error .silent
  else if !(← replacesDefaultRingtone reference) then return .error .notDefaultRingtone
  else
    match ← openAsset with
    | .error e => return .error (.asset e)
    | .ok source =>
      match ← Player.openStarted source attributes with
      | .error e => return .error (.engine e)
      | .ok player => return .ok player

/-- The player, if the bundled sound plays. Why it does not is logged. -/
def play (reference : Option Locator) (attributes : Attributes) :
    Program Stage (Option Player) := do
  match ← tryPlay reference attributes with
  | .ok player =>
    Resource.log .info "fallback" "playing fallback ringtone" []
    return some player
  | .error .silent => return none
  | .error .notDefaultRingtone =>
    Resource.log .warn "fallback" "not playing fallback"
      [("reference", .shown ((reference.map Locator.text).getD ""))]
    return none
  | .error e =>
    Resource.log .error "fallback" "could not play fallback ringtone" [("error", .shown e.message)]
    return none

end AlertSound.Fallback
