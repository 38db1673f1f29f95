import AlertSound.Fallback
import AlertSound.Restore

/-!
A session plays one sound: here if it can be opened, else through the remote
player, else the bundled sound in its place. Setting the sound or its attributes
opens it anew. At any time the session holds a player of its own, or has
delegated, or neither.
-/
namespace AlertSound

inductive Session.Backing where
  | unbound
  | held (player : Player)
  | delegated
  deriving DecidableEq

def Session.Backing.name : Session.Backing → String
  | .unbound => "Unbound"
  | .held _ => "LocalBound"
  | .delegated => "RemoteBound"

structure Session where
  labels : Labels
  restore : RestoreConfig
  /-- The identity on remote calls, if the session may delegate. -/
  delegate : Option Token
  attributes : Attributes
  reference : Option Locator
  title : Option String
  backing : Session.Backing

namespace Session

/-- `surface` is the token to delegate with, if there is a remote player. -/
def new (config : Config) (surface : Option Token) : Session where
  labels := config.labels
  restore := config.restore
  delegate := if config.allowRemote then surface else none
  attributes := .ordinary
  reference := none
  title := none
  backing := .unbound

inductive OpenError where
  | unresolved (r : Locator)
  | engine (cause : EngineError)

def OpenError.message : OpenError → String
  | .unresolved r => "no default sound configured for " ++ r.text
  | .engine cause => cause.message

def log (level : Log.Level) (message : String) (fields : List (String × Log.FieldValue)) :
    Program Resources Unit :=
  Resource.log level "session" message fields

def allowsRemote (s : Session) : Bool := s.delegate.isSome

def stream (s : Session) : SoundStream := s.attributes.stream

/-- Ends what the session plays. A delegation is stopped once, even if that fails. -/
def releaseBacking (s : Session) : Program Studio Session := do
  let s' := { s with backing := .unbound }
  match s.backing with
  | .unbound => return s'
  | .held player =>
    player.drop
    return s'
  | .delegated =>
    match s.delegate with
    | none => return s'
    | some token =>
      match ← Remote.stop token with
      | .ok () => return s'
      | .error e =>
        log .warn "problem stopping ringtone" [("error", .shown e.message)]
        return s'

def openHere (s : Session) (r : Locator) : Program Stage (Except OpenError Player) := do
  match ← resolveActual r with
  | none => return .error (.unresolved r)
  | some actual =>
    match ← Player.openPrepared (.locator actual) s.attributes with
    | .ok player => return .ok player
    | .error e => return .error (.engine e)

/-- Opens the sound, after the defaults have been restored. -/
def openReference (s : Session) (r : Locator) : Program Studio Session := do
  if s.restore.enabled then
    let _ ← Restore.all s.restore
  match ← s.openHere r with
  | .ok player =>
    log .debug "created local player"
      [("reference", .shown r.text), ("source", .text player.source)]
    return { s with backing := .held player }
  | .error e =>
    let fields := [("reference", Log.FieldValue.shown r.text), ("error", .shown e.message)]
    if s.allowsRemote then
      log .debug "problem opening; delegating to remote player" fields
    else
      log .warn "local open failed and remote playback not allowed" fields
    return s

def bind (s : Session) : Program Studio Session := do
  let s ← s.releaseBacking
  match s.reference with
  | none => return s
  | some r => s.openReference r

/-- A new sound has a new title. -/
def setReference (s : Session) (reference : Option Locator) : Program Studio Session :=
  { s with title := none, reference }.bind

/-- The title is kept. -/
def setAttributes (s : Session) (attributes : Attributes) : Program Studio Session :=
  { s with attributes }.bind

inductive Error where
  | invalidStream (number : Int)

def Error.message : Error → String
  | .invalidStream number => "invalid legacy stream type " ++ toString number

def setStreamNumber (s : Session) (number : Int) : Program Studio (Except Error Session) := do
  match SoundStream.ofNumber? number with
  | none => return .error (.invalidStream number)
  | some stream => return .ok (← s.setAttributes (.ofStream stream))

/-- Looked up the first time it is asked for. -/
def getTitle (s : Session) : Program Studio (String × Session) := do
  match s.title with
  | some title => return (title, s)
  | none =>
    let title ← Title.resolve s.labels s.reference .follow
    return (title, { s with title := some title })

def setTitle (s : Session) (title : String) : Session := { s with title := some title }

/-- The bundled sound takes the place of what was played before, if it plays. -/
def playFallback (s : Session) : Program Studio (Bool × Session) := do
  match ← Fallback.play s.reference s.attributes with
  | none => return (false, s)
  | some player =>
    let s ← s.releaseBacking
    return (true, { s with backing := .held player })

/-- Hands the sound to the remote player; none if there is nothing to hand over. -/
def delegatePlay (s : Session) : Program Studio (Option (Except TransportError Unit)) := do
  match s.delegate, s.reference with
  | some token, some r =>
    match ← resolveActual r with
    | none =>
      log .debug "no default configured; nothing to delegate" [("reference", .shown r.text)]
      return none
    | some actual =>
      let canonical := actual.canonical
      log .debug "delegating playback"
        [("token", .shown token.text), ("reference", .shown canonical.text)]
      return some (← Remote.play token canonical s.attributes)
  | _, _ => return none

/-- The last resort; the message is logged if it fails too. -/
def playInstead (s : Session) (message : String) (fields : List (String × Log.FieldValue)) :
    Program Studio Session := do
  let (played, s) ← s.playFallback
  if !played then log .warn message fields
  return s

def logMuted (s : Session) : Program Resources Unit :=
  log .debug "stream muted; not playing" [("stream", .shown s.stream.name)]

/-- A muted sound stays open but is not started. -/
def play (s : Session) : Program Studio Session := do
  let volume ← Resource.volume s.stream
  match s.backing with
  | .held player =>
    if volume = 0 then
      s.logMuted
      return s
    match ← player.start with
    | .ok () => return s
    | .error e =>
      log .warn "local start failed" [("error", .shown e.message)]
      return s
  | _ =>
    if volume = 0 then
      s.logMuted
      return s
    match ← s.delegatePlay with
    | some (.ok ()) => return { s with backing := .delegated }
    | some (.error e) => s.playInstead "problem playing ringtone" [("error", .shown e.message)]
    | none => s.playInstead "neither local nor remote playback available" []

def stop (s : Session) : Program Studio Session := s.releaseBacking

def isPlaying (s : Session) : Program Studio Bool := do
  match s.backing, s.delegate with
  | .held player, _ => player.isPlaying
  | _, some token =>
    match ← Remote.isPlaying token with
    | .ok playing => return playing
    | .error e =>
      log .warn "problem checking ringtone" [("error", .shown e.message)]
      return false
  | _, none =>
    log .debug "neither local nor remote playback available" []
    return false

/-- The end of a session releases its own player. A delegation goes on. -/
def drop (s : Session) : Program Studio Unit := do
  match s.backing with
  | .held player => player.drop
  | .unbound | .delegated => return

end Session
end AlertSound
