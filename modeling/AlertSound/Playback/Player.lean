import AlertSound.Collaborators

/-!
A player owns one handle of an engine. It is opened and prepared at once, and it
ends in one way only: the handle is stopped, reset and released.
-/
namespace AlertSound

structure Player where
  handle : HandleId
  source : String
  deriving DecidableEq

namespace Player

def drop (player : Player) : Program Stage Unit := do
  Engine.stop player.handle
  Engine.reset player.handle
  Engine.release player.handle
  Resource.log .debug "playback" "released local player" [("source", .shown player.source)]

/-- A handle that cannot be prepared is not kept. -/
def openPrepared (source : Source) (attributes : Attributes) :
    Program Stage (Except EngineError Player) := do
  match ← Engine.openSource source attributes with
  | .error e => return .error e
  | .ok handle =>
    let player : Player := { handle, source := source.text }
    match ← Engine.prepare handle with
    | .ok () => return .ok player
    | .error e =>
      player.drop
      return .error e

def start (player : Player) : Program Stage (Except EngineError Unit) :=
  Engine.start player.handle

def isPlaying (player : Player) : Program Stage Bool := Engine.isPlaying player.handle

/-- Opened, prepared and started, or not kept. -/
def openStarted (source : Source) (attributes : Attributes) :
    Program Stage (Except EngineError Player) := do
  match ← openPrepared source attributes with
  | .error e => return .error e
  | .ok player =>
    match ← player.start with
    | .ok () => return .ok player
    | .error e =>
      player.drop
      return .error e

end Player
end AlertSound
