import AlertSound.Playback.Player

/-!
The remote player. It serves one call at a time and keeps at most one player for
each client. A call that cannot be played is answered all the same: what became
of it shows only in whether something is playing.
-/
namespace AlertSound.Remote

structure Worker where
  players : List (Token × Player)

namespace Worker

def idle : Worker := ⟨[]⟩

def player? (w : Worker) (token : Token) : Option Player := List.lookup token w.players

def without (w : Worker) (token : Token) : Worker :=
  ⟨w.players.filter fun entry => entry.1 != token⟩

/-- Drops the player of a client. -/
def serveStop (w : Worker) (token : Token) : Program Stage Worker := do
  match w.player? token with
  | none => return w
  | some player =>
    player.drop
    return w.without token

def report (level : Log.Level) (message : String) (token : Token) (r : Locator)
    (e : Option EngineError) : Program Resources Unit :=
  Resource.log level "remote" message
    ([("token", .shown token.text), ("reference", .shown r.text)] ++
      (e.map fun e => ("error", Log.FieldValue.shown e.message)).toList)

/-- The player a client had is dropped before the new one is opened. -/
def servePlay (w : Worker) (token : Token) (r : Locator) (attributes : Attributes) :
    Program Stage Worker := do
  let w ← w.serveStop token
  match ← Player.openPrepared (.locator r) attributes with
  | .error e =>
    report .warn "delegated open failed" token r (some e)
    return w
  | .ok player =>
    match ← player.start with
    | .ok () =>
      report .debug "delegated playback started" token r none
      return ⟨(token, player) :: w.players⟩
    | .error e =>
      report .warn "delegated start failed" token r (some e)
      player.drop
      return w

def serveIsPlaying (w : Worker) (token : Token) : Program Stage Bool := do
  match w.player? token with
  | none => return false
  | some player => player.isPlaying

def dropAll : List (Token × Player) → Program Stage Unit
  | [] => return
  | (_, player) :: rest => do
    player.drop
    dropAll rest

def shutDown (w : Worker) : Program Stage Unit := do
  Resource.log .debug "remote" "remote player stopping"
    [("live", .shown (toString w.players.length))]
  dropAll w.players

end Worker
end AlertSound.Remote
