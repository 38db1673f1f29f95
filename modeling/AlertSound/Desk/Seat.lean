import AlertSound.Session.Operation

/-!
A place for one session over collaborators that keep a state of their own. A new
session is made before the one it replaces is dropped.
-/
namespace AlertSound.Desk

structure Seat (σ : Type) where
  state : σ
  session : Option Session
  /-- How many sessions have sat here. -/
  made : Nat
  /-- Tokens that others present, which no session has. -/
  reserved : List Token

namespace Seat

variable {σ : Type}

def empty (state : σ) (reserved : List Token) : Seat σ := ⟨state, none, 0, reserved⟩

def leave (seat : Seat σ) (handler : Handler Studio σ) : Seat σ :=
  match seat.session with
  | none => seat
  | some session =>
    { seat with state := (session.drop.run handler seat.state).2, session := none }

def renew (seat : Seat σ) (handler : Handler Studio σ) (config : Config) (hasRemote : Bool) :
    Seat σ :=
  let surface := if hasRemote then some (.ofSession seat.reserved seat.made) else none
  { seat.leave handler with session := some (.new config surface), made := seat.made + 1 }

/-- No answer if there is no session. -/
def operate (seat : Seat σ) (handler : Handler Studio σ) (operation : Session.Operation) :
    Option Session.Reply × Seat σ :=
  match seat.session with
  | none => (none, seat)
  | some session =>
    let ((reply, session), state) := (session.perform operation).run handler seat.state
    (some reply, { seat with state, session := some session })

end Seat
end AlertSound.Desk
