import AlertSound.Playback.Operation
import AlertSound.Session.Operation

/-!
What the steps of working a desk answer.
-/
namespace AlertSound.Desk

/-- What a cursor shows: its first cell before it is moved, whether it moves, the
first cells of its row, its count, and the first cell as a number. -/
structure CursorView where
  before : Option String
  first : Bool
  row : List (Option String)
  count : Nat
  id : Option Int64

/-- What a cursor shows before and after it has been closed. -/
structure ClosedView where
  first : Bool
  row : List (Option String)
  count : Nat
  after : Option String

inductive Result where
  | done
  | noSession
  | noHandle
  | session (reply : Session.Reply)
  | text (text : Option String)
  | locator (reference : Option Locator)
  | flag (value : Bool)
  | number (n : Nat)
  | path (path : Option File.Path)
  | cursor (view : CursorView)
  | closedCursor (view : ClosedView)
  | player (source : String) (playing : Bool)
  | noPlayer
  | asset (asset : Asset)
  | queryFailed (e : QueryError)
  | settingsFailed (e : SettingsError)
  | restoreFailed (e : Restore.Error)
  | fallbackFailed (e : Fallback.Error)
  | engineFailed (e : EngineError)
  | transportFailed (e : TransportError)
  | assetFailed (e : AssetError)

namespace Result

def ofSession : Option Session.Reply → Result
  | none => .noSession
  | some answer => .session answer

def ofEngine : Engine.Reply → Result
  | .done => .done
  | .flag value => .flag value
  | .failed e => .engineFailed e

def ofSetting : Except SettingsError Unit → Result
  | .ok () => .done
  | .error e => .settingsFailed e

def ofAsset : Except AssetError Asset → Result
  | .ok opened => .asset opened
  | .error e => .assetFailed e

def ofTransport {α : Type} (tell : α → Result) : Except TransportError α → Result
  | .ok value => tell value
  | .error e => .transportFailed e

end Result

/-- The first four cells of the current row. -/
def firstCells (cursor : CursorId) : Program Resources (List (Option String)) := do
  let c0 ← Resource.cell cursor 0
  let c1 ← Resource.cell cursor 1
  let c2 ← Resource.cell cursor 2
  let c3 ← Resource.cell cursor 3
  return [c0, c1, c2, c3]

/-- Reads everything a cursor gives, before and after it is moved, and closes it. -/
def inspect (cursor : CursorId) : Program Resources CursorView :=
  Resource.withCursor cursor do
    let before ← Resource.cell cursor 0
    let first ← Resource.moveToFirst cursor
    let row ← firstCells cursor
    let count ← Resource.count cursor
    return { before, first, row, count, id := Cursor.cellNumber? row.head?.join }

def closeTimes (cursor : CursorId) : Nat → Program Resources Unit
  | 0 => return
  | n + 1 => do
    Resource.close cursor
    closeTimes cursor n

/-- Reads a cursor, closes it a number of times and reads what is left. -/
def inspectClosed (cursor : CursorId) (closes : Nat) : Program Resources ClosedView := do
  let first ← Resource.moveToFirst cursor
  let row ← firstCells cursor
  closeTimes cursor closes
  let count ← Resource.count cursor
  let after ← Resource.cell cursor 0
  return { first, row, count, after }

/-- What becomes of a fallback player, which is dropped again. -/
def showPlayer : Option Player → Program Stage Result
  | none => return .noPlayer
  | some player => do
    let playing ← player.isPlaying
    player.drop
    return .player player.source playing

end AlertSound.Desk
