import AlertSound.Asset
import AlertSound.Json.Dictionary
import AlertSound.Remote.Worker
import AlertSound.Session
import AlertSound.Volume

/-!
Collaborators in memory that count what they are asked to do. Sounds can be made
to fail by their locator, settings and rows can be put in, and the remote player
answers as it is told.
-/
namespace AlertSound

namespace Tally

structure Handle where
  failsPrepare : Bool
  playing : Bool
  released : Bool

structure EngineTally where
  failOpen : List String
  failPrepare : List String
  failDescriptors : Bool
  opened : Nat
  started : Nat
  stopped : Nat
  released : Nat
  live : Nat
  /-- What was opened, in order. -/
  sources : List String
  handles : Array Handle

structure IndexRow where
  id : String
  data : String
  title : String
  displayName : Option String

def IndexRow.cell (row : IndexRow) : Column → Option String
  | .id => some row.id
  | .data => some row.data
  | .title => some row.title
  | .displayName => row.displayName

def IndexRow.project (row : IndexRow) (columns : List Column) : Row := columns.map row.cell

structure IndexTally where
  /-- Rows with the locator they are found under, in the order they were put in. -/
  rows : List (String × IndexRow)
  shipped : List IndexRow
  denied : List String
  opened : Nat
  closed : Nat
  cursors : Array Cursor

structure SettingsTally where
  values : Dictionary
  reads : Nat
  writes : Nat

structure RemoteTally where
  failing : Bool
  playing : Bool
  plays : Nat
  stops : Nat
  queries : Nat
  tokens : List Token
  /-- What was accepted for playing. -/
  played : List String

end Tally

structure Tally where
  engine : Tally.EngineTally
  index : Tally.IndexTally
  settings : Tally.SettingsTally
  volume : VolumeTable
  volumeQueries : Nat
  assetOpens : Nat
  assetMissing : Bool
  remote : Tally.RemoteTally

namespace Tally

/-- Nothing has been asked yet; every stream has the level 5. -/
def fresh : Tally where
  engine :=
    { failOpen := [], failPrepare := [], failDescriptors := false, opened := 0, started := 0,
      stopped := 0, released := 0, live := 0, sources := [], handles := #[] }
  index := { rows := [], shipped := [], denied := [], opened := 0, closed := 0, cursors := #[] }
  settings := { values := .empty, reads := 0, writes := 0 }
  volume := .uniform 5
  volumeQueries := 0
  assetOpens := 0
  assetMissing := false
  remote :=
    { failing := false, playing := false, plays := 0, stops := 0, queries := 0, tokens := [],
      played := [] }

def remoteCalls (t : Tally) : Nat := t.remote.plays + t.remote.stops + t.remote.queries

/-- Every call any of the collaborators has seen. -/
def totalCalls (t : Tally) : Nat :=
  t.engine.opened + t.index.opened + t.settings.reads + t.settings.writes + t.volumeQueries +
    t.assetOpens + t.remoteCalls

/-- How long the bundled sound is. -/
def assetLength : Nat := 418

def openAsset (t : Tally) : Except AssetError Asset × Tally :=
  let result : Except AssetError Asset :=
    if t.assetMissing then .error (.notFound AssetDirectory.ordinaryName)
    else .ok {
      file := .file (List.replicate assetLength 0)
      offset := 0
      length := some (UInt64.ofNat assetLength) }
  (result, { t with assetOpens := t.assetOpens + 1 })

def changeIndex (t : Tally) (f : IndexTally → IndexTally) : Tally :=
  { t with index := f t.index }

def openCursor (t : Tally) (rows : List Row) : Except QueryError CursorId × Tally :=
  (.ok t.index.cursors.size, t.changeIndex fun index =>
    { index with opened := index.opened + 1, cursors := index.cursors.push (.ofRows rows) })

def query (t : Tally) (r : Locator) (columns : List Column) :
    Except QueryError CursorId × Tally :=
  if t.index.denied.contains r.text then (.error (.permissionDenied r.text), t)
  else t.openCursor ((t.index.rows.filter (·.1 == r.text)).map fun (_, row) => row.project columns)

def find (t : Tally) (name : String) : Except QueryError CursorId × Tally :=
  t.openCursor ((t.index.shipped.filter (·.displayName == some name)).map (·.project [.id]))

def cursor (t : Tally) (id : CursorId) : Cursor := (t.index.cursors[id]?).getD (.ofRows [])

/-- Only the first close of a cursor counts. -/
def close (t : Tally) (id : CursorId) : Tally :=
  match t.index.cursors[id]? with
  | none => t
  | some cursor =>
    if cursor.closed then t
    else t.changeIndex fun index =>
      { index with
        closed := index.closed + 1
        cursors := index.cursors.setIfInBounds id cursor.close }

def resources : Handler Resources Tally
  | .volume stream, t => (t.volume.level stream, { t with volumeQueries := t.volumeQueries + 1 })
  | .setting key, t =>
    (t.settings.values.get? key,
      { t with settings := { t.settings with reads := t.settings.reads + 1 } })
  | .putSetting key value, t =>
    (.ok (), { t with settings := { t.settings with
      values := t.settings.values.insert key value, writes := t.settings.writes + 1 } })
  | .query r columns, t => t.query r columns
  | .find name, t => t.find name
  | .count id, t => ((t.cursor id).count, t)
  | .moveToFirst id, t =>
    let (moved, cursor) := (t.cursor id).moveToFirst
    (moved, t.changeIndex fun index =>
      { index with cursors := index.cursors.setIfInBounds id cursor })
  | .cell id column, t => ((t.cursor id).text? column, t)
  | .close id, t => ((), t.close id)
  | .openAsset, t => t.openAsset
  | .duplicate file, t => (.ok file, t)
  | .log _, t => ((), t)

def changeEngine (t : Tally) (f : EngineTally → EngineTally) : Tally :=
  { t with engine := f t.engine }

def openSource (t : Tally) (source : Source) : Except EngineError HandleId × Tally :=
  let text := source.text
  if t.engine.failOpen.contains text then (.error (.permissionDenied text), t)
  else
    let failsPrepare := match source with
      | .locator _ => t.engine.failPrepare.contains text
      | .descriptor .. => t.engine.failDescriptors
    (.ok t.engine.handles.size, t.changeEngine fun engine =>
      { engine with
        opened := engine.opened + 1
        live := engine.live + 1
        sources := engine.sources ++ [text]
        handles := engine.handles.push { failsPrepare, playing := false, released := false } })

def handle (t : Tally) (id : HandleId) : Handle :=
  (t.engine.handles[id]?).getD ⟨false, false, true⟩

def setHandle (id : HandleId) (handle : Handle) (engine : EngineTally) : EngineTally :=
  { engine with handles := engine.handles.setIfInBounds id handle }

def start (t : Tally) (id : HandleId) : Except EngineError Unit × Tally :=
  let handle := t.handle id
  if handle.released then (.error (.illegalState "start after release"), t)
  else
    (.ok (), t.changeEngine fun engine =>
      { setHandle id { handle with playing := true } engine with started := engine.started + 1 })

def release (t : Tally) (id : HandleId) : Tally :=
  let handle := t.handle id
  if handle.released then t
  else t.changeEngine fun engine =>
    { setHandle id { handle with playing := false, released := true } engine with
      released := engine.released + 1, live := engine.live - 1 }

def engines : Handler Engines Tally
  | .openSource source _, t => t.openSource source
  | .prepare id, t =>
    (if (t.handle id).failsPrepare then .error (.io (.other "unsupported format")) else .ok (), t)
  | .start id, t => t.start id
  | .stop id, t =>
    ((), t.changeEngine fun engine =>
      { setHandle id { t.handle id with playing := false } engine with
        stopped := engine.stopped + 1 })
  | .reset id, t => ((), t.changeEngine (setHandle id { t.handle id with playing := false }))
  | .release id, t => ((), t.release id)
  | .isPlaying id, t => ((t.handle id).playing, t)

def stage : Handler Stage Tally := Handler.sum resources engines

/-- A remote call: it is counted, and then fails if calls are to fail. -/
def remoteCall {α : Type} (t : Tally) (count : RemoteTally → RemoteTally) (token : Token)
    (answer : RemoteTally → α × RemoteTally) : Except TransportError α × Tally :=
  let remote := count { t.remote with tokens := t.remote.tokens ++ [token] }
  if remote.failing then (.error .disconnected, { t with remote })
  else
    let (value, remote) := answer remote
    (.ok value, { t with remote })

def remotes : Handler Remotes Tally
  | .play token r _, t =>
    t.remoteCall (fun remote => { remote with plays := remote.plays + 1 }) token fun remote =>
      ((), { remote with played := remote.played ++ [r.text] })
  | .stop token, t =>
    t.remoteCall (fun remote => { remote with stops := remote.stops + 1 }) token fun remote =>
      ((), { remote with playing := false })
  | .isPlaying token, t =>
    t.remoteCall (fun remote => { remote with queries := remote.queries + 1 }) token fun remote =>
      (remote.playing, remote)

def studio : Handler Studio Tally := Handler.sum stage remotes

end Tally
end AlertSound
