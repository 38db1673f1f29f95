import AlertSound.Desk.Result
import AlertSound.Desk.Seat
import AlertSound.Tally.Basic

/-!
Working counted collaborators by steps. Remote calls go to the counted remote
player until a worker has been started over the counted engine; from then on they
go to the worker, also when it has been shut down. The session keeps the counted
remote player.
-/
namespace AlertSound.Tally

inductive WorkerState where
  | none
  | up (worker : Remote.Worker)
  | gone

structure Desk where
  seat : AlertSound.Desk.Seat Tally
  worker : WorkerState
  handles : Array HandleId

inductive Change where
  | failOpen (r : Locator)
  | failPrepare (r : Locator)
  | failDescriptors (on : Bool)
  | addRow (r : Locator) (id data title : String)
  | addShipped (name : String) (id : Int64)
  | deny (r : Locator)
  | setting (key value : String)
  | volume (level : Nat)
  | streamVolume (stream : SoundStream) (level : Nat)
  | assetMissing (on : Bool)
  | remoteFailing (on : Bool)
  | remotePlaying (on : Bool)

inductive Step where
  | session (operation : Session.Operation)
  | dropSession
  | ordinarySession
  | change (change : Change)
  | storedValue (key : String)
  | setting (key : String)
  | putSetting (key value : String)
  | defaultLocator (kind : DefaultKind)
  | volume (stream : SoundStream)
  | asset
  | query (r : Locator) (columns : List Column) (closes : Nat)
  | find (name : String) (closes : Nat)
  | openSource (r : Locator) (attributes : Attributes)
  | onHandle (n : Nat) (operation : Engine.Operation)
  | remotePlay (token : Token) (r : Locator) (attributes : Attributes)
  | remoteStop (token : Token)
  | remoteIsPlaying (token : Token)
  | startWorker
  | shutWorker

/-- A shipped ringtone is also found under its locator. -/
def addShipped (name : String) (id : Int64) (index : IndexTally) : IndexTally :=
  let stem := (File.lastName? (File.ofText name)).map fun last =>
    File.display (File.splitExtension last).1
  let row : IndexRow :=
    { id := toString id.toInt
      data := "/system/media/audio/ringtones/" ++ name
      title := stem.getD name
      displayName := some name }
  { index with
    rows := index.rows ++ [((Locator.media .inside id).text, row)]
    shipped := index.shipped ++ [row] }

def apply (t : Tally) : Change → Tally
  | .failOpen r => t.changeEngine fun e => { e with failOpen := r.text :: e.failOpen }
  | .failPrepare r => t.changeEngine fun e => { e with failPrepare := r.text :: e.failPrepare }
  | .failDescriptors on => t.changeEngine fun e => { e with failDescriptors := on }
  | .addRow r id data title => t.changeIndex fun index =>
    { index with rows := index.rows ++ [(r.text, { id, data, title, displayName := none })] }
  | .addShipped name id => t.changeIndex (Tally.addShipped name id)
  | .deny r => t.changeIndex fun index => { index with denied := r.text :: index.denied }
  | .setting key value =>
    { t with settings := { t.settings with values := t.settings.values.insert key value } }
  | .volume level => { t with volume := { t.volume with common := level } }
  | .streamVolume stream level => { t with volume := t.volume.withStream stream level }
  | .assetMissing on => { t with assetMissing := on }
  | .remoteFailing on => { t with remote := { t.remote with failing := on } }
  | .remotePlaying on => { t with remote := { t.remote with playing := on } }

namespace Desk

open AlertSound.Desk (Result)

def tally (desk : Desk) : Tally := desk.seat.state

def withTally (desk : Desk) (t : Tally) : Desk :=
  { desk with seat := { desk.seat with state := t } }

def new (config : Config) (reserved : List Token) : Desk :=
  { seat := (AlertSound.Desk.Seat.empty fresh reserved).renew studio config true
    worker := .none
    handles := #[] }

def dropSession (desk : Desk) : Desk := { desk with seat := desk.seat.leave studio }

def resource {α : Type} (desk : Desk) (p : Program Resources α) (tell : α → Result) :
    Result × Desk :=
  let (value, t) := p.run resources desk.tally
  (tell value, desk.withTally t)

def openedCursor (desk : Desk) (p : Program Resources (Except QueryError CursorId))
    (closes : Nat) : Result × Desk :=
  let work : Program Resources Result := do
    match ← p with
    | .error e => return .queryFailed e
    | .ok cursor => return .closedCursor (← AlertSound.Desk.inspectClosed cursor closes)
  desk.resource work id

/-- A remote call, to the worker if one was ever started. -/
def remoteCall {α : Type} (desk : Desk) (direct : Program Remotes (Except TransportError α))
    (served : Remote.Worker → Program Stage (α × Remote.Worker)) (tell : α → Result) :
    Result × Desk :=
  match desk.worker with
  | .gone => (.transportFailed .disconnected, desk)
  | .none =>
    let (result, t) := direct.run remotes desk.tally
    (.ofTransport tell result, desk.withTally t)
  | .up worker =>
    let ((value, worker), t) := (served worker).run Tally.stage desk.tally
    (tell value, { desk.withTally t with worker := .up worker })

def shutWorker (desk : Desk) : Desk :=
  match desk.worker with
  | .up worker =>
    let (_, t) := worker.shutDown.run Tally.stage desk.tally
    { desk.withTally t with worker := .gone }
  | _ => desk

def openSource (desk : Desk) (source : Source) (attributes : Attributes) : Result × Desk :=
  let (result, t) := (Engine.openSource source attributes).run engines desk.tally
  let desk := desk.withTally t
  match result with
  | .error e => (.engineFailed e, desk)
  | .ok id => (.number desk.handles.size, { desk with handles := desk.handles.push id })

def step (desk : Desk) : Step → Result × Desk
  | .session operation =>
    let (reply, seat) := desk.seat.operate studio operation
    (.ofSession reply, { desk with seat })
  | .dropSession => (.done, desk.dropSession)
  | .ordinarySession => (.done, { desk with seat := desk.seat.renew studio .ordinary true })
  | .change change => (.done, desk.withTally (Tally.apply desk.tally change))
  | .storedValue key => (.text (desk.tally.settings.values.get? key), desk)
  | .setting key => desk.resource (Resource.setting key) .text
  | .putSetting key value => desk.resource (Resource.putSetting key value) .ofSetting
  | .defaultLocator kind => desk.resource (defaultLocator? kind) fun reference =>
    .text (reference.map Locator.text)
  | .volume stream => desk.resource (Resource.volume stream) .number
  | .asset => desk.resource Resource.openAsset .ofAsset
  | .query r columns closes => desk.openedCursor (Resource.query r columns) closes
  | .find name closes => desk.openedCursor (Resource.find name) closes
  | .openSource r attributes => desk.openSource (.locator r) attributes
  | .onHandle n operation =>
    match desk.handles[n]? with
    | none => (.noHandle, desk)
    | some id =>
      let (reply, t) := (Engine.perform id operation).run engines desk.tally
      (.ofEngine reply, desk.withTally t)
  | .remotePlay token r attributes =>
    desk.remoteCall (Remote.play token r attributes)
      (fun worker => return ((), ← worker.servePlay token r attributes)) fun _ => .done
  | .remoteStop token =>
    desk.remoteCall (Remote.stop token) (fun worker => return ((), ← worker.serveStop token))
      fun _ => .done
  | .remoteIsPlaying token =>
    desk.remoteCall (Remote.isPlaying token)
      (fun worker => return (← worker.serveIsPlaying token, worker)) .flag
  | .startWorker => (.done, { desk.shutWorker with worker := .up .idle })
  | .shutWorker => (.done, desk.shutWorker)

end Desk
end AlertSound.Tally
