import AlertSound.Desk.Result
import AlertSound.Desk.Seat
import AlertSound.Host.Basic

/-!
Working a host by steps: operations of a session, direct calls of collaborators,
and changes of the host itself. A desk is a host with the session, the handles
and the players that the steps have made.
-/
namespace AlertSound.Host

structure Desk where
  seat : AlertSound.Desk.Seat Host
  config : Config
  handles : Array HandleId
  players : Array (Option Player)

inductive EngineName where
  | own
  | remote

inductive Change where
  | volume (table : VolumeTable)
  /-- Only a remote player that is a script can be told what to answer. -/
  | remote (fault : Option TransportError) (playing : Bool)
  | index (script : IndexScript)
  | assets (assets : AssetSource)
  | setting (key value : String)
  | lockedKeys (keys : List String)
  | rules (engine : EngineName) (rules : List (String × Rule))
  | endSounds

inductive Step where
  | session (operation : Session.Operation)
  | dropSession
  | newSession
  | resolveTitle (reference : Option Locator) (indirection : Title.Indirection)
  | resolveActual (r : Locator)
  | restoreEnabled
  | restoreAll
  | restoreOne (kind : DefaultKind)
  | fallbackTry (reference : Option Locator) (attributes : Attributes)
  | fallbackPlay (reference : Option Locator) (attributes : Attributes)
  | query (r : Locator) (columns : List Column)
  | find (name : String)
  | dataPath (r : Locator)
  | setting (key : String)
  | putSetting (key value : String)
  | defaultLocator (kind : DefaultKind)
  | fileText (path : File.Path)
  | openSource (source : Source) (attributes : Attributes)
  | onHandle (n : Nat) (operation : Engine.Operation)
  | openPlayer (source : Source) (attributes : Attributes)
  | startPlayer (n : Nat)
  | playerIsPlaying (n : Nat)
  | playerSource (n : Nat)
  | dropPlayer (n : Nat)
  | remotePlay (token : Token) (r : Locator) (attributes : Attributes)
  | remoteStop (token : Token)
  | remoteIsPlaying (token : Token)
  | remoteShutdown
  | asset
  | volume (stream : SoundStream)
  | change (change : Change)

namespace Desk

open AlertSound.Desk (Result)

def host (desk : Desk) : Host := desk.seat.state

def withHost (desk : Desk) (host : Host) : Desk :=
  { desk with seat := { desk.seat with state := host } }

/-- Runs a program of the resources and tells its outcome. -/
def resource {α : Type} (desk : Desk) (p : Program Resources α) (tell : α → Result) :
    Result × Desk :=
  let (value, host) := desk.host.onResources p
  (tell value, desk.withHost host)

def stage {α : Type} (desk : Desk) (p : Program Stage α) (tell : α → Result) : Result × Desk :=
  let (value, host) := desk.host.onStage p
  (tell value, desk.withHost host)

def newSession (desk : Desk) : Desk :=
  { desk with seat := desk.seat.renew Host.handler desk.config desk.host.hasRemote }

def dropSession (desk : Desk) : Desk := { desk with seat := desk.seat.leave Host.handler }

def operate (desk : Desk) (operation : Session.Operation) : Result × Desk :=
  let (reply, seat) := desk.seat.operate Host.handler operation
  (.ofSession reply, { desk with seat })

def onHandle (desk : Desk) (n : Nat) (operation : Engine.Operation) : Result × Desk :=
  match desk.handles[n]? with
  | none => (.noHandle, desk)
  | some id => desk.stage (Engine.perform id operation) .ofEngine

def withPlayer (desk : Desk) (n : Nat) (f : Player → Result × Desk) : Result × Desk :=
  match (desk.players[n]?).join with
  | none => (.noHandle, desk)
  | some player => f player

def remoteCall {α : Type} (desk : Desk) (p : Program Remotes (Except TransportError α))
    (tell : α → Result) : Result × Desk :=
  let (result, host) := p.run Host.remotes desk.host
  (.ofTransport tell result, desk.withHost host)

def changeMachine (desk : Desk) (f : Machine → Machine) : Desk :=
  desk.withHost { desk.host with machine := f desk.host.machine }

def apply (desk : Desk) : Change → Desk
  | .volume volume => desk.changeMachine fun m => { m with volume }
  | .remote fault playing =>
    match desk.host.remote with
    | .script _ _ => desk.withHost { desk.host with remote := .script fault playing }
    | _ => desk
  | .index script => desk.changeMachine fun m => { m with index := .script script }
  | .assets assets => desk.changeMachine fun m => { m with assets }
  | .setting key value => desk.changeMachine fun m =>
    let (_, settings, tree) := m.settings.put m.tree key value
    { m with settings, tree }
  | .lockedKeys lockedKeys => desk.changeMachine fun m => { m with lockedKeys }
  | .rules .own rules =>
    desk.withHost { desk.host with bank := { desk.host.bank with rules } }
  | .rules .remote rules =>
    match desk.host.remote with
    | .service bank worker =>
      desk.withHost { desk.host with remote := .service { bank with rules } worker }
    | _ => desk
  | .endSounds =>
    let host := { desk.host with bank := desk.host.bank.endSounds }
    desk.withHost <| match host.remote with
      | .service bank worker => { host with remote := .service bank.endSounds worker }
      | _ => host

def openedCursor (desk : Desk) (p : Program Resources (Except QueryError CursorId)) :
    Result × Desk :=
  let work : Program Resources Result := do
    match ← p with
    | .error e => return .queryFailed e
    | .ok cursor => return .cursor (← AlertSound.Desk.inspect cursor)
  desk.resource work id

def openSource (desk : Desk) (source : Source) (attributes : Attributes) : Result × Desk :=
  let (result, host) := desk.host.onStage (Engine.openSource source attributes)
  let desk := desk.withHost host
  match result with
  | .error e => (.engineFailed e, desk)
  | .ok id => (.number desk.handles.size, { desk with handles := desk.handles.push id })

def openPlayer (desk : Desk) (source : Source) (attributes : Attributes) : Result × Desk :=
  let (result, host) := desk.host.onStage (Player.openPrepared source attributes)
  let desk := desk.withHost host
  match result with
  | .error e => (.engineFailed e, desk)
  | .ok player =>
    (.number desk.players.size, { desk with players := desk.players.push (some player) })

def step (desk : Desk) : Step → Result × Desk
  | .session operation => desk.operate operation
  | .dropSession => (.done, desk.dropSession)
  | .newSession => (.done, desk.newSession)
  | .resolveTitle reference indirection =>
    desk.resource (Title.resolve desk.config.labels reference indirection) fun title =>
      .text (some title)
  | .resolveActual r => desk.resource (AlertSound.resolveActual r) .locator
  | .restoreEnabled => (.flag desk.config.restore.enabled, desk)
  | .restoreAll => desk.resource (Restore.all desk.config.restore) .number
  | .restoreOne kind => desk.resource (Restore.one desk.config.restore kind) fun
    | .ok restored => .flag restored
    | .error e => .restoreFailed e
  | .fallbackTry reference attributes =>
    let work : Program Stage Result := do
      match ← Fallback.tryPlay reference attributes with
      | .ok player => AlertSound.Desk.showPlayer (some player)
      | .error e => return .fallbackFailed e
    desk.stage work id
  | .fallbackPlay reference attributes =>
    let work : Program Stage Result := do
      AlertSound.Desk.showPlayer (← Fallback.play reference attributes)
    desk.stage work id
  | .query r columns => desk.openedCursor (Resource.query r columns)
  | .find name => desk.openedCursor (Resource.find name)
  | .dataPath r => desk.resource (AlertSound.dataPath r) fun
    | .ok path => .path path
    | .error e => .queryFailed e
  | .setting key => desk.resource (Resource.setting key) .text
  | .putSetting key value => desk.resource (Resource.putSetting key value) .ofSetting
  | .defaultLocator kind => desk.resource (defaultLocator? kind) fun reference =>
    .text (reference.map Locator.text)
  | .fileText path =>
    (.text (match desk.host.machine.tree.readText path with
      | .ok text => some text
      | .error _ => none), desk)
  | .openSource source attributes => desk.openSource source attributes
  | .onHandle n operation => desk.onHandle n operation
  | .openPlayer source attributes => desk.openPlayer source attributes
  | .startPlayer n => desk.withPlayer n fun player =>
    desk.stage player.start fun
      | .ok () => .done
      | .error e => .engineFailed e
  | .playerIsPlaying n => desk.withPlayer n fun player => desk.stage player.isPlaying .flag
  | .playerSource n => desk.withPlayer n fun player => (.text (some player.source), desk)
  | .dropPlayer n => desk.withPlayer n fun player =>
    let (_, desk) := desk.stage player.drop fun _ => .done
    (.done, { desk with players := desk.players.setIfInBounds n none })
  | .remotePlay token r attributes =>
    desk.remoteCall (Remote.play token r attributes) fun _ => .done
  | .remoteStop token => desk.remoteCall (Remote.stop token) fun _ => .done
  | .remoteIsPlaying token => desk.remoteCall (Remote.isPlaying token) .flag
  | .remoteShutdown => (.done, desk.withHost desk.host.shutRemote)
  | .asset => desk.resource Resource.openAsset .ofAsset
  | .volume stream => desk.resource (Resource.volume stream) .number
  | .change change => (.done, desk.apply change)

end Desk
end AlertSound.Host
