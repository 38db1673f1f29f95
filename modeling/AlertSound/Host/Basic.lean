import AlertSound.Host.Bank
import AlertSound.Remote.Worker

/-!
A host: its resources, its engine, and the remote player that sessions may
delegate to, which is a script or a worker with an engine of its own.
-/
namespace AlertSound

namespace Host

inductive RemoteSource where
  | absent
  /-- Every call fails with the fault, if there is one; nothing is ever played. -/
  | script (fault : Option TransportError) (playing : Bool)
  /-- The worker is gone once it has been shut down. -/
  | service (bank : Bank) (worker : Option Remote.Worker)

end Host

structure Host where
  machine : Host.Machine
  bank : Host.Bank
  remote : Host.RemoteSource
  /-- Tokens in the order of their first use. -/
  tokens : List Token
  /-- Whether the remote player plays through the output of the host's own engine. -/
  oneOutput : Bool := false

namespace Host

def hasRemote (host : Host) : Bool :=
  match host.remote with
  | .absent => false
  | _ => true

def onStage {α : Type} (p : Program Stage α) (host : Host) : α × Host :=
  let (result, machine, bank) := p.run StageState.handler (host.machine, host.bank)
  (result, { host with machine, bank })

def onResources {α : Type} (p : Program Resources α) (host : Host) : α × Host :=
  let (result, machine) := p.run Machine.handler host.machine
  (result, { host with machine })

/-- The output that one engine finds and leaves, as another one finds it. -/
def share (host : Host) (own other : Bank) : Bank :=
  if host.oneOutput then { other with toLine := own.toLine } else other

/-- Runs the worker on the engine of the remote player. -/
def onWorker {α : Type} (bank : Bank) (p : Program Stage α) (host : Host) : α × Bank × Host :=
  let (result, machine, bank) := p.run StageState.handler (host.machine, host.share host.bank bank)
  (result, bank, { host with machine, bank := host.share bank host.bank })

/-- Lets the sounds that are playing go on for a while. -/
def elapse (ms : Nat) (host : Host) : Host :=
  { host with
    bank := host.bank.elapse ms
    remote := match host.remote with
      | .service bank worker => .service (bank.elapse ms) worker
      | remote => remote }

def numberToken (token : Token) (host : Host) : Host :=
  if host.tokens.contains token then host else { host with tokens := host.tokens ++ [token] }

def tokenName (host : Host) (token : Token) : String := "t" ++ toString (host.tokens.idxOf token)

def servePlay (token : Token) (r : Locator) (attributes : Attributes) (host : Host) :
    Except TransportError Unit × Host :=
  match host.remote with
  | .absent => (.error .disconnected, host)
  | .script (some fault) _ => (.error fault, host)
  | .script none _ => (.ok (), host)
  | .service _ none => (.error .disconnected, host)
  | .service bank (some worker) =>
    let (worker, bank, host) := host.onWorker bank (worker.servePlay token r attributes)
    (.ok (), { host with remote := .service bank (some worker) })

def serveStop (token : Token) (host : Host) : Except TransportError Unit × Host :=
  match host.remote with
  | .absent => (.error .disconnected, host)
  | .script (some fault) _ => (.error fault, host)
  | .script none _ => (.ok (), host)
  | .service _ none => (.error .disconnected, host)
  | .service bank (some worker) =>
    let (worker, bank, host) := host.onWorker bank (worker.serveStop token)
    (.ok (), { host with remote := .service bank (some worker) })

def serveIsPlaying (token : Token) (host : Host) : Except TransportError Bool × Host :=
  match host.remote with
  | .absent => (.error .disconnected, host)
  | .script (some fault) _ => (.error fault, host)
  | .script none playing => (.ok playing, host)
  | .service _ none => (.error .disconnected, host)
  | .service bank (some worker) =>
    let (playing, bank, host) := host.onWorker bank (worker.serveIsPlaying token)
    (.ok playing, { host with remote := .service bank (some worker) })

/-- Drops every player of the worker, if it is up. -/
def shutRemote (host : Host) : Host :=
  match host.remote with
  | .service bank (some worker) =>
    let ((), bank, host) := host.onWorker bank worker.shutDown
    { host with remote := .service bank none }
  | _ => host

/-- Notes a remote call when it returns. -/
def noted {α : Type} (call : String) (token : Token) (details : String) (answer : α → String)
    (result : Except TransportError α × Host) : Except TransportError α × Host :=
  let outcome := match result.1 with
    | .ok value => answer value
    | .error e => e.kind
  let host := result.2.numberToken token
  let machine := host.machine.noteCall
    ("remote." ++ call ++ " " ++ host.tokenName token ++ details ++ " -> " ++ outcome)
  (result.1, { host with machine })

def remotes : Handler Remotes Host
  | .play token r attributes, host =>
    noted "play" token (" " ++ r.text ++ " " ++ attributes.usage.name ++ "/" ++
      attributes.stream.name) (fun _ => "()") (host.servePlay token r attributes)
  | .stop token, host => noted "stop" token "" (fun _ => "()") (host.serveStop token)
  | .isPlaying token, host => noted "is_playing" token "" toString (host.serveIsPlaying token)

def handler : Handler Studio Host
  | .inl c, host =>
    let (answer, machine, bank) := StageState.handler c (host.machine, host.bank)
    (answer, { host with machine, bank })
  | .inr c, host => remotes c host

/-- An entry of the trace. Values that differ from run to run are left out. -/
def Event.traceLine? : Event → Option String
  | .call line => some line
  | .printed _ | .paused => none
  | .log entry =>
    if entry.level = .debug && entry.target == "remote" then none
    else
      let kept := { entry with fields := entry.fields.filter (·.1 != "token") }
      some ("log " ++ entry.level.name ++ " " ++ entry.target ++ ": " ++ entry.message ++
        kept.fieldsText Log.FieldValue.plain)

/-- The trace since the journal was last taken, and the host with an empty journal. -/
def takeTrace (host : Host) : List String × Host :=
  (host.machine.journal.reverse.filterMap Event.traceLine?,
    { host with machine := { host.machine with journal := [] } })

end Host
end AlertSound
