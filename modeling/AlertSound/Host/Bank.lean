import AlertSound.Host.Machine
import AlertSound.Playback.Engine

/-!
An engine on a host with the handles it opened. Rules say which calls of a handle
fail; they are looked up when the handle is opened, and a call that fails by a
rule does not reach the engine. Sounds can come to their natural end.
-/
namespace AlertSound.Host

inductive EngineFault where
  | permissionDenied
  | noData
  | io
  | decode
  | outputUnavailable
  | illegalState

def EngineFault.error (description : String) : EngineFault → EngineError
  | .permissionDenied => .permissionDenied description
  | .noData => .noData description
  | .io => .io (.other "scripted io failure")
  | .decode => .decode "scripted decode failure"
  | .outputUnavailable => .outputUnavailable "scripted"
  | .illegalState => .illegalState "scripted"

structure Rule where
  openFault : Option EngineFault
  prepareFault : Option EngineFault
  startFault : Option EngineFault

def Rule.none : Rule := ⟨.none, .none, .none⟩

structure BankHandle where
  handle : EngineHandle
  description : String
  rule : Rule
  ended : Bool

structure Bank extends Line where
  name : String
  kind : EngineKind
  /-- Rules by what they are for: a source, or one of the marks for all of a sort. -/
  rules : List (String × Rule)
  handles : Array BankHandle

namespace Bank

def anyDescriptor : String := "<descriptor>"

def anyLocator : String := "*"

def ruleFor (bank : Bank) (source : Source) : Rule :=
  let common := match source with
    | .locator _ => anyLocator
    | .descriptor .. => anyDescriptor
  (List.lookup source.text bank.rules <|> List.lookup common bank.rules).getD .none

def elapse (ms : Nat) (bank : Bank) : Bank :=
  { bank with handles := bank.handles.map fun h => { h with handle := h.handle.elapse ms } }

/-- Every sound that is playing comes to its end. -/
def endSounds (bank : Bank) : Bank :=
  { bank with handles := bank.handles.map fun h =>
      if h.handle.isPlaying then { h with handle := h.handle.finish, ended := true } else h }

def resultText (result : Except EngineError Unit) : String :=
  match result with
  | .ok () => "ok"
  | .error e => e.kind

end Bank

/-- The resources of a host and one of its engines. -/
abbrev StageState := Machine × Bank

namespace StageState

def noteHandle (m : Machine) (bank : Bank) (id : HandleId) (what : String) : Machine :=
  m.noteCall (bank.name ++ "#" ++ toString (id + 1) ++ "." ++ what)

def openSource (source : Source) (attributes : Attributes) :
    StageState → Except EngineError HandleId × StageState
  | (m, bank) =>
    let description := source.text
    let rule := bank.ruleFor source
    let (result, m) : Except EngineError EngineHandle × Machine :=
      match rule.openFault with
      | some fault => (.error (fault.error description), m)
      | none => (bank.kind.openSource m.tree source attributes).run Machine.handler m
    let call := bank.name ++ ".open " ++ description ++ " " ++ attributes.usage.name ++ "/" ++
      attributes.content.name ++ "/" ++ attributes.stream.name ++ " -> "
    match result with
    | .error e => (.error e, m.noteCall (call ++ e.kind), bank)
    | .ok handle =>
      let id := bank.handles.size
      (.ok id, m.noteCall (call ++ "#" ++ toString (id + 1)),
        { bank with handles := bank.handles.push { handle, description, rule, ended := false } })

def prepare (id : HandleId) : StageState → Except EngineError Unit × StageState
  | (m, bank) =>
    match bank.handles[id]? with
    | none => (.ok (), m, bank)
    | some entry =>
      let (result, m, bank) : Except EngineError Unit × Machine × Bank :=
        match entry.rule.prepareFault with
        | some fault => (.error (fault.error entry.description), m, bank)
        | none =>
          let ((result, handle, line), m) :=
            (entry.handle.prepare bank.kind bank.toLine).run Machine.handler m
          (result, m, { bank with
            toLine := line, handles := bank.handles.setIfInBounds id { entry with handle } })
      (result, noteHandle m bank id ("prepare -> " ++ Bank.resultText result), bank)

def start (id : HandleId) : StageState → Except EngineError Unit × StageState
  | (m, bank) =>
    match bank.handles[id]? with
    | none => (.ok (), m, bank)
    | some entry =>
      let (result, entry) : Except EngineError Unit × BankHandle :=
        match entry.rule.startFault with
        | some fault => (.error (fault.error entry.description), entry)
        | none =>
          match entry.handle.start with
          | (.ok (), handle) => (.ok (), { entry with handle, ended := false })
          | (.error e, handle) => (.error e, { entry with handle })
      (result, noteHandle m bank id ("start -> " ++ Bank.resultText result),
        { bank with handles := bank.handles.setIfInBounds id entry })

/-- A call that only changes the handle. -/
def change (id : HandleId) (what : String) (f : EngineHandle → EngineHandle) :
    StageState → Unit × StageState
  | (m, bank) =>
    ((), noteHandle m bank id what,
      { bank with handles := bank.handles.modify id fun entry =>
          { entry with handle := f entry.handle } })

def isPlaying (id : HandleId) : StageState → Bool × StageState
  | (m, bank) =>
    let playing := match bank.handles[id]? with
      | some entry => entry.handle.isPlaying && !entry.ended
      | none => false
    (playing, noteHandle m bank id ("is_playing -> " ++ toString playing), bank)

def engines : Handler Engines StageState
  | .openSource source attributes => openSource source attributes
  | .prepare id => prepare id
  | .start id => start id
  | .stop id => change id "stop" EngineHandle.stop
  | .reset id => change id "reset" EngineHandle.reset
  | .release id => change id "release" EngineHandle.release
  | .isPlaying id => isPlaying id

def handler : Handler Stage StageState
  | .inl c, (m, bank) =>
    let (answer, m) := Machine.handler c m
    (answer, m, bank)
  | .inr c, state => engines c state

end StageState
end AlertSound.Host
