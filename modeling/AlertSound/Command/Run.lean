import AlertSound.Command.Options
import AlertSound.Command.Report
import AlertSound.Host.Basic
import AlertSound.Log.Filter
import AlertSound.Session

/-!
A run of the command: it opens a sound in a session of its own, shows the title,
plays the sound for a while and stops it. A run writes lines and log entries, and
ends with success, with a report of a failure, or before it began.
-/
namespace AlertSound.Command

inductive Console.Call where
  | print (line : String)
  /-- Lets `pollMs` go by. -/
  | pause

abbrev Console : Interface where
  Call := Console.Call
  Answer _ := Unit

/-- What the command needs: a studio for the session, and a console. -/
abbrev Floor : Interface := Studio.sum Console

def pollMs : Nat := 50

def print (line : String) : Program Console Unit := .call (.print line) .done

def pause : Program Console Unit := .call .pause .done

/-- The name log entries of the command itself come under. -/
def logTarget : String := "ringtone"

/-- Waits while the sound plays, for a number of pauses at most. -/
def listen (s : Session) : Nat → Program Floor Unit
  | 0 => do
    let _ ← s.isPlaying
  | n + 1 => do
    if ← s.isPlaying then
      pause
      listen s n

def playingEntry (s : Session) : Log.Entry where
  level := .info
  target := logTarget
  message := "playing"
  fields := [("state", .shown s.backing.name), ("stream", .shown s.stream.name)]

/-- Ends the session. -/
def leave (s : Session) : Program Floor Unit := s.drop

/-- The number of pauses that fill the time there is to play. -/
def Options.pauses (options : Options) : Nat := (options.playMs + (pollMs - 1)) / pollMs

def present (options : Options) (s : Session) (r : Locator) : Program Floor Unit := do
  let s ← s.setReference (some r)
  let (title, s) ← s.getTitle
  print title
  if options.titleOnly then leave s
  else
    let entry := playingEntry s
    Resource.log entry.level entry.target entry.message entry.fields
    let s ← s.play
    listen s options.pauses
    leave (← s.stop)

/-- Works the session from its beginning to its end. -/
def perform (options : Options) (s : Session) (r : Locator) :
    Program Floor (Except Session.Error Unit) := do
  match options.streamNumber with
  | none => return .ok (← present options s r)
  | some number =>
    match ← s.setStreamNumber number with
    | .error e =>
      leave s
      return .error e
    | .ok s => return .ok (← present options s r)

def console : Handler Console Host
  | .print line, host => ((), { host with machine := host.machine.note (.printed line) })
  | .pause, host => ((), { host.elapse pollMs with machine := host.machine.note .paused })

def handler : Handler Floor Host := Host.handler.sum console

/-- What a run writes, and the pauses it makes in between. -/
inductive Output where
  | line (text : String)
  | entry (entry : Log.Entry)
  | pause

def Output.ofEvent? (filter : Log.Filter) : Host.Event → Option Output
  | .call _ => none
  | .log e => if filter.admits e then some (.entry e) else none
  | .printed text => some (.line text)
  | .paused => some .pause

inductive Ending where
  | done
  | failed (report : Report)
  | stopped (stop : Stop)

def Ending.code : Ending → UInt8
  | .done | .stopped .help => 0
  | .failed _ => 1
  | .stopped (.misuse _) => 2

structure Outcome where
  ending : Ending
  /-- What is said first, apart from the output, about directives that were left out. -/
  notices : List String := []
  output : List Output
  /-- The files when the run is over. -/
  tree : FileTree

def Outcome.code (outcome : Outcome) : UInt8 := outcome.ending.code

namespace Options

def configEntry (config : Config) : Log.Entry where
  level := .info
  target := logTarget
  message := "config loaded"
  fields := [
    ("allow_remote", .shown (toString config.allowRemote)),
    ("restore", .shown (toString config.restore.enabled)),
    ("restore_slots", .shown (toString config.restore.slots.count.toNat))]

/-- The filter of the log; `directives` take the place of the level. -/
def filter (options : Options) (directives : String) :
    Except Log.Directive.Error Log.Filter :=
  (Log.Directive.ofText options.logLevel).map (Log.Filter.ofList directives).withDefault

/-- The settings, and the entry that tells that a file was read. -/
def loadSettings (options : Options) (tree : FileTree) :
    Except Report (SettingsStore × List Host.Event) :=
  match options.settings with
  | none => .ok (.inMemory, [])
  | some file =>
    match SettingsStore.load tree file with
    | .ok store => .ok (store, [.log (store.loadedEntry file)])
    | .error e => .error ⟨"failed to load settings from " ++ File.display file, e.chain⟩

def engineKind (options : Options) (audio : Option Audio) : EngineKind :=
  if options.dryRun then .silent
  else .device { wanted := options.outputDevice, details := "no output device", audio }

def bank (options : Options) (audio : Option Audio) (name : String) : Host.Bank where
  name
  kind := options.engineKind audio
  rules := []
  handles := #[]
  attempts := 0

/-- The host to play on. The remote player works like the command itself. -/
def host (options : Options) (config : Config) (tree : FileTree) (audio : Option Audio)
    (settings : SettingsStore) (journal : List Host.Event) : Host where
  machine := {
    tree
    settings
    lockedKeys := []
    index := .directories { inside := options.internalDir, outside := options.externalDir }
    volume := .uniform options.volume
    assets := .directory { directory := options.assetDir, name := options.fallbackAsset }
    cursors := #[]
    journal }
  bank := options.bank audio "engine"
  remote :=
    if config.allowRemote then .service (options.bank audio "remote-engine") (some .idle)
    else .absent
  tokens := []
  oneOutput := true

/-- The token the session shows to the remote player. -/
def token : Token := .ofSession [] 0

/-- The sound, the settings, and what was logged when they were read. -/
def needs (options : Options) (tree : FileTree) :
    Except Report (Locator × SettingsStore × List Host.Event) :=
  match options.sound with
  | none => .error ⟨"--sound is required", []⟩
  | some sound =>
    match Locator.parse sound with
    | .error e => .error ⟨"invalid --sound: " ++ sound, [e.message]⟩
    | .ok r => (options.loadSettings tree).map (r, ·)

/-- Plays the sound on a host made for it. The journal is what has been logged
before; the latest entry comes first. -/
def playSound (options : Options) (config : Config) (tree : FileTree) (audio : Option Audio)
    (journal : List Host.Event) : Except Report Unit × List Host.Event × FileTree :=
  match options.needs tree with
  | .error report => (.error report, journal, tree)
  | .ok (r, settings, loaded) =>
    let host := options.host config tree audio settings (loaded ++ journal)
    let session := Session.new config (if host.hasRemote then some token else none)
    let (result, host) := (perform options session r).run handler host
    let machine := host.shutRemote.machine
    (result.mapError fun e => ⟨e.message, []⟩, machine.journal, machine.tree)

/-- A run with the options that have been read. -/
def run (options : Options) (env : Environment) (directives : String) (tree : FileTree)
    (audio : Option Audio := none) : Outcome :=
  match options.filter directives with
  | .error e =>
    { ending := .failed ⟨"invalid --log-level: " ++ options.logLevel, [e.message]⟩
      output := []
      tree }
  | .ok filter =>
    let notices := Log.Filter.notices directives
    let fail (report : Report) : Outcome :=
      { ending := .failed report, notices, output := [], tree }
    if options.listDevices then
      fail ⟨"--list-devices requires the playback-device-enum feature", []⟩
    else
      match options.config env with
      | .error e => fail ⟨e.message, []⟩
      | .ok config =>
        let (result, journal, tree) :=
          options.playSound config tree audio [.log (configEntry config)]
        { ending := match result with
            | .ok () => .done
            | .error report => .failed report
          notices
          output := journal.reverse.filterMap (Output.ofEvent? filter)
          tree }

end Options

/-- The command from its arguments and its environment to its end, on a machine with this
sound system. -/
def run (arguments : List SystemText) (env : Environment) (directives : String) (tree : FileTree)
    (audio : Option Audio := none) : Outcome :=
  match Options.ofArguments arguments env with
  | .error stop => { ending := .stopped stop, output := [], tree }
  | .ok options => options.run env directives tree audio

end AlertSound.Command
