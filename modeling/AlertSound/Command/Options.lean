import AlertSound.Asset
import AlertSound.Command.Argument
import AlertSound.Config
import AlertSound.Text.Decimal

/-!
The options of the command with their values. Three of them may come from the
environment if they are not among the arguments.
-/
namespace AlertSound.Command

structure Options where
  sound : Option String
  internalDir : File.Path
  externalDir : Option File.Path
  settings : Option File.Path
  assetDir : File.Path
  fallbackAsset : String
  volume : Nat
  streamNumber : Option Int
  soundCustomized : Option Bool
  defaultRingtone : Option String
  restoreSlots : Option UInt8
  outputDevice : Option String
  playMs : Nat
  logLevel : String
  noRemote : Bool
  dryRun : Bool
  titleOnly : Bool
  listDevices : Bool

/-- `yes` and `no` in several spellings, in letters of either case. -/
def bool? (word : String) : Option Bool :=
  let word := String.ofList (word.toList.map Char.toLower)
  if ["y", "yes", "t", "true", "on", "1"].contains word then some true
  else if ["n", "no", "f", "false", "off", "0"].contains word then some false
  else none

def path? (text : SystemText) : Option File.Path :=
  if text.bytes.isEmpty then none else some text.bytes

def byte? (text : String) : Option UInt8 :=
  (Text.intBetween? 0 (UInt8.size - 1) text).map fun n => UInt8.ofNat n.toNat

/-- The variable that stands in for a parameter. -/
def Parameter.environmentKey? : Parameter → Option String
  | .soundCustomized => some Config.customizedKey
  | .defaultRingtone => some (Config.fileNameKey (.ringtone 0))
  | .restoreSlots => some Config.restoreSlotsKey
  | _ => none

namespace Options

def ordinary : Options where
  sound := none
  internalDir := File.ofText "ringtones"
  externalDir := none
  settings := none
  assetDir := File.ofText "assets"
  fallbackAsset := AssetDirectory.ordinaryName
  volume := 7
  streamNumber := none
  soundCustomized := none
  defaultRingtone := none
  restoreSlots := none
  outputDevice := none
  playMs := 5000
  logLevel := "info"
  noRemote := false
  dryRun := false
  titleOnly := false
  listDevices := false

def turnOn (options : Options) : Switch → Options
  | .noRemote => { options with noRemote := true }
  | .dryRun => { options with dryRun := true }
  | .titleOnly => { options with titleOnly := true }
  | .listDevices => { options with listDevices := true }

/-- None if it is no value of the parameter. Only a path need not be UTF-8. -/
def set? (options : Options) (p : Parameter) (value : SystemText) : Option Options :=
  match p with
  | .sound => value.text?.map fun text => { options with sound := some text }
  | .internalDir => (path? value).map fun internalDir => { options with internalDir }
  | .externalDir => (path? value).map fun path => { options with externalDir := some path }
  | .settings => (path? value).map fun path => { options with settings := some path }
  | .assetDir => (path? value).map fun assetDir => { options with assetDir }
  | .fallbackAsset => value.text?.map fun fallbackAsset => { options with fallbackAsset }
  | .volume =>
    (value.read? (Text.intBetween? 0 (UInt32.size - 1))).map fun n =>
      { options with volume := n.toNat }
  | .streamType =>
    (value.read? (Text.intBetween? Int32.minValue.toInt Int32.maxValue.toInt)).map fun n =>
      { options with streamNumber := some n }
  | .soundCustomized =>
    (value.read? bool?).map fun on => { options with soundCustomized := some on }
  | .defaultRingtone => value.text?.map fun text => { options with defaultRingtone := some text }
  | .restoreSlots =>
    (value.read? byte?).map fun count => { options with restoreSlots := some count }
  | .outputDevice => value.text?.map fun text => { options with outputDevice := some text }
  | .playMs =>
    (value.read? (Text.natUpTo? (UInt64.size - 1))).map fun playMs =>
      { options with playMs }
  | .logLevel => value.text?.map fun logLevel => { options with logLevel }

def setOrStop (options : Options) (p : Parameter) (value : SystemText) : Except Stop Options :=
  match options.set? p value with
  | some options => .ok options
  | none => .error (.misuse (.invalidValue p value))

/-- Takes up what is given, in its order; `seen` are the names there were before. -/
def take (seen : List String) (options : Options) : List Given → Except Stop Options
  | [] => .ok options
  | g :: rest =>
    if seen.contains g.name then .error (.misuse (.repeated g.name))
    else
      match g with
      | .switch s => take (g.name :: seen) (options.turnOn s) rest
      | .parameter p value => do take (g.name :: seen) (← options.setOrStop p value) rest

/-- A variable counts only for a parameter that is not given. -/
def takeVariables (given : List Given) (env : Environment) (options : Options) :
    List Parameter → Except Stop Options
  | [] => .ok options
  | p :: rest => do
    let value := if given.any (·.name == p.name) then none else p.environmentKey?.bind env.raw?
    match value with
    | none => takeVariables given env options rest
    | some value => takeVariables given env (← options.setOrStop p value) rest

/-- There has to be a sound, unless the devices are to be listed. -/
def ofArguments (arguments : List SystemText) (env : Environment) : Except Stop Options := do
  let (given, stop) := scan arguments
  let options ← take [] ordinary given
  match stop with
  | some stop => .error stop
  | none =>
    let options ← takeVariables given env options Parameter.all
    if options.sound.isNone && !options.listDevices then
      .error (.misuse (.missingParameter .sound))
    else .ok options

/-- The configuration the options and the environment ask for. -/
def config (options : Options) (env : Environment) : Except ConfigError Config := do
  let allowRemote ←
    Config.resolveBool (if options.noRemote then some false else none) Config.allowRemoteKey env true
  let enabled ← Config.resolveBool options.soundCustomized Config.customizedKey env false
  let slots ← Config.resolveRestoreSlots options.restoreSlots env
  let named := (options.defaultRingtone.map fun name => (DefaultKind.ringtone 0, name)).toList
  let restore := { enabled, slots, fileNames := Config.resolveFileNames named env }
  return { allowRemote, labels := .ordinary, restore }

end Options
end AlertSound.Command
