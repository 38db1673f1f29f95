import AlertSound.Collaborators
import AlertSound.Text.Blank

/-!
The output of a device engine. A stream to an output device is opened when one is
first needed, and from then on all handles of the engine share it. The device that
was asked for is tried before the default one. Where there is no device at all, the
engine never tries again.
-/
namespace AlertSound

/-- An output device, and what goes wrong when it is opened. -/
structure Device where
  name : Option String
  fault : Option String

/-- What a sound system answers. Attempts to open an output are counted from 1. -/
structure Audio where
  /-- The output devices, unless they cannot be listed. -/
  devices : Nat → Option (List Device)
  /-- What goes wrong when the default device is opened. -/
  defaultFault : Nat → Option String
  /-- How many milliseconds a sound lasts, or what is wrong with its data. -/
  decode : FileNode → Except String Nat
  /-- The time of a refusal in milliseconds; refusals are counted from 1 too. -/
  clock : Nat → Nat

/-- The device asked for, if any, and the sound system, if there is one. -/
structure Output where
  wanted : Option String
  /-- What is said of the output if there is no sound system. -/
  details : String
  audio : Option Audio := none

inductive Link where
  | closed
  | opened (audio : Audio)
  /-- There is no device. -/
  | gone (details : String)

/-- What has come of an output so far. -/
structure Line where
  attempts : Nat
  link : Link := .closed
  refusals : Nat := 0
  /-- When it was last said that the output is gone. -/
  warned : Option Nat := none

namespace Device

def label (d : Device) : String := d.name.getD "<unnamed>"

/-- Neither the blanks around a name count, nor the case of its letters. -/
def plainName (name : String) : String :=
  String.ofList ((Text.trim name).toList.map Char.toLower)

def listText (devices : List Device) : String :=
  if devices.isEmpty then "<unknown>" else ", ".intercalate (devices.map label)

/-- The last one of the name. -/
def named? (wanted : String) (devices : List Device) : Option Device :=
  devices.reverse.find? fun d => plainName d.label == plainName wanted

end Device

namespace Output

def devices (output : Output) (attempt : Nat) : List Device :=
  (output.audio.bind fun audio => audio.devices attempt).getD []

def openDefault (output : Output) (attempt : Nat) (occasion : String) : Except String Audio :=
  match output.audio with
  | none => .error output.details
  | some audio =>
    match audio.defaultFault attempt with
    | none => .ok audio
    | some fault =>
      let wanted := output.wanted.map fun wanted => " (configured_device=" ++ wanted ++ ")"
      .error (occasion ++ ": " ++ fault ++ wanted.getD "")

/-- An open stream, or what is said of the output. -/
def openStream (output : Output) (attempt : Nat) :
    Program Resources (Except String Audio) := do
  Resource.log .debug "playback" "opening output stream"
    [("attempt", .shown (toString attempt)),
      ("configured_output_device", .shown (output.wanted.getD "<default>"))]
  match output.wanted with
  | none => return output.openDefault attempt "open default output stream"
  | some wanted =>
    let devices := output.devices attempt
    let listed := Device.listText devices
    match output.audio, Device.named? wanted devices with
    | some audio, some { fault := none, .. } => return .ok audio
    | _, some { fault := some fault, .. } =>
      Resource.log .warn "playback"
        "failed to open configured output device; falling back to default output device"
        [("wanted_device", .shown wanted), ("error", .shown fault),
          ("available_devices", .shown listed)]
      return output.openDefault attempt "default-device fallback after named device open failed"
    | _, _ =>
      Resource.log .warn "playback"
        "configured output device not found; falling back to default output device"
        [("wanted_device", .shown wanted), ("available_devices", .shown listed)]
      return output.openDefault attempt "default-device fallback after named device not found"

/-- Whether a failure tells that there is no device. -/
def tellsNoDevice (details : String) : Bool :=
  1 < (details.splitOn "NoDevice").length

def warnInterval : Nat := 5000

/-- One more refusal of an output that is gone, and whether it is said. -/
def refuse (output : Output) (line : Line) : Bool × Line :=
  let refusals := line.refusals + 1
  let now := (output.audio.map fun audio => audio.clock refusals).getD 0
  let due : Bool := match line.warned with
    | none => true
    | some before => decide (warnInterval ≤ now - before)
  (due, { line with refusals, warned := if due then some now else line.warned })

/-- The open stream is used again. -/
def connect (output : Output) (line : Line) :
    Program Resources (Except EngineError Audio × Line) := do
  match line.link with
  | .opened audio => return (.ok audio, line)
  | .gone details =>
    let (due, line) := output.refuse line
    if due then
      Resource.log .warn "playback" "audio output unavailable (rate-limited)"
        [("details", .shown details)]
    return (.error (.outputUnavailable details), line)
  | .closed =>
    let attempts := line.attempts + 1
    match ← output.openStream attempts with
    | .ok audio => return (.ok audio, { line with attempts, link := .opened audio })
    | .error details =>
      let link := if tellsNoDevice details then .gone details else .closed
      return (.error (.outputUnavailable details), { line with attempts, link })

end Output
end AlertSound
