import AlertSound.Index.DataPath
import AlertSound.Playback.Output
import AlertSound.Playback.Player

/-!
The engines. The silent engine accepts every sound and plays nothing. The device
engine opens the data of a sound, connects to the output when the handle is
prepared, and plays what the data is decoded to.
-/
namespace AlertSound

inductive EngineKind where
  | silent
  | device (output : Output)

/-- A sound on the output, with the milliseconds that are left of it. -/
structure Sink where
  paused : Bool
  left : Nat

/-- The data of a device handle is used up when it is prepared. -/
inductive EngineHandle where
  | silent (playing : Bool)
  | device (data : Option FileNode) (sink : Option Sink) (released : Bool)

namespace EngineKind

/-- The part of an open file that a descriptor names. -/
def readPart (file : FileNode) (offset : UInt64) (length : Option UInt64) :
    Except IoError (List UInt8) := do
  if file.lastOffset < offset.toNat then throw .invalidArgument
  if length == some 0 then return []
  let rest := (← FileTree.readContent file).drop offset.toNat
  return match length with
    | some length => rest.take length.toNat
    | none => rest

/-- The data of a sound. That of a descriptor is read at once. -/
def load (tree : FileTree) (source : Source) :
    Program Resources (Except EngineError FileNode) := do
  match source with
  | .descriptor file offset length =>
    match readPart file offset length with
    | .error cause => return .error (.io cause)
    | .ok [] => return .error (.noData source.text)
    | .ok content => return .ok (.file content)
  | .locator r =>
    match ← dataPath r with
    | .error (.permissionDenied what) => return .error (.permissionDenied what)
    | .error (.unavailable what) => return .error (.noData what)
    | .ok none => return .error (.noData r.text)
    | .ok (some path) =>
      match tree.openPath path with
      | .error .permissionDenied => return .error (.permissionDenied (File.display path))
      | .error cause => return .error (.io cause)
      | .ok node => return .ok node

def openSource (kind : EngineKind) (tree : FileTree) (source : Source)
    (attributes : Attributes) : Program Resources (Except EngineError EngineHandle) := do
  match kind with
  | .silent =>
    Resource.log .debug "playback" "dummy open" [("source", .shown source.text)]
    return .ok (.silent false)
  | .device _ =>
    match ← load tree source with
    | .error e => return .error e
    | .ok data =>
      Resource.log .debug "playback" "opened data source"
        [("source", .shown source.text), ("usage", .shown attributes.usage.name),
          ("stream", .shown attributes.stream.name)]
      return .ok (.device (some data) none false)

end EngineKind

namespace EngineHandle

/-- The outcome, the handle afterwards, and what has come of the output. -/
def prepare (kind : EngineKind) (line : Line) (handle : EngineHandle) :
    Program Resources (Except EngineError Unit × EngineHandle × Line) := do
  match kind, handle with
  | .device _, .device _ _ true =>
    return (.error (.illegalState "prepare after release"), handle, line)
  | .device _, .device none _ false =>
    return (.error (.illegalState "prepare called twice"), handle, line)
  | .device output, .device (some data) sink false =>
    match ← output.connect line with
    | (.error e, line) => return (.error e, .device none sink false, line)
    | (.ok audio, line) =>
      match audio.decode data with
      | .error fault => return (.error (.decode fault), .device none sink false, line)
      | .ok left => return (.ok (), .device none (some { paused := true, left }) false, line)
  | _, _ => return (.ok (), handle, line)

def start : EngineHandle → Except EngineError Unit × EngineHandle
  | .silent _ => (.ok (), .silent true)
  | .device data (some sink) released =>
    (.ok (), .device data (some { sink with paused := false }) released)
  | handle => (.error (.illegalState "start before prepare"), handle)

def stop : EngineHandle → EngineHandle
  | .silent _ => .silent false
  | .device data sink released =>
    .device data (sink.map fun sink => { sink with paused := true }) released

/-- Nothing is left to be played. -/
def reset : EngineHandle → EngineHandle
  | .silent _ => .silent false
  | .device data sink released =>
    .device data (sink.map fun _ => { paused := true, left := 0 }) released

def release : EngineHandle → EngineHandle
  | .silent _ => .silent false
  | .device _ _ _ => .device none none true

def isPlaying : EngineHandle → Bool
  | .silent playing => playing
  | .device _ sink _ => sink.any fun sink => !sink.paused && sink.left != 0

/-- Lets a sound that is playing go on for a while. -/
def elapse (ms : Nat) : EngineHandle → EngineHandle
  | .device data (some { paused := false, left }) released =>
    .device data (some { paused := false, left := left - ms }) released
  | handle => handle

/-- Lets a sound that is playing come to its end. -/
def finish : EngineHandle → EngineHandle
  | .device data (some { paused := false, .. }) released =>
    .device data (some { paused := false, left := 0 }) released
  | handle => handle

end EngineHandle
end AlertSound
