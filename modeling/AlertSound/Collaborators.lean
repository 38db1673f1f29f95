import AlertSound.Index.Cursor
import AlertSound.Json.Literal
import AlertSound.Log
import AlertSound.Playback.Source
import AlertSound.Program
import AlertSound.Remote.Token

/-!
The collaborators of a player and the calls they take. Resources answer what a
sound is and where it may be heard: index, settings, volume, bundled asset, log.
Engines make handles and play them. A remote player takes over sounds that
cannot be opened here. Nothing is said about the answers.
-/
namespace AlertSound

inductive SettingsError where
  | io (cause : IoError)
  | format (failure : Json.Failure)
  | poisoned

namespace SettingsError

def message : SettingsError → String
  | .io cause => "settings io error: " ++ cause.message
  | .format failure => "settings file is not a JSON object of strings: " ++ failure.message
  | .poisoned => "settings store lock poisoned"

def kind : SettingsError → String
  | .io _ => "Io"
  | .format _ => "Format"
  | .poisoned => "Poisoned"

end SettingsError

inductive AssetError where
  | notFound (name : String)
  | io (cause : IoError)

def AssetError.message : AssetError → String
  | .notFound name => "fallback asset not found: " ++ name
  | .io cause => "fallback asset unreadable: " ++ cause.message

def AssetError.kind : AssetError → String
  | .notFound _ => "NotFound"
  | .io _ => "Io"

/-- The bundled sound as a part of an open file; without a length it runs to the end. -/
structure Asset where
  file : FileNode
  offset : UInt64
  length : Option UInt64

inductive TransportError where
  | disconnected
  | remote (detail : String)

def TransportError.message : TransportError → String
  | .disconnected => "remote player disconnected"
  | .remote detail => "remote call failed: " ++ detail

def TransportError.kind : TransportError → String
  | .disconnected => "Disconnected"
  | .remote _ => "Remote"

/-- Cursors are told apart by the order in which queries opened them. -/
abbrev CursorId := Nat

/-- Handles are told apart by the order in which their engine opened them. -/
abbrev HandleId := Nat

inductive Resource.Call where
  | volume (stream : SoundStream)
  | setting (key : String)
  | putSetting (key value : String)
  | query (r : Locator) (columns : List Column)
  | find (name : String)
  | count (cursor : CursorId)
  | moveToFirst (cursor : CursorId)
  | cell (cursor : CursorId) (column : Nat)
  | close (cursor : CursorId)
  | openAsset
  | duplicate (file : FileNode)
  | log (entry : Log.Entry)

/-- Index, settings, volume, bundled asset and log. -/
abbrev Resources : Interface where
  Call := Resource.Call
  Answer
    | .volume _ => Nat
    | .setting _ => Option String
    | .putSetting _ _ => Except SettingsError Unit
    | .query _ _ => Except QueryError CursorId
    | .find _ => Except QueryError CursorId
    | .count _ => Nat
    | .moveToFirst _ => Bool
    | .cell _ _ => Option String
    | .close _ => Unit
    | .openAsset => Except AssetError Asset
    | .duplicate _ => Except IoError FileNode
    | .log _ => Unit

inductive Engine.Call where
  | openSource (source : Source) (attributes : Attributes)
  | prepare (handle : HandleId)
  | start (handle : HandleId)
  | stop (handle : HandleId)
  | reset (handle : HandleId)
  | release (handle : HandleId)
  | isPlaying (handle : HandleId)

abbrev Engines : Interface where
  Call := Engine.Call
  Answer
    | .openSource _ _ => Except EngineError HandleId
    | .prepare _ => Except EngineError Unit
    | .start _ => Except EngineError Unit
    | .stop _ => Unit
    | .reset _ => Unit
    | .release _ => Unit
    | .isPlaying _ => Bool

inductive Remote.Call where
  | play (token : Token) (r : Locator) (attributes : Attributes)
  | stop (token : Token)
  | isPlaying (token : Token)

abbrev Remotes : Interface where
  Call := Remote.Call
  Answer
    | .play _ _ _ => Except TransportError Unit
    | .stop _ => Except TransportError Unit
    | .isPlaying _ => Except TransportError Bool

/-- What a player of its own needs. -/
abbrev Stage : Interface := Resources.sum Engines

/-- What a session needs. -/
abbrev Studio : Interface := Stage.sum Remotes

namespace Resource

def volume (stream : SoundStream) : Program Resources Nat := .call (Call.volume stream) .done

def setting (key : String) : Program Resources (Option String) := .call (Call.setting key) .done

def putSetting (key value : String) : Program Resources (Except SettingsError Unit) :=
  .call (Call.putSetting key value) .done

def query (r : Locator) (columns : List Column) : Program Resources (Except QueryError CursorId) :=
  .call (Call.query r columns) .done

def find (name : String) : Program Resources (Except QueryError CursorId) :=
  .call (Call.find name) .done

def count (cursor : CursorId) : Program Resources Nat := .call (Call.count cursor) .done

def moveToFirst (cursor : CursorId) : Program Resources Bool := .call (Call.moveToFirst cursor) .done

def cell (cursor : CursorId) (column : Nat) : Program Resources (Option String) :=
  .call (Call.cell cursor column) .done

def close (cursor : CursorId) : Program Resources Unit := .call (Call.close cursor) .done

def openAsset : Program Resources (Except AssetError Asset) := .call Call.openAsset .done

def duplicate (file : FileNode) : Program Resources (Except IoError FileNode) :=
  .call (Call.duplicate file) .done

def log (level : Log.Level) (target message : String)
    (fields : List (String × Log.FieldValue)) : Program Resources Unit :=
  .call (Call.log { level, target, message, fields }) .done

/-- Works with a cursor and closes it, whatever comes of the work. -/
def withCursor {α : Type} (cursor : CursorId) (work : Program Resources α) :
    Program Resources α := do
  let result ← work
  close cursor
  return result

end Resource

namespace Engine

def openSource (source : Source) (attributes : Attributes) :
    Program Engines (Except EngineError HandleId) :=
  .call (Call.openSource source attributes) .done

def prepare (handle : HandleId) : Program Engines (Except EngineError Unit) :=
  .call (Call.prepare handle) .done

def start (handle : HandleId) : Program Engines (Except EngineError Unit) :=
  .call (Call.start handle) .done

def stop (handle : HandleId) : Program Engines Unit := .call (Call.stop handle) .done

def reset (handle : HandleId) : Program Engines Unit := .call (Call.reset handle) .done

def release (handle : HandleId) : Program Engines Unit := .call (Call.release handle) .done

def isPlaying (handle : HandleId) : Program Engines Bool := .call (Call.isPlaying handle) .done

end Engine

namespace Remote

def play (token : Token) (r : Locator) (attributes : Attributes) :
    Program Remotes (Except TransportError Unit) :=
  .call (Call.play token r attributes) .done

def stop (token : Token) : Program Remotes (Except TransportError Unit) :=
  .call (Call.stop token) .done

def isPlaying (token : Token) : Program Remotes (Except TransportError Bool) :=
  .call (Call.isPlaying token) .done

end Remote
end AlertSound
