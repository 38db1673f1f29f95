import AlertSound.Attributes
import AlertSound.File.Tree
import AlertSound.Locator.Basic

/-!
What an engine opens: a locator, or a part of an open file. The ways in which
opening and playing fail.
-/
namespace AlertSound

inductive Source where
  | locator (r : Locator)
  | descriptor (file : FileNode) (offset : UInt64) (length : Option UInt64)

def Source.text : Source → String
  | .locator r => r.text
  | .descriptor _ offset none => "<descriptor offset=" ++ toString offset.toNat ++ ">"
  | .descriptor _ offset (some length) =>
    "<descriptor offset=" ++ toString offset.toNat ++ " length=" ++ toString length.toNat ++ ">"

inductive EngineError where
  | permissionDenied (what : String)
  | io (cause : IoError)
  | noData (what : String)
  | decode (detail : String)
  | outputUnavailable (details : String)
  | illegalState (what : String)

namespace EngineError

def message : EngineError → String
  | .permissionDenied what => "permission denied opening " ++ what
  | .io cause => "io error: " ++ cause.message
  | .noData what => "no playable data for " ++ what
  | .decode detail => "decode failed: " ++ detail
  | .outputUnavailable details => "audio output unavailable: " ++ details
  | .illegalState what => "handle used in wrong state: " ++ what

def kind : EngineError → String
  | .permissionDenied _ => "PermissionDenied"
  | .io _ => "Io"
  | .noData _ => "NoData"
  | .decode _ => "Decode"
  | .outputUnavailable _ => "AudioOutputUnavailable"
  | .illegalState _ => "IllegalState"

end EngineError
end AlertSound
