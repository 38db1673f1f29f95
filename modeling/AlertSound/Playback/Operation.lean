import AlertSound.Collaborators

/-!
The operations of a handle as data.
-/
namespace AlertSound.Engine

inductive Operation where
  | prepare
  | start
  | stop
  | reset
  | release
  | isPlaying

inductive Reply where
  | done
  | flag (value : Bool)
  | failed (e : EngineError)

def Reply.ofResult : Except EngineError Unit → Reply
  | .ok () => .done
  | .error e => .failed e

def perform (handle : HandleId) : Operation → Program Engines Reply
  | .prepare => return .ofResult (← prepare handle)
  | .start => return .ofResult (← start handle)
  | .stop => do
    stop handle
    return .done
  | .reset => do
    reset handle
    return .done
  | .release => do
    release handle
    return .done
  | .isPlaying => return .flag (← isPlaying handle)

end AlertSound.Engine
