import AlertSound.Session

/-!
The operations of a session as data, so that runs are lists of them.
-/
namespace AlertSound.Session

inductive Operation where
  | setReference (reference : Option Locator)
  | setAttributes (attributes : Attributes)
  | setStreamNumber (number : Int)
  | attributes
  | stream
  | reference
  | title
  | setTitle (title : String)
  | play
  | stop
  | isPlaying
  | playFallback
  | allowsRemote

inductive Reply where
  | done
  | attributes (a : Attributes)
  | stream (stream : SoundStream)
  | reference (reference : Option Locator)
  | title (title : String)
  | flag (value : Bool)
  | refused (e : Error)

/-- What the operation answers, and the session afterwards. -/
def perform (s : Session) : Operation → Program Studio (Reply × Session)
  | .setReference reference => return (.done, ← s.setReference reference)
  | .setAttributes attributes => return (.done, ← s.setAttributes attributes)
  | .setStreamNumber number => do
    match ← s.setStreamNumber number with
    | .ok s => return (.done, s)
    | .error e => return (.refused e, s)
  | .attributes => return (.attributes s.attributes, s)
  | .stream => return (.stream s.stream, s)
  | .reference => return (.reference s.reference, s)
  | .title => do
    let (title, s) ← s.getTitle
    return (.title title, s)
  | .setTitle title => return (.done, s.setTitle title)
  | .play => return (.done, ← s.play)
  | .stop => return (.done, ← s.stop)
  | .isPlaying => return (.flag (← s.isPlaying), s)
  | .playFallback => do
    let (played, s) ← s.playFallback
    return (.flag played, s)
  | .allowsRemote => return (.flag s.allowsRemote, s)

end AlertSound.Session
