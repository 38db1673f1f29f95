import AlertSound.Proofs.Resolution
import AlertSound.Session.Operation

/-!
The parts of a session that leave the index alone. A call is plain if it uses no cursor
and writes no setting. A session makes other calls for two purposes only: to look a title
up and to restore defaults.
-/
namespace AlertSound

open Program

/-- The calls that use no cursor and write no setting. -/
def Resource.Call.Plain : Resource.Call → Prop
  | .query _ _ | .find _ | .count _ | .moveToFirst _ | .cell _ _ | .close _ | .putSetting _ _ =>
    False
  | .volume _ | .setting _ | .openAsset | .duplicate _ | .log _ => True

def Studio.Plain : Studio.Call → Prop
  | .inl (.inl c) => c.Plain
  | .inl (.inr _) | .inr _ => True

def Stage.Plain (c : Stage.Call) : Prop := Studio.Plain (.inl c)

open Resource.Call (Plain)

theorem Program.Asks.plain {α : Type} {p : Program Resources α} (h : p.Asks Resource.Call.Reads) :
    p.Asks Plain :=
  h.mono fun c reads => by
    cases c with
    | setting _ | log _ => trivial
    | _ => exact reads.elim

theorem resolveActual_plain (r : Locator) : (resolveActual r).Asks Plain :=
  (resolveActual_reads r).plain

namespace Player

theorem drop_plain (player : Player) : player.drop.Asks Stage.Plain :=
  .bind (.right (.request trivial)) fun _ => .bind (.right (.request trivial)) fun _ =>
    .bind (.right (.request trivial)) fun _ => .left (.request trivial)

theorem openPrepared_plain (source : Source) (attributes : Attributes) :
    (openPrepared source attributes).Asks Stage.Plain := by
  refine .bind (.right (.request trivial)) fun opened => ?_
  split
  · exact .pure _
  · refine .bind (.right (.request trivial)) fun prepared => ?_
    split
    · exact .pure _
    · exact .bind (drop_plain _) fun _ => .pure _

theorem openStarted_plain (source : Source) (attributes : Attributes) :
    (openStarted source attributes).Asks Stage.Plain := by
  refine .bind (openPrepared_plain ..) fun opened => ?_
  split
  · exact .pure _
  · refine .bind (.right (.request trivial)) fun started => ?_
    split
    · exact .pure _
    · exact .bind (drop_plain _) fun _ => .pure _

end Player

namespace Fallback

theorem replacesDefaultRingtone_plain (reference : Option Locator) :
    (replacesDefaultRingtone reference).Asks Plain :=
  (replacesDefaultRingtone_reads reference).plain

theorem openAsset_plain : openAsset.Asks Plain := by
  refine .bind (.request trivial) fun asset => ?_
  split
  · exact .pure _
  · refine .bind (.request trivial) fun file => ?_
    split
    · exact .pure _
    · exact .pure _

theorem tryPlay_plain (reference : Option Locator) (attributes : Attributes) :
    (tryPlay reference attributes).Asks Stage.Plain := by
  refine .bind (.left (.request trivial)) fun volume => ?_
  split
  · exact .pure _
  · refine .bind (.left (replacesDefaultRingtone_plain _)) fun replaces => ?_
    split
    · exact .pure _
    · refine .bind (.left openAsset_plain) fun source => ?_
      split
      · exact .pure _
      · refine .bind (Player.openStarted_plain ..) fun started => ?_
        split
        · exact .pure _
        · exact .pure _

theorem play_plain (reference : Option Locator) (attributes : Attributes) :
    (play reference attributes).Asks Stage.Plain := by
  refine .bind (tryPlay_plain ..) fun result => ?_
  split
  · exact .bind (.left (.request trivial)) fun _ => .pure _
  · exact .pure _
  · exact .bind (.left (.request trivial)) fun _ => .pure _
  · exact .bind (.left (.request trivial)) fun _ => .pure _

end Fallback

namespace Session

theorem log_plain (level : Log.Level) (message : String)
    (fields : List (String × Log.FieldValue)) :
    ((log level message fields).left.left : Program Studio Unit).Asks Studio.Plain :=
  .left (.left (.request trivial))

theorem releaseBacking_plain (s : Session) : s.releaseBacking.Asks Studio.Plain := by
  unfold releaseBacking
  split
  · exact .pure _
  · exact .bind (.left (Player.drop_plain _)) fun _ => .pure _
  · split
    · exact .pure _
    · refine .bind (.right (.request trivial)) fun answer => ?_
      split
      · exact .pure _
      · exact .bind (log_plain ..) fun _ => .pure _

theorem openHere_plain (s : Session) (r : Locator) : (s.openHere r).Asks Stage.Plain := by
  refine .bind (.left (resolveActual_plain r)) fun actual => ?_
  split
  · exact .pure _
  · refine .bind (Player.openPrepared_plain ..) fun opened => ?_
    split
    · exact .pure _
    · exact .pure _

theorem playFallback_plain (s : Session) : s.playFallback.Asks Studio.Plain := by
  refine .bind (.left (Fallback.play_plain ..)) fun played => ?_
  split
  · exact .pure _
  · exact .bind (releaseBacking_plain _) fun _ => .pure _

theorem delegatePlay_plain (s : Session) : s.delegatePlay.Asks Studio.Plain := by
  unfold delegatePlay
  split
  · refine .bind (.left (.left (resolveActual_plain _))) fun actual => ?_
    split
    · exact .bind (log_plain ..) fun _ => .pure _
    · exact .bind (log_plain ..) fun _ => .bind (.right (.request trivial)) fun _ => .pure _
  · exact .pure _

theorem playInstead_plain (s : Session) (message : String)
    (fields : List (String × Log.FieldValue)) :
    (s.playInstead message fields).Asks Studio.Plain := by
  refine .bind s.playFallback_plain fun result => ?_
  obtain ⟨played, s⟩ := result
  cases played with
  | false => exact .bind (log_plain ..) fun _ => .pure _
  | true => exact .pure _

theorem play_plain (s : Session) : s.play.Asks Studio.Plain := by
  refine .bind (.left (.left (.request trivial))) fun volume => ?_
  split
  · split
    · exact .bind (log_plain ..) fun _ => .pure _
    · refine .bind (.left (.right (.request trivial))) fun started => ?_
      split
      · exact .pure _
      · exact .bind (log_plain ..) fun _ => .pure _
  · split
    · exact .bind (log_plain ..) fun _ => .pure _
    · refine .bind s.delegatePlay_plain fun answer => ?_
      split
      · exact .pure _
      · exact playInstead_plain ..
      · exact playInstead_plain ..

theorem isPlaying_plain (s : Session) : s.isPlaying.Asks Studio.Plain := by
  unfold isPlaying
  split
  · exact .left (.right (.request trivial))
  · refine .bind (.right (.request trivial)) fun answer => ?_
    split
    · exact .pure _
    · exact .bind (log_plain ..) fun _ => .pure _
  · exact .bind (log_plain ..) fun _ => .pure _

theorem drop_plain (s : Session) : s.drop.Asks Studio.Plain := by
  unfold drop
  split
  · exact .left (Player.drop_plain _)
  · exact .pure _
  · exact .pure _

end Session
end AlertSound
