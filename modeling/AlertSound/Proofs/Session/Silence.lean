import AlertSound.Proofs.Resolution
import AlertSound.Proofs.Session.History

/-!
The parts of a session that keep silent. Sound comes of three calls only: starting a
handle, handing a sound over, and taking the bundled sound. All that a session does
besides playing makes none of them and does not ask how loud a stream is. What it does
to find out about sounds and to be rid of them does not open any either: that is `Calm`.
-/
namespace AlertSound

open Program

namespace Studio

def Audible : Studio.Call → Prop
  | .inl (.inl .openAsset) | .inl (.inr (.start _)) | .inr (.play _ _ _) => True
  | _ => False

def level? : Studio.Call → Option SoundStream
  | .inl (.inl (.volume stream)) => some stream
  | _ => none

structure Silent (c : Studio.Call) : Prop where
  inaudible : ¬Audible c
  levelless : level? c = none

/-- No sound comes of the call, it does not ask for a level, and it opens nothing. -/
def Calm : Studio.Call → Prop
  | .inl (.inl c) => c.Looks
  | .inl (.inr (.openSource _ _)) | .inl (.inr (.start _)) | .inr (.play _ _ _) => False
  | .inl (.inr _) | .inr _ => True

theorem Calm.silent {c : Studio.Call} (h : Calm c) : Silent c := by
  cases c with
  | inl c =>
      cases c with
      | inl c =>
          cases c with
          | volume _ | openAsset => exact h.elim
          | _ => exact ⟨id, rfl⟩
      | inr c =>
          cases c with
          | openSource _ _ | start _ => exact h.elim
          | _ => exact ⟨id, rfl⟩
  | inr c =>
      cases c with
      | play _ _ _ => exact h.elim
      | _ => exact ⟨id, rfl⟩

end Studio

open Studio

theorem Program.Asks.silent {α : Type} {p : Program Studio α} (h : p.Asks Calm) :
    p.Asks Silent :=
  h.mono fun _ calm => calm.silent

def Hushed (c : Stage.Call) : Prop := Silent (.inl c)

theorem Hushed.resources {α : Type} {p : Program Resources α} (h : p.Asks Resource.Call.Looks) :
    (p.left : Program Stage α).Asks Hushed :=
  .left (h.mono fun c looks => Calm.silent (c := .inl (.inl c)) looks)

namespace Player

theorem drop_calm (player : Player) : player.drop.Asks fun c => Calm (.inl c) :=
  .bind (.right (.request trivial)) fun _ => .bind (.right (.request trivial)) fun _ =>
    .bind (.right (.request trivial)) fun _ => .left (.request trivial)

theorem drop_hushed (player : Player) : player.drop.Asks Hushed :=
  player.drop_calm.mono fun _ calm => calm.silent

theorem openPrepared_hushed (source : Source) (attributes : Attributes) :
    (openPrepared source attributes).Asks Hushed := by
  refine .bind (.right (.request ⟨id, rfl⟩)) fun opened => ?_
  split
  · exact .pure _
  · refine .bind (.right (.request ⟨id, rfl⟩)) fun prepared => ?_
    split
    · exact .pure _
    · exact .bind (drop_hushed _) fun _ => .pure _

end Player

namespace Session

theorem calm_resources {α : Type} {p : Program Resources α} (h : p.Asks Resource.Call.Looks) :
    (p.left.left : Program Studio α).Asks Calm :=
  .left (.left h)

theorem log_calm (level : Log.Level) (message : String)
    (fields : List (String × Log.FieldValue)) :
    ((log level message fields).left.left : Program Studio Unit).Asks Calm :=
  calm_resources (.request trivial)

theorem log_silent (level : Log.Level) (message : String)
    (fields : List (String × Log.FieldValue)) :
    ((log level message fields).left.left : Program Studio Unit).Asks Silent :=
  (log_calm ..).silent

theorem releaseBacking_calm (s : Session) : s.releaseBacking.Asks Calm := by
  unfold releaseBacking
  split
  · exact .pure _
  · exact .bind (.left (Player.drop_calm _)) fun _ => .pure _
  · split
    · exact .pure _
    · refine .bind (.right (.request trivial)) fun answer => ?_
      split
      · exact .pure _
      · exact .bind (log_calm ..) fun _ => .pure _

theorem getTitle_calm (s : Session) : s.getTitle.Asks Calm := by
  unfold getTitle
  split
  · exact .pure _
  · exact .bind (calm_resources (Title.resolve_looks ..)) fun _ => .pure _

theorem isPlaying_calm (s : Session) : s.isPlaying.Asks Calm := by
  unfold isPlaying
  split
  · exact .left (.right (.request trivial))
  · refine .bind (.right (.request trivial)) fun answer => ?_
    split
    · exact .pure _
    · exact .bind (log_calm ..) fun _ => .pure _
  · exact .bind (log_calm ..) fun _ => .pure _

theorem openHere_hushed (s : Session) (r : Locator) : (s.openHere r).Asks Hushed := by
  refine .bind (Hushed.resources (resolveActual_looks r)) fun actual => ?_
  split
  · exact .pure _
  · refine .bind (Player.openPrepared_hushed ..) fun opened => ?_
    split
    · exact .pure _
    · exact .pure _

theorem afterRestore_asks {P : Studio.Call → Prop} {config : RestoreConfig}
    {p : Program Studio Session} (restores : (Restore.all config).left.left.Asks P)
    (h : p.Asks P) :
    (if config.enabled = true then do
      let _ ← liftM (Restore.all config)
      p
    else p).Asks P := by
  split
  · exact .bind restores fun _ => h
  · exact h

theorem openReference_silent (s : Session) (r : Locator) : (s.openReference r).Asks Silent := by
  simp only [openReference]
  refine afterRestore_asks (calm_resources (Restore.all_looks _)).silent
    (.bind (.left (s.openHere_hushed r)) fun opened => ?_)
  split
  · exact .bind (log_silent ..) fun _ => .pure _
  · split
    · exact .bind (log_silent ..) fun _ => .pure _
    · exact .bind (log_silent ..) fun _ => .pure _

theorem bind_silent (s : Session) : s.bind.Asks Silent := by
  refine .bind s.releaseBacking_calm.silent fun s => ?_
  split
  · exact .pure _
  · exact openReference_silent _ _

theorem setStreamNumber_silent (s : Session) (number : Int) :
    (s.setStreamNumber number).Asks Silent := by
  unfold setStreamNumber
  split
  · exact .pure _
  · exact .bind (bind_silent _) fun _ => .pure _

/-- The operations that are there to make the session sound. -/
def Plays : Operation → Prop
  | .play | .playFallback => True
  | _ => False

theorem perform_silent (s : Session) {o : Operation} (idle : ¬Plays o) :
    (s.perform o).Asks Silent := by
  cases o with
  | setReference _ | setAttributes _ => exact .bind (bind_silent _) fun _ => .pure _
  | setStreamNumber number =>
      refine .bind (s.setStreamNumber_silent number) fun result => ?_
      split
      · exact .pure _
      · exact .pure _
  | attributes | stream | reference | allowsRemote | setTitle _ => exact .pure _
  | title => exact .bind s.getTitle_calm.silent fun _ => .pure _
  | stop => exact .bind s.releaseBacking_calm.silent fun _ => .pure _
  | isPlaying => exact .bind s.isPlaying_calm.silent fun _ => .pure _
  | play | playFallback => exact absurd trivial idle

end Session
end AlertSound
