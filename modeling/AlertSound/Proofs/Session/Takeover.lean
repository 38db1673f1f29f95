import AlertSound.Proofs.Playback.Bundled
import AlertSound.Proofs.Session.Overlap

/-!
The bundled sound takes over or nothing happens. What the session played before is left
alone until the bundled sound has been started; only then is it given up, once. An attempt
that comes to nothing keeps nothing it opened.
-/
namespace AlertSound.Session

open Program Trace Studio
open Resource (asked asked_cons)
open Fallback (Attempt)

variable {s s' : Session}

inductive Dismissed (s : Session) : Trace Remotes → Prop where
  | none : s.backing ≠ .delegated → Dismissed s []
  | stopped {token} (answer) : s.backing = .delegated → s.delegate = some token →
      Dismissed s [⟨.stop token, answer⟩]

/-- What the session played is ended in full and nothing else is touched. -/
structure GivenUp (s : Session) (t : Trace Studio) (s' : Session) : Prop where
  asked : asked (resources t) = []
  engine : engine t = s.handles.flatMap Player.ending
  remote : Dismissed s (remote t)
  unbound : s' = { s with backing := .unbound }

theorem releaseBacking_givenUp (valid : s.Valid) : s.releaseBacking.Ensures (GivenUp s) := by
  unfold releaseBacking
  split
  · rename_i unbound
    exact ensures_pure.mpr ⟨rfl, by simp [handles, unbound], .none (by simp [unbound]), rfl⟩
  · rename_i player held
    simp only [ensures_bind, lift_left, ensures_left]
    have dropped := (Player.drop_ensures player).and player.drop_unaided
    refine dropped.mono fun t _ both => ensures_pure.mpr ?_
    obtain ⟨ended, unaided⟩ := both
    exact
      { asked := by simp [Stage.asked_of_unaided unaided]
        engine := by simp [handles, held, ended]
        remote := by simpa using Dismissed.none (by simp [held])
        unbound := rfl }
  · rename_i delegated
    split
    · rename_i never
      simp [Valid, delegated, never] at valid
    · rename_i token may
      simp only [Remote.stop, ensures_bind, lift_right, ensures_right, ensures_call, ensures_done]
      intro answer
      have silent : s.handles = [] := by simp [handles, delegated]
      have stopped := Dismissed.stopped answer delegated may
      cases answer with
      | ok => exact ensures_pure.mpr ⟨by simp, by simp [silent], by simpa using stopped, rfl⟩
      | error e =>
          simp only [log, Resource.log, lift_left_left, ensures_bind, ensures_left, ensures_call,
            ensures_done]
          exact fun _ => ensures_pure.mpr
            ⟨by simp [asked_cons, Resource.Call.isLog], by simp [silent], by simpa using stopped, rfl⟩

inductive Tried (s : Session) (t : Trace Studio) : Bool × Session → Prop where
  | vain {e} : Attempt s.reference s.attributes (asked (resources t)) (engine t) (.error e) →
      remote t = [] → Tried s t (false, s)
  | played {u player} : Attempt s.reference s.attributes (asked (resources t)) u (.ok player) →
      engine t = u ++ s.handles.flatMap Player.ending → Dismissed s (remote t) →
      Tried s t (true, { s with backing := .held player })

theorem playFallback_tried (valid : s.Valid) : s.playFallback.Ensures (Tried s) := by
  simp only [playFallback, ensures_bind, lift_left, ensures_left]
  refine (Fallback.play_attempt s.reference s.attributes).mono fun t result attempt => ?_
  obtain ⟨tried, attempt, rfl⟩ := attempt
  cases tried with
  | error e => exact ensures_pure.mpr (.vain (by simpa using attempt) (by simp))
  | ok player =>
      simp only [Except.toOption, ensures_bind]
      refine (releaseBacking_givenUp valid).mono fun u s₁ givenUp => ensures_pure.mpr ?_
      obtain ⟨silent, ended, dismissed, rfl⟩ := givenUp
      exact .played (by simpa [silent] using attempt) (by simp [ended]) (by simpa using dismissed)

def TakenOver (s : Session) (t : Trace Studio) (s' : Session) : Prop :=
  ∃ cleared asset file handle,
    let source := Source.descriptor file asset.offset asset.length
    Fallback.Cleared s.reference s.attributes cleared ∧
      asked (resources t) =
        cleared ++ [⟨.openAsset, .ok asset⟩, ⟨.duplicate asset.file, .ok file⟩] ∧
      engine t =
        [⟨.openSource source s.attributes, .ok handle⟩, ⟨.prepare handle, .ok ()⟩,
          ⟨.start handle, .ok ()⟩] ++ s.handles.flatMap Player.ending ∧
      Dismissed s (remote t) ∧
      s' = { s with backing := .held ⟨handle, source.text⟩ }

theorem Tried.attempt {t : Trace Studio} {result : Bool × Session} (h : Tried s t result) :
    ∃ u tried, Attempt s.reference s.attributes (asked (resources t)) u tried ∧
      tried.isOk = result.1 ∧ ((∀ e ∈ engine t, Fallback.Obeys e) ↔ ∀ e ∈ u, Fallback.Obeys e) := by
  cases h with
  | vain attempt _ => exact ⟨_, _, attempt, rfl, .rfl⟩
  | played attempt ended _ =>
      refine ⟨_, _, attempt, rfl, ?_⟩
      have endings : ∀ e ∈ s.handles.flatMap Player.ending, Fallback.Obeys e := by
        intro e he
        obtain ⟨handle, -, he⟩ := List.mem_flatMap.mp he
        simp only [Player.ending, List.mem_cons, List.not_mem_nil, or_false] at he
        rcases he with rfl | rfl | rfl <;> trivial
      rw [ended, List.forall_mem_append]
      exact and_iff_left endings

/-- The bundled sound takes over or nothing happens. Whatever the collaborators answer, if
it does not play, then the session is as it was, the remote player was told nothing, every
handle that was opened on the way has been stopped, reset and released, and no other handle
was called. It plays exactly if the session's sound is a default ringtone and all that was
asked was answered favourably: the stream can be heard, the setting names a sound that is
not itself a default, the assets hold the bundled sound and a second descriptor of it can be
had, and the engine opens, prepares and starts it. Then the session holds the player that
was started, and what it played before was ended once it had been: its own player in full,
or a delegation by one stop. The assets are asked only after the stream was found to be
heard and the setting to name such a sound. -/
theorem bundled_takes_over_or_nothing (config : Config) (surface : Option Token)
    {run : List Episode} {s : Session} (h : History (.new config surface) run s)
    {t : Trace Studio} {played : Bool} {s' : Session}
    (runs : s.playFallback.Runs t (played, s')) :
    (played = false →
      s' = s ∧ remote t = [] ∧
        (∀ handle ∈ Engine.opened (engine t), Engine.Finished (Engine.calls handle (engine t))) ∧
        ∀ handle, handle ∉ Engine.opened (engine t) → Engine.calls handle (engine t) = []) ∧
    (played = true ↔ Fallback.IsRingtone s.reference ∧
      (∀ e ∈ resources t, Fallback.Favours e) ∧ ∀ e ∈ engine t, Fallback.Obeys e) ∧
    (played = true → TakenOver s t s') ∧
    ∀ before e after, resources t = before ++ e :: after → e.call = .openAsset →
      Fallback.Cleared s.reference s.attributes (asked before) := by
  have tried := playFallback_tried (h.carried rfl rfl).valid runs
  obtain ⟨u, result, attempt, outcome, obeys⟩ := tried.attempt
  refine ⟨?_, ?_, ?_, ?_⟩
  · intro vain
    subst vain
    cases tried with
    | vain attempt quiet =>
        have books := attempt.books
        exact ⟨rfl, quiet, fun handle known => books.finished handle known nofun, books.unknown⟩
  · rw [obeys, ← Fallback.favours_asked, ← attempt.favours_iff, outcome]
  · intro yes
    subst yes
    cases tried with
    | played attempt ended dismissed =>
        obtain ⟨cleared, asset, file, clear, read, opened, source⟩ := attempt.ok
        refine ⟨cleared, asset, file, _, clear, read, opened ▸ ended, dismissed, ?_⟩
        rw [← source]
  · intro before e after same asset
    have place : asked (resources t) = asked before ++ e :: asked after := by
      simp [same, asked_cons, asset, Resource.Call.isLog]
    exact attempt.cleared place asset

/-- An engine that opens the bundled sound, but starts it only if told to. -/
def startable (starts : Bool) : Handler Studio Nat
  | .inl (.inr (.start handle)), n =>
    if starts then bundled true (.inl (.inr (.start handle))) n else (.error (.noData ""), n)
  | c, n => bundled true c n

def insteadOfRinging (starts : Bool) : Trace Studio × Bool × Session :=
  let attempt := (ringing true).2.1.playFallback
  (attempt.record (startable starts) (ringing true).2.2,
    (attempt.run (startable starts) (ringing true).2.2).1)

theorem bundled_takes_over_or_nothing_ringing :
    (insteadOfRinging false).2 = (false, (ringing true).2.1) ∧
      Engine.Finished (Engine.calls 1 (engine (insteadOfRinging false).1)) ∧
      Engine.calls 0 (engine (insteadOfRinging false).1) = [] ∧
      TakenOver (ringing true).2.1 (insteadOfRinging true).1 (insteadOfRinging true).2.2 := by
  have tried (starts : Bool) : (ringing true).2.1.playFallback.Runs (insteadOfRinging starts).1
      ((insteadOfRinging starts).2.1, (insteadOfRinging starts).2.2) :=
    runs_record (startable starts) _ (ringing true).2.2
  obtain ⟨vain, -⟩ := bundled_takes_over_or_nothing .ordinary none (ringing_history true)
    (tried false)
  obtain ⟨-, -, played, -⟩ := bundled_takes_over_or_nothing .ordinary none (ringing_history true)
    (tried true)
  have failed : (insteadOfRinging false).2.1 = false := by decide +kernel
  obtain ⟨same, -, released, untouched⟩ := vain failed
  refine ⟨Prod.ext failed same, released 1 (by decide +kernel), untouched 0 (by decide +kernel), ?_⟩
  exact played (by decide +kernel)

end AlertSound.Session
