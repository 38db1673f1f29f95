import AlertSound.Proofs.Session.Takeover

/-!
How a session plays. It starts the player it holds, or hands the sound over, or falls back
to the bundled sound, in this order, and it takes the next step only if the one before
could not be made or was refused. A muted stream stops it before the first.
-/
namespace AlertSound

open Program Trace Studio
open Resource (asked)

def Studio.Logs : Studio.Call → Prop
  | .inl (.inl c) => c.isLog = true
  | .inl (.inr _) | .inr _ => False

namespace Studio

variable {t : Trace Studio}

theorem asked_of_logs (h : ∀ e ∈ t, Logs e.call) : asked (resources t) = [] := by
  refine List.filter_eq_nil_iff.mpr fun e he => ?_
  have log : e.call.isLog = true := h _ (mem_lefts.mp (mem_lefts.mp he))
  simp [log]

theorem remote_of_logs (h : ∀ e ∈ t, Logs e.call) : remote t = [] :=
  List.eq_nil_iff_forall_not_mem.mpr fun _ he => h _ (mem_rights.mp he)

theorem assetless_of_logs (h : ∀ e ∈ t, Logs e.call) :
    ∀ e ∈ t, e.call ≠ .inl (.inl .openAsset) := by
  intro e he asset
  have log := h e he
  rw [asset] at log
  cases log

end Studio

def Remote.Call.isPlay : Remote.Call → Bool
  | .play _ _ _ => true
  | .stop _ | .isPlaying _ => false

def Resource.Call.takesAsset : Resource.Call → Bool
  | .openAsset => true
  | _ => false

theorem Fallback.Attempt.takesAsset_once {reference : Option Locator} {attributes : Attributes}
    {t : Trace Resources} {u : Trace Engines} {result : Except Fallback.Error Player}
    (h : Attempt reference attributes t u result) :
    t.countP (fun e => e.call.takesAsset) ≤ 1 := by
  have examined {t : Trace Resources} {eligible : Bool} (h : Examined reference t eligible) :
      t.countP (fun e => e.call.takesAsset) = 0 := by
    cases h with
    | other _ | unnamed _ _ _ | eligible _ _ => rfl
  have fetched {t : Trace Resources} {source : Except AssetError Source} (h : Fetched t source) :
      t.countP (fun e => e.call.takesAsset) = 1 := by
    cases h with
    | absent e | unreadable asset e | whole asset file => rfl
  have level : (Resource.Call.volume attributes.stream).takesAsset = false := rfl
  cases h with
  | silent => exact Nat.zero_le 1
  | ineligible _ read => simp [level, examined read]
  | unfetched _ read taken | unplayed _ read taken _ | playing _ read taken _ =>
      simp [level, examined read, fetched taken]

namespace Session

variable {s : Session}

/-- How the sound is handed over: what is asked on the way, and what the remote player
answers if it is asked to play. -/
inductive Handing (s : Session) : Trace Studio → Option (Except TransportError Unit) → Prop where
  | barred : s.delegate = none ∨ s.reference = none → Handing s [] none
  | unresolved {token r v u} : s.delegate = some token → s.reference = some r →
      (resolveActual r).Runs v none → (∀ e ∈ u, Logs e.call) →
      Handing s (v.map (Event.left ∘ Event.left) ++ u) none
  | asked {token r actual v u} (answer) : s.delegate = some token → s.reference = some r →
      (resolveActual r).Runs v (some actual) → (∀ e ∈ u, Logs e.call) →
      Handing s (v.map (Event.left ∘ Event.left) ++ u ++
        [⟨.inr (.play token actual.canonical s.attributes), answer⟩]) (some answer)

/-- How the session falls back to the bundled sound: it is tried once, and if it plays, the
session gives up what it had before. -/
inductive FallenBack (s : Session) : Trace Studio → Session → Prop where
  | vain {t u} : (Fallback.play s.reference s.attributes).Runs t none →
      (∀ e ∈ u, Logs e.call) → FallenBack s (t.map Event.left ++ u) s
  | playing {t u player} : (Fallback.play s.reference s.attributes).Runs t (some player) →
      ⟨.start player.handle, .ok ()⟩ ∈ rights t → GivenUp s u { s with backing := .unbound } →
      FallenBack s (t.map Event.left ++ u) { s with backing := .held player }

theorem log_logs (level : Log.Level) (message : String)
    (fields : List (String × Log.FieldValue)) :
    ((log level message fields).left.left : Program Studio Unit).Asks Logs :=
  .left (.left (.request rfl))

theorem delegatePlay_handing (s : Session) : s.delegatePlay.Ensures (Handing s) := by
  unfold delegatePlay
  split
  · rename_i token r may sound
    simp only [ensures_bind, lift_left_left, ensures_left, List.map_map]
    refine (ensures_runs _).mono fun v actual resolved => ?_
    cases actual with
    | none =>
        simp only [ensures_bind]
        refine Ensures.mono (log_logs ..) fun u _ logs => ensures_pure.mpr ?_
        rw [List.append_nil]
        exact .unresolved may sound resolved logs
    | some actual =>
        simp only [ensures_bind]
        refine Ensures.mono (log_logs ..) fun u _ logs => ?_
        simp only [Remote.play, lift_right, ensures_right, ensures_call, ensures_done]
        refine fun answer => ensures_pure.mpr ?_
        rw [List.append_nil, ← List.append_assoc]
        exact .asked answer may sound resolved logs
  · rename_i free
    refine ensures_pure.mpr (.barred ?_)
    cases may : s.delegate with
    | none => exact .inl rfl
    | some token =>
        cases sound : s.reference with
        | none => exact .inr rfl
        | some r => exact (free token r may sound).elim

theorem playInstead_fallenBack (valid : s.Valid) (message : String)
    (fields : List (String × Log.FieldValue)) :
    (s.playInstead message fields).Ensures (FallenBack s) := by
  simp only [playInstead, playFallback, ensures_bind, lift_left, ensures_left]
  have played := (ensures_runs (Fallback.play s.reference s.attributes)).and
    (Fallback.play_attempt s.reference s.attributes)
  refine played.mono fun t result ⟨runs, tried, attempt, outcome⟩ => ?_
  cases result with
  | none =>
      simp only [ensures_pure, Bool.not_false, if_true, ensures_bind]
      refine Ensures.mono (log_logs ..) fun u _ logs => ?_
      simpa using FallenBack.vain runs logs
  | some player =>
      simp only [ensures_bind]
      refine (releaseBacking_givenUp valid).mono fun u s₁ givenUp => ?_
      obtain rfl := givenUp.unbound
      have started : ⟨.start player.handle, .ok ()⟩ ∈ rights t := by
        cases tried with
        | error e => cases outcome
        | ok player' =>
            cases outcome
            obtain ⟨_, _, _, -, -, opened, -⟩ := attempt.ok
            simp [opened]
      simpa using FallenBack.playing runs started givenUp

/-- A session that has no player of its own goes through the ladder. -/
inductive Ladder (s : Session) : Trace Studio → Session → Prop where
  | handedOver {t} : Handing s t (some (.ok ())) → Ladder s t { s with backing := .delegated }
  | fallenBack {t answer u s'} : Handing s t answer → answer ≠ some (.ok ()) →
      FallenBack s u s' → Ladder s (t ++ u) s'

inductive Played (s : Session) (level : Nat) : Trace Studio → Session → Prop where
  | muted {t} : level = 0 → (∀ e ∈ t, Logs e.call) → Played s level t s
  | here {player t} (answer) : level ≠ 0 → s.backing = .held player → (∀ e ∈ t, Logs e.call) →
      Played s level (⟨.inl (.inr (.start player.handle)), answer⟩ :: t) s
  | elsewhere {t s'} : level ≠ 0 → (∀ player, s.backing ≠ .held player) → Ladder s t s' →
      Played s level t s'

theorem play_played (valid : s.Valid) : s.play.Ensures fun t s' => ∃ (level : Nat) (rest : _),
    t = ⟨.inl (.inl (.volume s.stream)), level⟩ :: rest ∧ Played s level rest s' := by
  have muted {level : Nat} (silent : level = 0) : (do
      liftM s.logMuted
      return s : Program Studio Session).Ensures (Played s level) := by
    simp only [ensures_bind]
    refine Ensures.mono (log_logs ..) fun u _ logs => ensures_pure.mpr ?_
    simpa using .muted silent logs
  simp only [play, Resource.volume, ensures_bind, lift_left_left, ensures_left, ensures_call,
    ensures_done]
  intro level
  refine Ensures.mono (Q := Played s level) ?_ fun t s' played => ⟨level, t, rfl, played⟩
  split
  · rename_i player held
    split
    · exact muted ‹_›
    · rename_i heard
      simp only [Player.start, Engine.start, lift_left, lift_right, ensures_bind, ensures_left,
        ensures_right, ensures_call, ensures_done]
      intro answer
      have here {t : Trace Studio} (logs : ∀ e ∈ t, Logs e.call) : Played s level
          ((⟨.start player.handle, answer⟩ : Event Engines).right.left :: t) s :=
        .here answer heard held logs
      cases answer with
      | ok => exact ensures_pure.mpr (by simpa using here (List.forall_mem_nil _))
      | error e =>
          simp only [ensures_bind]
          refine Ensures.mono (log_logs ..) fun u _ logs => ensures_pure.mpr ?_
          simpa using here logs
  · rename_i free
    split
    · exact muted ‹_›
    · rename_i heard
      simp only [ensures_bind]
      refine (delegatePlay_handing s).mono fun t answer handing => ?_
      cases answer with
      | none =>
          refine (playInstead_fallenBack valid ..).mono fun u s' fallen => ?_
          exact .elsewhere heard free (.fallenBack handing (by simp) fallen)
      | some answer =>
          cases answer with
          | ok => exact ensures_pure.mpr (by
              simpa using Played.elsewhere heard free (.handedOver handing))
          | error e =>
              refine (playInstead_fallenBack valid ..).mono fun u s' fallen => ?_
              exact .elsewhere heard free (.fallenBack handing (by simp) fallen)

theorem Handing.remote {t : Trace Studio} {answer : Option (Except TransportError Unit)}
    (h : Handing s t answer) : (Studio.remote t).length ≤ 1 := by
  cases h with
  | barred _ => exact Nat.zero_le 1
  | unresolved _ _ _ logs => simp [remote_of_logs logs]
  | asked answer _ _ _ logs =>
      simp only [remote_append, remote_map_resource, remote_of_logs logs, List.nil_append]
      exact Nat.le_refl 1

theorem Handing.assetless {t : Trace Studio} {answer : Option (Except TransportError Unit)}
    (h : Handing s t answer) : ∀ e ∈ t, e.call ≠ .inl (.inl .openAsset) := by
  have resolved {r : Locator} {v : Trace Resources} {actual : Option Locator}
      (runs : (resolveActual r).Runs v actual) :
      ∀ e ∈ v.map (Event.left (J := Remotes) ∘ Event.left (J := Engines)),
        e.call ≠ .inl (.inl .openAsset) := by
    have quiet : ∀ e ∈ v, e.call ≠ .openAsset := (resolveActual_looks r).quiet runs
    refine List.forall_mem_map.mpr fun e he same => ?_
    obtain ⟨c, answer⟩ := e
    cases same
    exact quiet _ he rfl
  cases h with
  | barred _ => exact List.forall_mem_nil _
  | unresolved _ _ runs logs =>
      exact List.forall_mem_append.mpr ⟨resolved runs, assetless_of_logs logs⟩
  | asked answer _ _ runs logs =>
      refine List.forall_mem_append.mpr
        ⟨List.forall_mem_append.mpr ⟨resolved runs, assetless_of_logs logs⟩, ?_⟩
      exact List.forall_mem_singleton.mpr Sum.inr_ne_inl

theorem Handing.takesAsset {t : Trace Studio} {answer : Option (Except TransportError Unit)}
    (h : Handing s t answer) :
    (Resource.asked (resources t)).countP (fun e => e.call.takesAsset) = 0 := by
  refine List.countP_eq_zero.mpr fun e he takes => ?_
  have mem := mem_lefts.mp (mem_lefts.mp (Resource.mem_asked.mp he).1)
  obtain ⟨c, answer⟩ := e
  cases c with
  | openAsset => exact h.assetless _ mem rfl
  | _ => cases takes

theorem FallenBack.remote {t : Trace Studio} {s' : Session} (h : FallenBack s t s') :
    ∀ e ∈ Studio.remote t, e.call.isPlay = false := by
  cases h with
  | vain _ logs => simp [remote_of_logs logs]
  | playing _ _ givenUp =>
      have dismissed := givenUp.remote
      simp only [remote_append, remote_map_left, List.nil_append]
      generalize Studio.remote _ = u at dismissed ⊢
      cases dismissed with
      | none _ => exact List.forall_mem_nil _
      | stopped _ _ _ => exact List.forall_mem_singleton.mpr rfl

theorem FallenBack.takesAsset_once {t : Trace Studio} {s' : Session} (h : FallenBack s t s') :
    (asked (resources t)).countP (fun e => e.call.takesAsset) ≤ 1 := by
  cases h with
  | vain runs logs =>
      obtain ⟨_, attempt, -⟩ := Fallback.play_attempt _ _ runs
      simpa [asked_of_logs logs] using attempt.takesAsset_once
  | playing runs _ givenUp =>
      obtain ⟨_, attempt, -⟩ := Fallback.play_attempt _ _ runs
      simpa [givenUp.asked] using attempt.takesAsset_once

theorem Played.remote {level : Nat} {t : Trace Studio} {s' : Session} (h : Played s level t s') :
    (Studio.remote t).countP (fun e => e.call.isPlay) ≤ 1 := by
  have quiet {u : Trace Studio} (none : Studio.remote u = []) :
      (Studio.remote u).countP (fun e => e.call.isPlay) ≤ 1 := by simp [none]
  cases h with
  | muted _ logs => exact quiet (remote_of_logs logs)
  | here _ _ _ logs =>
      have none := remote_of_logs logs
      exact quiet none
  | elsewhere _ _ ladder =>
      cases ladder with
      | handedOver handing => exact Nat.le_trans List.countP_le_length handing.remote
      | fallenBack handing _ fallen =>
          have none := List.countP_eq_zero.mpr fun e he => Bool.eq_false_iff.mp (fallen.remote e he)
          rw [remote_append, List.countP_append, none]
          exact Nat.le_trans List.countP_le_length handing.remote

theorem Played.takesAsset_once {level : Nat} {t : Trace Studio} {s' : Session}
    (h : Played s level t s') :
    (asked (resources t)).countP (fun e => e.call.takesAsset) ≤ 1 := by
  cases h with
  | muted _ logs | here _ _ _ logs => exact asked_of_logs logs ▸ Nat.zero_le 1
  | elsewhere _ _ ladder =>
      cases ladder with
      | handedOver handing => exact handing.takesAsset ▸ Nat.zero_le 1
      | fallenBack handing _ fallen =>
          rw [resources_append, Resource.asked_append, List.countP_append, handing.takesAsset,
            Nat.zero_add]
          exact fallen.takesAsset_once

/-- The bundled sound is only turned to after handing over was impossible or refused. -/
theorem Played.refused {level : Nat} {t : Trace Studio} {s' : Session}
    (h : Played s level t s') {before after : Trace Studio} {e : Event Studio}
    (same : t = before ++ e :: after) (asset : e.call = .inl (.inl .openAsset)) :
    ∃ handing answer more, before = handing ++ more ∧ Handing s handing answer ∧
      answer ≠ some (.ok ()) := by
  have taken : e ∈ t := same ▸ List.mem_append_right before List.mem_cons_self
  cases h with
  | muted _ logs => exact absurd asset (assetless_of_logs logs e taken)
  | here answer _ _ logs =>
      cases List.mem_cons.mp taken with
      | inl start => rw [start] at asset; cases asset
      | inr later => exact absurd asset (assetless_of_logs logs e later)
  | elsewhere _ _ ladder =>
      cases ladder with
      | handedOver handing => exact absurd asset (handing.assetless e taken)
      | fallenBack handing refused _ =>
          cases append_eq_append_cons same with
          | inl first =>
              obtain ⟨_, -, within⟩ := first
              exact absurd asset (handing.assetless e (within ▸ by simp))
          | inr second =>
              obtain ⟨more, rfl, -⟩ := second
              exact ⟨_, _, more, rfl, handing, refused⟩

/-- Playing follows the ladder. Whatever the collaborators answer, the level of the stream is
asked for first. If it is zero, nothing but the log is touched and the session stays as it
is. Else a session that holds a player starts it once, asks nothing more, and keeps it even
if it does not start. Any other session hands its sound over if it may and if its locator
can be resolved, and not otherwise. If the remote player accepts, the session is delegated,
and the bundled sound was left alone. If it was not asked or refused, the bundled sound is
tried once: if it plays, the session holds the started player, else it is as it was. So the
remote player is asked to play at most once, the bundled sound is taken from the assets at
most once, and only after handing over was impossible or refused. -/
theorem play_follows_ladder (config : Config) (surface : Option Token) {run : List Episode}
    {s s' : Session} (h : History (.new config surface) run s) {t : Trace Studio}
    (runs : s.play.Runs t s') :
    ∃ (level : Nat) (rest : Trace Studio), t = ⟨.inl (.inl (.volume s.stream)), level⟩ :: rest ∧
      (level = 0 → s' = s ∧ ∀ e ∈ rest, Logs e.call) ∧
      (level ≠ 0 → ∀ player, s.backing = .held player →
        s' = s ∧ ∃ answer more, rest = ⟨.inl (.inr (.start player.handle)), answer⟩ :: more ∧
          ∀ e ∈ more, Logs e.call) ∧
      (level ≠ 0 → (∀ player, s.backing ≠ .held player) →
        ∃ handing answer more, rest = handing ++ more ∧ Handing s handing answer ∧
          (answer = some (.ok ()) → more = [] ∧ s' = { s with backing := .delegated } ∧
            ∀ e ∈ handing, e.call ≠ .inl (.inl .openAsset)) ∧
          (answer ≠ some (.ok ()) → FallenBack s more s')) ∧
      (Studio.remote rest).countP (fun e => e.call.isPlay) ≤ 1 ∧
      (asked (resources rest)).countP (fun e => e.call.takesAsset) ≤ 1 ∧
      ∀ before e after, rest = before ++ e :: after → e.call = .inl (.inl .openAsset) →
        ∃ handing answer more, before = handing ++ more ∧ Handing s handing answer ∧
          answer ≠ some (.ok ()) := by
  obtain ⟨level, rest, rfl, played⟩ := play_played (h.carried rfl rfl).valid runs
  refine ⟨level, rest, rfl, ?_, ?_, ?_, played.remote, played.takesAsset_once,
    fun before e after => played.refused⟩
  · intro silent
    cases played with
    | muted _ logs => exact ⟨rfl, logs⟩
    | here _ heard _ _ | elsewhere heard _ _ => exact absurd silent heard
  · intro heard player held
    cases played with
    | muted silent _ => exact absurd silent heard
    | here answer _ held' logs =>
        rw [held] at held'
        cases held'
        exact ⟨rfl, answer, _, rfl, logs⟩
    | elsewhere _ free _ => exact absurd held (free player)
  · intro heard free
    cases played with
    | muted silent _ => exact absurd silent heard
    | here answer _ held _ => exact absurd held (free _)
    | elsewhere _ _ ladder =>
        cases ladder with
        | handedOver handing =>
            exact ⟨_, _, [], by simp, handing, fun _ => ⟨rfl, rfl, handing.assetless⟩,
              fun refused => absurd rfl refused⟩
        | fallenBack handing refused fallen =>
            exact ⟨_, _, _, rfl, handing, fun accepted => absurd accepted refused, fun _ => fallen⟩

def declining : Handler Studio Nat
  | .inr (.play _ _ _), n => (.error .disconnected, n)
  | c, n => bundled false c n

def declined : List Episode × Session × Nat :=
  replay declining (.new .ordinary (some ⟨1⟩)) 0
    [.setReference (some (.settingsDefault (.ringtone 0)))]

def declinedPlay : Trace Studio × Session :=
  (declined.2.1.play.record declining declined.2.2,
    (declined.2.1.play.run declining declined.2.2).1)

theorem play_follows_ladder_declined :
    declined.2.1.backing = .unbound ∧ (Studio.remote declinedPlay.1).length = 1 ∧
      declinedPlay.2.handles = [0] ∧
      ∃ handing answer more, declinedPlay.1.tail = handing ++ more ∧
        Handing declined.2.1 handing answer ∧ FallenBack declined.2.1 more declinedPlay.2 := by
  have history : History (.new .ordinary (some ⟨1⟩)) declined.1 declined.2.1 :=
    history_replay declining _ 0 _
  obtain ⟨level, rest, same, muted, -, ladder, -⟩ := play_follows_ladder .ordinary (some ⟨1⟩)
    history (runs_record declining declined.2.1.play declined.2.2)
  have before : declined.2.1.backing = .unbound := by decide +kernel
  have after : declinedPlay.2.handles = [0] := by decide +kernel
  have heard : level ≠ 0 := fun silent => by
    have kept : declinedPlay.2 = declined.2.1 := (muted silent).1
    simp [kept, handles, before] at after
  obtain ⟨handing, answer, more, split, handed, accepted, refused⟩ :=
    ladder heard (by simp [before])
  refine ⟨before, by decide +kernel, after, handing, answer, more, ?_, handed, refused ?_⟩
  · rw [show declinedPlay.1 = _ from same, List.tail_cons, split]
  · intro yes
    have delegated : declinedPlay.2 = _ := (accepted yes).2.1
    simp [delegated, handles] at after

end Session
end AlertSound
