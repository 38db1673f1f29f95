import AlertSound.Proofs.Session.Alone
import AlertSound.Proofs.Session.Sharing

/-!
Sessions do not disturb each other. Many sessions share a worker, and each of them is
answered from a desk of its own, whatever calls of the others are served in between. If all
that they share answers by the question only, then each of them gets the replies that it
would get alone.
-/
namespace AlertSound

open Function Program Trace

variable {K H D : Type}

def Session.shown (s : Session) : Session :=
  match s.backing with
  | .held player => { s with backing := .held { player with handle := 0 } }
  | .unbound | .delegated => s

open Studio

theorem Session.Like.shown {ν : Names} {s s' : Session} (h : Session.Like ν s s') :
    s.shown = s'.shown := by
  cases h with
  | intro s plain backing =>
      cases backing with
      | unbound | delegated => rfl
      | held alike => simp [Session.shown, alike.source]

namespace Workshop

variable (shop : Workshop D) {c : Remote.Call} {all all' : Token → Option D}

/-- Nothing but the client's own desk is looked at. -/
theorem desks_of_eq (same : all c.token = all' c.token) :
    (shop.desks c all).1 = (shop.desks c all').1 ∧
      (shop.desks c all).2 c.token = (shop.desks c all').2 c.token := by
  simp [desks, same]

theorem desks_of_ne {token : Token} (other : token ≠ c.token) :
    (shop.desks c all).2 token = all token := update_of_ne other ..

end Workshop

namespace Premises

variable (P : Premises K H D)

/-- The answers of a session are allowed if those of each collaborator are. -/
theorem path_of_parts {t : Trace Studio} {s : Scene K H D} {T : Table K} {U : Table H}
    (library : (Dealing.conduct P.library.dealing).Path (resources t) s.cursors T)
    (own : P.engine.conduct.Path (Studio.engine t) s.handles U)
    (service : P.service.desks.Gives s.desks (remote t)) :
    ∃ s', P.conduct.Path t s s' := by
  induction t generalizing s with
  | nil => exact ⟨s, rfl⟩
  | cons e t ih =>
      obtain ⟨c, answer⟩ := e
      cases c with
      | inl c =>
          cases c with
          | inl c =>
              obtain ⟨T₁, first, library⟩ := library
              obtain ⟨s', rest⟩ := ih (s := { s with cursors := T₁ }) library own service
              exact ⟨s', _, ⟨T₁, first, rfl⟩, rest⟩
          | inr c =>
              obtain ⟨U₁, first, own⟩ := own
              obtain ⟨s', rest⟩ := ih (s := { s with handles := U₁ }) library own service
              exact ⟨s', _, ⟨U₁, first, rfl⟩, rest⟩
      | inr c =>
          obtain ⟨said, service⟩ := service
          obtain ⟨s', rest⟩ :=
            ih (s := { s with desks := (P.service.desks c s.desks).2 }) library own service
          exact ⟨s', _, ⟨said, rfl⟩, rest⟩

end Premises

namespace Session.Party

variable {shop : Workshop D} {all all' : Token → Option D} {token : Token} {p p' : Party}

structure Seated (shop : Workshop D) (all : Token → Option D) (token : Token) (p : Party) :
    Prop where
  given : shop.desks.Gives (fun _ => none) (remote p.trace)
  here : shop.desks.after (remote p.trace) (fun _ => none) token = all token

theorem Seated.elsewhere (h : Seated shop all token p) (same : all' token = all token) :
    Seated shop all' token p := ⟨h.given, h.here.trans same.symm⟩

theorem Seated.moved (h : Seated shop all token p) (move : p.Move [] p') :
    Seated shop all token p' := by
  have same : remote p'.trace = remote p.trace := by simpa using move.remote_trace
  exact ⟨same ▸ h.given, same ▸ h.here⟩

theorem Seated.asked (h : Seated shop all token p) {c : Remote.Call} {answer : Remotes.Answer c}
    (move : p.Move [⟨c, answer⟩] p') (mine : c.token = token)
    (served : (answer, all') = shop.desks c all) : Seated shop all' token p' := by
  have same := shop.desks_of_eq (mine ▸ h.here)
  constructor
  · rw [move.remote_trace, Handler.gives_append]
    exact ⟨h.given, (congrArg Prod.fst served).trans same.1.symm, trivial⟩
  · rw [move.remote_trace, Handler.after, List.foldl_append, ← Handler.after]
    subst mine
    exact same.2.trans (congrFun (congrArg Prod.snd served) c.token).symm

end Session.Party

namespace World

open Session

variable {ι : Type} {shop : Workshop D} {config : ι → Config} {token : ι → Token}

/-- While the worker is up it keeps a desk for each session, from which that session has
been answered. -/
def Seated (shop : Workshop D) (token : ι → Token) (W : World ι) : Prop :=
  ∀ ⦃w T⦄, W.worker = some w → shop.conduct.Path W.heard (fun _ => none) T →
    Remote.Keeps T w ∧ ∀ i, (W.parties i).Seated shop (w.desks T) (token i)

theorem seated_start (shop : Workshop D) (config : ι → Config) (token : ι → Token) :
    Seated shop token (start config token) := by
  intro w T up path
  cases up
  cases path
  exact ⟨.idle _, fun _ => ⟨trivial, rfl⟩⟩

variable [DecidableEq ι] {W W' : World ι}

/-- Desks change only when a call is served, and then only that of the session that made it. -/
theorem Step.seated (injective : Injective token)
    (sound : ∀ i, (W.parties i).Sound (.new (config i) (some (token i))))
    (h : Seated shop token W) (step : Step W W') : Seated shop token W' := by
  intro w T up path
  cases step with
  | alone i move =>
      obtain ⟨keeps, seated⟩ := h up path
      refine ⟨keeps, (forall_update_iff W.parties fun j p =>
        p.Seated shop (w.desks T) (token j)).mpr ⟨(seated i).moved move, fun j _ => seated j⟩⟩
  | @served i c answer p w₀ u w' move was runs =>
      cases up
      obtain ⟨T₀, before, after⟩ := Conduct.path_append.mp path
      obtain ⟨keeps, seated⟩ := h was before
      obtain ⟨keeps, served⟩ := keeps.served (Remote.serve_ensures w₀ c runs) after
      have mine : c.token = token i := move.token_eq (sound i) ⟨c, answer⟩ (by simp)
      refine ⟨keeps, (forall_update_iff W.parties fun j p =>
        p.Seated shop (w.desks T) (token j)).mpr ⟨(seated i).asked move mine served, ?_⟩⟩
      intro j other
      have apart : token j ≠ c.token := fun same => other (injective (same.trans mine))
      exact (seated j).elsewhere
        ((congrFun (congrArg Prod.snd served) (token j)).trans (shop.desks_of_ne apart))
  | refused i move gone => exact absurd (gone.symm.trans up) (by simp)
  | shutDown was runs => cases up

theorem Reachable.seated (injective : Injective token) (h : Reachable (start config token) W) :
    Seated shop token W := by
  induction h with
  | refl => exact seated_start shop config token
  | tail reached step ih => exact step.seated injective (Reachable.sound reached) ih

/-- Sessions do not disturb each other. Sessions with tokens of their own share a worker
that has not been shut down, and make their calls in any order. What such a session asks
of the resources and of its own engine, and what the worker asks of its engine, is answered
by the question only: a cursor and a handle answer for themselves, whatever is asked of
others. Then, after any of its operations, the replies that a session without a restore pass
has got and what it shows are those that the same operations bring about if it is alone. -/
theorem sessions_apart (P : Premises K H D) (config : ι → Config) (token : ι → Token)
    (injective : Injective token) (h : Reachable (start config token) W) (up : W.worker ≠ none)
    (served : P.service.conduct.Allows (fun _ => none) W.heard) (i : ι)
    (plain : (config i).restore.enabled = false)
    (library : (Dealing.conduct P.library.dealing).Allows (fun _ => none)
      (resources (W.parties i).trace))
    (own : P.engine.conduct.Allows (fun _ => none) (engine (W.parties i).trace))
    (past rest : List Episode) (s : Session) (run : (W.parties i).run = past ++ rest)
    (history : History (.new (config i) (some (token i))) past s) :
    let alone := replay P.alone (.new (config i) (some (token i))) .start
      (past.map Episode.operation)
    past.map Episode.reply = alone.1.map Episode.reply ∧ s.shown = alone.2.1.shown := by
  intro alone
  -- The session is answered from its desk, so the premises allow all that it was answered.
  obtain ⟨w, up⟩ := Option.ne_none_iff_exists'.mp up
  obtain ⟨T, heard⟩ := served
  obtain ⟨-, seated⟩ := Reachable.seated injective h up heard
  obtain ⟨C, library⟩ := library
  obtain ⟨U, own⟩ := own
  obtain ⟨s, whole⟩ := P.path_of_parts (s := Solitude.start.scene) library own (seated i).given
  rw [Party.trace, run, events_append, List.append_assoc] at whole
  obtain ⟨s₁, first, -⟩ := Conduct.path_append.mp whole
  -- They allow what it is answered alone too, and both runs begin without any names.
  have begun : Session.Like ⟨fun _ _ => False, fun _ _ => False⟩
      (.new (config i) (some (token i))) (.new (config i) (some (token i))) :=
    .intro (.new (config i) (some (token i))) plain .unbound
  obtain ⟨ν, -, alike, replies⟩ := P.history_inStep begun ⟨.nothing _ _, .nothing _ _, rfl⟩
    history (history_replay P.alone _ .start _) (operations_replay P.alone _ .start _).symm
    first (P.replay_path _ .start (.idle _) _)
  exact ⟨replies, alike.shown⟩

/-- Every sound is a bell, the sessions' engine opens none of them, and the engine of the
remote player plays them until they are stopped. -/
def bells : Premises Unit Unit Bool where
  library :=
    { volume := fun _ => 5
      setting := fun _ => none
      putSetting := fun _ _ => .ok ()
      query := fun _ _ => .ok ()
      find := fun _ => .ok ()
      count := fun _ => 1
      moveToFirst := fun _ => (true, ())
      cell := fun _ _ => some "Bell"
      close := id
      asset := .error (.notFound "")
      duplicate := .ok }
  engine :=
    { make := fun _ _ => .error (.noData "")
      prepare := fun h => (.ok (), h)
      start := fun h => (.ok (), h)
      stop := id
      reset := id
      release := id
      isPlaying := fun _ => false }
  service :=
    { make := fun _ _ => .ok false
      prepare := fun h => (.ok (), h)
      start := fun _ => (.ok (), true)
      stop := fun _ => false
      reset := fun _ => false
      release := fun _ => false
      isPlaying := id }

def twoBells : World Bool :=
  performAll (bells.library.stage bells.engine) (bells.library.stage bells.service)
    [(true, .setReference (some (.media .inside 1))), (true, .play),
      (false, .setReference (some (.media .inside 2))), (false, .play), (true, .isPlaying),
      (true, .title), (false, .stop), (true, .isPlaying)]
    (start (fun _ => .ordinary) firstOrSecond) (.empty, .empty) (.empty, .empty)

theorem sessions_apart_bells :
    let alone := replay bells.alone (.new .ordinary (some ⟨1⟩)) .start
      [.setReference (some (.media .inside 1)), .play, .isPlaying, .title, .isPlaying]
    alone.1.map Episode.reply = [.done, .done, .flag true, .title "Bell", .flag true] ∧
      (twoBells.parties true).session.shown = alone.2.1.shown := by
  have injective : Injective firstOrSecond := by
    intro a b
    cases a <;> cases b <;> decide
  have reachable : Reachable (start (fun _ => .ordinary) firstOrSecond) twoBells :=
    reachable_performAll _ _ _ _ _ _ fun _ => rfl
  have served : bells.service.conduct.Allows (fun _ => none) twoBells.heard :=
    ⟨_, .cons (.made 0 rfl) <| .cons (.used rfl) <| .cons (.used rfl) <|
      .cons (.made 1 rfl) <| .cons (.used rfl) <| .cons (.used rfl) <|
      .cons (.used rfl) <| .cons (.used rfl) <| .cons (.used rfl) <| .cons (.used rfl) <|
      .cons (.used rfl) .nil⟩
  have library : (Dealing.conduct bells.library.dealing).Allows (fun _ => none)
      (resources (twoBells.parties true).trace) :=
    ⟨_, .cons .told <| .cons .told <| .cons .told <| .cons (.made 0 rfl) <|
      .cons (.used rfl) <| .cons (.used rfl) <| .cons (.used rfl) <| .cons (.used rfl) .nil⟩
  have own : bells.engine.conduct.Allows (fun _ => none) (engine (twoBells.parties true).trace) :=
    ⟨_, .cons .told .nil⟩
  have up : twoBells.worker ≠ none := Option.isSome_iff_ne_none.mp rfl
  obtain ⟨replies, shown⟩ := sessions_apart bells _ _ injective reachable up served true rfl
    library own _ [] _ (List.append_nil _).symm (Reachable.sound reachable true).history
  exact ⟨replies.symm, shown⟩

end World
end AlertSound
