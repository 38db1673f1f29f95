import AlertSound.Proofs.Session.Sharing

/-!
What a session leaves behind. Its own handle is released when it goes, but nobody tells
the remote player: what was delegated stays delegated, and the worker keeps the player,
whatever the sessions that remain do, until it is shut down itself.
-/
namespace AlertSound

open Program Trace Studio Session Remote

namespace Session

theorem drop_unsaid (s : Session) : s.drop.Ensures fun t _ => remote t = [] := by
  unfold drop
  split
  · simp only [lift_left, ensures_left]
    exact .of_forall fun t _ => remote_map_left t
  · exact ensures_pure.mpr rfl
  · exact ensures_pure.mpr rfl

/-- Going changes nothing about the delegation. -/
theorem History.drop_outstanding {config : Config} {surface : Option Token} {run : List Episode}
    {s : Session} (h : History (.new config surface) run s) {last : Trace Studio}
    (dropped : s.drop.Runs last ()) :
    remote last = [] ∧ outstanding (remote (events run ++ last)) = s.isDelegated := by
  have unsaid := s.drop_unsaid dropped
  refine ⟨unsaid, ?_⟩
  rw [remote_append, unsaid, List.append_nil]
  exact (h.carried rfl rfl).delegation

end Session

namespace World

open Function

variable {ι : Type} [DecidableEq ι] {config : ι → Config} {token : ι → Token} {W W' : World ι}

/-- One step in which this session has no part, as when it is gone. -/
def StepWithout (i : ι) (W W' : World ι) : Prop := Step W W' ∧ W'.parties i = W.parties i

def Leaves (token : Token) (W W' : World ι) : Prop :=
  ∀ w', W'.worker = some w' → ∃ w, W.worker = some w ∧ w'.player? token = w.player? token

omit [DecidableEq ι] in
theorem Leaves.trans {token : Token} {W₁ : World ι} (h : Leaves token W W₁)
    (h' : Leaves token W₁ W') : Leaves token W W' := by
  intro w' up'
  obtain ⟨w₁, up₁, same'⟩ := h' w' up'
  obtain ⟨w, up, same⟩ := h w₁ up₁
  exact ⟨w, up, same'.trans same⟩

omit [DecidableEq ι] in
theorem Leaves.entries_eq_zero {token : Token} (h : Leaves token W W')
    (none : W.entries token = 0) : W'.entries token = 0 := by
  unfold entries
  split
  · rfl
  · rename_i w' up'
    obtain ⟨w, up, same⟩ := h w' up'
    simp only [entries, up, Worker.entries_eq_zero_iff] at none ⊢
    exact same.trans none

theorem StepWithout.leaves (injective : Injective token)
    (reached : Reachable (start config token) W) {i : ι} (h : StepWithout i W W') :
    Leaves (token i) W W' := by
  obtain ⟨step, rests⟩ := h
  cases step with
  | alone j move => exact fun w' up' => ⟨w', up', rfl⟩
  | @served j c answer p w u w' move up runs =>
      have other : j ≠ i := by
        intro same
        subst same
        have grown := move.remote_trace
        rw [parties_put] at rests
        simp [rests] at grown
      have served : Remote.Served w c (rights u) answer w' := Remote.serve_ensures w c runs
      have theirs : c.token = token j :=
        move.token_eq (Reachable.sound reached j) ⟨c, answer⟩ (by simp)
      have apart : token i ≠ c.token := fun same => other (injective (theirs ▸ same)).symm
      intro w₁ up₁
      cases up₁
      exact ⟨w, up, served.elsewhere apart⟩
  | refused j move gone => exact fun w' up' => ⟨w', up', rfl⟩
  | shutDown up runs => exact fun w' up' => nomatch up'

theorem leaves_of_reachable (injective : Injective token)
    (reached : Reachable (start config token) W) {i : ι}
    (h : Relation.ReflTransGen (StepWithout i) W W') : Leaves (token i) W W' := by
  have within {W₁ : World ι} (h : Relation.ReflTransGen (StepWithout i) W W₁) :
      Reachable (start config token) W₁ :=
    reached.trans (Relation.ReflTransGen.mono (fun _ _ step => step.1) _ _ h)
  induction h with
  | refl => exact fun w up => ⟨w, up, rfl⟩
  | tail before step ih => exact ih.trans (step.leaves injective (within before))

/-- What is delegated outlives the session. A session that goes says nothing to the
remote player, so no delegation is left after it if and only if it had not delegated. Where
sessions share a worker, the worker keeps the player that it has for the session, whatever
the others do, until it is shut down; it has none for a session that had not delegated. -/
theorem delegation_outlives_session {config : Config} {surface : Option Token}
    {run : List Episode} {s : Session} (h : History (.new config surface) run s)
    {last : Trace Studio} (dropped : s.drop.Runs last ()) :
    remote last = [] ∧
    (outstanding (remote (events run ++ last)) = false ↔ s.backing ≠ .delegated) ∧
    ∀ (ι : Type) [DecidableEq ι] (config : ι → Config) (token : ι → Token) (W W' : World ι)
      (i : ι), Injective token → Reachable (start config token) W → W.parties i = ⟨s, run, none⟩ →
      Relation.ReflTransGen (StepWithout i) W W' →
        Leaves (token i) W W' ∧ (s.backing ≠ .delegated → W'.entries (token i) = 0) := by
  obtain ⟨unsaid, delegation⟩ := h.drop_outstanding dropped
  refine ⟨unsaid, ?_, ?_⟩
  · rw [delegation, Ne, ← isDelegated_iff, Bool.not_eq_true]
  · intro ι _ config token W W' i injective reached here later
    have leaves := leaves_of_reachable injective reached later
    refine ⟨leaves, fun other => leaves.entries_eq_zero ?_⟩
    have sound := Reachable.sound reached i
    have bound := (Reachable.consistent injective reached).delegated_of_entry sound
    rw [here] at bound
    exact Nat.eq_zero_of_not_pos fun has => other (bound rfl has)

theorem firstOrSecond_injective : Injective firstOrSecond := by
  intro a b
  cases a <;> cases b <;> decide

def secondDelegates : World Bool :=
  performAll closed compliant [(false, .setReference (some (.media .inside 2))), (false, .play)]
    (start (fun _ => .ordinary) firstOrSecond) 0 0

theorem secondDelegates_reachable :
    Reachable (start (fun _ => .ordinary) firstOrSecond) secondDelegates :=
  reachable_performAll closed compliant _ _ 0 0 fun _ => rfl

/-- A session that has delegated goes without a stop. -/
theorem departure_unannounced : ¬∀ (config : Bool → Config) (token : Bool → Token)
    (W : World Bool) (i : Bool) (last : Trace Studio), Injective token →
    Reachable (start config token) W → (W.parties i).turn = none →
    (W.parties i).session.drop.Runs last () →
    outstanding (remote (events (W.parties i).run)) = true →
      ∃ answer, ⟨.stop (token i), answer⟩ ∈ remote last := by
  intro announced
  have dropped := runs_record obliging (secondDelegates.parties false).session.drop 0
  obtain ⟨answer, said⟩ := announced _ _ _ false _ firstOrSecond_injective secondDelegates_reachable
    rfl dropped (by decide +kernel)
  rw [drop_unsaid _ dropped] at said
  cases said

def firstGoesOn : World Bool :=
  secondDelegates.put true ((secondDelegates.parties true).amid .play []
    ((secondDelegates.parties true).session.perform .play))

theorem delegation_outlives_session_second :
    secondDelegates.entries ⟨2⟩ = 1 ∧ Leaves ⟨2⟩ secondDelegates firstGoesOn ∧
      remote ((secondDelegates.parties false).session.drop.record obliging 0) = [] := by
  have step : StepWithout false secondDelegates firstGoesOn := by
    refine ⟨.alone true (.begins .play rfl), ?_⟩
    simp [firstGoesOn, put]
  obtain ⟨unsaid, -, shared⟩ := delegation_outlives_session
    (Reachable.sound secondDelegates_reachable false).history (runs_record obliging _ 0)
  obtain ⟨leaves, -⟩ := shared Bool _ _ _ _ false firstOrSecond_injective
    secondDelegates_reachable rfl (.single step)
  exact ⟨by decide +kernel, leaves, unsaid⟩

end World
end AlertSound
