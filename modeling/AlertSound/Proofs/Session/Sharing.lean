import AlertSound.Proofs.Session.World

/-!
No session plays twice. What a session has delegated, by its own account, is compared
with the players that the worker has for it: a player is only there while the last
accepted play has not been followed by a stop, whoever else was served in between and
whether or not the worker still is.
-/
namespace AlertSound.World

open Program Trace Studio Session Function

variable {ι : Type}

def entries (W : World ι) (token : Token) : Nat :=
  match W.worker with
  | none => 0
  | some w => w.entries token

/-- The remote player said that it plays only while a sound was delegated. -/
def Truthful (t : Trace Remotes) : Prop :=
  ∀ before token after, t = before ++ ⟨.isPlaying token, .ok true⟩ :: after →
    Remote.outstanding before = true

structure Consistent (token : ι → Token) (W : World ι) : Prop where
  distinct : ∀ w, W.worker = some w → w.Distinct
  entry : ∀ i w player, W.worker = some w → w.player? (token i) = some player →
    Remote.outstanding (remote (W.parties i).trace) = true
  truthful : ∀ i, Truthful (remote (W.parties i).trace)

variable {config : ι → Config} {token : ι → Token} {W W' : World ι}

theorem consistent_start (config : ι → Config) (token : ι → Token) :
    Consistent token (start config token) where
  distinct w same := by cases same; exact Remote.Worker.distinct_idle
  entry i w player same found := by cases same; cases found
  truthful i := by
    intro before token after h
    simp [start, Party.new, Party.trace, events] at h

theorem outstanding_snoc (t : Trace Remotes) (e : Event Remotes) :
    Remote.outstanding (t ++ [e]) = Remote.delegatedAfter (Remote.outstanding t) e := by
  simp [Remote.outstanding]

theorem Truthful.snoc {t : Trace Remotes} (h : Truthful t) (e : Event Remotes)
    (said : ∀ token, e = ⟨.isPlaying token, .ok true⟩ → Remote.outstanding t = true) :
    Truthful (t ++ [e]) := by
  intro before token after same
  cases snoc_eq_append_cons same with
  | inl here =>
      obtain ⟨rfl, rfl, rfl⟩ := here
      exact said token rfl
  | inr earlier =>
      obtain ⟨after', rfl, rfl⟩ := earlier
      exact h before token after' rfl

theorem Truthful.append_left {t u : Trace Remotes} (h : Truthful (t ++ u)) : Truthful t := by
  intro before token after same
  exact h before token (after ++ u) (by simp [same])

theorem isPlaying_replies (s : Session) (valid : s.Valid) (unbound : s.backing = .unbound) :
    (s.perform .isPlaying).Ensures fun t result => result.1 = .flag false ∨
      ∃ token, remote t = [⟨.isPlaying token, .ok true⟩] := by
  simp only [Session.perform, ensures_bind, ensures_pure, List.append_nil]
  refine (isPlaying_ensures valid).mono fun t playing asked => ?_
  obtain ⟨-, said⟩ := asked
  cases playing with
  | false => exact .inl rfl
  | true => exact .inr (said rfl (by simp [handles, unbound]))

/-- Once a session has been silenced it says that it does not play. -/
theorem Consistent.silenced (h : Consistent token W) {i : ι} {run : List Episode}
    (sound : (W.parties i).Sound (.new (config i) (some (token i))))
    {e : Episode} {events' : Trace Studio} {reply : Reply}
    (past : (W.parties i).run = run ++ [e] ++ [⟨.isPlaying, events', reply⟩])
    (silences : Silences e.operation) : reply = .flag false := by
  have history := sound.history
  rw [past] at history
  obtain ⟨s₁, history₁, runs⟩ := history_snoc.mp history
  obtain ⟨s₂, history₂, runs₂⟩ := history_snoc.mp history₁
  have carried := history₁.carried rfl rfl
  have unbound : s₁.backing = .unbound :=
    silences_ensures (history₂.carried rfl rfl).valid silences runs₂
  cases isPlaying_replies s₁ carried.valid unbound runs with
  | inl said => exact said
  | inr asked =>
      obtain ⟨token', said⟩ := asked
      have truthful :
        Truthful (remote (events (run ++ [e] ++ [⟨.isPlaying, events', reply⟩]))) := by
        have truthful := h.truthful i
        rw [Party.trace, past, remote_append] at truthful
        exact truthful.append_left
      have delegated := truthful (remote (events (run ++ [e]))) token' [] (by
        rw [events_append, remote_append, events_single, said])
      have idle : Remote.outstanding (remote (events (run ++ [e]))) = s₁.isDelegated :=
        carried.delegation
      rw [idle, isDelegated_iff, unbound] at delegated
      cases delegated

theorem Consistent.entries_le_one (h : Consistent token W) (i : ι) : W.entries (token i) ≤ 1 := by
  unfold entries
  split
  · exact Nat.zero_le 1
  · rename_i w up
    exact Remote.Worker.entries_le_one (h.distinct w up)

/-- Between its operations a session that the worker has a player for has delegated. -/
theorem Consistent.delegated_of_entry (h : Consistent token W) {i : ι}
    (sound : (W.parties i).Sound (.new (config i) (some (token i))))
    (between : (W.parties i).turn = none) (has : 0 < W.entries (token i)) :
    (W.parties i).session.backing = .delegated := by
  have delegation : Remote.outstanding (remote (events (W.parties i).run)) =
      (W.parties i).session.isDelegated := (sound.history.carried rfl rfl).delegation
  unfold entries at has
  split at has
  · cases has
  · rename_i w up
    cases found : w.player? (token i) with
    | none => simp [Remote.Worker.entries_eq_zero_iff.mpr found] at has
    | some player =>
        have known := h.entry i w player up found
        simp only [Party.trace, between, List.append_nil, delegation] at known
        exact isDelegated_iff.mp known

variable [DecidableEq ι]

/-- One session has moved and the worker has changed for no other client. -/
theorem Consistent.moved (h : Consistent token W) {i : ι} {r : Trace Remotes} {p : Party}
    (move : (W.parties i).Move r p) {worker : Option Remote.Worker} {heard : Trace Engines}
    (distinct : ∀ w, worker = some w → w.Distinct)
    (own : ∀ w player, worker = some w → w.player? (token i) = some player →
      Remote.outstanding (remote (W.parties i).trace ++ r) = true)
    (others : ∀ j ≠ i, ∀ w player, worker = some w → w.player? (token j) = some player →
      ∃ w, W.worker = some w ∧ w.player? (token j) = some player)
    (truthful : Truthful (remote (W.parties i).trace ++ r)) :
    Consistent token (put { W with worker, heard } i p) where
  distinct := distinct
  entry := by
    refine (forall_update_iff W.parties fun j p => ∀ w player, worker = some w →
      w.player? (token j) = some player → Remote.outstanding (remote p.trace) = true).mpr ?_
    refine ⟨fun w player same found => ?_, fun j other w player same found => ?_⟩
    · rw [move.remote_trace]
      exact own w player same found
    · obtain ⟨w₀, same₀, found₀⟩ := others j other w player same found
      exact h.entry j w₀ player same₀ found₀
  truthful :=
    (forall_update_iff W.parties fun j p => Truthful (remote p.trace)).mpr
      ⟨move.remote_trace ▸ truthful, fun j _ => h.truthful j⟩

theorem Step.consistent (injective : Injective token)
    (sound : ∀ i, (W.parties i).Sound (.new (config i) (some (token i))))
    (h : Consistent token W) (step : Step W W') : Consistent token W' := by
  cases step with
  | alone i move =>
      refine h.moved move h.distinct ?_ ?_ ?_
      · intro w player same found
        simpa using h.entry i w player same found
      · exact fun j _ w player same found => ⟨w, same, found⟩
      · simpa using h.truthful i
  | @served i c answer p w u w' move up runs =>
      have served : Remote.Served w c (rights u) answer w' := Remote.serve_ensures w c runs
      have mine : c.token = token i := move.token_eq (sound i) ⟨c, answer⟩ (by simp)
      refine h.moved move ?_ ?_ ?_ ?_
      · intro w₁ same
        cases same
        exact served.distinct (h.distinct w up)
      · intro w₁ player same found
        cases same
        rw [outstanding_snoc]
        rw [← mine] at found
        exact served.delegated found fun player₀ found₀ =>
          h.entry i w player₀ up (mine ▸ found₀)
      · intro j other w₁ player same found
        cases same
        have apart : token j ≠ c.token := fun same => other (injective (same.trans mine))
        exact ⟨w, up, served.elsewhere apart ▸ found⟩
      · refine (h.truthful i).snoc _ fun token' playing => ?_
        obtain ⟨player, found⟩ := served.said playing
        cases playing
        exact h.entry i w player up (mine ▸ found)
  | @refused i c p move gone =>
      refine h.moved move h.distinct ?_ ?_ ?_
      · intro w player same
        simp [gone] at same
      · intro j _ w player same
        simp [gone] at same
      · refine (h.truthful i).snoc _ fun token' playing => ?_
        cases c <;> cases playing
  | shutDown up runs =>
      exact ⟨nofun, nofun, h.truthful⟩

theorem Reachable.consistent (injective : Injective token)
    (h : Reachable (start config token) W) : Consistent token W := by
  induction h with
  | refl => exact consistent_start config token
  | tail reached step ih => exact step.consistent injective (Reachable.sound reached) ih

/-- The session's next operation, if it is this one, can be brought to its end, and
whatever the others do meanwhile, it ends with this reply. -/
def Answers (W : World ι) (i : ι) (operation : Operation) (reply : Reply) : Prop :=
  (∃ W' events, Reachable W W' ∧
    (W'.parties i).run = (W.parties i).run ++ [⟨operation, events, reply⟩]) ∧
  ∀ W' events reply', Reachable W W' →
    (W'.parties i).run = (W.parties i).run ++ [⟨operation, events, reply'⟩] → reply' = reply

/-- A session that has been silenced can be asked, and says that it does not play. -/
theorem Reachable.answers_of_silenced (injective : Injective token)
    (h : Reachable (start config token) W) {i : ι} (between : (W.parties i).turn = none)
    {run : List Episode} {e : Episode} (past : (W.parties i).run = run ++ [e])
    (silences : Silences e.operation) : W.Answers i .isPlaying (.flag false) := by
  have replies (W' events) (reply : Reply) (reachable : Reachable W W')
      (grown : (W'.parties i).run = (W.parties i).run ++ [⟨.isPlaying, events, reply⟩]) :
      reply = .flag false := by
    have later := h.trans reachable
    exact (Reachable.consistent injective later).silenced (Reachable.sound later i)
      (past ▸ grown) silences
  refine ⟨?_, replies⟩
  have performed := perform_performed compliant compliant i .isPlaying W 0 0 between
  obtain ⟨events, reply, grown⟩ := performed.run
  cases replies _ events reply performed.reachable grown
  exact ⟨_, events, performed.reachable, grown⟩

/-- One sound for each session. Sessions with tokens of their own share a worker, take
turns in any order, and the worker may be shut down at any time; no answer of any engine
is assumed. Between the operations of a session, the worker has a player for it only
if the session has delegated, and there is at most one of the two: a handle that its
own engine has not got back, or a player of the worker. After it has been stopped or
its sound has been taken away there is neither, and it says that it does not play. -/
theorem one_sound_each (config : ι → Config) (token : ι → Token) (injective : Injective token)
    (h : Reachable (start config token) W) (i : ι) (between : (W.parties i).turn = none)
    (distinct : (Engine.opened (engine (events (W.parties i).run))).Nodup) :
    (0 < W.entries (token i) → (W.parties i).session.backing = .delegated) ∧
    (Engine.unreleased (engine (events (W.parties i).run))).length + W.entries (token i) ≤ 1 ∧
    ∀ run e, (W.parties i).run = run ++ [e] → Silences e.operation →
      Engine.unreleased (engine (events (W.parties i).run)) = [] ∧ W.entries (token i) = 0 ∧
        W.Answers i .isPlaying (.flag false) := by
  have consistent := Reachable.consistent injective h
  have sound := Reachable.sound h i
  have carried := sound.history.carried rfl rfl
  have books : Engine.Books (engine (events (W.parties i).run)) (W.parties i).session.handles :=
    Engine.Custody.books carried.custody .nil distinct
  have owned := books.unreleased_perm distinct
  have bound := consistent.delegated_of_entry sound between
  have none (other : (W.parties i).session.backing ≠ .delegated) : W.entries (token i) = 0 :=
    Nat.eq_zero_of_not_pos fun has => other (bound has)
  refine ⟨bound, ?_, fun run e past silences => ?_⟩
  · rw [owned.length_eq]
    cases backing : (W.parties i).session.backing with
    | unbound | delegated => simpa [handles, backing] using consistent.entries_le_one i
    | held player => simp [handles, backing, none (by simp [backing])]
  · have history := sound.history
    rw [past] at history
    obtain ⟨s₁, before, runs⟩ := history_snoc.mp history
    have unbound : (W.parties i).session.backing = .unbound :=
      silences_ensures (before.carried rfl rfl).valid silences runs
    refine ⟨?_, none (by simp [unbound]), ?_⟩
    · simpa [handles, unbound] using owned
    · exact Reachable.answers_of_silenced injective h between past silences

def closed : Handler Stage Nat
  | .inr (.openSource _ _), n => (.error (.noData ""), n)
  | c, n => compliant c n

def firstOrSecond (first : Bool) : Token := ⟨if first then 1 else 2⟩

def twoClients : World Bool :=
  performAll closed compliant
    [(true, .setReference (some (.media .inside 1))), (true, .play),
      (false, .setReference (some (.media .inside 2))), (false, .play), (true, .stop)]
    (start (fun _ => .ordinary) firstOrSecond) 0 0

theorem one_sound_each_two :
    twoClients.entries ⟨2⟩ = 1 ∧ (twoClients.parties false).session.backing = .delegated ∧
      Engine.unreleased (engine (events (twoClients.parties false).run)) = [] ∧
      twoClients.entries ⟨1⟩ = 0 ∧ twoClients.Answers true .isPlaying (.flag false) := by
  have injective : Injective firstOrSecond := by
    intro a b
    cases a <;> cases b <;> decide
  have reachable : Reachable (start (fun _ => .ordinary) firstOrSecond) twoClients :=
    reachable_performAll closed compliant _ _ 0 0 fun _ => rfl
  have entry : twoClients.entries ⟨2⟩ = 1 := by decide +kernel
  have nothing (i : Bool) : Engine.opened (engine (events (twoClients.parties i).run)) = [] := by
    cases i <;> decide +kernel
  obtain ⟨delegated, single, -⟩ := one_sound_each _ _ injective reachable false rfl
    (by rw [nothing]; exact .nil)
  obtain ⟨-, -, silenced⟩ := one_sound_each _ _ injective reachable true rfl
    (by rw [nothing]; exact .nil)
  obtain ⟨-, empty, answers⟩ :=
    silenced (twoClients.parties true).run.dropLast ⟨.stop, _, _⟩ rfl trivial
  have entry' : twoClients.entries (firstOrSecond false) = 1 := entry
  rw [entry'] at delegated single
  exact ⟨entry, delegated Nat.one_pos, List.length_eq_zero_iff.mp (by omega), empty, answers⟩

end AlertSound.World
