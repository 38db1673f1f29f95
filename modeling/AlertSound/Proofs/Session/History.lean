import AlertSound.Proofs.Session.Passage

/-!
Runs of a session. A history is a list of operations with the calls each of them made
and the answers it got; the answers are arbitrary. What one operation keeps to is
carried along the history: the session owns exactly the handles that have not been
released, and they belong to the sound and the attributes it has now.
-/
namespace AlertSound.Session

open Program Trace Studio

structure Episode where
  operation : Operation
  events : Trace Studio
  reply : Reply

def Episode.Rebinds (e : Episode) : Prop := Session.Rebinds e.operation e.reply

def events (run : List Episode) : Trace Studio := run.flatMap Episode.events

/-- `History s run s'`: the operations of `run`, one after another, take `s` to `s'`. -/
inductive History (s : Session) : List Episode → Session → Prop where
  | start : History s [] s
  | next {run s₁ e s₂} : History s run s₁ →
      (s₁.perform e.operation).Runs e.events (e.reply, s₂) → History s (run ++ [e]) s₂

def replay {σ : Type} (handler : Handler Studio σ) (s : Session) (state : σ) :
    List Operation → List Episode × Session × σ
  | [] => ([], s, state)
  | operation :: rest =>
    let events := (s.perform operation).record handler state
    let ((reply, s), state) := (s.perform operation).run handler state
    let (run, s, state) := replay handler s state rest
    ({ operation, events, reply } :: run, s, state)

/-- The player was opened with these attributes during or after the last operation of
the run that opens the sound anew. -/
def OpenedSinceRebind (run : List Episode) (attributes : Attributes) (player : Player) : Prop :=
  ∃ before e after, run = before ++ e :: after ∧ e.Rebinds ∧ (∀ e' ∈ after, ¬e'.Rebinds) ∧
    Opened attributes player (engine (events (e :: after)))

@[simp] theorem events_append (run run' : List Episode) :
    events (run ++ run') = events run ++ events run' := List.flatMap_append

@[simp] theorem events_single (e : Episode) : events [e] = e.events := List.flatMap_singleton ..

theorem History.append {s s₁ s₂ : Session} {run run' : List Episode} (h : History s run s₁)
    (h' : History s₁ run' s₂) : History s (run ++ run') s₂ := by
  induction h' with
  | start => rwa [List.append_nil]
  | next _ runs ih => rw [← List.append_assoc]; exact ih.next runs

theorem History.eq_of_nil {s₀ s : Session} (h : History s₀ [] s) : s = s₀ := by
  generalize none : ([] : List Episode) = run at h
  cases h with
  | start => rfl
  | next _ _ => simp at none

theorem history_snoc {s s' : Session} {run : List Episode} {e : Episode} :
    History s (run ++ [e]) s' ↔
      ∃ s₁, History s run s₁ ∧ (s₁.perform e.operation).Runs e.events (e.reply, s') := by
  constructor
  · intro h
    generalize whole : run ++ [e] = run' at h
    cases h with
    | start => simp at whole
    | next history runs =>
        obtain ⟨rfl, same⟩ := List.append_inj' whole rfl
        cases same
        exact ⟨_, history, runs⟩
  · intro given
    obtain ⟨s₁, history, runs⟩ := given
    exact .next history runs

/-- Whatever state collaborators keep, what they give is a history. -/
theorem history_replay {σ : Type} (handler : Handler Studio σ) (s : Session) (state : σ)
    (operations : List Operation) :
    History s (replay handler s state operations).1 (replay handler s state operations).2.1 := by
  induction operations generalizing s state with
  | nil => exact .start
  | cons operation rest ih =>
      have first : History s [⟨operation, _, _⟩] _ :=
        .next .start (runs_record handler (s.perform operation) state)
      exact first.append (ih _ _)

theorem operations_replay {σ : Type} (handler : Handler Studio σ) (s : Session) (state : σ)
    (operations : List Operation) :
    (replay handler s state operations).1.map Episode.operation = operations := by
  induction operations generalizing s state with
  | nil => rfl
  | cons operation rest ih => exact congrArg (operation :: ·) (ih _ _)

structure Carried (s₀ : Session) (run : List Episode) (s : Session) : Prop
    extends Keeps s₀ (engine (events run)) (remote (events run)) s where
  vacant : s.reference = none → s.backing = .unbound
  bound : s.reference ≠ none → ∃ before e after, run = before ++ e :: after ∧ e.Rebinds ∧
    (∀ e' ∈ after, ¬e'.Rebinds) ∧
    ∀ player, s.backing = .held player → Opened s.attributes player (engine (events (e :: after)))

theorem Carried.next {s₀ s₁ s₂ : Session} {run : List Episode} {e : Episode}
    (carried : Carried s₀ run s₁)
    (act : Act s₁ e.operation e.reply (engine e.events) (remote e.events) s₂) :
    Carried s₀ (run ++ [e]) s₂ where
  toKeeps := by simpa using carried.toKeeps.trans act.toKeeps
  vacant := act.vacant carried.vacant
  bound some := by
    by_cases anew : e.Rebinds
    · refine ⟨run, e, [], rfl, anew, by simp, fun player held => ?_⟩
      rw [events_single]
      exact (act.player player held).resolve_right fun h => h.1 anew
    · obtain ⟨reference, attributes⟩ := act.same anew
      obtain ⟨before, e', after, rfl, rebinds, none, opened⟩ := carried.bound (reference ▸ some)
      refine ⟨before, e', after ++ [e], by simp, rebinds, ?_, fun player held => ?_⟩
      · intro e'' h
        cases List.mem_append.mp h with
        | inl h => exact none e'' h
        | inr h => cases List.mem_singleton.mp h; exact anew
      · rw [← List.cons_append, events_append, engine_append, events_single]
        cases act.player player held with
        | inl now => exact now.append_right _
        | inr kept =>
            obtain ⟨-, before⟩ := kept
            exact attributes ▸ (opened player before).append_left _

theorem History.carried {s₀ s : Session} {run : List Episode} (h : History s₀ run s)
    (unbound : s₀.backing = .unbound) (silent : s₀.reference = none) : Carried s₀ run s := by
  induction h with
  | start =>
      have valid : s₀.Valid := by simp [Valid, unbound]
      exact
        { (Passage.refl valid).toKeeps with
          vacant := fun _ => unbound
          bound := fun some => absurd silent some }
  | next _ runs ih => exact ih.next (perform_ensures ih.valid _ runs)

theorem drop_ensures (s : Session) :
    s.drop.Ensures fun t _ => engine t = s.handles.flatMap Player.ending := by
  unfold drop
  split
  · rename_i player held
    simp only [lift_left, ensures_left, engine_map_left]
    exact (Player.drop_ensures player).mono fun t _ ended => by simp [handles, held, ended]
  · rename_i unbound
    simp [handles, unbound]
  · rename_i delegated
    simp [handles, delegated]

theorem custody_drop (s : Session) :
    Engine.Custody s.handles (s.handles.flatMap Player.ending) [] := by
  unfold handles
  split
  · simpa using Player.custody_ending [] _
  · exact .refl []
  · exact .refl []

/-- Handles have one owner. Whatever the collaborators answer, every handle that the
session's engine hands out is prepared once and first, then only started or asked
whether it plays, then stopped, reset and released once each, and not called again
once the session is dropped. Between operations the handles that have not been
released are those of the session's own player: one if it has a player, else none.
That player was prepared without fault, with the attributes in force, and was opened
no earlier than the last operation that opens the sound anew. Without a sound the
session is unbound, and after it is dropped no handle is left unreleased. Handles are
told apart by their names, so the engine must not hand out one name twice. -/
theorem handles_have_one_owner (config : Config) (surface : Option Token) {run : List Episode}
    {s : Session} (h : History (.new config surface) run s) {last : Trace Studio}
    (dropped : s.drop.Runs last ()) (distinct : (Engine.opened (engine (events run))).Nodup) :
    (∀ handle ∈ Engine.opened (engine (events run)),
      Engine.Finished (Engine.calls handle (engine (events run ++ last)))) ∧
    (∀ player, s.backing = .held player →
      Engine.unreleased (engine (events run)) = [player.handle] ∧
        OpenedSinceRebind run s.attributes player) ∧
    ((∀ player, s.backing ≠ .held player) → Engine.unreleased (engine (events run)) = []) ∧
    (s.reference = none → s.backing = .unbound) ∧
    Engine.unreleased (engine (events run ++ last)) = [] := by
  have carried := h.carried rfl rfl
  have custody : Engine.Custody [] (engine (events run)) s.handles := carried.custody
  have books : Engine.Books (engine (events run)) s.handles := custody.books .nil distinct
  have ended : engine last = s.handles.flatMap Player.ending := s.drop_ensures dropped
  have quiet : Engine.opened (engine last) = [] := by
    rw [ended]
    unfold handles
    split <;> rfl
  have distinct' : (Engine.opened (engine (events run ++ last))).Nodup := by
    simpa [quiet] using distinct
  have closed : Engine.Books (engine (events run ++ last)) [] := by
    rw [engine_append] at distinct' ⊢
    exact (ended ▸ s.custody_drop).books books distinct'
  have owned := books.unreleased_perm distinct
  refine ⟨?_, ?_, ?_, carried.vacant, ?_⟩
  · intro handle known
    exact closed.finished handle (by simpa [quiet] using known) List.not_mem_nil
  · intro player held
    have single : s.handles = [player.handle] := by simp [handles, held]
    refine ⟨List.perm_singleton.mp (single ▸ owned), ?_⟩
    have some : s.reference ≠ none := fun none => by simp [carried.vacant none] at held
    obtain ⟨before, e, after, rfl, rebinds, none, opened⟩ := carried.bound some
    exact ⟨before, e, after, rfl, rebinds, none, opened player held⟩
  · intro free
    have empty : s.handles = [] := by
      cases h : s.backing with
      | held player => exact absurd h (free player)
      | unbound | delegated => simp [handles, h]
    exact List.perm_nil.mp (empty ▸ owned)
  · exact List.perm_nil.mp (closed.unreleased_perm distinct')

/-- A compliant stage, with a remote player that is always playing. -/
def obliging : Handler Studio Nat :=
  compliant.sum fun
    | .play _ _ _, n => (.ok (), n)
    | .stop _, n => (.ok (), n)
    | .isPlaying _, n => (.ok true, n)

instance (c : Studio.Call) : Nonempty (Studio.Answer c) := ⟨(obliging c 0).1⟩

def twice : List Episode × Session × Nat :=
  replay obliging (.new .ordinary none) 0
    [.setReference (some (.media .inside 1)), .play, .setAttributes (.ofStream .alarm), .play]

theorem handles_have_one_owner_twice :
    Engine.opened (engine (events twice.1)) = [0, 1] ∧
      Engine.unreleased (engine (events twice.1)) = [1] ∧
      Engine.unreleased (engine (events twice.1 ++ twice.2.1.drop.record obliging 2)) = [] := by
  have opens : Engine.opened (engine (events twice.1)) = [0, 1] := by decide +kernel
  obtain ⟨-, held, -, -, last⟩ := handles_have_one_owner .ordinary none
    (history_replay obliging _ 0 _) (runs_record obliging twice.2.1.drop 2)
    (show (Engine.opened (engine (events twice.1))).Nodup by rw [opens]; decide)
  exact ⟨opens, (held ⟨1, _⟩ rfl).1, last⟩

end AlertSound.Session
