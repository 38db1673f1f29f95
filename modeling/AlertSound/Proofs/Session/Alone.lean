import AlertSound.Proofs.Session.InStep
import AlertSound.Proofs.Session.History

/-!
A session alone. It has its collaborators and a remote player to itself, and they name
things in order. What they answer is one of the things that the premises allow, so that
any other run of the same operations is like this one.
-/
namespace AlertSound

open Function Program Trace

variable {K H D : Type}

def Library.stage (library : Library K) (shop : Workshop H) :
    Handler Stage (Register K × Register H)
  | .inl c, (cursors, handles) =>
    let (answer, cursors) := (library.dealing c).deal cursors
    (answer, cursors, handles)
  | .inr c, (cursors, handles) =>
    let (answer, handles) := (shop.dealing c).deal handles
    (answer, cursors, handles)

theorem Library.stage_path {α : Type} (library : Library K) (shop : Workshop H)
    (p : Program Stage α) (state : Register K × Register H) :
    shop.conduct.Path (rights (p.record (library.stage shop) state)) state.2.table
      (p.run (library.stage shop) state).2.2.table := by
  induction p generalizing state with
  | done a => rfl
  | call c next ih =>
      cases c with
      | inl c => exact ih _ _
      | inr c => exact .cons ((shop.dealing c).deal_follows state.2) (ih _ _)

/-- The collaborators of one session, and a worker that serves nobody else. -/
structure Solitude (K H D : Type) where
  own : Register K × Register H
  worker : Remote.Worker
  theirs : Register K × Register D

namespace Solitude

def start : Solitude K H D := ⟨(.empty, .empty), .idle, (.empty, .empty)⟩

def scene (state : Solitude K H D) : Scene K H D where
  cursors := state.own.1.table
  handles := state.own.2.table
  desks := state.worker.desks state.theirs.2.table

def Sound (state : Solitude K H D) : Prop := Remote.Keeps state.theirs.2.table state.worker

end Solitude

namespace Premises

variable (P : Premises K H D)

def alone : Handler Studio (Solitude K H D)
  | .inl c, state =>
    let (answer, own) := P.library.stage P.engine c state.own
    (answer, { state with own })
  | .inr c, state =>
    let ((answer, worker), theirs) :=
      (state.worker.serve c).run (P.library.stage P.service) state.theirs
    (answer, { state with worker, theirs })

theorem alone_step (c : Studio.Call) (state : Solitude K H D) (sound : state.Sound) :
    P.conduct ⟨c, (P.alone c state).1⟩ state.scene (P.alone c state).2.scene ∧
      (P.alone c state).2.Sound := by
  cases c with
  | inl c =>
      cases c with
      | inl c => exact ⟨⟨_, (P.library.dealing c).deal_follows state.own.1, rfl⟩, sound⟩
      | inr c => exact ⟨⟨_, (P.engine.dealing c).deal_follows state.own.2, rfl⟩, sound⟩
  | inr c =>
      have served := Remote.serve_ensures state.worker c
        (runs_record (P.library.stage P.service) (state.worker.serve c) state.theirs)
      obtain ⟨sound, desks⟩ :=
        sound.served served (P.library.stage_path P.service (state.worker.serve c) state.theirs)
      exact ⟨⟨congrArg Prod.fst desks, congrArg (Scene.mk _ _) (congrArg Prod.snd desks)⟩, sound⟩

theorem alone_path {α : Type} (p : Program Studio α) (state : Solitude K H D)
    (sound : state.Sound) :
    P.conduct.Path (p.record P.alone state) state.scene (p.run P.alone state).2.scene ∧
      (p.run P.alone state).2.Sound := by
  induction p generalizing state with
  | done a => exact ⟨rfl, sound⟩
  | call c next ih =>
      obtain ⟨first, sound⟩ := P.alone_step c state sound
      obtain ⟨rest, sound⟩ := ih _ _ sound
      exact ⟨.cons first rest, sound⟩

open Session

theorem replay_path (s : Session) (state : Solitude K H D) (sound : state.Sound)
    (operations : List Operation) :
    P.conduct.Path (events (replay P.alone s state operations).1) state.scene
      (replay P.alone s state operations).2.2.scene := by
  induction operations generalizing s state with
  | nil => rfl
  | cons operation rest ih =>
      obtain ⟨first, sound⟩ := P.alone_path (s.perform operation) state sound
      exact Conduct.path_append.mpr ⟨_, first, ih _ _ sound⟩

/-- Sessions that are alike when they begin the same operations are alike afterwards. -/
theorem history_inStep {s₀ s₀' s s' : Session} {run run' : List Episode} {a a' b b' : Scene K H D}
    {ν : Names} (alike : Session.Like ν s₀ s₀') (like : Scene.Like ν a a')
    (h : History s₀ run s) (h' : History s₀' run' s')
    (same : run.map Episode.operation = run'.map Episode.operation)
    (path : P.conduct.Path (events run) a b) (path' : P.conduct.Path (events run') a' b') :
    ∃ ν', Scene.Like ν' b b' ∧ Session.Like ν' s s' ∧
      run.map Episode.reply = run'.map Episode.reply := by
  induction h generalizing run' s' b b' with
  | start =>
      obtain rfl := List.map_eq_nil_iff.mp same.symm
      cases h'.eq_of_nil
      cases path
      cases path'
      exact ⟨ν, like, alike, rfl⟩
  | @next run s₁ e s₂ history runs ih =>
      rw [List.map_append] at same
      obtain ⟨run', last, rfl, begun, single⟩ := List.map_eq_append_iff.mp same.symm
      obtain ⟨e', rfl, operation⟩ := List.map_eq_singleton_iff.mp single
      obtain ⟨s₁', history', runs'⟩ := history_snoc.mp h'
      rw [events_append, events_single] at path path'
      obtain ⟨c, before, after⟩ := Conduct.path_append.mp path
      obtain ⟨c', before', after'⟩ := Conduct.path_append.mp path'
      obtain ⟨ν₁, like, alike, replies⟩ := ih history' begun.symm before before'
      rw [operation] at runs'
      obtain ⟨ν₂, -, like, reply, alike⟩ :=
        P.perform_inStep alike e.operation like runs after runs' after'
      have reply : e.reply = e'.reply := reply
      exact ⟨ν₂, like, alike, by simp [replies, reply]⟩

end Premises
end AlertSound
