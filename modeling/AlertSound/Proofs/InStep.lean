import AlertSound.Proofs.Remote.Desk
import AlertSound.Proofs.Session.Plain
import Mathlib.Order.Defs.PartialOrder

/-!
Two runs that are alike. The collaborators of both answer by the same premises, but each
run has names of its own for cursors and handles. `InStep` is about two programs, one in
each run: if names that are paired stand for the same before, the results are related
afterwards, and paired names stand for the same still. Looking sounds up gives the same in
both runs, and opening a sound gives players that differ in the name of a handle only.
-/
namespace AlertSound

open Function Program Trace

/-- What the cursors and the handles of a session stand for, and what the remote player
has on its desks. -/
structure Scene (K H D : Type) where
  cursors : Table K
  handles : Table H
  desks : Token → Option D

variable {K H D : Type}

def Premises.conduct (P : Premises K H D) : Conduct Studio (Scene K H D)
  | ⟨.inl (.inl c), answer⟩, s, s' =>
    ∃ T, (P.library.dealing c).Follows s.cursors answer T ∧ s' = { s with cursors := T }
  | ⟨.inl (.inr c), answer⟩, s, s' =>
    ∃ T, (P.engine.dealing c).Follows s.handles answer T ∧ s' = { s with handles := T }
  | ⟨.inr c, answer⟩, s, s' =>
    answer = (P.service.desks c s.desks).1 ∧
      s' = { s with desks := (P.service.desks c s.desks).2 }

structure Names where
  cursors : Pairing
  handles : Pairing

instance : Preorder Names where
  le ν ν' :=
    (∀ n n', ν.cursors n n' → ν'.cursors n n') ∧ ∀ n n', ν.handles n n' → ν'.handles n n'
  le_refl _ := ⟨fun _ _ => id, fun _ _ => id⟩
  le_trans _ _ _ h h' :=
    ⟨fun n n' paired => h'.1 n n' (h.1 n n' paired), fun n n' paired => h'.2 n n' (h.2 n n' paired)⟩

structure Scene.Like (ν : Names) (s s' : Scene K H D) : Prop where
  cursors : Table.Like ν.cursors s.cursors s'.cursors
  handles : Table.Like ν.handles s.handles s'.handles
  desks : s.desks = s'.desks

/-- From like scenes the programs come to related results and to like scenes. -/
def InStep {I : Interface} {α β : Type} (A : Conduct I (Scene K H D)) (ν : Names)
    (p : Program I α) (q : Program I β) (R : Names → α → β → Prop) : Prop :=
  ∀ ⦃s s' s₁ s₁' t u a b⦄, Scene.Like ν s s' → p.Runs t a → A.Path t s s₁ →
    q.Runs u b → A.Path u s' s₁' → ∃ ν', ν ≤ ν' ∧ Scene.Like ν' s₁ s₁' ∧ R ν' a b

namespace InStep

variable {I J : Interface} {α α' β β' : Type} {A : Conduct I (Scene K H D)} {ν : Names}

theorem pure {R : Names → α → β → Prop} {a : α} {b : β} (h : R ν a b) :
    InStep A ν (Pure.pure a) (Pure.pure b) R := by
  intro s s' s₁ s₁' t u a' b' like runs path runs' path'
  obtain ⟨rfl, rfl⟩ := runs_done.mp runs
  obtain ⟨rfl, rfl⟩ := runs_done.mp runs'
  cases path
  cases path'
  exact ⟨ν, le_refl ν, like, h⟩

theorem bind {R : Names → α → β → Prop} {S : Names → α' → β' → Prop} {p : Program I α}
    {q : Program I β} {f : α → Program I α'} {g : β → Program I β'} (h : InStep A ν p q R)
    (h' : ∀ ν' a b, ν ≤ ν' → R ν' a b → InStep A ν' (f a) (g b) S) :
    InStep A ν (p >>= f) (q >>= g) S := by
  intro s s' s₂ s₂' t u a' b' like runs path runs' path'
  obtain ⟨a, t₁, t₂, rfl, first, second⟩ := runs_bind.mp runs
  obtain ⟨b, u₁, u₂, rfl, first', second'⟩ := runs_bind.mp runs'
  obtain ⟨s₁, path₁, path₂⟩ := Conduct.path_append.mp path
  obtain ⟨s₁', path₁', path₂'⟩ := Conduct.path_append.mp path'
  obtain ⟨ν₁, more₁, like₁, related⟩ := h like first path₁ first' path₁'
  obtain ⟨ν₂, more₂, like₂, related'⟩ := h' ν₁ a b more₁ related like₁ second path₂ second' path₂'
  exact ⟨ν₂, le_trans more₁ more₂, like₂, related'⟩

/-- Results that are the same in both runs. -/
theorem bind_same {S : Names → α' → β' → Prop} {p q : Program I α} {f : α → Program I α'}
    {g : α → Program I β'} (h : InStep A ν p q fun _ => Eq)
    (h' : ∀ ν' a, ν ≤ ν' → InStep A ν' (f a) (g a) S) : InStep A ν (p >>= f) (q >>= g) S := by
  refine .bind h ?_
  rintro ν' a _ more rfl
  exact h' ν' a more

theorem left {A : Conduct (I.sum J) (Scene K H D)} {R : Names → α → β → Prop} {p : Program I α}
    {q : Program I β} (h : InStep A.left ν p q R) : InStep A ν p.left q.left R := by
  intro s s' s₁ s₁' t u a b like runs path runs' path'
  obtain ⟨t, rfl, inner⟩ := runs_left.mp runs
  obtain ⟨u, rfl, inner'⟩ := runs_left.mp runs'
  exact h like inner (Conduct.path_map_left.mp path) inner' (Conduct.path_map_left.mp path')

theorem right {A : Conduct (I.sum J) (Scene K H D)} {R : Names → α → β → Prop} {p : Program J α}
    {q : Program J β} (h : InStep A.right ν p q R) : InStep A ν p.right q.right R := by
  intro s s' s₁ s₁' t u a b like runs path runs' path'
  obtain ⟨t, rfl, inner⟩ := runs_right.mp runs
  obtain ⟨u, rfl, inner'⟩ := runs_right.mp runs'
  exact h like inner (Conduct.path_map_right.mp path) inner' (Conduct.path_map_right.mp path')

theorem call {c c' : I.Call} {Q : Names → I.Answer c → I.Answer c' → Prop}
    (h : ∀ ⦃s s' a a' s₁ s₁'⦄, Scene.Like ν s s' → A ⟨c, a⟩ s s₁ → A ⟨c', a'⟩ s' s₁' →
      ∃ ν', ν ≤ ν' ∧ Scene.Like ν' s₁ s₁' ∧ Q ν' a a') :
    InStep A ν (.call c .done) (.call c' .done) Q := by
  intro s s' s₁ s₁' t u a b like runs path runs' path'
  obtain ⟨a, t, rfl, done⟩ := runs_call.mp runs
  obtain ⟨b, u, rfl, done'⟩ := runs_call.mp runs'
  obtain ⟨rfl, rfl⟩ := runs_done.mp done
  obtain ⟨rfl, rfl⟩ := runs_done.mp done'
  obtain ⟨_, first, rfl⟩ := path
  obtain ⟨_, first', rfl⟩ := path'
  exact h like first first'

end InStep

structure Player.Like (ν : Names) (player player' : Player) : Prop where
  handle : ν.handles player.handle player'.handle
  source : player.source = player'.source

theorem Player.Like.mono {ν ν' : Names} {player player' : Player} (h : Like ν player player')
    (more : ν ≤ ν') : Like ν' player player' := ⟨more.2 _ _ h.handle, h.source⟩

namespace Premises

open Dealing

variable (P : Premises K H D) {ν : Names}

theorem resource_inStep (c c' : Resource.Call)
    {Q : Pairing → Resources.Answer c → Resources.Answer c' → Prop}
    (twin : Twin ν.cursors (P.library.dealing c) (P.library.dealing c') Q) :
    InStep P.conduct.left.left ν (.call c .done) (.call c' .done) fun ν => Q ν.cursors := by
  refine .call fun s s' a a' s₁ s₁' like first first' => ?_
  obtain ⟨T, follows, rfl⟩ := first
  obtain ⟨T', follows', rfl⟩ := first'
  obtain ⟨ρ, more, cursors, related⟩ := twin like.cursors follows follows'
  exact ⟨{ ν with cursors := ρ }, ⟨more, fun _ _ => id⟩, { like with cursors }, related⟩

theorem engine_inStep (c c' : Engine.Call)
    {Q : Pairing → Engines.Answer c → Engines.Answer c' → Prop}
    (twin : Twin ν.handles (P.engine.dealing c) (P.engine.dealing c') Q) :
    InStep P.conduct.left.right ν (.call c .done) (.call c' .done) fun ν => Q ν.handles := by
  refine .call fun s s' a a' s₁ s₁' like first first' => ?_
  obtain ⟨T, follows, rfl⟩ := first
  obtain ⟨T', follows', rfl⟩ := first'
  obtain ⟨ρ, more, handles, related⟩ := twin like.handles follows follows'
  exact ⟨{ ν with handles := ρ }, ⟨fun _ _ => id, more⟩, { like with handles }, related⟩

theorem remote_inStep (c : Remote.Call) :
    InStep P.conduct.right ν (.call c .done) (.call c .done) fun _ => Eq := by
  refine .call fun s s' a a' s₁ s₁' like first first' => ?_
  obtain ⟨said, rfl⟩ := first
  obtain ⟨said', rfl⟩ := first'
  have same : P.service.desks c s.desks = P.service.desks c s'.desks := by rw [like.desks]
  exact ⟨ν, le_refl ν, { like with desks := congrArg Prod.snd same },
    said.trans ((congrArg Prod.fst same).trans said'.symm)⟩

instance (c : Resource.Call) : Nonempty (Resources.Answer c) := ⟨(compliant (.inl c) 0).1⟩

/-- What uses no cursor comes to the same. -/
theorem inStep_of_plain {α : Type} {p : Program Resources α} (h : p.Asks Resource.Call.Plain) :
    InStep P.conduct.left.left ν p p fun _ => Eq := by
  induction p generalizing ν with
  | done a => exact .pure rfl
  | call c next ih =>
      obtain ⟨plain, rest⟩ := asks_call.mp h
      have told : Twin ν.cursors (P.library.dealing c) (P.library.dealing c) fun _ => Eq := by
        cases c with
        | volume _ | setting _ | openAsset | duplicate _ | log _ => exact twin_tells rfl
        | _ => exact plain.elim
      exact .bind_same (P.resource_inStep c c told) fun ν' a _ => ih a (rest a)

theorem log_inStep (level : Log.Level) (target message : String)
    (fields : List (String × Log.FieldValue)) :
    InStep P.conduct.left.left ν (Resource.log level target message fields)
      (Resource.log level target message fields) fun _ => Eq :=
  P.inStep_of_plain (.request trivial)

section Cursors

variable {cursor cursor' : CursorId} (paired : ν.cursors cursor cursor')

include paired

theorem count_inStep : InStep P.conduct.left.left ν (Resource.count cursor) (Resource.count cursor')
    fun _ => Eq :=
  P.resource_inStep (.count cursor) (.count cursor') (Q := fun _ => Eq) (twin_uses paired)

theorem moveToFirst_inStep : InStep P.conduct.left.left ν (Resource.moveToFirst cursor)
    (Resource.moveToFirst cursor') fun _ => Eq :=
  P.resource_inStep (.moveToFirst cursor) (.moveToFirst cursor') (Q := fun _ => Eq)
    (twin_uses paired)

theorem cell_inStep (column : Nat) : InStep P.conduct.left.left ν (Resource.cell cursor column)
    (Resource.cell cursor' column) fun _ => Eq :=
  P.resource_inStep (.cell cursor column) (.cell cursor' column) (Q := fun _ => Eq)
    (twin_uses paired)

theorem close_inStep : InStep P.conduct.left.left ν (Resource.close cursor) (Resource.close cursor')
    fun _ => Eq :=
  P.resource_inStep (.close cursor) (.close cursor') (Q := fun _ => Eq) (twin_uses paired)

/-- Work with a cursor that is closed in the end. -/
theorem withCursor_inStep {α : Type} {work work' : Program Resources α}
    (h : InStep P.conduct.left.left ν work work' fun _ => Eq) :
    InStep P.conduct.left.left ν (Resource.withCursor cursor work)
      (Resource.withCursor cursor' work') fun _ => Eq :=
  .bind_same h fun _ _ more =>
    .bind_same (P.close_inStep (more.1 _ _ paired)) fun _ _ _ => .pure rfl

end Cursors

theorem indexed_inStep (r : Locator) :
    InStep P.conduct.left.left ν (Title.indexed r) (Title.indexed r) fun _ => Eq := by
  unfold Title.indexed
  split
  · exact .pure rfl
  · rename_i columns _
    refine .bind (P.resource_inStep _ _ (twin_opens _)) fun ν₁ found found' _ same => ?_
    cases same with
    | error e => exact .pure rfl
    | @ok cursor cursor' paired =>
        refine P.withCursor_inStep paired ?_
        refine .bind_same (P.count_inStep paired) fun ν₂ rows more => ?_
        split
        · exact .pure rfl
        · have paired := more.1 _ _ paired
          refine .bind_same (P.moveToFirst_inStep paired) fun ν₃ moved more => ?_
          split
          · exact .pure rfl
          · refine .bind_same (P.cell_inStep (more.1 _ _ paired) _) fun ν₄ title _ => ?_
            exact .pure rfl

theorem direct_inStep (r : Locator) :
    InStep P.conduct.left.left ν (Title.direct r) (Title.direct r) fun _ => Eq := by
  unfold Title.direct
  split
  · exact .pure rfl
  · exact .pure rfl
  all_goals
    refine .bind_same (P.indexed_inStep r) fun ν₁ title _ => ?_
    split
    · exact .pure rfl
    · exact .pure rfl
    · exact .bind_same (P.log_inStep ..) fun _ _ _ => .pure rfl

theorem resolve_inStep (labels : Labels) (reference : Option Locator)
    (indirection : Title.Indirection) :
    InStep P.conduct.left.left ν (Title.resolve labels reference indirection)
      (Title.resolve labels reference indirection) fun _ => Eq := by
  unfold Title.resolve
  split
  · exact .pure rfl
  · split
    · refine .bind_same (P.inStep_of_plain (resolveActual_plain _)) fun ν₁ actual _ => ?_
      split
      · exact .pure rfl
      · refine .bind_same (P.direct_inStep _) fun ν₂ title _ => ?_
        exact .pure rfl
    · refine .bind_same (P.direct_inStep _) fun ν₁ title _ => ?_
      exact .pure rfl

section Players

variable {player player' : Player} (alike : player.Like ν player')

include alike

theorem start_inStep : InStep P.conduct.left ν player.start player'.start fun _ => Eq :=
  .right (P.engine_inStep (.start player.handle) (.start player'.handle) (Q := fun _ => Eq)
    (twin_uses alike.handle))

theorem isPlaying_inStep : InStep P.conduct.left ν player.isPlaying player'.isPlaying fun _ => Eq :=
  .right (P.engine_inStep (.isPlaying player.handle) (.isPlaying player'.handle) (Q := fun _ => Eq)
    (twin_uses alike.handle))

theorem drop_inStep : InStep P.conduct.left ν player.drop player'.drop fun _ => Eq := by
  refine .bind_same (.right (P.engine_inStep (.stop player.handle) (.stop player'.handle)
    (Q := fun _ => Eq) (twin_uses alike.handle))) fun ν₁ _ more => ?_
  have alike := alike.mono more
  refine .bind_same (.right (P.engine_inStep (.reset player.handle) (.reset player'.handle)
    (Q := fun _ => Eq) (twin_uses alike.handle))) fun ν₂ _ more => ?_
  have alike := alike.mono more
  refine .bind_same (.right (P.engine_inStep (.release player.handle) (.release player'.handle)
    (Q := fun _ => Eq) (twin_uses alike.handle))) fun ν₃ _ _ => ?_
  rw [alike.source]
  exact .left (P.log_inStep ..)

end Players

theorem openPrepared_inStep (source : Source) (attributes : Attributes) :
    InStep P.conduct.left ν (Player.openPrepared source attributes)
      (Player.openPrepared source attributes) fun ν => Likewise (Player.Like ν) := by
  refine .bind (.right (P.engine_inStep _ _ (twin_opens _))) fun ν₁ found found' _ same => ?_
  cases same with
  | error e => exact .pure (.error e)
  | @ok handle handle' paired =>
      have alike : Player.Like ν₁ ⟨handle, source.text⟩ ⟨handle', source.text⟩ := ⟨paired, rfl⟩
      refine .bind_same (.right (P.engine_inStep (.prepare handle) (.prepare handle')
        (Q := fun _ => Eq) (twin_uses paired))) fun ν₂ prepared more => ?_
      have alike := alike.mono more
      split
      · exact .pure (.ok alike)
      · exact .bind_same (P.drop_inStep alike) fun _ _ _ => .pure (.error _)

theorem openStarted_inStep (source : Source) (attributes : Attributes) :
    InStep P.conduct.left ν (Player.openStarted source attributes)
      (Player.openStarted source attributes) fun ν => Likewise (Player.Like ν) := by
  refine .bind (P.openPrepared_inStep ..) fun ν₁ opened opened' _ same => ?_
  cases same with
  | error e => exact .pure (.error e)
  | ok alike =>
      refine .bind_same (P.start_inStep alike) fun ν₂ started more => ?_
      have alike := alike.mono more
      split
      · exact .pure (.ok alike)
      · exact .bind_same (P.drop_inStep alike) fun _ _ _ => .pure (.error _)

theorem tryPlay_inStep (reference : Option Locator) (attributes : Attributes) :
    InStep P.conduct.left ν (Fallback.tryPlay reference attributes)
      (Fallback.tryPlay reference attributes) fun ν => Likewise (Player.Like ν) := by
  refine .bind_same (.left (P.inStep_of_plain (.request trivial))) fun ν₁ volume _ => ?_
  split
  · exact .pure (.error _)
  · have replacing := Fallback.replacesDefaultRingtone_plain reference
    refine .bind_same (.left (P.inStep_of_plain replacing)) fun ν₂ replaces _ => ?_
    split
    · exact .pure (.error _)
    · refine .bind_same (.left (P.inStep_of_plain Fallback.openAsset_plain)) fun ν₃ source _ => ?_
      split
      · exact .pure (.error _)
      · refine .bind (P.openStarted_inStep ..) fun ν₄ started started' _ same => ?_
        cases same with
        | error e => exact .pure (.error _)
        | ok alike => exact .pure (.ok alike)

theorem fallback_inStep (reference : Option Locator) (attributes : Attributes) :
    InStep P.conduct.left ν (Fallback.play reference attributes)
      (Fallback.play reference attributes) fun ν => Option.Rel (Player.Like ν) := by
  refine .bind (P.tryPlay_inStep ..) fun ν₁ result result' _ same => ?_
  cases same with
  | ok alike =>
      exact .bind_same (.left (P.log_inStep ..)) fun _ _ more => .pure (.some (alike.mono more))
  | error e =>
      cases e with
      | silent => exact .pure .none
      | notDefaultRingtone | asset cause | engine cause =>
          exact .bind_same (.left (P.log_inStep ..)) fun _ _ _ => .pure .none

end Premises
end AlertSound
