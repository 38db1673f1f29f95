import AlertSound.Proofs.Session.Silence
import Mathlib.Data.List.Forall2

/-!
The mute gate. A session asks how loud a stream is before it makes any sound, and hears
of the answer only whether it is zero. So volume services that differ in nothing else
cannot be told apart by what a session does, and a session that only ever hears zero
makes no sound at all. `Gated` says how a program comes to be like that; both laws are
read off it.
-/
namespace AlertSound

open Program Trace Studio

/-- A program that asks for the level of one stream only, goes on in the same way from
all levels but zero, and makes no sound before it has heard one of them, unless it has
`heard` one already. -/
inductive Gated {α : Type} (stream : SoundStream) : Bool → Program Studio α → Prop where
  | done (heard a) : Gated stream heard (.done a)
  | silent {heard c next} : Silent c → (∀ answer, Gated stream heard (next answer)) →
      Gated stream heard (.call c next)
  | audible {c next} : level? c = none → (∀ answer, Gated stream true (next answer)) →
      Gated stream true (.call c next)
  | level {heard} {next : Nat → Program Studio α} : (∀ n, n ≠ 0 → next n = next 1) →
      Gated stream heard (next 0) → Gated stream true (next 1) →
      Gated stream heard (.call (.inl (.inl (.volume stream))) next)

namespace Gated

variable {α β : Type} {stream : SoundStream} {heard : Bool} {p : Program Studio α}

theorem mono (h : Gated stream heard p) : Gated stream true p := by
  induction h with
  | done heard a => exact .done true a
  | silent quiet _ ih => exact .silent quiet ih
  | audible other _ ih => exact .audible other ih
  | level same _ _ ih ih' => exact .level same ih ih'

theorem bind {f : α → Program Studio β} (h : Gated stream heard p)
    (h' : ∀ a, Gated stream heard (f a)) : Gated stream heard (p >>= f) := by
  induction h with
  | done heard a => exact h' a
  | silent quiet _ ih => exact .silent quiet fun answer => ih answer h'
  | audible other _ ih => exact .audible other fun answer => ih answer h'
  | level same _ _ ih ih' =>
      refine .level (fun n positive => ?_) (ih h') (ih' fun a => (h' a).mono)
      exact congrArg (Program.bind · f) (same n positive)

theorem of_silent (h : p.Asks Silent) : Gated stream heard p := by
  induction p with
  | done a => exact .done heard a
  | call c next ih =>
      obtain ⟨quiet, rest⟩ := asks_call.mp h
      exact .silent quiet fun answer => ih answer (rest answer)

/-- Once the program has heard a level it may do what it likes, except ask again. -/
theorem of_levelless (h : p.Asks fun c => level? c = none) : Gated stream true p := by
  induction p with
  | done a => exact .done true a
  | call c next ih =>
      obtain ⟨other, rest⟩ := asks_call.mp h
      exact .audible other fun answer => ih answer (rest answer)

/-- Asking for a level on a stage. -/
theorem ask_left {f : Nat → Program Stage α} (same : ∀ n, n ≠ 0 → f n = f 1)
    (muted : Gated stream heard (f 0).left) (sounding : Gated stream true (f 1).left) :
    Gated stream heard ((Resource.volume stream).left >>= f : Program Stage α).left :=
  @level α stream heard (fun n => (f n).left) (fun n positive => congrArg left (same n positive))
    muted sounding

theorem ask {f : Nat → Program Studio α} (same : ∀ n, n ≠ 0 → f n = f 1)
    (muted : Gated stream heard (f 0)) (sounding : Gated stream true (f 1)) :
    Gated stream heard ((Resource.volume stream).left.left >>= f) :=
  @level α stream heard f same muted sounding

end Gated

variable {stream : SoundStream} {heard : Bool}

namespace Fallback

theorem openAsset_levelless :
    openAsset.Asks fun c => level? (.inl (.inl c)) = none := by
  refine .bind (.request rfl) fun asset => ?_
  split
  · exact .pure _
  · refine .bind (.request rfl) fun file => ?_
    split
    · exact .pure _
    · exact .pure _

theorem openStarted_levelless (source : Source) (attributes : Attributes) :
    (Player.openStarted source attributes).Asks fun c => level? (.inl c) = none := by
  refine .bind ((Player.openPrepared_hushed ..).mono fun _ h => h.levelless) fun opened => ?_
  split
  · exact .pure _
  · refine .bind (.right (.request rfl)) fun started => ?_
    split
    · exact .pure _
    · exact .bind ((Player.drop_hushed _).mono fun _ h => h.levelless) fun _ => .pure _

theorem tryPlay_gated (reference : Option Locator) (attributes : Attributes) :
    Gated attributes.stream heard (tryPlay reference attributes).left := by
  refine .ask_left (fun n positive => ?_) ?_ ?_
  · simp [positive]
  · exact .done ..
  · refine .of_levelless (.left ?_)
    refine .bind ((Hushed.resources (replacesDefaultRingtone_looks _)).mono
      fun _ h => h.levelless) fun replaces => ?_
    split
    · exact .pure _
    · refine .bind (.left openAsset_levelless) fun asset => ?_
      split
      · exact .pure _
      · refine .bind (openStarted_levelless ..) fun started => ?_
        split
        · exact .pure _
        · exact .pure _

theorem play_gated (reference : Option Locator) (attributes : Attributes) :
    Gated attributes.stream heard (play reference attributes).left := by
  have logged {β : Type} (level : Log.Level) (message : String)
      (fields : List (String × Log.FieldValue)) (result : β) :
      (do
        (Resource.log level "fallback" message fields).left
        return result : Program Stage β).Asks Hushed :=
    .bind (Hushed.resources (.request trivial)) fun _ => .pure _
  rw [play, left_bind]
  refine (tryPlay_gated reference attributes).bind fun result => .of_silent (.left ?_)
  split
  · exact logged ..
  · exact .pure _
  · exact logged ..
  · exact logged ..

end Fallback

namespace Session

theorem playFallback_gated (s : Session) : Gated s.stream heard s.playFallback := by
  refine (Fallback.play_gated s.reference s.attributes).bind fun result => .of_silent ?_
  split
  · exact .pure _
  · exact .bind s.releaseBacking_calm.silent fun _ => .pure _

theorem delegatePlay_levelless (s : Session) :
    s.delegatePlay.Asks fun c => level? c = none := by
  unfold delegatePlay
  split
  · refine .bind ((calm_resources (resolveActual_looks _)).mono fun _ h => h.silent.levelless)
      fun actual => ?_
    have logged (message : String) (fields : List (String × Log.FieldValue)) :=
      (log_silent .debug message fields).mono fun _ h => h.levelless
    split
    · exact .bind (logged ..) fun _ => .pure _
    · exact .bind (logged ..) fun _ => .bind (.right (.request rfl)) fun _ => .pure _
  · exact .pure _

theorem playInstead_gated (s : Session) (message : String)
    (fields : List (String × Log.FieldValue)) :
    Gated s.stream heard (s.playInstead message fields) := by
  simp only [playInstead]
  refine s.playFallback_gated.bind fun result => .of_silent ?_
  split
  · exact .bind (log_silent ..) fun _ => .pure _
  · exact .pure _

theorem play_gated (s : Session) : Gated s.stream heard s.play := by
  unfold play
  refine .ask (fun n positive => ?_) ?_ ?_
  · simp [positive]
  · refine .of_silent ?_
    split
    · exact .bind (log_silent ..) fun _ => .pure _
    · exact .bind (log_silent ..) fun _ => .pure _
  · split
    · refine .of_levelless (.bind (.left (.right (.request rfl))) fun started => ?_)
      split
      · exact .pure _
      · exact .bind ((log_silent ..).mono fun _ h => h.levelless) fun _ => .pure _
    · refine (Gated.of_levelless s.delegatePlay_levelless).bind fun answer => ?_
      split
      · exact .done ..
      · exact s.playInstead_gated ..
      · exact s.playInstead_gated ..

/-- No operation asks for another level than that of the stream in force, and only a
level above zero lets one make a sound. -/
theorem perform_gated (s : Session) (o : Operation) : Gated s.stream heard (s.perform o) := by
  by_cases plays : Plays o
  · cases o with
    | play => exact s.play_gated.bind fun _ => .done ..
    | playFallback => exact s.playFallback_gated.bind fun _ => .done ..
    | _ => exact plays.elim
  · exact .of_silent (s.perform_silent plays)

end Session

/-- The same call with the same answer; of a level it counts only whether it is zero. -/
inductive Alike : Event Studio → Event Studio → Prop where
  | same (e) : Alike e e
  | level {asked} {n n' : Nat} : (n = 0 ↔ n' = 0) →
      Alike ⟨.inl (.inl (.volume asked)), n⟩ ⟨.inl (.inl (.volume asked)), n'⟩

/-- The answers of two traces come from collaborators that answer alike: while the two
have gone alike and go on with the same call, it gets the same answer. Levels only have
to agree on whether they are zero. -/
def AnsweredAlike (t t' : Trace Studio) : Prop :=
  ∀ u e v u' e' v', t = u ++ e :: v → t' = u' ++ e' :: v' → List.Forall₂ Alike u u' →
    e.call = e'.call → Alike e e'

theorem Alike.answer_eq {c : Studio.Call} {answer answer' : Studio.Answer c}
    (h : Alike ⟨c, answer⟩ ⟨c, answer'⟩) (other : level? c = none) : answer = answer' := by
  cases h with
  | same e => rfl
  | level _ => cases other

namespace AnsweredAlike

variable {t t' u u' : Trace Studio}

theorem left (h : AnsweredAlike (t ++ u) (t' ++ u')) : AnsweredAlike t t' := by
  intro v e w v' e' w' same same' went
  exact h v e (w ++ u) v' e' (w' ++ u') (by simp [same]) (by simp [same']) went

theorem right (h : AnsweredAlike (t ++ u) (t' ++ u')) (went : List.Forall₂ Alike t t') :
    AnsweredAlike u u' := by
  intro v e w v' e' w' same same' went'
  exact h (t ++ v) e w (t' ++ v') e' w' (by simp [same]) (by simp [same'])
    (List.rel_append went went')

end AnsweredAlike

theorem Alike.call_eq {e e' : Event Studio} (h : Alike e e') : e.call = e'.call := by
  cases h with
  | same e => rfl
  | level _ => rfl

theorem Alike.zero_iff {n n' : Nat}
    (h : Alike ⟨.inl (.inl (.volume stream)), n⟩ ⟨.inl (.inl (.volume stream)), n'⟩) :
    n = 0 ↔ n' = 0 := by
  cases h with
  | same e => rfl
  | level h => exact h

def GoesAlike {α : Type} (p : Program Studio α) : Prop :=
  ∀ ⦃t t' a a'⦄, p.Runs t a → p.Runs t' a' → AnsweredAlike t t' →
    List.Forall₂ Alike t t' ∧ a = a'

theorem goesAlike_call {α : Type} {c : Studio.Call} {next : Studio.Answer c → Program Studio α}
    (h : ∀ answer answer', Alike ⟨c, answer⟩ ⟨c, answer'⟩ →
      next answer = next answer' ∧ GoesAlike (next answer)) :
    GoesAlike (.call c next) := by
  intro t t' a a' runs runs' answered
  obtain ⟨answer, u, rfl, rest⟩ := runs_call.mp runs
  obtain ⟨answer', u', rfl, rest'⟩ := runs_call.mp runs'
  have first := answered [] _ u [] _ u' rfl rfl .nil rfl
  obtain ⟨same, goes⟩ := h answer answer' first
  obtain ⟨later, ends⟩ := goes rest (same ▸ rest') (answered.right (t := [_]) (.cons first .nil))
  exact ⟨.cons first later, ends⟩

theorem Gated.goesAlike {α : Type} {p : Program Studio α} (h : Gated stream heard p) :
    GoesAlike p := by
  induction h with
  | done heard a =>
      intro t t' b b' runs runs' _
      obtain ⟨rfl, rfl⟩ := runs_done.mp runs
      obtain ⟨rfl, rfl⟩ := runs_done.mp runs'
      exact ⟨.nil, rfl⟩
  | silent quiet _ ih =>
      refine goesAlike_call fun answer answer' first => ?_
      cases first.answer_eq quiet.levelless
      exact ⟨rfl, ih answer⟩
  | audible other _ ih =>
      refine goesAlike_call fun answer answer' first => ?_
      cases first.answer_eq other
      exact ⟨rfl, ih answer⟩
  | level same _ _ ih ih' =>
      refine goesAlike_call fun n n' first => ?_
      have zero := first.zero_iff
      by_cases muted : n = (0 : Nat)
      · cases muted
        cases zero.mp rfl
        exact ⟨rfl, ih⟩
      · rw [same n muted, same n' fun muted' => muted (zero.mpr muted')]
        exact ⟨rfl, ih'⟩

namespace Gated

variable {α : Type} {p : Program Studio α}

theorem asks (h : Gated stream heard p) : p.Asks fun c => ∀ asked, level? c = some asked →
    asked = stream := by
  induction h with
  | done heard a => exact .pure a
  | silent quiet _ ih => exact asks_call.mpr ⟨by simp [quiet.levelless], ih⟩
  | audible other _ ih => exact asks_call.mpr ⟨by simp [other], ih⟩
  | @level heard next same _ _ ih ih' =>
      refine asks_call.mpr ⟨fun asked h => (Option.some.inj h).symm, fun n => ?_⟩
      by_cases muted : n = (0 : Nat)
      · cases muted
        exact ih
      · rw [same n muted]
        exact ih'

end Gated

def heardOf? : Event Studio → Option Nat
  | ⟨.inl (.inl (.volume _)), n⟩ => some n
  | _ => none

def Muted (t : Trace Studio) : Prop := ∀ e ∈ t, ∀ n, heardOf? e = some n → n = 0

/-- A program that only ever hears zero makes no sound. -/
theorem Gated.inaudible {α : Type} {p : Program Studio α} (h : Gated stream false p) :
    p.Ensures fun t _ => Muted t → ∀ e ∈ t, ¬Audible e.call := by
  generalize unheard : false = heard at h
  induction h with
  | done heard a => simp
  | silent quiet _ ih =>
      refine ensures_call.mpr fun answer => (ih answer unheard).mono fun t a silent muted => ?_
      rw [List.forall_mem_cons]
      exact ⟨quiet.inaudible, silent fun e he => muted e (List.mem_cons_of_mem _ he)⟩
  | audible other _ ih => cases unheard
  | @level heard next same _ _ ih _ =>
      refine ensures_call.mpr fun (n : Nat) t a runs muted => ?_
      cases muted _ List.mem_cons_self n rfl
      rw [List.forall_mem_cons]
      exact ⟨id, ih unheard runs fun e he => muted e (List.mem_cons_of_mem _ he)⟩

namespace Session

structure Episode.GoesLike (e e' : Episode) : Prop where
  operation : e.operation = e'.operation
  events : List.Forall₂ Alike e.events e'.events
  reply : e.reply = e'.reply

def Episode.butLevels (e : Episode) : Operation × Trace Studio × Reply :=
  (e.operation, e.events.filter fun e => (level? e.call).isNone, e.reply)

theorem butLevels_eq {t t' : Trace Studio} (h : List.Forall₂ Alike t t') :
    (t.filter fun e => (level? e.call).isNone) = t'.filter fun e => (level? e.call).isNone := by
  induction h with
  | nil => rfl
  | cons first _ ih =>
      cases first with
      | same e => simp only [List.filter_cons, ih]
      | level _ => simpa [List.filter_cons, level?] using ih

theorem Episode.GoesLike.butLevels {e e' : Episode} (h : e.GoesLike e') :
    e.butLevels = e'.butLevels := by
  simp only [Episode.butLevels, h.operation, h.reply, butLevels_eq h.events]

theorem map_butLevels {run run' : List Episode} (h : List.Forall₂ Episode.GoesLike run run') :
    run.map Episode.butLevels = run'.map Episode.butLevels := by
  induction h with
  | nil => rfl
  | cons first _ ih => rw [List.map_cons, List.map_cons, first.butLevels, ih]

theorem goesLike_events {run run' : List Episode} (h : List.Forall₂ Episode.GoesLike run run') :
    List.Forall₂ Alike (events run) (events run') := by
  induction h with
  | nil => exact .nil
  | cons first _ ih => exact List.rel_append first.events ih

variable {s₀ s s' : Session} {run run' : List Episode}

/-- Two runs of the same operations that are answered alike go alike. -/
theorem History.goesAlike (h : History s₀ run s) (h' : History s₀ run' s')
    (same : run.map Episode.operation = run'.map Episode.operation)
    (answered : AnsweredAlike (events run) (events run')) :
    List.Forall₂ Episode.GoesLike run run' ∧ s = s' := by
  induction h generalizing run' s' with
  | start =>
      cases List.map_eq_nil_iff.mp same.symm
      exact ⟨.nil, h'.eq_of_nil.symm⟩
  | @next run s₁ e s₂ _ runs ih =>
      cases List.eq_nil_or_concat run' with
      | inl none => simp [none] at same
      | inr last =>
          obtain ⟨run', e', rfl⟩ := last
          rw [List.concat_eq_append] at h' same answered ⊢
          obtain ⟨s₁', history', runs'⟩ := history_snoc.mp h'
          have both : run.map Episode.operation = run'.map Episode.operation ∧
              e.operation = e'.operation := by simpa using same
          obtain ⟨same, operation⟩ := both
          rw [events_append, events_append, events_single, events_single] at answered
          obtain ⟨before, rfl⟩ := ih history' same answered.left
          have gated : Gated s₁.stream false (s₁.perform e.operation) := s₁.perform_gated _
          obtain ⟨now, ends⟩ := gated.goesAlike runs (operation ▸ runs')
            (answered.right (goesLike_events before))
          obtain ⟨reply, rfl⟩ := Prod.mk.inj ends
          exact ⟨List.rel_append before (.cons ⟨operation, now, reply⟩ .nil), rfl⟩

theorem History.muted_inaudible (h : History s₀ run s) (muted : Muted (events run)) :
    ∀ e ∈ events run, ¬Audible e.call := by
  induction h with
  | start => simp [events]
  | @next run s₁ e s₂ _ runs ih =>
      rw [events_append, events_single] at muted ⊢
      obtain ⟨before, now⟩ := List.forall_mem_append.mp muted
      rw [List.forall_mem_append]
      exact ⟨ih before, (s₁.perform_gated e.operation).inaudible runs now⟩

end Session

section Handlers

variable {σ τ : Type}

theorem Session.gives_replay (handler : Handler Studio σ) (s : Session) (a : σ)
    (operations : List Operation) :
    handler.Gives a (events (replay handler s a operations).1) := by
  induction operations generalizing s a with
  | nil => trivial
  | cons operation rest ih =>
      obtain ⟨gives, after⟩ := gives_record handler (s.perform operation) a
      exact Handler.gives_append.mpr ⟨gives, after ▸ ih _ _⟩

variable {own : Handler Studio σ} {other : Handler Studio τ} {R : σ → τ → Prop}

def Agree (own : Handler Studio σ) (other : Handler Studio τ) (R : σ → τ → Prop)
    (c : Studio.Call) : Prop :=
  ∀ a b, R a b → Alike ⟨c, (own c a).1⟩ ⟨c, (other c b).1⟩ ∧ R (own c a).2 (other c b).2

theorem after_together {u u' : Trace Studio} (agree : ∀ e ∈ u, Agree own other R e.call)
    (went : List.Forall₂ Alike u u') {a : σ} {b : τ} (together : R a b) :
    R (own.after u a) (other.after u' b) := by
  induction went generalizing a b with
  | nil => exact together
  | @cons e e' u u' first _ ih =>
      rw [List.forall_mem_cons] at agree
      simp only [Handler.after, List.foldl_cons]
      rw [← first.call_eq]
      exact ih agree.2 (agree.1 a b together).2

/-- Handlers that agree on the calls they get answer alike all along. -/
theorem answeredAlike_of_gives {a : σ} {b : τ} {t t' : Trace Studio}
    (agree : ∀ e ∈ t, Agree own other R e.call) (h : own.Gives a t) (h' : other.Gives b t')
    (together : R a b) : AnsweredAlike t t' := by
  intro u e v u' e' v' same same' went call
  subst same same'
  obtain ⟨-, given, -⟩ := Handler.gives_append.mp h
  obtain ⟨-, given', -⟩ := Handler.gives_append.mp h'
  obtain ⟨before, now⟩ := List.forall_mem_append.mp agree
  have still := after_together before went together
  obtain ⟨c, answer⟩ := e
  obtain ⟨c', answer'⟩ := e'
  cases call
  dsimp only at given given'
  rw [given, given']
  exact (now _ List.mem_cons_self _ _ still).1

end Handlers

open Session

/-- The mute gate. An operation asks only how loud the stream of the attributes in force
is. Two runs of the same operations whose collaborators answer alike, but for levels that
only have to agree on whether they are zero, have the same replies, make the same calls
with the same answers, levels apart, and go through the same sessions. A run that only
ever hears zero starts no handle, hands nothing over and leaves the bundled sound alone. -/
theorem mute_gate :
    (∀ (s : Session) (o : Operation) (t : Trace Studio) (rest : Program Studio (Reply × Session)),
      (s.perform o).Steps t rest →
        ∀ e ∈ t, ∀ stream, level? e.call = some stream → stream = s.stream) ∧
    (∀ (s₀ s s' : Session) (run run' : List Episode), History s₀ run s → History s₀ run' s' →
      run.map Episode.operation = run'.map Episode.operation →
      AnsweredAlike (events run) (events run') →
        run.map Episode.butLevels = run'.map Episode.butLevels ∧
        ∀ (n : Nat) (s s' : Session), History s₀ (run.take n) s →
          History s₀ (run'.take n) s' → s = s') ∧
    ∀ (s₀ s : Session) (run : List Episode), History s₀ run s → Muted (events run) →
      ∀ e ∈ events run, ¬Audible e.call := by
  refine ⟨fun s o t rest steps => ?_, fun s₀ s s' run run' h h' same answered => ⟨?_, ?_⟩,
    fun s₀ s run h muted => h.muted_inaudible muted⟩
  · have gated : Gated s.stream false (s.perform o) := s.perform_gated o
    have asked : (s.perform o).Ensures fun t _ =>
        ∀ e ∈ t, ∀ stream, level? e.call = some stream → stream = s.stream := gated.asks
    exact asked.of_steps steps
  · exact map_butLevels (h.goesAlike h' same answered).1
  · intro n s s' first first'
    refine (first.goesAlike first' ?_ ?_).2
    · rw [List.map_take, List.map_take, same]
    · rw [← List.take_append_drop n run, ← List.take_append_drop n run', events_append,
        events_append] at answered
      exact answered.left

def loud (level : SoundStream → Nat) : Handler Studio Nat
  | .inl (.inl (.volume stream)), n => (level stream, n)
  | c, n => obliging c n

theorem loud_agree {level level' : SoundStream → Nat} {c : Studio.Call}
    (zero : ∀ stream, level? c = some stream → (level stream = 0 ↔ level' stream = 0)) :
    Agree (loud level) (loud level') Eq c := by
  intro n n' same
  subst same
  match c with
  | .inl (.inl (.volume stream)) => exact ⟨.level (zero stream rfl), rfl⟩
  | .inl (.inl (.setting _)) | .inl (.inl (.putSetting _ _)) | .inl (.inl (.query _ _))
  | .inl (.inl (.find _)) | .inl (.inl (.count _)) | .inl (.inl (.moveToFirst _))
  | .inl (.inl (.cell _ _)) | .inl (.inl (.close _)) | .inl (.inl .openAsset)
  | .inl (.inl (.duplicate _)) | .inl (.inl (.log _)) | .inl (.inr _) | .inr _ =>
      exact ⟨.same _, rfl⟩

def ringThenAlarm (level : SoundStream → Nat) : List Episode × Session × Nat :=
  replay (loud level) (.new .ordinary none) 0
    [.setReference (some (.media .inside 1)), .play, .setAttributes (.ofStream .alarm), .play]

/-- The ringtone can be heard and the alarm cannot, and music is of no account. -/
def ringOnly (ring music : Nat) : SoundStream → Nat
  | .ring => ring
  | .music => music
  | _ => 0

theorem mute_gate_ring :
    (ringThenAlarm (ringOnly 5 0)).1.map Episode.butLevels =
        (ringThenAlarm (ringOnly 9 7)).1.map Episode.butLevels ∧
      Engine.calls 0 (engine (events (ringThenAlarm (ringOnly 5 0)).1)) =
        [.prepare, .start, .stop, .reset, .release] ∧
      Engine.calls 1 (engine (events (ringThenAlarm (ringOnly 5 0)).1)) = [.prepare] ∧
      ∀ e ∈ events (ringThenAlarm fun _ => 0).1, ¬Audible e.call := by
  obtain ⟨-, alike, muted⟩ := mute_gate
  have history (level : SoundStream → Nat) : History (.new .ordinary none) (ringThenAlarm level).1
      (ringThenAlarm level).2.1 := history_replay (loud level) _ 0 _
  have gives (level : SoundStream → Nat) :
      (loud level).Gives 0 (events (ringThenAlarm level).1) := gives_replay (loud level) _ 0 _
  have others : ∀ e ∈ events (ringThenAlarm (ringOnly 5 0)).1, level? e.call ≠ some .music := by
    decide +kernel
  have answered : AnsweredAlike (events (ringThenAlarm (ringOnly 5 0)).1)
      (events (ringThenAlarm (ringOnly 9 7)).1) := by
    refine answeredAlike_of_gives (fun e he => loud_agree fun stream asked => ?_) (gives _)
      (gives _) rfl
    cases stream with
    | music => exact absurd asked (others e he)
    | _ => simp [ringOnly]
  have silent : ∀ e ∈ events (ringThenAlarm fun _ => 0).1, (heardOf? e).all (· = 0) = true := by
    decide +kernel
  obtain ⟨same, -⟩ := alike _ _ _ _ _ (history (ringOnly 5 0)) (history (ringOnly 9 7)) rfl answered
  refine ⟨same, rfl, rfl, muted _ _ _ (history _) fun e he n heard => ?_⟩
  simpa [heard] using silent e he

end AlertSound
