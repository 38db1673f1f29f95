import AlertSound.Proofs.Session.Silence

/-!
What else sounds when a handle is started. A session that starts its own handle has
nothing else. The bundled sound, though, is started before the session gives up what it
had, so that for a while both are there: the new handle and an old one, or the new handle
and a delegation.
-/
namespace AlertSound

open Program Trace Studio

namespace Engine

def started? : Call → Option HandleId
  | .start handle => some handle
  | _ => none

theorem started?_eq_some {c : Call} {handle : HandleId} :
    started? c = some handle ↔ c = .start handle := by
  cases c <;> simp [started?]

def Startless (t : Trace Engines) : Prop := ∀ e ∈ t, ∀ handle, e.call ≠ .start handle

variable {t u : Trace Engines} {handle : HandleId} {answer : Except EngineError Unit}

theorem Startless.not_mem (h : Startless t) (handle : HandleId) (answer : Except EngineError Unit) :
    ⟨.start handle, answer⟩ ∉ t :=
  fun started => h _ started handle rfl

/-- A trace with one start has it in one place. -/
theorem Startless.split (h : Startless t) (h' : Startless u) {before after : Trace Engines}
    {started : HandleId} {result : Except EngineError Unit}
    (same : before ++ ⟨.start handle, answer⟩ :: after = t ++ ⟨.start started, result⟩ :: u) :
    before = t ∧ handle = started := by
  have other : ¬∀ handle', Call.start handle ≠ .start handle' := fun all => all handle rfl
  obtain ⟨rfl, here, -⟩ := append_cons_inj
    (P := fun e : Event Engines => ∀ handle, e.call ≠ .start handle) same other h h'
  cases here
  exact ⟨rfl, rfl⟩

end Engine

open Engine

namespace Player

variable {source : Source} {attributes : Attributes} {t before after : Trace Engines}
  {result : Except EngineError Player} {handle : HandleId} {answer : Except EngineError Unit}

theorem startless_ending (handle : HandleId) : Startless (ending handle) := by
  simp [Startless, ending]

theorem Opening.startless (h : Opening source attributes t result) : Startless t := by
  cases h with
  | refused e | unprepared handle e | ready handle => simp [Startless, ending]

/-- A player's handle is started once it has been opened and prepared, besides what is
held anyway. -/
theorem Starting.onset (h : Starting source attributes t result)
    (same : t = before ++ ⟨.start handle, answer⟩ :: after) (held : List HandleId) :
    Custody held before (handle :: held) := by
  cases h with
  | unopened opening => exact absurd (by simp [same]) (opening.startless.not_mem handle answer)
  | unstarted e opening =>
      rw [List.append_assoc] at same
      obtain ⟨rfl, rfl⟩ := opening.startless.split (startless_ending _) same.symm
      exact opening.custody held
  | started opening =>
      obtain ⟨rfl, rfl⟩ := opening.startless.split (by simp [Startless]) same.symm
      exact opening.custody held

end Player

theorem Fallback.Outcome.onset {reference : Option Locator} {attributes : Attributes}
    {t before after : Trace Engines} {result : Option Player} {handle : HandleId}
    {answer : Except EngineError Unit} (h : Outcome reference attributes t result)
    (same : t = before ++ ⟨.start handle, answer⟩ :: after) (held : List HandleId) :
    Custody held before (handle :: held) := by
  cases h with
  | refused => simp at same
  | failed _ starting | playing _ starting => exact starting.onset same held

namespace Studio

theorem mem_engine {e : Event Engines} {t : Trace Studio} :
    e ∈ engine t ↔ e.right.left ∈ t := by
  rw [engine, mem_rights, lefts, List.mem_filterMap]
  constructor
  · intro h
    obtain ⟨⟨c, answer⟩, he, same⟩ := h
    cases c with
    | inl c => cases same; exact he
    | inr c => cases same
  · exact fun h => ⟨_, h, rfl⟩

theorem ne_start_of_startless {t before after : Trace Studio} {handle : HandleId}
    {answer : Except EngineError Unit} (h : Startless (engine t)) :
    t ≠ before ++ ⟨.inl (.inr (.start handle)), answer⟩ :: after := by
  intro same
  subst same
  exact h.not_mem handle answer (mem_engine.mpr (List.mem_append_right before List.mem_cons_self))

theorem startless_of_silent {t : Trace Studio} (h : ∀ e ∈ t, Silent e.call) :
    Startless (engine t) := by
  intro e he handle same
  obtain ⟨c, answer⟩ := e
  cases same
  exact (h _ (mem_engine.mp he)).inaudible trivial

end Studio

namespace Session

open Remote

/-- What the session has got when a handle is about to be started: the handle itself, and
either nothing else, because it is the session's own, or all that the session had. -/
structure Onset (s : Session) (t : Trace Studio) (handle : HandleId) (besides : List HandleId) :
    Prop where
  custody : Custody s.handles (engine t) (handle :: besides)
  delegation : (remote t).foldl delegatedAfter s.isDelegated = s.isDelegated
  besides : besides = s.handles ∨ besides = [] ∧ s.handles = [handle]

def Onsets (s : Session) (t : Trace Studio) : Prop :=
  ∀ before handle answer after, t = before ++ ⟨.inl (.inr (.start handle)), answer⟩ :: after →
    ∃ besides, Onset s before handle besides

namespace Onsets

variable {s : Session} {t u : Trace Studio}

theorem of_startless (h : Startless (engine t)) : Onsets s t :=
  fun _ _ _ _ same => absurd same (ne_start_of_startless h)

theorem quiet (h : engine t = []) : Onsets s t :=
  of_startless fun e he => by simp [h] at he

/-- Where nothing is said to the remote player, the engine's trace tells. -/
theorem of_engine (alone : remote t = [])
    (h : ∀ before handle answer after, engine t = before ++ ⟨.start handle, answer⟩ :: after →
      ∃ besides, Custody s.handles before (handle :: besides) ∧
        (besides = s.handles ∨ besides = [] ∧ s.handles = [handle])) : Onsets s t := by
  intro before handle answer after same
  subst same
  rw [remote_append] at alone
  obtain ⟨besides, custody, which⟩ :=
    h (engine before) handle answer (engine after) (engine_append ..)
  exact ⟨besides, custody, by rw [(List.append_eq_nil_iff.mp alone).1]; rfl, which⟩

theorem append (h : Onsets s t) (silent : Startless (engine u)) : Onsets s (t ++ u) := by
  intro before handle answer after same
  cases append_eq_append_cons same with
  | inl first =>
      obtain ⟨after', rfl, within⟩ := first
      exact h before handle answer after' within
  | inr second =>
      obtain ⟨before', -, within⟩ := second
      exact absurd within (ne_start_of_startless silent)

/-- What leaves the session as it is may come first. -/
theorem prepend (quiet : engine t = [])
    (kept : (remote t).foldl delegatedAfter s.isDelegated = s.isDelegated) (h : Onsets s u) :
    Onsets s (t ++ u) := by
  intro before handle answer after same
  cases append_eq_append_cons same with
  | inl first =>
      obtain ⟨after', rfl, within⟩ := first
      exact Onsets.quiet quiet before handle answer after' within
  | inr second =>
      obtain ⟨before', rfl, within⟩ := second
      obtain ⟨besides, onset⟩ := h before' handle answer after within
      refine ⟨besides, ?_, ?_, onset.besides⟩
      · simpa [quiet] using onset.custody
      · simpa [kept] using onset.delegation

end Onsets

theorem onsets_of_silent {α : Type} {s : Session} {p : Program Studio α} (h : p.Asks Silent) :
    p.Ensures fun t _ => Onsets s t :=
  Ensures.mono h fun _ _ silent => .of_startless (startless_of_silent silent)

theorem onsets_bind {α β : Type} {s : Session} {p : Program Studio α} {f : α → Program Studio β}
    (h : p.Ensures fun t _ => Onsets s t) (silent : ∀ a, (f a).Asks Silent) :
    (p >>= f).Ensures fun t _ => Onsets s t :=
  h.bind fun _ a onsets => Ensures.mono (silent a) fun _ _ silent =>
    onsets.append (startless_of_silent silent)

theorem playFallback_onsets (s : Session) : s.playFallback.Ensures fun t _ => Onsets s t := by
  refine onsets_bind ?_ fun played => ?_
  · refine ensures_left.mpr ((Fallback.play_ensures _ _).mono fun t result outcome => ?_)
    refine .of_engine (by simp) fun before handle answer after same => ?_
    rw [engine_map_left] at same
    exact ⟨s.handles, outcome.onset same s.handles, .inl rfl⟩
  · split
    · exact .pure _
    · exact .bind s.releaseBacking_calm.silent fun _ => .pure _

theorem playInstead_onsets (s : Session) (message : String)
    (fields : List (String × Log.FieldValue)) :
    (s.playInstead message fields).Ensures fun t _ => Onsets s t := by
  simp only [playInstead]
  refine onsets_bind s.playFallback_onsets fun result => ?_
  split
  · exact .bind (log_silent ..) fun _ => .pure _
  · exact .pure _

/-- A session that has a player has nothing besides. -/
theorem start_onsets {s : Session} {player : Player} (held : s.backing = .held player) :
    (player.start.left : Program Studio (Except EngineError Unit)).Ensures
      fun t _ => Onsets s t := by
  have own : s.handles = [player.handle] := by simp [handles, held]
  refine ensures_left.mpr (ensures_right.mpr (ensures_call.mpr fun result => ?_))
  refine ensures_done.mpr (.of_engine (by simp) fun before handle answer after same => ?_)
  rw [engine_map_left] at same
  obtain ⟨rfl, rfl⟩ := Startless.split (t := []) (u := []) (by simp [Startless])
    (by simp [Startless]) same.symm
  exact ⟨[], own ▸ .refl _, .inr ⟨rfl, own⟩⟩

theorem play_onsets (s : Session) : s.play.Ensures fun t _ => Onsets s t := by
  unfold play
  refine Ensures.bind (Q := fun t _ => engine t = [] ∧ remote t = []) ?_
    fun t volume calm => ?_
  · simp [Resource.volume]
  · obtain ⟨quiet, alone⟩ := calm
    refine Ensures.mono (Q := fun u _ => Onsets s u) ?_
      fun u _ onsets => onsets.prepend quiet (by simp [alone])
    split
    · rename_i player held
      split
      · exact onsets_of_silent (.bind (log_silent ..) fun _ => .pure _)
      · refine onsets_bind (start_onsets held) fun started => ?_
        split
        · exact .pure _
        · exact .bind (log_silent ..) fun _ => .pure _
    · split
      · exact onsets_of_silent (.bind (log_silent ..) fun _ => .pure _)
      · refine s.delegatePlay_ensures.bind fun t result outcome => ?_
        obtain ⟨quiet, outcome⟩ := outcome
        cases result with
        | none =>
            exact (s.playInstead_onsets _ _).mono fun u _ onsets =>
              onsets.prepend quiet (by simp [outcome])
        | some answer =>
            obtain ⟨token, r, -, -, asked⟩ := outcome
            cases answer with
            | ok => exact ensures_pure.mpr (by simpa using Onsets.quiet quiet)
            | error e =>
                exact (s.playInstead_onsets _ _).mono fun u _ onsets =>
                  onsets.prepend quiet (by simp [asked, delegatedAfter])

theorem perform_onsets (s : Session) (o : Operation) :
    (s.perform o).Ensures fun t _ => Onsets s t := by
  by_cases plays : Plays o
  · cases o with
    | play =>
        simp only [perform, ensures_bind, ensures_pure, List.append_nil]
        exact s.play_onsets
    | playFallback =>
        simp only [perform, ensures_bind, ensures_pure, List.append_nil]
        exact s.playFallback_onsets
    | _ => exact plays.elim
  · exact onsets_of_silent (s.perform_silent plays)

variable {config : Config} {surface : Option Token} {run : List Episode} {s : Session}
  {o : Operation} {t : Trace Studio} {handle : HandleId}
  {next : Except EngineError Unit → Program Studio (Reply × Session)}

/-- All that is there when a handle is about to be started. -/
theorem History.onset (h : History (.new config surface) run s)
    (steps : (s.perform o).Steps t (.call (.inl (.inr (.start handle))) next))
    (distinct : (Engine.opened (engine (events run ++ t))).Nodup) :
    ∃ besides, (besides = s.handles ∨ besides = [] ∧ s.handles = [handle]) ∧
      (handle :: besides).Nodup ∧
      (Engine.unreleased (engine (events run ++ t))).Perm (handle :: besides) ∧
      outstanding (remote (events run ++ t)) = s.isDelegated := by
  obtain ⟨u, result, rest⟩ := exists_runs (I := Studio) (.call (.inl (.inr (.start handle))) next)
  obtain ⟨answer, v, rfl, -⟩ := runs_call.mp rest
  obtain ⟨besides, onset⟩ := s.perform_onsets o (steps.append rest) t handle answer v rfl
  have carried := h.carried rfl rfl
  have custody : Custody [] (engine (events run ++ t)) (handle :: besides) :=
    engine_append .. ▸ carried.custody.append onset.custody
  have books : Books (engine (events run ++ t)) (handle :: besides) := custody.books .nil distinct
  refine ⟨besides, onset.besides, books.nodup, books.unreleased_perm distinct, ?_⟩
  have before : outstanding (remote (events run)) = s.isDelegated := carried.delegation
  rw [outstanding] at before ⊢
  rw [remote_append, List.foldl_append, before, onset.delegation]

/-- Of all handles only this one has not been released, and no sound is delegated. -/
def Alone (handle : HandleId) (t : Trace Studio) : Prop :=
  (∀ other ∈ Engine.unreleased (engine t), other = handle) ∧ outstanding (remote t) = false

/-- What sounds when a handle is started. Whatever the operation is and wherever in it the
handle is about to be started, what the session had when the operation began is still
there: a handle besides the one that is started, or the delegation. So the handle is the
only sound if and only if the session had none, or had that handle itself. -/
theorem started_alone_iff (h : History (.new config surface) run s)
    (steps : (s.perform o).Steps t (.call (.inl (.inr (.start handle))) next))
    (distinct : (Engine.opened (engine (events run ++ t))).Nodup) :
    (Engine.unreleased (engine (events run ++ t))).Perm (handle :: s.handles.erase handle) ∧
    outstanding (remote (events run ++ t)) = s.isDelegated ∧
    (Alone handle (events run ++ t) ↔
      s.backing = .unbound ∨ ∃ player, s.backing = .held player ∧ player.handle = handle) := by
  obtain ⟨besides, which, nodup, owned, delegation⟩ := h.onset steps distinct
  have apart := (List.nodup_cons.mp nodup).1
  have alone : Alone handle (events run ++ t) ↔ besides = [] ∧ s.isDelegated = false := by
    simp only [Alone, delegation, owned.mem_iff, List.forall_mem_cons, true_and]
    refine and_congr_left fun _ => ⟨fun all => ?_, fun none => by simp [none]⟩
    exact List.eq_nil_iff_forall_not_mem.mpr fun other mem => apart (all other mem ▸ mem)
  cases which with
  | inl all =>
      subst all
      rw [List.erase_of_not_mem apart]
      refine ⟨owned, delegation, alone.trans ?_⟩
      cases backing : s.backing with
      | unbound | delegated => simp [handles, isDelegated, backing]
      | held player =>
          have other : player.handle ≠ handle := by
            simpa [handles, backing, eq_comm] using apart
          simp [handles, backing, other]
  | inr own =>
      obtain ⟨rfl, own⟩ := own
      rw [own, List.erase_cons_head]
      refine ⟨owned, delegation, alone.trans ?_⟩
      cases backing : s.backing with
      | unbound | delegated => simp [handles, backing] at own
      | held player =>
          have same : player.handle = handle := by simpa [handles, backing] using own
          simp [isDelegated, backing, same]

/-- Settings that name a ringtone, a bundled sound, and an engine that can open that; other
sounds it can open or not. -/
def bundled (opens : Bool) : Handler Studio Nat
  | .inl (.inl (.setting _)), n => (some "content://media/internal/audio/media/7", n)
  | .inl (.inl .openAsset), n => (.ok ⟨.file [], 0, none⟩, n)
  | .inl (.inr (.openSource (.locator r) a)), n =>
    if opens then obliging (.inl (.inr (.openSource (.locator r) a))) n
    else (.error (.noData ""), n)
  | c, n => obliging c n

def ringing (opens : Bool) : List Episode × Session × Nat :=
  replay (bundled opens) (.new .ordinary none) 0
    (.setReference (some (.settingsDefault (.ringtone 0))) :: if opens then [.play] else [])

def fallenBack (opens : Bool) : Trace Studio :=
  ((ringing opens).2.1.perform .playFallback).record (bundled opens) (ringing opens).2.2

theorem ringing_history (opens : Bool) :
    History (.new .ordinary none) (ringing opens).1 (ringing opens).2.1 :=
  history_replay (bundled opens) _ 0 _

theorem fallenBack_starts (opens : Bool) (handle : HandleId)
    (starts : ∃ e ∈ engine (fallenBack opens), started? e.call = some handle)
    (distinct : (opened (engine (events (ringing opens).1 ++ fallenBack opens))).Nodup) :
    ∃ t next, ((ringing opens).2.1.perform .playFallback).Steps t
        (.call (.inl (.inr (.start handle))) next) ∧
      (opened (engine (events (ringing opens).1 ++ t))).Nodup := by
  obtain ⟨⟨c, answer⟩, he, started⟩ := starts
  cases started?_eq_some.mp started
  obtain ⟨t, u, next, same, steps⟩ :=
    (runs_record (bundled opens) _ (ringing opens).2.2).steps_of_mem (mem_engine.mp he)
  refine ⟨t, next, steps, ?_⟩
  rw [show fallenBack opens = _ from same, ← List.append_assoc, engine_append,
    opened_append] at distinct
  exact (List.nodup_append.mp distinct).1

/-- A sound that could be opened goes on while the bundled one is started. -/
theorem fallback_overlaps : ¬∀ (config : Config) (surface : Option Token) (run : List Episode)
    (s : Session) (o : Operation) (t : Trace Studio) (handle : HandleId)
    (next : Except EngineError Unit → Program Studio (Reply × Session)),
    History (.new config surface) run s →
    (s.perform o).Steps t (.call (.inl (.inr (.start handle))) next) →
    (opened (engine (events run ++ t))).Nodup → Alone handle (events run ++ t) := by
  intro never
  obtain ⟨t, next, steps, distinct⟩ := fallenBack_starts true 1 (by decide +kernel)
    (by decide +kernel)
  have alone := (never _ _ _ _ _ _ _ _ (ringing_history true) steps distinct).1
  obtain ⟨besides, which, -, owned, -⟩ := (ringing_history true).onset steps distinct
  have own : (ringing true).2.1.handles = [0] := by decide +kernel
  have old : 0 ∈ besides := by
    cases which with
    | inl all => simp [all, own]
    | inr same => simp [own] at same
  exact absurd (alone 0 (owned.mem_iff.mpr (List.mem_cons_of_mem _ old))) (by decide)

theorem started_alone_iff_unbound :
    (ringing false).2.1.backing = .unbound ∧
      ∃ t next, ((ringing false).2.1.perform .playFallback).Steps t
          (.call (.inl (.inr (.start 0))) next) ∧
        Alone 0 (events (ringing false).1 ++ t) := by
  obtain ⟨t, next, steps, distinct⟩ := fallenBack_starts false 0 (by decide +kernel)
    (by decide +kernel)
  obtain ⟨-, -, alone⟩ := started_alone_iff (ringing_history false) steps distinct
  have unbound : (ringing false).2.1.backing = .unbound := by decide +kernel
  exact ⟨unbound, t, next, steps, alone.mpr (.inl unbound)⟩

end Session
end AlertSound
