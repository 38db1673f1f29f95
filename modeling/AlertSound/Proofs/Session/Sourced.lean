import AlertSound.Proofs.Session.Silence
import AlertSound.Proofs.Session.World

/-!
Where sounds come from. Whatever is opened, handed to the remote player or taken from
the assets was resolved before, in the same operation and from the session's own
locator. What resolving comes to is never a default, so no default reaches an engine,
neither here nor behind the remote player, and a locator that stands for nothing
makes no sound at all.
-/
namespace AlertSound

open Program Trace Studio

/-- What a call asks for that can make a sound. -/
inductive Use where
  | source (source : Source)
  | delegation (r : Locator)
  | asset

namespace Use

def ofEngine? : Engine.Call → Option Use
  | .openSource s _ => some (.source s)
  | _ => none

def ofStage? : Stage.Call → Option Use
  | .inl .openAsset => some .asset
  | .inl _ => none
  | .inr c => ofEngine? c

def ofStudio? : Studio.Call → Option Use
  | .inl c => ofStage? c
  | .inr (.play _ r _) => some (.delegation r)
  | .inr _ => none

/-- The use is one of the sound that a locator was resolved to. -/
def From (actual : Locator) : Use → Prop
  | .source (.locator r) => r = actual
  | .source (.descriptor ..) => True
  | .delegation r => r = actual.canonical
  | .asset => True

def Proper : Use → Prop
  | .source (.locator r) => r.origin ≠ .settingsDefault
  | .source (.descriptor ..) => True
  | .delegation r => r.origin ≠ .settingsDefault
  | .asset => True

theorem From.proper {actual : Locator} {use : Use} (h : use.From actual)
    (other : actual.origin ≠ .settingsDefault) : use.Proper := by
  cases use with
  | source source =>
      cases source with
      | locator r => cases h; exact other
      | descriptor _ _ _ => trivial
  | delegation r => cases h; exact other
  | asset => trivial

end Use

theorem Studio.Calm.unused {c : Studio.Call} (h : Calm c) : Use.ofStudio? c = none := by
  cases c with
  | inl c =>
      cases c with
      | inl c =>
          cases c with
          | openAsset => exact h.elim
          | _ => rfl
      | inr c =>
          cases c with
          | openSource _ _ => exact h.elim
          | _ => rfl
  | inr c =>
      cases c with
      | play _ _ _ => exact h.elim
      | _ => rfl

theorem Program.Asks.still {α : Type} {p : Program Studio α} (h : p.Asks Calm) :
    p.Asks fun c => Use.ofStudio? c = none :=
  h.mono fun _ calm => calm.unused

def Resolved (reference : Option Locator) (t : Trace Resources) (actual : Locator) : Prop :=
  ∃ r u v w, reference = some r ∧ t = u ++ v ++ w ∧ (resolveActual r).Runs v (some actual)

def Sourced (reference : Option Locator) (t : Trace Studio) : Prop :=
  ∀ before e after use, t = before ++ e :: after → Use.ofStudio? e.call = some use →
    ∃ actual, Resolved reference (resources before) actual ∧ use.From actual

variable {reference : Option Locator} {actual : Locator}

theorem Resolved.of_runs {r : Locator} {v : Trace Resources}
    (h : (resolveActual r).Runs v (some actual)) : Resolved (some r) v actual :=
  ⟨r, [], v, [], rfl, by simp, h⟩

theorem Resolved.append_left {t : Trace Resources} (h : Resolved reference t actual)
    (t' : Trace Resources) : Resolved reference (t ++ t') actual := by
  obtain ⟨r, u, v, w, same, rfl, runs⟩ := h
  exact ⟨r, u, v, w ++ t', same, by simp, runs⟩

theorem Resolved.append_right {t : Trace Resources} (h : Resolved reference t actual)
    (t' : Trace Resources) : Resolved reference (t' ++ t) actual := by
  obtain ⟨r, u, v, w, same, rfl, runs⟩ := h
  exact ⟨r, t' ++ u, v, w, same, by simp, runs⟩

theorem Resolved.proper {t : Trace Resources} (h : Resolved reference t actual) :
    actual.origin ≠ .settingsDefault := by
  obtain ⟨r, u, v, w, same, rfl, runs⟩ := h
  exact (resolveActual_ensures r runs).2 actual rfl

namespace Sourced

variable {t u : Trace Studio}

theorem quiet (h : ∀ e ∈ t, Use.ofStudio? e.call = none) : Sourced reference t := by
  intro before e after use same used
  subst same
  rw [h e (by simp)] at used
  cases used

theorem append (h : Sourced reference t) (h' : Sourced reference u) :
    Sourced reference (t ++ u) := by
  intro before e after use same used
  cases append_eq_append_cons same with
  | inl first =>
      obtain ⟨after', rfl, within⟩ := first
      exact h before e after' use within used
  | inr second =>
      obtain ⟨before', rfl, within⟩ := second
      obtain ⟨actual, resolved, fits⟩ := h' before' e after use within used
      exact ⟨actual, by simpa using resolved.append_right (resources t), fits⟩

theorem of_append (h : Sourced reference (t ++ u)) : Sourced reference t := by
  intro before e after use same used
  exact h before e (after ++ u) use (by simp [same]) used

/-- Once the sound is resolved, it can be used. -/
theorem after (h : Sourced reference t) (resolved : Resolved reference (resources t) actual)
    (fits : ∀ e ∈ u, ∀ use, Use.ofStudio? e.call = some use → use.From actual) :
    Sourced reference (t ++ u) := by
  intro before e after use same used
  cases append_eq_append_cons same with
  | inl first =>
      obtain ⟨after', rfl, within⟩ := first
      exact h before e after' use within used
  | inr second =>
      obtain ⟨before', rfl, rfl⟩ := second
      refine ⟨actual, by simpa using resolved.append_left (resources before'), ?_⟩
      exact fits e (List.mem_append_right before' List.mem_cons_self) use used

theorem proper (h : Sourced reference t) :
    ∀ e ∈ t, ∀ use, Use.ofStudio? e.call = some use → use.Proper := by
  intro e he use used
  obtain ⟨before, after, rfl⟩ := List.append_of_mem he
  obtain ⟨actual, resolved, fits⟩ := h before e after use rfl used
  exact fits.proper resolved.proper

/-- A locator that stands for nothing makes no sound. -/
theorem silent (h : Sourced reference t)
    (never : ∀ r, reference = some r → NeverResolves r (resources t)) :
    ∀ e ∈ t, Use.ofStudio? e.call = none := by
  intro e he
  refine Option.eq_none_iff_forall_ne_some.mpr fun use used => ?_
  obtain ⟨before, after, rfl⟩ := List.append_of_mem he
  obtain ⟨actual, ⟨r, u, v, w, same, resolved, runs⟩, -⟩ := h before e after use rfl used
  have none := never r same u v (w ++ resources (e :: after)) (some actual)
    (by simp [resolved]) runs
  cases none

end Sourced

open Resource.Call (Quiet)

theorem ofStage?_left {c : Resource.Call} (h : c.Quiet) : Use.ofStage? (.inl c) = none := by
  cases c with
  | openAsset => exact absurd rfl h
  | _ => rfl

def Idle (c : Stage.Call) : Prop := Use.ofStage? c = none

theorem Idle.resources {α : Type} {p : Program Resources α} (h : p.Asks Quiet) :
    (p.left : Program Stage α).Asks Idle :=
  .left (h.mono fun _ => ofStage?_left)

def Fits (actual : Locator) (c : Studio.Call) : Prop :=
  ∀ use, Use.ofStudio? c = some use → use.From actual

theorem fits_resource (c : Resource.Call) : Fits actual (.inl (.inl c)) := by
  intro use used
  cases c with
  | openAsset => cases used; trivial
  | _ => cases used

/-- What the program uses was resolved before. `place` says where its calls stand
among those of a session. -/
def Sources {I : Interface} {α : Type} (place : Event I → Event Studio)
    (reference : Option Locator) (p : Program I α) : Prop :=
  p.Ensures fun t _ => Sourced reference (t.map place)

namespace Sources

variable {I : Interface} {α β : Type} {place : Event I → Event Studio} {p : Program I α}
  {f : α → Program I β}

theorem pure (a : α) : Sources place reference (Pure.pure a) :=
  ensures_pure.mpr (.quiet (by simp))

theorem of_quiet (h : p.Ensures fun t _ => ∀ e ∈ t, Use.ofStudio? (place e).call = none) :
    Sources place reference p :=
  h.mono fun _ _ quiet => .quiet (List.forall_mem_map.mpr quiet)

theorem bind_of {Q : α → Prop} (h : Sources place reference p) (known : p.Ensures fun _ a => Q a)
    (h' : ∀ a, Q a → Sources place reference (f a)) : Sources place reference (p >>= f) := by
  refine Ensures.bind (Ensures.and h known) fun t a ⟨sourced, q⟩ => ?_
  refine (h' a q).mono fun u b sourced' => ?_
  rw [List.map_append]
  exact sourced.append sourced'

theorem bind (h : Sources place reference p) (h' : ∀ a, Sources place reference (f a)) :
    Sources place reference (p >>= f) :=
  bind_of (Q := fun _ => True) h (.of_forall fun _ _ => trivial) fun a _ => h' a

/-- A program that resolves the sound may go on to use it. -/
theorem bind_resolved (h : p.Ensures fun t _ => ∀ e ∈ t, Use.ofStudio? (place e).call = none)
    (h' : ∀ t a, p.Runs t a → Sources place reference (f a) ∨
      ∃ actual, Resolved reference (resources (t.map place)) actual ∧
        (f a).Ensures fun t _ => ∀ e ∈ t, Fits actual (place e).call) :
    Sources place reference (p >>= f) := by
  intro t b runs
  obtain ⟨a, u, v, rfl, first, rest⟩ := runs_bind.mp runs
  have quiet : Sourced reference (u.map place) := .quiet (List.forall_mem_map.mpr (h first))
  rw [List.map_append]
  cases h' u a first with
  | inl sources => exact quiet.append (sources rest)
  | inr known =>
      obtain ⟨actual, resolved, fits⟩ := known
      exact quiet.after resolved (List.forall_mem_map.mpr (fits rest))

theorem left {p : Program Stage α} (h : Sources Event.left reference p) :
    Sources id reference (p.left : Program Studio α) :=
  ensures_left.mpr (h.mono fun t _ sourced => by simpa using sourced)

end Sources

namespace Player

theorem drop_idle (player : Player) : player.drop.Asks Idle :=
  player.drop_calm.mono fun _ calm => calm.unused

theorem start_idle (player : Player) : player.start.Asks Idle := .right (.request rfl)

def Only (source : Source) (c : Stage.Call) : Prop :=
  ∀ use, Use.ofStage? c = some use → use = .source source

theorem only_of_idle {source : Source} {c : Stage.Call} (h : Idle c) : Only source c := by
  intro use used
  rw [h] at used
  cases used

theorem fits_of_only {source : Source} (fits : (Use.source source).From actual) {c : Stage.Call}
    (h : Only source c) : Fits actual (.inl c) := by
  intro use used
  rw [h use used]
  exact fits

theorem openPrepared_only (source : Source) (attributes : Attributes) :
    (openPrepared source attributes).Asks (Only source) := by
  have opens : Only source (.inr (.openSource source attributes)) := fun use used => by
    cases used
    rfl
  refine .bind (.right (.request opens)) fun opened => ?_
  split
  · exact .pure _
  · refine .bind (.right (.request (only_of_idle rfl))) fun prepared => ?_
    split
    · exact .pure _
    · exact .bind ((drop_idle _).mono fun _ => only_of_idle) fun _ => .pure _

theorem openStarted_only (source : Source) (attributes : Attributes) :
    (openStarted source attributes).Asks (Only source) := by
  refine .bind (openPrepared_only source attributes) fun opened => ?_
  split
  · exact .pure _
  · refine .bind ((start_idle _).mono fun _ => only_of_idle) fun started => ?_
    split
    · exact .pure _
    · exact .bind ((drop_idle _).mono fun _ => only_of_idle) fun _ => .pure _

end Player

namespace Fallback

theorem replacesDefaultRingtone_resolves (reference : Option Locator) :
    (replacesDefaultRingtone reference).Ensures fun t result =>
      result = true → ∃ actual, Resolved reference t actual := by
  cases reference with
  | none => simp [replacesDefaultRingtone]
  | some r =>
      simp only [replacesDefaultRingtone]
      split
      · simp only [ensures_bind, ensures_pure, List.append_nil]
        intro v result runs found
        obtain ⟨actual, rfl⟩ := Option.isSome_iff_exists.mp found
        exact ⟨actual, .of_runs runs⟩
      · simp

theorem openAsset_descriptor :
    openAsset.Ensures fun _ result => ∀ source, result = .ok source →
      ∃ file offset length, source = .descriptor file offset length := by
  simp only [openAsset, Resource.openAsset, ensures_bind, ensures_call, ensures_done]
  intro asset
  cases asset with
  | error e => simp
  | ok asset =>
      simp only [Resource.duplicate, ensures_bind, ensures_call, ensures_done]
      intro file
      cases file with
      | error e => simp
      | ok file => simp

theorem tryPlay_sources (reference : Option Locator) (attributes : Attributes) :
    Sources Event.left reference (tryPlay reference attributes) := by
  unfold tryPlay
  refine .bind (.of_quiet (Asks.left (P := Idle) (.request rfl))) fun volume => ?_
  split
  · exact .pure _
  · refine .bind_resolved (Idle.resources (replacesDefaultRingtone_looks _).quiet)
      fun t found runs => ?_
    split
    · exact .inl (.pure _)
    · rename_i yes
      rw [lift_left] at runs
      obtain ⟨u, rfl, replaces⟩ := runs_left.mp runs
      obtain ⟨actual, resolved⟩ :=
        replacesDefaultRingtone_resolves reference replaces (by simpa using yes)
      refine .inr ⟨actual, by simpa using resolved, ?_⟩
      -- The bundled sound may stand in for any sound.
      refine Asks.bind_of (P := fun c => Fits actual (.inl c)) (.left (.of_forall fits_resource))
        (ensures_left.mpr openAsset_descriptor) fun result known => ?_
      split
      · exact .pure _
      · rename_i source
        obtain ⟨file, offset, length, rfl⟩ := known source rfl
        have stands : (Use.source (.descriptor file offset length)).From actual := trivial
        have fits := (Player.openStarted_only (.descriptor file offset length) attributes).mono
          fun _ => Player.fits_of_only stands
        refine .bind fits fun _ => ?_
        split
        · exact .pure _
        · exact .pure _

theorem play_sources (reference : Option Locator) (attributes : Attributes) :
    Sources Event.left reference (play reference attributes) := by
  have logged {β : Type} (level : Log.Level) (message : String)
      (fields : List (String × Log.FieldValue)) (result : β) :
      Sources Event.left reference (do
        (Resource.log level "fallback" message fields).left
        return result : Program Stage β) :=
    .of_quiet (Asks.bind (P := Idle) (.left (.request rfl)) fun _ => .pure _)
  refine .bind (tryPlay_sources reference attributes) fun result => ?_
  split
  · exact logged ..
  · exact .pure _
  · exact logged ..
  · exact logged ..

end Fallback

namespace Session

def Still (c : Studio.Call) : Prop := Use.ofStudio? c = none

theorem fits_of_still {c : Studio.Call} (h : Still c) : Fits actual c := by
  intro use used
  rw [h] at used
  cases used

/-- The session's locator while the operation is under way. -/
def during (s : Session) : Operation → Option Locator
  | .setReference reference => reference
  | _ => s.reference

theorem log_still (level : Log.Level) (message : String) (fields : List (String × Log.FieldValue)) :
    ((log level message fields).left.left : Program Studio Unit).Asks Still :=
  (log_calm ..).still

theorem still_resources {α : Type} {p : Program Resources α} (h : p.Asks Quiet) :
    (p.left.left : Program Studio α).Asks Still :=
  .left (Idle.resources h)

theorem openHere_sources (s : Session) (r : Locator) :
    Sources Event.left (some r) (s.openHere r) := by
  unfold openHere
  refine .bind_resolved (Idle.resources (resolveActual_looks r).quiet) fun t found runs => ?_
  split
  · exact .inl (.pure _)
  · rename_i actual
    rw [lift_left] at runs
    obtain ⟨v, rfl, resolves⟩ := runs_left.mp runs
    refine .inr ⟨actual, by simpa using Resolved.of_runs resolves, ?_⟩
    have same : (Use.source (.locator actual)).From actual := rfl
    have fits := (Player.openPrepared_only (.locator actual) s.attributes).mono
      fun _ => Player.fits_of_only same
    refine Asks.bind fits fun opened => ?_
    split
    · exact .pure _
    · exact .pure _

theorem afterRestore_sources {config : RestoreConfig} {p : Program Studio Session}
    (h : Sources id reference p) :
    Sources id reference
      (if config.enabled = true then do
        let _ ← liftM (Restore.all config)
        p
      else p) := by
  split
  · exact .bind (.of_quiet (calm_resources (Restore.all_looks config)).still) fun _ => h
  · exact h

theorem openReference_sources (s : Session) (r : Locator) :
    Sources id (some r) (s.openReference r) := by
  simp only [openReference]
  refine afterRestore_sources (.bind (.left (s.openHere_sources r)) fun opened => ?_)
  split
  · exact .bind (.of_quiet (log_still ..)) fun _ => .pure _
  · split
    · exact .bind (.of_quiet (log_still ..)) fun _ => .pure _
    · exact .bind (.of_quiet (log_still ..)) fun _ => .pure _

theorem releaseBacking_result (s : Session) :
    s.releaseBacking.Ensures fun _ s' => s' = { s with backing := .unbound } := by
  unfold releaseBacking
  split
  · simp
  · simp only [ensures_bind, ensures_pure]
    exact .of_forall fun _ _ => trivial
  · split
    · simp
    · simp only [ensures_bind]
      refine .of_forall fun t answer => ?_
      cases answer with
      | ok => simp
      | error e =>
          simp only [ensures_bind, ensures_pure]
          exact .of_forall fun _ _ => trivial

theorem bind_sources (s : Session) : Sources id s.reference s.bind := by
  refine .bind_of (.of_quiet s.releaseBacking_calm.still) s.releaseBacking_result fun s' same => ?_
  subst same
  split
  · exact .pure _
  · rename_i r sound
    rw [show s.reference = some r from sound]
    exact openReference_sources _ r

theorem playFallback_sources (s : Session) : Sources id s.reference s.playFallback := by
  refine .bind (.left (Fallback.play_sources s.reference s.attributes)) fun played => ?_
  split
  · exact .pure _
  · exact .bind (.of_quiet s.releaseBacking_calm.still) fun _ => .pure _

theorem delegatePlay_sources (s : Session) : Sources id s.reference s.delegatePlay := by
  unfold delegatePlay
  split
  · rename_i token r may sound
    rw [sound]
    refine .bind_resolved (calm_resources (resolveActual_looks r)).still fun t found runs => ?_
    split
    · exact .inl (.bind (.of_quiet (log_still ..)) fun _ => .pure _)
    · rename_i actual
      rw [lift_left_left] at runs
      obtain ⟨u, rfl, runs'⟩ := runs_left.mp runs
      obtain ⟨v, rfl, resolves⟩ := runs_left.mp runs'
      refine .inr ⟨actual, by simpa using Resolved.of_runs resolves, ?_⟩
      have delegates : Fits actual (.inr (.play token actual.canonical s.attributes)) :=
        fun use used => by cases used; rfl
      exact Asks.bind ((log_still ..).mono fun _ => fits_of_still) fun _ =>
        .bind (.right (.request delegates)) fun _ => .pure _
  · exact .pure _

theorem playInstead_sources (s : Session) (message : String)
    (fields : List (String × Log.FieldValue)) :
    Sources id s.reference (s.playInstead message fields) := by
  simp only [playInstead]
  refine .bind s.playFallback_sources fun result => ?_
  split
  · exact .bind (.of_quiet (log_still ..)) fun _ => .pure _
  · exact .pure _

theorem play_sources (s : Session) : Sources id s.reference s.play := by
  unfold play
  refine .bind (.of_quiet (still_resources (.request nofun))) fun volume => ?_
  split
  · split
    · exact .bind (.of_quiet (log_still ..)) fun _ => .pure _
    · refine .bind (.of_quiet (Asks.left (P := Still) (Player.start_idle _))) fun started => ?_
      split
      · exact .pure _
      · exact .bind (.of_quiet (log_still ..)) fun _ => .pure _
  · split
    · exact .bind (.of_quiet (log_still ..)) fun _ => .pure _
    · refine .bind s.delegatePlay_sources fun answer => ?_
      split
      · exact .pure _
      · exact s.playInstead_sources _ _
      · exact s.playInstead_sources _ _

theorem perform_sources (s : Session) (o : Operation) : Sources id (s.during o) (s.perform o) := by
  cases o with
  | setReference reference => exact .bind (bind_sources _) fun _ => .pure _
  | setAttributes attributes => exact .bind (bind_sources _) fun _ => .pure _
  | setStreamNumber number =>
      have set : Sources id s.reference (s.setStreamNumber number) := by
        unfold setStreamNumber
        split
        · exact .pure _
        · exact .bind (bind_sources _) fun _ => .pure _
      refine .bind set fun result => ?_
      split
      · exact .pure _
      · exact .pure _
  | attributes | stream | reference | allowsRemote | setTitle _ => exact .pure _
  | title => exact .bind (.of_quiet s.getTitle_calm.still) fun _ => .pure _
  | play => exact .bind s.play_sources fun _ => .pure _
  | stop => exact .bind (.of_quiet s.releaseBacking_calm.still) fun _ => .pure _
  | isPlaying => exact .bind (.of_quiet s.isPlaying_calm.still) fun _ => .pure _
  | playFallback => exact .bind s.playFallback_sources fun _ => .pure _

/-- What is called for in an operation, finished or not. -/
theorem sourced_of_steps {s : Session} {o : Operation} {t : Trace Studio}
    {rest : Program Studio (Reply × Session)} (h : (s.perform o).Steps t rest) :
    Sourced (s.during o) t := by
  obtain ⟨u, result, runs⟩ := rest.exists_runs
  have whole : Sourced (s.during o) ((t ++ u).map id) := s.perform_sources o (h.append runs)
  rw [List.map_id] at whole
  exact whole.of_append

theorem History.proper {s₀ s : Session} {run : List Episode} (h : History s₀ run s) :
    ∀ e ∈ events run, ∀ use, Use.ofStudio? e.call = some use → use.Proper := by
  induction h with
  | start => simp [events]
  | next _ runs ih =>
      rw [events_append, events_single, List.forall_mem_append]
      exact ⟨ih, (sourced_of_steps runs).proper⟩

theorem Party.Sound.proper {s₀ : Session} {p : Party} (sound : p.Sound s₀) :
    ∀ e ∈ p.trace, ∀ use, Use.ofStudio? e.call = some use → use.Proper := by
  rw [Party.trace, List.forall_mem_append]
  refine ⟨sound.history.proper, ?_⟩
  split
  · simp
  · rename_i turn under
    exact (sourced_of_steps (sound.turn turn under)).proper

end Session

namespace World

open Session

variable {ι : Type} [DecidableEq ι] {config : ι → Config} {token : ι → Token} {W : World ι}

/-- What sessions hand over is all that the worker opens. -/
theorem Reachable.heard_proper (h : Reachable (start config token) W) :
    ∀ e ∈ W.heard, ∀ use, Use.ofEngine? e.call = some use → use.Proper := by
  induction h with
  | refl => simp [start]
  | tail reached step ih =>
      have sound := Reachable.sound (reached.tail step)
      cases step with
      | alone i move | refused i move gone => exact ih
      | @served i c answer p w u w' move up runs =>
          have served : Remote.Served w c (rights u) answer w' := Remote.serve_ensures w c runs
          refine List.forall_mem_append.mpr ⟨ih, fun e he use used => ?_⟩
          obtain ⟨called, result⟩ := e
          cases called with
          | openSource source attributes =>
              cases used
              obtain ⟨before, after, same⟩ := List.append_of_mem he
              rw [same] at served
              obtain ⟨token', r, rfl, rfl, -⟩ := served.opens
              have asked : (⟨.play token' r attributes, answer⟩ : Event Remotes).right ∈ p.trace :=
                mem_rights.mp (by
                  rw [show rights p.trace = remote p.trace from rfl, move.remote_trace]
                  simp)
              have sound := sound i
              rw [show (put _ i p).parties i = p from parties_put ..] at sound
              exact sound.proper _ asked (.delegation r) rfl
          | prepare _ | start _ | stop _ | reset _ | release _ | isPlaying _ => cases used
      | @shutDown w u up runs =>
          have ended := Remote.shutDown_ensures w runs
          refine List.forall_mem_append.mpr ⟨ih, fun e he use used => ?_⟩
          rw [ended, List.mem_flatMap] at he
          obtain ⟨handle, -, he⟩ := he
          simp only [Player.ending, List.mem_cons, List.not_mem_nil, or_false] at he
          obtain rfl | rfl | rfl := he <;> cases used

end World

open Session World

/-- No default reaches a player. Whatever the settings hold and whatever else is
answered, a session never opens a default and never hands one over, in operations that
are finished or under way, and a worker that sessions share opens none either. A
locator that stands for nothing throughout an operation makes no sound in it: no engine
opens, nothing is handed over, and the bundled sound is left alone. Resolving reads the
settings once at most, and what it comes to is resolved to itself. -/
theorem defaults_reach_no_player :
    (∀ config surface run s o t rest, History (.new config surface) run s →
      (s.perform o).Steps t rest →
        (∀ e ∈ events run ++ t, ∀ use, Use.ofStudio? e.call = some use → use.Proper) ∧
        ((∀ r, s.during o = some r → NeverResolves r (resources t)) →
          ∀ e ∈ t, Use.ofStudio? e.call = none)) ∧
    (∀ (ι : Type) [DecidableEq ι] (config : ι → Config) (token : ι → Token) (W : World ι),
      Reachable (start config token) W →
        (∀ i, ∀ e ∈ (W.parties i).trace, ∀ use, Use.ofStudio? e.call = some use → use.Proper) ∧
        ∀ e ∈ W.heard, ∀ use, Use.ofEngine? e.call = some use → use.Proper) ∧
    ∀ r, (resolveActual r).Ensures fun t result =>
      t.countP (fun e => e.call.readsSetting) ≤ 1 ∧
        ∀ actual, result = some actual → resolveActual actual = pure (some actual) := by
  refine ⟨?_, ?_, fun r => ?_⟩
  · intro config surface run s o t rest history steps
    have sourced := sourced_of_steps steps
    refine ⟨List.forall_mem_append.mpr ⟨history.proper, sourced.proper⟩, fun never => ?_⟩
    exact sourced.silent never
  · intro ι _ config token W reachable
    exact ⟨fun i => (Reachable.sound reachable i).proper, Reachable.heard_proper reachable⟩
  · refine (resolveActual_ensures r).mono fun t result ⟨once, other⟩ => ⟨once, ?_⟩
    exact fun actual found => resolveActual_of_ne (other actual found)

def unsetRingtone : Trace Studio :=
  ((Session.new .ordinary (some ⟨1⟩)).perform
    (.setReference (some (.settingsDefault (.ringtone 0))))).record obliging 0

/-- Settings that name a ringtone, and an engine that can open nothing. -/
def configured : Handler Stage Nat
  | .inl (.setting _), n => (some "content://media/internal/audio/media/7", n)
  | .inr (.openSource _ _), n => (.error (.noData ""), n)
  | c, n => compliant c n

def ringtoneHandedOver : World Unit :=
  performAll configured compliant
    [((), .setReference (some (.settingsDefault (.ringtone 0)))), ((), .play)]
    (start (fun _ => .ordinary) fun _ => ⟨1⟩) 0 0

theorem defaults_reach_no_player_ringtone :
    (∀ e ∈ unsetRingtone, Use.ofStudio? e.call = none) ∧
      Engine.opened ringtoneHandedOver.heard = [0] ∧
      ∀ e ∈ ringtoneHandedOver.heard, ∀ use, Use.ofEngine? e.call = some use → use.Proper := by
  obtain ⟨alone, shared, -⟩ := defaults_reach_no_player
  refine ⟨?_, by decide +kernel, ?_⟩
  · refine (alone .ordinary (some ⟨1⟩) [] _ _ _ _ .start (runs_record obliging _ 0)).2 ?_
    intro r same
    cases same
    have unset : ∀ e ∈ resources unsetRingtone, Resource.unset e = true := by decide +kernel
    exact neverResolves_of_unset rfl unset
  · exact (shared Unit _ _ _ (reachable_performAll configured compliant _ _ 0 0 fun _ => rfl)).2

end AlertSound
