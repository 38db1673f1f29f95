import AlertSound.Proofs.Session.Silence
import AlertSound.Proofs.Session.Sourced

/-!
What a session and its remote player say to each other. In one operation that is little:
a question, a play, and a stop where a delegation ends. `Exchange` lists what it can be.
Along a run, plays and stops then take turns as they should, under one token, and each
delegation that ends is ended by one stop.
-/
namespace AlertSound

open Program Trace Studio

namespace Remote

def Call.isStop : Call → Bool
  | .stop _ => true
  | .play _ _ _ | .isPlaying _ => false

/-- How many stops were sent, answered or not. -/
def stops (t : Trace Remotes) : Nat := t.countP fun e => e.call.isStop

/-- A stop is sent only while a sound is delegated, which one is or is not at first. -/
def Orderly : Bool → Trace Remotes → Prop
  | _, [] => True
  | delegated, e :: t =>
    (e.call.isStop = true → delegated = true) ∧ Orderly (delegatedAfter delegated e) t

theorem orderly_append {delegated : Bool} {t u : Trace Remotes} :
    Orderly delegated (t ++ u) ↔
      Orderly delegated t ∧ Orderly (t.foldl delegatedAfter delegated) u := by
  induction t generalizing delegated with
  | nil => simp [Orderly]
  | cons e t ih => simp [Orderly, ih, and_assoc]

end Remote

namespace Session

open Remote

def Within : Studio.Call → Prop
  | .inl _ => True
  | .inr _ => False

theorem within_left {α : Type} (p : Program Stage α) :
    (p.left : Program Studio α).Asks Within := .left (.of_forall fun _ => trivial)

theorem remote_of_within {t : Trace Studio} (h : ∀ e ∈ t, Within e.call) : remote t = [] := by
  refine List.filterMap_eq_nil_iff.mpr fun e he => ?_
  obtain ⟨c, answer⟩ := e
  cases c with
  | inl c => rfl
  | inr c => exact (h _ he).elim

inductive Farewell (backing : Backing) : Trace Remotes → Prop where
  | none : Farewell backing []
  | stop (token answer) : backing = .delegated → Farewell backing [⟨.stop token, answer⟩]

inductive Exchange (s : Session) : Trace Remotes → Prop where
  | left {t} : Farewell s.backing t → Exchange s t
  | asked (token answer) : Exchange s [⟨.isPlaying token, answer⟩]
  | accepted (token r) : Exchange s [⟨.play token r s.attributes, .ok ()⟩]
  | refused {t} (token r e) : Farewell s.backing t →
      Exchange s (⟨.play token r s.attributes, .error e⟩ :: t)

theorem Exchange.silent (s : Session) : Exchange s [] := .left .none

theorem releaseBacking_farewell (s : Session) :
    s.releaseBacking.Ensures fun t _ => Farewell s.backing (remote t) := by
  unfold releaseBacking
  split
  · exact ensures_pure.mpr .none
  · simp only [ensures_bind, lift_left, ensures_left]
    exact .of_forall fun t _ => ensures_pure.mpr (by simpa using .none)
  · rename_i delegated
    split
    · exact ensures_pure.mpr .none
    · rename_i token may
      simp only [Remote.stop, ensures_bind, lift_right, ensures_right, ensures_call, ensures_done]
      intro answer
      have said := Farewell.stop token answer delegated
      cases answer with
      | ok => exact ensures_pure.mpr (by simpa using said)
      | error e => simpa [log, Resource.log] using said

theorem openReference_within (s : Session) (r : Locator) : (s.openReference r).Asks Within := by
  simp only [openReference]
  refine afterRestore_asks (within_left _) (.bind (within_left _) fun opened => ?_)
  split
  · exact .bind (within_left _) fun _ => .pure _
  · split
    · exact .bind (within_left _) fun _ => .pure _
    · exact .bind (within_left _) fun _ => .pure _

theorem bind_farewell (s : Session) :
    s.bind.Ensures fun t _ => Farewell s.backing (remote t) := by
  refine (releaseBacking_farewell s).bind fun t s' farewell => ?_
  split
  · exact ensures_pure.mpr (by simpa using farewell)
  · refine Ensures.mono (openReference_within _ _) fun u s' within => ?_
    simpa [remote_of_within within] using farewell

theorem playFallback_farewell (s : Session) :
    s.playFallback.Ensures fun t _ => Farewell s.backing (remote t) := by
  simp only [playFallback, ensures_bind, lift_left, ensures_left]
  refine .of_forall fun t played => ?_
  cases played with
  | none => exact ensures_pure.mpr (by simpa using .none)
  | some player =>
      simp only [ensures_bind, ensures_pure]
      exact s.releaseBacking_farewell.mono fun u _ farewell => by simpa using farewell

theorem playInstead_farewell (s : Session) (message : String)
    (fields : List (String × Log.FieldValue)) :
    (s.playInstead message fields).Ensures fun t _ => Farewell s.backing (remote t) := by
  unfold playInstead
  refine s.playFallback_farewell.bind fun t result farewell => ?_
  simp only [log, Resource.log]
  split <;> simpa using farewell

theorem play_exchange (s : Session) : s.play.Ensures fun t _ => Exchange s (remote t) := by
  simp only [play, Resource.volume, logMuted, log, Resource.log, ensures_bind, lift_left_left,
    lift_left, ensures_left, ensures_call, ensures_done]
  intro volume
  split
  · split
    · simpa using Exchange.silent s
    · simp only [Player.start, Engine.start, ensures_bind, lift_right, ensures_left, ensures_right,
        ensures_call, ensures_done]
      intro answer
      cases answer with
      | ok => simpa using Exchange.silent s
      | error e => simpa using Exchange.silent s
  · split
    · simpa using Exchange.silent s
    · simp only [ensures_bind]
      refine (s.delegatePlay_ensures).mono fun t result outcome => ?_
      obtain ⟨-, outcome⟩ := outcome
      cases result with
      | none =>
          refine (s.playInstead_farewell _ _).mono fun u _ farewell => ?_
          simpa [outcome] using Exchange.left farewell
      | some answer =>
          obtain ⟨token, r, -, -, asked⟩ := outcome
          cases answer with
          | ok => simpa [asked] using Exchange.accepted token r
          | error e =>
              refine (s.playInstead_farewell _ _).mono fun u _ farewell => ?_
              simpa [asked] using Exchange.refused token r e farewell

theorem isPlaying_exchange (s : Session) :
    s.isPlaying.Ensures fun t _ => Exchange s (remote t) := by
  unfold isPlaying
  split
  · simp only [lift_left, ensures_left]
    exact .of_forall fun t _ => by simpa using Exchange.silent s
  · rename_i token _ _
    simp only [Remote.isPlaying, ensures_bind, lift_right, ensures_right, ensures_call,
      ensures_done]
    intro answer
    have said := Exchange.asked (s := s) token answer
    cases answer with
    | ok playing => exact ensures_pure.mpr (by simpa using said)
    | error e => simpa [log, Resource.log] using said
  · simpa [log, Resource.log] using Exchange.silent s

theorem perform_exchange (s : Session) (o : Operation) :
    (s.perform o).Ensures fun t _ => Exchange s (remote t) := by
  cases o with
  | attributes | stream | reference | allowsRemote | setTitle _ =>
      exact ensures_pure.mpr (Exchange.silent s)
  | setReference _ | setAttributes _ =>
      simp only [perform, setReference, setAttributes, ensures_bind, ensures_pure, List.append_nil]
      exact (bind_farewell _).mono fun _ _ farewell => .left farewell
  | setStreamNumber number =>
      simp only [perform, setStreamNumber, setAttributes]
      cases SoundStream.ofNumber? number with
      | none => simpa using Exchange.silent s
      | some stream =>
          simp only [ensures_bind, ensures_pure, List.append_nil]
          exact (bind_farewell _).mono fun _ _ farewell => .left farewell
  | title =>
      simp only [perform, ensures_bind, ensures_pure, List.append_nil]
      refine s.getTitle_ensures.mono fun t result found => ?_
      obtain ⟨-, called, -⟩ := found
      rw [called]
      exact .silent s
  | play =>
      simp only [perform, ensures_bind, ensures_pure, List.append_nil]
      exact s.play_exchange
  | stop =>
      simp only [perform, stop, ensures_bind, ensures_pure, List.append_nil]
      exact s.releaseBacking_farewell.mono fun _ _ farewell => .left farewell
  | isPlaying =>
      simp only [perform, ensures_bind, ensures_pure, List.append_nil]
      exact s.isPlaying_exchange
  | playFallback =>
      simp only [perform, ensures_bind, ensures_pure, List.append_nil]
      exact s.playFallback_farewell.mono fun _ _ farewell => .left farewell

section Consequences

variable {s : Session} {t : Trace Remotes}

theorem Farewell.orderly (h : Farewell s.backing t) : Orderly s.isDelegated t := by
  cases h with
  | none => trivial
  | stop token answer delegated => exact ⟨fun _ => isDelegated_iff.mpr delegated, trivial⟩

theorem Farewell.stops_eq (h : Farewell s.backing t) :
    stops t = if s.isDelegated && !t.foldl delegatedAfter s.isDelegated then 1 else 0 := by
  cases h with
  | none => simp [stops]
  | stop token answer delegated =>
      simp [isDelegated_iff.mpr delegated, delegatedAfter, stops, Call.isStop]

theorem Farewell.idle (h : Farewell s.backing t) (before : s.isDelegated = false) :
    t.foldl delegatedAfter s.isDelegated = false := by
  cases h with
  | none => exact before
  | stop token answer delegated => rfl

theorem Exchange.orderly (h : Exchange s t) : Orderly s.isDelegated t := by
  cases h with
  | left farewell => exact farewell.orderly
  | asked token answer => exact ⟨nofun, trivial⟩
  | accepted token r => exact ⟨nofun, trivial⟩
  | refused token r e farewell => exact ⟨nofun, farewell.orderly⟩

/-- One stop ends a delegation, and nothing else sends one. -/
theorem Exchange.stops_eq (h : Exchange s t) :
    stops t = if s.isDelegated && !t.foldl delegatedAfter s.isDelegated then 1 else 0 := by
  cases h with
  | left farewell => exact farewell.stops_eq
  | asked token answer => simp [delegatedAfter, stops, Call.isStop]
  | accepted token r => simp [delegatedAfter, stops, Call.isStop]
  | refused token r e farewell => simpa [delegatedAfter, stops, Call.isStop] using farewell.stops_eq

/-- A delegation begins with a play that is accepted. -/
theorem Exchange.begins (h : Exchange s t) (before : s.isDelegated = false)
    (after : t.foldl delegatedAfter s.isDelegated = true) :
    ∃ token r, t = [⟨.play token r s.attributes, .ok ()⟩] := by
  cases h with
  | left farewell => simp [farewell.idle before] at after
  | asked token answer => simp [before, delegatedAfter] at after
  | accepted token r => exact ⟨token, r, rfl⟩
  | refused token r e farewell => simp [delegatedAfter, farewell.idle before] at after

theorem Exchange.attributes (h : Exchange s t) {token : Token} {r : Locator}
    {attributes : Attributes} {answer : Except TransportError Unit}
    (played : ⟨.play token r attributes, answer⟩ ∈ t) : attributes = s.attributes := by
  cases h with
  | left farewell => cases farewell <;> simp at played
  | asked token answer => simp at played
  | accepted token r =>
      cases List.mem_singleton.mp played
      rfl
  | refused token r e farewell =>
      cases List.mem_cons.mp played with
      | inl same => cases same; rfl
      | inr later => cases farewell <;> simp at later

end Consequences

theorem History.orderly {s₀ s : Session} {run : List Episode} (h : History s₀ run s)
    (unbound : s₀.backing = .unbound) (silent : s₀.reference = none) :
    Orderly false (remote (events run)) := by
  induction h with
  | start => trivial
  | @next run s₁ e s₂ history runs ih =>
      have delegation := (history.carried unbound silent).delegation
      rw [show s₀.isDelegated = false by simp [isDelegated, unbound]] at delegation
      rw [events_append, remote_append, events_single, orderly_append, delegation]
      exact ⟨ih, (s₁.perform_exchange e.operation runs).orderly⟩

/-- The protocol of a session with its remote player. All calls carry one token. The
session counts as delegated while the last accepted play has not been followed by a stop,
and no stop is sent otherwise. A session that may not delegate says nothing to the remote
player. In an operation, what is handed over is the canonical form of what the session's
sound was resolved to, with the attributes in force; a delegation begins with a play that
is accepted, and where one ends, and only there, one stop is sent, answered or not. -/
theorem delegation_protocol (config : Config) (surface : Option Token) {run : List Episode}
    {s : Session} (h : History (.new config surface) run s) :
    (∀ e ∈ remote (events run), (new config surface).delegate = some e.call.token) ∧
    (s.backing = .delegated ↔ outstanding (remote (events run)) = true) ∧
    (∀ before token answer after,
      remote (events run) = before ++ ⟨.stop token, answer⟩ :: after →
        outstanding before = true) ∧
    (config.allowRemote = false ∨ surface = none →
      remote (events run) = [] ∧ s.backing ≠ .delegated) ∧
    ∀ o t reply s', (s.perform o).Runs t (reply, s') →
      (∀ before token r attributes answer after,
        t = before ++ ⟨.inr (.play token r attributes), answer⟩ :: after →
          attributes = s.attributes ∧
          ∃ actual, Resolved (s.during o) (resources before) actual ∧ r = actual.canonical) ∧
      (s.backing ≠ .delegated → s'.backing = .delegated →
        ∃ token r, remote t = [⟨.play token r s.attributes, .ok ()⟩]) ∧
      stops (remote t) = if s.backing = .delegated ∧ s'.backing ≠ .delegated then 1 else 0 := by
  have carried := h.carried rfl rfl
  have delegation : outstanding (remote (events run)) = s.isDelegated := carried.delegation
  refine ⟨carried.token, ?_, ?_, ?_, fun o t reply s' runs => ?_⟩
  · rw [delegation, isDelegated_iff]
  · intro before token answer after same
    have orderly := h.orderly rfl rfl
    rw [same, orderly_append] at orderly
    exact orderly.2.1 rfl
  · intro forbidden
    have never : (new config surface).delegate = none := by
      cases forbidden with
      | inl refused => simp [new, refused]
      | inr absent => simp [new, absent]
    refine ⟨List.eq_nil_iff_forall_not_mem.mpr fun e he => ?_, fun delegated => ?_⟩
    · have token := carried.token e he
      rw [never] at token
      cases token
    · have may := carried.valid delegated
      rw [carried.delegate, never] at may
      cases may
  · have exchange : Exchange s (remote t) := s.perform_exchange o runs
    have after : (remote t).foldl delegatedAfter s.isDelegated = s'.isDelegated :=
      (perform_ensures carried.valid o runs).delegation
    refine ⟨?_, fun free delegated => ?_, ?_⟩
    · intro before token r attributes answer rest same
      have sourced : Sourced (s.during o) (t.map id) := s.perform_sources o runs
      rw [List.map_id] at sourced
      have played : (⟨.play token r attributes, answer⟩ : Event Remotes) ∈ remote t :=
        mem_rights.mpr (same ▸ List.mem_append_right before List.mem_cons_self)
      obtain ⟨actual, resolved, fits⟩ := sourced before _ rest (.delegation r) same rfl
      exact ⟨exchange.attributes played, actual, resolved, fits⟩
    · refine exchange.begins ?_ (after.trans (isDelegated_iff.mpr delegated))
      exact Bool.eq_false_iff.mpr fun known => free (isDelegated_iff.mp known)
    · rw [exchange.stops_eq, after]
      simp [← isDelegated_iff]

/-- Settings and an engine as in `configured`, and a remote player that takes what it is
given but answers no stop. -/
def unheeding : Handler Studio Nat :=
  configured.sum fun
    | .play _ _ _, n => (.ok (), n)
    | .stop _, n => (.error .disconnected, n)
    | .isPlaying _, n => (.ok true, n)

def handedOver : List Episode × Session × Nat :=
  replay unheeding (.new .ordinary (some ⟨1⟩)) 0
    [.setReference (some (.settingsDefault (.ringtone 0))), .play, .isPlaying, .play]

theorem delegation_protocol_unheeded :
    (remote (events handedOver.1)).length = 3 ∧
      (∀ e ∈ remote (events handedOver.1), e.call.token = ⟨1⟩) ∧
      handedOver.2.1.backing = .delegated ∧
      stops (remote ((handedOver.2.1.perform .stop).record unheeding 0)) = 1 ∧
      remote (events twice.1) = [] := by
  obtain ⟨token, delegated, -, -, operation⟩ := delegation_protocol .ordinary (some ⟨1⟩)
    (history_replay unheeding _ 0 _ : History _ handedOver.1 handedOver.2.1)
  obtain ⟨-, -, -, none, -⟩ := delegation_protocol .ordinary none
    (history_replay obliging _ 0 _ : History _ twice.1 twice.2.1)
  have has := delegated.mpr (by decide +kernel)
  obtain ⟨-, -, one⟩ :=
    operation .stop _ _ _ (runs_record unheeding (handedOver.2.1.perform .stop) 0)
  refine ⟨by decide +kernel, fun e he => (Option.some.inj (token e he)).symm, has, ?_,
    (none (.inr rfl)).1⟩
  rw [one, if_pos ⟨has, by decide +kernel⟩]

end Session
end AlertSound
