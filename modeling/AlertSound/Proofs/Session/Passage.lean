import AlertSound.Session.Operation
import AlertSound.Proofs.Playback.Player

/-!
What every part of an operation keeps to. A session owns at most one handle, and it
counts as delegated exactly as long as the last accepted remote play has not been
followed by a stop. `Keeps` says that a trace respects both; `Passage` adds that the
session's sound stays the same and where the player that it ends with comes from.
-/
namespace AlertSound

open Program Trace

namespace Studio

def resources (t : Trace Studio) : Trace Resources := lefts (lefts t)

def engine (t : Trace Studio) : Trace Engines := rights (lefts t)

def remote (t : Trace Studio) : Trace Remotes := rights t

@[simp] theorem resources_nil : resources [] = [] := rfl

@[simp] theorem engine_nil : engine [] = [] := rfl

@[simp] theorem remote_nil : remote [] = [] := rfl

section Cons

variable (t : Trace Studio)

@[simp] theorem resources_cons_resource (e : Event Resources) :
    resources (e.left.left :: t) = e :: resources t := rfl

@[simp] theorem resources_cons_engine (e : Event Engines) :
    resources (e.right.left :: t) = resources t := rfl

@[simp] theorem resources_cons_remote (e : Event Remotes) :
    resources (e.right :: t) = resources t := rfl

@[simp] theorem engine_cons_resource (e : Event Resources) :
    engine (e.left.left :: t) = engine t := rfl

@[simp] theorem engine_cons_engine (e : Event Engines) :
    engine (e.right.left :: t) = e :: engine t := rfl

@[simp] theorem engine_cons_remote (e : Event Remotes) : engine (e.right :: t) = engine t := rfl

@[simp] theorem remote_cons_stage (e : Event Stage) : remote (e.left :: t) = remote t := rfl

@[simp] theorem remote_cons_remote (e : Event Remotes) :
    remote (e.right :: t) = e :: remote t := rfl

end Cons

@[simp] theorem resources_append (t u : Trace Studio) :
    resources (t ++ u) = resources t ++ resources u := by
  simp [resources]

@[simp] theorem engine_append (t u : Trace Studio) : engine (t ++ u) = engine t ++ engine u := by
  simp [engine]

@[simp] theorem remote_append (t u : Trace Studio) : remote (t ++ u) = remote t ++ remote u := by
  simp [remote]

@[simp] theorem resources_map_left (t : Trace Stage) :
    resources (t.map (Event.left (J := Remotes))) = lefts t := by
  simp [resources]

@[simp] theorem engine_map_left (t : Trace Stage) :
    engine (t.map (Event.left (J := Remotes))) = rights t := by
  simp [engine]

@[simp] theorem remote_map_left (t : Trace Stage) :
    remote (t.map (Event.left (J := Remotes))) = [] := by
  simp [remote]

@[simp] theorem resources_map_resource (t : Trace Resources) :
    resources (t.map (Event.left (J := Remotes) ∘ Event.left (J := Engines))) = t := by
  rw [← List.map_map, resources, lefts_map_left, lefts_map_left]

@[simp] theorem engine_map_resource (t : Trace Resources) :
    engine (t.map (Event.left (J := Remotes) ∘ Event.left (J := Engines))) = [] := by
  rw [← List.map_map, engine_map_left, rights_map_left]

@[simp] theorem remote_map_resource (t : Trace Resources) :
    remote (t.map (Event.left (J := Remotes) ∘ Event.left (J := Engines))) = [] := by
  rw [← List.map_map, remote_map_left]

@[simp] theorem engine_map_right (t : Trace Remotes) :
    engine (t.map (Event.right (I := Stage))) = [] := by
  simp [engine]

@[simp] theorem remote_map_right (t : Trace Remotes) :
    remote (t.map (Event.right (I := Stage))) = t := by
  simp [remote]

end Studio

namespace Remote

def Call.token : Call → Token
  | .play token _ _ | .stop token | .isPlaying token => token

/-- Whether a sound is delegated after a call, if it was before. An accepted play
delegates and a stop ends it, whether or not the stop is answered. -/
def delegatedAfter (delegated : Bool) : Event Remotes → Bool
  | ⟨.play _ _ _, .ok ()⟩ => true
  | ⟨.play _ _ _, .error _⟩ => delegated
  | ⟨.stop _, _⟩ => false
  | ⟨.isPlaying _, _⟩ => delegated

def outstanding (t : Trace Remotes) : Bool := t.foldl delegatedAfter false

end Remote

namespace Session

open Studio

def handles (s : Session) : List HandleId :=
  match s.backing with
  | .held player => [player.handle]
  | .unbound | .delegated => []

def isDelegated (s : Session) : Bool :=
  match s.backing with
  | .delegated => true
  | .unbound | .held _ => false

theorem isDelegated_iff {s : Session} : s.isDelegated = true ↔ s.backing = .delegated := by
  cases h : s.backing <;> simp [isDelegated, h]

/-- Only a session that may delegate has delegated. -/
def Valid (s : Session) : Prop := s.backing = .delegated → s.delegate.isSome

/-- The player was opened in `t`, with these attributes, and prepared without fault. -/
def Opened (attributes : Attributes) (player : Player) (t : Trace Engines) : Prop :=
  ∃ source, ⟨.openSource source attributes, .ok player.handle⟩ ∈ t ∧
    ⟨.prepare player.handle, .ok ()⟩ ∈ t

structure Keeps (s : Session) (engine : Trace Engines) (remote : Trace Remotes) (s' : Session) :
    Prop where
  valid : s'.Valid
  custody : Engine.Custody s.handles engine s'.handles
  delegation : remote.foldl Remote.delegatedAfter s.isDelegated = s'.isDelegated
  token : ∀ e ∈ remote, s.delegate = some e.call.token
  delegate : s'.delegate = s.delegate

structure Passage (s : Session) (engine : Trace Engines) (remote : Trace Remotes) (s' : Session) :
    Prop extends Keeps s engine remote s' where
  reference : s'.reference = s.reference
  attributes : s'.attributes = s.attributes
  player : ∀ player, s'.backing = .held player →
    s.backing = .held player ∨ Opened s.attributes player engine
  vacant : s.reference = none → s.backing = .unbound → s'.backing = .unbound

variable {s s' s'' : Session} {t u : Trace Engines} {r r' : Trace Remotes}

theorem Opened.append_left {attributes : Attributes} {player : Player}
    (h : Opened attributes player t) (u : Trace Engines) : Opened attributes player (t ++ u) := by
  obtain ⟨source, opened, prepared⟩ := h
  exact ⟨source, List.mem_append_left u opened, List.mem_append_left u prepared⟩

theorem Opened.append_right {attributes : Attributes} {player : Player}
    (h : Opened attributes player u) (t : Trace Engines) : Opened attributes player (t ++ u) := by
  obtain ⟨source, opened, prepared⟩ := h
  exact ⟨source, List.mem_append_right t opened, List.mem_append_right t prepared⟩

theorem Keeps.trans (h : Keeps s t r s') (h' : Keeps s' u r' s'') :
    Keeps s (t ++ u) (r ++ r') s'' where
  valid := h'.valid
  custody := h.custody.append h'.custody
  delegation := by rw [List.foldl_append, h.delegation, h'.delegation]
  token e he := by
    cases List.mem_append.mp he with
    | inl he => exact h.token e he
    | inr he => exact h.delegate ▸ h'.token e he
  delegate := h'.delegate.trans h.delegate

theorem Passage.trans (h : Passage s t r s') (h' : Passage s' u r' s'') :
    Passage s (t ++ u) (r ++ r') s'' where
  toKeeps := h.toKeeps.trans h'.toKeeps
  reference := h'.reference.trans h.reference
  attributes := h'.attributes.trans h.attributes
  player player held := by
    cases h'.player player held with
    | inl held => exact (h.player player held).imp_right fun opened => opened.append_left _
    | inr opened => exact .inr (h.attributes ▸ opened.append_right _)
  vacant none unbound := h'.vacant (h.reference.trans none) (h.vacant none unbound)

/-- Neither an engine nor the remote player is asked anything. -/
theorem Passage.refl (valid : s.Valid) : Passage s [] [] s where
  valid := valid
  custody := .refl s.handles
  delegation := rfl
  token := by simp
  delegate := rfl
  reference := rfl
  attributes := rfl
  player _ held := .inl held
  vacant _ unbound := unbound

theorem releaseBacking_ensures (valid : s.Valid) :
    s.releaseBacking.Ensures fun t s' =>
      Keeps s (engine t) (remote t) s' ∧ s' = { s with backing := .unbound } := by
  have valid' : Valid { s with backing := .unbound } := fun h => nomatch h
  unfold releaseBacking
  split
  · rename_i unbound
    refine ensures_pure.mpr ⟨⟨valid', ?_, ?_, by simp, rfl⟩, rfl⟩
    · simpa [handles, unbound] using Engine.Custody.refl []
    · simp [isDelegated, unbound]
  · rename_i player held
    simp only [ensures_bind, lift_left, ensures_left]
    refine (Player.drop_ensures player).mono fun t _ ended => ensures_pure.mpr ?_
    refine ⟨⟨valid', ?_, ?_, by simp, rfl⟩, rfl⟩
    · simpa [handles, held, ended] using Player.custody_ending [] player.handle
    · simp [isDelegated, held]
  · rename_i delegated
    split
    · rename_i never
      simp [Valid, delegated, never] at valid
    · rename_i token may
      have keeps (answer) : Keeps s [] [⟨.stop token, answer⟩] { s with backing := .unbound } := by
        refine ⟨valid', ?_, rfl, ?_, rfl⟩
        · simpa [handles, delegated] using Engine.Custody.refl []
        · intro e he
          cases List.mem_singleton.mp he
          exact may
      simp only [Remote.stop, ensures_bind, lift_right, ensures_right, ensures_call, ensures_done]
      intro answer
      cases answer with
      | ok => exact ensures_pure.mpr (by simpa using keeps _)
      | error e => simpa [log, Resource.log] using keeps _

/-- Opening leads to a player with the session's attributes, or back to where it began. -/
theorem openHere_ensures (s : Session) (r : Locator) :
    (s.openHere r).Ensures fun t result =>
      (∃ e, result = .error e ∧ ∀ held, Engine.Custody held (rights t) held) ∨
        ∃ player source, result = .ok player ∧
          Player.Opening source s.attributes (rights t) (.ok player) := by
  simp only [openHere, ensures_bind, lift_left, ensures_left]
  refine .of_forall fun t actual => ?_
  cases actual with
  | none => exact ensures_pure.mpr (.inl ⟨_, rfl, fun held => by simpa using .refl held⟩)
  | some actual =>
      simp only [ensures_bind]
      refine (Player.openPrepared_ensures _ _).mono fun u result opening => ?_
      cases result with
      | error e =>
          refine ensures_pure.mpr (.inl ⟨_, rfl, fun held => ?_⟩)
          simpa [Except.toOption] using opening.custody held
      | ok player =>
          exact ensures_pure.mpr (.inr ⟨player, _, rfl, by simpa using opening⟩)

/-- The restore pass asks nothing of engines and nothing of the remote player. -/
theorem afterRestore_ensures {config : RestoreConfig} {p : Program Studio Session}
    (h : p.Ensures fun t s' => Passage s (engine t) (remote t) s') :
    (if config.enabled = true then do
      let _ ← liftM (Restore.all config)
      p
    else p).Ensures fun t s' => Passage s (engine t) (remote t) s' := by
  split
  · simp only [ensures_bind, lift_left_left, ensures_left]
    refine .of_forall fun t n => ?_
    simpa using h
  · exact h

theorem openReference_ensures (valid : s.Valid) (unbound : s.backing = .unbound) {r : Locator}
    (sound : s.reference = some r) :
    (s.openReference r).Ensures fun t s' => Passage s (engine t) (remote t) s' := by
  have empty : s.handles = [] := by simp [handles, unbound]
  have idle : s.isDelegated = false := by simp [isDelegated, unbound]
  simp only [openReference]
  refine afterRestore_ensures ?_
  simp only [ensures_bind, lift_left, ensures_left]
  refine (s.openHere_ensures r).mono fun t result outcome => ?_
  cases outcome with
  | inl h =>
      obtain ⟨e, rfl, custody⟩ := h
      have passage : Passage s (rights t) [] s :=
        { Passage.refl valid with
          custody := empty ▸ custody []
          player := fun _ held => .inl held }
      simp only [log, Resource.log]
      split <;> simpa using passage
  | inr opened =>
      obtain ⟨player, source, rfl, opening⟩ := opened
      have passage : Passage s (rights t) [] { s with backing := .held player } :=
        { valid := fun delegated => by cases delegated
          custody := by simpa [handles, unbound, Except.toOption] using opening.custody []
          delegation := idle
          token := by simp
          delegate := rfl
          reference := rfl
          attributes := rfl
          player := fun player' held => by
            cases held
            exact .inr ⟨source, opening.mem⟩
          vacant := fun none => by simp [sound] at none }
      simpa [log, Resource.log] using passage

/-- Opening the sound anew leaves no player from before. -/
theorem bind_ensures (valid : s.Valid) :
    s.bind.Ensures fun t s' =>
      Keeps s (engine t) (remote t) s' ∧
        s'.reference = s.reference ∧ s'.attributes = s.attributes ∧
        (∀ player, s'.backing = .held player → Opened s.attributes player (engine t)) ∧
        (s.reference = none → s'.backing = .unbound) := by
  unfold bind
  refine (releaseBacking_ensures valid).bind fun t s₁ ⟨keeps, released⟩ => ?_
  subst released
  split
  · exact ensures_pure.mpr (by simpa using keeps)
  · rename_i r sound
    refine (openReference_ensures keeps.valid rfl sound).mono fun u s' passage => ?_
    refine ⟨by simpa using keeps.trans passage.toKeeps, passage.reference, passage.attributes, ?_,
      fun none => passage.vacant none rfl⟩
    intro player held
    rw [engine_append]
    exact ((passage.player player held).resolve_left nofun).append_right _

/-- A player that is taken up while the session still owns what it had before. -/
theorem Keeps.takeUp {player : Player} (keeps : Keeps s u r { s with backing := .unbound })
    (custody : Engine.Custody s.handles t (player.handle :: s.handles)) :
    Keeps s (t ++ u) r { s with backing := .held player } where
  valid := nofun
  custody := by
    have swapped : (player.handle :: s.handles).Perm (s.handles ++ [player.handle]) :=
      (List.perm_append_singleton ..).symm
    have taken := (custody.append (.perm swapped)).append (keeps.custody.frame [player.handle])
    simpa [handles] using taken
  delegation := keeps.delegation
  token := keeps.token
  delegate := rfl

theorem playFallback_ensures (valid : s.Valid) :
    s.playFallback.Ensures fun t result => Passage s (engine t) (remote t) result.2 := by
  simp only [playFallback, ensures_bind, lift_left, ensures_left]
  refine (Fallback.play_ensures s.reference s.attributes).mono fun t result outcome => ?_
  cases result with
  | none =>
      have passage : Passage s (rights t) [] s :=
        { Passage.refl valid with
          custody := by simpa using outcome.custody s.handles
          player := fun _ held => .inl held }
      exact ensures_pure.mpr (by simpa using passage)
  | some player =>
      obtain ⟨⟨r, sound, -⟩, source, starting⟩ := outcome.starting
      obtain ⟨opened, prepared, -⟩ := starting.mem
      simp only [ensures_bind]
      refine (releaseBacking_ensures valid).mono fun u s₁ released => ?_
      obtain ⟨keeps, rfl⟩ := released
      refine ensures_pure.mpr ?_
      simp only [List.append_nil, engine_append, engine_map_left, remote_append, remote_map_left,
        List.nil_append]
      exact
        { keeps.takeUp (by simpa using outcome.custody s.handles) with
          reference := rfl
          attributes := rfl
          player := fun player' held => by
            cases held
            exact .inr (Opened.append_left ⟨source, opened, prepared⟩ _)
          vacant := fun none => by simp [sound] at none }

/-- Handing over makes at most one remote call, a play with the session's attributes. -/
theorem delegatePlay_ensures (s : Session) :
    s.delegatePlay.Ensures fun t result =>
      engine t = [] ∧
        match result with
        | none => remote t = []
        | some answer => ∃ token c, s.delegate = some token ∧ s.reference ≠ none ∧
            remote t = [⟨.play token c s.attributes, answer⟩] := by
  unfold delegatePlay
  split
  · rename_i token r may sound
    simp only [ensures_bind, lift_left_left, ensures_left]
    refine .of_forall fun t actual => ?_
    cases actual with
    | none => simp [log, Resource.log]
    | some actual => simp [log, Resource.log, Remote.play, may, sound]
  · simp

theorem playInstead_ensures (valid : s.Valid) (message : String)
    (fields : List (String × Log.FieldValue)) :
    (s.playInstead message fields).Ensures fun t s' => Passage s (engine t) (remote t) s' := by
  unfold playInstead
  refine (playFallback_ensures valid).bind fun t result passage => ?_
  simp only [log, Resource.log]
  split <;> simpa using passage

/-- Using the session's own player. -/
theorem Passage.use {player : Player} (valid : s.Valid) (held : s.backing = .held player)
    (custody : Engine.Custody [player.handle] t [player.handle]) : Passage s t [] s where
  valid := valid
  custody := by simpa [handles, held] using custody
  delegation := rfl
  token := by simp
  delegate := rfl
  reference := rfl
  attributes := rfl
  player _ held := .inl held
  vacant _ unbound := unbound

/-- A remote play that is refused changes nothing. -/
theorem Passage.playRefused {token : Token} {c : Locator} {e : TransportError} (valid : s.Valid)
    (may : s.delegate = some token) : Passage s [] [⟨.play token c s.attributes, .error e⟩] s where
  toKeeps := { (Passage.refl valid).toKeeps with
    delegation := rfl
    token := by simpa [Remote.Call.token] using may }
  reference := rfl
  attributes := rfl
  player _ held := .inl held
  vacant _ unbound := unbound

theorem Passage.playAccepted {token : Token} {c : Locator} (free : s.handles = [])
    (may : s.delegate = some token) (sound : s.reference ≠ none) :
    Passage s [] [⟨.play token c s.attributes, .ok ()⟩] { s with backing := .delegated } where
  valid _ := by simp [may]
  custody := by rw [free]; exact .refl []
  delegation := rfl
  token := by simpa [Remote.Call.token] using may
  delegate := rfl
  reference := rfl
  attributes := rfl
  player := nofun
  vacant none := absurd none sound

theorem play_ensures (valid : s.Valid) :
    s.play.Ensures fun t s' => Passage s (engine t) (remote t) s' := by
  simp only [play, Resource.volume, logMuted, log, Resource.log, ensures_bind, lift_left_left,
    lift_left, ensures_left, ensures_call, ensures_done]
  intro volume
  split
  · rename_i player held
    split
    · simpa using Passage.refl valid
    · simp only [Player.start, Engine.start, ensures_bind, lift_right, ensures_left, ensures_right,
        ensures_call, ensures_done]
      intro answer
      have used := Passage.use valid held (.started [] player.handle answer)
      cases answer with
      | ok => simpa using used
      | error e => simpa using used
  · rename_i free
    have empty : s.handles = [] := by
      cases h : s.backing with
      | held player => exact (free player h).elim
      | unbound | delegated => simp [handles, h]
    split
    · simpa using Passage.refl valid
    · simp only [ensures_bind]
      refine (s.delegatePlay_ensures).mono fun t result outcome => ?_
      obtain ⟨quiet, outcome⟩ := outcome
      cases result with
      | none =>
          refine (playInstead_ensures valid _ _).mono fun u s' passage => ?_
          simpa [quiet, outcome] using passage
      | some answer =>
          obtain ⟨token, c, may, sound, asked⟩ := outcome
          cases answer with
          | ok => simpa [quiet, asked] using Passage.playAccepted empty may sound
          | error e =>
              refine (playInstead_ensures valid _ _).mono fun u s' passage => ?_
              simpa [quiet, asked] using (Passage.playRefused valid may).trans passage

theorem isPlaying_ensures (valid : s.Valid) :
    s.isPlaying.Ensures fun t playing => Passage s (engine t) (remote t) s ∧
      (playing = true → s.handles = [] → ∃ token, remote t = [⟨.isPlaying token, .ok true⟩]) := by
  unfold isPlaying
  split
  · rename_i player held
    simp only [Player.isPlaying, Engine.isPlaying, lift_left, lift_right, ensures_left,
      ensures_right, ensures_call, ensures_done]
    intro playing
    have used := Passage.use valid held (.asked [] player.handle playing)
    exact ⟨by simpa using used, fun _ empty => by simp [handles, held] at empty⟩
  · rename_i token may free
    simp only [Remote.isPlaying, ensures_bind, lift_right, ensures_right, ensures_call,
      ensures_done]
    intro answer
    have asked : Passage s [] [⟨.isPlaying token, answer⟩] s :=
      { Passage.refl valid with
        token := by simpa [Remote.Call.token] using may
        player := fun _ held => .inl held }
    cases answer with
    | ok playing =>
        refine ensures_pure.mpr ⟨by simpa using asked, ?_⟩
        intro same _
        subst same
        exact ⟨token, by simp⟩
    | error e => simpa [log, Resource.log] using asked
  · simpa [log, Resource.log] using Passage.refl valid

theorem getTitle_ensures (s : Session) :
    s.getTitle.Ensures fun t result => engine t = [] ∧ remote t = [] ∧
      result.2 = { s with title := result.2.title } := by
  unfold getTitle
  split
  · simp
  · simp only [ensures_bind, lift_left_left, ensures_left]
    refine .of_forall fun t title => ?_
    simp

def Rebinds : Operation → Reply → Prop
  | .setReference _, _ | .setAttributes _, _ | .setStreamNumber _, .done => True
  | _, _ => False

/-- What an operation does to the session and asks of its engine and the remote player. -/
structure Act (s : Session) (o : Operation) (reply : Reply) (engine : Trace Engines)
    (remote : Trace Remotes) (s' : Session) : Prop extends Keeps s engine remote s' where
  same : ¬Rebinds o reply → s'.reference = s.reference ∧ s'.attributes = s.attributes
  player : ∀ player, s'.backing = .held player →
    Opened s'.attributes player engine ∨ ¬Rebinds o reply ∧ s.backing = .held player
  vacant : (s.reference = none → s.backing = .unbound) → s'.reference = none → s'.backing = .unbound

theorem Passage.act {o : Operation} {reply : Reply} (h : Passage s t r s')
    (stays : ¬Rebinds o reply) : Act s o reply t r s' where
  toKeeps := h.toKeeps
  same _ := ⟨h.reference, h.attributes⟩
  player player held := by
    cases h.player player held with
    | inl held => exact .inr ⟨stays, held⟩
    | inr opened => exact .inl (h.attributes ▸ opened)
  vacant vacant none :=
    have none := h.reference ▸ none
    h.vacant none (vacant none)

/-- A session that opens its sound anew, with a new sound or new attributes. -/
theorem rebind_ensures {s₁ : Session} (valid : s.Valid) (backing : s₁.backing = s.backing)
    (delegate : s₁.delegate = s.delegate) {o : Operation} {reply : Reply} (anew : Rebinds o reply) :
    s₁.bind.Ensures fun t s' => Act s o reply (engine t) (remote t) s' := by
  have valid₁ : s₁.Valid := by simpa [Valid, backing, delegate] using valid
  have handles : s₁.handles = s.handles := by simp [Session.handles, backing]
  have delegated : s₁.isDelegated = s.isDelegated := by simp [isDelegated, backing]
  refine (bind_ensures valid₁).mono fun t s' ⟨keeps, same, kept, opened, vacant⟩ => ?_
  exact
    { valid := keeps.valid
      custody := handles ▸ keeps.custody
      delegation := delegated ▸ keeps.delegation
      token := delegate ▸ keeps.token
      delegate := keeps.delegate.trans delegate
      same := fun stays => absurd anew stays
      player := fun player held => .inl (kept ▸ opened player held)
      vacant := fun _ none => vacant (same ▸ none) }

theorem perform_ensures (valid : s.Valid) (o : Operation) :
    (s.perform o).Ensures fun t result => Act s o result.1 (engine t) (remote t) result.2 := by
  have quiet (o reply) (stays : ¬Rebinds o reply) : Act s o reply [] [] s :=
    (Passage.refl valid).act stays
  cases o with
  | attributes => exact ensures_pure.mpr (quiet .attributes _ id)
  | stream => exact ensures_pure.mpr (quiet .stream _ id)
  | reference => exact ensures_pure.mpr (quiet .reference _ id)
  | allowsRemote => exact ensures_pure.mpr (quiet .allowsRemote _ id)
  | setTitle title =>
      exact ensures_pure.mpr { quiet (.setTitle title) .done id with }
  | setReference reference =>
      simp only [perform, setReference, ensures_bind, ensures_pure, List.append_nil]
      exact rebind_ensures valid (by rfl) (by rfl) (by trivial)
  | setAttributes attributes =>
      simp only [perform, setAttributes, ensures_bind, ensures_pure, List.append_nil]
      exact rebind_ensures valid (by rfl) (by rfl) (by trivial)
  | setStreamNumber number =>
      simp only [perform, setStreamNumber, setAttributes]
      cases SoundStream.ofNumber? number with
      | none =>
          have refused := quiet (.setStreamNumber number) (.refused (.invalidStream number)) id
          simpa using refused
      | some stream =>
          simp only [ensures_bind, ensures_pure, List.append_nil]
          exact rebind_ensures valid (by rfl) (by rfl) (by trivial)
  | title =>
      simp only [perform, ensures_bind, ensures_pure, List.append_nil]
      refine (s.getTitle_ensures).mono fun t result found => ?_
      obtain ⟨asked, called, same⟩ := found
      rw [asked, called, same]
      exact { quiet .title (.title result.1) id with }
  | play =>
      simp only [perform, ensures_bind, ensures_pure, List.append_nil]
      exact (play_ensures valid).mono fun _ _ passage => passage.act id
  | stop =>
      simp only [perform, stop, ensures_bind, ensures_pure, List.append_nil]
      refine (releaseBacking_ensures valid).mono fun t s' released => ?_
      obtain ⟨keeps, rfl⟩ := released
      exact
        { keeps with
          same := fun _ => ⟨rfl, rfl⟩
          player := fun _ held => by cases held
          vacant := fun _ _ => rfl }
  | isPlaying =>
      simp only [perform, ensures_bind, ensures_pure, List.append_nil]
      exact (isPlaying_ensures valid).mono fun _ _ h => h.1.act id
  | playFallback =>
      simp only [perform, ensures_bind, ensures_pure, List.append_nil]
      exact (playFallback_ensures valid).mono fun _ _ passage => passage.act id

def Silences : Operation → Prop
  | .stop | .setReference none => True
  | _ => False

theorem silences_ensures (valid : s.Valid) {o : Operation} (silences : Silences o) :
    (s.perform o).Ensures fun _ result => result.2.backing = .unbound := by
  cases o with
  | stop =>
      simp only [perform, stop, ensures_bind, ensures_pure]
      refine (releaseBacking_ensures valid).mono fun t s' released => ?_
      rw [released.2]
  | setReference reference =>
      cases reference with
      | none =>
          simp only [perform, setReference, ensures_bind, ensures_pure]
          refine (bind_ensures (by simpa [Valid] using valid)).mono fun t s' bound => ?_
          obtain ⟨-, -, -, -, vacant⟩ := bound
          exact vacant rfl
      | some r => exact silences.elim
  | _ => exact silences.elim

end Session
end AlertSound
