import AlertSound.Proofs.Playback.Player
import AlertSound.Proofs.Resolution

/-!
How far an attempt to play the bundled sound comes. The level of the stream is asked
for first, then the setting that the sound would stand in for is read, then the sound
is taken from the assets, and only then does an engine open, prepare and start it.
`Attempt` has a case for each place where this can end.
-/
namespace AlertSound

open Program Trace

namespace Resource

def Call.isLog : Call → Bool
  | .log _ => true
  | _ => false

def asked (t : Trace Resources) : Trace Resources := t.filter fun e => !e.call.isLog

@[simp] theorem asked_nil : asked [] = [] := rfl

@[simp] theorem asked_append (t u : Trace Resources) : asked (t ++ u) = asked t ++ asked u :=
  List.filter_append ..

theorem asked_cons (e : Event Resources) (t : Trace Resources) :
    asked (e :: t) = if e.call.isLog then asked t else e :: asked t := by
  cases h : e.call.isLog <;> simp [asked, h]

theorem mem_asked {e : Event Resources} {t : Trace Resources} :
    e ∈ asked t ↔ e ∈ t ∧ e.call.isLog = false := by
  simp [asked]

end Resource

open Resource (asked asked_cons)

/-- A stage is asked for nothing but to use its engine and to write the log. -/
def Stage.Unaided : Stage.Call → Prop
  | .inl c => c.isLog = true
  | .inr _ => True

theorem Stage.asked_of_unaided {t : Trace Stage} (h : ∀ e ∈ t, Unaided e.call) :
    asked (lefts t) = [] := by
  refine List.filter_eq_nil_iff.mpr fun e he => ?_
  have log : e.call.isLog = true := h e.left (mem_lefts.mp he)
  simp [log]

namespace Player

theorem drop_unaided (player : Player) : player.drop.Asks Stage.Unaided :=
  .bind (.right (.request trivial)) fun _ => .bind (.right (.request trivial)) fun _ =>
    .bind (.right (.request trivial)) fun _ => .left (.request rfl)

theorem openPrepared_unaided (source : Source) (attributes : Attributes) :
    (openPrepared source attributes).Asks Stage.Unaided := by
  refine .bind (.right (.request trivial)) fun opened => ?_
  split
  · exact .pure _
  · refine .bind (.right (.request trivial)) fun prepared => ?_
    split
    · exact .pure _
    · exact .bind (drop_unaided _) fun _ => .pure _

theorem openStarted_unaided (source : Source) (attributes : Attributes) :
    (openStarted source attributes).Asks Stage.Unaided := by
  refine .bind (openPrepared_unaided ..) fun opened => ?_
  split
  · exact .pure _
  · refine .bind (.right (.request trivial)) fun started => ?_
    split
    · exact .pure _
    · exact .bind (drop_unaided _) fun _ => .pure _

end Player

namespace Fallback

def Names (raw : String) : Prop :=
  ∃ target, Locator.parse raw = .ok target ∧ target.origin ≠ .settingsDefault

theorem names_iff {raw : String} {target : Locator} (parsed : Locator.parse raw = .ok target) :
    Names raw ↔ target.origin ≠ .settingsDefault := by
  simp [Names, parsed]

theorem not_names_of_error {raw : String} {e : Locator.Error}
    (malformed : Locator.parse raw = .error e) : ¬Names raw := by
  simp [Names, malformed]

def IsDefault (reference : Option Locator) (kind : DefaultKind) : Prop :=
  ∃ r, reference = some r ∧ r.defaultKind? = some kind ∧ kind.isRingtone = true

theorem isRingtone_iff {reference : Option Locator} :
    IsRingtone reference ↔ ∃ kind, IsDefault reference kind := by
  simp only [IsRingtone, IsDefault, Option.any_eq_true]
  constructor
  · intro h
    obtain ⟨r, sound, kind, default, ringtone⟩ := h
    exact ⟨kind, r, sound, default, ringtone⟩
  · intro h
    obtain ⟨kind, r, sound, default, ringtone⟩ := h
    exact ⟨r, sound, kind, default, ringtone⟩

inductive Examined (reference : Option Locator) : Trace Resources → Bool → Prop where
  | other : ¬IsRingtone reference → Examined reference [] false
  | unnamed {kind} (raw : Option String) : IsDefault reference kind →
      (∀ text, raw = some text → ¬Names text) →
      Examined reference [⟨.setting kind.settingKey, raw⟩] false
  | eligible {kind raw} : IsDefault reference kind → Names raw →
      Examined reference [⟨.setting kind.settingKey, some raw⟩] true

inductive Fetched : Trace Resources → Except AssetError Source → Prop where
  | absent (e) : Fetched [⟨.openAsset, .error e⟩] (.error e)
  | unreadable (asset e) :
      Fetched [⟨.openAsset, .ok asset⟩, ⟨.duplicate asset.file, .error e⟩] (.error (.io e))
  | whole (asset file) : Fetched [⟨.openAsset, .ok asset⟩, ⟨.duplicate asset.file, .ok file⟩]
      (.ok (.descriptor file asset.offset asset.length))

/-- The resources answered as the bundled sound needs it. -/
def Favours : Event Resources → Prop
  | ⟨.volume _, level⟩ => level ≠ (0 : Nat)
  | ⟨.setting _, raw⟩ => ∃ text, raw = some text ∧ Names text
  | ⟨.openAsset, asset⟩ => asset.isOk = true
  | ⟨.duplicate _, file⟩ => file.isOk = true
  | _ => True

def Obeys : Event Engines → Prop
  | ⟨.openSource _ _, handle⟩ => handle.isOk = true
  | ⟨.prepare _, answer⟩ | ⟨.start _, answer⟩ => answer.isOk = true
  | _ => True

/-- What an attempt asks of the resources, besides to write the log, and of the engine,
and its outcome. -/
inductive Attempt (reference : Option Locator) (attributes : Attributes) :
    Trace Resources → Trace Engines → Except Error Player → Prop where
  | silent : Attempt reference attributes [⟨.volume attributes.stream, (0 : Nat)⟩] []
      (.error .silent)
  | ineligible {level : Nat} {t} : level ≠ 0 → Examined reference t false →
      Attempt reference attributes (⟨.volume attributes.stream, level⟩ :: t) []
        (.error .notDefaultRingtone)
  | unfetched {level : Nat} {t u e} : level ≠ 0 → Examined reference t true →
      Fetched u (.error e) →
      Attempt reference attributes (⟨.volume attributes.stream, level⟩ :: t ++ u) []
        (.error (.asset e))
  | unplayed {level : Nat} {t u source v e} : level ≠ 0 → Examined reference t true →
      Fetched u (.ok source) → Player.Starting source attributes v (.error e) →
      Attempt reference attributes (⟨.volume attributes.stream, level⟩ :: t ++ u) v
        (.error (.engine e))
  | playing {level : Nat} {t u source v player} : level ≠ 0 → Examined reference t true →
      Fetched u (.ok source) → Player.Starting source attributes v (.ok player) →
      Attempt reference attributes (⟨.volume attributes.stream, level⟩ :: t ++ u) v (.ok player)

theorem replacesDefaultRingtone_examined (reference : Option Locator) :
    (replacesDefaultRingtone reference).Ensures fun t result =>
      Examined reference (asked t) result := by
  cases reference with
  | none => exact ensures_pure.mpr (.other (by simp [IsRingtone]))
  | some r =>
      simp only [replacesDefaultRingtone]
      split
      · rename_i ringtone
        obtain ⟨kind, default, ringtone⟩ := Option.any_eq_true _ _ |>.mp ringtone
        have isDefault : IsDefault (some r) kind := ⟨r, rfl, default, ringtone⟩
        have origin : r.origin = .settingsDefault := by
          unfold Locator.defaultKind? at default
          split at default
          · assumption
          · cases default
        simp only [resolveActual, origin, default, defaultLocator?, Resource.setting, ensures_bind,
          ensures_call, ensures_done]
        intro raw
        cases raw with
        | none => exact ensures_pure.mpr (ensures_pure.mpr (ensures_pure.mpr
            (.unnamed none isDefault (by simp))))
        | some raw =>
            have unnamed (nameless : ¬Names raw) :
                Examined (some r) [⟨.setting kind.settingKey, some raw⟩] false :=
              .unnamed (some raw) isDefault fun text same => Option.some.inj same ▸ nameless
            simp only
            split
            · rename_i target parsed
              simp only [ensures_pure]
              split
              · rename_i again
                have nameless : ¬Names raw := fun names => (names_iff parsed).mp names again
                simpa [Resource.log, asked_cons, Resource.Call.isLog] using unnamed nameless
              · rename_i proper
                exact ensures_pure.mpr (.eligible isDefault ((names_iff parsed).mpr proper))
            · rename_i e malformed
              have nameless := not_names_of_error malformed
              simpa [Resource.log, asked_cons, Resource.Call.isLog] using unnamed nameless
      · rename_i other
        refine ensures_pure.mpr (.other fun ringtone => other ?_)
        obtain ⟨_, same, ringtone⟩ := ringtone
        cases same
        exact ringtone

theorem openAsset_fetched : openAsset.Ensures fun t result => Fetched (asked t) result := by
  simp only [openAsset, Resource.openAsset, ensures_bind, ensures_call, ensures_done]
  intro asset
  cases asset with
  | error e => exact ensures_pure.mpr (.absent e)
  | ok asset =>
      simp only [Resource.duplicate, ensures_bind, ensures_call, ensures_done]
      intro file
      cases file with
      | error e => exact ensures_pure.mpr (.unreadable asset e)
      | ok file => exact ensures_pure.mpr (.whole asset file)

theorem tryPlay_attempt (reference : Option Locator) (attributes : Attributes) :
    (tryPlay reference attributes).Ensures fun t result =>
      Attempt reference attributes (asked (lefts t)) (rights t) result := by
  simp only [tryPlay, Resource.volume, ensures_bind, lift_left, ensures_left, ensures_call,
    ensures_done]
  intro level
  split
  · rename_i silent
    subst silent
    exact ensures_pure.mpr .silent
  · rename_i heard
    simp only [ensures_bind, ensures_left]
    refine (replacesDefaultRingtone_examined reference).mono fun t eligible examined => ?_
    cases eligible with
    | false => exact ensures_pure.mpr (by
        simpa [asked_cons, Resource.Call.isLog] using Attempt.ineligible heard examined)
    | true =>
        simp only [Bool.not_true, Bool.false_eq_true, if_false, ensures_bind, ensures_left]
        refine openAsset_fetched.mono fun u fetched shape => ?_
        cases fetched with
        | error e => exact ensures_pure.mpr (by
            simpa [asked_cons, Resource.Call.isLog] using Attempt.unfetched heard examined shape)
        | ok source =>
            simp only [ensures_bind]
            have played := (Player.openStarted_ensures source attributes).and
              (Player.openStarted_unaided source attributes)
            refine played.mono fun v result both => ?_
            obtain ⟨starting, unaided⟩ := both
            have none := Stage.asked_of_unaided unaided
            cases result with
            | error e => exact ensures_pure.mpr (by
                simpa [asked_cons, Resource.Call.isLog, none] using
                  Attempt.unplayed heard examined shape starting)
            | ok player => exact ensures_pure.mpr (by
                simpa [asked_cons, Resource.Call.isLog, none] using
                  Attempt.playing heard examined shape starting)

/-- Nothing but the log tells why the bundled sound does not play. -/
theorem play_attempt (reference : Option Locator) (attributes : Attributes) :
    (play reference attributes).Ensures fun t result => ∃ tried,
      Attempt reference attributes (asked (lefts t)) (rights t) tried ∧
        result = tried.toOption := by
  unfold play
  refine (tryPlay_attempt reference attributes).bind fun t tried attempt => ?_
  have outcome : ∃ tried', Attempt reference attributes (asked (lefts t)) (rights t) tried' ∧
      tried.toOption = tried'.toOption := ⟨tried, attempt, rfl⟩
  cases tried with
  | ok player =>
      simpa [Resource.log, asked_cons, Resource.Call.isLog, Except.toOption] using outcome
  | error e =>
      cases e with
      | silent => simpa [Except.toOption] using outcome
      | notDefaultRingtone | asset cause | engine cause =>
          simpa [Resource.log, asked_cons, Resource.Call.isLog, Except.toOption] using outcome

variable {reference : Option Locator} {attributes : Attributes} {t : Trace Resources}
  {u : Trace Engines} {result : Except Error Player}

theorem Examined.favours_iff {eligible : Bool} (h : Examined reference t eligible) :
    eligible = true ↔ IsRingtone reference ∧ ∀ e ∈ t, Favours e := by
  cases h with
  | other none => simp [none]
  | unnamed raw _ unnamed =>
      simp only [Bool.false_eq_true, false_iff, not_and, List.forall_mem_singleton]
      intro _ favours
      obtain ⟨text, rfl, names⟩ := favours
      exact unnamed text rfl names
  | eligible default names =>
      simp only [true_iff, List.forall_mem_singleton]
      exact ⟨isRingtone_iff.mpr ⟨_, default⟩, _, rfl, names⟩

theorem Fetched.favours_iff {source : Except AssetError Source} (h : Fetched t source) :
    source.isOk = true ↔ ∀ e ∈ t, Favours e := by
  cases h with
  | absent e => simp [Favours, Except.isOk, Except.toBool]
  | unreadable asset e => simp [Favours, Except.isOk, Except.toBool]
  | whole asset file => simp [Favours, Except.isOk, Except.toBool]

theorem obeys_iff_of_starting {source : Source} {started : Except EngineError Player}
    (h : Player.Starting source attributes u started) :
    started.isOk = true ↔ ∀ e ∈ u, Obeys e := by
  cases h with
  | unopened opening =>
      cases opening with
      | refused e | unprepared handle e => simp [Obeys, Except.isOk, Except.toBool]
  | unstarted e opening | started opening =>
      cases opening with
      | ready handle => simp [Obeys, Except.isOk, Except.toBool]

/-- It does not matter how the log is written. -/
theorem favours_asked : (∀ e ∈ asked t, Favours e) ↔ ∀ e ∈ t, Favours e := by
  constructor
  · intro favoured e he
    cases log : e.call.isLog with
    | false => exact favoured e (Resource.mem_asked.mpr ⟨he, log⟩)
    | true =>
        obtain ⟨c, answer⟩ := e
        cases c with
        | log entry => trivial
        | _ => cases log
  · exact fun favoured e he => favoured e (Resource.mem_asked.mp he).1

/-- The bundled sound plays exactly if the sound is a default ringtone and whatever was
asked was answered favourably. -/
theorem Attempt.favours_iff (h : Attempt reference attributes t u result) :
    result.isOk = true ↔
      IsRingtone reference ∧ (∀ e ∈ t, Favours e) ∧ ∀ e ∈ u, Obeys e := by
  cases h with
  | silent => simp [Favours, Except.isOk, Except.toBool]
  | ineligible heard examined =>
      refine iff_of_false nofun fun ⟨ringtone, favoured, _⟩ => ?_
      have eligible := examined.favours_iff.mpr ⟨ringtone, (List.forall_mem_cons.mp favoured).2⟩
      cases eligible
  | unfetched heard examined fetched =>
      refine iff_of_false nofun fun ⟨_, favoured, _⟩ => ?_
      have whole := fetched.favours_iff.mpr (List.forall_mem_append.mp favoured).2
      cases whole
  | unplayed heard examined fetched starting =>
      refine iff_of_false nofun fun ⟨_, _, obeyed⟩ => ?_
      have started := (obeys_iff_of_starting starting).mpr obeyed
      cases started
  | playing heard examined fetched starting =>
      obtain ⟨ringtone, eligible⟩ := examined.favours_iff.mp rfl
      have whole := fetched.favours_iff.mp rfl
      have started := (obeys_iff_of_starting starting).mp rfl
      exact iff_of_true rfl ⟨ringtone,
        List.forall_mem_append.mpr ⟨List.forall_mem_cons.mpr ⟨heard, eligible⟩, whole⟩, started⟩

theorem Fetched.eq_cons {source : Except AssetError Source} (h : Fetched t source) :
    ∃ answer rest, t = ⟨.openAsset, answer⟩ :: rest ∧ ∀ e ∈ rest, e.call ≠ .openAsset := by
  cases h with
  | absent e => exact ⟨_, _, rfl, List.forall_mem_nil _⟩
  | unreadable asset e => exact ⟨_, _, rfl, by simp⟩
  | whole asset file => exact ⟨_, _, rfl, by simp⟩

def Cleared (reference : Option Locator) (attributes : Attributes) (t : Trace Resources) : Prop :=
  ∃ (level : Nat) (kind : DefaultKind) (raw : String), level ≠ 0 ∧ IsDefault reference kind ∧
    Names raw ∧ t = [⟨.volume attributes.stream, level⟩, ⟨.setting kind.settingKey, some raw⟩]

theorem Fetched.cleared {level : Nat} {examined fetched : Trace Resources}
    {source : Except AssetError Source} (heard : level ≠ 0)
    (eligible : Examined reference examined true) (h : Fetched fetched source)
    {before after : Trace Resources} {e : Event Resources}
    (same : ⟨.volume attributes.stream, level⟩ :: examined ++ fetched = before ++ e :: after)
    (asset : e.call = .openAsset) : Cleared reference attributes before := by
  obtain ⟨answer, rest, rfl, later⟩ := h.eq_cons
  cases eligible with
  | eligible default names =>
      obtain ⟨rfl, -, -⟩ := append_cons_inj (P := fun e => e.call ≠ Resource.Call.openAsset)
        same.symm (not_not_intro asset) (by simp) later
      exact ⟨level, _, _, heard, default, names, rfl⟩

/-- The assets are left alone unless the stream can be heard and the sound is a default
ringtone that is set. -/
theorem Attempt.cleared (h : Attempt reference attributes t u result)
    {before after : Trace Resources} {e : Event Resources} (same : t = before ++ e :: after)
    (asset : e.call = .openAsset) : Cleared reference attributes before := by
  have taken : e ∈ t := same ▸ List.mem_append_right before List.mem_cons_self
  cases h with
  | silent =>
      cases List.mem_singleton.mp taken
      cases asset
  | ineligible heard examined =>
      cases List.mem_cons.mp taken with
      | inl volume => cases volume; cases asset
      | inr read =>
          cases examined with
          | other _ => cases read
          | unnamed raw _ _ => cases List.mem_singleton.mp read; cases asset
  | unfetched heard examined fetched | unplayed heard examined fetched starting
  | playing heard examined fetched starting => exact fetched.cleared heard examined same asset

/-- Whatever is opened in vain is released again, and no other handle is called. -/
theorem Attempt.books {e : Error} (h : Attempt reference attributes t u (.error e)) :
    Engine.Books u [] := by
  have failed {source : Source} {e : EngineError}
      (starting : Player.Starting source attributes u (.error e)) : Engine.Books u [] :=
    (starting.custody []).books .nil starting.opened_nodup
  cases h with
  | silent | ineligible _ _ | unfetched _ _ _ => exact .nil
  | unplayed _ _ _ starting => exact failed starting

/-- What is asked for a bundled sound that plays. -/
theorem Attempt.ok {player : Player} (h : Attempt reference attributes t u (.ok player)) :
    ∃ (cleared : Trace Resources) (asset : Asset) (file : FileNode),
      Cleared reference attributes cleared ∧
      t = cleared ++ [⟨.openAsset, .ok asset⟩, ⟨.duplicate asset.file, .ok file⟩] ∧
      u = [⟨.openSource (.descriptor file asset.offset asset.length) attributes, .ok player.handle⟩,
        ⟨.prepare player.handle, .ok ()⟩, ⟨.start player.handle, .ok ()⟩] ∧
      player.source = (Source.descriptor file asset.offset asset.length).text := by
  cases h with
  | playing heard examined fetched starting =>
      cases examined with
      | eligible default names =>
          cases fetched with
          | whole asset file =>
              cases starting with
              | started opening =>
                  cases opening with
                  | ready handle =>
                      exact ⟨_, asset, file, ⟨_, _, _, heard, default, names, rfl⟩, rfl, rfl, rfl⟩

end Fallback
end AlertSound
