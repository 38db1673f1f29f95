import AlertSound.Fallback
import AlertSound.Proofs.Playback.Custody

/-!
What players ask of an engine. Opening, starting and dropping a player leave one of
a few traces, told by `Opening` and `Starting`; custody follows from the shape.
-/
namespace AlertSound

open Program Trace

namespace Player

def ending (handle : HandleId) : Trace Engines :=
  [⟨.stop handle, ()⟩, ⟨.reset handle, ()⟩, ⟨.release handle, ()⟩]

inductive Opening (source : Source) (attributes : Attributes) :
    Trace Engines → Except EngineError Player → Prop where
  | refused (e) : Opening source attributes [⟨.openSource source attributes, .error e⟩] (.error e)
  | unprepared (handle e) :
      Opening source attributes
        ([⟨.openSource source attributes, .ok handle⟩, ⟨.prepare handle, .error e⟩] ++
          ending handle)
        (.error e)
  | ready (handle) :
      Opening source attributes
        [⟨.openSource source attributes, .ok handle⟩, ⟨.prepare handle, .ok ()⟩]
        (.ok { handle, source := source.text })

inductive Starting (source : Source) (attributes : Attributes) :
    Trace Engines → Except EngineError Player → Prop where
  | unopened {t e} : Opening source attributes t (.error e) →
      Starting source attributes t (.error e)
  | unstarted {t player} (e) : Opening source attributes t (.ok player) →
      Starting source attributes (t ++ [⟨.start player.handle, .error e⟩] ++ ending player.handle)
        (.error e)
  | started {t player} : Opening source attributes t (.ok player) →
      Starting source attributes (t ++ [⟨.start player.handle, .ok ()⟩]) (.ok player)

theorem drop_ensures (player : Player) :
    player.drop.Ensures fun t _ => rights t = ending player.handle := by
  simp [drop, ending, Engine.stop, Engine.reset, Engine.release, Resource.log]

theorem openPrepared_ensures (source : Source) (attributes : Attributes) :
    (openPrepared source attributes).Ensures fun t result =>
      Opening source attributes (rights t) result := by
  simp only [openPrepared, Engine.openSource, Engine.prepare, ensures_bind, lift_right,
    ensures_right, ensures_call, ensures_done]
  intro opened
  cases opened with
  | error e => exact ensures_pure.mpr (.refused e)
  | ok handle =>
      simp only [ensures_bind, ensures_right, ensures_call, ensures_done]
      intro prepared
      cases prepared with
      | ok => exact ensures_pure.mpr (.ready handle)
      | error e =>
          simp only [ensures_bind]
          refine (drop_ensures _).mono fun t _ ended => ensures_pure.mpr ?_
          have shape : Opening source attributes _ (.error e) := .unprepared handle e
          simpa [ended] using shape

theorem openStarted_ensures (source : Source) (attributes : Attributes) :
    (openStarted source attributes).Ensures fun t result =>
      Starting source attributes (rights t) result := by
  unfold openStarted
  refine (openPrepared_ensures source attributes).bind fun t result opening => ?_
  cases result with
  | error e => exact ensures_pure.mpr (by simpa using Starting.unopened opening)
  | ok player =>
      simp only [start, Engine.start, ensures_bind, lift_right, ensures_right, ensures_call,
        ensures_done]
      intro started
      cases started with
      | ok => exact ensures_pure.mpr (by simpa using Starting.started opening)
      | error e =>
          simp only [ensures_bind]
          refine (drop_ensures player).mono fun u _ ended => ensures_pure.mpr ?_
          simpa [ended] using Starting.unstarted e opening

theorem custody_ending (held : List HandleId) (handle : HandleId) :
    Engine.Custody (handle :: held) (ending handle) held := .dropped held handle

theorem Opening.custody {source : Source} {attributes : Attributes} {t : Trace Engines}
    {result : Except EngineError Player} (h : Opening source attributes t result)
    (held : List HandleId) :
    Engine.Custody held t ((result.toOption.map Player.handle).toList ++ held) := by
  cases h with
  | refused e => exact .refused held source attributes e
  | unprepared handle e => exact (Engine.Custody.taken ..).append (custody_ending held handle)
  | ready handle => exact .taken held source attributes handle (.ok ())

theorem Starting.custody {source : Source} {attributes : Attributes} {t : Trace Engines}
    {result : Except EngineError Player} (h : Starting source attributes t result)
    (held : List HandleId) :
    Engine.Custody held t ((result.toOption.map Player.handle).toList ++ held) := by
  cases h with
  | unopened opening => exact opening.custody held
  | unstarted e opening =>
      exact ((opening.custody held).append (.started held _ _)).append (custody_ending held _)
  | started opening => exact (opening.custody held).append (.started held _ _)

/-- A player that was opened has a handle that was handed out for its source and
was prepared without fault. -/
theorem Opening.mem {source : Source} {attributes : Attributes} {t : Trace Engines}
    {player : Player} (h : Opening source attributes t (.ok player)) :
    ⟨.openSource source attributes, .ok player.handle⟩ ∈ t ∧
      ⟨.prepare player.handle, .ok ()⟩ ∈ t := by
  cases h with
  | ready handle => exact ⟨.head _, .tail _ (.head _)⟩

theorem Starting.mem {source : Source} {attributes : Attributes} {t : Trace Engines}
    {player : Player} (h : Starting source attributes t (.ok player)) :
    ⟨.openSource source attributes, .ok player.handle⟩ ∈ t ∧
      ⟨.prepare player.handle, .ok ()⟩ ∈ t ∧ ⟨.start player.handle, .ok ()⟩ ∈ t := by
  cases h with
  | started opening =>
      obtain ⟨opened, prepared⟩ := opening.mem
      exact ⟨List.mem_append_left _ opened, List.mem_append_left _ prepared,
        List.mem_append_right _ (.head _)⟩

theorem Opening.not_mem_start {source : Source} {attributes : Attributes} {t : Trace Engines}
    {result : Except EngineError Player} (h : Opening source attributes t result)
    (handle : HandleId) (answer : Except EngineError Unit) : ⟨.start handle, answer⟩ ∉ t := by
  cases h with
  | refused e | unprepared handle e | ready handle => simp [ending]

/-- The only handle that is started without fault is that of the player. -/
theorem Starting.started_iff {source : Source} {attributes : Attributes} {t : Trace Engines}
    {result : Except EngineError Player} (h : Starting source attributes t result)
    {handle : HandleId} :
    ⟨.start handle, .ok ()⟩ ∈ t ↔ ∃ player, result = .ok player ∧ player.handle = handle := by
  cases h with
  | unopened opening => simp [opening.not_mem_start]
  | unstarted e opening => simp [opening.not_mem_start, ending]
  | started opening => simp [opening.not_mem_start, eq_comm]

theorem Opening.eq_cons {source : Source} {attributes : Attributes} {t : Trace Engines}
    {result : Except EngineError Player} (h : Opening source attributes t result) :
    ∃ opened rest, t = ⟨.openSource source attributes, opened⟩ :: rest ∧
      ∀ e ∈ rest, e.call.operation? ≠ none := by
  cases h with
  | refused e => exact ⟨_, _, rfl, by simp⟩
  | unprepared handle e => exact ⟨_, _, rfl, by simp [ending, Engine.Call.operation?]⟩
  | ready handle => exact ⟨_, _, rfl, by simp [Engine.Call.operation?]⟩

/-- A handle is opened first, and only one. -/
theorem Starting.eq_cons {source : Source} {attributes : Attributes} {t : Trace Engines}
    {result : Except EngineError Player} (h : Starting source attributes t result) :
    ∃ opened rest, t = ⟨.openSource source attributes, opened⟩ :: rest ∧
      ∀ e ∈ rest, e.call.operation? ≠ none := by
  cases h with
  | unopened opening => exact opening.eq_cons
  | unstarted e opening =>
      obtain ⟨opened, rest, rfl, later⟩ := opening.eq_cons
      refine ⟨opened, rest ++ [_] ++ ending _, rfl, ?_⟩
      rw [List.forall_mem_append, List.forall_mem_append]
      exact ⟨⟨later, by simp [Engine.Call.operation?]⟩, by simp [ending, Engine.Call.operation?]⟩
  | started opening =>
      obtain ⟨opened, rest, rfl, later⟩ := opening.eq_cons
      refine ⟨opened, rest ++ [_], rfl, ?_⟩
      rw [List.forall_mem_append]
      exact ⟨later, by simp [Engine.Call.operation?]⟩

theorem Starting.opened_nodup {source : Source} {attributes : Attributes} {t : Trace Engines}
    {result : Except EngineError Player} (h : Starting source attributes t result) :
    (Engine.opened t).Nodup := by
  cases h with
  | unopened opening =>
      cases opening with
      | refused e => exact List.nodup_nil
      | unprepared handle e => exact List.pairwise_singleton _ handle
  | unstarted e opening | started opening =>
      cases opening with
      | ready handle => exact List.pairwise_singleton _ handle

end Player

namespace Fallback

/-- A default ringtone, the only sound that the bundled one takes the place of. -/
def IsRingtone (reference : Option Locator) : Prop :=
  ∃ r, reference = some r ∧ r.defaultKind?.any DefaultKind.isRingtone = true

inductive Outcome (reference : Option Locator) (attributes : Attributes) :
    Trace Engines → Option Player → Prop where
  | refused : Outcome reference attributes [] none
  | failed {source t e} : IsRingtone reference → Player.Starting source attributes t (.error e) →
      Outcome reference attributes t none
  | playing {source t player} : IsRingtone reference →
      Player.Starting source attributes t (.ok player) →
      Outcome reference attributes t (some player)

theorem Outcome.custody {reference : Option Locator} {attributes : Attributes} {t : Trace Engines}
    {result : Option Player} (h : Outcome reference attributes t result) (held : List HandleId) :
    Engine.Custody held t ((result.map Player.handle).toList ++ held) := by
  cases h with
  | refused => exact .refl held
  | failed _ starting | playing _ starting => exact starting.custody held

theorem Outcome.starting {reference : Option Locator} {attributes : Attributes} {t : Trace Engines}
    {player : Player} (h : Outcome reference attributes t (some player)) :
    IsRingtone reference ∧ ∃ source, Player.Starting source attributes t (.ok player) := by
  cases h with
  | playing ringtone starting => exact ⟨ringtone, _, starting⟩

theorem replacesDefaultRingtone_ensures (reference : Option Locator) :
    (replacesDefaultRingtone reference).Ensures fun _ result =>
      result = true → IsRingtone reference := by
  cases reference with
  | none => simp [replacesDefaultRingtone]
  | some r =>
      simp only [replacesDefaultRingtone]
      split
      · rename_i ringtone
        exact .of_forall fun _ _ _ => ⟨r, rfl, ringtone⟩
      · simp

theorem tryPlay_ensures (reference : Option Locator) (attributes : Attributes) :
    (tryPlay reference attributes).Ensures fun t result =>
      Outcome reference attributes (rights t) result.toOption := by
  have silent : Outcome reference attributes [] none := .refused
  simp only [tryPlay, Resource.volume, ensures_bind, lift_left, ensures_left, ensures_call,
    ensures_done]
  intro level
  split
  · exact ensures_pure.mpr silent
  · simp only [ensures_bind, ensures_left]
    refine (replacesDefaultRingtone_ensures reference).mono fun t replaces ringtone => ?_
    split
    · exact ensures_pure.mpr (by simpa [Except.toOption] using silent)
    · rename_i yes
      have ringtone := ringtone (by simpa using yes)
      simp only [ensures_bind, ensures_left]
      refine .of_forall fun u asset => ?_
      cases asset with
      | error e => exact ensures_pure.mpr (by simpa [Except.toOption] using silent)
      | ok source =>
          simp only [ensures_bind]
          refine (Player.openStarted_ensures source attributes).mono fun v result starting => ?_
          cases result with
          | error e =>
              exact ensures_pure.mpr (by simpa [Except.toOption] using .failed ringtone starting)
          | ok player =>
              exact ensures_pure.mpr (by simpa [Except.toOption] using .playing ringtone starting)

theorem play_ensures (reference : Option Locator) (attributes : Attributes) :
    (play reference attributes).Ensures fun t result =>
      Outcome reference attributes (rights t) result := by
  unfold play
  refine (tryPlay_ensures reference attributes).bind fun t result outcome => ?_
  cases result with
  | ok player => simpa [Resource.log, Except.toOption] using outcome
  | error e =>
      cases e with
      | silent => simpa [Except.toOption] using outcome
      | notDefaultRingtone | asset cause | engine cause =>
          simpa [Resource.log, Except.toOption] using outcome

end Fallback

/-- Resources and an engine that refuse nothing and know nothing; handles are numbered. -/
def compliant : Handler Stage Nat
  | .inl c, n =>
    (match c with
    | .volume _ => (5 : Nat)
    | .setting _ => (none : Option String)
    | .putSetting _ _ => (.ok () : Except SettingsError Unit)
    | .query _ _ => (.ok 0 : Except QueryError CursorId)
    | .find _ => (.ok 0 : Except QueryError CursorId)
    | .count _ => (0 : Nat)
    | .moveToFirst _ => false
    | .cell _ _ => (none : Option String)
    | .close _ => ()
    | .openAsset => (.error (.notFound "") : Except AssetError Asset)
    | .duplicate file => (.ok file : Except IoError FileNode)
    | .log _ => (), n)
  | .inr (.openSource _ _), n => (.ok n, n + 1)
  | .inr (.prepare _), n => (.ok (), n)
  | .inr (.start _), n => (.ok (), n)
  | .inr (.stop _), n => ((), n)
  | .inr (.reset _), n => ((), n)
  | .inr (.release _), n => ((), n)
  | .inr (.isPlaying _), n => (true, n)

instance (c : Stage.Call) : Nonempty (Stage.Answer c) := ⟨(compliant c 0).1⟩

end AlertSound
