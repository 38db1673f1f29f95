import AlertSound.Proofs.Session.History
import AlertSound.Proofs.Session.Writing
import AlertSound.Proofs.Settings.Course

/-!
A whole restore pass. Every slot of the count has a share of the pass, whatever comes of the
others, and the share tells what its setting holds afterwards. No other setting is changed.
A session makes such passes, when it opens a sound anew, and writes no setting besides.
-/
namespace AlertSound

open Function Program

namespace RestoreSlots

/-- The slots of the count, of which there are three. -/
theorem kinds_eq (slots : RestoreSlots) :
    slots.kinds = [.ringtone 0, .ringtone 1, .ringtone 2].take slots.count.toNat := by
  have first (n : Nat) (small : n ≤ UInt8.size) :
      ((List.range n).filterMap fun slot => DefaultKind.ringtone? (UInt8.ofNat slot)) =
        [.ringtone 0, .ringtone 1, .ringtone 2].take n := by
    induction n with
    | zero => rfl
    | succ n ih =>
        rw [List.range_succ, List.filterMap_append, ih (by omega)]
        match n with
        | 0 | 1 | 2 => rfl
        | n + 3 =>
            have beyond : ¬UInt8.ofNat (n + 3) < ringtoneSlots := by
              rw [UInt8.lt_iff_toNat_lt, UInt8.toNat_ofNat_of_lt' (by omega)]
              exact Nat.not_lt.mpr (Nat.le_add_left 3 n)
            have none : DefaultKind.ringtone? (UInt8.ofNat (n + 3)) = none := if_neg beyond
            simp only [List.filterMap_cons, none, List.filterMap_nil, List.append_nil]
            simp
  exact first _ (Nat.le_of_lt slots.count.toNat_lt)

/-- The default of a slot is told by its key. -/
theorem defaultKind?_eq {slots : RestoreSlots} {kind : DefaultKind} (slot : kind ∈ slots.kinds) :
    (Locator.settingsDefault kind).defaultKind? = some kind := by
  rw [kinds_eq] at slot
  have named : ∀ kind ∈ [DefaultKind.ringtone 0, .ringtone 1, .ringtone 2],
      (Locator.settingsDefault kind).defaultKind? = some kind := by decide +kernel
  exact named kind (List.mem_of_mem_take slot)

theorem nodup_settingKey (slots : RestoreSlots) :
    (slots.kinds.map DefaultKind.settingKey).Nodup := by
  rw [kinds_eq, List.map_take]
  exact List.Nodup.sublist (List.take_sublist _ _) (by decide)

end RestoreSlots

namespace Restore

def complaint (kind : DefaultKind) : Except Error Bool → Trace Resources
  | .ok _ => []
  | .error e =>
    [⟨.log { level := .error, target := "restore", message := "default sound restore failed"
             fields := [("key", .text kind.settingKey), ("error", .shown e.message)] }, ()⟩]

/-- The share of a slot in a pass: what its setting held, what was asked, and what came of it. -/
structure Share where
  kind : DefaultKind
  current : Option String
  events : Trace Resources
  result : Except Error Bool

namespace Share

def trace (share : Share) : Trace Resources := share.events ++ complaint share.kind share.result

def isRestored (share : Share) : Bool :=
  match share.result with
  | .ok restored => restored
  | .error _ => false

end Share

structure Shared (config : RestoreConfig) (kinds : List DefaultKind) (t : Trace Resources) (n : Nat)
    (shares : List Share) : Prop where
  kinds : shares.map Share.kind = kinds
  course : ∀ share ∈ shares, Course config share.kind share.current share.events share.result
  trace : t = shares.flatMap Share.trace
  count : n = shares.countP Share.isRestored

theorem each_shared (config : RestoreConfig) (kinds : List DefaultKind) :
    (each config kinds).Ensures fun t n => ∃ shares, Shared config kinds t n shares := by
  induction kinds with
  | nil => exact ensures_pure.mpr ⟨[], rfl, by simp, rfl, rfl⟩
  | cons kind kinds ih =>
      refine (one_course config kind).bind fun t result course => ?_
      obtain ⟨current, course⟩ := course
      cases result with
      | ok restored =>
          refine ih.bind fun u n shared => ensures_pure.mpr ?_
          obtain ⟨shares, same, courses, rfl, rfl⟩ := shared
          refine ⟨⟨kind, current, t, .ok restored⟩ :: shares, ?_, ?_, ?_, ?_⟩
          · simp [same]
          · exact List.forall_mem_cons.mpr ⟨course, courses⟩
          · simp [Share.trace, complaint]
          · rw [List.countP_cons]
            rfl
      | error e =>
          refine ensures_bind.mpr (ensures_log _ _ _ _ (ih.mono fun u n shared => ?_))
          obtain ⟨shares, same, courses, rfl, rfl⟩ := shared
          refine ⟨⟨kind, current, t, .error e⟩ :: shares, ?_, ?_, ?_, ?_⟩
          · simp [same]
          · exact List.forall_mem_cons.mpr ⟨course, courses⟩
          · simp [Share.trace, complaint]
          · simp [Share.isRestored]

variable {config : RestoreConfig} {kinds : List DefaultKind} {t : Trace Resources} {n : Nat}
  {shares : List Share} {held held' : Contents}

/-- What a slot holds afterwards: what was written if the write went well, and else what it
held. -/
theorem Settles.leaves {key : String} {given : Int64 → Prop} {result : Except Error Bool}
    (h : Settles key t given result) (path : Contents.conduct.Path t held held') :
    (∀ value, Contents.Puts t key value → held' = update held key (some value)) ∧
      ((∀ value, ¬Contents.Puts t key value) → held' = held) := by
  cases h with
  | inl tried =>
      obtain ⟨id, answer, -, once, -⟩ := tried
      obtain ⟨written, refused⟩ := once.path path
      refine ⟨fun value put => ?_, fun none => refused fun good => ?_⟩
      · obtain ⟨-, rfl, good⟩ := once.mem_iff.mp put
        exact written good.symm
      · exact none _ (once.mem_iff.mpr ⟨rfl, rfl, good.symm⟩)
  | inr left =>
      obtain ⟨spares, -, -⟩ := left
      exact ⟨fun value put => (spares _ put).elim, fun _ => Contents.path_of_spares spares path⟩

/-- The setting is read first. -/
theorem Course.current_eq {kind : DefaultKind} {current : Option String}
    {result : Except Error Bool} (h : Course config kind current t result)
    (path : Contents.conduct.Path t held held') : current = held kind.settingKey := by
  cases h with
  | unset | unchecked _ | there _ | unnamed _ _ | unasked _ _ | asked _ _ _ =>
      obtain ⟨_, first, -⟩ := path
      exact first.1

structure Share.Kept (held held' : Contents) (share : Share) : Prop where
  current : share.current = held share.kind.settingKey
  written : ∀ value, Contents.Puts share.events share.kind.settingKey value →
    held' share.kind.settingKey = some value
  unwritten : (∀ value, ¬Contents.Puts share.events share.kind.settingKey value) →
    held' share.kind.settingKey = held share.kind.settingKey

theorem complaint_spares (kind : DefaultKind) (result : Except Error Bool) :
    ∀ e ∈ complaint kind result, e.call.Spares := by
  cases result with
  | ok _ => simp [complaint]
  | error e => simp [complaint, Resource.Call.Spares]

/-- What a share does to the settings. -/
theorem Share.trace_path {share : Share}
    (course : Course config share.kind share.current share.events share.result)
    (path : Contents.conduct.Path share.trace held held') :
    share.Kept held held' ∧ ∀ key, key ≠ share.kind.settingKey → held' key = held key := by
  obtain ⟨held₁, events, rest⟩ := Conduct.path_append.mp path
  obtain rfl := Contents.path_of_spares (complaint_spares _ _) rest
  obtain ⟨written, unwritten⟩ := course.settles.leaves events
  refine ⟨⟨course.current_eq events, fun value put => ?_, fun none => ?_⟩, fun key other => ?_⟩
  · rw [written value put, update_self]
  · rw [unwritten none]
  · by_cases some : ∃ value, Contents.Puts share.events share.kind.settingKey value
    · obtain ⟨value, put⟩ := some
      rw [written value put, update_of_ne other]
    · rw [unwritten fun value put => some ⟨value, put⟩]

/-- One share after another: no slot is in the way of another. -/
theorem shares_path (courses : ∀ share ∈ shares,
      Course config share.kind share.current share.events share.result)
    (distinct : (shares.map fun share => share.kind.settingKey).Nodup)
    (path : Contents.conduct.Path (shares.flatMap Share.trace) held held') :
    (∀ share ∈ shares, share.Kept held held') ∧
      ∀ key, (∀ share ∈ shares, key ≠ share.kind.settingKey) → held' key = held key := by
  induction shares generalizing held with
  | nil => exact ⟨by simp, fun key _ => congrFun path key⟩
  | cons share shares ih =>
      obtain ⟨course, courses⟩ := List.forall_mem_cons.mp courses
      obtain ⟨apart, distinct⟩ := List.nodup_cons.mp distinct
      obtain ⟨held₁, here, rest⟩ := Conduct.path_append.mp path
      obtain ⟨kept, frame⟩ := Share.trace_path course here
      obtain ⟨later, frame'⟩ := ih courses distinct rest
      have others : ∀ share' ∈ shares, share.kind.settingKey ≠ share'.kind.settingKey :=
        fun share' member same => apart (List.mem_map.mpr ⟨share', member, same.symm⟩)
      have stays := frame' share.kind.settingKey others
      refine ⟨List.forall_mem_cons.mpr ⟨⟨kept.current, fun value put => ?_, fun none => ?_⟩,
        fun share' member => ?_⟩, fun key other => ?_⟩
      · rw [stays, kept.written value put]
      · rw [stays, kept.unwritten none]
      · have same := frame _ (others share' member).symm
        obtain ⟨current, written, unwritten⟩ := later share' member
        exact ⟨current.trans same, written, fun none => (unwritten none).trans same⟩
      · obtain ⟨here, later⟩ := List.forall_mem_cons.mp other
        rw [frame' key later, frame key here]

/-- What is tried is what the slot is due for, and it is restored if that is written. -/
theorem Course.tries_iff {kind : DefaultKind} {current : Option String}
    {result : Except Error Bool} (h : Course config kind current t result) (value : String) :
    Contents.Tries t kind.settingKey value ↔
      ∃ id, Due config kind current t id ∧ value = (Locator.media .inside id).text := by
  cases h.settles with
  | inl tried =>
      obtain ⟨id, answer, one, once, -⟩ := tried
      constructor
      · intro given
        obtain ⟨answer', member⟩ := given
        obtain ⟨-, rfl, -⟩ := once.mem_iff.mp member
        exact ⟨id, (one id).mpr rfl, rfl⟩
      · intro given
        obtain ⟨id', due, rfl⟩ := given
        cases (one id').mp due
        exact ⟨answer, once.mem_iff.mpr ⟨rfl, rfl, rfl⟩⟩
  | inr left =>
      obtain ⟨spares, -, none⟩ := left
      constructor
      · intro given
        obtain ⟨answer, member⟩ := given
        exact (spares _ member).elim
      · intro given
        obtain ⟨id, due, -⟩ := given
        exact absurd due (none id)

theorem Course.restored_iff {kind : DefaultKind} {current : Option String}
    {result : Except Error Bool} (h : Course config kind current t result) :
    result = .ok true ↔ ∃ value, Contents.Puts t kind.settingKey value := by
  cases h.settles with
  | inl tried =>
      obtain ⟨id, answer, -, once, restored⟩ := tried
      rw [restored]
      constructor
      · intro good
        exact ⟨_, once.mem_iff.mpr ⟨rfl, rfl, good.symm⟩⟩
      · intro given
        obtain ⟨value, put⟩ := given
        exact (once.mem_iff.mp put).2.2.symm
  | inr left =>
      obtain ⟨spares, other, -⟩ := left
      refine ⟨fun restored => absurd restored other, fun given => ?_⟩
      obtain ⟨value, put⟩ := given
      exact (spares _ put).elim

theorem Share.isRestored_iff (share : Share) :
    share.isRestored = true ↔ share.result = .ok true := by
  unfold isRestored
  cases share.result with
  | ok restored => simp
  | error e => simp

/-- All that a share tells: what the slot was due for was tried, and no more; if it was
written the slot counts as restored and holds it, and else the slot holds what it held. -/
structure Share.Exact (config : RestoreConfig) (held held' : Contents) (share : Share) : Prop where
  course : Course config share.kind (held share.kind.settingKey) share.events share.result
  tries_iff : ∀ value, Contents.Tries share.events share.kind.settingKey value ↔
    ∃ id, Due config share.kind (held share.kind.settingKey) share.events id ∧
      value = (Locator.media .inside id).text
  restored_iff : share.isRestored = true ↔
    ∃ value, Contents.Puts share.events share.kind.settingKey value
  written : ∀ value, Contents.Puts share.events share.kind.settingKey value →
    held' share.kind.settingKey = some value
  unwritten : (∀ value, ¬Contents.Puts share.events share.kind.settingKey value) →
    held' share.kind.settingKey = held share.kind.settingKey

theorem all_disabled (disabled : ¬config.enabled = true) (runs : (all config).Runs t n) :
    t = [] ∧ n = 0 := by
  simp only [all, disabled] at runs
  exact (runs_done.mp runs).imp_right Eq.symm

/-- A pass over the slots of the count. -/
theorem all_exact (enabled : config.enabled = true) (runs : (all config).Runs t n)
    (path : Contents.conduct.Path t held held') :
    ∃ shares : List Share, shares.map Share.kind = config.slots.kinds ∧
      t = shares.flatMap Share.trace ∧ (∀ share ∈ shares, share.Exact config held held') ∧
      n = shares.countP Share.isRestored ∧
      ∀ key, (∀ share ∈ shares, key ≠ share.kind.settingKey) → held' key = held key := by
  simp only [all, enabled, if_true] at runs
  obtain ⟨shares, kinds, courses, rfl, rfl⟩ := each_shared config _ runs
  have distinct : (shares.map fun share => share.kind.settingKey).Nodup := by
    have slots := config.slots.nodup_settingKey
    rwa [← kinds, List.map_map] at slots
  obtain ⟨kept, frame⟩ := shares_path courses distinct path
  refine ⟨shares, kinds, rfl, fun share member => ?_, rfl, frame⟩
  obtain ⟨current, written, unwritten⟩ := kept share member
  have course := courses share member
  rw [current] at course
  exact ⟨course, course.tries_iff, share.isRestored_iff.trans course.restored_iff, written,
    unwritten⟩

/-- Every slot of an enabled pass is checked. -/
theorem setting_mem (enabled : config.enabled = true) (runs : (all config).Runs t n)
    (path : Contents.conduct.Path t held held') {kind : DefaultKind}
    (slot : kind ∈ config.slots.kinds) :
    (⟨.setting kind.settingKey, held kind.settingKey⟩ : Event Resources) ∈ t := by
  obtain ⟨shares, kinds, rfl, exact, -, -⟩ := all_exact enabled runs path
  rw [← kinds] at slot
  obtain ⟨share, member, rfl⟩ := List.mem_map.mp slot
  refine List.mem_flatMap.mpr ⟨share, member, List.mem_append_left _ ?_⟩
  exact (exact share member).course.setting_mem_iff.mpr ⟨rfl, rfl⟩

/-- The share of a slot that was checked. -/
theorem share_of_setting (runs : (all config).Runs t n)
    (path : Contents.conduct.Path t held held') {kind : DefaultKind}
    (slot : kind ∈ config.slots.kinds) {raw : String}
    (checked : (⟨.setting kind.settingKey, some raw⟩ : Event Resources) ∈ t) :
    config.enabled = true ∧ held kind.settingKey = some raw ∧ ∃ events result,
      Course config kind (some raw) events result ∧ ∃ u v, t = u ++ events ++ v := by
  have enabled : config.enabled = true := by
    by_contra disabled
    obtain ⟨rfl, -⟩ := all_disabled disabled runs
    cases checked
  obtain ⟨shares, kinds, rfl, exact, -, -⟩ := all_exact enabled runs path
  have holds : held kind.settingKey = some raw := by
    obtain ⟨share, member, here⟩ := List.mem_flatMap.mp checked
    obtain here | here := List.mem_append.mp here
    · obtain ⟨same, answer⟩ := (exact share member).course.setting_mem_iff.mp here
      rw [same, answer]
    · unfold complaint at here
      split at here
      · cases here
      · simp at here
  rw [← kinds] at slot
  obtain ⟨share, member, rfl⟩ := List.mem_map.mp slot
  refine ⟨enabled, holds, share.events, share.result, holds ▸ (exact share member).course, ?_⟩
  obtain ⟨front, back, rfl⟩ := List.append_of_mem member
  exact ⟨front.flatMap Share.trace, complaint share.kind share.result ++ back.flatMap Share.trace,
    by simp [Share.trace]⟩

/-- Settings of no slot of the count stay as they are. -/
theorem all_frame (runs : (all config).Runs t n) (path : Contents.conduct.Path t held held')
    {key : String} (other : ∀ kind ∈ config.slots.kinds, key ≠ kind.settingKey) :
    held' key = held key := by
  by_cases enabled : config.enabled = true
  · obtain ⟨shares, kinds, -, -, -, frame⟩ := all_exact enabled runs path
    refine frame key fun share member => other share.kind ?_
    rw [← kinds]
    exact List.mem_map_of_mem member
  · obtain ⟨rfl, -⟩ := all_disabled enabled runs
    exact congrFun path key

end Restore

namespace Session

variable {s s' : Session} {run : List Episode}

theorem History.restore (h : History s run s') : s'.restore = s.restore := by
  induction h with
  | start => rfl
  | next _ runs ih => exact (perform_writes _ _ runs).1.trans ih

/-- A pass writes slots of the count only, and so does all that holds one pass at most. -/
theorem WritesFor.frame {config : RestoreConfig} {o : Operation} {t : Trace Studio}
    {result : Reply × Session} (h : WritesFor config o t result) {held held' : Contents}
    (path : Contents.conduct.inStudio.Path t held held') {key : String}
    (other : ∀ kind ∈ config.slots.kinds, key ≠ kind.settingKey) : held' key = held key := by
  cases h with
  | inl spares => rw [Contents.inStudio_path_of_spares spares path]
  | inr passes =>
      obtain ⟨-, -, -, u, v, w, n, rfl, before, after, runs⟩ := passes
      obtain ⟨held₂, front, last⟩ := Conduct.path_append.mp path
      obtain ⟨held₁, first, middle⟩ := Conduct.path_append.mp front
      obtain rfl := Contents.inStudio_path_of_spares before first
      obtain rfl := Contents.inStudio_path_of_spares after last
      exact Restore.all_frame runs (Conduct.path_inStudio_left.mp middle) other

theorem History.frame (h : History s run s') {held held' : Contents}
    (path : Contents.conduct.inStudio.Path (events run) held held') {key : String}
    (other : ∀ kind ∈ s.restore.slots.kinds, key ≠ kind.settingKey) : held' key = held key := by
  induction h generalizing held' with
  | start => exact congrFun path key
  | next history runs ih =>
      rw [events_append, events_single] at path
      obtain ⟨held₁, first, last⟩ := Conduct.path_append.mp path
      have writes := (perform_writes _ _ runs).2
      rw [history.restore] at writes
      rw [writes.frame last other, ih first]

def beside {σ : Type} (resources : Handler Resources σ) : Handler Studio (σ × Nat)
  | .inl (.inl c), (state, n) => ((resources c state).1, (resources c state).2, n)
  | .inl (.inr c), (state, n) =>
    ((obliging (.inl (.inr c)) n).1, state, (obliging (.inl (.inr c)) n).2)
  | .inr c, (state, n) => ((obliging (.inr c) n).1, state, (obliging (.inr c) n).2)

theorem beside_inStudio {S σ : Type} {A : Conduct Resources S} {resources : Handler Resources σ}
    (view : σ → S) (step : ∀ c state,
      A ⟨c, (resources c state).1⟩ (view state) (view (resources c state).2))
    (c : Studio.Call) (state : σ × Nat) :
    A.inStudio ⟨c, (beside resources c state).1⟩ (view state.1)
      (view (beside resources c state).2.1) := by
  cases c with
  | inl c =>
      cases c with
      | inl c => exact step c state.1
      | inr c => rfl
  | inr c => rfl

end Session

namespace Restore

/-- A restore pass does this and nothing else. Each of the first slots of the count, of
which there are three at most, has a share of the pass, whatever comes of the others. The
share is one of the courses that restoring a slot can take. A write of the slot's setting
is tried exactly if the setting is there, its value is no locator or its query has no rows,
a name is shipped for the slot and the first row that the index finds for the name has an
id; the value is the text of the sound with that id. If the write goes well the setting
holds the value, and if it does not, or is not tried, the setting holds what it held. All
other settings hold what they held, and the result is how many slots were written. In a
run of a session, a pass is made by an operation that opens a present sound anew while
restoring is enabled, and nothing else writes a setting, so that all settings but those of
the slots are the same throughout. -/
theorem pass_exact :
    (∀ config t n held held', (all config).Runs t n → Contents.conduct.Path t held held' →
      (config.enabled = false → t = [] ∧ n = 0) ∧
      (config.enabled = true → ∃ shares : List Share,
        shares.map Share.kind =
          [.ringtone 0, .ringtone 1, .ringtone 2].take config.slots.count.toNat ∧
        t = shares.flatMap Share.trace ∧ (∀ share ∈ shares, share.Exact config held held') ∧
        n = shares.countP Share.isRestored ∧
        ∀ key, (∀ share ∈ shares, key ≠ share.kind.settingKey) → held' key = held key)) ∧
    ∀ (config : Config) surface run s, Session.History (.new config surface) run s →
      (∀ operation t reply s', (s.perform operation).Runs t (reply, s') →
        (∀ e ∈ t, Studio.Spares e.call) ∨ Session.Rebinds operation reply ∧ s'.reference ≠ none ∧
          config.restore.enabled = true ∧ Session.PassesOnce config.restore t) ∧
      (∀ t, s.drop.Runs t () → ∀ e ∈ t, Studio.Spares e.call) ∧
      ∀ held held', Contents.conduct.inStudio.Path (Session.events run) held held' →
        ∀ key, (∀ kind ∈ config.restore.slots.kinds, key ≠ kind.settingKey) →
          held' key = held key := by
  refine ⟨fun config t n held held' runs path => ⟨fun disabled => ?_, fun enabled => ?_⟩,
    fun config surface run s history => ⟨fun operation t reply s' runs => ?_, fun t runs => ?_,
      fun held held' path key other => history.frame path other⟩⟩
  · exact all_disabled (by rw [disabled]; exact Bool.false_ne_true) runs
  · rw [← RestoreSlots.kinds_eq]
    exact all_exact enabled runs path
  · have writes := (Session.perform_writes s operation runs).2
    rwa [history.restore] at writes
  · exact s.drop_plain.mono (fun _ => Studio.Plain.spares) runs

def shelf : Handler Resources Contents
  | .setting key, held => (held key, held)
  | .putSetting key value, held => (.ok (), update held key (some value))
  | .query _ _, held => (.ok 0, held)
  | .find name, held => (if name = "a.ogg" then .ok 1 else .error (.unavailable name), held)
  | .count cursor, held => (cursor, held)
  | .moveToFirst _, held => (true, held)
  | .cell _ _, held => (some "7", held)
  | .close _, held => ((), held)
  | .volume _, held => (5, held)
  | .openAsset, held => (.error (.notFound ""), held)
  | .duplicate file, held => (.ok file, held)
  | .log _, held => ((), held)

theorem shelf_conduct (c : Resource.Call) (held : Contents) :
    Contents.conduct ⟨c, (shelf c held).1⟩ held (shelf c held).2 := by
  cases c with
  | setting _ => exact ⟨rfl, rfl⟩
  | _ => rfl

/-- Two slots are set to sounds that are gone, and the first can be restored. -/
def twoGone : Contents := fun key =>
  if key = "ringtone" then some "a sound" else if key = "ringtone_2" then some "another sound"
  else if key = "alarm_alert" then some "a third" else none

def twoSlots : RestoreConfig :=
  ⟨true, .ordinary, [(.ringtone 0, "a.ogg"), (.ringtone 1, "b.ogg")]⟩

def restored : Nat × Contents := (all twoSlots).run shelf twoGone

def opening : Program Studio (Session.Reply × Session) :=
  (Session.new ⟨true, .ordinary, twoSlots⟩ none).perform (.setReference (some (.media .inside 7)))

theorem pass_exact_two :
    restored.1 = 1 ∧ restored.2 "ringtone" = some "content://media/internal/audio/media/7" ∧
      (∃ shares : List Share, shares.map Share.kind = [.ringtone 0, .ringtone 1] ∧
        (∀ share ∈ shares, share.Exact twoSlots twoGone restored.2) ∧
        restored.1 = shares.countP Share.isRestored) ∧
      restored.2 "alarm_alert" = some "a third" ∧
      (opening.run (Session.beside shelf) (twoGone, 0)).2.1 "alarm_alert" = some "a third" := by
  obtain ⟨pass, sessions⟩ := pass_exact
  obtain ⟨shares, kinds, -, exact, count, frame⟩ := (pass twoSlots _ _ twoGone restored.2
    (runs_record shelf (all twoSlots) twoGone)
    (Conduct.path_record id shelf_conduct (all twoSlots) twoGone)).2 rfl
  have other : ∀ share ∈ shares, "alarm_alert" ≠ share.kind.settingKey := by
    intro share member
    have slot : share.kind ∈ shares.map Share.kind := List.mem_map_of_mem member
    rw [kinds] at slot
    revert slot
    generalize share.kind = kind
    revert kind
    decide
  have history : Session.History (.new ⟨true, .ordinary, twoSlots⟩ none)
      [⟨_, opening.record (Session.beside shelf) (twoGone, 0), _⟩] _ :=
    .next .start (runs_record (Session.beside shelf) opening (twoGone, 0))
  have path := Conduct.path_record Prod.fst (Session.beside_inStudio id shelf_conduct) opening
    (twoGone, 0)
  obtain ⟨-, -, still⟩ := sessions _ none _ _ history
  refine ⟨by decide +kernel, by decide +kernel, ⟨shares, kinds, exact, count⟩,
    (frame "alarm_alert" other).trans rfl, ?_⟩
  exact (still twoGone _ (by simpa [Session.events] using path) "alarm_alert" (by decide)).trans rfl

end Restore
end AlertSound
