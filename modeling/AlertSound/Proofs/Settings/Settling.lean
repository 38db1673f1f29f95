import AlertSound.Proofs.Premises
import AlertSound.Proofs.Settings.Pass

/-!
A restore pass beside an index that answers the same question in the same way. What becomes
of a slot is told by what its setting holds. A slot that was pointed somewhere is left there,
or it is pointed there again, so that a second pass changes nothing.
-/
namespace AlertSound

open Function Program

variable {K : Type}

namespace Library

/-- A store beside a library. Cursors are opened, moved and read as the library has it, and
whether a setting can be written depends on the key and the value. -/
def serves (library : Library K) : Conduct Resources (Contents × Table K)
  | ⟨.setting key, answer⟩, s, s' => answer = s.1 key ∧ s' = s
  | ⟨.putSetting key value, answer⟩, s, s' => answer = library.putSetting key value ∧
      Contents.conduct ⟨.putSetting key value, answer⟩ s.1 s'.1 ∧ s'.2 = s.2
  | ⟨c, answer⟩, s, s' => (library.dealing c).Follows s.2 answer s'.2 ∧ s'.1 = s.1

variable {library : Library K} {s s' : Contents × Table K}

theorem serves_contents (e : Event Resources) (s s' : Contents × Table K)
    (step : library.serves e s s') : Contents.conduct e s.1 s'.1 := by
  obtain ⟨c, answer⟩ := e
  cases c with
  | setting key => exact ⟨step.1, congrArg Prod.fst step.2⟩
  | putSetting key value => exact step.2.1
  | volume _ | query _ _ | find _ | count _ | moveToFirst _ | cell _ _ | close _ | openAsset
  | duplicate _ | log _ => exact step.2

theorem contents_path {t : Trace Resources} (path : library.serves.Path t s s') :
    Contents.conduct.Path t s.1 s'.1 :=
  path.map Prod.fst serves_contents

theorem studio_path {t : Trace Studio} (path : library.serves.inStudio.Path t s s') :
    Contents.conduct.inStudio.Path t s.1 s'.1 :=
  path.map Prod.fst (Conduct.inStudio_map Prod.fst serves_contents)

theorem putSetting_of_mem {t : Trace Resources} (path : library.serves.Path t s s')
    {key value : String} {answer : Except SettingsError Unit}
    (member : (⟨.putSetting key value, answer⟩ : Event Resources) ∈ t) :
    answer = library.putSetting key value := by
  obtain ⟨_, _, here⟩ := path.mem member
  exact here.1

theorem serves_opened {made : Except QueryError K} {cursor : CursorId}
    (step : (Dealing.opens made).Follows s.2 (.ok cursor) s'.2) :
    ∃ k, made = .ok k ∧ s'.2 cursor = some k := by
  obtain ⟨k, made, -, same⟩ := Dealing.follows_opens.mp step
  exact ⟨k, made, by rw [same, update_self]⟩

theorem serves_used {α : Type} {cursor : CursorId} {blank answer : α} {use : K → α × K} {k : K}
    (known : s.2 cursor = some k)
    (step : (Dealing.uses cursor blank use).Follows s.2 answer s'.2) :
    answer = (use k).1 ∧ s'.2 cursor = some (use k).2 := by
  obtain ⟨answer, same⟩ := (Dealing.follows_uses known).mp step
  exact ⟨answer, by rw [same, update_self]⟩

def keeper (library : Library K) : Handler Resources (Contents × Register K)
  | .setting key, (held, register) => (held key, held, register)
  | .putSetting key value, (held, register) =>
    match library.putSetting key value with
    | .ok () => (.ok (), update held key (some value), register)
    | .error e => (.error e, held, register)
  | c, (held, register) =>
    (((library.dealing c).deal register).1, held, ((library.dealing c).deal register).2)

/-- What a keeper holds, and what its cursors stand for. -/
def kept (state : Contents × Register K) : Contents × Table K := (state.1, state.2.table)

theorem keeper_serves (library : Library K) (c : Resource.Call) (state : Contents × Register K) :
    library.serves ⟨c, (library.keeper c state).1⟩ (kept state)
      (kept (library.keeper c state).2) := by
  obtain ⟨held, register⟩ := state
  cases c with
  | setting key => exact ⟨rfl, rfl⟩
  | putSetting key value =>
      simp only [keeper]
      cases answer : library.putSetting key value with
      | ok _ => exact ⟨answer.symm, rfl, rfl⟩
      | error e => exact ⟨answer.symm, rfl, rfl⟩
  | volume _ | query _ _ | find _ | count _ | moveToFirst _ | cell _ _ | close _ | openAsset
  | duplicate _ | log _ => exact ⟨Dealing.deal_follows _ register, rfl⟩

end Library

namespace Restore

section Told

variable (library : Library K) (config : RestoreConfig) (kind : DefaultKind)

def isGone (raw : String) : Bool :=
  match Locator.parse raw with
  | .error _ => true
  | .ok r =>
    match library.query r [.title] with
    | .error _ => false
    | .ok k => library.count k == 0

def firstId? (k : K) : Option Int64 :=
  if library.count k = 0 then none
  else if (library.moveToFirst k).1 then
    Cursor.cellNumber? (library.cell (library.moveToFirst k).2 0)
  else none

def shipped? : Option Int64 :=
  (config.fileNames.get? kind).bind fun name => (library.find name).toOption.bind (firstId? library)

/-- The id that a slot with this setting is to be pointed at. -/
def due? (current : Option String) : Option Int64 :=
  current.bind fun raw => if isGone library raw then shipped? library config kind else none

def written? (current : Option String) : Option String :=
  (due? library config kind current).bind fun id =>
    (library.putSetting kind.settingKey (Locator.media .inside id).text).toOption.map fun () =>
      (Locator.media .inside id).text

def settled (current : Option String) : Option String :=
  (written? library config kind current).or current

variable {library config kind} {current : Option String} {value : String}

theorem written?_eq_some : written? library config kind current = some value ↔
    ∃ id, due? library config kind current = some id ∧ value = (Locator.media .inside id).text ∧
      library.putSetting kind.settingKey value = .ok () := by
  simp only [written?, Option.bind_eq_some_iff, Option.map_eq_some_iff]
  refine exists_congr fun id => and_congr_right fun _ => ?_
  constructor
  · intro given
    obtain ⟨_, put, rfl⟩ := given
    refine ⟨rfl, ?_⟩
    cases answer : library.putSetting kind.settingKey (Locator.media .inside id).text with
    | error e => simp [answer, Except.toOption] at put
    | ok _ => rfl
  · intro given
    obtain ⟨rfl, put⟩ := given
    exact ⟨(), by rw [put]; rfl, rfl⟩

theorem due?_eq_some {id : Int64} : due? library config kind current = some id ↔
    ∃ raw, current = some raw ∧ isGone library raw = true ∧
      shipped? library config kind = some id := by
  simp only [due?, Option.bind_eq_some_iff, Option.ite_none_right_eq_some]

theorem settled_of_written (written : written? library config kind current = some value) :
    settled library config kind current = some value := by
  rw [settled, written, Option.some_or]

theorem settled_of_unwritten (unwritten : written? library config kind current = none) :
    settled library config kind current = current := by
  rw [settled, unwritten, Option.none_or]

/-- A sound that is there is left alone. -/
theorem written?_of_there {raw : String} (there : isGone library raw = false) :
    written? library config kind (some raw) = none := by
  simp [written?, due?, there]

/-- What is written a second time is what was written the first time. -/
theorem settled_settled (current : Option String) :
    settled library config kind (settled library config kind current) =
      settled library config kind current := by
  cases first : written? library config kind current with
  | none => rw [settled_of_unwritten first, settled_of_unwritten first]
  | some value =>
      rw [settled_of_written first]
      cases second : written? library config kind (some value) with
      | none => exact settled_of_unwritten second
      | some value' =>
          obtain ⟨id, due, rfl, -⟩ := written?_eq_some.mp first
          obtain ⟨id', due', rfl, -⟩ := written?_eq_some.mp second
          obtain ⟨-, -, -, shipped⟩ := due?_eq_some.mp due
          obtain ⟨-, -, -, shipped'⟩ := due?_eq_some.mp due'
          cases shipped.symm.trans shipped'
          exact settled_of_written second

variable (library config) in
def passed (held : Contents) : Contents := fun key =>
  if config.enabled = true then
    match config.slots.kinds.find? (·.settingKey == key) with
    | some kind => settled library config kind (held key)
    | none => held key
  else held key

theorem passed_passed (held : Contents) :
    passed library config (passed library config held) = passed library config held := by
  funext key
  simp only [passed]
  split
  · split
    · exact settled_settled _
    · rfl
  · rfl

end Told

variable {library : Library K} {config : RestoreConfig} {kind : DefaultKind}
  {current : Option String} {t : Trace Resources} {result : Except Error Bool}
  {raw key name : String} {cursor : CursorId} {s s' : Contents × Table K}

theorem Checked.isGone_iff (h : Checked raw t result) (path : library.serves.Path t s s') :
    isGone library raw = true ↔ result = .ok false := by
  cases h with
  | unreadable unreadable => simp [isGone, unreadable]
  | unasked read =>
      obtain ⟨s₁, asked, -⟩ := path
      obtain ⟨failed, -⟩ := Dealing.follows_opens.mp asked.1
      simp [isGone, read, failed]
  | @counted r cursor rows read =>
      obtain ⟨s₁, asked, s₂, counted, -⟩ := path
      obtain ⟨k, made, known⟩ := Library.serves_opened asked.1
      obtain ⟨same, -⟩ := Library.serves_used known counted.1
      obtain rfl : rows = library.count k := same
      simp [isGone, read, made]

theorem Pointing.numbered_iff {k : K} (h : Pointing key name cursor t result)
    (known : s.2 cursor = some k) (path : library.serves.Path t s s') (id : Int64) :
    Numbered cursor t id ↔ firstId? library k = some id := by
  -- Up to the cell, which is not read in all cases, every run asks the same.
  have moved {rows : Nat} {moves : Bool} {rest : Trace Resources}
      (path : library.serves.Path
        (⟨.count cursor, rows⟩ :: ⟨.moveToFirst cursor, moves⟩ :: rest) s s') :
      rows = library.count k ∧ moves = (library.moveToFirst k).1 ∧
        ∃ s₁, s₁.2 cursor = some (library.moveToFirst k).2 ∧ library.serves.Path rest s₁ s' := by
    obtain ⟨s₁, counted, s₂, moved, rest⟩ := path
    obtain ⟨count, known⟩ := Library.serves_used known counted.1
    obtain ⟨moves, known⟩ := Library.serves_used known moved.1
    exact ⟨count, moves, s₂, known, rest⟩
  have read {rows : Nat} {cell : Option String} {rest : Trace Resources}
      (path : library.serves.Path (⟨.count cursor, rows⟩ :: ⟨.moveToFirst cursor, true⟩ ::
        ⟨.cell cursor 0, cell⟩ :: rest) s s') (some : rows ≠ 0) :
      firstId? library k = Cursor.cellNumber? cell := by
    obtain ⟨rfl, moves, s₁, known, s₂, told, -⟩ := moved path
    obtain ⟨cell, -⟩ := Library.serves_used known told.1
    rw [firstId?, if_neg some, if_pos moves.symm, cell]
  cases h with
  | empty =>
      obtain ⟨s₁, counted, -⟩ := path
      obtain ⟨none, -⟩ := Library.serves_used known counted.1
      simp [Numbered, firstId?, show library.count k = 0 from none.symm]
  | stuck some =>
      obtain ⟨rfl, stuck, -⟩ := moved path
      simp [Numbered, firstId?, some, ← stuck]
  | unnumbered some unnumbered => simp [Numbered, read path some, unnumbered]
  | refused some numbered => simp [Numbered, read path some, numbered]
  | written some numbered => simp [Numbered, read path some, numbered]

/-- What a slot is due for can be told from its setting. -/
theorem Course.due?_eq_some_iff (h : Course config kind current t result)
    (path : library.serves.Path t s s') (id : Int64) :
    due? library config kind current = some id ↔ Due config kind current t id := by
  cases h with
  | unset => simp [due?, Due]
  | unchecked checked | there checked =>
      obtain ⟨_, -, path⟩ := path
      have there : isGone library _ ≠ true := fun gone => by cases (checked.isGone_iff path).mp gone
      simp [due?, there, Due, checked.find_not_mem]
  | unnamed checked unnamed => simp [due?, shipped?, Due, unnamed]
  | unasked checked named =>
      obtain ⟨_, -, path⟩ := path
      obtain ⟨_, -, _, asked, -⟩ := Conduct.path_append.mp path
      obtain ⟨failed, -⟩ := Dealing.follows_opens.mp asked.1
      simp [due?, shipped?, named, show library.find _ = .error _ from failed, Except.toOption, Due,
        checked.find_not_mem]
  | @asked raw t name cursor u result checked named pointing =>
      rw [due_iff checked named pointing]
      rw [List.append_assoc] at path
      obtain ⟨_, -, path⟩ := path
      obtain ⟨_, check, s₁, asked, path⟩ := Conduct.path_append.mp path
      obtain ⟨k, found, known⟩ := Library.serves_opened asked.1
      obtain ⟨s₂, pointed, -⟩ := Conduct.path_append.mp path
      have gone : isGone library raw = true := (checked.isGone_iff check).mpr rfl
      rw [pointing.numbered_iff known pointed]
      simp [due?, gone, shipped?, named, show library.find name = .ok k from found, Except.toOption]

theorem Course.puts_iff (h : Course config kind current t result)
    (path : library.serves.Path t s s') (value : String) :
    Contents.Puts t kind.settingKey value ↔ written? library config kind current = some value := by
  rw [written?_eq_some]
  constructor
  · intro put
    obtain ⟨id, due, same⟩ := (h.tries_iff value).mp ⟨_, put⟩
    have good := Library.putSetting_of_mem path put
    exact ⟨id, (h.due?_eq_some_iff path id).mpr due, same, good.symm⟩
  · intro given
    obtain ⟨id, due, same, good⟩ := given
    obtain ⟨answer, tried⟩ :=
      (h.tries_iff value).mpr ⟨id, (h.due?_eq_some_iff path id).mp due, same⟩
    rwa [Library.putSetting_of_mem path tried, good] at tried

section Pass

variable {n : Nat}

/-- What an enabled pass leaves in the slots of its count, and how many it writes. -/
theorem all_settles (enabled : config.enabled = true) (runs : (all config).Runs t n)
    (path : library.serves.Path t s s') :
    (∀ kind ∈ config.slots.kinds,
      s'.1 kind.settingKey = settled library config kind (s.1 kind.settingKey)) ∧
    n = config.slots.kinds.countP fun kind =>
      (written? library config kind (s.1 kind.settingKey)).isSome := by
  obtain ⟨shares, kinds, rfl, exact, rfl, -⟩ :=
    all_exact enabled runs (Library.contents_path path)
  have puts (share : Share) (member : share ∈ shares) (value : String) :
      Contents.Puts share.events share.kind.settingKey value ↔
        written? library config share.kind (s.1 share.kind.settingKey) = some value := by
    obtain ⟨_, _, here⟩ := path.of_mem_flatMap member
    obtain ⟨_, events, -⟩ := Conduct.path_append.mp here
    exact (exact share member).course.puts_iff events value
  rw [← kinds, List.countP_map]
  constructor
  · refine List.forall_mem_map.mpr fun share member => ?_
    cases written : written? library config share.kind (s.1 share.kind.settingKey) with
    | none =>
        rw [settled_of_unwritten written]
        exact (exact share member).unwritten fun value put => by
          simpa [written] using (puts share member value).mp put
    | some value =>
        rw [settled_of_written written]
        exact (exact share member).written value ((puts share member value).mpr written)
  · refine List.countP_congr fun share member => ?_
    rw [(exact share member).restored_iff, Function.comp, Option.isSome_iff_exists]
    exact exists_congr (puts share member)

/-- A setting whose sound is there is left alone. -/
theorem all_keeps (runs : (all config).Runs t n) (path : library.serves.Path t s s')
    (holds : s.1 key = some raw) (there : isGone library raw = false) : s'.1 key = some raw := by
  by_cases enabled : config.enabled = true
  · by_cases slot : ∃ kind ∈ config.slots.kinds, key = kind.settingKey
    · obtain ⟨kind, member, rfl⟩ := slot
      rw [(all_settles enabled runs path).1 kind member, holds,
        settled_of_unwritten (written?_of_there there)]
    · rw [← holds]
      exact all_frame runs (Library.contents_path path) fun kind member same =>
        slot ⟨kind, member, same⟩
  · obtain ⟨rfl, -⟩ := all_disabled enabled runs
    rw [show s' = s from path, holds]

/-- What a pass leaves of the settings can be told from what they held. -/
theorem all_passed (runs : (all config).Runs t n) (path : library.serves.Path t s s') :
    s'.1 = passed library config s.1 := by
  by_cases enabled : config.enabled = true
  · funext key
    simp only [passed, enabled, if_true]
    cases found : config.slots.kinds.find? (·.settingKey == key) with
    | some kind =>
        have same := List.find?_some found
        obtain rfl := eq_of_beq same
        exact (all_settles enabled runs path).1 kind (List.mem_of_find?_eq_some found)
    | none =>
        refine all_frame runs (Library.contents_path path) fun kind member same => ?_
        simpa [same] using List.find?_eq_none.mp found kind member
  · obtain ⟨rfl, -⟩ := all_disabled enabled runs
    rw [show s' = s from path]
    funext key
    simp [passed, enabled]

/-- A second pass, from what the first has left, changes nothing. -/
theorem all_twice {u : Trace Resources} {n' : Nat} {s₁ s₂ : Contents × Table K}
    (runs : (all config).Runs t n) (path : library.serves.Path t s s')
    (runs' : (all config).Runs u n') (path' : library.serves.Path u s₁ s₂) (same : s₁.1 = s'.1) :
    s₂.1 = s'.1 := by
  rw [all_passed runs' path', same, all_passed runs path, passed_passed]

end Pass

end Restore
end AlertSound
