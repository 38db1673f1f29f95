import AlertSound.Proofs.Command.Completion
import AlertSound.Proofs.Command.Ending

/-!
The variables that restoring is set with. The options of a run take them first, as they stand,
and its configuration is resolved with what the options have taken. So a run takes what the
variables are resolved to, but only if they are UTF-8 and without blanks around it, and also the
initials of words, which are not resolved. The main statement says for which variables this
makes no difference.
-/
namespace AlertSound

namespace Environment

def without (env : Environment) (keys : List String) : Environment :=
  env.filter fun (key, _) => !keys.contains key

variable {env : Environment} {keys : List String} {key : String}

theorem raw?_without_of_mem (h : key ∈ keys) : (env.without keys).raw? key = none := by
  rw [raw?, List.lookup_eq_none_iff]
  intro entry kept
  have other : entry.1 ∉ keys := by simpa [without] using (List.mem_filter.mp kept).2
  exact bne_iff_ne.mpr fun same => other (same ▸ h)

theorem raw?_without_of_not_mem (h : key ∉ keys) : (env.without keys).raw? key = env.raw? key := by
  induction env with
  | nil => rfl
  | cons entry env ih =>
      obtain ⟨name, value⟩ := entry
      by_cases dropped : name ∈ keys
      · have other : (key == name) = false := beq_eq_false_iff_ne.mpr fun same => h (same ▸ dropped)
        simpa [without, raw?, List.lookup_cons, dropped, other] using ih
      · cases here : key == name with
        | true => simp [without, raw?, List.lookup_cons, dropped, here]
        | false => simpa [without, raw?, List.lookup_cons, dropped, here] using ih

theorem get?_of_raw? {value : Option SystemText} (h : env.raw? key = value) :
    env.get? key = value.bind SystemText.text? :=
  congrArg (Option.bind · SystemText.text?) h

end Environment

theorem Config.resolveBool_congr {env env' : Environment} {key : String} {option : Option Bool}
    {default : Bool} (h : env.get? key = env'.get? key) :
    resolveBool option key env default = resolveBool option key env' default := by
  simp only [resolveBool, h]

namespace Command

open Options

variable {env : Environment} {arguments : List SystemText} {directives : String} {tree : FileTree}
  {audio : Option Audio}

/-- What is read from the variables is not what makes a run ready. -/
theorem Options.ready_completed_iff {own : Options} {name : Option String} {switch : Option Bool}
    {count : Option UInt8} :
    (own.completed name switch count).Ready directives tree ↔ own.Ready directives tree := by
  have filter : (own.completed name switch count).filter directives = own.filter directives := by
    simp only [Options.filter, Options.completed]
  have needs : (own.completed name switch count).needs tree = own.needs tree := by
    simp only [Options.needs, Options.loadSettings, Options.completed]
  constructor <;> intro ready
  · exact ⟨filter ▸ ready.filter, ready.plays, needs ▸ ready.needs, ready.stream⟩
  · exact ⟨filter.symm ▸ ready.filter, ready.plays, needs.symm ▸ ready.needs, ready.stream⟩

/-- Where the switches are resolved, what is read of the slots decides. -/
theorem Options.Makes.config_completed {own : Options} (makes : Makes arguments own)
    (left : LeavesRestoring (scan arguments).1) {name : Option String} {switch : Option Bool}
    {count : Option UInt8} {allowRemote enabled : Bool}
    (remote : Config.resolveBool (if (own.completed name switch count).noRemote then some false
      else none) Config.allowRemoteKey env true = .ok allowRemote)
    (resolved : Config.resolveBool switch Config.customizedKey env false = .ok enabled) :
    (∀ slots, Config.resolveRestoreSlots count env = .ok slots →
      ∃ config, (own.completed name switch count).config env = .ok config) ∧
    ∀ e, Config.resolveRestoreSlots count env = .error e →
      (own.completed name switch count).config env = .error e := by
  obtain ⟨same, same'⟩ := makes.completed left name switch count
  have whole := config_of_switches remote (same.symm ▸ resolved)
  rwa [same'] at whole

def Bare (env : Environment) (key : String) : Prop :=
  ∀ value, env.raw? key = some value → ∃ text, value.text? = some text ∧ Text.trim text = text

/-- The switch of restoring is set to the initial of a word. -/
def Abbreviated (env : Environment) (enabled : Bool) : Prop :=
  ∃ raw, env.get? Config.customizedKey = some raw ∧ Text.lower raw ∈ initials enabled

/-- What a run takes the switch of restoring for: what it is resolved to, if it is a text without
blanks around it, and otherwise what its initial stands for. -/
def TakesSwitch (env : Environment) (enabled : Bool) : Prop :=
  Bare env Config.customizedKey ∧
    Config.resolveBool none Config.customizedKey env false = .ok enabled ∨ Abbreviated env enabled

def TakesSlots (env : Environment) (slots : RestoreSlots) : Prop :=
  Bare env Config.restoreSlotsKey ∧ Config.resolveRestoreSlots none env = .ok slots

/-- A switch is taken if and only if it is resolved with what the options have read. -/
theorem takesSwitch_iff {enabled : Bool} : TakesSwitch env enabled ↔ ∃ switch,
    readVariable .soundCustomized bool? (env.raw? Config.customizedKey) = .ok switch ∧
      Config.resolveBool switch Config.customizedKey env false = .ok enabled := by
  unfold TakesSwitch Bare Abbreviated
  cases set : env.raw? Config.customizedKey with
  | none => simp [readVariable, Environment.get?_of_raw? set]
  | some value =>
      have known := Environment.get?_of_raw? set
      cases legible : value.text? with
      | none => simp [known, legible, readVariable, SystemText.read?]
      | some raw =>
          rw [Option.bind_some, legible] at known
          simp only [known, legible, Option.some.injEq, forall_eq', exists_eq_left',
            Config.resolveBool_eq_ok_iff known, ← bool?_iff_trimmed, readVariable, SystemText.read?,
            Option.bind_some]
          cases read : bool? raw with
          | none => simp
          | some value => simp [Config.resolveBool]

theorem takesSlots_iff {slots : RestoreSlots} : TakesSlots env slots ↔ ∃ count,
    readVariable .restoreSlots byte? (env.raw? Config.restoreSlotsKey) = .ok count ∧
      Config.resolveRestoreSlots count env = .ok slots := by
  unfold TakesSlots Bare
  cases set : env.raw? Config.restoreSlotsKey with
  | none => simp [readVariable]
  | some value =>
      have known := Environment.get?_of_raw? set
      cases legible : value.text? with
      | none => simp [legible, readVariable, SystemText.read?]
      | some raw =>
          rw [Option.bind_some, legible] at known
          simp only [legible, Option.some.injEq, forall_eq', exists_eq_left',
            Config.resolveRestoreSlots_eq_ok_iff known, ← byte?_iff_trimmed, readVariable,
            SystemText.read?, Option.bind_some]
          cases read : byte? raw with
          | none => simp
          | some value =>
              simp only [Option.some.injEq, Except.ok.injEq, exists_eq_left',
                Config.resolveRestoreSlots, RestoreSlots.new_eq_ok_iff]
              exact and_congr_left fun _ => ⟨fun same => same ▸ rfl, fun same => same ▸ rfl⟩

/-- An initial is no word, so that a switch that is set to one is not resolved. -/
theorem Abbreviated.unresolved {enabled enabled' : Bool} (h : Abbreviated env enabled) :
    Config.resolveBool none Config.customizedKey env false ≠ .ok enabled' := by
  obtain ⟨raw, set, initial⟩ := h
  rw [Ne, Config.resolveBool_eq_ok_iff set, Text.trim_of_solid_lower (solid_initials initial)]
  exact not_mem_words initial enabled'

/-- What the options read of the switch is resolved, or it is not read. -/
theorem switch_cases (env : Environment) :
    (∃ switch enabled, readVariable .soundCustomized bool? (env.raw? Config.customizedKey) =
        .ok switch ∧ Config.resolveBool switch Config.customizedKey env false = .ok enabled) ∨
      ∃ raw, env.raw? Config.customizedKey = some raw ∧
        readVariable .soundCustomized bool? (env.raw? Config.customizedKey) =
          .error (.misuse (.invalidValue .soundCustomized raw)) := by
  cases set : env.raw? Config.customizedKey with
  | none =>
      exact .inl ⟨none, false, rfl, Config.resolveBool_of_unset (Environment.get?_of_raw? set)⟩
  | some raw =>
      cases read : raw.read? bool? with
      | none => exact .inr ⟨raw, rfl, readVariable_none read⟩
      | some enabled =>
          exact .inl ⟨_, enabled, readVariable_some read, by simp [Config.resolveBool]⟩

/-- What the options read of the slots is resolved, or it is no number of slots, or it is not
read. -/
theorem count_cases (env : Environment) :
    (∃ count slots, readVariable .restoreSlots byte? (env.raw? Config.restoreSlotsKey) =
        .ok count ∧ Config.resolveRestoreSlots count env = .ok slots) ∨
      (∃ raw count, env.raw? Config.restoreSlotsKey = some raw ∧ raw.read? byte? = some count ∧
        readVariable .restoreSlots byte? (env.raw? Config.restoreSlotsKey) = .ok (some count) ∧
          Config.resolveRestoreSlots (some count) env = .error (.restoreSlots count)) ∨
      ∃ raw, env.raw? Config.restoreSlotsKey = some raw ∧
        readVariable .restoreSlots byte? (env.raw? Config.restoreSlotsKey) =
          .error (.misuse (.invalidValue .restoreSlots raw)) := by
  cases set : env.raw? Config.restoreSlotsKey with
  | none =>
      exact .inl ⟨none, _, rfl, Config.resolveRestoreSlots_of_unset (Environment.get?_of_raw? set)⟩
  | some raw =>
      cases read : raw.read? byte? with
      | none => exact .inr (.inr ⟨raw, rfl, readVariable_none read⟩)
      | some count =>
          cases made : RestoreSlots.new count with
          | ok slots =>
              exact .inl ⟨_, slots, readVariable_some read,
                by simp [Config.resolveRestoreSlots, made]⟩
          | error e =>
              cases RestoreSlots.eq_of_new_eq_error made
              exact .inr (.inl ⟨raw, count, rfl, read, readVariable_some read,
                by simp [Config.resolveRestoreSlots, made]⟩)

def RunsWith (arguments : List SystemText) (env : Environment) (config : Config) : Prop :=
  ∃ options, ofArguments arguments env = .ok options ∧ options.config env = .ok config

theorem RunsWith.takes {config : Config} (left : LeavesRestoring (scan arguments).1)
    (h : RunsWith arguments env config) :
    TakesSwitch env config.restore.enabled ∧ TakesSlots env config.restore.slots := by
  obtain ⟨options, made, resolved⟩ := h
  obtain ⟨own, makes⟩ := exists_makes left made
  rw [ofArguments_of_makes makes left] at made
  obtain ⟨enabled, readSwitch, made⟩ := of_bind_ok made
  obtain ⟨name, -, made⟩ := of_bind_ok made
  obtain ⟨slots, readCount, made⟩ := of_bind_ok made
  cases made
  obtain ⟨-, resolvedSwitch, resolvedSlots⟩ := config_eq_ok resolved
  obtain ⟨switch, count⟩ := makes.completed left name enabled slots
  rw [switch] at resolvedSwitch
  rw [count] at resolvedSlots
  exact ⟨takesSwitch_iff.mpr ⟨_, readSwitch, resolvedSwitch⟩,
    takesSlots_iff.mpr ⟨_, readCount, resolvedSlots⟩⟩

theorem run_of_ok {options : Options} (made : ofArguments arguments env = .ok options) :
    run arguments env directives tree audio = options.run env directives tree audio := by
  simp only [run, made]

theorem runsWith_of_done (done : (run arguments env directives tree audio).ending = .done) :
    ∃ config, RunsWith arguments env config := by
  cases made : ofArguments arguments env with
  | error stop => simp [run, made] at done
  | ok options =>
      rw [run_of_ok made] at done
      obtain ⟨-, config, resolved⟩ := run_eq_done_iff.mp done
      exact ⟨config, options, made, resolved⟩

def restoringKeys : List String := [Config.customizedKey, Config.restoreSlotsKey]

/-- Everything else is valid: where the variables of restoring are not set, the run ends well. -/
def OtherwiseValid (arguments : List SystemText) (env : Environment) (directives : String)
    (tree : FileTree) (audio : Option Audio) : Prop :=
  (run arguments (env.without restoringKeys) directives tree audio).ending = .done

instance OtherwiseValid.decidable (arguments : List SystemText) (env : Environment)
    (directives : String) (tree : FileTree) (audio : Option Audio) :
    Decidable (OtherwiseValid arguments env directives tree audio) :=
  inferInstanceAs (Decidable (_ = Ending.done))

inductive Refuses (env : Environment) : Ending → Prop where
  | switch {raw : SystemText} (set : env.raw? Config.customizedKey = some raw)
      (untaken : ∀ enabled, ¬TakesSwitch env enabled) :
      Refuses env (.stopped (.misuse (.invalidValue .soundCustomized raw)))
  | count {raw : SystemText} (set : env.raw? Config.restoreSlotsKey = some raw)
      (untaken : ∀ slots, ¬TakesSlots env slots) :
      Refuses env (.stopped (.misuse (.invalidValue .restoreSlots raw)))
  | slots {raw : SystemText} {count : UInt8} (set : env.raw? Config.restoreSlotsKey = some raw)
      (read : raw.read? byte? = some count) (untaken : ∀ slots, ¬TakesSlots env slots) :
      Refuses env (.failed ⟨(ConfigError.restoreSlots count).message, []⟩)

namespace Refuses

variable {ending : Ending}

theorem ne_done (h : Refuses env ending) : ending ≠ .done := by
  cases h <;> simp

theorem untaken (h : Refuses env ending) :
    ¬((∃ enabled, TakesSwitch env enabled) ∧ ∃ slots, TakesSlots env slots) := by
  rintro ⟨⟨enabled, switch⟩, slots, count⟩
  cases h with
  | switch _ untaken => exact untaken enabled switch
  | count _ untaken | slots _ _ untaken => exact untaken slots count

end Refuses

theorem exists_error_iff {ε α : Type} {result : Except ε α} :
    (∃ e, result = .error e) ↔ ¬∃ a, result = .ok a := by
  cases result <;> simp

/-- The run reads the variables of restoring as they are resolved: it has the switch and the slots
that they are resolved to, and it does not end well exactly if one of them is not resolved. -/
structure ReadAsResolved (arguments : List SystemText) (env : Environment) (directives : String)
    (tree : FileTree) (audio : Option Audio) : Prop where
  meaning : ∀ config, RunsWith arguments env config →
    Config.resolveBool none Config.customizedKey env false = .ok config.restore.enabled ∧
      Config.resolveRestoreSlots none env = .ok config.restore.slots
  refusal : (run arguments env directives tree audio).ending ≠ .done ↔
    (∃ e, Config.resolveBool none Config.customizedKey env false = .error e) ∨
      ∃ e, Config.resolveRestoreSlots none env = .error e

namespace OtherwiseValid

/-- The name of a file is read, and whatever is read from the other variables, the run is ready and
the remote player is switched on or off. -/
theorem ready (valid : OtherwiseValid arguments env directives tree audio)
    (left : LeavesRestoring (scan arguments).1) :
    ∃ own name, Makes arguments own ∧ readVariable .defaultRingtone some
        (standIn? (scan arguments).1 env .defaultRingtone) = .ok name ∧ ∀ switch count,
      (own.completed name switch count).Ready directives tree ∧ ∃ allowRemote,
        Config.resolveBool (if (own.completed name switch count).noRemote then some false else none)
          Config.allowRemoteKey env true = .ok allowRemote := by
  have unset : (env.without restoringKeys).raw? Config.customizedKey = none :=
    Environment.raw?_without_of_mem (by decide)
  have unset' : (env.without restoringKeys).raw? Config.restoreSlotsKey = none :=
    Environment.raw?_without_of_mem (by decide)
  have kept {key : String} (other : key ∉ restoringKeys) :
      (env.without restoringKeys).raw? key = env.raw? key :=
    Environment.raw?_without_of_not_mem other
  have named : standIn? (scan arguments).1 (env.without restoringKeys) .defaultRingtone =
      standIn? (scan arguments).1 env .defaultRingtone := by
    have name : (env.without restoringKeys).raw? (Config.fileNameKey (.ringtone 0)) =
        env.raw? (Config.fileNameKey (.ringtone 0)) := kept (by decide +kernel)
    simp only [standIn?, Parameter.environmentKey?, Option.bind_some, name]
  unfold OtherwiseValid run at valid
  split at valid
  · cases valid
  · rename_i options made
    obtain ⟨own, makes⟩ := exists_makes left made
    rw [ofArguments_of_makes makes left, unset, unset', named] at made
    obtain ⟨_, -, made⟩ := of_bind_ok made
    obtain ⟨name, readName, made⟩ := of_bind_ok made
    obtain ⟨_, -, made⟩ := of_bind_ok made
    cases made
    obtain ⟨ready, config, resolved⟩ := run_eq_done_iff.mp valid
    have remote := (config_eq_ok resolved).1
    have same := Environment.get?_of_raw? (@kept Config.allowRemoteKey (by decide))
    rw [Config.resolveBool_congr same] at remote
    exact ⟨own, name, makes, readName, fun _ _ =>
      ⟨ready_completed_iff.mpr (ready_completed_iff.mp ready), _, remote⟩⟩

/-- The run takes the variables and ends well, or it refuses one of them. -/
theorem ending_cases (valid : OtherwiseValid arguments env directives tree audio)
    (left : LeavesRestoring (scan arguments).1) :
    ((run arguments env directives tree audio).ending = .done ∧
        (∃ enabled, TakesSwitch env enabled) ∧ ∃ slots, TakesSlots env slots) ∨
      Refuses env (run arguments env directives tree audio).ending := by
  obtain ⟨own, name, makes, readName, ready⟩ := OtherwiseValid.ready valid left
  have made : ofArguments arguments env = _ := ofArguments_of_makes makes left
  rw [readName] at made
  -- the switch is read first, and a count that is read may still be no number of slots
  obtain ⟨switch, enabled, readSwitch, resolved⟩ | ⟨raw, set, failed⟩ := switch_cases env
  · obtain ⟨count, slots, readCount, resolved'⟩ | ⟨raw, count, set, read, readCount, unusable⟩ |
      ⟨raw, set, failed⟩ := count_cases env
    · left
      refine ⟨?_, ⟨enabled, takesSwitch_iff.mpr ⟨_, readSwitch, resolved⟩⟩, slots,
        takesSlots_iff.mpr ⟨_, readCount, resolved'⟩⟩
      rw [readSwitch, readCount] at made
      obtain ⟨ready, allowRemote, remote⟩ := ready switch count
      rw [run_of_ok made, run_eq_done_iff]
      exact ⟨ready, (makes.config_completed left remote resolved).1 slots resolved'⟩
    · right
      have untaken (slots : RestoreSlots) : ¬TakesSlots env slots := by
        simp [takesSlots_iff, readCount, unusable]
      rw [readSwitch, readCount] at made
      obtain ⟨ready, allowRemote, remote⟩ := ready switch (some count)
      have failed := (makes.config_completed left remote resolved).2 _ unusable
      rw [run_of_ok made, run_of_unresolved ready failed]
      exact .slots set read untaken
    · right
      have untaken (slots : RestoreSlots) : ¬TakesSlots env slots := by
        simp [takesSlots_iff, failed]
      rw [readSwitch, failed] at made
      simp only [run, made]
      exact .count set untaken
  · right
    have untaken (enabled : Bool) : ¬TakesSwitch env enabled := by
      simp [takesSwitch_iff, failed]
    rw [failed] at made
    simp only [run, made]
    exact .switch set untaken

theorem done_iff (valid : OtherwiseValid arguments env directives tree audio)
    (left : LeavesRestoring (scan arguments).1) :
    (run arguments env directives tree audio).ending = .done ↔
      (∃ enabled, TakesSwitch env enabled) ∧ ∃ slots, TakesSlots env slots := by
  obtain ⟨done, taken⟩ | refuses := ending_cases valid left
  · exact iff_of_true done taken
  · exact iff_of_false refuses.ne_done refuses.untaken

/-- Three ways lead away from what is resolved: blanks around what is resolved nevertheless, bytes
that are no text and count as unset, and an initial, which is not resolved. -/
theorem readAsResolved_iff (valid : OtherwiseValid arguments env directives tree audio)
    (left : LeavesRestoring (scan arguments).1) :
    ReadAsResolved arguments env directives tree audio ↔
      (∀ enabled slots, Config.resolveBool none Config.customizedKey env false = .ok enabled →
        Config.resolveRestoreSlots none env = .ok slots →
          Bare env Config.customizedKey ∧ Bare env Config.restoreSlotsKey) ∧
      ∀ enabled slots, Abbreviated env enabled → ¬TakesSlots env slots := by
  have done := done_iff valid left
  constructor
  · intro read
    have refused := read.refusal
    rw [exists_error_iff, exists_error_iff, ← not_and_or, not_iff_not, done] at refused
    refine ⟨fun enabled slots resolved resolved' => ?_, fun enabled slots initial taken => ?_⟩
    -- both are resolved, so that the run ends well and has taken them, and not for an initial
    · obtain ⟨⟨_, ⟨bare, -⟩ | initial⟩, _, bare', -⟩ := refused.mpr ⟨⟨_, resolved⟩, _, resolved'⟩
      · exact ⟨bare, bare'⟩
      · exact absurd resolved initial.unresolved
    -- an initial and slots that are taken end the run well, with a switch that is not resolved
    · obtain ⟨⟨_, resolved⟩, -⟩ := refused.mp ⟨⟨enabled, .inr initial⟩, slots, taken⟩
      exact initial.unresolved resolved
  · rintro ⟨bare, full⟩
    have meaning {enabled slots} (taken : TakesSwitch env enabled) (taken' : TakesSlots env slots) :
        Config.resolveBool none Config.customizedKey env false = .ok enabled ∧
          Config.resolveRestoreSlots none env = .ok slots := by
      obtain ⟨-, resolved⟩ | initial := taken
      · exact ⟨resolved, taken'.2⟩
      · exact absurd taken' (full enabled slots initial)
    refine ⟨fun config runs => ?_, ?_⟩
    · obtain ⟨taken, taken'⟩ := runs.takes left
      exact meaning taken taken'
    · rw [exists_error_iff, exists_error_iff, ← not_and_or, not_iff_not, done]
      constructor
      · rintro ⟨⟨enabled, taken⟩, slots, taken'⟩
        obtain ⟨resolved, resolved'⟩ := meaning taken taken'
        exact ⟨⟨enabled, resolved⟩, slots, resolved'⟩
      · rintro ⟨⟨enabled, resolved⟩, slots, resolved'⟩
        obtain ⟨bare, bare'⟩ := bare enabled slots resolved resolved'
        exact ⟨⟨enabled, .inl ⟨bare, resolved⟩⟩, slots, bare', resolved'⟩

end OtherwiseValid

/-- What a run makes of the variables of restoring, where no argument gives what they stand in
for. Whatever else is wrong, a configuration that a run has is made of what it takes the variables
for. If everything else is valid, the run ends well and has a configuration if and only if it takes
both variables, and otherwise it refuses one of them. It then reads them as they are resolved,
unless both are resolved and one of them is no text or has blanks around it, or the switch is set
to the initial of a word and the slots are taken. -/
theorem read_as_resolved_iff (arguments : List SystemText) (env : Environment)
    (directives : String) (tree : FileTree) (audio : Option Audio)
    (left : LeavesRestoring (scan arguments).1) :
    (∀ config, RunsWith arguments env config →
      TakesSwitch env config.restore.enabled ∧ TakesSlots env config.restore.slots) ∧
    (OtherwiseValid arguments env directives tree audio →
      ((run arguments env directives tree audio).ending = .done ↔
        (∃ enabled, TakesSwitch env enabled) ∧ ∃ slots, TakesSlots env slots) ∧
      ((run arguments env directives tree audio).ending = .done →
        ∃ config, RunsWith arguments env config) ∧
      ((run arguments env directives tree audio).ending ≠ .done →
        Refuses env (run arguments env directives tree audio).ending) ∧
      (ReadAsResolved arguments env directives tree audio ↔
        (∀ enabled slots, Config.resolveBool none Config.customizedKey env false = .ok enabled →
          Config.resolveRestoreSlots none env = .ok slots →
            Bare env Config.customizedKey ∧ Bare env Config.restoreSlotsKey) ∧
        ∀ enabled slots, Abbreviated env enabled → ¬TakesSlots env slots)) := by
  refine ⟨fun config runs => runs.takes left, fun valid => ⟨valid.done_iff left,
    runsWith_of_done, fun refused => ?_, valid.readAsResolved_iff left⟩⟩
  obtain ⟨done, -⟩ | refuses := valid.ending_cases left
  · exact absurd done refused
  · exact refuses

def titleArguments : List SystemText := ["--sound", "/a b", "--title-only", "--log-level", "off"]

def restoringVariables (switch count : String) : Environment :=
  [(Config.customizedKey, switch), (Config.restoreSlotsKey, count)]

theorem raw?_restoringVariables (switch count : String) :
    (restoringVariables switch count).raw? Config.customizedKey = some switch ∧
      (restoringVariables switch count).raw? Config.restoreSlotsKey = some count := by
  have other : (Config.restoreSlotsKey == Config.customizedKey) = false := by decide +kernel
  simp [restoringVariables, Environment.raw?, List.lookup_cons, other]

theorem get?_restoringVariables (switch count : String) :
    (restoringVariables switch count).get? Config.customizedKey = some switch ∧
      (restoringVariables switch count).get? Config.restoreSlotsKey = some count := by
  obtain ⟨set, set'⟩ := raw?_restoringVariables switch count
  simp [Environment.get?, set, set']

def garbledVariables : Environment := [(Config.customizedKey, ⟨[0xff]⟩)]

/-- Words in capitals, and numbers with a sign and zeros before them, are read as they are
resolved. -/
theorem read_as_resolved_iff_spelled :
    ReadAsResolved titleArguments (restoringVariables "YES" "+03") "" .empty none ∧
      ∃ config, RunsWith titleArguments (restoringVariables "YES" "+03") config ∧
        config.restore.enabled = true ∧ config.restore.slots = ⟨3⟩ := by
  obtain ⟨raw, raw'⟩ := raw?_restoringVariables "YES" "+03"
  obtain ⟨set, set'⟩ := get?_restoringVariables "YES" "+03"
  have left : LeavesRestoring (scan titleArguments).1 := by decide +kernel
  have valid : OtherwiseValid titleArguments (restoringVariables "YES" "+03") "" .empty none := by
    decide +kernel
  have bare : Bare (restoringVariables "YES" "+03") Config.customizedKey := fun value same => by
    cases raw.symm.trans same
    exact ⟨"YES", SystemText.text?_ofText _, by decide +kernel⟩
  have bare' : Bare (restoringVariables "YES" "+03") Config.restoreSlotsKey := fun value same => by
    cases raw'.symm.trans same
    exact ⟨"+03", SystemText.text?_ofText _, by decide +kernel⟩
  have resolved : Config.resolveBool none Config.customizedKey (restoringVariables "YES" "+03")
      false = .ok true := (Config.resolveBool_eq_ok_iff set).mpr (by decide +kernel)
  have resolved' : Config.resolveRestoreSlots none (restoringVariables "YES" "+03") = .ok ⟨3⟩ :=
    (Config.resolveRestoreSlots_eq_ok_iff set').mpr ⟨by decide +kernel, by decide, by decide⟩
  obtain ⟨-, all⟩ := read_as_resolved_iff _ (restoringVariables "YES" "+03") "" .empty none left
  obtain ⟨done, runs, -, iff⟩ := all valid
  have read := iff.mpr ⟨fun _ _ _ _ => ⟨bare, bare'⟩,
    fun _ _ initial => absurd resolved initial.unresolved⟩
  obtain ⟨config, runs⟩ := runs (done.mpr ⟨⟨_, .inl ⟨bare, resolved⟩⟩, _, bare', resolved'⟩)
  obtain ⟨enabled, slots⟩ := read.meaning config runs
  exact ⟨read, config, runs, Except.ok.inj (enabled.symm.trans resolved),
    Except.ok.inj (slots.symm.trans resolved')⟩

/-- A word with a blank before it is resolved and refused all the same, an initial is not resolved
and taken all the same, and what is no text is refused but resolved as if it were not there. -/
theorem blanks_refused :
    (Config.resolveBool none Config.customizedKey (restoringVariables " true" "3") false =
        .ok true ∧
      Config.resolveRestoreSlots none (restoringVariables " true" "3") = .ok ⟨3⟩ ∧
      OtherwiseValid titleArguments (restoringVariables " true" "3") "" .empty none ∧
      (run titleArguments (restoringVariables " true" "3") "" .empty).code = 2 ∧
      ¬ReadAsResolved titleArguments (restoringVariables " true" "3") "" .empty none) ∧
    ((∀ enabled, Config.resolveBool none Config.customizedKey (restoringVariables "y" "3") false ≠
        .ok enabled) ∧
      (run titleArguments (restoringVariables "y" "3") "" .empty).ending = .done) ∧
    Config.resolveBool none Config.customizedKey garbledVariables false = .ok false ∧
      (run titleArguments garbledVariables "" .empty).code = 2 := by
  obtain ⟨set, set'⟩ := get?_restoringVariables " true" "3"
  have resolved : Config.resolveBool none Config.customizedKey (restoringVariables " true" "3")
      false = .ok true := (Config.resolveBool_eq_ok_iff set).mpr (by decide +kernel)
  have resolved' : Config.resolveRestoreSlots none (restoringVariables " true" "3") = .ok ⟨3⟩ :=
    (Config.resolveRestoreSlots_eq_ok_iff set').mpr ⟨by decide +kernel, by decide, by decide⟩
  have code : (run titleArguments (restoringVariables " true" "3") "" .empty).code = 2 := by
    decide +kernel
  have refused : (run titleArguments (restoringVariables " true" "3") "" .empty).ending ≠
      .done := by
    intro done
    simp [Outcome.code, done, Ending.code] at code
  have initial : Abbreviated (restoringVariables "y" "3") true :=
    ⟨"y", (get?_restoringVariables "y" "3").1, by decide +kernel⟩
  have garbled : garbledVariables.get? Config.customizedKey = none := by decide +kernel
  refine ⟨⟨resolved, resolved', by decide +kernel, code, fun read => ?_⟩,
    ⟨fun _ => initial.unresolved, by decide +kernel⟩,
    Config.resolveBool_of_unset garbled, by decide +kernel⟩
  obtain ⟨_, failed⟩ | ⟨_, failed⟩ := read.refusal.mp refused
  · cases resolved.symm.trans failed
  · cases resolved'.symm.trans failed

end Command
end AlertSound
