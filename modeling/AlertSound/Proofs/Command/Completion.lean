import AlertSound.Proofs.Command.Spelling
import AlertSound.Proofs.Command.Writing

/-!
How options are completed from variables. A parameter that no argument gives may still be read
from its variable. Where no argument gives a parameter of restoring, the options are those of the
arguments alone, completed with what is read from the two variables of restoring, and with the
name of a shipped file, which is any text. If a variable is set to what cannot be read, there are
no options.
-/
namespace AlertSound.Command.Options

variable {α : Type} {options options' own : Options} {p : Parameter}

def readVariable (p : Parameter) (read : String → Option α) :
    Option SystemText → Except Stop (Option α)
  | none => .ok none
  | some raw =>
    match raw.read? read with
    | some value => .ok (some value)
    | none => .error (.misuse (.invalidValue p raw))

section ReadVariable

variable {read : String → Option α} {raw : SystemText}

theorem readVariable_some {a : α} (h : raw.read? read = some a) :
    readVariable p read (some raw) = .ok (some a) := by
  simp [readVariable, h]

theorem readVariable_none (h : raw.read? read = none) :
    readVariable p read (some raw) = .error (.misuse (.invalidValue p raw)) := by
  simp [readVariable, h]

end ReadVariable

section Take

/-- A field that only one parameter sets is left as it was where that parameter is not given. -/
theorem take_field (get : Options → α) (p : Parameter)
    (switches : ∀ options s, get (turnOn options s) = get options)
    (others : ∀ options q value options', q ≠ p → set? options q value = some options' →
      get options' = get options)
    {seen : List String} {given : List Given} (absent : ∀ g ∈ given, g.name ≠ p.name)
    (taken : take seen options given = .ok options') : get options' = get options := by
  -- on what is given, for all that has been seen and taken before
  induction given generalizing seen options with
  | nil =>
      cases taken
      rfl
  | cons g rest ih =>
      obtain ⟨other, further⟩ := List.forall_mem_cons.mp absent
      unfold take at taken
      split at taken
      · cases taken
      · split at taken
        · exact (ih further taken).trans (switches options _)
        · rename_i q value _
          obtain ⟨next, set, taken⟩ := of_bind_ok taken
          unfold setOrStop at set
          split at set
          · rename_i given
            cases set
            have distinct : q ≠ p := fun same => other (congrArg Parameter.name same)
            exact (ih further taken).trans (others options q value _ distinct given)
          · cases set

/-- Restoring is set with parameters of its own. -/
theorem set?_of_ne {q : Parameter} {value : SystemText}
    (set : options.set? q value = some options') :
    (q ≠ .soundCustomized → options'.soundCustomized = options.soundCustomized) ∧
      (q ≠ .restoreSlots → options'.restoreSlots = options.restoreSlots) := by
  cases q with
  | soundCustomized =>
      obtain ⟨_, -, rfl⟩ := Option.map_eq_some_iff.mp set
      exact ⟨fun other => absurd rfl other, fun _ => rfl⟩
  | restoreSlots =>
      obtain ⟨_, -, rfl⟩ := Option.map_eq_some_iff.mp set
      exact ⟨fun _ => rfl, fun other => absurd rfl other⟩
  | sound | internalDir | externalDir | settings | assetDir | fallbackAsset | volume | streamType
  | defaultRingtone | outputDevice | playMs | logLevel =>
      obtain ⟨_, -, rfl⟩ := Option.map_eq_some_iff.mp set
      exact ⟨fun _ => rfl, fun _ => rfl⟩

theorem turnOn_restoring (s : Switch) :
    (options.turnOn s).soundCustomized = options.soundCustomized ∧
      (options.turnOn s).restoreSlots = options.restoreSlots := by
  cases s <;> exact ⟨rfl, rfl⟩

end Take

def LeavesRestoring (given : List Given) : Prop :=
  ∀ g ∈ given, g.name ≠ Parameter.soundCustomized.name ∧ g.name ≠ Parameter.restoreSlots.name

instance LeavesRestoring.decidable (given : List Given) : Decidable (LeavesRestoring given) :=
  inferInstanceAs (Decidable (∀ g ∈ given, _))

/-- The variable that stands in for a parameter, unless this is given. -/
def standIn? (given : List Given) (env : Environment) (p : Parameter) : Option SystemText :=
  if given.any (·.name == p.name) then none else p.environmentKey?.bind env.raw?

def completed (options : Options) (name : Option String) (switch : Option Bool)
    (count : Option UInt8) : Options :=
  { options with
    defaultRingtone := name <|> options.defaultRingtone
    soundCustomized := switch <|> options.soundCustomized
    restoreSlots := count <|> options.restoreSlots }

section TakeVariables

variable {given : List Given} {env : Environment} {rest : List Parameter}

theorem standIn?_eq (absent : ∀ g ∈ given, g.name ≠ p.name) :
    standIn? given env p = p.environmentKey?.bind env.raw? := by
  have absent : given.any (·.name == p.name) = false := by
    simpa [List.any_eq_false] using absent
  simp [standIn?, absent]

theorem takeVariables_append {ps : List Parameter} (h : ∀ p ∈ ps, p.environmentKey? = none) :
    takeVariables given env options (ps ++ rest) = takeVariables given env options rest := by
  induction ps with
  | nil => rfl
  | cons p ps ih =>
      obtain ⟨none, further⟩ := List.forall_mem_cons.mp h
      simpa [takeVariables, none] using ih further

theorem takeVariables_cons {read : String → Option α} {put : α → Options}
    (sets : ∀ value, options.set? p value = (value.read? read).map put) :
    takeVariables given env options (p :: rest) =
      readVariable p read (standIn? given env p) >>= fun value =>
        takeVariables given env (value.elim options put) rest := by
  change (match standIn? given env p with
    | none => takeVariables given env options rest
    | some value => options.setOrStop p value >>= fun options =>
        takeVariables given env options rest) = _
  cases standIn? given env p with
  | none => rfl
  | some raw =>
      cases read : raw.read? read <;> simp [setOrStop, sets, readVariable, read] <;> rfl

theorem takeVariables_switch (left : LeavesRestoring given) :
    takeVariables given env options (.soundCustomized :: rest) =
      readVariable .soundCustomized bool? (env.raw? Config.customizedKey) >>= fun switch =>
        takeVariables given env (options.completed none switch none) rest := by
  rw [takeVariables_cons fun _ => rfl, standIn?_eq fun g hg => (left g hg).1]
  congr
  funext switch
  cases switch <;> rfl

theorem takeVariables_count (left : LeavesRestoring given) :
    takeVariables given env options (.restoreSlots :: rest) =
      readVariable .restoreSlots byte? (env.raw? Config.restoreSlotsKey) >>= fun count =>
        takeVariables given env (options.completed none none count) rest := by
  rw [takeVariables_cons fun _ => rfl, standIn?_eq fun g hg => (left g hg).2]
  congr
  funext count
  cases count <;> rfl

theorem takeVariables_name : takeVariables given env options (.defaultRingtone :: rest) =
    readVariable .defaultRingtone some (standIn? given env .defaultRingtone) >>= fun name =>
      takeVariables given env (options.completed name none none) rest := by
  have sets (value : SystemText) : options.set? .defaultRingtone value =
      (value.read? some).map fun name => { options with defaultRingtone := some name } := by
    simp [set?, SystemText.read?]
  rw [takeVariables_cons sets]
  congr
  funext name
  cases name <;> rfl

theorem takeVariables_all (left : LeavesRestoring given) :
    takeVariables given env options Parameter.all = do
      let switch ← readVariable .soundCustomized bool? (env.raw? Config.customizedKey)
      let name ← readVariable .defaultRingtone some (standIn? given env .defaultRingtone)
      let count ← readVariable .restoreSlots byte? (env.raw? Config.restoreSlotsKey)
      return options.completed name switch count := by
  have parts : Parameter.all = [.sound, .internalDir, .externalDir, .settings, .assetDir,
      .fallbackAsset, .volume, .streamType] ++ .soundCustomized :: .defaultRingtone ::
        .restoreSlots :: ([.outputDevice, .playMs, .logLevel] ++ []) := rfl
  have last (options : Options) : takeVariables given env options
      ([.outputDevice, .playMs, .logLevel] ++ []) = .ok options :=
    takeVariables_append (by decide)
  -- only three parameters have a variable
  rw [parts, takeVariables_append (by decide), takeVariables_switch left]
  simp only [takeVariables_name, takeVariables_count left, last]
  rfl

end TakeVariables

section OfArguments

variable {arguments : List SystemText} {env : Environment}

/-- The arguments alone make these options, and there is a sound among them, unless the devices
are to be listed. -/
structure Makes (arguments : List SystemText) (own : Options) : Prop where
  taken : take [] ordinary (scan arguments).1 = .ok own
  readOn : (scan arguments).2 = none
  enough : (own.sound.isNone && !own.listDevices) = false

theorem Makes.unset (makes : Makes arguments own) (left : LeavesRestoring (scan arguments).1) :
    own.soundCustomized = none ∧ own.restoreSlots = none :=
  ⟨take_field soundCustomized .soundCustomized (fun _ _ => (turnOn_restoring _).1)
      (fun _ _ _ _ other set => (set?_of_ne set).1 other) (fun g hg => (left g hg).1) makes.taken,
    take_field restoreSlots .restoreSlots (fun _ _ => (turnOn_restoring _).2)
      (fun _ _ _ _ other set => (set?_of_ne set).2 other) (fun g hg => (left g hg).2) makes.taken⟩

/-- What is read from the variables of restoring is what the options have. -/
theorem Makes.completed (makes : Makes arguments own) (left : LeavesRestoring (scan arguments).1)
    (name : Option String) (switch : Option Bool) (count : Option UInt8) :
    (own.completed name switch count).soundCustomized = switch ∧
      (own.completed name switch count).restoreSlots = count := by
  obtain ⟨unset, unset'⟩ := makes.unset left
  simp [Options.completed, unset, unset']

theorem ofArguments_of_makes (makes : Makes arguments own)
    (left : LeavesRestoring (scan arguments).1) : ofArguments arguments env = do
      let switch ← readVariable .soundCustomized bool? (env.raw? Config.customizedKey)
      let name ← readVariable .defaultRingtone some
        (standIn? (scan arguments).1 env .defaultRingtone)
      let count ← readVariable .restoreSlots byte? (env.raw? Config.restoreSlotsKey)
      return own.completed name switch count := by
  simp only [ofArguments, makes.taken, makes.readOn, takeVariables_all left]
  cases readVariable .soundCustomized bool? (env.raw? Config.customizedKey) with
  | error _ => rfl
  | ok switch =>
      cases readVariable .defaultRingtone some
          (standIn? (scan arguments).1 env .defaultRingtone) with
      | error _ => rfl
      | ok name =>
          cases readVariable .restoreSlots byte? (env.raw? Config.restoreSlotsKey) with
          | error _ => rfl
          | ok count => exact if_neg (Bool.not_eq_true _ ▸ makes.enough)

theorem exists_makes (left : LeavesRestoring (scan arguments).1)
    (h : ofArguments arguments env = .ok options) : ∃ own, Makes arguments own := by
  obtain ⟨own, taken, h⟩ := of_bind_ok h
  split at h
  · cases h
  · rename_i readOn
    obtain ⟨whole, all, h⟩ := of_bind_ok h
    rw [takeVariables_all left] at all
    obtain ⟨switch, -, all⟩ := of_bind_ok all
    obtain ⟨name, -, all⟩ := of_bind_ok all
    obtain ⟨count, -, all⟩ := of_bind_ok all
    cases all
    split at h
    · cases h
    · rename_i enough
      exact ⟨own, taken, readOn, Bool.not_eq_true _ ▸ enough⟩

end OfArguments

end AlertSound.Command.Options
