import AlertSound.Proofs.Command.Writing

/-!
When a run ends well. It does if its log level, its sound, its settings, its stream number and
its configuration are valid, and if it is not to list devices. That a sound cannot be opened or
played is no failure of a run.
-/
namespace AlertSound.Command

open Program Host

instance Ending.decidableDone (ending : Ending) : Decidable (ending = .done) :=
  match ending with
  | .done => isTrue rfl
  | .failed _ => isFalse fun same => by cases same
  | .stopped _ => isFalse fun same => by cases same

variable (options : Options) (s : Session)

/-- A performance fails by its stream number alone. -/
theorem perform_eq_ok_iff (r : Locator) (host : Host) :
    ((perform options s r).run handler host).1 = .ok () ↔
      ∀ number, options.streamNumber = some number → (SoundStream.ofNumber? number).isSome := by
  cases given : options.streamNumber with
  | none =>
      simp only [perform, given, run_bind]
      exact iff_of_true rfl fun _ none => by cases none
  | some number =>
      cases known : SoundStream.ofNumber? number with
      | none =>
          simp only [perform, given, Session.setStreamNumber, known, lift_left, left_pure,
            pure_bind, run_bind]
          exact iff_of_false (fun same => by cases same) fun all => by
            simpa [known] using all number rfl
      | some stream =>
          simp only [perform, given, Session.setStreamNumber, known, lift_left, left_bind,
            left_pure, run_bind, run_pure, true_iff]
          intro _ same
          cases same
          exact known ▸ rfl

namespace Options

variable {options : Options} {config : Config} {tree : FileTree} {env : Environment}
  {directives : String} {audio : Option Audio}

/-- All that a run needs apart from its configuration. -/
structure Ready (options : Options) (directives : String) (tree : FileTree) : Prop where
  filter : ∃ filter, options.filter directives = .ok filter
  plays : options.listDevices = false
  needs : ∃ needs, options.needs tree = .ok needs
  stream : ∀ number, options.streamNumber = some number → (SoundStream.ofNumber? number).isSome

theorem playSound_eq_ok_iff {journal journal' : List Host.Event}
    {result : Except Report Unit} {tree' : FileTree}
    (played : options.playSound config tree audio journal = (result, journal', tree')) :
    result = .ok () ↔ (∃ needs, options.needs tree = .ok needs) ∧
      ∀ number, options.streamNumber = some number → (SoundStream.ofNumber? number).isSome := by
  unfold playSound at played
  split at played
  · rename_i failed
    cases played
    simp [failed]
  · rename_i r settings loaded needs
    have performed := perform_eq_ok_iff options
      (Session.new config
        (if (options.host config tree audio settings (loaded ++ journal)).hasRemote
          then some token else none))
      r (options.host config tree audio settings (loaded ++ journal))
    cases played
    rw [← performed, needs]
    simp only [Except.ok.injEq, exists_eq', true_and]
    generalize (Program.run handler _ _).1 = ended
    cases ended <;> simp [Except.mapError]

/-- A configuration that is made is made of what its parts are resolved to. -/
theorem config_eq_ok (h : options.config env = .ok config) :
    Config.resolveBool (if options.noRemote then some false else none) Config.allowRemoteKey env
        true = .ok config.allowRemote ∧
      Config.resolveBool options.soundCustomized Config.customizedKey env false =
        .ok config.restore.enabled ∧
      Config.resolveRestoreSlots options.restoreSlots env = .ok config.restore.slots := by
  obtain ⟨allowRemote, remote, h⟩ := of_bind_ok h
  obtain ⟨enabled, switch, h⟩ := of_bind_ok h
  obtain ⟨slots, count, h⟩ := of_bind_ok h
  cases h
  exact ⟨remote, switch, count⟩

/-- Where the switches are resolved, the slots decide. -/
theorem config_of_switches {allowRemote enabled : Bool}
    (remote : Config.resolveBool (if options.noRemote then some false else none)
      Config.allowRemoteKey env true = .ok allowRemote)
    (switch : Config.resolveBool options.soundCustomized Config.customizedKey env false =
      .ok enabled) :
    (∀ slots, Config.resolveRestoreSlots options.restoreSlots env = .ok slots →
      ∃ config, options.config env = .ok config) ∧
    ∀ e, Config.resolveRestoreSlots options.restoreSlots env = .error e →
      options.config env = .error e := by
  refine ⟨fun slots count => ?_, fun e bad => ?_⟩
  · simp only [Options.config, remote, switch, count]
    exact ⟨_, rfl⟩
  · simp only [Options.config, remote, switch, bad]
    rfl

theorem run_of_unresolved {e : ConfigError} (ready : options.Ready directives tree)
    (unresolved : options.config env = .error e) :
    (options.run env directives tree audio).ending = .failed ⟨e.message, []⟩ := by
  obtain ⟨filter, good⟩ := ready.filter
  simp [Options.run, good, ready.plays, unresolved]

theorem run_eq_done_iff : (options.run env directives tree audio).ending = .done ↔
    options.Ready directives tree ∧ ∃ config, options.config env = .ok config := by
  unfold Options.run
  split
  · rename_i bad
    exact iff_of_false (fun h => by cases h) fun ready => by
      obtain ⟨_, good⟩ := ready.1.filter
      cases bad.symm.trans good
  · rename_i filter good
    split
    · rename_i lists
      exact iff_of_false (fun h => by cases h) fun ready => by
        simpa [lists] using ready.1.plays
    · rename_i plays
      split
      · rename_i bad
        exact iff_of_false (fun h => by cases h) fun ready => by
          obtain ⟨_, good⟩ := ready.2
          cases bad.symm.trans good
      · rename_i config resolved
        generalize played : options.playSound config tree audio _ = left
        obtain ⟨result, journal, tree'⟩ := left
        have ended := playSound_eq_ok_iff played
        cases result with
        | error report =>
            exact iff_of_false (fun h => by cases h) fun ⟨ready, _⟩ => by
              cases ended.mpr ⟨ready.needs, ready.stream⟩
        | ok _ =>
            obtain ⟨needs, stream⟩ := ended.mp rfl
            exact iff_of_true rfl
              ⟨⟨⟨filter, good⟩, Bool.not_eq_true _ ▸ plays, needs, stream⟩, config, resolved⟩

end Options
end AlertSound.Command
