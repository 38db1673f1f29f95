import AlertSound.Command.Run
import AlertSound.Proofs.Session.Writing
import AlertSound.Proofs.Settings.Mending

/-!
What a run of the command writes. It writes no file but that of its settings, and this only
by restoring slots, so that a run that fails or that is not to restore anything leaves the
files alone.
-/
namespace AlertSound.Command

open Program Host

variable {α : Type} {P : Machine → Prop} (options : Options) (s : Session)

def Spares : Floor.Call → Prop
  | .inl c => Studio.Spares c
  | .inr _ => True

theorem handler_store {c : Floor.Call} (h : Spares c) (host : Host) :
    SameStore host.machine (handler c host).2.machine := by
  cases c with
  | inl c => exact Host.handler_store h host
  | inr c =>
      cases c with
      | print line => exact (SameStore.refl _).note _
      | pause => exact (SameStore.refl _).note _

theorem lasting_floor (lasting : Lasting P) {p : Program Floor α} (h : p.Asks Spares) :
    p.Preserves handler fun host => P host.machine :=
  h.preserves fun _ spares host => lasting (handler_store spares host)

theorem plain_spares {p : Program Studio α} (h : p.Asks Studio.Plain) :
    (p.left : Program Floor α).Asks Spares :=
  .left (h.mono fun _ => Studio.Plain.spares)

theorem leave_spares : (leave s).Asks Spares := plain_spares s.drop_plain

theorem listen_spares (pauses : Nat) : (listen s pauses).Asks Spares := by
  induction pauses with
  | zero => exact .bind (plain_spares s.isPlaying_plain) fun _ => .pure _
  | succ n ih =>
      refine .bind (plain_spares s.isPlaying_plain) fun playing => ?_
      split
      · exact .bind (.right (.request trivial)) fun _ => ih
      · exact .pure _

/-- What is kept by restoring is kept by a whole performance. -/
theorem present_preserves (lasting : Lasting P)
    (restores : (Restore.all s.restore).Preserves Machine.handler P) (r : Locator) :
    (present options s r).Preserves handler fun host => P host.machine := by
  refine .bind (.left (Session.bind_preserves _ lasting restores)) fun s => lasting_floor lasting ?_
  refine .bind (.left s.getTitle_spares) fun titled => ?_
  refine .bind (.right (.request trivial)) fun _ => ?_
  split
  · exact leave_spares _
  · refine .bind (.left (.left (.left (.request trivial)))) fun _ => ?_
    refine .bind (plain_spares (Session.play_plain _)) fun s => ?_
    refine .bind (listen_spares ..) fun _ => ?_
    exact .bind (plain_spares (Session.releaseBacking_plain _)) fun s => leave_spares s

theorem perform_preserves (lasting : Lasting P)
    (restores : (Restore.all s.restore).Preserves Machine.handler P) (r : Locator) :
    (perform options s r).Preserves handler fun host => P host.machine := by
  unfold perform
  split
  · exact .bind (present_preserves options s lasting restores r) fun _ => .pure _
  · rename_i number _
    refine .bind_of (.left (s.setStreamNumber_preserves lasting restores number))
      (ensures_left.mpr (s.setStreamNumber_restore number)) fun result same => ?_
    split
    · exact .bind (lasting_floor lasting (leave_spares s)) fun _ => .pure _
    · rename_i s'
      rw [← same s' rfl] at restores
      exact .bind (present_preserves options s' lasting restores r) fun _ => .pure _

/-- A performance that fails never began. -/
theorem perform_error (r : Locator) (host : Host) {e : Session.Error}
    (failed : ((perform options s r).run handler host).1 = .error e) :
    SameStore host.machine ((perform options s r).run handler host).2.machine := by
  cases given : options.streamNumber with
  | none =>
      simp only [perform, given, run_bind] at failed
      cases failed
  | some number =>
      simp only [perform, given] at failed ⊢
      cases known : SoundStream.ofNumber? number with
      | none =>
          have left :=
            lasting_floor (lasting_sameStore host.machine) (leave_spares s) host (.refl _)
          simp only [Session.setStreamNumber, known, lift_left, left_pure, pure_bind, run_bind]
          exact left
      | some stream =>
          simp only [Session.setStreamNumber, known, lift_left, left_bind, left_pure, run_bind,
            run_pure] at failed
          cases failed

namespace Options

variable {options : Options} {config : Config} {tree : FileTree} {env : Environment}

/-- A store with a file is what was loaded from the file that is given. -/
theorem needs_source {r : Locator} {store : SettingsStore} {loaded : List Host.Event}
    (needs : options.needs tree = .ok (r, store, loaded)) :
    store.values.Ascending ∧ ∀ file, store.file = some file →
      options.settings = some file ∧ SettingsStore.load tree file = .ok store := by
  unfold Options.needs at needs
  split at needs
  · cases needs
  · split at needs
    · cases needs
    · unfold loadSettings at needs
      split at needs
      · cases needs
        exact ⟨Dictionary.ascending_empty, fun _ named => by cases named⟩
      · rename_i file given
        split at needs
        · rename_i store' loads
          cases needs
          have opened := SettingsStore.open_load loads
          refine ⟨opened.ascending, fun file' named => ?_⟩
          cases opened.file.symm.trans named
          exact ⟨given, loads⟩
        · cases needs

/-- The file of the settings alone is written, and of the settings only slots that were to
be restored. -/
def Rewrites (options : Options) (config : Config) (tree tree' : FileTree) : Prop :=
  ∃ file location content before after, options.settings = some file ∧
    tree.locate file = .ok location ∧ tree' = tree.set location (.file content) ∧
    SettingsStore.load tree file = .ok before ∧ SettingsStore.load tree' file = .ok after ∧
    Restore.Amends config.restore tree options.internalDir before after

theorem of_bind_ok {ε β γ : Type} {first : Except ε β} {next : β → Except ε γ} {result : γ}
    (h : (first >>= next) = .ok result) : ∃ b, first = .ok b ∧ next b = .ok result := by
  cases first with
  | error _ => cases h
  | ok b => exact ⟨b, rfl, h⟩

theorem config_enabled (read : options.config env = .ok config) :
    Config.resolveBool options.soundCustomized Config.customizedKey env false =
      .ok config.restore.enabled := by
  unfold Options.config at read
  obtain ⟨_, -, read⟩ := of_bind_ok read
  obtain ⟨enabled, resolved, read⟩ := of_bind_ok read
  obtain ⟨_, -, read⟩ := of_bind_ok read
  cases read
  exact resolved

/-- What playing a sound leaves of the files. -/
theorem playSound_tree (distinct : tree.Distinct) (audio : Option Audio)
    (journal : List Host.Event) {result : Except Report Unit} {journal' : List Host.Event}
    {tree' : FileTree}
    (played : options.playSound config tree audio journal = (result, journal', tree')) :
    (result ≠ .ok () → tree' = tree) ∧ (config.restore.enabled = false → tree' = tree) ∧
      (tree' ≠ tree → options.Rewrites config tree tree') := by
  unfold playSound at played
  split at played
  · cases played
    exact ⟨fun _ => rfl, fun _ => rfl, fun changed => absurd rfl changed⟩
  · rename_i r store loaded needs
    obtain ⟨ascending, source⟩ := needs_source needs
    let host := options.host config tree audio store (loaded ++ journal)
    let session := Session.new config (if host.hasRemote then some token else none)
    have failed {e} := perform_error options session r host (e := e)
    have kept (off : config.restore.enabled = false) : SameStore host.machine
        ((perform options session r).run handler host).2.machine := by
      have idle : Restore.all config.restore = pure 0 := by simp [Restore.all, off]
      exact perform_preserves options session (lasting_sameStore _) (fun m before => idle ▸ before)
        r host (.refl _)
    have mended : Restore.Mended config.restore tree options.internalDir store
        ((perform options session r).run handler host).2.machine :=
      perform_preserves options session Restore.Mended.lasting
        (Restore.Mended.all distinct fun file named => (source file named).2) r host
        { index := ⟨options.externalDir, rfl⟩
          file := rfl
          ascending := ascending
          amends := fun _ => .inl rfl
          written := .kept }
    have shut := shutRemote_store ((perform options session r).run handler host).2
    cases played
    refine ⟨fun error => ?_, fun off => shut.tree.trans (kept off).tree, fun changed => ?_⟩
    · cases outcome : ((perform options session r).run handler host).1 with
      | ok _ => exact absurd (congrArg _ outcome) error
      | error e => exact shut.tree.trans (failed outcome).tree
    · have written := (mended.of_same shut).written
      generalize ((perform options session r).run handler host).2.shutRemote.machine.tree = left
        at written changed ⊢
      cases written with
      | kept => exact absurd rfl changed
      | rewritten named leads found loads amends =>
          obtain ⟨given, loaded⟩ := source _ named
          exact ⟨_, _, _, store, _, given, leads, rfl, loaded, loads, amends⟩

/-- A run either leaves the files alone or comes to play. -/
theorem run_cases (options : Options) (env : Environment) (directives : String)
    (tree : FileTree) (audio : Option Audio) : (options.run env directives tree audio).tree = tree ∨
      ∃ config result journal tree', options.config env = .ok config ∧
        options.playSound config tree audio [.log (configEntry config)] = (result, journal, tree') ∧
        (options.run env directives tree audio).tree = tree' ∧
        ((options.run env directives tree audio).code ≠ 0 → result ≠ .ok ()) := by
  unfold Options.run
  split
  · exact .inl rfl
  · split
    · exact .inl rfl
    · split
      · exact .inl rfl
      · rename_i config read
        generalize played : options.playSound config tree audio [.log (configEntry config)] = left
        obtain ⟨result, journal, tree'⟩ := left
        refine .inr ⟨config, result, journal, tree', read, played, rfl, fun failed done => ?_⟩
        subst done
        exact failed rfl

end Options

/-- The command touches files by restoring alone. Whatever the arguments, the environment, the
files and the sound system, a run that ends with another code than zero leaves every file as it
was, and so does a run for which customization is not resolved to be on. If any file is different
when a run is over, the run ended with zero and was to restore: it is the file of the settings
that was written, and nothing else. What it held before and what it holds now are both settings,
which agree but for slots among those to be restored; such a slot was set before, and now names an
entry of the internal directory under the name that is shipped for the slot. -/
theorem run_writes_restored_slots (arguments : List SystemText) (env : Environment)
    (directives : String) (tree : FileTree) (audio : Option Audio) (distinct : tree.Distinct) :
    ((run arguments env directives tree audio).code ≠ 0 →
      (run arguments env directives tree audio).tree = tree) ∧
    (∀ options, Options.ofArguments arguments env = .ok options →
      Config.resolveBool options.soundCustomized Config.customizedKey env false ≠ .ok true →
      (run arguments env directives tree audio).tree = tree) ∧
    ((run arguments env directives tree audio).tree ≠ tree →
      (run arguments env directives tree audio).code = 0 ∧
      ∃ options config, Options.ofArguments arguments env = .ok options ∧
        options.config env = .ok config ∧ config.restore.enabled = true ∧
        options.Rewrites config tree (run arguments env directives tree audio).tree) := by
  unfold run
  cases read : Options.ofArguments arguments env with
  | error stop => exact ⟨fun _ => rfl, fun _ _ _ => rfl, fun changed => absurd rfl changed⟩
  | ok options =>
      simp only
      cases options.run_cases env directives tree audio with
      | inl kept => exact ⟨fun _ => kept, fun _ _ _ => kept, fun changed => absurd kept changed⟩
      | inr played =>
          obtain ⟨config, result, journal, tree', resolved, played, left, code⟩ := played
          obtain ⟨failed, off, changed⟩ := Options.playSound_tree distinct _ _ played
          rw [left]
          refine ⟨fun nonzero => failed (code nonzero), fun options' same plain => off ?_,
            fun other => ?_⟩
          · cases same
            rw [Options.config_enabled resolved] at plain
            simpa using plain
          · refine ⟨Decidable.byContradiction fun nonzero => other (failed (code nonzero)),
              options, config, rfl, resolved, ?_, changed other⟩
            exact Bool.of_not_eq_false fun plain => other (off plain)

def bellTree : FileTree :=
  (FileTree.empty.addFile [File.ofText "sounds", File.ofText "Bell.ogg"] []).addFile
    [File.ofText "settings.json"]
    (File.ofText "\x7b\"ringtone\": \"content://media/external/audio/media/9\"\x7d")

def bellArguments : List SystemText :=
  ["--sound", "content://settings/system/ringtone", "--internal-dir", "/sounds", "--settings",
    "/settings.json", "--sound-customized", "yes", "--default-ringtone", "Bell.ogg", "--dry-run",
    "--title-only"]

theorem run_writes_restored_slots_bell :
    (run (bellArguments ++ ["--stream-type", "99"]) [] "" bellTree).tree = bellTree ∧
      ∃ options config, Options.ofArguments bellArguments [] = .ok options ∧
        options.config [] = .ok config ∧ config.restore.enabled = true ∧
        options.Rewrites config bellTree (run bellArguments [] "" bellTree).tree := by
  have distinct : bellTree.Distinct := by
    unfold FileTree.Distinct
    decide +kernel
  have changed : ((run bellArguments [] "" bellTree).tree.readText
      (File.ofText "/settings.json")).toOption =
        some "\x7b\n  \"ringtone\": \"content://media/internal/audio/media/1\"\n\x7d" := by
    decide +kernel
  obtain ⟨-, -, rewrites⟩ := run_writes_restored_slots bellArguments [] "" bellTree none distinct
  refine ⟨(run_writes_restored_slots _ [] "" bellTree none distinct).1 (by decide +kernel),
    (rewrites fun same => ?_).2⟩
  rw [same] at changed
  exact absurd changed (by decide +kernel)

end AlertSound.Command
