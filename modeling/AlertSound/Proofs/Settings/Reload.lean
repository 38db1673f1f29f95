import AlertSound.Proofs.File.Tree
import AlertSound.Proofs.Json.Dictionary
import AlertSound.Settings.Store

/-!
Settings outlive the store that made them. What a store has written is what the next one
reads, so long as nobody else writes the file: after every setting that succeeds the file
holds the whole store, and nothing else the store does changes the file.
-/
namespace AlertSound.SettingsStore

inductive Change where
  | withValue (key value : String)
  | put (key value : String)
  /-- A setting whose file cannot be written for a reason that is not in the tree. -/
  | putFails (key value : String)
  /-- The store is opened again and goes on as it was read. -/
  | reopen
  /-- Others write other files. -/
  | elsewhere

def Change.IsPut : Change → Prop
  | .put _ _ | .putFails _ _ => True
  | .withValue _ _ | .reopen | .elsewhere => False

/-- One change of a store that was opened from the file. A write that fails changes nothing. -/
inductive Step (file : File.Path) :
    SettingsStore × FileTree → Change → SettingsStore × FileTree → Prop where
  | withValue (store tree key value) :
      Step file (store, tree) (.withValue key value) (store.withValue key value, tree)
  | put {store tree key value result store' tree'} :
      store.put tree key value = (result, store', tree') →
      Step file (store, tree) (.put key value) (store', tree')
  | putFails (store tree key value) :
      Step file (store, tree) (.putFails key value) (store.withValue key value, tree)
  | reopen {store tree store'} : load tree file = .ok store' →
      Step file (store, tree) .reopen (store', tree)
  | elsewhere {store tree tree'} : tree'.read file = tree.read file →
      Step file (store, tree) .elsewhere (store, tree')

inductive Runs (file : File.Path) :
    SettingsStore × FileTree → List Change → SettingsStore × FileTree → Prop where
  | done (state) : Runs file state [] state
  | next {state state' state'' change changes} : Step file state change state' →
      Runs file state' changes state'' → Runs file state (change :: changes) state''

variable {file : File.Path} {tree tree' : FileTree} {store store' : SettingsStore}

theorem get?_withValue (store : SettingsStore) (key value key' : String) :
    (store.withValue key value).get? key' = if key' = key then some value else store.get? key' :=
  Dictionary.get?_insert ..

/-- A value counts in memory whether or not it could be written. -/
theorem put_store (store : SettingsStore) (tree : FileTree) (key value : String) :
    (store.put tree key value).2.1 = store.withValue key value := by
  simp only [put]
  split
  · rfl
  · rfl

/-- A store that has no file leaves the files alone. -/
theorem put_inMemory (h : store.file = none) (tree : FileTree) (key value : String) :
    store.put tree key value = (.ok (), store.withValue key value, tree) := by
  simp [put, persist, withValue, h]

/-- A store that was opened from the file: it knows where it came from, and its keys are in
order. -/
structure Open (file : File.Path) (store : SettingsStore) : Prop where
  file : store.file = some file
  ascending : store.values.Ascending

theorem Open.withValue (h : Open file store) (key value : String) :
    Open file (store.withValue key value) :=
  ⟨h.file, h.ascending.insert key value⟩

theorem open_load (h : load tree file = .ok store) : Open file store := by
  unfold load at h
  split at h
  · cases h
    exact ⟨rfl, Dictionary.ascending_empty⟩
  · cases h
  · split at h
    · cases h
      exact ⟨rfl, Dictionary.ascending_empty⟩
    · split at h
      · rename_i read
        cases h
        exact ⟨rfl, Dictionary.ascending_ofJson read⟩
      · cases h

/-- Only the bytes of the file count. -/
theorem load_congr (h : tree'.read file = tree.read file) : load tree' file = load tree file := by
  simp only [load, FileTree.readText, h]

/-- A dictionary is written with braces around it. -/
theorem isBlankText_toJson (d : Dictionary) : Text.isBlankText d.toJson = false := by
  have brace : ∃ rest, d.chars = '\x7b' :: rest := by
    unfold Dictionary.chars
    split
    · exact ⟨_, rfl⟩
    · exact ⟨_, rfl⟩
  obtain ⟨rest, chars⟩ := brace
  have solid : Text.isBlank '\x7b' = false := by decide
  simp [Text.isBlankText, Dictionary.toJson, chars, solid]

/-- What was written is what is opened. -/
theorem load_of_readText (h : Open file store)
    (read : tree.readText file = .ok store.values.toJson) : load tree file = .ok store := by
  obtain ⟨values, source⟩ := store
  obtain ⟨rfl, ascending⟩ := h
  simp [load, read, isBlankText_toJson, Dictionary.ofJson_toJson ascending]

/-- What a setting leaves: the value counts, and either the whole store is written to the file
or the files are as they were. -/
theorem put_writes {key value : String} {result : Except SettingsError Unit} (h : Open file store)
    (put : store.put tree key value = (result, store', tree')) :
    store' = store.withValue key value ∧
      (result = .ok () ∧ tree.write file (File.ofText store'.values.toJson) = .ok tree' ∨
        result ≠ .ok () ∧ tree' = tree) := by
  have set := h.withValue key value
  unfold SettingsStore.put persist at put
  simp only [set.file] at put
  cases written : tree.write file (File.ofText (store.withValue key value).values.toJson) with
  | error cause =>
      rw [written] at put
      cases put
      exact ⟨rfl, .inr ⟨by simp, rfl⟩⟩
  | ok after =>
      rw [written] at put
      cases put
      exact ⟨rfl, .inl ⟨rfl, written⟩⟩

/-- A file that was opened is not protected from being read. -/
theorem unprotected_of_load (h : load tree file = .ok store) :
    tree.read file ≠ .error .permissionDenied := by
  intro denied
  simp only [load, FileTree.readText, denied, bind, Except.bind] at h
  cases h

/-- What is written is opened as the store that is live. -/
theorem put_cases {key value : String} {result : Except SettingsError Unit} (h : Open file store)
    (unprotected : tree.read file ≠ .error .permissionDenied)
    (put : store.put tree key value = (result, store', tree')) :
    store' = store.withValue key value ∧
      (result = .ok () ∧ load tree' file = .ok store' ∨ result ≠ .ok () ∧ tree' = tree) := by
  obtain ⟨rfl, outcome⟩ := put_writes h put
  refine ⟨rfl, outcome.imp_left fun written => ⟨written.1, ?_⟩⟩
  exact load_of_readText (h.withValue key value) (FileTree.readText_write written.2 unprotected)

/-- A store that holds anything was read from the file. -/
theorem read_of_load {key value : String} (h : load tree file = .ok store)
    (set : store.get? key = some value) : ∃ content, tree.read file = .ok content := by
  cases read : tree.read file with
  | ok content => exact ⟨content, rfl⟩
  | error cause =>
      simp only [load, FileTree.readText, read, bind, Except.bind] at h
      split at h
      · cases h
        cases set
      · cases h
      · rename_i unread
        cases unread

def Sound (file : File.Path) (state : SettingsStore × FileTree) : Prop :=
  Open file state.1 ∧ ∃ saved, load state.2 file = .ok saved

theorem Step.sound {state state' : SettingsStore × FileTree} {change : Change}
    (step : Step file state change state') (sound : Sound file state) : Sound file state' := by
  obtain ⟨opened, saved, loads⟩ := sound
  cases step with
  | withValue store tree key value | putFails store tree key value =>
      exact ⟨opened.withValue key value, saved, loads⟩
  | put put =>
      obtain ⟨rfl, outcome⟩ := put_cases opened (unprotected_of_load loads) put
      refine ⟨opened.withValue _ _, ?_⟩
      cases outcome with
      | inl written => exact ⟨_, written.2⟩
      | inr refused => exact ⟨saved, refused.2 ▸ loads⟩
  | reopen again => exact ⟨open_load again, saved, loads⟩
  | elsewhere same => exact ⟨opened, saved, (load_congr same).trans loads⟩

theorem Step.read_eq {state state' : SettingsStore × FileTree} {change : Change}
    (step : Step file state change state') (quiet : ¬change.IsPut) :
    state'.2.read file = state.2.read file := by
  cases step with
  | withValue | reopen => rfl
  | elsewhere same => exact same
  | put | putFails => exact absurd trivial quiet

theorem Runs.sound {state state' : SettingsStore × FileTree} {changes : List Change}
    (run : Runs file state changes state') (sound : Sound file state) : Sound file state' := by
  induction run with
  | done => exact sound
  | next step _ ih => exact ih (step.sound sound)

theorem Runs.read_eq {state state' : SettingsStore × FileTree} {changes : List Change}
    (run : Runs file state changes state') (quiet : ∀ change ∈ changes, ¬change.IsPut) :
    state'.2.read file = state.2.read file := by
  induction run with
  | done => rfl
  | next step _ ih =>
      obtain ⟨first, rest⟩ := List.forall_mem_cons.mp quiet
      exact (ih rest).trans (step.read_eq first)

/-- Opening the store again and again comes to what opening it once comes to. -/
theorem runs_reopen_iff {saved : SettingsStore} (loads : load tree file = .ok saved)
    (store : SettingsStore) (n : Nat) {state : SettingsStore × FileTree} :
    Runs file (store, tree) (List.replicate (n + 1) .reopen) state ↔ state = (saved, tree) := by
  induction n generalizing store with
  | zero =>
      constructor
      · intro run
        cases run with
        | next step rest =>
            cases step with
            | reopen again =>
                cases loads.symm.trans again
                cases rest
                rfl
      · intro same
        exact same ▸ .next (.reopen loads) (.done _)
  | succ n ih =>
      constructor
      · intro run
        cases run with
        | next step rest =>
            cases step with
            | reopen again =>
                cases loads.symm.trans again
                exact (ih _).mp rest
      · intro same
        exact .next (.reopen loads) ((ih saved).mpr same)

/-- Settings survive a reload. A store was opened from a file, and since then values have
been set with and without being written back, writes have failed, the store has been
opened anew and others have written elsewhere. Whenever a setting succeeds, the file can
be opened and gives the very store that is live, so that they have the same value for
every key. As long as nothing was set for good the file is as it was. And the file can
always be opened: however often that is done, the same store comes of it and the files
stay as they are. -/
theorem settings_survive_reload {store₀ : SettingsStore} {tree₀ : FileTree}
    (opened : load tree₀ file = .ok store₀) {changes : List Change}
    (run : Runs file (store₀, tree₀) changes (store, tree)) :
    (∀ key value store' tree', store.put tree key value = (.ok (), store', tree') →
      load tree' file = .ok store') ∧
    ((∀ change ∈ changes, ¬change.IsPut) → tree.read file = tree₀.read file) ∧
    ∃ saved, load tree file = .ok saved ∧ ∀ n state,
      Runs file (store, tree) (List.replicate (n + 1) .reopen) state ↔ state = (saved, tree) := by
  obtain ⟨live, saved, loads⟩ := run.sound ⟨open_load opened, store₀, opened⟩
  refine ⟨fun key value store' tree' put => ?_, fun quiet => run.read_eq quiet,
    saved, loads, fun n state => runs_reopen_iff loads store n⟩
  cases (put_cases live (unprotected_of_load loads) put).2 with
  | inl written => exact written.2
  | inr refused => exact absurd rfl refused.1

def hardFile : File.Path := File.ofText "/settings.json"

/-- Keys and values of characters that are escaped, and of one beyond the first plane. -/
def hard : SettingsStore :=
  { values := ⟨[("\u0001", "\n\t\u001f"), ("\"\\", "🔔")]⟩, file := some hardFile }

theorem settings_survive_reload_hard :
    (hard.put .empty "\"" "\u007f").1 = .ok () ∧
      load (hard.put .empty "\"" "\u007f").2.2 hardFile = .ok (hard.withValue "\"" "\u007f") := by
  have opened : load .empty hardFile = .ok ⟨.empty, some hardFile⟩ := rfl
  have run : Runs hardFile (⟨.empty, some hardFile⟩, .empty)
      [.withValue "\"\\" "🔔", .putFails "\u0001" "\n\t\u001f"] (hard, .empty) :=
    .next (.withValue ..) (.next (.putFails ..) (.done _))
  obtain ⟨survives, -, -⟩ := settings_survive_reload opened run
  exact ⟨rfl, survives "\"" "\u007f" _ _ rfl⟩

end AlertSound.SettingsStore
