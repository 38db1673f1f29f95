import AlertSound.Proofs.File.Overwriting
import AlertSound.Proofs.File.Path
import Mathlib.Data.List.Nodup

/-!
What stands in a directory. A path into a directory leads to the entry of that name, if it
leads anywhere and no link stands there. The names in a directory come once each, and they
are the same after a file that is there has been written.
-/
namespace AlertSound.FileTree

variable {tree : FileTree} {place location : List File.Path} {directory name : File.Path}

/-- One entry for each location, under names that can stand in directories. -/
structure Proper (tree : FileTree) : Prop where
  distinct : tree.Distinct
  isName : ∀ location ∈ tree.locations, ∀ name ∈ location, File.IsName name

theorem nameIn?_eq_some {entry : List File.Path} :
    nameIn? place entry = some name ↔ entry = place ++ [name] := by
  unfold nameIn?
  cases last : entry.getLast? with
  | none => simp [List.getLast?_eq_none_iff.mp last]
  | some final =>
      obtain ⟨front, rfl⟩ := List.getLast?_eq_some_iff.mp last
      simp only [List.dropLast_concat, Option.ite_none_right_eq_some, Option.some.injEq]
      constructor
      · intro given
        obtain ⟨rfl, rfl⟩ := given
        rfl
      · intro same
        exact ⟨List.append_inj_left' same rfl, by simpa using List.append_inj_right' same rfl⟩

theorem mem_namesIn : name ∈ tree.namesIn place ↔ place ++ [name] ∈ tree.locations := by
  simp only [namesIn, List.mem_filterMap, nameIn?_eq_some, exists_eq_right]

theorem nodup_namesIn (distinct : tree.Distinct) (place : List File.Path) :
    (tree.namesIn place).Nodup := by
  refine List.Nodup.filterMap (fun entry entry' name h h' => ?_) distinct
  rw [nameIn?_eq_some.mp h, nameIn?_eq_some.mp h']

/-- A directory is listed if it may be read. -/
theorem list_of_locate (leads : tree.locate directory = .ok place)
    (isDirectory : tree.isDirectory place = true) : tree.list directory =
      if tree.allows place .read then .ok (tree.namesIn place)
      else .error .permissionDenied := by
  cases readable : tree.allows place .read <;>
    simp [list, leads, isDirectory, readable, bind, Except.bind]

theorem enter_name (h : File.IsName name) (unlinked : tree.link? (place ++ [name]) = none)
    {stop : Stop} (leads : tree.enter place name = .ok stop) :
    stop = .there (place ++ [name]) := by
  simp only [enter, node?_of_isDirectory (isDirectory_of_enter leads), List.isEmpty_iff, h.ne_nil,
    h.ne_dot, h.ne_dots, unlinked, if_false] at leads
  split at leads
  · cases leads
  · split at leads
    · cases leads
    · cases leads
      rfl

theorem walk_name (h : File.IsName name) (unlinked : tree.link? (place ++ [name]) = none)
    {links : Nat} (leads : tree.walk links place [name] = .ok location) :
    location = place ++ [name] := by
  have alone {stop : Stop} (followed : tree.follow place [name] = .ok stop) :
      stop = .there (place ++ [name]) := by
    obtain ⟨_, entered, ended⟩ | ⟨_, _, entered, -⟩ := follow_cons_eq_ok.mp followed
    · cases enter_name h unlinked entered
      cases ended
      rfl
    · cases enter_name h unlinked entered
  rw [walk.eq_def] at leads
  split at leads
  · cases leads
  · rename_i followed
    cases leads
    cases alone followed
    rfl
  · cases leads
  · rename_i followed
    cases alone followed

theorem steps_join (h : File.IsName name) :
    steps (File.join directory name) = File.names directory ++ [name] := by
  have ended : ((File.join directory name).getLast? == some File.slash) = false :=
    beq_false_of_ne (File.getLast?_join directory h)
  simp [steps, ended, File.names_join directory h]

/-- A path into a directory leads to what stands there, unless that is a link. -/
theorem locate_join (leads : tree.locate directory = .ok place) (h : File.IsName name)
    (unlinked : tree.link? (place ++ [name]) = none)
    (inside : tree.locate (File.join directory name) = .ok location) :
    location = place ++ [name] := by
  obtain ⟨checked, walked, -⟩ := locate_eq_ok.mp leads
  obtain ⟨-, onward, -⟩ := locate_eq_ok.mp inside
  have given : directory ≠ [] := fun none => by simp [none, checkPath] at checked
  have base : tree.base (File.join directory name) = tree.base directory := by
    simp only [FileTree.base, start, File.isAbsolute_join directory h given]
  have walked : tree.walk mostLinks (tree.base directory) (File.names directory) = .ok place := by
    unfold steps at walked
    split at walked
    · exact walk_of_slash walked
    · rwa [List.append_nil] at walked
  obtain ⟨left, on⟩ := walk_append walked
  rw [base, steps_join h, on] at onward
  exact walk_name h unlinked onward

section Overwrite

variable {old : List UInt8} (content : List UInt8)

theorem isFile_overwrite (found : tree.node? location = some (.file old)) (path : File.Path) :
    (tree.set location (.file content)).isFile path = tree.isFile path := by
  simp only [isFile, look, locate_overwrite found]
  cases tree.locate path with
  | error cause => rfl
  | ok there =>
      by_cases same : there = location
      · simp [same, node?_set_self _ (location_ne_nil found), found, bind, Except.bind]
      · simp [node?_set_of_ne _ same, bind, Except.bind]

/-- No name comes or goes when a file is written that is there. -/
theorem namesIn_overwrite (distinct : tree.Distinct)
    (found : tree.node? location = some (.file old)) (place : List File.Path) :
    ((tree.set location (.file content)).namesIn place).Perm (tree.namesIn place) := by
  have there : List.lookup location tree.entries = some (.file old) := by
    simpa [node?, location_ne_nil found] using found
  have entries := perm_of_lookup (List.Nodup.of_append_left distinct) there
  exact (((entries.map Prod.fst).append_right _).symm).filterMap _

end Overwrite

end AlertSound.FileTree
