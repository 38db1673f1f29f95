import AlertSound.Proofs.File.Tree

/-!
Writing to a file that is there. Only what the file holds is replaced, so every path leads
where it led, and every directory has the entries it had, of which there is one for each
location.
-/
namespace AlertSound.FileTree

variable {tree tree' : FileTree} {location : List File.Path} {path : File.Path}
  {content old : List UInt8}

def Distinct (tree : FileTree) : Prop := tree.locations.Nodup

theorem set_set (tree : FileTree) (location : List File.Path) (node node' : FileNode) :
    (tree.set location node).set location node' = tree.set location node' := by
  simp [set, List.filter_filter]

/-- A path that can be read leads to a file. -/
theorem locate_of_read (read : tree.read path = .ok content) :
    ∃ location, tree.locate path = .ok location ∧ tree.node? location = some (.file content) := by
  simp only [FileTree.read, openPath, bind, Except.bind] at read
  split at read
  · cases read
  · rename_i node opened
    split at opened
    · cases opened
    · rename_i location leads
      refine ⟨location, leads, ?_⟩
      split at opened
      · rename_i found
        split at opened
        · cases opened
          cases node with
          | file held => cases read; exact found
          | directory => cases read
        · cases opened
      · cases opened

/-- Writing to a path that leads somewhere replaces what is there. -/
theorem write_of_locate (leads : tree.locate path = .ok location)
    (wrote : tree.write path content = .ok tree') : tree' = tree.set location (.file content) := by
  obtain ⟨-, walked, there⟩ := locate_eq_ok.mp leads
  obtain ⟨-, location', walked', put⟩ := write_eq_ok wrote
  cases walked.symm.trans walked'
  obtain ⟨-, ⟨-, rfl⟩ | ⟨gone, -⟩⟩ := place_eq_ok put
  · rfl
  · simp [gone] at there

section Overwrite

variable (found : tree.node? location = some (.file old))

include found

theorem location_ne_nil : location ≠ [] := fun none => by simp [node?, none] at found

theorem isDirectory_overwrite (location' : List File.Path) :
    (tree.set location (.file content)).isDirectory location' = tree.isDirectory location' := by
  by_cases same : location' = location
  · rw [same, isDirectory, isDirectory, node?_set_self _ (location_ne_nil found), found]
    rfl
  · rw [isDirectory, node?_set_of_ne _ same, isDirectory]

theorem enter_overwrite (location' : List File.Path) (name : File.Path) :
    (tree.set location (.file content)).enter location' name = tree.enter location' name := by
  by_cases same : location' = location
  · simp only [same, enter, node?_set_self _ (location_ne_nil found), found]
  · rw [enter, enter, node?_set_of_ne _ same]
    rfl

theorem follow_overwrite (location' names : List File.Path) :
    (tree.set location (.file content)).follow location' names = tree.follow location' names := by
  induction names generalizing location' with
  | nil => rfl
  | cons name names ih => simp only [follow_cons, enter_overwrite found, ih]

theorem walk_overwrite (links : Nat) (location' names : List File.Path) :
    (tree.set location (.file content)).walk links location' names =
      tree.walk links location' names := by
  fun_induction tree.walk links location' names with
  | case1 _ _ _ cause followed | case2 _ _ _ there followed | case3 _ _ there rest followed =>
      rw [walk.eq_def, follow_overwrite found, followed]
  | case4 _ _ links there rest followed ih =>
      rw [walk.eq_def, follow_overwrite found, followed]
      exact ih

theorem locate_overwrite (path : File.Path) :
    (tree.set location (.file content)).locate path = tree.locate path := by
  have same : (tree.set location (.file content)).base path = tree.base path := rfl
  have there (location' : List File.Path) :
      ((tree.set location (.file content)).node? location').isNone =
        (tree.node? location').isNone := by
    by_cases same : location' = location
    · simp [same, node?_set_self _ (location_ne_nil found), found]
    · rw [node?_set_of_ne _ same]
  simp only [locate, same, walk_overwrite found, there]

end Overwrite

/-- One entry stands for a location. -/
theorem perm_of_lookup {entries : List (List File.Path × FileNode)} {node : FileNode}
    (distinct : (entries.map Prod.fst).Nodup) (found : List.lookup location entries = some node) :
    entries.Perm ((location, node) :: entries.filter (·.1 != location)) := by
  induction entries with
  | nil => cases found
  | cons entry entries ih =>
      obtain ⟨place, node'⟩ := entry
      obtain ⟨once, rest⟩ := List.nodup_cons.mp distinct
      by_cases same : place = location
      · subst same
        have others : entries.filter (·.1 != place) = entries :=
          List.filter_eq_self.mpr fun e he => bne_iff_ne.mpr fun again =>
            once (List.mem_map.mpr ⟨e, he, again⟩)
        rw [List.lookup_cons_self, Option.some.injEq] at found
        rw [List.filter_cons_of_neg (by simp), others, found]
      · have miss : (location == place) = false := by
          simpa using fun here : location = place => same here.symm
        rw [List.lookup_cons, miss] at found
        rw [List.filter_cons_of_pos (by simpa using same)]
        exact ((ih rest found).cons _).trans (.swap ..)

end AlertSound.FileTree
