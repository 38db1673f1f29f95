import AlertSound.File.Tree
import AlertSound.Proofs.Text.Utf8

/-!
What is written to a file is read from it. Writing replaces one entry of the tree, which
is no directory, and takes no right away, so that every way that led somewhere before leads
there still, over links as well.
-/
namespace AlertSound.FileTree

variable {tree tree' : FileTree} {location location' : List File.Path}
  {path name : File.Path} {names : List File.Path} {links : Nat} {stop : Stop}

section Set

variable (node : FileNode)

theorem node?_set_self (some : location ≠ []) :
    (tree.set location node).node? location = .some node := by
  simp [node?, set, some]

theorem node?_set_of_ne (other : location' ≠ location) :
    (tree.set location node).node? location' = tree.node? location' := by
  have kept (entries : List (List File.Path × FileNode)) :
      List.lookup location' (entries.filter (·.1 != location)) = List.lookup location' entries := by
    induction entries with
    | nil => rfl
    | cons entry entries ih =>
        obtain ⟨place, node⟩ := entry
        by_cases same : place = location
        · subst same
          have miss : (location' == place) = false := by simpa using other
          simpa [List.lookup_cons, miss] using ih
        · have keep : (place != location) = true := by simpa using same
          simp only [List.filter_cons, keep, if_true, List.lookup_cons, ih]
  have miss : (location' == location) = false := by simpa using other
  simp only [node?, set, List.lookup_cons, miss, kept]

@[simp] theorem allows_set (location location' : List File.Path) (right : Right) :
    (tree.set location node).allows location' right = tree.allows location' right := rfl

@[simp] theorem link?_set (location location' : List File.Path) :
    (tree.set location node).link? location' = tree.link? location' := rfl

end Set

section Grant

@[simp] theorem node?_grant (location location' : List File.Path) :
    (tree.grant location).node? location' = tree.node? location' := rfl

theorem allows_grant (right : Right) : (tree.grant location).allows location' right =
    (decide (location' = location) || tree.allows location' right) := by
  by_cases same : location' = location <;> simp [allows, grant, same]

end Grant

section Walk

theorem node?_of_isDirectory (h : tree.isDirectory location = true) :
    tree.node? location = some .directory := by
  simpa [isDirectory] using h

/-- Only directories are entered. -/
theorem isDirectory_of_enter (leads : tree.enter location name = .ok stop) :
    tree.isDirectory location = true := by
  unfold enter at leads
  split at leads
  · cases leads
  · cases leads
  · rename_i found
    simp [isDirectory, found]

/-- The empty name leads nowhere else. -/
theorem enter_nil (leads : tree.enter location [] = .ok stop) : stop = .there location := by
  simp only [enter, node?_of_isDirectory (isDirectory_of_enter leads)] at leads
  cases leads
  rfl

theorem follow_cons (name : File.Path) (names : List File.Path) :
    tree.follow location (name :: names) = (tree.enter location name).bind fun
      | .there location => tree.follow location names
      | .link location names' => .ok (.link location (names' ++ names)) := by
  cases entered : tree.enter location name with
  | error cause => simp [follow, entered, bind, Except.bind]
  | ok stop => cases stop <;> simp [follow, entered, bind, Except.bind, pure, Except.pure]

theorem follow_cons_eq_ok : tree.follow location (name :: names) = .ok stop ↔
    (∃ location', tree.enter location name = .ok (.there location') ∧
      tree.follow location' names = .ok stop) ∨
    ∃ location' names', tree.enter location name = .ok (.link location' names') ∧
      stop = .link location' (names' ++ names) := by
  rw [follow_cons]
  cases tree.enter location name with
  | error cause => simp [Except.bind]
  | ok next =>
      cases next with
      | there location' => simp [Except.bind]
      | link location' names' =>
          simp only [Except.bind, Except.ok.injEq, Stop.link.injEq]
          constructor
          · intro same
            exact .inr ⟨_, _, ⟨rfl, rfl⟩, same.symm⟩
          · rintro (⟨_, other, -⟩ | ⟨_, _, ⟨rfl, rfl⟩, same⟩)
            · cases other
            · exact same.symm

theorem follow_append (names names' : List File.Path) :
    tree.follow location (names ++ names') = (tree.follow location names).bind fun
      | .there location => tree.follow location names'
      | .link location names => .ok (.link location (names ++ names')) := by
  induction names generalizing location with
  | nil => rfl
  | cons name names ih =>
      rw [List.cons_append, follow_cons, follow_cons]
      cases tree.enter location name with
      | error cause => rfl
      | ok stop =>
          cases stop with
          | there location => exact ih
          | link location names'' => simp [Except.bind]

theorem walk_of_ended (followed : tree.follow location names = .ok (.there location'))
    (links : Nat) : tree.walk links location names = .ok location' := by
  unfold walk
  simp [followed]

theorem walk_of_linked {there rest : List File.Path}
    (followed : tree.follow location names = .ok (.link there rest)) (links : Nat) :
    tree.walk (links + 1) location names = tree.walk links there rest := by
  rw [walk.eq_def]
  simp [followed]

/-- A way can be gone in two parts, with as many links for the second as the first leaves. -/
theorem walk_append (leads : tree.walk links location names = .ok location') :
    ∃ left, ∀ names', tree.walk links location (names ++ names') =
      tree.walk left location' names' := by
  fun_induction tree.walk links location names with
  | case1 => cases leads
  | case2 links here names there followed =>
      cases leads
      refine ⟨links, fun names' => ?_⟩
      have onward : tree.follow here (names ++ names') = tree.follow location' names' := by
        rw [follow_append, followed]
        rfl
      rw [walk.eq_def, onward, ← walk.eq_def]
  | case3 => cases leads
  | case4 here names links there rest followed ih =>
      obtain ⟨left, on⟩ := ih leads
      refine ⟨left, fun names' => ?_⟩
      have onward : tree.follow here (names ++ names') = .ok (.link there (rest ++ names')) := by
        rw [follow_append, followed]
        rfl
      rw [walk_of_linked onward, on]

theorem follow_slash (followed : tree.follow location (names ++ [[]]) = .ok stop) :
    tree.follow location names = .ok stop ∧ (∃ location', stop = .there location') ∨
      ∃ location' names', tree.follow location names = .ok (.link location' names') ∧
        stop = .link location' (names' ++ [[]]) := by
  rw [follow_append] at followed
  cases ahead : tree.follow location names with
  | error cause =>
      rw [ahead] at followed
      cases followed
  | ok stop' =>
      rw [ahead] at followed
      cases stop' with
      | link location' names' =>
          cases followed
          exact .inr ⟨_, _, rfl, rfl⟩
      | there location' =>
          obtain ⟨_, entered, ended⟩ | ⟨_, _, entered, -⟩ := follow_cons_eq_ok.mp followed
          · cases enter_nil entered
            cases ended
            exact .inl ⟨rfl, _, rfl⟩
          · cases enter_nil entered

/-- A slash at the end leads nowhere else. -/
theorem walk_of_slash (leads : tree.walk links location (names ++ [[]]) = .ok location') :
    tree.walk links location names = .ok location' := by
  generalize slashed : names ++ [[]] = names' at leads
  fun_induction tree.walk links location names' generalizing names with
  | case1 => cases leads
  | case2 _ _ _ _ followed =>
      cases leads
      subst slashed
      obtain ⟨before, -⟩ | ⟨_, _, _, other⟩ := follow_slash followed
      · exact walk_of_ended before _
      · cases other
  | case3 => cases leads
  | case4 _ _ _ _ _ followed ih =>
      subst slashed
      obtain ⟨-, _, other⟩ | ⟨_, _, before, same⟩ := follow_slash followed
      · cases other
      · cases same
        exact (walk_of_linked before _).trans (ih rfl leads)

end Walk

/-- Directories stay, and so does all that is allowed and every link. -/
structure Extends (tree tree' : FileTree) : Prop where
  directory : ∀ location, tree.isDirectory location = true → tree'.isDirectory location = true
  allows : ∀ location right, tree.allows location right = true →
    tree'.allows location right = true
  links : tree'.links = tree.links

/-- A file takes the place of no directory. -/
theorem extends_set (free : tree.isDirectory location = false) (content : List UInt8) :
    tree.Extends (tree.set location (.file content)) where
  directory location' h := by
    have other : location' ≠ location := fun same => by simp [same, free] at h
    rw [isDirectory, node?_set_of_ne _ other]
    exact h
  allows _ _ h := h
  links := rfl

theorem extends_grant (tree : FileTree) (location : List File.Path) :
    tree.Extends (tree.grant location) where
  directory _ h := h
  allows _ _ h := by simp [allows_grant, h]
  links := rfl

namespace Extends

theorem trans {tree'' : FileTree} (h : tree.Extends tree') (h' : tree'.Extends tree'') :
    tree.Extends tree'' where
  directory _ := h'.directory _ ∘ h.directory _
  allows _ _ := h'.allows _ _ ∘ h.allows _ _
  links := h'.links.trans h.links

theorem enter (h : tree.Extends tree') (leads : tree.enter location name = .ok stop) :
    tree'.enter location name = .ok stop := by
  have directory := isDirectory_of_enter leads
  have link : tree'.link? (location ++ [name]) = tree.link? (location ++ [name]) := by
    rw [link?, link?, h.links]
  simp only [FileTree.enter, node?_of_isDirectory directory,
    node?_of_isDirectory (h.directory _ directory), link] at leads ⊢
  cases search : tree.allows location .search with
  | true => simpa [search, h.allows _ _ search] using leads
  | false =>
      -- the empty name leads on without a search
      cases empty : name.isEmpty with
      | true => simpa [empty] using leads
      | false => simp [empty, search] at leads

theorem follow (h : tree.Extends tree') (leads : tree.follow location names = .ok stop) :
    tree'.follow location names = .ok stop := by
  induction names generalizing location with
  | nil => exact leads
  | cons name names ih =>
      refine follow_cons_eq_ok.mpr ?_
      obtain ⟨_, entered, onward⟩ | ⟨_, _, entered, rfl⟩ := follow_cons_eq_ok.mp leads
      · exact .inl ⟨_, h.enter entered, ih onward⟩
      · exact .inr ⟨_, _, h.enter entered, rfl⟩

/-- Ways that lead somewhere lead there still. -/
theorem walk (h : tree.Extends tree') (leads : tree.walk links location names = .ok location') :
    tree'.walk links location names = .ok location' := by
  fun_induction tree.walk links location names with
  | case1 => cases leads
  | case2 _ _ _ _ followed =>
      cases leads
      exact walk_of_ended (h.follow followed) _
  | case3 => cases leads
  | case4 _ _ _ _ _ followed ih => exact (walk_of_linked (h.follow followed) _).trans (ih leads)

end Extends

theorem locate_eq_ok : tree.locate path = .ok location ↔ checkPath path = .ok () ∧
    tree.walk mostLinks (tree.base path) (steps path) = .ok location ∧
      (tree.node? location).isSome := by
  unfold locate
  cases checkPath path with
  | error cause => simp [bind, Except.bind]
  | ok =>
      cases tree.walk mostLinks (tree.base path) (steps path) with
      | error cause => simp [bind, Except.bind]
      | ok there =>
          cases found : tree.node? there with
          | none =>
              simp only [bind, Except.bind, found]
              grind
          | some node =>
              simp only [bind, Except.bind, found]
              grind

/-- A link to itself leads nowhere. -/
example : ({ FileTree.empty with links := [([[0x61]], [0x61])] } : FileTree).locate [0x61] =
    .error .tooManyLinks := rfl

/-- A file is put where there is one that may be written, or made in a directory that may be. -/
theorem place_eq_ok {content : List UInt8} (h : tree.place location content = .ok tree') :
    tree.isDirectory location = false ∧
      ((tree.node? location).isSome ∧ tree' = tree.set location (.file content) ∨
        tree.node? location = none ∧
          tree' = (tree.set location (.file content)).grant location) := by
  unfold place at h
  simp only [isDirectory]
  cases found : tree.node? location with
  | none =>
      simp only [found] at h
      split at h
      · cases h
        exact ⟨rfl, .inr ⟨rfl, rfl⟩⟩
      · cases h
  | some node =>
      cases node with
      | directory => simp [found] at h
      | file old =>
          simp only [found] at h
          split at h
          · cases h
            exact ⟨rfl, .inl ⟨rfl, rfl⟩⟩
          · cases h

/-- Writing puts a file where the path leads. -/
theorem write_eq_ok {content : List UInt8} (h : tree.write path content = .ok tree') :
    checkPath path = .ok () ∧ ∃ location,
      tree.walk mostLinks (tree.base path) (steps path) = .ok location ∧
        tree.place location content = .ok tree' := by
  simp only [write, bind, Except.bind] at h
  split at h
  · cases h
  · rename_i checked
    refine ⟨checked, ?_⟩
    split at h
    · split at h
      · cases h
      · cases h
    · rename_i plain
      split at h
      · cases h
      · rename_i location leads
        exact ⟨location, by simpa [steps, plain] using leads, h⟩

/-- Where a path leads after a file has been put there. -/
theorem locate_write {content : List UInt8} (h : tree.write path content = .ok tree') :
    ∃ location, tree'.locate path = .ok location ∧
      tree'.node? location = some (.file content) ∧
      (tree'.allows location .read = true ∨ tree.locate path = .ok location ∧
        (tree.node? location).isSome ∧
        tree'.allows location .read = tree.allows location .read) := by
  obtain ⟨checked, location, leads, put⟩ := write_eq_ok h
  obtain ⟨free, outcome⟩ := place_eq_ok put
  have some : location ≠ [] := fun none => by simp [none, isDirectory, node?] at free
  have found : tree'.node? location = .some (.file content) := by
    obtain ⟨-, rfl⟩ | ⟨-, rfl⟩ := outcome
    · exact node?_set_self _ some
    · exact node?_set_self _ some
  have extended : tree.Extends tree' := by
    obtain ⟨-, rfl⟩ | ⟨-, rfl⟩ := outcome
    · exact extends_set free content
    · exact (extends_set free content).trans (extends_grant ..)
  have base : tree'.base path = tree.base path := by
    obtain ⟨-, rfl⟩ | ⟨-, rfl⟩ := outcome
    · rfl
    · rfl
  refine ⟨location, locate_eq_ok.mpr ⟨checked, base ▸ extended.walk leads, by rw [found]; rfl⟩,
    found, ?_⟩
  obtain ⟨there, rfl⟩ | ⟨-, rfl⟩ := outcome
  · exact .inr ⟨locate_eq_ok.mpr ⟨checked, leads, there⟩, there, rfl⟩
  · exact .inl (by simp [allows_grant])

theorem look_eq_ok {node : FileNode} : tree.look path = .ok node ↔
    ∃ location, tree.locate path = .ok location ∧ tree.node? location = some node := by
  unfold look
  cases tree.locate path with
  | error cause => simp [bind, Except.bind]
  | ok location => cases found : tree.node? location <;> simp [found, bind, Except.bind]

/-- What is there can be opened if it may be read. -/
theorem openPath_eq (leads : tree.locate path = .ok location) {node : FileNode}
    (found : tree.node? location = some node) : tree.openPath path =
      if tree.allows location .read then .ok node else .error .permissionDenied := by
  simp [openPath, leads, found, bind, Except.bind]

/-- What was written can be read, and it alone, unless the file was there and protected. -/
theorem read_write {content : List UInt8} (h : tree.write path content = .ok tree')
    (unprotected : tree.read path ≠ .error .permissionDenied) : tree'.read path = .ok content := by
  obtain ⟨location, leads, found, readable⟩ := locate_write h
  have allowed : tree'.allows location .read = true := by
    obtain readable | ⟨before, there, same⟩ := readable
    · exact readable
    · obtain ⟨node, found⟩ := Option.isSome_iff_exists.mp there
      rw [same]
      refine Decidable.byContradiction fun denied => unprotected ?_
      simp [read, openPath_eq before found, denied, bind, Except.bind]
  simp [read, openPath_eq leads found, allowed, readContent, bind, Except.bind]

theorem readText_write {text : String} (h : tree.write path (File.ofText text) = .ok tree')
    (unprotected : tree.read path ≠ .error .permissionDenied) :
    tree'.readText path = .ok text := by
  simp [readText, read_write h unprotected, File.ofText, Text.ofUtf8?_utf8, bind, Except.bind]

end AlertSound.FileTree
