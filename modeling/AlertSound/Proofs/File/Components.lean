import AlertSound.Proofs.File.Path

/-!
Components of paths: the root, the names, and the steps to the parent, which are kept. Repeated
slashes and a slash at the end make no component, and a dot makes one only where a relative
path begins with it. Two absolute paths with the same components are the same names in the same
order.
-/
namespace AlertSound.File

inductive Component where
  | root
  | here
  | parent
  | name (bytes : Path)
  deriving DecidableEq

namespace Component

def ofName (bytes : Path) : Component := if bytes = [dot, dot] then .parent else .name bytes

def name? : Component → Option Path
  | .root => none
  | .here => some [dot]
  | .parent => some [dot, dot]
  | .name bytes => some bytes

@[simp] theorem name?_ofName (bytes : Path) : (ofName bytes).name? = some bytes := by
  unfold ofName
  split
  · rename_i dots
    rw [dots]
    rfl
  · rfl

@[simp] theorem ofName_eq_parent {bytes : Path} : ofName bytes = .parent ↔ bytes = [dot, dot] := by
  by_cases dots : bytes = [dot, dot]
  · simp [ofName, dots]
  · simp [ofName, dots]

end Component

/-- The names on a path, without single dots. -/
def solidNames (path : Path) : List Path := (names path).filter (· != [dot])

def components (path : Path) : List Component :=
  (if isAbsolute path then [.root]
    else if (names path).head? = some [dot] then [.here] else []) ++
  (solidNames path).map .ofName

/-- The last component, as it is written, if the path has one besides the root. -/
def lastComponent? (path : Path) : Option Path := (components path).getLast?.bind Component.name?

variable {path name : Path} {names' : List Path}

theorem slash_not_mem_of_mem_parts (h : name ∈ parts path) : slash ∉ name := by
  induction path generalizing name with
  | nil =>
      obtain rfl := List.mem_singleton.mp h
      exact List.not_mem_nil
  | cons b path ih =>
      obtain ⟨part, rest, same⟩ := List.exists_cons_of_ne_nil (parts_ne_nil path)
      rw [same] at ih
      simp only [parts, same] at h
      by_cases separates : b = slash
      · rw [if_pos separates] at h
        rcases List.mem_cons.mp h with rfl | h
        · exact List.not_mem_nil
        · exact ih h
      · rw [if_neg separates] at h
        rcases List.mem_cons.mp h with rfl | h
        · simp only [List.mem_cons, not_or]
          exact ⟨Ne.symm separates, ih List.mem_cons_self⟩
        · exact ih (List.mem_cons_of_mem part h)

structure IsSolid (name : Path) : Prop where
  ne_nil : name ≠ []
  slash_not_mem : slash ∉ name
  ne_dot : name ≠ [dot]

theorem isSolid_of_mem (h : name ∈ solidNames path) : IsSolid name := by
  obtain ⟨member, other⟩ := List.mem_filter.mp h
  obtain ⟨part, given⟩ := List.mem_filter.mp member
  exact ⟨by simpa using given, slash_not_mem_of_mem_parts part, by simpa using other⟩

theorem components_of_absolute (absolute : isAbsolute path = true) :
    components path = .root :: (solidNames path).map .ofName := by
  rw [components, if_pos absolute]
  rfl

theorem parent_mem_components (absolute : isAbsolute path = true) :
    .parent ∈ components path ↔ [dot, dot] ∈ solidNames path := by
  simp [components_of_absolute absolute]

theorem getLast?_components_eq_parent (absolute : isAbsolute path = true) :
    (components path).getLast? = some .parent ↔ (solidNames path).getLast? = some [dot, dot] := by
  rw [components_of_absolute absolute, List.getLast?_cons, List.getLast?_map]
  cases (solidNames path).getLast? with
  | none => simp
  | some name => simp

theorem lastComponent?_of_absolute (absolute : isAbsolute path = true) :
    lastComponent? path = (solidNames path).getLast? := by
  rw [lastComponent?, components_of_absolute absolute, List.getLast?_cons, List.getLast?_map]
  cases (solidNames path).getLast? with
  | none => rfl
  | some name => exact Component.name?_ofName name

theorem solidNames_append_slash (front back : Path) :
    solidNames (front ++ slash :: back) = solidNames front ++ solidNames back := by
  simp only [solidNames, names_append_slash, List.filter_append]

theorem solidNames_nil : solidNames [] = [] := rfl

theorem IsSolid.solidNames_eq (h : IsSolid name) : solidNames name = [name] := by
  have given : name.isEmpty = false := List.isEmpty_eq_false_iff.mpr h.ne_nil
  simp [solidNames, names, parts_of_slash_not_mem h.slash_not_mem, given, h.ne_dot]

/-- Names that are each written after a slash are the names on the path. -/
theorem solidNames_join (front : Path) (solid : ∀ name ∈ names', IsSolid name) :
    solidNames (front ++ names'.flatMap (slash :: ·)) = solidNames front ++ names' := by
  induction names' generalizing front with
  | nil => simp
  | cons name names' ih =>
      obtain ⟨first, later⟩ := List.forall_mem_cons.mp solid
      rw [List.flatMap_cons, List.cons_append, solidNames_append_slash, ih name later,
        first.solidNames_eq]
      rfl

theorem components_join (solid : ∀ name ∈ names', IsSolid name) (given : names' ≠ []) :
    components (names'.flatMap (slash :: ·)) = .root :: names'.map .ofName := by
  have absolute : isAbsolute (names'.flatMap (slash :: ·)) = true := by
    obtain ⟨name, rest, rfl⟩ := List.exists_cons_of_ne_nil given
    rfl
  rw [components_of_absolute absolute, ← List.nil_append (names'.flatMap _),
    solidNames_join [] solid, solidNames_nil, List.nil_append]

/-- A slash at the end changes nothing. -/
theorem components_append_slash (absolute : isAbsolute path = true) :
    components (path ++ [slash]) = components path := by
  have absolute' : isAbsolute (path ++ [slash]) = true := by
    cases path with
    | nil => cases absolute
    | cons b path => exact absolute
  rw [components_of_absolute absolute, components_of_absolute absolute', solidNames_append_slash,
    solidNames_nil, List.append_nil]

end AlertSound.File
