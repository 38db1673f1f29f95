import AlertSound.File.Path
import Mathlib.Data.List.Basic

/-!
Names on paths. The names of a path that leads into a directory are those of the
directory and then the name in it, however the directory is written.
-/
namespace AlertSound.File

/-- What may stand in a directory. -/
structure IsName (name : Path) : Prop where
  ne_nil : name ≠ []
  slash_not_mem : slash ∉ name
  zero_not_mem : 0 ∉ name
  ne_dot : name ≠ [dot]
  ne_dots : name ≠ [dot, dot]

instance (name : Path) : Decidable (IsName name) :=
  decidable_of_iff
    (name ≠ [] ∧ slash ∉ name ∧ 0 ∉ name ∧ name ≠ [dot] ∧ name ≠ [dot, dot])
    ⟨fun h => ⟨h.1, h.2.1, h.2.2.1, h.2.2.2.1, h.2.2.2.2⟩,
      fun h => ⟨h.ne_nil, h.slash_not_mem, h.zero_not_mem, h.ne_dot, h.ne_dots⟩⟩

theorem parts_ne_nil (path : Path) : parts path ≠ [] := by
  cases path with
  | nil => simp [parts]
  | cons b bs =>
      unfold parts
      split
      · simp
      · split <;> simp

theorem parts_append_slash (front back : Path) :
    parts (front ++ slash :: back) = parts front ++ parts back := by
  induction front with
  | nil =>
      obtain ⟨part, rest, same⟩ := List.exists_cons_of_ne_nil (parts_ne_nil back)
      simp [parts, same]
  | cons b front ih =>
      obtain ⟨part, rest, same⟩ := List.exists_cons_of_ne_nil (parts_ne_nil front)
      simp only [List.cons_append, parts, ih, same]
      split
      · rfl
      · rfl

theorem parts_of_slash_not_mem {path : Path} (h : slash ∉ path) : parts path = [path] := by
  induction path with
  | nil => rfl
  | cons b path ih =>
      simp only [List.mem_cons, not_or] at h
      simp [parts, ih h.2, Ne.symm h.1]

theorem names_append_slash (front back : Path) :
    names (front ++ slash :: back) = names front ++ names back := by
  simp only [names, parts_append_slash, List.filter_append]

variable {name : Path} (directory : Path)

theorem IsName.names_eq (h : IsName name) : names name = [name] := by
  have kept : name.isEmpty = false := List.isEmpty_eq_false_iff.mpr h.ne_nil
  simp [names, parts_of_slash_not_mem h.slash_not_mem, kept]

theorem IsName.isAbsolute_eq (h : IsName name) : isAbsolute name = false := by
  cases name with
  | nil => rfl
  | cons b rest =>
      have first : slash ≠ b := fun same => h.slash_not_mem (same ▸ List.mem_cons_self)
      simpa [isAbsolute] using first.symm

/-- A slash is put between, unless the directory ends in one. -/
theorem join_eq (h : IsName name) : join directory name = directory ++
    (if directory.isEmpty || directory.getLast? == some slash then [] else [slash]) ++ name := by
  simp only [join, h.isAbsolute_eq, Bool.false_eq_true, if_false]
  split
  · rw [List.append_nil]
  · rw [List.append_assoc, List.singleton_append]

theorem join_injective {name' : Path} (h : IsName name) (h' : IsName name')
    (same : join directory name = join directory name') : name = name' := by
  rw [join_eq directory h, join_eq directory h'] at same
  exact List.append_cancel_left same

theorem names_join (h : IsName name) :
    names (join directory name) = names directory ++ [name] := by
  have nothing : names [] = [] := by simp [names, parts]
  rw [join_eq directory h]
  split
  · rename_i closed
    rw [List.append_nil]
    cases (Bool.or_eq_true ..).mp closed with
    | inl empty => rw [List.isEmpty_iff.mp empty, List.nil_append, h.names_eq, nothing]; rfl
    | inr ended =>
        -- The slash at the end of the directory separates it from the name.
        obtain ⟨front, rfl⟩ := List.getLast?_eq_some_iff.mp (beq_iff_eq.mp ended)
        rw [List.append_assoc, List.singleton_append, names_append_slash, names_append_slash,
          h.names_eq, nothing, List.append_nil]
  · rw [List.append_assoc, List.singleton_append, names_append_slash, h.names_eq]

theorem lastName?_join (h : IsName name) : lastName? (join directory name) = some name := by
  have kept : (name != [dot]) = true := bne_iff_ne.mpr h.ne_dot
  have last : ((names (join directory name)).filter (· != [dot])).getLast? = some name := by
    simp only [names_join directory h, List.filter_append, List.filter_cons, kept, if_true,
      List.filter_nil, List.getLast?_concat]
  simp only [lastName?, last, h.ne_dots, if_false]

theorem getLast?_join (h : IsName name) : (join directory name).getLast? ≠ some slash := by
  intro last
  rw [join_eq directory h, List.getLast?_append_of_ne_nil _ h.ne_nil] at last
  exact h.slash_not_mem (List.mem_of_getLast? last)

theorem isAbsolute_join (h : IsName name) (given : directory ≠ []) :
    isAbsolute (join directory name) = isAbsolute directory := by
  obtain ⟨b, rest, rfl⟩ := List.exists_cons_of_ne_nil given
  rw [join_eq _ h]
  rfl

end AlertSound.File
