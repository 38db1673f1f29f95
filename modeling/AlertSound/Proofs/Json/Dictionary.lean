import AlertSound.Json.Dictionary
import AlertSound.Proofs.Json.Literal

/-!
Dictionaries are read back. Setting a key keeps the keys ascending, whatever was there; a
dictionary with ascending keys is written with its members in order, and each of them is
read in its turn and set behind those before it.
-/
namespace AlertSound.Dictionary

/-- Keys ascend, so that none comes twice. -/
def Ascending (d : Dictionary) : Prop := d.entries.Pairwise fun e e' => e.1 < e'.1

variable {d : Dictionary} {key value : String} {entries : List (String × String)}

theorem ascending_empty : empty.Ascending := .nil

theorem key_of_mem_insertEntry {e : String × String} (he : e ∈ insertEntry key value entries) :
    e.1 = key ∨ e ∈ entries := by
  induction entries with
  | nil =>
      cases List.mem_singleton.mp he
      exact .inl rfl
  | cons head rest ih =>
      obtain ⟨k, v⟩ := head
      unfold insertEntry at he
      split at he
      · cases List.mem_cons.mp he with
        | inl new => exact .inl (new ▸ rfl)
        | inr old => exact .inr old
      · split at he
        · cases List.mem_cons.mp he with
          | inl new => exact .inl (new ▸ rfl)
          | inr old => exact .inr (List.mem_cons_of_mem _ old)
        · cases List.mem_cons.mp he with
          | inl first => exact .inr (first ▸ List.mem_cons_self)
          | inr later => exact (ih later).imp_right (List.mem_cons_of_mem _)

theorem Ascending.insert (h : d.Ascending) (key value : String) :
    (d.insert key value).Ascending := by
  obtain ⟨entries⟩ := d
  change (insertEntry key value entries).Pairwise fun e e' => e.1 < e'.1
  induction entries with
  | nil => exact List.pairwise_singleton ..
  | cons head rest ih =>
      obtain ⟨k, v⟩ := head
      obtain ⟨before, rest'⟩ := List.pairwise_cons.mp h
      unfold insertEntry
      split
      · rename_i less
        refine List.pairwise_cons.mpr ⟨fun e he => ?_, h⟩
        cases List.mem_cons.mp he with
        | inl first => exact first ▸ less
        | inr later => exact String.lt_trans less (before e later)
      · rename_i less
        split
        · rename_i same
          exact List.pairwise_cons.mpr ⟨fun e he => same ▸ before e he, rest'⟩
        · rename_i other
          refine List.pairwise_cons.mpr ⟨fun e he => ?_, ih rest'⟩
          cases key_of_mem_insertEntry he with
          | inl new =>
              exact new ▸ Std.lt_of_le_of_ne (String.not_lt.mp less) (Ne.symm other)
          | inr old => exact before e old

theorem lookup_cons_eq (key' key value : String) (entries : List (String × String)) :
    List.lookup key' ((key, value) :: entries) =
      if key' = key then some value else List.lookup key' entries := by
  by_cases same : key' = key
  · simp [same]
  · have miss : (key' == key) = false := by simpa using same
    simp [List.lookup_cons, miss, same]

/-- Setting a key changes what that key holds and nothing else. -/
theorem get?_insert (d : Dictionary) (key value key' : String) :
    (d.insert key value).get? key' = if key' = key then some value else d.get? key' := by
  obtain ⟨entries⟩ := d
  change List.lookup key' (insertEntry key value entries) = if _ then _ else List.lookup key' entries
  induction entries with
  | nil => exact lookup_cons_eq ..
  | cons head rest ih =>
      obtain ⟨k, v⟩ := head
      unfold insertEntry
      split
      · exact lookup_cons_eq ..
      · split
        · rename_i here
          subst here
          simp only [lookup_cons_eq]
          split <;> rfl
        · rename_i other
          simp only [lookup_cons_eq, ih]
          split
          · rename_i first
            rw [if_neg fun same => other (same.symm.trans first)]
          · rfl

/-- A key behind all others is set behind them. -/
theorem insertEntry_eq_append (h : ∀ e ∈ entries, e.1 < key) :
    insertEntry key value entries = entries ++ [(key, value)] := by
  induction entries with
  | nil => rfl
  | cons head rest ih =>
      obtain ⟨k, v⟩ := head
      obtain ⟨less, rest'⟩ := List.forall_mem_cons.mp h
      have first : ¬key < k := String.lt_asymm less
      have other : key ≠ k := fun same => String.lt_irrefl k (same ▸ less)
      simp [insertEntry, first, other, ih rest']

theorem foldl_insert_eq (h : (d.entries ++ entries).Pairwise fun e e' => e.1 < e'.1) :
    entries.foldl (fun d e => d.insert e.1 e.2) d = ⟨d.entries ++ entries⟩ := by
  induction entries generalizing d with
  | nil => simp
  | cons e entries ih =>
      obtain ⟨-, -, before⟩ := List.pairwise_append.mp h
      have last : d.insert e.1 e.2 = ⟨d.entries ++ [e]⟩ := by
        rw [insert, insertEntry_eq_append fun e' he => before e' he e List.mem_cons_self]
      rw [List.foldl_cons, last, ih (by simpa using h)]
      simp

section Members

open Json

variable (entry : String × String) (cs : List Char)

def valueText : List Char := ": ".toList ++ literal entry.2

theorem skipBlanks_memberText :
    skipBlanks (memberText entry ++ cs) =
      '"' :: (entry.1.toList.flatMap escape ++ '"' :: (valueText entry ++ cs)) := by
  simp [memberText, valueText, literal, skipBlanks, List.dropWhile, isBlank]

/-- A key is read behind blanks or without. -/
theorem key_of_skipBlanks {name : String} {cs rest : List Char}
    (h : skipBlanks cs = '"' :: (name.toList.flatMap escape ++ '"' :: rest)) :
    Json.key cs = .ok (name, rest) := by
  simp only [Json.key, start, h, readContent_literal]

theorem member_first :
    member true (memberText entry ++ cs) = .ok (.key entry.1 (valueText entry ++ cs)) := by
  have text :
      skipBlanks ('"' :: (entry.1.toList.flatMap escape ++ '"' :: (valueText entry ++ cs))) =
      '"' :: (entry.1.toList.flatMap escape ++ '"' :: (valueText entry ++ cs)) := rfl
  simp [member, skipBlanks_memberText, key_of_skipBlanks text, Except.map]

theorem member_next :
    member false (',' :: (memberText entry ++ cs)) =
      .ok (.key entry.1 (valueText entry ++ cs)) := by
  have comma : skipBlanks (',' :: (memberText entry ++ cs)) = ',' :: (memberText entry ++ cs) := rfl
  simp [member, comma, key_of_skipBlanks (skipBlanks_memberText entry cs), Except.map]

theorem colon_valueText :
    colon (valueText entry ++ cs) = .ok (' ' :: (literal entry.2 ++ cs)) := rfl

theorem string_literal (s : String) : string (' ' :: (literal s ++ cs)) = .ok (s, cs) := by
  have blank : skipBlanks (' ' :: (literal s ++ cs)) =
      '"' :: (s.toList.flatMap escape ++ '"' :: cs) := by
    simp [literal, skipBlanks, isBlank]
  simp only [string, start, blank, readContent_literal]

/-- One member is read and set in one step. -/
theorem members_entry (fuel : Nat) (d : Dictionary) {first : Bool} {rest : List Char}
    (h : member first cs = .ok (.key entry.1 (valueText entry ++ rest))) :
    members (fuel + 1) first d cs = members fuel false (d.insert entry.1 entry.2) rest := by
  simp only [members, h, colon_valueText, string_literal, bind, Except.bind]

/-- The members behind the first, each with the comma before it. -/
theorem members_rest {fuel : Nat} {entries : List (String × String)} (h : entries.length < fuel)
    (d : Dictionary) :
    members fuel false d
        ((entries.flatMap fun e => ',' :: memberText e) ++ "\n\x7d".toList) =
      .ok (entries.foldl (fun d e => d.insert e.1 e.2) d, []) := by
  induction entries generalizing fuel d with
  | nil =>
      cases fuel with
      | zero => cases h
      | succ fuel => rfl
  | cons e entries ih =>
      cases fuel with
      | zero => cases h
      | succ fuel =>
          have next := member_next e ((entries.flatMap fun e => ',' :: memberText e) ++
            "\n\x7d".toList)
          rw [List.flatMap_cons, List.cons_append, List.cons_append, List.append_assoc,
            members_entry e _ fuel d next, ih (Nat.lt_of_succ_lt_succ h)]
          rfl

end Members

theorem flatten_intersperse {α β : Type} (f : α → List β) (comma : β) (x : α) (xs : List α) :
    ((f x :: xs.map f).intersperse [comma]).flatten = f x ++ xs.flatMap fun y => comma :: f y := by
  induction xs generalizing x with
  | nil => simp
  | cons y xs ih =>
      rw [List.map_cons, List.intersperse_cons_cons, List.flatten_cons, List.flatten_cons, ih]
      simp

/-- A dictionary is read as what it was written for. -/
theorem ofJson_toJson (h : d.Ascending) : ofJson d.toJson = .ok d := by
  have read : reader d.chars = .ok (d, []) := by
    obtain ⟨entries⟩ := d
    cases entries with
    | nil => rfl
    | cons e entries =>
        have chars : chars ⟨e :: entries⟩ = '\x7b' :: (memberText e ++
            ((entries.flatMap fun e => ',' :: memberText e) ++ "\n\x7d".toList)) := by
          simp [chars, flatten_intersperse]
        have enough : entries.length < (memberText e ++
            ((entries.flatMap fun e => ',' :: memberText e) ++ "\n\x7d".toList)).length := by
          have grows := Json.length_le_length_flatMap (fun e => List.cons_ne_nil ',' (memberText e))
            entries
          simp only [List.length_append]
          exact Nat.lt_of_le_of_lt grows (by simp; omega)
        have sorted : (empty.entries ++ e :: entries).Pairwise fun e e' => e.1 < e'.1 := h
        have set := foldl_insert_eq sorted
        rw [List.foldl_cons] at set
        rw [chars]
        change members _ true empty _ = _
        rw [members_entry e _ _ _ (member_first e _), members_rest enough, set]
        rfl
  simp [ofJson, Json.whole, toJson, read, Json.skipBlanks, bind, Except.bind]

theorem Ascending.members {fuel : Nat} {first : Bool} {d d' : Dictionary} {cs rest : List Char}
    (h : d.Ascending) (read : members fuel first d cs = .ok (d', rest)) : d'.Ascending := by
  induction fuel generalizing first d cs with
  | zero => cases read
  | succ fuel ih =>
      simp only [Dictionary.members, bind, Except.bind] at read
      split at read
      · cases read
      · split at read
        · cases read
          exact h
        · split at read
          · cases read
          · split at read
            · cases read
            · exact ih (h.insert ..) read

/-- Whatever object is read, its keys are put in order. -/
theorem ascending_ofJson {s : String} (read : ofJson s = .ok d) : d.Ascending := by
  simp only [ofJson, Json.whole, reader, Json.start, bind, Except.bind] at read
  split at read
  · cases read
  · rename_i found value
    split at read
    · cases read
      split at value
      · cases value
      · split at value
        · exact ascending_empty.members value
        · cases value
    · cases read

end AlertSound.Dictionary
