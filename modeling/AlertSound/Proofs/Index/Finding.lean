import AlertSound.Proofs.Index.Numbering

/-!
Sounds that sound directories have. Whichever columns are asked for, there is a row for such
a sound or there is none. The id that a name is found by leads to one, and a name that one is
shown for is found by an id.
-/
namespace AlertSound.SoundDirectories

/-- Whatever is asked of the sound, there is a row for it. -/
def Indexes (index : SoundDirectories) (tree : FileTree) (r : Locator) : Prop :=
  ∀ columns, ∃ rows, index.query tree r columns = .ok rows ∧ rows ≠ []

variable {index : SoundDirectories} {tree : FileTree} {r : Locator}

/-- A question is answered with entries, whichever columns are asked for. -/
theorem query_eq_map (index : SoundDirectories) (tree : FileTree) (r : Locator) :
    ∃ entries : Except QueryError (List Entry), ∀ columns,
      index.query tree r columns = entries.map (List.map fun e => e.row columns) := by
  simp only [query]
  cases r.origin with
  | localFile =>
      cases known : r.filePath? with
      | none => exact ⟨.ok [], fun columns => by simp [queryFile, known, Except.map]⟩
      | some path =>
          cases isFile : tree.isFile path with
          | true =>
              exact ⟨.ok [⟨0, path⟩], fun columns => by simp [queryFile, known, isFile, Except.map]⟩
          | false => exact ⟨.ok [], fun columns => by simp [queryFile, known, isFile, Except.map]⟩
  | drmIndex => exact ⟨.error (.permissionDenied r.text), fun columns => rfl⟩
  | settingsDefault => exact ⟨.ok [], fun columns => rfl⟩
  | mediaIndex =>
      simp only [queryMedia]
      split
      · exact ⟨.ok [], fun columns => rfl⟩
      · rename_i directory id _ _
        refine ⟨(scan tree directory).map (List.filter fun e => e.id == id.toInt),
          fun columns => ?_⟩
        cases scan tree directory with
        | error e => rfl
        | ok entries => rfl
      · rename_i directory _ _
        split
        · refine ⟨scan tree directory, fun columns => ?_⟩
          cases scan tree directory with
          | error e => rfl
          | ok entries => rfl
        · exact ⟨.ok [], fun columns => rfl⟩

theorem Indexes.of_query {columns : List Column} {rows : List Row}
    (asked : index.query tree r columns = .ok rows) (some : rows ≠ []) : index.Indexes tree r := by
  obtain ⟨entries, same⟩ := query_eq_map index tree r
  intro columns'
  rw [same] at asked ⊢
  cases entries with
  | error e => cases asked
  | ok entries =>
      cases asked
      exact ⟨_, rfl, by simpa using some⟩

/-- Defaults are not indexed. -/
theorem Indexes.origin_ne (h : index.Indexes tree r) : r.origin ≠ .settingsDefault := by
  intro default
  obtain ⟨rows, asked, some⟩ := h []
  simp only [query, default, Except.ok.injEq] at asked
  exact some asked.symm

/-- What a name is found by leads to the sound. -/
theorem indexes_of_find {name : String} {rows : List Row} {id : Int64}
    (found : index.find tree name = .ok rows)
    (read : Cursor.cellNumber? (rows.head?.bind fun row => (row[0]?).join) = some id) :
    index.Indexes tree (.media .inside id) := by
  obtain ⟨entries, scanned, e, member, -, same⟩ := find_id found read
  intro columns
  refine ⟨(entries.filter fun e => e.id == id.toInt).map fun e => e.row columns, ?_, ?_⟩
  · simp only [query, Locator.origin_media, queryMedia, Locator.storage?_media, Option.bind_some,
      directory?, Locator.id?_media, scanned]
    rfl
  · refine List.ne_nil_of_mem (List.mem_map_of_mem (List.mem_filter.mpr ⟨member, ?_⟩))
    exact beq_iff_eq.mpr same

/-- A name that a sound is shown for is answered with an id, if the sounds can be counted. -/
theorem exists_id {place names : List File.Path} (proper : tree.Proper)
    (sounds : Sounds tree index.inside place names)
    (few : (names.length : Int) ≤ Int64.maxValue.toInt) {name : File.Path} (member : name ∈ names) :
    ∃ rows id, index.find tree (File.display name) = .ok rows ∧
      Cursor.cellNumber? (rows.head?.bind fun row => (row[0]?).join) = some id := by
  obtain ⟨position, there⟩ := List.getElem?_of_mem member
  have some : (name, position) ∈ shown names (File.display name) := mem_shown.mpr ⟨there, rfl⟩
  have found := sounds.find_eq proper (File.display name)
  cases all : shown names (File.display name) with
  | nil => simp [all] at some
  | cons first rest =>
      have inside : first.2 < names.length := by
        have first : (first.1, first.2) ∈ shown names (File.display name) := by simp [all]
        exact (List.getElem?_eq_some_iff.mp (mem_shown.mp first).1).1
      have most : Int64.maxValue.toInt = 2 ^ 63 - 1 := by decide
      obtain ⟨id, numbered⟩ : ∃ id : Int64, id.toInt = first.2 + 1 :=
        ⟨_, Int64.toInt_ofInt_of_le (by omega) (by omega)⟩
      refine ⟨_, id, found, ?_⟩
      simp only [all, List.map_cons, List.head?_cons, Option.bind_some, List.getElem?_cons_zero,
        Option.join_some, Cursor.cellNumber?, Text.trim_toString]
      rw [← numbered, Text.int64?_toString]

end AlertSound.SoundDirectories
