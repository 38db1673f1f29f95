import AlertSound.Index.Directory
import AlertSound.Proofs.File.Listing
import AlertSound.Proofs.Text.Decimal

/-!
What the index says of a directory. The ids of its sounds come from the names in it and not
from the order of its entries or from what the files hold, so that writing to a file that is
there changes none of them. The index finds a sound under the name that it has.
-/
namespace AlertSound.SoundDirectories

section Order

theorem precedes_total (a b : File.Path) : (precedes a b || precedes b a) = true := by
  induction a generalizing b with
  | nil => rfl
  | cons x a ih =>
      cases b with
      | nil => rfl
      | cons y b =>
          have rest := ih b
          simp only [precedes, Bool.or_eq_true, Bool.and_eq_true, decide_eq_true_eq,
            beq_iff_eq] at rest ⊢
          cases Nat.lt_trichotomy x.toNat y.toNat with
          | inl less => exact .inl (.inl less)
          | inr other =>
              cases other with
              | inl same =>
                  have same := UInt8.toNat_inj.mp same
                  exact rest.imp (fun h => .inr ⟨same, h⟩) fun h => .inr ⟨same.symm, h⟩
              | inr more => exact .inr (.inl more)

theorem precedes_trans (a b c : File.Path) (ab : precedes a b = true) (bc : precedes b c = true) :
    precedes a c = true := by
  induction a generalizing b c with
  | nil => rfl
  | cons x a ih =>
      cases b with
      | nil => cases ab
      | cons y b =>
          cases c with
          | nil => cases bc
          | cons z c =>
              simp only [precedes, Bool.or_eq_true, Bool.and_eq_true, decide_eq_true_eq,
                beq_iff_eq] at ab bc ⊢
              cases ab with
              | inl less =>
                  cases bc with
                  | inl less' => exact .inl (UInt8.lt_trans less less')
                  | inr same => exact .inl (same.1 ▸ less)
              | inr same =>
                  obtain ⟨rfl, rest⟩ := same
                  exact bc.imp_right fun same => ⟨same.1, ih b c rest same.2⟩

theorem precedes_antisymm (a b : File.Path) (ab : precedes a b = true) (ba : precedes b a = true) :
    a = b := by
  induction a generalizing b with
  | nil =>
      cases b with
      | nil => rfl
      | cons y b => cases ba
  | cons x a ih =>
      cases b with
      | nil => cases ab
      | cons y b =>
          simp only [precedes, Bool.or_eq_true, Bool.and_eq_true, decide_eq_true_eq,
            beq_iff_eq] at ab ba
          cases ab with
          | inl less =>
              cases ba with
              | inl more => exact absurd more (UInt8.lt_asymm less)
              | inr same => exact absurd less (same.1 ▸ UInt8.lt_irrefl _)
          | inr same =>
              obtain ⟨rfl, rest⟩ := same
              cases ba with
              | inl less => exact absurd less (UInt8.lt_irrefl _)
              | inr same => rw [ih b rest same.2]

/-- Names come in the same order whatever order they are listed in. -/
theorem mergeSort_precedes {names names' : List File.Path} (h : names.Perm names') :
    names.mergeSort precedes = names'.mergeSort precedes := by
  refine List.Perm.eq_of_pairwise (fun a b _ _ => precedes_antisymm a b)
    (List.pairwise_mergeSort precedes_trans precedes_total names)
    (List.pairwise_mergeSort precedes_trans precedes_total names') ?_
  exact (List.mergeSort_perm names _).trans (h.trans (List.mergeSort_perm names' _).symm)

end Order

variable {tree : FileTree} {location : List File.Path} {old : List UInt8}

/-- The sounds of a directory that may be read are told from the names in it and from what
their paths lead to. -/
theorem scan_of_locate {directory : File.Path} {place : List File.Path}
    (leads : tree.locate directory = .ok place) (isDirectory : tree.isDirectory place = true) :
    scan tree directory =
      if tree.allows place .read then .ok (number directory 1 (((tree.namesIn place).filter
        fun name => tree.isFile (File.join directory name) && isAudioName name).mergeSort precedes))
      else .error (.permissionDenied (File.display directory)) := by
  rw [scan, FileTree.list_of_locate leads isDirectory]
  cases tree.allows place .read with
  | false => rfl
  | true => rfl

/-- Writing to a file that is there leaves every directory with the sounds it had. -/
theorem scan_overwrite (distinct : tree.Distinct)
    (found : tree.node? location = some (.file old)) (content : List UInt8)
    (directory : File.Path) :
    scan (tree.set location (.file content)) directory = scan tree directory := by
  have leads : (tree.set location (.file content)).locate directory = tree.locate directory :=
    FileTree.locate_overwrite found directory
  cases located : tree.locate directory with
  | error cause =>
      rw [located] at leads
      have same : (tree.set location (.file content)).list directory = tree.list directory := by
        simp only [FileTree.list, located, leads, bind, Except.bind]
      simp only [scan, same, FileTree.isFile_overwrite content found]
  | ok place =>
      rw [located] at leads
      have stays : (tree.set location (.file content)).isDirectory place = tree.isDirectory place :=
        FileTree.isDirectory_overwrite found place
      cases isDirectory : tree.isDirectory place with
      | false =>
          rw [isDirectory] at stays
          have same : (tree.set location (.file content)).list directory = tree.list directory := by
            simp [FileTree.list, located, leads, isDirectory, stays, bind, Except.bind]
          simp only [scan, same, FileTree.isFile_overwrite content found]
      | true =>
          have same := FileTree.namesIn_overwrite content distinct found place
          simp only [scan_of_locate located isDirectory,
            scan_of_locate leads (stays.trans isDirectory), FileTree.allows_set,
            FileTree.isFile_overwrite content found, mergeSort_precedes (same.filter _)]

/-- What the index finds has the name it was asked for, and its id stands in the row. -/
theorem find_id {index : SoundDirectories} {name : String} {rows : List Row} {id : Int64}
    (found : index.find tree name = .ok rows)
    (read : Cursor.cellNumber? (rows.head?.bind fun row => (row[0]?).join) = some id) :
    ∃ entries, scan tree index.inside = .ok entries ∧
      ∃ e ∈ entries, e.displayName = name ∧ e.id = id.toInt := by
  simp only [SoundDirectories.find, bind, Except.bind] at found
  split at found
  · cases found
  · rename_i entries listed
    cases found
    cases first : (entries.filter fun e => e.displayName == name).head? with
    | none => simp [List.head?_map, first, Cursor.cellNumber?] at read
    | some e =>
        obtain ⟨member, same⟩ := List.mem_filter.mp (List.mem_of_head? first)
        refine ⟨entries, listed, e, member, by simpa using same, ?_⟩
        have cell : Text.int64? (Text.trim (toString e.id)) = some id := by
          simpa [List.head?_map, first, Cursor.cellNumber?, Entry.row, Entry.cell] using read
        rw [Text.trim_toString] at cell
        exact (Text.toInt_of_int64? cell).symm

end AlertSound.SoundDirectories
