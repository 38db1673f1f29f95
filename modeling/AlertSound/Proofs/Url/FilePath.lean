import AlertSound.Proofs.File.Components
import AlertSound.Proofs.Url.Literal

/-!
The `file` URLs of paths. A name becomes a segment in literal characters, from which its bytes
are read back whichever they are. So the URL of an absolute path leads to the names of the path
again, and dot segments are in it only for the steps to the parent that the path has.
-/
namespace AlertSound.Url

open File (slash dot)

/-- However its dots are written, a segment of dots is read as dots. -/
theorem percentDecode_of_dotCount? {cs : List Char} {n : Nat} (h : dotCount? cs = some n) :
    Text.percentDecode cs = List.replicate n dot := by
  fun_induction dotCount? cs generalizing n with
  | case1 =>
      cases h
      rfl
  | case2 rest ih =>
      obtain ⟨m, count, rfl⟩ := Option.map_eq_some_iff.mp h
      rw [Text.percentDecode_cons (by decide), ih count]
      rfl
  | case3 rest ih | case4 rest ih =>
      obtain ⟨m, count, rfl⟩ := Option.map_eq_some_iff.mp h
      rw [List.replicate_succ, ← ih count, Text.percentDecode]
      rfl
  | case5 => cases h

def escapedName (name : File.Path) : List Char := Text.percentEncodeBytes isNameEscaped name

section Escaped

variable (name : File.Path)

theorem percentDecode_escapedName : Text.percentDecode (escapedName name) = name :=
  Text.percentDecode_percentEncodeBytes (by decide) name

theorem isLiteral_of_mem_percentByte {c : Char} {b : UInt8} (mem : c ∈ Text.percentByte b) :
    isLiteral c = true := by
  have digits : ∀ n < 16, isLiteral (Text.hexDigit n true) = true := by decide
  have size := b.toNat_lt
  simp only [Text.percentByte, List.mem_cons, List.not_mem_nil, or_false] at mem
  rcases mem with rfl | rfl | rfl
  · decide
  · exact digits _ (by omega)
  · exact digits _ (by omega)

theorem literal_escapedName : Literal (escapedName name) := by
  intro c mem
  obtain ⟨b, -, mem⟩ := List.mem_flatMap.mp mem
  simp only at mem
  split at mem
  · rename_i kept
    obtain rfl := List.mem_singleton.mp mem
    simp only [Bool.and_eq_true, decide_eq_true_eq, Bool.not_eq_true'] at kept
    have small : (Char.ofNat b.toNat).toNat < 0x80 := by
      have small : b.toNat < 0x80 := UInt8.lt_iff_toNat_lt.mp kept.1
      rwa [Text.toNat_ofNat small]
    simp only [isNameEscaped, Bool.or_eq_false_iff, List.contains_eq_mem,
      decide_eq_false_iff_not] at kept
    have mark (c : Char) (special : c ∈ "/%\\".toList) : Char.ofNat b.toNat ≠ c :=
      fun same => kept.2.2 (same ▸ special)
    simp only [isLiteral, small, kept.2.1, decide_true, Bool.not_false, Bool.and_self,
      Bool.true_and, Bool.and_eq_true, bne_iff_ne]
    exact ⟨mark '/' (by decide), mark '\\' (by decide)⟩
  · exact isLiteral_of_mem_percentByte mem

theorem escapedName_eq_nil : escapedName name = [] ↔ name = [] := by
  constructor
  · intro empty
    rw [← percentDecode_escapedName name, empty]
    rfl
  · rintro rfl
    rfl

/-- The only dot segments are those of the names that are dots. -/
theorem isDots_escapedName :
    isDots (escapedName name) = true ↔ name = [dot] ∨ name = [dot, dot] := by
  constructor
  · intro dots
    have counted (n : Nat) (count : dotCount? (escapedName name) = some n) :
        name = List.replicate n dot := by
      rw [← percentDecode_escapedName name, percentDecode_of_dotCount? count]
    simp only [isDots, isHere, isParent, Bool.or_eq_true, beq_iff_eq] at dots
    exact dots.imp (counted 1) (counted 2)
  · rintro (rfl | rfl)
    · rfl
    · rfl

end Escaped

theorem splitAll_eq_parts (path : File.Path) :
    splitAll (· == '/'.toUInt8) path = File.parts path := by
  induction path with
  | nil => rfl
  | cons b path ih =>
      obtain ⟨part, rest, same⟩ := List.exists_cons_of_ne_nil (File.parts_ne_nil path)
      have separator : (b == '/'.toUInt8) = decide (b = slash) := rfl
      simp only [splitAll, ih, same, File.parts, separator, decide_eq_true_eq]

theorem fileNames_eq (path : File.Path) : fileNames path = File.solidNames path := by
  simp only [fileNames, splitAll_eq_parts, File.solidNames, File.names, List.filter_filter,
    Bool.and_comm]
  rfl

/-- The segments that stand for these names. -/
def nameSegments (names : List File.Path) : List (List Char) :=
  if names.isEmpty then [[]] else names.map escapedName

def ofNames (names : List File.Path) : Url :=
  ⟨"file", .blank, .ofSegments (nameSegments names), none, none⟩

variable {path : File.Path} {names : List File.Path}

theorem ofFilePath?_eq (path : File.Path) : ofFilePath? path =
    if File.isAbsolute path then some (ofNames (File.solidNames path)) else none := by
  have absolute : (path.head? == some '/'.toUInt8) = File.isAbsolute path := rfl
  simp only [ofFilePath?, fileNames_eq, absolute, ofNames, nameSegments, Path.ofSegments]
  cases File.solidNames path with
  | nil => rfl
  | cons name names => simp [escapedName, Function.comp_def]

theorem literal_nameSegments (names : List File.Path) :
    ∀ segment ∈ nameSegments names, Literal segment := by
  cases names with
  | nil => exact List.forall_mem_singleton.mpr literal_nil
  | cons first rest => exact List.forall_mem_map.mpr fun name _ => literal_escapedName name

section Solid

variable (solid : ∀ name ∈ names, File.IsSolid name)

include solid

/-- No segment is empty, but that of the root. -/
theorem nameSegments_eq_cons : ∃ first rest, nameSegments names = first :: rest ∧
    (first ≠ [] ∨ first :: rest = [[]]) := by
  cases names with
  | nil => exact ⟨[], [], rfl, .inr rfl⟩
  | cons name names =>
      refine ⟨_, _, rfl, .inl ?_⟩
      exact mt (escapedName_eq_nil name).mp (solid name List.mem_cons_self).ne_nil

/-- The dot segments of a path are its steps to the parent. -/
theorem kept_nameSegments : Kept (nameSegments names) ↔ [dot, dot] ∉ names := by
  cases names with
  | nil => exact iff_of_true (List.forall_mem_singleton.mpr isDots_nil) List.not_mem_nil
  | cons first rest =>
      have segments : nameSegments (first :: rest) = (first :: rest).map escapedName := rfl
      rw [segments, Kept, List.forall_mem_map]
      constructor
      · intro kept member
        have settled := kept [dot, dot] member
        rw [(isDots_escapedName [dot, dot]).mpr (.inr rfl)] at settled
        cases settled
      · intro other name member
        rw [← Bool.not_eq_true, isDots_escapedName]
        rintro (single | double)
        · exact (solid name member).ne_dot single
        · exact other (double ▸ member)

end Solid

/-- Closing a drive adds no more than a slash. -/
theorem components_closeDrive (absolute : File.isAbsolute path = true) :
    File.components (closeDrive path) = File.components path := by
  unfold closeDrive
  split
  · split
    · exact File.components_append_slash absolute
    · rfl
  · rfl

/-- The URL of names leads to these names. -/
theorem filePath?_ofNames (solid : ∀ name ∈ names, File.IsSolid name) :
    ∃ path, filePath? (ofNames names) = some path ∧
      File.components path = .root :: names.map File.Component.ofName := by
  cases names with
  | nil => exact ⟨[slash], rfl, rfl⟩
  | cons name rest =>
      have segments : (ofNames (name :: rest)).segments? =
          some (((name :: rest).map escapedName).map String.ofList) := rfl
      have unnamed : (ofNames (name :: rest)).hostText? = none := rfl
      have decoded : (((name :: rest).map escapedName).map String.ofList).flatMap
          (fun segment => '/'.toUInt8 :: Text.percentDecode segment.toList) =
            (name :: rest).flatMap (slash :: ·) := by
        simp only [List.flatMap_map, String.toList_ofList, percentDecode_escapedName]
        rfl
      refine ⟨closeDrive ((name :: rest).flatMap (slash :: ·)), ?_, ?_⟩
      · simp only [filePath?, unnamed, segments, Option.filter_none, decoded]
      · rw [components_closeDrive rfl, File.components_join solid (List.cons_ne_nil name rest)]

end AlertSound.Url
