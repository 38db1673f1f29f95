import AlertSound.Url.Parse

/-!
Segments of paths. Reading a path keeps no dot segment, and a path without dot segments is
read as it stands, but that a `file` path writes a drive letter at its start with a colon. So
the segments of a URL that was read can be given to it again, all or some of them, and come
out unchanged. Only a drive letter that a line break follows has a segment after it that is
not read at all.
-/
namespace AlertSound.Url

/-- A segment that would be resolved instead of kept. -/
def isDots (segment : List Char) : Bool := isHere segment || isParent segment

theorem isDots_nil : isDots [] = false := rfl

theorem isHere_of_not_isDots {segment : List Char} (h : isDots segment = false) :
    isHere segment = false :=
  (Bool.or_eq_false_iff.mp h).1

theorem isParent_of_not_isDots {segment : List Char} (h : isDots segment = false) :
    isParent segment = false :=
  (Bool.or_eq_false_iff.mp h).2

variable {isFile : Bool} {stack : List (List Char)} {piece : Piece} {segment : List Char}

theorem firstOfFile_false (stack : List (List Char)) (segment : List Char) :
    firstOfFile false stack segment = segment := rfl

theorem firstOfFile_of_ne_nil (given : stack ≠ []) (segment : List Char) :
    firstOfFile isFile stack segment = segment := by
  simp [firstOfFile, List.isEmpty_eq_false_iff.mpr given]

theorem exists_letter_of_isDriveLetter (drive : isDriveLetter segment = true) :
    ∃ letter mark, segment = [letter, mark] ∧ isAsciiLetter letter = true := by
  match segment, drive with
  | [letter, mark], drive => exact ⟨letter, mark, rfl, (Bool.and_eq_true_iff.mp drive).1⟩

/-- A drive letter is written with a letter before its mark, so with no dot. -/
theorem isDots_firstOfFile (h : isDots segment = false) :
    isDots (firstOfFile isFile stack segment) = false := by
  unfold firstOfFile
  split
  · rename_i drive
    simp only [Bool.and_eq_true] at drive
    obtain ⟨letter, mark, rfl, first⟩ := exists_letter_of_isDriveLetter drive.2
    have undotted : dotCount? [letter, ':'] = none := by
      unfold dotCount?
      split
      all_goals rename_i same; cases same
      · exact absurd first (by decide)
      · rfl
    simp [isDots, isHere, isParent, undotted]
  · exact h

/-- With its colon a drive letter is written as it will be. -/
theorem firstOfFile_firstOfFile (segment : List Char) :
    firstOfFile isFile [] (firstOfFile isFile [] segment) = firstOfFile isFile [] segment := by
  by_cases drive : (isFile && isDriveLetter segment) = true
  · simp only [Bool.and_eq_true] at drive
    obtain ⟨letter, mark, rfl, first⟩ := exists_letter_of_isDriveLetter drive.2
    have written : firstOfFile isFile [] [letter, mark] = [letter, ':'] := by
      simp [firstOfFile, drive]
    rw [written]
    simp [firstOfFile, isDriveLetter, first]
  · have same : firstOfFile isFile [] segment = segment := by simp [firstOfFile, drive]
    rw [same, same]

theorem firstOfFile_ne_nil (given : segment ≠ []) : firstOfFile isFile stack segment ≠ [] := by
  unfold firstOfFile
  split
  · simp
  · exact given

theorem partedAtStart_false (stack : List (List Char)) (piece : Piece) :
    partedAtStart false stack piece = none := by
  cases piece with
  | plain text => rfl
  | parted drive rest => rfl

def Kept (stack : List (List Char)) : Prop := ∀ segment ∈ stack, isDots segment = false

namespace Kept

variable (kept : Kept stack)

include kept

theorem snoc (h : isDots segment = false) : Kept (stack ++ [segment]) := by
  intro other he
  cases List.mem_append.mp he with
  | inl he => exact kept other he
  | inr he => exact List.mem_singleton.mp he ▸ h

theorem dropParent : Kept (dropParent stack) := by
  unfold Url.dropParent
  split
  · split
    · exact kept
    · exact fun segment he => kept segment (List.dropLast_subset stack he)
  · exact kept

theorem stepPiece (whole : partedAtStart isFile stack piece = none) :
    Kept (stepPiece isFile stack piece) := by
  simp only [Url.stepPiece, whole]
  split
  · exact kept.dropParent
  · split
    · exact kept
    · rename_i parent here
      exact kept.snoc (isDots_firstOfFile (by simp [isDots, parent, here]))

theorem lastPiece (whole : partedAtStart isFile stack piece = none) :
    Kept (lastPiece isFile stack piece) := by
  simp only [Url.lastPiece, whole]
  split
  · exact kept.dropParent.snoc isDots_nil
  · split
    · exact kept.snoc isDots_nil
    · rename_i parent here
      exact kept.snoc (isDots_firstOfFile (by simp [isDots, parent, here]))

theorem resolveFrom {pieces : List Piece}
    (whole : ∀ piece ∈ pieces, ∀ stack, partedAtStart isFile stack piece = none) :
    Kept (resolveFrom isFile stack pieces) := by
  induction pieces generalizing stack with
  | nil => exact kept
  | cons piece rest ih =>
      obtain ⟨first, later⟩ := List.forall_mem_cons.mp whole
      cases rest with
      | nil => exact kept.lastPiece (first stack)
      | cons next rest => exact ih (kept.stepPiece (first stack)) later

theorem trimRoot : Kept (trimRoot stack) := by
  unfold Url.trimRoot
  split
  · exact List.forall_mem_singleton.mpr isDots_nil
  · exact fun segment he => kept segment ((List.dropWhile_sublist _).subset he)

end Kept

theorem kept_resolvePieces {pieces : List Piece}
    (whole : ∀ piece ∈ pieces, ∀ stack, partedAtStart isFile stack piece = none) :
    Kept (resolvePieces isFile pieces) := by
  have kept : Kept (resolveFrom isFile [] pieces) :=
    Kept.resolveFrom (List.forall_mem_nil _) whole
  unfold resolvePieces
  split
  · exact kept.trimRoot
  · exact kept

theorem trimRoot_of_ne_nil (given : segment ≠ []) :
    trimRoot (segment :: stack) = segment :: stack := by
  have given : segment.isEmpty = false := List.isEmpty_eq_false_iff.mpr given
  simp [trimRoot, given]

/-- The path of a `file` URL begins with a name, unless it is the root. -/
theorem trimRoot_eq_or (segments : List (List Char)) :
    trimRoot segments = [[]] ∨ ∃ first rest, trimRoot segments = first :: rest ∧ first ≠ [] := by
  cases same : segments.dropWhile List.isEmpty with
  | nil => exact .inl (by rw [trimRoot, same])
  | cons first rest =>
      have some : segments.dropWhile List.isEmpty ≠ [] := same ▸ List.cons_ne_nil first rest
      have given := List.head_dropWhile_not List.isEmpty some
      simp only [same, List.head_cons, List.isEmpty_eq_false_iff] at given
      exact .inr ⟨first, rest, by rw [trimRoot, same], given⟩

/-- Segments that are no dot segments are read as they stand, behind the first one. -/
theorem resolveFrom_of_kept (stack names : List (List Char)) (kept : Kept names)
    (first : ∀ name ∈ names.head?, firstOfFile isFile stack name = name) :
    resolveFrom isFile stack (names.map .plain) = stack ++ names := by
  induction names generalizing stack with
  | nil => simp [resolveFrom]
  | cons name rest ih =>
      have here : isHere name = false := isHere_of_not_isDots (kept name List.mem_cons_self)
      have parent : isParent name = false := isParent_of_not_isDots (kept name List.mem_cons_self)
      have same : firstOfFile isFile stack name = name := first name rfl
      cases rest with
      | nil => simp [resolveFrom, lastPiece, partedAtStart, Piece.text, here, parent, same]
      | cons next rest =>
          have step : stepPiece isFile stack (.plain name) = stack ++ [name] := by
            simp [stepPiece, partedAtStart, Piece.text, here, parent, same]
          have later := ih (stack ++ [name]) (fun segment he =>
            kept segment (List.mem_cons_of_mem _ he)) fun _ _ =>
              firstOfFile_of_ne_nil (by simp) _
          simpa [resolveFrom, step] using later

def Path.Settled : Path → Prop
  | .rooted segments => ∀ segment ∈ segments, isDots segment.toList = false
  | .plain _ => True

theorem Path.settled_ofSegments {segments : List (List Char)} (kept : Kept segments) :
    (Path.ofSegments segments).Settled := by
  intro segment he
  obtain ⟨chars, hc, rfl⟩ := List.mem_map.mp he
  simpa using kept chars hc

/-- Names that are no dot segments become the path as they are. -/
theorem path_withNames (url : Url) (names : List String) (other : url.scheme ≠ "file")
    (kept : ∀ name ∈ names, isDots name.toList = false) :
    (url.withNames names).path = .rooted names := by
  have file : (url.scheme == "file") = false := beq_false_of_ne other
  have resolved : resolveFrom false [] (names.map fun name => .plain name.toList) =
      names.map String.toList := by
    simpa [Function.comp_def] using
      resolveFrom_of_kept [] (names.map String.toList) (by simpa [Kept] using kept)
        fun _ _ => firstOfFile_false ..
  simp [withNames, file, resolvePieces, Path.ofSegments, resolved, Function.comp_def]

theorem parseOther_settled {cs : List Char} {front : Front} (h : parseOther cs = .ok front) :
    front.path.Settled := by
  have rooted (raw : List Char) :
      (Path.ofSegments (resolvePieces false (pieces false raw))).Settled :=
    Path.settled_ofSegments <|
      kept_resolvePieces fun piece _ stack => partedAtStart_false stack piece
  unfold parseOther at h
  split at h
  · simp only [bind, Except.bind] at h
    split at h
    · cases h
    · cases h
      simp only
      split
      · simp [Path.Settled]
      · exact rooted _
      · exact rooted _
  · cases h
    exact rooted _
  · cases h
    trivial

/-- A URL of a scheme outside the internet has the path that was read for it. -/
theorem parse_other {s : String} {url : Url} (h : parse s = .ok url)
    (other : schemeKind url.scheme = .other) :
    ∃ cs front, parseOther cs = .ok front ∧ url.authority = front.authority ∧
      url.path = front.path := by
  simp only [parse, bind, Except.bind] at h
  split at h
  · cases h
  · rename_i split _
    cases kind : schemeKind split.1 with
    | file | web port =>
        simp only [kind] at h
        split at h
        · cases h
        · cases h
          simp [kind] at other
    | other =>
        simp only [kind] at h
        split at h
        · cases h
        · rename_i front read
          cases h
          exact ⟨_, front, read, rfl, rfl⟩

theorem settled_of_parse {s : String} {url : Url} (h : parse s = .ok url)
    (other : schemeKind url.scheme = .other) : url.path.Settled := by
  obtain ⟨cs, front, read, -, path⟩ := parse_other h other
  exact path ▸ parseOther_settled read

end AlertSound.Url
