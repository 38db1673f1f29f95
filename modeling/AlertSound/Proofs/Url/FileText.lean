import AlertSound.Proofs.Url.FilePath

/-!
The text of a `file` URL, read. The slash of the root makes an empty segment in front of the
others, so that none of these is first: a drive letter keeps its mark. What is left to change
is a dot segment, which is resolved.
-/
namespace AlertSound.Url

variable {name : List Char} {names : List (List Char)}

theorem literal_file : Literal "file".toList :=
  List.all_eq_true.mp (by decide : "file".toList.all isLiteral = true)

theorem splitScheme_file (host : List Char) (names : List (List Char)) :
    splitScheme (urlText "file".toList host names) = .ok ("file", placeText host names) := rfl

section Literal

variable (literal : ∀ part ∈ name :: names, Literal part)

include literal

theorem fileFront_join : fileFront .blank ((name :: names).flatMap ('/' :: ·)) =
    ⟨.blank, .ofSegments (resolvePieces true (([] :: name :: names).map .plain)), []⟩ := by
  have tail : splitTail ((name :: names).flatMap ('/' :: ·)) =
      ((name :: names).flatMap ('/' :: ·), []) := by
    have throughout := forall_placeText (fun _ => startsTail_of_literal) rfl literal_nil literal
    exact splitTail_of_whole fun c mem => throughout c (List.mem_append_right _ mem)
  have divided : pieces true ((name :: names).flatMap ('/' :: ·)) =
      ([] :: name :: names).map .plain :=
    pieces_join true (List.forall_mem_cons.mpr ⟨literal_nil, literal⟩)
  simp only [fileFront, tail, divided, ite_self]
  rfl

/-- The text of a `file` URL without a host is read as its segments, resolved. -/
theorem parse_file {s : String} (text : s.toList = urlText "file".toList [] (name :: names)) :
    parse s = .ok
      { scheme := "file"
        authority := .blank
        path := .ofSegments (resolvePieces true (([] :: name :: names).map .plain))
        query := none
        fragment := none } := by
  have solid : trimControls s.toList = urlText "file".toList [] (name :: names) := by
    rw [text, trimControls_urlText literal_file literal_nil literal]
  have front : parseFile (placeText [] (name :: names)) =
      .ok (fileFront .blank ((name :: names).flatMap ('/' :: ·))) := rfl
  have kind : schemeKind "file" = .file := rfl
  simp only [parse, solid, splitScheme_file, bind, Except.bind, kind, front,
    fileFront_join literal]
  rfl

end Literal

/-- A plain piece is read, wherever it stands. -/
theorem whole_plain (isFile : Bool) (segments : List (List Char)) :
    ∀ piece ∈ segments.map Piece.plain, ∀ stack, partedAtStart isFile stack piece = none :=
  List.forall_mem_map.mpr fun _ _ _ => rfl

/-- Segments that are no dot segments are read as they stand behind the root. -/
theorem resolvePieces_rooted (kept : Kept (name :: names))
    (given : name ≠ [] ∨ name :: names = [[]]) :
    resolvePieces true (([] :: name :: names).map .plain) = name :: names := by
  have behind : Kept ([] :: name :: names) := List.forall_mem_cons.mpr ⟨isDots_nil, kept⟩
  have resolved : resolveFrom true [] (([] :: name :: names).map .plain) = [] :: name :: names :=
    resolveFrom_of_kept [] _ behind fun first same => by
      cases same
      rfl
  have trimmed : trimRoot ([] :: name :: names) = trimRoot (name :: names) := by
    simp [trimRoot, List.dropWhile_cons]
  rw [resolvePieces, resolved, if_pos rfl, trimmed]
  cases given with
  | inl given => exact trimRoot_of_ne_nil given
  | inr root =>
      rw [root]
      rfl

section Reading

/-! What is read of a text is found in it. -/

variable {s : String} {cs rest : List Char}

theorem trimControls_subset (cs : List Char) : trimControls cs ⊆ cs := by
  intro c mem
  have mem := (List.dropWhile_sublist _).subset (List.mem_reverse.mp mem)
  exact (List.dropWhile_sublist _).subset (List.mem_reverse.mp mem)

theorem splitScheme_subset {scheme : String} (read : splitScheme cs = .ok (scheme, rest)) :
    rest ⊆ cs := by
  unfold splitScheme at read
  rw [List.span_eq_takeWhile_dropWhile] at read
  split at read
  · rename_i front rest' same
    have behind : cs.dropWhile _ = ':' :: rest' := (Prod.mk.inj same).2
    have within : rest' ⊆ cs := fun c mem =>
      (List.dropWhile_sublist _).subset (behind ▸ List.mem_cons_of_mem ':' mem)
    split at read
    · split at read
      · cases read
        exact within
      · cases read
    · cases read
  · cases read

theorem afterSlash?_subset (read : afterSlash? cs = some rest) : rest ⊆ cs := by
  unfold afterSlash? at read
  split at read
  · rename_i c rest' same
    split at read
    · cases read
      intro c' mem
      exact (List.dropWhile_sublist isBreak).subset (same ▸ List.mem_cons_of_mem c mem)
    · cases read
  · cases read

theorem parseFile_eq_ok {front : Front} (read : parseFile cs = .ok front) :
    ∃ authority raw, front = fileFront authority raw ∧ raw ⊆ cs := by
  unfold parseFile at read
  split at read
  · cases read
    exact ⟨_, cs, rfl, fun _ mem => mem⟩
  · rename_i rooted root
    split at read
    · cases read
      exact ⟨_, rooted, rfl, afterSlash?_subset root⟩
    · rename_i rest place
      have within : rest ⊆ cs := fun _ mem =>
        afterSlash?_subset root (afterSlash?_subset place mem)
      rw [List.span_eq_takeWhile_dropWhile] at read
      let after := rest.dropWhile fun c => !endsAuthority true c
      have behind : after ⊆ cs := fun _ mem => within ((List.dropWhile_sublist _).subset mem)
      simp only at read
      split at read
      · cases read
        exact ⟨_, rest, rfl, within⟩
      · split at read
        · cases read
          exact ⟨_, after, rfl, behind⟩
        · simp only [bind, Except.bind] at read
          split at read
          · cases read
          · split at read
            · cases read
              exact ⟨_, after, rfl, behind⟩
            · cases read
              split
              · exact ⟨_, after.drop 1, rfl, fun _ mem => behind (List.mem_of_mem_drop mem)⟩
              · exact ⟨_, after, rfl, behind⟩

/-- The path of a `file` URL that was read, and the text that it was read from. -/
theorem parse_file_path {url : Url} (read : parse s = .ok url)
    (file : schemeKind url.scheme = .file) :
    ∃ raw, url.path = .ofSegments (resolvePieces true (pieces true raw)) ∧ raw ⊆ s.toList := by
  simp only [parse, bind, Except.bind] at read
  split at read
  · cases read
  · rename_i front split
    have within : front.2 ⊆ s.toList := fun _ mem =>
      trimControls_subset _ (splitScheme_subset split mem)
    cases kind : schemeKind front.1 with
    | web port | other =>
        simp only [kind] at read
        split at read
        · cases read
        · cases read
          simp [kind] at file
    | file =>
        simp only [kind] at read
        split at read
        · cases read
        · rename_i place parsed
          cases read
          obtain ⟨authority, raw, rfl, mem⟩ := parseFile_eq_ok parsed
          refine ⟨(splitTail raw).1, rfl, fun c member => within (mem ?_)⟩
          rw [splitTail, List.span_eq_takeWhile_dropWhile] at member
          exact (List.takeWhile_sublist _).subset member

theorem settled_of_unbroken {url : Url} (read : parse s = .ok url)
    (file : schemeKind url.scheme = .file) (unbroken : ∀ c ∈ s.toList, isBreak c = false) :
    url.path.Settled := by
  obtain ⟨raw, path, within⟩ := parse_file_path read file
  rw [path]
  exact Path.settled_ofSegments <|
    kept_resolvePieces <| whole_pieces fun c mem => unbroken c (within mem)

end Reading

end AlertSound.Url
