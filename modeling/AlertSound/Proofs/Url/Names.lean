import AlertSound.Proofs.Url.Segments

/-!
Names given to a URL as its path. They are walked one after another: a step to the parent takes
the last one back, unless it is a drive. What the walk ends with is walked to the same end
again. Only a dot segment that comes last leaves a trace, the empty segment of a closing slash.
-/
namespace AlertSound.Url

variable {isFile : Bool} {stack names : List (List Char)} {name : List Char}

/-- The segments that the names lead to, each name with a slash behind it. -/
def walkFrom (isFile : Bool) (stack names : List (List Char)) : List (List Char) :=
  names.foldl (fun stack name => stepPiece isFile stack (.plain name)) stack

def walk (isFile : Bool) (names : List (List Char)) : List (List Char) := walkFrom isFile [] names

def endsInDots (names : List (List Char)) : Bool := names.getLast?.any isDots

/-- The last segment of a path that ends in a slash. -/
def closing (names : List (List Char)) : List (List Char) := if endsInDots names then [[]] else []

theorem stepPiece_plain (isFile : Bool) (stack : List (List Char)) (name : List Char) :
    stepPiece isFile stack (.plain name) =
      if isParent name then dropParent stack
      else if isHere name then stack
      else stack ++ [firstOfFile isFile stack name] := rfl

theorem stepPiece_of_not_isDots (solid : isDots name = false) :
    stepPiece isFile stack (.plain name) = stack ++ [firstOfFile isFile stack name] := by
  simp [stepPiece_plain, isParent_of_not_isDots solid, isHere_of_not_isDots solid]

theorem dropParent_eq_or (stack : List (List Char)) :
    dropParent stack = stack ∨ dropParent stack = stack.dropLast := by
  unfold dropParent
  split
  · split
    · exact .inl rfl
    · exact .inr rfl
  · exact .inl rfl

/-- A dot segment leaves the stack or takes its last segment back. -/
theorem stepPiece_of_isDots (isFile : Bool) (stack : List (List Char))
    (dots : isDots name = true) :
    stepPiece isFile stack (.plain name) = stack ∨
      stepPiece isFile stack (.plain name) = stack.dropLast := by
  rw [stepPiece_plain]
  by_cases parent : isParent name = true
  · rw [if_pos parent]
    exact dropParent_eq_or stack
  · have here : isHere name = true := (Bool.or_eq_true_iff.mp dots).resolve_right parent
    rw [if_neg parent, if_pos here]
    exact .inl rfl

/-- The last name is read as the others are, but for a closing slash. -/
theorem lastPiece_plain : lastPiece isFile stack (.plain name) =
    stepPiece isFile stack (.plain name) ++ closing [name] := by
  have last : lastPiece isFile stack (.plain name) =
      if isParent name then dropParent stack ++ [[]]
      else if isHere name then stack ++ [[]]
      else stack ++ [firstOfFile isFile stack name] := rfl
  have dots : endsInDots [name] = (isHere name || isParent name) := rfl
  rw [last, stepPiece_plain, closing, dots]
  split
  · simp [*]
  · split
    · simp [*]
    · simp [*]

theorem resolveFrom_plain (given : names ≠ []) :
    resolveFrom isFile stack (names.map .plain) = walkFrom isFile stack names ++ closing names := by
  induction names generalizing stack with
  | nil => exact absurd rfl given
  | cons name rest ih =>
      cases rest with
      | nil => exact lastPiece_plain
      | cons next rest =>
          -- Only the last name can be followed by a closing slash.
          have last : endsInDots (name :: next :: rest) = endsInDots (next :: rest) := by
            rw [endsInDots, List.getLast?_cons_cons, endsInDots]
          rw [closing, last]
          exact ih (List.cons_ne_nil next rest)

structure Walked (isFile : Bool) (stack : List (List Char)) : Prop where
  kept : Kept stack
  given : ∀ segment ∈ stack, segment ≠ []
  -- The first segment was put on an empty stack, where a drive letter gets its colon.
  first : ∀ segment ∈ stack.head?, firstOfFile isFile [] segment = segment

namespace Walked

theorem nil : Walked isFile [] :=
  ⟨List.forall_mem_nil _, List.forall_mem_nil _, fun _ none => nomatch none⟩

variable (walked : Walked isFile stack)

include walked

theorem dropLast : Walked isFile stack.dropLast := by
  have subset := List.dropLast_subset stack
  refine ⟨fun _ mem => walked.kept _ (subset mem), fun _ mem => walked.given _ (subset mem),
    fun segment head => walked.first segment ?_⟩
  rw [List.head?_dropLast] at head
  split at head
  · exact head
  · cases head

theorem snoc (solid : isDots name = false) (given : name ≠ []) :
    Walked isFile (stack ++ [firstOfFile isFile stack name]) := by
  refine ⟨walked.kept.snoc (isDots_firstOfFile solid), ?_, ?_⟩
  · exact List.forall_mem_append.mpr
      ⟨walked.given, List.forall_mem_singleton.mpr (firstOfFile_ne_nil given)⟩
  · cases stack with
    | nil =>
        rintro segment ⟨⟩
        exact firstOfFile_firstOfFile name
    | cons first rest => exact walked.first

theorem step (given : name ≠ []) : Walked isFile (stepPiece isFile stack (.plain name)) := by
  cases dots : isDots name with
  | true =>
      rcases stepPiece_of_isDots isFile stack dots with same | fewer
      · rwa [same]
      · rw [fewer]
        exact walked.dropLast
  | false =>
      rw [stepPiece_of_not_isDots dots]
      exact walked.snoc dots given

theorem walkFrom (given : ∀ name ∈ names, name ≠ []) :
    Walked isFile (walkFrom isFile stack names) := by
  induction names generalizing stack with
  | nil => exact walked
  | cons name rest ih =>
      obtain ⟨first, later⟩ := List.forall_mem_cons.mp given
      exact ih (walked.step first) later

theorem endsInDots_eq_false : endsInDots stack = false := by
  simp only [endsInDots, Option.any_eq_false]
  intro last told
  exact walked.kept last (List.mem_of_getLast? told)

/-- What a walk ended with is walked to the same end. -/
theorem walk_eq : walk isFile stack = stack := by
  cases stack with
  | nil => rfl
  | cons first rest =>
      have whole : closing (first :: rest) = [] := by
        rw [closing, walked.endsInDots_eq_false]
        rfl
      have again := resolveFrom_of_kept [] (first :: rest) walked.kept walked.first
      rwa [resolveFrom_plain (List.cons_ne_nil first rest), whole, List.append_nil] at again

end Walked

theorem walked_walk (given : ∀ name ∈ names, name ≠ []) : Walked isFile (walk isFile names) :=
  Walked.nil.walkFrom given

/-- A walk ends with no segment only if its last name is a dot segment. -/
theorem endsInDots_of_walk_eq_nil (some : names ≠ []) (empty : walk isFile names = []) :
    endsInDots names = true := by
  obtain ⟨front, last, rfl⟩ := (List.eq_nil_or_concat names).resolve_left some
  rw [List.concat_eq_append] at empty ⊢
  cases dots : isDots last with
  | true => simp [endsInDots, dots]
  | false =>
      simp [walk, walkFrom, stepPiece_of_not_isDots dots] at empty

/-- Names become the segments that they lead to, and the empty one of a closing slash. -/
theorem resolvePieces_plain (some : names ≠ []) (given : ∀ name ∈ names, name ≠ []) :
    resolvePieces isFile (names.map .plain) = walk isFile names ++ closing names := by
  have resolved : resolveFrom isFile [] (names.map .plain) = walk isFile names ++ closing names :=
    resolveFrom_plain some
  rw [resolvePieces, resolved]
  have walked : Walked isFile (walk isFile names) := walked_walk given
  cases same : walk isFile names with
  | nil =>
      have dots := endsInDots_of_walk_eq_nil some same
      have slash : closing names = [[]] := if_pos dots
      rw [slash]
      exact ite_self _
  | cons first rest =>
      rw [same] at walked
      rw [List.cons_append, trimRoot_of_ne_nil (walked.given first List.mem_cons_self), ite_self]

end AlertSound.Url
