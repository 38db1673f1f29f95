import AlertSound.Proofs.Locator.FilePath
import AlertSound.Proofs.Url.FileText
import AlertSound.Proofs.Url.Names

/-!
How far the canonical form is a normal form. Its names are resolved once more, and all that can
be left of them is the empty segment of a closing slash, behind a dot segment at the end. The
names of most locators hold no dot segments, but those of a path may. A path of slashes alone
is left as it is.
-/
namespace AlertSound.Locator

open Url
open File (dot)

variable {r : Locator}

def segments (r : Locator) : List String := r.url.segments?.getD []

def EndsInDots (r : Locator) : Prop := endsInDots (r.names.map String.toList) = true

theorem ne_nil_of_mem_names {r : Locator} :
    ∀ name ∈ r.names.map String.toList, name ≠ [] := by
  refine List.forall_mem_map.mpr fun name member => ?_
  have given := (List.mem_filter.mp member).2
  intro empty
  rw [String.toList_eq_nil_iff.mp empty] at given
  cases given

def resolvedNames (r : Locator) : List (List Char) :=
  walk (r.url.scheme == "file") (r.names.map String.toList)

theorem walked_resolvedNames (r : Locator) : Walked (r.url.scheme == "file") r.resolvedNames :=
  walked_walk ne_nil_of_mem_names

/-- A canonical form has the scheme, the site and a path. -/
theorem url_canonical (r : Locator) : r.canonical.url =
    ⟨r.url.scheme, r.url.authority, r.canonical.url.path, none, none⟩ := by
  unfold canonical
  split <;> rfl

theorem query_canonical (r : Locator) : r.canonical.url.query = none := by rw [url_canonical]

theorem fragment_canonical (r : Locator) : r.canonical.url.fragment = none := by rw [url_canonical]

theorem path_canonical_of_names (some : r.names ≠ []) : r.canonical.url.path =
    .ofSegments (r.resolvedNames ++ closing (r.names.map String.toList)) := by
  have given : r.names.isEmpty = false := List.isEmpty_eq_false_iff.mpr some
  have mapped : (r.names.map String.toList).map Piece.plain =
      r.names.map fun name => .plain name.toList := List.map_map
  have resolved : resolvePieces (r.url.scheme == "file")
      (r.names.map fun name => .plain name.toList) =
        r.resolvedNames ++ closing (r.names.map String.toList) := by
    rw [← mapped]
    exact resolvePieces_plain (mt List.map_eq_nil_iff.mp some) ne_nil_of_mem_names
  simp only [canonical, given, Bool.false_eq_true, if_false, withNames, resolved]

theorem path_canonical_of_no_names (empty : r.names = []) :
    r.canonical.url.path = r.url.path := by
  simp only [canonical, empty, List.isEmpty_nil, if_true]

theorem segments_of_path {parts : List (List Char)} (some : parts ≠ [])
    (path : r.url.path = .ofSegments parts) : r.segments = parts.map String.ofList := by
  obtain ⟨first, rest, rfl⟩ := List.exists_cons_of_ne_nil some
  rw [segments, segments?, path]
  rfl

theorem segments_congr {r r' : Locator} (path : r.url.path = r'.url.path) :
    r.segments = r'.segments := by
  rw [segments, segments?, path, segments, segments?]

theorem names_eq_filter (r : Locator) :
    r.names = r.segments.filter fun segment => !segment.isEmpty := rfl

theorem closing_ne_nil_iff : closing (r.names.map String.toList) ≠ [] ↔ r.EndsInDots := by
  unfold closing EndsInDots
  split
  · simp [*]
  · simp [*]

theorem segments_canonical (some : r.names ≠ []) : r.canonical.segments =
    (r.resolvedNames ++ closing (r.names.map String.toList)).map String.ofList := by
  refine segments_of_path (fun none => ?_) (path_canonical_of_names some)
  obtain ⟨empty, whole⟩ := List.append_eq_nil_iff.mp none
  have dots := endsInDots_of_walk_eq_nil (mt List.map_eq_nil_iff.mp some) empty
  exact closing_ne_nil_iff.mpr dots whole

theorem names_canonical_of_no_names (empty : r.names = []) : r.canonical.names = [] := by
  rw [names_eq_filter, segments_congr (path_canonical_of_no_names empty), ← names_eq_filter, empty]

/-- The names of the canonical form are what the names lead to. -/
theorem names_canonical_eq (r : Locator) :
    r.canonical.names.map String.toList = r.resolvedNames := by
  by_cases empty : r.names = []
  · rw [names_canonical_of_no_names empty, resolvedNames, empty]
    rfl
  · have given : ∀ name ∈ r.resolvedNames, (!name.isEmpty) = true := fun name member => by
      simpa using r.walked_resolvedNames.given name member
    have slash : (closing (r.names.map String.toList)).filter (fun name => !name.isEmpty) = [] := by
      unfold closing
      split <;> rfl
    rw [names_eq_filter, segments_canonical empty]
    simp only [List.filter_map, Function.comp_def, isEmpty_ofList, List.filter_append, slash,
      List.filter_eq_self.mpr given, List.append_nil, List.map_map, String.toList_ofList,
      List.map_id']

theorem not_endsInDots_canonical (r : Locator) : ¬ r.canonical.EndsInDots := by
  rw [EndsInDots, names_canonical_eq, r.walked_resolvedNames.endsInDots_eq_false]
  exact Bool.false_ne_true

theorem resolvedNames_canonical (r : Locator) : r.canonical.resolvedNames = r.resolvedNames := by
  rw [resolvedNames, names_canonical_eq, scheme_canonical, r.walked_resolvedNames.walk_eq]

theorem ofSegments_inj {parts parts' : List (List Char)} :
    Path.ofSegments parts = .ofSegments parts' ↔ parts = parts' := by
  have injective : Function.Injective (List.map String.ofList) :=
    List.map_injective_iff.mpr fun _ _ => String.ofList_injective
  simp only [Path.ofSegments, Path.rooted.injEq, injective.eq_iff]

theorem canonical_eq_iff_path (r : Locator) : r.canonical.canonical = r.canonical ↔
    r.canonical.canonical.url.path = r.canonical.url.path := by
  constructor
  · exact congrArg fun again : Locator => again.url.path
  · intro path
    have url : r.canonical.canonical.url = r.canonical.url := by
      rw [url_canonical r.canonical, path, scheme_canonical, authority_canonical, ← url_canonical r]
    exact congrArg (Locator.mk · r.origin) url

/-- A canonical form is changed again only if there are names before its closing slash. -/
theorem canonical_canonical_iff (r : Locator) :
    r.canonical.canonical = r.canonical ↔ (r.EndsInDots → r.canonical.names = []) := by
  rw [canonical_eq_iff_path]
  by_cases empty : r.canonical.names = []
  · simp only [path_canonical_of_no_names empty, empty, implies_true]
  · have some : r.names ≠ [] := mt names_canonical_of_no_names empty
    -- Both paths have the resolved names, so they differ in the closing slash at most.
    have whole : closing (r.canonical.names.map String.toList) = [] :=
      not_not.mp (mt closing_ne_nil_iff.mp r.not_endsInDots_canonical)
    rw [path_canonical_of_names empty, path_canonical_of_names some, resolvedNames_canonical,
      ofSegments_inj, whole, List.append_cancel_left_eq, eq_comm, ← not_iff_not, ← ne_eq,
      closing_ne_nil_iff]
    simp [empty]

theorem empty_mem_segments_canonical (some : r.names ≠ []) :
    "" ∈ r.canonical.segments ↔ r.EndsInDots := by
  have listed (parts : List (List Char)) : "" ∈ parts.map String.ofList ↔ [] ∈ parts :=
    List.mem_map_of_injective (a := []) fun _ _ => String.ofList_injective
  rw [segments_canonical some, listed, List.mem_append,
    or_iff_right fun mem => r.walked_resolvedNames.given [] mem rfl, ← closing_ne_nil_iff]
  unfold closing
  split
  · simp
  · simp

/-- What is asked of the canonical form. -/
structure HasNormalForm (r : Locator) : Prop where
  query : r.canonical.url.query = none
  fragment : r.canonical.url.fragment = none
  collapsed : "" ∈ r.canonical.segments → r.names = [] ∧ r.canonical.segments = [""]
  fixed : r.canonical.canonical = r.canonical

/-- Without names nothing is left out of the path. -/
theorem collapsed_of_no_names (empty : r.names = []) :
    ("" ∈ r.canonical.segments → r.canonical.segments = [""]) ↔ r.segments.length ≤ 1 := by
  have blank : ∀ segment ∈ r.segments, segment = "" := fun segment member => by
    have left := List.filter_eq_nil_iff.mp empty segment member
    simpa using left
  rw [segments_congr (path_canonical_of_no_names empty)]
  match same : r.segments with
  | [] => simp
  | [segment] =>
      rw [same] at blank
      simp [blank segment List.mem_cons_self]
  | segment :: next :: rest =>
      rw [same] at blank
      simp [blank segment List.mem_cons_self]

theorem endsInDots_of_no_names (empty : r.names = []) : ¬ r.EndsInDots := by
  rw [EndsInDots, empty]
  exact Bool.false_ne_true

/-- The canonical form is a normal form unless a dot segment is last or the path is of slashes. -/
theorem hasNormalForm_iff (r : Locator) :
    r.HasNormalForm ↔ ¬ r.EndsInDots ∧ (r.names = [] → r.segments.length ≤ 1) := by
  constructor
  · rintro ⟨-, -, collapsed, -⟩
    constructor
    · intro dots
      have some : r.names ≠ [] := fun empty => endsInDots_of_no_names empty dots
      exact some (collapsed ((empty_mem_segments_canonical some).mpr dots)).1
    · intro empty
      exact (collapsed_of_no_names empty).mp fun member => (collapsed member).2
  · rintro ⟨solid, few⟩
    refine ⟨query_canonical r, fragment_canonical r, fun member => ?_,
      (canonical_canonical_iff r).mpr fun dots => absurd dots solid⟩
    have empty : r.names = [] := by
      by_contra some
      exact solid ((empty_mem_segments_canonical some).mp member)
    exact ⟨empty, (collapsed_of_no_names empty).mpr (few empty) member⟩

theorem not_endsInDots_of_settled (settled : r.url.path.Settled) : ¬ r.EndsInDots := by
  intro dots
  obtain ⟨last, told, dots⟩ := (Option.any_eq_true _ _).mp dots
  obtain ⟨name, member, rfl⟩ := List.mem_map.mp (List.mem_of_getLast? told)
  rw [not_isDots_of_mem_names settled member] at dots
  cases dots

section Names

variable {names : List File.Path} (solid : ∀ name ∈ names, File.IsSolid name)

include solid

/-- The last name of a path is a dot segment if it is a step to the parent. -/
theorem endsInDots_ofNames : (ofNames names).EndsInDots ↔ names.getLast? = some [dot, dot] := by
  have listed : (ofNames names).names.map String.toList = names.map escapedName := by
    rw [names_ofNames solid, List.map_map]
    exact List.map_id'' (fun _ => String.toList_ofList) _
  rw [EndsInDots, listed, endsInDots, List.getLast?_map, Option.any_map]
  cases last : names.getLast? with
  | none => simp
  | some name =>
      have other : name ≠ [dot] := (solid name (List.mem_of_getLast? last)).ne_dot
      simp [isDots_escapedName, other]

theorem segments_ofNames_of_no_names (empty : (ofNames names).names = []) :
    (ofNames names).segments = [""] := by
  rw [names_ofNames solid, List.map_eq_nil_iff, List.map_eq_nil_iff] at empty
  rw [empty]
  rfl

end Names

section Read

variable {s : String} (read : parse s = .ok r)

include read

theorem scheme_of_parse : r.origin = .localFile ∧ r.url.scheme = "file" ∨
    r.origin ≠ .localFile ∧ r.url.scheme = "content" := by
  have told := (ofUrl_eq_ok.mp (Made.parsed read).ofUrl_url).2
  unfold Origin.ofUrl? at told
  split at told
  · rename_i file
    exact .inl ⟨(Option.some.inj told).symm, file⟩
  · split at told
    · rename_i content
      refine .inr ⟨fun file => ?_, content⟩
      rw [file] at told
      split at told <;> cases told
    · cases told

/-- A text that begins with a slash is the locator of its names, any other text is a URL. -/
theorem parse_cases :
    ((Text.trim s).toList.head? = some '/' ∧
      r = ofNames (File.solidNames (File.ofText (Text.trim s)))) ∨
    (Text.trim s).toList.head? ≠ some '/' ∧ Url.parse (Text.trim s) = .ok r.url := by
  by_cases rooted : (Text.trim s).toList.head? = some '/'
  · obtain ⟨absolute, path⟩ := parse_rooted rooted
    rw [path, ofPath_eq_ofNames absolute] at read
    exact .inl ⟨rooted, (Except.ok.inj read).symm⟩
  · refine .inr ⟨rooted, ?_⟩
    simp only [parse, beq_iff_eq, rooted, if_false] at read
    split at read
    · rename_i url parsed
      obtain ⟨rfl, -⟩ := ofUrl_eq_ok.mp read
      exact parsed
    · cases read

theorem endsInDots_of_rooted (rooted : (Text.trim s).toList.head? = some '/') :
    r.EndsInDots ↔
      (File.components (File.ofText (Text.trim s))).getLast? = some .parent := by
  obtain ⟨-, rfl⟩ | ⟨unrooted, -⟩ := parse_cases read
  · rw [File.getLast?_components_eq_parent (parse_rooted rooted).1,
      endsInDots_ofNames fun _ => File.isSolid_of_mem]
  · exact absurd rooted unrooted

theorem broken_of_endsInDots (unrooted : (Text.trim s).toList.head? ≠ some '/')
    (dots : r.EndsInDots) :
    r.origin = .localFile ∧ ∃ c ∈ (Text.trim s).toList, isBreak c = true := by
  obtain ⟨rooted, -⟩ | ⟨-, parsed⟩ := parse_cases read
  · exact absurd rooted unrooted
  rcases scheme_of_parse read with ⟨origin, file⟩ | ⟨-, content⟩
  · refine ⟨origin, ?_⟩
    by_contra unbroken
    have kind : schemeKind r.url.scheme = .file := by rw [file]; rfl
    refine not_endsInDots_of_settled (settled_of_unbroken parsed kind fun c mem => ?_) dots
    exact Bool.eq_false_iff.mpr fun broken => unbroken ⟨c, mem, broken⟩
  · exact absurd dots (not_endsInDots_of_settled (settled_of_parse read content))

/-- The path of a file has no slash too many if it has no names. -/
theorem root_of_localFile (origin : r.origin = .localFile) (empty : r.names = []) :
    r.segments = [""] := by
  obtain ⟨-, rfl⟩ | ⟨-, parsed⟩ := parse_cases read
  · exact segments_ofNames_of_no_names (fun _ => File.isSolid_of_mem) empty
  rcases scheme_of_parse read with ⟨-, file⟩ | ⟨other, -⟩
  · have kind : schemeKind r.url.scheme = .file := by rw [file]; rfl
    obtain ⟨raw, path, -⟩ := parse_file_path parsed kind
    rw [resolvePieces, if_pos rfl] at path
    rcases trimRoot_eq_or (resolveFrom true [] (pieces true raw)) with
      root | ⟨first, rest, same, given⟩
    · rw [root] at path
      exact segments_of_path (List.cons_ne_nil [] []) path
    · rw [same] at path
      have listed := segments_of_path (List.cons_ne_nil first rest) path
      rw [names_eq_filter, listed] at empty
      have left := List.filter_eq_nil_iff.mp empty (String.ofList first) List.mem_cons_self
      rw [isEmpty_ofList] at left
      simp [given] at left
  · exact absurd origin other

end Read

/-- How far the canonical form of a locator that was read is a normal form. It has neither query
nor fragment. No segment of it is empty, but the one of a locator without names, and it is its
own canonical form, unless the last name is a dot segment or there is nothing but slashes. It
is changed again if names are left in front of the closing slash, and then never more. The last
name of a path is a dot segment if the path ends in a step to the parent, and that of a URL only
if the URL is of a file and was read over a line break. The path of a file is never one of several
slashes. -/
theorem normal_form_iff (s : String) (r : Locator) (read : parse s = .ok r) :
    (r.HasNormalForm ↔ ¬ r.EndsInDots ∧ (r.names = [] → r.segments.length ≤ 1)) ∧
    r.canonical.url.query = none ∧ r.canonical.url.fragment = none ∧
    (r.canonical.canonical = r.canonical ↔ (r.EndsInDots → r.canonical.names = [])) ∧
    r.canonical.canonical.canonical = r.canonical.canonical ∧
    ((Text.trim s).toList.head? = some '/' →
      (r.EndsInDots ↔
        (File.components (File.ofText (Text.trim s))).getLast? = some .parent)) ∧
    ((Text.trim s).toList.head? ≠ some '/' → r.EndsInDots →
      r.origin = .localFile ∧ ∃ c ∈ (Text.trim s).toList, isBreak c = true) ∧
    (r.origin = .localFile → r.names = [] → r.segments = [""]) := by
  refine ⟨hasNormalForm_iff r, query_canonical r, fragment_canonical r, canonical_canonical_iff r,
    ?_, endsInDots_of_rooted read, broken_of_endsInDots read, root_of_localFile read⟩
  exact (canonical_canonical_iff r.canonical).mpr fun dots =>
    absurd dots (not_endsInDots_canonical r)

theorem normal_form_iff_untidy :
    parse "content://media//internal/audio/media/1/?title=x#frag" = .ok untidyFirst ∧
      untidyFirst.HasNormalForm ∧
      ∃ r, parse "/a/b/../" = .ok r ∧ r.EndsInDots ∧ ¬ r.HasNormalForm := by
  have read : parse "content://media//internal/audio/media/1/?title=x#frag" = .ok untidyFirst := rfl
  obtain ⟨normal, -⟩ := normal_form_iff _ _ read
  let names := [File.ofText "a", File.ofText "b", File.ofText ".."]
  have read' : parse "/a/b/../" = .ok (ofNames names) := rfl
  obtain ⟨normal', -, -, -, -, rooted, -⟩ := normal_form_iff _ _ read'
  have dots : (ofNames names).EndsInDots := (rooted (by decide +kernel)).mpr (by decide +kernel)
  refine ⟨read, normal.mpr ⟨?_, ?_⟩, _, read', dots, fun form => (normal'.mp form).1 dots⟩
  · unfold EndsInDots
    decide +kernel
  · exact fun empty => absurd empty (by decide +kernel)

/-- A closing slash is left of the step to the parent, and goes the second time. A path of
slashes stays. -/
theorem canonical_not_normal :
    (∃ r, parse "/a/b/.." = .ok r ∧ r.canonical.text = "file:///a/" ∧
      "" ∈ r.canonical.segments ∧ r.canonical.canonical.text = "file:///a" ∧
      r.canonical.canonical ≠ r.canonical) ∧
    ∃ r, parse "content://media//" = .ok r ∧ r.canonical.text = "content://media//" := by
  let names := [File.ofText "a", File.ofText "b", File.ofText ".."]
  let site : Site := { username := "", password := "", host := .name "media", port := none }
  refine ⟨⟨ofNames names, rfl, ?_, ?_, ?_, ?_⟩,
    ⟨⟨"content", .named site, .rooted ["", ""], none, none⟩, .mediaIndex⟩, rfl, ?_⟩
  all_goals decide +kernel

end AlertSound.Locator
