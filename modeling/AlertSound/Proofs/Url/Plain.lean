import AlertSound.Proofs.Url.Literal

/-!
URLs in plain characters. Letters, digits, hyphens and underscores stand for themselves not
only in a path, but in a host too: nothing is escaped, left out or divided there. So a content
URL whose site and names are made of them is read as what it is written with.
-/
namespace AlertSound.Url

def isPlain (c : Char) : Bool := c.isAlphanum || c == '-' || c == '_'

structure PlainName (name : List Char) : Prop where
  ne_nil : name ≠ []
  plain : ∀ c ∈ name, isPlain c = true

instance (name : List Char) : Decidable (PlainName name) :=
  decidable_of_iff (name ≠ [] ∧ name.all isPlain = true)
    ⟨fun given => ⟨given.1, List.all_eq_true.mp given.2⟩,
      fun h => ⟨h.ne_nil, List.all_eq_true.mpr h.plain⟩⟩

section Plain

variable {c : Char} (h : isPlain c = true)

include h

theorem plain_range : 45 ≤ c.toNat ∧ c.toNat ≤ 122 := by
  change (((decide (65 ≤ c.val ∧ c.val ≤ 90) || (97 ≤ c.val && c.val ≤ 122)) ||
    (48 ≤ c.val && c.val ≤ 57)) || c == '-' || c == '_') = true at h
  simp only [Bool.or_eq_true, Bool.and_eq_true, decide_eq_true_eq, beq_iff_eq,
    UInt32.le_iff_toNat_le] at h
  have number : c.val.toNat = c.toNat := rfl
  rw [number] at h
  rcases h with (((⟨low, high⟩ | ⟨low, high⟩) | ⟨low, high⟩) | rfl) | rfl
  · exact ⟨Nat.le_trans (by decide) low, Nat.le_trans high (by decide)⟩
  · exact ⟨Nat.le_trans (by decide) low, Nat.le_trans high (by decide)⟩
  · exact ⟨Nat.le_trans (by decide) low, Nat.le_trans high (by decide)⟩
  · decide
  · decide

/-- A plain character is none of the others. -/
theorem ne_of_plain {other : Char} (special : isPlain other = false) : c ≠ other := by
  rintro rfl
  rw [h] at special
  cases special

theorem not_mem_of_plain {others : List Char} (special : others.all (!isPlain ·) = true) :
    c ∉ others := by
  intro mem
  have other := List.all_eq_true.mp special c mem
  simp [h] at other

theorem isLiteral_of_plain : isLiteral c = true := by
  have range := plain_range h
  have unescaped : isPathEscaped c = false := by
    simp only [isPathEscaped, isFragmentEscaped, isControl, Bool.or_eq_false_iff,
      decide_eq_false_iff_not, beq_eq_false_iff_ne, List.contains_eq_mem]
    refine ⟨⟨⟨by omega, by omega⟩, ?_⟩, ?_⟩
    · exact not_mem_of_plain h (by decide)
    · exact not_mem_of_plain h (by decide)
  simp only [isLiteral, unescaped, Bool.not_false, Bool.and_true, Bool.and_eq_true,
    decide_eq_true_eq, bne_iff_ne]
  exact ⟨⟨by omega, ne_of_plain h rfl⟩, ne_of_plain h rfl⟩

theorem isForbiddenInHost_of_plain : isForbiddenInHost c = false := by
  have other : c ∉ "\x00\t\n\r #/:<>?@[\\]^|".toList := not_mem_of_plain h (by decide)
  rw [isForbiddenInHost, List.contains_eq_mem, decide_eq_false other]

theorem endsAuthority_of_plain : endsAuthority false c = false := by
  simp only [endsAuthority, startsTail_of_literal (isLiteral_of_plain h), Bool.or_false,
    Bool.false_and, beq_eq_false_iff_ne]
  exact ne_of_plain h rfl

end Plain

namespace PlainName

variable {name : List Char} (h : PlainName name)

include h

theorem not_isDots : isDots name = false := by
  obtain ⟨c, rest, rfl⟩ := List.exists_cons_of_ne_nil h.ne_nil
  have first := h.plain c List.mem_cons_self
  have undotted : dotCount? (c :: rest) = none := by
    unfold dotCount?
    split
    all_goals rename_i same; cases same
    · exact absurd first (by decide)
    · exact absurd first (by decide)
    · exact absurd first (by decide)
    · rfl
  rw [isDots, isHere, isParent, undotted]
  rfl

theorem literal : Literal name := fun c mem => isLiteral_of_plain (h.plain c mem)

end PlainName

variable {host : List Char} {name : List Char} {names : List (List Char)}

theorem splitHost_join (h : ∀ c ∈ host, isPlain c = true) (rest : List Char) :
    splitHost false false (host ++ '/' :: rest) = (host, '/' :: rest) := by
  induction host with
  | nil => rfl
  | cons c host ih =>
      obtain ⟨first, later⟩ := List.forall_mem_cons.mp h
      have colon : (c == ':') = false := beq_false_of_ne (ne_of_plain first rfl)
      have bracket : (c == '[') = false := beq_false_of_ne (ne_of_plain first rfl)
      simp [splitHost, colon, bracket, endsAuthority_of_plain first, ih later]

theorem anyHost_plain (h : PlainName host) : anyHost host = .ok (.name (String.ofList host)) := by
  have unbracketed : bracketed? host = none := by
    unfold bracketed?
    split
    · exact absurd (h.plain '[' List.mem_cons_self) (by decide)
    · rfl
  have clean : host.any isForbiddenInHost = false := by
    rw [List.any_eq_false]
    intro c mem
    simp [isForbiddenInHost_of_plain (h.plain c mem)]
  simp only [anyHost, unbracketed, clean, Bool.false_eq_true, if_false,
    h.literal.percentEncode_eq fun _ => isControl_of_literal]

theorem parseAuthority_plain (h : PlainName host) (rest : List Char) :
    parseAuthority .other (host ++ '/' :: rest) =
      .ok (.named ⟨"", "", .name (String.ofList host), none⟩, '/' :: rest) := by
  have region : (host ++ '/' :: rest).span (fun c => !endsAuthority false c) =
      (host, '/' :: rest) := by
    rw [List.span_eq_takeWhile_dropWhile, List.takeWhile_append_of_pos,
      List.dropWhile_append_of_pos]
    · simp [endsAuthority]
    all_goals exact fun c mem => by rw [endsAuthority_of_plain (h.plain c mem)]; rfl
  have alone : splitLastAt host = none := by
    have none : ∀ c ∈ host.reverse, (c != '@') = true := fun c mem =>
      bne_iff_ne.mpr (ne_of_plain (h.plain c (List.mem_reverse.mp mem)) rfl)
    simp [splitLastAt, List.span_eq_takeWhile_dropWhile, List.takeWhile_eq_self_iff.mpr none,
      List.dropWhile_eq_nil_iff.mpr none]
  have user : splitUser false (host ++ '/' :: rest) = .ok ("", "", host ++ '/' :: rest) := by
    simp only [splitUser, region, alone]
  obtain ⟨c, cs, rfl⟩ := List.exists_cons_of_ne_nil h.ne_nil
  simp only [parseAuthority, SchemeKind.isInternet, user, bind, Except.bind,
    splitHost_join h.plain rest, anyHost_plain h, splitPort]
  rfl

theorem splitScheme_content :
    splitScheme (urlText "content".toList host names) = .ok ("content", placeText host names) := rfl

section Content

variable (site : PlainName host) (plain : ∀ name' ∈ name :: names, PlainName name')

include site plain

theorem parseOther_placeText :
    parseOther (placeText host (name :: names)) =
      .ok ⟨.named ⟨"", "", .name (String.ofList host), none⟩, .ofSegments (name :: names), []⟩ := by
  have tail : splitTail ('/' :: (name ++ names.flatMap ('/' :: ·))) =
      ('/' :: (name ++ names.flatMap ('/' :: ·)), []) := by
    have throughout := forall_placeText (fun _ => startsTail_of_literal) rfl site.literal
      fun part member => (plain part member).literal
    exact splitTail_of_whole fun c mem => throughout c (List.mem_append_right _ mem)
  have resolved : resolvePieces false ((name :: names).map .plain) = name :: names :=
    resolveFrom_of_kept [] _ (fun part member => (plain part member).not_isDots)
      fun _ _ => firstOfFile_false ..
  rw [placeText, List.flatMap_cons]
  simp only [List.cons_append, parseOther, parseAuthority_plain site, bind, Except.bind, tail,
    pieces_join false fun part member => (plain part member).literal, resolved]
  rfl

/-- A content URL is read as it is written. -/
theorem parse_content {s : String}
    (text : s.toList = urlText "content".toList host (name :: names)) :
    parse s = .ok
      { scheme := "content"
        authority := .named ⟨"", "", .name (String.ofList host), none⟩
        path := .ofSegments (name :: names)
        query := none
        fragment := none } := by
  have scheme : PlainName "content".toList := by decide
  have literal : ∀ name' ∈ name :: names, Literal name' := fun part member =>
    (plain part member).literal
  have solid : trimControls s.toList = urlText "content".toList host (name :: names) := by
    rw [text, trimControls_urlText scheme.literal site.literal literal]
  have unbroken : withoutBreaks (placeText host (name :: names)) =
      placeText host (name :: names) :=
    withoutBreaks_of_unbroken <|
      forall_placeText (fun _ => isBreak_of_literal) rfl site.literal literal
  have kind : schemeKind "content" = .other := rfl
  simp only [parse, solid, splitScheme_content, bind, Except.bind, kind, unbroken,
    parseOther_placeText site plain]
  rfl

end Content

end AlertSound.Url
