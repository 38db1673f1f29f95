import AlertSound.Proofs.Text.Decimal
import AlertSound.Proofs.Text.Percent
import AlertSound.Proofs.Url.Segments
import Mathlib.Data.List.TakeDrop
import Mathlib.Data.List.TakeWhile

/-!
Characters that stand for themselves in a path. They are not escaped, left out or taken for a
separator, and so a path of names in them, each written after a slash, is read as the names
that it is written with. The percent sign is one of them: what is escaped once is not escaped
again.
-/
namespace AlertSound.Url

def isLiteral (c : Char) : Bool := c.toNat < 0x80 && !isPathEscaped c && c != '/' && c != '\\'

def Literal (text : List Char) : Prop := ∀ c ∈ text, isLiteral c = true

theorem literal_nil : Literal [] := List.forall_mem_nil _

section Character

variable {c : Char} (h : isLiteral c = true)

include h

theorem isPathEscaped_of_literal : isPathEscaped c = false := by
  simp only [isLiteral, Bool.and_eq_true, Bool.not_eq_true'] at h
  exact h.1.1.2

theorem isControl_of_literal : isControl c = false := by
  have unescaped := isPathEscaped_of_literal h
  simp only [isPathEscaped, isFragmentEscaped, Bool.or_eq_false_iff] at unescaped
  exact unescaped.1.1

theorem literal_range : 0x20 < c.toNat ∧ c.toNat < 0x7f := by
  have control := isControl_of_literal h
  have space : c.toNat ≠ 0x20 := by
    intro same
    rw [Char.ext (UInt32.toNat_inj.mp (show c.toNat = ' '.toNat from same))] at h
    exact absurd h (by decide)
  simp only [isLiteral, Bool.and_eq_true, decide_eq_true_eq] at h
  simp only [isControl, Bool.or_eq_false_iff, decide_eq_false_iff_not,
    beq_eq_false_iff_ne] at control
  omega

/-- A literal character is none of the others. -/
theorem ne_of_literal {other : Char} (special : isLiteral other = false) : c ≠ other := by
  rintro rfl
  rw [h] at special
  cases special

theorem isBreak_of_literal : isBreak c = false := by
  simp only [isBreak, Bool.or_eq_false_iff, beq_eq_false_iff_ne]
  exact ⟨⟨ne_of_literal h rfl, ne_of_literal h rfl⟩, ne_of_literal h rfl⟩

theorem startsTail_of_literal : startsTail c = false := by
  simp only [startsTail, Bool.or_eq_false_iff, beq_eq_false_iff_ne]
  exact ⟨ne_of_literal h rfl, ne_of_literal h rfl⟩

theorem isSeparator_of_literal (backslash : Bool) :
    (c == '/' || (backslash && c == '\\')) = false := by
  have slash : (c == '/') = false := beq_false_of_ne (ne_of_literal h rfl)
  have back : (c == '\\') = false := beq_false_of_ne (ne_of_literal h rfl)
  rw [slash, back, Bool.and_false]
  rfl

theorem isBlank_of_literal : Text.isBlank c = false := by
  have range := literal_range h
  simp only [Text.isBlank, Bool.or_eq_false_iff, Bool.and_eq_false_iff, decide_eq_false_iff_not,
    beq_eq_false_iff_ne]
  omega

end Character

section Unbroken

variable {text : List Char} (unbroken : ∀ c ∈ text, isBreak c = false)

include unbroken

theorem withoutBreaks_of_unbroken : withoutBreaks text = text :=
  List.filter_eq_self.mpr fun c mem => by rw [unbroken c mem]; rfl

theorem dropWhile_of_unbroken : text.dropWhile isBreak = text := by
  cases text with
  | nil => rfl
  | cons c text =>
      rw [List.dropWhile_cons_of_neg]
      rw [unbroken c List.mem_cons_self]
      decide

theorem splitDrive?_of_unbroken : splitDrive? text = none := by
  unfold splitDrive?
  rw [dropWhile_of_unbroken unbroken]
  cases text with
  | nil => rfl
  | cons c text =>
      have later := (List.forall_mem_cons.mp unbroken).2
      simp only [dropWhile_of_unbroken later]
      split
      · rename_i mark _
        have unbroken : isBreak mark = false := later mark (by simp)
        simp [unbroken]
      · rfl

end Unbroken

theorem Literal.unbroken {text : List Char} (h : Literal text) : ∀ c ∈ text, isBreak c = false :=
  fun c mem => isBreak_of_literal (h c mem)

theorem Literal.percentEncode_eq {text : List Char} (h : Literal text) {escaped : Char → Bool}
    (unescaped : ∀ c, isLiteral c = true → escaped c = false) :
    Text.percentEncode escaped text = text :=
  Text.percentEncode_eq fun c mem =>
    ⟨Nat.lt_trans (literal_range (h c mem)).2 (by decide), unescaped c (h c mem)⟩

/-- A literal text is read as it stands. -/
theorem Literal.ofRaw_eq {text : List Char} (h : Literal text) :
    Piece.ofRaw text = .plain text := by
  simp only [Piece.ofRaw, splitDrive?_of_unbroken h.unbroken,
    withoutBreaks_of_unbroken h.unbroken, h.percentEncode_eq fun _ => isPathEscaped_of_literal]

section Division

variable {α : Type} {isSeparator : α → Bool}

theorem splitAll_ne_nil (cs : List α) : splitAll isSeparator cs ≠ [] := by
  cases cs with
  | nil => simp [splitAll]
  | cons c cs =>
      unfold splitAll
      split
      · simp
      · split <;> simp

theorem mem_of_mem_splitAll {cs part : List α} {c : α}
    (member : part ∈ splitAll isSeparator cs) (mem : c ∈ part) : c ∈ cs := by
  induction cs generalizing part with
  | nil =>
      obtain rfl := List.mem_singleton.mp member
      exact mem
  | cons first cs ih =>
      obtain ⟨next, parts, same⟩ := List.exists_cons_of_ne_nil (splitAll_ne_nil cs)
      rw [same] at ih
      simp only [splitAll, same] at member
      split at member
      · rcases List.mem_cons.mp member with rfl | member
        · cases mem
        · exact List.mem_cons_of_mem first (ih member mem)
      · rcases List.mem_cons.mp member with rfl | member
        · rcases List.mem_cons.mp mem with rfl | mem
          · exact List.mem_cons_self
          · exact List.mem_cons_of_mem first (ih List.mem_cons_self mem)
        · exact List.mem_cons_of_mem first (ih (List.mem_cons_of_mem next member) mem)

theorem splitAll_of_whole {cs : List α} (whole : ∀ c ∈ cs, isSeparator c = false) :
    splitAll isSeparator cs = [cs] := by
  induction cs with
  | nil => rfl
  | cons c cs ih =>
      obtain ⟨first, rest⟩ := List.forall_mem_cons.mp whole
      simp [splitAll, ih rest, first]

theorem splitAll_append {part : List α} {mark : α} (whole : ∀ c ∈ part, isSeparator c = false)
    (separates : isSeparator mark = true) (rest : List α) :
    splitAll isSeparator (part ++ mark :: rest) = part :: splitAll isSeparator rest := by
  induction part with
  | nil =>
      have given : splitAll isSeparator rest ≠ [] := splitAll_ne_nil rest
      obtain ⟨next, parts, same⟩ := List.exists_cons_of_ne_nil given
      simp [splitAll, same, separates]
  | cons c part ih =>
      obtain ⟨first, later⟩ := List.forall_mem_cons.mp whole
      simp [splitAll, ih later, first]

/-- A text is divided at the slashes that were put between the parts. -/
theorem splitAll_join {mark : α} (separates : isSeparator mark = true) (part : List α)
    (parts : List (List α)) (whole : ∀ part' ∈ part :: parts, ∀ c ∈ part', isSeparator c = false) :
    splitAll isSeparator (part ++ parts.flatMap (mark :: ·)) = part :: parts := by
  induction parts generalizing part with
  | nil => simpa using splitAll_of_whole (whole part List.mem_cons_self)
  | cons next parts ih =>
      obtain ⟨first, later⟩ := List.forall_mem_cons.mp whole
      rw [List.flatMap_cons, List.cons_append, splitAll_append first separates,
        ih next later]

end Division

/-- Without line breaks every piece is read whole. -/
theorem whole_pieces {backslash isFile : Bool} {raw : List Char}
    (unbroken : ∀ c ∈ raw, isBreak c = false) :
    ∀ piece ∈ pieces backslash raw, ∀ stack, partedAtStart isFile stack piece = none := by
  refine List.forall_mem_map.mpr fun part member stack => ?_
  have whole : splitDrive? part = none :=
    splitDrive?_of_unbroken fun c mem => unbroken c (mem_of_mem_splitAll member mem)
  simp only [Piece.ofRaw, whole, partedAtStart]

/-- Names that were joined by slashes are the pieces of the text. -/
theorem pieces_join (backslash : Bool) {name : List Char} {names : List (List Char)}
    (literal : ∀ name' ∈ name :: names, Literal name') :
    pieces backslash (name ++ names.flatMap ('/' :: ·)) = (name :: names).map .plain := by
  have separated : splitAll (fun c => c == '/' || (backslash && c == '\\'))
      (name ++ names.flatMap ('/' :: ·)) = name :: names :=
    splitAll_join rfl name names fun part member c mem =>
      isSeparator_of_literal (literal part member c mem) backslash
  rw [pieces, separated]
  exact List.map_congr_left fun part member => (literal part member).ofRaw_eq

theorem trimControls_of_solid {cs : List Char} (h : ∀ c ∈ cs, 0x20 < c.toNat) :
    trimControls cs = cs := by
  have stays (text : List Char) (h : ∀ c ∈ text, 0x20 < c.toNat) :
      text.dropWhile (fun c => c.toNat ≤ 0x20) = text := by
    cases text with
    | nil => rfl
    | cons c text =>
        rw [List.dropWhile_cons_of_neg]
        simpa using h c List.mem_cons_self
  rw [trimControls, stays cs h, stays cs.reverse fun c mem => h c (List.mem_reverse.mp mem),
    List.reverse_reverse]

theorem splitTail_of_whole {cs : List Char} (h : ∀ c ∈ cs, startsTail c = false) :
    splitTail cs = (cs, []) := by
  have whole : ∀ c ∈ cs, (!startsTail c) = true := fun c mem => by rw [h c mem]; rfl
  rw [splitTail, List.span_eq_takeWhile_dropWhile, List.takeWhile_eq_self_iff.mpr whole,
    List.dropWhile_eq_nil_iff.mpr whole]

def placeText (host : List Char) (names : List (List Char)) : List Char :=
  '/' :: '/' :: host ++ names.flatMap ('/' :: ·)

/-- The text of a URL that has no more than scheme, host and path. -/
def urlText (scheme host : List Char) (names : List (List Char)) : List Char :=
  scheme ++ ':' :: placeText host names

theorem Path.ofSegments_toList (segments : List String) :
    ofSegments (segments.map String.toList) = .rooted segments := by
  rw [ofSegments, List.map_map]
  exact congrArg Path.rooted (List.map_id'' (fun _ => String.ofList_toList) segments)

theorem Path.toList_text (segments : List (List Char)) :
    (ofSegments segments).text.toList = segments.flatMap ('/' :: ·) := by
  rw [ofSegments, Path.text, String.toList_join, List.flatMap_map, List.flatMap_map]
  simp

/-- How a URL is written that has a host or none, and neither query nor fragment. -/
theorem toList_toText {url : Url} {host : String} {segments : List (List Char)}
    (authority : url.authority = .named ⟨"", "", .name host, none⟩ ∨
      url.authority = .blank ∧ host = "")
    (path : url.path = .ofSegments segments) (query : url.query = none)
    (fragment : url.fragment = none) :
    url.toText.toList = urlText url.scheme.toList host.toList segments := by
  have front : (frontText url.authority url.path).toList = placeText host.toList segments := by
    rcases authority with named | ⟨blank, rfl⟩
    · simp [named, path, frontText, Site.text, Site.userText, Host.text, Path.toList_text,
        placeText]
    · simp [blank, path, frontText, Path.toList_text, placeText]
  simp [toText, front, query, fragment, tailText, urlText]

section Throughout

/-! What holds of literal characters and of the marks between them holds throughout. -/

variable {P : Char → Prop} (of_literal : ∀ c, isLiteral c = true → P c) (slash : P '/')
  {host : List Char} {names : List (List Char)} (site : Literal host)
  (literal : ∀ name ∈ names, Literal name)

include of_literal slash site literal

theorem forall_placeText : ∀ c ∈ placeText host names, P c := by
  refine List.forall_mem_append.mpr ⟨?_, fun c mem => ?_⟩
  · simp only [List.forall_mem_cons]
    exact ⟨slash, slash, fun c mem => of_literal c (site c mem)⟩
  · obtain ⟨part, member, mem⟩ := List.mem_flatMap.mp mem
    obtain rfl | mem := List.mem_cons.mp mem
    · exact slash
    · exact of_literal c (literal part member c mem)

theorem forall_urlText (colon : P ':') {scheme : List Char} (named : Literal scheme) :
    ∀ c ∈ urlText scheme host names, P c := by
  refine List.forall_mem_append.mpr ⟨fun c mem => of_literal c (named c mem), ?_⟩
  exact List.forall_mem_cons.mpr ⟨colon, forall_placeText of_literal slash site literal⟩

end Throughout

section Solid

/-! Nothing is cut off from such a text, neither as a blank nor as a control. -/

variable {scheme host : List Char} {names : List (List Char)} (named : Literal scheme)
  (site : Literal host) (literal : ∀ name ∈ names, Literal name)

include named site literal

theorem trimControls_urlText :
    trimControls (urlText scheme host names) = urlText scheme host names :=
  trimControls_of_solid <|
    forall_urlText (fun _ h => (literal_range h).1) (by decide) site literal (by decide) named

theorem trim_urlText {s : String} (text : s.toList = urlText scheme host names) :
    Text.trim s = s :=
  Text.trim_of_solid <| text ▸
    forall_urlText (fun _ => isBlank_of_literal) (by decide) site literal (by decide) named

end Solid

end AlertSound.Url
