import AlertSound.Json.Literal

/-!
String literals are read back. Every character is written in one of three ways, and each
of them is read as that character alone, whatever follows it.
-/
namespace AlertSound.Json

theorem hexValue?_hexDigit {n : Nat} (h : n < 16) :
    Text.hexValue? (Text.hexDigit n false) = some n := by
  decide +revert

/-- The escape of a control is no surrogate. -/
theorem unicodeEscape_control {c : Char} (cs : List Char) (h : c.toNat < 0x20) :
    unicodeEscape ('0' :: '0' :: Text.hexDigit (c.toNat / 16) false ::
      Text.hexDigit (c.toNat % 16) false :: cs) = .ok (c, 4) := by
  have high := hexValue?_hexDigit (show c.toNat / 16 < 16 by omega)
  have low := hexValue?_hexDigit (show c.toNat % 16 < 16 by omega)
  have zero : Text.hexValue? '0' = some 0 := by decide
  have unit : c.toNat / 16 * 16 + c.toNat % 16 = c.toNat := by omega
  have lows : isLowSurrogate c.toNat = false := by simp [isLowSurrogate]; omega
  have highs : isHighSurrogate c.toNat = false := by simp [isHighSurrogate]; omega
  simp [unicodeEscape, hexUnit, high, low, zero, unit, lows, highs, bind, Except.bind]

theorem unescape?_of_shortEscape {c letter : Char} (h : shortEscape? c = some letter) :
    unescape? letter = some c ∧ letter ≠ 'u' := by
  unfold shortEscape? at h
  split at h <;> cases h <;> decide

theorem plain_of_shortEscape {c : Char} (h : shortEscape? c = none) : c ≠ '"' ∧ c ≠ '\\' := by
  constructor <;> intro same <;> subst same <;> cases h

section Content

variable (fuel : Nat) (cs : List Char)

theorem content_backslash {letter c : Char} (short : unescape? letter = some c)
    (other : letter ≠ 'u') :
    content (fuel + 1) ('\\' :: letter :: cs) =
      (fun read => (c :: read.1, read.2)) <$> content fuel cs := by
  simp [content, short]

theorem content_control {c : Char} (h : c.toNat < 0x20) :
    content (fuel + 1) ('\\' :: 'u' :: '0' :: '0' :: Text.hexDigit (c.toNat / 16) false ::
      Text.hexDigit (c.toNat % 16) false :: cs) =
      (fun read => (c :: read.1, read.2)) <$> content fuel cs := by
  simp [content, unicodeEscape_control cs h]
  rfl

theorem content_plain {c : Char} (quote : c ≠ '"') (backslash : c ≠ '\\') (h : ¬c.toNat < 0x20) :
    content (fuel + 1) (c :: cs) = (fun read => (c :: read.1, read.2)) <$> content fuel cs := by
  simp [content, quote, backslash, h]

/-- One written character is read in one step. -/
theorem content_escape (c : Char) :
    content (fuel + 1) (escape c ++ cs) =
      (fun read => (c :: read.1, read.2)) <$> content fuel cs := by
  unfold escape
  split
  · rename_i letter short
    obtain ⟨back, other⟩ := unescape?_of_shortEscape short
    exact content_backslash fuel cs back other
  · rename_i none
    obtain ⟨quote, backslash⟩ := plain_of_shortEscape none
    split
    · rename_i control
      exact content_control fuel cs control
    · rename_i control
      exact content_plain fuel cs quote backslash control

end Content

/-- A literal is read as what it was written for. -/
theorem content_literal {fuel : Nat} {chars : List Char} (h : chars.length < fuel)
    (rest : List Char) :
    content fuel (chars.flatMap escape ++ '"' :: rest) = .ok (chars, rest) := by
  induction chars generalizing fuel with
  | nil =>
      obtain ⟨fuel, rfl⟩ := Nat.exists_eq_add_of_lt h
      simp [content]
  | cons c chars ih =>
      cases fuel with
      | zero => cases h
      | succ fuel =>
          rw [List.flatMap_cons, List.append_assoc, content_escape,
            ih (Nat.lt_of_succ_lt_succ h)]
          rfl

theorem escape_ne_nil (c : Char) : escape c ≠ [] := by
  unfold escape
  split
  · exact List.cons_ne_nil _ _
  · split <;> exact List.cons_ne_nil _ _

/-- What is written of each element takes one place at least. -/
theorem length_le_length_flatMap {α β : Type} {f : α → List β} (h : ∀ x, f x ≠ []) (xs : List α) :
    xs.length ≤ (xs.flatMap f).length := by
  induction xs with
  | nil => exact Nat.le_refl 0
  | cons x xs ih =>
      have one := List.length_pos_iff.mpr (h x)
      simp only [List.flatMap_cons, List.length_append, List.length_cons]
      omega

theorem readContent_literal (s : String) (rest : List Char) :
    readContent (s.toList.flatMap escape ++ '"' :: rest) = .ok (s, rest) := by
  have enough : s.toList.length < (s.toList.flatMap escape ++ '"' :: rest).length + 1 := by
    have grows := length_le_length_flatMap escape_ne_nil s.toList
    simp only [List.length_append]
    omega
  rw [readContent, content_literal enough]
  simp [Except.map]

end AlertSound.Json
