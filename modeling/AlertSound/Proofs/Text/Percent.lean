import AlertSound.Text.Percent

/-!
Escapes are read back. Bytes come out of their percent-encoding whole, whichever of them are
escaped, as long as the percent sign is: a sign that stands for itself could begin an escape.
A text without the sign has nothing to read back.
-/
namespace AlertSound.Text

theorem hexValue?_hexDigit : ∀ n < 16, hexValue? (hexDigit n true) = some n := by decide

theorem percentDecode_percentByte (b : UInt8) (cs : List Char) :
    percentDecode (percentByte b ++ cs) = b :: percentDecode cs := by
  have size := b.toNat_lt
  have high := hexValue?_hexDigit (b.toNat / 16) (by omega)
  have low := hexValue?_hexDigit (b.toNat % 16) (by omega)
  have whole : 16 * (b.toNat / 16) + b.toNat % 16 = b.toNat := Nat.div_add_mod b.toNat 16
  simp only [percentByte, List.cons_append, List.nil_append, percentDecode, high, low, whole,
    UInt8.ofNat_toNat]

theorem percentDecode_cons {c : Char} (other : c ≠ '%') (cs : List Char) :
    percentDecode (c :: cs) = String.utf8EncodeChar c ++ percentDecode cs := by
  rw [percentDecode]
  intro h l rest same
  exact absurd same other

theorem percentDecode_eq {cs : List Char} (unescaped : '%' ∉ cs) : percentDecode cs = utf8 cs := by
  induction cs with
  | nil => rfl
  | cons c cs ih =>
      simp only [List.mem_cons, not_or] at unescaped
      rw [percentDecode_cons (Ne.symm unescaped.1), ih unescaped.2]
      rfl

/-- What needs no escape is written as it stands. -/
theorem percentEncode_eq {escaped : Char → Bool} {cs : List Char}
    (kept : ∀ c ∈ cs, c.toNat < 0x80 ∧ escaped c = false) : percentEncode escaped cs = cs := by
  induction cs with
  | nil => rfl
  | cons c cs ih =>
      obtain ⟨⟨small, unescaped⟩, later⟩ := List.forall_mem_cons.mp kept
      have step : percentEncode escaped (c :: cs) = c :: percentEncode escaped cs := by
        simp [percentEncode, small, unescaped]
      rw [step, ih later]

theorem toNat_ofNat {n : Nat} (small : n < 0x80) : (Char.ofNat n).toNat = n := by
  have valid : n.isValidChar := .inl (Nat.lt_trans small (by decide))
  rw [Char.ofNat, dif_pos valid]
  rfl

/-- A character of ASCII is its one byte. -/
theorem utf8EncodeChar_ofNat {b : UInt8} (small : b < 0x80) :
    String.utf8EncodeChar (Char.ofNat b.toNat) = [b] := by
  have small : b.toNat < 0x80 := UInt8.lt_iff_toNat_lt.mp small
  have number : (Char.ofNat b.toNat).val.toNat = b.toNat := toNat_ofNat small
  simp [String.utf8EncodeChar, number, Nat.le_of_lt_succ small]

/-- Bytes are read back from their escapes. -/
theorem percentDecode_percentEncodeBytes {escaped : Char → Bool} (sign : escaped '%' = true)
    (bytes : List UInt8) : percentDecode (percentEncodeBytes escaped bytes) = bytes := by
  induction bytes with
  | nil => rfl
  | cons b bytes ih =>
      simp only [percentEncodeBytes, List.flatMap_cons] at ih ⊢
      split
      · rename_i kept
        simp only [Bool.and_eq_true, decide_eq_true_eq, Bool.not_eq_true'] at kept
        have other : Char.ofNat b.toNat ≠ '%' := fun same => by simp [same, sign] at kept
        rw [List.singleton_append, percentDecode_cons other, utf8EncodeChar_ofNat kept.1, ih]
        rfl
      · rw [percentDecode_percentByte, ih]

end AlertSound.Text
