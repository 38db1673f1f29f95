import AlertSound.Json.Number
import AlertSound.Json.Reader
import AlertSound.Proofs.Text.Decimal
import Mathlib.Data.List.TakeDrop
import Mathlib.Data.List.TakeWhile

/-!
Whole numbers are read back. They are written without a sign and without zeros in front, and a
number of 64 bits has room in the significand to its last digit.
-/
namespace AlertSound.Json

theorem le_ofDigitChars (n : Nat) (cs : List Char) : n ≤ Nat.ofDigitChars 10 cs n := by
  rw [Nat.ofDigitChars_eq_ofDigitChars_zero]
  exact Nat.le_add_right_of_le (Nat.le_mul_of_pos_left n (Nat.pow_pos (by decide)))

theorem ofDigitChars_digit (n : Nat) (c : Char) (cs : List Char) :
    Nat.ofDigitChars 10 (c :: cs) n = Nat.ofDigitChars 10 cs (10 * n + digitValue c) :=
  Nat.ofDigitChars_cons

-- Else the bound of the significand would be unfolded as a number of one digit.
attribute [local irreducible] Scaled.appended? in
theorem wholeDigits_cons (n : Scaled) (c : Char) (cs : List Char) :
    wholeDigits n (c :: cs) = match n.appended? c with
      | some significand => wholeDigits { n with significand } cs
      | none => { n with exponent := n.exponent + (c :: cs).length } := rfl

/-- Digits are taken up as long as there is room for what they come to. -/
theorem wholeDigits_of_lt {cs : List Char} {n : Nat} {e : Int}
    (small : Nat.ofDigitChars 10 cs n < UInt64.size) :
    wholeDigits ⟨n, e⟩ cs = ⟨Nat.ofDigitChars 10 cs n, e⟩ := by
  induction cs generalizing n with
  | nil => rfl
  | cons c cs ih =>
      rw [ofDigitChars_digit] at small
      have room := Nat.lt_of_le_of_lt (le_ofDigitChars _ cs) small
      have appended : Scaled.appended? ⟨n, e⟩ c = some (10 * n + digitValue c) := by
        simp only [Scaled.appended?, room, if_true]
      rw [wholeDigits_cons, appended, ofDigitChars_digit]
      exact ih small

theorem head?_toDigits {n : Nat} (positive : 0 < n) : (Nat.toDigits 10 n).head? ≠ some '0' := by
  induction n using Nat.strongRecOn with
  | ind n ih =>
      rw [Nat.toDigits_eq_if (by decide)]
      split
      · rename_i digit
        have other : ∀ n < 10, 0 < n → n.digitChar ≠ '0' := by decide
        simpa using other n digit positive
      · rename_i more
        have first := ih (n / 10) (by omega) (by omega)
        obtain ⟨c, cs, same⟩ := List.exists_cons_of_length_pos
          (Nat.length_toDigits_pos : 0 < (Nat.toDigits 10 (n / 10)).length)
        simpa [same] using first

theorem readUnsigned_toDigits {n : Nat} (small : n < UInt64.size) :
    readUnsigned false (Nat.toDigits 10 n) = .ok (.whole n, []) := by
  have digits : ∀ c ∈ Nat.toDigits 10 n, isDigit c = true := fun c => Text.isDigit_of_mem
  have span : (Nat.toDigits 10 n).span isDigit = (Nat.toDigits 10 n, []) := by
    rw [List.span_eq_takeWhile_dropWhile, List.takeWhile_eq_self_iff.mpr digits,
      List.dropWhile_eq_nil_iff.mpr digits]
  have value : wholeDigits ⟨0, 0⟩ (Nat.toDigits 10 n) = ⟨n, 0⟩ := by
    have same : Nat.ofDigitChars 10 (Nat.toDigits 10 n) 0 = n := Nat.ofDigitChars_ten_toDigits
    rw [wholeDigits_of_lt (by rwa [same]), same]
  unfold readUnsigned
  rw [span]
  split
  · rename_i none
    exact absurd (Prod.ext_iff.mp none).1 (List.ne_nil_of_length_pos Nat.length_toDigits_pos)
  · rename_i none
    exact absurd (Prod.ext_iff.mp none).1 (List.ne_nil_of_length_pos Nat.length_toDigits_pos)
  · rename_i padded
    obtain rfl | positive := Nat.eq_zero_or_pos n
    · cases padded
    · exact absurd (congrArg (fun read => read.1.head?) padded) (head?_toDigits positive)
  · rename_i same
    cases same
    rw [value]
    rfl

variable {n limit : Nat}

/-- A number is read as what it was written for, if it is not too large for what is asked. -/
theorem natUpTo_toDigits (small : n < UInt64.size) (within : n ≤ limit) :
    natUpTo limit (Nat.toDigits 10 n) = .ok (n, []) := by
  obtain ⟨c, cs, same⟩ := List.exists_cons_of_length_pos
    (Nat.length_toDigits_pos : 0 < (Nat.toDigits 10 n).length)
  have digit : c.isDigit = true := Text.isDigit_of_mem (same ▸ List.mem_cons_self)
  have other {d : Char} (none : d.isDigit = false) : c ≠ d := by
    rintro rfl
    simp [none] at digit
  have solid : skipBlanks (c :: cs) = c :: cs := by
    have blank : isBlank c = false := by
      simp [isBlank, other (show ' '.isDigit = false by decide),
        other (show '\n'.isDigit = false by decide), other (show '\t'.isDigit = false by decide),
        other (show '\r'.isDigit = false by decide)]
    rw [skipBlanks, List.dropWhile_cons_of_neg (by simp [blank])]
  have read : readNumber (c :: cs) = .ok (.whole n, []) := by
    unfold readNumber
    split
    · rename_i sign
      cases sign
      exact absurd rfl (other (show '-'.isDigit = false by decide))
    · rw [← same]
      exact readUnsigned_toDigits small
  rw [same]
  simp [natUpTo, start, solid, isDigit, digit, read, within]

end AlertSound.Json
