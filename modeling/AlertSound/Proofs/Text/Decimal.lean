import AlertSound.Text.Blank
import AlertSound.Text.Decimal

/-!
Numbers are read back. An integer is written with digits and no blanks, so that trimming
takes nothing away from it, and what is read from its digits is the integer again, unless
it is too large for the type that it is read as.
-/
namespace AlertSound.Text

theorem isBlank_of_isDigit {c : Char} (h : c.isDigit = true) : isBlank c = false := by
  have range : 48 ≤ c.toNat ∧ c.toNat ≤ 57 := by
    simpa [Char.isDigit, UInt32.le_iff_toNat_le] using h
  simp only [isBlank, Bool.or_eq_false_iff, Bool.and_eq_false_iff, decide_eq_false_iff_not,
    beq_eq_false_iff_ne]
  omega

theorem trimStart_of_solid {cs : List Char} (h : ∀ c ∈ cs, isBlank c = false) :
    trimStart cs = cs := by
  cases cs with
  | nil => rfl
  | cons c cs => simp [trimStart, h c List.mem_cons_self]

theorem trim_of_solid {s : String} (h : ∀ c ∈ s.toList, isBlank c = false) : trim s = s := by
  have back : s.toList.reverse.dropWhile isBlank = s.toList.reverse :=
    trimStart_of_solid fun c hc => h c (List.mem_reverse.mp hc)
  rw [trim, trimStart_of_solid h, trimEnd, back, List.reverse_reverse, String.ofList_toList]

theorem isDigit_of_mem {n : Nat} {c : Char} (h : c ∈ Nat.toDigits 10 n) : c.isDigit = true :=
  Nat.isDigit_of_mem_toDigits (by decide) (by decide) h

theorem digits?_toDigits (n : Nat) : digits? (Nat.toDigits 10 n) = some n := by
  have some : (Nat.toDigits 10 n).isEmpty = false :=
    List.isEmpty_eq_false_iff.mpr (List.ne_nil_of_length_pos Nat.length_toDigits_pos)
  have all : (Nat.toDigits 10 n).all Char.isDigit = true :=
    List.all_eq_true.mpr fun c => isDigit_of_mem
  simp only [digits?, some, all, ← Nat.ofDigitChars_eq_foldl, Nat.ofDigitChars_ten_toDigits]
  rfl

/-- The digits of a number, with a sign before them if it is negative. -/
theorem toString_int (n : Int) : (toString n).toList =
    if 0 ≤ n then Nat.toDigits 10 n.toNat else '-' :: Nat.toDigits 10 (-n).toNat := by
  rw [Int.toString_eq_repr, Int.repr_eq_if]
  split
  · simp [Nat.repr_eq_ofList_toDigits]
  · simp [Nat.repr_eq_ofList_toDigits]

theorem head_toString (n : Int) :
    ∃ c cs, (toString n).toList = c :: cs ∧ (c = '-' ∨ c.isDigit = true) := by
  rw [toString_int]
  split
  · obtain ⟨c, cs, same⟩ := List.exists_cons_of_length_pos
      (Nat.length_toDigits_pos : 0 < (Nat.toDigits 10 n.toNat).length)
    exact ⟨c, cs, same, .inr (isDigit_of_mem (same ▸ List.mem_cons_self))⟩
  · exact ⟨_, _, rfl, .inl rfl⟩

theorem trim_toString (n : Int) : trim (toString n) = toString n := by
  refine trim_of_solid fun c hc => ?_
  rw [toString_int] at hc
  split at hc
  · exact isBlank_of_isDigit (isDigit_of_mem hc)
  · cases List.mem_cons.mp hc with
    | inl sign => exact sign ▸ by decide
    | inr digit => exact isBlank_of_isDigit (isDigit_of_mem digit)

theorem int?_toDigits (n : Nat) : int? (Nat.toDigits 10 n) = some (n : Int) := by
  have read := digits?_toDigits n
  have digit : ∀ c ∈ Nat.toDigits 10 n, c.isDigit = true := fun c => isDigit_of_mem
  unfold int?
  split
  · rename_i same
    exact absurd (digit '-' (same ▸ List.mem_cons_self)) (by decide)
  · rename_i same
    exact absurd (digit '+' (same ▸ List.mem_cons_self)) (by decide)
  · rw [read]
    rfl

theorem int?_toString (n : Int) : int? (toString n).toList = some n := by
  rw [toString_int]
  split
  · rename_i positive
    rw [int?_toDigits, Int.toNat_of_nonneg positive]
  · rename_i negative
    rw [int?, digits?_toDigits]
    exact congrArg some (show -((-n).toNat : Int) = n by omega)

/-- A number that is read as one of 64 bits is the one that was written. -/
theorem toInt_of_int64? {n : Int} {id : Int64} (h : int64? (toString n) = some id) :
    id.toInt = n := by
  simp only [int64?, intBetween?, int?_toString, Option.filter_some, Option.map_eq_some_iff] at h
  obtain ⟨m, kept, rfl⟩ := h
  split at kept
  · rename_i between
    cases kept
    simp only [Bool.and_eq_true, decide_eq_true_eq] at between
    exact Int64.toInt_ofInt_of_le between.1 (Int.lt_of_le_sub_one between.2)
  · cases kept

/-- A number of 64 bits is read back from how it is written. -/
theorem int64?_toString (id : Int64) : int64? (toString id.toInt) = some id := by
  have between : (Int64.minValue.toInt ≤ id.toInt && id.toInt ≤ Int64.maxValue.toInt) = true := by
    simp only [Bool.and_eq_true, decide_eq_true_eq]
    exact ⟨id.minValue_le_toInt, id.toInt_le⟩
  simp only [int64?, intBetween?, int?_toString, Option.filter_some, between, if_true,
    Option.map_some, Int64.ofInt_toInt]

end AlertSound.Text
