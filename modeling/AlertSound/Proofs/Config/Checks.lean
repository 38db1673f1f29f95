import AlertSound.Config
import Mathlib.Data.List.Infix

/-!
What the checked parts of a configuration are checked for. Labels are usable if none of them
is blank and the one around a title has a place for it; slots are usable if there is one at
least and no more than a device has. `new` makes these and no others. With such a place, and
only with one, a title is in the label that was made from it.
-/
namespace AlertSound

theorem Text.isBlankText_eq_false_iff {s : String} :
    isBlankText s = false ↔ ∃ c ∈ s.toList, isBlank c = false := by
  simp [isBlankText, List.all_eq_false]

namespace Labels

structure Usable (labels : Labels) : Prop where
  default : ∃ c ∈ labels.default.toList, Text.isBlank c = false
  defaultWithActual : ∃ c ∈ labels.defaultWithActual.toList, Text.isBlank c = false
  unknown : ∃ c ∈ labels.unknown.toList, Text.isBlank c = false
  place : placeholder <:+: labels.defaultWithActual.toList

variable {text title : List Char} {labels : Labels}

theorem brace_mem_placeholder : '\x7b' ∈ placeholder := by decide +kernel

theorem hasPlaceholder_iff : hasPlaceholder text = true ↔ placeholder <:+: text := by
  induction text with
  | nil => simp [hasPlaceholder, List.ne_nil_of_mem brace_mem_placeholder]
  | cons c cs ih =>
      rw [hasPlaceholder, Bool.or_eq_true, List.isPrefixOf_iff_prefix, ih, List.infix_cons_iff]

theorem infix_fill (place : hasPlaceholder text = true) : title <:+: fill title text := by
  fun_induction fill title text with
  | case1 => cases place
  | case2 c cs here ih => exact (List.prefix_append ..).isInfix
  | case3 c cs elsewhere ih =>
      have later : hasPlaceholder cs = true := by simpa [hasPlaceholder, elsewhere] using place
      exact (ih later).trans (List.suffix_cons ..).isInfix

theorem fill_eq_self (none : hasPlaceholder text = false) : fill title text = text := by
  fun_induction fill title text with
  | case1 => rfl
  | case2 c cs here ih => simp [hasPlaceholder, here] at none
  | case3 c cs elsewhere ih =>
      rw [ih (Bool.or_eq_false_iff.mp none).2]

/-- A label shows every title if and only if it has a place for one. -/
theorem infix_withActual_iff :
    (∀ title : String, title.toList <:+: (labels.withActual title).toList) ↔
      placeholder <:+: labels.defaultWithActual.toList := by
  simp only [withActual, String.toList_ofList]
  rw [← hasPlaceholder_iff]
  constructor
  · intro shows
    by_contra none
    rw [Bool.not_eq_true] at none
    -- The label shows itself whatever the title is, so a longer title is not in it.
    have longer := (shows (labels.defaultWithActual ++ "?")).length_le
    rw [fill_eq_self none, String.toList_append, List.length_append] at longer
    exact absurd longer (by simp)
  · exact fun place title => infix_fill place

theorem usable_iff : labels.Usable ↔ Text.isBlankText labels.default = false ∧
    Text.isBlankText labels.defaultWithActual = false ∧
    Text.isBlankText labels.unknown = false ∧
    hasPlaceholder labels.defaultWithActual.toList = true := by
  simp only [Text.isBlankText_eq_false_iff, hasPlaceholder_iff]
  exact ⟨fun h => ⟨h.default, h.defaultWithActual, h.unknown, h.place⟩,
    fun ⟨default, around, unknown, place⟩ => ⟨default, around, unknown, place⟩⟩

/-- Usable labels are what `new` makes, and all that it makes. -/
theorem new_eq_ok_iff {default around unknown : String} :
    new default around unknown = .ok labels ↔
      labels = ⟨default, around, unknown⟩ ∧ labels.Usable := by
  constructor
  · intro made
    unfold new at made
    split at made
    · cases made
    · rename_i given
      split at made
      · cases made
      · rename_i place
        cases made
        simp only [Bool.or_eq_true, not_or, Bool.not_eq_true] at given
        rw [Bool.not_eq_true', Bool.not_eq_false] at place
        exact ⟨rfl, usable_iff.mpr ⟨given.1.1, given.1.2, given.2, place⟩⟩
  · rintro ⟨rfl, usable⟩
    obtain ⟨default, around, unknown, place⟩ := usable_iff.mp usable
    simp [new, default, around, unknown, place]

theorem usable_ordinary : ordinary.Usable := usable_iff.mpr (by decide +kernel)

end Labels

namespace RestoreSlots

def Usable (slots : RestoreSlots) : Prop := 1 ≤ slots.count.toNat ∧ slots.count.toNat ≤ 3

theorem new_eq_ok_iff {slots : RestoreSlots} {count : UInt8} :
    new count = .ok slots ↔ slots = ⟨count⟩ ∧ slots.Usable := by
  have refused : (count = 0 || ringtoneSlots < count) = true ↔
      ¬(1 ≤ count.toNat ∧ count.toNat ≤ 3) := by
    have zero : count = 0 ↔ count.toNat = 0 := UInt8.toNat_inj.symm
    have three : ringtoneSlots.toNat = 3 := rfl
    simp only [Bool.or_eq_true, decide_eq_true_eq, UInt8.lt_iff_toNat_lt, three, zero]
    omega
  constructor
  · intro made
    unfold new at made
    split at made
    · cases made
    · rename_i good
      cases made
      exact ⟨rfl, by_contra fun unusable => good (refused.mpr unusable)⟩
  · rintro ⟨rfl, usable⟩
    exact if_neg fun bad => refused.mp bad usable

theorem eq_of_new_eq_error {count : UInt8} {e : ConfigError} (h : new count = .error e) :
    e = .restoreSlots count := by
  unfold new at h
  split at h <;> cases h
  rfl

theorem usable_ordinary : ordinary.Usable := ⟨by decide, by decide⟩

end RestoreSlots
end AlertSound
