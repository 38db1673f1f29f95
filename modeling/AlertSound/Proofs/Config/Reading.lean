import AlertSound.Codec
import AlertSound.Proofs.Json.Number
import AlertSound.Proofs.Json.Record
import AlertSound.Proofs.Settings.Pass
import AlertSound.Proofs.Title

/-!
Labels and slots that are read from a text are not checked. Whatever they are, there is a text
that they are read from, so that of the ways to make them only `new` and the ordinary ones can
be relied on. What is lost without the check is told by titles.
-/
namespace AlertSound

namespace Codec

open Json

/-- A text field reads its text and is set to it. -/
theorem field_read_literal {ρ : Type} (name text : String) (get : ρ → Option String)
    (set : ρ → String → ρ) (record : ρ) (cs : List Char) :
    (field name Json.string get set).read record (literal text ++ cs) =
      .ok (set record text, cs) := by
  simp [field, string_of_literal, Except.map]

def labelText (l : Labels) : List Char :=
  literal "default_label" ++ ':' :: (literal l.default ++ ',' ::
    (literal "default_with_actual" ++ ':' :: (literal l.defaultWithActual ++ ',' ::
      (literal "unknown" ++ ':' :: (literal l.unknown ++ ['\x7d'])))))

theorem toJson_labels (l : Labels) :
    (labels.toJson l).toList = '\x7b' :: labelText l := by
  simp [toJson, labels, Value.text, Value.chars, Value.memberChars, labelText]

theorem members_labelText (l : Labels) (fuel : Nat) :
    members labelFields (fuel + 4) true {} (labelText l) =
      .ok (⟨some l.default, some l.defaultWithActual, some l.unknown⟩, []) := by
  rw [labelText, members_field (member_of_literal _ _).1 rfl rfl (field_read_literal ..),
    members_field (member_of_literal _ _).2 rfl rfl (field_read_literal ..),
    members_field (member_of_literal _ _).2 rfl rfl (field_read_literal ..)]
  rfl

/-- Labels are read as what they were written for, whatever they are. -/
theorem labels_ofJson_toJson (l : Labels) : labels.ofJson (labels.toJson l) = .ok l := by
  have enough : 4 ≤ (labelText l).length + 1 := by
    simp only [labelText, literal, List.length_append, List.length_cons]
    omega
  have members := members_labelText l ((labelText l).length - 3)
  rw [show (labelText l).length - 3 + 4 = (labelText l).length + 1 by omega] at members
  have read : labels.read ('\x7b' :: labelText l) = .ok (l, []) := by
    simp [labels, record, start, skipBlanks, isBlank, members, bind, Except.bind, pure, Except.pure]
  simp [ofJson, whole, toJson_labels, read, skipBlanks, bind, Except.bind]

theorem restoreSlots_ofJson_toJson (slots : RestoreSlots) :
    restoreSlots.ofJson (restoreSlots.toJson slots) = .ok slots := by
  obtain ⟨count⟩ := slots
  have small : count.toNat ≤ UInt8.size - 1 := Nat.le_sub_one_of_lt count.toNat_lt_size
  have read : restoreSlots.read (Nat.toDigits 10 count.toNat) = .ok (⟨count⟩, []) := by
    simp only [restoreSlots, uint8, natUpTo_toDigits (Nat.lt_of_le_of_lt small (by decide)) small,
      Except.map, UInt8.ofNat_toNat]
  have text : (restoreSlots.toJson ⟨count⟩).toList = Nat.toDigits 10 count.toNat := by
    simp [toJson, restoreSlots, Value.text, Value.chars]
  simp [ofJson, whole, text, read, skipBlanks, bind, Except.bind]

end Codec

namespace Labels

open Program

/-- What titles ask of labels: a title is in the label around it, and a title that is blank
brings its blanks with it. -/
structure Shows (labels : Labels) : Prop where
  within : ∀ title : String, title.toList <:+: (labels.withActual title).toList
  visible : ∀ reference indirection, (Title.resolve labels reference indirection).Ensures
    fun t title => Text.isBlankText title = true →
      ∃ own, Title.Own reference t own ∧ Text.isBlankText own = true

variable {labels : Labels}

theorem Usable.shows (h : labels.Usable) : labels.Shows where
  within := infix_withActual_iff.mpr h.place
  visible reference indirection := by
    have everywhere (s s' : List Char) (within : s <:+: s') (blank : s'.all Text.isBlank = true) :
        s.all Text.isBlank = true := by
      rw [List.all_eq_true] at blank ⊢
      exact fun c member => blank c (within.subset member)
    have given {label : String} (shown : ∃ c ∈ label.toList, Text.isBlank c = false) :
        ¬label.toList.all Text.isBlank = true := by
      rw [Bool.not_eq_true]
      exact Text.isBlankText_eq_false_iff.mpr shown
    exact Title.resolve_own everywhere (given h.default) (given h.unknown) h.place reference
      indirection

def unsetRun : Trace Resources := [⟨.setting DefaultKind.notification.settingKey, none⟩]

theorem resolveActual_unset :
    (resolveActual (.settingsDefault .notification)).Runs unsetRun none := by
  have default : (Locator.settingsDefault .notification).origin = .settingsDefault := rfl
  have named : (Locator.settingsDefault .notification).defaultKind? = some .notification := by
    decide +kernel
  simp only [resolveActual, default, named, defaultLocator?, Resource.setting]
  exact ⟨_, rfl, rfl⟩

/-- Labels that do for titles are usable, for each of them is shown for some sound. -/
theorem Shows.usable (h : labels.Shows) : labels.Usable := by
  have place := infix_withActual_iff.mp h.within
  refine ⟨?_, ⟨'\x7b', place.subset brace_mem_placeholder, by decide⟩, ?_, place⟩
  · rw [← Text.isBlankText_eq_false_iff, ← Bool.not_eq_true]
    intro blank
    have runs : (Title.resolve labels (some (.settingsDefault .notification)) .follow).Runs
        unsetRun labels.default :=
      (Title.resolve_follow_runs rfl).mpr ⟨none, unsetRun, [], rfl, resolveActual_unset, rfl, rfl⟩
    obtain ⟨own, brought, none⟩ := h.visible _ _ runs blank
    cases brought with
    | cell member => simp [unsetRun] at member
    | name same last =>
        cases same
        have name : (Locator.settingsDefault .notification).lastName? =
            some "notification_sound" := by decide +kernel
        cases name.symm.trans last
        exact absurd none (by decide)
    | actual same split resolves =>
        cases same
        have unset : ∀ e ∈ unsetRun, Resource.unset e = true := by simp [unsetRun, Resource.unset]
        cases neverResolves_of_unset rfl unset [] _ _ _ split resolves
  · rw [← Text.isBlankText_eq_false_iff, ← Bool.not_eq_true]
    intro blank
    obtain ⟨own, brought, -⟩ := h.visible none .follow (runs_done.mpr ⟨rfl, rfl⟩) blank
    cases brought with
    | cell member => exact absurd member List.not_mem_nil
    | name same | actual same => cases same

end Labels

/-- Usable slots are all there, and there are some. -/
theorem RestoreSlots.usable_iff_kinds {slots : RestoreSlots} :
    slots.Usable ↔ slots.kinds ≠ [] ∧ slots.kinds.length = slots.count.toNat := by
  rw [Usable, ← List.length_pos_iff, kinds_eq, List.length_take]
  simp only [List.length_cons, List.length_nil]
  omega

/-- The ways to make a part of a configuration: from what it is made of, as it is if nothing is
said, and from a text that is read. -/
inductive Making (Args : Type) where
  | new (args : Args)
  | ordinary
  | read (text : String)

namespace Making

def isRead {Args : Type} : Making Args → Bool
  | .read _ => true
  | .new _ | .ordinary => false

def labels? : Making (String × String × String) → Option Labels
  | .new (default, around, unknown) => (Labels.new default around unknown).toOption
  | .ordinary => some .ordinary
  | .read text => (Codec.labels.ofJson text).toOption

def slots? : Making UInt8 → Option RestoreSlots
  | .new count => (RestoreSlots.new count).toOption
  | .ordinary => some .ordinary
  | .read text => (Codec.restoreSlots.ofJson text).toOption

theorem ok_of_toOption {ε α : Type} {result : Except ε α} {a : α}
    (kept : result.toOption = some a) : result = .ok a := by
  cases result with
  | error e => cases kept
  | ok _ => exact congrArg Except.ok (Option.some.inj kept)

theorem usable_of_labels? {way : Making (String × String × String)} {labels : Labels}
    (made : way.labels? = some labels) (unread : way.isRead = false) : labels.Usable := by
  cases way with
  | new args =>
      obtain ⟨default, around, unknown⟩ := args
      exact (Labels.new_eq_ok_iff.mp (ok_of_toOption made)).2
  | ordinary =>
      cases made
      exact Labels.usable_ordinary
  | read _ => cases unread

theorem usable_of_slots? {way : Making UInt8} {slots : RestoreSlots}
    (made : way.slots? = some slots) (unread : way.isRead = false) : slots.Usable := by
  cases way with
  | new count => exact (RestoreSlots.new_eq_ok_iff.mp (ok_of_toOption made)).2
  | ordinary =>
      cases made
      exact RestoreSlots.usable_ordinary
  | read _ => cases unread

theorem labels?_read (labels : Labels) :
    (read (Codec.labels.toJson labels)).labels? = some labels := by
  rw [labels?, Codec.labels_ofJson_toJson]
  rfl

theorem slots?_read (slots : RestoreSlots) :
    (read (Codec.restoreSlots.toJson slots)).slots? = some slots := by
  rw [slots?, Codec.restoreSlots_ofJson_toJson]
  rfl

/-- What is made is usable if it is not read, and if it is read, then if and only if `new` makes
it too, which is not asked. Titles can rely on usable labels and on no others, and usable slots
are all there. Everything is read from some text, whether it is usable or not. -/
theorem usable_iff_new {way : Making (String × String × String)} {labels : Labels}
    {way' : Making UInt8} {slots : RestoreSlots} (made : way.labels? = some labels)
    (made' : way'.slots? = some slots) :
    (labels.Usable ↔ (way.isRead = true →
      Labels.new labels.default labels.defaultWithActual labels.unknown = .ok labels)) ∧
    (labels.Usable ↔ labels.Shows) ∧
    (slots.Usable ↔ (way'.isRead = true → RestoreSlots.new slots.count = .ok slots)) ∧
    (slots.Usable ↔ slots.kinds ≠ [] ∧ slots.kinds.length = slots.count.toNat) ∧
    (∀ labels : Labels, ∃ text, (Making.read text).labels? = some labels) ∧
    ∀ slots : RestoreSlots, ∃ text, (Making.read text).slots? = some slots := by
  refine ⟨⟨fun usable _ => Labels.new_eq_ok_iff.mpr ⟨rfl, usable⟩, fun checked => ?_⟩,
    ⟨Labels.Usable.shows, Labels.Shows.usable⟩,
    ⟨fun usable _ => RestoreSlots.new_eq_ok_iff.mpr ⟨rfl, usable⟩, fun checked => ?_⟩,
    RestoreSlots.usable_iff_kinds, fun labels => ⟨_, labels?_read labels⟩,
    fun slots => ⟨_, slots?_read slots⟩⟩
  · cases reads : way.isRead with
    | true => exact (Labels.new_eq_ok_iff.mp (checked reads)).2
    | false => exact usable_of_labels? made reads
  · cases reads : way'.isRead with
    | true => exact (RestoreSlots.new_eq_ok_iff.mp (checked reads)).2
    | false => exact usable_of_slots? made' reads

theorem usable_iff_new_plain :
    Labels.Shows ⟨"Ring", "Ring: \x7btitle\x7d", "?"⟩ ∧ RestoreSlots.Usable ⟨3⟩ := by
  have made : (read "[\"Ring\",\"Ring: \x7btitle\x7d\",\"?\"]").labels? =
      some ⟨"Ring", "Ring: \x7btitle\x7d", "?"⟩ := by decide +kernel
  have made' : (read "3").slots? = some ⟨3⟩ := by decide +kernel
  obtain ⟨labels, shows, slots, -⟩ := usable_iff_new made made'
  exact ⟨shows.mp (labels.mpr fun _ => by rfl), slots.mpr fun _ => by rfl⟩

/-- Blank labels are read, and a label without a place, which shows no title; and so is a count
of no slots. -/
theorem unusable_when_read :
    (read "[\" \",\"x\",\"\"]").labels? = some ⟨" ", "x", ""⟩ ∧
      ¬Labels.Usable ⟨" ", "x", ""⟩ ∧ Labels.withActual ⟨" ", "x", ""⟩ "Bell" = "x" ∧
      (read "0").slots? = some ⟨0⟩ ∧ ¬RestoreSlots.Usable ⟨0⟩ := by
  refine ⟨by decide +kernel, fun usable => ?_, by decide +kernel, by decide +kernel,
    fun usable => absurd usable.1 (by decide)⟩
  obtain ⟨c, member, -⟩ := usable.unknown
  exact List.not_mem_nil member

end Making
end AlertSound
