import AlertSound.Command.Options
import AlertSound.Proofs.Config.Checks
import AlertSound.Proofs.Text.Decimal
import Mathlib.Tactic.ByContra

/-!
How a switch and a count are spelled. A setting is read without the blanks around it, an option
as it stands. A text without blanks around it is read alike by both, but that an option also
knows the initials of words, and a zero with a minus. With blanks around it, no text is read by
an option.
-/
namespace AlertSound

namespace Text

def lower (s : String) : String := String.ofList (s.toList.map Char.toLower)

theorem toLower_of_isBlank {c : Char} (blank : isBlank c = true) : c.toLower = c := by
  have small : ¬(c.val ≥ 'A'.val ∧ c.val ≤ 'Z'.val) := by
    intro capital
    have range : 65 ≤ c.toNat ∧ c.toNat ≤ 90 := by
      simpa [UInt32.le_iff_toNat_le] using capital
    simp only [isBlank, Bool.or_eq_true, Bool.and_eq_true, decide_eq_true_eq, beq_iff_eq] at blank
    omega
  exact dif_neg small

/-- Lowering a text takes no blank away. -/
theorem trim_of_solid_lower {s : String} (h : ∀ c ∈ (lower s).toList, isBlank c = false) :
    trim s = s := by
  refine trim_of_solid fun c hc => ?_
  by_contra blank
  rw [Bool.not_eq_false] at blank
  have kept : c ∈ (lower s).toList := by
    rw [lower, String.toList_ofList]
    exact toLower_of_isBlank blank ▸ List.mem_map_of_mem hc
  exact absurd (h c kept) (by simp [blank])

variable {cs : List Char}

theorem isDigit_of_digits? {n : Nat} (h : digits? cs = some n) : ∀ c ∈ cs, c.isDigit = true := by
  unfold digits? at h
  split at h
  · cases h
  · rename_i some
    simp only [Bool.or_eq_true, not_or, Bool.not_eq_true', Bool.not_eq_false] at some
    exact List.all_eq_true.mp some.2

theorem nat?_eq_some_iff {n : Nat} : nat? cs = some n ↔
    ∃ ds, digits? ds = some n ∧ (cs = ds ∨ cs = '+' :: ds) := by
  constructor
  · intro h
    unfold nat? at h
    split at h
    · exact ⟨_, h, .inr rfl⟩
    · exact ⟨_, h, .inl rfl⟩
  · rintro ⟨ds, read, rfl | rfl⟩
    · unfold nat?
      split
      · exact absurd (isDigit_of_digits? read '+' List.mem_cons_self) (by decide)
      · exact read
    · exact read

theorem int?_eq_some_iff {n : Int} : int? cs = some n ↔ ∃ ds m, digits? ds = some m ∧
    (n = m ∧ (cs = ds ∨ cs = '+' :: ds) ∨ n = -(m : Int) ∧ cs = '-' :: ds) := by
  constructor
  · intro h
    unfold int? at h
    split at h
    · rename_i ds
      cases read : digits? ds with
      | none => simp [read] at h
      | some m => exact ⟨ds, m, read, .inr ⟨by simpa [read] using h.symm, rfl⟩⟩
    · rename_i ds
      cases read : digits? ds with
      | none => simp [read] at h
      | some m => exact ⟨ds, m, read, .inl ⟨by simpa [read] using h.symm, .inr rfl⟩⟩
    · cases read : digits? cs with
      | none => simp [read] at h
      | some m => exact ⟨cs, m, read, .inl ⟨by simpa [read] using h.symm, .inl rfl⟩⟩
  · rintro ⟨ds, m, read, ⟨rfl, rfl | rfl⟩ | ⟨rfl, rfl⟩⟩
    -- digits alone have no sign in front, so that the last branch reads them
    · unfold int?
      split
      · exact absurd (isDigit_of_digits? read '-' List.mem_cons_self) (by decide)
      · exact absurd (isDigit_of_digits? read '+' List.mem_cons_self) (by decide)
      · simp [read]
    · simp [int?, read]
    · simp [int?, read]

theorem solid_of_int? {n : Int} (h : int? cs = some n) : ∀ c ∈ cs, isBlank c = false := by
  obtain ⟨ds, m, read, form⟩ := int?_eq_some_iff.mp h
  have solid : ∀ c ∈ ds, isBlank c = false := fun c hc =>
    isBlank_of_isDigit (isDigit_of_digits? read c hc)
  obtain ⟨-, rfl | rfl⟩ | ⟨-, rfl⟩ := form
  · exact solid
  · exact List.forall_mem_cons.mpr ⟨by decide, solid⟩
  · exact List.forall_mem_cons.mpr ⟨by decide, solid⟩

/-- What is no negative number is read as a count too, unless it is a zero with a minus. -/
theorem int?_natCast_iff {n : Nat} : int? cs = some (n : Int) ↔
    nat? cs = some n ∨ n = 0 ∧ ∃ ds, digits? ds = some 0 ∧ cs = '-' :: ds := by
  rw [int?_eq_some_iff, nat?_eq_some_iff]
  constructor
  · rintro ⟨ds, m, read, ⟨same, form⟩ | ⟨same, form⟩⟩
    · cases Int.ofNat_inj.mp same
      exact .inl ⟨ds, read, form⟩
    · obtain ⟨rfl, rfl⟩ : n = 0 ∧ m = 0 := by omega
      exact .inr ⟨rfl, ds, read, form⟩
  · rintro (⟨ds, read, form⟩ | ⟨rfl, ds, read, form⟩)
    · exact ⟨ds, n, read, .inl ⟨rfl, form⟩⟩
    · exact ⟨ds, 0, read, .inr ⟨rfl, form⟩⟩

theorem uint8?_eq_some_iff {text : String} {count : UInt8} :
    uint8? text = some count ↔ nat? text.toList = some count.toNat := by
  simp only [uint8?, natUpTo?, Option.map_eq_some_iff, Option.filter_eq_some_iff, decide_eq_true_eq]
  constructor
  · rintro ⟨n, ⟨read, small⟩, rfl⟩
    rwa [UInt8.toNat_ofNat_of_lt' (Nat.lt_of_le_sub_one (by decide) small)]
  · exact fun read => ⟨count.toNat, ⟨read, Nat.le_sub_one_of_lt count.toNat_lt_size⟩,
      UInt8.ofNat_toNat⟩

end Text

namespace Config

/-- A word that is looked for in two lists that have no word in common is in the list of its
meaning. -/
theorem choice_eq_some_iff (lists : Bool → List String)
    (apart : ∀ w ∈ lists true, w ∉ lists false) {word : String} {b : Bool} :
    (if (lists true).contains word then some true
      else if (lists false).contains word then some false else none) = some b ↔ word ∈ lists b := by
  by_cases yes : word ∈ lists true
  · cases b with
    | true => simp [yes]
    | false => simp [yes, apart word yes]
  · cases b with
    | true => simp [yes]
    | false => simp [yes]

def words : Bool → List String
  | true => ["1", "true", "yes", "on"]
  | false => ["0", "false", "no", "off"]

theorem boolWord?_eq_some_iff {word : String} {b : Bool} :
    boolWord? word = some b ↔ word ∈ words b :=
  choice_eq_some_iff words (by decide)

/-- No word is changed by trimming. -/
theorem solid_words {word : String} {b : Bool} (h : word ∈ words b) :
    ∀ c ∈ word.toList, Text.isBlank c = false := by
  have all : ∀ b, ∀ word ∈ words b, word.toList.all (!Text.isBlank ·) = true := by decide
  simpa using all b word h

variable {env : Environment} {key raw : String}

theorem resolveBool_of_unset {default : Bool} (h : env.get? key = none) :
    resolveBool none key env default = .ok default := by
  simp only [resolveBool, h]

theorem resolveBool_eq_ok_iff {default b : Bool} (h : env.get? key = some raw) :
    resolveBool none key env default = .ok b ↔ Text.lower (Text.trim raw) ∈ words b := by
  rw [← boolWord?_eq_some_iff]
  simp only [resolveBool, h, Text.lower]
  split <;> simp_all

theorem resolveRestoreSlots_of_unset (h : env.get? restoreSlotsKey = none) :
    resolveRestoreSlots none env = .ok .ordinary := by
  simp only [resolveRestoreSlots, h]
  exact RestoreSlots.new_eq_ok_iff.mpr ⟨rfl, RestoreSlots.usable_ordinary⟩

theorem resolveRestoreSlots_eq_ok_iff {slots : RestoreSlots}
    (h : env.get? restoreSlotsKey = some raw) : resolveRestoreSlots none env = .ok slots ↔
      Text.uint8? (Text.trim raw) = some slots.count ∧ slots.Usable := by
  simp only [resolveRestoreSlots, h]
  split
  · rename_i count read
    rw [RestoreSlots.new_eq_ok_iff, read]
    refine and_congr_left fun _ => ⟨fun same => same ▸ rfl, fun same => ?_⟩
    rw [Option.some.inj same]
  · rename_i unread
    simp [unread]

end Config

namespace Command

def initials : Bool → List String
  | true => ["y", "t"]
  | false => ["n", "f"]

theorem solid_initials {word : String} {b : Bool} (h : word ∈ initials b) :
    ∀ c ∈ word.toList, Text.isBlank c = false := by
  have all : ∀ b, ∀ word ∈ initials b, word.toList.all (!Text.isBlank ·) = true := by decide
  simpa using all b word h

/-- No initial is a word. -/
theorem not_mem_words {word : String} {b : Bool} (h : word ∈ initials b) (b' : Bool) :
    word ∉ Config.words b' := by
  have apart : ∀ b b', ∀ word ∈ initials b, word ∉ Config.words b' := by decide
  exact apart b b' word h

/-- What an option for a switch takes. -/
def spellings : Bool → List String
  | true => ["y", "yes", "t", "true", "on", "1"]
  | false => ["n", "no", "f", "false", "off", "0"]

theorem mem_spellings_iff {word : String} {b : Bool} :
    word ∈ spellings b ↔ word ∈ Config.words b ∨ word ∈ initials b := by
  cases b <;> grind [spellings, Config.words, initials]

theorem bool?_eq_some_iff {text : String} {b : Bool} :
    bool? text = some b ↔ Text.lower text ∈ Config.words b ∨ Text.lower text ∈ initials b := by
  rw [← mem_spellings_iff]
  exact Config.choice_eq_some_iff spellings (by decide)

theorem byte?_eq_some_iff {text : String} {count : UInt8} :
    byte? text = some count ↔ Text.int? text.toList = some (count.toNat : Int) := by
  simp only [byte?, Text.intBetween?, Option.map_eq_some_iff, Option.filter_eq_some_iff,
    Bool.and_eq_true, decide_eq_true_eq]
  constructor
  · rintro ⟨n, ⟨read, positive, small⟩, rfl⟩
    have fits : n.toNat < UInt8.size := by
      have : UInt8.size = 256 := rfl
      omega
    rw [UInt8.toNat_ofNat_of_lt' fits, Int.toNat_of_nonneg positive]
    exact read
  · intro read
    have fits := count.toNat_lt_size
    exact ⟨count.toNat, ⟨read, by omega, by omega⟩, by simp⟩

/-- A switch is taken like a setting where nothing is to be trimmed, and otherwise by an initial. -/
theorem bool?_iff_trimmed {raw : String} {b : Bool} : bool? raw = some b ↔
    Text.trim raw = raw ∧ Text.lower (Text.trim raw) ∈ Config.words b ∨
      Text.lower raw ∈ initials b := by
  rw [bool?_eq_some_iff]
  refine or_congr_left ⟨fun word => ?_, fun ⟨bare, word⟩ => bare ▸ word⟩
  have bare : Text.trim raw = raw := Text.trim_of_solid_lower (Config.solid_words word)
  exact ⟨bare, bare.symm ▸ word⟩

/-- A usable count is taken like a setting where nothing is to be trimmed, and not otherwise. -/
theorem byte?_iff_trimmed {raw : String} {slots : RestoreSlots} :
    byte? raw = some slots.count ∧ slots.Usable ↔
      Text.trim raw = raw ∧ Text.uint8? (Text.trim raw) = some slots.count ∧ slots.Usable := by
  rw [byte?_eq_some_iff, Text.uint8?_eq_some_iff]
  constructor
  · rintro ⟨read, usable⟩
    have bare : Text.trim raw = raw := Text.trim_of_solid (Text.solid_of_int? read)
    refine ⟨bare, bare.symm ▸ ?_, usable⟩
    obtain unsigned | ⟨zero, -⟩ := Text.int?_natCast_iff.mp read
    · exact unsigned
    · exact absurd usable.1 (by omega)
  · rintro ⟨bare, unsigned, usable⟩
    exact ⟨Text.int?_natCast_iff.mpr (.inl (bare ▸ unsigned)), usable⟩

end Command
end AlertSound
