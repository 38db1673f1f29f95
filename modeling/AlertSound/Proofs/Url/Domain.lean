import AlertSound.Proofs.Url.Plain

/-!
Domains as they are written. Whatever text a domain stands for, its name holds ASCII
characters only and none that a host may not hold: a label beyond ASCII keeps the ASCII
characters that it holds, and what Punycode adds to them is plain.
-/
namespace AlertSound.Url

/-- A character that may stand in what is written for `source`. -/
def Spells (source : List Char) (c : Char) : Prop :=
  isPlain c = true ∨ c ∈ source ∧ c.toNat < 0x80

variable {source : List Char}

namespace Punycode

theorem plain_digit {value : Nat} (h : value < 36) : isPlain (digit value) = true := by
  have all : ∀ value ∈ List.range 36, isPlain (digit value) = true := by decide
  exact all value (List.mem_range.mpr h)

theorem threshold_le (place bias : Nat) : threshold place bias ≤ 26 := by
  unfold threshold
  split
  · omega
  · split <;> omega

theorem plain_digits (bias place n : Nat) : ∀ c ∈ digits bias place n, isPlain c = true := by
  have bounded (place : Nat) := threshold_le place bias
  fun_induction digits bias place n with
  | case1 place n least last =>
      exact List.forall_mem_singleton.mpr (plain_digit (by have := bounded place; omega))
  | case2 place n least more ih =>
      refine List.forall_mem_cons.mpr ⟨plain_digit ?_, ih⟩
      have below : (n - least) % (36 - least) < 36 - least :=
        Nat.mod_lt _ (by have := bounded place; omega)
      omega

theorem Writing.spells_pass {w : Writing} (h : ∀ c ∈ w.text, Spells source c)
    (ascii code : Nat) (d : Char) : ∀ c ∈ (w.pass ascii code d).text, Spells source c := by
  unfold pass
  split
  · exact h
  · split
    · exact List.forall_mem_append.mpr ⟨h, fun c mem => .inl (plain_digits _ _ _ c mem)⟩
    · exact h

theorem Writing.spells_passes {w : Writing} (h : ∀ c ∈ w.text, Spells source c)
    (ascii code : Nat) (cs : List Char) :
    ∀ c ∈ (cs.foldl (pass ascii code) w).text, Spells source c := by
  induction cs generalizing w with
  | nil => exact h
  | cons d cs ih => exact ih (Writing.spells_pass h ascii code d)

theorem spells_writeAll {w : Writing} (h : ∀ c ∈ w.text, Spells source c) (cs : List Char)
    (ascii next : Nat) (codes : List Nat) :
    ∀ c ∈ writeAll cs ascii next w codes, Spells source c := by
  induction codes generalizing next w with
  | nil => exact h
  | cons code codes ih =>
      refine ih ?_ _
      refine Writing.spells_passes ?_ ascii code cs
      exact h

theorem spells_encode (source : List Char) : ∀ c ∈ encode source, Spells source c := by
  unfold encode
  simp only [List.partition_eq_filter_filter]
  refine spells_writeAll (fun c mem => ?_) _ _ _ _
  split at mem
  · cases mem
  · rcases List.mem_append.mp mem with kept | hyphen
    · simp only [List.mem_filter, decide_eq_true_eq] at kept
      exact .inr kept
    · obtain rfl := List.mem_singleton.mp hyphen
      exact .inl rfl

example : encode "bücher".toList = "bcher-kva".toList := by decide +kernel

end Punycode

theorem spells_asciiLabel (label : List Char) : ∀ c ∈ asciiLabel label, Spells label c := by
  intro c mem
  unfold asciiLabel at mem
  split at mem
  · rename_i ascii
    exact .inr ⟨mem, by simpa using List.all_eq_true.mp ascii c mem⟩
  · rcases List.mem_append.mp mem with front | code
    · have plain : labelPrefix.all isPlain = true := by decide
      exact .inl (List.all_eq_true.mp plain c front)
    · exact Punycode.spells_encode label c code

def isDomainLetter (c : Char) : Bool := c.toNat < 0x80 && !isForbiddenInDomain c

theorem isDomainLetter_of_spells {c : Char} (h : Spells source c)
    (allowed : ∀ c ∈ source, isForbiddenInDomain c = false) : isDomainLetter c = true := by
  rcases h with plain | ⟨mem, ascii⟩
  · have range := plain_range plain
    have percent : c ≠ '%' := ne_of_plain plain rfl
    simp only [isDomainLetter, isForbiddenInDomain, isForbiddenInHost_of_plain plain, Bool.false_or,
      beq_false_of_ne percent, Bool.or_false, Bool.and_eq_true, decide_eq_true_eq,
      Bool.not_eq_true', Bool.or_eq_false_iff, decide_eq_false_iff_not, beq_eq_false_iff_ne]
    omega
  · simp [isDomainLetter, ascii, allowed c mem]

theorem forall_mem_intercalate {P : Char → Prop} {mark : List Char} {parts : List (List Char)}
    (marks : ∀ c ∈ mark, P c) (h : ∀ part ∈ parts, ∀ c ∈ part, P c) :
    ∀ c ∈ mark.intercalate parts, P c := by
  induction parts with
  | nil => nofun
  | cons part parts ih =>
      obtain ⟨first, later⟩ := List.forall_mem_cons.mp h
      cases parts with
      | nil => simpa using first
      | cons next parts =>
          rw [List.intercalate_cons_cons, List.append_assoc]
          exact List.forall_mem_append.mpr ⟨first, List.forall_mem_append.mpr ⟨marks, ih later⟩⟩

theorem internetHost_eq_name {cs : List Char} {text : String}
    (h : internetHost cs = .ok (.name text)) :
    ∃ folded, folded.any isForbiddenInDomain = false ∧
      text = String.ofList (['.'].intercalate ((splitAll (· == '.') folded).map asciiLabel)) := by
  unfold internetHost at h
  split at h
  · -- What stands in brackets is an address.
    rename_i given
    unfold bracketed? at given
    grind
  · grind

/-- The name of a host is written in letters that a domain may hold. -/
theorem isDomainLetter_of_internetHost {cs : List Char} {text : String}
    (h : internetHost cs = .ok (.name text)) : ∀ c ∈ text.toList, isDomainLetter c = true := by
  obtain ⟨folded, allowed, rfl⟩ := internetHost_eq_name h
  rw [String.toList_ofList]
  refine forall_mem_intercalate (List.forall_mem_singleton.mpr rfl) ?_
  intro written member c mem
  obtain ⟨label, part, rfl⟩ := List.mem_map.mp member
  refine isDomainLetter_of_spells (spells_asciiLabel label c mem) fun c inside => ?_
  simpa using List.any_eq_false.mp allowed c (mem_of_mem_splitAll part inside)

end AlertSound.Url
