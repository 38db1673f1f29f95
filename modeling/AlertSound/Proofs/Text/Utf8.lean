import AlertSound.Text.Utf8

/-!
Text is read back from its bytes. A character is written as a lead byte, which tells how
many tail bytes follow it, and tail bytes of six bits each; decoding finds that piece at
the front and takes no more than it.
-/
namespace AlertSound.Text

/-- A tail byte for the last six bits of a number. -/
def tailByte (n : Nat) : UInt8 := UInt8.ofNat (n % 0x40 + 0x80)

@[simp] theorem toNat_tailByte (n : Nat) : (tailByte n).toNat = n % 0x40 + 0x80 := by
  simp only [tailByte, UInt8.toNat_ofNat']
  omega

@[simp] theorem isTail_tailByte (n : Nat) : isTail (tailByte n) = true := by
  simp only [isTail, UInt8.le_iff_toNat_le, toNat_tailByte, Bool.and_eq_true, decide_eq_true_eq]
  exact ⟨by simp, by simp; omega⟩

/-- A lead byte, a second byte it allows and the tail bytes after that are one character. -/
theorem firstPiece_eq {b lo hi : UInt8} {following n : Nat} {ns : List Nat} (bs : List UInt8)
    (large : 0x80 ≤ b) (leads : lead b = some (lo, hi, following)) (low : lo ≤ tailByte n)
    (high : tailByte n ≤ hi) (length : following = ns.length + 1) :
    firstPiece b ((n :: ns).map tailByte ++ bs) =
      (.char (Char.ofNat
        ((n :: ns).foldl (fun code n => code * 64 + n % 64) (leadBits b following))),
        following) := by
  have tails : tailsUpTo ns.length (ns.map tailByte ++ bs) = ns.map tailByte := by
    clear length
    induction ns with
    | nil => cases bs <;> rfl
    | cons n ns ih => simp [tailsUpTo, ih]
  have bits (n : Nat) : (n + 128) % 64 = n % 64 := by omega
  have large : ¬b < 0x80 := UInt8.not_lt.mpr large
  subst length
  simp [firstPiece, large, leads, low, high, tails, bits, List.foldl_map]

theorem lead_eq (b : UInt8) : lead b =
    if 0xc2 ≤ b.toNat ∧ b.toNat ≤ 0xdf then some (0x80, 0xbf, 1)
    else if b.toNat = 0xe0 then some (0xa0, 0xbf, 2)
    else if b.toNat = 0xed then some (0x80, 0x9f, 2)
    else if 0xe1 ≤ b.toNat ∧ b.toNat ≤ 0xef then some (0x80, 0xbf, 2)
    else if b.toNat = 0xf0 then some (0x90, 0xbf, 3)
    else if 0xf1 ≤ b.toNat ∧ b.toNat ≤ 0xf3 then some (0x80, 0xbf, 3)
    else if b.toNat = 0xf4 then some (0x80, 0x8f, 3)
    else none := by
  simp [lead, UInt8.le_iff_toNat_le, ← UInt8.toNat_inj]

/-- What follows the lead byte `n` holds the rest of the character's bits. -/
theorem firstPiece_of_lead {c : Char} {n m : Nat} {ns : List Nat} (bs : List UInt8)
    (large : 0xc2 ≤ n) (small : n < 256)
    (leads : ∃ lo hi, lead (UInt8.ofNat n) = some (lo, hi, ns.length + 1) ∧
      lo.toNat ≤ m % 0x40 + 0x80 ∧ m % 0x40 + 0x80 ≤ hi.toNat)
    (code : (m :: ns).foldl (fun code n => code * 64 + n % 64)
      (leadBits (UInt8.ofNat n) (ns.length + 1)) = c.toNat) :
    firstPiece (UInt8.ofNat n) ((m :: ns).map tailByte ++ bs) =
      (.char c, ((m :: ns).map tailByte).length) := by
  obtain ⟨lo, hi, leads, low, high⟩ := leads
  have large : 0x80 ≤ UInt8.ofNat n := by
    rw [UInt8.le_iff_toNat_le, UInt8.toNat_ofNat_of_lt' small]
    exact Nat.le_trans (by decide) large
  rw [firstPiece_eq bs large leads (by simpa [UInt8.le_iff_toNat_le] using low)
    (by simpa [UInt8.le_iff_toNat_le] using high) rfl, code, Char.ofNat_toNat]
  simp

theorem leads_two {n m : Nat} (large : 0xc2 ≤ n) (small : n ≤ 0xdf) :
    ∃ lo hi, lead (UInt8.ofNat n) = some (lo, hi, 1) ∧
      lo.toNat ≤ m % 0x40 + 0x80 ∧ m % 0x40 + 0x80 ≤ hi.toNat := by
  rw [lead_eq, UInt8.toNat_ofNat_of_lt' (show n < 256 by omega), if_pos (by omega)]
  exact ⟨_, _, rfl, by simp, by simp; omega⟩

/-- The first and the last lead of three bytes do not allow every tail byte. -/
theorem leads_three {n m : Nat} (large : 0xe0 ≤ n) (small : n ≤ 0xef)
    (first : n = 0xe0 → 0x20 ≤ m % 0x40) (surrogate : n = 0xed → m % 0x40 ≤ 0x1f) :
    ∃ lo hi, lead (UInt8.ofNat n) = some (lo, hi, 2) ∧
      lo.toNat ≤ m % 0x40 + 0x80 ∧ m % 0x40 + 0x80 ≤ hi.toNat := by
  rw [lead_eq, UInt8.toNat_ofNat_of_lt' (show n < 256 by omega), if_neg (by omega)]
  split
  · rename_i here
    exact ⟨_, _, rfl, by simp; have := first here; omega, by simp; omega⟩
  · split
    · rename_i here
      exact ⟨_, _, rfl, by simp, by simp; have := surrogate here; omega⟩
    · rw [if_pos (by omega)]
      exact ⟨_, _, rfl, by simp, by simp; omega⟩

theorem leads_four {n m : Nat} (large : 0xf0 ≤ n) (small : n ≤ 0xf4)
    (first : n = 0xf0 → 0x10 ≤ m % 0x40) (last : n = 0xf4 → m % 0x40 ≤ 0x0f) :
    ∃ lo hi, lead (UInt8.ofNat n) = some (lo, hi, 3) ∧
      lo.toNat ≤ m % 0x40 + 0x80 ∧ m % 0x40 + 0x80 ≤ hi.toNat := by
  rw [lead_eq, UInt8.toNat_ofNat_of_lt' (show n < 256 by omega), if_neg (by omega),
    if_neg (by omega), if_neg (by omega), if_neg (by omega)]
  split
  · rename_i here
    exact ⟨_, _, rfl, by simp; have := first here; omega, by simp; omega⟩
  · split
    · exact ⟨_, _, rfl, by simp, by simp; omega⟩
    · rw [if_pos (by omega)]
      exact ⟨_, _, rfl, by simp, by simp; have := last (by omega); omega⟩

/-- Decoding takes one character from the front of what it is written as. -/
theorem firstPiece_encode (c : Char) (bs : List UInt8) :
    ∃ b rest, String.utf8EncodeChar c = b :: rest ∧
      firstPiece b (rest ++ bs) = (.char c, rest.length) := by
  have valid : c.toNat < 0xd800 ∨ 0xdfff < c.toNat ∧ c.toNat < 0x110000 := c.valid
  have number : c.val.toNat = c.toNat := rfl
  have told (n : Nat) (h : n < 256) : (UInt8.ofNat n).toNat = n := UInt8.toNat_ofNat_of_lt' h
  unfold String.utf8EncodeChar
  simp only [number]
  split
  · rename_i one
    have told := told c.toNat (by omega)
    have small : UInt8.ofNat c.toNat < 0x80 := by
      rw [UInt8.lt_iff_toNat_lt, told]
      exact Nat.lt_succ_of_le one
    exact ⟨_, [], rfl, by simp [firstPiece, small, told]⟩
  · split
    · refine ⟨_, [c.toNat].map tailByte, rfl,
        firstPiece_of_lead bs (by omega) (by omega) (leads_two (by omega) (by omega)) ?_⟩
      simp only [List.foldl_cons, List.foldl_nil, List.length_nil, leadBits]
      rw [told _ (by omega)]
      omega
    · split
      · refine ⟨_, [c.toNat / 64, c.toNat].map tailByte, rfl,
          firstPiece_of_lead bs (by omega) (by omega)
            (leads_three (by omega) (by omega) (by omega) (by omega)) ?_⟩
        simp only [List.foldl_cons, List.foldl_nil, List.length_cons, List.length_nil, leadBits]
        rw [told _ (by omega)]
        omega
      · refine ⟨_, [c.toNat / 4096, c.toNat / 64, c.toNat].map tailByte, rfl,
          firstPiece_of_lead bs (by omega) (by omega)
            (leads_four (by omega) (by omega) (by omega) (by omega)) ?_⟩
        simp only [List.foldl_cons, List.foldl_nil, List.length_cons, List.length_nil, leadBits]
        rw [told _ (by omega)]
        omega

theorem utf8Pieces_utf8 (cs : List Char) : utf8Pieces (utf8 cs) = cs.map .char := by
  induction cs with
  | nil => simp [utf8, utf8Pieces]
  | cons c cs ih =>
      obtain ⟨b, rest, encoded, first⟩ := firstPiece_encode c (utf8 cs)
      have whole : utf8 (c :: cs) = b :: (rest ++ utf8 cs) := by
        simp [utf8, encoded]
      rw [whole, utf8Pieces, first]
      simp [ih]

/-- Text that is written as bytes is read back from them. -/
theorem ofUtf8?_utf8 (cs : List Char) : ofUtf8? (utf8 cs) = some cs := by
  rw [ofUtf8?, utf8Pieces_utf8]
  induction cs with
  | nil => rfl
  | cons c cs ih => simp [ih]

theorem ofUtf8Lossy_utf8 (cs : List Char) : ofUtf8Lossy (utf8 cs) = cs := by
  rw [ofUtf8Lossy, utf8Pieces_utf8, List.map_map]
  exact List.map_id cs

def IsUtf8 (bytes : List UInt8) : Prop := ∃ cs, utf8 cs = bytes

/-- Nothing is replaced in bytes that are UTF-8, and in no others. -/
theorem utf8_ofUtf8Lossy_eq_iff {bytes : List UInt8} :
    utf8 (ofUtf8Lossy bytes) = bytes ↔ IsUtf8 bytes := by
  constructor
  · intro same
    exact ⟨_, same⟩
  · intro given
    obtain ⟨cs, rfl⟩ := given
    rw [ofUtf8Lossy_utf8]

end AlertSound.Text

namespace AlertSound.SystemText

@[simp] theorem text?_ofText (s : String) : (ofText s).text? = some s := by
  simp [text?, ofText, Text.ofUtf8?_utf8]

@[simp] theorem read?_ofText {α : Type} (read : String → Option α) (s : String) :
    (ofText s).read? read = read s := by
  simp [read?]

end AlertSound.SystemText
