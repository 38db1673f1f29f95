/-!
UTF-8 between characters and bytes. Decoding cuts a byte sequence into
characters and invalid pieces; an invalid piece is the longest part that could
have begun a character. File names need this: they are bytes, and those that
are not UTF-8 are shown with replacement characters.
-/
namespace AlertSound.Text

def utf8 (cs : List Char) : List UInt8 := cs.flatMap String.utf8EncodeChar

inductive Utf8Piece where
  | char (c : Char)
  | invalid (bytes : List UInt8)

def isTail (b : UInt8) : Bool := 0x80 ≤ b && b ≤ 0xbf

/-- Which second bytes may follow a lead byte, and how many bytes follow it. -/
def lead (b : UInt8) : Option (UInt8 × UInt8 × Nat) :=
  if 0xc2 ≤ b && b ≤ 0xdf then some (0x80, 0xbf, 1)
  else if b == 0xe0 then some (0xa0, 0xbf, 2)
  else if b == 0xed then some (0x80, 0x9f, 2)
  else if 0xe1 ≤ b && b ≤ 0xef then some (0x80, 0xbf, 2)
  else if b == 0xf0 then some (0x90, 0xbf, 3)
  else if 0xf1 ≤ b && b ≤ 0xf3 then some (0x80, 0xbf, 3)
  else if b == 0xf4 then some (0x80, 0x8f, 3)
  else none

def leadBits (b : UInt8) (following : Nat) : Nat :=
  match following with
  | 1 => b.toNat % 0x20
  | 2 => b.toNat % 0x10
  | _ => b.toNat % 0x08

/-- The tail bytes at the front, at most `n` of them. -/
def tailsUpTo : Nat → List UInt8 → List UInt8
  | 0, _ | _, [] => []
  | n + 1, b :: bs => if isTail b then b :: tailsUpTo n bs else []

/-- The piece at the front and how many bytes it takes beyond the first. -/
def firstPiece (b : UInt8) (bs : List UInt8) : Utf8Piece × Nat :=
  if b < 0x80 then (.char (Char.ofNat b.toNat), 0)
  else match lead b, bs with
    | some (lo, hi, following), b2 :: rest =>
      if lo ≤ b2 && b2 ≤ hi then
        let tails := b2 :: tailsUpTo (following - 1) rest
        if tails.length == following then
          let code := tails.foldl (fun n t => n * 64 + t.toNat % 64) (leadBits b following)
          (.char (Char.ofNat code), following)
        else (.invalid (b :: tails), tails.length)
      else (.invalid [b], 0)
    | _, _ => (.invalid [b], 0)

def utf8Pieces : List UInt8 → List Utf8Piece
  | [] => []
  | b :: bs =>
    let (piece, extra) := firstPiece b bs
    piece :: utf8Pieces (bs.drop extra)
termination_by bytes => bytes.length
decreasing_by simp only [List.length_drop, List.length_cons]; omega

/-- The characters of a byte sequence that is UTF-8 throughout. -/
def ofUtf8? (bytes : List UInt8) : Option (List Char) :=
  (utf8Pieces bytes).mapM fun
    | .char c => some c
    | .invalid _ => none

/-- Each invalid piece becomes one U+FFFD. -/
def ofUtf8Lossy (bytes : List UInt8) : List Char :=
  (utf8Pieces bytes).map fun
    | .char c => c
    | .invalid _ => '\uFFFD'

end AlertSound.Text

namespace AlertSound

/-- A text as the system hands it over, which need not be UTF-8. -/
structure SystemText where
  bytes : List UInt8
  deriving DecidableEq

namespace SystemText

def ofText (s : String) : SystemText := ⟨Text.utf8 s.toList⟩

instance : Coe String SystemText := ⟨ofText⟩

instance : Coe (List String) (List SystemText) := ⟨List.map ofText⟩

/-- None if it is not UTF-8. -/
def text? (t : SystemText) : Option String := (Text.ofUtf8? t.bytes).map String.ofList

def read? {α : Type} (read : String → Option α) (t : SystemText) : Option α := t.text?.bind read

def shown (t : SystemText) : String := String.ofList (Text.ofUtf8Lossy t.bytes)

end SystemText
end AlertSound
