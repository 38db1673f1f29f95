import AlertSound.Text.Utf8

/-!
Percent-encoding. A byte is written `%` and two upper-case hexadecimal digits;
reading also takes lower-case digits and leaves a `%` that starts no escape as
it stands.
-/
namespace AlertSound.Text

def hexDigit (n : Nat) (upper : Bool) : Char :=
  if n < 10 then Char.ofNat ('0'.toNat + n)
  else Char.ofNat ((if upper then 'A' else 'a').toNat + (n - 10))

def hexValue? (c : Char) : Option Nat :=
  if '0' ≤ c && c ≤ '9' then some (c.toNat - '0'.toNat)
  else if 'a' ≤ c && c ≤ 'f' then some (c.toNat - 'a'.toNat + 10)
  else if 'A' ≤ c && c ≤ 'F' then some (c.toNat - 'A'.toNat + 10)
  else none

def percentByte (b : UInt8) : List Char :=
  ['%', hexDigit (b.toNat / 16) true, hexDigit (b.toNat % 16) true]

/-- Escapes the non-ASCII characters, byte by byte, and the ASCII ones in `escaped`. -/
def percentEncode (escaped : Char → Bool) (cs : List Char) : List Char :=
  cs.flatMap fun c =>
    if c.toNat < 0x80 && !escaped c then [c]
    else (String.utf8EncodeChar c).flatMap percentByte

/-- The same on bytes, where those from 0x80 on are always escaped. -/
def percentEncodeBytes (escaped : Char → Bool) (bytes : List UInt8) : List Char :=
  bytes.flatMap fun b =>
    let c := Char.ofNat b.toNat
    if b < 0x80 && !escaped c then [c] else percentByte b

def percentDecode : List Char → List UInt8
  | [] => []
  | '%' :: h :: l :: rest =>
    match hexValue? h, hexValue? l with
    | some hi, some lo => UInt8.ofNat (16 * hi + lo) :: percentDecode rest
    | _, _ => String.utf8EncodeChar '%' ++ percentDecode (h :: l :: rest)
  | c :: rest => String.utf8EncodeChar c ++ percentDecode rest

end AlertSound.Text
