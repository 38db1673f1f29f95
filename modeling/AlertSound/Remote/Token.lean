import AlertSound.Text.Percent

/-!
The identity a session presents on every delegated call.
-/
namespace AlertSound

structure Token where
  raw : UInt64
  deriving DecidableEq

namespace Token

/-- Sixteen hexadecimal digits. -/
def text (token : Token) : String :=
  String.ofList ((List.range 16).map fun i =>
    Text.hexDigit (token.raw.toNat / Nat.pow 16 (15 - i) % 16) false)

/-- Enough tokens that `n + 1` of them are not reserved. -/
def candidates (reserved : List Token) (n : Nat) : List Token :=
  (List.range (reserved.length + n + 1)).map fun raw => ⟨UInt64.ofNat raw⟩

/-- The token for the session with this number: none that is reserved, and each once. -/
def ofSession (reserved : List Token) (n : Nat) : Token :=
  ((candidates reserved n).filter (!reserved.contains ·))[n]?.getD ⟨0⟩

end Token

end AlertSound
