import AlertSound.Json.Literal

/-!
JSON numbers. Whole numbers of 64 bits are exact; every other number is only
known to be one, for nothing here asks for fractions. A number is held as a
significand of 64 bits and a power of ten, and one whose product is no double
breaks the format.
-/
namespace AlertSound.Json

inductive Number where
  | whole (value : Int)
  | inexact
  deriving DecidableEq

def isDigit (c : Char) : Bool := c.isDigit

def digitValue (c : Char) : Nat := c.toNat - '0'.toNat

/-- A number as far as it has been read. -/
structure Scaled where
  significand : Nat
  exponent : Int

/-- The significand with one more digit, if it has room for it. -/
def Scaled.appended? (n : Scaled) (c : Char) : Option Nat :=
  let value := 10 * n.significand + digitValue c
  if value < UInt64.size then some value else none

/-- The digits before the point. From the first that the significand has no room for
they only count. -/
def wholeDigits (n : Scaled) : List Char → Scaled
  | [] => n
  | c :: cs =>
    match n.appended? c with
    | some significand => wholeDigits { n with significand } cs
    | none => { n with exponent := n.exponent + (c :: cs).length }

/-- The digits after the point, up to the first that the significand has no room for. -/
def fractionDigits (n : Scaled) : List Char → Scaled
  | [] => n
  | c :: cs =>
    match n.appended? c with
    | some significand => fractionDigits { significand, exponent := n.exponent - 1 } cs
    | none => n

/-- The nearest number of 53 binary digits, of two the one with an even last digit. -/
def roundToDouble (n : Nat) : Nat :=
  let unit := Nat.pow 2 (n.log2 - 52)
  let (count, rest) := (n / unit, n % unit)
  if 2 * rest < unit || (2 * rest == unit && count % 2 == 0) then count * unit
  else (count + 1) * unit

/-- The first power of two that no double reaches. -/
def doubleBound : Nat := Nat.pow 2 1024

def greatestPower : Nat := 308

/-- Significand and power of ten are rounded before they are multiplied, so that the
bound can be missed by a little. -/
def Scaled.exceedsDouble (n : Scaled) : Bool :=
  if n.significand = 0 || n.exponent < 0 then false
  else if (greatestPower : Int) < n.exponent then true
  else
    let power := roundToDouble (Nat.pow 10 n.exponent.toNat)
    doubleBound ≤ roundToDouble (roundToDouble n.significand * power)

/-- The exponent at the front, after the `e`. -/
def readExponent (cs : List Char) : Except Failure (Int × List Char) :=
  let (negative, cs) := match cs with
    | '-' :: rest => (true, rest)
    | '+' :: rest => (false, rest)
    | _ => (false, cs)
  match cs.span isDigit with
  | ([], []) => .error .truncated
  | ([], _) => .error .malformed
  | (digits, rest) =>
    let value : Int := digits.foldl (fun n c => 10 * n + digitValue c) 0
    .ok (if negative then -value else value, rest)

def inexact (n : Scaled) : Except Failure Number :=
  if n.exceedsDouble then .error .malformed else .ok .inexact

def readFraction (whole : Scaled) (cs : List Char) : Except Failure (Number × List Char) := do
  let (n, cs) ← match cs with
    | '.' :: rest =>
      match rest.span isDigit with
      | ([], []) => .error .truncated
      | ([], _) => .error .malformed
      | (digits, rest) => .ok (fractionDigits whole digits, rest)
    | _ => .ok (whole, cs)
  let (exponent, cs) ← match cs with
    | 'e' :: rest | 'E' :: rest => readExponent rest
    | _ => .ok (0, cs)
  return (← inexact { n with exponent := n.exponent + exponent }, cs)

/-- A number without its sign. -/
def readUnsigned (negative : Bool) (cs : List Char) : Except Failure (Number × List Char) :=
  match cs.span isDigit with
  | ([], []) => .error .truncated
  | ([], _) => .error .malformed
  | ('0' :: _ :: _, _) => .error .malformed
  | (digits, rest) =>
    let n := wholeDigits ⟨0, 0⟩ digits
    match rest with
    | '.' :: _ | 'e' :: _ | 'E' :: _ => readFraction n rest
    | _ =>
      if n.exponent != 0 then (inexact n).map (·, rest)
      else if !negative then .ok (.whole n.significand, rest)
      else if n.significand = 0 || 0x8000000000000000 < n.significand then .ok (.inexact, rest)
      else .ok (.whole (-(n.significand : Int)), rest)

def readNumber (cs : List Char) : Except Failure (Number × List Char) :=
  match cs with
  | '-' :: rest => readUnsigned true rest
  | _ => readUnsigned false cs

/-- What follows a number; its size does not matter. -/
def skipNumber (cs : List Char) : Except Failure (List Char) := do
  let digits (cs : List Char) : Except Failure (List Char) :=
    match cs.span isDigit with
    | ([], _) => .error .malformed
    | (_, rest) => .ok rest
  let unsigned := match cs with
    | '-' :: rest => rest
    | _ => cs
  let rest ← match unsigned.span isDigit with
    | ([], _) | ('0' :: _ :: _, _) => .error .malformed
    | (_, rest) => .ok rest
  let rest ← match rest with
    | '.' :: rest => digits rest
    | _ => .ok rest
  match rest with
  | 'e' :: '+' :: rest | 'e' :: '-' :: rest | 'E' :: '+' :: rest | 'E' :: '-' :: rest
  | 'e' :: rest | 'E' :: rest => digits rest
  | _ => .ok rest

end AlertSound.Json
