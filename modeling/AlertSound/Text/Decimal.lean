/-!
Decimal integers as settings, locators and options spell them: an optional sign
and at least one ASCII digit. Leading zeros are allowed; blanks, separators and
other bases are not. Fractions are only told from other texts.
-/
namespace AlertSound.Text

/-- At least one digit and nothing else. -/
def digits? (cs : List Char) : Option Nat :=
  if cs.isEmpty || !cs.all Char.isDigit then none
  else some (cs.foldl (fun n c => 10 * n + (c.toNat - '0'.toNat)) 0)

def int? : List Char → Option Int
  | '-' :: cs => (digits? cs).map fun n => -(n : Int)
  | '+' :: cs => (digits? cs).map fun n => (n : Int)
  | cs => (digits? cs).map fun n => (n : Int)

/-- A sign, if any, has to be `+`: the text `-0` is refused. -/
def nat? : List Char → Option Nat
  | '+' :: cs => digits? cs
  | cs => digits? cs

def intBetween? (lo hi : Int) (s : String) : Option Int :=
  (int? s.toList).filter fun n => lo ≤ n && n ≤ hi

def natUpTo? (hi : Nat) (s : String) : Option Nat :=
  (nat? s.toList).filter (· ≤ hi)

def int64? (s : String) : Option Int64 :=
  (intBetween? Int64.minValue.toInt Int64.maxValue.toInt s).map Int64.ofInt

def uint8? (s : String) : Option UInt8 :=
  (natUpTo? (UInt8.size - 1) s).map UInt8.ofNat

def uint64? (s : String) : Option UInt64 :=
  (natUpTo? (UInt64.size - 1) s).map UInt64.ofNat

def withoutSign : List Char → List Char
  | '+' :: cs | '-' :: cs => cs
  | cs => cs

/-- The end of a fraction: nothing, or an exponent with at least one digit. -/
def isExponent : List Char → Bool
  | [] => true
  | e :: cs => (e == 'e' || e == 'E') && (digits? (withoutSign cs)).isSome

/-- A number with an optional point, digits on at least one side of it, or one of the
words for what is not a finite number. -/
def isFraction (s : String) : Bool :=
  let cs := withoutSign s.toList
  let (whole, rest) := cs.span Char.isDigit
  let (places, rest) := match rest with
    | '.' :: rest => rest.span Char.isDigit
    | _ => ([], rest)
  ["inf", "infinity", "nan"].contains (String.ofList (cs.map Char.toLower)) ||
    (!(whole.isEmpty && places.isEmpty) && isExponent rest)

end AlertSound.Text
