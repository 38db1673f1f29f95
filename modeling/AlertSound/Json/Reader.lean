import AlertSound.Json.Number

/-!
Reading typed values from JSON, left to right. A reader says what it expects and
stops at the first place where the text does not go on that way, so that of two
faults the earlier one decides the failure. Records are read from objects, where
unknown members are skipped, or from arrays of all their fields.
-/
namespace AlertSound.Json

abbrev Reader (α : Type) := List Char → Except Failure (α × List Char)

def isBlank (c : Char) : Bool := c == ' ' || c == '\n' || c == '\t' || c == '\r'

def skipBlanks (cs : List Char) : List Char := cs.dropWhile isBlank

/-- The rest of one of the words `null`, `true` and `false`. -/
def readWord : List Char → List Char → Except Failure (List Char)
  | [], cs => .ok cs
  | _ :: _, [] => .error .truncated
  | w :: word, c :: cs => if w = c then readWord word cs else .error .malformed

/-- The failure of a value of another kind than the one asked for: it is unfit if
it is a value at all. -/
def otherKind (cs : List Char) : Failure :=
  let failureOf {α : Type} : Except Failure α → Failure
    | .ok _ => .unfit
    | .error e => e
  match cs with
  | 'n' :: rest => failureOf (readWord "ull".toList rest)
  | 't' :: rest => failureOf (readWord "rue".toList rest)
  | 'f' :: rest => failureOf (readWord "alse".toList rest)
  | '"' :: rest => failureOf (readContent rest)
  | '[' :: _ | '\x7b' :: _ => .unfit
  | c :: _ => if c == '-' || isDigit c then failureOf (readNumber cs) else .malformed
  | [] => .malformed

/-- A value whose first character, after blanks, decides how it is read. -/
def start {α : Type} (read : Reader α) : Reader α := fun cs =>
  match skipBlanks cs with
  | [] => .error .truncated
  | cs => read cs

def string : Reader String := start fun cs =>
  match cs with
  | '"' :: rest => readContent rest
  | cs => .error (otherKind cs)

/-- A whole number from 0 to `limit`. -/
def natUpTo (limit : Nat) : Reader Nat := start fun cs =>
  match cs with
  | c :: _ =>
    if c == '-' || isDigit c then
      match readNumber cs with
      | .error e => .error e
      | .ok (.whole value, rest) =>
        if 0 ≤ value && value ≤ limit then .ok (value.toNat, rest) else .error .unfit
      | .ok (.inexact, _) => .error .unfit
    else .error (otherKind cs)
  | [] => .error .truncated

def uint8 : Reader UInt8 := fun cs =>
  (natUpTo (UInt8.size - 1) cs).map fun (n, rest) => (UInt8.ofNat n, rest)

def uint64 : Reader UInt64 := fun cs =>
  (natUpTo (UInt64.size - 1) cs).map fun (n, rest) => (UInt64.ofNat n, rest)

def null : Reader Unit := start fun cs =>
  match cs with
  | 'n' :: rest => (readWord "ull".toList rest).map ((), ·)
  | cs => .error (otherKind cs)

def optional {α : Type} (read : Reader α) : Reader (Option α) := fun cs =>
  match skipBlanks cs with
  | 'n' :: rest => (readWord "ull".toList rest).map (none, ·)
  | cs => (read cs).map fun (value, rest) => (some value, rest)

def colon (cs : List Char) : Except Failure (List Char) :=
  match skipBlanks cs with
  | ':' :: rest => .ok rest
  | [] => .error .truncated
  | _ => .error .malformed

/-- A key; keys are texts whatever is expected. -/
def key : Reader String := start fun cs =>
  match cs with
  | '"' :: rest => readContent rest
  | _ => .error .malformed

/-- What comes next inside an object: a key or the closing brace. -/
inductive Member where
  | key (name : String) (rest : List Char)
  | done (rest : List Char)

def member (first : Bool) (cs : List Char) : Except Failure Member := do
  let named (cs : List Char) : Except Failure Member :=
    (key cs).map fun (name, rest) => .key name rest
  match skipBlanks cs with
  | [] => .error .truncated
  | '\x7d' :: rest => .ok (.done rest)
  | ',' :: rest => if first then .error .malformed else named rest
  | cs => if first then named cs else .error .malformed

/-- Whether an array goes on with another element. -/
def element (first : Bool) (cs : List Char) : Except Failure (Option (List Char)) :=
  match skipBlanks cs with
  | [] => .error .truncated
  | ']' :: _ => .ok none
  | ',' :: rest =>
    if first then .ok (some (',' :: rest))
    else match skipBlanks rest with
      | [] => .error .truncated
      | ']' :: _ => .error .malformed
      | rest => .ok (some rest)
  | cs => if first then .ok (some cs) else .error .malformed

def closeArray (cs : List Char) : Except Failure (List Char) :=
  match skipBlanks cs with
  | [] => .error .truncated
  | ']' :: rest => .ok rest
  | _ => .error .malformed

/-- What a skipped value is inside of. -/
inductive Bracket where
  | object
  | array
  deriving DecidableEq

mutual

/-- What follows a value nobody asks for; `around` are the brackets it is inside of. The
number bounds the steps; twice the text's length is enough. -/
def skipValue : Nat → List Bracket → List Char → Except Failure (List Char)
  | 0, _, _ => .error .truncated
  | fuel + 1, around, cs => do
    match skipBlanks cs with
    | [] => .error .truncated
    | 'n' :: rest => skipOn fuel around (← readWord "ull".toList rest)
    | 't' :: rest => skipOn fuel around (← readWord "rue".toList rest)
    | 'f' :: rest => skipOn fuel around (← readWord "alse".toList rest)
    | '"' :: rest => skipOn fuel around (← skipContent (rest.length + 1) rest)
    | '[' :: rest =>
      match skipBlanks rest with
      | ']' :: rest => skipOn fuel around rest
      | [] => .error .truncated
      | rest => skipValue fuel (.array :: around) rest
    | '\x7b' :: rest =>
      match skipBlanks rest with
      | '\x7d' :: rest => skipOn fuel around rest
      | [] => .error .truncated
      | rest => skipMember fuel (.object :: around) rest
    | c :: rest =>
      if c == '-' || isDigit c then skipOn fuel around (← skipNumber (c :: rest))
      else .error .malformed

/-- What follows the brackets after one of the values inside them. -/
def skipOn : Nat → List Bracket → List Char → Except Failure (List Char)
  | 0, _, _ => .error .truncated
  | _, [], cs => .ok cs
  | fuel + 1, .array :: around, cs =>
    match skipBlanks cs with
    | [] => .error .truncated
    | ',' :: rest => skipValue fuel (.array :: around) rest
    | ']' :: rest => skipOn fuel around rest
    | _ => .error .malformed
  | fuel + 1, .object :: around, cs =>
    match skipBlanks cs with
    | [] => .error .truncated
    | ',' :: rest => skipMember fuel (.object :: around) rest
    | '\x7d' :: rest => skipOn fuel around rest
    | _ => .error .malformed

def skipMember : Nat → List Bracket → List Char → Except Failure (List Char)
  | 0, _, _ => .error .truncated
  | fuel + 1, around, cs => do
    match skipBlanks cs with
    | [] => .error .truncated
    | '"' :: rest => skipValue fuel around (← colon (← skipContent (rest.length + 1) rest))
    | _ => .error .malformed

end

def skip (cs : List Char) : Except Failure (List Char) := skipValue (2 * cs.length + 2) [] cs

/-- A record under construction: the fields read so far change `ρ`. -/
structure Field (ρ : Type) where
  name : String
  isSet : ρ → Bool
  read : ρ → Reader ρ

/-- The members of an object up to its closing brace. -/
def members {ρ : Type} (fields : List (Field ρ)) :
    Nat → Bool → ρ → List Char → Except Failure (ρ × List Char)
  | 0, _, _, _ => .error .truncated
  | fuel + 1, first, record, cs => do
    match ← member first cs with
    | .done rest => .ok (record, rest)
    | .key name rest =>
      match fields.find? (·.name == name) with
      | none => members fields fuel false record (← skip (← colon rest))
      | some field =>
        if field.isSet record then .error .unfit
        else
          let (record, rest) ← field.read record (← colon rest)
          members fields fuel false record rest

def elements {ρ : Type} :
    List (Field ρ) → Bool → ρ → List Char → Except Failure (ρ × List Char)
  | [], _, record, cs => .ok (record, cs)
  | field :: fields, first, record, cs => do
    match ← element first cs with
    | none => .error .unfit
    | some cs =>
      let (record, rest) ← field.read record cs
      elements fields false record rest

/-- `finish` gives the value of the fields read, if none is missing. -/
def record {ρ α : Type} (fields : List (Field ρ)) (empty : ρ) (finish : ρ → Option α) :
    Reader α := start fun cs => do
  let complete (record : ρ) : Except Failure α :=
    match finish record with
    | some value => .ok value
    | none => .error .unfit
  match cs with
  | '\x7b' :: rest =>
    let (record, rest) ← members fields (rest.length + 1) true empty rest
    return (← complete record, rest)
  | '[' :: rest =>
    let (record, rest) ← elements fields true empty rest
    let value ← complete record
    return (value, ← closeArray rest)
  | cs => .error (otherKind cs)

/-- One of a list of named alternatives. Those without a payload are written as
their name alone or as an object with `null`. -/
structure Alternative (α : Type) where
  name : String
  plain? : Option α
  payload : Reader α

def alternative {α : Type} (alternatives : List (Alternative α)) : Reader α := start fun cs => do
  let named (name : String) : Except Failure (Alternative α) :=
    match alternatives.find? (·.name == name) with
    | some found => .ok found
    | none => .error .unfit
  match cs with
  | '"' :: rest =>
    let (name, rest) ← readContent rest
    match (← named name).plain? with
    | some value => return (value, rest)
    | none => .error .unfit
  | '\x7b' :: rest =>
    let (name, rest) ← key rest
    let found ← named name
    let (value, rest) ← found.payload (← colon rest)
    match skipBlanks rest with
    | '\x7d' :: rest => return (value, rest)
    | [] => .error .truncated
    | _ => .error .malformed
  | _ => .error .malformed

def unitAlternative {α : Type} (name : String) (value : α) : Alternative α :=
  { name, plain? := some value, payload := fun cs => (null cs).map fun (_, rest) => (value, rest) }

/-- The value that is the whole text. -/
def whole {α : Type} (read : Reader α) (s : String) : Except Failure α := do
  let (value, rest) ← read s.toList
  if (skipBlanks rest).isEmpty then .ok value else .error .malformed

end AlertSound.Json
