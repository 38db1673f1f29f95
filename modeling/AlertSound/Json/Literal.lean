import AlertSound.Text.Percent

/-!
JSON string literals. Writing escapes quotes, backslashes and controls and
nothing else. Reading takes every escape of the format; a code unit of a
surrogate pair has to come with its partner.
-/
namespace AlertSound.Json

/-- Why a text was refused: it breaks the format, it ends too early, or what it
says does not fit what is asked for. The first of these from the left counts. -/
inductive Failure where
  | malformed
  | truncated
  | unfit
  deriving DecidableEq

def Failure.message : Failure → String
  | .malformed => "malformed text"
  | .truncated => "the text ends too early"
  | .unfit => "unexpected value"

/-- The letter after the backslash, for the characters that have one. -/
def shortEscape? (c : Char) : Option Char :=
  match c with
  | '"' => some '"'
  | '\\' => some '\\'
  | '\x08' => some 'b'
  | '\x0c' => some 'f'
  | '\n' => some 'n'
  | '\r' => some 'r'
  | '\t' => some 't'
  | _ => none

def escape (c : Char) : List Char :=
  match shortEscape? c with
  | some letter => ['\\', letter]
  | none =>
    if c.toNat < 0x20 then
      ['\\', 'u', '0', '0', Text.hexDigit (c.toNat / 16) false, Text.hexDigit (c.toNat % 16) false]
    else [c]

def literal (s : String) : List Char := '"' :: s.toList.flatMap escape ++ ['"']

/-- The character that an escape letter other than `u` stands for. -/
def unescape? (letter : Char) : Option Char :=
  match letter with
  | '"' => some '"'
  | '\\' => some '\\'
  | '/' => some '/'
  | 'b' => some '\x08'
  | 'f' => some '\x0c'
  | 'n' => some '\n'
  | 'r' => some '\r'
  | 't' => some '\t'
  | _ => none

/-- The code unit of four hexadecimal digits. Fewer than four bytes of text are
an early end whatever they are. -/
def hexUnit (cs : List Char) : Except Failure Nat :=
  match (cs.take 4).mapM Text.hexValue? with
  | some [a, b, c, d] => .ok (((a * 16 + b) * 16 + c) * 16 + d)
  | _ => if (Text.utf8 (cs.take 4)).length < 4 then .error .truncated else .error .malformed

def isHighSurrogate (n : Nat) : Bool := 0xd800 ≤ n && n ≤ 0xdbff

def isLowSurrogate (n : Nat) : Bool := 0xdc00 ≤ n && n ≤ 0xdfff

/-- The character of a `\u` escape, from the text after the `u`, and how much of
that text it takes. -/
def unicodeEscape (cs : List Char) : Except Failure (Char × Nat) := do
  let unit ← hexUnit cs
  if isLowSurrogate unit then .error .malformed
  else if isHighSurrogate unit then
    match cs.drop 4 with
    | [] => .error .truncated
    | ['\\'] => .error .truncated
    | '\\' :: 'u' :: rest =>
      let low ← hexUnit rest
      if isLowSurrogate low then
        .ok (Char.ofNat (0x10000 + (unit - 0xd800) * 0x400 + (low - 0xdc00)), 10)
      else .error .malformed
    | _ => .error .malformed
  else .ok (Char.ofNat unit, 4)

/-- The content of a literal whose opening quote has been read, and what follows
the closing one. The number bounds the steps; the text's length is enough. -/
def content : Nat → List Char → Except Failure (List Char × List Char)
  | 0, _ | _, [] => .error .truncated
  | fuel + 1, c :: cs =>
    if c = '"' then .ok ([], cs)
    else if c = '\\' then
      match cs with
      | [] => .error .truncated
      | 'u' :: rest => do
        let (decoded, length) ← unicodeEscape rest
        let (more, after) ← content fuel (rest.drop length)
        return (decoded :: more, after)
      | letter :: rest =>
        match unescape? letter with
        | none => .error .malformed
        | some decoded => do
          let (more, after) ← content fuel rest
          return (decoded :: more, after)
    else if c.toNat < 0x20 then .error .malformed
    else do
      let (more, after) ← content fuel cs
      return (c :: more, after)

def readContent (cs : List Char) : Except Failure (String × List Char) :=
  (content (cs.length + 1) cs).map fun (chars, after) => (String.ofList chars, after)

/-- What follows a literal whose opening quote has been read; escapes are
checked for their form only. -/
def skipContent : Nat → List Char → Except Failure (List Char)
  | 0, _ | _, [] => .error .truncated
  | fuel + 1, c :: cs =>
    if c = '"' then .ok cs
    else if c = '\\' then
      match cs with
      | [] => .error .truncated
      | 'u' :: rest => do
        let _ ← hexUnit rest
        skipContent fuel (rest.drop 4)
      | letter :: rest =>
        if (unescape? letter).isSome then skipContent fuel rest else .error .malformed
    else if c.toNat < 0x20 then .error .malformed
    else skipContent fuel cs

end AlertSound.Json
