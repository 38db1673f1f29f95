/-!
Punycode, which writes text beyond ASCII in letters, digits and hyphens. The ASCII
characters come first; what follows the last hyphen says, in ascending order of code
point, which other characters stand where.
-/
namespace AlertSound.Url.Punycode

def digit? (c : Char) : Option Nat :=
  if 'a' ≤ c && c ≤ 'z' then some (c.toNat - 'a'.toNat)
  else if 'A' ≤ c && c ≤ 'Z' then some (c.toNat - 'A'.toNat)
  else if '0' ≤ c && c ≤ '9' then some (c.toNat - '0'.toNat + 26)
  else none

/-- A digit below the threshold ends a number. -/
def threshold (place bias : Nat) : Nat :=
  if place ≤ bias then 1 else if bias + 26 ≤ place then 26 else place - bias

/-- A number at the front, with digits of growing weight, and what follows it.
Numbers beyond 32 bits are refused. -/
def number (bias : Nat) : Nat → Nat → Nat → List Char → Option (Nat × List Char)
  | _, _, _, [] => none
  | place, weight, sum, c :: cs => do
    let digit ← digit? c
    let sum := sum + digit * weight
    if UInt32.size ≤ sum then none
    else
      let least := threshold place bias
      if digit < least then some (sum, cs)
      else
        let weight := weight * (36 - least)
        if UInt32.size ≤ weight then none else number bias (place + 36) weight sum cs

theorem length_number {bias place weight sum : Nat} {cs rest : List Char} {n : Nat}
    (h : number bias place weight sum cs = some (n, rest)) : rest.length < cs.length := by
  induction cs generalizing place weight sum with
  | nil => simp [number] at h
  | cons c cs ih =>
    simp only [number, Option.bind_eq_bind, Option.bind_eq_some_iff] at h
    obtain ⟨digit, -, h⟩ := h
    split at h
    · cases h
    · split at h
      · cases h
        exact Nat.lt_succ_self _
      · split at h
        · cases h
        · exact Nat.lt_succ_of_lt (ih h)

def settle (delta place : Nat) : Nat :=
  if 455 < delta then settle (delta / 35) (place + 36) else place + 36 * delta / (delta + 38)
termination_by delta
decreasing_by exact Nat.div_lt_self (by omega) (by omega)

/-- The bias for the next number, by the size of the last one. -/
def adapt (delta count : Nat) (isFirst : Bool) : Nat :=
  let delta := if isFirst then delta / 700 else delta / 2
  settle (delta + delta / count) 0

/-- Inserts the characters that the numbers in `cs` stand for. `index` counts through
all places of the text, for one code point after the other. -/
def insertAll (bias code index : Nat) (text : List Char) : List Char → Option (List Char)
  | [] => some text
  | c :: cs =>
    match hn : number bias 36 1 index (c :: cs) with
    | none => none
    | some (next, rest) =>
      have : rest.length < (c :: cs).length := length_number hn
      let count := text.length + 1
      let code := code + next / count
      if code.isValidChar then
        insertAll (adapt (next - index) count (index == 0)) code (next % count + 1)
          (text.insertIdx (next % count) (Char.ofNat code)) rest
      else none
termination_by cs => cs.length
decreasing_by exact this

/-- The text before and after the last hyphen. -/
def splitLastHyphen (cs : List Char) : List Char × List Char :=
  match cs.reverse.span (· != '-') with
  | (back, _ :: front) => (front.reverse, back.reverse)
  | (_, []) => ([], cs)

def decode (cs : List Char) : Option (List Char) :=
  let (ascii, numbers) := splitLastHyphen cs
  insertAll 72 0x80 0 ascii numbers

/-- The digit of a value below 36. -/
def digit (value : Nat) : Char :=
  if value < 26 then Char.ofNat ('a'.toNat + value) else Char.ofNat ('0'.toNat + (value - 26))

theorem threshold_pos (place bias : Nat) : 0 < threshold place bias := by
  unfold threshold
  split
  · omega
  · split <;> omega

/-- A number in digits, the least first. -/
def digits (bias place n : Nat) : List Char :=
  let least := threshold place bias
  if n < least then [digit n]
  else
    digit (least + (n - least) % (36 - least)) ::
      digits bias (place + 36) ((n - least) / (36 - least))
termination_by n
decreasing_by
  have positive := threshold_pos place bias
  calc (n - threshold place bias) / (36 - threshold place bias)
      ≤ n - threshold place bias := Nat.div_le_self ..
    _ < n := by omega

/-- What has been written: how many characters, and how many places lie behind the last. -/
structure Writing where
  text : List Char
  count : Nat
  delta : Nat
  bias : Nat

/-- Passes one character of the text while those of a code point are written. -/
def Writing.pass (ascii code : Nat) (w : Writing) (c : Char) : Writing :=
  if c.toNat < code then { w with delta := w.delta + 1 }
  else if c.toNat = code then
    { text := w.text ++ digits w.bias 36 w.delta
      count := w.count + 1
      delta := 0
      bias := adapt w.delta (w.count + 1) (w.count == ascii) }
  else w

/-- Writes the characters of ascending code points, `next` being the first that may come. -/
def writeAll (cs : List Char) (ascii : Nat) (next : Nat) (w : Writing) : List Nat → List Char
  | [] => w.text
  | code :: codes =>
    let start := { w with delta := w.delta + (code - next) * (w.count + 1) }
    let done := cs.foldl (Writing.pass ascii code) start
    writeAll cs ascii (code + 1) { done with delta := done.delta + 1 } codes

def encode (cs : List Char) : List Char :=
  let (ascii, others) := cs.partition fun c => c.toNat < 0x80
  let front := if ascii.isEmpty then [] else ascii ++ ['-']
  let codes := ((others.map Char.toNat).mergeSort (· ≤ ·)).eraseDups
  writeAll cs ascii.length 0x80
    { text := front, count := ascii.length, delta := 0, bias := 72 } codes

end AlertSound.Url.Punycode
