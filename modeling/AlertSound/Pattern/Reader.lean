import AlertSound.Pattern.Basic
import AlertSound.Text.Alphanumeric
import AlertSound.Text.Blank
import AlertSound.Text.Percent

/-!
Reading regular expressions. Braces do not pair here, since a pattern ends before a
closing one, so an opening brace outside a set is refused. So are references back to
a group and looking around.
-/
namespace AlertSound.Pattern

def skipSpaceFrom (inComment : Bool) : List Char → List Char
  | [] => []
  | c :: cs =>
    if inComment then skipSpaceFrom (c != '\n') cs
    else if Text.isBlank c then skipSpaceFrom false cs
    else if c == '#' then skipSpaceFrom true cs
    else c :: cs

/-- Blanks and comments, where the flags let them stand between the parts. -/
def skipSpace (spaced : Bool) (cs : List Char) : List Char :=
  if spaced then skipSpaceFrom false cs else cs

/-- What a single sign or an escape stands for. -/
inductive Sign where
  | letter (l : Letter)
  | anyLetter
  | edge
  | wordEdge
  | shorthand (negated : Bool)

def Sign.ofChar (c : Char) : Sign := .letter ⟨c, false⟩

def Sign.pattern : Sign → Pattern
  | .letter l => .letter l
  | .anyLetter => .anyLetter
  | .edge => .edge
  | .wordEdge => .wordEdge
  | .shorthand negated => .shorthand negated

/-- A fixed number of hexadecimal digits. -/
def hexDigits (spaced : Bool) : Nat → Nat → List Char → Option (Nat × List Char)
  | 0, value, cs => some (value, cs)
  | _ + 1, _, [] => none
  | count + 1, value, c :: cs => do
    hexDigits spaced count (16 * value + (← Text.hexValue? c)) (skipSpace spaced cs)

def hexSign (spaced isByte : Bool) (count : Nat) (cs : List Char) : Option (Sign × List Char) := do
  let (value, rest) ← hexDigits spaced count 0 (skipSpace spaced cs)
  if value.isValidChar then some (.letter ⟨Char.ofNat value, isByte⟩, rest) else none

/-- The letters that name a character after a backslash. -/
def namedCharacters : List (Char × Char) :=
  [('a', '\x07'), ('f', '\x0c'), ('t', '\t'), ('n', '\n'), ('r', '\r'), ('v', '\x0b')]

/-- What a backslash and the text after it stand for. Every ASCII sign but the angle
brackets, and no other letter or digit, stands for itself. -/
def escapeSign (spaced : Bool) : List Char → Option (Sign × List Char)
  | [] => none
  | c :: cs =>
    match c with
    | 'x' => hexSign spaced true 2 cs
    | 'u' => hexSign spaced false 4 cs
    | 'U' => hexSign spaced false 8 cs
    | 'd' | 's' | 'w' => some (.shorthand false, cs)
    | 'D' | 'S' | 'W' => some (.shorthand true, cs)
    | 'A' | 'z' => some (.edge, cs)
    | 'b' | 'B' | '<' | '>' => some (.wordEdge, cs)
    | _ =>
      match namedCharacters.lookup c with
      | some named => some (.ofChar named, cs)
      | none => if c.isAlphanum || 0x80 ≤ c.toNat then none else some (.ofChar c, cs)

def setNames : List String :=
  ["alnum", "alpha", "ascii", "blank", "cntrl", "digit", "graph", "lower", "print", "punct",
    "space", "upper", "word", "xdigit"]

/-- A named set, from the text after its opening bracket: whether it is negated. -/
def namedSet? : List Char → Option (Bool × List Char)
  | ':' :: rest =>
    let (negated, rest) := match rest with
      | '^' :: rest => (true, rest)
      | _ => (false, rest)
    match rest.span (· != ':') with
    | (name, ':' :: ']' :: rest) =>
      if setNames.contains (String.ofList name) then some (negated, rest) else none
    | _ => none
  | _ => none

def setSign (spaced : Bool) : List Char → Option (Sign × List Char)
  | [] => none
  | '\\' :: cs => escapeSign spaced cs
  | c :: cs => some (.ofChar c, cs)

def Sign.member? : Sign → Option CharSet
  | .letter l => some (.letter l)
  | .shorthand negated => some (.shorthand negated)
  | _ => none

/-- A member of a set or a range of them. A hyphen before another hyphen or before the
end of the set makes no range. -/
def setMember (spaced : Bool) (cs : List Char) : Option (CharSet × List Char) := do
  let (first, rest) ← setSign spaced cs
  let alone := first.member?.map (·, skipSpace spaced rest)
  match skipSpace spaced rest with
  | '-' :: rest =>
    let rest := skipSpace spaced rest
    if rest.head? == some ']' || rest.head? == some '-' then alone
    else
      match first, ← setSign spaced rest with
      | .letter first, (.letter last, rest) =>
        if first.char ≤ last.char then some (.range first last, rest) else none
      | _, _ => none
  | _ => alone

/-- Hyphens at the start of a set, and a bracket that would close it while it is still
empty, are members; the last one comes first. -/
def firstMembers (spaced : Bool) (members : List CharSet) : List Char → List CharSet × List Char
  | [] => (members, [])
  | c :: cs =>
    let member := CharSet.letter ⟨c, false⟩
    if c == '-' then
      match firstMembers spaced (member :: members) cs with
      | (members, rest) => (members, skipSpace spaced rest)
    else if c == ']' && members.isEmpty then ([member], skipSpace spaced cs)
    else (members, c :: cs)

/-- The members read so far, joined with what stands before an operator. -/
def joinMembers (left : Option CharSet) (members : List CharSet) : CharSet :=
  let right := CharSet.ofMembers members.reverse
  match left with
  | none => right
  | some left => .operation left right

mutual

/-- The set whose opening bracket has been read. The number bounds the steps. -/
def readSet : Nat → Bool → List Char → Option (CharSet × List Char)
  | 0, _, _ => none
  | fuel + 1, spaced, cs => do
    let (negated, rest) := match skipSpace spaced cs with
      | '^' :: rest => (true, skipSpace spaced rest)
      | rest => (false, rest)
    let (members, rest) := firstMembers spaced [] rest
    let (inner, rest) ← readMembers fuel spaced none members rest
    return (.bracketed negated inner, rest)

def readMembers :
    Nat → Bool → Option CharSet → List CharSet → List Char → Option (CharSet × List Char)
  | 0, _, _, _, _ => none
  | fuel + 1, spaced, left, members, cs => do
    match skipSpace spaced cs with
    | [] => none
    | '[' :: rest =>
      match namedSet? rest with
      | some (negated, rest) => readMembers fuel spaced left (.named negated :: members) rest
      | none =>
        let (inner, rest) ← readSet fuel spaced rest
        readMembers fuel spaced left (inner :: members) rest
    | ']' :: rest => some (joinMembers left members, rest)
    | '&' :: '&' :: rest | '-' :: '-' :: rest | '~' :: '~' :: rest =>
      readMembers fuel spaced (some (joinMembers left members)) [] rest
    | rest =>
      let (member, rest) ← setMember spaced rest
      readMembers fuel spaced left (member :: members) rest

end

def FlagChange.set (change : FlagChange) (flag : Char) (value : Bool) : Option FlagChange :=
  match flag with
  | 'i' => some { change with caseless := some value }
  | 'u' => some { change with unicode := some value }
  | 'x' => some { change with spaced := some value }
  | 'm' | 's' | 'U' | 'R' => some change
  | _ => none

/-- Flags up to the colon or the parenthesis after them, each at most once. Those
after a hyphen are cleared; a hyphen has to have one. -/
def readFlags (change : FlagChange) (seen : List Char) (negated dangling : Bool) :
    List Char → Option (FlagChange × List Char)
  | [] => none
  | c :: cs =>
    if c == ':' || c == ')' then
      if dangling || (c == ')' && seen.isEmpty) then none else some (change, c :: cs)
    else if c == '-' then
      if negated then none else readFlags change seen true true cs
    else if seen.contains c then none
    else do readFlags (← change.set c !negated) (c :: seen) negated false cs

def isNameText : List Char → Bool
  | [] => false
  | c :: cs =>
    (c == '_' || Text.isAlphabetic c) &&
      cs.all fun c => "_.[]".toList.contains c || Text.isAlphanumeric c

/-- What an opening parenthesis begins: a group, or flags for what follows. -/
inductive Opening where
  | group (change : FlagChange) (rest : List Char)
  | flags (change : FlagChange) (rest : List Char)

/-- The names of groups that have been read, with that of the new group if it has one. -/
def readOpening (spaced : Bool) (names : List (List Char)) (cs : List Char) :
    Option (Opening × List (List Char)) :=
  let named (cs : List Char) : Option (Opening × List (List Char)) :=
    match cs.span (· != '>') with
    | (name, '>' :: rest) =>
      if isNameText name && !names.contains name then some (.group {} rest, name :: names)
      else none
    | _ => none
  match skipSpace spaced cs with
  | '?' :: '=' :: _ | '?' :: '!' :: _ | '?' :: '<' :: '=' :: _ | '?' :: '<' :: '!' :: _ => none
  | '?' :: 'P' :: '<' :: rest | '?' :: '<' :: rest => named rest
  | '?' :: rest =>
    match readFlags {} [] false false rest with
    | some (change, ':' :: rest) => some (.group change rest, names)
    | some (change, ')' :: rest) => some (.flags change rest, names)
    | _ => none
  | rest => some (.group {} rest, names)

/-- Makes the last part a repetition. Flags are nothing that could be repeated. -/
def repeatLast : List Pattern → Option (List Pattern)
  | [] | .flags _ :: _ => none
  | part :: parts => some (.repeated part :: parts)

def readSign (spaced : Bool) : List Char → Option (Sign × List Char)
  | [] => none
  | '\\' :: cs => escapeSign spaced cs
  | '.' :: cs => some (.anyLetter, cs)
  | '^' :: cs | '$' :: cs => some (.edge, cs)
  | c :: cs => some (.ofChar c, cs)

/-- Parts and branches up to a closing parenthesis or the end. Those read so far are in
reverse. The number bounds the steps. -/
def readParts : Nat → Bool → List (List Char) → List Pattern → List Pattern → List Char →
    Option (Pattern × List (List Char) × List Char)
  | 0, _, _, _, _, _ => none
  | fuel + 1, spaced, names, branches, parts, cs => do
    let branch := ofParts parts.reverse
    match skipSpace spaced cs with
    | [] => some (ofBranches (branch :: branches).reverse, names, [])
    | ')' :: rest => some (ofBranches (branch :: branches).reverse, names, ')' :: rest)
    | '|' :: rest => readParts fuel spaced names (branch :: branches) [] rest
    | '(' :: rest =>
      match ← readOpening spaced names rest with
      | (.flags change rest, names) =>
        readParts fuel (change.spaced.getD spaced) names branches (.flags change :: parts) rest
      | (.group change rest, names) =>
        match ← readParts fuel (change.spaced.getD spaced) names [] [] rest with
        | (inner, names, ')' :: rest) =>
          readParts fuel spaced names branches (.group change inner :: parts) rest
        | _ => none
    | '[' :: rest =>
      let (set, rest) ← readSet fuel spaced rest
      readParts fuel spaced names branches (.oneOf set :: parts) rest
    | '?' :: '?' :: rest | '*' :: '?' :: rest | '+' :: '?' :: rest
    | '?' :: rest | '*' :: rest | '+' :: rest =>
      readParts fuel spaced names branches (← repeatLast parts) rest
    | '\x7b' :: _ => none
    | rest =>
      let (sign, rest) ← readSign spaced rest
      readParts fuel spaced names branches (sign.pattern :: parts) rest

def ofText? (s : String) : Option Pattern :=
  match readParts (2 * s.length + 2) false [] [] [] s.toList with
  | some (p, _, []) => some p
  | _ => none

end AlertSound.Pattern
