/-!
Regular expressions: characters, sets of them, places between them, groups whose
flags reach to the end of the group, repetition and choice.
-/
namespace AlertSound

namespace Pattern

/-- A character as it stands in a pattern. One that is written as a byte is that
byte where patterns are read as bytes. -/
structure Letter where
  char : Char
  isByte : Bool

/-- A set between brackets. Named sets such as `[:alpha:]` and the letters `\d`, `\s`
and `\w` hold more than one character. -/
inductive CharSet where
  | empty
  | letter (l : Letter)
  | range (first last : Letter)
  | named (negated : Bool)
  | shorthand (negated : Bool)
  | bracketed (negated : Bool) (inner : CharSet)
  | union (members : List CharSet)
  | operation (left right : CharSet)

namespace CharSet

def ofMembers : List CharSet → CharSet
  | [] => .empty
  | [only] => only
  | members => .union members

/-- How many sets are inside one another. -/
def depth : CharSet → Nat
  | .empty | .letter _ | .range _ _ | .named _ | .shorthand _ => 0
  | .bracketed _ inner => inner.depth + 1
  | .union members => (members.map depth).foldl max 0 + 1
  | .operation left right => max left.depth right.depth + 1

end CharSet

/-- The flags that decide what a pattern may hold; one that is not named stays. -/
structure FlagChange where
  caseless : Option Bool := none
  unicode : Option Bool := none
  spaced : Option Bool := none

end Pattern

/-- The edges of a word are told from those of the text, for what counts as a letter
of a word depends on the flags. -/
inductive Pattern where
  | empty
  | flags (change : Pattern.FlagChange)
  | letter (l : Pattern.Letter)
  | anyLetter
  | edge
  | wordEdge
  | shorthand (negated : Bool)
  | oneOf (set : Pattern.CharSet)
  | repeated (p : Pattern)
  | group (change : Pattern.FlagChange) (p : Pattern)
  | choice (branches : List Pattern)
  | sequence (parts : List Pattern)

namespace Pattern

def ofParts : List Pattern → Pattern
  | [] => .empty
  | [only] => only
  | parts => .sequence parts

def ofBranches : List Pattern → Pattern
  | [] => .empty
  | [only] => only
  | branches => .choice branches

/-- How many parts are inside one another. -/
def depth : Pattern → Nat
  | .empty | .flags _ | .letter _ | .anyLetter | .edge | .wordEdge | .shorthand _ => 0
  | .oneOf set => set.depth
  | .repeated p => p.depth + 1
  | .group _ p => p.depth + 1
  | .choice branches => (branches.map depth).foldl max 0 + 1
  | .sequence parts => (parts.map depth).foldl max 0 + 1

end Pattern
end AlertSound
