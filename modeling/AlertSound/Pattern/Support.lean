import AlertSound.Pattern.Basic

/-!
Which regular expressions can be searched for. Texts are searched as UTF-8 and
without tables of characters: nothing may match part of a character, and what counts
as a digit, a blank, a letter of a word or the other case of a letter is known for
bytes only.
-/
namespace AlertSound.Pattern

structure Flags where
  caseless : Bool := false
  unicode : Bool := true

def Flags.apply (flags : Flags) (change : FlagChange) : Flags :=
  { caseless := change.caseless.getD flags.caseless
    unicode := change.unicode.getD flags.unicode }

def Letter.isAscii (l : Letter) : Bool := l.char.toNat < 0x80

namespace CharSet

/-- The set itself and all that are inside it. -/
def subsets : CharSet → List CharSet
  | .bracketed negated inner => .bracketed negated inner :: inner.subsets
  | .union members => .union members :: (members.map subsets).flatten
  | .operation left right => .operation left right :: left.subsets ++ right.subsets
  | set => [set]

/-- As sets of bytes: ASCII members only, and no complement, which is never ASCII. -/
def isAscii (set : CharSet) : Bool :=
  set.subsets.all fun
    | .letter l => l.isAscii
    | .range first last => first.isAscii && last.isAscii
    | .named negated | .shorthand negated | .bracketed negated _ => !negated
    | _ => true

/-- As sets of characters: what has a name of its own needs no table. -/
def needsNoTable (set : CharSet) : Bool :=
  set.subsets.all fun
    | .shorthand _ => false
    | _ => true

/-- Nothing is in it whose other case would be looked up. -/
def hasNoMember (set : CharSet) : Bool :=
  set.subsets.all fun
    | .letter _ | .range _ _ | .named _ | .shorthand _ => false
    | _ => true

def isSupported (flags : Flags) (set : CharSet) : Bool :=
  if !flags.unicode then set.isAscii
  else if flags.caseless then set.hasNoMember
  else set.needsNoTable

end CharSet

def Letter.isSupported (flags : Flags) (l : Letter) : Bool :=
  if flags.unicode then !flags.caseless else !l.isByte || l.isAscii

/-- The flags that hold after the pattern, if it is supported. -/
def flagsAfter (flags : Flags) : Pattern → Option Flags
  | .empty | .edge => some flags
  | .flags change => some (flags.apply change)
  | .letter l => if l.isSupported flags then some flags else none
  | .anyLetter => if flags.unicode then some flags else none
  | .wordEdge => if flags.unicode then none else some flags
  | .shorthand negated => if flags.unicode || negated then none else some flags
  | .oneOf set => if set.isSupported flags then some flags else none
  | .repeated p => p.flagsAfter flags
  | .group change p => (p.flagsAfter (flags.apply change)).map fun _ => flags
  | .choice parts | .sequence parts =>
    parts.foldlM (fun flags part => part.flagsAfter flags) flags

/-- Parts may be inside one another 250 times. -/
def isSupported (p : Pattern) : Bool := p.depth ≤ 250 && (p.flagsAfter {}).isSome

end AlertSound.Pattern
