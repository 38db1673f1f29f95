import AlertSound.Text.Composition
import AlertSound.Text.Direction
import AlertSound.Text.Folding
import AlertSound.Text.Joining
import AlertSound.Text.Replacement
import AlertSound.Text.Unprintable
import AlertSound.Url.Punycode

/-!
Domain names whose labels may hold or stand for text beyond ASCII. A label that stands
for such text begins with `xn--` and goes on in Punycode; what it stands for has to be
text that could have been written in the first place: composed, in folded form, without
a mark at its start, with joiners only where letters join, and read in one direction.
Text beyond ASCII is folded and composed first, and then written as such labels.
-/
namespace AlertSound.Url

/-- Folding would change these, yet a domain may hold them; the last two join letters. -/
def keptLetters : List Nat := [0xdf, 0x3c2, 0x200c, 0x200d]

/-- The ideographic full stop, the parts that describe an ideograph, and what stands in
place of other characters. -/
def refusedSymbols : List (Nat × Nat) :=
  [(0x2ff0, 0x2fff), (0x3002, 0x3002), (0x31ef, 0x31ef), (0xfffc, 0xfffd)]

def isInternational (c : Char) : Bool :=
  let n := c.toNat
  keptLetters.contains n ||
    !(Text.changesWhenFolded c || Text.isUnprintable c ||
      refusedSymbols.any fun (first, last) => first ≤ n && n ≤ last)

def isNonJoiner (c : Char) : Bool := c.toNat == 0x200c

def isJoiner (c : Char) : Bool := c.toNat == 0x200d

/-- Whether the letters on both sides join, the ones before given in reverse. -/
def joinAcross (before after : List Char) : Bool :=
  (before.dropWhile Text.isTransparent).head?.any Text.joinsNext &&
    (after.dropWhile Text.isTransparent).head?.any Text.joinsPrevious

/-- Joiners follow a virama; one that keeps letters apart may also stand between
letters that would join. The text before is reversed. -/
def joinersFit (before : List Char) : List Char → Bool
  | [] => true
  | c :: after =>
    (!(isJoiner c || isNonJoiner c) || before.head?.any Text.isVirama ||
      (isNonJoiner c && joinAcross before after)) && joinersFit (c :: before) after

/-- The text that a label may stand for. -/
def isLabelText (cs : List Char) : Bool :=
  cs.length ≤ 1000 && cs.all isInternational && Text.isComposed cs &&
    !cs.head?.any Text.isMark && joinersFit [] cs

def labelPrefix : List Char := "xn--".toList

def isAscii (cs : List Char) : Bool := cs.all fun c => c.toNat < 0x80

/-- The text of a folded label. -/
def labelText? (label : List Char) : Option (List Char) :=
  if labelPrefix.isPrefixOf label then
    let code := label.drop labelPrefix.length
    if code.isEmpty || code.getLast? == some '-' || 2000 < code.length || !isAscii code then none
    else (Punycode.decode code).filter isLabelText
  else if isAscii label || isLabelText label then some label
  else none

def foldedLetter? (c : Char) : Option (List Char) :=
  match Text.replacement? c with
  | some replaced => some replaced
  | none => if c.toNat < 0x80 || isInternational c then some [c] else none

/-- A domain folded and composed, unless it holds what no domain may. -/
def folded? (cs : List Char) : Option (List Char) :=
  if isAscii cs then some (cs.map Char.toLower)
  else (cs.mapM foldedLetter?).map fun folded => Text.compose (Text.decompose folded.flatten)

/-- A label in ASCII. -/
def asciiLabel (label : List Char) : List Char :=
  if isAscii label then label else labelPrefix ++ Punycode.encode label

open Text (Direction direction)

/-- After a letter that is read to the right nothing reads to the left, and the label
ends in such a letter or in a number; the other way round numbers are of one kind.
Marks at the end do not count. -/
def readsOneWay : List Char → Bool
  | [] => true
  | first :: rest =>
    let classes := ((rest.map direction).reverse.dropWhile (· == .nonspacing))
    let ends (allowed : List Direction) := classes.head?.all allowed.contains
    match direction first with
    | .leftToRight =>
      ends [.leftToRight, .europeanNumber] &&
        !classes.any [Direction.rightToLeft, .arabicNumber].contains
    | .rightToLeft =>
      ends [.rightToLeft, .europeanNumber, .arabicNumber] && !classes.contains .leftToRight &&
        !(classes.contains .europeanNumber && classes.contains .arabicNumber)
    | _ => false

def readsLeft (label : List Char) : Bool :=
  (label.map direction).any [Direction.rightToLeft, .arabicNumber].contains

/-- Whether folded labels make a domain. -/
def isDomain (labels : List (List Char)) : Bool :=
  match labels.mapM labelText? with
  | none => false
  | some texts => !texts.any readsLeft || texts.all readsOneWay

end AlertSound.Url
