import AlertSound.Url.Basic
import AlertSound.Url.Domain

/-!
Hosts. A URL of the web schemes or of `file` names an internet host: a domain,
or an address in any of the historical spellings. Other schemes take nearly any
text.
-/
namespace AlertSound.Url

inductive Error where
  | noScheme
  | badPort
  | emptyHost
  | badHostCharacter
  | badDomain
  | badIpv4
  | badIpv6
  deriving DecidableEq

def Error.message : Error → String
  | .noScheme => "relative URL without a base"
  | .badPort => "invalid port number"
  | .emptyHost => "empty host"
  | .badHostCharacter => "invalid domain character"
  | .badDomain => "invalid international domain name"
  | .badIpv4 => "invalid IPv4 address"
  | .badIpv6 => "invalid IPv6 address"

/-- The parts between separators; one more than there are separators. -/
def splitAll {α : Type} (isSeparator : α → Bool) : List α → List (List α)
  | [] => [[]]
  | c :: cs =>
    match splitAll isSeparator cs with
    | [] => [[c]]
    | part :: parts =>
      if isSeparator c then [] :: part :: parts else (c :: part) :: parts

def hexNumber? (cs : List Char) : Option Nat :=
  if cs.isEmpty then none
  else cs.foldlM (fun n c => (Text.hexValue? c).map (16 * n + ·)) 0

/-- One to four hexadecimal digits. -/
def ipv6Group? (cs : List Char) : Option Nat :=
  if 4 < cs.length then none else hexNumber? cs

/-- A decimal part of a dotted address inside brackets: no leading zero, at most 255. -/
def dottedPart? (cs : List Char) : Option Nat :=
  if cs.isEmpty || !cs.all Char.isDigit || (1 < cs.length && cs.head? == some '0') then none
  else
    let n := cs.foldl (fun n c => 10 * n + (c.toNat - '0'.toNat)) 0
    if n ≤ 255 then some n else none

/-- The last part may be a dotted address, which stands for two groups. -/
def ipv6LastGroup? (cs : List Char) : Option (List Nat) :=
  if cs.contains '.' then
    match (splitAll (· == '.') cs).mapM dottedPart? with
    | some [a, b, c, d] => some [256 * a + b, 256 * c + d]
    | _ => none
  else (ipv6Group? cs).map ([·])

def ipv6Groups? (dotted : Bool) : List (List Char) → Option (List Nat)
  | [] => some []
  | [last] => if dotted then ipv6LastGroup? last else (ipv6Group? last).map ([·])
  | part :: rest => do return (← ipv6Group? part) :: (← ipv6Groups? dotted rest)

/-- The text before and after the first `::`. -/
def splitGap : List Char → Option (List Char × List Char)
  | ':' :: ':' :: rest => some ([], rest)
  | c :: rest => (splitGap rest).map fun (front, back) => (c :: front, back)
  | [] => none

def ipv6? (cs : List Char) : Option (List Nat) :=
  let parts (text : List Char) := if text.isEmpty then [] else splitAll (· == ':') text
  match splitGap cs with
  | none => (ipv6Groups? true (parts cs)).filter (·.length == 8)
  | some (front, back) => do
    let left ← ipv6Groups? false (parts front)
    let right ← ipv6Groups? true (parts back)
    let missing := 8 - (left.length + right.length)
    if missing = 0 then none else some (left ++ List.replicate missing 0 ++ right)

/-- A number of an address: `0x` starts a hexadecimal one, another leading zero
an octal one. The inner `none` is a number that exceeds every address. -/
def ipv4Number? (cs : List Char) : Option (Option Nat) :=
  let (base, digits) :=
    match cs with
    | '0' :: 'x' :: rest | '0' :: 'X' :: rest => (16, rest)
    | '0' :: d :: rest => (8, d :: rest)
    | _ => (10, cs)
  if cs.isEmpty then none
  else
    match digits.foldlM
        (fun n c => ((Text.hexValue? c).filter (· < base)).map (base * n + ·)) 0 with
    | none => none
    | some n => some (if n < UInt32.size then some n else none)

/-- The dotted parts, without an empty one after a final dot. -/
def domainParts (cs : List Char) : List (List Char) :=
  let parts := splitAll (· == '.') cs
  if parts.getLast? == some [] then parts.dropLast else parts

def endsInNumber (cs : List Char) : Bool :=
  match (domainParts cs).getLast? with
  | none => false
  | some last => (!last.isEmpty && last.all Char.isDigit) || (ipv4Number? last).isSome

/-- The last number fills what the earlier ones, one byte each, leave. -/
def ipv4? (cs : List Char) : Option Nat := do
  let parts := domainParts cs
  if 4 < parts.length then none
  else
    let numbers ← parts.mapM fun part => (ipv4Number? part).join
    let last ← numbers.getLast?
    let front := numbers.dropLast
    if last < Nat.pow 256 (4 - front.length) && front.all (· ≤ 255) then
      some (front.foldl (fun n part => 256 * n + part) 0 * Nat.pow 256 (4 - front.length) + last)
    else none

def isForbiddenInHost (c : Char) : Bool :=
  "\x00\t\n\r #/:<>?@[\\]^|".toList.contains c

def isForbiddenInDomain (c : Char) : Bool :=
  isForbiddenInHost c || c.toNat < 0x20 || c == '%' || c.toNat == 0x7f

/-- A bracketed address, if the text starts with a bracket. -/
def bracketed? (cs : List Char) : Option (Except Error Host) :=
  match cs with
  | '[' :: inner =>
    some <|
      if inner.getLast? == some ']' then
        match ipv6? inner.dropLast with
        | some groups => .ok (.ipv6 groups)
        | none => .error .badIpv6
      else .error .badIpv6
  | _ => none

def isControl (c : Char) : Bool := c.toNat < 0x20 || c.toNat == 0x7f

/-- The host of a scheme that is not of the web. -/
def anyHost (cs : List Char) : Except Error Host :=
  match bracketed? cs with
  | some result => result
  | none =>
    if cs.any isForbiddenInHost then .error .badHostCharacter
    else .ok (.name (String.ofList (Text.percentEncode isControl cs)))

/-- The host of a web or `file` URL: escapes are read, and the domain is folded and written
in ASCII. -/
def internetHost (cs : List Char) : Except Error Host :=
  match bracketed? cs with
  | some result => result
  | none =>
    match (Text.ofUtf8? (Text.percentDecode cs)).bind folded? with
    | none => .error .badDomain
    | some folded =>
      if folded.any isForbiddenInDomain then .error .badDomain
      else
        let labels := splitAll (· == '.') folded
        if !isDomain labels then .error .badDomain
        else
          let domain := ['.'].intercalate (labels.map asciiLabel)
          if domain.isEmpty then .error .emptyHost
          else if endsInNumber domain then
            match ipv4? domain with
            | some address => .ok (.ipv4 address)
            | none => .error .badIpv4
          else .ok (.name (String.ofList domain))

end AlertSound.Url
