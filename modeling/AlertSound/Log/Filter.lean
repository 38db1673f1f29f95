import AlertSound.Log
import AlertSound.Pattern.Reader
import AlertSound.Pattern.Support
import AlertSound.Text.Decimal

/-!
Filters of log entries. A filter is a list of directives such as `info`,
`session=debug` or `[{key}]=warn`; the most specific directive that covers an
entry decides about it, and an entry that none covers is dropped.
-/
namespace AlertSound.Log

/-- The least level that passes; none passes nothing. -/
abbrev Threshold := Option Level

namespace Threshold

def admits (threshold : Threshold) (level : Level) : Bool :=
  match threshold with
  | none => false
  | some least => least.rank ≤ level.rank

/-- By name, in letters of either case. -/
def ofName? (name : String) : Option Threshold :=
  match String.ofList (name.toList.map Char.toLower) with
  | "off" => some none
  | "error" => some (some .error)
  | "warn" => some (some .warn)
  | "info" => some (some .info)
  | "debug" => some (some .debug)
  | "trace" => some (some .trace)
  | _ => none

/-- By number, from nothing at all to every entry. -/
def ofNumber? : Nat → Option Threshold
  | 0 => some none
  | 1 => some (some .error)
  | 2 => some (some .warn)
  | 3 => some (some .info)
  | 4 => some (some .debug)
  | 5 => some (some .trace)
  | _ => none

def ofText? (s : String) : Option Threshold :=
  match (Text.uint64? s).bind fun n => ofNumber? n.toNat with
  | some threshold => some threshold
  | none => ofName? s

/-- A level that is left out admits everything. -/
def ofPart? (part : String) : Option Threshold :=
  if part.isEmpty then some (some .trace) else ofText? part

end Threshold

/-- A field that an entry has to have, possibly with a value. -/
structure FieldPattern where
  name : String
  value : Option String

/-- A value is a number or a regular expression; every truth value is one too. -/
def FieldPattern.isValue (value : String) : Bool :=
  Text.isFraction value || (Pattern.ofText? value).any Pattern.isSupported

/-- The name and, after a sign, the value; a second sign ends the value. -/
def FieldPattern.ofText? (s : String) : Option FieldPattern :=
  let (name, rest) := s.toList.span (· != '=')
  match rest with
  | [] => some { name := String.ofList name, value := none }
  | _ :: rest =>
    let value := String.ofList (rest.takeWhile (· != '='))
    if isValue value then some { name := String.ofList name, value := some value } else none

structure Directive where
  target : Option String
  span : Option String
  fields : List FieldPattern
  threshold : Threshold

namespace Directive

/-- Why a text is no directive. -/
inductive Error where
  | malformed
  | badLevel
  | badField (part : String)
  deriving DecidableEq

def Error.message : Error → String
  | .malformed => "invalid filter directive"
  | .badLevel =>
    "error parsing level filter: expected one of \"off\", \"error\", \"warn\", \"info\", " ++
      "\"debug\", \"trace\", or a number 0-5"
  | .badField part => "invalid field filter: " ++ part

def everything : Directive := ⟨none, none, [], some .trace⟩

inductive ReadState where
  | start
  | levelOrTarget
  | level (first : Nat)
  | span (first : Nat)
  | field (first : Nat)
  | fields
  | target
  | complete

def opensName (c : Char) : Bool :=
  c == '-' || c == ':' || c == '_' || Text.isAlphanumeric c

/-- The part of `whole` from one place up to another. Places count bytes; one inside a
character cuts nothing. -/
def cut (whole : List UInt8) (first last : Nat) : Except Error String :=
  match Text.ofUtf8? ((whole.take last).drop first) with
  | some part => .ok (String.ofList part)
  | none => .error .malformed

def withThreshold (d : Directive) (part : String) : Except Error Directive :=
  match Threshold.ofPart? part with
  | some threshold => .ok { d with threshold }
  | none => .error .badLevel

/-- A part without a sign is a level if it is spelt like one, else a target. -/
def withLevelOrTarget (d : Directive) (part : String) : Directive :=
  match Threshold.ofPart? part with
  | some threshold => { d with threshold, target := none }
  | none => { d with target := some part, threshold := some .trace }

def withField (d : Directive) (part : String) : Except Error Directive :=
  if part.isEmpty then .error .malformed
  else
    match FieldPattern.ofText? part with
    | some field => .ok { d with fields := d.fields ++ [field] }
    | none => .error (.badField part)

/-- Reads the character at place `i`. Parts are cut from `whole`. -/
def readChar (whole : List UInt8) (i : Nat) (c : Char) (d : Directive) :
    ReadState → Except Error (Directive × ReadState)
  | .start =>
    if c = '[' then .ok (d, .span (i + 1))
    else if opensName c then .ok (d, .levelOrTarget)
    else .error .malformed
  | .levelOrTarget => do
    if c = '=' then return ({ d with target := some (← cut whole 0 i) }, .level (i + 1))
    else if c = '[' then return ({ d with target := some (← cut whole 0 i) }, .span (i + 1))
    else if c = ',' then return (d.withLevelOrTarget (← cut whole 0 whole.length), .complete)
    else return (d, .levelOrTarget)
  | .level first => do
    if c = ',' then return (← d.withThreshold (← cut whole first i), .complete)
    else return (d, .level first)
  | .span first => do
    if c = ']' then return ({ d with span := some (← cut whole first i) }, .target)
    else if c = '\x7b' then
      let span ← cut whole first i
      return ({ d with span := if span.isEmpty then none else some span }, .field (i + 1))
    else return (d, .span first)
  | .field first => do
    if c = '\x7d' then return (← d.withField (← cut whole first i), .fields)
    else if c = ',' then return (← d.withField (← cut whole first i), .field (i + 1))
    else return (d, .field first)
  | .fields => if c = ']' then .ok (d, .target) else .error .malformed
  | .target => if c = '=' then .ok (d, .level (i + 1)) else .error .malformed
  | .complete => .error .malformed

def finish (whole : List UInt8) (d : Directive) : ReadState → Except Error Directive
  | .levelOrTarget => do return d.withLevelOrTarget (← cut whole 0 whole.length)
  | .level first => do d.withThreshold (← cut whole first whole.length)
  | .target | .complete => .ok d
  | _ => .error .malformed

def read (whole : List UInt8) (i : Nat) (d : Directive) (state : ReadState) :
    List Char → Except Error Directive
  | [] => d.finish whole state
  | c :: cs => do
    let (d, state) ← readChar whole i c d state
    read whole (i + c.utf8Size) d state cs

/-- Blanks at the ends are passed over when the parts are found, but places count
from the start of the text they are cut from. -/
def ofText (s : String) : Except Error Directive :=
  read (Text.utf8 s.toList) 0 everything .start (Text.trim s).toList

/-- Directives that ask for a span, or for the value of a field, cover no entry:
nothing is ever logged inside a span. -/
def isStatic (d : Directive) : Bool := d.span.isNone && d.fields.all (·.value.isNone)

/-- A target covers every target that begins with it. The message counts as a field. -/
def covers (d : Directive) (entry : Entry) : Bool :=
  d.isStatic &&
    (match d.target with
      | none => true
      | some target => target.toList.isPrefixOf entry.target.toList) &&
    d.fields.all fun field =>
      field.name == "message" || entry.fields.any (·.1 == field.name)

/-- A longer target comes before a shorter one, and more fields before fewer; then the
later in the order of the alphabet comes first. -/
def order (d e : Directive) : Ordering :=
  let targetSize (d : Directive) : Nat := (d.target.map fun t => t.utf8ByteSize + 1).getD 0
  let names (d : Directive) : List String := d.target.getD "" :: d.fields.map (·.name)
  (compare (targetSize d) (targetSize e)).then <|
    (compare d.fields.length e.fields.length).then <|
      if names d < names e then .lt else if names e < names d then .gt else .eq

/-- Whether the other directive decides where both apply, if it is the later one. -/
def yieldsTo (d e : Directive) : Bool := d.order e != .gt

end Directive

abbrev Filter := List Directive

namespace Filter

/-- Of directives that are equally specific the later one decides. -/
def deciding? (filter : Filter) (entry : Entry) : Option Directive :=
  filter.foldl (fun best d =>
    if d.covers entry then
      match best with
      | some b => if b.yieldsTo d then some d else some b
      | none => some d
    else best) none

def admits (filter : Filter) (entry : Entry) : Bool :=
  match filter.deciding? entry with
  | some d => d.threshold.admits entry.level
  | none => false

/-- Directives between commas, each with its text. -/
def readList (texts : String) : List (String × Except Directive.Error Directive) :=
  ((texts.splitOn ",").filter (!·.isEmpty)).map fun text => (text, Directive.ofText text)

/-- The directives of a list that can be read. -/
def ofList (texts : String) : Filter :=
  (readList texts).filterMap fun (_, read) => read.toOption

/-- What there is to say about the others. -/
def notices (texts : String) : List String :=
  (readList texts).filterMap fun (text, read) =>
    match read with
    | .ok _ => none
    | .error e => some ("ignoring `" ++ text ++ "`: " ++ e.message)

/-- The default is for when no directive is set. -/
def withDefault (filter : Filter) (default : Directive) : Filter :=
  if filter.isEmpty then [default] else filter

end Filter
end AlertSound.Log
