import AlertSound.Json.Reader

/-!
Texts by key, as settings are kept: ascending keys, each once. The written form
is an object with one member to a line. Of two members with one key the later
counts when it is read back.
-/
namespace AlertSound

structure Dictionary where
  entries : List (String × String)
  deriving DecidableEq

namespace Dictionary

def empty : Dictionary := ⟨[]⟩

def get? (d : Dictionary) (key : String) : Option String := List.lookup key d.entries

def insertEntry (key value : String) : List (String × String) → List (String × String)
  | [] => [(key, value)]
  | (k, v) :: rest =>
    if key < k then (key, value) :: (k, v) :: rest
    else if key = k then (key, value) :: rest
    else (k, v) :: insertEntry key value rest

def insert (d : Dictionary) (key value : String) : Dictionary :=
  ⟨insertEntry key value d.entries⟩

def size (d : Dictionary) : Nat := d.entries.length

def memberText (entry : String × String) : List Char :=
  "\n  ".toList ++ Json.literal entry.1 ++ ": ".toList ++ Json.literal entry.2

def chars (d : Dictionary) : List Char :=
  if d.entries.isEmpty then "\x7b\x7d".toList
  else '\x7b' :: ((d.entries.map memberText).intersperse [',']).flatten ++ "\n\x7d".toList

def toJson (d : Dictionary) : String := String.ofList d.chars

/-- The members up to the closing brace. -/
def members : Nat → Bool → Dictionary → List Char → Except Json.Failure (Dictionary × List Char)
  | 0, _, _, _ => .error .truncated
  | fuel + 1, first, d, cs => do
    match ← Json.member first cs with
    | .done rest => .ok (d, rest)
    | .key key rest =>
      let (value, rest) ← Json.string (← Json.colon rest)
      members fuel false (d.insert key value) rest

def reader : Json.Reader Dictionary := Json.start fun cs =>
  match cs with
  | '\x7b' :: rest => members (rest.length + 1) true empty rest
  | cs => .error (Json.otherKind cs)

def ofJson (s : String) : Except Json.Failure Dictionary := Json.whole reader s

end Dictionary
end AlertSound
