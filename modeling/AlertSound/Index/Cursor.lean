import AlertSound.Locator.Basic

/-!
Results of index queries: rows of cells, one of which is current once the cursor
has been moved to the first row. A closed cursor has no cells any more, but it
still counts its rows.
-/
namespace AlertSound

inductive Column where
  | id
  | data
  | title
  | displayName
  deriving DecidableEq

def Column.name : Column → String
  | .id => "Id"
  | .data => "Data"
  | .title => "Title"
  | .displayName => "DisplayName"

/-- The columns a title is looked up with, for the origins that are indexed. -/
def titleColumns? : Origin → Option (List Column)
  | .mediaIndex | .drmIndex => some [.id, .data, .title]
  | .localFile | .settingsDefault => none

inductive QueryError where
  | permissionDenied (what : String)
  | unavailable (what : String)
  deriving DecidableEq

def QueryError.message : QueryError → String
  | .permissionDenied what => "permission denied querying " ++ what
  | .unavailable what => "index unavailable: " ++ what

abbrev Row := List (Option String)

structure Cursor where
  rows : List Row
  position : Option Nat
  closed : Bool

namespace Cursor

def ofRows (rows : List Row) : Cursor := ⟨rows, none, false⟩

def count (c : Cursor) : Nat := c.rows.length

def moveToFirst (c : Cursor) : Bool × Cursor :=
  if c.closed || c.rows.isEmpty then (false, c) else (true, { c with position := some 0 })

def text? (c : Cursor) (column : Nat) : Option String :=
  if c.closed then none
  else do
    let row ← c.rows[← c.position]?
    (row[column]?).join

/-- A cell as a number; blanks around it are ignored. -/
def cellNumber? (cell : Option String) : Option Int64 :=
  cell.bind fun text => Text.int64? (Text.trim text)

def number? (c : Cursor) (column : Nat) : Option Int64 := cellNumber? (c.text? column)

def close (c : Cursor) : Cursor := { c with closed := true }

end Cursor
end AlertSound
