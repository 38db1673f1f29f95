import AlertSound.Text.Quoted

/-!
Log entries: a level, where the entry comes from, a message and named values.
-/
namespace AlertSound.Log

inductive Level where
  | trace
  | debug
  | info
  | warn
  | error
  deriving DecidableEq

def Level.name : Level → String
  | .trace => "TRACE"
  | .debug => "DEBUG"
  | .info => "INFO"
  | .warn => "WARN"
  | .error => "ERROR"

/-- From the most to the least detailed. -/
def Level.rank : Level → Nat
  | .trace => 0
  | .debug => 1
  | .info => 2
  | .warn => 3
  | .error => 4

/-- A `text` is quoted where entries are written for people to read; a value that
is already `shown` stays as it is. -/
inductive FieldValue where
  | text (s : String)
  | shown (s : String)
  deriving DecidableEq

def FieldValue.plain : FieldValue → String
  | .text s | .shown s => s

def FieldValue.quoted : FieldValue → String
  | .text s => Text.quoted s
  | .shown s => s

structure Entry where
  level : Level
  target : String
  message : String
  fields : List (String × FieldValue)
  deriving DecidableEq

def Entry.fieldsText (value : FieldValue → String) (entry : Entry) : String :=
  String.join (entry.fields.map fun (name, field) => " " ++ name ++ "=" ++ value field)

/-- The entry as a line for people to read; levels end at the same column. -/
def Entry.line (time : String) (entry : Entry) : String :=
  time ++ " " ++ "".pushn ' ' (5 - entry.level.name.length) ++ entry.level.name ++ " " ++
    entry.target ++ ": " ++ entry.message ++ entry.fieldsText FieldValue.quoted

end AlertSound.Log
