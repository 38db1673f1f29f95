import AlertSound.Text.Utf8

/-!
File paths. A path is bytes, with slashes between its names; a name may hold any
byte but the slash and zero.
-/
namespace AlertSound.File

abbrev Path := List UInt8

def slash : UInt8 := 0x2f

def dot : UInt8 := 0x2e

def ofText (s : String) : Path := Text.utf8 s.toList

/-- Bytes that are not UTF-8 are shown as replacement characters. -/
def display (path : Path) : String := String.ofList (Text.ofUtf8Lossy path)

def isAbsolute (path : Path) : Bool := path.head? == some slash

/-- The parts between slashes; empty ones stand for repeated slashes. -/
def parts : Path → List Path
  | [] => [[]]
  | b :: bs =>
    match parts bs with
    | [] => [[b]]
    | part :: rest => if b = slash then [] :: part :: rest else (b :: part) :: rest

def names (path : Path) : List Path := (parts path).filter fun name => !name.isEmpty

/-- `path` seen from `directory`; an absolute path stands for itself. -/
def join (directory path : Path) : Path :=
  if isAbsolute path then path
  else if directory.isEmpty || directory.getLast? == some slash then directory ++ path
  else directory ++ slash :: path

/-- The last name, unless the path ends in `..`. Trailing dots and slashes do not count. -/
def lastName? (path : Path) : Option Path :=
  match ((names path).filter (· != [dot])).getLast? with
  | some name => if name = [dot, dot] then none else some name
  | none => none

/-- A name before and after its last dot. A dot at the start begins no extension. -/
def splitExtension (name : Path) : Path × Option Path :=
  match name.reverse.span (· != dot) with
  | (_, []) => (name, none)
  | (_, [_]) => (name, none)
  | (back, _ :: front) => (front.reverse, some back.reverse)

end AlertSound.File
