import AlertSound.File.Tree
import AlertSound.Index.Cursor

/-!
The media index of sound directories. The audio files of a directory, in the
order of their names' bytes, have the ids 1, 2, 3 and so on; they are counted
anew for every query. A file that no directory holds is still found by its path,
with the id 0. Protected sounds are not indexed here.
-/
namespace AlertSound

structure SoundDirectories where
  inside : File.Path
  outside : Option File.Path

namespace SoundDirectories

structure Entry where
  id : Int
  path : File.Path

def audioExtensions : List String := ["ogg", "oga", "mp3", "wav", "flac", "m4a", "aac"]

def isAudioName (name : File.Path) : Bool :=
  match (File.splitExtension name).2.bind Text.ofUtf8? with
  | some extension => audioExtensions.contains (String.ofList (extension.map Char.toLower))
  | none => false

def Entry.displayName (e : Entry) : String := ((File.lastName? e.path).map File.display).getD ""

def Entry.title (e : Entry) : String :=
  ((File.lastName? e.path).map fun name => File.display (File.splitExtension name).1).getD ""

def Entry.cell (e : Entry) : Column → String
  | .id => toString e.id
  | .data => File.display e.path
  | .title => e.title
  | .displayName => e.displayName

def Entry.row (e : Entry) (columns : List Column) : Row := columns.map fun c => some (e.cell c)

/-- Names in the order of their bytes; of two that begin alike the shorter comes first. -/
def precedes : File.Path → File.Path → Bool
  | [], _ => true
  | _ :: _, [] => false
  | a :: as, b :: bs => a < b || (a == b && precedes as bs)

def number (directory : File.Path) (first : Int) : List File.Path → List Entry
  | [] => []
  | name :: names =>
    { id := first, path := File.join directory name } :: number directory (first + 1) names

def scan (tree : FileTree) (directory : File.Path) : Except QueryError (List Entry) :=
  match tree.list directory with
  | .error .permissionDenied => .error (.permissionDenied (File.display directory))
  | .error cause => .error (.unavailable (File.display directory ++ ": " ++ cause.message))
  | .ok listed =>
    let names := listed.filter fun name =>
      tree.isFile (File.join directory name) && isAudioName name
    .ok (number directory 1 (names.mergeSort precedes))

def directory? (index : SoundDirectories) : Storage → Option File.Path
  | .inside => some index.inside
  | .outside => index.outside

def queryMedia (index : SoundDirectories) (tree : FileTree) (r : Locator)
    (columns : List Column) : Except QueryError (List Row) :=
  match r.storage?.bind index.directory?, r.id? with
  | none, _ => .ok []
  | some directory, some id => do
    let entries ← scan tree directory
    return (entries.filter fun e => e.id == id.toInt).map fun e => e.row columns
  | some directory, none =>
    if r.lastName? == some "media" then do
      return (← scan tree directory).map fun e => e.row columns
    else .ok []

def queryFile (tree : FileTree) (r : Locator) (columns : List Column) : List Row :=
  match r.filePath? with
  | some path => if tree.isFile path then [Entry.row { id := 0, path } columns] else []
  | none => []

def query (index : SoundDirectories) (tree : FileTree) (r : Locator) (columns : List Column) :
    Except QueryError (List Row) :=
  match r.origin with
  | .mediaIndex => index.queryMedia tree r columns
  | .localFile => .ok (queryFile tree r columns)
  | .drmIndex => .error (.permissionDenied r.text)
  | .settingsDefault => .ok []

/-- The shipped sounds of a name; a row holds the id alone. -/
def find (index : SoundDirectories) (tree : FileTree) (name : String) :
    Except QueryError (List Row) := do
  let entries ← scan tree index.inside
  return (entries.filter fun e => e.displayName == name).map fun e => e.row [.id]

end SoundDirectories
end AlertSound
