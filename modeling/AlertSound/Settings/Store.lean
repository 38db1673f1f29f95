import AlertSound.Collaborators
import AlertSound.Json.Dictionary
import AlertSound.Text.Blank

/-!
The settings store: texts by key, kept in memory and, if the store was opened
from a file, written back to it after every change. A change that cannot be
written back still counts in memory.
-/
namespace AlertSound

structure SettingsStore where
  values : Dictionary
  file : Option File.Path

namespace SettingsStore

def inMemory : SettingsStore := ⟨.empty, none⟩

/-- A file that is missing or blank holds no settings. -/
def load (tree : FileTree) (file : File.Path) : Except SettingsError SettingsStore :=
  match tree.readText file with
  | .error .notFound => .ok ⟨.empty, some file⟩
  | .error cause => .error (.io cause)
  | .ok raw =>
    if Text.isBlankText raw then .ok ⟨.empty, some file⟩
    else
      match Dictionary.ofJson raw with
      | .ok values => .ok ⟨values, some file⟩
      | .error failure => .error (.format failure)

def loadedEntry (store : SettingsStore) (file : File.Path) : Log.Entry where
  level := .debug
  target := "settings"
  message := "settings loaded"
  fields := [("path", .shown (File.display file)),
    ("entries", .shown (toString store.values.size))]

def get? (store : SettingsStore) (key : String) : Option String := store.values.get? key

/-- A value that is set without being written back. -/
def withValue (store : SettingsStore) (key value : String) : SettingsStore :=
  { store with values := store.values.insert key value }

def persist (store : SettingsStore) (tree : FileTree) : Except SettingsError FileTree :=
  match store.file with
  | none => .ok tree
  | some file => (tree.write file (File.ofText store.values.toJson)).mapError .io

def put (store : SettingsStore) (tree : FileTree) (key value : String) :
    Except SettingsError Unit × SettingsStore × FileTree :=
  let store := store.withValue key value
  match store.persist tree with
  | .ok tree => (.ok (), store, tree)
  | .error e => (.error e, store, tree)

end SettingsStore
end AlertSound
