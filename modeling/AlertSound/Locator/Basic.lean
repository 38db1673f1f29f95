import AlertSound.Locator.Kind
import AlertSound.Text.Blank
import AlertSound.Text.Quoted
import AlertSound.Url.Parse

/-!
Sound locators: a file, an entry of the media or of the protected index, or the
default sound of a kind. A locator is a URL whose origin is known. Bare absolute
paths are read as files. The canonical form names the same sound without query,
fragment and empty path segments.
-/
namespace AlertSound

inductive Origin where
  | localFile
  | mediaIndex
  | drmIndex
  | settingsDefault
  deriving DecidableEq

/-- The two volumes of the media index. -/
inductive Storage where
  | inside
  | outside
  deriving DecidableEq

def Storage.name : Storage → String
  | .inside => "internal"
  | .outside => "external"

structure Locator where
  url : Url
  origin : Origin
  deriving DecidableEq

inductive Locator.Error where
  | invalid (input : String) (reason : Url.Error)
  | unsupported (locator : String)
  | relativePath (path : String)

namespace Locator

def Error.message : Error → String
  | .invalid input reason => "invalid locator " ++ Text.quoted input ++ ": " ++ reason.message
  | .unsupported locator => "unsupported locator authority in " ++ locator
  | .relativePath path => "file locator must be an absolute path: " ++ path

def Origin.ofUrl? (url : Url) : Option Origin :=
  if url.scheme = "file" then some .localFile
  else if url.scheme = "content" then
    match url.hostText? with
    | some "media" => some .mediaIndex
    | some "drm" => some .drmIndex
    | some "settings" => some .settingsDefault
    | _ => none
  else none

def ofUrl (url : Url) : Except Error Locator :=
  match Origin.ofUrl? url with
  | some origin => .ok { url, origin }
  | none => .error (.unsupported url.toText)

def ofPath (path : List UInt8) : Except Error Locator :=
  match Url.ofFilePath? path with
  | some url => ofUrl url
  | none => .error (.relativePath (String.ofList (Text.ofUtf8Lossy path)))

/-- Blanks around the text are ignored. -/
def parse (s : String) : Except Error Locator :=
  let trimmed := Text.trim s
  if trimmed.toList.head? == some '/' then ofPath (Text.utf8 trimmed.toList)
  else
    match Url.parse trimmed with
    | .ok url => ofUrl url
    | .error reason => .error (.invalid trimmed reason)

def content (host : String) (origin : Origin) (names : List String) : Locator :=
  let site : Url.Site := { username := "", password := "", host := .name host, port := none }
  let url : Url :=
    { scheme := "content", authority := .named site, path := .rooted [], query := none,
      fragment := none }
  { url := url.withNames names, origin }

def media (storage : Storage) (id : Int64) : Locator :=
  content "media" .mediaIndex [storage.name, "audio", "media", toString id.toInt]

def drm (id : Int64) : Locator := content "drm" .drmIndex ["audio", toString id.toInt]

def settingsDefault (kind : DefaultKind) : Locator :=
  content "settings" .settingsDefault ["system", kind.settingKey]

def text (r : Locator) : String := r.url.toText

/-- The path segments that are not empty, as written. -/
def names (r : Locator) : List String :=
  (r.url.segments?.getD []).filter fun segment => !segment.isEmpty

/-- The last name with its escapes read, or as written if it is not UTF-8. -/
def lastName? (r : Locator) : Option String :=
  r.names.getLast?.map fun name =>
    match Text.ofUtf8? (Text.percentDecode name.toList) with
    | some decoded => String.ofList decoded
    | none => name

def id? (r : Locator) : Option Int64 :=
  match r.origin with
  | .mediaIndex | .drmIndex => r.lastName?.bind Text.int64?
  | _ => none

def storage? (r : Locator) : Option Storage :=
  match r.origin, r.names.head? with
  | .mediaIndex, some "internal" => some .inside
  | .mediaIndex, some "external" => some .outside
  | _, _ => none

def defaultKind? (r : Locator) : Option DefaultKind :=
  match r.origin with
  | .settingsDefault => r.lastName?.bind DefaultKind.ofSettingKey?
  | _ => none

def filePath? (r : Locator) : Option (List UInt8) :=
  match r.origin with
  | .localFile => r.url.filePath?
  | _ => none

/-- The form handed to another player. -/
def canonical (r : Locator) : Locator :=
  let bare := { r.url with query := none, fragment := none }
  { url := if r.names.isEmpty then bare else bare.withNames r.names, origin := r.origin }

end Locator
end AlertSound
