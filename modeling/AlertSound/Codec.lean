import AlertSound.Attributes
import AlertSound.Config
import AlertSound.Json.Reader
import AlertSound.Json.Value
import AlertSound.Locator.Basic
import AlertSound.Remote.Token

/-!
The JSON forms of the domain's values. Nothing but the form is checked on
reading: labels and slot counts read from JSON need not be ones that `new` makes.
-/
namespace AlertSound

structure Codec (α : Type) where
  read : Json.Reader α
  write : α → Json.Value

namespace Codec

def ofJson {α : Type} (codec : Codec α) (s : String) : Except Json.Failure α :=
  Json.whole codec.read s

def toJson {α : Type} (codec : Codec α) (value : α) : String := (codec.write value).text

/-- Named constants. -/
def ofNames {α : Type} (all : List α) (name : α → String) : Codec α where
  read := Json.alternative (all.map fun value => Json.unitAlternative (name value) value)
  write value := .string (name value)

def usage : Codec Usage := ofNames Usage.all Usage.name

def content : Codec Content := ofNames Content.all Content.name

def stream : Codec SoundStream := ofNames SoundStream.all SoundStream.name

def originName : Origin → String
  | .localFile => "LocalFile"
  | .mediaIndex => "MediaIndex"
  | .drmIndex => "DrmIndex"
  | .settingsDefault => "SettingsDefault"

def origin : Codec Origin :=
  ofNames [.localFile, .mediaIndex, .drmIndex, .settingsDefault] originName

def storageName : Storage → String
  | .inside => "Internal"
  | .outside => "External"

def storage : Codec Storage := ofNames [.inside, .outside] storageName

def restoreSlots : Codec RestoreSlots where
  read cs := (Json.uint8 cs).map fun (count, rest) => (⟨count⟩, rest)
  write slots := .number slots.count.toNat

def token : Codec Token where
  read cs := (Json.uint64 cs).map fun (raw, rest) => (⟨raw⟩, rest)
  write token := .number token.raw.toNat

/-- A field of a record under construction. -/
def field {ρ β : Type} (name : String) (read : Json.Reader β) (get : ρ → Option β)
    (set : ρ → β → ρ) : Json.Field ρ :=
  { name
    isSet := fun record => (get record).isSome
    read := fun record cs => (read cs).map fun (value, rest) => (set record value, rest) }

def slotReader : Json.Reader DefaultKind :=
  Json.record [field "slot" Json.uint8 id fun _ slot => some slot] none
    fun slot => slot.map DefaultKind.ringtone

def defaultKind : Codec DefaultKind where
  read := Json.alternative [
    { name := "Ringtone", plain? := none, payload := slotReader },
    Json.unitAlternative "Notification" .notification,
    Json.unitAlternative "MmsNotification" .messageNotification,
    Json.unitAlternative "Alarm" .alarm]
  write
    | .ringtone slot => .object [("Ringtone", .object [("slot", .number slot.toNat)])]
    | .notification => .string "Notification"
    | .messageNotification => .string "MmsNotification"
    | .alarm => .string "Alarm"

/-- Attributes as far as they have been read; a stream that was read may be none. -/
structure PartialAttributes where
  usage : Option Usage := none
  content : Option Content := none
  stream : Option (Option SoundStream) := none

def attributeFields : List (Json.Field PartialAttributes) := [
  field "usage" usage.read (·.usage) fun p usage => { p with usage := some usage },
  field "content_type" content.read (·.content) fun p content => { p with content := some content },
  field "legacy_stream" (Json.optional stream.read) (·.stream) fun p stream =>
    { p with stream := some stream }]

def attributes : Codec Attributes where
  read := Json.record attributeFields {} fun p => do
    return ⟨← p.usage, ← p.content, p.stream.join⟩
  write a := .object [
    ("usage", usage.write a.usage),
    ("content_type", content.write a.content),
    ("legacy_stream", (a.legacyStream.map stream.write).getD .null)]

structure PartialLabels where
  default : Option String := none
  defaultWithActual : Option String := none
  unknown : Option String := none

def labelFields : List (Json.Field PartialLabels) := [
  field "default_label" Json.string (·.default) fun p s => { p with default := some s },
  field "default_with_actual" Json.string (·.defaultWithActual) fun p s =>
    { p with defaultWithActual := some s },
  field "unknown" Json.string (·.unknown) fun p s => { p with unknown := some s }]

def labels : Codec Labels where
  read := Json.record labelFields {} fun p => do
    return ⟨← p.default, ← p.defaultWithActual, ← p.unknown⟩
  write l := .object [
    ("default_label", .string l.default),
    ("default_with_actual", .string l.defaultWithActual),
    ("unknown", .string l.unknown)]

end Codec
end AlertSound
