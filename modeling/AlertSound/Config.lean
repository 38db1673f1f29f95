import AlertSound.Locator.Kind
import AlertSound.Text.Blank
import AlertSound.Text.Decimal
import AlertSound.Text.Quoted
import AlertSound.Text.Utf8

/-!
Configuration: the labels of titles, which slots are restored to which shipped
files, and how an option, the environment and a default decide a value. An
option wins over the environment; an environment value that cannot be read is an
error and not the default.
-/
namespace AlertSound

inductive ConfigError where
  | restoreSlots (count : UInt8)
  | emptyLabel
  | missingPlaceholder
  | notBool (key value : String)
  | notNumber (key value : String)

def ConfigError.message : ConfigError → String
  | .restoreSlots count =>
    "restore slots must be between 1 and " ++ toString ringtoneSlots.toNat ++ ", got " ++
      toString count.toNat
  | .emptyLabel => "title labels must not be empty"
  | .missingPlaceholder => "default-with-title label must contain \x7btitle\x7d"
  | .notBool key value => key ++ " must be true or false, got " ++ Text.quoted value
  | .notNumber key value => key ++ " must be a number, got " ++ Text.quoted value

/-- How many ringtone slots, from the first, are restored. -/
structure RestoreSlots where
  count : UInt8
  deriving DecidableEq

namespace RestoreSlots

def ordinary : RestoreSlots := ⟨2⟩

def new (count : UInt8) : Except ConfigError RestoreSlots :=
  if count = 0 || ringtoneSlots < count then .error (.restoreSlots count) else .ok ⟨count⟩

/-- The slots of the count that exist. -/
def kinds (slots : RestoreSlots) : List DefaultKind :=
  (List.range slots.count.toNat).filterMap fun slot => DefaultKind.ringtone? (UInt8.ofNat slot)

end RestoreSlots

/-- Texts shown in place of a title, or around one. -/
structure Labels where
  default : String
  defaultWithActual : String
  unknown : String
  deriving DecidableEq

namespace Labels

def placeholder : List Char := "\x7btitle\x7d".toList

def ordinary : Labels :=
  { default := "Default ringtone"
    defaultWithActual := "Default (\x7btitle\x7d)"
    unknown := "Unknown ringtone" }

/-- `text` with every placeholder, from the left, replaced by `title`. -/
def fill (title : List Char) : List Char → List Char
  | [] => []
  | c :: cs =>
    if placeholder.isPrefixOf (c :: cs) then
      title ++ fill title (cs.drop (placeholder.length - 1))
    else c :: fill title cs
termination_by text => text.length
decreasing_by all_goals simp only [List.length_drop, List.length_cons]; omega

def hasPlaceholder : List Char → Bool
  | [] => false
  | c :: cs => placeholder.isPrefixOf (c :: cs) || hasPlaceholder cs

def new (default defaultWithActual unknown : String) : Except ConfigError Labels :=
  if Text.isBlankText default || Text.isBlankText defaultWithActual || Text.isBlankText unknown then
    .error .emptyLabel
  else if !hasPlaceholder defaultWithActual.toList then .error .missingPlaceholder
  else .ok { default, defaultWithActual, unknown }

def withActual (labels : Labels) (title : String) : String :=
  String.ofList (fill title.toList labels.defaultWithActual.toList)

end Labels

/-- Shipped files by the kind they are the default of. -/
abbrev FileNames := List (DefaultKind × String)

def FileNames.get? (names : FileNames) (kind : DefaultKind) : Option String :=
  List.lookup kind names

structure RestoreConfig where
  enabled : Bool
  slots : RestoreSlots
  fileNames : FileNames

def RestoreConfig.ordinary : RestoreConfig := ⟨false, .ordinary, []⟩

structure Config where
  allowRemote : Bool
  labels : Labels
  restore : RestoreConfig

def Config.ordinary : Config := ⟨true, .ordinary, .ordinary⟩

/-- The variables that are set. -/
abbrev Environment := List (String × SystemText)

namespace Environment

instance : Coe (List (String × String)) Environment :=
  ⟨List.map fun (key, value) => (key, .ofText value)⟩

def raw? (env : Environment) (key : String) : Option SystemText := List.lookup key env

/-- A variable that is not UTF-8 counts as not set. -/
def get? (env : Environment) (key : String) : Option String := (env.raw? key).bind SystemText.text?

end Environment

namespace Config

def allowRemoteKey : String := "RINGTONE_ALLOW_REMOTE"

def customizedKey : String := "RINGTONE_SOUND_CUSTOMIZED"

def restoreSlotsKey : String := "RINGTONE_RESTORE_SLOTS"

/-- The variable that names the shipped file of a kind. -/
def fileNameKey (kind : DefaultKind) : String :=
  "RINGTONE_DEFAULT_" ++ String.ofList (kind.settingKey.toList.map Char.toUpper)

def boolWord? (word : String) : Option Bool :=
  if ["1", "true", "yes", "on"].contains word then some true
  else if ["0", "false", "no", "off"].contains word then some false
  else none

def resolveBool (option : Option Bool) (key : String) (env : Environment) (default : Bool) :
    Except ConfigError Bool :=
  match option, env.get? key with
  | some value, _ => .ok value
  | none, none => .ok default
  | none, some raw =>
    match boolWord? (String.ofList ((Text.trim raw).toList.map Char.toLower)) with
    | some value => .ok value
    | none => .error (.notBool key raw)

def resolveRestoreSlots (option : Option UInt8) (env : Environment) :
    Except ConfigError RestoreSlots :=
  match option, env.get? restoreSlotsKey with
  | some count, _ => RestoreSlots.new count
  | none, none => RestoreSlots.new RestoreSlots.ordinary.count
  | none, some raw =>
    match Text.uint8? (Text.trim raw) with
    | some count => RestoreSlots.new count
    | none => .error (.notNumber restoreSlotsKey raw)

/-- A blank name counts as none. -/
def resolveFileNames (customized : FileNames) (env : Environment) : FileNames :=
  let given (name : Option String) := name.filter fun name => !Text.isBlankText name
  DefaultKind.all.filterMap fun kind =>
    (given (customized.get? kind) <|> given (env.get? (fileNameKey kind))).map (kind, ·)

end Config
end AlertSound
