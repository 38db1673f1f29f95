import AlertSound.Text.Utf8

/-!
The arguments of a command line. An option is a switch, which stands alone, or a
parameter, which has a value: `--name value` or `--name=value`. Each is given at
most once, and there are no other arguments. Reading goes from the first argument
on and ends at the first fault, or where help is asked for.
-/
namespace AlertSound.Command

inductive Switch where
  | noRemote
  | dryRun
  | titleOnly
  | listDevices
  deriving DecidableEq

namespace Switch

def name : Switch → String
  | .noRemote => "no-remote"
  | .dryRun => "dry-run"
  | .titleOnly => "title-only"
  | .listDevices => "list-devices"

def all : List Switch := [.noRemote, .dryRun, .titleOnly, .listDevices]

def ofName? (name : String) : Option Switch := all.find? fun s => s.name == name

end Switch

inductive Parameter where
  | sound
  | internalDir
  | externalDir
  | settings
  | assetDir
  | fallbackAsset
  | volume
  | streamType
  | soundCustomized
  | defaultRingtone
  | restoreSlots
  | outputDevice
  | playMs
  | logLevel
  deriving DecidableEq

namespace Parameter

def name : Parameter → String
  | .sound => "sound"
  | .internalDir => "internal-dir"
  | .externalDir => "external-dir"
  | .settings => "settings"
  | .assetDir => "asset-dir"
  | .fallbackAsset => "fallback-asset"
  | .volume => "volume"
  | .streamType => "stream-type"
  | .soundCustomized => "sound-customized"
  | .defaultRingtone => "default-ringtone"
  | .restoreSlots => "restore-slots"
  | .outputDevice => "output-device"
  | .playMs => "play-ms"
  | .logLevel => "log-level"

def all : List Parameter :=
  [.sound, .internalDir, .externalDir, .settings, .assetDir, .fallbackAsset, .volume, .streamType,
    .soundCustomized, .defaultRingtone, .restoreSlots, .outputDevice, .playMs, .logLevel]

def ofName? (name : String) : Option Parameter := all.find? fun p => p.name == name

end Parameter

inductive Misuse where
  | unexpectedArgument (argument : SystemText)
  | unexpectedValue (s : Switch) (value : SystemText)
  | missingValue (p : Parameter)
  | invalidValue (p : Parameter) (value : SystemText)
  | repeated (name : String)
  | missingParameter (p : Parameter)
  deriving DecidableEq

def Misuse.message : Misuse → String
  | .unexpectedArgument argument => "unexpected argument: " ++ argument.shown
  | .unexpectedValue s value => "--" ++ s.name ++ " takes no value: " ++ value.shown
  | .missingValue p => "--" ++ p.name ++ " needs a value"
  | .invalidValue p value => "invalid value for --" ++ p.name ++ ": " ++ value.shown
  | .repeated name => "--" ++ name ++ " is given more than once"
  | .missingParameter p => "--" ++ p.name ++ " is required"

/-- What keeps the command from running. -/
inductive Stop where
  | help
  | misuse (m : Misuse)
  deriving DecidableEq

inductive Given where
  | switch (s : Switch)
  | parameter (p : Parameter) (value : SystemText)
  deriving DecidableEq

def Given.name : Given → String
  | .switch s => s.name
  | .parameter p _ => p.name

def dash : UInt8 := 0x2d

def equalsSign : UInt8 := 0x3d

/-- The form of an argument. -/
inductive Argument where
  | terminator
  | long (name : SystemText) (value : Option SystemText)
  | short (letters : List UInt8)
  | plain (text : SystemText)

/-- A lone dash is a plain text. -/
def Argument.ofText (text : SystemText) : Argument :=
  match text.bytes with
  | [] | [_] => .plain text
  | b :: c :: bytes =>
    if b ≠ dash then .plain text
    else if c ≠ dash then .short (c :: bytes)
    else if bytes.isEmpty then .terminator
    else
      match bytes.span (· != equalsSign) with
      | (name, []) => .long ⟨name⟩ none
      | (name, _ :: value) => .long ⟨name⟩ (some ⟨value⟩)

def helpName : String := "help"

def helpLetter : UInt8 := 0x68

/-- The options that are given, and what ends the reading early. A value on its own
cannot look like an option. -/
def scan : List SystemText → List Given × Option Stop
  | [] => ([], none)
  | argument :: rest =>
    match Argument.ofText argument with
    | .terminator => ([], rest.head?.map fun text => .misuse (.unexpectedArgument text))
    | .plain text => ([], some (.misuse (.unexpectedArgument text)))
    | .short letters =>
      ([], some (if letters.head? == some helpLetter then .help
        else .misuse (.unexpectedArgument argument)))
    | .long name value =>
      match name.text?.bind Switch.ofName?, name.text?.bind Parameter.ofName?, value with
      | some s, _, none =>
        let (given, stop) := scan rest
        (.switch s :: given, stop)
      | some s, _, some value => ([], some (.misuse (.unexpectedValue s value)))
      | none, some p, some value =>
        let (given, stop) := scan rest
        (.parameter p value :: given, stop)
      | none, some p, none =>
        match rest with
        | [] => ([], some (.misuse (.missingValue p)))
        | text :: rest =>
          match Argument.ofText text with
          | .plain value =>
            let (given, stop) := scan rest
            (.parameter p value :: given, stop)
          | _ => ([], some (.misuse (.missingValue p)))
      | none, none, value =>
        ([], some (if name.text? == some helpName && value.isNone then .help
          else .misuse (.unexpectedArgument argument)))

end AlertSound.Command
