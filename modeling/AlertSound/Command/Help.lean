import AlertSound.Command.Options

/-!
The text that tells how the command is used.
-/
namespace AlertSound.Command

def usage : String := "Usage: ringtone [OPTIONS]"

/-- The name of a value, as the help shows it. -/
def placeholder (name : String) : String :=
  "<" ++ String.ofList (name.toList.map fun c => if c = '-' then '_' else c.toUpper) ++ ">"

def Parameter.about : Parameter → String
  | .sound => "Sound locator: a content:// reference, file:// URL or absolute path"
  | .internalDir => "Directory of the sounds that are shipped"
  | .externalDir => "Directory of the sounds that are added"
  | .settings => "JSON file holding default sound settings. In-memory when omitted"
  | .assetDir => "Directory of the bundled sound"
  | .fallbackAsset => "File name of the bundled sound"
  | .volume => "Volume of every stream"
  | .streamType => "Legacy stream number applied before playing"
  | .soundCustomized => "Whether missing default sounds are restored"
  | .defaultRingtone => "Shipped file name the first ringtone slot is restored to"
  | .restoreSlots => "How many ringtone slots are restored"
  | .outputDevice => "Name of the audio device"
  | .playMs => "How long to play at most, in milliseconds"
  | .logLevel => "Level of the log"

def Switch.about : Switch → String
  | .noRemote => "Never hand sounds to the remote player"
  | .dryRun => "Open sounds without an audio device"
  | .titleOnly => "Show the title and play nothing"
  | .listDevices => "List the audio devices"

def optionHelp (form about : String) (environmentKey? : Option String) : String :=
  let note := match environmentKey? with
    | some key => " [env: " ++ key ++ "]"
    | none => ""
  "      " ++ form ++ "\n          " ++ about ++ note ++ "\n"

def helpText : String :=
  "Resolve and play a ringtone, notification or alarm sound\n\n" ++ usage ++ "\n\nOptions:\n" ++
    String.join (Parameter.all.map fun p =>
      optionHelp ("--" ++ p.name ++ " " ++ placeholder p.name) p.about p.environmentKey?) ++
    String.join (Switch.all.map fun s => optionHelp ("--" ++ s.name) s.about none) ++
    "  -h, --" ++ helpName ++ "\n          Print help\n"

end AlertSound.Command
