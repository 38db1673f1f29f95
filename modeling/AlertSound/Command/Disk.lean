import AlertSound.Command.Run

/-!
What a run of the command looks at outside of itself: the variables it reads, the
files and directories that its options name, and those that stored settings name.
-/
namespace AlertSound.Command

def environmentKeys : List String :=
  [Config.allowRemoteKey, Config.customizedKey, Config.restoreSlotsKey] ++
    DefaultKind.all.map Config.fileNameKey

namespace Options

def directories (options : Options) : List File.Path :=
  [options.internalDir] ++ options.externalDir.toList

def asset (options : Options) : File.Path :=
  AssetDirectory.path { directory := options.assetDir, name := options.fallbackAsset }

def filePath? (locator : String) : Option File.Path :=
  match Locator.parse locator with
  | .ok r => r.filePath?
  | .error _ => none

/-- The sound itself and the default sounds, where they are files. -/
def sounds (options : Options) (tree : FileTree) : List File.Path :=
  let stored := match options.loadSettings tree with
    | .ok (settings, _) => DefaultKind.all.filterMap fun kind => settings.get? kind.settingKey
    | .error _ => []
  (options.sound.toList ++ stored).filterMap filePath?

end Options
end AlertSound.Command
