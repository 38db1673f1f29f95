import AlertSound.Collaborators

/-!
The bundled sound as a file of a directory, open from its start and as long as
the file is.
-/
namespace AlertSound

structure AssetDirectory where
  directory : File.Path
  name : String

namespace AssetDirectory

def ordinaryName : String := "fallbackring.ogg"

def path (assets : AssetDirectory) : File.Path :=
  File.join assets.directory (File.ofText assets.name)

def openAsset (assets : AssetDirectory) (tree : FileTree) : Except AssetError Asset :=
  match tree.openPath assets.path with
  | .error .notFound => .error (.notFound (File.display assets.path))
  | .error cause => .error (.io cause)
  | .ok file => .ok { file, offset := 0, length := some (UInt64.ofNat file.size) }

end AssetDirectory
end AlertSound
