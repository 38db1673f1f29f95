import AlertSound.Attributes

/-!
Volume levels by stream; a stream without a level of its own has the common one.
-/
namespace AlertSound

structure VolumeTable where
  common : Nat
  levels : List (SoundStream × Nat)

namespace VolumeTable

def uniform (level : Nat) : VolumeTable := ⟨level, []⟩

def withStream (table : VolumeTable) (stream : SoundStream) (level : Nat) : VolumeTable :=
  { table with levels := (stream, level) :: table.levels }

def level (table : VolumeTable) (stream : SoundStream) : Nat :=
  (List.lookup stream table.levels).getD table.common

end VolumeTable
end AlertSound
