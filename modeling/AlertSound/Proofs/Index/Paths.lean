import AlertSound.Playback.Engine
import AlertSound.Proofs.Host.Store
import AlertSound.Proofs.Index.Numbering

/-!
From an entry of the index to the file that is opened for it. The path of a sound passes
through a cell, which holds text, so that it arrives as it is shown: whole if it is UTF-8,
and as another path if it is not.
-/
namespace AlertSound

open Program

/-- A path is the one that it is shown as if it is UTF-8, and no other path is. -/
theorem File.ofText_display_eq_iff {path : Path} :
    ofText (display path) = path ↔ Text.IsUtf8 path := by
  rw [ofText, display, String.toList_ofList, Text.utf8_ofUtf8Lossy_eq_iff]

namespace Host.Machine

/-- An engine that is given a sound opens the path that there is for it. -/
theorem run_openSource (m : Machine) (output : Output) {r : Locator} (attributes : Attributes)
    {path : File.Path} (told : ((dataPath r).run handler m).1 = .ok (some path)) :
    (((EngineKind.device output).openSource m.tree (.locator r) attributes).run handler m).1 =
      match m.tree.openPath path with
      | .error .permissionDenied => .error (.permissionDenied (File.display path))
      | .error cause => .error (.io cause)
      | .ok node => .ok (.device (some node) none false) := by
  simp only [EngineKind.openSource, EngineKind.load, run_bind, told]
  cases m.tree.openPath path with
  | error cause => cases cause <;> rfl
  | ok node => rfl

/-- The only row for a sound holds the path as it is shown. -/
theorem run_dataPath_media {m : Machine} {index : SoundDirectories} {storage : Storage}
    {directory : File.Path} {place names : List File.Path}
    (directories : m.index = .directories index) (proper : m.tree.Proper)
    (given : index.directory? storage = some directory)
    (sounds : SoundDirectories.Sounds m.tree directory place names) {position : Nat}
    {name : File.Path} (there : names[position]? = some name) {id : Int64}
    (numbered : id.toInt = (position : Int) + 1) :
    ((dataPath (.media storage id)).run handler m).1 =
      .ok (some (File.ofText (File.display (File.join directory name)))) := by
  rw [run_dataPath m (.inl (Locator.origin_media storage id)), directories, IndexSource.query,
    sounds.query_media proper given there numbered]
  rfl

end Host.Machine

namespace SoundDirectories

open Host

/-- The path of a sound leads to a file, the sound's own unless this is a link, and the file
is opened if it may be read. -/
theorem Sounds.openPath_eq {tree : FileTree} {directory name : File.Path}
    {place names : List File.Path} (proper : tree.Proper)
    (sounds : Sounds tree directory place names) (member : name ∈ names) :
    ∃ location content, tree.locate (File.join directory name) = .ok location ∧
      (tree.link? (place ++ [name]) = none → location = place ++ [name]) ∧
      tree.node? location = some (.file content) ∧
      tree.openPath (File.join directory name) =
        if tree.allows location .read then .ok (.file content) else .error .permissionDenied := by
  obtain ⟨content, regular⟩ := ((sounds.mem_iff name).mp member).regular
  obtain ⟨location, leads, found⟩ := FileTree.look_eq_ok.mp regular
  have isName := sounds.isName proper member
  exact ⟨location, content, leads,
    fun unlinked => FileTree.locate_join sounds.leads isName unlinked leads, found,
    FileTree.openPath_eq leads found⟩

/-- Two sounds of a directory have two paths. -/
theorem Sounds.join_ne {tree : FileTree} {directory name name' : File.Path}
    {place names : List File.Path} (proper : tree.Proper)
    (sounds : Sounds tree directory place names) {i j : Nat} (there : names[i]? = some name)
    (there' : names[j]? = some name') (other : i ≠ j) :
    File.join directory name ≠ File.join directory name' := by
  intro same
  have isName := sounds.isName proper (List.mem_of_getElem? there)
  have isName' := sounds.isName proper (List.mem_of_getElem? there')
  obtain rfl := File.join_injective directory isName isName' same
  have once : names.Nodup := sounds.ordered.imp fun {_ _} less => by
    rintro rfl
    exact List.lt_irrefl _ less
  obtain ⟨inside, -⟩ := List.getElem?_eq_some_iff.mp there
  exact other ((List.getElem?_inj inside once).mp (there.trans there'.symm))

/-- The index has one path for every sound: the sound's own as it is shown. That is the
path of its file exactly if this is UTF-8, and then a device engine opens that file, which is
what stands in the directory or what a link there leads to, or is denied it where it may not be
read. Two sounds with such paths have two paths. -/
theorem path_whole_iff_utf8 {m : Machine} {index : SoundDirectories} {storage : Storage}
    {directory : File.Path} {place names : List File.Path}
    (directories : m.index = .directories index) (proper : m.tree.Proper)
    (given : index.directory? storage = some directory)
    (sounds : Sounds m.tree directory place names) :
    (∀ (i : Nat) name, names[i]? = some name → ∀ id : Int64, id.toInt = (i : Int) + 1 →
      ∃ path, ((dataPath (.media storage id)).run Machine.handler m).1 = .ok (some path) ∧
        path = File.ofText (File.display (File.join directory name)) ∧
        (path = File.join directory name ↔ Text.IsUtf8 (File.join directory name)) ∧
        (Text.IsUtf8 (File.join directory name) →
          ∃ location content, m.tree.locate (File.join directory name) = .ok location ∧
            (m.tree.link? (place ++ [name]) = none → location = place ++ [name]) ∧
            m.tree.node? location = some (.file content) ∧
            m.tree.openPath path =
              (if m.tree.allows location .read then .ok (.file content)
                else .error .permissionDenied) ∧
            ∀ output attributes, (((EngineKind.device output).openSource m.tree
              (.locator (.media storage id)) attributes).run Machine.handler m).1 =
                if m.tree.allows location .read then
                  .ok (.device (some (.file content)) none false)
                else .error (.permissionDenied (File.display path)))) ∧
    ∀ (i j : Nat) name name', names[i]? = some name → names[j]? = some name' → i ≠ j →
      Text.IsUtf8 (File.join directory name) → Text.IsUtf8 (File.join directory name') →
      ∀ id id' : Int64, id.toInt = (i : Int) + 1 → id'.toInt = (j : Int) + 1 →
        ((dataPath (.media storage id)).run Machine.handler m).1 ≠
          ((dataPath (.media storage id')).run Machine.handler m).1 := by
  refine ⟨fun i name there id numbered => ?_,
    fun i j name name' there there' other whole whole' id id' numbered numbered' => ?_⟩
  · have told := Machine.run_dataPath_media directories proper given sounds there numbered
    refine ⟨_, told, rfl, File.ofText_display_eq_iff, fun whole => ?_⟩
    have same := File.ofText_display_eq_iff.mpr whole
    obtain ⟨location, content, leads, own, found, opened⟩ :=
      sounds.openPath_eq proper (List.mem_of_getElem? there)
    refine ⟨location, content, leads, own, found, same.symm ▸ opened, fun output attributes => ?_⟩
    rw [Machine.run_openSource m output attributes told, same, opened]
    cases m.tree.allows location .read <;> rfl
  · rw [Machine.run_dataPath_media directories proper given sounds there numbered,
      Machine.run_dataPath_media directories proper given sounds there' numbered',
      File.ofText_display_eq_iff.mpr whole, File.ofText_display_eq_iff.mpr whole']
    intro same
    exact sounds.join_ne proper there there' other (Option.some.inj (Except.ok.inj same))

/-- Two sounds that are shown alike: the name of the first is what replaces the byte in the
name of the second. -/
def twinTree : FileTree where
  entries := [
    ([File.ofText "sounds"], .directory),
    ([File.ofText "sounds", 0xff :: File.ofText ".ogg"], .file [2]),
    ([File.ofText "sounds", File.ofText "\ufffd.ogg"], .file [1])]
  here := []

def twinSounds : SoundDirectories := ⟨File.ofText "/sounds", none⟩

def twinHost : Machine where
  tree := twinTree
  settings := .inMemory
  lockedKeys := []
  index := .directories twinSounds
  volume := .uniform 0
  assets := .absent
  cursors := #[]
  journal := []

theorem proper_twinTree : twinTree.Proper where
  distinct := by
    unfold FileTree.Distinct
    decide +kernel
  isName := by decide +kernel

theorem sounds_twinTree : Sounds twinTree (File.ofText "/sounds") [File.ofText "sounds"]
    [File.ofText "\ufffd.ogg", 0xff :: File.ofText ".ogg"] where
  leads := rfl
  isDirectory := rfl
  readable := rfl
  ordered := by decide +kernel
  mem_iff name := by
    have kept : ((twinTree.namesIn [File.ofText "sounds"]).filter fun name =>
        twinTree.isFile (File.join (File.ofText "/sounds") name) && isAudioName name) =
          [0xff :: File.ofText ".ogg", File.ofText "\ufffd.ogg"] := by
      decide +kernel
    rw [isSound_iff, kept, List.mem_pair, List.mem_pair, or_comm]

/-- The id of the first sound leads to its file. -/
theorem path_whole_iff_utf8_first :
    Text.IsUtf8 (File.ofText "/sounds/\ufffd.ogg") ∧
      ((dataPath (.media .inside 1)).run Machine.handler twinHost).1 =
        .ok (some (File.ofText "/sounds/\ufffd.ogg")) ∧
      twinTree.openPath (File.ofText "/sounds/\ufffd.ogg") = .ok (.file [1]) := by
  have whole : Text.IsUtf8 (File.ofText "/sounds/\ufffd.ogg") := ⟨_, rfl⟩
  have joined : File.join (File.ofText "/sounds") (File.ofText "\ufffd.ogg") =
      File.ofText "/sounds/\ufffd.ogg" := by decide +kernel
  obtain ⟨told, -⟩ := @path_whole_iff_utf8 twinHost twinSounds .inside (File.ofText "/sounds")
    [File.ofText "sounds"] _ rfl proper_twinTree rfl sounds_twinTree
  obtain ⟨path, run, -, own, opened⟩ := told 0 (File.ofText "\ufffd.ogg") rfl 1 rfl
  rw [joined] at own opened
  obtain rfl := own.mpr whole
  obtain ⟨location, content, -, own, found, leads, -⟩ := opened whole
  obtain rfl := own rfl
  cases found
  exact ⟨whole, run, leads⟩

/-- The id of the second sound leads to the file of the first. -/
theorem path_of_twin :
    ((dataPath (.media .inside 2)).run Machine.handler twinHost).1 ≠
        .ok (some (File.join (File.ofText "/sounds") (0xff :: File.ofText ".ogg"))) ∧
      ((dataPath (.media .inside 2)).run Machine.handler twinHost).1 =
        ((dataPath (.media .inside 1)).run Machine.handler twinHost).1 ∧
      ((dataPath (.media .inside 2)).run Machine.handler twinHost).1 =
        .ok (some (File.ofText "/sounds/\ufffd.ogg")) ∧
      twinTree.openPath (File.ofText "/sounds/\ufffd.ogg") = .ok (.file [1]) ∧
      twinTree.openPath (File.join (File.ofText "/sounds") (0xff :: File.ofText ".ogg")) =
        .ok (.file [2]) := by
  have told {position : Nat} {name : File.Path} (there :
      [File.ofText "\ufffd.ogg", 0xff :: File.ofText ".ogg"][position]? = some name) {id : Int64}
      (numbered : id.toInt = (position : Int) + 1) :
      ((dataPath (.media .inside id)).run Machine.handler twinHost).1 =
        .ok (some (File.ofText (File.display (File.join (File.ofText "/sounds") name)))) :=
    Machine.run_dataPath_media (m := twinHost) rfl proper_twinTree rfl sounds_twinTree there
      numbered
  have shown : File.ofText (File.display
      (File.join (File.ofText "/sounds") (0xff :: File.ofText ".ogg"))) =
        File.ofText "/sounds/\ufffd.ogg" := by decide +kernel
  have shown' : File.ofText (File.display
      (File.join (File.ofText "/sounds") (File.ofText "\ufffd.ogg"))) =
        File.ofText "/sounds/\ufffd.ogg" := by decide +kernel
  have other : File.ofText "/sounds/\ufffd.ogg" ≠
      File.join (File.ofText "/sounds") (0xff :: File.ofText ".ogg") := by decide +kernel
  rw [@told 1 _ rfl 2 rfl, @told 0 _ rfl 1 rfl, shown, shown']
  exact ⟨fun same => other (Option.some.inj (Except.ok.inj same)), rfl, rfl, rfl, rfl⟩

end SoundDirectories

end AlertSound
