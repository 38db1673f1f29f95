import AlertSound.Proofs.Index.Directory
import AlertSound.Proofs.Locator.Entry
import Mathlib.Data.List.Sort

/-!
How sound directories number their sounds. The sounds of a directory are the regular files
in it with the extension of a sound, in the order of their names' bytes, and the id of one
is its place in this order, from 1 on. All questions agree on it: the collection holds every
sound under its id, an id is answered with that sound alone, and what a name is found by
leads back to the name.
-/
namespace AlertSound.SoundDirectories

variable {tree : FileTree} {directory : File.Path} {place names : List File.Path}

/-- A regular file that stands in a directory under the name of a sound. A link counts as
what it leads to. -/
structure IsSound (tree : FileTree) (directory : File.Path) (place : List File.Path)
    (name : File.Path) : Prop where
  listed : name ∈ tree.namesIn place
  regular : ∃ content, tree.look (File.join directory name) = .ok (.file content)
  audio : isAudioName name = true

/-- The sounds of a directory that may be read, in order. -/
structure Sounds (tree : FileTree) (directory : File.Path) (place names : List File.Path) :
    Prop where
  leads : tree.locate directory = .ok place
  isDirectory : tree.isDirectory place = true
  readable : tree.allows place .read = true
  ordered : names.Pairwise (· < ·)
  mem_iff : ∀ name, name ∈ names ↔ IsSound tree directory place name

theorem lt_of_precedes {a b : File.Path} (h : precedes a b = true) (other : a ≠ b) : a < b := by
  induction a generalizing b with
  | nil =>
      cases b with
      | nil => exact absurd rfl other
      | cons y b => exact List.nil_lt_cons y b
  | cons x a ih =>
      cases b with
      | nil => cases h
      | cons y b =>
          simp only [precedes, Bool.or_eq_true, Bool.and_eq_true, decide_eq_true_eq,
            beq_iff_eq] at h
          rw [List.cons_lt_cons_iff]
          refine h.imp_right fun same => ⟨same.1, ih same.2 fun rest => other ?_⟩
          rw [same.1, rest]

theorem isFile_iff (path : File.Path) :
    tree.isFile path = true ↔ ∃ content, tree.look path = .ok (.file content) := by
  unfold FileTree.isFile
  cases tree.look path with
  | error cause => simp
  | ok node =>
      cases node with
      | file content => simp
      | directory => simp

theorem isSound_iff {name : File.Path} : IsSound tree directory place name ↔
    name ∈ (tree.namesIn place).filter fun name =>
      tree.isFile (File.join directory name) && isAudioName name := by
  rw [List.mem_filter, Bool.and_eq_true, isFile_iff]
  exact ⟨fun sound => ⟨sound.listed, sound.regular, sound.audio⟩,
    fun given => ⟨given.1, given.2.1, given.2.2⟩⟩

/-- A directory that may be read has sounds, none perhaps, and they are what a scan of it
numbers. -/
theorem exists_sounds (distinct : tree.Distinct) (leads : tree.locate directory = .ok place)
    (isDirectory : tree.isDirectory place = true) (readable : tree.allows place .read = true) :
    ∃ names, Sounds tree directory place names ∧
      scan tree directory = .ok (number directory 1 names) := by
  refine ⟨((tree.namesIn place).filter fun name =>
      tree.isFile (File.join directory name) && isAudioName name).mergeSort precedes,
    ⟨leads, isDirectory, readable, ?_, fun name => ?_⟩, ?_⟩
  · have once : (((tree.namesIn place).filter fun name =>
        tree.isFile (File.join directory name) && isAudioName name).mergeSort precedes).Nodup :=
      (List.mergeSort_perm _ _).nodup_iff.mpr
        ((FileTree.nodup_namesIn distinct place).filter _)
    exact (List.pairwise_mergeSort precedes_trans precedes_total _).imp₂
      (fun _ _ => lt_of_precedes) once
  · rw [List.mem_mergeSort, isSound_iff]
  · rw [scan_of_locate leads isDirectory, if_pos readable]

/-- The order and the membership tell the sounds. -/
theorem Sounds.eq {names' : List File.Path} (sounds : Sounds tree directory place names)
    (sounds' : Sounds tree directory place names') : names = names' :=
  List.Pairwise.eq_of_mem_iff sounds.ordered sounds'.ordered fun name =>
    (sounds.mem_iff name).trans (sounds'.mem_iff name).symm

theorem Sounds.scan_eq (distinct : tree.Distinct) (sounds : Sounds tree directory place names) :
    scan tree directory = .ok (number directory 1 names) := by
  obtain ⟨names', sounds', scanned⟩ := exists_sounds distinct sounds.leads
    sounds.isDirectory sounds.readable
  rwa [sounds.eq sounds']

def told (directory name : File.Path) (position : Nat) : Column → String
  | .id => toString ((position : Int) + 1)
  | .data => File.display (File.join directory name)
  | .title => File.display (File.splitExtension name).1
  | .displayName => File.display name

def toldRow (directory name : File.Path) (position : Nat) (columns : List Column) : Row :=
  columns.map fun column => some (told directory name position column)

def shown (names : List File.Path) (name : String) : List (File.Path × Nat) :=
  names.zipIdx.filter fun sound => File.display sound.1 == name

theorem number_eq (directory : File.Path) (names : List File.Path) (k : Nat) :
    number directory ((k : Int) + 1) names = (names.zipIdx k).map fun (name, position) =>
      ⟨(position : Int) + 1, File.join directory name⟩ := by
  induction names generalizing k with
  | nil => rfl
  | cons name names ih =>
      rw [number, List.zipIdx_cons, List.map_cons, ← ih (k + 1)]
      push_cast
      rfl

theorem Entry.cell_eq {name : File.Path} (h : File.IsName name) (position : Nat) (column : Column) :
    Entry.cell ⟨(position : Int) + 1, File.join directory name⟩ column =
      told directory name position column := by
  cases column with
  | id => rfl
  | data => rfl
  | title => simp [cell, title, File.lastName?_join directory h, told]
  | displayName => simp [cell, displayName, File.lastName?_join directory h, told]

theorem Entry.row_eq {name : File.Path} (h : File.IsName name) (position : Nat)
    (columns : List Column) : Entry.row ⟨(position : Int) + 1, File.join directory name⟩ columns =
      toldRow directory name position columns := by
  simp only [row, toldRow, cell_eq h]

/-- One position is that of one sound, or of none. -/
theorem filter_position (names : List File.Path) (k i : Nat) :
    ((names.zipIdx k).filter fun sound => sound.2 == k + i) =
      (names[i]?.map fun name => (name, k + i)).toList := by
  induction names generalizing k i with
  | nil => rfl
  | cons name names ih =>
      cases i with
      | zero =>
          have none : (names.zipIdx (k + 1)).filter (fun sound => sound.2 == k) = [] := by
            refine List.filter_eq_nil_iff.mpr fun sound member => ?_
            have beyond := List.le_snd_of_mem_zipIdx member
            simp only [beq_iff_eq]
            omega
          simp [List.zipIdx_cons, none]
      | succ i =>
          have first : (k == k + (i + 1)) = false := by simp
          have later := ih (k + 1) i
          rw [show k + 1 + i = k + (i + 1) by omega] at later
          simp [List.zipIdx_cons, first, later]

section Told

variable (proper : tree.Proper) (sounds : Sounds tree directory place names)

include proper sounds

theorem Sounds.isName {name : File.Path} (member : name ∈ names) : File.IsName name :=
  proper.isName _ (FileTree.mem_namesIn.mp ((sounds.mem_iff name).mp member).listed) name
    (List.mem_append_right place (List.mem_singleton_self name))

/-- A scan finds the sounds with their positions. -/
theorem Sounds.scanned : scan tree directory = .ok (names.zipIdx.map fun (name, position) =>
    ⟨(position : Int) + 1, File.join directory name⟩) := by
  rw [sounds.scan_eq proper.distinct]
  exact congrArg _ (number_eq directory names 0)

theorem Sounds.row_eq {sound : File.Path × Nat} (member : sound ∈ names.zipIdx)
    (columns : List Column) :
    Entry.row ⟨(sound.2 : Int) + 1, File.join directory sound.1⟩ columns =
      toldRow directory sound.1 sound.2 columns :=
  Entry.row_eq (sounds.isName proper (List.fst_mem_of_mem_zipIdx member)) sound.2 columns

variable {index : SoundDirectories} {storage : Storage}
  (given : index.directory? storage = some directory)

include given

/-- The collection holds every sound. -/
theorem Sounds.query_collection {r : Locator} (media : r.origin = .mediaIndex)
    (volume : r.storage? = some storage) (collection : r.lastName? = some "media")
    (columns : List Column) : index.query tree r columns =
      .ok (names.zipIdx.map fun (name, position) => toldRow directory name position columns) := by
  have numberless : r.id? = none := by
    simp only [Locator.id?, media, collection]
    rfl
  simp only [query, media, queryMedia, volume, Option.bind_some, given, numberless, collection,
    beq_self_eq_true, if_true, sounds.scanned proper, bind, Except.bind, pure, Except.pure,
    List.map_map]
  exact congrArg _ (List.map_congr_left fun sound member => sounds.row_eq proper member columns)

/-- An id is answered with what has it in the scan. -/
theorem Sounds.query_id (id : Int64) (columns : List Column) :
    index.query tree (.media storage id) columns =
      .ok ((names.zipIdx.filter fun sound => (sound.2 : Int) + 1 == id.toInt).map
        fun (name, position) => toldRow directory name position columns) := by
  simp only [query, Locator.origin_media, queryMedia, Locator.storage?_media, Option.bind_some,
    given, Locator.id?_media, sounds.scanned proper, bind, Except.bind, pure, Except.pure,
    List.filter_map, List.map_map]
  exact congrArg _ (List.map_congr_left fun sound member =>
    sounds.row_eq proper (List.mem_of_mem_filter member) columns)

theorem Sounds.query_media {position : Nat} {name : File.Path}
    (there : names[position]? = some name) {id : Int64} (numbered : id.toInt = (position : Int) + 1)
    (columns : List Column) : index.query tree (.media storage id) columns =
      .ok [toldRow directory name position columns] := by
  have found := filter_position names 0 position
  rw [there, Nat.zero_add] at found
  have same : (fun sound : File.Path × Nat => (sound.2 : Int) + 1 == id.toInt) =
      fun sound => sound.2 == position := by
    funext sound
    rw [numbered, Bool.eq_iff_iff, beq_iff_eq, beq_iff_eq]
    omega
  rw [sounds.query_id proper given id columns, same, found]
  rfl

theorem Sounds.query_media_outside {id : Int64}
    (outside : id.toInt < 1 ∨ (names.length : Int) < id.toInt) (columns : List Column) :
    index.query tree (.media storage id) columns = .ok [] := by
  have none : (names.zipIdx.filter fun sound => (sound.2 : Int) + 1 == id.toInt) = [] := by
    refine List.filter_eq_nil_iff.mpr fun sound member => ?_
    have inside := List.snd_lt_of_mem_zipIdx member
    simp only [beq_iff_eq]
    omega
  rw [sounds.query_id proper given id columns, none]
  rfl

end Told

/-- A name is answered with the ids of the sounds that it is shown for. -/
theorem Sounds.find_eq (proper : tree.Proper) {index : SoundDirectories}
    (sounds : Sounds tree index.inside place names) (name : String) :
    index.find tree name = .ok ((shown names name).map fun sound =>
      [some (toString ((sound.2 : Int) + 1))]) := by
  have display (sound : File.Path × Nat) (member : sound ∈ names.zipIdx) :
      Entry.displayName ⟨(sound.2 : Int) + 1, File.join index.inside sound.1⟩ =
        File.display sound.1 :=
    Entry.cell_eq (sounds.isName proper (List.fst_mem_of_mem_zipIdx member)) sound.2 .displayName
  have same : (names.zipIdx.filter fun sound =>
      Entry.displayName ⟨(sound.2 : Int) + 1, File.join index.inside sound.1⟩ == name) =
        shown names name :=
    List.filter_congr fun sound member => by rw [display sound member]
  simp only [find, sounds.scanned proper, bind, Except.bind, pure, Except.pure, List.filter_map,
    List.map_map]
  rw [← same]
  rfl

theorem mem_shown {name : File.Path} {position : Nat} {shownAs : String} :
    (name, position) ∈ shown names shownAs ↔
      names[position]? = some name ∧ File.display name = shownAs := by
  rw [shown, List.mem_filter, List.mk_mem_zipIdx_iff_getElem?, beq_iff_eq]

/-- A question that needs to know the sounds of a directory is answered as the scan of it is. -/
theorem query_of_scan_error {index : SoundDirectories} {r : Locator} {storage : Storage}
    {e : QueryError} (media : r.origin = .mediaIndex) (volume : r.storage? = some storage)
    (given : index.directory? storage = some directory)
    (asked : r.lastName? = some "media" ∨ r.id?.isSome) (failed : scan tree directory = .error e)
    (columns : List Column) : index.query tree r columns = .error e := by
  simp only [query, media, queryMedia, volume, Option.bind_some, given]
  cases numbered : r.id? with
  | some id => simp only [failed, bind, Except.bind]
  | none =>
      obtain collection | some := asked
      · simp only [collection, beq_self_eq_true, if_true, failed, bind, Except.bind]
      · simp [numbered] at some

theorem query_absent {index : SoundDirectories} {r : Locator} {storage : Storage}
    (media : r.origin = .mediaIndex) (volume : r.storage? = some storage)
    (absent : index.directory? storage = none) (columns : List Column) :
    index.query tree r columns = .ok [] := by
  simp only [query, media, queryMedia, volume, Option.bind_some, absent]

/-- Sound directories agree with themselves, however their contents are listed. A directory
that may be read has sounds in one order, that of the bytes of their names. A question for the
collection of its volume is answered with a row for each, in this order, and the ids `1`, `2` and
so on; a question for one id with the row of that sound, or with none if the id is not among
these. What a name finds in the directory of the shipped sounds are the ids, in order, of
the sounds that it is shown for, and each of these is answered with one row of that name.
All rows hold the asked columns in the order in which they are asked for. Where a directory may
not be read, each of these questions is denied. A volume without a directory has no sounds. -/
theorem directories_number_sounds (proper : tree.Proper) (index : SoundDirectories) :
    (∀ storage directory place, index.directory? storage = some directory →
      tree.locate directory = .ok place → tree.isDirectory place = true →
      (tree.allows place .read = true → ∃ names, Sounds tree directory place names ∧
        (∀ r columns, r.origin = .mediaIndex → r.storage? = some storage →
          r.lastName? = some "media" → index.query tree r columns =
            .ok (names.zipIdx.map fun (name, i) => toldRow directory name i columns)) ∧
        (∀ (i : Nat) name, names[i]? = some name → ∀ id : Int64, id.toInt = (i : Int) + 1 →
          ∀ columns, index.query tree (.media storage id) columns =
            .ok [toldRow directory name i columns]) ∧
        (∀ id : Int64, id.toInt < 1 ∨ (names.length : Int) < id.toInt →
          ∀ columns, index.query tree (.media storage id) columns = .ok []) ∧
        (storage = .inside → ∀ shownAs,
          index.find tree shownAs = .ok ((shown names shownAs).map fun (_, i) =>
            [some (toString ((i : Int) + 1))]) ∧
          ∀ name i, (name, i) ∈ shown names shownAs → ∀ id : Int64, id.toInt = (i : Int) + 1 →
            index.query tree (.media .inside id) [.displayName] = .ok [[some shownAs]])) ∧
      (tree.allows place .read = false →
        (∀ r columns, r.origin = .mediaIndex → r.storage? = some storage →
          r.lastName? = some "media" ∨ r.id?.isSome → index.query tree r columns =
            .error (.permissionDenied (File.display directory))) ∧
        (storage = .inside → ∀ shownAs, index.find tree shownAs =
          .error (.permissionDenied (File.display directory))))) ∧
    ∀ storage, index.directory? storage = none → ∀ r columns, r.origin = .mediaIndex →
      r.storage? = some storage → index.query tree r columns = .ok [] := by
  refine ⟨fun storage directory place given leads isDirectory =>
      ⟨fun readable => ?_, fun denied => ?_⟩,
    fun storage absent r columns media volume => query_absent media volume absent columns⟩
  · obtain ⟨names, sounds, -⟩ := exists_sounds proper.distinct leads isDirectory readable
    refine ⟨names, sounds, fun r columns media volume collection =>
        sounds.query_collection proper given media volume collection columns,
      fun i name there id numbered columns =>
        sounds.query_media proper given there numbered columns,
      fun id outside columns => sounds.query_media_outside proper given outside columns, ?_⟩
    rintro rfl shownAs
    obtain rfl : index.inside = directory := Option.some.inj given
    refine ⟨sounds.find_eq proper shownAs, fun name i found id numbered => ?_⟩
    obtain ⟨there, display⟩ := mem_shown.mp found
    rw [sounds.query_media proper given there numbered, ← display]
    rfl
  · have failed : scan tree directory = .error (.permissionDenied (File.display directory)) := by
      rw [scan_of_locate leads isDirectory, denied]
      rfl
    refine ⟨fun r columns media volume asked =>
      query_of_scan_error media volume given asked failed columns, ?_⟩
    rintro rfl shownAs
    obtain rfl : index.inside = directory := Option.some.inj given
    simp only [find, failed, bind, Except.bind]

/-- Two sounds, one of a name that is not UTF-8, among what is none. -/
def mixedTree : FileTree where
  entries := [
    ([File.ofText "sounds"], .directory),
    ([File.ofText "sounds", 0xff :: File.ofText ".ogg"], .file []),
    ([File.ofText "sounds", File.ofText "notes.txt"], .file []),
    ([File.ofText "sounds", File.ofText "Low.MP3"], .file [0x49]),
    ([File.ofText "sounds", File.ofText "album.ogg"], .directory)]
  here := []

theorem proper_mixedTree : mixedTree.Proper where
  distinct := by
    unfold FileTree.Distinct
    decide +kernel
  isName := by decide +kernel

theorem sounds_mixedTree : Sounds mixedTree (File.ofText "/sounds") [File.ofText "sounds"]
    [File.ofText "Low.MP3", 0xff :: File.ofText ".ogg"] where
  leads := rfl
  isDirectory := rfl
  readable := rfl
  ordered := by decide +kernel
  mem_iff name := by
    have kept : ((mixedTree.namesIn [File.ofText "sounds"]).filter fun name =>
        mixedTree.isFile (File.join (File.ofText "/sounds") name) && isAudioName name) =
          [0xff :: File.ofText ".ogg", File.ofText "Low.MP3"] := by
      decide +kernel
    rw [isSound_iff, kept, List.mem_pair, List.mem_pair, or_comm]

def mixedSounds : SoundDirectories := ⟨File.ofText "/sounds", none⟩

def shippedSounds : Locator := .content "media" .mediaIndex ["internal", "audio", "media"]

/-- Both sounds of a directory under their ids, whatever surrounds them in it, and nothing
under the least and the greatest id. -/
theorem directories_number_sounds_mixed :
    Locator.parse "content://media/internal/audio/media" = .ok shippedSounds ∧
      mixedSounds.query mixedTree shippedSounds [.displayName, .id] =
        .ok [[some "Low.MP3", some "1"], [some "\ufffd.ogg", some "2"]] ∧
      mixedSounds.query mixedTree (.media .inside 2) [.title, .title] =
        .ok [[some "\ufffd", some "\ufffd"]] ∧
      mixedSounds.query mixedTree (.media .inside Int64.minValue) [.id] = .ok [] ∧
      mixedSounds.query mixedTree (.media .inside Int64.maxValue) [.id] = .ok [] ∧
      mixedSounds.find mixedTree "Low.MP3" = .ok [[some "1"]] ∧
      mixedSounds.query mixedTree (.media .inside 1) [.displayName] = .ok [[some "Low.MP3"]] ∧
      mixedSounds.query mixedTree (.media .outside 1) [.id] = .ok [] := by
  obtain ⟨numbered, absent⟩ := directories_number_sounds proper_mixedTree mixedSounds
  obtain ⟨names, sounds, collection, media, outside, find⟩ :=
    (numbered .inside (File.ofText "/sounds") [File.ofText "sounds"] rfl rfl rfl).1 rfl
  obtain rfl := sounds.eq sounds_mixedTree
  obtain ⟨found, leadsBack⟩ := find rfl "Low.MP3"
  have first : (File.ofText "Low.MP3", 0) ∈
      shown [File.ofText "Low.MP3", 0xff :: File.ofText ".ogg"] "Low.MP3" := by decide +kernel
  have told {rows rows' : List Row} (same : rows = rows') :
      (.ok rows : Except QueryError (List Row)) = .ok rows' := congrArg Except.ok same
  exact ⟨rfl,
    (collection shippedSounds _ rfl rfl (by decide +kernel)).trans (told (by decide +kernel)),
    (media 1 _ rfl 2 rfl _).trans (told (by decide +kernel)),
    outside _ (by decide) _, outside _ (by decide) _,
    found.trans (told (by decide +kernel)), leadsBack _ 0 first 1 rfl,
    absent .outside rfl _ _ rfl rfl⟩

end AlertSound.SoundDirectories
