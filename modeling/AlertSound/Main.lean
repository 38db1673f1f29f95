import AlertSound.Command.Disk
import AlertSound.Command.Help

/-!
The command on a real machine without a sound system: the files that a run may look
at are taken up, the run is worked out on them, and what it writes is written.
-/
namespace AlertSound

def diskText (location : List File.Path) : String :=
  "/" ++ "/".intercalate (location.map File.display)

def isDenial : IO.Error → Bool
  | .permissionDenied .. => true
  | _ => false

/-- What a link leads to, if anything. One that cannot be followed is as good as one to itself. -/
def takeTarget? (location : List File.Path) : IO (Option File.Path) := do
  let path := (← IO.currentDir) / diskText location
  match ← path.metadata.toBaseIO with
  | .ok _ => return some (File.ofText (← IO.FS.realPath path).toString)
  | .error (.noFileOrDirectory ..) => return none
  | .error _ => return some (File.ofText (diskText location))

/-- Takes up one entry of the disk, and what may not be done with it. -/
def takeEntry (tree : FileTree) (location : List File.Path) (content : Bool) : IO FileTree := do
  let path := (← IO.currentDir) / diskText location
  match ← path.symlinkMetadata.toBaseIO with
  | .error e => return if isDenial e then tree.deny location.dropLast .search else tree
  | .ok found =>
    match found.type with
    | .dir => return tree.set location .directory
    | .symlink =>
      let others := tree.links.filter (·.1 != location)
      let found := (← takeTarget? location).map fun target => (location, target)
      return { tree with links := found.toList ++ others }
    | _ =>
      if !content then return tree.set location (.file [])
      match ← (IO.FS.readBinFile path).toBaseIO with
      | .ok bytes => return tree.set location (.file bytes.toList)
      | .error _ => return (tree.set location (.file [])).deny location .read

/-- Takes up an entry and what it leads to, if it is a link, with the directories on the way. -/
def takeName (tree : FileTree) (location : List File.Path) (content : Bool) :
    IO (FileTree × List File.Path) := do
  let tree ← takeEntry tree location content
  match tree.link? location with
  | none => return (tree, location)
  | some target =>
    let there := File.names target
    let parents := (List.range there.length).map fun n => there.take (n + 1)
    return (← parents.foldlM (fun tree parent => takeEntry tree parent content) tree, there)

/-- Takes up what a path leads to and the directories on the way. -/
def takePath (tree : FileTree) (path : File.Path) : IO (FileTree × List File.Path) := do
  let mut tree := tree
  let mut location := tree.base path
  for name in File.names path do
    if name = [File.dot] then continue
    else if name = [File.dot, File.dot] then location := location.dropLast
    else (tree, location) ← takeName tree (location ++ [name]) true
  return (tree, location)

def takeDirectory (tree : FileTree) (path : File.Path) : IO FileTree := do
  let (tree, location) ← takePath tree path
  if !tree.isDirectory location then return tree
  match ← ((← IO.currentDir) / diskText location).readDir.toBaseIO with
  | .error _ => return tree.deny location .read
  | .ok entries =>
    entries.foldlM (fun tree entry =>
      Prod.fst <$> takeName tree (location ++ [File.ofText entry.fileName]) false) tree

/-- Takes up the file of the settings, which may be written later. -/
def takeSettings (tree : FileTree) (path : File.Path) : IO FileTree := do
  let (tree, location) ← takePath tree path
  if (tree.node? location).isNone || tree.isDirectory location then return tree
  match ← (IO.FS.Handle.mk ((← IO.currentDir) / diskText location) .readWrite).toBaseIO with
  | .ok _ => return tree
  | .error _ => return tree.deny location .write

/-- The working directory with everything on the way to it. -/
def takeHere : IO FileTree := do
  let here := File.names (File.ofText (← IO.currentDir).toString)
  return { FileTree.empty.addDirectories here with here }

def takeDisk (options : Command.Options) : IO FileTree := do
  let mut tree ← takeHere
  for path in options.directories do
    tree ← takeDirectory tree path
  for path in options.settings.toList do
    tree ← takeSettings tree path
  for path in options.asset :: options.sounds tree do
    tree := (← takePath tree path).1
  return tree

def readEnvironment : IO Environment := do
  let found ← Command.environmentKeys.mapM fun key => do
    return (← IO.getEnv key).map fun value => (key, .ofText value)
  return found.filterMap id

/-- Writes the settings back if the run has changed them. -/
def storeSettings (file : File.Path) (before after : FileTree) : IO Unit := do
  match after.read file with
  | .error _ => return
  | .ok content =>
    if (before.read file).toOption != some content then
      IO.FS.writeBinFile ((← IO.currentDir) / File.display file) content.toByteArray

/-- Milliseconds since the start, in seconds. -/
def timeText (start : Nat) : IO String := do
  let elapsed := (← IO.monoMsNow) - start
  let rest := toString (elapsed % 1000)
  return toString (elapsed / 1000) ++ "." ++ "".pushn '0' (3 - rest.length) ++ rest ++ "s"

def writeOutput (start : Nat) : Command.Output → IO Unit
  | .line text => IO.println text
  | .entry e => do IO.println (e.line (← timeText start))
  | .pause => IO.sleep (UInt32.ofNat Command.pollMs)

def conclude : Command.Ending → IO Unit
  | .done => return
  | .failed report => IO.eprintln report.text
  | .stopped .help => IO.print Command.helpText
  | .stopped (.misuse m) => IO.eprintln ("error: " ++ m.message ++ "\n\n" ++ Command.usage)

end AlertSound

open AlertSound in
def main (arguments : List String) : IO UInt32 := do
  let start ← IO.monoMsNow
  let written : List SystemText := arguments.map .ofText
  let env ← readEnvironment
  let directives := (← IO.getEnv "RUST_LOG").getD ""
  let tree ← match Command.Options.ofArguments written env with
    | .ok options => takeDisk options
    | .error _ => pure FileTree.empty
  let outcome := Command.run written env directives tree
  if let .ok { settings := some file, .. } := Command.Options.ofArguments written env then
    storeSettings file tree outcome.tree
  for notice in outcome.notices do
    IO.eprintln notice
  for output in outcome.output do
    writeOutput start output
  conclude outcome.ending
  return outcome.code.toUInt32
