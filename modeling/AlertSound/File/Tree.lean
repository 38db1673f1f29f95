import AlertSound.File.Path

/-!
A tree of files, directories and links, and the failures of a file system when
paths are looked up, read, written and listed. Entries may be protected.
-/
namespace AlertSound

inductive IoError where
  | notFound
  | permissionDenied
  | notDirectory
  | isDirectory
  | invalidArgument
  | nameTooLong
  | tooManyLinks
  | nulInName
  | notUtf8
  | other (text : String)
  deriving DecidableEq

def IoError.message : IoError → String
  | .notFound => "No such file or directory (os error 2)"
  | .permissionDenied => "Permission denied (os error 13)"
  | .notDirectory => "Not a directory (os error 20)"
  | .isDirectory => "Is a directory (os error 21)"
  | .invalidArgument => "Invalid argument (os error 22)"
  | .nameTooLong => "File name too long (os error 36)"
  | .tooManyLinks => "Too many levels of symbolic links (os error 40)"
  | .nulInName => "file name contained an unexpected NUL byte"
  | .notUtf8 => "stream did not contain valid UTF-8"
  | .other text => text

/-- What a path leads to. A directory can be opened, but not read. -/
inductive FileNode where
  | file (content : List UInt8)
  | directory
  deriving DecidableEq

namespace FileNode

def blockSize : Nat := 4096

/-- The size that is told of it. A directory takes up one block. -/
def size : FileNode → Nat
  | .file content => content.length
  | .directory => blockSize

/-- The last place that can be sought. A file has at most `2 ^ 32 - 1` blocks. -/
def lastOffset : FileNode → Nat
  | .file _ => (Nat.pow 2 32 - 1) * blockSize
  | .directory => Nat.pow 2 63 - 1

end FileNode

/-- What may be done with an entry. A directory is searched by whoever passes through it. -/
inductive Right where
  | search
  | read
  | write
  deriving DecidableEq

/-- Entries by the names that lead to them from the root, which is always there. -/
structure FileTree where
  entries : List (List File.Path × FileNode)
  here : List File.Path
  /-- What may not be done, by location. -/
  denied : List (List File.Path × Right) := []
  /-- The paths that links hold. -/
  links : List (List File.Path × File.Path) := []

namespace FileTree

def empty : FileTree := { entries := [], here := [] }

def node? (tree : FileTree) (location : List File.Path) : Option FileNode :=
  if location.isEmpty then some .directory else List.lookup location tree.entries

def isDirectory (tree : FileTree) (location : List File.Path) : Bool :=
  tree.node? location == some .directory

def allows (tree : FileTree) (location : List File.Path) (right : Right) : Bool :=
  !tree.denied.contains (location, right)

def deny (tree : FileTree) (location : List File.Path) (right : Right) : FileTree :=
  { tree with denied := (location, right) :: tree.denied }

/-- Lets everything be done with an entry. -/
def grant (tree : FileTree) (location : List File.Path) : FileTree :=
  { tree with denied := tree.denied.filter (·.1 != location) }

def link? (tree : FileTree) (location : List File.Path) : Option File.Path :=
  List.lookup location tree.links

def longestName : Nat := 255

def longestPath : Nat := 4095

/-- How many links may be passed on one way. -/
def mostLinks : Nat := 40

/-- Where a path starts that is read in a directory. -/
def start (here : List File.Path) (path : File.Path) : List File.Path :=
  if File.isAbsolute path then [] else here

/-- The names on a path, with an empty one for a slash at its end. -/
def steps (path : File.Path) : List File.Path :=
  File.names path ++ if path.getLast? == some File.slash then [[]] else []

/-- Where names lead: to a location, or to a link, which has names to go on with. -/
inductive Stop where
  | there (location : List File.Path)
  | link (location : List File.Path) (names : List File.Path)

/-- Where one more name leads from a location. Whether anything is there is left open. -/
def enter (tree : FileTree) (location : List File.Path) (name : File.Path) :
    Except IoError Stop :=
  match tree.node? location with
  | none => .error .notFound
  | some (.file _) => .error .notDirectory
  | some .directory =>
    if name.isEmpty then .ok (.there location)
    else if !tree.allows location .search then .error .permissionDenied
    else if name = [File.dot] then .ok (.there location)
    else if name = [File.dot, File.dot] then .ok (.there location.dropLast)
    else if longestName < name.length then .error .nameTooLong
    else
      match tree.link? (location ++ [name]) with
      | none => .ok (.there (location ++ [name]))
      | some target => .ok (.link (start location target) (steps target))

/-- Follows names from a location up to the first link. -/
def follow (tree : FileTree) (location : List File.Path) : List File.Path → Except IoError Stop
  | [] => .ok (.there location)
  | name :: rest => do
    match ← tree.enter location name with
    | .there location => follow tree location rest
    | .link location names => return .link location (names ++ rest)

/-- Follows names from a location to their end, over so many links at most. -/
def walk (tree : FileTree) (links : Nat) (location names : List File.Path) :
    Except IoError (List File.Path) :=
  match links, tree.follow location names with
  | _, .error cause => .error cause
  | _, .ok (.there location) => .ok location
  | 0, .ok (.link _ _) => .error .tooManyLinks
  | links + 1, .ok (.link location names) => walk tree links location names

def checkPath (path : File.Path) : Except IoError Unit :=
  if path.contains 0 then .error .nulInName
  else if path.isEmpty then .error .notFound
  else if longestPath < path.length then .error .nameTooLong
  else .ok ()

def base (tree : FileTree) (path : File.Path) : List File.Path := start tree.here path

/-- Where a path leads. One that ends in a slash has to lead to a directory. -/
def locate (tree : FileTree) (path : File.Path) : Except IoError (List File.Path) := do
  checkPath path
  let location ← tree.walk mostLinks (tree.base path) (steps path)
  if (tree.node? location).isNone then .error .notFound else .ok location

/-- What a path leads to, whether or not it may be read. -/
def look (tree : FileTree) (path : File.Path) : Except IoError FileNode := do
  match tree.node? (← tree.locate path) with
  | some node => .ok node
  | none => .error .notFound

def openPath (tree : FileTree) (path : File.Path) : Except IoError FileNode := do
  let location ← tree.locate path
  match tree.node? location with
  | some node => if tree.allows location .read then .ok node else .error .permissionDenied
  | none => .error .notFound

def readContent : FileNode → Except IoError (List UInt8)
  | .file content => .ok content
  | .directory => .error .isDirectory

def read (tree : FileTree) (path : File.Path) : Except IoError (List UInt8) := do
  readContent (← tree.openPath path)

def readText (tree : FileTree) (path : File.Path) : Except IoError String := do
  match Text.ofUtf8? (← tree.read path) with
  | some chars => .ok (String.ofList chars)
  | none => .error .notUtf8

def isFile (tree : FileTree) (path : File.Path) : Bool :=
  match tree.look path with
  | .ok (.file _) => true
  | _ => false

def locations (tree : FileTree) : List (List File.Path) :=
  tree.entries.map Prod.fst ++ tree.links.map Prod.fst

def nameIn? (place location : List File.Path) : Option File.Path :=
  match location.getLast? with
  | some name => if location.dropLast = place then some name else none
  | none => none

/-- The names in a directory, in no particular order. -/
def namesIn (tree : FileTree) (place : List File.Path) : List File.Path :=
  tree.locations.filterMap (nameIn? place)

def list (tree : FileTree) (path : File.Path) : Except IoError (List File.Path) := do
  let location ← tree.locate path
  if !tree.isDirectory location then .error .notDirectory
  else if !tree.allows location .read then .error .permissionDenied
  else .ok (tree.namesIn location)

def set (tree : FileTree) (location : List File.Path) (node : FileNode) : FileTree :=
  { tree with entries := (location, node) :: tree.entries.filter (·.1 != location) }

/-- Every directory on the way to a location. -/
def addDirectories (tree : FileTree) (location : List File.Path) : FileTree :=
  (List.range location.length).foldl (fun tree i =>
    let parent := location.take (i + 1)
    if (tree.node? parent).isSome then tree else tree.set parent .directory) tree

def addFile (tree : FileTree) (location : List File.Path) (content : List UInt8) : FileTree :=
  (tree.addDirectories location.dropLast).set location (.file content)

/-- Puts a file in a place. One that is made is its maker's. -/
def place (tree : FileTree) (location : List File.Path) (content : List UInt8) :
    Except IoError FileTree :=
  match tree.node? location with
  | some .directory => .error .isDirectory
  | some (.file _) =>
    if tree.allows location .write then .ok (tree.set location (.file content))
    else .error .permissionDenied
  | none =>
    if tree.allows location.dropLast .write then
      .ok ((tree.set location (.file content)).grant location)
    else .error .permissionDenied

/-- Replaces what a file holds; a file that is not there is made. -/
def write (tree : FileTree) (path : File.Path) (content : List UInt8) :
    Except IoError FileTree := do
  checkPath path
  let names := File.names path
  if path.getLast? == some File.slash then
    let _ ← tree.walk mostLinks (tree.base path) (names.dropLast ++ [[File.dot]])
    .error .isDirectory
  else tree.place (← tree.walk mostLinks (tree.base path) names) content

end FileTree
end AlertSound
