import AlertSound.Asset
import AlertSound.Index.Directory
import AlertSound.Settings.Store
import AlertSound.Volume

/-!
The resources of a host. The index is that of sound directories or a list of
prepared answers, and single calls can be made to fail. Every call is noted in a
journal, in the order in which the calls return.
-/
namespace AlertSound.Host

/-- What the journal of a host holds: calls to collaborators, log entries, lines
that are written for the user, and pauses. -/
inductive Event where
  | call (line : String)
  | log (entry : Log.Entry)
  | printed (line : String)
  | paused

def columnsText (columns : List Column) : String :=
  "[" ++ ", ".intercalate (columns.map Column.name) ++ "]"

inductive QueryFault where
  | permissionDenied
  | unavailable

def QueryFault.error (what : String) : QueryFault → QueryError
  | .permissionDenied => .permissionDenied what
  | .unavailable => .unavailable what

/-- Prepared answers of an index. Rows have a cell for each column there is;
`stuck` are the questions whose cursor does not move. -/
structure IndexScript where
  rows : List (String × List Row)
  faults : List (String × QueryFault)
  found : List (String × List Row)
  findFaults : List (String × QueryFault)
  stuck : List String

def IndexScript.empty : IndexScript := ⟨[], [], [], [], []⟩

inductive IndexSource where
  | directories (index : SoundDirectories)
  | script (script : IndexScript)

def columnPosition : Column → Nat
  | .id => 0
  | .data => 1
  | .title => 2
  | .displayName => 3

def project (columns : List Column) (row : Row) : Row :=
  columns.map fun c => (row[columnPosition c]?).join

/-- The rows of an answer and whether its cursor is stuck. -/
def IndexScript.query (script : IndexScript) (r : Locator) (columns : List Column) :
    Except QueryError (List Row × Bool) :=
  match List.lookup r.text script.faults with
  | some fault => .error (fault.error r.text)
  | none =>
    let rows := (List.lookup r.text script.rows).getD []
    .ok (rows.map (project columns), script.stuck.contains r.text)

def IndexScript.find (script : IndexScript) (name : String) :
    Except QueryError (List Row × Bool) :=
  match List.lookup name script.findFaults with
  | some fault => .error (fault.error name)
  | none => .ok ((List.lookup name script.found).getD [], script.stuck.contains name)

def IndexSource.query (source : IndexSource) (tree : FileTree) (r : Locator)
    (columns : List Column) : Except QueryError (List Row × Bool) :=
  match source with
  | .directories index => (index.query tree r columns).map (·, false)
  | .script answers => answers.query r columns

def IndexSource.find (source : IndexSource) (tree : FileTree) (name : String) :
    Except QueryError (List Row × Bool) :=
  match source with
  | .directories index => (index.find tree name).map (·, false)
  | .script answers => answers.find name

inductive AssetSource where
  | directory (assets : AssetDirectory)
  | part (path : File.Path) (offset : UInt64) (length : Option UInt64)
  | broken (text : String)
  | absent

def AssetSource.openAsset (tree : FileTree) : AssetSource → Except AssetError Asset
  | .directory assets => assets.openAsset tree
  | .part path offset length =>
    match tree.openPath path with
    | .ok file => .ok { file, offset, length }
    | .error cause => .error (.io cause)
  | .broken text => .error (.io (.other text))
  | .absent => .error (.notFound AssetDirectory.ordinaryName)

structure OpenCursor where
  cursor : Cursor
  stuck : Bool

structure Machine where
  tree : FileTree
  settings : SettingsStore
  /-- Keys whose writes fail without touching the store. -/
  lockedKeys : List String
  index : IndexSource
  volume : VolumeTable
  assets : AssetSource
  cursors : Array OpenCursor
  /-- The latest event comes first. -/
  journal : List Event

namespace Machine

def note (m : Machine) (event : Event) : Machine := { m with journal := event :: m.journal }

def noteCall (m : Machine) (line : String) : Machine := m.note (.call line)

def opened (m : Machine) (question : String) (result : Except QueryError (List Row × Bool)) :
    Except QueryError CursorId × Machine :=
  match result with
  | .error e =>
    let kind := match e with
      | .permissionDenied _ => "PermissionDenied"
      | .unavailable _ => "Unavailable"
    (.error e, m.noteCall (question ++ " -> " ++ kind))
  | .ok (rows, stuck) =>
    (.ok m.cursors.size,
      { m with cursors := m.cursors.push { cursor := .ofRows rows, stuck } }.noteCall
        (question ++ " -> " ++ toString rows.length ++ " rows"))

def putSetting (m : Machine) (key value : String) : Except SettingsError Unit × Machine :=
  let (result, m) :=
    if m.lockedKeys.contains key then (.error .poisoned, m)
    else
      let (result, settings, tree) := m.settings.put m.tree key value
      (result, { m with settings, tree })
  let outcome := match result with
    | .ok () => "ok"
    | .error _ => "error"
  (result, m.noteCall ("settings.put " ++ key ++ " " ++ value ++ " -> " ++ outcome))

def openAsset (m : Machine) : Except AssetError Asset × Machine :=
  let result := m.assets.openAsset m.tree
  let outcome := match result with
    | .ok asset =>
      let length := match asset.length with
        | some length => "Some(" ++ toString length.toNat ++ ")"
        | none => "None"
      "offset=" ++ toString asset.offset.toNat ++ " length=" ++ length
    | .error e => e.kind
  (result, m.noteCall ("assets.open -> " ++ outcome))

def moveToFirst (m : Machine) (id : CursorId) : Bool × Machine :=
  match m.cursors[id]? with
  | none => (false, m)
  | some entry =>
    if entry.stuck then (false, m)
    else
      let (moved, cursor) := entry.cursor.moveToFirst
      (moved, { m with cursors := m.cursors.setIfInBounds id { entry with cursor } })

def close (m : Machine) (id : CursorId) : Machine :=
  let m := m.noteCall "cursor.close"
  { m with cursors := m.cursors.modify id fun entry => { entry with cursor := entry.cursor.close } }

def cursor (m : Machine) (id : CursorId) : Cursor :=
  ((m.cursors[id]?).map (·.cursor)).getD (.ofRows [])

def handler : Handler Resources Machine
  | .volume stream, m =>
    let level := m.volume.level stream
    (level, m.noteCall ("volume " ++ stream.name ++ " -> " ++ toString level))
  | .setting key, m =>
    let value := m.settings.get? key
    (value, m.noteCall ("settings.get " ++ key ++ " -> " ++ value.getD "<none>"))
  | .putSetting key value, m => m.putSetting key value
  | .query r columns, m =>
    m.opened ("index.query " ++ r.text ++ " " ++ columnsText columns)
      (m.index.query m.tree r columns)
  | .find name, m => m.opened ("index.find " ++ name) (m.index.find m.tree name)
  | .count id, m => ((m.cursor id).count, m)
  | .moveToFirst id, m => m.moveToFirst id
  | .cell id column, m => ((m.cursor id).text? column, m)
  | .close id, m => ((), m.close id)
  | .openAsset, m => m.openAsset
  | .duplicate file, m => (.ok file, m)
  | .log entry, m => ((), m.note (.log entry))

end Machine
end AlertSound.Host
