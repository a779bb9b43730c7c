import RestoreCheck.Files.Write

/-!
# Trees made from a description

A tree is described entry by entry, directories before what is in them.  First all entries are
made; only then is each given its owner, permissions, extended attributes and times, so that neither
permissions nor the making of later entries interfere.
-/

namespace RestoreCheck.Layout

/-- What sort of entry is made. -/
inductive Form where
  | file (data : Bytes)
  | directory
  | symlink (target : Path)
  /-- another name for an entry of the same tree -/
  | hardLink (target : Path)
  | fifo
  | device
  | socket

/-- An entry of a tree. -/
structure Item where
  /-- its path in the tree -/
  path : Path
  /-- what sort of entry it is -/
  form : Form
  /-- its permissions, unless they are the usual ones -/
  permissions : Option UInt32
  /-- its owner -/
  uid : UInt32
  /-- its group -/
  gid : UInt32
  /-- both of its times -/
  modified : Moment
  /-- its extended attributes -/
  xattrs : List (Bytes × Bytes)
  /-- whether it is left out of dumps -/
  nodump : Bool

/-- A tree. -/
inductive Tree where
  /-- nothing at all -/
  | absent
  /-- one entry, which is the root itself -/
  | single (item : Item)
  /-- a directory with entries in it -/
  | directory (items : List Item)

/-- Why a tree could not be made. -/
inductive LayoutFault where
  /-- an entry could not be made -/
  | create (path : Path) (cause : Fault)
  /-- an entry could not be given its attributes -/
  | dress (path : Path) (cause : Fault)

/-- The text of a fault. -/
def LayoutFault.message : LayoutFault → String
  | create path cause => "create " ++ Text.lossy path ++ ": " ++ cause.message
  | dress path cause => "dress " ++ Text.lossy path ++ ": " ++ cause.message

/-- Makes an entry at a path in the tree of a root. -/
def create (root : Path) (path : Path) (form : Form) (fs : FileSystem) : Except Fault FileSystem :=
  match form with
  | .file data => fs.writeFile path data
  | .directory => fs.makeDirectory path
  | .symlink target => fs.makeSymlink target path
  | .hardLink target => fs.makeHardLink (root.join target) path
  | .fifo => fs.makeFifo path 0o644
  | .device => fs.makeDevice path
  | .socket => fs.makeSocket path

/-- The permissions of an entry for which none are given. -/
def Form.usualPermissions : Form → UInt32
  | .directory => 0o755
  | _ => 0o644

/-- Gives an entry its attributes.  A symbolic link has no permissions of its own. -/
def dress (path : Path) (item : Item) (fs : FileSystem) : Except Fault FileSystem := do
  let fs ← fs.setOwner path item.uid item.gid
  let fs ← match item.form with
    | .symlink _ => pure fs
    | form => fs.setPermissions path (item.permissions.getD form.usualPermissions)
  let fs ← item.xattrs.foldlM (fun fs e => fs.setXattr path e.1 e.2) fs
  let fs ← if item.nodump then fs.setNodump path else pure fs
  fs.setTimes path item.modified item.modified

/-- Another name for an entry has its attributes already. -/
def Form.isDressed : Form → Bool
  | .hardLink _ => false
  | _ => true

/-- Makes the entries of a tree, each at the path that `place` gives it. -/
def buildItems (root : Path) (place shown : Item → Path) (items : List Item) (fs : FileSystem) :
    Except LayoutFault FileSystem := do
  let fs ← items.foldlM (fun fs item =>
    (create root (place item) item.form fs).mapError (.create item.path)) fs
  (items.filter (·.form.isDressed)).foldlM (fun fs item =>
    (dress (place item) item fs).mapError (.dress (shown item))) fs

/-- **Makes a tree** at the path `root`, which faults call `label`. -/
def build (root label : Path) (tree : Tree) (fs : FileSystem) : Except LayoutFault FileSystem :=
  match tree with
  | .absent => .ok fs
  | .single item => buildItems root (fun _ => root) (fun _ => label) [item] fs
  | .directory items => do
    let fs ← (fs.makeDirectory root).mapError (.create label)
    buildItems root (fun item => root.join item.path) (fun item => label.join item.path) items fs

end RestoreCheck.Layout
