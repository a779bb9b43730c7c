import RestoreCheck.Files.Node

/-!
# File systems

A file system is a table of nodes and the names under which they stand.  A name stands at a
`Location`, the list of directory names above it with the innermost first, so that the directory of
a location is its tail and the root is the empty list.  Two locations with one node are hard links.
-/

namespace RestoreCheck

/-- A place in the tree of names, innermost name first. -/
abbrev Location := List Name

/-- A file system, with the directory that relative paths start from. -/
structure FileSystem where
  /-- which node stands where -/
  names : List (Location × Nat)
  /-- the nodes -/
  nodes : Array Node
  /-- the working directory, unless it was removed -/
  cwd : Option Location
  /-- the present moment, as changes are dated -/
  now : Moment
  /-- the earliest second that a device can store, where there is one -/
  earliest : List (UInt64 × Int)

namespace FileSystem

variable (fs : FileSystem)

/-! ### Looking up -/

/-- The index of the node at a location. -/
def index? (l : Location) : Option Nat :=
  (fs.names.find? fun e => e.1 = l).map Prod.snd

/-- The node at a location. -/
def node? (l : Location) : Option Node :=
  (fs.index? l).bind (fs.nodes[·]?)

/-- Whether a directory stands at a location. -/
def isDirectoryAt (l : Location) : Bool :=
  (fs.node? l).any Node.isDirectory

/-- The device that holds the node at a location. -/
def deviceAt (l : Location) : Option UInt64 :=
  (fs.node? l).map Node.device

/-- Whether something is mounted on the directory at a location: it lies on another device than the
directory above it. -/
def isMountedAt (l : Location) : Bool :=
  fs.deviceAt l ≠ fs.deviceAt l.tail

/-- The names in the directory at a location, in the order in which they were made. -/
def children (l : Location) : List Name :=
  fs.names.filterMap fun e =>
    match e.1 with
    | n :: parent => if parent = l then some n else none
    | [] => none

/-- The number of links to the node at a location: a directory is linked by its name, by itself and
by the directories in it. -/
def linkCount (l : Location) : Nat :=
  if fs.isDirectoryAt l then
    2 + ((fs.children l).filter fun n => fs.isDirectoryAt (n :: l)).length
  else
    match fs.index? l with
    | some i => (fs.names.filter fun e => e.2 = i).length
    | none => 0

/-! ### Changing -/

/-- The file system with the node of an index changed. -/
def modifyNode (i : Nat) (f : Node → Node) : FileSystem :=
  { fs with nodes := fs.nodes.modify i f }

/-- The file system with the node at a location changed. -/
def modifyAt (l : Location) (f : Node → Node) : FileSystem :=
  match fs.index? l with
  | some i => fs.modifyNode i f
  | none => fs

/-- A moment as a device stores it.  One that is not after the earliest second becomes that
second. -/
def stored (device : UInt64) (m : Moment) : Moment :=
  match fs.earliest.find? fun e => e.1 = device with
  | some (_, second) => if m.seconds ≤ second then ⟨second, 0⟩ else m
  | none => m

/-- Dates the directory of a location, whose names have changed. -/
def touchParent (l : Location) : FileSystem :=
  fs.modifyAt l.tail fun n => { n with modified := fs.now }

/-- Puts the name of a node at a location. -/
def addName (l : Location) (i : Nat) : FileSystem :=
  { fs with names := fs.names ++ [(l, i)] }.touchParent l

/-- A new node of some kind at a location, on the device of its directory. -/
def addNode (l : Location) (kind : NodeKind) (permissions : UInt32) : FileSystem :=
  let device := ((fs.node? l.tail).map Node.device).getD 0
  let node : Node :=
    { kind, device, number := fs.nodes.size.toUInt64 + 1, permissions, uid := 0, gid := 0,
      accessed := fs.now, modified := fs.now, born := fs.now, xattrs := .empty, nodump := false }
  { fs with nodes := fs.nodes.push node }.addName l fs.nodes.size

/-- Removes a location and all locations below it. -/
def removeNames (l : Location) : FileSystem :=
  { fs with
    names := fs.names.filter fun e => !(l.isSuffixOf e.1)
    cwd := fs.cwd.filter fun w => !(l.isSuffixOf w) }.touchParent l

/-- A location after the names under `old` have gone to `new`. -/
def moved (old new l : Location) : Location :=
  if old.isSuffixOf l then l.take (l.length - old.length) ++ new else l

/-- Moves a location, with all locations below it. -/
def moveNames (old new : Location) : FileSystem :=
  let fs' : FileSystem :=
    { fs with
      names := fs.names.map fun e => (moved old new e.1, e.2)
      cwd := fs.cwd.map (moved old new) }
  (fs'.touchParent old).touchParent new

/-- An empty file system: a root directory and nothing else, at some moment. -/
def empty (now : Moment) : FileSystem where
  names := [([], 0)]
  nodes := #[{ kind := .directory, device := 1, number := 1, permissions := 0o755, uid := 0,
               gid := 0, accessed := now, modified := now, born := now, xattrs := .empty,
               nodump := false }]
  cwd := some []
  now := now
  earliest := []

end FileSystem

end RestoreCheck
