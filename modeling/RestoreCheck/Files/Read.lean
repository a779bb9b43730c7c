import RestoreCheck.Compare.View
import RestoreCheck.Files.Resolve

/-!
# Reading a file system

Questions to a file system, each by a path: `FileSystem.view` puts those of a comparison together.
-/

namespace RestoreCheck.FileSystem

variable (fs : FileSystem)

/-- A path that can be followed is short. -/
theorem length_lt_of_follow {fs : FileSystem} {goal : Goal} {p : Path} {w : Walked}
    (h : fs.follow goal p = .ok w) : p.length < Path.limit := by
  simp only [follow] at h
  split at h
  · simp at h
  · rename_i hp
    simp only [checkPath] at hp
    split at hp
    · simp at hp
    · split at hp
      · simp at hp
      · split at hp
        · simp at hp
        · omega

theorem length_lt_of_lookup {fs : FileSystem} {goal : Goal} {p : Path} {r : Location × Node}
    (h : fs.lookup goal p = .ok r) : p.length < Path.limit := by
  simp only [lookup, locate, find] at h
  cases hf : fs.follow goal p with
  | error f => simp [hf] at h
  | ok w => exact length_lt_of_follow hf

/-! ### Status -/

/-- The status of the node at a location. -/
def metaAt (l : Location) (n : Node) : Meta where
  mode := n.mode
  uid := n.uid
  gid := n.gid
  device := n.device
  rdev := n.kind.deviceNumber
  nlink := (fs.linkCount l).toUInt64
  mtime := .ofMoment n.modified

/-- The status of an entry, links not followed. -/
def status (p : Path) : Except Fault Meta :=
  match fs.lookup .entry p with
  | .error f => .error f
  | .ok (l, n) => .ok (fs.metaAt l n)

/-- Whether a path leads to anything. -/
def pathExists (p : Path) : Bool :=
  match fs.lookup .target p with
  | .ok _ => true
  | .error _ => false

/-- Whether a path leads to a directory. -/
def isDirectory (p : Path) : Bool :=
  match fs.lookup .target p with
  | .ok (_, n) => n.isDirectory
  | .error _ => false

/-! ### Contents -/

/-- The names in a directory. -/
def list (p : Path) : Except Fault (List Name) :=
  match fs.lookup .target p with
  | .error f => .error f
  | .ok (l, n) =>
    if !n.isDirectory then .error (.system .notDirectory)
    else if !n.grants .read then .error (.system .denied)
    else .ok (fs.children l)

theorem length_lt_of_list {fs : FileSystem} {p : Path} {names : List Name}
    (h : fs.list p = .ok names) : p.length < Path.limit := by
  simp only [list] at h
  split at h
  · simp at h
  · rename_i hl
    exact length_lt_of_lookup hl

/-- What a path leads to. -/
def target (p : Path) : Except Fault Target :=
  match fs.lookup .target p with
  | .error f => .error f
  | .ok (_, n) =>
    match n.kind with
    | .directory => .ok .directory
    | .file length _ => .ok (.file length)
    | _ => .ok .special

/-- The content that a path leads to, if it is a regular file. -/
def content (p : Path) : Except Fault Stream :=
  match fs.lookup .target p with
  | .error f => .error f
  | .ok (_, n) =>
    if !n.grants .read then .error (.system .denied)
    else
      match n.kind with
      | .file _ (.ok data) => .ok (.ofBytes data)
      | .file _ (.error e) => .ok (.failing (.system e))
      | .directory => .ok (.failing (.system .isDirectory))
      | _ => .ok (.ofBytes [])

/-- The target of a symbolic link. -/
def readLink (p : Path) : Except Fault Path :=
  match fs.lookup .entry p with
  | .error f => .error f
  | .ok (_, n) =>
    match n.kind with
    | .symlink target => .ok target
    | _ => .error (.system .invalid)

/-- **What a comparison sees of a file system.** -/
def view : View where
  list := fs.list
  status := fs.status
  target := fs.target
  content := fs.content
  length_lt_of_list := length_lt_of_list

/-! ### Extended attributes and flags -/

/-- The first bytes of the keys that belong to users. -/
def userSpace : Bytes := [0x75, 0x73, 0x65, 0x72, 0x2E]

/-- The extended attributes of an entry, links not followed.  Reading those that belong to users
needs permission to read the entry.  A zero byte in the path is an invalid argument here. -/
def xattrs (p : Path) : Except Fault Xattrs :=
  match fs.lookup .entry p with
  | .error .zeroInName => .error (.system .invalid)
  | .error f => .error f
  | .ok (_, n) =>
    if !n.grants .read && n.xattrs.entries.any fun e => userSpace.isPrefixOf e.1 then
      .error (.system .denied)
    else .ok n.xattrs

/-- The flag of entries that are left out of dumps. -/
def nodumpFlag : UInt64 := 0x40

/-- The flags of an entry, links not followed.  Only files and directories that can be read have
any. -/
def flags (p : Path) : UInt64 :=
  match fs.lookup .entry p with
  | .error _ => 0
  | .ok (_, n) =>
    match n.kind with
    | .file _ _ | .directory => if n.grants .read && n.nodump then nodumpFlag else 0
    | _ => 0

end RestoreCheck.FileSystem
