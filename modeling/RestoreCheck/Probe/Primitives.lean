import RestoreCheck.Files.Access
import RestoreCheck.Files.Write
import RestoreCheck.Platform
import RestoreCheck.Scope.Scratch

/-!
# What probes are made of

`Primitives` are the few operations on files that probes try out, over a state that the operations
may change in any way.  A fixed sequence of scratch paths belongs to them, all different.
`Primitives.ofFiles` are the operations of a file system, with the gates of a platform.
-/

namespace RestoreCheck

/-- What a probe reads in the status of an entry. -/
structure ProbeStatus where
  /-- its number -/
  number : UInt64
  /-- its link count -/
  nlink : UInt64
  /-- when it was last read -/
  accessed : Stamp
  /-- when it was last changed -/
  modified : Stamp
  /-- when it was made, where that is known -/
  born : Option Stamp
deriving DecidableEq

/-- An operation that a probe tries. -/
inductive ProbeCall where
  | symlink (target link : Path)
  | readLink (path : Path)
  | createFile (path : Path)
  | hardLink (existing link : Path)
  | makeFifo (path : Path)
  /-- status, links not followed -/
  | lstat (path : Path)
  /-- status, links followed -/
  | stat (path : Path)
  /-- sets both times, in seconds, links not followed -/
  | setTimes (path : Path) (accessed modified : Int)
  | setNodump (path : Path)
deriving DecidableEq

/-- The sorts of operations that probes try. -/
inductive ProbeMethod where
  | symlink
  | readLink
  | createFile
  | hardLink
  | makeFifo
  | lstat
  | stat
  | setTimes
  | setNodump
deriving DecidableEq

namespace ProbeMethod

/-- Every sort of operation. -/
def all : List ProbeMethod :=
  [symlink, readLink, createFile, hardLink, makeFifo, lstat, stat, setTimes, setNodump]

/-- The name of an operation. -/
def text : ProbeMethod → String
  | symlink => "symlink"
  | readLink => "read_link"
  | createFile => "create_file"
  | hardLink => "hard_link"
  | makeFifo => "mkfifo"
  | lstat => "lstat"
  | stat => "stat"
  | setTimes => "set_times"
  | setNodump => "set_nodump"

end ProbeMethod

namespace ProbeCall

/-- The operation that is tried. -/
def method : ProbeCall → ProbeMethod
  | symlink _ _ => .symlink
  | readLink _ => .readLink
  | createFile _ => .createFile
  | hardLink _ _ => .hardLink
  | makeFifo _ => .makeFifo
  | lstat _ => .lstat
  | stat _ => .stat
  | setTimes _ _ _ => .setTimes
  | setNodump _ => .setNodump

/-- The paths on which it is tried.  The target of a link is not one of them. -/
def paths : ProbeCall → List Path
  | hardLink existing link => [existing, link]
  | symlink _ p | readLink p | createFile p | makeFifo p | lstat p | stat p | setTimes p _ _
  | setNodump p => [p]

/-- The call of an operation on one or two paths, with times where it sets them. -/
def of (m : ProbeMethod) (first second : Path) (accessed modified : Int) : ProbeCall :=
  match m with
  | .symlink => symlink first second
  | .readLink => readLink first
  | .createFile => createFile first
  | .hardLink => hardLink first second
  | .makeFifo => makeFifo first
  | .lstat => lstat first
  | .stat => stat first
  | .setTimes => setTimes first accessed modified
  | .setNodump => setNodump first

end ProbeCall

/-- What an operation gives back. -/
inductive ProbeReply where
  /-- it was done -/
  | done
  /-- the target of a link -/
  | target (path : Path)
  /-- the status of an entry -/
  | status (status : ProbeStatus)

/-- The operations that probes try. -/
structure Primitives (σ : Type) where
  /-- whether hard links can be made at all -/
  hasHardLinks : σ → Bool × σ
  /-- whether a file's status has a birth time -/
  hasBirthTime : σ → Bool × σ
  /-- whether there is a call that sets flags -/
  hasFlags : σ → Bool × σ
  symlink : Path → Path → σ → Except Fault Unit × σ
  readLink : Path → σ → Except Fault Path × σ
  createFile : Path → σ → Except Fault Unit × σ
  hardLink : Path → Path → σ → Except Fault Unit × σ
  makeFifo : Path → σ → Except Fault Unit × σ
  lstat : Path → σ → Except Fault ProbeStatus × σ
  stat : Path → σ → Except Fault ProbeStatus × σ
  setTimes : Path → Int → Int → σ → Except Fault Unit × σ
  setNodump : Path → σ → Except Fault Unit × σ
  /-- the `n`th scratch path -/
  scratch : Nat → Path
  /-- makes the directory of the `n`th scratch path, if that is possible -/
  openScratch : Nat → σ → Except Fault Unit × σ
  /-- removes the directory of the `n`th scratch path -/
  closeScratch : Nat → σ → σ
  /-- no scratch path is used twice -/
  scratch_injective : ∀ {m n : Nat}, scratch m = scratch n → m = n

namespace FileSystem

/-- The status of a node as probes read it. -/
def probeStatus (fs : FileSystem) (goal : Goal) (p : Path) : Except Fault ProbeStatus :=
  match fs.lookup goal p with
  | .error f => .error f
  | .ok (l, n) =>
    .ok ⟨n.number, (fs.linkCount l).toUInt64, .ofMoment n.accessed, .ofMoment n.modified,
      some (.ofDistance n.born)⟩

end FileSystem

namespace Primitives

/-- **Performs a call.** -/
def perform {σ : Type} (p : Primitives σ) (call : ProbeCall) (s : σ) :
    Except Fault ProbeReply × σ :=
  let done (r : Except Fault Unit × σ) : Except Fault ProbeReply × σ :=
    (r.1.map fun _ => .done, r.2)
  match call with
  | .symlink target link => done (p.symlink target link s)
  | .readLink path =>
    let (r, s) := p.readLink path s
    (r.map .target, s)
  | .createFile path => done (p.createFile path s)
  | .hardLink existing link => done (p.hardLink existing link s)
  | .makeFifo path => done (p.makeFifo path s)
  | .lstat path =>
    let (r, s) := p.lstat path s
    (r.map .status, s)
  | .stat path =>
    let (r, s) := p.stat path s
    (r.map .status, s)
  | .setTimes path accessed modified => done (p.setTimes path accessed modified s)
  | .setNodump path => done (p.setNodump path s)

/-- An operation that changes a file system or fails. -/
def changing (f : FileSystem → Except Fault FileSystem) (fs : FileSystem) :
    Except Fault Unit × FileSystem :=
  match f fs with
  | .ok fs' => (.ok (), fs')
  | .error fault => (.error fault, fs)

/-- An operation that reads a status. -/
def asking (goal : Goal) (p : Path) (fs : FileSystem) : Except Fault ProbeStatus × FileSystem :=
  let fs := fs.afterFollowing goal p
  (fs.probeStatus goal p, fs)

/-- **The operations of a file system.**  Only the gates depend on the platform.  An operation that
fails may have followed links all the same. -/
def ofFiles (profile : Profile) (temp : Path) : Primitives FileSystem where
  hasHardLinks fs := (profile.hasHardLinks, fs)
  hasBirthTime fs := (profile.hasBirthTime, fs)
  hasFlags fs := (profile.hasFlags, fs)
  symlink target link fs :=
    changing (fun fs => fs.makeSymlink target link) (fs.afterSymlink target link)
  readLink p fs := (fs.readLink p, fs.afterReadLink p)
  createFile p fs := changing (fun fs => fs.createFile p) (fs.afterFollowing .file p)
  hardLink existing link fs :=
    changing (fun fs => fs.makeHardLink existing link) (fs.afterHardLink existing link)
  makeFifo p fs := changing (fun fs => fs.makeFifo p 0o600) (fs.afterFollowing .name p)
  lstat := asking .entry
  stat := asking .target
  setTimes p accessed modified fs :=
    changing (fun fs => fs.setTimes p ⟨accessed, 0⟩ ⟨modified, 0⟩) (fs.afterFollowing .entry p)
  setNodump p fs := changing (fun fs => fs.setNodump p) (fs.afterFollowing .entry p)
  scratch := Scratch.path temp
  openScratch n := changing (Scratch.openAt temp n)
  closeScratch n fs := Scratch.close temp n fs
  scratch_injective := Scratch.path_injective

end Primitives

end RestoreCheck
