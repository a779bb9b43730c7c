import RestoreCheck.Entry.Meta
import RestoreCheck.Entry.Xattrs
import RestoreCheck.Fault.Errno
import RestoreCheck.Path

/-!
# Nodes of a file system

A node is a file of any kind, apart from the names under which it stands.  The length that a
regular file states and what reading it delivers are two things: files that the system makes up
state a length of zero.
-/

namespace RestoreCheck

/-- The kinds of nodes, with what is particular to each. -/
inductive NodeKind where
  /-- a regular file, with its stated length and what reading it gives -/
  | file (length : Nat) (content : Except Errno Bytes)
  | directory
  | symlink (target : Path)
  | fifo
  | socket
  | charDevice (number : UInt64)
  | blockDevice (number : UInt64)

/-- A node of a file system. -/
structure Node where
  /-- what sort of file it is -/
  kind : NodeKind
  /-- the device that holds it -/
  device : UInt64
  /-- its number on the device -/
  number : UInt64
  /-- who may do what with it: twelve bits -/
  permissions : UInt32
  /-- its owner -/
  uid : UInt32
  /-- its group -/
  gid : UInt32
  /-- when it was last read -/
  accessed : Moment
  /-- when it was last changed -/
  modified : Moment
  /-- when it was made -/
  born : Moment
  /-- its extended attributes -/
  xattrs : Xattrs
  /-- whether it is left out of dumps -/
  nodump : Bool

namespace NodeKind

/-- Whether a node is a directory. -/
def isDirectory : NodeKind → Bool
  | directory => true
  | _ => false

/-- The type bits of a node's mode. -/
def typeBits : NodeKind → UInt32
  | file _ _ => Meta.fileType
  | directory => Meta.directoryType
  | symlink _ => Meta.symlinkType
  | fifo => Meta.fifoType
  | socket => Meta.socketType
  | charDevice _ => Meta.charType
  | blockDevice _ => Meta.blockType

/-- The number of the device that a node stands for. -/
def deviceNumber : NodeKind → UInt64
  | charDevice number => number
  | blockDevice number => number
  | _ => 0

end NodeKind

/-- Something that permission is needed for. -/
inductive Access where
  | read
  | write
  /-- to use a directory as part of a path, or to run a program -/
  | search
deriving DecidableEq

/-- The owner's permission bit. -/
def Access.ownerBit : Access → UInt32
  | read => 0o400
  | write => 0o200
  | search => 0o100

namespace Node

/-- Whether a node is a directory. -/
def isDirectory (n : Node) : Bool :=
  n.kind.isDirectory

/-- **Whether access is granted.**  The process owns every file and has no privilege beyond its
owner's permissions. -/
def grants (n : Node) (a : Access) : Bool :=
  n.permissions &&& a.ownerBit ≠ 0

/-- The mode of a node: its permissions under its type. -/
def mode (n : Node) : UInt32 :=
  n.kind.typeBits ||| n.permissions

end Node

end RestoreCheck
