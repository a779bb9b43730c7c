import RestoreCheck.Time.Stamp

/-!
# The status of an entry

`Meta` is what the comparison looks at in the status of an entry, which is not followed if it is a
symbolic link.  The type of the entry stands in the upper bits of its mode.
-/

namespace RestoreCheck

/-- The compared part of an entry's status. -/
structure Meta where
  /-- permissions and, above them, the type -/
  mode : UInt32
  /-- the owner -/
  uid : UInt32
  /-- the group -/
  gid : UInt32
  /-- the device that holds the entry -/
  device : UInt64
  /-- the device that the entry stands for, if it does -/
  rdev : UInt64
  /-- the number of links -/
  nlink : UInt64
  /-- when the content was last changed -/
  mtime : Stamp
deriving DecidableEq

namespace Meta

/-- The bits of a mode that hold the type. -/
def typeMask : UInt32 := 0o170000
/-- The type of a named pipe. -/
def fifoType : UInt32 := 0o010000
/-- The type of a character device. -/
def charType : UInt32 := 0o020000
/-- The type of a directory. -/
def directoryType : UInt32 := 0o040000
/-- The type of a block device. -/
def blockType : UInt32 := 0o060000
/-- The type of a regular file. -/
def fileType : UInt32 := 0o100000
/-- The type of a symbolic link. -/
def symlinkType : UInt32 := 0o120000
/-- The type of a socket. -/
def socketType : UInt32 := 0o140000

/-- The type of an entry. -/
def type (m : Meta) : UInt32 :=
  m.mode &&& typeMask

/-- Whether the entry is a directory. -/
def isDirectory (m : Meta) : Bool :=
  m.type = directoryType

/-- Whether the entry is a symbolic link. -/
def isSymlink (m : Meta) : Bool :=
  m.type = symlinkType

/-- Whether the entry is a device of either sort. -/
def isDevice (m : Meta) : Bool :=
  m.type = charType || m.type = blockType

end Meta

end RestoreCheck
