import RestoreCheck.Entry.Meta
import RestoreCheck.Entry.Xattrs
import RestoreCheck.Text.Escaped
import RestoreCheck.Text.Octal

/-!
# Attribute vectors

`Attributes` is what is compared of an entry, field by field: its name, mode, owner and group, and,
where they mean something, the device it stands for, its link count, flags, time of change and
extended attributes.
-/

namespace RestoreCheck

/-- The compared attributes of an entry. -/
structure Attributes where
  /-- the name of the entry -/
  name : Bytes
  /-- its mode in octal, type included -/
  mode : String
  /-- its owner -/
  uid : UInt32
  /-- its group -/
  gid : UInt32
  /-- the device it stands for, kept for devices only -/
  rdev : Option UInt64
  /-- its link count, dropped for directories of a mounted view -/
  nlink : Option UInt64
  /-- its flags -/
  flags : Option UInt64
  /-- its time of change, rounded -/
  mtime : Option Stamp
  /-- its extended attributes but for the security label -/
  xattrs : Option Xattrs
deriving DecidableEq

namespace Attributes

/-- **The attributes that are always compared.**  The number of the device that an entry stands for
is meaningless, and differs between file systems, unless the entry is a device. -/
def base (name : Bytes) (m : Meta) (includeLinks : Bool) : Attributes where
  name := name
  mode := Text.octal m.mode.toNat
  uid := m.uid
  gid := m.gid
  rdev := if m.isDevice then some m.rdev else none
  nlink := if includeLinks then some m.nlink else none
  flags := none
  mtime := none
  xattrs := none

/-- An optional field, after a comma. -/
def fieldText (value : Option String) : String :=
  ", " ++ value.getD "None"

/-- Extended attributes between braces. -/
def xattrsText (m : Xattrs) : String :=
  "\x7b" ++ String.intercalate ", "
    (m.entries.map fun e => Text.lossy e.1 ++ ": " ++ Text.escaped e.2) ++ "\x7d"

/-- **The text of a vector**, as failures show it. -/
def text (a : Attributes) : String :=
  "[" ++ Text.lossy a.name ++ ", " ++ a.mode ++ ", " ++ toString a.uid ++ ", " ++ toString a.gid
    ++ fieldText (a.rdev.map toString) ++ fieldText (a.nlink.map toString)
    ++ fieldText (a.flags.map toString) ++ fieldText (a.mtime.map fun t => toString t.nanos)
    ++ (match a.xattrs with
      | some m => ", " ++ xattrsText m
      | none => "")
    ++ "]"

end Attributes

end RestoreCheck
