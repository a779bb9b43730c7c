import RestoreCheck.Compare.Content
import RestoreCheck.Compare.Failure

/-!
# One level of two trees

`Level.of` compares two directories without descending: which names stand on one side only, which
common files differ, which common entries cannot be judged, and which are directories on both sides.
All lists are in byte order.
-/

namespace RestoreCheck

/-- How two entries of one name compare when links are followed. -/
inductive EntryVerdict where
  /-- nothing speaks against them at this level -/
  | fine
  /-- regular files whose bytes differ -/
  | different
  /-- of different kinds, or files that could not be compared -/
  | funny
deriving DecidableEq

/-- **The verdict on two entries.**  Two that lead nowhere are left to their attributes, as are two
that lead to directories or to special files. -/
def entryVerdict (v : View) (left right : Path) : EntryVerdict :=
  match v.target left, v.target right with
  | .ok (.file m), .ok (.file n) =>
    match compareFiles v left right m n with
    | .same => .fine
    | .different => .different
    | .failed _ => .funny
  | .ok .directory, .ok .directory => .fine
  | .ok .special, .ok .special => .fine
  | .error _, .error _ => .fine
  | _, _ => .funny

/-- One level of two trees. -/
structure Level where
  /-- names on the left only -/
  leftOnly : List Name
  /-- names on the right only -/
  rightOnly : List Name
  /-- names on both sides -/
  common : List Name
  /-- common names of files whose bytes differ -/
  different : List Name
  /-- common names that could not be judged -/
  funny : List Name
  /-- common names of directories, links not followed -/
  subdirectories : List Name
deriving DecidableEq

namespace Level

/-- The level of two directories with these names in them. -/
def ofNames (v : View) (left right : Path) (leftNames rightNames : List Name) : Level :=
  let common := leftNames.filter (· ∈ rightNames)
  let verdict (n : Name) := entryVerdict v (left.join n.bytes) (right.join n.bytes)
  { leftOnly := leftNames.filter (· ∉ rightNames)
    rightOnly := rightNames.filter (· ∉ leftNames)
    common := common
    different := common.filter fun n => verdict n = .different
    funny := common.filter fun n => verdict n = .funny
    subdirectories := common.filter fun n =>
      v.isDirectory (left.join n.bytes) && v.isDirectory (right.join n.bytes) }

/-- **One level of two trees.**  The left directory is listed first. -/
def of (v : View) (left right : Path) : Except Failure Level :=
  match v.list left with
  | .error cause => .error (.unreadable left cause)
  | .ok leftNames =>
    match v.list right with
    | .error cause => .error (.unreadable right cause)
    | .ok rightNames =>
      .ok (ofNames v left right (Name.ascending leftNames) (Name.ascending rightNames))

/-- Whether nothing was found at this level. -/
def agrees (l : Level) : Bool :=
  l.leftOnly.isEmpty && l.rightOnly.isEmpty && l.different.isEmpty && l.funny.isEmpty

/-- The failure of a level that is not clean. -/
def failure (l : Level) (left right : Path) : Failure :=
  .structural left right (l.leftOnly.map Name.bytes) (l.rightOnly.map Name.bytes)
    (l.different.map Name.bytes) (l.funny.map Name.bytes)

end Level

end RestoreCheck
