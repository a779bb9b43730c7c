import RestoreCheck.Compare.Level
import RestoreCheck.Compare.Options

/-!
# Comparing trees

`Comparator.compare` goes through two trees level by level.  Only if a level is clean are the
attributes of its entries compared, in byte order, and only if all agree are the directories of the
level entered, in byte order too.  The first failure ends the comparison.

Flags and extended attributes are asked of an `Inspector`.  It carries a state of its own, and what
the comparison sees of the files may depend on that state: files may change while entries are
inspected.  Every question to the inspector is recorded.
-/

namespace RestoreCheck

/-- A source of the metadata that a file system's status does not hold. -/
structure Inspector (σ : Type) where
  /-- what the files look like in a state -/
  view : σ → View
  /-- the flags of an entry -/
  flags : Path → Meta → σ → UInt64 × σ
  /-- the extended attributes of an entry, links not followed -/
  xattrs : Path → σ → Except Fault Xattrs × σ

/-- A question to an inspector. -/
inductive Query where
  | flags (path : Path)
  | xattrs (path : Path)
deriving DecidableEq

/-- How far a comparison has come. -/
structure Progress (σ : Type) where
  /-- the inspector's state -/
  state : σ
  /-- the questions asked so far -/
  queries : List Query

/-- A part of a comparison, which may end it. -/
abbrev Walk (σ : Type) := ExceptT Failure (StateM (Progress σ))

/-- How two trees are compared. -/
structure Comparator (σ : Type) where
  /-- what is compared -/
  options : Options
  /-- what the file systems can do -/
  capabilities : Capabilities
  /-- where flags and extended attributes come from -/
  inspector : Inspector σ

namespace Comparator

variable {σ : Type} (c : Comparator σ)

/-- What the files look like now. -/
def view : Walk σ View := do
  return c.inspector.view (← get).state

/-- Asks for the flags of an entry. -/
def askFlags (path : Path) (m : Meta) : Walk σ UInt64 :=
  modifyGet fun s =>
    let (flags, state) := c.inspector.flags path m s.state
    (flags, ⟨state, s.queries ++ [.flags path]⟩)

/-- Asks for the extended attributes of an entry. -/
def askXattrs (path : Path) : Walk σ Xattrs := do
  let answer ← modifyGet fun s =>
    let (answer, state) := c.inspector.xattrs path s.state
    (answer, ⟨state, s.queries ++ [.xattrs path]⟩)
  match answer with
  | .ok m => return m
  | .error cause => throw (.unreadable path cause)

/-- **The attributes of one side of a pair**, normalized.  The link count of a directory is dropped
if the pair is seen through a mount. -/
def attributes (name : Bytes) (path : Path) (m : Meta) (mounted : Bool) : Walk σ Attributes := do
  let base := Attributes.base name m !(mounted && m.isDirectory)
  let flags ← if c.options.ignoreFlags then pure none else some <$> c.askFlags path m
  -- Flags are asked for before extended attributes, and the time asks for nothing.
  let mtime := (c.options.timeRule? c.capabilities mounted).map (·.apply m.mtime)
  let xattrs ← if c.options.ignoreXattrs then pure none
    else (some ∘ dropLabel) <$> c.askXattrs path
  return { base with flags, mtime, xattrs }

/-- The status of an entry, links not followed. -/
def status (path : Path) : Walk σ Meta := do
  match (← c.view).status path with
  | .ok m => return m
  | .error cause => throw (.unreadable path cause)

/-- Compares the attributes of two entries of one name. -/
def compareName (left right : Path) (n : Name) : Walk σ Unit := do
  let leftPath := left.join n.bytes
  let rightPath := right.join n.bytes
  -- Both sides are looked at before anything is asked of the inspector.
  let leftMeta ← c.status leftPath
  let rightMeta ← c.status rightPath
  let mounted := c.options.mountedView.applies leftMeta rightMeta
  let leftAttributes ← c.attributes n.bytes leftPath leftMeta mounted
  let rightAttributes ← c.attributes n.bytes rightPath rightMeta mounted
  if leftAttributes ≠ rightAttributes then
    throw (.attributes leftPath rightPath leftAttributes rightAttributes)

/-- Compares the contents of two directories, and gives the level if it is clean. -/
def compareLevel (left right : Path) : Walk σ Level := do
  match Level.of (← c.view) left right with
  | .error failure => throw failure
  | .ok level =>
    if level.agrees then return level
    throw (level.failure left right)

/-- **Compares two trees.**  A directory that was listed has a short path, so the test before the
descent always holds there; it bounds the depth. -/
def compare (left right : Path) : Walk σ Unit := do
  let level ← c.compareLevel left right
  level.common.forM fun n => c.compareName left right n
  if _h : left.length < Path.limit then
    level.subdirectories.forM fun n => compare (left.join n.bytes) (right.join n.bytes)
termination_by Path.limit - left.length
decreasing_by
  have := Path.length_lt_length_join left n
  omega

/-- The outcome of a comparison, with the final state of the inspector and all questions to it. -/
def run (left right : Path) (s : σ) : Except Failure Unit × Progress σ :=
  (c.compare left right).run ⟨s, []⟩

end Comparator

end RestoreCheck
