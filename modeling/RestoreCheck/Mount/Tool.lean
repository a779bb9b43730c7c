import RestoreCheck.Program.CommandLine

/-!
# The mount command

The mount command is a program with leading arguments.  For a mount the repository, the word
`mount`, the mountpoint and the options follow them, in this order.
-/

namespace RestoreCheck

/-- A program that mounts, with its leading arguments. -/
structure MountTool where
  /-- the program -/
  program : Bytes
  /-- the arguments that come first -/
  leading : List Bytes
deriving DecidableEq

namespace MountTool

/-- A program without leading arguments. -/
def ofProgram (program : Bytes) : MountTool := ⟨program, []⟩

/-- The command with one more leading argument. -/
def argument (c : MountTool) (a : Bytes) : MountTool :=
  { c with leading := c.leading ++ [a] }

/-- The command with more leading arguments. -/
def arguments (c : MountTool) (as : List Bytes) : MountTool :=
  { c with leading := c.leading ++ as }

/-- **The command line of a mount.** -/
def commandLine (c : MountTool) (location : Bytes) (mountpoint : Bytes) (options : List Bytes) :
    CommandLine :=
  ⟨c.program, c.leading ++ (.ofString "--repo=" ++ location) :: .ofString "mount" :: mountpoint
    :: options⟩

end MountTool

end RestoreCheck
