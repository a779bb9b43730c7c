import RestoreCheck.Files.Read

/-!
# Mount points of a file system

A directory is a mount point if it lies on another device than the directory above it, or if it is
its own directory above, as the root is.
-/

namespace RestoreCheck.FileSystem

/-- The name of the directory above. -/
def above : Path := [0x2E, 0x2E]

/-- **Whether a path is a mount point.**  A symbolic link is none, and neither is anything whose
status, or that of the directory above, cannot be read. -/
def isMountPoint (fs : FileSystem) (p : Path) : Bool :=
  match fs.lookup .entry p with
  | .error _ => false
  | .ok (_, n) =>
    match n.kind with
    | .symlink _ => false
    | _ =>
      match fs.lookup .entry (p.join above) with
      | .error _ => false
      | .ok (_, parent) => n.device ≠ parent.device || n.number = parent.number

end RestoreCheck.FileSystem
