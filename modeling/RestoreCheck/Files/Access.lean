import RestoreCheck.Files.Read

/-!
# When entries were read

Following a symbolic link reads it, and so does asking for its target.  The time of the last reading
is kept, but not to the letter: it is renewed only where it would otherwise not be later than the
last change.  Every entry counts as changed at the present moment, at which it was made or given its
times.  So a time that lies in the future, and after the one of the content, stands; any other is
replaced by the present (`accessed_noteReading`).
-/

namespace RestoreCheck

/-- The node after it was read. -/
def Node.noteReading (now : Moment) (n : Node) : Node :=
  if now.total < n.accessed.total ∧ n.modified.total < n.accessed.total then n
  else { n with accessed := now }

/-- A node that was read is dated now or later. -/
theorem Node.accessed_noteReading (now : Moment) (n : Node) :
    now.total ≤ (n.noteReading now).accessed.total := by
  unfold Node.noteReading
  split
  · omega
  · exact Int.le_refl _

namespace FileSystem

variable (fs : FileSystem)

/-- The file system after the node at a location was read. -/
def readAt (l : Location) : FileSystem :=
  fs.modifyAt l fun n => n.noteReading fs.now

/-- The file system after a path was followed, wherever it led. -/
def afterFollowing (goal : Goal) (p : Path) : FileSystem :=
  (fs.passed goal p).foldl readAt fs

/-- The file system after the target of a symbolic link was asked for. -/
def afterReadLink (p : Path) : FileSystem :=
  let fs := fs.afterFollowing .entry p
  match fs.lookup .entry p, fs.readLink p with
  | .ok (l, _), .ok _ => fs.readAt l
  | _, _ => fs

/-- The file system after the paths of a link that is to be made were followed.  The second is
followed only if the first leads somewhere. -/
def afterHardLink (existing link : Path) : FileSystem :=
  if 0 ∈ link then fs
  else
    match fs.lookup .entry existing with
    | .error _ => fs.afterFollowing .entry existing
    | .ok _ => (fs.afterFollowing .entry existing).afterFollowing .name link

/-- The file system after the path of a symbolic link that is to be made was followed, for which its
target must be a path. -/
def afterSymlink (target link : Path) : FileSystem :=
  match checkPath target with
  | .error _ => fs
  | .ok () => fs.afterFollowing .name link

end FileSystem

end RestoreCheck
