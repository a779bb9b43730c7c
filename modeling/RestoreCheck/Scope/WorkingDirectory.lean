import RestoreCheck.Files.Write
import RestoreCheck.Scope.Guard

/-!
# The working directory

The working directory is changed for a while and then restored.  The previous one is remembered by
its path; if that path leads nowhere by then, the working directory stays what it is.
-/

namespace RestoreCheck.WorkingDirectory

/-- Goes back to a directory, if it is still there. -/
def restore (previous : Path) (fs : FileSystem) : FileSystem :=
  (fs.changeDirectory previous).toOption.getD fs

/-- **Changes the working directory** until the guard is ended.  If that fails nothing changes. -/
def enter (p : Path) (fs : FileSystem) : Except Fault (Guard FileSystem Path) × FileSystem :=
  match fs.cwdPath with
  | .error f => (.error f, fs)
  | .ok previous =>
    match fs.changeDirectory p with
    | .error f => (.error f, fs)
    | .ok fs' => (.ok (.new previous restore), fs')

end RestoreCheck.WorkingDirectory
