import RestoreCheck.Files.Write

/-!
# A host to work on

`Host.standard` is a file system as a small installation has it: a root with the usual directories,
files that the system makes up under `/proc`, the null device, a second device under
`/media/second`, a directory for temporary files and an empty working directory.
-/

namespace RestoreCheck.Host

/-- The moment at which changes are dated.  It is no whole number of seconds. -/
def present : Moment := ⟨1785000000, 123456789⟩

/-- The earliest second that the first device can store, which is 2^31 seconds before the epoch. -/
def earliestSecond : Int := -2147483648

/-- Adds an entry, if its directory is there and its name is free. -/
def add (path : String) (kind : NodeKind) (permissions : UInt32) (fs : FileSystem) : FileSystem :=
  (fs.make (.ofString path) kind permissions).toOption.getD fs

/-- Puts a directory, so far empty, on a device of its own. -/
def mountOn (path : String) (device : UInt64) (fs : FileSystem) : FileSystem :=
  match fs.locate .target (.ofString path) with
  | .ok l => fs.modifyAt l fun n => { n with device := device }
  | .error _ => fs

/-- Takes the permission to change a directory away from everyone. -/
def protect (path : String) (fs : FileSystem) : FileSystem :=
  (fs.setPermissions (.ofString path) 0o555).toOption.getD fs

/-- A file that the system makes up: it states no length and yet has content. -/
def madeUp (content : String) : NodeKind :=
  .file 0 (.ok (.ofString content))

/-- The path of the second device. -/
def secondDevice : Path := .ofString "/media/second"

/-- The directory for temporary files. -/
def tempDirectory : Path := .ofString "/var/spool/scratch"

/-- The working directory. -/
def workDirectory : Path := .ofString "/srv/work"

/-- **The standard host.** -/
def standard : FileSystem :=
  let steps : List (FileSystem → FileSystem) := [
    add "/proc" .directory 0o755,
    mountOn "/proc" 2,
    add "/proc/4242" .directory 0o755,
    add "/proc/self" (.symlink (.ofString "4242")) 0o777,
    add "/proc/version" (madeUp "System version 6.1\n") 0o444,
    add "/proc/4242/status" (madeUp "Name:\trestore\nState:\tR (running)\nPid:\t4242\n") 0o444,
    add "/proc/4242/mem" (.file 0 (.error .inputOutput)) 0o600,
    protect "/proc/4242",
    protect "/proc",
    add "/dev" .directory 0o755,
    mountOn "/dev" 3,
    add "/dev/null" (.charDevice 0x103) 0o666,
    add "/sys" .directory 0o555,
    mountOn "/sys" 4,
    add "/media" .directory 0o755,
    add "/media/second" .directory 0o755,
    mountOn "/media/second" 5,
    add "/var" .directory 0o755,
    add "/var/spool" .directory 0o755,
    add "/var/spool/scratch" .directory 0o1777,
    add "/tmp" .directory 0o1777,
    add "/bin" .directory 0o755,
    add "/etc" .directory 0o755,
    add "/home" .directory 0o755,
    add "/root" .directory 0o700,
    add "/usr" .directory 0o755,
    add "/srv" .directory 0o755,
    add "/srv/work" .directory 0o755]
  let root : FileSystem := { FileSystem.empty present with earliest := [(1, earliestSecond)] }
  let fs := steps.foldl (fun fs step => step fs) root
  (fs.changeDirectory workDirectory).toOption.getD fs

end RestoreCheck.Host
