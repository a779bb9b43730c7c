import RestoreCheck.Files.Read

/-!
# Changing a file system

Each operation names its entry by a path, and either changes the file system or gives the fault for
which it did not.  New entries are made where nothing stands yet; the last name of their path is
not followed, so that a symbolic link is in the way even if it leads nowhere.
-/

namespace RestoreCheck.FileSystem

variable (fs : FileSystem)

/-! ### Making entries -/

/-- Whether names in a directory can be added and removed. -/
def changeable (l : Location) : Except Errno Unit :=
  match fs.node? l with
  | none => .error .noEntry
  | some n => if n.grants .write && n.grants .search then .ok () else .error .denied

/-- The free location that a new entry named by a path would take.  Only the path of a directory may
end in a slash. -/
def freePlace (p : Path) (isDirectory : Bool) : Except Fault Location :=
  match fs.find .name p with
  | .error f => .error f
  | .ok (.existing _) => .error (.system .alreadyExists)
  | .ok (.missing l n) =>
    if p.endsInSlash && !isDirectory then .error (.system .noEntry)
    else reported (fs.changeable l |>.map fun _ => n :: l)

/-- Makes an entry of some kind. -/
def make (p : Path) (kind : NodeKind) (permissions : UInt32) : Except Fault FileSystem :=
  match fs.freePlace p kind.isDirectory with
  | .error f => .error f
  | .ok l => .ok (fs.addNode l kind permissions)

/-- Makes a directory. -/
def makeDirectory (p : Path) : Except Fault FileSystem :=
  fs.make p .directory 0o755

/-- Makes a symbolic link.  Its target is checked like a path, but need not exist. -/
def makeSymlink (target link : Path) : Except Fault FileSystem :=
  if 0 ∈ target ∨ 0 ∈ link then .error .zeroInName
  else
    match checkPath target with
    | .error f => .error f
    | .ok () => fs.make link (.symlink target) 0o777

/-- Makes a named pipe.  A zero byte in its path is an invalid argument here. -/
def makeFifo (p : Path) (permissions : UInt32) : Except Fault FileSystem :=
  if 0 ∈ p then .error (.system .invalid) else fs.make p .fifo permissions

/-- Makes a socket. -/
def makeSocket (p : Path) : Except Fault FileSystem :=
  fs.make p .socket 0o755

/-- Makes a device, which takes a privilege that the process does not have. -/
def makeDevice (p : Path) : Except Fault FileSystem :=
  match fs.freePlace p false with
  | .error f => .error f
  | .ok _ => .error (.system .notPermitted)

/-- Makes another name for an entry, which must not be a directory.  An entry that is a symbolic
link is not followed. -/
def makeHardLink (existing link : Path) : Except Fault FileSystem :=
  if 0 ∈ existing ∨ 0 ∈ link then .error .zeroInName
  else
    match fs.lookup .entry existing with
    | .error f => .error f
    | .ok (o, n) =>
      match fs.freePlace link false with
      | .error f => .error f
      | .ok l =>
        if n.isDirectory then .error (.system .notPermitted)
        else if fs.deviceAt o ≠ fs.deviceAt l.tail then .error (.system .crossDevice)
        else
          match fs.index? o with
          | some i => .ok (fs.addName l i)
          | none => .error (.system .noEntry)

/-- Opens a regular file for writing, empty: one that exists loses its content, and else one is
made.  Links are followed, also one that leads to a missing name. -/
def createFile (p : Path) : Except Fault FileSystem :=
  match fs.find .file p with
  | .error f => .error f
  | .ok (.missing l n) =>
    reported (fs.changeable l |>.map fun _ => fs.addNode (n :: l) (.file 0 (.ok [])) 0o644)
  | .ok (.existing l) =>
    match fs.node? l with
    | none => .error (.system .noEntry)
    | some node =>
      match node.kind with
      | .directory => .error (.system .isDirectory)
      | .socket => .error (.system ⟨6⟩)
      | .file _ _ =>
        if !node.grants .write then .error (.system .denied)
        else
          .ok (fs.modifyAt l fun n => { n with kind := .file 0 (.ok []), modified := fs.now })
      -- A pipe or a device is opened, and nothing in it is lost.
      | _ => if node.grants .write then .ok fs else .error (.system .denied)

/-- Writes a whole regular file, which is made if it does not exist. -/
def writeFile (p : Path) (data : Bytes) : Except Fault FileSystem := do
  let fs' ← fs.createFile p
  match fs'.lookup .target p with
  | .error f => .error f
  | .ok (l, _) =>
    .ok (fs'.modifyAt l fun n =>
      match n.kind with
      | .file _ _ => { n with kind := .file data.length (.ok data) }
      | _ => n)

/-! ### Removing entries -/

/-- The location of an entry that is to be removed, and its node. -/
def removable (p : Path) : Except Fault (Location × Node) :=
  match fs.find .name p with
  | .error f => .error f
  | .ok (.missing _ _) => .error (.system .noEntry)
  | .ok (.existing l) =>
    match fs.node? l with
    | none => .error (.system .noEntry)
    | some n => reported (fs.changeable l.tail |>.map fun _ => (l, n))

/-- The last step of a path. -/
def lastStep (p : Path) : Option Path.Step :=
  p.namedSteps.getLast?

/-- Removes an empty directory. -/
def removeDirectory (p : Path) : Except Fault FileSystem :=
  match fs.removable p with
  | .error f => .error f
  | .ok (l, n) =>
    match lastStep p with
    -- A directory can be removed only under a name of its own.
    | some .stay => .error (.system .invalid)
    | some .up => .error (.system .notEmpty)
    | some (.enter _) =>
      if !n.isDirectory then .error (.system .notDirectory)
      -- A directory on which something is mounted is in use, empty or not.
      else if fs.isMountedAt l then .error (.system .busy)
      else if fs.children l ≠ [] then .error (.system .notEmpty)
      else .ok (fs.removeNames l)
    | _ => .error (.system .busy)

/-- Removes an entry that is no directory. -/
def removeFile (p : Path) : Except Fault FileSystem :=
  match fs.removable p with
  | .error f => .error f
  | .ok (l, n) =>
    match lastStep p with
    | some (.enter _) =>
      if n.isDirectory then .error (.system .isDirectory)
      else if p.endsInSlash then .error (.system .notDirectory)
      else .ok (fs.removeNames l)
    | _ => .error (.system .isDirectory)

/-- Removes an entry with all that is in it, if it is there. -/
def discard (p : Path) : FileSystem :=
  match fs.removable p with
  | .error _ => fs
  | .ok (l, _) => fs.removeNames l

/-- **Renames an entry.**  An entry of the new name is replaced: a file by a file, an empty
directory by a directory.  Nothing can be moved into itself. -/
def rename (source destination : Path) : Except Fault FileSystem :=
  if 0 ∈ source ∨ 0 ∈ destination then .error .zeroInName
  else do
    -- Both directories are there before either name is looked at.
    let sourceDirectory ← fs.directoryOf source
    let goalDirectory ← fs.directoryOf destination
    if fs.deviceAt sourceDirectory ≠ fs.deviceAt goalDirectory then
      throw (.system .crossDevice)
    match lastStep source, lastStep destination with
    | some (.enter a), some (.enter b) =>
      reported do
        match ← fs.findIn sourceDirectory a with
        | .missing _ _ => .error .noEntry
        | .existing old =>
          let _ ← fs.findIn goalDirectory b
          let new := b :: goalDirectory
          let isDirectory := fs.isDirectoryAt old
          if !isDirectory && (source.endsInSlash || destination.endsInSlash) then
            .error .notDirectory
          else if old.isSuffixOf new && old ≠ new then .error .invalid
          else if new.isSuffixOf old && old ≠ new then .error .notEmpty
          -- Two names of one file: both stay.
          else if fs.index? old = fs.index? new then .ok fs
          else
            fs.changeable sourceDirectory
            fs.changeable goalDirectory
            match fs.node? new with
            | none => .ok (fs.moveNames old new)
            | some n =>
              if isDirectory && !n.isDirectory then .error .notDirectory
              else if !isDirectory && n.isDirectory then .error .isDirectory
              else if fs.children new ≠ [] then .error .notEmpty
              else .ok ((fs.removeNames new).moveNames old new)
    | _, _ => .error (.system .busy)

/-! ### Changing what is there -/

/-- Sets the permissions of what a path leads to. -/
def setPermissions (p : Path) (permissions : UInt32) : Except Fault FileSystem :=
  match fs.lookup .target p with
  | .error f => .error f
  | .ok (l, _) => .ok (fs.modifyAt l fun n => { n with permissions := permissions })

/-- Gives an entry to an owner and a group.  The process may give it to itself only. -/
def setOwner (p : Path) (uid gid : UInt32) : Except Fault FileSystem :=
  match fs.lookup .entry p with
  | .error f => .error f
  | .ok _ => if uid = 0 ∧ gid = 0 then .ok fs else .error (.system .notPermitted)

/-- Sets the times of an entry, links not followed. -/
def setTimes (p : Path) (accessed modified : Moment) : Except Fault FileSystem :=
  if 0 ∈ p then .error .zeroInData
  else
    match fs.lookup .entry p with
    | .error f => .error f
    | .ok (l, _) =>
      .ok (fs.modifyAt l fun n =>
        { n with accessed := fs.stored n.device accessed, modified := fs.stored n.device modified })

/-- Marks what a path leads to as left out of dumps.  Only what can be opened for reading can be
marked, and a symbolic link cannot. -/
def setNodump (p : Path) : Except Fault FileSystem :=
  match fs.lookup .entry p with
  | .error f => .error f
  | .ok (l, n) =>
    match n.kind with
    | .symlink _ => .error (.system .linkLoop)
    | .socket => .error (.system ⟨6⟩)
    | kind =>
      if !n.grants .read then .error (.system .denied)
      else
        match kind with
        | .file _ _ | .directory => .ok (fs.modifyAt l fun n => { n with nodump := true })
        | _ => .error (.system .wrongRequest)

/-- The first bytes of the keys that only a privileged process may set. -/
def trustedSpace : Bytes := [0x74, 0x72, 0x75, 0x73, 0x74, 0x65, 0x64, 0x2E]

/-- The first bytes of the keys that belong to security modules. -/
def securitySpace : Bytes := [0x73, 0x65, 0x63, 0x75, 0x72, 0x69, 0x74, 0x79, 0x2E]

/-- Whether the process may set an extended attribute of a node. -/
def xattrSettable (n : Node) (key : Bytes) : Except Errno Unit :=
  if key = securityLabel then .ok ()
  else if securitySpace.isPrefixOf key || trustedSpace.isPrefixOf key then .error .notPermitted
  else if userSpace.isPrefixOf key then
    match n.kind with
    | .file _ _ | .directory => if n.grants .write then .ok () else .error .denied
    | _ => .error .notPermitted
  else .error .notSupported

/-- Sets an extended attribute of an entry, links not followed. -/
def setXattr (p : Path) (key value : Bytes) : Except Fault FileSystem :=
  if 0 ∈ p ∨ 0 ∈ key then .error .zeroInName
  else
    match fs.lookup .entry p with
    | .error f => .error f
    | .ok (l, n) =>
      reported (xattrSettable n key |>.map fun _ =>
        fs.modifyAt l fun n => { n with xattrs := n.xattrs.insert key value })

/-! ### The working directory -/

/-- The path of a location from the root. -/
def pathTo : Location → Path
  | [] => [slash]
  | l => l.reverse.flatMap fun n => slash :: n.bytes

/-- The path of the working directory. -/
def cwdPath : Except Fault Path :=
  match fs.cwd with
  | none => .error (.system .noEntry)
  | some l => .ok (pathTo l)

/-- Makes a directory the working directory. -/
def changeDirectory (p : Path) : Except Fault FileSystem :=
  match fs.lookup .target p with
  | .error f => .error f
  | .ok (l, _) =>
    match fs.enterable l with
    | .error e => .error (.system e)
    | .ok () => .ok { fs with cwd := some l }

end RestoreCheck.FileSystem
