import RestoreCheck.Compare.Walk
import RestoreCheck.Files.Write

/-!
# Inspectors of a file system

`Inspector.ofFiles` reads flags and extended attributes off the file system itself.
`Inspector.scripted` has its answers from a script, and lets something happen to the files whenever
it is asked for flags.
-/

namespace RestoreCheck

namespace Inspector

/-- **The inspector of a file system.**  Nothing changes while it answers. -/
def ofFiles : Inspector FileSystem where
  view := FileSystem.view
  flags path _ fs := (fs.flags path, fs)
  xattrs path fs := (fs.xattrs path, fs)

end Inspector

/-- What a script says about an entry. -/
structure ScriptedEntry where
  /-- its flags -/
  flags : UInt64
  /-- its extended attributes, or why they cannot be read -/
  xattrs : Except Fault Xattrs

namespace ScriptedEntry

/-- What holds of an entry that a script does not name. -/
def unnamed : ScriptedEntry := ⟨0, .ok .empty⟩

/-- What a script says about a path; the last entry that names the same route counts. -/
def find (script : List (Path × ScriptedEntry)) (path : Path) : ScriptedEntry :=
  ((script.reverse.find? fun e => e.1.same path).map Prod.snd).getD unnamed

end ScriptedEntry

/-- **An inspector with a script.**  `event` is what happens to the files when it is asked for the
flags of a path. -/
def Inspector.scripted (script : List (Path × ScriptedEntry))
    (event : Path → FileSystem → FileSystem) : Inspector FileSystem where
  view := FileSystem.view
  flags path _ fs := ((ScriptedEntry.find script path).flags, event path fs)
  xattrs path fs := ((ScriptedEntry.find script path).xattrs, fs)

/-- Removes `victim` whenever `path` is asked for. -/
def removalAt (path victim asked : Path) (fs : FileSystem) : FileSystem :=
  if path.same asked then fs.discard victim else fs

namespace Comparator

/-- **The attributes that an inspector's fixed answers give**, apart from any walk. -/
def attributesOf (options : Options) (capabilities : Capabilities) (entry : ScriptedEntry)
    (name : Bytes) (path : Path) (m : Meta) (mounted : Bool) : Except Failure Attributes :=
  let inspector : Inspector Unit :=
    { view := fun _ => ⟨fun _ => .error .earlyEnd, fun _ => .error .earlyEnd,
        fun _ => .error .earlyEnd, fun _ => .error .earlyEnd, fun h => by simp at h⟩
      flags := fun _ _ s => (entry.flags, s)
      xattrs := fun _ s => (entry.xattrs, s) }
  let c : Comparator Unit := ⟨options, capabilities, inspector⟩
  ((c.attributes name path m mounted).run ⟨(), []⟩).1

end Comparator

end RestoreCheck
