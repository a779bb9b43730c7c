import RestoreCheck.Mount.Detection
import RestoreCheck.Mount.Session
import RestoreCheck.Mount.UnmountCommand
import RestoreCheck.Program.Toolbox
import RestoreCheck.Scope.Scratch
import RestoreCheck.Script

/-!
# A stand for trying out mounts

On a stand the mount command is a program of a machine.  Whether something is mounted is told by a
`Detector`: by a marker that the program leaves in the mountpoint, by the devices of the files,
or by answers that were set beforehand.  An `Unmounting` removes the marker, runs the commands that
unmount, does nothing, or fails.
-/

namespace RestoreCheck

/-- How it is told whether something is mounted. -/
inductive Detector where
  /-- a marker lies in the mountpoint -/
  | marker
  /-- the mountpoint is on a device of its own -/
  | devices
  /-- the answers are set beforehand -/
  | scripted (answers : List Bool)
deriving DecidableEq

/-- Asks a detector about a path. -/
def Detector.ask (p : Path) (fs : FileSystem) : Detector → Bool × Detector
  | marker => (fs.pathExists (Machine.marker p), marker)
  | devices => (fs.isMountPoint p, devices)
  | scripted answers =>
    let (answer, rest) := Script.next false answers
    (answer, scripted rest)

/-- How something is unmounted. -/
inductive Unmounting where
  /-- the marker is removed -/
  | marker
  /-- commands are run -/
  | command
  /-- nothing is done -/
  | idle
  /-- it fails -/
  | failing (cause : Fault)
deriving DecidableEq

/-- The programs, the detector and the unmounting of a stand. -/
structure Stand where
  /-- the programs -/
  programs : Programs
  /-- how it is told whether something is mounted -/
  detector : Detector
  /-- how something is unmounted -/
  unmounting : Unmounting

namespace Stand

/-- Lets the machine of a stand act. -/
def onMachine {α : Type} (act : Machine → α × Machine) (fs : FileSystem) (s : Stand) :
    α × FileSystem × Stand :=
  let (result, m) := act ⟨s.programs, fs⟩
  (result, m.files, { s with programs := m.toPrograms })

/-- Asks the detector of a stand. -/
def detect (p : Path) (fs : FileSystem) (s : Stand) : Bool × FileSystem × Stand :=
  let (answer, detector) := s.detector.ask p fs
  (answer, fs, { s with detector })

/-- Lets the unmounting of a stand act. -/
def unmount (p : Path) (fs : FileSystem) (s : Stand) : Except Fault Unit × FileSystem × Stand :=
  match s.unmounting with
  | .idle => (.ok (), fs, s)
  | .failing cause => (.error cause, fs, s)
  | .marker =>
    match fs.removeFile (Machine.marker p) with
    | .error cause => (.error cause, fs, s)
    | .ok fs => (.ok (), fs, s)
  | .command => onMachine (Machine.unmount p) fs s

/-- The name of a default mountpoint with some number. -/
def mountpointName (n : Nat) : Name where
  bytes := .ofString Mounter.mountpointStem ++ Scratch.digitBytes n
  bytes_ne_nil h := absurd (List.append_eq_nil_iff.1 h).1 (by decide)
  slash_notMem h := (List.mem_append.1 h).elim (by decide) (Scratch.slash_notMem_digitBytes n)

theorem mountpointName_injective {m n : Nat} (h : mountpointName m = mountpointName n) : m = n :=
  Scratch.digitBytes_injective (List.append_cancel_left (congrArg Name.bytes h))

/-- The names in the directory of default mountpoints. -/
def takenNames (temp : Path) (fs : FileSystem) : List Name :=
  match fs.locate .target temp with
  | .ok l => fs.children l
  | .error _ => []

/-- **The agents of a stand**, with a clock for every wait and a place for default mountpoints. -/
def agents (clock : Nat → Clock) (temp : Path) : Agents Stand where
  clock := clock
  temp := temp
  freshName n fs := mountpointName (Scratch.freeNumber mountpointName (takenNames temp fs) n)
  stem_prefix n fs := List.prefix_append _ _
  freshName_notMem {n fs l} hl := by
    have hfree := Scratch.name_freeNumber_notMem mountpointName_injective (takenNames temp fs) n
    unfold takenNames at hfree ⊢
    rw [hl] at hfree ⊢
    exact hfree
  supervise line := onMachine (Machine.supervise line)
  detach line := onMachine (Machine.detach line)
  detect := detect
  unmount := unmount

/-- A scene in which nothing has been done yet. -/
def scene (m : Machine) (detector : Detector) (unmounting : Unmounting) : Scene Stand where
  files := m.files
  agents := ⟨m.toPrograms, detector, unmounting⟩
  waited := 0
  drawn := 0
  log := []

/-- The paths that a detector was asked about. -/
def asked (events : List MountEvent) : List Path :=
  events.filterMap fun
    | .asked p _ => some p
    | _ => none

/-- The paths that were unmounted, whatever came of it. -/
def unmounted (events : List MountEvent) : List Path :=
  events.filterMap fun
    | .unmounted p => some p
    | _ => none

/-- What happened between two scenes. -/
structure Report where
  /-- the paths that the detector was asked about -/
  asked : List Path
  /-- the paths that were unmounted, whatever came of it -/
  unmounted : List Path
  /-- the programs that were run -/
  runs : List (List Bytes)

/-- What happened between a scene and a later one. -/
def report (before after : Scene Stand) : Report :=
  let events := after.history.drop before.log.length
  { asked := asked events
    unmounted := unmounted events
    runs := after.agents.programs.runs.drop before.agents.programs.runs.length }

/-! ### Changes between mounts -/

/-- Puts a program among those of the stand. -/
def install (name : Bytes) (stub : Stub) (scene : Scene Stand) : Scene Stand :=
  let m := Machine.install ⟨scene.agents.programs, scene.files⟩ name stub
  { scene with files := m.files, agents := { scene.agents with programs := m.toPrograms } }

/-- Sets the detector. -/
def setDetector (detector : Detector) (scene : Scene Stand) : Scene Stand :=
  { scene with agents := { scene.agents with detector } }

/-- Sets the unmounting. -/
def setUnmounting (unmounting : Unmounting) (scene : Scene Stand) : Scene Stand :=
  { scene with agents := { scene.agents with unmounting } }

end Stand

end RestoreCheck
