import RestoreCheck.Proofs.Files.Entries
import RestoreCheck.Proofs.Mount.Outcome
import RestoreCheck.Proofs.Program.HandingOver

/-!
# Mounts whose command is refused

A string of the mount command that holds a zero byte is noticed after the mountpoint was made.  The
launch is refused then, in whichever way the command was to be launched, and the mountpoint, which
nobody has touched, is removed again (`Mounter.run_mount_of_holdsZero`).
-/

namespace RestoreCheck

open MountEvent

/-- A machine of a stand launches a command as it does elsewhere. -/
theorem Agents.launch_onMachine {a : Agents Stand}
    (hsupervise : a.supervise = fun line => Stand.onMachine (Machine.supervise line))
    (hdetach : a.detach = fun line => Stand.onMachine (Machine.detach line)) (mode : LaunchMode)
    (line : CommandLine) : a.launch mode line = Stand.onMachine (Machine.launch mode line) := by
  funext files stand
  unfold launch Machine.launch Stand.onMachine
  rw [hsupervise, hdetach]
  cases mode <;> rfl

namespace Mounter

/-- The mounter whose command is launched on the machine of a stand.  The detector, whatever
unmounts, and the clock stay its own. -/
def onMachine (s : Mounter Stand) : Mounter Stand :=
  { s with
    agents := { s.agents with
      supervise := fun line => Stand.onMachine (Machine.supervise line)
      detach := fun line => Stand.onMachine (Machine.detach line) } }

/-- The agents of a stand launch on its machine already. -/
theorem onMachine_agents (tool : MountTool) (waits : Waits) (clock : Nat → Clock) (temp : Path) :
    onMachine ⟨tool, waits, Stand.agents clock temp⟩ = ⟨tool, waits, Stand.agents clock temp⟩ := rfl

variable (s : Mounter Stand) (location : Bytes) (requested : Option Path) (options : List Bytes)
  (wanted : Expectation) {scene : Scene Stand} {made : FileSystem}

/-- A command line with a zero byte is refused, and nobody touches the mountpoint. -/
theorem launches_of_holdsZero
    (hmade : scene.files.makeDirectory (s.mountpoint requested scene) = .ok made)
    (hzero : (s.tool.commandLine location (s.mountpoint requested scene) options).holdsZero = true) :
    ∃ cause, cause.isInvalidInput = true ∧
      s.onMachine.Launches location requested options wanted scene (.error ⟨.spawn, cause⟩)
        { named requested scene with
          files := made
          log := .launched (s.tool.commandLine location (s.mountpoint requested scene) options) ::
            .made (s.mountpoint requested scene) :: scene.log } := by
  obtain ⟨cause, hlaunch, hinvalid⟩ :=
    (Machine.launches ⟨scene.agents.programs, made⟩ _).refused hzero wanted.mode
  refine ⟨cause, hinvalid, .intro hmade ?_⟩
  rw [Agents.launch_onMachine rfl rfl]
  show Stand.onMachine (Machine.launch wanted.mode
    (s.tool.commandLine location (s.mountpoint requested scene) options)) made scene.agents = _
  unfold Stand.onMachine
  rw [hlaunch]
  rfl

/-- **A mount whose command holds a zero byte** ends with the launch.  What was done is that the
mountpoint was made and removed again. -/
theorem run_mount_of_holdsZero (htree : scene.files.IsTree)
    (hmade : scene.files.makeDirectory (s.mountpoint requested scene) = .ok made)
    (hzero : (s.tool.commandLine location (s.mountpoint requested scene) options).holdsZero = true) :
    ∃ cause after, cause.isInvalidInput = true ∧
      (s.onMachine.mount location requested options wanted).run scene =
        (.error (.fault (.launch ⟨.spawn, cause⟩)), after) ∧
      after.agents = scene.agents ∧
      made.removeDirectory (s.mountpoint requested scene) = .ok after.files ∧
      after.history = scene.history ++
        [.made (s.mountpoint requested scene),
          .launched (s.tool.commandLine location (s.mountpoint requested scene) options),
          .removed (s.mountpoint requested scene)] := by
  obtain ⟨cause, hinvalid, hlaunches⟩ :=
    s.launches_of_holdsZero location requested options wanted hmade hzero
  obtain ⟨d, n, -, hremove⟩ := FileSystem.removeDirectory_of_makeDirectory htree hmade
  have hmount := s.onMachine.mountEnds_mount location requested options wanted scene
  rcases hrun : (s.onMachine.mount location requested options wanted).run scene with
    ⟨result, after⟩
  rw [hrun] at hmount
  -- A refused launch leaves one way to end, and the removal succeeds on it.
  cases hmount.launchEnds hlaunches with
  | unlaunched =>
    refine ⟨cause, _, hinvalid, rfl, ?_⟩
    have hpoint : s.onMachine.mountpoint requested scene = s.mountpoint requested scene := rfl
    unfold abandoned
    dsimp only
    rw [hpoint, hremove]
    refine ⟨rfl, rfl, ?_⟩
    simp [Scene.history]

end Mounter

/-- **How a mount command is handed over**, and what comes of a zero byte in it. -/
structure HandsOver (s : Mounter Stand) : Prop where
  /-- The strings of a command line, in order. -/
  argv : ∀ location mountpoint options, (s.tool.commandLine location mountpoint options).argv =
    s.tool.program :: (s.tool.leading ++
      [.ofString "--repo=" ++ location, .ofString "mount", mountpoint] ++ options)
  /-- A machine launches them in both ways alike. -/
  launches : ∀ location mountpoint options (m : Machine),
    m.Launches (s.tool.commandLine location mountpoint options)
  /-- A mount with a zero byte in one of them is refused, whether it is to be supervised or not.
  The mountpoint, if it could be made, is removed, and nothing is different then but for dates. -/
  refused : ∀ location requested options wanted (scene : Scene Stand) (made : FileSystem),
    let p := s.mountpoint requested scene
    let line := s.tool.commandLine location p options
    scene.files.IsTree → scene.files.makeDirectory p = .ok made → (∃ a ∈ line.argv, 0 ∈ a) →
    ∃ cause after, cause.isInvalidInput = true ∧
      (s.onMachine.mount location requested options wanted).run scene =
        (.error (.fault (.launch ⟨.spawn, cause⟩)), after) ∧
      after.agents = scene.agents ∧
      made.removeDirectory p = .ok after.files ∧
      after.files.status p = .error (.system .noEntry) ∧
      (∀ k, (after.files.node? k).map Node.undated = (scene.files.node? k).map Node.undated) ∧
      after.history = scene.history ++ [.made p, .launched line, .removed p]

/-- **Every mounter hands its command over so.** -/
theorem Mounter.handsOver (s : Mounter Stand) : HandsOver s where
  argv location mountpoint options := by
    simp [CommandLine.argv, MountTool.commandLine]
  launches location mountpoint options m := m.launches _
  refused location requested options wanted scene made := by
    intro p line htree hmade hzero
    obtain ⟨cause, after, hinvalid, hrun, hagents, hremoved, hhistory⟩ :=
      s.run_mount_of_holdsZero location requested options wanted htree hmade
        ((CommandLine.holdsZero_eq_true_iff line).2 hzero)
    exact ⟨cause, after, hinvalid, hrun, hagents, hremoved,
      FileSystem.status_of_removeDirectory hremoved,
      FileSystem.undated_node?_of_makeDirectory htree hmade hremoved, hhistory⟩

/-- A location that is a zero byte is refused on a stand, and the mountpoint is gone again. -/
theorem Mounter.zero_location_refused :
    let s : Mounter Stand :=
      ⟨.ofProgram [0x6D], .usual none, Stand.agents (fun _ => .ticking 0 0 1 (by decide)) [slash]⟩
    let scene := Stand.scene ⟨⟨[slash], [], [], .parted⟩, .empty ⟨0, 0⟩⟩ .marker .idle
    scene.files.IsTree ∧ ∃ cause after, cause.isInvalidInput = true ∧
      (s.mount [0] (some [0x70]) [] .default).run scene =
        (.error (.fault (.launch ⟨.spawn, cause⟩)), after) ∧
      after.files.status [0x70] = .error (.system .noEntry) := by
  intro s scene
  have htree : scene.files.IsTree := .of_names (by cbv)
  obtain ⟨made, hmade⟩ : ∃ made, scene.files.makeDirectory [0x70] = .ok made := ⟨_, by cbv⟩
  obtain ⟨cause, after, hinvalid, hrun, -, -, hstatus, -⟩ :=
    s.handsOver.refused [0] (some [0x70]) [] .default scene made htree hmade (by decide)
  rw [onMachine_agents] at hrun
  exact ⟨htree, cause, after, hinvalid, hrun, hstatus⟩

end RestoreCheck
