import RestoreCheck.Files.Write
import RestoreCheck.Mount.Fault
import RestoreCheck.Mount.Tool
import RestoreCheck.Mount.Waits
import RestoreCheck.Time.Waiting

/-!
# Mounting and waiting for it

`Mounter.mount` makes a mountpoint, launches the mount command on it and waits until something
is mounted there.  The guard that it gives undoes all of it: unmount, wait until nothing is mounted,
remove the mountpoint, pause.  The first of these steps that fails ends the undoing.

The mount command, the detector that tells whether something is mounted, and whatever unmounts it
are `Agents`: they may do anything to the files and to a state of their own.  A mountpoint that
nobody asks for gets a fresh name, which comes from the agents as well.  What the mounter does
itself is recorded in `MountEvent`s.
-/

namespace RestoreCheck

/-- What a mounter did. -/
inductive MountEvent where
  /-- made a directory -/
  | made (path : Path)
  /-- launched a command -/
  | launched (line : CommandLine)
  /-- asked whether something is mounted -/
  | asked (path : Path) (answer : Bool)
  /-- paused -/
  | paused (time : Span)
  /-- let a body run on a mountpoint -/
  | ran (path : Path)
  /-- had a path unmounted -/
  | unmounted (path : Path)
  /-- removed a directory -/
  | removed (path : Path)
deriving DecidableEq

/-- The files, the agents' state, and what was done so far. -/
structure Scene (τ : Type) where
  /-- the files -/
  files : FileSystem
  /-- what the agents remember -/
  agents : τ
  /-- how often something was waited for -/
  waited : Nat
  /-- how many names for default mountpoints were drawn -/
  drawn : Nat
  /-- what was done, the latest first -/
  log : List MountEvent

/-- What was done, in order. -/
def Scene.history {τ : Type} (s : Scene τ) : List MountEvent :=
  s.log.reverse

/-- The start of the name of a default mountpoint. -/
def Mounter.mountpointStem : String := "fsfidelity-mnt-"

/-- Those that a mounter works with. -/
structure Agents (τ : Type) where
  /-- the clock, as it is read in the `n`th wait -/
  clock : Nat → Clock
  /-- where default mountpoints are made -/
  temp : Path
  /-- the name of the `n`th default mountpoint -/
  freshName : Nat → FileSystem → Name
  /-- it starts as such names do -/
  stem_prefix : ∀ n files, Bytes.ofString Mounter.mountpointStem <+: (freshName n files).bytes
  /-- nothing that is there has it already -/
  freshName_notMem : ∀ {n files l}, files.locate .target temp = .ok l →
    freshName n files ∉ files.children l
  /-- launches the mount command and waits for its end, which gives an exit code unless a signal
  ended it -/
  supervise : CommandLine → FileSystem → τ → Except LaunchFault (Option Int) × FileSystem × τ
  /-- launches the mount command and leaves it to itself -/
  detach : CommandLine → FileSystem → τ → Except LaunchFault Unit × FileSystem × τ
  /-- tells whether something is mounted on a path -/
  detect : Path → FileSystem → τ → Bool × FileSystem × τ
  /-- unmounts a path -/
  unmount : Path → FileSystem → τ → Except Fault Unit × FileSystem × τ

/-- The `n`th default mountpoint. -/
def Agents.defaultMountpoint {τ : Type} (a : Agents τ) (n : Nat) (files : FileSystem) : Path :=
  a.temp.join (a.freshName n files).bytes

/-- Launches the mount command in one of the two ways. -/
def Agents.launch {τ : Type} (a : Agents τ) (mode : LaunchMode) (line : CommandLine)
    (files : FileSystem) (agents : τ) : Except LaunchFault LaunchResult × FileSystem × τ :=
  match mode with
  | .supervised =>
    let (result, files, agents) := a.supervise line files agents
    (result.map .exited, files, agents)
  | .detached =>
    let (result, files, agents) := a.detach line files agents
    (result.map fun () => .detached, files, agents)

/-- Mounts repositories through its agents. -/
structure Mounter (τ : Type) where
  /-- the mount command -/
  tool : MountTool
  /-- waits and pauses -/
  waits : Waits
  /-- those it works with -/
  agents : Agents τ

/-- What is expected of a mount. -/
structure Expectation where
  /-- how the command is expected to end, if it is waited for -/
  expected : ExpectedExit
  /-- how the command is launched -/
  mode : LaunchMode
deriving DecidableEq

/-- What is expected where nothing is said: success, under supervision. -/
def Expectation.default : Expectation := ⟨.default, .default⟩

/-- Why an action of a mounter ended early. -/
inductive Halt where
  /-- it failed -/
  | fault (cause : MountFault)
  /-- the clock cannot show the deadline, and no wait can begin -/
  | overflow
deriving DecidableEq

/-- What a guard holds. -/
inductive HoldState where
  /-- a mount -/
  | mounted
  /-- nothing: the mount command was expected to fail, and did -/
  | failed
  /-- nothing any more: undoing the mount has begun -/
  | finished
deriving DecidableEq

/-- A mount that is held. -/
structure HeldMount where
  /-- the mountpoint -/
  mountpoint : Path
  /-- whether there is a mount on it -/
  state : HoldState
deriving DecidableEq

namespace HeldMount

/-- Whether a mount is held. -/
def isMounted (g : HeldMount) : Bool :=
  g.state = .mounted

/-- The text of a guard. -/
def text (g : HeldMount) : String :=
  "MountGuard \x7b mountpoint: " ++ Text.quoted g.mountpoint ++ ", state: "
    ++ (match g.state with
      | .mounted => "Mounted"
      | .failed => "Failed"
      | .finished => "Finished")
    ++ ", .. \x7d"

end HeldMount

/-- An action of a mounter. -/
abbrev Mounting (τ : Type) := ExceptT Halt (StateM (Scene τ))

namespace Mounter

variable {τ : Type} (s : Mounter τ)

/-! ### Steps -/

/-- Records an event. -/
def note (e : MountEvent) : Mounting τ Unit :=
  modify fun scene => { scene with log := e :: scene.log }

/-- Lets an agent act. -/
def act {α : Type} (f : FileSystem → τ → α × FileSystem × τ) : Mounting τ α :=
  modifyGet fun scene =>
    let (answer, files, agents) := f scene.files scene.agents
    (answer, { scene with files, agents })

/-- Makes a directory. -/
def makeDirectory (p : Path) (refusal : Fault → MountFault) : Mounting τ Unit := do
  match (← get).files.makeDirectory p with
  | .error cause => throw (.fault (refusal cause))
  | .ok files =>
    modify fun scene => { scene with files }
    note (.made p)

/-- A fault that names the path at which it arose. -/
def located (p : Path) : Fault → Fault
  | .system e => .atPath e p
  | cause => cause

/-- **Makes the mountpoint**: the one that is asked for, which must not exist, or a fresh one among
the temporary files. -/
def prepare (requested : Option Path) : Mounting τ Path := do
  match requested with
  | some p =>
    makeDirectory p (.mountpoint p)
    return p
  | none =>
    let scene ← get
    let p := s.agents.defaultMountpoint scene.drawn scene.files
    modify fun scene => { scene with drawn := scene.drawn + 1 }
    makeDirectory p fun cause => .mountpoint s.agents.temp (located p cause)
    return p

/-- Removes a directory if it is empty. -/
def removeDirectory (p : Path) : Mounting τ (Except Fault Unit) := do
  match (← get).files.removeDirectory p with
  | .error cause => return .error cause
  | .ok files =>
    modify fun scene => { scene with files }
    note (.removed p)
    return .ok ()

/-- Removes the mountpoint of a mount that failed, unless something is in it. -/
def abandon (p : Path) : Mounting τ Unit := do
  let _ ← removeDirectory p

/-- Asks the detector about a path. -/
def ask (p : Path) (scene : Scene τ) : Bool × Scene τ :=
  let (answer, files, agents) := s.agents.detect p scene.files scene.agents
  (answer, { scene with files, agents, log := .asked p answer :: scene.log })

/-- One check of the mount state. -/
def check (p : Path) (mounted : Bool) (scene : Scene τ) : Bool × Scene τ :=
  let (answer, scene) := s.ask p scene
  (answer == mounted, scene)

/-- The pause after a check. -/
def pause (scene : Scene τ) : Scene τ :=
  { scene with log := .paused s.waits.interval :: scene.log }

/-- **Waits until something, or nothing, is mounted on a path.** -/
def waitFor (p : Path) (mounted : Bool) : Mounting τ Unit := do
  let scene ← get
  match waitUntil (s.agents.clock scene.waited) s.waits.timeout (s.check p mounted) s.pause scene with
  | none => throw .overflow
  | some waited =>
    set { waited.state with waited := scene.waited + 1 }
    if !waited.holds then
      throw (.fault (.timeout (if mounted then .mount else .unmount) p s.waits.timeout))

/-! ### Mounting -/

/-- **Mounts a repository** and waits until the mount is there.  After a failure the mountpoint is
removed again, unless something is in it.  If the command is expected to fail, and does, the guard
holds nothing and the mountpoint is left alone. -/
def mount (location : Bytes) (requested : Option Path) (options : List Bytes)
    (wanted : Expectation) : Mounting τ HeldMount := do
  let mountpoint ← s.prepare requested
  let line := s.tool.commandLine location mountpoint options
  note (.launched line)
  match ← act (s.agents.launch wanted.mode line) with
  | .error cause =>
    abandon mountpoint
    throw (.fault (.launch cause))
  | .ok launched =>
    match launched with
    | .exited code =>
      if code ≠ some wanted.expected.code then
        abandon mountpoint
        throw (.fault (.unexpectedExit wanted.expected code))
      -- The command failed as it should: there is nothing to wait for.
      if wanted.expected = .error then
        return ⟨mountpoint, .failed⟩
    | .detached => pure ()
    tryCatch (s.waitFor mountpoint true) fun halt => do
      -- A wait that could not begin leaves the mountpoint where it is.
      if let .fault _ := halt then
        abandon mountpoint
      throw halt
    return ⟨mountpoint, .mounted⟩

/-- **Undoes a mount.** -/
def undo (mountpoint : Path) : Mounting τ Unit := do
  note (.unmounted mountpoint)
  match ← act (s.agents.unmount mountpoint) with
  | .error cause => throw (.fault (.unmount mountpoint cause))
  | .ok () =>
    s.waitFor mountpoint false
    match ← removeDirectory mountpoint with
    | .error cause => throw (.fault (.cleanup mountpoint cause))
    | .ok () => note (.paused s.waits.grace)

/-- **Drops a guard**, as at the end of a scope or when one is unwound.  A mount that it holds is
undone, and a failure of that is not seen. -/
def drop (g : HeldMount) : Mounting τ Unit :=
  match g.state with
  | .mounted => tryCatch (s.undo g.mountpoint) fun
    | .fault _ => pure ()
    | .overflow => throw .overflow
  | .failed | .finished => pure ()

/-- **Finishes a guard.**  One that holds nothing has nothing to undo.  A finished guard is dropped
like any other, however its undoing ended. -/
def finish (g : HeldMount) : Mounting τ Unit := do
  match g.state with
  | .mounted =>
    -- The guard gives the mount up before anything is undone, so that dropping it does no more.
    let g := { g with state := .finished }
    try s.undo g.mountpoint finally s.drop g
  | .failed | .finished => s.drop g

/-- **Mounts, runs a body and undoes the mount.**  The body's result is given only if undoing
succeeds; a body that is unwound leaves the guard to be dropped. -/
def whileMounted {α : Type} (location : Bytes) (requested : Option Path) (options : List Bytes)
    (wanted : Expectation) (body : Path → FileSystem → τ → Option α × FileSystem × τ) :
    Mounting τ (Option α) := do
  let guard ← s.mount location requested options wanted
  note (.ran guard.mountpoint)
  match ← act (body guard.mountpoint) with
  | some result =>
    s.finish guard
    return some result
  | none =>
    s.drop guard
    return none

end Mounter

end RestoreCheck
