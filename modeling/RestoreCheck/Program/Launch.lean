import RestoreCheck.Program.Machine

/-!
# Launching a command

A command is launched in one of two ways.  A supervised one is waited for, and its exit code is
known.  A detached one is started by a process that has itself been started apart, and nobody waits
for it: whether the program was even found is not seen, only how the process in between ended.
Either way a zero byte in a string is refused before any process is started.
-/

namespace RestoreCheck

/-- The point of a launch at which something failed. -/
inductive Stage where
  /-- starting the first process -/
  | spawn
  /-- leaving the session -/
  | detach
  /-- turning into the program -/
  | exec
deriving DecidableEq

/-- Every stage, in order. -/
def Stage.all : List Stage := [spawn, detach, exec]

/-- The name of a stage. -/
def Stage.text : Stage → String
  | spawn => "spawn"
  | detach => "detach"
  | exec => "exec"

/-- A failed launch. -/
structure LaunchFault where
  /-- where it failed -/
  stage : Stage
  /-- why -/
  cause : Fault
deriving DecidableEq

/-- The text of a failed launch. -/
def LaunchFault.message (f : LaunchFault) : String :=
  f.stage.text ++ " stage failed: " ++ f.cause.message

/-- How a launch went. -/
inductive LaunchResult where
  /-- the command ended, with a code unless a signal ended it -/
  | exited (code : Option Int)
  /-- the command was left to itself -/
  | detached
deriving DecidableEq

/-- How commands are launched. -/
inductive LaunchMode where
  | supervised
  | detached
deriving DecidableEq

/-- The name of a way to launch as a title. -/
def LaunchMode.title : LaunchMode → String
  | supervised => "Supervised"
  | detached => "DoubleFork"

/-- Commands are supervised unless something else is asked for. -/
def LaunchMode.default : LaunchMode := supervised

/-- The stage at which a program failed to start.  A program that is missing or not permitted is
noticed in its last stage, anything else counts as a failure to start a process. -/
def Stage.ofErrno (e : Errno) : Stage :=
  if e = .noEntry ∨ e = .denied ∨ e = .notPermitted then exec else spawn

/-- The stage at which a supervised launch failed. -/
def Stage.ofFault : Fault → Stage
  | .system e => ofErrno e
  | _ => spawn

/-- **What is seen of a detached launch**: how the process ended that was to start the command.  A
signal without a name is no valid answer to the one who waits for it. -/
def Intermediate.outcome : Intermediate → Except LaunchFault Unit
  | parted => .ok ()
  | unstarted cause => .error ⟨.spawn, .system cause⟩
  | stuck process => .error ⟨.detach, .words (endedWith s!"Exited(Pid({process}), 1)")⟩
  | killed process signal dumped _ =>
    match Status.signalName signal with
    | some name =>
      .error ⟨.detach, .words (endedWith s!"Signaled(Pid({process}), {name}, {dumped})")⟩
    | none => .error ⟨.detach, .system .invalid⟩
  | unawaited cause _ => .error ⟨.detach, .system cause⟩
where
  /-- The words for an unexpected end. -/
  endedWith (how : String) : String := "intermediate child ended with " ++ how

namespace Machine

/-- Launches a prepared command and waits for its end.  It gives the exit code, unless a signal
ended it. -/
def supervise (i : CommandLine) (m : Machine) : Except LaunchFault (Option Int) × Machine :=
  match m.start i with
  | (.error cause, m) => (.error ⟨.ofFault cause, cause⟩, m)
  | (.ok stub, m) => (.ok (stub.status.code?.map Int.ofNat), m)

/-- Launches a converted command and leaves it to itself.  What is seen is only what became of the
process in between. -/
def detach (i : CommandLine) (m : Machine) : Except LaunchFault Unit × Machine :=
  match i.converted with
  | .error offset => (.error ⟨.spawn, .zeroInArgumentAt offset⟩, m)
  | .ok i =>
    (m.intermediate.outcome, if m.intermediate.startsCommand then (m.run i).2 else m)

/-- **Launches a command.** -/
def launch (mode : LaunchMode) (i : CommandLine) (m : Machine) :
    Except LaunchFault LaunchResult × Machine :=
  match mode with
  | .supervised =>
    let (result, m) := m.supervise i
    (result.map .exited, m)
  | .detached =>
    let (result, m) := m.detach i
    (result.map fun () => .detached, m)

end Machine

end RestoreCheck
