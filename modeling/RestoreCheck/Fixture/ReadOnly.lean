import RestoreCheck.Platform
import RestoreCheck.Program.Machine
import RestoreCheck.Scope.Guard

/-!
# Read-only trees

A tree is made read-only for a while: write permission is taken away everywhere in it, then its root
is marked immutable, so that not even a privileged process can write.  Giving it back clears the
mark first and then gives write permission to everyone.  Commands that fail change nothing and are
no reason to stop.
-/

namespace RestoreCheck

/-- Why a fixture could not be set up. -/
inductive FixtureFault where
  /-- it does not exist on this platform -/
  | unsupported (operation : String) (platform : Platform)

namespace FixtureFault

/-- The text of a fault. -/
def message : FixtureFault → String
  | unsupported operation platform =>
    operation ++ " is not supported on platform " ++ platform.text

/-- Whether the test that needs the fixture is skipped rather than failed. -/
def skipsTest : FixtureFault → Bool
  | unsupported _ _ => true

end FixtureFault

namespace ReadOnly

/-- The commands run with this variable set, so that no library is loaded into them. -/
def environment : List (String × String) := [("LD_PRELOAD", "")]

/-- The commands that take write permission away. -/
def protection (command : SealCommand) (p : Path) : List CommandLine :=
  [⟨.ofString "chmod", [.ofString "-R", .ofString "ugo-w", p]⟩,
    ⟨.ofString command.program, [.ofString command.set, p]⟩]

/-- The commands that give it back. -/
def restoration (command : SealCommand) (p : Path) : List CommandLine :=
  [⟨.ofString command.program, [.ofString command.clear, p]⟩,
    ⟨.ofString "chmod", [.ofString "-R", .ofString "ugo+w", p]⟩]

/-- **Makes a tree read-only** until the guard is ended, for a way to run commands. -/
def acquire {σ : Type} (run : CommandLine → σ → σ) (profile : Profile) (p : Path) (s : σ) :
    Except FixtureFault (Guard σ Path) × σ :=
  match profile.immutable with
  | none => (.error (.unsupported "read-only directories" profile.platform), s)
  | some command =>
    (.ok (.new p fun p s => (restoration command p).foldl (fun s i => run i s) s),
      (protection command p).foldl (fun s i => run i s) s)

end ReadOnly

/-- Runs a command whatever comes of it. -/
def Machine.runAnyway (i : CommandLine) (m : Machine) : Machine :=
  (m.start i).2

end RestoreCheck
