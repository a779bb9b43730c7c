import RestoreCheck.Program.Launch
import RestoreCheck.Time.Span

/-!
# Why mounting failed
-/

namespace RestoreCheck

/-- How the mount command is expected to end. -/
inductive ExpectedExit where
  | success
  | warning
  /-- an error, after which no mount is expected to exist -/
  | error
deriving DecidableEq

namespace ExpectedExit

/-- The numeric code. -/
def code : ExpectedExit → Int
  | success => 0
  | warning => 1
  | error => 2

/-- The name of a code. -/
def name : ExpectedExit → String
  | success => "success"
  | warning => "warning"
  | error => "error"

/-- The text of a code, with its number. -/
def text (e : ExpectedExit) : String :=
  s!"{e.name} ({e.code})"

/-- Success is expected unless something else is asked for. -/
def default : ExpectedExit := success

/-- Every code, ascending. -/
def all : List ExpectedExit := [success, warning, error]

end ExpectedExit

/-- The change of state that is waited for. -/
inductive Direction where
  | mount
  | unmount
deriving DecidableEq

/-- Both directions. -/
def Direction.all : List Direction := [mount, unmount]

/-- The name of a direction. -/
def Direction.text : Direction → String
  | mount => "mount"
  | unmount => "umount"

/-- Why mounting or unmounting failed. -/
inductive MountFault where
  /-- the mountpoint could not be made -/
  | mountpoint (path : Path) (cause : Fault)
  /-- the mount command could not be launched -/
  | launch (cause : LaunchFault)
  /-- the mount command ended in another way than expected -/
  | unexpectedExit (expected : ExpectedExit) (actual : Option Int)
  /-- the state did not change in time -/
  | timeout (direction : Direction) (mountpoint : Path) (waited : Span)
  /-- unmounting failed -/
  | unmount (mountpoint : Path) (cause : Fault)
  /-- the mountpoint could not be removed -/
  | cleanup (mountpoint : Path) (cause : Fault)
deriving DecidableEq

namespace MountFault

/-- How a command ended, in words. -/
def endText : Option Int → String
  | some code => s!"code {code}"
  | none => "a signal"

/-- **The text of a fault.** -/
def message : MountFault → String
  | mountpoint path cause =>
    "cannot create mountpoint " ++ Text.lossy path ++ ": " ++ cause.message
  | launch cause => "cannot launch mount command: " ++ cause.message
  | unexpectedExit expected actual =>
    "mount command exited with " ++ endText actual ++ ", expected " ++ expected.text
  | timeout direction path waited =>
    "Waiting for " ++ direction.text ++ " of " ++ Text.lossy path ++ " timed out after "
      ++ waited.text
  | unmount path cause =>
    "cannot unmount " ++ Text.lossy path ++ ": " ++ cause.message
  | cleanup path cause =>
    "cannot remove mountpoint " ++ Text.lossy path ++ ": " ++ cause.message

end MountFault

end RestoreCheck
