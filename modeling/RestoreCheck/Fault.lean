import RestoreCheck.Fault.Errno
import RestoreCheck.Program.Status
import RestoreCheck.Text.Blank
import RestoreCheck.Text.Quoted

/-!
# Faults

A fault is the cause for which an operation on files or processes failed.  Most are reported by the
system as a number; a zero byte is refused before the system is asked, in words that depend on what
was to be handed over.
-/

namespace RestoreCheck

/-- The cause of a failed operation. -/
inductive Fault where
  /-- the system refused -/
  | system (error : Errno)
  /-- a cause given in words -/
  | words (message : String)
  /-- a file name holds a zero byte -/
  | zeroInName
  /-- the name of a file whose times were to be set holds a zero byte -/
  | zeroInData
  /-- a program or argument holds a zero byte -/
  | zeroInArgument
  /-- a program or argument holds a zero byte, the first at this offset -/
  | zeroInArgumentAt (offset : Nat)
  /-- the other side of a comparison ended early -/
  | earlyEnd
  /-- a temporary directory could not be made -/
  | atPath (cause : Errno) (path : Bytes)
  /-- a program ran on a path and did not succeed; the last part is what it wrote -/
  | unsuccessful (program : String) (path : Bytes) (status : Status) (complaint : Bytes)
deriving DecidableEq

namespace Fault

/-- The text of a system error, with its number. -/
def systemText (e : Errno) : String :=
  s!"{e.text} (os error {e.code})"

/-- **The text of a fault.** -/
def message : Fault → String
  | system e => systemText e
  | words m => m
  | zeroInName => "file name contained an unexpected NUL byte"
  | zeroInData => "data provided contains a nul byte"
  | zeroInArgument => "nul byte found in provided data"
  | zeroInArgumentAt offset => s!"nul byte found in provided data at position: {offset}"
  | earlyEnd => "failed to fill whole buffer"
  | atPath e path => systemText e ++ " at path " ++ Text.quoted path
  | unsuccessful program path status complaint =>
    program ++ " failed for " ++ Text.lossy path ++ " (" ++ status.text ++ "): "
      ++ Text.trimmed (Text.lossy complaint)

/-- The number of a fault that the system reported itself. -/
def errno? : Fault → Option Errno
  | system e => some e
  | _ => none

/-- Whether a fault says that what an operation was given is no valid input. -/
def isInvalidInput : Fault → Bool
  | system e | atPath e _ => e = .invalid
  | zeroInName | zeroInData | zeroInArgument | zeroInArgumentAt _ => true
  | words _ | earlyEnd | unsuccessful _ _ _ _ => false

/-- Whether a fault says that an operation is not available here at all. -/
def isUnavailable (f : Fault) : Bool :=
  f = system .notSupported || f = system .notPermitted || f = system .notImplemented

end Fault

end RestoreCheck
