import RestoreCheck.Text.Decimal
import RestoreCheck.Time.Span

/-!
# How long mounting may take
-/

namespace RestoreCheck

/-- The waits and pauses around a mount. -/
structure Waits where
  /-- how long a change of state is waited for -/
  timeout : Span
  /-- the pause between two checks -/
  interval : Span
  /-- the pause after everything is undone -/
  grace : Span
deriving DecidableEq

namespace Waits

/-- The variable that sets the usual timeout, in milliseconds. -/
def timeoutVariable : String := "FSFIDELITY_MOUNT_TIMEOUT_MS"

/-- The usual waits: five seconds, or another timeout, and short pauses. -/
def usual (timeout : Option Span) : Waits :=
  ⟨timeout.getD (.ofSeconds 5), .ofMillis 100, .ofMillis 200⟩

/-- The timeout that the variable sets, if it holds a number. -/
def timeoutOf? (value : String) : Option Span :=
  (Text.decimalBelow? UInt64.size value).map fun n => .ofMillis n.toUInt64

end Waits

end RestoreCheck
