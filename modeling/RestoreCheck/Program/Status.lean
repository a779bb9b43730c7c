/-!
# How a process ended

A process either leaves with a code or is ended by a signal.  Not every signal ends a process: some
do nothing unless they are waited for.  Signals are shown with their names.
-/

namespace RestoreCheck

/-- How a process ended. -/
inductive Status where
  /-- it left with a code -/
  | exited (code : Nat)
  /-- it was ended by a signal -/
  | signaled (number : Nat)
deriving DecidableEq

namespace Status

/-- Only the code zero means success. -/
def isSuccess : Status → Bool
  | exited 0 => true
  | _ => false

/-- The code that a process left with; a signal leaves none. -/
def code? : Status → Option Nat
  | exited code => some code
  | signaled _ => none

/-- Signals that do not end a process: those that are harmless (no signal, for a child that ended,
to continue, for urgent data, for a new window size), and those that stop at a terminal, which a
process without one does not heed. -/
def harmlessSignals : List Nat := [0, 17, 18, 20, 21, 22, 23, 28]

/-- The greatest number of a signal. -/
def lastSignal : Nat := 64

/-- Whether a signal ends a process that does not wait for it. -/
def isFatal (number : Nat) : Bool :=
  number ∉ harmlessSignals && number ≤ lastSignal

/-- **How a process ends** that sends itself a signal, if one is given, and then leaves with a
code.  The code has eight bits. -/
def ofProcess (signal : Option Nat) (code : Nat) : Status :=
  match signal with
  | some number => if isFatal number then signaled number else exited (code % 256)
  | none => exited (code % 256)

/-- The names of the standard signals. -/
def signalName : Nat → Option String
  | 1 => some "SIGHUP"
  | 2 => some "SIGINT"
  | 3 => some "SIGQUIT"
  | 4 => some "SIGILL"
  | 5 => some "SIGTRAP"
  | 6 => some "SIGABRT"
  | 7 => some "SIGBUS"
  | 8 => some "SIGFPE"
  | 9 => some "SIGKILL"
  | 10 => some "SIGUSR1"
  | 11 => some "SIGSEGV"
  | 12 => some "SIGUSR2"
  | 13 => some "SIGPIPE"
  | 14 => some "SIGALRM"
  | 15 => some "SIGTERM"
  | 16 => some "SIGSTKFLT"
  | 17 => some "SIGCHLD"
  | 18 => some "SIGCONT"
  | 19 => some "SIGSTOP"
  | 20 => some "SIGTSTP"
  | 21 => some "SIGTTIN"
  | 22 => some "SIGTTOU"
  | 23 => some "SIGURG"
  | 24 => some "SIGXCPU"
  | 25 => some "SIGXFSZ"
  | 26 => some "SIGVTALRM"
  | 27 => some "SIGPROF"
  | 28 => some "SIGWINCH"
  | 29 => some "SIGIO"
  | 30 => some "SIGPWR"
  | 31 => some "SIGSYS"
  | _ => none

/-- The text of a status. -/
def text : Status → String
  | exited code => s!"exit status: {code}"
  | signaled number =>
    match signalName number with
    | some name => s!"signal: {number} ({name})"
    | none => s!"signal: {number}"

end Status

end RestoreCheck
