import RestoreCheck.Probe.Capability
import RestoreCheck.Probe.Primitives

/-!
# Probing for capabilities

Each capability has a probe: the real operations are tried in scratch places, and the capability is
there only if their effect reads back exactly.  A fault means that it is not.  A probe runs when its
capability is asked for the first time; the answer is kept and never changes.

The probes of times need an entry to work on.  It is a symbolic link if those are there, which is
asked like any other question, and a file if not.
-/

namespace RestoreCheck

/-- What happened while capabilities were asked for. -/
inductive ProbeEvent where
  /-- the probe of a capability started -/
  | started (c : Capability)
  /-- an operation was tried -/
  | tried (call : ProbeCall)
  /-- the answer for a capability was given, to whoever asked or to a probe that needs it -/
  | answered (c : Capability) (answer : Bool)
deriving DecidableEq

namespace ProbeEvent

/-- The operation that was tried. -/
def call? : ProbeEvent → Option ProbeCall
  | tried call => some call
  | started _ | answered _ _ => none

/-- The answer that was given for a capability. -/
def answer? (c : Capability) : ProbeEvent → Option Bool
  | answered d answer => if d = c then some answer else none
  | started _ | tried _ => none

end ProbeEvent

/-- The state of a survey of capabilities. -/
structure Survey (σ : Type) where
  /-- how times are rounded -/
  precision : Precision
  /-- the state of the files -/
  state : σ
  /-- the answers so far -/
  answers : Capability → Option Bool
  /-- how many scratch paths were used -/
  scratchUsed : Nat
  /-- what happened so far -/
  events : List ProbeEvent

namespace Survey

variable {σ : Type}

/-- A survey that has asked nothing yet. -/
def start (precision : Precision) (state : σ) : Survey σ :=
  ⟨precision, state, fun _ => none, 0, []⟩

/-- Keeps an answer. -/
def settle (s : Survey σ) (c : Capability) (answer : Bool) : Survey σ :=
  { s with answers := fun d => if d = c then some answer else s.answers d }

/-- Records an event. -/
def record (s : Survey σ) (e : ProbeEvent) : Survey σ :=
  { s with events := s.events ++ [e] }

/-- The operations tried so far. -/
def calls (s : Survey σ) : List ProbeCall :=
  s.events.filterMap ProbeEvent.call?

/-- The first answer that was given for a capability. -/
def firstAnswer? (s : Survey σ) (c : Capability) : Option Bool :=
  s.events.findSome? (ProbeEvent.answer? c)

end Survey

/-- A step of a survey. -/
abbrev Asking (σ : Type) := StateM (Survey σ)

/-- A step of a probe, which may fail. -/
abbrev Probing (σ : Type) := ExceptT Fault (Asking σ)

namespace Primitives

variable {σ : Type} (p : Primitives σ)

/-! ### Steps of probes -/

/-- Looks at a gate. -/
def gate (f : σ → Bool × σ) : Probing σ Bool :=
  modifyGet fun s =>
    let (isOpen, state) := f s.state
    (isOpen, { s with state })

/-- Tries an operation. -/
def attempt {α : Type} (call : ProbeCall) (f : σ → Except Fault α × σ) : Probing σ α :=
  ExceptT.mk <| modifyGet fun s =>
    let (answer, state) := f s.state
    (answer, { s.record (.tried call) with state })

/-- Opens a fresh scratch place and gives its number. -/
def openPlace : Probing σ Nat :=
  ExceptT.mk <| modifyGet fun s =>
    let (opened, state) := p.openScratch s.scratchUsed s.state
    (opened.map fun _ => s.scratchUsed, { s with state, scratchUsed := s.scratchUsed + 1 })

/-- Runs a step and closes a scratch place however the step ends. -/
def closingPlace {α : Type} (n : Nat) (step : Probing σ α) : Probing σ α :=
  ExceptT.mk do
    let answer ← step.run
    modify fun s => { s with state := p.closeScratch n s.state }
    return answer

/-- Runs a step with a fresh scratch path, if there is one; it is removed however the step ends. -/
def withScratch {α : Type} (step : Path → Probing σ α) : Probing σ α := do
  let n ← p.openPlace
  p.closingPlace n (step (p.scratch n))

def trySymlink (target link : Path) : Probing σ Unit :=
  attempt (.symlink target link) (p.symlink target link)

def tryReadLink (path : Path) : Probing σ Path :=
  attempt (.readLink path) (p.readLink path)

def tryCreateFile (path : Path) : Probing σ Unit :=
  attempt (.createFile path) (p.createFile path)

def tryHardLink (existing link : Path) : Probing σ Unit :=
  attempt (.hardLink existing link) (p.hardLink existing link)

def tryMakeFifo (path : Path) : Probing σ Unit :=
  attempt (.makeFifo path) (p.makeFifo path)

def tryLstat (path : Path) : Probing σ ProbeStatus :=
  attempt (.lstat path) (p.lstat path)

def tryStat (path : Path) : Probing σ ProbeStatus :=
  attempt (.stat path) (p.stat path)

def trySetTimes (path : Path) (accessed modified : Int) : Probing σ Unit :=
  attempt (.setTimes path accessed modified) (p.setTimes path accessed modified)

def trySetNodump (path : Path) : Probing σ Unit :=
  attempt (.setNodump path) (p.setNodump path)

/-! ### The probes -/

/-- Runs the probe of a capability and keeps its answer.  A fault means that it is not there. -/
def settle (c : Capability) (probe : Probing σ Bool) : Asking σ Bool := do
  modify (·.record (.started c))
  -- The answer is kept only after the probe has ended, so that what it asks is kept first.
  let answer := match ← probe.run with
    | .ok answer => answer
    | .error _ => false
  modify (·.settle c answer)
  return answer

/-- Gives an answer. -/
def give (c : Capability) (answer : Bool) : Asking σ Bool := do
  modify (·.record (.answered c answer))
  return answer

/-- The answer for a capability: the one that was kept, or else that of its probe. -/
def settled (c : Capability) (probe : Probing σ Bool) : Asking σ Bool := do
  match (← get).answers c with
  | some answer => give c answer
  | none => give c (← settle c probe)

/-- The target of the link that is read back. -/
def linkTarget : Path := .ofString "somewhere"

/-- The target of a link on which times are set. -/
def entryTarget : Path := .ofString "something"

/-- **Symbolic links**: one is made, seen, and leads where it should. -/
def symlinkProbe : Probing σ Bool :=
  p.withScratch fun path => do
    p.trySymlink linkTarget path
    let _ ← p.tryLstat path
    return (← p.tryReadLink path).same linkTarget

/-- Whether there are symbolic links. -/
def symlinks : Asking σ Bool :=
  settled .symlinks p.symlinkProbe

/-- **Hard links**: both names lead to one file with two links. -/
def hardLinkProbe : Probing σ Bool := do
  if !(← gate p.hasHardLinks) then
    return false
  p.withScratch fun first => p.withScratch fun second => do
    p.tryCreateFile first
    p.tryHardLink first second
    let a ← p.tryStat first
    let b ← p.tryStat second
    return a.nlink = 2 && b.nlink = 2 && a.number = b.number

/-- **Named pipes**: one is made. -/
def fifoProbe : Probing σ Bool :=
  p.withScratch fun path => do
    p.tryMakeFifo path
    return true

/-- Makes an entry whose times can be set: a symbolic link where there are any. -/
def makeEntry (path : Path) : Probing σ Unit := do
  if ← p.symlinks then
    p.trySymlink entryTarget path
  else
    p.tryCreateFile path

/-- A number of seconds as a stamp. -/
def atSecond (n : Int) : Stamp := .clamp (n * nanosPerSecond)

/-- **Times**: both read back exactly as they were set. -/
def utimeProbe : Probing σ Bool :=
  p.withScratch fun path => do
    p.makeEntry path
    p.trySetTimes path 1000 2000
    let status ← p.tryLstat path
    return status.accessed = atSecond 1000 && status.modified = atSecond 2000

/-- The last day of 1999. -/
def birthDay : Int := 946598400
/-- The first day of 2000. -/
def changeDay : Int := 946684800
/-- The second day of 2000. -/
def accessDay : Int := 946771200

/-- **Birth time**: an early time of change pulls the birth time back, and a later one does not move
it again. -/
def birthTimeProbe : Probing σ Bool := do
  if !(← gate p.hasBirthTime) then
    return false
  p.withScratch fun path => do
    p.makeEntry path
    p.trySetTimes path accessDay birthDay
    p.trySetTimes path accessDay changeDay
    let status ← p.tryLstat path
    return status.born = some (atSecond birthDay) && status.modified = atSecond changeDay
      && status.accessed = atSecond accessDay

/-- **Flags**: one is set on a file. -/
def flagProbe : Probing σ Bool := do
  if !(← gate p.hasFlags) then
    return false
  p.withScratch fun path => do
    p.tryCreateFile path
    p.trySetNodump path
    return true

/-- The probe of a capability. -/
def probe : Capability → Probing σ Bool
  | .symlinks => p.symlinkProbe
  | .hardLinks => p.hardLinkProbe
  | .fifos => p.fifoProbe
  | .utime => p.utimeProbe
  | .birthTime => p.birthTimeProbe
  | .flags => p.flagProbe

/-! ### Questions -/

/-- **Whether a capability is there.** -/
def supports (c : Capability) : Asking σ Bool :=
  settled c (p.probe c)

/-- **All capabilities**, asked for in order. -/
def snapshot : Asking σ Capabilities := do
  let symlinks ← p.supports .symlinks
  let hardLinks ← p.supports .hardLinks
  let fifos ← p.supports .fifos
  let utime ← p.supports .utime
  let birthTime ← p.supports .birthTime
  let flags ← p.supports .flags
  let precision := (← get).precision
  return { symlinks, hardLinks, fifos, utime, birthTime, flags, precision }

end Primitives

end RestoreCheck
