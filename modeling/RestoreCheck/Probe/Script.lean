import RestoreCheck.Probe.Survey
import RestoreCheck.Script

/-!
# Scripted primitives

The operations that probes try can be answered from a script instead of by a file system.  Each
operation has a list of responses: every try takes the next one, and the last is repeated.
-/

namespace RestoreCheck

/-- An answer in a script. -/
structure Response where
  /-- why the operation fails, if it does -/
  failure : Option Fault
  /-- the status that is read -/
  status : ProbeStatus
  /-- the target of the link that is read -/
  target : Path

/-- A script: the responses that each operation has left. -/
abbrev ProbeScript := ProbeMethod → List Response

namespace ProbeScript

/-- The status in a response that does not say otherwise. -/
def plainStatus : ProbeStatus := ⟨1, 2, .zero, .zero, none⟩

/-- The response where a script has none. -/
def plainResponse : Response := ⟨none, plainStatus, Primitives.linkTarget⟩

/-- Takes the next response of an operation. -/
def next (m : ProbeMethod) (script : ProbeScript) : Response × ProbeScript :=
  let (r, rest) := Script.next plainResponse (script m)
  (r, fun k => if k = m then rest else script k)

/-- Answers an operation with a part of the next response. -/
def answer {α : Type} (m : ProbeMethod) (part : Response → α) (script : ProbeScript) :
    Except Fault α × ProbeScript :=
  let (r, script) := script.next m
  match r.failure with
  | some f => (.error f, script)
  | none => (.ok (part r), script)

end ProbeScript

/-- **Primitives that follow a script**, with fixed gates. -/
def Primitives.scripted (hasHardLinks hasBirthTime hasFlags : Bool) : Primitives ProbeScript where
  hasHardLinks s := (hasHardLinks, s)
  hasBirthTime s := (hasBirthTime, s)
  hasFlags s := (hasFlags, s)
  symlink _ _ := ProbeScript.answer .symlink fun _ => ()
  readLink _ := ProbeScript.answer .readLink Response.target
  createFile _ := ProbeScript.answer .createFile fun _ => ()
  hardLink _ _ := ProbeScript.answer .hardLink fun _ => ()
  makeFifo _ := ProbeScript.answer .makeFifo fun _ => ()
  lstat _ := ProbeScript.answer .lstat Response.status
  stat _ := ProbeScript.answer .stat Response.status
  setTimes _ _ _ := ProbeScript.answer .setTimes fun _ => ()
  setNodump _ := ProbeScript.answer .setNodump fun _ => ()
  scratch := Scratch.path []
  openScratch _ s := (.ok (), s)
  closeScratch _ s := s
  scratch_injective := Scratch.path_injective

end RestoreCheck
