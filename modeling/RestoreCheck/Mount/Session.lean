import RestoreCheck.Mount.Lifecycle
import RestoreCheck.Scope.Guard

/-!
# Mounts held by number

A session holds guards by number, as a program does that has several mounts open.  A new guard takes
the place of an earlier one of its number, which is then dropped.  For each number the session knows
the mountpoint that was last used, as far as its holder got to know it.
-/

namespace RestoreCheck

/-- Guards by number, with the scene that they share. -/
structure MountSession (τ : Type) where
  /-- files, agents and what was done -/
  scene : Scene τ
  /-- the guards that are held -/
  guards : Register HeldMount
  /-- the mountpoint last used under a number -/
  places : Register Path

/-- An action on a session.  It ends early only if a deadline cannot be shown. -/
abbrev MountSession.Action (τ : Type) := ExceptT Halt (StateM (MountSession τ))

namespace MountFault

/-- Whether a fault arose when a mount was undone. -/
def isUndoing : MountFault → Bool
  | unmount _ _ | cleanup _ _ | timeout .unmount _ _ => true
  | _ => false

/-- Whether the mountpoint itself was refused. -/
def isRefusal : MountFault → Bool
  | mountpoint _ _ => true
  | _ => false

end MountFault

namespace MountSession

variable {τ α : Type} (s : Mounter τ) (id : Int)

/-- A session that holds nothing. -/
def start (scene : Scene τ) : MountSession τ := ⟨scene, .empty, .empty⟩

/-- Performs what a mounter does.  A fault is an answer like any other. -/
def perform (a : Mounting τ α) : Action τ (Except MountFault α) := do
  let (result, scene) := a.run.run (← get).scene
  modify ({ · with scene })
  match result with
  | .ok x => return .ok x
  | .error (.fault f) => return .error f
  | .error .overflow => throw .overflow

/-- Whether a mountpoint is known after a mount.  One that was asked for is, unless it was refused;
a default one only if the mount came into someone's hands. -/
def isKnown (requested : Option Path) : Except MountFault α → Bool
  | .ok _ => true
  | .error f => f.isUndoing || requested.isSome && !f.isRefusal

/-- The mountpoint that the next mount uses. -/
def nextMountpoint (m : MountSession τ) (requested : Option Path) : Path :=
  requested.getD (s.agents.defaultMountpoint m.scene.drawn m.scene.files)

/-- Notes the mountpoint of a number. -/
def notePlace (requested : Option Path) (p : Path) (result : Except MountFault α) : Action τ Unit :=
  modify fun m =>
    { m with places := if isKnown requested result then m.places.put id p else m.places.erase id }

/-- **Drops the guard of a number**, and tells whether there was one. -/
def drop : Action τ Bool := do
  match (← get).guards.get? id with
  | none => return false
  | some g =>
    modify fun m => { m with guards := m.guards.erase id }
    let _ ← perform (s.drop g)
    return true

/-- **Finishes the guard of a number**, if there is one. -/
def finish : Action τ (Option (Except MountFault Unit)) := do
  match (← get).guards.get? id with
  | none => return none
  | some g =>
    modify fun m => { m with guards := m.guards.erase id }
    return some (← perform (s.finish g))

/-- **Mounts and holds the guard.**  An earlier guard of the number is dropped after that. -/
def mount (location : Bytes) (requested : Option Path) (options : List Bytes)
    (wanted : Expectation) : Action τ (Except MountFault HeldMount) := do
  let p := nextMountpoint s (← get) requested
  let result ← perform (s.mount location requested options wanted)
  if let .ok g := result then
    let _ ← drop s id
    modify fun m => { m with guards := m.guards.put id g }
  notePlace id requested p result
  return result

/-- **Mounts for the time of a body.**  Nothing is held. -/
def whileMounted (location : Bytes) (requested : Option Path) (options : List Bytes)
    (wanted : Expectation) (body : Path → FileSystem → τ → Option α × FileSystem × τ) :
    Action τ (Except MountFault (Option α)) := do
  let p := nextMountpoint s (← get) requested
  let result ← perform (s.whileMounted location requested options wanted body)
  notePlace id requested p result
  return result

/-- Drops all guards, in ascending order of their numbers. -/
def dropAll : Action τ Unit := do
  for e in (← get).guards.entries do
    let _ ← drop s e.1

/-- Changes the files. -/
def changeFiles (change : FileSystem → Except Fault FileSystem) : Action τ (Except Fault Unit) := do
  match change (← get).scene.files with
  | .error cause => return .error cause
  | .ok files =>
    modify fun m => { m with scene := { m.scene with files } }
    return .ok ()

end MountSession

end RestoreCheck
