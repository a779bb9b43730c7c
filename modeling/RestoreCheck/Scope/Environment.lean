import RestoreCheck.Bytes
import RestoreCheck.Scope.Guard

/-!
# Environment variables

Variables are overridden for a while and then restored.  `Environment.override` works through a list
of variables from first to last and remembers what each of them was just before; restoring works
through that list from last to first, so that a variable listed twice ends up as it was at the
start.  A variable that cannot be set interrupts the work: what was set before it stays, and no
guard exists that would restore it.
-/

namespace RestoreCheck

/-- What each variable is set to. -/
abbrev Environment := Bytes → Option Bytes

/-- What variables were before they were overridden, in the order of the overriding. -/
abbrev SavedVariables := List (Bytes × Option Bytes)

namespace Environment

/-- No variable is set. -/
def empty : Environment := fun _ => none

/-- The equals sign. -/
def equalsSign : UInt8 := 0x3D

/-- Whether a variable can have this name. -/
def isName (key : Bytes) : Bool :=
  key ≠ [] && 0 ∉ key && equalsSign ∉ key

/-- Whether a variable can have this value. -/
def isValue (value : Bytes) : Bool :=
  0 ∉ value

/-- Whether an assignment can be made. -/
def isAssignable (key : Bytes) (value : Option Bytes) : Bool :=
  isName key && value.all isValue

/-- The environment after an assignment, which may also unset the variable. -/
def assign (env : Environment) (key : Bytes) (value : Option Bytes) : Environment :=
  fun k => if k = key then value else env k

@[simp] theorem assign_self (env : Environment) (key : Bytes) (value : Option Bytes) :
    env.assign key value key = value := by
  simp [assign]

theorem assign_of_ne (env : Environment) {key k : Bytes} (value : Option Bytes) (h : k ≠ key) :
    env.assign key value k = env k := by
  simp [assign, h]

/-- How far overriding came. -/
structure Overridden where
  /-- what the variables were, or nothing if one could not be set -/
  saved : Option SavedVariables
  /-- the environment afterwards -/
  environment : Environment

/-- **Overrides variables one after the other.** -/
def override (env : Environment) : List (Bytes × Option Bytes) → Overridden
  | [] => ⟨some [], env⟩
  | (key, value) :: rest =>
    if isAssignable key value then
      let after := (env.assign key value).override rest
      ⟨after.saved.map ((key, env key) :: ·), after.environment⟩
    else ⟨none, env⟩

/-- **Restores variables, the last one overridden first.** -/
def restore (saved : SavedVariables) (env : Environment) : Environment :=
  saved.foldr (fun e env => env.assign e.1 e.2) env

/-- **Overrides variables** until the guard is ended, if all of them can be set. -/
def enter (env : Environment) (vars : List (Bytes × Option Bytes)) :
    Except Unit (Guard Environment SavedVariables) × Environment :=
  let after := env.override vars
  match after.saved with
  | none => (.error (), after.environment)
  | some saved => (.ok (.new saved restore), after.environment)

/-- Overriding and then restoring changes nothing. -/
theorem restore_override {env : Environment} {vars : List (Bytes × Option Bytes)}
    {saved : SavedVariables} (h : (env.override vars).saved = some saved) :
    restore saved (env.override vars).environment = env := by
  induction vars generalizing env saved with
  | nil =>
    simp only [override, Option.some.injEq] at h
    subst h
    rfl
  | cons e vars ih =>
    obtain ⟨key, value⟩ := e
    by_cases ha : isAssignable key value = true
    · simp only [override, ha, if_true] at h ⊢
      obtain ⟨rest, hr, rfl⟩ := Option.map_eq_some_iff.1 h
      have := ih hr
      simp only [restore, List.foldr_cons] at this ⊢
      rw [this]
      funext k
      by_cases hk : k = key
      · subst hk
        simp
      · simp [assign_of_ne, hk]
    · simp [override, ha] at h

end Environment

end RestoreCheck
