import RestoreCheck.Scope.Environment

/-!
# Overridden variables

Overriding goes through a list of variables from first to last, so that the last entry for a
variable is the one that counts (`Environment.environment_override`).  It succeeds exactly if every
entry can be set (`Environment.exists_saved_iff`).  Restoring goes through the list backwards, so
that each listed variable ends up as it was before its first entry, whatever was done to it in
between, and no other variable is touched (`Environment.restore_of_mem`,
`Environment.restore_of_notMem`).
-/

namespace RestoreCheck.Environment

variable {env after : Environment} {vars : List (Bytes × Option Bytes)} {saved : SavedVariables}
  {key : Bytes}

/-- What the last entry for a variable sets it to, if there is one. -/
def lastOverride? (vars : List (Bytes × Option Bytes)) (key : Bytes) : Option (Option Bytes) :=
  (vars.reverse.find? fun e => e.1 = key).map Prod.snd

theorem lastOverride?_cons (e : Bytes × Option Bytes) :
    lastOverride? (e :: vars) key =
      (lastOverride? vars key).or (if e.1 = key then some e.2 else none) := by
  unfold lastOverride?
  rw [List.reverse_cons, List.find?_append]
  cases vars.reverse.find? fun e => e.1 = key with
  | some found => rfl
  | none => by_cases he : e.1 = key <;> simp [he]

/-- The first entry is set, then the rest is overridden, if the entry can be set at all. -/
theorem saved_override_cons {e : Bytes × Option Bytes}
    (h : (env.override (e :: vars)).saved = some saved) :
    isAssignable e.1 e.2 = true ∧ ∃ rest, saved = (e.1, env e.1) :: rest ∧
      ((env.assign e.1 e.2).override vars).saved = some rest ∧
      (env.override (e :: vars)).environment =
        ((env.assign e.1 e.2).override vars).environment := by
  obtain ⟨k, v⟩ := e
  by_cases ha : isAssignable k v = true
  · rw [override, if_pos ha] at h ⊢
    obtain ⟨rest, hrest, rfl⟩ := Option.map_eq_some_iff.1 h
    exact ⟨ha, rest, rfl, hrest, rfl⟩
  · rw [override, if_neg ha] at h
    cases h

/-- **Overriding succeeds** exactly if every entry can be set. -/
theorem exists_saved_iff :
    (∃ saved, (env.override vars).saved = some saved) ↔
      ∀ e ∈ vars, isAssignable e.1 e.2 = true := by
  induction vars generalizing env with
  | nil => exact ⟨fun _ _ he => absurd he List.not_mem_nil, fun _ => ⟨[], rfl⟩⟩
  | cons e vars ih =>
    rw [List.forall_mem_cons]
    constructor
    · rintro ⟨saved, h⟩
      obtain ⟨ha, rest, -, hrest, -⟩ := saved_override_cons h
      exact ⟨ha, ih.1 ⟨rest, hrest⟩⟩
    · rintro ⟨ha, hvars⟩
      obtain ⟨rest, hrest⟩ : ∃ rest, ((env.assign e.1 e.2).override vars).saved = some rest :=
        ih.2 hvars
      refine ⟨(e.1, env e.1) :: rest, ?_⟩
      rw [override, if_pos ha]
      exact Option.map_eq_some_iff.2 ⟨rest, hrest, rfl⟩

/-- **What overriding sets**: a listed variable to its last entry, and no other variable. -/
theorem environment_override (h : (env.override vars).saved = some saved) (key : Bytes) :
    (env.override vars).environment key = (lastOverride? vars key).getD (env key) := by
  induction vars generalizing env saved with
  | nil => rfl
  | cons e vars ih =>
    obtain ⟨-, rest, -, hrest, henv⟩ := saved_override_cons h
    rw [henv, ih hrest, lastOverride?_cons]
    cases lastOverride? vars key with
    | some value => rfl
    | none =>
      by_cases he : e.1 = key
      · rw [if_pos he, ← he, assign_self]
        rfl
      · rw [if_neg he, assign_of_ne env e.2 (Ne.symm he)]
        rfl

/-- **A listed variable is restored** to what it was before overriding, whatever it was set to in
the meantime. -/
theorem restore_of_mem (h : (env.override vars).saved = some saved)
    (hkey : key ∈ vars.map Prod.fst) : restore saved after key = env key := by
  induction vars generalizing env saved with
  | nil => cases hkey
  | cons e vars ih =>
    obtain ⟨-, rest, rfl, hrest, -⟩ := saved_override_cons h
    show (restore rest after).assign e.1 (env e.1) key = env key
    by_cases he : key = e.1
    · rw [he, assign_self]
    · have hvars := (List.mem_cons.1 hkey).resolve_left he
      rw [assign_of_ne _ _ he, ih hrest hvars, assign_of_ne env e.2 he]

/-- **No other variable is touched** by restoring. -/
theorem restore_of_notMem (h : (env.override vars).saved = some saved)
    (hkey : key ∉ vars.map Prod.fst) : restore saved after key = after key := by
  induction vars generalizing env saved with
  | nil =>
    obtain rfl : saved = [] := (Option.some.inj h).symm
    rfl
  | cons e vars ih =>
    obtain ⟨-, rest, rfl, hrest, -⟩ := saved_override_cons h
    rw [List.map_cons, List.mem_cons, not_or] at hkey
    show (restore rest after).assign e.1 (env e.1) key = after key
    rw [assign_of_ne _ _ hkey.1, ih hrest hkey.2]

end RestoreCheck.Environment
