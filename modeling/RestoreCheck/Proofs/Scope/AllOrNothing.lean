import RestoreCheck.Proofs.Scope.Variables

/-!
# Overriding in part

Overriding is all or nothing if it gives a guard that restores every listed variable, or else leaves
the environment as it was.  It is not in general: the work stops at the first entry that cannot be
set, and what was set before that stays set, with no guard to restore it
(`Environment.environment_override_settable`).  So a list with such an entry is harmless only if the
entries before it set nothing that was not so already (`Environment.attempted`).
-/

namespace RestoreCheck.Environment

variable {env after : Environment} {vars : List (Bytes × Option Bytes)} {saved : SavedVariables}

/-! ### Where the work stops -/

/-- The entries before the first one that cannot be set. -/
def settable (vars : List (Bytes × Option Bytes)) : List (Bytes × Option Bytes) :=
  vars.takeWhile fun e => isAssignable e.1 e.2

section

variable {e : Bytes × Option Bytes}

theorem settable_cons_of_assignable (h : isAssignable e.1 e.2 = true) :
    settable (e :: vars) = e :: settable vars :=
  List.takeWhile_cons_of_pos h

theorem settable_cons_of_not_assignable (h : ¬isAssignable e.1 e.2 = true) :
    settable (e :: vars) = [] :=
  List.takeWhile_cons_of_neg h

theorem isAssignable_of_mem_settable (h : e ∈ settable vars) : isAssignable e.1 e.2 = true :=
  List.all_eq_true.1 List.all_takeWhile e h

end

/-- **What was set before the work stopped stays set**, and nothing else is touched. -/
theorem environment_override_settable (env : Environment) (vars : List (Bytes × Option Bytes))
    (key : Bytes) :
    (env.override vars).environment key = (lastOverride? (settable vars) key).getD (env key) := by
  have hstops : (env.override vars).environment = (env.override (settable vars)).environment := by
    induction vars generalizing env with
    | nil => rfl
    | cons e vars ih =>
      by_cases he : isAssignable e.1 e.2 = true
      · rw [settable_cons_of_assignable he, override, if_pos he, override, if_pos he]
        exact ih (env.assign e.1 e.2)
      · have hnone : env.override (e :: vars) = ⟨none, env⟩ := by rw [override, if_neg he]
        rw [settable_cons_of_not_assignable he, hnone, override]
  have hall : ∀ e ∈ settable vars, isAssignable e.1 e.2 = true := fun _ =>
    isAssignable_of_mem_settable
  obtain ⟨saved, hsaved⟩ := exists_saved_iff.2 hall
  rw [hstops, environment_override hsaved]

/-! ### Guards and refusals -/

theorem enter_of_saved (h : (env.override vars).saved = some saved) :
    env.enter vars = (.ok (.new saved restore), (env.override vars).environment) := by
  simp only [enter, h]

theorem enter_of_not_saved (h : (env.override vars).saved = none) :
    env.enter vars = (.error (), (env.override vars).environment) := by
  simp only [enter, h]

theorem saved_eq_none_iff :
    (env.override vars).saved = none ↔ ∃ e ∈ vars, isAssignable e.1 e.2 = false := by
  rw [Option.eq_none_iff_forall_ne_some, ← not_exists, exists_saved_iff]
  simp

/-- **However a guard is ended**, it restores the listed variables and touches no other. -/
theorem endBy_of_saved (h : (env.override vars).saved = some saved) (guardEnd : GuardEnd)
    (later : Environment) (key : Bytes) :
    (Guard.new saved restore).endBy guardEnd later key =
      if key ∈ vars.map Prod.fst then env key else later key := by
  rw [Guard.endBy_eq_drop]
  show restore saved later key = _
  split
  next hkey => exact restore_of_mem h hkey
  next hkey => exact restore_of_notMem h hkey

/-! ### All or nothing -/

/-- **All or nothing**: there is a guard that restores every listed variable, however it is ended
and whatever was done in the meantime, or nothing has changed. -/
def AllOrNothing (env : Environment) (vars : List (Bytes × Option Bytes)) : Prop :=
  (∃ g after, env.enter vars = (.ok g, after) ∧
    ∀ guardEnd later, ∀ key ∈ vars.map Prod.fst, g.endBy guardEnd later key = env key) ∨
  env.enter vars = (.error (), env)

/-- Whether the entries before the first one that cannot be set ask for what is so already. -/
def Idle (env : Environment) (vars : List (Bytes × Option Bytes)) : Prop :=
  ∀ key value, lastOverride? (settable vars) key = some value → env key = value

theorem environment_override_eq_self_iff :
    (env.override vars).environment = env ↔ env.Idle vars := by
  constructor
  · intro h key value hvalue
    have hkey := environment_override_settable env vars key
    rw [h, hvalue] at hkey
    exact hkey
  · intro h
    funext key
    rw [environment_override_settable]
    cases hvalue : lastOverride? (settable vars) key with
    | none => rfl
    | some value => exact (h key value hvalue).symm

/-- **What an attempt to override variables comes to.** -/
structure Attempted (env : Environment) (vars : List (Bytes × Option Bytes)) : Prop where
  /-- If every entry can be set, each listed variable has the value of its last entry, and there is
  a guard that restores the listed variables and touches no other. -/
  guarded : (∀ e ∈ vars, isAssignable e.1 e.2 = true) → ∃ g after,
    env.enter vars = (.ok g, after) ∧
    (∀ key, after key = (lastOverride? vars key).getD (env key)) ∧
    ∀ guardEnd later key, g.endBy guardEnd later key =
      if key ∈ vars.map Prod.fst then env key else later key
  /-- If not, there is no guard, and what the entries before the first bad one have set stays. -/
  refused : (∃ e ∈ vars, isAssignable e.1 e.2 = false) → ∃ after,
    env.enter vars = (.error (), after) ∧
    ∀ key, after key = (lastOverride? (settable vars) key).getD (env key)
  /-- So it is all or nothing exactly if every entry can be set or nothing was to be changed. -/
  allOrNothing_iff : env.AllOrNothing vars ↔
    (∀ e ∈ vars, isAssignable e.1 e.2 = true) ∨ env.Idle vars

/-- **Overriding gives a guard for everything or leaves a part behind.** -/
theorem attempted (env : Environment) (vars : List (Bytes × Option Bytes)) :
    env.Attempted vars where
  guarded hall := by
    obtain ⟨saved, hsaved⟩ := exists_saved_iff.2 hall
    exact ⟨_, _, enter_of_saved hsaved, environment_override hsaved, endBy_of_saved hsaved⟩
  refused hbad :=
    ⟨_, enter_of_not_saved (saved_eq_none_iff.2 hbad), environment_override_settable env vars⟩
  allOrNothing_iff := by
    cases hsaved : (env.override vars).saved with
    | none =>
      have hbad : ¬∀ e ∈ vars, isAssignable e.1 e.2 = true := by
        intro hall
        obtain ⟨saved, h⟩ := exists_saved_iff.2 hall
        cases hsaved.symm.trans h
      unfold AllOrNothing
      rw [enter_of_not_saved hsaved, or_iff_right hbad, or_iff_right (by simp),
        Prod.mk.injEq, and_iff_right rfl]
      exact environment_override_eq_self_iff
    | some saved =>
      refine iff_of_true (.inl ⟨_, _, enter_of_saved hsaved, ?_⟩) (.inl ?_)
      · intro guardEnd later key hkey
        rw [endBy_of_saved hsaved, if_pos hkey]
      · exact exists_saved_iff.1 ⟨saved, hsaved⟩

/-- **A variable stays overridden without a guard** if the entry after it has no name. -/
theorem not_allOrNothing_nameless :
    ¬Environment.empty.AllOrNothing [([0x41], some [0x31]), ([], some [0x78])] := by
  have henter : Environment.empty.enter [([0x41], some [0x31]), ([], some [0x78])] =
      (.error (), Environment.empty.assign [0x41] (some [0x31])) := rfl
  rintro (⟨g, after, h, -⟩ | h)
  · cases henter.symm.trans h
  · have hsame : Environment.empty.assign [0x41] (some [0x31]) = .empty :=
      congrArg Prod.snd (henter.symm.trans h)
    have hkey := assign_self .empty [0x41] (some [0x31])
    rw [hsame] at hkey
    cases hkey

end RestoreCheck.Environment
