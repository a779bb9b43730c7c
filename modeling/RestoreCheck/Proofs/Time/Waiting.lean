import RestoreCheck.Time.Waiting

/-!
# How waiting goes

Waiting makes one check after the other, each after a reading of the clock before the deadline, and
pauses after a check that fails (`waitsTo_waitFrom`).  It ends with the first check that holds, or
with the first reading at or past the deadline.  So a condition is seen to hold exactly if some
check before the deadline would find that it does (`holds_waitFrom_iff`).
-/

namespace RestoreCheck

variable {σ : Type}

/-- The state before check number `k`, counted from zero, if no earlier one ends the waiting. -/
def polled (check : σ → Bool × σ) (pause : σ → σ) : Nat → σ → σ
  | 0, s => s
  | k + 1, s => polled check pause k (pause (check s).2)

theorem polled_succ (check : σ → Bool × σ) (pause : σ → σ) (k : Nat) (s : σ) :
    polled check pause (k + 1) s = pause (check (polled check pause k s)).2 := by
  induction k generalizing s with
  | zero => rfl
  | succ k ih => exact ih (pause (check s).2)

/-- A reading before a deadline comes before every reading that is too late. -/
theorem Clock.lt_of_early_of_late (clock : Clock) {deadline i j : Nat}
    (early : clock.reading i < deadline) (late : deadline ≤ clock.reading j) : i < j := by
  refine Nat.lt_of_not_le fun hji => ?_
  have hmono := clock.reading_mono hji
  omega

/-- **How waiting goes** when `n` readings have been made: either check number `k` is the first that
holds, or none of `k` checks does and then it is too late for another. -/
inductive WaitsTo (clock : Clock) (deadline : Nat) (check : σ → Bool × σ) (pause : σ → σ) (n : Nat)
    (s : σ) : Waited σ → Prop where
  | held (k : Nat) (fails : ∀ j < k, (check (polled check pause j s)).1 = false)
      (early : clock.reading (n + k) < deadline)
      (holds : (check (polled check pause k s)).1 = true) :
      WaitsTo clock deadline check pause n s ⟨true, (check (polled check pause k s)).2⟩
  | late (k : Nat) (fails : ∀ j < k, (check (polled check pause j s)).1 = false)
      (early : ∀ j < k, clock.reading (n + j) < deadline)
      (late : deadline ≤ clock.reading (n + k)) :
      WaitsTo clock deadline check pause n s ⟨false, polled check pause k s⟩

variable {clock : Clock} {deadline n : Nat} {check : σ → Bool × σ} {pause : σ → σ} {s : σ}

/-- One check that fails comes before all the others. -/
theorem WaitsTo.cons {w : Waited σ} (early : clock.reading n < deadline)
    (fails : (check s).1 = false)
    (h : WaitsTo clock deadline check pause (n + 1) (pause (check s).2) w) :
    WaitsTo clock deadline check pause n s w := by
  have hshift (k : Nat) : n + 1 + k = n + (k + 1) := by omega
  have hfails {k : Nat}
      (h : ∀ j < k, (check (polled check pause j (pause (check s).2))).1 = false) :
      ∀ j < k + 1, (check (polled check pause j s)).1 = false := by
    intro j hj
    cases j with
    | zero => exact fails
    | succ j => exact h j (by omega)
  cases h with
  | held k hf he hk => exact .held (k + 1) (hfails hf) (hshift k ▸ he) hk
  | late k hf he hl =>
    refine .late (k + 1) (hfails hf) ?_ (hshift k ▸ hl)
    intro j hj
    cases j with
    | zero => exact early
    | succ j => exact hshift j ▸ he j (by omega)

theorem waitsTo_waitFrom (clock : Clock) (deadline : Nat) (check : σ → Bool × σ) (pause : σ → σ)
    (n : Nat) (s : σ) :
    WaitsTo clock deadline check pause n s (waitFrom clock deadline check pause n s) := by
  induction n, s using waitFrom.induct clock deadline check pause with
  | case1 n s early t hcheck =>
    rw [waitFrom, dif_pos early, hcheck]
    have hheld : WaitsTo clock deadline check pause n s ⟨true, (check s).2⟩ :=
      .held 0 (by simp) early (congrArg Prod.fst hcheck)
    rwa [hcheck] at hheld
  | case2 n s early t hcheck ih =>
    rw [waitFrom, dif_pos early, hcheck]
    refine .cons early (congrArg Prod.fst hcheck) ?_
    rwa [hcheck]
  | case3 n s late =>
    rw [waitFrom, dif_neg late]
    exact .late 0 (by simp) (by simp) (by simpa using late)

/-- **A condition is seen to hold** exactly if some check before the deadline finds that it does. -/
theorem holds_waitFrom_iff :
    (waitFrom clock deadline check pause n s).holds = true ↔
      ∃ k, clock.reading (n + k) < deadline ∧ (check (polled check pause k s)).1 = true := by
  have h := waitsTo_waitFrom clock deadline check pause n s
  revert h
  generalize waitFrom clock deadline check pause n s = w
  intro h
  cases h with
  | held k fails early holds => exact iff_of_true rfl ⟨k, early, holds⟩
  | late k fails early late =>
    refine iff_of_false (by simp) ?_
    rintro ⟨j, hj, holds⟩
    -- A check before the deadline is one of those that failed.
    have hjk : n + j < n + k := clock.lt_of_early_of_late hj late
    have hfails := fails j (by omega)
    simp [hfails] at holds

end RestoreCheck
