import RestoreCheck.Time.Span

/-!
# Waiting for a condition

A condition is checked again and again until it holds or a deadline has passed.  The clock is read
before every check; a check is made only if the reading is before the deadline, so that nothing is
checked if there is no time at all.  After a check that fails there is a pause.

`Clock` is any sequence of readings that never goes back and in the end passes every moment; that it
does is what makes waiting end.
-/

namespace RestoreCheck

/-- The readings of a clock, in nanoseconds. -/
structure Clock where
  /-- the `n`th reading -/
  reading : Nat → Nat
  /-- the clock never goes back -/
  reading_le_succ : ∀ n, reading n ≤ reading (n + 1)
  /-- a reading by which a moment has come -/
  arrival : Nat → Nat
  /-- it has come by then -/
  le_reading_arrival : ∀ t, t ≤ reading (arrival t)

namespace Clock

/-- The first moment that a clock cannot show: its seconds have 63 bits. -/
def limit : Nat := 9223372036854775808 * 1000000000

/-- The deadline after some time, if the clock can show it. -/
def deadline? (start : Nat) (timeout : Span) : Option Nat :=
  -- The sum itself has to be shown, not only the time that is waited.
  if start + timeout.total < limit then some (start + timeout.total) else none

theorem reading_mono (c : Clock) {m n : Nat} (h : m ≤ n) : c.reading m ≤ c.reading n := by
  induction n with
  | zero => exact Nat.le_zero.1 h ▸ Nat.le_refl _
  | succ n ih =>
    rcases Nat.lt_or_eq_of_le h with h | rfl
    · exact Nat.le_trans (ih (Nat.le_of_lt_succ h)) (c.reading_le_succ n)
    · exact Nat.le_refl _

/-- A reading before some moment comes before the arrival of that moment. -/
theorem lt_arrival_of_reading_lt (c : Clock) {n t : Nat} (h : c.reading n < t) :
    n < c.arrival t := by
  rcases Nat.lt_or_ge n (c.arrival t) with hn | hn
  · exact hn
  · have := Nat.le_trans (c.le_reading_arrival t) (c.reading_mono hn)
    omega

/-- A clock that shows `start`, then `start + lag`, and from there on advances by the same step from
reading to reading. -/
def ticking (start lag step : Nat) (hstep : 0 < step) : Clock where
  reading
    | 0 => start
    | n + 1 => start + lag + n * step
  reading_le_succ n := by
    match n with
    | 0 => exact Nat.le_trans (Nat.le_add_right _ _) (Nat.le_add_right _ _)
    | n + 1 => exact Nat.add_le_add_left (Nat.mul_le_mul_right _ (Nat.le_succ n)) _
  arrival t := t + 1
  le_reading_arrival t := by
    have : t * 1 ≤ t * step := Nat.mul_le_mul_left _ hstep
    show t ≤ start + lag + t * step
    omega

end Clock

/-- How waiting ended. -/
structure Waited (σ : Type) where
  /-- whether the condition was seen to hold -/
  holds : Bool
  /-- the state afterwards -/
  state : σ

/-- Checks a condition until it holds or the deadline has passed; `n` readings were made before. -/
def waitFrom {σ : Type} (clock : Clock) (deadline : Nat) (check : σ → Bool × σ) (pause : σ → σ)
    (n : Nat) (s : σ) : Waited σ :=
  if _h : clock.reading n < deadline then
    match check s with
    | (true, s) => ⟨true, s⟩
    | (false, s) => waitFrom clock deadline check pause (n + 1) (pause s)
  else ⟨false, s⟩
termination_by clock.arrival deadline - n
decreasing_by
  have := clock.lt_arrival_of_reading_lt _h
  omega

/-- **Waits for a condition.**  The first reading of the clock sets the deadline; there is no answer
if the clock cannot show it. -/
def waitUntil {σ : Type} (clock : Clock) (timeout : Span) (check : σ → Bool × σ) (pause : σ → σ)
    (s : σ) : Option (Waited σ) :=
  (Clock.deadline? (clock.reading 0) timeout).map fun deadline =>
    waitFrom clock deadline check pause 1 s

end RestoreCheck
