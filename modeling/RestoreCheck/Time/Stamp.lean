/-!
# Time stamps

A stamp is a signed 64-bit number of nanoseconds since the epoch, about 292 years to either side.
`Stamp.clamp` brings any number of nanoseconds into that range: it changes nothing inside
(`nanos_clamp_of_mem`) and keeps the order (`nanos_clamp_le`).  `Stamp.wholeSeconds` drops the
fraction of a second, so it tells which stamps lie in one second (`wholeSeconds_eq_iff`).  File
times come as seconds and nanoseconds and are converted by `Stamp.ofMoment`; birth times come as a
distance from the epoch and are converted by `Stamp.ofDistance`.
-/

namespace RestoreCheck

/-- Nanoseconds in a second. -/
def nanosPerSecond : Int := 1000000000

/-- A signed 64-bit number of nanoseconds since the epoch. -/
structure Stamp where
  /-- the number of nanoseconds -/
  nanos : Int
  /-- it is not below the range -/
  least_le : -9223372036854775808 ≤ nanos
  /-- it is not above the range -/
  le_greatest : nanos ≤ 9223372036854775807
deriving DecidableEq

namespace Stamp

theorem ext {a b : Stamp} (h : a.nanos = b.nanos) : a = b := by
  cases a; cases b; cases h; rfl

/-- The earliest stamp. -/
def least : Stamp := ⟨-9223372036854775808, by decide, by decide⟩

/-- The latest stamp. -/
def greatest : Stamp := ⟨9223372036854775807, by decide, by decide⟩

/-- The epoch. -/
def zero : Stamp := ⟨0, by decide, by decide⟩

/-- **The nearest stamp** to a number of nanoseconds. -/
def clamp (n : Int) : Stamp :=
  if low : n < -9223372036854775808 then least
  else if high : 9223372036854775807 < n then greatest
  else ⟨n, by omega, by omega⟩

theorem nanos_clamp (n : Int) :
    (clamp n).nanos = max (-9223372036854775808) (min n 9223372036854775807) := by
  unfold clamp least greatest
  split
  · simp only; omega
  · split <;> simp only <;> omega

/-- Inside the range nothing changes. -/
theorem nanos_clamp_of_mem {n : Int} (low : -9223372036854775808 ≤ n)
    (high : n ≤ 9223372036854775807) : (clamp n).nanos = n := by
  rw [nanos_clamp]; omega

@[simp] theorem clamp_nanos (t : Stamp) : clamp t.nanos = t :=
  ext (nanos_clamp_of_mem t.least_le t.le_greatest)

/-- Clamping keeps the order. -/
theorem nanos_clamp_le {m n : Int} (h : m ≤ n) : (clamp m).nanos ≤ (clamp n).nanos := by
  rw [nanos_clamp, nanos_clamp]; omega

/-- The stamp in whole seconds, the fraction dropped: the result is closer to the epoch. -/
def wholeSeconds (t : Stamp) : Stamp :=
  clamp (t.nanos.tdiv nanosPerSecond)

/-- A number of seconds is never out of range. -/
theorem nanos_wholeSeconds (t : Stamp) : t.wholeSeconds.nanos = t.nanos.tdiv nanosPerSecond := by
  have hlow := t.least_le
  have hhigh := t.le_greatest
  have hdiv : (t.nanos.tdiv nanosPerSecond).natAbs = t.nanos.natAbs / 1000000000 :=
    Int.natAbs_tdiv _ _
  apply nanos_clamp_of_mem <;> omega

/-- Two stamps lie in one second, counted from the epoch on either side of it. -/
def SameSecond (t u : Stamp) : Prop :=
  t.nanos.tdiv nanosPerSecond = u.nanos.tdiv nanosPerSecond

instance (t u : Stamp) : Decidable (t.SameSecond u) :=
  inferInstanceAs (Decidable (_ = _))

theorem wholeSeconds_eq_iff {t u : Stamp} : t.wholeSeconds = u.wholeSeconds ↔ t.SameSecond u := by
  unfold SameSecond
  rw [← nanos_wholeSeconds, ← nanos_wholeSeconds]
  exact ⟨congrArg nanos, ext⟩

end Stamp

/-! ### Moments -/

/-- A moment as seconds since the epoch and nanoseconds after that second. -/
structure Moment where
  /-- the second, possibly before the epoch -/
  seconds : Int
  /-- the nanoseconds after it -/
  nanos : Nat
deriving DecidableEq

/-- The exact number of nanoseconds from the epoch to a moment. -/
def Moment.total (m : Moment) : Int :=
  m.seconds * nanosPerSecond + m.nanos

namespace Stamp

/-- **The stamp of a file time.**  The seconds are brought into range before the nanoseconds are
added, and the sum is brought into range again. -/
def ofMoment (m : Moment) : Stamp :=
  clamp ((clamp (m.seconds * nanosPerSecond)).nanos + m.nanos)

/-- **The stamp of a birth time**, which is known as a distance before or after the epoch.  A
distance that does not fit gives the limit on its side. -/
def ofDistance (m : Moment) : Stamp :=
  if 0 ≤ m.total then
    if h : m.total.natAbs ≤ 9223372036854775807 then ⟨m.total.natAbs, by omega, by omega⟩
    else greatest
  else
    if h : m.total.natAbs ≤ 9223372036854775807 then ⟨-m.total.natAbs, by omega, by omega⟩
    else least

end Stamp

end RestoreCheck
