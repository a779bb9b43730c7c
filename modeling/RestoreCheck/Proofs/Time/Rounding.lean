import RestoreCheck.Time.Precision

/-!
# Rounding and whole seconds

Rounding goes to the nearest unit and whole seconds drop the fraction, so two times on either side
of a full second may round to one time and still lie in different seconds.  Only the precision of a
nanosecond, which rounds nothing, keeps all seconds apart (`Precision.keepsSeconds_iff`).
-/

namespace RestoreCheck.Precision

theorem round_nanosecond (t : Stamp) : nanosecond.round t = t := by
  have hunit : nanosecond.unit = 1 := rfl
  unfold round
  rw [if_pos hunit]

/-- Every other precision rounds the last nanosecond of a second up to the next second. -/
theorem round_last_nanosecond {p : Precision} (hp : p ≠ nanosecond) :
    p.round ⟨999999999, by decide, by decide⟩ = p.round ⟨1000000000, by decide, by decide⟩ := by
  obtain ⟨digits⟩ := p
  have hdigits : digits ≠ 0 := by
    rintro rfl
    exact hp rfl
  clear hp
  revert digits
  decide

/-- **A precision keeps seconds apart**: times that round to one time lie in one second. -/
def KeepsSeconds (p : Precision) : Prop :=
  ∀ t u, p.round t = p.round u → t.SameSecond u

theorem keepsSeconds_iff {p : Precision} : p.KeepsSeconds ↔ p = nanosecond := by
  constructor
  · intro h
    refine Decidable.byContradiction fun hp => ?_
    have hseconds := h _ _ (round_last_nanosecond hp)
    revert hseconds
    decide
  · rintro rfl t u h
    rw [round_nanosecond, round_nanosecond] at h
    exact Stamp.wholeSeconds_eq_iff.1 (congrArg Stamp.wholeSeconds h)

end RestoreCheck.Precision
