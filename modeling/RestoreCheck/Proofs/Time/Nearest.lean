import Mathlib.Logic.ExistsUnique
import Mathlib.Tactic.ByContra
import RestoreCheck.Proofs.Time.Rounding

/-!
# Rounding is exact

`IsNearest` says which multiple of a unit a number is rounded to: the nearest one, and of two that
are equally near the one further from zero.  There is only one (`IsNearest.unique`), it is found by
a division that drops the fraction and one step outwards (`isNearest_wholeUnits`), and rounding a
stamp gives it whenever it fits (`Precision.nanos_round`).

`Precision.roundInWords` is the same calculation in words of 64 bits, which comes to nothing as soon
as a result does not fit its word.  It always comes to its end (`Precision.roundsExactly`).
-/

namespace RestoreCheck

/-! ### The nearest multiple -/

/-- **The multiple of a unit that is nearest to a number**, half a unit going away from zero. -/
structure IsNearest (unit : Nat) (x n : Int) : Prop where
  /-- it is a multiple -/
  dvd : (unit : Int) ∣ n
  /-- no multiple is nearer -/
  le : ∀ m : Int, (unit : Int) ∣ m → (n - x).natAbs ≤ (m - x).natAbs
  /-- another one that is as near lies nearer to zero -/
  away : ∀ m : Int, (unit : Int) ∣ m → m ≠ n → (m - x).natAbs = (n - x).natAbs →
    m.natAbs < n.natAbs

section

variable {unit : Nat} {x n m : Int}

theorem IsNearest.unique (hn : IsNearest unit x n) (hm : IsNearest unit x m) : n = m := by
  by_contra hne
  have hdist : (n - x).natAbs = (m - x).natAbs :=
    Nat.le_antisymm (hn.le m hm.dvd) (hm.le n hn.dvd)
  have hlt : m.natAbs < n.natAbs := hn.away m hm.dvd (Ne.symm hne) hdist.symm
  have hgt : n.natAbs < m.natAbs := hm.away n hn.dvd hne hdist
  omega

/-- On the other side of zero all is the same. -/
theorem IsNearest.neg (h : IsNearest unit x n) : IsNearest unit (-x) (-n) where
  dvd := Int.dvd_neg.2 h.dvd
  le m hm := by
    have hle := h.le (-m) (Int.dvd_neg.2 hm)
    omega
  away m hm hne hdist := by
    have hlt := h.away (-m) (Int.dvd_neg.2 hm) (by omega) (by omega)
    omega

/-- Two multiples lie at least a unit apart. -/
theorem le_natAbs_sub_of_dvd (hn : (unit : Int) ∣ n) (hm : (unit : Int) ∣ m) (hne : m ≠ n) :
    unit ≤ (m - n).natAbs := by
  have hdvd : (unit : Int) ∣ ((m - n).natAbs : Int) := by
    rw [Int.dvd_natAbs]
    exact Int.dvd_sub hm hn
  exact Nat.le_of_dvd (by omega) (Int.natCast_dvd_natCast.1 hdvd)

/-- **A multiple at most half a unit away is the nearest one**, if it lies on the outer side of a
number that is exactly half a unit away. -/
theorem isNearest_of_natAbs_sub_mul_two_le (hn : (unit : Int) ∣ n)
    (hclose : (n - x).natAbs * 2 ≤ unit)
    (houter : (n - x).natAbs * 2 = unit → x ≠ 0 ∧ n.natAbs = x.natAbs + (n - x).natAbs) :
    IsNearest unit x n where
  dvd := hn
  le m hm := by
    by_cases hne : m = n
    · subst hne
      exact Nat.le_refl _
    · have hunit := le_natAbs_sub_of_dvd hn hm hne
      omega
  away m hm hne hdist := by
    have hunit := le_natAbs_sub_of_dvd hn hm hne
    -- The two multiples lie on either side, so the number is half a unit away from both.
    have hhalf : (n - x).natAbs * 2 = unit := by omega
    obtain ⟨hx, houter⟩ := houter hhalf
    omega

/-- A multiple is nearest to itself. -/
theorem isNearest_self (hx : (unit : Int) ∣ x) : IsNearest unit x x where
  dvd := hx
  le m _ := by
    rw [Int.sub_self]
    exact Nat.zero_le _
  away m _ hne hdist := by
    rw [Int.sub_self] at hdist
    exact absurd (by omega) hne

/-- The nearest multiple is at most half a unit away. -/
theorem IsNearest.natAbs_sub_mul_two_le (h : IsNearest unit x n) (hunit : 0 < unit) :
    (n - x).natAbs * 2 ≤ unit := by
  have hnext := h.le (n + unit) (Int.dvd_add h.dvd (Int.dvd_refl _))
  have hlast := h.le (n - unit) (Int.dvd_sub h.dvd (Int.dvd_refl _))
  omega

/-! ### Counting units -/

/-- The whole number of units nearest to a number, as rounding counts it. -/
def wholeUnits (unit : Nat) (x : Int) : Int :=
  if unit ≤ (x.tmod unit).natAbs * 2 then x.tdiv unit + x.sign else x.tdiv unit

theorem wholeUnits_neg (unit : Nat) (x : Int) : wholeUnits unit (-x) = -wholeUnits unit x := by
  unfold wholeUnits
  rw [Int.neg_tmod, Int.natAbs_neg, Int.neg_tdiv, Int.sign_neg]
  split
  · rw [Int.neg_add]
  · rfl

theorem isNearest_wholeUnits_of_nonneg (hunit : 0 < unit) (hx : 0 ≤ x) :
    IsNearest unit x (wholeUnits unit x * unit) := by
  have hdiv : x.tdiv unit = x / unit := Int.tdiv_eq_ediv_of_nonneg hx
  have hmod : x.tmod unit = x % unit := Int.tmod_eq_emod_of_nonneg hx
  have hdecompose : x / unit * unit + x % unit = x := Int.ediv_mul_add_emod x unit
  have hquotient : 0 ≤ x / unit * unit :=
    Int.mul_nonneg (Int.ediv_nonneg hx (by omega)) (by omega)
  have hlow : 0 ≤ x % unit := Int.emod_nonneg x (by omega)
  have hhigh : x % unit < unit := Int.emod_lt_of_pos x (by omega)
  by_cases hfar : (unit : Int) ≤ x % unit * 2
  · -- The next multiple is at least as near, and it lies further out.
    have hsign : x.sign = 1 := Int.sign_eq_one_of_pos (by omega)
    have hcount : wholeUnits unit x = x / unit + 1 := by
      unfold wholeUnits
      rw [hdiv, hmod, hsign, if_pos (by omega)]
    rw [hcount]
    refine isNearest_of_natAbs_sub_mul_two_le (Int.dvd_mul_left _ _) ?_ ?_
    · rw [Int.add_mul, Int.one_mul]
      omega
    · rw [Int.add_mul, Int.one_mul]
      omega
  · have hcount : wholeUnits unit x = x / unit := by
      unfold wholeUnits
      rw [hdiv, hmod, if_neg (by omega)]
    rw [hcount]
    refine isNearest_of_natAbs_sub_mul_two_le (Int.dvd_mul_left _ _) ?_ ?_
    · omega
    · omega

/-- **The count gives the nearest multiple.** -/
theorem isNearest_wholeUnits (hunit : 0 < unit) (x : Int) :
    IsNearest unit x (wholeUnits unit x * unit) := by
  by_cases hx : 0 ≤ x
  · exact isNearest_wholeUnits_of_nonneg hunit hx
  · have hneg := (isNearest_wholeUnits_of_nonneg hunit (x := -x) (by omega)).neg
    rwa [wholeUnits_neg, Int.neg_mul, Int.neg_neg, Int.neg_neg] at hneg

end

/-! ### Rounding stamps -/

/-- Whether a number of nanoseconds is within the range of stamps. -/
def Stamp.Fits (n : Int) : Prop :=
  -9223372036854775808 ≤ n ∧ n ≤ 9223372036854775807

namespace Precision

theorem unit_pos (p : Precision) : 0 < p.unit :=
  Nat.pow_pos (by decide)

theorem unit_le (p : Precision) : p.unit ≤ 1000000000 :=
  Nat.pow_le_pow_right (by decide) (Nat.le_of_lt_succ p.digits.isLt)

theorem ten_le_unit {p : Precision} (h : p.unit ≠ 1) : 10 ≤ p.unit := by
  have hdigits : p.digits.val ≠ 0 := by
    intro hzero
    exact h (by rw [unit, hzero])
  calc
    10 = 10 ^ 1 := rfl
    _ ≤ 10 ^ p.digits.val := Nat.pow_le_pow_right (by decide) (Nat.one_le_iff_ne_zero.2 hdigits)

theorem isNearest_units (p : Precision) (t : Stamp) :
    IsNearest p.unit t.nanos (p.units t * p.unit) :=
  isNearest_wholeUnits p.unit_pos t.nanos

/-- **Rounding gives the nearest multiple**, brought into the range of stamps. -/
theorem nanos_round {p : Precision} {t : Stamp} {n : Int} (h : IsNearest p.unit t.nanos n) :
    (p.round t).nanos = (Stamp.clamp n).nanos := by
  unfold round
  by_cases hone : p.unit = 1
  · have hself : IsNearest p.unit t.nanos t.nanos := by
      rw [hone]
      exact isNearest_self (Int.one_dvd _)
    rw [if_pos hone, h.unique hself, Stamp.clamp_nanos]
  · rw [if_neg hone, h.unique (p.isNearest_units t)]

/-! ### Words of 64 bits -/

/-- A number as a signed word, if it fits. -/
def signedWord? (n : Int) : Option Int :=
  if -9223372036854775808 ≤ n ∧ n ≤ 9223372036854775807 then some n else none

/-- A number as an unsigned word, if it fits. -/
def unsignedWord? (n : Nat) : Option Nat :=
  if n ≤ 18446744073709551615 then some n else none

/-- The quotient of two words without its fraction, if there is one. -/
def quotientWord? (a b : Int) : Option Int :=
  if b = 0 then none else signedWord? (a.tdiv b)

/-- The remainder of that quotient, which a machine finds together with it. -/
def remainderWord? (a b : Int) : Option Int :=
  if b = 0 then none else (signedWord? (a.tdiv b)).bind fun _ => signedWord? (a.tmod b)

/-- **Rounding in words**: nothing comes of it if a result on the way does not fit its word.  Only
the last product is brought into range instead. -/
def roundInWords (p : Precision) (t : Stamp) : Option Int := do
  let unit ← signedWord? (Int.pow 10 p.digits.val)
  if unit = 1 then
    return t.nanos
  let quotient ← quotientWord? t.nanos unit
  let remainder ← remainderWord? t.nanos unit
  let magnitude ← unsignedWord? remainder.natAbs
  let doubled ← unsignedWord? (magnitude * 2)
  let limit ← unsignedWord? unit.natAbs
  let count ← if limit ≤ doubled then signedWord? (quotient + t.nanos.sign) else some quotient
  return (Stamp.clamp (count * unit)).nanos

theorem signedWord?_eq {n : Int} (h : Stamp.Fits n) : signedWord? n = some n :=
  if_pos h

theorem unsignedWord?_eq {n : Nat} (h : n ≤ 18446744073709551615) : unsignedWord? n = some n :=
  if_pos h

/-- **No result on the way fails to fit.** -/
theorem roundInWords_eq (p : Precision) (t : Stamp) :
    p.roundInWords t = some (p.round t).nanos := by
  have hpow : Int.pow 10 p.digits.val = p.unit := (Int.natCast_pow 10 p.digits.val).symm
  have hhigh := p.unit_le
  have hunit : signedWord? (Int.pow 10 p.digits.val) = some (p.unit : Int) := by
    rw [hpow]
    exact signedWord?_eq ⟨by omega, by omega⟩
  unfold roundInWords round
  rw [hunit, Option.bind_eq_bind, Option.bind_some]
  by_cases hone : p.unit = 1
  · rw [if_pos hone, if_pos (by omega)]
    rfl
  · have hten := ten_le_unit hone
    have hlow := t.least_le
    have hgreat := t.le_greatest
    -- The quotient is a tenth of the stamp at most, which leaves room for the step outwards.
    have hquotient : (t.nanos.tdiv p.unit).natAbs ≤ t.nanos.natAbs / 10 := by
      rw [Int.natAbs_tdiv, Int.natAbs_natCast]
      exact Nat.div_le_div_left hten (by decide)
    have hremainder : (t.nanos.tmod p.unit).natAbs < p.unit := by
      rw [Int.natAbs_tmod, Int.natAbs_natCast]
      exact Nat.mod_lt _ p.unit_pos
    have hsign : t.nanos.sign.natAbs ≤ 1 := by
      rw [Int.natAbs_sign]
      split <;> decide
    have hdivides : quotientWord? t.nanos p.unit = some (t.nanos.tdiv p.unit) := by
      unfold quotientWord?
      rw [if_neg (by omega), signedWord?_eq ⟨by omega, by omega⟩]
    have hremains : remainderWord? t.nanos p.unit = some (t.nanos.tmod p.unit) := by
      unfold remainderWord?
      rw [if_neg (by omega), signedWord?_eq ⟨by omega, by omega⟩, Option.bind_some,
        signedWord?_eq ⟨by omega, by omega⟩]
    have hcount : signedWord? (t.nanos.tdiv p.unit + t.nanos.sign) =
        some (t.nanos.tdiv p.unit + t.nanos.sign) := signedWord?_eq ⟨by omega, by omega⟩
    rw [if_neg hone, if_neg (by omega)]
    simp only [hdivides, hremains, Option.bind_eq_bind, Option.bind_some]
    rw [unsignedWord?_eq (by omega), Option.bind_some, unsignedWord?_eq (by omega),
      Option.bind_some, Int.natAbs_natCast, unsignedWord?_eq (by omega), Option.bind_some]
    unfold units
    split
    · rw [hcount]
      rfl
    · rfl

/-! ### The whole of it -/

/-- **How a stamp is rounded.** -/
structure RoundsExactly (p : Precision) (t : Stamp) : Prop where
  /-- Every result on the way fits its word, and the last one is what rounding gives. -/
  in_words : p.roundInWords t = some (p.round t).nanos
  /-- There is one nearest multiple. -/
  exists_nearest : ∃! n, IsNearest p.unit t.nanos n
  /-- If it is in the range of stamps it is the result. -/
  inside : ∀ n, IsNearest p.unit t.nanos n → Stamp.Fits n → (p.round t).nanos = n
  /-- If it is not, the result is the limit on the side of the stamp. -/
  outside : ∀ n, IsNearest p.unit t.nanos n → ¬Stamp.Fits n →
    0 < t.nanos ∧ p.round t = .greatest ∨ t.nanos < 0 ∧ p.round t = .least
  /-- The result is at most half a unit away. -/
  close : ((p.round t).nanos - t.nanos).natAbs * 2 ≤ p.unit
  /-- The stamp as far on the other side of the epoch is rounded to the opposite, if neither of the
  nearest multiples is out of range. -/
  opposite : ∀ u : Stamp, u.nanos = -t.nanos → ∀ n m, IsNearest p.unit t.nanos n → Stamp.Fits n →
    IsNearest p.unit u.nanos m → Stamp.Fits m → (p.round u).nanos = -(p.round t).nanos

theorem nanos_round_of_fits {p : Precision} {t : Stamp} {n : Int}
    (h : IsNearest p.unit t.nanos n) (hn : Stamp.Fits n) : (p.round t).nanos = n := by
  rw [nanos_round h, Stamp.nanos_clamp_of_mem hn.1 hn.2]

/-- A stamp whose nearest multiple is out of range becomes the limit on its side. -/
theorem round_of_not_fits {p : Precision} {t : Stamp} {n : Int}
    (hn : IsNearest p.unit t.nanos n) (hfits : ¬Stamp.Fits n) :
    0 < t.nanos ∧ p.round t = .greatest ∨ t.nanos < 0 ∧ p.round t = .least := by
  have hclose := hn.natAbs_sub_mul_two_le p.unit_pos
  have hunit := p.unit_le
  have hlow := t.least_le
  have hhigh := t.le_greatest
  have hround := nanos_round hn
  rw [Stamp.nanos_clamp] at hround
  unfold Stamp.Fits at hfits
  -- The nearest multiple is half a second away at most, so it lies beyond the limit of its side.
  by_cases habove : 9223372036854775807 < n
  · refine .inl ⟨by omega, Stamp.ext ?_⟩
    show _ = (9223372036854775807 : Int)
    omega
  · refine .inr ⟨by omega, Stamp.ext ?_⟩
    show _ = (-9223372036854775808 : Int)
    omega

/-- Rounding moves a stamp by half a unit at most. -/
theorem natAbs_round_sub_mul_two_le (p : Precision) (t : Stamp) :
    ((p.round t).nanos - t.nanos).natAbs * 2 ≤ p.unit := by
  have hclose := (p.isNearest_units t).natAbs_sub_mul_two_le p.unit_pos
  have hlow := t.least_le
  have hhigh := t.le_greatest
  rw [nanos_round (p.isNearest_units t), Stamp.nanos_clamp]
  omega

/-- **Rounding is exact.** -/
theorem roundsExactly (p : Precision) (t : Stamp) : p.RoundsExactly t where
  in_words := p.roundInWords_eq t
  exists_nearest := ⟨_, p.isNearest_units t, fun _ hm => hm.unique (p.isNearest_units t)⟩
  inside n hn hfits := nanos_round_of_fits hn hfits
  outside n hn hfits := round_of_not_fits hn hfits
  close := p.natAbs_round_sub_mul_two_le t
  opposite u hu n m hn hfits hm hfits' := by
    have hneg : IsNearest p.unit u.nanos (-n) := by
      rw [hu]
      exact hn.neg
    rw [nanos_round_of_fits hm hfits', nanos_round_of_fits hn hfits, hm.unique hneg]

/-- Half a unit goes away from the epoch on both sides, also where the even neighbour is nearer to
it. -/
example : microsecond.round (.clamp 2500) = .clamp 3000 ∧
    microsecond.round (.clamp (-2500)) = .clamp (-3000) := by decide

end Precision

end RestoreCheck
