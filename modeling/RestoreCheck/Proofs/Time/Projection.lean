import RestoreCheck.Proofs.Time.Nearest

/-!
# Rounding keeps the order

Nearest multiples come in the order of the numbers that they are nearest to (`IsNearest.mono`), and
a number on the way to its nearest multiple has the same nearest multiple
(`IsNearest.of_between`).  So rounding keeps the order of stamps, and rounding again changes
nothing.  The limits of the range are no multiples, but a limit lies between the stamps that are
brought back to it and the multiple out of range, so it is brought back to itself.

Rounding moves a stamp by half a unit at most.  Stamps that round together are therefore at most one
unit apart, which is what `Precision.near` asks (`Precision.projects`).
-/

namespace RestoreCheck

/-! ### Nearest multiples in order -/

section

variable {unit : Nat} {x y n m : Int}

/-- **Nearest multiples come in the order of their numbers.** -/
theorem IsNearest.mono (hn : IsNearest unit x n) (hm : IsNearest unit y m) (hxy : x ≤ y) :
    n ≤ m := by
  by_contra hlt
  -- The numbers would both lie in the middle between the two multiples, and so be the same.
  have hleft : (n - x).natAbs ≤ (m - x).natAbs := hn.le m hm.dvd
  have hright : (m - y).natAbs ≤ (n - y).natAbs := hm.le n hn.dvd
  have heq : x = y := by omega
  subst heq
  exact hlt (Int.le_of_eq (hn.unique hm))

/-- **On the way to a nearest multiple** it stays the nearest one. -/
theorem IsNearest.of_between (h : IsNearest unit x n) (hy : x ≤ y ∧ y ≤ n ∨ n ≤ y ∧ y ≤ x) :
    IsNearest unit y n where
  dvd := h.dvd
  le m hm := by
    have hle := h.le m hm
    omega
  away m hm hne hdist := by
    have hle := h.le m hm
    exact h.away m hm hne (by omega)

end

namespace Precision

variable {p : Precision} {a b : Stamp}

/-! ### Rounding twice -/

theorem nanos_round_le (p : Precision) (h : a.nanos ≤ b.nanos) :
    (p.round a).nanos ≤ (p.round b).nanos := by
  rw [nanos_round (p.isNearest_units a), nanos_round (p.isNearest_units b)]
  exact Stamp.nanos_clamp_le ((p.isNearest_units a).mono (p.isNearest_units b) h)

/-- What a stamp is rounded to lies on the way to the nearest multiple. -/
theorem isNearest_round {n : Int} (h : IsNearest p.unit a.nanos n) :
    IsNearest p.unit (p.round a).nanos n := by
  have hlow := a.least_le
  have hhigh := a.le_greatest
  refine h.of_between ?_
  rw [nanos_round h, Stamp.nanos_clamp]
  omega

theorem round_round (p : Precision) (a : Stamp) : p.round (p.round a) = p.round a := by
  have hnearest := p.isNearest_units a
  apply Stamp.ext
  rw [nanos_round (isNearest_round hnearest), nanos_round hnearest]

/-- A limit that a stamp was brought back to is no multiple of the unit. -/
theorem not_dvd_round {n : Int} (h : IsNearest p.unit a.nanos n) (hn : ¬Stamp.Fits n) :
    ¬(p.unit : Int) ∣ (p.round a).nanos := by
  intro hdvd
  -- A multiple is its own nearest multiple, and this one is in range.
  have heq := (isNearest_round h).unique (isNearest_self hdvd)
  exact hn (heq ▸ ⟨(p.round a).least_le, (p.round a).le_greatest⟩)

/-! ### Rounding together -/

theorem near_iff : p.near a b = true ↔ (a.nanos - b.nanos).natAbs ≤ p.unit :=
  decide_eq_true_iff

theorem near_comm (p : Precision) (a b : Stamp) : p.near a b = p.near b a := by
  unfold near
  rw [← Int.natAbs_neg, Int.neg_sub]

theorem near_of_round_eq (h : p.round a = p.round b) : p.near a b = true := by
  have ha := p.natAbs_round_sub_mul_two_le a
  have hb := p.natAbs_round_sub_mul_two_le b
  rw [h] at ha
  exact near_iff.2 (by omega)

/-! ### In words -/

/-- **Whether two stamps are at most one unit apart**, in words: nothing comes of it if a result on
the way does not fit its word. -/
def nearInWords (p : Precision) (a b : Stamp) : Option Bool := do
  let distance ← unsignedWord? (a.nanos - b.nanos).natAbs
  let unit ← signedWord? (Int.pow 10 p.digits.val)
  let limit ← unsignedWord? unit.natAbs
  return distance ≤ limit

theorem nearInWords_eq (p : Precision) (a b : Stamp) :
    p.nearInWords a b = some (p.near a b) := by
  have ha := a.least_le
  have ha' := a.le_greatest
  have hb := b.least_le
  have hb' := b.le_greatest
  have hunit := p.unit_le
  have hpow : Int.pow 10 p.digits.val = p.unit := (Int.natCast_pow 10 p.digits.val).symm
  unfold nearInWords near
  rw [unsignedWord?_eq (by omega), hpow, signedWord?_eq ⟨by omega, by omega⟩]
  simp only [Option.bind_eq_bind, Option.bind_some]
  rw [Int.natAbs_natCast, unsignedWord?_eq (by omega)]
  rfl

/-! ### The whole of it -/

/-- **How rounding goes with the order of stamps** and with the question whether two are near. -/
structure Projects (p : Precision) : Prop where
  /-- The order is kept. -/
  monotone : ∀ a b : Stamp, a.nanos ≤ b.nanos → (p.round a).nanos ≤ (p.round b).nanos
  /-- Rounding again changes nothing. -/
  idempotent : ∀ a, p.round (p.round a) = p.round a
  /-- So it does at a limit, which stands for a multiple out of range and is none itself. -/
  limit : ∀ a n, IsNearest p.unit a.nanos n → ¬Stamp.Fits n →
    (p.round a = .greatest ∨ p.round a = .least) ∧ ¬(p.unit : Int) ∣ (p.round a).nanos ∧
      p.round (p.round a) = p.round a
  /-- Stamps that round together are near. -/
  near_of_eq : ∀ a b, p.round a = p.round b → p.near a b = true
  /-- Stamps more than one unit apart never round together. -/
  apart : ∀ a b : Stamp, p.unit < (a.nanos - b.nanos).natAbs → p.round a ≠ p.round b
  near_symm : ∀ a b, p.near a b = p.near b a
  /-- Near means one unit apart at most, as exact numbers. -/
  near_exact : ∀ a b, p.near a b = true ↔ (a.nanos - b.nanos).natAbs ≤ p.unit
  /-- It is found out in words, none of which a result fails to fit. -/
  near_in_words : ∀ a b, p.nearInWords a b = some (p.near a b)

/-- **Rounding is a projection that keeps the order**, and only near stamps round together. -/
theorem projects (p : Precision) : p.Projects where
  monotone _ _ h := p.nanos_round_le h
  idempotent := p.round_round
  limit a n hn hfits := by
    refine ⟨?_, not_dvd_round hn hfits, p.round_round a⟩
    exact (round_of_not_fits hn hfits).imp And.right And.right
  near_of_eq _ _ := near_of_round_eq
  apart a b hfar heq := by
    have hnear := near_iff.1 (near_of_round_eq heq)
    omega
  near_symm := p.near_comm
  near_exact _ _ := near_iff
  near_in_words := p.nearInWords_eq

/-- The next full second is out of range, so the latest stamp stands for it, twice over. -/
example : second.round (.clamp 9223372036500000000) = .greatest ∧
    second.round .greatest = .greatest := by decide

end Precision

end RestoreCheck
