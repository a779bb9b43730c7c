import RestoreCheck.Time.Stamp

/-!
# Rounding of time stamps

Stamps of two trees are compared after both are rounded to the precision that the platform can set
and read back.  A precision is a power of ten of nanoseconds, from one nanosecond to one second.
Rounding goes to the nearest unit; half a unit goes away from the epoch, on either side of it.
-/

namespace RestoreCheck

/-- A rounding precision: ten to the power `digits` nanoseconds. -/
structure Precision where
  /-- how many decimal digits of the nanoseconds are rounded away -/
  digits : Fin 10
deriving DecidableEq

namespace Precision

/-- One nanosecond: nothing is rounded. -/
def nanosecond : Precision := ⟨0⟩

/-- One microsecond. -/
def microsecond : Precision := ⟨3⟩

/-- Ten microseconds. -/
def tenMicroseconds : Precision := ⟨4⟩

/-- One second. -/
def second : Precision := ⟨9⟩

/-- The fixed precision for mounted views that carry no nanoseconds. -/
def coarse : Precision := tenMicroseconds

/-- The exponent of ten, from `-9` to `0`: the number of digits, negated. -/
def exponent (p : Precision) : Int :=
  -(p.digits.val : Int)

/-- The precision with a given exponent, which has to be one of the ten. -/
def ofExponent? (e : Int) : Option Precision :=
  if h : -9 ≤ e ∧ e ≤ 0 then some ⟨⟨(-e).toNat, by omega⟩⟩ else none

theorem ofExponent?_exponent (p : Precision) : ofExponent? p.exponent = some p := by
  obtain ⟨d, hd⟩ := p
  have h : -9 ≤ exponent ⟨d, hd⟩ ∧ exponent ⟨d, hd⟩ ≤ 0 := by simp only [exponent]; omega
  simp only [ofExponent?, dif_pos h, Option.some.injEq, mk.injEq, Fin.mk.injEq]
  simp [exponent]

/-- The nanoseconds in one unit. -/
def unit (p : Precision) : Nat :=
  Nat.pow 10 p.digits.val

/-- The whole number of units nearest to a stamp, half a unit going away from zero. -/
def units (p : Precision) (t : Stamp) : Int :=
  let quotient := t.nanos.tdiv p.unit
  if p.unit ≤ (t.nanos.tmod p.unit).natAbs * 2 then quotient + t.nanos.sign else quotient

/-- **Rounding to the nearest unit**, kept within the range of stamps. -/
def round (p : Precision) (t : Stamp) : Stamp :=
  if p.unit = 1 then t else Stamp.clamp (p.units t * p.unit)

/-- Whether two stamps are at most one unit apart. -/
def near (p : Precision) (a b : Stamp) : Bool :=
  (a.nanos - b.nanos).natAbs ≤ p.unit

/-- The unit as a number and a unit of time. -/
def text (p : Precision) : String :=
  match p.digits with
  | 0 => "1ns"
  | 1 => "10ns"
  | 2 => "100ns"
  | 3 => "1us"
  | 4 => "10us"
  | 5 => "100us"
  | 6 => "1ms"
  | 7 => "10ms"
  | 8 => "100ms"
  | 9 => "1s"

end Precision

end RestoreCheck
