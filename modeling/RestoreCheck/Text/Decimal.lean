/-!
# Decimal numbers

A number is read from one or more seven-bit digits, with one plus sign before them allowed; it has
to be below a bound.  Leading zeros do not matter.
-/

namespace RestoreCheck.Text

/-- The value of a seven-bit digit. -/
def digitValue? (c : Char) : Option Nat :=
  if '0' ≤ c ∧ c ≤ '9' then some (c.toNat - 0x30) else none

/-- **A decimal number below `bound`.** -/
def decimalBelow? (bound : Nat) (s : String) : Option Nat := do
  let digits := match s.toList with
    | '+' :: rest => rest
    | digits => digits
  let values ← digits.mapM digitValue?
  let n := values.foldl (fun n d => n * 10 + d) 0
  if values ≠ [] ∧ n < bound then some n else none

end RestoreCheck.Text
