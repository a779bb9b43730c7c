/-!
# Spans of time

A span is a non-negative time of whole seconds and nanoseconds, the seconds in 64 bits.  Its text
uses the largest of the units s, ms, µs and ns that the span has a whole one of, with the rest as a
decimal fraction without trailing zeros.
-/

namespace RestoreCheck

/-- A non-negative length of time. -/
structure Span where
  /-- whole seconds -/
  seconds : UInt64
  /-- nanoseconds beyond them -/
  nanos : Nat
  /-- they are less than a second -/
  nanos_lt : nanos < 1000000000
deriving DecidableEq

namespace Span

/-- No time at all. -/
def zero : Span := ⟨0, 0, by decide⟩

/-- A number of seconds. -/
def ofSeconds (n : UInt64) : Span := ⟨n, 0, by decide⟩

/-- A number of milliseconds. -/
def ofMillis (n : UInt64) : Span :=
  ⟨n / 1000, n.toNat % 1000 * 1000000, by omega⟩

/-- The exact number of nanoseconds. -/
def total (d : Span) : Nat :=
  d.seconds.toNat * 1000000000 + d.nanos

/-- The whole milliseconds of a span. -/
def millis (d : Span) : Nat :=
  d.total / 1000000

/-- The decimal fraction `n / 10 ^ places` after its point, without trailing zeros. -/
def fractionDigits (places n : Nat) : List Char :=
  let digits := Nat.toDigits 10 n
  let padded := List.replicate (places - digits.length) '0' ++ digits
  (padded.reverse.dropWhile (· = '0')).reverse

/-- A whole number of units and a fraction of `places` digits. -/
def decimalText (whole places fraction : Nat) : String :=
  if fraction = 0 then toString whole
  else toString whole ++ "." ++ String.ofList (fractionDigits places fraction)

/-- **The text of a span.** -/
def text (d : Span) : String :=
  if 0 < d.seconds then decimalText d.seconds.toNat 9 d.nanos ++ "s"
  else if 1000000 ≤ d.nanos then decimalText (d.nanos / 1000000) 6 (d.nanos % 1000000) ++ "ms"
  else if 1000 ≤ d.nanos then decimalText (d.nanos / 1000) 3 (d.nanos % 1000) ++ "µs"
  else toString d.nanos ++ "ns"

end Span

end RestoreCheck
