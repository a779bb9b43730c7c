import RestoreCheck.Bytes

/-!
# Hexadecimal digits

A byte is written as two digits in lower case, which can be read back (`ofHex_hexBytes`).
-/

namespace RestoreCheck.Text

/-- The digit of a number below sixteen, in lower case. -/
def hexDigit (n : Nat) : Char :=
  Char.ofNat (if n < 10 then 0x30 + n else 0x57 + n)

/-- Two hexadecimal digits in lower case. -/
def hexByte (b : UInt8) : List Char :=
  [hexDigit (b.toNat / 16), hexDigit (b.toNat % 16)]

/-- The digits of a byte string. -/
def hexBytes (s : Bytes) : List Char :=
  s.flatMap hexByte

/-- The value of a digit. -/
def hexValue (c : Char) : Nat :=
  if c.toNat < 0x3A then c.toNat - 0x30 else c.toNat - 0x57

/-- The bytes that digits stand for, two digits to a byte. -/
def ofHex : List Char → Bytes
  | a :: b :: rest => UInt8.ofNat (hexValue a * 16 + hexValue b) :: ofHex rest
  | _ => []

theorem hexValue_hexDigit {n : Nat} (h : n < 16) : hexValue (hexDigit n) = n := by
  match n, h with
  | 0, _ | 1, _ | 2, _ | 3, _ | 4, _ | 5, _ | 6, _ | 7, _ | 8, _ | 9, _ | 10, _ | 11, _ | 12, _
  | 13, _ | 14, _ | 15, _ => rfl
  | _ + 16, h => omega

/-- **What was written can be read back.** -/
theorem ofHex_hexBytes (s : Bytes) : ofHex (hexBytes s) = s := by
  induction s with
  | nil => rfl
  | cons b s ih =>
    have hb := b.toNat_lt
    have hv : hexValue (hexDigit (b.toNat / 16)) * 16 + hexValue (hexDigit (b.toNat % 16))
        = b.toNat := by
      rw [hexValue_hexDigit (by omega), hexValue_hexDigit (by omega)]
      omega
    show UInt8.ofNat _ :: ofHex (hexBytes s) = _
    rw [ih, hv, UInt8.ofNat_toNat]

end RestoreCheck.Text
