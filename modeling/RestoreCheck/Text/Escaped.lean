import RestoreCheck.Text.Quoted

/-!
# Byte strings in seven-bit text

The value of an extended attribute is shown byte by byte: a printable seven-bit character stands
for itself, quotes and backslashes are marked, and every other byte is written by its number.
-/

namespace RestoreCheck.Text

/-- One byte in seven-bit text. -/
def escapedByte (b : UInt8) : List Char :=
  if b = 0x09 then ['\\', 't']
  else if b = 0x0D then ['\\', 'r']
  else if b = 0x0A then ['\\', 'n']
  else if b = 0x22 ∨ b = 0x27 ∨ b = 0x5C then ['\\', Char.ofNat b.toNat]
  else if 0x20 ≤ b ∧ b < 0x7F then [Char.ofNat b.toNat]
  else ['\\', 'x'] ++ hexByte b

/-- **A byte string in seven-bit text.** -/
def escaped (s : Bytes) : String :=
  String.ofList (s.flatMap escapedByte)

end RestoreCheck.Text
