import RestoreCheck.Text.Hex
import RestoreCheck.Text.Unprintable
import RestoreCheck.Text.Utf8

/-!
# Quoted names

A name in a message stands between double quotes.  A character that would be misread there is
written as an escape, an unprintable one by its number, and a byte that belongs to no character as
`\xFF` in capitals.
-/

namespace RestoreCheck.Text

/-- Whether a character has a printed form of its own.  The seven-bit characters are decided
without the table. -/
def isPrintable (c : Char) : Bool :=
  if c.toNat < 0x7F then 0x20 ≤ c.toNat
  else !Unprintable.ranges.any fun (first, last) => first ≤ c.toNat && c.toNat ≤ last

/-- **One character between quotes.** -/
def quotedChar (c : Char) : List Char :=
  if c = '\x00' then ['\\', '0']
  else if c = '\t' then ['\\', 't']
  else if c = '\r' then ['\\', 'r']
  else if c = '\n' then ['\\', 'n']
  else if c = '\x22' then ['\\', '\x22']
  else if c = '\\' then ['\\', '\\']
  else if isPrintable c then [c]
  else ['\\', 'u', '\x7b'] ++ Nat.toDigits 16 c.toNat ++ ['\x7d']

/-- A byte that belongs to no character. -/
def quotedByte (b : UInt8) : List Char :=
  ['\\', 'x'] ++ (hexByte b).map Char.toUpper

/-- A piece of a byte string between quotes. -/
def Piece.quoted : Piece → List Char
  | .char c _ => quotedChar c
  | .invalid bytes => bytes.flatMap quotedByte

/-- **A quoted byte string.** -/
def quoted (s : Bytes) : String :=
  String.ofList (['\x22'] ++ (pieces s).flatMap Piece.quoted ++ ['\x22'])

/-- A quoted text. -/
def quotedText (s : String) : String :=
  String.ofList (['\x22'] ++ s.toList.flatMap quotedChar ++ ['\x22'])

/-- A list of quoted names between brackets. -/
def quotedList (names : List Bytes) : String :=
  "[" ++ String.intercalate ", " (names.map quoted) ++ "]"

end RestoreCheck.Text
