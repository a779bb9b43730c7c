import RestoreCheck.Bytes

/-!
# Byte strings read as UTF-8

`Text.pieces` splits a byte string into characters and ill-formed runs.  An ill-formed run is
maximal: it is a lead byte with those continuation bytes after it that could still have become a
character, or a single byte that starts none.  Nothing is lost or added: the pieces written one
after the other are the byte string again (`flatMap_bytes_pieces`).
-/

namespace RestoreCheck.Text

/-- A piece of a byte string that is read as UTF-8. -/
inductive Piece where
  /-- a character, with the bytes that encode it -/
  | char (value : Char) (bytes : Bytes)
  /-- a maximal run that encodes no character -/
  | invalid (bytes : Bytes)

/-- The bytes that a piece was read from. -/
def Piece.bytes : Piece → Bytes
  | .char _ bytes => bytes
  | .invalid bytes => bytes

/-! ### Lead bytes -/

/-- What a lead byte of a sequence of two to four bytes says about the bytes after it. -/
structure Lead where
  /-- the part of the code point that the lead byte carries -/
  high : Nat
  /-- the least second byte: overlong forms are below it -/
  least : UInt8
  /-- the greatest second byte: surrogates and numbers above U+10FFFF are above it -/
  greatest : UInt8
  /-- how many bytes follow the lead byte -/
  following : Nat

/-- **Lead bytes**, row by row of the table of well-formed sequences. -/
def lead? (b : UInt8) : Option Lead :=
  if 0xC2 ≤ b ∧ b ≤ 0xDF then some ⟨b.toNat - 0xC0, 0x80, 0xBF, 1⟩
  else if b = 0xE0 then some ⟨0, 0xA0, 0xBF, 2⟩
  else if b = 0xED then some ⟨0xD, 0x80, 0x9F, 2⟩
  else if 0xE1 ≤ b ∧ b ≤ 0xEF then some ⟨b.toNat - 0xE0, 0x80, 0xBF, 2⟩
  else if b = 0xF0 then some ⟨0, 0x90, 0xBF, 3⟩
  else if 0xF1 ≤ b ∧ b ≤ 0xF3 then some ⟨b.toNat - 0xF0, 0x80, 0xBF, 3⟩
  else if b = 0xF4 then some ⟨4, 0x80, 0x8F, 3⟩
  else none

/-- The bytes at the front of a string that continue a sequence, `n` at most.  The first of them
lies between `least` and `greatest`, the others are any continuation bytes. -/
def continuation (least greatest : UInt8) : Nat → Bytes → Bytes
  | 0, _ => []
  | _ + 1, [] => []
  | n + 1, b :: rest =>
    if least ≤ b ∧ b ≤ greatest then b :: continuation 0x80 0xBF n rest else []

/-- The number that continuation bytes add to the part `high` of the lead byte. -/
def codePoint (high : Nat) (bytes : Bytes) : Nat :=
  bytes.foldl (fun n b => n * 64 + (b.toNat - 0x80)) high

/-- The piece that starts with byte `b`. -/
def pieceAt (b : UInt8) (rest : Bytes) : Piece :=
  if b < 0x80 then .char (Char.ofNat b.toNat) [b]
  else
    match lead? b with
    | none => .invalid [b]
    | some lead =>
      let more := continuation lead.least lead.greatest lead.following rest
      if more.length = lead.following then
        .char (Char.ofNat (codePoint lead.high more)) (b :: more)
      else .invalid (b :: more)

/-- A byte string as characters and ill-formed runs. -/
def pieces : Bytes → List Piece
  | [] => []
  | b :: rest => pieceAt b rest :: pieces (rest.drop ((pieceAt b rest).bytes.length - 1))
termination_by s => s.length
decreasing_by
  rw [List.length_drop, List.length_cons]
  omega

/-! ### Nothing is lost -/

theorem continuation_append (least greatest : UInt8) (n : Nat) (rest : Bytes) :
    continuation least greatest n rest
      ++ rest.drop (continuation least greatest n rest).length = rest := by
  induction n generalizing least greatest rest with
  | zero => simp [continuation]
  | succ n ih =>
    cases rest with
    | nil => simp [continuation]
    | cons b rest =>
      simp only [continuation]
      split
      · simp [ih]
      · simp

/-- A piece and what follows it make up the string. -/
theorem bytes_pieceAt (b : UInt8) (rest : Bytes) :
    (pieceAt b rest).bytes ++ rest.drop ((pieceAt b rest).bytes.length - 1) = b :: rest := by
  simp only [pieceAt]
  split
  · simp [Piece.bytes]
  · split
    · simp [Piece.bytes]
    · split <;> simp [Piece.bytes, continuation_append]

/-- **Reading loses nothing**: the pieces written out again are the string. -/
theorem flatMap_bytes_pieces (s : Bytes) : (pieces s).flatMap Piece.bytes = s := by
  fun_induction pieces s with
  | case1 => rfl
  | case2 b rest ih => rw [List.flatMap_cons, ih, bytes_pieceAt]

/-! ### Whole strings -/

/-- The character of a piece, if it has one. -/
def Piece.char? : Piece → Option Char
  | .char c _ => some c
  | .invalid _ => none

/-- The text that a byte string encodes, if it is well-formed throughout. -/
def decode? (s : Bytes) : Option String :=
  ((pieces s).mapM Piece.char?).map String.ofList

/-- **Text for display**: each maximal ill-formed run becomes one U+FFFD. -/
def lossy (s : Bytes) : String :=
  String.ofList ((pieces s).map fun p => p.char?.getD '\uFFFD')

end RestoreCheck.Text
