import RestoreCheck.Fault

/-!
# Command lines

A command line is a program and its arguments, all arbitrary byte strings.  No string with a zero
byte in it can be handed to a program.  A prepared command has such a string replaced, and is not
started then (`prepared`, `holdsZero`); a converted one does not exist (`converted`).
-/

namespace RestoreCheck

/-- A program and its arguments. -/
structure CommandLine where
  /-- the program, by its name or its path -/
  program : Bytes
  /-- the arguments after the program's name -/
  arguments : List Bytes
deriving DecidableEq

namespace CommandLine

/-- The strings that a program is started with: its own name first. -/
def argv (i : CommandLine) : List Bytes :=
  i.program :: i.arguments

/-- The command line for display, its parts separated by blanks. -/
def text (i : CommandLine) : String :=
  String.intercalate " " (i.argv.map Text.lossy)

/-- Whether a string of the command line holds a zero byte. -/
def holdsZero (i : CommandLine) : Bool :=
  i.argv.any fun s => 0 ∈ s

/-- What stands in a prepared command for a string with a zero byte in it. -/
def zeroMark : Bytes := .ofString "<string-with-nul>"

/-- A string as a prepared command holds it. -/
def preparedString (s : Bytes) : Bytes :=
  if 0 ∈ s then zeroMark else s

/-- **The prepared command.**  It cannot be started if a string had to be replaced. -/
def prepared (i : CommandLine) : CommandLine :=
  ⟨preparedString i.program, i.arguments.map preparedString⟩

/-- A string in the form in which it is handed to a program, or where its first zero byte stands. -/
def convertedString (s : Bytes) : Except Nat Bytes :=
  if 0 ∈ s then .error (s.idxOf 0) else .ok s

/-- **The converted command**, or where the first zero byte stands in the first string that holds
one.  The program comes before its arguments. -/
def converted (i : CommandLine) : Except Nat CommandLine := do
  let program ← convertedString i.program
  let arguments ← i.arguments.mapM convertedString
  return ⟨program, arguments⟩

theorem holdsZero_eq_true_iff (i : CommandLine) : i.holdsZero = true ↔ ∃ s ∈ i.argv, 0 ∈ s := by
  simp [holdsZero]

theorem holdsZero_eq_false_iff (i : CommandLine) : i.holdsZero = false ↔ ∀ s ∈ i.argv, 0 ∉ s := by
  simp [holdsZero]

theorem prepared_eq_self {i : CommandLine} (h : i.holdsZero = false) : i.prepared = i := by
  have h := (holdsZero_eq_false_iff i).1 h
  have hp : 0 ∉ i.program := h _ List.mem_cons_self
  have ha : i.arguments.map preparedString = i.arguments :=
    (List.map_congr_left fun s hs => by
      simp [preparedString, h s (List.mem_cons_of_mem _ hs)]).trans (List.map_id _)
  cases i
  simp_all [prepared, preparedString]

end CommandLine

end RestoreCheck
