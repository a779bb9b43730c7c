import RestoreCheck.Fault

/-!
# Contents as they are read

A file is read in chunks, none of them empty or larger than the reader's buffer, until it ends or
reading fails.
-/

namespace RestoreCheck

/-- What a file delivers to a reader. -/
structure Stream where
  /-- the chunks, in order -/
  chunks : List Bytes
  /-- why reading stopped, if it was not the end of the file -/
  failure : Option Fault
  /-- no chunk is empty -/
  chunk_ne_nil : ∀ c ∈ chunks, c ≠ []

namespace Stream

/-- The size of a reader's buffer. -/
def bufferSize : Nat := 8192

/-- All that is delivered. -/
def bytes (s : Stream) : Bytes :=
  s.chunks.flatten

/-- A byte string cut into chunks that fill the buffer, but for the last. -/
def cut (s : Bytes) : List Bytes :=
  if _h : s.drop bufferSize = [] then (if s = [] then [] else [s])
  else s.take bufferSize :: cut (s.drop bufferSize)
termination_by s.length
decreasing_by
  have := mt List.drop_eq_nil_of_le _h
  simp only [bufferSize, List.length_drop] at *
  omega

theorem flatten_cut (s : Bytes) : (cut s).flatten = s := by
  fun_induction cut s with
  | case1 => rfl
  | case2 s h hs => simp
  | case3 s h ih => rw [List.flatten_cons, ih, List.take_append_drop]

theorem ne_nil_of_mem_cut {s c : Bytes} (h : c ∈ cut s) : c ≠ [] := by
  fun_induction cut s with
  | case1 => simp at h
  | case2 s _ hs => simp_all
  | case3 s hs ih =>
    rcases List.mem_cons.1 h with rfl | h
    · rintro e
      rcases List.take_eq_nil_iff.1 e with e | rfl
      · simp [bufferSize] at e
      · exact hs List.drop_nil
    · exact ih h

/-- A whole file that can be read to its end. -/
def ofBytes (s : Bytes) : Stream := ⟨cut s, none, fun _ => ne_nil_of_mem_cut⟩

@[simp] theorem bytes_ofBytes (s : Bytes) : (ofBytes s).bytes = s := flatten_cut s

/-- A file whose first read fails. -/
def failing (cause : Fault) : Stream := ⟨[], some cause, by simp⟩

end Stream

end RestoreCheck
