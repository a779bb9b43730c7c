import RestoreCheck.Files.Write
import RestoreCheck.Scope.Guard
import RestoreCheck.Text.Octal

/-!
# Scratch places

A scratch place is a fresh directory with a path in it at which nothing exists yet.  It is opened
for a while and then closed, which removes the directory with all that came to be in it.  Places are
numbered, and different numbers have different directories and paths (`path_injective`).  Where a
name may be taken, its number is passed over (`freeNumber`).
-/

namespace RestoreCheck.Scratch

/-- The start of the name of a scratch directory. -/
def directoryStem : String := "fsfidelity-"

/-- The name in a scratch directory at which nothing exists. -/
def fileName : Bytes := .ofString "file"

/-- The bytes of seven-bit digits. -/
def digitBytes (n : Nat) : Bytes :=
  (Text.octalDigits n).map fun c => UInt8.ofNat c.toNat

/-- The `n`th scratch directory among the temporary files. -/
def directory (temp : Path) (n : Nat) : Path :=
  temp.join (.ofString directoryStem ++ digitBytes n)

/-- The path in the `n`th scratch directory. -/
def path (temp : Path) (n : Nat) : Path :=
  directory temp n ++ slash :: fileName

/-- Makes the `n`th scratch directory. -/
def openAt (temp : Path) (n : Nat) (fs : FileSystem) : Except Fault FileSystem :=
  fs.makeDirectory (directory temp n)

/-- Removes the `n`th scratch directory, if it is still there. -/
def close (temp : Path) (n : Nat) (fs : FileSystem) : FileSystem :=
  fs.discard (directory temp n)

/-- **Opens the `n`th scratch place** until the guard is ended. -/
def acquire (temp : Path) (n : Nat) (fs : FileSystem) :
    Except Fault (Guard FileSystem Nat) × FileSystem :=
  match openAt temp n fs with
  | .error cause => (.error cause, fs)
  | .ok fs => (.ok (.new n fun n fs => close temp n fs), fs)

/-! ### Different places -/

theorem digitBytes_injective {m n : Nat} (h : digitBytes m = digitBytes n) : m = n := by
  have key (n : Nat) :
      (digitBytes n).map (fun b => Char.ofNat b.toNat) = Text.octalDigits n := by
    rw [digitBytes, List.map_map]
    refine (List.map_congr_left fun c hc => ?_).trans (List.map_id _)
    have hlt := (Text.toNat_mem_octalDigits hc).2
    simp [Nat.mod_eq_of_lt (show c.toNat < 256 by omega)]
  apply Text.octalDigits_injective
  rw [← key m, ← key n, h]

theorem slash_notMem_digitBytes (n : Nat) : slash ∉ digitBytes n := by
  intro h
  obtain ⟨c, hc, hslash⟩ := List.mem_map.1 h
  have hdigit := Text.toNat_mem_octalDigits hc
  have hcode := congrArg UInt8.toNat hslash
  rw [UInt8.toNat_ofNat', Nat.mod_eq_of_lt (by omega)] at hcode
  have : slash.toNat = 0x2F := rfl
  omega

/-- Joining with a relative path that is not empty tells its ends apart. -/
theorem join_append_injective {p stem s t : Path} (hs : Path.isAbsolute (stem ++ s) = false)
    (ht : Path.isAbsolute (stem ++ t) = false) (h : p.join (stem ++ s) = p.join (stem ++ t)) :
    s = t := by
  simp only [Path.join, hs, ht] at h
  split at h
  · contradiction
  · split at h
    · simpa using h
    · simpa using h

theorem isAbsolute_directoryStem_append (s : Bytes) :
    Path.isAbsolute (.ofString directoryStem ++ s) = false := by
  have h : (Bytes.ofString directoryStem).head? = some 0x66 := rfl
  rw [Path.isAbsolute, List.head?_append, h]
  rfl

/-- **Different numbers have different paths.** -/
theorem path_injective {temp : Path} {m n : Nat} (h : path temp m = path temp n) : m = n := by
  have hd : directory temp m = directory temp n := List.append_cancel_right h
  exact digitBytes_injective <| join_append_injective (isAbsolute_directoryStem_append _)
    (isAbsolute_directoryStem_append _) hd

/-! ### Numbers that are free -/

/-- **The first number from `n` on** whose name is not taken. -/
def freeNumber (name : Nat → Name) (taken : List Name) (n : Nat) : Nat :=
  if h : name n ∈ taken then freeNumber name (taken.erase (name n)) (n + 1) else n
termination_by taken.length
decreasing_by
  have hlength := List.length_erase_of_mem h
  have hpos := List.length_pos_of_mem h
  omega

theorem le_freeNumber (name : Nat → Name) (taken : List Name) (n : Nat) :
    n ≤ freeNumber name taken n := by
  fun_induction freeNumber name taken n with
  | case1 taken n _ ih => omega
  | case2 taken n _ => exact Nat.le_refl n

theorem name_freeNumber_notMem {name : Nat → Name} (hname : ∀ {m n}, name m = name n → m = n)
    (taken : List Name) (n : Nat) : name (freeNumber name taken n) ∉ taken := by
  fun_induction freeNumber name taken n with
  | case1 taken n _ ih =>
    -- Only the name of `n` was struck out, and the numbers that are left have others.
    have hle := le_freeNumber name (taken.erase (name n)) (n + 1)
    have hne : name (freeNumber name (taken.erase (name n)) (n + 1)) ≠ name n := by
      intro heq
      have := hname heq
      omega
    intro hmem
    exact ih ((List.mem_erase_of_ne hne).2 hmem)
  | case2 taken n hfree => exact hfree

end RestoreCheck.Scratch
