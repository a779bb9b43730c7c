/-!
# Octal numbers

File modes are written in octal after the mark `0o`.  The digits can be read back
(`octalValue_octalDigits`), so different modes have different texts (`octal_injective`).
-/

namespace RestoreCheck.Text

/-- The digit of a number below eight. -/
def octalDigit (n : Nat) : Char :=
  Char.ofNat (0x30 + n % 8)

/-- The octal digits of a number, without leading zeros; zero has one digit. -/
def octalDigits (n : Nat) : List Char :=
  if n < 8 then [octalDigit n] else octalDigits (n / 8) ++ [octalDigit n]
termination_by n
decreasing_by omega

/-- A number in octal after the mark `0o`. -/
def octal (n : Nat) : String :=
  String.ofList ('0' :: 'o' :: octalDigits n)

/-! ### Reading back -/

/-- The number that a list of octal digits denotes. -/
def octalValue (digits : List Char) : Nat :=
  digits.foldl (fun n c => n * 8 + (c.toNat - 0x30)) 0

theorem toNat_octalDigit (n : Nat) : (octalDigit n).toNat = 0x30 + n % 8 := by
  have h : n % 8 < 8 := Nat.mod_lt _ (by decide)
  unfold octalDigit
  generalize n % 8 = d at h
  match d, h with
  | 0, _ | 1, _ | 2, _ | 3, _ | 4, _ | 5, _ | 6, _ | 7, _ => rfl
  | _ + 8, h => omega

theorem toNat_mem_octalDigits {n : Nat} {c : Char} (h : c ∈ octalDigits n) :
    0x30 ≤ c.toNat ∧ c.toNat < 0x38 := by
  have hdigit (n : Nat) : 0x30 ≤ (octalDigit n).toNat ∧ (octalDigit n).toNat < 0x38 := by
    rw [toNat_octalDigit]
    omega
  fun_induction octalDigits n with
  | case1 n _ =>
    rw [List.mem_singleton.1 h]
    exact hdigit n
  | case2 n _ ih =>
    rcases List.mem_append.1 h with h | h
    · exact ih h
    · rw [List.mem_singleton.1 h]
      exact hdigit n

/-- The digits of a number denote it. -/
theorem octalValue_octalDigits (n : Nat) : octalValue (octalDigits n) = n := by
  fun_induction octalDigits n with
  | case1 n h =>
    simp only [octalValue, List.foldl_cons, List.foldl_nil, toNat_octalDigit]
    omega
  | case2 n h ih =>
    simp only [octalValue, List.foldl_append, List.foldl_cons, List.foldl_nil,
      toNat_octalDigit] at ih ⊢
    rw [ih]
    omega

theorem octalDigits_injective {m n : Nat} (h : octalDigits m = octalDigits n) : m = n := by
  rw [← octalValue_octalDigits m, h, octalValue_octalDigits]

/-- **Different numbers have different texts.** -/
theorem octal_injective {m n : Nat} (h : octal m = octal n) : m = n := by
  have h' := congrArg String.toList h
  simp only [octal, String.toList_ofList, List.cons.injEq, true_and] at h'
  exact octalDigits_injective h'

end RestoreCheck.Text
