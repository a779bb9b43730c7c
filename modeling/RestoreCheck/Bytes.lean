/-!
# Byte strings and their order

Names, paths, attribute values and arguments are arbitrary byte strings.  `Bytes.precedes` is the
order in which names are listed, byte by byte with a shorter string before its extensions; it is
a strict total order (`precedes_irrefl`, `precedes_trans`, `precedes_connex`).
-/

namespace RestoreCheck

/-- A string of bytes. -/
abbrev Bytes := List UInt8

namespace Bytes

/-- The UTF-8 encoding of `s`. -/
def ofString (s : String) : Bytes :=
  s.toUTF8.data.toList

/-! ### The order of names -/

/-- **Byte order.**  The first differing byte decides; a proper beginning comes first. -/
def precedes : Bytes → Bytes → Bool
  | [], [] => false
  | [], _ :: _ => true
  | _ :: _, [] => false
  | a :: as, b :: bs => if a < b then true else if a = b then precedes as bs else false

theorem precedes_cons {a b : UInt8} {as bs : Bytes} :
    precedes (a :: as) (b :: bs) = true ↔ a < b ∨ a = b ∧ precedes as bs = true := by
  simp only [precedes]
  split
  · simp_all
  · split <;> simp_all

theorem precedes_irrefl (s : Bytes) : precedes s s = false := by
  induction s with
  | nil => rfl
  | cons a s ih => simp [precedes, ih]

theorem precedes_trans {s t u : Bytes} (h₁ : precedes s t = true) (h₂ : precedes t u = true) :
    precedes s u = true := by
  induction s generalizing t u with
  | nil =>
    cases t with
    | nil => simp [precedes] at h₁
    | cons b t => cases u <;> simp_all [precedes]
  | cons a s ih =>
    cases t with
    | nil => simp [precedes] at h₁
    | cons b t =>
      cases u with
      | nil => simp [precedes] at h₂
      | cons c u =>
        rw [precedes_cons] at h₁ h₂ ⊢
        rcases h₁ with h₁ | ⟨rfl, h₁⟩
        · rcases h₂ with h₂ | ⟨rfl, -⟩
          · exact Or.inl (UInt8.lt_trans h₁ h₂)
          · exact Or.inl h₁
        · rcases h₂ with h₂ | ⟨rfl, h₂⟩
          · exact Or.inl h₂
          · exact Or.inr ⟨rfl, ih h₁ h₂⟩

/-- Of two different strings one precedes the other. -/
theorem precedes_connex {s t : Bytes} (h : s ≠ t) :
    precedes s t = true ∨ precedes t s = true := by
  induction s generalizing t with
  | nil => cases t <;> simp_all [precedes]
  | cons a s ih =>
    cases t with
    | nil => simp [precedes]
    | cons b t =>
      rw [precedes_cons, precedes_cons]
      by_cases hab : a = b
      · subst hab
        have hst : s ≠ t := fun e => h (by rw [e])
        rcases ih hst with h' | h'
        · exact Or.inl (Or.inr ⟨rfl, h'⟩)
        · exact Or.inr (Or.inr ⟨rfl, h'⟩)
      · rcases Nat.lt_or_gt_of_ne (fun e => hab (UInt8.toNat_inj.1 e)) with h' | h'
        · exact Or.inl (Or.inl (UInt8.lt_iff_toNat_lt.2 h'))
        · exact Or.inr (Or.inl (UInt8.lt_iff_toNat_lt.2 h'))

theorem ne_of_precedes {s t : Bytes} (h : precedes s t = true) : s ≠ t := by
  rintro rfl
  simp [precedes_irrefl] at h

end Bytes

end RestoreCheck
