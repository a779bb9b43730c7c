import RestoreCheck.Bytes

/-!
# Lists in the order of their keys

The values of a type are listed by a key that each of them has, a byte string.  `Sorted.insert` puts
a value in its place in such a list, over an earlier one with the same key, and `Sorted.ofList`
sorts a list that way.  The result ascends strictly (`pairwise_ofList`); if the key tells values
apart, none is lost (`mem_ofList`).
-/

namespace RestoreCheck.Sorted

variable {α : Type} {key : α → Bytes}

/-- The keys of a list ascend strictly. -/
def Ascending (key : α → Bytes) (l : List α) : Prop :=
  l.Pairwise fun a b => Bytes.precedes (key a) (key b) = true

/-- `a` put in its place in an ascending list, over an earlier value with its key. -/
def insert (key : α → Bytes) (a : α) : List α → List α
  | [] => [a]
  | b :: rest =>
    if Bytes.precedes (key a) (key b) then a :: b :: rest
    else if key a = key b then a :: rest
    else b :: insert key a rest

/-- The values of a list in the order of their keys; of values with one key the first is kept. -/
def ofList (key : α → Bytes) (l : List α) : List α :=
  l.foldr (insert key) []

theorem mem_of_mem_insert {a b : α} {l : List α} (h : b ∈ insert key a l) : b = a ∨ b ∈ l := by
  induction l with
  | nil => simpa [insert] using h
  | cons c l ih =>
    simp only [insert] at h
    split at h
    · simpa using h
    · split at h
      · exact (List.mem_cons.1 h).imp id (List.mem_cons_of_mem _)
      · rcases List.mem_cons.1 h with rfl | h
        · exact .inr List.mem_cons_self
        · exact (ih h).imp id (List.mem_cons_of_mem _)

theorem mem_insert_self (a : α) (l : List α) : a ∈ insert key a l := by
  induction l with
  | nil => simp [insert]
  | cons c l ih =>
    simp only [insert]
    split
    · simp
    · split
      · simp
      · exact List.mem_cons_of_mem _ ih

/-- A value with another key stays. -/
theorem mem_insert_of_mem {a b : α} {l : List α} (hk : key b ≠ key a) (h : b ∈ l) :
    b ∈ insert key a l := by
  induction l with
  | nil => simp at h
  | cons c l ih =>
    simp only [insert]
    split
    · exact List.mem_cons_of_mem _ h
    · split
      · rename_i hac
        rcases List.mem_cons.1 h with rfl | h
        · exact absurd hac.symm hk
        · exact List.mem_cons_of_mem _ h
      · rcases List.mem_cons.1 h with rfl | h
        · exact List.mem_cons_self
        · exact List.mem_cons_of_mem _ (ih h)

theorem pairwise_insert {a : α} {l : List α} (h : Ascending key l) :
    Ascending key (insert key a l) := by
  induction l with
  | nil => simp [insert, Ascending]
  | cons b l ih =>
    obtain ⟨hb, hl⟩ := List.pairwise_cons.1 h
    simp only [insert]
    split
    · rename_i hab
      refine List.pairwise_cons.2 ⟨fun c hc => ?_, h⟩
      rcases List.mem_cons.1 hc with rfl | hc
      · exact hab
      · exact Bytes.precedes_trans hab (hb c hc)
    · rename_i hab
      split
      · rename_i he
        exact List.pairwise_cons.2 ⟨fun c hc => he ▸ hb c hc, hl⟩
      · rename_i hne
        refine List.pairwise_cons.2 ⟨fun c hc => ?_, ih hl⟩
        rcases mem_of_mem_insert hc with rfl | hc
        · exact (Bytes.precedes_connex hne).resolve_left hab
        · exact hb c hc

/-- **A sorted list ascends strictly**, so no key stands in it twice. -/
theorem pairwise_ofList (l : List α) : Ascending key (ofList key l) := by
  induction l with
  | nil => simp [ofList, Ascending]
  | cons a l ih => exact pairwise_insert ih

/-- **Sorting neither loses nor invents a value** if different values have different keys. -/
theorem mem_ofList (hkey : ∀ a b, key a = key b → a = b) {a : α} {l : List α} :
    a ∈ ofList key l ↔ a ∈ l := by
  induction l with
  | nil => simp [ofList]
  | cons b l ih =>
    simp only [ofList, List.foldr_cons, List.mem_cons] at ih ⊢
    constructor
    · intro h
      exact (mem_of_mem_insert h).imp id ih.1
    · rintro (rfl | h)
      · exact mem_insert_self _ _
      · by_cases hk : key a = key b
        · rw [hkey a b hk]
          exact mem_insert_self _ _
        · exact mem_insert_of_mem hk (ih.2 h)

end RestoreCheck.Sorted
