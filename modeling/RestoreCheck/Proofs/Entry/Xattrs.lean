import RestoreCheck.Entry.Xattrs
import RestoreCheck.Path

/-!
# Lists and maps that ascend

A list whose keys ascend strictly is settled by its members (`Sorted.Ascending.eq_of_mem_iff`), so
the names of a directory in byte order do not depend on the order in which they were listed
(`Name.ascending_congr`).  In the same way a map of extended attributes is settled by the values of
its keys: the map of a list of pairs has the last value of each key (`Xattrs.ofList_eq_iff`), and
two maps are the same without the security label exactly if they agree on every other key
(`dropLabel_eq_iff`).
-/

namespace RestoreCheck

namespace Sorted

variable {α : Type} {key : α → Bytes} {l l' : List α}

theorem Ascending.nodup (h : Ascending key l) : l.Nodup := by
  refine List.Pairwise.imp ?_ h
  rintro a b hab rfl
  exact Bytes.ne_of_precedes hab rfl

/-- No key stands twice in an ascending list. -/
theorem Ascending.eq_of_key_eq (h : Ascending key l) {a b : α} (ha : a ∈ l) (hb : b ∈ l)
    (hkey : key a = key b) : a = b := by
  induction l with
  | nil => cases ha
  | cons c l ih =>
    obtain ⟨hc, hl⟩ := List.pairwise_cons.1 h
    rcases List.mem_cons.1 ha with rfl | hal
    · rcases List.mem_cons.1 hb with rfl | hbl
      · rfl
      · exact absurd hkey (Bytes.ne_of_precedes (hc b hbl))
    · rcases List.mem_cons.1 hb with rfl | hbl
      · exact absurd hkey.symm (Bytes.ne_of_precedes (hc a hal))
      · exact ih hl hal hbl

/-- **Ascending lists with the same members are the same.** -/
theorem Ascending.eq_of_mem_iff (h : Ascending key l) (h' : Ascending key l')
    (hmem : ∀ a, a ∈ l ↔ a ∈ l') : l = l' := by
  have hperm : l.Perm l' := (List.perm_ext_iff_of_nodup h.nodup h'.nodup).2 hmem
  refine hperm.eq_of_pairwise ?_ h h'
  intro a b _ _ hab hba
  exact absurd rfl (Bytes.ne_of_precedes (Bytes.precedes_trans hab hba))

/-- Taking all values with a key out of an ascending list takes one value out at most. -/
theorem Ascending.filter_eq_eraseP (h : Ascending key l) (k : Bytes) :
    l.filter (fun a => key a ≠ k) = l.eraseP fun a => key a = k := by
  induction l with
  | nil => rfl
  | cons a l ih =>
    obtain ⟨ha, hl⟩ := List.pairwise_cons.1 h
    by_cases hk : key a = k
    · have hrest : ∀ b ∈ l, decide (key b ≠ k) = true := by
        intro b hb
        apply decide_eq_true
        exact hk ▸ (Bytes.ne_of_precedes (ha b hb)).symm
      rw [List.eraseP_cons, decide_eq_true hk, cond_true, List.filter_cons_of_neg (by simp [hk]),
        List.filter_eq_self.2 hrest]
    · rw [List.eraseP_cons, decide_eq_false hk, cond_false, List.filter_cons_of_pos (by simp [hk]),
        ih hl]

end Sorted

/-- The names of a directory in byte order do not depend on the order of listing. -/
theorem Name.ascending_congr {names names' : List Name} (h : ∀ n, n ∈ names ↔ n ∈ names') :
    ascending names = ascending names' := by
  refine (Sorted.pairwise_ofList names).eq_of_mem_iff (Sorted.pairwise_ofList names') ?_
  intro n
  show n ∈ ascending names ↔ n ∈ ascending names'
  rw [mem_ascending, mem_ascending, h]

namespace Xattrs

/-- A value is found under its key exactly if the pair is there. -/
theorem get?_eq_some_iff {m : Xattrs} {key value : Bytes} :
    m.get? key = some value ↔ (key, value) ∈ m.entries := by
  unfold get?
  constructor
  · intro h
    obtain ⟨⟨k, v⟩, hfind, rfl⟩ := Option.map_eq_some_iff.1 h
    obtain rfl : k = key := by simpa using List.find?_some hfind
    exact List.mem_of_find?_eq_some hfind
  · intro hmem
    cases hfind : m.entries.find? fun e => e.1 = key with
    | none =>
      have hnone := List.find?_eq_none.1 hfind _ hmem
      rw [decide_eq_true rfl] at hnone
      exact absurd rfl hnone
    | some e =>
      have hkey : e.1 = key := by simpa using List.find?_some hfind
      rw [m.ascending.eq_of_key_eq (List.mem_of_find?_eq_some hfind) hmem hkey]
      rfl

/-- Maps that agree on every key are the same. -/
theorem ext_get? {a b : Xattrs} (h : ∀ key, a.get? key = b.get? key) : a = b := by
  refine ext (a.ascending.eq_of_mem_iff b.ascending ?_)
  rintro ⟨key, value⟩
  rw [← get?_eq_some_iff, ← get?_eq_some_iff, h]

/-! ### The map of a list of pairs -/

theorem get?_insert (m : Xattrs) (key value k : Bytes) :
    (m.insert key value).get? k = if k = key then some value else m.get? k := by
  split
  · rename_i hk
    subst hk
    exact get?_eq_some_iff.2 (Sorted.mem_insert_self (k, value) m.entries)
  · rename_i hk
    ext v
    rw [get?_eq_some_iff, get?_eq_some_iff]
    constructor
    · intro h
      rcases Sorted.mem_of_mem_insert h with heq | h
      · exact absurd (congrArg Prod.fst heq) hk
      · exact h
    · exact Sorted.mem_insert_of_mem hk

/-- The last value that a list of pairs has for a key. -/
def lastValue? (pairs : List (Bytes × Bytes)) (key : Bytes) : Option Bytes :=
  (pairs.reverse.find? fun e => e.1 = key).map Prod.snd

theorem get?_ofList (pairs : List (Bytes × Bytes)) (key : Bytes) :
    (ofList pairs).get? key = lastValue? pairs key := by
  unfold ofList lastValue?
  -- The last pair is set last: from its end the list is gone through as it is searched.
  rw [← List.foldr_reverse]
  induction pairs.reverse with
  | nil => rfl
  | cons e rest ih =>
    rw [List.foldr_cons, get?_insert, ih, List.find?_cons]
    by_cases he : key = e.1
    · rw [if_pos he, decide_eq_true he.symm]
      rfl
    · rw [if_neg he, decide_eq_false (Ne.symm he)]

/-- **The map of a list of pairs** is the one that has the last value of each key. -/
theorem ofList_eq_iff {pairs : List (Bytes × Bytes)} {m : Xattrs} :
    ofList pairs = m ↔ ∀ key, m.get? key = lastValue? pairs key := by
  constructor
  · rintro rfl key
    exact get?_ofList pairs key
  · intro h
    apply ext_get?
    intro key
    rw [get?_ofList, h]

end Xattrs

/-- **Dropping the label leaves the same** exactly if all other keys have the same values. -/
theorem dropLabel_eq_iff {a b : Xattrs} :
    dropLabel a = dropLabel b ↔ ∀ key, key ≠ securityLabel → a.get? key = b.get? key := by
  show a.erase securityLabel = b.erase securityLabel ↔ _
  constructor
  · intro h key hkey
    have hget := congrArg (fun m => m.get? key) h
    simp only [Xattrs.get?_erase, if_neg hkey] at hget
    exact hget
  · intro h
    refine Xattrs.ext_get? fun key => ?_
    rw [Xattrs.get?_erase, Xattrs.get?_erase]
    split
    · rfl
    · rename_i hkey
      exact h key hkey

end RestoreCheck
