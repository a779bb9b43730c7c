import RestoreCheck.Proofs.Entry.Xattrs

/-!
# Dropping the security label

What is left of a list of attributes without the security label is settled by three facts: it keeps
the order of the list, no key in it is the label's, and all else stands in it as often as in the
list (`Unlabelled`, `unlabelled_iff`).  Maps, lists of pairs and lists of keys are all collections
with a list of entries, and what dropping the label does to that list settles what it does to the
collection (`Labelled.dropsLabel_of_filter`).

The three forms agree (`Labelled.formsAgree`).  A map has the last value of each key, and the last
pair with another key is the same with and without the label, so the label can be dropped before a
map is made of a list of pairs or afterwards (`Labelled.ofList_withoutLabel`).
-/

namespace RestoreCheck

/-! ### What is left -/

/-- **What is left of a list without the security label**, where every value has a key. -/
structure Unlabelled {α : Type} [DecidableEq α] (key : α → Bytes) (l rest : List α) : Prop where
  /-- What is left is in the order of the list. -/
  sublist : rest.Sublist l
  /-- Nothing with the label's key is left. -/
  key_ne : ∀ a ∈ rest, key a ≠ securityLabel
  /-- All else is left as often as it stood in the list. -/
  count_eq : ∀ a, key a ≠ securityLabel → rest.count a = l.count a

section

variable {α : Type} [DecidableEq α] {key : α → Bytes} {l rest : List α}

theorem unlabelled_filter (key : α → Bytes) (l : List α) :
    Unlabelled key l (l.filter fun a => key a ≠ securityLabel) where
  sublist := List.filter_sublist
  key_ne _ ha := of_decide_eq_true (List.mem_filter.1 ha).2
  count_eq _ ha := List.count_filter (decide_eq_true ha)

/-- How often any value is left. -/
theorem Unlabelled.count (h : Unlabelled key l rest) (a : α) :
    rest.count a = if key a = securityLabel then 0 else l.count a := by
  split
  · rename_i ha
    apply List.count_eq_zero_of_not_mem
    intro hmem
    exact h.key_ne a hmem ha
  · rename_i ha
    exact h.count_eq a ha

/-- **Only one list is left** without the label. -/
theorem unlabelled_iff :
    Unlabelled key l rest ↔ rest = l.filter fun a => key a ≠ securityLabel := by
  constructor
  · intro h
    have hfilter := unlabelled_filter key l
    have hperm : rest.Perm (l.filter fun a => key a ≠ securityLabel) := by
      apply List.perm_iff_count.2
      intro a
      rw [h.count, hfilter.count]
    have hkept : (rest.filter fun a => key a ≠ securityLabel) = rest :=
      List.filter_eq_self.2 fun a ha => decide_eq_true (h.key_ne a ha)
    -- What is left stands in the filtered list too, and that is no longer.
    have hsublist : rest.Sublist (l.filter fun a => key a ≠ securityLabel) := by
      have hle := h.sublist.filter fun a => key a ≠ securityLabel
      rwa [hkept] at hle
    exact hsublist.eq_of_length hperm.length_eq
  · rintro rfl
    exact unlabelled_filter key l

end

/-! ### Collections of one kind -/

namespace Labelled

/-- **A kind of collection drops the security label and nothing else.** -/
structure DropsLabel {α β : Type} [Labelled α] [DecidableEq β] (entries : α → List β)
    (key : β → Bytes) : Prop where
  /-- The collection without the label is the one whose entries are left of the list of entries. -/
  eq_iff : ∀ a b, withoutLabel a = b ↔ Unlabelled key (entries a) (entries b)
  /-- The function for all kinds of collections does the same. -/
  dropLabel_eq : ∀ a : α, dropLabel a = withoutLabel a
  /-- Dropping the label again changes nothing. -/
  idempotent : ∀ a : α, withoutLabel (withoutLabel a) = withoutLabel a

/-- It suffices that a collection is settled by its entries and that these are filtered. -/
theorem dropsLabel_of_filter {α β : Type} [Labelled α] [DecidableEq β] {entries : α → List β}
    {key : β → Bytes} (hext : ∀ a b, entries a = entries b → a = b)
    (hfilter : ∀ a, entries (withoutLabel a) =
      (entries a).filter fun e => key e ≠ securityLabel) : DropsLabel entries key := by
  have heq (a b : α) : withoutLabel a = b ↔ Unlabelled key (entries a) (entries b) := by
    rw [unlabelled_iff, ← hfilter]
    constructor
    · rintro rfl
      rfl
    · intro h
      exact (hext b _ h).symm
  refine ⟨heq, fun _ => rfl, fun a => ?_⟩
  -- With nothing left to drop, a collection is what is left of itself.
  have hleft := (heq a _).1 rfl
  exact (heq _ _).2 ⟨List.Sublist.refl _, hleft.key_ne, fun _ _ => rfl⟩

theorem dropsLabel_map : DropsLabel Xattrs.entries Prod.fst :=
  dropsLabel_of_filter (fun _ _ => Xattrs.ext) fun _ => rfl

theorem dropsLabel_pairs : DropsLabel (id : List (Bytes × Bytes) → _) Prod.fst :=
  dropsLabel_of_filter (fun _ _ => id) fun _ => rfl

theorem dropsLabel_keys : DropsLabel (id : List Bytes → _) id :=
  dropsLabel_of_filter (fun _ _ => id) fun _ => rfl

/-! ### From one kind to another -/

theorem map_fst_withoutLabel (pairs : List (Bytes × Bytes)) :
    (withoutLabel pairs).map Prod.fst = withoutLabel (pairs.map Prod.fst) := by
  show _ = (pairs.map Prod.fst).filter fun k => k ≠ securityLabel
  rw [List.filter_map]
  rfl

/-- The last value of another key is the same with and without the label. -/
theorem lastValue?_withoutLabel (pairs : List (Bytes × Bytes)) (key : Bytes) :
    Xattrs.lastValue? (withoutLabel pairs) key =
      if key = securityLabel then none else Xattrs.lastValue? pairs key := by
  show Xattrs.lastValue? (pairs.filter fun e => e.1 ≠ securityLabel) key = _
  unfold Xattrs.lastValue?
  rw [← List.filter_reverse, Xattrs.find?_filter_ne]
  split
  · rfl
  · rfl

/-- **The label is dropped before a map is made or afterwards**, the map is the same. -/
theorem ofList_withoutLabel (pairs : List (Bytes × Bytes)) :
    Xattrs.ofList (withoutLabel pairs) = withoutLabel (Xattrs.ofList pairs) := by
  apply Xattrs.ofList_eq_iff.2
  intro key
  calc (withoutLabel (Xattrs.ofList pairs)).get? key
      = if key = securityLabel then none else (Xattrs.ofList pairs).get? key :=
        Xattrs.get?_erase _ _ _
    _ = if key = securityLabel then none else Xattrs.lastValue? pairs key := by
        rw [Xattrs.get?_ofList]
    _ = Xattrs.lastValue? (withoutLabel pairs) key := (lastValue?_withoutLabel pairs key).symm

/-- **How maps, lists of pairs and lists of keys agree** in dropping the label. -/
structure FormsAgree : Prop where
  /-- Each of the three drops the label and nothing else. -/
  map : DropsLabel Xattrs.entries Prod.fst
  pairs : DropsLabel (id : List (Bytes × Bytes) → _) Prod.fst
  keys : DropsLabel (id : List Bytes → _) id
  /-- A map, which has each key once, loses one entry at most. -/
  map_entries : ∀ m : Xattrs,
    (withoutLabel m).entries = m.entries.eraseP fun e => e.1 = securityLabel
  /-- The map of a list of pairs has the last value of each key. -/
  ofList_iff : ∀ pairs m, Xattrs.ofList pairs = m ↔ ∀ key, m.get? key = Xattrs.lastValue? pairs key
  /-- It is the same map whether the label is dropped from the pairs or from their map. -/
  ofList_pairs : ∀ pairs : List (Bytes × Bytes),
    Xattrs.ofList (withoutLabel pairs) = withoutLabel (Xattrs.ofList pairs)
  /-- The keys of what is left are what is left of the keys, for pairs and for maps. -/
  keys_pairs : ∀ pairs : List (Bytes × Bytes),
    (withoutLabel pairs).map Prod.fst = withoutLabel (pairs.map Prod.fst)
  keys_map : ∀ m : Xattrs,
    (withoutLabel m).entries.map Prod.fst = withoutLabel (m.entries.map Prod.fst)
  /-- From two lists in a row, the label is dropped as from each of them. -/
  pairs_append : ∀ l l' : List (Bytes × Bytes),
    withoutLabel (l ++ l') = withoutLabel l ++ withoutLabel l'
  keys_append : ∀ l l' : List Bytes, withoutLabel (l ++ l') = withoutLabel l ++ withoutLabel l'

/-- **The three forms of dropping the label agree**, for all keys and values, repeated or not. -/
theorem formsAgree : FormsAgree where
  map := dropsLabel_map
  pairs := dropsLabel_pairs
  keys := dropsLabel_keys
  map_entries m := m.ascending.filter_eq_eraseP securityLabel
  ofList_iff _ _ := Xattrs.ofList_eq_iff
  ofList_pairs := ofList_withoutLabel
  keys_pairs := map_fst_withoutLabel
  keys_map m := map_fst_withoutLabel m.entries
  pairs_append _ _ := List.filter_append _ _
  keys_append _ _ := List.filter_append _ _

/-- The label stands there twice, and `user.a` as well. -/
example :
    let label := Bytes.ofString "security.selinux"
    let pairs := [(Bytes.ofString "user.b", [1]), (label, [2]), (Bytes.ofString "user.a", [3]),
      (label, [4]), (Bytes.ofString "user.a", [5])]
    (withoutLabel (Xattrs.ofList pairs)).entries =
      [(Bytes.ofString "user.a", [5]), (Bytes.ofString "user.b", [1])] := by decide

end Labelled

end RestoreCheck
