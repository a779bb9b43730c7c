import RestoreCheck.Bytes.Sorted

/-!
# Extended attributes

`Xattrs` maps the keys of an entry's extended attributes to their values; it is kept in the order of
the keys, each key once.  A security label is put on every file that passes through a mount, so it
is dropped before entries are compared: `Labelled.withoutLabel` does so for maps, lists of keys and
lists of pairs, and keeps the order of all else.
-/

namespace RestoreCheck

/-- The extended attributes of an entry. -/
structure Xattrs where
  /-- keys and values -/
  entries : List (Bytes × Bytes)
  /-- the keys ascend, so no key stands there twice -/
  ascending : Sorted.Ascending Prod.fst entries
deriving DecidableEq

namespace Xattrs

theorem ext {a b : Xattrs} (h : a.entries = b.entries) : a = b := by
  cases a; cases b; cases h; rfl

/-- No attributes. -/
def empty : Xattrs := ⟨[], List.Pairwise.nil⟩

/-- The value of a key. -/
def get? (m : Xattrs) (key : Bytes) : Option Bytes :=
  (m.entries.find? fun e => e.1 = key).map Prod.snd

/-! ### Setting a value -/

/-- The attributes with `key` set to `value`. -/
def insert (m : Xattrs) (key value : Bytes) : Xattrs :=
  ⟨Sorted.insert Prod.fst (key, value) m.entries, Sorted.pairwise_insert m.ascending⟩

/-- The attributes of a list of pairs; the last value of a repeated key counts. -/
def ofList (pairs : List (Bytes × Bytes)) : Xattrs :=
  pairs.foldl (fun m e => m.insert e.1 e.2) empty

/-! ### Removing a key -/

/-- Among the pairs without a key, the first one with another key is the same. -/
theorem find?_filter_ne (pairs : List (Bytes × Bytes)) (key k : Bytes) :
    ((pairs.filter fun e => e.1 ≠ key).find? fun e => e.1 = k) =
      if k = key then none else pairs.find? fun e => e.1 = k := by
  rw [List.find?_filter]
  split
  · subst k
    exact List.find?_eq_none.2 (by simp +contextual)
  · rename_i hk
    congr 1
    funext e
    by_cases he : e.1 = k
    · simp [he, hk]
    · simp [he]

/-- The attributes without a key. -/
def erase (m : Xattrs) (key : Bytes) : Xattrs :=
  ⟨m.entries.filter fun e => e.1 ≠ key, List.Pairwise.filter _ m.ascending⟩

theorem get?_erase (m : Xattrs) (key k : Bytes) :
    (m.erase key).get? k = if k = key then none else m.get? k := by
  simp only [erase, get?, find?_filter_ne]
  split
  · rfl
  · rfl

end Xattrs

/-! ### The security label -/

/-- The key of the security label, `security.selinux`. -/
def securityLabel : Bytes :=
  [0x73, 0x65, 0x63, 0x75, 0x72, 0x69, 0x74, 0x79, 0x2E, 0x73, 0x65, 0x6C, 0x69, 0x6E, 0x75, 0x78]

/-- Collections of extended attributes that may hold the security label. -/
class Labelled (α : Type) where
  /-- the collection without the label -/
  withoutLabel : α → α

instance : Labelled Xattrs where
  withoutLabel m := m.erase securityLabel

instance : Labelled (List Bytes) where
  withoutLabel keys := keys.filter (· ≠ securityLabel)

instance : Labelled (List (Bytes × Bytes)) where
  withoutLabel pairs := pairs.filter (·.1 ≠ securityLabel)

/-- Drops the security label from a collection. -/
def dropLabel {α : Type} [Labelled α] (attributes : α) : α :=
  Labelled.withoutLabel attributes

end RestoreCheck
