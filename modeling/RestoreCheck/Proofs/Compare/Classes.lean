import Mathlib
import RestoreCheck.Proofs.Compare.World
import RestoreCheck.Proofs.Entry.Xattrs
import RestoreCheck.Proofs.Files.Entries

/-!
# Classes of names

A level sorts the names of two directories: those on one side only, those on both sides, and among
the latter the files that differ, the entries that cannot be judged and the directories
(`Level.Sorts`).  Whether a pair is judged at all depends on what the two paths lead to when links
are followed (`entryVerdict_eq_different_iff`, `entryVerdict_eq_funny_iff`), and whether it is
entered on what stands at the two paths themselves.  No name is in two of these three classes, for a
directory is what its path leads to (`FileSystem.leadsAsDescribed_view`).
-/

namespace RestoreCheck

/-! ### Kinds -/

/-- The kinds of things that a path can lead to. -/
inductive TargetKind where
  | directory
  | file
  | special
deriving DecidableEq

/-- The kind of what a path leads to. -/
def Target.kind : Target → TargetKind
  | directory => .directory
  | file _ => .file
  | special => .special

namespace View

variable (v : View)

/-- **What kind of thing a path leads to**, links followed, if it leads anywhere. -/
def kind? (p : Path) : Option TargetKind :=
  match v.target p with
  | .ok t => some t.kind
  | .error _ => none

/-- **Two paths lead to regular files**, and comparing these gives a verdict. -/
def FilesGive (a b : Path) (verdict : ContentVerdict) : Prop :=
  ∃ m n, v.target a = .ok (.file m) ∧ v.target b = .ok (.file n) ∧ compareFiles v a b m n = verdict

/-- What is described as a directory leads to a directory. -/
def LeadsAsDescribed : Prop :=
  ∀ p, v.isDirectory p = true → v.target p = .ok .directory

end View

theorem FileSystem.leadsAsDescribed_view (fs : FileSystem) : fs.view.LeadsAsDescribed :=
  fun _ => target_of_isDirectory

section

variable {v : View} {a b : Path}

theorem View.LeadAlike.kind?_eq (h : v.LeadAlike a b) : v.kind? a = v.kind? b := by
  unfold View.kind?
  cases h with
  | directories ha hb | specials ha hb | files ha hb | nowhere ha hb =>
    rw [ha, hb]

/-- **Two entries differ** exactly if they lead to files that were compared and differ. -/
theorem entryVerdict_eq_different_iff :
    entryVerdict v a b = .different ↔ v.FilesGive a b .different := by
  constructor
  · intro h
    unfold entryVerdict at h
    split at h
    · rename_i m n ha hb
      split at h
      · cases h
      · rename_i hdifferent
        exact ⟨m, n, ha, hb, hdifferent⟩
      · cases h
    all_goals cases h
  · rintro ⟨m, n, ha, hb, hdifferent⟩
    unfold entryVerdict
    rw [ha, hb]
    dsimp only
    rw [hdifferent]

/-- **Two entries cannot be judged** exactly if they lead to files that could not be compared, or to
things of two kinds, where nothing is a kind of its own. -/
theorem entryVerdict_eq_funny_iff :
    entryVerdict v a b = .funny ↔
      (∃ cause, v.FilesGive a b (.failed cause)) ∨ v.kind? a ≠ v.kind? b := by
  constructor
  · intro h
    by_cases hkind : v.kind? a = v.kind? b
    · left
      unfold View.kind? at hkind
      unfold entryVerdict at h
      split at h
      · rename_i m n ha hb
        split at h
        · cases h
        · cases h
        · rename_i cause hfailed
          exact ⟨cause, m, n, ha, hb, hfailed⟩
      · cases h
      · cases h
      · cases h
      -- Two of one kind were met before.
      · rename_i hfiles hdirectories hspecials hnothing
        cases ha : v.target a with
        | error f =>
          cases hb : v.target b with
          | error g => exact absurd hb (hnothing f g ha)
          | ok t => simp [ha, hb] at hkind
        | ok s =>
          cases hb : v.target b with
          | error g => simp [ha, hb] at hkind
          | ok t =>
            cases s <;> cases t <;> simp_all [Target.kind]
    · exact .inr hkind
  · rintro (⟨cause, m, n, ha, hb, hfailed⟩ | hkind)
    · unfold entryVerdict
      rw [ha, hb]
      dsimp only
      rw [hfailed]
    · unfold View.kind? at hkind
      unfold entryVerdict
      cases ha : v.target a with
      | error f =>
        cases hb : v.target b with
        | error g => simp [ha, hb] at hkind
        | ok t => rfl
      | ok s =>
        cases hb : v.target b with
        | error g => cases s <;> rfl
        | ok t => cases s <;> cases t <;> simp_all [Target.kind]

end

/-! ### Levels -/

namespace Level

variable {v : View} {left right : Path} {found : Level} {n : Name}

/-- **A level sorts the names** of two directories. -/
structure Sorts (v : View) (left right : Path) (found : Level) : Prop where
  /-- all lists ascend in byte order, each name once -/
  ascending : ∀ names ∈ [found.leftOnly, found.rightOnly, found.common, found.different,
    found.funny, found.subdirectories], Sorted.Ascending Name.bytes names
  /-- the names on the left are on the left only or on both sides -/
  left_iff : ∀ n, v.Holds left n ↔ n ∈ found.leftOnly ∨ n ∈ found.common
  /-- the names on the right are on the right only or on both sides -/
  right_iff : ∀ n, v.Holds right n ↔ n ∈ found.rightOnly ∨ n ∈ found.common
  /-- no name is counted twice in that -/
  leftOnly_disjoint : found.leftOnly.Disjoint found.common
  rightOnly_disjoint : found.rightOnly.Disjoint found.common
  sides_disjoint : found.leftOnly.Disjoint found.rightOnly
  /-- names of files that were compared and differ -/
  different_iff : ∀ n, n ∈ found.different ↔ n ∈ found.common ∧
    v.FilesGive (left.join n.bytes) (right.join n.bytes) .different
  /-- names of files that could not be compared, and of things of two kinds -/
  funny_iff : ∀ n, n ∈ found.funny ↔ n ∈ found.common ∧
    ((∃ cause, v.FilesGive (left.join n.bytes) (right.join n.bytes) (.failed cause)) ∨
      v.kind? (left.join n.bytes) ≠ v.kind? (right.join n.bytes))
  /-- names of directories on both sides, links not followed -/
  subdirectories_iff : ∀ n, n ∈ found.subdirectories ↔ n ∈ found.common ∧
    v.isDirectory (left.join n.bytes) = true ∧ v.isDirectory (right.join n.bytes) = true
  /-- no name is in two of these classes -/
  different_disjoint_funny : found.different.Disjoint found.funny
  different_disjoint_subdirectories : found.different.Disjoint found.subdirectories
  funny_disjoint_subdirectories : found.funny.Disjoint found.subdirectories
  /-- nothing was found exactly if the names are the same and no pair of entries was objected to -/
  agrees_iff : found.agrees = true ↔ (∀ n, v.Holds left n ↔ v.Holds right n) ∧
    (∀ n, n ∉ found.different) ∧ ∀ n, n ∉ found.funny

theorem mem_leftOnly_iff (h : Level.of v left right = .ok found) :
    n ∈ found.leftOnly ↔ v.Holds left n ∧ ¬ v.Holds right n := by
  obtain ⟨leftNames, rightNames, hleft, hright, rfl⟩ := of_eq_ok_iff.1 h
  show n ∈ (Name.ascending leftNames).filter (· ∉ Name.ascending rightNames) ↔ _
  rw [List.mem_filter, decide_eq_true_eq, Name.mem_ascending, Name.mem_ascending,
    View.holds_iff_mem hleft, View.holds_iff_mem hright]

theorem mem_rightOnly_iff (h : Level.of v left right = .ok found) :
    n ∈ found.rightOnly ↔ v.Holds right n ∧ ¬ v.Holds left n := by
  obtain ⟨leftNames, rightNames, hleft, hright, rfl⟩ := of_eq_ok_iff.1 h
  show n ∈ (Name.ascending rightNames).filter (· ∉ Name.ascending leftNames) ↔ _
  rw [List.mem_filter, decide_eq_true_eq, Name.mem_ascending, Name.mem_ascending,
    View.holds_iff_mem hleft, View.holds_iff_mem hright]

theorem mem_different_iff (h : Level.of v left right = .ok found) :
    n ∈ found.different ↔ n ∈ found.common ∧
      entryVerdict v (left.join n.bytes) (right.join n.bytes) = .different := by
  obtain ⟨leftNames, rightNames, -, -, rfl⟩ := of_eq_ok_iff.1 h
  show n ∈ List.filter _ (ofNames v left right _ _).common ↔ _
  rw [List.mem_filter, decide_eq_true_eq]

theorem mem_funny_iff (h : Level.of v left right = .ok found) :
    n ∈ found.funny ↔ n ∈ found.common ∧
      entryVerdict v (left.join n.bytes) (right.join n.bytes) = .funny := by
  obtain ⟨leftNames, rightNames, -, -, rfl⟩ := of_eq_ok_iff.1 h
  show n ∈ List.filter _ (ofNames v left right _ _).common ↔ _
  rw [List.mem_filter, decide_eq_true_eq]

theorem ascending_of_eq_ok (h : Level.of v left right = .ok found) :
    ∀ names ∈ [found.leftOnly, found.rightOnly, found.common, found.different, found.funny,
      found.subdirectories], Sorted.Ascending Name.bytes names := by
  obtain ⟨leftNames, rightNames, -, -, rfl⟩ := of_eq_ok_iff.1 h
  have hleft : Sorted.Ascending Name.bytes (Name.ascending leftNames) :=
    Sorted.pairwise_ofList leftNames
  have hright : Sorted.Ascending Name.bytes (Name.ascending rightNames) :=
    Sorted.pairwise_ofList rightNames
  have hcommon : Sorted.Ascending Name.bytes (ofNames v left right (Name.ascending leftNames)
      (Name.ascending rightNames)).common := hleft.filter _
  -- Every list is what is left of an ascending one.
  simp only [List.forall_mem_cons, List.not_mem_nil, false_implies, implies_true, and_true]
  exact ⟨hleft.filter _, hright.filter _, hcommon, hcommon.filter _, hcommon.filter _,
    hcommon.filter _⟩

/-- Nothing speaks against two directories. -/
theorem entryVerdict_of_descends (hv : v.LeadsAsDescribed) (h : v.Descends left right n) :
    entryVerdict v (left.join n.bytes) (right.join n.bytes) = .fine :=
  entryVerdict_eq_fine_iff.2
    (.directories (hv _ h.isDirectory_left) (hv _ h.isDirectory_right))

/-- **Every level sorts the names.** -/
theorem sorts_of_eq_ok (hv : v.LeadsAsDescribed) (h : Level.of v left right = .ok found) :
    found.Sorts v left right where
  ascending := ascending_of_eq_ok h
  left_iff n := by
    rw [mem_leftOnly_iff h, mem_common_iff h]
    by_cases hright : v.Holds right n <;> simp [hright]
  right_iff n := by
    rw [mem_rightOnly_iff h, mem_common_iff h]
    by_cases hleft : v.Holds left n <;> simp [hleft]
  leftOnly_disjoint n hn hcommon :=
    ((mem_leftOnly_iff h).1 hn).2 ((mem_common_iff h).1 hcommon).2
  rightOnly_disjoint n hn hcommon :=
    ((mem_rightOnly_iff h).1 hn).2 ((mem_common_iff h).1 hcommon).1
  sides_disjoint n hn hright :=
    ((mem_leftOnly_iff h).1 hn).2 ((mem_rightOnly_iff h).1 hright).1
  different_iff n := by rw [mem_different_iff h, entryVerdict_eq_different_iff]
  funny_iff n := by rw [mem_funny_iff h, entryVerdict_eq_funny_iff]
  subdirectories_iff n := by
    rw [mem_subdirectories_iff h, mem_common_iff h]
    exact ⟨fun hn => ⟨⟨hn.1, hn.2⟩, hn.3, hn.4⟩, fun hn => ⟨hn.1.1, hn.1.2, hn.2.1, hn.2.2⟩⟩
  different_disjoint_funny n hdifferent hfunny := by
    have hverdict := ((mem_different_iff h).1 hdifferent).2
    rw [((mem_funny_iff h).1 hfunny).2] at hverdict
    cases hverdict
  different_disjoint_subdirectories n hdifferent hn := by
    have hverdict := ((mem_different_iff h).1 hdifferent).2
    rw [entryVerdict_of_descends hv ((mem_subdirectories_iff h).1 hn)] at hverdict
    cases hverdict
  funny_disjoint_subdirectories n hfunny hn := by
    have hverdict := ((mem_funny_iff h).1 hfunny).2
    rw [entryVerdict_of_descends hv ((mem_subdirectories_iff h).1 hn)] at hverdict
    cases hverdict
  agrees_iff := by
    rw [Level.agrees_iff h]
    refine and_congr_right fun hnames => ?_
    simp only [leadAlike_iff, mem_different_iff h, mem_funny_iff h, mem_common_iff h]
    constructor
    · intro hlead
      exact ⟨fun n hn => (hlead n hn.1.1 hn.1.2).1 hn.2, fun n hn => (hlead n hn.1.1 hn.1.2).2 hn.2⟩
    · rintro ⟨hdifferent, hfunny⟩ n hl hr
      exact ⟨fun h => hdifferent n ⟨⟨hl, hr⟩, h⟩, fun h => hfunny n ⟨⟨hl, hr⟩, h⟩⟩

/-- **How two directories are compared.** -/
structure Classifies (v : View) (left right : Path) : Prop where
  /-- the left one is unreadable if it cannot be listed -/
  left_unreadable : ∀ cause, v.list left = .error cause →
    Level.of v left right = .error (.unreadable left cause)
  /-- else the right one is, if it cannot be listed -/
  right_unreadable : ∀ names cause, v.list left = .ok names → v.list right = .error cause →
    Level.of v left right = .error (.unreadable right cause)
  /-- if both can be listed, there is a level and it sorts their names -/
  sorts : ∀ leftNames rightNames, v.list left = .ok leftNames → v.list right = .ok rightNames →
    ∃ found, Level.of v left right = .ok found ∧ found.Sorts v left right

/-- **Every name of two directories is put into its classes, once.** -/
theorem classifies (hv : v.LeadsAsDescribed) (left right : Path) : Classifies v left right where
  left_unreadable cause hleft := by
    unfold Level.of
    rw [hleft]
  right_unreadable names cause hleft hright := by
    unfold Level.of
    rw [hleft, hright]
  sorts leftNames rightNames hleft hright :=
    have hlevel := of_eq_ok_iff.2 ⟨leftNames, rightNames, hleft, hright, rfl⟩
    ⟨_, hlevel, sorts_of_eq_ok hv hlevel⟩

theorem classifies_unreadable_file :
    let left := FileSystem.plain (.file 3 (.ok [1, 2, 3]))
    let right := FileSystem.plain (.file 3 (.error .inputOutput))
    let v := (FileSystem.trio 0o755 left right right).view
    v.LeadsAsDescribed ∧ Classifies v [0x61] [0x62] ∧
      ((Level.of v [0x61] [0x62]).map fun found => found.funny.map Name.bytes) = .ok [[0x66]] :=
  ⟨FileSystem.leadsAsDescribed_view _, classifies (FileSystem.leadsAsDescribed_view _) _ _,
    by cbv⟩

end Level

end RestoreCheck
