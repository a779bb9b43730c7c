import RestoreCheck.Proofs.Compare.Content

/-!
# Clean levels

Two directories that can be listed have a level (`Level.of_eq_ok_iff`), and nothing is found at it
exactly if they hold the same names and entries of one name lead to the same thing
(`Level.agrees_iff`).  A comparison goes on to the common names that are directories on both sides
(`View.Descends`), and so to all pairs of directories that are `View.Entered`.
-/

namespace RestoreCheck

namespace View

variable (v : View)

/-- A name stands in a directory that can be listed. -/
def Holds (p : Path) (n : Name) : Prop :=
  ∃ names, v.list p = .ok names ∧ n ∈ names

/-- A name stands in two directories, and is that of a directory on both sides, links not
followed. -/
structure Descends (left right : Path) (n : Name) : Prop where
  /-- it stands on the left -/
  holds_left : v.Holds left n
  /-- it stands on the right -/
  holds_right : v.Holds right n
  /-- it is a directory on the left -/
  isDirectory_left : v.isDirectory (left.join n.bytes) = true
  /-- it is a directory on the right -/
  isDirectory_right : v.isDirectory (right.join n.bytes) = true

/-- **Two directories at one place below two roots**, reached through directories only. -/
inductive Entered (left right : Path) : Path → Path → Prop where
  /-- the roots themselves -/
  | root : Entered left right left right
  /-- two directories of one name -/
  | descend {a b : Path} {n : Name} (above : Entered left right a b) (step : v.Descends a b n) :
      Entered left right (a.join n.bytes) (b.join n.bytes)

/-- What is reached from below a name is reached from above it. -/
theorem Entered.of_below {v : View} {left right a b : Path} {n : Name} (h : v.Descends left right n)
    (hab : v.Entered (left.join n.bytes) (right.join n.bytes) a b) : v.Entered left right a b := by
  induction hab with
  | root => exact .descend .root h
  | descend above step ih => exact .descend ih step

theorem holds_iff_mem {v : View} {p : Path} {names : List Name} (h : v.list p = .ok names)
    {n : Name} : v.Holds p n ↔ n ∈ names := by
  unfold Holds
  rw [h]
  constructor
  · rintro ⟨names', heq, hn⟩
    rw [Except.ok.inj heq]
    exact hn
  · intro hn
    exact ⟨names, rfl, hn⟩

end View

namespace Level

variable {v : View} {left right : Path} {n : Name} {found : Level}

/-- **Two directories have a level** exactly if both can be listed. -/
theorem of_eq_ok_iff :
    Level.of v left right = .ok found ↔
      ∃ leftNames rightNames, v.list left = .ok leftNames ∧ v.list right = .ok rightNames ∧
        found = ofNames v left right (Name.ascending leftNames) (Name.ascending rightNames) := by
  unfold Level.of
  cases v.list left with
  | error cause => simp
  | ok leftNames =>
    cases v.list right with
    | error cause => simp
    | ok rightNames => simp [eq_comm]

theorem length_lt_of_eq_ok (h : Level.of v left right = .ok found) : left.length < Path.limit := by
  obtain ⟨leftNames, rightNames, hleft, -⟩ := of_eq_ok_iff.1 h
  exact v.length_lt_of_list hleft

theorem mem_common_iff (h : Level.of v left right = .ok found) :
    n ∈ found.common ↔ v.Holds left n ∧ v.Holds right n := by
  obtain ⟨leftNames, rightNames, hleft, hright, rfl⟩ := of_eq_ok_iff.1 h
  show n ∈ (Name.ascending leftNames).filter (· ∈ Name.ascending rightNames) ↔ _
  rw [List.mem_filter, decide_eq_true_eq, Name.mem_ascending, Name.mem_ascending,
    View.holds_iff_mem hleft, View.holds_iff_mem hright]

theorem mem_subdirectories_iff (h : Level.of v left right = .ok found) :
    n ∈ found.subdirectories ↔ v.Descends left right n := by
  have hcommon := mem_common_iff (n := n) h
  obtain ⟨leftNames, rightNames, -, -, rfl⟩ := of_eq_ok_iff.1 h
  show n ∈ List.filter _ (ofNames v left right _ _).common ↔ _
  rw [List.mem_filter, hcommon, Bool.and_eq_true]
  constructor
  · rintro ⟨⟨hl, hr⟩, dl, dr⟩
    exact ⟨hl, hr, dl, dr⟩
  · rintro ⟨hl, hr, dl, dr⟩
    exact ⟨⟨hl, hr⟩, dl, dr⟩

/-! ### What is found -/

theorem leadAlike_iff {a b : Path} :
    v.LeadAlike a b ↔ entryVerdict v a b ≠ .different ∧ entryVerdict v a b ≠ .funny := by
  rw [← entryVerdict_eq_fine_iff]
  cases entryVerdict v a b <;> simp

theorem agrees_ofNames_iff {leftNames rightNames : List Name} :
    (ofNames v left right leftNames rightNames).agrees = true ↔
      (∀ n, n ∈ leftNames ↔ n ∈ rightNames) ∧
        ∀ n, n ∈ leftNames → n ∈ rightNames →
          v.LeadAlike (left.join n.bytes) (right.join n.bytes) := by
  unfold agrees
  rw [Bool.and_eq_true, Bool.and_eq_true, Bool.and_eq_true, List.isEmpty_iff, List.isEmpty_iff,
    List.isEmpty_iff, List.isEmpty_iff]
  show ((leftNames.filter (· ∉ rightNames) = [] ∧ rightNames.filter (· ∉ leftNames) = []) ∧
    (leftNames.filter (· ∈ rightNames)).filter _ = []) ∧
    (leftNames.filter (· ∈ rightNames)).filter _ = [] ↔ _
  -- Each of the four lists is empty exactly if no name passes its test.
  rw [List.filter_eq_nil_iff, List.filter_eq_nil_iff, List.filter_eq_nil_iff,
    List.filter_eq_nil_iff]
  simp only [decide_eq_true_eq, Decidable.not_not, List.mem_filter, and_imp]
  constructor
  · rintro ⟨⟨⟨hleft, hright⟩, hdifferent⟩, hfunny⟩
    refine ⟨fun n => ⟨hleft n, hright n⟩, fun n hl hr => ?_⟩
    exact leadAlike_iff.2 ⟨hdifferent n hl hr, hfunny n hl hr⟩
  · rintro ⟨hnames, hlead⟩
    refine ⟨⟨⟨fun n => (hnames n).1, fun n => (hnames n).2⟩, fun n hl hr => ?_⟩, fun n hl hr => ?_⟩
    · exact (leadAlike_iff.1 (hlead n hl hr)).1
    · exact (leadAlike_iff.1 (hlead n hl hr)).2

/-- **Nothing is found at a level** exactly if the names are the same on both sides and the entries
of one name lead to the same thing. -/
theorem agrees_iff (h : Level.of v left right = .ok found) :
    found.agrees = true ↔
      (∀ n, v.Holds left n ↔ v.Holds right n) ∧
        ∀ n, v.Holds left n → v.Holds right n →
          v.LeadAlike (left.join n.bytes) (right.join n.bytes) := by
  obtain ⟨leftNames, rightNames, hleft, hright, rfl⟩ := of_eq_ok_iff.1 h
  rw [agrees_ofNames_iff]
  simp only [Name.mem_ascending, View.holds_iff_mem hleft, View.holds_iff_mem hright]

end Level

end RestoreCheck
