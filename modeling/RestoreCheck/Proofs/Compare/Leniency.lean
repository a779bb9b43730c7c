import Mathlib
import RestoreCheck.Proofs.Compare.Equivalence
import RestoreCheck.Proofs.Time.Rounding

/-!
# Lenient options

Options are ordered by how much they leave out of a comparison (`Options.AtMostAsLenient`): flags
and extended attributes may be ignored, more pairs may be taken for seen through a mount, and a
mounted view may be taken to carry no nanoseconds.  What compares equal under some options does so
under more lenient ones (`Comparator.run_eq_ok_of_lenient`), provided that times are compared to
the nanosecond, or that mounted views carry nanoseconds under both.

The proviso is about times only: tens of microseconds tell times apart that a coarser precision of
the platform does not.
-/

namespace RestoreCheck

/-! ### The order of options -/

/-- How far a rule goes in taking pairs for seen through a mount. -/
def ViewRule.rank : ViewRule → Nat
  | never => 0
  | detect => 1
  | .right => 2

/-- **`o` is at most as lenient as `o'`**: what `o` ignores `o'` ignores too, the rule of `o'` for
mounted views goes as far or farther, and a mounted view that carries nanoseconds for `o'` does so
for `o`.  Fractions of a second are ignored by both or by neither. -/
structure Options.AtMostAsLenient (o o' : Options) : Prop where
  ignoreFlags : o.ignoreFlags = true → o'.ignoreFlags = true
  ignoreXattrs : o.ignoreXattrs = true → o'.ignoreXattrs = true
  mountedView : o.mountedView.rank ≤ o'.mountedView.rank
  mountHasNanos : o'.mountHasNanos = true → o.mountHasNanos = true
  ignoreNanos : o'.ignoreNanos = o.ignoreNanos

theorem ViewRule.applies_of_rank_le {r r' : ViewRule} (h : r.rank ≤ r'.rank) {m n : Meta}
    (hr : r.applies m n = true) : r'.applies m n = true := by
  cases r with
  | never => cases hr
  | detect =>
    cases r' with
    | never => exact absurd h (by decide)
    | detect => exact hr
    | right => rfl
  | right =>
    cases r' with
    | never => exact absurd h (by decide)
    | detect => exact absurd h (by decide)
    | right => rfl

/-! ### Times -/

/-- **Times that pass for one do so more leniently**, with the proviso on the precision. -/
theorem Options.SameTime.of_lenient {o o' : Options} {k : Capabilities} {mounted mounted' : Bool}
    {t u : Stamp} (h : o.SameTime k mounted t u) (ho : o.AtMostAsLenient o')
    (hmounted : mounted = true → mounted' = true)
    (hk : k.precision = .nanosecond ∨ (o.mountHasNanos = true ∧ o'.mountHasNanos = true)) :
    o'.SameTime k mounted' t u := by
  intro hutime
  have htimes := h hutime
  rw [ho.ignoreNanos]
  cases hignore : o.ignoreNanos with
  | true =>
    rw [if_pos hignore] at htimes
    rw [if_pos rfl]
    exact htimes
  | false =>
    rw [if_neg (Bool.not_eq_true _ ▸ hignore)] at htimes
    rw [if_neg nofun]
    by_cases hcoarse : mounted = true ∧ o.mountHasNanos = false
    · -- The pair is compared coarsely by both.
      obtain ⟨hm, hn⟩ := hcoarse
      have hn' : o'.mountHasNanos = false :=
        Bool.eq_false_iff.2 (mt ho.mountHasNanos (Bool.eq_false_iff.1 hn))
      rw [if_pos ⟨hm, hn⟩] at htimes
      rw [if_pos ⟨hmounted hm, hn'⟩]
      exact htimes
    · rw [if_neg hcoarse] at htimes
      rcases hk with hk | ⟨-, hnanos⟩
      · rw [hk, Precision.round_nanosecond, Precision.round_nanosecond] at htimes
        rw [htimes]
        split <;> rfl
      · have hfine : ¬ (mounted' = true ∧ o'.mountHasNanos = false) := by
          rintro ⟨-, hn'⟩
          exact absurd (hnanos.symm.trans hn') nofun
        rw [if_neg hfine]
        exact htimes

theorem Seen.SameStatus.of_lenient {o o' : Options} {k : Capabilities} {mounted mounted' : Bool}
    {e f : Seen} (h : SameStatus o k mounted e f) (ho : o.AtMostAsLenient o')
    (hmounted : mounted = true → mounted' = true)
    (hk : k.precision = .nanosecond ∨ (o.mountHasNanos = true ∧ o'.mountHasNanos = true)) :
    SameStatus o' k mounted' e f where
  mode := h.mode
  uid := h.uid
  gid := h.gid
  rdev := h.rdev
  nlink hdirectory := by
    refine h.nlink ?_
    cases hm : mounted with
    | false => rfl
    | true =>
      rw [hmounted hm] at hdirectory
      exact hdirectory
  flags hignore := h.flags (Bool.eq_false_iff.2 (mt ho.ignoreFlags (Bool.eq_false_iff.1 hignore)))
  mtime := h.mtime.of_lenient ho hmounted hk

/-! ### Trees -/

namespace World

variable {w : World} {o o' : Options} {k : Capabilities} {left right a b : Path}

/-- Entries that match under some options match under others that look at no more extended
attributes, if their statuses pass for the same under these too. -/
theorem Matching.of_sameStatus (h : w.Matching o k a b)
    (hxattrs : o'.ignoreXattrs = false → o.ignoreXattrs = false)
    (hstatus : ∀ m m', w.view.status a = .ok m → w.view.status b = .ok m' →
      (w.seen a m).SameStatus o k (o.mountedView.applies m m') (w.seen b m') →
      (w.seen a m).SameStatus o' k (o'.mountedView.applies m m') (w.seen b m')) :
    w.Matching o' k a b := by
  refine ⟨h.lead, ?_⟩
  obtain ⟨m, m', hm, hm', hread, hread', halike⟩ := h.seen
  refine ⟨m, m', hm, hm', fun hignore => hread (hxattrs hignore),
    fun hignore => hread' (hxattrs hignore), ?_⟩
  exact ⟨hstatus m m' hm hm' halike.toSameStatus, fun hignore => halike.xattrs (hxattrs hignore)⟩

/-- Trees that are equivalent under some options are so under others if the entries at each place
match under these too. -/
theorem Equivalent.of_matching (h : w.Equivalent o k left right)
    (hentries : ∀ a b n, w.view.Entered left right a b → w.view.Holds a n → w.view.Holds b n →
      w.Matching o k (a.join n.bytes) (b.join n.bytes) →
      w.Matching o' k (a.join n.bytes) (b.join n.bytes)) : w.Equivalent o' k left right := by
  rw [equivalent_iff_forall_entered] at h ⊢
  intro a b hab
  have hlevel := h a b hab
  refine ⟨hlevel.list_left, hlevel.list_right, hlevel.names, fun n hl hr => ?_⟩
  exact hentries a b n hab hl hr (hlevel.entries n hl hr)

theorem Matching.of_lenient (h : w.Matching o k a b) (ho : o.AtMostAsLenient o')
    (hk : k.precision = .nanosecond ∨ (o.mountHasNanos = true ∧ o'.mountHasNanos = true)) :
    w.Matching o' k a b := by
  refine h.of_sameStatus (fun hignore => ?_) fun m m' _ _ hstatus => ?_
  · exact Bool.eq_false_iff.2 (mt ho.ignoreXattrs (Bool.eq_false_iff.1 hignore))
  · exact hstatus.of_lenient ho (ViewRule.applies_of_rank_le ho.mountedView) hk

end World

/-- **What compares equal does so under more lenient options**, if times are compared to the
nanosecond, or mounted views carry nanoseconds under both. -/
theorem Comparator.run_eq_ok_of_lenient {σ : Type} (o o' : Options) (k : Capabilities)
    (i : Inspector σ) (h : i.IsSteady) (ho : o.AtMostAsLenient o')
    (hk : k.precision = .nanosecond ∨ (o.mountHasNanos = true ∧ o'.mountHasNanos = true))
    (left right : Path) (s : σ) (hok : (Comparator.run ⟨o, k, i⟩ left right s).1 = .ok ()) :
    (Comparator.run ⟨o', k, i⟩ left right s).1 = .ok () := by
  rw [Comparator.run_eq_traversal h] at hok ⊢
  have hequivalent : (i.world s).Equivalent o k left right :=
    World.outcome_traversal_eq_ok_iff_equivalent.1 hok
  refine World.outcome_traversal_eq_ok_iff_equivalent.2 (hequivalent.of_matching ?_)
  exact fun a b n _ _ _ hmatching => hmatching.of_lenient ho hk

/-- Two directories, one of them left out of dumps; the other options take them for seen through a
mount. -/
theorem Comparator.run_eq_ok_of_lenient_trio :
    let o : Options := { Options.default with ignoreFlags := true, mountedView := .never }
    let o' : Options := ⟨true, true, false, .right, false⟩
    let k := Comparator.strict.capabilities
    let directory := FileSystem.plain .directory
    let fs := FileSystem.trio 0o755 { directory with nodump := true } directory directory
    Inspector.ofFiles.IsSteady ∧ o.AtMostAsLenient o' ∧
      (k.precision = .nanosecond ∨ (o.mountHasNanos = true ∧ o'.mountHasNanos = true)) ∧
      (Comparator.run ⟨o, k, .ofFiles⟩ [0x61] [0x62] fs).1 = .ok () ∧
      (Comparator.run ⟨o', k, .ofFiles⟩ [0x61] [0x62] fs).1 = .ok () := by
  intro o o' k directory fs
  have ho : o.AtMostAsLenient o' := by
    constructor <;> decide
  have hok : (Comparator.run ⟨o, k, .ofFiles⟩ [0x61] [0x62] fs).1 = .ok () := by cbv
  exact ⟨Inspector.isSteady_ofFiles, ho, .inl rfl, hok,
    Comparator.run_eq_ok_of_lenient o o' k .ofFiles Inspector.isSteady_ofFiles ho (.inl rfl) [0x61]
      [0x62] fs hok⟩

end RestoreCheck
