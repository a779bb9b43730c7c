import Mathlib
import RestoreCheck.Proofs.Compare.Leniency

/-!
# Comparing times in whole seconds

To ignore fractions of a second is not to be more lenient in all.  Times are rounded to the nearest
unit else, so two times on either side of a full second may pass for one, but they lie in different
seconds once fractions are dropped (`Comparator.inSeconds_rejects`).

Trees that compare equal do so in whole seconds exactly if the times of all entries at one place lie
in one second (`Comparator.run_inSeconds_iff`).  That is sure if the options keep seconds apart
anyway (`Options.KeepsSeconds`), and only then (`Options.keepsSeconds_iff`).
-/

namespace RestoreCheck

namespace Options

variable {o : Options} {k : Capabilities}

/-- The options with fractions of a second ignored. -/
def inSeconds (o : Options) : Options :=
  { o with ignoreNanos := true }

/-- **Options keep seconds apart**: fractions are ignored already, or no pair of entries is compared
more coarsely than to the nanosecond. -/
def KeepsSeconds (o : Options) (k : Capabilities) : Prop :=
  o.ignoreNanos = true ∨
    (k.precision = .nanosecond ∧ (o.mountedView = .never ∨ o.mountHasNanos = true))

/-- A status of an entry on some device with some time. -/
def datedMeta (device : UInt64) (mtime : Stamp) : Meta :=
  ⟨0, 0, 0, device, 0, 0, mtime⟩

theorem sameSecond_of_keepsSeconds (h : o.KeepsSeconds k) (hutime : k.utime = true)
    {m n : Meta} (htimes : o.SameTime k (o.mountedView.applies m n) m.mtime n.mtime) :
    m.mtime.SameSecond n.mtime := by
  have hsame := htimes hutime
  rcases h with hignore | ⟨hprecision, hview⟩
  · rw [if_pos hignore] at hsame
    exact hsame
  · by_cases hignore : o.ignoreNanos = true
    · rw [if_pos hignore] at hsame
      exact hsame
    · have hfine : ¬ (o.mountedView.applies m n = true ∧ o.mountHasNanos = false) := by
        rintro ⟨hmounted, hnanos⟩
        rcases hview with hnever | hhas
        · rw [hnever] at hmounted
          cases hmounted
        · exact absurd (hhas.symm.trans hnanos) nofun
      rw [if_neg hignore, if_neg hfine] at hsame
      exact Precision.keepsSeconds_iff.2 hprecision _ _ hsame

/-- **Options keep seconds apart exactly if** no two entries that pass for equally old were changed
in different seconds. -/
theorem keepsSeconds_iff (hutime : k.utime = true) :
    o.KeepsSeconds k ↔
      ∀ m n, o.SameTime k (o.mountedView.applies m n) m.mtime n.mtime →
        m.mtime.SameSecond n.mtime := by
  refine ⟨fun h m n htimes => sameSecond_of_keepsSeconds h hutime htimes, fun h => ?_⟩
  refine Classical.byContradiction fun hkeeps => ?_
  obtain ⟨hignore, hrest⟩ := not_or.1 hkeeps
  -- The two times next to a full second pass for one on a pair that is compared coarsely.
  let t : Stamp := ⟨999999999, by decide, by decide⟩
  let u : Stamp := ⟨1000000000, by decide, by decide⟩
  have hseconds : ¬ t.SameSecond u := by decide
  have hcoarse : Precision.coarse.round t = Precision.coarse.round u :=
    Precision.round_last_nanosecond (by decide)
  by_cases hprecision : k.precision = .nanosecond
  · obtain ⟨hview, hnanos⟩ := not_or.1 fun hview => hrest ⟨hprecision, hview⟩
    have hmounted : o.mountedView.applies (datedMeta 0 t) (datedMeta 1 u) = true := by
      cases hrule : o.mountedView with
      | detect => rfl
      | right => rfl
      | never => exact absurd hrule hview
    refine hseconds (h (datedMeta 0 t) (datedMeta 1 u) fun _ => ?_)
    rw [if_neg hignore, if_pos ⟨hmounted, Bool.eq_false_iff.2 hnanos⟩]
    exact hcoarse
  · refine hseconds (h (datedMeta 0 t) (datedMeta 0 u) fun _ => ?_)
    rw [if_neg hignore]
    split
    · exact hcoarse
    · exact Precision.round_last_nanosecond hprecision

end Options

namespace World

variable {w : World} {o : Options} {k : Capabilities} {left right a b : Path}

/-- **Entries at one place were changed in one second.** -/
def SameSeconds (w : World) (left right : Path) : Prop :=
  ∀ a b n m m', w.view.Entered left right a b → w.view.Holds a n → w.view.Holds b n →
    w.view.status (a.join n.bytes) = .ok m → w.view.status (b.join n.bytes) = .ok m' →
    m.mtime.SameSecond m'.mtime

theorem sameStatus_inSeconds {mounted : Bool} {e f : Seen} (h : e.SameStatus o k mounted f)
    (hseconds : k.utime = true → e.status.mtime.SameSecond f.status.mtime) :
    e.SameStatus o.inSeconds k mounted f where
  mode := h.mode
  uid := h.uid
  gid := h.gid
  rdev := h.rdev
  nlink := h.nlink
  flags := h.flags
  mtime hutime := hseconds hutime

/-- Entries at one place of equivalent trees are alike, whatever statuses are read of them. -/
theorem Equivalent.alike {n : Name} {m m' : Meta} (h : w.Equivalent o k left right)
    (hab : w.view.Entered left right a b) (hl : w.view.Holds a n) (hr : w.view.Holds b n)
    (hm : w.view.status (a.join n.bytes) = .ok m)
    (hm' : w.view.status (b.join n.bytes) = .ok m') :
    (w.seen (a.join n.bytes) m).Alike o k (o.mountedView.applies m m')
      (w.seen (b.join n.bytes) m') := by
  have hlevel := equivalent_iff_forall_entered.1 h a b hab
  obtain ⟨u, u', hu, hu', -, -, halike⟩ := (hlevel.entries n hl hr).seen
  obtain rfl : m = u := Except.ok.inj (hm.symm.trans hu)
  obtain rfl : m' = u' := Except.ok.inj (hm'.symm.trans hu')
  exact halike

/-- **Equivalent trees are equivalent in whole seconds** exactly if times at one place lie in one
second. -/
theorem Equivalent.inSeconds_iff (h : w.Equivalent o k left right) :
    w.Equivalent o.inSeconds k left right ↔ (k.utime = true → w.SameSeconds left right) := by
  constructor
  · intro hseconds hutime a b n m m' hab hl hr hm hm'
    exact (hseconds.alike hab hl hr hm hm').mtime hutime
  · intro hseconds
    refine h.of_matching fun a b n hab hl hr hmatching => ?_
    refine hmatching.of_sameStatus (fun hignore => hignore) fun m m' hm hm' hstatus => ?_
    exact sameStatus_inSeconds hstatus fun hutime => hseconds hutime a b n m m' hab hl hr hm hm'

/-- Where options keep seconds apart, times at one place of equivalent trees lie in one second. -/
theorem Equivalent.sameSeconds (h : w.Equivalent o k left right) (ho : o.KeepsSeconds k)
    (hutime : k.utime = true) : w.SameSeconds left right := by
  intro a b n m m' hab hl hr hm hm'
  have halike := h.alike hab hl hr hm hm'
  exact Options.sameSecond_of_keepsSeconds ho hutime halike.mtime

end World

/-- **Trees that compare equal do so in whole seconds** exactly if the times at one place lie in one
second, unless times are not compared.  So they do under options that keep seconds apart. -/
theorem Comparator.run_inSeconds_iff {σ : Type} (o : Options) (k : Capabilities) (i : Inspector σ)
    (h : i.IsSteady) (left right : Path) (s : σ)
    (hok : (Comparator.run ⟨o, k, i⟩ left right s).1 = .ok ()) :
    ((Comparator.run ⟨o.inSeconds, k, i⟩ left right s).1 = .ok () ↔
      (k.utime = true → (i.world s).SameSeconds left right)) ∧
    ((k.utime = true → o.KeepsSeconds k) →
      (Comparator.run ⟨o.inSeconds, k, i⟩ left right s).1 = .ok ()) := by
  rw [Comparator.run_eq_traversal h] at hok ⊢
  have hequivalent : (i.world s).Equivalent o k left right :=
    World.outcome_traversal_eq_ok_iff_equivalent.1 hok
  have hiff : Event.outcome ((i.world s).traversal o.inSeconds k left right) = .ok () ↔
      (k.utime = true → (i.world s).SameSeconds left right) :=
    World.outcome_traversal_eq_ok_iff_equivalent.trans hequivalent.inSeconds_iff
  exact ⟨hiff, fun ho => hiff.2 fun hutime => hequivalent.sameSeconds (ho hutime) hutime⟩

/-- Of three files changed in one second, two are compared to the microsecond and two to the
nanosecond. -/
theorem Comparator.trio_run_inSeconds_iff :
    let file (nanos : Nat) : Node :=
      { FileSystem.plain (.file 1 (.ok [0x30])) with modified := ⟨1, nanos⟩ }
    let fs := FileSystem.trio 0o755 (file 400) (file 0) (file 0)
    let o := Options.default
    let micro := Capabilities.ofAnswers (fun _ => true) .microsecond
    let nano := Capabilities.ofAnswers (fun _ => true) .nanosecond
    Inspector.ofFiles.IsSteady ∧
      ((Comparator.run ⟨o, micro, .ofFiles⟩ [0x61] [0x62] fs).1 = .ok () ∧
        ((Comparator.run ⟨o.inSeconds, micro, .ofFiles⟩ [0x61] [0x62] fs).1 = .ok () ↔
          (micro.utime = true → (Inspector.ofFiles.world fs).SameSeconds [0x61] [0x62]))) ∧
      (Comparator.run ⟨o, nano, .ofFiles⟩ [0x62] [0x63] fs).1 = .ok () ∧
        (nano.utime = true → o.KeepsSeconds nano) ∧
        (Comparator.run ⟨o.inSeconds, nano, .ofFiles⟩ [0x62] [0x63] fs).1 = .ok () := by
  intro file fs o micro nano
  have hsteady := Inspector.isSteady_ofFiles
  have hmicro : (Comparator.run ⟨o, micro, .ofFiles⟩ [0x61] [0x62] fs).1 = .ok () := by cbv
  have hnano : (Comparator.run ⟨o, nano, .ofFiles⟩ [0x62] [0x63] fs).1 = .ok () := by cbv
  have hkeeps : nano.utime = true → o.KeepsSeconds nano := fun _ => .inr ⟨rfl, .inr rfl⟩
  exact ⟨hsteady,
    ⟨hmicro, (Comparator.run_inSeconds_iff o micro .ofFiles hsteady [0x61] [0x62] fs hmicro).1⟩,
    hnano, hkeeps,
    (Comparator.run_inSeconds_iff o nano .ofFiles hsteady [0x62] [0x63] fs hnano).2 hkeeps⟩

/-- **Trees that compare equal need not do so in whole seconds**: of two files one was changed at a
full second, and the other less than half a microsecond before it. -/
theorem Comparator.inSeconds_rejects :
    let file (seconds : Int) (nanos : Nat) : Node :=
      { FileSystem.plain (.file 1 (.ok [0x30])) with modified := ⟨seconds, nanos⟩ }
    let fs := FileSystem.trio 0o755 (file 0 999999600) (file 1 0) (file 1 0)
    let o := Options.default
    let k := Capabilities.ofAnswers (fun _ => true) .microsecond
    (Comparator.run ⟨o, k, .ofFiles⟩ [0x61] [0x62] fs).1 = .ok () ∧
      (Comparator.run ⟨o.inSeconds, k, .ofFiles⟩ [0x61] [0x62] fs).1 ≠ .ok () := by
  intro file fs o k
  refine ⟨by cbv, ?_⟩
  have hrejects : (Comparator.run ⟨o.inSeconds, k, .ofFiles⟩ [0x61] [0x62] fs).1.isOk = false := by
    cbv
  intro hok
  rw [hok] at hrejects
  cases hrejects

end RestoreCheck
