import Mathlib
import RestoreCheck.Probe.Primitives
import RestoreCheck.Proofs.Compare.World
import RestoreCheck.Proofs.Time.Nearest

/-!
# What a stamp tells of a moment

A stamp tells a moment if it is the exact number of nanoseconds from the epoch, or the limit on its
side where that number is out of range (`Stamp.Tells`).  The birth time of a file is always told.
The other times of a file are brought into range twice, for the first time before their nanoseconds
are added, and a number that was raised to the lower limit is then raised further.  So a file time
is told, keeps its place in the order of times, and agrees with a birth time at the same moment
exactly if it is not too early: if its second begins within the range, or later, or it has no
nanoseconds (`Moment.converted`).
-/

namespace RestoreCheck

namespace Stamp

/-- **A stamp tells a moment.** -/
structure Tells (t : Stamp) (m : Moment) : Prop where
  /-- it is the number of nanoseconds, if that fits -/
  inside : Fits m.total → t.nanos = m.total
  /-- it is the earliest stamp, if the moment is before all stamps -/
  before : m.total < -9223372036854775808 → t = least
  /-- it is the latest stamp, if the moment is after all stamps -/
  after : 9223372036854775807 < m.total → t = greatest

variable {m : Moment} {t : Stamp}

/-- One stamp tells a moment: the one that is nearest to it. -/
theorem tells_iff : t.Tells m ↔ t = clamp m.total := by
  have hleast : least.nanos = -9223372036854775808 := rfl
  have hgreatest : greatest.nanos = 9223372036854775807 := rfl
  constructor
  · intro h
    refine ext ?_
    rw [nanos_clamp]
    by_cases hbefore : m.total < -9223372036854775808
    · rw [h.before hbefore]
      omega
    · by_cases hafter : 9223372036854775807 < m.total
      · rw [h.after hafter]
        omega
      · rw [h.inside ⟨by omega, by omega⟩]
        omega
  · rintro rfl
    refine ⟨fun hfits => nanos_clamp_of_mem hfits.1 hfits.2, fun hbefore => ext ?_,
      fun hafter => ext ?_⟩
    · rw [nanos_clamp]
      omega
    · rw [nanos_clamp]
      omega

/-- **A birth time is told.** -/
theorem tells_ofDistance (m : Moment) : (ofDistance m).Tells m := by
  have hleast : least.nanos = -9223372036854775808 := rfl
  have hgreatest : greatest.nanos = 9223372036854775807 := rfl
  refine tells_iff.2 (ext ?_)
  rw [nanos_clamp]
  unfold ofDistance
  split
  · split
    · show ((m.total.natAbs : Nat) : Int) = _
      omega
    · omega
  · split
    · show -((m.total.natAbs : Nat) : Int) = _
      omega
    · omega

end Stamp

namespace Moment

/-- The nanoseconds of a moment are less than a second, as systems report them. -/
def Proper (m : Moment) : Prop :=
  m.nanos < 1000000000

/-- **A moment is too early**: its second begins before all stamps, and it is not the beginning of
that second. -/
def Early (m : Moment) : Prop :=
  m.seconds * nanosPerSecond < -9223372036854775808 ∧ m.nanos ≠ 0

variable {m : Moment}

theorem total_eq (m : Moment) : m.total = m.seconds * 1000000000 + m.nanos := rfl

theorem early_iff : m.Early ↔ m.seconds ≤ -9223372037 ∧ m.nanos ≠ 0 := by
  have hsecond : nanosPerSecond = 1000000000 := rfl
  unfold Early
  rw [hsecond]
  omega

theorem nanos_ofMoment (m : Moment) :
    (Stamp.ofMoment m).nanos = max (-9223372036854775808) (min
      (max (-9223372036854775808) (min (m.seconds * 1000000000) 9223372036854775807) + m.nanos)
      9223372036854775807) := by
  unfold Stamp.ofMoment
  rw [Stamp.nanos_clamp, Stamp.nanos_clamp]
  rfl

/-- **The stamp of a moment that is too early** is the earliest one and the nanoseconds on top. -/
theorem nanos_ofMoment_of_early (hm : m.Proper) (h : m.Early) :
    (Stamp.ofMoment m).nanos = -9223372036854775808 + m.nanos := by
  obtain ⟨hsecond, -⟩ := early_iff.1 h
  unfold Proper at hm
  rw [nanos_ofMoment]
  omega

/-- **A moment that is not too early is told.** -/
theorem tells_ofMoment (h : ¬ m.Early) : (Stamp.ofMoment m).Tells m := by
  rw [early_iff] at h
  refine Stamp.tells_iff.2 (Stamp.ext ?_)
  -- Seconds that are brought down to the upper limit are not brought back by what is added.
  rw [nanos_ofMoment, Stamp.nanos_clamp, total_eq]
  omega

theorem tells_ofMoment_iff (hm : m.Proper) : (Stamp.ofMoment m).Tells m ↔ ¬ m.Early := by
  refine ⟨fun htells hearly => ?_, tells_ofMoment⟩
  have hstamp := nanos_ofMoment_of_early hm hearly
  obtain ⟨hsecond, hnanos⟩ := early_iff.1 hearly
  unfold Proper at hm
  rw [Stamp.tells_iff.1 htells, Stamp.nanos_clamp, total_eq] at hstamp
  omega

/-! ### The order of times -/

/-- No stamp is too low. -/
theorem clamp_total_le (m : Moment) :
    (Stamp.clamp m.total).nanos ≤ (Stamp.ofMoment m).nanos := by
  rw [nanos_ofMoment, Stamp.nanos_clamp, total_eq]
  omega

/-- **No later moment has an earlier stamp** exactly if the moment is not so early that its stamp
lies after its second. -/
theorem ofMoment_le_iff (hm : m.Proper) :
    (∀ m' : Moment, m'.Proper → m.total ≤ m'.total →
        (Stamp.ofMoment m).nanos ≤ (Stamp.ofMoment m').nanos) ↔
      (m.Early → (Stamp.ofMoment m).nanos ≤ (m.seconds + 1) * 1000000000) := by
  constructor
  · intro h hearly
    have hstamp := nanos_ofMoment_of_early hm hearly
    obtain ⟨hsecond, hnanos⟩ := early_iff.1 hearly
    -- The beginning of the next second is later.
    have hnext := h ⟨m.seconds + 1, 0⟩ (show 0 < 1000000000 by decide) (by
      unfold Proper at hm
      rw [total_eq, total_eq]
      dsimp only
      omega)
    rw [nanos_ofMoment ⟨m.seconds + 1, 0⟩] at hnext
    dsimp only at hnext
    omega
  · intro h m' hm' hle
    have hlow := clamp_total_le m'
    by_cases hearly : m.Early
    · have hstamp := nanos_ofMoment_of_early hm hearly
      have hend := h hearly
      obtain ⟨hsecond, hnanos⟩ := early_iff.1 hearly
      rw [total_eq, total_eq] at hle
      unfold Proper at hm hm'
      by_cases hsame : m'.seconds = m.seconds
      · -- In one second the nanoseconds decide.
        have hearly' : m'.Early := early_iff.2 ⟨by omega, by omega⟩
        rw [hstamp, nanos_ofMoment_of_early hm' hearly']
        omega
      · rw [Stamp.nanos_clamp, total_eq] at hlow
        omega
    · calc
        (Stamp.ofMoment m).nanos = (Stamp.clamp m.total).nanos := by
          rw [Stamp.tells_iff.1 (tells_ofMoment hearly)]
        _ ≤ (Stamp.clamp m'.total).nanos := Stamp.nanos_clamp_le hle
        _ ≤ (Stamp.ofMoment m').nanos := hlow

/-! ### The whole of it -/

/-- **How a moment is converted**, wherever it is a time of a file. -/
structure Converted (m : Moment) : Prop where
  /-- The stamp tells the moment exactly if that is not too early. -/
  told_iff : (Stamp.ofMoment m).Tells m ↔ ¬ m.Early
  /-- If it is, the stamp is the earliest one and the nanoseconds on top. -/
  early : m.Early → (Stamp.ofMoment m).nanos = -9223372036854775808 + m.nanos
  /-- No later moment has an earlier stamp, unless the moment is so early that its stamp lies after
  its second. -/
  ordered_iff :
    (∀ m' : Moment, m'.Proper → m.total ≤ m'.total →
        (Stamp.ofMoment m).nanos ≤ (Stamp.ofMoment m').nanos) ↔
      (m.Early → (Stamp.ofMoment m).nanos ≤ (m.seconds + 1) * 1000000000)
  /-- A birth time is told in any case. -/
  distance : (Stamp.ofDistance m).Tells m
  /-- So the two stamps are one exactly if the moment is not too early. -/
  agree_iff : Stamp.ofMoment m = Stamp.ofDistance m ↔ ¬ m.Early
  /-- The first is what the status of an entry tells of its last change. -/
  status {fs : FileSystem} {p : Path} {l : Location} {n : Node} :
    fs.lookup .entry p = .ok (l, n) → n.modified = m →
      ∃ s, fs.status p = .ok s ∧ s.mtime = Stamp.ofMoment m
  /-- A probe reads it as well, also for the last reading, and the second for the birth. -/
  probe {fs : FileSystem} {goal : Goal} {p : Path} {l : Location} {n : Node} :
    fs.lookup goal p = .ok (l, n) → ∃ s, fs.probeStatus goal p = .ok s ∧
      (n.modified = m → s.modified = Stamp.ofMoment m) ∧
      (n.accessed = m → s.accessed = Stamp.ofMoment m) ∧
      (n.born = m → s.born = some (Stamp.ofDistance m))

/-- **File times are told exactly if they are not too early**, and birth times always. -/
theorem converted (hm : m.Proper) : m.Converted where
  told_iff := tells_ofMoment_iff hm
  early := nanos_ofMoment_of_early hm
  ordered_iff := ofMoment_le_iff hm
  distance := Stamp.tells_ofDistance m
  agree_iff := by
    rw [← tells_ofMoment_iff hm, Stamp.tells_iff, Stamp.tells_iff.1 (Stamp.tells_ofDistance m)]
  status {fs p l n} hlookup hmodified := by
    refine ⟨fs.metaAt l n, ?_, congrArg Stamp.ofMoment hmodified⟩
    unfold FileSystem.status
    rw [hlookup]
  probe {fs goal p l n} hlookup := by
    unfold FileSystem.probeStatus
    rw [hlookup]
    exact ⟨_, rfl, congrArg Stamp.ofMoment, congrArg Stamp.ofMoment,
      fun hborn => congrArg (some ∘ Stamp.ofDistance) hborn⟩

theorem converted_early :
    (⟨-9223372037, 999999999⟩ : Moment).Proper ∧ (⟨-9223372037, 999999999⟩ : Moment).Converted :=
  ⟨by unfold Proper; decide, converted (by unfold Proper; decide)⟩

/-- A regular file without content that was last changed at some moment. -/
def changedAt (m : Moment) : Node :=
  { FileSystem.plain (.file 0 (.ok [])) with modified := m }

/-- **An early moment that fits is not told**: its stamp is too late by a seventh of a second, and
two files that were changed that far apart pass for one.  The order of times is not kept either: a
moment after one second has a later stamp than the beginning of the next second. -/
theorem early_not_told :
    let early : Moment := ⟨-9223372037, 999999999⟩
    let later : Moment := ⟨-9223372036, 145224191⟩
    Stamp.Fits early.total ∧ (Stamp.ofMoment early).nanos ≠ early.total ∧
      (Stamp.ofDistance early).nanos = early.total ∧
      (Stamp.ofMoment ⟨-9223372037, 0⟩).nanos < (Stamp.ofMoment ⟨-9223372038, 1⟩).nanos ∧
      early.total < later.total ∧
      (Comparator.strict.run [0x61] [0x62]
        (.trio 0o755 (changedAt early) (changedAt later) (changedAt later))).1 = .ok () := by
  refine ⟨⟨by decide, by decide⟩, by decide, by decide, by decide, by decide, by cbv⟩

end Moment

end RestoreCheck
