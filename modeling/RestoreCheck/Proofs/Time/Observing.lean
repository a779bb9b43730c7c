import Mathlib.Algebra.Order.Floor.Div
import RestoreCheck.Proofs.Time.Waiting

/-!
# What waiting observes

All that happens while a condition is waited for is a list of `WaitEvent`s.  `WaitGoes` tells how
they follow on each other, one case for each turn of the loop, for readings of any kind: they need
not reach the deadline, so that a wait may also be under way for ever.  A wait by a clock goes this
way, and every wait that came to an end is one by a clock (`WaitGoes.waitFrom_eq`,
`exists_waitGoes_waitFrom`).

What can be said of all waits is in `Observes`: no check comes after a reading at or past the
deadline, and the answer is yes exactly if the last check said so.  Where only the pauses take time,
the checks can be counted (`WaitGoes.exists_count`).  All of it is by induction on how the wait
goes. -/

namespace RestoreCheck

variable {σ : Type}

/-- What happens while a condition is waited for. -/
inductive WaitEvent where
  /-- the clock showed a time -/
  | read (time : Nat)
  /-- the condition was checked -/
  | checked (holds : Bool)
  /-- there was a pause -/
  | paused
deriving DecidableEq

namespace WaitEvent

/-- What a check found. -/
def finding? : WaitEvent → Option Bool
  | checked holds => some holds
  | read _ | paused => none

/-- What the checks found, in order. -/
def checks (events : List WaitEvent) : List Bool :=
  events.filterMap finding?

/-- How many pauses there were. -/
def pauses (events : List WaitEvent) : Nat :=
  events.count paused

end WaitEvent

open WaitEvent

/-- What check number `k` finds, counted from zero, if no earlier one ends the waiting. -/
def finding (check : σ → Bool × σ) (pause : σ → σ) (k : Nat) (s : σ) : Bool :=
  (check (polled check pause k s)).1

/-- **How waiting goes on** when `n` readings have been made: what happens, and how it has ended if
it has. -/
inductive WaitGoes (reading : Nat → Nat) (deadline : Nat) (check : σ → Bool × σ) (pause : σ → σ) :
    Nat → σ → List WaitEvent → Option (Waited σ) → Prop where
  | underway (n : Nat) (s : σ) : WaitGoes reading deadline check pause n s [] none
  | late {n : Nat} {s : σ} (late : deadline ≤ reading n) :
      WaitGoes reading deadline check pause n s [.read (reading n)] (some ⟨false, s⟩)
  | held {n : Nat} {s t : σ} (early : reading n < deadline) (finds : check s = (true, t)) :
      WaitGoes reading deadline check pause n s [.read (reading n), .checked true]
        (some ⟨true, t⟩)
  | again {n : Nat} {s t : σ} {events : List WaitEvent} {ending : Option (Waited σ)}
      (early : reading n < deadline) (finds : check s = (false, t))
      (rest : WaitGoes reading deadline check pause (n + 1) (pause t) events ending) :
      WaitGoes reading deadline check pause n s
        (.read (reading n) :: .checked false :: .paused :: events) ending

namespace WaitGoes

variable {reading : Nat → Nat} {deadline n : Nat} {check : σ → Bool × σ} {pause : σ → σ} {s : σ}
  {events before after : List WaitEvent} {ending : Option (Waited σ)} {w : Waited σ}

/-! ### Checks and how the wait ends -/

/-- **A check comes right after a reading before the deadline.** -/
theorem early_of_checked {holds : Bool}
    (h : WaitGoes reading deadline check pause n s (before ++ .checked holds :: after) ending) :
    ∃ earlier time, before = earlier ++ [.read time] ∧ time < deadline := by
  generalize hevents : before ++ .checked holds :: after = events at h
  induction h generalizing before with
  | underway n s => simp at hevents
  | late late =>
    obtain _ | ⟨e, before⟩ := before <;> simp at hevents
  | held early finds =>
    obtain _ | ⟨e, _ | ⟨e', before⟩⟩ := before <;> simp at hevents
    exact ⟨[], _, by rw [hevents.1]; rfl, early⟩
  | again early finds rest ih =>
    -- The check is that of the first turn, or one of the later turns.
    obtain _ | ⟨e, _ | ⟨e', _ | ⟨e'', before⟩⟩⟩ := before <;> simp at hevents
    · exact ⟨[], _, by rw [hevents.1]; rfl, early⟩
    · obtain ⟨rfl, rfl, rfl, hevents⟩ := hevents
      obtain ⟨earlier, time, rfl, hearly⟩ := ih hevents
      exact ⟨.read _ :: .checked false :: .paused :: earlier, time, rfl, hearly⟩

/-- **A check that says yes is the last event**, and no earlier one said so. -/
theorem last_of_checked
    (h : WaitGoes reading deadline check pause n s (before ++ .checked true :: after) ending) :
    after = [] ∧ .checked true ∉ before := by
  generalize hevents : before ++ .checked true :: after = events at h
  induction h generalizing before with
  | underway n s => simp at hevents
  | late late =>
    obtain _ | ⟨e, before⟩ := before <;> simp at hevents
  | held early finds =>
    obtain _ | ⟨e, _ | ⟨e', before⟩⟩ := before <;> simp at hevents
    obtain ⟨rfl, rfl⟩ := hevents
    simp
  | again early finds rest ih =>
    obtain _ | ⟨e, _ | ⟨e', _ | ⟨e'', before⟩⟩⟩ := before <;> simp at hevents
    obtain ⟨rfl, rfl, rfl, hevents⟩ := hevents
    simpa using ih hevents

/-- **The answer is yes** exactly if some check said so. -/
theorem holds_iff (h : WaitGoes reading deadline check pause n s events (some w)) :
    w.holds = true ↔ .checked true ∈ events := by
  generalize hending : some w = ending at h
  induction h with
  | underway n s => cases hending
  | late late =>
    cases hending
    simp
  | held early finds =>
    cases hending
    simp
  | again early finds rest ih => simpa using ih hending

/-- **The answer is no** only after a reading at or past the deadline. -/
theorem late_of_holds_eq_false (h : WaitGoes reading deadline check pause n s events (some w))
    (hholds : w.holds = false) :
    ∃ earlier time, events = earlier ++ [.read time] ∧ deadline ≤ time := by
  generalize hending : some w = ending at h
  induction h with
  | underway n s => cases hending
  | late late => exact ⟨[], _, rfl, late⟩
  | held early finds =>
    cases hending
    cases hholds
  | again early finds rest ih =>
    obtain ⟨earlier, time, rfl, hlate⟩ := ih hending
    exact ⟨.read _ :: .checked false :: .paused :: earlier, time, rfl, hlate⟩

/-- Nothing is checked if the first reading is too late. -/
theorem checks_eq_nil (h : WaitGoes reading deadline check pause n s events ending)
    (late : deadline ≤ reading n) : checks events = [] := by
  cases h with
  | underway | late => rfl
  | held early | again early => omega

/-! ### Counting -/

/-- **The turns of a wait that ended**: after `k` pauses, each after a check that said no, there is
a check that says yes or a reading that is too late. -/
theorem exists_count (h : WaitGoes reading deadline check pause n s events (some w)) :
    ∃ k, pauses events = k ∧
      (∀ j < k, finding check pause j s = false ∧ reading (n + j) < deadline) ∧
      ((checks events).length = k + 1 ∧ finding check pause k s = true ∧
          reading (n + k) < deadline ∨
        (checks events).length = k ∧ deadline ≤ reading (n + k)) := by
  generalize hending : some w = ending at h
  induction h with
  | underway n s => cases hending
  | late late => exact ⟨0, rfl, by simp, .inr ⟨rfl, late⟩⟩
  | held early finds => exact ⟨0, rfl, by simp, .inl ⟨rfl, congrArg Prod.fst finds, early⟩⟩
  | @again n s t events ending early finds rest ih =>
    obtain ⟨k, hpauses, hearlier, hlast⟩ := ih hending
    have hshift (j : Nat) : n + 1 + j = n + (j + 1) := by omega
    -- What is found after the first turn is found from the state that it leaves.
    have hfinding (j : Nat) :
        finding check pause j (pause t) = finding check pause (j + 1) s := by
      rw [show t = (check s).2 from (congrArg Prod.snd finds).symm]
      rfl
    have hchecks : (checks (.read (reading n) :: .checked false :: .paused :: events)).length =
        (checks events).length + 1 := rfl
    simp only [hshift, hfinding] at hearlier hlast
    refine ⟨k + 1, by simpa [pauses] using hpauses, ?_, ?_⟩
    · intro j hj
      cases j with
      | zero => exact ⟨congrArg Prod.fst finds, early⟩
      | succ j => exact hearlier j (by omega)
    · rw [hchecks]
      exact hlast.imp (And.imp_left (congrArg (· + 1))) (And.imp_left (congrArg (· + 1)))

/-- **A wait comes to an end** exactly if some check would say yes or some reading is too late. -/
theorem exists_end_iff : (∃ events w, WaitGoes reading deadline check pause n s events (some w)) ↔
    ∃ k, deadline ≤ reading (n + k) ∨ finding check pause k s = true := by
  constructor
  · rintro ⟨events, w, h⟩
    obtain ⟨k, -, -, ⟨-, hfinding, -⟩ | ⟨-, hlate⟩⟩ := h.exists_count
    · exact ⟨k, .inr hfinding⟩
    · exact ⟨k, .inl hlate⟩
  · rintro ⟨k, hk⟩
    induction k generalizing n s with
    | zero =>
      rcases Nat.lt_or_ge (reading n) deadline with early | late
      · have holds : (check s).1 = true := hk.resolve_left (Nat.not_le.2 early)
        exact ⟨_, _, .held early (Prod.ext holds rfl)⟩
      · exact ⟨_, _, .late late⟩
    | succ k ih =>
      rcases Nat.lt_or_ge (reading n) deadline with early | late
      · cases hcheck : (check s).1 with
        | true => exact ⟨_, _, .held early (Prod.ext hcheck rfl)⟩
        | false =>
          have hshift : n + 1 + k = n + (k + 1) := by omega
          obtain ⟨events, w, h⟩ := ih (n := n + 1) (s := pause (check s).2) (hshift ▸ hk)
          exact ⟨_, _, .again early (Prod.ext hcheck rfl) h⟩
      · exact ⟨_, _, .late late⟩

/-! ### Clocks -/

/-- **A wait that ended is a wait by every clock** that shows the same readings until then. -/
theorem waitFrom_eq {clock : Clock}
    (h : WaitGoes reading deadline check pause n s events (some w))
    (hreading : ∀ i ≤ pauses events, clock.reading (n + i) = reading (n + i)) :
    waitFrom clock deadline check pause n s = w := by
  generalize hending : some w = ending at h
  induction h with
  | underway n s => cases hending
  | @late n s late =>
    obtain rfl := Option.some.inj hending
    have hn : clock.reading n = reading n := hreading 0 (Nat.zero_le _)
    rw [waitFrom, dif_neg (by omega)]
  | @held n s t early finds =>
    obtain rfl := Option.some.inj hending
    have hn : clock.reading n = reading n := hreading 0 (Nat.zero_le _)
    rw [waitFrom, dif_pos (by omega), finds]
  | @again n s t events ending early finds rest ih =>
    have hn : clock.reading n = reading n := hreading 0 (Nat.zero_le _)
    rw [waitFrom, dif_pos (by omega), finds]
    refine ih (fun i hi => ?_) hending
    have hpauses : i + 1 ≤ pauses (.read (reading n) :: .checked false :: .paused :: events) := by
      simpa [pauses] using hi
    rw [show n + 1 + i = n + (i + 1) by omega]
    exact hreading (i + 1) hpauses

end WaitGoes

/-- A wait by a clock goes as waits do. -/
theorem exists_waitGoes_waitFrom (clock : Clock) (deadline : Nat) (check : σ → Bool × σ)
    (pause : σ → σ) (n : Nat) (s : σ) :
    ∃ events, WaitGoes clock.reading deadline check pause n s events
      (some (waitFrom clock deadline check pause n s)) := by
  induction n, s using waitFrom.induct clock deadline check pause with
  | case1 n s early t hcheck =>
    rw [waitFrom, dif_pos early, hcheck]
    exact ⟨_, .held early hcheck⟩
  | case2 n s early t hcheck ih =>
    rw [waitFrom, dif_pos early, hcheck]
    obtain ⟨events, h⟩ := ih
    exact ⟨_, .again early hcheck h⟩
  | case3 n s late =>
    rw [waitFrom, dif_neg late]
    exact ⟨_, .late (Nat.not_lt.1 late)⟩

/-- A clock that shows given readings up to one of them, and from there on runs by itself. -/
def Clock.following (reading : Nat → Nat) (hmono : ∀ n, reading n ≤ reading (n + 1)) (last : Nat) :
    Clock where
  reading i := reading (min i last) + (i - last)
  reading_le_succ i := by
    have hstep := hmono i
    rcases Nat.lt_or_ge i last with hi | hi
    · rw [Nat.min_eq_left (by omega : i ≤ last), Nat.min_eq_left (by omega : i + 1 ≤ last)]
      omega
    · rw [Nat.min_eq_right hi, Nat.min_eq_right (by omega : last ≤ i + 1)]
      omega
  arrival t := last + t
  le_reading_arrival t := by omega

/-! ### All waits -/

/-- **What is observed** by a wait with some timeout, for readings of which the first one has set
the deadline. -/
structure Observes (reading : Nat → Nat) (timeout interval : Span) (deadline : Nat)
    (check : σ → Bool × σ) (pause : σ → σ) (s : σ) : Prop where
  /-- A wait by a clock goes as waits do, -/
  by_clock : ∀ (clock : Clock) w, clock.reading = reading →
    (waitUntil clock timeout check pause s = some w ↔
      ∃ events, WaitGoes reading deadline check pause 1 s events (some w))
  /-- and every wait that ended is one by a clock that shows the same readings until then. -/
  to_clock : ∀ events w, WaitGoes reading deadline check pause 1 s events (some w) →
    ∃ clock : Clock, (∀ i ≤ 1 + pauses events, clock.reading i = reading i) ∧
      waitUntil clock timeout check pause s = some w
  /-- It comes to an end unless every check would say no and every reading is too early. -/
  ends_iff : (∃ events w, WaitGoes reading deadline check pause 1 s events (some w)) ↔
    ∃ k, deadline ≤ reading (k + 1) ∨ finding check pause k s = true
  /-- The condition is checked only after a reading before the deadline, also in a wait that is
  still under way. -/
  checked_early : ∀ before holds after ending,
    WaitGoes reading deadline check pause 1 s (before ++ .checked holds :: after) ending →
      ∃ earlier time, before = earlier ++ [.read time] ∧ time < deadline
  /-- The answer is yes exactly if some check said so, -/
  holds_iff : ∀ events w, WaitGoes reading deadline check pause 1 s events (some w) →
    (w.holds = true ↔ .checked true ∈ events)
  /-- and then that check was the last, and the only one that did. -/
  holds_last : ∀ before after ending,
    WaitGoes reading deadline check pause 1 s (before ++ .checked true :: after) ending →
      after = [] ∧ .checked true ∉ before
  /-- The answer is no only after a reading at or past the deadline, with every check saying no. -/
  fails_late : ∀ events w, WaitGoes reading deadline check pause 1 s events (some w) →
    w.holds = false → (∃ earlier time, events = earlier ++ [.read time] ∧ deadline ≤ time) ∧
      ∀ holds ∈ checks events, holds = false
  /-- Without time nothing is checked. -/
  idle : timeout.total = 0 → ∀ events ending,
    WaitGoes reading deadline check pause 1 s events ending → checks events = []
  /-- Where only the pauses take time, each of them the interval, the checks are counted, and the
  wait ends less than an interval after the deadline. -/
  counted : 0 < interval.total → (∀ k, reading (k + 1) = reading 0 + k * interval.total) →
    (∃ events w, WaitGoes reading deadline check pause 1 s events (some w)) ∧
    ∀ events w, WaitGoes reading deadline check pause 1 s events (some w) →
      (∀ k, (∀ j < k, finding check pause j s = false) → finding check pause k s = true →
        (checks events).length = min (k + 1) (timeout.total ⌈/⌉ interval.total)) ∧
      ((∀ k, finding check pause k s = false) →
        (checks events).length = timeout.total ⌈/⌉ interval.total) ∧
      (0 < timeout.total → 0 < (checks events).length) ∧
      reading 0 + pauses events * interval.total < deadline + interval.total

theorem ceilDiv_eq_of_lt_of_le {a b k : Nat} (hb : 0 < b) (hlt : ∀ j < k, j * b < a)
    (hle : a ≤ k * b) : a ⌈/⌉ b = k := by
  refine le_antisymm ((ceilDiv_le_iff_le_mul hb).2 (Nat.mul_comm k b ▸ hle)) ?_
  by_contra! hfew
  have hlast := hlt _ hfew
  have hcover : a ≤ b * (a ⌈/⌉ b) := (ceilDiv_le_iff_le_mul hb).1 le_rfl
  rw [Nat.mul_comm] at hcover
  omega

/-- **The checks of a wait where only the pauses take time** are as many as there are intervals
before the deadline, if none says yes earlier. -/
theorem WaitGoes.count_of_slept {reading : Nat → Nat} {timeout interval deadline : Nat}
    {check : σ → Bool × σ} {pause : σ → σ} {s : σ} {events : List WaitEvent} {w : Waited σ}
    (hdeadline : deadline = reading 0 + timeout) (hinterval : 0 < interval)
    (hslept : ∀ k, reading (k + 1) = reading 0 + k * interval)
    (h : WaitGoes reading deadline check pause 1 s events (some w)) :
    (∀ k, (∀ j < k, finding check pause j s = false) → finding check pause k s = true →
      (checks events).length = min (k + 1) (timeout ⌈/⌉ interval)) ∧
    ((∀ k, finding check pause k s = false) →
      (checks events).length = timeout ⌈/⌉ interval) ∧
    (0 < timeout → 0 < (checks events).length) ∧
    reading 0 + pauses events * interval < deadline + interval := by
  have hreading (j : Nat) : reading (1 + j) = reading 0 + j * interval := by
    rw [Nat.add_comm, hslept]
  obtain ⟨k, hpauses, hearlier, hlast⟩ := h.exists_count
  simp only [hreading, hdeadline, Nat.add_lt_add_iff_left, Nat.add_le_add_iff_left]
    at hearlier hlast
  have hfirst {first : Nat} (hyes : finding check pause first s = true) : k ≤ first := by
    by_contra! hlt
    rw [(hearlier first hlt).1] at hyes
    cases hyes
  rcases hlast with ⟨hchecks, hholds, hearly⟩ | ⟨hchecks, hlate⟩
  · have hceil : k < timeout ⌈/⌉ interval := by
      rw [← not_le, ceilDiv_le_iff_le_mul hinterval, Nat.mul_comm]
      omega
    refine ⟨fun first hno hyes => ?_, fun hno => ?_, fun _ => by omega, by rw [hpauses]; omega⟩
    · -- The first check that says yes is the one that ended the wait.
      have hle : k ≤ first := hfirst hyes
      have hge : first ≤ k := by
        by_contra! hlt
        rw [hno k hlt] at hholds
        cases hholds
      omega
    · rw [hno k] at hholds
      cases hholds
  · have hceil : timeout ⌈/⌉ interval = k :=
      ceilDiv_eq_of_lt_of_le hinterval (fun j hj => (hearlier j hj).2) hlate
    refine ⟨fun first hno hyes => ?_, fun _ => hchecks.trans hceil.symm, fun hpos => ?_, ?_⟩
    · have hle : k ≤ first := hfirst hyes
      omega
    · obtain _ | k := k
      · omega
      · omega
    · rw [hpauses]
      obtain _ | k := k
      · omega
      · have hbefore := (hearlier k (by omega)).2
        rw [Nat.succ_mul]
        omega

/-- **Waiting observes its condition** in time. -/
theorem waitUntil_observes {reading : Nat → Nat} (hmono : ∀ n, reading n ≤ reading (n + 1))
    {timeout : Span} {deadline : Nat}
    (hdeadline : Clock.deadline? (reading 0) timeout = some deadline) (interval : Span)
    (check : σ → Bool × σ) (pause : σ → σ) (s : σ) :
    Observes reading timeout interval deadline check pause s := by
  have hsum : deadline = reading 0 + timeout.total := by
    unfold Clock.deadline? at hdeadline
    split at hdeadline
    · exact (Option.some.inj hdeadline).symm
    · cases hdeadline
  have huntil {clock : Clock} (hfirst : clock.reading 0 = reading 0) :
      waitUntil clock timeout check pause s =
        some (waitFrom clock deadline check pause 1 s) := by
    unfold waitUntil
    rw [hfirst, hdeadline, Option.map_some]
  refine ⟨fun clock w hclock => ?_, fun events w h => ?_, ?_, fun _ _ _ _ h => h.early_of_checked,
    fun _ _ h => h.holds_iff, fun _ _ _ h => h.last_of_checked, fun events w h hno => ?_,
    fun htime events ending h => ?_, fun hinterval hslept => ⟨?_, fun events w h =>
      h.count_of_slept hsum hinterval hslept⟩⟩
  · rw [huntil (congrFun hclock 0)]
    constructor
    · intro hw
      obtain ⟨events, h⟩ := exists_waitGoes_waitFrom clock deadline check pause 1 s
      rw [hclock, Option.some.inj hw] at h
      exact ⟨events, h⟩
    · rintro ⟨events, h⟩
      rw [h.waitFrom_eq fun i _ => congrFun hclock _]
  · have hsame (i : Nat) (hi : i ≤ 1 + pauses events) :
        (Clock.following reading hmono (1 + pauses events)).reading i = reading i := by
      show reading (min i _) + (i - _) = _
      rw [Nat.min_eq_left hi, Nat.sub_eq_zero_of_le hi, Nat.add_zero]
    refine ⟨_, hsame, ?_⟩
    rw [huntil (hsame 0 (Nat.zero_le _)), h.waitFrom_eq fun i hi => hsame (1 + i) (by omega)]
  · simp only [WaitGoes.exists_end_iff, Nat.add_comm 1]
  · refine ⟨h.late_of_holds_eq_false hno, fun holds hmem => ?_⟩
    obtain ⟨e, he, hfinding⟩ := List.mem_filterMap.1 hmem
    cases e with
    | read | paused => cases hfinding
    | checked found =>
      obtain rfl := Option.some.inj hfinding
      by_contra! hyes
      rw [(h.holds_iff).2 (by simpa [hyes] using he)] at hno
      cases hno
  · refine h.checks_eq_nil ?_
    have hstep : reading 0 ≤ reading 1 := hmono 0
    omega
  · refine WaitGoes.exists_end_iff.2 ⟨timeout.total, .inl ?_⟩
    have hmul : timeout.total * 1 ≤ timeout.total * interval.total :=
      Nat.mul_le_mul_left _ hinterval
    rw [Nat.add_comm, hslept]
    omega

/-- A quarter of a second leaves time for three checks that are a tenth of a second apart, and for
no fourth one. -/
theorem three_checks_observed :
    let reading := fun n => (n - 1) * 100000000
    let check := fun k => (decide (k = 9), k + 1)
    (∀ n, reading n ≤ reading (n + 1)) ∧
      Clock.deadline? (reading 0) (.ofMillis 250) = some 250000000 ∧
      ∃ events w, WaitGoes reading 250000000 check id 1 0 events (some w) ∧
        (checks events).length = 3 := by
  have hmono (n : Nat) : (n - 1) * 100000000 ≤ (n + 1 - 1) * 100000000 := by omega
  have hdeadline : Clock.deadline? ((0 - 1) * 100000000) (.ofMillis 250) = some 250000000 := by
    decide
  have hobserves := @waitUntil_observes _ (fun n => (n - 1) * 100000000) hmono _ _ hdeadline
    (.ofMillis 100) (fun k => (decide (k = 9), k + 1)) id 0
  obtain ⟨⟨events, w, h⟩, hcount⟩ := hobserves.counted (by decide) fun k => by
    show (k + 1 - 1) * 100000000 = (0 - 1) * 100000000 + k * 100000000
    omega
  refine ⟨hmono, hdeadline, events, w, h, ?_⟩
  rw [(hcount events w h).1 9 (by decide) (by decide)]
  decide

end RestoreCheck
