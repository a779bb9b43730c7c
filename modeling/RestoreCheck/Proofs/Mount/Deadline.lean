import RestoreCheck.Proofs.Mount.Outcome
import RestoreCheck.Proofs.Mount.Teardown

/-!
# Deadlines that no clock can show

A wait computes its deadline before anything else, and a clock shows only moments before
`Clock.limit`.  So a timeout that is long enough ends every wait before its first check, whatever
that would have found (`longest_timeout_unanswered`).  A mount is then left without a guard: its
mountpoint was made, its command was launched, and nobody unmounts what that has mounted.

With a deadline that can be shown, a first check in time that finds the state wanted is all that
happens (`Mounter.DeadlineDecides`, `Mounter.deadlineDecides`).
-/

namespace RestoreCheck

/-- **Whether a clock can show the deadline** of a wait that begins with its first reading. -/
def Clock.Shows (clock : Clock) (timeout : Span) : Prop :=
  clock.reading 0 + timeout.total < Clock.limit

section

variable {clock : Clock} {timeout : Span}

theorem Clock.Shows.deadline?_eq (h : clock.Shows timeout) :
    Clock.deadline? (clock.reading 0) timeout = some (clock.reading 0 + timeout.total) :=
  if_pos h

theorem Clock.deadline?_eq_none (h : ¬clock.Shows timeout) :
    Clock.deadline? (clock.reading 0) timeout = none :=
  if_neg h

variable {σ : Type} {check : σ → Bool × σ} {pause : σ → σ} {state : σ}

theorem waitUntil_of_shows (h : clock.Shows timeout)
    (early : clock.reading 1 < clock.reading 0 + timeout.total) (holds : (check state).1 = true) :
    waitUntil clock timeout check pause state = some ⟨true, (check state).2⟩ := by
  have hcheck : check state = (true, (check state).2) := Prod.ext holds rfl
  unfold waitUntil
  rw [h.deadline?_eq, Option.map_some, waitFrom, dif_pos early, hcheck]

theorem waitUntil_of_not_shows (h : ¬clock.Shows timeout) :
    waitUntil clock timeout check pause state = none := by
  unfold waitUntil
  rw [Clock.deadline?_eq_none h, Option.map_none]

end

namespace Mounter

variable {τ : Type} {s : Mounter τ} {p : Path} {scene : Scene τ}

/-- Whether the deadline of a wait that begins in a scene can be shown. -/
def ShowsDeadline (s : Mounter τ) (scene : Scene τ) : Prop :=
  (s.agents.clock scene.waited).Shows s.waits.timeout

/-- Whether the first poll of a wait that begins in a scene is in time. -/
def PollsInTime (s : Mounter τ) (scene : Scene τ) : Prop :=
  s.pollTime 0 scene < (s.agents.clock scene.waited).reading 0 + s.waits.timeout.total

/-! ### Waiting -/

theorem run_waitFor_of_shows {mounted : Bool} (h : s.ShowsDeadline scene)
    (early : s.PollsInTime scene) (answer : s.answer p 0 scene = mounted) :
    ((s.waitFor p mounted).run scene).1 = .ok () := by
  have hwait := s.waitEnds_waitFor p mounted scene
  rcases hrun : (s.waitFor p mounted).run scene with ⟨result, after⟩
  rw [hrun] at hwait
  exact (hwait.eq_ok_iff h.deadline?_eq).2 ⟨0, early, answer⟩

/-- Without a deadline there is one way for a wait to end. -/
theorem WaitEnds.eq_overflow {mounted : Bool} {ending : Except Halt Unit × Scene τ}
    (h : s.WaitEnds p mounted scene ending) (hnone : s.deadline? scene = none) :
    ending = (.error .overflow, scene) := by
  cases h with
  | overflow deadline => rfl
  | changed k deadline | unchanged k deadline => cases hnone.symm.trans deadline

theorem run_waitFor_of_not_shows {mounted : Bool} (h : ¬s.ShowsDeadline scene) :
    (s.waitFor p mounted).run scene = (.error .overflow, scene) :=
  (s.waitEnds_waitFor p mounted scene).eq_overflow (Clock.deadline?_eq_none h)

/-! ### Mounting -/

variable {location : Bytes} {requested : Option Path} {options : List Bytes} {wanted : Expectation}
  {how : LaunchResult} {launched : Scene τ}

/-- How a mount ends after a launch that leaves something to wait for: as the wait does. -/
theorem LaunchEnds.of_run_waitFor {ending : Except Halt HeldMount × Scene τ}
    (h : s.LaunchEnds wanted p launched (.ok how) ending) (awaits : wanted.Awaits how) :
    ∃ result after, s.WaitEnds p true launched (result, after) ∧
      (result = .ok () → ending.1 = .ok ⟨p, .mounted⟩) ∧
      (result = .error .overflow → ending = (.error .overflow, after)) := by
  cases h with
  | unexpected other =>
    cases awaits with
    | exited hexpected => exact absurd rfl other
  | failed expected =>
    cases awaits with
    | exited hexpected => exact absurd expected hexpected
  | unwaited _ wait => exact ⟨_, _, wait, nofun, fun _ => rfl⟩
  | late _ wait => exact ⟨_, _, wait, nofun, nofun⟩
  | mounted _ wait => exact ⟨_, _, wait, fun _ => rfl, nofun⟩

theorem run_mount_of_shows
    (launch : s.Launches location requested options wanted scene (.ok how) launched)
    (awaits : wanted.Awaits how) (h : s.ShowsDeadline scene) (early : s.PollsInTime scene)
    (answer : s.answer (s.mountpoint requested scene) 0 launched = true) :
    ((s.mount location requested options wanted).run scene).1 =
      .ok ⟨s.mountpoint requested scene, .mounted⟩ := by
  have hmount := s.mountEnds_mount location requested options wanted scene
  obtain ⟨result, after, hwait, hok, -⟩ := (hmount.launchEnds launch).of_run_waitFor awaits
  refine hok ((hwait.eq_ok_iff ((launch.deadline?_eq).trans h.deadline?_eq)).2 ⟨0, ?_, answer⟩)
  rw [launch.pollTime_eq]
  exact early

theorem run_mount_of_not_shows
    (launch : s.Launches location requested options wanted scene (.ok how) launched)
    (awaits : wanted.Awaits how) (h : ¬s.ShowsDeadline scene) :
    (s.mount location requested options wanted).run scene = (.error .overflow, launched) := by
  have hnone : s.deadline? launched = none :=
    launch.deadline?_eq.trans (Clock.deadline?_eq_none h)
  have hmount := s.mountEnds_mount location requested options wanted scene
  obtain ⟨result, after, hwait, -, hoverflow⟩ := (hmount.launchEnds launch).of_run_waitFor awaits
  obtain ⟨rfl, rfl⟩ := Prod.mk.inj (hwait.eq_overflow hnone)
  exact hoverflow rfl

/-- **What a deadline decides** where the first check is made in time and finds the state wanted. -/
structure DeadlineDecides (s : Mounter τ) : Prop where
  /-- Polling ends at once with a yes if the deadline can be shown, -/
  polled : ∀ {σ : Type} (clock : Clock) (timeout : Span) (check : σ → Bool × σ) (pause : σ → σ)
    (state : σ), clock.reading 1 < clock.reading 0 + timeout.total → (check state).1 = true →
    clock.Shows timeout →
      waitUntil clock timeout check pause state = some ⟨true, (check state).2⟩
  /-- and has no answer if not, whatever a check would say. -/
  unpolled : ∀ {σ : Type} (clock : Clock) (timeout : Span) (check : σ → Bool × σ) (pause : σ → σ)
    (state : σ), ¬clock.Shows timeout → waitUntil clock timeout check pause state = none
  /-- So does waiting for a state of the mountpoint. -/
  waited : ∀ p mounted (scene : Scene τ), s.PollsInTime scene → s.answer p 0 scene = mounted →
    s.ShowsDeadline scene → ((s.waitFor p mounted).run scene).1 = .ok ()
  unwaited : ∀ p mounted (scene : Scene τ), ¬s.ShowsDeadline scene →
    (s.waitFor p mounted).run scene = (.error .overflow, scene)
  /-- A command that mounts at once gives a guard, and however that ends it has its mountpoint
  unmounted, -/
  mounted : ∀ location requested options wanted (scene : Scene τ) how launched,
    s.Launches location requested options wanted scene (.ok how) launched → wanted.Awaits how →
    s.PollsInTime scene → s.answer (s.mountpoint requested scene) 0 launched = true →
    s.ShowsDeadline scene →
      ∃ g, ((s.mount location requested options wanted).run scene).1 = .ok g ∧
        g.mountpoint = s.mountpoint requested scene ∧
        ∀ (later after : Scene τ) result,
          (s.finish g).run later = (result, after) ∨ (s.drop g).run later = (result, after) →
            ∃ events, after.history = later.history ++ events ∧
              Stand.unmounted events = [g.mountpoint]
  /-- but there is no guard if the deadline cannot be shown: all is as the launch has left it. -/
  unmounted : ∀ location requested options wanted (scene : Scene τ) how launched,
    s.Launches location requested options wanted scene (.ok how) launched → wanted.Awaits how →
    ¬s.ShowsDeadline scene →
      (s.mount location requested options wanted).run scene = (.error .overflow, launched) ∧
        launched.history = scene.history ++ [.made (s.mountpoint requested scene),
          .launched (s.tool.commandLine location (s.mountpoint requested scene) options)]

/-- **Waiting ends at once, or not at all**, by its deadline. -/
theorem deadlineDecides (s : Mounter τ) : s.DeadlineDecides where
  polled _ _ _ _ _ early holds shows := waitUntil_of_shows shows early holds
  unpolled _ _ _ _ _ hidden := waitUntil_of_not_shows hidden
  waited _ _ _ early answer shows := run_waitFor_of_shows shows early answer
  unwaited _ _ _ hidden := run_waitFor_of_not_shows hidden
  mounted location requested options wanted scene how launched launch awaits early answer shows := by
    refine ⟨_, run_mount_of_shows launch awaits shows early answer, rfl, ?_⟩
    intro later after result hend
    obtain ⟨events, hhistory, -, hunmounted⟩ := exists_history_of_end hend
    exact ⟨events, hhistory, hunmounted⟩
  unmounted location requested options wanted scene how launched launch awaits hidden :=
    ⟨run_mount_of_not_shows launch awaits hidden, launch.history⟩

/-- With the usual timeout there is a guard, and finishing it unmounts. -/
theorem obliging_mount_guarded : obliging.ShowsDeadline blank ∧ obliging.PollsInTime blank ∧
    ∃ g, ((obliging.mount [0x72] (some [0x70]) [] .default).run blank).1 = .ok g ∧
      ∃ events, ((obliging.finish g).run blank).2.history = blank.history ++ events ∧
        Stand.unmounted events = [[0x70]] := by
  have shows : obliging.ShowsDeadline blank := by
    show 0 + 5000000000 < Clock.limit
    decide
  have early : obliging.PollsInTime blank := by
    show 0 + 0 + 0 * 1 < 0 + 5000000000
    decide
  obtain ⟨made, hmade⟩ : ∃ made, blank.files.makeDirectory [0x70] = .ok made := ⟨_, by cbv⟩
  obtain ⟨g, hg, hmountpoint, hend⟩ := obliging.deadlineDecides.mounted [0x72] (some [0x70]) []
    .default blank _ _ (.intro hmade rfl) (.exited (by decide)) early rfl shows
  obtain ⟨events, hhistory, hunmounted⟩ := hend blank _ _ (.inl rfl)
  exact ⟨shows, early, g, hg, events, hhistory, hunmounted.trans (by rw [hmountpoint]; rfl)⟩

end Mounter

/-- The longest span. -/
def Span.longest : Span := ⟨18446744073709551615, 999999999, by decide⟩

/-- A mounter whose agents do at once all that they are asked to, and that would wait for ever. -/
def Mounter.patient : Mounter Unit :=
  { obliging with waits := { obliging.waits with timeout := .longest } }

open Mounter in
/-- **With the longest timeout nothing is ever seen**: not a condition that holds, and not a mount
that is there at once, which stays without a guard. -/
theorem longest_timeout_unanswered :
    0 < Span.longest.total ∧
      waitUntil (.ticking 0 0 1 (by decide)) .longest (fun n => (true, n + 1)) id 0 = none ∧
      patient.PollsInTime blank ∧ patient.answer [0x70] 0 blank = true ∧
      (patient.waitFor [0x70] true).run blank = (.error .overflow, blank) ∧
      ((patient.mount [0x72] (some [0x70]) [] .default).run blank).1 = .error .overflow := by
  have hidden : ¬(Clock.ticking 0 0 1 (by decide)).Shows Span.longest := by
    show ¬0 + Span.longest.total < Clock.limit
    decide
  have hpatient : ¬patient.ShowsDeadline blank := hidden
  obtain ⟨made, hmade⟩ : ∃ made, blank.files.makeDirectory [0x70] = .ok made := ⟨_, by cbv⟩
  refine ⟨by decide, waitUntil_of_not_shows hidden, ?_, rfl, run_waitFor_of_not_shows hpatient, ?_⟩
  · show 0 + 0 + 0 * 1 < 0 + Span.longest.total
    decide
  · rw [run_mount_of_not_shows (s := patient) (.intro hmade rfl) (.exited (by decide)) hpatient]

end RestoreCheck
