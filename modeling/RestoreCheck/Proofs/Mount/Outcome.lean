import Mathlib
import RestoreCheck.Proofs.Mount.Events

/-!
# What comes of mounting

What mounting gives is settled by the first of these that decides it: whether the mountpoint can be
made, whether the command can be launched, how the command ends if it is waited for, and what the
detector answers before the deadline (`Mounter.Outcome`, `Mounter.outcome_mount`).  The detector is
asked only if it comes to that, and then about the mountpoint only and no longer than until its
first yes.  What was expected of the exit code does not matter to a detached mount
(`Mounter.run_mount_of_detached`).
-/

namespace RestoreCheck

open MountEvent

/-- A detached launch tells nothing of how the command ended. -/
theorem Agents.eq_detached_of_launch {τ : Type} {a : Agents τ} {line : CommandLine}
    {files : FileSystem} {agents : τ} {how : LaunchResult} {after : FileSystem × τ}
    (h : a.launch .detached line files agents = (.ok how, after)) : how = .detached := by
  unfold launch at h
  rcases hdetach : a.detach line files agents with ⟨outcome, files', agents'⟩
  rw [hdetach] at h
  cases outcome with
  | error cause => cases h
  | ok u =>
    cases h
    rfl

namespace Mounter

variable {τ : Type} {s : Mounter τ} {p : Path} {scene after : Scene τ} {d : Nat}

/-! ### Waits with a deadline -/

/-- **A wait with a deadline ends well** exactly if some poll before the deadline would find the
state wanted. -/
theorem WaitEnds.eq_ok_iff {mounted : Bool} {result : Except Halt Unit}
    (hdeadline : s.deadline? scene = some d) (h : s.WaitEnds p mounted scene (result, after)) :
    result = .ok () ↔ ∃ k, s.pollTime k scene < d ∧ s.answer p k scene = mounted := by
  cases h with
  | overflow deadline => cases hdeadline.symm.trans deadline
  | changed k deadline earlier early answer =>
    obtain rfl : d = _ := Option.some.inj (hdeadline.symm.trans deadline)
    exact iff_of_true rfl ⟨k, early, answer⟩
  | unchanged k deadline earlier early late =>
    obtain rfl : d = _ := Option.some.inj (hdeadline.symm.trans deadline)
    refine iff_of_false nofun ?_
    rintro ⟨j, hj, answer⟩
    have hjk : j + 1 < k + 1 := (s.agents.clock scene.waited).lt_of_early_of_late hj late
    have hunchanged := earlier j (by omega)
    simp [answer] at hunchanged

theorem WaitEnds.eq_timeout {mounted : Bool} {halt : Halt}
    (hdeadline : s.deadline? scene = some d) (h : s.WaitEnds p mounted scene (.error halt, after)) :
    halt = .fault (.timeout (direction mounted) p s.waits.timeout) := by
  cases h with
  | overflow deadline => cases hdeadline.symm.trans deadline
  | unchanged k deadline earlier early late => rfl

/-! ### The stages of mounting -/

variable {location : Bytes} {requested : Option Path} {options : List Bytes} {wanted : Expectation}

/-- The wait for a mount has the deadline that it would have had before the launch. -/
theorem Launches.deadline?_eq {outcome : Except LaunchFault LaunchResult}
    (h : s.Launches location requested options wanted scene outcome after) :
    s.deadline? after = s.deadline? scene := by
  cases h with
  | intro making launching => rfl

theorem Launches.pollTime_eq {outcome : Except LaunchFault LaunchResult}
    (h : s.Launches location requested options wanted scene outcome after) (k : Nat) :
    s.pollTime k after = s.pollTime k scene := by
  cases h with
  | intro making launching => rfl

/-- **A launch goes in one way only.** -/
theorem Launches.eq {outcome outcome' : Except LaunchFault LaunchResult} {launched launched' : Scene τ}
    (h : s.Launches location requested options wanted scene outcome launched)
    (h' : s.Launches location requested options wanted scene outcome' launched') :
    outcome = outcome' ∧ launched = launched' := by
  cases h with
  | @intro made files agents outcome making launching =>
    cases h' with
    | @intro made' files' agents' outcome' making' launching' =>
      obtain rfl : made = made' := Except.ok.inj (making.symm.trans making')
      cases launching.symm.trans launching'
      exact ⟨rfl, rfl⟩

/-- What mounting ends like is settled by the launch, if there is one. -/
theorem MountEnds.launchEnds {ending : Except Halt HeldMount × Scene τ}
    {outcome : Except LaunchFault LaunchResult} {launched : Scene τ}
    (h : s.MountEnds location requested options wanted scene ending)
    (launch : s.Launches location requested options wanted scene outcome launched) :
    s.LaunchEnds wanted (s.mountpoint requested scene) launched outcome ending := by
  cases h with
  | refused making =>
    cases launch with
    | intro making' launching => cases making.symm.trans making'
  | launched launch' ends =>
    obtain ⟨rfl, rfl⟩ := launch.eq launch'
    exact ends

/-- **A mount that is waited for** is there exactly if some poll before the deadline finds it, and
else it is a timeout. -/
theorem LaunchEnds.of_awaits {launched : Scene τ} {how : LaunchResult}
    {result : Except Halt HeldMount} (hdeadline : s.deadline? launched = some d)
    (h : s.LaunchEnds wanted p launched (.ok how) (result, after)) (awaits : wanted.Awaits how) :
    (∃ k, s.pollTime k launched < d ∧ s.answer p k launched = true ∧ result = .ok ⟨p, .mounted⟩ ∧
      after.history =
        launched.history ++ (rounds p false s.waits.interval k ++ [.asked p true])) ∨
    (∀ k, s.pollTime k launched < d → s.answer p k launched = false) ∧
      result = .error (.fault (.timeout .mount p s.waits.timeout)) ∧
      ∃ k last, after.history = launched.history ++ (rounds p false s.waits.interval k ++ last) ∧
        (last = [] ∨ last = [.removed p]) := by
  cases h with
  | unexpected other =>
    cases awaits with
    | exited hexpected => exact absurd rfl other
  | failed expected =>
    cases awaits with
    | exited hexpected => exact absurd expected hexpected
  | unwaited _ wait => cases wait.eq_timeout hdeadline
  | late _ wait =>
    obtain ⟨k, hk⟩ := wait.exists_history
    have hnone := mt (wait.eq_ok_iff hdeadline).2 nofun
    refine .inr ⟨fun j hj => ?_, by rw [Halt.fault.inj (wait.eq_timeout hdeadline)]; rfl, k, ?_⟩
    · exact Bool.eq_false_iff.2 fun hanswer => hnone ⟨j, hj, hanswer⟩
    · obtain ⟨last, hlast, h⟩ := exists_history_abandoned p _
      exact ⟨last, hlast.trans (by rw [hk]; simp [Except.isOk, Except.toBool]), h⟩
  | mounted _ wait =>
    left
    cases wait with
    | changed k deadline earlier early answer =>
      obtain rfl : d = _ := Option.some.inj (hdeadline.symm.trans deadline)
      refine ⟨k, early, answer, rfl, ?_⟩
      show (s.answered p k launched).history = _
      rw [history_answered, history_pollScene earlier, answer, List.append_assoc]
      rfl

/-- **What is expected of the exit code** does not matter to a detached mount. -/
theorem run_mount_of_detached (s : Mounter τ) (location : Bytes) (requested : Option Path)
    (options : List Bytes) {wanted : Expectation} (hmode : wanted.mode = .detached)
    (expected : ExpectedExit) (scene : Scene τ) :
    (s.mount location requested options { wanted with expected }).run scene =
      (s.mount location requested options wanted).run scene := by
  unfold mount
  cases making : scene.files.makeDirectory (s.mountpoint requested scene) with
  | error cause =>
    rw [run_bind_of_error (s.run_prepare_of_error making),
      run_bind_of_error (s.run_prepare_of_error making)]
  | ok made =>
    rw [run_bind_of_ok (s.run_prepare_of_ok making), run_bind_of_ok (s.run_prepare_of_ok making)]
    dsimp only
    rw [run_bind_of_ok (run_note _ _), run_bind_of_ok (run_note _ _), hmode]
    rcases launching : s.agents.launch .detached
      (s.tool.commandLine location (s.mountpoint requested scene) options) made scene.agents with
      ⟨outcome, files, agents⟩
    rw [run_bind_of_ok (run_act _ launching), run_bind_of_ok (run_act _ launching)]
    cases outcome with
    | error cause => rfl
    | ok how =>
      cases how with
      | detached => rfl
      | exited code => cases Agents.eq_detached_of_launch launching

/-- What was recorded between two scenes, if nobody was asked anything. -/
def Unasked (before after : Scene τ) : Prop :=
  ∃ events, after.history = before.history ++ events ∧ Stand.asked events = []

/-- **What comes of mounting** when `d` is the deadline of a wait that begins in the scene. -/
structure Outcome (s : Mounter τ) (location : Bytes) (requested : Option Path)
    (options : List Bytes) (wanted : Expectation) (scene : Scene τ) (d : Nat)
    (result : Except Halt HeldMount) (after : Scene τ) : Prop where
  /-- A mountpoint that cannot be made ends it before any agent acts. -/
  refused {cause : Fault}
    (making : scene.files.makeDirectory (s.mountpoint requested scene) = .error cause) :
    result = .error (.fault (s.refusal requested scene cause)) ∧ after.agents = scene.agents ∧
      after.history = scene.history
  /-- A launch that fails ends it. -/
  unlaunched {cause : LaunchFault} {launched : Scene τ}
    (launch : s.Launches location requested options wanted scene (.error cause) launched) :
    result = .error (.fault (.launch cause)) ∧ Unasked scene after
  /-- So does a command that ends in another way than expected, or by a signal. -/
  unexpected {code : Option Int} {launched : Scene τ}
    (launch : s.Launches location requested options wanted scene (.ok (.exited code)) launched)
    (other : code ≠ some wanted.expected.code) :
    result = .error (.fault (.unexpectedExit wanted.expected code)) ∧ Unasked scene after
  /-- A command that fails as it should gives a guard that holds nothing. -/
  failed {launched : Scene τ} (expected : wanted.expected = .error)
    (launch : s.Launches location requested options wanted scene
      (.ok (.exited (some wanted.expected.code))) launched) :
    (∃ g, result = .ok g ∧ g.mountpoint = s.mountpoint requested scene ∧ g.isMounted = false) ∧
      Unasked scene after
  /-- Else there is a guard that holds a mount exactly if some poll before the deadline finds it. -/
  mounted_iff {how : LaunchResult} {launched : Scene τ}
    (launch : s.Launches location requested options wanted scene (.ok how) launched)
    (awaits : wanted.Awaits how) :
    (∃ g, result = .ok g ∧ g.mountpoint = s.mountpoint requested scene ∧ g.isMounted = true) ↔
      ∃ k, s.pollTime k scene < d ∧ s.answer (s.mountpoint requested scene) k launched = true
  /-- That poll is the last; and if there is none, the time is up. -/
  awaited {how : LaunchResult} {launched : Scene τ}
    (launch : s.Launches location requested options wanted scene (.ok how) launched)
    (awaits : wanted.Awaits how) :
    let p := s.mountpoint requested scene
    (result = .ok ⟨p, .mounted⟩ ∧ ∃ k, after.history =
      launched.history ++ (rounds p false s.waits.interval k ++ [.asked p true])) ∨
    result = .error (.fault (.timeout .mount p s.waits.timeout)) ∧
      ∃ k last, after.history = launched.history ++ (rounds p false s.waits.interval k ++ last) ∧
        (last = [] ∨ last = [.removed p])
  /-- A detached launch tells no exit code, and none is expected. -/
  detached (mode : wanted.mode = .detached) (expected : ExpectedExit) :
    (s.mount location requested options { wanted with expected }).run scene = (result, after)

theorem unasked_of_launches {outcome : Except LaunchFault LaunchResult} {launched : Scene τ}
    (launch : s.Launches location requested options wanted scene outcome launched) :
    Unasked scene launched :=
  ⟨_, launch.history, rfl⟩

theorem Unasked.abandoned {before : Scene τ} (h : Unasked scene before) (p : Path) :
    Unasked scene (abandoned p before) := by
  obtain ⟨events, hhistory, hasked⟩ := h
  obtain ⟨last, hlast, h⟩ := exists_history_abandoned p before
  refine ⟨events ++ last, by rw [hlast, hhistory, List.append_assoc], ?_⟩
  rw [asked_append, hasked]
  rcases h with rfl | rfl
  · rfl
  · rfl

/-- **The outcome of mounting**, where the clock can show the deadline. -/
theorem outcome_mount (s : Mounter τ) (location : Bytes) (requested : Option Path)
    (options : List Bytes) (wanted : Expectation) {scene : Scene τ} {d : Nat}
    (hdeadline : s.deadline? scene = some d) :
    s.Outcome location requested options wanted scene d
      ((s.mount location requested options wanted).run scene).1
      ((s.mount location requested options wanted).run scene).2 := by
  have hmount := s.mountEnds_mount location requested options wanted scene
  have hdetached (mode : wanted.mode = .detached) (expected : ExpectedExit) :=
    s.run_mount_of_detached location requested options mode expected scene
  generalize (s.mount location requested options wanted).run scene = ending at hmount hdetached ⊢
  -- In each part it is known how the launch went, which leaves few of the ways to end.
  obtain ⟨result, after⟩ := ending
  refine ⟨fun making => ?_, fun launch => ?_, fun launch other => ?_, fun expected launch => ?_,
    fun launch awaits => ?_, fun launch awaits => ?_, hdetached⟩
  · cases hmount with
    | refused making' =>
      obtain rfl := Except.error.inj (making.symm.trans making')
      exact ⟨rfl, rfl, rfl⟩
    | launched launch ends =>
      cases launch with
      | intro making' launching => cases making.symm.trans making'
  · cases hmount.launchEnds launch with
    | unlaunched => exact ⟨rfl, (unasked_of_launches launch).abandoned _⟩
  · cases hmount.launchEnds launch with
    | unexpected _ => exact ⟨rfl, (unasked_of_launches launch).abandoned _⟩
    | failed _ => exact absurd rfl other
    | unwaited awaits _ | late awaits _ | mounted awaits _ =>
      cases awaits with
      | exited _ => exact absurd rfl other
  · cases hmount.launchEnds launch with
    | unexpected other => exact absurd rfl other
    | failed _ => exact ⟨⟨_, rfl, rfl, rfl⟩, unasked_of_launches launch⟩
    | unwaited awaits _ | late awaits _ | mounted awaits _ =>
      cases awaits with
      | exited h => exact absurd expected h
  · rcases (hmount.launchEnds launch).of_awaits (launch.deadline?_eq.trans hdeadline) awaits with
      ⟨k, early, answer, rfl, -⟩ | ⟨hnone, rfl, -⟩
    · exact iff_of_true ⟨_, rfl, rfl, rfl⟩ ⟨k, launch.pollTime_eq k ▸ early, answer⟩
    · refine iff_of_false (by rintro ⟨g, hg, -⟩; cases hg) ?_
      rintro ⟨k, early, answer⟩
      rw [hnone k (launch.pollTime_eq k ▸ early)] at answer
      cases answer
  · rcases (hmount.launchEnds launch).of_awaits (launch.deadline?_eq.trans hdeadline) awaits with
      ⟨k, -, -, rfl, hhistory⟩ | ⟨-, hresult, hhistory⟩
    · exact .inl ⟨rfl, k, hhistory⟩
    · exact .inr ⟨hresult, hhistory⟩

/-- A mounter whose agents do at once all that they are asked to. -/
def obliging : Mounter Unit where
  tool := .ofProgram [0x6D]
  waits := .usual none
  agents :=
    { Stand.agents (fun _ => .ticking 0 0 1 (by decide)) [slash] with
      supervise := fun _ files _ => (.ok (some 0), files, ())
      detach := fun _ files _ => (.ok (), files, ())
      detect := fun _ files _ => (true, files, ())
      unmount := fun _ files _ => (.ok (), files, ()) }

/-- A scene with an empty file system, in which nothing has been done yet. -/
def blank : Scene Unit := ⟨.empty ⟨0, 0⟩, (), 0, 0, []⟩

theorem obliging_mount_isMounted :
    obliging.deadline? blank = some 5000000000 ∧
      ∃ g, ((obliging.mount [0x72] (some [0x70]) [] .default).run blank).1 = .ok g ∧
        g.mountpoint = [0x70] ∧ g.isMounted = true := by
  have hdeadline : obliging.deadline? blank = some 5000000000 := by cbv
  obtain ⟨made, hmade⟩ : ∃ made, blank.files.makeDirectory [0x70] = .ok made := ⟨_, by cbv⟩
  refine ⟨hdeadline, ?_⟩
  have houtcome := obliging.outcome_mount [0x72] (some [0x70]) [] .default hdeadline
  exact (houtcome.mounted_iff (.intro hmade rfl) (.exited (by decide))).2 ⟨0, by decide, rfl⟩

end Mounter

end RestoreCheck
